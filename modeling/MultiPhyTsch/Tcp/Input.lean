import MultiPhyTsch.Tcp.Conn

/-! A segment for a connection (`uip_process` in `uip6.c`, from the label `found` on): what becomes of
the connection, what the application is called with, and what is answered. -/

namespace MultiPhyTsch.Tcp

/-- What a call of the application leaves in `uip_flags`, `uip_slen` and the state flags of the
connection (`uip_stop`, `uip_restart`). -/
structure AppResult where
  uipFlags : UInt8
  uipSlen : UInt16
  tcpstateflags : UInt8

structure TcpConf where
  uipActiveOpen : Bool
  uipTcpMss : UInt16
  /-- `UIP_APPCALL`, for a connection with `uip_flags` and `uip_len` -/
  uipAppcall : UipConn → UInt8 → UInt16 → AppResult

structure AppCall where
  uipFlags : UInt8
  uipLen : UInt16
deriving DecidableEq, Repr

/-- The labels that end the processing: a segment with its flags and `uip_len` is for
`tcp_send_nodata` and `tcp_send_noopts`. -/
inductive TcpReply where
  | drop
  | reset
  | synack
  | syn
  | send (flags : UInt8) (uipLen : UInt16)
deriving DecidableEq, Repr

structure TcpOutcome where
  conn : UipConn
  reply : TcpReply
  calls : List AppCall
deriving DecidableEq, Repr

def tcpSendAck : TcpReply := .send tcpAck uipIptcphLen

/-- The `appsend` label, with the flags and the length that the application has left. -/
def appsend (conn : UipConn) (uipFlags : UInt8) (uipSlen : UInt16) : UipConn × TcpReply :=
  if uipFlags &&& uipAbort ≠ 0 then
    ({ conn with tcpstateflags := uipClosed }, .send (tcpRst ||| tcpAck) uipIptcphLen)
  else if uipFlags &&& uipClose ≠ 0 then
    ({ conn with len := 1, tcpstateflags := uipFinWait1, nrtx := 0 },
      .send (tcpFin ||| tcpAck) uipIptcphLen)
  else
    let transit := if uipSlen > 0 ∧ uipFlags &&& uipAckdata ≠ 0 then 0 else conn.len
    let limited := if uipSlen > conn.mss then conn.mss else uipSlen
    let slen := if uipSlen > 0 then (if transit = 0 then limited else transit) else uipSlen
    let len := if uipSlen > 0 ∧ transit = 0 then limited else transit
    let conn := { conn with len := len, nrtx := 0 }
    if slen > 0 ∧ len > 0 then (conn, .send (tcpAck ||| tcpPsh) (len + uipIptcphLen))
    else if uipFlags &&& uipNewdata ≠ 0 then (conn, .send tcpAck uipIptcphLen)
    else (conn, .drop)

variable (conf : TcpConf) (conn : UipConn) (segment : Segment)

def appcallAndSend (uipFlags : UInt8) (uipLen : UInt16) : TcpOutcome :=
  let app := conf.uipAppcall conn uipFlags uipLen
  let sent := appsend { conn with tcpstateflags := app.tcpstateflags } app.uipFlags app.uipSlen
  ⟨sent.1, sent.2, [⟨uipFlags, uipLen⟩]⟩

def appcall (uipFlags : UInt8) (uipLen : UInt16) (reply : TcpReply) : TcpOutcome :=
  let app := conf.uipAppcall conn uipFlags uipLen
  ⟨{ conn with tcpstateflags := app.tcpstateflags }, reply, [⟨uipFlags, uipLen⟩]⟩

def seqUnchecked : Bool :=
  conn.state = uipSynSent && segment.ctl (tcpSyn ||| tcpAck) ||
    conn.state = uipSynRcvd && segment.ctl tcpSyn

def outOfSequence : Bool :=
  (segment.dataLen > 0 || segment.has (tcpSyn ||| tcpFin)) && segment.seqno ≠ conn.rcvNxt

def answerOutOfSequence : TcpReply :=
  if segment.has tcpSyn then
    if conn.state = uipSynRcvd then .synack
    else if conn.state = uipSynSent ∧ conf.uipActiveOpen then .syn
    else tcpSendAck
  else tcpSendAck

def acksData : Bool :=
  segment.has tcpAck && conn.outstanding && segment.ackno = uipAdd32 conn.sndNxt conn.len

def rttEstimate : UipConn :=
  let m := conn.rto - conn.timer
  let m := m - (conn.sa >>> 3)
  let sa := conn.sa + m
  let m := if m ≥ 128 then 0 - m else m
  let m := m - (conn.sv >>> 2)
  let sv := conn.sv + m
  { conn with sa := sa, sv := sv, rto := (sa >>> 3) + sv }

def takeAck : UipConn :=
  if acksData conn segment then
    let conn := { conn with sndNxt := uipAdd32 conn.sndNxt conn.len }
    let conn := if conn.nrtx = 0 then rttEstimate conn else conn
    { conn with timer := conn.rto, len := 0 }
  else conn

def inSynRcvd (acked : Bool) : TcpOutcome :=
  if acked then
    let conn := { conn with tcpstateflags := uipEstablished, len := 0 }
    if segment.dataLen > 0 then
      appcallAndSend conf (conn.addRcvNxt segment.dataLen) (uipConnected ||| uipNewdata)
        segment.dataLen
    else appcallAndSend conf conn uipConnected segment.dataLen
  else if segment.ctl tcpSyn then ⟨conn, .synack, []⟩
  else ⟨conn, .drop, []⟩

def takeMss : UipConn :=
  let option := if segment.tcpoffset &&& 0xf0 > 0x50 then segment.mssOption 41 0 else none
  let mss := option.map fun mss => if mss > conf.uipTcpMss then conf.uipTcpMss else mss
  { conn with initialmss := mss.getD conn.initialmss, mss := mss.getD conn.mss }

def inSynSent (acked : Bool) : TcpOutcome :=
  if acked ∧ segment.ctl (tcpSyn ||| tcpAck) then
    let conn := takeMss conf conn segment
    let conn := { conn with tcpstateflags := uipEstablished, rcvNxt := segment.seqno }
    let conn := conn.addRcvNxt 1
    appcallAndSend conf { conn with len := 0 } (uipConnected ||| uipNewdata) 0
  else
    let outcome := appcall conf conn uipAbort segment.dataLen .reset
    { outcome with conn := { outcome.conn with tcpstateflags := uipClosed } }

def takeFin (uipFlags : UInt8) : TcpOutcome :=
  let len := segment.dataLen
  let conn := conn.addRcvNxt (1 + len)
  let uipFlags := uipFlags ||| uipClose
  let uipFlags := if len > 0 then uipFlags ||| uipNewdata else uipFlags
  let outcome := appcall conf conn uipFlags len (.send (tcpFin ||| tcpAck) uipIptcphLen)
  { outcome with
    conn := { outcome.conn with len := 1, tcpstateflags := uipLastAck, nrtx := 0 } }

/-- What is left of the data when the urgent data is skipped; `UIP_URGDATA` is zero. -/
def Segment.textLen : UInt16 :=
  if segment.has tcpUrg then segment.dataLen - segment.urgp else segment.dataLen

def takeText (uipFlags : UInt8) : TcpOutcome :=
  let len := segment.textLen
  let taken : Bool := len > 0 && !conn.stopped
  let conn := if taken then conn.addRcvNxt len else conn
  let uipFlags := if taken then uipFlags ||| uipNewdata else uipFlags
  let window := if segment.wnd > conn.initialmss ∨ segment.wnd = 0 then conn.initialmss
    else segment.wnd
  let conn := { conn with mss := window }
  if uipFlags &&& (uipNewdata ||| uipAckdata) ≠ 0 then appcallAndSend conf conn uipFlags len
  else ⟨conn, .drop, []⟩

def inEstablished (uipFlags : UInt8) : TcpOutcome :=
  if segment.has tcpFin ∧ conn.stopped = false then
    if conn.outstanding then ⟨conn, .drop, []⟩ else takeFin conf conn segment uipFlags
  else takeText conf conn segment uipFlags

def inLastAck (acked : Bool) : TcpOutcome :=
  if acked then appcall conf { conn with tcpstateflags := uipClosed } uipClose segment.dataLen .drop
  else ⟨conn, .drop, []⟩

def skipText : UipConn :=
  if segment.dataLen > 0 then conn.addRcvNxt segment.dataLen else conn

def inFinWait1 (acked : Bool) : TcpOutcome :=
  let conn := skipText conn segment
  if segment.has tcpFin then
    let conn := if acked then { conn with tcpstateflags := uipTimeWait, timer := 0, len := 0 }
      else { conn with tcpstateflags := uipClosing }
    appcall conf (conn.addRcvNxt 1) uipClose segment.dataLen tcpSendAck
  else if acked then ⟨{ conn with tcpstateflags := uipFinWait2, len := 0 }, .drop, []⟩
  else ⟨conn, if segment.dataLen > 0 then tcpSendAck else .drop, []⟩

def inFinWait2 : TcpOutcome :=
  let conn := skipText conn segment
  if segment.has tcpFin then
    let conn := { conn with tcpstateflags := uipTimeWait, timer := 0 }
    appcall conf (conn.addRcvNxt 1) uipClose segment.dataLen tcpSendAck
  else ⟨conn, if segment.dataLen > 0 then tcpSendAck else .drop, []⟩

def inClosing (acked : Bool) : TcpOutcome :=
  ⟨if acked then { conn with tcpstateflags := uipTimeWait, timer := 0 } else conn, .drop, []⟩

def byState (acked : Bool) : TcpOutcome :=
  let uipFlags := if acked then uipAckdata else 0
  if conn.state = uipSynRcvd then inSynRcvd conf conn segment acked
  else if conn.state = uipSynSent ∧ conf.uipActiveOpen then inSynSent conf conn segment acked
  else if conn.state = uipEstablished then inEstablished conf conn segment uipFlags
  else if conn.state = uipLastAck then inLastAck conf conn segment acked
  else if conn.state = uipFinWait1 then inFinWait1 conf conn segment acked
  else if conn.state = uipFinWait2 then inFinWait2 conf conn segment
  else if conn.state = uipTimeWait then ⟨conn, tcpSendAck, []⟩
  else if conn.state = uipClosing then inClosing conn acked
  else ⟨conn, .drop, []⟩

def tcpFound : TcpOutcome :=
  if segment.has tcpRst then
    appcall conf { conn with tcpstateflags := uipClosed } uipAbort segment.uipLen .drop
  else if seqUnchecked conn segment = false ∧ outOfSequence conn segment then
    ⟨conn, answerOutOfSequence conf conn segment, []⟩
  else byState conf (takeAck conn segment) segment (acksData conn segment)

end MultiPhyTsch.Tcp
