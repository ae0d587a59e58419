import MultiPhyTsch.Tsch.AdaptiveTimesync
import MultiPhyTsch.Tsch.Queue

/-! `tsch_tx_slot` taken from its first to its last statement, with the decisions of
`tsch_security_secure_frame` and `tsch_packet_parse_eack`. What the radio and the framer
return in the slot is the input. Where CCA is compiled in, `cca_status` starts at 1 and is
only or-ed into, so the collision branch is never taken and is left out. -/

namespace MultiPhyTsch

variable (conf : TschConf)

inductive RadioTx where
  | ok
  | err
  | collision
  | noack
deriving DecidableEq, Repr, Inhabited

structure OutgoingFrame where
  parsed : Int
  securityEnabled : Bool
  keyIndex : UInt8
  securityLevel : UInt8
deriving DecidableEq, Repr, Inhabited

/-- What the framer and the security layer find in the bytes read after a transmission. The
drivers return a length or 0 from `read`. -/
structure ReceivedAck where
  len : Nat
  parsed : Int
  frameType : UInt8
  frameVersion : UInt8
  sequenceNumberSuppression : UInt8
  seq : UInt8
  destPanidOk : Bool
  dest : Option LinkAddr
  ieListPresent : Bool
  micLen : Nat
  ieLen : Option UInt8
  authentic : Bool
  ieTimeCorrection : Int16
deriving DecidableEq, Repr, Inhabited

structure TxInput where
  ebUpdate : Option (List UInt8)
  frame : OutgoingFrame
  prepare : UInt8 → Int
  transmit : UInt8 → RadioTx
  ack : ReceivedAck
  lowerNodeId : Bool
  random : UInt16
deriving Inhabited

def tschSecurityMicLen (frame : OutgoingFrame) : UInt8 :=
  if frame.securityEnabled then 2 <<< (frame.securityLevel &&& 3) else 0

def nKeys : UInt8 := 2

def tschSecuritySecureFrame (frame : OutgoingFrame) (hdrlen datalen : Int) : UInt8 :=
  if hdrlen < 0 ∨ datalen < 0 then 0
  else if frame.parsed < 3 then 0
  else if !frame.securityEnabled then 0
  else if frame.keyIndex = 0 ∨ frame.keyIndex > nKeys then 0
  else tschSecurityMicLen frame

/-- The frame asks for security and `tsch_security_secure_frame` returns without applying it. -/
def securingFails (frame : OutgoingFrame) (hdrlen datalen : Int) : Bool :=
  hdrlen < 0 || datalen < 0 || frame.parsed < 3 ||
    (frame.securityEnabled && (frame.keyIndex == 0 || frame.keyIndex > nKeys))

def tschPacketParseEack (seqno : UInt8) (ack : ReceivedAck) : UInt8 :=
  if ack.parsed < 3 then 0
  else
    let currLen := UInt8.ofNat ack.parsed.toNat
    if seqno ≠ ack.seq then 0
    else if !ack.destPanidOk then 0
    else if !ack.dest.any fun dest => dest = conf.linkaddrNodeAddr ∨ dest = linkaddrNull then 0
    else if ack.ieListPresent then
      if conf.llsecEnabled && ack.len < currLen.toNat + ack.micLen then 0
      else
        match ack.ieLen with
        | none => 0
        | some ieLen => currLen + ieLen
    else currLen

/-- The frame read is an Enhanced ACK with a sequence number. `tsch_packet_parse_eack` does not ask;
without a sequence number `frame->seq` is what the stack held. -/
def ReceivedAck.isEnhancedAck (ack : ReceivedAck) : Bool :=
  ack.frameType = 2 && ack.frameVersion = 2 && ack.sequenceNumberSuppression = 0

def ackAccepted (seqno : UInt8) (ack : ReceivedAck) : Bool :=
  0 < ack.len && tschPacketParseEack conf seqno ack != 0 && (!conf.llsecEnabled || ack.authentic)

def tschPacketSetFramePending (data : List UInt8) : List UInt8 :=
  match data with
  | first :: rest => (first ||| 16) :: rest
  | [] => []

def burstLinkRequested (n : Nat) (node : Node) : Bool × Node :=
  if !(node.neighbor n).isBroadcast &&
      node.slot.tschCurrentBurstCount + 1 < conf.burstMaxLen then
    let (count, node) := tschQueuePacketCount conf (node.neighbor n).addr node
    (1 < count, node)
  else (false, node)

def txFrame (n : Nat) (requested : Bool) (input : TxInput) (data : List UInt8) (node : Node) :
    Bool × List UInt8 :=
  let data := if requested then tschPacketSetFramePending data else data
  if node.queue.nEb = some n then
    match input.ebUpdate with
    | some updated => (true, updated)
    | none => (false, data)
  else (true, data)

def txPacketLen (packet : TschPacket) (data : List UInt8) (input : TxInput) (mac : Mac) : UInt8 :=
  let packetLen := UInt8.ofNat data.length
  if conf.llsecEnabled && mac.tschIsPanSecured then
    packetLen + tschSecuritySecureFrame input.frame packet.headerLen.toNat
      ((packetLen.toNat : Int) - packet.headerLen.toNat)
  else packetLen

def txUnsecured (packet : TschPacket) (data : List UInt8) (input : TxInput) (mac : Mac) : Bool :=
  conf.llsecEnabled && mac.tschIsPanSecured &&
    securingFails input.frame packet.headerLen.toNat
      (((UInt8.ofNat data.length).toNat : Int) - packet.headerLen.toNat)

/-- `mac_tx_status` after the attempt; it is written on the prepared path only. -/
def txStatus (previous : MacTxStatus) (ready isBroadcast : Bool) (seqno packetLen : UInt8)
    (input : TxInput) : MacTxStatus :=
  if ready && input.prepare packetLen = 0 then
    if input.transmit packetLen = .ok then
      if isBroadcast then .ok
      else if ackAccepted conf seqno input.ack then .ok
      else .noack
    else .err
  else previous

def txSent (ready isBroadcast : Bool) (seqno packetLen : UInt8) (input : TxInput) : Bool :=
  ready && input.prepare packetLen = 0 && input.transmit packetLen = .ok &&
    (isBroadcast || ackAccepted conf seqno input.ack)

def storeCorrection (n : Option Nat) (correction : Int32) (node : Node) : Node :=
  { node with
    slot := { node.slot with
      driftCorrection := correction
      isDriftCorrectionUsed := true
      lastSyncAsn := node.mac.tschCurrentAsn
      corrections := node.slot.corrections ++ [correction] }
    timesync := tschTimesyncUpdate conf n
      (tschAsnDiff node.mac.tschCurrentAsn node.slot.lastSyncAsn).toUInt16 correction
      node.timesync }

def eackCorrection (ack : ReceivedAck) : Int32 :=
  let eackTimeCorrection := usToRtimerticks ack.ieTimeCorrection.toInt32
  if eackTimeCorrection > conf.syncIeBound then conf.syncIeBound
  else if eackTimeCorrection < -conf.syncIeBound then -conf.syncIeBound
  else eackTimeCorrection

def targetIsTimeSource (n : Nat) (input : TxInput) (node : Node) : Bool :=
  if conf.syncWithLowerNodeId then input.lowerNodeId else (node.neighbor n).isTimeSource

def txAcknowledged (n : Nat) (link : TschLink) (requested : Bool) (input : TxInput) (node : Node) :
    Node :=
  let node :=
    if targetIsTimeSource conf n input node && link.has linkOptionTimeKeeping then
      storeCorrection conf (some n) (eackCorrection conf input.ack) node
    else node
  if requested then { node with slot := { node.slot with burstLinkScheduled := true } } else node

structure TxAttempt where
  status : MacTxStatus
  sent : Bool
  node : Node

def txAttempt (n p : Nat) (link : TschLink) (input : TxInput) (node : Node) : TxAttempt :=
  match (node.packet p).qb with
  | none => ⟨.errFatal, false, node⟩
  | some qb =>
    let isBroadcast := (node.neighbor n).isBroadcast
    let (requested, node) := burstLinkRequested conf n node
    let (ready, data) := txFrame n requested input qb.data node
    let seqno := qb.data.getD 2 0
    let packetLen := txPacketLen conf (node.packet p) data input node.mac
    let unsecured := txUnsecured conf (node.packet p) data input node.mac
    let status := txStatus conf node.slot.macTxStatus ready isBroadcast seqno packetLen input
    let sent := txSent conf ready isBroadcast seqno packetLen input
    let node := node.writePacket p fun packet => { packet with qb := some { qb with data := data } }
    ⟨status, sent && !unsecured && (isBroadcast || input.ack.isEnhancedAck),
      if sent && !isBroadcast then txAcknowledged conf n link requested input node else node⟩

def storeStatus (p : Nat) (attempt : TxAttempt) : Node :=
  let node := { attempt.node with slot := { attempt.node.slot with macTxStatus := attempt.status } }
  (node.writePacket p fun packet =>
    { packet with transmissions := packet.transmissions + 1, ret := attempt.status }).record
      [.reported (node.packet p).uid attempt.status attempt.sent]

def pushDequeued (dequeuedIndex : UInt8) (p : Nat) (node : Node) : Node :=
  Node.record { node with queue := { node.queue with
    dequeuedArray := Function.update node.queue.dequeuedArray dequeuedIndex.toNat (some p)
    dequeuedRingbuf := node.queue.dequeuedRingbuf.ringbufindexPut.2 } }
      [.dequeued (node.packet p).uid]

def txReport (dequeuedIndex : UInt8) (n p : Nat) (link : TschLink) (random : UInt16)
    (attempt : TxAttempt) : Node :=
  match tschQueuePacketSent conf n p link attempt.status random (storeStatus p attempt) with
  | (true, node) => node
  | (false, node) => pushDequeued dequeuedIndex p node

def tschTxSlot (n p : Nat) (link : TschLink) (input : TxInput) (node : Node) : Node :=
  match node.queue.dequeuedRingbuf.ringbufindexPeekPut with
  | some dequeuedIndex =>
    txReport conf dequeuedIndex n p link input.random (txAttempt conf n p link input node)
  | none => node

end MultiPhyTsch
