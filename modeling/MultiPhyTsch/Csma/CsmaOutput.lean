import MultiPhyTsch.Lib.Memb
import MultiPhyTsch.Lib.RetryLine
import MultiPhyTsch.Lib.Run
import MultiPhyTsch.Tsch.Types

/-! The output queues of the CSMA MAC (`csma-output.c`) over the packet copies of `queuebuf.c`,
all of which are in RAM. The framer, the radio and `random_rand` are arguments. The log stands for
the log lines of the source; the number of a request is there for the log alone. -/

namespace MultiPhyTsch.Csma

open RetryLine (Entry)

structure CsmaConf where
  minBe : Nat
  maxBe : Nat
  maxBackoff : Nat
  maxFrameRetries : Nat
  maxNeighborQueues : Nat
  maxPacketPerNeighbor : Nat
  queuebufNum : Nat
  clockSecond : Nat
  cooja : Bool
  linkaddrNodeAddr : LinkAddr
  maxBackoff_lt : maxBackoff < 255
  maxFrameRetries_lt : maxFrameRetries < 255
  maxPacketPerNeighbor_pos : 0 < maxPacketPerNeighbor

structure Packetbuf where
  data : List UInt8
  macSeqno : UInt16
  macAck : UInt16
  frameType : UInt16
  maxMacTransmissions : UInt16
  sender : LinkAddr
  receiver : LinkAddr
deriving DecidableEq, Repr

instance : Inhabited Packetbuf := ⟨⟨[], 0, 0, 0, 0, linkaddrNull, linkaddrNull⟩⟩

def packetbufHoldsBroadcast (packetbuf : Packetbuf) : Bool := packetbuf.receiver == linkaddrNull

structure QbufMetadata where
  sent : Option Nat
  cptr : Nat
  maxTransmissions : UInt8
  number : Nat
deriving DecidableEq, Repr, Inhabited

structure NeighborQueue where
  addr : LinkAddr
  transmitTimer : Option Nat
  transmissions : UInt8
  collisions : UInt8
  packetQueue : List Nat
deriving DecidableEq, Repr

instance : Inhabited NeighborQueue := ⟨⟨linkaddrNull, none, 0, 0, []⟩⟩

structure PacketQueue where
  buf : Nat
  ptr : Option Nat
deriving DecidableEq, Repr, Inhabited

structure Request where
  number : Nat
  addr : LinkAddr
  sent : Option Nat
  cptr : Nat
  maxTransmissions : UInt8
deriving DecidableEq, Repr

structure SentCall where
  sent : Nat
  ptr : Nat
  status : MacTxStatus
  numTx : Nat
deriving DecidableEq, Repr

structure Mac where
  neighborMemb : Memb NeighborQueue
  packetMemb : Memb PacketQueue
  metadataMemb : Memb QbufMetadata
  bufmem : Memb Nat
  buframmem : Memb Packetbuf
  neighborList : List Nat
  initialized : Bool
  seqno : UInt8
  packetbuf : Packetbuf
  requests : Nat
  log : List (Entry Request MacTxStatus)
  calls : List SentCall

variable (mac : Mac)

def Mac.neighbor (n : Nat) : NeighborQueue := mac.neighborMemb.mem n

def Mac.packet (q : Nat) : PacketQueue := mac.packetMemb.mem q

def Mac.metadata (q : Nat) : QbufMetadata :=
  ((mac.packet q).ptr.map mac.metadataMemb.mem).getD default

def Mac.queuebuf (buf : Nat) : Packetbuf := mac.buframmem.mem (mac.bufmem.mem buf)

def Mac.writeNeighbor (n : Nat) (change : NeighborQueue → NeighborQueue) : Mac :=
  { mac with neighborMemb := mac.neighborMemb.write n change }

def Mac.request (n q : Nat) : Request :=
  ⟨(mac.metadata q).number, (mac.neighbor n).addr, (mac.metadata q).sent, (mac.metadata q).cptr,
    (mac.metadata q).maxTransmissions⟩

def queuebufNewFromPacketbuf : Option Nat × Mac :=
  match mac.bufmem.membAlloc with
  | (none, bufmem) => (none, { mac with bufmem := bufmem })
  | (some buf, bufmem) =>
    match mac.buframmem.membAlloc with
    | (none, buframmem) =>
      (none, { mac with bufmem := bufmem.membFree buf, buframmem := buframmem })
    | (some ram, buframmem) =>
      (some buf, { mac with
        bufmem := bufmem.write buf fun _ => ram
        buframmem := buframmem.write ram fun _ => mac.packetbuf })

def queuebufFree (buf : Nat) (mac : Mac) : Mac :=
  if buf < mac.bufmem.num then
    { mac with
      buframmem := mac.buframmem.membFree (mac.bufmem.mem buf)
      bufmem := mac.bufmem.membFree buf }
  else mac

def queuebufToPacketbuf (buf : Nat) (mac : Mac) : Mac :=
  { mac with packetbuf := mac.queuebuf buf }

def queuebufUpdateAttrFromPacketbuf (buf : Nat) (mac : Mac) : Mac :=
  { mac with
    buframmem := mac.buframmem.write (mac.bufmem.mem buf) fun stored =>
      { mac.packetbuf with data := stored.data } }

inductive RadioTx where
  | ok
  | collision
  | error
deriving DecidableEq, Repr

/-- The answers of the framer and the radio in one `send_one_packet`: the frame made, and what the
radio reports before the transmission, of it, and after the waits for an acknowledgement. -/
structure RadioAnswers where
  create : Option (List UInt8)
  receivingBefore : Bool
  pendingBefore : Bool
  transmit : RadioTx
  receivingAfter : Bool
  pendingAfter : Bool
  channelClear : Bool
  pendingAck : Bool
  ackbuf : List UInt8
deriving DecidableEq, Repr

def csmaAckLen : Nat := 3

def frame802154Dataframe : UInt16 := 1

def sendStatus (radio : RadioAnswers) (isBroadcast : Bool) : MacTxStatus :=
  match radio.create with
  | none => .errFatal
  | some frame =>
    if radio.receivingBefore || (!isBroadcast && radio.pendingBefore) then .collision
    else
      match radio.transmit with
      | .ok =>
        if isBroadcast then .ok
        else if radio.receivingAfter || radio.pendingAfter || !radio.channelClear then
          if radio.pendingAck then
            if radio.ackbuf.length = csmaAckLen ∧ radio.ackbuf.getD 2 0 = frame.getD 2 0 then .ok
            else .collision
          else .noack
        else .noack
      | .collision => .collision
      | .error => .err

def macCallSentCallback (sent : Option Nat) (ptr : Nat) (status : MacTxStatus) (numTx : Nat)
    (mac : Mac) : Mac :=
  match sent with
  | some sent => { mac with calls := mac.calls ++ [⟨sent, ptr, status, numTx⟩] }
  | none => mac

def neighborQueueFromAddr (addr : LinkAddr) (mac : Mac) : Option Nat :=
  mac.neighborList.find? fun n => (mac.neighbor n).addr = addr

variable (conf : CsmaConf)

def backoffPeriod : Nat :=
  if conf.cooja then max (20 * conf.clockSecond / 3125) 1 else max (conf.clockSecond / 3125) 1

def transmissionDelay (collisions : UInt8) (random : UInt16) : Nat :=
  let backoffExponent := min (collisions.toNat + conf.minBe) conf.maxBe
  let delay := (2 ^ backoffExponent - 1) * backoffPeriod conf
  if 0 < delay then random.toNat % delay else delay

def NeighborQueue.schedule (random : UInt16) (block : NeighborQueue) : NeighborQueue :=
  { block with transmitTimer := some (transmissionDelay conf block.collisions random) }

def scheduleTransmission (n : Nat) (random : UInt16) (mac : Mac) : Mac :=
  mac.writeNeighbor n (NeighborQueue.schedule conf random)

def NeighborQueue.resetTx (block : NeighborQueue) : NeighborQueue :=
  { block with transmissions := 0, collisions := 0 }

def NeighborQueue.stopTimer (block : NeighborQueue) : NeighborQueue :=
  { block with transmitTimer := none }

def NeighborQueue.remove (p : Nat) (block : NeighborQueue) : NeighborQueue :=
  { block with packetQueue := listRemove block.packetQueue p }

def dequeuePacket (n p : Nat) (mac : Mac) : Mac :=
  let mac := mac.writeNeighbor n (NeighborQueue.remove p)
  let mac := queuebufFree (mac.packet p).buf mac
  { mac with
    metadataMemb := ((mac.packet p).ptr.map mac.metadataMemb.membFree).getD mac.metadataMemb
    packetMemb := mac.packetMemb.membFree p }

def freeNeighbor (n : Nat) (mac : Mac) : Mac :=
  { mac with
    neighborList := listRemove mac.neighborList n
    neighborMemb := mac.neighborMemb.membFree n }

def freePacket (n p : Nat) (random : UInt16) (mac : Mac) : Mac :=
  let mac := dequeuePacket n p mac
  if (mac.neighbor n).packetQueue ≠ [] then
    scheduleTransmission conf n random (mac.writeNeighbor n NeighborQueue.resetTx)
  else freeNeighbor n (mac.writeNeighbor n NeighborQueue.stopTimer)

def txDone (status : MacTxStatus) (q n : Nat) (random : UInt16) (mac : Mac) : Mac :=
  let metadata := mac.metadata q
  let ntx := (mac.neighbor n).transmissions.toNat
  macCallSentCallback metadata.sent metadata.cptr status ntx
    (freePacket conf n q random
      { mac with log := mac.log ++ [.completed (mac.request n q) status ntx] })

def rexmit (q n : Nat) (random : UInt16) (mac : Mac) : Mac :=
  queuebufUpdateAttrFromPacketbuf (mac.packet q).buf (scheduleTransmission conf n random mac)

def countCollision (numTransmissions : UInt8) (block : NeighborQueue) : NeighborQueue :=
  if (block.collisions + numTransmissions).toNat > conf.maxBackoff then
    { block with collisions := 0, transmissions := block.transmissions + 1 }
  else { block with collisions := block.collisions + numTransmissions }

def countTransmission (numTransmissions : UInt8) (block : NeighborQueue) : NeighborQueue :=
  { block with collisions := 0, transmissions := block.transmissions + numTransmissions }

def retryOrDone (status : MacTxStatus) (q n : Nat) (random : UInt16) (mac : Mac) : Mac :=
  if (mac.neighbor n).transmissions ≥ (mac.metadata q).maxTransmissions then
    txDone conf status q n random mac
  else rexmit conf q n random mac

def collision (q n : Nat) (numTransmissions : UInt8) (random : UInt16) (mac : Mac) : Mac :=
  retryOrDone conf .collision q n random (mac.writeNeighbor n (countCollision conf numTransmissions))

def noack (q n : Nat) (numTransmissions : UInt8) (random : UInt16) (mac : Mac) : Mac :=
  retryOrDone conf .noack q n random (mac.writeNeighbor n (countTransmission numTransmissions))

def txOk (q n : Nat) (numTransmissions : UInt8) (random : UInt16) (mac : Mac) : Mac :=
  txDone conf .ok q n random (mac.writeNeighbor n (countTransmission numTransmissions))

def packetSent (n : Nat) (status : MacTxStatus) (numTransmissions : UInt8) (random : UInt16)
    (mac : Mac) : Mac :=
  match (mac.neighbor n).packetQueue.find? fun q =>
      (mac.queuebuf (mac.packet q).buf).macSeqno = mac.packetbuf.macSeqno with
  | none => mac
  | some q =>
    if (mac.packet q).ptr = none then mac
    else
      let mac := { mac with log := mac.log ++ [.tried (mac.request n q) status] }
      match status with
      | .ok => txOk conf q n numTransmissions random mac
      | .noack => noack conf q n numTransmissions random mac
      | .collision => collision conf q n numTransmissions random mac
      | .deferred => mac
      | .err => txDone conf .err q n random mac
      | .errFatal => txDone conf .errFatal q n random mac

def sendOnePacket (n : Nat) (radio : RadioAnswers) (random : UInt16) (mac : Mac) : Bool × Mac :=
  let mac := { mac with
    packetbuf := { mac.packetbuf with sender := conf.linkaddrNodeAddr, macAck := 1 } }
  let ret := sendStatus radio (packetbufHoldsBroadcast mac.packetbuf)
  (ret == .ok, packetSent conf n ret 1 random mac)

def transmitFromQueue (n : Nat) (radio : RadioAnswers) (random : UInt16) (mac : Mac) : Mac :=
  match (mac.neighbor n).packetQueue with
  | [] => mac
  | q :: _ => (sendOnePacket conf n radio random (queuebufToPacketbuf (mac.packet q).buf mac)).2

def NeighborQueue.init (addr : LinkAddr) (block : NeighborQueue) : NeighborQueue :=
  { block with addr := addr, transmissions := 0, collisions := 0, packetQueue := [] }

def addNeighborQueue (addr : LinkAddr) (mac : Mac) : Option Nat × Mac :=
  match neighborQueueFromAddr addr mac with
  | some n => (some n, mac)
  | none =>
    match mac.neighborMemb.membAlloc with
    | (none, memb) => (none, { mac with neighborMemb := memb })
    | (some n, memb) =>
      (some n, { mac with
        neighborMemb := memb.write n (NeighborQueue.init addr)
        neighborList := listAdd mac.neighborList n })

def maxTransmissions (packetbuf : Packetbuf) : UInt8 :=
  if packetbuf.maxMacTransmissions.toUInt8 = 0 then UInt8.ofNat (conf.maxFrameRetries + 1)
  else packetbuf.maxMacTransmissions.toUInt8

def allocatePacket (mac : Mac) : Option Nat × Mac :=
  match mac.packetMemb.membAlloc with
  | (none, packetMemb) => (none, { mac with packetMemb := packetMemb })
  | (some q, packetMemb) =>
    match mac.metadataMemb.membAlloc with
    | (none, metadataMemb) =>
      (none, { mac with
        packetMemb := (packetMemb.write q fun block => { block with ptr := none }).membFree q
        metadataMemb := metadataMemb })
    | (some m, metadataMemb) =>
      let mac := { mac with
        packetMemb := packetMemb.write q fun block => { block with ptr := some m }
        metadataMemb := metadataMemb }
      match queuebufNewFromPacketbuf mac with
      | (none, mac) =>
        (none, { mac with
          packetMemb := mac.packetMemb.membFree q
          metadataMemb := mac.metadataMemb.membFree m })
      | (some buf, mac) =>
        (some q, { mac with
          packetMemb := mac.packetMemb.write q fun block => { block with buf := buf } })

def NeighborQueue.add (q : Nat) (block : NeighborQueue) : NeighborQueue :=
  { block with packetQueue := listAdd block.packetQueue q }

def linkPacket (n q : Nat) (sent : Option Nat) (ptr : Nat) (mac : Mac) : Mac :=
  let metadata : QbufMetadata := ⟨sent, ptr, maxTransmissions conf mac.packetbuf, mac.requests⟩
  let mac := { mac with
    metadataMemb := ((mac.packet q).ptr.map fun m =>
      mac.metadataMemb.write m fun _ => metadata).getD mac.metadataMemb }
  let mac := mac.writeNeighbor n (NeighborQueue.add q)
  { mac with log := mac.log ++ [.accepted (mac.request n q)] }

def enqueuePacket (n q : Nat) (sent : Option Nat) (ptr : Nat) (random : UInt16) (mac : Mac) : Mac :=
  let mac := linkPacket conf n q sent ptr mac
  if (mac.neighbor n).packetQueue.head? = some q then scheduleTransmission conf n random mac
  else mac

def freeNeighborIfEmpty (n : Nat) (mac : Mac) : Mac :=
  if (mac.neighbor n).packetQueue.length = 0 then freeNeighbor n mac else mac

def dropPacket (sent : Option Nat) (ptr : Nat) (mac : Mac) : Mac :=
  macCallSentCallback sent ptr .err 1 { mac with
    log := mac.log ++ [.dropped ⟨mac.requests, mac.packetbuf.receiver, sent, ptr,
      maxTransmissions conf mac.packetbuf⟩] }

def nextSeqno (random : UInt16) (mac : Mac) : UInt8 :=
  let seqno := if mac.initialized then mac.seqno else random.toUInt8
  if seqno = 0 then seqno + 1 else seqno

def queueOrDrop (sent : Option Nat) (ptr : Nat) (random : UInt16) (mac : Mac) : Mac :=
  match addNeighborQueue mac.packetbuf.receiver mac with
  | (none, mac) => dropPacket conf sent ptr mac
  | (some n, mac) =>
    if (mac.neighbor n).packetQueue.length < conf.maxPacketPerNeighbor then
      match allocatePacket mac with
      | (some q, mac) => enqueuePacket conf n q sent ptr random mac
      | (none, mac) => dropPacket conf sent ptr (freeNeighborIfEmpty n mac)
    else dropPacket conf sent ptr mac

def csmaOutputPacket (sent : Option Nat) (ptr : Nat) (random : UInt16 × UInt16) (mac : Mac) : Mac :=
  let seqno := nextSeqno random.1 mac
  let mac := queueOrDrop conf sent ptr random.2 { mac with
    initialized := true
    seqno := seqno + 1
    packetbuf := { mac.packetbuf with
      macSeqno := seqno.toUInt16, frameType := frame802154Dataframe } }
  { mac with requests := mac.requests + 1 }

def emptyMemb {α : Type} [Inhabited α] (num : Nat) : Memb α := ⟨num, fun _ => 0, fun _ => default⟩

def csmaOutputInit : Mac :=
  { neighborMemb := (emptyMemb conf.maxNeighborQueues).membInit
    packetMemb := (emptyMemb conf.queuebufNum).membInit
    metadataMemb := (emptyMemb conf.queuebufNum).membInit
    bufmem := (emptyMemb conf.queuebufNum).membInit
    buframmem := (emptyMemb conf.queuebufNum).membInit
    neighborList := []
    initialized := false
    seqno := 0
    packetbuf := default
    requests := 0
    log := []
    calls := [] }

/-! Runs: requests, expiries of transmit timers, and the other users of the packet copies. -/

structure History where
  mac : Mac
  borrowed : List Nat

inductive CsmaStep where
  | send (packetbuf : Packetbuf) (sent : Option Nat) (ptr : Nat) (random : UInt16 × UInt16)
  | expire (n : Nat) (radio : RadioAnswers) (random : UInt16)
  | borrow (packetbuf : Packetbuf)
  | giveBack (buf : Nat)

def expireTimer (n : Nat) (radio : RadioAnswers) (random : UInt16) (mac : Mac) : Mac :=
  if (mac.neighbor n).transmitTimer.isSome then
    transmitFromQueue conf n radio random (mac.writeNeighbor n NeighborQueue.stopTimer)
  else mac

def History.step (history : History) : CsmaStep → History
  | .send packetbuf sent ptr random =>
    { history with
      mac := csmaOutputPacket conf sent ptr random { history.mac with packetbuf := packetbuf } }
  | .expire n radio random => { history with mac := expireTimer conf n radio random history.mac }
  | .borrow packetbuf =>
    let result := queuebufNewFromPacketbuf { history.mac with packetbuf := packetbuf }
    { mac := result.2, borrowed := result.1.toList ++ history.borrowed }
  | .giveBack buf =>
    if buf ∈ history.borrowed then
      { mac := queuebufFree buf history.mac, borrowed := history.borrowed.erase buf }
    else history

def History.start : History := ⟨csmaOutputInit conf, []⟩

end MultiPhyTsch.Csma
