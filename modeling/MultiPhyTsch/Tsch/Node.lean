import MultiPhyTsch.Tsch.Types

/-! The global variables of one TSCH node, grouped by the file that owns them, and the
locking functions of `tsch-slot-operation.c`. -/

namespace MultiPhyTsch

structure LockFlags where
  tschLocked : Bool := false
  tschLockRequested : Bool := false
  tschInSlotOperation : Bool := false
deriving DecidableEq, Repr, Inhabited

structure Schedule where
  linkMemb : Memb TschLink
  slotframeMemb : Memb TschSlotframe
  slotframeList : List Nat
  currentLinkHandle : Nat

/-- What happens to accepted packets, in order. This is a record of the model: the code
keeps none and no function reads it. `reported` is what `tsch_tx_slot` tells
`tsch_queue_packet_sent`, with whether the packet was really sent in that slot. -/
inductive QueueEvent where
  | accepted (uid : Nat) (addr : LinkAddr)
  | reported (uid : Nat) (status : MacTxStatus) (sent : Bool)
  | left (uid : Nat) (addr : LinkAddr)
  | dequeued (uid : Nat)
  | callback (uid : Nat) (status : MacTxStatus) (transmissions : UInt8)
  | freed (uid : Nat)
deriving DecidableEq, Repr

structure Queue where
  packetMemb : Memb TschPacket
  neighborMemb : Memb TschNeighbor
  neighborList : List Nat
  nBroadcast : Option Nat
  nEb : Option Nat
  dequeuedRingbuf : RingBufIndex
  dequeuedArray : Nat → Option Nat
  nextUid : Nat
  log : List QueueEvent

structure Phy where
  currentRadio : Option RadioDriver
  currentRfConfig : Cc1200RfCfg
  cc1200Divisor : TschAsnDivisor
  cc2538Divisor : TschAsnDivisor
  cc1200Channel : UInt8
  cc2538Channel : UInt8
deriving DecidableEq, Repr, Inhabited

structure Timesync where
  lastTimesourceNeighbor : Option Nat := none
  driftPpm : Int32 := 0
  compensatedTicks : Int32 := 0
  timesyncEntryCount : Nat := 0
  asnSinceLastLearning : UInt32 := 0
  buffer : Vector Int32 8 := Vector.replicate 8 0
  pos : Nat := 0
  remainder : Int32 := 0
  tickConversionError : Int16 := 0
  baseDriftRemainder : Int32 := 0
  baseDriftTickConversionError : Int16 := 0
deriving DecidableEq, Repr, Inhabited

structure Advance where
  timeslotDiff : UInt16
  correction : Option Int32
  compensation : Int32
deriving DecidableEq, Repr

/-- The variables of `tsch-slot-operation.c` that a slot reads and writes. `corrections` and
`ledger` record the corrections measured and the advances made; no function reads them. -/
structure Slot where
  currentLink : Option Nat := none
  backupLink : Option Nat := none
  currentPacket : Option Nat := none
  currentNeighbor : Option Nat := none
  burstLinkScheduled : Bool := false
  tschCurrentBurstCount : Int := 0
  tschCurrentChannel : UInt8 := 0
  currentSlotStart : UInt32 := 0
  driftCorrection : Int32 := 0
  isDriftCorrectionUsed : Bool := false
  lastSyncAsn : TschAsn := ⟨0, 0⟩
  macTxStatus : MacTxStatus := .ok
  corrections : List Int32 := []
  ledger : List Advance := []
deriving DecidableEq, Repr, Inhabited

structure Mac where
  tschIsAssociated : Bool := false
  tschIsCoordinator : Bool := false
  tschIsPanSecured : Bool := false
  tschCurrentAsn : TschAsn := ⟨0, 0⟩
  tschHoppingSequence : List UInt8 := []
  tschHoppingSequenceLength : TschAsnDivisor := ⟨0, 0⟩
deriving DecidableEq, Repr, Inhabited

structure Node where
  lock : LockFlags
  sched : Schedule
  queue : Queue
  phy : Phy
  timesync : Timesync
  slot : Slot
  mac : Mac

namespace Node

variable (node : Node)

variable (block : Nat)

def link : TschLink := node.sched.linkMemb.mem block

def slotframe : TschSlotframe := node.sched.slotframeMemb.mem block

def neighbor : TschNeighbor := node.queue.neighborMemb.mem block

def packet : TschPacket := node.queue.packetMemb.mem block

def writeNeighbor (change : TschNeighbor → TschNeighbor) : Node :=
  { node with queue := { node.queue with
      neighborMemb := node.queue.neighborMemb.write block change } }

theorem neighbor_writeNeighbor_same (n : Nat) (change : TschNeighbor → TschNeighbor) :
    (node.writeNeighbor n change).neighbor n = change (node.neighbor n) :=
  Memb.write_same node.queue.neighborMemb n change

theorem neighbor_writeNeighbor_other {n m : Nat}
    (change : TschNeighbor → TschNeighbor) (different : m ≠ n) :
    (node.writeNeighbor n change).neighbor m = node.neighbor m :=
  Memb.write_other node.queue.neighborMemb change different

theorem neighbor_writeNeighbor_field {β : Type} (node : Node) (n : Nat)
    {change : TschNeighbor → TschNeighbor} (field : TschNeighbor → β)
    (same : field (change (node.neighbor n)) = field (node.neighbor n)) (m : Nat) :
    field ((node.writeNeighbor n change).neighbor m) = field (node.neighbor m) :=
  Memb.write_field node.queue.neighborMemb n change field same m

def writePacket (node : Node) (block : Nat) (change : TschPacket → TschPacket) : Node :=
  { node with queue := { node.queue with
      packetMemb := node.queue.packetMemb.write block change } }

def writeSlotframe (node : Node) (block : Nat) (change : TschSlotframe → TschSlotframe) : Node :=
  { node with sched := { node.sched with
      slotframeMemb := node.sched.slotframeMemb.write block change } }

def record (node : Node) (events : List QueueEvent) : Node :=
  { node with queue := { node.queue with log := node.queue.log ++ events } }

def boot (conf : TschConf) : Node :=
  { lock := {}
    sched :=
      { linkMemb := ⟨conf.scheduleMaxLinks, fun _ => 0, fun _ => default⟩
        slotframeMemb := ⟨conf.scheduleMaxSlotframes, fun _ => 0, fun _ => default⟩
        slotframeList := []
        currentLinkHandle := 0 }
    queue :=
      { packetMemb := ⟨conf.queuebufNum, fun _ => 0, fun _ => default⟩
        neighborMemb := ⟨conf.queueMaxNeighborQueues, fun _ => 0, fun _ => default⟩
        neighborList := []
        nBroadcast := none
        nEb := none
        dequeuedRingbuf := .ringbufindexInit (UInt8.ofNat conf.dequeuedArraySize)
        dequeuedArray := fun _ => none
        nextUid := 0
        log := [] }
    phy := default
    timesync := {}
    slot := {}
    mac := {} }

end Node

def tschIsLocked (node : Node) : Bool := node.lock.tschLocked

/-- `tsch_get_lock` as seen by the main thread when no slot is running: the wait for
`tsch_in_slot_operation` to become 0 is over before the lock is taken. -/
def tschGetLock (node : Node) : Bool × Node :=
  if !node.lock.tschLocked then
    (true, { node with lock :=
      { node.lock with tschLocked := true, tschLockRequested := false } })
  else (false, node)

def tschReleaseLock (node : Node) : Node :=
  { node with lock := { node.lock with tschLocked := false } }

theorem tschGetLock_of_unlocked {node : Node} (free : node.lock.tschLocked = false) :
    tschGetLock node = (true, { node with lock :=
      { node.lock with tschLocked := true, tschLockRequested := false } }) := by
  simp [tschGetLock, free]

end MultiPhyTsch
