import MultiPhyTsch.Tsch.Node

/-! The neighbor queues of `tsch-queue.c`, with `tsch_tx_process_pending` of `tsch.c`.
A `while` loop that empties a ring runs at most once per element it holds at the start;
`random_rand()` and the outcome of `queuebuf_new_from_packetbuf()` are arguments. -/

namespace MultiPhyTsch

variable (conf : TschConf)

def tschQueueGetNbr (addr : LinkAddr) (node : Node) : Option Nat :=
  if !tschIsLocked node then
    node.queue.neighborList.find? fun n => (node.neighbor n).addr = addr
  else none

def tschQueueBackoffReset (n : Nat) (node : Node) : Node :=
  node.writeNeighbor n fun nbr =>
    { nbr with backoffWindow := 0, backoffExponent := conf.macMinBe }

def newNeighbor (addr : LinkAddr) : TschNeighbor :=
  { addr := addr
    isBroadcast := addr = tschEbAddress ∨ addr = tschBroadcastAddress
    isTimeSource := false
    backoffExponent := conf.macMinBe
    backoffWindow := 0
    txLinksCount := 0
    dedicatedTxLinksCount := 0
    txArray := fun _ => none
    txRingbuf := .ringbufindexInit (UInt8.ofNat conf.queueNumPerNeighbor) }

def tschQueueAddNbr (addr : LinkAddr) (node : Node) : Option Nat × Node :=
  match tschQueueGetNbr addr node with
  | some n => (some n, node)
  | none =>
    match tschGetLock node with
    | (true, node) =>
      match node.queue.neighborMemb.membAlloc with
      | (some n, memb) =>
        (some n, tschReleaseLock { node with queue := { node.queue with
          neighborMemb := memb.write n fun _ => newNeighbor conf addr
          neighborList := listAdd node.queue.neighborList n } })
      | (none, _) => (none, tschReleaseLock node)
    | (false, node) => (none, node)

theorem tschQueueAddNbr_frame (addr : LinkAddr) {node : Node}
    (free : node.lock.tschLocked = false) :
    ∃ queue requested, (tschQueueAddNbr conf addr node).2 = { node with
      queue := queue, lock := { node.lock with tschLockRequested := requested } } := by
  simp only [tschQueueAddNbr, tschGetLock_of_unlocked free]
  cases tschQueueGetNbr addr node with
  | some n => exact ⟨node.queue, node.lock.tschLockRequested, rfl⟩
  | none =>
    rcases node.queue.neighborMemb.membAlloc with ⟨_ | n, memb⟩
    · exact ⟨node.queue, false, by simp [tschReleaseLock, free]⟩
    · exact ⟨_, false, by simp only [tschReleaseLock, free]; rfl⟩

def tschQueueGetTimeSource (node : Node) : Option Nat :=
  if !tschIsLocked node then
    node.queue.neighborList.find? fun n => (node.neighbor n).isTimeSource
  else none

def tschQueueUpdateTimeSource (newAddr : Option LinkAddr) (node : Node) : Bool × Node :=
  if !tschIsLocked node && !node.mac.tschIsCoordinator then
    let oldTimeSrc := tschQueueGetTimeSource node
    match newAddr.map fun addr => tschQueueAddNbr conf addr node with
    | some (none, node) => (false, node)
    | some (some newTimeSrc, node) =>
      if oldTimeSrc = some newTimeSrc then (true, node)
      else
        let node := node.writeNeighbor newTimeSrc fun nbr => { nbr with isTimeSource := true }
        (true, oldTimeSrc.elim node fun old =>
          node.writeNeighbor old fun nbr => { nbr with isTimeSource := false })
    | none =>
      (true, oldTimeSrc.elim node fun old =>
        node.writeNeighbor old fun nbr => { nbr with isTimeSource := false })
  else (false, node)

def tschQueueIsEmpty (n : Option Nat) (node : Node) : Bool :=
  !tschIsLocked node && n.any fun n => (node.neighbor n).txRingbuf.ringbufindexEmpty

def tschQueueRemovePacketFromQueue (n : Option Nat) (node : Node) : Option Nat × Node :=
  match n with
  | some n =>
    if !tschIsLocked node then
      match (node.neighbor n).txRingbuf.ringbufindexGet with
      | (some getIndex, ring) =>
        let p := (node.neighbor n).txArray getIndex.toNat
        (p, (node.writeNeighbor n fun nbr => { nbr with txRingbuf := ring }).record
          (p.toList.map fun p => .left (node.packet p).uid (node.neighbor n).addr))
      | (none, _) => (none, node)
    else (none, node)
  | none => (none, node)

theorem tschQueueRemovePacketFromQueue_cases {motive : Node → Prop} {node : Node} (n : Option Nat)
    (kept : motive node)
    (popped : ∀ n ring (p : Option Nat), motive
      ((node.writeNeighbor n fun nbr => { nbr with txRingbuf := ring }).record
        (p.toList.map fun p => .left (node.packet p).uid (node.neighbor n).addr))) :
    motive (tschQueueRemovePacketFromQueue n node).2 := by
  rcases n with _ | n
  · exact kept
  simp only [tschQueueRemovePacketFromQueue]
  split
  · split
    · exact popped ..
    · exact kept
  · exact kept

def tschQueueFreePacket (p : Option Nat) (node : Node) : Node :=
  match p with
  | some p =>
    Node.record { node with queue := { node.queue with
      packetMemb := node.queue.packetMemb.membFree p } } [.freed (node.packet p).uid]
  | none => node

def macCallSentCallback (p : Nat) (node : Node) : Node :=
  node.record [.callback (node.packet p).uid (node.packet p).ret (node.packet p).transmissions]

def tschQueueFlushNbrQueueFrom : Nat → Nat → Node → Node
  | 0, _, node => node
  | fuel + 1, n, node =>
    if tschQueueIsEmpty (some n) node then node
    else
      match tschQueueRemovePacketFromQueue (some n) node with
      | (some p, node) =>
        let node := node.writePacket p fun packet => { packet with ret := .err }
        tschQueueFlushNbrQueueFrom fuel n
          (tschQueueFreePacket (some p) (macCallSentCallback p node))
      | (none, node) => tschQueueFlushNbrQueueFrom fuel n node

def tschQueueFlushNbrQueue (n : Nat) (node : Node) : Node :=
  tschQueueFlushNbrQueueFrom (node.neighbor n).txRingbuf.ringbufindexElements.toNat n node

def tschQueueRemoveNbr (n : Nat) (node : Node) : Node :=
  match tschGetLock node with
  | (true, node) =>
    let node := tschReleaseLock { node with queue := { node.queue with
      neighborList := listRemove node.queue.neighborList n } }
    let node := tschQueueFlushNbrQueue n node
    { node with queue := { node.queue with
      neighborMemb := node.queue.neighborMemb.membFree n } }
  | (false, node) => node

/-- `tsch_queue_add_packet`; `qb` is what `queuebuf_new_from_packetbuf()` returns. -/
def tschQueueAddPacket (addr : LinkAddr) (maxTransmissions : UInt8) (sent : Option Nat) (ptr : Nat)
    (qb : Option Queuebuf) (node : Node) : Option Nat × Node :=
  if !tschIsLocked node then
    match tschQueueAddNbr conf addr node with
    | (some n, node) =>
      match (node.neighbor n).txRingbuf.ringbufindexPeekPut with
      | some putIndex =>
        match node.queue.packetMemb.membAlloc with
        | (some p, memb) =>
          match qb with
          | some qb =>
            let node := { node with queue := { node.queue with
              packetMemb := memb.write p fun packet =>
                { packet with
                  qb := some qb, sent := sent, ptr := ptr, ret := .deferred
                  transmissions := 0, maxTransmissions := maxTransmissions
                  uid := node.queue.nextUid }
              nextUid := node.queue.nextUid + 1 } }
            (some p, (node.writeNeighbor n fun nbr =>
              { nbr with
                txArray := Function.update nbr.txArray putIndex.toNat (some p)
                txRingbuf := nbr.txRingbuf.ringbufindexPut.2 }).record
                  [.accepted (node.queue.nextUid - 1) addr])
          | none =>
            (none, { node with queue := { node.queue with
              packetMemb := (memb.write p fun packet =>
                { packet with qb := none }).membFree p } })
        | (none, _) => (none, node)
      | none => (none, node)
    | (none, node) => (none, node)
  else (none, node)

def tschQueuePacketCount (addr : LinkAddr) (node : Node) : Int × Node :=
  if !tschIsLocked node then
    match tschQueueAddNbr conf addr node with
    | (some n, node) => ((node.neighbor n).txRingbuf.ringbufindexElements.toNat, node)
    | (none, node) => (-1, node)
  else (-1, node)

def tschQueueBackoffInc (n : Nat) (random : UInt16) (node : Node) : Node :=
  node.writeNeighbor n fun nbr =>
    let exponent := UInt8.ofNat (min (nbr.backoffExponent.toNat + 1) conf.macMaxBe.toNat)
    { nbr with
      backoffExponent := exponent
      backoffWindow := UInt8.ofNat ((random.toNat >>> 6) % 2 ^ exponent.toNat) + 1 }

def tschQueuePacketSent (n p : Nat) (link : TschLink) (macTxStatus : MacTxStatus) (random : UInt16)
    (node : Node) : Bool × Node :=
  let isSharedLink := link.has linkOptionShared
  let isUnicast := !(node.neighbor n).isBroadcast
  if macTxStatus = .ok then
    let node := (tschQueueRemovePacketFromQueue (some n) node).2
    (false,
      if isUnicast && (isSharedLink || tschQueueIsEmpty (some n) node) then
        tschQueueBackoffReset conf n node
      else node)
  else
    let dropped := (node.packet p).transmissions ≥ (node.packet p).maxTransmissions
    let node := if dropped then (tschQueueRemovePacketFromQueue (some n) node).2 else node
    (!dropped,
      if isUnicast && isSharedLink then tschQueueBackoffInc conf n random node else node)

def tschQueueReset (node : Node) : Node :=
  if !tschIsLocked node then
    node.queue.neighborList.foldl (fun node n =>
      tschQueueBackoffReset conf n (tschQueueFlushNbrQueue n node)) node
  else node

def neighborUnused (node : Node) (n : Nat) : Bool :=
  !(node.neighbor n).isBroadcast && !(node.neighbor n).isTimeSource &&
    (node.neighbor n).txLinksCount == 0 && tschQueueIsEmpty (some n) node

def tschQueueFreeUnusedNeighbors (node : Node) : Node :=
  if !tschIsLocked node then
    node.queue.neighborList.foldl (fun node n =>
      if neighborUnused node n then tschQueueRemoveNbr n node else node) node
  else node

def tschQueueBackoffExpired (nbr : TschNeighbor) : Bool := nbr.backoffWindow == 0

def tschQueueGetPacketForNbr (n : Option Nat) (link : TschLink) (node : Node) : Option Nat :=
  if !tschIsLocked node then
    n.bind fun n =>
      let nbr := node.neighbor n
      nbr.txRingbuf.ringbufindexPeekGet.bind fun getIndex =>
        if link.has linkOptionShared && !tschQueueBackoffExpired nbr then none
        else
          (nbr.txArray getIndex.toNat).bind fun p =>
            let qb := (node.packet p).qb.getD default
            if conf.withLinkSelector &&
                ((qb.attrTschSlotframe != 0xffff && qb.attrTschSlotframe != link.slotframeHandle) ||
                  (qb.attrTschTimeslot != 0xffff && qb.attrTschTimeslot != link.timeslot)) then
              none
            else some p
  else none

def tschQueueGetUnicastPacketForAny (link : TschLink) (node : Node) : Option (Nat × Nat) :=
  if !tschIsLocked node then
    node.queue.neighborList.findSome? fun n =>
      if !(node.neighbor n).isBroadcast && (node.neighbor n).txLinksCount == 0 then
        (tschQueueGetPacketForNbr conf (some n) link node).map fun p => (p, n)
      else none
  else none

def tschQueueUpdateAllBackoffWindows (destAddr : LinkAddr) (node : Node) : Node :=
  if !tschIsLocked node then
    node.queue.neighborList.foldl (fun node n =>
      let nbr := node.neighbor n
      if nbr.backoffWindow != 0 &&
          ((nbr.txLinksCount == 0 && destAddr = tschBroadcastAddress) ||
            (0 < nbr.txLinksCount && destAddr = nbr.addr)) then
        node.writeNeighbor n fun nbr => { nbr with backoffWindow := nbr.backoffWindow - 1 }
      else node) node
  else node

def tschQueueInit (node : Node) : Node :=
  let node := { node with queue := { node.queue with
    neighborList := []
    neighborMemb := node.queue.neighborMemb.membInit
    packetMemb := node.queue.packetMemb.membInit } }
  let (nEb, node) := tschQueueAddNbr conf tschEbAddress node
  let (nBroadcast, node) := tschQueueAddNbr conf tschBroadcastAddress node
  { node with queue := { node.queue with nEb := nEb, nBroadcast := nBroadcast } }

/-- The node that `tsch_queue_init` adds its two neighbors to. -/
def Node.cleared : Node :=
  { Node.boot conf with queue := { (Node.boot conf).queue with
    neighborList := []
    neighborMemb := (Node.boot conf).queue.neighborMemb.membInit
    packetMemb := (Node.boot conf).queue.packetMemb.membInit } }

def txProcessPendingOne (p : Nat) (node : Node) : Node :=
  let node := tschQueueFreePacket (some p) (macCallSentCallback p node)
  let node := tschQueueFreeUnusedNeighbors node
  { node with queue := { node.queue with
    dequeuedRingbuf := node.queue.dequeuedRingbuf.ringbufindexGet.2 } }

def tschTxProcessPendingFrom : Nat → Node → Node
  | 0, node => node
  | fuel + 1, node =>
    match node.queue.dequeuedRingbuf.ringbufindexPeekGet with
    | some dequeuedIndex =>
      match node.queue.dequeuedArray dequeuedIndex.toNat with
      | some p => tschTxProcessPendingFrom fuel (txProcessPendingOne p node)
      | none => node
    | none => node

def tschTxProcessPending (node : Node) : Node :=
  tschTxProcessPendingFrom node.queue.dequeuedRingbuf.ringbufindexElements.toNat node

structure OnlyQueue (node next : Node) : Prop where
  sched_eq : next.sched = node.sched
  phy_eq : next.phy = node.phy
  timesync_eq : next.timesync = node.timesync
  slot_eq : next.slot = node.slot
  mac_eq : next.mac = node.mac
  locked_eq : next.lock.tschLocked = node.lock.tschLocked

namespace OnlyQueue

theorem refl (node : Node) : OnlyQueue node node := ⟨rfl, rfl, rfl, rfl, rfl, rfl⟩

theorem trans {node middle next : Node} (one : OnlyQueue node middle)
    (two : OnlyQueue middle next) : OnlyQueue node next :=
  ⟨two.sched_eq.trans one.sched_eq, two.phy_eq.trans one.phy_eq,
    two.timesync_eq.trans one.timesync_eq, two.slot_eq.trans one.slot_eq,
    two.mac_eq.trans one.mac_eq, two.locked_eq.trans one.locked_eq⟩

theorem foldl {α : Type} {step : Node → α → Node}
    (each : ∀ node item, OnlyQueue node (step node item)) (items : List α) (node : Node) :
    OnlyQueue node (items.foldl step node) := by
  induction items generalizing node with
  | nil => exact refl node
  | cons item rest ih => exact (each node item).trans (ih (step node item))

variable (addr : LinkAddr)

theorem addNbr (node : Node) : OnlyQueue node (tschQueueAddNbr conf addr node).2 := by
  simp only [tschQueueAddNbr]
  cases tschQueueGetNbr addr node with
  | some n => exact refl node
  | none =>
    cases locked : node.lock.tschLocked with
    | true =>
      simp only [tschGetLock, locked, Bool.not_true]
      exact refl node
    | false =>
      rw [tschGetLock_of_unlocked locked]
      dsimp only
      rcases node.queue.neighborMemb.membAlloc with ⟨_ | n, memb⟩
      · exact ⟨rfl, rfl, rfl, rfl, rfl, locked.symm⟩
      · exact ⟨rfl, rfl, rfl, rfl, rfl, locked.symm⟩

theorem packetCount (node : Node) : OnlyQueue node (tschQueuePacketCount conf addr node).2 := by
  simp only [tschQueuePacketCount]
  split
  · have added := addNbr conf addr node
    generalize tschQueueAddNbr conf addr node = result at added ⊢
    rcases result with ⟨_ | n, next⟩
    · exact added
    · exact added
  · exact refl node

theorem removePacketFromQueue (n : Option Nat) (node : Node) :
    OnlyQueue node (tschQueueRemovePacketFromQueue n node).2 :=
  tschQueueRemovePacketFromQueue_cases n (refl node) fun _ _ _ => ⟨rfl, rfl, rfl, rfl, rfl, rfl⟩

theorem packetSent (n p : Nat) (link : TschLink) (status : MacTxStatus) (random : UInt16)
    (node : Node) : OnlyQueue node (tschQueuePacketSent conf n p link status random node).2 := by
  have removed := removePacketFromQueue (some n) node
  simp only [tschQueuePacketSent]
  split
  · refine removed.trans ?_
    split
    · exact ⟨rfl, rfl, rfl, rfl, rfl, rfl⟩
    · exact refl _
  · by_cases dropped : (node.packet p).transmissions ≥ (node.packet p).maxTransmissions
    · simp only [dropped, if_true]
      refine removed.trans ?_
      split
      · exact ⟨rfl, rfl, rfl, rfl, rfl, rfl⟩
      · exact refl _
    · simp only [dropped, if_false]
      split
      · exact ⟨rfl, rfl, rfl, rfl, rfl, rfl⟩
      · exact refl _

theorem updateAllBackoffWindows (node : Node) :
    OnlyQueue node (tschQueueUpdateAllBackoffWindows addr node) := by
  simp only [tschQueueUpdateAllBackoffWindows]
  split
  · apply foldl
    intro node n
    split
    · exact ⟨rfl, rfl, rfl, rfl, rfl, rfl⟩
    · exact refl node
  · exact refl node

end OnlyQueue

end MultiPhyTsch
