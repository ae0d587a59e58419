import MultiPhyTsch.Lib.Run
import MultiPhyTsch.Tsch.SlotOperation

/-! What slots and the main thread do to the queues, step by step. A slot is one step; what it
transmits, if it does, is the call of `tsch_tx_slot` it makes. -/

namespace MultiPhyTsch

variable (conf : TschConf)

def Queue.core (queue : Queue) : Queue :=
  { queue with neighborMemb := { queue.neighborMemb with
      mem := fun n => { queue.neighborMemb.mem n with
        isTimeSource := false
        backoffExponent := 0
        backoffWindow := 0
        txLinksCount := 0
        dedicatedTxLinksCount := 0 } } }

theorem Queue.fields_of_core {queue next : Queue} (same : next.core = queue.core) :
    next.packetMemb = queue.packetMemb ∧ next.neighborList = queue.neighborList ∧
      next.dequeuedRingbuf = queue.dequeuedRingbuf ∧ next.dequeuedArray = queue.dequeuedArray ∧
      next.log = queue.log := by
  simp only [Queue.core, Queue.mk.injEq] at same
  exact ⟨same.1, same.2.2.1, same.2.2.2.2.2.1, same.2.2.2.2.2.2.1, same.2.2.2.2.2.2.2.2⟩

theorem Queue.core_write {queue : Queue} (n : Nat) (change : TschNeighbor → TschNeighbor)
    (same : ∀ nbr, (change nbr).addr = nbr.addr ∧ (change nbr).isBroadcast = nbr.isBroadcast ∧
      (change nbr).txArray = nbr.txArray ∧ (change nbr).txRingbuf = nbr.txRingbuf) :
    Queue.core { queue with neighborMemb := queue.neighborMemb.write n change } = queue.core := by
  simp only [Queue.core, Memb.write, Queue.mk.injEq, Memb.mk.injEq, true_and, and_true]
  funext other
  by_cases equal : other = n
  · subst equal
    obtain ⟨addr, broadcast, array, ring⟩ := same (queue.neighborMemb.mem other)
    simp [addr, broadcast, array, ring]
  · simp [equal]

theorem tschQueueBackoffReset_core (n : Nat) (node : Node) :
    (tschQueueBackoffReset conf n node).queue.core = node.queue.core :=
  Queue.core_write n _ fun _ => ⟨rfl, rfl, rfl, rfl⟩

theorem tschQueueBackoffInc_core (n : Nat) (random : UInt16) (node : Node) :
    (tschQueueBackoffInc conf n random node).queue.core = node.queue.core :=
  Queue.core_write n _ fun _ => ⟨rfl, rfl, rfl, rfl⟩

theorem tschQueueUpdateAllBackoffWindows_core (addr : LinkAddr) (node : Node) :
    (tschQueueUpdateAllBackoffWindows addr node).queue.core = node.queue.core := by
  simp only [tschQueueUpdateAllBackoffWindows]
  split
  · refine List.foldlRecOn (motive := fun next : Node => next.queue.core = node.queue.core) _ _
      rfl ?_
    intro next same n _
    split
    · rw [← same]
      exact Queue.core_write n _ fun _ => ⟨rfl, rfl, rfl, rfl⟩
    · exact same
  · rfl

theorem tschQueuePacketSent_core (n p : Nat) (link : TschLink) (status : MacTxStatus)
    (random : UInt16) (node : Node) :
    (tschQueuePacketSent conf n p link status random node).2.queue.core =
      if (tschQueuePacketSent conf n p link status random node).1 then node.queue.core
      else (tschQueueRemovePacketFromQueue (some n) node).2.queue.core := by
  simp only [tschQueuePacketSent]
  by_cases ok : status = .ok
  · simp only [ok, if_true, Bool.false_eq_true, if_false]
    split
    · exact tschQueueBackoffReset_core conf n _
    · rfl
  · simp only [ok, if_false]
    by_cases dropped : (node.packet p).transmissions ≥ (node.packet p).maxTransmissions
    · simp only [dropped, decide_true, Bool.not_true, Bool.false_eq_true, if_true, if_false]
      split
      · exact tschQueueBackoffInc_core conf n random _
      · rfl
    · simp only [dropped, decide_false, Bool.not_false, if_true, if_false]
      split
      · exact tschQueueBackoffInc_core conf n random _
      · rfl

theorem txAcknowledged_queue (n : Nat) (link : TschLink) (requested : Bool) (input : TxInput)
    (node : Node) : (txAcknowledged conf n link requested input node).queue = node.queue := by
  simp only [txAcknowledged]
  by_cases source : (targetIsTimeSource conf n input node && link.has linkOptionTimeKeeping) = true
  · simp only [source, if_true]
    split <;> rfl
  · simp only [source]
    split <;> rfl

/-- Nothing was transmitted: the queues are the same up to backoff, and so are the status of the
last transmission and the lock. -/
structure Quiet (node next : Node) : Prop where
  core_eq : next.queue.core = node.queue.core
  status_eq : next.slot.macTxStatus = node.slot.macTxStatus
  locked_eq : next.lock.tschLocked = node.lock.tschLocked

namespace Quiet

theorem refl (node : Node) : Quiet node node := ⟨rfl, rfl, rfl⟩

theorem trans {node middle next : Node} (one : Quiet node middle) (two : Quiet middle next) :
    Quiet node next :=
  ⟨two.core_eq.trans one.core_eq, two.status_eq.trans one.status_eq,
    two.locked_eq.trans one.locked_eq⟩

theorem chooseLink (l : Nat) (node : Node) : Quiet node (chooseLink conf l node) := by
  simp only [MultiPhyTsch.chooseLink]
  split
  · split <;> exact ⟨rfl, rfl, rfl⟩
  · exact ⟨rfl, rfl, rfl⟩

theorem selectPhy (slotframe : TschSlotframe) (link : TschLink) (busy : Bool) (node : Node) :
    Quiet node (selectPhy conf slotframe link busy node) := by
  by_cases burst : node.slot.burstLinkScheduled = true
  · exact ⟨rfl, by simp [MultiPhyTsch.selectPhy, burst], rfl⟩
  · exact ⟨rfl, by simp [MultiPhyTsch.selectPhy, burst], rfl⟩

theorem rxSlot (link : TschLink) (input : RxInput) (node : Node) :
    Quiet node (tschRxSlot conf link input node) := by
  simp only [tschRxSlot]
  split
  · have received : Quiet node (scheduleReceivedBurst input node) := by
      simp only [scheduleReceivedBurst]
      split <;> exact ⟨rfl, rfl, rfl⟩
    refine received.trans ?_
    split
    · exact ⟨rfl, rfl, rfl⟩
    · exact refl _
  · exact refl node

theorem takeNextActiveLink (node : Node) : Quiet node (takeNextActiveLink node).1 := by
  simp only [MultiPhyTsch.takeNextActiveLink]
  split <;> exact ⟨rfl, rfl, rfl⟩

theorem scheduleNext (node : Node) : Quiet node (scheduleNext conf node).1 := by
  have counted : Quiet node (countSharedLink node) := by
    refine ⟨?_, by rw [(countSharedLink_onlyQueue node).slot_eq],
      (countSharedLink_onlyQueue node).locked_eq⟩
    simp only [countSharedLink]
    split
    · split
      · exact tschQueueUpdateAllBackoffWindows_core _ node
      · rfl
    · rfl
  have linked : Quiet (countSharedLink node) (nextLink (countSharedLink node)).1 := by
    simp only [nextLink]
    split
    · exact ⟨rfl, rfl, rfl⟩
    · exact (takeNextActiveLink _).trans ⟨rfl, rfl, rfl⟩
  exact (counted.trans linked).trans ⟨rfl, rfl, rfl⟩

theorem endSlot (input : SlotInput) (node : Node) : Quiet node (endSlot conf input node) := by
  simp only [MultiPhyTsch.endSlot]
  split
  · exact ⟨rfl, rfl, rfl⟩
  · exact retryLoop_rounds conf (Quiet node) (Quiet node)
      (fun next quiet => quiet.trans (scheduleNext conf next)) (fun _ quiet => quiet) _ _ node
      (refl node)

end Quiet

structure TxEntry where
  neighbor : Nat
  packet : Nat
  link : TschLink
  node : Node

def linkEntry (l : Nat) (input : SlotInput) (node : Node) : Option TxEntry :=
  let link := node.link l
  let next := selectPhy conf (slotframeOfLink link node) link input.busy node
  if link.has linkOptionSampleRssi then none
  else
    match next.slot.currentPacket, next.slot.currentNeighbor with
    | some p, some n => some ⟨n, p, link, next⟩
    | _, _ => none

def txEntry (input : SlotInput) (node : Node) : Option TxEntry :=
  match node.slot.currentLink with
  | some l =>
    if !node.mac.tschIsAssociated || node.lock.tschLockRequested then none
    else
      let node := chooseLink conf l (enterSlot node)
      node.slot.currentLink.bind fun l => linkEntry conf l input node
  | none => none

theorem selectPhy_packet (slotframe : TschSlotframe) (link : TschLink) (busy : Bool) (node : Node) :
    (selectPhy conf slotframe link busy node).slot.currentPacket = node.slot.currentPacket ∧
      (selectPhy conf slotframe link busy node).slot.currentNeighbor =
        node.slot.currentNeighbor := by
  by_cases burst : node.slot.burstLinkScheduled = true
  · simp [selectPhy, burst]
  · simp [selectPhy, burst]

theorem executeLink_entry (l : Nat) (input : SlotInput) (node : Node) :
    match linkEntry conf l input node with
    | some entry => Quiet node entry.node ∧ executeLink conf l input node =
        tschTxSlot conf entry.neighbor entry.packet entry.link input.tx entry.node
    | none => Quiet node (executeLink conf l input node) := by
  have selected := Quiet.selectPhy conf (slotframeOfLink (node.link l) node) (node.link l)
    input.busy node
  have packet := (selectPhy_packet conf (slotframeOfLink (node.link l) node) (node.link l)
    input.busy node).1
  simp only [linkEntry, executeLink]
  generalize selectPhy conf (slotframeOfLink (node.link l) node) (node.link l) input.busy node =
    next at selected packet ⊢
  by_cases sample : (node.link l).has linkOptionSampleRssi = true
  · simp only [sample, if_true, or_true]
    exact selected
  · simp only [sample, Bool.false_eq_true, if_false, or_false]
    rcases chosen : next.slot.currentPacket with _ | p
    · simp only [packet.symm.trans chosen, ne_eq, not_true_eq_false, false_or]
      split
      · exact selected.trans (Quiet.rxSlot conf _ _ next)
      · exact ⟨rfl, rfl, rfl⟩
    · have active : node.slot.currentPacket ≠ none := by rw [← packet, chosen]; simp
      simp only [active, not_false_eq_true, true_or, if_true, ne_eq]
      rcases next.slot.currentNeighbor with _ | n
      · exact selected
      · exact ⟨selected, rfl⟩

theorem tschSlotOperation_entry (input : SlotInput) (node : Node) :
    match txEntry conf input node with
    | some entry => Quiet node entry.node ∧
        Quiet (tschTxSlot conf entry.neighbor entry.packet entry.link input.tx entry.node)
          (tschSlotOperation conf input node)
    | none => Quiet node (tschSlotOperation conf input node) := by
  cases associated : node.mac.tschIsAssociated with
  | false =>
    have none : txEntry conf input node = none := by
      simp only [txEntry, associated, Bool.not_false, Bool.true_or, if_true]
      split <;> rfl
    rw [none]
    simp only [tschSlotOperation, associated]
    exact Quiet.refl node
  | true =>
    have ended : ∀ middle : Node, Quiet middle
        { endSlot conf input middle with
          lock := { (endSlot conf input middle).lock with tschInSlotOperation := false } } :=
      fun middle => (Quiet.endSlot conf input middle).trans ⟨rfl, rfl, rfl⟩
    simp only [txEntry, tschSlotOperation, skipOrRunSlot, associated, Bool.not_true,
      Bool.false_or, if_true]
    rcases current : node.slot.currentLink with _ | l
    · exact ended node
    · by_cases requested : node.lock.tschLockRequested = true
      · simp only [requested, if_true]
        exact ended node
      · simp only [requested, Bool.false_eq_true, if_false, runSlot]
        have entered : Quiet node (enterSlot node) := ⟨rfl, rfl, rfl⟩
        have chosen := entered.trans (Quiet.chooseLink conf l _)
        generalize chooseLink conf l (enterSlot node) = middle at chosen ⊢
        rcases middle.slot.currentLink with _ | other
        · exact chosen.trans (ended middle)
        · have executed := executeLink_entry conf other input middle
          simp only [Option.bind_some]
          generalize linkEntry conf other input middle = transmitted at executed ⊢
          rcases transmitted with _ | entry
          · exact (chosen.trans executed).trans (ended _)
          · obtain ⟨quiet, same⟩ := executed
            simp only [same]
            exact ⟨chosen.trans quiet, ended _⟩

/-- `flags` is what the schedule and the routing layer write into a neighbor; `elsewhere` is what
the main thread does outside the queues. -/
inductive QueueStep where
  | addPacket (addr : LinkAddr) (maxTransmissions : UInt8) (sent : Option Nat) (ptr : Nat)
      (qb : Option Queuebuf)
  | addNbr (addr : LinkAddr)
  | flags (n : Nat) (isTimeSource : Bool) (txLinksCount dedicatedTxLinksCount : UInt8)
  | slot (input : SlotInput)
  | start (attempt : Attempt) (retries : List Attempt)
  | processPending
  | freeUnusedNeighbors
  | reset
  | elsewhere (requested : Bool) (sched : Schedule) (phy : Phy) (mac : Mac)
      (currentLink : Option Nat)

def QueueStep.apply (node : Node) : QueueStep → Node
  | addPacket addr maxTransmissions sent ptr qb =>
    (tschQueueAddPacket conf addr maxTransmissions sent ptr qb node).2
  | addNbr addr => (tschQueueAddNbr conf addr node).2
  | flags n isTimeSource txLinksCount dedicatedTxLinksCount => node.writeNeighbor n fun nbr =>
    { nbr with
      isTimeSource := isTimeSource
      txLinksCount := txLinksCount
      dedicatedTxLinksCount := dedicatedTxLinksCount }
  | slot input => tschSlotOperation conf input node
  | start attempt retries => tschSlotOperationStart conf attempt retries node
  | processPending => tschTxProcessPending node
  | freeUnusedNeighbors => tschQueueFreeUnusedNeighbors node
  | reset => tschQueueReset conf node
  | elsewhere requested sched phy mac currentLink => { node with
      lock := { node.lock with tschLockRequested := requested }
      sched := sched, phy := phy, mac := mac
      slot := { node.slot with currentLink := currentLink } }

theorem tschQueueRemoveNbr_eq {n : Nat} {node : Node} (free : node.lock.tschLocked = false)
    (unused : neighborUnused node n = true) : tschQueueRemoveNbr n node = { node with
      lock := { node.lock with tschLocked := false, tschLockRequested := false }
      queue := { node.queue with
        neighborList := listRemove node.queue.neighborList n
        neighborMemb := node.queue.neighborMemb.membFree n } } := by
  have idle : (node.neighbor n).txRingbuf.ringbufindexEmpty = true := by
    simp only [neighborUnused, Bool.and_eq_true] at unused
    simpa [tschQueueIsEmpty, tschIsLocked, free] using unused.2
  have stays : ∀ (fuel : Nat) (next : Node), next.lock.tschLocked = false →
      next.queue.neighborMemb = node.queue.neighborMemb →
      tschQueueFlushNbrQueueFrom fuel n next = next := by
    intro fuel next unlocked memb
    have none : tschQueueIsEmpty (some n) next = true := by
      simpa [tschQueueIsEmpty, tschIsLocked, unlocked, Node.neighbor, memb] using idle
    cases fuel with
    | zero => rfl
    | succ fuel => rw [tschQueueFlushNbrQueueFrom, if_pos none]
  simp only [tschQueueRemoveNbr, tschGetLock_of_unlocked free, tschQueueFlushNbrQueue]
  rw [stays _ _ (by rfl) (by rfl)]
  rfl

/-- What each removal of `tsch_queue_free_unused_neighbors` keeps, all of them keep. -/
theorem tschQueueFreeUnusedNeighbors_induct {motive : Node → Prop}
    (removed : ∀ node n, motive node → n ∈ node.queue.neighborList →
      neighborUnused node n = true → node.lock.tschLocked = false →
      motive (tschQueueRemoveNbr n node)) {node : Node} (free : node.lock.tschLocked = false)
    (unique : node.queue.neighborList.Nodup) (holds : motive node) :
    motive (tschQueueFreeUnusedNeighbors node) := by
  have each : ∀ (items : List Nat) (next : Node), next.lock.tschLocked = false → items.Nodup →
      (∀ n ∈ items, n ∈ next.queue.neighborList) → motive next →
      motive (items.foldl (fun node n =>
        if neighborUnused node n then tschQueueRemoveNbr n node else node) next) := by
    intro items
    induction items with
    | nil => exact fun _ _ _ _ holds => holds
    | cons n rest ih =>
      intro next unlocked distinct listed holds
      rw [List.nodup_cons] at distinct
      rw [List.foldl_cons]
      by_cases unused : neighborUnused next n = true
      · have kept := removed next n holds (listed n List.mem_cons_self) unused unlocked
        rw [if_pos unused]
        refine ih _ ?_ distinct.2 ?_ kept
        · rw [tschQueueRemoveNbr_eq unlocked unused]
        · intro m inside
          have other : m ≠ n := fun equal => distinct.1 (equal ▸ inside)
          rw [tschQueueRemoveNbr_eq unlocked unused]
          exact (List.mem_erase_of_ne other).mpr (listed m (List.mem_cons_of_mem n inside))
      · rw [if_neg unused]
        exact ih next unlocked distinct.2 (fun m inside => listed m (List.mem_cons_of_mem n inside))
          holds
  simp only [tschQueueFreeUnusedNeighbors, tschIsLocked, free, Bool.not_false, if_true]
  exact each _ node free unique (fun _ member => member) holds

theorem tschSlotOperationStart_quiet (attempt : Attempt) (retries : List Attempt) (node : Node) :
    Quiet node (tschSlotOperationStart conf attempt retries node) := by
  refine retryLoop_rounds conf (Quiet node) (Quiet node) ?_ (fun _ quiet => quiet) retries attempt
    node (Quiet.refl node)
  intro next quiet
  exact quiet.trans ((Quiet.takeNextActiveLink next).trans ⟨rfl, rfl, rfl⟩)

def slotWithAck (random : UInt16) (ack : ReceivedAck) : SlotInput :=
  { (default : SlotInput) with
    tx := { (default : TxInput) with
      prepare := fun _ => 0, transmit := fun _ => .ok, ack := ack, random := random }
    attempt := ⟨0, true⟩ }

end MultiPhyTsch
