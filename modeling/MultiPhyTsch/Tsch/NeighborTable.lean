import Mathlib.Logic.Relation
import MultiPhyTsch.Tsch.QueueRuns

/-! The neighbor table as slots and queue functions leave it to each other: who is in it, the
backoff state and the link counters. Everything that is done to it is one of five changes. -/

namespace MultiPhyTsch

variable (conf : TschConf)

structure NbrProfile where
  addr : LinkAddr
  isBroadcast : Bool
  backoffExponent : UInt8
  backoffWindow : UInt8
  txLinksCount : UInt8
  dedicatedTxLinksCount : UInt8
deriving DecidableEq, Repr

def TschNeighbor.profile (nbr : TschNeighbor) : NbrProfile :=
  ⟨nbr.addr, nbr.isBroadcast, nbr.backoffExponent, nbr.backoffWindow, nbr.txLinksCount,
    nbr.dedicatedTxLinksCount⟩

structure NbrTable where
  list : List Nat
  memb : Memb NbrProfile

def Queue.nbrTable (queue : Queue) : NbrTable :=
  ⟨queue.neighborList, queue.neighborMemb.map TschNeighbor.profile⟩

namespace NbrProfile

def backoffReset (nbr : NbrProfile) : NbrProfile :=
  { nbr with backoffWindow := 0, backoffExponent := conf.macMinBe }

def raisedExponent (nbr : NbrProfile) : UInt8 :=
  UInt8.ofNat (min (nbr.backoffExponent.toNat + 1) conf.macMaxBe.toNat)

def backoffInc (random : UInt16) (nbr : NbrProfile) : NbrProfile :=
  { nbr with
    backoffExponent := nbr.raisedExponent conf
    backoffWindow :=
      UInt8.ofNat ((random.toNat >>> 6) % 2 ^ (nbr.raisedExponent conf).toNat) + 1 }

def tick (nbr : NbrProfile) : NbrProfile := { nbr with backoffWindow := nbr.backoffWindow - 1 }

end NbrProfile

namespace NbrTable

inductive Change : NbrTable → NbrTable → Prop
  | added {list memb} (addr : LinkAddr) {n : Nat} {more : Memb NbrProfile} :
      (∀ m ∈ list, (memb.mem m).addr ≠ addr) → memb.membAlloc = (some n, more) →
      Change ⟨list, memb⟩
        ⟨listAdd list n, more.write n fun _ => (newNeighbor conf addr).profile⟩
  | removed {list memb} {n : Nat} : n ∈ list → (memb.mem n).isBroadcast = false →
      (memb.mem n).txLinksCount = 0 → Change ⟨list, memb⟩ ⟨listRemove list n, memb.membFree n⟩
  | backoffReset {list memb} (n : Nat) :
      Change ⟨list, memb⟩ ⟨list, memb.write n (NbrProfile.backoffReset conf)⟩
  | backoffInc {list memb} (n : Nat) (random : UInt16) :
      Change ⟨list, memb⟩ ⟨list, memb.write n (NbrProfile.backoffInc conf random)⟩
  | tick {list memb} (n : Nat) : (memb.mem n).backoffWindow ≠ 0 →
      Change ⟨list, memb⟩ ⟨list, memb.write n NbrProfile.tick⟩

def Work : NbrTable → NbrTable → Prop := Relation.ReflTransGen (Change conf)

theorem Work.preserves {invariant : NbrTable → Prop} {before after : NbrTable}
    (work : Work conf before after)
    (each : ∀ table next, invariant table → Change conf table next → invariant next)
    (holds : invariant before) : invariant after := by
  induction work with
  | refl => exact holds
  | tail _ change ih => exact each _ _ ih change

theorem Work.nodup {before after : NbrTable} (work : Work conf before after)
    (unique : before.list.Nodup) : after.list.Nodup := by
  have each : ∀ table next : NbrTable, table.list.Nodup → Change conf table next →
      next.list.Nodup := by
    intro table next distinct change
    cases change with
    | added addr _ _ =>
      simp only [listAdd, listRemove]
      exact List.Nodup.append (distinct.erase _) (List.nodup_singleton _)
        (List.disjoint_singleton.mpr distinct.not_mem_erase)
    | removed _ _ _ => exact distinct.erase _
    | backoffReset n => exact distinct
    | backoffInc n random => exact distinct
    | tick n _ => exact distinct
  exact work.preserves conf each unique

end NbrTable

structure QueueWork (node next : Node) : Prop where
  work : NbrTable.Work conf node.queue.nbrTable next.queue.nbrTable
  sched_eq : next.sched = node.sched
  unlocked : next.lock.tschLocked = false

namespace QueueWork

section

variable {conf}

theorem trans {node middle next : Node} (one : QueueWork conf node middle)
    (two : QueueWork conf middle next) : QueueWork conf node next :=
  ⟨one.work.trans two.work, two.sched_eq.trans one.sched_eq, two.unlocked⟩

theorem same {node next : Node} (free : next.lock.tschLocked = false)
    (table : next.queue.nbrTable = node.queue.nbrTable) (sched : next.sched = node.sched) :
    QueueWork conf node next := ⟨table ▸ Relation.ReflTransGen.refl, sched, free⟩

variable {node : Node}

theorem refl (free : node.lock.tschLocked = false) : QueueWork conf node node :=
  same free rfl rfl

theorem single {node next : Node} (free : next.lock.tschLocked = false)
    (sched : next.sched = node.sched)
    (change : NbrTable.Change conf node.queue.nbrTable next.queue.nbrTable) :
    QueueWork conf node next := ⟨Relation.ReflTransGen.single change, sched, free⟩

theorem foldl {α : Type} {step : Node → α → Node}
    (each : ∀ node item, node.lock.tschLocked = false → QueueWork conf node (step node item)) :
    ∀ (items : List α) (node : Node), node.lock.tschLocked = false →
      QueueWork conf node (items.foldl step node) := by
  intro items
  induction items with
  | nil => intro node free; exact refl free
  | cons item rest ih =>
    intro node free
    have one := each node item free
    exact one.trans (ih (step node item) one.unlocked)

theorem nodup {node next : Node} (done : QueueWork conf node next)
    (unique : node.queue.neighborList.Nodup) : next.queue.neighborList.Nodup :=
  done.work.nodup conf unique

end

variable {node : Node}

theorem writeNeighbor_same (free : node.lock.tschLocked = false) (n : Nat)
    (change : TschNeighbor → TschNeighbor)
    (profile : (change (node.neighbor n)).profile = (node.neighbor n).profile) :
    QueueWork conf node (node.writeNeighbor n change) := by
  apply same
  · exact free
  · simp only [Queue.nbrTable, Node.writeNeighbor]
    rw [Memb.map_write_same _ _ _ _ profile]
  · rfl

variable (addr : LinkAddr) (n : Nat) (free : node.lock.tschLocked = false)
include free

theorem addNbr : QueueWork conf node (tschQueueAddNbr conf addr node).2 := by
  simp only [tschQueueAddNbr]
  rcases lookup : tschQueueGetNbr addr node with _ | n
  · simp only [tschGetLock_of_unlocked free]
    rcases alloc : node.queue.neighborMemb.membAlloc with ⟨_ | n, memb⟩
    · exact same rfl rfl rfl
    · have absent : ∀ m ∈ node.queue.neighborList, (node.neighbor m).addr ≠ addr := by
        simpa [tschQueueGetNbr, tschIsLocked, free] using lookup
      have viewed : (node.queue.neighborMemb.map TschNeighbor.profile).membAlloc =
          (some n, memb.map TschNeighbor.profile) := by rw [Memb.map_membAlloc, alloc]
      have change : NbrTable.Change conf ⟨node.queue.neighborList, _⟩ _ := .added addr absent viewed
      rw [← Memb.map_write _ memb n (fun _ => newNeighbor conf addr) rfl] at change
      apply single
      · rfl
      · rfl
      · exact change
  · exact refl free

theorem packetCount : QueueWork conf node (tschQueuePacketCount conf addr node).2 := by
  have added := addNbr conf addr free
  simp only [tschQueuePacketCount, tschIsLocked, free, Bool.not_false, if_true]
  generalize tschQueueAddNbr conf addr node = result at added ⊢
  rcases result with ⟨_ | n, next⟩
  · exact added
  · exact added

theorem updateTimeSource (newAddr : Option LinkAddr) :
    QueueWork conf node (tschQueueUpdateTimeSource conf newAddr node).2 := by
  have forget : ∀ (old : Option Nat) {next : Node}, next.lock.tschLocked = false →
      QueueWork conf next (old.elim next fun old =>
        next.writeNeighbor old fun nbr => { nbr with isTimeSource := false }) := by
    intro old next unlocked
    cases old with
    | none => exact refl unlocked
    | some old => exact writeNeighbor_same conf unlocked old _ rfl
  simp only [tschQueueUpdateTimeSource]
  split
  · cases newAddr with
    | none => exact forget _ free
    | some addr =>
      have added := addNbr conf addr free
      simp only [Option.map_some]
      generalize tschQueueAddNbr conf addr node = result at added ⊢
      rcases result with ⟨_ | n, next⟩
      · exact added
      · dsimp only
        split
        · exact added
        · have chosen := writeNeighbor_same conf added.unlocked n
            (fun nbr => { nbr with isTimeSource := true }) rfl
          exact (added.trans chosen).trans (forget _ chosen.unlocked)
  · exact refl free

theorem removePacketFromQueue (n : Option Nat) :
    QueueWork conf node (tschQueueRemovePacketFromQueue n node).2 := by
  refine tschQueueRemovePacketFromQueue_cases n (refl free) fun n ring p => ?_
  have popped := writeNeighbor_same conf free n (fun nbr => { nbr with txRingbuf := ring }) rfl
  exact popped.trans (same popped.unlocked rfl rfl)

theorem freePacket (p : Option Nat) : QueueWork conf node (tschQueueFreePacket p node) := by
  cases p with
  | none => exact refl free
  | some p => exact same free rfl rfl

omit free in
theorem flushNbrQueueFrom : ∀ (fuel : Nat) {node : Node},
    node.lock.tschLocked = false → QueueWork conf node (tschQueueFlushNbrQueueFrom fuel n node) := by
  intro fuel
  induction fuel with
  | zero => intro node free; exact refl free
  | succ fuel ih =>
    intro node free
    rw [tschQueueFlushNbrQueueFrom]
    split
    · exact refl free
    · have removed := removePacketFromQueue conf free (some n)
      generalize tschQueueRemovePacketFromQueue (some n) node = result at removed ⊢
      rcases result with ⟨_ | p, next⟩
      · exact removed.trans (ih removed.unlocked)
      · have freed : QueueWork conf next (tschQueueFreePacket (some p) (macCallSentCallback p
            (next.writePacket p fun packet => { packet with ret := .err }))) :=
          same removed.unlocked rfl rfl
        exact (removed.trans freed).trans (ih freed.unlocked)

theorem flushNbrQueue :
    QueueWork conf node (tschQueueFlushNbrQueue n node) := flushNbrQueueFrom conf n _ free

theorem backoffReset : QueueWork conf node (tschQueueBackoffReset conf n node) := by
  apply single
  · exact free
  · rfl
  · have change : NbrTable.Change conf node.queue.nbrTable ⟨node.queue.neighborList, _⟩ :=
      .backoffReset n
    rw [← Memb.map_write TschNeighbor.profile node.queue.neighborMemb n
      (fun nbr => { nbr with backoffWindow := 0, backoffExponent := conf.macMinBe }) rfl] at change
    exact change

theorem backoffInc (random : UInt16) :
    QueueWork conf node (tschQueueBackoffInc conf n random node) := by
  apply single
  · exact free
  · rfl
  · have change : NbrTable.Change conf node.queue.nbrTable ⟨node.queue.neighborList, _⟩ :=
      .backoffInc n random
    rw [← Memb.map_write TschNeighbor.profile node.queue.neighborMemb n
      (fun nbr =>
        let exponent := UInt8.ofNat (min (nbr.backoffExponent.toNat + 1) conf.macMaxBe.toNat)
        { nbr with
          backoffExponent := exponent
          backoffWindow := UInt8.ofNat ((random.toNat >>> 6) % 2 ^ exponent.toNat) + 1 })
      rfl] at change
    exact change

theorem packetSent (p : Nat) (link : TschLink) (status : MacTxStatus) (random : UInt16)
    :
    QueueWork conf node (tschQueuePacketSent conf n p link status random node).2 := by
  have removed := removePacketFromQueue conf free (some n)
  simp only [tschQueuePacketSent]
  split
  · refine removed.trans ?_
    split
    · exact backoffReset conf n removed.unlocked
    · exact refl removed.unlocked
  · by_cases dropped : (node.packet p).transmissions ≥ (node.packet p).maxTransmissions
    · simp only [dropped, if_true]
      refine removed.trans ?_
      split
      · exact backoffInc conf n removed.unlocked random
      · exact refl removed.unlocked
    · simp only [dropped, if_false]
      split
      · exact backoffInc conf n free random
      · exact refl free

theorem reset : QueueWork conf node (tschQueueReset conf node) := by
  simp only [tschQueueReset, tschIsLocked, free, Bool.not_false, if_true]
  apply foldl _ _ _ free
  intro next n unlocked
  have flushed := flushNbrQueue conf n unlocked
  exact flushed.trans (backoffReset conf n flushed.unlocked)

theorem updateAllBackoffWindows :
    QueueWork conf node (tschQueueUpdateAllBackoffWindows addr node) := by
  simp only [tschQueueUpdateAllBackoffWindows, tschIsLocked, free, Bool.not_false, if_true]
  apply foldl _ _ _ free
  intro next n unlocked
  split
  · rename_i waiting
    simp only [Bool.and_eq_true, bne_iff_ne] at waiting
    apply single
    · exact unlocked
    · rfl
    · have change : NbrTable.Change conf next.queue.nbrTable ⟨next.queue.neighborList, _⟩ :=
        .tick n waiting.1
      rw [← Memb.map_write TschNeighbor.profile next.queue.neighborMemb n
        (fun nbr => { nbr with backoffWindow := nbr.backoffWindow - 1 }) rfl] at change
      exact change
  · exact refl unlocked

theorem addPacket (maxTransmissions : UInt8) (sent : Option Nat) (ptr : Nat)
    (qb : Option Queuebuf) : QueueWork conf node
      (tschQueueAddPacket conf addr maxTransmissions sent ptr qb node).2 := by
  have added := addNbr conf addr free
  simp only [tschQueueAddPacket, tschIsLocked, free, Bool.not_false, if_true]
  generalize tschQueueAddNbr conf addr node = result at added ⊢
  rcases result with ⟨_ | n, next⟩
  · exact added
  · dsimp only at added ⊢
    refine added.trans ?_
    cases (next.neighbor n).txRingbuf.ringbufindexPeekPut with
    | none => exact refl added.unlocked
    | some putIndex =>
      rcases next.queue.packetMemb.membAlloc with ⟨_ | p, memb⟩
      · exact refl added.unlocked
      · cases qb with
        | none => exact same added.unlocked rfl rfl
        | some qb =>
          apply same
          · exact added.unlocked
          · simp only [Queue.nbrTable, Node.record, Node.writeNeighbor]
            rw [Memb.map_write_same]
            rfl
          · rfl

theorem removeNbr {n : Nat} (member : n ∈ node.queue.neighborList) (unused : neighborUnused node n = true) :
    QueueWork conf node (tschQueueRemoveNbr n node) := by
  rw [tschQueueRemoveNbr_eq free unused]
  simp only [neighborUnused, Bool.and_eq_true, Bool.not_eq_true', beq_iff_eq] at unused
  obtain ⟨⟨⟨unicast, -⟩, noLinks⟩, -⟩ := unused
  apply single
  · rfl
  · rfl
  · have change : NbrTable.Change conf node.queue.nbrTable _ := .removed member unicast noLinks
    rw [← Memb.map_membFree] at change
    exact change

theorem freeUnusedNeighbors (unique : node.queue.neighborList.Nodup) :
    QueueWork conf node (tschQueueFreeUnusedNeighbors node) := by
  refine tschQueueFreeUnusedNeighbors_induct (motive := QueueWork conf node) ?_ free unique
    (refl free)
  intro next n work member unused unlocked
  exact work.trans (removeNbr conf unlocked member unused)

omit free in
theorem txProcessPendingFrom : ∀ (fuel : Nat) {node : Node}, node.lock.tschLocked = false →
    node.queue.neighborList.Nodup → QueueWork conf node (tschTxProcessPendingFrom fuel node) := by
  intro fuel
  induction fuel with
  | zero => intro node free _; exact refl free
  | succ fuel ih =>
    intro node free unique
    rw [tschTxProcessPendingFrom]
    cases node.queue.dequeuedRingbuf.ringbufindexPeekGet with
    | none => exact refl free
    | some dequeuedIndex =>
      dsimp only
      cases node.queue.dequeuedArray dequeuedIndex.toNat with
      | none => exact refl free
      | some p =>
        have freed : QueueWork conf node
            (tschQueueFreePacket (some p) (macCallSentCallback p node)) := same free rfl rfl
        have swept := freed.trans
          (freeUnusedNeighbors conf freed.unlocked (freed.nodup unique))
        have one : QueueWork conf node (txProcessPendingOne p node) :=
          swept.trans (same swept.unlocked rfl rfl)
        exact one.trans (ih one.unlocked (one.nodup unique))

theorem chooseLink (l : Nat) : QueueWork conf node (chooseLink conf l node) := by
  simp only [MultiPhyTsch.chooseLink]
  split
  · split <;> exact same free rfl rfl
  · exact same free rfl rfl

theorem selectPhy (slotframe : TschSlotframe) (link : TschLink) (busy : Bool)
    :
    QueueWork conf node (selectPhy conf slotframe link busy node) := same free rfl rfl

theorem burst : QueueWork conf node (burstLinkRequested conf n node).2 := by
  simp only [burstLinkRequested]
  split
  · exact packetCount conf _ free
  · exact refl free

theorem attempt (p : Nat) (link : TschLink) (input : TxInput)
    :
    QueueWork conf node (txAttempt conf n p link input node).node := by
  simp only [txAttempt]
  split
  · exact refl free
  · have requested := burst conf n free
    generalize burstLinkRequested conf n node = result at requested ⊢
    refine requested.trans ?_
    dsimp only
    split
    · apply same
      · rw [(RadioWork.acknowledged conf n link _ input _).locked_eq]
        exact requested.unlocked
      · rw [Queue.nbrTable, txAcknowledged_queue]
        rfl
      · rw [(RadioWork.acknowledged conf n link _ input _).sched_eq]
        rfl
    · exact same requested.unlocked rfl rfl

theorem txSlot (p : Nat) (link : TschLink) (input : TxInput)
    :
    QueueWork conf node (tschTxSlot conf n p link input node) := by
  simp only [tschTxSlot]
  split
  · have attempted := attempt conf n free p link input
    generalize txAttempt conf n p link input node = result at attempted ⊢
    have stored : QueueWork conf node (storeStatus p result) :=
      attempted.trans (same attempted.unlocked rfl rfl)
    have sent := stored.trans
      (packetSent conf n stored.unlocked p link result.status input.random)
    simp only [txReport]
    generalize tschQueuePacketSent conf n p link result.status input.random
      (storeStatus p result) = outcome at sent ⊢
    rcases outcome with ⟨_ | _, next⟩
    · exact sent.trans (same sent.unlocked rfl rfl)
    · exact sent
  · exact refl free

theorem rxSlot (link : TschLink) (input : RxInput) :
    QueueWork conf node (tschRxSlot conf link input node) := by
  apply same
  · rw [(RadioWork.rxSlot conf link input node).locked_eq]
    exact free
  · simp only [tschRxSlot, scheduleReceivedBurst, storeCorrection]
    split
    · split <;> split <;> rfl
    · rfl
  · exact (RadioWork.rxSlot conf link input node).sched_eq

theorem executeLink (l : Nat) (input : SlotInput) :
    QueueWork conf node (executeLink conf l input node) := by
  simp only [MultiPhyTsch.executeLink]
  split
  · have chosen := selectPhy conf free (slotframeOfLink (node.link l) node) (node.link l) input.busy
    generalize MultiPhyTsch.selectPhy conf (slotframeOfLink (node.link l) node) (node.link l)
      input.busy node = next at chosen ⊢
    split
    · exact chosen
    · split
      · exact chosen.trans (txSlot conf _ chosen.unlocked _ _ _)
      · exact chosen
      · exact chosen.trans (rxSlot conf chosen.unlocked _ _)
  · exact same free rfl rfl

omit free in
theorem takeNextActiveLink_queue (node : Node) :
    (takeNextActiveLink node).1.queue = node.queue ∧
      (takeNextActiveLink node).1.lock = node.lock ∧
      (takeNextActiveLink node).1.sched = node.sched := by
  simp only [takeNextActiveLink]
  split <;> exact ⟨rfl, rfl, rfl⟩

omit free in
theorem nextLink_queue (node : Node) :
    (nextLink node).1.queue = node.queue ∧ (nextLink node).1.lock = node.lock ∧
      (nextLink node).1.sched = node.sched := by
  simp only [nextLink]
  split
  · exact ⟨rfl, rfl, rfl⟩
  · exact takeNextActiveLink_queue node

theorem scheduleNext : QueueWork conf node (scheduleNext conf node).1 := by
  have counted : QueueWork conf node (countSharedLink node) := by
    simp only [countSharedLink]
    split
    · split
      · exact updateAllBackoffWindows conf _ free
      · exact refl free
    · exact refl free
  obtain ⟨queue, lock, sched⟩ := nextLink_queue (countSharedLink node)
  apply counted.trans
  apply same
  · exact (congrArg LockFlags.tschLocked lock).trans counted.unlocked
  · exact congrArg Queue.nbrTable queue
  · exact sched

theorem endSlot (input : SlotInput) : QueueWork conf node (endSlot conf input node) := by
  simp only [MultiPhyTsch.endSlot]
  split
  · exact same free rfl rfl
  · exact retryLoop_rounds conf (QueueWork conf node) (QueueWork conf node)
      (fun next done => done.trans (scheduleNext conf done.unlocked)) (fun _ done => done)
      _ _ node (refl free)

theorem slot (input : SlotInput) : QueueWork conf node (tschSlotOperation conf input node) := by
  have ran : QueueWork conf node (skipOrRunSlot conf input node) := by
    simp only [skipOrRunSlot, runSlot]
    split
    · split
      · exact refl free
      · have entered : QueueWork conf node (enterSlot node) := same free rfl rfl
        have chosen := fun l => entered.trans (chooseLink conf entered.unlocked l)
        split
        · exact (chosen _).trans (executeLink conf (chosen _).unlocked _ input)
        · exact chosen _
    · exact refl free
  simp only [tschSlotOperation]
  split
  · have ended := ran.trans (endSlot conf ran.unlocked input)
    exact ended.trans (same ended.unlocked rfl rfl)
  · exact refl free

theorem start (attempt : Attempt) (retries : List Attempt) :
    QueueWork conf node (tschSlotOperationStart conf attempt retries node) := by
  apply retryLoop_rounds conf (QueueWork conf node) (QueueWork conf node) ?_ (fun _ done => done)
    retries attempt node (refl free)
  intro next done
  obtain ⟨queue, lock, sched⟩ := takeNextActiveLink_queue next
  apply done.trans
  apply same
  · exact (congrArg LockFlags.tschLocked lock).trans done.unlocked
  · exact congrArg Queue.nbrTable queue
  · exact sched

end QueueWork

end MultiPhyTsch
