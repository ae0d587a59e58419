import MultiPhyTsch.Tsch.QueueInvariant

/-! Packet conservation over runs of `tsch_queue_add_packet`, slots, `tsch_tx_process_pending`,
`tsch_queue_free_unused_neighbors` and `tsch_queue_reset`, with slots as atomic steps. -/

namespace MultiPhyTsch

variable (conf : TschConf)

structure PacketInv (node : Node) (queued : Nat → List Nat) (hand : List Nat) : Prop where
  unlocked : node.lock.tschLocked = false
  inv : QueueInv node.queue queued hand
  dequeued : node.queue.dequeuedRingbuf.Holds node.queue.dequeuedArray hand

structure KeepsDequeued (node next : Node) : Prop where
  unlocked : next.lock.tschLocked = node.lock.tschLocked
  ring : next.queue.dequeuedRingbuf = node.queue.dequeuedRingbuf
  array : next.queue.dequeuedArray = node.queue.dequeuedArray

namespace KeepsDequeued

theorem refl (node : Node) : KeepsDequeued node node := ⟨rfl, rfl, rfl⟩

theorem trans {node middle next : Node} (one : KeepsDequeued node middle)
    (two : KeepsDequeued middle next) : KeepsDequeued node next :=
  ⟨two.unlocked.trans one.unlocked, two.ring.trans one.ring, two.array.trans one.array⟩

theorem packetInv {node next : Node} {queued more : Nat → List Nat} {hand : List Nat}
    (keeps : KeepsDequeued node next) (state : PacketInv node queued hand)
    (inv : QueueInv next.queue more hand) : PacketInv next more hand :=
  ⟨keeps.unlocked.trans state.unlocked, inv, by rw [keeps.ring, keeps.array]; exact state.dequeued⟩

end KeepsDequeued

def Grows (node next : Node) (queued more : Nat → List Nat) : Prop :=
  ∀ n ∈ node.queue.neighborList, n ∈ next.queue.neighborList ∧ queued n <+: more n

section Neighbors

variable {node : Node} {queued : Nat → List Nat} {hand : List Nat}

variable {n : Nat}

theorem tschQueueGetNbr_some {addr : LinkAddr} (found : tschQueueGetNbr addr node = some n) :
    n ∈ node.queue.neighborList ∧ (node.neighbor n).addr = addr := by
  simp only [tschQueueGetNbr] at found
  split at found
  · exact ⟨List.mem_of_find?_eq_some found, by simpa using List.find?_some found⟩
  · cases found

theorem tschQueueAddNbr_inv (addr : LinkAddr) (free : node.lock.tschLocked = false)
    (inv : QueueInv node.queue queued hand) :
    ∃ more, QueueInv (tschQueueAddNbr conf addr node).2.queue more hand ∧
      KeepsDequeued node (tschQueueAddNbr conf addr node).2 ∧
      Grows node (tschQueueAddNbr conf addr node).2 queued more ∧
      (tschQueueAddNbr conf addr node).2.queue.packetMemb = node.queue.packetMemb ∧
      (tschQueueAddNbr conf addr node).2.queue.log = node.queue.log ∧
      ∀ n ∈ (tschQueueAddNbr conf addr node).1,
        n ∈ (tschQueueAddNbr conf addr node).2.queue.neighborList ∧
          ((tschQueueAddNbr conf addr node).2.neighbor n).addr = addr := by
  simp only [tschQueueAddNbr]
  rcases lookup : tschQueueGetNbr addr node with _ | n
  · simp only [tschGetLock_of_unlocked free]
    rcases alloc : node.queue.neighborMemb.membAlloc with ⟨_ | n, memb⟩
    · exact ⟨queued, inv, ⟨free.symm, rfl, rfl⟩, fun n member => ⟨member, List.prefix_refl _⟩, rfl,
        rfl, by simp⟩
    · obtain ⟨fresh, used, kept, -⟩ := Memb.membAlloc_taken inv.neighbors_inUse alloc
      have absent : ∀ m ∈ node.queue.neighborList, (node.queue.neighborMemb.mem m).addr ≠ addr := by
        simp only [tschQueueGetNbr, tschIsLocked, free, Bool.not_false, if_true,
          List.find?_eq_none, decide_eq_true_eq] at lookup
        exact lookup
      have added := inv.addNbr conf fresh used kept absent rfl
      refine ⟨_, added, ⟨free.symm, rfl, rfl⟩, ?_, rfl, rfl, ?_⟩
      · intro m inside
        have different : m ≠ n := fun same => fresh (same ▸ inside)
        rw [Function.update_of_ne different]
        refine ⟨?_, List.prefix_refl _⟩
        simp [tschReleaseLock, listAdd_of_not_mem fresh, inside]
      · intro m same
        cases same
        exact ⟨by simp [tschReleaseLock, listAdd], by
          simp [tschReleaseLock, Node.neighbor, newNeighbor]⟩
  · refine ⟨queued, inv, KeepsDequeued.refl node, fun n member => ⟨member, List.prefix_refl _⟩, rfl,
      rfl, ?_⟩
    intro m same
    cases same
    exact tschQueueGetNbr_some lookup

/-- What a call that may add a neighbor does to the neighbors: each one that is there stays as it
is, and at most one new, empty queue comes after them. -/
structure NbrAdded (addr : LinkAddr) (node next : Node) : Prop where
  kept : ∀ n ∈ node.queue.neighborList, next.neighbor n = node.neighbor n
  list : ∃ added, next.queue.neighborList = node.queue.neighborList ++ added ∧
    added.length ≤ 1 ∧ ∀ n ∈ added, next.neighbor n = newNeighbor conf addr
  eb : next.queue.nEb = node.queue.nEb

theorem tschQueueAddNbr_added (addr : LinkAddr) (free : node.lock.tschLocked = false)
    (inv : QueueInv node.queue queued hand) :
    NbrAdded conf addr node (tschQueueAddNbr conf addr node).2 := by
  have same : NbrAdded conf addr node node :=
    ⟨fun _ _ => rfl, ⟨[], (List.append_nil _).symm, Nat.zero_le 1, by simp⟩, rfl⟩
  simp only [tschQueueAddNbr]
  rcases tschQueueGetNbr addr node with _ | n
  · simp only [tschGetLock_of_unlocked free]
    rcases alloc : node.queue.neighborMemb.membAlloc with ⟨_ | n, memb⟩
    · exact ⟨same.kept, same.list, same.eb⟩
    · obtain ⟨fresh, -, kept, -⟩ := Memb.membAlloc_taken inv.neighbors_inUse alloc
      refine ⟨?_, ⟨[n], listAdd_of_not_mem fresh, Nat.le_refl 1, ?_⟩, rfl⟩
      · intro m inside
        have different : m ≠ n := fun equal => fresh (equal ▸ inside)
        simp only [tschReleaseLock, Node.neighbor]
        rw [Memb.write_other _ _ different, kept]
      · intro m new
        rw [List.mem_singleton.mp new]
        simp only [tschReleaseLock, Node.neighbor, Memb.write_same]
  · exact same

theorem tschQueueRemovePacketFromQueue_nil (inv : QueueInv node.queue queued hand)
    (member : n ∈ node.queue.neighborList) (empty : queued n = []) :
    tschQueueRemovePacketFromQueue (some n) node = (none, node) := by
  have holds := inv.rings n member
  rw [empty] at holds
  have nothing : (node.neighbor n).txRingbuf.ringbufindexGet =
      (none, (node.neighbor n).txRingbuf) := holds.get_nil.1
  simp [tschQueueRemovePacketFromQueue, nothing]

theorem tschQueueRemovePacketFromQueue_cons {n p : Nat} {rest : List Nat}
    (free : node.lock.tschLocked = false) (inv : QueueInv node.queue queued hand)
    (member : n ∈ node.queue.neighborList) (head : queued n = p :: rest) :
    ∃ next, tschQueueRemovePacketFromQueue (some n) node = (some p, next) ∧
      QueueInv next.queue (Function.update queued n rest) (hand ++ [p]) ∧
      KeepsDequeued node next ∧ next.queue.packetMemb = node.queue.packetMemb ∧
      next.queue.neighborList = node.queue.neighborList ∧ next.queue.nEb = node.queue.nEb ∧
      dequeuedUids next.queue.log = dequeuedUids node.queue.log := by
  have holds := inv.rings n member
  rw [head] at holds
  obtain ⟨get, -, stored, -⟩ := holds.get_cons
  have got : (node.neighbor n).txRingbuf.ringbufindexGet =
      (some (node.neighbor n).txRingbuf.getPtr, (node.neighbor n).txRingbuf.ringbufindexGet.2) := get
  have array : (node.neighbor n).txArray (node.neighbor n).txRingbuf.getPtr.toNat = some p := stored
  have popped := inv.pop member head rfl
  simp only [tschQueueRemovePacketFromQueue, tschIsLocked, free, Bool.not_false, if_true]
  rw [got]
  simp only [array, Option.toList_some, List.map_cons, List.map_nil]
  refine ⟨_, rfl, popped, ⟨rfl, rfl, rfl⟩, rfl, rfl, rfl, ?_⟩
  simp [Node.record, Node.writeNeighbor, dequeuedUids]

theorem tschQueueIsEmpty_iff (free : node.lock.tschLocked = false)
    (inv : QueueInv node.queue queued hand) (member : n ∈ node.queue.neighborList) :
    tschQueueIsEmpty (some n) node = true ↔ queued n = [] := by
  simp only [tschQueueIsEmpty, tschIsLocked, free, Bool.not_false, Bool.true_and, Option.any_some]
  exact (inv.rings n member).empty_iff

theorem deliver_inv {p : Nat} (inv : QueueInv node.queue queued hand) (member : p ∈ hand) :
    QueueInv (tschQueueFreePacket (some p) (macCallSentCallback p node)).queue queued
      (hand.erase p) :=
  inv.deliver member (node.packet p).ret (node.packet p).transmissions rfl

theorem tschQueueFlushNbrQueueFrom_inv : ∀ (fuel : Nat) {node : Node}
    {queued : Nat → List Nat}, node.lock.tschLocked = false → QueueInv node.queue queued hand →
    n ∈ node.queue.neighborList → (queued n).length ≤ fuel →
    QueueInv (tschQueueFlushNbrQueueFrom fuel n node).queue (Function.update queued n []) hand ∧
      KeepsDequeued node (tschQueueFlushNbrQueueFrom fuel n node) ∧
      (tschQueueFlushNbrQueueFrom fuel n node).queue.neighborList = node.queue.neighborList ∧
      (tschQueueFlushNbrQueueFrom fuel n node).queue.nEb = node.queue.nEb := by
  intro fuel
  induction fuel with
  | zero =>
    intro node queued free inv member bound
    have empty := List.eq_nil_of_length_eq_zero (Nat.le_zero.mp bound)
    rw [← empty, Function.update_eq_self]
    exact ⟨inv, KeepsDequeued.refl node, rfl, rfl⟩
  | succ fuel ih =>
    intro node queued free inv member bound
    rcases list : queued n with _ | ⟨p, rest⟩
    · have stop : tschQueueFlushNbrQueueFrom (fuel + 1) n node = node := by
        rw [tschQueueFlushNbrQueueFrom, if_pos ((tschQueueIsEmpty_iff free inv member).mpr list)]
      rw [stop, ← list, Function.update_eq_self]
      exact ⟨inv, KeepsDequeued.refl node, rfl, rfl⟩
    · obtain ⟨next, removed, popped, keeps, packets, lists, eb, -⟩ :=
        tschQueueRemovePacketFromQueue_cons free inv member list
      have busy : ¬ tschQueueIsEmpty (some n) node = true := by
        rw [tschQueueIsEmpty_iff free inv member, list]
        simp
      have round : tschQueueFlushNbrQueueFrom (fuel + 1) n node =
          tschQueueFlushNbrQueueFrom fuel n (tschQueueFreePacket (some p) (macCallSentCallback p
            (next.writePacket p fun packet => { packet with ret := .err }))) := by
        rw [tschQueueFlushNbrQueueFrom, if_neg busy, removed]
      have stored := popped.writePacket p (fun packet => { packet with ret := .err })
        fun _ => rfl
      have freed := deliver_inv stored (List.mem_append_right hand (List.mem_singleton_self p))
      have outside : p ∉ hand := by
        intro inside
        have apart := (List.nodup_append.mp inv.held_nodup).2.2
        exact apart p (List.mem_flatMap.mpr ⟨n, member, by simp [list]⟩) p inside rfl
      rw [List.erase_append_right _ outside, List.erase_cons_head, List.append_nil] at freed
      have shorter : (Function.update queued n rest n).length ≤ fuel := by
        rw [list, List.length_cons] at bound
        rw [Function.update_self]
        omega
      have kept : KeepsDequeued node (tschQueueFreePacket (some p) (macCallSentCallback p
          (next.writePacket p fun packet => { packet with ret := .err }))) :=
        keeps.trans ⟨rfl, rfl, rfl⟩
      have still : n ∈ (tschQueueFreePacket (some p) (macCallSentCallback p
          (next.writePacket p fun packet => { packet with ret := .err }))).queue.neighborList :=
        lists ▸ member
      obtain ⟨doneInv, doneKeeps, doneList, doneEb⟩ := ih (kept.unlocked.trans free) freed
        still shorter
      rw [round]
      rw [Function.update_idem] at doneInv
      exact ⟨doneInv, kept.trans doneKeeps, doneList.trans lists, doneEb.trans eb⟩

section

variable (free : node.lock.tschLocked = false)
include free

section

variable (inv : QueueInv node.queue queued hand)
include inv

theorem tschQueueFlushNbrQueue_inv (member : n ∈ node.queue.neighborList) :
    QueueInv (tschQueueFlushNbrQueue n node).queue (Function.update queued n []) hand ∧
      KeepsDequeued node (tschQueueFlushNbrQueue n node) ∧
      (tschQueueFlushNbrQueue n node).queue.neighborList = node.queue.neighborList ∧
      (tschQueueFlushNbrQueue n node).queue.nEb = node.queue.nEb := by
  apply tschQueueFlushNbrQueueFrom_inv _ free inv member
  exact (inv.rings n member).elements_eq.ge

theorem tschQueueReset_inv :
    ∃ more, QueueInv (tschQueueReset conf node).queue more hand ∧
      KeepsDequeued node (tschQueueReset conf node) := by
  simp only [tschQueueReset, tschIsLocked, free, Bool.not_false, if_true]
  obtain ⟨⟨more, done⟩, keeps, -⟩ := List.foldlRecOn (motive := fun next : Node =>
    (∃ more, QueueInv next.queue more hand) ∧ KeepsDequeued node next ∧
      next.queue.neighborList = node.queue.neighborList) node.queue.neighborList
    (fun node n => tschQueueBackoffReset conf n (tschQueueFlushNbrQueue n node))
    ⟨⟨queued, inv⟩, KeepsDequeued.refl node, rfl⟩ (by
      rintro next ⟨⟨queued, inv⟩, kept, same⟩ n listed
      obtain ⟨flushed, keeps, lists, -⟩ :=
        tschQueueFlushNbrQueue_inv (kept.unlocked.trans free) inv (same ▸ listed)
      exact ⟨⟨_, flushed.core (tschQueueBackoffReset_core conf n _)⟩,
        kept.trans (keeps.trans ⟨rfl, rfl, rfl⟩), lists.trans same⟩)
  exact ⟨more, done, keeps⟩

theorem tschQueueRemoveNbr_inv (member : n ∈ node.queue.neighborList)
    (unused : neighborUnused node n = true) :
    QueueInv (tschQueueRemoveNbr n node).queue queued hand ∧
      KeepsDequeued node (tschQueueRemoveNbr n node) := by
  rw [tschQueueRemoveNbr_eq free unused]
  simp only [neighborUnused, Bool.and_eq_true, Bool.not_eq_true'] at unused
  have empty := (tschQueueIsEmpty_iff free inv member).mp unused.2
  have notEb : node.queue.nEb ≠ some n := by
    intro isEb
    have broadcast := (inv.eb n isEb).2
    have unicast : (node.queue.neighborMemb.mem n).isBroadcast = false := unused.1.1.1
    rw [unicast] at broadcast
    cases broadcast
  exact ⟨inv.removeNbr member empty notEb rfl, ⟨free.symm, rfl, rfl⟩⟩

theorem tschQueueFreeUnusedNeighbors_inv :
    QueueInv (tschQueueFreeUnusedNeighbors node).queue queued hand ∧
      KeepsDequeued node (tschQueueFreeUnusedNeighbors node) := by
  refine tschQueueFreeUnusedNeighbors_induct
    (motive := fun next => QueueInv next.queue queued hand ∧ KeepsDequeued node next) ?_ free
    inv.neighbors_nodup ⟨inv, KeepsDequeued.refl node⟩
  rintro next n ⟨inv, kept⟩ member unused unlocked
  obtain ⟨removed, keeps⟩ := tschQueueRemoveNbr_inv unlocked inv member unused
  exact ⟨removed, kept.trans keeps⟩

end

end

end Neighbors

theorem tschTxProcessPendingFrom_inv {queued : Nat → List Nat} : ∀ (fuel : Nat) {node : Node}
    {hand : List Nat}, PacketInv node queued hand →
    ∃ rest, PacketInv (tschTxProcessPendingFrom fuel node) queued rest := by
  intro fuel
  induction fuel with
  | zero =>
    intro node hand state
    exact ⟨hand, state⟩
  | succ fuel ih =>
    intro node hand state
    rcases hand with _ | ⟨p, rest⟩
    · have stop : tschTxProcessPendingFrom (fuel + 1) node = node := by
        simp [tschTxProcessPendingFrom, state.dequeued.get_nil.2]
      rw [stop]
      exact ⟨[], state⟩
    · obtain ⟨-, peek, stored, holds⟩ := state.dequeued.get_cons
      have round : tschTxProcessPendingFrom (fuel + 1) node =
          tschTxProcessPendingFrom fuel (txProcessPendingOne p node) := by
        simp [tschTxProcessPendingFrom, peek, stored]
      rw [round]
      apply ih
      have freed := deliver_inv state.inv (List.mem_cons_self : p ∈ p :: rest)
      rw [List.erase_cons_head] at freed
      have free : (tschQueueFreePacket (some p) (macCallSentCallback p node)).lock.tschLocked =
        false := state.unlocked
      obtain ⟨swept, keeps⟩ := tschQueueFreeUnusedNeighbors_inv free freed
      refine ⟨keeps.unlocked.trans free, swept.withDequeued _ _, ?_⟩
      simp only [txProcessPendingOne, keeps.ring, keeps.array]
      exact holds

structure Refused (addr : LinkAddr) (node next : Node) : Prop where
  neighbors : NbrAdded conf addr node next
  count : next.queue.packetMemb.count = node.queue.packetMemb.count
  packets : ∀ p, node.queue.packetMemb.count p ≠ 0 → next.packet p = node.packet p
  dequeued : next.queue.dequeuedRingbuf = node.queue.dequeuedRingbuf ∧
    next.queue.dequeuedArray = node.queue.dequeuedArray
  log : next.queue.log = node.queue.log

theorem tschQueueAddPacket_inv {node : Node} {queued : Nat → List Nat} {hand : List Nat}
    (addr : LinkAddr) (maxTransmissions : UInt8) (sent : Option Nat) (ptr : Nat)
    (qb : Option Queuebuf) (free : node.lock.tschLocked = false)
    (state : QueueInv node.queue queued hand) {result : Option Nat × Node}
    (resultEq : result = tschQueueAddPacket conf addr maxTransmissions sent ptr qb node) :
    (∃ more, QueueInv result.2.queue more hand ∧ Grows node result.2 queued more) ∧
      KeepsDequeued node result.2 ∧ (result.1 = none → Refused conf addr node result.2) := by
  obtain ⟨more, inv, keeps, grows, packets, log, found⟩ := tschQueueAddNbr_inv conf addr free state
  have neighbors := tschQueueAddNbr_added conf addr free state
  simp only [tschQueueAddPacket, tschIsLocked, free, Bool.not_false, if_true] at resultEq
  generalize tschQueueAddNbr conf addr node = added at *
  obtain ⟨neighbor, next⟩ := added
  dsimp only at inv keeps grows packets log found neighbors
  have refused : result = (none, next) →
      (∃ more, QueueInv result.2.queue more hand ∧ Grows node result.2 queued more) ∧
        KeepsDequeued node result.2 ∧ (result.1 = none → Refused conf addr node result.2) := by
    rintro rfl
    refine ⟨⟨more, inv, grows⟩, keeps, fun _ => ⟨neighbors, by rw [packets], ?_, ?_, log⟩⟩
    · intro p _
      exact congrFun (congrArg Memb.mem packets) p
    · exact ⟨keeps.ring, keeps.array⟩
  rcases neighbor with _ | n
  · exact refused resultEq
  dsimp only at resultEq
  obtain ⟨member, address⟩ := found n rfl
  rcases space : (next.neighbor n).txRingbuf.ringbufindexPeekPut with _ | putIndex
  · rw [space] at resultEq
    exact refused resultEq
  rw [space] at resultEq
  dsimp only at resultEq
  rcases alloc : next.queue.packetMemb.membAlloc with ⟨_ | p, memb⟩
  · rw [alloc] at resultEq
    exact refused resultEq
  rw [alloc] at resultEq
  dsimp only at resultEq
  obtain ⟨fresh, used, kept, num⟩ := Memb.membAlloc_taken inv.held_inUse alloc
  rcases qb with _ | qb
  · -- the block goes back to the pool
    dsimp only at resultEq
    have freed := (used.write p fun packet => { packet with qb := none }).membFree
      List.mem_cons_self
    have back : ((memb.write p fun packet => { packet with qb := none }).membFree p).InUse
        (next.queue.held more hand) := by
      apply freed.congr
      intro block
      rw [List.mem_filter, List.mem_cons]
      grind
    have count : ((memb.write p fun packet => { packet with qb := none }).membFree p).count =
        next.queue.packetMemb.count := by
      funext block
      rw [inv.held_inUse.count_eq block]
      exact back.count_eq block
    have stored : QueueInv result.2.queue more hand := by
      rw [resultEq]
      refine inv.store ⟨rfl, rfl, rfl⟩ ⟨count, by simpa using num⟩ ?_ rfl
        (List.append_nil _).symm (fun event absent => by cases absent)
      intro q
      simp only [Queue.uid, Memb.membFree_mem, ← kept]
      exact memb.write_field p _ TschPacket.uid rfl q
    have same : KeepsDequeued node result.2 := by
      rw [resultEq]
      exact ⟨keeps.unlocked, keeps.ring, keeps.array⟩
    refine ⟨⟨more, stored, by rw [resultEq]; exact grows⟩, same, fun _ => ?_⟩
    rw [resultEq]
    refine ⟨⟨neighbors.kept, neighbors.list, neighbors.eb⟩, count.trans (by rw [packets]), ?_,
      ⟨keeps.ring, keeps.array⟩, log⟩
    intro q busy
    have different : q ≠ p := by
      rintro rfl
      apply busy
      rw [← packets, inv.held_inUse.count_eq, if_neg fresh]
    simp only [Node.packet, Memb.membFree_mem]
    rw [Memb.write_other _ _ different, kept, packets]
  · dsimp only at resultEq
    have same : (next.queue.neighborMemb.mem n).addr = addr := address
    have accepted := inv.accept member space fresh used kept
      (fun packet => { packet with
        qb := some qb, sent := sent, ptr := ptr, ret := .deferred
        transmissions := 0, maxTransmissions := maxTransmissions
        uid := next.queue.nextUid }) (fun _ => rfl) rfl
    rw [same] at accepted
    have unchanged : KeepsDequeued node result.2 := by
      rw [resultEq]
      exact ⟨keeps.unlocked, keeps.ring, keeps.array⟩
    have stored : QueueInv result.2.queue (Function.update more n (more n ++ [p])) hand := by
      rw [resultEq]
      exact accepted
    have longer : Grows node result.2 queued (Function.update more n (more n ++ [p])) := by
      intro m inside
      obtain ⟨listed, kept⟩ := grows m inside
      rw [resultEq]
      refine ⟨listed, kept.trans ?_⟩
      by_cases equal : m = n
      · subst equal
        rw [Function.update_self]
        exact List.prefix_append _ _
      · have other : Function.update more n (more n ++ [p]) m = more m :=
          Function.update_of_ne equal _ _
        exact other.symm ▸ List.prefix_refl (more m)
    refine ⟨⟨_, stored, longer⟩, unchanged, fun failed => ?_⟩
    rw [resultEq] at failed
    cases failed

section Slots

variable {node : Node} {queued : Nat → List Nat} {hand : List Nat}

variable {n p : Nat} {link : TschLink}

theorem tschQueueGetPacketForNbr_head
    (inv : QueueInv node.queue queued hand) (member : n ∈ node.queue.neighborList)
    (found : tschQueueGetPacketForNbr conf (some n) link node = some p) :
    ∃ rest, queued n = p :: rest := by
  have holds := inv.rings n member
  simp only [tschQueueGetPacketForNbr] at found
  split at found
  · rw [Option.bind_some] at found
    rcases list : queued n with _ | ⟨q, rest⟩
    · rw [list] at holds
      have nothing : (node.neighbor n).txRingbuf.ringbufindexPeekGet = none := holds.get_nil.2
      rw [nothing, Option.bind_none] at found
      cases found
    · rw [list] at holds
      obtain ⟨-, peek, stored, -⟩ := holds.get_cons
      have head : (node.neighbor n).txRingbuf.ringbufindexPeekGet =
        some (node.neighbor n).txRingbuf.getPtr := peek
      have pointer : (node.neighbor n).txArray (node.neighbor n).txRingbuf.getPtr.toNat = some q :=
        stored
      rw [head, Option.bind_some, pointer, Option.bind_some] at found
      split at found
      · cases found
      · split at found
        · cases found
        · cases found
          exact ⟨rest, rfl⟩
  · cases found

theorem getPacketAndNeighborForLink_some
    (found : getPacketAndNeighborForLink conf link node = (some p, some n)) :
    tschQueueGetPacketForNbr conf (some n) link node = some p ∧
      (n ∈ node.queue.neighborList ∨ node.queue.nEb = some n) := by
  have own : ∀ {m : Option Nat}, (∀ n ∈ m, n ∈ node.queue.neighborList ∨ node.queue.nEb = some n) →
      (tschQueueGetPacketForNbr conf m link node, m) = (some p, some n) →
      tschQueueGetPacketForNbr conf (some n) link node = some p ∧
        (n ∈ node.queue.neighborList ∨ node.queue.nEb = some n) := by
    intro m listed same
    obtain ⟨picked, rfl⟩ := Prod.mk.inj same
    exact ⟨picked, listed n rfl⟩
  have any : tschQueueGetUnicastPacketForAny conf link node = some (p, n) →
      tschQueueGetPacketForNbr conf (some n) link node = some p ∧
        (n ∈ node.queue.neighborList ∨ node.queue.nEb = some n) := by
    intro search
    simp only [tschQueueGetUnicastPacketForAny] at search
    split at search
    · obtain ⟨m, inside, picked⟩ := List.exists_of_findSome?_eq_some search
      split at picked
      · obtain ⟨q, head, same⟩ := Option.map_eq_some_iff.mp picked
        cases same
        exact ⟨head, .inl inside⟩
      · cases picked
    · cases search
  have advertised : (if link.linkType = .advertising ∨ link.linkType = .advertisingOnly then
      (tschQueueGetPacketForNbr conf node.queue.nEb link node, node.queue.nEb)
      else (none, none)) = (some p, some n) →
      tschQueueGetPacketForNbr conf (some n) link node = some p ∧
        (n ∈ node.queue.neighborList ∨ node.queue.nEb = some n) := by
    split
    · exact own fun m isEb => .inr isEb
    · intro same
      cases same
  simp only [getPacketAndNeighborForLink] at found
  generalize (if link.linkType = .advertising ∨ link.linkType = .advertisingOnly then
      (tschQueueGetPacketForNbr conf node.queue.nEb link node, node.queue.nEb)
      else (none, none)) = start at advertised found
  split at found
  · split at found
    · split at found
      · rename_i q head
        apply own (fun m same => .inl (tschQueueGetNbr_some same).1)
        rw [head]
        exact found
      · split at found
        · split at found
          · rename_i q m search
            cases found
            exact any search
          · cases found
        · cases found
    · exact advertised found
  · cases found

theorem chooseLink_some {l n p : Nat} (current : node.slot.currentLink = some l)
    (packet : (chooseLink conf l node).slot.currentPacket = some p)
    (neighbor : (chooseLink conf l node).slot.currentNeighbor = some n) :
    ∃ chosen, (chooseLink conf l node).slot.currentLink = some chosen ∧
      getPacketAndNeighborForLink conf (node.link chosen) node = (some p, some n) := by
  simp only [chooseLink] at packet neighbor ⊢
  rcases own : getPacketAndNeighborForLink conf (node.link l) node with ⟨_ | q, m⟩
  · rcases backup : node.slot.backupLink with _ | other
    · simp only [own, backup] at packet
      cases packet
    · simp only [own, backup] at packet neighbor ⊢
      split at packet
      · cases packet
      · rename_i notRx
        rw [if_neg notRx] at neighbor ⊢
        exact ⟨other, rfl, Prod.ext packet neighbor⟩
  · simp only [own] at packet neighbor ⊢
    rw [packet, neighbor] at own
    exact ⟨l, current, own⟩

theorem txEntry_some {input : SlotInput} {entry : TxEntry}
    (found : txEntry conf input node = some entry) :
    entry.node.queue = node.queue ∧
      tschQueueGetPacketForNbr conf (some entry.neighbor) entry.link node = some entry.packet ∧
      (entry.neighbor ∈ node.queue.neighborList ∨ node.queue.nEb = some entry.neighbor) := by
  simp only [txEntry] at found
  split at found
  · rename_i l current
    split at found
    · cases found
    · obtain ⟨other, chosen, linked⟩ := Option.bind_eq_some_iff.mp found
      have quiet : (chooseLink conf l (enterSlot node)).queue = node.queue ∧
          (chooseLink conf l (enterSlot node)).sched = node.sched := by
        simp only [chooseLink]
        split
        · split <;> exact ⟨rfl, rfl⟩
        · exact ⟨rfl, rfl⟩
      simp only [linkEntry] at linked
      split at linked
      · cases linked
      · split at linked
        · rename_i p n packet neighbor
          cases linked
          rw [(selectPhy_packet conf _ _ _ _).1] at packet
          rw [(selectPhy_packet conf _ _ _ _).2] at neighbor
          have entered : (enterSlot node).slot.currentLink = some l := current
          obtain ⟨same, isSame, picked⟩ := chooseLink_some conf entered packet neighbor
          rw [chosen, Option.some_inj] at isSame
          subst isSame
          have link : (chooseLink conf l (enterSlot node)).link other = node.link other := by
            rw [Node.link, quiet.2]
            rfl
          rw [link]
          have picked := getPacketAndNeighborForLink_some conf picked
          exact ⟨quiet.1, picked⟩
        · cases linked
  · cases found

theorem txEntry_head {input : SlotInput} {entry : TxEntry}
    (inv : QueueInv node.queue queued hand) (found : txEntry conf input node = some entry) :
    entry.neighbor ∈ node.queue.neighborList ∧
      ∃ rest, queued entry.neighbor = entry.packet :: rest := by
  obtain ⟨-, picked, listed | isEb⟩ := txEntry_some conf found
  · exact ⟨listed, tschQueueGetPacketForNbr_head conf inv listed picked⟩
  · have listed := (inv.eb _ isEb).1
    exact ⟨listed, tschQueueGetPacketForNbr_head conf inv listed picked⟩

theorem burstLinkRequested_node {n : Nat} (free : node.lock.tschLocked = false)
    (member : n ∈ node.queue.neighborList) : (burstLinkRequested conf n node).2 = node := by
  have found : (tschQueueGetNbr (node.neighbor n).addr node).isSome = true := by
    simp only [tschQueueGetNbr, tschIsLocked, free, Bool.not_false, if_true, List.find?_isSome]
    exact ⟨n, member, decide_eq_true rfl⟩
  obtain ⟨m, same⟩ := Option.isSome_iff_exists.mp found
  simp only [burstLinkRequested, tschQueuePacketCount, tschQueueAddNbr, same]
  split
  · split <;> rfl
  · rfl

theorem txAttempt_inv {n : Nat} (p : Nat) (link : TschLink) (input : TxInput)
    (free : node.lock.tschLocked = false) (inv : QueueInv node.queue queued hand)
    (member : n ∈ node.queue.neighborList) :
    QueueInv (txAttempt conf n p link input node).node.queue queued hand ∧
      KeepsDequeued node (txAttempt conf n p link input node).node ∧
      (txAttempt conf n p link input node).node.queue.neighborList = node.queue.neighborList := by
  have same := burstLinkRequested_node conf free member
  simp only [txAttempt]
  split
  · exact ⟨inv, KeepsDequeued.refl node, rfl⟩
  · rename_i qb stored
    generalize burstLinkRequested conf n node = burst at same ⊢
    obtain ⟨requested, next⟩ := burst
    dsimp only at same ⊢
    subst same
    generalize txFrame n requested input qb.data next = frame
    have written := inv.writePacket p
      (fun packet => { packet with qb := some { qb with data := frame.2 } }) fun _ => rfl
    split
    · have acknowledged := RadioWork.acknowledged conf n link requested input
        (next.writePacket p fun packet => { packet with qb := some { qb with data := frame.2 } })
      have queue := txAcknowledged_queue conf n link requested input
        (next.writePacket p fun packet => { packet with qb := some { qb with data := frame.2 } })
      refine ⟨queue ▸ written, ⟨acknowledged.locked_eq, ?_, ?_⟩, ?_⟩
      · rw [queue]; rfl
      · rw [queue]; rfl
      · rw [queue]; rfl
    · exact ⟨written, ⟨rfl, rfl, rfl⟩, rfl⟩

theorem storeStatus_inv {p : Nat} {attempt : TxAttempt}
    (inv : QueueInv attempt.node.queue queued hand) :
    QueueInv (storeStatus p attempt).queue queued hand := by
  refine inv.store ⟨rfl, rfl, rfl⟩ ⟨rfl, rfl⟩ ?_ rfl rfl ?_
  · exact attempt.node.queue.packetMemb.write_field p (fun packet =>
      { packet with transmissions := packet.transmissions + 1, ret := attempt.status })
      TschPacket.uid rfl
  · intro event member
    exact ⟨_, _, _, List.mem_singleton.mp member⟩

theorem txReport_inv {dequeuedIndex : UInt8} {random : UInt16}
    {attempt : TxAttempt} {rest values : List Nat} (free : attempt.node.lock.tschLocked = false)
    (inv : QueueInv attempt.node.queue queued hand)
    (holds : attempt.node.queue.dequeuedRingbuf.Holds attempt.node.queue.dequeuedArray values)
    (member : n ∈ attempt.node.queue.neighborList) (head : queued n = p :: rest)
    (announced : attempt.node.queue.dequeuedRingbuf.ringbufindexPeekPut = some dequeuedIndex)
    {next : Node} (nextEq : next = txReport conf dequeuedIndex n p link random attempt) :
    next.lock.tschLocked = false ∧
      ((QueueInv next.queue queued hand ∧
          next.queue.dequeuedRingbuf.Holds next.queue.dequeuedArray values) ∨
        (QueueInv next.queue (Function.update queued n rest) (hand ++ [p]) ∧
          next.queue.dequeuedRingbuf.Holds next.queue.dequeuedArray (values ++ [p]))) := by
  have stored : QueueInv (storeStatus p attempt).queue queued hand := storeStatus_inv inv
  have only := OnlyQueue.packetSent conf n p link attempt.status random (storeStatus p attempt)
  have core := tschQueuePacketSent_core conf n p link attempt.status random (storeStatus p attempt)
  simp only [txReport] at nextEq
  generalize tschQueuePacketSent conf n p link attempt.status random (storeStatus p attempt) =
    result at only core nextEq
  have unlocked : (storeStatus p attempt).lock.tschLocked = false := free
  rcases result with ⟨_ | _, sent⟩
  · obtain ⟨popped, removed, left, keeps, packets, -, -, dequeued⟩ :=
      tschQueueRemovePacketFromQueue_cons unlocked stored member head
    simp only [removed, Bool.false_eq_true, if_false] at core
    obtain ⟨memb, -, ring, array, log⟩ := Queue.fields_of_core core
    have uid : sent.queue.uid p = (storeStatus p attempt).queue.uid p := by
      rw [Queue.uid, memb, packets, Queue.uid]
    have first : sent.queue.uid p ∉ dequeuedUids sent.queue.log := by
      rw [uid, log, dequeued]
      exact stored.dequeued_left n member p (by simp [head])
    have pushed : QueueInv (pushDequeued dequeuedIndex p sent).queue
        (Function.update queued n rest) (hand ++ [p]) :=
      (left.core core).dequeue (List.mem_append_right hand List.mem_cons_self) first rfl
    rw [nextEq]
    refine ⟨only.locked_eq.trans unlocked, .inr ⟨pushed, ?_⟩⟩
    simp only [pushDequeued, Node.record, ring, array, keeps.ring, keeps.array]
    exact holds.put announced p
  · simp only [if_true] at core
    obtain ⟨-, -, ring, array, -⟩ := Queue.fields_of_core core
    rw [nextEq]
    refine ⟨only.locked_eq.trans unlocked, .inl ⟨stored.core core, ?_⟩⟩
    rw [ring, array]
    exact holds

theorem tschTxSlot_inv {input : TxInput} {rest : List Nat}
    (state : PacketInv node queued hand) (member : n ∈ node.queue.neighborList)
    (head : queued n = p :: rest) :
    ∃ more next, PacketInv (tschTxSlot conf n p link input node) more next := by
  simp only [tschTxSlot]
  split
  · rename_i dequeuedIndex announced
    obtain ⟨inv, keeps, list⟩ := txAttempt_inv conf p link input state.unlocked state.inv member
    have attempted := keeps.packetInv state inv
    rw [← keeps.ring] at announced
    obtain ⟨free, ⟨kept, holds⟩ | ⟨left, holds⟩⟩ := txReport_inv conf attempted.unlocked inv
      attempted.dequeued (list ▸ member) head announced rfl
    · exact ⟨_, _, free, kept, holds⟩
    · exact ⟨_, _, free, left, holds⟩
  · exact ⟨queued, hand, state⟩

theorem PacketInv.quiet {next : Node} (state : PacketInv node queued hand)
    (quiet : Quiet node next) : PacketInv next queued hand := by
  obtain ⟨-, -, ring, array, -⟩ := Queue.fields_of_core quiet.core_eq
  refine ⟨quiet.locked_eq.trans state.unlocked, state.inv.core quiet.core_eq, ?_⟩
  rw [ring, array]
  exact state.dequeued

theorem tschSlotOperation_inv (input : SlotInput) (state : PacketInv node queued hand) :
    ∃ more next, PacketInv (tschSlotOperation conf input node) more next := by
  have passed := tschSlotOperation_entry conf input node
  rcases found : txEntry conf input node with _ | entry
  · simp only [found] at passed
    exact ⟨queued, hand, state.quiet passed⟩
  · simp only [found] at passed
    obtain ⟨member, rest, head⟩ := txEntry_head conf state.inv found
    have entered := state.quiet passed.1
    rw [← (Queue.fields_of_core passed.1.core_eq).2.1] at member
    obtain ⟨more, next, sent⟩ := tschTxSlot_inv conf entered member head
    exact ⟨more, next, sent.quiet passed.2⟩

end Slots

theorem QueueStep.apply_packetInv {node : Node} {step : QueueStep}
    (owned : ∃ queued hand, PacketInv node queued hand) :
    ∃ queued hand, PacketInv (step.apply conf node) queued hand := by
  obtain ⟨queued, hand, state⟩ := owned
  cases step with
  | addPacket addr maxTransmissions sent ptr qb =>
    obtain ⟨⟨more, added, -⟩, keeps, -⟩ := tschQueueAddPacket_inv conf addr maxTransmissions sent
      ptr qb state.unlocked state.inv rfl
    exact ⟨more, hand, keeps.packetInv state added⟩
  | addNbr addr =>
    obtain ⟨more, inv, keeps, -⟩ := tschQueueAddNbr_inv conf addr state.unlocked state.inv
    exact ⟨more, hand, keeps.packetInv state inv⟩
  | flags n isTimeSource txLinksCount dedicatedTxLinksCount =>
    exact ⟨queued, hand, state.quiet
      ⟨Queue.core_write n _ fun _ => ⟨rfl, rfl, rfl, rfl⟩, rfl, rfl⟩⟩
  | slot input => exact tschSlotOperation_inv conf input state
  | start attempt retries =>
    exact ⟨queued, hand, state.quiet (tschSlotOperationStart_quiet conf attempt retries node)⟩
  | processPending =>
    obtain ⟨rest, processed⟩ := tschTxProcessPendingFrom_inv _ state
    exact ⟨queued, rest, processed⟩
  | freeUnusedNeighbors =>
    obtain ⟨inv, keeps⟩ := tschQueueFreeUnusedNeighbors_inv state.unlocked state.inv
    exact ⟨queued, hand, keeps.packetInv state inv⟩
  | reset =>
    obtain ⟨more, inv, keeps⟩ := tschQueueReset_inv conf state.unlocked state.inv
    exact ⟨more, hand, keeps.packetInv state inv⟩
  | elsewhere requested sched phy mac currentLink =>
    exact ⟨queued, hand, state.unlocked, state.inv, state.dequeued⟩

theorem tschQueueInit_packetInv :
    ∃ queued hand, PacketInv (tschQueueInit conf (Node.boot conf)) queued hand := by
  let node := Node.cleared conf
  have cleared : QueueInv node.queue (fun _ => []) [] := by
    constructor <;> try simp [node, Node.cleared, Node.boot, Queue.held, acceptedUids, acceptedFor, leftFor,
      dequeuedUids, calledUids, freedUids]
    · exact Memb.membInit_inUse _
    · exact Memb.membInit_inUse _
  have holds : node.queue.dequeuedRingbuf.Holds node.queue.dequeuedArray ([] : List Nat) :=
    RingBufIndex.Holds.init conf.dequeuedArraySize_power _
  obtain ⟨one, ebInv, ebKeeps, -, -, -, ebFound⟩ :=
    tschQueueAddNbr_inv conf tschEbAddress rfl cleared
  have ebAdded := tschQueueAddNbr_added conf tschEbAddress rfl cleared
  have ebFree := ebKeeps.unlocked.trans (rfl : node.lock.tschLocked = false)
  obtain ⟨both, inv, keeps, -⟩ := tschQueueAddNbr_inv conf tschBroadcastAddress ebFree ebInv
  have added := tschQueueAddNbr_added conf tschBroadcastAddress ebFree ebInv
  have final : PacketInv (tschQueueAddNbr conf tschBroadcastAddress
      (tschQueueAddNbr conf tschEbAddress node).2).2 both [] :=
    (ebKeeps.trans keeps).packetInv ⟨rfl, cleared, holds⟩ inv
  refine ⟨both, [], final.unlocked, { final.inv with eb := ?_ }, final.dequeued⟩
  intro n isEb
  have member : n ∈ (tschQueueAddNbr conf tschEbAddress node).2.queue.neighborList :=
    (ebFound n isEb).1
  obtain ⟨new, list, -, fresh⟩ := ebAdded.list
  have broadcast : ((tschQueueAddNbr conf tschEbAddress node).2.neighbor n).isBroadcast = true := by
    rw [fresh n (by rw [list] at member; exact member)]
    simp [newNeighbor]
  obtain ⟨more, longer, -⟩ := added.list
  have kept := congrArg TschNeighbor.isBroadcast (added.kept n member)
  exact ⟨longer ▸ List.mem_append_left more member, kept.trans broadcast⟩

def Queue.ringPackets (queue : Queue) (n : Nat) : List Nat :=
  ((queue.neighborMemb.mem n).txRingbuf.contents (queue.neighborMemb.mem n).txArray).reduceOption

def Queue.queuedPackets (queue : Queue) : List Nat := queue.neighborList.flatMap queue.ringPackets

def Queue.packetsFor (addr : LinkAddr) (queue : Queue) : List Nat :=
  (queue.neighborList.filter fun n => (queue.neighborMemb.mem n).addr = addr).flatMap
    queue.ringPackets

def Queue.dequeuedPackets (queue : Queue) : List Nat :=
  (queue.dequeuedRingbuf.contents queue.dequeuedArray).reduceOption

/-- Every accepted packet is in one ring or freed, with its callback called when it is freed; the
queue of an address is first in, first out; the blocks in use are the packets in the rings; and a
packet that cannot be accepted leaves all of this alone. -/
structure PacketsConserved (node : Node) : Prop where
  accepted_nodup : (acceptedUids node.queue.log).Nodup
  conserved : (node.queue.queuedPackets.map node.queue.uid ++
    node.queue.dequeuedPackets.map node.queue.uid ++ freedUids node.queue.log).Perm
      (acceptedUids node.queue.log)
  called : calledUids node.queue.log = freedUids node.queue.log
  fifo : ∀ addr, acceptedFor addr node.queue.log =
    leftFor addr node.queue.log ++ (node.queue.packetsFor addr).map node.queue.uid
  in_use : node.queue.packetMemb.membNumfree +
    (node.queue.queuedPackets.length + node.queue.dequeuedPackets.length) =
      node.queue.packetMemb.num
  refused : ∀ addr maxTransmissions sent ptr qb,
    (tschQueueAddPacket conf addr maxTransmissions sent ptr qb node).1 = none →
      Refused conf addr node (tschQueueAddPacket conf addr maxTransmissions sent ptr qb node).2

section Conserved

variable {node : Node} {queued : Nat → List Nat} {hand : List Nat}

section

variable {queue : Queue} (inv : QueueInv queue queued hand)
include inv

theorem QueueInv.ringPackets_eq {n : Nat} (member : n ∈ queue.neighborList) :
    queue.ringPackets n = queued n :=
  (inv.rings n member).reduceOption_eq

theorem QueueInv.queuedPackets_eq : queue.queuedPackets = queue.neighborList.flatMap queued :=
  List.flatMap_congr fun _ member => inv.ringPackets_eq member

theorem QueueInv.packetsFor_eq (addr : LinkAddr) : acceptedFor addr queue.log =
      leftFor addr queue.log ++ (queue.packetsFor addr).map queue.uid := by
  by_cases present : ∃ n ∈ queue.neighborList, (queue.neighborMemb.mem n).addr = addr
  · obtain ⟨n, member, rfl⟩ := present
    have alone : (queue.neighborList.filter fun m =>
        (queue.neighborMemb.mem m).addr = (queue.neighborMemb.mem n).addr) = [n] := by
      have same : ∀ m ∈ queue.neighborList,
          decide ((queue.neighborMemb.mem m).addr = (queue.neighborMemb.mem n).addr) = (m == n) := by
        intro m inside
        rw [beq_eq_decide]
        apply decide_eq_decide.mpr
        exact ⟨inv.neighbor_eq_of_addr inside member, fun equal => equal ▸ rfl⟩
      rw [List.filter_congr same, List.filter_beq,
        List.count_eq_one_of_mem inv.neighbors_nodup member, List.replicate_one]
    rw [Queue.packetsFor, alone, List.flatMap_singleton, inv.ringPackets_eq member]
    exact inv.fifo n member
  · have absent : ∀ n ∈ queue.neighborList, (queue.neighborMemb.mem n).addr ≠ addr :=
      fun n member same => present ⟨n, member, same⟩
    have nobody : (queue.neighborList.filter fun n => (queue.neighborMemb.mem n).addr = addr) =
        [] := by
      simpa using absent
    rw [Queue.packetsFor, nobody, List.flatMap_nil, List.map_nil, List.append_nil]
    exact inv.fifo_absent addr absent

end

theorem PacketInv.conserved (state : PacketInv node queued hand) : PacketsConserved conf node := by
  have rings := state.inv.queuedPackets_eq
  have dequeued : node.queue.dequeuedPackets = hand := state.dequeued.reduceOption_eq
  constructor
  · rw [state.inv.accepted]
    exact List.nodup_range
  · rw [state.inv.accepted, rings, dequeued, ← List.map_append]
    exact state.inv.conserved
  · exact state.inv.called
  · exact state.inv.packetsFor_eq
  · rw [rings, dequeued, ← List.length_append]
    exact state.inv.held_inUse.membNumfree_add state.inv.held_nodup
  · intro addr maxTransmissions sent ptr qb
    exact (tschQueueAddPacket_inv conf addr maxTransmissions sent ptr qb state.unlocked state.inv
      rfl).2.2

end Conserved

theorem packets_conserved (steps : List QueueStep) :
    PacketsConserved conf (Run.final (QueueStep.apply conf)
      (tschQueueInit conf (Node.boot conf)) steps) := by
  obtain ⟨queued, hand, state⟩ := Run.invariant_of_step
    (fun node => ∃ queued hand, PacketInv node queued hand)
    (fun _ _ owned => QueueStep.apply_packetInv conf owned) steps _ (tschQueueInit_packetInv conf)
  exact state.conserved conf

theorem refused_adds_queue :
    let node := tschQueueInit cc1200Conf (Node.boot cc1200Conf)
    let result := tschQueueAddPacket cc1200Conf (Vector.replicate 8 2) 3 none 0 none node
    result.1 = none ∧ node.queue.neighborList = [0, 1] ∧ result.2.queue.neighborList = [0, 1, 2] := by
  decide

end MultiPhyTsch
