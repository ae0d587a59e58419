import MultiPhyTsch.Tsch.QueueRuns

/-! Who owns a packet. An allocated block is in the ring of one neighbor or at hand, that is in
the ring of dequeued packets or on its way between two rings; every other packet was freed. The
lemmas are the moves the queue functions are made of. -/

namespace MultiPhyTsch

variable (conf : TschConf)

def acceptedUids (log : List QueueEvent) : List Nat :=
  log.filterMap fun
    | .accepted uid _ => some uid
    | _ => none

def acceptedFor (addr : LinkAddr) (log : List QueueEvent) : List Nat :=
  log.filterMap fun
    | .accepted uid other => if other = addr then some uid else none
    | _ => none

def leftFor (addr : LinkAddr) (log : List QueueEvent) : List Nat :=
  log.filterMap fun
    | .left uid other => if other = addr then some uid else none
    | _ => none

variable (log : List QueueEvent)

def dequeuedUids : List Nat :=
  log.filterMap fun
    | .dequeued uid => some uid
    | _ => none

def calledUids : List Nat :=
  log.filterMap fun
    | .callback uid _ _ => some uid
    | _ => none

def freedUids : List Nat :=
  log.filterMap fun
    | .freed uid => some uid
    | _ => none

section LogAppend

variable (log : List QueueEvent)

variable (more : List QueueEvent)

@[simp] theorem acceptedUids_append :
    acceptedUids (log ++ more) = acceptedUids log ++ acceptedUids more := List.filterMap_append

@[simp] theorem acceptedFor_append (addr : LinkAddr) (more : List QueueEvent) :
    acceptedFor addr (log ++ more) = acceptedFor addr log ++ acceptedFor addr more :=
  List.filterMap_append

@[simp] theorem leftFor_append (addr : LinkAddr) (more : List QueueEvent) :
    leftFor addr (log ++ more) = leftFor addr log ++ leftFor addr more := List.filterMap_append

@[simp] theorem dequeuedUids_append :
    dequeuedUids (log ++ more) = dequeuedUids log ++ dequeuedUids more := List.filterMap_append

@[simp] theorem calledUids_append :
    calledUids (log ++ more) = calledUids log ++ calledUids more := List.filterMap_append

@[simp] theorem freedUids_append :
    freedUids (log ++ more) = freedUids log ++ freedUids more := List.filterMap_append

end LogAppend

def Queue.uid (queue : Queue) (p : Nat) : Nat := (queue.packetMemb.mem p).uid

def Queue.held (queue : Queue) (queued : Nat → List Nat) (hand : List Nat) : List Nat :=
  queue.neighborList.flatMap queued ++ hand

structure QueueInv (queue : Queue) (queued : Nat → List Nat) (hand : List Nat) : Prop where
  neighbors_inUse : queue.neighborMemb.InUse queue.neighborList
  addrs_nodup : (queue.neighborList.map fun n => (queue.neighborMemb.mem n).addr).Nodup
  rings : ∀ n ∈ queue.neighborList, (queue.neighborMemb.mem n).txRingbuf.Holds
    (queue.neighborMemb.mem n).txArray (queued n)
  eb : ∀ n ∈ queue.nEb, n ∈ queue.neighborList ∧ (queue.neighborMemb.mem n).isBroadcast = true
  held_nodup : (queue.held queued hand).Nodup
  held_inUse : queue.packetMemb.InUse (queue.held queued hand)
  accepted : acceptedUids queue.log = List.range queue.nextUid
  conserved : ((queue.held queued hand).map queue.uid ++ freedUids queue.log).Perm
    (List.range queue.nextUid)
  called : calledUids queue.log = freedUids queue.log
  fifo : ∀ n ∈ queue.neighborList,
    acceptedFor (queue.neighborMemb.mem n).addr queue.log =
      leftFor (queue.neighborMemb.mem n).addr queue.log ++ (queued n).map queue.uid
  fifo_absent : ∀ addr, (∀ n ∈ queue.neighborList, (queue.neighborMemb.mem n).addr ≠ addr) →
    acceptedFor addr queue.log = leftFor addr queue.log
  dequeued_nodup : (dequeuedUids queue.log).Nodup
  dequeued_lt : ∀ uid ∈ dequeuedUids queue.log, uid < queue.nextUid
  dequeued_left : ∀ n ∈ queue.neighborList, ∀ p ∈ queued n, queue.uid p ∉ dequeuedUids queue.log

namespace QueueInv

variable {queue : Queue} {queued : Nat → List Nat} {hand : List Nat}

variable {next : Queue}

theorem core (inv : QueueInv queue queued hand) (same : next.core = queue.core) :
    QueueInv next queued hand := by
  have coreInv : QueueInv queue.core queued hand :=
    { inv with neighbors_inUse := ⟨inv.neighbors_inUse.count_eq, inv.neighbors_inUse.bounded⟩ }
  rw [← same] at coreInv
  exact { coreInv with
    neighbors_inUse := ⟨coreInv.neighbors_inUse.count_eq, coreInv.neighbors_inUse.bounded⟩ }

theorem neighbors_nodup (inv : QueueInv queue queued hand) : queue.neighborList.Nodup :=
  inv.addrs_nodup.of_map _

theorem neighbor_eq_of_addr (inv : QueueInv queue queued hand) {first second : Nat}
    (firstMember : first ∈ queue.neighborList) (secondMember : second ∈ queue.neighborList)
    (same : (queue.neighborMemb.mem first).addr = (queue.neighborMemb.mem second).addr) :
    first = second :=
  List.inj_on_of_nodup_map inv.addrs_nodup firstMember secondMember same

theorem mem_held {n p : Nat} (member : n ∈ queue.neighborList) (inside : p ∈ queued n) :
    p ∈ queue.held queued hand :=
  List.mem_append_left hand (List.mem_flatMap.mpr ⟨n, member, inside⟩)

theorem uid_lt (inv : QueueInv queue queued hand) {p : Nat} (member : p ∈ queue.held queued hand) :
    queue.uid p < queue.nextUid := by
  apply List.mem_range.mp
  apply inv.conserved.subset
  exact List.mem_append_left _ (List.mem_map_of_mem member)

theorem perm (inv : QueueInv queue queued hand) {more : List Nat} (same : hand.Perm more) :
    QueueInv queue queued more := by
  have held : (queue.held queued hand).Perm (queue.held queued more) := same.append_left _
  exact { inv with
    held_nodup := held.nodup_iff.mp inv.held_nodup
    held_inUse := inv.held_inUse.congr fun _ => held.symm.mem_iff
    conserved := ((held.symm.map queue.uid).append_right _).trans inv.conserved }

section

variable (inv : QueueInv queue queued hand)
  (neighbors : next.neighborMemb = queue.neighborMemb ∧ next.neighborList = queue.neighborList ∧ next.nEb = queue.nEb)
include inv neighbors

theorem keepNeighbors {more : List Nat} (uid : next.uid = queue.uid)
    (nextUid : next.nextUid = queue.nextUid)
    (accepted : acceptedUids next.log = acceptedUids queue.log)
    (addressed : ∀ addr, acceptedFor addr next.log = acceptedFor addr queue.log ∧
      leftFor addr next.log = leftFor addr queue.log) (heldNodup : (queue.held queued more).Nodup)
    (heldInUse : next.packetMemb.InUse (queue.held queued more))
    (conserved : ((queue.held queued more).map queue.uid ++ freedUids next.log).Perm
      (List.range queue.nextUid)) (called : calledUids next.log = freedUids next.log)
    (dequeuedNodup : (dequeuedUids next.log).Nodup)
    (dequeuedLt : ∀ number ∈ dequeuedUids next.log, number < queue.nextUid)
    (dequeuedLeft : ∀ n ∈ queue.neighborList, ∀ p ∈ queued n,
      queue.uid p ∉ dequeuedUids next.log) : QueueInv next queued more := by
  obtain ⟨memb, list, eb⟩ := neighbors
  have held : next.held queued more = queue.held queued more := by rw [Queue.held, list]; rfl
  constructor
  · rw [memb, list]; exact inv.neighbors_inUse
  · rw [memb, list]; exact inv.addrs_nodup
  · rw [memb, list]; exact inv.rings
  · rw [memb, list, eb]; exact inv.eb
  · rw [held]; exact heldNodup
  · rw [held]; exact heldInUse
  · rw [accepted, nextUid]; exact inv.accepted
  · rw [held, uid, nextUid]; exact conserved
  · exact called
  · rw [memb, list, uid]
    intro n member
    rw [(addressed _).1, (addressed _).2]
    exact inv.fifo n member
  · rw [memb, list]
    intro addr absent
    rw [(addressed _).1, (addressed _).2]
    exact inv.fifo_absent addr absent
  · exact dequeuedNodup
  · rw [nextUid]; exact dequeuedLt
  · rw [list, uid]; exact dequeuedLeft

theorem store (count : next.packetMemb.count = queue.packetMemb.count ∧
      next.packetMemb.num = queue.packetMemb.num) (uid : ∀ p, next.uid p = queue.uid p)
    (nextUid : next.nextUid = queue.nextUid) {events : List QueueEvent}
    (log : next.log = queue.log ++ events)
    (about : ∀ event ∈ events, ∃ uid status sent, event = .reported uid status sent) :
    QueueInv next queued hand := by
  have silent : ∀ (project : QueueEvent → Option Nat),
      (∀ uid status sent, project (.reported uid status sent) = none) →
      (queue.log ++ events).filterMap project = queue.log.filterMap project := by
    intro project silent
    rw [List.filterMap_append, List.append_right_eq_self, List.filterMap_eq_nil_iff]
    intro event member
    obtain ⟨uid, status, sent, rfl⟩ := about event member
    exact silent uid status sent
  have dequeued : dequeuedUids next.log = dequeuedUids queue.log := by
    rw [log]; exact silent _ fun _ _ _ => rfl
  have freed : freedUids next.log = freedUids queue.log := by
    rw [log]; exact silent _ fun _ _ _ => rfl
  have called : calledUids next.log = calledUids queue.log := by
    rw [log]; exact silent _ fun _ _ _ => rfl
  apply inv.keepNeighbors neighbors (funext uid) nextUid
  · rw [log]; exact silent _ fun _ _ _ => rfl
  · intro addr
    rw [log]
    exact ⟨silent _ fun _ _ _ => rfl, silent _ fun _ _ _ => rfl⟩
  · exact inv.held_nodup
  · exact ⟨count.1 ▸ inv.held_inUse.count_eq, count.2 ▸ inv.held_inUse.bounded⟩
  · rw [freed]; exact inv.conserved
  · rw [called, freed]; exact inv.called
  · rw [dequeued]; exact inv.dequeued_nodup
  · rw [dequeued]; exact inv.dequeued_lt
  · rw [dequeued]; exact inv.dequeued_left

end

theorem withDequeued (inv : QueueInv queue queued hand) (ring : RingBufIndex)
    (array : Nat → Option Nat) :
    QueueInv { queue with dequeuedRingbuf := ring, dequeuedArray := array } queued hand :=
  { inv with }

theorem writePacket {node : Node} (inv : QueueInv node.queue queued hand) (p : Nat)
    (change : TschPacket → TschPacket) (same : ∀ packet, (change packet).uid = packet.uid) :
    QueueInv (node.writePacket p change).queue queued hand := by
  have log : (node.writePacket p change).queue.log = node.queue.log ++ [] :=
    (List.append_nil _).symm
  refine inv.store ⟨rfl, rfl, rfl⟩ ⟨rfl, rfl⟩ ?_ rfl log ?_
  · exact node.queue.packetMemb.write_field p change TschPacket.uid (same _)
  · intro event absent
    cases absent

section

variable (inv : QueueInv queue queued hand)
include inv

section

variable {n : Nat} (member : n ∈ queue.neighborList)
include member

theorem held_update (blocks more : List Nat) :
    ∃ before after, queue.held queued hand = before ++ queued n ++ after ++ hand ∧
      queue.held (Function.update queued n blocks) more = before ++ blocks ++ after ++ more := by
  obtain ⟨before, after, old, new⟩ := exists_flatMap_split queued
    (Function.update queued n blocks) inv.neighbors_nodup member
    fun other different => Function.update_of_ne different _ _
  rw [Function.update_self] at new
  exact ⟨before, after, by rw [Queue.held, old], by rw [Queue.held, new]⟩

/-- The ring of one neighbor changes; the events are about its address only. -/
theorem changeRing {blocks more : List Nat} (change : TschNeighbor → TschNeighbor)
    (neighbors : next.neighborMemb = queue.neighborMemb.write n change ∧
      next.neighborList = queue.neighborList ∧ next.nEb = queue.nEb)
    (same : (change (queue.neighborMemb.mem n)).addr = (queue.neighborMemb.mem n).addr ∧
      (change (queue.neighborMemb.mem n)).isBroadcast = (queue.neighborMemb.mem n).isBroadcast)
    (ring : (change (queue.neighborMemb.mem n)).txRingbuf.Holds
      (change (queue.neighborMemb.mem n)).txArray blocks) {held : List Nat}
    (moved : (next.held (Function.update queued n blocks) more).Perm held) (heldNodup : held.Nodup)
    (heldInUse : next.packetMemb.InUse held)
    (accepted : acceptedUids next.log = List.range next.nextUid)
    (conserved : (held.map next.uid ++ freedUids next.log).Perm (List.range next.nextUid))
    (uid : ∀ q ∈ queue.held queued hand, next.uid q = queue.uid q) {event : QueueEvent}
    (log : next.log = queue.log ++ [event]) (called : calledUids [event] = freedUids [event])
    (dequeued : dequeuedUids [event] = []) (apart : ∀ addr, (queue.neighborMemb.mem n).addr ≠ addr →
      acceptedFor addr [event] = [] ∧ leftFor addr [event] = [])
    (fifo : (queued n).map queue.uid ++ acceptedFor (queue.neighborMemb.mem n).addr [event] =
      leftFor (queue.neighborMemb.mem n).addr [event] ++ blocks.map next.uid)
    (more_uids : queue.nextUid ≤ next.nextUid)
    (dequeuedLeft : ∀ q ∈ blocks, next.uid q ∉ dequeuedUids queue.log) :
    QueueInv next (Function.update queued n blocks) more := by
  obtain ⟨memb, list, eb⟩ := neighbors
  have addr : ∀ m, (next.neighborMemb.mem m).addr = (queue.neighborMemb.mem m).addr := by
    rw [memb]
    exact queue.neighborMemb.write_field n change TschNeighbor.addr same.1
  have broadcast : ∀ m, (next.neighborMemb.mem m).isBroadcast =
      (queue.neighborMemb.mem m).isBroadcast := by
    rw [memb]
    exact queue.neighborMemb.write_field n change TschNeighbor.isBroadcast same.2
  have unchanged : dequeuedUids next.log = dequeuedUids queue.log := by
    rw [log, dequeuedUids_append, dequeued, List.append_nil]
  constructor
  · rw [memb, list]
    exact inv.neighbors_inUse.write n change
  · simp only [list, addr]
    exact inv.addrs_nodup
  · intro m inside
    rw [list] at inside
    rw [memb]
    by_cases equal : m = n
    · subst equal
      rw [Memb.write_same, Function.update_self]
      exact ring
    · rw [Memb.write_other _ _ equal, Function.update_of_ne equal]
      exact inv.rings m inside
  · simp only [eb, list, broadcast]
    exact inv.eb
  · exact moved.nodup_iff.mpr heldNodup
  · exact heldInUse.congr fun block => moved.mem_iff
  · exact accepted
  · exact ((moved.map next.uid).append_right _).trans conserved
  · rw [log, calledUids_append, freedUids_append, inv.called, called]
  · intro m inside
    rw [list] at inside
    rw [addr, log, acceptedFor_append, leftFor_append, inv.fifo m inside]
    by_cases equal : m = n
    · subst equal
      rw [Function.update_self, List.append_assoc, List.append_assoc, fifo]
    · have different : (queue.neighborMemb.mem n).addr ≠ (queue.neighborMemb.mem m).addr :=
        fun same => equal (inv.neighbor_eq_of_addr member inside same).symm
      rw [(apart _ different).1, (apart _ different).2, Function.update_of_ne equal,
        List.append_nil, List.append_nil]
      exact congrArg _ (List.map_congr_left fun q stored => (uid q (mem_held inside stored)).symm)
  · intro other absent
    simp only [list, addr] at absent
    rw [log, acceptedFor_append, leftFor_append, inv.fifo_absent other absent,
      (apart _ (absent n member)).1, (apart _ (absent n member)).2]
  · rw [unchanged]
    exact inv.dequeued_nodup
  · intro number recorded
    rw [unchanged] at recorded
    exact Nat.lt_of_lt_of_le (inv.dequeued_lt number recorded) more_uids
  · intro m inside q stored
    rw [list] at inside
    rw [unchanged]
    by_cases equal : m = n
    · subst equal
      rw [Function.update_self] at stored
      exact dequeuedLeft q stored
    · rw [Function.update_of_ne equal] at stored
      rw [uid q (mem_held inside stored)]
      exact inv.dequeued_left m inside q stored

theorem pop {p : Nat} {rest : List Nat} (head : queued n = p :: rest) (nextEq : next = { queue with
      neighborMemb := queue.neighborMemb.write n fun nbr =>
        { nbr with txRingbuf := (queue.neighborMemb.mem n).txRingbuf.ringbufindexGet.2 }
      log := queue.log ++ [.left (queue.uid p) (queue.neighborMemb.mem n).addr] }) :
    QueueInv next (Function.update queued n rest) (hand ++ [p]) := by
  subst nextEq
  have holds := inv.rings n member
  rw [head] at holds
  obtain ⟨before, after, old, new⟩ := inv.held_update member rest (hand ++ [p])
  refine inv.changeRing member
    (fun nbr => { nbr with txRingbuf := (queue.neighborMemb.mem n).txRingbuf.ringbufindexGet.2 })
    ⟨rfl, rfl, rfl⟩ ⟨rfl, rfl⟩ holds.get_cons.2.2.2 ?_ inv.held_nodup inv.held_inUse
    ?_ ?_ (fun _ _ => rfl) rfl rfl rfl ?_ ?_ (Nat.le_refl _) ?_
  · refine List.Perm.trans (.of_eq new) ?_
    rw [old, head]
    have cut : before ++ rest ++ after ++ (hand ++ [p]) =
        before ++ (rest ++ after ++ hand ++ [p]) := by simp
    have back : before ++ p :: rest ++ after ++ hand =
        before ++ ([p] ++ (rest ++ after ++ hand)) := by simp
    rw [cut, back]
    exact List.perm_append_comm.append_left before
  · rw [← inv.accepted]
    simp [acceptedUids]
  · rw [freedUids_append]
    exact (List.append_nil (freedUids queue.log)).symm ▸ inv.conserved
  · intro addr different
    simp [acceptedFor, leftFor, different]
  · simp only [acceptedFor, leftFor, head, List.filterMap_cons, List.filterMap_nil, if_true,
      List.append_nil]
    rfl
  · exact fun q stored => inv.dequeued_left n member q (head ▸ List.mem_cons_of_mem p stored)

theorem accept {p : Nat} {putIndex : UInt8}
    (space : (queue.neighborMemb.mem n).txRingbuf.ringbufindexPeekPut = some putIndex)
    {memb : Memb TschPacket} (fresh : p ∉ queue.held queued hand)
    (used : memb.InUse (p :: queue.held queued hand)) (kept : memb.mem = queue.packetMemb.mem)
    (fill : TschPacket → TschPacket) (numbered : ∀ packet, (fill packet).uid = queue.nextUid)
    (nextEq : next = { queue with
      packetMemb := memb.write p fill
      nextUid := queue.nextUid + 1
      neighborMemb := queue.neighborMemb.write n fun nbr =>
        { nbr with
          txArray := Function.update nbr.txArray putIndex.toNat (some p)
          txRingbuf := nbr.txRingbuf.ringbufindexPut.2 }
      log := queue.log ++ [.accepted queue.nextUid (queue.neighborMemb.mem n).addr] }) :
    QueueInv next (Function.update queued n (queued n ++ [p])) hand := by
  have packets : next.packetMemb = memb.write p fill := by rw [nextEq]
  have uidSelf : next.uid p = queue.nextUid := by
    rw [Queue.uid, packets, Memb.write_same, numbered]
  have uidOther : ∀ q ∈ queue.held queued hand, next.uid q = queue.uid q := by
    intro q inside
    have different : q ≠ p := fun same => fresh (same ▸ inside)
    rw [Queue.uid, packets, Memb.write_other _ _ different, kept, Queue.uid]
  have ringUids : (queued n).map next.uid = (queued n).map queue.uid :=
    List.map_congr_left fun q stored => uidOther q (mem_held member stored)
  clear packets
  subst nextEq
  obtain ⟨before, after, old, new⟩ := inv.held_update member (queued n ++ [p]) hand
  refine inv.changeRing member
    (fun nbr => { nbr with
      txArray := Function.update nbr.txArray putIndex.toNat (some p)
      txRingbuf := nbr.txRingbuf.ringbufindexPut.2 })
    ⟨rfl, rfl, rfl⟩ ⟨rfl, rfl⟩ ((inv.rings n member).put space p) ?_
    (List.nodup_cons.mpr ⟨fresh, inv.held_nodup⟩) (used.write p fill) ?_ ?_ uidOther rfl rfl rfl
    ?_ ?_ (Nat.le_succ _) ?_
  · refine List.Perm.trans (.of_eq new) ?_
    have cut : before ++ (queued n ++ [p]) ++ after ++ hand =
        (before ++ queued n) ++ p :: (after ++ hand) := by simp
    have whole : before ++ queued n ++ after ++ hand = (before ++ queued n) ++ (after ++ hand) := by
      simp
    rw [old, cut, whole]
    exact List.perm_middle
  · rw [acceptedUids_append, inv.accepted, List.range_succ]
    simp [acceptedUids]
  · rw [List.map_cons, uidSelf, List.map_congr_left uidOther, List.cons_append, freedUids_append,
      List.range_succ]
    simp only [freedUids, List.filterMap_cons, List.filterMap_nil, List.append_nil]
    exact (inv.conserved.cons queue.nextUid).trans (List.perm_append_singleton _ _).symm
  · intro addr different
    simp [acceptedFor, leftFor, different]
  · simp [acceptedFor, leftFor, ringUids, uidSelf]
  · intro q stored
    rcases List.mem_append.mp stored with was | last
    · rw [uidOther q (mem_held member was)]
      exact inv.dequeued_left n member q was
    · rw [List.mem_singleton.mp last, uidSelf]
      intro recorded
      exact Nat.lt_irrefl _ (inv.dequeued_lt _ recorded)

end

theorem deliver {p : Nat} (member : p ∈ hand)
    (status : MacTxStatus) (transmissions : UInt8) (nextEq : next = { queue with
      packetMemb := queue.packetMemb.membFree p
      log := queue.log ++ [.callback (queue.uid p) status transmissions] ++
        [.freed (queue.uid p)] }) :
    QueueInv next queued (hand.erase p) := by
  have uid : next.uid = queue.uid := by
    funext q
    rw [nextEq, Queue.uid, Memb.membFree_mem, Queue.uid]
  have log : next.log = queue.log ++ [.callback (queue.uid p) status transmissions] ++
      [.freed (queue.uid p)] := by rw [nextEq]
  have dequeued : dequeuedUids next.log = dequeuedUids queue.log := by
    simp [log, dequeuedUids]
  have freed : freedUids next.log = freedUids queue.log ++ [queue.uid p] := by
    simp [log, freedUids]
  have split : (queue.held queued hand).Perm (p :: queue.held queued (hand.erase p)) :=
    ((List.perm_cons_erase member).append_left _).trans List.perm_middle
  have unique := split.nodup_iff.mp inv.held_nodup
  rw [List.nodup_cons] at unique
  apply inv.keepNeighbors (by rw [nextEq]; exact ⟨rfl, rfl, rfl⟩) uid (by rw [nextEq])
  · simp [log, acceptedUids]
  · simp [log, acceptedFor, leftFor]
  · exact unique.2
  · have owned : p ∈ queue.held queued hand := split.mem_iff.mpr List.mem_cons_self
    rw [nextEq]
    apply (inv.held_inUse.membFree owned).congr
    intro block
    rw [List.mem_filter, split.mem_iff, List.mem_cons]
    have outside := unique.1
    grind
  · rw [freed, ← List.append_assoc]
    refine List.Perm.trans ?_ inv.conserved
    refine (List.perm_append_singleton _ _).trans ?_
    exact (split.map queue.uid).symm.append_right (freedUids queue.log)
  · rw [freed, ← inv.called]
    simp [log, calledUids]
  · rw [dequeued]; exact inv.dequeued_nodup
  · rw [dequeued]; exact inv.dequeued_lt
  · rw [dequeued]; exact inv.dequeued_left

theorem dequeue {p : Nat} (member : p ∈ hand)
    (first : queue.uid p ∉ dequeuedUids queue.log) {ring : RingBufIndex} {array : Nat → Option Nat}
    (nextEq : next = { queue with
      dequeuedRingbuf := ring, dequeuedArray := array
      log := queue.log ++ [.dequeued (queue.uid p)] }) :
    QueueInv next queued hand := by
  have held : p ∈ queue.held queued hand := List.mem_append_right _ member
  have dequeued : dequeuedUids next.log = dequeuedUids queue.log ++ [queue.uid p] := by
    rw [nextEq, dequeuedUids_append]
    rfl
  have freed : freedUids next.log = freedUids queue.log := by simp [nextEq, freedUids]
  have called : calledUids next.log = calledUids queue.log := by simp [nextEq, calledUids]
  apply inv.keepNeighbors (by rw [nextEq]; exact ⟨rfl, rfl, rfl⟩) (by rw [nextEq]; rfl)
    (by rw [nextEq])
  · simp [nextEq, acceptedUids]
  · simp [nextEq, acceptedFor, leftFor]
  · exact inv.held_nodup
  · rw [nextEq]; exact inv.held_inUse
  · rw [freed]; exact inv.conserved
  · rw [called, freed]; exact inv.called
  · rw [dequeued]
    exact (List.perm_append_singleton _ _).nodup_iff.mpr
      (List.nodup_cons.mpr ⟨first, inv.dequeued_nodup⟩)
  · intro number recorded
    rw [dequeued, List.mem_append, List.mem_singleton] at recorded
    rcases recorded with earlier | rfl
    · exact inv.dequeued_lt number earlier
    · exact inv.uid_lt held
  · intro n inside q stored
    rw [dequeued, List.mem_append, List.mem_singleton, not_or]
    refine ⟨inv.dequeued_left n inside q stored, ?_⟩
    -- the numbers of two blocks in use differ, and `p` is not in a ring
    intro same
    have unique : ((queue.held queued hand).map queue.uid).Nodup :=
      (List.nodup_append.mp (inv.conserved.nodup_iff.mpr List.nodup_range)).1
    have equal : q = p := List.inj_on_of_nodup_map unique (mem_held inside stored) held same
    have apart := (List.nodup_append.mp inv.held_nodup).2.2
    exact apart q (List.mem_flatMap.mpr ⟨n, inside, stored⟩) p member equal

theorem addNbr {n : Nat} {addr : LinkAddr}
    {memb : Memb TschNeighbor} (fresh : n ∉ queue.neighborList)
    (used : memb.InUse (n :: queue.neighborList)) (kept : memb.mem = queue.neighborMemb.mem)
    (absent : ∀ m ∈ queue.neighborList, (queue.neighborMemb.mem m).addr ≠ addr)
    (nextEq : next = { queue with
      neighborMemb := memb.write n fun _ => newNeighbor conf addr
      neighborList := listAdd queue.neighborList n }) :
    QueueInv next (Function.update queued n []) hand := by
  have list : next.neighborList = queue.neighborList ++ [n] := by
    rw [nextEq, listAdd_of_not_mem fresh]
  have other : ∀ m ∈ queue.neighborList,
      next.neighborMemb.mem m = queue.neighborMemb.mem m ∧ Function.update queued n [] m = queued m := by
    intro m inside
    have different : m ≠ n := fun same => fresh (same ▸ inside)
    refine ⟨?_, Function.update_of_ne different _ _⟩
    rw [nextEq, Memb.write_other _ _ different, kept]
  have self : next.neighborMemb.mem n = newNeighbor conf addr := by rw [nextEq, Memb.write_same]
  have heldEq : next.held (Function.update queued n []) hand = queue.held queued hand := by
    rw [Queue.held, list, List.flatMap_append,
      List.flatMap_congr fun m inside => (other m inside).2]
    simp [Queue.held]
  subst nextEq
  constructor
  · rw [list]
    apply (used.write n fun _ => newNeighbor conf addr).congr
    intro block
    simp [or_comm]
  · rw [list, List.map_append, List.map_congr_left fun m inside => congrArg _ (other m inside).1,
      List.map_singleton, self, List.nodup_append]
    refine ⟨inv.addrs_nodup, List.nodup_singleton _, ?_⟩
    intro first firstMember second secondMember same
    obtain ⟨m, inside, rfl⟩ := List.mem_map.mp firstMember
    rw [List.mem_singleton] at secondMember
    exact absent m inside (same.trans secondMember)
  · intro m inside
    rw [list, List.mem_append, List.mem_singleton] at inside
    rcases inside with earlier | rfl
    · rw [(other m earlier).1, (other m earlier).2]
      exact inv.rings m earlier
    · rw [self, Function.update_self]
      exact RingBufIndex.Holds.init conf.queueNumPerNeighbor_power _
  · intro m isEb
    obtain ⟨inside, broadcast⟩ := inv.eb m isEb
    rw [list, (other m inside).1]
    exact ⟨List.mem_append_left _ inside, broadcast⟩
  · rw [heldEq]; exact inv.held_nodup
  · rw [heldEq]; exact inv.held_inUse
  · exact inv.accepted
  · rw [heldEq]; exact inv.conserved
  · exact inv.called
  · intro m inside
    rw [list, List.mem_append, List.mem_singleton] at inside
    rcases inside with earlier | rfl
    · rw [(other m earlier).1, (other m earlier).2]
      exact inv.fifo m earlier
    · rw [self, Function.update_self]
      simpa [newNeighbor] using inv.fifo_absent addr absent
  · intro another elsewhere
    apply inv.fifo_absent another
    intro m inside
    rw [← (other m inside).1]
    exact elsewhere m (list ▸ List.mem_append_left _ inside)
  · exact inv.dequeued_nodup
  · exact inv.dequeued_lt
  · intro m inside q stored
    rw [list, List.mem_append, List.mem_singleton] at inside
    rcases inside with earlier | rfl
    · rw [(other m earlier).2] at stored
      exact inv.dequeued_left m earlier q stored
    · rw [Function.update_self] at stored
      cases stored

theorem removeNbr {n : Nat} (member : n ∈ queue.neighborList)
    (empty : queued n = []) (notEb : queue.nEb ≠ some n) (nextEq : next = { queue with
      neighborMemb := queue.neighborMemb.membFree n
      neighborList := listRemove queue.neighborList n }) :
    QueueInv next queued hand := by
  have list : next.neighborList = queue.neighborList.erase n := by rw [nextEq]; rfl
  have listed : ∀ m, m ∈ next.neighborList ↔ m ∈ queue.neighborList ∧ m ≠ n := by
    intro m
    rw [list, inv.neighbors_nodup.mem_erase_iff, and_comm]
  have sub : next.neighborList.Sublist queue.neighborList := by
    rw [list]
    exact List.erase_sublist
  have mem : next.neighborMemb.mem = queue.neighborMemb.mem := by rw [nextEq, Memb.membFree_mem]
  have heldEq : next.held queued hand = queue.held queued hand := by
    obtain ⟨front, back, split⟩ := List.append_of_mem member
    have early : n ∉ front := by
      intro inside
      have unique := inv.neighbors_nodup
      rw [split, List.nodup_append] at unique
      exact unique.2.2 n inside n List.mem_cons_self rfl
    rw [Queue.held, Queue.held, list, split, List.erase_append_right _ early,
      List.erase_cons_head]
    simp [empty]
  subst nextEq
  constructor
  · have freed := inv.neighbors_inUse.membFree member
    apply freed.congr
    intro m
    rw [listed m, List.mem_filter]
    simp
  · rw [mem]
    exact (sub.map _).nodup inv.addrs_nodup
  · intro m inside
    rw [mem]
    exact inv.rings m ((listed m).mp inside).1
  · intro m isEb
    obtain ⟨inside, broadcast⟩ := inv.eb m isEb
    rw [mem, listed]
    refine ⟨⟨inside, ?_⟩, broadcast⟩
    rintro rfl
    exact notEb isEb
  · rw [heldEq]; exact inv.held_nodup
  · rw [heldEq]; exact inv.held_inUse
  · exact inv.accepted
  · rw [heldEq]; exact inv.conserved
  · exact inv.called
  · intro m inside
    rw [mem]
    exact inv.fifo m ((listed m).mp inside).1
  · intro addr elsewhere
    by_cases own : (queue.neighborMemb.mem n).addr = addr
    · -- nothing is left in the queue that goes
      have whole := inv.fifo n member
      rw [empty, List.map_nil, List.append_nil, own] at whole
      exact whole
    · apply inv.fifo_absent addr
      intro m inside
      by_cases equal : m = n
      · exact equal ▸ own
      · rw [← mem]
        exact elsewhere m ((listed m).mpr ⟨inside, equal⟩)
  · exact inv.dequeued_nodup
  · exact inv.dequeued_lt
  · intro m inside q stored
    exact inv.dequeued_left m ((listed m).mp inside).1 q stored

end

end QueueInv

end MultiPhyTsch
