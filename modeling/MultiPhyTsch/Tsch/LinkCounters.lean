import MultiPhyTsch.Tsch.NeighborTable
import MultiPhyTsch.Tsch.PacketConservation
import MultiPhyTsch.Tsch.ScheduleCalls

/-! The link counters of the neighbors against the links of the schedule: `tsch-schedule.c` counts
a link in the neighbor it gets from `tsch-queue.c`, or nowhere when it gets none. -/

namespace MultiPhyTsch

variable (conf : TschConf)

def TschLink.txTo (addr : LinkAddr) (link : TschLink) : Bool :=
  link.has linkOptionTx && link.addr = addr

def TschLink.dedicatedTo (addr : LinkAddr) (link : TschLink) : Bool :=
  link.txTo addr && !link.has linkOptionShared

namespace Schedule

def countLinks (counted : TschLink → Bool) (sched : Schedule) : Nat :=
  sched.installedLinks.countP fun l => counted (sched.linkMemb.mem l)

def txLinksTo (addr : LinkAddr) (sched : Schedule) : Nat := sched.countLinks (TschLink.txTo addr)

def dedicatedTxLinksTo (addr : LinkAddr) (sched : Schedule) : Nat :=
  sched.countLinks (TschLink.dedicatedTo addr)

theorem dedicatedTxLinksTo_le (addr : LinkAddr) (sched : Schedule) :
    sched.dedicatedTxLinksTo addr ≤ sched.txLinksTo addr := by
  apply List.countP_mono_left
  intro l _ dedicated
  simp only [TschLink.dedicatedTo, Bool.and_eq_true] at dedicated
  exact dedicated.1

variable {sched : Schedule}

theorem countLinks_remove (inv : ScheduleInv sched) {sf l : Nat} (member : sf ∈ sched.slotframeList)
    (inside : l ∈ sched.links sf) (counted : TschLink → Bool) :
    sched.countLinks counted =
      (sched.withLinks sf (listRemove · l) (sched.linkMemb.membFree l)
        sched.currentLinkHandle).countLinks counted +
        (counted (sched.linkMemb.mem l)).toNat := by
  obtain ⟨before, after, old, new⟩ := sched.withLinks_split sf (listRemove · l)
    (sched.linkMemb.membFree l) sched.currentLinkHandle inv member
  have moved : (sched.links sf).Perm (l :: listRemove (sched.links sf) l) :=
    List.perm_cons_erase inside
  have content : (sched.withLinks sf (listRemove · l) (sched.linkMemb.membFree l)
      sched.currentLinkHandle).linkMemb.mem = sched.linkMemb.mem := Memb.membFree_mem _ _
  simp only [countLinks, old, new, content, List.countP_append, moved.countP_eq, List.countP_cons]
  cases counted (sched.linkMemb.mem l)
  · simp
  · simp only [if_true, Bool.toNat_true]
    omega

theorem countLinks_add (inv : ScheduleInv sched) {sf l : Nat} (member : sf ∈ sched.slotframeList)
    {memb : Memb TschLink} (link : TschLink) (handle : Nat) (fresh : l ∉ sched.installedLinks)
    (kept : memb.mem = sched.linkMemb.mem) (counted : TschLink → Bool) :
    (sched.withLinks sf (listAdd · l) (memb.write l fun _ => link) handle).countLinks counted =
      sched.countLinks counted + (counted link).toNat := by
  have outside : l ∉ sched.links sf := fun inside =>
    fresh (List.mem_flatMap.mpr ⟨sf, member, inside⟩)
  obtain ⟨before, after, old, new⟩ := sched.withLinks_split sf (listAdd · l)
    (memb.write l fun _ => link) handle inv member
  have content : (sched.withLinks sf (listAdd · l) (memb.write l fun _ => link)
      handle).linkMemb = memb.write l fun _ => link := rfl
  have unchanged : ∀ part : List Nat, l ∉ part →
      (part.countP fun m => counted ((memb.write l fun _ => link).mem m)) =
        part.countP fun m => counted (sched.linkMemb.mem m) := by
    intro part absent
    apply List.countP_congr
    intro m inside
    have different : m ≠ l := fun same => absent (same ▸ inside)
    rw [Memb.write_other _ _ different, kept]
  simp only [old, List.mem_append, not_or] at fresh
  rw [countLinks, countLinks, old, new, content, listAdd_of_not_mem outside]
  simp only [List.countP_append, List.countP_singleton, Memb.write_same,
    unchanged before fresh.1.1, unchanged (sched.links sf) fresh.1.2, unchanged after fresh.2]
  cases counted link
  · simp
  · simp only [if_true, Bool.toNat_true]
    omega

end Schedule

def NbrProfile.count (link : TschLink) (change : UInt8 → UInt8) (nbr : NbrProfile) : NbrProfile :=
  { nbr with
    txLinksCount := change nbr.txLinksCount
    dedicatedTxLinksCount := if link.has linkOptionShared then nbr.dedicatedTxLinksCount
      else change nbr.dedicatedTxLinksCount }

structure NbrTable.Counted (sched : Schedule) (table : NbrTable) : Prop where
  inUse : table.memb.InUse table.list
  distinct : (table.list.map fun n => (table.memb.mem n).addr).Nodup
  tx : ∀ n ∈ table.list, (table.memb.mem n).txLinksCount.toNat =
    sched.txLinksTo (table.memb.mem n).addr
  dedicated : ∀ n ∈ table.list, (table.memb.mem n).dedicatedTxLinksCount.toNat =
    sched.dedicatedTxLinksTo (table.memb.mem n).addr
  covered : ∀ addr, (∀ n ∈ table.list, (table.memb.mem n).addr ≠ addr) → sched.txLinksTo addr = 0

namespace NbrTable.Counted

variable {sched : Schedule} {list : List Nat} {memb : Memb NbrProfile}

theorem congr {next : Schedule} {table : NbrTable} (counted : table.Counted sched)
    (same : ∀ kind, next.countLinks kind = sched.countLinks kind) : table.Counted next := by
  refine ⟨counted.inUse, counted.distinct, ?_, ?_, ?_⟩
  · intro n member
    exact (counted.tx n member).trans (same _).symm
  · intro n member
    exact (counted.dedicated n member).trans (same _).symm
  · intro addr absent
    exact (same _).trans (counted.covered addr absent)

theorem write (counted : Counted sched ⟨list, memb⟩) (n : Nat) {change : NbrProfile → NbrProfile}
    (addr : ∀ nbr, (change nbr).addr = nbr.addr)
    (tx : ∀ nbr, (change nbr).txLinksCount = nbr.txLinksCount)
    (dedicated : ∀ nbr, (change nbr).dedicatedTxLinksCount = nbr.dedicatedTxLinksCount) :
    Counted sched ⟨list, memb.write n change⟩ := by
  have addrs := memb.write_field n change NbrProfile.addr (addr _)
  have txs := memb.write_field n change NbrProfile.txLinksCount (tx _)
  have dedicateds := memb.write_field n change NbrProfile.dedicatedTxLinksCount (dedicated _)
  constructor
  · exact counted.inUse.write n change
  · simp only [addrs]
    exact counted.distinct
  · simp only [addrs, txs]
    exact counted.tx
  · simp only [addrs, dedicateds]
    exact counted.dedicated
  · simp only [addrs]
    exact counted.covered

theorem added {conf : TschConf} (counted : Counted sched ⟨list, memb⟩) {addr : LinkAddr} {n : Nat}
    {more : Memb NbrProfile} (absent : ∀ m ∈ list, (memb.mem m).addr ≠ addr)
    (alloc : memb.membAlloc = (some n, more)) :
    Counted sched ⟨listAdd list n, more.write n fun _ => (newNeighbor conf addr).profile⟩ := by
  obtain ⟨fresh, used, content, -⟩ := Memb.membAlloc_taken counted.inUse alloc
  have old : ∀ m ∈ list, (more.write n fun _ => (newNeighbor conf addr).profile).mem m =
      memb.mem m := by
    intro m member
    have different : m ≠ n := fun same => fresh (same ▸ member)
    rw [Memb.write_other _ _ different, content]
  have none := counted.covered addr absent
  have noneDedicated := sched.dedicatedTxLinksTo_le addr
  rw [listAdd_of_not_mem fresh]
  constructor
  · apply (used.write n fun _ => (newNeighbor conf addr).profile).congr
    intro m
    simp [or_comm]
  · simp only [List.map_append, List.map_singleton, Memb.write_same]
    rw [List.map_congr_left fun m member => congrArg NbrProfile.addr (old m member),
      List.nodup_append]
    refine ⟨counted.distinct, List.nodup_singleton _, ?_⟩
    intro first firstMember second secondMember
    obtain ⟨m, member, rfl⟩ := List.mem_map.mp firstMember
    rw [List.mem_singleton.mp secondMember]
    exact absent m member
  · intro m member
    rcases List.mem_append.mp member with earlier | last
    · simp only [old m earlier]
      exact counted.tx m earlier
    · rw [List.mem_singleton.mp last, Memb.write_same]
      exact none.symm
  · intro m member
    rcases List.mem_append.mp member with earlier | last
    · simp only [old m earlier]
      exact counted.dedicated m earlier
    · rw [List.mem_singleton.mp last, Memb.write_same]
      show (0 : Nat) = sched.dedicatedTxLinksTo addr
      omega
  · intro other missing
    apply counted.covered other
    intro m member
    rw [← old m member]
    exact missing m (List.mem_append_left _ member)

theorem removed (counted : Counted sched ⟨list, memb⟩) {n : Nat} (member : n ∈ list)
    (noLinks : (memb.mem n).txLinksCount = 0) :
    Counted sched ⟨listRemove list n, memb.membFree n⟩ := by
  have unique : list.Nodup := counted.distinct.of_map _
  have sub : (listRemove list n).Sublist list := List.erase_sublist
  constructor
  · apply (counted.inUse.membFree member).congr
    intro m
    simp [listRemove, unique.mem_erase_iff, and_comm]
  · simp only [Memb.membFree_mem]
    exact (sub.map _).nodup counted.distinct
  · simp only [Memb.membFree_mem]
    exact fun m inside => counted.tx m (sub.subset inside)
  · simp only [Memb.membFree_mem]
    exact fun m inside => counted.dedicated m (sub.subset inside)
  · simp only [Memb.membFree_mem]
    intro addr missing
    by_cases same : (memb.mem n).addr = addr
    · have count := counted.tx n member
      simp only [noLinks, same] at count
      exact count.symm
    · apply counted.covered addr
      intro m inside
      by_cases equal : m = n
      · rw [equal]
        exact same
      · exact missing m ((unique.mem_erase_iff).mpr ⟨equal, inside⟩)

theorem change {conf : TschConf} {table next : NbrTable} (counted : table.Counted sched)
    (change : Change conf table next) : next.Counted sched := by
  cases change with
  | added addr absent alloc => exact counted.added absent alloc
  | removed member unicast noLinks => exact counted.removed member noLinks
  | backoffReset n => exact counted.write n (fun _ => rfl) (fun _ => rfl) (fun _ => rfl)
  | backoffInc n random => exact counted.write n (fun _ => rfl) (fun _ => rfl) (fun _ => rfl)
  | tick n waiting => exact counted.write n (fun _ => rfl) (fun _ => rfl) (fun _ => rfl)

theorem recount {next : Schedule} (counted : Counted sched ⟨list, memb⟩) {n : Nat}
    (member : n ∈ list) {link : TschLink} (sends : link.has linkOptionTx = true)
    (receiver : (memb.mem n).addr = link.addr) {change : UInt8 → UInt8}
    (tx : ∀ (addr : LinkAddr) (count : UInt8), count.toNat = sched.txLinksTo addr →
      (if link.txTo addr then change count else count).toNat = next.txLinksTo addr)
    (dedicated : ∀ (addr : LinkAddr) (count : UInt8), count.toNat = sched.dedicatedTxLinksTo addr →
      (if link.dedicatedTo addr then change count else count).toNat =
        next.dedicatedTxLinksTo addr) :
    Counted next ⟨list, memb.write n (NbrProfile.count link change)⟩ := by
  have own : link.txTo (memb.mem n).addr = true := by simp [TschLink.txTo, sends, receiver]
  have other : ∀ m ∈ list, m ≠ n → link.txTo (memb.mem m).addr = false := by
    intro m inside different
    have apart : (memb.mem m).addr ≠ (memb.mem n).addr := fun same =>
      different (List.inj_on_of_nodup_map counted.distinct inside member same)
    simp [TschLink.txTo, ← receiver, apart.symm]
  have addrs := memb.write_field n (NbrProfile.count link change) NbrProfile.addr rfl
  constructor
  · exact counted.inUse.write n (NbrProfile.count link change)
  · simp only [addrs]
    exact counted.distinct
  · intro m inside
    simp only [addrs]
    rw [← tx _ _ (counted.tx m inside)]
    by_cases equal : m = n
    · subst equal
      rw [Memb.write_same, if_pos own]
      rfl
    · rw [Memb.write_other _ _ equal, other m inside equal]
      rfl
  · intro m inside
    simp only [addrs]
    rw [← dedicated _ _ (counted.dedicated m inside)]
    by_cases equal : m = n
    · subst equal
      rw [Memb.write_same, TschLink.dedicatedTo, own, NbrProfile.count]
      cases link.has linkOptionShared <;> rfl
    · rw [Memb.write_other _ _ equal, TschLink.dedicatedTo, other m inside equal]
      rfl
  · intro addr missing
    simp only [addrs] at missing
    have apart : link.txTo addr = false := by
      simp [TschLink.txTo, ← receiver, missing n member]
    have none := counted.covered addr missing
    have still := tx addr 0 none.symm
    rw [apart] at still
    exact still.symm

end NbrTable.Counted

def NbrRoom (addr : LinkAddr) (node : Node) : Prop :=
  (∃ n ∈ node.queue.neighborList, (node.neighbor n).addr = addr) ∨
    node.queue.neighborMemb.membAlloc.1 ≠ none

structure CountersInv (node : Node) : Prop where
  unlocked : node.lock.tschLocked = false
  sched : ScheduleInv node.sched
  counted : node.queue.nbrTable.Counted node.sched

structure CountersKept (node next : Node) : Prop where
  inv : CountersInv next
  room : ∀ addr, NbrRoom addr node → NbrRoom addr next

theorem CountersKept.refl {node : Node} (inv : CountersInv node) : CountersKept node node :=
  ⟨inv, fun _ room => room⟩

theorem CountersKept.trans {node middle next : Node} (one : CountersKept node middle)
    (two : CountersKept middle next) : CountersKept node next :=
  ⟨two.inv, fun addr room => two.room addr (one.room addr room)⟩

section Counters

variable {node : Node}

theorem CountersInv.work {next : Node} (inv : CountersInv node)
    (done : QueueWork conf node next) : CountersInv next := by
  refine ⟨done.unlocked, done.sched_eq ▸ inv.sched, ?_⟩
  rw [done.sched_eq]
  exact done.work.preserves conf (fun _ _ counted change => counted.change change) inv.counted

theorem CountersInv.nodup (inv : CountersInv node) : node.queue.neighborList.Nodup :=
  inv.counted.distinct.of_map _

theorem tschQueueAddNbr_room {addr : LinkAddr} (free : node.lock.tschLocked = false)
    (room : NbrRoom addr node) :
    ∃ n, (tschQueueAddNbr conf addr node).1 = some n ∧
      n ∈ (tschQueueAddNbr conf addr node).2.queue.neighborList ∧
      ((tschQueueAddNbr conf addr node).2.neighbor n).addr = addr := by
  simp only [tschQueueAddNbr]
  rcases lookup : tschQueueGetNbr addr node with _ | n
  · simp only [tschGetLock_of_unlocked free]
    rcases room with ⟨n, member, same⟩ | free
    · simp only [tschQueueGetNbr, tschIsLocked, free, Bool.not_false, if_true,
        List.find?_eq_none, decide_eq_true_eq] at lookup
      exact (lookup n member same).elim
    · obtain ⟨n, alloc⟩ := Option.ne_none_iff_exists'.mp free
      rcases result : node.queue.neighborMemb.membAlloc with ⟨found, memb⟩
      rw [result] at alloc
      dsimp only at alloc
      subst alloc
      refine ⟨n, rfl, ?_, ?_⟩
      · simp [tschReleaseLock, listAdd]
      · simp [tschReleaseLock, Node.neighbor, newNeighbor]
  · obtain ⟨member, same⟩ := tschQueueGetNbr_some lookup
    exact ⟨n, rfl, member, same⟩

theorem updateLinkCounters_inv {sched : Schedule} (link : TschLink) {change : UInt8 → UInt8}
    (free : node.lock.tschLocked = false) (inv : ScheduleInv node.sched)
    (counted : node.queue.nbrTable.Counted sched)
    (room : link.has linkOptionTx = true → NbrRoom link.addr node)
    (tx : ∀ (addr : LinkAddr) (count : UInt8), count.toNat = sched.txLinksTo addr →
      (if link.txTo addr then change count else count).toNat = node.sched.txLinksTo addr)
    (dedicated : ∀ (addr : LinkAddr) (count : UInt8), count.toNat = sched.dedicatedTxLinksTo addr →
      (if link.dedicatedTo addr then change count else count).toNat =
        node.sched.dedicatedTxLinksTo addr) :
    CountersInv (updateLinkCounters conf link.addr link.linkOptions change node) := by
  by_cases sends : link.has linkOptionTx = true
  · have tested : (link.linkOptions &&& linkOptionTx != 0) = true := sends
    have done := QueueWork.addNbr conf link.addr free
    obtain ⟨n, found, member, receiver⟩ := tschQueueAddNbr_room conf free (room sends)
    simp only [updateLinkCounters, tested, if_true]
    generalize tschQueueAddNbr conf link.addr node = result at *
    obtain ⟨first, next⟩ := result
    dsimp only at found done member receiver ⊢
    subst found
    have kept := done.work.preserves conf (fun _ _ held change => held.change change) counted
    refine ⟨done.unlocked, ?_, ?_⟩
    · exact done.sched_eq ▸ inv
    · have same : (next.writeNeighbor n fun nbr => { nbr with
          txLinksCount := change nbr.txLinksCount
          dedicatedTxLinksCount := if link.has linkOptionShared then nbr.dedicatedTxLinksCount
            else change nbr.dedicatedTxLinksCount }).queue.nbrTable =
          ⟨next.queue.neighborList, (next.queue.neighborMemb.map TschNeighbor.profile).write n
            (NbrProfile.count link change)⟩ := by
        simp only [Queue.nbrTable, Node.writeNeighbor]
        rw [Memb.map_write TschNeighbor.profile]
        rfl
      have recounted := kept.recount member sends receiver tx dedicated
      rw [← same, ← done.sched_eq] at recounted
      exact recounted
  · have tested : ¬ (link.linkOptions &&& linkOptionTx != 0) = true := sends
    have quiet : ∀ addr, link.txTo addr = false := by
      intro addr
      simp [TschLink.txTo, sends]
    simp only [updateLinkCounters, tested]
    refine ⟨free, inv, counted.inUse, counted.distinct, ?_, ?_, ?_⟩
    · intro n member
      have count := tx _ _ (counted.tx n member)
      rw [quiet] at count
      exact count
    · intro n member
      have count := dedicated _ _ (counted.dedicated n member)
      rw [TschLink.dedicatedTo, quiet] at count
      exact count
    · intro addr missing
      have count := tx addr 0 (counted.covered addr missing).symm
      rw [quiet] at count
      exact count.symm

theorem updateLinkCounters_room {link : TschLink} (change : UInt8 → UInt8)
    (present : link.has linkOptionTx = true →
      ∃ n ∈ node.queue.neighborList, (node.neighbor n).addr = link.addr)
    (free : node.lock.tschLocked = false) {addr : LinkAddr} (room : NbrRoom addr node) :
    NbrRoom addr (updateLinkCounters conf link.addr link.linkOptions change node) := by
  simp only [updateLinkCounters]
  split
  · rename_i sends
    obtain ⟨m, member, same⟩ := present sends
    have found : (tschQueueGetNbr link.addr node).isSome = true := by
      simp only [tschQueueGetNbr, tschIsLocked, free, Bool.not_false, if_true, List.find?_isSome]
      exact ⟨m, member, decide_eq_true same⟩
    obtain ⟨n, isSome⟩ := Option.isSome_iff_exists.mp found
    simp only [tschQueueAddNbr, isSome]
    rcases room with ⟨other, listed, receiver⟩ | spare
    · refine .inl ⟨other, listed, ?_⟩
      rw [← receiver]
      apply node.neighbor_writeNeighbor_field n TschNeighbor.addr
      rfl
    · refine .inr ?_
      simp only [Node.writeNeighbor]
      rw [Memb.write_membAlloc]
      exact spare
  · exact room

theorem tschScheduleRemoveLink_counters {sf l : Nat} (inv : CountersInv node)
    (member : sf ∈ node.sched.slotframeList) (installed : l ∈ node.sched.installedLinks) :
    CountersKept node (tschScheduleRemoveLink conf (some sf) (some l) node).2 := by
  by_cases handle : (node.link l).slotframeHandle = (node.slotframe sf).handle
  · have inside : l ∈ node.sched.links sf := by
      by_contra absent
      exact inv.sched.not_installed member handle absent installed
    have less := Schedule.countLinks_remove inv.sched member inside
    have present : (node.link l).has linkOptionTx = true →
        ∃ n ∈ node.queue.neighborList, (node.neighbor n).addr = (node.link l).addr := by
      intro sends
      by_contra absent
      simp only [not_exists, not_and] at absent
      have none := inv.counted.covered (node.link l).addr absent
      have one := less (TschLink.txTo (node.link l).addr)
      have own : (node.sched.linkMemb.mem l).txTo (node.link l).addr = true := by
        have sends : (node.sched.linkMemb.mem l).has linkOptionTx = true := sends
        simp [TschLink.txTo, sends, Node.link]
      rw [own, Bool.toNat_true] at one
      rw [Schedule.txLinksTo] at none
      omega
    have down : ∀ (kind : TschLink → Bool) (count : UInt8),
        count.toNat = node.sched.countLinks kind →
        (if kind (node.link l) then count - 1 else count).toNat =
          (node.sched.withLinks sf (listRemove · l) (node.sched.linkMemb.membFree l)
            node.sched.currentLinkHandle).countLinks kind := by
      intro kind count exact
      have one := less kind
      change _ = _ + (kind (node.link l)).toNat at one
      cases counts : kind (node.link l) with
      | false =>
        rw [counts, Bool.toNat_false] at one
        rw [if_neg Bool.false_ne_true]
        omega
      | true =>
        rw [counts, Bool.toNat_true] at one
        have positive : (1 : UInt8) ≤ count := by
          rw [UInt8.le_iff_toNat_le]
          simp only [UInt8.reduceToNat]
          omega
        rw [if_pos rfl, UInt8.toNat_sub_of_le _ _ positive]
        simp only [UInt8.reduceToNat]
        omega
    obtain ⟨middle, free, queue, sched, eq⟩ : ∃ middle : Node,
        middle.lock.tschLocked = false ∧ middle.queue = node.queue ∧
        middle.sched = node.sched.withLinks sf (listRemove · l) (node.sched.linkMemb.membFree l)
          node.sched.currentLinkHandle ∧
        (tschScheduleRemoveLink conf (some sf) (some l) node).2 =
          updateLinkCounters conf (node.link l).addr (node.link l).linkOptions (· - 1) middle := by
      simp only [tschScheduleRemoveLink, handle, if_true, tschGetLock_of_unlocked inv.unlocked]
      exact ⟨tschReleaseLock (removeLinkLocked sf l { node with
        lock := { node.lock with tschLocked := true, tschLockRequested := false } }),
        rfl, rfl, rfl, rfl⟩
    rw [eq]
    simp only [Node.neighbor, ← queue] at present
    rw [← sched] at down
    have counted := inv.counted
    rw [← queue] at counted
    constructor
    · apply updateLinkCounters_inv conf (node.link l) free _ counted
      · intro sends
        exact .inl (present sends)
      · exact fun addr => down (TschLink.txTo addr)
      · exact fun addr => down (TschLink.dedicatedTo addr)
      · rw [sched]
        exact (inv.sched.removeLink member handle).1
    · intro addr room
      simp only [NbrRoom, Node.neighbor, ← queue] at room
      exact updateLinkCounters_room conf (· - 1) present free room
  · rw [tschScheduleRemoveLink_refused conf handle]
    exact CountersKept.refl inv

theorem removeLinksFrom_counters (sf fuel : Nat) (inv : CountersInv node)
    (member : sf ∈ node.sched.slotframeList) :
    CountersKept node (removeLinksFrom conf fuel sf node) := by
  refine (@removeLinksFrom_induct conf
    (fun next => CountersKept node next ∧ sf ∈ next.sched.slotframeList) sf ?_ fuel node
    ⟨CountersKept.refl inv, member⟩).1
  rintro next l inside ⟨kept, listed⟩
  have one := tschScheduleRemoveLink_counters conf kept.inv listed
    (List.mem_flatMap.mpr ⟨sf, listed, inside⟩)
  have list := (tschScheduleRemoveLink_effect conf (some sf) (some l) kept.inv.unlocked
    kept.inv.sched (by rintro _ ⟨⟩; exact listed)).2
  exact ⟨kept.trans one, list ▸ listed⟩

theorem CountersInv.same {next : Node} (inv : CountersInv node)
    (free : next.lock.tschLocked = false) (sched : ScheduleInv next.sched)
    (queue : next.queue = node.queue)
    (links : ∀ kind, next.sched.countLinks kind = node.sched.countLinks kind) :
    CountersKept node next := by
  have counted := inv.counted.congr links
  rw [← queue] at counted
  refine ⟨⟨free, sched, counted⟩, ?_⟩
  intro addr room
  simpa only [NbrRoom, Node.neighbor, queue] using room

theorem tschScheduleRemoveSlotframe_counters {sf : Nat} (inv : CountersInv node)
    (member : sf ∈ node.sched.slotframeList) :
    CountersKept node (tschScheduleRemoveSlotframe conf (some sf) node).2 := by
  have emptied := removeLinksFrom_counters conf sf (node.slotframe sf).linksList.length inv member
  obtain ⟨removes, lists, links⟩ := removeLinksFrom_removes conf sf
    (node.slotframe sf).linksList.length node inv.unlocked inv.sched member le_rfl
  obtain ⟨kept, same⟩ := removes.inv.removeSlotframe (lists ▸ member) links rfl
  simp only [tschScheduleRemoveSlotframe, tschGetLock_of_unlocked removes.unlocked]
  apply emptied.trans
  apply emptied.inv.same
  · rfl
  · exact kept
  · rfl
  · intro kind
    exact congrArg (List.countP _) same

theorem removeSlotframesFrom_counters (fuel : Nat) (inv : CountersInv node) :
    CountersKept node (removeSlotframesFrom conf fuel node).2 :=
  removeSlotframesFrom_induct conf
    (fun member kept => kept.trans (tschScheduleRemoveSlotframe_counters conf kept.inv member)) fuel
    (CountersKept.refl inv)

theorem Removes.countLinks {removed : List Nat} {next : Node} (removes : Removes removed node next)
    (inv : ScheduleInv node.sched) (kind : TschLink → Bool) :
    next.sched.countLinks kind =
      node.sched.installedLinks.countP fun l => kind (node.link l) && decide (l ∉ removed) := by
  have moved : next.sched.installedLinks.Perm
      (node.sched.installedLinks.filter fun l => decide (l ∉ removed)) := by
    apply (List.perm_ext_iff_of_nodup removes.inv.links_nodup (inv.links_nodup.filter _)).mpr
    intro l
    simp [removes.installed_iff]
  rw [Schedule.countLinks, moved.countP_eq, List.countP_filter, removes.mem_eq]
  rfl

theorem tschScheduleAddSlotframe_counters (handle size : UInt16) (inv : CountersInv node) :
    CountersKept node (tschScheduleAddSlotframe handle size node).2 := by
  have added := (tschScheduleAddSlotframe_removes handle size inv.unlocked inv.sched).1
  have queue : (tschScheduleAddSlotframe handle size node).2.queue = node.queue := by
    simp only [tschScheduleAddSlotframe, tschGetLock_of_unlocked inv.unlocked]
    split
    · rfl
    · split
      · rfl
      · rcases node.sched.slotframeMemb.membAlloc with ⟨_ | sf, memb⟩ <;> rfl
  apply inv.same added.unlocked added.inv queue
  intro kind
  rw [added.countLinks inv.sched kind, Schedule.countLinks]
  simp [Node.link]

theorem tschScheduleRemoveLinkByTimeslot_counters {sf : Nat} (timeslot : UInt16)
    (inv : CountersInv node) (member : sf ∈ node.sched.slotframeList) :
    CountersKept node (tschScheduleRemoveLinkByTimeslot conf (some sf) timeslot node).2 := by
  simp only [tschScheduleRemoveLinkByTimeslot, Option.isSome_some, if_true]
  rcases found : tschScheduleGetLinkByTimeslot (some sf) timeslot node with _ | l
  · exact CountersKept.refl inv
  · obtain ⟨inside, -⟩ := tschScheduleGetLinkByTimeslot_some found
    exact tschScheduleRemoveLink_counters conf inv member
      (List.mem_flatMap.mpr ⟨sf, member, inside⟩)

def ScheduleCall.newReceiver (node : Node) : ScheduleCall → Option LinkAddr
  | addLink (some sf) linkOptions _ address timeslot channelOffset =>
    if timeslot < (node.slotframe sf).size.val ∧ channelOffset ≤ 15 ∧
        linkOptions &&& linkOptionTx ≠ 0 ∧
        ((tschScheduleGetLinkByTimeslot (some sf) timeslot node).isSome ∨
          node.sched.linkMemb.membAlloc.1.isSome) then
      some (address.getD linkaddrNull)
    else none
  | createMinimal => some tschBroadcastAddress
  | _ => none

def ScheduleCall.Countable (node : Node) (call : ScheduleCall) : Prop :=
  ∀ addr ∈ call.newReceiver node, NbrRoom addr node ∧
    (node.sched.installedLinks.countP fun l =>
      (node.link l).txTo addr && decide (l ∉ call.removedLinks node)) < 255

theorem tschScheduleAddLink_counters {sf : Nat} (linkOptions : UInt8) (linkType : LinkType)
    (address : Option LinkAddr) (timeslot channelOffset : UInt16) (inv : CountersInv node)
    (member : sf ∈ node.sched.slotframeList)
    (countable : (ScheduleCall.addLink (some sf) linkOptions linkType address timeslot
      channelOffset).Countable node) :
    CountersInv (tschScheduleAddLink conf (some sf) linkOptions linkType address timeslot
      channelOffset node).2 := by
  by_cases fits : timeslot < (node.slotframe sf).size.val ∧ channelOffset ≤ 15
  case neg =>
    rw [tschScheduleAddLink_unfit conf linkOptions linkType address fits]
    exact inv
  obtain ⟨inFrame, channel⟩ := fits
  rw [tschScheduleAddLink_fit conf linkOptions linkType address inFrame channel]
  simp only [ScheduleCall.Countable, ScheduleCall.newReceiver, ScheduleCall.removedLinks,
    removedByAddLink, inFrame, channel, and_self, true_and, if_true] at countable
  have cleared := tschScheduleRemoveLinkByTimeslot_counters conf timeslot inv member
  obtain ⟨removes, lists, vacant, -, sizes, -⟩ :=
    tschScheduleRemoveLinkByTimeslot_removes conf timeslot inv.unlocked inv.sched member rfl
  have untouched : tschScheduleGetLinkByTimeslot (some sf) timeslot node = none →
      (tschScheduleRemoveLinkByTimeslot conf (some sf) timeslot node).2 = node := by
    intro absent
    simp [tschScheduleRemoveLinkByTimeslot, absent, tschScheduleRemoveLink]
  generalize (tschScheduleRemoveLinkByTimeslot conf (some sf) timeslot node).2 = middle at *
  simp only [tschGetLock_of_unlocked removes.unlocked]
  rcases alloc : middle.sched.linkMemb.membAlloc with ⟨_ | l, memb⟩
  · exact ⟨rfl, removes.inv, cleared.inv.counted⟩
  · obtain ⟨fresh, used, kept, -⟩ := Memb.membAlloc_taken removes.inv.links_inUse alloc
    have installs : (tschScheduleGetLinkByTimeslot (some sf) timeslot node).isSome = true ∨
        node.sched.linkMemb.membAlloc.1.isSome = true := by
      rcases replaced : tschScheduleGetLinkByTimeslot (some sf) timeslot node with _ | old
      · right
        rw [← untouched replaced, alloc]
        rfl
      · exact .inl rfl
    simp only [installs, and_true] at countable
    let link := newLink sf linkOptions linkType address timeslot channelOffset middle
    obtain ⟨newInv, -⟩ := removes.inv.addLink (lists ▸ member) link
      (middle.sched.currentLinkHandle + 1) fresh used kept ⟨sizes sf ▸ inFrame, channel, rfl⟩ vacant
    have sends : link.has linkOptionTx = true →
        NbrRoom link.addr middle ∧ middle.sched.txLinksTo link.addr < 255 := by
      intro tx
      have tested : linkOptions &&& linkOptionTx ≠ 0 := by
        have tx : (linkOptions &&& linkOptionTx != 0) = true := tx
        simpa using tx
      obtain ⟨room, bound⟩ := countable link.addr (by rw [if_pos tested]; rfl)
      refine ⟨cleared.room _ room, ?_⟩
      rw [Schedule.txLinksTo, removes.countLinks inv.sched]
      exact bound
    have up : ∀ kind : TschLink → Bool,
        (kind link = true → middle.sched.countLinks kind < 255) → ∀ count : UInt8,
        count.toNat = middle.sched.countLinks kind →
        (if kind link then count + 1 else count).toNat =
          (middle.sched.withLinks sf (listAdd · l) (memb.write l fun _ => link)
            (middle.sched.currentLinkHandle + 1)).countLinks kind := by
      intro kind bound count exact
      rw [Schedule.countLinks_add removes.inv (lists ▸ member) link _ fresh kept]
      cases counts : kind link with
      | false =>
        rw [if_neg Bool.false_ne_true, Bool.toNat_false]
        exact exact
      | true =>
        have small := bound counts
        rw [if_pos rfl, UInt8.toNat_add, Bool.toNat_true]
        simp only [UInt8.reduceToNat]
        omega
    have toReceiver : ∀ addr, link.txTo addr = true →
        middle.sched.txLinksTo addr < 255 := by
      intro addr counts
      simp only [TschLink.txTo, Bool.and_eq_true, decide_eq_true_eq] at counts
      rw [← counts.2]
      exact (sends counts.1).2
    show CountersInv (updateLinkCounters conf link.addr link.linkOptions (· + 1)
      (tschReleaseLock (addLinkLocked sf l memb linkOptions linkType (address.getD linkaddrNull)
        timeslot channelOffset { middle with
          lock := { middle.lock with tschLocked := true, tschLockRequested := false } })))
    apply updateLinkCounters_inv conf link
    · rfl
    · exact newInv
    · exact cleared.inv.counted
    · exact fun tx => (sends tx).1
    · intro addr
      exact up (TschLink.txTo addr) (toReceiver addr)
    · intro addr
      apply up (TschLink.dedicatedTo addr)
      intro counts
      simp only [TschLink.dedicatedTo, Bool.and_eq_true] at counts
      have less := middle.sched.dedicatedTxLinksTo_le addr
      have small := toReceiver addr counts.1
      rw [Schedule.dedicatedTxLinksTo] at less
      omega

theorem tschScheduleCreateMinimal_counters (inv : CountersInv node)
    (countable : ScheduleCall.createMinimal.Countable node) :
    CountersInv (tschScheduleCreateMinimal conf node) := by
  obtain ⟨cleared, sfMin, framed, clearedEq, framedEq, -, -, ready, eq⟩ :=
    tschScheduleCreateMinimal_framed conf inv.unlocked inv.sched
  have emptied := removeSlotframesFrom_counters conf node.sched.slotframeList.length inv
  rw [clearedEq] at emptied
  have room := emptied.room _ (countable tschBroadcastAddress rfl).1
  have added := tschScheduleAddSlotframe_counters 0 conf.scheduleDefaultLength emptied.inv
  rw [framedEq] at added
  rw [eq]
  rcases sfMin with _ | sf
  · exact added.inv
  · have linked : CountersInv (addMinimalLink conf (some sf) framed) := by
      apply tschScheduleAddLink_counters conf _ _ _ _ _ added.inv (ready.valid sf rfl)
      intro addr receiver
      simp only [ScheduleCall.newReceiver] at receiver
      split at receiver
      · cases receiver
        refine ⟨added.room _ room, ?_⟩
        rw [ready.empty, List.countP_nil]
        omega
      · cases receiver
    obtain ⟨configured, same⟩ := ready.configured conf
    refine ⟨linked.unlocked, configured, linked.counted.congr ?_⟩
    intro kind
    exact congrArg (List.countP _) same

def ScheduleCall.linkArgument : ScheduleCall → Option Nat
  | removeLink _ link => link
  | _ => none

theorem ScheduleCall.exec_counters {call : ScheduleCall} (inv : CountersInv node)
    (valid : call.PointerValid node)
    (installed : ∀ l ∈ call.linkArgument, l ∈ node.sched.installedLinks)
    (countable : call.Countable node) : CountersInv (call.exec conf node) := by
  cases call with
  | addSlotframe handle size => exact (tschScheduleAddSlotframe_counters handle size inv).inv
  | removeSlotframe slotframe =>
    rcases slotframe with _ | sf
    · exact inv
    · exact (tschScheduleRemoveSlotframe_counters conf inv (valid sf rfl)).inv
  | removeAllSlotframes => exact (removeSlotframesFrom_counters conf _ inv).inv
  | addLink slotframe linkOptions linkType address timeslot channelOffset =>
    rcases slotframe with _ | sf
    · exact inv
    · exact tschScheduleAddLink_counters conf linkOptions linkType address timeslot channelOffset
        inv (valid sf rfl) countable
  | removeLink slotframe link =>
    rcases slotframe with _ | sf
    · exact inv
    · rcases link with _ | l
      · exact inv
      · exact (tschScheduleRemoveLink_counters conf inv (valid sf rfl)
          (installed l rfl)).inv
  | removeLinkByTimeslot slotframe timeslot =>
    rcases slotframe with _ | sf
    · exact inv
    · exact (tschScheduleRemoveLinkByTimeslot_counters conf timeslot inv (valid sf rfl)).inv
  | createMinimal => exact tschScheduleCreateMinimal_counters conf inv countable

end Counters

inductive CounterStep where
  | schedule (call : ScheduleCall)
  | addNbr (addr : LinkAddr)
  | updateTimeSource (newAddr : Option LinkAddr)
  | addPacket (addr : LinkAddr) (maxTransmissions : UInt8) (sent : Option Nat) (ptr : Nat)
      (qb : Option Queuebuf)
  | packetCount (addr : LinkAddr)
  | removePacketFromQueue (n : Option Nat)
  | freePacket (p : Option Nat)
  | packetSent (n p : Nat) (link : TschLink) (status : MacTxStatus) (random : UInt16)
  | backoffReset (n : Nat)
  | backoffInc (n : Nat) (random : UInt16)
  | updateAllBackoffWindows (addr : LinkAddr)
  | freeUnusedNeighbors
  | reset
  | processPending
  | slot (input : SlotInput)
  | start (attempt : Attempt) (retries : List Attempt)
  | elsewhere (requested : Bool) (phy : Phy) (mac : Mac) (currentLink : Option Nat)

def linkCounters (addr : LinkAddr) (node : Node) : Nat × Nat :=
  match tschQueueGetNbr addr node with
  | some n => ((node.neighbor n).txLinksCount.toNat, (node.neighbor n).dedicatedTxLinksCount.toNat)
  | none => (0, 0)

namespace CounterStep

def apply (node : Node) : CounterStep → Node
  | schedule call => call.exec conf node
  | addNbr addr => (tschQueueAddNbr conf addr node).2
  | updateTimeSource newAddr => (tschQueueUpdateTimeSource conf newAddr node).2
  | addPacket addr maxTransmissions sent ptr qb =>
    (tschQueueAddPacket conf addr maxTransmissions sent ptr qb node).2
  | packetCount addr => (tschQueuePacketCount conf addr node).2
  | removePacketFromQueue n => (tschQueueRemovePacketFromQueue n node).2
  | freePacket p => tschQueueFreePacket p node
  | packetSent n p link status random => (tschQueuePacketSent conf n p link status random node).2
  | backoffReset n => tschQueueBackoffReset conf n node
  | backoffInc n random => tschQueueBackoffInc conf n random node
  | updateAllBackoffWindows addr => tschQueueUpdateAllBackoffWindows addr node
  | freeUnusedNeighbors => tschQueueFreeUnusedNeighbors node
  | reset => tschQueueReset conf node
  | processPending => tschTxProcessPending node
  | slot input => tschSlotOperation conf input node
  | start attempt retries => tschSlotOperationStart conf attempt retries node
  | elsewhere requested phy mac currentLink => { node with
      lock := { node.lock with tschLockRequested := requested }
      phy := phy, mac := mac
      slot := { node.slot with currentLink := currentLink } }

def Valid (node : Node) : CounterStep → Prop
  | schedule call => call.PointerValid node ∧
      ∀ l ∈ call.linkArgument, l ∈ node.sched.installedLinks
  | _ => True

def Countable (node : Node) : CounterStep → Prop
  | schedule call => call.Countable node
  | _ => True

/-- No counter is taken below zero: the neighbor of an address, which counts from zero when it is
missing, has counted the links to it that the step removes. -/
def NoUnderflow (node : Node) : CounterStep → Prop
  | schedule call => ∀ addr,
      ((call.removedLinks node).countP fun l => (node.link l).txTo addr) ≤
        (linkCounters addr node).1 ∧
      ((call.removedLinks node).countP fun l => (node.link l).dedicatedTo addr) ≤
        (linkCounters addr node).2
  | _ => True

variable {conf} {node : Node}

theorem apply_counters {step : CounterStep} (inv : CountersInv node)
    (valid : step.Valid node) (countable : step.Countable node) :
    CountersInv (step.apply conf node) := by
  have free := inv.unlocked
  have unique := inv.nodup
  cases step with
  | schedule call => exact ScheduleCall.exec_counters conf inv valid.1 valid.2 countable
  | addNbr addr => exact inv.work conf (QueueWork.addNbr conf addr free)
  | updateTimeSource newAddr => exact inv.work conf (QueueWork.updateTimeSource conf free newAddr)
  | addPacket addr maxTransmissions sent ptr qb =>
    exact inv.work conf (QueueWork.addPacket conf addr free maxTransmissions sent ptr qb)
  | packetCount addr => exact inv.work conf (QueueWork.packetCount conf addr free)
  | removePacketFromQueue n => exact inv.work conf (QueueWork.removePacketFromQueue conf free n)
  | freePacket p => exact inv.work conf (QueueWork.freePacket conf free p)
  | packetSent n p link status random =>
    exact inv.work conf (QueueWork.packetSent conf n free p link status random)
  | backoffReset n => exact inv.work conf (QueueWork.backoffReset conf n free)
  | backoffInc n random => exact inv.work conf (QueueWork.backoffInc conf n free random)
  | updateAllBackoffWindows addr =>
    exact inv.work conf (QueueWork.updateAllBackoffWindows conf addr free)
  | freeUnusedNeighbors => exact inv.work conf (QueueWork.freeUnusedNeighbors conf free unique)
  | reset => exact inv.work conf (QueueWork.reset conf free)
  | processPending => exact inv.work conf (QueueWork.txProcessPendingFrom conf _ free unique)
  | slot input => exact inv.work conf (QueueWork.slot conf free input)
  | start attempt retries => exact inv.work conf (QueueWork.start conf free attempt retries)
  | elsewhere requested phy mac currentLink => exact ⟨free, inv.sched, inv.counted⟩

theorem removedLinks_sublist {call : ScheduleCall} (valid : call.PointerValid node)
    (installed : ∀ l ∈ call.linkArgument, l ∈ node.sched.installedLinks) :
    (call.removedLinks node).Sublist node.sched.installedLinks := by
  have one : ∀ {l : Nat}, l ∈ node.sched.installedLinks →
      [l].Sublist node.sched.installedLinks :=
    fun inside => List.singleton_sublist.mpr inside
  have found : ∀ {sf : Nat} (timeslot : UInt16), sf ∈ node.sched.slotframeList →
      (tschScheduleGetLinkByTimeslot (some sf) timeslot node).toList.Sublist
        node.sched.installedLinks := by
    intro sf timeslot member
    rcases lookup : tschScheduleGetLinkByTimeslot (some sf) timeslot node with _ | l
    · exact List.nil_sublist _
    · exact one (List.mem_flatMap.mpr ⟨sf, member, (tschScheduleGetLinkByTimeslot_some lookup).1⟩)
  cases call with
  | addSlotframe handle size => exact List.nil_sublist _
  | removeSlotframe slotframe =>
    rcases slotframe with _ | sf
    · exact List.nil_sublist _
    · obtain ⟨before, after, split⟩ := List.append_of_mem (valid sf rfl)
      simp only [Schedule.installedLinks, split, List.flatMap_append, List.flatMap_cons]
      exact (List.sublist_append_left _ _).trans (List.sublist_append_right _ _)
  | removeAllSlotframes => exact List.Sublist.refl _
  | addLink slotframe linkOptions linkType address timeslot channelOffset =>
    rcases slotframe with _ | sf
    · exact List.nil_sublist _
    · simp only [ScheduleCall.removedLinks, removedByAddLink]
      split
      · exact found timeslot (valid sf rfl)
      · exact List.nil_sublist _
  | removeLink slotframe link =>
    rcases slotframe with _ | sf
    · exact List.nil_sublist _
    · rcases link with _ | l
      · exact List.nil_sublist _
      · simp only [ScheduleCall.removedLinks, removedByRemoveLink]
        split
        · exact one (installed l rfl)
        · exact List.nil_sublist _
  | removeLinkByTimeslot slotframe timeslot =>
    rcases slotframe with _ | sf
    · simp [ScheduleCall.removedLinks, tschScheduleGetLinkByTimeslot]
    · exact found timeslot (valid sf rfl)
  | createMinimal => exact List.Sublist.refl _

theorem linkCounters_eq (inv : CountersInv node) (addr : LinkAddr) :
    linkCounters addr node = (node.sched.txLinksTo addr, node.sched.dedicatedTxLinksTo addr) := by
  rcases lookup : tschQueueGetNbr addr node with _ | n
  · have absent : ∀ n ∈ node.queue.neighborList, (node.neighbor n).addr ≠ addr := by
      simpa [tschQueueGetNbr, tschIsLocked, inv.unlocked] using lookup
    have none := inv.counted.covered addr absent
    have less := node.sched.dedicatedTxLinksTo_le addr
    rw [linkCounters, lookup, none]
    rw [none] at less
    rw [Nat.le_zero.mp less]
  · obtain ⟨member, rfl⟩ := tschQueueGetNbr_some lookup
    have tx := inv.counted.tx n member
    have dedicated := inv.counted.dedicated n member
    rw [linkCounters, lookup]
    exact Prod.ext tx dedicated

theorem noUnderflow (step : CounterStep) (inv : CountersInv node) (valid : step.Valid node) :
    step.NoUnderflow node := by
  cases step with
  | schedule call =>
    intro addr
    have inside := removedLinks_sublist valid.1 valid.2
    rw [linkCounters_eq inv addr]
    exact ⟨inside.countP_le, inside.countP_le⟩
  | _ => trivial

end CounterStep

def CountersExact (node : Node) : Prop :=
  ∀ n ∈ node.queue.neighborList,
    (node.neighbor n).txLinksCount.toNat = node.sched.txLinksTo (node.neighbor n).addr ∧
    (node.neighbor n).dedicatedTxLinksCount.toNat =
      node.sched.dedicatedTxLinksTo (node.neighbor n).addr

instance (node : Node) : Decidable (CountersExact node) :=
  inferInstanceAs (Decidable (∀ n ∈ node.queue.neighborList, _ ∧ _))

theorem CountersInv.exact {node : Node} (inv : CountersInv node) : CountersExact node := by
  intro n member
  exact ⟨inv.counted.tx n member, inv.counted.dedicated n member⟩

theorem tschInit_counters :
    CountersInv (tschScheduleInit (tschQueueInit conf (Node.boot conf))).2 := by
  have unlocked : (Node.cleared conf).lock.tschLocked = false := rfl
  have cleared : (Node.cleared conf).queue.nbrTable.Counted (Node.cleared conf).sched := by
    refine ⟨?_, List.nodup_nil, ?_, ?_, ?_⟩
    · exact (Memb.map_inUse _).mpr (Memb.membInit_inUse _)
    · intro n member
      cases member
    · intro n member
      cases member
    · intro addr _
      rfl
  have eb := QueueWork.addNbr conf tschEbAddress unlocked
  have both := eb.trans (QueueWork.addNbr conf tschBroadcastAddress eb.unlocked)
  have counted := both.work.preserves conf (fun _ _ held change => held.change change) cleared
  have free : (tschQueueInit conf (Node.boot conf)).lock.tschLocked = false := both.unlocked
  simp only [tschScheduleInit, tschGetLock_of_unlocked free]
  refine ⟨rfl, ScheduleInv.init _ _ _, counted.congr ?_⟩
  intro kind
  rfl

theorem counters_exact_of_countable (steps : List CounterStep)
    (meets : Run.Meets (CounterStep.apply conf)
      (fun node step => step.Valid node ∧ step.Countable node)
      (tschScheduleInit (tschQueueInit conf (Node.boot conf))).2 steps) :
    Run.Always (CounterStep.apply conf) CountersExact
        (tschScheduleInit (tschQueueInit conf (Node.boot conf))).2 steps ∧
      Run.Meets (CounterStep.apply conf) (fun node step => step.NoUnderflow node)
        (tschScheduleInit (tschQueueInit conf (Node.boot conf))).2 steps := by
  have preserved : ∀ (node : Node) (step : CounterStep), CountersInv node →
      step.Valid node ∧ step.Countable node → CountersInv (step.apply conf node) :=
    fun _ _ inv allowed => CounterStep.apply_counters inv allowed.1 allowed.2
  constructor
  · exact Run.always_of_meets CountersInv (fun _ inv => inv.exact) preserved steps _
      (tschInit_counters conf) meets
  · exact Run.meets_of_meets CountersInv preserved
      (fun _ step inv allowed => CounterStep.noUnderflow step inv allowed.1) steps _
      (tschInit_counters conf) meets

instance (addr : LinkAddr) (node : Node) : Decidable (NbrRoom addr node) :=
  inferInstanceAs (Decidable (_ ∨ _))

instance (node : Node) (call : ScheduleCall) : Decidable (call.Countable node) :=
  @Option.decidableForallMem _ _ (fun _ => instDecidableAnd) (call.newReceiver node)

instance (node : Node) (call : ScheduleCall) : Decidable (call.PointerValid node) :=
  @Option.decidableForallMem _ _ (fun _ => inferInstance) call.slotframeArgument

instance (node : Node) (step : CounterStep) : Decidable (step.Valid node) := by
  cases step with
  | schedule call =>
    exact inferInstanceAs (Decidable (call.PointerValid node ∧ ∀ l ∈ call.linkArgument, _))
  | _ => exact .isTrue trivial

instance (node : Node) (step : CounterStep) : Decidable (step.Countable node) := by
  cases step with
  | schedule call => exact inferInstanceAs (Decidable (call.Countable node))
  | _ => exact .isTrue trivial

theorem counters_exact_minimal :
    let steps : List CounterStep :=
      [.schedule .createMinimal, .addNbr (Vector.replicate 8 2),
        .schedule (.addLink (some 0) linkOptionTx .normal (some (Vector.replicate 8 3)) 1 0),
        .freeUnusedNeighbors, .schedule (.removeLinkByTimeslot (some 0) 1)]
    let initial := (tschScheduleInit (tschQueueInit cc1200Conf (Node.boot cc1200Conf))).2
    Run.Always (CounterStep.apply cc1200Conf) CountersExact initial steps ∧
      Run.Meets (CounterStep.apply cc1200Conf) (fun node step => step.NoUnderflow node)
        initial steps := by
  apply counters_exact_of_countable
  decide +kernel

/-- Every neighbor queue is taken when a link to a further neighbor is installed, and two are free
again when the link is removed: the new neighbor starts at 0 and counts down to 255. -/
theorem uncounted_link_underflows :
    let steps : List CounterStep :=
      [.addNbr (Vector.replicate 8 2), .addNbr (Vector.replicate 8 3),
        .schedule (.addSlotframe 0 7),
        .schedule (.addLink (some 0) linkOptionTx .normal (some (Vector.replicate 8 4)) 1 0),
        .freeUnusedNeighbors, .schedule (.removeLinkByTimeslot (some 0) 1)]
    let initial := (tschScheduleInit (tschQueueInit cc1200Conf (Node.boot cc1200Conf))).2
    let node := Run.final (CounterStep.apply cc1200Conf) initial steps
    Run.Meets (CounterStep.apply cc1200Conf) (fun node step => step.Valid node) initial steps ∧
      ¬ CountersExact node ∧ node.sched.installedLinks = [] ∧
      linkCounters (Vector.replicate 8 4) node = (255, 255) := by
  refine ⟨?_, by decide, by decide, by decide⟩
  simp only [Run.Meets, CounterStep.Valid, ScheduleCall.PointerValid,
    ScheduleCall.slotframeArgument, ScheduleCall.linkArgument]
  decide

end MultiPhyTsch
