import MultiPhyTsch.Tsch.LinkHandles

/-! What `tsch_schedule_add_link` leaves in the slotframe. The link of the timeslot goes first and
its block is free again, so the allocation behind it cannot fail once a link was removed. -/

namespace MultiPhyTsch

variable (conf : TschConf)

def linksBut (timeslot : UInt16) (node : Node) (sf : Nat) : List Nat :=
  (node.sched.links sf).filter fun l => (node.link l).timeslot ≠ timeslot

variable {node : Node}

theorem listRemove_eq_linksBut {sf l : Nat} (inv : ScheduleInv node.sched)
    (member : sf ∈ node.sched.slotframeList) (inside : l ∈ node.sched.links sf) :
    listRemove (node.sched.links sf) l = linksBut (node.link l).timeslot node sf := by
  have unique := inv.timeslots_distinct sf member
  rw [listRemove, (unique.of_map _).erase_eq_filter l, linksBut]
  apply List.filter_congr
  intro other kept
  by_cases same : other = l
  · simp [same]
  · have apart : (node.link other).timeslot ≠ (node.link l).timeslot := fun equal =>
      same (List.inj_on_of_nodup_map unique kept inside equal)
    simp [same, apart]

structure TimeslotCleared (sf : Nat) (timeslot : UInt16) (node next : Node) : Prop where
  unlocked : next.lock.tschLocked = false
  inv : ScheduleInv next.sched
  lists : next.sched.slotframeList = node.sched.slotframeList
  links : next.sched.links sf = linksBut timeslot node sf
  frame_eq : next.slotframe sf = { node.slotframe sf with linksList := linksBut timeslot node sf }
  other_eq : ∀ other, other ≠ sf → next.slotframe other = node.slotframe other
  mem_eq : next.sched.linkMemb.mem = node.sched.linkMemb.mem
  counter : next.sched.currentLinkHandle = node.sched.currentLinkHandle

theorem tschScheduleRemoveLink_cleared {sf l : Nat}
    (free : node.lock.tschLocked = false) (inv : ScheduleInv node.sched)
    (member : sf ∈ node.sched.slotframeList) (inside : l ∈ node.sched.links sf) :
    TimeslotCleared sf (node.link l).timeslot node
      (tschScheduleRemoveLink conf (some sf) (some l) node).2 := by
  obtain ⟨removes, schedEq⟩ := tschScheduleRemoveLink_removes conf free inv member
    (inv.placed sf member l inside).handle_eq
  have rest := listRemove_eq_linksBut inv member inside
  refine ⟨removes.unlocked, removes.inv, by rw [schedEq]; rfl, ?_, ?_, ?_, removes.mem_eq,
    by rw [schedEq]; rfl⟩
  · rw [schedEq, Schedule.withLinks_same, rest]
  · rw [← rest, Node.slotframe, schedEq, Schedule.withLinks, Memb.write_same]
    rfl
  · intro other different
    rw [Node.slotframe, schedEq, Schedule.withLinks, Memb.write_other _ _ different]
    rfl

theorem tschScheduleRemoveLinkByTimeslot_cleared {sf : Nat} (timeslot : UInt16)
    (free : node.lock.tschLocked = false) (inv : ScheduleInv node.sched)
    (member : sf ∈ node.sched.slotframeList) {next : Node}
    (nextEq : next = (tschScheduleRemoveLinkByTimeslot conf (some sf) timeslot node).2) :
    TimeslotCleared sf timeslot node next ∧
      (next = node ∨ next.sched.linkMemb.membAlloc.1.isSome = true) := by
  obtain ⟨-, -, -, -, -, room⟩ :=
    tschScheduleRemoveLinkByTimeslot_removes conf timeslot free inv member nextEq
  subst nextEq
  simp only [tschScheduleRemoveLinkByTimeslot, Option.isSome_some, if_true] at room ⊢
  rcases lookup : tschScheduleGetLinkByTimeslot (some sf) timeslot node with _ | l
  · have vacant := tschScheduleGetLinkByTimeslot_none free lookup
    have all : linksBut timeslot node sf = node.sched.links sf := by
      apply List.filter_eq_self.mpr
      intro l inside
      exact decide_eq_true (vacant l inside)
    refine ⟨⟨free, inv, rfl, all.symm, ?_, fun _ _ => rfl, rfl, rfl⟩, Or.inl rfl⟩
    rw [all]
    rfl
  · obtain ⟨inside, position⟩ := tschScheduleGetLinkByTimeslot_some lookup
    rw [lookup, Option.isSome_some, Bool.true_or] at room
    refine ⟨?_, Or.inr room⟩
    rw [← position]
    exact tschScheduleRemoveLink_cleared conf free inv member inside

structure LinkInserted (sf l : Nat) (new : TschLink) (node next : Node) : Prop where
  lists : next.sched.slotframeList = node.sched.slotframeList
  links : next.sched.links sf = linksBut new.timeslot node sf ++ [l]
  frame_eq : next.slotframe sf =
    { node.slotframe sf with linksList := linksBut new.timeslot node sf ++ [l] }
  other_eq : ∀ other, other ≠ sf → next.slotframe other = node.slotframe other
  new_eq : next.link l = new
  fresh : l ∉ linksBut new.timeslot node sf ∧
    ∀ other ∈ node.sched.slotframeList, other ≠ sf → l ∉ node.sched.links other
  kept : ∀ other, other ≠ l → next.link other = node.link other

theorem addLinkLocked_inserted {node middle : Node} {sf l : Nat} {linkOptions : UInt8}
    {linkType : LinkType} {address : Option LinkAddr} {timeslot channelOffset : UInt16}
    {memb : Memb TschLink} (cleared : TimeslotCleared sf timeslot node middle)
    (member : sf ∈ node.sched.slotframeList)
    (alloc : middle.sched.linkMemb.membAlloc = (some l, memb)) {next : Node}
    (schedEq : next.sched = (addLinkLocked sf l memb linkOptions linkType
      (address.getD linkaddrNull) timeslot channelOffset middle).sched) :
    LinkInserted sf l (newLink sf linkOptions linkType address timeslot channelOffset node)
      node next := by
  obtain ⟨unlisted, -, content, -⟩ := Memb.membAlloc_taken cleared.inv.links_inUse alloc
  have outside : ∀ other ∈ node.sched.slotframeList, l ∉ middle.sched.links other := by
    intro other listed inside
    exact unlisted (List.mem_flatMap.mpr ⟨other, cleared.lists.symm ▸ listed, inside⟩)
  have fresh : l ∉ linksBut timeslot node sf := cleared.links ▸ outside sf member
  have appended : listAdd (linksBut timeslot node sf) l = linksBut timeslot node sf ++ [l] :=
    listAdd_of_not_mem fresh
  have frame : next.slotframe sf =
      { node.slotframe sf with linksList := linksBut timeslot node sf ++ [l] } := by
    rw [Node.slotframe, schedEq, addLinkLocked, Memb.write_same]
    have before : middle.sched.slotframeMemb.mem sf = middle.slotframe sf := rfl
    rw [before, cleared.frame_eq, appended]
  refine ⟨?_, ?_, frame, ?_, ?_, ⟨fresh, ?_⟩, ?_⟩
  · rw [schedEq]
    exact cleared.lists
  · exact congrArg TschSlotframe.linksList frame
  · intro other different
    rw [← cleared.other_eq other different, Node.slotframe, schedEq, addLinkLocked,
      Memb.write_other _ _ different]
    rfl
  · have handle : (middle.slotframe sf).handle = (node.slotframe sf).handle := by
      rw [cleared.frame_eq]
    rw [Node.link, schedEq, addLinkLocked, Memb.write_same, newLink, handle, cleared.counter]
  · intro other listed different inside
    apply outside other listed
    have same : middle.sched.links other = node.sched.links other :=
      congrArg TschSlotframe.linksList (cleared.other_eq other different)
    rw [same]
    exact inside
  · intro other different
    rw [Node.link, schedEq, addLinkLocked, Memb.write_other _ _ different, content,
      cleared.mem_eq]
    rfl

section

variable (slotframe : Option Nat) (linkOptions : UInt8) (linkType : LinkType)
  (address : Option LinkAddr) (timeslot channelOffset : UInt16)

theorem tschScheduleAddLink_locked (busy : node.lock.tschLocked = true) :
    tschScheduleAddLink conf slotframe linkOptions linkType address timeslot channelOffset node =
      (none, node) := by
  rcases slotframe with _ | sf
  · rfl
  · simp [tschScheduleAddLink, tschScheduleRemoveLinkByTimeslot, tschScheduleGetLinkByTimeslot,
      tschIsLocked, busy, tschScheduleRemoveLink, tschGetLock]

theorem tschScheduleAddLink_outcome (inv : ScheduleInv node.sched)
    (valid : ∀ sf ∈ slotframe, sf ∈ node.sched.slotframeList) :
    (∃ next, tschScheduleAddLink conf slotframe linkOptions linkType address timeslot channelOffset
        node = (none, next) ∧ next.sched = node.sched ∧ next.queue = node.queue) ∨
    ∃ sf l next, slotframe = some sf ∧
      tschScheduleAddLink conf slotframe linkOptions linkType address timeslot channelOffset node =
        (some l, next) ∧
      LinkInserted sf l (newLink sf linkOptions linkType address timeslot channelOffset node)
        node next := by
  by_cases busy : node.lock.tschLocked = true
  · left
    exact ⟨node, tschScheduleAddLink_locked conf slotframe linkOptions linkType address timeslot
      channelOffset busy, rfl, rfl⟩
  have free : node.lock.tschLocked = false := Bool.not_eq_true _ ▸ busy
  rcases slotframe with _ | sf
  · exact Or.inl ⟨node, rfl, rfl, rfl⟩
  by_cases fits : timeslot < (node.slotframe sf).size.val ∧ channelOffset ≤ 15
  case neg =>
    rw [tschScheduleAddLink_unfit conf linkOptions linkType address fits]
    exact Or.inl ⟨node, rfl, rfl, rfl⟩
  rw [tschScheduleAddLink_fit conf linkOptions linkType address fits.1 fits.2]
  obtain ⟨cleared, room⟩ := tschScheduleRemoveLinkByTimeslot_cleared conf timeslot free inv
    (valid sf rfl) rfl
  generalize (tschScheduleRemoveLinkByTimeslot conf (some sf) timeslot node).2 = middle
    at cleared room ⊢
  simp only [tschGetLock_of_unlocked cleared.unlocked]
  rcases alloc : middle.sched.linkMemb.membAlloc with ⟨_ | l, memb⟩
  · -- no block: nothing can have been removed before
    rw [alloc] at room
    left
    rcases room with same | available
    · subst same
      exact ⟨_, rfl, rfl, rfl⟩
    · cases available
  · right
    refine ⟨sf, l, _, rfl, rfl, ?_⟩
    apply addLinkLocked_inserted cleared (valid sf rfl) alloc
    exact updateLinkCounters_sched conf _ _ _ rfl

end

/-- A failed insertion leaves the schedule and every neighbor as they were. A successful one
replaces what the slotframe held at the timeslot, and nothing else. -/
theorem tschScheduleAddLink_atomic {node : Node} (slotframe : Option Nat) (linkOptions : UInt8)
    (linkType : LinkType) (address : Option LinkAddr) (timeslot channelOffset : UInt16)
    (inv : ScheduleInv node.sched)
    (valid : ∀ sf ∈ slotframe, sf ∈ node.sched.slotframeList) {result : Option Nat} {next : Node}
    (resultEq : tschScheduleAddLink conf slotframe linkOptions linkType address timeslot
      channelOffset node = (result, next)) :
    (result = none → next.sched = node.sched ∧ next.queue = node.queue) ∧
    ∀ l, result = some l → ∃ sf, slotframe = some sf ∧
      LinkInserted sf l (newLink sf linkOptions linkType address timeslot channelOffset node)
        node next := by
  rcases tschScheduleAddLink_outcome conf slotframe linkOptions linkType address timeslot
      channelOffset inv valid with
    ⟨after, failed, same⟩ | ⟨sf, l, after, frame, succeeded, inserted⟩
  · rw [failed] at resultEq
    cases resultEq
    exact ⟨fun _ => same, nofun⟩
  · rw [succeeded] at resultEq
    cases resultEq
    refine ⟨nofun, fun new isNew => ?_⟩
    cases isNew
    exact ⟨sf, frame, inserted⟩

theorem tschScheduleAddLink_atomic_replaced :
    let calls : List ScheduleCall := [.addSlotframe 1 7,
      .addLink (some 0) linkOptionTx .normal (some (Vector.replicate 8 2)) 3 2]
    let node := Run.final (ScheduleCall.exec cc1200Conf)
      (tschScheduleInit (Node.boot cc1200Conf)).2 calls
    let result := tschScheduleAddLink cc1200Conf (some 0) linkOptionRx .normal none 3 9 node
    ∃ l, result.1 = some l ∧
      LinkInserted 0 l (newLink 0 linkOptionRx .normal none 3 9 node) node result.2 := by
  intro calls node result
  obtain ⟨free, empty⟩ := tschScheduleInit_inv tschScheduleInit_cc1200
  have pointers : Run.Meets (ScheduleCall.exec cc1200Conf)
      (fun node call => call.PointerValid node)
      (tschScheduleInit (Node.boot cc1200Conf)).2 calls := by
    simp only [calls, Run.Meets, ScheduleCall.PointerValid, ScheduleCall.slotframeArgument]
    decide
  have inv : ScheduleInv node.sched := (ScheduleCall.run_inv cc1200Conf free empty pointers).2
  have listed : ∀ sf ∈ some 0, sf ∈ node.sched.slotframeList := by decide
  have installed : result.1 = some 0 := by decide
  obtain ⟨sf, sfEq, inserted⟩ := (tschScheduleAddLink_atomic cc1200Conf (some 0) linkOptionRx .normal
    none 3 9 inv listed (Prod.eta result).symm).2 0 installed
  cases sfEq
  exact ⟨0, installed, inserted⟩

end MultiPhyTsch
