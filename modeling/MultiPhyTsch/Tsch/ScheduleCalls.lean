import MultiPhyTsch.Tsch.ScheduleInvariant

/-! The calls of the schedule API as steps. Each call is described by the link blocks it
removes from the schedule: these, and only these, leave it, and `current_link` is reset
exactly when it points to one of them. -/

namespace MultiPhyTsch

def Slot.forget (slot : Slot) (removed : List Nat) : Slot :=
  if ∃ l ∈ slot.currentLink, l ∈ removed then { slot with currentLink := none } else slot

@[simp] theorem Slot.forget_nil (slot : Slot) : slot.forget [] = slot := by
  simp [Slot.forget]

theorem Slot.forget_append (slot : Slot) (first second : List Nat) :
    slot.forget (first ++ second) = (slot.forget first).forget second := by
  rcases current : slot.currentLink with _ | l
  · simp [Slot.forget, current]
  · by_cases early : l ∈ first
    · simp [Slot.forget, current, early]
    · simp [Slot.forget, current, early]

theorem Slot.forget_singleton (slot : Slot) (l : Nat) :
    slot.forget [l] =
      if slot.currentLink = some l then { slot with currentLink := none } else slot := by
  simp [Slot.forget]

structure Removes (removed : List Nat) (node next : Node) : Prop where
  unlocked : next.lock.tschLocked = false
  inv : ScheduleInv next.sched
  slot_eq : next.slot = node.slot.forget removed
  mem_eq : next.sched.linkMemb.mem = node.sched.linkMemb.mem
  installed_iff : ∀ l, l ∈ next.sched.installedLinks ↔
    l ∈ node.sched.installedLinks ∧ l ∉ removed

structure ScheduleEffect (removed : List Nat) (node next : Node) : Prop where
  unlocked : next.lock.tschLocked = false
  inv : ScheduleInv next.sched
  slot_eq : next.slot = node.slot.forget removed
  kept : ∀ l ∈ node.sched.installedLinks, l ∉ removed →
    l ∈ next.sched.installedLinks ∧ next.link l = node.link l

theorem Removes.effect {removed : List Nat} {node next : Node} (removes : Removes removed node next) :
    ScheduleEffect removed node next := by
  refine ⟨removes.unlocked, removes.inv, removes.slot_eq, ?_⟩
  intro l installed outside
  exact ⟨(removes.installed_iff l).mpr ⟨installed, outside⟩, congrFun removes.mem_eq l⟩

variable {node : Node}

theorem Removes.refl (free : node.lock.tschLocked = false)
    (inv : ScheduleInv node.sched) : Removes [] node node :=
  ⟨free, inv, by simp, rfl, by simp⟩

theorem Removes.trans {first second : List Nat} {node middle next : Node}
    (one : Removes first node middle) (two : Removes second middle next) :
    Removes (first ++ second) node next := by
  refine ⟨two.unlocked, two.inv, ?_, two.mem_eq.trans one.mem_eq, ?_⟩
  · rw [two.slot_eq, one.slot_eq, Slot.forget_append]
  · intro l
    rw [two.installed_iff, one.installed_iff, List.mem_append, not_or, and_assoc]

theorem Removes.congr {removed others : List Nat} {node next : Node}
    (removes : Removes removed node next) (same : ∀ l, l ∈ others ↔ l ∈ removed) :
    Removes others node next := by
  refine ⟨removes.unlocked, removes.inv, ?_, removes.mem_eq, ?_⟩
  · rw [removes.slot_eq]
    simp only [Slot.forget, same]
  · intro l
    rw [same, removes.installed_iff]

variable (conf : TschConf)

theorem tschScheduleRemoveLink_eq {sf l : Nat} (free : node.lock.tschLocked = false)
    (handle : (node.link l).slotframeHandle = (node.slotframe sf).handle) :
    (tschScheduleRemoveLink conf (some sf) (some l) node).1 = true ∧
    ∃ queue requested, (tschScheduleRemoveLink conf (some sf) (some l) node).2 =
      { removeLinkLocked sf l node with
        queue := queue, lock := { node.lock with tschLockRequested := requested } } := by
  simp only [tschScheduleRemoveLink, handle, if_true, tschGetLock_of_unlocked free]
  refine ⟨trivial, ?_⟩
  obtain ⟨queue, requested, eq⟩ := updateLinkCounters_frame conf (node.link l).addr
    (node.link l).linkOptions (· - 1) (tschReleaseLock (removeLinkLocked sf l { node with
      lock := { node.lock with tschLocked := true, tschLockRequested := false } })) rfl
  refine ⟨queue, requested, eq.trans ?_⟩
  simp [removeLinkLocked, tschReleaseLock, free]

theorem tschScheduleRemoveLink_refused {sf l : Nat}
    (handle : (node.link l).slotframeHandle ≠ (node.slotframe sf).handle) :
    tschScheduleRemoveLink conf (some sf) (some l) node = (false, node) := by
  simp [tschScheduleRemoveLink, handle]

def removedByRemoveLink (node : Node) : Option Nat → Option Nat → List Nat
  | some sf, some l =>
    if (node.link l).slotframeHandle = (node.slotframe sf).handle then [l] else []
  | _, _ => []

theorem tschScheduleRemoveLink_removes {sf l : Nat}
    (free : node.lock.tschLocked = false) (inv : ScheduleInv node.sched)
    (member : sf ∈ node.sched.slotframeList)
    (handle : (node.link l).slotframeHandle = (node.slotframe sf).handle) :
    Removes [l] node (tschScheduleRemoveLink conf (some sf) (some l) node).2 ∧
    (tschScheduleRemoveLink conf (some sf) (some l) node).2.sched =
      node.sched.withLinks sf (listRemove · l) (node.sched.linkMemb.membFree l)
        node.sched.currentLinkHandle := by
  obtain ⟨queue, requested, eq⟩ := (tschScheduleRemoveLink_eq conf free handle).2
  obtain ⟨kept, listed⟩ := inv.removeLink member handle
  rw [eq]
  refine ⟨⟨free, kept, ?_, ?_, ?_⟩, rfl⟩
  · exact (node.slot.forget_singleton l).symm
  · exact Memb.membFree_mem _ _
  · intro other
    rw [List.mem_singleton]
    exact listed other

theorem tschScheduleRemoveLink_effect (slotframe link : Option Nat)
    (free : node.lock.tschLocked = false) (inv : ScheduleInv node.sched)
    (valid : ∀ sf ∈ slotframe, sf ∈ node.sched.slotframeList) :
    Removes (removedByRemoveLink node slotframe link) node
      (tschScheduleRemoveLink conf slotframe link node).2 ∧
    (tschScheduleRemoveLink conf slotframe link node).2.sched.slotframeList =
      node.sched.slotframeList := by
  rcases slotframe with _ | sf
  · exact ⟨Removes.refl free inv, rfl⟩
  rcases link with _ | l
  · exact ⟨Removes.refl free inv, rfl⟩
  by_cases handle : (node.link l).slotframeHandle = (node.slotframe sf).handle
  · obtain ⟨removes, schedEq⟩ :=
      tschScheduleRemoveLink_removes conf free inv (valid sf rfl) handle
    simp only [removedByRemoveLink, handle, if_true]
    exact ⟨removes, by rw [schedEq]; rfl⟩
  · rw [tschScheduleRemoveLink_refused conf handle]
    simp only [removedByRemoveLink, handle, if_false]
    exact ⟨Removes.refl free inv, trivial⟩

/-- What the removal of one link keeps, the loop over the links of a slotframe keeps. -/
theorem removeLinksFrom_induct {property : Node → Prop} {sf : Nat}
    (step : ∀ {node l}, l ∈ node.sched.links sf → property node →
      property (tschScheduleRemoveLink conf (some sf) (some l) node).2) :
    ∀ (fuel : Nat) {node : Node}, property node → property (removeLinksFrom conf fuel sf node) := by
  intro fuel
  induction fuel with
  | zero => exact id
  | succ fuel ih =>
    intro node holds
    rw [removeLinksFrom]
    split
    next l head => exact ih (step (List.mem_of_mem_head? head) holds)
    next => exact holds

theorem removeSlotframesFrom_induct {property : Node → Prop}
    (step : ∀ {node sf}, sf ∈ node.sched.slotframeList → property node →
      property (tschScheduleRemoveSlotframe conf (some sf) node).2) :
    ∀ (fuel : Nat) {node : Node}, property node →
      property (removeSlotframesFrom conf fuel node).2 := by
  intro fuel
  induction fuel with
  | zero => exact id
  | succ fuel ih =>
    intro node holds
    rw [removeSlotframesFrom]
    split
    next sf head =>
      have removed := step (List.mem_of_mem_head? head) holds
      generalize tschScheduleRemoveSlotframe conf (some sf) node = result at removed ⊢
      obtain ⟨done, after⟩ := result
      cases done with
      | true => exact ih removed
      | false => exact removed
    next => exact holds

theorem removeLinksFrom_removes (sf : Nat) : ∀ fuel node,
    node.lock.tschLocked = false → ScheduleInv node.sched → sf ∈ node.sched.slotframeList →
    (node.sched.links sf).length ≤ fuel →
    Removes (node.sched.links sf) node (removeLinksFrom conf fuel sf node) ∧
    (removeLinksFrom conf fuel sf node).sched.slotframeList = node.sched.slotframeList ∧
    (removeLinksFrom conf fuel sf node).sched.links sf = [] := by
  intro fuel
  induction fuel with
  | zero =>
    intro node free inv member bound
    have empty := List.eq_nil_of_length_eq_zero (Nat.le_zero.mp bound)
    rw [empty]
    exact ⟨Removes.refl free inv, rfl, empty⟩
  | succ fuel ih =>
    intro node free inv member bound
    rcases list : node.sched.links sf with _ | ⟨l, rest⟩
    · have stop : removeLinksFrom conf (fuel + 1) sf node = node := by
        have empty : (node.slotframe sf).linksList = [] := list
        simp [removeLinksFrom, empty]
      rw [stop]
      exact ⟨Removes.refl free inv, rfl, list⟩
    · have inside : l ∈ node.sched.links sf := by simp [list]
      have handle := (inv.placed sf member l inside).handle_eq
      obtain ⟨removes, schedEq⟩ := tschScheduleRemoveLink_removes conf free inv member handle
      have lists : (tschScheduleRemoveLink conf (some sf) (some l) node).2.sched.slotframeList =
          node.sched.slotframeList := by rw [schedEq]; rfl
      have links : (tschScheduleRemoveLink conf (some sf) (some l) node).2.sched.links sf =
          rest := by
        rw [schedEq, Schedule.withLinks_same, list, listRemove, List.erase_cons_head]
      have next : removeLinksFrom conf (fuel + 1) sf node = removeLinksFrom conf fuel sf
          (tschScheduleRemoveLink conf (some sf) (some l) node).2 := by
        have front : (node.slotframe sf).linksList = l :: rest := list
        simp [removeLinksFrom, front]
      rw [list, List.length_cons] at bound
      obtain ⟨restRemoves, restLists, restLinks⟩ := ih _ removes.unlocked removes.inv
        (lists ▸ member) (by rw [links]; omega)
      rw [links] at restRemoves
      rw [next]
      exact ⟨removes.trans restRemoves, restLists.trans lists, restLinks⟩

variable {sf : Nat}

theorem tschScheduleRemoveSlotframe_removes
    (free : node.lock.tschLocked = false) (inv : ScheduleInv node.sched)
    (member : sf ∈ node.sched.slotframeList) :
    (tschScheduleRemoveSlotframe conf (some sf) node).1 = true ∧
    Removes (node.sched.links sf) node (tschScheduleRemoveSlotframe conf (some sf) node).2 ∧
    (tschScheduleRemoveSlotframe conf (some sf) node).2.sched.slotframeList =
      listRemove node.sched.slotframeList sf := by
  obtain ⟨removes, lists, links⟩ := removeLinksFrom_removes conf sf
    (node.slotframe sf).linksList.length node free inv member le_rfl
  obtain ⟨kept, same⟩ := removes.inv.removeSlotframe (lists ▸ member) links rfl
  simp only [tschScheduleRemoveSlotframe, tschGetLock_of_unlocked removes.unlocked]
  refine ⟨trivial, ⟨rfl, kept, removes.slot_eq, removes.mem_eq, ?_⟩, ?_⟩
  · intro l
    rw [← removes.installed_iff l, ← same]
    rfl
  · rw [← lists]
    rfl

theorem removeSlotframesFrom_removes : ∀ fuel node,
    node.lock.tschLocked = false → ScheduleInv node.sched →
    node.sched.slotframeList.length ≤ fuel →
    (removeSlotframesFrom conf fuel node).1 = true ∧
    Removes node.sched.installedLinks node (removeSlotframesFrom conf fuel node).2 ∧
    (removeSlotframesFrom conf fuel node).2.sched.slotframeList = [] := by
  intro fuel
  induction fuel with
  | zero =>
    intro node free inv bound
    have empty := List.eq_nil_of_length_eq_zero (Nat.le_zero.mp bound)
    have none : node.sched.installedLinks = [] := by simp [Schedule.installedLinks, empty]
    rw [none]
    exact ⟨rfl, Removes.refl free inv, empty⟩
  | succ fuel ih =>
    intro node free inv bound
    rcases list : node.sched.slotframeList with _ | ⟨sf, rest⟩
    · have none : node.sched.installedLinks = [] := by simp [Schedule.installedLinks, list]
      have stop : removeSlotframesFrom conf (fuel + 1) node = (true, node) := by
        simp [removeSlotframesFrom, list]
      rw [none, stop]
      exact ⟨rfl, Removes.refl free inv, list⟩
    · have member : sf ∈ node.sched.slotframeList := by simp [list]
      obtain ⟨done, removes, lists⟩ := tschScheduleRemoveSlotframe_removes conf free inv member
      have next : removeSlotframesFrom conf (fuel + 1) node = removeSlotframesFrom conf fuel
          (tschScheduleRemoveSlotframe conf (some sf) node).2 := by
        rcases result : tschScheduleRemoveSlotframe conf (some sf) node with ⟨ok, after⟩
        rw [result] at done
        simp only at done
        simp [removeSlotframesFrom, list, result, done]
      rw [list, listRemove, List.erase_cons_head] at lists
      rw [list, List.length_cons] at bound
      obtain ⟨restDone, restRemoves, restLists⟩ := ih _ removes.unlocked removes.inv
        (by rw [lists]; omega)
      rw [next]
      refine ⟨restDone, (removes.trans restRemoves).congr ?_, restLists⟩
      intro l
      rw [List.mem_append, removes.installed_iff]
      have sub : l ∈ node.sched.links sf → l ∈ node.sched.installedLinks := fun inside =>
        List.mem_flatMap.mpr ⟨sf, member, inside⟩
      tauto

theorem tschScheduleGetSlotframeByHandle_none {handle : UInt16}
    (free : node.lock.tschLocked = false)
    (absent : tschScheduleGetSlotframeByHandle handle node = none) :
    ∀ sf ∈ node.sched.slotframeList, (node.slotframe sf).handle ≠ handle := by
  simp only [tschScheduleGetSlotframeByHandle, tschIsLocked, free, Bool.not_false, if_true,
    List.find?_eq_none, decide_eq_true_eq] at absent
  exact absent

theorem tschScheduleAddSlotframe_removes (handle size : UInt16)
    (free : node.lock.tschLocked = false) (inv : ScheduleInv node.sched) :
    Removes [] node (tschScheduleAddSlotframe handle size node).2 ∧
    ∀ sf ∈ (tschScheduleAddSlotframe handle size node).1,
      sf ∈ (tschScheduleAddSlotframe handle size node).2.sched.slotframeList := by
  simp only [tschScheduleAddSlotframe]
  by_cases zero : size = 0
  · simp [zero, Removes.refl free inv]
  rcases lookup : tschScheduleGetSlotframeByHandle handle node with _ | old
  · have unused := tschScheduleGetSlotframeByHandle_none free lookup
    simp only [zero, if_false, Option.isSome_none, Bool.false_eq_true,
      tschGetLock_of_unlocked free]
    rcases alloc : node.sched.slotframeMemb.membAlloc with ⟨_ | sf, memb⟩
    · refine ⟨⟨rfl, inv, by simp [tschReleaseLock], rfl, by simp [tschReleaseLock]⟩, ?_⟩
      intro sf absent
      cases absent
    · obtain ⟨fresh, used, kept, -⟩ := Memb.membAlloc_taken inv.slotframes_inUse alloc
      obtain ⟨newInv, same⟩ := inv.addSlotframe
        { node.sched.slotframeMemb.mem sf with
          handle := handle, radio := none, tschTiming := none
          size := tschAsnDivisorInit size, linksList := [] }
        fresh used kept unused zero rfl rfl rfl
      have written : (memb.write sf fun block => { block with
          handle := handle, radio := none, tschTiming := none
          size := tschAsnDivisorInit size, linksList := [] }) =
          memb.write sf fun _ => { node.sched.slotframeMemb.mem sf with
            handle := handle, radio := none, tschTiming := none
            size := tschAsnDivisorInit size, linksList := [] } := by
        simp [Memb.write, kept]
      simp only [written, tschReleaseLock]
      refine ⟨⟨rfl, newInv, by simp, rfl, by simp [same]⟩, ?_⟩
      rintro _ ⟨⟩
      simp [listAdd]
  · simp [zero, Removes.refl free inv]

theorem tschScheduleGetLinkByTimeslot_some {sf l : Nat} {timeslot : UInt16}
    (found : tschScheduleGetLinkByTimeslot (some sf) timeslot node = some l) :
    l ∈ node.sched.links sf ∧ (node.link l).timeslot = timeslot := by
  simp only [tschScheduleGetLinkByTimeslot, Option.bind_some] at found
  split at found
  · exact ⟨List.mem_of_find?_eq_some found, by simpa using List.find?_some found⟩
  · cases found

theorem tschScheduleGetLinkByTimeslot_none {timeslot : UInt16} (free : node.lock.tschLocked = false)
    (absent : tschScheduleGetLinkByTimeslot (some sf) timeslot node = none) :
    ∀ l ∈ node.sched.links sf, (node.link l).timeslot ≠ timeslot := by
  simp only [tschScheduleGetLinkByTimeslot, tschIsLocked, free, Bool.not_false, if_true,
    Option.bind_some, List.find?_eq_none, decide_eq_true_eq] at absent
  exact absent

theorem tschScheduleRemoveLinkByTimeslot_removes (timeslot : UInt16)
    (free : node.lock.tschLocked = false) (inv : ScheduleInv node.sched)
    (member : sf ∈ node.sched.slotframeList) {next : Node}
    (nextEq : next = (tschScheduleRemoveLinkByTimeslot conf (some sf) timeslot node).2) :
    Removes (tschScheduleGetLinkByTimeslot (some sf) timeslot node).toList node next ∧
    next.sched.slotframeList = node.sched.slotframeList ∧
    (∀ l ∈ next.sched.links sf, (next.link l).timeslot ≠ timeslot) ∧
    next.sched.currentLinkHandle = node.sched.currentLinkHandle ∧
    (∀ other, (next.slotframe other).size = (node.slotframe other).size) ∧
    next.sched.linkMemb.membAlloc.1.isSome =
      ((tschScheduleGetLinkByTimeslot (some sf) timeslot node).isSome ||
        node.sched.linkMemb.membAlloc.1.isSome) := by
  subst nextEq
  simp only [tschScheduleRemoveLinkByTimeslot, Option.isSome_some, if_true]
  rcases lookup : tschScheduleGetLinkByTimeslot (some sf) timeslot node with _ | l
  · exact ⟨Removes.refl free inv, rfl, tschScheduleGetLinkByTimeslot_none free lookup, rfl,
      fun _ => rfl, rfl⟩
  · obtain ⟨inside, position⟩ := tschScheduleGetLinkByTimeslot_some lookup
    have installed : l ∈ node.sched.installedLinks := List.mem_flatMap.mpr ⟨sf, member, inside⟩
    obtain ⟨removes, schedEq⟩ := tschScheduleRemoveLink_removes conf free inv member
      (inv.placed sf member l inside).handle_eq
    refine ⟨removes, by rw [schedEq]; rfl, ?_, by rw [schedEq]; rfl, fun other => ?_, ?_⟩
    · intro other kept same
      rw [schedEq, Schedule.withLinks_same] at kept
      rw [Node.link, removes.mem_eq] at same
      have unique := inv.timeslots_distinct sf member
      have different := (unique.of_map _).mem_erase_iff.mp kept
      exact different.1 (List.inj_on_of_nodup_map unique different.2 inside
        (same.trans position.symm))
    · rw [Node.slotframe, schedEq]
      exact (node.sched.withLinks_slotframe sf _ _ _ other).2
    · rw [schedEq]
      exact inv.links_inUse.membAlloc_membFree installed

def newLink (sf : Nat) (linkOptions : UInt8) (linkType : LinkType) (address : Option LinkAddr)
    (timeslot channelOffset : UInt16) (node : Node) : TschLink :=
  { handle := UInt16.ofNat node.sched.currentLinkHandle
    addr := address.getD linkaddrNull
    slotframeHandle := (node.slotframe sf).handle
    timeslot := timeslot
    channelOffset := channelOffset
    linkOptions := linkOptions
    linkType := linkType }

def removedByAddLink (node : Node) (slotframe : Option Nat) (timeslot channelOffset : UInt16) :
    List Nat :=
  match slotframe with
  | some sf =>
    if timeslot < (node.slotframe sf).size.val ∧ channelOffset ≤ 15 then
      (tschScheduleGetLinkByTimeslot (some sf) timeslot node).toList
    else []
  | none => []

variable {timeslot channelOffset : UInt16}

theorem tschScheduleAddLink_unfit (linkOptions : UInt8)
    (linkType : LinkType) (address : Option LinkAddr)
    (unfit : ¬ (timeslot < (node.slotframe sf).size.val ∧ channelOffset ≤ 15)) :
    tschScheduleAddLink conf (some sf) linkOptions linkType address timeslot channelOffset node =
      (none, node) := by
  rw [UInt16.lt_iff_toNat_lt] at unfit
  simp only [tschScheduleAddLink]
  split
  next => rfl
  next inFrame =>
    have high : channelOffset > 15 := by
      apply UInt16.not_le.mp
      intro low
      exact unfit ⟨by omega, low⟩
    exact if_pos high

theorem tschScheduleAddLink_fit (linkOptions : UInt8)
    (linkType : LinkType) (address : Option LinkAddr)
    (inFrame : timeslot < (node.slotframe sf).size.val) (channel : channelOffset ≤ 15) :
    tschScheduleAddLink conf (some sf) linkOptions linkType address timeslot channelOffset node =
      match tschGetLock (tschScheduleRemoveLinkByTimeslot conf (some sf) timeslot node).2 with
      | (false, node) => (none, node)
      | (true, node) =>
        match node.sched.linkMemb.membAlloc with
        | (none, _) => (none, tschReleaseLock node)
        | (some l, memb) =>
          (some l, updateLinkCounters conf (address.getD linkaddrNull) linkOptions (· + 1)
            (tschReleaseLock (addLinkLocked sf l memb linkOptions linkType
              (address.getD linkaddrNull) timeslot channelOffset node))) := by
  have inside : ¬ (timeslot.toNat : Int) > ((node.slotframe sf).size.val.toNat : Int) - 1 := by
    rw [UInt16.lt_iff_toNat_lt] at inFrame
    omega
  exact (if_neg inside).trans (if_neg (UInt16.not_lt.mpr channel))

/-- `tsch_schedule_add_link` passes its checks and finds a block for the link. -/
def addsLink (node : Node) : Option Nat → UInt16 → UInt16 → Bool
  | some sf, timeslot, channelOffset =>
    timeslot < (node.slotframe sf).size.val && channelOffset ≤ 15 &&
      ((tschScheduleGetLinkByTimeslot (some sf) timeslot node).isSome ||
        node.sched.linkMemb.membAlloc.1.isSome)
  | none, _, _ => false

structure LinkAdded (sf l : Nat) (removed : List Nat) (timeslot : UInt16) (node next : Node) :
    Prop where
  installed_iff : ∀ other, other ∈ next.sched.installedLinks ↔
    (other ∈ node.sched.installedLinks ∧ other ∉ removed) ∨ other = l
  fresh : ¬ (l ∈ node.sched.installedLinks ∧ l ∉ removed)
  kept : ∀ other, other ≠ l → next.link other = node.link other
  handle_eq : (next.link l).handle = UInt16.ofNat node.sched.currentLinkHandle
  timeslot_eq : (next.link l).timeslot = timeslot
  listed : l ∈ next.sched.links sf
  counter : next.sched.currentLinkHandle = node.sched.currentLinkHandle + 1
  size_eq : ∀ other, (next.slotframe other).size = (node.slotframe other).size

theorem LinkAdded.effect {l : Nat} {removed : List Nat} {next : Node}
    (added : LinkAdded sf l removed timeslot node next) (unlocked : next.lock.tschLocked = false)
    (inv : ScheduleInv next.sched) (slot : next.slot = node.slot.forget removed) :
    ScheduleEffect removed node next := by
  refine ⟨unlocked, inv, slot, fun other installed outside => ?_⟩
  have stays : other ∈ node.sched.installedLinks ∧ other ∉ removed := ⟨installed, outside⟩
  exact ⟨(added.installed_iff other).mpr (.inl stays),
    added.kept other fun same => added.fresh (same ▸ stays)⟩

theorem tschScheduleAddLink_effect (slotframe : Option Nat) (linkOptions : UInt8)
    (linkType : LinkType) (address : Option LinkAddr) (timeslot channelOffset : UInt16)
    (free : node.lock.tschLocked = false) (inv : ScheduleInv node.sched)
    (valid : ∀ sf ∈ slotframe, sf ∈ node.sched.slotframeList) {next : Node}
    (nextEq : next = (tschScheduleAddLink conf slotframe linkOptions linkType address timeslot
      channelOffset node).2) :
    ScheduleEffect (removedByAddLink node slotframe timeslot channelOffset) node next ∧
    next.sched.slotframeList = node.sched.slotframeList ∧
    if addsLink node slotframe timeslot channelOffset then
      ∃ sf ∈ slotframe, ∃ l, LinkAdded sf l (removedByAddLink node slotframe timeslot channelOffset)
        timeslot node next
    else
      (∀ l, l ∈ next.sched.installedLinks ↔ l ∈ node.sched.installedLinks) ∧
        next.sched.linkMemb.mem = node.sched.linkMemb.mem := by
  subst nextEq
  rcases slotframe with _ | sf
  · exact ⟨(Removes.refl free inv).effect, rfl, fun _ => Iff.rfl, rfl⟩
  by_cases fits : timeslot < (node.slotframe sf).size.val ∧ channelOffset ≤ 15
  case neg =>
    have refused : addsLink node (some sf) timeslot channelOffset = false := by
      simp only [addsLink, Bool.and_eq_false_iff, decide_eq_false_iff_not]
      exact Or.inl (not_and_or.mp fits)
    have untouched : removedByAddLink node (some sf) timeslot channelOffset = [] := if_neg fits
    rw [tschScheduleAddLink_unfit conf linkOptions linkType address fits, refused, untouched]
    exact ⟨(Removes.refl free inv).effect, rfl, fun _ => Iff.rfl, rfl⟩
  obtain ⟨inFrame, channel⟩ := fits
  rw [tschScheduleAddLink_fit conf linkOptions linkType address inFrame channel]
  simp only [removedByAddLink, addsLink, inFrame, channel, and_self, if_true, decide_true,
    Bool.true_and]
  obtain ⟨removes, lists, vacant, counter, sizes, room⟩ :=
    tschScheduleRemoveLinkByTimeslot_removes conf timeslot free inv (valid sf rfl) rfl
  rw [← room]
  generalize (tschScheduleRemoveLinkByTimeslot conf (some sf) timeslot node).2 = middle at *
  simp only [tschGetLock_of_unlocked removes.unlocked]
  rcases alloc : middle.sched.linkMemb.membAlloc with ⟨_ | l, memb⟩
  · have absent : (tschScheduleGetLinkByTimeslot (some sf) timeslot node).toList = [] := by
      rw [alloc] at room
      have noLink := (Bool.or_eq_false_iff.mp room.symm).1
      rw [Option.isSome_eq_false_iff, Option.isNone_iff_eq_none] at noLink
      rw [noLink]
      rfl
    refine ⟨⟨rfl, removes.inv, removes.slot_eq, removes.effect.kept⟩, lists, fun l => ?_,
      removes.mem_eq⟩
    have listed := removes.installed_iff l
    rw [absent] at listed
    change l ∈ middle.sched.installedLinks ↔ _
    simpa using listed
  · obtain ⟨fresh, used, kept, -⟩ := Memb.membAlloc_taken removes.inv.links_inUse alloc
    obtain ⟨newInv, listed⟩ := removes.inv.addLink (lists ▸ valid sf rfl)
      (newLink sf linkOptions linkType address timeslot channelOffset middle)
      (middle.sched.currentLinkHandle + 1) fresh used kept ⟨sizes sf ▸ inFrame, channel, rfl⟩ vacant
    obtain ⟨queue, requested, eq⟩ := updateLinkCounters_frame conf (address.getD linkaddrNull)
      linkOptions (· + 1) (tschReleaseLock (addLinkLocked sf l memb linkOptions linkType
        (address.getD linkaddrNull) timeslot channelOffset { middle with
          lock := { middle.lock with tschLocked := true, tschLockRequested := false } })) rfl
    simp only [Option.isSome_some, if_true] at eq ⊢
    rw [eq]
    suffices added : LinkAdded sf l _ timeslot node _ from
      ⟨added.effect rfl newInv removes.slot_eq, lists, sf, rfl, l, added⟩
    refine ⟨fun other => ?_, ?_, fun other different => ?_, ?_, ?_, ?_, ?_, fun other => ?_⟩
    · rw [← removes.installed_iff other]
      exact listed other
    · rw [← removes.installed_iff l]
      exact fresh
    · simp only [Node.link, tschReleaseLock, addLinkLocked, Memb.write_other _ _ different, kept,
        removes.mem_eq]
    · simp [Node.link, tschReleaseLock, addLinkLocked, counter]
    · simp [Node.link, tschReleaseLock, addLinkLocked]
    · simp [Schedule.links, tschReleaseLock, addLinkLocked, listAdd]
    · simp [tschReleaseLock, addLinkLocked, counter]
    · rw [← sizes other]
      exact (middle.sched.withLinks_slotframe sf (listAdd · l) memb 0 other).2

theorem removedByAddLink_installed {slotframe : Option Nat}
    (valid : ∀ sf ∈ slotframe, sf ∈ node.sched.slotframeList)
    {l : Nat} (removed : l ∈ removedByAddLink node slotframe timeslot channelOffset) :
    l ∈ node.sched.installedLinks := by
  rcases slotframe with _ | sf
  · simp [removedByAddLink] at removed
  · simp only [removedByAddLink] at removed
    split at removed
    · have found := Option.mem_toList.mp removed
      exact List.mem_flatMap.mpr ⟨sf, valid sf rfl, (tschScheduleGetLinkByTimeslot_some found).1⟩
    · cases removed

theorem ScheduleInv.configure (inv : ScheduleInv node.sched) (sf : Nat)
    (change : TschSlotframe → TschSlotframe)
    (same : ∀ block, (change block).handle = block.handle ∧ (change block).size = block.size ∧
      (change block).linksList = block.linksList) :
    ScheduleInv (node.writeSlotframe sf change).sched ∧
    (node.writeSlotframe sf change).sched.installedLinks = node.sched.installedLinks := by
  have memEq : ∀ other, ((node.writeSlotframe sf change).sched.slotframeMemb.mem other).handle =
      (node.sched.slotframeMemb.mem other).handle ∧
      ((node.writeSlotframe sf change).sched.slotframeMemb.mem other).size =
        (node.sched.slotframeMemb.mem other).size ∧
      (node.writeSlotframe sf change).sched.links other = node.sched.links other := by
    intro other
    by_cases equal : other = sf
    · subst equal
      simp [Node.writeSlotframe, Schedule.links, same]
    · simp [Node.writeSlotframe, Schedule.links, Memb.write_other _ _ equal]
  have listEq : (node.writeSlotframe sf change).sched.installedLinks =
      node.sched.installedLinks := by
    exact List.flatMap_congr fun other _ => (memEq other).2.2
  refine ⟨⟨?_, ?_, ?_, ?_, ?_, ?_, ?_⟩, listEq⟩
  · rw [List.map_congr_left fun other _ => (memEq other).1]
    exact inv.handles_distinct
  · intro other member
    rw [(memEq other).2.1]
    exact inv.size_eq other member
  · intro other member
    rw [(memEq other).2.2]
    exact inv.timeslots_distinct other member
  · intro other member l inside
    rw [(memEq other).2.2] at inside
    have placed := inv.placed other member l inside
    exact ⟨(memEq other).2.1 ▸ placed.timeslot_lt, placed.channelOffset_le,
      (memEq other).1 ▸ placed.handle_eq⟩
  · rw [listEq]
    exact inv.links_nodup
  · rw [listEq]
    exact inv.links_inUse
  · exact inv.slotframes_inUse.write sf change

def addMinimalLink (sfMin : Option Nat) (framed : Node) : Node :=
  (tschScheduleAddLink conf sfMin
    (linkOptionRx ||| linkOptionTx ||| linkOptionShared ||| linkOptionTimeKeeping) .advertising
    (some tschBroadcastAddress) 0 0 framed).2

def configureMinimal (sfMin : Option Nat) (linked : Node) : Node :=
  match sfMin with
  | some sf => linked.writeSlotframe sf fun block =>
    { block with cc1200Config := some conf.cc1200ConfRfCfg }
  | none => linked

/-- The slotframe of the minimal schedule is added, without links so far. -/
structure MinimalFramed (sfMin : Option Nat) (framed : Node) : Prop where
  unlocked : framed.lock.tschLocked = false
  inv : ScheduleInv framed.sched
  valid : ∀ sf ∈ sfMin, sf ∈ framed.sched.slotframeList
  empty : framed.sched.installedLinks = []

theorem MinimalFramed.linked {sfMin : Option Nat} {framed : Node}
    (ready : MinimalFramed sfMin framed) :
    ScheduleEffect [] framed (addMinimalLink conf sfMin framed) ∧
    (addMinimalLink conf sfMin framed).sched.slotframeList = framed.sched.slotframeList := by
  obtain ⟨effect, lists, -⟩ := tschScheduleAddLink_effect conf sfMin
    (linkOptionRx ||| linkOptionTx ||| linkOptionShared ||| linkOptionTimeKeeping) .advertising
    (some tschBroadcastAddress) 0 0 ready.unlocked ready.inv ready.valid rfl
  have replaced : removedByAddLink framed sfMin 0 0 = [] := by
    apply List.eq_nil_iff_forall_not_mem.mpr
    intro l removed
    simpa [ready.empty] using removedByAddLink_installed ready.valid removed
  rw [replaced] at effect
  exact ⟨effect, lists⟩

theorem MinimalFramed.configured {sf : Nat} {framed : Node}
    (ready : MinimalFramed (some sf) framed) :
    ScheduleInv (configureMinimal conf (some sf) (addMinimalLink conf (some sf) framed)).sched ∧
    (configureMinimal conf (some sf) (addMinimalLink conf (some sf) framed)).sched.installedLinks =
      (addMinimalLink conf (some sf) framed).sched.installedLinks :=
  (ready.linked conf).1.inv.configure sf
    (fun block => { block with cc1200Config := some conf.cc1200ConfRfCfg }) fun _ => ⟨rfl, rfl, rfl⟩

theorem tschScheduleCreateMinimal_framed (free : node.lock.tschLocked = false)
    (inv : ScheduleInv node.sched) : ∃ cleared sfMin framed,
    (removeSlotframesFrom conf node.sched.slotframeList.length node).2 = cleared ∧
    tschScheduleAddSlotframe 0 conf.scheduleDefaultLength cleared = (sfMin, framed) ∧
    cleared.lock.tschLocked = false ∧ framed.slot = node.slot.forget node.sched.installedLinks ∧
    MinimalFramed sfMin framed ∧
    tschScheduleCreateMinimal conf node =
      configureMinimal conf sfMin (addMinimalLink conf sfMin framed) := by
  obtain ⟨-, removes, -⟩ := removeSlotframesFrom_removes conf node.sched.slotframeList.length
    node free inv le_rfl
  obtain ⟨added, valid⟩ := tschScheduleAddSlotframe_removes 0 conf.scheduleDefaultLength
    removes.unlocked removes.inv
  rcases framed : tschScheduleAddSlotframe 0 conf.scheduleDefaultLength
    (removeSlotframesFrom conf node.sched.slotframeList.length node).2 with ⟨sfMin, after⟩
  rw [framed] at added valid
  refine ⟨_, sfMin, after, rfl, framed, removes.unlocked, ?_,
    ⟨added.unlocked, added.inv, valid, ?_⟩, ?_⟩
  · rw [added.slot_eq, Slot.forget_nil, removes.slot_eq]
  · apply List.eq_nil_iff_forall_not_mem.mpr
    intro l installed
    rw [added.installed_iff, removes.installed_iff] at installed
    exact installed.1.2 installed.1.1
  · simp only [tschScheduleCreateMinimal, tschScheduleRemoveAllSlotframes, framed]
    rfl

theorem tschScheduleCreateMinimal_effect (free : node.lock.tschLocked = false)
    (inv : ScheduleInv node.sched) :
    ScheduleEffect node.sched.installedLinks node (tschScheduleCreateMinimal conf node) := by
  obtain ⟨-, sfMin, framed, -, -, -, slotEq, ready, eq⟩ :=
    tschScheduleCreateMinimal_framed conf free inv
  have effect := (ready.linked conf).1
  have slot : (addMinimalLink conf sfMin framed).slot =
      node.slot.forget node.sched.installedLinks := by
    rw [effect.slot_eq, Slot.forget_nil, slotEq]
  rw [eq]
  rcases sfMin with _ | sf
  · exact ⟨effect.unlocked, effect.inv, slot, fun l installed outside => (outside installed).elim⟩
  · exact ⟨effect.unlocked, (ready.configured conf).1, slot, fun l installed outside =>
      (outside installed).elim⟩

inductive ScheduleCall where
  | addSlotframe (handle size : UInt16)
  | removeSlotframe (slotframe : Option Nat)
  | removeAllSlotframes
  | addLink (slotframe : Option Nat) (linkOptions : UInt8) (linkType : LinkType)
      (address : Option LinkAddr) (timeslot channelOffset : UInt16)
  | removeLink (slotframe link : Option Nat)
  | removeLinkByTimeslot (slotframe : Option Nat) (timeslot : UInt16)
  | createMinimal

namespace ScheduleCall

def exec (node : Node) : ScheduleCall → Node
  | addSlotframe handle size => (tschScheduleAddSlotframe handle size node).2
  | removeSlotframe slotframe => (tschScheduleRemoveSlotframe conf slotframe node).2
  | removeAllSlotframes => (tschScheduleRemoveAllSlotframes conf node).2
  | addLink slotframe linkOptions linkType address timeslot channelOffset =>
    (tschScheduleAddLink conf slotframe linkOptions linkType address timeslot channelOffset node).2
  | removeLink slotframe link => (tschScheduleRemoveLink conf slotframe link node).2
  | removeLinkByTimeslot slotframe timeslot =>
    (tschScheduleRemoveLinkByTimeslot conf slotframe timeslot node).2
  | createMinimal => tschScheduleCreateMinimal conf node

def slotframeArgument : ScheduleCall → Option Nat
  | removeSlotframe slotframe => slotframe
  | addLink slotframe _ _ _ _ _ => slotframe
  | removeLink slotframe _ => slotframe
  | removeLinkByTimeslot slotframe _ => slotframe
  | _ => none

/-- The slotframe pointer is NULL or names a slotframe of the schedule. Link pointers are
not restricted: the functions check them themselves. -/
def PointerValid (node : Node) (call : ScheduleCall) : Prop :=
  ∀ sf ∈ call.slotframeArgument, sf ∈ node.sched.slotframeList

def removedLinks (node : Node) : ScheduleCall → List Nat
  | addSlotframe _ _ => []
  | removeSlotframe slotframe => slotframe.elim [] node.sched.links
  | removeAllSlotframes => node.sched.installedLinks
  | addLink slotframe _ _ _ timeslot channelOffset =>
    removedByAddLink node slotframe timeslot channelOffset
  | removeLink slotframe link => removedByRemoveLink node slotframe link
  | removeLinkByTimeslot slotframe timeslot =>
    (tschScheduleGetLinkByTimeslot slotframe timeslot node).toList
  | createMinimal => node.sched.installedLinks

theorem exec_effect {node : Node} {call : ScheduleCall} (free : node.lock.tschLocked = false)
    (inv : ScheduleInv node.sched) (valid : call.PointerValid node) :
    ScheduleEffect (call.removedLinks node) node (call.exec conf node) := by
  cases call with
  | addSlotframe handle size => exact (tschScheduleAddSlotframe_removes handle size free inv).1.effect
  | removeSlotframe slotframe =>
    rcases slotframe with _ | sf
    · exact (Removes.refl free inv).effect
    · exact (tschScheduleRemoveSlotframe_removes conf free inv (valid sf rfl)).2.1.effect
  | removeAllSlotframes => exact (removeSlotframesFrom_removes conf _ node free inv le_rfl).2.1.effect
  | addLink slotframe linkOptions linkType address timeslot channelOffset =>
    exact (tschScheduleAddLink_effect conf slotframe linkOptions linkType address timeslot
      channelOffset free inv valid rfl).1
  | removeLink slotframe link =>
    exact (tschScheduleRemoveLink_effect conf slotframe link free inv valid).1.effect
  | removeLinkByTimeslot slotframe timeslot =>
    rcases slotframe with _ | sf
    · have absent : tschScheduleGetLinkByTimeslot none timeslot node = none := by
        simp [tschScheduleGetLinkByTimeslot]
      simp only [removedLinks, absent]
      exact (Removes.refl free inv).effect
    · exact (tschScheduleRemoveLinkByTimeslot_removes conf timeslot free inv
        (valid sf rfl) rfl).1.effect
  | createMinimal => exact tschScheduleCreateMinimal_effect conf free inv

end ScheduleCall

theorem tschScheduleInit_inv {node initial : Node} (started : tschScheduleInit node = (true, initial)) :
    initial.lock.tschLocked = false ∧ ScheduleInv initial.sched := by
  simp only [tschScheduleInit] at started
  split at started
  · rename_i locked _
    cases started
    exact ⟨rfl, ScheduleInv.init _ _ _⟩
  · cases started

theorem tschScheduleInit_cc1200 : tschScheduleInit (Node.boot cc1200Conf) =
    (true, (tschScheduleInit (Node.boot cc1200Conf)).2) := rfl

theorem ScheduleCall.run_inv {initial : Node} (free : initial.lock.tschLocked = false)
    (inv : ScheduleInv initial.sched) {calls : List ScheduleCall}
    (valid : Run.Meets (ScheduleCall.exec conf) (fun node call => call.PointerValid node)
      initial calls) :
    (Run.final (ScheduleCall.exec conf) initial calls).lock.tschLocked = false ∧
      ScheduleInv (Run.final (ScheduleCall.exec conf) initial calls).sched := by
  apply Run.invariant_of_meets
    (fun node : Node => node.lock.tschLocked = false ∧ ScheduleInv node.sched) _ calls initial
    ⟨free, inv⟩ valid
  intro node call holds pointer
  have effect := ScheduleCall.exec_effect conf holds.1 holds.2 pointer
  exact ⟨effect.unlocked, effect.inv⟩

theorem scheduleInv_of_calls {node initial : Node} (started : tschScheduleInit node = (true, initial))
    {calls : List ScheduleCall}
    (valid : Run.Meets (ScheduleCall.exec conf) (fun node call => call.PointerValid node)
      initial calls) :
    ScheduleInv (Run.final (ScheduleCall.exec conf) initial calls).sched := by
  obtain ⟨free, inv⟩ := tschScheduleInit_inv started
  exact (ScheduleCall.run_inv conf free inv valid).2

theorem scheduleInv_of_calls_boot :
    ScheduleInv (Run.final (ScheduleCall.exec cc1200Conf)
      (tschScheduleInit (Node.boot cc1200Conf)).2
      [.addSlotframe 1 7, .addSlotframe 2 11,
        .addLink (some 0) linkOptionTx .normal none 3 2,
        .addLink (some 1) linkOptionRx .normal none 5 2,
        .addLink (some 0) linkOptionRx .normal none 3 9,
        .addLink (some 0) linkOptionRx .normal none 7 0,
        .removeSlotframe (some 1)]).sched := by
  apply scheduleInv_of_calls cc1200Conf tschScheduleInit_cc1200
  · simp only [Run.Meets, ScheduleCall.PointerValid, ScheduleCall.slotframeArgument]
    decide

def oneTxLink : Schedule :=
  (Run.final (ScheduleCall.exec cc1200Conf) (Node.boot cc1200Conf)
    [.addSlotframe 0 7,
      .addLink (some 0) linkOptionTx .normal (some (Vector.replicate 8 2)) 0 0]).sched

end MultiPhyTsch
