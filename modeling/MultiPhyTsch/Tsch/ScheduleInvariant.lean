import MultiPhyTsch.Lib.Run
import MultiPhyTsch.Tsch.Schedule

/-! The representation invariant of the schedule and what every operation of
`tsch-schedule.c` does to the installed links. -/

namespace MultiPhyTsch

namespace Schedule

def links (sched : Schedule) (sf : Nat) : List Nat := (sched.slotframeMemb.mem sf).linksList

def installedLinks (sched : Schedule) : List Nat := sched.slotframeList.flatMap sched.links

end Schedule

structure LinkPlaced (slotframe : TschSlotframe) (link : TschLink) : Prop where
  timeslot_lt : link.timeslot < slotframe.size.val
  channelOffset_le : link.channelOffset ≤ 15
  handle_eq : link.slotframeHandle = slotframe.handle

structure ScheduleInv (sched : Schedule) : Prop where
  handles_distinct : (sched.slotframeList.map fun sf => (sched.slotframeMemb.mem sf).handle).Nodup
  size_eq : ∀ sf ∈ sched.slotframeList,
    ∃ val : UInt16, val ≠ 0 ∧ (sched.slotframeMemb.mem sf).size = tschAsnDivisorInit val
  timeslots_distinct : ∀ sf ∈ sched.slotframeList,
    ((sched.links sf).map fun l => (sched.linkMemb.mem l).timeslot).Nodup
  placed : ∀ sf ∈ sched.slotframeList, ∀ l ∈ sched.links sf,
    LinkPlaced (sched.slotframeMemb.mem sf) (sched.linkMemb.mem l)
  links_nodup : sched.installedLinks.Nodup
  links_inUse : sched.linkMemb.InUse sched.installedLinks
  slotframes_inUse : sched.slotframeMemb.InUse sched.slotframeList

namespace ScheduleInv

variable {sched : Schedule}

theorem slotframes_nodup (inv : ScheduleInv sched) : sched.slotframeList.Nodup :=
  inv.handles_distinct.of_map _

theorem slotframe_eq_of_handle (inv : ScheduleInv sched) {first second : Nat}
    (firstMember : first ∈ sched.slotframeList) (secondMember : second ∈ sched.slotframeList)
    (same : (sched.slotframeMemb.mem first).handle = (sched.slotframeMemb.mem second).handle) :
    first = second :=
  List.inj_on_of_nodup_map inv.handles_distinct firstMember secondMember same

theorem not_installed (inv : ScheduleInv sched) {sf l : Nat} (member : sf ∈ sched.slotframeList)
    (handle : (sched.linkMemb.mem l).slotframeHandle = (sched.slotframeMemb.mem sf).handle)
    (absent : l ∉ sched.links sf) : l ∉ sched.installedLinks := by
  intro installed
  obtain ⟨other, otherMember, inside⟩ := List.mem_flatMap.mp installed
  have otherHandle := (inv.placed other otherMember l inside).handle_eq
  have same := inv.slotframe_eq_of_handle otherMember member (otherHandle.symm.trans handle)
  exact absent (same ▸ inside)

theorem init (slotframes : Memb TschSlotframe) (links : Memb TschLink) (handle : Nat) :
    ScheduleInv
      { linkMemb := links.membInit, slotframeMemb := slotframes.membInit, slotframeList := []
        currentLinkHandle := handle } := by
  refine ⟨List.nodup_nil, ?_, ?_, ?_, List.nodup_nil, ?_, ?_⟩
  · intro sf member
    cases member
  · intro sf member
    cases member
  · intro sf member
    cases member
  · exact Memb.membInit_inUse links
  · exact Memb.membInit_inUse slotframes

end ScheduleInv

namespace Schedule

def withLinks (sched : Schedule) (sf : Nat) (change : List Nat → List Nat) (memb : Memb TschLink)
    (handle : Nat) : Schedule :=
  { sched with
    slotframeMemb := sched.slotframeMemb.write sf fun block =>
      { block with linksList := change block.linksList }
    linkMemb := memb
    currentLinkHandle := handle }

variable (sched : Schedule) (sf : Nat) (change : List Nat → List Nat) (memb : Memb TschLink)
  (handle : Nat)

@[simp] theorem withLinks_same :
    (sched.withLinks sf change memb handle).links sf = change (sched.links sf) := by
  simp [withLinks, links]

theorem withLinks_other {other : Nat} (different : other ≠ sf) :
    (sched.withLinks sf change memb handle).links other = sched.links other := by
  simp [withLinks, links, Memb.write_other _ _ different]

theorem withLinks_slotframe (other : Nat) :
    ((sched.withLinks sf change memb handle).slotframeMemb.mem other).handle =
      (sched.slotframeMemb.mem other).handle ∧
    ((sched.withLinks sf change memb handle).slotframeMemb.mem other).size =
      (sched.slotframeMemb.mem other).size := by
  by_cases same : other = sf
  · subst same
    simp [withLinks]
  · simp [withLinks, Memb.write_other _ _ same]

theorem withLinks_split (inv : ScheduleInv sched) (member : sf ∈ sched.slotframeList) :
    ∃ before after, sched.installedLinks = before ++ sched.links sf ++ after ∧
      (sched.withLinks sf change memb handle).installedLinks =
        before ++ change (sched.links sf) ++ after := by
  have split := exists_flatMap_split _ _ inv.slotframes_nodup member
    (fun other different => sched.withLinks_other sf change memb handle different)
  rw [withLinks_same] at split
  exact split

end Schedule

section

variable {sched : Schedule} (inv : ScheduleInv sched) {sf : Nat}
include inv

theorem ScheduleInv.withLinks (member : sf ∈ sched.slotframeList) {change : List Nat → List Nat}
    {memb : Memb TschLink} {handle : Nat}
    (elsewhere : ∀ l ∈ sched.installedLinks, l ∉ sched.links sf →
      memb.mem l = sched.linkMemb.mem l)
    (timeslots : ((change (sched.links sf)).map fun l => (memb.mem l).timeslot).Nodup)
    (placed : ∀ l ∈ change (sched.links sf),
      LinkPlaced (sched.slotframeMemb.mem sf) (memb.mem l))
    (unique : (sched.withLinks sf change memb handle).installedLinks.Nodup)
    (used : memb.InUse (sched.withLinks sf change memb handle).installedLinks) :
    ScheduleInv (sched.withLinks sf change memb handle) := by
  have same := sched.withLinks_slotframe sf change memb handle
  have disjoint : ∀ other ∈ sched.slotframeList, other ≠ sf → ∀ l ∈ sched.links other,
      l ∈ sched.installedLinks ∧ l ∉ sched.links sf := by
    intro other otherMember different l inside
    refine ⟨List.mem_flatMap.mpr ⟨other, otherMember, inside⟩, ?_⟩
    intro both
    apply different
    apply inv.slotframe_eq_of_handle otherMember member
    rw [← (inv.placed other otherMember l inside).handle_eq,
      ← (inv.placed sf member l both).handle_eq]
  have kept : ∀ other ∈ sched.slotframeList, other ≠ sf → ∀ l ∈ sched.links other,
      memb.mem l = sched.linkMemb.mem l := by
    intro other otherMember different l inside
    obtain ⟨installed, apart⟩ := disjoint other otherMember different l inside
    exact elsewhere l installed apart
  refine ⟨?_, ?_, ?_, ?_, unique, used, ?_⟩
  · rw [List.map_congr_left fun other _ => (same other).1]
    exact inv.handles_distinct
  · intro other otherMember
    rw [(same other).2]
    exact inv.size_eq other otherMember
  · intro other otherMember
    by_cases equal : other = sf
    · rw [equal, Schedule.withLinks_same]
      exact timeslots
    · rw [Schedule.withLinks_other _ _ _ _ _ equal]
      change ((sched.links other).map fun l => (memb.mem l).timeslot).Nodup
      rw [List.map_congr_left fun l inside => congrArg TschLink.timeslot
        (kept other otherMember equal l inside)]
      exact inv.timeslots_distinct other otherMember
  · intro other otherMember l inside
    by_cases equal : other = sf
    · subst equal
      rw [Schedule.withLinks_same] at inside
      have fine := placed l inside
      exact ⟨(same other).2 ▸ fine.timeslot_lt, fine.channelOffset_le,
        (same other).1 ▸ fine.handle_eq⟩
    · rw [Schedule.withLinks_other _ _ _ _ _ equal] at inside
      have fine := inv.placed other otherMember l inside
      rw [← kept other otherMember equal l inside] at fine
      exact ⟨(same other).2 ▸ fine.timeslot_lt, fine.channelOffset_le,
        (same other).1 ▸ fine.handle_eq⟩
  · exact inv.slotframes_inUse.write sf fun block =>
      { block with linksList := change block.linksList }

theorem Schedule.withLinks_remove_absent {l : Nat} (absent : l ∉ sched.installedLinks)
    (member : sf ∈ sched.slotframeList) :
    sched.withLinks sf (listRemove · l) (sched.linkMemb.membFree l) sched.currentLinkHandle =
      sched := by
  have outside : l ∉ (sched.slotframeMemb.mem sf).linksList := fun inside =>
    absent (List.mem_flatMap.mpr ⟨sf, member, inside⟩)
  have free : sched.linkMemb.membFree l = sched.linkMemb := by
    simp [Memb.membFree, inv.links_inUse.count_eq l, absent]
  have unchanged : (sched.slotframeMemb.write sf fun block =>
      { block with linksList := listRemove block.linksList l }) = sched.slotframeMemb := by
    simp [Memb.write, listRemove, List.erase_of_not_mem outside]
  rw [Schedule.withLinks, free, unchanged]

theorem ScheduleInv.removeLink {l : Nat} (member : sf ∈ sched.slotframeList)
    (handle : (sched.linkMemb.mem l).slotframeHandle = (sched.slotframeMemb.mem sf).handle) :
    ScheduleInv (sched.withLinks sf (listRemove · l) (sched.linkMemb.membFree l)
      sched.currentLinkHandle) ∧
    ∀ other, other ∈ (sched.withLinks sf (listRemove · l) (sched.linkMemb.membFree l)
      sched.currentLinkHandle).installedLinks ↔ other ∈ sched.installedLinks ∧ other ≠ l := by
  by_cases inside : l ∈ sched.links sf
  · obtain ⟨before, after, old, new⟩ := sched.withLinks_split sf (listRemove · l)
      (sched.linkMemb.membFree l) sched.currentLinkHandle inv member
    have unique := inv.links_nodup
    rw [old, List.append_assoc, List.nodup_append, List.nodup_append] at unique
    obtain ⟨beforeUnique, ⟨linksUnique, afterUnique, linksAfter⟩, beforeRest⟩ := unique
    have listed : ∀ other, other ∈ before ++ listRemove (sched.links sf) l ++ after ↔
        other ∈ sched.installedLinks ∧ other ≠ l := by
      intro other
      have outsideBefore : l ∉ before := fun early =>
        beforeRest l early l (List.mem_append_left _ inside) rfl
      have outsideAfter : l ∉ after := fun late => linksAfter l inside l late rfl
      rw [old]
      simp only [listRemove, List.mem_append, linksUnique.mem_erase_iff]
      grind
    have sub : (before ++ listRemove (sched.links sf) l ++ after).Nodup := by
      apply List.Sublist.nodup _ inv.links_nodup
      rw [old]
      exact (List.Sublist.append_left List.erase_sublist before).append_right after
    refine ⟨?_, fun other => ?_⟩
    · apply inv.withLinks member
      · intro other _ _
        rw [Memb.membFree_mem]
      · rw [Memb.membFree_mem]
        exact (List.erase_sublist.map _).nodup (inv.timeslots_distinct sf member)
      · intro other kept
        rw [Memb.membFree_mem]
        exact inv.placed sf member other (List.mem_of_mem_erase kept)
      · rw [new]
        exact sub
      · have freed := inv.links_inUse.membFree (List.mem_flatMap.mpr ⟨sf, member, inside⟩)
        apply freed.congr
        intro other
        rw [new, listed other]
        simp
    · rw [new]
      exact listed other
  · have absent := inv.not_installed member handle inside
    rw [Schedule.withLinks_remove_absent inv absent member]
    refine ⟨inv, fun other => ⟨fun installed => ⟨installed, ?_⟩, And.left⟩⟩
    rintro rfl
    exact absent installed

theorem ScheduleInv.addLink {l : Nat} (member : sf ∈ sched.slotframeList) {memb : Memb TschLink}
    (link : TschLink) (handle : Nat) (fresh : l ∉ sched.installedLinks)
    (used : memb.InUse (l :: sched.installedLinks)) (kept : memb.mem = sched.linkMemb.mem)
    (placed : LinkPlaced (sched.slotframeMemb.mem sf) link)
    (vacant : ∀ other ∈ sched.links sf, (sched.linkMemb.mem other).timeslot ≠ link.timeslot) :
    ScheduleInv (sched.withLinks sf (listAdd · l) (memb.write l fun _ => link) handle) ∧
    ∀ other, other ∈ (sched.withLinks sf (listAdd · l) (memb.write l fun _ => link)
      handle).installedLinks ↔ other ∈ sched.installedLinks ∨ other = l := by
  have outside : l ∉ sched.links sf := fun inside =>
    fresh (List.mem_flatMap.mpr ⟨sf, member, inside⟩)
  have appended : listAdd (sched.links sf) l = sched.links sf ++ [l] := listAdd_of_not_mem outside
  obtain ⟨before, after, old, new⟩ := sched.withLinks_split sf (listAdd · l)
    (memb.write l fun _ => link) handle inv member
  rw [appended] at new
  have moved : (before ++ (sched.links sf ++ [l]) ++ after).Perm (l :: sched.installedLinks) := by
    rw [old]
    simp only [List.append_assoc, List.singleton_append]
    rw [← List.append_assoc, ← List.append_assoc]
    exact List.perm_middle
  have unchanged : ∀ other, other ≠ l →
      (memb.write l fun _ => link).mem other = sched.linkMemb.mem other := by
    intro other different
    rw [Memb.write_other _ _ different, kept]
  have listed : ∀ other ∈ sched.links sf, other ≠ l := fun other inside same =>
    outside (same ▸ inside)
  refine ⟨?_, fun other => ?_⟩
  · apply inv.withLinks member
    · intro other installed _
      exact unchanged other fun same => fresh (same ▸ installed)
    · rw [appended, List.map_append, List.map_singleton, Memb.write_same]
      rw [List.map_congr_left fun other inside =>
        congrArg TschLink.timeslot (unchanged other (listed other inside))]
      rw [List.nodup_append]
      refine ⟨inv.timeslots_distinct sf member, List.nodup_singleton _, ?_⟩
      intro first firstMember second secondMember same
      obtain ⟨other, inside, rfl⟩ := List.mem_map.mp firstMember
      rw [List.mem_singleton] at secondMember
      exact vacant other inside (same.trans secondMember)
    · rw [appended]
      intro other inside
      rcases List.mem_append.mp inside with earlier | last
      · rw [unchanged other (listed other earlier)]
        exact inv.placed sf member other earlier
      · rw [List.mem_singleton.mp last, Memb.write_same]
        exact placed
    · rw [new, moved.nodup_iff]
      exact List.nodup_cons.mpr ⟨fresh, inv.links_nodup⟩
    · apply (used.write l fun _ => link).congr
      intro other
      rw [new]
      exact moved.mem_iff
  · rw [new, moved.mem_iff, List.mem_cons, or_comm]

end

theorem Schedule.installedLinks_eq (sched : Schedule) :
    sched.installedLinks =
      sched.slotframeList.flatMap fun sf => (sched.slotframeMemb.mem sf).linksList := rfl

theorem ScheduleInv.addSlotframe {sched : Schedule} (inv : ScheduleInv sched) {sf : Nat}
    {memb : Memb TschSlotframe} (block : TschSlotframe) {size : UInt16}
    (fresh : sf ∉ sched.slotframeList) (used : memb.InUse (sf :: sched.slotframeList))
    (kept : memb.mem = sched.slotframeMemb.mem)
    (unusedHandle : ∀ other ∈ sched.slotframeList,
      (sched.slotframeMemb.mem other).handle ≠ block.handle)
    (positive : size ≠ 0) (sizeEq : block.size = tschAsnDivisorInit size)
    (noLinks : block.linksList = []) {next : Schedule}
    (nextEq : next = { sched with
      slotframeMemb := memb.write sf fun _ => block
      slotframeList := listAdd sched.slotframeList sf }) :
    ScheduleInv next ∧ next.installedLinks = sched.installedLinks := by
  subst nextEq
  rw [listAdd_of_not_mem fresh]
  have old : ∀ other ∈ sched.slotframeList,
      (memb.write sf fun _ => block).mem other = sched.slotframeMemb.mem other := by
    intro other member
    have different : other ≠ sf := fun same => fresh (same ▸ member)
    rw [Memb.write_other _ _ different, kept]
  have same : Schedule.installedLinks { sched with
      slotframeMemb := memb.write sf fun _ => block
      slotframeList := sched.slotframeList ++ [sf] } = sched.installedLinks := by
    simp only [Schedule.installedLinks_eq, List.flatMap_append, List.flatMap_cons,
      List.flatMap_nil, Memb.write_same, noLinks, List.append_nil]
    exact List.flatMap_congr fun other member => congrArg TschSlotframe.linksList (old other member)
  refine ⟨⟨?_, ?_, ?_, ?_, ?_, ?_, ?_⟩, same⟩
  · simp only [List.map_append, List.map_singleton, Memb.write_same]
    rw [List.map_congr_left fun other member => congrArg TschSlotframe.handle (old other member),
      List.nodup_append]
    refine ⟨inv.handles_distinct, List.nodup_singleton _, ?_⟩
    intro first firstMember second secondMember equal
    obtain ⟨other, member, rfl⟩ := List.mem_map.mp firstMember
    rw [List.mem_singleton] at secondMember
    exact unusedHandle other member (equal.trans secondMember)
  · intro other member
    rcases List.mem_append.mp member with earlier | last
    · rw [old other earlier]
      exact inv.size_eq other earlier
    · rw [List.mem_singleton.mp last, Memb.write_same]
      exact ⟨size, positive, sizeEq⟩
  · intro other member
    rcases List.mem_append.mp member with earlier | last
    · simp only [Schedule.links, old other earlier]
      exact inv.timeslots_distinct other earlier
    · simp [List.mem_singleton.mp last, Schedule.links, noLinks]
  · intro other member l inside
    rcases List.mem_append.mp member with earlier | last
    · simp only [Schedule.links, old other earlier] at inside ⊢
      exact inv.placed other earlier l inside
    · simp [List.mem_singleton.mp last, Schedule.links, noLinks] at inside
  · rw [same]
    exact inv.links_nodup
  · rw [same]
    exact inv.links_inUse
  · apply (used.write sf fun _ => block).congr
    intro other
    simp [or_comm]

theorem ScheduleInv.removeSlotframe {sched : Schedule} (inv : ScheduleInv sched) {sf : Nat}
    (member : sf ∈ sched.slotframeList) (noLinks : sched.links sf = []) {next : Schedule}
    (nextEq : next = { sched with
      slotframeMemb := sched.slotframeMemb.membFree sf
      slotframeList := listRemove sched.slotframeList sf }) :
    ScheduleInv next ∧ next.installedLinks = sched.installedLinks := by
  subst nextEq
  have sub : (listRemove sched.slotframeList sf).Sublist sched.slotframeList := List.erase_sublist
  have same : Schedule.installedLinks { sched with
      slotframeMemb := sched.slotframeMemb.membFree sf
      slotframeList := listRemove sched.slotframeList sf } = sched.installedLinks := by
    obtain ⟨front, back, listEq⟩ := List.append_of_mem member
    have early : sf ∉ front := by
      intro inside
      have unique := inv.slotframes_nodup
      rw [listEq, List.nodup_append] at unique
      exact unique.2.2 sf inside sf List.mem_cons_self rfl
    have erased : listRemove sched.slotframeList sf = front ++ back := by
      rw [listEq, listRemove, List.erase_append_right _ early, List.erase_cons_head]
    have linksEq : (sched.slotframeMemb.mem sf).linksList = [] := noLinks
    rw [Schedule.installedLinks_eq, Schedule.installedLinks_eq, erased, listEq]
    simp [linksEq]
  refine ⟨⟨?_, ?_, ?_, ?_, ?_, ?_, ?_⟩, same⟩
  · rw [Memb.membFree_mem]
    exact (sub.map _).nodup inv.handles_distinct
  · rw [Memb.membFree_mem]
    exact fun other kept => inv.size_eq other (sub.subset kept)
  · intro other kept
    simp only [Schedule.links, Memb.membFree_mem]
    exact inv.timeslots_distinct other (sub.subset kept)
  · intro other kept
    simp only [Schedule.links, Memb.membFree_mem]
    exact inv.placed other (sub.subset kept)
  · rw [same]
    exact inv.links_nodup
  · rw [same]
    exact inv.links_inUse
  · apply (inv.slotframes_inUse.membFree member).congr
    intro other
    simp [listRemove, inv.slotframes_nodup.mem_erase_iff, and_comm]

end MultiPhyTsch
