import Mathlib.Data.List.Find
import MultiPhyTsch.Tsch.LinkInsertion

/-! A slotframe as a map from its timeslots to what was set for them. Adding a link that succeeds
and removing a timeslot are updates of the map at one place. -/

namespace MultiPhyTsch

structure LinkSetting where
  linkOptions : UInt8
  linkType : LinkType
  addr : LinkAddr
  channelOffset : UInt16
deriving DecidableEq, Repr

def TschLink.setting (link : TschLink) : LinkSetting :=
  ⟨link.linkOptions, link.linkType, link.addr, link.channelOffset⟩

def settingAt (node : Node) (sf : Nat) (timeslot : UInt16) : Option LinkSetting :=
  ((node.sched.links sf).find? fun l => (node.link l).timeslot = timeslot).map fun l =>
    (node.link l).setting

structure Holds (sf : Nat) (plan : UInt16 → Option LinkSetting) (node : Node) : Prop where
  unlocked : node.lock.tschLocked = false
  inv : ScheduleInv node.sched
  listed : sf ∈ node.sched.slotframeList
  planned : ∀ timeslot, settingAt node sf timeslot = plan timeslot

namespace Holds

variable {sf : Nat} {plan : UInt16 → Option LinkSetting} {node : Node}

theorem planned_of_mem (holds : Holds sf plan node) {l : Nat} (inside : l ∈ node.sched.links sf) :
    plan (node.link l).timeslot = some (node.link l).setting := by
  rw [← holds.planned, settingAt]
  rcases found : (node.sched.links sf).find? (fun other =>
      (node.link other).timeslot = (node.link l).timeslot) with _ | other
  · have absent := List.find?_eq_none.mp found l inside
    exact absurd (decide_eq_true rfl) absent
  · have same : (node.link other).timeslot = (node.link l).timeslot := by
      simpa using List.find?_some found
    have equal := List.inj_on_of_nodup_map (holds.inv.timeslots_distinct sf holds.listed)
      (List.mem_of_find?_eq_some found) inside same
    rw [equal]
    rfl

theorem link_of_planned (holds : Holds sf plan node) {timeslot : UInt16} {setting : LinkSetting}
    (planned : plan timeslot = some setting) : ∃ l ∈ node.sched.links sf,
      tschScheduleGetLinkByTimeslot (some sf) timeslot node = some l ∧
      (node.link l).timeslot = timeslot ∧ (node.link l).setting = setting := by
  rw [← holds.planned, settingAt, Option.map_eq_some_iff] at planned
  obtain ⟨l, found, setting⟩ := planned
  refine ⟨l, List.mem_of_find?_eq_some found, ?_, by simpa using List.find?_some found, setting⟩
  simp only [tschScheduleGetLinkByTimeslot, tschIsLocked, holds.unlocked, Bool.not_false, if_true,
    Option.bind_some]
  exact found

theorem congr {other : UInt16 → Option LinkSetting} (holds : Holds sf plan node)
    (same : ∀ timeslot, plan timeslot = other timeslot) : Holds sf other node :=
  ⟨holds.unlocked, holds.inv, holds.listed, fun timeslot =>
    (holds.planned timeslot).trans (same timeslot)⟩

end Holds

structure LinksAre (sf : Nat) (used : UInt16 → Prop) (setting : UInt16 → LinkSetting)
    (node : Node) : Prop where
  distinct : ((node.sched.links sf).map fun l => (node.link l).timeslot).Nodup
  present : ∀ timeslot, used timeslot → ∃ l ∈ node.sched.links sf, (node.link l).timeslot = timeslot
  only : ∀ l ∈ node.sched.links sf, used (node.link l).timeslot
  setting : ∀ l ∈ node.sched.links sf, (node.link l).setting = setting (node.link l).timeslot

def planOf (used : UInt16 → Prop) [DecidablePred used] (setting : UInt16 → LinkSetting)
    (timeslot : UInt16) : Option LinkSetting :=
  if used timeslot then some (setting timeslot) else none

section

variable {sf : Nat} {used : UInt16 → Prop} {setting : UInt16 → LinkSetting} {node : Node}

theorem Holds.linksAre [DecidablePred used] (holds : Holds sf (planOf used setting) node) :
    LinksAre sf used setting node := by
  have each : ∀ l ∈ node.sched.links sf, used (node.link l).timeslot ∧
      (node.link l).setting = setting (node.link l).timeslot := by
    intro l inside
    have planned := holds.planned_of_mem inside
    rw [planOf] at planned
    split at planned
    · rename_i here
      exact ⟨here, (Option.some.inj planned).symm⟩
    · cases planned
  constructor
  · exact holds.inv.timeslots_distinct sf holds.listed
  · intro timeslot here
    obtain ⟨l, inside, -, position, -⟩ := holds.link_of_planned (if_pos here)
    exact ⟨l, inside, position⟩
  · exact fun l inside => (each l inside).1
  · exact fun l inside => (each l inside).2

theorem Holds.unique {plan : UInt16 → Option LinkSetting} (holds : Holds sf plan node)
    (are : LinksAre sf used setting node) {timeslot : UInt16} {planned : LinkSetting}
    (isPlanned : plan timeslot = some planned) : used timeslot ∧ planned = setting timeslot := by
  obtain ⟨l, inside, -, rfl, rfl⟩ := holds.link_of_planned isPlanned
  exact ⟨are.only l inside, are.setting l inside⟩

end

structure LeavesSlotframe (sf : Nat) (node next : Node) : Prop where
  unlocked : next.lock.tschLocked = false
  inv : ScheduleInv next.sched
  listed : sf ∈ next.sched.slotframeList
  settings : ∀ timeslot, settingAt next sf timeslot = settingAt node sf timeslot

section

variable {sf : Nat} {node next : Node}

theorem Holds.elsewhere {plan : UInt16 → Option LinkSetting} (holds : Holds sf plan node)
    (leaves : LeavesSlotframe sf node next) : Holds sf plan next :=
  ⟨leaves.unlocked, leaves.inv, leaves.listed, fun timeslot =>
    (leaves.settings timeslot).trans (holds.planned timeslot)⟩

theorem find_linksBut {removed timeslot : UInt16}
    (same : ∀ l ∈ linksBut removed node sf, next.link l = node.link l) :
    (linksBut removed node sf).find? (fun l => (next.link l).timeslot = timeslot) =
      if timeslot = removed then none
      else (node.sched.links sf).find? fun l => (node.link l).timeslot = timeslot := by
  have before : (linksBut removed node sf).find? (fun l => (next.link l).timeslot = timeslot) =
      (linksBut removed node sf).find? fun l => (node.link l).timeslot = timeslot :=
    List.find?_congr fun l inside => by rw [same l inside]
  rw [before]
  split
  · rename_i equal
    apply List.find?_eq_none.mpr
    intro l inside
    have other := (List.mem_filter.mp inside).2
    simpa [equal] using other
  · rename_i different
    rw [linksBut, List.find?_filter]
    apply List.find?_congr
    intro l _
    by_cases here : (node.link l).timeslot = timeslot
    · simp [here, different]
    · simp [here]

theorem TimeslotCleared.settingAt {removed : UInt16}
    (cleared : TimeslotCleared sf removed node next) (timeslot : UInt16) :
    settingAt next sf timeslot =
      Function.update (settingAt node sf) removed none timeslot := by
  have links : ∀ l, next.link l = node.link l := fun l => congrFun cleared.mem_eq l
  rw [MultiPhyTsch.settingAt, cleared.links, find_linksBut fun l _ => links l, Function.update_apply]
  split
  · rfl
  · simp only [links]
    rfl

theorem LinkInserted.settingAt {l : Nat} {new : TschLink}
    (inserted : LinkInserted sf l new node next) (timeslot : UInt16) :
    settingAt next sf timeslot =
      Function.update (settingAt node sf) new.timeslot (some new.setting) timeslot := by
  have kept : ∀ other ∈ linksBut new.timeslot node sf, next.link other = node.link other := by
    intro other inside
    exact inserted.kept other fun equal => inserted.fresh.1 (equal ▸ inside)
  rw [MultiPhyTsch.settingAt, inserted.links, List.find?_append, find_linksBut kept,
    Function.update_apply]
  by_cases here : timeslot = new.timeslot
  · simp [here, inserted.new_eq]
  · have apart : ¬ new.timeslot = timeslot := fun equal => here equal.symm
    have last : [l].find? (fun m => (next.link m).timeslot = timeslot) = none := by
      simp [inserted.new_eq, apart]
    rw [if_neg here, if_neg here, last, Option.or_none, MultiPhyTsch.settingAt]
    rcases found : (node.sched.links sf).find? (fun m => (node.link m).timeslot = timeslot) with _ | m
    · rfl
    · have inside := List.mem_of_find?_eq_some found
      have position : (node.link m).timeslot = timeslot := by simpa using List.find?_some found
      have listed : m ∈ linksBut new.timeslot node sf :=
        List.mem_filter.mpr ⟨inside, by simpa [position] using here⟩
      rw [Option.map_some, kept m listed]
      rfl

end

variable (conf : TschConf)

section

variable {sf : Nat} {plan : UInt16 → Option LinkSetting} {node : Node} (holds : Holds sf plan node)
include holds

theorem Holds.addLink (linkOptions : UInt8) (linkType : LinkType) (address : LinkAddr)
    (timeslot channelOffset : UInt16)
    (added : (tschScheduleAddLink conf (some sf) linkOptions linkType (some address) timeslot
      channelOffset node).1.isSome = true) :
    Holds sf (Function.update plan timeslot (some ⟨linkOptions, linkType, address, channelOffset⟩))
      (tschScheduleAddLink conf (some sf) linkOptions linkType (some address) timeslot channelOffset
        node).2 := by
  have valid : ∀ listed ∈ some sf, listed ∈ node.sched.slotframeList := by
    rintro _ ⟨⟩
    exact holds.listed
  obtain ⟨effect, lists, -⟩ := tschScheduleAddLink_effect conf (some sf) linkOptions linkType
    (some address) timeslot channelOffset holds.unlocked holds.inv valid rfl
  rcases tschScheduleAddLink_outcome conf (some sf) linkOptions linkType (some address) timeslot
      channelOffset holds.inv valid with
    ⟨next, failed, -⟩ | ⟨_, l, next, ⟨⟩, succeeded, inserted⟩
  · rw [failed] at added
    cases added
  rw [succeeded] at effect lists ⊢
  refine ⟨effect.unlocked, effect.inv, lists ▸ holds.listed, fun position => ?_⟩
  rw [inserted.settingAt, funext holds.planned]
  rfl

theorem Holds.removeLinkByTimeslot (timeslot : UInt16) :
    Holds sf (Function.update plan timeslot none)
      (tschScheduleRemoveLinkByTimeslot conf (some sf) timeslot node).2 := by
  have cleared := (tschScheduleRemoveLinkByTimeslot_cleared conf timeslot holds.unlocked holds.inv
    holds.listed rfl).1
  refine ⟨cleared.unlocked, cleared.inv, cleared.lists ▸ holds.listed, fun position => ?_⟩
  rw [cleared.settingAt, funext holds.planned]

end

theorem Holds.addSlotframe {node : Node} (handle size : UInt16)
    (free : node.lock.tschLocked = false) (inv : ScheduleInv node.sched) {sf : Nat}
    (added : (tschScheduleAddSlotframe handle size node).1 = some sf) :
    Holds sf (fun _ => none) (tschScheduleAddSlotframe handle size node).2 := by
  obtain ⟨removes, listed⟩ := tschScheduleAddSlotframe_removes handle size free inv
  refine ⟨removes.unlocked, removes.inv, listed sf added, fun timeslot => ?_⟩
  have empty : (tschScheduleAddSlotframe handle size node).2.sched.links sf = [] := by
    simp only [tschScheduleAddSlotframe] at added ⊢
    split at added
    · cases added
    rename_i filled
    rw [if_neg filled]
    split at added
    · cases added
    rename_i unused
    rw [if_neg unused]
    rw [tschGetLock_of_unlocked free] at added ⊢
    rcases alloc : node.sched.slotframeMemb.membAlloc with ⟨_ | block, memb⟩
    · simp [alloc] at added
    · simp only [alloc, Option.some.injEq] at added
      subst added
      simp [alloc, tschReleaseLock, Schedule.links]
  rw [MultiPhyTsch.settingAt, empty]
  rfl

theorem tschScheduleAddSlotframe_size {handle size : UInt16} {node : Node} {sf : Nat}
    (added : (tschScheduleAddSlotframe handle size node).1 = some sf) : size ≠ 0 := by
  intro zero
  rw [tschScheduleAddSlotframe, if_pos zero] at added
  cases added

end MultiPhyTsch
