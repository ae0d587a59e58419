import MultiPhyTsch.Tsch.ScheduleCalls

/-! The PHY fields of a new slotframe. `tsch_schedule_add_slotframe` clears `radio` and
`tsch_timing`, but `cc1200_config` is what the pool block held when its last slotframe was
removed. -/

namespace MultiPhyTsch

variable (conf : TschConf)

structure PhyKept (node next : Node) : Prop where
  config : ∀ sf, (next.slotframe sf).cc1200Config = (node.slotframe sf).cc1200Config
  num : next.sched.slotframeMemb.num = node.sched.slotframeMemb.num

theorem PhyKept.refl (node : Node) : PhyKept node node := ⟨fun _ => rfl, rfl⟩

theorem PhyKept.trans {node middle next : Node} (first : PhyKept node middle)
    (second : PhyKept middle next) : PhyKept node next :=
  ⟨fun sf => (second.config sf).trans (first.config sf), second.num.trans first.num⟩

variable {node next : Node}

theorem PhyKept.of_sched (same : next.sched = node.sched) : PhyKept node next := by
  refine ⟨fun sf => ?_, by rw [same]⟩
  simp only [Node.slotframe, same]

theorem PhyKept.writeLinks (node : Node) (sf : Nat) (change : List Nat → List Nat)
    {next : Node} (written : next.sched.slotframeMemb = node.sched.slotframeMemb.write sf fun block =>
      { block with linksList := change block.linksList }) : PhyKept node next := by
  refine ⟨fun other => ?_, by rw [written]; rfl⟩
  simp only [Node.slotframe, written]
  exact Memb.write_field node.sched.slotframeMemb sf _ TschSlotframe.cc1200Config rfl other

theorem updateLinkCounters_phy (addr : LinkAddr) (linkOptions : UInt8) (change : UInt8 → UInt8)
    {node : Node} (free : node.lock.tschLocked = false) :
    PhyKept node (updateLinkCounters conf addr linkOptions change node) := by
  obtain ⟨queue, requested, eq⟩ := updateLinkCounters_frame conf addr linkOptions change node free
  rw [eq]
  exact PhyKept.of_sched rfl

theorem tschGetLock_cases (node : Node) : tschGetLock node = (false, node) ∨
    ∃ lock, tschGetLock node = (true, { node with lock := lock }) := by
  cases locked : node.lock.tschLocked with
  | true => exact Or.inl (by simp [tschGetLock, locked])
  | false => exact Or.inr ⟨_, tschGetLock_of_unlocked locked⟩

theorem tschScheduleRemoveLink_phy (slotframe link : Option Nat) (node : Node) :
    PhyKept node (tschScheduleRemoveLink conf slotframe link node).2 := by
  rcases slotframe with _ | sf
  · exact PhyKept.refl node
  rcases link with _ | l
  · exact PhyKept.refl node
  by_cases handle : (node.link l).slotframeHandle = (node.slotframe sf).handle
  · rcases tschGetLock_cases node with refused | ⟨lock, taken⟩
    · simp only [tschScheduleRemoveLink, handle, if_true, refused]
      exact PhyKept.refl node
    · simp only [tschScheduleRemoveLink, handle, if_true, taken]
      refine PhyKept.trans ?_ (updateLinkCounters_phy conf _ _ _ rfl)
      exact PhyKept.writeLinks node sf (listRemove · l) rfl
  · rw [tschScheduleRemoveLink_refused conf handle]
    exact PhyKept.refl node

variable (slotframe : Option Nat)

theorem tschScheduleRemoveLinkByTimeslot_phy (timeslot : UInt16) (node : Node) :
    PhyKept node (tschScheduleRemoveLinkByTimeslot conf slotframe timeslot node).2 := by
  rcases slotframe with _ | sf
  · exact PhyKept.refl node
  · exact tschScheduleRemoveLink_phy conf _ _ node

theorem tschScheduleAddLink_phy (linkOptions : UInt8)
    (linkType : LinkType) (address : Option LinkAddr) (timeslot channelOffset : UInt16)
    (node : Node) : PhyKept node (tschScheduleAddLink conf slotframe linkOptions linkType address
      timeslot channelOffset node).2 := by
  rcases slotframe with _ | sf
  · exact PhyKept.refl node
  simp only [tschScheduleAddLink]
  split
  · exact PhyKept.refl node
  split
  · exact PhyKept.refl node
  have removed := tschScheduleRemoveLinkByTimeslot_phy conf (some sf) timeslot node
  generalize (tschScheduleRemoveLinkByTimeslot conf (some sf) timeslot node).2 = middle at *
  refine removed.trans ?_
  rcases tschGetLock_cases middle with refused | ⟨lock, taken⟩
  · simp only [refused]
    exact PhyKept.refl middle
  · simp only [taken]
    rcases middle.sched.linkMemb.membAlloc with ⟨_ | l, memb⟩
    · exact PhyKept.of_sched rfl
    · dsimp only
      refine PhyKept.trans ?_ (updateLinkCounters_phy conf _ _ _ rfl)
      exact PhyKept.writeLinks middle sf (listAdd · l) rfl

theorem tschScheduleRemoveSlotframe_phy (node : Node) :
    PhyKept node (tschScheduleRemoveSlotframe conf slotframe node).2 := by
  rcases slotframe with _ | sf
  · exact PhyKept.refl node
  have emptied := @removeLinksFrom_induct conf (PhyKept node) sf
    (fun _ kept => kept.trans (tschScheduleRemoveLink_phy conf _ _ _))
    (node.slotframe sf).linksList.length node (PhyKept.refl node)
  simp only [tschScheduleRemoveSlotframe]
  generalize removeLinksFrom conf (node.slotframe sf).linksList.length sf node = middle at *
  refine emptied.trans ?_
  rcases tschGetLock_cases middle with refused | ⟨lock, taken⟩
  · simp only [refused]
    exact PhyKept.refl middle
  · simp only [taken]
    refine ⟨fun other => ?_, Memb.membFree_num _ _⟩
    simp only [Node.slotframe, tschReleaseLock, Memb.membFree_mem]

theorem removeSlotframesFrom_phy (fuel : Nat) (node : Node) :
    PhyKept node (removeSlotframesFrom conf fuel node).2 :=
  removeSlotframesFrom_induct conf
    (fun _ kept => kept.trans (tschScheduleRemoveSlotframe_phy conf _ _)) fuel (PhyKept.refl node)

theorem tschScheduleAddSlotframe_phy (handle size : UInt16) {node : Node}
    (free : node.lock.tschLocked = false) :
    PhyKept node (tschScheduleAddSlotframe handle size node).2 ∧
    ∀ sf ∈ (tschScheduleAddSlotframe handle size node).1,
      node.sched.slotframeMemb.membAlloc.1 = some sf ∧
      (((tschScheduleAddSlotframe handle size node).2.slotframe sf).radio = none ∧
        ((tschScheduleAddSlotframe handle size node).2.slotframe sf).tschTiming = none) := by
  simp only [tschScheduleAddSlotframe]
  by_cases zero : size = 0
  · simp [zero, PhyKept.refl]
  rcases lookup : tschScheduleGetSlotframeByHandle handle node with _ | old
  · simp only [zero, if_false, Option.isSome_none, Bool.false_eq_true,
      tschGetLock_of_unlocked free]
    have kept : node.sched.slotframeMemb.membAlloc.2.mem = node.sched.slotframeMemb.mem :=
      Memb.membAlloc_mem _
    have num := Memb.membAlloc_num node.sched.slotframeMemb
    rcases alloc : node.sched.slotframeMemb.membAlloc with ⟨_ | sf, memb⟩
    · refine ⟨PhyKept.of_sched rfl, ?_⟩
      intro sf absent
      cases absent
    · rw [alloc] at kept num
      refine ⟨⟨fun other => ?_, num⟩, ?_⟩
      · simp only [Node.slotframe, tschReleaseLock]
        rw [Memb.write_field memb sf _ TschSlotframe.cc1200Config rfl other, kept]
      · rintro _ ⟨⟩
        simp [Node.slotframe, tschReleaseLock]
  · simp [zero, PhyKept.refl]

/-! Histories: the calls of the schedule API, and what applications write into the PHY fields of a
slotframe they have. -/

inductive PhyOp where
  | api (call : ScheduleCall)
  | configure (sf : Nat) (radio : Option RadioDriver) (tschTiming : Option Nat)
      (cc1200Config : Option Cc1200RfCfg)

namespace PhyOp

def apply (node : Node) : PhyOp → Node
  | api call => call.exec conf node
  | configure sf radio tschTiming cc1200Config =>
    node.writeSlotframe sf fun block =>
      { block with radio := radio, tschTiming := tschTiming, cc1200Config := cc1200Config }

def PointerValid (node : Node) : PhyOp → Prop
  | api call => call.PointerValid node
  | configure sf _ _ _ => sf ∈ node.sched.slotframeList

def removedSlotframes (node : Node) : PhyOp → List Nat
  | api (.removeSlotframe slotframe) => slotframe.toList
  | api .removeAllSlotframes => node.sched.slotframeList
  | api .createMinimal => node.sched.slotframeList
  | _ => []

end PhyOp

/-- A schedule, with the `cc1200_config` that each pool block had when a slotframe in it was last
removed. -/
structure PhyHistory where
  node : Node
  released : Nat → Option Cc1200RfCfg

namespace PhyHistory

def start (node : Node) : PhyHistory := ⟨node, fun _ => none⟩

variable (history : PhyHistory)

def step (op : PhyOp) : PhyHistory where
  node := op.apply conf history.node
  released := fun sf =>
    if sf ∈ op.removedSlotframes history.node then (history.node.slotframe sf).cc1200Config
    else history.released sf

def handles : List UInt16 :=
  history.node.sched.slotframeList.map fun sf => (history.node.slotframe sf).handle

def newPhy (handle size : UInt16) :
    Option (Option RadioDriver × Option Nat × Option Cc1200RfCfg) :=
  (tschScheduleAddSlotframe handle size history.node).1.map fun sf =>
    let block := (tschScheduleAddSlotframe handle size history.node).2.slotframe sf
    (block.radio, block.tschTiming, block.cc1200Config)

def Admits (handle size : UInt16) : Prop :=
  size ≠ 0 ∧ handle ∉ history.handles ∧ history.node.sched.slotframeMemb.membAlloc.1.isSome = true

def leftover : Option Cc1200RfCfg :=
  history.node.sched.slotframeMemb.membAlloc.1.bind history.released

end PhyHistory

structure PhyEffect (removed : List Nat) (node next : Node) : Prop where
  config : ∀ sf, sf ∉ next.sched.slotframeList →
    (next.slotframe sf).cc1200Config = (node.slotframe sf).cc1200Config
  leaving : ∀ sf ∈ node.sched.slotframeList, sf ∉ next.sched.slotframeList → sf ∈ removed
  num : next.sched.slotframeMemb.num = node.sched.slotframeMemb.num

theorem PhyKept.effect {removed : List Nat} (kept : PhyKept node next)
    (leaving : ∀ sf ∈ node.sched.slotframeList, sf ∉ next.sched.slotframeList → sf ∈ removed) :
    PhyEffect removed node next :=
  ⟨fun sf _ => kept.config sf, leaving, kept.num⟩

theorem PhyKept.effect_of_lists {removed : List Nat} (kept : PhyKept node next)
    (same : next.sched.slotframeList = node.sched.slotframeList) : PhyEffect removed node next :=
  kept.effect fun _ member absent => absurd (same ▸ member) absent

theorem tschScheduleAddSlotframe_lists (handle size : UInt16) (node : Node) {sf : Nat}
    (member : sf ∈ node.sched.slotframeList) :
    sf ∈ (tschScheduleAddSlotframe handle size node).2.sched.slotframeList := by
  simp only [tschScheduleAddSlotframe]
  split
  · exact member
  split
  · exact member
  rcases tschGetLock_cases node with refused | ⟨lock, taken⟩
  · simp only [refused]
    exact member
  · simp only [taken]
    rcases node.sched.slotframeMemb.membAlloc with ⟨_ | new, memb⟩
    · exact member
    · simp only [tschReleaseLock, listAdd, listRemove, List.mem_append, List.mem_singleton]
      by_cases same : sf = new
      · exact Or.inr same
      · exact Or.inl ((List.mem_erase_of_ne same).mpr member)

theorem tschScheduleCreateMinimal_phy {node : Node} (free : node.lock.tschLocked = false)
    (inv : ScheduleInv node.sched) :
    PhyEffect node.sched.slotframeList node (tschScheduleCreateMinimal conf node) := by
  obtain ⟨cleared, sfMin, framed, clearedEq, framedEq, unlocked, -, ready, eq⟩ :=
    tschScheduleCreateMinimal_framed conf free inv
  have emptied := removeSlotframesFrom_phy conf node.sched.slotframeList.length node
  have added := (tschScheduleAddSlotframe_phy 0 conf.scheduleDefaultLength unlocked).1
  rw [clearedEq] at emptied
  rw [framedEq] at added
  have linked : PhyKept framed (addMinimalLink conf sfMin framed) :=
    tschScheduleAddLink_phy conf sfMin _ _ _ _ _ framed
  have lists := (ready.linked conf).2
  have kept := (emptied.trans added).trans linked
  rw [eq]
  rcases sfMin with _ | sf
  · exact kept.effect fun _ member _ => member
  · refine ⟨fun other absent => ?_, fun _ member _ => member, kept.num⟩
    have different : other ≠ sf := by
      rintro rfl
      exact absent (lists ▸ ready.valid other rfl)
    rw [← kept.config other]
    simp only [configureMinimal, Node.slotframe, Node.writeSlotframe]
    rw [Memb.write_other _ _ different]

theorem ScheduleCall.exec_phy {node : Node} {call : ScheduleCall}
    (free : node.lock.tschLocked = false) (inv : ScheduleInv node.sched)
    (valid : call.PointerValid node) :
    PhyEffect ((PhyOp.api call).removedSlotframes node) node (call.exec conf node) := by
  cases call with
  | addSlotframe handle size =>
    refine (tschScheduleAddSlotframe_phy handle size free).1.effect fun sf member absent => ?_
    exact absurd (tschScheduleAddSlotframe_lists handle size node member) absent
  | removeSlotframe slotframe =>
    refine (tschScheduleRemoveSlotframe_phy conf slotframe node).effect ?_
    intro sf member absent
    rcases slotframe with _ | removed
    · exact absurd member absent
    · have lists := (tschScheduleRemoveSlotframe_removes conf free inv (valid removed rfl)).2.2
      change sf ∉ (tschScheduleRemoveSlotframe conf (some removed) node).2.sched.slotframeList
        at absent
      rw [lists] at absent
      by_cases same : sf = removed
      · simp [PhyOp.removedSlotframes, same]
      · exact absurd ((List.mem_erase_of_ne same).mpr member) absent
  | removeAllSlotframes =>
    exact (removeSlotframesFrom_phy conf _ node).effect fun sf member _ => member
  | addLink slotframe linkOptions linkType address timeslot channelOffset =>
    refine (tschScheduleAddLink_phy conf slotframe linkOptions linkType address timeslot
      channelOffset node).effect_of_lists ?_
    exact (tschScheduleAddLink_effect conf slotframe linkOptions linkType address timeslot
      channelOffset free inv valid rfl).2.1
  | removeLink slotframe link =>
    exact (tschScheduleRemoveLink_phy conf slotframe link node).effect_of_lists
      (tschScheduleRemoveLink_effect conf slotframe link free inv valid).2
  | removeLinkByTimeslot slotframe timeslot =>
    refine (tschScheduleRemoveLinkByTimeslot_phy conf slotframe timeslot node).effect_of_lists ?_
    rcases slotframe with _ | sf
    · rfl
    · exact (tschScheduleRemoveLinkByTimeslot_removes conf timeslot free inv (valid sf rfl)
        rfl).2.1
  | createMinimal => exact tschScheduleCreateMinimal_phy conf free inv

structure PhyInv (num : Nat) (history : PhyHistory) : Prop where
  unlocked : history.node.lock.tschLocked = false
  inv : ScheduleInv history.node.sched
  stale : ∀ sf, sf ∉ history.node.sched.slotframeList →
    (history.node.slotframe sf).cc1200Config = history.released sf
  num_eq : history.node.sched.slotframeMemb.num = num

variable {num : Nat} {history : PhyHistory}

theorem PhyInv.step (holds : PhyInv num history) {op : PhyOp}
    (valid : op.PointerValid history.node) : PhyInv num (history.step conf op) := by
  have effect : (op.apply conf history.node).lock.tschLocked = false ∧
      ScheduleInv (op.apply conf history.node).sched ∧
      PhyEffect (op.removedSlotframes history.node) history.node (op.apply conf history.node) := by
    cases op with
    | api call =>
      have done := ScheduleCall.exec_effect conf holds.unlocked holds.inv valid
      exact ⟨done.unlocked, done.inv, ScheduleCall.exec_phy conf holds.unlocked holds.inv valid⟩
    | configure sf radio tschTiming cc1200Config =>
      have configured := holds.inv.configure sf (fun block =>
        { block with radio := radio, tschTiming := tschTiming, cc1200Config := cc1200Config })
        (fun _ => ⟨rfl, rfl, rfl⟩)
      refine ⟨holds.unlocked, configured.1, fun other absent => ?_, fun other member absent =>
        absurd member absent, rfl⟩
      have different : other ≠ sf := by
        rintro rfl
        exact absent valid
      simp only [PhyOp.apply, Node.slotframe, Node.writeSlotframe]
      rw [Memb.write_other _ _ different]
  obtain ⟨unlocked, inv, phy⟩ := effect
  refine ⟨unlocked, inv, fun sf absent => ?_, phy.num.trans holds.num_eq⟩
  simp only [PhyHistory.step] at absent ⊢
  rw [phy.config sf absent]
  by_cases removed : sf ∈ op.removedSlotframes history.node
  · rw [if_pos removed]
  · rw [if_neg removed]
    exact holds.stale sf fun member => removed (phy.leaving sf member absent)

theorem PhyInv.newPhy (holds : PhyInv num history) (handle size : UInt16) :
    (history.Admits handle size → history.newPhy handle size = some (none, none, history.leftover)) ∧
    (¬ history.Admits handle size → history.newPhy handle size = none) := by
  have lookup : tschScheduleGetSlotframeByHandle handle history.node = none ↔
      handle ∉ history.handles := by
    simp [tschScheduleGetSlotframeByHandle, tschIsLocked, holds.unlocked, PhyHistory.handles]
  obtain ⟨kept, cleared⟩ := tschScheduleAddSlotframe_phy handle size holds.unlocked
  constructor
  · rintro ⟨positive, unused, room⟩
    obtain ⟨sf, alloc⟩ := Option.isSome_iff_exists.mp room
    have added : (tschScheduleAddSlotframe handle size history.node).1 = some sf := by
      rcases result : history.node.sched.slotframeMemb.membAlloc with ⟨block, memb⟩
      rw [result] at alloc
      simp only at alloc
      subst alloc
      simp [tschScheduleAddSlotframe, positive, lookup.mpr unused,
        tschGetLock_of_unlocked holds.unlocked, result]
    have fresh := (Memb.membAlloc_some holds.inv.slotframes_inUse alloc).1
    have fields := (cleared sf added).2
    simp only [PhyHistory.newPhy, added, Option.map_some, fields.1, fields.2, kept.config sf,
      holds.stale sf fresh, PhyHistory.leftover, alloc, Option.bind_some]
  · intro refused
    have absent : (tschScheduleAddSlotframe handle size history.node).1 = none := by
      rcases result : (tschScheduleAddSlotframe handle size history.node).1 with _ | sf
      · rfl
      · refine absurd ⟨?_, ?_, ?_⟩ refused
        · rintro rfl
          simp [tschScheduleAddSlotframe] at result
        · rw [← lookup]
          by_contra found
          rw [← ne_eq, Option.ne_none_iff_isSome] at found
          simp [tschScheduleAddSlotframe, found] at result
        · rw [(cleared sf result).1]
          rfl
    simp only [PhyHistory.newPhy, absent, Option.map_none]

theorem PhyInv.membAlloc_isSome (holds : PhyInv num history) :
    history.node.sched.slotframeMemb.membAlloc.1.isSome = true ↔ history.handles.length < num := by
  rw [holds.inv.slotframes_inUse.membAlloc_isSome_iff holds.inv.slotframes_nodup, holds.num_eq,
    PhyHistory.handles, List.length_map]

theorem PhyInv.admits_congr {first second : PhyHistory} (firstInv : PhyInv num first)
    (secondInv : PhyInv num second) (same : ∀ handle, handle ∈ first.handles ↔ handle ∈ second.handles)
    (handle size : UInt16) : first.Admits handle size ↔ second.Admits handle size := by
  have lengths : first.handles.length = second.handles.length :=
    ((List.perm_ext_iff_of_nodup firstInv.inv.handles_distinct
      secondInv.inv.handles_distinct).mpr same).length_eq
  simp only [PhyHistory.Admits, same handle, firstInv.membAlloc_isSome, secondInv.membAlloc_isSome,
    lengths]

/-- Two histories with the same handles give a new slotframe the same PHY fields exactly if the
blocks it takes were left with the same `cc1200_config`. -/
theorem new_slotframe_phy_iff {node initial : Node}
    (started : tschScheduleInit node = (true, initial)) {firstOps secondOps : List PhyOp}
    (firstValid : Run.Meets (PhyHistory.step conf) (fun history op => op.PointerValid history.node)
      (.start initial) firstOps)
    (secondValid : Run.Meets (PhyHistory.step conf) (fun history op => op.PointerValid history.node)
      (.start initial) secondOps)
    {first second : PhyHistory}
    (firstEnd : first = Run.final (PhyHistory.step conf) (.start initial) firstOps)
    (secondEnd : second = Run.final (PhyHistory.step conf) (.start initial) secondOps)
    (same : ∀ handle, handle ∈ first.handles ↔ handle ∈ second.handles) (handle size : UInt16) :
    first.newPhy handle size = second.newPhy handle size ↔
      (first.Admits handle size → first.leftover = second.leftover) := by
  obtain ⟨free, inv⟩ := tschScheduleInit_inv started
  have unused : ∀ sf, (initial.slotframe sf).cc1200Config = none := by
    intro sf
    simp only [tschScheduleInit] at started
    split at started
    · cases started
      rfl
    · cases started
  have reached : ∀ ops, Run.Meets (PhyHistory.step conf)
      (fun history op => op.PointerValid history.node) (.start initial) ops →
      PhyInv initial.sched.slotframeMemb.num
        (Run.final (PhyHistory.step conf) (.start initial) ops) := by
    intro ops valid
    refine Run.invariant_of_meets (PhyInv initial.sched.slotframeMemb.num) ?_ ops
      (.start initial) ⟨free, inv, fun sf _ => unused sf, rfl⟩ valid
    intro history op holds pointer
    exact holds.step conf pointer
  have firstInv := firstEnd ▸ reached firstOps firstValid
  have secondInv := secondEnd ▸ reached secondOps secondValid
  have admits := firstInv.admits_congr secondInv same handle size
  by_cases admitted : first.Admits handle size
  · rw [(firstInv.newPhy handle size).1 admitted,
      (secondInv.newPhy handle size).1 (admits.mp admitted)]
    simp [admitted]
  · rw [(firstInv.newPhy handle size).2 admitted,
      (secondInv.newPhy handle size).2 fun other => admitted (admits.mpr other)]
    simp [admitted]

def phyStart : PhyHistory := .start (tschScheduleInit (Node.boot cc1200Conf)).2

def minimalRemoved : List PhyOp := [.api .createMinimal, .api (.removeSlotframe (some 0))]

theorem minimalRemoved_valid : Run.Meets (PhyHistory.step cc1200Conf)
    (fun history op => op.PointerValid history.node) phyStart minimalRemoved := by
  simp only [minimalRemoved, Run.Meets, PhyOp.PointerValid, ScheduleCall.PointerValid,
    ScheduleCall.slotframeArgument]
  decide

def plainRemoved : List PhyOp := [.api (.addSlotframe 3 5), .api (.removeSlotframe (some 0))]

theorem plainRemoved_phy : (Run.final (PhyHistory.step cc1200Conf) phyStart []).newPhy 1 7 =
    (Run.final (PhyHistory.step cc1200Conf) phyStart plainRemoved).newPhy 1 7 := by
  have valid : Run.Meets (PhyHistory.step cc1200Conf)
      (fun history op => op.PointerValid history.node) phyStart plainRemoved := by
    simp only [plainRemoved, Run.Meets, PhyOp.PointerValid, ScheduleCall.PointerValid,
      ScheduleCall.slotframeArgument]
    decide
  have untouched : Run.Meets (PhyHistory.step cc1200Conf)
      (fun history op => op.PointerValid history.node) phyStart [] := trivial
  exact (new_slotframe_phy_iff cc1200Conf tschScheduleInit_cc1200 untouched valid rfl rfl
    (fun _ => Iff.rfl) 1 7).mpr fun _ => rfl

theorem removed_slotframe_leaves_phy : ¬ ∀ (conf : TschConf) (node initial : Node)
    (firstOps secondOps : List PhyOp), tschScheduleInit node = (true, initial) →
    Run.Meets (PhyHistory.step conf) (fun history op => op.PointerValid history.node)
      (.start initial) firstOps →
    Run.Meets (PhyHistory.step conf) (fun history op => op.PointerValid history.node)
      (.start initial) secondOps →
    (∀ handle, handle ∈ (Run.final (PhyHistory.step conf) (.start initial) firstOps).handles ↔
      handle ∈ (Run.final (PhyHistory.step conf) (.start initial) secondOps).handles) →
    ∀ handle size, (Run.final (PhyHistory.step conf) (.start initial) firstOps).newPhy handle size =
      (Run.final (PhyHistory.step conf) (.start initial) secondOps).newPhy handle size := by
  intro equal
  have same := equal cc1200Conf (Node.boot cc1200Conf) (tschScheduleInit (Node.boot cc1200Conf)).2
    [] minimalRemoved rfl trivial minimalRemoved_valid (fun _ => Iff.rfl) 1 7
  exact absurd same (by decide)

end MultiPhyTsch
