import MultiPhyTsch.Tsch.SlotframeMap

/-! The Orchestra rule for EBs: a node sends them at the timeslot of its own address and listens
at that of its time source. The two may be the same timeslot. -/

namespace MultiPhyTsch.Orchestra

structure EbRuleConf where
  tsch : TschConf
  linkaddrHash : LinkAddr → Nat
  ebsfPeriod : UInt16

namespace EbRule

variable (conf : EbRuleConf)

def getNodeTimeslot (addr : LinkAddr) : UInt16 :=
  if 0 < conf.ebsfPeriod then
    UInt16.ofNat (conf.linkaddrHash addr % conf.ebsfPeriod.toNat)
  else 0xffff

def ownTimeslot : UInt16 := getNodeTimeslot conf conf.tsch.linkaddrNodeAddr

variable (sfEb : Option Nat)

def addEbLink (linkOptions : UInt8) (timeslot : UInt16) (node : Node) :
    Bool × Node :=
  let (link, node) := tschScheduleAddLink conf.tsch sfEb linkOptions .advertisingOnly
    (some tschBroadcastAddress) timeslot 0 node
  (link.isSome, node)

def stopListening (oldTs : UInt16) (node : Node) : Bool × Node :=
  if oldTs ≠ 0xffff then
    if oldTs = ownTimeslot conf then addEbLink conf sfEb linkOptionTx oldTs node
    else (true, (tschScheduleRemoveLinkByTimeslot conf.tsch sfEb oldTs node).2)
  else (true, node)

def startListening (newTs : UInt16) (node : Node) : Bool × Node :=
  if newTs ≠ 0xffff then
    let linkOptions :=
      if newTs = ownTimeslot conf then linkOptionRx ||| linkOptionTx else linkOptionRx
    addEbLink conf sfEb linkOptions newTs node
  else (true, node)

def newTimeSource (old new : Option LinkAddr) (node : Node) : Bool × Node :=
  let oldTs := (old.map (getNodeTimeslot conf)).getD 0xffff
  let newTs := (new.map (getNodeTimeslot conf)).getD 0xffff
  if newTs = oldTs then (true, node)
  else
    let (stopped, node) := stopListening conf sfEb oldTs node
    let (started, node) := startListening conf sfEb newTs node
    (stopped && started, node)

def init (sfHandle : UInt16) (node : Node) : Bool × Option Nat × Node :=
  let (sfEb, node) := tschScheduleAddSlotframe sfHandle conf.ebsfPeriod node
  let (added, node) := addEbLink conf sfEb linkOptionTx (ownTimeslot conf) node
  (added, sfEb, node)

structure State where
  node : Node
  sfEb : Option Nat
  source : Option LinkAddr

def start (sfHandle : UInt16) (node : Node) : State :=
  ⟨(init conf sfHandle node).2.2, (init conf sfHandle node).2.1, none⟩

inductive Step where
  | newTimeSource (new : Option LinkAddr)
  | elsewhere (node : Node)

namespace Step

def apply (state : State) : Step → State
  | newTimeSource new => { state with
      node := (EbRule.newTimeSource conf state.sfEb state.source new state.node).2
      source := new }
  | elsewhere node => { state with node := node }

def Valid (state : State) : Step → Prop
  | newTimeSource new =>
    (EbRule.newTimeSource conf state.sfEb state.source new state.node).1 = true
  | elsewhere node => ∀ sf ∈ state.sfEb, LeavesSlotframe sf state.node node

end Step

def EbUsed (source : Option UInt16) (timeslot : UInt16) : Prop :=
  timeslot = ownTimeslot conf ∨ source = some timeslot

instance (source : Option UInt16) : DecidablePred (EbUsed conf source) :=
  fun timeslot => inferInstanceAs (Decidable (timeslot = ownTimeslot conf ∨ source = some timeslot))

def ebSetting (source : Option UInt16) (timeslot : UInt16) : LinkSetting :=
  ⟨(if timeslot = ownTimeslot conf then linkOptionTx else 0) |||
    (if source = some timeslot then linkOptionRx else 0), .advertisingOnly, tschBroadcastAddress, 0⟩

/-- The links of the EB slotframe while the time source is at timeslot `source`: Tx at the node's
own timeslot, Rx at that of the time source. -/
def EbLinks (sf : Nat) (source : Option UInt16) (node : Node) : Prop :=
  LinksAre sf (EbUsed conf source) (ebSetting conf source) node

def ebPlan (source : Option UInt16) : UInt16 → Option LinkSetting :=
  planOf (EbUsed conf source) (ebSetting conf source)

theorem getNodeTimeslot_ne (positive : conf.ebsfPeriod ≠ 0) (addr : LinkAddr) :
    getNodeTimeslot conf addr ≠ 0xffff := by
  have bound : 0 < conf.ebsfPeriod := UInt16.pos_iff_ne_zero.mpr positive
  have period : 0 < conf.ebsfPeriod.toNat := UInt16.lt_iff_toNat_lt.mp bound
  have below := Nat.mod_lt (conf.linkaddrHash addr) period
  have small := conf.ebsfPeriod.toNat_lt
  intro same
  have value : (getNodeTimeslot conf addr).toNat = 0xffff := by
    rw [same]
    rfl
  rw [getNodeTimeslot, if_pos bound, UInt16.toNat_ofNat'] at value
  rw [Nat.mod_eq_of_lt (by omega)] at value
  omega

variable {sf : Nat} {node : Node}

theorem addEbLink_holds {plan : UInt16 → Option LinkSetting}
    (holds : Holds sf plan node) {linkOptions : UInt8} {timeslot : UInt16}
    (added : (addEbLink conf (some sf) linkOptions timeslot node).1 = true) :
    Holds sf (Function.update plan timeslot
      (some ⟨linkOptions, .advertisingOnly, tschBroadcastAddress, 0⟩))
      (addEbLink conf (some sf) linkOptions timeslot node).2 :=
  holds.addLink conf.tsch linkOptions .advertisingOnly tschBroadcastAddress timeslot 0 added

theorem stopListening_holds {old : UInt16}
    (holds : Holds sf (ebPlan conf (some old)) node) (slot : old ≠ 0xffff)
    (stopped : (stopListening conf (some sf) old node).1 = true) :
    Holds sf (ebPlan conf none) (stopListening conf (some sf) old node).2 := by
  simp only [stopListening, if_pos slot] at stopped ⊢
  split at stopped
  · rename_i own
    rw [if_pos own]
    apply (addEbLink_holds conf holds stopped).congr
    intro timeslot
    by_cases here : timeslot = old
    · simp [ebPlan, planOf, EbUsed, ebSetting, here, own]
    · have apart : ¬ old = timeslot := fun equal => here equal.symm
      simp [ebPlan, planOf, EbUsed, ebSetting, Function.update_of_ne here, apart]
  · rename_i foreign
    rw [if_neg foreign]
    apply (holds.removeLinkByTimeslot conf.tsch old).congr
    intro timeslot
    by_cases here : timeslot = old
    · simp [ebPlan, planOf, EbUsed, here, foreign]
    · have apart : ¬ old = timeslot := fun equal => here equal.symm
      simp [ebPlan, planOf, EbUsed, ebSetting, Function.update_of_ne here, apart]

theorem startListening_holds {new : UInt16}
    (holds : Holds sf (ebPlan conf none) node) (slot : new ≠ 0xffff)
    (started : (startListening conf (some sf) new node).1 = true) :
    Holds sf (ebPlan conf (some new)) (startListening conf (some sf) new node).2 := by
  simp only [startListening, if_pos slot] at started ⊢
  apply (addEbLink_holds conf holds started).congr
  intro timeslot
  by_cases here : timeslot = new
  · by_cases own : new = ownTimeslot conf
    · simp [ebPlan, planOf, EbUsed, ebSetting, here, ← own, UInt8.or_comm]
    · simp [ebPlan, planOf, EbUsed, ebSetting, here, own]
  · have apart : ¬ new = timeslot := fun equal => here equal.symm
    simp [ebPlan, planOf, EbUsed, ebSetting, Function.update_of_ne here, apart]

theorem newTimeSource_holds (positive : conf.ebsfPeriod ≠ 0) {old new : Option LinkAddr}
    (holds : Holds sf (ebPlan conf (old.map (getNodeTimeslot conf))) node)
    (succeeded : (newTimeSource conf (some sf) old new node).1 = true) :
    Holds sf (ebPlan conf (new.map (getNodeTimeslot conf)))
      (newTimeSource conf (some sf) old new node).2 := by
  have absent : ∀ source : Option LinkAddr,
      (source.map (getNodeTimeslot conf)).getD 0xffff = 0xffff → source = none := by
    intro source none
    rcases source with _ | addr
    · rfl
    · exact absurd none (getNodeTimeslot_ne conf positive addr)
  have stop : ∀ stopped, stopped = stopListening conf (some sf)
      ((old.map (getNodeTimeslot conf)).getD 0xffff) node → stopped.1 = true →
      Holds sf (ebPlan conf none) stopped.2 := by
    rintro stopped rfl succeeded
    rcases old with _ | addr
    · exact holds
    · exact stopListening_holds conf holds (getNodeTimeslot_ne conf positive addr) succeeded
  have start : ∀ middle, Holds sf (ebPlan conf none) middle → (startListening conf (some sf)
      ((new.map (getNodeTimeslot conf)).getD 0xffff) middle).1 = true →
      Holds sf (ebPlan conf (new.map (getNodeTimeslot conf))) (startListening conf (some sf)
        ((new.map (getNodeTimeslot conf)).getD 0xffff) middle).2 := by
    intro middle empty succeeded
    rcases new with _ | addr
    · exact empty
    · exact startListening_holds conf empty (getNodeTimeslot_ne conf positive addr) succeeded
  simp only [newTimeSource] at succeeded ⊢
  split at succeeded
  · rename_i same
    rw [if_pos same]
    apply holds.congr
    intro timeslot
    congr 1
    by_cases none : (old.map (getNodeTimeslot conf)).getD 0xffff = 0xffff
    · rw [absent old none, absent new (same.trans none)]
    · rcases old with _ | oldAddr
      · exact absurd rfl none
      rcases new with _ | newAddr
      · exact absurd same.symm none
      · exact congrArg some same.symm
  · rename_i different
    rw [if_neg different]
    rw [Bool.and_eq_true] at succeeded
    exact start _ (stop _ rfl succeeded.1) succeeded.2

theorem init_holds {sfHandle : UInt16} (free : node.lock.tschLocked = false)
    (inv : ScheduleInv node.sched) (succeeded : (init conf sfHandle node).1 = true) :
    conf.ebsfPeriod ≠ 0 ∧ ∃ sf, (init conf sfHandle node).2.1 = some sf ∧
      Holds sf (ebPlan conf none) (init conf sfHandle node).2.2 := by
  simp only [init] at succeeded ⊢
  rcases frame : (tschScheduleAddSlotframe sfHandle conf.ebsfPeriod node).1 with _ | sf
  · rw [frame] at succeeded
    cases succeeded
  refine ⟨tschScheduleAddSlotframe_size frame, sf, rfl, ?_⟩
  rw [frame] at succeeded
  apply (addEbLink_holds conf (Holds.addSlotframe _ _ free inv frame) succeeded).congr
  intro timeslot
  by_cases here : timeslot = ownTimeslot conf
  · simp [ebPlan, planOf, EbUsed, ebSetting, here]
  · simp [ebPlan, planOf, EbUsed, here]

def State.Follows (sf : Nat) (state : State) : Prop :=
  state.sfEb = some sf ∧ Holds sf (ebPlan conf (state.source.map (getNodeTimeslot conf))) state.node

theorem Step.follows (positive : conf.ebsfPeriod ≠ 0) (state : State) (step : Step)
    (follows : state.Follows conf sf) (allowed : step.Valid conf state) :
    (step.apply conf state).Follows conf sf := by
  obtain ⟨same, holds⟩ := follows
  cases step with
  | newTimeSource new =>
    refine ⟨same, ?_⟩
    simp only [Step.Valid, same] at allowed
    simp only [Step.apply, same]
    exact newTimeSource_holds conf positive holds allowed
  | elsewhere next => exact ⟨same, holds.elsewhere (allowed sf same)⟩

theorem ebLinks_of_run {sfHandle : UInt16} {node : Node} (free : node.lock.tschLocked = false)
    (inv : ScheduleInv node.sched) (started : (init conf sfHandle node).1 = true)
    {steps : List Step}
    (valid : Run.Meets (Step.apply conf) (Step.Valid conf) (start conf sfHandle node) steps) :
    let state := Run.final (Step.apply conf) (start conf sfHandle node) steps
    ∃ sf ∈ state.sfEb, sf ∈ state.node.sched.slotframeList ∧
      EbLinks conf sf (state.source.map (getNodeTimeslot conf)) state.node := by
  obtain ⟨positive, sf, frame, holds⟩ := init_holds conf free inv started
  have first : (start conf sfHandle node).Follows conf sf := ⟨frame, holds⟩
  have kept := Run.invariant_of_meets (State.Follows conf sf) (Step.follows conf positive) steps _
    first valid
  exact ⟨sf, kept.1, kept.2.listed, kept.2.linksAre⟩

def lastByteConf : EbRuleConf := ⟨cc1200Conf, fun addr => (addr.toList.getLastD 0).toNat, 397⟩

theorem ebLinks_of_run_collisions :
    let steps : List Step := [.newTimeSource (some (Vector.replicate 8 2)),
      .newTimeSource (some #v[2, 2, 2, 2, 2, 2, 2, 1]),
      .newTimeSource (some #v[3, 3, 3, 3, 3, 3, 3, 1]), .newTimeSource none]
    let state := Run.final (Step.apply lastByteConf)
      (start lastByteConf 0 (tschScheduleInit (Node.boot cc1200Conf)).2) steps
    ∃ sf ∈ state.sfEb, sf ∈ state.node.sched.slotframeList ∧
      EbLinks lastByteConf sf (state.source.map (getNodeTimeslot lastByteConf)) state.node := by
  obtain ⟨free, inv⟩ := tschScheduleInit_inv tschScheduleInit_cc1200
  apply ebLinks_of_run lastByteConf free inv
  · decide
  · simp only [Run.Meets, Step.Valid]
    decide

end EbRule

end MultiPhyTsch.Orchestra
