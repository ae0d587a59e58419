import MultiPhyTsch.Tsch.SlotframeMap

/-! The Orchestra rule for unicast in RPL storing mode: a slot for the node itself, for its parent
and for each child with a route. A slot is removed only if nobody else needs it; while there is no
parent, the null address stands for it in that check. -/

namespace MultiPhyTsch.Orchestra

structure UnicastRuleConf where
  tsch : TschConf
  linkaddrHash : LinkAddr → Nat
  unicastPeriod : UInt16
  unicastSenderBased : Bool
  collisionFreeHash : Bool
  maxHash : Nat

namespace UnicastRule

variable (conf : UnicastRuleConf)

def unicastSlotSharedFlag : UInt8 :=
  if conf.unicastSenderBased && conf.collisionFreeHash then
    if conf.unicastPeriod.toNat < conf.maxHash + 1 then linkOptionShared else 0
  else linkOptionShared

def getNodeTimeslot (addr : LinkAddr) : UInt16 :=
  if 0 < conf.unicastPeriod then
    UInt16.ofNat (conf.linkaddrHash addr % conf.unicastPeriod.toNat)
  else 0xffff

def ownTimeslot : UInt16 := getNodeTimeslot conf conf.tsch.linkaddrNodeAddr

def ownOptions : UInt8 :=
  if conf.unicastSenderBased then linkOptionTx ||| unicastSlotSharedFlag conf else linkOptionRx

def neighborOptions : UInt8 :=
  if conf.unicastSenderBased then linkOptionRx else linkOptionTx ||| unicastSlotSharedFlag conf

structure State where
  node : Node
  sfUnicast : Option Nat
  channelOffset : UInt16
  orchestraParentLinkaddr : LinkAddr
  nbrRoutes : List LinkAddr
  source : Option LinkAddr

def addLink (linkOptions : UInt8) (timeslot : UInt16) (state : State) : Bool × State :=
  let (link, node) := tschScheduleAddLink conf.tsch state.sfUnicast linkOptions .normal
    (some tschBroadcastAddress) timeslot state.channelOffset state.node
  (link.isSome, { state with node := node })

def addUcLink (linkaddr : Option LinkAddr) (state : State) : Bool × State :=
  match linkaddr with
  | some addr =>
    let timeslot := getNodeTimeslot conf addr
    let linkOptions :=
      if timeslot = ownTimeslot conf then neighborOptions conf ||| ownOptions conf
      else neighborOptions conf
    addLink conf linkOptions timeslot state
  | none => (true, state)

def removeUcLink (linkaddr : Option LinkAddr) (state : State) : Bool × State :=
  match linkaddr with
  | some addr =>
    let timeslot := getNodeTimeslot conf addr
    match tschScheduleGetLinkByTimeslot state.sfUnicast timeslot state.node with
    | some l =>
      if timeslot = getNodeTimeslot conf state.orchestraParentLinkaddr then (true, state)
      else if state.nbrRoutes.any fun other => timeslot = getNodeTimeslot conf other then
        (true, state)
      else if timeslot = ownTimeslot conf then addLink conf (ownOptions conf) timeslot state
      else (true, { state with
        node := (tschScheduleRemoveLink conf.tsch state.sfUnicast (some l) state.node).2 })
    | none => (true, state)
  | none => (true, state)

def newTimeSource (old new : Option LinkAddr) (state : State) : Bool × State :=
  if new ≠ old then
    let (removed, state) := removeUcLink conf old
      { state with orchestraParentLinkaddr := new.getD linkaddrNull }
    let (added, state) := addUcLink conf new state
    (removed && added, state)
  else (true, state)

/-- The part of `uip_ds6_route_add` that makes a neighbor a next hop, with its callback. -/
def addNextHop (addr : LinkAddr) (state : State) : Bool × State :=
  if state.nbrRoutes.contains addr then (true, state)
  else addUcLink conf (some addr) { state with nbrRoutes := state.nbrRoutes ++ [addr] }

/-- The part of `uip_ds6_route_rm` for the last route of a next hop: the neighbor leaves the table
before the callback is called. -/
def removeNextHop (addr : LinkAddr) (state : State) : Bool × State :=
  if state.nbrRoutes.contains addr then
    removeUcLink conf (some addr) { state with nbrRoutes := state.nbrRoutes.filter (· ≠ addr) }
  else (true, state)

def init (sfHandle : UInt16) (node : Node) : Bool × State :=
  let (sfUnicast, node) := tschScheduleAddSlotframe sfHandle conf.unicastPeriod node
  addLink conf (ownOptions conf) (ownTimeslot conf)
    ⟨node, sfUnicast, sfHandle, linkaddrNull, [], none⟩

inductive Step where
  | childAdded (addr : LinkAddr)
  | childRemoved (addr : LinkAddr)
  | newTimeSource (new : Option LinkAddr)
  | elsewhere (node : Node)

namespace Step

variable (state : State)

def run : Step → Bool × State
  | childAdded addr => addNextHop conf addr state
  | childRemoved addr => removeNextHop conf addr state
  | newTimeSource new =>
    let (done, next) := UnicastRule.newTimeSource conf state.source new state
    (done, { next with source := new })
  | elsewhere node => (true, { state with node := node })

def apply (step : Step) : State := (step.run conf state).2

def Valid (step : Step) : Prop :=
  (step.run conf state).1 = true ∧ match step with
    | elsewhere node => ∀ sf ∈ state.sfUnicast, LeavesSlotframe sf state.node node
    | _ => True

/-- A neighbor that leaves while the node has no parent is not at the slot of the null address,
unless a child that stays needs the slot. -/
def MissesNull : Step → Prop
  | childRemoved addr => addr ∈ state.nbrRoutes → state.source = none →
      getNodeTimeslot conf addr = getNodeTimeslot conf linkaddrNull →
        ∃ other ∈ state.nbrRoutes, other ≠ addr ∧
          getNodeTimeslot conf other = getNodeTimeslot conf addr
  | newTimeSource none => ∀ old ∈ state.source,
      getNodeTimeslot conf old = getNodeTimeslot conf linkaddrNull →
        ∃ other ∈ state.nbrRoutes, getNodeTimeslot conf other = getNodeTimeslot conf old
  | _ => True

instance decidableMissesNull (state : State) : ∀ step, Decidable (MissesNull conf state step)
  | childRemoved addr =>
    have : Decidable (∃ other ∈ state.nbrRoutes, other ≠ addr ∧
        getNodeTimeslot conf other = getNodeTimeslot conf addr) :=
      List.decidableBEx _ state.nbrRoutes
    inferInstanceAs (Decidable (addr ∈ state.nbrRoutes → state.source = none →
      getNodeTimeslot conf addr = getNodeTimeslot conf linkaddrNull → _))
  | newTimeSource none =>
    have : DecidablePred fun old => getNodeTimeslot conf old = getNodeTimeslot conf linkaddrNull →
        ∃ other ∈ state.nbrRoutes, getNodeTimeslot conf other = getNodeTimeslot conf old :=
      fun old =>
        have : Decidable (∃ other ∈ state.nbrRoutes,
            getNodeTimeslot conf other = getNodeTimeslot conf old) :=
          List.decidableBEx _ state.nbrRoutes
        inferInstance
    Option.decidableForallMem state.source
  | newTimeSource (some _) => .isTrue trivial
  | childAdded _ => .isTrue trivial
  | elsewhere _ => .isTrue trivial

end Step

def NeighborSlot (source : Option LinkAddr) (children : List LinkAddr) (timeslot : UInt16) : Prop :=
  (∃ addr ∈ source, getNodeTimeslot conf addr = timeslot) ∨
    ∃ addr ∈ children, getNodeTimeslot conf addr = timeslot

instance (source : Option LinkAddr) (children : List LinkAddr) :
    DecidablePred (NeighborSlot conf source children) :=
  fun timeslot =>
    decidable_of_iff ((source.any fun addr => getNodeTimeslot conf addr = timeslot) ∨
      children.any fun addr => getNodeTimeslot conf addr = timeslot)
      (by simp [NeighborSlot, Option.any_eq_true])

def UcUsed (Slot : UInt16 → Prop) (timeslot : UInt16) : Prop :=
  timeslot = ownTimeslot conf ∨ Slot timeslot

instance (Slot : UInt16 → Prop) [DecidablePred Slot] : DecidablePred (UcUsed conf Slot) :=
  fun timeslot => inferInstanceAs (Decidable (timeslot = ownTimeslot conf ∨ Slot timeslot))

def ucSetting (channelOffset : UInt16) (Slot : UInt16 → Prop) [DecidablePred Slot]
    (timeslot : UInt16) : LinkSetting :=
  ⟨(if Slot timeslot then neighborOptions conf else 0) |||
    (if timeslot = ownTimeslot conf then ownOptions conf else 0), .normal, tschBroadcastAddress,
    channelOffset⟩

/-- The unicast slotframe has a link at the slots of the node, its parent and its children, with
the options of those roles, and no other. -/
def State.Agreed (state : State) : Prop :=
  ∃ sf ∈ state.sfUnicast, LinksAre sf (UcUsed conf (NeighborSlot conf state.source state.nbrRoutes))
    (ucSetting conf state.channelOffset (NeighborSlot conf state.source state.nbrRoutes)) state.node

def ucPlan (channelOffset : UInt16) (Slot : UInt16 → Prop) [DecidablePred Slot] :
    UInt16 → Option LinkSetting :=
  planOf (UcUsed conf Slot) (ucSetting conf channelOffset Slot)

theorem ucPlan_congr {channelOffset : UInt16} {One Two : UInt16 → Prop} [DecidablePred One]
    [DecidablePred Two] {timeslot : UInt16} (same : One timeslot ↔ Two timeslot) :
    ucPlan conf channelOffset One timeslot = ucPlan conf channelOffset Two timeslot := by
  by_cases one : One timeslot
  · have two := same.mp one
    simp [ucPlan, planOf, UcUsed, ucSetting, one, two]
  · have two := mt same.mpr one
    simp [ucPlan, planOf, UcUsed, ucSetting, one, two]

theorem addLink_holds {sf : Nat} {plan : UInt16 → Option LinkSetting} {state : State}
    (frame : state.sfUnicast = some sf) (holds : Holds sf plan state.node) {linkOptions : UInt8}
    {timeslot : UInt16} (added : (addLink conf linkOptions timeslot state).1 = true) :
    ∃ node, (addLink conf linkOptions timeslot state).2 = { state with node := node } ∧
      Holds sf (Function.update plan timeslot
        (some ⟨linkOptions, .normal, tschBroadcastAddress, state.channelOffset⟩)) node := by
  simp only [addLink, frame] at added ⊢
  exact ⟨_, rfl, holds.addLink conf.tsch linkOptions .normal tschBroadcastAddress timeslot
    state.channelOffset added⟩

section

variable {sf : Nat} {Slot After : UInt16 → Prop} [DecidablePred Slot] [DecidablePred After]
  {state : State} {addr : LinkAddr} (frame : state.sfUnicast = some sf)
  (holds : Holds sf (ucPlan conf state.channelOffset Slot) state.node)
include frame holds

theorem addUcLink_holds
    (change : ∀ timeslot, After timeslot ↔ Slot timeslot ∨ timeslot = getNodeTimeslot conf addr)
    (succeeded : (addUcLink conf (some addr) state).1 = true) :
    ∃ node, (addUcLink conf (some addr) state).2 = { state with node := node } ∧
      Holds sf (ucPlan conf state.channelOffset After) node := by
  obtain ⟨node, next, added⟩ := addLink_holds conf frame holds succeeded
  refine ⟨node, next, added.congr fun timeslot => ?_⟩
  by_cases here : timeslot = getNodeTimeslot conf addr
  · by_cases own : getNodeTimeslot conf addr = ownTimeslot conf
    · simp [ucPlan, planOf, UcUsed, ucSetting, here, own, change]
    · simp [ucPlan, planOf, UcUsed, ucSetting, here, own, change]
  · rw [Function.update_of_ne here]
    exact ucPlan_congr conf ((change timeslot).trans (or_iff_left here)).symm

theorem removeUcLink_holds
    (change : ∀ timeslot, Slot timeslot ↔ After timeslot ∨ timeslot = getNodeTimeslot conf addr)
    (needed : After (getNodeTimeslot conf addr) ↔
      getNodeTimeslot conf addr = getNodeTimeslot conf state.orchestraParentLinkaddr ∨
        ∃ other ∈ state.nbrRoutes, getNodeTimeslot conf addr = getNodeTimeslot conf other)
    (succeeded : (removeUcLink conf (some addr) state).1 = true) :
    ∃ node, (removeUcLink conf (some addr) state).2 = { state with node := node } ∧
      Holds sf (ucPlan conf state.channelOffset After) node := by
  have used : UcUsed conf Slot (getNodeTimeslot conf addr) := Or.inr ((change _).mpr (Or.inr rfl))
  obtain ⟨l, -, found, -⟩ := holds.link_of_planned (if_pos used)
  have lookup : tschScheduleGetLinkByTimeslot state.sfUnicast (getNodeTimeslot conf addr)
      state.node = some l := by
    rw [frame]
    exact found
  have shared : (state.nbrRoutes.any fun other =>
      getNodeTimeslot conf addr = getNodeTimeslot conf other) = true ↔
        ∃ other ∈ state.nbrRoutes, getNodeTimeslot conf addr = getNodeTimeslot conf other := by
    simp
  simp only [removeUcLink, lookup] at succeeded ⊢
  by_cases stays : After (getNodeTimeslot conf addr)
  · have same : ∀ timeslot, Slot timeslot ↔ After timeslot := by
      intro timeslot
      rw [change]
      constructor
      · rintro (kept | rfl)
        · exact kept
        · exact stays
      · exact Or.inl
    refine ⟨state.node, ?_, holds.congr fun timeslot => ucPlan_congr conf (same timeslot)⟩
    by_cases parent :
        getNodeTimeslot conf addr = getNodeTimeslot conf state.orchestraParentLinkaddr
    · rw [if_pos parent]
    · rw [if_neg parent, if_pos (shared.mpr ((needed.mp stays).resolve_left parent))]
  · obtain ⟨parent, children⟩ := not_or.mp (mt needed.mpr stays)
    rw [if_neg parent, if_neg (mt shared.mp children)] at succeeded ⊢
    by_cases own : getNodeTimeslot conf addr = ownTimeslot conf
    · rw [if_pos own] at succeeded ⊢
      obtain ⟨node, next, added⟩ := addLink_holds conf frame holds succeeded
      refine ⟨node, next, added.congr fun timeslot => ?_⟩
      by_cases here : timeslot = getNodeTimeslot conf addr
      · have kept : UcUsed conf After (getNodeTimeslot conf addr) := Or.inl own
        rw [here, Function.update_self, ucPlan, planOf, if_pos kept, ucSetting, if_neg stays,
          if_pos own, UInt8.zero_or]
      · rw [Function.update_of_ne here]
        exact ucPlan_congr conf ((change timeslot).trans (or_iff_left here))
    · rw [if_neg own] at succeeded ⊢
      have removed := holds.removeLinkByTimeslot conf.tsch (getNodeTimeslot conf addr)
      rw [tschScheduleRemoveLinkByTimeslot, Option.isSome_some, if_pos rfl, found] at removed
      rw [frame]
      refine ⟨_, rfl, removed.congr fun timeslot => ?_⟩
      by_cases here : timeslot = getNodeTimeslot conf addr
      · simp [ucPlan, planOf, UcUsed, here, stays, own]
      · rw [Function.update_of_ne here]
        exact ucPlan_congr conf ((change timeslot).trans (or_iff_left here))

end

structure State.Follows (sf : Nat) (state : State) : Prop where
  frame : state.sfUnicast = some sf
  parent : state.orchestraParentLinkaddr = state.source.getD linkaddrNull
  holds : Holds sf (ucPlan conf state.channelOffset
    (NeighborSlot conf state.source state.nbrRoutes)) state.node

section

variable {sf : Nat} {state : State} (follows : state.Follows conf sf)
include follows

theorem State.Follows.agreed : state.Agreed conf :=
  ⟨sf, follows.frame, follows.holds.linksAre⟩

theorem addNextHop_follows {addr : LinkAddr} (succeeded : (addNextHop conf addr state).1 = true) :
    (addNextHop conf addr state).2.Follows conf sf := by
  rw [addNextHop] at succeeded ⊢
  split at succeeded
  · rename_i known
    rw [if_pos known]
    exact follows
  · rename_i unknown
    rw [if_neg unknown]
    have change : ∀ timeslot, NeighborSlot conf state.source (state.nbrRoutes ++ [addr]) timeslot ↔
        NeighborSlot conf state.source state.nbrRoutes timeslot ∨
          timeslot = getNodeTimeslot conf addr := by
      intro timeslot
      simp only [NeighborSlot, List.mem_append, List.mem_singleton, or_and_right, exists_or,
        exists_eq_left, or_assoc, @eq_comm _ timeslot]
    obtain ⟨node, next, holds⟩ := @addUcLink_holds conf sf _ _ _ _
      { state with nbrRoutes := state.nbrRoutes ++ [addr] } addr follows.frame follows.holds change
      succeeded
    rw [next]
    exact ⟨follows.frame, follows.parent, holds⟩

theorem removeNextHop_follows {addr : LinkAddr}
    (misses : (Step.childRemoved addr).MissesNull conf state)
    (succeeded : (removeNextHop conf addr state).1 = true) :
    (removeNextHop conf addr state).2.Follows conf sf := by
  rw [removeNextHop] at succeeded ⊢
  split at succeeded
  case isFalse unknown =>
    rw [if_neg unknown]
    exact follows
  rename_i known
  rw [if_pos known]
  have kept : ∀ other, other ∈ state.nbrRoutes.filter (· ≠ addr) ↔
      other ∈ state.nbrRoutes ∧ other ≠ addr := by
    intro other
    rw [List.mem_filter, decide_eq_true_eq]
  have change : ∀ timeslot, NeighborSlot conf state.source state.nbrRoutes timeslot ↔
      NeighborSlot conf state.source (state.nbrRoutes.filter (· ≠ addr)) timeslot ∨
        timeslot = getNodeTimeslot conf addr := by
    intro timeslot
    constructor
    · rintro (parent | ⟨child, member, rfl⟩)
      · exact Or.inl (Or.inl parent)
      · by_cases same : child = addr
        · exact Or.inr (same ▸ rfl)
        · exact Or.inl (Or.inr ⟨child, (kept child).mpr ⟨member, same⟩, rfl⟩)
    · rintro ((parent | ⟨child, member, rfl⟩) | rfl)
      · exact Or.inl parent
      · exact Or.inr ⟨child, ((kept child).mp member).1, rfl⟩
      · exact Or.inr ⟨addr, List.contains_iff_mem.mp known, rfl⟩
  have needed : NeighborSlot conf state.source (state.nbrRoutes.filter (· ≠ addr))
        (getNodeTimeslot conf addr) ↔
      getNodeTimeslot conf addr = getNodeTimeslot conf state.orchestraParentLinkaddr ∨
        ∃ other ∈ state.nbrRoutes.filter (· ≠ addr),
          getNodeTimeslot conf addr = getNodeTimeslot conf other := by
    rw [follows.parent]
    constructor
    · rintro (⟨parent, isSource, same⟩ | ⟨child, member, same⟩)
      · left
        rw [Option.mem_def.mp isSource]
        exact same.symm
      · exact Or.inr ⟨child, member, same.symm⟩
    · rintro (same | ⟨child, member, same⟩)
      · rcases source : state.source with _ | parent
        · rw [source] at same
          obtain ⟨other, member, different, equal⟩ := misses (List.contains_iff_mem.mp known) source same
          exact Or.inr ⟨other, (kept other).mpr ⟨member, different⟩, equal⟩
        · rw [source] at same
          exact Or.inl ⟨parent, rfl, same.symm⟩
      · exact Or.inr ⟨child, member, same.symm⟩
  obtain ⟨node, next, holds⟩ := @removeUcLink_holds conf sf _ _ _ _
    { state with nbrRoutes := state.nbrRoutes.filter (· ≠ addr) } addr follows.frame follows.holds
    change needed succeeded
  rw [next]
  exact ⟨follows.frame, follows.parent, holds⟩

end

def MiddleSlot (old new : Option LinkAddr) (children : List LinkAddr) (timeslot : UInt16) : Prop :=
  (∃ addr ∈ old, ∃ other ∈ new, getNodeTimeslot conf addr = getNodeTimeslot conf other ∧
    getNodeTimeslot conf addr = timeslot) ∨ ∃ addr ∈ children, getNodeTimeslot conf addr = timeslot

theorem removeOldSource_holds {sf : Nat} {state : State} {old new : Option LinkAddr}
    [DecidablePred (MiddleSlot conf old new state.nbrRoutes)] (frame : state.sfUnicast = some sf)
    (parent : state.orchestraParentLinkaddr = new.getD linkaddrNull)
    (holds : Holds sf (ucPlan conf state.channelOffset (NeighborSlot conf old state.nbrRoutes))
      state.node)
    (misses : new = none → ∀ addr ∈ old,
      getNodeTimeslot conf addr = getNodeTimeslot conf linkaddrNull →
        ∃ other ∈ state.nbrRoutes, getNodeTimeslot conf other = getNodeTimeslot conf addr)
    (succeeded : (removeUcLink conf old state).1 = true) :
    ∃ node, (removeUcLink conf old state).2 = { state with node := node } ∧
      Holds sf (ucPlan conf state.channelOffset (MiddleSlot conf old new state.nbrRoutes)) node := by
  rcases old with _ | old
  · refine ⟨state.node, rfl, holds.congr fun timeslot => ucPlan_congr conf ?_⟩
    simp [NeighborSlot, MiddleSlot]
  have change : ∀ timeslot, NeighborSlot conf (some old) state.nbrRoutes timeslot ↔
      MiddleSlot conf (some old) new state.nbrRoutes timeslot ∨
        timeslot = getNodeTimeslot conf old := by
    intro timeslot
    constructor
    · rintro (⟨addr, ⟨⟩, rfl⟩ | child)
      · exact Or.inr rfl
      · exact Or.inl (Or.inr child)
    · rintro ((⟨addr, ⟨⟩, other, isNew, -, rfl⟩ | child) | rfl)
      · exact Or.inl ⟨old, rfl, rfl⟩
      · exact Or.inr child
      · exact Or.inl ⟨old, rfl, rfl⟩
  have needed : MiddleSlot conf (some old) new state.nbrRoutes (getNodeTimeslot conf old) ↔
      getNodeTimeslot conf old = getNodeTimeslot conf state.orchestraParentLinkaddr ∨
        ∃ other ∈ state.nbrRoutes, getNodeTimeslot conf old = getNodeTimeslot conf other := by
    rw [parent]
    constructor
    · rintro (⟨addr, ⟨⟩, other, isNew, same, -⟩ | ⟨child, member, same⟩)
      · left
        rw [Option.mem_def.mp isNew]
        exact same
      · exact Or.inr ⟨child, member, same.symm⟩
    · rintro (same | ⟨child, member, same⟩)
      · rcases new with _ | other
        · exact Or.inr (misses rfl old rfl same)
        · exact Or.inl ⟨old, rfl, other, rfl, same, rfl⟩
      · exact Or.inr ⟨child, member, same.symm⟩
  exact removeUcLink_holds conf frame holds change needed succeeded

theorem newTimeSource_follows {sf : Nat} {state : State} {new : Option LinkAddr}
    (follows : state.Follows conf sf) (misses : (Step.newTimeSource new).MissesNull conf state)
    (succeeded : (newTimeSource conf state.source new state).1 = true) :
    ({ (newTimeSource conf state.source new state).2 with source := new } : State).Follows conf sf := by
  classical
  rw [newTimeSource] at succeeded ⊢
  split at succeeded
  case isFalse same =>
    rw [if_neg same]
    obtain rfl := not_not.mp same
    exact follows
  rename_i different
  rw [if_pos different]
  dsimp only at succeeded ⊢
  rw [Bool.and_eq_true] at succeeded
  have missesOld : new = none → ∀ addr ∈ state.source,
      getNodeTimeslot conf addr = getNodeTimeslot conf linkaddrNull →
        ∃ other ∈ state.nbrRoutes, getNodeTimeslot conf other = getNodeTimeslot conf addr := by
    rintro rfl
    exact misses
  obtain ⟨node, removed, middle⟩ := @removeOldSource_holds conf sf
    { state with orchestraParentLinkaddr := new.getD linkaddrNull } state.source new _ follows.frame
    rfl follows.holds missesOld succeeded.1
  rw [removed] at succeeded ⊢
  rcases new with _ | addr
  · refine ⟨follows.frame, rfl, middle.congr fun timeslot => ucPlan_congr conf ?_⟩
    constructor
    · rintro (⟨old, isOld, other, ⟨⟩, same⟩ | child)
      exact Or.inr child
    · rintro (⟨other, ⟨⟩, same⟩ | child)
      exact Or.inr child
  · have change : ∀ timeslot, NeighborSlot conf (some addr) state.nbrRoutes timeslot ↔
        MiddleSlot conf state.source (some addr) state.nbrRoutes timeslot ∨
          timeslot = getNodeTimeslot conf addr := by
      intro timeslot
      constructor
      · rintro (⟨other, ⟨⟩, rfl⟩ | child)
        · exact Or.inr rfl
        · exact Or.inl (Or.inr child)
      · rintro ((⟨old, isOld, other, ⟨⟩, same, rfl⟩ | child) | rfl)
        · exact Or.inl ⟨addr, rfl, same.symm⟩
        · exact Or.inr child
        · exact Or.inl ⟨addr, rfl, rfl⟩
    obtain ⟨last, next, holds⟩ := @addUcLink_holds conf sf _ _ _ _
      { state with orchestraParentLinkaddr := addr, node := node } addr follows.frame middle change
      succeeded.2
    rw [Option.getD_some, next]
    exact ⟨follows.frame, rfl, holds⟩

theorem neighborOptions_differ : neighborOptions conf ||| ownOptions conf ≠ ownOptions conf := by
  have flag : unicastSlotSharedFlag conf = linkOptionShared ∨ unicastSlotSharedFlag conf = 0 := by
    rw [unicastSlotSharedFlag]
    split
    · split
      · exact Or.inl rfl
      · exact Or.inr rfl
    · exact Or.inl rfl
  rw [neighborOptions, ownOptions]
  cases conf.unicastSenderBased
  · rcases flag with shared | dedicated
    · rw [shared]
      decide
    · rw [dedicated]
      decide
  · rcases flag with shared | dedicated
    · rw [shared]
      decide
    · rw [dedicated]
      decide

theorem State.Follows.stale {sf : Nat} {state next : State} (follows : state.Follows conf sf)
    (frame : next.sfUnicast = state.sfUnicast) (node : next.node = state.node) {timeslot : UInt16}
    (before : NeighborSlot conf state.source state.nbrRoutes timeslot)
    (after : ¬ NeighborSlot conf next.source next.nbrRoutes timeslot) : ¬ next.Agreed conf := by
  rintro ⟨other, isFrame, are⟩
  rw [frame, follows.frame] at isFrame
  cases isFrame
  rw [node] at are
  have used : UcUsed conf (NeighborSlot conf state.source state.nbrRoutes) timeslot := Or.inr before
  obtain ⟨inUse, setting⟩ := follows.holds.unique are (if_pos used)
  have own : timeslot = ownTimeslot conf := inUse.resolve_right after
  have options := congrArg LinkSetting.linkOptions setting
  simp only [ucSetting, if_pos before, if_neg after, if_pos own, UInt8.zero_or] at options
  exact neighborOptions_differ conf options

theorem removeUcLink_null {state : State} {addr : LinkAddr}
    (same : getNodeTimeslot conf addr = getNodeTimeslot conf state.orchestraParentLinkaddr) :
    removeUcLink conf (some addr) state = (true, state) := by
  rw [removeUcLink]
  split
  · rw [if_pos same]
  · rfl

theorem Step.follows {sf : Nat} (state : State) (step : Step) (follows : state.Follows conf sf)
    (valid : step.Valid conf state) (misses : step.MissesNull conf state) :
    (step.apply conf state).Follows conf sf := by
  cases step with
  | childAdded addr => exact addNextHop_follows conf follows valid.1
  | childRemoved addr => exact removeNextHop_follows conf follows misses valid.1
  | newTimeSource new => exact newTimeSource_follows conf follows misses valid.1
  | elsewhere node =>
    exact ⟨follows.frame, follows.parent, follows.holds.elsewhere (valid.2 sf follows.frame)⟩

theorem Step.refuted {sf : Nat} (state : State) (step : Step) (follows : state.Follows conf sf)
    (hits : ¬ step.MissesNull conf state) : ¬ (step.apply conf state).Agreed conf := by
  cases step with
  | childAdded addr => exact absurd trivial hits
  | elsewhere node => exact absurd trivial hits
  | childRemoved addr =>
    simp only [MissesNull, not_forall] at hits
    obtain ⟨known, none, same, alone⟩ := hits
    have parent := follows.parent
    rw [none, Option.getD_none] at parent
    have kept : (Step.childRemoved addr).apply conf state =
        { state with nbrRoutes := state.nbrRoutes.filter (· ≠ addr) } := by
      simp only [Step.apply, Step.run, removeNextHop, if_pos (List.contains_iff_mem.mpr known)]
      have slot : getNodeTimeslot conf addr =
          getNodeTimeslot conf state.orchestraParentLinkaddr := by
        rw [parent]
        exact same
      rw [@removeUcLink_null conf
        { state with nbrRoutes := state.nbrRoutes.filter (· ≠ addr) } addr slot]
    rw [kept]
    refine follows.stale conf rfl rfl (Or.inr ⟨addr, known, rfl⟩) ?_
    rintro (⟨source, isSource, -⟩ | ⟨child, member, equal⟩)
    · dsimp only at isSource
      rw [none] at isSource
      cases isSource
    · obtain ⟨member, different⟩ := List.mem_filter.mp member
      exact alone ⟨child, member, of_decide_eq_true different, equal⟩
  | newTimeSource new =>
    rcases new with _ | new
    case some => exact absurd trivial hits
    simp only [MissesNull, not_forall] at hits
    obtain ⟨old, isOld, same, alone⟩ := hits
    have source : state.source = some old := isOld
    have kept : (Step.newTimeSource none).apply conf state =
        { state with orchestraParentLinkaddr := linkaddrNull, source := none } := by
      have different : (none : Option LinkAddr) ≠ some old := nofun
      simp only [Step.apply, Step.run, UnicastRule.newTimeSource, source, if_pos different,
        Option.getD_none]
      rw [removeUcLink_null conf same]
      rfl
    rw [kept]
    refine follows.stale conf rfl rfl (Or.inl ⟨old, isOld, rfl⟩) ?_
    rintro (⟨other, isOther, -⟩ | ⟨child, member, equal⟩)
    · cases isOther
    · exact alone ⟨child, member, equal⟩

theorem init_follows {sfHandle : UInt16} {node : Node} (free : node.lock.tschLocked = false)
    (inv : ScheduleInv node.sched) (succeeded : (init conf sfHandle node).1 = true) :
    ∃ sf, (init conf sfHandle node).2.Follows conf sf := by
  simp only [init] at succeeded ⊢
  rcases frame : (tschScheduleAddSlotframe sfHandle conf.unicastPeriod node).1 with _ | sf
  · rw [frame] at succeeded
    cases succeeded
  rw [frame] at succeeded
  obtain ⟨next, result, holds⟩ := @addLink_holds conf sf _
    ⟨(tschScheduleAddSlotframe sfHandle conf.unicastPeriod node).2, some sf, sfHandle, linkaddrNull,
      [], none⟩ rfl (Holds.addSlotframe _ _ free inv frame) _ _ succeeded
  rw [result]
  refine ⟨sf, rfl, rfl, holds.congr fun timeslot => ?_⟩
  have nobody : ¬ NeighborSlot conf none [] timeslot := by
    rintro (⟨addr, ⟨⟩, -⟩ | ⟨addr, member, -⟩)
    cases member
  by_cases here : timeslot = ownTimeslot conf
  · rw [here] at nobody ⊢
    simp [ucPlan, planOf, UcUsed, ucSetting, nobody]
  · simp [ucPlan, planOf, UcUsed, here, nobody]

/-- Along a run the slotframe is as agreed in every state exactly if no neighbor at the slot of the
null address is given up while there is no parent. -/
theorem agreed_iff {sfHandle : UInt16} {node : Node} (free : node.lock.tschLocked = false)
    (inv : ScheduleInv node.sched) (started : (init conf sfHandle node).1 = true)
    {steps : List Step}
    (valid : Run.Meets (Step.apply conf) (Step.Valid conf) (init conf sfHandle node).2 steps) :
    Run.Always (Step.apply conf) (State.Agreed conf) (init conf sfHandle node).2 steps ↔
      Run.Meets (Step.apply conf) (Step.MissesNull conf) (init conf sfHandle node).2 steps := by
  obtain ⟨sf, first⟩ := init_follows conf free inv started
  apply Run.always_iff_meets (State.Follows conf sf) _ _ _ steps _ first valid
  · exact fun state follows => follows.agreed conf
  · exact Step.follows conf
  · intro state step follows _ hits
    exact Step.refuted conf state step follows hits

def lastByteConf : UnicastRuleConf := ⟨cc1200Conf, fun addr => (addr.toList.getLastD 0).toNat, 17, false, false, 0x7fff⟩

/-- The parent gives its slot up to a child that has the same one, and a child at the slot of the
null address leaves while there is a parent. -/
theorem agreed_iff_shared_slots :
    let node := (tschScheduleInit (Node.boot cc1200Conf)).2
    Run.Always (Step.apply lastByteConf) (State.Agreed lastByteConf) (init lastByteConf 1 node).2
      [.newTimeSource (some (Vector.replicate 8 2)), .childAdded #v[3, 3, 3, 3, 3, 3, 3, 17],
        .childAdded #v[3, 3, 3, 3, 3, 3, 3, 19], .childRemoved #v[3, 3, 3, 3, 3, 3, 3, 17],
        .newTimeSource none] := by
  intro node
  obtain ⟨free, inv⟩ := tschScheduleInit_inv tschScheduleInit_cc1200
  refine (agreed_iff lastByteConf free inv (by decide) ?_).mpr ?_
  · simp only [Run.Meets, Step.Valid, and_true]
    decide +kernel
  · decide +kernel

theorem left_slot_stays :
    let node := (tschScheduleInit (Node.boot cc1200Conf)).2
    let child : LinkAddr := #v[3, 3, 3, 3, 3, 3, 3, 17]
    let steps : List Step := [.childAdded child, .childRemoved child]
    let state := Run.final (Step.apply lastByteConf) (init lastByteConf 1 node).2 steps
    Run.Meets (Step.apply lastByteConf) (Step.Valid lastByteConf) (init lastByteConf 1 node).2 steps ∧
      ¬ state.Agreed lastByteConf := by
  intro node child steps state
  refine ⟨?_, ?_⟩
  · simp only [steps, Run.Meets, Step.Valid, and_true]
    decide +kernel
  · rintro ⟨sf, isFrame, are⟩
    have frame : state.sfUnicast = some 0 := by decide +kernel
    rw [frame] at isFrame
    cases isFrame
    have unneeded : ∃ l ∈ state.node.sched.links 0,
        ¬ UcUsed lastByteConf (NeighborSlot lastByteConf state.source state.nbrRoutes)
          (state.node.link l).timeslot := by decide +kernel
    obtain ⟨l, inside, unused⟩ := unneeded
    exact unused (are.only l inside)

end UnicastRule

end MultiPhyTsch.Orchestra
