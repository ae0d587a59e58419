import Mathlib.Data.List.Find
import MultiPhyTsch.Tsch.DriftOwner
import MultiPhyTsch.Tsch.ScheduleCalls
import MultiPhyTsch.Tsch.Timing

/-! Joining a network from a received EB. `tsch_associate` installs what the EB says piece by
piece, with checks in between; a check that fails returns without undoing what was installed. -/

namespace MultiPhyTsch.Association

/-- `tsch_timing_timeslot_length`, which the check of the ASN names, is declared in no file; the
builds that compile have `TSCH_CHECK_TIME_AT_ASSOCIATION` at 0. -/
structure AssociateConf where
  timing : TimingConf
  defaultHoppingSequence : List UInt8
  checkTimeAtAssociation : UInt32
  tschTimingTimeslotLength : UInt32
  rtimerSecond : UInt32
  clockSecond : UInt32
  initScheduleFromEb : Bool
  scheduleWith6tischMinimal : Bool
  maxJoinPriority : UInt8
  idMacList : List (UInt16 × LinkAddr)
  nodeId : UInt16

structure AssociationState where
  node : Node
  currentRfConfig : Nat
  tschTiming : Option Nat
  tables : Nat → Vector UInt32 12
  tschJoinPriority : UInt8
  macPanId : UInt16

namespace AssociationState

variable (state : AssociationState)

def timing : TimingState :=
  ⟨state.node.phy, state.currentRfConfig, state.tschTiming, state.tables⟩

def withTiming (timing : TimingState) : AssociationState :=
  { state with
    node := { state.node with phy := timing.phy }
    currentRfConfig := timing.currentRfConfig
    tschTiming := timing.tschTiming
    tables := timing.tables }

def hopping : List UInt8 × TschAsnDivisor :=
  (state.node.mac.tschHoppingSequence, state.node.mac.tschHoppingSequenceLength)

def withHopping (sequence : List UInt8) (len : UInt16) :
    AssociationState :=
  { state with node := { state.node with mac := { state.node.mac with
    tschHoppingSequence :=
      sequence.take len.toNat ++ state.node.mac.tschHoppingSequence.drop len.toNat
    tschHoppingSequenceLength := tschAsnDivisorInit len } } }

def withSync (ies : Ieee802154Ies) : AssociationState :=
  { state with
    node := { state.node with mac := { state.node.mac with tschCurrentAsn := ies.ieAsn } }
    tschJoinPriority := ies.ieJoinPriority + 1 }

end AssociationState

variable (conf : AssociateConf)

def tschClockToSlots (clock : UInt32) : UInt32 :=
  clock * conf.rtimerSecond / conf.clockSecond / conf.tschTimingTimeslotLength

def asnRejected (clockTime : UInt32) (asn : TschAsn) : Bool :=
  if conf.checkTimeAtAssociation > 0 then
    let expectedAsn := 4096 * tschClockToSlots conf (clockTime / 4096)
    let asnThreshold :=
      (conf.checkTimeAtAssociation * 60 * tschClockToSlots conf conf.clockSecond).toInt32
    let asnDiff := (asn.ls4b - expectedAsn).toInt32
    asnDiff > asnThreshold
  else false

def nodeidFromLinkaddr (addr : LinkAddr) : UInt16 :=
  (((conf.idMacList.takeWhile fun entry => entry.1 != 0).find? fun entry => entry.2 = addr).map
    Prod.fst).getD 0

variable (ies : Ieee802154Ies)

def takeTiming (busy : Bool) (timing : TimingState) : TimingState :=
  if ies.ieTschTimeslotId = 0 then
    (timing.selectScanning conf.timing busy).getTiming conf.timing
  else timing.writeTiming conf.timing ies.ieTschTimeslot

def hoppingFits : Bool :=
  ies.ieChannelHoppingSequenceId = 0 ∨
    ies.ieHoppingSequenceLen.toNat ≤ conf.timing.packet.ie.hoppingSequenceMaxLen

def takeHopping (state : AssociationState) : AssociationState :=
  if ies.ieChannelHoppingSequenceId = 0 then
    state.withHopping conf.defaultHoppingSequence
      (UInt16.ofNat conf.defaultHoppingSequence.length)
  else state.withHopping ies.ieHoppingSequenceList ies.ieHoppingSequenceLen

def addLinksOfEb (sf : Option Nat) (links : List TschSlotframeAndLinksLink) (node : Node) : Node :=
  links.foldl (fun node link =>
    (tschScheduleAddLink conf.timing.tsch sf link.linkOptions .advertising
      (some tschBroadcastAddress) link.timeslot link.channelOffset node).2) node

def takeSchedule (schedule : TschSlotframeAndLinks) (node : Node) : Bool × Node :=
  if conf.initScheduleFromEb then
    if schedule.numSlotframes = 0 then
      (true,
        if conf.scheduleWith6tischMinimal then tschScheduleCreateMinimal conf.timing.tsch node
        else node)
    else
      let node := (tschScheduleRemoveAllSlotframes conf.timing.tsch node).2
      if schedule.numLinks.toNat ≤ ieMaxLinks then
        let (sf, node) := tschScheduleAddSlotframe schedule.slotframeHandle.toUInt16
          schedule.slotframeSize node
        (true, addLinksOfEb conf sf (schedule.links.toList.take schedule.numLinks.toNat) node)
      else (false, node)
  else (true, node)

def higherNodeId (addr : LinkAddr) : Bool :=
  let nbrId := nodeidFromLinkaddr conf addr
  nbrId = 0 ∨ nbrId ≥ conf.nodeId

def joinPan (frame : Frame802154) (timestamp : UInt32) (state : AssociationState) :
    Bool × AssociationState :=
  if state.tschJoinPriority ≤ conf.maxJoinPriority then
    match tschQueueAddNbr conf.timing.tsch frame.srcAddr state.node with
    | (some _, node) =>
      let node := (tschQueueUpdateTimeSource conf.timing.tsch (some frame.srcAddr) node).2
      let txOffset := (state.timing.values.map fun values => values.toList.getD 2 0).getD 0
      let node := tschSlotOperationSync (timestamp - txOffset) node.mac.tschCurrentAsn node
      (true, { state with
        node := { node with mac := { node.mac with
          tschIsAssociated := true, tschIsPanSecured := frame.fcf.securityEnabled != 0 } }
        macPanId := frame.srcPid })
    | (none, node) => (false, { state with node := node })
  else (false, state)

def takeOver (parsed : EbParsed) (busy : Bool) (clockTime timestamp : UInt32)
    (state : AssociationState) : Bool × AssociationState :=
  let state := state.withTiming (takeTiming conf parsed.ies busy state.timing)
  if !hoppingFits conf parsed.ies then (false, state)
  else
    let state := takeHopping conf parsed.ies state
    if asnRejected conf clockTime state.node.mac.tschCurrentAsn then (false, state)
    else
      match takeSchedule conf parsed.ies.ieTschSlotframeAndLink state.node with
      | (false, node) => (false, { state with node := node })
      | (true, node) =>
        let state := { state with node := node }
        if conf.timing.tsch.syncWithLowerNodeId && higherNodeId conf parsed.frame.srcAddr then
          (false, state)
        else joinPan conf parsed.frame timestamp state

/-- `tsch_associate`. `busy` is the radio's answer to the reconfiguration and `clockTime` that of
`clock_time()`. -/
def tschAssociate (eb : InputEb) (busy : Bool) (clockTime timestamp : UInt32)
    (state : AssociationState) : Bool × AssociationState :=
  let parsed := eb.parsed conf.timing
  if parsed.value = 0 then (false, state)
  else
    let state := state.withSync parsed.ies
    if conf.timing.joinSecuredOnly ∧ parsed.frame.fcf.securityEnabled = 0 then (false, state)
    else if !eb.authentic conf.timing then (false, state)
    else if conf.timing.joinMyPanidOnly ∧ parsed.frame.srcPid ≠ conf.timing.ieee802154Panid then
      (false, state)
    else if parsed.ies.ieJoinPriority = 0xff then (false, state)
    else takeOver conf parsed busy clockTime timestamp state

/-! The schedule is set up without touching the time source: a link for the broadcast address may
add its neighbor, at the end of the list and not as a time source. -/

structure NeighborsKept (node next : Node) : Prop where
  unlocked : next.lock.tschLocked = false
  inUse : next.queue.neighborMemb.InUse next.queue.neighborList
  phy_eq : next.phy = node.phy
  mac_eq : next.mac = node.mac
  grown : ∃ added, next.queue.neighborList = node.queue.neighborList ++ added ∧
    ∀ n ∈ added, (next.neighbor n).isTimeSource = false
  same : ∀ n ∈ node.queue.neighborList, (next.neighbor n).addr = (node.neighbor n).addr ∧
    (next.neighbor n).isTimeSource = (node.neighbor n).isTimeSource

namespace NeighborsKept

theorem refl {node : Node} (free : node.lock.tschLocked = false)
    (inUse : node.queue.neighborMemb.InUse node.queue.neighborList) : NeighborsKept node node :=
  ⟨free, inUse, rfl, rfl, ⟨[], (List.append_nil _).symm, fun _ member => absurd member List.not_mem_nil⟩,
    fun _ _ => ⟨rfl, rfl⟩⟩

theorem trans {node middle next : Node} (one : NeighborsKept node middle)
    (two : NeighborsKept middle next) : NeighborsKept node next := by
  obtain ⟨first, firstList, firstFlags⟩ := one.grown
  obtain ⟨second, secondList, secondFlags⟩ := two.grown
  constructor
  · exact two.unlocked
  · exact two.inUse
  · exact two.phy_eq.trans one.phy_eq
  · exact two.mac_eq.trans one.mac_eq
  · refine ⟨first ++ second, by rw [secondList, firstList, List.append_assoc], ?_⟩
    intro n member
    rcases List.mem_append.mp member with early | late
    · have listed : n ∈ middle.queue.neighborList := by
        rw [firstList]
        exact List.mem_append_right _ early
      rw [(two.same n listed).2]
      exact firstFlags n early
    · exact secondFlags n late
  · intro n member
    have listed : n ∈ middle.queue.neighborList := by
      rw [firstList]
      exact List.mem_append_left _ member
    have before := one.same n member
    have after := two.same n listed
    exact ⟨after.1.trans before.1, after.2.trans before.2⟩

theorem timeSource {node next : Node} (kept : NeighborsKept node next)
    (free : node.lock.tschLocked = false) :
    tschQueueGetTimeSource next = tschQueueGetTimeSource node := by
  obtain ⟨added, list, flags⟩ := kept.grown
  have none : added.find? (fun n => (next.neighbor n).isTimeSource) = none := by
    apply List.find?_eq_none.mpr
    intro n member
    rw [flags n member]
    exact Bool.false_ne_true
  have first : node.queue.neighborList.find? (fun n => (next.neighbor n).isTimeSource) =
      node.queue.neighborList.find? (fun n => (node.neighbor n).isTimeSource) :=
    List.find?_congr fun n member => (kept.same n member).2
  simp only [tschQueueGetTimeSource, tschIsLocked, kept.unlocked, free, list, List.find?_append,
    none, first, Option.or_none]

section

variable (conf : TschConf) {start node : Node} (kept : NeighborsKept start node)
include kept

theorem of_queue {next : Node} (unlocked : next.lock.tschLocked = false)
    (queue : next.queue = node.queue) (phy : next.phy = node.phy) (mac : next.mac = node.mac) :
    NeighborsKept start next := by
  constructor
  · exact unlocked
  · rw [queue]
    exact kept.inUse
  · exact phy.trans kept.phy_eq
  · exact mac.trans kept.mac_eq
  · simp only [Node.neighbor, queue]
    exact kept.grown
  · simp only [Node.neighbor, queue]
    exact kept.same

theorem addNbr (addr : LinkAddr) : NeighborsKept start (tschQueueAddNbr conf addr node).2 := by
  rcases tschQueueAddNbr_cases conf addr kept.unlocked with
    ⟨n, listed, found⟩ | ⟨lock, unlocked, absent | ⟨n, memb, alloc, added⟩⟩
  · rw [found]
    exact kept
  · rw [absent]
    exact kept.of_queue unlocked rfl rfl rfl
  · obtain ⟨fresh, used, whole, -⟩ := Memb.membAlloc_taken kept.inUse alloc
    rw [added, listAdd_of_not_mem fresh]
    apply kept.trans
    constructor
    · exact unlocked
    · apply (used.write n fun _ => newNeighbor conf addr).congr
      intro m
      simp [or_comm]
    · rfl
    · rfl
    · refine ⟨[n], rfl, ?_⟩
      intro m last
      rw [List.mem_singleton.mp last]
      simp [Node.neighbor, newNeighbor]
    · intro m listed
      have other : m ≠ n := fun equal => fresh (equal ▸ listed)
      have same : (memb.write n fun _ => newNeighbor conf addr).mem m = node.neighbor m := by
        rw [Memb.write_other _ _ other, whole]
        rfl
      exact ⟨congrArg TschNeighbor.addr same, congrArg TschNeighbor.isTimeSource same⟩

theorem writeNeighbor (n : Nat)
    {change : TschNeighbor → TschNeighbor} (addr : ∀ nbr, (change nbr).addr = nbr.addr)
    (flag : ∀ nbr, (change nbr).isTimeSource = nbr.isTimeSource) :
    NeighborsKept start (node.writeNeighbor n change) := by
  apply kept.trans
  constructor
  · exact kept.unlocked
  · exact kept.inUse.write n change
  · rfl
  · rfl
  · exact ⟨[], (List.append_nil _).symm, fun m member => absurd member List.not_mem_nil⟩
  · intro m _
    exact ⟨node.neighbor_writeNeighbor_field n TschNeighbor.addr (addr _) m,
      node.neighbor_writeNeighbor_field n TschNeighbor.isTimeSource (flag _) m⟩

theorem updateLinkCounters (addr : LinkAddr) (linkOptions : UInt8) (change : UInt8 → UInt8) :
    NeighborsKept start (updateLinkCounters conf addr linkOptions change node) := by
  simp only [MultiPhyTsch.updateLinkCounters]
  split
  · have added := kept.addNbr conf addr
    generalize tschQueueAddNbr conf addr node = result at added ⊢
    obtain ⟨_ | n, next⟩ := result
    · exact added
    · exact added.writeNeighbor n (fun _ => rfl) fun _ => rfl
  · exact kept

theorem removeLink (slotframe link : Option Nat) :
    NeighborsKept start (tschScheduleRemoveLink conf slotframe link node).2 := by
  rcases slotframe with _ | sf
  · exact kept
  rcases link with _ | l
  · exact kept
  simp only [tschScheduleRemoveLink]
  split
  · rw [tschGetLock_of_unlocked kept.unlocked]
    dsimp only
    have removed : ∀ before : Node, before.queue = node.queue → before.phy = node.phy →
        before.mac = node.mac → NeighborsKept start (tschReleaseLock (removeLinkLocked sf l before)) :=
      fun before queue phy mac => kept.of_queue rfl queue phy mac
    have middle := removed { node with lock :=
      { node.lock with tschLocked := true, tschLockRequested := false } } rfl rfl rfl
    exact middle.updateLinkCounters conf _ _ _
  · exact kept

variable (slotframe : Option Nat)

theorem removeLinkByTimeslot (timeslot : UInt16) :
    NeighborsKept start (tschScheduleRemoveLinkByTimeslot conf slotframe timeslot node).2 := by
  rw [tschScheduleRemoveLinkByTimeslot]
  split
  · exact kept.removeLink conf _ _
  · exact kept

theorem addLink (linkOptions : UInt8) (linkType : LinkType) (address : Option LinkAddr)
    (timeslot channelOffset : UInt16) :
    NeighborsKept start (tschScheduleAddLink conf slotframe linkOptions linkType address timeslot
      channelOffset node).2 := by
  rcases slotframe with _ | sf
  · exact kept
  simp only [tschScheduleAddLink]
  split
  · exact kept
  split
  · exact kept
  have removed := kept.removeLinkByTimeslot conf (some sf) timeslot
  generalize (tschScheduleRemoveLinkByTimeslot conf (some sf) timeslot node).2 = middle at removed ⊢
  simp only [tschGetLock_of_unlocked removed.unlocked]
  rcases middle.sched.linkMemb.membAlloc with ⟨_ | l, memb⟩
  · exact removed.of_queue rfl rfl rfl rfl
  · have added : NeighborsKept start (tschReleaseLock (addLinkLocked sf l memb linkOptions linkType
        (address.getD linkaddrNull) timeslot channelOffset { middle with
          lock := { middle.lock with tschLocked := true, tschLockRequested := false } })) :=
      removed.of_queue rfl rfl rfl rfl
    exact added.updateLinkCounters conf (address.getD linkaddrNull) linkOptions (· + 1)

end

variable (conf : TschConf) {start : Node}

theorem removeSlotframe (slotframe : Option Nat) {node : Node} (kept : NeighborsKept start node) :
    NeighborsKept start (tschScheduleRemoveSlotframe conf slotframe node).2 := by
  rcases slotframe with _ | sf
  · exact kept
  have emptied := @removeLinksFrom_induct conf (NeighborsKept start) sf
    (fun _ kept => kept.removeLink conf _ _) (node.slotframe sf).linksList.length node kept
  simp only [tschScheduleRemoveSlotframe]
  rw [tschGetLock_of_unlocked emptied.unlocked]
  exact emptied.of_queue rfl rfl rfl rfl

theorem removeSlotframesFrom (fuel : Nat) {node : Node} (kept : NeighborsKept start node) :
    NeighborsKept start (removeSlotframesFrom conf fuel node).2 :=
  removeSlotframesFrom_induct conf (fun _ kept => removeSlotframe conf _ kept) fuel kept

section

variable {node : Node} (kept : NeighborsKept start node)
include kept

theorem addSlotframe (handle size : UInt16) :
    NeighborsKept start (tschScheduleAddSlotframe handle size node).2 := by
  rw [tschScheduleAddSlotframe]
  split
  · exact kept
  split
  · exact kept
  rw [tschGetLock_of_unlocked kept.unlocked]
  dsimp only
  rcases node.sched.slotframeMemb.membAlloc with ⟨_ | sf, memb⟩
  · exact kept.of_queue rfl rfl rfl rfl
  · exact kept.of_queue rfl rfl rfl rfl

theorem createMinimal : NeighborsKept start (tschScheduleCreateMinimal conf node) := by
  have removed := removeSlotframesFrom conf node.sched.slotframeList.length kept
  simp only [tschScheduleCreateMinimal, tschScheduleRemoveAllSlotframes]
  generalize (MultiPhyTsch.removeSlotframesFrom conf node.sched.slotframeList.length node).2 = empty
    at removed ⊢
  have framed := removed.addSlotframe 0 conf.scheduleDefaultLength
  generalize tschScheduleAddSlotframe 0 conf.scheduleDefaultLength empty = result at framed ⊢
  obtain ⟨sfMin, next⟩ := result
  have linked := framed.addLink conf sfMin
    (linkOptionRx ||| linkOptionTx ||| linkOptionShared ||| linkOptionTimeKeeping) .advertising
    (some tschBroadcastAddress) 0 0
  rcases sfMin with _ | sf
  · exact linked
  · exact linked.of_queue linked.unlocked rfl rfl rfl

theorem takeSchedule (conf : AssociateConf) (schedule : TschSlotframeAndLinks) :
    NeighborsKept start (takeSchedule conf schedule node).2 := by
  have each : ∀ (sf : Option Nat) (links : List TschSlotframeAndLinksLink) (next : Node),
      NeighborsKept start next → NeighborsKept start (addLinksOfEb conf sf links next) := by
    intro sf links
    induction links with
    | nil => exact fun next kept => kept
    | cons link rest ih =>
      intro next kept
      exact ih _ (kept.addLink _ sf _ _ _ _ _)
  simp only [Association.takeSchedule]
  split
  case isFalse => exact kept
  split
  · split
    · exact kept.createMinimal conf.timing.tsch
    · exact kept
  · have removed := removeSlotframesFrom conf.timing.tsch node.sched.slotframeList.length kept
    simp only [tschScheduleRemoveAllSlotframes]
    split
    · exact each _ _ _ (removed.addSlotframe _ _)
    · exact removed

end

end NeighborsKept

def timed (ies : Ieee802154Ies) (busy : Bool) (state : AssociationState) : AssociationState :=
  (state.withSync ies).withTiming (takeTiming conf ies busy state.timing)

def hopped (ies : Ieee802154Ies) (busy : Bool) (state : AssociationState) : AssociationState :=
  takeHopping conf ies (timed conf ies busy state)

def reachesSchedule (clockTime : UInt32) (ies : Ieee802154Ies) : Bool :=
  hoppingFits conf ies && !asnRejected conf clockTime ies.ieAsn

structure FailedAssociation (eb : InputEb) (busy : Bool) (clockTime : UInt32)
    (state next : AssociationState) : Prop where
  timeSource : tschQueueGetTimeSource next.node = tschQueueGetTimeSource state.node
  neighbors : ∀ n ∈ state.node.queue.neighborList, n ∈ next.node.queue.neighborList ∧
    (next.node.neighbor n).addr = (state.node.neighbor n).addr
  macPanId : next.macPanId = state.macPanId
  tschIsAssociated : next.node.mac.tschIsAssociated = state.node.mac.tschIsAssociated
  tschIsPanSecured : next.node.mac.tschIsPanSecured = state.node.mac.tschIsPanSecured
  tschCurrentAsn : next.node.mac.tschCurrentAsn =
    if (eb.parsed conf.timing).value = 0 then state.node.mac.tschCurrentAsn
    else (eb.parsed conf.timing).ies.ieAsn
  tschJoinPriority : next.tschJoinPriority =
    if (eb.parsed conf.timing).value = 0 then state.tschJoinPriority
    else (eb.parsed conf.timing).ies.ieJoinPriority + 1
  timing : next.timing = (eb.accepted conf.timing).elim state.timing fun ies =>
    takeTiming conf ies busy state.timing
  hopping : next.hopping = (eb.accepted conf.timing).elim state.hopping fun ies =>
    if hoppingFits conf ies then (takeHopping conf ies state).hopping else state.hopping
  sched : next.node.sched = (eb.accepted conf.timing).elim state.node.sched fun ies =>
    if reachesSchedule conf clockTime ies then
      (takeSchedule conf ies.ieTschSlotframeAndLink (hopped conf ies busy state).node).2.sched
    else state.node.sched

variable (eb : InputEb) (busy : Bool) (clockTime timestamp : UInt32) (state : AssociationState)

theorem accepted_cases :
    (eb.accepted conf.timing = none ∧
      tschAssociate conf eb busy clockTime timestamp state =
        (false, if (eb.parsed conf.timing).value = 0 then state
          else state.withSync (eb.parsed conf.timing).ies)) ∨
    ((eb.parsed conf.timing).value ≠ 0 ∧
      eb.accepted conf.timing = some (eb.parsed conf.timing).ies ∧
      tschAssociate conf eb busy clockTime timestamp state =
        takeOver conf (eb.parsed conf.timing) busy clockTime timestamp
          (state.withSync (eb.parsed conf.timing).ies)) := by
  simp only [tschAssociate, InputEb.accepted]
  by_cases unparsed : (eb.parsed conf.timing).value = 0
  · left
    simp only [if_pos unparsed]
    trivial
  simp only [if_neg unparsed]
  by_cases unsecured : conf.timing.joinSecuredOnly ∧
      (eb.parsed conf.timing).frame.fcf.securityEnabled = 0
  · left
    simp only [if_pos unsecured]
    trivial
  by_cases forged : (!eb.authentic conf.timing) = true
  · left
    simp only [if_neg unsecured, if_pos forged]
    trivial
  by_cases foreign : conf.timing.joinMyPanidOnly ∧
      (eb.parsed conf.timing).frame.srcPid ≠ conf.timing.ieee802154Panid
  · left
    simp only [if_neg unsecured, if_neg forged, if_pos foreign]
    trivial
  by_cases absent : (eb.parsed conf.timing).ies.ieJoinPriority = 0xff
  · left
    simp only [if_neg unsecured, if_neg forged, if_neg foreign, if_pos absent]
    trivial
  · right
    simp only [if_neg unsecured, if_neg forged, if_neg foreign, if_neg absent]
    exact ⟨unparsed, trivial, trivial⟩

theorem joinPan_failed {frame : Frame802154} {next : AssociationState}
    {start : Node} (kept : NeighborsKept start state.node)
    (failed : joinPan conf frame timestamp state = (false, next)) :
    ∃ node, next = { state with node := node } ∧ NeighborsKept start node ∧
      node.sched = state.node.sched := by
  simp only [joinPan] at failed
  split at failed
  · have kept := kept.addNbr conf.timing.tsch frame.srcAddr
    have only := OnlyQueue.addNbr conf.timing.tsch frame.srcAddr state.node
    generalize tschQueueAddNbr conf.timing.tsch frame.srcAddr state.node = result at failed kept only
    obtain ⟨_ | n, node⟩ := result
    · cases failed
      exact ⟨node, rfl, kept, only.sched_eq⟩
    · cases failed
  · cases failed
    exact ⟨state.node, rfl, kept, rfl⟩

theorem hopping_takeHopping (ies : Ieee802154Ies) (other : AssociationState)
    (same : other.node.mac.tschHoppingSequence = state.node.mac.tschHoppingSequence) :
    (takeHopping conf ies other).hopping = (takeHopping conf ies state).hopping := by
  simp only [takeHopping]
  split
  · simp only [AssociationState.withHopping, AssociationState.hopping, same]
  · simp only [AssociationState.withHopping, AssociationState.hopping, same]

theorem takeHopping_frame (ies : Ieee802154Ies) : ∃ sequence divisor,
    takeHopping conf ies state = { state with node := { state.node with mac := { state.node.mac with
      tschHoppingSequence := sequence, tschHoppingSequenceLength := divisor } } } := by
  rw [takeHopping]
  split
  · exact ⟨_, _, rfl⟩
  · exact ⟨_, _, rfl⟩

theorem hopped_frame (ies : Ieee802154Ies) (free : state.node.lock.tschLocked = false)
    (inUse : state.node.queue.neighborMemb.InUse state.node.queue.neighborList) :
    let after := hopped conf ies busy state
    after.node.mac.tschCurrentAsn = ies.ieAsn ∧ after.node.lock.tschLocked = false ∧
      after.node.queue.neighborMemb.InUse after.node.queue.neighborList ∧
      after.node.sched = state.node.sched := by
  obtain ⟨sequence, divisor, framed⟩ := takeHopping_frame conf (timed conf ies busy state) ies
  rw [hopped, framed]
  exact ⟨rfl, free, inUse, rfl⟩

theorem takeOver_eq (parsed : EbParsed) :
    takeOver conf parsed busy clockTime timestamp (state.withSync parsed.ies) =
      let after := hopped conf parsed.ies busy state
      if !hoppingFits conf parsed.ies then (false, timed conf parsed.ies busy state)
      else if asnRejected conf clockTime after.node.mac.tschCurrentAsn then (false, after)
      else
        match takeSchedule conf parsed.ies.ieTschSlotframeAndLink after.node with
        | (false, node) => (false, { after with node := node })
        | (true, node) =>
          if conf.timing.tsch.syncWithLowerNodeId && higherNodeId conf parsed.frame.srcAddr then
            (false, { after with node := node })
          else joinPan conf parsed.frame timestamp { after with node := node } := rfl

theorem takeOver_failed {parsed : EbParsed} {next : AssociationState}
    (free : state.node.lock.tschLocked = false)
    (inUse : state.node.queue.neighborMemb.InUse state.node.queue.neighborList)
    (failed : takeOver conf parsed busy clockTime timestamp (state.withSync parsed.ies) =
      (false, next)) :
    (hoppingFits conf parsed.ies = false ∧ next = timed conf parsed.ies busy state) ∨
    (hoppingFits conf parsed.ies = true ∧ ∃ node,
      next = { hopped conf parsed.ies busy state with node := node } ∧
      NeighborsKept (hopped conf parsed.ies busy state).node node ∧
      node.sched = if reachesSchedule conf clockTime parsed.ies then
        (takeSchedule conf parsed.ies.ieTschSlotframeAndLink
          (hopped conf parsed.ies busy state).node).2.sched
      else state.node.sched) := by
  obtain ⟨asn, unlocked, used, sched⟩ := hopped_frame conf busy state parsed.ies free inUse
  rw [takeOver_eq] at failed
  dsimp only at failed
  rw [asn] at failed
  generalize hopped conf parsed.ies busy state = after at asn unlocked used sched failed ⊢
  cases fits : hoppingFits conf parsed.ies with
  | false =>
    rw [fits] at failed
    cases failed
    exact Or.inl ⟨rfl, rfl⟩
  | true =>
    right
    rw [fits] at failed
    simp only [reachesSchedule, fits, Bool.true_and]
    cases late : asnRejected conf clockTime parsed.ies.ieAsn with
    | true =>
      rw [late] at failed
      cases failed
      exact ⟨trivial, next.node, rfl, NeighborsKept.refl unlocked used, sched⟩
    | false =>
      rw [late] at failed
      have kept := (NeighborsKept.refl unlocked used).takeSchedule conf
        parsed.ies.ieTschSlotframeAndLink
      generalize takeSchedule conf parsed.ies.ieTschSlotframeAndLink after.node = result
        at failed kept ⊢
      obtain ⟨_ | _, node⟩ := result
      · cases failed
        exact ⟨trivial, node, rfl, kept, rfl⟩
      · simp only [Bool.not_true, Bool.false_eq_true, if_false] at failed
        split at failed
        · cases failed
          exact ⟨trivial, node, rfl, kept, rfl⟩
        · obtain ⟨last, rfl, same, schedEq⟩ := joinPan_failed conf timestamp
            { after with node := node } kept failed
          exact ⟨trivial, last, rfl, same, schedEq⟩

/-- A failed association keeps the time source, the PAN and the flags. The ASN and the join
priority are those of every EB that parses; the timing, the hopping sequence and the schedule
follow it as far as its checks got. -/
theorem tschAssociate_failed {next : AssociationState}
    (free : state.node.lock.tschLocked = false)
    (inUse : state.node.queue.neighborMemb.InUse state.node.queue.neighborList)
    (failed : tschAssociate conf eb busy clockTime timestamp state = (false, next)) :
    FailedAssociation conf eb busy clockTime state next := by
  rcases accepted_cases conf eb busy clockTime timestamp state with
    ⟨rejected, result⟩ | ⟨parses, accepted, result⟩
  · rw [result] at failed
    cases failed
    by_cases unparsed : (eb.parsed conf.timing).value = 0
    · rw [if_pos unparsed]
      constructor <;> simp [unparsed, rejected]
    · rw [if_neg unparsed]
      constructor
      · rfl
      · exact fun n listed => ⟨listed, rfl⟩
      · rfl
      · rfl
      · rfl
      · rw [if_neg unparsed]
        rfl
      · rw [if_neg unparsed]
        rfl
      · rw [rejected]
        rfl
      · rw [rejected]
        rfl
      · rw [rejected]
        rfl
  · rw [result] at failed
    rcases takeOver_failed conf busy clockTime timestamp state free inUse failed with
      ⟨long, rfl⟩ | ⟨fits, node, rfl, kept, sched⟩
    · constructor
      · rfl
      · exact fun n listed => ⟨listed, rfl⟩
      · rfl
      · rfl
      · rfl
      · rw [if_neg parses]
        rfl
      · rw [if_neg parses]
        rfl
      · rw [accepted]
        rfl
      · rw [accepted, Option.elim_some, long]
        rfl
      · rw [accepted, Option.elim_some, reachesSchedule, long]
        rfl
    · obtain ⟨sequence, divisor, framed⟩ := takeHopping_frame conf
        (timed conf (eb.parsed conf.timing).ies busy state) (eb.parsed conf.timing).ies
      have before : hopped conf (eb.parsed conf.timing).ies busy state = _ := framed
      have unlocked : (hopped conf (eb.parsed conf.timing).ies busy state).node.lock.tschLocked =
          false := by
        rw [before]
        exact free
      constructor
      · rw [kept.timeSource unlocked, before]
        rfl
      · intro n listed
        obtain ⟨added, list, -⟩ := kept.grown
        rw [before] at list kept
        refine ⟨?_, (kept.same n listed).1⟩
        rw [list]
        exact List.mem_append_left added listed
      · rw [before]
        rfl
      · rw [kept.mac_eq, before]
        rfl
      · rw [kept.mac_eq, before]
        rfl
      · rw [if_neg parses, kept.mac_eq, before]
        rfl
      · rw [if_neg parses, before]
        rfl
      · rw [accepted, Option.elim_some, AssociationState.timing, kept.phy_eq, before]
        rfl
      · have same := hopping_takeHopping conf state (eb.parsed conf.timing).ies
          (timed conf (eb.parsed conf.timing).ies busy state) rfl
        rw [accepted, Option.elim_some, if_pos fits, ← same, AssociationState.hopping, kept.mac_eq]
        rfl
      · rw [accepted, Option.elim_some]
        exact sched

def choosyConf : AssociateConf :=
  { timing := timingConf
    defaultHoppingSequence := [15, 25, 26, 20]
    checkTimeAtAssociation := 0
    tschTimingTimeslotLength := 328
    rtimerSecond := 32768
    clockSecond := 128
    initScheduleFromEb := true
    scheduleWith6tischMinimal := true
    maxJoinPriority := 32
    idMacList := []
    nodeId := 0 }

def leftNetwork : AssociationState :=
  { node := { Node.boot cc1200Conf with mac :=
      { tschCurrentAsn := ⟨7, 0⟩
        tschHoppingSequence := List.replicate 16 11
        tschHoppingSequenceLength := tschAsnDivisorInit 16 } }
    currentRfConfig := 0
    tschTiming := some 0
    tables := timingConf.timings
    tschJoinPriority := 5
    macPanId := 0xabcd }

/-- An EB of a node that is as far from the coordinator as a node may be. -/
def lateBeacon : InputEb :=
  let updated := (tschPacketCreateEb (beaconPackets inlineElements) beaconSource).bind
    fun (packetbuf, _, offset) =>
      tschPacketUpdateEb ⟨9, 0⟩ 32 (packetbufFrame packetbuf) offset (iesZero ⟨16, false⟩)
  { inlineBeacon with payload := updated.getD [] }

theorem refused_beacon_installed :
    let result := tschAssociate choosyConf lateBeacon false 0 0 leftNetwork
    result.1 = false ∧
      result.2.node.mac.tschCurrentAsn ≠ leftNetwork.node.mac.tschCurrentAsn ∧
      result.2.tschJoinPriority ≠ leftNetwork.tschJoinPriority ∧
      result.2.timing.values ≠ leftNetwork.timing.values ∧
      result.2.hopping ≠ leftNetwork.hopping ∧
      result.2.node.sched.slotframeList ≠ leftNetwork.node.sched.slotframeList := by
  decide +kernel

theorem refused_beacon_failed :
    FailedAssociation choosyConf lateBeacon false 0 leftNetwork
      (tschAssociate choosyConf lateBeacon false 0 0 leftNetwork).2 := by
  have paired : ∀ result : Bool × AssociationState, result.1 = false → result = (false, result.2) := by
    rintro ⟨_, next⟩ rfl
    rfl
  apply tschAssociate_failed choosyConf lateBeacon false 0 0 leftNetwork rfl
  · constructor
    · intro block
      rfl
    · intro block member
      exact absurd member List.not_mem_nil
  · apply paired
    decide +kernel

end MultiPhyTsch.Association
