import MultiPhyTsch.Lib.Run
import MultiPhyTsch.Tsch.QueueRuns
import MultiPhyTsch.Tsch.ScheduleCalls

/-! The channel of a slot and the slots before it. `tsch_calculate_channel` asks the radio for its
number of channels before `cc1200_reconfigure` gives the radio the configuration of the slot, so
the answer is that of the configuration some earlier slot left. A slot of a burst keeps its channel
and computes none. -/

namespace MultiPhyTsch

variable (conf : TschConf)

def radiosInit : Phy :=
  { currentRadio := conf.multiradioDrivers.head?
    currentRfConfig := conf.cc1200ConfRfCfg
    cc1200Divisor := tschAsnDivisorInit conf.cc1200ConfRfCfg.channels
    cc2538Divisor := tschAsnDivisorInit 16
    cc1200Channel := 0
    cc2538Channel := 0 }

def poweredOn : Node := { Node.boot conf with phy := radiosInit conf }

/-- `select`, `reconfigure` and `setChannel` are what scanning and `tsch_reset` do to the radios;
`elsewhere` is what the main thread writes apart from them. -/
inductive HopStep where
  | slot (input : SlotInput)
  | start (attempt : Attempt) (retries : List Attempt)
  | sync (nextSlotStart : UInt32) (nextSlotAsn : TschAsn)
  | select (radio : Option RadioDriver)
  | reconfigure (config : Cc1200RfCfg) (busy : Bool) (channel : UInt8)
  | setChannel (busy : Bool) (channel : UInt8)
  | elsewhere (lock : LockFlags) (sched : Schedule) (queue : Queue) (mac : Mac)
      (currentLink : Option Nat)

def HopStep.apply (node : Node) : HopStep → Node
  | slot input => tschSlotOperation conf input node
  | start attempt retries => tschSlotOperationStart conf attempt retries node
  | sync nextSlotStart nextSlotAsn => tschSlotOperationSync nextSlotStart nextSlotAsn node
  | select radio => { node with phy := multiradioSelect conf radio node.phy }
  | reconfigure config busy channel =>
    { node with phy := cc1200Reconfigure config busy channel node.phy }
  | setChannel busy channel => { node with phy := netstackSetChannel conf busy channel node.phy }
  | elsewhere lock sched queue mac currentLink =>
    { node with
      lock := lock, sched := sched, queue := queue, mac := mac
      slot := { node.slot with currentLink := currentLink } }

def hoppingLink (node : Node) : Option (TschLink × TschSlotframe) :=
  match node.slot.currentLink with
  | some l =>
    if !node.mac.tschIsAssociated || node.lock.tschLockRequested then none
    else
      let node := chooseLink conf l (enterSlot node)
      node.slot.currentLink.bind fun l =>
        let link := node.link l
        if (node.slot.currentPacket ≠ none ∨ link.has linkOptionRx ∨
            link.has linkOptionSampleRssi) ∧ node.slot.burstLinkScheduled = false then
          some (link, slotframeOfLink link node)
        else none
  | none => none

def selectedPhy (radio : Option RadioDriver) (phy : Phy) : Phy :=
  if conf.withMultiradio then multiradioSelect conf radio phy else phy

theorem chooseLink_mac (l : Nat) (node : Node) :
    (chooseLink conf l node).mac = node.mac ∧ (chooseLink conf l node).phy = node.phy := by
  simp only [chooseLink]
  split
  · split <;> exact ⟨rfl, rfl⟩
  · exact ⟨rfl, rfl⟩

theorem endSlot_channel (input : SlotInput) (node : Node) :
    (endSlot conf input node).slot.tschCurrentChannel = node.slot.tschCurrentChannel ∧
      (endSlot conf input node).phy = node.phy := by
  simp only [endSlot]
  split
  · exact ⟨rfl, rfl⟩
  · refine retryLoop_rounds conf
      (fun next => next.slot.tschCurrentChannel = node.slot.tschCurrentChannel ∧
        next.phy = node.phy)
      (fun next => next.slot.tschCurrentChannel = node.slot.tschCurrentChannel ∧
        next.phy = node.phy) ?_ (fun _ same => same) _ _ node ⟨rfl, rfl⟩
    intro next same
    have counted := countSharedLink_onlyQueue next
    have linked : (nextLink (countSharedLink next)).1.slot.tschCurrentChannel =
        (countSharedLink next).slot.tschCurrentChannel ∧
        (nextLink (countSharedLink next)).1.phy = (countSharedLink next).phy := by
      simp only [nextLink]
      split
      · exact ⟨rfl, rfl⟩
      · simp only [takeNextActiveLink]
        split <;> exact ⟨rfl, rfl⟩
    rw [← same.1, ← same.2, ← counted.slot_eq, ← counted.phy_eq]
    exact linked

theorem executeLink_channel (l : Nat) (input : SlotInput) (node : Node)
    (active : node.slot.currentPacket ≠ none ∨ (node.link l).has linkOptionRx = true ∨
      (node.link l).has linkOptionSampleRssi = true)
    (hops : node.slot.burstLinkScheduled = false) :
    (executeLink conf l input node).slot.tschCurrentChannel =
      tschCalculateChannel conf (selectedPhy conf (slotframeOfLink (node.link l) node).radio node.phy)
        node.mac node.mac.tschCurrentAsn (node.link l).channelOffset.toUInt8 := by
  have channel : (selectPhy conf (slotframeOfLink (node.link l) node) (node.link l) input.busy
      node).slot.tschCurrentChannel = tschCalculateChannel conf
        (selectedPhy conf (slotframeOfLink (node.link l) node).radio node.phy)
        node.mac node.mac.tschCurrentAsn (node.link l).channelOffset.toUInt8 := by
    simp only [selectPhy, hops, Bool.false_eq_true, if_false, selectedPhy]
  rw [← channel]
  simp only [executeLink]
  rw [if_pos active]
  generalize selectPhy conf (slotframeOfLink (node.link l) node) (node.link l) input.busy node = next
  split
  · rfl
  · split
    · exact (RadioWork.txSlot conf _ _ _ _ next).channel_eq
    · rfl
    · exact (RadioWork.rxSlot conf _ _ next).channel_eq

variable {link : TschLink} {slotframe : TschSlotframe}

theorem tschSlotOperation_channel {node : Node}
    (hops : hoppingLink conf node = some (link, slotframe)) (input : SlotInput) :
    (tschSlotOperation conf input node).slot.tschCurrentChannel =
      tschCalculateChannel conf (selectedPhy conf slotframe.radio node.phy) node.mac
        node.mac.tschCurrentAsn link.channelOffset.toUInt8 := by
  simp only [hoppingLink] at hops
  rcases current : node.slot.currentLink with _ | l
  · simp only [current] at hops
    cases hops
  · simp only [current] at hops
    split at hops
    · cases hops
    · rename_i active
      simp only [Bool.or_eq_true, Bool.not_eq_true', not_or, Bool.not_eq_false,
        Bool.not_eq_true] at active
      obtain ⟨other, chosen, linked⟩ := Option.bind_eq_some_iff.mp hops
      split at linked
      · rename_i works
        cases linked
        have executed := executeLink_channel conf other input _ works.1 works.2
        obtain ⟨mac, phy⟩ := chooseLink_mac conf l (enterSlot node)
        rw [mac, phy] at executed
        have ended := (endSlot_channel conf input
          (executeLink conf other input (chooseLink conf l (enterSlot node)))).1
        simp only [tschSlotOperation, active.1, if_true, skipOrRunSlot, current, active.2,
          Bool.false_eq_true, if_false, runSlot, chosen, ended]
        exact executed
      · cases linked

/-! The divisors of the radios are those of their configurations in every run. -/

structure RadioReady (phy : Phy) : Prop where
  cc1200 : phy.cc1200Divisor = tschAsnDivisorInit phy.currentRfConfig.channels
  cc2538 : phy.cc2538Divisor = tschAsnDivisorInit 16

namespace RadioReady

variable {phy : Phy}

theorem select (ready : RadioReady phy) (radio : Option RadioDriver) :
    RadioReady (multiradioSelect conf radio phy) := by
  simp only [multiradioSelect]
  split
  · split
    · exact ⟨ready.cc1200, ready.cc2538⟩
    · exact ready
  · exact ready

theorem setCc1200 (ready : RadioReady phy) (busy : Bool) (channel : UInt8) :
    RadioReady (cc1200SetChannel busy channel phy) := by
  simp only [cc1200SetChannel]
  split
  · exact ready
  · split
    · exact ready
    · exact ⟨ready.cc1200, ready.cc2538⟩

theorem setChannel (ready : RadioReady phy) (busy : Bool) (channel : UInt8) :
    RadioReady (netstackSetChannel conf busy channel phy) := by
  simp only [netstackSetChannel]
  split
  · exact ready.setCc1200 busy channel
  · exact ⟨ready.cc1200, ready.cc2538⟩
  · exact ready

theorem reconfigure (ready : RadioReady phy) (config : Cc1200RfCfg) (busy : Bool)
    (channel : UInt8) : RadioReady (cc1200Reconfigure config busy channel phy) := by
  apply setCc1200
  exact ⟨rfl, ready.cc2538⟩

variable {node : Node}

section

variable (ready : RadioReady node.phy)
include ready

theorem selectPhy (slotframe : TschSlotframe) (link : TschLink) (busy : Bool) :
    RadioReady (selectPhy conf slotframe link busy node).phy := by
  have selected : RadioReady (if conf.withMultiradio then
      multiradioSelect conf slotframe.radio node.phy else node.phy) := by
    split
    · exact ready.select conf slotframe.radio
    · exact ready
  simp only [MultiPhyTsch.selectPhy]
  split
  · split
    · exact selected.reconfigure _ _ _
    · exact selected.setChannel conf _ _
  · exact selected.setChannel conf _ _

theorem executeLink (l : Nat) (input : SlotInput) :
    RadioReady (executeLink conf l input node).phy := by
  simp only [MultiPhyTsch.executeLink]
  split
  · have selected := ready.selectPhy conf (slotframeOfLink (node.link l) node) (node.link l)
      input.busy
    generalize MultiPhyTsch.selectPhy conf (slotframeOfLink (node.link l) node) (node.link l)
      input.busy node = next at selected ⊢
    split
    · exact selected
    · split
      · rw [(RadioWork.txSlot conf _ _ _ _ next).phy_eq]
        exact selected
      · exact selected
      · rw [(RadioWork.rxSlot conf _ _ next).phy_eq]
        exact selected
  · exact ready

theorem slotOperation (input : SlotInput) : RadioReady (tschSlotOperation conf input node).phy := by
  simp only [tschSlotOperation]
  split
  · rw [(endSlot_channel conf input _).2]
    simp only [skipOrRunSlot]
    split
    · rename_i l current
      split
      · exact ready
      · have chosen : RadioReady (chooseLink conf l (enterSlot node)).phy := by
          rw [(chooseLink_mac conf l (enterSlot node)).2]
          exact ready
        simp only [runSlot]
        split
        · exact chosen.executeLink conf _ input
        · exact chosen
    · exact ready
  · exact ready

theorem apply (step : HopStep) : RadioReady (step.apply conf node).phy := by
  cases step with
  | slot input => exact ready.slotOperation conf input
  | start attempt retries =>
    refine retryLoop_rounds conf (fun next => RadioReady next.phy) (fun next => RadioReady next.phy)
      ?_ (fun _ kept => kept) retries attempt node ready
    intro next kept
    simp only [startNext, takeNextActiveLink]
    split <;> exact kept
  | sync nextSlotStart nextSlotAsn => exact ready
  | select radio => exact ready.select conf radio
  | reconfigure config busy channel => exact ready.reconfigure config busy channel
  | setChannel busy channel => exact ready.setChannel conf busy channel
  | elsewhere lock sched queue mac currentLink => exact ready

end

theorem run (steps : List HopStep) :
    RadioReady (Run.final (HopStep.apply conf) (poweredOn conf) steps).phy :=
  Run.invariant_of_step (fun node : Node => RadioReady node.phy) (fun _ step ready => ready.apply conf step)
    steps _ ⟨rfl, rfl⟩

end RadioReady

/-- The number of channels the radio of a slotframe reports when a slot starts; for the cc1200
it is that of the configuration left there. -/
def reportedChannels (radio : Option RadioDriver) (phy : Phy) : Option UInt16 :=
  (netstackDriver conf (selectedPhy conf radio phy)).map fun
    | .cc1200 => phy.currentRfConfig.channels
    | .cc2538Rf => 16

def SameReport (first second : Option UInt16) (length : UInt16) : Prop :=
  first = second ∨ (∀ channels ∈ first, length ≤ channels) ∧ ∀ channels ∈ second, length ≤ channels

def hopLength (reported : Option UInt16) (length : UInt16) : UInt16 :=
  match reported with
  | some channels => if channels < length then channels else length
  | none => length

theorem Cc1200RfCfg.channels_pos (config : Cc1200RfCfg) : 0 < config.channels.toNat := by
  have ordered := UInt8.le_iff_toNat_le.mp config.ordered
  have bound := config.maxChannel.toNat_lt
  have difference : (config.maxChannel.toUInt16 - config.minChannel.toUInt16).toNat =
      config.maxChannel.toNat - config.minChannel.toNat := by
    rw [UInt16.toNat_sub_of_le]
    · simp
    · rw [UInt16.le_iff_toNat_le]
      simpa using ordered
  rw [Cc1200RfCfg.channels, UInt16.toNat_add, difference]
  simp only [UInt16.reduceToNat]
  omega

theorem reportedChannels_pos (radio : Option RadioDriver) (phy : Phy) :
    ∀ channels ∈ reportedChannels conf radio phy, 0 < channels.toNat := by
  intro channels reported
  obtain ⟨driver, -, rfl⟩ := Option.map_eq_some_iff.mp reported
  cases driver with
  | cc1200 => exact phy.currentRfConfig.channels_pos
  | cc2538Rf => exact (by decide : 0 < (16 : UInt16).toNat)

variable {length : UInt16}

theorem hopLength_pos {reported : Option UInt16} (positive : length ≠ 0)
    (channels : ∀ channels ∈ reported, 0 < channels.toNat) :
    0 < (hopLength reported length).toNat ∧ (hopLength reported length).toNat ≤ length.toNat := by
  have nonzero : 0 < length.toNat := by
    apply Nat.pos_of_ne_zero
    intro zero
    exact positive (UInt16.toNat_inj.mp zero)
  rcases reported with _ | count
  · exact ⟨nonzero, Nat.le_refl _⟩
  · simp only [hopLength]
    split
    · rename_i shorter
      rw [UInt16.lt_iff_toNat_lt] at shorter
      exact ⟨channels count rfl, by omega⟩
    · exact ⟨nonzero, Nat.le_refl _⟩

theorem hopLength_eq_iff (first second : Option UInt16) (length : UInt16) :
    hopLength first length = hopLength second length ↔ SameReport first second length := by
  have shorter : ∀ {channels : UInt16}, channels < length → channels ≠ length := by
    rintro channels less rfl
    exact UInt16.lt_irrefl _ less
  rcases first with _ | one <;> rcases second with _ | two
  · simp [SameReport]
  · simp only [hopLength, SameReport]
    split
    · rename_i less
      simpa [less, UInt16.not_le.mpr less] using (shorter less).symm
    · rename_i more
      simpa using UInt16.not_lt.mp more
  · simp only [hopLength, SameReport]
    split
    · rename_i less
      simpa [less, UInt16.not_le.mpr less] using shorter less
    · rename_i more
      simpa using UInt16.not_lt.mp more
  · simp only [hopLength, SameReport]
    split <;> split
    · rename_i less _
      simp [UInt16.not_le.mpr less]
    · rename_i less more
      have different : one ≠ two := fun same => more (same ▸ less)
      simp [UInt16.not_le.mpr less, shorter less, different]
    · rename_i more less
      have different : one ≠ two := fun same => more (same ▸ less)
      simp [UInt16.not_le.mpr less, (shorter less).symm, different]
    · rename_i more less
      simp [UInt16.not_lt.mp more, UInt16.not_lt.mp less]

section

variable {phy : Phy} (ready : RadioReady phy) (radio : Option RadioDriver)
include ready

theorem RadioReady.hoppingSequenceDivisor_eq :
    hoppingSequenceDivisor conf (selectedPhy conf radio phy) =
      (reportedChannels conf radio phy).map tschAsnDivisorInit := by
  have fields : (selectedPhy conf radio phy).cc1200Divisor = phy.cc1200Divisor ∧
      (selectedPhy conf radio phy).cc2538Divisor = phy.cc2538Divisor := by
    simp only [selectedPhy, multiradioSelect]
    split
    · split
      · split <;> exact ⟨rfl, rfl⟩
      · exact ⟨rfl, rfl⟩
    · exact ⟨rfl, rfl⟩
  rw [hoppingSequenceDivisor, reportedChannels, Option.map_map]
  congr 1
  funext driver
  cases driver with
  | cc1200 => exact fields.1.trans ready.cc1200
  | cc2538Rf => exact fields.2.trans ready.cc2538

theorem channelDivisor_eq {mac : Mac}
    (sequence : mac.tschHoppingSequenceLength = tschAsnDivisorInit length) :
    channelDivisor conf (selectedPhy conf radio phy) mac =
      tschAsnDivisorInit (hopLength (reportedChannels conf radio phy) length) := by
  rw [channelDivisor, ready.hoppingSequenceDivisor_eq conf radio, sequence]
  rcases reportedChannels conf radio phy with _ | channels
  · rfl
  · simp only [Option.map_some, hopLength]
    change (if channels < length then tschAsnDivisorInit channels else tschAsnDivisorInit length) = _
    split <;> rfl

theorem tschCalculateChannel_eq {mac : Mac} (positive : length ≠ 0)
    (sequence : mac.tschHoppingSequenceLength = tschAsnDivisorInit length)
    (hopping : conf.noHoppingSequence = false) (asn : TschAsn) (offset : UInt8) :
    tschCalculateChannel conf (selectedPhy conf radio phy) mac asn offset =
      mac.tschHoppingSequence.getD ((asn.toNat + offset.toNat) %
        (hopLength (reportedChannels conf radio phy) length).toNat) 0 := by
  have nonzero := (hopLength_pos positive (reportedChannels_pos conf radio phy)).1
  have divisor : (tschAsnDivisorInit (hopLength (reportedChannels conf radio phy) length)).val =
      hopLength (reportedChannels conf radio phy) length := rfl
  simp only [tschCalculateChannel, hopping, Bool.false_eq_true, if_false,
    channelDivisor_eq conf ready radio sequence]
  rw [tschAsnMod_toNat asn nonzero, divisor, Nat.mod_add_mod]

end

theorem exists_asn {number : Nat} (bound : number < 2 ^ 40) : ∃ asn : TschAsn, asn.toNat = number := by
  refine ⟨⟨UInt32.ofNat (number % 2 ^ 32), UInt8.ofNat (number / 2 ^ 32)⟩, ?_⟩
  have low : number % 2 ^ 32 < 2 ^ 32 := Nat.mod_lt _ (by decide)
  have high : number / 2 ^ 32 < 2 ^ 8 := by omega
  simp only [TschAsn.toNat, UInt32.toNat_ofNat', UInt8.toNat_ofNat']
  rw [Nat.mod_eq_of_lt low, Nat.mod_eq_of_lt high]
  omega

theorem exists_asn_entry_ne {first second length : Nat} (offset : UInt8) (positive : 0 < first)
    (less : first < second) (bound : second ≤ length) (small : length < 2 ^ 16) :
    ∃ (asn : TschAsn) (sequence : List UInt8), sequence.length = length ∧
      sequence.getD ((asn.toNat + offset.toNat) % first) 0 ≠
        sequence.getD ((asn.toNat + offset.toNat) % second) 0 := by
  have offsetBound := offset.toNat_lt
  have product : first * second ≤ 65535 * 65535 := Nat.mul_le_mul (by omega) (by omega)
  have large : 1 ≤ first * second := Nat.mul_pos positive (by omega)
  obtain ⟨asn, number⟩ := exists_asn (by omega :
    first + first * second * 256 - offset.toNat < 2 ^ 40)
  have sum : asn.toNat + offset.toNat = first + first * (second * 256) := by
    rw [number, ← Nat.mul_assoc]
    omega
  have atFirst : (asn.toNat + offset.toNat) % first = 0 := by
    rw [sum, Nat.add_mul_mod_self_left, Nat.mod_self]
  have atSecond : (asn.toNat + offset.toNat) % second = first := by
    have regroup : first + first * (second * 256) = first + second * (first * 256) := by
      rw [Nat.mul_left_comm]
    rw [sum, regroup, Nat.add_mul_mod_self_left, Nat.mod_eq_of_lt less]
  refine ⟨asn, (List.range length).map fun index => if index = 0 then 0 else 1, by simp, ?_⟩
  have head : 0 < length := by omega
  have later : first < length := by omega
  have nonzero : first ≠ 0 := by omega
  rw [atFirst, atSecond]
  simp [List.getD_eq_getElem?_getD, head, later, nonzero]

def Node.tuned (asn : TschAsn) (sequence : List UInt8) (node : Node) : Node :=
  { node with mac := { node.mac with tschCurrentAsn := asn, tschHoppingSequence := sequence } }

theorem chooseLink_tuned (asn : TschAsn) (sequence : List UInt8) (l : Nat) (node : Node) :
    chooseLink conf l (node.tuned asn sequence) = (chooseLink conf l node).tuned asn sequence := by
  have packet : ∀ link, getPacketAndNeighborForLink conf link (node.tuned asn sequence) =
    getPacketAndNeighborForLink conf link node := fun _ => rfl
  have slot : (node.tuned asn sequence).slot = node.slot := rfl
  have links : (node.tuned asn sequence).link = node.link := rfl
  simp only [chooseLink, packet, slot, links]
  split
  · split <;> rfl
  · rfl

theorem hoppingLink_tuned (asn : TschAsn) (sequence : List UInt8) (node : Node) :
    hoppingLink conf (node.tuned asn sequence) = hoppingLink conf node := by
  have entered : enterSlot (node.tuned asn sequence) = (enterSlot node).tuned asn sequence := rfl
  simp only [hoppingLink, entered, chooseLink_tuned]
  rfl

theorem tuned_channel {node : Node} (hops : hoppingLink conf node = some (link, slotframe))
    (asn : TschAsn) (sequence : List UInt8) (input : SlotInput) :
    (tschSlotOperation conf input (node.tuned asn sequence)).slot.tschCurrentChannel =
      tschCalculateChannel conf (selectedPhy conf slotframe.radio node.phy)
        (node.tuned asn sequence).mac asn link.channelOffset.toUInt8 :=
  tschSlotOperation_channel conf ((hoppingLink_tuned conf asn sequence node).trans hops) input

theorem tuned_entry {node : Node} (ready : RadioReady node.phy)
    (hops : hoppingLink conf node = some (link, slotframe)) (positive : length ≠ 0)
    (lengthEq : node.mac.tschHoppingSequenceLength = tschAsnDivisorInit length)
    (hopping : conf.noHoppingSequence = false) (asn : TschAsn) (sequence : List UInt8)
    (input : SlotInput) :
    (tschSlotOperation conf input (node.tuned asn sequence)).slot.tschCurrentChannel =
      sequence.getD ((asn.toNat + link.channelOffset.toUInt8.toNat) %
        (hopLength (reportedChannels conf slotframe.radio node.phy) length).toNat) 0 := by
  have tunedLength : (node.tuned asn sequence).mac.tschHoppingSequenceLength =
    tschAsnDivisorInit length := lengthEq
  rw [tuned_channel conf hops, tschCalculateChannel_eq conf ready slotframe.radio positive
    tunedLength hopping]
  rfl

theorem channel_rendezvous_iff (first second : List HopStep) {link : TschLink}
    {firstFrame secondFrame : TschSlotframe} {length : UInt16}
    (firstHops : hoppingLink conf (Run.final (HopStep.apply conf) (poweredOn conf) first) =
      some (link, firstFrame))
    (secondHops : hoppingLink conf (Run.final (HopStep.apply conf) (poweredOn conf) second) =
      some (link, secondFrame))
    (samePhy : secondFrame.radio = firstFrame.radio ∧
      secondFrame.cc1200Config = firstFrame.cc1200Config)
    (positive : length ≠ 0)
    (firstLength : (Run.final (HopStep.apply conf) (poweredOn conf)
      first).mac.tschHoppingSequenceLength = tschAsnDivisorInit length)
    (secondLength : (Run.final (HopStep.apply conf) (poweredOn conf)
      second).mac.tschHoppingSequenceLength = tschAsnDivisorInit length) :
    (∀ asn sequence firstInput secondInput, sequence.length = length.toNat →
      (tschSlotOperation conf firstInput ((Run.final (HopStep.apply conf) (poweredOn conf)
          first).tuned asn sequence)).slot.tschCurrentChannel =
        (tschSlotOperation conf secondInput ((Run.final (HopStep.apply conf) (poweredOn conf)
          second).tuned asn sequence)).slot.tschCurrentChannel) ↔
      conf.noHoppingSequence = true ∨
        SameReport
          (reportedChannels conf firstFrame.radio
            (Run.final (HopStep.apply conf) (poweredOn conf) first).phy)
          (reportedChannels conf firstFrame.radio
            (Run.final (HopStep.apply conf) (poweredOn conf) second).phy) length := by
  have firstReady := RadioReady.run conf first
  have secondReady := RadioReady.run conf second
  generalize Run.final (HopStep.apply conf) (poweredOn conf) first = one at *
  generalize Run.final (HopStep.apply conf) (poweredOn conf) second = two at *
  cases hopping : conf.noHoppingSequence with
  | true => simp [tuned_channel conf firstHops, tuned_channel conf secondHops, tschCalculateChannel,
      hopping]
  | false =>
    have firstEntry := tuned_entry conf firstReady firstHops positive firstLength hopping
    have secondEntry := tuned_entry conf secondReady secondHops positive secondLength hopping
    rw [samePhy.1] at secondEntry
    have firstBound := hopLength_pos positive (reportedChannels_pos conf firstFrame.radio one.phy)
    have secondBound := hopLength_pos positive (reportedChannels_pos conf firstFrame.radio two.phy)
    have small := length.toNat_lt
    simp only [firstEntry, secondEntry, Bool.false_eq_true, false_or, ← hopLength_eq_iff]
    constructor
    · intro agree
      apply UInt16.toNat_inj.mp
      rcases Nat.lt_trichotomy
        (hopLength (reportedChannels conf firstFrame.radio one.phy) length).toNat
        (hopLength (reportedChannels conf firstFrame.radio two.phy) length).toNat
        with less | equal | more
      · obtain ⟨asn, sequence, whole, different⟩ := exists_asn_entry_ne
          link.channelOffset.toUInt8 firstBound.1 less secondBound.2 small
        exact (different (agree asn sequence default default whole)).elim
      · exact equal
      · obtain ⟨asn, sequence, whole, different⟩ := exists_asn_entry_ne
          link.channelOffset.toUInt8 secondBound.1 more firstBound.2 small
        exact (different (agree asn sequence default default whole).symm).elim
    · intro same asn sequence _ _ _
      rw [same]

def fourChannels : Cc1200RfCfg := ⟨0, 3, by decide⟩

/-- Two slotframes of size 3 on two configurations of the cc1200: one with 34 channels that
listens in slots 0, 3, 6 and so on, and one with 4 channels that listens in the slots after. -/
def mixedPhySchedule : Schedule :=
  let node := Run.final (ScheduleCall.exec cc1200Conf) (Node.boot cc1200Conf)
    [.addSlotframe 1 3, .addSlotframe 2 3,
      .addLink (some 0) linkOptionRx .normal (some (Vector.replicate 8 2)) 0 0,
      .addLink (some 1) linkOptionRx .normal (some (Vector.replicate 8 2)) 1 0]
  let node := node.writeSlotframe 0 fun slotframe =>
    { slotframe with cc1200Config := some cc1200Conf.cc1200ConfRfCfg }
  (node.writeSlotframe 1 fun slotframe =>
    { slotframe with cc1200Config := some fourChannels }).sched

def joinAt (asn : UInt32) : List HopStep :=
  [.elsewhere {} mixedPhySchedule (Node.boot cc1200Conf).queue
    { tschIsAssociated := true
      tschIsCoordinator := true
      tschHoppingSequence := (List.range 34).map UInt8.ofNat
      tschHoppingSequenceLength := tschAsnDivisorInit 34 } none,
    .sync 0 ⟨asn, 0⟩, .start default []]

theorem channel_rendezvous_iff_joined :
    let first := Run.final (HopStep.apply cc1200Conf) (poweredOn cc1200Conf)
      (joinAt 32 ++ [.slot default])
    let second := Run.final (HopStep.apply cc1200Conf) (poweredOn cc1200Conf) (joinAt 33)
    hoppingLink cc1200Conf first ≠ none ∧
      ∀ asn sequence firstInput secondInput, sequence.length = 34 →
        (tschSlotOperation cc1200Conf firstInput
            (first.tuned asn sequence)).slot.tschCurrentChannel =
          (tschSlotOperation cc1200Conf secondInput
            (second.tuned asn sequence)).slot.tschCurrentChannel := by
  intro first second
  have some : (hoppingLink cc1200Conf first).isSome = true := by decide +kernel
  have same : hoppingLink cc1200Conf second = hoppingLink cc1200Conf first := by decide +kernel
  have report : first.phy.currentRfConfig.channels = second.phy.currentRfConfig.channels := by
    decide +kernel
  obtain ⟨⟨link, slotframe⟩, hops⟩ := Option.isSome_iff_exists.mp some
  refine ⟨by rw [hops]; exact Option.some_ne_none _, ?_⟩
  exact (channel_rendezvous_iff cc1200Conf _ _ hops (same.trans hops) ⟨rfl, rfl⟩
    (by decide : (34 : UInt16) ≠ 0) (by decide +kernel) (by decide +kernel)).mpr
      (.inr (.inl (congrArg Option.some report)))

/-- Two nodes on the link of the second slotframe at slot 34. One comes from the slot before, with
34 channels, and hops to channel 0; the other has just joined after scanning with 4 channels and
hops to channel 2. -/
theorem rendezvous_missed :
    let first := Run.final (HopStep.apply cc1200Conf) (poweredOn cc1200Conf)
      (joinAt 32 ++ [.slot default])
    let second := Run.final (HopStep.apply cc1200Conf) (poweredOn cc1200Conf)
      (.reconfigure fourChannels false 0 :: joinAt 33)
    first.mac.tschCurrentAsn = ⟨34, 0⟩ ∧ second.mac = first.mac ∧
      hoppingLink cc1200Conf first ≠ none ∧
      hoppingLink cc1200Conf second = hoppingLink cc1200Conf first ∧
      (tschSlotOperation cc1200Conf default first).slot.tschCurrentChannel = 0 ∧
      (tschSlotOperation cc1200Conf default second).slot.tschCurrentChannel = 2 := by
  decide +kernel

end MultiPhyTsch
