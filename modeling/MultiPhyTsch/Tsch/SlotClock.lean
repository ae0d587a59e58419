import Mathlib.Data.Int.ModEq
import MultiPhyTsch.Lib.Run
import MultiPhyTsch.Tsch.SlotOperation

/-! The slot clock: `current_slot_start` and the ASN advance together. A slot can only
measure a correction; every advance of the clock is a round of a scheduling loop. -/

namespace MultiPhyTsch

variable (conf : TschConf)

structure ClockView where
  slotStart : UInt32
  asn : TschAsn
  ledger : List Advance
  corrections : List Int32
  drift : Int32
  used : Bool
  lastSync : TschAsn

def Node.clock (node : Node) : ClockView :=
  { slotStart := node.slot.currentSlotStart
    asn := node.mac.tschCurrentAsn
    ledger := node.slot.ledger
    corrections := node.slot.corrections
    drift := node.slot.driftCorrection
    used := node.slot.isDriftCorrectionUsed
    lastSync := node.slot.lastSyncAsn }

def ClockView.measure (clock : ClockView) (correction : Int32) : ClockView :=
  { clock with
    corrections := clock.corrections ++ [correction]
    drift := correction
    used := true
    lastSync := clock.asn }

theorem OnlyQueue.clock_eq {node next : Node} (only : OnlyQueue node next) :
    next.clock = node.clock := by
  simp only [Node.clock, only.slot_eq, only.mac_eq]

def Measures (before after : ClockView) : Prop :=
  after = before ∨ ∃ correction, after = before.measure correction

theorem txAcknowledged_clock (n : Nat) (link : TschLink) (requested : Bool) (input : TxInput)
    (node : Node) :
    Measures node.clock (txAcknowledged conf n link requested input node).clock := by
  simp only [txAcknowledged]
  by_cases source : (targetIsTimeSource conf n input node && link.has linkOptionTimeKeeping) = true
  · simp only [source, if_true]
    exact .inr ⟨eackCorrection conf input.ack, by split <;> rfl⟩
  · simp only [source]
    exact .inl (by split <;> rfl)

theorem burstLinkRequested_clock (n : Nat) (node : Node) :
    (burstLinkRequested conf n node).2.clock = node.clock := by
  simp only [burstLinkRequested]
  split
  · exact (OnlyQueue.packetCount conf _ node).clock_eq
  · rfl

theorem txAttempt_clock (n p : Nat) (link : TschLink) (input : TxInput) (node : Node) :
    Measures node.clock (txAttempt conf n p link input node).node.clock := by
  simp only [txAttempt]
  split
  · exact .inl rfl
  · have same := burstLinkRequested_clock conf n node
    generalize burstLinkRequested conf n node = result at same ⊢
    obtain ⟨requested, middle⟩ := result
    simp only at same ⊢
    rw [← same]
    split
    · exact txAcknowledged_clock conf n link requested input _
    · exact .inl rfl

theorem tschTxSlot_clock (n p : Nat) (link : TschLink) (input : TxInput) (node : Node) :
    Measures node.clock (tschTxSlot conf n p link input node).clock := by
  simp only [tschTxSlot]
  split
  · have measured := txAttempt_clock conf n p link input node
    generalize txAttempt conf n p link input node = attempt at measured ⊢
    have sent := (OnlyQueue.packetSent conf n p link attempt.status input.random
      (storeStatus p attempt)).clock_eq
    simp only [txReport]
    generalize tschQueuePacketSent conf n p link attempt.status input.random
      (storeStatus p attempt) = result at sent ⊢
    obtain ⟨inQueue, next⟩ := result
    have same : next.clock = attempt.node.clock := sent
    rw [← same] at measured
    cases inQueue with
    | true => exact measured
    | false => exact measured
  · exact .inl rfl

theorem tschRxSlot_clock (link : TschLink) (input : RxInput) (node : Node) :
    Measures node.clock (tschRxSlot conf link input node).clock := by
  simp only [tschRxSlot]
  split
  · have same : (scheduleReceivedBurst input node).clock = node.clock := by
      simp only [scheduleReceivedBurst]
      split <;> rfl
    generalize scheduleReceivedBurst input node = middle at same ⊢
    rw [← same]
    split
    · exact .inr ⟨-input.estimatedDrift, rfl⟩
    · exact .inl rfl
  · exact .inl rfl

theorem selectPhy_clock (slotframe : TschSlotframe) (link : TschLink) (busy : Bool) (node : Node) :
    (selectPhy conf slotframe link busy node).clock = node.clock := by
  by_cases burst : node.slot.burstLinkScheduled = true
  · simp [selectPhy, Node.clock, burst]
  · simp [selectPhy, Node.clock, burst]

theorem executeLink_clock (l : Nat) (input : SlotInput) (node : Node) :
    Measures node.clock (executeLink conf l input node).clock := by
  simp only [executeLink]
  split
  · have same := selectPhy_clock conf (slotframeOfLink (node.link l) node) (node.link l) input.busy
      node
    generalize selectPhy conf (slotframeOfLink (node.link l) node) (node.link l) input.busy node =
      middle at same ⊢
    rw [← same]
    split
    · exact .inl rfl
    · split
      · exact tschTxSlot_clock conf _ _ _ _ _
      · exact .inl rfl
      · exact tschRxSlot_clock conf _ _ _
  · exact .inl rfl

theorem chooseLink_clock (l : Nat) (node : Node) : (chooseLink conf l node).clock = node.clock := by
  simp only [chooseLink]
  split
  · split <;> rfl
  · rfl

theorem runSlot_clock (l : Nat) (input : SlotInput) (node : Node) :
    Measures { node.clock with drift := 0, used := false } (runSlot conf l input node).clock := by
  have same := chooseLink_clock conf l (enterSlot node)
  simp only [runSlot]
  generalize chooseLink conf l (enterSlot node) = middle at same ⊢
  change middle.clock = { node.clock with drift := 0, used := false } at same
  rw [← same]
  split
  · exact executeLink_clock conf _ input middle
  · exact .inl rfl

def ClockView.pending (clock : ClockView) : List Int32 := if clock.used then [clock.drift] else []

/-- The clock `node` reached from `initial` by the advances `made`, with the corrections
`measured` on the way. -/
structure Lockstep (initial clock : ClockView) (made : List Advance) (measured : List Int32) :
    Prop where
  ledger : clock.ledger = initial.ledger ++ made
  corrections : clock.corrections = initial.corrections ++ measured
  asn : clock.asn.toNat =
    (initial.asn.toNat + (made.map fun advance => advance.timeslotDiff.toNat).sum) % 2 ^ 40
  slotStart : (clock.slotStart.toNat : Int) ≡ initial.slotStart.toNat +
    (made.map fun advance => (advance.timeslotDiff.toNat : Int)).sum * conf.timeslotLength.toNat +
    ((made.filterMap Advance.correction).map Int32.toInt).sum +
    (made.map fun advance => advance.compensation.toInt).sum [ZMOD 2 ^ 32]
  applied : made.filterMap Advance.correction ++ clock.pending = measured
  unused : clock.used = false → clock.drift = 0

theorem toUInt32_modEq (value : Int32) :
    (value.toUInt32.toNat : Int) ≡ value.toInt [ZMOD 2 ^ 32] := by
  have bits : value.toInt = Int.bmod value.toBitVec.toNat (2 ^ 32) := BitVec.toInt_eq_toNat_bmod _
  rw [bits, Int.ModEq]
  exact (Int.bmod_emod).symm

theorem advance_modEq (start length : UInt32) (timeslotDiff : UInt16) (drift compensation : Int32) :
    ((start + (timeslotDiff.toUInt32 * length + drift.toUInt32 +
      compensation.toUInt32)).toNat : Int) ≡
      start.toNat + (timeslotDiff.toNat * length.toNat + drift.toInt + compensation.toInt)
        [ZMOD 2 ^ 32] := by
  have sum : (start + (timeslotDiff.toUInt32 * length + drift.toUInt32 +
      compensation.toUInt32)).toNat = (start.toNat + (timeslotDiff.toNat * length.toNat +
        drift.toUInt32.toNat + compensation.toUInt32.toNat)) % 2 ^ 32 := by
    simp only [UInt32.toNat_add, UInt32.toNat_mul, UInt16.toNat_toUInt32]
    omega
  rw [sum, Int.natCast_mod]
  push_cast
  refine (Int.mod_modEq _ _).trans ?_
  gcongr
  · exact toUInt32_modEq drift
  · exact toUInt32_modEq compensation

variable {made : List Advance} {measured : List Int32}

theorem Lockstep.advance {initial clock next : ClockView}
    (state : Lockstep conf initial clock made measured) (advance : Advance)
    (correction : advance.correction = if clock.used then some clock.drift else none)
    (eq : next = { clock with
      slotStart := clock.slotStart + (advance.timeslotDiff.toUInt32 * conf.timeslotLength +
        clock.drift.toUInt32 + advance.compensation.toUInt32)
      asn := tschAsnInc clock.asn advance.timeslotDiff.toUInt32
      ledger := clock.ledger ++ [advance]
      drift := 0
      used := false }) :
    Lockstep conf initial next (made ++ [advance]) measured := by
  subst eq
  have drift : ((advance.correction.toList).map Int32.toInt).sum = clock.drift.toInt := by
    rw [correction]
    cases used : clock.used with
    | true => simp
    | false => simp [state.unused used]
  have pending : advance.correction.toList = clock.pending := by
    rw [correction, ClockView.pending]
    cases clock.used <;> rfl
  have snoc : (made ++ [advance]).filterMap Advance.correction =
      made.filterMap Advance.correction ++ advance.correction.toList := by
    rw [List.filterMap_append]
    cases choice : advance.correction <;> simp [choice]
  refine ⟨?_, state.corrections, ?_, ?_, ?_, fun _ => rfl⟩
  · simp [state.ledger]
  · simp only [tschAsnInc_toNat, state.asn, UInt16.toNat_toUInt32, List.map_append,
      List.map_singleton, List.sum_append, List.sum_singleton]
    omega
  · refine (advance_modEq _ _ _ _ _).trans ?_
    refine (state.slotStart.add_right _).trans ?_
    apply congrArg fun value : Int => value % 2 ^ 32
    rw [snoc]
    simp only [List.map_append, List.sum_append, List.map_singleton, List.sum_singleton, drift]
    ring
  · rw [snoc, pending, ← state.applied]
    simp [ClockView.pending]

theorem takeNextActiveLink_clock (node : Node) :
    (takeNextActiveLink node).1.clock = node.clock := by
  simp only [takeNextActiveLink]
  split <;> rfl

theorem nextLink_clock (node : Node) : (nextLink node).1.clock = node.clock := by
  simp only [nextLink]
  split
  · rfl
  · exact takeNextActiveLink_clock node

variable {initial : ClockView} {node : Node}

theorem scheduleNext_lockstep (state : Lockstep conf initial node.clock made measured) :
    ∃ advance, Lockstep conf initial (scheduleNext conf node).1.clock (made ++ [advance]) measured ∧
      (scheduleNext conf node).1.clock.used = false := by
  have countedClock := (countSharedLink_onlyQueue node).clock_eq
  simp only [scheduleNext]
  generalize countSharedLink node = counted at countedClock ⊢
  have linkClock := nextLink_clock counted
  generalize nextLink counted = chosen at linkClock ⊢
  obtain ⟨linked, timeslotDiff⟩ := chosen
  simp only at linkClock ⊢
  rw [← countedClock, ← linkClock] at state
  generalize compensated : tschTimesyncAdaptiveCompensate conf _ linked.timesync = result
  obtain ⟨compensation, timesync⟩ := result
  refine ⟨⟨timeslotDiff, _, compensation⟩, state.advance conf _ rfl rfl, rfl⟩

theorem startNext_lockstep (state : Lockstep conf initial node.clock made measured)
    (settled : node.clock.used = false) :
    ∃ advance, Lockstep conf initial (startNext conf node).1.clock (made ++ [advance]) measured ∧
      (startNext conf node).1.clock.used = false := by
  have linkClock := takeNextActiveLink_clock node
  simp only [startNext]
  generalize takeNextActiveLink node = chosen at linkClock ⊢
  obtain ⟨linked, timeslotDiff⟩ := chosen
  simp only at linkClock ⊢
  rw [← linkClock] at state settled
  have drift := state.unused settled
  refine ⟨⟨timeslotDiff, none, 0⟩, state.advance conf _ (by simp [settled]) ?_, settled⟩
  have zero : Int32.toUInt32 0 = 0 := rfl
  simp only [Node.clock] at settled drift
  simp [Node.clock, advanceClock, settled, drift, zero]

theorem Lockstep.measure {initial clock : ClockView}
    (state : Lockstep conf initial clock made measured) (settled : clock.used = false)
    (correction : Int32) :
    Lockstep conf initial (clock.measure correction) made (measured ++ [correction]) := by
  have applied := state.applied
  simp only [ClockView.pending, settled] at applied
  refine ⟨state.ledger, ?_, state.asn, state.slotStart, ?_, ?_⟩
  · simp [ClockView.measure, state.corrections]
  · rw [← applied]
    simp [ClockView.pending, ClockView.measure]
  · intro unused
    cases unused

variable (input : SlotInput)

section

variable (state : Lockstep conf initial node.clock made measured)
include state

theorem endSlot_lockstep (fresh : node.clock.used = true → node.clock.lastSync = node.clock.asn) :
    ∃ made, Lockstep conf initial (endSlot conf input node).clock made measured ∧
      (endSlot conf input node).clock.used = false := by
  simp only [endSlot]
  split
  · rename_i leaves
    refine ⟨made, state, ?_⟩
    cases used : node.clock.used with
    | false => exact used
    | true =>
      have synced : node.slot.lastSyncAsn = node.mac.tschCurrentAsn := fresh used
      rw [Bool.and_eq_true, decide_eq_true_eq, synced, tschAsnDiff, UInt32.sub_self] at leaves
      exact (UInt32.not_lt_zero leaves.2).elim
  · refine retryLoop_rounds conf
      (fun node => ∃ made, Lockstep conf initial node.clock made measured)
      (fun node => ∃ made, Lockstep conf initial node.clock made measured ∧
        node.clock.used = false) ?_ ?_ _ _ node ⟨made, state⟩
    · rintro node ⟨made, state⟩
      obtain ⟨advance, next, idle⟩ := scheduleNext_lockstep conf state
      exact ⟨_, next, idle⟩
    · rintro node ⟨made, state, _⟩
      exact ⟨made, state⟩

theorem skipOrRunSlot_lockstep (settled : node.clock.used = false) :
    ∃ measured, Lockstep conf initial (skipOrRunSlot conf input node).clock made measured ∧
      ((skipOrRunSlot conf input node).clock.used = true →
        (skipOrRunSlot conf input node).clock.lastSync =
          (skipOrRunSlot conf input node).clock.asn) := by
  have skipped : ∃ measured, Lockstep conf initial node.clock made measured ∧
      (node.clock.used = true → node.clock.lastSync = node.clock.asn) := by
    refine ⟨measured, state, ?_⟩
    simp [settled]
  simp only [skipOrRunSlot]
  split
  · split
    · exact skipped
    · rename_i l _ _
      have cleared : ({ node.clock with drift := 0, used := false } : ClockView) = node.clock := by
        rw [← settled, ← state.unused settled]
      have measures := runSlot_clock conf l input node
      rw [cleared] at measures
      rcases measures with same | ⟨correction, measuredNow⟩
      · rw [same]
        exact skipped
      · rw [measuredNow]
        exact ⟨_, state.measure conf settled correction, fun _ => rfl⟩
  · exact skipped

theorem tschSlotOperation_lockstep (settled : node.clock.used = false) :
    ∃ made measured,
      Lockstep conf initial (tschSlotOperation conf input node).clock made measured ∧
        (tschSlotOperation conf input node).clock.used = false := by
  simp only [tschSlotOperation]
  split
  · obtain ⟨measured, during, fresh⟩ := skipOrRunSlot_lockstep conf input state settled
    obtain ⟨made, after, done⟩ := endSlot_lockstep conf input during fresh
    exact ⟨made, measured, after, done⟩
  · exact ⟨made, measured, state, settled⟩

end

theorem SlotStep.lockstep (step : SlotStep)
    (state : Lockstep conf initial node.clock made measured) (settled : node.clock.used = false) :
    ∃ made measured, Lockstep conf initial (step.apply conf node).clock made measured ∧
      (step.apply conf node).clock.used = false := by
  cases step with
  | slot input => exact tschSlotOperation_lockstep conf input state settled
  | start attempt retries =>
    let idle : Node → Prop := fun node => ∃ made,
      Lockstep conf initial node.clock made measured ∧ node.clock.used = false
    have round : ∀ node, idle node → idle (startNext conf node).1 := by
      rintro node ⟨made, state, settled⟩
      obtain ⟨advance, next, done⟩ := startNext_lockstep conf state settled
      exact ⟨_, next, done⟩
    obtain ⟨made, after, done⟩ := retryLoop_rounds conf idle idle round (fun _ reached => reached)
      retries attempt node ⟨made, state, settled⟩
    exact ⟨made, measured, after, done⟩
  | mainThread change => exact ⟨made, measured, state, settled⟩

theorem Lockstep.refl {clock : ClockView} (settled : clock.used = false)
    (noDrift : clock.drift = 0) : Lockstep conf clock clock [] [] := by
  refine ⟨by simp, by simp, ?_, by simp, by simp [ClockView.pending, settled], fun _ => noDrift⟩
  rw [List.map_nil, List.sum_nil, Nat.add_zero, Nat.mod_eq_of_lt clock.asn.toNat_lt]

/-- Over every run the slot start has advanced by the slots the ASN has advanced, the
corrections measured and the compensations, each correction once. -/
theorem slotClock_lockstep (initial : Node) (steps : List SlotStep)
    (settled : initial.slot.isDriftCorrectionUsed = false)
    (noDrift : initial.slot.driftCorrection = 0) {final : Node}
    (reached : final = Run.final (SlotStep.apply conf) initial steps) :
    ∃ made : List Advance, ∃ measured : List Int32,
      final.slot.ledger = initial.slot.ledger ++ made ∧
      final.slot.corrections = initial.slot.corrections ++ measured ∧
      final.mac.tschCurrentAsn.toNat =
        (initial.mac.tschCurrentAsn.toNat +
          (made.map fun advance => advance.timeslotDiff.toNat).sum) % 2 ^ 40 ∧
      ((final.slot.currentSlotStart.toNat : Int) - initial.slot.currentSlotStart.toNat ≡
        (made.map fun advance => (advance.timeslotDiff.toNat : Int)).sum *
          conf.timeslotLength.toNat + (measured.map Int32.toInt).sum +
        (made.map fun advance => advance.compensation.toInt).sum [ZMOD 2 ^ 32]) ∧
      made.filterMap Advance.correction = measured := by
  subst reached
  have lockstep := Run.invariant_of_step
    (fun node : Node => ∃ made measured, Lockstep conf initial.clock node.clock made measured ∧
      node.clock.used = false)
    (fun node step ⟨made, measured, state, idle⟩ => SlotStep.lockstep conf step state idle)
    steps initial
    ⟨[], [], Lockstep.refl conf settled noDrift, settled⟩
  obtain ⟨made, measured, state, idle⟩ := lockstep
  have applied := state.applied
  simp only [ClockView.pending, idle, Bool.false_eq_true, if_false, List.append_nil] at applied
  refine ⟨made, measured, state.ledger, state.corrections, state.asn, ?_, applied⟩
  have total := state.slotStart.sub_right (initial.slot.currentSlotStart.toNat : Int)
  refine total.trans ?_
  apply congrArg fun value : Int => value % 2 ^ 32
  rw [applied]
  simp only [Node.clock]
  ring

def withTimeSource : MainThread :=
  let node := tschScheduleCreateMinimal cc1200Conf
    (tschQueueAddNbr cc1200Conf (Vector.replicate 8 2) (Node.boot cc1200Conf)).2
  let node := node.writeNeighbor 0 fun nbr => { nbr with isTimeSource := true }
  ⟨node.lock, node.sched, node.queue, node.phy,
    { tschIsAssociated := true, tschIsCoordinator := true }, some 0⟩

/-- The time source is heard, which gives a correction and a burst; the wake-up behind the burst
comes too late and a slot is skipped. -/
theorem slotClock_lockstep_boot :
    let final := Run.final (SlotStep.apply cc1200Conf) (Node.boot cc1200Conf)
      [.start ⟨0, true⟩ [], .mainThread withTimeSource,
        .slot { (default : SlotInput) with
          rx := ⟨true, true, true, true, true, true, 3, true, Vector.replicate 8 2, 5, false⟩ },
        .slot { (default : SlotInput) with attempt := ⟨100000, true⟩, retries := [⟨0, true⟩] }]
    (∃ made : List Advance, ∃ measured : List Int32, final.slot.ledger = [] ++ made ∧
      made.filterMap Advance.correction = measured) ∧
      final.slot.ledger = [⟨1, none, 0⟩, ⟨1, some (-5), 0⟩, ⟨5, none, 0⟩, ⟨7, none, 0⟩] := by
  intro final
  obtain ⟨made, measured, ledger, _, _, _, applied⟩ := slotClock_lockstep cc1200Conf
    (Node.boot cc1200Conf) _ rfl rfl (rfl : final = _)
  exact ⟨⟨made, measured, ledger, applied⟩, by decide +kernel⟩

end MultiPhyTsch
