import Mathlib.Algebra.BigOperators.Group.List.Basic
import MultiPhyTsch.Lib.Run
import MultiPhyTsch.Lib.SlidingWindow
import MultiPhyTsch.Tsch.AdaptiveTimesync
import MultiPhyTsch.Tsch.Asn

/-! The slots that `tsch_timesync_update` counts between two learning steps. The slots since the
last correction are a difference of ASNs that its argument cuts to 16 bits. -/

namespace MultiPhyTsch

open SlidingWindow

variable (conf : TschConf) (n : Nat)

/-- Corrections of one time source, `n`, between which slots pass and the learned drift is
compensated. `sinceSync` and `sinceLearning` are the slots that passed since the last correction
and since the last learning step, and `window` the quotients of the last steps, oldest first. -/
structure SyncState where
  asn : TschAsn
  lastSyncAsn : TschAsn
  timesync : Timesync
  sinceSync : Nat
  sinceLearning : Nat
  window : List Int

inductive SyncStep where
  | advance (slots : UInt32)
  | compensate (timeDeltaTicks : UInt32)
  | correction (driftCorrection : Int32)

namespace SyncState

variable (state : SyncState)

def timeDeltaAsn : UInt16 := (tschAsnDiff state.asn state.lastSyncAsn).toUInt16

def known : Bool :=
  conf.adaptiveTimesync && state.timesync.lastTimesourceNeighbor == some n

def elapsed : UInt32 :=
  state.timesync.asnSinceLastLearning + state.timeDeltaAsn.toUInt32

def learns : Bool :=
  state.known conf n && state.elapsed ≥ 4 * conf.slotsPerSecond

/-- The drift of the interval that ends with the correction, in units of `TSCH_DRIFT_UNIT`. -/
def quotient (driftCorrection : Int32) : Int :=
  ((driftCorrection.toInt + state.timesync.compensatedTicks.toInt) * 256000000).tdiv
    (state.sinceLearning * conf.timeslotLength.toNat)

def correct (driftCorrection : Int32) : SyncState :=
  let timesync := tschTimesyncUpdate conf (some n) state.timeDeltaAsn driftCorrection state.timesync
  let synced := { state with timesync := timesync, lastSyncAsn := state.asn, sinceSync := 0 }
  if state.learns conf n then
    { synced with
      sinceLearning := 0
      window := push 8 state.window (state.quotient conf driftCorrection) }
  else if state.known conf n then synced
  else { synced with sinceLearning := 0, window := [] }

def step : SyncStep → SyncState
  | .advance slots => { state with
      asn := tschAsnInc state.asn slots
      sinceSync := state.sinceSync + slots.toNat
      sinceLearning := state.sinceLearning + slots.toNat }
  | .compensate timeDeltaTicks => { state with
      timesync := (tschTimesyncAdaptiveCompensate conf timeDeltaTicks state.timesync).2 }
  | .correction driftCorrection => state.correct conf n driftCorrection

def start (asn lastSyncAsn : TschAsn) (timesync : Timesync) : SyncState :=
  ⟨asn, lastSyncAsn, timesync, 0, 0, []⟩

structure LearnsExactly (state : SyncState) (driftCorrection : Int32) : Prop where
  divisor : (state.elapsed * conf.timeslotLength).toInt32 ≠ 0
  entries : (state.correct conf n driftCorrection).timesync.timesyncEntryCount ≠ 0
  average : (state.correct conf n driftCorrection).timesync.driftPpm.toInt =
    (state.correct conf n driftCorrection).window.sum.tdiv
      (state.correct conf n driftCorrection).window.length

def Accounted (state : SyncState) : SyncStep → Prop
  | .correction driftCorrection =>
    (state.known conf n → state.elapsed.toNat = state.sinceLearning) ∧
      (state.learns conf n → state.LearnsExactly conf n driftCorrection)
  | _ => True

def FitsInt32 (value : Int) : Prop := -2 ^ 31 ≤ value ∧ value < 2 ^ 31

structure Fits (state : SyncState) (driftCorrection : Int32) : Prop where
  ticks : FitsInt32 (driftCorrection.toInt + state.timesync.compensatedTicks.toInt)
  quotient : FitsInt32 (state.quotient conf driftCorrection)
  total : FitsInt32 (push 8 state.window (state.quotient conf driftCorrection)).sum

def Spaced (state : SyncState) : SyncStep → Prop
  | .correction driftCorrection =>
    (state.known conf n → state.sinceSync < 65536) ∧
      (state.learns conf n → state.Fits conf driftCorrection)
  | _ => True

end SyncState

structure TimingFits : Prop where
  slots : 0 < conf.slotsPerSecond.toNat
  length : 0 < conf.timeslotLength.toNat
  ticks : (4 * conf.slotsPerSecond.toNat + 65535) * conf.timeslotLength.toNat < 2 ^ 31

theorem int32_foldl_add (values : List Int32) : ∀ start : Int32,
    (values.foldl (· + ·) start).toInt = (start.toInt + (values.map Int32.toInt).sum).bmod (2 ^ 32) := by
  induction values with
  | nil =>
    intro start
    simp
  | cons value rest ih =>
    intro start
    rw [List.foldl_cons, ih, Int32.toInt_add, List.map_cons, List.sum_cons, Int.bmod_add_bmod,
      Int.add_assoc]

theorem bmod_of_fits {value : Int} (fits : SyncState.FitsInt32 value) : value.bmod (2 ^ 32) = value :=
  int32_bmod fits.1 fits.2

theorem uint32_toInt32 {value : UInt32} (small : value.toNat < 2 ^ 31) :
    value.toInt32.toInt = value.toNat := by
  have bits : value.toInt32.toInt = value.toBitVec.toInt := rfl
  have same : value.toBitVec.toNat = value.toNat := rfl
  rw [bits, BitVec.toInt_eq_toNat_of_lt (by omega), same]

theorem lastDriftPpm_toInt {real ticks : Int32}
    (fits : SyncState.FitsInt32 ((real.toInt * 256000000).tdiv ticks.toInt)) :
    (real.toInt64 * tschDriftUnit.toInt64 / ticks.toInt64).toInt32.toInt =
      (real.toInt * 256000000).tdiv ticks.toInt := by
  have low := real.le_toInt
  have high := real.toInt_lt
  have unit : tschDriftUnit.toInt64.toInt = 256000000 := by decide
  have product : (real.toInt64 * tschDriftUnit.toInt64).toInt = real.toInt * 256000000 := by
    rw [Int64.toInt_mul, Int32.toInt_toInt64, unit]
    apply Int.bmod_eq_of_le <;> omega
  have bounded := Int.natAbs_tdiv_le_natAbs (real.toInt * 256000000) ticks.toInt
  have divided : (real.toInt64 * tschDriftUnit.toInt64 / ticks.toInt64).toInt =
      (real.toInt * 256000000).tdiv ticks.toInt := by
    rw [Int64.toInt_div, product, Int32.toInt_toInt64]
    apply Int.bmod_eq_of_le <;> omega
  rw [Int64.toInt_toInt32, divided, bmod_of_fits fits]

def Timesync.nextPos (timesync : Timesync) : Nat :=
  if timesync.timesyncEntryCount = 0 then 0 else timesync.pos

structure WindowHeld (timesync : Timesync) (window : List Int) : Prop where
  ready : Ready timesync.buffer.toList timesync.timesyncEntryCount timesync.nextPos
  values : (held timesync.buffer.toList timesync.timesyncEntryCount timesync.nextPos).map
    Int32.toInt = window

variable {timesync : Timesync}

theorem windowHeld_empty (empty : timesync.timesyncEntryCount = 0) : WindowHeld timesync [] := by
  have first : timesync.nextPos = 0 := if_pos empty
  have size : timesync.buffer.toList.length = 8 := timesync.buffer.length_toList
  refine ⟨?_, ?_⟩
  · rw [first, empty]
    exact ⟨by omega, by omega, fun _ => rfl⟩
  · rw [first, empty]
    rfl

theorem WindowHeld.entryAdd {window : List Int}
    (windowHeld : WindowHeld timesync window) (value : Int32) :
    WindowHeld (timesyncEntryAdd value timesync).2 (push 8 window value.toInt) ∧
      (timesyncEntryAdd value timesync).2.timesyncEntryCount ≠ 0 := by
  have size : timesync.buffer.toList.length = 8 := timesync.buffer.length_toList
  have written := write_ready windowHeld.ready value
  have pushed := held_write windowHeld.ready value
  rw [size] at written pushed
  have count : (timesyncEntryAdd value timesync).2.timesyncEntryCount =
      if timesync.timesyncEntryCount < 8 then timesync.timesyncEntryCount + 1
      else timesync.timesyncEntryCount := rfl
  have buffer : (timesyncEntryAdd value timesync).2.buffer.toList =
      timesync.buffer.toList.set timesync.nextPos value := Vector.toList_setIfInBounds
  have some : (timesyncEntryAdd value timesync).2.timesyncEntryCount ≠ 0 := by
    rw [count]
    split <;> omega
  have pos : (timesyncEntryAdd value timesync).2.nextPos = (timesync.nextPos + 1) % 8 := if_neg some
  refine ⟨⟨?_, ?_⟩, some⟩
  · rw [count, buffer, pos]
    exact written
  · rw [count, buffer, pos, pushed, push_map, windowHeld.values]

theorem WindowHeld.average {window : List Int}
    (windowHeld : WindowHeld timesync window) {value : Int32}
    (fits : SyncState.FitsInt32 (push 8 window value.toInt).sum) :
    (timesyncEntryAdd value timesync).1.toInt =
      (push 8 window value.toInt).sum.tdiv (push 8 window value.toInt).length := by
  have form : (timesyncEntryAdd value timesync).1 =
      ((timesyncEntryAdd value timesync).2.buffer.toList.take
        (timesyncEntryAdd value timesync).2.timesyncEntryCount).foldl (· + ·) 0 /
      Int32.ofNat (timesyncEntryAdd value timesync).2.timesyncEntryCount := rfl
  obtain ⟨next, some⟩ := windowHeld.entryAdd value
  rw [form]
  generalize (timesyncEntryAdd value timesync).2 = after at next some
  generalize push 8 window value.toInt = values at next fits
  have least := next.ready.count_le
  rw [Vector.length_toList] at least
  have length : values.length = after.timesyncEntryCount := by
    rw [← next.values, List.length_map, held_length next.ready]
  have total : ((after.buffer.toList.take after.timesyncEntryCount).foldl (· + ·) 0).toInt =
      values.sum := by
    have perm := (held_perm after.buffer.toList after.timesyncEntryCount after.nextPos).map
      Int32.toInt
    rw [next.values] at perm
    have zero : Int32.toInt 0 = 0 := rfl
    rw [int32_foldl_add, ← perm.sum_eq, zero, Int.zero_add, bmod_of_fits fits]
  have count : (Int32.ofNat after.timesyncEntryCount).toInt = after.timesyncEntryCount :=
    Int32.toInt_ofNat_of_lt (by omega)
  have bounded := Int.natAbs_tdiv_le_natAbs values.sum (after.timesyncEntryCount : Int)
  obtain ⟨low, high⟩ := fits
  rw [Int32.toInt_div, total, count, length]
  apply Int.bmod_eq_of_le
  · omega
  · have positive : 0 < (after.timesyncEntryCount : Int) := by omega
    by_cases negative : values.sum < 0
    · have below := Int.tdiv_nonneg (by omega : 0 ≤ -values.sum) (Int.le_of_lt positive)
      rw [Int.neg_tdiv] at below
      omega
    · have small := Int.tdiv_le_self (after.timesyncEntryCount : Int) (Int.not_lt.mp negative)
      omega

namespace SyncState

variable {conf n}

structure Linked (conf : TschConf) (state : SyncState) : Prop where
  sync : tschAsnDiff state.asn state.lastSyncAsn = UInt32.ofNat state.sinceSync
  counted : state.timesync.asnSinceLastLearning.toNat + state.sinceSync = state.sinceLearning
  short : state.timesync.asnSinceLastLearning.toNat < 4 * conf.slotsPerSecond.toNat
  window : WindowHeld state.timesync state.window

def Inv (conf : TschConf) (n : Nat) (state : SyncState) : Prop :=
  state.known conf n = true → state.Linked conf

variable {state : SyncState}

section

variable (timing : TimingFits conf) (linked : state.Linked conf) (near : state.sinceSync < 65536)
include timing linked near

theorem elapsed_toNat : state.elapsed.toNat = state.sinceLearning := by
  have bound : 4 * conf.slotsPerSecond.toNat + 65535 < 2 ^ 31 :=
    Nat.lt_of_le_of_lt (Nat.le_mul_of_pos_right _ timing.length) timing.ticks
  have delta : state.timeDeltaAsn.toUInt32.toNat = state.sinceSync := by
    rw [timeDeltaAsn, linked.sync, UInt16.toNat_toUInt32, UInt32.toNat_toUInt16, UInt32.toNat_ofNat']
    omega
  have short := linked.short
  rw [elapsed, UInt32.toNat_add, delta, ← linked.counted]
  omega

theorem learns_iff (known : state.known conf n = true) :
    state.learns conf n = true ↔ 4 * conf.slotsPerSecond.toNat ≤ state.sinceLearning := by
  have bound : 4 * conf.slotsPerSecond.toNat + 65535 < 2 ^ 31 :=
    Nat.lt_of_le_of_lt (Nat.le_mul_of_pos_right _ timing.length) timing.ticks
  have limit : (4 * conf.slotsPerSecond).toNat = 4 * conf.slotsPerSecond.toNat := by
    have four : UInt32.toNat 4 = 4 := rfl
    rw [UInt32.toNat_mul, four]
    omega
  simp only [learns, known, Bool.true_and, decide_eq_true_eq, ge_iff_le, UInt32.le_iff_toNat_le,
    limit, elapsed_toNat timing linked near]

theorem ticks_toInt : (state.elapsed * conf.timeslotLength).toInt32.toInt =
      state.sinceLearning * conf.timeslotLength.toNat := by
  have short := linked.short
  have counted := linked.counted
  have least : state.sinceLearning ≤ 4 * conf.slotsPerSecond.toNat + 65535 := by omega
  have product : state.sinceLearning * conf.timeslotLength.toNat < 2 ^ 31 :=
    Nat.lt_of_le_of_lt (Nat.mul_le_mul_right _ least) timing.ticks
  have value : (state.elapsed * conf.timeslotLength).toNat =
      state.sinceLearning * conf.timeslotLength.toNat := by
    rw [UInt32.toNat_mul, elapsed_toNat timing linked near]
    exact Nat.mod_eq_of_lt (by omega)
  rw [uint32_toInt32 (by omega), value]
  push_cast
  rfl

end

variable {driftCorrection : Int32}

theorem lastDriftPpm_quotient (timing : TimingFits conf)
    (linked : state.Linked conf) (near : state.sinceSync < 65536)
    (fits : state.Fits conf driftCorrection) :
    ((driftCorrection + state.timesync.compensatedTicks).toInt64 * tschDriftUnit.toInt64 /
        (state.elapsed * conf.timeslotLength).toInt32.toInt64).toInt32.toInt =
      state.quotient conf driftCorrection := by
  have ticks := ticks_toInt timing linked near
  have real : (driftCorrection + state.timesync.compensatedTicks).toInt =
      driftCorrection.toInt + state.timesync.compensatedTicks.toInt := by
    rw [Int32.toInt_add, bmod_of_fits fits.ticks]
  have same : ((driftCorrection + state.timesync.compensatedTicks).toInt * 256000000).tdiv
      (state.elapsed * conf.timeslotLength).toInt32.toInt = state.quotient conf driftCorrection := by
    rw [real, ticks]
    rfl
  rw [lastDriftPpm_toInt (same ▸ fits.quotient), same]

theorem known_iff : state.known conf n = true ↔
    conf.adaptiveTimesync = true ∧ state.timesync.lastTimesourceNeighbor = some n := by
  simp [known]

theorem learns_known (learning : state.learns conf n = true) :
    state.known conf n = true := (Bool.and_eq_true_iff.mp learning).1

theorem update_learned (learning : state.learns conf n = true) (driftCorrection : Int32) :
    tschTimesyncUpdate conf (some n) state.timeDeltaAsn driftCorrection state.timesync =
      { timesyncLearnDriftTicks conf state.elapsed driftCorrection state.timesync with
        compensatedTicks := 0
        asnSinceLastLearning := 0 } := by
  obtain ⟨adaptive, same⟩ := known_iff.mp (learns_known learning)
  have reached : state.elapsed ≥ 4 * conf.slotsPerSecond :=
    of_decide_eq_true (Bool.and_eq_true_iff.mp learning).2
  rw [tschTimesyncUpdate, if_pos adaptive, if_neg (not_not.mpr same)]
  exact if_pos reached

theorem update_added (known : state.known conf n = true)
    (early : ¬ state.learns conf n = true) (driftCorrection : Int32) :
    tschTimesyncUpdate conf (some n) state.timeDeltaAsn driftCorrection state.timesync =
      { state.timesync with
        asnSinceLastLearning := state.elapsed
        compensatedTicks := state.timesync.compensatedTicks + driftCorrection } := by
  obtain ⟨adaptive, same⟩ := known_iff.mp known
  have below : ¬ state.elapsed ≥ 4 * conf.slotsPerSecond := by
    intro reached
    exact early (Bool.and_eq_true_iff.mpr ⟨known, decide_eq_true reached⟩)
  rw [tschTimesyncUpdate, if_pos adaptive, if_neg (not_not.mpr same)]
  exact if_neg below

theorem update_renewed (adaptive : conf.adaptiveTimesync = true)
    (unknown : ¬ state.known conf n = true) (driftCorrection : Int32) :
    tschTimesyncUpdate conf (some n) state.timeDeltaAsn driftCorrection state.timesync =
      { state.timesync with
        lastTimesourceNeighbor := some n
        driftPpm := 0
        timesyncEntryCount := 0
        compensatedTicks := 0
        asnSinceLastLearning := 0 } := by
  have other : state.timesync.lastTimesourceNeighbor ≠ some n := by
    intro same
    exact unknown (known_iff.mpr ⟨adaptive, same⟩)
  rw [tschTimesyncUpdate, if_pos adaptive, if_pos other]

theorem learnDriftTicks_spec (timing : TimingFits conf)
    (linked : state.Linked conf) (near : state.sinceSync < 65536)
    (fits : state.Fits conf driftCorrection) :
    let learned := timesyncLearnDriftTicks conf state.elapsed driftCorrection state.timesync
    let window := push 8 state.window (state.quotient conf driftCorrection)
    WindowHeld learned window ∧ learned.timesyncEntryCount ≠ 0 ∧
      learned.driftPpm.toInt = window.sum.tdiv window.length := by
  intro learned window
  have value := lastDriftPpm_quotient timing linked near fits
  obtain ⟨written, some⟩ := linked.window.entryAdd
    ((driftCorrection + state.timesync.compensatedTicks).toInt64 * tschDriftUnit.toInt64 /
      (state.elapsed * conf.timeslotLength).toInt32.toInt64).toInt32
  have average := linked.window.average (value.symm ▸ fits.total)
  rw [value] at written average
  exact ⟨⟨written.ready, written.values⟩, some, average⟩

theorem Inv.advance (inv : state.Inv conf n) (slots : UInt32) :
    (state.step conf n (.advance slots)).Inv conf n := by
  intro known
  obtain ⟨sync, counted, short, window⟩ := inv known
  refine ⟨?_, ?_, short, window⟩
  · simp only [step, tschAsnDiff, tschAsnInc] at sync ⊢
    rw [UInt32.ofNat_add, UInt32.ofNat_toNat, ← sync]
    grind
  · simp only [step]
    omega

theorem Inv.compensate (inv : state.Inv conf n) (timeDeltaTicks : UInt32) :
    (state.step conf n (.compensate timeDeltaTicks)).Inv conf n := by
  obtain ⟨source, asn, buffer, pos, count, -⟩ := compensate_frame conf timeDeltaTicks state.timesync
  intro known
  have before : state.known conf n = true := by
    rw [known_iff] at known ⊢
    exact ⟨known.1, source.symm.trans known.2⟩
  obtain ⟨sync, counted, short, window⟩ := inv before
  refine ⟨sync, ?_, ?_, ?_⟩
  · simp only [step, asn]
    exact counted
  · simp only [step, asn]
    exact short
  · have next : (tschTimesyncAdaptiveCompensate conf timeDeltaTicks state.timesync).2.nextPos =
        state.timesync.nextPos := by
      simp only [Timesync.nextPos, pos, count]
    constructor
    · simp only [step, next, buffer, count]
      exact window.ready
    · simp only [step, next, buffer, count]
      exact window.values

theorem correct_learned (timing : TimingFits conf)
    (linked : state.Linked conf) (near : state.sinceSync < 65536)
    (fits : state.Fits conf driftCorrection) (learning : state.learns conf n = true) :
    (state.correct conf n driftCorrection).Linked conf ∧
      state.LearnsExactly conf n driftCorrection := by
  obtain ⟨windowHeld, some, average⟩ := learnDriftTicks_spec timing linked near fits
  have reached := (learns_iff timing linked near (learns_known learning)).mp learning
  have slots := timing.slots
  have positive : 0 < state.sinceLearning * conf.timeslotLength.toNat :=
    Nat.mul_pos (by omega) timing.length
  have next : state.correct conf n driftCorrection =
      { asn := state.asn
        lastSyncAsn := state.asn
        timesync :=
          { timesyncLearnDriftTicks conf state.elapsed driftCorrection state.timesync with
            compensatedTicks := 0
            asnSinceLastLearning := 0 }
        sinceSync := 0
        sinceLearning := 0
        window := push 8 state.window (state.quotient conf driftCorrection) } := by
    simp only [correct, if_pos learning, update_learned learning]
  constructor
  · rw [next]
    refine ⟨?_, rfl, ?_, windowHeld.ready, windowHeld.values⟩
    · exact UInt32.sub_self _
    · have zero : (0 : UInt32).toNat = 0 := rfl
      rw [zero]
      omega
  · refine ⟨?_, ?_, ?_⟩
    · intro divisor
      have ticks := ticks_toInt timing linked near
      have zero : (0 : Int32).toInt = 0 := rfl
      rw [divisor, zero] at ticks
      omega
    · rw [next]
      exact some
    · rw [next]
      exact average

theorem correct_added (timing : TimingFits conf) (linked : state.Linked conf)
    (near : state.sinceSync < 65536) (known : state.known conf n = true)
    (early : ¬ state.learns conf n = true) (driftCorrection : Int32) :
    (state.correct conf n driftCorrection).Linked conf := by
  have below := mt (learns_iff timing linked near known).mpr early
  have exact := elapsed_toNat timing linked near
  have next : state.correct conf n driftCorrection =
      { state with
        lastSyncAsn := state.asn
        timesync := { state.timesync with
          asnSinceLastLearning := state.elapsed
          compensatedTicks := state.timesync.compensatedTicks + driftCorrection }
        sinceSync := 0 } := by
    simp only [correct, if_neg early, if_pos known, update_added known early]
  rw [next]
  refine ⟨UInt32.sub_self _, ?_, ?_, linked.window.ready, linked.window.values⟩
  · exact exact
  · dsimp only
    omega

theorem correct_renewed (timing : TimingFits conf)
    (unknown : ¬ state.known conf n = true) (driftCorrection : Int32) :
    (state.correct conf n driftCorrection).Inv conf n := by
  have notLearning : ¬ state.learns conf n = true := fun learning => unknown (learns_known learning)
  intro known
  have adaptive := (known_iff.mp known).1
  have next : state.correct conf n driftCorrection =
      { asn := state.asn
        lastSyncAsn := state.asn
        timesync := { state.timesync with
          lastTimesourceNeighbor := some n
          driftPpm := 0
          timesyncEntryCount := 0
          compensatedTicks := 0
          asnSinceLastLearning := 0 }
        sinceSync := 0
        sinceLearning := 0
        window := [] } := by
    simp only [correct, if_neg notLearning, if_neg unknown, update_renewed adaptive unknown]
  rw [next]
  have slots := timing.slots
  refine ⟨UInt32.sub_self _, rfl, ?_, windowHeld_empty rfl⟩
  have zero : (0 : UInt32).toNat = 0 := rfl
  rw [zero]
  omega

theorem Inv.step (timing : TimingFits conf) {label : SyncStep}
    (inv : state.Inv conf n) (spaced : state.Spaced conf n label) :
    (state.step conf n label).Inv conf n ∧ state.Accounted conf n label := by
  cases label with
  | advance slots => exact ⟨inv.advance slots, trivial⟩
  | compensate timeDeltaTicks => exact ⟨inv.compensate timeDeltaTicks, trivial⟩
  | correction driftCorrection =>
    by_cases known : state.known conf n = true
    · have linked := inv known
      have near := spaced.1 known
      have exact : state.elapsed.toNat = state.sinceLearning := elapsed_toNat timing linked near
      by_cases learning : state.learns conf n = true
      · obtain ⟨next, learnsExactly⟩ :=
          correct_learned timing linked near (spaced.2 learning) learning
        exact ⟨fun _ => next, fun _ => exact, fun _ => learnsExactly⟩
      · have next := correct_added timing linked near known learning driftCorrection
        exact ⟨fun _ => next, fun _ => exact, fun learns => absurd learns learning⟩
    · refine ⟨correct_renewed timing known driftCorrection, fun knows => absurd knows known, ?_⟩
      exact fun learning => absurd (learns_known learning) known

end SyncState

theorem spaced_run_accounted (timing : TimingFits conf) (asn lastSyncAsn : TschAsn)
    {timesync : Timesync} (other : timesync.lastTimesourceNeighbor ≠ some n) (steps : List SyncStep)
    (spaced : Run.Meets (SyncState.step conf n) (SyncState.Spaced conf n)
      (SyncState.start asn lastSyncAsn timesync) steps) :
    Run.Meets (SyncState.step conf n) (SyncState.Accounted conf n)
      (SyncState.start asn lastSyncAsn timesync) steps := by
  have initial : (SyncState.start asn lastSyncAsn timesync).Inv conf n := by
    intro known
    exact absurd (SyncState.known_iff.mp known).2 other
  exact Run.meets_of_meets (SyncState.Inv conf n)
    (fun _ _ inv allowed => (inv.step timing allowed).1)
    (fun _ _ inv allowed => (inv.step timing allowed).2) steps _ initial spaced

instance (value : Int) : Decidable (SyncState.FitsInt32 value) :=
  inferInstanceAs (Decidable (_ ∧ _))

namespace SyncState

variable {conf n}

theorem fits_iff {state : SyncState} {driftCorrection : Int32} :
    state.Fits conf driftCorrection ↔
      FitsInt32 (driftCorrection.toInt + state.timesync.compensatedTicks.toInt) ∧
      FitsInt32 (state.quotient conf driftCorrection) ∧
      FitsInt32 (push 8 state.window (state.quotient conf driftCorrection)).sum := by
  constructor
  · rintro ⟨ticks, quotient, total⟩
    exact ⟨ticks, quotient, total⟩
  · rintro ⟨ticks, quotient, total⟩
    exact ⟨ticks, quotient, total⟩

instance (state : SyncState) (driftCorrection : Int32) :
    Decidable (state.Fits conf driftCorrection) :=
  decidable_of_iff _ fits_iff.symm

instance (state : SyncState) (label : SyncStep) : Decidable (state.Spaced conf n label) := by
  cases label with
  | correction driftCorrection => exact inferInstanceAs (Decidable (_ ∧ _))
  | _ => exact .isTrue trivial

end SyncState

theorem spaced_run_accounted_twice :
    Run.Meets (SyncState.step cc1200Conf 3) (SyncState.Accounted cc1200Conf 3)
      (SyncState.start ⟨100, 0⟩ ⟨100, 0⟩ {})
      [.correction 0, .advance 500, .correction 3, .compensate 9000, .advance 30, .correction 2,
        .advance 65535, .correction (-1)] := by
  apply spaced_run_accounted cc1200Conf 3 ⟨by decide, by decide, by decide⟩ ⟨100, 0⟩ ⟨100, 0⟩
    (by decide)
  decide

theorem long_silence_uncounted :
    ¬ Run.Meets (SyncState.step cc1200Conf 3) (SyncState.Accounted cc1200Conf 3)
      (SyncState.start ⟨100, 0⟩ ⟨100, 0⟩ {}) [.correction 0, .advance 70000, .correction 40] := by
  intro accounted
  have counted := accounted.2.2.1.1 (by decide)
  exact absurd counted (by decide)

end MultiPhyTsch
