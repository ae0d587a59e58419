import Mathlib.Tactic.Linarith
import MultiPhyTsch.Lib.Run
import MultiPhyTsch.Tsch.AdaptiveTimesync

/-! What `compensate_internal` carries from call to call. The drift that is left over is below one
microsecond and the conversion error below one tick, as long as the microseconds of a call fit the
product of the tick conversion. -/

namespace MultiPhyTsch

variable (driftPpm : Int32)

variable (timeDeltaUsec : UInt32)

variable (carry : Carry)

def driftUnits : Int64 :=
  timeDeltaUsec.toUInt64.toInt64 * driftPpm.toInt64 + carry.remainder.toInt64

def amountUsec : Int32 :=
  (driftUnits driftPpm timeDeltaUsec carry / tschDriftUnit.toInt64).toInt32

def amountTicks : Int32 :=
  usToRtimerticks (amountUsec driftPpm timeDeltaUsec carry + carry.tickConversionError.toInt32)

def Clamps : Prop :=
  let ticks := amountTicks driftPpm timeDeltaUsec carry
  (if ticks < 0 then -ticks else ticks) > rtimerArchSecond / 128

variable {timeDeltaUsec : UInt32} {carry : Carry}

theorem compensateInternal_fst (unclamped : ¬ Clamps driftPpm timeDeltaUsec carry) :
    (compensateInternal timeDeltaUsec driftPpm carry).1 =
      amountTicks driftPpm timeDeltaUsec carry := by
  unfold Clamps amountTicks amountUsec driftUnits at unclamped
  unfold compensateInternal amountTicks amountUsec driftUnits
  dsimp only at unclamped ⊢
  rw [if_neg unclamped]

theorem compensateInternal_remainder (timeDeltaUsec : UInt32) (carry : Carry) :
    (compensateInternal timeDeltaUsec driftPpm carry).2.remainder =
      (driftUnits driftPpm timeDeltaUsec carry -
        (amountUsec driftPpm timeDeltaUsec carry * tschDriftUnit).toInt64).toInt32 := rfl

theorem compensateInternal_error (timeDeltaUsec : UInt32) (carry : Carry) :
    (compensateInternal timeDeltaUsec driftPpm carry).2.tickConversionError =
      (amountUsec driftPpm timeDeltaUsec carry + carry.tickConversionError.toInt32 -
        rtimerticksToUs (amountTicks driftPpm timeDeltaUsec carry)).toInt16 := rfl

structure Carry.Small (carry : Carry) : Prop where
  remainder : carry.remainder.toInt.natAbs < 256000000
  tickConversionError : carry.tickConversionError.toInt.natAbs * 32768 ≤ 1000000

theorem tdiv_nonneg_bounds {value divisor : Int} (nonneg : 0 ≤ value) (positive : 0 < divisor) :
    divisor * value.tdiv divisor ≤ value ∧ value < divisor * value.tdiv divisor + divisor := by
  have split := Int.mul_tdiv_add_tmod value divisor
  have rest := Int.tmod_nonneg divisor nonneg
  have small := Int.tmod_lt_of_pos value positive
  omega

theorem tdiv_nonpos_bounds {value divisor : Int} (nonpos : value ≤ 0) (positive : 0 < divisor) :
    value ≤ divisor * value.tdiv divisor ∧ divisor * value.tdiv divisor - divisor < value := by
  obtain ⟨low, high⟩ := tdiv_nonneg_bounds (by omega : 0 ≤ -value) positive
  rw [Int.neg_tdiv, Int.mul_neg] at low high
  omega

/-! The tick conversions, to the nearest tick and to the nearest microsecond. -/

/-- Half the divisor is added away from zero before the division. -/
theorem toInt_div_nearest {value scale half divisor : Int32}
    (even : divisor.toInt = 2 * half.toInt) (positive : 0 < half.toInt) (scaled : 0 < scale.toInt)
    (fits : (value.toInt * scale.toInt).natAbs + half.toInt < 2 ^ 31) :
    (value.toInt * scale.toInt - (if 0 ≤ value then (value * scale + half) / divisor
      else (value * scale - half) / divisor).toInt * divisor.toInt).natAbs ≤ half.toInt.natAbs := by
  have product : (value * scale).toInt = value.toInt * scale.toInt := by
    rw [Int32.toInt_mul, int32_bmod (by omega) (by omega)]
  have quotient : ∀ sum : Int32, sum.toInt.natAbs < 2 ^ 31 →
      (sum / divisor).toInt = sum.toInt.tdiv divisor.toInt := by
    intro sum small
    have smaller := Int.natAbs_tdiv_le_natAbs sum.toInt divisor.toInt
    rw [Int32.toInt_div, int32_bmod (by omega) (by omega)]
  split
  next nonneg =>
    have least := Int.mul_nonneg (Int32.le_iff_toInt_le.mp nonneg) (Int.le_of_lt scaled)
    have sum : (value * scale + half).toInt = value.toInt * scale.toInt + half.toInt := by
      rw [Int32.toInt_add, product, int32_bmod (by omega) (by omega)]
    have bounds := tdiv_nonneg_bounds (by omega : 0 ≤ value.toInt * scale.toInt + half.toInt)
      (by omega : 0 < divisor.toInt)
    rw [quotient _ (by omega), sum, Int.mul_comm _ divisor.toInt]
    omega
  next negative =>
    have below : value.toInt ≤ 0 := Int.le_of_lt (Int32.lt_iff_toInt_lt.mp (Int32.not_le.mp negative))
    have most := Int.mul_nonpos_of_nonpos_of_nonneg below (Int.le_of_lt scaled)
    have sum : (value * scale - half).toInt = value.toInt * scale.toInt - half.toInt := by
      rw [Int32.toInt_sub, product, int32_bmod (by omega) (by omega)]
    have bounds := tdiv_nonpos_bounds (by omega : value.toInt * scale.toInt - half.toInt ≤ 0)
      (by omega : 0 < divisor.toInt)
    rw [quotient _ (by omega), sum, Int.mul_comm _ divisor.toInt]
    omega

theorem usToRtimerticks_toInt {us : Int32} (fits : us.toInt.natAbs * 32768 + 500000 < 2 ^ 31) :
    (us.toInt * 32768 - (usToRtimerticks us).toInt * 1000000).natAbs ≤ 500000 :=
  @toInt_div_nearest us rtimerArchSecond 500000 1000000 (by decide) (by decide) (by decide) (by
    change ((us.toInt * 32768).natAbs : Int) + 500000 < 2 ^ 31
    omega)

theorem usToRtimerticks_bound (us : Int32) : (usToRtimerticks us).toInt.natAbs ≤ 2148 := by
  have million : (1000000 : Int32).toInt = 1000000 := by decide
  have quotient : ∀ value : Int32, (value / 1000000).toInt.natAbs ≤ 2148 := by
    intro value
    have low := value.le_toInt
    have high := value.toInt_lt
    rw [Int32.toInt_div, million]
    rcases Int.le_total 0 value.toInt with positive | negative
    · obtain ⟨least, most⟩ := tdiv_nonneg_bounds positive (by decide : (0 : Int) < 1000000)
      rw [int32_bmod (by omega) (by omega)]
      omega
    · obtain ⟨least, most⟩ := tdiv_nonpos_bounds negative (by decide : (0 : Int) < 1000000)
      rw [int32_bmod (by omega) (by omega)]
      omega
  unfold usToRtimerticks
  split
  · exact quotient _
  · exact quotient _

theorem rtimerticksToUs_toInt {ticks : Int32} (few : ticks.toInt.natAbs ≤ 256) :
    (ticks.toInt * 1000000 - (rtimerticksToUs ticks).toInt * 32768).natAbs ≤ 16384 :=
  @toInt_div_nearest ticks 1000000 (rtimerArchSecond / 2) rtimerArchSecond (by decide) (by decide)
    (by decide) (by
      change ((ticks.toInt * 1000000).natAbs : Int) + 16384 < 2 ^ 31
      omega)

theorem few_of_unclamped (unclamped : ¬ Clamps driftPpm timeDeltaUsec carry) :
    (amountTicks driftPpm timeDeltaUsec carry).toInt.natAbs ≤ 256 := by
  have limit : (rtimerArchSecond / 128).toInt = 256 := by decide
  have zero : (0 : Int32).toInt = 0 := by decide
  have bound : (amountTicks driftPpm timeDeltaUsec carry).toInt.natAbs ≤ 2148 :=
    usToRtimerticks_bound _
  unfold Clamps at unclamped
  dsimp only at unclamped
  generalize amountTicks driftPpm timeDeltaUsec carry = ticks at unclamped bound
  split at unclamped
  next negative =>
    rw [Int32.lt_iff_toInt_lt, zero] at negative
    rw [gt_iff_lt, Int32.lt_iff_toInt_lt, Int32.toInt_neg, limit, int32_bmod (by omega) (by omega)]
      at unclamped
    omega
  next nonneg =>
    rw [Int32.lt_iff_toInt_lt, zero] at nonneg
    rw [gt_iff_lt, Int32.lt_iff_toInt_lt, limit] at unclamped
    omega

def exactUnits (timeDeltaUsec : UInt32) (carry : Carry) : Int :=
  timeDeltaUsec.toNat * driftPpm.toInt + carry.remainder.toInt

theorem driftUnits_toInt (small : carry.Small) (timeDeltaUsec : UInt32) :
    (driftUnits driftPpm timeDeltaUsec carry).toInt = exactUnits driftPpm timeDeltaUsec carry ∧
      -2 ^ 63 ≤ exactUnits driftPpm timeDeltaUsec carry ∧
      exactUnits driftPpm timeDeltaUsec carry < 2 ^ 63 := by
  have remainder := small.remainder
  have time := timeDeltaUsec.toNat_lt
  have low := driftPpm.le_toInt
  have high := driftPpm.toInt_lt
  have elapsed : timeDeltaUsec.toUInt64.toInt64.toInt = timeDeltaUsec.toNat := by
    have bits : timeDeltaUsec.toUInt64.toInt64.toInt = timeDeltaUsec.toUInt64.toBitVec.toInt := rfl
    have same : timeDeltaUsec.toUInt64.toBitVec.toNat = timeDeltaUsec.toNat := by simp
    rw [bits, BitVec.toInt_eq_toNat_of_lt (by omega), same]
  have least : -((2 ^ 32 - 1) * 2 ^ 31 : Int) ≤ timeDeltaUsec.toNat * driftPpm.toInt := by nlinarith
  have most : (timeDeltaUsec.toNat * driftPpm.toInt : Int) ≤ (2 ^ 32 - 1) * 2 ^ 31 := by nlinarith
  have product : (timeDeltaUsec.toUInt64.toInt64 * driftPpm.toInt64).toInt =
      timeDeltaUsec.toNat * driftPpm.toInt := by
    rw [Int64.toInt_mul, elapsed, Int32.toInt_toInt64]
    apply Int.bmod_eq_of_le
    · omega
    · omega
  unfold driftUnits exactUnits
  refine ⟨?_, by omega, by omega⟩
  rw [Int64.toInt_add, product, Int32.toInt_toInt64]
  apply Int.bmod_eq_of_le
  · omega
  · omega

theorem amountUsec_toInt (small : carry.Small) (timeDeltaUsec : UInt32) :
    (amountUsec driftPpm timeDeltaUsec carry).toInt =
      ((exactUnits driftPpm timeDeltaUsec carry).tdiv 256000000).bmod (2 ^ 32) := by
  obtain ⟨value, low, high⟩ := driftUnits_toInt driftPpm small timeDeltaUsec
  have unit : tschDriftUnit.toInt64.toInt = 256000000 := by decide
  have bounded := Int.natAbs_tdiv_le_natAbs (exactUnits driftPpm timeDeltaUsec carry) 256000000
  have quotient : ((exactUnits driftPpm timeDeltaUsec carry).tdiv 256000000).bmod (2 ^ 64) =
      (exactUnits driftPpm timeDeltaUsec carry).tdiv 256000000 := by
    rcases Int.le_total 0 (exactUnits driftPpm timeDeltaUsec carry) with positive | negative
    · obtain ⟨least, most⟩ := tdiv_nonneg_bounds positive (by decide : (0 : Int) < 256000000)
      apply Int.bmod_eq_of_le
      · omega
      · omega
    · obtain ⟨least, most⟩ := tdiv_nonpos_bounds negative (by decide : (0 : Int) < 256000000)
      apply Int.bmod_eq_of_le
      · omega
      · omega
  rw [amountUsec, Int64.toInt_toInt32, Int64.toInt_div, value, unit, quotient]

theorem units_tmod (timeDeltaUsec : UInt32) (carry : Carry) :
    ((exactUnits driftPpm timeDeltaUsec carry).tmod 256000000).natAbs < 256000000 :=
  Int.natAbs_tmod _ _ ▸ Nat.mod_lt _ (by decide)

section

variable (small : carry.Small) (timeDeltaUsec : UInt32)
include small

theorem remainder_toInt :
    (compensateInternal timeDeltaUsec driftPpm carry).2.remainder.toInt =
      (exactUnits driftPpm timeDeltaUsec carry).tmod 256000000 := by
  obtain ⟨value, -, -⟩ := driftUnits_toInt driftPpm small timeDeltaUsec
  have unit : tschDriftUnit.toInt = 256000000 := by decide
  have split := Int.mul_tdiv_add_tmod (exactUnits driftPpm timeDeltaUsec carry) 256000000
  have small_tmod := units_tmod driftPpm timeDeltaUsec carry
  rw [compensateInternal_remainder, Int64.toInt_toInt32, Int64.toInt_sub, value, Int32.toInt_toInt64,
    Int32.toInt_mul, unit, amountUsec_toInt driftPpm small, Int.bmod_bmod_of_dvd (by decide),
    Int.sub_bmod_bmod, Int.sub_bmod, Int.bmod_mul_bmod, ← Int.sub_bmod]
  have left : exactUnits driftPpm timeDeltaUsec carry -
      (exactUnits driftPpm timeDeltaUsec carry).tdiv 256000000 * 256000000 =
        (exactUnits driftPpm timeDeltaUsec carry).tmod 256000000 := by omega
  rw [left, int32_bmod (by omega) (by omega)]

theorem remainder_small :
    (compensateInternal timeDeltaUsec driftPpm carry).2.remainder.toInt.natAbs < 256000000 := by
  have small_tmod := units_tmod driftPpm timeDeltaUsec carry
  rw [remainder_toInt driftPpm small]
  omega

theorem units_split :
    256000000 * (exactUnits driftPpm timeDeltaUsec carry).tdiv 256000000 +
        (compensateInternal timeDeltaUsec driftPpm carry).2.remainder.toInt =
      timeDeltaUsec.toNat * driftPpm.toInt + carry.remainder.toInt := by
  rw [remainder_toInt driftPpm small]
  exact Int.mul_tdiv_add_tmod _ _

end

def wantedUsec (timeDeltaUsec : UInt32) (carry : Carry) : Int :=
  (exactUnits driftPpm timeDeltaUsec carry).tdiv 256000000 + carry.tickConversionError.toInt

def ConversionFits (timeDeltaUsec : UInt32) (carry : Carry) : Prop :=
  (wantedUsec driftPpm timeDeltaUsec carry).natAbs * 32768 + 500000 < 2 ^ 31

instance (timeDeltaUsec : UInt32) (carry : Carry) :
    Decidable (ConversionFits driftPpm timeDeltaUsec carry) :=
  inferInstanceAs (Decidable (_ < _))

instance (timeDeltaUsec : UInt32) (carry : Carry) :
    Decidable (Clamps driftPpm timeDeltaUsec carry) :=
  inferInstanceAs (Decidable (_ > _))

theorem compensateInternal_fits (small : carry.Small)
    (unclamped : ¬ Clamps driftPpm timeDeltaUsec carry)
    (fits : ConversionFits driftPpm timeDeltaUsec carry) :
    (amountUsec driftPpm timeDeltaUsec carry).toInt =
        (exactUnits driftPpm timeDeltaUsec carry).tdiv 256000000 ∧
      (compensateInternal timeDeltaUsec driftPpm carry).2.tickConversionError.toInt =
        wantedUsec driftPpm timeDeltaUsec carry -
          (rtimerticksToUs (amountTicks driftPpm timeDeltaUsec carry)).toInt ∧
      (wantedUsec driftPpm timeDeltaUsec carry -
          (rtimerticksToUs (amountTicks driftPpm timeDeltaUsec carry)).toInt).natAbs ≤ 15 := by
  have error := small.tickConversionError
  have few := few_of_unclamped driftPpm unclamped
  have value := amountUsec_toInt driftPpm small timeDeltaUsec
  have fits : (wantedUsec driftPpm timeDeltaUsec carry).natAbs * 32768 + 500000 < 2 ^ 31 := fits
  have wanted : wantedUsec driftPpm timeDeltaUsec carry =
      (exactUnits driftPpm timeDeltaUsec carry).tdiv 256000000 + carry.tickConversionError.toInt := rfl
  generalize wantedUsec driftPpm timeDeltaUsec carry = us at fits wanted ⊢
  rw [int32_bmod (by omega) (by omega)] at value
  have sum : (amountUsec driftPpm timeDeltaUsec carry + carry.tickConversionError.toInt32).toInt =
      us := by
    rw [Int32.toInt_add, value, Int16.toInt_toInt32, wanted, int32_bmod (by omega) (by omega)]
  have ticks := @usToRtimerticks_toInt
    (amountUsec driftPpm timeDeltaUsec carry + carry.tickConversionError.toInt32)
    (by rw [sum]; exact fits)
  rw [sum, ← amountTicks] at ticks
  have back := rtimerticksToUs_toInt few
  refine ⟨value, ?_, by omega⟩
  rw [compensateInternal_error, Int32.toInt_toInt16, Int32.toInt_sub, sum]
  have inside : (us - (rtimerticksToUs (amountTicks driftPpm timeDeltaUsec carry)).toInt).bmod
      (2 ^ 32) = us - (rtimerticksToUs (amountTicks driftPpm timeDeltaUsec carry)).toInt :=
    int32_bmod (by omega) (by omega)
  rw [inside]
  apply Int.bmod_eq_of_le
  · omega
  · omega

/-- The sums over the calls: time × drift, the whole microseconds of the amounts, and the
microseconds of the ticks that were returned. -/
structure CompensationLedger where
  carry : Carry
  drifted : Int
  amounts : Int
  returned : Int

def CompensationLedger.start (carry : Carry) : CompensationLedger := ⟨carry, 0, 0, 0⟩

def CompensationLedger.compensate (ledger : CompensationLedger) (timeDeltaUsec : UInt32) :
    CompensationLedger :=
  { carry := (compensateInternal timeDeltaUsec driftPpm ledger.carry).2
    drifted := ledger.drifted + timeDeltaUsec.toNat * driftPpm.toInt
    amounts := ledger.amounts + (amountUsec driftPpm timeDeltaUsec ledger.carry).toInt
    returned := ledger.returned +
      (rtimerticksToUs (compensateInternal timeDeltaUsec driftPpm ledger.carry).1).toInt }

structure CompensationLedger.Exact (start : Carry) (ledger : CompensationLedger) : Prop where
  drift : ledger.amounts * 256000000 + ledger.carry.remainder.toInt =
    ledger.drifted + start.remainder.toInt
  ticks : ledger.returned + ledger.carry.tickConversionError.toInt =
    ledger.amounts + start.tickConversionError.toInt
  small : ledger.carry.Small

section

variable {start : Carry} {ledger : CompensationLedger} (exact : ledger.Exact start)
  (unclamped : ¬ Clamps driftPpm timeDeltaUsec ledger.carry)
include exact unclamped

theorem exact_compensate (fits : ConversionFits driftPpm timeDeltaUsec ledger.carry) :
    (ledger.compensate driftPpm timeDeltaUsec).Exact start := by
  obtain ⟨drift, ticks, small⟩ := exact
  obtain ⟨amount, error, half⟩ := compensateInternal_fits driftPpm small unclamped fits
  have split := units_split driftPpm small timeDeltaUsec
  have wanted : wantedUsec driftPpm timeDeltaUsec ledger.carry =
      (exactUnits driftPpm timeDeltaUsec ledger.carry).tdiv 256000000 +
        ledger.carry.tickConversionError.toInt := rfl
  refine ⟨?_, ?_, remainder_small driftPpm small timeDeltaUsec, ?_⟩
  · simp only [CompensationLedger.compensate]
    rw [amount]
    linarith
  · simp only [CompensationLedger.compensate]
    rw [compensateInternal_fst driftPpm unclamped, error, amount]
    omega
  · simp only [CompensationLedger.compensate]
    rw [error]
    omega

theorem fits_of_exact (next : (ledger.compensate driftPpm timeDeltaUsec).Exact start) :
    ConversionFits driftPpm timeDeltaUsec ledger.carry := by
  obtain ⟨drift, ticks, small⟩ := exact
  obtain ⟨nextDrift, nextTicks, nextSmall⟩ := next
  have error := nextSmall.tickConversionError
  have split := units_split driftPpm small timeDeltaUsec
  have back := rtimerticksToUs_toInt (few_of_unclamped driftPpm unclamped)
  have few := few_of_unclamped driftPpm unclamped
  simp only [CompensationLedger.compensate] at nextDrift nextTicks error
  rw [compensateInternal_fst driftPpm unclamped] at nextTicks
  have amount : (amountUsec driftPpm timeDeltaUsec ledger.carry).toInt =
      (exactUnits driftPpm timeDeltaUsec ledger.carry).tdiv 256000000 := by
    apply Int.eq_of_mul_eq_mul_right (by decide : (256000000 : Int) ≠ 0)
    linarith
  unfold ConversionFits wantedUsec
  rw [← amount]
  have near : (amountUsec driftPpm timeDeltaUsec ledger.carry).toInt +
      ledger.carry.tickConversionError.toInt =
        (rtimerticksToUs (amountTicks driftPpm timeDeltaUsec ledger.carry)).toInt +
          (compensateInternal timeDeltaUsec driftPpm ledger.carry).2.tickConversionError.toInt := by
    omega
  rw [near]
  clear near amount split drift ticks nextDrift nextTicks
  omega

end

theorem compensation_exact_iff {start : Carry} (small : start.Small) {times : List UInt32}
    (unclamped : Run.Meets (CompensationLedger.compensate driftPpm)
      (fun ledger timeDeltaUsec => ¬ Clamps driftPpm timeDeltaUsec ledger.carry)
      (CompensationLedger.start start) times) :
    Run.Always (CompensationLedger.compensate driftPpm) (CompensationLedger.Exact start)
        (CompensationLedger.start start) times ↔
      Run.Meets (CompensationLedger.compensate driftPpm)
        (fun ledger timeDeltaUsec => ConversionFits driftPpm timeDeltaUsec ledger.carry)
        (CompensationLedger.start start) times := by
  have begins : (CompensationLedger.start start).Exact start :=
    ⟨by simp [CompensationLedger.start], by simp [CompensationLedger.start], small⟩
  refine Run.always_iff_meets (CompensationLedger.Exact start) (fun _ exact => exact) ?_ ?_ times _
    begins unclamped
  · exact fun _ _ exact unclamped fits => exact_compensate driftPpm exact unclamped fits
  · exact fun _ _ exact unclamped misfit next =>
      misfit (fits_of_exact driftPpm exact unclamped next)

theorem compensation_exact_minute :
    Run.Always (CompensationLedger.compensate (40 * 256)) (CompensationLedger.Exact ⟨0, 0⟩)
      (CompensationLedger.start ⟨0, 0⟩) [60000000, 1000000] :=
  (@compensation_exact_iff (40 * 256) ⟨0, 0⟩ ⟨by decide, by decide⟩ [60000000, 1000000]
    (by decide)).mpr (by decide)

/-- With 100 ppm over 1310.72 s there are 131072 us to compensate, whose product with the ticks of
a second is 2^32: nothing is returned and nothing is carried. -/
theorem compensation_lost : ¬ ∀ (driftPpm : Int32) (start : Carry), start.Small →
    ∀ times : List UInt32,
      Run.Meets (CompensationLedger.compensate driftPpm)
        (fun ledger timeDeltaUsec => ¬ Clamps driftPpm timeDeltaUsec ledger.carry)
        (CompensationLedger.start start) times →
      Run.Always (CompensationLedger.compensate driftPpm) (CompensationLedger.Exact start)
        (CompensationLedger.start start) times := by
  intro all
  have exact := all (100 * 256) ⟨0, 0⟩ ⟨by decide, by decide⟩ [1310720000] (by decide)
  have ticks := exact.2.ticks
  revert ticks
  decide

end MultiPhyTsch
