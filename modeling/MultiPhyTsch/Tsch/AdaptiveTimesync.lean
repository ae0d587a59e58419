import MultiPhyTsch.Tsch.Node

/-! The drift estimation of `tsch-adaptive-timesync.c` with the tick conversions of the
cc2538. `int` and `long` are 32 bits wide there and their arithmetic wraps in the model. -/

namespace MultiPhyTsch

variable (conf : TschConf)

def rtimerArchSecond : Int32 := 32768

def tschDriftUnit : Int32 := 1000 * 1000 * 256

def usToRtimerticks (us : Int32) : Int32 :=
  if 0 ≤ us then (us * rtimerArchSecond + 500000) / 1000000
  else (us * rtimerArchSecond - 500000) / 1000000

def rtimerticksToUs (ticks : Int32) : Int32 :=
  if 0 ≤ ticks then (ticks * 1000000 + rtimerArchSecond / 2) / rtimerArchSecond
  else (ticks * 1000000 - rtimerArchSecond / 2) / rtimerArchSecond

def rtimerticksToUs64 (ticks : UInt32) : UInt32 :=
  UInt32.ofNat ((ticks.toNat * 1000000 + 16384) / 32768)

structure Carry where
  remainder : Int32
  tickConversionError : Int16
deriving DecidableEq, Repr

def compensateInternal (timeDeltaUsec : UInt32) (driftPpm : Int32) (carry : Carry) : Int32 × Carry :=
  let d := timeDeltaUsec.toUInt64.toInt64 * driftPpm.toInt64 + carry.remainder.toInt64
  let amount := (d / tschDriftUnit.toInt64).toInt32
  let remainder := (d - (amount * tschDriftUnit).toInt64).toInt32
  let amount := amount + carry.tickConversionError.toInt32
  let amountTicks := usToRtimerticks amount
  let tickConversionError := (amount - rtimerticksToUs amountTicks).toInt16
  let absolute := if amountTicks < 0 then -amountTicks else amountTicks
  let amountTicks :=
    if absolute > rtimerArchSecond / 128 then
      (if amountTicks > 0 then rtimerArchSecond else -rtimerArchSecond) / 128
    else amountTicks
  (amountTicks, ⟨remainder, tickConversionError⟩)

def tschTimesyncAdaptiveCompensate (timeDeltaTicks : UInt32) (timesync : Timesync) :
    Int32 × Timesync :=
  if conf.adaptiveTimesync then
    let timeDeltaUsec := rtimerticksToUs64 timeDeltaTicks
    let (result, timesync) :=
      if timesync.driftPpm ≠ 0 ∧ timesync.lastTimesourceNeighbor ≠ none then
        let (result, carry) := compensateInternal timeDeltaUsec timesync.driftPpm
          ⟨timesync.remainder, timesync.tickConversionError⟩
        (result, { timesync with
          remainder := carry.remainder
          tickConversionError := carry.tickConversionError
          compensatedTicks := timesync.compensatedTicks + result })
      else (0, timesync)
    if conf.baseDriftPpm ≠ 0 then
      let (base, carry) := compensateInternal timeDeltaUsec (Int32.ofInt (256 * conf.baseDriftPpm))
        ⟨timesync.baseDriftRemainder, timesync.baseDriftTickConversionError⟩
      (result + base, { timesync with
        baseDriftRemainder := carry.remainder
        baseDriftTickConversionError := carry.tickConversionError })
    else (result, timesync)
  else (0, timesync)

theorem compensate_frame (timeDeltaTicks : UInt32) (timesync : Timesync) :
    let after := (tschTimesyncAdaptiveCompensate conf timeDeltaTicks timesync).2
    after.lastTimesourceNeighbor = timesync.lastTimesourceNeighbor ∧
      after.asnSinceLastLearning = timesync.asnSinceLastLearning ∧
      after.buffer = timesync.buffer ∧ after.pos = timesync.pos ∧
      after.timesyncEntryCount = timesync.timesyncEntryCount ∧
      after.driftPpm = timesync.driftPpm := by
  unfold tschTimesyncAdaptiveCompensate
  by_cases adaptive : conf.adaptiveTimesync = true
  case neg => simp [adaptive]
  by_cases known : timesync.driftPpm ≠ 0 ∧ timesync.lastTimesourceNeighbor ≠ none
  · by_cases base : conf.baseDriftPpm ≠ 0 <;> simp [adaptive, known, base]
  · by_cases base : conf.baseDriftPpm ≠ 0 <;> simp [adaptive, known, base]

def timesyncEntryAdd (val : Int32) (timesync : Timesync) : Int32 × Timesync :=
  let pos := if timesync.timesyncEntryCount = 0 then 0 else timesync.pos
  let buffer := timesync.buffer.setIfInBounds pos val
  let count := if timesync.timesyncEntryCount < 8 then timesync.timesyncEntryCount + 1
    else timesync.timesyncEntryCount
  let total := (buffer.toList.take count).foldl (· + ·) 0
  (total / Int32.ofNat count,
    { timesync with buffer := buffer, timesyncEntryCount := count, pos := (pos + 1) % 8 })

def timesyncLearnDriftTicks (timeDeltaAsn : UInt32) (driftTicks : Int32) (timesync : Timesync) :
    Timesync :=
  let timeDeltaTicks := (timeDeltaAsn * conf.timeslotLength).toInt32
  let realDriftTicks := driftTicks + timesync.compensatedTicks
  let lastDriftPpm :=
    (realDriftTicks.toInt64 * tschDriftUnit.toInt64 / timeDeltaTicks.toInt64).toInt32
  let (driftPpm, timesync) := timesyncEntryAdd lastDriftPpm timesync
  { timesync with driftPpm := driftPpm }

def tschTimesyncUpdate (n : Option Nat) (timeDeltaAsn : UInt16) (driftCorrection : Int32)
    (timesync : Timesync) : Timesync :=
  if conf.adaptiveTimesync then
    if timesync.lastTimesourceNeighbor ≠ n then
      { timesync with
        lastTimesourceNeighbor := n
        driftPpm := 0
        timesyncEntryCount := 0
        compensatedTicks := 0
        asnSinceLastLearning := 0 }
    else
      let elapsed := timesync.asnSinceLastLearning + timeDeltaAsn.toUInt32
      if elapsed ≥ 4 * conf.slotsPerSecond then
        { timesyncLearnDriftTicks conf elapsed driftCorrection timesync with
          compensatedTicks := 0
          asnSinceLastLearning := 0 }
      else
        { timesync with
          asnSinceLastLearning := elapsed
          compensatedTicks := timesync.compensatedTicks + driftCorrection }
  else timesync

theorem int32_bmod {value : Int} (low : -2 ^ 31 ≤ value) (high : value < 2 ^ 31) :
    value.bmod (2 ^ 32) = value := by
  apply Int.bmod_eq_of_le
  · omega
  · omega

end MultiPhyTsch
