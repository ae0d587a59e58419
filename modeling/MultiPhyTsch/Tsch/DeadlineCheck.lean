import MultiPhyTsch.Tsch.SlotOperation

/-! Whether `check_timer_miss` and `tsch_schedule_slot_operation` judge a deadline right on a clock
that wraps around. A time has passed when it lies less than half the range of the clock back. -/

namespace MultiPhyTsch

def Passed (time now : UInt32) : Prop := (now - time).toNat < 2 ^ 31

def WithinHalfRange (first second : UInt32) : Prop := Passed first second ∨ Passed second first

def ticksAhead (deadline now : UInt32) : Nat := (deadline - now).toNat

/-- What `tsch_schedule_slot_operation` does: how it judges the deadline, the time it hands to
`rtimer_set`, and what it returns. -/
structure Scheduling where
  missed : Bool
  armed : Option UInt32
  success : Bool
deriving DecidableEq, Repr

def scheduling (conf : TschConf) (refTime offset : UInt32) (attempt : Attempt) : Scheduling :=
  if checkTimerMiss refTime (offset - conf.rtimerGuard) attempt.now then ⟨true, none, false⟩
  else ⟨false, some (refTime + offset), attempt.rtimerOk⟩

theorem scheduling_success (conf : TschConf) (refTime offset : UInt32) (attempt : Attempt) :
    (scheduling conf refTime offset attempt).success =
      tschScheduleSlotOperation conf refTime offset attempt := by
  unfold scheduling tschScheduleSlotOperation
  cases checkTimerMiss refTime (offset - conf.rtimerGuard) attempt.now <;> rfl

structure DeadlineJudged (conf : TschConf) (refTime offset : UInt32) (attempt : Attempt)
    (margin : Nat) : Prop where
  check : checkTimerMiss refTime offset attempt.now = true ↔ Passed (refTime + offset) attempt.now
  missed : (scheduling conf refTime offset attempt).missed = true →
    (scheduling conf refTime offset attempt).armed = none
  ahead : margin ≤ ticksAhead (refTime + offset) attempt.now →
    ticksAhead (refTime + offset) attempt.now < 2 ^ 31 →
    (scheduling conf refTime offset attempt).missed = false
  returned : (scheduling conf refTime offset attempt).success =
    tschScheduleSlotOperation conf refTime offset attempt

theorem checkTimerMiss_iff {refTime offset now : UInt32} (prior : Passed refTime now)
    (short : offset.toNat < 2 ^ 31) :
    checkTimerMiss refTime offset now = true ↔ Passed (refTime + offset) now := by
  unfold Passed at prior ⊢
  rw [UInt32.toNat_sub] at prior ⊢
  rw [UInt32.toNat_add]
  have nowBound := now.toNat_lt
  have refBound := refTime.toNat_lt
  simp only [checkTimerMiss, UInt32.lt_iff_toNat_lt, UInt32.le_iff_toNat_le, UInt32.toNat_add]
  split <;> simp only [decide_eq_true_eq, decide_eq_decide] at * <;> omega

theorem deadline_judged {conf : TschConf} {refTime offset : UInt32} {attempt : Attempt}
    (prior : Passed refTime attempt.now) (short : offset.toNat < 2 ^ 31) :
    DeadlineJudged conf refTime offset attempt (conf.rtimerGuard.toNat + 1) := by
  refine ⟨checkTimerMiss_iff prior short, fun missed => ?_, fun margin near => ?_,
    scheduling_success conf refTime offset attempt⟩
  · unfold scheduling at missed ⊢
    split at missed
    · next late => rw [if_pos late]
    · cases missed
  · have passed := prior
    unfold Passed ticksAhead at *
    rw [UInt32.toNat_sub, UInt32.toNat_add] at margin near
    rw [UInt32.toNat_sub] at passed
    have nowBound := attempt.now.toNat_lt
    have refBound := refTime.toNat_lt
    have room : conf.rtimerGuard.toNat ≤ offset.toNat := by omega
    have rest : (offset - conf.rtimerGuard).toNat = offset.toNat - conf.rtimerGuard.toNat :=
      UInt32.toNat_sub_of_le _ _ (UInt32.le_iff_toNat_le.mpr room)
    have early : ¬ checkTimerMiss refTime (offset - conf.rtimerGuard) attempt.now = true := by
      rw [checkTimerMiss_iff prior (by omega), Passed, UInt32.toNat_sub, UInt32.toNat_add, rest]
      omega
    unfold scheduling
    rw [if_neg early]

theorem deadline_judged_wrapped :
    DeadlineJudged cc1200Conf 0xfffffff6 30 ⟨5, true⟩ 3 :=
  deadline_judged (by decide : (5 - 0xfffffff6 : UInt32).toNat < 2 ^ 31) (by decide)

theorem early_now_missed : ¬ ∀ conf refTime offset attempt, WithinHalfRange refTime attempt.now →
    offset.toNat < 2 ^ 31 → WithinHalfRange (refTime + offset) attempt.now →
      DeadlineJudged conf refTime offset attempt conf.rtimerGuard.toNat := by
  intro judged
  have check := (judged cc1200Conf 100 10 ⟨90, true⟩ (.inr (by unfold Passed; decide)) (by decide)
    (.inr (by unfold Passed; decide))).check
  exact absurd (check.mp (by decide)) (by unfold Passed; decide)

end MultiPhyTsch
