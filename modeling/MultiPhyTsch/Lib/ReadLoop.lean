import MultiPhyTsch.Lib.Loop
import MultiPhyTsch.Lib.Reads

/-! Loops that read a memory. A loop goes on as long as a condition holds of its state, and each
round reads what it needs for the next state. -/

namespace Reads

variable {β State : Type} (more : State → Bool) (round : State → Reads β State)

def loop : Nat → State → Reads β (Option State)
  | 0, _ => pure none
  | fuel + 1, state =>
    if more state then do
      let next ← round state
      loop fuel next
    else pure (some state)

def loopStep (memory : Nat → β) (state : State) : Option State :=
  if more state then some ((round state).value memory) else none

variable {more round} {memory : Nat → β}

theorem loopStep_of_more {state : State} (stays : more state = true) :
    loopStep more round memory state = some ((round state).value memory) := if_pos stays

theorem loopStep_eq_some {state next : State} :
    loopStep more round memory state = some next ↔
      more state = true ∧ (round state).value memory = next := by
  unfold loopStep
  split
  next stays => simp [stays]
  next left => simp [left]

theorem loopStep_ne_none {state : State} :
    loopStep more round memory state ≠ none ↔ more state = true := by
  unfold loopStep
  split
  next stays => simp [stays]
  next left => simp [left]

theorem value_loop (fuel : Nat) (start : State) :
    (loop more round fuel start).value memory =
      Loop.final (loopStep more round memory) fuel start := by
  induction fuel generalizing start with
  | zero => rfl
  | succ fuel ih =>
    rw [loop]
    by_cases stays : more start = true
    · rw [if_pos stays, value_bind, ih, Loop.final_of_step (loopStep_of_more stays)]
    · have left : loopStep more round memory start = none := if_neg stays
      rw [if_neg stays, Loop.final_of_left left, value_pure]

theorem value_loop_next {start : State} (stays : more start = true) (fuel : Nat) :
    (loop more round (fuel + 1) start).value memory =
      (loop more round fuel ((round start).value memory)).value memory := by
  rw [loop, if_pos stays, value_bind]

theorem value_loop_end {start : State} (left : more start = false) (fuel : Nat) :
    (loop more round (fuel + 1) start).value memory = some start := by
  rw [loop, left]
  rfl

theorem loop_ends (position : State → Nat) (bound : Nat)
    (inside : ∀ state, more state = true → position state < bound)
    (advances : ∀ state, more state = true → more ((round state).value memory) = true →
      position state < position ((round state).value memory)) {fuel : Nat} :
    ∀ {start : State}, (more start = true → bound ≤ position start + fuel) →
      ((loop more round (fuel + 1) start).value memory).isSome = true := by
  induction fuel with
  | zero =>
    intro start enough
    cases stays : more start with
    | false => rw [value_loop_end stays]; rfl
    | true =>
      have within := inside start stays
      have none := enough stays
      omega
  | succ fuel ih =>
    intro start enough
    cases stays : more start with
    | false => rw [value_loop_end stays]; rfl
    | true =>
      rw [value_loop_next stays]
      apply ih
      intro again
      have further := advances start stays again
      have room := enough stays
      omega

theorem below_loop_iff {limit fuel : Nat} : ∀ {start : State},
    ((loop more round fuel start).value memory).isSome = true →
      ((loop more round fuel start).Below memory limit ↔
        ∀ state, Loop.Visits (loopStep more round memory) start state → more state = true →
          (round state).Below memory limit) := by
  induction fuel with
  | zero => exact fun ended => nomatch ended
  | succ fuel ih =>
    intro start ended
    rw [Loop.forall_visits_iff]
    cases stays : more start with
    | false =>
      have left : loop more round (fuel + 1) start = pure (some start) := by
        rw [loop, stays]
        rfl
      rw [left]
      refine iff_of_true (below_pure memory limit _)
        ⟨fun absent => Bool.noConfusion absent, fun next stepped => ?_⟩
      rw [(loopStep_eq_some.mp stepped).1] at stays
      cases stays
    | true =>
      rw [value_loop_next stays] at ended
      rw [loop, if_pos stays, below_bind, ih ended, loopStep_of_more stays]
      simp only [Option.some.injEq, forall_eq', forall_const]

end Reads
