import Mathlib.Data.Fintype.Card
import Mathlib.Data.Fintype.Basic

/-! Loops of a deterministic body. The body gives the state of the next round, or none when the
loop is left; whether it is left at all is a property of the state it starts from. -/

namespace Loop

variable {State : Type} {step : State → Option State}

inductive Visits (step : State → Option State) (start : State) : State → Prop
  | start : Visits step start start
  | next {state after} : Visits step start state → step state = some after →
      Visits step start after

def final (step : State → Option State) : Nat → State → Option State
  | 0, _ => none
  | fuel + 1, state =>
    match step state with
    | none => some state
    | some next => final step fuel next

def Ends (step : State → Option State) (start : State) : Prop :=
  ∃ fuel, (final step fuel start).isSome = true

structure Progresses (step : State → Option State) (position : State → Nat) (start : State) :
    Prop where
  advances : ∀ state next, Visits step start state → step state = some next →
    position state < position next
  ends : Ends step start

theorem Visits.from_next {start next state : State} (stepped : step start = some next)
    (visits : Visits step next state) : Visits step start state := by
  induction visits with
  | start => exact Visits.next Visits.start stepped
  | next _ after ih => exact Visits.next ih after

theorem visits_cases {start state : State} (visits : Visits step start state) :
    state = start ∨ ∃ next, step start = some next ∧ Visits step next state := by
  induction visits with
  | start => exact .inl rfl
  | @next before after _ stepped ih =>
    rcases ih with rfl | ⟨next, first, visits⟩
    · exact .inr ⟨after, stepped, Visits.start⟩
    · exact .inr ⟨next, first, Visits.next visits stepped⟩

theorem forall_visits_iff {property : State → Prop} (start : State) :
    (∀ state, Visits step start state → property state) ↔
      property start ∧ ∀ next, step start = some next →
        ∀ state, Visits step next state → property state := by
  constructor
  · intro all
    exact ⟨all start Visits.start, fun next stepped state visits =>
      all state (visits.from_next stepped)⟩
  · rintro ⟨first, later⟩ state visits
    rcases visits_cases visits with rfl | ⟨next, stepped, visits⟩
    · exact first
    · exact later next stepped state visits

section

variable {start last other : State} (visits : Visits step start last) (left : step last = none)
  (visited : Visits step start other)
include visits left visited

theorem Visits.ahead : Visits step other last := by
  induction visited with
  | start => exact visits
  | @next before after _ stepped ih =>
    rcases visits_cases ih with rfl | ⟨next, same, later⟩
    · rw [left] at stepped
      cases stepped
    · rw [stepped] at same
      obtain rfl := Option.some.inj same
      exact later

theorem Visits.last_unique (leftThere : step other = none) : other = last := by
  rcases visits_cases (visits.ahead left visited) with same | ⟨next, stepped, -⟩
  · exact same.symm
  · rw [leftThere] at stepped
    cases stepped

end

theorem final_of_left {state : State} (left : step state = none) (fuel : Nat) :
    final step (fuel + 1) state = some state := by
  simp only [final, left]

theorem final_of_step {state next : State} (stepped : step state = some next) (fuel : Nat) :
    final step (fuel + 1) state = final step fuel next := by
  simp only [final, stepped]

theorem final_mono {fuel more : Nat} : ∀ {start : State}, fuel ≤ more →
    (final step fuel start).isSome = true → (final step more start).isSome = true := by
  induction fuel generalizing more with
  | zero => exact fun _ ended => absurd ended (by simp [final])
  | succ fuel ih =>
    intro start enough ended
    obtain ⟨rest, rfl⟩ := Nat.exists_eq_add_of_le enough
    rw [show fuel + 1 + rest = (fuel + rest) + 1 by omega]
    cases stepped : step start with
    | none => simp [final_of_left stepped]
    | some next =>
      rw [final_of_step stepped] at ended ⊢
      exact ih (by omega) ended

theorem final_keeps (property : State → Prop)
    (keeps : ∀ state next, step state = some next → property state → property next) {fuel : Nat} :
    ∀ {start last : State}, final step fuel start = some last → property start → property last := by
  induction fuel with
  | zero => exact fun ended => nomatch ended
  | succ fuel ih =>
    intro start last ended holds
    cases stepped : step start with
    | none =>
      rw [final_of_left stepped] at ended
      obtain rfl := Option.some.inj ended
      exact holds
    | some next =>
      rw [final_of_step stepped] at ended
      exact ih ended (keeps start next stepped holds)

theorem final_visits {fuel : Nat} : ∀ {start last : State}, final step fuel start = some last →
    Visits step start last ∧ step last = none := by
  induction fuel with
  | zero => exact fun ended => nomatch ended
  | succ fuel ih =>
    intro start last ended
    cases stepped : step start with
    | none =>
      rw [final_of_left stepped] at ended
      obtain rfl := Option.some.inj ended
      exact ⟨Visits.start, stepped⟩
    | some next =>
      rw [final_of_step stepped] at ended
      obtain ⟨visits, left⟩ := ih ended
      exact ⟨visits.from_next stepped, left⟩

theorem final_iff (property added : State → Prop)
    (adds : ∀ state next, step state = some next → (property next ↔ property state ∧ added state))
    {fuel : Nat} : ∀ {start last : State}, final step fuel start = some last →
      (property last ↔ property start ∧
        ∀ state, Visits step start state → step state ≠ none → added state) := by
  induction fuel with
  | zero => exact fun ended => nomatch ended
  | succ fuel ih =>
    intro start last ended
    rw [forall_visits_iff]
    cases stepped : step start with
    | none =>
      rw [final_of_left stepped] at ended
      obtain rfl := Option.some.inj ended
      exact ⟨fun holds => ⟨holds, fun stays => absurd rfl stays,
          fun next absent => nomatch absent⟩,
        And.left⟩
    | some next =>
      rw [final_of_step stepped] at ended
      rw [ih ended, adds start next stepped, and_assoc]
      simp only [Option.some.injEq, forall_eq', ne_eq, reduceCtorEq, not_false_eq_true,
        forall_const]

theorem forall_visits_of_follows {Other : Type} {other : Other → Option Other}
    (image : State → Other) (live : State → Prop) {start : State} (alive : live start)
    (closed : ∀ state next, step state = some next → live next → live state)
    (forth : ∀ state next, live state → step state = some next → live next →
      other (image state) = some (image next))
    (back : ∀ state place, live state → other (image state) = some place →
      ∃ next, step state = some next ∧ live next ∧ image next = place) {property : Other → Prop} :
    (∀ place, Visits other (image start) place → property place) ↔
      ∀ state, Visits step start state → live state → property (image state) := by
  have followed : ∀ state, Visits step start state → live state →
      Visits other (image start) (image state) := by
    intro state visits
    induction visits with
    | start => exact fun _ => .start
    | @next state next _ stepped ih =>
      intro live
      have before := closed state next stepped live
      exact (ih before).next (forth state next before stepped live)
  have reached : ∀ place, Visits other (image start) place →
      ∃ state, Visits step start state ∧ live state ∧ image state = place := by
    intro place visits
    induction visits with
    | start => exact ⟨start, .start, alive, rfl⟩
    | @next place after _ stepped ih =>
      obtain ⟨state, visits, live, rfl⟩ := ih
      obtain ⟨next, moved, lives, same⟩ := back state after live stepped
      exact ⟨next, visits.next moved, lives, same⟩
  constructor
  · exact fun all state visits live => all _ (followed state visits live)
  · intro all place visits
    obtain ⟨state, visited, live, rfl⟩ := reached place visits
    exact all state visited live

theorem ends_of_advances {position : State → Nat} {bound : Nat}
    (bounded : ∀ state, position state ≤ bound) (room : Nat) : ∀ start : State,
    bound ≤ position start + room →
    (∀ state next, Visits step start state → step state = some next →
      position state < position next) →
    (final step (room + 1) start).isSome = true := by
  induction room with
  | zero =>
    intro start near advances
    cases stepped : step start with
    | none => simp [final_of_left stepped]
    | some next =>
      have further := advances start next Visits.start stepped
      have within := bounded next
      omega
  | succ room ih =>
    intro start near advances
    cases stepped : step start with
    | none => simp [final_of_left stepped]
    | some next =>
      have further := advances start next Visits.start stepped
      rw [final_of_step stepped]
      refine ih next (by omega) ?_
      intro state after visits
      exact advances state after (visits.from_next stepped)

theorem progresses_iff {position : State → Nat} {bound : Nat} {fits : State → Prop}
    (bounded : ∀ state, position state ≤ bound)
    (decides : ∀ state next, step state = some next →
      (position state < position next ↔ fits state)) (start : State) :
    Progresses step position start ↔
      ∀ state, Visits step start state → step state ≠ none → fits state := by
  constructor
  · intro progresses state visits stays
    obtain ⟨next, stepped⟩ := Option.ne_none_iff_exists'.mp stays
    exact (decides state next stepped).mp (progresses.advances state next visits stepped)
  · intro each
    have advances : ∀ state next, Visits step start state → step state = some next →
        position state < position next := by
      intro state next visits stepped
      exact (decides state next stepped).mpr (each state visits (by simp [stepped]))
    exact ⟨advances, bound + 1, ends_of_advances bounded bound start (by omega) advances⟩

/-! Among finitely many states a loop that ends does so before it has seen each twice. -/

theorem final_of_visits {start state : State} (visits : Visits step start state) :
    ∃ rounds, ∀ fuel, final step (rounds + fuel) start = final step fuel state := by
  induction visits with
  | start => exact ⟨0, fun fuel => by rw [Nat.zero_add]⟩
  | @next before after _ stepped ih =>
    obtain ⟨rounds, same⟩ := ih
    refine ⟨rounds + 1, fun fuel => ?_⟩
    rw [show rounds + 1 + fuel = rounds + (fuel + 1) by omega, same, final_of_step stepped]

theorem not_ends_of_cycle {start next : State} (stepped : step start = some next)
    (back : Visits step next start) : ¬ Ends step start := by
  obtain ⟨rounds, same⟩ := final_of_visits back
  have period : ∀ times, final step (times * (rounds + 1)) start = none := by
    intro times
    induction times with
    | zero => simp [final]
    | succ times ih =>
      have unrolled : (times + 1) * (rounds + 1) = (rounds + times * (rounds + 1)) + 1 := by
        rw [Nat.add_one_mul]
        omega
      rw [unrolled, final_of_step stepped, same, ih]
  rintro ⟨fuel, ended⟩
  have later := final_mono (Nat.le_mul_of_pos_right fuel (Nat.succ_pos rounds)) ended
  rw [period fuel] at later
  cases later

theorem final_of_avoids {n : Nat} {code : State → Fin n} (injective : Function.Injective code)
    {fuel : Nat} : ∀ {start : State} {seen : Finset (Fin n)},
      (final step fuel start).isSome = true →
      (∀ state, Visits step start state → code state ∉ seen) →
      (final step (n - seen.card) start).isSome = true := by
  induction fuel with
  | zero => exact fun ended => absurd ended (by simp [final])
  | succ fuel ih =>
    intro start seen ended avoids
    have fresh := avoids start Visits.start
    have room : (insert (code start) seen).card ≤ Fintype.card (Fin n) := Finset.card_le_univ _
    rw [Finset.card_insert_of_notMem fresh, Fintype.card_fin] at room
    rw [show n - seen.card = (n - (seen.card + 1)) + 1 by omega]
    cases stepped : step start with
    | none => simp [final_of_left stepped]
    | some next =>
      have ends : Ends step start := ⟨fuel + 1, ended⟩
      rw [final_of_step stepped] at ended ⊢
      rw [← Finset.card_insert_of_notMem fresh]
      refine ih ended ?_
      intro state visits member
      rcases Finset.mem_insert.mp member with same | old
      · obtain rfl := injective same
        exact not_ends_of_cycle stepped visits ends
      · exact avoids state (visits.from_next stepped) old

theorem ends_iff_within {n : Nat} {code : State → Fin n} (injective : Function.Injective code)
    (start : State) : Ends step start ↔ (final step n start).isSome = true := by
  constructor
  · rintro ⟨fuel, ended⟩
    have within := @final_of_avoids _ step n code injective fuel start ∅ ended
      fun _ _ => Finset.notMem_empty _
    rwa [Finset.card_empty, Nat.sub_zero] at within
  · exact fun ended => ⟨n, ended⟩

end Loop
