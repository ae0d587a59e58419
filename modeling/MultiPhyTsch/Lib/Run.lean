import Mathlib.Data.List.Basic

/-! Runs of a deterministic labelled transition system. A label carries every choice
of the environment, so a list of labels is one run; a label that is not enabled in
a state leaves it unchanged. -/

namespace Run

variable {State Label : Type}

def final (step : State → Label → State) : State → List Label → State
  | state, [] => state
  | state, label :: rest => final step (step state label) rest

def Meets (step : State → Label → State) (condition : State → Label → Prop) :
    State → List Label → Prop
  | _, [] => True
  | state, label :: rest => condition state label ∧ Meets step condition (step state label) rest

instance decidableMeets {step : State → Label → State} {condition : State → Label → Prop}
    [∀ state label, Decidable (condition state label)] :
    ∀ labels state, Decidable (Meets step condition state labels)
  | [], _ => .isTrue trivial
  | label :: rest, state =>
    have : Decidable (Meets step condition (step state label) rest) :=
      decidableMeets rest (step state label)
    inferInstanceAs (Decidable (_ ∧ _))

variable {step : State → Label → State} {condition : State → Label → Prop}

theorem meets_of_forall (all : ∀ state label, condition state label) :
    ∀ labels state, Meets step condition state labels := by
  intro labels
  induction labels with
  | nil => exact fun _ => trivial
  | cons label rest ih => exact fun state => ⟨all state label, ih (step state label)⟩

theorem meets_of_mem {allowed : Label → Prop} :
    ∀ (labels : List Label) (state : State), (∀ label ∈ labels, allowed label) →
      Meets step (fun _ label => allowed label) state labels := by
  intro labels
  induction labels with
  | nil => exact fun _ _ => trivial
  | cons label rest ih =>
    intro state all
    refine ⟨all label List.mem_cons_self, ih (step state label) ?_⟩
    exact fun later member => all later (List.mem_cons_of_mem label member)

theorem final_append {later : List Label} : ∀ (labels : List Label) (state : State),
      final step state (labels ++ later) = final step (final step state labels) later := by
  intro labels
  induction labels with
  | nil => exact fun _ => rfl
  | cons label rest ih => exact fun state => ih (step state label)

theorem meets_append {later : List Label} : ∀ (labels : List Label) (state : State),
    Meets step condition state (labels ++ later) ↔
      Meets step condition state labels ∧ Meets step condition (final step state labels) later := by
  intro labels
  induction labels with
  | nil => exact fun _ => (and_iff_right trivial).symm
  | cons label rest ih =>
    intro state
    simp only [List.cons_append, Meets, final, ih (step state label), and_assoc]

theorem meets_and {first second : State → Label → Prop} :
    ∀ {labels : List Label} {state : State}, Meets step first state labels →
      Meets step second state labels →
        Meets step (fun state label => first state label ∧ second state label) state labels := by
  intro labels
  induction labels with
  | nil => exact fun _ _ => trivial
  | cons label rest ih => exact fun one two => ⟨⟨one.1, two.1⟩, ih one.2 two.2⟩

theorem invariant_of_meets (invariant : State → Prop)
    (preserved : ∀ state label, invariant state → condition state label →
      invariant (step state label)) :
    ∀ labels state, invariant state → Meets step condition state labels →
      invariant (final step state labels) := by
  intro labels
  induction labels with
  | nil => intro state holds _; exact holds
  | cons label rest ih =>
    intro state holds meets
    exact ih (step state label) (preserved state label holds meets.1) meets.2

theorem invariant_of_step (invariant : State → Prop)
    (preserved : ∀ state label, invariant state → invariant (step state label)) :
    ∀ labels state, invariant state → invariant (final step state labels) := by
  intro labels state holds
  exact invariant_of_meets invariant (fun state label kept _ => preserved state label kept) labels
    state holds (meets_of_forall (fun _ _ => trivial) labels state)

theorem meets_iff_meets {valid first second : State → Label → Prop} (invariant : State → Prop)
    (preserved : ∀ state label, invariant state → valid state label → second state label →
      invariant (step state label))
    (each : ∀ state label, invariant state → valid state label →
      (first state label ↔ second state label)) :
    ∀ labels state, invariant state → Meets step valid state labels →
      (Meets step first state labels ↔ Meets step second state labels) := by
  intro labels
  induction labels with
  | nil => exact fun _ _ _ => Iff.rfl
  | cons label rest ih =>
    intro state holds meets
    have here := each state label holds meets.1
    constructor
    · intro kept
      have met := here.mp kept.1
      exact ⟨met, (ih _ (preserved state label holds meets.1 met) meets.2).mp kept.2⟩
    · intro met
      exact ⟨here.mpr met.1, (ih _ (preserved state label holds meets.1 met.1) meets.2).mpr met.2⟩

def Always (step : State → Label → State) (property : State → Prop) : State → List Label → Prop
  | state, [] => property state
  | state, label :: rest => property state ∧ Always step property (step state label) rest

variable {property : State → Prop}

theorem always_head {state : State}
    {labels : List Label} (always : Always step property state labels) : property state := by
  cases labels with
  | nil => exact always
  | cons label rest => exact always.1

theorem always_final : ∀ {labels : List Label} {state : State}, Always step property state labels →
      property (final step state labels) := by
  intro labels
  induction labels with
  | nil => exact fun always => always
  | cons label rest ih => exact fun always => ih always.2

theorem meets_of_meets {condition wanted : State → Label → Prop} (invariant : State → Prop)
    (preserved : ∀ state label, invariant state → condition state label →
      invariant (step state label))
    (each : ∀ state label, invariant state → condition state label → wanted state label) :
    ∀ labels state, invariant state → Meets step condition state labels →
      Meets step wanted state labels := by
  intro labels
  induction labels with
  | nil => intro state _ _; trivial
  | cons label rest ih =>
    intro state holds meets
    constructor
    · exact each state label holds meets.1
    · exact ih (step state label) (preserved state label holds meets.1) meets.2

theorem always_iff_meets {valid condition : State → Label → Prop} (invariant : State → Prop)
    (sound : ∀ state, invariant state → property state)
    (preserved : ∀ state label, invariant state → valid state label → condition state label →
      invariant (step state label))
    (refuted : ∀ state label, invariant state → valid state label → ¬ condition state label →
      ¬ property (step state label)) :
    ∀ labels state, invariant state → Meets step valid state labels →
      (Always step property state labels ↔ Meets step condition state labels) := by
  intro labels
  induction labels with
  | nil =>
    intro state holds _
    exact ⟨fun _ => trivial, fun _ => sound state holds⟩
  | cons label rest ih =>
    intro state holds allowed
    by_cases met : condition state label
    · have later := ih (step state label) (preserved state label holds allowed.1 met) allowed.2
      constructor
      · intro always
        exact ⟨met, later.mp always.2⟩
      · intro meets
        exact ⟨sound state holds, later.mpr meets.2⟩
    · constructor
      · intro always
        exact (refuted state label holds allowed.1 met (always_head always.2)).elim
      · intro meets
        exact (met meets.1).elim

theorem always_of_meets (invariant : State → Prop)
    (sound : ∀ state, invariant state → property state)
    (preserved : ∀ state label, invariant state → condition state label →
      invariant (step state label)) (labels : List Label) (state : State)
    (holds : invariant state) (meets : Meets step condition state labels) :
    Always step property state labels :=
  (always_iff_meets invariant sound
    (fun state label kept _ met => preserved state label kept met)
    (fun _ _ _ met refused => absurd met refused) labels state holds meets).mpr meets

end Run
