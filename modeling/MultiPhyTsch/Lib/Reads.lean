import Mathlib.Data.List.Basic

/-! Programs that read a memory element by element. A program is the tree of what it does with
what it reads, so that the places it reads can be talked about beside what it returns. -/

inductive Reads (β α : Type) where
  | done (result : α)
  | read (index : Nat) (next : β → Reads β α)

namespace Reads

variable {β α γ : Type}

def value (memory : Nat → β) : Reads β α → α
  | done result => result
  | read index next => (next (memory index)).value memory

def indices (memory : Nat → β) : Reads β α → List Nat
  | done _ => []
  | read index next => index :: (next (memory index)).indices memory

protected def bind : Reads β α → (α → Reads β γ) → Reads β γ
  | done result, rest => rest result
  | read index next, rest => read index fun element => (next element).bind rest

instance : Monad (Reads β) where
  pure := done
  bind := Reads.bind

def element (index : Nat) : Reads β β := read index done

def elements : (count : Nat) → (Nat → Nat) → Reads β (Vector β count)
  | 0, _ => pure #v[]
  | count + 1, place => do
      let front ← elements count place
      let last ← element (place count)
      pure (front.push last)

section

variable (memory : Nat → β)

@[simp] theorem value_pure (result : α) : (pure result : Reads β α).value memory = result := rfl

@[simp] theorem indices_pure (result : α) : (pure result : Reads β α).indices memory = [] := rfl

@[simp] theorem value_element (index : Nat) :
    (element index : Reads β β).value memory = memory index := rfl

@[simp] theorem indices_element (index : Nat) :
    (element index : Reads β β).indices memory = [index] := rfl

@[simp] theorem value_bind (reader : Reads β α) (rest : α → Reads β γ) :
    (reader >>= rest).value memory = (rest (reader.value memory)).value memory := by
  induction reader with
  | done result => rfl
  | read index next ih => exact ih (memory index)

@[simp] theorem indices_bind (reader : Reads β α) (rest : α → Reads β γ) :
    (reader >>= rest).indices memory =
      reader.indices memory ++ (rest (reader.value memory)).indices memory := by
  induction reader with
  | done result => rfl
  | read index next ih => exact congrArg (List.cons index) (ih (memory index))

@[simp] theorem value_ite (condition : Prop) [Decidable condition] (first second : Reads β α) :
    (if condition then first else second).value memory =
      if condition then first.value memory else second.value memory := apply_ite _ _ _ _

@[simp] theorem value_elements (count : Nat) (place : Nat → Nat) :
    (elements count place).value memory = Vector.ofFn fun index => memory (place index) := by
  induction count with
  | zero => rfl
  | succ count ih =>
    rw [elements, value_bind, ih]
    apply Vector.ext
    intro index inside
    simp only [value_bind, value_element, value_pure, Vector.getElem_push, Vector.getElem_ofFn]
    split
    · rfl
    next last =>
      rw [show index = count by omega]

@[simp] theorem indices_elements (count : Nat) (place : Nat → Nat) :
    (elements count place).indices memory = (List.range count).map place := by
  induction count with
  | zero => rfl
  | succ count ih =>
    rw [elements, indices_bind, ih, List.range_succ, List.map_append]
    rfl

end

theorem congr {memory memory' : Nat → β} (reader : Reads β α)
    (same : ∀ index ∈ reader.indices memory, memory' index = memory index) :
    reader.value memory' = reader.value memory ∧ reader.indices memory' = reader.indices memory := by
  induction reader with
  | done result => exact ⟨rfl, rfl⟩
  | read index next ih =>
    have here := same index List.mem_cons_self
    have rest := ih (memory index) fun later member => same later (List.mem_cons_of_mem _ member)
    rw [value, value, indices, indices, here]
    exact ⟨rest.1, congrArg (List.cons index) rest.2⟩

def Below (memory : Nat → β) (limit : Nat) (reader : Reads β α) : Prop :=
  ∀ index ∈ reader.indices memory, index < limit

section

variable (memory : Nat → β) (limit : Nat)

@[simp] theorem below_pure (result : α) : (pure result : Reads β α).Below memory limit :=
  fun _ absent => absurd absent List.not_mem_nil

@[simp] theorem below_element (index : Nat) :
    (Reads.element index : Reads β β).Below memory limit ↔ index < limit := by
  simp [Below]

@[simp] theorem below_bind (reader : Reads β α) (rest : α → Reads β γ) :
    (reader >>= rest).Below memory limit ↔
      reader.Below memory limit ∧ (rest (reader.value memory)).Below memory limit := by
  simp [Below, or_imp, forall_and]

@[simp] theorem below_elements (count place : Nat) :
    (Reads.elements count fun index => place + index : Reads β (Vector β count)).Below memory limit ↔
      (count ≠ 0 → place + count ≤ limit) := by
  simp only [Below, indices_elements, List.forall_mem_map, List.mem_range]
  constructor
  · intro each some
    have last := each (count - 1) (by omega)
    omega
  · intro within offset inside
    have within := within (by omega)
    omega

theorem below_ite (condition : Prop) [Decidable condition] (first second : Reads β α) :
    (if condition then first else second).Below memory limit ↔
      (condition → first.Below memory limit) ∧ (¬ condition → second.Below memory limit) := by
  split
  next chosen => simp [chosen]
  next other => simp [other]

end

structure Spans (memory : Nat → β) (place len : Nat) (reader : Reads β (α × Nat)) : Prop where
  next : (reader.value memory).2 = place + len
  below : ∀ limit, reader.Below memory limit ↔ (len ≠ 0 → place + len ≤ limit)

section

variable {memory : Nat → β} {place len : Nat}

theorem Spans.pure (result : α) : Spans memory place 0 (Pure.pure (result, place)) where
  next := rfl
  below := fun limit => iff_of_true (below_pure memory limit _) fun absent => absurd rfl absent

section

variable {reader : Reads β (α × Nat)} (spans : Spans memory place len reader)
  (rest : α × Nat → Reads β γ)
include spans

theorem Spans.value_bind :
    (reader >>= rest).value memory =
      (rest ((reader.value memory).1, place + len)).value memory := by
  rw [Reads.value_bind, ← spans.next]

theorem Spans.below_bind (limit : Nat) :
    (reader >>= rest).Below memory limit ↔ (len ≠ 0 → place + len ≤ limit) ∧
      (rest ((reader.value memory).1, place + len)).Below memory limit := by
  rw [Reads.below_bind, spans.below, ← spans.next]

end

theorem Spans.ite {condition : Prop} [Decidable condition] {other : Nat}
    {first second : Reads β (α × Nat)} (one : condition → Spans memory place len first)
    (two : ¬ condition → Spans memory place other second) :
    Spans memory place (if condition then len else other)
      (if condition then first else second) := by
  by_cases chosen : condition
  · rw [if_pos chosen, if_pos chosen]
    exact one chosen
  · rw [if_neg chosen, if_neg chosen]
    exact two chosen

end

def Advances (place : Nat) (reader : Reads β (α × Nat)) : Prop :=
  ∀ memory, place ≤ (reader.value memory).2 ∧
    ∀ index ∈ reader.indices memory, index < (reader.value memory).2

theorem Advances.pure {place next : Nat} (further : place ≤ next) (result : α) :
    Advances place (Pure.pure (result, next) : Reads β (α × Nat)) :=
  fun _ => ⟨further, fun _ absent => absurd absent List.not_mem_nil⟩

theorem Advances.bind {place : Nat} {reader : Reads β (α × Nat)} {rest : α × Nat → Reads β (γ × Nat)}
    (first : Advances place reader) (second : ∀ result next, Advances next (rest (result, next))) :
    Advances place (reader >>= rest) := by
  intro memory
  obtain ⟨further, before⟩ := first memory
  obtain ⟨onward, behind⟩ := second (reader.value memory).1 (reader.value memory).2 memory
  rw [value_bind, indices_bind]
  refine ⟨Nat.le_trans further onward, fun index member => ?_⟩
  rcases List.mem_append.mp member with early | late
  · exact Nat.lt_of_lt_of_le (before index early) onward
  · exact behind index late

theorem Advances.element {place : Nat} {rest : β → Reads β (γ × Nat)}
    (after : ∀ found, Advances (place + 1) (rest found)) :
    Advances place (Reads.element place >>= rest) := by
  intro memory
  obtain ⟨further, behind⟩ := after (memory place) memory
  rw [value_bind, indices_bind]
  refine ⟨by exact Nat.le_of_succ_le further, fun index member => ?_⟩
  rcases List.mem_cons.mp member with rfl | late
  · exact further
  · exact behind index late

theorem Advances.elements {place count : Nat} {rest : Vector β count → Reads β (γ × Nat)}
    (after : ∀ found, Advances (place + count) (rest found)) :
    Advances place (Reads.elements count (fun index => place + index) >>= rest) := by
  intro memory
  rw [value_bind, indices_bind, indices_elements]
  obtain ⟨further, behind⟩ :=
    after ((Reads.elements count fun index => place + index).value memory) memory
  refine ⟨by omega, fun index member => ?_⟩
  rcases List.mem_append.mp member with early | late
  · obtain ⟨offset, inside, rfl⟩ := List.mem_map.mp early
    have inside := List.mem_range.mp inside
    omega
  · exact behind index late

theorem Advances.ite {place : Nat} {condition : Prop} [Decidable condition]
    {first second : Reads β (α × Nat)} (one : condition → Advances place first)
    (other : ¬ condition → Advances place second) :
    Advances place (if condition then first else second) := by
  by_cases chosen : condition
  · rw [if_pos chosen]
    exact one chosen
  · rw [if_neg chosen]
    exact other chosen

end Reads
