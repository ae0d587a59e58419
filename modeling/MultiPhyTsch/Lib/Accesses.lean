import MultiPhyTsch.Lib.Memory

/-! Programs that read and write a memory. Beside its result and the memory it leaves, a program has
the places it touches. -/

def Accesses (β α : Type) := Memory β → α × Memory β × List Nat

namespace Accesses

variable {β α γ : Type}

variable (program : Accesses β α)

variable (memory : Memory β)

def value : α := (program memory).1

def after : Memory β := (program memory).2.1

def touched : List Nat := (program memory).2.2

instance : Monad (Accesses β) where
  pure result := fun memory => (result, memory, [])
  bind program rest := fun memory =>
    let next := rest (program.value memory)
    (next.value (program.after memory), next.after (program.after memory),
      program.touched memory ++ next.touched (program.after memory))

def load (place : Nat) : Accesses β β := fun memory => (memory place, memory, [place])

def store (place : Nat) (item : β) : Accesses β Unit :=
  fun memory => ((), memory.write place [item], [place])

def places (start len : Nat) : List Nat := (List.range len).map fun index => start + index

def loadAll (start len : Nat) : Accesses β (List β) :=
  fun memory => (memory.read start len, memory, places start len)

def move (dest source len : Nat) : Accesses β Unit :=
  fun memory => ((), memory.write dest (memory.read source len), places source len ++ places dest len)

section

variable (memory : Memory β)

@[simp] theorem value_pure (result : α) : (pure result : Accesses β α).value memory = result := rfl

@[simp] theorem value_load (place : Nat) :
    (load place : Accesses β β).value memory = memory place := rfl

@[simp] theorem after_load (place : Nat) : (load place : Accesses β β).after memory = memory := rfl

@[simp] theorem value_bind (program : Accesses β α) (rest : α → Accesses β γ) :
    (program >>= rest).value memory =
      (rest (program.value memory)).value (program.after memory) := rfl

@[simp] theorem after_bind (program : Accesses β α) (rest : α → Accesses β γ) :
    (program >>= rest).after memory =
      (rest (program.value memory)).after (program.after memory) := rfl

end

def Below (memory : Memory β) (limit : Nat) (program : Accesses β α) : Prop :=
  ∀ place ∈ program.touched memory, place < limit

section

variable (memory : Memory β) (limit : Nat)

theorem below_places (start len : Nat) :
    (∀ place ∈ places start len, place < limit) ↔ (len ≠ 0 → start + len ≤ limit) := by
  unfold places
  rw [List.forall_mem_map]
  constructor
  · intro each some
    have last := each (len - 1) (List.mem_range.mpr (by omega))
    omega
  · intro within index member
    have inside := List.mem_range.mp member
    have room := within (by omega)
    omega

@[simp] theorem below_pure (result : α) : (pure result : Accesses β α).Below memory limit :=
  fun _ absent => absurd absent List.not_mem_nil

@[simp] theorem below_load (place : Nat) :
    (load place : Accesses β β).Below memory limit ↔ place < limit := by
  simp [Below, touched, load]

@[simp] theorem below_store (place : Nat) (item : β) :
    (store place item).Below memory limit ↔ place < limit := by
  simp [Below, touched, store]

@[simp] theorem below_loadAll (start len : Nat) :
    (loadAll start len : Accesses β (List β)).Below memory limit ↔
      (len ≠ 0 → start + len ≤ limit) := below_places limit start len

@[simp] theorem below_move (dest source len : Nat) :
    (move dest source len : Accesses β Unit).Below memory limit ↔
      (len ≠ 0 → source + len ≤ limit ∧ dest + len ≤ limit) := by
  have both : (move dest source len : Accesses β Unit).Below memory limit ↔
      (∀ place ∈ places source len, place < limit) ∧ ∀ place ∈ places dest len, place < limit :=
    List.forall_mem_append
  rw [both, below_places, below_places]
  exact forall_and.symm

@[simp] theorem below_bind (program : Accesses β α) (rest : α → Accesses β γ) :
    (program >>= rest).Below memory limit ↔ program.Below memory limit ∧
      (rest (program.value memory)).Below (program.after memory) limit := List.forall_mem_append

end

def KeepsFrom (memory : Memory β) (stop : Nat) (program : Accesses β α) : Prop :=
  ∀ place, stop ≤ place → program.after memory place = memory place

section

variable (memory : Memory β) (stop : Nat)

@[simp] theorem keepsFrom_pure (result : α) :
    (pure result : Accesses β α).KeepsFrom memory stop := fun _ _ => rfl

@[simp] theorem keepsFrom_loadAll (start len : Nat) :
    (loadAll start len : Accesses β (List β)).KeepsFrom memory stop := fun _ _ => rfl

theorem keepsFrom_store {place : Nat} (item : β) (before : place < stop) :
    (store place item).KeepsFrom memory stop := by
  intro other behind
  exact Memory.write_cell_other memory item (by omega)

theorem keepsFrom_move {dest len : Nat} (source : Nat) (before : dest + len ≤ stop) :
    (move dest source len : Accesses β Unit).KeepsFrom memory stop := by
  intro other behind
  apply Memory.write_after
  rw [Memory.read_length]
  omega

theorem KeepsFrom.bind {program : Accesses β α} {rest : α → Accesses β γ}
    (first : program.KeepsFrom memory stop)
    (second : (rest (program.value memory)).KeepsFrom (program.after memory) stop) :
    (program >>= rest).KeepsFrom memory stop := by
  intro place behind
  rw [after_bind, second place behind, first place behind]

end

end Accesses
