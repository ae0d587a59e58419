import Mathlib.Data.List.Rotate

/-! The last values of a sequence in a buffer that is written round and round. A count says how
much of the buffer is in use and a position where the next value goes. -/

namespace SlidingWindow

variable {α : Type}

def held (buffer : List α) (count pos : Nat) : List α := (buffer.take count).rotate pos

/-- A window of at most `capacity` values forgets its oldest one when it is full. -/
def push (capacity : Nat) (window : List α) (value : α) : List α :=
  if window.length < capacity then window ++ [value] else window.tail ++ [value]

structure Ready (buffer : List α) (count pos : Nat) : Prop where
  count_le : count ≤ buffer.length
  pos_lt : pos < buffer.length
  filling : count < buffer.length → pos = count

variable {buffer : List α} {count pos : Nat}

theorem held_length (ready : Ready buffer count pos) : (held buffer count pos).length = count := by
  rw [held, List.length_rotate, List.length_take]
  exact Nat.min_eq_left ready.count_le

theorem held_perm (buffer : List α) (count pos : Nat) :
    (held buffer count pos).Perm (buffer.take count) := List.rotate_perm _ _

section

variable (ready : Ready buffer count pos)
include ready

theorem write_ready (value : α) :
    Ready (buffer.set pos value) (if count < buffer.length then count + 1 else count)
      ((pos + 1) % buffer.length) := by
  have inside := ready.pos_lt
  have least := ready.count_le
  refine ⟨?_, ?_, ?_⟩
  · rw [List.length_set]
    split <;> omega
  · rw [List.length_set]
    exact Nat.mod_lt _ (by omega)
  · rw [List.length_set]
    split
    next more =>
      intro still
      rw [ready.filling more]
      exact Nat.mod_eq_of_lt still
    next full => exact fun still => absurd still full

theorem held_filling (more : count < buffer.length) (value : α) :
    held (buffer.set pos value) (count + 1) ((pos + 1) % buffer.length) =
      held buffer count pos ++ [value] := by
  have first := ready.filling more
  subst first
  have length : (buffer.take pos).length = pos := by
    rw [List.length_take]
    omega
  have front : (buffer.set pos value).take (pos + 1) = buffer.take pos ++ [value] := by
    rw [List.take_add_one, List.take_set_of_le (le_refl pos)]
    simp [more]
  have before : held buffer pos pos = buffer.take pos := by
    have turned := List.rotate_length (buffer.take pos)
    rwa [length] at turned
  rw [before, held, front]
  by_cases last : pos + 1 = buffer.length
  · rw [last, Nat.mod_self, List.rotate_zero]
  · rw [Nat.mod_eq_of_lt (by omega)]
    have turned := List.rotate_length (buffer.take pos ++ [value])
    rwa [List.length_append, length, List.length_singleton] at turned

theorem held_full (full : ¬ count < buffer.length) (value : α) :
    held (buffer.set pos value) count ((pos + 1) % buffer.length) =
      (held buffer count pos).tail ++ [value] := by
  have whole : count = buffer.length := Nat.le_antisymm ready.count_le (by omega)
  have inside := ready.pos_lt
  have turn : ∀ (items : List α), items.length = buffer.length →
      items.rotate ((pos + 1) % buffer.length) = items.drop (pos + 1) ++ items.take (pos + 1) := by
    intro items sized
    rw [← sized, List.rotate_mod]
    exact List.rotate_eq_drop_append_take (by omega)
  have before : held buffer count pos = buffer.drop pos ++ buffer.take pos := by
    rw [held, whole, List.take_length]
    exact List.rotate_eq_drop_append_take (by omega)
  have sized : (buffer.set pos value).length = buffer.length := List.length_set
  rw [before, held, whole, ← sized, List.take_length, sized, turn _ sized,
    List.drop_set_of_lt (by omega), List.take_add_one, List.take_set_of_le (le_refl pos),
    List.drop_eq_getElem_cons inside]
  simp [inside]

theorem held_write (value : α) :
    held (buffer.set pos value) (if count < buffer.length then count + 1 else count)
        ((pos + 1) % buffer.length) =
      push buffer.length (held buffer count pos) value := by
  rw [push, held_length ready]
  by_cases more : count < buffer.length
  · rw [if_pos more, if_pos more, held_filling ready more]
  · rw [if_neg more, if_neg more, held_full ready more]

end

theorem push_map {β : Type} (capacity : Nat) (window : List α) (value : α) (f : α → β) :
    (push capacity window value).map f = push capacity (window.map f) (f value) := by
  simp only [push, List.length_map]
  split <;> simp [List.map_tail]

end SlidingWindow
