import Mathlib.Data.List.Basic

/-! A cursor over a sequence: how far a parser has come and what lies ahead. Elements past
the end read as a default value, so that a parser may run past the end and find out later. -/

structure Cursor (α : Type) where
  offset : Nat
  rest : List α
deriving DecidableEq, Repr

namespace Cursor

variable {α : Type}

def start (items : List α) : Cursor α := ⟨0, items⟩

def skip (cursor : Cursor α) (count : Nat) : Cursor α :=
  ⟨cursor.offset + count, cursor.rest.drop count⟩

def peek [Inhabited α] (cursor : Cursor α) (index : Nat) : α := cursor.rest.getD index default

def into (items : List α) (offset : Nat) : Cursor α := ⟨offset, items.drop offset⟩

variable (items : List α)

@[simp] theorem into_offset (offset : Nat) : (into items offset).offset = offset :=
  rfl

@[simp] theorem into_skip (offset count : Nat) :
    (into items offset).skip count = into items (offset + count) := by
  simp [into, skip]

@[simp] theorem into_peek [Inhabited α] (items : List α) (offset index : Nat) :
    (into items offset).peek index = items.getD (offset + index) default := by
  simp [into, peek, List.getD_eq_getElem?_getD]

theorem start_eq_into : start items = into items 0 := rfl

variable {cursor : Cursor α}

theorem eq_mk {offset : Nat} {rest : List α} (place : cursor.offset = offset)
    (ahead : cursor.rest = rest) : cursor = ⟨offset, rest⟩ := by
  subst place ahead
  rfl

theorem skip_skip (cursor : Cursor α) (first second : Nat) :
    (cursor.skip first).skip second = cursor.skip (first + second) := by
  simp [skip, Nat.add_assoc]

def read [Inhabited α] (cursor : Cursor α) (count : Nat) : List α :=
  (List.range count).map cursor.peek

@[simp] theorem start_rest : (start items).rest = items := rfl

@[simp] theorem start_offset : (start items).offset = 0 := rfl

@[simp] theorem skip_offset (cursor : Cursor α) (count : Nat) :
    (cursor.skip count).offset = cursor.offset + count := rfl

@[simp] theorem skip_rest (cursor : Cursor α) (count : Nat) :
    (cursor.skip count).rest = cursor.rest.drop count := rfl

@[simp] theorem read_length [Inhabited α] (cursor : Cursor α) (count : Nat) :
    (cursor.read count).length = count := by
  simp [read]

theorem read_ahead [Inhabited α] {items tail : List α}
    (ahead : cursor.rest = items ++ tail) : cursor.read items.length = items := by
  apply List.ext_getElem
  · simp
  · intro index left right
    simp [read, peek, ahead, List.getElem?_append_left right, List.getElem?_eq_getElem right]

theorem skip_ahead {items tail : List α}
    (ahead : cursor.rest = items ++ tail) : (cursor.skip items.length).rest = tail := by
  simp [ahead]

structure AgreesUpTo (limit : Nat) (cursor other : Cursor α) : Prop where
  offset : other.offset = cursor.offset
  ahead : other.rest.take (limit - cursor.offset) = cursor.rest.take (limit - cursor.offset)

theorem AgreesUpTo.skip {limit : Nat} {cursor other : Cursor α}
    (agrees : AgreesUpTo limit cursor other) (count : Nat) :
    AgreesUpTo limit (cursor.skip count) (other.skip count) := by
  constructor
  · rw [skip_offset, skip_offset, agrees.offset]
  · have behind := congrArg (List.drop count) agrees.ahead
    rw [List.drop_take, List.drop_take] at behind
    simpa [Nat.sub_sub] using behind

theorem AgreesUpTo.peek [Inhabited α] {limit : Nat} {cursor other : Cursor α}
    (agrees : AgreesUpTo limit cursor other) {index : Nat} (inside : cursor.offset + index < limit) :
    other.peek index = cursor.peek index := by
  have ahead := congrArg (·.getD index default) agrees.ahead
  have within : index < limit - cursor.offset := by omega
  simpa [Cursor.peek, List.getD_eq_getElem?_getD, List.getElem?_take, within] using ahead

end Cursor
