import Mathlib.Data.List.Basic
import Mathlib.Order.Interval.Finset.Nat

/-! Memories with a cell for each address, read and written in ranges, and patches: ranges
written one after the other, where the last one to cover an address decides its cell. -/

abbrev Memory (α : Type) := Nat → α

namespace Memory

variable {α : Type}

def ptr (mem : Memory α) (start : Nat) : Memory α := fun index => mem (start + index)

def read (mem : Memory α) (start len : Nat) : List α :=
  (List.range len).map fun index => mem (start + index)

def write (mem : Memory α) (start : Nat) (items : List α) : Memory α := fun address =>
  if start ≤ address then (items[address - start]?).getD (mem address) else mem address

variable (mem : Memory α)

@[simp] theorem ptr_apply (start index : Nat) : mem.ptr start index = mem (start + index) := rfl

@[simp] theorem ptr_read (start offset len : Nat) :
    (mem.ptr start).read offset len = mem.read (start + offset) len := by
  simp [read, Nat.add_assoc]

@[simp] theorem read_length (start len : Nat) : (mem.read start len).length = len := by
  simp [read]

@[simp] theorem read_zero (start : Nat) : mem.read start 0 = [] := rfl

theorem read_getElem? {start len index : Nat} (inside : index < len) :
    (mem.read start len)[index]? = some (mem (start + index)) := by
  simp [read, inside]

theorem read_add (start left right : Nat) :
    mem.read start (left + right) = mem.read start left ++ mem.read (start + left) right := by
  simp [read, List.range_add, Nat.add_assoc]

variable {items : List α}

theorem read_eq_cons_iff {mem : Memory α} {start len : Nat} {item : α} :
    mem.read start (len + 1) = item :: items ↔
      mem start = item ∧ mem.read (start + 1) len = items := by
  rw [Nat.add_comm len 1, read_add, read, List.range_one, List.map_singleton, List.singleton_append,
    List.cons.injEq, Nat.add_zero]

theorem read_append {mem : Memory α} {start len : Nat} {first second : List α}
    (written : mem.read start len = first ++ second) :
    mem.read start first.length = first ∧
      mem.read (start + first.length) second.length = second := by
  obtain rfl : len = first.length + second.length := by
    rw [← List.length_append, ← written, read_length]
  rw [read_add] at written
  exact List.append_inj written (read_length mem start _)

theorem read_drop (start len count : Nat) :
    (mem.read start len).drop count = mem.read (start + count) (len - count) := by
  apply List.ext_getElem
  · simp
  · intro index left right
    simp [read, Nat.add_assoc]

theorem read_take (start : Nat) {len count : Nat} (within : count ≤ len) :
    (mem.read start len).take count = mem.read start count := by
  obtain ⟨rest, rfl⟩ := Nat.exists_eq_add_of_le within
  rw [read_add]
  exact List.take_left' (read_length mem start count)

theorem read_congr {mem other : Memory α} {start len : Nat}
    (same : ∀ address, start ≤ address → address < start + len → mem address = other address) :
    mem.read start len = other.read start len := by
  apply List.map_congr_left
  intro index bound
  have inside := List.mem_range.mp bound
  exact same _ (by omega) (by omega)

theorem read_inj {mem other : Memory α} {start len : Nat}
    (same : mem.read start len = other.read start len) {address : Nat} (after : start ≤ address)
    (before : address < start + len) : mem address = other address := by
  have cell := congrArg (·[address - start]?) same
  rw [read_getElem? mem (by omega), read_getElem? other (by omega)] at cell
  rw [show start + (address - start) = address by omega] at cell
  exact Option.some.inj cell

theorem read_add_eq_iff (mem other : Memory α) (start left right : Nat) :
    mem.read start (left + right) = other.read start (left + right) ↔
      mem.read start left = other.read start left ∧
        mem.read (start + left) right = other.read (start + left) right := by
  rw [read_add, read_add]
  constructor
  · intro same
    exact List.append_inj same (by simp)
  · rintro ⟨first, second⟩
    rw [first, second]

variable {start address : Nat}

theorem write_before (items : List α)
    (before : address < start) : mem.write start items address = mem address := by
  simp only [write]
  rw [if_neg (by omega)]

theorem write_after
    (after : start + items.length ≤ address) : mem.write start items address = mem address := by
  simp only [write]
  rw [if_pos (by omega), List.getElem?_eq_none (by omega)]
  rfl

theorem write_inside {item : α}
    (after : start ≤ address) (found : items[address - start]? = some item) :
    mem.write start items address = item := by
  simp only [write]
  rw [if_pos after, found]
  rfl

theorem write_cell (start : Nat) (item : α) : mem.write start [item] start = item :=
  mem.write_inside (Nat.le_refl start) (by simp)

theorem write_cell_other (item : α)
    (other : address ≠ start) : mem.write start [item] address = mem address := by
  by_cases before : address < start
  · exact mem.write_before _ before
  · exact mem.write_after (by simp; omega)

theorem write_read (mem other : Memory α) {start len address : Nat} (after : start ≤ address)
    (before : address < start + len) :
    mem.write start (other.read start len) address = other address := by
  apply write_inside mem after
  rw [read_getElem? other (by omega)]
  congr 2
  omega

theorem read_write_self (start : Nat) (items : List α) :
    (mem.write start items).read start items.length = items := by
  apply List.ext_getElem
  · simp
  · intro index left right
    have cell : (mem.write start items) (start + index) = items[index] := by
      apply write_inside
      · omega
      · rw [Nat.add_sub_cancel_left]
        exact List.getElem?_eq_getElem right
    simpa [read] using cell

theorem read_write_of_length (start : Nat) {len : Nat}
    (length : items.length = len) : (mem.write start items).read start len = items := by
  rw [← length]
  exact read_write_self mem start items

theorem read_write_before {start len target : Nat} (items : List α)
    (before : start + len ≤ target) :
    (mem.write target items).read start len = mem.read start len := by
  apply read_congr
  intro address _ inside
  exact write_before mem items (by omega)

theorem read_write_after {start target : Nat} (len : Nat) (after : target + items.length ≤ start) :
    (mem.write target items).read start len = mem.read start len := by
  apply read_congr
  intro address inside _
  exact write_after mem (by omega)

theorem write_write (start : Nat) {first second : List α} (covers : first.length ≤ second.length) :
    (mem.write start first).write start second = mem.write start second := by
  funext address
  by_cases inside : start ≤ address ∧ address < start + second.length
  · have found := List.getElem?_eq_getElem (show address - start < second.length by omega)
    rw [write_inside _ inside.1 found, write_inside _ inside.1 found]
  · by_cases before : address < start
    · rw [write_before _ _ before, write_before _ _ before, write_before _ _ before]
    · rw [write_after _ (by omega), write_after _ (by omega), write_after _ (by omega)]

theorem read_shift {mem other : Memory α} {start target len : Nat}
    (same : ∀ index, index < len → mem (start + index) = other (target + index)) :
    mem.read start len = other.read target len := by
  apply List.map_congr_left
  intro index bound
  exact same index (List.mem_range.mp bound)

theorem read_write_part (start : Nat) {offset len : Nat} (within : offset + items.length ≤ len) :
    (mem.write (start + offset) items).read start len =
      (mem.read start len).take offset ++ items ++
        (mem.read start len).drop (offset + items.length) := by
  obtain ⟨rest, rfl⟩ := Nat.exists_eq_add_of_le within
  rw [read_take mem start (by omega), read_drop, Nat.add_sub_cancel_left, read_add, read_add,
    read_write_before mem items (Nat.le_refl _), read_write_self,
    read_write_after mem rest (by omega)]

end Memory

structure Patch (α : Type) where
  start : Nat
  items : List α
deriving DecidableEq, Repr

namespace Patch

variable {α : Type}

def Covers (patch : Patch α) (address : Nat) : Prop :=
  patch.start ≤ address ∧ address < patch.start + patch.items.length

def Holds (patch : Patch α) (address : Nat) (item : α) : Prop :=
  patch.start ≤ address ∧ patch.items[address - patch.start]? = some item

variable {patch : Patch α} {address : Nat}

instance (patch : Patch α) (address : Nat) : Decidable (patch.Covers address) :=
  inferInstanceAs (Decidable (_ ∧ _))

def Within (size : Nat) (patch : Patch α) : Prop := ∀ address, patch.Covers address → address < size

variable {size : Nat}

theorem within_iff :
    patch.Within size ↔ (patch.items.length ≠ 0 → patch.start + patch.items.length ≤ size) := by
  constructor
  · intro within some
    have last := within (patch.start + patch.items.length - 1) ⟨by omega, by omega⟩
    omega
  · rintro fits address ⟨after, before⟩
    have room := fits (by omega)
    omega

def applyAll (mem : Memory α) (patches : List (Patch α)) : Memory α :=
  patches.foldl (fun mem patch => mem.write patch.start patch.items) mem

variable (mem : Memory α)

theorem write_holds (covers : patch.Covers address) :
    patch.Holds address (mem.write patch.start patch.items address) := by
  obtain ⟨after, before⟩ := covers
  have inside : address - patch.start < patch.items.length := by omega
  have found := List.getElem?_eq_getElem inside
  refine ⟨after, ?_⟩
  rw [Memory.write_inside mem after found]
  exact found

theorem write_uncovered (missed : ¬ patch.Covers address) :
    mem.write patch.start patch.items address = mem address := by
  by_cases before : address < patch.start
  · exact Memory.write_before mem _ before
  · apply Memory.write_after
    by_contra inside
    exact missed ⟨by omega, by omega⟩

variable {patches : List (Patch α)}

theorem applyAll_uncovered : ∀ mem : Memory α, (∀ patch ∈ patches, ¬ patch.Covers address) →
      applyAll mem patches address = mem address := by
  induction patches with
  | nil => exact fun mem _ => rfl
  | cons first rest ih =>
    intro mem missed
    have later := ih (mem.write first.start first.items)
      (fun patch member => missed patch (List.mem_cons_of_mem _ member))
    exact later.trans (write_uncovered mem (missed first List.mem_cons_self))

theorem applyAll_covered : ∀ mem : Memory α, (∃ patch ∈ patches, patch.Covers address) →
      ∃ patch ∈ patches, patch.Holds address (applyAll mem patches address) := by
  induction patches with
  | nil =>
    rintro mem ⟨patch, member, _⟩
    cases member
  | cons first rest ih =>
    rintro mem ⟨patch, member, covers⟩
    by_cases later : ∃ patch ∈ rest, patch.Covers address
    · obtain ⟨last, found, holds⟩ := ih (mem.write first.start first.items) later
      exact ⟨last, List.mem_cons_of_mem _ found, holds⟩
    · have missed : ∀ patch ∈ rest, ¬ patch.Covers address :=
        fun patch member covers => later ⟨patch, member, covers⟩
      have same : applyAll mem (first :: rest) address =
          mem.write first.start first.items address :=
        applyAll_uncovered (mem.write first.start first.items) missed
      rcases List.mem_cons.mp member with rfl | tail
      · exact ⟨patch, List.mem_cons_self, same ▸ write_holds mem covers⟩
      · exact absurd covers (missed patch tail)

inductive Spells : Nat → List α → List (Patch α) → Prop
  | nil {start : Nat} : Spells start [] []
  | cons {start : Nat} {items more : List α} {rest : List (Patch α)} :
      Spells (start + items.length) more rest → Spells start (items ++ more) (⟨start, items⟩ :: rest)

namespace Spells

theorem single (start : Nat) (items : List α) : Spells start items [⟨start, items⟩] := by
  have spelled : Spells start (items ++ []) [⟨start, items⟩] := cons nil
  rw [List.append_nil] at spelled
  exact spelled

theorem append {start : Nat} {items more : List α} {patches rest : List (Patch α)}
    (first : Spells start items patches) (second : Spells (start + items.length) more rest) :
    Spells start (items ++ more) (patches ++ rest) := by
  induction first with
  | nil => exact second
  | cons _ ih =>
    rw [List.append_assoc]
    apply cons
    apply ih
    rw [List.length_append, ← Nat.add_assoc] at second
    exact second

variable {items : List α}

theorem within {start : Nat} {patches : List (Patch α)}
    (spells : Spells start items patches) {patch : Patch α} (member : patch ∈ patches) :
    patch.start + patch.items.length ≤ start + items.length := by
  induction spells with
  | nil => cases member
  | cons _ ih =>
    rw [List.length_append]
    rcases List.mem_cons.mp member with rfl | later
    · dsimp only
      omega
    · have inside := ih later
      omega

theorem inside {start size : Nat} {patches : List (Patch α)}
    (spells : Spells start items patches) (length : start + items.length ≤ size) :
    ∀ patch ∈ patches, patch.start + patch.items.length ≤ size :=
  fun _ member => Nat.le_trans (spells.within member) length

theorem loop (start size : Nat) {items : Nat → List α} {patches : Nat → List (Patch α)} {count : Nat}
    (round : ∀ index, index < count →
      Spells (start + index * size) (items index) (patches index) ∧ (items index).length = size) :
    Spells start ((List.range count).flatMap items) ((List.range count).flatMap patches) ∧
      ((List.range count).flatMap items).length = count * size := by
  induction count with
  | zero =>
    rw [Nat.zero_mul]
    exact ⟨nil, rfl⟩
  | succ count ih =>
    obtain ⟨front, length⟩ := ih fun index before => round index (by omega)
    obtain ⟨last, sized⟩ := round count (Nat.lt_succ_self count)
    rw [List.range_succ, List.flatMap_append, List.flatMap_append, List.flatMap_singleton,
      List.flatMap_singleton]
    refine ⟨front.append ?_, ?_⟩
    · rw [length]
      exact last
    · rw [List.length_append, length, sized, Nat.succ_mul]

end Spells

def coveredIn (size : Nat) (patches : List (Patch α)) : Finset Nat :=
  (Finset.range size).filter fun address => ∃ patch ∈ patches, patch.Covers address

theorem mem_coveredIn : address ∈ coveredIn size patches ↔
      address < size ∧ ∃ patch ∈ patches, patch.Covers address := by
  rw [coveredIn, Finset.mem_filter, Finset.mem_range]

theorem covered_of_card (enough : size ≤ (coveredIn size patches).card) (inside : address < size) :
    ∃ patch ∈ patches, patch.Covers address := by
  have all : coveredIn size patches = Finset.range size := by
    apply Finset.eq_of_subset_of_card_le (Finset.filter_subset _ _)
    rw [Finset.card_range]
    exact enough
  have member : address ∈ coveredIn size patches := by
    rw [all]
    exact Finset.mem_range.mpr inside
  exact (mem_coveredIn.mp member).2

theorem card_coveredIn_fresh {patches more : List (Patch α)}
    (members : ∀ other, other ∈ more ↔ other ∈ patches ∨ other = patch)
    (fresh : ∀ address, patch.Covers address →
      address < size ∧ ¬ ∃ other ∈ patches, other.Covers address) :
    (coveredIn size more).card = (coveredIn size patches).card + patch.items.length := by
  have split : coveredIn size more =
      coveredIn size patches ∪ Finset.Ico patch.start (patch.start + patch.items.length) := by
    ext address
    rw [Finset.mem_union, mem_coveredIn, mem_coveredIn, Finset.mem_Ico]
    constructor
    · rintro ⟨inside, other, member, covers⟩
      rcases (members other).mp member with before | rfl
      · exact Or.inl ⟨inside, other, before, covers⟩
      · exact Or.inr covers
    · rintro (⟨inside, other, member, covers⟩ | covers)
      · exact ⟨inside, other, (members other).mpr (Or.inl member), covers⟩
      · exact ⟨(fresh address covers).1, patch, (members patch).mpr (Or.inr rfl), covers⟩
  have disjoint : Disjoint (coveredIn size patches)
      (Finset.Ico patch.start (patch.start + patch.items.length)) := by
    rw [Finset.disjoint_left]
    intro address before now
    exact (fresh address (Finset.mem_Ico.mp now)).2 (mem_coveredIn.mp before).2
  rw [split, Finset.card_union_of_disjoint disjoint, Nat.card_Ico, Nat.add_sub_cancel_left]

end Patch
