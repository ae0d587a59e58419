import Mathlib.Data.List.Basic
import Mathlib.Data.List.ReduceOption
import Mathlib.Data.Int.ModEq
import Mathlib.Data.Nat.Bitwise
import Mathlib.Logic.Function.Basic
import Mathlib.Tactic.IntervalCases

/-! Index ring buffers (`os/lib/ringbufindex.c`). The pointers are `uint8_t`, so the
wrap-around of `put_ptr - get_ptr` is the one of `UInt8`. A well-formed ring is a
bounded FIFO of array indices, and an array indexed by it a bounded FIFO of values. -/

structure RingBufIndex where
  mask : UInt8
  putPtr : UInt8
  getPtr : UInt8
deriving DecidableEq, Repr, Inhabited

namespace RingBufIndex

/-- `ringbufindex_init`. A size of 256 arrives as the byte 0 and gives the mask 255. -/
def ringbufindexInit (size : UInt8) : RingBufIndex := ⟨size - 1, 0, 0⟩

variable (ring : RingBufIndex)

def ringbufindexElements : UInt8 :=
  (ring.putPtr - ring.getPtr) &&& ring.mask

def ringbufindexEmpty : Bool :=
  ring.ringbufindexElements == 0

def ringbufindexPut : Bool × RingBufIndex :=
  if ((ring.putPtr - ring.getPtr) &&& ring.mask) = ring.mask then (false, ring)
  else (true, { ring with putPtr := (ring.putPtr + 1) &&& ring.mask })

def ringbufindexPeekPut : Option UInt8 :=
  if ((ring.putPtr - ring.getPtr) &&& ring.mask) = ring.mask then none else some ring.putPtr

def ringbufindexGet : Option UInt8 × RingBufIndex :=
  if 0 < ((ring.putPtr - ring.getPtr) &&& ring.mask) then
    (some ring.getPtr, { ring with getPtr := (ring.getPtr + 1) &&& ring.mask })
  else (none, ring)

def ringbufindexPeekGet : Option UInt8 :=
  if 0 < ((ring.putPtr - ring.getPtr) &&& ring.mask) then some ring.getPtr else none

def capacity : Nat := ring.mask.toNat + 1

structure WellFormed (ring : RingBufIndex) : Prop where
  power : ∃ exponent ≤ 8, ring.capacity = 2 ^ exponent
  put_le : ring.putPtr ≤ ring.mask
  get_le : ring.getPtr ≤ ring.mask

section

variable {ring : RingBufIndex} (wellFormed : ring.WellFormed)
include wellFormed

theorem WellFormed.and_mask (value : UInt8) :
    (value &&& ring.mask).toNat = value.toNat % ring.capacity := by
  obtain ⟨exponent, _, capacityEq⟩ := wellFormed.power
  have maskEq : ring.mask.toNat = 2 ^ exponent - 1 := by
    unfold capacity at capacityEq
    omega
  rw [UInt8.toNat_and, maskEq, Nat.and_two_pow_sub_one_eq_mod, capacityEq]

theorem WellFormed.mod_byte (value : Nat) :
    value % 256 % ring.capacity = value % ring.capacity := by
  obtain ⟨exponent, bound, capacityEq⟩ := wellFormed.power
  rw [capacityEq]
  apply Nat.mod_mod_of_dvd
  exact pow_dvd_pow 2 bound

theorem WellFormed.elements_eq :
    ring.ringbufindexElements.toNat =
      (ring.putPtr.toNat + ring.capacity - ring.getPtr.toNat) % ring.capacity := by
  obtain ⟨exponent, bound, capacityEq⟩ := wellFormed.power
  have getBound : ring.getPtr.toNat ≤ ring.mask.toNat := UInt8.le_iff_toNat_le.mp wellFormed.get_le
  have divides : ring.capacity ∣ 256 := by
    rw [capacityEq]
    exact pow_dvd_pow 2 bound
  obtain ⟨factor, factorEq⟩ := divides
  have factorPos : 1 ≤ factor := by
    rcases Nat.eq_zero_or_pos factor with zero | positive
    · simp [zero] at factorEq
    · exact positive
  unfold ringbufindexElements
  rw [wellFormed.and_mask, UInt8.toNat_sub, wellFormed.mod_byte]
  have regroup : 256 - ring.getPtr.toNat + ring.putPtr.toNat =
      (ring.putPtr.toNat + ring.capacity - ring.getPtr.toNat) + ring.capacity * (factor - 1) := by
    have expand : ring.capacity * (factor - 1) + ring.capacity = 256 := by
      rw [factorEq, ← Nat.mul_succ]
      congr 1
      omega
    unfold capacity at expand ⊢
    omega
  rw [regroup, Nat.add_mul_mod_self_left]

end

def indices (ring : RingBufIndex) : List Nat :=
  (List.range ring.ringbufindexElements.toNat).map fun offset =>
    (ring.getPtr.toNat + offset) % ring.capacity

theorem capacity_pos (ring : RingBufIndex) : 0 < ring.capacity := Nat.succ_pos _

theorem WellFormed.elements_lt {ring : RingBufIndex} (wellFormed : ring.WellFormed) :
    ring.ringbufindexElements.toNat < ring.capacity := by
  rw [wellFormed.elements_eq]
  exact Nat.mod_lt _ ring.capacity_pos

theorem WellFormed.put_eq {ring : RingBufIndex} (wellFormed : ring.WellFormed) :
    ring.putPtr.toNat =
      (ring.getPtr.toNat + ring.ringbufindexElements.toNat) % ring.capacity := by
  have getBound : ring.getPtr.toNat ≤ ring.mask.toNat := UInt8.le_iff_toNat_le.mp wellFormed.get_le
  have putBound : ring.putPtr.toNat ≤ ring.mask.toNat := UInt8.le_iff_toNat_le.mp wellFormed.put_le
  rw [wellFormed.elements_eq, Nat.add_mod_mod]
  have regroup : ring.getPtr.toNat + (ring.putPtr.toNat + ring.capacity - ring.getPtr.toNat) =
      ring.putPtr.toNat + ring.capacity := by
    unfold capacity
    omega
  rw [regroup, Nat.add_mod_right, Nat.mod_eq_of_lt (by unfold capacity; omega)]

@[simp] theorem indices_length (ring : RingBufIndex) :
    ring.indices.length = ring.ringbufindexElements.toNat := by
  simp [indices]

theorem slot_ne {start first second size : Nat} (between : first < second) (bound : second < size) :
    (start + first) % size ≠ (start + second) % size := by
  intro same
  have congruent : first ≡ second [MOD size] := Nat.ModEq.add_left_cancel' start same
  have equal : first = second := congruent.eq_of_lt_of_lt (by omega) bound
  omega

theorem WellFormed.elements_unique {ring : RingBufIndex} (wellFormed : ring.WellFormed)
    {distance : Nat} (bound : distance < ring.capacity)
    (reaches : (ring.getPtr.toNat + distance) % ring.capacity = ring.putPtr.toNat) :
    ring.ringbufindexElements.toNat = distance := by
  rw [wellFormed.put_eq] at reaches
  rcases Nat.lt_trichotomy distance ring.ringbufindexElements.toNat with less | equal | more
  · exact (slot_ne less wellFormed.elements_lt reaches).elim
  · exact equal.symm
  · exact (slot_ne more bound reaches.symm).elim

theorem WellFormed.put_not_mem {ring : RingBufIndex} (wellFormed : ring.WellFormed) :
    ring.putPtr.toNat ∉ ring.indices := by
  intro member
  simp only [indices, List.mem_map, List.mem_range] at member
  obtain ⟨offset, below, same⟩ := member
  rw [wellFormed.put_eq] at same
  exact slot_ne below wellFormed.elements_lt same

theorem WellFormed.full_iff {ring : RingBufIndex} :
    (ring.putPtr - ring.getPtr) &&& ring.mask = ring.mask ↔
      ring.indices.length = ring.mask.toNat := by
  rw [indices_length, ringbufindexElements]
  exact UInt8.toNat_inj.symm

theorem WellFormed.nonempty_iff {ring : RingBufIndex} :
    0 < ((ring.putPtr - ring.getPtr) &&& ring.mask) ↔ ring.indices ≠ [] := by
  rw [← List.length_pos_iff, indices_length, ringbufindexElements, UInt8.lt_iff_toNat_lt]
  simp

theorem ringbufindexEmpty_iff (ring : RingBufIndex) :
    ring.ringbufindexEmpty = true ↔ ring.indices = [] := by
  rw [← List.length_eq_zero_iff, indices_length, ringbufindexEmpty, beq_iff_eq, ← UInt8.toNat_inj]
  rfl

theorem init_wellFormed {size : Nat} (power : ∃ exponent, size = 2 ^ exponent) :
    (ringbufindexInit (UInt8.ofNat size)).WellFormed := by
  have start : 0 ≤ (ringbufindexInit (UInt8.ofNat size)).mask := by
    simp [UInt8.le_iff_toNat_le]
  obtain ⟨exponent, rfl⟩ := power
  rcases le_total exponent 8 with small | large
  · refine ⟨⟨exponent, small, ?_⟩, start, start⟩
    interval_cases exponent <;> rfl
  · -- the size is a byte: 256 and more wrap to 0 and give the mask 255
    have wrapped : UInt8.ofNat (2 ^ exponent) = 0 := by
      obtain ⟨rest, rfl⟩ := Nat.exists_eq_add_of_le large
      rw [← UInt8.toNat_inj, UInt8.toNat_ofNat', pow_add]
      exact Nat.mul_mod_right 256 (2 ^ rest)
    refine ⟨⟨8, le_refl 8, ?_⟩, start, start⟩
    rw [wrapped]
    rfl

@[simp] theorem init_indices (size : UInt8) : (ringbufindexInit size).indices = [] := by
  simp [indices, ringbufindexInit, ringbufindexElements]

section

variable {ring : RingBufIndex} (wellFormed : ring.WellFormed)
include wellFormed

theorem WellFormed.advance (index : UInt8) :
    ((index + 1) &&& ring.mask).toNat = (index.toNat + 1) % ring.capacity := by
  rw [wellFormed.and_mask, UInt8.toNat_add]
  exact wellFormed.mod_byte _

theorem WellFormed.advance_le (index : UInt8) : (index + 1) &&& ring.mask ≤ ring.mask := by
  rw [UInt8.le_iff_toNat_le, wellFormed.advance]
  have bound := Nat.mod_lt (index.toNat + 1) ring.capacity_pos
  unfold capacity at bound ⊢
  omega

theorem WellFormed.put (space : ring.indices.length ≠ ring.mask.toNat) :
    ring.ringbufindexPut.1 = true ∧ ring.ringbufindexPut.2.WellFormed ∧
      ring.ringbufindexPut.2.indices = ring.indices ++ [ring.putPtr.toNat] := by
  have notFull : ¬ (ring.putPtr - ring.getPtr) &&& ring.mask = ring.mask :=
    fun full => space (full_iff.mp full)
  unfold ringbufindexPut
  rw [if_neg notFull]
  have nextWellFormed : WellFormed { ring with putPtr := (ring.putPtr + 1) &&& ring.mask } :=
    ⟨wellFormed.power, wellFormed.advance_le _, wellFormed.get_le⟩
  refine ⟨rfl, nextWellFormed, ?_⟩
  have below := wellFormed.elements_lt
  have count : (ringbufindexElements { ring with putPtr := (ring.putPtr + 1) &&& ring.mask }).toNat =
      ring.ringbufindexElements.toNat + 1 := by
    apply nextWellFormed.elements_unique
    · rw [indices_length] at space
      change _ < ring.capacity
      unfold capacity at below ⊢
      omega
    · simp only [wellFormed.advance]
      change (ring.getPtr.toNat + (ring.ringbufindexElements.toNat + 1)) % ring.capacity = _
      rw [wellFormed.put_eq, Nat.mod_add_mod, Nat.add_assoc]
  unfold indices
  rw [count, List.range_succ, List.map_append, List.map_singleton]
  change _ ++ [(ring.getPtr.toNat + ring.ringbufindexElements.toNat) % ring.capacity] = _
  rw [← wellFormed.put_eq]
  rfl

theorem WellFormed.get (nonempty : ring.indices ≠ []) :
    ring.ringbufindexGet.1 = some ring.getPtr ∧ ring.ringbufindexGet.2.WellFormed ∧
      ring.indices = ring.getPtr.toNat :: ring.ringbufindexGet.2.indices := by
  unfold ringbufindexGet
  rw [if_pos (nonempty_iff.mpr nonempty)]
  have nextWellFormed : WellFormed { ring with getPtr := (ring.getPtr + 1) &&& ring.mask } :=
    ⟨wellFormed.power, wellFormed.put_le, wellFormed.advance_le _⟩
  refine ⟨rfl, nextWellFormed, ?_⟩
  have getBound : ring.getPtr.toNat ≤ ring.mask.toNat := UInt8.le_iff_toNat_le.mp wellFormed.get_le
  have below := wellFormed.elements_lt
  have positive : 0 < ring.ringbufindexElements.toNat := by
    rw [← indices_length]
    exact List.length_pos_iff.mpr nonempty
  have fewer : (ringbufindexElements { ring with getPtr := (ring.getPtr + 1) &&& ring.mask }).toNat =
      ring.ringbufindexElements.toNat - 1 := by
    apply nextWellFormed.elements_unique
    · change _ < ring.capacity
      omega
    · simp only [wellFormed.advance]
      change ((ring.getPtr.toNat + 1) % ring.capacity + (ring.ringbufindexElements.toNat - 1)) %
        ring.capacity = ring.putPtr.toNat
      rw [wellFormed.put_eq, Nat.mod_add_mod]
      congr 1
      omega
  have count : ring.ringbufindexElements.toNat =
      (ringbufindexElements { ring with getPtr := (ring.getPtr + 1) &&& ring.mask }).toNat + 1 := by
    omega
  unfold indices
  rw [count, List.range_succ_eq_map, List.map_cons, List.map_map]
  congr 1
  · rw [Nat.add_zero, Nat.mod_eq_of_lt (by unfold capacity; omega)]
  · apply List.map_congr_left
    intro offset _
    change (ring.getPtr.toNat + (offset + 1)) % ring.capacity =
      (((ring.getPtr + 1) &&& ring.mask).toNat + offset) % ring.capacity
    rw [wellFormed.advance, Nat.mod_add_mod]
    congr 1
    omega

end

def contents {α : Type} (ring : RingBufIndex) (array : Nat → α) : List α := ring.indices.map array

theorem contents_update_of_not_mem {α : Type} (ring : RingBufIndex) (array : Nat → α) {slot : Nat}
    (value : α) (free : slot ∉ ring.indices) :
    ring.contents (Function.update array slot value) = ring.contents array := by
  apply List.map_congr_left
  intro index member
  have different : index ≠ slot := fun same => free (same ▸ member)
  simp [different]

theorem WellFormed.put_contents {α : Type} {ring : RingBufIndex} (wellFormed : ring.WellFormed)
    (space : ring.indices.length ≠ ring.mask.toNat) (array : Nat → α) (value : α) :
    ring.ringbufindexPut.2.contents (Function.update array ring.putPtr.toNat value) =
      ring.contents array ++ [value] := by
  have appended := (wellFormed.put space).2.2
  have kept := ring.contents_update_of_not_mem array value wellFormed.put_not_mem
  unfold contents at kept ⊢
  rw [appended, List.map_append, kept]
  simp

theorem WellFormed.get_contents {α : Type} {ring : RingBufIndex} (wellFormed : ring.WellFormed)
    (nonempty : ring.indices ≠ []) (array : Nat → α) :
    ring.contents array = array ring.getPtr.toNat :: ring.ringbufindexGet.2.contents array := by
  have removed := (wellFormed.get nonempty).2.2
  unfold contents
  rw [removed]
  rfl

structure Holds {α : Type} (ring : RingBufIndex) (array : Nat → Option α) (values : List α) :
    Prop where
  wellFormed : ring.WellFormed
  contents_eq : ring.contents array = values.map some

namespace Holds

variable {α : Type} {ring : RingBufIndex} {array : Nat → Option α}

theorem init {size : Nat} (power : ∃ exponent, size = 2 ^ exponent) (array : Nat → Option α) :
    (ringbufindexInit (UInt8.ofNat size)).Holds array [] :=
  ⟨init_wellFormed power, by simp [contents]⟩

variable {values : List α}

section

variable (holds : ring.Holds array values)
include holds

theorem reduceOption_eq : (ring.contents array).reduceOption = values := by
  rw [holds.contents_eq]
  clear holds
  induction values with
  | nil => rfl
  | cons value rest ih => rw [List.map_cons, List.reduceOption_cons_of_some, ih]

theorem elements_eq :
    ring.ringbufindexElements.toNat = values.length := by
  have length := congrArg List.length holds.contents_eq
  simpa [contents] using length

theorem indices_eq_nil : ring.indices = [] ↔ values = [] := by
  rw [← List.length_eq_zero_iff, indices_length, holds.elements_eq, List.length_eq_zero_iff]

theorem empty_iff :
    ring.ringbufindexEmpty = true ↔ values = [] := by
  rw [ringbufindexEmpty_iff, holds.indices_eq_nil]

theorem put {index : UInt8} (announced : ring.ringbufindexPeekPut = some index) (value : α) :
    ring.ringbufindexPut.2.Holds (Function.update array index.toNat (some value))
      (values ++ [value]) := by
  unfold ringbufindexPeekPut at announced
  split at announced
  · cases announced
  · rename_i notFull
    cases announced
    have space : ring.indices.length ≠ ring.mask.toNat :=
      fun full => notFull (WellFormed.full_iff.mpr full)
    refine ⟨(holds.wellFormed.put space).2.1, ?_⟩
    rw [holds.wellFormed.put_contents space, holds.contents_eq]
    simp

end

theorem get_nil (holds : ring.Holds array []) :
    ring.ringbufindexGet = (none, ring) ∧ ring.ringbufindexPeekGet = none := by
  have empty : ¬ 0 < ((ring.putPtr - ring.getPtr) &&& ring.mask) := by
    rw [WellFormed.nonempty_iff, not_not, holds.indices_eq_nil]
  exact ⟨if_neg empty, if_neg empty⟩

theorem get_cons {value : α} (holds : ring.Holds array (value :: values)) :
    ring.ringbufindexGet = (some ring.getPtr, ring.ringbufindexGet.2) ∧
    ring.ringbufindexPeekGet = some ring.getPtr ∧ array ring.getPtr.toNat = some value ∧
    ring.ringbufindexGet.2.Holds array values := by
  have nonempty : ring.indices ≠ [] := by
    rw [ne_eq, holds.indices_eq_nil]
    simp
  obtain ⟨head, wellFormed, _⟩ := holds.wellFormed.get nonempty
  have split := holds.wellFormed.get_contents nonempty array
  rw [holds.contents_eq, List.map_cons, List.cons.injEq] at split
  refine ⟨?_, if_pos (WellFormed.nonempty_iff.mpr nonempty), split.1.symm, wellFormed,
    split.2.symm⟩
  rw [← head]

theorem peekGet_eq (holds : ring.Holds array values) :
    (ring.ringbufindexPeekGet.bind fun index => array index.toNat) = values.head? := by
  cases values with
  | nil => rw [holds.get_nil.2]; rfl
  | cons value rest =>
    obtain ⟨-, peek, stored, -⟩ := holds.get_cons
    rw [peek, Option.bind_some, stored, List.head?_cons]

theorem announced_get {value : α} (holds : ring.Holds array (value :: values))
    {index : UInt8} (announced : ring.ringbufindexPeekPut = some index) :
    ring.ringbufindexGet.2.ringbufindexPeekPut = some index := by
  have rest := holds.get_cons.2.2.2
  have nonempty : ring.indices ≠ [] := by
    rw [ne_eq, holds.indices_eq_nil]
    simp
  have same : ring.ringbufindexGet.2.mask = ring.mask ∧
      ring.ringbufindexGet.2.putPtr = ring.putPtr := by
    unfold ringbufindexGet
    rw [if_pos (WellFormed.nonempty_iff.mpr nonempty)]
    exact ⟨rfl, rfl⟩
  have space : ¬ ring.ringbufindexGet.2.indices.length = ring.ringbufindexGet.2.mask.toNat := by
    have before := holds.elements_eq
    have after := rest.elements_eq
    have below := holds.wellFormed.elements_lt
    rw [List.length_cons] at before
    rw [indices_length, same.1, after]
    unfold capacity at below
    omega
  unfold ringbufindexPeekPut at announced ⊢
  rw [if_neg fun full => space (WellFormed.full_iff.mp full), same.2]
  split at announced
  · cases announced
  · exact announced

end Holds

end RingBufIndex
