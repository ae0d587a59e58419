import MultiPhyTsch.Lib.RingBufIndex

/-! The calls of `ringbufindex.c` in any order, against a bounded FIFO of indices that counts what
was put and what was taken. -/

namespace RingBufIndex

def ringbufindexFull (ring : RingBufIndex) : Bool :=
  ((ring.putPtr - ring.getPtr) &&& ring.mask) == ring.mask

inductive Call where
  | put
  | get
  | peekPut
  | peekGet
  | empty
  | full
  | elements
deriving DecidableEq, Repr

def indexOrError (index : Option Nat) : Int := (index.map Int.ofNat).getD (-1)

def truth (value : Bool) : Int := value.toNat

/-- The value a call returns and the ring it leaves. -/
def Call.run (ring : RingBufIndex) : Call → Int × RingBufIndex
  | put => (truth ring.ringbufindexPut.1, ring.ringbufindexPut.2)
  | get => (indexOrError (ring.ringbufindexGet.1.map UInt8.toNat), ring.ringbufindexGet.2)
  | peekPut => (indexOrError (ring.ringbufindexPeekPut.map UInt8.toNat), ring)
  | peekGet => (indexOrError (ring.ringbufindexPeekGet.map UInt8.toNat), ring)
  | empty => (truth ring.ringbufindexEmpty, ring)
  | full => (truth ring.ringbufindexFull, ring)
  | elements => (ring.ringbufindexElements.toNat, ring)

/-- The indices held, oldest first, with the numbers of indices put and taken so far. -/
structure IndexFifo where
  size : Nat
  held : List Nat
  puts : Nat
  gets : Nat

def IndexFifo.isFull (fifo : IndexFifo) : Bool := fifo.held.length = fifo.size - 1

def Call.spec (fifo : IndexFifo) : Call → Int × IndexFifo
  | put =>
    if fifo.isFull then (0, fifo)
    else
      (1, { fifo with held := fifo.held ++ [fifo.puts % fifo.size], puts := fifo.puts + 1 })
  | get =>
    (indexOrError fifo.held.head?,
      { fifo with held := fifo.held.tail, gets := fifo.gets + fifo.held.head?.toList.length })
  | peekPut => (indexOrError (if fifo.isFull then none else some (fifo.puts % fifo.size)), fifo)
  | peekGet => (indexOrError fifo.held.head?, fifo)
  | empty => (truth fifo.held.isEmpty, fifo)
  | full => (truth fifo.isFull, fifo)
  | elements => (fifo.puts - fifo.gets, fifo)

def results {State : Type} (step : State → Call → Int × State) : State → List Call → List Int
  | _, [] => []
  | state, call :: rest => (step state call).1 :: results step (step state call).2 rest

structure Tracks (ring : RingBufIndex) (fifo : IndexFifo) : Prop where
  wellFormed : ring.WellFormed
  size : ring.capacity = fifo.size
  held : ring.indices = fifo.held
  next : ring.putPtr.toNat = fifo.puts % fifo.size
  counts : fifo.gets + fifo.held.length = fifo.puts

namespace Tracks

variable {ring : RingBufIndex} {fifo : IndexFifo} (tracks : Tracks ring fifo)
include tracks

theorem mask_eq : ring.mask.toNat = fifo.size - 1 := by
  rw [← tracks.size, capacity, Nat.add_sub_cancel]

theorem full_iff : (ring.putPtr - ring.getPtr) &&& ring.mask = ring.mask ↔ fifo.isFull = true := by
  rw [WellFormed.full_iff, tracks.held, tracks.mask_eq, IndexFifo.isFull, decide_eq_true_eq]

theorem elements_eq : ring.ringbufindexElements.toNat = fifo.held.length := by
  rw [← indices_length, tracks.held]

theorem ringbufindexFull_eq : ring.ringbufindexFull = fifo.isFull := by
  rw [Bool.eq_iff_iff, ← tracks.full_iff, ringbufindexFull, beq_iff_eq]

theorem ringbufindexEmpty_eq : ring.ringbufindexEmpty = fifo.held.isEmpty := by
  rw [Bool.eq_iff_iff, ringbufindexEmpty_iff, tracks.held, List.isEmpty_iff]

theorem put_step : (Call.run ring .put).1 = (Call.spec fifo .put).1 ∧
    Tracks (Call.run ring .put).2 (Call.spec fifo .put).2 := by
  simp only [Call.run, Call.spec]
  by_cases full : fifo.isFull = true
  · have kept : ring.ringbufindexPut = (false, ring) := if_pos (tracks.full_iff.mpr full)
    rw [kept, if_pos full]
    exact ⟨rfl, tracks⟩
  · have space : ring.indices.length ≠ ring.mask.toNat := fun same =>
      full (tracks.full_iff.mp (WellFormed.full_iff.mpr same))
    obtain ⟨succeeded, wellFormed, appended⟩ := tracks.wellFormed.put space
    have next : ring.ringbufindexPut.2.putPtr = (ring.putPtr + 1) &&& ring.mask ∧
        ring.ringbufindexPut.2.mask = ring.mask := by
      unfold ringbufindexPut
      rw [if_neg fun same => full (tracks.full_iff.mp same)]
      exact ⟨rfl, rfl⟩
    rw [if_neg full, succeeded]
    refine ⟨rfl, wellFormed, ?_, ?_, ?_, ?_⟩
    · rw [capacity, next.2]
      exact tracks.size
    · rw [appended, tracks.held, tracks.next]
    · rw [next.1, tracks.wellFormed.advance, tracks.size, tracks.next, Nat.mod_add_mod]
    · have counts := tracks.counts
      simp only [List.length_append, List.length_singleton]
      omega

theorem get_step : (Call.run ring .get).1 = (Call.spec fifo .get).1 ∧
    Tracks (Call.run ring .get).2 (Call.spec fifo .get).2 := by
  simp only [Call.run, Call.spec]
  by_cases empty : fifo.held = []
  · have nothing : ¬ 0 < ((ring.putPtr - ring.getPtr) &&& ring.mask) := by
      rw [WellFormed.nonempty_iff, tracks.held, not_not]
      exact empty
    have kept : ring.ringbufindexGet = (none, ring) := if_neg nothing
    have same : { fifo with held := [], gets := fifo.gets + 0 } = fifo := by
      cases fifo
      cases empty
      rfl
    rw [kept, empty]
    exact ⟨rfl, same ▸ tracks⟩
  · obtain ⟨head, wellFormed, split⟩ := tracks.wellFormed.get (tracks.held ▸ empty)
    have same : ring.ringbufindexGet.2.putPtr = ring.putPtr ∧
        ring.ringbufindexGet.2.mask = ring.mask := by
      unfold ringbufindexGet
      split <;> exact ⟨rfl, rfl⟩
    rw [tracks.held] at split
    rw [head, split]
    refine ⟨rfl, wellFormed, ?_, rfl, ?_, ?_⟩
    · rw [capacity, same.2]
      exact tracks.size
    · rw [same.1]
      exact tracks.next
    · have counts := tracks.counts
      rw [split] at counts
      simp only [List.length_cons] at counts
      simp only [List.head?_cons, Option.toList_some, List.length_singleton, List.tail_cons]
      omega

theorem peekPut_eq : ring.ringbufindexPeekPut.map UInt8.toNat =
    if fifo.isFull then none else some (fifo.puts % fifo.size) := by
  unfold ringbufindexPeekPut
  by_cases full : fifo.isFull = true
  · rw [if_pos (tracks.full_iff.mpr full), if_pos full]
    rfl
  · rw [if_neg fun same => full (tracks.full_iff.mp same), if_neg full, ← tracks.next]
    rfl

theorem peekGet_eq : ring.ringbufindexPeekGet.map UInt8.toNat = fifo.held.head? := by
  rw [← tracks.held]
  unfold ringbufindexPeekGet
  by_cases empty : ring.indices = []
  · rw [if_neg fun some => WellFormed.nonempty_iff.mp some empty, empty]
    rfl
  · rw [if_pos (WellFormed.nonempty_iff.mpr empty), (tracks.wellFormed.get empty).2.2]
    rfl

theorem step (call : Call) : (call.run ring).1 = (call.spec fifo).1 ∧
    Tracks (call.run ring).2 (call.spec fifo).2 := by
  cases call with
  | put => exact tracks.put_step
  | get => exact tracks.get_step
  | peekPut => exact ⟨congrArg indexOrError tracks.peekPut_eq, tracks⟩
  | peekGet => exact ⟨congrArg indexOrError tracks.peekGet_eq, tracks⟩
  | empty => exact ⟨congrArg truth tracks.ringbufindexEmpty_eq, tracks⟩
  | full => exact ⟨congrArg truth tracks.ringbufindexFull_eq, tracks⟩
  | elements =>
    refine ⟨?_, tracks⟩
    have counts := tracks.counts
    have elements := tracks.elements_eq
    simp only [Call.run, Call.spec]
    omega

theorem results_eq (calls : List Call) :
    results Call.run ring calls = results Call.spec fifo calls := by
  induction calls generalizing ring fifo with
  | nil => rfl
  | cons call rest ih =>
    obtain ⟨same, next⟩ := tracks.step call
    rw [results, results, same, ih next]

end Tracks

theorem init_tracks {size : Nat} (power : ∃ exponent ≤ 7, size = 2 ^ exponent) :
    Tracks (ringbufindexInit (UInt8.ofNat size)) ⟨size, [], 0, 0⟩ := by
  obtain ⟨exponent, small, rfl⟩ := power
  refine ⟨init_wellFormed ⟨exponent, rfl⟩, ?_, init_indices _, ?_, rfl⟩
  · interval_cases exponent <;> rfl
  · exact (Nat.zero_mod _).symm

/-- Every call returns what it returns for the FIFO of `size - 1` indices: the indices are put in
turn, from 0 on and modulo the size, and taken in this order. -/
theorem ringbufindex_fifo {size : Nat} (power : ∃ exponent ≤ 7, size = 2 ^ exponent)
    (calls : List Call) :
    results Call.run (ringbufindexInit (UInt8.ofNat size)) calls =
      results Call.spec ⟨size, [], 0, 0⟩ calls :=
  (init_tracks power).results_eq calls

theorem ringbufindex_fifo_two :
    results Call.run (ringbufindexInit 2) [.put, .put, .get, .peekPut, .put, .elements, .get] =
      [1, 0, 0, 1, 1, 1, 1] :=
  (ringbufindex_fifo ⟨1, by decide, rfl⟩
    [.put, .put, .get, .peekPut, .put, .elements, .get]).trans (by decide)

end RingBufIndex
