import MultiPhyTsch.Lib.HeapClient

/-! The allocator with the sums of a `size_t`, which is at least as wide as an `int`: what it does for
the sizes that wrap around. For a size that the arena could have it is the allocator without. -/

namespace MultiPhyTsch

namespace HeapConf

variable (conf : HeapConf)

def wrap (value : Nat) : Nat := value % 256 ^ conf.wordSize

def alignWord (size : Nat) : Nat :=
  conf.wrap (size + (conf.alignment - 1)) / conf.alignment * conf.alignment

end HeapConf

namespace HeapWords

open Heap

variable (conf : HeapConf)

def extendSpace (size : Nat) (heap : Heap) : Option Nat × Heap :=
  if conf.wrap (heap.usage + size) > conf.arenaSize then (none, heap)
  else (some heap.usage, { heap with usage := conf.wrap (heap.usage + size) })

def splitChunk (chunk offset : Nat) (heap : Heap) : Heap :=
  let offset := conf.alignWord offset
  if conf.wrap (offset + conf.chunkSize) < heap.size conf chunk then
    let newChunk := chunk + conf.wrap (offset + conf.chunkSize)
    let heap := heap.setSize conf newChunk
      (heap.size conf chunk - conf.wrap (offset + conf.chunkSize))
    let heap := (heap.setFlags conf newChunk 0).freeChunk conf newChunk
    ((heap.setSize conf chunk offset).setPrev conf chunk none).setNext conf chunk none
  else heap

def getFreeChunk (size : Nat) (heap : Heap) : Option Nat × Heap :=
  let heap := heap.defragChunks conf
  match heap.bestFrom conf size conf.searchMax heap.freeList none with
  | some best => (some best, splitChunk conf best size (heap.allocateChunk conf best))
  | none => (none, heap)

def heapmemAlloc (size : Nat) (heap : Heap) : Option Nat × Heap :=
  let size := conf.alignWord size
  match getFreeChunk conf size heap with
  | (some chunk, heap) =>
    (some (getPtr conf chunk), heap.setFlags conf chunk chunkFlagAllocated)
  | (none, heap) =>
    match extendSpace conf (conf.wrap (conf.chunkSize + size)) heap with
    | (some chunk, heap) =>
      (some (getPtr conf chunk),
        (heap.setSize conf chunk size).setFlags conf chunk chunkFlagAllocated)
    | (none, heap) => (none, heap)

def moveObject (ptr size : Nat) (heap : Heap) : Option Nat × Heap :=
  match heapmemAlloc conf size heap with
  | (some newptr, heap) =>
    let chunk := getChunk conf ptr
    let heap := { heap with
      mem := heap.mem.write newptr (heap.mem.read ptr (heap.size conf chunk)) }
    (some newptr, heap.freeChunk conf chunk)
  | (none, heap) => (none, heap)

def heapmemRealloc (ptr : Option Nat) (size : Nat) (heap : Heap) : Option Nat × Heap :=
  match ptr with
  | none => heapmemAlloc conf size heap
  | some ptr =>
    if size = 0 then (none, heap.heapmemFree conf (some ptr))
    else
      let chunk := getChunk conf ptr
      let size := conf.alignWord size
      let sizeAdj := conf.toInt ((size : Int) - heap.size conf chunk)
      if sizeAdj ≤ 0 then (some ptr, splitChunk conf chunk size heap)
      else if heap.isLastChunk conf chunk then
        match extendSpace conf (conf.wrap sizeAdj.toNat) heap with
        | (some _, heap) => (some ptr, heap.setSize conf chunk size)
        | (none, heap) => moveObject conf ptr size heap
      else
        let heap := heap.coalesceChunks conf chunk
        if heap.size conf chunk ≥ size then (some ptr, splitChunk conf chunk size heap)
        else moveObject conf ptr size heap

end HeapWords

namespace HeapConf

variable {conf : HeapConf}

theorem wrap_of_lt {value : Nat} (small : value < 256 ^ conf.wordSize) : conf.wrap value = value :=
  Nat.mod_eq_of_lt small

theorem align_lt (size : Nat) : conf.align size < size + conf.alignment := by
  have positive := conf.alignment_pos
  have below := Nat.div_mul_le_self (size + (conf.alignment - 1)) conf.alignment
  unfold align
  omega

theorem fits_alignment (conf : HeapConf) :
    2 * (conf.arenaSize + conf.chunkSize + conf.alignment) < 256 ^ conf.wordSize := by
  have fits := conf.fits
  have positive := conf.base_pos
  unfold chunkSize alignment
  omega

variable {size : Nat}

theorem alignWord_of_lt (small : size + (conf.alignment - 1) < 256 ^ conf.wordSize) :
    conf.alignWord size = conf.align size := by
  unfold alignWord align
  rw [wrap_of_lt small]

theorem alignWord_within (within : size < conf.arenaSize + conf.alignment) :
    conf.alignWord size = conf.align size := by
  have fits := conf.fits_alignment
  exact alignWord_of_lt (by omega)

theorem alignWord_last (word : size < 256 ^ conf.wordSize)
    (last : 256 ^ conf.wordSize ≤ size + (conf.alignment - 1)) : conf.alignWord size = 0 := by
  have positive := conf.alignment_pos
  have fits := conf.fits_alignment
  have wrapped : conf.wrap (size + (conf.alignment - 1)) =
      size + (conf.alignment - 1) - 256 ^ conf.wordSize := by
    unfold wrap
    rw [Nat.mod_eq_sub_mod last, Nat.mod_eq_of_lt (by omega)]
  unfold alignWord
  rw [wrapped, Nat.div_eq_of_lt (by omega), Nat.zero_mul]

theorem alignment_dvd (conf : HeapConf) : conf.alignment ∣ 256 ^ conf.wordSize := by
  have fits := conf.fits_alignment
  have power : (256 : Nat) ^ conf.wordSize = 2 ^ (8 * conf.wordSize) := by rw [Nat.pow_mul]
  have less : conf.alignBits ≤ 8 * conf.wordSize := by
    by_contra more
    have larger := Nat.pow_le_pow_right (n := 2) (by decide) (Nat.le_of_not_le more)
    rw [← power] at larger
    unfold alignment at fits
    omega
  rw [power]
  exact Nat.pow_dvd_pow 2 less

theorem alignWord_alignWord (size : Nat) : conf.alignWord (conf.alignWord size) =
    conf.alignWord size := by
  have positive := conf.alignment_pos
  obtain ⟨count, words⟩ := conf.alignment_dvd
  have below : conf.wrap (size + (conf.alignment - 1)) < 256 ^ conf.wordSize :=
    Nat.mod_lt _ (by have := conf.fits_alignment; omega)
  have fewer : conf.wrap (size + (conf.alignment - 1)) / conf.alignment < count := by
    rw [words, Nat.mul_comm] at below
    exact Nat.div_lt_of_lt_mul (by rw [Nat.mul_comm]; exact below)
  have room : (conf.wrap (size + (conf.alignment - 1)) / conf.alignment + 1) * conf.alignment ≤
      256 ^ conf.wordSize := by
    rw [words, Nat.mul_comm conf.alignment]
    exact Nat.mul_le_mul_right _ fewer
  rw [Nat.add_one_mul] at room
  have aligned : conf.alignWord size =
      conf.wrap (size + (conf.alignment - 1)) / conf.alignment * conf.alignment := rfl
  rw [alignWord_of_lt (by rw [aligned]; omega), aligned, align_multiple]

theorem alignWord_large (large : conf.arenaSize < size) (word : size < 256 ^ conf.wordSize) :
    conf.alignWord size = 0 ∨ conf.arenaSize < conf.alignWord size := by
  rcases Nat.lt_or_ge (size + (conf.alignment - 1)) (256 ^ conf.wordSize) with fits | last
  · rw [alignWord_of_lt fits]
    exact Or.inr (Nat.lt_of_lt_of_le large (conf.le_align size))
  · exact Or.inl (alignWord_last word last)

end HeapConf

namespace HeapWords

open Heap Tiling LinkedList HeapConf

variable {conf : HeapConf} {heap : Heap} {spans : List Span} {free : List Nat}

theorem splitChunk_eq {offset : Nat} (within : offset < conf.arenaSize + conf.alignment)
    (chunk : Nat) :
    splitChunk conf chunk offset heap = heap.splitChunk conf chunk offset := by
  have fits := conf.fits_alignment
  have rounded := @align_lt conf offset
  have apart : chunk + (conf.align offset + conf.chunkSize) =
      getPtr conf chunk + conf.align offset := by
    unfold getPtr
    omega
  have left : heap.size conf chunk - (conf.align offset + conf.chunkSize) =
      heap.size conf chunk - conf.chunkSize - conf.align offset := by omega
  unfold splitChunk Heap.splitChunk
  dsimp only
  rw [alignWord_within within, wrap_of_lt (by omega), apart, left]

section

variable (ok : Ok conf heap spans free none none)
include ok

theorem getFreeChunk_eq (size : Nat) :
    getFreeChunk conf size heap = heap.getFreeChunk conf size := by
  obtain ⟨spans', free', defragged, _, _⟩ := ok.defragChunks
  unfold getFreeChunk Heap.getFreeChunk
  dsimp only
  cases found : (heap.defragChunks conf).bestFrom conf size conf.searchMax
      (heap.defragChunks conf).freeList none with
  | none => rfl
  | some best =>
    have first : ∀ chunk, (heap.defragChunks conf).freeList = some chunk → chunk ∈ free' := by
      intro chunk same
      rw [defragged.head] at same
      exact List.mem_of_head? same
    obtain ⟨listed, enough⟩ := defragged.bestFrom size conf.searchMax first
      (fun _ same => by cases same) best found
    obtain ⟨span, member, rfl⟩ := defragged.listed best listed
    rw [defragged.sizes span member (by simp)] at enough
    have inside := defragged.small member
    have positive := conf.alignment_pos
    dsimp only
    rw [splitChunk_eq (by omega)]

end

end HeapWords

end MultiPhyTsch
