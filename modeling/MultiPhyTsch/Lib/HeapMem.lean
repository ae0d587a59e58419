import MultiPhyTsch.Lib.Memory

/-! The heap memory allocator (`heapmem.c`), as it is built without `HEAPMEM_DEBUG`. The arena is a
memory of bytes in which the headers of the chunks stand, and a pointer into it is an offset from
its base. -/

namespace MultiPhyTsch

def toBytes : Nat → Nat → List UInt8
  | 0, _ => []
  | len + 1, value => UInt8.ofNat value :: toBytes len (value / 256)

def ofBytes : List UInt8 → Nat
  | [] => 0
  | byte :: bytes => byte.toNat + 256 * ofBytes bytes

@[simp] theorem toBytes_length (len value : Nat) : (toBytes len value).length = len := by
  induction len generalizing value with
  | zero => rfl
  | succ len ih => simp [toBytes, ih]

theorem ofBytes_toBytes (len value : Nat) : ofBytes (toBytes len value) = value % 256 ^ len := by
  induction len generalizing value with
  | zero =>
    rw [Nat.pow_zero, Nat.mod_one]
    rfl
  | succ len ih =>
    have power : 256 ^ (len + 1) = 256 * 256 ^ len := by rw [Nat.pow_succ, Nat.mul_comm]
    rw [toBytes, ofBytes, ih, UInt8.toNat_ofNat', power, Nat.mod_mul]

/-- The configuration: the size of the arena, how many chunks of the free list are looked at, the
alignment as a power of two, the sizes of a `size_t` or a pointer and of an `int`, and the address of
the arena. The sizes that the allocator adds up do not wrap. -/
structure HeapConf where
  arenaSize : Nat
  searchMax : Nat
  alignBits : Nat
  wordSize : Nat
  intSize : Nat
  base : Nat
  word_pos : 0 < wordSize
  base_pos : 0 < base
  fits : base + 2 * (arenaSize + 4 * wordSize + 2 ^ alignBits) ≤ 256 ^ wordSize

namespace HeapConf

variable (conf : HeapConf)

def alignment : Nat := 2 ^ conf.alignBits

def align (size : Nat) : Nat := (size + (conf.alignment - 1)) / conf.alignment * conf.alignment

/-- `sizeof(chunk_t)`: two pointers, the size, and the flags with their padding. -/
def chunkSize : Nat := 4 * conf.wordSize

def toInt (difference : Int) : Int :=
  let value := difference % 256 ^ conf.intSize
  if 2 * value < 256 ^ conf.intSize then value else value - 256 ^ conf.intSize

def ofPtr : Option Nat → Nat
  | none => 0
  | some offset => conf.base + offset

def toPtr (value : Nat) : Option Nat := if value = 0 then none else some (value - conf.base)

end HeapConf

def chunkFlagAllocated : UInt8 := 0x1

structure Heap where
  mem : Memory UInt8
  usage : Nat
  freeList : Option Nat

namespace Heap

variable (conf : HeapConf)

def word (heap : Heap) (address : Nat) : Nat := ofBytes (heap.mem.read address conf.wordSize)

def setWord (address value : Nat) (heap : Heap) : Heap :=
  { heap with mem := heap.mem.write address (toBytes conf.wordSize value) }

variable (heap : Heap)

variable (chunk : Nat)

def prev : Option Nat := conf.toPtr (heap.word conf chunk)

def next : Option Nat :=
  conf.toPtr (heap.word conf (chunk + conf.wordSize))

def size : Nat := heap.word conf (chunk + 2 * conf.wordSize)

def flags : UInt8 := heap.mem (chunk + 3 * conf.wordSize)

def setPrev (prev : Option Nat) : Heap → Heap := setWord conf chunk (conf.ofPtr prev)

def setNext (next : Option Nat) : Heap → Heap :=
  setWord conf (chunk + conf.wordSize) (conf.ofPtr next)

def setSize (chunk size : Nat) : Heap → Heap := setWord conf (chunk + 2 * conf.wordSize) size

def setFlags (chunk : Nat) (flags : UInt8) (heap : Heap) : Heap :=
  { heap with mem := heap.mem.write (chunk + 3 * conf.wordSize) [flags] }

def setFreeList (chunk : Option Nat) (heap : Heap) : Heap := { heap with freeList := chunk }

def nextChunk (heap : Heap) (chunk : Nat) : Nat := chunk + conf.chunkSize + heap.size conf chunk

def isLastChunk (heap : Heap) (chunk : Nat) : Bool := heap.nextChunk conf chunk = heap.usage

def chunkAllocated (heap : Heap) (chunk : Nat) : Bool :=
  heap.flags conf chunk &&& chunkFlagAllocated ≠ 0

def getPtr (chunk : Nat) : Nat := chunk + conf.chunkSize

def getChunk (ptr : Nat) : Nat := ptr - conf.chunkSize

def extendSpace (size : Nat) (heap : Heap) : Option Nat × Heap :=
  if heap.usage + size > conf.arenaSize then (none, heap)
  else (some heap.usage, { heap with usage := heap.usage + size })

def freeChunk (chunk : Nat) (heap : Heap) : Heap :=
  let heap := heap.setFlags conf chunk (heap.flags conf chunk &&& ~~~chunkFlagAllocated)
  if heap.isLastChunk conf chunk then
    { heap with usage := heap.usage - (conf.chunkSize + heap.size conf chunk) }
  else
    let heap := (heap.setPrev conf chunk none).setNext conf chunk heap.freeList
    let heap := match heap.freeList with
      | some first => heap.setPrev conf first (some chunk)
      | none => heap
    heap.setFreeList (some chunk)

def allocateChunk (chunk : Nat) (heap : Heap) : Heap :=
  let heap := heap.setFlags conf chunk (heap.flags conf chunk ||| chunkFlagAllocated)
  let heap :=
    if some chunk = heap.freeList then
      let heap := heap.setFreeList (heap.next conf chunk)
      match heap.freeList with
      | some first => heap.setPrev conf first none
      | none => heap
    else
      match heap.prev conf chunk with
      | some prev => heap.setNext conf prev (heap.next conf chunk)
      -- only the first chunk of the free list has none before it
      | none => heap
  match heap.next conf chunk with
  | some next => heap.setPrev conf next (heap.prev conf chunk)
  | none => heap

def splitChunk (chunk offset : Nat) (heap : Heap) : Heap :=
  let offset := conf.align offset
  if offset + conf.chunkSize < heap.size conf chunk then
    let newChunk := getPtr conf chunk + offset
    let heap := heap.setSize conf newChunk (heap.size conf chunk - conf.chunkSize - offset)
    let heap := (heap.setFlags conf newChunk 0).freeChunk conf newChunk
    ((heap.setSize conf chunk offset).setPrev conf chunk none).setNext conf chunk none
  else heap

def coalesceFrom (chunk : Nat) : Nat → Nat → Heap → Heap
  | 0, _, heap => heap
  | rounds + 1, next, heap =>
    if next < heap.usage ∧ !heap.chunkAllocated conf next then
      let heap := heap.setSize conf chunk
        (heap.size conf chunk + (conf.chunkSize + heap.size conf next))
      let heap := heap.allocateChunk conf next
      coalesceFrom chunk rounds (heap.nextChunk conf next) heap
    else heap

def coalesceChunks (chunk : Nat) (heap : Heap) : Heap :=
  heap.coalesceFrom conf chunk heap.usage (heap.nextChunk conf chunk)

def defragFrom : Nat → Option Nat → Heap → Heap
  | 0, _, heap => heap
  | _, none, heap => heap
  | rounds + 1, some chunk, heap =>
    let heap := heap.coalesceChunks conf chunk
    defragFrom rounds (heap.next conf chunk) heap

def defragChunks (heap : Heap) : Heap := heap.defragFrom conf conf.searchMax heap.freeList

def better (heap : Heap) (size : Nat) (best : Option Nat) (chunk : Nat) : Option Nat :=
  if size ≤ heap.size conf chunk then
    match best with
    | some other =>
      if heap.size conf chunk < heap.size conf other then some chunk else some other
    | none => some chunk
  else best

def bestFrom (heap : Heap) (size : Nat) : Nat → Option Nat → Option Nat → Option Nat
  | 0, _, best => best
  | _, none, best => best
  | rounds + 1, some chunk, best =>
    let best := heap.better conf size best chunk
    if size ≤ heap.size conf chunk ∧ best.any fun best => heap.size conf best = size then best
    else heap.bestFrom size rounds (heap.next conf chunk) best

def getFreeChunk (size : Nat) (heap : Heap) : Option Nat × Heap :=
  let heap := heap.defragChunks conf
  match heap.bestFrom conf size conf.searchMax heap.freeList none with
  | some best => (some best, (heap.allocateChunk conf best).splitChunk conf best size)
  | none => (none, heap)

def heapmemAlloc (size : Nat) (heap : Heap) : Option Nat × Heap :=
  let size := conf.align size
  match heap.getFreeChunk conf size with
  | (some chunk, heap) =>
    (some (getPtr conf chunk), heap.setFlags conf chunk chunkFlagAllocated)
  | (none, heap) =>
    match heap.extendSpace conf (conf.chunkSize + size) with
    | (some chunk, heap) =>
      (some (getPtr conf chunk),
        (heap.setSize conf chunk size).setFlags conf chunk chunkFlagAllocated)
    | (none, heap) => (none, heap)

def heapmemFree (ptr : Option Nat) (heap : Heap) : Heap :=
  match ptr with
  | some ptr => heap.freeChunk conf (getChunk conf ptr)
  | none => heap

def moveObject (ptr size : Nat) (heap : Heap) : Option Nat × Heap :=
  match heap.heapmemAlloc conf size with
  | (some newptr, heap) =>
    let chunk := getChunk conf ptr
    let heap := { heap with
      mem := heap.mem.write newptr (heap.mem.read ptr (heap.size conf chunk)) }
    (some newptr, heap.freeChunk conf chunk)
  | (none, heap) => (none, heap)

def heapmemRealloc (ptr : Option Nat) (size : Nat) (heap : Heap) : Option Nat × Heap :=
  match ptr with
  | none => heap.heapmemAlloc conf size
  | some ptr =>
    if size = 0 then (none, heap.heapmemFree conf (some ptr))
    else
      let chunk := getChunk conf ptr
      let size := conf.align size
      let sizeAdj := conf.toInt ((size : Int) - heap.size conf chunk)
      if sizeAdj ≤ 0 then (some ptr, heap.splitChunk conf chunk size)
      else if heap.isLastChunk conf chunk then
        match heap.extendSpace conf sizeAdj.toNat with
        | (some _, heap) => (some ptr, heap.setSize conf chunk size)
        | (none, heap) => heap.moveObject conf ptr size
      else
        let heap := heap.coalesceChunks conf chunk
        if heap.size conf chunk ≥ size then (some ptr, heap.splitChunk conf chunk size)
        else heap.moveObject conf ptr size

structure HeapStats where
  allocated : Nat
  overhead : Nat
  available : Nat
  footprint : Nat
  chunks : Nat
deriving DecidableEq, Repr

def statsFrom : Nat → Nat → HeapStats → Heap → HeapStats × Heap
  | 0, _, stats, heap => (stats, heap)
  | rounds + 1, chunk, stats, heap =>
    if chunk < heap.usage then
      if heap.chunkAllocated conf chunk then
        statsFrom rounds (heap.nextChunk conf chunk)
          { stats with
            allocated := stats.allocated + heap.size conf chunk
            overhead := stats.overhead + conf.chunkSize } heap
      else
        let heap := heap.coalesceChunks conf chunk
        statsFrom rounds (heap.nextChunk conf chunk)
          { stats with
            available := stats.available + heap.size conf chunk
            overhead := stats.overhead + conf.chunkSize } heap
    else (stats, heap)

def heapmemStats (heap : Heap) : HeapStats × Heap :=
  let (stats, heap) := heap.statsFrom conf heap.usage 0 ⟨0, 0, 0, 0, 0⟩
  ({ stats with
    available := stats.available + (conf.arenaSize - heap.usage)
    footprint := heap.usage
    chunks := stats.overhead / conf.chunkSize }, heap)

end Heap

end MultiPhyTsch
