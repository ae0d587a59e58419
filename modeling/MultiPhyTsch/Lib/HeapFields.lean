import MultiPhyTsch.Lib.HeapMem
import MultiPhyTsch.Lib.LinkedList
import MultiPhyTsch.Lib.Tiling

/-! What a write to a field of a chunk changes: that field, and nothing of the chunks whose headers
stand apart from it. -/

namespace MultiPhyTsch

namespace HeapConf

variable (conf : HeapConf)

theorem toPtr_ofPtr (ptr : Option Nat) : conf.toPtr (conf.ofPtr ptr) = ptr := by
  cases ptr with
  | none => rfl
  | some offset =>
    have positive := conf.base_pos
    change (if conf.base + offset = 0 then none else some (conf.base + offset - conf.base)) = _
    rw [if_neg (by omega), Nat.add_sub_cancel_left]

def Fits (ptr : Option Nat) : Prop := ∀ offset, ptr = some offset → offset ≤ conf.arenaSize

theorem ofPtr_lt {ptr : Option Nat} (fits : conf.Fits ptr) :
    conf.ofPtr ptr < 256 ^ conf.wordSize := by
  have room := conf.fits
  have positive := conf.base_pos
  have word := conf.word_pos
  cases ptr with
  | none => exact Nat.pow_pos (by decide)
  | some offset =>
    have within := fits offset rfl
    have power := Nat.two_pow_pos conf.alignBits
    change conf.base + offset < _
    omega

theorem size_lt {size : Nat} (within : size ≤ conf.arenaSize) : size < 256 ^ conf.wordSize := by
  have room := conf.fits
  have positive := conf.base_pos
  have power := Nat.two_pow_pos conf.alignBits
  omega

end HeapConf

namespace Heap

variable (conf : HeapConf)

def Apart (chunk other : Nat) : Prop :=
  chunk = other ∨ chunk + conf.chunkSize ≤ other ∨ other + conf.chunkSize ≤ chunk

@[simp] theorem setFlags_usage (chunk : Nat) (flags : UInt8) (heap : Heap) :
    (heap.setFlags conf chunk flags).usage = heap.usage := rfl

@[simp] theorem setFlags_freeList (chunk : Nat) (flags : UInt8) (heap : Heap) :
    (heap.setFlags conf chunk flags).freeList = heap.freeList := rfl

theorem setWord_mem {address value byte : Nat} {heap : Heap}
    (outside : byte < address ∨ address + conf.wordSize ≤ byte) :
    (heap.setWord conf address value).mem byte = heap.mem byte := by
  rcases outside with before | after
  · exact Memory.write_before _ _ before
  · exact Memory.write_after _ (by rw [toBytes_length]; exact after)

theorem word_setWord {address value : Nat} {heap : Heap} (small : value < 256 ^ conf.wordSize) :
    (heap.setWord conf address value).word conf address = value := by
  unfold word setWord
  rw [Memory.read_write_of_length _ _ (toBytes_length _ _), ofBytes_toBytes,
    Nat.mod_eq_of_lt small]

theorem word_setWord_other {address value other : Nat} {heap : Heap}
    (outside : other + conf.wordSize ≤ address ∨ address + conf.wordSize ≤ other) :
    (heap.setWord conf address value).word conf other = heap.word conf other := by
  unfold word
  congr 1
  apply Memory.read_congr
  intro byte after before
  exact setWord_mem conf (by omega)

theorem word_setFlags {chunk other : Nat} {flags : UInt8} {heap : Heap}
    (outside : other + conf.wordSize ≤ chunk + 3 * conf.wordSize ∨
      chunk + 3 * conf.wordSize < other) :
    (heap.setFlags conf chunk flags).word conf other = heap.word conf other := by
  unfold word
  congr 1
  apply Memory.read_congr
  intro byte after before
  exact Memory.write_cell_other _ _ (by omega)

theorem word_congr {address : Nat} {heap after : Heap}
    (same : ∀ byte, address ≤ byte → byte < address + conf.wordSize →
      after.mem byte = heap.mem byte) : after.word conf address = heap.word conf address := by
  unfold word
  rw [Memory.read_congr same]

theorem fields_congr {chunk : Nat} {heap after : Heap}
    (same : ∀ byte, chunk ≤ byte → byte < chunk + conf.chunkSize →
      after.mem byte = heap.mem byte) :
    after.prev conf chunk = heap.prev conf chunk ∧ after.next conf chunk = heap.next conf chunk ∧
      after.size conf chunk = heap.size conf chunk ∧
      after.flags conf chunk = heap.flags conf chunk := by
  have positive := conf.word_pos
  unfold HeapConf.chunkSize at same
  refine ⟨?_, ?_, ?_, ?_⟩
  · unfold prev
    rw [word_congr conf fun byte low high => same byte (by omega) (by omega)]
  · unfold next
    rw [word_congr conf fun byte low high => same byte (by omega) (by omega)]
  · exact word_congr conf fun byte low high => same byte (by omega) (by omega)
  · exact same _ (by omega) (by omega)

structure Wrote (heap after : Heap) (chunk : Nat) : Prop where
  usage : after.usage = heap.usage
  freeList : after.freeList = heap.freeList
  mem : ∀ byte, byte < chunk ∨ chunk + conf.chunkSize ≤ byte → after.mem byte = heap.mem byte

variable {conf} {chunk other : Nat} {heap : Heap}

theorem getChunk_data (span : Span) :
    getChunk conf (span.data conf.chunkSize) = span.start := Nat.add_sub_cancel _ _

theorem setPrev_wrote (ptr : Option Nat) : Wrote conf heap (heap.setPrev conf chunk ptr) chunk := by
  refine ⟨rfl, rfl, fun byte outside => setWord_mem conf ?_⟩
  unfold HeapConf.chunkSize at outside
  omega

theorem setNext_wrote (ptr : Option Nat) : Wrote conf heap (heap.setNext conf chunk ptr) chunk := by
  refine ⟨rfl, rfl, fun byte outside => setWord_mem conf ?_⟩
  unfold HeapConf.chunkSize at outside
  omega

theorem setSize_wrote (size : Nat) : Wrote conf heap (heap.setSize conf chunk size) chunk := by
  refine ⟨rfl, rfl, fun byte outside => setWord_mem conf ?_⟩
  unfold HeapConf.chunkSize at outside
  omega

theorem setFlags_wrote (flags : UInt8) :
    Wrote conf heap (heap.setFlags conf chunk flags) chunk := by
  refine ⟨rfl, rfl, fun byte outside => Memory.write_cell_other _ _ ?_⟩
  have positive := conf.word_pos
  unfold HeapConf.chunkSize at outside
  omega

section

variable (apart : Apart conf chunk other)
include apart

theorem prev_setPrev {ptr : Option Nat} (fits : conf.Fits ptr) :
    (heap.setPrev conf chunk ptr).prev conf other =
      if other = chunk then ptr else heap.prev conf other := by
  unfold prev setPrev
  split
  next same =>
    rw [same, word_setWord conf (conf.ofPtr_lt fits), conf.toPtr_ofPtr]
  next different =>
    have positive := conf.word_pos
    unfold Apart HeapConf.chunkSize at apart
    rw [word_setWord_other conf (by omega)]

variable (ptr : Option Nat)

theorem next_setPrev : (heap.setPrev conf chunk ptr).next conf other = heap.next conf other := by
  unfold next setPrev
  unfold Apart HeapConf.chunkSize at apart
  rw [word_setWord_other conf (by omega)]

theorem size_setPrev : (heap.setPrev conf chunk ptr).size conf other = heap.size conf other := by
  unfold Apart HeapConf.chunkSize at apart
  exact word_setWord_other conf (by omega)

theorem flags_setPrev : (heap.setPrev conf chunk ptr).flags conf other = heap.flags conf other := by
  have positive := conf.word_pos
  unfold Apart HeapConf.chunkSize at apart
  exact setWord_mem conf (by omega)

theorem prev_setNext : (heap.setNext conf chunk ptr).prev conf other = heap.prev conf other := by
  unfold prev setNext
  unfold Apart HeapConf.chunkSize at apart
  rw [word_setWord_other conf (by omega)]

theorem next_setNext {ptr : Option Nat} (fits : conf.Fits ptr) :
    (heap.setNext conf chunk ptr).next conf other =
      if other = chunk then ptr else heap.next conf other := by
  unfold next setNext
  split
  next same =>
    rw [same, word_setWord conf (conf.ofPtr_lt fits), conf.toPtr_ofPtr]
  next different =>
    have positive := conf.word_pos
    unfold Apart HeapConf.chunkSize at apart
    rw [word_setWord_other conf (by omega)]

theorem size_setNext (ptr : Option Nat) :
    (heap.setNext conf chunk ptr).size conf other = heap.size conf other := by
  unfold Apart HeapConf.chunkSize at apart
  exact word_setWord_other conf (by omega)

theorem flags_setNext (ptr : Option Nat) :
    (heap.setNext conf chunk ptr).flags conf other = heap.flags conf other := by
  have positive := conf.word_pos
  unfold Apart HeapConf.chunkSize at apart
  exact setWord_mem conf (by omega)

theorem prev_setSize (size : Nat) :
    (heap.setSize conf chunk size).prev conf other = heap.prev conf other := by
  unfold prev setSize
  unfold Apart HeapConf.chunkSize at apart
  rw [word_setWord_other conf (by omega)]

theorem next_setSize (size : Nat) :
    (heap.setSize conf chunk size).next conf other = heap.next conf other := by
  unfold next setSize
  unfold Apart HeapConf.chunkSize at apart
  rw [word_setWord_other conf (by omega)]

theorem size_setSize {size : Nat} (small : size < 256 ^ conf.wordSize) :
    (heap.setSize conf chunk size).size conf other =
      if other = chunk then size else heap.size conf other := by
  unfold Heap.size setSize
  split
  next same => rw [same, word_setWord conf small]
  next different =>
    have positive := conf.word_pos
    unfold Apart HeapConf.chunkSize at apart
    rw [word_setWord_other conf (by omega)]

theorem flags_setSize (size : Nat) :
    (heap.setSize conf chunk size).flags conf other = heap.flags conf other := by
  have positive := conf.word_pos
  unfold Apart HeapConf.chunkSize at apart
  exact setWord_mem conf (by omega)

theorem prev_setFlags (flags : UInt8) :
    (heap.setFlags conf chunk flags).prev conf other = heap.prev conf other := by
  have positive := conf.word_pos
  unfold prev
  unfold Apart HeapConf.chunkSize at apart
  rw [word_setFlags conf (by omega)]

theorem next_setFlags (flags : UInt8) :
    (heap.setFlags conf chunk flags).next conf other = heap.next conf other := by
  have positive := conf.word_pos
  unfold next
  unfold Apart HeapConf.chunkSize at apart
  rw [word_setFlags conf (by omega)]

theorem size_setFlags (flags : UInt8) :
    (heap.setFlags conf chunk flags).size conf other = heap.size conf other := by
  have positive := conf.word_pos
  unfold Apart HeapConf.chunkSize at apart
  exact word_setFlags conf (by omega)

end

theorem flags_setFlags (flags : UInt8) :
    (heap.setFlags conf chunk flags).flags conf other =
      if other = chunk then flags else heap.flags conf other := by
  unfold Heap.flags setFlags
  split
  next same =>
    rw [same]
    exact Memory.write_cell _ _ _
  next different =>
    exact Memory.write_cell_other _ _ (by omega)

def setPrevOf (conf : HeapConf) (ptr value : Option Nat) (heap : Heap) : Heap :=
  match ptr with
  | some chunk => heap.setPrev conf chunk value
  | none => heap

def setNextOf (conf : HeapConf) (ptr value : Option Nat) (heap : Heap) : Heap :=
  match ptr with
  | some chunk => heap.setNext conf chunk value
  | none => heap

section

variable {ptr value : Option Nat}

@[simp] theorem setPrevOf_usage : (heap.setPrevOf conf ptr value).usage = heap.usage := by
  cases ptr with
  | none => rfl
  | some chunk => rfl

@[simp] theorem setPrevOf_freeList : (heap.setPrevOf conf ptr value).freeList = heap.freeList := by
  cases ptr with
  | none => rfl
  | some chunk => rfl

@[simp] theorem setNextOf_usage : (heap.setNextOf conf ptr value).usage = heap.usage := by
  cases ptr with
  | none => rfl
  | some chunk => rfl

@[simp] theorem setNextOf_freeList : (heap.setNextOf conf ptr value).freeList = heap.freeList := by
  cases ptr with
  | none => rfl
  | some chunk => rfl

variable (apart : ∀ chunk, ptr = some chunk → Apart conf chunk other)
include apart

theorem prev_setPrevOf (fits : conf.Fits value) :
    (heap.setPrevOf conf ptr value).prev conf other =
      if ptr = some other then value else heap.prev conf other := by
  cases ptr with
  | none => rw [if_neg (by simp)]; rfl
  | some chunk =>
    simp only [Option.some.injEq, eq_comm (a := chunk)]
    exact prev_setPrev (apart chunk rfl) fits

theorem next_setPrevOf : (heap.setPrevOf conf ptr value).next conf other =
    heap.next conf other := by
  cases ptr with
  | none => rfl
  | some chunk => exact next_setPrev (apart chunk rfl) value

theorem size_setPrevOf : (heap.setPrevOf conf ptr value).size conf other =
    heap.size conf other := by
  cases ptr with
  | none => rfl
  | some chunk => exact size_setPrev (apart chunk rfl) value

theorem flags_setPrevOf : (heap.setPrevOf conf ptr value).flags conf other =
    heap.flags conf other := by
  cases ptr with
  | none => rfl
  | some chunk => exact flags_setPrev (apart chunk rfl) value

theorem next_setNextOf (fits : conf.Fits value) :
    (heap.setNextOf conf ptr value).next conf other =
      if ptr = some other then value else heap.next conf other := by
  cases ptr with
  | none => rw [if_neg (by simp)]; rfl
  | some chunk =>
    simp only [Option.some.injEq, eq_comm (a := chunk)]
    exact next_setNext (apart chunk rfl) fits

theorem prev_setNextOf : (heap.setNextOf conf ptr value).prev conf other =
    heap.prev conf other := by
  cases ptr with
  | none => rfl
  | some chunk => exact prev_setNext (apart chunk rfl) value

theorem size_setNextOf : (heap.setNextOf conf ptr value).size conf other =
    heap.size conf other := by
  cases ptr with
  | none => rfl
  | some chunk => exact size_setNext (apart chunk rfl) value

theorem flags_setNextOf : (heap.setNextOf conf ptr value).flags conf other =
    heap.flags conf other := by
  cases ptr with
  | none => rfl
  | some chunk => exact flags_setNext (apart chunk rfl) value

end

def pushFree (conf : HeapConf) (chunk : Nat) (heap : Heap) : Heap :=
  (((heap.setPrev conf chunk none).setNext conf chunk heap.freeList).setPrevOf conf heap.freeList
    (some chunk)).setFreeList (some chunk)

theorem freeChunk_eq (conf : HeapConf) (chunk : Nat) (heap : Heap) :
    heap.freeChunk conf chunk =
      let heap := heap.setFlags conf chunk (heap.flags conf chunk &&& ~~~chunkFlagAllocated)
      if heap.isLastChunk conf chunk then
        { heap with usage := heap.usage - (conf.chunkSize + heap.size conf chunk) }
      else heap.pushFree conf chunk := rfl

theorem allocateChunk_eq (conf : HeapConf) (chunk : Nat) (heap : Heap) :
    heap.allocateChunk conf chunk =
      let heap := heap.setFlags conf chunk (heap.flags conf chunk ||| chunkFlagAllocated)
      let heap :=
        if some chunk = heap.freeList then
          (heap.setFreeList (heap.next conf chunk)).setPrevOf conf (heap.next conf chunk) none
        else heap.setNextOf conf (heap.prev conf chunk) (heap.next conf chunk)
      heap.setPrevOf conf (heap.next conf chunk) (heap.prev conf chunk) := rfl

end Heap

end MultiPhyTsch
