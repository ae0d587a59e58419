import MultiPhyTsch.Lib.HeapRealloc
import MultiPhyTsch.Lib.Run

/-! Programs that use the heap: they know which blocks they have been given, and what they have
written there. -/

namespace MultiPhyTsch

open Tiling LinkedList Heap

/-- A block that has been given and not freed, of the size that was asked for, with the bytes that
the program expects in it. -/
structure Block where
  ptr : Nat
  size : Nat
  bytes : List UInt8
deriving DecidableEq, Repr

structure HeapClient where
  heap : Heap
  live : List Block

inductive HeapOp
  | alloc (size : Nat)
  | free (ptr : Nat)
  | realloc (ptr : Option Nat) (size : Nat)
  | stats
  /-- Bytes are written in a block. -/
  | store (ptr offset : Nat) (bytes : List UInt8)

def HeapOp.Within (conf : HeapConf) : HeapOp → Prop
  | alloc size => size ≤ conf.arenaSize
  | realloc _ size => size ≤ conf.arenaSize
  | _ => True

namespace HeapClient

variable (conf : HeapConf)

def boot : HeapClient := ⟨⟨fun _ => 0, 0, none⟩, []⟩

variable (client : HeapClient)

def find (ptr : Nat) : Option Block :=
  client.live.find? fun block => block.ptr = ptr

def others (ptr : Nat) : List Block :=
  client.live.filter fun block => block.ptr ≠ ptr

def alloc (size : Nat) : HeapClient :=
  match client.heap.heapmemAlloc conf size with
  | (some ptr, heap) => ⟨heap, ⟨ptr, size, heap.mem.read ptr size⟩ :: client.live⟩
  | (none, heap) => ⟨heap, client.live⟩

def step : HeapOp → HeapClient
  | .alloc size => client.alloc conf size
  | .free ptr =>
    match client.find ptr with
    | some _ => ⟨client.heap.heapmemFree conf (some ptr), client.others ptr⟩
    | none => client
  | .realloc none size => client.alloc conf size
  | .realloc (some ptr) size =>
    match client.find ptr with
    | some block =>
      match client.heap.heapmemRealloc conf (some ptr) size with
      | (some new, heap) =>
        -- what the block had is expected, as far as it goes
        let bytes := block.bytes.take size ++
          heap.mem.read (new + block.size) (size - block.size)
        ⟨heap, ⟨new, size, bytes⟩ :: client.others ptr⟩
      | (none, heap) => ⟨heap, if size = 0 then client.others ptr else client.live⟩
    | none => client
  | .stats => ⟨(client.heap.heapmemStats conf).2, client.live⟩
  | .store ptr offset bytes =>
    match client.find ptr with
    | some block =>
      if offset + bytes.length ≤ block.size then
        let patched := block.bytes.take offset ++ bytes ++
          block.bytes.drop (offset + bytes.length)
        ⟨client.heap.store (ptr + offset) bytes,
          ⟨ptr, block.size, patched⟩ :: client.others ptr⟩
      else client
    | none => client

structure Consistent (client : HeapClient) (spans : List Span) (free : List Nat) : Prop where
  tiles : Tiles conf.chunkSize 0 spans client.heap.usage
  sizes : ∀ span ∈ spans, client.heap.size conf span.start = span.size
  within : client.heap.usage ≤ conf.arenaSize
  head : client.heap.freeList = free.head?
  linked : Linked (client.heap.prev conf) (client.heap.next conf) none free
  nodup : free.Nodup
  listed : ∀ chunk, chunk ∈ free ↔ ∃ span ∈ spans, span.start = chunk ∧
    client.heap.chunkAllocated conf chunk = false
  held : ∀ block ∈ client.live, ∃ span ∈ spans,
    client.heap.chunkAllocated conf span.start = true ∧
      block.ptr = span.data conf.chunkSize ∧ block.size ≤ span.size
  inside : ∀ block ∈ client.live, block.ptr + block.size ≤ conf.arenaSize
  disjoint : client.live.Pairwise fun block other => block.ptr ≠ other.ptr ∧
    (block.ptr + block.size ≤ other.ptr ∨ other.ptr + other.size ≤ block.ptr)
  contents : ∀ block ∈ client.live, client.heap.mem.read block.ptr block.size = block.bytes

/-- The chunks fill the heap, the free list has those that are not allocated, and the live blocks
are apart and as they were left. -/
def Correct (client : HeapClient) : Prop := ∃ spans free, client.Consistent conf spans free

/-- The difference of the sizes in `heapmem_realloc` of a live block is an `int`. -/
def DifferenceFits (client : HeapClient) : HeapOp → Prop
  | .realloc (some ptr) size => size ≠ 0 → (client.find ptr).isSome = true →
      let difference := (conf.align size : Int) - client.heap.size conf (getChunk conf ptr)
      conf.toInt difference = difference
  | _ => True

structure Tracks (heap : Heap) (live : List Block) (spans : List Span) (free : List Nat) :
    Prop where
  ok : Ok conf heap spans free none none
  held : ∀ block ∈ live, Held conf spans free block.ptr block.size ∧
    heap.mem.read block.ptr block.size = block.bytes
  distinct : live.Pairwise fun block other => block.ptr ≠ other.ptr

variable {conf} {heap : Heap} {live : List Block} {spans : List Span} {free : List Nat}

theorem Tracks.consistent (tracks : Tracks conf heap live spans free) :
    Consistent conf ⟨heap, live⟩ spans free := by
  have ok := tracks.ok
  constructor
  · exact ok.tiles
  · exact fun span member => ok.sizes span member (fun same => nomatch same)
  · exact ok.within
  · exact ok.head
  · exact ok.linked
  · exact ok.nodup
  · intro chunk
    constructor
    · intro listed
      obtain ⟨span, member, rfl⟩ := ok.listed chunk listed
      refine ⟨span, member, rfl, Bool.eq_false_iff.mpr ?_⟩
      rw [Ne, ok.flagged span member (fun same => nomatch same)]
      exact not_not_intro listed
    · rintro ⟨span, member, rfl, unallocated⟩
      by_contra absent
      rw [(ok.flagged span member (fun same => nomatch same)).mpr absent] at unallocated
      cases unallocated
  · intro block member
    obtain ⟨span, spanMember, absent, data, room⟩ := (tracks.held block member).1
    refine ⟨span, spanMember, ?_, data.symm, room⟩
    exact (ok.flagged span spanMember (fun same => nomatch same)).mpr absent
  · intro block member
    obtain ⟨span, spanMember, _, data, room⟩ := (tracks.held block member).1
    have bound := ok.small spanMember
    unfold Span.data at data
    change block.ptr + block.size ≤ _
    omega
  · refine tracks.distinct.imp_of_mem ?_
    intro block other member otherMember different
    refine ⟨different, ?_⟩
    obtain ⟨span, spanMember, _, data, room⟩ := (tracks.held block member).1
    obtain ⟨otherSpan, otherSpanMember, _, otherData, otherRoom⟩ :=
      (tracks.held other otherMember).1
    unfold Span.data at data otherData
    rcases ok.tiles.apart spanMember otherSpanMember with same | before | behind
    · subst same
      exact absurd (data.symm.trans otherData) different
    · unfold Span.stop at before
      exact Or.inl (by omega)
    · unfold Span.stop at behind
      exact Or.inr (by omega)
  · exact fun block member => (tracks.held block member).2

theorem Tracks.kept {kept : Nat → Nat → Prop} {after : Heap} {spans' : List Span}
    {free' : List Nat} {fewer : List Block} (tracks : Tracks conf heap live spans free)
    (ok : Ok conf after spans' free' none none)
    (keeps : Keeps conf kept heap after spans spans' free free') (sublist : fewer.Sublist live)
    (wanted : ∀ block ∈ fewer, kept block.ptr block.size) :
    Tracks conf after fewer spans' free' := by
  refine ⟨ok, ?_, tracks.distinct.sublist sublist⟩
  intro block member
  obtain ⟨held, bytes⟩ := tracks.held block (sublist.subset member)
  obtain ⟨later, same⟩ := keeps block.ptr block.size (wanted block member) held
  refine ⟨later, ?_⟩
  rw [← bytes]
  exact Memory.read_congr same

variable {block : Block}

theorem Tracks.cons (tracks : Tracks conf heap live spans free)
    (held : Held conf spans free block.ptr block.size)
    (bytes : heap.mem.read block.ptr block.size = block.bytes)
    (fresh : ∀ other ∈ live, block.ptr ≠ other.ptr) :
    Tracks conf heap (block :: live) spans free := by
  refine ⟨tracks.ok, ?_, List.pairwise_cons.mpr ⟨fresh, tracks.distinct⟩⟩
  intro other member
  rcases List.mem_cons.mp member with rfl | before
  · exact ⟨held, bytes⟩
  · exact tracks.held other before

theorem find_some {client : HeapClient} {ptr : Nat}
    (found : client.find ptr = some block) : block ∈ client.live ∧ block.ptr = ptr :=
  ⟨List.mem_of_find?_eq_some found, of_decide_eq_true (List.find?_some found :)⟩

theorem others_sublist (client : HeapClient) (ptr : Nat) :
    (client.others ptr).Sublist client.live := List.filter_sublist

theorem others_ne {client : HeapClient} {ptr : Nat}
    (member : block ∈ client.others ptr) : block.ptr ≠ ptr :=
  of_decide_eq_true (List.mem_filter.mp member).2

variable {client : HeapClient}

theorem Tracks.alloc (tracks : Tracks conf client.heap client.live spans free) (size : Nat) :
    ∃ spans' free', Tracks conf (client.alloc conf size).heap (client.alloc conf size).live spans'
      free' := by
  obtain ⟨spans', free', allocates⟩ := tracks.ok.heapmemAlloc size
  unfold HeapClient.alloc
  generalize client.heap.heapmemAlloc conf size = result at allocates
  obtain ⟨given, after⟩ := result
  have base : Tracks conf after client.live spans' free' :=
    tracks.kept allocates.ok allocates.keeps (List.Sublist.refl _) fun _ _ => trivial
  cases given with
  | none => exact ⟨spans', free', base⟩
  | some ptr =>
    refine ⟨spans', free', base.cons ?_ rfl ?_⟩
    · exact (allocates.held ptr rfl).shorter (conf.le_align size)
    · intro other member
      rintro rfl
      exact allocates.fresh other.ptr rfl other.size (tracks.held other member).1

theorem Tracks.release {ptr : Nat} (tracks : Tracks conf client.heap client.live spans free)
    (found : client.find ptr = some block) :
    ∃ spans' free', Tracks conf (client.heap.heapmemFree conf (some ptr)) (client.others ptr) spans'
      free' := by
  obtain ⟨member, rfl⟩ := find_some found
  obtain ⟨spans', free', freed, keeps⟩ := tracks.ok.heapmemFree (tracks.held block member).1
  exact ⟨spans', free', tracks.kept freed keeps (others_sublist client _) fun _ => others_ne⟩

theorem realloc_bytes {before after : Memory UInt8} {ptr new len size : Nat} {bytes : List UInt8}
    (expected : before.read ptr len = bytes)
    (same : ∀ index, index < len → index < size → after (new + index) = before (ptr + index)) :
    after.read new size = bytes.take size ++ after.read (new + len) (size - len) := by
  subst expected
  rcases Nat.le_total size len with less | more
  · rw [Nat.sub_eq_zero_of_le less, Memory.read_zero, List.append_nil, Memory.read_take _ _ less]
    exact Memory.read_shift fun index bound => same index (by omega) bound
  · obtain ⟨rest, rfl⟩ := Nat.exists_eq_add_of_le more
    rw [Memory.read_add, Nat.add_sub_cancel_left, List.take_of_length_le (by simp)]
    congr 1
    exact Memory.read_shift fun index bound => same index bound (by omega)

section

variable {ptr : Nat} (tracks : Tracks conf client.heap client.live spans free)
  (found : client.find ptr = some block)
include tracks found

theorem Tracks.realloc {size : Nat} (whole : client.DifferenceFits conf (.realloc (some ptr) size)) :
    ∃ spans' free', Tracks conf (client.step conf (.realloc (some ptr) size)).heap
      (client.step conf (.realloc (some ptr) size)).live spans' free' := by
  unfold HeapClient.step
  dsimp only
  rw [found]
  dsimp only
  by_cases zero : size = 0
  · subst zero
    obtain ⟨spans', free', freed⟩ := tracks.release found
    exact ⟨spans', free', freed⟩
  · have difference := whole zero (by rw [found]; rfl)
    obtain ⟨member, rfl⟩ := find_some found
    obtain ⟨held, expected⟩ := tracks.held block member
    obtain ⟨spans', free', reallocates⟩ := tracks.ok.heapmemRealloc held zero difference
    generalize client.heap.heapmemRealloc conf (some block.ptr) size = result at reallocates
    obtain ⟨given, after⟩ := result
    cases given with
    | none =>
      refine ⟨spans', free', ?_⟩
      dsimp only
      rw [if_neg zero]
      exact tracks.kept reallocates.ok (reallocates.failed rfl) (List.Sublist.refl _)
        fun _ _ => trivial
    | some new =>
      have base : Tracks conf after (client.others block.ptr) spans' free' :=
        tracks.kept reallocates.ok reallocates.keeps (others_sublist client _)
          fun _ => others_ne
      refine ⟨spans', free', base.cons ?_ ?_ ?_⟩
      · exact (reallocates.held new rfl).shorter (conf.le_align size)
      · exact realloc_bytes expected (reallocates.bytes new rfl)
      · intro other otherMember
        rintro rfl
        rcases reallocates.place other.ptr rfl with same | fresh
        · exact others_ne otherMember same
        · have inLive := (others_sublist client block.ptr).subset otherMember
          exact fresh other.size (tracks.held other inLive).1

theorem Tracks.store {offset : Nat} {bytes : List UInt8}
    (within : offset + bytes.length ≤ block.size) :
    Tracks conf (client.heap.store (ptr + offset) bytes)
      (⟨ptr, block.size, block.bytes.take offset ++ bytes ++
        block.bytes.drop (offset + bytes.length)⟩ :: client.others ptr) spans free := by
  obtain ⟨member, rfl⟩ := find_some found
  obtain ⟨held, expected⟩ := tracks.held block member
  have low : block.ptr ≤ block.ptr + offset := Nat.le_add_right _ _
  have high : block.ptr + offset + bytes.length ≤ block.ptr + block.size := by omega
  have stored := tracks.ok.store_held held low high
  have keeps := tracks.ok.store_keeps held low high
  have base := tracks.kept stored keeps (others_sublist client block.ptr) fun _ => others_ne
  refine base.cons held ?_ ?_
  · rw [← expected]
    exact Memory.read_write_part _ _ within
  · exact fun other otherMember same => others_ne otherMember same.symm

end

theorem Tracks.step (tracks : Tracks conf client.heap client.live spans free) {op : HeapOp}
    (whole : client.DifferenceFits conf op) :
    ∃ spans' free', Tracks conf (client.step conf op).heap (client.step conf op).live spans'
      free' := by
  cases op with
  | alloc size => exact tracks.alloc size
  | free ptr =>
    unfold HeapClient.step
    dsimp only
    cases found : client.find ptr with
    | none => exact ⟨spans, free, tracks⟩
    | some block => exact tracks.release found
  | realloc ptr size =>
    cases ptr with
    | none => exact tracks.alloc size
    | some ptr =>
      cases found : client.find ptr with
      | none =>
        unfold HeapClient.step
        dsimp only
        rw [found]
        exact ⟨spans, free, tracks⟩
      | some block => exact tracks.realloc found whole
  | stats =>
    obtain ⟨spans', free', after, keeps⟩ := tracks.ok.heapmemStats
    exact ⟨spans', free', tracks.kept after keeps (List.Sublist.refl _) fun _ _ => trivial⟩
  | store ptr offset bytes =>
    unfold HeapClient.step
    dsimp only
    cases found : client.find ptr with
    | none => exact ⟨spans, free, tracks⟩
    | some block =>
      dsimp only
      split
      next within => exact ⟨spans, free, tracks.store found within⟩
      next => exact ⟨spans, free, tracks⟩

theorem boot_tracks : Tracks conf boot.heap boot.live [] [] := by
  refine ⟨?_, fun _ member => absurd member List.not_mem_nil, List.Pairwise.nil⟩
  constructor
  · rfl
  · exact Nat.zero_le _
  · exact fun _ member => nomatch member
  · rfl
  · trivial
  · exact List.nodup_nil
  · exact fun _ member => nomatch member
  · exact fun _ member => nomatch member

theorem always_correct (conf : HeapConf) (ops : List HeapOp)
    (meets : Run.Meets (step conf) (DifferenceFits conf) boot ops) :
    Run.Always (step conf) (Correct conf) boot ops := by
  refine Run.always_of_meets
    (fun client => ∃ spans free, Tracks conf client.heap client.live spans free) ?_ ?_ ops boot
    ⟨[], [], boot_tracks⟩ meets
  · rintro client ⟨spans, free, tracks⟩
    exact ⟨spans, free, tracks.consistent⟩
  · rintro client op ⟨spans, free, tracks⟩ whole
    exact tracks.step whole

end HeapClient

end MultiPhyTsch
