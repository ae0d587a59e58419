import MultiPhyTsch.Lib.HeapTruncation
import MultiPhyTsch.Lib.HeapWords

/-! Requests that are larger than the arena. They fail unless a sum wraps around: the last sizes are
rounded up to nothing, others end within the arena once the header and the usage are added, and a
difference is cut off to an `int`. -/

namespace MultiPhyTsch

namespace HeapWords

open Heap Tiling LinkedList HeapConf

variable {conf : HeapConf} {heap : Heap} {spans : List Span} {free : List Nat}

theorem better_isSome {size chunk : Nat} {best : Option Nat} (known : best.isSome = true) :
    (heap.better conf size best chunk).isSome = true := by
  obtain ⟨other, rfl⟩ := Option.isSome_iff_exists.mp known
  unfold Heap.better
  dsimp only
  split
  next =>
    split
    next => rfl
    next => rfl
  next => rfl

theorem bestFrom_isSome (size rounds : Nat) : ∀ {ptr best : Option Nat}, best.isSome = true →
    (heap.bestFrom conf size rounds ptr best).isSome = true := by
  induction rounds with
  | zero => exact fun known => known
  | succ rounds ih =>
    intro ptr best known
    cases ptr with
    | none => exact known
    | some chunk =>
      unfold Heap.bestFrom
      dsimp only
      split
      next => exact better_isSome known
      next => exact ih (better_isSome known)

theorem bestFrom_zero (rounds : Nat) (ptr : Option Nat) :
    heap.bestFrom conf 0 rounds ptr none = none ↔ ptr = none ∨ rounds = 0 := by
  cases rounds with
  | zero => exact iff_of_true rfl (Or.inr rfl)
  | succ rounds =>
    cases ptr with
    | none => exact iff_of_true rfl (Or.inl rfl)
    | some chunk =>
      have found : (heap.better conf 0 none chunk).isSome = true := by
        unfold Heap.better
        rw [if_pos (Nat.zero_le _)]
        rfl
      have some_best : (heap.bestFrom conf 0 (rounds + 1) (some chunk) none).isSome = true := by
        unfold Heap.bestFrom
        dsimp only
        split
        next => exact found
        next => exact bestFrom_isSome 0 rounds found
      refine iff_of_false ?_ (by simp)
      intro nothing
      rw [nothing] at some_best
      cases some_best

theorem defragFrom_usage (rounds : Nat) : ∀ {heap : Heap} {ptr : Option Nat},
    (heap.defragFrom conf rounds ptr).usage = heap.usage := by
  induction rounds with
  | zero => exact rfl
  | succ rounds ih =>
    intro heap ptr
    cases ptr with
    | none => rfl
    | some chunk => exact ih.trans (coalesceFrom_usage heap.usage)

theorem defragFrom_freeList (rounds : Nat) : ∀ {heap : Heap} {spans : List Span} {free : List Nat}
    {ptr : Option Nat}, Ok conf heap spans free none none →
    (∀ chunk, ptr = some chunk → chunk ∈ free) → heap.freeList ≠ none →
    (heap.defragFrom conf rounds ptr).freeList ≠ none := by
  induction rounds with
  | zero => exact fun _ _ nonempty => nonempty
  | succ rounds ih =>
    intro heap spans free ptr ok listed nonempty
    cases ptr with
    | none => exact nonempty
    | some chunk =>
      have chunkListed := listed chunk rfl
      obtain ⟨span, member, rfl⟩ := ok.listed chunk chunkListed
      obtain ⟨left, right, rfl⟩ := List.append_of_mem member
      obtain ⟨spans', free', coalesced⟩ := ok.coalesceChunks
      have still := coalesced.listed chunkListed
      refine ih coalesced.ok (fun next same => coalesced.ok.next_free still same) ?_
      rw [coalesced.ok.head]
      intro empty
      rw [List.head?_eq_none_iff.mp empty] at still
      cases still

theorem defragChunks_freeList (ok : Ok conf heap spans free none none) :
    (heap.defragChunks conf).freeList = none ↔ heap.freeList = none := by
  constructor
  · intro empty
    by_contra nonempty
    refine defragFrom_freeList conf.searchMax ok ?_ nonempty empty
    intro chunk same
    rw [ok.head] at same
    exact List.mem_of_head? same
  · intro empty
    unfold Heap.defragChunks
    rw [empty]
    cases conf.searchMax with
    | zero => exact empty
    | succ rounds => exact empty

def AllocFails (conf : HeapConf) (heap : Heap) (size : Nat) : Prop :=
  if conf.alignWord size = 0 then
    (heap.freeList = none ∨ conf.searchMax = 0) ∧ conf.arenaSize < heap.usage + conf.chunkSize
  else
    conf.arenaSize < conf.wrap (heap.usage + conf.wrap (conf.chunkSize + conf.alignWord size))

def Refuses (conf : HeapConf) (heap : Heap) (spans : List Span) (free : List Nat)
    (given : Option Nat × Heap) : Prop :=
  given.1 = none → ∃ spans' free', Ok conf given.2 spans' free' none none ∧
    Keeps conf (fun _ _ => True) heap given.2 spans spans' free free'

theorem extendSpace_full {size : Nat} (full : conf.arenaSize < conf.wrap (heap.usage + size)) :
    extendSpace conf size heap = (none, heap) :=
  if_pos full

theorem extendSpace_room {size : Nat} (room : ¬ conf.arenaSize < conf.wrap (heap.usage + size)) :
    extendSpace conf size heap =
      (some heap.usage, { heap with usage := conf.wrap (heap.usage + size) }) :=
  if_neg room

theorem heapmemAlloc_refuses (ok : Ok conf heap spans free none none) (size : Nat) :
    Refuses conf heap spans free (heapmemAlloc conf size heap) := by
  obtain ⟨spans', free', searched⟩ := ok.getFreeChunk (conf.alignWord size)
  unfold heapmemAlloc
  dsimp only
  rw [getFreeChunk_eq ok]
  generalize heap.getFreeChunk conf (conf.alignWord size) = result at searched
  obtain ⟨found, after⟩ := result
  cases found with
  | some chunk => exact fun refused => absurd refused (by simp)
  | none =>
    dsimp only
    by_cases full : conf.arenaSize <
        conf.wrap (after.usage + conf.wrap (conf.chunkSize + conf.alignWord size))
    · rw [extendSpace_full full]
      exact fun _ => ⟨spans', free', searched.ok, searched.keeps⟩
    · rw [extendSpace_room full]
      exact fun refused => absurd refused (by simp)

theorem getFreeChunk_none {size : Nat} (none_found : (heap.getFreeChunk conf size).1 = none) :
    (heap.getFreeChunk conf size).2.usage = heap.usage := by
  unfold Heap.getFreeChunk at none_found ⊢
  dsimp only at none_found ⊢
  split at none_found
  next => cases none_found
  next => exact defragFrom_usage conf.searchMax

section

variable (ok : Ok conf heap spans free none none)
include ok

theorem getFreeChunk_large {size : Nat}
    (large : conf.arenaSize < size) : (heap.getFreeChunk conf size).1 = none := by
  obtain ⟨spans', free', searched⟩ := ok.getFreeChunk size
  cases found : (heap.getFreeChunk conf size).1 with
  | none => rfl
  | some chunk =>
    obtain ⟨span, member, _, _, enough⟩ := searched.held _ (congrArg (Option.map _) found)
    have inside := searched.ok.small member
    omega

theorem getFreeChunk_zero :
    (heap.getFreeChunk conf 0).1 = none ↔ heap.freeList = none ∨ conf.searchMax = 0 := by
  rw [← defragChunks_freeList ok, ← @bestFrom_zero conf (heap.defragChunks conf)]
  unfold Heap.getFreeChunk
  dsimp only
  split
  next best found => exact iff_of_false (by simp) (by simp [found])
  next nothing => exact iff_of_true rfl nothing

theorem heapmemAlloc_none_iff {size : Nat}
    (large : conf.alignWord size = 0 ∨ conf.arenaSize < conf.alignWord size) :
    (heapmemAlloc conf size heap).1 = none ↔ AllocFails conf heap size := by
  have fits := conf.fits_alignment
  have footprint := ok.within
  have refused : (heapmemAlloc conf size heap).1 = none ↔
      (heap.getFreeChunk conf (conf.alignWord size)).1 = none ∧
        conf.arenaSize <
          conf.wrap (heap.usage + conf.wrap (conf.chunkSize + conf.alignWord size)) := by
    have usage := @getFreeChunk_none conf heap (conf.alignWord size)
    unfold heapmemAlloc
    dsimp only
    rw [getFreeChunk_eq ok]
    generalize heap.getFreeChunk conf (conf.alignWord size) = result at usage
    obtain ⟨found, after⟩ := result
    cases found with
    | some chunk => exact iff_of_false (by simp) (by simp)
    | none =>
      have same : after.usage = heap.usage := usage rfl
      dsimp only
      rw [← same]
      by_cases full : conf.arenaSize <
          conf.wrap (after.usage + conf.wrap (conf.chunkSize + conf.alignWord size))
      · rw [extendSpace_full full]
        exact iff_of_true rfl ⟨rfl, full⟩
      · rw [extendSpace_room full]
        exact iff_of_false (by simp) (fun both => full both.2)
  rw [refused]
  unfold AllocFails
  rcases large with zero | large
  · rw [if_pos zero, zero, getFreeChunk_zero ok, Nat.add_zero,
      @wrap_of_lt conf conf.chunkSize (by omega), wrap_of_lt (by omega)]
  · have positive : conf.alignWord size ≠ 0 := Nat.ne_of_gt (Nat.zero_lt_of_lt large)
    rw [if_neg positive]
    exact and_iff_right (getFreeChunk_large ok large)

end

theorem moveObject_none_iff {ptr size : Nat} :
    (moveObject conf ptr size heap).1 = none ↔ (heapmemAlloc conf size heap).1 = none := by
  unfold moveObject
  generalize heapmemAlloc conf size heap = result
  obtain ⟨found, after⟩ := result
  cases found with
  | none => exact Iff.rfl
  | some newptr => exact iff_of_false (by simp) (by simp)

theorem moveObject_refuses (ok : Ok conf heap spans free none none) (ptr size : Nat) :
    Refuses conf heap spans free (moveObject conf ptr size heap) := by
  have refuses := heapmemAlloc_refuses ok size
  unfold moveObject
  generalize heapmemAlloc conf size heap = result at refuses
  obtain ⟨found, after⟩ := result
  cases found with
  | none => exact refuses
  | some newptr => exact fun refused => absurd refused (by simp)

def ReallocFails (conf : HeapConf) (heap : Heap) (chunk size : Nat) : Prop :=
  let sizeAdj := conf.toInt ((conf.alignWord size : Int) - heap.size conf chunk)
  0 < sizeAdj ∧
    (if heap.isLastChunk conf chunk = true then
      conf.arenaSize < conf.wrap (heap.usage + conf.wrap sizeAdj.toNat)
    else conf.alignWord size ≠ 0) ∧
    AllocFails conf heap (conf.alignWord size)

section

variable (ok : Ok conf heap spans free none none) {ptr len size : Nat}
  (held : Held conf spans free ptr len)
include ok held

theorem heapmemRealloc_refuses (asked : size ≠ 0) :
    Refuses conf heap spans free (heapmemRealloc conf (some ptr) size heap) := by
  have given : ∀ after : Heap, Refuses conf heap spans free (some ptr, after) :=
    fun _ refused => absurd refused (by simp)
  unfold heapmemRealloc
  dsimp only
  rw [if_neg asked]
  split
  next => exact given _
  next =>
    split
    next =>
      split
      next => exact given _
      next after full =>
        obtain rfl : after = heap := by
          unfold extendSpace at full
          split at full
          next => exact (congrArg Prod.snd full).symm
          next => cases full
        exact moveObject_refuses ok ptr _
    next =>
      obtain ⟨span, member, _, rfl, _⟩ := held
      obtain ⟨left, right, rfl⟩ := List.append_of_mem member
      obtain ⟨spans', free', coalesced⟩ := ok.coalesceChunks
      rw [getChunk_data]
      split
      next => exact given _
      next =>
        intro refused
        obtain ⟨spans'', free'', later, keeps⟩ := moveObject_refuses coalesced.ok _ _ refused
        exact ⟨spans'', free'', later, coalesced.keeps.trans keeps⟩

theorem heapmemRealloc_none_iff (large : conf.arenaSize < size) (word : size < 256 ^ conf.wordSize) :
    (heapmemRealloc conf (some ptr) size heap).1 = none ↔
      ReallocFails conf heap (getChunk conf ptr) size := by
  have rounded := alignWord_large large word
  have twice := @alignWord_alignWord conf size
  have moves := @heapmemAlloc_none_iff conf heap spans free ok (conf.alignWord size)
    (twice.symm ▸ rounded)
  unfold heapmemRealloc ReallocFails
  dsimp only
  rw [if_neg (Nat.ne_of_gt (Nat.zero_lt_of_lt large))]
  by_cases shrinks : conf.toInt ((conf.alignWord size : Int) -
      heap.size conf (getChunk conf ptr)) ≤ 0
  · rw [if_pos shrinks]
    exact iff_of_false (by simp) (fun all => absurd all.1 (by omega))
  · rw [if_neg shrinks, and_iff_right (by omega)]
    by_cases last : heap.isLastChunk conf (getChunk conf ptr) = true
    · rw [if_pos last, if_pos last]
      by_cases full : conf.arenaSize < conf.wrap (heap.usage + conf.wrap (conf.toInt
          ((conf.alignWord size : Int) - heap.size conf (getChunk conf ptr))).toNat)
      · rw [extendSpace_full full, and_iff_right full]
        exact moveObject_none_iff.trans moves
      · rw [extendSpace_room full]
        exact iff_of_false (by simp) (fun all => full all.1)
    · rw [if_neg last, if_neg last]
      obtain ⟨span, member, _, rfl, _⟩ := held
      obtain ⟨left, right, rfl⟩ := List.append_of_mem member
      obtain ⟨spans', free', coalesced⟩ := ok.coalesceChunks
      obtain ⟨later, laterMember, start, _⟩ := coalesced.larger
      have sized := coalesced.ok.sizes later laterMember (by simp)
      have inside := coalesced.ok.small laterMember
      have usage : (heap.coalesceChunks conf span.start).usage = heap.usage :=
        coalesceFrom_usage heap.usage
      rw [start] at sized
      rw [getChunk_data, sized]
      rcases rounded with zero | more
      · rw [zero, if_pos (Nat.zero_le _)]
        exact iff_of_false (by simp) (fun all => all.1 rfl)
      · have positive : conf.alignWord size ≠ 0 := Nat.ne_of_gt (Nat.zero_lt_of_lt more)
        rw [if_neg (by omega), and_iff_right positive]
        refine moveObject_none_iff.trans ?_
        rw [heapmemAlloc_none_iff coalesced.ok (twice.symm ▸ Or.inr more)]
        unfold AllocFails
        rw [twice, if_neg positive, if_neg positive, usage]

end

end HeapWords

namespace HeapClient

open Heap HeapConf HeapWords

variable {conf : HeapConf} {client : HeapClient} {spans : List Span} {free : List Nat}

def FailsCleanly (conf : HeapConf) (live : List Block) (given : Option Nat × Heap) : Prop :=
  given.1 = none ∧ Correct conf ⟨given.2, live⟩

theorem Tracks.failsCleanly_iff (tracks : Tracks conf client.heap client.live spans free)
    {given : Option Nat × Heap} (refuses : Refuses conf client.heap spans free given) :
    FailsCleanly conf client.live given ↔ given.1 = none := by
  refine ⟨And.left, fun refused => ⟨refused, ?_⟩⟩
  obtain ⟨spans', free', ok, keeps⟩ := refuses refused
  have after := tracks.kept ok keeps (List.Sublist.refl _) fun _ _ => trivial
  exact ⟨spans', free', after.consistent⟩

/-- A request that is larger than the arena fails, and fails cleanly, exactly when no sum that is made
of it wraps around to one that the arena has room for, and its difference to the old size is not cut
off to one. -/
theorem oversized_request (tracks : Tracks conf client.heap client.live spans free) (size : Nat)
    (large : conf.arenaSize < size) (word : size < 256 ^ conf.wordSize) :
    (FailsCleanly conf client.live (HeapWords.heapmemAlloc conf size client.heap) ↔
      AllocFails conf client.heap size) ∧
    (FailsCleanly conf client.live (HeapWords.heapmemRealloc conf none size client.heap) ↔
      AllocFails conf client.heap size) ∧
    ∀ block ∈ client.live,
      (FailsCleanly conf client.live
          (HeapWords.heapmemRealloc conf (some block.ptr) size client.heap) ↔
        ReallocFails conf client.heap (getChunk conf block.ptr) size) := by
  have alloc : FailsCleanly conf client.live (HeapWords.heapmemAlloc conf size client.heap) ↔
      AllocFails conf client.heap size :=
    (tracks.failsCleanly_iff (heapmemAlloc_refuses tracks.ok size)).trans
      (heapmemAlloc_none_iff tracks.ok (alignWord_large large word))
  refine ⟨alloc, alloc, ?_⟩
  intro block member
  have held := (tracks.held block member).1
  have asked : size ≠ 0 := Nat.ne_of_gt (Nat.zero_lt_of_lt large)
  exact (tracks.failsCleanly_iff (heapmemRealloc_refuses tracks.ok held asked)).trans
    (heapmemRealloc_none_iff tracks.ok held large word)

def smallArena : HeapConf where
  arenaSize := 2 ^ 12
  searchMax := 16
  alignBits := 2
  wordSize := 8
  intSize := 4
  base := 2 ^ 16
  word_pos := eight_pos
  base_pos := by decide
  fits := by decide

theorem oversized_request_small :
    let client := boot.step smallArena (.alloc 40)
    (client.live.map fun block => (block.ptr, block.size)) = [(32, 40)] ∧
      FailsCleanly smallArena client.live (HeapWords.heapmemAlloc smallArena 5000 client.heap) ∧
      ∀ block ∈ client.live, FailsCleanly smallArena client.live
        (HeapWords.heapmemRealloc smallArena (some block.ptr) 5000 client.heap) := by
  intro client
  have whole : boot.DifferenceFits smallArena (.alloc 40) := trivial
  obtain ⟨spans, free, tracks⟩ := boot_tracks.step whole
  obtain ⟨alloc, -, realloc⟩ := oversized_request tracks 5000 (by decide) (by decide)
  refine ⟨by decide, alloc.mpr (by unfold AllocFails; decide), fun block member => ?_⟩
  have fails : ∀ block ∈ client.live,
      ReallocFails smallArena client.heap (getChunk smallArena block.ptr) 5000 := by
    unfold ReallocFails AllocFails
    decide
  exact (realloc block member).mpr (fails block member)

theorem oversized_request_fails :
    ¬ FailsCleanly smallArena [] (HeapWords.heapmemAlloc smallArena (2 ^ 64 - 1) boot.heap) := by
  rintro ⟨refused, _⟩
  exact absurd refused (by decide)

def given (size : Nat) (fewer failed : List Block) (bytes : Nat → Heap → List UInt8) :
    Option Nat × Heap → HeapClient
  | (some ptr, heap) => ⟨heap, ⟨ptr, size, bytes ptr heap⟩ :: fewer⟩
  | (none, heap) => ⟨heap, failed⟩

def Refused (conf : HeapConf) (client : HeapClient) : HeapOp → Prop
  | .alloc size | .realloc none size => conf.arenaSize < size → AllocFails conf client.heap size
  | .realloc (some ptr) size => conf.arenaSize < size → (client.find ptr).isSome = true →
      ReallocFails conf client.heap (getChunk conf ptr) size
  | _ => True

section

variable (tracks : Tracks conf client.heap client.live spans free)
include tracks

end

end HeapClient

end MultiPhyTsch
