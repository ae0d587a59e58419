import MultiPhyTsch.Lib.HeapFields

/-! The chunks of the heap lie one behind the other, and the free list has those that are not
allocated. -/

namespace MultiPhyTsch

namespace Heap

open Tiling LinkedList

variable {conf : HeapConf}

/-- The chunks are `spans`, and `free` are those in the free list. The size of one chunk and the
flags of one may be about to be written. -/
structure Ok (conf : HeapConf) (heap : Heap) (spans : List Span) (free : List Nat)
    (resized reflagged : Option Nat) : Prop where
  tiles : Tiles conf.chunkSize 0 spans heap.usage
  within : heap.usage ≤ conf.arenaSize
  sizes : ∀ span ∈ spans, resized ≠ some span.start → heap.size conf span.start = span.size
  head : heap.freeList = free.head?
  linked : Linked (heap.prev conf) (heap.next conf) none free
  nodup : free.Nodup
  listed : ∀ chunk ∈ free, ∃ span ∈ spans, span.start = chunk
  flagged : ∀ span ∈ spans, reflagged ≠ some span.start →
    (heap.chunkAllocated conf span.start = true ↔ span.start ∉ free)

theorem chunkSize_pos (conf : HeapConf) : 0 < conf.chunkSize := by
  have positive := conf.word_pos
  unfold HeapConf.chunkSize
  omega

def IsChunk (spans : List Span) (chunk : Nat) : Prop := ∃ span ∈ spans, span.start = chunk

section

variable {heap : Heap} {spans : List Span} {free : List Nat} {resized reflagged : Option Nat}

theorem apart_of_tiles {first last chunk other : Nat}
    (tiles : Tiles conf.chunkSize first spans last) (isChunk : IsChunk spans chunk)
    (otherChunk : IsChunk spans other) : Apart conf chunk other := by
  obtain ⟨span, member, rfl⟩ := isChunk
  obtain ⟨otherSpan, otherMember, rfl⟩ := otherChunk
  rcases tiles.apart member otherMember with same | before | after
  · exact Or.inl (congrArg Span.start same)
  · unfold Span.stop at before
    exact Or.inr (Or.inl (by omega))
  · unfold Span.stop at after
    exact Or.inr (Or.inr (by omega))

section

variable (ok : Ok conf heap spans free resized reflagged) {chunk : Nat}
  (isChunk : IsChunk spans chunk)
include ok isChunk

theorem Ok.apart {other : Nat} (otherChunk : IsChunk spans other) : Apart conf chunk other :=
  apart_of_tiles ok.tiles isChunk otherChunk

theorem Ok.fits : conf.Fits (some chunk) := by
  obtain ⟨span, member, rfl⟩ := isChunk
  have bounds := (ok.tiles.bounds member).2
  have within := ok.within
  intro offset same
  obtain rfl := Option.some.inj same
  unfold Span.stop at bounds
  omega

end

theorem fits_none (conf : HeapConf) : conf.Fits none := fun _ same => nomatch same

section

variable (ok : Ok conf heap spans free resized reflagged) {left right : List Nat} {chunk : Nat}
  (shape : free = left ++ chunk :: right)
include ok shape

theorem Ok.fits_next : conf.Fits (heap.next conf chunk) := by
  have linked := ok.linked
  rw [shape] at linked
  rw [linked.next_eq]
  cases right with
  | nil => exact fits_none conf
  | cons after right =>
    refine ok.fits (ok.listed after ?_)
    rw [shape]
    simp

theorem Ok.fits_prev : conf.Fits (heap.prev conf chunk) := by
  have linked := ok.linked
  rw [shape] at linked
  rw [linked.prev_eq]
  cases last : left.getLast? with
  | none => exact fits_none conf
  | some before =>
    refine ok.fits (ok.listed before ?_)
    rw [shape]
    exact List.mem_append_left _ (List.mem_of_getLast? last)

end

end

theorem chunkAllocated_iff {heap : Heap} {chunk : Nat} :
    heap.chunkAllocated conf chunk = true ↔ heap.flags conf chunk &&& chunkFlagAllocated ≠ 0 :=
  decide_eq_true_iff

theorem allocated_or (flags : UInt8) : (flags ||| chunkFlagAllocated) &&& chunkFlagAllocated ≠ 0 := by
  intro same
  have bit := congrArg (fun flags : UInt8 => flags.toBitVec.getLsbD 0) same
  simp [chunkFlagAllocated] at bit

theorem allocated_and_not (flags : UInt8) :
    (flags &&& ~~~chunkFlagAllocated) &&& chunkFlagAllocated = 0 := by
  rw [UInt8.and_assoc]
  exact UInt8.and_zero

def HeadersOnly (conf : HeapConf) (heap after : Heap) (spans : List Span) : Prop :=
  ∀ byte, (∀ span ∈ spans, byte < span.start ∨ span.start + conf.chunkSize ≤ byte) →
    after.mem byte = heap.mem byte

theorem HeadersOnly.refl (heap : Heap) (spans : List Span) : HeadersOnly conf heap heap spans :=
  fun _ _ => rfl

theorem HeadersOnly.trans {heap middle after : Heap} {spans : List Span}
    (first : HeadersOnly conf heap middle spans) (second : HeadersOnly conf middle after spans) :
    HeadersOnly conf heap after spans :=
  fun byte outside => (second byte outside).trans (first byte outside)

theorem Wrote.headersOnly {heap after : Heap} {chunk : Nat} {spans : List Span}
    (wrote : Wrote conf heap after chunk) (isChunk : IsChunk spans chunk) :
    HeadersOnly conf heap after spans := by
  obtain ⟨span, member, rfl⟩ := isChunk
  exact fun byte outside => wrote.mem byte (outside span member)

structure TakenOut (conf : HeapConf) (heap after : Heap) (spans : List Span) (chunk : Nat) :
    Prop where
  usage : after.usage = heap.usage
  freeList : after.freeList = if heap.freeList = some chunk then heap.next conf chunk
    else heap.freeList
  size : ∀ other, IsChunk spans other → after.size conf other = heap.size conf other
  flags : ∀ other, IsChunk spans other → after.flags conf other =
    if other = chunk then heap.flags conf chunk ||| chunkFlagAllocated else heap.flags conf other
  prev : ∀ other, IsChunk spans other → after.prev conf other =
    if heap.next conf chunk = some other then heap.prev conf chunk else heap.prev conf other
  next : ∀ other, IsChunk spans other → after.next conf other =
    if heap.prev conf chunk = some other then heap.next conf chunk else heap.next conf other
  headers : HeadersOnly conf heap after spans

section

variable {heap : Heap} {spans : List Span} {ptr value : Option Nat}
  (chunks : ∀ chunk, ptr = some chunk → IsChunk spans chunk)
include chunks

theorem setPrevOf_headersOnly : HeadersOnly conf heap (heap.setPrevOf conf ptr value) spans := by
  cases ptr with
  | none => exact HeadersOnly.refl heap spans
  | some chunk => exact (setPrev_wrote value).headersOnly (chunks chunk rfl)

theorem setNextOf_headersOnly : HeadersOnly conf heap (heap.setNextOf conf ptr value) spans := by
  cases ptr with
  | none => exact HeadersOnly.refl heap spans
  | some chunk => exact (setNext_wrote value).headersOnly (chunks chunk rfl)

end

/-! `allocate_chunk`, for the first chunk of the free list and for another one. -/

theorem allocateChunk_head {heap : Heap} {chunk : Nat} (apart : Apart conf chunk chunk)
    (nextApart : ∀ target, heap.next conf chunk = some target → Apart conf target chunk)
    (other : ∀ target, heap.next conf chunk = some target → target ≠ chunk)
    (head : heap.freeList = some chunk) (first : heap.prev conf chunk = none) :
    heap.allocateChunk conf chunk =
      (((heap.setFlags conf chunk (heap.flags conf chunk ||| chunkFlagAllocated)).setFreeList
        (heap.next conf chunk)).setPrevOf conf (heap.next conf chunk) none).setPrevOf conf
          (heap.next conf chunk) none := by
  rw [allocateChunk_eq]
  dsimp only
  rw [setFlags_freeList, if_pos head.symm, next_setFlags apart, next_setPrevOf nextApart,
    prev_setPrevOf nextApart (fits_none conf)]
  have inList : ((heap.setFlags conf chunk
      (heap.flags conf chunk ||| chunkFlagAllocated)).setFreeList (heap.next conf chunk)).next conf
        chunk = heap.next conf chunk := next_setFlags apart _
  rw [inList, if_neg (fun same => other chunk same rfl)]
  have alone : ((heap.setFlags conf chunk
      (heap.flags conf chunk ||| chunkFlagAllocated)).setFreeList (heap.next conf chunk)).prev conf
        chunk = none := (prev_setFlags apart _).trans first
  rw [alone]

theorem allocateChunk_inner {heap : Heap} {chunk : Nat} (fits : conf.Fits (heap.next conf chunk))
    (apart : Apart conf chunk chunk)
    (prevApart : ∀ target, heap.prev conf chunk = some target → Apart conf target chunk)
    (other : ∀ target, heap.prev conf chunk = some target → target ≠ chunk)
    (inner : heap.freeList ≠ some chunk) :
    heap.allocateChunk conf chunk =
      ((heap.setFlags conf chunk (heap.flags conf chunk ||| chunkFlagAllocated)).setNextOf conf
        (heap.prev conf chunk) (heap.next conf chunk)).setPrevOf conf (heap.next conf chunk)
          (heap.prev conf chunk) := by
  rw [allocateChunk_eq]
  dsimp only
  rw [setFlags_freeList, if_neg (fun same => inner same.symm), next_setFlags apart,
    prev_setFlags apart, next_setNextOf prevApart fits, prev_setNextOf prevApart,
    if_neg (fun same => other chunk same rfl), next_setFlags apart, prev_setFlags apart]

section

variable {heap : Heap} {spans : List Span} {left right : List Nat} {resized reflagged : Option Nat}
  {chunk : Nat}

section

variable (ok : Ok conf heap spans (left ++ chunk :: right) resized reflagged)
include ok

theorem Ok.next_chunk {other : Nat} (same : heap.next conf chunk = some other) : other ∈ right := by
  rw [ok.linked.next_eq] at same
  exact List.mem_of_head? same

theorem Ok.prev_chunk {other : Nat} (same : heap.prev conf chunk = some other) : other ∈ left := by
  rw [ok.linked.prev_eq, Option.or_none] at same
  exact List.mem_of_getLast? same

theorem allocateChunk_takenOut :
    TakenOut conf heap (heap.allocateChunk conf chunk) spans chunk := by
  have isChunk : IsChunk spans chunk := ok.listed chunk (by simp)
  have disjoint := List.nodup_append.mp ok.nodup
  have nextChunk : ∀ other, heap.next conf chunk = some other →
      IsChunk spans other ∧ other ≠ chunk := by
    intro other same
    have member := ok.next_chunk same
    refine ⟨ok.listed other (by simp [member]), ?_⟩
    rintro rfl
    exact (List.nodup_cons.mp disjoint.2.1).1 member
  have prevChunk : ∀ other, heap.prev conf chunk = some other →
      IsChunk spans other ∧ other ≠ chunk := by
    intro other same
    have member := ok.prev_chunk same
    refine ⟨ok.listed other (by simp [member]), ?_⟩
    rintro rfl
    exact disjoint.2.2 other member other List.mem_cons_self rfl
  have apart : ∀ other, IsChunk spans other → Apart conf chunk other :=
    fun other otherChunk => ok.apart isChunk otherChunk
  have nextApart : ∀ other, IsChunk spans other → ∀ target, heap.next conf chunk = some target →
      Apart conf target other :=
    fun other otherChunk target same => ok.apart (nextChunk target same).1 otherChunk
  have prevApart : ∀ other, IsChunk spans other → ∀ target, heap.prev conf chunk = some target →
      Apart conf target other :=
    fun other otherChunk target same => ok.apart (prevChunk target same).1 otherChunk
  have nextFits := ok.fits_next rfl
  have prevFits := ok.fits_prev rfl
  have marked : HeadersOnly conf heap
      (heap.setFlags conf chunk (heap.flags conf chunk ||| chunkFlagAllocated)) spans :=
    (setFlags_wrote _).headersOnly isChunk
  by_cases head : heap.freeList = some chunk
  · have first : heap.prev conf chunk = none := by
      cases left with
      | nil => exact ok.linked.1
      | cons other left =>
        have same : some chunk = some other := head.symm.trans ok.head
        exact absurd (Option.some.inj same).symm
          (disjoint.2.2 other List.mem_cons_self chunk List.mem_cons_self)
    rw [allocateChunk_head (apart chunk isChunk) (nextApart chunk isChunk)
      (fun target same => (nextChunk target same).2) head first]
    refine ⟨?_, ?_, ?_, ?_, ?_, ?_, ?_⟩
    · rw [setPrevOf_usage, setPrevOf_usage]
      rfl
    · rw [setPrevOf_freeList, setPrevOf_freeList, if_pos head]
      rfl
    · intro other otherChunk
      rw [size_setPrevOf (nextApart other otherChunk), size_setPrevOf (nextApart other otherChunk)]
      exact size_setFlags (apart other otherChunk) _
    · intro other otherChunk
      rw [flags_setPrevOf (nextApart other otherChunk),
        flags_setPrevOf (nextApart other otherChunk)]
      exact flags_setFlags _
    · intro other otherChunk
      rw [prev_setPrevOf (nextApart other otherChunk) (fits_none conf),
        prev_setPrevOf (nextApart other otherChunk) (fits_none conf), first]
      split
      next => rfl
      next => exact prev_setFlags (apart other otherChunk) _
    · intro other otherChunk
      rw [next_setPrevOf (nextApart other otherChunk),
        next_setPrevOf (nextApart other otherChunk), first, if_neg (by simp)]
      exact next_setFlags (apart other otherChunk) _
    · refine (marked.trans ?_).trans
        (setPrevOf_headersOnly fun target same => (nextChunk target same).1)
      exact setPrevOf_headersOnly fun target same => (nextChunk target same).1
  · rw [allocateChunk_inner nextFits (apart chunk isChunk) (prevApart chunk isChunk)
      (fun target same => (prevChunk target same).2) head]
    refine ⟨?_, ?_, ?_, ?_, ?_, ?_, ?_⟩
    · rw [setPrevOf_usage, setNextOf_usage, setFlags_usage]
    · rw [setPrevOf_freeList, setNextOf_freeList, setFlags_freeList, if_neg head]
    · intro other otherChunk
      rw [size_setPrevOf (nextApart other otherChunk), size_setNextOf (prevApart other otherChunk)]
      exact size_setFlags (apart other otherChunk) _
    · intro other otherChunk
      rw [flags_setPrevOf (nextApart other otherChunk),
        flags_setNextOf (prevApart other otherChunk)]
      exact flags_setFlags _
    · intro other otherChunk
      rw [prev_setPrevOf (nextApart other otherChunk) prevFits,
        prev_setNextOf (prevApart other otherChunk)]
      rw [prev_setFlags (apart other otherChunk)]
    · intro other otherChunk
      rw [next_setPrevOf (nextApart other otherChunk),
        next_setNextOf (prevApart other otherChunk) nextFits]
      rw [next_setFlags (apart other otherChunk)]
    · refine (marked.trans ?_).trans
        (setPrevOf_headersOnly fun target same => (nextChunk target same).1)
      exact setNextOf_headersOnly fun target same => (prevChunk target same).1

theorem Ok.allocateChunk :
    Ok conf (heap.allocateChunk conf chunk) spans (left ++ right) resized reflagged := by
  have taken := allocateChunk_takenOut ok
  have sublist : (left ++ right).Sublist (left ++ chunk :: right) :=
    List.Sublist.append_left (List.sublist_cons_self chunk right) left
  have isChunk : IsChunk spans chunk := ok.listed chunk (by simp)
  have disjoint := List.nodup_append.mp ok.nodup
  have absent : chunk ∉ left ++ right := by
    rw [List.mem_append]
    rintro (before | behind)
    · exact disjoint.2.2 chunk before chunk List.mem_cons_self rfl
    · exact (List.nodup_cons.mp disjoint.2.1).1 behind
  constructor
  · rw [taken.usage]
    exact ok.tiles
  · rw [taken.usage]
    exact ok.within
  · intro span member settled
    rw [taken.size span.start ⟨span, member, rfl⟩]
    exact ok.sizes span member settled
  · rw [taken.freeList, ok.head, ok.linked.next_eq]
    cases left with
    | nil => exact if_pos rfl
    | cons first left =>
      rw [if_neg]
      · rfl
      · intro same
        exact disjoint.2.2 first List.mem_cons_self chunk List.mem_cons_self
          (Option.some.inj same)
  · refine ok.linked.unlink ok.nodup (fun _ same => nomatch same) ?_ ?_
    · exact fun other member => taken.next other (ok.listed other (sublist.subset member))
    · exact fun other member => taken.prev other (ok.listed other (sublist.subset member))
  · exact ok.nodup.sublist sublist
  · exact fun other member => ok.listed other (sublist.subset member)
  · intro span member settled
    have flags := taken.flags span.start ⟨span, member, rfl⟩
    by_cases same : span.start = chunk
    · rw [if_pos same] at flags
      rw [chunkAllocated_iff, flags, same]
      exact iff_of_true (allocated_or _) absent
    · rw [if_neg same] at flags
      rw [chunkAllocated_iff, flags, ← chunkAllocated_iff, ok.flagged span member settled]
      simp [same]

end

theorem Ok.reflag {free : List Nat} (ok : Ok conf heap spans free resized none) (chunk : Nat) :
    Ok conf heap spans free resized (some chunk) :=
  { ok with flagged := fun span member _ => ok.flagged span member (fun same => nomatch same) }

section

variable {free : List Nat} (ok : Ok conf heap spans free resized (some chunk))
include ok

theorem Ok.setFlags (isChunk : IsChunk spans chunk) (flags : UInt8) :
    Ok conf (heap.setFlags conf chunk flags) spans free resized (some chunk) := by
  constructor
  · exact ok.tiles
  · exact ok.within
  · intro span member settled
    rw [size_setFlags (ok.apart isChunk ⟨span, member, rfl⟩)]
    exact ok.sizes span member settled
  · exact ok.head
  · refine ok.linked.congr ?_
    intro node member
    have apart := ok.apart isChunk (ok.listed node member)
    exact ⟨prev_setFlags apart flags, next_setFlags apart flags⟩
  · exact ok.nodup
  · exact ok.listed
  · intro span member settled
    have other : span.start ≠ chunk := fun same => settled (congrArg some same.symm)
    rw [chunkAllocated_iff, flags_setFlags, if_neg other, ← chunkAllocated_iff]
    exact ok.flagged span member settled

theorem Ok.flag (right : heap.chunkAllocated conf chunk = true ↔ chunk ∉ free) :
    Ok conf heap spans free resized none := by
  refine { ok with flagged := ?_ }
  intro span member _
  by_cases same : span.start = chunk
  · rw [same]
    exact right
  · exact ok.flagged span member (fun equal => same (Option.some.inj equal).symm)

theorem Ok.pushFree (isChunk : IsChunk spans chunk) (absent : chunk ∉ free)
    (marked : heap.chunkAllocated conf chunk = false) :
    Ok conf (heap.pushFree conf chunk) spans (chunk :: free) resized none := by
  have apart : ∀ other, IsChunk spans other → Apart conf chunk other :=
    fun other otherChunk => ok.apart isChunk otherChunk
  have firstChunk : ∀ first, heap.freeList = some first → IsChunk spans first ∧ first ≠ chunk := by
    intro first same
    rw [ok.head] at same
    have member := List.mem_of_head? same
    refine ⟨ok.listed first member, ?_⟩
    rintro rfl
    exact absent member
  have firstFits : conf.Fits heap.freeList := by
    cases list : heap.freeList with
    | none => exact fits_none conf
    | some first => exact ok.fits (firstChunk first list).1
  have firstApart : ∀ other, IsChunk spans other → ∀ first, heap.freeList = some first →
      Apart conf first other :=
    fun other otherChunk first same => ok.apart (firstChunk first same).1 otherChunk
  have size : ∀ other, IsChunk spans other →
      (heap.pushFree conf chunk).size conf other = heap.size conf other := by
    intro other otherChunk
    refine (size_setPrevOf (firstApart other otherChunk)).trans ?_
    rw [size_setNext (apart other otherChunk), size_setPrev (apart other otherChunk)]
  have flags : ∀ other, IsChunk spans other →
      (heap.pushFree conf chunk).flags conf other = heap.flags conf other := by
    intro other otherChunk
    refine (flags_setPrevOf (firstApart other otherChunk)).trans ?_
    rw [flags_setNext (apart other otherChunk), flags_setPrev (apart other otherChunk)]
  have next : ∀ other, IsChunk spans other → (heap.pushFree conf chunk).next conf other =
      if other = chunk then heap.freeList else heap.next conf other := by
    intro other otherChunk
    refine (next_setPrevOf (firstApart other otherChunk)).trans ?_
    rw [next_setNext (apart other otherChunk) firstFits, next_setPrev (apart other otherChunk)]
  have prev : ∀ other, IsChunk spans other → (heap.pushFree conf chunk).prev conf other =
      if heap.freeList = some other then some chunk
      else if other = chunk then none else heap.prev conf other := by
    intro other otherChunk
    refine (prev_setPrevOf (firstApart other otherChunk) (ok.fits isChunk)).trans ?_
    rw [prev_setNext (apart other otherChunk),
      prev_setPrev (apart other otherChunk) (fits_none conf)]
  have usage : (heap.pushFree conf chunk).usage = heap.usage := setPrevOf_usage
  constructor
  · rw [usage]
    exact ok.tiles
  · rw [usage]
    exact ok.within
  · intro span member settled
    rw [size span.start ⟨span, member, rfl⟩]
    exact ok.sizes span member settled
  · rfl
  · refine ok.linked.push ?_ ?_ ?_ ?_ ?_ ok.nodup
    · rw [prev chunk isChunk, if_neg (fun same => (firstChunk chunk same).2 rfl), if_pos rfl]
    · rw [next chunk isChunk, if_pos rfl]
      exact ok.head
    · intro first same
      have list := ok.head.trans same
      rw [prev first (firstChunk first list).1, if_pos list]
    · intro other member
      rw [next other (ok.listed other member), if_neg]
      rintro rfl
      exact absent member
    · intro other later
      have member := List.mem_of_mem_tail later
      rw [prev other (ok.listed other member), if_neg, if_neg]
      · rintro rfl
        exact absent member
      · intro same
        have nodup := ok.nodup
        rw [ok.head] at same
        cases free with
        | nil => cases same
        | cons first free =>
          obtain rfl := Option.some.inj same
          exact (List.nodup_cons.mp nodup).1 later
  · exact List.nodup_cons.mpr ⟨absent, ok.nodup⟩
  · intro other member
    rcases List.mem_cons.mp member with rfl | listed
    · exact isChunk
    · exact ok.listed other listed
  · intro span member _
    rw [chunkAllocated_iff, flags span.start ⟨span, member, rfl⟩, ← chunkAllocated_iff]
    by_cases same : span.start = chunk
    · rw [same, marked]
      simp
    · rw [ok.flagged span member (fun equal => same (Option.some.inj equal).symm)]
      simp [same]

end

theorem Ok.shrink {spans : List Span} {span : Span} {free : List Nat}
    (ok : Ok conf heap (spans ++ [span]) free resized (some span.start))
    (absent : span.start ∉ free) :
    Ok conf { heap with usage := heap.usage - (conf.chunkSize + span.size) } spans free resized
      none := by
  obtain ⟨tiles, stop⟩ := tiles_snoc.mp ok.tiles
  have within := ok.within
  have usage : heap.usage - (conf.chunkSize + span.size) = span.start := by
    unfold Span.stop at stop
    omega
  rw [usage]
  constructor
  · exact tiles
  · unfold Span.stop at stop
    change span.start ≤ conf.arenaSize
    omega
  · exact fun other member settled => ok.sizes other (List.mem_append_left _ member) settled
  · exact ok.head
  · exact ok.linked
  · exact ok.nodup
  · intro node member
    obtain ⟨other, otherMember, same⟩ := ok.listed node member
    rcases List.mem_append.mp otherMember with before | last
    · exact ⟨other, before, same⟩
    · obtain rfl := List.mem_singleton.mp last
      rw [same] at absent
      exact absurd member absent
  · intro other member _
    refine ok.flagged other (List.mem_append_left _ member) ?_
    intro same
    have before := (tiles.bounds member).2
    have positive := chunkSize_pos conf
    rw [Option.some.inj same] at before
    unfold Span.stop at before
    omega

theorem Ok.isLast {free : List Nat} (ok : Ok conf heap spans free resized reflagged) {span : Span}
    (member : span ∈ spans) (settled : resized ≠ some span.start) :
    heap.isLastChunk conf span.start = true ↔ span.stop conf.chunkSize = heap.usage := by
  have size := ok.sizes span member settled
  unfold isLastChunk nextChunk
  rw [size, decide_eq_true_iff]
  exact Iff.rfl

theorem Ok.freeChunk {free : List Nat} {span : Span}
    (ok : Ok conf heap spans free resized (some span.start)) (member : span ∈ spans)
    (settled : resized ≠ some span.start) (absent : span.start ∉ free) :
    ∃ spans' free', Ok conf (heap.freeChunk conf span.start) spans' free' resized none ∧
      (∀ other ∈ spans, other.start ≠ span.start → other ∈ spans') ∧
      (∀ other ∈ free', other = span.start ∨ other ∈ free) ∧
      HeadersOnly conf heap (heap.freeChunk conf span.start) spans := by
  have isChunk : IsChunk spans span.start := ⟨span, member, rfl⟩
  have marked := ok.setFlags isChunk (heap.flags conf span.start &&& ~~~chunkFlagAllocated)
  have wrote : HeadersOnly conf heap (heap.setFlags conf span.start
      (heap.flags conf span.start &&& ~~~chunkFlagAllocated)) spans :=
    (setFlags_wrote _).headersOnly isChunk
  have clear : (heap.setFlags conf span.start
      (heap.flags conf span.start &&& ~~~chunkFlagAllocated)).chunkAllocated conf span.start =
        false := by
    rw [Bool.eq_false_iff]
    intro allocated
    rw [chunkAllocated_iff, flags_setFlags, if_pos rfl] at allocated
    exact allocated (allocated_and_not _)
  rw [freeChunk_eq]
  dsimp only
  split
  next last =>
    rw [marked.isLast member settled] at last
    obtain ⟨before, behind, shape⟩ := List.append_of_mem member
    subst shape
    have behindNone := marked.tiles.last_of_stop (chunkSize_pos conf) last
    subst behindNone
    rw [marked.sizes span member settled]
    refine ⟨before, free, marked.shrink absent, ?_, fun _ listed => Or.inr listed, wrote⟩
    intro other otherMember different
    rcases List.mem_append.mp otherMember with inside | last
    · exact inside
    · exact absurd (congrArg Span.start (List.mem_singleton.mp last)) different
  next inner =>
    refine ⟨spans, span.start :: free, marked.pushFree isChunk absent clear,
      fun other otherMember _ => otherMember, fun _ listed => List.mem_cons.mp listed, ?_⟩
    refine wrote.trans ?_
    have first : ∀ first, heap.freeList = some first → IsChunk spans first := by
      intro first same
      rw [ok.head] at same
      exact ok.listed first (List.mem_of_head? same)
    refine HeadersOnly.trans ?_ (setPrevOf_headersOnly first)
    exact ((setPrev_wrote none).headersOnly isChunk).trans
      ((setNext_wrote _).headersOnly isChunk)

end

end Heap

end MultiPhyTsch
