import MultiPhyTsch.Lib.HeapChunks

/-! What the calls of the allocator do to the blocks that are held. -/

namespace MultiPhyTsch

namespace HeapConf

variable (conf : HeapConf)

theorem alignment_pos : 0 < conf.alignment := Nat.two_pow_pos conf.alignBits

theorem le_align (size : Nat) : size ≤ conf.align size := by
  have positive := conf.alignment_pos
  have parts := Nat.div_add_mod (size + (conf.alignment - 1)) conf.alignment
  have small := Nat.mod_lt (size + (conf.alignment - 1)) positive
  unfold align
  rw [Nat.mul_comm] at parts
  omega

theorem align_mono {small large : Nat} (le : small ≤ large) :
    conf.align small ≤ conf.align large := by
  unfold align
  exact Nat.mul_le_mul_right _ (Nat.div_le_div_right (by omega))

theorem align_multiple (count : Nat) :
    conf.align (count * conf.alignment) = count * conf.alignment := by
  have positive := conf.alignment_pos
  unfold align
  rw [Nat.add_comm, Nat.add_mul_div_right _ _ positive, Nat.div_eq_of_lt (by omega), Nat.zero_add]

@[simp] theorem align_align (size : Nat) : conf.align (conf.align size) = conf.align size :=
  align_multiple conf _

end HeapConf

namespace Heap

open Tiling LinkedList

variable {conf : HeapConf} {heap : Heap} {spans : List Span} {free : List Nat}

/-- What a call gives, if it gives a block: one of this size where nothing was held. Everything that
was held before still is. -/
structure Allocates (conf : HeapConf) (heap : Heap) (given : Option Nat × Heap)
    (spans spans' : List Span) (free free' : List Nat) (size : Nat) : Prop where
  ok : Ok conf given.2 spans' free' none none
  keeps : Keeps conf (fun _ _ => True) heap given.2 spans spans' free free'
  stays : Stays (fun _ => True) spans spans' free free'
  fresh : ∀ ptr, given.1 = some ptr → ∀ len, ¬ Held conf spans free ptr len
  held : ∀ ptr, given.1 = some ptr → Held conf spans' free' ptr size

theorem Allocates.prepend {middle : Heap} {given : Option Nat × Heap} {spans₁ spans' : List Span}
    {free₁ free' : List Nat} {size : Nat}
    (allocates : Allocates conf middle given spans₁ spans' free₁ free' size)
    (keeps : Keeps conf (fun _ _ => True) heap middle spans spans₁ free free₁)
    (stays : Stays (fun _ => True) spans spans₁ free free₁) :
    Allocates conf heap given spans spans' free free' size := by
  refine ⟨allocates.ok, keeps.trans allocates.keeps, stays.trans allocates.stays, ?_,
    allocates.held⟩
  intro ptr same len before
  exact allocates.fresh ptr same len (keeps ptr len trivial before).1

section

variable (ok : Ok conf heap spans free none none)
include ok

theorem Allocates.refuse (size : Nat) :
    Allocates conf heap (none, heap) spans spans free free size := by
  refine ⟨ok, Keeps.refl, Stays.refl, ?_, ?_⟩
  · exact fun _ same => absurd same (by simp)
  · exact fun _ same => absurd same (by simp)

theorem Ok.setAllocated {span : Span} (member : span ∈ spans) (absent : span.start ∉ free) :
    Ok conf (heap.setFlags conf span.start chunkFlagAllocated) spans free none none := by
  refine ((ok.reflag span.start).setFlags ⟨span, member, rfl⟩ _).flag ?_
  refine iff_of_true ?_ absent
  rw [chunkAllocated_iff, flags_setFlags, if_pos rfl]
  decide

theorem Ok.take {chunk size : Nat} (listed : chunk ∈ free) (enough : size ≤ heap.size conf chunk) :
    ∃ spans' free', Allocates conf heap (some (getPtr conf chunk),
      (heap.allocateChunk conf chunk).splitChunk conf chunk size) spans spans' free free' size := by
  obtain ⟨before, behind, rfl⟩ := List.append_of_mem listed
  have taken := allocateChunk_takenOut ok
  have unlinked := ok.allocateChunk
  obtain ⟨span, member, rfl⟩ := ok.listed chunk listed
  have size_eq := ok.sizes span member (fun same => nomatch same)
  have absent : span.start ∉ before ++ behind := by
    have distinct := List.nodup_append.mp ok.nodup
    intro member
    rcases List.mem_append.mp member with first | second
    · exact distinct.2.2 _ first _ List.mem_cons_self rfl
    · exact (List.nodup_cons.mp distinct.2.1).1 second
  have fewer : ∀ other, other ∈ before ++ behind → other ∈ before ++ span.start :: behind := by
    intro other otherMember
    simp only [List.mem_append, List.mem_cons] at otherMember ⊢
    tauto
  obtain ⟨left, right, rfl⟩ := List.append_of_mem member
  obtain ⟨spans', free', split, keeps, stays⟩ := unlinked.splitChunk absent size
  have room : size ≤ conf.align size := conf.le_align size
  refine ⟨spans', free', split, ?_, ?_, ?_, ?_⟩
  · have first : Keeps conf (fun ptr len => ptr = span.data conf.chunkSize → len ≤ conf.align size)
        heap (heap.allocateChunk conf span.start) (left ++ span :: right) (left ++ span :: right)
        (before ++ span.start :: behind) (before ++ behind) := by
      refine taken.headers.keeps ok.tiles ?_
      intro other otherMember otherAbsent len otherRoom _
      exact ⟨other, otherMember, fun listed => otherAbsent (fewer _ listed), rfl, otherRoom⟩
    intro ptr len _ held
    refine (first.trans keeps) ptr len ?_ held
    rintro rfl
    obtain ⟨other, otherMember, otherAbsent, data, _⟩ := held
    have start : other.start = span.start := Nat.add_right_cancel data
    rw [start] at otherAbsent
    exact absurd listed otherAbsent
  · intro other otherMember otherAbsent _
    refine stays other otherMember (fun listed => otherAbsent (fewer _ listed)) ?_
    exact fun same => otherAbsent (same ▸ listed)
  · intro ptr same len held
    obtain rfl := Option.some.inj same
    obtain ⟨other, _, otherAbsent, data, _⟩ := held
    have start : other.start = span.start := Nat.add_right_cancel data
    rw [start] at otherAbsent
    exact otherAbsent listed
  · intro ptr same
    obtain rfl := Option.some.inj same
    refine (keeps (span.data conf.chunkSize) size (fun _ => room) ?_).1
    exact ⟨span, member, absent, rfl, size_eq ▸ enough⟩

theorem Ok.getFreeChunk (size : Nat) :
    ∃ spans' free', Allocates conf heap
      (((heap.getFreeChunk conf size).1.map (getPtr conf)), (heap.getFreeChunk conf size).2)
      spans spans' free free' size := by
  obtain ⟨spans₁, free₁, defragged, keeps, stays⟩ := ok.defragChunks
  unfold Heap.getFreeChunk
  dsimp only
  cases found : (heap.defragChunks conf).bestFrom conf size conf.searchMax
      (heap.defragChunks conf).freeList none with
  | none =>
    exact ⟨spans₁, free₁, (Allocates.refuse defragged size).prepend keeps stays⟩
  | some best =>
    have first : ∀ chunk, (heap.defragChunks conf).freeList = some chunk → chunk ∈ free₁ := by
      intro chunk same
      rw [defragged.head] at same
      exact List.mem_of_head? same
    have nothing : ∀ chunk, none = some chunk →
        chunk ∈ free₁ ∧ size ≤ (heap.defragChunks conf).size conf chunk := by
      intro chunk same
      cases same
    obtain ⟨listed, enough⟩ := defragged.bestFrom size conf.searchMax first nothing best found
    obtain ⟨spans', free', taken⟩ := defragged.take listed enough
    exact ⟨spans', free', taken.prepend keeps stays⟩

theorem Ok.extend {size : Nat} (room : heap.usage + (conf.chunkSize + size) ≤ conf.arenaSize) :
    Allocates conf heap (some (getPtr conf heap.usage),
      (({ heap with usage := heap.usage + (conf.chunkSize + size) } : Heap).setSize conf heap.usage
        size).setFlags conf heap.usage chunkFlagAllocated) spans (spans ++ [⟨heap.usage, size⟩]) free
      free size := by
  have below : ∀ span ∈ spans, span.start ≠ heap.usage := by
    intro span member
    have bounds := (ok.tiles.bounds member).2
    have positive := chunkSize_pos conf
    unfold Span.stop at bounds
    omega
  have absent : heap.usage ∉ free := by
    intro listed
    obtain ⟨span, member, same⟩ := ok.listed heap.usage listed
    exact below span member same
  have base : Ok conf { heap with usage := heap.usage + (conf.chunkSize + size) }
      (spans ++ [⟨heap.usage, size⟩]) free (some heap.usage) (some heap.usage) := by
    constructor
    · refine tiles_snoc.mpr ⟨ok.tiles, ?_⟩
      exact Nat.add_assoc _ _ _
    · exact room
    · intro span member settled
      rcases List.mem_append.mp member with old | new
      · exact ok.sizes span old (fun same => nomatch same)
      · exact absurd (congrArg (fun span => some span.start) (List.mem_singleton.mp new)).symm settled
    · exact ok.head
    · exact ok.linked
    · exact ok.nodup
    · intro chunk listed
      obtain ⟨span, member, same⟩ := ok.listed chunk listed
      exact ⟨span, List.mem_append_left _ member, same⟩
    · intro span member settled
      rcases List.mem_append.mp member with old | new
      · exact ok.flagged span old (fun same => nomatch same)
      · exact absurd (congrArg (fun span => some span.start) (List.mem_singleton.mp new)).symm settled
  have isNew : ⟨heap.usage, size⟩ ∈ spans ++ [⟨heap.usage, size⟩] :=
    List.mem_append_right _ List.mem_cons_self
  have isChunk : IsChunk (spans ++ [⟨heap.usage, size⟩]) heap.usage := ⟨_, isNew, rfl⟩
  have small : size < 256 ^ conf.wordSize := conf.size_lt (by omega)
  have sized := (base.setSize isChunk size small).sized (by
    intro span member same
    rw [base.tiles.start_inj (chunkSize_pos conf) member isNew same,
      size_setSize (base.apart isChunk isChunk) small, if_pos rfl])
  have written : HeadersOnly conf heap _ (spans ++ [⟨heap.usage, size⟩]) :=
    ((setSize_wrote size).headersOnly isChunk).trans
      ((setFlags_wrote chunkFlagAllocated).headersOnly isChunk)
  constructor
  · refine (sized.setFlags isChunk chunkFlagAllocated).flag (iff_of_true ?_ absent)
    rw [chunkAllocated_iff, flags_setFlags, if_pos rfl]
    decide
  · rintro ptr len _ ⟨span, member, notFree, rfl, fits⟩
    have later := List.mem_append_left [⟨heap.usage, size⟩] member
    refine ⟨⟨span, later, notFree, rfl, fits⟩, ?_⟩
    intro byte low high
    refine written.data base.tiles later low ?_
    unfold Span.data Span.stop at *
    omega
  · exact fun span member notFree _ => ⟨List.mem_append_left _ member, notFree⟩
  · rintro ptr same len ⟨span, member, _, data, _⟩
    obtain rfl := Option.some.inj same
    exact below span member (Nat.add_right_cancel data)
  · intro ptr same
    obtain rfl := Option.some.inj same
    exact ⟨_, isNew, absent, rfl, Nat.le_refl _⟩

theorem Ok.heapmemAlloc (size : Nat) :
    ∃ spans' free', Allocates conf heap (heap.heapmemAlloc conf size) spans spans' free free'
      (conf.align size) := by
  obtain ⟨spans₁, free₁, searched⟩ := ok.getFreeChunk (conf.align size)
  unfold Heap.heapmemAlloc
  dsimp only
  generalize heap.getFreeChunk conf (conf.align size) = result at searched
  obtain ⟨found, after⟩ := result
  cases found with
  | some chunk =>
    obtain ⟨span, member, absent, data, room⟩ := searched.held _ rfl
    have start : span.start = chunk := Nat.add_right_cancel data
    subst start
    refine ⟨spans₁, free₁, searched.ok.setAllocated member absent, ?_, searched.stays,
      searched.fresh, searched.held⟩
    refine searched.keeps.trans ?_
    refine ((setFlags_wrote _).headersOnly ⟨span, member, rfl⟩).keeps searched.ok.tiles ?_
    exact fun other otherMember otherAbsent len otherRoom _ =>
      ⟨other, otherMember, otherAbsent, rfl, otherRoom⟩
  | none =>
    have searchedOk := searched.ok
    dsimp only at searchedOk ⊢
    unfold extendSpace
    by_cases full : after.usage + (conf.chunkSize + conf.align size) > conf.arenaSize
    · rw [if_pos full]
      exact ⟨spans₁, free₁, searched⟩
    · rw [if_neg full]
      exact ⟨_, free₁, (searchedOk.extend (Nat.le_of_not_gt full)).prepend searched.keeps
        searched.stays⟩

theorem Ok.heapmemFree {ptr len : Nat} (held : Held conf spans free ptr len) :
    ∃ spans' free', Ok conf (heap.heapmemFree conf (some ptr)) spans' free' none none ∧
      Keeps conf (fun other _ => other ≠ ptr) heap (heap.heapmemFree conf (some ptr)) spans spans'
        free free' := by
  obtain ⟨span, member, absent, rfl, _⟩ := held
  obtain ⟨spans', free', freed, others, listed, headers⟩ :=
    (ok.reflag span.start).freeChunk member (fun same => nomatch same) absent
  unfold Heap.heapmemFree
  dsimp only
  rw [getChunk_data]
  refine ⟨spans', free', freed, headers.keeps ok.tiles ?_⟩
  intro other otherMember otherAbsent len room different
  have apart : other.start ≠ span.start := by
    intro same
    apply different
    unfold Span.data
    rw [same]
  refine ⟨other, others other otherMember apart, ?_, rfl, room⟩
  intro otherListed
  rcases listed other.start otherListed with same | before
  · exact apart same
  · exact otherAbsent before

end

def store (start : Nat) (bytes : List UInt8) (heap : Heap) : Heap :=
  { heap with mem := heap.mem.write start bytes }

variable {bytes : List UInt8}

theorem store_outside {start byte : Nat} (outside : byte < start ∨ start + bytes.length ≤ byte) :
    (heap.store start bytes).mem byte = heap.mem byte := by
  rcases outside with before | behind
  · exact Memory.write_before _ _ before
  · exact Memory.write_after _ behind

theorem Ok.store (ok : Ok conf heap spans free none none) {span : Span} (member : span ∈ spans)
    {start : Nat} (low : span.data conf.chunkSize ≤ start)
    (high : start + bytes.length ≤ span.stop conf.chunkSize) :
    Ok conf (heap.store start bytes) spans free none none := by
  have fields : ∀ chunk, IsChunk spans chunk →
      (heap.store start bytes).prev conf chunk = heap.prev conf chunk ∧
      (heap.store start bytes).next conf chunk = heap.next conf chunk ∧
      (heap.store start bytes).size conf chunk = heap.size conf chunk ∧
      (heap.store start bytes).flags conf chunk = heap.flags conf chunk := by
    rintro chunk ⟨other, otherMember, rfl⟩
    refine fields_congr conf ?_
    intro byte after before
    apply store_outside
    unfold Span.data at low
    rcases ok.tiles.apart member otherMember with rfl | behind | ahead
    · exact Or.inl (by omega)
    · exact Or.inr (by omega)
    · unfold Span.stop at ahead
      exact Or.inl (by omega)
  constructor
  · exact ok.tiles
  · exact ok.within
  · intro other otherMember settled
    rw [(fields other.start ⟨other, otherMember, rfl⟩).2.2.1]
    exact ok.sizes other otherMember settled
  · exact ok.head
  · refine ok.linked.congr ?_
    intro node nodeMember
    have same := fields node (ok.listed node nodeMember)
    exact ⟨same.1, same.2.1⟩
  · exact ok.nodup
  · exact ok.listed
  · intro other otherMember settled
    rw [chunkAllocated_iff, (fields other.start ⟨other, otherMember, rfl⟩).2.2.2,
      ← chunkAllocated_iff]
    exact ok.flagged other otherMember settled

section

variable (ok : Ok conf heap spans free none none) {ptr len start : Nat}
  (held : Held conf spans free ptr len) (low : ptr ≤ start)
  (high : start + bytes.length ≤ ptr + len)
include ok held low high

theorem Ok.store_keeps :
    Keeps conf (fun other _ => other ≠ ptr) heap (heap.store start bytes) spans spans free free := by
  obtain ⟨span, member, _, rfl, room⟩ := held
  rintro other otherLen different ⟨otherSpan, otherMember, absent, rfl, otherRoom⟩
  refine ⟨⟨otherSpan, otherMember, absent, rfl, otherRoom⟩, ?_⟩
  intro byte after before
  apply store_outside
  unfold Span.data at *
  rcases ok.tiles.apart member otherMember with rfl | behind | ahead
  · exact absurd rfl different
  · unfold Span.stop at behind
    exact Or.inr (by omega)
  · unfold Span.stop at ahead
    exact Or.inl (by omega)

theorem Ok.store_held : Ok conf (heap.store start bytes) spans free none none := by
  obtain ⟨span, member, _, rfl, room⟩ := held
  refine ok.store member low ?_
  unfold Span.data Span.stop at *
  omega

end

end Heap

end MultiPhyTsch
