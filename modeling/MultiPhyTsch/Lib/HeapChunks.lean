import MultiPhyTsch.Lib.HeapInvariant

/-! What splitting, coalescing and searching make of the chunks: the blocks that are held stay where
they are, with what is in them. -/

namespace MultiPhyTsch

namespace Heap

open Tiling LinkedList

variable {conf : HeapConf}

def Held (conf : HeapConf) (spans : List Span) (free : List Nat) (ptr len : Nat) : Prop :=
  ∃ span ∈ spans, span.start ∉ free ∧ span.data conf.chunkSize = ptr ∧ len ≤ span.size

def Keeps (conf : HeapConf) (kept : Nat → Nat → Prop) (heap after : Heap)
    (spans spans' : List Span) (free free' : List Nat) : Prop :=
  ∀ ptr len, kept ptr len → Held conf spans free ptr len → Held conf spans' free' ptr len ∧
    ∀ byte, ptr ≤ byte → byte < ptr + len → after.mem byte = heap.mem byte

def Stays (which : Nat → Prop) (spans spans' : List Span) (free free' : List Nat) : Prop :=
  ∀ span ∈ spans, span.start ∉ free → which span.start → span ∈ spans' ∧ span.start ∉ free'

section

variable {kept other : Nat → Nat → Prop} {which : Nat → Prop} {heap middle after : Heap}
  {spans spans' spans'' : List Span} {free free' free'' : List Nat}

theorem Keeps.refl : Keeps conf kept heap heap spans spans free free :=
  fun _ _ _ held => ⟨held, fun _ _ _ => rfl⟩

theorem Keeps.trans (first : Keeps conf kept heap middle spans spans' free free')
    (second : Keeps conf kept middle after spans' spans'' free' free'') :
    Keeps conf kept heap after spans spans'' free free'' := by
  intro ptr len wanted held
  obtain ⟨between, same⟩ := first ptr len wanted held
  obtain ⟨later, sameLater⟩ := second ptr len wanted between
  exact ⟨later, fun byte low high => (sameLater byte low high).trans (same byte low high)⟩

theorem Keeps.mono (keeps : Keeps conf kept heap after spans spans' free free')
    (fewer : ∀ ptr len, other ptr len → kept ptr len) :
    Keeps conf other heap after spans spans' free free' :=
  fun ptr len wanted => keeps ptr len (fewer ptr len wanted)

theorem Stays.refl : Stays which spans spans free free := fun _ member absent _ => ⟨member, absent⟩

theorem Stays.trans (first : Stays which spans spans' free free')
    (second : Stays which spans' spans'' free' free'') : Stays which spans spans'' free free'' := by
  intro span member absent wanted
  obtain ⟨later, laterAbsent⟩ := first span member absent wanted
  exact second span later laterAbsent wanted

theorem Held.shorter {ptr len less : Nat} (held : Held conf spans free ptr len) (le : less ≤ len) :
    Held conf spans free ptr less := by
  obtain ⟨span, member, absent, data, room⟩ := held
  exact ⟨span, member, absent, data, le.trans room⟩

section

variable {first last : Nat} (headers : HeadersOnly conf heap after spans)
  (tiles : Tiles conf.chunkSize first spans last)
include headers tiles

theorem HeadersOnly.data {byte : Nat} {span : Span} (member : span ∈ spans)
    (low : span.data conf.chunkSize ≤ byte) (high : byte < span.stop conf.chunkSize) :
    after.mem byte = heap.mem byte := by
  apply headers
  intro other otherMember
  unfold Span.data at low
  rcases tiles.apart member otherMember with rfl | before | behind
  · exact Or.inr low
  · exact Or.inl (by omega)
  · unfold Span.stop at behind
    exact Or.inr (by omega)

theorem HeadersOnly.keeps (held : ∀ span ∈ spans, span.start ∉ free → ∀ len ≤ span.size,
      kept (span.data conf.chunkSize) len → ∃ later ∈ spans', later.start ∉ free' ∧
        later.start = span.start ∧ len ≤ later.size) :
    Keeps conf kept heap after spans spans' free free' := by
  rintro ptr len wanted ⟨span, member, absent, rfl, room⟩
  obtain ⟨later, laterMember, laterAbsent, start, size⟩ := held span member absent len room wanted
  refine ⟨⟨later, laterMember, laterAbsent, ?_, size⟩, ?_⟩
  · unfold Span.data
    rw [start]
  · intro byte low high
    refine headers.data tiles member low ?_
    unfold Span.data Span.stop at *
    omega

end

end

section

variable {heap : Heap} {spans : List Span} {free : List Nat} {reflagged : Option Nat} {chunk : Nat}

theorem Ok.resize (ok : Ok conf heap spans free none reflagged) (chunk : Nat) :
    Ok conf heap spans free (some chunk) reflagged :=
  { ok with sizes := fun span member _ => ok.sizes span member (fun same => nomatch same) }

theorem Ok.setSize (ok : Ok conf heap spans free (some chunk) reflagged)
    (isChunk : IsChunk spans chunk) (size : Nat) (small : size < 256 ^ conf.wordSize) :
    Ok conf (heap.setSize conf chunk size) spans free (some chunk) reflagged := by
  constructor
  · exact ok.tiles
  · exact ok.within
  · intro span member settled
    rw [size_setSize (ok.apart isChunk ⟨span, member, rfl⟩) small, if_neg]
    · exact ok.sizes span member settled
    · exact fun same => settled (congrArg some same.symm)
  · exact ok.head
  · refine ok.linked.congr ?_
    intro node member
    have apart := ok.apart isChunk (ok.listed node member)
    exact ⟨prev_setSize apart size, next_setSize apart size⟩
  · exact ok.nodup
  · exact ok.listed
  · intro span member settled
    rw [chunkAllocated_iff, flags_setSize (ok.apart isChunk ⟨span, member, rfl⟩),
      ← chunkAllocated_iff]
    exact ok.flagged span member settled

theorem Ok.sized (ok : Ok conf heap spans free (some chunk) reflagged)
    (right : ∀ span ∈ spans, span.start = chunk → heap.size conf chunk = span.size) :
    Ok conf heap spans free none reflagged := by
  refine { ok with sizes := ?_ }
  intro span member _
  by_cases same : span.start = chunk
  · rw [same]
    exact right span member same
  · exact ok.sizes span member (fun equal => same (Option.some.inj equal).symm)

theorem Ok.unlinked {resized : Option Nat} (ok : Ok conf heap spans free resized reflagged)
    (isChunk : IsChunk spans chunk) (absent : chunk ∉ free) :
    Ok conf ((heap.setPrev conf chunk none).setNext conf chunk none) spans free resized
      reflagged := by
  constructor
  · exact ok.tiles
  · exact ok.within
  · intro span member settled
    have apart := ok.apart isChunk ⟨span, member, rfl⟩
    rw [size_setNext apart, size_setPrev apart]
    exact ok.sizes span member settled
  · exact ok.head
  · refine ok.linked.congr ?_
    intro node member
    have apart := ok.apart isChunk (ok.listed node member)
    have different : node ≠ chunk := by
      rintro rfl
      exact absent member
    constructor
    · rw [prev_setNext apart, prev_setPrev apart (fits_none conf), if_neg different]
    · rw [next_setNext apart (fits_none conf), if_neg different, next_setPrev apart]
  · exact ok.nodup
  · exact ok.listed
  · intro span member settled
    have apart := ok.apart isChunk ⟨span, member, rfl⟩
    rw [chunkAllocated_iff, flags_setNext apart, flags_setPrev apart, ← chunkAllocated_iff]
    exact ok.flagged span member settled

theorem Ok.small {resized : Option Nat} (ok : Ok conf heap spans free resized reflagged)
    {span : Span} (member : span ∈ spans) : span.start + conf.chunkSize + span.size ≤ conf.arenaSize :=
  ((ok.tiles.bounds member).2).trans ok.within

end

section

variable {heap : Heap} {left right : List Span} {span : Span} {free : List Nat}

def rest (conf : HeapConf) (span : Span) (offset : Nat) : Span :=
  ⟨span.start + conf.chunkSize + offset, span.size - conf.chunkSize - offset⟩

section

variable (ok : Ok conf heap (left ++ span :: right) free none none)
include ok

theorem Ok.divide
    (absent : span.start ∉ free) {offset : Nat} (room : offset + conf.chunkSize < span.size) :
    Ok conf ((heap.setSize conf (rest conf span offset).start (rest conf span offset).size).setFlags
      conf (rest conf span offset).start 0) (left ++ ⟨span.start, offset⟩ :: rest conf span offset ::
        right) free (some span.start) (some (rest conf span offset).start) := by
  have tiles : Tiles conf.chunkSize 0 (left ++ ⟨span.start, offset⟩ :: rest conf span offset ::
      right) heap.usage := ok.tiles.split (Nat.le_of_lt room)
  have apart : ∀ other, IsChunk (left ++ ⟨span.start, offset⟩ :: rest conf span offset :: right)
      other → Apart conf (rest conf span offset).start other :=
    fun other otherChunk => apart_of_tiles tiles ⟨_, by simp, rfl⟩ otherChunk
  have small : (rest conf span offset).size < 256 ^ conf.wordSize := by
    refine conf.size_lt ?_
    have whole := ok.small (List.mem_append_right left List.mem_cons_self)
    change span.size - conf.chunkSize - offset ≤ _
    omega
  have old : ∀ other ∈ left ++ ⟨span.start, offset⟩ :: rest conf span offset :: right,
      other.start ≠ span.start → other.start ≠ (rest conf span offset).start →
        other ∈ left ++ span :: right := by
    intro other member notSpan notRest
    simp only [List.mem_append, List.mem_cons] at member ⊢
    rcases member with before | rfl | rfl | behind
    · exact Or.inl before
    · exact absurd rfl notSpan
    · exact absurd rfl notRest
    · exact Or.inr (Or.inr behind)
  have listed : ∀ chunk ∈ free, IsChunk (left ++ ⟨span.start, offset⟩ ::
      rest conf span offset :: right) chunk := by
    intro chunk member
    obtain ⟨other, otherMember, rfl⟩ := ok.listed chunk member
    simp only [List.mem_append, List.mem_cons] at otherMember
    rcases otherMember with before | rfl | behind
    · exact ⟨other, by simp [before], rfl⟩
    · exact ⟨⟨other.start, offset⟩, by simp, rfl⟩
    · exact ⟨other, by simp [behind], rfl⟩
  constructor
  · exact tiles
  · exact ok.within
  · intro other member settled
    have otherApart := apart other.start ⟨other, member, rfl⟩
    rw [size_setFlags otherApart, size_setSize otherApart small]
    split
    next same => rw [tiles.start_inj (chunkSize_pos conf) member (by simp) same]
    next different =>
      refine ok.sizes other (old other member ?_ different) (by rintro ⟨⟩)
      exact fun same => settled (congrArg some same.symm)
  · exact ok.head
  · refine ok.linked.congr ?_
    intro node member
    have nodeApart := apart node (listed node member)
    constructor
    · rw [prev_setFlags nodeApart, prev_setSize nodeApart]
    · rw [next_setFlags nodeApart, next_setSize nodeApart]
  · exact ok.nodup
  · exact listed
  · intro other member settled
    have otherApart := apart other.start ⟨other, member, rfl⟩
    have notRest : other.start ≠ (rest conf span offset).start :=
      fun same => settled (congrArg some same.symm)
    rw [chunkAllocated_iff, flags_setFlags, if_neg notRest, flags_setSize otherApart,
      ← chunkAllocated_iff]
    by_cases same : other.start = span.start
    · rw [same]
      exact ok.flagged span (by simp) (by rintro ⟨⟩)
    · exact ok.flagged other (old other member same notRest) (by rintro ⟨⟩)

theorem Ok.rest_ne {offset : Nat} (room : offset + conf.chunkSize < span.size) {other : Span}
    (member : other ∈ left ++ span :: right) : other.start ≠ (rest conf span offset).start := by
  have start : (rest conf span offset).start = span.start + conf.chunkSize + offset := rfl
  have positive := chunkSize_pos conf
  have spanMember : span ∈ left ++ span :: right := by simp
  rcases ok.tiles.apart spanMember member with rfl | before | behind
  · omega
  · unfold Span.stop at before
    omega
  · unfold Span.stop at behind
    omega

theorem Ok.splitChunk (absent : span.start ∉ free) (offset : Nat) :
    ∃ spans' free', Ok conf (heap.splitChunk conf span.start offset) spans' free' none none ∧
      Keeps conf (fun ptr len => ptr = span.data conf.chunkSize → len ≤ conf.align offset) heap
        (heap.splitChunk conf span.start offset) (left ++ span :: right) spans' free free' ∧
      Stays (· ≠ span.start) (left ++ span :: right) spans' free free' := by
  have member : span ∈ left ++ span :: right := by simp
  have size := ok.sizes span member (fun same => nomatch same)
  unfold Heap.splitChunk
  dsimp only
  rw [size]
  split
  next room =>
    let front : Span := ⟨span.start, conf.align offset⟩
    let back := rest conf span (conf.align offset)
    have divided := ok.divide absent room
    have tiles := divided.tiles
    have frontMember : front ∈ left ++ front :: back :: right := by simp
    have backMember : back ∈ left ++ front :: back :: right := by simp
    have apart : span.start ≠ back.start := ok.rest_ne room member
    have backAbsent : back.start ∉ free := by
      intro listed
      obtain ⟨other, otherMember, same⟩ := ok.listed back.start listed
      exact ok.rest_ne room otherMember same
    obtain ⟨spans', free', freed, others, listed, headers⟩ := divided.freeChunk backMember
      (fun same => apart (Option.some.inj same)) backAbsent
    have frontLater : front ∈ spans' := others front frontMember apart
    have isChunk : IsChunk spans' span.start := ⟨front, frontLater, rfl⟩
    have absentLater : span.start ∉ free' := by
      intro member
      rcases listed span.start member with same | before
      · exact apart same
      · exact absent before
    have small : conf.align offset < 256 ^ conf.wordSize := by
      refine conf.size_lt ?_
      have whole := ok.small member
      omega
    have sized := (freed.setSize isChunk (conf.align offset) small).sized (by
      intro other otherMember start
      rw [freed.tiles.start_inj (chunkSize_pos conf) otherMember frontLater start,
        size_setSize (freed.apart isChunk isChunk) small, if_pos rfl])
    have between : ∀ other ∈ left ++ span :: right, other ≠ span →
        other ∈ left ++ front :: back :: right := by
      intro other otherMember different
      simp only [List.mem_append, List.mem_cons, different, false_or] at otherMember ⊢
      tauto
    refine ⟨spans', free', sized.unlinked isChunk absentLater, ?_, ?_⟩
    case refine_2 =>
      intro other otherMember otherAbsent different
      have notSpan : other ≠ span := fun same => different (congrArg Span.start same)
      refine ⟨others other (between other otherMember notSpan) (ok.rest_ne room otherMember), ?_⟩
      intro listedLater
      rcases listed other.start listedLater with same | before
      · exact ok.rest_ne room otherMember same
      · exact otherAbsent before
    have written : HeadersOnly conf heap _ (left ++ front :: back :: right) :=
      (((setSize_wrote _).headersOnly ⟨back, backMember, rfl⟩).trans
        ((setFlags_wrote _).headersOnly ⟨back, backMember, rfl⟩)).trans headers
    have finished : HeadersOnly conf heap _ (left ++ front :: back :: right) :=
      ((written.trans ((setSize_wrote (conf.align offset)).headersOnly ⟨front, frontMember, rfl⟩)).trans
        ((setPrev_wrote none).headersOnly ⟨front, frontMember, rfl⟩)).trans
          ((setNext_wrote none).headersOnly ⟨front, frontMember, rfl⟩)
    rintro ptr len shorter ⟨other, otherMember, otherAbsent, rfl, otherRoom⟩
    have stillThere : ∃ later ∈ left ++ front :: back :: right, later.start ≠ back.start ∧
        later.start = other.start ∧ len ≤ later.size := by
      by_cases same : other = span
      · subst same
        exact ⟨front, frontMember, apart, rfl, shorter rfl⟩
      · exact ⟨other, between other otherMember same, ok.rest_ne room otherMember, rfl, otherRoom⟩
    obtain ⟨later, laterMember, notBack, start, laterRoom⟩ := stillThere
    refine ⟨⟨later, others later laterMember notBack, ?_, ?_, laterRoom⟩, ?_⟩
    · intro member
      rcases listed later.start member with same | before
      · exact notBack same
      · exact otherAbsent (start ▸ before)
    · unfold Span.data
      rw [start]
    · intro byte low high
      refine finished.data tiles laterMember ?_ ?_
      · unfold Span.data at *
        omega
      · unfold Span.data Span.stop at *
        omega
  next => exact ⟨_, free, ok, Keeps.refl, Stays.refl⟩

end

end

section

variable {heap : Heap} {left right : List Span} {span next : Span} {free : List Nat}

def joined (conf : HeapConf) (span next : Span) : Span :=
  ⟨span.start, span.size + (conf.chunkSize + next.size)⟩

def absorb (conf : HeapConf) (chunk next : Nat) (heap : Heap) : Heap :=
  (heap.setSize conf chunk
    (heap.size conf chunk + (conf.chunkSize + heap.size conf next))).allocateChunk conf next

theorem Ok.absorb (ok : Ok conf heap (left ++ span :: next :: right) free none none)
    (listed : next.start ∈ free) :
    ∃ free', Ok conf (heap.absorb conf span.start next.start) (left ++ joined conf span next :: right)
        free' none none ∧ free'.Sublist free ∧ (∀ chunk ∈ free, chunk ≠ next.start → chunk ∈ free') ∧
      (heap.absorb conf span.start next.start).size conf next.start = next.size ∧
      HeadersOnly conf heap (heap.absorb conf span.start next.start)
        (left ++ span :: next :: right) := by
  have member : span ∈ left ++ span :: next :: right := by simp
  have nextMember : next ∈ left ++ span :: next :: right := by simp
  have isChunk : IsChunk (left ++ span :: next :: right) span.start := ⟨span, member, rfl⟩
  have nextChunk : IsChunk (left ++ span :: next :: right) next.start := ⟨next, nextMember, rfl⟩
  have apart : next.start ≠ span.start := by
    obtain ⟨_, _, _, start, _⟩ := tiles_append.mp ok.tiles
    have positive := chunkSize_pos conf
    unfold Span.stop at start
    omega
  have small : span.size + (conf.chunkSize + next.size) < 256 ^ conf.wordSize := by
    refine conf.size_lt ?_
    obtain ⟨_, _, _, start, _⟩ := tiles_append.mp ok.tiles
    have whole := ok.small nextMember
    unfold Span.stop at start
    omega
  obtain ⟨before, behind, shape⟩ := List.append_of_mem listed
  have nodup := ok.nodup
  subst shape
  have larger := (ok.resize span.start).setSize isChunk _ small
  have taken := allocateChunk_takenOut larger
  have unlinked := larger.allocateChunk
  have sizes : heap.absorb conf span.start next.start =
      (heap.setSize conf span.start (span.size + (conf.chunkSize + next.size))).allocateChunk conf
        next.start := by
    unfold Heap.absorb
    rw [ok.sizes span member (fun same => nomatch same),
      ok.sizes next nextMember (fun same => nomatch same)]
  have sublist : (before ++ behind).Sublist (before ++ next.start :: behind) :=
    List.Sublist.append_left (List.sublist_cons_self next.start behind) before
  have spanSize := taken.size span.start isChunk
  rw [size_setSize (ok.apart isChunk isChunk) small, if_pos rfl] at spanSize
  have nextSize := taken.size next.start nextChunk
  rw [size_setSize (ok.apart isChunk nextChunk) small, if_neg apart,
    ok.sizes next nextMember (fun same => nomatch same)] at nextSize
  rw [sizes]
  refine ⟨before ++ behind, ?_, sublist, ?_, nextSize, ?_⟩
  · have tiles : Tiles conf.chunkSize 0 (left ++ joined conf span next :: right) _ :=
      unlinked.tiles.merge
    have old : ∀ other ∈ left ++ joined conf span next :: right, other.start ≠ span.start →
        other ∈ left ++ span :: next :: right := by
      intro other otherMember different
      simp only [List.mem_append, List.mem_cons] at otherMember ⊢
      rcases otherMember with inLeft | rfl | inRight
      · exact Or.inl inLeft
      · exact absurd rfl different
      · exact Or.inr (Or.inr (Or.inr inRight))
    constructor
    · exact tiles
    · exact unlinked.within
    · intro other otherMember _
      by_cases same : other.start = span.start
      · have whole : other = joined conf span next :=
          tiles.start_inj (chunkSize_pos conf) otherMember (by simp) same
        rw [same, spanSize, whole]
        rfl
      · exact unlinked.sizes other (old other otherMember same)
          (fun equal => same (Option.some.inj equal).symm)
    · exact unlinked.head
    · exact unlinked.linked
    · exact unlinked.nodup
    · intro chunk chunkMember
      obtain ⟨other, otherMember, rfl⟩ := unlinked.listed chunk chunkMember
      simp only [List.mem_append, List.mem_cons] at otherMember
      rcases otherMember with inLeft | rfl | rfl | inRight
      · exact ⟨other, by simp [inLeft], rfl⟩
      · exact ⟨joined conf other next, by simp, rfl⟩
      · have distinct := List.nodup_append.mp nodup
        rcases List.mem_append.mp chunkMember with first | second
        · exact absurd rfl (distinct.2.2 other.start first other.start List.mem_cons_self)
        · exact absurd second (List.nodup_cons.mp distinct.2.1).1
      · exact ⟨other, by simp [inRight], rfl⟩
    · intro other otherMember _
      by_cases same : other.start = span.start
      · rw [same]
        exact unlinked.flagged span member (fun equal => nomatch equal)
      · exact unlinked.flagged other (old other otherMember same) (fun equal => nomatch equal)
  · intro chunk chunkMember different
    simp only [List.mem_append, List.mem_cons] at chunkMember ⊢
    tauto
  · exact ((setSize_wrote _).headersOnly isChunk).trans taken.headers

structure Coalesced (conf : HeapConf) (heap after : Heap) (spans spans' : List Span)
    (free free' : List Nat) (span : Span) : Prop where
  ok : Ok conf after spans' free' none none
  keeps : Keeps conf (fun _ _ => True) heap after spans spans' free free'
  stays : Stays (· ≠ span.start) spans spans' free free'
  larger : ∃ later ∈ spans', later.start = span.start ∧ span.size ≤ later.size
  fewer : free'.Sublist free
  listed : span.start ∈ free → span.start ∈ free'

theorem Ok.coalesceFrom (rounds : Nat) : ∀ {heap : Heap} {right : List Span} {span : Span}
    {free : List Nat}, Ok conf heap (left ++ span :: right) free none none →
    ∃ spans' free', Coalesced conf heap
      (heap.coalesceFrom conf span.start rounds (span.stop conf.chunkSize))
      (left ++ span :: right) spans' free free' span := by
  induction rounds with
  | zero =>
    intro heap right span free ok
    exact ⟨_, free, ok, Keeps.refl, Stays.refl, ⟨span, by simp, rfl, Nat.le_refl _⟩,
      List.Sublist.refl free, id⟩
  | succ rounds ih =>
    intro heap right span free ok
    unfold Heap.coalesceFrom
    split
    next goesOn =>
      obtain ⟨inside, unallocated⟩ := goesOn
      obtain ⟨next, right, rfl, start⟩ := ok.tiles.next_of_stop (Nat.ne_of_lt inside)
      rw [← start] at unallocated ⊢
      have nextMember : next ∈ left ++ span :: next :: right := by simp
      have flagged := ok.flagged next nextMember (fun same => nomatch same)
      have listed : next.start ∈ free := by
        by_contra absent
        rw [flagged.mpr absent] at unallocated
        exact absurd unallocated (by decide)
      obtain ⟨free', absorbed, fewer, others, size, headers⟩ := ok.absorb listed
      have stop : (heap.absorb conf span.start next.start).nextChunk conf next.start =
          (joined conf span next).stop conf.chunkSize := by
        unfold nextChunk
        rw [size, start]
        unfold joined Span.stop
        dsimp only
        omega
      obtain ⟨spans'', free'', later⟩ := ih absorbed
      have before : next.start ≠ span.start := by
        have positive := chunkSize_pos conf
        unfold Span.stop at start
        omega
      have step : Keeps conf (fun _ _ => True) heap (heap.absorb conf span.start next.start)
          (left ++ span :: next :: right) (left ++ joined conf span next :: right) free free' := by
        refine headers.keeps ok.tiles ?_
        intro other otherMember absent len room _
        have stillAbsent : other.start ∉ free' := fun member => absent (fewer.subset member)
        simp only [List.mem_append, List.mem_cons] at otherMember
        rcases otherMember with inLeft | rfl | rfl | inRight
        · exact ⟨other, by simp [inLeft], stillAbsent, rfl, room⟩
        · exact ⟨joined conf other next, by simp, stillAbsent, rfl,
            room.trans (Nat.le_add_right _ _)⟩
        · exact absurd listed absent
        · exact ⟨other, by simp [inRight], stillAbsent, rfl, room⟩
      have stays : Stays (· ≠ span.start) (left ++ span :: next :: right)
          (left ++ joined conf span next :: right) free free' := by
        intro other otherMember absent different
        refine ⟨?_, fun member => absent (fewer.subset member)⟩
        simp only [List.mem_append, List.mem_cons] at otherMember ⊢
        rcases otherMember with inLeft | rfl | rfl | inRight
        · exact Or.inl inLeft
        · exact absurd rfl different
        · exact absurd listed absent
        · exact Or.inr (Or.inr inRight)
      refine ⟨spans'', free'', ?_⟩
      change Coalesced conf heap ((heap.absorb conf span.start next.start).coalesceFrom conf
        span.start rounds ((heap.absorb conf span.start next.start).nextChunk conf next.start))
        _ spans'' free free'' span
      rw [stop]
      constructor
      · exact later.ok
      · exact step.trans later.keeps
      · exact stays.trans later.stays
      · obtain ⟨last, lastMember, lastStart, lastSize⟩ := later.larger
        exact ⟨last, lastMember, lastStart, (Nat.le_add_right _ _).trans lastSize⟩
      · exact later.fewer.trans fewer
      · intro member
        exact later.listed (others span.start member (fun same => before same.symm))
    next =>
      exact ⟨_, free, ok, Keeps.refl, Stays.refl, ⟨span, by simp, rfl, Nat.le_refl _⟩,
        List.Sublist.refl free, id⟩

theorem Ok.coalesceChunks (ok : Ok conf heap (left ++ span :: right) free none none) :
    ∃ spans' free', Coalesced conf heap (heap.coalesceChunks conf span.start)
      (left ++ span :: right) spans' free free' span := by
  have size := ok.sizes span (by simp) (fun same => nomatch same)
  have stop : heap.nextChunk conf span.start = span.stop conf.chunkSize := by
    unfold nextChunk
    rw [size]
    rfl
  unfold Heap.coalesceChunks
  rw [stop]
  exact ok.coalesceFrom heap.usage

end

/-! The rounds that the loop has are enough for it: it is the heap that ends it. -/

section

variable {heap : Heap} {chunk : Nat}

@[simp] theorem allocateChunk_usage : (heap.allocateChunk conf chunk).usage = heap.usage := by
  rw [allocateChunk_eq]
  dsimp only
  rw [setPrevOf_usage]
  split
  next => exact setPrevOf_usage
  next => exact setNextOf_usage

@[simp] theorem absorb_usage {next : Nat} : (heap.absorb conf chunk next).usage = heap.usage :=
  allocateChunk_usage

@[simp] theorem coalesceFrom_usage (rounds : Nat) : ∀ {heap : Heap} {next : Nat},
    (heap.coalesceFrom conf chunk rounds next).usage = heap.usage := by
  induction rounds with
  | zero => exact rfl
  | succ rounds ih =>
    intro heap next
    unfold Heap.coalesceFrom
    split
    next => exact ih.trans absorb_usage
    next => rfl

theorem coalesceFrom_rounds (rounds : Nat) : ∀ {heap : Heap} {next more : Nat},
    heap.usage ≤ next + rounds →
    heap.coalesceFrom conf chunk (rounds + more) next =
      heap.coalesceFrom conf chunk rounds next := by
  induction rounds with
  | zero =>
    intro heap next more enough
    cases more with
    | zero => rfl
    | succ more =>
      rw [Nat.zero_add]
      unfold Heap.coalesceFrom
      exact if_neg (fun goesOn => by omega)
  | succ rounds ih =>
    intro heap next more enough
    rw [show rounds + 1 + more = rounds + more + 1 by omega]
    unfold Heap.coalesceFrom
    split
    next =>
      refine ih ?_
      have positive := chunkSize_pos conf
      unfold nextChunk
      change (heap.absorb conf chunk next).usage ≤ _
      rw [absorb_usage]
      omega
    next => rfl

theorem coalesceChunks_rounds (more : Nat) :
    heap.coalesceFrom conf chunk (heap.usage + more) (heap.nextChunk conf chunk) =
      heap.coalesceChunks conf chunk :=
  coalesceFrom_rounds heap.usage (Nat.le_add_left _ _)

end

section

variable {heap : Heap} {spans : List Span} {free : List Nat}

theorem Ok.next_free (ok : Ok conf heap spans free none none) {chunk : Nat} (listed : chunk ∈ free)
    {next : Nat} (same : heap.next conf chunk = some next) : next ∈ free := by
  obtain ⟨left, right, rfl⟩ := List.append_of_mem listed
  have member := ok.next_chunk same
  simp [member]

theorem Ok.defragFrom (rounds : Nat) : ∀ {heap : Heap} {spans : List Span} {free : List Nat}
    {ptr : Option Nat}, Ok conf heap spans free none none → (∀ chunk, ptr = some chunk →
      chunk ∈ free) →
    ∃ spans' free', Ok conf (heap.defragFrom conf rounds ptr) spans' free' none none ∧
      Keeps conf (fun _ _ => True) heap (heap.defragFrom conf rounds ptr) spans spans' free free' ∧
      Stays (fun _ => True) spans spans' free free' := by
  induction rounds with
  | zero => exact fun ok _ => ⟨_, _, ok, Keeps.refl, Stays.refl⟩
  | succ rounds ih =>
    intro heap spans free ptr ok listed
    cases ptr with
    | none => exact ⟨spans, free, ok, Keeps.refl, Stays.refl⟩
    | some chunk =>
      have chunkListed := listed chunk rfl
      obtain ⟨span, member, rfl⟩ := ok.listed chunk chunkListed
      obtain ⟨left, right, rfl⟩ := List.append_of_mem member
      obtain ⟨spans', free', coalesced⟩ := ok.coalesceChunks
      obtain ⟨spans'', free'', later, keeps, stays⟩ := ih coalesced.ok
        (fun next same => coalesced.ok.next_free (coalesced.listed chunkListed) same)
      refine ⟨spans'', free'', later, coalesced.keeps.trans keeps, Stays.trans ?_ stays⟩
      intro other otherMember absent _
      refine coalesced.stays other otherMember absent ?_
      exact fun same => absent (same ▸ chunkListed)

theorem Ok.defragChunks (ok : Ok conf heap spans free none none) :
    ∃ spans' free', Ok conf (heap.defragChunks conf) spans' free' none none ∧
      Keeps conf (fun _ _ => True) heap (heap.defragChunks conf) spans spans' free free' ∧
      Stays (fun _ => True) spans spans' free free' := by
  refine ok.defragFrom conf.searchMax ?_
  intro chunk same
  rw [ok.head] at same
  exact List.mem_of_head? same

theorem Ok.bestFrom (ok : Ok conf heap spans free none none) (size rounds : Nat) :
    ∀ {ptr best : Option Nat}, (∀ chunk, ptr = some chunk → chunk ∈ free) →
      (∀ chunk, best = some chunk → chunk ∈ free ∧ size ≤ heap.size conf chunk) →
      ∀ chunk, heap.bestFrom conf size rounds ptr best = some chunk →
        chunk ∈ free ∧ size ≤ heap.size conf chunk := by
  induction rounds with
  | zero => exact fun _ good => good
  | succ rounds ih =>
    intro ptr best listed good
    cases ptr with
    | none => exact good
    | some other =>
      have otherListed := listed other rfl
      have better : ∀ chunk, heap.better conf size best other = some chunk →
          chunk ∈ free ∧ size ≤ heap.size conf chunk := by
        intro chunk found
        unfold Heap.better at found
        split at found
        next enough =>
          cases best with
          | none =>
            obtain rfl := Option.some.inj found
            exact ⟨otherListed, enough⟩
          | some known =>
            dsimp only at found
            split at found
            next =>
              obtain rfl := Option.some.inj found
              exact ⟨otherListed, enough⟩
            next => exact good chunk found
        next => exact good chunk found
      unfold Heap.bestFrom
      dsimp only
      split
      next => exact better
      next => exact ih (fun next same => ok.next_free otherListed same) better

end

end Heap

end MultiPhyTsch
