import MultiPhyTsch.Lib.HeapCalls

/-! A block gets another size where it is or elsewhere, and the statistics coalesce the free chunks. -/

namespace MultiPhyTsch

namespace Heap

open Tiling LinkedList

variable {conf : HeapConf} {heap : Heap} {spans : List Span} {free : List Nat}

/-- What a call does for a block of `len` bytes that gets another size: the other blocks are kept,
and if no block is given, that one is, too. A block that is given is in the old place or in one
where nothing was held, and it starts with what the old one starts with. -/
structure Reallocates (conf : HeapConf) (heap : Heap) (given : Option Nat × Heap)
    (spans spans' : List Span) (free free' : List Nat) (ptr len size : Nat) : Prop where
  ok : Ok conf given.2 spans' free' none none
  keeps : Keeps conf (fun other _ => other ≠ ptr) heap given.2 spans spans' free free'
  failed : given.1 = none → Keeps conf (fun _ _ => True) heap given.2 spans spans' free free'
  held : ∀ new, given.1 = some new → Held conf spans' free' new (conf.align size)
  place : ∀ new, given.1 = some new → new = ptr ∨ ∀ len, ¬ Held conf spans free new len
  bytes : ∀ new, given.1 = some new → ∀ index, index < len → index < size →
    given.2.mem (new + index) = heap.mem (ptr + index)

theorem Reallocates.prepend {middle : Heap} {given : Option Nat × Heap}
    {spans₁ spans' : List Span} {free₁ free' : List Nat} {ptr len size : Nat}
    (reallocates : Reallocates conf middle given spans₁ spans' free₁ free' ptr len size)
    (keeps : Keeps conf (fun _ _ => True) heap middle spans spans₁ free free₁)
    (held : Held conf spans free ptr len) :
    Reallocates conf heap given spans spans' free free' ptr len size := by
  refine ⟨reallocates.ok, (keeps.mono fun _ _ _ => trivial).trans reallocates.keeps,
    fun refused => keeps.trans (reallocates.failed refused), reallocates.held, ?_, ?_⟩
  · intro new same
    rcases reallocates.place new same with there | fresh
    · exact Or.inl there
    · exact Or.inr fun len before => fresh len (keeps new len trivial before).1
  · intro new same index inOld inNew
    rw [reallocates.bytes new same index inOld inNew]
    exact (keeps ptr len trivial held).2 _ (by omega) (by omega)

theorem Ok.moveObject (ok : Ok conf heap spans free none none) {span : Span}
    (member : span ∈ spans) (absent : span.start ∉ free) {size len : Nat}
    (grows : span.size ≤ conf.align size) (room : len ≤ span.size) :
    ∃ spans' free', Reallocates conf heap
      (heap.moveObject conf (span.data conf.chunkSize) size) spans spans' free free'
      (span.data conf.chunkSize) len size := by
  have before : Held conf spans free (span.data conf.chunkSize) span.size :=
    ⟨span, member, absent, rfl, Nat.le_refl _⟩
  obtain ⟨spans₁, free₁, allocates⟩ := ok.heapmemAlloc size
  unfold Heap.moveObject
  generalize heap.heapmemAlloc conf size = result at allocates
  obtain ⟨found, after⟩ := result
  cases found with
  | none =>
    refine ⟨spans₁, free₁, allocates.ok, allocates.keeps.mono fun _ _ _ => trivial,
      fun _ => allocates.keeps, ?_, ?_, ?_⟩
    · exact fun _ same => absurd same (by simp)
    · exact fun _ same => absurd same (by simp)
    · exact fun _ same => absurd same (by simp)
  | some new =>
    have afterOk : Ok conf after spans₁ free₁ none none := allocates.ok
    obtain ⟨memberLater, absentLater⟩ := allocates.stays span member absent trivial
    have size_eq : after.size conf (getChunk conf (span.data conf.chunkSize)) = span.size := by
      rw [getChunk_data]
      exact afterOk.sizes span memberLater (fun same => nomatch same)
    have newHeld : Held conf spans₁ free₁ new (conf.align size) := allocates.held new rfl
    have fresh := allocates.fresh new rfl
    have elsewhere : new ≠ span.data conf.chunkSize := by
      rintro rfl
      exact fresh span.size before
    have oldHeld : Held conf spans₁ free₁ (span.data conf.chunkSize) span.size :=
      ⟨span, memberLater, absentLater, rfl, Nat.le_refl _⟩
    dsimp only
    rw [size_eq]
    have length : (after.mem.read (span.data conf.chunkSize) span.size).length = span.size :=
      Memory.read_length _ _ _
    generalize same : after.mem.read (span.data conf.chunkSize) span.size = bytes at length
    have fits : new + bytes.length ≤ new + conf.align size := by omega
    have stored := afterOk.store_held newHeld (Nat.le_refl new) fits
    have storeKeeps := afterOk.store_keeps newHeld (Nat.le_refl new) fits
    have oldLater := (storeKeeps _ _ (fun equal => elsewhere equal.symm) oldHeld).1
    obtain ⟨spans', free', freed, freeKeeps⟩ := stored.heapmemFree oldLater
    have newLater := freeKeeps new (conf.align size) elsewhere newHeld
    refine ⟨spans', free', freed, ?_, ?_, ?_, ?_, ?_⟩
    · intro other otherLen different held
      have there := allocates.keeps other otherLen trivial held
      have notNew : other ≠ new := by
        rintro rfl
        exact fresh otherLen held
      have written := storeKeeps other otherLen notNew there.1
      have kept := freeKeeps other otherLen different written.1
      refine ⟨kept.1, fun byte low high => ?_⟩
      exact (kept.2 byte low high).trans
        ((written.2 byte low high).trans (there.2 byte low high))
    · exact fun refused => absurd refused (by simp)
    · intro given given_eq
      obtain rfl := Option.some.inj given_eq
      exact newLater.1
    · intro given given_eq
      obtain rfl := Option.some.inj given_eq
      exact Or.inr fresh
    · intro given given_eq index inOld _
      obtain rfl := Option.some.inj given_eq
      have inside : index < span.size := by omega
      have old := (allocates.keeps _ _ trivial before).2 (span.data conf.chunkSize + index)
        (by omega) (by omega)
      refine (newLater.2 (new + index) (by omega) (by omega)).trans (Eq.trans ?_ old)
      refine Memory.write_inside after.mem (by omega) ?_
      rw [← same, Nat.add_sub_cancel_left]
      exact Memory.read_getElem? after.mem inside

section

variable {left : List Span} {span : Span} (ok : Ok conf heap (left ++ [span]) free none none)
  (absent : span.start ∉ free)
include ok absent

theorem Ok.grow {more : Nat} (room : heap.usage + more ≤ conf.arenaSize) :
    Ok conf (({ heap with usage := heap.usage + more } : Heap).setSize conf span.start
      (span.size + more)) (left ++ [⟨span.start, span.size + more⟩]) free none none := by
  have member : span ∈ left ++ [span] := List.mem_append_right _ List.mem_cons_self
  obtain ⟨tiles, stop⟩ := tiles_snoc.mp ok.tiles
  unfold Span.stop at stop
  have old : ∀ other ∈ left ++ [(⟨span.start, span.size + more⟩ : Span)],
      other.start ≠ span.start → other ∈ left ++ [span] := by
    intro other otherMember different
    rcases List.mem_append.mp otherMember with before | last
    · exact List.mem_append_left _ before
    · exact absurd (congrArg Span.start (List.mem_singleton.mp last)) different
  have base : Ok conf { heap with usage := heap.usage + more }
      (left ++ [⟨span.start, span.size + more⟩]) free (some span.start) none := by
    constructor
    · refine tiles_snoc.mpr ⟨tiles, ?_⟩
      unfold Span.stop
      dsimp only
      omega
    · exact room
    · intro other otherMember settled
      have different : other.start ≠ span.start := fun same => settled (congrArg some same.symm)
      exact ok.sizes other (old other otherMember different) (fun same => nomatch same)
    · exact ok.head
    · exact ok.linked
    · exact ok.nodup
    · intro chunk listed
      obtain ⟨other, otherMember, rfl⟩ := ok.listed chunk listed
      rcases List.mem_append.mp otherMember with before | last
      · exact ⟨other, List.mem_append_left _ before, rfl⟩
      · obtain rfl := List.mem_singleton.mp last
        exact absurd listed absent
    · intro other otherMember settled
      by_cases same : other.start = span.start
      · rw [same]
        exact ok.flagged span member (fun equal => nomatch equal)
      · exact ok.flagged other (old other otherMember same) settled
  have isNew : ⟨span.start, span.size + more⟩ ∈ left ++ [(⟨span.start, span.size + more⟩ : Span)] :=
    List.mem_append_right _ List.mem_cons_self
  have isChunk : IsChunk (left ++ [⟨span.start, span.size + more⟩]) span.start := ⟨_, isNew, rfl⟩
  have small : span.size + more < 256 ^ conf.wordSize := conf.size_lt (by omega)
  refine (base.setSize isChunk _ small).sized ?_
  intro other otherMember same
  rw [base.tiles.start_inj (chunkSize_pos conf) otherMember isNew same,
    size_setSize (base.apart isChunk isChunk) small, if_pos rfl]

theorem Ok.grown {usage size len : Nat}
    (grown : Ok conf (({ heap with usage := usage } : Heap).setSize conf span.start
      (conf.align size)) (left ++ [⟨span.start, conf.align size⟩]) free none none)
    (larger : span.size ≤ conf.align size) (room : len ≤ span.size) :
    Reallocates conf heap (some (span.data conf.chunkSize),
      ({ heap with usage := usage } : Heap).setSize conf span.start (conf.align size))
      (left ++ [span]) (left ++ [⟨span.start, conf.align size⟩]) free free
      (span.data conf.chunkSize) len size := by
  have member : span ∈ left ++ [span] := List.mem_append_right _ List.mem_cons_self
  have isNew : ⟨span.start, conf.align size⟩ ∈
      left ++ [(⟨span.start, conf.align size⟩ : Span)] :=
    List.mem_append_right _ List.mem_cons_self
  have written : HeadersOnly conf heap (({ heap with usage := usage } : Heap).setSize conf
      span.start (conf.align size)) (left ++ [span]) := by
    have wrote : Wrote conf { heap with usage := usage } _ span.start :=
      setSize_wrote (conf.align size)
    exact wrote.headersOnly ⟨span, member, rfl⟩
  have keeps : Keeps conf (fun _ _ => True) heap (({ heap with usage := usage } : Heap).setSize conf
      span.start (conf.align size)) (left ++ [span]) (left ++ [⟨span.start, conf.align size⟩]) free
      free := by
    refine written.keeps ok.tiles ?_
    intro other otherMember otherAbsent less otherRoom _
    rcases List.mem_append.mp otherMember with before | last
    · exact ⟨other, List.mem_append_left _ before, otherAbsent, rfl, otherRoom⟩
    · obtain rfl := List.mem_singleton.mp last
      exact ⟨_, isNew, otherAbsent, rfl, otherRoom.trans larger⟩
  refine ⟨grown, keeps.mono fun _ _ _ => trivial, fun _ => keeps, ?_, ?_, ?_⟩
  · intro new same
    obtain rfl := Option.some.inj same
    exact ⟨_, isNew, absent, rfl, Nat.le_refl _⟩
  · intro new same
    exact Or.inl (Option.some.inj same).symm
  · intro new same index inOld _
    obtain rfl := Option.some.inj same
    refine (keeps _ span.size trivial ⟨span, member, absent, rfl, Nat.le_refl _⟩).2 _ ?_ ?_
    · omega
    · omega

end

theorem Ok.keepPlace {left right : List Span} {span : Span}
    (ok : Ok conf heap (left ++ span :: right) free none none) (absent : span.start ∉ free)
    {size len : Nat} (enough : conf.align size ≤ span.size) (room : len ≤ span.size) :
    ∃ spans' free', Reallocates conf heap (some (span.data conf.chunkSize),
      heap.splitChunk conf span.start (conf.align size)) (left ++ span :: right) spans' free free'
        (span.data conf.chunkSize) len size := by
  obtain ⟨spans', free', split, keeps, _⟩ := ok.splitChunk absent (conf.align size)
  rw [HeapConf.align_align] at keeps
  have member : span ∈ left ++ span :: right := by simp
  have part : ∀ part, part ≤ span.size →
      Held conf (left ++ span :: right) free (span.data conf.chunkSize) part :=
    fun part le => ⟨span, member, absent, rfl, le⟩
  have within := conf.le_align size
  refine ⟨spans', free', split, ?_, ?_, ?_, ?_, ?_⟩
  · exact keeps.mono fun other _ different same => absurd same different
  · exact fun refused => absurd refused (by simp)
  · intro new same
    obtain rfl := Option.some.inj same
    exact (keeps _ _ (fun _ => Nat.le_refl _) (part _ enough)).1
  · intro new same
    exact Or.inl (Option.some.inj same).symm
  · intro new same index inOld inNew
    obtain rfl := Option.some.inj same
    have first : min len size ≤ span.size := (Nat.min_le_left len size).trans room
    have fits : min len size ≤ conf.align size := (Nat.min_le_right len size).trans within
    exact (keeps _ _ (fun _ => fits) (part _ first)).2 _ (by omega) (by omega)

theorem Reallocates.unalign {given : Option Nat × Heap} {spans' : List Span} {free' : List Nat}
    {ptr len size : Nat}
    (reallocates : Reallocates conf heap given spans spans' free free' ptr len (conf.align size)) :
    Reallocates conf heap given spans spans' free free' ptr len size := by
  have within := conf.le_align size
  refine ⟨reallocates.ok, reallocates.keeps, reallocates.failed, ?_, reallocates.place, ?_⟩
  · intro new same
    rw [← HeapConf.align_align]
    exact reallocates.held new same
  · exact fun new same index inOld inNew =>
      reallocates.bytes new same index inOld (by omega)

theorem Ok.heapmemRealloc (ok : Ok conf heap spans free none none) {ptr len size : Nat}
    (held : Held conf spans free ptr len) (positive : size ≠ 0)
    (whole : conf.toInt ((conf.align size : Int) - heap.size conf (getChunk conf ptr)) =
      (conf.align size : Int) - heap.size conf (getChunk conf ptr)) :
    ∃ spans' free', Reallocates conf heap (heap.heapmemRealloc conf (some ptr) size) spans spans'
      free free' ptr len size := by
  obtain ⟨span, member, absent, rfl, room⟩ := held
  have size_eq := ok.sizes span member (fun same => nomatch same)
  obtain ⟨left, right, rfl⟩ := List.append_of_mem member
  rw [getChunk_data, size_eq] at whole
  unfold Heap.heapmemRealloc
  dsimp only
  rw [if_neg positive, getChunk_data, size_eq, whole]
  split
  next shrinks => exact ok.keepPlace absent (by omega) room
  next grows =>
    split
    next last =>
      rw [ok.isLast member (fun same => nomatch same)] at last
      obtain rfl := ok.tiles.last_of_stop (chunkSize_pos conf) last
      unfold extendSpace
      by_cases full : heap.usage + ((conf.align size : Int) - span.size).toNat > conf.arenaSize
      · rw [if_pos full]
        obtain ⟨spans', free', moved⟩ := @Ok.moveObject conf heap _ free ok span member absent
          (conf.align size) len (by rw [HeapConf.align_align]; omega) room
        exact ⟨spans', free', moved.unalign⟩
      · rw [if_neg full]
        have grown := ok.grow absent (Nat.le_of_not_gt full)
        have larger : span.size + ((conf.align size : Int) - span.size).toNat =
            conf.align size := by omega
        rw [larger] at grown
        exact ⟨_, free, ok.grown absent grown (by omega) room⟩
    next inner =>
      obtain ⟨spans₁, free₁, coalesced⟩ := ok.coalesceChunks
      obtain ⟨later, laterMember, start, larger⟩ := coalesced.larger
      have laterAbsent : later.start ∉ free₁ := by
        rw [start]
        exact fun listed => absent (coalesced.fewer.subset listed)
      have data : span.data conf.chunkSize = later.data conf.chunkSize := by
        unfold Span.data
        rw [start]
      have held : Held conf (left ++ span :: right) free (span.data conf.chunkSize) len :=
        ⟨span, member, absent, rfl, room⟩
      have laterSize := coalesced.ok.sizes later laterMember (fun same => nomatch same)
      rw [start] at laterSize
      rw [laterSize]
      split
      next enough =>
        obtain ⟨before, behind, rfl⟩ := List.append_of_mem laterMember
        obtain ⟨spans', free', kept⟩ := coalesced.ok.keepPlace laterAbsent enough
          (room.trans larger)
        rw [← data, start] at kept
        exact ⟨spans', free', kept.prepend coalesced.keeps held⟩
      next small =>
        obtain ⟨spans', free', moved⟩ := @Ok.moveObject conf _ _ free₁ coalesced.ok later
          laterMember laterAbsent (conf.align size) len (by rw [HeapConf.align_align]; omega)
          (room.trans larger)
        rw [← data] at moved
        exact ⟨spans', free', moved.unalign.prepend coalesced.keeps held⟩

def Boundary (conf : HeapConf) (spans : List Span) (address : Nat) : Prop :=
  ∃ left right, spans = left ++ right ∧ Tiles conf.chunkSize 0 left address

theorem boundary_stop {last : Nat} {span : Span} (tiles : Tiles conf.chunkSize 0 spans last)
    (member : span ∈ spans) : Boundary conf spans (span.stop conf.chunkSize) := by
  obtain ⟨left, right, rfl⟩ := List.append_of_mem member
  obtain ⟨middle, before, start, _⟩ := tiles_append.mp tiles
  refine ⟨left ++ [span], right, by simp, tiles_snoc.mpr ⟨?_, rfl⟩⟩
  rw [start]
  exact before

theorem Boundary.chunk {address last : Nat} (boundary : Boundary conf spans address)
    (tiles : Tiles conf.chunkSize 0 spans last) (inside : address < last) :
    ∃ span ∈ spans, span.start = address := by
  obtain ⟨left, right, rfl, before⟩ := boundary
  obtain ⟨middle, first, second⟩ := tiles_append.mp tiles
  have same : middle = address := first.unique before
  subst same
  cases right with
  | nil => exact absurd second (Nat.ne_of_lt inside)
  | cons span right => exact ⟨span, by simp, second.1⟩

theorem Ok.statsFrom (rounds : Nat) : ∀ {heap : Heap} {spans : List Span} {free : List Nat}
    {chunk : Nat} {stats : HeapStats}, Ok conf heap spans free none none →
    Boundary conf spans chunk →
    ∃ spans' free', Ok conf (heap.statsFrom conf rounds chunk stats).2 spans' free' none none ∧
      Keeps conf (fun _ _ => True) heap (heap.statsFrom conf rounds chunk stats).2 spans spans' free
        free' := by
  induction rounds with
  | zero => exact fun ok _ => ⟨_, _, ok, Keeps.refl⟩
  | succ rounds ih =>
    intro heap spans free chunk stats ok boundary
    unfold Heap.statsFrom
    split
    next inside =>
      obtain ⟨span, member, rfl⟩ := boundary.chunk ok.tiles inside
      split
      next =>
        have stop : heap.nextChunk conf span.start = span.stop conf.chunkSize := by
          unfold nextChunk
          rw [ok.sizes span member (fun same => nomatch same)]
          rfl
        rw [stop]
        exact ih ok (boundary_stop ok.tiles member)
      next =>
        obtain ⟨left, right, rfl⟩ := List.append_of_mem member
        obtain ⟨spans₁, free₁, coalesced⟩ := ok.coalesceChunks
        obtain ⟨later, laterMember, start, _⟩ := coalesced.larger
        have stop : (heap.coalesceChunks conf span.start).nextChunk conf span.start =
            later.stop conf.chunkSize := by
          have size := coalesced.ok.sizes later laterMember (fun same => nomatch same)
          rw [start] at size
          unfold nextChunk
          rw [size, ← start]
          rfl
        dsimp only
        rw [stop]
        obtain ⟨spans', free', last, keeps⟩ := ih coalesced.ok
          (boundary_stop coalesced.ok.tiles laterMember)
        exact ⟨spans', free', last, coalesced.keeps.trans keeps⟩
    next => exact ⟨spans, free, ok, Keeps.refl⟩

theorem statsFrom_rounds (rounds : Nat) : ∀ {heap : Heap} {chunk more : Nat} {stats : HeapStats},
    heap.usage ≤ chunk + rounds →
    heap.statsFrom conf (rounds + more) chunk stats = heap.statsFrom conf rounds chunk stats := by
  have positive := chunkSize_pos conf
  induction rounds with
  | zero =>
    intro heap chunk more stats enough
    cases more with
    | zero => rfl
    | succ more =>
      rw [Nat.zero_add]
      unfold Heap.statsFrom
      exact if_neg (by omega)
  | succ rounds ih =>
    intro heap chunk more stats enough
    rw [show rounds + 1 + more = rounds + more + 1 by omega]
    unfold Heap.statsFrom
    split
    next =>
      split
      next =>
        refine ih ?_
        unfold nextChunk
        omega
      next =>
        refine ih ?_
        unfold nextChunk Heap.coalesceChunks
        rw [coalesceFrom_usage]
        omega
    next => rfl

theorem Ok.heapmemStats (ok : Ok conf heap spans free none none) :
    ∃ spans' free', Ok conf (heap.heapmemStats conf).2 spans' free' none none ∧
      Keeps conf (fun _ _ => True) heap (heap.heapmemStats conf).2 spans spans' free free' :=
  ok.statsFrom heap.usage ⟨[], spans, rfl, rfl⟩

end Heap

end MultiPhyTsch
