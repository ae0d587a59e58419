import MultiPhyTsch.Lib.HeapClient

/-! `heapmem_realloc` takes the difference of two sizes for an `int`. Where an arena is so large that
this cuts it off, a block is said to be large enough that is not. -/

namespace MultiPhyTsch

namespace HeapConf

variable {conf : HeapConf}

theorem modulus_cast (conf : HeapConf) :
    (256 : Int) ^ conf.intSize = ((256 ^ conf.intSize : Nat) : Int) := by
  rw [Int.natCast_pow]
  rfl

theorem toInt_eq {difference : Int}
    (small : 2 * difference.natAbs < 256 ^ conf.intSize) : conf.toInt difference = difference := by
  have bound := modulus_cast conf
  unfold toInt
  dsimp only
  generalize (256 : Int) ^ conf.intSize = modulus at bound
  rcases Int.le_total 0 difference with positive | negative
  · rw [Int.emod_eq_of_lt positive (by omega), if_pos (by omega)]
  · by_cases zero : difference = 0
    · subst zero
      rw [Int.zero_emod, if_pos (by omega)]
    · have wrapped : difference % modulus = difference + modulus := by
        rw [← Int.add_emod_right]
        exact Int.emod_eq_of_lt (by omega) (by omega)
      rw [wrapped, if_neg (by omega)]
      omega

theorem toInt_le {size : Nat}
    (truncated : size % 256 ^ conf.intSize = 0 ∨
      256 ^ conf.intSize ≤ 2 * (size % 256 ^ conf.intSize)) : conf.toInt size ≤ 0 := by
  have positive : 0 < 256 ^ conf.intSize := Nat.pow_pos (by decide)
  have below := Nat.mod_lt size positive
  unfold toInt
  dsimp only
  rw [modulus_cast, ← Int.natCast_mod]
  split
  next => omega
  next => omega

theorem exists_truncated (room : 0 < conf.arenaSize)
    (large : 256 ^ conf.intSize ≤ 2 * conf.align conf.arenaSize) :
    ∃ size, size ≠ 0 ∧ size ≤ conf.arenaSize ∧ conf.toInt (conf.align size) ≤ 0 := by
  have positive := alignment_pos conf
  have power : (256 : Nat) ^ conf.intSize = 2 ^ (8 * conf.intSize) := by
    rw [Nat.pow_mul]
  rcases Nat.lt_or_ge (conf.alignBits + 1) (8 * conf.intSize) with more | less
  · obtain ⟨rest, bits⟩ := Nat.exists_eq_add_of_lt more
    have modulus : 256 ^ conf.intSize = 2 * ((2 ^ (rest + 1)) * conf.alignment) := by
      unfold alignment
      rw [power, bits, ← Nat.pow_add, ← Nat.pow_succ']
      congr 1
      omega
    obtain ⟨count, counted⟩ : ∃ count, 2 ^ (rest + 1) = count + 1 :=
      ⟨2 ^ (rest + 1) - 1, by have := Nat.two_pow_pos (rest + 1); omega⟩
    rw [counted] at modulus
    have aligned : conf.align (count * conf.alignment + 1) = (count + 1) * conf.alignment := by
      have sum : count * conf.alignment + 1 + (conf.alignment - 1) =
          (count + 1) * conf.alignment := by
        rw [Nat.succ_mul]
        omega
      unfold align
      rw [sum, Nat.mul_div_cancel _ positive]
    refine ⟨count * conf.alignment + 1, Nat.succ_ne_zero _, ?_, ?_⟩
    · by_contra tooLarge
      have bound := conf.align_mono (Nat.le_of_lt_succ (Nat.lt_of_not_le tooLarge))
      rw [align_multiple] at bound
      rw [modulus, Nat.succ_mul count] at large
      omega
    · rw [aligned]
      refine toInt_le (Or.inr ?_)
      rw [modulus, Nat.mod_eq_of_lt (by rw [Nat.succ_mul]; omega)]
  · have aligned : conf.align 1 = conf.alignment := by
      unfold align
      rw [Nat.add_sub_of_le positive, Nat.div_self positive, Nat.one_mul]
    refine ⟨1, Nat.one_ne_zero, room, ?_⟩
    rw [aligned]
    refine toInt_le ?_
    rcases Nat.lt_or_ge conf.alignBits (8 * conf.intSize) with bits | bits
    · right
      have same : 8 * conf.intSize = conf.alignBits + 1 := by omega
      unfold alignment
      rw [power, same, Nat.mod_eq_of_lt (Nat.pow_lt_pow_right (by decide) (Nat.lt_succ_self _)),
        Nat.pow_succ']
    · left
      rw [power]
      exact Nat.mod_eq_zero_of_dvd (Nat.pow_dvd_pow 2 bits)

end HeapConf

open Tiling LinkedList Heap

namespace HeapClient

variable {conf : HeapConf} {client : HeapClient} {spans : List Span} {free : List Nat}

theorem Tracks.differenceFits (tracks : Tracks conf client.heap client.live spans free)
    {op : HeapOp} (within : op.Within conf)
    (counted : conf.arenaSize < conf.chunkSize ∨
      2 * conf.align conf.arenaSize < 256 ^ conf.intSize) : client.DifferenceFits conf op := by
  cases op with
  | realloc ptr size =>
    cases ptr with
    | none => trivial
    | some ptr =>
      intro _ live
      obtain ⟨block, found⟩ := Option.isSome_iff_exists.mp live
      obtain ⟨member, rfl⟩ := find_some found
      obtain ⟨span, spanMember, _, data, _⟩ := (tracks.held block member).1
      have bound := tracks.ok.small spanMember
      have old := tracks.ok.sizes span spanMember (fun same => nomatch same)
      have requested : conf.align size ≤ conf.align conf.arenaSize := conf.align_mono within
      have arena := conf.le_align conf.arenaSize
      dsimp only
      rw [← data, getChunk_data, old]
      exact HeapConf.toInt_eq (by omega)
  | alloc size => trivial
  | free ptr => trivial
  | stats => trivial
  | store ptr offset bytes => trivial

theorem align_zero (conf : HeapConf) : conf.align 0 = 0 := by
  have multiple := conf.align_multiple 0
  rw [Nat.zero_mul] at multiple
  exact multiple

theorem boot_alloc (room : conf.chunkSize ≤ conf.arenaSize) :
    boot.heap.heapmemAlloc conf 0 = (some conf.chunkSize,
      ((⟨fun _ => 0, conf.chunkSize, none⟩ : Heap).setSize conf 0 0).setFlags conf 0
        chunkFlagAllocated) := by
  have nothing : boot.heap.getFreeChunk conf 0 = (none, boot.heap) := by
    have defragged : boot.heap.defragChunks conf = boot.heap := by
      unfold defragChunks
      cases conf.searchMax with
      | zero => rfl
      | succ rounds => rfl
    unfold getFreeChunk
    rw [defragged]
    cases conf.searchMax with
    | zero => rfl
    | succ rounds => rfl
  have extended : boot.heap.extendSpace conf (conf.chunkSize + 0) =
      (some 0, ⟨fun _ => 0, conf.chunkSize, none⟩) := by
    unfold extendSpace
    change (if 0 + (conf.chunkSize + 0) > conf.arenaSize then _ else _) = _
    rw [if_neg (by omega)]
    change (some 0, (⟨fun _ => 0, 0 + (conf.chunkSize + 0), none⟩ : Heap)) = _
    rw [Nat.add_zero, Nat.zero_add]
  have ptr : getPtr conf 0 = conf.chunkSize := Nat.zero_add _
  unfold heapmemAlloc
  dsimp only
  rw [align_zero, nothing]
  dsimp only
  rw [extended]
  dsimp only
  rw [ptr]

theorem truncated_realloc (room : conf.chunkSize ≤ conf.arenaSize) {size : Nat} (asked : size ≠ 0)
    (truncated : conf.toInt (conf.align size) ≤ 0) :
    ¬ Run.Always (step conf) (Correct conf) boot
      [.alloc 0, .realloc (some conf.chunkSize) size] := by
  have first : (boot.step conf (.alloc 0)) = ⟨((⟨fun _ => 0, conf.chunkSize, none⟩ :
      Heap).setSize conf 0 0).setFlags conf 0 chunkFlagAllocated, [⟨conf.chunkSize, 0, []⟩]⟩ := by
    change boot.alloc conf 0 = _
    unfold HeapClient.alloc
    rw [boot_alloc room]
    rfl
  have empty : (((⟨fun _ => 0, conf.chunkSize, none⟩ : Heap).setSize conf 0 0).setFlags conf 0
      chunkFlagAllocated).size conf 0 = 0 := by
    rw [size_setFlags (Or.inl rfl), size_setSize (Or.inl rfl) (Nat.pow_pos (by decide)), if_pos rfl]
  generalize ((⟨fun _ => 0, conf.chunkSize, none⟩ : Heap).setSize conf 0 0).setFlags conf 0
    chunkFlagAllocated = heap at first empty
  have chunk : getChunk conf conf.chunkSize = 0 := Nat.sub_self _
  have stays : heap.splitChunk conf 0 (conf.align size) = heap := by
    unfold splitChunk
    dsimp only
    rw [empty]
    exact if_neg (Nat.not_lt_zero _)
  have second : heap.heapmemRealloc conf (some conf.chunkSize) size =
      (some conf.chunkSize, heap) := by
    unfold heapmemRealloc
    dsimp only
    rw [if_neg asked, chunk, empty]
    rw [show ((conf.align size : Int) - (0 : Nat)) = conf.align size by omega]
    rw [if_pos truncated, stays]
  rintro ⟨_, _, spans, free, consistent⟩
  rw [first] at consistent
  have found : find ⟨heap, [⟨conf.chunkSize, 0, []⟩]⟩ conf.chunkSize =
      some ⟨conf.chunkSize, 0, []⟩ := List.find?_cons_of_pos (decide_eq_true rfl)
  unfold step at consistent
  dsimp only at consistent
  rw [found] at consistent
  dsimp only at consistent
  rw [second] at consistent
  obtain ⟨span, member, _, data, enough⟩ := consistent.held _ List.mem_cons_self
  have start : span.start = 0 := by
    unfold Span.data at data
    dsimp only at data
    omega
  have larger : size ≤ span.size := enough
  have zero : heap.size conf span.start = span.size := consistent.sizes span member
  rw [start] at zero
  omega

/-- In every run in which the differences of the sizes are `int`s, the chunks fill the heap, the free
list has those that are not allocated, and the live blocks are apart and as they were left. All runs
are so exactly if the arena is no larger than an `int` counts, or has no room for a chunk. -/
theorem heapmem_correct (conf : HeapConf) :
    (∀ ops, (∀ op ∈ ops, op.Within conf) → Run.Meets (step conf) (DifferenceFits conf) boot ops →
      Run.Always (step conf) (Correct conf) boot ops) ∧
    ((∀ ops, (∀ op ∈ ops, op.Within conf) → Run.Always (step conf) (Correct conf) boot ops) ↔
      conf.arenaSize < conf.chunkSize ∨ 2 * conf.align conf.arenaSize < 256 ^ conf.intSize) := by
  refine ⟨fun ops _ => always_correct conf ops, ?_, ?_⟩
  · intro always
    by_contra large
    rw [not_or] at large
    have room : conf.chunkSize ≤ conf.arenaSize := Nat.le_of_not_lt large.1
    have positive := chunkSize_pos conf
    obtain ⟨size, asked, within, truncated⟩ :=
      @HeapConf.exists_truncated conf (by omega) (Nat.le_of_not_lt large.2)
    refine truncated_realloc room asked truncated (always _ ?_)
    intro op member
    rcases List.mem_cons.mp member with rfl | later
    · exact Nat.zero_le _
    · obtain rfl := List.mem_singleton.mp later
      exact within
  · intro counted ops within
    refine always_correct conf ops ?_
    refine Run.meets_of_meets
      (fun client => ∃ spans free, Tracks conf client.heap client.live spans free) ?_ ?_ ops boot
      ⟨[], [], boot_tracks⟩ (Run.meets_of_mem ops boot within)
    · rintro client op ⟨spans, free, tracks⟩ allowed
      exact tracks.step (tracks.differenceFits allowed counted)
    · rintro client op ⟨spans, free, tracks⟩ allowed
      exact tracks.differenceFits allowed counted

theorem eight_pos : 0 < 8 := by decide

/-- An arena of 4 GiB on a machine with an `int` of four bytes and words of eight. -/
def largeArena : HeapConf where
  arenaSize := 2 ^ 32
  searchMax := 16
  alignBits := 2
  wordSize := 8
  intSize := 4
  base := 2 ^ 12
  word_pos := eight_pos
  base_pos := by decide
  fits := by decide

theorem large_arena_fails :
    ¬ ∀ ops, (∀ op ∈ ops, op.Within largeArena) →
      Run.Always (step largeArena) (Correct largeArena) boot ops := by
  intro always
  have room : largeArena.chunkSize ≤ largeArena.arenaSize := by decide
  have asked : 2 ^ 31 ≠ 0 := by decide
  have truncated : largeArena.toInt (largeArena.align (2 ^ 31)) ≤ 0 := by decide
  refine truncated_realloc room asked truncated (always _ ?_)
  intro op member
  rcases List.mem_cons.mp member with rfl | later
  · exact Nat.zero_le _
  · obtain rfl := List.mem_singleton.mp later
    change 2 ^ 31 ≤ 2 ^ 32
    decide

end HeapClient

end MultiPhyTsch
