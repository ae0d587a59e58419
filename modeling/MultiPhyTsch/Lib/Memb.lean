import Mathlib.Data.List.Basic
import Mathlib.Data.List.Nodup
import Mathlib.Logic.Function.Basic

/-! Fixed pools of memory blocks (`os/lib/memb.c`) and the sequence view of the
intrusive lists of `os/lib/list.c`. A pointer into a pool is the index of its block. -/

structure Memb (α : Type) where
  num : Nat
  count : Nat → Nat
  mem : Nat → α

namespace Memb

variable {α : Type}

def membInit [Inhabited α] (pool : Memb α) : Memb α :=
  { pool with count := fun _ => 0, mem := fun _ => default }

variable (pool : Memb α)

/-- `memb_alloc`: the first block whose count is zero. Its content is left as it is. -/
def membAlloc : Option Nat × Memb α :=
  match (List.range pool.num).find? (fun block => pool.count block = 0) with
  | some block =>
    (some block, { pool with count := Function.update pool.count block (pool.count block + 1) })
  | none => (none, pool)

def membFree (block : Nat) : Memb α :=
  if block < pool.num ∧ 0 < pool.count block then
    { pool with count := Function.update pool.count block (pool.count block - 1) }
  else pool

def membNumfree : Nat :=
  ((List.range pool.num).filter fun block => pool.count block = 0).length

def write (block : Nat) (change : α → α) : Memb α :=
  { pool with mem := Function.update pool.mem block (change (pool.mem block)) }

section

variable (pool : Memb α) (block : Nat) (change : α → α)

@[simp] theorem write_num :
    (pool.write block change).num = pool.num := rfl

@[simp] theorem write_count :
    (pool.write block change).count = pool.count := rfl

@[simp] theorem write_same : (pool.write block change).mem block = change (pool.mem block) := by
  simp [write]

end

section

variable (pool : Memb α)

theorem write_other {block other : Nat} (change : α → α) (different : other ≠ block) :
    (pool.write block change).mem other = pool.mem other := by
  simp [write, different]

theorem write_field {β : Type} (block : Nat) (change : α → α) (field : α → β)
    (same : field (change (pool.mem block)) = field (pool.mem block)) (other : Nat) :
    field ((pool.write block change).mem other) = field (pool.mem other) := by
  by_cases equal : other = block
  · subst equal
    rw [write_same, same]
  · rw [write_other _ _ equal]

theorem membAlloc_fst :
    pool.membAlloc.1 = (List.range pool.num).find? fun block => pool.count block = 0 := by
  rw [membAlloc]
  split
  · rename_i found
    exact found.symm
  · rename_i absent
    exact absent.symm

theorem write_membAlloc (block : Nat) (change : α → α) :
    (pool.write block change).membAlloc.1 = pool.membAlloc.1 := by
  rw [membAlloc_fst, membAlloc_fst]
  rfl

@[simp] theorem membFree_mem (block : Nat) : (pool.membFree block).mem = pool.mem := by
  unfold membFree; split <;> rfl

@[simp] theorem membFree_num (block : Nat) : (pool.membFree block).num = pool.num := by
  unfold membFree; split <;> rfl

end

structure InUse (pool : Memb α) (blocks : List Nat) : Prop where
  count_eq : ∀ block, pool.count block = if block ∈ blocks then 1 else 0
  bounded : ∀ block ∈ blocks, block < pool.num

theorem InUse.congr {pool : Memb α} {blocks others : List Nat} (used : pool.InUse blocks)
    (same : ∀ block, block ∈ others ↔ block ∈ blocks) : pool.InUse others := by
  constructor
  · intro block
    simp only [used.count_eq block, same block]
  · intro block member
    exact used.bounded block ((same block).mp member)

theorem InUse.write {pool : Memb α} {blocks : List Nat} (used : pool.InUse blocks)
    (block : Nat) (change : α → α) : (pool.write block change).InUse blocks :=
  ⟨used.count_eq, used.bounded⟩

theorem membInit_inUse [Inhabited α] (pool : Memb α) : pool.membInit.InUse [] := by
  constructor <;> simp [membInit]

@[simp] theorem membAlloc_mem (pool : Memb α) : pool.membAlloc.2.mem = pool.mem := by
  unfold membAlloc
  split <;> rfl

@[simp] theorem membAlloc_num (pool : Memb α) : pool.membAlloc.2.num = pool.num := by
  unfold membAlloc
  split <;> rfl

variable {pool : Memb α}

variable {blocks : List Nat}

theorem membAlloc_some {block : Nat}
    (used : pool.InUse blocks) (found : pool.membAlloc.1 = some block) :
    block ∉ blocks ∧ pool.membAlloc.2.InUse (block :: blocks) ∧
      pool.membAlloc.2.mem = pool.mem ∧ pool.membAlloc.2.num = pool.num := by
  unfold membAlloc at found ⊢
  split at found
  · rename_i first search
    simp only [Option.some.injEq] at found
    subst first
    have zero : pool.count block = 0 := by simpa using List.find?_some search
    have bound : block < pool.num := List.mem_range.mp (List.mem_of_find?_eq_some search)
    have fresh : block ∉ blocks := by
      intro member
      simp [used.count_eq block, member] at zero
    refine ⟨fresh, ⟨?_, ?_⟩, rfl, rfl⟩
    · intro other
      by_cases same : other = block
      · simp [same, zero]
      · simp [same, used.count_eq other]
    · intro other member
      rcases List.mem_cons.mp member with same | old
      · simpa [same] using bound
      · exact used.bounded other old
  · simp at found

theorem membAlloc_taken {block : Nat} {memb : Memb α} (used : pool.InUse blocks)
    (alloc : pool.membAlloc = (some block, memb)) :
    block ∉ blocks ∧ memb.InUse (block :: blocks) ∧ memb.mem = pool.mem ∧ memb.num = pool.num := by
  have taken := membAlloc_some used (congrArg Prod.fst alloc)
  rwa [alloc] at taken

theorem InUse.membFree {block : Nat} (used : pool.InUse blocks)
    (member : block ∈ blocks) : (pool.membFree block).InUse (blocks.filter (· ≠ block)) := by
  have bound := used.bounded block member
  have one : pool.count block = 1 := by simp [used.count_eq block, member]
  unfold Memb.membFree
  rw [if_pos ⟨bound, by omega⟩]
  constructor
  · intro other
    by_cases same : other = block
    · simp [same, one]
    · simp [same, used.count_eq other]
  · intro other kept
    exact used.bounded other (List.mem_of_mem_filter kept)

theorem InUse.membAlloc_membFree {block : Nat}
    (used : pool.InUse blocks) (member : block ∈ blocks) :
    (pool.membFree block).membAlloc.1.isSome = true := by
  have bound := used.bounded block member
  have one : pool.count block = 1 := by simp [used.count_eq block, member]
  rw [membAlloc_fst, List.find?_isSome]
  refine ⟨block, by simpa using bound, ?_⟩
  rw [Memb.membFree, if_pos ⟨bound, by omega⟩]
  simp [one]

theorem InUse.membNumfree_add (used : pool.InUse blocks)
    (unique : blocks.Nodup) : pool.membNumfree + blocks.length = pool.num := by
  have busy : ((List.range pool.num).filter fun block => ¬ pool.count block = 0).Perm blocks := by
    rw [List.perm_ext_iff_of_nodup (List.nodup_range.filter _) unique]
    intro block
    simp only [List.mem_filter, List.mem_range, used.count_eq block]
    constructor
    · rintro ⟨_, occupied⟩
      by_contra absent
      simp [absent] at occupied
    · intro member
      exact ⟨used.bounded block member, by simp [member]⟩
  have split := List.length_eq_length_filter_add
    (l := List.range pool.num) (fun block => decide (pool.count block = 0))
  simp only [List.length_range] at split
  have sameBusy : ((List.range pool.num).filter fun block => !decide (pool.count block = 0)).length =
      blocks.length := by
    rw [← busy.length_eq]
    congr 1
    apply List.filter_congr
    intro block _
    simp
  unfold membNumfree
  omega

theorem membAlloc_none {memb : Memb α} (full : pool.membAlloc = (none, memb)) : memb = pool := by
  unfold membAlloc at full
  split at full
  · cases full
  · exact (congrArg Prod.snd full).symm

theorem membFree_membAlloc_count {block : Nat} (found : pool.membAlloc.1 = some block) :
    (pool.membAlloc.2.membFree block).count = pool.count := by
  unfold membAlloc at found ⊢
  split at found
  · rename_i first search
    simp only [Option.some.injEq] at found
    subst first
    have zero : pool.count block = 0 := by simpa using List.find?_some search
    have bound : block < pool.num := List.mem_range.mp (List.mem_of_find?_eq_some search)
    simp only [membFree, bound, Function.update_self, zero]
    funext other
    by_cases same : other = block
    · simp [same, zero]
    · simp [same]
  · cases found

theorem write_membFree (pool : Memb α) (block : Nat) (change : α → α) :
    ((pool.write block change).membFree block).count = (pool.membFree block).count := by
  by_cases valid : block < pool.num ∧ 0 < pool.count block
  · simp [membFree, valid]
  · simp [membFree, valid]

structure Exactly (pool : Memb α) (blocks : List Nat) : Prop where
  inUse : pool.InUse blocks
  nodup : blocks.Nodup

namespace Exactly

variable {pool : Memb α} {blocks others : List Nat} {block : Nat}

section

variable (exactly : pool.Exactly blocks)
include exactly

theorem perm (same : others.Perm blocks) : pool.Exactly others :=
  ⟨exactly.inUse.congr fun _ => same.mem_iff, same.nodup_iff.mpr exactly.nodup⟩

theorem write (other : Nat) (change : α → α) : (pool.write other change).Exactly blocks :=
  ⟨exactly.inUse.write other change, exactly.nodup⟩

theorem alloc (found : pool.membAlloc.1 = some block) :
    pool.membAlloc.2.Exactly (block :: blocks) := by
  obtain ⟨fresh, inUse, -⟩ := membAlloc_some exactly.inUse found
  exact ⟨inUse, List.nodup_cons.mpr ⟨fresh, exactly.nodup⟩⟩

theorem taken {memb : Memb α} (alloc : pool.membAlloc = (some block, memb)) :
    memb.Exactly (block :: blocks) ∧ (memb.membFree block).count = pool.count ∧
      memb.mem = pool.mem := by
  have found := congrArg Prod.fst alloc
  have blocks := exactly.alloc found
  have count := membFree_membAlloc_count found
  have mem := pool.membAlloc_mem
  rw [alloc] at blocks count mem
  exact ⟨blocks, count, mem⟩

theorem free (split : blocks.Perm (block :: others)) : (pool.membFree block).Exactly others := by
  have unique := split.nodup_iff.mp exactly.nodup
  rw [List.nodup_cons] at unique
  have member : block ∈ blocks := split.mem_iff.mpr List.mem_cons_self
  refine ⟨(exactly.inUse.membFree member).congr fun other => ?_, unique.2⟩
  rw [List.mem_filter, split.mem_iff, List.mem_cons, decide_eq_true_eq]
  constructor
  · intro inside
    refine ⟨Or.inr inside, ?_⟩
    rintro rfl
    exact unique.1 inside
  · rintro ⟨rfl | inside, different⟩
    · exact absurd rfl different
    · exact inside

end

end Exactly

theorem membAlloc_isSome_iff_numfree (pool : Memb α) :
    pool.membAlloc.1.isSome = true ↔ 0 < pool.membNumfree := by
  rw [membAlloc_fst, List.find?_isSome, membNumfree, List.length_pos_iff_exists_mem]
  simp only [List.mem_filter]

theorem InUse.membAlloc_isSome_iff {pool : Memb α} {blocks : List Nat} (used : pool.InUse blocks)
    (unique : blocks.Nodup) : pool.membAlloc.1.isSome = true ↔ blocks.length < pool.num := by
  have total := used.membNumfree_add unique
  rw [membAlloc_isSome_iff_numfree]
  omega

def map {β : Type} (view : α → β) (pool : Memb α) : Memb β :=
  ⟨pool.num, pool.count, fun block => view (pool.mem block)⟩

section Map

variable {β : Type} (view : α → β)

section

variable (pool : Memb α) (block : Nat)

theorem map_write (change : α → α) {viewed : β → β}
    (same : view (change (pool.mem block)) = viewed (view (pool.mem block))) :
    (pool.write block change).map view = (pool.map view).write block viewed := by
  simp only [map, write, Memb.mk.injEq, true_and]
  funext other
  by_cases equal : other = block
  · subst equal
    simp [same]
  · simp [equal]

theorem write_id {change : α → α} (same : change (pool.mem block) = pool.mem block) :
    pool.write block change = pool := by
  simp [write, same]

theorem map_write_same (change : α → α)
    (same : view (change (pool.mem block)) = view (pool.mem block)) :
    (pool.write block change).map view = pool.map view := by
  have written : view (change (pool.mem block)) = id (view (pool.mem block)) := same
  rw [map_write view pool block change written, write_id]
  rfl

theorem map_membFree : (pool.membFree block).map view = (pool.map view).membFree block := by
  by_cases valid : block < pool.num ∧ 0 < pool.count block
  · simp [membFree, map, valid]
  · simp [membFree, map, valid]

end

theorem map_membAlloc (pool : Memb α) :
    (pool.map view).membAlloc = (pool.membAlloc.1, pool.membAlloc.2.map view) := by
  have same : (List.range (pool.map view).num).find? (fun block => (pool.map view).count block = 0) =
      (List.range pool.num).find? fun block => pool.count block = 0 := rfl
  simp only [membAlloc, same]
  cases (List.range pool.num).find? fun block => pool.count block = 0 with
  | none => rfl
  | some block => rfl

theorem map_inUse {pool : Memb α} {blocks : List Nat} :
    (pool.map view).InUse blocks ↔ pool.InUse blocks := by
  constructor
  · exact fun used => ⟨used.count_eq, used.bounded⟩
  · exact fun used => ⟨used.count_eq, used.bounded⟩

end Map

end Memb

/-! `list.c` keeps every element at most once: adding moves an element to the end. -/

def listRemove (list : List Nat) (item : Nat) : List Nat := list.erase item

def listAdd (list : List Nat) (item : Nat) : List Nat := listRemove list item ++ [item]

variable {list : List Nat}

theorem listAdd_of_not_mem {item : Nat} (fresh : item ∉ list) :
    listAdd list item = list ++ [item] := by
  simp [listAdd, listRemove, List.erase_of_not_mem fresh]

theorem mem_listAdd {item other : Nat} :
    other ∈ listAdd list item ↔ other = item ∨ other ∈ list := by
  unfold listAdd listRemove
  rw [List.mem_append, List.mem_singleton]
  by_cases same : other = item
  · simp [same]
  · simp [same, List.mem_erase_of_ne same]

theorem nodup_listAdd (nodup : list.Nodup) (item : Nat) : (listAdd list item).Nodup := by
  unfold listAdd listRemove
  rw [List.nodup_append]
  refine ⟨nodup.erase item, List.nodup_singleton item, ?_⟩
  intro other member last single same
  rw [List.mem_singleton] at single
  rw [same, single, nodup.mem_erase_iff] at member
  exact member.1 rfl

theorem mem_listRemove (nodup : list.Nodup) {item other : Nat} :
    other ∈ listRemove list item ↔ other ≠ item ∧ other ∈ list :=
  nodup.mem_erase_iff

theorem exists_flatMap_split {owners : List Nat} (first second : Nat → List Nat) {owner : Nat}
    (unique : owners.Nodup) (member : owner ∈ owners)
    (agree : ∀ other, other ≠ owner → second other = first other) :
    ∃ before after, owners.flatMap first = before ++ first owner ++ after ∧
      owners.flatMap second = before ++ second owner ++ after := by
  obtain ⟨front, back, rfl⟩ := List.append_of_mem member
  have apart := List.nodup_middle.mp unique
  rw [List.nodup_cons, List.mem_append, not_or] at apart
  have same : ∀ part : List Nat, owner ∉ part → part.flatMap second = part.flatMap first := by
    intro part absent
    apply List.flatMap_congr
    intro other inside
    exact agree other fun equal => absent (equal ▸ inside)
  refine ⟨front.flatMap first, back.flatMap first, ?_, ?_⟩
  · simp
  · simp [same front apart.1.1, same back apart.1.2]

theorem flatMap_perm_cons {owners : List Nat} {first second : Nat → List Nat} {owner item : Nat}
    (unique : owners.Nodup) (member : owner ∈ owners)
    (agree : ∀ other, other ≠ owner → second other = first other)
    (split : (first owner).Perm (item :: second owner)) :
    (owners.flatMap first).Perm (item :: owners.flatMap second) := by
  obtain ⟨before, after, old, new⟩ := exists_flatMap_split first second unique member agree
  rw [old, new]
  have moved : (before ++ first owner).Perm (before ++ item :: second owner) :=
    split.append_left before
  refine (moved.append_right after).trans ?_
  rw [List.append_assoc, List.cons_append, List.append_assoc]
  exact List.perm_middle
