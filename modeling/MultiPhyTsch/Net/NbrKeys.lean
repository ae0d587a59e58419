import MultiPhyTsch.Rpl.Neighbors

/-! The keys of the neighbor tables: their blocks, their addresses, and the items that are used. -/

namespace MultiPhyTsch.Nbr

open Rpl

/-- Every key has a block and an address of its own, and what is used is a key. A key in `pending`
has its block and is not on the list yet. -/
structure KeysSound (pending : List Nat) (tables : NbrTables) : Prop where
  exactly : tables.neighborAddrMem.Exactly (pending ++ tables.nbrTableKeys)
  addresses : (tables.nbrTableKeys.map tables.neighborAddrMem.mem).Nodup
  used : ∀ key table, tables.usedMap key table = true → key ∈ tables.nbrTableKeys

namespace KeysSound

variable {pending : List Nat} {tables : NbrTables}

theorem nodup (sound : KeysSound pending tables) : tables.nbrTableKeys.Nodup :=
  sound.exactly.nodup.of_append_right

variable {key : Nat}

section

variable (sound : KeysSound pending tables)
include sound

theorem indexFromLladdr_eq_some {lladdr : Option LinkAddr}
    : tables.indexFromLladdr lladdr = some key ↔
      key ∈ tables.nbrTableKeys ∧ tables.neighborAddrMem.mem key = lladdr.getD linkaddrNull := by
  constructor
  · intro found
    exact ⟨List.mem_of_find?_eq_some found, by simpa using List.find?_some found⟩
  · rintro ⟨member, same⟩
    cases found : tables.indexFromLladdr lladdr with
    | none =>
      have absent := List.find?_eq_none.mp found key member
      simp [same] at absent
    | some index =>
      have inside : index ∈ tables.nbrTableKeys := List.mem_of_find?_eq_some found
      have also : tables.neighborAddrMem.mem index = lladdr.getD linkaddrNull := by
        simpa using List.find?_some found
      rw [List.inj_on_of_nodup_map sound.addresses inside member (also.trans same.symm)]

theorem getFromLladdr_eq_some {table : NbrTableId}
    {lladdr : Option LinkAddr} : tables.getFromLladdr table lladdr = some key ↔
      tables.usedMap key table = true ∧
        tables.neighborAddrMem.mem key = lladdr.getD linkaddrNull := by
  rw [NbrTables.getFromLladdr, Option.filter_eq_some_iff, sound.indexFromLladdr_eq_some]
  constructor
  · rintro ⟨⟨-, same⟩, used⟩
    exact ⟨used, same⟩
  · rintro ⟨used, same⟩
    exact ⟨⟨sound.used key table used, same⟩, used⟩

theorem unused (absent : key ∉ tables.nbrTableKeys) (table : NbrTableId) :
    tables.usedMap key table = false := by
  rw [← Bool.not_eq_true]
  intro used
  exact absent (sound.used key table used)

theorem setLocked (value : Bool) (table : NbrTableId)
    (item : Nat) : KeysSound pending (tables.setLocked value table item) :=
  ⟨sound.exactly, sound.addresses, sound.used⟩

theorem setUsed (value : Bool) (table : NbrTableId) {item : Nat}
    (inside : value = true → item ∈ tables.nbrTableKeys) :
    KeysSound pending (tables.setUsed value table item) := by
  refine ⟨sound.exactly, sound.addresses, ?_⟩
  intro other column used
  by_cases here : other = item
  · by_cases same : column = table
    · subst here
      simp only [NbrTables.setUsed, same, Function.update_self] at used
      exact inside used
    · subst here
      simp only [NbrTables.setUsed, Function.update_self, Function.update_of_ne same] at used
      exact sound.used other column used
  · simp only [NbrTables.setUsed, Function.update_of_ne here] at used
    exact sound.used other column used

theorem nbrTableRemove (table : NbrTableId) (item : Nat) :
    KeysSound pending (tables.nbrTableRemove table item) :=
  (sound.setUsed false table fun on => absurd on Bool.false_ne_true).setLocked false table item

end

theorem alloc (sound : KeysSound [] tables) {memb : Memb LinkAddr}
    (taken : tables.neighborAddrMem.membAlloc = (some key, memb)) :
    KeysSound [key] { tables with neighborAddrMem := memb } ∧
      memb.mem = tables.neighborAddrMem.mem := by
  obtain ⟨exactly, -, memory⟩ := sound.exactly.taken taken
  refine ⟨⟨exactly, ?_, sound.used⟩, memory⟩
  simpa [memory] using sound.addresses

theorem evict (sound : KeysSound [] tables) (inside : key ∈ tables.nbrTableKeys) : KeysSound [key]
      { tables with
        usedMap := Function.update tables.usedMap key fun _ => false
        nbrTableKeys := tables.nbrTableKeys.erase key } := by
  refine ⟨sound.exactly.perm (List.perm_cons_erase inside).symm,
    sound.addresses.sublist (List.erase_sublist.map _), ?_⟩
  intro other table used
  by_cases same : other = key
  · simp [same] at used
  · simp only [Function.update_of_ne same] at used
    exact (List.mem_erase_of_ne same).mpr (sound.used other table used)

theorem append (sound : KeysSound [key] tables) {lladdr : LinkAddr}
    (new : lladdr ∉ tables.nbrTableKeys.map tables.neighborAddrMem.mem) : KeysSound []
      { tables with
        nbrTableKeys := tables.nbrTableKeys ++ [key]
        neighborAddrMem := tables.neighborAddrMem.write key fun _ => lladdr } := by
  have fresh : key ∉ tables.nbrTableKeys := (List.nodup_cons.mp sound.exactly.nodup).1
  have others : tables.nbrTableKeys.map (tables.neighborAddrMem.write key fun _ => lladdr).mem =
      tables.nbrTableKeys.map tables.neighborAddrMem.mem := by
    apply List.map_congr_left
    intro other listed
    exact Memb.write_other _ _ fun same => fresh (same ▸ listed)
  refine ⟨(sound.exactly.perm (List.perm_append_singleton _ _)).write key fun _ => lladdr, ?_,
    fun other table used => List.mem_append_left [key] (sound.used other table used)⟩
  rw [List.map_append, others, List.map_singleton, Memb.write_same]
  refine List.nodup_append.mpr ⟨sound.addresses, List.nodup_singleton _, ?_⟩
  intro first member second last same
  rw [List.mem_singleton.mp last] at same
  exact new (same ▸ member)

end KeysSound

end MultiPhyTsch.Nbr
