import MultiPhyTsch.Lib.FirstLeast
import MultiPhyTsch.Lib.Run
import MultiPhyTsch.Net.NbrKeys
import MultiPhyTsch.Net.NbrTable

/-! What the users of the neighbor tables can rely on after any calls: which item an address has,
which neighbor goes when there is no room, and who is told of it. -/

namespace MultiPhyTsch.Nbr

open Rpl Registry

structure ItemKept (item : Nat) (registry next : Registry) : Prop where
  address : next.tables.neighborAddrMem.mem item = registry.tables.neighborAddrMem.mem item
  used : next.tables.usedMap item = registry.tables.usedMap item
  locked : next.tables.lockedMap item = registry.tables.lockedMap item
  data : ∀ t, (next.table t).data item = (registry.table t).data item

namespace ItemKept

variable {item : Nat} {registry middle next : Registry}

theorem refl (item : Nat) (registry : Registry) : ItemKept item registry registry :=
  ⟨rfl, rfl, rfl, fun _ => rfl⟩

theorem trans (first : ItemKept item registry middle) (second : ItemKept item middle next) :
    ItemKept item registry next :=
  ⟨second.address.trans first.address, second.used.trans first.used,
    second.locked.trans first.locked, fun t => (second.data t).trans (first.data t)⟩

end ItemKept

structure OnlyItem (key : Nat) (registry next : Registry) : Prop where
  others : ∀ item, item ≠ key → ItemKept item registry next
  keys : next.tables.nbrTableKeys = registry.tables.nbrTableKeys
  addresses : next.tables.neighborAddrMem = registry.tables.neighborAddrMem
  table : next.table = registry.table
  registered : next.registered = registry.registered
  numTables : next.numTables = registry.numTables

namespace OnlyItem

variable {key : Nat} {registry middle next : Registry}

theorem refl (key : Nat) (registry : Registry) : OnlyItem key registry registry :=
  ⟨fun item _ => ItemKept.refl item registry, rfl, rfl, rfl, rfl, rfl⟩

theorem trans (first : OnlyItem key registry middle) (second : OnlyItem key middle next) :
    OnlyItem key registry next :=
  ⟨fun item different => (first.others item different).trans (second.others item different),
    second.keys.trans first.keys, second.addresses.trans first.addresses,
    second.table.trans first.table, second.registered.trans first.registered,
    second.numTables.trans first.numTables⟩

theorem index (only : OnlyItem key registry next) (t : Nat) : next.index t = registry.index t := by
  rw [Registry.index, Registry.index, only.table]

end OnlyItem

structure Inv (registry : Registry) : Prop where
  keys : KeysSound [] registry.tables
  places : ∀ place t, registry.registered place = some t → registry.index t = place
  free : ∀ count place, registry.numTables ≤ count → Rpl.allTables[count]? = some place →
    registry.registered place = none
  callbacks : ∀ t, (registry.table t).callback ≠ none →
    registry.registered (registry.index t) = some t

namespace Registry

variable (key : Nat) (registry : Registry)

/-- The table at a place of `all_tables` whose callback is due for the item of `key`. -/
def callee (place : NbrTableId) : Option Nat :=
  (registry.registered place).filter fun t =>
    (registry.table t).callback.isSome && registry.tables.usedMap key (registry.index t)

def callees : List Nat := Rpl.allTables.filterMap (registry.callee key)

theorem itemCall_onlyItem (t : Nat) (work : ItemCall) :
    OnlyItem key registry (itemCall t key registry work) ∧
      (itemCall t key registry work).calls = registry.calls ∧
      ∀ place, place ≠ registry.index t →
        (itemCall t key registry work).tables.usedMap key place =
          registry.tables.usedMap key place := by
  cases work with
  | remove =>
    refine ⟨⟨?_, rfl, rfl, rfl, rfl, rfl⟩, rfl, ?_⟩
    · intro item different
      constructor <;>
        simp [itemCall, nbrTableRemove, onTables, NbrTables.nbrTableRemove, NbrTables.setUsed,
          NbrTables.setLocked, different]
    · intro place different
      simp [itemCall, nbrTableRemove, onTables, NbrTables.nbrTableRemove_usedMap, different]
  | lock =>
    refine ⟨⟨?_, rfl, rfl, rfl, rfl, rfl⟩, rfl, fun _ _ => rfl⟩
    intro item different
    constructor <;>
      simp [itemCall, nbrTableLock, onTables, NbrTables.nbrTableLock, NbrTables.setLocked,
        different]
  | unlock =>
    refine ⟨⟨?_, rfl, rfl, rfl, rfl, rfl⟩, rfl, fun _ _ => rfl⟩
    intro item different
    constructor <;>
      simp [itemCall, nbrTableUnlock, onTables, NbrTables.nbrTableUnlock, NbrTables.setLocked,
        different]

theorem itemCalls_onlyItem (t : Nat) : ∀ (work : List ItemCall) (registry : Registry),
    OnlyItem key registry (work.foldl (itemCall t key) registry) ∧
      (work.foldl (itemCall t key) registry).calls = registry.calls ∧
      ∀ place, place ≠ registry.index t →
        (work.foldl (itemCall t key) registry).tables.usedMap key place =
          registry.tables.usedMap key place := by
  intro work
  induction work with
  | nil => exact fun registry => ⟨OnlyItem.refl key registry, rfl, fun _ _ => rfl⟩
  | cons first rest ih =>
    intro registry
    obtain ⟨only, calls, used⟩ := itemCall_onlyItem key registry t first
    obtain ⟨onlyRest, callsRest, usedRest⟩ := ih (itemCall t key registry first)
    refine ⟨only.trans onlyRest, callsRest.trans calls, ?_⟩
    intro place different
    rw [List.foldl_cons, usedRest place (by rwa [only.index]), used place different]

theorem callbackRound_onlyItem (place : NbrTableId)
    (index : ∀ t, registry.registered place = some t → registry.index t = place) :
    OnlyItem key registry (callbackRound key registry place) ∧
      (callbackRound key registry place).calls =
        registry.calls ++ ((registry.callee key place).map fun t => (t, key)).toList ∧
      ∀ other, other ≠ place → (callbackRound key registry place).tables.usedMap key other =
        registry.tables.usedMap key other := by
  cases entry : registry.registered place with
  | none => simp [callbackRound, callee, entry, OnlyItem.refl]
  | some t =>
    cases work : (registry.table t).callback with
    | none => simp [callbackRound, callee, entry, work, OnlyItem.refl]
    | some list =>
      by_cases used : registry.tables.usedMap key (registry.index t) = true
      · obtain ⟨only, calls, others⟩ := itemCalls_onlyItem key t list
          { registry with calls := registry.calls ++ [(t, key)] }
        have logged : OnlyItem key registry
            { registry with calls := registry.calls ++ [(t, key)] } :=
          ⟨fun item _ => ⟨rfl, rfl, rfl, fun _ => rfl⟩, rfl, rfl, rfl, rfl, rfl⟩
        have round : callbackRound key registry place = list.foldl (itemCall t key)
            { registry with calls := registry.calls ++ [(t, key)] } := by
          simp [callbackRound, entry, work, used]
        rw [round]
        refine ⟨logged.trans only, ?_, ?_⟩
        · have due : registry.callee key place = some t := by
            simp [callee, entry, Option.filter_some, work, used]
          rw [calls, due]
          rfl
        · intro other different
          exact others other (by rw [← index t entry] at different; exact different)
      · simp [callbackRound, callee, entry, work, used, OnlyItem.refl]

theorem callbackRounds_onlyItem : ∀ (places : List NbrTableId) (registry : Registry), places.Nodup →
    (∀ place t, registry.registered place = some t → registry.index t = place) →
      OnlyItem key registry (places.foldl (callbackRound key) registry) ∧
        (places.foldl (callbackRound key) registry).calls =
          registry.calls ++ (places.filterMap (registry.callee key)).map fun t => (t, key) := by
  intro places
  induction places with
  | nil => exact fun registry _ _ => ⟨OnlyItem.refl key registry, by simp⟩
  | cons place rest ih =>
    intro registry unique index
    rw [List.nodup_cons] at unique
    obtain ⟨only, calls, used⟩ := callbackRound_onlyItem key registry place (index place)
    have indexAfter : ∀ other t,
        (callbackRound key registry place).registered other = some t →
          (callbackRound key registry place).index t = other := by
      intro other t entry
      rw [only.registered] at entry
      rw [only.index]
      exact index other t entry
    obtain ⟨onlyRest, callsRest⟩ := ih (callbackRound key registry place) unique.2 indexAfter
    have same : rest.filterMap ((callbackRound key registry place).callee key) =
        rest.filterMap (registry.callee key) := by
      apply List.filterMap_congr
      intro other member
      have different : other ≠ place := fun equal => unique.1 (equal ▸ member)
      rw [callee, callee, only.registered]
      cases entry : registry.registered other with
      | none => rfl
      | some t =>
        have bit := used other different
        rw [← index other t entry] at bit
        simp only [Option.filter_some, only.table, only.index, bit]
    refine ⟨only.trans onlyRest, ?_⟩
    rw [List.foldl_cons, callsRest, calls, same]
    cases due : registry.callee key place with
    | none => simp [due]
    | some t => simp [due]

/-- The end of `nbr_table_add_lladdr`: the item of the table is cleared and marked as used. -/
def giveItem (t item : Nat) (registry : Registry) : Registry :=
  (registry.writeItem t item (List.replicate (registry.table t).itemSize 0)).onTables
    (NbrTables.setUsed true (registry.index t) item)

theorem giveItem_data_other (t item : Nat) (registry : Registry) {other otherItem : Nat}
    (different : other ≠ t ∨ otherItem ≠ item) :
    ((registry.giveItem t item).table other).data otherItem =
      (registry.table other).data otherItem := by
  rcases different with table | place
  · simp [giveItem, writeItem, onTable, onTables, table]
  · by_cases same : other = t
    · simp [giveItem, writeItem, onTable, onTables, same, place]
    · simp [giveItem, writeItem, onTable, onTables, same]

theorem giveItem_index (t item : Nat) (registry : Registry) (other : Nat) :
    (registry.giveItem t item).index other = registry.index other ∧
      ((registry.giveItem t item).table other).callback = (registry.table other).callback := by
  by_cases same : other = t
  · simp [giveItem, writeItem, onTable, onTables, index, same]
  · simp [giveItem, writeItem, onTable, onTables, index, same]

end Registry

structure Gives (t : Nat) (lladdr : Option LinkAddr) (item : Nat) (registry next : Registry) :
    Prop where
  isKey : item ∈ next.tables.nbrTableKeys
  address : next.nbrTableGetLladdr (some item) = some (lladdr.getD linkaddrNull)
  used : next.tables.usedMap item (registry.index t) = true
  blank : (next.table t).data item = List.replicate (registry.table t).itemSize 0
  otherTables : ∀ other, other ≠ t → (next.table other).data item = (registry.table other).data item
  others : ∀ other, other ≠ item → ItemKept other registry next

structure Finds (t : Nat) (item : Nat) (registry next : Registry) : Prop where
  known : item ∈ registry.tables.nbrTableKeys
  keys : next.tables.nbrTableKeys = registry.tables.nbrTableKeys
  bits : ∀ place, place ≠ registry.index t →
    next.tables.usedMap item place = registry.tables.usedMap item place
  address : next.tables.neighborAddrMem = registry.tables.neighborAddrMem
  locked : next.tables.lockedMap item = registry.tables.lockedMap item
  calls : next.calls = registry.calls

structure Takes (t : Nat) (item : Nat) (registry next : Registry) : Prop where
  new : item ∉ registry.tables.nbrTableKeys
  keys : next.tables.nbrTableKeys = registry.tables.nbrTableKeys ++ [item]
  bits : ∀ place, place ≠ registry.index t → next.tables.usedMap item place = false
  calls : next.calls = registry.calls

/-- No block is free, and among the keys that nobody locks the oldest one of those that the fewest
tables use goes: the callbacks of the tables that use it are called once, and it becomes the
youngest key, used by this table only. -/
structure Evicts (t : Nat) (victim : Nat) (registry next : Registry) : Prop where
  full : registry.tables.neighborAddrMem.membAlloc.1 = none
  unlocked : registry.tables.isLocked victim = false
  oldest : ∃ older younger, registry.tables.nbrTableKeys = older ++ victim :: younger ∧
    (∀ key ∈ older, registry.tables.isLocked key = true ∨
      registry.tables.usedCount victim < registry.tables.usedCount key) ∧
    ∀ key ∈ younger, registry.tables.isLocked key = true ∨
      registry.tables.usedCount victim ≤ registry.tables.usedCount key
  keys : next.tables.nbrTableKeys = registry.tables.nbrTableKeys.erase victim ++ [victim]
  bits : ∀ place, place ≠ registry.index t → next.tables.usedMap victim place = false
  calls : ∃ made, next.calls = registry.calls ++ made ∧ made.Nodup ∧ ∀ other item,
    (other, item) ∈ made ↔ item = victim ∧ (registry.table other).callback ≠ none ∧
      registry.tables.usedMap victim (registry.index other) = true

def Adds (t : Nat) (lladdr : Option LinkAddr) (registry : Registry) : Prop :=
  (∃ item, (registry.nbrTableAddLladdr t lladdr).1 = some item ∧
    Gives t lladdr item registry (registry.nbrTableAddLladdr t lladdr).2 ∧
    (Finds t item registry (registry.nbrTableAddLladdr t lladdr).2 ∨
      Takes t item registry (registry.nbrTableAddLladdr t lladdr).2 ∨
      Evicts t item registry (registry.nbrTableAddLladdr t lladdr).2)) ∨
  ((registry.nbrTableAddLladdr t lladdr).1 = none ∧
    (registry.nbrTableAddLladdr t lladdr).2 = registry ∧
    registry.tables.indexFromLladdr lladdr = none ∧
    registry.tables.neighborAddrMem.membAlloc.1 = none ∧
    ∀ key ∈ registry.tables.nbrTableKeys, registry.tables.isLocked key = true)

variable {registry middle : Registry}

theorem gives_giveItem {t item : Nat} {lladdr : Option LinkAddr}
    (table : middle.table = registry.table) (isKey : item ∈ middle.tables.nbrTableKeys)
    (address : middle.tables.neighborAddrMem.mem item = lladdr.getD linkaddrNull)
    (others : ∀ other, other ≠ item → ItemKept other registry middle) :
    Gives t lladdr item registry (middle.giveItem t item) := by
  have index : middle.index t = registry.index t := by rw [Registry.index, Registry.index, table]
  refine ⟨isKey, congrArg some address, ?_, ?_, ?_, ?_⟩
  · rw [← index]
    simp [giveItem, onTables, NbrTables.setUsed]
  · simp [giveItem, writeItem, onTable, onTables, table]
  · intro other different
    rw [giveItem_data_other t item middle (Or.inl different), table]
  · intro other different
    refine (others other different).trans ⟨rfl, ?_, rfl, ?_⟩
    · simp [giveItem, writeItem, onTable, onTables, NbrTables.setUsed, different]
    · exact fun t' => giveItem_data_other t item middle (Or.inr different)

theorem giveItem_bits (t item : Nat) {place : NbrTableId} (different : place ≠ middle.index t) :
    (middle.giveItem t item).tables.usedMap item place = middle.tables.usedMap item place := by
  simp [giveItem, writeItem, onTable, onTables, NbrTables.setUsed, different]

theorem keysSound_onlyItem {key : Nat} {next : Registry} (sound : KeysSound [] registry.tables)
    (inside : key ∈ registry.tables.nbrTableKeys) (only : OnlyItem key registry next) :
    KeysSound [] next.tables := by
  refine ⟨?_, ?_, ?_⟩
  · rw [only.keys, only.addresses]
    exact sound.exactly
  · rw [only.keys, only.addresses]
    exact sound.addresses
  · intro other place used
    rw [only.keys]
    by_cases same : other = key
    · rwa [same]
    · rw [(only.others other same).used] at used
      exact sound.used other place used

namespace Inv

theorem same (inv : Inv registry) {next : Registry} (keys : KeysSound [] next.tables)
    (tables : ∀ t, next.index t = registry.index t ∧
      (next.table t).callback = (registry.table t).callback)
    (registered : next.registered = registry.registered)
    (numTables : next.numTables = registry.numTables) : Inv next := by
  refine ⟨keys, ?_, ?_, ?_⟩
  · intro place t entry
    rw [registered] at entry
    rw [(tables t).1]
    exact inv.places place t entry
  · intro count place bound entry
    rw [numTables] at bound
    rw [registered]
    exact inv.free count place bound entry
  · intro t work
    rw [(tables t).2] at work
    rw [registered, (tables t).1]
    exact inv.callbacks t work

theorem mem_callees (inv : Inv registry) {key t : Nat} :
    t ∈ registry.callees key ↔ (registry.table t).callback ≠ none ∧
      registry.tables.usedMap key (registry.index t) = true := by
  rw [callees, List.mem_filterMap]
  constructor
  · rintro ⟨place, -, due⟩
    rw [callee, Option.filter_eq_some_iff, Bool.and_eq_true, Option.isSome_iff_ne_none] at due
    exact due.2
  · rintro ⟨work, used⟩
    have all : ∀ place, place ∈ Rpl.allTables := by
      intro place
      cases place with
      | ds6Neighbors => decide
      | rplNeighbors => decide
      | other number =>
        revert number
        decide
    refine ⟨registry.index t, all _, ?_⟩
    rw [callee, Option.filter_eq_some_iff, Bool.and_eq_true, Option.isSome_iff_ne_none]
    exact ⟨inv.callbacks t work, work, used⟩

theorem callees_nodup (inv : Inv registry) (key : Nat) : (registry.callees key).Nodup := by
  have unique : Rpl.allTables.Nodup := by decide
  apply unique.filterMap
  intro place other t due also
  rw [Option.mem_def, callee, Option.filter_eq_some_iff] at due also
  rw [← inv.places place t due.1, ← inv.places other t also.1]

theorem removeKey (inv : Inv registry) {key : Nat} (inside : key ∈ registry.tables.nbrTableKeys) :
    KeysSound [key] (registry.removeKey key).tables ∧
      (registry.removeKey key).tables.nbrTableKeys = registry.tables.nbrTableKeys.erase key ∧
      (registry.removeKey key).tables.neighborAddrMem = registry.tables.neighborAddrMem ∧
      (∀ place, (registry.removeKey key).tables.usedMap key place = false) ∧
      (∀ item, item ≠ key → ItemKept item registry (registry.removeKey key)) ∧
      (registry.removeKey key).table = registry.table ∧
      (registry.removeKey key).registered = registry.registered ∧
      (registry.removeKey key).numTables = registry.numTables ∧
      (registry.removeKey key).calls =
        registry.calls ++ (registry.callees key).map fun t => (t, key) := by
  have unique : Rpl.allTables.Nodup := by decide
  obtain ⟨only, calls⟩ := callbackRounds_onlyItem key Rpl.allTables registry unique inv.places
  have sound := keysSound_onlyItem inv.keys inside only
  refine ⟨sound.evict (by rwa [only.keys]), congrArg (List.erase · key) only.keys, only.addresses,
    ?_, ?_, only.table, only.registered, only.numTables, calls⟩
  · intro place
    simp [Registry.removeKey, onTables]
  · intro item different
    refine (only.others item different).trans ⟨rfl, ?_, rfl, fun _ => rfl⟩
    simp [Registry.removeKey, onTables, different]

theorem leastUsedKey_eq (tables : NbrTables) : tables.leastUsedKey =
    firstLeast tables.usedCount (tables.nbrTableKeys.filter fun key => !tables.isLocked key) := by
  rw [NbrTables.leastUsedKey, firstLeast]
  congr 1
  funext least key
  cases least with
  | none => rfl
  | some best => rfl

theorem leastUsedKey_split {tables : NbrTables} {victim : Nat}
    (found : tables.leastUsedKey = some victim) :
    tables.isLocked victim = false ∧ ∃ older younger,
      tables.nbrTableKeys = older ++ victim :: younger ∧
      (∀ key ∈ older, tables.isLocked key = true ∨
        tables.usedCount victim < tables.usedCount key) ∧
      ∀ key ∈ younger, tables.isLocked key = true ∨
        tables.usedCount victim ≤ tables.usedCount key := by
  rw [leastUsedKey_eq] at found
  obtain ⟨before, after, split, more, noLess⟩ := firstLeast_split tables.usedCount found
  rw [List.filter_eq_append_iff] at split
  obtain ⟨older, rest, keys, older', rest'⟩ := split
  rw [List.filter_eq_cons_iff] at rest'
  obtain ⟨locked, younger, rfl, allLocked, unlocked, younger'⟩ := rest'
  refine ⟨by simpa using unlocked, older ++ locked, younger, by simp [keys], ?_, ?_⟩
  · intro key member
    rcases List.mem_append.mp member with front | back
    · by_cases held : tables.isLocked key = true
      · exact Or.inl held
      · right
        apply more
        rw [← older', List.mem_filter]
        exact ⟨front, by simpa using held⟩
    · exact Or.inl (by simpa using allLocked key back)
  · intro key member
    by_cases held : tables.isLocked key = true
    · exact Or.inl held
    · right
      apply noLess
      rw [← younger', List.mem_filter]
      exact ⟨member, by simpa using held⟩

theorem leastUsedKey_none {tables : NbrTables} (absent : tables.leastUsedKey = none) :
    ∀ key ∈ tables.nbrTableKeys, tables.isLocked key = true := by
  rw [leastUsedKey_eq] at absent
  have empty := firstLeast_eq_none tables.usedCount absent
  rw [List.filter_eq_nil_iff] at empty
  intro key member
  simpa using empty key member

theorem nbrTableAllocate_cases (inv : Inv registry) {key : Nat}
    (allocated : registry.nbrTableAllocate = (some key, middle)) :
    KeysSound [key] middle.tables ∧
      (∀ other ∈ middle.tables.nbrTableKeys, other ∈ registry.tables.nbrTableKeys) ∧
      middle.tables.neighborAddrMem.mem = registry.tables.neighborAddrMem.mem ∧
      (∀ place, middle.tables.usedMap key place = false) ∧
      (∀ item, item ≠ key → ItemKept item registry middle) ∧
      middle.table = registry.table ∧ middle.registered = registry.registered ∧
      middle.numTables = registry.numTables ∧
      ((key ∉ registry.tables.nbrTableKeys ∧
          middle.tables.nbrTableKeys = registry.tables.nbrTableKeys ∧
          middle.calls = registry.calls) ∨
        (registry.tables.neighborAddrMem.membAlloc.1 = none ∧
          registry.tables.leastUsedKey = some key ∧
          middle.tables.nbrTableKeys = registry.tables.nbrTableKeys.erase key ∧
          middle.calls = registry.calls ++ (registry.callees key).map fun t => (t, key))) := by
  unfold Registry.nbrTableAllocate at allocated
  split at allocated
  · rename_i block pool taken
    obtain ⟨same, rfl⟩ := Prod.mk.inj allocated
    obtain rfl : block = key := Option.some.inj same
    obtain ⟨sound, memory⟩ := inv.keys.alloc taken
    have fresh := (Memb.membAlloc_taken inv.keys.exactly.inUse taken).1
    refine ⟨sound, fun other member => member, memory, fun place => inv.keys.unused fresh place,
      ?_, rfl, rfl, rfl, Or.inl ⟨fresh, rfl, rfl⟩⟩
    intro item _
    exact ⟨congrFun memory item, rfl, rfl, fun _ => rfl⟩
  · rename_i pool full
    split at allocated
    · rename_i victim chosen
      obtain ⟨same, rfl⟩ := Prod.mk.inj allocated
      obtain rfl : victim = key := Option.some.inj same
      obtain ⟨-, older, younger, keys, -, -⟩ := leastUsedKey_split chosen
      have inside : victim ∈ registry.tables.nbrTableKeys := by
        rw [keys]
        exact List.mem_append_right _ List.mem_cons_self
      obtain ⟨sound, erased, memory, unused, others, table, registered, numTables, calls⟩ :=
        inv.removeKey inside
      refine ⟨sound, ?_, congrArg Memb.mem memory, unused, others, table, registered, numTables,
        Or.inr ⟨by rw [full], chosen, erased, calls⟩⟩
      intro other member
      rw [erased] at member
      exact List.mem_of_mem_erase member
    · cases (Prod.mk.inj allocated).1

theorem nbrTableAllocate_none (failed : registry.nbrTableAllocate = (none, middle)) :
    middle = registry ∧ registry.tables.neighborAddrMem.membAlloc.1 = none ∧
      registry.tables.leastUsedKey = none := by
  unfold Registry.nbrTableAllocate at failed
  split at failed
  · cases (Prod.mk.inj failed).1
  · rename_i pool full
    split at failed
    · cases (Prod.mk.inj failed).1
    · rename_i chosen
      exact ⟨(Prod.mk.inj failed).2.symm, by rw [full], chosen⟩

theorem nbrTableAddLladdr (inv : Inv registry) (t : Nat) (lladdr : Option LinkAddr) :
    Inv (registry.nbrTableAddLladdr t lladdr).2 ∧ Adds t lladdr registry := by
  cases search : registry.tables.indexFromLladdr lladdr with
  | some item =>
    obtain ⟨known, address⟩ := inv.keys.indexFromLladdr_eq_some.mp search
    have result : registry.nbrTableAddLladdr t lladdr = (some item, registry.giveItem t item) := by
      simp [Registry.nbrTableAddLladdr, keyOfLladdr, search, giveItem]
    have kept : Inv (registry.giveItem t item) :=
      inv.same (inv.keys.setUsed true (registry.index t) fun _ => known)
        (giveItem_index t item registry) rfl rfl
    rw [Adds, result]
    refine ⟨kept, Or.inl ⟨item, rfl, ?_, Or.inl ⟨known, rfl, ?_, rfl, rfl, rfl⟩⟩⟩
    · exact gives_giveItem rfl known address fun other _ => ItemKept.refl other registry
    · exact fun place different => giveItem_bits t item different
  | none =>
    cases allocated : registry.nbrTableAllocate with
    | mk result middle =>
      cases result with
      | none =>
        obtain ⟨rfl, full, chosen⟩ := nbrTableAllocate_none allocated
        have failed : middle.nbrTableAddLladdr t lladdr = (none, middle) := by
          simp [Registry.nbrTableAddLladdr, keyOfLladdr, search, allocated]
        rw [Adds, failed]
        exact ⟨inv, Or.inr ⟨rfl, rfl, search, full, leastUsedKey_none chosen⟩⟩
      | some key =>
        obtain ⟨sound, older, memory, unused, others, table, registered, numTables, kind⟩ :=
          inv.nbrTableAllocate_cases allocated
        have new : lladdr.getD linkaddrNull ∉
            middle.tables.nbrTableKeys.map middle.tables.neighborAddrMem.mem := by
          intro member
          obtain ⟨other, listed, same⟩ := List.mem_map.mp member
          rw [memory] at same
          have absent := List.find?_eq_none.mp search other (older other listed)
          simp [same] at absent
        have keyed := sound.append new
        obtain ⟨named, isNamed⟩ : ∃ named : Registry, named = middle.onTables fun tables =>
            { tables with
              nbrTableKeys := tables.nbrTableKeys ++ [key]
              neighborAddrMem := tables.neighborAddrMem.write key fun _ =>
                lladdr.getD linkaddrNull } := ⟨_, rfl⟩
        have result : registry.nbrTableAddLladdr t lladdr =
            (some key, named.giveItem t key) := by
          simp [Registry.nbrTableAddLladdr, keyOfLladdr, search, allocated, isNamed, giveItem]
        have keys : named.tables.nbrTableKeys = middle.tables.nbrTableKeys ++ [key] := by
          rw [isNamed]
          rfl
        have isKey : key ∈ named.tables.nbrTableKeys := by
          rw [keys]
          exact List.mem_append_right _ (List.mem_singleton_self key)
        have namedTable : named.table = registry.table := by
          rw [isNamed]
          exact table
        have index : named.index t = registry.index t := by
          rw [Registry.index, Registry.index, namedTable]
        have address : named.tables.neighborAddrMem.mem key = lladdr.getD linkaddrNull := by
          rw [isNamed]
          simp [onTables]
        have untouched : ∀ other, other ≠ key → ItemKept other registry named := by
          intro other different
          refine (others other different).trans ?_
          rw [isNamed]
          refine ⟨?_, rfl, rfl, fun _ => rfl⟩
          simp only [onTables]
          exact Memb.write_other _ _ different
        have bits : ∀ place, place ≠ registry.index t →
            (named.giveItem t key).tables.usedMap key place = false := by
          intro place different
          rw [giveItem_bits t key (by rwa [index]), isNamed]
          exact unused place
        have kept : Inv (named.giveItem t key) := by
          refine inv.same ?_ ?_ ?_ ?_
          · have namedSound : KeysSound [] named.tables := by
              rw [isNamed]
              exact keyed
            exact namedSound.setUsed true (named.index t) fun _ => isKey
          · intro other
            rw [(giveItem_index t key named other).1, (giveItem_index t key named other).2,
              Registry.index, Registry.index, namedTable]
            exact ⟨rfl, rfl⟩
          · rw [← registered, isNamed]
            rfl
          · rw [← numTables, isNamed]
            rfl
        rw [Adds, result]
        refine ⟨kept, Or.inl ⟨key, rfl, gives_giveItem namedTable isKey address untouched,
          Or.inr ?_⟩⟩
        have namedCalls : named.calls = middle.calls := by
          rw [isNamed]
          rfl
        rcases kind with ⟨fresh, keysKept, calls⟩ | ⟨full, chosen, erased, calls⟩
        · left
          exact ⟨fresh, keys.trans (by rw [keysKept]), bits, namedCalls.trans calls⟩
        · right
          obtain ⟨unlocked, oldest⟩ := leastUsedKey_split chosen
          refine ⟨full, unlocked, oldest, keys.trans (by rw [erased]), bits,
            (registry.callees key).map fun other => (other, key), namedCalls.trans calls, ?_, ?_⟩
          · apply (inv.callees_nodup key).map
            intro first second equal
            exact (Prod.mk.inj equal).1
          · intro other item
            rw [List.mem_map]
            constructor
            · rintro ⟨also, due, equal⟩
              obtain ⟨rfl, rfl⟩ := Prod.mk.inj equal
              exact ⟨rfl, inv.mem_callees.mp due⟩
            · rintro ⟨rfl, due⟩
              exact ⟨other, inv.mem_callees.mpr due, rfl⟩

theorem nbrTableRegister (inv : Inv registry) (t : Nat) (callback : Option (List ItemCall)) :
    Inv (registry.nbrTableRegister t callback).2 := by
  by_cases known : registry.nbrTableIsRegistered t = true
  · rw [Registry.nbrTableRegister, if_pos known]
    have own : registry.registered (registry.index t) = some t := by
      simpa [nbrTableIsRegistered] using known
    have indices : ∀ other, (registry.onTable t fun table =>
        { table with callback := callback }).index other = registry.index other := by
      intro other
      by_cases same : other = t
      · simp [Registry.index, onTable, same]
      · simp [Registry.index, onTable, same]
    refine ⟨inv.keys, ?_, inv.free, ?_⟩
    · intro place other entry
      rw [indices]
      exact inv.places place other entry
    · intro other work
      rw [indices]
      by_cases same : other = t
      · rw [same]
        exact own
      · simp only [onTable, Function.update_of_ne same] at work
        exact inv.callbacks other work
  · rw [Registry.nbrTableRegister, if_neg known]
    cases next : Rpl.allTables[registry.numTables]? with
    | none => exact inv
    | some place =>
      have unnamed : registry.registered place = none :=
        inv.free registry.numTables place (Nat.le_refl _) next
      have absent : registry.registered (registry.index t) ≠ some t := by
        simpa [nbrTableIsRegistered] using known
      refine ⟨inv.keys, ?_, ?_, ?_⟩
      · intro other named entry
        by_cases same : other = place
        · simp only [same, Function.update_self, Option.some.injEq] at entry
          simp [Registry.index, onTable, ← entry, same]
        · simp only [Function.update_of_ne same] at entry
          have index := inv.places other named entry
          have different : named ≠ t := by
            rintro rfl
            rw [index] at absent
            exact absent entry
          simpa [Registry.index, onTable, different] using index
      · intro count other bound entry
        simp only at bound
        have different : other ≠ place := by
          rintro rfl
          have unique : Rpl.allTables.Nodup := by decide
          have inside := (List.getElem?_eq_some_iff.mp entry).1
          have equal := (List.getElem?_inj inside unique).mp (entry.trans next.symm)
          omega
        simp only [Function.update_of_ne different]
        exact inv.free count other (by omega) entry
      · intro other work
        by_cases same : other = t
        · simp [Registry.index, onTable, same]
        · simp only [onTable, Function.update_of_ne same] at work
          have entry := inv.callbacks other work
          have different : registry.index other ≠ place := by
            intro equal
            rw [equal, unnamed] at entry
            cases entry
          rw [Registry.index] at entry different
          simpa [Registry.index, onTable, same, Function.update_of_ne different] using entry

theorem init (maxNeighbors : Nat) (itemSize : Nat → Nat) :
    Inv (Registry.init maxNeighbors itemSize) := by
  have keys : KeysSound [] (Registry.init maxNeighbors itemSize).tables := by
    refine ⟨⟨⟨?_, ?_⟩, List.nodup_nil⟩, List.nodup_nil, ?_⟩
    · simp [Registry.init]
    · simp [Registry.init]
    · simp [Registry.init]
  refine ⟨keys, ?_, fun _ _ _ _ => rfl, ?_⟩
  · simp [Registry.init]
  · simp [Registry.init]

theorem apply (inv : Inv registry) (step : Step) : Inv (step.apply registry) := by
  have lockKept : ∀ (value : Bool) (t item : Nat),
      Inv (registry.onTables (NbrTables.setLocked value (registry.index t) item)) := by
    intro value t item
    exact inv.same (inv.keys.setLocked value (registry.index t) item) (fun _ => ⟨rfl, rfl⟩) rfl rfl
  cases step with
  | register t callback => exact inv.nbrTableRegister t callback
  | addLladdr t lladdr => exact (inv.nbrTableAddLladdr t lladdr).1
  | remove t item =>
    cases item with
    | none => exact inv
    | some item =>
      exact inv.same (inv.keys.nbrTableRemove (registry.index t) item) (fun _ => ⟨rfl, rfl⟩)
        rfl rfl
  | lock t item =>
    cases item with
    | none => exact inv
    | some item => exact lockKept true t item
  | unlock t item =>
    cases item with
    | none => exact inv
    | some item => exact lockKept false t item
  | write t item content =>
    refine inv.same inv.keys ?_ rfl rfl
    intro other
    by_cases same : other = t
    · simp [Step.apply, writeItem, onTable, Registry.index, same]
    · simp [Step.apply, writeItem, onTable, Registry.index, same]

end Inv

theorem locked_stays (inv : Inv registry) (step : Step) {key : Nat}
    (inside : key ∈ registry.tables.nbrTableKeys) (locked : registry.tables.isLocked key = true) :
    key ∈ (step.apply registry).tables.nbrTableKeys ∧
      (step.apply registry).tables.neighborAddrMem.mem key =
        registry.tables.neighborAddrMem.mem key := by
  cases step with
  | register t callback =>
    simp only [Step.apply, nbrTableRegister]
    split
    · exact ⟨inside, rfl⟩
    · split
      · exact ⟨inside, rfl⟩
      · exact ⟨inside, rfl⟩
  | addLladdr t lladdr =>
    rcases (inv.nbrTableAddLladdr t lladdr).2 with ⟨item, -, gives, kind⟩ | ⟨-, same, -⟩
    · have address : key ≠ item → (Step.apply registry (.addLladdr t lladdr)).tables.neighborAddrMem.mem
          key = registry.tables.neighborAddrMem.mem key :=
        fun different => (gives.others key different).address
      rcases kind with finds | takes | evicts
      · rw [Step.apply, finds.keys, finds.address]
        exact ⟨inside, rfl⟩
      · have different : key ≠ item := by
          rintro rfl
          exact takes.new inside
        refine ⟨?_, address different⟩
        rw [Step.apply, takes.keys]
        exact List.mem_append_left _ inside
      · have different : key ≠ item := by
          rintro rfl
          rw [evicts.unlocked] at locked
          cases locked
        refine ⟨?_, address different⟩
        rw [Step.apply, evicts.keys]
        exact List.mem_append_left _ ((List.mem_erase_of_ne different).mpr inside)
    · rw [Step.apply, same]
      exact ⟨inside, rfl⟩
  | remove t item =>
    cases item with
    | none => exact ⟨inside, rfl⟩
    | some item => exact ⟨inside, rfl⟩
  | lock t item =>
    cases item with
    | none => exact ⟨inside, rfl⟩
    | some item => exact ⟨inside, rfl⟩
  | unlock t item =>
    cases item with
    | none => exact ⟨inside, rfl⟩
    | some item => exact ⟨inside, rfl⟩
  | write t item content => exact ⟨inside, rfl⟩

structure Contract (registry : Registry) : Prop where
  distinct : (registry.tables.nbrTableKeys.map registry.tables.neighborAddrMem.mem).Nodup
  indices : ∀ t other, registry.nbrTableIsRegistered t = true →
    registry.nbrTableIsRegistered other = true → registry.index t = registry.index other → t = other
  get : ∀ t lladdr item, registry.nbrTableGetFromLladdr t lladdr = some item ↔
    registry.tables.usedMap item (registry.index t) = true ∧
      registry.nbrTableGetLladdr (some item) = some (lladdr.getD linkaddrNull)
  adds : ∀ t lladdr, Adds t lladdr registry
  locked : ∀ (step : Step), ∀ key ∈ registry.tables.nbrTableKeys,
    registry.tables.isLocked key = true →
      key ∈ (step.apply registry).tables.nbrTableKeys ∧
        (step.apply registry).tables.neighborAddrMem.mem key =
          registry.tables.neighborAddrMem.mem key

theorem Inv.contract (inv : Inv registry) : Contract registry := by
  refine ⟨inv.keys.addresses, ?_, ?_, fun t lladdr => (inv.nbrTableAddLladdr t lladdr).2,
    fun step key inside locked => locked_stays inv step inside locked⟩
  · intro t other known also same
    simp only [nbrTableIsRegistered, decide_eq_true_eq] at known also
    rw [same, also, Option.some.injEq] at known
    exact known.symm
  · intro t lladdr item
    rw [nbrTableGetLladdr, NbrTables.getLladdr, Option.map_some, Option.some.injEq]
    exact inv.keys.getFromLladdr_eq_some

theorem contract_of_run (maxNeighbors : Nat) (itemSize : Nat → Nat) (steps : List Step) :
    Contract (Run.final Step.apply (Registry.init maxNeighbors itemSize) steps) := by
  have inv : Inv (Run.final Step.apply (Registry.init maxNeighbors itemSize) steps) :=
    Run.invariant_of_step Inv (fun _ step inv => inv.apply step) steps _
      (Inv.init maxNeighbors itemSize)
  exact inv.contract

/-- A table of one key: the second neighbor takes the place of the first, and the callback of the
table is called for it. -/
theorem contract_of_run_evicting :
    let registry := Run.final Step.apply (Registry.init 1 fun _ => 2) [.register 0 (some [.remove]),
      .addLladdr 0 (some (Vector.replicate 8 1)), .addLladdr 0 (some (Vector.replicate 8 2))]
    Contract registry ∧ registry.nbrTableGetLladdr (some 0) = some (Vector.replicate 8 2) ∧
      registry.calls = [(0, 0)] :=
  ⟨contract_of_run _ _ _, by decide, by decide⟩

end MultiPhyTsch.Nbr
