import MultiPhyTsch.Rpl.Neighbors

/-! The tables of `nbr-table.c` with their registration, their items and their callbacks. All of
them share the keys and the two bitmaps; the index of a table is the place of its bit. -/

namespace MultiPhyTsch.Nbr

open Rpl

inductive ItemCall where
  | remove
  | lock
  | unlock
deriving DecidableEq, Repr

structure Table where
  index : NbrTableId
  itemSize : Nat
  callback : Option (List ItemCall)
  data : Nat → List UInt8

/-- The variables of `nbr-table.c`, the structures of the tables and the calls of callbacks made so
far: the table and the item of each. -/
structure Registry where
  tables : NbrTables
  table : Nat → Table
  registered : NbrTableId → Option Nat
  numTables : Nat
  calls : List (Nat × Nat)

namespace Registry

def onTables (change : NbrTables → NbrTables) (registry : Registry) : Registry :=
  { registry with tables := change registry.tables }

variable (t : Nat)

def onTable (change : Table → Table) (registry : Registry) : Registry :=
  { registry with table := Function.update registry.table t (change (registry.table t)) }

def index (registry : Registry) : NbrTableId := (registry.table t).index

def nbrTableIsRegistered (registry : Registry) : Bool :=
  registry.registered (registry.index t) = some t

def nbrTableRegister (callback : Option (List ItemCall)) (registry : Registry) :
    Bool × Registry :=
  if registry.nbrTableIsRegistered t then
    (true, registry.onTable t fun table => { table with callback := callback })
  else
    match Rpl.allTables[registry.numTables]? with
    | some index =>
      (true, { registry.onTable t fun table => { table with index := index, callback := callback }
        with
          registered := Function.update registry.registered index (some t)
          numTables := registry.numTables + 1 })
    | none => (false, registry)

variable (item : Option Nat)

variable (registry : Registry)

def nbrTableRemove : Registry :=
  item.elim registry fun item =>
    registry.onTables (NbrTables.nbrTableRemove (registry.index t) item)

def nbrTableLock : Registry :=
  registry.onTables (NbrTables.nbrTableLock (registry.index t) item)

def nbrTableUnlock : Registry :=
  registry.onTables (NbrTables.nbrTableUnlock (registry.index t) item)

def nbrTableGetFromLladdr (lladdr : Option LinkAddr) (registry : Registry) : Option Nat :=
  registry.tables.getFromLladdr (registry.index t) lladdr

def nbrTableGetLladdr (item : Option Nat) (registry : Registry) : Option LinkAddr :=
  registry.tables.getLladdr item

def itemCall (t item : Nat) (registry : Registry) : ItemCall → Registry
  | .remove => registry.nbrTableRemove t (some item)
  | .lock => registry.nbrTableLock t (some item)
  | .unlock => registry.nbrTableUnlock t (some item)

/-- The callback of the table at one place of `all_tables`, if it has one and uses the item. -/
def callbackRound (key : Nat) (registry : Registry) (place : NbrTableId) : Registry :=
  match registry.registered place with
  | some t =>
    match (registry.table t).callback with
    | some work =>
      if registry.tables.usedMap key (registry.index t) then
        work.foldl (itemCall t key) { registry with calls := registry.calls ++ [(t, key)] }
      else registry
    | none => registry
  | none => registry

def removeKey (key : Nat) (registry : Registry) : Registry :=
  (Rpl.allTables.foldl (callbackRound key) registry).onTables fun tables =>
    { tables with
      usedMap := Function.update tables.usedMap key fun _ => false
      nbrTableKeys := tables.nbrTableKeys.erase key }

def nbrTableAllocate (registry : Registry) : Option Nat × Registry :=
  match registry.tables.neighborAddrMem.membAlloc with
  | (some key, neighborAddrMem) =>
    (some key, registry.onTables fun tables => { tables with neighborAddrMem := neighborAddrMem })
  | (none, _) =>
    match registry.tables.leastUsedKey with
    | some key => (some key, registry.removeKey key)
    | none => (none, registry)

def keyOfLladdr (lladdr : Option LinkAddr) (registry : Registry) : Option Nat × Registry :=
  match registry.tables.indexFromLladdr lladdr with
  | some index => (some index, registry)
  | none =>
    match registry.nbrTableAllocate with
    | (some key, registry) =>
      (some key, registry.onTables fun tables =>
        { tables with
          nbrTableKeys := tables.nbrTableKeys ++ [key]
          neighborAddrMem := tables.neighborAddrMem.write key fun _ =>
            lladdr.getD linkaddrNull })
    | (none, registry) => (none, registry)

def writeItem (t item : Nat) (content : List UInt8) (registry : Registry) : Registry :=
  registry.onTable t fun table => { table with data := Function.update table.data item content }

def nbrTableAddLladdr (t : Nat) (lladdr : Option LinkAddr) (registry : Registry) :
    Option Nat × Registry :=
  match registry.keyOfLladdr lladdr with
  | (some item, registry) =>
    (some item, (registry.writeItem t item
      (List.replicate (registry.table t).itemSize 0)).onTables
        (NbrTables.setUsed true (registry.index t) item))
  | (none, registry) => (none, registry)

def init (maxNeighbors : Nat) (itemSize : Nat → Nat) : Registry :=
  { tables :=
      { neighborAddrMem := ⟨maxNeighbors, fun _ => 0, fun _ => linkaddrNull⟩
        nbrTableKeys := []
        usedMap := fun _ _ => false
        lockedMap := fun _ _ => false }
    table := fun t => ⟨.ds6Neighbors, itemSize t, none, fun _ => List.replicate (itemSize t) 0⟩
    registered := fun _ => none
    numTables := 0
    calls := [] }

end Registry

inductive Step where
  | register (t : Nat) (callback : Option (List ItemCall))
  | addLladdr (t : Nat) (lladdr : Option LinkAddr)
  | remove (t : Nat) (item : Option Nat)
  | lock (t : Nat) (item : Option Nat)
  | unlock (t : Nat) (item : Option Nat)
  | write (t item : Nat) (content : List UInt8)

def Step.apply (registry : Registry) : Step → Registry
  | register t callback => (registry.nbrTableRegister t callback).2
  | addLladdr t lladdr => (registry.nbrTableAddLladdr t lladdr).2
  | remove t item => registry.nbrTableRemove t item
  | lock t item => registry.nbrTableLock t item
  | unlock t item => registry.nbrTableUnlock t item
  | write t item content => registry.writeItem t item content

end MultiPhyTsch.Nbr
