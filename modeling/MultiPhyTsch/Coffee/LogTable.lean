import MultiPhyTsch.Lib.Loop
import MultiPhyTsch.Lib.Memory

/-! The table of a Coffee log (`cfs-coffee.c`): a 16-bit entry for each record, with the region it
holds plus one, or zero while the record is free. Both searches read it in batches. -/

namespace MultiPhyTsch.Coffee

structure CoffeeConf where
  pageSize : Nat
  fileHeaderSize : Nat
  logTableLimit : Nat
  someTable : 0 < logTableLimit
  indexed : logTableLimit ≤ 32768

def int16 (value : Nat) : Int := Int.bmod value 65536

def absoluteOffset (conf : CoffeeConf) (page offset : Nat) : Nat :=
  page * conf.pageSize + conf.fileHeaderSize + offset

def readIndex (flash : Memory UInt8) (offset : Nat) : UInt16 :=
  (flash offset).toUInt16 ||| ((flash (offset + 1)).toUInt16 <<< 8)

def readIndices (flash : Memory UInt8) (base count : Nat) : List UInt16 :=
  (List.range count).map fun index => readIndex flash (base + 2 * index)

section

variable (conf : CoffeeConf) (flash : Memory UInt8) (logPage : Nat)

def freeInBatch (processed : Nat) : Nat → List UInt16 → Nat
  | logRecord, [] => logRecord
  | logRecord, index :: indices =>
    if index = 0 then logRecord + processed else freeInBatch processed (logRecord + 1) indices

structure FreeSearch where
  processed : Nat
  logRecord : Nat

def FreeSearch.step (logRecords : Nat) (search : FreeSearch) : Option FreeSearch :=
  let preferred := min logRecords conf.logTableLimit
  if search.processed < logRecords then
    let batchSize := min (logRecords - search.processed) preferred
    let indices := readIndices flash (absoluteOffset conf logPage (search.processed * 2)) batchSize
    some ⟨search.processed + batchSize, freeInBatch search.processed 0 indices⟩
  else none

/-- With the count of records that the file has in memory, negative if it is unknown; none if the
search does not return. -/
def findNextRecord (recordCount : Int) (logRecords : UInt16) : Option Int :=
  if 0 ≤ recordCount then some recordCount
  else (Loop.final (FreeSearch.step conf flash logPage logRecords.toNat) (logRecords.toNat + 1)
    ⟨0, logRecords.toNat⟩).map fun search => search.logRecord

def Names (region index : UInt16) : Prop := (index.toNat : Int) - 1 = region.toNat

instance (region index : UInt16) : Decidable (Names region index) :=
  inferInstanceAs (Decidable (_ = _))

def namedInBatch (region : UInt16) (indices : List UInt16) : Nat → Option Nat
  | 0 => none
  | i + 1 => if Names region (indices.getD i 0) then some i else namedInBatch region indices i

structure IndexSearch where
  base : Nat
  processed : Nat
  batchSize : Nat
  matchIndex : Int

def IndexSearch.step (searchRecords : Nat) (region : UInt16) (search : IndexSearch) :
    Option IndexSearch :=
  if search.processed < searchRecords ∧ search.matchIndex < 0 then
    let batchSize := if search.batchSize + search.processed > searchRecords then
      searchRecords - search.processed else search.batchSize
    let base := search.base - batchSize * 2
    let matchIndex := match namedInBatch region (readIndices flash base batchSize) batchSize with
      | some i => int16 (searchRecords - search.processed - (batchSize - i))
      | none => search.matchIndex
    some ⟨base, search.processed + batchSize, batchSize, matchIndex⟩
  else none

def getRecordIndex (searchRecords region : UInt16) : Option Int :=
  (Loop.final (IndexSearch.step flash searchRecords.toNat region) (searchRecords.toNat + 1)
    ⟨absoluteOffset conf logPage (2 * searchRecords.toNat), 0,
      min searchRecords.toNat conf.logTableLimit, -1⟩).map IndexSearch.matchIndex

end

end MultiPhyTsch.Coffee
