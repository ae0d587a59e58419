import MultiPhyTsch.Frame.HeaderFields
import MultiPhyTsch.Lib.Memory
import MultiPhyTsch.Lib.Reads
import MultiPhyTsch.Sixtop.SixpPkt

/-! The accessors of `sixp-pkt.c` for the fields of a body. A setter gives the bytes it writes and
a getter what it returns, none for -1; both are programs that read the body, and `null` tells that
a pointer they check is null. Integers are copied in little-endian order, as they are stored. -/

namespace MultiPhyTsch.Sixp

open Reads

variable (type : SixpPktType)

def getMetadataOffset (_code : UInt8) : Option Nat :=
  if type = .request then some 0 else none

variable (code : UInt8)

def getCellOptionsOffset : Option Nat :=
  if type = .request ∧ (code = sixpPktCmdAdd ∨ code = sixpPktCmdDelete ∨
      code = sixpPktCmdRelocate ∨ code = sixpPktCmdCount ∨ code = sixpPktCmdList) then some 2
  else none

def getNumCellsOffset : Option Nat :=
  if type = .request ∧ (code = sixpPktCmdAdd ∨ code = sixpPktCmdDelete ∨
      code = sixpPktCmdRelocate) then some 3
  else none

def getReservedOffset : Option Nat :=
  if type = .request ∧ code = sixpPktCmdList then some 3 else none

def getOffsetOffset : Option Nat :=
  if type = .request ∧ code = sixpPktCmdList then some 4 else none

def getMaxNumCellsOffset : Option Nat :=
  if type = .request ∧ code = sixpPktCmdList then some 6 else none

def getRelCellListOffset : Option Nat :=
  if type = .request ∧ code = sixpPktCmdRelocate then some 4 else none

def getTotalNumCellsOffset : Option Nat :=
  if type = .response ∧ code = sixpPktRcSuccess then some 0 else none

def getPayloadOffset : Option Nat :=
  if type = .request ∧ code = sixpPktCmdSignal then some 2
  else if (type = .response ∨ type = .confirmation) ∧ code = sixpPktRcSuccess then some 0
  else none

/-! What most accessors of a field of fixed size do: the pointers, the offset and the length of
the body are checked. -/

variable (null : Bool)

variable (offset : Option Nat)

def putField (bytes : List UInt8) (bodyLen : Nat) :
    Option (Patch UInt8) :=
  match null, offset with
  | false, some offset => if bodyLen < offset + bytes.length then none else some ⟨offset, bytes⟩
  | _, _ => none

def takeField (count bodyLen : Nat) :
    Reads UInt8 (Option (Vector UInt8 count)) :=
  match null, offset with
  | false, some offset =>
    if bodyLen < offset + count then pure none
    else do
      let bytes ← elements count fun index => offset + index
      pure (some bytes)
  | _, _ => pure none

def takeByte (bodyLen : Nat) : Reads UInt8 (Option UInt8) := do
  let bytes ← takeField null offset 1 bodyLen
  pure (bytes.map fun bytes => bytes.get 0)

def takeWord (bodyLen : Nat) : Reads UInt8 (Option UInt16) := do
  let bytes ← takeField null offset 2 bodyLen
  pure (bytes.map fun bytes =>
    read16 (bytes.get ⟨0, Nat.zero_lt_two⟩) (bytes.get ⟨1, Nat.one_lt_two⟩))

section

variable (null : Bool) (type : SixpPktType) (code : UInt8) (bodyLen : Nat)

def sixpPktSetMetadata (metadata : UInt16) : Option (Patch UInt8) :=
  putField null (getMetadataOffset type code) (write16 metadata) bodyLen

def sixpPktGetMetadata : Reads UInt8 (Option UInt16) :=
  takeWord null (getMetadataOffset type code) bodyLen

def sixpPktSetCellOptions (cellOptions : UInt8) : Option (Patch UInt8) :=
  putField null (getCellOptionsOffset type code) [cellOptions] bodyLen

def sixpPktGetCellOptions : Reads UInt8 (Option UInt8) :=
  takeByte null (getCellOptionsOffset type code) bodyLen

def sixpPktSetNumCells (numCells : UInt8) : Option (Patch UInt8) :=
  match null, getNumCellsOffset type code with
  | false, some offset => some ⟨offset, [numCells]⟩
  | _, _ => none

def sixpPktGetNumCells : Reads UInt8 (Option UInt8) :=
  takeByte null (getNumCellsOffset type code) bodyLen

def sixpPktSetReserved (reserved : UInt8) : Option (Patch UInt8) :=
  putField null (getReservedOffset type code) [reserved] bodyLen

def sixpPktGetReserved : Reads UInt8 (Option UInt8) :=
  match null, getReservedOffset type code with
  | false, some offset => do
      let reserved ← element offset
      pure (some reserved)
  | _, _ => pure none

def sixpPktSetOffset (cellOffset : UInt16) : Option (Patch UInt8) :=
  putField null (getOffsetOffset type code) (write16 cellOffset) bodyLen

def sixpPktGetOffset : Reads UInt8 (Option UInt16) :=
  takeWord null (getOffsetOffset type code) bodyLen

def sixpPktSetMaxNumCells (maxNumCells : UInt16) : Option (Patch UInt8) :=
  putField null (getMaxNumCellsOffset type code) (write16 maxNumCells) bodyLen

def sixpPktGetMaxNumCells : Reads UInt8 (Option UInt16) :=
  takeWord null (getMaxNumCellsOffset type code) bodyLen

def putCells (offset : Nat) (cells : List UInt8) (bodyLen : Nat) : Option (Patch UInt8) :=
  if bodyLen < offset + cells.length then none
  else if cells.length % 4 ≠ 0 then none
  else some ⟨offset, cells⟩

def sixpPktSetCellList (cellList : List UInt8) (cellOffset : Nat) : Option (Patch UInt8) :=
  match null, getCellListOffset type code with
  | false, some offset => putCells (offset + cellOffset) cellList bodyLen
  | _, _ => none

def sixpPktGetCellList : Option (Nat × Nat) :=
  match null, getCellListOffset type code with
  | false, some offset =>
    if bodyLen < offset then none
    else if (bodyLen - offset) % 4 ≠ 0 then none
    else some (offset, bodyLen - offset)
  | _, _ => none

def sixpPktSetRelCellList (relCellList : List UInt8) (cellOffset : Nat) :
    Reads UInt8 (Option (Patch UInt8)) := do
  let numCells ← sixpPktGetNumCells null type code bodyLen
  pure (match numCells, getRelCellListOffset type code with
    | some numCells, some offset =>
      let offset := offset + cellOffset
      if bodyLen < offset + relCellList.length then none
      else if offset + relCellList.length > offset + numCells.toNat * 4 then none
      else if relCellList.length % 4 ≠ 0 then none
      else some ⟨offset, relCellList⟩
    | _, _ => none)

def sixpPktGetRelCellList : Reads UInt8 (Option (Nat × Nat)) := do
  let numCells ← sixpPktGetNumCells null type code bodyLen
  pure (match numCells, getRelCellListOffset type code with
    | some numCells, some offset =>
      if bodyLen < offset + numCells.toNat * 4 then none
      else if (bodyLen - offset) % 4 ≠ 0 then none
      else some (offset, numCells.toNat * 4)
    | _, _ => none)

def sixpPktSetCandCellList (candCellList : List UInt8) (cellOffset : Nat) :
    Reads UInt8 (Option (Patch UInt8)) := do
  let numCells ← sixpPktGetNumCells null type code bodyLen
  pure (match numCells, getRelCellListOffset type code with
    | some numCells, some offset =>
      putCells (offset + (cellOffset + numCells.toNat * 4)) candCellList bodyLen
    | _, _ => none)

def sixpPktGetCandCellList : Reads UInt8 (Option (Nat × Nat)) := do
  let numCells ← sixpPktGetNumCells null type code bodyLen
  pure (match numCells, getRelCellListOffset type code with
    | some numCells, some offset =>
      let offset := offset + numCells.toNat * 4
      if bodyLen < offset then none
      else if (bodyLen - offset) % 4 ≠ 0 then none
      else some (offset, bodyLen - offset)
    | _, _ => none)

def sixpPktSetTotalNumCells (totalNumCells : UInt16) : Option (Patch UInt8) :=
  match null, getTotalNumCellsOffset type code with
  | false, some offset => some ⟨offset, write16 totalNumCells⟩
  | _, _ => none

def sixpPktGetTotalNumCells : Reads UInt8 (Option UInt16) :=
  takeWord null (getTotalNumCellsOffset type code) bodyLen

def sixpPktSetPayload (payload : List UInt8) : Option (Patch UInt8) :=
  putField null (getPayloadOffset type code) payload bodyLen

def sixpPktGetPayload (bufLen : Nat) : Reads UInt8 (Option (List UInt8)) :=
  match null, getPayloadOffset type code with
  | false, some offset =>
    if (bodyLen : Int) - offset > bufLen then pure none
    else do
      let bytes ← elements bufLen fun index => offset + index
      pure (some bytes.toList)
  | _, _ => pure none

end

end MultiPhyTsch.Sixp
