import MultiPhyTsch.Sixtop.SixpFields

/-! What the accessors of a body promise: a field reads back as it was set, the others stay, and
only the bytes of the body are touched. -/

namespace MultiPhyTsch.Sixp

open Reads

inductive SixpField where
  | metadata
  | cellOptions
  | numCells
  | reserved
  | offset
  | maxNumCells
  | cellList
  | relCellList
  | candCellList
  | totalNumCells
  | payload
deriving DecidableEq, Repr

inductive FieldValue where
  | byte (value : UInt8)
  | word (value : UInt16)
  | bytes (items : List UInt8)
deriving DecidableEq, Repr

inductive SetCall where
  | metadata (value : UInt16)
  | cellOptions (value : UInt8)
  | numCells (value : UInt8)
  | reserved (value : UInt8)
  | offset (value : UInt16)
  | maxNumCells (value : UInt16)
  | cellList (cells : List UInt8) (cellOffset : Nat)
  | relCellList (cells : List UInt8) (cellOffset : Nat)
  | candCellList (cells : List UInt8) (cellOffset : Nat)
  | totalNumCells (value : UInt16)
  | payload (items : List UInt8)
deriving DecidableEq, Repr

def SetCall.field : SetCall → SixpField
  | metadata _ => .metadata
  | cellOptions _ => .cellOptions
  | numCells _ => .numCells
  | reserved _ => .reserved
  | offset _ => .offset
  | maxNumCells _ => .maxNumCells
  | cellList _ _ => .cellList
  | relCellList _ _ => .relCellList
  | candCellList _ _ => .candCellList
  | totalNumCells _ => .totalNumCells
  | payload _ => .payload

section

variable (null : Bool) (type : SixpPktType) (code : UInt8) (bodyLen : Nat)

def SetCall.run : SetCall → Reads UInt8 (Option (Patch UInt8))
  | metadata value => pure (sixpPktSetMetadata null type code bodyLen value)
  | cellOptions value => pure (sixpPktSetCellOptions null type code bodyLen value)
  | numCells value => pure (sixpPktSetNumCells null type code value)
  | reserved value => pure (sixpPktSetReserved null type code bodyLen value)
  | offset value => pure (sixpPktSetOffset null type code bodyLen value)
  | maxNumCells value => pure (sixpPktSetMaxNumCells null type code bodyLen value)
  | cellList cells cellOffset => pure (sixpPktSetCellList null type code bodyLen cells cellOffset)
  | relCellList cells cellOffset => sixpPktSetRelCellList null type code bodyLen cells cellOffset
  | candCellList cells cellOffset => sixpPktSetCandCellList null type code bodyLen cells cellOffset
  | totalNumCells value => pure (sixpPktSetTotalNumCells null type code value)
  | payload items => pure (sixpPktSetPayload null type code bodyLen items)

def readCells (place : Option (Nat × Nat)) : Reads UInt8 (Option FieldValue) :=
  match place with
  | some (start, len) => do
      let items ← elements len fun index => start + index
      pure (some (.bytes items.toList))
  | none => pure none

/-- A call of a getter, with the cells of a list; a payload is put into a buffer of `bufLen`
bytes. -/
def SixpField.get (bufLen : Nat) : SixpField → Reads UInt8 (Option FieldValue)
  | metadata => do pure ((← sixpPktGetMetadata null type code bodyLen).map .word)
  | cellOptions => do pure ((← sixpPktGetCellOptions null type code bodyLen).map .byte)
  | numCells => do pure ((← sixpPktGetNumCells null type code bodyLen).map .byte)
  | reserved => do pure ((← sixpPktGetReserved null type code).map .byte)
  | offset => do pure ((← sixpPktGetOffset null type code bodyLen).map .word)
  | maxNumCells => do pure ((← sixpPktGetMaxNumCells null type code bodyLen).map .word)
  | cellList => readCells (sixpPktGetCellList null type code bodyLen)
  | relCellList => do readCells (← sixpPktGetRelCellList null type code bodyLen)
  | candCellList => do readCells (← sixpPktGetCandCellList null type code bodyLen)
  | totalNumCells => do pure ((← sixpPktGetTotalNumCells null type code bodyLen).map .word)
  | payload => do pure ((← sixpPktGetPayload null type code bodyLen bufLen).map .bytes)

end

def SetCall.ShownIn : SetCall → FieldValue → Prop
  | metadata value, shown => shown = .word value
  | cellOptions value, shown => shown = .byte value
  | numCells value, shown => shown = .byte value
  | reserved value, shown => shown = .byte value
  | offset value, shown => shown = .word value
  | maxNumCells value, shown => shown = .word value
  | cellList cells cellOffset, shown => ∃ items, shown = .bytes items ∧
      (items.drop cellOffset).take cells.length = cells
  | relCellList cells cellOffset, shown => ∃ items, shown = .bytes items ∧
      (items.drop cellOffset).take cells.length = cells
  | candCellList cells cellOffset, shown => ∃ items, shown = .bytes items ∧
      (items.drop cellOffset).take cells.length = cells
  | totalNumCells value, shown => shown = .word value
  | payload sent, shown => ∃ items, shown = .bytes items ∧ items.take sent.length = sent

/-- The offset of a field, none where the type and the code do not have it. The two lists of a
RELOCATE share the offset of the first. -/
def SixpField.place (type : SixpPktType) (code : UInt8) : SixpField → Option Nat
  | metadata => getMetadataOffset type code
  | cellOptions => getCellOptionsOffset type code
  | numCells => getNumCellsOffset type code
  | reserved => getReservedOffset type code
  | offset => getOffsetOffset type code
  | maxNumCells => getMaxNumCellsOffset type code
  | cellList => getCellListOffset type code
  | relCellList => getRelCellListOffset type code
  | candCellList => getRelCellListOffset type code
  | totalNumCells => getTotalNumCellsOffset type code
  | payload => getPayloadOffset type code

def SetCall.FitsAt (bodyLen numCells bufLen offset : Nat) : SetCall → Prop
  | metadata _ | SetCall.offset _ | maxNumCells _ | totalNumCells _ => offset + 2 ≤ bodyLen
  | cellOptions _ | SetCall.numCells _ | reserved _ => offset + 1 ≤ bodyLen
  | cellList cells cellOffset =>
    offset + cellOffset + cells.length ≤ bodyLen ∧ 4 ∣ cells.length ∧ 4 ∣ bodyLen - offset
  | relCellList cells cellOffset =>
    cellOffset + cells.length ≤ 4 * numCells ∧ offset + 4 * numCells ≤ bodyLen ∧
      4 ∣ cells.length ∧ 4 ∣ bodyLen - offset
  | candCellList cells cellOffset =>
    offset + 4 * numCells + cellOffset + cells.length ≤ bodyLen ∧ 4 ∣ cells.length ∧
      4 ∣ bodyLen - offset
  | payload items => offset + items.length ≤ bodyLen ∧ bodyLen ≤ offset + bufLen

def SetCall.Fits (type : SixpPktType) (code : UInt8) (bodyLen numCells bufLen : Nat)
    (call : SetCall) : Prop :=
  ∃ offset, call.field.place type code = some offset ∧ call.FitsAt bodyLen numCells bufLen offset

def SetCall.bytes : SetCall → List UInt8
  | metadata value | offset value | maxNumCells value | totalNumCells value => write16 value
  | cellOptions value | numCells value | reserved value => [value]
  | cellList cells _ | relCellList cells _ | candCellList cells _ => cells
  | payload items => items

def SetCall.shift (numCells : Nat) : SetCall → Nat
  | cellList _ cellOffset | relCellList _ cellOffset => cellOffset
  | candCellList _ cellOffset => cellOffset + numCells * 4
  | _ => 0

def SetCall.unchecked : SetCall → Bool
  | numCells _ | totalNumCells _ => true
  | _ => false

section

variable {null : Bool} {type : SixpPktType} {code : UInt8} {bodyLen : Nat} {memory : Memory UInt8}

variable {patch : Patch UInt8}

theorem putField_some {place : Option Nat} {bytes : List UInt8}
    (put : putField null place bytes bodyLen = some patch) :
    null = false ∧ ∃ offset, place = some offset ∧ patch = ⟨offset, bytes⟩ ∧
      offset + bytes.length ≤ bodyLen := by
  unfold putField at put
  split at put
  next offset =>
    split at put
    · cases put
    next inside =>
      cases put
      exact ⟨rfl, offset, rfl, rfl, Nat.not_lt.mp inside⟩
  next => cases put

theorem putCells_some {offset : Nat} {cells : List UInt8}
    (put : putCells offset cells bodyLen = some patch) :
    patch = ⟨offset, cells⟩ ∧ offset + cells.length ≤ bodyLen := by
  unfold putCells at put
  split at put
  · cases put
  next inside =>
    split at put
    · cases put
    · cases put
      exact ⟨rfl, Nat.not_lt.mp inside⟩

theorem takeByte_some {place : Option Nat} {value : UInt8}
    (taken : (takeByte null place bodyLen).value memory = some value) :
    null = false ∧ ∃ offset, place = some offset ∧ offset + 1 ≤ bodyLen ∧ value = memory offset := by
  unfold takeByte takeField at taken
  split at taken
  next offset =>
    by_cases inside : bodyLen < offset + 1
    · simp [inside] at taken
    · simp [inside] at taken
      exact ⟨rfl, offset, rfl, Nat.not_lt.mp inside, taken.symm⟩
  next => simp at taken

theorem getNumCells_some {value : UInt8}
    (taken : (sixpPktGetNumCells null type code bodyLen).value memory = some value) :
    null = false ∧ value = memory 3 := by
  obtain ⟨given, offset, place, -, rfl⟩ := takeByte_some taken
  unfold getNumCellsOffset at place
  split at place
  · cases place
    exact ⟨given, rfl⟩
  · cases place

theorem setRelCellList_some {cells : List UInt8} {cellOffset : Nat}
    (ran : (sixpPktSetRelCellList null type code bodyLen cells cellOffset).value memory =
      some patch) :
    null = false ∧ ∃ offset, getRelCellListOffset type code = some offset ∧
      patch = ⟨offset + cellOffset, cells⟩ ∧ offset + cellOffset + cells.length ≤ bodyLen ∧
      cells.length ≤ 4 * (memory 3).toNat ∧ cells.length % 4 = 0 := by
  simp only [sixpPktSetRelCellList, value_bind, value_pure] at ran
  split at ran
  next numCells offset found place =>
    obtain ⟨given, rfl⟩ := getNumCells_some found
    split at ran
    · cases ran
    next inside =>
      split at ran
      · cases ran
      next listed =>
        split at ran
        · cases ran
        next whole =>
          cases ran
          exact ⟨given, offset, place, rfl, by omega, by omega, by omega⟩
  next => cases ran

theorem SetCall.run_some {call : SetCall}
    (ran : (call.run null type code bodyLen).value memory = some patch) :
    null = false ∧ ∃ offset, call.field.place type code = some offset ∧
      patch = ⟨offset + call.shift (memory 3).toNat, call.bytes⟩ ∧
      (call.unchecked = false → patch.start + patch.items.length ≤ bodyLen) := by
  cases call with
  | metadata value | cellOptions value | reserved value | offset value | maxNumCells value
  | payload items =>
    obtain ⟨given, offset, place, rfl, inside⟩ := putField_some ran
    exact ⟨given, offset, place, rfl, fun _ => inside⟩
  | numCells value | totalNumCells value =>
    simp only [run, sixpPktSetNumCells, sixpPktSetTotalNumCells, value_pure] at ran
    split at ran
    next offset place =>
      cases ran
      exact ⟨rfl, offset, place, rfl, fun checked => Bool.noConfusion checked⟩
    next => cases ran
  | cellList cells cellOffset =>
    simp only [run, sixpPktSetCellList, value_pure] at ran
    split at ran
    next offset place =>
      obtain ⟨rfl, inside⟩ := putCells_some ran
      exact ⟨rfl, offset, place, rfl, fun _ => inside⟩
    next => cases ran
  | relCellList cells cellOffset =>
    obtain ⟨given, offset, place, rfl, inside, -⟩ := setRelCellList_some ran
    exact ⟨given, offset, place, rfl, fun _ => inside⟩
  | candCellList cells cellOffset =>
    simp only [run, sixpPktSetCandCellList, value_bind, value_pure] at ran
    split at ran
    next numCells offset found place =>
      obtain ⟨given, rfl⟩ := getNumCells_some found
      obtain ⟨rfl, inside⟩ := putCells_some ran
      exact ⟨given, offset, place, rfl, fun _ => inside⟩
    next => cases ran

end

def SixpField.Region (numCells bodyLen bufLen offset index : Nat) : SixpField → Prop
  | metadata | SixpField.offset | maxNumCells | totalNumCells => offset ≤ index ∧ index < offset + 2
  | cellOptions | SixpField.numCells | reserved => index = offset
  | cellList => offset ≤ index ∧ index < bodyLen
  | relCellList => index = 3 ∨ offset ≤ index ∧ index < offset + numCells * 4
  | candCellList => index = 3 ∨ offset + numCells * 4 ≤ index ∧ index < bodyLen
  | payload => offset ≤ index ∧ index < offset + bufLen

def SixpField.unchecked : SixpField → Bool
  | reserved | payload => true
  | _ => false

section

variable {null : Bool} {type : SixpPktType} {code : UInt8} {bodyLen bufLen : Nat}
  {memory : Memory UInt8}

theorem takeField_reads {place : Option Nat} {count index : Nat}
    (member : index ∈ (takeField null place count bodyLen).indices memory) :
    ∃ offset, place = some offset ∧ offset + count ≤ bodyLen ∧ offset ≤ index ∧
      index < offset + count := by
  unfold takeField at member
  split at member
  next offset =>
    by_cases inside : bodyLen < offset + count
    · simp [inside] at member
    · simp [inside] at member
      obtain ⟨step, within, rfl⟩ := member
      exact ⟨offset, rfl, Nat.not_lt.mp inside, by omega, by omega⟩
  next => simp at member

variable {index : Nat}

theorem takeByte_reads {place : Option Nat}
    (member : index ∈ (takeByte null place bodyLen).indices memory) :
    place = some index ∧ index < bodyLen := by
  simp only [takeByte, indices_bind, indices_pure, List.append_nil] at member
  obtain ⟨offset, found, inside, low, high⟩ := takeField_reads member
  have same : index = offset := by omega
  exact ⟨same ▸ found, by omega⟩

theorem takeWord_reads {place : Option Nat}
    (member : index ∈ (takeWord null place bodyLen).indices memory) :
    ∃ offset, place = some offset ∧ offset + 2 ≤ bodyLen ∧ offset ≤ index ∧ index < offset + 2 := by
  simp only [takeWord, indices_bind, indices_pure, List.append_nil] at member
  exact takeField_reads member

theorem readCells_reads {place : Option (Nat × Nat)}
    (member : index ∈ (readCells place).indices memory) :
    ∃ start len, place = some (start, len) ∧ start ≤ index ∧ index < start + len := by
  unfold readCells at member
  split at member
  next start len =>
    simp at member
    obtain ⟨step, within, rfl⟩ := member
    exact ⟨start, len, rfl, by omega, by omega⟩
  next => simp at member

theorem getNumCells_reads
    (member : index ∈ (sixpPktGetNumCells null type code bodyLen).indices memory) :
    index = 3 ∧ 3 < bodyLen ∧ type = .request ∧
      (code = sixpPktCmdAdd ∨ code = sixpPktCmdDelete ∨ code = sixpPktCmdRelocate) := by
  obtain ⟨place, inside⟩ := takeByte_reads member
  unfold getNumCellsOffset at place
  split at place
  next known =>
    cases place
    exact ⟨rfl, inside, known⟩
  next => cases place

variable {place : Nat × Nat}

theorem getRelCellList_some
    (found : (sixpPktGetRelCellList null type code bodyLen).value memory = some place) :
    ∃ offset, getRelCellListOffset type code = some offset ∧
      place = (offset, (memory 3).toNat * 4) ∧ offset + (memory 3).toNat * 4 ≤ bodyLen := by
  simp only [sixpPktGetRelCellList, value_bind, value_pure] at found
  split at found
  next numCells offset cells known =>
    split at found
    · cases found
    next inside =>
      split at found
      · cases found
      · cases found
        obtain ⟨-, rfl⟩ := getNumCells_some cells
        exact ⟨offset, known, rfl, Nat.not_lt.mp inside⟩
  next => cases found

theorem getCandCellList_some
    (found : (sixpPktGetCandCellList null type code bodyLen).value memory = some place) :
    ∃ offset, getRelCellListOffset type code = some offset ∧
      place = (offset + (memory 3).toNat * 4, bodyLen - (offset + (memory 3).toNat * 4)) ∧
      offset + (memory 3).toNat * 4 ≤ bodyLen := by
  simp only [sixpPktGetCandCellList, value_bind, value_pure] at found
  split at found
  next numCells offset cells known =>
    split at found
    · cases found
    next inside =>
      split at found
      · cases found
      · cases found
        obtain ⟨-, rfl⟩ := getNumCells_some cells
        exact ⟨offset, known, rfl, Nat.not_lt.mp inside⟩
  next => cases found

theorem getCellList_some (found : sixpPktGetCellList null type code bodyLen = some place) :
    ∃ offset, getCellListOffset type code = some offset ∧ place = (offset, bodyLen - offset) ∧
      offset ≤ bodyLen := by
  unfold sixpPktGetCellList at found
  split at found
  next offset known =>
    split at found
    · cases found
    next inside =>
      split at found
      · cases found
      · cases found
        exact ⟨offset, known, rfl, Nat.not_lt.mp inside⟩
  next => cases found

variable {field : SixpField}

theorem SixpField.get_reads {index : Nat}
    (member : index ∈ (field.get null type code bodyLen bufLen).indices memory) :
    (∀ offset, field.place type code = some offset →
      field.Region (memory 3).toNat bodyLen bufLen offset index) ∧
    (field.unchecked = false → index < bodyLen) := by
  cases field with
  | metadata | offset | maxNumCells | totalNumCells =>
    simp only [get, indices_bind, indices_pure, List.append_nil] at member
    obtain ⟨start, found, inside, low, high⟩ := takeWord_reads member
    refine ⟨fun offset place => ?_, fun _ => by omega⟩
    cases place.symm.trans found
    exact ⟨low, high⟩
  | cellOptions | numCells =>
    simp only [get, indices_bind, indices_pure, List.append_nil] at member
    obtain ⟨found, inside⟩ := takeByte_reads member
    exact ⟨fun offset place => Option.some.inj (found.symm.trans place), fun _ => inside⟩
  | reserved =>
    refine ⟨fun offset place => ?_, fun checked => by cases checked⟩
    simp only [get, indices_bind, indices_pure, List.append_nil, sixpPktGetReserved] at member
    split at member
    next start found =>
      cases place.symm.trans found
      have same : index = offset := by simpa using member
      exact same
    next => simp at member
  | cellList =>
    obtain ⟨start, len, found, low, high⟩ := readCells_reads member
    obtain ⟨known, other, same, inside⟩ := getCellList_some found
    cases same
    refine ⟨fun offset place => ?_, fun _ => by omega⟩
    cases place.symm.trans other
    exact ⟨low, by omega⟩
  | relCellList =>
    simp only [get, indices_bind, List.mem_append] at member
    rcases member with count | cells
    · simp only [sixpPktGetRelCellList, indices_bind, indices_pure, List.append_nil] at count
      obtain ⟨third, inside, -⟩ := getNumCells_reads count
      exact ⟨fun _ _ => Or.inl third, fun _ => by omega⟩
    · obtain ⟨start, len, found, low, high⟩ := readCells_reads cells
      obtain ⟨known, other, same, inside⟩ := getRelCellList_some found
      cases same
      refine ⟨fun offset place => ?_, fun _ => by omega⟩
      cases place.symm.trans other
      exact Or.inr ⟨low, high⟩
  | candCellList =>
    simp only [get, indices_bind, List.mem_append] at member
    rcases member with count | cells
    · simp only [sixpPktGetCandCellList, indices_bind, indices_pure, List.append_nil] at count
      obtain ⟨third, inside, -⟩ := getNumCells_reads count
      exact ⟨fun _ _ => Or.inl third, fun _ => by omega⟩
    · obtain ⟨start, len, found, low, high⟩ := readCells_reads cells
      obtain ⟨known, other, same, inside⟩ := getCandCellList_some found
      cases same
      refine ⟨fun offset place => ?_, fun _ => by omega⟩
      cases place.symm.trans other
      exact Or.inr ⟨low, by omega⟩
  | payload =>
    refine ⟨fun offset place => ?_, fun checked => by cases checked⟩
    simp only [get, indices_bind, indices_pure, List.append_nil, sixpPktGetPayload] at member
    split at member
    next start found =>
      cases place.symm.trans found
      by_cases long : (bodyLen : Int) - offset > bufLen
      · simp [long] at member
      · simp [long] at member
        obtain ⟨step, within, rfl⟩ := member
        exact ⟨by omega, by omega⟩
    next => simp at member

theorem SixpField.get_absent (absent : field.place type code = none) :
    (field.get null type code bodyLen bufLen).value memory = none := by
  cases field with
  | metadata | offset | maxNumCells | totalNumCells =>
    simp only [place] at absent
    simp [get, sixpPktGetMetadata, sixpPktGetOffset, sixpPktGetMaxNumCells,
      sixpPktGetTotalNumCells, takeWord, takeField, absent]
  | cellOptions | numCells =>
    simp only [place] at absent
    simp [get, sixpPktGetCellOptions, sixpPktGetNumCells, takeByte, takeField, absent]
  | reserved | payload =>
    simp only [place] at absent
    simp [get, sixpPktGetReserved, sixpPktGetPayload, absent]
  | cellList =>
    simp only [place] at absent
    simp [get, sixpPktGetCellList, readCells, absent]
  | relCellList | candCellList =>
    simp only [place] at absent
    simp [get, sixpPktGetRelCellList, sixpPktGetCandCellList, readCells, absent]

end

def SixpField.Placed (type code offset : Nat) : SixpField → Prop
  | metadata => type = 0 ∧ offset = 0
  | cellOptions => type = 0 ∧ 1 ≤ code ∧ code ≤ 5 ∧ offset = 2
  | numCells => type = 0 ∧ 1 ≤ code ∧ code ≤ 3 ∧ offset = 3
  | reserved => type = 0 ∧ code = 5 ∧ offset = 3
  | SixpField.offset => type = 0 ∧ code = 5 ∧ offset = 4
  | maxNumCells => type = 0 ∧ code = 5 ∧ offset = 6
  | cellList => type = 0 ∧ 1 ≤ code ∧ code ≤ 2 ∧ offset = 4 ∨ 0 < type ∧ code ≤ 1 ∧ offset = 0
  | relCellList | candCellList => type = 0 ∧ code = 3 ∧ offset = 4
  | totalNumCells => type = 1 ∧ code = 0 ∧ offset = 0
  | payload => type = 0 ∧ code = 6 ∧ offset = 2 ∨ 0 < type ∧ code = 0 ∧ offset = 0

theorem SixpField.placed {field : SixpField} {type : SixpPktType} {code : UInt8} {offset : Nat}
    (place : field.place type code = some offset) :
    field.Placed type.value.toNat code.toNat offset := by
  have codes : ∀ number : UInt8, code = number ↔ code.toNat = number.toNat :=
    fun number => UInt8.toNat_inj.symm
  cases field <;> cases type <;>
    simp [SixpField.place, getMetadataOffset, getCellOptionsOffset, getNumCellsOffset,
      getReservedOffset, getOffsetOffset, getMaxNumCellsOffset, getCellListOffset,
      getRelCellListOffset, getTotalNumCellsOffset, getPayloadOffset, sixpPktCmdAdd,
      sixpPktCmdDelete, sixpPktCmdRelocate, sixpPktCmdCount, sixpPktCmdList, sixpPktCmdSignal,
      sixpPktRcSuccess, sixpPktRcEol, codes] at place <;>
    simp [SixpField.Placed, SixpPktType.value] <;> omega

/-- The pairs of fields of which a format of a message has only one, because they lie at the same
place, and the lists whose border is the number of cells. -/
def SixpField.shares : SixpField → SixpField → Bool
  | cellList, totalNumCells | cellList, payload | totalNumCells, cellList | totalNumCells, payload
  | payload, cellList | payload, totalNumCells => true
  | numCells, relCellList | numCells, candCellList => true
  | _, _ => false

def SetCall.InList (numCells : Nat) : SetCall → Prop
  | relCellList cells cellOffset => cellOffset + cells.length ≤ 4 * numCells
  | _ => True

theorem SetCall.apart {call : SetCall} {field : SixpField} (other : field ≠ call.field)
    (own : call.field.shares field = false)
    {type code numCells bodyLen bufLen offset place index : Nat}
    (inList : call.InList numCells) (placed : call.field.Placed type code offset)
    (beside : field.Placed type code place)
    (inside : offset + call.shift numCells + call.bytes.length ≤ bodyLen ∨ call.unchecked = true)
    (after : offset + call.shift numCells ≤ index)
    (before : index < offset + call.shift numCells + call.bytes.length) :
    ¬ field.Region numCells bodyLen bufLen place index := by
  cases call <;> cases field <;>
    simp [SetCall.field, SixpField.shares, SixpField.Placed, SetCall.shift, SetCall.bytes,
      SetCall.InList, SixpField.Region, SetCall.unchecked, write16] at * <;>
    omega

theorem elements_read (memory : Memory UInt8) (start len : Nat) :
    ((elements len fun index => start + index).value memory).toList = memory.read start len := by
  rw [value_elements]
  apply List.ext_getElem
  · simp
  · intro index left right
    simp [Memory.read]

theorem write_shown (memory : Memory UInt8) (start len : Nat) {shift : Nat} {cells : List UInt8}
    (inside : shift + cells.length ≤ len) :
    (((memory.write (start + shift) cells).read start len).drop shift).take cells.length = cells := by
  rw [Memory.read_drop, Memory.read_take _ _ (by omega), Memory.read_write_self]

theorem write_word (memory : Memory UInt8) (place : Nat) (value : UInt16) :
    read16 (memory.write place (write16 value) place)
      (memory.write place (write16 value) (place + 1)) = value := by
  have low : memory.write place (write16 value) place = value.toUInt8 := by
    simp [Memory.write, write16]
  have high : memory.write place (write16 value) (place + 1) = (value >>> 8).toUInt8 := by
    simp [Memory.write, write16]
  rw [low, high, read16_write16]

section

variable {type : SixpPktType} {code : UInt8} {bodyLen bufLen : Nat} {memory : Memory UInt8}

variable {place : Nat}

theorem putField_fits {bytes : List UInt8} (fits : place + bytes.length ≤ bodyLen) :
    putField false (some place) bytes bodyLen = some ⟨place, bytes⟩ :=
  if_neg (Nat.not_lt.mpr fits)

theorem putCells_fits {cells : List UInt8} (fits : place + cells.length ≤ bodyLen)
    (whole : 4 ∣ cells.length) : putCells place cells bodyLen = some ⟨place, cells⟩ := by
  rw [putCells, if_neg (Nat.not_lt.mpr fits), if_neg (by omega)]

theorem takeByte_fits (fits : place + 1 ≤ bodyLen) :
    (takeByte false (some place) bodyLen).value memory = some (memory place) := by
  simp [takeByte, takeField, Nat.not_lt.mpr fits, Vector.get]

theorem takeWord_fits (fits : place + 2 ≤ bodyLen) :
    (takeWord false (some place) bodyLen).value memory =
      some (read16 (memory place) (memory (place + 1))) := by
  simp [takeWord, takeField, Nat.not_lt.mpr fits, Vector.get]

theorem word_reads_back (value : UInt16) (fits : place + 2 ≤ bodyLen) :
    (takeWord false (some place) bodyLen).value (memory.write place (write16 value)) =
      some value := by
  rw [takeWord_fits fits, write_word]

theorem byte_reads_back (value : UInt8) (fits : place + 1 ≤ bodyLen) :
    (takeByte false (some place) bodyLen).value (memory.write place [value]) = some value := by
  rw [takeByte_fits fits, Memory.write_cell]

theorem relocate_place {offset : Nat} (place : getRelCellListOffset type code = some offset) :
    offset = 4 ∧ getNumCellsOffset type code = some 3 := by
  unfold getRelCellListOffset at place
  split at place
  next relocate =>
    cases place
    exact ⟨rfl, if_pos ⟨relocate.1, Or.inr (Or.inr relocate.2)⟩⟩
  next => cases place

theorem relocate_numCells (memory : Memory UInt8) {offset : Nat}
    (place : getRelCellListOffset type code = some offset) (inside : 4 ≤ bodyLen) :
    (sixpPktGetNumCells false type code bodyLen).value memory = some (memory 3) := by
  rw [sixpPktGetNumCells, (relocate_place place).2, takeByte_fits inside]

theorem relocate_numCells_write (memory : Memory UInt8) (cells : List UInt8) {offset start : Nat}
    (place : getRelCellListOffset type code = some offset) (inside : 4 ≤ bodyLen)
    (behind : 4 ≤ start) :
    (sixpPktGetNumCells false type code bodyLen).value (memory.write start cells) =
      some (memory 3) := by
  rw [relocate_numCells _ place inside, Memory.write_before _ _ (by omega)]

theorem SetCall.reads_back {call : SetCall}
    (fits : call.Fits type code bodyLen (memory 3).toNat bufLen) :
    ∃ patch, (call.run false type code bodyLen).value memory = some patch ∧
      ∃ shown, (call.field.get false type code bodyLen bufLen).value
        (memory.write patch.start patch.items) = some shown ∧ call.ShownIn shown := by
  obtain ⟨offset, place, fitsAt⟩ := fits
  cases call with
  | metadata value | offset value | maxNumCells value | totalNumCells value =>
    simp only [SetCall.field, SixpField.place] at place
    have put := @putField_fits bodyLen offset (write16 value) fitsAt
    refine ⟨⟨offset, write16 value⟩, ?_, .word value, ?_, rfl⟩
    · simp only [SetCall.run, sixpPktSetMetadata, sixpPktSetOffset, sixpPktSetMaxNumCells,
        sixpPktSetTotalNumCells, place, put, value_pure]
    · simp only [SetCall.field, SixpField.get, value_bind, value_pure, sixpPktGetMetadata,
        sixpPktGetOffset, sixpPktGetMaxNumCells, sixpPktGetTotalNumCells, place,
        word_reads_back value fitsAt, Option.map_some]
  | cellOptions value | reserved value | numCells value =>
    simp only [SetCall.field, SixpField.place] at place
    have put := @putField_fits bodyLen offset [value] fitsAt
    refine ⟨⟨offset, [value]⟩, ?_, .byte value, ?_, rfl⟩
    · simp only [SetCall.run, sixpPktSetCellOptions, sixpPktSetReserved, sixpPktSetNumCells, place,
        put, value_pure]
    · simp only [SetCall.field, SixpField.get, value_bind, value_pure, sixpPktGetCellOptions,
        sixpPktGetReserved, sixpPktGetNumCells, place, byte_reads_back value fitsAt, value_element,
        Memory.write_cell, Option.map_some]
  | cellList cells cellOffset =>
    simp only [SetCall.field, SixpField.place] at place
    obtain ⟨inside, whole, cut⟩ := fitsAt
    refine ⟨⟨offset + cellOffset, cells⟩, ?_, .bytes _, ?_, _, rfl, write_shown memory
      offset (bodyLen - offset) (by omega)⟩
    · simp only [SetCall.run, sixpPktSetCellList, place, value_pure, putCells_fits inside whole]
    · have found : sixpPktGetCellList false type code bodyLen =
          some (offset, bodyLen - offset) := by
        simp only [sixpPktGetCellList, place]
        rw [if_neg (by omega), if_neg (by omega)]
      simp only [SetCall.field, SixpField.get, found, readCells, value_bind, value_pure,
        elements_read]
  | relCellList cells cellOffset =>
    simp only [SetCall.field, SixpField.place] at place
    obtain ⟨listed, inside, whole, cut⟩ := fitsAt
    obtain ⟨rfl, -⟩ := relocate_place place
    have four : 4 ≤ bodyLen := by omega
    have count := relocate_numCells memory place four
    refine ⟨⟨4 + cellOffset, cells⟩, ?_, .bytes _, ?_, _, rfl, write_shown memory 4
      ((memory 3).toNat * 4) (by omega)⟩
    · simp only [SetCall.run, sixpPktSetRelCellList, value_bind, value_pure, count, place]
      rw [if_neg (by omega), if_neg (by omega), if_neg (by omega)]
    · have kept := @relocate_numCells_write type code bodyLen memory cells 4 (4 + cellOffset) place
        four (by omega)
      simp only [SetCall.field, SixpField.get, sixpPktGetRelCellList, value_bind, value_pure, kept,
        place]
      rw [if_neg (by omega), if_neg (by omega)]
      simp only [readCells, value_bind, value_pure, elements_read]
  | candCellList cells cellOffset =>
    simp only [SetCall.field, SixpField.place] at place
    obtain ⟨inside, whole, cut⟩ := fitsAt
    obtain ⟨rfl, -⟩ := relocate_place place
    have four : 4 ≤ bodyLen := by omega
    have count := relocate_numCells memory place four
    have start : 4 + (cellOffset + (memory 3).toNat * 4) =
        4 + (memory 3).toNat * 4 + cellOffset := by
      omega
    refine ⟨⟨4 + (memory 3).toNat * 4 + cellOffset, cells⟩, ?_, .bytes _, ?_, _, rfl,
      write_shown memory (4 + (memory 3).toNat * 4) (bodyLen - (4 + (memory 3).toNat * 4))
        (by omega)⟩
    · simp only [SetCall.run, sixpPktSetCandCellList, value_bind, value_pure, count, place, start]
      exact putCells_fits (by omega) whole
    · have kept := @relocate_numCells_write type code bodyLen memory cells 4
        (4 + (memory 3).toNat * 4 + cellOffset) place four (by omega)
      simp only [SetCall.field, SixpField.get, sixpPktGetCandCellList, value_bind, value_pure, kept,
        place]
      rw [if_neg (by omega), if_neg (by omega)]
      simp only [readCells, value_bind, value_pure, elements_read]
  | payload items =>
    simp only [SetCall.field, SixpField.place] at place
    obtain ⟨inside, room⟩ := fitsAt
    refine ⟨⟨offset, items⟩, ?_, .bytes ((memory.write offset items).read offset bufLen), ?_, _,
      rfl, ?_⟩
    · exact (congrArg (putField false · items bodyLen) place).trans (putField_fits inside)
    · simp only [SetCall.field, SixpField.get, sixpPktGetPayload, place, value_bind]
      rw [if_neg (by omega)]
      simp only [value_bind, value_pure, elements_read, Option.map_some]
    · rw [Memory.read_take _ _ (by omega), Memory.read_write_self]

end

section

variable {null : Bool} {type : SixpPktType} {code : UInt8} {bodyLen : Nat} {memory : Memory UInt8}

theorem SetCall.keeps {call : SetCall} {field : SixpField} {patch : Patch UInt8} (bufLen : Nat)
    (other : field ≠ call.field) (own : call.field.shares field = false)
    (inList : call.InList (memory 3).toNat)
    (ran : (call.run null type code bodyLen).value memory = some patch) :
    (field.get false type code bodyLen bufLen).value (memory.write patch.start patch.items) =
      (field.get false type code bodyLen bufLen).value memory := by
  cases beside : field.place type code with
  | none => rw [SixpField.get_absent beside, SixpField.get_absent beside]
  | some place =>
    obtain ⟨-, offset, own', rfl, inside⟩ := SetCall.run_some ran
    have checked : offset + call.shift (memory 3).toNat + call.bytes.length ≤ bodyLen ∨
        call.unchecked = true := by
      cases unchecked : call.unchecked with
      | false => exact Or.inl (inside unchecked)
      | true => exact Or.inr rfl
    refine (Reads.congr _ fun index member => ?_).1
    have region := (SixpField.get_reads member).1 _ beside
    have missed : ¬ Patch.Covers ⟨offset + call.shift (memory 3).toNat, call.bytes⟩ index := by
      rintro ⟨after, before⟩
      exact SetCall.apart other own inList (SixpField.placed own') (SixpField.placed beside) checked
        after before region
    exact Patch.write_uncovered memory missed

theorem SetCall.run_below (call : SetCall) :
    (call.run null type code bodyLen).Below memory bodyLen := by
  intro index member
  cases call with
  | relCellList cells cellOffset | candCellList cells cellOffset =>
    simp only [run, sixpPktSetRelCellList, sixpPktSetCandCellList, indices_bind, indices_pure,
      List.append_nil] at member
    obtain ⟨third, inside, -⟩ := getNumCells_reads member
    omega
  | _ => exact absurd member List.not_mem_nil

end

def SetCall.Inside (type : SixpPktType) (code : UInt8) (bodyLen : Nat) (call : SetCall) : Prop :=
  ∀ offset, call.field.place type code = some offset → offset + call.bytes.length ≤ bodyLen

def SixpField.Inside (type : SixpPktType) (code : UInt8) (bodyLen bufLen : Nat)
    (field : SixpField) : Prop :=
  ∀ offset, field.place type code = some offset →
    ∀ index, field.Region 0 bodyLen bufLen offset index → index < bodyLen

section

variable {null : Bool} {type : SixpPktType} {code : UInt8} {bodyLen : Nat} {memory : Memory UInt8}

theorem SetCall.patch_below {call : SetCall} {patch : Patch UInt8}
    (ran : (call.run null type code bodyLen).value memory = some patch)
    (checked : call.unchecked = false ∨ call.Inside type code bodyLen) :
    patch.start + patch.items.length ≤ bodyLen := by
  obtain ⟨-, offset, place, rfl, within⟩ := SetCall.run_some ran
  rcases checked with checked | inside
  · exact within checked
  · cases unchecked : call.unchecked with
    | false => exact within unchecked
    | true =>
      have fits := inside offset place
      cases call with
      | numCells value | totalNumCells value => exact fits
      | _ => cases unchecked

theorem SixpField.get_inside {bufLen : Nat} {field : SixpField}
    (checked : field.unchecked = false ∨ field.Inside type code bodyLen bufLen) :
    (field.get null type code bodyLen bufLen).Below memory bodyLen := by
  rcases checked with checked | inside
  · exact fun _ member => (SixpField.get_reads member).2 checked
  · cases unchecked : field.unchecked with
    | false => exact fun _ member => (SixpField.get_reads member).2 unchecked
    | true =>
      intro index member
      cases place : field.place type code with
      | none =>
        cases field with
        | reserved | payload =>
          simp only [SixpField.place] at place
          simp [SixpField.get, sixpPktGetReserved, sixpPktGetPayload, place] at member
        | _ => cases unchecked
      | some offset =>
        have region := (SixpField.get_reads member).1 _ place
        cases field with
        | reserved | payload => exact inside offset place index region
        | _ => cases unchecked

end

theorem sixpPkt_fields (type : SixpPktType) (code : UInt8) (bodyLen bufLen : Nat)
    (memory : Memory UInt8) :
    (∀ call : SetCall, call.Fits type code bodyLen (memory 3).toNat bufLen →
      ∃ patch, (call.run false type code bodyLen).value memory = some patch ∧
        ∃ shown, (call.field.get false type code bodyLen bufLen).value
          (memory.write patch.start patch.items) = some shown ∧ call.ShownIn shown) ∧
    (∀ (call : SetCall) (field : SixpField) (patch : Patch UInt8), field ≠ call.field →
      call.field.shares field = false → call.InList (memory 3).toNat →
        (call.run false type code bodyLen).value memory = some patch →
          (field.get false type code bodyLen bufLen).value (memory.write patch.start patch.items) =
            (field.get false type code bodyLen bufLen).value memory) ∧
    ∀ null : Bool,
      (∀ call : SetCall, (call.run null type code bodyLen).Below memory bodyLen ∧
        (call.unchecked = false ∨ call.Inside type code bodyLen →
          ∀ patch, (call.run null type code bodyLen).value memory = some patch →
            patch.start + patch.items.length ≤ bodyLen)) ∧
      ∀ field : SixpField, field.unchecked = false ∨ field.Inside type code bodyLen bufLen →
        (field.get null type code bodyLen bufLen).Below memory bodyLen := by
  refine ⟨fun call fits => SetCall.reads_back fits, ?_, fun null => ⟨?_, ?_⟩⟩
  · intro call field patch other own inList ran
    exact SetCall.keeps bufLen other own inList ran
  · intro call
    exact ⟨SetCall.run_below call, fun checked patch ran => SetCall.patch_below ran checked⟩
  · intro field checked
    exact SixpField.get_inside checked

def addBody : Memory UInt8 := fun index => [0, 0, 1, 1, 5, 0, 3, 0].getD index 0

theorem sixpPkt_fields_add :
    (∃ patch, ((SetCall.cellList [7, 0, 2, 0] 0).run false .request sixpPktCmdAdd 8).value addBody =
        some patch ∧
      ∃ shown, (SixpField.cellList.get false .request sixpPktCmdAdd 8 0).value
        (addBody.write patch.start patch.items) = some shown ∧
          (SetCall.cellList [7, 0, 2, 0] 0).ShownIn shown) ∧
    (SixpField.numCells.get false .request sixpPktCmdAdd 8 0).value (addBody.write 4 [7, 0, 2, 0]) =
      (SixpField.numCells.get false .request sixpPktCmdAdd 8 0).value addBody ∧
    (SixpField.cellList.get false .request sixpPktCmdAdd 8 0).Below addBody 8 :=
  ⟨(sixpPkt_fields .request sixpPktCmdAdd 8 0 addBody).1 (.cellList [7, 0, 2, 0] 0)
      ⟨4, rfl, by decide, by decide, by decide⟩,
    (sixpPkt_fields .request sixpPktCmdAdd 8 0 addBody).2.1 (.cellList [7, 0, 2, 0] 0) .numCells
      ⟨4, [7, 0, 2, 0]⟩ (by decide) rfl trivial rfl,
    ((sixpPkt_fields .request sixpPktCmdAdd 8 0 addBody).2.2 false).2 .cellList (Or.inl rfl)⟩

theorem totalNumCells_changes_cellList :
    ¬ ∀ (call : SetCall) (field : SixpField) (patch : Patch UInt8), field ≠ call.field →
      (call.run false .response sixpPktRcSuccess 4).value addBody = some patch →
        (field.get false .response sixpPktRcSuccess 4 0).value
            (addBody.write patch.start patch.items) =
          (field.get false .response sixpPktRcSuccess 4 0).value addBody := by
  intro all
  have kept := all (.totalNumCells 2) .cellList ⟨0, [2, 0]⟩ (by decide) rfl
  revert kept
  decide

/-- The check of the length leaves out the offset: the list goes beyond the cells to be relocated
if it does so because of the offset only. -/
theorem relCellList_in_region_iff (null : Bool) (bodyLen : Nat) (memory : Memory UInt8)
    (relCellList : List UInt8) (cellOffset : Nat) :
    (∀ patch, (sixpPktSetRelCellList null .request sixpPktCmdRelocate bodyLen relCellList
        cellOffset).value memory = some patch →
      ∀ address, patch.Covers address →
        4 ≤ address ∧ address < 4 + 4 * (memory 3).toNat) ↔
      cellOffset + relCellList.length ≤ 4 * (memory 3).toNat ∨ relCellList = [] ∨ null = true ∨
        bodyLen < 4 + cellOffset + relCellList.length ∨
        4 * (memory 3).toNat < relCellList.length ∨ relCellList.length % 4 ≠ 0 := by
  constructor
  · intro inRegion
    by_contra failing
    simp only [not_or, Bool.not_eq_true, not_lt, not_not] at failing
    obtain ⟨beyond, filled, rfl, inside, listed, whole⟩ := failing
    have some : 0 < relCellList.length := List.length_pos_iff.mpr filled
    have place : getRelCellListOffset .request sixpPktCmdRelocate = Option.some 4 := rfl
    have count := relocate_numCells memory place (show 4 ≤ bodyLen by omega)
    have ran : (sixpPktSetRelCellList false .request sixpPktCmdRelocate bodyLen relCellList
        cellOffset).value memory = Option.some ⟨4 + cellOffset, relCellList⟩ := by
      simp only [sixpPktSetRelCellList, value_bind, value_pure, count, place]
      rw [if_neg (by omega), if_neg (by omega), if_neg (by omega)]
    have last := (inRegion _ ran (4 + cellOffset + (relCellList.length - 1))
      ⟨by dsimp only; omega, by dsimp only; omega⟩).2
    omega
  · intro condition patch ran address covers
    obtain ⟨rfl, offset, place, rfl, inside, listed, whole⟩ := setRelCellList_some ran
    cases place
    obtain ⟨after, before⟩ := covers
    dsimp only at after before
    rcases condition with fits | rfl | null | short | long | cut
    · omega
    · rw [List.length_nil] at before
      omega
    · cases null
    · omega
    · omega
    · exact absurd whole cut

theorem relCellList_overwrites_candidates :
    ¬ ∀ patch, (sixpPktSetRelCellList false .request sixpPktCmdRelocate 12 [5, 0, 3, 0] 4).value
        (fun _ => 1) = some patch →
      ∀ address, patch.Covers address → 4 ≤ address ∧ address < 4 + 4 * 1 := by
  intro inRegion
  have last := (inRegion ⟨8, [5, 0, 3, 0]⟩ (by decide) 8 (by decide)).2
  exact absurd last (by decide)

end MultiPhyTsch.Sixp
