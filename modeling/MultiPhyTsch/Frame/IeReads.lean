import MultiPhyTsch.Frame.HeaderReads
import MultiPhyTsch.Frame.InformationElements
import MultiPhyTsch.Lib.Loop

/-! Which bytes `frame802154e_parse_information_elements` reads. The programs below read the
buffer as the functions of `frame802154e-ie.c` do, also where what they read is not used. -/

namespace MultiPhyTsch

open Reads

def readWord (p : Nat) : Reads UInt8 UInt16 := do
  let low ← element p
  let high ← element (p + 1)
  pure (low.toUInt16 ||| (high.toUInt16 <<< 8))

def wordOf (bytes : List UInt8) (index : Nat) : UInt16 :=
  (bytes.getD index 0).toUInt16 ||| ((bytes.getD (index + 1) 0).toUInt16 <<< 8)

variable (p : Nat)

def readHeaderIe (len : UInt16) (elementId : UInt8) (ies : Ieee802154Ies) :
    Reads UInt8 (Option Ieee802154Ies) :=
  if elementId = headerIeAckNackTimeCorrection ∧ len = 2 then do
    let timeSyncField ← readWord p
    pure (some { ies with
      ieIsNack := timeSyncField &&& 0x8000 != 0
      ieTimeCorrection :=
        (if timeSyncField &&& 0x0800 != 0 then timeSyncField ||| 0xf000
          else timeSyncField &&& 0x0fff).toInt16 })
  else pure none

def readSlotframeLinks (numLinks : Nat) (links : Vector TschSlotframeAndLinksLink 4) :
    Reads UInt8 (Vector TschSlotframeAndLinksLink 4) := do
  let bytes ← elements (5 * numLinks) fun index => p + 5 + index
  pure (Vector.ofFn fun index =>
    if index < numLinks then
      ⟨wordOf bytes.toList (index * 5), wordOf bytes.toList (index * 5 + 2),
        bytes.toList.getD (index * 5 + 4) 0⟩
    else links.get index)

variable (len : UInt16)

variable (ies : Ieee802154Ies)

def readSlotframeAndLink :
    Reads UInt8 (Option Ieee802154Ies) :=
  if len < 1 then pure none
  else do
    let numSlotframes ← element p
    let numLinks ← element (p + 4)
    if numSlotframes = 0 then pure (some ies)
    else if numSlotframes.toNat ≤ 1 ∧ numLinks.toNat ≤ ieMaxLinks ∧
        len.toNat = 1 + numSlotframes.toNat * (4 + 5 * numLinks.toNat) then do
      let numSlotframes ← element p
      let slotframeHandle ← element (p + 1)
      let slotframeSize ← readWord (p + 2)
      let storedLinks ← element (p + 4)
      let links ← readSlotframeLinks p numLinks.toNat ies.ieTschSlotframeAndLink.links
      pure (some { ies with ieTschSlotframeAndLink :=
        { numSlotframes := numSlotframes
          slotframeHandle := slotframeHandle
          slotframeSize := slotframeSize
          numLinks := storedLinks
          links := links } })
    else pure none

def readSynchronization :
    Reads UInt8 (Option Ieee802154Ies) :=
  if len = 6 then do
    let bytes ← elements 6 fun index => p + index
    pure (some { ies with
      ieAsn :=
        { ls4b := bytes[0].toUInt32 ||| (bytes[1].toUInt32 <<< 8) ||| (bytes[2].toUInt32 <<< 16) |||
            (bytes[3].toUInt32 <<< 24)
          ms1b := bytes[4] }
      ieJoinPriority := bytes[5] })
  else pure none

def readTimeslot :
    Reads UInt8 (Option Ieee802154Ies) :=
  if len = 1 ∨ len = 25 then do
    let id ← element p
    if len = 25 then do
      let bytes ← elements 24 fun index => p + 1 + index
      pure (some { ies with
        ieTschTimeslotId := id
        ieTschTimeslot := Vector.ofFn fun index => wordOf bytes.toList (2 * index) })
    else pure (some { ies with ieTschTimeslotId := id })
  else pure none

def readMlmeShortIe (subId : UInt8) (ies : Ieee802154Ies) :
    Reads UInt8 (Option Ieee802154Ies) :=
  if subId = mlmeShortIeTschSlotframeAndLink then readSlotframeAndLink p len ies
  else if subId = mlmeShortIeTschSynchronization then readSynchronization p len ies
  else if subId = mlmeShortIeTschTimeslot then readTimeslot p len ies
  else pure none

def readMlmeLongIe (conf : IeConf) (p : Nat) (len : UInt16) (subId : UInt8) (ies : Ieee802154Ies) :
    Reads UInt8 (Option Ieee802154Ies) :=
  if subId = mlmeLongIeTschChannelHoppingSequence ∧ len > 0 then do
    let id ← element p
    if len > 1 then do
      let sequenceLen ← readWord (p + 8)
      if sequenceLen.toNat ≤ conf.hoppingSequenceMaxLen ∧ len.toNat = 12 + sequenceLen.toNat then do
        let sequence ← elements sequenceLen.toNat fun index => p + 10 + index
        pure (some { ies with
          ieChannelHoppingSequenceId := id
          ieHoppingSequenceLen := sequenceLen
          ieHoppingSequenceList :=
            sequence.toList ++ ies.ieHoppingSequenceList.drop sequenceLen.toNat })
      else pure (some { ies with
        ieChannelHoppingSequenceId := id
        ieHoppingSequenceLen := sequenceLen })
    else pure (some { ies with ieChannelHoppingSequenceId := id })
  else pure none

/-- `len > buf_size || parse(..) == -1`: an element that is too long is not read. -/
def readParsed (scan : IeScan) (len : UInt16) (parser : Reads UInt8 (Option Ieee802154Ies)) :
    Reads UInt8 IeRound :=
  if len.toNat > scan.bufSize.toNat then pure scan.failed
  else do
    let ies ← parser
    pure (scan.parsed len ies)

def readHeaderElement (ieDesc : UInt16) (scan : IeScan) : Reads UInt8 IeRound :=
  let len := ieDesc &&& 0x7f
  let id := ((ieDesc &&& 0x7f80) >>> 7).toUInt8
  if ieDesc &&& 0x8000 != 0 then pure scan.failed
  else if id = headerIeListTermination1 then
    pure (if len = 0 then .continued { scan.saveOffset with parsingState := .payloadIe }
      else scan.failed)
  else if id = headerIeListTermination2 then
    pure (if len = 0 then .returned scan.buf.offset scan.saveOffset.ies else scan.failed)
  else readParsed scan len (readHeaderIe scan.buf.offset len id scan.ies)

def readPayloadElement (conf : IeConf) (ieDesc : UInt16) (scan : IeScan) : Reads UInt8 IeRound :=
  let len := ieDesc &&& 0x7ff
  let id := ((ieDesc &&& 0x7800) >>> 11).toUInt8
  if ieDesc &&& 0x8000 = 0 then pure scan.failed
  else if id = payloadIeMlme then
    pure (.continued { scan with parsingState := .mlmeSubie, nestedMlmeLen := len.toNat })
  else if conf.withSixtop && id == payloadIeIetf then do
    let subId ← element scan.buf.offset
    let ies :=
      if subId = ietfIe6top then
        { scan.ies with
          sixtopIeContentPtr := some (scan.buf.offset + 1)
          sixtopIeContentLen := len - 1 }
      else scan.ies
    pure (.continued ({ scan with ies := ies }.advance len))
  else if id = payloadIeListTermination then
    pure (.returned (if len = 0 then scan.buf.offset else -1) scan.ies)
  else pure scan.failed

def readMlmeElement (conf : IeConf) (ieDesc : UInt16) (scan : IeScan) : Reads UInt8 IeRound :=
  if ieDesc &&& 0x8000 = 0 then do
    let len := ieDesc &&& 0xff
    let id := ((ieDesc &&& 0x7f00) >>> 8).toUInt8
    let round ← readParsed scan len (readMlmeShortIe scan.buf.offset len id scan.ies)
    pure (closeSubie len round)
  else do
    let len := ieDesc &&& 0x7ff
    let id := ((ieDesc &&& 0x7800) >>> 11).toUInt8
    let round ← readParsed scan len (readMlmeLongIe conf scan.buf.offset len id scan.ies)
    pure (closeSubie len round)

def readElement (conf : IeConf) (scan : IeScan) : Reads UInt8 IeRound :=
  if scan.bufSize < 2 then pure scan.failed
  else do
    let ieDesc ← readWord scan.buf.offset
    let scan := scan.advance 2
    match scan.parsingState with
    | .headerIe => readHeaderElement ieDesc scan
    | .payloadIe => readPayloadElement conf ieDesc scan
    | .mlmeSubie => readMlmeElement conf ieDesc scan

def readElements (conf : IeConf) : Nat → IeScan → Reads UInt8 (Option (Int × Ieee802154Ies))
  | 0, _ => pure none
  | rounds + 1, scan =>
    if scan.bufSize = 0 then
      pure (some (scan.buf.offset,
        if scan.parsingState = .headerIe then scan.saveOffset.ies else scan.ies))
    else do
      match ← readElement conf scan with
      | .returned value ies => pure (some (value, ies))
      | .continued scan => readElements conf rounds scan

section found

variable (memory : List UInt8) (p : Nat)

theorem readWord_value (index : Nat) : (readWord (p + index)).value (bytesOf memory) =
    readIe16 (.into memory p) index := by
  simp [readWord, readIe16, bytesOf, Nat.add_assoc]

variable (len : UInt16)

theorem readHeaderIe_value (elementId : UInt8) (ies : Ieee802154Ies) :
    (readHeaderIe p len elementId ies).value (bytesOf memory) =
      parseHeaderIe (.into memory p) len elementId ies := by
  have word := readWord_value memory p 0
  rw [Nat.add_zero] at word
  unfold readHeaderIe parseHeaderIe
  simp only [value_ite, value_bind, value_pure, word]

theorem wordOf_elements (count place index : Nat) (inside : index + 1 < count) :
    wordOf (Vector.ofFn fun index : Fin count => bytesOf memory (place + index)).toList index =
      readIe16 (.into memory place) index := by
  unfold wordOf readIe16
  rw [getD_ofFn_toList, getD_ofFn_toList, dif_pos (by omega), dif_pos inside]
  simp [bytesOf]

theorem readIe16_into (place index : Nat) :
    readIe16 (.into memory (p + place)) index = readIe16 (.into memory p) (place + index) := by
  simp [readIe16, Nat.add_assoc]

theorem readSlotframeLinks_value (numLinks : Nat) (links : Vector TschSlotframeAndLinksLink 4) :
    (readSlotframeLinks p numLinks links).value (bytesOf memory) =
      parseSlotframeLinks (.into memory p) numLinks links := by
  unfold readSlotframeLinks
  rw [value_bind, value_elements, value_pure]
  unfold parseSlotframeLinks
  apply Vector.ext
  intro index inside
  rw [Vector.getElem_ofFn, Vector.getElem_ofFn]
  dsimp only
  split
  next used =>
    rw [wordOf_elements _ _ _ _ (by omega), wordOf_elements _ _ _ _ (by omega), getD_ofFn_toList,
      dif_pos (by omega), readIe16_into, readIe16_into]
    simp [bytesOf, Nat.add_assoc]
  next unused => rfl

theorem readSlotframeAndLink_value (ies : Ieee802154Ies) :
    (readSlotframeAndLink p len ies).value (bytesOf memory) =
      parseSlotframeAndLink (.into memory p) len ies := by
  have byte : ∀ index, bytesOf memory (p + index) = (Cursor.into memory p).peek index := by
    simp [bytesOf]
  have first := byte 0
  rw [Nat.add_zero] at first
  unfold readSlotframeAndLink parseSlotframeAndLink
  simp only [value_ite, value_bind, value_pure, value_element, readWord_value, byte, first,
    readSlotframeLinks_value]

theorem readSynchronization_value (ies : Ieee802154Ies) :
    (readSynchronization p len ies).value (bytesOf memory) =
      parseSynchronization (.into memory p) len ies := by
  unfold readSynchronization parseSynchronization
  simp [bytesOf]

theorem readTimeslot_value (ies : Ieee802154Ies) :
    (readTimeslot p len ies).value (bytesOf memory) = parseTimeslot (.into memory p) len ies := by
  have words : (Vector.ofFn fun index : Fin 12 => wordOf
      (Vector.ofFn fun index : Fin 24 => bytesOf memory (p + 1 + index)).toList (2 * index)) =
        Vector.ofFn fun index => readIe16 (.into memory p) (1 + 2 * index) := by
    apply Vector.ext
    intro index inside
    rw [Vector.getElem_ofFn, Vector.getElem_ofFn]
    rw [wordOf_elements _ _ _ _ (by dsimp only; omega), readIe16_into]
  unfold readTimeslot parseTimeslot
  by_cases known : len = 1 ∨ len = 25
  · rw [if_pos known, if_pos known]
    by_cases explicit : len = 25
    · simp only [explicit, if_true, value_bind, value_pure, value_element, value_elements, words]
      simp [bytesOf]
    · simp [explicit, bytesOf]
  · rw [if_neg known, if_neg known]
    rfl

theorem readMlmeShortIe_value (subId : UInt8) (ies : Ieee802154Ies) :
    (readMlmeShortIe p len subId ies).value (bytesOf memory) =
      parseMlmeShortIe (.into memory p) len subId ies := by
  unfold readMlmeShortIe parseMlmeShortIe
  simp only [value_ite, value_pure, readSlotframeAndLink_value, readSynchronization_value,
    readTimeslot_value]

theorem readMlmeLongIe_value (conf : IeConf) (len : UInt16) (subId : UInt8) (ies : Ieee802154Ies) :
    (readMlmeLongIe conf p len subId ies).value (bytesOf memory) =
      parseMlmeLongIe conf (.into memory p) len subId ies := by
  have copied : ∀ count, (Vector.ofFn fun index : Fin count => bytesOf memory (p + 10 + index)).toList =
      (List.range count).map fun index => (Cursor.into memory p).peek (10 + index) := by
    intro count
    apply List.ext_getElem
    · simp
    · intro index _ _
      simp [bytesOf, Nat.add_assoc]
  unfold readMlmeLongIe parseMlmeLongIe
  by_cases known : subId = mlmeLongIeTschChannelHoppingSequence ∧ len > 0
  · rw [if_pos known, if_pos known]
    by_cases explicit : len > 1
    · simp only [explicit, if_true, value_bind, value_element, value_ite, value_pure, value_elements,
        readWord_value, copied]
      split
      · simp [bytesOf]
      · simp [bytesOf]
    · simp [explicit, bytesOf]
  · rw [if_neg known, if_neg known]
    rfl

theorem readParsed_value (scan : IeScan) (len : UInt16)
    (parser : Reads UInt8 (Option Ieee802154Ies)) :
    (readParsed scan len parser).value (bytesOf memory) =
      scan.parsed len (parser.value (bytesOf memory)) := by
  unfold readParsed
  by_cases long : len.toNat > scan.bufSize.toNat
  · simp [long, IeScan.parsed]
  · simp [long]

end found

def IeScan.Inside (memory : List UInt8) (scan : IeScan) : Prop :=
  scan.buf = .into memory scan.buf.offset

theorem IeScan.Inside.advance {memory : List UInt8} {scan : IeScan} (inside : scan.Inside memory)
    (len : UInt16) : (scan.advance len).Inside memory := by
  change scan.buf.skip len.toNat = .into memory (scan.buf.offset + len.toNat)
  rw [← Cursor.into_skip, ← inside]

section rounds

variable (conf : IeConf) {memory : List UInt8} {scan : IeScan} (ieDesc : UInt16)

section

variable (inside : scan.Inside memory)
include inside

theorem readHeaderElement_value :
    (readHeaderElement ieDesc scan).value (bytesOf memory) = parseHeaderElement ieDesc scan := by
  have parser := readHeaderIe_value memory scan.buf.offset
  rw [← inside] at parser
  unfold readHeaderElement parseHeaderElement
  simp only [value_ite, value_pure, readParsed_value, parser]

theorem readPayloadElement_value : (readPayloadElement conf ieDesc scan).value (bytesOf memory) =
      parsePayloadElement conf ieDesc scan := by
  have subId : bytesOf memory scan.buf.offset = scan.buf.peek 0 := by
    rw [inside, Cursor.into_peek]
    rfl
  unfold readPayloadElement parsePayloadElement
  simp only [value_ite, value_bind, value_pure, value_element, subId]

theorem readMlmeElement_value : (readMlmeElement conf ieDesc scan).value (bytesOf memory) =
      parseMlmeElement conf ieDesc scan := by
  have short := readMlmeShortIe_value memory scan.buf.offset
  have long := readMlmeLongIe_value memory scan.buf.offset conf
  rw [← inside] at short long
  unfold readMlmeElement parseMlmeElement
  simp only [value_ite, value_bind, value_pure, readParsed_value, short, long]

theorem readElement_value :
    (readElement conf scan).value (bytesOf memory) = parseElement conf scan := by
  have word := readWord_value memory scan.buf.offset 0
  rw [Nat.add_zero, ← inside] at word
  have after := inside.advance 2
  unfold readElement parseElement
  by_cases short : scan.bufSize < 2
  · rw [if_pos short, if_pos short]
    rfl
  · rw [if_neg short, if_neg short, value_bind, word]
    dsimp only
    cases (scan.advance 2).parsingState with
    | headerIe => exact readHeaderElement_value _ after
    | payloadIe => exact readPayloadElement_value conf _ after
    | mlmeSubie => exact readMlmeElement_value conf _ after

end

end rounds

end MultiPhyTsch
