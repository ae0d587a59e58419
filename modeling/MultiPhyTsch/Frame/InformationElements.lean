import MultiPhyTsch.Frame.Frame802154

/-! The information elements of `frame802154e-ie.c`. The callers never pass a null `ies`, so
there is no such check here. -/

namespace MultiPhyTsch

structure IeConf where
  hoppingSequenceMaxLen : Nat
  withSixtop : Bool
deriving DecidableEq, Repr

def headerIeAckNackTimeCorrection : UInt8 := 0x1e
def headerIeListTermination1 : UInt8 := 0x7e
def headerIeListTermination2 : UInt8 := 0x7f
def payloadIeMlme : UInt8 := 1
def payloadIeIetf : UInt8 := 5
def payloadIeListTermination : UInt8 := 0xf
def mlmeShortIeTschSynchronization : UInt8 := 0x1a
def mlmeShortIeTschSlotframeAndLink : UInt8 := 0x1b
def mlmeShortIeTschTimeslot : UInt8 := 0x1c
def mlmeLongIeTschChannelHoppingSequence : UInt8 := 9
def ietfIe6top : UInt8 := 0xc9
def ieMaxLinks : Nat := 4

structure TschSlotframeAndLinksLink where
  timeslot : UInt16
  channelOffset : UInt16
  linkOptions : UInt8
deriving DecidableEq, Repr, Inhabited

structure TschSlotframeAndLinks where
  numSlotframes : UInt8
  slotframeHandle : UInt8
  slotframeSize : UInt16
  numLinks : UInt8
  links : Vector TschSlotframeAndLinksLink 4
deriving DecidableEq, Repr, Inhabited

/-- `struct ieee802154_ies`. The pointer to the 6top IE content is an offset into what was
parsed. -/
structure Ieee802154Ies where
  ieTimeCorrection : Int16
  ieIsNack : Bool
  iePayloadIeOffset : UInt8
  ieMlmeLen : UInt16
  ieAsn : TschAsn
  ieJoinPriority : UInt8
  ieTschTimeslotId : UInt8
  ieTschTimeslot : Vector UInt16 12
  ieTschSlotframeAndLink : TschSlotframeAndLinks
  ieChannelHoppingSequenceId : UInt8
  ieHoppingSequenceLen : UInt16
  ieHoppingSequenceList : List UInt8
  sixtopIeContentPtr : Option Nat
  sixtopIeContentLen : UInt16
deriving DecidableEq, Repr

def iesZero (conf : IeConf) : Ieee802154Ies :=
  { ieTimeCorrection := 0
    ieIsNack := false
    iePayloadIeOffset := 0
    ieMlmeLen := 0
    ieAsn := ⟨0, 0⟩
    ieJoinPriority := 0
    ieTschTimeslotId := 0
    ieTschTimeslot := Vector.replicate 12 0
    ieTschSlotframeAndLink := ⟨0, 0, 0, 0, Vector.replicate 4 ⟨0, 0, 0⟩⟩
    ieChannelHoppingSequenceId := 0
    ieHoppingSequenceLen := 0
    ieHoppingSequenceList := List.replicate conf.hoppingSequenceMaxLen 0
    sixtopIeContentPtr := none
    sixtopIeContentLen := 0 }

def createHeaderIeDescriptor (elementId : UInt8) (ieLen : Nat) : List UInt8 :=
  write16 ((UInt16.ofNat ieLen &&& (0x7f : UInt16)) + (elementId.toUInt16 <<< 7))

def createPayloadIeDescriptor (groupId : UInt8) (ieLen : Nat) : List UInt8 :=
  write16 ((UInt16.ofNat ieLen &&& (0x7ff : UInt16)) + ((groupId.toUInt16 &&& 0xf) <<< 11) + 0x8000)

def createMlmeShortIeDescriptor (subId : UInt8) (ieLen : Nat) : List UInt8 :=
  write16 ((UInt16.ofNat ieLen &&& (0xff : UInt16)) + ((subId.toUInt16 &&& 0x7f) <<< 8))

def createMlmeLongIeDescriptor (subId : UInt8) (ieLen : Nat) : List UInt8 :=
  write16 ((UInt16.ofNat ieLen &&& (0x7ff : UInt16)) + ((subId.toUInt16 &&& 0xf) <<< 11) + 0x8000)

/-! Each `frame80215e_create_ie_…` gives the element it writes, none for -1; `len` is the space
it is given. -/

variable (len : Int)

def createIe (descriptor content : List UInt8) : Option (List UInt8) :=
  if len ≥ 2 + content.length then some (descriptor ++ content) else none

def createIeHeaderAckNackTimeCorrection (ies : Ieee802154Ies) : Option (List UInt8) :=
  let timeSyncField := (ies.ieTimeCorrection.toUInt16 &&& (0x0fff : UInt16)) |||
    (if ies.ieIsNack then 0x8000 else 0)
  createIe len (createHeaderIeDescriptor headerIeAckNackTimeCorrection 2) (write16 timeSyncField)

def createIeHeaderListTermination1 : Option (List UInt8) :=
  createIe len (createHeaderIeDescriptor headerIeListTermination1 0) []

def createIePayloadListTermination : Option (List UInt8) :=
  createIe len (createPayloadIeDescriptor payloadIeListTermination 0) []

def createIeMlme (ies : Ieee802154Ies) : Option (List UInt8) :=
  createIe len (createPayloadIeDescriptor payloadIeMlme ies.ieMlmeLen.toNat) []

def createIeTschSynchronization (ies : Ieee802154Ies) : Option (List UInt8) :=
  let asn := ies.ieAsn
  createIe len (createMlmeShortIeDescriptor mlmeShortIeTschSynchronization 6)
    [asn.ls4b.toUInt8, (asn.ls4b >>> 8).toUInt8, (asn.ls4b >>> 16).toUInt8,
      (asn.ls4b >>> 24).toUInt8, asn.ms1b, ies.ieJoinPriority]

def linkBytes (link : TschSlotframeAndLinksLink) : List UInt8 :=
  write16 link.timeslot ++ write16 link.channelOffset ++ [link.linkOptions]

def slotframeBytes (content : TschSlotframeAndLinks) : List UInt8 :=
  if content.numSlotframes = 1 then
    [content.slotframeHandle] ++ write16 content.slotframeSize ++ [content.numLinks] ++
      (content.links.toList.take content.numLinks.toNat).flatMap linkBytes
  else []

def createIeTschSlotframeAndLink (len : Int) (ies : Ieee802154Ies) : Option (List UInt8) :=
  let content := ies.ieTschSlotframeAndLink
  let ieLen := 1 + content.numSlotframes.toNat * (4 + 5 * content.numLinks.toNat)
  if content.numSlotframes.toNat > 1 || content.numLinks.toNat > ieMaxLinks then none
  else createIe len (createMlmeShortIeDescriptor mlmeShortIeTschSlotframeAndLink ieLen)
    (content.numSlotframes :: slotframeBytes content)

def createIeTschTimeslot (len : Int) (ies : Ieee802154Ies) : Option (List UInt8) :=
  let ieLen := if ies.ieTschTimeslotId = 0 then 1 else 25
  createIe len (createMlmeShortIeDescriptor mlmeShortIeTschTimeslot ieLen)
    (ies.ieTschTimeslotId ::
      if ies.ieTschTimeslotId = 0 then [] else ies.ieTschTimeslot.toList.flatMap write16)

def createIeTschChannelHoppingSequence (conf : IeConf) (len : Int) (ies : Ieee802154Ies) :
    Option (List UInt8) :=
  if ies.ieHoppingSequenceLen.toNat > conf.hoppingSequenceMaxLen then none
  else
    let ieLen := if ies.ieChannelHoppingSequenceId = 0 then 1
      else 12 + ies.ieHoppingSequenceLen.toNat
    createIe len (createMlmeLongIeDescriptor mlmeLongIeTschChannelHoppingSequence ieLen)
      (ies.ieChannelHoppingSequenceId ::
        if ies.ieChannelHoppingSequenceId = 0 then []
        else [0, 0, 0, 0, 0, 0, 0] ++ write16 ies.ieHoppingSequenceLen ++
          ies.ieHoppingSequenceList.take ies.ieHoppingSequenceLen.toNat ++ [0, 0])

variable (buf : Cursor UInt8)

def readIe16 (index : Nat) : UInt16 :=
  (buf.peek index).toUInt16 ||| ((buf.peek (index + 1)).toUInt16 <<< 8)

def parseHeaderIe (len : UInt16) (elementId : UInt8) (ies : Ieee802154Ies) :
    Option Ieee802154Ies :=
  if elementId = headerIeAckNackTimeCorrection ∧ len = 2 then
    let timeSyncField := readIe16 buf 0
    some { ies with
      ieIsNack := timeSyncField &&& 0x8000 != 0
      ieTimeCorrection :=
        (if timeSyncField &&& 0x0800 != 0 then timeSyncField ||| 0xf000
          else timeSyncField &&& 0x0fff).toInt16 }
  else none

def parseSlotframeLinks (numLinks : Nat)
    (links : Vector TschSlotframeAndLinksLink 4) : Vector TschSlotframeAndLinksLink 4 :=
  Vector.ofFn fun index =>
    if index < numLinks then
      ⟨readIe16 buf (5 + index * 5), readIe16 buf (5 + index * 5 + 2), buf.peek (5 + index * 5 + 4)⟩
    else links.get index

def parseSlotframeAndLink (len : UInt16) (ies : Ieee802154Ies) :
    Option Ieee802154Ies :=
  let numSlotframes := buf.peek 0
  let numLinks := buf.peek 4
  if len < 1 then none
  else if numSlotframes = 0 then some ies
  else if numSlotframes.toNat ≤ 1 ∧ numLinks.toNat ≤ ieMaxLinks ∧
      len.toNat = 1 + numSlotframes.toNat * (4 + 5 * numLinks.toNat) then
    some { ies with ieTschSlotframeAndLink :=
      { numSlotframes := numSlotframes
        slotframeHandle := buf.peek 1
        slotframeSize := readIe16 buf 2
        numLinks := numLinks
        links := parseSlotframeLinks buf numLinks.toNat ies.ieTschSlotframeAndLink.links } }
  else none

def parseSynchronization (len : UInt16) (ies : Ieee802154Ies) :
    Option Ieee802154Ies :=
  if len = 6 then
    some { ies with
      ieAsn :=
        { ls4b := (buf.peek 0).toUInt32 ||| ((buf.peek 1).toUInt32 <<< 8) |||
            ((buf.peek 2).toUInt32 <<< 16) ||| ((buf.peek 3).toUInt32 <<< 24)
          ms1b := buf.peek 4 }
      ieJoinPriority := buf.peek 5 }
  else none

def parseTimeslot (len : UInt16) (ies : Ieee802154Ies) :
    Option Ieee802154Ies :=
  if len = 1 ∨ len = 25 then
    some { ies with
      ieTschTimeslotId := buf.peek 0
      ieTschTimeslot :=
        if len = 25 then Vector.ofFn fun index => readIe16 buf (1 + 2 * index)
        else ies.ieTschTimeslot }
  else none

def parseMlmeShortIe (len : UInt16) (subId : UInt8) (ies : Ieee802154Ies) :
    Option Ieee802154Ies :=
  if subId = mlmeShortIeTschSlotframeAndLink then parseSlotframeAndLink buf len ies
  else if subId = mlmeShortIeTschSynchronization then parseSynchronization buf len ies
  else if subId = mlmeShortIeTschTimeslot then parseTimeslot buf len ies
  else none

/-- `frame802154e_parse_mlme_long_ie`, none for -1. The sequence length is stored before it is
compared with the room for the sequence and with the length of the element. -/
def parseMlmeLongIe (conf : IeConf) (buf : Cursor UInt8) (len : UInt16) (subId : UInt8)
    (ies : Ieee802154Ies) : Option Ieee802154Ies :=
  if subId = mlmeLongIeTschChannelHoppingSequence ∧ len > 0 then
    let ies := { ies with ieChannelHoppingSequenceId := buf.peek 0 }
    if len > 1 then
      let sequenceLen := readIe16 buf 8
      some { ies with
        ieHoppingSequenceLen := sequenceLen
        ieHoppingSequenceList :=
          if sequenceLen.toNat ≤ conf.hoppingSequenceMaxLen ∧
              len.toNat = 12 + sequenceLen.toNat then
            (List.range sequenceLen.toNat).map (fun index => buf.peek (10 + index)) ++
              ies.ieHoppingSequenceList.drop sequenceLen.toNat
          else ies.ieHoppingSequenceList }
    else some ies
  else none

inductive IeParsingState where
  | headerIe
  | payloadIe
  | mlmeSubie
deriving DecidableEq, Repr

structure IeScan where
  buf : Cursor UInt8
  bufSize : UInt8
  nestedMlmeLen : Int
  parsingState : IeParsingState
  ies : Ieee802154Ies
deriving DecidableEq, Repr

inductive IeRound where
  | returned (value : Int) (ies : Ieee802154Ies)
  | continued (scan : IeScan)

variable (scan : IeScan)

def IeScan.advance (len : UInt16) : IeScan :=
  { scan with buf := scan.buf.skip len.toNat, bufSize := scan.bufSize - len.toUInt8 }

def IeScan.failed : IeRound := .returned (-1) scan.ies

def IeScan.saveOffset : IeScan :=
  { scan with ies := { scan.ies with iePayloadIeOffset := UInt8.ofNat scan.buf.offset } }

def IeScan.parsed (len : UInt16) (ies : Option Ieee802154Ies) : IeRound :=
  if len.toNat > scan.bufSize.toNat then scan.failed
  else match ies with
    | none => scan.failed
    | some ies => .continued ({ scan with ies := ies }.advance len)

def parseHeaderElement (ieDesc : UInt16) (scan : IeScan) : IeRound :=
  let len := ieDesc &&& 0x7f
  let id := ((ieDesc &&& 0x7f80) >>> 7).toUInt8
  if ieDesc &&& 0x8000 != 0 then scan.failed
  else if id = headerIeListTermination1 then
    if len = 0 then .continued { scan.saveOffset with parsingState := .payloadIe } else scan.failed
  else if id = headerIeListTermination2 then
    if len = 0 then .returned scan.buf.offset scan.saveOffset.ies else scan.failed
  else scan.parsed len (parseHeaderIe scan.buf len id scan.ies)

def parsePayloadElement (conf : IeConf) (ieDesc : UInt16) (scan : IeScan) : IeRound :=
  let len := ieDesc &&& 0x7ff
  let id := ((ieDesc &&& 0x7800) >>> 11).toUInt8
  if ieDesc &&& 0x8000 = 0 then scan.failed
  else if id = payloadIeMlme then
    .continued { scan with parsingState := .mlmeSubie, nestedMlmeLen := len.toNat }
  else if conf.withSixtop && id == payloadIeIetf then
    let ies :=
      if scan.buf.peek 0 = ietfIe6top then
        { scan.ies with
          sixtopIeContentPtr := some (scan.buf.offset + 1)
          sixtopIeContentLen := len - 1 }
      else scan.ies
    .continued ({ scan with ies := ies }.advance len)
  else if id = payloadIeListTermination then
    .returned (if len = 0 then scan.buf.offset else -1) scan.ies
  else scan.failed

def closeSubie (len : UInt16) : IeRound → IeRound
  | .returned value ies => .returned value ies
  | .continued scan =>
    let nested := scan.nestedMlmeLen - (2 + len.toNat)
    if nested < 0 then scan.failed
    else .continued { scan with
      nestedMlmeLen := nested
      parsingState := if nested = 0 then .payloadIe else .mlmeSubie }

def parseMlmeElement (conf : IeConf) (ieDesc : UInt16) (scan : IeScan) : IeRound :=
  if ieDesc &&& 0x8000 = 0 then
    let len := ieDesc &&& 0xff
    let id := ((ieDesc &&& 0x7f00) >>> 8).toUInt8
    closeSubie len (scan.parsed len (parseMlmeShortIe scan.buf len id scan.ies))
  else
    let len := ieDesc &&& 0x7ff
    let id := ((ieDesc &&& 0x7800) >>> 11).toUInt8
    closeSubie len (scan.parsed len (parseMlmeLongIe conf scan.buf len id scan.ies))

def parseElement (conf : IeConf) (scan : IeScan) : IeRound :=
  if scan.bufSize < 2 then scan.failed
  else
    let ieDesc := readIe16 scan.buf 0
    let scan := scan.advance 2
    match scan.parsingState with
    | .headerIe => parseHeaderElement ieDesc scan
    | .payloadIe => parsePayloadElement conf ieDesc scan
    | .mlmeSubie => parseMlmeElement conf ieDesc scan

def parseElements (conf : IeConf) : Nat → IeScan → Int × Ieee802154Ies
  | 0, scan => (-1, scan.ies)
  | rounds + 1, scan =>
    if scan.bufSize = 0 then
      (scan.buf.offset,
        if scan.parsingState = .headerIe then scan.saveOffset.ies else scan.ies)
    else
      match parseElement conf scan with
      | .returned value ies => (value, ies)
      | .continued scan => parseElements conf rounds scan

/-- `frame802154e_parse_information_elements` on the memory that starts at `buf`: what it
returns, and the structure, which it fills also when it fails. -/
def frame802154eParseInformationElements (conf : IeConf) (buf : List UInt8) (bufSize : UInt8)
    (ies : Ieee802154Ies) : Int × Ieee802154Ies :=
  parseElements conf (buf.length + 1)
    ⟨Cursor.start buf, bufSize, 0, .headerIe, { ies with iePayloadIeOffset := 0 }⟩

end MultiPhyTsch
