import MultiPhyTsch.Frame.FramerRoundTrip
import MultiPhyTsch.Frame.MlmeElements
import MultiPhyTsch.Tsch.EackMemory

/-! The enhanced ACK at its receiver. A secured ACK is parsed with its authentication code behind
the information element; the code is not part of what `tsch_packet_create_eack` returns. -/

namespace MultiPhyTsch

open Security

structure EackParsed where
  value : UInt8
  frame : Frame802154
  ies : Ieee802154Ies
  hdrLen : UInt8

variable (conf : PacketConf)

/-- `tsch_packet_parse_eack` byte by byte: on a frame of `bufSize` bytes in a memory that goes on behind it, on
the node with address `nodeAddr` in PAN `panId`. -/
def Eack.tschPacketParseEack (panId : UInt16) (nodeAddr : LinkAddr) (buf : List UInt8) (bufSize : Nat)
    (seqno : UInt8) (frame : Frame802154) (ies : Ieee802154Ies) (hdrLen : UInt8) : EackParsed :=
  let (ret, frame) := frame802154Parse conf.framer.llsec (buf.take bufSize) frame
  if ret < 3 then ⟨0, frame, ies, hdrLen⟩
  else
    let hdrLen := UInt8.ofNat ret
    let currLen := UInt8.ofNat ret
    if seqno ≠ frame.seq then ⟨0, frame, ies, hdrLen⟩
    else if !frame802154CheckDestPanid panId frame then ⟨0, frame, ies, hdrLen⟩
    else
      match frame802154ExtractLinkaddr frame with
      | none => ⟨0, frame, ies, hdrLen⟩
      | some (_, dest) =>
        if dest ≠ nodeAddr ∧ dest ≠ linkaddrNull then ⟨0, frame, ies, hdrLen⟩
        else
          let ies := iesZero conf.ie
          if frame.fcf.ieListPresent ≠ 0 then
            let micLen := if conf.security.isSome then tschSecurityMicLen frame else 0
            if bufSize < currLen.toNat + micLen then ⟨0, frame, ies, hdrLen⟩
            else
              let (value, ies) := frame802154eParseInformationElements conf.ie
                (buf.drop currLen.toNat) (UInt8.ofNat (bufSize - currLen.toNat - micLen)) ies
              if value = -1 then ⟨0, frame, ies, hdrLen⟩
              else ⟨currLen + UInt8.ofNat value.toNat, frame, ies, hdrLen + ies.iePayloadIeOffset⟩
          else ⟨currLen, frame, ies, hdrLen + ies.iePayloadIeOffset⟩

variable (value : UInt16)

theorem toNat_and_0xfff : (value &&& 0x0fff).toNat = value.toNat % 2 ^ 12 := by
  rw [UInt16.toNat_and]
  exact Nat.and_two_pow_sub_one_eq_mod value.toNat 12

theorem toNat_or_0xf000 : (value ||| 0xf000).toNat = value.toNat % 2 ^ 12 + 15 * 2 ^ 12 := by
  have bound := value.toNat_lt
  have split : value.toNat = value.toNat % 2 ^ 12 ||| (value.toNat / 2 ^ 12) <<< 12 := by
    rw [or_shiftLeft 12 (by omega)]
    omega
  have top : ∀ bits < 2 ^ 4, bits <<< 12 ||| 15 <<< 12 = 15 <<< 12 := by decide
  have mask : UInt16.toNat 0xf000 = 15 <<< 12 := rfl
  rw [UInt16.toNat_or, split, Nat.or_assoc, mask, top _ (by omega), or_shiftLeft 12 (by omega)]
  omega

theorem and_bit_ne_zero (index : Nat) (small : index < 16) :
    value &&& UInt16.ofNat (2 ^ index) ≠ 0 ↔ value.toNat / 2 ^ index % 2 = 1 := by
  have mask : (UInt16.ofNat (2 ^ index)).toNat = 2 ^ index := by
    rw [UInt16.toNat_ofNat']
    exact Nat.mod_eq_of_lt (Nat.pow_lt_pow_right (by omega) small)
  rw [ne_eq, ← UInt16.toNat_inj, UInt16.toNat_and, mask, Nat.and_two_pow,
    Nat.testBit_eq_decide_div_mod_eq]
  by_cases odd : value.toNat / 2 ^ index % 2 = 1
  · simp [odd]
  · simp [odd]

theorem int16_toInt_eq (value : Int16) : value.toInt =
    if value.toUInt16.toNat < 2 ^ 15 then (value.toUInt16.toNat : Int)
    else value.toUInt16.toNat - 2 ^ 16 := by
  have bits : value.toInt = value.toBitVec.toInt := rfl
  have same : value.toBitVec.toNat = value.toUInt16.toNat := rfl
  rw [bits, BitVec.toInt_eq_toNat_cond, same]
  split <;> split <;> omega

def timeSyncField (drift : Int16) (nack : Bool) : UInt16 :=
  (drift.toUInt16 &&& (0x0fff : UInt16)) ||| (if nack then 0x8000 else 0)

theorem timeSyncField_toNat (drift : Int16) (nack : Bool) :
    (timeSyncField drift nack).toNat = drift.toUInt16.toNat % 2 ^ 12 + nack.toNat * 2 ^ 15 := by
  have small : drift.toUInt16.toNat % 2 ^ 12 < 2 ^ 15 := by omega
  rw [timeSyncField, UInt16.toNat_or, toNat_and_0xfff, ← or_shiftLeft 15 small]
  cases nack <;> rfl

variable {drift : Int16}

theorem timeSyncField_read (low : -2048 ≤ drift.toInt) (high : drift.toInt ≤ 2047) (nack : Bool) :
    let field := timeSyncField drift nack
    (field &&& 0x8000 != 0) = nack ∧
      (if field &&& 0x0800 != 0 then field ||| 0xf000 else field &&& 0x0fff).toInt16 = drift := by
  intro field
  have value : field.toNat = drift.toUInt16.toNat % 2 ^ 12 + nack.toNat * 2 ^ 15 :=
    timeSyncField_toNat drift nack
  have signed := int16_toInt_eq drift
  have bound := drift.toUInt16.toNat_lt
  have top : field &&& 0x8000 ≠ 0 ↔ field.toNat / 2 ^ 15 % 2 = 1 :=
    and_bit_ne_zero field 15 (by omega)
  have sign : field &&& 0x0800 ≠ 0 ↔ field.toNat / 2 ^ 11 % 2 = 1 :=
    and_bit_ne_zero field 11 (by omega)
  constructor
  · rw [Bool.eq_iff_iff, bne_iff_ne, top, value]
    cases nack
    · simp only [Bool.toNat_false, Bool.false_eq_true, iff_false]
      omega
    · simp only [Bool.toNat_true, iff_true]
      omega
  · have back : drift.toUInt16.toInt16 = drift := rfl
    have one : nack.toNat ≤ 1 := Bool.toNat_le nack
    rw [← back]
    congr 1
    rw [← UInt16.toNat_inj]
    simp only [bne_iff_ne]
    split at signed
    · rw [if_neg (by rw [sign, value]; omega), toNat_and_0xfff, value]
      omega
    · rw [if_pos (by rw [sign, value]; omega), toNat_or_0xf000, value]
      omega

def eackElement (drift : Int16) (nack : Bool) : List UInt8 :=
  createHeaderIeDescriptor headerIeAckNackTimeCorrection 2 ++ write16 (timeSyncField drift nack)

theorem parseHeaderElement_timeCorrection (scan : IeScan) :
    parseHeaderElement 0x0f02 scan =
      scan.parsed 2 (parseHeaderIe scan.buf 2 headerIeAckNackTimeCorrection scan.ies) := by
  have length : (0x0f02 : UInt16) &&& 0x7f = 2 := by decide
  have id : (((0x0f02 : UInt16) &&& 0x7f80) >>> 7).toUInt8 = headerIeAckNackTimeCorrection := by decide
  rw [parseHeaderElement, length, id]
  rw [if_neg (by decide), if_neg (by decide), if_neg (by decide)]

theorem parsed_last (field : UInt16) (behind : List UInt8) (ies parsed : Ieee802154Ies) :
    IeScan.parsed ⟨⟨2, write16 field ++ behind⟩, 2, 0, .headerIe, ies⟩ 2 (some parsed) =
      .continued ⟨⟨4, behind⟩, 0, 0, .headerIe, parsed⟩ := by
  have two : UInt16.toNat 2 = 2 := rfl
  have fits : ¬ 2 > UInt8.toNat 2 := by decide
  have rest : (write16 field ++ behind).drop 2 = behind := rfl
  have left : (2 : UInt8) - UInt16.toUInt8 2 = 0 := by decide
  simp only [IeScan.parsed, two, if_neg fits, IeScan.advance, Cursor.skip, left, rest]

theorem parse_eackElement (ieConf : IeConf) (low : -2048 ≤ drift.toInt)
    (high : drift.toInt ≤ 2047) (nack : Bool) (behind : List UInt8) (ies : Ieee802154Ies) :
    frame802154eParseInformationElements ieConf (eackElement drift nack ++ behind) 4 ies =
      (4, { ies with ieTimeCorrection := drift, ieIsNack := nack, iePayloadIeOffset := 4 }) := by
  obtain ⟨flag, correction⟩ := timeSyncField_read low high nack
  have field : readIe16 ⟨2, write16 (timeSyncField drift nack) ++ behind⟩ 0 =
      timeSyncField drift nack := readIe16_write16 2 _ behind
  have header : parseHeaderIe ⟨2, write16 (timeSyncField drift nack) ++ behind⟩ 2
      headerIeAckNackTimeCorrection { ies with iePayloadIeOffset := 0 } =
      some { ies with ieTimeCorrection := drift, ieIsNack := nack, iePayloadIeOffset := 0 } := by
    rw [parseHeaderIe, if_pos ⟨rfl, rfl⟩, field]
    simp only [flag, correction]
  have round : parseElement ieConf ⟨Cursor.start (eackElement drift nack ++ behind), 4, 0, .headerIe,
      { ies with iePayloadIeOffset := 0 }⟩ = .continued ⟨⟨4, behind⟩, 0, 0, .headerIe,
        { ies with ieTimeCorrection := drift, ieIsNack := nack, iePayloadIeOffset := 0 }⟩ := by
    have descriptor := parseElement_descriptor ieConf 0 0x0f02
      (write16 (timeSyncField drift nack) ++ behind) (by omega : 2 ≤ 4) (by omega) 0 .headerIe
      { ies with iePayloadIeOffset := 0 }
    have bytes : eackElement drift nack = write16 0x0f02 ++ write16 (timeSyncField drift nack) := by
      have written : createHeaderIeDescriptor headerIeAckNackTimeCorrection 2 = write16 0x0f02 := by
        decide
      rw [eackElement, written]
    dsimp only at descriptor
    rw [parseHeaderElement_timeCorrection, header] at descriptor
    rw [bytes]
    exact descriptor.trans (parsed_last _ behind _ _)
  have four : ¬ (4 : UInt8) = 0 := by decide
  have two : (eackElement drift nack ++ behind).length + 1 = behind.length + 3 + 2 := by
    simp only [eackElement, createHeaderIeDescriptor, write16, List.length_append, List.length_cons,
      List.length_nil]
    omega
  rw [frame802154eParseInformationElements, two, parseElements, if_neg four, round]
  rfl

variable (panId : UInt16) (isPanSecured : Bool) (nodeAddr destAddr : LinkAddr) (seqno : UInt8)

theorem eackLevel_lt : (eackLevel conf isPanSecured).toNat < 8 := by
  have zero : (0 : UInt8).toNat < 8 := by decide
  unfold eackLevel
  cases conf.security with
  | none => exact zero
  | some security =>
    cases isPanSecured
    · exact zero
    · exact security.ack.valid

theorem eackLevel_secured (secured : eackLevel conf isPanSecured ≠ 0) :
    conf.security.isSome = true ∧ conf.framer.llsec = securityLlsec := by
  have present : conf.security.isSome = true := by
    unfold eackLevel at secured
    cases security : conf.security with
    | none => simp [security] at secured
    | some security => rfl
  exact ⟨present, conf.explicitKeys present⟩

variable {bit : UInt8}

theorem eackSecurityEnabled_lt (small : bit.toNat < 2) :
    (eackSecurityEnabled conf isPanSecured (eackStack bit)).toNat < 2 := by
  unfold eackSecurityEnabled
  split
  · split
    · decide
    · exact small
  · decide

theorem eackParams_wellFormed (small : bit.toNat < 2) :
    (eackParams conf panId isPanSecured nodeAddr destAddr seqno (eackStack bit)).WellFormed := by
  have zero : (0 : UInt8).toNat < 2 := by decide
  have one : (1 : UInt8).toNat < 2 := by decide
  have ack : ackFrame.toNat < 8 := by decide
  have version : ieee802154of2015.toNat < 4 := by decide
  have mode : ∀ present : Bool, (if present then longAddrMode else noAddr).toNat < 4 := by decide
  constructor
  · rw [eackParams_fcf]
    exact ⟨ack, eackSecurityEnabled_lt conf isPanSecured small, zero, zero, zero, bit_lt _, one,
      mode _, version, mode _⟩
  · cases uses : conf.framer.llsec.usesAuxHeader with
    | true =>
      obtain ⟨level, suppressed, size, explicit⟩ := eackParams_auxHdr conf panId isPanSecured
        nodeAddr destAddr seqno (eackStack bit) uses
      refine ⟨by rw [level]; exact eackLevel_lt conf isPanSecured, ?_, by rw [suppressed]; exact one,
        by rw [size]; exact one⟩
      cases keys : conf.framer.llsec.usesExplicitKeys with
      | true =>
        rw [(explicit keys).1]
        rcases eackbufAttrs_keyIdMode conf isPanSecured seqno with implicit | oneByte
        · rw [implicit]
          decide
        · rw [oneByte]
          decide
      | false =>
        have untouched : (eackParams conf panId isPanSecured nodeAddr destAddr seqno
            (eackStack bit)).auxHdr.securityControl.keyIdMode = 0 := by
          simp only [eackParams, framer802154SetupParams, setupSecurity, uses, keys, if_true]
          cases conf.eackWithDestAddr <;> cases conf.eackWithSrcAddr <;> rfl
        rw [untouched]
        decide
    | false =>
      have untouched : (eackParams conf panId isPanSecured nodeAddr destAddr seqno
          (eackStack bit)).auxHdr.securityControl = ⟨0, 0, 0, 0⟩ := by
        simp only [eackParams, framer802154SetupParams, setupSecurity, uses]
        cases conf.eackWithDestAddr <;> cases conf.eackWithSrcAddr <;> rfl
      rw [untouched]
      exact ⟨by decide, by decide, by decide, by decide⟩

theorem eackParams_layout (params : Frame802154) :
    SameLayout conf.framer.llsec
      (eackParams conf panId isPanSecured nodeAddr destAddr seqno params) := by
  constructor
  · rintro ⟨-, -, -, compressed⟩
    rw [eackParams_fcf] at compressed
    have plain : ¬ (0 : UInt8) = 1 := by decide
    exact plain compressed
  · intro uses _ _
    rw [(eackParams_auxHdr conf panId isPanSecured nodeAddr destAddr seqno params uses).2.1]
    decide

structure EackHeaderRead (parsed : Frame802154) : Prop where
  seq : conf.framer.supprSeqno = false → parsed.seq = seqno
  panid : frame802154CheckDestPanid panId parsed = true
  addressed : ∃ source dest, frame802154ExtractLinkaddr parsed = some (source, dest) ∧
    (dest = destAddr ∨ dest = linkaddrNull)
  elements : parsed.fcf.ieListPresent = 1

theorem extractAddr_long (addr : LinkAddr) : ∃ read, extractAddr longAddrMode addr = some read ∧
    (read = addr ∨ read = linkaddrNull) := by
  by_cases broadcast : frame802154IsBroadcastAddr longAddrMode addr = true
  · exact ⟨linkaddrNull, by simp [extractAddr, broadcast], Or.inr rfl⟩
  · refine ⟨addr, ?_, Or.inl rfl⟩
    have long : ¬ longAddrMode = noAddr := by decide
    have notShort : ¬ longAddrMode = shortAddrMode := by decide
    simp [extractAddr, broadcast, long, notShort]

theorem extractAddr_present (present : Bool) (addr : LinkAddr) : ∃ read,
    extractAddr (if present then longAddrMode else noAddr) addr = some read ∧
      (read = linkaddrNull ∨ present = true ∧ read = addr) := by
  cases present with
  | false => exact ⟨linkaddrNull, rfl, Or.inl rfl⟩
  | true =>
    obtain ⟨read, extracted, own | null⟩ := extractAddr_long addr
    · exact ⟨read, extracted, Or.inr ⟨rfl, own⟩⟩
    · exact ⟨read, extracted, Or.inl null⟩

theorem eackHeader_read {header payload : List UInt8} {parsed : Nat × Frame802154}
    (reads : ReadsBack conf.framer.llsec
      (eackParams conf panId isPanSecured nodeAddr destAddr seqno (eackStack bit)) header payload
      parsed) :
    EackHeaderRead conf panId destAddr seqno parsed.2 := by
  have sentFcf := eackParams_fcf conf panId isPanSecured nodeAddr destAddr seqno (eackStack bit)
  obtain ⟨seq, destPid, -, dest, -⟩ :=
    eackParams_fields conf panId isPanSecured nodeAddr destAddr seqno (eackStack bit)
  have fcf := reads.fcf
  rw [sentFcf] at fcf
  refine ⟨?_, ?_, ?_, by rw [fcf]⟩
  · intro numbered
    rw [reads.seq (by rw [sentFcf, numbered]; rfl), seq]
  · have own : hasDestPanid parsed.2.fcf = true → parsed.2.destPid = panId := by
      intro present
      rw [reads.fcf] at present
      rw [reads.destPid present, destPid]
    cases present : hasDestPanid parsed.2.fcf with
    | false => simp [frame802154CheckDestPanid, present]
    | true => simp [frame802154CheckDestPanid, own present]
  · obtain ⟨source, sourceRead, -⟩ := extractAddr_present conf.eackWithSrcAddr parsed.2.srcAddr
    obtain ⟨read, destRead, destCases⟩ := extractAddr_present conf.eackWithDestAddr parsed.2.destAddr
    refine ⟨source, read, ?_, ?_⟩
    · rw [frame802154ExtractLinkaddr, fcf]
      dsimp only
      rw [sourceRead, destRead]
      rfl
    · rcases destCases with null | ⟨present, own⟩
      · exact Or.inr null
      · refine Or.inl (own.trans ?_)
        have same := reads.destAddr
        rw [sentFcf, dest present] at same
        simp only [SameAddr, present, if_true] at same
        apply Vector.toList_inj.mp
        have eight : addrLen longAddrMode = 8 := rfl
        rw [eight, List.take_of_length_le (by simp), List.take_of_length_le (by simp)] at same
        exact same

def eackMicLen : Nat :=
  if eackLevel conf isPanSecured ≠ 0 then 2 <<< (eackLevel conf isPanSecured &&& 3).toNat else 0

theorem eackHeader_micLen {header payload : List UInt8} {parsed : Nat × Frame802154}
    (clean : conf.security = none ∨ eackLevel conf isPanSecured ≠ 0 ∨ bit = 0)
    (reads : ReadsBack conf.framer.llsec
      (eackParams conf panId isPanSecured nodeAddr destAddr seqno (eackStack bit)) header payload
      parsed) :
    (if conf.security.isSome then tschSecurityMicLen parsed.2 else 0) =
      eackMicLen conf isPanSecured := by
  have sentFcf := eackParams_fcf conf panId isPanSecured nodeAddr destAddr seqno (eackStack bit)
  have fcf := reads.fcf
  rw [sentFcf] at fcf
  by_cases level : eackLevel conf isPanSecured = 0
  · rw [eackMicLen, if_neg (not_not.mpr level)]
    rcases clean with unsecured | secured | zero
    · simp [unsecured]
    · exact absurd level secured
    · have disabled : eackSecurityEnabled conf isPanSecured (eackStack bit) = 0 := by
        simp [eackSecurityEnabled, level, zero, eackStack]
      simp [tschSecurityMicLen, fcf, disabled]
  · obtain ⟨present, llsec⟩ := eackLevel_secured conf isPanSecured level
    have uses : conf.framer.llsec.usesAuxHeader = true := by
      rw [llsec]
      rfl
    have enabled : eackSecurityEnabled conf isPanSecured (eackStack bit) = 1 := by
      simp [eackSecurityEnabled, uses, level]
    have keyFields := reads.auxHdr uses (by rw [sentFcf]; exact enabled)
    have sentLevel := (eackParams_auxHdr conf panId isPanSecured nodeAddr destAddr seqno
      (eackStack bit) uses).1
    rw [eackMicLen, if_pos level, if_pos present, tschSecurityMicLen, fcf]
    dsimp only
    rw [enabled, if_pos (by decide), keyFields.securityLevel, sentLevel]

theorem createEack_stack (bufLen : Int) (drift : Int16) (nack : Bool) (params : Frame802154) :
    tschPacketCreateEack conf panId isPanSecured nodeAddr bufLen destAddr seqno drift nack params =
      tschPacketCreateEack conf panId isPanSecured nodeAddr bufLen destAddr seqno drift nack
        (eackStack (params.fcf.securityEnabled &&& 1)) := by
  apply createEack_eq_of_bit
  unfold eackSecurityEnabled
  split
  · split
    · rfl
    · simp [eackStack, UInt8.and_assoc]
  · rfl

theorem createEack_some {bufLen : Int} {nack : Bool} {params : Frame802154}
    (large : bufLen ≥ plainEackLen conf + auxSecLen conf.framer.llsec
      (eackParams conf panId isPanSecured nodeAddr destAddr seqno params) + 4) :
    tschPacketCreateEack conf panId isPanSecured nodeAddr bufLen destAddr seqno drift nack params =
      some ((frame802154Create conf.framer.llsec 0
        (eackParams conf panId isPanSecured nodeAddr destAddr seqno params)).2 ++
          eackElement drift nack) := by
  rw [tschPacketCreateEack_eq]
  dsimp only
  rw [eackParams_hdrlen, createIeHeaderAckNackTimeCorrection, createIe, if_pos]
  · rfl
  · have two : ∀ value : UInt16, (write16 value).length = 2 := fun _ => rfl
    rw [two]
    push_cast
    omega

theorem eackParams_auxSecLen_le (params : Frame802154) :
    auxSecLen conf.framer.llsec
      (eackParams conf panId isPanSecured nodeAddr destAddr seqno params) ≤ 2 := by
  have key : getKeyIdLen (eackbufAttrs conf isPanSecured seqno).keyIdMode.toUInt8 ≤ 1 := by
    rcases eackbufAttrs_keyIdMode conf isPanSecured seqno with implicit | oneByte
    · rw [implicit]
      decide
    · rw [oneByte]
      decide
  rw [eackParams_auxSecLen]
  split
  · split <;> omega
  · omega

theorem plainEackLen_le : plainEackLen conf ≤ 21 := by
  unfold plainEackLen
  split <;> split <;> split <;> split <;> omega

theorem eackHeader_length (small : bit.toNat < 2) (numbered : conf.framer.supprSeqno = false) :
    let header := (frame802154Create conf.framer.llsec 0
      (eackParams conf panId isPanSecured nodeAddr destAddr seqno (eackStack bit))).2
    3 ≤ header.length ∧ header.length ≤ 23 := by
  intro header
  have wellFormed := eackParams_wellFormed conf panId isPanSecured nodeAddr destAddr seqno small
  have sized : header.length = _ :=
    frame802154Create_length conf.framer.llsec 0 wellFormed.securityControl.keyIdMode
  have auxSmall := eackParams_auxSecLen_le conf panId isPanSecured nodeAddr destAddr seqno
    (eackStack bit)
  have plainSmall := plainEackLen_le conf
  have plainLarge : 3 ≤ plainEackLen conf := by
    simp only [plainEackLen, numbered, Bool.false_eq_true, if_false]
    omega
  rw [eackParams_hdrlen] at sized
  omega

theorem parseEack_read (low : -2048 ≤ drift.toInt)
    (high : drift.toInt ≤ 2047) {nack : Bool} {header mic : List UInt8} {stack read : Frame802154}
    (headerRead : frame802154Parse conf.framer.llsec (header ++ (eackElement drift nack ++ mic)) stack =
      (header.length, read))
    (expected : EackHeaderRead conf panId destAddr seqno read)
    (numbered : conf.framer.supprSeqno = false) (long : 3 ≤ header.length)
    (short : header.length ≤ 23)
    (micSized : (if conf.security.isSome then tschSecurityMicLen read else 0) = mic.length)
    (behind : List UInt8) (stale : Ieee802154Ies) (hdrLen : UInt8) :
    let frame := header ++ eackElement drift nack
    let parsed := Eack.tschPacketParseEack conf panId destAddr (frame ++ (mic ++ behind))
      (frame.length + mic.length) seqno stack stale hdrLen
    parsed.value.toNat = frame.length ∧ parsed.frame = read ∧
      parsed.ies.ieIsNack = nack ∧ parsed.ies.ieTimeCorrection = drift := by
  intro frame parsed
  have elementLength : (eackElement drift nack).length = 4 := rfl
  have frameLength : frame.length = header.length + 4 := by
    simp only [frame, List.length_append, elementLength]
  have front : (frame ++ (mic ++ behind)).take (frame.length + mic.length) =
      header ++ (eackElement drift nack ++ mic) := by
    rw [← List.append_assoc, List.take_left' List.length_append]
    simp [frame]
  have place : (UInt8.ofNat header.length).toNat = header.length := by
    rw [UInt8.toNat_ofNat']
    exact Nat.mod_eq_of_lt (by omega)
  have rest : (frame ++ (mic ++ behind)).drop header.length =
      eackElement drift nack ++ (mic ++ behind) := by
    simp [frame]
  have left : frame.length + mic.length - header.length - mic.length = 4 := by omega
  have enough : ¬ frame.length + mic.length < header.length + mic.length := by omega
  obtain ⟨source, dest, extracted, own⟩ := expected.addressed
  have accepted : ¬ (dest ≠ destAddr ∧ dest ≠ linkaddrNull) := by
    rintro ⟨other, notNull⟩
    exact own.elim other notNull
  have elements : read.fcf.ieListPresent ≠ 0 := by
    rw [expected.elements]
    decide
  have parsedAs : parsed = ⟨UInt8.ofNat header.length + UInt8.ofNat (4 : Int).toNat, read,
      { iesZero conf.ie with ieTimeCorrection := drift, ieIsNack := nack, iePayloadIeOffset := 4 },
      UInt8.ofNat header.length + 4⟩ := by
    simp only [parsed, Eack.tschPacketParseEack, front, headerRead, if_neg (Nat.not_lt.mpr long),
      expected.seq numbered, ne_eq, not_true_eq_false, if_false, expected.panid, Bool.not_true,
      Bool.false_eq_true, extracted]
    rw [if_neg accepted, if_pos elements, place, micSized, if_neg enough, rest, left]
    have scanned := parse_eackElement conf.ie low high nack (mic ++ behind) (iesZero conf.ie)
    have four : UInt8.ofNat 4 = 4 := rfl
    rw [four, scanned]
    rfl
  rw [parsedAs]
  refine ⟨?_, rfl, rfl, rfl⟩
  rw [UInt8.toNat_add, place, frameLength]
  have four : (UInt8.ofNat (4 : Int).toNat).toNat = 4 := rfl
  rw [four]
  omega

/-- The ACK for an unsecured PAN is sent as it is; otherwise its code follows. A sequence number
that the build leaves out of its frames cannot be checked. -/
theorem eack_round_trip {bufLen : Int} {drift : Int16} (nack : Bool) (params : Frame802154)
    (low : -2048 ≤ drift.toInt) (high : drift.toInt ≤ 2047)
    (large : bufLen ≥ plainEackLen conf + 6) (numbered : conf.framer.supprSeqno = false)
    (clean : conf.security = none ∨ eackLevel conf isPanSecured ≠ 0 ∨
      params.fcf.securityEnabled &&& 1 = 0) :
    ∃ frame, tschPacketCreateEack conf panId isPanSecured nodeAddr bufLen destAddr seqno drift nack
        params = some frame ∧
      ∀ (mic behind : List UInt8) (stack : Frame802154) (stale : Ieee802154Ies) (hdrLen : UInt8),
        mic.length = eackMicLen conf isPanSecured →
        let parsed := Eack.tschPacketParseEack conf panId destAddr (frame ++ (mic ++ behind))
          (frame.length + mic.length) seqno stack stale hdrLen
        parsed.value.toNat = frame.length ∧ parsed.frame.seq = seqno ∧
          parsed.ies.ieIsNack = nack ∧ parsed.ies.ieTimeCorrection = drift := by
  have small : (params.fcf.securityEnabled &&& 1).toNat < 2 := and_one_lt _
  rw [createEack_stack]
  generalize params.fcf.securityEnabled &&& 1 = bit at small clean
  have auxSmall := eackParams_auxSecLen_le conf panId isPanSecured nodeAddr destAddr seqno
    (eackStack bit)
  refine ⟨_, createEack_some conf panId isPanSecured nodeAddr destAddr seqno (by omega), ?_⟩
  intro mic behind stack stale hdrLen micSized parsed
  have reads := (frame802154Parse_create conf.framer.llsec 0
    (eackParams_wellFormed conf panId isPanSecured nodeAddr destAddr seqno small)
    (by
      rw [eackParams_setPanidCompression]
      exact eackParams_layout conf panId isPanSecured nodeAddr destAddr seqno (eackStack bit))
    (eackElement drift nack ++ mic) stack).1
  rw [eackParams_setPanidCompression] at reads
  have expected := eackHeader_read conf panId isPanSecured nodeAddr destAddr seqno reads
  have micLen := eackHeader_micLen conf panId isPanSecured nodeAddr destAddr seqno clean reads
  obtain ⟨long, short⟩ :=
    eackHeader_length conf panId isPanSecured nodeAddr destAddr seqno small numbered
  obtain ⟨value, frameEq, nackEq, driftEq⟩ := parseEack_read conf panId destAddr seqno low
    high (Prod.ext reads.length rfl) expected numbered long short (micLen.trans micSized.symm) behind
    stale hdrLen
  exact ⟨value, (congrArg Frame802154.seq frameEq).trans (expected.seq numbered), nackEq, driftEq⟩

theorem eack_round_trip_secured :
    ∃ frame, tschPacketCreateEack securityBuild 0xabcd true linkaddrNull 127
        (Vector.replicate 8 2) 7 (-1500) true (eackStack 1) = some frame ∧
      ∀ (stack : Frame802154) (stale : Ieee802154Ies),
        let parsed := Eack.tschPacketParseEack securityBuild 0xabcd (Vector.replicate 8 2)
          (frame ++ ([1, 2, 3, 4] ++ [])) (frame.length + [1, 2, 3, 4].length) 7 stack stale 0
        parsed.value.toNat = frame.length ∧ parsed.frame.seq = 7 ∧
          parsed.ies.ieIsNack = true ∧ parsed.ies.ieTimeCorrection = -1500 := by
  have level : eackLevel securityBuild true ≠ 0 := by decide
  obtain ⟨frame, created, parses⟩ := eack_round_trip securityBuild 0xabcd true linkaddrNull
    (Vector.replicate 8 2) 7 true (eackStack 1) (by decide : -2048 ≤ (-1500 : Int16).toInt)
    (by decide) (by decide : (127 : Int) ≥ plainEackLen securityBuild + 6) rfl
    (Or.inr (Or.inl level))
  exact ⟨frame, created, fun stack stale => parses [1, 2, 3, 4] [] stack stale 0 rfl⟩

theorem eack_without_code :
    ∃ frame, tschPacketCreateEack securityBuild 0xabcd true linkaddrNull 127
        (Vector.replicate 8 2) 7 (-1500) true (eackStack 0) = some frame ∧
      let parsed := Eack.tschPacketParseEack securityBuild 0xabcd (Vector.replicate 8 2) frame
        frame.length 7 frame802154Zero (iesZero securityBuild.ie) 0
      parsed.value.toNat ≠ frame.length ∧ parsed.ies.ieIsNack ≠ true ∧
        parsed.ies.ieTimeCorrection ≠ -1500 := by
  exact ⟨_, rfl, by decide⟩

end MultiPhyTsch
