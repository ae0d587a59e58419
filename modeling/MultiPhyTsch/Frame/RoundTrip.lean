import MultiPhyTsch.Frame.HeaderFields

/-! Creating and parsing 802.15.4 headers. The parser reads back what the creator wrote, with
two exceptions: the PAN ID of a frame without addresses and the 5-byte frame counter. -/

namespace MultiPhyTsch

variable (conf : LlsecConf)

variable {frame : Frame802154}

theorem frame802154Create_length (skipped : UInt8)
    (small : frame.auxHdr.securityControl.keyIdMode.toNat < 4) :
    (frame802154Create conf skipped frame).2.length = frame802154Hdrlen conf frame := by
  have sameAux : (setPanidCompression frame).auxHdr = frame.auxHdr := by
    unfold setPanidCompression
    split <;> rfl
  have aux := createAuxHdr_length conf skipped (setPanidCompression frame)
    (by rw [sameAux]; exact small)
  simp only [frame802154Create, frame802154Hdrlen, fieldLen, List.length_append,
    createPid_length, createAddr_length] at aux ⊢
  rw [aux]
  simp only [frame802154CreateFcf, createSeqno, List.length_cons, List.length_nil]
  split <;> rfl

/-- A parsed frame agrees with the one its header was created from, but for the format of the
frame counter, and leaves the payload. -/
structure ReadsBack (sent : Frame802154) (header payload : List UInt8)
    (parsed : Nat × Frame802154) : Prop where
  length : parsed.1 = header.length
  fcf : parsed.2.fcf = sent.fcf
  seq : sent.fcf.sequenceNumberSuppression = 0 → parsed.2.seq = sent.seq
  destPid : hasDestPanid sent.fcf → parsed.2.destPid = sent.destPid
  destAddr : SameAddr sent.fcf.destAddrMode sent.destAddr parsed.2.destAddr
  srcPid : hasSrcPanid sent.fcf → parsed.2.srcPid = sent.srcPid
  srcAddr : SameAddr sent.fcf.srcAddrMode sent.srcAddr parsed.2.srcAddr
  auxHdr : conf.usesAuxHeader → sent.fcf.securityEnabled = 1 →
    SameKeyFields conf sent.auxHdr parsed.2.auxHdr
  payloadLen : parsed.2.payloadLen = payload.length
  payload : parsed.2.payload = payload

structure ParsesBack (sent : Frame802154) (header payload : List UInt8)
    (parsed : Nat × Frame802154) : Prop extends ReadsBack conf sent header payload parsed where
  frameCounterSuppression : conf.usesAuxHeader → sent.fcf.securityEnabled = 1 →
    parsed.2.auxHdr.securityControl.frameCounterSuppression =
      sent.auxHdr.securityControl.frameCounterSuppression
  frameCounterSize : conf.usesAuxHeader → sent.fcf.securityEnabled = 1 →
    parsed.2.auxHdr.securityControl.frameCounterSize =
      sent.auxHdr.securityControl.frameCounterSize

structure SameLayout (frame : Frame802154) : Prop where
  addressed : ¬ (frame.fcf.frameVersion = ieee802154of2015 ∧ frame.fcf.destAddrMode = noAddr ∧
    frame.fcf.srcAddrMode = noAddr ∧ frame.fcf.panidCompression = 1)
  wideCounter : conf.usesAuxHeader → frame.fcf.securityEnabled = 1 →
    frame.auxHdr.securityControl.frameCounterSize = 1 →
      frame.auxHdr.securityControl.frameCounterSuppression ≠ 0

structure RoundTrips (frame : Frame802154) : Prop where
  addressed : ¬ (frame.fcf.frameVersion = ieee802154of2015 ∧ frame.fcf.destAddrMode = noAddr ∧
    frame.fcf.srcAddrMode = noAddr ∧ frame.fcf.panidCompression = 1)
  shortCounter : ¬ (conf.usesAuxHeader ∧ frame.fcf.securityEnabled = 1 ∧
    frame.auxHdr.securityControl.frameCounterSize = 1)

theorem hasDestPanid_noAddr {fcf : Frame802154Fcf} (absent : fcf.destAddrMode = noAddr) :
    hasDestPanid fcf = (fcf.frameVersion == ieee802154of2015 && fcf.srcAddrMode == noAddr &&
      fcf.panidCompression == 1) := by
  unfold hasDestPanid
  split
  · simp_all [noAddr, longAddrMode, shortAddrMode]
  · simp_all [noAddr]

theorem RoundTrips.sameLayout (roundTrips : RoundTrips conf frame) : SameLayout conf frame :=
  ⟨roundTrips.addressed, fun uses security wide =>
    absurd ⟨uses, security, wide⟩ roundTrips.shortCounter⟩

theorem SameLayout.noDestPanid (layout : SameLayout conf frame)
    (absent : frame.fcf.destAddrMode = noAddr) : hasDestPanid frame.fcf = false := by
  rw [hasDestPanid_noAddr absent, Bool.eq_false_iff]
  simp only [ne_eq, Bool.and_eq_true, beq_iff_eq]
  rintro ⟨⟨version, unaddressed⟩, compressed⟩
  exact layout.addressed ⟨version, absent, unaddressed, compressed⟩

def parsedDestPid (frame : Frame802154) : UInt16 :=
  if hasSrcPanid frame.fcf ∧ ¬ hasDestPanid frame.fcf then frame.srcPid
  else if hasDestPanid frame.fcf then frame.destPid else 0

theorem frame802154Parse_create (skipped : UInt8)
    (wellFormed : frame.WellFormed) (layout : SameLayout conf (setPanidCompression frame))
    (payload : List UInt8) (pf : Frame802154) : let sent := setPanidCompression frame
    let header := (frame802154Create conf skipped frame).2
    let parsed := frame802154Parse conf (header ++ payload) pf
    ReadsBack conf sent header payload parsed ∧ parsed.2.destPid = parsedDestPid sent ∧
      (conf.usesAuxHeader → sent.fcf.securityEnabled = 1 →
        parsed.2.auxHdr.securityControl.frameCounterSuppression =
          parsedSuppression sent.auxHdr.securityControl ∧
        parsed.2.auxHdr.securityControl.frameCounterSize =
          sent.auxHdr.securityControl.frameCounterSize) := by
  intro sent header parsed
  have sentFormed : sent.WellFormed := wellFormed.setPanidCompression
  obtain ⟨byte0, byte1, fcfBytes, fcfRead⟩ := frame802154ParseFcf_create sentFormed.fcf
  let flen := fieldLen conf sent
  let auxBytes := createAuxHdr conf skipped flen.auxSecLen sent.auxHdr ++ payload
  let srcBytes := createPid flen.srcPidLen sent.srcPid ++
    (createAddr flen.srcAddrLen sent.srcAddr ++ auxBytes)
  let destBytes := createPid flen.destPidLen sent.destPid ++
    (createAddr flen.destAddrLen sent.destAddr ++ srcBytes)
  have headerBytes : header ++ payload =
      byte0 :: byte1 :: (createSeqno flen.seqnoLen sent.seq ++ destBytes) := by
    simp only [header, frame802154Create, List.append_assoc]
    rw [fcfBytes]
    rfl
  have headerLength : 2 + flen.seqnoLen + flen.destPidLen + flen.destAddrLen +
      flen.srcPidLen + flen.srcAddrLen + flen.auxSecLen = header.length := by
    have small : frame.auxHdr.securityControl.keyIdMode.toNat < 4 := wellFormed.securityControl.keyIdMode
    exact (frame802154Create_length conf skipped small).symm
  obtain ⟨seq, seqRead, sameSeq⟩ := parseSeqno_create conf sentFormed
    { pf with fcf := sent.fcf } rfl 2 destBytes
  obtain ⟨destAddr, destRead, sameDest⟩ := parseDest_create conf sentFormed
    { pf with fcf := sent.fcf, seq := seq } rfl layout.noDestPanid (2 + flen.seqnoLen) srcBytes
  let destPid := if hasDestPanid sent.fcf then sent.destPid else 0
  obtain ⟨srcPid, srcAddr, srcRead, sameSrcPid, sameSrc⟩ := parseSrc_create conf sentFormed
    { pf with fcf := sent.fcf, seq := seq, destPid := destPid, destAddr := destAddr }
    rfl (2 + flen.seqnoLen + flen.destPidLen + flen.destAddrLen) auxBytes
  obtain ⟨aux, auxRead, sameAux⟩ := parseAuxHdr_create conf skipped sentFormed
    { pf with
      fcf := sent.fcf, seq := seq, destPid := parsedDestPid sent, destAddr := destAddr
      srcPid := srcPid, srcAddr := srcAddr }
    rfl layout.wideCounter
    (2 + flen.seqnoLen + flen.destPidLen + flen.destAddrLen + flen.srcPidLen + flen.srcAddrLen)
    payload
  have headerRead : parseHeader conf (header ++ payload) pf =
      ({ pf with
        fcf := sent.fcf, seq := seq, destPid := parsedDestPid sent, destAddr := destAddr
        srcPid := srcPid, srcAddr := srcAddr, auxHdr := aux }, ⟨header.length, payload⟩) := by
    rw [headerBytes, ← headerLength]
    simp only [parseHeader, Cursor.start, Cursor.peek, Cursor.skip, List.getD_cons_zero,
      List.getD_cons_succ, List.drop_succ_cons, List.drop_zero, Nat.zero_add, fcfRead]
    rw [seqRead, destRead, srcRead]
    exact auxRead
  have parseEq : parsed = (header.length, { pf with
      fcf := sent.fcf, seq := seq, destPid := parsedDestPid sent, destAddr := destAddr
      srcPid := srcPid, srcAddr := srcAddr, auxHdr := aux
      payload := payload, payloadLen := payload.length }) := by
    have long : ¬ (header ++ payload).length < 2 := by
      rw [headerBytes]
      simp
    simp only [parsed, frame802154Parse, if_neg long, headerRead]
    simp
  rw [parseEq]
  refine ⟨⟨rfl, rfl, sameSeq, ?_, sameDest, sameSrcPid, sameSrc,
    fun uses security => (sameAux uses security).1, rfl, rfl⟩, rfl,
    fun uses security => (sameAux uses security).2⟩
  intro present
  simp [parsedDestPid, present]

theorem parseScf_frameCounterSize (byte : UInt8) (old : Frame802154Scf) :
    (parseScf conf byte old).frameCounterSize =
      (parseScf conf byte old).frameCounterSuppression >>> 1 := by
  obtain ⟨index, rfl⟩ := exists_fin byte.toNat_lt
  revert index
  simp only [parseScf]
  decide +kernel

theorem and_three_lt (value : UInt8) : (value &&& 3).toNat < 4 := by
  have bound := Nat.and_le_right (n := value.toNat) (m := 3)
  simpa using Nat.lt_succ_of_le bound

theorem and_one_lt (value : UInt8) : (value &&& 1).toNat < 2 := by
  have bound := Nat.and_le_right (n := value.toNat) (m := 1)
  simpa using Nat.lt_succ_of_le bound

theorem getKeyIdLen_of_lt {mode : UInt8} (small : mode.toNat < 4) :
    getKeyIdLen mode = if mode = 0 then 0 else (mode.toNat - 1) * 4 + 1 := by
  obtain ⟨index, rfl⟩ := exists_fin small
  revert index
  decide

section

variable (p : Cursor UInt8) (aux : Frame802154AuxHdr)

theorem parseFrameCounter_spec :
    let control := aux.securityControl
    (parseFrameCounter p aux).1.securityControl = control ∧
      (parseFrameCounter p aux).2.offset = p.offset +
        (if control.frameCounterSuppression = 0 then
          if control.frameCounterSize = 1 then 5 else 4 else 0) := by
  simp only [parseFrameCounter]
  split
  · refine ⟨rfl, ?_⟩
    split <;> rfl
  · exact ⟨rfl, rfl⟩

theorem parseKeyId_spec (small : conf.usesExplicitKeys → aux.securityControl.keyIdMode.toNat < 4) :
    (parseKeyId conf p aux).1.securityControl = aux.securityControl ∧
      (parseKeyId conf p aux).2.offset = p.offset +
        (if conf.usesExplicitKeys then getKeyIdLen aux.securityControl.keyIdMode else 0) := by
  unfold parseKeyId
  cases explicit : conf.usesExplicitKeys with
  | false => simp
  | true =>
    rw [if_pos rfl, getKeyIdLen_of_lt (small explicit)]
    by_cases implicit : aux.securityControl.keyIdMode = 0
    · simp [implicit]
    · simp [implicit]

theorem parseAuxFields_spec :
    let parsed := parseAuxFields conf p aux
    let control := parsed.1.securityControl
    parsed.2.offset = p.offset +
      (1 + (if control.frameCounterSuppression = 0 then
          if control.frameCounterSize = 1 then 5 else 4 else 0) +
        (if conf.usesExplicitKeys then getKeyIdLen control.keyIdMode else 0)) ∧
    control.frameCounterSize = control.frameCounterSuppression >>> 1 := by
  intro parsed control
  let read := { aux with securityControl := parseScf conf (p.peek 0) aux.securityControl }
  obtain ⟨counterControl, counterOffset⟩ := parseFrameCounter_spec (p.skip 1) read
  obtain ⟨keyControl, keyOffset⟩ := parseKeyId_spec conf (parseFrameCounter (p.skip 1) read).2
    (parseFrameCounter (p.skip 1) read).1 (by
      intro explicit
      rw [counterControl]
      simpa [read, parseScf, explicit] using and_three_lt (p.peek 0 >>> 3))
  have same : control = read.securityControl := keyControl.trans counterControl
  refine ⟨?_, ?_⟩
  · have total : parsed.2.offset = _ := keyOffset
    rw [total, counterOffset, counterControl, same]
    simp only [Cursor.skip_offset]
    omega
  · rw [same]
    exact parseScf_frameCounterSize conf (p.peek 0) aux.securityControl

end

theorem parseAddr_offset (mode : UInt8) (p : Cursor UInt8) (old : LinkAddr) :
    (parseAddr mode p old).2.offset = p.offset + addrLen mode := by
  unfold parseAddr addrLen
  split
  · rfl
  · split <;> rfl

section

variable (p : Cursor UInt8) (pf : Frame802154)

theorem parseSeqno_spec :
    (parseSeqno p pf).1.fcf = pf.fcf ∧
      (parseSeqno p pf).2.offset =
        p.offset + if pf.fcf.sequenceNumberSuppression = 0 then 1 else 0 := by
  unfold parseSeqno
  split <;> exact ⟨rfl, rfl⟩

theorem parseDest_spec :
    (parseDest p pf).1.fcf = pf.fcf ∧
      (parseDest p pf).2.offset = p.offset +
        if pf.fcf.destAddrMode ≠ 0 then
          (if hasDestPanid pf.fcf then 2 else 0) + addrLen pf.fcf.destAddrMode else 0 := by
  unfold parseDest
  by_cases present : pf.fcf.destAddrMode ≠ 0
  · simp only [if_pos present, parseAddr_offset, true_and]
    cases hasDestPanid pf.fcf with
    | false => simp
    | true =>
      simp only [if_true, Cursor.skip_offset]
      omega
  · simp only [if_neg present]
    exact ⟨trivial, rfl⟩

theorem parseSrc_spec :
    (parseSrc p pf).1.fcf = pf.fcf ∧
      (parseSrc p pf).2.offset = p.offset +
        if pf.fcf.srcAddrMode ≠ 0 then
          (if hasSrcPanid pf.fcf then 2 else 0) + addrLen pf.fcf.srcAddrMode else 0 := by
  unfold parseSrc
  by_cases present : pf.fcf.srcAddrMode ≠ 0
  · simp only [if_pos present, parseAddr_offset, true_and]
    cases hasSrcPanid pf.fcf with
    | false => simp
    | true =>
      simp only [if_true, Cursor.skip_offset]
      omega
  · simp only [if_neg present]
    exact ⟨trivial, rfl⟩

theorem parseAuxHdr_spec (small : pf.fcf.securityEnabled.toNat < 2) :
    let parsed := parseAuxHdr conf p pf
    parsed.1.fcf = pf.fcf ∧ parsed.2.offset = p.offset + auxSecLen conf parsed.1 ∧
      (conf.usesAuxHeader → pf.fcf.securityEnabled = 1 →
        parsed.1.auxHdr.securityControl.frameCounterSize =
          parsed.1.auxHdr.securityControl.frameCounterSuppression >>> 1) := by
  intro parsed
  obtain ⟨offset, size⟩ := parseAuxFields_spec conf p pf.auxHdr
  have enabled := and_one_of_lt small
  cases secured : conf.usesAuxHeader && pf.fcf.securityEnabled != 0 with
  | false =>
    have unchanged : parsed = (pf, p) := by simp [parsed, parseAuxHdr, secured]
    rw [unchanged]
    refine ⟨rfl, ?_, ?_⟩
    · simp [auxSecLen, enabled, secured]
    · intro uses security
      simp [uses, security] at secured
  | true =>
    have read : parsed = ({ pf with auxHdr := (parseAuxFields conf p pf.auxHdr).1 },
        (parseAuxFields conf p pf.auxHdr).2) := by simp [parsed, parseAuxHdr, secured]
    rw [read]
    refine ⟨rfl, ?_, fun _ _ => size⟩
    simp only [auxSecLen, enabled, secured, if_true]
    exact offset

end

def parsedHdrlen (frame : Frame802154) : Nat :=
  2 + (if frame.fcf.sequenceNumberSuppression = 0 then 1 else 0) +
    (if frame.fcf.destAddrMode ≠ 0 then
      (if hasDestPanid frame.fcf then 2 else 0) + addrLen frame.fcf.destAddrMode else 0) +
    (if frame.fcf.srcAddrMode ≠ 0 then
      (if hasSrcPanid frame.fcf then 2 else 0) + addrLen frame.fcf.srcAddrMode else 0) +
    auxSecLen conf frame

theorem parseHeader_spec (data : List UInt8) (pf : Frame802154) :
    let parsed := parseHeader conf data pf
    parsed.1.fcf = frame802154ParseFcf (data.getD 0 default) (data.getD 1 default) ∧
    parsed.2.offset = parsedHdrlen conf parsed.1 ∧
      (conf.usesAuxHeader → parsed.1.fcf.securityEnabled = 1 →
        parsed.1.auxHdr.securityControl.frameCounterSize =
          parsed.1.auxHdr.securityControl.frameCounterSuppression >>> 1) := by
  let p := Cursor.start data
  let opened := { pf with fcf := frame802154ParseFcf (p.peek 0) (p.peek 1) }
  have headerEq : parseHeader conf data pf =
      (let seq := parseSeqno (p.skip 2) opened
       let dest := parseDest seq.2 seq.1
       let src := parseSrc dest.2 dest.1
       parseAuxHdr conf src.2 src.1) := rfl
  rw [headerEq]
  dsimp only
  obtain ⟨seqFcf, seqOffset⟩ := parseSeqno_spec (p.skip 2) opened
  generalize parseSeqno (p.skip 2) opened = seq at seqFcf seqOffset ⊢
  obtain ⟨destFcf, destOffset⟩ := parseDest_spec seq.2 seq.1
  generalize parseDest seq.2 seq.1 = dest at destFcf destOffset ⊢
  obtain ⟨srcFcf, srcOffset⟩ := parseSrc_spec dest.2 dest.1
  generalize parseSrc dest.2 dest.1 = src at srcFcf srcOffset ⊢
  have srcSame : src.1.fcf = opened.fcf := srcFcf.trans (destFcf.trans seqFcf)
  obtain ⟨auxFcf, auxOffset, counter⟩ := parseAuxHdr_spec conf src.2 src.1 (by
    rw [srcSame]
    exact and_one_lt (p.peek 0 >>> 3))
  generalize parseAuxHdr conf src.2 src.1 = parsed at auxFcf auxOffset counter ⊢
  have same : parsed.1.fcf = frame802154ParseFcf (p.peek 0) (p.peek 1) := auxFcf.trans srcSame
  refine ⟨same, ?_, ?_⟩
  · simp only [parsedHdrlen, same]
    rw [auxOffset, srcOffset, destFcf, seqFcf, destOffset, seqFcf, seqOffset]
    rfl
  · intro uses security
    exact counter uses (by rw [← auxFcf]; exact security)

theorem parseAuxHdr_keeps (p : Cursor UInt8) (pf : Frame802154) :
    (parseAuxHdr conf p pf).1.fcf = pf.fcf ∧ (parseAuxHdr conf p pf).1.srcAddr = pf.srcAddr := by
  unfold parseAuxHdr
  split <;> exact ⟨rfl, rfl⟩

theorem parseHeader_noSrc (data : List UInt8) (pf : Frame802154)
    (absent : (parseHeader conf data pf).1.fcf.srcAddrMode = noAddr) :
    (parseHeader conf data pf).1.srcAddr = linkaddrNull := by
  simp only [parseHeader, parseAuxHdr_keeps, parseSrc_spec] at absent ⊢
  generalize parseDest _ _ = dest at absent ⊢
  simp [parseSrc, absent, noAddr]

theorem frame802154Parse_noSrc {data : List UInt8} {pf parsed : Frame802154} {length : Nat}
    (parse : frame802154Parse conf data pf = (length, parsed)) (positive : length ≠ 0)
    (absent : parsed.fcf.srcAddrMode = noAddr) : parsed.srcAddr = linkaddrNull := by
  unfold frame802154Parse at parse
  split at parse
  · exact absurd (congrArg Prod.fst parse).symm positive
  · have same := congrArg Prod.snd parse
    dsimp only at same
    rw [← same] at absent ⊢
    exact parseHeader_noSrc conf data pf absent

theorem auxSecLen_congr (sent parsed : Frame802154) (sameFcf : parsed.fcf = sent.fcf)
    (same : conf.usesAuxHeader → sent.fcf.securityEnabled = 1 →
      SameKeyFields conf sent.auxHdr parsed.auxHdr)
    (sameSuppression : conf.usesAuxHeader → sent.fcf.securityEnabled = 1 →
      parsed.auxHdr.securityControl.frameCounterSuppression =
        sent.auxHdr.securityControl.frameCounterSuppression)
    (sameSize : conf.usesAuxHeader → sent.fcf.securityEnabled = 1 →
      parsed.auxHdr.securityControl.frameCounterSize =
        sent.auxHdr.securityControl.frameCounterSize)
    (small : sent.fcf.securityEnabled.toNat < 2) :
    auxSecLen conf parsed = auxSecLen conf sent := by
  unfold auxSecLen
  rw [sameFcf]
  cases uses : conf.usesAuxHeader with
  | false => rfl
  | true =>
    rcases eq_zero_or_one small with off | on
    · simp [off]
    · simp only [sameSuppression uses on, sameSize uses on]
      cases explicit : conf.usesExplicitKeys with
      | false => rfl
      | true => rw [(same uses on).keyIdMode explicit]

theorem setPanidCompression_version (frame : Frame802154) :
    (setPanidCompression frame).fcf.frameVersion = frame.fcf.frameVersion := by
  unfold setPanidCompression
  split <;> rfl

theorem setPanidCompression_of_2015
    (version : frame.fcf.frameVersion = ieee802154of2015) : setPanidCompression frame = frame := by
  unfold setPanidCompression
  rw [if_neg]
  rw [version]
  decide

theorem RoundTrips.setPanidCompression (roundTrips : RoundTrips conf frame) :
    RoundTrips conf (setPanidCompression frame) := by
  constructor
  · rintro ⟨version, rest⟩
    rw [setPanidCompression_version] at version
    rw [setPanidCompression_of_2015 version] at rest
    exact roundTrips.addressed ⟨version, rest⟩
  · have same : (MultiPhyTsch.setPanidCompression frame).auxHdr = frame.auxHdr ∧
        (MultiPhyTsch.setPanidCompression frame).fcf.securityEnabled =
          frame.fcf.securityEnabled := by
      unfold MultiPhyTsch.setPanidCompression
      split <;> exact ⟨rfl, rfl⟩
    rw [same.1, same.2]
    exact roundTrips.shortCounter

theorem roundTrips_of_parsesBack (skipped : UInt8)
    (wellFormed : frame.WellFormed) {payload : List UInt8} {pf : Frame802154}
    (back : ParsesBack conf (setPanidCompression frame) (frame802154Create conf skipped frame).2
      payload (frame802154Parse conf ((frame802154Create conf skipped frame).2 ++ payload) pf)) :
    RoundTrips conf frame := by
  let header := (frame802154Create conf skipped frame).2
  let read := parseHeader conf (header ++ payload) pf
  have sentFormed := wellFormed.setPanidCompression
  have headerLength : header.length = frame802154Hdrlen conf frame :=
    frame802154Create_length conf skipped wellFormed.securityControl.keyIdMode
  have long : ¬ (header ++ payload).length < 2 := by
    rw [List.length_append, headerLength, frame802154Hdrlen]
    omega
  obtain ⟨-, offset, size⟩ := parseHeader_spec conf (header ++ payload) pf
  have parsed : frame802154Parse conf (header ++ payload) pf =
      (if read.2.offset > (header ++ payload).length then 0 else read.2.offset,
        { read.1 with
          payload := read.2.rest
          payloadLen := (header ++ payload).length - read.2.offset }) := by
    simp only [frame802154Parse, if_neg long, read]
  obtain ⟨⟨length, fcf, -, -, -, -, -, aux, -, -⟩, suppression, sameSize⟩ := parsed ▸ back
  dsimp only at length fcf aux suppression sameSize
  change _ = header.length at length
  have sameLength : read.2.offset = frame802154Hdrlen conf frame := by
    have atLeast : 2 ≤ frame802154Hdrlen conf frame := by
      rw [frame802154Hdrlen]
      omega
    rw [← headerLength] at atLeast ⊢
    split at length
    · exact absurd length (by omega)
    · exact length
  constructor
  · rintro ⟨version, dest, src, compressed⟩
    rw [setPanidCompression_of_2015 version] at fcf aux suppression sameSize
    have sameAux := auxSecLen_congr conf frame read.1 fcf aux suppression sameSize
      wellFormed.fcf.securityEnabled
    have present : hasDestPanid frame.fcf = true := by
      simp [hasDestPanid_noAddr dest, version, src, compressed]
    have numbered := and_one_of_lt wellFormed.fcf.sequenceNumberSuppression
    rw [offset, parsedHdrlen, frame802154Hdrlen, setPanidCompression_of_2015 version] at sameLength
    rw [sameAux, fcf] at sameLength
    simp only [fieldLen, dest, src, present, numbered, noAddr, hasSrcPanid_noAddr src,
      addrLen] at sameLength
    simp [shortAddrMode, longAddrMode] at sameLength
  · rintro ⟨uses, security, wide⟩
    have sameControl : (setPanidCompression frame).auxHdr = frame.auxHdr ∧
        (setPanidCompression frame).fcf.securityEnabled = frame.fcf.securityEnabled := by
      unfold setPanidCompression
      split <;> exact ⟨rfl, rfl⟩
    have secured := sameControl.2.trans security
    have halved := size uses (by rw [fcf]; exact secured)
    rw [suppression uses secured, sameSize uses secured, sameControl.1, wide] at halved
    rcases eq_zero_or_one wellFormed.securityControl.frameCounterSuppression with off | on
    · rw [off] at halved
      exact absurd halved (by decide)
    · rw [on] at halved
      exact absurd halved (by decide)

/-- The parser gives back what the creator was given, unless the frame is a 2015 one that
carries a PAN ID but no address, or it is secured with a 5-byte frame counter. -/
theorem frame802154_round_trip_iff (skipped : UInt8) {frame : Frame802154}
    (wellFormed : frame.WellFormed) (payload : List UInt8) (pf : Frame802154) :
    let created := frame802154Create conf skipped frame
    ParsesBack conf created.1 created.2 payload
      (frame802154Parse conf (created.2 ++ payload) pf) ↔ RoundTrips conf frame := by
  intro created
  constructor
  · intro back
    exact roundTrips_of_parsesBack conf skipped wellFormed back
  · intro roundTrips
    have sentRoundTrips := roundTrips.setPanidCompression
    obtain ⟨reads, -, counter⟩ := frame802154Parse_create conf skipped wellFormed
      sentRoundTrips.sameLayout payload pf
    refine ⟨reads, fun uses security => ?_, fun uses security => (counter uses security).2⟩
    have narrow := (eq_zero_or_one
      wellFormed.setPanidCompression.securityControl.frameCounterSize).resolve_right
        (fun wide => sentRoundTrips.shortCounter ⟨uses, security, wide⟩)
    rw [(counter uses security).1, parsedSuppression, narrow]
    exact UInt8.or_zero

def securedDataFrame : Frame802154 :=
  { (default : Frame802154) with
    destAddr := Vector.replicate 8 1
    srcAddr := Vector.replicate 8 2
    fcf := ⟨dataFrame, 1, 0, 1, 1, 0, 0, longAddrMode, ieee802154of2015, longAddrMode⟩
    seq := 7
    auxHdr := ⟨⟨5, 1, 1, 0⟩, Vector.replicate 4 0, Vector.replicate 8 0, 1⟩ }

theorem securedDataFrame_wellFormed : securedDataFrame.WellFormed :=
  ⟨⟨by decide, by decide, by decide, by decide, by decide, by decide, by decide, by decide,
    by decide, by decide⟩, ⟨by decide, by decide, by decide, by decide⟩⟩

theorem securedDataFrame_round_trip :
    ParsesBack ⟨true, true⟩ securedDataFrame (frame802154Create ⟨true, true⟩ 0 securedDataFrame).2
      [1, 2, 3] (frame802154Parse ⟨true, true⟩
        ((frame802154Create ⟨true, true⟩ 0 securedDataFrame).2 ++ [1, 2, 3]) default) :=
  (frame802154_round_trip_iff ⟨true, true⟩ 0 securedDataFrame_wellFormed [1, 2, 3] default).mpr
    ⟨by decide, by decide⟩

def unaddressedFrame : Frame802154 :=
  { (default : Frame802154) with
    fcf := ⟨dataFrame, 0, 0, 0, 1, 0, 0, noAddr, ieee802154of2015, noAddr⟩
    seq := 7
    destPid := 0xabcd }

theorem unaddressedFrame_not_round_trip :
    let created := frame802154Create ⟨false, false⟩ 0 unaddressedFrame
    let parsed := frame802154Parse ⟨false, false⟩ (created.2 ++ [1, 2, 3]) default
    unaddressedFrame.WellFormed ∧ created.2 = [0x41, 0x20, 7, 0xcd, 0xab] ∧ parsed.1 = 3 ∧
      parsed.2.payload = [0xcd, 0xab, 1, 2, 3] ∧
      ¬ ParsesBack ⟨false, false⟩ created.1 created.2 [1, 2, 3] parsed := by
  refine ⟨?_, by decide, by decide, by decide, ?_⟩
  · exact ⟨⟨by decide, by decide, by decide, by decide, by decide, by decide, by decide,
      by decide, by decide, by decide⟩, ⟨by decide, by decide, by decide, by decide⟩⟩
  · intro back
    exact absurd back.length (by decide)

end MultiPhyTsch
