import MultiPhyTsch.Frame.Frame802154

/-! The fields of an 802.15.4 header. Each field that `frame802154_create` writes is read back
by the step of `frame802154_parse` at the same place. -/

namespace MultiPhyTsch

variable (conf : LlsecConf)

variable {value : UInt8}

theorem exists_fin {bound : Nat} (small : value.toNat < bound) :
    ∃ index : Fin bound, value = UInt8.ofNat index :=
  ⟨⟨value.toNat, small⟩, by simp⟩

theorem and_one_of_lt (small : value.toNat < 2) : value &&& 1 = value := by
  obtain ⟨index, rfl⟩ := exists_fin small
  revert index
  decide

theorem and_three_of_lt (small : value.toNat < 4) : value &&& 3 = value := by
  obtain ⟨index, rfl⟩ := exists_fin small
  revert index
  decide

theorem eq_zero_or_one (small : value.toNat < 2) : value = 0 ∨ value = 1 := by
  obtain ⟨index, rfl⟩ := exists_fin small
  revert index
  decide

theorem addrMode_cases {mode : UInt8} (small : mode.toNat < 4) :
    mode = noAddr ∨ mode = 1 ∨ mode = shortAddrMode ∨ mode = longAddrMode := by
  obtain ⟨index, rfl⟩ := exists_fin small
  revert index
  decide

theorem fcfByte0_read : ∀ (a : Fin 8) (b c d e : Fin 2),
    let byte := bitField (UInt8.ofNat a) 7 0 ||| bitField (UInt8.ofNat b) 1 3 |||
      bitField (UInt8.ofNat c) 1 4 ||| bitField (UInt8.ofNat d) 1 5 |||
      bitField (UInt8.ofNat e) 1 6
    byte &&& 7 = UInt8.ofNat a ∧ (byte >>> 3) &&& 1 = UInt8.ofNat b ∧
      (byte >>> 4) &&& 1 = UInt8.ofNat c ∧ (byte >>> 5) &&& 1 = UInt8.ofNat d ∧
      (byte >>> 6) &&& 1 = UInt8.ofNat e := by
  decide +kernel

theorem fcfByte1_read : ∀ (a b : Fin 2) (c d e : Fin 4),
    let byte := bitField (UInt8.ofNat a) 1 0 ||| bitField (UInt8.ofNat b) 1 1 |||
      bitField (UInt8.ofNat c) 3 2 ||| bitField (UInt8.ofNat d) 3 4 |||
      bitField (UInt8.ofNat e) 3 6
    byte &&& 1 = UInt8.ofNat a ∧ (byte >>> 1) &&& 1 = UInt8.ofNat b ∧
      (byte >>> 2) &&& 3 = UInt8.ofNat c ∧ (byte >>> 4) &&& 3 = UInt8.ofNat d ∧
      (byte >>> 6) &&& 3 = UInt8.ofNat e := by
  decide +kernel

theorem scfByte_read : ∀ (level : Fin 8) (mode : Fin 4) (suppression size : Fin 2),
    let byte := UInt8.ofNat level ||| (UInt8.ofNat mode <<< 3) |||
      (UInt8.ofNat suppression <<< 5) ||| (UInt8.ofNat size <<< 6)
    byte &&& 7 = UInt8.ofNat level ∧ (byte >>> 3) &&& 3 = UInt8.ofNat mode ∧
      byte >>> 5 = (UInt8.ofNat suppression ||| (UInt8.ofNat size <<< 1)) ∧
      byte >>> 6 = UInt8.ofNat size := by
  decide +kernel

structure Frame802154Fcf.WellFormed (fcf : Frame802154Fcf) : Prop where
  frameType : fcf.frameType.toNat < 8
  securityEnabled : fcf.securityEnabled.toNat < 2
  framePending : fcf.framePending.toNat < 2
  ackRequired : fcf.ackRequired.toNat < 2
  panidCompression : fcf.panidCompression.toNat < 2
  sequenceNumberSuppression : fcf.sequenceNumberSuppression.toNat < 2
  ieListPresent : fcf.ieListPresent.toNat < 2
  destAddrMode : fcf.destAddrMode.toNat < 4
  frameVersion : fcf.frameVersion.toNat < 4
  srcAddrMode : fcf.srcAddrMode.toNat < 4

structure Frame802154Scf.WellFormed (control : Frame802154Scf) : Prop where
  securityLevel : control.securityLevel.toNat < 8
  keyIdMode : control.keyIdMode.toNat < 4
  frameCounterSuppression : control.frameCounterSuppression.toNat < 2
  frameCounterSize : control.frameCounterSize.toNat < 2

structure Frame802154.WellFormed (frame : Frame802154) : Prop where
  fcf : frame.fcf.WellFormed
  securityControl : frame.auxHdr.securityControl.WellFormed

theorem frame802154ParseFcf_create {fcf : Frame802154Fcf} (wellFormed : fcf.WellFormed) :
    ∃ byte0 byte1, frame802154CreateFcf fcf = [byte0, byte1] ∧
      frame802154ParseFcf byte0 byte1 = fcf := by
  obtain ⟨frameType, securityEnabled, framePending, ackRequired, panidCompression,
    sequenceNumberSuppression, ieListPresent, destAddrMode, frameVersion, srcAddrMode⟩ := fcf
  obtain ⟨h0, h1, h2, h3, h4, h5, h6, h7, h8, h9⟩ := wellFormed
  obtain ⟨a, rfl⟩ := exists_fin h0
  obtain ⟨b, rfl⟩ := exists_fin h1
  obtain ⟨c, rfl⟩ := exists_fin h2
  obtain ⟨d, rfl⟩ := exists_fin h3
  obtain ⟨e, rfl⟩ := exists_fin h4
  obtain ⟨f, rfl⟩ := exists_fin h5
  obtain ⟨g, rfl⟩ := exists_fin h6
  obtain ⟨h, rfl⟩ := exists_fin h7
  obtain ⟨i, rfl⟩ := exists_fin h8
  obtain ⟨j, rfl⟩ := exists_fin h9
  refine ⟨_, _, rfl, ?_⟩
  obtain ⟨r0, r1, r2, r3, r4⟩ := fcfByte0_read a b c d e
  obtain ⟨r5, r6, r7, r8, r9⟩ := fcfByte1_read f g h i j
  simp only [frame802154ParseFcf, r0, r1, r2, r3, r4, r5, r6, r7, r8, r9]

variable {frame : Frame802154}

theorem Frame802154.WellFormed.setPanidCompression
    (wellFormed : frame.WellFormed) : (setPanidCompression frame).WellFormed := by
  unfold MultiPhyTsch.setPanidCompression
  split
  · refine ⟨{ wellFormed.fcf with panidCompression := ?_ }, wellFormed.securityControl⟩
    dsimp only
    split <;> decide
  · exact wellFormed

theorem read16_write16 (value : UInt16) : read16 value.toUInt8 (value >>> 8).toUInt8 = value := by
  apply UInt16.toNat_inj.mp
  have bound := value.toNat_lt
  simp [read16, UInt16.toNat_add, UInt16.toNat_shiftLeft, UInt16.toNat_shiftRight]
  simp [Nat.shiftLeft_eq, Nat.shiftRight_eq_div_pow]
  omega

theorem parseAddr_long (addr old : LinkAddr) (offset : Nat) (rest : List UInt8) :
    parseAddr longAddrMode ⟨offset, createAddr 8 addr ++ rest⟩ old = (addr, ⟨offset + 8, rest⟩) := by
  have length : (createAddr 8 addr).length = 8 := by simp [createAddr]
  have bytes : (Vector.ofFn fun index : Fin 8 =>
      (Cursor.mk offset (createAddr 8 addr ++ rest)).peek (7 - index)) = addr := by
    apply Vector.ext
    intro index bound
    have inside : 7 - index < (createAddr 8 addr).length := by omega
    simp only [Vector.getElem_ofFn, Cursor.peek, List.getD_eq_getElem?_getD]
    rw [List.getElem?_append_left inside, List.getElem?_eq_getElem inside]
    have flipped : 8 - 1 - (7 - index) = index := by omega
    simp [createAddr, List.getElem_reverse, flipped]
  unfold parseAddr
  rw [if_neg (by decide), if_pos rfl, bytes]
  simp [Cursor.skip, length]

def SameAddr (mode : UInt8) (sent parsed : LinkAddr) : Prop :=
  parsed.toList.take (addrLen mode) = sent.toList.take (addrLen mode)

theorem parseAddr_short (addr old : LinkAddr) (offset : Nat) (rest : List UInt8) :
    ∃ parsed, parseAddr shortAddrMode ⟨offset, createAddr 2 addr ++ rest⟩ old =
      (parsed, ⟨offset + 2, rest⟩) ∧ SameAddr shortAddrMode addr parsed := by
  rcases addr with ⟨⟨items⟩, size⟩
  match items, size with
  | [low, high, _, _, _, _, _, _], _ => exact ⟨#v[low, high, 0, 0, 0, 0, 0, 0], rfl, rfl⟩

theorem parseAddr_create {mode : UInt8} (small : mode.toNat < 4) (addr old : LinkAddr)
    (offset : Nat) (rest : List UInt8) :
    ∃ parsed, parseAddr mode ⟨offset, createAddr (addrLen mode) addr ++ rest⟩ old =
      (parsed, ⟨offset + addrLen mode, rest⟩) ∧ SameAddr mode addr parsed := by
  rcases addrMode_cases small with rfl | rfl | rfl | rfl
  · exact ⟨old, rfl, rfl⟩
  · exact ⟨old, rfl, rfl⟩
  · exact parseAddr_short addr old offset rest
  · exact ⟨addr, parseAddr_long addr old offset rest, rfl⟩

theorem createAddr_length (mode : UInt8) (addr : LinkAddr) :
    (createAddr (addrLen mode) addr).length = addrLen mode := by
  unfold addrLen
  split
  · simp [createAddr]
  · split <;> simp [createAddr]

structure SameKeyFields (sent parsed : Frame802154AuxHdr) : Prop where
  securityLevel : parsed.securityControl.securityLevel = sent.securityControl.securityLevel
  keyIdMode : conf.usesExplicitKeys →
    parsed.securityControl.keyIdMode = sent.securityControl.keyIdMode
  frameCounter : sent.securityControl.frameCounterSuppression = 0 →
    parsed.frameCounter = sent.frameCounter
  keySource : conf.usesExplicitKeys →
    let count := (sent.securityControl.keyIdMode.toNat - 1) * 4
    parsed.keySource.toList.take count = sent.keySource.toList.take count
  keyIndex : conf.usesExplicitKeys → sent.securityControl.keyIdMode ≠ 0 →
    parsed.keyIndex = sent.keyIndex

def parsedSuppression (control : Frame802154Scf) : UInt8 :=
  control.frameCounterSuppression ||| (control.frameCounterSize <<< 1)

theorem parseSeqno_create (wellFormed : frame.WellFormed)
    (pf : Frame802154) (sameFcf : pf.fcf = frame.fcf) (offset : Nat) (rest : List UInt8) :
    let flen := fieldLen conf frame
    ∃ seq, parseSeqno ⟨offset, createSeqno flen.seqnoLen frame.seq ++ rest⟩ pf =
        ({ pf with seq := seq }, ⟨offset + flen.seqnoLen, rest⟩) ∧
      (frame.fcf.sequenceNumberSuppression = 0 → seq = frame.seq) := by
  have small := and_one_of_lt wellFormed.fcf.sequenceNumberSuppression
  have same : pf.fcf.sequenceNumberSuppression = frame.fcf.sequenceNumberSuppression := by
    rw [sameFcf]
  simp only [parseSeqno, createSeqno, fieldLen, same, small]
  rcases eq_zero_or_one wellFormed.fcf.sequenceNumberSuppression with suppression | suppression
  · exact ⟨frame.seq, by simp [suppression, Cursor.skip, Cursor.peek], fun _ => rfl⟩
  · exact ⟨pf.seq, by simp [suppression], by simp [suppression]⟩

theorem createPid_length (present : Bool) (pid : UInt16) :
    (createPid (if present then 2 else 0) pid).length = if present then 2 else 0 := by
  cases present <;> rfl

theorem parsePid_create (present : Bool) (pid absent : UInt16) (offset : Nat) (rest : List UInt8) :
    (let p : Cursor UInt8 := ⟨offset, createPid (if present then 2 else 0) pid ++ rest⟩
      if present then (read16 (p.peek 0) (p.peek 1), p.skip 2) else (absent, p)) =
    (if present then pid else absent, ⟨offset + (if present then 2 else 0), rest⟩) := by
  cases present with
  | false => rfl
  | true =>
    have value := read16_write16 pid
    simpa [createPid, write16, Cursor.peek, Cursor.skip] using value

theorem parseDest_create (wellFormed : frame.WellFormed)
    (pf : Frame802154) (sameFcf : pf.fcf = frame.fcf)
    (addressed : frame.fcf.destAddrMode = noAddr → hasDestPanid frame.fcf = false)
    (offset : Nat) (rest : List UInt8) : let flen := fieldLen conf frame
    ∃ destAddr,
      parseDest ⟨offset, createPid flen.destPidLen frame.destPid ++
          (createAddr flen.destAddrLen frame.destAddr ++ rest)⟩ pf =
        ({ pf with
            destPid := if hasDestPanid frame.fcf then frame.destPid else 0
            destAddr := destAddr },
          ⟨offset + flen.destPidLen + flen.destAddrLen, rest⟩) ∧
      SameAddr frame.fcf.destAddrMode frame.destAddr destAddr := by
  have mode := and_three_of_lt wellFormed.fcf.destAddrMode
  simp only [fieldLen, mode]
  unfold parseDest
  rw [sameFcf]
  by_cases absent : frame.fcf.destAddrMode = 0
  · have none := addressed absent
    refine ⟨linkaddrNull, ?_, ?_⟩
    · simp [absent, none, createPid, createAddr, addrLen, shortAddrMode, longAddrMode]
    · simp [SameAddr, absent, addrLen, shortAddrMode, longAddrMode]
  · obtain ⟨destAddr, parsed, same⟩ := parseAddr_create wellFormed.fcf.destAddrMode frame.destAddr
      pf.destAddr (offset + if hasDestPanid frame.fcf then 2 else 0) rest
    refine ⟨destAddr, ?_, same⟩
    rw [if_pos absent, parsePid_create]
    simp only [parsed]

theorem hasSrcPanid_noAddr {fcf : Frame802154Fcf} (absent : fcf.srcAddrMode = noAddr) :
    hasSrcPanid fcf = false := by
  simp [hasSrcPanid, absent, noAddr, longAddrMode, shortAddrMode]

theorem parseSrc_create (wellFormed : frame.WellFormed)
    (pf : Frame802154) (sameFcf : pf.fcf = frame.fcf) (offset : Nat) (rest : List UInt8) :
    let flen := fieldLen conf frame
    ∃ srcPid srcAddr,
      parseSrc ⟨offset, createPid flen.srcPidLen frame.srcPid ++
          (createAddr flen.srcAddrLen frame.srcAddr ++ rest)⟩ pf =
        ({ pf with
            srcPid := srcPid
            destPid := if hasSrcPanid frame.fcf ∧ ¬ hasDestPanid frame.fcf then frame.srcPid
              else pf.destPid
            srcAddr := srcAddr },
          ⟨offset + flen.srcPidLen + flen.srcAddrLen, rest⟩) ∧
      (hasSrcPanid frame.fcf → srcPid = frame.srcPid) ∧
      SameAddr frame.fcf.srcAddrMode frame.srcAddr srcAddr := by
  have mode := and_three_of_lt wellFormed.fcf.srcAddrMode
  simp only [fieldLen, mode]
  unfold parseSrc
  rw [sameFcf]
  by_cases absent : frame.fcf.srcAddrMode = 0
  · have none := hasSrcPanid_noAddr absent
    refine ⟨0, linkaddrNull, ?_, by simp [none], ?_⟩
    · simp [absent, none, createPid, createAddr, addrLen, shortAddrMode, longAddrMode]
    · simp [SameAddr, absent, addrLen, shortAddrMode, longAddrMode]
  · obtain ⟨srcAddr, parsed, same⟩ := parseAddr_create wellFormed.fcf.srcAddrMode frame.srcAddr
      pf.srcAddr (offset + if hasSrcPanid frame.fcf then 2 else 0) rest
    refine ⟨if hasSrcPanid frame.fcf then frame.srcPid else pf.destPid, srcAddr, ?_, ?_, same⟩
    · rw [if_pos absent]
      cases present : hasSrcPanid frame.fcf with
      | false =>
        simp only [present, Bool.false_eq_true, if_false, Nat.add_zero] at parsed
        simp [createPid, parsed]
      | true =>
        have value := read16_write16 frame.srcPid
        simp only [present, if_true] at parsed
        cases hasDestPanid frame.fcf <;>
          simp [createPid, write16, Cursor.peek, Cursor.skip, value, parsed]
    · intro present
      rw [if_pos present]

theorem parseScf_create {control : Frame802154Scf} (wellFormed : control.WellFormed)
    (old : Frame802154Scf) :
    parseScf conf (createScf conf control) old =
      { control with
        keyIdMode := if conf.usesExplicitKeys then control.keyIdMode else old.keyIdMode
        frameCounterSuppression := parsedSuppression control } := by
  obtain ⟨level, mode, suppression, size⟩ := control
  obtain ⟨levelSmall, modeSmall, suppressionSmall, sizeSmall⟩ := wellFormed
  obtain ⟨level, rfl⟩ := exists_fin levelSmall
  obtain ⟨mode, rfl⟩ := exists_fin modeSmall
  obtain ⟨suppression, rfl⟩ := exists_fin suppressionSmall
  obtain ⟨size, rfl⟩ := exists_fin sizeSmall
  cases explicit : conf.usesExplicitKeys with
  | true =>
    obtain ⟨levelRead, modeRead, suppressionRead, sizeRead⟩ :=
      scfByte_read level mode suppression size
    simp only [parseScf, createScf, explicit, if_true, Frame802154Scf.mk.injEq]
    exact ⟨levelRead, modeRead, suppressionRead, sizeRead⟩
  | false =>
    obtain ⟨levelRead, -, suppressionRead, sizeRead⟩ := scfByte_read level 0 suppression size
    simp only [parseScf, createScf, explicit, Bool.false_eq_true, if_false,
      Frame802154Scf.mk.injEq, true_and]
    exact ⟨levelRead, suppressionRead, sizeRead⟩

theorem parsedSuppression_eq_zero {control : Frame802154Scf} (wellFormed : control.WellFormed)
    (layout : control.frameCounterSize = 1 → control.frameCounterSuppression ≠ 0) :
    parsedSuppression control = 0 ↔ control.frameCounterSuppression = 0 := by
  unfold parsedSuppression
  rcases eq_zero_or_one wellFormed.frameCounterSize with narrow | wide
  · simp [narrow]
  · have suppressed := (eq_zero_or_one wellFormed.frameCounterSuppression).resolve_left (layout wide)
    simp [wide, suppressed]

theorem parseFrameCounter_create (skipped : UInt8) (sent aux : Frame802154AuxHdr)
    (sameSuppression : aux.securityControl.frameCounterSuppression = 0 ↔
      sent.securityControl.frameCounterSuppression = 0)
    (sameSize : aux.securityControl.frameCounterSize = sent.securityControl.frameCounterSize)
    (offset : Nat) (rest : List UInt8) :
    parseFrameCounter ⟨offset, createFrameCounter skipped sent ++ rest⟩ aux =
      ({ aux with frameCounter :=
          if sent.securityControl.frameCounterSuppression = 0 then sent.frameCounter
          else aux.frameCounter },
        ⟨offset + (createFrameCounter skipped sent).length, rest⟩) := by
  obtain ⟨control, ⟨⟨counter⟩, size⟩, source, index⟩ := sent
  match counter, size with
  | [a, b, c, d], _ =>
    simp only [parseFrameCounter, createFrameCounter, sameSuppression, sameSize]
    by_cases suppression : control.frameCounterSuppression = 0
    · by_cases wide : control.frameCounterSize = 1
      · simp [suppression, wide, Cursor.skip]
        rfl
      · simp [suppression, wide, Cursor.skip]
        rfl
    · simp [suppression]

theorem keySource_read (sent old : Vector UInt8 8) (count : Nat) (bound : count ≤ 8)
    (index : UInt8) (rest : List UInt8) :
    let bytes := sent.toList.take count ++ index :: rest
    (Vector.ofFn fun position : Fin 8 =>
      if position < count then bytes.getD position default else old.get position).toList.take count =
        sent.toList.take count ∧ bytes.getD count default = index := by
  have length : (sent.toList.take count).length = count := by
    simp
    omega
  refine ⟨?_, ?_⟩
  · apply List.ext_getElem
    · simp
    · intro position inParsed inSent
      have below : position < count := by simpa [length] using inSent
      simp [below, List.getD_eq_getElem?_getD, List.getElem?_append_left, length]
  · simp [List.getD_eq_getElem?_getD, length]

theorem parseKeyId_create (sent aux : Frame802154AuxHdr)
    (small : sent.securityControl.keyIdMode.toNat < 4)
    (sameMode : conf.usesExplicitKeys →
      aux.securityControl.keyIdMode = sent.securityControl.keyIdMode)
    (offset : Nat) (rest : List UInt8) :
    ∃ source index, parseKeyId conf ⟨offset, createKeyId conf sent ++ rest⟩ aux =
      ({ aux with keySource := source, keyIndex := index },
        ⟨offset + (createKeyId conf sent).length, rest⟩) ∧
      (conf.usesExplicitKeys →
        let count := (sent.securityControl.keyIdMode.toNat - 1) * 4
        source.toList.take count = sent.keySource.toList.take count) ∧
      (conf.usesExplicitKeys → sent.securityControl.keyIdMode ≠ 0 → index = sent.keyIndex) := by
  cases explicit : conf.usesExplicitKeys with
  | false =>
    refine ⟨aux.keySource, aux.keyIndex, ?_, by simp, by simp⟩
    simp [parseKeyId, createKeyId, explicit]
  | true =>
    have mode := sameMode explicit
    by_cases implicit : sent.securityControl.keyIdMode = 0
    · refine ⟨aux.keySource, aux.keyIndex, ?_, ?_, by simp [implicit]⟩
      · simp [parseKeyId, createKeyId, mode, implicit]
      · simp [implicit]
    · obtain ⟨source, taken⟩ := keySource_read sent.keySource aux.keySource
        ((sent.securityControl.keyIdMode.toNat - 1) * 4) (by omega) sent.keyIndex rest
      refine ⟨_, _, ?_, fun _ => source, fun _ _ => taken⟩
      have length : (sent.keySource.toList.take
          ((sent.securityControl.keyIdMode.toNat - 1) * 4)).length =
            (sent.securityControl.keyIdMode.toNat - 1) * 4 := by
        simp
        omega
      simp [parseKeyId, createKeyId, explicit, mode, implicit, Cursor.skip, Cursor.peek, length,
        List.drop_append]

theorem auxSecLen_ne_zero :
    (auxSecLen conf frame ≠ 0) = (conf.usesAuxHeader && frame.fcf.securityEnabled &&& 1 != 0) := by
  unfold auxSecLen
  cases conf.usesAuxHeader && frame.fcf.securityEnabled &&& 1 != 0
  · simp
  · simp

theorem createKeyId_length {aux : Frame802154AuxHdr}
    (small : aux.securityControl.keyIdMode.toNat < 4) :
    (createKeyId conf aux).length =
      if conf.usesExplicitKeys then getKeyIdLen aux.securityControl.keyIdMode else 0 := by
  unfold createKeyId
  cases conf.usesExplicitKeys with
  | false => rfl
  | true =>
    -- the key ID is a multiple of 4 bytes of key source and the key index
    rcases addrMode_cases small with mode | mode | mode | mode <;>
      simp [mode, getKeyIdLen, noAddr, shortAddrMode, longAddrMode]

theorem createFrameCounter_length (skipped : UInt8) (aux : Frame802154AuxHdr) :
    (createFrameCounter skipped aux).length =
      if aux.securityControl.frameCounterSuppression = 0 then
        if aux.securityControl.frameCounterSize = 1 then 5 else 4 else 0 := by
  unfold createFrameCounter
  split
  · split <;> simp
  · rfl

theorem createAuxHdr_length (skipped : UInt8) (frame : Frame802154)
    (small : frame.auxHdr.securityControl.keyIdMode.toNat < 4) :
    (createAuxHdr conf skipped (auxSecLen conf frame) frame.auxHdr).length =
      auxSecLen conf frame := by
  simp only [createAuxHdr, auxSecLen_ne_zero]
  unfold auxSecLen
  cases conf.usesAuxHeader && frame.fcf.securityEnabled &&& 1 != 0 with
  | false => rfl
  | true =>
    simp only [if_true, createAuxFields, List.length_cons, List.length_append,
      createFrameCounter_length, createKeyId_length conf small]
    omega

theorem parseAuxFields_create (skipped : UInt8) {sent : Frame802154AuxHdr}
    (wellFormed : sent.securityControl.WellFormed)
    (layout : sent.securityControl.frameCounterSize = 1 →
      sent.securityControl.frameCounterSuppression ≠ 0) (old : Frame802154AuxHdr)
    (offset : Nat) (rest : List UInt8) :
    ∃ aux, parseAuxFields conf ⟨offset, createAuxFields conf skipped sent ++ rest⟩ old =
        (aux, ⟨offset + (createAuxFields conf skipped sent).length, rest⟩) ∧
      SameKeyFields conf sent aux ∧
      aux.securityControl.frameCounterSuppression = parsedSuppression sent.securityControl ∧
      aux.securityControl.frameCounterSize = sent.securityControl.frameCounterSize := by
  let mode := if conf.usesExplicitKeys then sent.securityControl.keyIdMode
    else old.securityControl.keyIdMode
  let control : Frame802154Scf := { sent.securityControl with
    keyIdMode := mode
    frameCounterSuppression := parsedSuppression sent.securityControl }
  let counter := if sent.securityControl.frameCounterSuppression = 0 then sent.frameCounter
    else old.frameCounter
  have controlRead : parseScf conf (createScf conf sent.securityControl) old.securityControl =
      control := parseScf_create conf wellFormed old.securityControl
  have counterRead := parseFrameCounter_create skipped sent { old with securityControl := control }
    (parsedSuppression_eq_zero wellFormed layout) rfl (offset + 1) (createKeyId conf sent ++ rest)
  obtain ⟨source, index, keyRead, sameSource, sameIndex⟩ := parseKeyId_create conf sent
    { old with securityControl := control, frameCounter := counter }
    wellFormed.keyIdMode (fun explicit => if_pos explicit)
    (offset + 1 + (createFrameCounter skipped sent).length) rest
  refine ⟨⟨control, counter, source, index⟩, ?_, ?_, rfl, rfl⟩
  · simp only [parseAuxFields, createAuxFields, List.cons_append, List.append_assoc, Cursor.peek,
      Cursor.skip, List.getD_cons_zero, List.drop_succ_cons, List.drop_zero, controlRead,
      counterRead]
    rw [keyRead]
    simp only [List.length_cons, List.length_append, Prod.mk.injEq, Cursor.mk.injEq, true_and,
      and_true]
    omega
  · exact ⟨rfl, fun explicit => if_pos explicit, fun suppressed => if_pos suppressed,
      sameSource, sameIndex⟩

theorem parseAuxHdr_create (skipped : UInt8)
    (wellFormed : frame.WellFormed) (pf : Frame802154) (sameFcf : pf.fcf = frame.fcf)
    (layout : conf.usesAuxHeader → frame.fcf.securityEnabled = 1 →
      frame.auxHdr.securityControl.frameCounterSize = 1 →
        frame.auxHdr.securityControl.frameCounterSuppression ≠ 0)
    (offset : Nat) (rest : List UInt8) : let flen := fieldLen conf frame
    let control := frame.auxHdr.securityControl
    ∃ aux, parseAuxHdr conf
        ⟨offset, createAuxHdr conf skipped flen.auxSecLen frame.auxHdr ++ rest⟩ pf =
        ({ pf with auxHdr := aux }, ⟨offset + flen.auxSecLen, rest⟩) ∧
      (conf.usesAuxHeader → frame.fcf.securityEnabled = 1 →
        SameKeyFields conf frame.auxHdr aux ∧
        aux.securityControl.frameCounterSuppression = parsedSuppression control ∧
        aux.securityControl.frameCounterSize = control.frameCounterSize) := by
  have enabled := and_one_of_lt wellFormed.fcf.securityEnabled
  have same : pf.fcf.securityEnabled = frame.fcf.securityEnabled := by rw [sameFcf]
  have length := createAuxHdr_length conf skipped frame
    wellFormed.securityControl.keyIdMode
  simp only [fieldLen, createAuxHdr, auxSecLen_ne_zero, enabled, parseAuxHdr, same] at length ⊢
  rw [← length]
  by_cases secured : conf.usesAuxHeader = true ∧ frame.fcf.securityEnabled = 1
  · obtain ⟨uses, security⟩ := secured
    obtain ⟨aux, parsed, sameAux⟩ := parseAuxFields_create conf skipped wellFormed.securityControl
      (layout uses security) pf.auxHdr offset rest
    have on : (true && (1 : UInt8) != 0) = true := rfl
    refine ⟨aux, ?_, fun _ _ => sameAux⟩
    simp only [uses, security, on, if_true, parsed]
  · have unsecured : (conf.usesAuxHeader && frame.fcf.securityEnabled != 0) = false := by
      rcases eq_zero_or_one wellFormed.fcf.securityEnabled with off | on
      · simp [off]
      · simpa [on] using secured
    exact ⟨pf.auxHdr, by simp [unsecured], fun aux security => absurd ⟨aux, security⟩ secured⟩

end MultiPhyTsch
