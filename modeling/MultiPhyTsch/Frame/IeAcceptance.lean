import MultiPhyTsch.Frame.IeGrammar

/-! What the parser does at a place of the list: it goes on behind a complete element, and it
stops where the list is well formed or not, but for the faulty places. -/

namespace MultiPhyTsch

variable (conf : IeConf)

def placeScan (offset : Nat) (place : IePlace) (behind : List UInt8) (ies : Ieee802154Ies) : IeScan :=
  ⟨⟨offset, place.rest ++ behind⟩, UInt8.ofNat place.rest.length, place.nested, place.state, ies⟩

def openedScan (offset nested : Nat) (state : IeParsingState) (tail behind : List UInt8)
    (ies : Ieee802154Ies) : IeScan :=
  ⟨⟨offset + 2, tail ++ behind⟩, UInt8.ofNat tail.length, nested, state, ies⟩

variable {offset nested : Nat} {state : IeParsingState} {desc : UInt16} {tail content rest behind : List UInt8}
  {ies : Ieee802154Ies}

theorem parseElement_opened (short : 2 + tail.length < 256) :
    parseElement conf (placeScan offset ⟨state, nested, write16 desc ++ tail⟩ behind ies) =
      match state with
      | .headerIe => parseHeaderElement desc (openedScan offset nested .headerIe tail behind ies)
      | .payloadIe => parsePayloadElement conf desc (openedScan offset nested .payloadIe tail behind ies)
      | .mlmeSubie => parseMlmeElement conf desc (openedScan offset nested .mlmeSubie tail behind ies) := by
  have length : (write16 desc ++ tail).length = 2 + tail.length := by
    rw [List.length_append, write16_length]
  have left : 2 + tail.length - 2 = tail.length := by omega
  rw [placeScan, List.append_assoc, length,
    parseElement_descriptor conf offset desc (tail ++ behind) (by omega) short nested state ies, left]
  cases state <;> rfl

theorem openedScan_size (short : 2 + tail.length < 256) :
    (openedScan offset nested state tail behind ies).bufSize.toNat = tail.length := by
  rw [openedScan, UInt8.toNat_ofNat']
  exact Nat.mod_eq_of_lt (by omega)

variable {len : UInt16}

theorem advance_openedScan (sized : len.toNat = content.length) :
    (openedScan offset nested state (content ++ rest) behind ies).advance len =
      placeScan (offset + 2 + content.length) ⟨state, nested, rest⟩ behind ies := by
  have size : UInt8.ofNat (content ++ rest).length - len.toUInt8 = UInt8.ofNat rest.length := by
    have byte : len.toUInt8 = UInt8.ofNat content.length := by
      apply UInt8.toNat_inj.mp
      rw [UInt16.toNat_toUInt8, sized, UInt8.toNat_ofNat']
    rw [List.length_append, UInt8.ofNat_add, byte]
    grind
  have skipped : (content ++ rest ++ behind).drop content.length = rest ++ behind := by
    rw [List.append_assoc, List.drop_left]
  simp only [IeScan.advance, openedScan, placeScan, Cursor.skip, sized, size, skipped]

theorem parseHeaderIe_isSome (buf : Cursor UInt8) (len : UInt16) (elementId : UInt8) :
    (parseHeaderIe buf len elementId ies).isSome ↔
      elementId = headerIeAckNackTimeCorrection ∧ len = 2 := by
  rw [parseHeaderIe, Option.isSome_ite]

theorem peek_content {index : Nat} (inside : index < content.length) :
    Cursor.peek ⟨offset, content ++ rest⟩ index = content.getD index 0 :=
  List.getD_append _ _ _ _ inside

theorem parseSlotframeAndLink_isSome (sized : len.toNat = content.length) :
    (parseSlotframeAndLink ⟨offset, content ++ rest⟩ len ies).isSome ↔ SlotframeContent content := by
  have short : len < 1 ↔ content.length < 1 := by
    rw [UInt16.lt_iff_toNat_lt, sized]
    rfl
  rw [parseSlotframeAndLink, SlotframeContent]
  split
  next empty =>
    rw [short] at empty
    exact iff_of_false Bool.false_ne_true (by omega)
  next filled =>
    have long : 1 ≤ content.length := by
      rw [short] at filled
      omega
    split
    next unused =>
      rw [peek_content (by omega)] at unused
      exact iff_of_true rfl ⟨long, .inl unused⟩
    next used =>
      rw [peek_content (by omega)] at used
      split
      next known =>
        obtain ⟨single, most, size⟩ := known
        rw [peek_content (by omega)] at single size
        have one : content.getD 0 0 = 1 := by
          have positive : (content.getD 0 0).toNat ≠ 0 := fun zero => used (UInt8.toNat_inj.mp zero)
          apply UInt8.toNat_inj.mp
          change _ = 1
          omega
        rw [one, sized] at size
        change content.length = 1 + 1 * _ at size
        rw [peek_content (by omega)] at most size
        exact iff_of_true rfl ⟨long, .inr ⟨one, most, by omega⟩⟩
      next unknown =>
        refine iff_of_false Bool.false_ne_true ?_
        rintro ⟨-, zero | ⟨one, most, size⟩⟩
        · exact used zero
        · apply unknown
          rw [peek_content (by omega), peek_content (by omega), one, sized]
          refine ⟨Nat.le_refl 1, most, ?_⟩
          change _ = 1 + 1 * _
          omega

def subIeLen (desc : UInt16) : UInt16 :=
  if desc &&& 0x8000 = 0 then desc &&& 0xff else desc &&& 0x7ff

def parseSubIe (buf : Cursor UInt8) (desc : UInt16) (ies : Ieee802154Ies) : Option Ieee802154Ies :=
  if desc &&& 0x8000 = 0 then
    parseMlmeShortIe buf (subIeLen desc) ((desc &&& 0x7f00) >>> 8).toUInt8 ies
  else parseMlmeLongIe conf buf (subIeLen desc) ((desc &&& 0x7800) >>> 11).toUInt8 ies

theorem parseMlmeElement_subIe (scan : IeScan) :
    parseMlmeElement conf desc scan =
      closeSubie (subIeLen desc) (scan.parsed (subIeLen desc) (parseSubIe conf scan.buf desc scan.ies)) := by
  rw [parseMlmeElement, parseSubIe, subIeLen]
  split
  next => rfl
  next => rfl

theorem SubIe.announced (subIe : SubIe desc content) : (subIeLen desc).toNat = content.length := by
  rw [subIeLen]
  rcases subIe with ⟨⟨type, -, len⟩, -⟩ | ⟨⟨type, -, len⟩, -⟩ | ⟨⟨type, -, len⟩, -⟩ | ⟨⟨type, -, len⟩, -⟩
  · rw [if_pos type, len]
  · rw [if_pos type, len]
  · rw [if_pos type, len]
  · rw [if_neg type, len]

theorem parseMlmeShortIe_isSome (sized : len.toNat = content.length) (subId : UInt8) :
    (parseMlmeShortIe ⟨offset, content ++ rest⟩ len subId ies).isSome ↔
      subId = mlmeShortIeTschSlotframeAndLink ∧ SlotframeContent content ∨
      subId = mlmeShortIeTschSynchronization ∧ content.length = 6 ∨
      subId = mlmeShortIeTschTimeslot ∧ (content.length = 1 ∨ content.length = 25) := by
  have lengths : ∀ value : UInt16, len = value ↔ content.length = value.toNat := by
    intro value
    rw [← sized]
    exact UInt16.toNat_inj.symm
  rw [parseMlmeShortIe]
  by_cases slotframe : subId = mlmeShortIeTschSlotframeAndLink
  · subst slotframe
    rw [if_pos rfl, parseSlotframeAndLink_isSome sized]
    simp [mlmeShortIeTschSlotframeAndLink, mlmeShortIeTschSynchronization, mlmeShortIeTschTimeslot]
  · rw [if_neg slotframe]
    by_cases synchronization : subId = mlmeShortIeTschSynchronization
    · subst synchronization
      rw [if_pos rfl, parseSynchronization, Option.isSome_ite, lengths]
      simp [mlmeShortIeTschSlotframeAndLink, mlmeShortIeTschSynchronization, mlmeShortIeTschTimeslot]
    · rw [if_neg synchronization]
      by_cases timeslot : subId = mlmeShortIeTschTimeslot
      · subst timeslot
        rw [if_pos rfl, parseTimeslot, Option.isSome_ite, lengths, lengths]
        simp [mlmeShortIeTschSlotframeAndLink, mlmeShortIeTschSynchronization, mlmeShortIeTschTimeslot]
      · rw [if_neg timeslot]
        simp [slotframe, synchronization, timeslot]

theorem parseMlmeLongIe_isSome (sized : len.toNat = content.length) (subId : UInt8)
    (buf : Cursor UInt8) : (parseMlmeLongIe conf buf len subId ies).isSome ↔
      subId = mlmeLongIeTschChannelHoppingSequence ∧ 1 ≤ content.length := by
  have filled : len > 0 ↔ 1 ≤ content.length := by
    change 0 < len ↔ _
    rw [UInt16.lt_iff_toNat_lt, sized]
    rfl
  rw [parseMlmeLongIe, ← filled]
  split
  next known =>
    dsimp only
    split
    next => exact iff_of_true rfl known
    next => exact iff_of_true rfl known
  next unknown => exact iff_of_false Bool.false_ne_true unknown

theorem parseSubIe_isSome (sized : (subIeLen desc).toNat = content.length) :
    (parseSubIe conf ⟨offset, content ++ rest⟩ desc ies).isSome ↔ SubIe desc content := by
  rw [parseSubIe]
  by_cases type : desc &&& 0x8000 = 0
  · have len : (desc &&& 0xff).toNat = content.length := by
      rw [subIeLen, if_pos type] at sized
      exact sized
    rw [if_pos type, parseMlmeShortIe_isSome sized]
    constructor
    · rintro (⟨id, size⟩ | ⟨id, size⟩ | ⟨id, size⟩)
      · exact .slotframeAndLink ⟨type, id, len⟩ size
      · exact .synchronization ⟨type, id, len⟩ size
      · exact .timeslot ⟨type, id, len⟩ size
    · rintro (⟨⟨-, id, -⟩, size⟩ | ⟨⟨-, id, -⟩, size⟩ | ⟨⟨-, id, -⟩, size⟩ | ⟨⟨long, -, -⟩, -⟩)
      · exact .inl ⟨id, size⟩
      · exact .inr (.inl ⟨id, size⟩)
      · exact .inr (.inr ⟨id, size⟩)
      · exact absurd type long
  · have len : (desc &&& 0x7ff).toNat = content.length := by
      rw [subIeLen, if_neg type] at sized
      exact sized
    rw [if_neg type, parseMlmeLongIe_isSome conf sized]
    constructor
    · rintro ⟨id, size⟩
      exact .channelHoppingSequence ⟨type, id, len⟩ size
    · rintro (⟨⟨short, -, -⟩, -⟩ | ⟨⟨short, -, -⟩, -⟩ | ⟨⟨short, -, -⟩, -⟩ | ⟨⟨-, id, -⟩, size⟩)
      · exact absurd short type
      · exact absurd short type
      · exact absurd short type
      · exact ⟨id, size⟩

theorem parsed_openedScan (sized : len.toNat = content.length)
    (short : 2 + (content ++ rest).length < 256) (parsed : Ieee802154Ies) :
    (openedScan offset nested state (content ++ rest) behind ies).parsed len (some parsed) =
      .continued (placeScan (offset + 2 + content.length) ⟨state, nested, rest⟩ behind parsed) := by
  have inside : ¬ len.toNat > (openedScan offset nested state (content ++ rest) behind ies).bufSize.toNat := by
    rw [openedScan_size short, sized, List.length_append]
    omega
  rw [IeScan.parsed, if_neg inside, ← advance_openedScan sized]
  rfl

theorem parsed_none (scan : IeScan) (len : UInt16) : scan.parsed len none = scan.failed := by
  unfold IeScan.parsed
  split
  next => rfl
  next => rfl

theorem parsed_beyond {scan : IeScan} (beyond : scan.bufSize.toNat < len.toNat)
    (parsed : Option Ieee802154Ies) : scan.parsed len parsed = scan.failed := by
  unfold IeScan.parsed
  rw [if_pos beyond]

theorem header_type (type : desc &&& 0x8000 = 0) : ¬ (desc &&& 0x8000 != 0) = true := by
  rw [bne_iff_ne]
  exact not_not_intro type

theorem parseElement_headerIe (headerIe : HeaderIe desc content)
    (short : 2 + (content ++ rest).length < 256) :
    ∃ parsed, parseElement conf
      (placeScan offset ⟨.headerIe, nested, write16 desc ++ (content ++ rest)⟩ behind ies) =
        .continued (placeScan (offset + 2 + content.length) ⟨.headerIe, nested, rest⟩ behind parsed) := by
  obtain ⟨⟨type, id, len⟩, two⟩ := headerIe
  have header := header_type type
  have known : (parseHeaderIe (openedScan offset nested .headerIe (content ++ rest) behind ies).buf
      (desc &&& 0x7f) headerIeAckNackTimeCorrection ies).isSome := by
    rw [parseHeaderIe_isSome]
    exact ⟨rfl, UInt16.toNat_inj.mp (len.trans two)⟩
  obtain ⟨parsed, taken⟩ := Option.isSome_iff_exists.mp known
  refine ⟨parsed, ?_⟩
  rw [parseElement_opened conf short]
  dsimp only
  rw [parseHeaderElement]
  dsimp only
  rw [id, if_neg header, if_neg (by decide), if_neg (by decide)]
  change IeScan.parsed _ _ (parseHeaderIe _ _ _ ies) = _
  rw [taken]
  exact parsed_openedScan len short parsed

theorem parseElement_headerTermination (ends : HeaderDesc desc headerIeListTermination1 0)
    (short : 2 + rest.length < 256) :
    ∃ parsed, parseElement conf
      (placeScan offset ⟨.headerIe, nested, write16 desc ++ rest⟩ behind ies) =
        .continued (placeScan (offset + 2) ⟨.payloadIe, nested, rest⟩ behind parsed) := by
  obtain ⟨type, id, len⟩ := ends
  have header := header_type type
  refine ⟨(openedScan offset nested .headerIe rest behind ies).saveOffset.ies, ?_⟩
  rw [parseElement_opened conf short]
  dsimp only
  rw [parseHeaderElement]
  dsimp only
  rw [if_neg header, if_pos id, if_pos (UInt16.toNat_inj.mp len)]
  rfl

theorem parseElement_payloadMlme {len : Nat} (mlme : PayloadDesc desc payloadIeMlme len)
    (short : 2 + rest.length < 256) :
    parseElement conf (placeScan offset ⟨.payloadIe, nested, write16 desc ++ rest⟩ behind ies) =
      .continued (placeScan (offset + 2) ⟨.mlmeSubie, len, rest⟩ behind ies) := by
  obtain ⟨type, id, len'⟩ := mlme
  rw [parseElement_opened conf short]
  dsimp only
  rw [parsePayloadElement]
  dsimp only
  rw [if_neg type, if_pos id, len']
  rfl

theorem parseElement_payloadIetf {len : Nat} (sixtop : conf.withSixtop = true)
    (ietf : PayloadDesc desc payloadIeIetf len) (short : 2 + tail.length < 256) :
    ∃ parsed, parseElement conf
      (placeScan offset ⟨.payloadIe, nested, write16 desc ++ tail⟩ behind ies) =
        .continued ((openedScan offset nested .payloadIe tail behind parsed).advance (desc &&& 0x7ff)) := by
  obtain ⟨type, id, -⟩ := ietf
  have ietfIe : (conf.withSixtop && payloadIeIetf == payloadIeIetf) = true := by
    rw [sixtop]
    rfl
  rw [parseElement_opened conf short]
  dsimp only
  rw [parsePayloadElement]
  dsimp only
  rw [if_neg type, id, if_neg (by decide), if_pos ietfIe]
  exact ⟨_, rfl⟩

theorem closeSubie_within {count : Nat} (sized : len.toNat = count) :
    closeSubie len (.continued (placeScan offset ⟨.mlmeSubie, 2 + count + nested, rest⟩ behind ies)) =
      .continued (placeScan offset ⟨if nested = 0 then .payloadIe else .mlmeSubie, nested, rest⟩
        behind ies) := by
  have left : ((2 + count + nested : Nat) : Int) - (2 + len.toNat) = nested := by omega
  have positive : ¬ (nested : Int) < 0 := by omega
  have filled : ((nested : Int) = 0) = (nested = 0) := by simp
  simp only [closeSubie, placeScan, left, if_neg positive, filled]

theorem closeSubie_beyond (beyond : nested < 2 + len.toNat) :
    closeSubie len (.continued (placeScan offset ⟨.mlmeSubie, nested, rest⟩ behind ies)) =
      .returned (-1) ies := by
  have negative : (nested : Int) - (2 + len.toNat) < 0 := by omega
  rw [closeSubie]
  exact if_pos negative

theorem parseElement_subIe (subIe : SubIe desc content) (short : 2 + (content ++ rest).length < 256) :
    ∃ parsed, parseElement conf
      (placeScan offset ⟨.mlmeSubie, nested, write16 desc ++ (content ++ rest)⟩ behind ies) =
        closeSubie (subIeLen desc) (.continued (placeScan (offset + 2 + content.length)
          ⟨.mlmeSubie, nested, rest⟩ behind parsed)) := by
  have len := subIe.announced
  have known : (parseSubIe conf (openedScan offset nested .mlmeSubie (content ++ rest) behind ies).buf
      desc ies).isSome := by
    rw [openedScan, List.append_assoc, parseSubIe_isSome conf len]
    exact subIe
  obtain ⟨parsed, taken⟩ := Option.isSome_iff_exists.mp known
  refine ⟨parsed, ?_⟩
  rw [parseElement_opened conf short]
  dsimp only
  rw [parseMlmeElement_subIe]
  change closeSubie _ (IeScan.parsed _ _ (parseSubIe _ _ _ ies)) = _
  rw [taken, parsed_openedScan len short]

theorem tail_short (short : (write16 desc ++ tail).length < 256) : 2 + tail.length < 256 := by
  rw [List.length_append, write16_length] at short
  exact short

theorem parseElement_next {place next : IePlace} (step : IeNext conf place next)
    (short : place.rest.length < 256) (offset : Nat) (behind : List UInt8) (ies : Ieee802154Ies) :
    ∃ offset' parsed, parseElement conf (placeScan offset place behind ies) =
      .continued (placeScan offset' next behind parsed) := by
  cases step with
  | headerIe headerIe =>
    obtain ⟨parsed, continued⟩ := parseElement_headerIe conf headerIe (tail_short short)
    exact ⟨_, parsed, continued⟩
  | headerTermination ends =>
    obtain ⟨parsed, continued⟩ := parseElement_headerTermination conf ends (tail_short short)
    exact ⟨_, parsed, continued⟩
  | mlme mlme => exact ⟨_, ies, parseElement_payloadMlme conf mlme (tail_short short)⟩
  | ietf sixtop ietf =>
    obtain ⟨parsed, continued⟩ := parseElement_payloadIetf conf sixtop ietf (tail_short short)
    rw [advance_openedScan ietf.2.2] at continued
    exact ⟨_, parsed, continued⟩
  | subIe subIe =>
    obtain ⟨parsed, closed⟩ := parseElement_subIe conf subIe (tail_short short)
    rw [closeSubie_within subIe.announced] at closed
    exact ⟨_, parsed, closed⟩

theorem exists_content {count : Nat} (inside : count ≤ tail.length) :
    ∃ content rest, tail = content ++ rest ∧ content.length = count :=
  ⟨tail.take count, tail.drop count, (List.take_append_drop count tail).symm,
    List.length_take_of_le inside⟩

theorem parseHeaderElement_stuck (short : 2 + tail.length < 256)
    (stuck : ∀ next, ¬ IeNext conf ⟨.headerIe, nested, write16 desc ++ tail⟩ next)
    (more : ¬ HeaderDesc desc headerIeListTermination2 0) :
    ∃ parsed, parseHeaderElement desc (openedScan offset nested .headerIe tail behind ies) =
      .returned (-1) parsed := by
  rw [parseHeaderElement]
  dsimp only
  by_cases type : desc &&& 0x8000 = 0
  · have header := header_type type
    rw [if_neg header]
    split
    next ends =>
      have filled : ¬ desc &&& 0x7f = 0 := by
        intro empty
        exact stuck _ (.headerTermination ⟨type, ends, congrArg UInt16.toNat empty⟩)
      exact ⟨_, if_neg filled⟩
    next =>
      split
      next ends =>
        have filled : ¬ desc &&& 0x7f = 0 := by
          intro empty
          exact more ⟨type, ends, congrArg UInt16.toNat empty⟩
        exact ⟨_, if_neg filled⟩
      next =>
        by_cases inside : (desc &&& 0x7f).toNat ≤ tail.length
        · obtain ⟨content, rest, rfl, sized⟩ := exists_content inside
          have unknown : ¬ (parseHeaderIe
              (openedScan offset nested .headerIe (content ++ rest) behind ies).buf (desc &&& 0x7f)
              ((desc &&& 0x7f80) >>> 7).toUInt8 ies).isSome := by
            rw [parseHeaderIe_isSome]
            rintro ⟨id, len⟩
            have two : content.length = 2 := by
              rw [sized, len]
              rfl
            exact stuck _ (.headerIe ⟨⟨type, id, sized.symm⟩, two⟩)
          have failed := Option.not_isSome_iff_eq_none.mp unknown
          change ∃ parsed, IeScan.parsed _ _ (parseHeaderIe _ _ _ ies) = .returned (-1) parsed
          rw [failed, parsed_none]
          exact ⟨_, rfl⟩
        · have beyond : (openedScan offset nested .headerIe tail behind ies).bufSize.toNat <
              (desc &&& 0x7f).toNat := by
            rw [openedScan_size short]
            omega
          rw [parsed_beyond beyond]
          exact ⟨_, rfl⟩
  · have payload : (desc &&& 0x8000 != 0) = true := bne_iff_ne.mpr type
    rw [if_pos payload]
    exact ⟨_, rfl⟩

theorem parsePayloadElement_stuck
    (stuck : ∀ next, ¬ IeNext conf ⟨.payloadIe, nested, write16 desc ++ tail⟩ next)
    (more : ¬ PayloadDesc desc payloadIeListTermination 0)
    (inside : conf.withSixtop = true → ∀ len, PayloadDesc desc payloadIeIetf len →
      len ≤ tail.length) :
    ∃ parsed, parsePayloadElement conf desc (openedScan offset nested .payloadIe tail behind ies) =
      .returned (-1) parsed := by
  rw [parsePayloadElement]
  dsimp only
  split
  next => exact ⟨_, rfl⟩
  next type =>
    split
    next mlme => exact absurd (.mlme ⟨type, mlme, rfl⟩) (stuck _)
    next =>
      split
      next ietf =>
        rw [Bool.and_eq_true, beq_iff_eq] at ietf
        obtain ⟨sixtop, id⟩ := ietf
        have whole := inside sixtop _ ⟨type, id, rfl⟩
        obtain ⟨content, rest, rfl, sized⟩ := exists_content whole
        exact absurd (.ietf sixtop ⟨type, id, sized.symm⟩) (stuck _)
      next =>
        split
        next ends =>
          have filled : ¬ desc &&& 0x7ff = 0 := by
            intro empty
            exact more ⟨type, ends, congrArg UInt16.toNat empty⟩
          rw [if_neg filled]
          exact ⟨_, rfl⟩
        next => exact ⟨_, rfl⟩

theorem parseElement_subIe_stuck (short : 2 + tail.length < 256)
    (stuck : ∀ next, ¬ IeNext conf ⟨.mlmeSubie, nested, write16 desc ++ tail⟩ next) :
    ∃ parsed, parseElement conf
      (placeScan offset ⟨.mlmeSubie, nested, write16 desc ++ tail⟩ behind ies) =
        .returned (-1) parsed := by
  by_cases inside : (subIeLen desc).toNat ≤ tail.length
  · obtain ⟨content, rest, rfl, sized⟩ := exists_content inside
    by_cases subIe : SubIe desc content
    · have beyond : nested < 2 + (subIeLen desc).toNat := by
        by_contra within
        obtain ⟨others, rfl⟩ : ∃ others, nested = 2 + content.length + others :=
          ⟨nested - (2 + content.length), by omega⟩
        exact stuck _ (.subIe subIe)
      obtain ⟨parsed, closed⟩ := parseElement_subIe conf subIe short
      rw [closed, closeSubie_beyond beyond]
      exact ⟨_, rfl⟩
    · have unknown : ¬ (parseSubIe conf
          (openedScan offset nested .mlmeSubie (content ++ rest) behind ies).buf desc ies).isSome := by
        rw [openedScan, List.append_assoc, parseSubIe_isSome conf sized.symm]
        exact subIe
      have failed := Option.not_isSome_iff_eq_none.mp unknown
      rw [parseElement_opened conf short]
      dsimp only
      rw [parseMlmeElement_subIe]
      change ∃ parsed, closeSubie _ (IeScan.parsed _ _ (parseSubIe _ _ _ ies)) = .returned (-1) parsed
      rw [failed, parsed_none]
      exact ⟨_, rfl⟩
  · have beyond : (openedScan offset nested .mlmeSubie tail behind ies).bufSize.toNat <
        (subIeLen desc).toNat := by
      rw [openedScan_size short]
      omega
    rw [parseElement_opened conf short]
    dsimp only
    rw [parseMlmeElement_subIe, parsed_beyond beyond]
    exact ⟨_, rfl⟩

def IePlace.Beyond (place : IePlace) : Prop :=
  place.state = .payloadIe ∧ conf.withSixtop = true ∧ ∃ desc tail len,
    place.rest = write16 desc ++ tail ∧ PayloadDesc desc payloadIeIetf len ∧ tail.length < len

theorem parseElement_stuck {place : IePlace} (long : 2 ≤ place.rest.length)
    (short : place.rest.length < 256) (stuck : ∀ next, ¬ IeNext conf place next)
    (more : ¬ place.Ended) (inside : ¬ place.Beyond conf) (offset : Nat) (behind : List UInt8)
    (ies : Ieee802154Ies) :
    ∃ parsed, parseElement conf (placeScan offset place behind ies) = .returned (-1) parsed := by
  rcases place with ⟨state, nested, bytes⟩
  obtain ⟨desc, tail, rfl⟩ := exists_write16 long
  have opened := tail_short short
  cases state with
  | headerIe =>
    rw [parseElement_opened conf opened]
    exact parseHeaderElement_stuck conf opened stuck
      (fun ends => more ⟨desc, tail, rfl, .inl ⟨rfl, ends⟩⟩)
  | payloadIe =>
    rw [parseElement_opened conf opened]
    refine parsePayloadElement_stuck conf stuck
      (fun ends => more ⟨desc, tail, rfl, .inr ⟨rfl, ends⟩⟩) ?_
    intro sixtop len ietf
    by_contra beyond
    exact inside ⟨rfl, sixtop, desc, tail, len, rfl, ietf, by omega⟩
  | mlmeSubie => exact parseElement_subIe_stuck conf opened stuck

theorem parsePayloadElement_termination (ends : PayloadDesc desc payloadIeListTermination 0)
    (scan : IeScan) : parsePayloadElement conf desc scan = .returned scan.buf.offset scan.ies := by
  obtain ⟨type, id, len⟩ := ends
  have other : ¬ (conf.withSixtop && payloadIeListTermination == payloadIeIetf) = true := by
    rw [Bool.and_eq_true]
    exact fun both => absurd both.2 (by decide)
  rw [parsePayloadElement]
  dsimp only
  rw [if_neg type, id, if_neg (by decide), if_neg other, if_pos rfl, if_pos (UInt16.toNat_inj.mp len)]

theorem parseElement_ended {place : IePlace} (ended : place.Ended) (short : place.rest.length < 256)
    (offset : Nat) (behind : List UInt8) (ies : Ieee802154Ies) :
    ∃ value : Nat, ∃ parsed,
      parseElement conf (placeScan offset place behind ies) = .returned value parsed := by
  rcases place with ⟨state, nested, bytes⟩
  obtain ⟨desc, tail, rfl, ⟨rfl, ends⟩ | ⟨rfl, ends⟩⟩ := ended
  · obtain ⟨type, id, len⟩ := ends
    have header := header_type type
    rw [parseElement_opened conf (tail_short short)]
    dsimp only
    rw [parseHeaderElement]
    dsimp only
    rw [if_neg header, id, if_neg (by decide), if_pos rfl, if_pos (UInt16.toNat_inj.mp len)]
    exact ⟨_, _, rfl⟩
  · rw [parseElement_opened conf (tail_short short)]
    dsimp only
    rw [parsePayloadElement_termination conf ends]
    exact ⟨_, _, rfl⟩

variable {rounds : Nat} {scan next : IeScan} {place : IePlace}

theorem parseElements_returned {value : Int} {parsed : Ieee802154Ies} (more : scan.bufSize ≠ 0)
    (round : parseElement conf scan = .returned value parsed) :
    parseElements conf (rounds + 1) scan = (value, parsed) := by
  rw [parseElements, if_neg more, round]

theorem parseElements_continued (more : scan.bufSize ≠ 0)
    (round : parseElement conf scan = .continued next) :
    parseElements conf (rounds + 1) scan = parseElements conf rounds next := by
  rw [parseElements, if_neg more, round]

theorem parseElements_cut (cut : scan.bufSize.toNat = 1) :
    parseElements conf (rounds + 1) scan = (-1, scan.ies) := by
  have more : scan.bufSize ≠ 0 := by
    rw [Ne, bufSize_zero_iff, cut]
    decide
  exact parseElements_returned conf more (parseElement_cut cut)

theorem parseElements_ended (ended : scan.bufSize = 0) :
    (parseElements conf (rounds + 1) scan).1 = scan.buf.offset := by
  rw [parseElements, if_pos ended]

theorem placeScan_size (short : place.rest.length < 256) :
    (placeScan offset place behind ies).bufSize.toNat = place.rest.length := by
  rw [placeScan, UInt8.toNat_ofNat']
  exact Nat.mod_eq_of_lt short

theorem placeScan_more (long : 2 ≤ place.rest.length) (short : place.rest.length < 256) :
    (placeScan offset place behind ies).bufSize ≠ 0 := by
  rw [Ne, bufSize_zero_iff, placeScan_size short]
  omega

theorem beyond_size (beyond : tail.length < (desc &&& 0x7ff).toNat) (short : tail.length < 256) :
    ((openedScan offset nested state tail behind ies).advance (desc &&& 0x7ff)).bufSize.toNat =
      (256 - ((desc &&& 0x7ff).toNat - tail.length) % 256) % 256 := by
  simp only [IeScan.advance, openedScan, UInt8.toNat_sub, UInt8.toNat_ofNat', UInt16.toNat_toUInt8]
  omega

theorem beyond_wraps (beyond : tail.length < (desc &&& 0x7ff).toNat) (short : 2 + tail.length < 256)
    (wrap : ((desc &&& 0x7ff).toNat - tail.length) % 256 ≠ 255) :
    ∃ behind, ∀ rounds offset nested ies,
      0 ≤ (parseElements conf (rounds + 1)
        ((openedScan offset nested .payloadIe tail behind ies).advance (desc &&& 0x7ff))).1 := by
  refine ⟨List.replicate ((desc &&& 0x7ff).toNat - tail.length) 0 ++ (write16 0xf800 ++ []), ?_⟩
  intro rounds offset nested ies
  have size := @beyond_size offset nested .payloadIe desc tail
    (List.replicate ((desc &&& 0x7ff).toNat - tail.length) 0 ++ (write16 0xf800 ++ [])) ies beyond (by omega)
  generalize resumed : (openedScan offset nested .payloadIe tail
    (List.replicate ((desc &&& 0x7ff).toNat - tail.length) 0 ++ (write16 0xf800 ++ [])) ies).advance
      (desc &&& 0x7ff) = scan at size
  by_cases ended : scan.bufSize.toNat = 0
  · rw [parseElements_ended conf (bufSize_zero_iff.mpr ended)]
    exact Int.natCast_nonneg _
  · have long : 2 ≤ scan.bufSize.toNat := by omega
    have skipped : (tail ++ (List.replicate ((desc &&& 0x7ff).toNat - tail.length) 0 ++
        (write16 0xf800 ++ []))).drop (desc &&& 0x7ff).toNat = write16 0xf800 ++ [] := by
      rw [← List.append_assoc]
      apply List.drop_left'
      rw [List.length_append, List.length_replicate]
      omega
    have memory : scan.buf = ⟨offset + 2 + (desc &&& 0x7ff).toNat, write16 0xf800 ++ []⟩ := by
      rw [← resumed]
      simp only [IeScan.advance, openedScan, Cursor.skip, skipped]
    have resume : scan = ⟨⟨offset + 2 + (desc &&& 0x7ff).toNat, write16 0xf800 ++ []⟩,
        UInt8.ofNat scan.bufSize.toNat, nested, .payloadIe, ies⟩ := by
      rw [← memory, UInt8.ofNat_toNat, ← resumed]
      rfl
    have termination : PayloadDesc 0xf800 payloadIeListTermination 0 := by decide
    have round := parseElement_descriptor conf (offset + 2 + (desc &&& 0x7ff).toNat) 0xf800 [] long
      scan.bufSize.toNat_lt nested .payloadIe ies
    rw [← resume] at round
    dsimp only at round
    rw [parsePayloadElement_termination conf termination] at round
    rw [parseElements_returned conf (mt bufSize_zero_iff.mp ended) round]
    exact Int.natCast_nonneg _

theorem wellFormed_empty (empty : place.rest = []) : place.WellFormed conf ↔ ¬ place.Cut := by
  rcases place with ⟨state, nested, bytes⟩
  dsimp only at empty
  subst empty
  cases state with
  | headerIe => exact iff_of_true HeaderIes.done (fun cut => nomatch cut.1)
  | payloadIe => exact iff_of_true PayloadIes.done (fun cut => nomatch cut.1)
  | mlmeSubie =>
    constructor
    · rintro ⟨content, after, split, length, -⟩ ⟨-, filled, -⟩
      have none : content = [] := (List.append_eq_nil_iff.mp split.symm).1
      subst none
      exact filled length.symm
    · intro whole
      have filled : nested = 0 := by
        by_contra more
        exact whole ⟨rfl, more, rfl⟩
      subst filled
      exact (wellFormed_filled conf []).mpr PayloadIes.done

theorem parseElements_empty (empty : place.rest = []) :
    (parseElements conf (rounds + 1) (placeScan offset place behind ies)).1 = offset := by
  have ended : (placeScan offset place behind ies).bufSize = 0 := by
    rw [placeScan, empty]
    rfl
  rw [parseElements_ended conf ended]
  rfl

theorem not_wellFormed_beyond {len : Nat} (sixtop : conf.withSixtop = true)
    (ietf : PayloadDesc desc payloadIeIetf len) (beyond : tail.length < len) :
    ¬ (IePlace.mk .payloadIe nested (write16 desc ++ tail)).WellFormed conf := by
  intro all
  obtain ⟨content, after, rfl, length, -⟩ := (payloadIes_ietf conf sixtop ietf).mp all
  rw [List.length_append] at beyond
  omega

theorem accepted_iff (sound : ∀ later, Relation.ReflTransGen (IeNext conf) place later →
    ¬ later.Faulty conf) (short : place.rest.length < 256) (enough : place.rest.length < rounds)
    (offset : Nat) (behind : List UInt8) (ies : Ieee802154Ies) :
    0 ≤ (parseElements conf rounds (placeScan offset place behind ies)).1 ↔ place.WellFormed conf := by
  have rejected : ¬ (0 : Int) ≤ -1 := by decide
  induction rounds generalizing place offset ies with
  | zero => omega
  | succ rounds ih =>
    have here := sound place .refl
    by_cases empty : place.rest = []
    · rw [parseElements_empty conf empty, wellFormed_empty conf empty]
      exact iff_of_true (Int.natCast_nonneg _) (fun cut => here (.inl cut))
    have some : place.rest.length ≠ 0 := mt List.eq_nil_of_length_eq_zero empty
    by_cases single : place.rest.length = 1
    · rw [parseElements_cut conf ((placeScan_size short).trans single)]
      exact iff_of_false rejected (fun all => all.length_ne_one single)
    have long : 2 ≤ place.rest.length := by omega
    have more := @placeScan_more offset behind ies place long short
    by_cases ended : place.Ended
    · obtain ⟨value, parsed, round⟩ := parseElement_ended conf ended short offset behind ies
      rw [parseElements_returned conf more round]
      exact iff_of_true (Int.natCast_nonneg _) ended.wellFormed
    by_cases step : ∃ next, IeNext conf place next
    · obtain ⟨next, step⟩ := step
      have shorter := step.shorter
      obtain ⟨offset', parsed, round⟩ := parseElement_next conf step short offset behind ies
      rw [parseElements_continued conf more round, step.wellFormed_iff]
      exact ih (fun later run => sound later (.head step run)) (by omega) (by omega) offset' parsed
    have stuck := not_exists.mp step
    by_cases beyond : place.Beyond conf
    · rcases place with ⟨state, nested, bytes⟩
      obtain ⟨rfl, sixtop, desc, tail, len, rfl, ietf, beyond⟩ := beyond
      refine iff_of_false ?_ (not_wellFormed_beyond conf sixtop ietf beyond)
      have opened := tail_short short
      obtain ⟨parsed, round⟩ := parseElement_payloadIetf conf sixtop ietf opened
      obtain ⟨type, id, rfl⟩ := ietf
      have one : ((desc &&& 0x7ff).toNat - tail.length) % 256 = 255 := by
        by_contra wrap
        exact here (.inr (.inr ⟨rfl, sixtop, desc, tail, _, rfl, ⟨type, id, rfl⟩, beyond, wrap⟩))
      have size := @beyond_size offset nested .payloadIe desc tail behind parsed beyond (by omega)
      obtain ⟨rounds, rfl⟩ : ∃ count, rounds = count + 1 := ⟨rounds - 1, by omega⟩
      rw [parseElements_continued conf more round, parseElements_cut conf (by rw [size, one])]
      exact rejected
    · obtain ⟨parsed, round⟩ := parseElement_stuck conf long short stuck ended beyond offset behind ies
      rw [parseElements_returned conf more round]
      refine iff_of_false rejected ?_
      intro all
      rcases all.progress with none | next | followed | ends
      · exact empty none
      · exact step next
      · exact here (.inr (.inl followed))
      · exact ended ends

theorem faulty_differs (faulty : place.Faulty conf) (short : place.rest.length < 256) :
    ∃ behind, ∀ rounds, place.rest.length < rounds → ∀ offset ies,
      ¬ (0 ≤ (parseElements conf rounds (placeScan offset place behind ies)).1 ↔
        place.WellFormed conf) := by
  have rejected : ¬ (0 : Int) ≤ -1 := by decide
  rcases faulty with cut | followed | overlong
  · refine ⟨[], ?_⟩
    intro rounds enough offset ies same
    obtain ⟨rounds, rfl⟩ : ∃ count, rounds = count + 1 := ⟨rounds - 1, by omega⟩
    have empty := cut.2.2
    rw [parseElements_empty conf empty, wellFormed_empty conf empty] at same
    exact same.mp (Int.natCast_nonneg _) cut
  · refine ⟨[], ?_⟩
    intro rounds enough offset ies same
    obtain ⟨rounds, rfl⟩ : ∃ count, rounds = count + 1 := ⟨rounds - 1, by omega⟩
    rcases place with ⟨state, nested, bytes⟩
    obtain ⟨rfl, rfl, filled, all⟩ := followed
    have single : bytes.length ≠ 1 := all.length_ne_one
    have some : bytes.length ≠ 0 := mt List.eq_nil_of_length_eq_zero filled
    have long : 2 ≤ bytes.length := by
      clear same
      omega
    have more : ¬ (IePlace.mk .mlmeSubie 0 bytes).Ended := by
      rintro ⟨-, -, -, ⟨state, -⟩ | ⟨state, -⟩⟩
      · exact nomatch state
      · exact nomatch state
    have inside : ¬ (IePlace.mk .mlmeSubie 0 bytes).Beyond conf := fun beyond => nomatch beyond.1
    obtain ⟨parsed, round⟩ :=
      parseElement_stuck conf long short not_next_filled more inside offset [] ies
    rw [parseElements_returned conf (placeScan_more long short) round, wellFormed_filled] at same
    exact rejected (same.mpr all)
  · rcases place with ⟨state, nested, bytes⟩
    obtain ⟨rfl, sixtop, desc, tail, len, rfl, ietf, beyond, wrap⟩ := overlong
    have opened := tail_short short
    have long : 2 ≤ (write16 desc ++ tail).length := by
      rw [List.length_append, write16_length]
      omega
    have malformed := @not_wellFormed_beyond conf nested desc tail len sixtop ietf beyond
    obtain ⟨type, id, rfl⟩ := ietf
    obtain ⟨behind, accepted⟩ := beyond_wraps conf beyond opened wrap
    refine ⟨behind, ?_⟩
    intro rounds enough offset ies same
    obtain ⟨rounds, rfl⟩ : ∃ count, rounds = count + 2 := by
      dsimp only at enough
      exact ⟨rounds - 2, by omega⟩
    obtain ⟨parsed, round⟩ := @parseElement_payloadIetf conf offset nested desc tail behind ies _ sixtop
      ⟨type, id, rfl⟩ opened
    rw [parseElements_continued conf (placeScan_more long short) round] at same
    exact malformed (same.mp (accepted rounds offset nested parsed))

theorem faulty_later_differs {later : IePlace} (run : Relation.ReflTransGen (IeNext conf) place later)
    (faulty : later.Faulty conf) (short : place.rest.length < 256) :
    ∃ behind, ∀ rounds, place.rest.length < rounds → ∀ offset ies,
      ¬ (0 ≤ (parseElements conf rounds (placeScan offset place behind ies)).1 ↔
        place.WellFormed conf) := by
  induction run using Relation.ReflTransGen.head_induction_on with
  | refl => exact faulty_differs conf faulty short
  | @head place next step _ ih =>
    have shorter := step.shorter
    obtain ⟨behind, differs⟩ := ih (by omega)
    refine ⟨behind, ?_⟩
    intro rounds enough offset ies
    obtain ⟨rounds, rfl⟩ : ∃ count, rounds = count + 1 := ⟨rounds - 1, by omega⟩
    obtain ⟨offset', parsed, round⟩ := parseElement_next conf step short offset behind ies
    rw [parseElements_continued conf (placeScan_more (by omega) short) round, step.wellFormed_iff]
    exact differs rounds (by omega) offset' parsed

/-- The parser accepts the lists of information elements and no others, whatever lies in memory
behind the buffer, just when no complete elements of the list lead to a faulty place. -/
theorem accepts_headerIes_iff (buf : List UInt8) (ies : Ieee802154Ies) (short : buf.length < 256) :
    (∀ behind, 0 ≤ (frame802154eParseInformationElements conf (buf ++ behind)
      (UInt8.ofNat buf.length) ies).1 ↔ HeaderIes conf buf) ↔
    ∀ place, Relation.ReflTransGen (IeNext conf) ⟨.headerIe, 0, buf⟩ place → ¬ place.Faulty conf := by
  have start : ∀ behind, (frame802154eParseInformationElements conf (buf ++ behind)
      (UInt8.ofNat buf.length) ies).1 = (parseElements conf ((buf ++ behind).length + 1)
        (placeScan 0 ⟨.headerIe, 0, buf⟩ behind { ies with iePayloadIeOffset := 0 })).1 :=
    fun behind => rfl
  have enough : ∀ behind : List UInt8, buf.length < (buf ++ behind).length + 1 := by
    intro behind
    rw [List.length_append]
    omega
  constructor
  · intro same later run faulty
    obtain ⟨behind, differs⟩ := faulty_later_differs conf run faulty short
    apply differs _ (enough behind) 0 { ies with iePayloadIeOffset := 0 }
    rw [← start]
    exact same behind
  · intro sound behind
    rw [start]
    exact accepted_iff conf sound short (enough behind) 0 behind _

theorem headerTermination_accepted : HeaderIes ⟨16, true⟩ [0x00, 0x3f] ∧
    ∀ behind, 0 ≤ (frame802154eParseInformationElements ⟨16, true⟩ ([0x00, 0x3f] ++ behind) 2
      (iesZero ⟨16, true⟩)).1 := by
  have ends : HeaderDesc 0x3f00 headerIeListTermination1 0 := by decide
  have all : HeaderIes ⟨16, true⟩ [0x00, 0x3f] := .termination1 ends .done
  refine ⟨all, fun behind => ((accepts_headerIes_iff ⟨16, true⟩ (write16 0x3f00 ++ [])
    (iesZero ⟨16, true⟩) (by decide)).mpr ?_ behind).mpr all⟩
  intro place run
  rcases Relation.ReflTransGen.cases_head run with rfl | ⟨next, step, run⟩
  · rintro (cut | followed | overlong)
    · exact nomatch cut.1
    · exact nomatch followed.1
    · exact nomatch overlong.1
  · obtain rfl : next = ⟨.payloadIe, 0, []⟩ := by
      generalize termination : write16 0x3f00 ++ [] = bytes at step
      cases step with
      | headerIe headerIe =>
        obtain ⟨rfl, -⟩ := write16_append_inj termination
        exact absurd headerIe.1.2.1 (by decide)
      | headerTermination _ =>
        obtain ⟨-, rfl⟩ := write16_append_inj termination
        rfl
    rcases Relation.ReflTransGen.cases_head run with rfl | ⟨next, step, -⟩
    · rintro (cut | followed | ⟨-, -, desc, tail, len, more, -⟩)
      · exact nomatch cut.1
      · exact nomatch followed.1
      · exact nomatch more
    · have shorter := step.shorter
      exact absurd shorter (by simp)

/-- The buffer that ends inside an MLME IE is accepted, the MLME IE without sub-IEs, with a
termination behind it, is not. -/
theorem mlme_misjudged :
    (0 ≤ (frame802154eParseInformationElements ⟨16, true⟩ [0x00, 0x3f, 0x08, 0x88] 4
        (iesZero ⟨16, true⟩)).1 ∧ ¬ HeaderIes ⟨16, true⟩ [0x00, 0x3f, 0x08, 0x88]) ∧
      ¬ 0 ≤ (frame802154eParseInformationElements ⟨16, true⟩ [0x00, 0x3f, 0x00, 0x88, 0x00, 0xf8] 6
        (iesZero ⟨16, true⟩)).1 ∧ HeaderIes ⟨16, true⟩ [0x00, 0x3f, 0x00, 0x88, 0x00, 0xf8] := by
  have ends : HeaderDesc 0x3f00 headerIeListTermination1 0 := by decide
  refine ⟨⟨by decide +kernel, ?_⟩, by decide +kernel, ?_⟩
  · intro all
    have mlme : PayloadDesc 0x8808 payloadIeMlme 8 := by decide
    have payload : PayloadIes ⟨16, true⟩ (write16 0x8808 ++ []) :=
      (headerIes_termination ⟨16, true⟩ ends).mp all
    obtain ⟨content, after, split, length, -⟩ := (payloadIes_mlme ⟨16, true⟩ mlme).mp payload
    rw [(List.append_eq_nil_iff.mp split.symm).1] at length
    exact nomatch length
  · have mlme : PayloadDesc 0x8800 payloadIeMlme 0 := by decide
    have termination : PayloadDesc 0xf800 payloadIeListTermination 0 := by decide
    exact .termination1 ends (.mlme mlme SubIes.done (.termination termination))

end MultiPhyTsch
