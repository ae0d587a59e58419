import MultiPhyTsch.Frame.InformationElements

/-! Where the header IEs end. The parser saves the offset of the payload IEs while it reads
header IEs and never again, so the offset of a list that parses depends on the bytes before
it only. -/

namespace MultiPhyTsch

variable (conf : IeConf)

def IeRound.KeepsOffset (offset : UInt8) : IeRound → Prop
  | .returned _ ies => ies.iePayloadIeOffset = offset
  | .continued scan => scan.ies.iePayloadIeOffset = offset ∧ scan.parsingState ≠ .headerIe

variable {len : UInt16}

theorem parseMlmeShortIe_offset {buf : Cursor UInt8} {subId : UInt8}
    {ies parsed : Ieee802154Ies} (accepted : parseMlmeShortIe buf len subId ies = some parsed) :
    parsed.iePayloadIeOffset = ies.iePayloadIeOffset := by
  unfold parseMlmeShortIe parseSlotframeAndLink parseSynchronization parseTimeslot at accepted
  grind

theorem parseMlmeLongIe_offset {buf : Cursor UInt8} {subId : UInt8}
    {ies parsed : Ieee802154Ies} (accepted : parseMlmeLongIe conf buf len subId ies = some parsed) :
    parsed.iePayloadIeOffset = ies.iePayloadIeOffset := by
  unfold parseMlmeLongIe at accepted
  grind

theorem IeScan.parsed_keepsOffset {scan : IeScan} {ies : Option Ieee802154Ies}
    (behind : scan.parsingState ≠ .headerIe)
    (same : ∀ parsed, ies = some parsed → parsed.iePayloadIeOffset = scan.ies.iePayloadIeOffset) :
    (scan.parsed len ies).KeepsOffset scan.ies.iePayloadIeOffset := by
  unfold IeScan.parsed
  split
  · rfl
  · cases ies with
    | none => rfl
    | some parsed => exact ⟨same parsed rfl, behind⟩

theorem closeSubie_keepsOffset {round : IeRound} {offset : UInt8}
    (kept : round.KeepsOffset offset) : (closeSubie len round).KeepsOffset offset := by
  cases round with
  | returned value ies => exact kept
  | continued scan =>
    simp only [closeSubie]
    split
    · exact kept.1
    · refine ⟨kept.1, ?_⟩
      dsimp only
      split <;> simp

theorem parseElement_keepsOffset {scan : IeScan} (behind : scan.parsingState ≠ .headerIe) :
    (parseElement conf scan).KeepsOffset scan.ies.iePayloadIeOffset := by
  unfold parseElement
  split
  · rfl
  · cases state : scan.parsingState with
    | headerIe => exact absurd state behind
    | payloadIe =>
      simp only [IeScan.advance, state, parsePayloadElement]
      split
      · rfl
      · split
        · exact ⟨rfl, by simp⟩
        · split
          · refine ⟨?_, by simp⟩
            dsimp only
            split <;> rfl
          · split <;> rfl
    | mlmeSubie =>
      simp only [IeScan.advance, state, parseMlmeElement]
      split
      · apply closeSubie_keepsOffset
        exact IeScan.parsed_keepsOffset (by simp) fun parsed accepted =>
          parseMlmeShortIe_offset accepted
      · apply closeSubie_keepsOffset
        exact IeScan.parsed_keepsOffset (by simp) fun parsed accepted =>
          parseMlmeLongIe_offset conf accepted

theorem parseElements_keepsOffset (rounds : Nat) : ∀ scan : IeScan,
    scan.parsingState ≠ .headerIe →
      (parseElements conf rounds scan).2.iePayloadIeOffset = scan.ies.iePayloadIeOffset := by
  induction rounds with
  | zero => intro scan _; rfl
  | succ rounds ih =>
    intro scan behind
    have kept := parseElement_keepsOffset conf behind
    rw [parseElements]
    split
    · simp
    · cases round : parseElement conf scan with
      | returned value ies =>
        rw [round] at kept
        exact kept
      | continued next =>
        rw [round] at kept
        exact (ih next kept.2).trans kept.1

variable {rest rest' : List UInt8}

theorem peek_congr {offset offset' count index : Nat}
    (agree : rest'.take count = rest.take count) (inside : index < count) :
    (Cursor.mk offset' rest').peek index = (Cursor.mk offset rest).peek index := by
  have same := congrArg (fun bytes => bytes.getD index default) agree
  simpa [Cursor.peek, List.getD_eq_getElem?_getD, List.getElem?_take, inside] using same

theorem readIe16_congr {offset offset' count index : Nat}
    (agree : rest'.take count = rest.take count) (inside : index + 1 < count) :
    readIe16 ⟨offset', rest'⟩ index = readIe16 ⟨offset, rest⟩ index := by
  unfold readIe16
  rw [peek_congr agree (by omega), peek_congr agree inside]

theorem take_congr {count more : Nat} (inside : count ≤ more)
    (agree : rest.take more = rest'.take more) : rest.take count = rest'.take count := by
  have fewer := congrArg (List.take count) agree
  simpa [List.take_take, Nat.min_eq_left inside] using fewer

def IeScan.withRest (scan : IeScan) (rest : List UInt8) : IeScan :=
  { scan with buf := ⟨scan.buf.offset, rest⟩ }

theorem parseHeaderIe_congr {buf buf' : Cursor UInt8} {id : UInt8}
    {ies : Ieee802154Ies} (same : readIe16 buf' 0 = readIe16 buf 0) :
    parseHeaderIe buf' len id ies = parseHeaderIe buf len id ies := by
  unfold parseHeaderIe
  rw [same]

theorem parseElement_header {scan : IeScan} (state : scan.parsingState = .headerIe) :
    (∀ rest, rest.take scan.bufSize.toNat = scan.buf.rest.take scan.bufSize.toNat →
      parseElement conf (scan.withRest rest) = scan.failed) ∨
    (2 ≤ scan.bufSize.toNat ∧ ∃ value ies, ies.iePayloadIeOffset = UInt8.ofNat (scan.buf.offset + 2) ∧
      ∀ rest, rest.take 2 = scan.buf.rest.take 2 →
        parseElement conf (scan.withRest rest) = .returned value ies) ∨
    (2 ≤ scan.bufSize.toNat ∧
      ∀ rest, rest.take 2 = scan.buf.rest.take 2 → ∃ next,
        parseElement conf (scan.withRest rest) = .continued next ∧
        next.ies.iePayloadIeOffset = UInt8.ofNat (scan.buf.offset + 2) ∧
        next.parsingState = .payloadIe) ∨
    (4 ≤ scan.bufSize.toNat ∧ ∃ ies, ies.iePayloadIeOffset = scan.ies.iePayloadIeOffset ∧
      ∀ rest, rest.take 4 = scan.buf.rest.take 4 →
        parseElement conf (scan.withRest rest) = .continued
          ⟨⟨scan.buf.offset + 4, rest.drop 4⟩, scan.bufSize - 4, scan.nestedMlmeLen, .headerIe, ies⟩) := by
  by_cases short : scan.bufSize < 2
  · left
    intro rest _
    have short : (scan.withRest rest).bufSize < 2 := short
    rw [parseElement, if_pos short]
    rfl
  have size : 2 ≤ scan.bufSize.toNat := by
    rw [UInt8.lt_iff_toNat_lt] at short
    exact Nat.le_of_not_lt short
  have round : ∀ rest, rest.take 2 = scan.buf.rest.take 2 →
      parseElement conf (scan.withRest rest) =
        parseHeaderElement (readIe16 scan.buf 0) ((scan.withRest rest).advance 2) := by
    intro rest agree
    have desc : readIe16 (scan.withRest rest).buf 0 = readIe16 scan.buf 0 :=
      readIe16_congr agree (by omega)
    have long : ¬ (scan.withRest rest).bufSize < 2 := short
    unfold parseElement
    rw [if_neg long, desc]
    simp [IeScan.advance, IeScan.withRest, state]
  generalize readIe16 scan.buf 0 = ieDesc at round ⊢
  unfold parseHeaderElement at round
  dsimp only at round
  by_cases type : (ieDesc &&& 0x8000 != 0) = true
  · exact .inl fun rest agree => (round rest (take_congr size agree)).trans (if_pos type)
  · simp only [if_neg type] at round
    by_cases id : ((ieDesc &&& 0x7f80) >>> 7).toUInt8 = headerIeListTermination1
    · simp only [if_pos id] at round
      by_cases len : ieDesc &&& 0x7f = 0
      · simp only [if_pos len] at round
        exact .inr (.inr (.inl ⟨size, fun rest agree => ⟨_, round rest agree, rfl, rfl⟩⟩))
      · exact .inl fun rest agree => (round rest (take_congr size agree)).trans (if_neg len)
    · simp only [if_neg id] at round
      by_cases id : ((ieDesc &&& 0x7f80) >>> 7).toUInt8 = headerIeListTermination2
      · simp only [if_pos id] at round
        by_cases len : ieDesc &&& 0x7f = 0
        · simp only [if_pos len] at round
          exact .inr (.inl ⟨size, (scan.advance 2).buf.offset, (scan.advance 2).saveOffset.ies, rfl,
            round⟩)
        · exact .inl fun rest agree => (round rest (take_congr size agree)).trans (if_neg len)
      · simp only [if_neg id] at round
        by_cases fits : (ieDesc &&& 0x7f).toNat > (scan.advance 2).bufSize.toNat
        · exact .inl fun rest agree => (round rest (take_congr size agree)).trans (if_pos fits)
        by_cases correction :
            ((ieDesc &&& 0x7f80) >>> 7).toUInt8 = headerIeAckNackTimeCorrection ∧ ieDesc &&& 0x7f = 2
        · have room : 4 ≤ scan.bufSize.toNat := by
            rw [correction.2] at fits
            have rest : (scan.advance 2).bufSize.toNat = scan.bufSize.toNat - 2 :=
              UInt8.toNat_sub_of_le _ _ size
            rw [rest] at fits
            change ¬ 2 > scan.bufSize.toNat - 2 at fits
            omega
          obtain ⟨ies, parsed⟩ : ∃ ies, parseHeaderIe (scan.advance 2).buf (ieDesc &&& 0x7f)
              ((ieDesc &&& 0x7f80) >>> 7).toUInt8 scan.ies = some ies :=
            ⟨_, if_pos correction⟩
          have kept : ies.iePayloadIeOffset = scan.ies.iePayloadIeOffset := by
            rw [parseHeaderIe, if_pos correction] at parsed
            cases parsed
            rfl
          refine .inr (.inr (.inr ⟨room, ies, kept, fun rest agree => ?_⟩))
          have agree2 := take_congr (by omega : 2 ≤ 4) agree
          have same : parseHeaderIe ((scan.withRest rest).advance 2).buf (ieDesc &&& 0x7f)
              ((ieDesc &&& 0x7f80) >>> 7).toUInt8 ((scan.withRest rest).advance 2).ies =
                some ies := by
            rw [← parsed]
            have behind := congrArg (List.drop 2) agree
            rw [List.drop_take, List.drop_take] at behind
            exact parseHeaderIe_congr (readIe16_congr behind (by omega))
          refine (round rest agree2).trans ?_
          have still : ¬ (ieDesc &&& 0x7f).toNat > ((scan.withRest rest).advance 2).bufSize.toNat := fits
          have four : scan.bufSize - 2 - 2 = scan.bufSize - 4 := by grind
          unfold IeScan.parsed
          rw [if_neg still]
          simp only [same]
          rw [correction.2]
          simp only [IeScan.advance, IeScan.withRest, Cursor.skip, state]
          have two : UInt16.toNat 2 = 2 := rfl
          have twoByte : UInt16.toUInt8 2 = 2 := rfl
          rw [two, twoByte, four, List.drop_drop]
        · refine .inl fun rest agree => (round rest (take_congr size agree)).trans ?_
          have rejected : parseHeaderIe ((scan.withRest rest).advance 2).buf (ieDesc &&& 0x7f)
              ((ieDesc &&& 0x7f80) >>> 7).toUInt8 ((scan.withRest rest).advance 2).ies = none :=
            if_neg correction
          have still : ¬ (ieDesc &&& 0x7f).toNat > ((scan.withRest rest).advance 2).bufSize.toNat := fits
          simp only [IeScan.parsed, if_neg still, rejected]
          rfl

/-- The saved offset lies within the header IEs, or is the one from before where they are refused;
the bytes up to it decide it. -/
theorem parseElements_headerOffset (rounds : Nat) : ∀ scan : IeScan,
    scan.parsingState = .headerIe →
    (parseElements conf rounds scan).1 ≠ -1 ∨ scan.bufSize.toNat < rounds →
    let parsed := parseElements conf rounds scan
    ∃ stop, scan.buf.offset ≤ stop ∧ stop ≤ scan.buf.offset + scan.bufSize.toNat ∧
      (parsed.2.iePayloadIeOffset = UInt8.ofNat stop ∨
        parsed.1 = -1 ∧ parsed.2.iePayloadIeOffset = scan.ies.iePayloadIeOffset) ∧
      ∀ rounds' rest, scan.bufSize.toNat < rounds' →
        rest.take (stop - scan.buf.offset) = scan.buf.rest.take (stop - scan.buf.offset) →
        (parseElements conf rounds' (scan.withRest rest)).2.iePayloadIeOffset =
          parsed.2.iePayloadIeOffset := by
  induction rounds with
  | zero =>
    intro scan _ went
    rcases went with accepted | enough
    · exact absurd rfl accepted
    · omega
  | succ rounds ih =>
    intro scan state went
    have same : scan.withRest scan.buf.rest = scan := rfl
    rw [parseElements] at went ⊢
    by_cases ended : scan.bufSize = 0
    · refine ⟨scan.buf.offset, Nat.le_refl _, by omega, .inl ?_, ?_⟩
      · simp [ended, state, IeScan.saveOffset]
      · intro rounds' rest enough agree
        obtain ⟨count, rfl⟩ : ∃ count, rounds' = count + 1 := ⟨rounds' - 1, by omega⟩
        simp [parseElements, ended, IeScan.withRest, state, IeScan.saveOffset]
    have unfolded : ∀ rounds' rest, scan.bufSize.toNat < rounds' → ∃ count, rounds' = count + 1 ∧
        parseElements conf rounds' (scan.withRest rest) =
          match parseElement conf (scan.withRest rest) with
          | .returned value ies => (value, ies)
          | .continued next => parseElements conf count next := by
      intro rounds' rest enough
      refine ⟨rounds' - 1, by omega, ?_⟩
      obtain ⟨count, rfl⟩ : ∃ count, rounds' = count + 1 := ⟨rounds' - 1, by omega⟩
      have going : ¬ (scan.withRest rest).bufSize = 0 := ended
      rw [parseElements, if_neg going]
      rfl
    rw [if_neg ended] at went ⊢
    rcases parseElement_header conf state with
      failed | ⟨size, value, ies, offset, round⟩ | ⟨size, round⟩ | ⟨size, ies, kept, round⟩
    · have here := same ▸ failed scan.buf.rest rfl
      rw [here]
      refine ⟨scan.buf.offset + scan.bufSize.toNat, by omega, Nat.le_refl _, .inr ⟨rfl, rfl⟩, ?_⟩
      intro rounds' rest enough agree
      obtain ⟨count, -, there⟩ := unfolded rounds' rest enough
      rw [Nat.add_sub_cancel_left] at agree
      rw [there, failed rest agree]
      rfl
    · have here := same ▸ round scan.buf.rest rfl
      rw [here]
      refine ⟨scan.buf.offset + 2, by omega, by omega, .inl offset, ?_⟩
      intro rounds' rest enough agree
      obtain ⟨count, -, there⟩ := unfolded rounds' rest enough
      rw [Nat.add_sub_cancel_left] at agree
      rw [there, round rest agree]
    · obtain ⟨next, here, offset, behind⟩ := same ▸ round scan.buf.rest rfl
      have saved : (parseElements conf rounds next).2.iePayloadIeOffset = _ :=
        (parseElements_keepsOffset conf rounds next (by simp [behind])).trans offset
      rw [here]
      refine ⟨scan.buf.offset + 2, by omega, by omega, .inl saved, ?_⟩
      intro rounds' rest enough agree
      obtain ⟨count, -, there⟩ := unfolded rounds' rest enough
      rw [Nat.add_sub_cancel_left] at agree
      obtain ⟨next', elsewhere, offset', behind'⟩ := round rest agree
      rw [there, elsewhere]
      have kept' := parseElements_keepsOffset conf count next' (by simp [behind'])
      exact (kept'.trans offset').trans saved.symm
    · have here := same ▸ round scan.buf.rest rfl
      have left4 : (scan.bufSize - 4).toNat = scan.bufSize.toNat - 4 :=
        UInt8.toNat_sub_of_le _ _ size
      rw [here] at went ⊢
      obtain ⟨stop, low, high, saved, found⟩ := ih ⟨⟨scan.buf.offset + 4, scan.buf.rest.drop 4⟩,
        scan.bufSize - 4, scan.nestedMlmeLen, .headerIe, ies⟩ rfl
        (went.imp_right fun enough => by dsimp only; omega)
      dsimp only at low high saved found
      rw [left4] at high found
      rw [kept] at saved
      refine ⟨stop, by omega, by omega, saved, ?_⟩
      intro rounds' rest enough agree
      obtain ⟨count, rfl, there⟩ := unfolded rounds' rest enough
      have agree4 := take_congr (by omega : 4 ≤ stop - scan.buf.offset) agree
      rw [there, round rest agree4]
      refine found count (rest.drop 4) (by omega) ?_
      have behind := congrArg (List.drop 4) agree
      rw [List.drop_take, List.drop_take] at behind
      have span : stop - scan.buf.offset - 4 = stop - (scan.buf.offset + 4) := by omega
      rw [span] at behind
      exact behind

end MultiPhyTsch
