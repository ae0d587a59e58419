import MultiPhyTsch.Frame.IeReads

/-! Where `frame802154e_parse_information_elements` stays inside its buffer. Most elements are
compared with the bytes that are left before they are read. A 6top IE is not compared at all, and
two sub-IEs have a byte read that lies behind the length that was compared. -/

namespace MultiPhyTsch

open Reads

variable (conf : IeConf)

variable (scan : IeScan)

def IeScan.left : Nat := scan.bufSize.toNat - 2

def IeScan.ieDesc : UInt16 := readIe16 scan.buf 0

def IeScan.ietfLen : Option UInt16 :=
  if scan.parsingState = .payloadIe ∧ scan.ieDesc &&& 0x8000 ≠ 0 ∧ conf.withSixtop = true ∧
      ((scan.ieDesc &&& 0x7800) >>> 11).toUInt8 = payloadIeIetf then
    some (scan.ieDesc &&& 0x7ff)
  else none

def IeScan.uncheckedReach : Nat :=
  match scan.parsingState with
  | .headerIe => 0
  | .payloadIe => if (scan.ietfLen conf).isSome then 1 else 0
  | .mlmeSubie =>
    if scan.ieDesc &&& 0x8000 = 0 then
      if ((scan.ieDesc &&& 0x7f00) >>> 8).toUInt8 = mlmeShortIeTschSlotframeAndLink ∧
          1 ≤ (scan.ieDesc &&& 0xff).toNat ∧ (scan.ieDesc &&& 0xff).toNat ≤ scan.left then 5
      else 0
    else if ((scan.ieDesc &&& 0x7800) >>> 11).toUInt8 = mlmeLongIeTschChannelHoppingSequence ∧
        2 ≤ (scan.ieDesc &&& 0x7ff).toNat ∧ (scan.ieDesc &&& 0x7ff).toNat ≤ scan.left then 10
    else 0

/-- The bytes that are read without regard to the length of the element are there, and a 6top IE
does not go beyond the buffer, unless the count of what is left wraps to a single byte. -/
def IeScan.Fits : Prop :=
  2 ≤ scan.bufSize.toNat → scan.uncheckedReach conf ≤ scan.left ∧
    ∀ len ∈ scan.ietfLen conf, len.toNat ≤ scan.left ∨ (len.toNat - scan.left) % 256 = 255

def ieStep : Option IeScan :=
  if scan.bufSize = 0 then none
  else
    match parseElement conf scan with
    | .returned _ _ => none
    | .continued next => some next

/-- The loop returns within `fuel` rounds, reads nothing at or behind `size`, and returns no more
than `size`. -/
def Bounded (memory : List UInt8) (size fuel : Nat) (scan : IeScan) : Prop :=
  ∃ result, (readElements conf fuel scan).value (bytesOf memory) = some result ∧
    (readElements conf fuel scan).Below (bytesOf memory) size ∧
    (0 ≤ result.1 → result.1 ≤ size)

section parsers

variable (memory : Nat → UInt8) (p left : Nat) {len : UInt16} (ies : Ieee802154Ies)

theorem below_readWord (limit : Nat) : (readWord p).Below memory limit ↔ p + 1 < limit := by
  simp only [readWord, below_bind, below_element, below_pure, and_true]
  omega

theorem below_readHeaderIe (elementId : UInt8) (inside : len.toNat ≤ left) :
    (readHeaderIe p len elementId ies).Below memory (p + left) := by
  unfold readHeaderIe
  rw [below_ite]
  refine ⟨fun known => ?_, fun _ => below_pure _ _ _⟩
  have two : len.toNat = 2 := congrArg UInt16.toNat known.2
  simp only [below_bind, below_readWord, below_pure, and_true]
  omega

theorem below_readSynchronization (inside : len.toNat ≤ left) :
    (readSynchronization p len ies).Below memory (p + left) := by
  unfold readSynchronization
  rw [below_ite]
  refine ⟨fun known => ?_, fun _ => below_pure _ _ _⟩
  have six : len.toNat = 6 := congrArg UInt16.toNat known
  simp only [below_bind, below_elements, below_pure, and_true]
  omega

theorem below_readTimeslot (inside : len.toNat ≤ left) :
    (readTimeslot p len ies).Below memory (p + left) := by
  unfold readTimeslot
  rw [below_ite]
  refine ⟨fun known => ?_, fun _ => below_pure _ _ _⟩
  rw [below_bind, below_ite]
  refine ⟨?_, fun explicit => ?_, fun _ => below_pure _ _ _⟩
  · have positive : 1 ≤ len.toNat := by
      rcases known with rfl | rfl
      · exact Nat.le_refl 1
      · exact (by decide : 1 ≤ UInt16.toNat 25)
    rw [below_element]
    omega
  · have long : len.toNat = 25 := congrArg UInt16.toNat explicit
    simp only [below_bind, below_elements, below_pure, and_true]
    omega

theorem below_readSlotframeLinks (numLinks : Nat) (links : Vector TschSlotframeAndLinksLink 4)
    (inside : 5 + 5 * numLinks ≤ left) :
    (readSlotframeLinks p numLinks links).Below memory (p + left) := by
  unfold readSlotframeLinks
  simp only [below_bind, below_elements, below_pure, and_true]
  omega

theorem below_readSlotframeAndLink (inside : len.toNat ≤ left) :
    (readSlotframeAndLink p len ies).Below memory (p + left) ↔ (1 ≤ len.toNat → 5 ≤ left) := by
  have empty : len < 1 ↔ ¬ 1 ≤ len.toNat := by
    rw [UInt16.lt_iff_toNat_lt]
    exact Nat.not_le.symm
  unfold readSlotframeAndLink
  rw [below_ite, empty]
  constructor
  · intro below some
    have reads := below.2 (not_not.mpr some)
    rw [below_bind, below_bind, below_element, below_element] at reads
    omega
  · intro room
    refine ⟨fun _ => below_pure _ _ _, fun filled => ?_⟩
    have five := room (not_not.mp filled)
    simp only [below_bind, below_element, below_ite, below_pure, below_readWord, implies_true,
      true_and, and_true]
    simp only [value_element]
    refine ⟨by omega, by omega, fun one listed => ?_⟩
    have positive : 1 ≤ (memory p).toNat :=
      Nat.one_le_iff_ne_zero.mpr fun zero => one (UInt8.toNat_inj.mp zero)
    have count := Nat.le_mul_of_pos_left (4 + 5 * (memory (p + 4)).toNat) positive
    exact ⟨by omega, by omega, by omega, by omega,
      below_readSlotframeLinks memory p left _ _ (by omega)⟩

theorem below_readMlmeShortIe (subId : UInt8) (inside : len.toNat ≤ left) :
    (readMlmeShortIe p len subId ies).Below memory (p + left) ↔
      (subId = mlmeShortIeTschSlotframeAndLink → 1 ≤ len.toNat → 5 ≤ left) := by
  unfold readMlmeShortIe
  by_cases slotframe : subId = mlmeShortIeTschSlotframeAndLink
  · rw [if_pos slotframe, below_readSlotframeAndLink memory p left ies inside]
    exact ⟨fun room _ => room, fun room => room slotframe⟩
  · rw [if_neg slotframe]
    refine iff_of_true ?_ fun same => absurd same slotframe
    simp only [below_ite, below_pure, below_readSynchronization memory p left ies inside,
      below_readTimeslot memory p left ies inside, implies_true, and_self]

theorem below_readMlmeLongIe (subId : UInt8) (inside : len.toNat ≤ left) :
    (readMlmeLongIe conf p len subId ies).Below memory (p + left) ↔
      (subId = mlmeLongIeTschChannelHoppingSequence → 2 ≤ len.toNat → 10 ≤ left) := by
  have positive : len > 0 ↔ 1 ≤ len.toNat := by
    rw [gt_iff_lt, UInt16.lt_iff_toNat_lt]
    exact Nat.succ_le_iff.symm
  have explicit : len > 1 ↔ 2 ≤ len.toNat := by
    rw [gt_iff_lt, UInt16.lt_iff_toNat_lt]
    exact Nat.succ_le_iff.symm
  unfold readMlmeLongIe
  rw [below_ite, positive]
  constructor
  · intro below known long
    have reads := below.1 ⟨known, by omega⟩
    rw [below_bind, below_ite, explicit] at reads
    have word := reads.2.1 long
    rw [below_bind, below_readWord] at word
    omega
  · intro room
    refine ⟨fun known => ?_, fun _ => below_pure _ _ _⟩
    rw [below_bind, below_ite, explicit, below_element]
    refine ⟨by omega, fun long => ?_, fun _ => below_pure _ _ _⟩
    have ten := room known.1 long
    simp only [below_bind, below_readWord, below_ite, below_pure, below_elements, implies_true,
      and_true]
    exact ⟨by omega, fun fits => by omega⟩

theorem below_readParsed (scan : IeScan) (len : UInt16) (limit : Nat)
    (parser : Reads UInt8 (Option Ieee802154Ies)) :
    (readParsed scan len parser).Below memory limit ↔
      (len.toNat ≤ scan.bufSize.toNat → parser.Below memory limit) := by
  unfold readParsed
  rw [below_ite, Nat.not_lt]
  simp only [below_pure, below_bind, and_true, implies_true, true_and]

end parsers

theorem toNat_advance_two {scan : IeScan} (long : 2 ≤ scan.bufSize.toNat) :
    (scan.advance 2).bufSize.toNat = scan.left := by
  have two : (2 : UInt8) ≤ scan.bufSize := UInt8.le_iff_toNat_le.mpr long
  exact UInt8.toNat_sub_of_le _ _ two

section round

variable {conf} {memory : List UInt8} {scan : IeScan} {size : Nat}

section

variable (desc : UInt16) (room : scan.buf.offset + scan.bufSize.toNat = size)
include room

theorem below_readHeaderElement : (readHeaderElement desc scan).Below (bytesOf memory) size := by
  unfold readHeaderElement
  simp only [below_ite, below_pure, implies_true, true_and, below_readParsed]
  intro _ _ _ inside
  rw [← room]
  exact below_readHeaderIe (bytesOf memory) scan.buf.offset scan.bufSize.toNat scan.ies _ inside

theorem below_readPayloadElement :
    (readPayloadElement conf desc scan).Below (bytesOf memory) size ↔
      (desc &&& 0x8000 ≠ 0 → conf.withSixtop = true →
        ((desc &&& 0x7800) >>> 11).toUInt8 = payloadIeIetf → 1 ≤ scan.bufSize.toNat) := by
  unfold readPayloadElement
  simp only [below_ite, below_pure, below_bind, below_element, and_true, implies_true, true_and,
    Bool.and_eq_true, beq_iff_eq, and_imp]
  constructor
  · intro below type sixtop ietf
    have other : ¬ ((desc &&& 0x7800) >>> 11).toUInt8 = payloadIeMlme := by
      rw [ietf]
      decide
    have first := below type other sixtop ietf
    omega
  · intro filled type _ sixtop ietf
    have some := filled type sixtop ietf
    omega

theorem below_readMlmeElement :
    (readMlmeElement conf desc scan).Below (bytesOf memory) size ↔
      if desc &&& 0x8000 = 0 then
        ((desc &&& 0x7f00) >>> 8).toUInt8 = mlmeShortIeTschSlotframeAndLink →
          1 ≤ (desc &&& 0xff).toNat → (desc &&& 0xff).toNat ≤ scan.bufSize.toNat →
            5 ≤ scan.bufSize.toNat
      else
        ((desc &&& 0x7800) >>> 11).toUInt8 = mlmeLongIeTschChannelHoppingSequence →
          2 ≤ (desc &&& 0x7ff).toNat → (desc &&& 0x7ff).toNat ≤ scan.bufSize.toNat →
            10 ≤ scan.bufSize.toNat := by
  unfold readMlmeElement
  by_cases type : desc &&& 0x8000 = 0
  · rw [if_pos type, if_pos type, below_bind, below_readParsed, ← room]
    constructor
    · intro below slotframe some inside
      exact (below_readMlmeShortIe _ _ _ _ _ inside).mp (below.1 inside) slotframe some
    · intro reach
      refine ⟨fun inside => ?_, below_pure _ _ _⟩
      exact (below_readMlmeShortIe _ _ _ _ _ inside).mpr fun slotframe some =>
        reach slotframe some inside
  · rw [if_neg type, if_neg type, below_bind, below_readParsed, ← room]
    constructor
    · intro below hopping some inside
      exact (below_readMlmeLongIe conf _ _ _ _ _ inside).mp (below.1 inside) hopping some
    · intro reach
      refine ⟨fun inside => ?_, below_pure _ _ _⟩
      exact (below_readMlmeLongIe conf _ _ _ _ _ inside).mpr fun hopping some =>
        reach hopping some inside

end

theorem bufSize_zero_iff : scan.bufSize = 0 ↔ scan.bufSize.toNat = 0 := UInt8.toNat_inj.symm

theorem bufSize_short_iff : scan.bufSize < 2 ↔ scan.bufSize.toNat < 2 := UInt8.lt_iff_toNat_lt

theorem below_readElement (inside : scan.Inside memory) (long : 2 ≤ scan.bufSize.toNat)
    (room : scan.buf.offset + scan.bufSize.toNat = size) :
    (readElement conf scan).Below (bytesOf memory) size ↔ scan.uncheckedReach conf ≤ scan.left := by
  have enough : ¬ scan.bufSize < 2 := mt bufSize_short_iff.mp (Nat.not_lt.mpr long)
  have left := toNat_advance_two long
  have offset : (scan.advance 2).buf.offset = scan.buf.offset + 2 := rfl
  have after : (scan.advance 2).buf.offset + (scan.advance 2).bufSize.toNat = size := by
    rw [left, offset, IeScan.left]
    omega
  have word : (readWord scan.buf.offset).value (bytesOf memory) = scan.ieDesc := by
    have word := readWord_value memory scan.buf.offset 0
    rwa [Nat.add_zero, ← inside] at word
  unfold readElement
  rw [if_neg enough, below_bind, below_readWord, word]
  dsimp only
  have state : (scan.advance 2).parsingState = scan.parsingState := rfl
  rw [state, and_iff_right (by omega)]
  unfold IeScan.uncheckedReach IeScan.ietfLen
  cases scan.parsingState with
  | headerIe => exact iff_of_true (below_readHeaderElement _ after) (Nat.zero_le _)
  | payloadIe =>
    dsimp only
    rw [below_readPayloadElement _ after, left]
    by_cases ietf : scan.ieDesc &&& 0x8000 ≠ 0 ∧ conf.withSixtop = true ∧
        ((scan.ieDesc &&& 0x7800) >>> 11).toUInt8 = payloadIeIetf
    · simp only [eq_self, true_and, if_pos ietf, Option.isSome_some, if_true]
      exact ⟨fun reach => reach ietf.1 ietf.2.1 ietf.2.2, fun reach _ _ _ => reach⟩
    · simp only [eq_self, true_and, if_neg ietf, Option.isSome_none, Bool.false_eq_true, if_false]
      exact iff_of_true (fun type sixtop id => absurd ⟨type, sixtop, id⟩ ietf) (Nat.zero_le _)
  | mlmeSubie =>
    dsimp only
    rw [below_readMlmeElement _ after, left]
    by_cases type : scan.ieDesc &&& 0x8000 = 0
    · rw [if_pos type, if_pos type]
      split
      next known => exact ⟨fun reach => reach known.1 known.2.1 known.2.2, fun reach _ _ _ => reach⟩
      next other =>
        exact iff_of_true (fun id some fits => absurd ⟨id, some, fits⟩ other) (Nat.zero_le _)
    · rw [if_neg type, if_neg type]
      split
      next known => exact ⟨fun reach => reach known.1 known.2.1 known.2.2, fun reach _ _ _ => reach⟩
      next other =>
        exact iff_of_true (fun id some fits => absurd ⟨id, some, fits⟩ other) (Nat.zero_le _)

end round

/-- What a round makes of the scan behind its descriptor: it fails, ends there, or goes on behind
an element of `len` bytes, which are there unless the element is a 6top IE. -/
def IeRound.Of (after : IeScan) (ietf : Option UInt16) : IeRound → Prop
  | .returned value _ => value = -1 ∨ value = after.buf.offset
  | .continued next => ∃ len : UInt16, next.buf = (after.advance len).buf ∧
      next.bufSize = (after.advance len).bufSize ∧
      (len.toNat ≤ after.bufSize.toNat ∨ ietf = some len)

section outcome

variable (after : IeScan) {ietf : Option UInt16}

theorem IeScan.of_failed : after.failed.Of after ietf := .inl rfl

theorem IeScan.of_empty {next : IeScan} (buf : next.buf = after.buf)
    (bufSize : next.bufSize = after.bufSize) : (IeRound.continued next).Of after ietf := by
  refine ⟨0, ?_, ?_, .inl (Nat.zero_le _)⟩
  · rw [buf]
    rfl
  · rw [bufSize, advance]
    exact (UInt8.sub_zero _).symm

theorem IeScan.of_parsed (len : UInt16) (ies : Option Ieee802154Ies) :
    (after.parsed len ies).Of after ietf := by
  unfold parsed
  by_cases long : len.toNat > after.bufSize.toNat
  · rw [if_pos long]
    exact after.of_failed
  · rw [if_neg long]
    cases ies with
    | none => exact after.of_failed
    | some ies => exact ⟨len, rfl, rfl, .inl (Nat.not_lt.mp long)⟩

theorem of_parseHeaderElement (desc : UInt16) : (parseHeaderElement desc after).Of after ietf := by
  unfold parseHeaderElement
  dsimp only
  split
  · exact after.of_failed
  · split
    · split
      · exact after.of_empty rfl rfl
      · exact after.of_failed
    · split
      · split
        · exact .inr rfl
        · exact after.of_failed
      · exact after.of_parsed _ _

theorem of_parsePayloadElement (desc : UInt16)
    (announced : desc &&& 0x8000 ≠ 0 → conf.withSixtop = true →
      ((desc &&& 0x7800) >>> 11).toUInt8 = payloadIeIetf → ietf = some (desc &&& 0x7ff)) :
    (parsePayloadElement conf desc after).Of after ietf := by
  unfold parsePayloadElement
  dsimp only
  split
  · exact after.of_failed
  next type =>
    split
    · exact after.of_empty rfl rfl
    · split
      next sixtop =>
        rw [Bool.and_eq_true, beq_iff_eq] at sixtop
        exact ⟨_, rfl, rfl, .inr (announced type sixtop.1 sixtop.2)⟩
      · split
        · split
          · exact .inr rfl
          · exact .inl rfl
        · exact after.of_failed

theorem of_closeSubie (len : UInt16) {round : IeRound} (of : round.Of after ietf) :
    (closeSubie len round).Of after ietf := by
  cases round with
  | returned value ies => exact of
  | continued next =>
    unfold closeSubie
    dsimp only
    split
    · exact .inl rfl
    · exact of

theorem of_parseMlmeElement (desc : UInt16) : (parseMlmeElement conf desc after).Of after ietf := by
  unfold parseMlmeElement
  split
  · exact of_closeSubie after _ (after.of_parsed _ _)
  · exact of_closeSubie after _ (after.of_parsed _ _)

theorem of_parseElement {scan : IeScan} (long : 2 ≤ scan.bufSize.toNat) :
    (parseElement conf scan).Of (scan.advance 2) (scan.ietfLen conf) := by
  have enough : ¬ scan.bufSize < 2 := mt bufSize_short_iff.mp (Nat.not_lt.mpr long)
  have state : (scan.advance 2).parsingState = scan.parsingState := rfl
  unfold parseElement
  rw [if_neg enough]
  dsimp only
  rw [state]
  cases here : scan.parsingState with
  | headerIe => exact of_parseHeaderElement (scan.advance 2) _
  | payloadIe =>
    refine of_parsePayloadElement conf (scan.advance 2) _ fun type sixtop id => ?_
    exact if_pos ⟨here, type, sixtop, id⟩
  | mlmeSubie => exact of_parseMlmeElement conf (scan.advance 2) _

theorem parseElement_ietf {scan : IeScan} {len : UInt16} (long : 2 ≤ scan.bufSize.toNat)
    (known : scan.ietfLen conf = some len) :
    ∃ ies, parseElement conf scan = .continued ({ scan.advance 2 with ies := ies }.advance len) := by
  have enough : ¬ scan.bufSize < 2 := mt bufSize_short_iff.mp (Nat.not_lt.mpr long)
  have state : (scan.advance 2).parsingState = scan.parsingState := rfl
  unfold IeScan.ietfLen at known
  split at known
  next ietf =>
    obtain ⟨payload, type, sixtop, id⟩ := ietf
    obtain rfl := Option.some.inj known
    have other : ¬ ((scan.ieDesc &&& 0x7800) >>> 11).toUInt8 = payloadIeMlme := by
      rw [id]
      decide
    have chosen : (conf.withSixtop && ((scan.ieDesc &&& 0x7800) >>> 11).toUInt8 == payloadIeIetf) =
        true := by
      rw [sixtop, id]
      rfl
    unfold parseElement
    rw [if_neg enough]
    dsimp only
    rw [state, payload]
    change ∃ ies, parsePayloadElement conf scan.ieDesc (scan.advance 2) = _
    unfold parsePayloadElement
    dsimp only
    rw [if_neg type, if_neg other, if_pos chosen, state, payload]
    exact ⟨_, rfl⟩
  · cases known

end outcome

theorem toNat_advance (scan : IeScan) (len : UInt16) : (scan.advance len).bufSize.toNat =
    (256 - len.toNat % 256 + scan.bufSize.toNat) % 256 := by
  change (scan.bufSize - len.toUInt8).toNat = _
  rw [UInt8.toNat_sub, UInt16.toNat_toUInt8]

section loop

variable {conf} {memory : List UInt8} {size fuel : Nat} {scan : IeScan}

theorem bounded_end (ended : scan.bufSize = 0) :
    Bounded conf memory size (fuel + 1) scan ↔ scan.buf.offset ≤ size := by
  unfold Bounded readElements
  simp only [if_pos ended, value_pure, below_pure, Option.some.injEq, true_and, exists_eq_left']
  omega

theorem bounded_round (more : scan.bufSize ≠ 0) (inside : scan.Inside memory) :
    Bounded conf memory size (fuel + 1) scan ↔
      (readElement conf scan).Below (bytesOf memory) size ∧
        match parseElement conf scan with
        | .returned value _ => 0 ≤ value → value ≤ size
        | .continued next => Bounded conf memory size fuel next := by
  unfold Bounded
  rw [readElements, if_neg more, value_bind, below_bind, readElement_value conf inside]
  cases parseElement conf scan with
  | returned value ies =>
    simp only [value_pure, below_pure, Option.some.injEq, and_true, exists_eq_left']
  | continued next =>
    dsimp only
    constructor
    · rintro ⟨result, found, ⟨here, later⟩, within⟩
      exact ⟨here, result, found, later, within⟩
    · rintro ⟨here, result, found, later, within⟩
      exact ⟨result, found, ⟨here, later⟩, within⟩

theorem parseElement_cut (cut : scan.bufSize.toNat = 1) : parseElement conf scan = scan.failed := by
  have short : scan.bufSize < 2 := bufSize_short_iff.mpr (by omega)
  exact if_pos short

theorem bounded_cut (cut : scan.bufSize.toNat = 1) (inside : scan.Inside memory) :
    Bounded conf memory size (fuel + 1) scan := by
  have short : scan.bufSize < 2 := bufSize_short_iff.mpr (by omega)
  rw [bounded_round (by rw [Ne, bufSize_zero_iff]; omega) inside, parseElement_cut cut]
  refine ⟨?_, fun nonnegative => absurd nonnegative (by decide)⟩
  unfold readElement
  rw [if_pos short]
  exact below_pure _ _ _

theorem fits_cut (cut : scan.bufSize.toNat = 1) (state : IeScan)
    (visits : Loop.Visits (ieStep conf) scan state) : state.Fits conf := by
  rcases Loop.visits_cases visits with rfl | ⟨next, stepped, -⟩
  · intro long
    omega
  · rw [ieStep, if_neg (by rw [bufSize_zero_iff]; omega), parseElement_cut cut] at stepped
    cases stepped

theorem not_bounded_beyond (inside : scan.Inside memory) (beyond : size < scan.buf.offset)
    (many : scan.bufSize.toNat ≠ 1) : ¬ Bounded conf memory size fuel scan := by
  cases fuel with
  | zero =>
    rintro ⟨result, none, -⟩
    cases none
  | succ fuel =>
    by_cases ended : scan.bufSize = 0
    · rw [bounded_end ended]
      omega
    · rw [bounded_round ended inside]
      rintro ⟨reads, -⟩
      rw [bufSize_zero_iff] at ended
      have enough : ¬ scan.bufSize < 2 := by
        rw [bufSize_short_iff]
        omega
      unfold readElement at reads
      rw [if_neg enough, below_bind, below_readWord] at reads
      omega

theorem IeScan.Inside.of_buf {next : IeScan} (inside : scan.Inside memory)
    (buf : next.buf = scan.buf) : next.Inside memory := by
  unfold IeScan.Inside
  rw [buf]
  exact inside

theorem bounded_iff_fits : ∀ {fuel : Nat} {scan : IeScan}, scan.Inside memory →
    scan.buf.offset + scan.bufSize.toNat = size → scan.bufSize.toNat / 2 < fuel →
    (Bounded conf memory size fuel scan ↔
      ∀ state, Loop.Visits (ieStep conf) scan state → state.Fits conf) := by
  intro fuel
  induction fuel with
  | zero => exact fun _ _ enough => absurd enough (Nat.not_lt_zero _)
  | succ fuel ih =>
    intro scan inside room enough
    by_cases ended : scan.bufSize = 0
    · rw [bounded_end ended, Loop.forall_visits_iff]
      have none : scan.bufSize.toNat = 0 := bufSize_zero_iff.mp ended
      have left : ieStep conf scan = .none := if_pos ended
      refine iff_of_true (by omega) ⟨fun long => by omega, fun next stepped => ?_⟩
      rw [left] at stepped
      cases stepped
    by_cases cut : scan.bufSize.toNat = 1
    · exact iff_of_true (bounded_cut cut inside) (fits_cut cut)
    have long : 2 ≤ scan.bufSize.toNat := by
      rw [bufSize_zero_iff] at ended
      omega
    have left := toNat_advance_two long
    have outcome := of_parseElement conf long
    have stepped : ieStep conf scan = match parseElement conf scan with
        | .returned _ _ => none
        | .continued next => some next := if_neg ended
    rw [bounded_round ended inside, below_readElement inside long room, Loop.forall_visits_iff, stepped]
    by_cases reach : scan.uncheckedReach conf ≤ scan.left
    · have fits : scan.Fits conf ↔ ∀ len ∈ scan.ietfLen conf,
          len.toNat ≤ scan.left ∨ (len.toNat - scan.left) % 256 = 255 :=
        ⟨fun fits => (fits long).2, fun each _ => ⟨reach, each⟩⟩
      rw [and_iff_right reach, fits]
      cases round : parseElement conf scan with
      | returned value ies =>
        rw [round] at outcome
        refine iff_of_true ?_ ⟨fun len announced => ?_, fun next absent => nomatch absent⟩
        · rcases outcome with failed | here
          · omega
          · have two : (scan.advance 2).buf.offset = scan.buf.offset + 2 := rfl
            omega
        · obtain ⟨stored, on⟩ := parseElement_ietf conf long announced
          rw [round] at on
          cases on
      | continued next =>
        rw [round] at outcome
        obtain ⟨len, buf, bufSize, passed⟩ := outcome
        have place : next.buf.offset = scan.buf.offset + 2 + len.toNat := by
          rw [buf]
          rfl
        have there : next.Inside memory := ((inside.advance 2).advance len).of_buf buf
        have count : next.bufSize.toNat = (256 - len.toNat % 256 + scan.left) % 256 := by
          rw [bufSize, toNat_advance, left]
        have bound := scan.bufSize.toNat_lt
        have leftEq : scan.left = scan.bufSize.toNat - 2 := rfl
        simp only [Option.some.injEq, forall_eq']
        by_cases inBuffer : len.toNat ≤ scan.left
        · have same : ∀ other ∈ scan.ietfLen conf, other.toNat = len.toNat := by
            intro other announced
            obtain ⟨stored, on⟩ := parseElement_ietf conf long announced
            obtain rfl := IeRound.continued.inj (round.symm.trans on)
            have again : scan.buf.offset + 2 + other.toNat = scan.buf.offset + 2 + len.toNat := place
            omega
          rw [and_iff_right fun other announced => .inl (by rw [same other announced]; exact inBuffer)]
          exact ih there (by omega) (by omega)
        · have announced : scan.ietfLen conf = some len := passed.resolve_left (by rwa [left])
          rw [announced]
          simp only [Option.mem_some_iff, forall_eq', inBuffer, false_or]
          by_cases wraps : (len.toNat - scan.left) % 256 = 255
          · obtain ⟨rounds, rfl⟩ : ∃ rounds, fuel = rounds + 1 := ⟨fuel - 1, by omega⟩
            exact iff_of_true (bounded_cut (by omega) there) ⟨wraps, fits_cut (by omega)⟩
          · refine iff_of_false (not_bounded_beyond there (by omega) (by omega)) fun both => wraps both.1
    · refine iff_of_false (fun both => reach both.1) fun both => reach (both.1 long).1

theorem readElements_value : ∀ {fuel : Nat} {scan : IeScan} {result : Int × Ieee802154Ies},
    scan.Inside memory → (readElements conf fuel scan).value (bytesOf memory) = some result →
    parseElements conf fuel scan = result := by
  intro fuel
  induction fuel with
  | zero => exact fun _ found => nomatch found
  | succ fuel ih =>
    intro scan result inside found
    unfold readElements at found
    unfold parseElements
    by_cases ended : scan.bufSize = 0
    · rw [if_pos ended] at found ⊢
      exact Option.some.inj found
    · rw [if_neg ended, value_bind, readElement_value conf inside] at found
      rw [if_neg ended]
      cases round : parseElement conf scan with
      | returned value ies =>
        rw [round] at found
        exact Option.some.inj found
      | continued next =>
        rw [round] at found
        refine ih ?_ found
        by_cases short : scan.bufSize < 2
        · rw [parseElement, if_pos short] at round
          cases round
        · have outcome := @of_parseElement conf scan (Nat.not_lt.mp (mt bufSize_short_iff.mpr short))
          rw [round] at outcome
          obtain ⟨len, buf, -, -⟩ := outcome
          exact ((inside.advance 2).advance len).of_buf buf

end loop

def ieStart (memory : List UInt8) (bufSize : UInt8) (ies : Ieee802154Ies) : IeScan :=
  ⟨Cursor.start memory, bufSize, 0, .headerIe, { ies with iePayloadIeOffset := 0 }⟩

/-- The parser returns, has read no byte at or behind `buf_size`, and does not claim to have
parsed more. -/
def ParsesInBounds (memory : List UInt8) (bufSize : UInt8) (ies : Ieee802154Ies) : Prop :=
  let parsed := frame802154eParseInformationElements conf memory bufSize ies
  let run := readElements conf (memory.length + 1) (ieStart memory bufSize ies)
  run.value (bytesOf memory) = some parsed ∧ run.Below (bytesOf memory) bufSize.toNat ∧
    (0 ≤ parsed.1 → parsed.1 ≤ bufSize.toNat)

theorem parsesInBounds_iff (memory : List UInt8) (bufSize : UInt8) (ies : Ieee802154Ies)
    (buffer : bufSize.toNat ≤ memory.length) :
    ParsesInBounds conf memory bufSize ies ↔
      ∀ scan, Loop.Visits (ieStep conf) (ieStart memory bufSize ies) scan → scan.Fits conf := by
  have inside : (ieStart memory bufSize ies).Inside memory := rfl
  have room : (ieStart memory bufSize ies).buf.offset + (ieStart memory bufSize ies).bufSize.toNat =
      bufSize.toNat := Nat.zero_add _
  have enough : (ieStart memory bufSize ies).bufSize.toNat / 2 < memory.length + 1 := by
    change bufSize.toNat / 2 < _
    omega
  rw [← bounded_iff_fits inside room enough]
  constructor
  · rintro ⟨found, below, within⟩
    exact ⟨_, found, below, within⟩
  · rintro ⟨result, found, below, within⟩
    have parsed : frame802154eParseInformationElements conf memory bufSize ies = result :=
      readElements_value inside found
    rw [← parsed] at found within
    exact ⟨found, below, within⟩

theorem emptyMlme_inBounds :
    ParsesInBounds ⟨16, true⟩ [0x00, 0x3f, 0x00, 0x88] 4 (iesZero ⟨16, true⟩) ∧
      ∀ scan, Loop.Visits (ieStep ⟨16, true⟩)
        (ieStart [0x00, 0x3f, 0x00, 0x88] 4 (iesZero ⟨16, true⟩)) scan → scan.Fits ⟨16, true⟩ := by
  have inBounds : ParsesInBounds ⟨16, true⟩ [0x00, 0x3f, 0x00, 0x88] 4 (iesZero ⟨16, true⟩) := by
    unfold ParsesInBounds Below
    decide +kernel
  exact ⟨inBounds, (parsesInBounds_iff ⟨16, true⟩ _ 4 _ (by decide)).mp inBounds⟩

theorem overlongIetf_outOfBounds : ¬ ∀ (conf : IeConf) (memory : List UInt8) (bufSize : UInt8)
    (ies : Ieee802154Ies), bufSize.toNat ≤ memory.length → ParsesInBounds conf memory bufSize ies := by
  intro all
  obtain ⟨-, -, within⟩ := all ⟨16, true⟩ [0x00, 0x3f, 0x00, 0xa9] 4 (iesZero ⟨16, true⟩) (by decide)
  revert within
  decide +kernel

end MultiPhyTsch
