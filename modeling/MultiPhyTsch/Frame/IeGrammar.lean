import Mathlib.Logic.Relation
import MultiPhyTsch.Frame.IeBounds
import MultiPhyTsch.Frame.MlmeElements

/-! The lists of information elements that `frame802154e_parse_information_elements` is meant to
accept, and where it does not: at the end of the buffer it does not ask whether an MLME IE is
complete, it leaves an MLME IE only behind a sub-IE, and it does not look for the end of a 6top
IE. -/

namespace MultiPhyTsch

def HeaderDesc (desc : UInt16) (id : UInt8) (len : Nat) : Prop :=
  desc &&& 0x8000 = 0 ∧ ((desc &&& 0x7f80) >>> 7).toUInt8 = id ∧ (desc &&& 0x7f).toNat = len

def PayloadDesc (desc : UInt16) (id : UInt8) (len : Nat) : Prop :=
  desc &&& 0x8000 ≠ 0 ∧ ((desc &&& 0x7800) >>> 11).toUInt8 = id ∧ (desc &&& 0x7ff).toNat = len

def ShortDesc (desc : UInt16) (id : UInt8) (len : Nat) : Prop :=
  desc &&& 0x8000 = 0 ∧ ((desc &&& 0x7f00) >>> 8).toUInt8 = id ∧ (desc &&& 0xff).toNat = len

instance (desc : UInt16) (id : UInt8) (len : Nat) : Decidable (HeaderDesc desc id len) :=
  inferInstanceAs (Decidable (_ ∧ _))

instance (desc : UInt16) (id : UInt8) (len : Nat) : Decidable (PayloadDesc desc id len) :=
  inferInstanceAs (Decidable (_ ∧ _))

def HeaderIe (desc : UInt16) (content : List UInt8) : Prop :=
  HeaderDesc desc headerIeAckNackTimeCorrection content.length ∧ content.length = 2

def SlotframeContent (content : List UInt8) : Prop :=
  1 ≤ content.length ∧ (content.getD 0 0 = 0 ∨
    content.getD 0 0 = 1 ∧ (content.getD 4 0).toNat ≤ ieMaxLinks ∧
      content.length = 5 + 5 * (content.getD 4 0).toNat)

inductive SubIe (desc : UInt16) (content : List UInt8) : Prop
  | slotframeAndLink : ShortDesc desc mlmeShortIeTschSlotframeAndLink content.length →
      SlotframeContent content → SubIe desc content
  | synchronization : ShortDesc desc mlmeShortIeTschSynchronization content.length →
      content.length = 6 → SubIe desc content
  | timeslot : ShortDesc desc mlmeShortIeTschTimeslot content.length →
      content.length = 1 ∨ content.length = 25 → SubIe desc content
  | channelHoppingSequence :
      PayloadDesc desc mlmeLongIeTschChannelHoppingSequence content.length →
      1 ≤ content.length → SubIe desc content

inductive SubIes : List UInt8 → Prop
  | done : SubIes []
  | subIe {desc : UInt16} {content rest : List UInt8} : SubIe desc content → SubIes rest →
      SubIes (write16 desc ++ (content ++ rest))

inductive PayloadIes (conf : IeConf) : List UInt8 → Prop
  | done : PayloadIes conf []
  | mlme {desc : UInt16} {content rest : List UInt8} :
      PayloadDesc desc payloadIeMlme content.length → SubIes content → PayloadIes conf rest →
      PayloadIes conf (write16 desc ++ (content ++ rest))
  | ietf {desc : UInt16} {content rest : List UInt8} : conf.withSixtop = true →
      PayloadDesc desc payloadIeIetf content.length → PayloadIes conf rest →
      PayloadIes conf (write16 desc ++ (content ++ rest))
  | termination {desc : UInt16} {payload : List UInt8} :
      PayloadDesc desc payloadIeListTermination 0 → PayloadIes conf (write16 desc ++ payload)

inductive HeaderIes (conf : IeConf) : List UInt8 → Prop
  | done : HeaderIes conf []
  | headerIe {desc : UInt16} {content rest : List UInt8} : HeaderIe desc content →
      HeaderIes conf rest → HeaderIes conf (write16 desc ++ (content ++ rest))
  | termination1 {desc : UInt16} {rest : List UInt8} : HeaderDesc desc headerIeListTermination1 0 →
      PayloadIes conf rest → HeaderIes conf (write16 desc ++ rest)
  | termination2 {desc : UInt16} {payload : List UInt8} :
      HeaderDesc desc headerIeListTermination2 0 → HeaderIes conf (write16 desc ++ payload)

/-- A place in the list: what is expected there, how much of an MLME IE is outstanding, and the
bytes from there to the end. -/
structure IePlace where
  state : IeParsingState
  nested : Nat
  rest : List UInt8

def IePlace.WellFormed (conf : IeConf) (place : IePlace) : Prop :=
  match place.state with
  | .headerIe => HeaderIes conf place.rest
  | .payloadIe => PayloadIes conf place.rest
  | .mlmeSubie => ∃ content after, place.rest = content ++ after ∧ content.length = place.nested ∧
      SubIes content ∧ PayloadIes conf after

inductive IeNext (conf : IeConf) : IePlace → IePlace → Prop
  | headerIe {nested : Nat} {desc : UInt16} {content rest : List UInt8} : HeaderIe desc content →
      IeNext conf ⟨.headerIe, nested, write16 desc ++ (content ++ rest)⟩ ⟨.headerIe, nested, rest⟩
  | headerTermination {nested : Nat} {desc : UInt16} {rest : List UInt8} :
      HeaderDesc desc headerIeListTermination1 0 →
      IeNext conf ⟨.headerIe, nested, write16 desc ++ rest⟩ ⟨.payloadIe, nested, rest⟩
  | mlme {nested len : Nat} {desc : UInt16} {rest : List UInt8} :
      PayloadDesc desc payloadIeMlme len →
      IeNext conf ⟨.payloadIe, nested, write16 desc ++ rest⟩ ⟨.mlmeSubie, len, rest⟩
  | ietf {nested : Nat} {desc : UInt16} {content rest : List UInt8} : conf.withSixtop = true →
      PayloadDesc desc payloadIeIetf content.length →
      IeNext conf ⟨.payloadIe, nested, write16 desc ++ (content ++ rest)⟩ ⟨.payloadIe, nested, rest⟩
  | subIe {nested : Nat} {desc : UInt16} {content rest : List UInt8} : SubIe desc content →
      IeNext conf ⟨.mlmeSubie, 2 + content.length + nested, write16 desc ++ (content ++ rest)⟩
        ⟨if nested = 0 then .payloadIe else .mlmeSubie, nested, rest⟩

def IePlace.Cut (place : IePlace) : Prop :=
  place.state = .mlmeSubie ∧ place.nested ≠ 0 ∧ place.rest = []

def IePlace.EmptyFollowed (conf : IeConf) (place : IePlace) : Prop :=
  place.state = .mlmeSubie ∧ place.nested = 0 ∧ place.rest ≠ [] ∧ PayloadIes conf place.rest

def IePlace.Overlong (conf : IeConf) (place : IePlace) : Prop :=
  place.state = .payloadIe ∧ conf.withSixtop = true ∧ ∃ desc tail len,
    place.rest = write16 desc ++ tail ∧ PayloadDesc desc payloadIeIetf len ∧ tail.length < len ∧
      (len - tail.length) % 256 ≠ 255

def IePlace.Faulty (conf : IeConf) (place : IePlace) : Prop :=
  place.Cut ∨ place.EmptyFollowed conf ∨ place.Overlong conf

def IePlace.Ended (place : IePlace) : Prop :=
  ∃ desc tail, place.rest = write16 desc ++ tail ∧
    (place.state = .headerIe ∧ HeaderDesc desc headerIeListTermination2 0 ∨
      place.state = .payloadIe ∧ PayloadDesc desc payloadIeListTermination 0)

theorem write16_append_inj {desc desc' : UInt16} {tail tail' : List UInt8}
    (same : write16 desc ++ tail = write16 desc' ++ tail') : desc = desc' ∧ tail = tail' := by
  have word : readIe16 ⟨0, write16 desc ++ tail⟩ 0 = readIe16 ⟨0, write16 desc' ++ tail'⟩ 0 := by
    rw [same]
  rw [readIe16_write16, readIe16_write16] at word
  exact ⟨word, congrArg (List.drop 2) same⟩

variable {bytes : List UInt8}

theorem exists_write16 (long : 2 ≤ bytes.length) : ∃ desc tail, bytes = write16 desc ++ tail := by
  obtain ⟨low, high, tail, rfl⟩ : ∃ low high tail, bytes = low :: high :: tail := by
    rcases bytes with _ | ⟨low, _ | ⟨high, tail⟩⟩
    · simp at long
    · simp at long
    · exact ⟨low, high, tail, rfl⟩
  refine ⟨UInt16.ofNat (low.toNat + high.toNat * 256), tail, ?_⟩
  have lowBound := low.toNat_lt
  have highBound := high.toNat_lt
  have desc : (UInt16.ofNat (low.toNat + high.toNat * 256)).toNat = low.toNat + high.toNat * 256 := by
    rw [UInt16.toNat_ofNat']
    omega
  have first : (UInt16.ofNat (low.toNat + high.toNat * 256)).toUInt8 = low := by
    apply UInt8.toNat_inj.mp
    rw [UInt16.toNat_toUInt8, desc]
    omega
  have second : (UInt16.ofNat (low.toNat + high.toNat * 256) >>> 8).toUInt8 = high := by
    apply UInt8.toNat_inj.mp
    rw [UInt16.toNat_toUInt8, UInt16.toNat_shiftRight, desc, Nat.shiftRight_eq_div_pow]
    simp only [UInt16.reduceToNat, Nat.reduceMod]
    omega
  rw [write16, first, second]
  rfl

variable {desc : UInt16}

theorem SubIe.length_unique {content content' : List UInt8}
    (one : SubIe desc content) (other : SubIe desc content') : content.length = content'.length := by
  rcases one with ⟨⟨type, id, len⟩, -⟩ | ⟨⟨type, id, len⟩, -⟩ | ⟨⟨type, id, len⟩, -⟩ | ⟨⟨type, id, len⟩, -⟩ <;>
    rcases other with ⟨⟨type', id', len'⟩, -⟩ | ⟨⟨type', id', len'⟩, -⟩ | ⟨⟨type', id', len'⟩, -⟩ |
      ⟨⟨type', id', len'⟩, -⟩
  all_goals first
    | exact len.symm.trans len'
    | exact absurd type type'
    | exact absurd type' type

theorem headerIes_cons (conf : IeConf) {content rest : List UInt8}
    (headerIe : HeaderIe desc content) :
    HeaderIes conf (write16 desc ++ (content ++ rest)) ↔ HeaderIes conf rest := by
  obtain ⟨⟨type, id, len⟩, two⟩ := headerIe
  constructor
  · intro all
    generalize whole : write16 desc ++ (content ++ rest) = bytes at all
    cases all with
    | done => cases whole
    | @headerIe desc' content' rest' headerIe' all =>
      obtain ⟨rfl, tail⟩ := write16_append_inj whole
      obtain ⟨-, rfl⟩ := List.append_inj tail (two.trans headerIe'.2.symm)
      exact all
    | termination1 ends all =>
      obtain ⟨rfl, -⟩ := write16_append_inj whole
      exact absurd (id.symm.trans ends.2.1) (by decide)
    | termination2 ends =>
      obtain ⟨rfl, -⟩ := write16_append_inj whole
      exact absurd (id.symm.trans ends.2.1) (by decide)
  · exact HeaderIes.headerIe ⟨⟨type, id, len⟩, two⟩

variable {rest : List UInt8}

variable (conf : IeConf)

theorem headerIes_termination (ends : HeaderDesc desc headerIeListTermination1 0) :
    HeaderIes conf (write16 desc ++ rest) ↔ PayloadIes conf rest := by
  constructor
  · intro all
    generalize whole : write16 desc ++ rest = bytes at all
    cases all with
    | done => cases whole
    | headerIe headerIe' all =>
      obtain ⟨rfl, -⟩ := write16_append_inj whole
      exact absurd (ends.2.1.symm.trans headerIe'.1.2.1) (by decide)
    | termination1 _ all =>
      obtain ⟨-, rfl⟩ := write16_append_inj whole
      exact all
    | termination2 ends' =>
      obtain ⟨rfl, -⟩ := write16_append_inj whole
      exact absurd (ends.2.1.symm.trans ends'.2.1) (by decide)
  · exact HeaderIes.termination1 ends

theorem payloadIes_mlme {len : Nat} (mlme : PayloadDesc desc payloadIeMlme len) :
    PayloadIes conf (write16 desc ++ rest) ↔
      ∃ content after, rest = content ++ after ∧ content.length = len ∧ SubIes content ∧
        PayloadIes conf after := by
  constructor
  · intro all
    generalize whole : write16 desc ++ rest = bytes at all
    cases all with
    | done => cases whole
    | @mlme desc' content after mlme' subIes all =>
      obtain ⟨rfl, rfl⟩ := write16_append_inj whole
      exact ⟨content, after, rfl, mlme'.2.2.symm.trans mlme.2.2, subIes, all⟩
    | ietf _ ietf _ =>
      obtain ⟨rfl, -⟩ := write16_append_inj whole
      exact absurd (mlme.2.1.symm.trans ietf.2.1) (by decide)
    | termination ends =>
      obtain ⟨rfl, -⟩ := write16_append_inj whole
      exact absurd (mlme.2.1.symm.trans ends.2.1) (by decide)
  · rintro ⟨content, after, rfl, rfl, subIes, all⟩
    exact PayloadIes.mlme mlme subIes all

theorem payloadIes_ietf {len : Nat}
    (sixtop : conf.withSixtop = true) (ietf : PayloadDesc desc payloadIeIetf len) :
    PayloadIes conf (write16 desc ++ rest) ↔
      ∃ content after, rest = content ++ after ∧ content.length = len ∧ PayloadIes conf after := by
  constructor
  · intro all
    generalize whole : write16 desc ++ rest = bytes at all
    cases all with
    | done => cases whole
    | mlme mlme' _ _ =>
      obtain ⟨rfl, -⟩ := write16_append_inj whole
      exact absurd (ietf.2.1.symm.trans mlme'.2.1) (by decide)
    | @ietf desc' content after _ ietf' all =>
      obtain ⟨rfl, rfl⟩ := write16_append_inj whole
      exact ⟨content, after, rfl, ietf'.2.2.symm.trans ietf.2.2, all⟩
    | termination ends =>
      obtain ⟨rfl, -⟩ := write16_append_inj whole
      exact absurd (ietf.2.1.symm.trans ends.2.1) (by decide)
  · rintro ⟨content, after, rfl, rfl, all⟩
    exact PayloadIes.ietf sixtop ietf all

theorem outstanding_subIe (nested : Nat) {content rest : List UInt8}
    (subIe : SubIe desc content) : (IePlace.mk .mlmeSubie (2 + content.length + nested)
        (write16 desc ++ (content ++ rest))).WellFormed conf ↔
      (IePlace.mk .mlmeSubie nested rest).WellFormed conf := by
  constructor
  · rintro ⟨whole, after, split, length, subIes, all⟩
    cases subIes with
    | done =>
      simp only [List.length_nil] at length
      omega
    | @subIe desc' content' others subIe' subIes =>
      rw [List.append_assoc, List.append_assoc] at split
      obtain ⟨rfl, tail⟩ := write16_append_inj split
      obtain ⟨rfl, rfl⟩ := List.append_inj tail (subIe.length_unique subIe')
      refine ⟨others, after, rfl, ?_, subIes, all⟩
      simp only [List.length_append, write16_length] at length
      change others.length = nested
      omega
  · rintro ⟨others, after, rfl, length, subIes, all⟩
    refine ⟨write16 desc ++ (content ++ others), after, ?_, ?_, SubIes.subIe subIe subIes, all⟩
    · simp only [List.append_assoc]
    · change others.length = nested at length
      rw [List.length_append, List.length_append, write16_length, length, Nat.add_assoc]

theorem wellFormed_filled (rest : List UInt8) :
    (IePlace.mk .mlmeSubie 0 rest).WellFormed conf ↔ PayloadIes conf rest := by
  constructor
  · rintro ⟨others, after, split, empty, -, all⟩
    obtain rfl := List.eq_nil_of_length_eq_zero empty
    change rest = after at split
    rw [split]
    exact all
  · exact fun all => ⟨[], rest, rfl, rfl, SubIes.done, all⟩

variable {conf : IeConf}

theorem IeNext.wellFormed_iff {place next : IePlace} (step : IeNext conf place next) :
    place.WellFormed conf ↔ next.WellFormed conf := by
  cases step with
  | headerIe headerIe => exact headerIes_cons conf headerIe
  | headerTermination ends => exact headerIes_termination conf ends
  | mlme mlme => exact payloadIes_mlme conf mlme
  | @ietf nested desc content rest sixtop ietf =>
    rw [IePlace.WellFormed, IePlace.WellFormed]
    dsimp only
    rw [payloadIes_ietf conf sixtop ietf]
    constructor
    · rintro ⟨content', after, split, length, all⟩
      obtain ⟨-, rfl⟩ := List.append_inj split length.symm
      exact all
    · exact fun all => ⟨content, rest, rfl, rfl, all⟩
  | @subIe nested desc content rest subIe =>
    rw [outstanding_subIe conf nested subIe]
    by_cases last : nested = 0
    · subst last
      exact wellFormed_filled conf rest
    · rw [if_neg last]

theorem IeNext.shorter {place next : IePlace} (step : IeNext conf place next) :
    next.rest.length + 2 ≤ place.rest.length := by
  cases step <;>
    simp only [List.length_append, write16_length] <;> omega

theorem not_next_filled (next : IePlace) : ¬ IeNext conf ⟨.mlmeSubie, 0, bytes⟩ next := by
  intro step
  generalize filled : 0 = outstanding at step
  cases step with
  | subIe => omega

variable {place : IePlace}

theorem IePlace.Ended.wellFormed (ended : place.Ended) : place.WellFormed conf := by
  rcases place with ⟨state, nested, bytes⟩
  obtain ⟨desc, tail, rfl, ⟨rfl, ends⟩ | ⟨rfl, ends⟩⟩ := ended
  · exact HeaderIes.termination2 ends
  · exact PayloadIes.termination ends

theorem IePlace.WellFormed.progress (all : place.WellFormed conf) :
    place.rest = [] ∨ (∃ next, IeNext conf place next) ∨ place.EmptyFollowed conf ∨ place.Ended := by
  rcases place with ⟨_ | _ | _, nested, bytes⟩
  case headerIe =>
    cases all with
    | done => exact .inl rfl
    | headerIe headerIe => exact .inr (.inl ⟨_, .headerIe headerIe⟩)
    | termination1 ends => exact .inr (.inl ⟨_, .headerTermination ends⟩)
    | termination2 ends => exact .inr (.inr (.inr ⟨_, _, rfl, .inl ⟨rfl, ends⟩⟩))
  case payloadIe =>
    cases all with
    | done => exact .inl rfl
    | mlme mlme =>  exact .inr (.inl ⟨_, .mlme mlme⟩)
    | ietf sixtop ietf => exact .inr (.inl ⟨_, .ietf sixtop ietf⟩)
    | termination ends => exact .inr (.inr (.inr ⟨_, _, rfl, .inr ⟨rfl, ends⟩⟩))
  case mlmeSubie =>
    obtain ⟨content, after, split, length, subIes, all⟩ := all
    dsimp only at split length
    subst split length
    cases subIes with
    | done =>
      by_cases empty : after = []
      · exact .inl empty
      · exact .inr (.inr (.inl ⟨rfl, rfl, empty, all⟩))
    | @subIe desc content others subIe subIes =>
      have split : write16 desc ++ (content ++ others) ++ after =
          write16 desc ++ (content ++ (others ++ after)) := by
        simp only [List.append_assoc]
      have outstanding : (write16 desc ++ (content ++ others)).length =
          2 + content.length + others.length := by
        rw [List.length_append, List.length_append, write16_length, Nat.add_assoc]
      rw [split, outstanding]
      exact .inr (.inl ⟨_, .subIe subIe⟩)

theorem PayloadIes.length_ne_one (all : PayloadIes conf bytes) : bytes.length ≠ 1 := by
  cases all <;>
    simp only [List.length_append, List.length_nil, write16_length] <;> omega

theorem IePlace.WellFormed.length_ne_one (all : place.WellFormed conf) : place.rest.length ≠ 1 := by
  rcases all.progress with empty | ⟨next, step⟩ | ⟨-, -, -, followed⟩ | ⟨desc, tail, long, -⟩
  · rw [empty]
    decide
  · have shorter := step.shorter
    omega
  · exact followed.length_ne_one
  · rw [long, List.length_append, write16_length]
    omega

end MultiPhyTsch
