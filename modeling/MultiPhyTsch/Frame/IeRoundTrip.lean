import Mathlib.Data.List.Induction
import Mathlib.Data.List.Perm.Subperm
import MultiPhyTsch.Tsch.EbRoundTrip

/-! An MLME IE with any of its sub-IEs, as the create functions build it and the parser reads
it. -/

namespace MultiPhyTsch

inductive MlmeSubie where
  | tschSynchronization
  | tschSlotframeAndLink
  | tschTimeslot
  | tschChannelHoppingSequence
deriving DecidableEq, Repr

variable (conf : IeConf)

namespace MlmeSubie

def create (ies : Ieee802154Ies) (len : Int) : MlmeSubie → Option (List UInt8)
  | tschSynchronization => createIeTschSynchronization len ies
  | tschSlotframeAndLink => createIeTschSlotframeAndLink len ies
  | tschTimeslot => createIeTschTimeslot len ies
  | tschChannelHoppingSequence => createIeTschChannelHoppingSequence conf len ies

def InRange (ies : Ieee802154Ies) : MlmeSubie → Prop
  | tschSynchronization => True
  | tschSlotframeAndLink =>
    ies.ieTschSlotframeAndLink.numSlotframes.toNat ≤ 1 ∧
      ies.ieTschSlotframeAndLink.numLinks.toNat ≤ ieMaxLinks
  | tschTimeslot => True
  | tschChannelHoppingSequence =>
    ies.ieChannelHoppingSequenceId ≠ 0 ∧ 1 ≤ ies.ieHoppingSequenceLen.toNat ∧
      ies.ieHoppingSequenceLen.toNat ≤ 16 ∧
      ies.ieHoppingSequenceLen.toNat ≤ conf.hoppingSequenceMaxLen

def element : MlmeSubie → EbElement
  | tschSynchronization => .synchronization
  | tschSlotframeAndLink => .slotframeAndLink
  | tschTimeslot => .timeslot
  | tschChannelHoppingSequence => .hoppingSequence

end MlmeSubie

def createSubies (ies : Ieee802154Ies) : List MlmeSubie → Int → Option (List UInt8)
  | [], _ => some []
  | subie :: subies, len => do
      let bytes ← subie.create conf ies len
      let rest ← createSubies ies subies (len - bytes.length)
      some (bytes ++ rest)

def createMlmeIes (ies : Ieee802154Ies) (subies : List MlmeSubie) (len : Int) :
    Option (List UInt8) := do
  let termination ← createIeHeaderListTermination1 len
  let body ← createSubies conf ies subies (len - 4)
  let mlme ← createIeMlme (len - 2) { ies with ieMlmeLen := UInt16.ofNat body.length }
  some (termination ++ mlme ++ body)

def encodedIes (ies : Ieee802154Ies) (subies : List MlmeSubie) : Ieee802154Ies :=
  let slotframe := ies.ieTschSlotframeAndLink
  let sequenceLen := ies.ieHoppingSequenceLen.toNat
  let zero := iesZero conf
  { zero with
    iePayloadIeOffset := 2
    ieAsn := if .tschSynchronization ∈ subies then ies.ieAsn else ⟨0, 0⟩
    ieJoinPriority := if .tschSynchronization ∈ subies then ies.ieJoinPriority else 0
    ieTschTimeslotId := if .tschTimeslot ∈ subies then ies.ieTschTimeslotId else 0
    ieTschTimeslot :=
      if .tschTimeslot ∈ subies ∧ ies.ieTschTimeslotId ≠ 0 then ies.ieTschTimeslot
      else zero.ieTschTimeslot
    ieTschSlotframeAndLink :=
      if .tschSlotframeAndLink ∈ subies ∧ slotframe.numSlotframes ≠ 0 then
        { slotframe with links := Vector.ofFn fun index =>
            if index < slotframe.numLinks.toNat then slotframe.links.get index else ⟨0, 0, 0⟩ }
      else zero.ieTschSlotframeAndLink
    ieChannelHoppingSequenceId :=
      if .tschChannelHoppingSequence ∈ subies then ies.ieChannelHoppingSequenceId else 0
    ieHoppingSequenceLen :=
      if .tschChannelHoppingSequence ∈ subies then ies.ieHoppingSequenceLen else 0
    ieHoppingSequenceList :=
      if .tschChannelHoppingSequence ∈ subies then
        ies.ieHoppingSequenceList.take sequenceLen ++
          List.replicate (conf.hoppingSequenceMaxLen - sequenceLen) 0
      else zero.ieHoppingSequenceList }

theorem createIe_eq (len : Int) {descriptor content : List UInt8} (two : descriptor.length = 2) :
    createIe len descriptor content =
      if ((descriptor ++ content).length : Int) ≤ len then some (descriptor ++ content) else none := by
  unfold createIe
  rw [List.length_append, two]
  exact if_congr (by omega) rfl rfl

structure MlmeSubie.Writes (ies : Ieee802154Ies) (subie : MlmeSubie) (bytes : List UInt8) : Prop where
  created : ∀ len : Int, subie.create conf ies len =
    if (bytes.length : Int) ≤ len then some bytes else none
  long : 2 ≤ bytes.length
  short : bytes.length ≤ 30

variable {subie : MlmeSubie}

theorem MlmeSubie.Writes.of_createIe {ies : Ieee802154Ies}
    {descriptor content : List UInt8} (two : descriptor.length = 2) (short : content.length ≤ 28)
    (created : ∀ len, subie.create conf ies len = createIe len descriptor content) :
    subie.Writes conf ies (descriptor ++ content) := by
  have length : (descriptor ++ content).length = 2 + content.length := by
    rw [List.length_append, two]
  constructor
  · intro len
    rw [created, createIe_eq len two]
  · omega
  · omega

theorem MlmeSubie.writes {ies : Ieee802154Ies}
    (inRange : subie.InRange conf ies) : ∃ bytes, subie.Writes conf ies bytes := by
  cases subie with
  | tschSynchronization => exact ⟨_, .of_createIe conf rfl (by simp) fun _ => rfl⟩
  | tschSlotframeAndLink =>
    obtain ⟨one, few⟩ := inRange
    have allowed : ¬ (decide (ies.ieTschSlotframeAndLink.numSlotframes.toNat > 1) ||
        decide (ies.ieTschSlotframeAndLink.numLinks.toNat > ieMaxLinks)) = true := by
      simp only [Bool.or_eq_true, decide_eq_true_eq]
      omega
    refine ⟨_, .of_createIe conf rfl ?_ fun len => if_neg allowed⟩
    have most : ((ies.ieTschSlotframeAndLink.links.toList.take
        ies.ieTschSlotframeAndLink.numLinks.toNat).flatMap linkBytes).length ≤ 20 := by
      simp only [List.length_flatMap, linkBytes_length, List.map_const', List.sum_replicate_nat,
        List.length_take, Vector.length_toList]
      omega
    unfold slotframeBytes
    split
    · simp only [List.length_cons, List.length_append, write16_length, List.length_nil]
      omega
    · simp
  | tschTimeslot =>
    refine ⟨_, .of_createIe conf rfl ?_ fun _ => rfl⟩
    split
    · simp
    · simp [List.length_flatMap, write16]
  | tschChannelHoppingSequence =>
    obtain ⟨chosen, -, short, room⟩ := inRange
    refine ⟨_, .of_createIe conf rfl ?_ fun len => if_neg (by omega)⟩
    rw [if_neg chosen]
    simp only [List.length_cons, List.length_append, List.length_nil, write16_length,
      List.length_take]
    omega

variable {conf} {ies : Ieee802154Ies} {subies : List MlmeSubie} {parts : List (List UInt8)}

theorem createSubies_eq
    (written : List.Forall₂ (fun subie bytes => subie.Writes conf ies bytes) subies parts) :
    ∀ len : Int, 0 ≤ len → createSubies conf ies subies len =
      if (parts.flatten.length : Int) ≤ len then some parts.flatten else none := by
  induction written with
  | nil =>
    intro len room
    exact (if_pos room).symm
  | @cons subie bytes subies parts head _ ih =>
    intro len room
    rw [createSubies, head.created, List.flatten_cons, List.length_append]
    by_cases fits : (bytes.length : Int) ≤ len
    · rw [if_pos fits]
      change ((createSubies conf ies subies (len - bytes.length)).bind fun rest =>
        some (bytes ++ rest)) = _
      rw [ih _ (by omega)]
      by_cases all : (parts.flatten.length : Int) ≤ len - bytes.length
      · rw [if_pos all, if_pos (by omega)]
        rfl
      · rw [if_neg all, if_neg (by omega)]
        rfl
    · rw [if_neg fits, if_neg (by omega)]
      rfl

theorem createMlmeIes_eq
    (written : List.Forall₂ (fun subie bytes => subie.Writes conf ies bytes) subies parts)
    (short : parts.flatten.length < 65536) (len : Int) :
    createMlmeIes conf ies subies len =
      if ((mlmeStart parts.flatten.length ++ parts.flatten).length : Int) ≤ len then
        some (mlmeStart parts.flatten.length ++ parts.flatten) else none := by
  have whole : (mlmeStart parts.flatten.length ++ parts.flatten).length = 4 + parts.flatten.length := by
    rw [List.length_append, mlmeStart_length]
  have announced : (UInt16.ofNat parts.flatten.length).toNat = parts.flatten.length := by
    rw [UInt16.toNat_ofNat']
    exact Nat.mod_eq_of_lt short
  rw [whole]
  by_cases room : 4 ≤ len
  · have termination : createIeHeaderListTermination1 len =
        some (createHeaderIeDescriptor headerIeListTermination1 0) := by
      rw [createIeHeaderListTermination1, createIe, if_pos (by simp; omega), List.append_nil]
    have mlme : createIeMlme (len - 2)
        { ies with ieMlmeLen := UInt16.ofNat parts.flatten.length } =
          some (createPayloadIeDescriptor payloadIeMlme parts.flatten.length) := by
      rw [createIeMlme, createIe, if_pos (by simp; omega), List.append_nil, announced]
    rw [createMlmeIes, termination, Option.bind_eq_bind, Option.bind_some,
      createSubies_eq written _ (by omega)]
    by_cases fits : (parts.flatten.length : Int) ≤ len - 4
    · rw [if_pos fits, if_pos (by omega), Option.bind_some, mlme]
      rfl
    · rw [if_neg fits, if_neg (by omega)]
      rfl
  · rw [if_neg (by omega), createMlmeIes]
    by_cases two : 2 ≤ len
    · have mlme : ∀ body : List UInt8, createIeMlme (len - 2)
          { ies with ieMlmeLen := UInt16.ofNat body.length } = none := by
        intro body
        rw [createIeMlme, createIe, if_neg (by simp; omega)]
      simp only [mlme, Option.bind_eq_bind, Option.bind_none, Option.bind_fun_none]
    · have termination : createIeHeaderListTermination1 len = none := by
        rw [createIeHeaderListTermination1, createIe, if_neg (by simp; omega)]
      rw [termination]
      rfl

def subiePackets (conf : IeConf) : PacketConf := { unsecuredPackets {} with ie := conf }

theorem MlmeSubie.Writes.bytes {bytes : List UInt8} (writes : subie.Writes conf ies bytes) :
    subie.element.Bytes (subiePackets conf) ies bytes := by
  refine ⟨bytes.length, ?_⟩
  have created := writes.created bytes.length
  rw [if_pos (Int.le_refl _)] at created
  cases subie with
  | tschSynchronization => exact created
  | tschSlotframeAndLink => exact created
  | tschTimeslot => exact created
  | tschChannelHoppingSequence => exact created

theorem foldl_read (ies : Ieee802154Ies) {subies : List MlmeSubie} (distinct : subies.Nodup)
    (chosen : .tschChannelHoppingSequence ∈ subies → ies.ieChannelHoppingSequenceId ≠ 0) :
    (subies.map MlmeSubie.element).foldl (EbElement.read ies)
      { iesZero conf with iePayloadIeOffset := 2 } = encodedIes conf ies subies := by
  induction subies using List.reverseRecOn with
  | nil => rfl
  | append_singleton subies subie ih =>
    rw [List.nodup_append] at distinct
    obtain ⟨before, -, apart⟩ := distinct
    have fresh : subie ∉ subies := fun old => apart subie old subie (List.mem_singleton_self _) rfl
    rw [List.map_append, List.foldl_append,
      ih before fun old => chosen (List.mem_append_left _ old)]
    cases subie with
    | tschSynchronization => simp [encodedIes, EbElement.read, MlmeSubie.element]
    | tschSlotframeAndLink =>
      by_cases none : ies.ieTschSlotframeAndLink.numSlotframes = 0
      · simp [encodedIes, EbElement.read, MlmeSubie.element, readSlotframe, none]
      · have zero : ∀ index : Fin 4, (Vector.replicate 4 (⟨0, 0, 0⟩ :
            TschSlotframeAndLinksLink)).get index = ⟨0, 0, 0⟩ := by
          intro index
          simp [Vector.get]
        simp [encodedIes, EbElement.read, MlmeSubie.element, readSlotframe, none, fresh, iesZero,
          zero]
    | tschTimeslot =>
      by_cases default : ies.ieTschTimeslotId = 0
      · simp [encodedIes, EbElement.read, MlmeSubie.element, default, fresh]
      · simp [encodedIes, EbElement.read, MlmeSubie.element, default, fresh]
    | tschChannelHoppingSequence =>
      have chosen := chosen (List.mem_append_right _ (List.mem_singleton_self _))
      simp [encodedIes, EbElement.read, MlmeSubie.element, fresh, chosen, iesZero]

theorem exists_parts (inRange : ∀ subie ∈ subies, subie.InRange conf ies) :
    ∃ parts, List.Forall₂ (fun subie bytes => MlmeSubie.Writes conf ies subie bytes) subies parts := by
  induction subies with
  | nil => exact ⟨[], List.Forall₂.nil⟩
  | cons subie subies ih =>
    obtain ⟨bytes, written⟩ := MlmeSubie.writes conf (inRange subie List.mem_cons_self)
    obtain ⟨parts, rest⟩ := ih fun later member => inRange later (List.mem_cons_of_mem _ member)
    exact ⟨bytes :: parts, List.Forall₂.cons written rest⟩

theorem parts_length
    (written : List.Forall₂ (fun subie bytes => MlmeSubie.Writes conf ies subie bytes) subies parts) :
    2 * subies.length ≤ parts.flatten.length ∧ parts.flatten.length ≤ 30 * subies.length := by
  induction written with
  | nil => exact ⟨Nat.le_refl 0, Nat.le_refl 0⟩
  | cons head _ ih =>
    have long := head.long
    have short := head.short
    rw [List.flatten_cons, List.length_append, List.length_cons]
    omega

theorem subies_few (distinct : subies.Nodup) : subies.length ≤ 4 := by
  have all : subies ⊆ [.tschSynchronization, .tschSlotframeAndLink, .tschTimeslot,
      .tschChannelHoppingSequence] := by
    intro subie _
    cases subie <;> simp
  exact (distinct.subperm all).length_le

theorem parse_mlmeIes (listed : ies.ieHoppingSequenceList.length = conf.hoppingSequenceMaxLen)
    (written : List.Forall₂ (fun subie bytes => MlmeSubie.Writes conf ies subie bytes) subies parts)
    (short : 4 + parts.flatten.length < 256) (behind : List UInt8) :
    frame802154eParseInformationElements conf
        (mlmeStart parts.flatten.length ++ parts.flatten ++ behind)
        (UInt8.ofNat (4 + parts.flatten.length)) (iesZero conf) =
      (((4 + parts.flatten.length : Nat) : Int), (subies.map MlmeSubie.element).foldl
        (EbElement.read ies) { iesZero conf with iePayloadIeOffset := 2 }) := by
  have many := (parts_length written).1
  have fuel : (mlmeStart parts.flatten.length ++ parts.flatten ++ behind).length + 1 =
      (subies.length + (parts.flatten.length - subies.length + behind.length + 2) + 1) + 2 := by
    simp only [List.length_append, mlmeStart_length]
    omega
  rw [frame802154eParseInformationElements, fuel, List.append_assoc,
    parseElements_mlmeOpened conf short]
  by_cases filled : parts.flatten.length = 0
  · have none : subies = [] := List.length_eq_zero_iff.mp (by omega)
    rw [filled, none]
    rfl
  · have opened : (⟨⟨4, parts.flatten ++ behind⟩, UInt8.ofNat parts.flatten.length,
        parts.flatten.length, .mlmeSubie, { iesZero conf with iePayloadIeOffset := 2 }⟩ : IeScan) =
          mlmeScan 4 parts.flatten behind { iesZero conf with iePayloadIeOffset := 2 } := by
      rw [mlmeScan, if_neg filled]
    have created : List.Forall₂ (EbElement.Bytes (subiePackets conf) ies)
        (subies.map MlmeSubie.element) parts := by
      rw [List.forall₂_map_left_iff]
      exact written.imp fun subie bytes writes => writes.bytes
    have subie : EbElement.payloadListTermination ∉ subies.map MlmeSubie.element := by
      rw [List.mem_map]
      rintro ⟨subie, -, same⟩
      cases subie <;> cases same
    have scanned := parseElements_subies (subiePackets conf) ies listed created subie [] behind
      (parts.flatten.length - subies.length + behind.length + 2 + 1) 4
      { iesZero conf with iePayloadIeOffset := 2 } (by rw [List.length_nil]; omega)
    rw [List.append_nil, List.length_map] at scanned
    have zero : ({ iesZero conf with iePayloadIeOffset := 0 } : Ieee802154Ies) = iesZero conf := rfl
    rw [zero, opened, Nat.add_assoc]
    exact scanned.trans (parseElements_end conf _ _ behind _)

theorem mlmeIes_round_trip (conf : IeConf) (ies : Ieee802154Ies) {subies : List MlmeSubie}
    (listed : ies.ieHoppingSequenceList.length = conf.hoppingSequenceMaxLen)
    (distinct : subies.Nodup) (inRange : ∀ subie ∈ subies, subie.InRange conf ies) :
    ∃ bytes : List UInt8, bytes.length < 256 ∧
      (∀ len : Int, createMlmeIes conf ies subies len =
        if (bytes.length : Int) ≤ len then some bytes else none) ∧
      ∀ behind, frame802154eParseInformationElements conf (bytes ++ behind)
        (UInt8.ofNat bytes.length) (iesZero conf) = ((bytes.length : Int), encodedIes conf ies subies) := by
  obtain ⟨parts, written⟩ := exists_parts inRange
  have bounds := parts_length written
  have few := subies_few distinct
  have whole : (mlmeStart parts.flatten.length ++ parts.flatten).length = 4 + parts.flatten.length := by
    rw [List.length_append, mlmeStart_length]
  refine ⟨mlmeStart parts.flatten.length ++ parts.flatten, by omega, ?_, fun behind => ?_⟩
  · exact createMlmeIes_eq written (by omega)
  · rw [whole, parse_mlmeIes listed written (by omega), foldl_read ies distinct]
    intro carried
    exact (inRange _ carried).1

def fullIes : Ieee802154Ies :=
  { iesZero ⟨16, false⟩ with
    ieAsn := ⟨0x12345678, 0x9a⟩
    ieJoinPriority := 3
    ieTschTimeslotId := 1
    ieTschTimeslot := Vector.ofFn fun index => UInt16.ofNat (1000 * index + 7)
    ieTschSlotframeAndLink :=
      ⟨1, 2, 397, 4, Vector.ofFn fun index => ⟨UInt16.ofNat (300 * index), 5, 0x0f⟩⟩
    ieChannelHoppingSequenceId := 1
    ieHoppingSequenceLen := 16
    ieHoppingSequenceList := (List.range 16).map UInt8.ofNat }

theorem fullIes_read : ∃ bytes : List UInt8, bytes.length < 256 ∧
    (∀ len : Int, createMlmeIes ⟨16, false⟩ fullIes
      [.tschSynchronization, .tschTimeslot, .tschChannelHoppingSequence, .tschSlotframeAndLink] len =
        if (bytes.length : Int) ≤ len then some bytes else none) ∧
    ∀ behind, frame802154eParseInformationElements ⟨16, false⟩ (bytes ++ behind)
      (UInt8.ofNat bytes.length) (iesZero ⟨16, false⟩) = ((bytes.length : Int),
        { fullIes with iePayloadIeOffset := 2 }) := by
  have inRange : ∀ subie ∈ [MlmeSubie.tschSynchronization, .tschTimeslot,
      .tschChannelHoppingSequence, .tschSlotframeAndLink], subie.InRange ⟨16, false⟩ fullIes := by
    intro subie _
    cases subie with
    | tschSynchronization => trivial
    | tschSlotframeAndLink => exact ⟨by decide, by decide⟩
    | tschTimeslot => trivial
    | tschChannelHoppingSequence => exact ⟨by decide, by decide, by decide, by decide⟩
  have encoded : encodedIes ⟨16, false⟩ fullIes [.tschSynchronization, .tschTimeslot,
      .tschChannelHoppingSequence, .tschSlotframeAndLink] =
        { fullIes with iePayloadIeOffset := 2 } := by
    decide +kernel
  rw [← encoded]
  exact mlmeIes_round_trip ⟨16, false⟩ fullIes (by decide) (by decide) inRange

end MultiPhyTsch
