import MultiPhyTsch.Lib.Memory
import MultiPhyTsch.Frame.MlmeElements

/-! What the functions `frame80215e_create_ie_…` write into the buffer they are given, write by
write, and what they return. -/

namespace MultiPhyTsch

structure IeOutput where
  result : Int
  writes : List (Patch UInt8)
deriving DecidableEq, Repr

namespace IeOutput

def Refuses (output : IeOutput) : Prop := output = ⟨-1, []⟩

def ResultWithin (len : Int) (output : IeOutput) : Prop := 0 ≤ output.result ∧ output.result ≤ len

def WritesBelow (limit : Int) (output : IeOutput) : Prop :=
  ∀ patch ∈ output.writes, ∀ address : Nat, patch.Covers address → (address : Int) < limit

def RespectsBuffer (len : Int) (output : IeOutput) : Prop :=
  output.Refuses ∨ output.ResultWithin len ∧ output.WritesBelow output.result

end IeOutput

variable (len : Int)

/-- With room for an element of `ieLen` bytes behind its descriptor, the content is written and
then the descriptor. -/
def writeIe (ieLen : Nat) (descriptor : List UInt8) (content : List (Patch UInt8)) :
    IeOutput :=
  if len ≥ 2 + ieLen then ⟨2 + ieLen, content ++ [⟨0, descriptor⟩]⟩ else ⟨-1, []⟩

def frame80215eCreateIeHeaderAckNackTimeCorrection (ies : Ieee802154Ies) : IeOutput :=
  let timeSyncField := (ies.ieTimeCorrection.toUInt16 &&& (0x0fff : UInt16)) |||
    (if ies.ieIsNack then 0x8000 else 0)
  writeIe len 2 (createHeaderIeDescriptor headerIeAckNackTimeCorrection 2)
    [⟨2, write16 timeSyncField⟩]

def frame80215eCreateIeHeaderListTermination1 : IeOutput :=
  writeIe len 0 (createHeaderIeDescriptor headerIeListTermination1 0) []

def frame80215eCreateIeHeaderListTermination2 : IeOutput :=
  writeIe len 0 (createHeaderIeDescriptor headerIeListTermination2 0) []

def frame80215eCreateIePayloadListTermination : IeOutput :=
  writeIe len 0 (createPayloadIeDescriptor payloadIeListTermination 0) []

variable (ies : Ieee802154Ies)

/-- `sixtop_output` has the content in the packet buffer already and gives two bytes for the
descriptor in front of it: only they are checked and written, the content counts in the result. -/
def frame80215eCreateIeIetf : IeOutput :=
  let contentLen := ies.sixtopIeContentLen.toNat
  if len ≥ 2 then ⟨2 + contentLen, [⟨0, createPayloadIeDescriptor payloadIeIetf contentLen⟩]⟩
  else ⟨-1, []⟩

def frame80215eCreateIeMlme : IeOutput :=
  writeIe len 0 (createPayloadIeDescriptor payloadIeMlme ies.ieMlmeLen.toNat) []

def frame80215eCreateIeTschSynchronization : IeOutput :=
  let asn := ies.ieAsn
  writeIe len 6 (createMlmeShortIeDescriptor mlmeShortIeTschSynchronization 6)
    [⟨2, [asn.ls4b.toUInt8]⟩, ⟨3, [(asn.ls4b >>> 8).toUInt8]⟩, ⟨4, [(asn.ls4b >>> 16).toUInt8]⟩,
      ⟨5, [(asn.ls4b >>> 24).toUInt8]⟩, ⟨6, [asn.ms1b]⟩, ⟨7, [ies.ieJoinPriority]⟩]

def linkWrites (links : List TschSlotframeAndLinksLink) (index : Nat) : List (Patch UInt8) :=
  let link := links.getD index default
  [⟨2 + 5 + index * 5, write16 link.timeslot⟩, ⟨2 + 5 + index * 5 + 2, write16 link.channelOffset⟩,
    ⟨2 + 5 + index * 5 + 4, [link.linkOptions]⟩]

def slotframeWrites (content : TschSlotframeAndLinks) : List (Patch UInt8) :=
  if content.numSlotframes = 1 then
    [⟨2 + 1, [content.slotframeHandle]⟩, ⟨2 + 2, write16 content.slotframeSize⟩,
      ⟨2 + 4, [content.numLinks]⟩] ++
      (List.range content.numLinks.toNat).flatMap (linkWrites content.links.toList)
  else []

def frame80215eCreateIeTschSlotframeAndLink (len : Int) (ies : Ieee802154Ies) : IeOutput :=
  let content := ies.ieTschSlotframeAndLink
  let ieLen := 1 + content.numSlotframes.toNat * (4 + 5 * content.numLinks.toNat)
  if content.numSlotframes.toNat > 1 || content.numLinks.toNat > ieMaxLinks then ⟨-1, []⟩
  else writeIe len ieLen (createMlmeShortIeDescriptor mlmeShortIeTschSlotframeAndLink ieLen)
    (⟨2, [content.numSlotframes]⟩ :: slotframeWrites content)

def frame80215eCreateIeTschTimeslot (len : Int) (ies : Ieee802154Ies) : IeOutput :=
  let ieLen := if ies.ieTschTimeslotId = 0 then 1 else 25
  writeIe len ieLen (createMlmeShortIeDescriptor mlmeShortIeTschTimeslot ieLen)
    (⟨2, [ies.ieTschTimeslotId]⟩ ::
      if ies.ieTschTimeslotId = 0 then []
      else (List.range 12).flatMap fun index =>
        [⟨3 + 2 * index, write16 (ies.ieTschTimeslot.toList.getD index 0)⟩])

/-- The fields behind the identifier are written also with the default sequence, where the
element has the identifier only. -/
def frame80215eCreateIeTschChannelHoppingSequence (conf : IeConf) (len : Int)
    (ies : Ieee802154Ies) : IeOutput :=
  let sequenceLen := ies.ieHoppingSequenceLen.toNat
  if sequenceLen > conf.hoppingSequenceMaxLen then ⟨-1, []⟩
  else
    let ieLen := if ies.ieChannelHoppingSequenceId = 0 then 1 else 12 + sequenceLen
    writeIe len ieLen (createMlmeLongIeDescriptor mlmeLongIeTschChannelHoppingSequence ieLen)
      [⟨2, [ies.ieChannelHoppingSequenceId]⟩, ⟨3, [0]⟩, ⟨4, write16 0⟩, ⟨6, write16 0⟩,
        ⟨8, write16 0⟩, ⟨10, write16 ies.ieHoppingSequenceLen⟩,
        ⟨12, ies.ieHoppingSequenceList.take sequenceLen⟩, ⟨12 + sequenceLen, write16 0⟩]

inductive IeEncoder where
  | headerAckNackTimeCorrection
  | headerListTermination1
  | headerListTermination2
  | payloadListTermination
  | mlme
  | tschSynchronization
  | tschSlotframeAndLink
  | tschTimeslot
  | tschChannelHoppingSequence
deriving DecidableEq, Repr

def IeEncoder.output (conf : IeConf) (len : Int) (ies : Ieee802154Ies) : IeEncoder → IeOutput
  | headerAckNackTimeCorrection => frame80215eCreateIeHeaderAckNackTimeCorrection len ies
  | headerListTermination1 => frame80215eCreateIeHeaderListTermination1 len
  | headerListTermination2 => frame80215eCreateIeHeaderListTermination2 len
  | payloadListTermination => frame80215eCreateIePayloadListTermination len
  | mlme => frame80215eCreateIeMlme len ies
  | tschSynchronization => frame80215eCreateIeTschSynchronization len ies
  | tschSlotframeAndLink => frame80215eCreateIeTschSlotframeAndLink len ies
  | tschTimeslot => frame80215eCreateIeTschTimeslot len ies
  | tschChannelHoppingSequence => frame80215eCreateIeTschChannelHoppingSequence conf len ies

/-! The contents, as the bytes that the writes spell from the end of the descriptor on. -/

open Patch

theorem flatMap_range_getD {α β : Type} (items : List α) (fallback : α) (bytes : α → List β)
    {count : Nat} (inside : count ≤ items.length) :
    (List.range count).flatMap (fun index => bytes (items.getD index fallback)) =
      (items.take count).flatMap bytes := by
  have listed : (List.range count).map (fun index => items.getD index fallback) = items.take count := by
    apply List.ext_getElem
    · rw [List.length_map, List.length_range, List.length_take_of_le inside]
    · intro index left right
      rw [List.length_map, List.length_range] at left
      rw [List.getElem_map, List.getElem_range, List.getElem_take,
        List.getD_eq_getElem _ _ (by omega)]
  rw [← listed, List.flatMap_map]

theorem spells_linkWrites (links : List TschSlotframeAndLinksLink) (index : Nat) :
    Spells (2 + 5 + index * 5) (linkBytes (links.getD index default)) (linkWrites links index) := by
  rw [linkBytes, List.append_assoc]
  exact .cons (.cons (.single _ _))

theorem spells_slotframeWrites {content : TschSlotframeAndLinks} (few : content.numLinks.toNat ≤ 4) :
    Spells 3 (slotframeBytes content) (slotframeWrites content) := by
  rw [slotframeBytes, slotframeWrites]
  by_cases one : content.numSlotframes = 1
  · rw [if_pos one, if_pos one]
    have fixed : Spells 3 ([content.slotframeHandle] ++ write16 content.slotframeSize ++
        [content.numLinks]) [⟨2 + 1, [content.slotframeHandle]⟩, ⟨2 + 2, write16 content.slotframeSize⟩,
          ⟨2 + 4, [content.numLinks]⟩] := by
      rw [List.append_assoc]
      exact .cons (.cons (.single _ _))
    have links := (@Spells.loop UInt8 (2 + 5) 5
      (fun index => linkBytes (content.links.toList.getD index default))
      (linkWrites content.links.toList) content.numLinks.toNat fun index _ =>
        ⟨spells_linkWrites content.links.toList index, rfl⟩).1
    rw [flatMap_range_getD _ _ linkBytes (by rw [Vector.length_toList]; exact few)] at links
    exact fixed.append links
  · rw [if_neg one, if_neg one]
    exact .nil

theorem spells_timeslot (timeslot : Vector UInt16 12) :
    Spells 3 (timeslot.toList.flatMap write16) ((List.range 12).flatMap fun index =>
      [⟨3 + 2 * index, write16 (timeslot.toList.getD index 0)⟩]) := by
  have round : ∀ index, Spells (3 + index * 2) (write16 (timeslot.toList.getD index 0))
      [⟨3 + 2 * index, write16 (timeslot.toList.getD index 0)⟩] := by
    intro index
    rw [Nat.mul_comm index 2]
    exact .single _ _
  have spelled := (@Spells.loop UInt8 3 2 (fun index => write16 (timeslot.toList.getD index 0))
    (fun index => [⟨3 + 2 * index, write16 (timeslot.toList.getD index 0)⟩]) 12 fun index _ =>
      ⟨round index, rfl⟩).1
  rw [flatMap_range_getD _ _ write16 (by simp), List.take_of_length_le (by simp)] at spelled
  exact spelled

variable {len : Int} {ieLen : Nat} {descriptor items : List UInt8} {content : List (Patch UInt8)}

theorem writeIe_result : (writeIe len ieLen descriptor content).Refuses ∨
    (writeIe len ieLen descriptor content).ResultWithin len := by
  rw [writeIe]
  split
  next room => exact .inr ⟨by dsimp only; omega, room⟩
  next => exact .inl rfl

theorem writeIe_writesBelow (two : descriptor.length = 2)
    (inside : ∀ patch ∈ content, patch.start + patch.items.length ≤ 2 + ieLen) :
    (writeIe len ieLen descriptor content).Refuses ∨
      (writeIe len ieLen descriptor content).WritesBelow (writeIe len ieLen descriptor content).result := by
  rw [writeIe]
  split
  next room =>
    refine .inr ?_
    intro patch member address covers
    dsimp only at member ⊢
    have last := covers.2
    rcases List.mem_append.mp member with early | late
    · have bound := inside patch early
      omega
    · obtain rfl := List.mem_singleton.mp late
      dsimp only at last
      omega
  next => exact .inl rfl

theorem slotframe_length {content : TschSlotframeAndLinks} (one : content.numSlotframes.toNat ≤ 1)
    (few : content.numLinks.toNat ≤ 4) :
    (content.numSlotframes :: slotframeBytes content).length =
      1 + content.numSlotframes.toNat * (4 + 5 * content.numLinks.toNat) := by
  have links : ((content.links.toList.take content.numLinks.toNat).flatMap linkBytes).length =
      5 * content.numLinks.toNat := by
    simp only [List.length_flatMap, linkBytes_length, List.map_const', List.sum_replicate_nat,
      List.length_take, Vector.length_toList]
    omega
  rw [slotframeBytes]
  split
  next single =>
    rw [single]
    change _ = 1 + 1 * _
    simp only [List.length_cons, List.length_append, List.length_nil, write16_length, links]
    omega
  next other =>
    have none : content.numSlotframes.toNat = 0 := by
      have different : content.numSlotframes.toNat ≠ 1 := fun single =>
        other (UInt8.toNat_inj.mp single)
      omega
    rw [none, Nat.zero_mul]
    rfl

theorem timeslot_length (timeslot : Vector UInt16 12) : (timeslot.toList.flatMap write16).length = 24 := by
  simp only [List.length_flatMap, write16_length, List.map_const', List.sum_replicate_nat,
    Vector.length_toList]

variable (conf : IeConf) (ies : Ieee802154Ies)

theorem output_result (encoder : IeEncoder) :
    (encoder.output conf len ies).Refuses ∨ (encoder.output conf len ies).ResultWithin len := by
  cases encoder with
  | tschSlotframeAndLink =>
    rw [IeEncoder.output, frame80215eCreateIeTschSlotframeAndLink]
    split
    next => exact .inl rfl
    next => exact writeIe_result
  | tschChannelHoppingSequence =>
    rw [IeEncoder.output, frame80215eCreateIeTschChannelHoppingSequence]
    split
    next => exact .inl rfl
    next => exact writeIe_result
  | _ => exact writeIe_result

theorem spells_slotframe {content : TschSlotframeAndLinks} (few : content.numLinks.toNat ≤ 4) :
    Spells 2 (content.numSlotframes :: slotframeBytes content)
      (⟨2, [content.numSlotframes]⟩ :: slotframeWrites content) :=
  @Spells.cons UInt8 2 [content.numSlotframes] _ _ (spells_slotframeWrites few)

theorem spells_timeslotIe : Spells 2 (ies.ieTschTimeslotId ::
      if ies.ieTschTimeslotId = 0 then [] else ies.ieTschTimeslot.toList.flatMap write16)
    (⟨2, [ies.ieTschTimeslotId]⟩ :: if ies.ieTschTimeslotId = 0 then [] else
      (List.range 12).flatMap fun index =>
        [⟨3 + 2 * index, write16 (ies.ieTschTimeslot.toList.getD index 0)⟩]) := by
  by_cases only : ies.ieTschTimeslotId = 0
  · rw [if_pos only, if_pos only]
    exact .single _ _
  · rw [if_neg only, if_neg only]
    exact @Spells.cons UInt8 2 [ies.ieTschTimeslotId] _ _ (spells_timeslot ies.ieTschTimeslot)

theorem timeslotIe_length : (ies.ieTschTimeslotId :: if ies.ieTschTimeslotId = 0 then [] else
      ies.ieTschTimeslot.toList.flatMap write16).length =
    if ies.ieTschTimeslotId = 0 then 1 else 25 := by
  split
  next => rfl
  next => rw [List.length_cons, timeslot_length]

theorem output_writesBelow (encoder : IeEncoder)
    (explicit : encoder = .tschChannelHoppingSequence → ies.ieChannelHoppingSequenceId ≠ 0) :
    (encoder.output conf len ies).Refuses ∨
      (encoder.output conf len ies).WritesBelow (encoder.output conf len ies).result := by
  cases encoder with
  | headerAckNackTimeCorrection =>
    exact writeIe_writesBelow rfl ((Spells.single 2 _).inside (Nat.le_refl 4))
  | tschSynchronization =>
    exact writeIe_writesBelow rfl (Spells.inside (.cons (.cons (.cons (.cons (.cons (.single _ _))))))
      (Nat.le_refl 8))
  | tschSlotframeAndLink =>
    rw [IeEncoder.output, frame80215eCreateIeTschSlotframeAndLink]
    split
    next => exact .inl rfl
    next allowed =>
      simp only [Bool.or_eq_true, decide_eq_true_eq, not_or, Nat.not_lt] at allowed
      apply writeIe_writesBelow rfl
      apply (spells_slotframe allowed.2).inside
      exact Nat.le_of_eq (congrArg (2 + ·) (slotframe_length allowed.1 allowed.2))
  | tschTimeslot =>
    apply writeIe_writesBelow rfl
    apply (spells_timeslotIe ies).inside
    exact Nat.le_of_eq (congrArg (2 + ·) (timeslotIe_length ies))
  | tschChannelHoppingSequence =>
    rw [IeEncoder.output, frame80215eCreateIeTschChannelHoppingSequence]
    split
    next => exact .inl rfl
    next =>
      rw [if_neg (explicit rfl)]
      apply writeIe_writesBelow rfl
      intro patch member
      have sequence := List.length_take_le ies.ieHoppingSequenceLen.toNat ies.ieHoppingSequenceList
      simp only [List.mem_cons, List.not_mem_nil, or_false] at member
      rcases member with rfl | rfl | rfl | rfl | rfl | rfl | rfl | rfl
      all_goals
        simp only [List.length_cons, List.length_nil, write16_length]
        omega
  | _ => exact writeIe_writesBelow rfl (by rintro _ ⟨⟩)

/-- The encoders of whole elements stay in the buffer and in the element, the one for the hopping
sequence when it writes a sequence; the one for 6top stays in its descriptor. -/
theorem createIe_respectsBuffer :
    (∀ encoder : IeEncoder,
      (encoder = .tschChannelHoppingSequence → ies.ieChannelHoppingSequenceId ≠ 0) →
        (encoder.output conf len ies).RespectsBuffer len) ∧
    (∀ encoder : IeEncoder, (encoder.output conf len ies).Refuses ∨
      (encoder.output conf len ies).ResultWithin len) ∧
    ((frame80215eCreateIeIetf len ies).Refuses ∨
      (frame80215eCreateIeIetf len ies).result = 2 + ies.sixtopIeContentLen.toNat ∧ 2 ≤ len ∧
        (frame80215eCreateIeIetf len ies).WritesBelow 2) := by
  refine ⟨?_, output_result conf ies, ?_⟩
  · intro encoder explicit
    rcases output_result conf ies encoder with refuses | within
    · exact .inl refuses
    · rcases output_writesBelow conf ies encoder explicit with refuses | below
      · exact .inl refuses
      · exact .inr ⟨within, below⟩
  · rw [frame80215eCreateIeIetf]
    split
    next room =>
      refine .inr ⟨rfl, room, ?_⟩
      intro patch member address covers
      obtain rfl := List.mem_singleton.mp member
      have last := covers.2
      change address < 0 + 2 at last
      omega
    next => exact .inl rfl

theorem ietf_beyond_len : ¬ (frame80215eCreateIeIetf 2
    { iesZero ⟨16, true⟩ with sixtopIeContentLen := 3 }).RespectsBuffer 2 := by
  rintro (refuses | ⟨within, -⟩)
  · rw [IeOutput.Refuses] at refuses
    exact absurd refuses (by decide)
  · rw [IeOutput.ResultWithin] at within
    exact absurd within (by decide)

end MultiPhyTsch
