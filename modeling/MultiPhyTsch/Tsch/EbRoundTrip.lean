import MultiPhyTsch.Frame.FramerRoundTrip
import MultiPhyTsch.Frame.MlmeElements
import MultiPhyTsch.Tsch.Packet
import MultiPhyTsch.Tsch.SecuredRoundTrip

/-! What a node reads in a beacon that another node created and brought up to date before it
sent it. -/

namespace MultiPhyTsch

open Security

variable (conf : PacketConf)

def EbElement.read (written ies : Ieee802154Ies) : EbElement → Ieee802154Ies
  | .synchronization =>
    { ies with ieAsn := written.ieAsn, ieJoinPriority := written.ieJoinPriority }
  | .timeslot =>
    { ies with
      ieTschTimeslotId := written.ieTschTimeslotId
      ieTschTimeslot :=
        if written.ieTschTimeslotId = 0 then ies.ieTschTimeslot else written.ieTschTimeslot }
  | .hoppingSequence =>
    let len := written.ieHoppingSequenceLen
    { ies with
      ieChannelHoppingSequenceId := written.ieChannelHoppingSequenceId
      ieHoppingSequenceLen :=
        if written.ieChannelHoppingSequenceId = 0 then ies.ieHoppingSequenceLen else len
      ieHoppingSequenceList :=
        if written.ieChannelHoppingSequenceId = 0 then ies.ieHoppingSequenceList
        else written.ieHoppingSequenceList.take len.toNat ++ ies.ieHoppingSequenceList.drop len.toNat }
  | .slotframeAndLink =>
    { ies with ieTschSlotframeAndLink :=
      readSlotframe written.ieTschSlotframeAndLink ies.ieTschSlotframeAndLink }
  | .payloadListTermination => ies

def EbElement.Bytes (written : Ieee802154Ies) (element : EbElement) (bytes : List UInt8) : Prop :=
  ∃ len, element.create conf written len = some bytes

theorem createIe_some {len : Int} {descriptor content bytes : List UInt8}
    (created : createIe len descriptor content = some bytes) : bytes = descriptor ++ content := by
  unfold createIe at created
  split at created
  · exact (Option.some.inj created).symm
  · cases created

def Scans (bytes : List UInt8) (read : Ieee802154Ies → Ieee802154Ies) : Prop :=
  2 ≤ bytes.length ∧ ∀ offset more behind ies, bytes.length + more.length < 256 →
    parseElement conf.ie (mlmeScan offset (bytes ++ more) behind ies) =
      .continued (mlmeScan (offset + bytes.length) more behind (read ies))

theorem scans_short (subId : UInt8) (content : List UInt8) {read : Ieee802154Ies → Ieee802154Ies}
    (known : subId ∈ [mlmeShortIeTschSynchronization, mlmeShortIeTschSlotframeAndLink,
      mlmeShortIeTschTimeslot])
    (parsed : ∀ offset behind ies, parseMlmeShortIe ⟨offset, content ++ behind⟩
      (UInt16.ofNat content.length) subId ies = some (read ies)) :
    Scans conf (createMlmeShortIeDescriptor subId content.length ++ content) read := by
  have length : (createMlmeShortIeDescriptor subId content.length ++ content).length =
      2 + content.length := List.length_append
  refine ⟨by omega, fun offset more behind ies short => ?_⟩
  rw [length] at short
  rw [parseElement_short conf.ie rfl short known, parsed, length, Nat.add_assoc]

theorem scans_long (content : List UInt8) {read : Ieee802154Ies → Ieee802154Ies}
    (parsed : 2 + content.length < 256 → ∀ offset behind ies,
      parseMlmeLongIe conf.ie ⟨offset, content ++ behind⟩
        (UInt16.ofNat content.length) mlmeLongIeTschChannelHoppingSequence ies = some (read ies)) :
    Scans conf (createMlmeLongIeDescriptor mlmeLongIeTschChannelHoppingSequence content.length ++
      content) read := by
  have length : (createMlmeLongIeDescriptor mlmeLongIeTschChannelHoppingSequence content.length ++
      content).length = 2 + content.length := List.length_append
  refine ⟨by omega, fun offset more behind ies short => ?_⟩
  rw [length] at short
  rw [parseElement_long conf.ie rfl short, parsed (by omega), length, Nat.add_assoc]

section elements

variable (written : Ieee802154Ies)

variable {bytes : List UInt8}

theorem scans_synchronization (created : EbElement.Bytes conf written .synchronization bytes) :
    Scans conf bytes (fun ies => EbElement.read written ies .synchronization) := by
  obtain ⟨len, created⟩ := created
  rw [EbElement.create, createIeTschSynchronization] at created
  have scans := scans_short conf mlmeShortIeTschSynchronization
    [written.ieAsn.ls4b.toUInt8, (written.ieAsn.ls4b >>> 8).toUInt8,
      (written.ieAsn.ls4b >>> 16).toUInt8, (written.ieAsn.ls4b >>> 24).toUInt8, written.ieAsn.ms1b,
      written.ieJoinPriority] (by simp) fun offset behind ies =>
        parseSynchronization_create offset behind written.ieAsn written.ieJoinPriority ies
  rw [createIe_some created]
  exact scans

theorem scans_timeslot (created : EbElement.Bytes conf written .timeslot bytes) :
    Scans conf bytes (fun ies => EbElement.read written ies .timeslot) := by
  obtain ⟨len, created⟩ := created
  simp only [EbElement.create, createIeTschTimeslot] at created
  rw [createIe_some created]
  by_cases default : written.ieTschTimeslotId = 0
  · simp only [EbElement.read, default, if_true]
    exact scans_short conf mlmeShortIeTschTimeslot [0] (by simp) fun offset behind ies =>
      parseTimeslot_default offset behind ies
  · simp only [EbElement.read, if_neg default]
    have length : (written.ieTschTimeslotId ::
        written.ieTschTimeslot.toList.flatMap write16).length = 25 := by
      simp [List.length_flatMap, write16]
    have scans := scans_short conf mlmeShortIeTschTimeslot
      (written.ieTschTimeslotId :: written.ieTschTimeslot.toList.flatMap write16) (by simp)
      fun offset behind ies => by
        rw [length]
        exact parseTimeslot_create offset behind written.ieTschTimeslotId written.ieTschTimeslot ies
    rwa [length] at scans

theorem scans_hoppingSequence
    (listed : written.ieHoppingSequenceList.length = conf.ie.hoppingSequenceMaxLen)
    (created : EbElement.Bytes conf written .hoppingSequence bytes) :
    Scans conf bytes (fun ies => EbElement.read written ies .hoppingSequence) := by
  obtain ⟨len, created⟩ := created
  simp only [EbElement.create, createIeTschChannelHoppingSequence] at created
  split at created
  · cases created
  next room =>
    rw [createIe_some created]
    by_cases default : written.ieChannelHoppingSequenceId = 0
    · simp only [EbElement.read, default, if_true]
      exact scans_long conf [0] fun _ offset behind ies =>
        parseHoppingSequence_default offset conf.ie behind ies
    · simp only [EbElement.read, if_neg default]
      have taken : (written.ieHoppingSequenceList.take written.ieHoppingSequenceLen.toNat).length =
          written.ieHoppingSequenceLen.toNat := by
        rw [List.length_take]
        omega
      have length : (written.ieChannelHoppingSequenceId :: ([0, 0, 0, 0, 0, 0, 0] ++
          write16 written.ieHoppingSequenceLen ++
          written.ieHoppingSequenceList.take written.ieHoppingSequenceLen.toNat ++ [0, 0])).length =
            12 + written.ieHoppingSequenceLen.toNat := by
        simp only [List.length_cons, List.length_append, taken, write16_length, List.length_nil]
        omega
      have scans := scans_long conf (written.ieChannelHoppingSequenceId ::
        ([0, 0, 0, 0, 0, 0, 0] ++ write16 written.ieHoppingSequenceLen ++
          written.ieHoppingSequenceList.take written.ieHoppingSequenceLen.toNat ++ [0, 0]))
        fun short offset behind ies => by
          rw [length] at short ⊢
          exact parseHoppingSequence_create offset conf.ie behind _ written.ieChannelHoppingSequenceId
            ies taken (by omega) (by omega)
      rwa [length] at scans

theorem scans_slotframeAndLink (created : EbElement.Bytes conf written .slotframeAndLink bytes) :
    Scans conf bytes (fun ies => EbElement.read written ies .slotframeAndLink) := by
  obtain ⟨len, created⟩ := created
  simp only [EbElement.create, createIeTschSlotframeAndLink] at created
  split at created
  · cases created
  next few =>
    simp only [Bool.or_eq_true, decide_eq_true_eq, not_or, Nat.not_lt] at few
    rw [createIe_some created]
    simp only [EbElement.read]
    have count : written.ieTschSlotframeAndLink.numSlotframes = 0 ∨
        written.ieTschSlotframeAndLink.numSlotframes = 1 := eq_zero_or_one (by omega)
    rcases count with none | one
    · have bytes : slotframeBytes written.ieTschSlotframeAndLink = [] := by
        simp [slotframeBytes, none]
      have length : 1 + (0 : UInt8).toNat * (4 + 5 * written.ieTschSlotframeAndLink.numLinks.toNat) =
          [(0 : UInt8)].length := by
        rw [show (0 : UInt8).toNat = 0 from rfl, Nat.zero_mul]
        rfl
      have scans := scans_short conf mlmeShortIeTschSlotframeAndLink [0] (by simp)
        fun offset behind ies => parseSlotframe_default offset behind ies
      simp only [readSlotframe, none, if_true, bytes]
      rw [length]
      exact scans
    · have length : (written.ieTschSlotframeAndLink.numSlotframes ::
          slotframeBytes written.ieTschSlotframeAndLink).length =
            1 + written.ieTschSlotframeAndLink.numSlotframes.toNat *
              (4 + 5 * written.ieTschSlotframeAndLink.numLinks.toNat) := by
        have taken := few.2
        simp only [slotframeBytes, one, if_true, List.length_cons, List.length_append,
          write16_length, List.length_flatMap, linkBytes_length, List.map_const', List.sum_replicate_nat,
          List.length_take, Vector.length_toList, List.length_nil, UInt8.reduceToNat]
        simp only [ieMaxLinks] at taken
        omega
      have scans := scans_short conf mlmeShortIeTschSlotframeAndLink
        (written.ieTschSlotframeAndLink.numSlotframes ::
          slotframeBytes written.ieTschSlotframeAndLink) (by simp) fun offset behind ies => by
          rw [length]
          exact parseSlotframeAndLink_create offset behind written.ieTschSlotframeAndLink one few.2 ies
      rwa [length] at scans

theorem EbElement.scans {element : EbElement} {bytes : List UInt8}
    (listed : written.ieHoppingSequenceList.length = conf.ie.hoppingSequenceMaxLen)
    (subie : element ≠ .payloadListTermination) (created : EbElement.Bytes conf written element bytes) :
    Scans conf bytes (fun ies => EbElement.read written ies element) := by
  cases element with
  | synchronization => exact scans_synchronization conf written created
  | timeslot => exact scans_timeslot conf written created
  | hoppingSequence => exact scans_hoppingSequence conf written listed created
  | slotframeAndLink => exact scans_slotframeAndLink conf written created
  | payloadListTermination => exact absurd rfl subie

theorem parseElements_subies {elements : List EbElement} {parts : List (List UInt8)}
    (listed : written.ieHoppingSequenceList.length = conf.ie.hoppingSequenceMaxLen)
    (created : List.Forall₂ (EbElement.Bytes conf written) elements parts)
    (subies : .payloadListTermination ∉ elements) (rest behind : List UInt8) (rounds : Nat) :
    ∀ offset ies, parts.flatten.length + rest.length < 256 →
      parseElements conf.ie (elements.length + rounds)
          (mlmeScan offset (parts.flatten ++ rest) behind ies) =
        parseElements conf.ie rounds (mlmeScan (offset + parts.flatten.length) rest behind
          (elements.foldl (EbElement.read written) ies)) := by
  induction created with
  | nil =>
    intro offset ies _
    simp
  | @cons element bytes elements parts head _ ih =>
    intro offset ies short
    rw [List.mem_cons, not_or] at subies
    obtain ⟨long, scans⟩ := EbElement.scans conf written listed (Ne.symm subies.1) head
    rw [List.flatten_cons, List.length_append] at short
    have round := scans offset (parts.flatten ++ rest) behind ies (by
      rw [List.length_append]
      omega)
    have left : ¬ UInt8.ofNat (bytes ++ (parts.flatten ++ rest)).length = 0 := by
      rw [← UInt8.toNat_inj, UInt8.toNat_ofNat', List.length_append, List.length_append,
        Nat.mod_eq_of_lt (by omega)]
      change ¬ _ = 0
      omega
    have next := ih subies.2 (offset + bytes.length) (EbElement.read written ies element) (by omega)
    rw [List.length_cons, Nat.add_right_comm, List.flatten_cons, List.append_assoc]
    rw [parseElements, if_neg (by exact left), round]
    dsimp only
    rw [next, List.length_append, Nat.add_assoc, List.foldl_cons]

theorem appendElements_some {elements : List EbElement} : ∀ {packetbuf final : Packetbuf},
    elements.foldlM (appendElement conf written) packetbuf = some final →
      ∃ parts, List.Forall₂ (EbElement.Bytes conf written) elements parts ∧
        final = { packetbuf with data := packetbuf.data ++ parts.flatten } := by
  induction elements with
  | nil =>
    intro packetbuf final done
    refine ⟨[], List.Forall₂.nil, ?_⟩
    have same : packetbuf = final := Option.some.inj done
    simp [same]
  | cons element elements ih =>
    intro packetbuf final done
    rw [List.foldlM_cons] at done
    obtain ⟨next, appended, done⟩ := Option.bind_eq_some_iff.mp done
    obtain ⟨bytes, created, rfl⟩ := Option.map_eq_some_iff.mp appended
    obtain ⟨parts, written, rfl⟩ := ih done
    refine ⟨bytes :: parts, List.Forall₂.cons ⟨_, created⟩ written, ?_⟩
    simp

end elements

def mlmeStart (len : Nat) : List UInt8 :=
  createHeaderIeDescriptor headerIeListTermination1 0 ++ createPayloadIeDescriptor payloadIeMlme len

theorem parseElements_mlmeOpened (conf : IeConf) {body : List UInt8} (short : 4 + body.length < 256)
    (behind : List UInt8) (ies : Ieee802154Ies) (rounds : Nat) :
    parseElements conf (rounds + 2)
        ⟨Cursor.start (mlmeStart body.length ++ (body ++ behind)), UInt8.ofNat (4 + body.length), 0,
          .headerIe, ies⟩ =
      parseElements conf rounds ⟨⟨4, body ++ behind⟩, UInt8.ofNat body.length, body.length,
        .mlmeSubie, { ies with iePayloadIeOffset := 2 }⟩ := by
  obtain ⟨type, length, id⟩ := payloadDescriptor_read (by omega : body.length < 256)
  have lenNat : (UInt16.ofNat body.length).toNat = body.length := by
    rw [UInt16.toNat_ofNat']
    exact Nat.mod_eq_of_lt (by omega)
  have first : parseElement conf ⟨Cursor.start (mlmeStart body.length ++ (body ++ behind)),
      UInt8.ofNat (4 + body.length), 0, .headerIe, ies⟩ = .continued
        ⟨⟨2, createPayloadIeDescriptor payloadIeMlme body.length ++ (body ++ behind)⟩,
          UInt8.ofNat (4 + body.length - 2), 0, .payloadIe, { ies with iePayloadIeOffset := 2 }⟩ := by
    rw [mlmeStart, List.append_assoc]
    exact parseElement_descriptor conf 0
      ((UInt16.ofNat 0 &&& (0x7f : UInt16)) + (headerIeListTermination1.toUInt16 <<< 7)) _
      (by omega) short 0 .headerIe ies
  have second : parseElement conf
      ⟨⟨2, createPayloadIeDescriptor payloadIeMlme body.length ++ (body ++ behind)⟩,
        UInt8.ofNat (4 + body.length - 2), 0, .payloadIe, { ies with iePayloadIeOffset := 2 }⟩ =
      .continued ⟨⟨4, body ++ behind⟩, UInt8.ofNat body.length, body.length, .mlmeSubie,
        { ies with iePayloadIeOffset := 2 }⟩ := by
    rw [createPayloadIeDescriptor, parseElement_descriptor conf 2 _ _ (by omega) (by omega)]
    simp only [parsePayloadElement, if_neg type, length, id, if_true, lenNat]
    rw [show 4 + body.length - 2 - 2 = body.length by omega]
  rw [parseElements, if_neg (bufSize_left (by omega) short).1, first]
  dsimp only
  rw [parseElements, if_neg (bufSize_left (by omega) (by omega)).1, second]

theorem parseElements_mlmeStart (conf : IeConf) {body : List UInt8} (filled : body.length ≠ 0)
    (short : 4 + body.length < 256) (behind : List UInt8) (ies : Ieee802154Ies) (rounds : Nat) :
    parseElements conf (rounds + 2)
        ⟨Cursor.start (mlmeStart body.length ++ (body ++ behind)), UInt8.ofNat (4 + body.length), 0,
          .headerIe, ies⟩ =
      parseElements conf rounds (mlmeScan 4 body behind { ies with iePayloadIeOffset := 2 }) := by
  rw [parseElements_mlmeOpened conf short, mlmeScan, if_neg filled]

def ebPacketbuf (source : EbSource) (packetbuf : Packetbuf) : Packetbuf :=
  { packetbuf with
    attrs := ebAttrs conf source.node.mac.tschIsPanSecured
    sender := source.nodeAddr
    receiver := tschEbAddress }

def ebFrameParams (source : EbSource) (packetbuf : Packetbuf) : Frame802154 :=
  createFrameParams conf.framer source.panId (ebPacketbuf conf source packetbuf)

theorem ebAttrs_fits (isPanSecured : Bool) : (ebAttrs conf isPanSecured).Fits := by
  have plain : PacketbufAttrs.Fits
      { (default : PacketbufAttrs) with frameType := beaconFrame.toUInt16, macMetadata := 1 } := by
    constructor <;> decide
  unfold ebAttrs
  cases conf.security with
  | none => exact plain
  | some security =>
    cases isPanSecured with
    | false => exact plain
    | true =>
      have level := security.eb.valid
      have index := security.eb.keyIndex.toNat_lt
      rw [← UInt8.toNat_toUInt16] at level index
      exact ⟨plain.macSeqno, plain.macAck, plain.macMetadata, plain.frameType, level,
        (by decide : (1 : UInt16).toNat < 4), index⟩

def synchronizationContent (asn : TschAsn) (joinPriority : UInt8) : List UInt8 :=
  [asn.ls4b.toUInt8, (asn.ls4b >>> 8).toUInt8, (asn.ls4b >>> 16).toUInt8, (asn.ls4b >>> 24).toUInt8,
    asn.ms1b, joinPriority]

def synchronizationIe (asn : TschAsn) (joinPriority : UInt8) : List UInt8 :=
  createMlmeShortIeDescriptor mlmeShortIeTschSynchronization 6 ++
    synchronizationContent asn joinPriority

theorem synchronizationIe_length (asn : TschAsn) (joinPriority : UInt8) :
    (synchronizationIe asn joinPriority).length = 8 := rfl

theorem createIeTschSynchronization_eq {len : Int} (room : len ≥ 8) (ies : Ieee802154Ies) :
    createIeTschSynchronization len ies =
      some (synchronizationIe ies.ieAsn ies.ieJoinPriority) := if_pos room

theorem synchronization_bytes {written : Ieee802154Ies} {bytes : List UInt8}
    (created : EbElement.Bytes conf written .synchronization bytes) :
    bytes = synchronizationIe written.ieAsn written.ieJoinPriority := by
  obtain ⟨len, created⟩ := created
  exact createIe_some created

def ebInner (body : List UInt8) : Packetbuf :=
  { packetbufClear with
    hdr := createHeaderIeDescriptor headerIeListTermination1 0
    data := createPayloadIeDescriptor payloadIeMlme (UInt16.ofNat body.length).toNat ++ body }

def ebHeader (source : EbSource) (body : List UInt8) : List UInt8 :=
  (frame802154Create conf.framer.llsec 0 (ebFrameParams conf source (ebInner body))).2

structure CreatedEb (source : EbSource) (frame : List UInt8) (offset : Nat)
    (parts : List (List UInt8)) : Prop where
  elements : List.Forall₂ (EbElement.Bytes conf (ebIes conf source)) (ebElements conf.eb) parts
  frame_eq : frame = ebHeader conf source parts.flatten ++
    (mlmeStart parts.flatten.length ++ parts.flatten)
  offset_eq : offset = (ebHeader conf source parts.flatten).length + 4

theorem prependMlme_some {ies : Ieee802154Ies} {packetbuf final : Packetbuf}
    (prepended : prependMlme conf ies packetbuf = some final) :
    final = { packetbuf with
      data := createPayloadIeDescriptor payloadIeMlme (UInt16.ofNat packetbuf.data.length).toNat ++
        packetbuf.data } := by
  unfold prependMlme at prepended
  obtain ⟨bytes, created, rfl⟩ := Option.map_eq_some_iff.mp prepended
  rw [createIe_some created]
  simp

theorem prependListTermination_some {packetbuf terminated sent : Packetbuf} {source : EbSource}
    {hdrLen : Nat} (data : 2 ≤ packetbuf.data.length)
    (prepended : prependListTermination conf packetbuf = some terminated)
    (framed : framer802154Create conf.framer source.panId (ebPacketbuf conf source terminated) =
      some (hdrLen, sent)) :
    terminated = { packetbuf with hdr := createHeaderIeDescriptor headerIeListTermination1 0 } := by
  have header : 2 ≤ (frame802154Create conf.framer.llsec 0
      (ebFrameParams conf source terminated)).2.length := by
    simp only [frame802154Create, frame802154CreateFcf, List.length_append, List.length_cons,
      List.length_nil]
    omega
  have room : (frame802154Create conf.framer.llsec 0 (ebFrameParams conf source terminated)).2.length +
      packetbufTotlen terminated ≤ conf.framer.packetbufSize :=
    (framer802154Create_some conf.framer framed).2.2.1
  unfold prependListTermination packetbufHdralloc at prepended
  split at prepended
  next moved alloc =>
    split at alloc
    · cases alloc
    · obtain ⟨bytes, created, rfl⟩ := Option.map_eq_some_iff.mp prepended
      obtain rfl := Option.some.inj alloc
      rw [createIe_some created, List.append_nil]
  next alloc =>
    split at alloc
    next full =>
      obtain ⟨bytes, created, rfl⟩ := Option.map_eq_some_iff.mp prepended
      have length : bytes.length = 2 := by
        rw [createIe_some created]
        rfl
      simp only [packetbufTotlen, List.length_append, List.length_drop, List.length_cons,
        List.length_nil] at room full
      omega
    · cases alloc

theorem ebElements_eq (eb : EbConf) : ∃ others,
    ebElements eb = .synchronization :: others ∧ .synchronization ∉ others := by
  refine ⟨_, by rw [ebElements, List.append_assoc, List.append_assoc, List.append_assoc]; rfl, ?_⟩
  simp

theorem ebElements_subies (eb : EbConf) : ∃ subies,
    ebElements eb = subies ++
      (if eb.includes eb.withPayloadIeListTermination then [.payloadListTermination] else []) ∧
    .payloadListTermination ∉ subies ∧ subies.length ≤ 4 := by
  refine ⟨_, rfl, by simp, ?_⟩
  have optional : ∀ (included : Bool) (element : EbElement),
      (if included then [element] else []).length ≤ 1 := by
    intro included element
    cases included <;> simp
  have timeslot := optional (eb.includes eb.withTimeslotTiming) .timeslot
  have hopping := optional (eb.includes eb.withHoppingSequence) .hoppingSequence
  have slotframe := optional (eb.includes eb.withSlotframeAndLink) .slotframeAndLink
  simp only [List.length_append, List.length_singleton]
  omega

theorem createEb_spec {source : EbSource} {packetbuf : Packetbuf} {hdrLen offset : UInt8}
    (created : tschPacketCreateEb conf source = some (packetbuf, hdrLen, offset))
    (short : (packetbufFrame packetbuf).length ≤ tschPacketMaxLen) :
    ∃ parts, CreatedEb conf source (packetbufFrame packetbuf) offset.toNat parts := by
  obtain ⟨written, appended, afterElements⟩ := Option.bind_eq_some_iff.mp created
  obtain ⟨nested, prepended, afterMlme⟩ := Option.bind_eq_some_iff.mp afterElements
  obtain ⟨terminated, ended, afterHeaderIes⟩ := Option.bind_eq_some_iff.mp afterMlme
  obtain ⟨⟨length, sent⟩, framed, result⟩ := Option.bind_eq_some_iff.mp afterHeaderIes
  obtain ⟨parts, elements, rfl⟩ := appendElements_some conf _ appended
  obtain rfl := prependMlme_some conf prepended
  have inner : terminated = ebInner parts.flatten := by
    refine prependListTermination_some conf ?_ ended framed
    rw [List.length_append]
    change 2 ≤ 2 + _
    omega
  subst inner
  obtain ⟨-, -, -, framedAs⟩ := framer802154Create_some conf.framer framed
  have sentHdr : sent.hdr = ebHeader conf source parts.flatten ++
      createHeaderIeDescriptor headerIeListTermination1 0 := by
    rw [framedAs]
    rfl
  have sentData : sent.data = createPayloadIeDescriptor payloadIeMlme
      (UInt16.ofNat parts.flatten.length).toNat ++ parts.flatten := by
    rw [framedAs]
    rfl
  have hdrLength : sent.hdr.length = (ebHeader conf source parts.flatten).length + 2 := by
    rw [sentHdr, List.length_append]
    rfl
  obtain ⟨rfl, -, rfl⟩ : sent = packetbuf ∧ _ = hdrLen ∧ UInt8.ofNat sent.hdr.length + 2 = offset := by
    simpa using result
  have bound : sent.hdr.length + parts.flatten.length + 2 ≤ 127 := by
    rw [packetbufFrame, List.length_append, sentData, List.length_append] at short
    change _ + (2 + _) ≤ 127 at short
    omega
  have mlmeLen : (UInt16.ofNat parts.flatten.length).toNat = parts.flatten.length := by
    rw [UInt16.toNat_ofNat']
    exact Nat.mod_eq_of_lt (by omega)
  refine ⟨parts, elements, ?_, ?_⟩
  · rw [packetbufFrame, sentHdr, sentData, mlmeLen, mlmeStart]
    simp only [List.append_assoc]
  · rw [UInt8.toNat_add, UInt8.toNat_ofNat', hdrLength]
    change ((_ % 256) + 2) % 256 = _
    omega

def updatedIes (source : EbSource) (asn : TschAsn) (joinPriority : UInt8) : Ieee802154Ies :=
  { ebIes conf source with ieAsn := asn, ieJoinPriority := joinPriority }

theorem EbElement.Bytes.updated {source : EbSource} {element : EbElement} {bytes : List UInt8}
    (other : element ≠ .synchronization)
    (created : EbElement.Bytes conf (ebIes conf source) element bytes) (asn : TschAsn)
    (joinPriority : UInt8) :
    EbElement.Bytes conf (updatedIes conf source asn joinPriority) element bytes := by
  cases element with
  | synchronization => exact absurd rfl other
  | timeslot => exact created
  | hoppingSequence => exact created
  | slotframeAndLink => exact created
  | payloadListTermination => exact created

theorem getElem?_replaced (before : List UInt8) {old new : List UInt8} (after : List UInt8)
    (same : new.length = old.length) (index : Nat)
    (outside : index < before.length ∨ before.length + old.length ≤ index) :
    (before ++ (new ++ after))[index]? = (before ++ (old ++ after))[index]? := by
  rcases outside with early | late
  · rw [List.getElem?_append_left early, List.getElem?_append_left early]
  · rw [List.getElem?_append_right (by omega), List.getElem?_append_right (by omega),
      List.getElem?_append_right (by omega), List.getElem?_append_right (by omega), same]

theorem mlmeStart_length (len : Nat) : (mlmeStart len).length = 4 := rfl

theorem tschPacketUpdateEb_eq {before old : List UInt8} {offset : UInt8}
    (place : offset.toNat = before.length) (sized : old.length = 8) (after : List UInt8) (asn : TschAsn)
    (joinPriority : UInt8) (stale : Ieee802154Ies) :
    tschPacketUpdateEb asn joinPriority (before ++ (old ++ after)) offset stale =
      some (before ++ (synchronizationIe asn joinPriority ++ after)) := by
  have room : ((before ++ (old ++ after)).length : Int) - before.length ≥ 8 := by
    rw [List.length_append, List.length_append, sized]
    omega
  have rest : (before ++ (old ++ after)).drop (before.length + 8) = after := by
    rw [← List.drop_drop, List.drop_left, ← sized, List.drop_left]
  simp only [tschPacketUpdateEb, createIeTschSynchronization_eq room, Option.map_some,
    synchronizationIe_length, place, rest, List.take_left, List.append_assoc]

theorem updateEb_spec {source : EbSource} {frame : List UInt8} {offset : UInt8}
    {parts : List (List UInt8)} (created : CreatedEb conf source frame offset.toNat parts)
    (asn : TschAsn) (joinPriority : UInt8) (stale : Ieee802154Ies) :
    ∃ updated : List (List UInt8), updated.flatten.length = parts.flatten.length ∧
      List.Forall₂ (EbElement.Bytes conf (updatedIes conf source asn joinPriority))
        (ebElements conf.eb) updated ∧
      let patched := ebHeader conf source parts.flatten ++
        (mlmeStart parts.flatten.length ++ updated.flatten)
      tschPacketUpdateEb asn joinPriority frame offset stale = some patched ∧
        ∀ index, index < offset.toNat + 2 ∨ offset.toNat + 8 ≤ index →
          patched[index]? = frame[index]? := by
  obtain ⟨elements, frame_eq, offset_eq⟩ := created
  obtain ⟨rest, listed, others⟩ := ebElements_eq conf.eb
  rw [listed] at elements ⊢
  obtain ⟨sync, tail, head, remaining, rfl⟩ := List.forall₂_cons_left_iff.mp elements
  have unchanged : List.Forall₂ (EbElement.Bytes conf (updatedIes conf source asn joinPriority))
      rest tail := by
    have both := (List.forall₂_and_left rest tail).mpr
      ⟨fun element member => ne_of_mem_of_not_mem member others, remaining⟩
    exact both.imp fun element bytes written => written.2.updated conf written.1 asn joinPriority
  have written := synchronization_bytes conf head
  have sized : sync.length = 8 := by rw [written, synchronizationIe_length]
  generalize ebHeader conf source (sync :: tail).flatten = header at frame_eq offset_eq ⊢
  generalize mlmeStart_length (sync :: tail).flatten.length = startSized
  generalize mlmeStart (sync :: tail).flatten.length = start at frame_eq startSized ⊢
  have frameBytes : frame = (header ++ start) ++ (sync ++ tail.flatten) := by
    rw [frame_eq, List.flatten_cons, List.append_assoc]
  have place : offset.toNat = (header ++ start).length := by
    rw [offset_eq, List.length_append, startSized]
  have patched := tschPacketUpdateEb_eq place sized tail.flatten asn joinPriority stale
  rw [← frameBytes, List.append_assoc] at patched
  refine ⟨synchronizationIe asn joinPriority :: tail, ?_, List.Forall₂.cons ⟨8, rfl⟩ unchanged, ?_⟩
  · rw [List.flatten_cons, List.flatten_cons, List.length_append, List.length_append, sized,
      synchronizationIe_length]
  · refine ⟨by rw [patched, List.flatten_cons], fun index outside => ?_⟩
    let before := header ++ start ++ createMlmeShortIeDescriptor mlmeShortIeTschSynchronization 6
    have contentPlace : before.length = offset.toNat + 2 := by
      rw [List.length_append, place]
      rfl
    have sameSize : (synchronizationContent asn joinPriority).length =
        (synchronizationContent (ebIes conf source).ieAsn (ebIes conf source).ieJoinPriority).length := rfl
    have content := getElem?_replaced before tail.flatten sameSize index (by
      rw [contentPlace]
      exact outside)
    simpa only [frameBytes, written, synchronizationIe, List.flatten_cons, List.append_assoc, before]
      using content

section contents

variable (source : EbSource)

theorem ebIes_eq : ebIes conf source = { iesZero conf.ie with
    ieTschTimeslotId := (ebTimeslot conf source (iesZero conf.ie)).ieTschTimeslotId
    ieTschTimeslot := (ebTimeslot conf source (iesZero conf.ie)).ieTschTimeslot
    ieChannelHoppingSequenceId :=
      (ebHoppingSequence conf source (iesZero conf.ie)).ieChannelHoppingSequenceId
    ieHoppingSequenceLen := (ebHoppingSequence conf source (iesZero conf.ie)).ieHoppingSequenceLen
    ieHoppingSequenceList := (ebHoppingSequence conf source (iesZero conf.ie)).ieHoppingSequenceList
    ieTschSlotframeAndLink :=
      (ebSlotframeAndLink conf source (iesZero conf.ie)).ieTschSlotframeAndLink } := by
  unfold ebIes ebTimeslot ebHoppingSequence ebSlotframeAndLink
  dsimp only
  split <;> split <;> split <;> rfl

theorem EbConf.includes_of_inlines {eb : EbConf} {option : Int} (inlined : eb.inlines option) :
    eb.includes option := by
  rw [EbConf.inlines, Bool.and_eq_true] at inlined
  exact inlined.1

theorem ebTimeslot_read (ies : Ieee802154Ies) (asn : TschAsn) (joinPriority : UInt8)
    (unread : ies.ieTschTimeslotId = 0 ∧ ies.ieTschTimeslot = Vector.replicate 12 0) :
    (if conf.eb.includes conf.eb.withTimeslotTiming then [EbElement.timeslot] else []).foldl
        (EbElement.read (updatedIes conf source asn joinPriority)) ies =
      { ies with
        ieTschTimeslotId := (ebIes conf source).ieTschTimeslotId
        ieTschTimeslot := (ebIes conf source).ieTschTimeslot } := by
  obtain ⟨id, values⟩ := unread
  by_cases inlined : conf.eb.inlines conf.eb.withTimeslotTiming
  · simp [EbConf.includes_of_inlines inlined, EbElement.read, updatedIes, ebIes_eq, ebTimeslot, inlined]
  · have absent : (ebIes conf source).ieTschTimeslotId = 0 ∧
        (ebIes conf source).ieTschTimeslot = Vector.replicate 12 0 := by
      simp [ebIes_eq, ebTimeslot, inlined, iesZero]
    rw [absent.1, absent.2]
    split
    · simp [EbElement.read, updatedIes, absent, ← values]
    · simp [← id, ← values]

theorem ebHoppingSequence_read (ies : Ieee802154Ies) (asn : TschAsn) (joinPriority : UInt8)
    (unread : ies.ieChannelHoppingSequenceId = 0 ∧ ies.ieHoppingSequenceLen = 0 ∧
      ies.ieHoppingSequenceList = List.replicate conf.ie.hoppingSequenceMaxLen 0) :
    (if conf.eb.includes conf.eb.withHoppingSequence then [EbElement.hoppingSequence] else []).foldl
        (EbElement.read (updatedIes conf source asn joinPriority)) ies =
      { ies with
        ieChannelHoppingSequenceId := (ebIes conf source).ieChannelHoppingSequenceId
        ieHoppingSequenceLen := (ebIes conf source).ieHoppingSequenceLen
        ieHoppingSequenceList := (ebIes conf source).ieHoppingSequenceList } := by
  obtain ⟨id, len, list⟩ := unread
  by_cases inlined : conf.eb.inlines conf.eb.withHoppingSequence &&
      source.node.mac.tschHoppingSequenceLength.val.toNat ≤ conf.ie.hoppingSequenceMaxLen
  · rw [Bool.and_eq_true, decide_eq_true_eq] at inlined
    simp [EbConf.includes_of_inlines inlined.1, EbElement.read, updatedIes, ebIes_eq,
      ebHoppingSequence, inlined, list, iesZero]
  · have absent : (ebIes conf source).ieChannelHoppingSequenceId = 0 ∧
        (ebIes conf source).ieHoppingSequenceLen = 0 ∧
        (ebIes conf source).ieHoppingSequenceList =
          List.replicate conf.ie.hoppingSequenceMaxLen 0 := by
      simp [ebIes_eq, ebHoppingSequence, inlined, iesZero]
    rw [absent.1, absent.2.1, absent.2.2]
    split
    · simp [EbElement.read, updatedIes, absent, ← list, ← len]
    · rw [← list, ← len, List.foldl_nil]
      simp [← id]

theorem readSlotframe_one (handle : UInt8) (size : UInt16)
    {links : Vector TschSlotframeAndLinksLink 4} {old : TschSlotframeAndLinks}
    (kept : ∀ index : Fin 4, index ≠ 0 → links.get index = old.links.get index) :
    readSlotframe ⟨1, handle, size, 1, links⟩ old = ⟨1, handle, size, 1, links⟩ := by
  have same : (Vector.ofFn fun index : Fin 4 => if index < (1 : UInt8).toNat then
      links.get index else old.links.get index) = links := by
    apply Vector.ext
    intro index inside
    rw [Vector.getElem_ofFn]
    cases index with
    | zero => rfl
    | succ index => exact (kept ⟨index + 1, inside⟩ (by simp [Fin.ext_iff])).symm
  simp only [readSlotframe, same]
  rfl

theorem ebSlotframeAndLink_read (ies : Ieee802154Ies) (asn : TschAsn) (joinPriority : UInt8)
    (unread : ies.ieTschSlotframeAndLink = (iesZero conf.ie).ieTschSlotframeAndLink) :
    (if conf.eb.includes conf.eb.withSlotframeAndLink then [EbElement.slotframeAndLink] else []).foldl
        (EbElement.read (updatedIes conf source asn joinPriority)) ies =
      { ies with ieTschSlotframeAndLink := (ebIes conf source).ieTschSlotframeAndLink } := by
  have read : readSlotframe (ebIes conf source).ieTschSlotframeAndLink
      (iesZero conf.ie).ieTschSlotframeAndLink = (ebIes conf source).ieTschSlotframeAndLink := by
    rw [ebIes_eq]
    dsimp only
    unfold ebSlotframeAndLink
    dsimp only
    split
    · apply readSlotframe_one
      intro index other
      exact Vector.getElem_set_ne (by omega) index.isLt (fun same => other (Fin.ext same.symm))
    · rfl
  by_cases inlined : conf.eb.inlines conf.eb.withSlotframeAndLink
  · simp [EbConf.includes_of_inlines inlined, EbElement.read, updatedIes, unread, read]
  · have absent : (ebIes conf source).ieTschSlotframeAndLink =
        (iesZero conf.ie).ieTschSlotframeAndLink := by
      simp [ebIes_eq, ebSlotframeAndLink, inlined]
    split
    · simp [EbElement.read, updatedIes, unread, read]
    · simp [absent, ← unread]

def unreadIes (conf : IeConf) : Ieee802154Ies :=
  { iesZero conf with ieJoinPriority := 0xff, iePayloadIeOffset := 2 }

theorem subies_read (asn : TschAsn) (joinPriority : UInt8)
    (unterminated : ¬ conf.eb.includes conf.eb.withPayloadIeListTermination) :
    (ebElements conf.eb).foldl (EbElement.read (updatedIes conf source asn joinPriority))
        (unreadIes conf.ie) =
      { updatedIes conf source asn joinPriority with iePayloadIeOffset := 2 } := by
  simp only [ebElements, if_neg unterminated, List.append_nil, List.foldl_append, List.foldl_cons,
    List.foldl_nil]
  rw [ebTimeslot_read, ebHoppingSequence_read, ebSlotframeAndLink_read]
  · simp only [EbElement.read, updatedIes, unreadIes]
    rw [ebIes_eq]
  · rfl
  · exact ⟨rfl, rfl, rfl⟩
  · exact ⟨rfl, rfl⟩

theorem ebIes_listed :
    (ebIes conf source).ieHoppingSequenceList.length = conf.ie.hoppingSequenceMaxLen := by
  rw [ebIes_eq]
  simp only [ebHoppingSequence]
  split
  next inlined =>
    rw [Bool.and_eq_true, decide_eq_true_eq] at inlined
    simp [iesZero, inlined.2]
  next => simp [iesZero]

end contents

def ebMicLen (source : EbSource) (frameWithoutMic : Bool) : Nat :=
  if conf.security.isSome && !frameWithoutMic then
    tschSecurityMicLen (ebFrameParams conf source packetbufClear)
  else 0

theorem ebHeader_parsed (source : EbSource) (body payload : List UInt8) (stack : Frame802154) :
    ∃ parsed, frame802154Parse conf.framer.llsec (ebHeader conf source body ++ payload) stack =
        ((ebHeader conf source body).length, parsed) ∧
      parsed.fcf.frameVersion = ieee802154of2015 ∧ parsed.fcf.frameType = beaconFrame ∧
      parsed.fcf.ieListPresent = 1 ∧
      (conf.security.isSome → tschSecurityMicLen parsed =
        tschSecurityMicLen (ebFrameParams conf source packetbufClear)) := by
  have wellFormed : (ebFrameParams conf source (ebInner body)).WellFormed :=
    createFrameParams_wellFormed conf.framer source.panId (ebAttrs_fits conf _)
  have layout : SameLayout conf.framer.llsec
      (setPanidCompression (ebFrameParams conf source (ebInner body))) :=
    createFrameParams_layout conf.framer
  have sentAs : setPanidCompression (ebFrameParams conf source (ebInner body)) =
      ebFrameParams conf source (ebInner body) := setPanidCompression_of_2015 conf.version
  have reads := (frame802154Parse_create conf.framer.llsec 0 wellFormed layout payload stack).1
  change ReadsBack conf.framer.llsec _ (ebHeader conf source body) payload (frame802154Parse
    conf.framer.llsec (ebHeader conf source body ++ payload) stack) at reads
  rw [sentAs] at reads
  have type : (ebFrameParams conf source (ebInner body)).fcf.frameType = beaconFrame ∧
      (ebFrameParams conf source (ebInner body)).fcf.ieListPresent = 1 := by
    change (ebAttrs conf _).frameType.toUInt8 = _ ∧ (ebAttrs conf _).macMetadata.toUInt8 = _
    unfold ebAttrs
    cases conf.security with
    | none => exact ⟨rfl, rfl⟩
    | some security => cases source.node.mac.tschIsPanSecured <;> exact ⟨rfl, rfl⟩
  refine ⟨_, Prod.ext reads.length rfl, ?_, ?_, ?_, ?_⟩
  · rw [reads.fcf]
    exact conf.version
  · rw [reads.fcf]
    exact type.1
  · rw [reads.fcf]
    exact type.2
  · intro secured
    have uses : conf.framer.llsec.usesAuxHeader := by
      rw [conf.explicitKeys secured]
      rfl
    have enabled : (ebFrameParams conf source (ebInner body)).fcf.securityEnabled = 0 ∨
        (ebFrameParams conf source (ebInner body)).fcf.securityEnabled = 1 := by
      rw [ebFrameParams, createFrameParams_securityEnabled]
      split
      · exact Or.inr rfl
      · exact Or.inl rfl
    have same : tschSecurityMicLen (ebFrameParams conf source (ebInner body)) =
        tschSecurityMicLen (ebFrameParams conf source packetbufClear) := rfl
    rw [← same, tschSecurityMicLen, tschSecurityMicLen, reads.fcf]
    rcases enabled with disabled | enabled
    · rw [if_neg (not_not.mpr disabled), if_neg (not_not.mpr disabled)]
    · rw [(reads.auxHdr uses enabled).securityLevel]

theorem parseEb_elements (source : EbSource) {body0 mic : List UInt8} (body behind : List UInt8)
    (filled : body.length ≠ 0) {frameWithoutMic : Bool}
    (short : (ebHeader conf source body0 ++ (mlmeStart body.length ++ body)).length ≤ tschPacketMaxLen)
    (micSized : mic.length = ebMicLen conf source frameWithoutMic)
    (stack : Frame802154) (stale : Ieee802154Ies) (hdrLen : UInt8) :
    let frame := ebHeader conf source body0 ++ (mlmeStart body.length ++ body)
    let result := parseElements conf.ie (body.length + (mic.length + behind.length) + 3)
      (mlmeScan 4 body (mic ++ behind) (unreadIes conf.ie))
    let parsed := tschPacketParseEb conf (frame ++ (mic ++ behind)) (frame.length + mic.length) stack
      stale hdrLen frameWithoutMic
    (result.1 = -1 → parsed.value = 0) ∧
      (result.1 ≠ -1 → parsed.ies = result.2 ∧
        parsed.value = UInt8.ofNat ((ebHeader conf source body0).length + result.1.toNat)) := by
  intro frame result parsed
  obtain ⟨header, parse, version, type, elements, micLen⟩ := ebHeader_parsed conf source body0
    (mlmeStart body.length ++ body ++ mic) stack
  have front : (frame ++ (mic ++ behind)).take (frame.length + mic.length) =
      ebHeader conf source body0 ++ (mlmeStart body.length ++ body ++ mic) := by
    rw [← List.append_assoc, List.take_left' List.length_append]
    simp [frame]
  have rest : (frame ++ (mic ++ behind)).drop (ebHeader conf source body0).length =
      mlmeStart body.length ++ (body ++ (mic ++ behind)) := by
    simp [frame]
  have frameLength : frame.length = (ebHeader conf source body0).length + 4 + body.length := by
    simp only [frame, List.length_append, mlmeStart_length]
    omega
  have mic_eq : (if conf.security.isSome && !frameWithoutMic then tschSecurityMicLen header else 0) =
      mic.length := by
    rw [micSized, ebMicLen]
    split
    next secured =>
      rw [Bool.and_eq_true] at secured
      exact micLen secured.1
    next => rfl
  have left : frame.length + mic.length - (ebHeader conf source body0).length - mic.length =
      4 + body.length := by omega
  have headerFilled : (ebHeader conf source body0).length ≠ 0 := by
    simp [ebHeader, frame802154Create, frame802154CreateFcf]
  have small : 4 + body.length < 256 := by
    have bounded : frame.length ≤ 127 := short
    omega
  have scanned : frame802154eParseInformationElements conf.ie
      (mlmeStart body.length ++ (body ++ (mic ++ behind))) (UInt8.ofNat (4 + body.length))
      { iesZero conf.ie with ieJoinPriority := 0xff } = result := by
    have rounds : (mlmeStart body.length ++ (body ++ (mic ++ behind))).length + 1 =
        body.length + (mic.length + behind.length) + 3 + 2 := by
      simp only [List.length_append, mlmeStart_length]
      omega
    rw [frame802154eParseInformationElements, rounds, parseElements_mlmeStart conf.ie filled small]
    rfl
  have parsedAs : parsed = tschPacketParseEb conf (frame ++ (mic ++ behind))
      (frame.length + mic.length) stack stale hdrLen frameWithoutMic := rfl
  unfold tschPacketParseEb at parsedAs
  simp only [front, parse, rest, mic_eq, left, scanned, if_neg headerFilled] at parsedAs
  rw [if_neg (by rw [version, type]; decide), if_pos (by rw [elements]; decide),
    if_neg (by omega)] at parsedAs
  constructor
  · intro failed
    rw [parsedAs, if_pos failed]
  · intro succeeded
    rw [parsedAs, if_neg succeeded]
    exact ⟨rfl, rfl⟩

theorem parseElements_termination (conf : IeConf) (rounds offset : Nat) (behind : List UInt8)
    (ies : Ieee802154Ies) :
    parseElements conf (rounds + 1) (mlmeScan offset
      (createPayloadIeDescriptor payloadIeListTermination 0) behind ies) = (-1, ies) := by
  have round := parseElement_descriptor conf offset 0xf800 behind (Nat.le_refl 2) (by decide) 2
    .mlmeSubie ies
  have failed : parseMlmeElement conf 0xf800 ⟨⟨offset + 2, behind⟩, UInt8.ofNat (2 - 2), 2, .mlmeSubie,
      ies⟩ = .returned (-1) ies := rfl
  have start : mlmeScan offset (createPayloadIeDescriptor payloadIeListTermination 0) behind ies =
      ⟨⟨offset, write16 0xf800 ++ behind⟩, UInt8.ofNat 2, 2, .mlmeSubie, ies⟩ := rfl
  rw [parseElements, start, if_neg (by exact (by decide : ¬ UInt8.ofNat 2 = 0)), round]
  dsimp only
  rw [failed]

theorem parseElements_beacon {source : EbSource} {asn : TschAsn} {joinPriority : UInt8}
    {parts : List (List UInt8)}
    (elements : List.Forall₂ (EbElement.Bytes conf (updatedIes conf source asn joinPriority))
      (ebElements conf.eb) parts)
    (short : parts.flatten.length < 256) (behind : List UInt8) (rounds : Nat) :
    let result := parseElements conf.ie (rounds + 5)
      (mlmeScan 4 parts.flatten behind (unreadIes conf.ie))
    (conf.eb.includes conf.eb.withPayloadIeListTermination → result.1 = -1) ∧
      (¬ conf.eb.includes conf.eb.withPayloadIeListTermination →
        result = (((4 + parts.flatten.length : Nat) : Int),
          { updatedIes conf source asn joinPriority with iePayloadIeOffset := 2 })) := by
  intro result
  have listed : (updatedIes conf source asn joinPriority).ieHoppingSequenceList.length =
      conf.ie.hoppingSequenceMaxLen := ebIes_listed conf source
  obtain ⟨subies, split, only, few⟩ := ebElements_subies conf.eb
  constructor
  · intro included
    rw [split, if_pos included] at elements
    have front := List.forall₂_take subies.length elements
    have last := List.forall₂_drop subies.length elements
    rw [List.take_left] at front
    rw [List.drop_left] at last
    obtain ⟨bytes, none, ⟨room, created⟩, nothing, ended⟩ := List.forall₂_cons_left_iff.mp last
    rw [List.forall₂_nil_left_iff.mp nothing] at ended
    have terminated : parts.flatten = (parts.take subies.length).flatten ++
        createPayloadIeDescriptor payloadIeListTermination 0 := by
      have bytes_eq : bytes = createPayloadIeDescriptor payloadIeListTermination 0 :=
        (createIe_some created).trans (List.append_nil _)
      have whole := congrArg List.flatten (List.take_append_drop subies.length parts)
      rw [List.flatten_append, ended, bytes_eq] at whole
      simpa using whole.symm
    have scanned := parseElements_subies conf _ listed front only
      (createPayloadIeDescriptor payloadIeListTermination 0) behind (rounds + 4 - subies.length + 1) 4
      (unreadIes conf.ie) (by rwa [← List.length_append, ← terminated])
    rw [← terminated, parseElements_termination,
      show subies.length + (rounds + 4 - subies.length + 1) = rounds + 5 by omega] at scanned
    exact congrArg Prod.fst scanned
  · intro excluded
    have whole := split
    rw [if_neg excluded, List.append_nil] at whole
    rw [whole] at elements
    have scanned := parseElements_subies conf _ listed elements only [] behind
      (rounds + 4 - subies.length + 1) 4 (unreadIes conf.ie) short
    rw [List.append_nil, parseElements_end, ← whole, subies_read conf source asn joinPriority excluded,
      whole, show subies.length + (rounds + 4 - subies.length + 1) = rounds + 5 by omega] at scanned
    exact scanned

structure SameContents (created read : Ieee802154Ies) : Prop where
  timeslotId : read.ieTschTimeslotId = created.ieTschTimeslotId
  timeslot : read.ieTschTimeslot = created.ieTschTimeslot
  hoppingSequenceId : read.ieChannelHoppingSequenceId = created.ieChannelHoppingSequenceId
  hoppingSequenceLen : read.ieHoppingSequenceLen = created.ieHoppingSequenceLen
  hoppingSequenceList : read.ieHoppingSequenceList = created.ieHoppingSequenceList
  slotframeAndLink : read.ieTschSlotframeAndLink = created.ieTschSlotframeAndLink

/-- The beacon is brought up to date with nothing but the ASN and the join priority changed, and
a receiver reads these and the contents of the creation time. The frame may have its code behind
it, and the memory goes on behind that. -/
def BeaconReadBack (source : EbSource) (frame : List UInt8) (offset : UInt8) : Prop :=
  ∀ (asn : TschAsn) (joinPriority : UInt8) (stale : Ieee802154Ies), ∃ patched,
    tschPacketUpdateEb asn joinPriority frame offset stale = some patched ∧
    (∀ index, index < offset.toNat + 2 ∨ offset.toNat + 8 ≤ index → patched[index]? = frame[index]?) ∧
    ∀ (mic behind : List UInt8) (stack : Frame802154) (ies : Ieee802154Ies) (hdrLen : UInt8)
      (frameWithoutMic : Bool), mic.length = ebMicLen conf source frameWithoutMic →
      let parsed := tschPacketParseEb conf (patched ++ (mic ++ behind)) (patched.length + mic.length)
        stack ies hdrLen frameWithoutMic
      parsed.value.toNat = patched.length ∧ parsed.ies.ieAsn = asn ∧
        parsed.ies.ieJoinPriority = joinPriority ∧ SameContents (ebIes conf source) parsed.ies

theorem updatedEb_parsed {source : EbSource} {frame mic : List UInt8} {offset : Nat}
    {parts updated : List (List UInt8)} (beacon : CreatedEb conf source frame offset parts)
    (short : frame.length ≤ tschPacketMaxLen) {asn : TschAsn} {joinPriority : UInt8}
    (sized : updated.flatten.length = parts.flatten.length)
    (elements : List.Forall₂ (EbElement.Bytes conf (updatedIes conf source asn joinPriority))
      (ebElements conf.eb) updated)
    (behind : List UInt8) (stack : Frame802154) (ies : Ieee802154Ies) (hdrLen : UInt8)
    {frameWithoutMic : Bool} (micSized : mic.length = ebMicLen conf source frameWithoutMic) :
    let patched := ebHeader conf source parts.flatten ++
      (mlmeStart parts.flatten.length ++ updated.flatten)
    let parsed := tschPacketParseEb conf (patched ++ (mic ++ behind)) (patched.length + mic.length)
      stack ies hdrLen frameWithoutMic
    (conf.eb.includes conf.eb.withPayloadIeListTermination → parsed.value = 0) ∧
      (¬ conf.eb.includes conf.eb.withPayloadIeListTermination →
        parsed.value.toNat = patched.length ∧
          parsed.ies = { updatedIes conf source asn joinPriority with iePayloadIeOffset := 2 }) := by
  rw [beacon.frame_eq, List.length_append, List.length_append, mlmeStart_length, ← sized] at short
  simp only [tschPacketMaxLen] at short
  have filled : 8 ≤ updated.flatten.length := by
    obtain ⟨others, listed, -⟩ := ebElements_eq conf.eb
    rw [listed] at elements
    obtain ⟨sync, rest, head, -, rfl⟩ := List.forall₂_cons_left_iff.mp elements
    rw [List.flatten_cons, List.length_append, synchronization_bytes conf head,
      synchronizationIe_length]
    omega
  rw [← sized]
  intro patched parsed
  have patchedLength : patched.length =
      (ebHeader conf source parts.flatten).length + (4 + updated.flatten.length) := by
    simp only [patched, List.length_append, mlmeStart_length]
  obtain ⟨failed, succeeded⟩ := parseEb_elements conf source updated.flatten behind
    (by omega) (by
      change patched.length ≤ 127
      omega) micSized stack ies hdrLen
  obtain ⟨terminated, unterminated⟩ := parseElements_beacon conf elements (by omega) (mic ++ behind)
    (updated.flatten.length + (mic.length + behind.length) - 2)
  rw [show updated.flatten.length + (mic.length + behind.length) - 2 + 5 =
    updated.flatten.length + (mic.length + behind.length) + 3 by omega] at terminated unterminated
  constructor
  · intro included
    exact failed (terminated included)
  · intro excluded
    have read := unterminated excluded
    obtain ⟨ies_eq, value_eq⟩ := succeeded (by
      rw [read]
      dsimp only
      omega)
    refine ⟨?_, ies_eq.trans (congrArg Prod.snd read)⟩
    have value := congrArg UInt8.toNat value_eq
    rw [read] at value
    exact value.trans ((ofNat_toNat_of_le (by
      change _ + (4 + updated.flatten.length) ≤ 127
      omega) (by decide)).trans patchedLength.symm)

theorem beacon_round_trip_iff (source : EbSource) {packetbuf : Packetbuf} {hdrLen offset : UInt8}
    (created : tschPacketCreateEb conf source = some (packetbuf, hdrLen, offset))
    (short : (packetbufFrame packetbuf).length ≤ tschPacketMaxLen) :
    BeaconReadBack conf source (packetbufFrame packetbuf) offset ↔
      ¬ conf.eb.includes conf.eb.withPayloadIeListTermination := by
  obtain ⟨parts, beacon⟩ := createEb_spec conf created short
  constructor
  · intro readBack included
    obtain ⟨updated, sized, elements, patched, -⟩ :=
      updateEb_spec conf beacon ⟨0, 0⟩ 0 (iesZero conf.ie)
    obtain ⟨frame, same, -, read⟩ := readBack ⟨0, 0⟩ 0 (iesZero conf.ie)
    obtain rfl : _ = frame := Option.some.inj (patched.symm.trans same)
    have mic : ([] : List UInt8).length = ebMicLen conf source true := by simp [ebMicLen]
    obtain ⟨length, -⟩ := read [] [] default (iesZero conf.ie) 0 true mic
    have failed := (updatedEb_parsed conf beacon short sized elements [] default (iesZero conf.ie) 0
      mic).1 included
    rw [failed, List.length_append, List.length_append, mlmeStart_length] at length
    change 0 = _ at length
    omega
  · intro excluded asn joinPriority stale
    obtain ⟨updated, sized, elements, patched, kept⟩ :=
      updateEb_spec conf beacon asn joinPriority stale
    refine ⟨_, patched, kept, ?_⟩
    intro mic behind stack ies hdrLen frameWithoutMic micSized parsed
    obtain ⟨length, read⟩ := (updatedEb_parsed conf beacon short sized elements behind stack ies
      hdrLen micSized).2 excluded
    refine ⟨length, ?_⟩
    rw [read]
    exact ⟨rfl, rfl, rfl, rfl, rfl, rfl, rfl, rfl⟩

def beaconPackets (eb : EbConf) : PacketConf := unsecuredPackets eb

def beaconSource : EbSource :=
  { node := { tschScheduleCreateMinimal cc1200Conf (Node.boot cc1200Conf) with
      mac := { tschHoppingSequence := [15, 25, 26, 20], tschHoppingSequenceLength := ⟨4, 0⟩ } }
    timing := Vector.ofFn fun index => UInt32.ofNat (1000 * index)
    panId := 0xabcd
    nodeAddr := Vector.replicate 8 2 }

def inlineElements : EbConf :=
  { ieInline := 1, withTimeslotTiming := 1, withHoppingSequence := 1, withSlotframeAndLink := 1 }

theorem inlineBeacon_read_back : ∃ packetbuf hdrLen offset,
    tschPacketCreateEb (beaconPackets inlineElements) beaconSource = some (packetbuf, hdrLen, offset) ∧
      (packetbufFrame packetbuf).length = 83 ∧
      BeaconReadBack (beaconPackets inlineElements) beaconSource (packetbufFrame packetbuf) offset := by
  have run : (tschPacketCreateEb (beaconPackets inlineElements) beaconSource).map
      (fun created => (packetbufFrame created.1).length) = some 83 := by decide +kernel
  obtain ⟨⟨packetbuf, hdrLen, offset⟩, created, length⟩ := Option.map_eq_some_iff.mp run
  have length : (packetbufFrame packetbuf).length = 83 := length
  refine ⟨packetbuf, hdrLen, offset, created, length, ?_⟩
  refine (beacon_round_trip_iff (beaconPackets inlineElements) beaconSource created ?_).mpr (by decide)
  rw [length]
  decide

def terminatedElements : EbConf := { withPayloadIeListTermination := 1 }

/-- The end of the payload IEs is counted as a part of the MLME IE, where the parser takes it
for a sub-IE it does not know. -/
theorem terminatedBeacon_not_read_back : ∃ packetbuf hdrLen offset,
    tschPacketCreateEb (beaconPackets terminatedElements) beaconSource =
      some (packetbuf, hdrLen, offset) ∧ (packetbufFrame packetbuf).length = 28 ∧
      ¬ BeaconReadBack (beaconPackets terminatedElements) beaconSource (packetbufFrame packetbuf)
        offset := by
  have run : (tschPacketCreateEb (beaconPackets terminatedElements) beaconSource).map
      (fun created => ((packetbufFrame created.1).length,
        (tschPacketUpdateEb ⟨5, 0⟩ 1 (packetbufFrame created.1) created.2.2
          (iesZero ⟨16, false⟩)).map fun patched =>
            ((tschPacketParseEb (beaconPackets terminatedElements) (patched ++ ([] ++ []))
              (patched.length + 0) default (iesZero ⟨16, false⟩) 0 true).value,
              patched.length))) = some (28, some (0, 28)) := by decide +kernel
  obtain ⟨⟨packetbuf, hdrLen, offset⟩, created, result⟩ := Option.map_eq_some_iff.mp run
  obtain ⟨length, updated⟩ := Prod.mk.inj result
  refine ⟨packetbuf, hdrLen, offset, created, length, fun readBack => ?_⟩
  obtain ⟨patched, update, -, read⟩ := readBack ⟨5, 0⟩ 1 (iesZero ⟨16, false⟩)
  rw [update, Option.map_some, Option.some.injEq, Prod.mk.injEq] at updated
  obtain ⟨value, -⟩ := read [] [] default (iesZero ⟨16, false⟩) 0 true rfl
  rw [List.length_nil, updated.1, updated.2] at value
  exact absurd value (by decide)

end MultiPhyTsch
