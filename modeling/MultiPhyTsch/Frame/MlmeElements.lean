import MultiPhyTsch.Frame.HeaderFields
import MultiPhyTsch.Frame.InformationElements
import MultiPhyTsch.Lib.Bytes

/-! Reading the sub-IEs of an MLME IE back. The scan of the sub-IEs that are left is determined
by their bytes: `buf_size` and the nested length both count them down to 0. -/

namespace MultiPhyTsch

variable (offset : Nat)

theorem readIe16_write16 (value : UInt16) (behind : List UInt8) :
    readIe16 ⟨offset, write16 value ++ behind⟩ 0 = value := by
  simp only [readIe16, write16, Cursor.peek, List.cons_append, List.nil_append, List.getD_cons_zero,
    List.getD_cons_succ]
  exact uint16_bytes value

theorem shortDescriptor_read {len : Nat} (small : len < 256) {subId : UInt8}
    (known : subId ∈ [mlmeShortIeTschSynchronization, mlmeShortIeTschSlotframeAndLink,
      mlmeShortIeTschTimeslot]) :
    let desc := (UInt16.ofNat len &&& (0xff : UInt16)) + ((subId.toUInt16 &&& 0x7f) <<< 8)
    desc &&& 0x8000 = 0 ∧ desc &&& 0xff = UInt16.ofNat len ∧
      ((desc &&& 0x7f00) >>> 8).toUInt8 = subId := by
  obtain ⟨index, rfl⟩ : ∃ index : Fin 256, len = index := ⟨⟨len, small⟩, rfl⟩
  revert index
  simp only [List.mem_cons, List.not_mem_nil, or_false] at known
  rcases known with rfl | rfl | rfl <;> decide +kernel

theorem longDescriptor_read {len : Nat} (small : len < 256) :
    let desc := (UInt16.ofNat len &&& (0x7ff : UInt16)) +
      ((mlmeLongIeTschChannelHoppingSequence.toUInt16 &&& 0xf) <<< 11) + 0x8000
    desc &&& 0x8000 ≠ 0 ∧ desc &&& 0x7ff = UInt16.ofNat len ∧
      ((desc &&& 0x7800) >>> 11).toUInt8 = mlmeLongIeTschChannelHoppingSequence := by
  obtain ⟨index, rfl⟩ : ∃ index : Fin 256, len = index := ⟨⟨len, small⟩, rfl⟩
  revert index
  decide +kernel

theorem payloadDescriptor_read {len : Nat} (small : len < 256) :
    let desc := (UInt16.ofNat len &&& (0x7ff : UInt16)) + ((payloadIeMlme.toUInt16 &&& 0xf) <<< 11) +
      0x8000
    desc &&& 0x8000 ≠ 0 ∧ desc &&& 0x7ff = UInt16.ofNat len ∧
      ((desc &&& 0x7800) >>> 11).toUInt8 = payloadIeMlme := by
  obtain ⟨index, rfl⟩ : ∃ index : Fin 256, len = index := ⟨⟨len, small⟩, rfl⟩
  revert index
  decide +kernel

theorem bufSize_left {count : Nat} (low : 2 ≤ count) (high : count < 256) :
    ¬ UInt8.ofNat count = 0 ∧ ¬ UInt8.ofNat count < 2 ∧
      UInt8.ofNat count - 2 = UInt8.ofNat (count - 2) := by
  have size : (UInt8.ofNat count).toNat = count := by
    rw [UInt8.toNat_ofNat']
    exact Nat.mod_eq_of_lt high
  refine ⟨?_, ?_, ?_⟩
  · rw [← UInt8.toNat_inj, size]
    change ¬ count = 0
    omega
  · rw [UInt8.lt_iff_toNat_lt, size]
    change ¬ count < 2
    omega
  · obtain ⟨rest, rfl⟩ : ∃ rest, count = rest + 2 := ⟨count - 2, by omega⟩
    rw [UInt8.ofNat_add, Nat.add_sub_cancel]
    grind

theorem parseElement_descriptor (conf : IeConf) (offset : Nat) (desc : UInt16) (rest : List UInt8)
    {count : Nat} (low : 2 ≤ count) (high : count < 256) (nested : Int) (state : IeParsingState)
    (ies : Ieee802154Ies) :
    parseElement conf ⟨⟨offset, write16 desc ++ rest⟩, UInt8.ofNat count, nested, state, ies⟩ =
      let scan : IeScan := ⟨⟨offset + 2, rest⟩, UInt8.ofNat (count - 2), nested, state, ies⟩
      match state with
      | .headerIe => parseHeaderElement desc scan
      | .payloadIe => parsePayloadElement conf desc scan
      | .mlmeSubie => parseMlmeElement conf desc scan := by
  obtain ⟨-, enough, left⟩ := bufSize_left low high
  have two : UInt16.toNat 2 = 2 := rfl
  have twoByte : UInt16.toUInt8 2 = 2 := rfl
  have skipped : (write16 desc ++ rest).drop 2 = rest := rfl
  cases state <;> simp only [parseElement, if_neg enough, readIe16_write16, IeScan.advance,
    Cursor.skip, two, twoByte, left, skipped]

/-- The scan in front of the sub-IEs `body`, the last bytes of the list; `behind` is what lies
in memory after it. -/
def mlmeScan (offset : Nat) (body behind : List UInt8) (ies : Ieee802154Ies) : IeScan :=
  ⟨⟨offset, body ++ behind⟩, UInt8.ofNat body.length, body.length,
    if body.length = 0 then .payloadIe else .mlmeSubie, ies⟩

variable (conf : IeConf)

theorem parseElements_end (rounds : Nat) (offset : Nat) (behind : List UInt8) (ies : Ieee802154Ies) :
    parseElements conf (rounds + 1) (mlmeScan offset [] behind ies) = ((offset : Int), ies) := by
  rfl

variable {content more behind : List UInt8} {ies : Ieee802154Ies}

section

variable {offset len : Nat} (sized : content.length = len) (short : 2 + len + more.length < 256)
include sized short

theorem closeSubie_parsed {parsed : Option Ieee802154Ies} :
    closeSubie (UInt16.ofNat len) (IeScan.parsed
      ⟨⟨offset + 2, content ++ (more ++ behind)⟩, UInt8.ofNat (len + more.length),
        (2 + len + more.length : Nat), .mlmeSubie, ies⟩ (UInt16.ofNat len) parsed) =
      match parsed with
      | none => .returned (-1) ies
      | some ies => .continued (mlmeScan (offset + 2 + len) more behind ies) := by
  have lenNat : (UInt16.ofNat len).toNat = len := by
    rw [UInt16.toNat_ofNat']
    exact Nat.mod_eq_of_lt (by omega)
  have sizeNat : (UInt8.ofNat (len + more.length)).toNat = len + more.length := by
    rw [UInt8.toNat_ofNat']
    exact Nat.mod_eq_of_lt (by omega)
  have lenByte : (UInt16.ofNat len).toUInt8 = UInt8.ofNat len := by
    apply UInt8.toNat_inj.mp
    rw [UInt16.toNat_toUInt8, lenNat, UInt8.toNat_ofNat']
  have left : UInt8.ofNat (len + more.length) - UInt8.ofNat len = UInt8.ofNat more.length := by
    rw [UInt8.ofNat_add]
    grind
  have inside : ¬ (UInt16.ofNat len).toNat > (UInt8.ofNat (len + more.length)).toNat := by omega
  cases parsed with
  | none =>
    simp only [IeScan.parsed, if_neg inside]
    rfl
  | some parsed =>
    have rest : (content ++ (more ++ behind)).drop len = more ++ behind := by
      rw [List.drop_left' sized]
    have nested : ((2 + len + more.length : Nat) : Int) - (2 + (UInt16.ofNat len).toNat) =
        more.length := by
      rw [lenNat]
      omega
    have positive : ¬ (more.length : Int) < 0 := by omega
    have ended : ((more.length : Int) = 0) = (more.length = 0) := by simp
    simp only [IeScan.parsed, if_neg inside]
    simp only [closeSubie, IeScan.advance, nested, if_neg positive, ended, lenByte, left]
    simp only [lenNat, Cursor.skip, rest, mlmeScan]

theorem parseElement_mlme {desc : UInt16} :
    parseElement conf (mlmeScan offset (write16 desc ++ content ++ more) behind ies) =
      parseMlmeElement conf desc
        ⟨⟨offset + 2, content ++ (more ++ behind)⟩, UInt8.ofNat (len + more.length),
          (2 + len + more.length : Nat), .mlmeSubie, ies⟩ := by
  have total : (write16 desc ++ content ++ more).length = 2 + len + more.length := by
    simp only [List.length_append, sized]
    rfl
  have filled : ¬ 2 + len + more.length = 0 := by omega
  have left : 2 + len + more.length - 2 = len + more.length := by omega
  rw [mlmeScan, total, if_neg filled, List.append_assoc, List.append_assoc,
    parseElement_descriptor conf offset desc _ (by omega) short _ .mlmeSubie ies, left]

theorem parseElement_short {subId : UInt8}
    (known : subId ∈ [mlmeShortIeTschSynchronization, mlmeShortIeTschSlotframeAndLink,
      mlmeShortIeTschTimeslot]) :
    parseElement conf
        (mlmeScan offset (createMlmeShortIeDescriptor subId len ++ content ++ more) behind ies) =
      match parseMlmeShortIe ⟨offset + 2, content ++ (more ++ behind)⟩ (UInt16.ofNat len) subId ies with
      | none => .returned (-1) ies
      | some ies => .continued (mlmeScan (offset + 2 + len) more behind ies) := by
  obtain ⟨type, length, id⟩ := shortDescriptor_read (by omega : len < 256) known
  rw [createMlmeShortIeDescriptor, parseElement_mlme conf sized short, parseMlmeElement, if_pos type]
  dsimp only
  rw [length, id, closeSubie_parsed sized short]

theorem parseElement_long :
    parseElement conf (mlmeScan offset
        (createMlmeLongIeDescriptor mlmeLongIeTschChannelHoppingSequence len ++ content ++ more)
        behind ies) =
      match parseMlmeLongIe conf ⟨offset + 2, content ++ (more ++ behind)⟩ (UInt16.ofNat len)
          mlmeLongIeTschChannelHoppingSequence ies with
      | none => .returned (-1) ies
      | some ies => .continued (mlmeScan (offset + 2 + len) more behind ies) := by
  obtain ⟨type, length, id⟩ := longDescriptor_read (by omega : len < 256)
  rw [createMlmeLongIeDescriptor, parseElement_mlme conf sized short, parseMlmeElement, if_neg type]
  dsimp only
  rw [length, id, closeSubie_parsed sized short]

end

theorem peek_append (before rest : List UInt8) (index : Nat) :
    (Cursor.mk offset (before ++ rest)).peek (before.length + index) =
      (Cursor.mk offset rest).peek index := by
  simp [Cursor.peek, List.getD_eq_getElem?_getD, List.getElem?_append_right]

theorem readIe16_append (before rest : List UInt8) (index : Nat) :
    readIe16 ⟨offset, before ++ rest⟩ (before.length + index) = readIe16 ⟨offset, rest⟩ index := by
  rw [readIe16, Nat.add_assoc, peek_append, peek_append, readIe16]

section

variable {α : Type} (bytes : α → List UInt8) {size : Nat}
  (sized : ∀ item, (bytes item).length = size) (offset : Nat) (behind : List UInt8) (place : Nat)
include sized

theorem peek_blocks :
    ∀ (items : List α) (index : Nat) (inside : index < items.length),
      (Cursor.mk offset (items.flatMap bytes ++ behind)).peek (index * size + place) =
        (Cursor.mk offset (bytes (items.get ⟨index, inside⟩) ++
          ((items.drop (index + 1)).flatMap bytes ++ behind))).peek place := by
  intro items
  induction items with
  | nil => intro index inside; simp at inside
  | cons item items ih =>
    intro index inside
    rw [List.flatMap_cons, List.append_assoc]
    cases index with
    | zero => simp
    | succ index =>
      have next : (index + 1) * size + place = (bytes item).length + (index * size + place) := by
        rw [sized, Nat.add_mul, Nat.one_mul]
        omega
      rw [next, peek_append, ih index (by simpa using inside)]
      rfl

theorem readIe16_blocks (items : List α) (index : Nat) (inside : index < items.length) :
    readIe16 ⟨offset, items.flatMap bytes ++ behind⟩ (index * size + place) =
      readIe16 ⟨offset, bytes (items.get ⟨index, inside⟩) ++
        ((items.drop (index + 1)).flatMap bytes ++ behind)⟩ place := by
  rw [readIe16, Nat.add_assoc, peek_blocks bytes sized offset behind place items index inside,
    peek_blocks bytes sized offset behind (place + 1) items index inside, readIe16]

end

theorem parseSynchronization_create (behind : List UInt8) (asn : TschAsn)
    (joinPriority : UInt8) (ies : Ieee802154Ies) :
    parseSynchronization ⟨offset, [asn.ls4b.toUInt8, (asn.ls4b >>> 8).toUInt8,
      (asn.ls4b >>> 16).toUInt8, (asn.ls4b >>> 24).toUInt8, asn.ms1b, joinPriority] ++ behind⟩
      (UInt16.ofNat 6) ies = some { ies with ieAsn := asn, ieJoinPriority := joinPriority } := by
  rw [parseSynchronization, if_pos (by decide)]
  simp only [Cursor.peek, List.cons_append, List.nil_append, List.getD_cons_zero,
    List.getD_cons_succ, uint32_bytes]

theorem write16_length (value : UInt16) : (write16 value).length = 2 := rfl

theorem parseTimeslot_create (behind : List UInt8) (id : UInt8)
    (timeslot : Vector UInt16 12) (ies : Ieee802154Ies) :
    parseTimeslot ⟨offset, id :: timeslot.toList.flatMap write16 ++ behind⟩ (UInt16.ofNat 25) ies =
      some { ies with ieTschTimeslotId := id, ieTschTimeslot := timeslot } := by
  have values : (Vector.ofFn fun index : Fin 12 => readIe16
      ⟨offset, id :: timeslot.toList.flatMap write16 ++ behind⟩ (1 + 2 * index)) = timeslot := by
    apply Vector.ext
    intro index inside
    rw [Vector.getElem_ofFn]
    have listed : index < timeslot.toList.length := by simpa using inside
    have block := readIe16_blocks write16 write16_length offset behind 0 timeslot.toList index listed
    have shift := readIe16_append offset [id] (timeslot.toList.flatMap write16 ++ behind) (2 * index)
    rw [Nat.add_zero, Nat.mul_comm, readIe16_write16] at block
    have here := shift.trans block
    simpa using here
  rw [parseTimeslot, if_pos (by decide), values]
  rfl

theorem parseTimeslot_default (behind : List UInt8) (ies : Ieee802154Ies) :
    parseTimeslot ⟨offset, [0] ++ behind⟩ (UInt16.ofNat 1) ies =
      some { ies with ieTschTimeslotId := 0 } := rfl

theorem map_peek_range (before items rest : List UInt8) : (List.range items.length).map
        (fun index => (Cursor.mk offset (before ++ (items ++ rest))).peek (before.length + index)) =
      items := by
  apply List.ext_getElem
  · simp
  · intro index inside _
    have listed : index < items.length := by simpa using inside
    rw [List.getElem_map, List.getElem_range, peek_append]
    simp [Cursor.peek, List.getD_eq_getElem?_getD, List.getElem?_append_left listed, listed]

theorem parseHoppingSequence_create (behind sequence : List UInt8) (id : UInt8)
    {len : UInt16} (ies : Ieee802154Ies) (sized : sequence.length = len.toNat)
    (room : len.toNat ≤ conf.hoppingSequenceMaxLen) (short : 12 + len.toNat < 256) :
    parseMlmeLongIe conf
      ⟨offset, (id :: ([0, 0, 0, 0, 0, 0, 0] ++ write16 len ++ sequence ++ [0, 0])) ++ behind⟩
      (UInt16.ofNat (12 + len.toNat)) mlmeLongIeTschChannelHoppingSequence ies =
        some { ies with
          ieChannelHoppingSequenceId := id
          ieHoppingSequenceLen := len
          ieHoppingSequenceList := sequence ++ ies.ieHoppingSequenceList.drop len.toNat } := by
  have lenNat : (UInt16.ofNat (12 + len.toNat)).toNat = 12 + len.toNat := by
    rw [UInt16.toNat_ofNat']
    exact Nat.mod_eq_of_lt (by omega)
  have positive : UInt16.ofNat (12 + len.toNat) > 0 := by
    rw [gt_iff_lt, UInt16.lt_iff_toNat_lt, lenNat]
    exact Nat.lt_of_lt_of_le (by decide : UInt16.toNat 0 < 12) (by omega)
  have long : UInt16.ofNat (12 + len.toNat) > 1 := by
    rw [gt_iff_lt, UInt16.lt_iff_toNat_lt, lenNat]
    exact Nat.lt_of_lt_of_le (by decide : UInt16.toNat 1 < 12) (by omega)
  have first : (id :: ([0, 0, 0, 0, 0, 0, 0] ++ write16 len ++ sequence ++ [0, 0])) ++ behind =
      [id, 0, 0, 0, 0, 0, 0, 0] ++ (write16 len ++ (sequence ++ ([0, 0] ++ behind))) := by
    simp
  have second : (id :: ([0, 0, 0, 0, 0, 0, 0] ++ write16 len ++ sequence ++ [0, 0])) ++ behind =
      ([id, 0, 0, 0, 0, 0, 0, 0] ++ write16 len) ++ (sequence ++ ([0, 0] ++ behind)) := by
    simp
  have announced : readIe16
      ⟨offset, (id :: ([0, 0, 0, 0, 0, 0, 0] ++ write16 len ++ sequence ++ [0, 0])) ++ behind⟩ 8 =
        len := by
    rw [first]
    exact (readIe16_append offset [id, 0, 0, 0, 0, 0, 0, 0] _ 0).trans (readIe16_write16 offset len _)
  have copied : (List.range len.toNat).map (fun index => (Cursor.mk offset
      ((id :: ([0, 0, 0, 0, 0, 0, 0] ++ write16 len ++ sequence ++ [0, 0])) ++ behind)).peek
        (10 + index)) = sequence := by
    rw [second, ← sized]
    exact map_peek_range offset ([id, 0, 0, 0, 0, 0, 0, 0] ++ write16 len) sequence _
  rw [parseMlmeLongIe, if_pos ⟨rfl, positive⟩]
  dsimp only
  rw [if_pos long, announced, copied, if_pos ⟨room, lenNat⟩]
  rfl

theorem parseHoppingSequence_default (behind : List UInt8) (ies : Ieee802154Ies) :
    parseMlmeLongIe conf ⟨offset, [0] ++ behind⟩ (UInt16.ofNat 1)
      mlmeLongIeTschChannelHoppingSequence ies =
        some { ies with ieChannelHoppingSequenceId := 0 } := rfl

theorem parseSlotframe_default (behind : List UInt8) (ies : Ieee802154Ies) :
    parseSlotframeAndLink ⟨offset, [0] ++ behind⟩ (UInt16.ofNat 1) ies = some ies := rfl

theorem linkBytes_length (link : TschSlotframeAndLinksLink) : (linkBytes link).length = 5 := rfl

theorem linkBytes_read (link : TschSlotframeAndLinksLink) (behind : List UInt8) :
    readIe16 ⟨offset, linkBytes link ++ behind⟩ 0 = link.timeslot ∧
      readIe16 ⟨offset, linkBytes link ++ behind⟩ 2 = link.channelOffset ∧
      (Cursor.mk offset (linkBytes link ++ behind)).peek 4 = link.linkOptions := by
  refine ⟨?_, ?_, rfl⟩
  · rw [linkBytes, List.append_assoc, List.append_assoc]
    exact readIe16_write16 offset link.timeslot _
  · rw [linkBytes, List.append_assoc, List.append_assoc]
    exact (readIe16_append offset (write16 link.timeslot) _ 0).trans
      (readIe16_write16 offset link.channelOffset _)

theorem parseSlotframeLinks_create (before behind : List UInt8)
    (fields : before.length = 5) (links old : Vector TschSlotframeAndLinksLink 4) {numLinks : Nat}
    (few : numLinks ≤ 4) :
    parseSlotframeLinks ⟨offset, before ++ ((links.toList.take numLinks).flatMap linkBytes ++ behind)⟩
        numLinks old =
      Vector.ofFn fun index => if index < numLinks then links.get index else old.get index := by
  apply Vector.ext
  intro index inside
  rw [parseSlotframeLinks, Vector.getElem_ofFn, Vector.getElem_ofFn]
  split
  next used =>
    have used : index < numLinks := used
    have listed : index < (links.toList.take numLinks).length := by
      rw [List.length_take, Vector.length_toList]
      omega
    have item : (links.toList.take numLinks).get ⟨index, listed⟩ = links.get ⟨index, inside⟩ := by
      simp [Vector.get]
    have place : ∀ place, 5 + index * 5 + place = before.length + (index * 5 + place) := by omega
    have read : ∀ position, readIe16
        ⟨offset, before ++ ((links.toList.take numLinks).flatMap linkBytes ++ behind)⟩
        (5 + index * 5 + position) = readIe16 ⟨offset, linkBytes (links.get ⟨index, inside⟩) ++
          (((links.toList.take numLinks).drop (index + 1)).flatMap linkBytes ++ behind)⟩ position := by
      intro position
      rw [place, readIe16_append, readIe16_blocks linkBytes linkBytes_length offset behind position
        _ index listed, item]
    have options : (Cursor.mk offset
        (before ++ ((links.toList.take numLinks).flatMap linkBytes ++ behind))).peek
        (5 + index * 5 + 4) = (Cursor.mk offset (linkBytes (links.get ⟨index, inside⟩) ++
          (((links.toList.take numLinks).drop (index + 1)).flatMap linkBytes ++ behind))).peek 4 := by
      rw [place, peek_append, peek_blocks linkBytes linkBytes_length offset behind 4 _ index listed,
        item]
    obtain ⟨timeslot, channel, option⟩ := linkBytes_read offset (links.get ⟨index, inside⟩)
      (((links.toList.take numLinks).drop (index + 1)).flatMap linkBytes ++ behind)
    have timeslotRead := (read 0).trans timeslot
    rw [Nat.add_zero] at timeslotRead
    rw [timeslotRead, (read 2).trans channel, options.trans option]
  next unused => rfl

def readSlotframe (written old : TschSlotframeAndLinks) : TschSlotframeAndLinks :=
  if written.numSlotframes = 0 then old
  else { written with links := Vector.ofFn fun index =>
    if index < written.numLinks.toNat then written.links.get index else old.links.get index }

theorem parseSlotframeAndLink_create (behind : List UInt8)
    (written : TschSlotframeAndLinks) (one : written.numSlotframes = 1)
    (few : written.numLinks.toNat ≤ ieMaxLinks) (ies : Ieee802154Ies) : parseSlotframeAndLink
        ⟨offset, (written.numSlotframes :: slotframeBytes written) ++ behind⟩
        (UInt16.ofNat (1 + written.numSlotframes.toNat * (4 + 5 * written.numLinks.toNat))) ies =
      some { ies with
        ieTschSlotframeAndLink := readSlotframe written ies.ieTschSlotframeAndLink } := by
  obtain ⟨numSlotframes, handle, size, numLinks, links⟩ := written
  dsimp only at one few ⊢
  subst one
  have few : numLinks.toNat ≤ 4 := few
  have bytes : ((1 : UInt8) :: slotframeBytes ⟨1, handle, size, numLinks, links⟩) ++ behind =
      [1, handle, size.toUInt8, (size >>> 8).toUInt8, numLinks] ++
        ((links.toList.take numLinks.toNat).flatMap linkBytes ++ behind) := by
    simp [slotframeBytes, write16]
  have count : (1 : UInt8).toNat = 1 := rfl
  have lenNat : (UInt16.ofNat (1 + 1 * (4 + 5 * numLinks.toNat))).toNat =
      1 + 1 * (4 + 5 * numLinks.toNat) := by
    rw [UInt16.toNat_ofNat']
    exact Nat.mod_eq_of_lt (by omega)
  have filled : ¬ UInt16.ofNat (1 + 1 * (4 + 5 * numLinks.toNat)) < 1 := by
    rw [UInt16.lt_iff_toNat_lt, lenNat]
    change ¬ _ < 1
    omega
  have linksRead := parseSlotframeLinks_create offset
    [1, handle, size.toUInt8, (size >>> 8).toUInt8, numLinks] behind rfl links
    ies.ieTschSlotframeAndLink.links few
  have sizeRead : readIe16 ⟨offset, [1, handle, size.toUInt8, (size >>> 8).toUInt8, numLinks] ++
      ((links.toList.take numLinks.toNat).flatMap linkBytes ++ behind)⟩ 2 = size :=
    (readIe16_append offset [1, handle] _ 0).trans (readIe16_write16 offset size
      ([numLinks] ++ ((links.toList.take numLinks.toNat).flatMap linkBytes ++ behind)))
  rw [count, bytes]
  unfold parseSlotframeAndLink
  rw [if_neg filled, sizeRead]
  have one : (Cursor.mk offset ([1, handle, size.toUInt8, (size >>> 8).toUInt8, numLinks] ++
      ((links.toList.take numLinks.toNat).flatMap linkBytes ++ behind))).peek 0 = 1 := rfl
  have four : (Cursor.mk offset ([1, handle, size.toUInt8, (size >>> 8).toUInt8, numLinks] ++
      ((links.toList.take numLinks.toNat).flatMap linkBytes ++ behind))).peek 4 = numLinks := rfl
  simp only [one, four, linksRead]
  rw [if_neg (by decide), if_pos ⟨by decide, few, by rw [lenNat]; rfl⟩]
  rfl

end MultiPhyTsch
