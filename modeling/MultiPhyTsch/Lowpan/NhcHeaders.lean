import MultiPhyTsch.Lowpan.IphcHeader

/-! The chain of extension headers and the UDP header: what `compress_hdr_iphc` writes of them and
what `uncompress_hdr_iphc` makes of that, by induction along the chain. -/

namespace MultiPhyTsch.Lowpan

def IsExtHdr (proto : UInt8) : Prop := isCompressableProto proto = true ∧ proto ≠ uipProtoUdp

/-- The bytes of the extension header `extHdrLen` bytes behind the IP header. -/
def extHdrSize (ip : Memory UInt8) (extHdrLen : Nat) : Nat :=
  (ip (uipIphLen + extHdrLen + 1)).toNat * 8 + 8

/-- From the next header `proto`, with `extHdrLen` bytes of extension headers before it, the chain
of next headers leads to `last` behind `total` bytes. -/
inductive HeaderChain (ip : Memory UInt8) : UInt8 → Nat → UInt8 → Nat → Prop
  | last {proto : UInt8} {extHdrLen : Nat} (ends : ¬ IsExtHdr proto) :
      HeaderChain ip proto extHdrLen proto extHdrLen
  | next {proto last : UInt8} {extHdrLen total : Nat} (ext : IsExtHdr proto)
      (rest : HeaderChain ip (ip (uipIphLen + extHdrLen)) (extHdrLen + extHdrSize ip extHdrLen)
        last total) :
      HeaderChain ip proto extHdrLen last total

theorem HeaderChain.ends {ip : Memory UInt8} {proto last : UInt8} {extHdrLen total : Nat}
    (chain : HeaderChain ip proto extHdrLen last total) : ¬ IsExtHdr last := by
  induction chain with
  | last ends => exact ends
  | next ext rest ih => exact ih

theorem compressable_last {proto : UInt8} (ends : ¬ IsExtHdr proto) :
    isCompressableProto proto = true ↔ proto = uipProtoUdp := by
  constructor
  · intro compressable
    by_contra other
    exact ends ⟨compressable, other⟩
  · rintro rfl
    decide

theorem IsExtHdr.cases {proto : UInt8} (ext : IsExtHdr proto) :
    proto ∈ ([uipProtoHbho, uipProtoRouting, uipProtoFrag, uipProtoDesto] : List UInt8) := by
  obtain ⟨compressable, other⟩ := ext
  simp only [isCompressableProto, Bool.or_eq_true, beq_iff_eq] at compressable
  simp only [List.mem_cons, List.not_mem_nil, or_false]
  tauto

def extHdrNhc (proto : UInt8) (kept : Bool) : UInt8 :=
  nhcExtHdr ||| (if kept then 0 else nhcBit) ||| (nhcExtHdrId proto <<< 1)

def extHdrBytes (ip : Memory UInt8) (proto : UInt8) (extHdrLen : Nat) : List UInt8 :=
  let next := ip (uipIphLen + extHdrLen)
  let size := extHdrSize ip extHdrLen
  (if isCompressableProto next = false then [extHdrNhc proto true, next]
    else [extHdrNhc proto false]) ++
      UInt8.ofNat (size - 2) :: ip.read (uipIphLen + extHdrLen + 2) (size - 2)

variable {ip : Memory UInt8} {payloadEnd rounds hc06 extHdrLen total len : Nat} {proto last : UInt8}
  {bytes : List UInt8}

theorem extHdrBytes_length :
    (extHdrBytes ip proto extHdrLen).length =
      (if isCompressableProto (ip (uipIphLen + extHdrLen)) = false then 1 else 0) +
        extHdrSize ip extHdrLen := by
  have size : 8 ≤ extHdrSize ip extHdrLen := by
    unfold extHdrSize
    omega
  by_cases kept : isCompressableProto (ip (uipIphLen + extHdrLen)) = false
  · simp [extHdrBytes, kept]
    omega
  · simp [extHdrBytes, kept]
    omega

theorem compressNextHdrs_ext (ext : IsExtHdr proto)
    (compressed : compressNextHdrs payloadEnd ip rounds hc06 proto extHdrLen = some (bytes, len)) :
    ∃ rounds' rest restLen, rounds = rounds' + 1 ∧
      hc06 + (extHdrBytes ip proto extHdrLen).length < payloadEnd ∧
      compressNextHdrs payloadEnd ip rounds' (hc06 + (extHdrBytes ip proto extHdrLen).length)
        (ip (uipIphLen + extHdrLen)) (extHdrLen + extHdrSize ip extHdrLen) = some (rest, restLen) ∧
      bytes = extHdrBytes ip proto extHdrLen ++ rest ∧ len = extHdrSize ip extHdrLen + restLen := by
  cases rounds with
  | zero => cases compressed
  | succ rounds =>
    have compressable : ¬ isCompressableProto proto = false := by simp [ext.1]
    have size : (ip (uipIphLen + extHdrLen + 1)).toNat * 8 + 8 = extHdrSize ip extHdrLen := rfl
    rw [compressNextHdrs, if_neg compressable, if_neg ext.2] at compressed
    simp only [Memory.ptr_apply, Memory.ptr_read, Nat.add_zero, size] at compressed
    rw [extHdrBytes_length]
    by_cases kept : isCompressableProto (ip (uipIphLen + extHdrLen)) = false
    · simp only [kept, true_and, if_true] at compressed ⊢
      split at compressed
      · cases compressed
      by_cases space : hasBufferSpace payloadEnd (hc06 + 1) (extHdrSize ip extHdrLen) = false
      · rw [if_pos space] at compressed
        cases compressed
      rw [if_neg space] at compressed
      simp [hasBufferSpace] at space
      split at compressed
      · cases compressed
      · rename_i rest restLen next
        cases compressed
        have place : hc06 + (1 + extHdrSize ip extHdrLen) =
            hc06 + 1 + extHdrSize ip extHdrLen := by omega
        refine ⟨rounds, rest, restLen, rfl, by omega, ?_, ?_, rfl⟩
        · rw [place]
          exact next
        · simp [extHdrBytes, extHdrNhc, kept]
    · have elided : isCompressableProto (ip (uipIphLen + extHdrLen)) = true := by simpa using kept
      simp only [elided, Bool.true_eq_false, false_and, if_false] at compressed ⊢
      by_cases space : hasBufferSpace payloadEnd hc06 (extHdrSize ip extHdrLen) = false
      · rw [if_pos space] at compressed
        cases compressed
      rw [if_neg space] at compressed
      simp [hasBufferSpace] at space
      split at compressed
      · cases compressed
      · rename_i rest restLen next
        cases compressed
        refine ⟨rounds, rest, restLen, rfl, by simp; omega, ?_, ?_, rfl⟩
        · simpa using next
        · simp [extHdrBytes, extHdrNhc, kept]

theorem compressNextHdrs_last (ends : ¬ IsExtHdr proto)
    (compressed : compressNextHdrs payloadEnd ip rounds hc06 proto extHdrLen = some (bytes, len)) :
    (proto ≠ uipProtoUdp ∧ bytes = [] ∧ len = 0) ∨
      (proto = uipProtoUdp ∧ len = uipUdphLen ∧
        compressUdp payloadEnd (hc06 + 1) (ip.ptr (uipIphLen + extHdrLen)) = some bytes) := by
  cases rounds with
  | zero => cases compressed
  | succ rounds =>
    rw [compressNextHdrs] at compressed
    by_cases udp : proto = uipProtoUdp
    · have compressable : ¬ isCompressableProto proto = false := by
        rw [udp]
        decide
      rw [if_neg compressable, if_pos udp] at compressed
      split at compressed
      · cases compressed
      · rename_i written sent
        cases compressed
        exact Or.inr ⟨udp, rfl, sent⟩
    · have plain : isCompressableProto proto = false := by
        cases compressable : isCompressableProto proto with
        | false => rfl
        | true => exact absurd ⟨compressable, udp⟩ ends
      rw [if_pos plain] at compressed
      cases compressed
      exact Or.inl ⟨udp, rfl, rfl⟩

/-! The decompression loop follows the chain: the headers behind it are restored, but for the next
header at `lastNextheader`, which is written when the header behind is met. -/

/-- Where the headers of the first `extHdrLen` bytes keep something the loop restores. -/
def InNextHdrs (extHdrLen address : Nat) : Prop :=
  address = 6 ∨ uipIphLen ≤ address ∧ address < uipIphLen + extHdrLen

structure NhcState.Tracks (ip base : Memory UInt8) (state : NhcState) (proto : UInt8)
    (total : Nat) : Prop where
  nhc : state.nhc = isCompressableProto proto
  ipPayload : state.ipPayload = uipIphLen + total
  uncompHdrLen : state.uncompHdrLen = uipIphLen + total
  extHdrLen : state.extHdrLen = total
  place : InNextHdrs total state.lastNextheader
  next : ip state.lastNextheader = proto
  inlined : isCompressableProto proto = false → state.buf state.lastNextheader = proto
  restored : ∀ address, InNextHdrs total address → address ≠ state.lastNextheader →
    state.buf address = ip address
  kept : ∀ address, address < uipIphLen → address ≠ 6 → state.buf address = base address

theorem extHdrNhc_fields : ∀ proto ∈
    ([uipProtoHbho, uipProtoRouting, uipProtoFrag, uipProtoDesto] : List UInt8), ∀ kept : Bool,
      extHdrNhc proto kept &&& nhcMask = nhcExtHdr ∧
      extHdrNhc proto kept &&& 0x01 = (if kept then 0 else 1) ∧
      extHdrProto ((extHdrNhc proto kept &&& 0x0e) >>> 1) = some proto := by
  decide +kernel

variable {base : Memory UInt8} {state : NhcState} {tail : List UInt8}

theorem extHdrSize_byte (ip : Memory UInt8) (extHdrLen : Nat) (small : extHdrSize ip extHdrLen < 256) :
    (UInt8.ofNat (extHdrSize ip extHdrLen - 2)).toNat = extHdrSize ip extHdrLen - 2 ∧
      UInt8.ofNat ((2 + (extHdrSize ip extHdrLen - 2)) / 8) - 1 =
        ip (uipIphLen + extHdrLen + 1) := by
  have whole : extHdrSize ip extHdrLen = (ip (uipIphLen + extHdrLen + 1)).toNat * 8 + 8 := rfl
  generalize extHdrSize ip extHdrLen = size at small whole
  generalize ip (uipIphLen + extHdrLen + 1) = byte at whole ⊢
  constructor
  · rw [UInt8.toNat_ofNat']
    omega
  · have units : (2 + (size - 2)) / 8 = byte.toNat + 1 := by omega
    rw [units]
    apply UInt8.toNat_inj.mp
    simp

theorem uncompressExtHdr_eq (state : NhcState) (ext : IsExtHdr proto) (small : extHdrSize ip extHdrLen < 256)
    (ahead : state.hc06.rest = extHdrBytes ip proto extHdrLen ++ tail) :
    state.hc06.peek 0 &&& nhcMask = nhcExtHdr ∧
    uncompressExtHdr state = some
      { hc06 := ⟨state.hc06.offset + (extHdrBytes ip proto extHdrLen).length, tail⟩
        buf := (((state.buf.write state.lastNextheader [proto]).write (state.ipPayload + 1)
          [ip (uipIphLen + extHdrLen + 1)]).write state.ipPayload
            [if isCompressableProto (ip (uipIphLen + extHdrLen)) = false then
              ip (uipIphLen + extHdrLen) else 0]).write (state.ipPayload + 2)
              (ip.read (uipIphLen + extHdrLen + 2) (extHdrSize ip extHdrLen - 2))
        nhc := isCompressableProto (ip (uipIphLen + extHdrLen))
        lastNextheader := state.ipPayload
        ipPayload := state.ipPayload + extHdrSize ip extHdrLen
        uncompHdrLen := (state.uncompHdrLen + extHdrSize ip extHdrLen) % 256
        extHdrLen := (state.extHdrLen + extHdrSize ip extHdrLen) % 256 } := by
  obtain ⟨sent, lenField⟩ := extHdrSize_byte ip extHdrLen small
  have whole : (ip (uipIphLen + extHdrLen + 1)).toNat * 8 + 8 = extHdrSize ip extHdrLen := rfl
  have size : ((ip (uipIphLen + extHdrLen + 1)).toNat + 1) * 8 = extHdrSize ip extHdrLen := by omega
  have fields := extHdrNhc_fields proto ext.cases
  by_cases kept : isCompressableProto (ip (uipIphLen + extHdrLen)) = false
  · obtain ⟨mask, nh, id⟩ := fields true
    have bytes : state.hc06.rest = extHdrNhc proto true :: ip (uipIphLen + extHdrLen) ::
        UInt8.ofNat (extHdrSize ip extHdrLen - 2) ::
          (ip.read (uipIphLen + extHdrLen + 2) (extHdrSize ip extHdrLen - 2) ++ tail) := by
      simp [ahead, extHdrBytes, kept]
    have first : state.hc06.peek 0 = extHdrNhc proto true := by simp [Cursor.peek, bytes]
    refine ⟨by rw [first, mask], ?_⟩
    simp only [if_true] at nh
    have second : (state.hc06.skip 1).peek 0 = ip (uipIphLen + extHdrLen) := by
      simp [Cursor.peek, bytes]
    have third : ((state.hc06.skip 1).skip 1).peek 0 =
        UInt8.ofNat (extHdrSize ip extHdrLen - 2) := by
      simp [Cursor.peek, bytes]
    have ahead : (((state.hc06.skip 1).skip 1).skip 1).rest =
        ip.read (uipIphLen + extHdrLen + 2) (extHdrSize ip extHdrLen - 2) ++ tail := by
      simp [bytes]
    have data := Cursor.read_ahead ahead
    have behind : (((state.hc06.skip 1).skip 1).skip 1).skip (extHdrSize ip extHdrLen - 2) =
        ⟨state.hc06.offset + (extHdrBytes ip proto extHdrLen).length, tail⟩ := by
      apply Cursor.eq_mk
      · simp only [Cursor.skip_offset, extHdrBytes_length, kept, if_true]
        omega
      · have rest := Cursor.skip_ahead ahead
        rwa [Memory.read_length] at rest
    rw [Memory.read_length] at data
    unfold uncompressExtHdr
    simp only [first, nh, if_true, second, third, id, sent, lenField, size, data, behind, kept]
    rfl
  · have elided : isCompressableProto (ip (uipIphLen + extHdrLen)) = true := by simpa using kept
    obtain ⟨mask, nh, id⟩ := fields false
    have bytes : state.hc06.rest = extHdrNhc proto false ::
        UInt8.ofNat (extHdrSize ip extHdrLen - 2) ::
          (ip.read (uipIphLen + extHdrLen + 2) (extHdrSize ip extHdrLen - 2) ++ tail) := by
      simp [ahead, extHdrBytes, kept]
    have first : state.hc06.peek 0 = extHdrNhc proto false := by simp [Cursor.peek, bytes]
    refine ⟨by rw [first, mask], ?_⟩
    have nh : extHdrNhc proto false &&& 0x01 = 1 := nh
    have second : (state.hc06.skip 1).peek 0 = UInt8.ofNat (extHdrSize ip extHdrLen - 2) := by
      simp [Cursor.peek, bytes]
    have ahead : ((state.hc06.skip 1).skip 1).rest =
        ip.read (uipIphLen + extHdrLen + 2) (extHdrSize ip extHdrLen - 2) ++ tail := by
      simp [bytes]
    have data := Cursor.read_ahead ahead
    have behind : ((state.hc06.skip 1).skip 1).skip (extHdrSize ip extHdrLen - 2) =
        ⟨state.hc06.offset + (extHdrBytes ip proto extHdrLen).length, tail⟩ := by
      apply Cursor.eq_mk
      · simp only [Cursor.skip_offset, extHdrBytes_length, elided]
        simp
        omega
      · have rest := Cursor.skip_ahead ahead
        rwa [Memory.read_length] at rest
    rw [Memory.read_length] at data
    have one : ¬ (1 : UInt8) = 0 := by decide
    unfold uncompressExtHdr
    simp only [first, nh, if_neg one, second, id, sent, lenField, size, data, behind, elided]
    rfl

theorem uncompressExtHdr_compress (ext : IsExtHdr proto)
    (tracks : state.Tracks ip base proto extHdrLen)
    (small : extHdrLen + extHdrSize ip extHdrLen < 200)
    (ahead : state.hc06.rest = extHdrBytes ip proto extHdrLen ++ tail) :
    (state.nhc = true ∧ state.hc06.peek 0 &&& nhcMask = nhcExtHdr) ∧
      ∃ after, uncompressExtHdr state = some after ∧
        after.Tracks ip base (ip (uipIphLen + extHdrLen)) (extHdrLen + extHdrSize ip extHdrLen) ∧
        after.hc06 = ⟨state.hc06.offset + (extHdrBytes ip proto extHdrLen).length, tail⟩ := by
  have whole : extHdrSize ip extHdrLen = (ip (uipIphLen + extHdrLen + 1)).toNat * 8 + 8 := rfl
  obtain ⟨mask, round⟩ := uncompressExtHdr_eq state ext (by omega) ahead
  have iphLen : uipIphLen = 40 := rfl
  have before : state.lastNextheader < uipIphLen + extHdrLen := by
    rcases tracks.place with place | place
    · omega
    · omega
  refine ⟨⟨by rw [tracks.nhc, ext.1], mask⟩, _, round, ?_, rfl⟩
  constructor
  · rfl
  · dsimp only
    rw [tracks.ipPayload]
    omega
  · dsimp only
    rw [tracks.uncompHdrLen]
    omega
  · dsimp only
    rw [tracks.extHdrLen]
    omega
  · dsimp only
    right
    rw [tracks.ipPayload]
    omega
  · dsimp only
    rw [tracks.ipPayload]
  · intro kept
    dsimp only
    rw [Memory.write_before _ _ (by omega), if_pos kept]
    exact Memory.write_cell _ _ _
  · intro address inside other
    dsimp only at other ⊢
    rw [tracks.ipPayload] at other ⊢
    by_cases old : address < uipIphLen + extHdrLen
    · rw [Memory.write_before _ _ (by omega), Memory.write_before _ _ (by omega),
        Memory.write_before _ _ (by omega)]
      by_cases place : address = state.lastNextheader
      · rw [place, tracks.next]
        exact Memory.write_cell _ _ _
      · rw [Memory.write_cell_other _ _ place]
        refine tracks.restored address ?_ place
        rcases inside with six | ⟨behind, _⟩
        · exact Or.inl six
        · exact Or.inr ⟨behind, old⟩
    · have inside : address < uipIphLen + (extHdrLen + extHdrSize ip extHdrLen) := by
        rcases inside with six | ⟨_, inside⟩
        · omega
        · exact inside
      by_cases lenByte : address = uipIphLen + extHdrLen + 1
      · rw [lenByte, Memory.write_before _ _ (by omega), Memory.write_cell_other _ _ (by omega)]
        exact Memory.write_cell _ _ _
      · exact Memory.write_read _ _ (by omega) (by omega)
  · intro address early other
    dsimp only
    rw [tracks.ipPayload, Memory.write_before _ _ (by omega), Memory.write_before _ _ (by omega),
      Memory.write_before _ _ (by omega), Memory.write_cell_other]
    · exact tracks.kept address early other
    · rcases tracks.place with place | place
      · omega
      · omega

theorem port_split (port mask : UInt16) : port = (port &&& mask) ||| (port &&& ~~~mask) := by
  apply UInt16.toBitVec_inj.mp
  ext bit bound
  simp
  cases port.toBitVec[bit] <;> simp

theorem port_4_bit {port : UInt16} (known : port &&& 0xfff0 = udp4BitPortMin) :
    ∃ low ∈ List.range 16, port = UInt16.ofNat (0xf0b0 + low) := by
  have split := port_split port 0xfff0
  rw [known] at split
  have low : (port &&& ~~~0xfff0).toNat = port.toNat % 16 := by
    rw [UInt16.toNat_and, ← Nat.and_two_pow_sub_one_eq_mod _ 4]
    rfl
  have all : ∀ low ∈ List.range 16, udp4BitPortMin ||| UInt16.ofNat low = UInt16.ofNat (0xf0b0 + low) := by decide
  refine ⟨port.toNat % 16, List.mem_range.mpr (Nat.mod_lt _ (by omega)), ?_⟩
  rw [← all _ (List.mem_range.mpr (Nat.mod_lt _ (by omega))), ← low, UInt16.ofNat_toNat]
  exact split

theorem port_8_bit {port : UInt16} (known : port &&& 0xff00 = udp8BitPortMin) :
    ∃ low ∈ List.range 256, port = UInt16.ofNat (0xf000 + low) := by
  have split := port_split port 0xff00
  rw [known] at split
  have low : (port &&& ~~~0xff00).toNat = port.toNat % 256 := by
    rw [UInt16.toNat_and, ← Nat.and_two_pow_sub_one_eq_mod _ 8]
    rfl
  have all : ∀ low ∈ List.range 256,
      udp8BitPortMin ||| UInt16.ofNat low = UInt16.ofNat (0xf000 + low) := by decide +kernel
  refine ⟨port.toNat % 256, List.mem_range.mpr (Nat.mod_lt _ (by omega)), ?_⟩
  rw [← all _ (List.mem_range.mpr (Nat.mod_lt _ (by omega))), ← low, UInt16.ofNat_toNat]
  exact split

theorem ports_4_bit : ∀ src ∈ List.range 16, ∀ dest ∈ List.range 16,
    udp4BitPortMin + ((((UInt16.ofNat (0xf0b0 + src) - udp4BitPortMin) <<< 4).toUInt8 +
      (UInt16.ofNat (0xf0b0 + dest) - udp4BitPortMin).toUInt8) >>> 4).toUInt16 =
        UInt16.ofNat (0xf0b0 + src) ∧
    udp4BitPortMin + ((((UInt16.ofNat (0xf0b0 + src) - udp4BitPortMin) <<< 4).toUInt8 +
      (UInt16.ofNat (0xf0b0 + dest) - udp4BitPortMin).toUInt8) &&& 0x0f).toUInt16 =
        UInt16.ofNat (0xf0b0 + dest) := by
  decide +kernel
theorem ports_8_bit : ∀ low ∈ List.range 256,
    udp8BitPortMin + (UInt16.ofNat (0xf000 + low) - udp8BitPortMin).toUInt8.toUInt16 =
      UInt16.ofNat (0xf000 + low) := by
  decide +kernel

theorem udpForm_fields : ∀ form ∈
    ([nhcUdpCsP00, nhcUdpCsP01, nhcUdpCsP10, nhcUdpCsP11] : List UInt8),
      form &&& nhcMask ≠ nhcExtHdr ∧ form &&& nhcUdpMask = nhcUdpId ∧
      form &&& nhcUdpChecksumc = 0 := by
  decide +kernel

theorem compressUdp_parts {udp : Memory UInt8}
    (sent : compressUdp payloadEnd hc06 udp = some bytes) :
    ∃ form ports, bytes = form :: ports ++ udp.read 6 2 ∧ hc06 + ports.length + 2 < payloadEnd ∧
      form ∈ ([nhcUdpCsP00, nhcUdpCsP01, nhcUdpCsP10, nhcUdpCsP11] : List UInt8) ∧
      ∀ (cursor : Cursor UInt8) (tail : List UInt8), cursor.rest = form :: ports ++ tail →
        uncompressPorts cursor = some (udp.read 0 4, cursor.skip (ports.length + 1)) := by
  have checksum : udp.read 6 2 = [udp 6, udp 7] := by simp [Memory.read, List.range_succ]
  have ports : udp.read 0 4 = udp.read 0 2 ++ udp.read 2 2 := udp.read_add 0 2 2
  have first : udp.read 0 2 = [udp 0, udp 1] := by simp [Memory.read, List.range_succ]
  have second : udp.read 2 2 = [udp 2, udp 3] := by simp [Memory.read, List.range_succ]
  have srcport := set16_get16 udp 0
  have destport := set16_get16 udp 2
  rw [checksum]
  simp only [compressUdp] at sent
  split at sent
  next => cases sent
  next inlined chosen =>
    obtain ⟨enough, ⟨⟩⟩ := Option.ite_none_right_eq_some.mp sent
    have enough := of_decide_eq_true enough
    split at chosen
    next four =>
      obtain ⟨-, ⟨⟩⟩ := Option.ite_none_right_eq_some.mp chosen
      refine ⟨nhcUdpCsP11, [_], rfl, enough, by decide, ?_⟩
      intro cursor tail ahead
      obtain ⟨src, srcBound, srcEq⟩ := port_4_bit four.1
      obtain ⟨dest, destBound, destEq⟩ := port_4_bit four.2
      obtain ⟨srcBack, destBack⟩ := ports_4_bit src srcBound dest destBound
      rw [← srcEq, ← destEq] at srcBack destBack
      have form : cursor.peek 0 &&& nhcUdpCsP11 = nhcUdpCsP11 := by
        simp [Cursor.peek, ahead]
      have byte : cursor.peek 1 = ((get16 udp 0 - udp4BitPortMin) <<< 4).toUInt8 +
          (get16 udp 2 - udp4BitPortMin).toUInt8 := by
        simp [Cursor.peek, ahead]
      unfold uncompressPorts
      simp only [form, byte, srcBack, destBack, srcport, destport, ports]
      rfl
    split at chosen
    next eight =>
      obtain ⟨-, ⟨⟩⟩ := Option.ite_none_right_eq_some.mp chosen
      refine ⟨nhcUdpCsP01, [_, _, _], rfl, enough, by decide, ?_⟩
      intro cursor tail ahead
      obtain ⟨low, bound, port⟩ := port_8_bit eight
      have back := ports_8_bit low bound
      rw [← port] at back
      have form : cursor.peek 0 &&& nhcUdpCsP11 = nhcUdpCsP01 := by
        rw [show cursor.peek 0 = nhcUdpCsP01 by simp [Cursor.peek, ahead]]
        decide
      have byte : cursor.peek 3 = (get16 udp 2 - udp8BitPortMin).toUInt8 := by
        simp [Cursor.peek, ahead]
      have src0 : cursor.peek 1 = udp 0 := by simp [Cursor.peek, ahead]
      have src1 : cursor.peek 2 = udp 1 := by simp [Cursor.peek, ahead]
      unfold uncompressPorts
      simp only [form, byte, src0, src1, back, destport, ports, first]
      rfl
    split at chosen
    next source =>
      obtain ⟨-, ⟨⟩⟩ := Option.ite_none_right_eq_some.mp chosen
      refine ⟨nhcUdpCsP10, [_, _, _], rfl, enough, by decide, ?_⟩
      intro cursor tail ahead
      obtain ⟨low, bound, port⟩ := port_8_bit source
      have back := ports_8_bit low bound
      rw [← port] at back
      have form : cursor.peek 0 &&& nhcUdpCsP11 = nhcUdpCsP10 := by
        rw [show cursor.peek 0 = nhcUdpCsP10 by simp [Cursor.peek, ahead]]
        decide
      have byte : cursor.peek 1 = (get16 udp 0 - udp8BitPortMin).toUInt8 := by
        simp [Cursor.peek, ahead]
      have dest0 : cursor.peek 2 = udp 2 := by simp [Cursor.peek, ahead]
      have dest1 : cursor.peek 3 = udp 3 := by simp [Cursor.peek, ahead]
      unfold uncompressPorts
      simp only [form, byte, dest0, dest1, back, srcport, ports, second]
      rfl
    obtain ⟨-, ⟨⟩⟩ := Option.ite_none_right_eq_some.mp chosen
    refine ⟨nhcUdpCsP00, [_, _, _, _], rfl, enough, by decide, ?_⟩
    intro cursor tail ahead
    have form : cursor.peek 0 &&& nhcUdpCsP11 = nhcUdpCsP00 := by
      rw [show cursor.peek 0 = nhcUdpCsP00 by simp [Cursor.peek, ahead]]
      decide
    have src0 : cursor.peek 1 = udp 0 := by simp [Cursor.peek, ahead]
    have src1 : cursor.peek 2 = udp 1 := by simp [Cursor.peek, ahead]
    have dest0 : cursor.peek 3 = udp 2 := by simp [Cursor.peek, ahead]
    have dest1 : cursor.peek 4 = udp 3 := by simp [Cursor.peek, ahead]
    unfold uncompressPorts
    simp only [form, src0, src1, dest0, dest1, ports, first, second]
    rfl

theorem uncompressExtHdrs_chain (base : Memory UInt8) (chain : HeaderChain ip proto extHdrLen last total) :
    ∀ {rounds hc06 bytes len}, payloadEnd ≤ 150 → extHdrLen ≤ hc06 →
      compressNextHdrs payloadEnd ip rounds hc06 proto extHdrLen = some (bytes, len) →
      ∃ extBytes lastBytes, bytes = extBytes ++ lastBytes ∧
        (last ≠ uipProtoUdp ∧ lastBytes = [] ∧ extHdrLen + len = total ∨
          last = uipProtoUdp ∧ extHdrLen + len = total + uipUdphLen ∧
            compressUdp payloadEnd (hc06 + extBytes.length + 1) (ip.ptr (uipIphLen + total)) =
              some lastBytes) ∧
        (extBytes = [] ∧ total = extHdrLen ∨
          hc06 + extBytes.length < payloadEnd ∧ total ≤ hc06 + extBytes.length) ∧
        ∀ (state : NhcState) (tail : List UInt8) (more : Nat),
          state.Tracks ip base proto extHdrLen → state.hc06.rest = bytes ++ tail →
          bytes.length < more →
          ∃ after, uncompressExtHdrs more state = (after, true) ∧ after.Tracks ip base last total ∧
            after.hc06 = ⟨state.hc06.offset + extBytes.length, lastBytes ++ tail⟩ := by
  induction chain with
  | last ends =>
    intro rounds hc06 bytes len short order compressed
    have written := compressNextHdrs_last ends compressed
    refine ⟨[], bytes, rfl, ?_, Or.inl ⟨rfl, rfl⟩, ?_⟩
    · rcases written with ⟨plain, none, zero⟩ | ⟨udp, size, sent⟩
      · exact Or.inl ⟨plain, none, by omega⟩
      · exact Or.inr ⟨udp, by omega, sent⟩
    · intro state tail more tracks ahead enough
      obtain ⟨more, rfl⟩ : ∃ less, more = less + 1 := ⟨more - 1, by omega⟩
      have stops : ¬ (state.nhc = true ∧ state.hc06.peek 0 &&& nhcMask = nhcExtHdr) := by
        rintro ⟨follows, mask⟩
        rw [tracks.nhc] at follows
        have udp := (compressable_last ends).mp follows
        rcases written with ⟨plain, _, _⟩ | ⟨_, _, sent⟩
        · exact plain udp
        · obtain ⟨form, ports, rfl, _, forms, _⟩ := compressUdp_parts sent
          have first : state.hc06.peek 0 = form := by simp [Cursor.peek, ahead]
          rw [first] at mask
          exact (udpForm_fields form forms).1 mask
      refine ⟨state, ?_, tracks, Cursor.eq_mk (by simp) ahead⟩
      rw [uncompressExtHdrs, if_neg stops]
  | @next proto last extHdrLen total ext rest ih =>
    intro rounds hc06 bytes len short order compressed
    obtain ⟨rounds, restBytes, restLen, rfl, space, next, rfl, rfl⟩ :=
      compressNextHdrs_ext ext compressed
    have length : extHdrSize ip extHdrLen ≤ (extHdrBytes ip proto extHdrLen).length := by
      rw [extHdrBytes_length]
      omega
    obtain ⟨extBytes, lastBytes, rfl, which, bound, loop⟩ := ih short (by omega) next
    refine ⟨extHdrBytes ip proto extHdrLen ++ extBytes, lastBytes, by simp, ?_, ?_, ?_⟩
    · have place : hc06 + (extHdrBytes ip proto extHdrLen ++ extBytes).length + 1 =
          hc06 + (extHdrBytes ip proto extHdrLen).length + extBytes.length + 1 := by
        rw [List.length_append]
        omega
      rw [place]
      rcases which with ⟨plain, none, size⟩ | ⟨udp, size, sent⟩
      · exact Or.inl ⟨plain, none, by omega⟩
      · exact Or.inr ⟨udp, by omega, sent⟩
    · right
      rw [List.length_append]
      rcases bound with ⟨rfl, same⟩ | ⟨inside, below⟩
      · simp
        omega
      · omega
    · intro state tail more tracks ahead enough
      obtain ⟨more, rfl⟩ : ∃ less, more = less + 1 := ⟨more - 1, by omega⟩
      rw [List.append_assoc] at ahead
      have small : extHdrLen + extHdrSize ip extHdrLen < 200 := by omega
      have size : 8 ≤ extHdrSize ip extHdrLen := by
        unfold extHdrSize
        omega
      obtain ⟨follows, after, round, tracked, place⟩ :=
        uncompressExtHdr_compress ext tracks small ahead
      rw [List.length_append] at enough
      obtain ⟨final, rounds, finalTracks, finalPlace⟩ := loop after tail more tracked
        (by rw [place]) (by omega)
      refine ⟨final, ?_, finalTracks, ?_⟩
      · rw [uncompressExtHdrs, if_pos follows, round]
        exact rounds
      · rw [finalPlace, place]
        simp [Nat.add_assoc]

def lastHdrSize (last : UInt8) : Nat := if last = uipProtoUdp then uipUdphLen else 0

structure HeadersRestored (ip base buf : Memory UInt8) (last : UInt8) (total : Nat)
    (ipLength udpLength : UInt16) : Prop where
  length : buf.read 4 2 = set16 ipLength
  kept : ∀ address, address < uipIphLen → address ≠ 4 → address ≠ 5 → address ≠ 6 →
    buf address = base address
  proto : buf 6 = ip 6
  chain : ∀ address, uipIphLen ≤ address → address < uipIphLen + total + lastHdrSize last →
    (last = uipProtoUdp → address ≠ uipIphLen + total + 4 ∧ address ≠ uipIphLen + total + 5) →
    buf address = ip address
  udplen : last = uipProtoUdp → buf.read (uipIphLen + total + 4) 2 = set16 udpLength

theorem uncompressUdp_compress {payloadEnd hc06 total datalen ipLen : Nat} {udpBytes : List UInt8}
    (tracks : state.Tracks ip base uipProtoUdp total) (small : total < 200)
    (sent : compressUdp payloadEnd hc06 (ip.ptr (uipIphLen + total)) = some udpBytes)
    (ahead : state.hc06.rest = udpBytes ++ tail) :
    ∃ after, uncompressUdp datalen ipLen state = some after ∧
      after.hc06 = ⟨state.hc06.offset + udpBytes.length, tail⟩ ∧
      after.uncompHdrLen = uipIphLen + total + uipUdphLen ∧
      after.buf = (((state.buf.write state.lastNextheader [uipProtoUdp]).write (uipIphLen + total)
        (ip.read (uipIphLen + total) 4)).write (uipIphLen + total + 6)
        (ip.read (uipIphLen + total + 6) 2)).write (uipIphLen + total + 4)
        (set16 (UInt16.ofInt (if ipLen = 0 then
          8 + (datalen : Int) - (state.hc06.offset + udpBytes.length : Nat)
          else (ipLen : Int) - uipIphLen - total))) := by
  obtain ⟨form, ports, rfl, _, forms, read⟩ := compressUdp_parts sent
  obtain ⟨_, mask, checksum⟩ := udpForm_fields form forms
  rw [List.append_assoc] at ahead
  have first : state.hc06.peek 0 = form := by simp [Cursor.peek, ahead]
  have portsRead := read state.hc06 _ ahead
  have follows : state.nhc = true := by
    rw [tracks.nhc]
    decide
  have behind : (state.hc06.skip (ports.length + 1)).rest =
      (ip.ptr (uipIphLen + total)).read 6 2 ++ tail := by
    simp [ahead]
  have chk := Cursor.read_ahead behind
  rw [Memory.read_length] at chk
  have place : (state.hc06.skip (ports.length + 1)).skip 2 =
      ⟨state.hc06.offset + (form :: ports ++ (ip.ptr (uipIphLen + total)).read 6 2).length, tail⟩ := by
    apply Cursor.eq_mk
    · simp
      omega
    · have rest := Cursor.skip_ahead behind
      rwa [Memory.read_length] at rest
  unfold uncompressUdp
  rw [if_pos ⟨follows, by rw [first, mask]⟩, portsRead, first]
  simp only [checksum, ne_eq, not_true_eq_false, if_false]
  refine ⟨_, rfl, ?_, ?_, ?_⟩
  · exact place
  · dsimp only
    rw [tracks.uncompHdrLen]
    have iphLen : uipIphLen = 40 := rfl
    have udphLen : uipUdphLen = 8 := rfl
    omega
  · dsimp only
    rw [place, chk, tracks.ipPayload, tracks.extHdrLen]
    simp

theorem NhcState.Tracks.complete (tracks : state.Tracks ip base last total)
    (plain : isCompressableProto last = false) {address : Nat} (inside : InNextHdrs total address) :
    state.buf address = ip address := by
  by_cases place : address = state.lastNextheader
  · rw [place, tracks.next]
    exact tracks.inlined plain
  · exact tracks.restored address inside place

theorem NhcState.Tracks.completeUdp (tracks : state.Tracks ip base uipProtoUdp total)
    {address : Nat} (inside : InNextHdrs total address) :
    state.buf.write state.lastNextheader [uipProtoUdp] address = ip address := by
  by_cases place : address = state.lastNextheader
  · rw [place, tracks.next]
    exact Memory.write_cell _ _ _
  · rw [Memory.write_cell_other _ _ place]
    exact tracks.restored address inside place

theorem headersRestored_plain (tracks : state.Tracks ip base last total)
    (plain : isCompressableProto last = false) (ipLength udpLength : UInt16) :
    HeadersRestored ip base (state.buf.write 4 (set16 ipLength)) last total ipLength udpLength := by
  have noUdp : last ≠ uipProtoUdp := by
    rintro rfl
    revert plain
    decide
  have none : lastHdrSize last = 0 := if_neg noUdp
  have iphLen : uipIphLen = 40 := rfl
  constructor
  · exact Memory.read_write_of_length _ _ rfl
  · intro address early four five six
    by_cases before : address < 4
    · rw [Memory.write_before _ _ before]
      exact tracks.kept address early six
    · rw [Memory.write_after _ (by simp; omega)]
      exact tracks.kept address early six
  · rw [Memory.write_after _ (by simp)]
    exact tracks.complete plain (Or.inl rfl)
  · intro address after before _
    rw [Memory.write_after _ (by simp; omega)]
    exact tracks.complete plain (Or.inr ⟨after, by omega⟩)
  · intro udp
    exact absurd udp noUdp

theorem headersRestored_udp (tracks : state.Tracks ip base uipProtoUdp total)
    (ipLength udpLength : UInt16) :
    HeadersRestored ip base (((((state.buf.write state.lastNextheader [uipProtoUdp]).write
      (uipIphLen + total) (ip.read (uipIphLen + total) 4)).write (uipIphLen + total + 6)
      (ip.read (uipIphLen + total + 6) 2)).write (uipIphLen + total + 4) (set16 udpLength)).write 4
      (set16 ipLength)) uipProtoUdp total ipLength udpLength := by
  have udpSize : lastHdrSize uipProtoUdp = 8 := rfl
  have iphLen : uipIphLen = 40 := rfl
  constructor
  · exact Memory.read_write_of_length _ _ rfl
  · intro address early four five six
    have elsewhere : address ≠ state.lastNextheader := by
      rcases tracks.place with place | ⟨after, _⟩
      · omega
      · omega
    have below : ((((state.buf.write state.lastNextheader [uipProtoUdp]).write
        (uipIphLen + total) (ip.read (uipIphLen + total) 4)).write (uipIphLen + total + 6)
        (ip.read (uipIphLen + total + 6) 2)).write (uipIphLen + total + 4) (set16 udpLength)) address =
          base address := by
      rw [Memory.write_before _ _ (by omega), Memory.write_before _ _ (by omega),
        Memory.write_before _ _ (by omega), Memory.write_cell_other _ _ elsewhere]
      exact tracks.kept address early six
    by_cases before : address < 4
    · rw [Memory.write_before _ _ before]
      exact below
    · rw [Memory.write_after _ (by simp; omega)]
      exact below
  · rw [Memory.write_after _ (by simp), Memory.write_before _ _ (by omega),
      Memory.write_before _ _ (by omega), Memory.write_before _ _ (by omega)]
    exact tracks.completeUdp (Or.inl rfl)
  · intro address after before lengths
    have notLength := lengths rfl
    rw [Memory.write_after _ (by simp; omega)]
    by_cases ports : address < uipIphLen + total + 4
    · rw [Memory.write_before _ _ ports, Memory.write_before _ _ (by omega)]
      by_cases chain : address < uipIphLen + total
      · rw [Memory.write_before _ _ chain]
        exact tracks.completeUdp (Or.inr ⟨after, chain⟩)
      · exact Memory.write_read _ _ (by omega) (by omega)
    · rw [Memory.write_after _ (by simp; omega)]
      exact Memory.write_read _ _ (by omega) (by omega)
  · intro _
    rw [Memory.read_write_after _ _ (by simp; omega)]
    exact Memory.read_write_of_length _ _ rfl

def ipLengthField (datalen packetbufHdrLen uncompHdrLen ipLen : Nat) : UInt16 :=
  UInt16.ofInt (if ipLen = 0 then (datalen : Int) - packetbufHdrLen + uncompHdrLen - uipIphLen
    else (ipLen : Int) - uipIphLen)

def udpLengthField (datalen packetbufHdrLen total ipLen : Nat) : UInt16 :=
  UInt16.ofInt (if ipLen = 0 then 8 + (datalen : Int) - packetbufHdrLen
    else (ipLen : Int) - uipIphLen - total)

theorem uncompressNextHdrs_chain {datalen ipLen packetbufHdrLen offset : Nat}
    (chain : HeaderChain ip (ip 6) 0 last total)
    (compressed : compressNextHdrs payloadEnd ip rounds hc06 (ip 6) 0 = some (bytes, len))
    (short : payloadEnd ≤ 150) (fits : offset + bytes.length < 256)
    (inlined : isCompressableProto (ip 6) = false → base 6 = ip 6) :
    len = total + lastHdrSize last ∧ ∃ buf,
      uncompressNextHdrs datalen packetbufHdrLen ipLen (isCompressableProto (ip 6)) base
        ⟨offset, bytes ++ tail⟩ = ⟨buf, offset + bytes.length, uipIphLen + len⟩ ∧
      HeadersRestored ip base buf last total
        (ipLengthField datalen (offset + bytes.length) (uipIphLen + len) ipLen)
        (udpLengthField datalen (offset + bytes.length) total ipLen) := by
  obtain ⟨extBytes, lastBytes, rfl, which, bound, loop⟩ :=
    uncompressExtHdrs_chain base chain short (Nat.zero_le hc06) compressed
  have small : total < 200 := by omega
  have iphLen : uipIphLen = 40 := rfl
  have begin' : NhcState.Tracks ip base
      { hc06 := ⟨offset, extBytes ++ lastBytes ++ tail⟩
        buf := base
        nhc := isCompressableProto (ip 6)
        lastNextheader := 6
        ipPayload := uipIphLen
        uncompHdrLen := uipIphLen
        extHdrLen := 0 } (ip 6) 0 := by
    refine ⟨rfl, rfl, rfl, rfl, Or.inl rfl, rfl, inlined, ?_, fun _ _ _ => rfl⟩
    rintro address (six | ⟨after, before⟩) other
    · exact absurd six other
    · omega
  obtain ⟨state, rounds, tracks, place⟩ := loop _ tail
    ((extBytes ++ lastBytes ++ tail).length + 1) begin' rfl
      (by simp only [List.length_append]; omega)
  unfold uncompressNextHdrs
  simp only [rounds]
  rcases which with ⟨plain, rfl, size⟩ | ⟨rfl, size, sent⟩
  · have noUdp : isCompressableProto last = false := by
      cases compressable : isCompressableProto last with
      | false => rfl
      | true => exact absurd ((compressable_last chain.ends).mp compressable) plain
    have none : lastHdrSize last = 0 := if_neg plain
    have final : uncompressUdp datalen ipLen state = some state := by
      rw [uncompressUdp, if_neg]
      rw [tracks.nhc, noUdp]
      simp
    have written : (extBytes ++ ([] : List UInt8)).length = extBytes.length := by simp
    have mod : (offset + extBytes.length) % 256 = offset + extBytes.length :=
      Nat.mod_eq_of_lt (by omega)
    refine ⟨by omega, _, ?_, headersRestored_plain tracks noUdp _ _⟩
    simp only [final, place, mod, tracks.uncompHdrLen, written, ipLengthField]
    simp only [Nat.zero_add] at size
    rw [size]
    rfl
  · have udpSize : lastHdrSize uipProtoUdp = uipUdphLen := rfl
    have udphLen : uipUdphLen = 8 := rfl
    obtain ⟨after, final, behind, uncompHdrLen, buf⟩ :=
      @uncompressUdp_compress ip base state tail payloadEnd _ total datalen ipLen lastBytes tracks small
        sent (by rw [place])
    have hdrLen : after.hc06.offset % 256 = offset + (extBytes ++ lastBytes).length := by
      rw [behind, place, List.length_append]
      rw [List.length_append] at fits
      dsimp only
      omega
    have hdrLen' : state.hc06.offset + lastBytes.length =
        offset + (extBytes ++ lastBytes).length := by
      rw [place, List.length_append]
      dsimp only
      omega
    refine ⟨by omega, _, ?_, headersRestored_udp tracks _ _⟩
    have total' : after.uncompHdrLen = uipIphLen + len := by omega
    simp only [final, hdrLen, total', buf, hdrLen', ipLengthField, udpLengthField]
    simp

theorem compressNextHdrs_bounds : ∀ {rounds hc06 extHdrLen len : Nat} {proto : UInt8}
    {bytes : List UInt8},
    compressNextHdrs payloadEnd ip rounds hc06 proto extHdrLen = some (bytes, len) →
      (∃ last total, HeaderChain ip proto extHdrLen last total) ∧
        (bytes = [] ∨ hc06 + bytes.length < payloadEnd) := by
  intro rounds
  induction rounds with
  | zero => intro hc06 extHdrLen len proto bytes compressed; cases compressed
  | succ rounds ih =>
    intro hc06 extHdrLen len proto bytes compressed
    by_cases ext : IsExtHdr proto
    · obtain ⟨less, rest, restLen, same, space, next, rfl, rfl⟩ := compressNextHdrs_ext ext compressed
      cases same
      obtain ⟨⟨last, total, chain⟩, bound⟩ := ih next
      refine ⟨⟨last, total, HeaderChain.next ext chain⟩, Or.inr ?_⟩
      rw [List.length_append]
      rcases bound with rfl | inside
      · simpa using space
      · omega
    · refine ⟨⟨proto, extHdrLen, HeaderChain.last ext⟩, ?_⟩
      rcases compressNextHdrs_last ext compressed with ⟨_, none, _⟩ | ⟨_, _, sent⟩
      · exact Or.inl none
      · obtain ⟨form, ports, rfl, space, _⟩ := compressUdp_parts sent
        right
        simp
        omega

end MultiPhyTsch.Lowpan
