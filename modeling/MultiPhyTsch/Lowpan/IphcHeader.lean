import MultiPhyTsch.Lowpan.IphcFields

/-! The header that `compress_hdr_iphc` writes, taken apart by `uncompress_hdr_iphc` up to the next
headers. -/

namespace MultiPhyTsch.Lowpan

variable {ip : Memory UInt8} {addrContexts : List SicslowpanAddrContext} {lladdr : LinkAddr}

theorem compressTrafficClass_bits (ip : Memory UInt8) :
    (compressTrafficClass ip).1 ∈ ([0x18, 0x10, 0x08, 0] : List UInt8) := by
  simp only [compressTrafficClass]
  split
  · split
    · dsimp only
      decide
    · dsimp only
      decide
  · split
    · dsimp only
      decide
    · dsimp only
      decide

theorem compressNextHeader_bits (ip : Memory UInt8) :
    (compressNextHeader ip).1 ∈ ([4, 0] : List UInt8) := by
  unfold compressNextHeader
  split <;> simp [iphcNhC]

theorem compressHopLimit_bits (ip : Memory UInt8) :
    (compressHopLimit ip).1 ∈ ([1, 2, 3, 0] : List UInt8) := by
  simp only [compressHopLimit]
  split
  · simp [iphcTtl1]
  · split
    · simp [iphcTtl64]
    · split <;> simp [iphcTtl255]

section

variable (addrContexts : List SicslowpanAddrContext) (ip : Memory UInt8) (lladdr : LinkAddr)

theorem compressSrcipaddr_bits :
    (compressSrcipaddr addrContexts ip lladdr).iphc1 ∈
      ([0x40, 0xd0, 0xe0, 0xf0, 0x10, 0x20, 0x30, 0] : List UInt8) := by
  have modes := iidMode_cases (srcipaddr ip) lladdr
  rcases src_forms addrContexts ip with unspecified | ⟨context, sent⟩ | ⟨specified, sent⟩
  · rw [compressSrcipaddr_unspecified unspecified]
    simp [iphcSac]
  · rw [compressSrcipaddr_context sent, compressAddr64_mode]
    dsimp only
    rcases modes with mode | mode | mode <;> rw [mode] <;> decide
  · by_cases onLink : srcSentOnLink ip
    · rw [compressSrcipaddr_onLink specified sent onLink, compressAddr64_mode]
      dsimp only
      rcases modes with mode | mode | mode <;> rw [mode] <;> decide
    · rw [compressSrcipaddr_inline specified sent onLink]
      simp

theorem compressDestipaddr_bits :
    (compressDestipaddr addrContexts ip lladdr).iphc1 ∈
      ([0x0b, 0x0a, 0x09, 0x08, 0x05, 0x06, 0x07, 0x01, 0x02, 0x03, 0] : List UInt8) := by
  have modes := iidMode_cases (destipaddr ip) lladdr
  rcases dest_forms addrContexts ip with mcast | ⟨context, sent⟩ | ⟨unicast, sent⟩
  · rw [compressDestipaddr_mcast mcast]
    split
    · dsimp only
      decide
    · split
      · dsimp only
        decide
      · split
        · dsimp only
          decide
        · dsimp only
          decide
  · rw [compressDestipaddr_context sent, compressAddr64_mode]
    dsimp only
    rcases modes with mode | mode | mode <;> rw [mode] <;> decide
  · by_cases onLink : destSentOnLink ip
    · rw [compressDestipaddr_onLink unicast sent onLink, compressAddr64_mode]
      dsimp only
      rcases modes with mode | mode | mode <;> rw [mode] <;> decide
    · rw [compressDestipaddr_inline unicast sent onLink]
      simp

end

theorem iphc0_bits : ∀ tf ∈ ([0x18, 0x10, 0x08, 0] : List UInt8), ∀ nh ∈ ([4, 0] : List UInt8),
    ∀ hlim ∈ ([1, 2, 3, 0] : List UInt8),
      (dispatchIphc ||| tf ||| nh ||| hlim) &&& iphcFlC = tf &&& iphcFlC ∧
      (dispatchIphc ||| tf ||| nh ||| hlim) &&& iphcTcC = tf &&& iphcTcC ∧
      (dispatchIphc ||| tf ||| nh ||| hlim) &&& iphcNhC = nh &&& iphcNhC ∧
      (dispatchIphc ||| tf ||| nh ||| hlim) &&& 0x03 = hlim &&& 0x03 ∧
      (dispatchIphc ||| tf ||| nh ||| hlim) &&& dispatchIphcMask = dispatchIphc := by
  decide +kernel

theorem iphc1_bits : ∀ cid ∈ ([0x80, 0] : List UInt8),
    ∀ src ∈ ([0x40, 0xd0, 0xe0, 0xf0, 0x10, 0x20, 0x30, 0] : List UInt8),
    ∀ dest ∈ ([0x0b, 0x0a, 0x09, 0x08, 0x05, 0x06, 0x07, 0x01, 0x02, 0x03, 0] : List UInt8),
      (cid ||| src ||| dest) &&& iphcSac = src &&& iphcSac ∧
      (cid ||| src ||| dest) &&& iphcSam11 = src &&& iphcSam11 ∧
      (cid ||| src ||| dest) &&& iphcM = dest &&& iphcM ∧
      (cid ||| src ||| dest) &&& iphcDac = dest &&& iphcDac ∧
      (cid ||| src ||| dest) &&& iphcDam11 = dest &&& iphcDam11 ∧
      (cid ||| src ||| dest) &&& iphcCid = (cid ||| src) &&& iphcCid := by
  decide +kernel

def cidSent (addrContexts : List SicslowpanAddrContext) (ip : Memory UInt8) : Bool :=
  (addrContextLookupByPrefix addrContexts (destipaddr ip)).isSome ||
    (addrContextLookupByPrefix addrContexts (srcipaddr ip)).isSome

theorem cidSent_of_src (sent : (srcContext addrContexts ip).isSome) :
    cidSent addrContexts ip = true := by
  unfold srcContext at sent
  split at sent
  · cases sent
  · simp [cidSent, sent]

theorem cidSent_of_dest (sent : (destContext addrContexts ip).isSome) :
    cidSent addrContexts ip = true := by
  unfold destContext at sent
  split at sent
  · cases sent
  · simp [cidSent, sent]

theorem compressSrcipaddr_cid (sent : srcContext addrContexts ip = none) :
    (compressSrcipaddr addrContexts ip lladdr).iphc1 &&& iphcCid = 0 := by
  have modes := iidMode_cases (srcipaddr ip) lladdr
  by_cases unspecified : uipIsAddrUnspecified (srcipaddr ip) = true
  · rw [compressSrcipaddr_unspecified unspecified]
    decide
  · by_cases onLink : srcSentOnLink ip
    · rw [compressSrcipaddr_onLink unspecified sent onLink, compressAddr64_mode]
      dsimp only
      rcases modes with mode | mode | mode <;> rw [mode] <;> decide
    · rw [compressSrcipaddr_inline unspecified sent onLink]
      dsimp only
      decide

def iphc0Byte (ip : Memory UInt8) : UInt8 :=
  dispatchIphc ||| (compressTrafficClass ip).1 ||| (compressNextHeader ip).1 |||
    (compressHopLimit ip).1

variable (addrContexts : List SicslowpanAddrContext) (uipLladdr linkDestaddr : LinkAddr)

def iphc1Byte (ip : Memory UInt8) : UInt8 :=
  (if cidSent addrContexts ip then iphcCid else 0) |||
    (compressSrcipaddr addrContexts ip uipLladdr).iphc1 |||
    (compressDestipaddr addrContexts ip linkDestaddr).iphc1

def inlineBytes (ip : Memory UInt8) : List UInt8 :=
  (if cidSent addrContexts ip then [contextNumbers addrContexts ip] else []) ++
    (compressTrafficClass ip).2 ++ (compressNextHeader ip).2 ++ (compressHopLimit ip).2 ++
    (compressSrcipaddr addrContexts ip uipLladdr).bytes ++
    (compressDestipaddr addrContexts ip linkDestaddr).bytes

variable {addrContexts uipLladdr linkDestaddr} {macMaxPayload uncompHdrLen : Nat}
  {hdr : List UInt8}

theorem compressHdrIphc_parts
    (compressed : compressHdrIphc addrContexts macMaxPayload uipLladdr ip linkDestaddr =
      some (hdr, uncompHdrLen)) :
    hasBufferSpace macMaxPayload 2 38 = true ∧ ∃ nhc extHdrLen,
      hdr = iphc0Byte ip :: iphc1Byte addrContexts uipLladdr linkDestaddr ip ::
        inlineBytes addrContexts uipLladdr linkDestaddr ip ++ nhc ∧
      uncompHdrLen = uipIphLen + extHdrLen ∧
      compressNextHdrs macMaxPayload ip (macMaxPayload + 1)
        (2 + (inlineBytes addrContexts uipLladdr linkDestaddr ip).length) (ip 6) 0 =
          some (nhc, extHdrLen) := by
  have numbers : (compressSrcipaddr addrContexts ip uipLladdr).contexts |||
      (compressDestipaddr addrContexts ip linkDestaddr).contexts = contextNumbers addrContexts ip := by
    rw [compressSrcipaddr_contexts, compressDestipaddr_contexts]
    rfl
  unfold compressHdrIphc at compressed
  by_cases space : hasBufferSpace macMaxPayload 2 38 = false
  · rw [if_pos space] at compressed
    cases compressed
  rw [if_neg space] at compressed
  simp only [numbers] at compressed
  refine ⟨by simpa using space, ?_⟩
  split at compressed
  case h_1 => cases compressed
  case h_2 nhc extHdrLen next =>
    cases compressed
    exact ⟨nhc, extHdrLen, rfl, rfl, next⟩

def writeIphc (buf ip : Memory UInt8) (srcHalf destHalf : List UInt8) : Memory UInt8 :=
  ((((buf.write 0 (ip.read 0 4)).write 6 (compressNextHeader ip).2).write 7 [ip 7]).write 8
    (srcHalf ++ (srcipaddr ip).read 8 8)).write 24 (destHalf ++ (destipaddr ip).read 8 8)

theorem srcUpper_absent (absent : cidSent addrContexts ip = false) (numbers other : UInt8) :
    srcUpper addrContexts numbers ip = srcUpper addrContexts other ip := by
  cases sent : srcContext addrContexts ip with
  | none => simp only [srcUpper, sent]
  | some context =>
    have present : cidSent addrContexts ip = true := cidSent_of_src (by rw [sent]; rfl)
    rw [absent] at present
    cases present

theorem destUpper_absent (absent : cidSent addrContexts ip = false) (numbers other : UInt8) :
    destUpper addrContexts numbers ip = destUpper addrContexts other ip := by
  cases sent : destContext addrContexts ip with
  | none => simp only [destUpper, sent]
  | some context =>
    have present : cidSent addrContexts ip = true := cidSent_of_dest (by rw [sent]; rfl)
    rw [absent] at present
    cases present

theorem iphc1Byte_cid :
    iphc1Byte addrContexts uipLladdr linkDestaddr ip &&& iphcCid ≠ 0 ↔
      cidSent addrContexts ip = true := by
  have cidBits : (if cidSent addrContexts ip then iphcCid else 0) ∈ ([0x80, 0] : List UInt8) := by
    split <;> simp [iphcCid]
  have bits := (iphc1_bits _ cidBits _ (compressSrcipaddr_bits addrContexts ip uipLladdr) _
    (compressDestipaddr_bits addrContexts ip linkDestaddr)).2.2.2.2.2
  rw [iphc1Byte, bits]
  cases present : cidSent addrContexts ip with
  | true =>
    have srcBits := compressSrcipaddr_bits addrContexts ip uipLladdr
    simp only [if_true, ne_eq, iff_true]
    generalize (compressSrcipaddr addrContexts ip uipLladdr).iphc1 = src at srcBits
    revert src
    decide +kernel
  | false =>
    have noContext : srcContext addrContexts ip = none := by
      cases sent : srcContext addrContexts ip with
      | none => rfl
      | some context =>
        have flagged : cidSent addrContexts ip = true := cidSent_of_src (by rw [sent]; rfl)
        rw [present] at flagged
        cases flagged
    have clear : (compressSrcipaddr addrContexts ip uipLladdr).iphc1 &&& iphcCid = 0 :=
      compressSrcipaddr_cid noContext
    simp [clear]

section

variable {packetbuf : RxPacketbuf} {front nhc behind inline : List UInt8}

variable (ip addrContexts) in
def DecompressedOr (start : Nat) (headers : Uncompressed)
    (found : List UInt8 → List UInt8 → Prop) : Prop :=
  (∃ srcHalf destHalf,
    srcUpper addrContexts (contextNumbers addrContexts ip) ip = some srcHalf ∧
    destUpper addrContexts (contextNumbers addrContexts ip) ip = some destHalf ∧
    found srcHalf destHalf) ∨
  ((srcUpper addrContexts (contextNumbers addrContexts ip) ip = none ∨
      destUpper addrContexts (contextNumbers addrContexts ip) ip = none) ∧
    headers.packetbufHdrLen = start ∧ headers.uncompHdrLen = 0)

theorem uncompressHdrIphc_compress (buf : Memory UInt8) (ipLen : Nat) (version : ip 0 >>> 4 = 6)
    (written : inlineBytes addrContexts packetbuf.sender packetbuf.receiver ip = inline)
    (bytes : packetbuf.bytes = front ++ (iphc0Byte ip ::
      iphc1Byte addrContexts packetbuf.sender packetbuf.receiver ip :: inline ++ nhc) ++ behind) :
    DecompressedOr ip addrContexts front.length
      (uncompressHdrIphc addrContexts packetbuf front.length buf ipLen) fun srcHalf destHalf =>
        uncompressHdrIphc addrContexts packetbuf front.length buf ipLen =
          uncompressNextHdrs packetbuf.datalen front.length ipLen (isCompressableProto (ip 6))
            (writeIphc buf ip srcHalf destHalf)
            ⟨front.length + 2 + inline.length, nhc ++ behind⟩ := by
  obtain ⟨flowBit, classBit, nhBit, hlimBits, _⟩ := iphc0_bits _ (compressTrafficClass_bits ip) _
    (compressNextHeader_bits ip) _ (compressHopLimit_bits ip)
  have cidBits : (if cidSent addrContexts ip then iphcCid else 0) ∈ ([0x80, 0] : List UInt8) := by
    split <;> simp [iphcCid]
  obtain ⟨sac, sam, m, dac, dam, _⟩ := iphc1_bits _ cidBits _
    (compressSrcipaddr_bits addrContexts ip packetbuf.sender) _
    (compressDestipaddr_bits addrContexts ip packetbuf.receiver)
  have iphc : (Cursor.start packetbuf.bytes).skip front.length =
      ⟨front.length, iphc0Byte ip :: iphc1Byte addrContexts packetbuf.sender packetbuf.receiver ip ::
        (inline ++ (nhc ++ behind))⟩ := by
    simp [Cursor.start, Cursor.skip, bytes]
  -- the fields behind the encoding bytes and, where it is sent, the byte of the contexts
  obtain ⟨hc06, start, fields, offset⟩ : ∃ hc06 : Cursor UInt8,
      ((Cursor.start packetbuf.bytes).skip front.length).skip
        (if iphc1Byte addrContexts packetbuf.sender packetbuf.receiver ip &&& iphcCid ≠ 0 then 3
          else 2) = hc06 ∧
      hc06.rest = (compressTrafficClass ip).2 ++ ((compressNextHeader ip).2 ++
        ((compressHopLimit ip).2 ++ ((compressSrcipaddr addrContexts ip packetbuf.sender).bytes ++
          ((compressDestipaddr addrContexts ip packetbuf.receiver).bytes ++ (nhc ++ behind))))) ∧
      hc06.offset + (compressTrafficClass ip).2.length + (compressNextHeader ip).2.length +
        (compressHopLimit ip).2.length +
        (compressSrcipaddr addrContexts ip packetbuf.sender).bytes.length +
        (compressDestipaddr addrContexts ip packetbuf.receiver).bytes.length =
          front.length + 2 + inline.length := by
    refine ⟨_, rfl, ?_, ?_⟩
    · rw [iphc]
      cases present : cidSent addrContexts ip with
      | true =>
        rw [if_pos (iphc1Byte_cid.mpr present)]
        simp [Cursor.skip, ← written, inlineBytes, present]
      | false =>
        rw [if_neg (by rw [iphc1Byte_cid, present]; decide)]
        simp [Cursor.skip, ← written, inlineBytes, present]
    · rw [iphc]
      cases present : cidSent addrContexts ip with
      | true =>
        rw [if_pos (iphc1Byte_cid.mpr present)]
        simp [← written, inlineBytes, present]
        omega
      | false =>
        rw [if_neg (by rw [iphc1Byte_cid, present]; decide)]
        simp [← written, inlineBytes, present]
        omega
  have tfRead : uncompressTrafficClass (iphc0Byte ip) hc06 = _ :=
    uncompressTrafficClass_compress version flowBit classBit fields
  have nhAhead := Cursor.skip_ahead fields
  have nhRead : uncompressNextHeader (iphc0Byte ip) _ = _ :=
    uncompressNextHeader_compress nhBit nhAhead
  have hlimAhead := Cursor.skip_ahead nhAhead
  have hlimRead : uncompressHopLimit (iphc0Byte ip) _ = _ :=
    uncompressHopLimit_compress hlimBits hlimAhead
  have srcAhead := Cursor.skip_ahead hlimAhead
  have destAhead := Cursor.skip_ahead srcAhead
  obtain ⟨numbers, third, srcSame, destSame⟩ : ∃ numbers,
      ((Cursor.start packetbuf.bytes).skip front.length).peek 2 = numbers ∧
      srcUpper addrContexts numbers ip = srcUpper addrContexts (contextNumbers addrContexts ip) ip ∧
      destUpper addrContexts numbers ip =
        destUpper addrContexts (contextNumbers addrContexts ip) ip := by
    refine ⟨_, rfl, ?_⟩
    cases present : cidSent addrContexts ip with
    | true => simp [iphc, Cursor.peek, ← written, inlineBytes, present]
    | false => exact ⟨srcUpper_absent present _ _, destUpper_absent present _ _⟩
  have srcRead : uncompressSrcipaddr addrContexts
      (iphc1Byte addrContexts packetbuf.sender packetbuf.receiver ip) numbers packetbuf.sender _ = _ :=
    uncompressSrcipaddr_compress (fun sent => iphc1Byte_cid.mpr (cidSent_of_src sent)) sac sam srcAhead
  have destRead : uncompressDestipaddr addrContexts
      (iphc1Byte addrContexts packetbuf.sender packetbuf.receiver ip) numbers packetbuf.receiver _ = _ :=
    uncompressDestipaddr_compress m dac dam destAhead fun sent =>
      iphc1Byte_cid.mpr (cidSent_of_dest sent)
  have nhFlag : decide (iphc0Byte ip &&& iphcNhC ≠ 0) = isCompressableProto (ip 6) := by
    rw [iphc0Byte, nhBit, compressNextHeader]
    cases isCompressableProto (ip 6) <;> simp [iphcNhC]
  have nextHdrs : (((((hc06.skip (compressTrafficClass ip).2.length).skip
      (compressNextHeader ip).2.length).skip (compressHopLimit ip).2.length).skip
      (compressSrcipaddr addrContexts ip packetbuf.sender).bytes.length).skip
      (compressDestipaddr addrContexts ip packetbuf.receiver).bytes.length) =
        ⟨front.length + 2 + inline.length, nhc ++ behind⟩ :=
    Cursor.eq_mk (by simpa using offset) (Cursor.skip_ahead destAhead)
  have iphc0 : ((Cursor.start packetbuf.bytes).skip front.length).peek 0 = iphc0Byte ip := by
    rw [iphc]
    rfl
  have iphc1 : ((Cursor.start packetbuf.bytes).skip front.length).peek 1 =
      iphc1Byte addrContexts packetbuf.sender packetbuf.receiver ip := by
    rw [iphc]
    rfl
  unfold uncompressHdrIphc
  simp only [iphc0, iphc1, third, start, tfRead, nhRead, hlimRead, srcRead, srcSame, nhFlag]
  cases src : srcUpper addrContexts (contextNumbers addrContexts ip) ip with
  | none => exact Or.inr ⟨Or.inl src, rfl, rfl⟩
  | some srcHalf =>
    simp only [Option.map_some, destRead, destSame]
    cases dest : destUpper addrContexts (contextNumbers addrContexts ip) ip with
    | none => exact Or.inr ⟨Or.inr dest, rfl, rfl⟩
    | some destHalf =>
      simp only [Option.map_some, nextHdrs]
      exact Or.inl ⟨srcHalf, destHalf, src, dest, rfl⟩

end

end MultiPhyTsch.Lowpan
