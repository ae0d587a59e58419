import MultiPhyTsch.Lowpan.NhcHeaders

/-! What a receiver recovers of a packet whose headers were compressed: the IP header. -/

namespace MultiPhyTsch.Lowpan

structure IsIpv6Packet (ip : Memory UInt8) (uipLen : Nat) : Prop where
  version : ip 0 >>> 4 = 6
  header : uipIphLen ≤ uipLen
  length : ip.read 4 2 = set16 (UInt16.ofNat (uipLen - uipIphLen))

/-- The frame in which `output` sends a packet that needs no fragments, in the packet buffer of
its receiver. -/
def unfragmentedFrame (uipLladdr linkDestaddr : LinkAddr) (hdr : List UInt8) (uncompHdrLen : Nat)
    (ip : Memory UInt8) (uipLen : Nat) (behind : List UInt8) : RxPacketbuf :=
  { sender := uipLladdr
    receiver := linkDestaddr
    bytes := hdr ++ ip.read uncompHdrLen (uipLen - uncompHdrLen) ++ behind
    datalen := uipLen - uncompHdrLen + hdr.length }

def received (packetbuf : RxPacketbuf) (headers : Uncompressed) : List UInt8 :=
  headers.buf.read 0 headers.uncompHdrLen ++
    (packetbuf.bytes.take packetbuf.datalen).drop headers.packetbufHdrLen

theorem header_eq_iff (mem other : Memory UInt8) :
    mem.read 0 40 = other.read 0 40 ↔
      mem.read 0 4 = other.read 0 4 ∧ mem.read 4 2 = other.read 4 2 ∧
      mem.read 6 1 = other.read 6 1 ∧ mem.read 7 1 = other.read 7 1 ∧
      mem.read 8 16 = other.read 8 16 ∧ mem.read 24 16 = other.read 24 16 := by
  rw [show 40 = 4 + (2 + (1 + (1 + (16 + 16)))) from rfl]
  simp only [Memory.read_add_eq_iff]

section WriteIphc

variable (buf ip : Memory UInt8) {srcHalf destHalf : List UInt8}

theorem writeIphc_first : (writeIphc buf ip srcHalf destHalf).read 0 4 = ip.read 0 4 := by
  unfold writeIphc
  rw [Memory.read_write_before _ _ (by omega), Memory.read_write_before _ _ (by omega),
    Memory.read_write_before _ _ (by omega), Memory.read_write_before _ _ (by omega)]
  exact Memory.read_write_of_length _ _ (by simp)

theorem writeIphc_proto (inlineNh : isCompressableProto (ip 6) = false) :
    (writeIphc buf ip srcHalf destHalf).read 6 1 = ip.read 6 1 := by
  have sent : (compressNextHeader ip).2 = ip.read 6 1 := by
    simp [compressNextHeader, inlineNh, Memory.read]
  unfold writeIphc
  rw [Memory.read_write_before _ _ (by omega), Memory.read_write_before _ _ (by omega),
    Memory.read_write_before _ _ (by omega), sent]
  exact Memory.read_write_of_length _ _ (by simp)

theorem writeIphc_ttl : (writeIphc buf ip srcHalf destHalf).read 7 1 = ip.read 7 1 := by
  unfold writeIphc
  rw [Memory.read_write_before _ _ (by omega), Memory.read_write_before _ _ (by omega)]
  exact Memory.read_write_of_length _ _ rfl

theorem writeIphc_src (srcLength : srcHalf.length = 8) :
    (writeIphc buf ip srcHalf destHalf).read 8 16 = srcHalf ++ ip.read 16 8 := by
  unfold writeIphc
  rw [Memory.read_write_before _ _ (by omega)]
  rw [srcipaddr, Memory.ptr_read]
  exact Memory.read_write_of_length _ _ (by simp [srcLength])

theorem writeIphc_dest (destLength : destHalf.length = 8) :
    (writeIphc buf ip srcHalf destHalf).read 24 16 = destHalf ++ ip.read 32 8 := by
  unfold writeIphc
  rw [destipaddr, Memory.ptr_read]
  exact Memory.read_write_of_length _ _ (by simp [destLength])

end WriteIphc

section Addresses

variable (addrContexts : List SicslowpanAddrContext)

def ResolvesTo (number : UInt8) (addr : Memory UInt8) : Prop :=
  ∃ context, addrContextLookupByNumber addrContexts number = some context ∧
    context.prefixBytes.toList = addr.read 0 8

structure AddressesCarried (ip : Memory UInt8) : Prop where
  srcContext : ∀ context, srcContext addrContexts ip = some context →
    ResolvesTo addrContexts (contextNumbers addrContexts ip >>> 4) (srcipaddr ip)
  destContext : ∀ context, destContext addrContexts ip = some context →
    ResolvesTo addrContexts (contextNumbers addrContexts ip &&& 0x0f) (destipaddr ip)
  srcOnLink : Lowpan.srcContext addrContexts ip = none → srcSentOnLink ip →
    u16IsZero (srcipaddr ip) 1 ∧ u16IsZero (srcipaddr ip) 2 ∧ u16IsZero (srcipaddr ip) 3

theorem resolvesTo_iff (number : UInt8) (addr : Memory UInt8) :
    ResolvesTo addrContexts number addr ↔
      (addrContextLookupByNumber addrContexts number).map (fun context =>
        context.prefixBytes.toList) = some (addr.read 0 8) := by
  rw [ResolvesTo, Option.map_eq_some_iff]

theorem srcUpper_eq_iff (numbers : UInt8) (ip : Memory UInt8) :
    srcUpper addrContexts numbers ip = some ((srcipaddr ip).read 0 8) ↔
      (∀ context, srcContext addrContexts ip = some context →
        ResolvesTo addrContexts (numbers >>> 4) (srcipaddr ip)) ∧
      (srcContext addrContexts ip = none → srcSentOnLink ip →
        u16IsZero (srcipaddr ip) 1 ∧ u16IsZero (srcipaddr ip) 2 ∧ u16IsZero (srcipaddr ip) 3) := by
  unfold srcUpper
  cases sent : srcContext addrContexts ip with
  | some context => simp [resolvesTo_iff]
  | none =>
    dsimp only
    by_cases onLink : srcSentOnLink ip
    · rw [if_pos onLink]
      constructor
      · intro same
        have bytes := Option.some.inj same
        refine ⟨fun _ absent => (by cases absent), fun _ _ => ?_⟩
        simp [Memory.read, List.range_succ] at bytes
        simp [u16IsZero_iff, ← bytes]
      · rintro ⟨_, zeros⟩
        rw [onLink_upper onLink.1 (zeros rfl onLink)]
    · simp [onLink]

theorem destUpper_eq_iff (numbers : UInt8) (ip : Memory UInt8) :
    destUpper addrContexts numbers ip = some ((destipaddr ip).read 0 8) ↔
      ∀ context, destContext addrContexts ip = some context →
        ResolvesTo addrContexts (numbers &&& 0x0f) (destipaddr ip) := by
  unfold destUpper
  cases sent : destContext addrContexts ip with
  | some context => simp [resolvesTo_iff]
  | none => simp

theorem addressesCarried_iff (ip : Memory UInt8) :
    AddressesCarried addrContexts ip ↔
      srcUpper addrContexts (contextNumbers addrContexts ip) ip = some ((srcipaddr ip).read 0 8) ∧
      destUpper addrContexts (contextNumbers addrContexts ip) ip =
        some ((destipaddr ip).read 0 8) := by
  rw [srcUpper_eq_iff, destUpper_eq_iff]
  constructor
  · rintro ⟨src, dest, onLink⟩
    exact ⟨⟨src, onLink⟩, dest⟩
  · rintro ⟨⟨src, onLink⟩, dest⟩
    exact ⟨src, dest, onLink⟩

end Addresses

variable {addrContexts : List SicslowpanAddrContext}

theorem compressTrafficClass_length (ip : Memory UInt8) : (compressTrafficClass ip).2.length ≤ 4 := by
  simp only [compressTrafficClass]
  split
  · split <;> simp
  · split <;> simp

theorem compressNextHeader_length (ip : Memory UInt8) : (compressNextHeader ip).2.length ≤ 1 := by
  unfold compressNextHeader
  split <;> simp

theorem compressHopLimit_length (ip : Memory UInt8) : (compressHopLimit ip).2.length ≤ 1 := by
  simp only [compressHopLimit]
  split
  · simp
  · split
    · simp
    · split <;> simp

theorem compressAddr64_length (bitpos : UInt8) (ipaddr : Memory UInt8) (lladdr : LinkAddr) :
    (compressAddr64 bitpos ipaddr lladdr).2.length ≤ 8 := by
  unfold compressAddr64
  split
  · simp
  · split <;> simp

variable {ip : Memory UInt8} {lladdr : LinkAddr}

theorem compressSrcipaddr_length :
    (compressSrcipaddr addrContexts ip lladdr).bytes.length ≤
      if (srcContext addrContexts ip).isSome then 8 else 16 := by
  have iid := compressAddr64_length iphcSamBit (srcipaddr ip) lladdr
  rcases src_forms addrContexts ip with unspecified | ⟨context, sent⟩ | ⟨specified, sent⟩
  · rw [compressSrcipaddr_unspecified unspecified]
    simp
  · rw [compressSrcipaddr_context sent, sent]
    exact iid
  · rw [sent]
    by_cases onLink : srcSentOnLink ip
    · rw [compressSrcipaddr_onLink specified sent onLink]
      exact iid.trans (by decide)
    · rw [compressSrcipaddr_inline specified sent onLink]
      simp

theorem compressDestipaddr_length :
    (compressDestipaddr addrContexts ip lladdr).bytes.length ≤
      if (destContext addrContexts ip).isSome then 8 else 16 := by
  have iid := compressAddr64_length iphcDamBit (destipaddr ip) lladdr
  rcases dest_forms addrContexts ip with mcast | ⟨context, sent⟩ | ⟨unicast, sent⟩
  · rw [compressDestipaddr_mcast mcast, destContext_mcast mcast]
    split
    · simp
    · split
      · simp
      · split <;> simp
  · rw [compressDestipaddr_context sent, sent]
    exact iid
  · rw [sent]
    by_cases onLink : destSentOnLink ip
    · rw [compressDestipaddr_onLink unicast sent onLink]
      exact iid.trans (by decide)
    · rw [compressDestipaddr_inline unicast sent onLink]
      simp

theorem inlineBytes_length (uipLladdr linkDestaddr : LinkAddr) :
    (inlineBytes addrContexts uipLladdr linkDestaddr ip).length ≤ 39 ∧
      ((srcContext addrContexts ip).isSome ∨ (destContext addrContexts ip).isSome →
        (inlineBytes addrContexts uipLladdr linkDestaddr ip).length ≤ 31) := by
  have tf := compressTrafficClass_length ip
  have nh := compressNextHeader_length ip
  have hlim := compressHopLimit_length ip
  have src := @compressSrcipaddr_length addrContexts ip uipLladdr
  have dest := @compressDestipaddr_length addrContexts ip linkDestaddr
  have cid : (if cidSent addrContexts ip then [contextNumbers addrContexts ip] else []).length ≤ 1 := by
    split <;> simp
  have srcMost : (if (srcContext addrContexts ip).isSome then 8 else 16) ≤ 16 := by
    split <;> omega
  have destMost : (if (destContext addrContexts ip).isSome then 8 else 16) ≤ 16 := by
    split <;> omega
  unfold inlineBytes
  simp only [List.length_append]
  refine ⟨by omega, ?_⟩
  rintro (sent | sent)
  · rw [if_pos sent] at src
    omega
  · rw [if_pos sent] at dest
    omega

variable {macMaxPayload uncompHdrLen uipLen total : Nat} {last : UInt8} {hdr behind : List UInt8}

theorem uncompressHdrIphc_headers {packetbuf : RxPacketbuf} {front : List UInt8}
    (short : macMaxPayload ≤ 150) (frontShort : front.length ≤ 5) (version : ip 0 >>> 4 = 6)
    (chain : HeaderChain ip (ip 6) 0 last total)
    (compressed : compressHdrIphc addrContexts macMaxPayload packetbuf.sender ip packetbuf.receiver =
      some (hdr, uncompHdrLen))
    (bytes : packetbuf.bytes = front ++ hdr ++ behind) (buf : Memory UInt8) (ipLen : Nat) :
    let headers := uncompressHdrIphc addrContexts packetbuf front.length buf ipLen
    uncompHdrLen = uipIphLen + total + lastHdrSize last ∧
    DecompressedOr ip addrContexts front.length headers fun srcHalf destHalf => ∃ after,
      headers = ⟨after, front.length + hdr.length, uncompHdrLen⟩ ∧
      HeadersRestored ip (writeIphc buf ip srcHalf destHalf) after last total
        (ipLengthField packetbuf.datalen (front.length + hdr.length) uncompHdrLen ipLen)
        (udpLengthField packetbuf.datalen (front.length + hdr.length) total ipLen) := by
  obtain ⟨_, nhc, extHdrLen, rfl, size, next⟩ := compressHdrIphc_parts compressed
  obtain ⟨_, bound⟩ := compressNextHdrs_bounds next
  have most := (@inlineBytes_length addrContexts ip packetbuf.sender packetbuf.receiver).1
  generalize written : inlineBytes addrContexts packetbuf.sender packetbuf.receiver ip = inline
    at bytes bound most next ⊢
  have lens : front.length + (iphc0Byte ip :: iphc1Byte addrContexts packetbuf.sender
      packetbuf.receiver ip :: inline ++ nhc).length =
      front.length + 2 + inline.length + nhc.length := by
    simp
    omega
  have fits : front.length + 2 + inline.length + nhc.length < 256 := by
    rcases bound with rfl | inside
    · simp
      omega
    · omega
  have restored := fun srcHalf destHalf => @uncompressNextHdrs_chain ip macMaxPayload _ _ total
    extHdrLen last nhc (writeIphc buf ip srcHalf destHalf) behind packetbuf.datalen ipLen front.length
    _ chain next short fits (fun plain => Memory.read_inj (writeIphc_proto buf ip plain) (Nat.le_refl 6)
      (by omega))
  have length : uncompHdrLen = uipIphLen + total + lastHdrSize last := by
    have sum := (restored [] []).1
    omega
  refine ⟨length, ?_⟩
  rw [lens]
  rcases uncompressHdrIphc_compress buf ipLen version written bytes with
    ⟨srcHalf, destHalf, src, dest, base⟩ | missed
  · obtain ⟨_, after, result, holds⟩ := restored srcHalf destHalf
    refine Or.inl ⟨srcHalf, destHalf, src, dest, after, ?_, ?_⟩
    · rw [base, result, size]
    · rw [size]
      exact holds
  · exact Or.inr missed

variable {numbers : UInt8}

theorem srcUpper_length {half : List UInt8}
    (found : srcUpper addrContexts numbers ip = some half) : half.length = 8 := by
  unfold srcUpper at found
  cases sent : srcContext addrContexts ip with
  | some context =>
    rw [sent] at found
    obtain ⟨other, _, rfl⟩ := Option.map_eq_some_iff.mp found
    simp
  | none =>
    rw [sent] at found
    dsimp only at found
    split at found
    · cases found
      rfl
    · cases found
      simp

theorem destUpper_length {half : List UInt8}
    (found : destUpper addrContexts numbers ip = some half) : half.length = 8 := by
  unfold destUpper at found
  cases sent : destContext addrContexts ip with
  | some context =>
    rw [sent] at found
    obtain ⟨other, _, rfl⟩ := Option.map_eq_some_iff.mp found
    simp
  | none =>
    rw [sent] at found
    cases found
    simp

theorem HeadersRestored.ipHeader_iff {buf after : Memory UInt8} {srcHalf destHalf : List UInt8}
    {ipLength udpLength : UInt16}
    (restored : HeadersRestored ip (writeIphc buf ip srcHalf destHalf) after last total ipLength
      udpLength)
    (length : ip.read 4 2 = set16 ipLength) (srcLength : srcHalf.length = 8)
    (destLength : destHalf.length = 8) :
    after.read 0 40 = ip.read 0 40 ↔
      srcHalf = (srcipaddr ip).read 0 8 ∧ destHalf = (destipaddr ip).read 0 8 := by
  have kept : ∀ start len, start + len ≤ 4 ∨ (7 ≤ start ∧ start + len ≤ 40) →
      after.read start len = (writeIphc buf ip srcHalf destHalf).read start len := by
    intro start len place
    apply Memory.read_congr
    intro address behind before
    exact restored.kept address (by unfold uipIphLen; omega) (by omega) (by omega) (by omega)
  have first := (kept 0 4 (by omega)).trans (writeIphc_first buf ip)
  have lengths := restored.length.trans length.symm
  have proto : after.read 6 1 = ip.read 6 1 := by
    simp [Memory.read, restored.proto]
  have ttl := (kept 7 1 (by omega)).trans (writeIphc_ttl buf ip)
  have src := (kept 8 16 (by omega)).trans (writeIphc_src buf ip srcLength)
  have dest := (kept 24 16 (by omega)).trans (writeIphc_dest buf ip destLength)
  have srcAll : ip.read 8 16 = (srcipaddr ip).read 0 8 ++ ip.read 16 8 := by
    rw [srcipaddr, Memory.ptr_read]
    exact Memory.read_add ip 8 8 8
  have destAll : ip.read 24 16 = (destipaddr ip).read 0 8 ++ ip.read 32 8 := by
    rw [destipaddr, Memory.ptr_read]
    exact Memory.read_add ip 24 8 8
  rw [header_eq_iff, src, dest, srcAll, destAll, List.append_left_inj, List.append_left_inj]
  constructor
  · rintro ⟨_, _, _, _, srcSame, destSame⟩
    exact ⟨srcSame, destSame⟩
  · rintro ⟨srcSame, destSame⟩
    exact ⟨first, lengths, proto, ttl, srcSame, destSame⟩

theorem uint16_ofInt_natCast (value : Nat) : UInt16.ofInt (value : Int) = UInt16.ofNat value := by
  have wrapped : ((value : Int) % 2 ^ 16).toNat = value % 2 ^ 16 := by omega
  rw [UInt16.ofInt, wrapped]
  apply UInt16.toNat_inj.mp
  simp

theorem ipLengthField_unfragmented (hdrLen : Nat) (least : uipIphLen ≤ uncompHdrLen)
    (within : uncompHdrLen ≤ uipLen) :
    ipLengthField (uipLen - uncompHdrLen + hdrLen) hdrLen uncompHdrLen 0 =
      UInt16.ofNat (uipLen - uipIphLen) := by
  have value : ((uipLen - uncompHdrLen + hdrLen : Nat) : Int) - hdrLen + uncompHdrLen - uipIphLen =
      ((uipLen - uipIphLen : Nat) : Int) := by omega
  rw [ipLengthField, if_pos rfl, value, uint16_ofInt_natCast]

variable {uipLladdr linkDestaddr : LinkAddr}

theorem received_unfragmentedFrame (headers : Uncompressed)
    (hdrLen : headers.packetbufHdrLen = hdr.length) :
    received (unfragmentedFrame uipLladdr linkDestaddr hdr uncompHdrLen ip uipLen behind) headers =
      headers.buf.read 0 headers.uncompHdrLen ++
        ip.read uncompHdrLen (uipLen - uncompHdrLen) := by
  have sent : (hdr ++ ip.read uncompHdrLen (uipLen - uncompHdrLen) ++ behind).take
      (uipLen - uncompHdrLen + hdr.length) = hdr ++ ip.read uncompHdrLen (uipLen - uncompHdrLen) := by
    apply List.take_left'
    simp
    omega
  simp only [received, unfragmentedFrame, sent, hdrLen]
  rw [List.drop_left' rfl]

theorem srcUpper_none (missed : srcUpper addrContexts numbers ip = none) :
    (srcContext addrContexts ip).isSome := by
  unfold srcUpper at missed
  cases sent : srcContext addrContexts ip with
  | some context => rfl
  | none =>
    rw [sent] at missed
    dsimp only at missed
    split at missed <;> cases missed

theorem destUpper_none (missed : destUpper addrContexts numbers ip = none) :
    (destContext addrContexts ip).isSome := by
  unfold destUpper at missed
  cases sent : destContext addrContexts ip with
  | some context => rfl
  | none =>
    rw [sent] at missed
    cases missed

theorem uncompressHdrIphc_unfragmented (short : macMaxPayload ≤ 150)
    (packet : IsIpv6Packet ip uipLen) (chain : HeaderChain ip (ip 6) 0 last total)
    (compressed : compressHdrIphc addrContexts macMaxPayload uipLladdr ip linkDestaddr =
      some (hdr, uncompHdrLen))
    (within : uncompHdrLen ≤ uipLen) (buf : Memory UInt8) (behind : List UInt8) :
    let frame := unfragmentedFrame uipLladdr linkDestaddr hdr uncompHdrLen ip uipLen behind
    let headers := uncompressHdrIphc addrContexts frame 0 buf 0
    (∃ srcHalf destHalf after,
      srcUpper addrContexts (contextNumbers addrContexts ip) ip = some srcHalf ∧
      destUpper addrContexts (contextNumbers addrContexts ip) ip = some destHalf ∧
      headers = ⟨after, hdr.length, uncompHdrLen⟩ ∧
      HeadersRestored ip (writeIphc buf ip srcHalf destHalf) after last total
        (UInt16.ofNat (uipLen - uipIphLen))
        (udpLengthField (uipLen - uncompHdrLen + hdr.length) hdr.length total 0)) ∨
    ((srcUpper addrContexts (contextNumbers addrContexts ip) ip = none ∨
        destUpper addrContexts (contextNumbers addrContexts ip) ip = none) ∧
      headers.packetbufHdrLen = 0 ∧ headers.uncompHdrLen = 0) := by
  intro frame headers
  obtain ⟨size, restored⟩ := @uncompressHdrIphc_headers addrContexts ip macMaxPayload uncompHdrLen
    total last hdr (ip.read uncompHdrLen (uipLen - uncompHdrLen) ++ behind) frame [] short
    (by decide) packet.version chain compressed (List.append_assoc _ _ _) buf 0
  have hdrLen : ([] : List UInt8).length + hdr.length = hdr.length := Nat.zero_add _
  rw [hdrLen, List.length_nil] at restored
  rcases restored with ⟨srcHalf, destHalf, src, dest, after, result, restored⟩ | missed
  · have length : ipLengthField frame.datalen hdr.length uncompHdrLen 0 =
        UInt16.ofNat (uipLen - uipIphLen) :=
      ipLengthField_unfragmented hdr.length (by omega) within
    rw [length] at restored
    exact Or.inl ⟨srcHalf, destHalf, after, src, dest, result, restored⟩
  · exact Or.inr missed

theorem compressHdrIphc_plain (plain : isCompressableProto (ip 6) = false)
    (compressed : compressHdrIphc addrContexts macMaxPayload uipLladdr ip linkDestaddr =
      some (hdr, uncompHdrLen)) :
    uncompHdrLen = uipIphLen ∧
      compressHdrIphc addrContexts 125 uipLladdr ip linkDestaddr = some (hdr, uipIphLen) ∧
      ((srcContext addrContexts ip).isSome ∨ (destContext addrContexts ip).isSome →
        hdr.length ≤ 33) := by
  have none : ∀ payloadEnd hc06, compressNextHdrs payloadEnd ip (payloadEnd + 1) hc06 (ip 6) 0 =
      some ([], 0) := by
    intro payloadEnd hc06
    rw [compressNextHdrs, if_pos plain]
  obtain ⟨_, nhc, extHdrLen, written, _, next⟩ := compressHdrIphc_parts compressed
  rw [none] at next
  cases next
  unfold compressHdrIphc at compressed ⊢
  rw [if_neg (by decide)]
  split at compressed
  · cases compressed
  · simp only [none] at compressed ⊢
    cases compressed
    refine ⟨rfl, rfl, ?_⟩
    intro sent
    have short := (inlineBytes_length uipLladdr linkDestaddr).2 sent
    rw [written]
    simp
    omega

/-- The receiver recovers the packet exactly when its addresses are carried: `compress_hdr_iphc`
looks at the destination address where it tests for a source address on the link. -/
theorem iphc_recovers_iff (packet : IsIpv6Packet ip uipLen)
    (plain : isCompressableProto (ip 6) = false)
    (compressed : compressHdrIphc addrContexts macMaxPayload uipLladdr ip linkDestaddr =
      some (hdr, uncompHdrLen))
    (buf : Memory UInt8) (behind : List UInt8) :
    let frame := unfragmentedFrame uipLladdr linkDestaddr hdr uncompHdrLen ip uipLen behind
    received frame (uncompressHdrIphc addrContexts frame 0 buf 0) = ip.read 0 uipLen ↔
      AddressesCarried addrContexts ip := by
  obtain ⟨rfl, compressed, short⟩ := compressHdrIphc_plain plain compressed
  have ends : ¬ IsExtHdr (ip 6) := fun ext => by simp [ext.1] at plain
  have header : 40 ≤ uipLen := packet.header
  have whole : ip.read 0 uipLen = ip.read 0 40 ++ ip.read 40 (uipLen - 40) := by
    rw [← Nat.zero_add 40, ← Memory.read_add]
    congr 1
    omega
  intro frame
  rw [addressesCarried_iff]
  rcases uncompressHdrIphc_unfragmented (by decide) packet (HeaderChain.last ends) compressed
    packet.header buf behind with ⟨srcHalf, destHalf, after, src, dest, result, restored⟩ |
      ⟨missed, nothing, none⟩
  · rw [received_unfragmentedFrame _ (by rw [result]), result, whole, src, dest, Option.some_inj,
      Option.some_inj]
    have same := restored.ipHeader_iff packet.length (srcUpper_length src) (destUpper_length dest)
    rw [← same]
    exact List.append_left_inj _
  · have lost : received frame (uncompressHdrIphc addrContexts frame 0 buf 0) ≠
        ip.read 0 uipLen := by
      intro same
      have least : hdr.length ≤ 33 := by
        rcases missed with missed | missed
        · exact short (Or.inl (srcUpper_none missed))
        · exact short (Or.inr (destUpper_none missed))
      rw [received, nothing, none] at same
      have lengths := congrArg List.length same
      simp [frame, unfragmentedFrame, uipIphLen] at lengths
      omega
    rcases missed with missed | missed
    · simp [lost, missed]
    · simp [lost, missed]

def echoRequest (interface : UInt8) : Memory UInt8 :=
  Memory.write (fun _ => 0) 0
    ([0x60, 0, 0, 0, 0, 4, 58, 255] ++
      [0xfe, 0x80, 0, 0, 0, 0, 0, interface, 0, 0, 0, 0, 0, 0, 0, 1] ++
      [0xfe, 0x80, 0, 0, 0, 0, 0, 0, 0, 0, 0, 0, 0, 0, 0, 2] ++ [128, 0, 1, 2])

theorem echoRequest_isIpv6Packet (interface : UInt8) : IsIpv6Packet (echoRequest interface) 44 where
  version := show (0x60 : UInt8) >>> 4 = 6 by decide
  header := by decide
  length := rfl

theorem iphc_recovers_echoRequest :
    received (unfragmentedFrame #v[2, 0, 0, 0, 0, 0, 0, 9] #v[2, 0, 0, 0, 0, 0, 0, 8]
        [123, 17, 58, 0, 0, 0, 0, 0, 0, 0, 1, 0, 0, 0, 0, 0, 0, 0, 2] 40 (echoRequest 0) 44 [])
      (uncompressHdrIphc [] (unfragmentedFrame #v[2, 0, 0, 0, 0, 0, 0, 9] #v[2, 0, 0, 0, 0, 0, 0, 8]
        [123, 17, 58, 0, 0, 0, 0, 0, 0, 0, 1, 0, 0, 0, 0, 0, 0, 0, 2] 40 (echoRequest 0) 44 [])
        0 (fun _ => 0xaa) 0) = (echoRequest 0).read 0 44 :=
  (iphc_recovers_iff (echoRequest_isIpv6Packet 0) (by decide)
    (show compressHdrIphc [] 102 #v[2, 0, 0, 0, 0, 0, 0, 9] (echoRequest 0)
      #v[2, 0, 0, 0, 0, 0, 0, 8] = _ by decide +kernel) _ []).mpr
    ⟨by simp [srcContext, addrContextLookupByPrefix],
      by simp [destContext, addrContextLookupByPrefix], by decide⟩

theorem echoRequest_interface_lost :
    IsIpv6Packet (echoRequest 1) 44 ∧ isCompressableProto (echoRequest 1 6) = false ∧
      uipIsAddrMcast (srcipaddr (echoRequest 1)) = false ∧
      compressHdrIphc [] 102 #v[2, 0, 0, 0, 0, 0, 0, 9] (echoRequest 1)
        #v[2, 0, 0, 0, 0, 0, 0, 8] =
          some ([123, 17, 58, 0, 0, 0, 0, 0, 0, 0, 1, 0, 0, 0, 0, 0, 0, 0, 2], 40) ∧
      received (unfragmentedFrame #v[2, 0, 0, 0, 0, 0, 0, 9] #v[2, 0, 0, 0, 0, 0, 0, 8]
          [123, 17, 58, 0, 0, 0, 0, 0, 0, 0, 1, 0, 0, 0, 0, 0, 0, 0, 2] 40 (echoRequest 1) 44 [])
        (uncompressHdrIphc [] (unfragmentedFrame #v[2, 0, 0, 0, 0, 0, 0, 9]
          #v[2, 0, 0, 0, 0, 0, 0, 8]
          [123, 17, 58, 0, 0, 0, 0, 0, 0, 0, 1, 0, 0, 0, 0, 0, 0, 0, 2] 40 (echoRequest 1) 44 [])
          0 (fun _ => 0xaa) 0) ≠ (echoRequest 1).read 0 44 :=
  ⟨echoRequest_isIpv6Packet 1, by decide, by decide, by decide +kernel, by decide +kernel⟩

end MultiPhyTsch.Lowpan
