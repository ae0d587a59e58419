import MultiPhyTsch.Lowpan.IphcRoundTrip

/-! What a receiver recovers of a packet whose headers were compressed: the extension headers, the
UDP header and the payload. -/

namespace MultiPhyTsch.Lowpan

variable {addrContexts : List SicslowpanAddrContext} {ip : Memory UInt8} {total uipLen : Nat}
  {last : UInt8}

structure ContextsFound (addrContexts : List SicslowpanAddrContext) (ip : Memory UInt8) : Prop where
  src : (srcContext addrContexts ip).isSome →
    (addrContextLookupByNumber addrContexts (contextNumbers addrContexts ip >>> 4)).isSome
  dest : (destContext addrContexts ip).isSome →
    (addrContextLookupByNumber addrContexts (contextNumbers addrContexts ip &&& 0x0f)).isSome

theorem srcUpper_isSome_iff (numbers : UInt8) :
    (srcUpper addrContexts numbers ip).isSome ↔ ((srcContext addrContexts ip).isSome →
      (addrContextLookupByNumber addrContexts (numbers >>> 4)).isSome) := by
  unfold srcUpper
  cases srcContext addrContexts ip with
  | some context => simp
  | none =>
    dsimp only
    split <;> simp

theorem destUpper_isSome_iff (numbers : UInt8) :
    (destUpper addrContexts numbers ip).isSome ↔ ((destContext addrContexts ip).isSome →
      (addrContextLookupByNumber addrContexts (numbers &&& 0x0f)).isSome) := by
  unfold destUpper
  cases destContext addrContexts ip with
  | some context => simp
  | none => simp

theorem contextsFound_iff : ContextsFound addrContexts ip ↔
    (srcUpper addrContexts (contextNumbers addrContexts ip) ip).isSome ∧
      (destUpper addrContexts (contextNumbers addrContexts ip) ip).isSome := by
  rw [srcUpper_isSome_iff, destUpper_isSome_iff]
  constructor
  · rintro ⟨src, dest⟩
    exact ⟨src, dest⟩
  · rintro ⟨src, dest⟩
    exact ⟨src, dest⟩

def UdpLengthMatches (ip : Memory UInt8) (last : UInt8) (total uipLen : Nat) : Prop :=
  last = uipProtoUdp →
    ip.read (uipIphLen + total + 4) 2 = set16 (UInt16.ofNat (uipLen - uipIphLen - total))

theorem HeadersRestored.chain_iff {base after : Memory UInt8} {ipLength udpLength : UInt16}
    (restored : HeadersRestored ip base after last total ipLength udpLength) :
    after.read uipIphLen (total + lastHdrSize last) = ip.read uipIphLen (total + lastHdrSize last) ↔
      (last = uipProtoUdp → ip.read (uipIphLen + total + 4) 2 = set16 udpLength) := by
  by_cases udp : last = uipProtoUdp
  · have size : lastHdrSize last = 8 := if_pos udp
    have whole : total + 8 = (total + 4) + (2 + 2) := rfl
    have front : after.read uipIphLen (total + 4) = ip.read uipIphLen (total + 4) := by
      apply Memory.read_congr
      intro address behind before
      exact restored.chain address behind (by omega) (fun _ => by omega)
    have checksum : after.read (uipIphLen + (total + 4) + 2) 2 =
        ip.read (uipIphLen + (total + 4) + 2) 2 := by
      apply Memory.read_congr
      intro address behind before
      exact restored.chain address (by omega) (by omega) (fun _ => by omega)
    have length := restored.udplen udp
    rw [Nat.add_assoc] at length
    rw [size, whole, Memory.read_add_eq_iff after ip _ (total + 4) _,
      Memory.read_add_eq_iff after ip _ 2 2, Nat.add_assoc, length]
    constructor
    · rintro ⟨_, same, _⟩ _
      exact same.symm
    · intro same
      exact ⟨front, (same udp).symm, checksum⟩
  · have size : lastHdrSize last = 0 := if_neg udp
    have front : after.read uipIphLen (total + lastHdrSize last) =
        ip.read uipIphLen (total + lastHdrSize last) := by
      apply Memory.read_congr
      intro address behind before
      exact restored.chain address behind (by omega) (fun found => absurd found udp)
    exact ⟨fun _ found => absurd found udp, fun _ => front⟩

variable {uncompHdrLen : Nat} {hdr : List UInt8} {uipLladdr linkDestaddr : LinkAddr}

theorem udpLengthField_unfragmented (hdrLen : Nat) (within : uipIphLen + total + uipUdphLen ≤ uipLen) :
    udpLengthField (uipLen - (uipIphLen + total + uipUdphLen) + hdrLen) hdrLen total 0 =
      UInt16.ofNat (uipLen - uipIphLen - total) := by
  have size : uipUdphLen = 8 := rfl
  have value : 8 + ((uipLen - (uipIphLen + total + uipUdphLen) + hdrLen : Nat) : Int) - hdrLen =
      ((uipLen - uipIphLen - total : Nat) : Int) := by omega
  rw [udpLengthField, if_pos rfl, value, uint16_ofInt_natCast]

/-- What is behind the IP header in a frame that was received, and the length of the headers that
were uncompressed, are those of the packet. -/
structure BodyRecovered (ip : Memory UInt8) (uipLen uncompHdrLen : Nat) (frame : RxPacketbuf)
    (headers : Uncompressed) : Prop where
  payload : uncompHdrLen ≤ uipLen
  uncompHdrLen : headers.uncompHdrLen = uncompHdrLen
  body : (received frame headers).drop uipIphLen = ip.read uipIphLen (uipLen - uipIphLen)

/-- The extension headers, the UDP header and the payload come back exactly when the contexts do,
the headers are inside the packet and the UDP length is that of the rest of the packet. -/
theorem nhc_recovers_iff (conf : LowpanConf) (framerHdrlen : Nat) (packet : IsIpv6Packet ip uipLen)
    (chain : HeaderChain ip (ip 6) 0 last total)
    (compressed : compressHdrIphc addrContexts (conf.macMaxPayload - framerHdrlen) uipLladdr ip
      linkDestaddr = some (hdr, uncompHdrLen))
    (buf : Memory UInt8) (behind : List UInt8) :
    let frame := unfragmentedFrame uipLladdr linkDestaddr hdr uncompHdrLen ip uipLen behind
    uncompHdrLen = uipIphLen + total + lastHdrSize last ∧
      (BodyRecovered ip uipLen uncompHdrLen frame (uncompressHdrIphc addrContexts frame 0 buf 0) ↔
        uipIphLen + total + lastHdrSize last ≤ uipLen ∧ ContextsFound addrContexts ip ∧
          UdpLengthMatches ip last total uipLen) := by
  intro frame
  have short : conf.macMaxPayload - framerHdrlen ≤ 125 := (Nat.sub_le _ _).trans conf.payloadFits
  have size : uncompHdrLen = uipIphLen + total + lastHdrSize last :=
    (@uncompressHdrIphc_headers addrContexts ip _ uncompHdrLen
      total last hdr (ip.read uncompHdrLen (uipLen - uncompHdrLen) ++ behind) frame [] (by omega)
      (by decide) packet.version chain compressed (List.append_assoc _ _ _) buf 0).1
  refine ⟨size, ?_⟩
  by_cases within : uncompHdrLen ≤ uipLen
  case neg =>
    constructor
    · intro recovered
      exact absurd recovered.payload within
    · rintro ⟨inside, _⟩
      omega
  have inside : uipIphLen + total + lastHdrSize last ≤ uipLen := by omega
  rw [contextsFound_iff]
  rcases uncompressHdrIphc_unfragmented (by omega) packet chain compressed within buf behind with
    ⟨srcHalf, destHalf, after, src, dest, result, restored⟩ | ⟨missed, _, none⟩
  · have rest : (received frame (uncompressHdrIphc addrContexts frame 0 buf 0)).drop uipIphLen =
        after.read uipIphLen (total + lastHdrSize last) ++
          ip.read uncompHdrLen (uipLen - uncompHdrLen) := by
      rw [received_unfragmentedFrame _ (by rw [result]), result,
        List.drop_append_of_le_length (by simp; omega), Memory.read_drop]
      dsimp only
      rw [show uncompHdrLen - uipIphLen = total + lastHdrSize last by omega, Nat.zero_add]
    have whole : ip.read uipIphLen (uipLen - uipIphLen) =
        ip.read uipIphLen (total + lastHdrSize last) ++
          ip.read uncompHdrLen (uipLen - uncompHdrLen) := by
      rw [size, Nat.add_assoc, ← Memory.read_add]
      congr 1
      omega
    have body : (received frame (uncompressHdrIphc addrContexts frame 0 buf 0)).drop uipIphLen =
        ip.read uipIphLen (uipLen - uipIphLen) ↔ UdpLengthMatches ip last total uipLen := by
      rw [rest, whole, List.append_left_inj, restored.chain_iff]
      apply imp_congr_right
      intro udp
      have udpSize : lastHdrSize last = uipUdphLen := if_pos udp
      rw [size, udpSize, udpLengthField_unfragmented _ (by omega)]
    rw [src, dest, ← body]
    constructor
    · intro recovered
      exact ⟨inside, ⟨rfl, rfl⟩, recovered.body⟩
    · rintro ⟨_, _, same⟩
      exact ⟨within, by rw [result], same⟩
  · constructor
    · intro recovered
      have sizes := recovered.uncompHdrLen
      rw [none] at sizes
      have iphLen : uipIphLen = 40 := rfl
      omega
    · rintro ⟨_, found, _⟩
      rcases missed with missed | missed
      · simp [missed] at found
      · simp [missed] at found

def udpDatagram (extHdr : UInt8) (options : List UInt8) (udplen : UInt8) : Memory UInt8 :=
  Memory.write (fun _ => 0) 0
    ([0x60, 0, 0, 0, 0, 24, extHdr, 64] ++
      [0xfe, 0x80, 0, 0, 0, 0, 0, 0, 0, 0, 0, 0, 0, 0, 0, 1] ++
      [0xfe, 0x80, 0, 0, 0, 0, 0, 0, 0, 0, 0, 0, 0, 0, 0, 2] ++
      17 :: 0 :: options ++ [0xf0, 0xb1, 0xf0, 0xb2, 0, udplen, 0xab, 0xcd] ++
      [1, 2, 3, 4, 5, 6, 7, 8])

theorem udpDatagram_isIpv6Packet (extHdr : UInt8) (options : List UInt8) (udplen : UInt8) :
    IsIpv6Packet (udpDatagram extHdr options udplen) 64 where
  version := show (0x60 : UInt8) >>> 4 = 6 by decide
  header := by decide
  length := rfl

theorem udpDatagram_chain {extHdr : UInt8} (ext : IsExtHdr extHdr) (options : List UInt8)
    (udplen : UInt8) :
    HeaderChain (udpDatagram extHdr options udplen) extHdr 0 uipProtoUdp 8 := by
  have behind : HeaderChain (udpDatagram extHdr options udplen) 17 8 17 8 :=
    HeaderChain.last (fun found => found.2 rfl)
  exact HeaderChain.next ext behind

theorem nhc_recovers_udpDatagram :
    BodyRecovered (udpDatagram 0 [1, 4, 0, 0, 0, 0] 16) 64 56
      (unfragmentedFrame #v[2, 0, 0, 0, 0, 0, 0, 9] #v[2, 0, 0, 0, 0, 0, 0, 8]
        [126, 17, 0, 0, 0, 0, 0, 0, 0, 1, 0, 0, 0, 0, 0, 0, 0, 2, 225, 6, 1, 4, 0, 0, 0, 0, 243, 18,
          171, 205] 56 (udpDatagram 0 [1, 4, 0, 0, 0, 0] 16) 64 [])
      (uncompressHdrIphc [] (unfragmentedFrame #v[2, 0, 0, 0, 0, 0, 0, 9] #v[2, 0, 0, 0, 0, 0, 0, 8]
        [126, 17, 0, 0, 0, 0, 0, 0, 0, 1, 0, 0, 0, 0, 0, 0, 0, 2, 225, 6, 1, 4, 0, 0, 0, 0, 243, 18,
          171, 205] 56 (udpDatagram 0 [1, 4, 0, 0, 0, 0] 16) 64 []) 0 (fun _ => 0xaa) 0) :=
  (nhc_recovers_iff ⟨125, 12, 2, 1280, by decide⟩ 23 (udpDatagram_isIpv6Packet 0 [1, 4, 0, 0, 0, 0] 16)
    (udpDatagram_chain ⟨by decide, by decide⟩ [1, 4, 0, 0, 0, 0] 16)
    (show compressHdrIphc [] 102 #v[2, 0, 0, 0, 0, 0, 0, 9] (udpDatagram 0 [1, 4, 0, 0, 0, 0] 16)
      #v[2, 0, 0, 0, 0, 0, 0, 8] = _ by decide +kernel) _ []).2.mpr
    ⟨by decide, ⟨by simp [srcContext, addrContextLookupByPrefix],
      by simp [destContext, addrContextLookupByPrefix]⟩, fun _ => by decide⟩

theorem udpDatagram_fragment_lost :
    IsIpv6Packet (udpDatagram 44 [0, 1, 0, 0, 0, 7] 40) 64 ∧
      HeaderChain (udpDatagram 44 [0, 1, 0, 0, 0, 7] 40) uipProtoFrag 0 uipProtoUdp 8 ∧
      compressHdrIphc [] 102 #v[2, 0, 0, 0, 0, 0, 0, 9] (udpDatagram 44 [0, 1, 0, 0, 0, 7] 40)
        #v[2, 0, 0, 0, 0, 0, 0, 8] =
          some ([126, 17, 0, 0, 0, 0, 0, 0, 0, 1, 0, 0, 0, 0, 0, 0, 0, 2, 229, 6, 0, 1, 0, 0, 0, 7,
            243, 18, 171, 205], 56) ∧
      ¬ BodyRecovered (udpDatagram 44 [0, 1, 0, 0, 0, 7] 40) 64 56
        (unfragmentedFrame #v[2, 0, 0, 0, 0, 0, 0, 9] #v[2, 0, 0, 0, 0, 0, 0, 8]
          [126, 17, 0, 0, 0, 0, 0, 0, 0, 1, 0, 0, 0, 0, 0, 0, 0, 2, 229, 6, 0, 1, 0, 0, 0, 7, 243, 18,
            171, 205] 56 (udpDatagram 44 [0, 1, 0, 0, 0, 7] 40) 64 [])
        (uncompressHdrIphc [] (unfragmentedFrame #v[2, 0, 0, 0, 0, 0, 0, 9]
          #v[2, 0, 0, 0, 0, 0, 0, 8]
          [126, 17, 0, 0, 0, 0, 0, 0, 0, 1, 0, 0, 0, 0, 0, 0, 0, 2, 229, 6, 0, 1, 0, 0, 0, 7, 243, 18,
            171, 205] 56 (udpDatagram 44 [0, 1, 0, 0, 0, 7] 40) 64 []) 0 (fun _ => 0xaa) 0) :=
  ⟨udpDatagram_isIpv6Packet 44 [0, 1, 0, 0, 0, 7] 40,
    udpDatagram_chain ⟨by decide, by decide⟩ [0, 1, 0, 0, 0, 7] 40, by decide +kernel,
    fun recovered => absurd recovered.body (by decide +kernel)⟩

end MultiPhyTsch.Lowpan
