import MultiPhyTsch.Lib.Reads
import MultiPhyTsch.Lowpan.Fragments

/-! The decompression as programs that read the packet buffer byte by byte and return the pieces
they write into the buffer. A place is the distance of `hc06_ptr` from `packetbuf_ptr`. -/

namespace MultiPhyTsch.Lowpan.Reading

open Reads (element elements)

def uncompressAddr (prefixBytes : List UInt8) (prefPostCount : Nat × Nat) (lladdr : LinkAddr)
    (hc06 : Nat) : Reads UInt8 (List UInt8 × Nat) :=
  let prefcount := if prefPostCount.1 = 15 then 16 else prefPostCount.1
  let postcount := if prefPostCount.2 = 15 then 16 else prefPostCount.2
  let addr := prefixBytes.take prefcount ++ List.replicate (16 - (prefcount + postcount)) 0
  if postcount > 0 then do
    let post ← elements postcount (hc06 + ·)
    let ipaddr := addr ++ post.toList
    pure (if postcount = 2 ∧ prefcount < 11 then (ipaddr.set 11 0xff).set 12 0xfe else ipaddr,
      hc06 + postcount)
  else if prefcount > 0 then pure (uipDs6SetAddrIid addr lladdr, hc06)
  else pure (addr, hc06)

def uncompressTrafficClass (iphc0 : UInt8) (hc06 : Nat) : Reads UInt8 (List UInt8 × Nat) :=
  if iphc0 &&& iphcFlC = 0 then
    if iphc0 &&& iphcTcC = 0 then do
      let flow ← elements 3 (hc06 + 1 + ·)
      let tmp ← element hc06
      let dscpHigh := (tmp >>> 2) &&& (0x0f : UInt8)
      let ecn := (tmp >>> 2) &&& (0x30 : UInt8)
      let tcflow := ecn ||| (tmp <<< 6) ||| (flow.get 0 &&& (0x0f : UInt8))
      pure ([0x60 ||| dscpHigh, tcflow, flow.get 1, flow.get 2], hc06 + 4)
    else do
      let byte ← element hc06
      let flow ← elements 2 (hc06 + 1 + ·)
      let ecn := (byte >>> 2) &&& (0x30 : UInt8)
      pure ([0x60, (byte &&& (0x0f : UInt8)) ||| ecn, flow.get 0, flow.get 1], hc06 + 3)
  else
    if iphc0 &&& iphcTcC = 0 then do
      let byte ← element hc06
      let dscpHigh := (byte >>> 2) &&& (0x0f : UInt8)
      let ecn := (byte >>> 2) &&& (0x30 : UInt8)
      pure ([0x60 ||| dscpHigh, ((byte <<< 6) &&& (0xc0 : UInt8)) ||| ecn, 0, 0], hc06 + 1)
    else pure ([0x60, 0, 0, 0], hc06)

def uncompressNextHeader (iphc0 : UInt8) (hc06 : Nat) : Reads UInt8 (List UInt8 × Nat) :=
  if iphc0 &&& iphcNhC = 0 then do
    let proto ← element hc06
    pure ([proto], hc06 + 1)
  else pure ([], hc06)

def uncompressHopLimit (iphc0 : UInt8) (hc06 : Nat) : Reads UInt8 (UInt8 × Nat) :=
  if iphc0 &&& 0x03 ≠ 0 then pure (ttlValues.getD (iphc0 &&& 0x03).toNat 0, hc06)
  else do
    let ttl ← element hc06
    pure (ttl, hc06 + 1)

def sci (iphc1 : UInt8) (iphc : Nat) : Reads UInt8 UInt8 :=
  if iphc1 &&& iphcCid ≠ 0 then do
    let contexts ← element (iphc + 2)
    pure (contexts >>> 4)
  else pure 0

def uncompressSrcipaddr (addrContexts : List SicslowpanAddrContext) (iphc1 : UInt8) (iphc : Nat)
    (sender : LinkAddr) (hc06 : Nat) : Reads UInt8 (Option (List UInt8 × Nat)) :=
  let mode := ((iphc1 &&& iphcSam11) >>> iphcSamBit) &&& 0x03
  if iphc1 &&& iphcSac ≠ 0 then do
    let sci ← sci iphc1 iphc
    if mode ≠ 0 then
      match addrContextLookupByNumber addrContexts sci with
      | none => pure none
      | some context => do
          let src ← uncompressAddr context.prefixBytes.toList (uncCtxconf mode) sender hc06
          pure (some src)
    else do
      let src ← uncompressAddr [] (uncCtxconf mode) sender hc06
      pure (some src)
  else do
    let src ← uncompressAddr llprefix (uncLlconf mode) sender hc06
    pure (some src)

def dci (iphc1 : UInt8) (iphc : Nat) : Reads UInt8 UInt8 :=
  if iphc1 &&& iphcCid ≠ 0 then do
    let contexts ← element (iphc + 2)
    pure (contexts &&& 0x0f)
  else pure 0

def uncompressDestipaddr (addrContexts : List SicslowpanAddrContext) (iphc1 : UInt8) (iphc : Nat)
    (receiver : LinkAddr) (hc06 : Nat) : Reads UInt8 (Option (List UInt8 × Nat)) :=
  let mode := ((iphc1 &&& iphcDam11) >>> iphcDamBit) &&& 0x03
  if iphc1 &&& iphcM ≠ 0 then
    if iphc1 &&& iphcDac ≠ 0 then pure (some ([], hc06))
    else if mode > 0 ∧ mode < 3 then do
      let scope ← element hc06
      let dest ← uncompressAddr [0xff, scope] (uncMxconf mode) receiver (hc06 + 1)
      pure (some dest)
    else do
      let dest ← uncompressAddr [0xff, 0x02] (uncMxconf mode) receiver hc06
      pure (some dest)
  else if iphc1 &&& iphcDac ≠ 0 then do
    let dci ← dci iphc1 iphc
    match addrContextLookupByNumber addrContexts dci with
    | none => pure none
    | some context => do
        let dest ← uncompressAddr context.prefixBytes.toList (uncCtxconf mode) receiver hc06
        pure (some dest)
  else do
    let dest ← uncompressAddr llprefix (uncLlconf mode) receiver hc06
    pure (some dest)

structure NhcState where
  hc06 : Nat
  written : List (Patch UInt8)
  nhc : Bool
  lastNextheader : Nat
  ipPayload : Nat
  uncompHdrLen : Nat
  extHdrLen : Nat

def extHdrNext (nh : UInt8) (hc06 : Nat) : Reads UInt8 (UInt8 × Nat) :=
  if nh = 0 then do
    let next ← element hc06
    pure (next, hc06 + 1)
  else pure (0, hc06)

def uncompressExtHdr (state : NhcState) : Reads UInt8 (Option NhcState) := do
  let byte ← element state.hc06
  let nh := byte &&& 0x01
  let (next, hc06) ← extHdrNext nh (state.hc06 + 1)
  let len ← element hc06
  match extHdrProto ((byte &&& 0x0e) >>> 1) with
  | none => pure none
  | some proto => do
      let exthdrLen : UInt8 := UInt8.ofNat ((2 + len.toNat) / 8) - 1
      let size := (exthdrLen.toNat + 1) * 8
      let bytes ← elements len.toNat (hc06 + 1 + ·)
      pure (some
        { hc06 := hc06 + 1 + len.toNat
          written := state.written ++ [⟨state.lastNextheader, [proto]⟩,
            ⟨state.ipPayload + 1, [exthdrLen]⟩, ⟨state.ipPayload, [next]⟩,
            ⟨state.ipPayload + 2, bytes.toList⟩]
          nhc := nh ≠ 0
          lastNextheader := state.ipPayload
          ipPayload := state.ipPayload + size
          uncompHdrLen := (state.uncompHdrLen + size) % 256
          extHdrLen := (state.extHdrLen + size) % 256 })

def uncompressExtHdrs : (rounds : Nat) → NhcState → Reads UInt8 (NhcState × Bool)
  | 0, state => pure (state, false)
  | rounds + 1, state =>
    if state.nhc then do
      let byte ← element state.hc06
      if byte &&& nhcMask = nhcExtHdr then do
        let next ← uncompressExtHdr state
        match next with
        | none => pure (state, false)
        | some next => uncompressExtHdrs rounds next
      else pure (state, true)
    else pure (state, true)

def uncompressPorts (form : UInt8) (hc06 : Nat) : Reads UInt8 (Option (List UInt8 × Nat)) :=
  let form := form &&& nhcUdpCsP11
  if form = nhcUdpCsP00 then do
    let ports ← elements 4 (hc06 + 1 + ·)
    pure (some (ports.toList, hc06 + 5))
  else if form = nhcUdpCsP01 then do
    let srcport ← elements 2 (hc06 + 1 + ·)
    let port ← element (hc06 + 3)
    pure (some (srcport.toList ++ set16 (udp8BitPortMin + port.toUInt16), hc06 + 4))
  else if form = nhcUdpCsP10 then do
    let port ← element (hc06 + 1)
    let destport ← elements 2 (hc06 + 2 + ·)
    pure (some (set16 (udp8BitPortMin + port.toUInt16) ++ destport.toList, hc06 + 4))
  else if form = nhcUdpCsP11 then do
    let ports ← element (hc06 + 1)
    pure (some (set16 (udp4BitPortMin + (ports >>> 4).toUInt16) ++
      set16 (udp4BitPortMin + (ports &&& 0x0f).toUInt16), hc06 + 2))
  else pure none

def uncompressChecksum (compressed : Prop) [Decidable compressed] (ipPayload hc06 : Nat) :
    Reads UInt8 (List (Patch UInt8) × Nat) :=
  if compressed then pure ([], hc06)
  else do
    let udpchksum ← elements 2 (hc06 + ·)
    pure ([⟨ipPayload + 6, udpchksum.toList⟩], hc06 + 2)

def uncompressUdpHdr (datalen ipLen : Nat) (form : UInt8) (state : NhcState) :
    Reads UInt8 (Option NhcState) := do
  let checksumCompressed := form &&& nhcUdpChecksumc ≠ 0
  let ports ← uncompressPorts form state.hc06
  match ports with
  | none => pure none
  | some (ports, hc06) => do
      let (udpchksum, hc06) ← uncompressChecksum checksumCompressed state.ipPayload hc06
      let udpLen : Int := 8 + (datalen : Int) - hc06
      let udplen := UInt16.ofInt
        (if ipLen = 0 then udpLen else (ipLen : Int) - uipIphLen - state.extHdrLen)
      pure (some { state with
        hc06 := hc06
        written := state.written ++ [⟨state.lastNextheader, [uipProtoUdp]⟩,
          ⟨state.ipPayload, ports⟩] ++ udpchksum ++ [⟨state.ipPayload + 4, set16 udplen⟩]
        uncompHdrLen := (state.uncompHdrLen + uipUdphLen) % 256 })

def uncompressUdp (datalen ipLen : Nat) (state : NhcState) : Reads UInt8 (Option NhcState) :=
  if state.nhc then do
    let form ← element state.hc06
    if form &&& nhcUdpMask = nhcUdpId then uncompressUdpHdr datalen ipLen form state
    else pure (some state)
  else pure (some state)

structure Written where
  written : List (Patch UInt8)
  packetbufHdrLen : Nat
  uncompHdrLen : Nat

def NhcState.start (nhc : Bool) (written : List (Patch UInt8)) (hc06 : Nat) : NhcState :=
  { hc06 := hc06
    written := written
    nhc := nhc
    lastNextheader := 6
    ipPayload := uipIphLen
    uncompHdrLen := uipIphLen
    extHdrLen := 0 }

def uncompressNextHdrs (rounds datalen packetbufHdrLen ipLen : Nat) (nhc : Bool)
    (written : List (Patch UInt8)) (hc06 : Nat) : Reads UInt8 Written := do
  let (state, supported) ← uncompressExtHdrs rounds (.start nhc written hc06)
  if supported = false then pure ⟨state.written, packetbufHdrLen, state.uncompHdrLen⟩
  else do
    let udp ← uncompressUdp datalen ipLen state
    match udp with
    | none =>
      pure ⟨state.written ++ [⟨state.lastNextheader, [uipProtoUdp]⟩], packetbufHdrLen,
        state.uncompHdrLen⟩
    | some state =>
      let hdrLen := state.hc06 % 256
      let len : Int :=
        if ipLen = 0 then (datalen : Int) - hdrLen + state.uncompHdrLen - uipIphLen
        else (ipLen : Int) - uipIphLen
      pure ⟨state.written ++ [⟨4, set16 (UInt16.ofInt len)⟩], hdrLen, state.uncompHdrLen⟩

variable (addrContexts : List SicslowpanAddrContext)

variable (packetbuf : RxPacketbuf)

/-- The rest of `uncompress_hdr_iphc`, from the source address on. A round over the next headers
takes two bytes of the packet buffer, of which there are those of `packetbuf`. -/
def uncompressAddrs
    (iphc ipLen : Nat) (iphc0 iphc1 : UInt8) (written : List (Patch UInt8)) (hc06 : Nat) :
    Reads UInt8 Written := do
  let src ← uncompressSrcipaddr addrContexts iphc1 iphc packetbuf.sender hc06
  match src with
  | none => pure ⟨written, iphc, 0⟩
  | some (src, hc06) => do
      let written := written ++ [⟨8, src⟩]
      let dest ← uncompressDestipaddr addrContexts iphc1 iphc packetbuf.receiver hc06
      match dest with
      | none => pure ⟨written, iphc, 0⟩
      | some (dest, hc06) =>
        uncompressNextHdrs (packetbuf.bytes.length - hc06 + 1) packetbuf.datalen iphc ipLen
          (iphc0 &&& iphcNhC ≠ 0) (written ++ [⟨24, dest⟩]) hc06

def uncompressHdrIphc (packetbufHdrLen ipLen : Nat) : Reads UInt8 Written := do
  let iphc0 ← element packetbufHdrLen
  let iphc1 ← element (packetbufHdrLen + 1)
  let hc06 := packetbufHdrLen + if iphc1 &&& iphcCid ≠ 0 then 3 else 2
  let (tf, hc06) ← uncompressTrafficClass iphc0 hc06
  let (proto, hc06) ← uncompressNextHeader iphc0 hc06
  let (ttl, hc06) ← uncompressHopLimit iphc0 hc06
  uncompressAddrs addrContexts packetbuf packetbufHdrLen ipLen iphc0 iphc1
    [⟨0, tf⟩, ⟨6, proto⟩, ⟨7, [ttl]⟩] hc06

/-- The headers from `digest_paging_dispatch` on; none where `input` returns. -/
def inputHeaders (packetbufHdrLen fragSize : Nat) : Reads UInt8 (Option Written) := do
  let byte ← element packetbufHdrLen
  let paging := byte &&& dispatchPagingMask = dispatchPaging
  let currPage := if paging then byte &&& 0x0f else 0
  let packetbufHdrLen := if paging then packetbufHdrLen + 1 else packetbufHdrLen
  if currPage > 1 then pure none
  else do
    let dispatch ← element packetbufHdrLen
    if dispatch &&& dispatchIphcMask = dispatchIphc then do
      let headers ← uncompressHdrIphc addrContexts packetbuf packetbufHdrLen fragSize
      pure (some headers)
    else if dispatch = dispatchIpv6 then do
      let header ← elements uipIphLen (packetbufHdrLen + 1 + ·)
      pure (some ⟨[⟨0, header.toList⟩], packetbufHdrLen + 1 + uipIphLen, uipIphLen⟩)
    else pure none

def inputBuffer (conf : LowpanConf) (addrContexts : List SicslowpanAddrContext)
    (packetbuf : RxPacketbuf) (packetbufHdrLen fragSize : Nat) :
    Reads UInt8 (List (Patch UInt8) × Option Nat) := do
  let headers ← inputHeaders addrContexts packetbuf packetbufHdrLen fragSize
  match headers with
  | none => pure ([], none)
  | some headers =>
    if payloadAccepted conf packetbuf headers.packetbufHdrLen headers.uncompHdrLen 0 then do
      let payloadLen := packetbuf.datalen - headers.packetbufHdrLen
      let payload ← elements payloadLen (headers.packetbufHdrLen + ·)
      pure (headers.written ++ [⟨headers.uncompHdrLen, payload.toList⟩],
        some (headers.uncompHdrLen + payloadLen))
    else pure (headers.written, none)

variable {packetbuf : RxPacketbuf} (place count : Nat)

theorem elements_toList :
    ((elements count (place + ·) : Reads UInt8 _).value packetbuf.mem).toList =
      packetbuf.mem.read place count := by
  rw [Reads.value_elements, Vector.toList_ofFn]
  apply List.ext_getElem
  · simp
  · intro index left right
    simp [Memory.read]

theorem sci_value (mem : Memory UInt8) (iphc1 : UInt8) (iphc : Nat) :
    (sci iphc1 iphc).value mem = if iphc1 &&& iphcCid ≠ 0 then mem (iphc + 2) >>> 4 else 0 := by
  rw [sci, Reads.value_ite, Reads.value_bind, Reads.value_pure, Reads.value_pure,
    Reads.value_element]

theorem dci_value (mem : Memory UInt8) (iphc1 : UInt8) (iphc : Nat) :
    (dci iphc1 iphc).value mem = if iphc1 &&& iphcCid ≠ 0 then mem (iphc + 2) &&& 0x0f else 0 := by
  rw [dci, Reads.value_ite, Reads.value_bind, Reads.value_pure, Reads.value_pure,
    Reads.value_element]

end MultiPhyTsch.Lowpan.Reading
