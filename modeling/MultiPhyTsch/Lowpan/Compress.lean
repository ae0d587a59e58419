import MultiPhyTsch.Lowpan.Types

/-! `compress_hdr_iphc`. The header is composed from the bytes each part writes at `hc06_ptr`;
the bits that the parts set in the two encoding bytes are gathered beside them. The position of
`hc06_ptr` is counted from `packetbuf_ptr`. -/

namespace MultiPhyTsch.Lowpan

def hasBufferSpace (payloadEnd hc06 writelen : Nat) : Bool := hc06 + writelen < payloadEnd

variable (ip : Memory UInt8)

def compressTrafficClass : UInt8 × List UInt8 :=
  let vtc := ip 0
  let tcflow := ip 1
  let tmp := (vtc <<< 4) ||| (tcflow >>> 4)
  -- IPHC format of tc is ECN | DSCP, original is DSCP | ECN
  let tmp := ((tmp &&& 0x03) <<< 6) ||| (tmp >>> 2)
  if tcflow &&& 0x0f = 0 ∧ u16IsZero ip 1 then
    if vtc &&& 0x0f = 0 ∧ tcflow &&& 0xf0 = 0 then (iphcFlC ||| iphcTcC, [])
    else (iphcFlC, [tmp])
  else if vtc &&& 0x0f = 0 ∧ tcflow &&& 0xf0 = 0 then
    (iphcTcC, [(tmp &&& 0xc0) ||| (tcflow &&& 0x0f), ip 2, ip 3])
  else (0, [tmp, tcflow, ip 2, ip 3])

def compressNextHeader : UInt8 × List UInt8 :=
  if isCompressableProto (ip 6) then (iphcNhC, []) else (0, [ip 6])

def compressHopLimit : UInt8 × List UInt8 :=
  let ttl := ip 7
  if ttl = 1 then (iphcTtl1, [])
  else if ttl = 64 then (iphcTtl64, [])
  else if ttl = 255 then (iphcTtl255, [])
  else (0, [ttl])

/-- `compress_addr_64`: the mode at its place in `iphc1`, and the bytes written. -/
def compressAddr64 (bitpos : UInt8) (ipaddr : Memory UInt8) (lladdr : LinkAddr) :
    UInt8 × List UInt8 :=
  if uipIsAddrMacAddrBased ipaddr lladdr then (3 <<< bitpos, [])
  else if isIid16BitCompressable ipaddr then (2 <<< bitpos, ipaddr.read 14 2)
  else (1 <<< bitpos, ipaddr.read 8 8)

/-- What the compression of an address adds to `iphc1` and to the third byte, and the bytes it
writes. -/
structure CompressedAddr where
  iphc1 : UInt8
  contexts : UInt8
  bytes : List UInt8
deriving DecidableEq, Repr

def compressSrcipaddr (addrContexts : List SicslowpanAddrContext) (ip : Memory UInt8)
    (uipLladdr : LinkAddr) : CompressedAddr :=
  let src := srcipaddr ip
  let dest := destipaddr ip
  if uipIsAddrUnspecified src then ⟨iphcSac, 0, []⟩
  else match addrContextLookupByPrefix addrContexts src with
    | some context =>
      let (mode, bytes) := compressAddr64 iphcSamBit src uipLladdr
      ⟨iphcCid ||| iphcSac ||| mode, context.number <<< 4, bytes⟩
    | none =>
      -- the bytes 2 to 7 of the destination are tested here
      if uipIsAddrLinklocal src ∧ u16IsZero dest 1 ∧ u16IsZero dest 2 ∧ u16IsZero dest 3 then
        let (mode, bytes) := compressAddr64 iphcSamBit src uipLladdr
        ⟨mode, 0, bytes⟩
      else ⟨0, 0, src.read 0 16⟩

def compressDestipaddr (addrContexts : List SicslowpanAddrContext) (ip : Memory UInt8)
    (linkDestaddr : LinkAddr) : CompressedAddr :=
  let dest := destipaddr ip
  if uipIsAddrMcast dest then
    if isMcastAddrCompressable8 dest then ⟨iphcM ||| iphcDam11, 0, [dest 15]⟩
    else if isMcastAddrCompressable32 dest then
      ⟨iphcM ||| iphcDam10, 0, dest 1 :: dest.read 13 3⟩
    else if isMcastAddrCompressable48 dest then
      ⟨iphcM ||| iphcDam01, 0, dest 1 :: dest.read 11 5⟩
    else ⟨iphcM, 0, dest.read 0 16⟩
  else match addrContextLookupByPrefix addrContexts dest with
    | some context =>
      let (mode, bytes) := compressAddr64 iphcDamBit dest linkDestaddr
      ⟨iphcDac ||| mode, context.number, bytes⟩
    | none =>
      if uipIsAddrLinklocal dest ∧ u16IsZero dest 1 ∧ u16IsZero dest 2 ∧ u16IsZero dest 3 then
        let (mode, bytes) := compressAddr64 iphcDamBit dest linkDestaddr
        ⟨mode, 0, bytes⟩
      else ⟨0, 0, dest.read 0 16⟩

def nhcExtHdrId (proto : UInt8) : UInt8 :=
  if proto = uipProtoHbho then 0
  else if proto = uipProtoRouting then 1
  else if proto = uipProtoFrag then 2
  else 3

def compressUdp (payloadEnd hc06 : Nat) (udp : Memory UInt8) : Option (List UInt8) :=
  let srcport := get16 udp 0
  let destport := get16 udp 2
  let ports : Option (List UInt8) :=
    if srcport &&& 0xfff0 = udp4BitPortMin ∧ destport &&& 0xfff0 = udp4BitPortMin then
      if hasBufferSpace payloadEnd hc06 1 then
        some [nhcUdpCsP11, ((srcport - udp4BitPortMin) <<< 4).toUInt8 +
          (destport - udp4BitPortMin).toUInt8]
      else none
    else if destport &&& 0xff00 = udp8BitPortMin then
      if hasBufferSpace payloadEnd hc06 3 then
        some [nhcUdpCsP01, udp 0, udp 1, (destport - udp8BitPortMin).toUInt8]
      else none
    else if srcport &&& 0xff00 = udp8BitPortMin then
      if hasBufferSpace payloadEnd hc06 3 then
        some [nhcUdpCsP10, (srcport - udp8BitPortMin).toUInt8, udp 2, udp 3]
      else none
    else
      if hasBufferSpace payloadEnd hc06 4 then some [nhcUdpCsP00, udp 0, udp 1, udp 2, udp 3]
      else none
  match ports with
  | none => none
  | some bytes =>
    -- the NHC byte lies before `hc06_ptr`
    if hasBufferSpace payloadEnd (hc06 + (bytes.length - 1)) 2 then
      some (bytes ++ [udp 6, udp 7])
    else none

/-- The loop over the extension headers and UDP: the bytes written and the length of the headers
they stand for. Every round of it takes space of the packet buffer; `rounds` bounds them. -/
def compressNextHdrs (payloadEnd : Nat) (ip : Memory UInt8) :
    (rounds hc06 : Nat) → (nextHdr : UInt8) → (extHdrLen : Nat) → Option (List UInt8 × Nat)
  | 0, _, _, _ => none
  | rounds + 1, hc06, nextHdr, extHdrLen =>
    if isCompressableProto nextHdr = false then some ([], 0)
    else if nextHdr = uipProtoUdp then
      match compressUdp payloadEnd (hc06 + 1) (ip.ptr (uipIphLen + extHdrLen)) with
      | none => none
      | some bytes => some (bytes, uipUdphLen)
    else
      let extHdr := ip.ptr (uipIphLen + extHdrLen)
      let len := (extHdr 1).toNat * 8 + 8
      let next := extHdr 0
      -- a next header that is not compressed stays, behind the NHC byte
      let kept := isCompressableProto next = false
      if kept ∧ hasBufferSpace payloadEnd hc06 1 = false then none
      else
        let start := if kept then hc06 + 1 else hc06
        if hasBufferSpace payloadEnd start len = false then none
        else
          match compressNextHdrs payloadEnd ip rounds (start + len) next (extHdrLen + len) with
          | none => none
          | some (rest, restLen) =>
            let nhc := nhcExtHdr ||| (if kept then 0 else nhcBit) ||| (nhcExtHdrId nextHdr <<< 1)
            let bytes := (if kept then [nhc, next] else [nhc]) ++
              UInt8.ofNat (len - 2) :: extHdr.read 2 (len - 2)
            some (bytes ++ rest, len + restLen)

/-- `compress_hdr_iphc` with `mac_max_payload`: the header written and `uncomp_hdr_len`, none when
it returns 0. -/
def compressHdrIphc (addrContexts : List SicslowpanAddrContext) (macMaxPayload : Nat)
    (uipLladdr : LinkAddr) (ip : Memory UInt8) (linkDestaddr : LinkAddr) :
    Option (List UInt8 × Nat) :=
  if hasBufferSpace macMaxPayload 2 38 = false then none
  else
    let cid := (addrContextLookupByPrefix addrContexts (destipaddr ip)).isSome ||
      (addrContextLookupByPrefix addrContexts (srcipaddr ip)).isSome
    let (tf, tfBytes) := compressTrafficClass ip
    let (nh, nhBytes) := compressNextHeader ip
    let (hlim, hlimBytes) := compressHopLimit ip
    let src := compressSrcipaddr addrContexts ip uipLladdr
    let dest := compressDestipaddr addrContexts ip linkDestaddr
    let iphc0 := dispatchIphc ||| tf ||| nh ||| hlim
    let iphc1 := (if cid then iphcCid else 0) ||| src.iphc1 ||| dest.iphc1
    let inline := (if cid then [src.contexts ||| dest.contexts] else []) ++ tfBytes ++ nhBytes ++
      hlimBytes ++ src.bytes ++ dest.bytes
    match compressNextHdrs macMaxPayload ip (macMaxPayload + 1) (2 + inline.length) (ip 6) 0 with
    | none => none
    | some (nhc, extHdrLen) => some (iphc0 :: iphc1 :: inline ++ nhc, uipIphLen + extHdrLen)

end MultiPhyTsch.Lowpan
