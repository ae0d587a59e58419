import MultiPhyTsch.Lowpan.Types

/-! `uncompress_hdr_iphc`. The cursor is `hc06_ptr`, its offset the distance from `packetbuf_ptr`;
the bytes ahead of it are those of the packet buffer, and those past its end read as 0. -/

namespace MultiPhyTsch.Lowpan

/-- What is in the packet buffer when a frame is received: `datalen` bytes of it are the frame's,
those behind are left from before. -/
structure RxPacketbuf where
  sender : LinkAddr
  receiver : LinkAddr
  bytes : List UInt8
  datalen : Nat
deriving DecidableEq, Repr

def llprefix : List UInt8 := [0xfe, 0x80]

def ttlValues : List UInt8 := [0, 1, 64, 255]

/-- `unc_llconf`, `unc_ctxconf` and `unc_mxconf`, with the nibbles apart: bytes from the prefix and
bytes from the packet, where 15 stands for 16. -/
def uncLlconf : UInt8 → Nat × Nat
  | 0 => (0x0, 0xf)
  | 1 => (0x2, 0x8)
  | 2 => (0x2, 0x2)
  | _ => (0x2, 0x0)

def uncCtxconf : UInt8 → Nat × Nat
  | 0 => (0x0, 0x0)
  | 1 => (0x8, 0x8)
  | 2 => (0x8, 0x2)
  | _ => (0x8, 0x0)

def uncMxconf : UInt8 → Nat × Nat
  | 0 => (0x0, 0xf)
  | 1 => (0x2, 0x5)
  | 2 => (0x2, 0x3)
  | _ => (0x2, 0x1)

def uncompressAddr (prefixBytes : List UInt8) (prefPostCount : Nat × Nat) (lladdr : LinkAddr)
    (hc06 : Cursor UInt8) : List UInt8 × Cursor UInt8 :=
  let prefcount := if prefPostCount.1 = 15 then 16 else prefPostCount.1
  let postcount := if prefPostCount.2 = 15 then 16 else prefPostCount.2
  let addr := prefixBytes.take prefcount ++ List.replicate (16 - (prefcount + postcount)) 0
  if postcount > 0 then
    let ipaddr := addr ++ hc06.read postcount
    -- 16 bits uncompression => 0000:00ff:fe00:XXXX
    (if postcount = 2 ∧ prefcount < 11 then (ipaddr.set 11 0xff).set 12 0xfe else ipaddr,
      hc06.skip postcount)
  else if prefcount > 0 then (uipDs6SetAddrIid addr lladdr, hc06)
  else (addr, hc06)

def uncompressTrafficClass (iphc0 : UInt8) (hc06 : Cursor UInt8) : List UInt8 × Cursor UInt8 :=
  let byte := hc06.peek 0
  let dscpHigh := (byte >>> 2) &&& (0x0f : UInt8)
  let ecn := (byte >>> 2) &&& (0x30 : UInt8)
  if iphc0 &&& iphcFlC = 0 then
    if iphc0 &&& iphcTcC = 0 then
      ([0x60 ||| dscpHigh, ecn ||| (byte <<< 6) ||| (hc06.peek 1 &&& (0x0f : UInt8)),
        hc06.peek 2, hc06.peek 3], hc06.skip 4)
    else ([0x60, (byte &&& (0x0f : UInt8)) ||| ecn, hc06.peek 1, hc06.peek 2], hc06.skip 3)
  else
    if iphc0 &&& iphcTcC = 0 then
      ([0x60 ||| dscpHigh, ((byte <<< 6) &&& (0xc0 : UInt8)) ||| ecn, 0, 0], hc06.skip 1)
    else ([0x60, 0, 0, 0], hc06)

def uncompressNextHeader (iphc0 : UInt8) (hc06 : Cursor UInt8) : List UInt8 × Cursor UInt8 :=
  if iphc0 &&& iphcNhC = 0 then ([hc06.peek 0], hc06.skip 1) else ([], hc06)

def uncompressHopLimit (iphc0 : UInt8) (hc06 : Cursor UInt8) : UInt8 × Cursor UInt8 :=
  if iphc0 &&& 0x03 ≠ 0 then (ttlValues.getD (iphc0 &&& 0x03).toNat 0, hc06)
  else (hc06.peek 0, hc06.skip 1)

/-- None where the context is not found. `contexts` is the third byte of the header. -/
def uncompressSrcipaddr (addrContexts : List SicslowpanAddrContext) (iphc1 contexts : UInt8)
    (sender : LinkAddr) (hc06 : Cursor UInt8) : Option (List UInt8 × Cursor UInt8) :=
  let mode := ((iphc1 &&& iphcSam11) >>> iphcSamBit) &&& 0x03
  if iphc1 &&& iphcSac ≠ 0 then
    let sci := if iphc1 &&& iphcCid ≠ 0 then contexts >>> 4 else 0
    if mode ≠ 0 then
      match addrContextLookupByNumber addrContexts sci with
      | none => none
      | some context =>
        some (uncompressAddr context.prefixBytes.toList (uncCtxconf mode) sender hc06)
    else some (uncompressAddr [] (uncCtxconf mode) sender hc06)
  else some (uncompressAddr llprefix (uncLlconf mode) sender hc06)

def uncompressDestipaddr (addrContexts : List SicslowpanAddrContext) (iphc1 contexts : UInt8)
    (receiver : LinkAddr) (hc06 : Cursor UInt8) : Option (List UInt8 × Cursor UInt8) :=
  let mode := ((iphc1 &&& iphcDam11) >>> iphcDamBit) &&& 0x03
  if iphc1 &&& iphcM ≠ 0 then
    if iphc1 &&& iphcDac ≠ 0 then some ([], hc06)
    else if mode > 0 ∧ mode < 3 then
      some (uncompressAddr [0xff, hc06.peek 0] (uncMxconf mode) receiver (hc06.skip 1))
    else some (uncompressAddr [0xff, 0x02] (uncMxconf mode) receiver hc06)
  else if iphc1 &&& iphcDac ≠ 0 then
    let dci := if iphc1 &&& iphcCid ≠ 0 then contexts &&& 0x0f else 0
    match addrContextLookupByNumber addrContexts dci with
    | none => none
    | some context =>
      some (uncompressAddr context.prefixBytes.toList (uncCtxconf mode) receiver hc06)
  else some (uncompressAddr llprefix (uncLlconf mode) receiver hc06)

/-- The variables of the loop over the next headers. `lastNextheader` and `ipPayload` are places in
the buffer. -/
structure NhcState where
  hc06 : Cursor UInt8
  buf : Memory UInt8
  nhc : Bool
  lastNextheader : Nat
  ipPayload : Nat
  uncompHdrLen : Nat
  extHdrLen : Nat

def extHdrProto (eid : UInt8) : Option UInt8 :=
  if eid = 0 then some uipProtoHbho
  else if eid = 1 then some uipProtoRouting
  else if eid = 2 then some uipProtoFrag
  else if eid = 3 then some uipProtoDesto
  else none

def uncompressExtHdr (state : NhcState) : Option NhcState :=
  let byte := state.hc06.peek 0
  let nh := byte &&& 0x01
  let hc06 := state.hc06.skip 1
  let next := if nh = 0 then hc06.peek 0 else 0
  let hc06 := if nh = 0 then hc06.skip 1 else hc06
  let len := (hc06.peek 0).toNat
  let hc06 := hc06.skip 1
  match extHdrProto ((byte &&& 0x0e) >>> 1) with
  | none => none
  | some proto =>
    let exthdrLen : UInt8 := UInt8.ofNat ((2 + len) / 8) - 1
    let size := (exthdrLen.toNat + 1) * 8
    let buf := state.buf.write state.lastNextheader [proto]
    let buf := buf.write (state.ipPayload + 1) [exthdrLen]
    let buf := buf.write state.ipPayload [next]
    let buf := buf.write (state.ipPayload + 2) (hc06.read len)
    some
      { hc06 := hc06.skip len
        buf := buf
        nhc := nh ≠ 0
        lastNextheader := state.ipPayload
        ipPayload := state.ipPayload + size
        uncompHdrLen := (state.uncompHdrLen + size) % 256
        extHdrLen := (state.extHdrLen + size) % 256 }

/-- The loop over the extension headers. Every round takes two bytes of the packet buffer and
ends past its end; `rounds` bounds them. -/
def uncompressExtHdrs : (rounds : Nat) → NhcState → NhcState × Bool
  | 0, state => (state, false)
  | rounds + 1, state =>
    if state.nhc ∧ state.hc06.peek 0 &&& nhcMask = nhcExtHdr then
      match uncompressExtHdr state with
      | none => (state, false)
      | some state => uncompressExtHdrs rounds state
    else (state, true)

def uncompressPorts (hc06 : Cursor UInt8) : Option (List UInt8 × Cursor UInt8) :=
  let form := hc06.peek 0 &&& nhcUdpCsP11
  if form = nhcUdpCsP00 then
    some ([hc06.peek 1, hc06.peek 2, hc06.peek 3, hc06.peek 4], hc06.skip 5)
  else if form = nhcUdpCsP01 then
    some ([hc06.peek 1, hc06.peek 2] ++ set16 (udp8BitPortMin + (hc06.peek 3).toUInt16),
      hc06.skip 4)
  else if form = nhcUdpCsP10 then
    some (set16 (udp8BitPortMin + (hc06.peek 1).toUInt16) ++ [hc06.peek 2, hc06.peek 3],
      hc06.skip 4)
  else if form = nhcUdpCsP11 then
    some (set16 (udp4BitPortMin + (hc06.peek 1 >>> 4).toUInt16) ++
      set16 (udp4BitPortMin + (hc06.peek 1 &&& 0x0f).toUInt16), hc06.skip 2)
  else none

def uncompressUdp (datalen ipLen : Nat) (state : NhcState) : Option NhcState :=
  if state.nhc ∧ state.hc06.peek 0 &&& nhcUdpMask = nhcUdpId then
    let buf := state.buf.write state.lastNextheader [uipProtoUdp]
    let checksumCompressed := state.hc06.peek 0 &&& nhcUdpChecksumc ≠ 0
    match uncompressPorts state.hc06 with
    | none => none
    | some (ports, hc06) =>
      let buf := buf.write state.ipPayload ports
      let buf := if checksumCompressed then buf else buf.write (state.ipPayload + 6) (hc06.read 2)
      let hc06 := if checksumCompressed then hc06 else hc06.skip 2
      let udpLen : Int := 8 + (datalen : Int) - hc06.offset
      let udplen := UInt16.ofInt
        (if ipLen = 0 then udpLen else (ipLen : Int) - uipIphLen - state.extHdrLen)
      some { state with
        hc06 := hc06
        buf := buf.write (state.ipPayload + 4) (set16 udplen)
        uncompHdrLen := (state.uncompHdrLen + uipUdphLen) % 256 }
  else some state

structure Uncompressed where
  buf : Memory UInt8
  packetbufHdrLen : Nat
  uncompHdrLen : Nat

def uncompressNextHdrs (datalen packetbufHdrLen ipLen : Nat) (nhc : Bool) (buf : Memory UInt8)
    (hc06 : Cursor UInt8) : Uncompressed :=
  let (state, supported) := uncompressExtHdrs (hc06.rest.length + 1)
    { hc06 := hc06
      buf := buf
      nhc := nhc
      lastNextheader := 6
      ipPayload := uipIphLen
      uncompHdrLen := uipIphLen
      extHdrLen := 0 }
  if supported = false then ⟨state.buf, packetbufHdrLen, state.uncompHdrLen⟩
  else
    match uncompressUdp datalen ipLen state with
    | none =>
      ⟨state.buf.write state.lastNextheader [uipProtoUdp], packetbufHdrLen, state.uncompHdrLen⟩
    | some state =>
      let hdrLen := state.hc06.offset % 256
      let len : Int :=
        if ipLen = 0 then (datalen : Int) - hdrLen + state.uncompHdrLen - uipIphLen
        else (ipLen : Int) - uipIphLen
      ⟨state.buf.write 4 (set16 (UInt16.ofInt len)), hdrLen, state.uncompHdrLen⟩

def uncompressHdrIphc (addrContexts : List SicslowpanAddrContext) (packetbuf : RxPacketbuf)
    (packetbufHdrLen : Nat) (buf : Memory UInt8) (ipLen : Nat) : Uncompressed :=
  let iphc := (Cursor.start packetbuf.bytes).skip packetbufHdrLen
  let iphc0 := iphc.peek 0
  let iphc1 := iphc.peek 1
  let contexts := iphc.peek 2
  let hc06 := iphc.skip (if iphc1 &&& iphcCid ≠ 0 then 3 else 2)
  let (tf, hc06) := uncompressTrafficClass iphc0 hc06
  let buf := buf.write 0 tf
  let (proto, hc06) := uncompressNextHeader iphc0 hc06
  let buf := buf.write 6 proto
  let (ttl, hc06) := uncompressHopLimit iphc0 hc06
  let buf := buf.write 7 [ttl]
  match uncompressSrcipaddr addrContexts iphc1 contexts packetbuf.sender hc06 with
  | none => ⟨buf, packetbufHdrLen, 0⟩
  | some (src, hc06) =>
    let buf := buf.write 8 src
    match uncompressDestipaddr addrContexts iphc1 contexts packetbuf.receiver hc06 with
    | none => ⟨buf, packetbufHdrLen, 0⟩
    | some (dest, hc06) =>
      let buf := buf.write 24 dest
      uncompressNextHdrs packetbuf.datalen packetbufHdrLen ipLen (iphc0 &&& iphcNhC ≠ 0) buf hc06

end MultiPhyTsch.Lowpan
