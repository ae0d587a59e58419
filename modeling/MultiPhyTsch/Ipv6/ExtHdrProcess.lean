import MultiPhyTsch.Rpl.ExtHeader

/-! The extension headers in `uip_process` (`uip6.c`), as it is built by default: without the
reassembly of IPv6 fragments, which are dropped. Where the walk over the headers is left, for a
protocol, for an error or to send a packet, nothing more is modelled. -/

namespace MultiPhyTsch.Ipv6

open MultiPhyTsch.Rpl

def optionAction (type : UInt8) : UInt8 := type &&& 0xc0

def optionLen (buf : Memory UInt8) (opt : Nat) : Nat :=
  if buf opt = uipExtHdrOptPad1 then 1 else (buf (opt + 1)).toNat + 2

/-- The loop of `ext_hdr_options_process` over `uip_ext_opt_offset`, in the header at `ext`. -/
def optionStep (buf : Memory UInt8) (ext : Nat) (offset : UInt8) : Option UInt8 :=
  let type := buf (ext + offset.toNat)
  if offset.toNat < extHdrLen (buf (ext + 1)) then
    if type = uipExtHdrOptPad1 ∨ type = uipExtHdrOptPadn then
      some (offset + UInt8.ofNat (optionLen buf (ext + offset.toNat)))
    else if type = uipExtHdrOptRpl then none
    else if optionAction type = 0 then
      some (offset + UInt8.ofNat (optionLen buf (ext + offset.toNat)))
    else none
  else none

def firstOption : UInt8 := 2

def optionRounds : Nat := 256

/-- `ext_hdr_options_process`: 0 to go on, 1 to discard the packet, 2 to report an option; none if
it does not return. -/
def extHdrOptionsProcess (conf : RplConf) (sender : LinkAddr) (router : RplRouter)
    (packet : UipPacket) : Option (UInt8 × UipPacket × RplRouter) :=
  (Loop.final (optionStep packet.buf packet.extBuf) optionRounds firstOption).map fun offset =>
    let type := packet.buf (packet.extBuf + offset.toNat)
    if offset.toNat < extHdrLen (packet.buf (packet.extBuf + 1)) then
      if type = uipExtHdrOptRpl then
        let (updated, changed, node) :=
          rplExtHeaderHbhUpdate conf router sender offset.toNat packet
        (if updated then 0 else 1, changed, { router with node := node })
      else if optionAction type = 0x40 then (1, packet, router)
      else if optionAction type = 0xc0 ∧ isAddrMcast packet.destipaddr then (1, packet, router)
      else (2, packet, router)
    else (0, packet, router)

def bitmapHbho : UInt8 := 0x01
def bitmapDesto1 : UInt8 := 0x02
def bitmapRouting : UInt8 := 0x04
def bitmapDesto2 : UInt8 := 0x40

structure ExtHdrConf where
  rpl : RplConf
  uipConfRouter : Bool
  uipConfIpv6Checks : Bool

/-- The walk of `uip_process`: the packet with `uip_ext_len`, `uip_next_hdr` and
`uip_ext_bitmap`. -/
structure HeaderWalk where
  packet : UipPacket
  router : RplRouter
  nextHdr : Nat
  bitmap : UInt8

namespace HeaderWalk

variable (conf : ExtHdrConf) (sender : LinkAddr)

def type (walk : HeaderWalk) : UInt8 := walk.packet.buf walk.nextHdr

def pass (walk : HeaderWalk) : HeaderWalk :=
  { walk with
    nextHdr := walk.packet.extBuf
    packet := { walk.packet with
      uipExtLen := walk.packet.uipExtLen +
        UInt8.ofNat (extHdrLen (walk.packet.buf (walk.packet.extBuf + 1))) } }

def mark (bits : UInt8) (bitmap : UInt8) : Option UInt8 :=
  if conf.uipConfIpv6Checks then
    if bitmap &&& bits ≠ 0 then none else some (bitmap ||| bits)
  else some bitmap

/-- The bitmap once the options of the header are to be processed; none if there are none or the
header is a bad one. Two headers with destination options may come. -/
def marked (walk : HeaderWalk) : Option UInt8 :=
  if walk.type = uipProtoHbho then mark conf bitmapHbho walk.bitmap
  else if walk.type = uipProtoDesto then
    (mark conf bitmapDesto1 walk.bitmap).or (mark conf bitmapDesto2 walk.bitmap)
  else none

/-- The options are processed and the header is passed; while the options are not through, the walk
stays where it is. -/
def processOptions (bitmap : UInt8) (walk : HeaderWalk) : Option HeaderWalk :=
  match extHdrOptionsProcess conf.rpl sender walk.router walk.packet with
  | none => some walk
  | some (0, packet, router) =>
    some (pass { walk with packet := packet, router := router, bitmap := bitmap })
  | some _ => none

def step (walk : HeaderWalk) : Option HeaderWalk :=
  match walk.marked conf with
  | some bitmap => walk.processOptions conf sender bitmap
  | none =>
    if walk.type = uipProtoRouting then
      match mark conf bitmapRouting walk.bitmap with
      | some bitmap =>
        if walk.packet.buf (walk.packet.extBuf + 3) > 0 then none
        else some (pass { walk with bitmap := bitmap })
      | none => none
    else none

def first (router : RplRouter) (packet : UipPacket) : HeaderWalk :=
  ⟨{ packet with uipExtLen := 0 }, router, protoField, 0⟩

def hbhoFirst (packet : UipPacket) : Bool :=
  conf.uipConfRouter && packet.proto = uipProtoHbho

def start (router : RplRouter) (packet : UipPacket) : Option HeaderWalk :=
  if hbhoFirst conf packet then
    (first router packet).processOptions conf sender
      (if conf.uipConfIpv6Checks then bitmapHbho else 0)
  else some (first router packet)

end HeaderWalk

end MultiPhyTsch.Ipv6
