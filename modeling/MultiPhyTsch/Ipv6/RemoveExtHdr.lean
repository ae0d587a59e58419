import Mathlib.Data.UInt
import MultiPhyTsch.Ipv6.ChecksumVerify
import MultiPhyTsch.Ipv6.ExtHeaderProgress

/-! The extension headers are cut from a packet for UDP or TCP (`remove_ext_hdr` in `uip6.c`). The
protocol is taken from the first of them, and a packet that ends within them is not dropped. -/

namespace MultiPhyTsch.Ipv6

open MultiPhyTsch.Rpl

def isExtHdr (type : UInt8) : Prop :=
  type = uipProtoHbho ∨ type = uipProtoDesto ∨ type = uipProtoRouting

inductive Chain (buf : Memory UInt8) : Nat → Nat → Prop
  | ip : Chain buf protoField uipIphLen
  | ext {nextHdr start} : Chain buf nextHdr start → isExtHdr (buf nextHdr) →
      Chain buf start (start + extHdrLen (buf (start + 1)))

def Transport (buf : Memory UInt8) (proto : UInt8) (start : Nat) : Prop :=
  ∃ nextHdr, Chain buf nextHdr start ∧ buf nextHdr = proto

/-- A packet that has come to the input of a protocol: `uip_process` has set `uip_len` by the length
field. -/
structure InputPacket extends UipPacket where
  lenRight : toUipPacket.ipLen + uipIphLen = uipLen.toNat

variable (packet : UipPacket)

def removeExtHdr : UipPacket :=
  if packet.uipExtLen > 0 then
    if packet.uipLen.toNat < uipIphLen + packet.uipExtLen.toNat then
      { packet with uipLen := 0, uipExtLen := 0 }
    else
      let last := packet.uipExtLen
      let buf := packet.buf.write protoField [packet.buf uipIphLen]
      let buf := moveBytes buf uipIphLen (uipIphLen + last.toNat)
        (packet.uipLen.toNat - uipIphLen - last.toNat)
      let uipLen := packet.uipLen - last.toUInt16
      ⟨buf.write lenField (ipLenBytes uipLen), uipLen, 0⟩
  else packet

/-- What `udp_input` and `tcp_input` go on with; none if the packet were dropped there. Since
`remove_ext_hdr` says nothing, they always go on. -/
def transportInput : Option UipPacket := some (removeExtHdr packet)

def Stripped (proto : UInt8) (input : Option UipPacket) : Prop :=
  ∃ start, Transport packet.buf proto start ∧
    if packet.uipLen.toNat < start then input = none
    else ∃ after, input = some after ∧ after.proto = proto ∧
      after.ipLen + uipIphLen = after.uipLen.toNat ∧
      start + after.ipLen = packet.uipLen.toNat ∧
      after.buf.read uipIphLen after.ipLen = packet.buf.read start after.ipLen

/-- The header of the protocol stands where `uip_ext_len` says, the packet reaches to it, and the
first extension header, if there is one, is followed by that protocol. -/
structure Removable (packet : UipPacket) (proto : UInt8) : Prop where
  transport : Transport packet.buf proto packet.extBuf
  reaches : packet.extBuf ≤ packet.uipLen.toNat
  first : packet.uipExtLen ≠ 0 → packet.buf uipIphLen = proto

theorem Chain.start_ge {buf : Memory UInt8} {nextHdr start : Nat} (chain : Chain buf nextHdr start) :
    uipIphLen ≤ start := by
  induction chain with
  | ip => exact Nat.le_refl _
  | ext _ _ ih => omega

theorem Chain.first {buf : Memory UInt8} {nextHdr : Nat} (chain : Chain buf nextHdr uipIphLen) :
    nextHdr = protoField := by
  generalize place : uipIphLen = start at chain
  cases chain with
  | ip => rfl
  | @ext before start chain _ =>
    have behind := chain.start_ge
    have some : 8 ≤ extHdrLen (buf (nextHdr + 1)) := by
      unfold extHdrLen
      omega
    omega

section Removed

variable {packet : UipPacket}

def cutBuf (packet : UipPacket) : Memory UInt8 :=
  moveBytes (packet.buf.write protoField [packet.buf uipIphLen]) uipIphLen packet.extBuf
    (packet.uipLen.toNat - packet.extBuf)

theorem removeExtHdr_none (none : packet.uipExtLen = 0) : removeExtHdr packet = packet := by
  unfold removeExtHdr
  rw [if_neg]
  rw [none]
  decide

theorem removeExtHdr_short (some : packet.uipExtLen ≠ 0)
    (short : packet.uipLen.toNat < packet.extBuf) :
    removeExtHdr packet = { packet with uipLen := 0, uipExtLen := 0 } := by
  have within : packet.uipLen.toNat < uipIphLen + packet.uipExtLen.toNat := short
  unfold removeExtHdr
  rw [if_pos (UInt8.pos_iff_ne_zero.mpr some), if_pos within]

theorem removeExtHdr_cut (some : packet.uipExtLen ≠ 0)
    (reaches : packet.extBuf ≤ packet.uipLen.toNat) :
    ∃ uipLen : UInt16, uipLen.toNat = packet.uipLen.toNat - packet.uipExtLen.toNat ∧
      removeExtHdr packet = ⟨(cutBuf packet).write lenField (ipLenBytes uipLen), uipLen, 0⟩ := by
  have within : uipIphLen + packet.uipExtLen.toNat ≤ packet.uipLen.toNat := reaches
  refine ⟨packet.uipLen - packet.uipExtLen.toUInt16, ?_, ?_⟩
  · have bound := UInt16.toNat_lt packet.uipLen
    have small := UInt8.toNat_lt packet.uipExtLen
    rw [UInt16.toNat_sub, UInt8.toNat_toUInt16]
    omega
  · have size : packet.uipLen.toNat - uipIphLen - packet.uipExtLen.toNat =
        packet.uipLen.toNat - packet.extBuf := Nat.sub_sub _ _ _
    unfold removeExtHdr
    rw [if_pos (UInt8.pos_iff_ne_zero.mpr some), if_neg (Nat.not_lt.mpr within)]
    dsimp only
    rw [size]
    rfl

theorem ipLen_written {buf : Memory UInt8} {uipLen : UInt16} (header : uipIphLen ≤ uipLen.toNat)
    (extLen : UInt8) :
    (UipPacket.mk (buf.write lenField (ipLenBytes uipLen)) uipLen extLen).ipLen + uipIphLen =
      uipLen.toNat := by
  have written := Memory.read_eq_cons_iff.mp
    (Memory.read_write_self buf lenField (ipLenBytes uipLen))
  have last := Memory.read_eq_cons_iff.mp written.2
  have number := (netBytes_word (uipLen - UInt16.ofNat uipIphLen)).1
  rw [ipLen_toNat header] at number
  unfold UipPacket.ipLen
  dsimp only
  rw [written.1, last.1, number]
  exact Nat.sub_add_cancel header

theorem cut_fields (some : packet.uipExtLen ≠ 0) (reaches : packet.extBuf ≤ packet.uipLen.toNat) :
    (removeExtHdr packet).proto = packet.buf uipIphLen ∧
      (removeExtHdr packet).ipLen + uipIphLen = (removeExtHdr packet).uipLen.toNat ∧
      packet.extBuf + (removeExtHdr packet).ipLen = packet.uipLen.toNat ∧
      (removeExtHdr packet).buf.read uipIphLen (removeExtHdr packet).ipLen =
        packet.buf.read packet.extBuf (removeExtHdr packet).ipLen := by
  obtain ⟨uipLen, left, cut⟩ := removeExtHdr_cut some reaches
  have place : packet.extBuf = uipIphLen + packet.uipExtLen.toNat := rfl
  have lens := @ipLen_written (cutBuf packet) uipLen (by omega) 0
  rw [← cut] at lens
  have uipLenIs : (removeExtHdr packet).uipLen = uipLen := by rw [cut]
  have size : (removeExtHdr packet).ipLen = packet.uipLen.toNat - packet.extBuf := by omega
  have moved : (packet.buf.write protoField [packet.buf uipIphLen]).read packet.extBuf
      (packet.uipLen.toNat - packet.extBuf) =
        packet.buf.read packet.extBuf (packet.uipLen.toNat - packet.extBuf) :=
    Memory.read_write_after _ _ (Nat.le_trans (show protoField + 1 ≤ uipIphLen by decide)
      (Nat.le_add_right uipIphLen _))
  refine ⟨?_, by rw [lens, uipLenIs], by omega, ?_⟩
  · rw [cut]
    unfold UipPacket.proto cutBuf moveBytes
    dsimp only
    rw [Memory.write_after _ (show lenField + 2 ≤ protoField by decide),
      Memory.write_before _ _ (by decide), Memory.write_cell]
  · rw [size, cut]
    dsimp only
    rw [Memory.read_write_after _ _ (show lenField + 2 ≤ uipIphLen by decide)]
    unfold cutBuf moveBytes
    rw [moved]
    exact Memory.read_write_of_length _ _ (Memory.read_length _ _ _)

end Removed

theorem stripped_iff (packet : InputPacket) (proto : UInt8) :
    Stripped packet.toUipPacket proto (transportInput packet.toUipPacket) ↔
      Removable packet.toUipPacket proto := by
  obtain ⟨packet, lenRight⟩ := packet
  dsimp only
  have place : packet.extBuf = uipIphLen + packet.uipExtLen.toNat := rfl
  constructor
  · rintro ⟨start, transport, outcome⟩
    split at outcome
    next => cases outcome
    next long =>
      obtain ⟨after, found, protoRight, lens, whole, -⟩ := outcome
      obtain rfl := Option.some.inj found
      by_cases none : packet.uipExtLen = 0
      · rw [removeExtHdr_none none] at whole
        have here : packet.extBuf = uipIphLen := by rw [place, none]; rfl
        have same : start = packet.extBuf := by omega
        exact ⟨same ▸ transport, by omega, fun some => absurd none some⟩
      · by_cases reaches : packet.extBuf ≤ packet.uipLen.toNat
        · obtain ⟨protoIs, -, cut, -⟩ := cut_fields none reaches
          have same : start = packet.extBuf := by omega
          exact ⟨same ▸ transport, reaches, fun _ => protoIs.symm.trans protoRight⟩
        · rw [removeExtHdr_short none (by omega)] at lens
          have zero : (0 : UInt16).toNat = 0 := rfl
          have header : uipIphLen = 40 := rfl
          dsimp only at lens
          omega
  · rintro ⟨transport, reaches, first⟩
    refine ⟨packet.extBuf, transport, ?_⟩
    rw [if_neg (Nat.not_lt.mpr reaches)]
    refine ⟨_, rfl, ?_⟩
    by_cases none : packet.uipExtLen = 0
    · have here : packet.extBuf = uipIphLen := by rw [place, none]; rfl
      obtain ⟨nextHdr, chain, type⟩ := transport
      rw [here] at chain ⊢
      rw [removeExtHdr_none none]
      obtain rfl := chain.first
      exact ⟨type, lenRight, by omega, rfl⟩
    · obtain ⟨protoIs, lens, cut, moved⟩ := cut_fields none reaches
      exact ⟨protoIs.trans (first none), lens, cut, moved⟩

def twoHeaders : UipPacket :=
  ⟨Memory.write (fun _ => 0) 0 ([0x60, 0, 0, 0, 0, 24, uipProtoHbho, 64] ++
    List.replicate 32 0x20 ++ [uipProtoDesto, 0, uipExtHdrOptPadn, 4, 0, 0, 0, 0] ++
    [uipProtoUdp, 0, uipExtHdrOptPadn, 4, 0, 0, 0, 0] ++ [0, 1, 0, 2, 0, 8, 0, 0]), 64, 0⟩

def twoHeadersInput : InputPacket := ⟨{ twoHeaders with uipExtLen := 16 }, by decide⟩

theorem two_headers_keep_proto :
    ((HeaderWalk.start ⟨rplConf, true, true⟩ 0 (bootRouter 1280) twoHeaders).bind
      (Loop.final (HeaderWalk.step ⟨rplConf, true, true⟩ 0) 3)).map
        (fun walk => (walk.type, walk.packet)) =
          some (uipProtoUdp, twoHeadersInput.toUipPacket) ∧
      (removeExtHdr twoHeadersInput.toUipPacket).proto = uipProtoDesto ∧
      ¬ Stripped twoHeadersInput.toUipPacket uipProtoUdp
        (transportInput twoHeadersInput.toUipPacket) := by
  have kept : (removeExtHdr twoHeadersInput.toUipPacket).proto = uipProtoDesto := by decide
  refine ⟨rfl, kept, ?_⟩
  rintro ⟨start, -, outcome⟩
  split at outcome
  next => cases outcome
  next =>
    obtain ⟨after, found, proto, -⟩ := outcome
    obtain rfl := Option.some.inj found
    rw [kept] at proto
    exact absurd proto (by decide)

end MultiPhyTsch.Ipv6
