import MultiPhyTsch.Ipv6.Packet
import MultiPhyTsch.Lib.OnesComplement

/-! The checksums of `uip6.c` and the packets that get one: those of UDP and TCP at the end of
`uip_process`, and those of ICMPv6 from whatever handler it has called. -/

namespace MultiPhyTsch.Ipv6

open MultiPhyTsch.Rpl (UipIpaddr)
open OnesComplement (addWord)

def chksum (sum : UInt16) : List UInt8 → UInt16
  | high :: low :: rest => chksum (addWord sum ((high.toUInt16 <<< 8) + low.toUInt16)) rest
  | [high] => addWord sum (high.toUInt16 <<< 8)
  | [] => sum

namespace UipPacket

variable (packet : UipPacket)

def upperLayerLen : UInt16 :=
  ((packet.buf lenField).toUInt16 <<< 8) + (packet.buf (lenField + 1)).toUInt16 -
    packet.uipExtLen.toUInt16

def addresses : List UInt8 := packet.buf.read srcipaddrField 32

def upperLayer : List UInt8 :=
  packet.buf.read packet.extBuf packet.upperLayerLen.toNat

def pseudoStart (proto : UInt8) : UInt16 :=
  packet.upperLayerLen + proto.toUInt16

def upperLayerChksum (proto : UInt8) : UInt16 :=
  let sum := packet.pseudoStart proto
  let sum := chksum sum packet.addresses
  let sum := chksum sum packet.upperLayer
  if sum = 0 then 0xffff else sum

end UipPacket

def netBytes (value : UInt16) : List UInt8 := [(value >>> 8).toUInt8, value.toUInt8]

def ipLenBytes (uipLen : UInt16) : List UInt8 := netBytes (uipLen - UInt16.ofNat uipIphLen)

def vtcField : Nat := 0
def flowField : Nat := 2
def udpBuf : Nat := uipIphLen
def udpChksumField : Nat := udpBuf + 6
def tcpBuf : Nat := uipIphLen
def tcpChksumField : Nat := tcpBuf + 16
def tcpUrgpField : Nat := tcpBuf + 18

def uipUdphLen : UInt16 := 8
def uipIpudphLen : UInt16 := 48
def uipIcmphLen : Nat := 4

structure UipUdpConn where
  ripaddr : UipIpaddr
  lport : UInt16
  rport : UInt16
  ttl : UInt8

structure ExtLen where
  bytes : UInt8
  whole : bytes.toNat % 8 = 0

def UipPacket.seen (packet : UipPacket) (extLen : ExtLen) : UipPacket :=
  { packet with uipExtLen := extLen.bytes }

structure ExtPacket extends UipPacket where
  whole : uipExtLen.toNat % 8 = 0

/-- What a checksum is about to be computed for: at `udp_send` with `uip_slen` bytes and the source
address chosen for them, at `tcp_send_noconn`, and in a handler of ICMPv6. -/
inductive Outgoing where
  | udp (packet : ExtPacket) (slen : UInt16) (conn : UipUdpConn) (src : UipIpaddr)
  | tcp (packet : ExtPacket) (curHopLimit : UInt8)
  | icmp6 (packet : ExtPacket)

namespace Outgoing

def proto : Outgoing → UInt8
  | udp .. => uipProtoUdp
  | tcp .. => uipProtoTcp
  | icmp6 _ => uipProtoIcmp6

def packet : Outgoing → ExtPacket
  | udp packet .. => packet
  | tcp packet _ => packet
  | icmp6 packet => packet

def field : Outgoing → Nat
  | udp .. => udpChksumField
  | tcp .. => tcpChksumField
  | icmp6 packet => packet.extBuf + 2

def headers : Outgoing → Memory UInt8
  | udp packet slen conn src =>
    let buf := packet.buf.write lenField (ipLenBytes (slen + uipIpudphLen))
    let buf := buf.write vtcField [0x60, 0x00]
    let buf := buf.write ttlField [conn.ttl]
    let buf := buf.write protoField [uipProtoUdp]
    let buf := buf.write (udpBuf + 4) (netBytes (slen + uipUdphLen))
    let buf := buf.write udpBuf (netBytes conn.lport)
    let buf := buf.write (udpBuf + 2) (netBytes conn.rport)
    writeIpaddr (writeIpaddr buf destipaddrField conn.ripaddr) srcipaddrField src
  | tcp packet curHopLimit =>
    let buf := packet.buf.write protoField [uipProtoTcp]
    let buf := buf.write ttlField [curHopLimit]
    let buf := buf.write lenField (ipLenBytes packet.uipLen)
    buf.write tcpUrgpField [0, 0]
  | icmp6 packet => packet.buf

variable (out : Outgoing)

def unfinished : UipPacket :=
  { out.packet.toUipPacket with buf := out.headers.write out.field [0, 0] }

def stored : UInt16 :=
  let sum := ~~~ out.unfinished.upperLayerChksum out.proto
  match out with
  | udp .. => if sum = 0 then 0xffff else sum
  | _ => sum

/-- The packet with its checksum; `ip_send_nolen` clears the flow label after it. -/
def completed : UipPacket :=
  let buf := out.unfinished.buf.write out.field (netBytes out.stored)
  match out with
  | icmp6 _ => { out.unfinished with buf := buf }
  | _ => { out.unfinished with buf := buf.write flowField [0, 0] }

/-- The verification by a receiver that has found `received` bytes of extension headers. -/
def Verifies (received : ExtLen) : Prop :=
  (out.completed.seen received).upperLayerChksum out.proto = 0xffff

end Outgoing

def icmp6EchoReply : UInt8 := 129

/-- The headers of the request that lie between the IPv6 header and its own are cut; none where less
than a header is left to be moved. -/
def cutRequest (packet : UipPacket) : Option UipPacket :=
  let uipLen := packet.uipLen - packet.uipExtLen.toUInt16
  if uipIphLen + uipIcmphLen ≤ uipLen.toNat then
    let buf := packet.buf.write protoField [uipProtoIcmp6]
    let buf := buf.write lenField (ipLenBytes uipLen)
    let buf := moveBytes buf (uipIphLen + uipIcmphLen) (packet.extBuf + uipIcmphLen)
      (uipLen.toNat - uipIphLen - uipIcmphLen)
    some ⟨buf, uipLen, 0⟩
  else none

def echoRequestInput (curHopLimit : UInt8) (selectSrc : UipIpaddr → UipIpaddr)
    (packet : UipPacket) : Option UipPacket :=
  let buf := packet.buf.write ttlField [curHopLimit]
  let src := if isAddrMcast packet.destipaddr then selectSrc packet.srcipaddr
    else packet.destipaddr
  let buf := writeIpaddr buf destipaddrField packet.srcipaddr
  let buf := writeIpaddr buf srcipaddrField src
  let packet := { packet with buf := buf }
  let cut := if packet.uipExtLen > 0 then cutRequest packet else some packet
  cut.map fun packet => { packet with buf := packet.buf.write uipIphLen [icmp6EchoReply, 0] }

end MultiPhyTsch.Ipv6
