import MultiPhyTsch.Lib.Memory
import MultiPhyTsch.Rpl.Types

/-! The packet in `uip_buf` and the global variables that point into it (`uip.h`). The buffer is
seen from the IPv6 header on, and reads beyond its end give what the memory holds there. -/

namespace MultiPhyTsch.Ipv6

open MultiPhyTsch.Rpl (UipIpaddr)

structure UipPacket where
  buf : Memory UInt8
  uipLen : UInt16
  uipExtLen : UInt8

def uipIphLen : Nat := 40

def uipProtoHbho : UInt8 := 0
def uipProtoTcp : UInt8 := 6
def uipProtoUdp : UInt8 := 17
def uipProtoRouting : UInt8 := 43
def uipProtoIcmp6 : UInt8 := 58
def uipProtoNone : UInt8 := 59
def uipProtoDesto : UInt8 := 60

def uipExtHdrOptPad1 : UInt8 := 0
def uipExtHdrOptPadn : UInt8 := 1
def uipExtHdrOptRpl : UInt8 := 0x63

def lenField : Nat := 4
def protoField : Nat := 6
def ttlField : Nat := 7
def srcipaddrField : Nat := 8
def destipaddrField : Nat := 24

def extHdrLen (len : UInt8) : Nat := len.toNat * 8 + 8

def readIpaddr (buf : Memory UInt8) (start : Nat) : UipIpaddr :=
  Vector.ofFn fun i => buf (start + i.val)

def writeIpaddr (buf : Memory UInt8) (start : Nat) (addr : UipIpaddr) : Memory UInt8 :=
  buf.write start addr.toList

def isAddrMcast (addr : UipIpaddr) : Bool := addr[0] = 0xff

def isAddrLinklocal (addr : UipIpaddr) : Bool := addr[0] = 0xfe && addr[1] = 0x80

def moveBytes (buf : Memory UInt8) (dest source count : Nat) : Memory UInt8 :=
  buf.write dest (buf.read source count)

namespace UipPacket

variable (packet : UipPacket)

def extBuf : Nat := uipIphLen + packet.uipExtLen.toNat

def proto : UInt8 := packet.buf protoField

def srcipaddr : UipIpaddr := readIpaddr packet.buf srcipaddrField

def destipaddr : UipIpaddr := readIpaddr packet.buf destipaddrField

def ipLen : Nat :=
  (packet.buf lenField).toNat * 256 + (packet.buf (lenField + 1)).toNat

def store (address : Nat) (value : UInt8) : UipPacket :=
  { packet with buf := packet.buf.write address [value] }

end UipPacket

end MultiPhyTsch.Ipv6
