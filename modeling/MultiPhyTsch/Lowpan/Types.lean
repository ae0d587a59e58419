import MultiPhyTsch.Lib.Cursor
import MultiPhyTsch.Lib.Memory
import MultiPhyTsch.Tsch.Types

/-! Constants, address contexts and address tests of `sicslowpan.h` and `uip.h`, for IPHC with
compressed extension headers over frames of IEEE 802.15.4. A pointer is the memory from there on;
link-layer addresses have 8 bytes. -/

namespace MultiPhyTsch.Lowpan

def uipIphLen : Nat := 40
def uipUdphLen : Nat := 8

def uipProtoHbho : UInt8 := 0
def uipProtoUdp : UInt8 := 17
def uipProtoRouting : UInt8 := 43
def uipProtoFrag : UInt8 := 44
def uipProtoDesto : UInt8 := 60

def isCompressableProto (proto : UInt8) : Bool :=
  proto == uipProtoUdp || proto == uipProtoHbho || proto == uipProtoDesto ||
    proto == uipProtoRouting || proto == uipProtoFrag

def dispatchIphc : UInt8 := 0x60
def dispatchIphcMask : UInt8 := 0xe0
def dispatchIpv6 : UInt8 := 0x41
def dispatchFrag1 : UInt8 := 0xc0
def dispatchFragn : UInt8 := 0xe0
def dispatchFragMask : UInt8 := 0xf8
def dispatchPaging : UInt8 := 0xf0
def dispatchPagingMask : UInt8 := 0xf0

def iphcFlC : UInt8 := 0x10
def iphcTcC : UInt8 := 0x08
def iphcNhC : UInt8 := 0x04
def iphcTtl1 : UInt8 := 0x01
def iphcTtl64 : UInt8 := 0x02
def iphcTtl255 : UInt8 := 0x03

def iphcCid : UInt8 := 0x80
def iphcSac : UInt8 := 0x40
def iphcSam11 : UInt8 := 0x30
def iphcSamBit : UInt8 := 4
def iphcM : UInt8 := 0x08
def iphcDac : UInt8 := 0x04
def iphcDam01 : UInt8 := 0x01
def iphcDam10 : UInt8 := 0x02
def iphcDam11 : UInt8 := 0x03
def iphcDamBit : UInt8 := 0

def nhcMask : UInt8 := 0xf0
def nhcExtHdr : UInt8 := 0xe0
def nhcBit : UInt8 := 0x01
def nhcUdpMask : UInt8 := 0xf8
def nhcUdpId : UInt8 := 0xf0
def nhcUdpChecksumc : UInt8 := 0x04
def nhcUdpCsP00 : UInt8 := 0xf0
def nhcUdpCsP01 : UInt8 := 0xf1
def nhcUdpCsP10 : UInt8 := 0xf2
def nhcUdpCsP11 : UInt8 := 0xf3

def udp4BitPortMin : UInt16 := 0xf0b0
def udp8BitPortMin : UInt16 := 0xf000

structure LowpanConf where
  macMaxPayload : Nat
  fragmentBuffers : Nat
  reassContexts : Nat
  uipBufsize : Nat
  payloadFits : macMaxPayload ≤ 125

def LowpanConf.fragmentSize (conf : LowpanConf) : Nat := conf.macMaxPayload - 15

def LowpanConf.firstFragmentSize (conf : LowpanConf) : Nat := conf.fragmentSize + 38

structure SicslowpanAddrContext where
  used : UInt8
  number : UInt8
  prefixBytes : Vector UInt8 8
deriving DecidableEq, Repr

def addrContextLookupByPrefix (addrContexts : List SicslowpanAddrContext)
    (ipaddr : Memory UInt8) : Option SicslowpanAddrContext :=
  addrContexts.find? fun context =>
    context.used == 1 && context.prefixBytes.toList == ipaddr.read 0 8

def addrContextLookupByNumber (addrContexts : List SicslowpanAddrContext) (number : UInt8) :
    Option SicslowpanAddrContext :=
  addrContexts.find? fun context => context.used == 1 && context.number == number

variable (addr : Memory UInt8)

def u16IsZero (index : Nat) : Bool :=
  addr (2 * index) == 0 && addr (2 * index + 1) == 0

def uipIsAddrUnspecified : Bool :=
  u16IsZero addr 0 && u16IsZero addr 1 && u16IsZero addr 2 && u16IsZero addr 3 &&
    u16IsZero addr 4 && u16IsZero addr 5 && u16IsZero addr 6 && u16IsZero addr 7

def uipIsAddrLinklocal : Bool := addr 0 == 0xfe && addr 1 == 0x80

def uipIsAddrMcast : Bool := addr 0 == 0xff

def uipIsAddrMacAddrBased (lladdr : LinkAddr) : Bool :=
  addr 8 == lladdr[0] ^^^ 0x02 && addr 9 == lladdr[1] && addr 10 == lladdr[2] &&
    addr 11 == lladdr[3] && addr 12 == lladdr[4] && addr 13 == lladdr[5] &&
    addr 14 == lladdr[6] && addr 15 == lladdr[7]

def uipDs6SetAddrIid (ipaddr : List UInt8) (lladdr : LinkAddr) : List UInt8 :=
  ipaddr.take 8 ++ [lladdr[0] ^^^ 0x02, lladdr[1], lladdr[2], lladdr[3], lladdr[4], lladdr[5],
    lladdr[6], lladdr[7]]

def isIid16BitCompressable (addr : Memory UInt8) : Bool :=
  u16IsZero addr 4 && addr 10 == 0 && addr 11 == 0xff && addr 12 == 0xfe && addr 13 == 0

def isMcastAddrCompressable48 (addr : Memory UInt8) : Bool :=
  u16IsZero addr 1 && u16IsZero addr 2 && u16IsZero addr 3 && u16IsZero addr 4 && addr 10 == 0

def isMcastAddrCompressable32 (addr : Memory UInt8) : Bool :=
  u16IsZero addr 1 && u16IsZero addr 2 && u16IsZero addr 3 && u16IsZero addr 4 &&
    u16IsZero addr 5 && addr 12 == 0

def isMcastAddrCompressable8 (addr : Memory UInt8) : Bool :=
  addr 1 == 2 && u16IsZero addr 1 && u16IsZero addr 2 && u16IsZero addr 3 && u16IsZero addr 4 &&
    u16IsZero addr 5 && u16IsZero addr 6 && addr 14 == 0

def srcipaddr (ip : Memory UInt8) : Memory UInt8 := ip.ptr 8

def destipaddr (ip : Memory UInt8) : Memory UInt8 := ip.ptr 24

/-- A 16-bit value in network byte order, as `UIP_HTONS` and `GET16` read it. -/
def get16 (mem : Memory UInt8) (index : Nat) : UInt16 :=
  ((mem index).toUInt16 <<< 8) ||| (mem (index + 1)).toUInt16

def set16 (value : UInt16) : List UInt8 := [(value >>> 8).toUInt8, value.toUInt8]

@[simp] theorem set16_length (value : UInt16) : (set16 value).length = 2 := rfl

theorem set16_get16 (mem : Memory UInt8) (index : Nat) :
    set16 (get16 mem index) = mem.read index 2 := by
  have high : ((get16 mem index) >>> 8).toUInt8 = mem index := by
    apply UInt8.toBitVec_inj.mp
    ext bit bound
    have wide : bit < 16 := by omega
    have shifted : 8 + bit < 16 := by omega
    simp [get16, wide, shifted, BitVec.getLsbD_eq_getElem bound]
  have low : (get16 mem index).toUInt8 = mem (index + 1) := by
    apply UInt8.toBitVec_inj.mp
    ext bit bound
    simp [get16]
  simp [set16, high, low, Memory.read, List.range_succ]

end MultiPhyTsch.Lowpan
