import MultiPhyTsch.Lib.Memb
import MultiPhyTsch.Lib.RingBufIndex
import MultiPhyTsch.Tsch.Asn

/-! Data types of the TSCH MAC (`tsch-types.h`, `tsch-const.h`, `tsch-conf.h`) with the
radio types they refer to. A pointer to a pool block is the block's index and NULL is
`none`; intrusive lists are the sequences of their blocks. -/

namespace MultiPhyTsch

abbrev LinkAddr := Vector UInt8 8

def linkaddrNull : LinkAddr := Vector.replicate 8 0

def tschBroadcastAddress : LinkAddr := Vector.replicate 8 0xff

def tschEbAddress : LinkAddr := Vector.replicate 8 0

def linkOptionTx : UInt8 := 1
def linkOptionRx : UInt8 := 2
def linkOptionShared : UInt8 := 4
def linkOptionTimeKeeping : UInt8 := 8
def linkOptionSampleRssi : UInt8 := 16

inductive LinkType where
  | normal
  | advertising
  | advertisingOnly
deriving DecidableEq, Repr

structure TschLink where
  handle : UInt16
  addr : LinkAddr
  slotframeHandle : UInt16
  timeslot : UInt16
  channelOffset : UInt16
  linkOptions : UInt8
  linkType : LinkType
deriving DecidableEq, Repr

instance : Inhabited TschLink := ⟨⟨0, linkaddrNull, 0, 0, 0, 0, .normal⟩⟩

def TschLink.has (link : TschLink) (option : UInt8) : Bool := link.linkOptions &&& option != 0

inductive RadioDriver where
  | cc1200
  | cc2538Rf
deriving DecidableEq, Repr

structure Cc1200RfCfg where
  minChannel : UInt8
  maxChannel : UInt8
  ordered : minChannel ≤ maxChannel
deriving DecidableEq, Repr

instance : Inhabited Cc1200RfCfg := ⟨⟨0, 0, UInt8.le_refl 0⟩⟩

structure TschSlotframe where
  handle : UInt16
  size : TschAsnDivisor
  radio : Option RadioDriver
  cc1200Config : Option Cc1200RfCfg
  tschTiming : Option Nat
  linksList : List Nat
deriving DecidableEq, Repr, Inhabited

inductive MacTxStatus where
  | ok
  | collision
  | noack
  | deferred
  | err
  | errFatal
deriving DecidableEq, Repr, Inhabited

structure Queuebuf where
  data : List UInt8
  attrTschSlotframe : UInt16
  attrTschTimeslot : UInt16
  attrSecurityLevel : UInt8
deriving DecidableEq, Repr, Inhabited

/-- `struct tsch_packet`; a callback function is named by a number. `uid` numbers the packets accepted
by `tsch_queue_add_packet`; the code has no such field and no function of the model branches on it. -/
structure TschPacket where
  qb : Option Queuebuf
  sent : Option Nat
  ptr : Nat
  transmissions : UInt8
  maxTransmissions : UInt8
  ret : MacTxStatus
  headerLen : UInt8
  tschSyncIeOffset : UInt8
  uid : Nat
deriving DecidableEq, Repr, Inhabited

structure TschNeighbor where
  addr : LinkAddr
  isBroadcast : Bool
  isTimeSource : Bool
  backoffExponent : UInt8
  backoffWindow : UInt8
  txLinksCount : UInt8
  dedicatedTxLinksCount : UInt8
  txArray : Nat → Option Nat
  txRingbuf : RingBufIndex

instance : Inhabited TschNeighbor :=
  ⟨⟨linkaddrNull, false, false, 0, 0, 0, 0, fun _ => none, default⟩⟩

inductive NetstackRadio where
  | multiradio
  | driver (radio : RadioDriver)
deriving DecidableEq, Repr

/-- The compile-time configuration. The proofs are the `#error` checks of
`tsch-queue.c` and `tsch-slot-operation.c`. -/
structure TschConf where
  scheduleMaxLinks : Nat
  scheduleMaxSlotframes : Nat
  scheduleDefaultLength : UInt16
  queuebufNum : Nat
  queueNumPerNeighbor : Nat
  queueNumPerNeighbor_power : ∃ exponent, queueNumPerNeighbor = 2 ^ exponent
  queueMaxNeighborQueues : Nat
  dequeuedArraySize : Nat
  dequeuedArraySize_power : ∃ exponent, dequeuedArraySize = 2 ^ exponent
  queuebufNum_le : queuebufNum ≤ dequeuedArraySize
  macMinBe : UInt8
  macMaxBe : UInt8
  burstMaxLen : Int
  withLinkSelector : Bool
  llsecEnabled : Bool
  netstackRadio : NetstackRadio
  withMultiradio : Bool
  multiradioDrivers : List RadioDriver
  withCc1200Reconf : Bool
  noHoppingSequence : Bool
  cc1200ConfRfCfg : Cc1200RfCfg
  timeslotLength : UInt32
  desyncThresholdSlots : UInt32
  rtimerGuard : UInt32
  adaptiveTimesync : Bool
  baseDriftPpm : Int
  slotsPerSecond : UInt32
  syncIeBound : Int32
  syncWithLowerNodeId : Bool
  linkaddrNodeAddr : LinkAddr

def cc1200Conf : TschConf :=
  { scheduleMaxLinks := 32
    scheduleMaxSlotframes := 4
    scheduleDefaultLength := 7
    queuebufNum := 4
    queueNumPerNeighbor := 4
    queueNumPerNeighbor_power := ⟨2, rfl⟩
    queueMaxNeighborQueues := 4
    dequeuedArraySize := 4
    dequeuedArraySize_power := ⟨2, rfl⟩
    queuebufNum_le := by decide
    macMinBe := 1
    macMaxBe := 5
    burstMaxLen := 32
    withLinkSelector := false
    llsecEnabled := false
    netstackRadio := .driver .cc1200
    withMultiradio := false
    multiradioDrivers := []
    withCc1200Reconf := true
    noHoppingSequence := false
    cc1200ConfRfCfg := ⟨0, 33, by decide⟩
    timeslotLength := 328
    desyncThresholdSlots := 2997
    rtimerGuard := 2
    adaptiveTimesync := true
    baseDriftPpm := 0
    slotsPerSecond := 100
    syncIeBound := 18
    syncWithLowerNodeId := false
    linkaddrNodeAddr := Vector.replicate 8 1 }

end MultiPhyTsch
