import MultiPhyTsch.Frame.Framer802154
import MultiPhyTsch.Tsch.Schedule
import MultiPhyTsch.Tsch.Security

/-! `tsch-packet.c`: the frames TSCH builds and reads itself. -/

namespace MultiPhyTsch

open Security

/-- The macros that choose the elements of a beacon: `TSCH_PACKET_IE_ELIDED`,
`TSCH_PACKET_IE_INLINE` and the `TSCH_PACKET_EB_WITH_…`. A macro without a definition is 0, as
the preprocessor has it. -/
structure EbConf where
  ieElided : Int := 0
  ieInline : Int := 0
  withTimeslotTiming : Int := 0
  withHoppingSequence : Int := 0
  withSlotframeAndLink : Int := 0
  withPayloadIeListTermination : Int := 0
deriving DecidableEq, Repr

/-- The build options of `tsch-packet.c`. Security is there when `LLSEC802154_ENABLED` is. The
proofs are the `#error` checks of `tsch.c` and `tsch-security.h`. -/
structure PacketConf where
  framer : FramerConf
  ie : IeConf
  security : Option SecurityConf
  eackWithDestAddr : Bool
  eackWithSrcAddr : Bool
  eb : EbConf
  rtimerticksToUs : UInt32 → UInt16
  version : framer.frameVersion = ieee802154of2015
  explicitKeys : security.isSome → framer.llsec = securityLlsec

def unsecuredPackets (eb : EbConf) : PacketConf where
  framer := ⟨⟨false, false⟩, ieee802154of2015, false, 128, UInt8.le_refl ieee802154of2015⟩
  ie := ⟨16, false⟩
  security := none
  eackWithDestAddr := true
  eackWithSrcAddr := false
  eb := eb
  rtimerticksToUs := UInt32.toUInt16
  version := rfl
  explicitKeys := fun absent => absurd absent Bool.false_ne_true

variable (conf : PacketConf)

def eackbufAttrs (isPanSecured : Bool) (seqno : UInt8) : PacketbufAttrs :=
  let attrs : PacketbufAttrs :=
    { (default : PacketbufAttrs) with
      frameType := ackFrame.toUInt16
      macMetadata := 1
      macSeqno := seqno.toUInt16
      macNoDestAddr := if conf.eackWithDestAddr then 0 else 1
      macNoSrcAddr := if conf.eackWithSrcAddr then 0 else 1 }
  match conf.security with
  | none => attrs
  | some security =>
    if isPanSecured then
      { attrs with
        securityLevel := security.ack.level.toUInt16
        keyIdMode := 1
        keyIndex := security.ack.keyIndex.toUInt16 }
    else attrs

/-- `tsch_packet_create_eack` with a buffer of `bufLen` bytes: the ACK, none for -1. The local
`params` is not initialised. -/
def tschPacketCreateEack (panId : UInt16) (isPanSecured : Bool) (nodeAddr : LinkAddr) (bufLen : Int)
    (destAddr : LinkAddr) (seqno : UInt8) (drift : Int16) (nack : Bool) (params : Frame802154) :
    Option (List UInt8) :=
  let params := if conf.eackWithDestAddr then { params with destAddr := destAddr } else params
  let params := if conf.eackWithSrcAddr then { params with srcAddr := nodeAddr } else params
  let params := framer802154SetupParams conf.framer panId (eackbufAttrs conf isPanSecured seqno)
    false params
  let hdrLen := frame802154Hdrlen conf.framer.llsec params
  let ies := { iesZero conf.ie with ieTimeCorrection := drift, ieIsNack := nack }
  (createIeHeaderAckNackTimeCorrection (bufLen - hdrLen) ies).map fun element =>
    (frame802154Create conf.framer.llsec 0 params).2 ++ element

def packetbufRemaininglen (packetbuf : Packetbuf) : Int :=
  ((conf.framer.packetbufSize : Int) - packetbufTotlen packetbuf) % 65536

/-- What `tsch_packet_create_eb` reads of the node. `timing` is the array `tsch_timing` points
to. -/
structure EbSource where
  node : Node
  timing : Vector UInt32 12
  panId : UInt16
  nodeAddr : LinkAddr

def EbConf.includes (eb : EbConf) (option : Int) : Bool := eb.ieElided < option

def EbConf.inlines (eb : EbConf) (option : Int) : Bool := eb.includes option && option == eb.ieInline

variable (source : EbSource)

variable (ies : Ieee802154Ies)

def ebTimeslot : Ieee802154Ies :=
  if conf.eb.inlines conf.eb.withTimeslotTiming then
    { ies with
      ieTschTimeslotId := 1
      ieTschTimeslot := source.timing.map conf.rtimerticksToUs }
  else ies

def ebHoppingSequence : Ieee802154Ies :=
  let length := source.node.mac.tschHoppingSequenceLength.val
  if conf.eb.inlines conf.eb.withHoppingSequence && length.toNat ≤ conf.ie.hoppingSequenceMaxLen then
    { ies with
      ieChannelHoppingSequenceId := 1
      ieHoppingSequenceLen := length
      ieHoppingSequenceList :=
        (List.range length.toNat).map (source.node.mac.tschHoppingSequence.getD · 0) ++
          ies.ieHoppingSequenceList.drop length.toNat }
  else ies

def ebSlotframeAndLink : Ieee802154Ies :=
  let sf0 := tschScheduleGetSlotframeByHandle 0 source.node
  let link0 := tschScheduleGetLinkByTimeslot sf0 0 source.node
  match conf.eb.inlines conf.eb.withSlotframeAndLink, sf0, link0 with
  | true, some sf0, some link0 =>
    let link := source.node.link link0
    { ies with ieTschSlotframeAndLink :=
      { numSlotframes := 1
        slotframeHandle := (source.node.slotframe sf0).handle.toUInt8
        slotframeSize := (source.node.slotframe sf0).size.val
        numLinks := 1
        links := ies.ieTschSlotframeAndLink.links.set 0
          ⟨link.timeslot, link.channelOffset, link.linkOptions⟩ } }
  | _, _, _ => ies

def ebIes : Ieee802154Ies :=
  ebSlotframeAndLink conf source (ebHoppingSequence conf source (ebTimeslot conf source (iesZero conf.ie)))

inductive EbElement where
  | synchronization
  | timeslot
  | hoppingSequence
  | slotframeAndLink
  | payloadListTermination
deriving DecidableEq, Repr

def EbElement.create (ies : Ieee802154Ies) (len : Int) : EbElement → Option (List UInt8)
  | .synchronization => createIeTschSynchronization len ies
  | .timeslot => createIeTschTimeslot len ies
  | .hoppingSequence => createIeTschChannelHoppingSequence conf.ie len ies
  | .slotframeAndLink => createIeTschSlotframeAndLink len ies
  | .payloadListTermination => createIePayloadListTermination len

def ebElements (eb : EbConf) : List EbElement :=
  [.synchronization] ++
  (if eb.includes eb.withTimeslotTiming then [.timeslot] else []) ++
  (if eb.includes eb.withHoppingSequence then [.hoppingSequence] else []) ++
  (if eb.includes eb.withSlotframeAndLink then [.slotframeAndLink] else []) ++
  (if eb.includes eb.withPayloadIeListTermination then [.payloadListTermination] else [])

def appendElement (ies : Ieee802154Ies) (packetbuf : Packetbuf) (element : EbElement) :
    Option Packetbuf :=
  (element.create conf ies (packetbufRemaininglen conf packetbuf)).map fun bytes =>
    { packetbuf with data := packetbuf.data ++ bytes }

def prependMlme (ies : Ieee802154Ies) (packetbuf : Packetbuf) : Option Packetbuf :=
  let mlmeLen := UInt16.ofNat packetbuf.data.length
  let moved := { packetbuf with data := packetbuf.data.take 2 ++ packetbuf.data }
  (createIeMlme (packetbufRemaininglen conf moved) { ies with ieMlmeLen := mlmeLen }).map fun bytes =>
    { moved with data := bytes ++ packetbuf.data }

/-- The end of the header IEs. Whether there is room for it is not checked; without room it
overwrites the start of the buffer. -/
def prependListTermination (packetbuf : Packetbuf) : Option Packetbuf :=
  match packetbufHdralloc conf.framer [0, 0] packetbuf with
  | some packetbuf =>
    (createIeHeaderListTermination1 (packetbufRemaininglen conf packetbuf)).map fun bytes =>
      { packetbuf with hdr := bytes }
  | none =>
    (createIeHeaderListTermination1 (packetbufRemaininglen conf packetbuf)).map fun bytes =>
      { packetbuf with data := bytes ++ packetbuf.data.drop 2 }

def ebAttrs (isPanSecured : Bool) : PacketbufAttrs :=
  let attrs : PacketbufAttrs :=
    { (default : PacketbufAttrs) with frameType := beaconFrame.toUInt16, macMetadata := 1 }
  match conf.security with
  | none => attrs
  | some security =>
    if isPanSecured then
      { attrs with
        securityLevel := security.eb.level.toUInt16
        keyIdMode := 1
        keyIndex := security.eb.keyIndex.toUInt16 }
    else attrs

/-- `tsch_packet_create_eb`: the packet buffer, the header length and the offset of the
synchronization IE, none for -1. -/
def tschPacketCreateEb (source : EbSource) : Option (Packetbuf × UInt8 × UInt8) := do
  let ies := ebIes conf source
  let packetbuf ← (ebElements conf.eb).foldlM (appendElement conf ies) packetbufClear
  let packetbuf ← prependMlme conf ies packetbuf
  let packetbuf ← prependListTermination conf packetbuf
  let (_, packetbuf) ← framer802154Create conf.framer source.panId { packetbuf with
    attrs := ebAttrs conf source.node.mac.tschIsPanSecured
    sender := source.nodeAddr
    receiver := tschEbAddress }
  some (packetbuf, UInt8.ofNat packetbuf.hdr.length, UInt8.ofNat packetbuf.hdr.length + 2)

/-- `tsch_packet_update_eb`: the frame with its synchronization IE written anew, none for 0. -/
def tschPacketUpdateEb (asn : TschAsn) (joinPriority : UInt8) (buf : List UInt8)
    (tschSyncIeOffset : UInt8) (ies : Ieee802154Ies) : Option (List UInt8) :=
  let offset := tschSyncIeOffset.toNat
  (createIeTschSynchronization ((buf.length : Int) - offset)
    { ies with ieAsn := asn, ieJoinPriority := joinPriority }).map fun bytes =>
      buf.take offset ++ bytes ++ buf.drop (offset + bytes.length)

structure EbParsed where
  value : UInt8
  frame : Frame802154
  ies : Ieee802154Ies
  hdrLen : UInt8

/-- `tsch_packet_parse_eb` on a frame of `bufSize` bytes in a memory that goes on behind it.
`frame`, `ies` and `hdrLen` are the variables of the caller before the call. -/
def tschPacketParseEb (buf : List UInt8) (bufSize : Nat) (frame : Frame802154) (ies : Ieee802154Ies)
    (hdrLen : UInt8) (frameWithoutMic : Bool) : EbParsed :=
  let (ret, frame) := frame802154Parse conf.framer.llsec (buf.take bufSize) frame
  if ret = 0 then ⟨0, frame, ies, hdrLen⟩
  else if frame.fcf.frameVersion < ieee802154of2015 ∨ frame.fcf.frameType ≠ beaconFrame then
    ⟨0, frame, ies, hdrLen⟩
  else
    let ies := { iesZero conf.ie with ieJoinPriority := 0xff }
    if frame.fcf.ieListPresent ≠ 0 then
      let micLen :=
        if conf.security.isSome && !frameWithoutMic then tschSecurityMicLen frame else 0
      if bufSize < ret + micLen then ⟨0, frame, ies, UInt8.ofNat ret⟩
      else
        let (value, ies) := frame802154eParseInformationElements conf.ie (buf.drop ret)
          (UInt8.ofNat (bufSize - ret - micLen)) ies
        if value = -1 then ⟨0, frame, ies, UInt8.ofNat ret⟩
        else ⟨UInt8.ofNat (ret + value.toNat), frame, ies, UInt8.ofNat ret + ies.iePayloadIeOffset⟩
    else ⟨UInt8.ofNat ret, frame, ies, UInt8.ofNat ret⟩

end MultiPhyTsch
