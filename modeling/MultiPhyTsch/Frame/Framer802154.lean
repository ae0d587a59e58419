import MultiPhyTsch.Frame.Frame802154

/-! `framer_802154` of `framer-802154.c` over the packet buffer of `packetbuf.c`. The branches
under `LLSEC802154_USES_FRAME_COUNTER` name attributes that `packetbuf.h` does not have, so
that option is off. -/

namespace MultiPhyTsch

structure PacketbufAttrs where
  macSeqno : UInt16
  macAck : UInt16
  macMetadata : UInt16
  macNoSrcAddr : UInt16
  macNoDestAddr : UInt16
  frameType : UInt16
  securityLevel : UInt16
  keyIdMode : UInt16
  keyIndex : UInt16
deriving DecidableEq, Repr, Inhabited

structure Packetbuf where
  hdr : List UInt8
  data : List UInt8
  attrs : PacketbufAttrs
  sender : LinkAddr
  receiver : LinkAddr
deriving DecidableEq, Repr

structure FramerConf where
  llsec : LlsecConf
  frameVersion : UInt8
  supprSeqno : Bool
  packetbufSize : Nat
  versionKnown : frameVersion ≤ ieee802154of2015
deriving DecidableEq, Repr

def packetbufClear : Packetbuf := ⟨[], [], ⟨0, 0, 0, 0, 0, 0, 0, 0, 0⟩, linkaddrNull, linkaddrNull⟩

variable (packetbuf : Packetbuf)

def packetbufTotlen : Nat := packetbuf.hdr.length + packetbuf.data.length

def packetbufFrame : List UInt8 := packetbuf.hdr ++ packetbuf.data

def packetbufHoldsBroadcast : Bool := packetbuf.receiver == linkaddrNull

variable (conf : FramerConf)

def packetbufCopyfrom (bytes : List UInt8) : Packetbuf :=
  { packetbufClear with data := bytes.take conf.packetbufSize }

def packetbufHdralloc (header : List UInt8) (packetbuf : Packetbuf) : Option Packetbuf :=
  if header.length + packetbufTotlen packetbuf > conf.packetbufSize then none
  else some { packetbuf with hdr := header ++ packetbuf.hdr }

def packetbufHdrreduce (size : Nat) (packetbuf : Packetbuf) : Option Packetbuf :=
  if packetbuf.data.length < size then none
  else some { packetbuf with
    hdr := packetbuf.hdr ++ packetbuf.data.take size
    data := packetbuf.data.drop size }

def setupSecurity (attrs : PacketbufAttrs) (params : Frame802154) : Frame802154 :=
  if conf.llsec.usesAuxHeader then
    { params with
      fcf := { params.fcf with securityEnabled :=
        if attrs.securityLevel ≠ 0 then 1 else params.fcf.securityEnabled }
      auxHdr := { params.auxHdr with
        securityControl := ⟨attrs.securityLevel.toUInt8,
          if conf.llsec.usesExplicitKeys then attrs.keyIdMode.toUInt8
            else params.auxHdr.securityControl.keyIdMode, 1, 1⟩
        keyIndex := if conf.llsec.usesExplicitKeys then attrs.keyIndex.toUInt8
          else params.auxHdr.keyIndex } }
  else { params with fcf := { params.fcf with securityEnabled := 0 } }

def framer802154SetupParams (panId : UInt16) (attrs : PacketbufAttrs) (destIsBroadcast : Bool)
    (params : Frame802154) : Frame802154 :=
  let params := setupSecurity conf attrs params
  let srcAddrMode := if attrs.macNoSrcAddr = 1 then noAddr else longAddrMode
  let destAddrMode :=
    if attrs.macNoDestAddr = 1 then noAddr
    else if destIsBroadcast then shortAddrMode else longAddrMode
  { params with
    fcf := { params.fcf with
      frameType := attrs.frameType.toUInt8
      framePending := 0
      ackRequired := if destIsBroadcast then 0 else attrs.macAck.toUInt8
      sequenceNumberSuppression :=
        if destIsBroadcast then if ieee802154of2015 ≤ conf.frameVersion then 1 else 0
        else if conf.supprSeqno then 1 else 0
      ieListPresent := attrs.macMetadata.toUInt8
      frameVersion := conf.frameVersion
      srcAddrMode := srcAddrMode
      destAddrMode := destAddrMode
      panidCompression :=
        if srcAddrMode = shortAddrMode ∨ destAddrMode = shortAddrMode then 1 else 0 }
    seq := attrs.macSeqno.toUInt8
    srcPid := panId
    destPid := panId }

def frame802154Zero : Frame802154 :=
  ⟨linkaddrNull, linkaddrNull, ⟨0, 0, 0, 0, 0, 0, 0, 0, 0, 0⟩, 0, 0, 0,
    ⟨⟨0, 0, 0, 0⟩, Vector.replicate 4 0, Vector.replicate 8 0, 0⟩, [], 0⟩

def createFrameParams (panId : UInt16) (packetbuf : Packetbuf) : Frame802154 :=
  let broadcast := packetbufHoldsBroadcast packetbuf
  { framer802154SetupParams conf panId packetbuf.attrs broadcast frame802154Zero with
    destAddr := if broadcast then #v[0xff, 0xff, 0, 0, 0, 0, 0, 0] else packetbuf.receiver
    srcAddr := packetbuf.sender
    payload := packetbuf.data
    payloadLen := packetbuf.data.length }

/-- The `create` function of the framer on a node of PAN `panId`: the length of the header
and the packet buffer, none when it fails. -/
def framer802154Create (panId : UInt16) (packetbuf : Packetbuf) : Option (Nat × Packetbuf) :=
  if panId = 0xffff then none
  else
    let params := createFrameParams conf panId packetbuf
    let hdrLen := frame802154Hdrlen conf.llsec params
    (packetbufHdralloc conf (frame802154Create conf.llsec 0 params).2 packetbuf).map fun created =>
      (hdrLen, created)

def parsedAttrs (frame : Frame802154) (attrs : PacketbufAttrs) : PacketbufAttrs :=
  let attrs := { attrs with
    frameType := frame.fcf.frameType.toUInt16
    macSeqno := if frame.fcf.sequenceNumberSuppression = 0 then frame.seq.toUInt16 else 0xffff }
  if conf.llsec.usesAuxHeader && frame.fcf.securityEnabled != 0 then
    { attrs with
      securityLevel := frame.auxHdr.securityControl.securityLevel.toUInt16
      keyIdMode := if conf.llsec.usesExplicitKeys then
        frame.auxHdr.securityControl.keyIdMode.toUInt16 else attrs.keyIdMode
      keyIndex := if conf.llsec.usesExplicitKeys then frame.auxHdr.keyIndex.toUInt16
        else attrs.keyIndex }
  else attrs

/-- The `parse` function of the framer: the length of the header, none for `FRAMER_FAILED`,
the packet buffer and the parsed frame. `stack` is what the local frame holds before. -/
def framer802154Parse (panId : UInt16) (stack : Frame802154) (packetbuf : Packetbuf) :
    Option Nat × Packetbuf × Frame802154 :=
  let (hdrLen, frame) := frame802154Parse conf.llsec packetbuf.data stack
  if hdrLen = 0 then (none, packetbuf, frame)
  else
    match packetbufHdrreduce hdrLen packetbuf with
    | none => (none, packetbuf, frame)
    | some packetbuf =>
      let typed := { packetbuf with attrs := { packetbuf.attrs with
        frameType := frame.fcf.frameType.toUInt16 } }
      if frame.fcf.destAddrMode ≠ 0 ∧ frame.destPid ≠ panId ∧ frame.destPid ≠ broadcastPanId then
        (none, typed, frame)
      else
        (some hdrLen, { typed with
          attrs := parsedAttrs conf frame packetbuf.attrs
          receiver :=
            if frame.fcf.destAddrMode ≠ 0 ∧
                ¬ frame802154IsBroadcastAddr frame.fcf.destAddrMode frame.destAddr then
              frame.destAddr else packetbuf.receiver
          sender := frame.srcAddr }, frame)

end MultiPhyTsch
