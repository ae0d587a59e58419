import MultiPhyTsch.Lib.Cursor
import MultiPhyTsch.Tsch.Types

/-! The 802.15.4 frame format of `frame802154.c`. A byte string is the list of its bytes; the
parser reads past its end only in frames it rejects, and reads 0 there. `LINKADDR_SIZE` is 8. -/

namespace MultiPhyTsch

structure LlsecConf where
  usesAuxHeader : Bool
  usesExplicitKeys : Bool
deriving DecidableEq, Repr

def beaconFrame : UInt8 := 0
def dataFrame : UInt8 := 1
def ackFrame : UInt8 := 2

def noAddr : UInt8 := 0
def shortAddrMode : UInt8 := 2
def longAddrMode : UInt8 := 3

def broadcastPanId : UInt16 := 0xffff

def ieee802154of2015 : UInt8 := 2

structure Frame802154Fcf where
  frameType : UInt8
  securityEnabled : UInt8
  framePending : UInt8
  ackRequired : UInt8
  panidCompression : UInt8
  sequenceNumberSuppression : UInt8
  ieListPresent : UInt8
  destAddrMode : UInt8
  frameVersion : UInt8
  srcAddrMode : UInt8
deriving DecidableEq, Repr, Inhabited

structure Frame802154Scf where
  securityLevel : UInt8
  keyIdMode : UInt8
  frameCounterSuppression : UInt8
  frameCounterSize : UInt8
deriving DecidableEq, Repr, Inhabited

structure Frame802154AuxHdr where
  securityControl : Frame802154Scf
  frameCounter : Vector UInt8 4
  keySource : Vector UInt8 8
  keyIndex : UInt8
deriving DecidableEq, Repr, Inhabited

structure Frame802154 where
  destAddr : LinkAddr
  srcAddr : LinkAddr
  fcf : Frame802154Fcf
  seq : UInt8
  destPid : UInt16
  srcPid : UInt16
  auxHdr : Frame802154AuxHdr
  payload : List UInt8
  payloadLen : Int
deriving DecidableEq, Repr, Inhabited

def addrLen (mode : UInt8) : Nat :=
  if mode = shortAddrMode then 2 else if mode = longAddrMode then 8 else 0

def getKeyIdLen (keyIdMode : UInt8) : Nat :=
  if keyIdMode = 1 then 1 else if keyIdMode = 2 then 5 else if keyIdMode = 3 then 9 else 0

def hasDestPanid (fcf : Frame802154Fcf) : Bool :=
  if fcf.frameVersion = ieee802154of2015 then
    (fcf.destAddrMode == noAddr && fcf.srcAddrMode == noAddr && fcf.panidCompression == 1) ||
    (fcf.destAddrMode != noAddr && fcf.srcAddrMode == noAddr && fcf.panidCompression == 0) ||
    (fcf.destAddrMode == longAddrMode && fcf.srcAddrMode == longAddrMode &&
      fcf.panidCompression == 0) ||
    (fcf.destAddrMode == shortAddrMode && fcf.srcAddrMode != noAddr) ||
    (fcf.destAddrMode != noAddr && fcf.srcAddrMode == shortAddrMode)
  else fcf.frameType != ackFrame && fcf.destAddrMode &&& 3 != 0

def hasSrcPanid (fcf : Frame802154Fcf) : Bool :=
  if fcf.frameVersion = ieee802154of2015 then
    fcf.panidCompression == 0 &&
    ((fcf.destAddrMode == noAddr && fcf.srcAddrMode == longAddrMode) ||
     (fcf.destAddrMode == noAddr && fcf.srcAddrMode == shortAddrMode) ||
     (fcf.destAddrMode == shortAddrMode && fcf.srcAddrMode == shortAddrMode) ||
     (fcf.destAddrMode == shortAddrMode && fcf.srcAddrMode == longAddrMode) ||
     (fcf.destAddrMode == longAddrMode && fcf.srcAddrMode == shortAddrMode))
  else fcf.frameType != ackFrame && fcf.panidCompression == 0 && fcf.srcAddrMode &&& 3 != 0

def frame802154CheckDestPanid (panId : UInt16) (frame : Frame802154) : Bool :=
  !(hasDestPanid frame.fcf && frame.destPid != panId && frame.destPid != broadcastPanId)

def frame802154IsBroadcastAddr (mode : UInt8) (addr : LinkAddr) : Bool :=
  (addr.toList.take (if mode = shortAddrMode then 2 else 8)).all (· == 0xff)

/-- One half of `frame802154_extract_linkaddr`: the address of a field with its mode. -/
def extractAddr (mode : UInt8) (addr : LinkAddr) : Option LinkAddr :=
  let length := if mode = noAddr then 0 else if mode = shortAddrMode then 2 else 8
  if length = 0 || frame802154IsBroadcastAddr mode addr then some linkaddrNull
  else if length ≠ 8 then none
  else some addr

def frame802154ExtractLinkaddr (frame : Frame802154) : Option (LinkAddr × LinkAddr) :=
  match extractAddr frame.fcf.srcAddrMode frame.srcAddr with
  | none => none
  | some source =>
    (extractAddr frame.fcf.destAddrMode frame.destAddr).map fun dest => (source, dest)

structure FieldLength where
  seqnoLen : Nat
  destPidLen : Nat
  destAddrLen : Nat
  srcPidLen : Nat
  srcAddrLen : Nat
  auxSecLen : Nat
deriving DecidableEq, Repr

/-- The part of `field_len` that writes to the frame: before 802.15.4-2015 the PAN ID
compression bit is not the caller's choice. -/
def setPanidCompression (frame : Frame802154) : Frame802154 :=
  if frame.fcf.frameVersion < ieee802154of2015 then
    { frame with fcf := { frame.fcf with panidCompression :=
      if frame.fcf.destAddrMode &&& 3 ≠ 0 ∧ frame.fcf.srcAddrMode &&& 3 ≠ 0 ∧
          frame.srcPid = frame.destPid then 1 else 0 } }
  else frame

def auxSecLen (conf : LlsecConf) (frame : Frame802154) : Nat :=
  if conf.usesAuxHeader && frame.fcf.securityEnabled &&& 1 != 0 then
    let control := frame.auxHdr.securityControl
    1 + (if control.frameCounterSuppression = 0 then
          if control.frameCounterSize = 1 then 5 else 4 else 0) +
      (if conf.usesExplicitKeys then getKeyIdLen control.keyIdMode else 0)
  else 0

def fieldLen (conf : LlsecConf) (frame : Frame802154) : FieldLength :=
  { seqnoLen := if frame.fcf.sequenceNumberSuppression &&& 1 = 0 then 1 else 0
    destPidLen := if hasDestPanid frame.fcf then 2 else 0
    destAddrLen := addrLen (frame.fcf.destAddrMode &&& 3)
    srcPidLen := if hasSrcPanid frame.fcf then 2 else 0
    srcAddrLen := addrLen (frame.fcf.srcAddrMode &&& 3)
    auxSecLen := auxSecLen conf frame }

def frame802154Hdrlen (conf : LlsecConf) (frame : Frame802154) : Nat :=
  let flen := fieldLen conf (setPanidCompression frame)
  2 + flen.seqnoLen + flen.destPidLen + flen.destAddrLen + flen.srcPidLen + flen.srcAddrLen +
    flen.auxSecLen

def bitField (value mask position : UInt8) : UInt8 := (value &&& mask) <<< position

def frame802154CreateFcf (fcf : Frame802154Fcf) : List UInt8 :=
  [bitField fcf.frameType 7 0 ||| bitField fcf.securityEnabled 1 3 |||
      bitField fcf.framePending 1 4 ||| bitField fcf.ackRequired 1 5 |||
      bitField fcf.panidCompression 1 6,
    bitField fcf.sequenceNumberSuppression 1 0 ||| bitField fcf.ieListPresent 1 1 |||
      bitField fcf.destAddrMode 3 2 ||| bitField fcf.frameVersion 3 4 |||
      bitField fcf.srcAddrMode 3 6]

def write16 (value : UInt16) : List UInt8 := [value.toUInt8, (value >>> 8).toUInt8]

def createSeqno (length : Nat) (seq : UInt8) : List UInt8 := if length = 1 then [seq] else []

def createPid (length : Nat) (pid : UInt16) : List UInt8 :=
  if length = 2 then write16 pid else []

def createAddr (length : Nat) (addr : LinkAddr) : List UInt8 := (addr.toList.take length).reverse

def createScf (conf : LlsecConf) (control : Frame802154Scf) : UInt8 :=
  control.securityLevel ||| (if conf.usesExplicitKeys then control.keyIdMode <<< 3 else 0) |||
    (control.frameCounterSuppression <<< 5) ||| (control.frameCounterSize <<< 6)

/-- A 5-byte frame counter leaves its last byte as it is in the buffer, `skipped`. -/
def createFrameCounter (skipped : UInt8) (aux : Frame802154AuxHdr) : List UInt8 :=
  if aux.securityControl.frameCounterSuppression = 0 then
    aux.frameCounter.toList ++ (if aux.securityControl.frameCounterSize = 1 then [skipped] else [])
  else []

variable (conf : LlsecConf)

def createKeyId (aux : Frame802154AuxHdr) : List UInt8 :=
  if conf.usesExplicitKeys && aux.securityControl.keyIdMode != 0 then
    aux.keySource.toList.take ((aux.securityControl.keyIdMode.toNat - 1) * 4) ++ [aux.keyIndex]
  else []

def createAuxFields (skipped : UInt8) (aux : Frame802154AuxHdr) : List UInt8 :=
  createScf conf aux.securityControl :: (createFrameCounter skipped aux ++ createKeyId conf aux)

def createAuxHdr (skipped : UInt8) (length : Nat) (aux : Frame802154AuxHdr) :
    List UInt8 :=
  if length ≠ 0 then createAuxFields conf skipped aux else []

/-- `frame802154_create`: the frame as the call leaves it and the header it writes. -/
def frame802154Create (skipped : UInt8) (frame : Frame802154) :
    Frame802154 × List UInt8 :=
  let frame := setPanidCompression frame
  let flen := fieldLen conf frame
  (frame,
    frame802154CreateFcf frame.fcf ++
    createSeqno flen.seqnoLen frame.seq ++
    createPid flen.destPidLen frame.destPid ++
    createAddr flen.destAddrLen frame.destAddr ++
    createPid flen.srcPidLen frame.srcPid ++
    createAddr flen.srcAddrLen frame.srcAddr ++
    createAuxHdr conf skipped flen.auxSecLen frame.auxHdr)

def frame802154ParseFcf (byte0 byte1 : UInt8) : Frame802154Fcf :=
  { frameType := byte0 &&& 7
    securityEnabled := (byte0 >>> 3) &&& 1
    framePending := (byte0 >>> 4) &&& 1
    ackRequired := (byte0 >>> 5) &&& 1
    panidCompression := (byte0 >>> 6) &&& 1
    sequenceNumberSuppression := byte1 &&& 1
    ieListPresent := (byte1 >>> 1) &&& 1
    destAddrMode := (byte1 >>> 2) &&& 3
    frameVersion := (byte1 >>> 4) &&& 3
    srcAddrMode := (byte1 >>> 6) &&& 3 }

def read16 (low high : UInt8) : UInt16 := low.toUInt16 + (high.toUInt16 <<< 8)

def parseAddr (mode : UInt8) (p : Cursor UInt8) (addr : LinkAddr) : LinkAddr × Cursor UInt8 :=
  if mode = shortAddrMode then (#v[p.peek 1, p.peek 0, 0, 0, 0, 0, 0, 0], p.skip 2)
  else if mode = longAddrMode then (Vector.ofFn fun index => p.peek (7 - index), p.skip 8)
  else (addr, p)

def parseSeqno (p : Cursor UInt8) (pf : Frame802154) : Frame802154 × Cursor UInt8 :=
  if pf.fcf.sequenceNumberSuppression = 0 then ({ pf with seq := p.peek 0 }, p.skip 1) else (pf, p)

def parseDest (p : Cursor UInt8) (pf : Frame802154) : Frame802154 × Cursor UInt8 :=
  if pf.fcf.destAddrMode ≠ 0 then
    let (destPid, p) := if hasDestPanid pf.fcf then (read16 (p.peek 0) (p.peek 1), p.skip 2)
      else (0, p)
    let (destAddr, p) := parseAddr pf.fcf.destAddrMode p pf.destAddr
    ({ pf with destPid := destPid, destAddr := destAddr }, p)
  else ({ pf with destPid := 0, destAddr := linkaddrNull }, p)

def parseSrc (p : Cursor UInt8) (pf : Frame802154) : Frame802154 × Cursor UInt8 :=
  if pf.fcf.srcAddrMode ≠ 0 then
    let (srcPid, destPid, p) :=
      if hasSrcPanid pf.fcf then
        let srcPid := read16 (p.peek 0) (p.peek 1)
        (srcPid, if hasDestPanid pf.fcf then pf.destPid else srcPid, p.skip 2)
      else (pf.destPid, pf.destPid, p)
    let (srcAddr, p) := parseAddr pf.fcf.srcAddrMode p pf.srcAddr
    ({ pf with srcPid := srcPid, destPid := destPid, srcAddr := srcAddr }, p)
  else ({ pf with srcPid := 0, srcAddr := linkaddrNull }, p)

/-- The security control byte. The counter suppression and size are shifted down but, unlike
the level and the key mode, not masked. -/
def parseScf (conf : LlsecConf) (byte : UInt8) (control : Frame802154Scf) : Frame802154Scf :=
  { securityLevel := byte &&& 7
    keyIdMode := if conf.usesExplicitKeys then (byte >>> 3) &&& 3 else control.keyIdMode
    frameCounterSuppression := byte >>> 5
    frameCounterSize := byte >>> 6 }

def parseFrameCounter (p : Cursor UInt8) (aux : Frame802154AuxHdr) :
    Frame802154AuxHdr × Cursor UInt8 :=
  if aux.securityControl.frameCounterSuppression = 0 then
    ({ aux with frameCounter := Vector.ofFn fun index => p.peek index },
      if aux.securityControl.frameCounterSize = 1 then p.skip 5 else p.skip 4)
  else (aux, p)

variable (conf : LlsecConf)

def parseKeyId (p : Cursor UInt8) (aux : Frame802154AuxHdr) :
    Frame802154AuxHdr × Cursor UInt8 :=
  if conf.usesExplicitKeys && aux.securityControl.keyIdMode != 0 then
    let count := (aux.securityControl.keyIdMode.toNat - 1) * 4
    ({ aux with
      keySource := Vector.ofFn fun index =>
        if index < count then p.peek index else aux.keySource.get index
      keyIndex := p.peek count }, p.skip (count + 1))
  else (aux, p)

def parseAuxFields (p : Cursor UInt8) (aux : Frame802154AuxHdr) :
    Frame802154AuxHdr × Cursor UInt8 :=
  let aux := { aux with securityControl := parseScf conf (p.peek 0) aux.securityControl }
  let (aux, p) := parseFrameCounter (p.skip 1) aux
  parseKeyId conf p aux

def parseAuxHdr (p : Cursor UInt8) (pf : Frame802154) :
    Frame802154 × Cursor UInt8 :=
  if conf.usesAuxHeader && pf.fcf.securityEnabled != 0 then
    let (aux, p) := parseAuxFields conf p pf.auxHdr
    ({ pf with auxHdr := aux }, p)
  else (pf, p)

def parseHeader (data : List UInt8) (pf : Frame802154) :
    Frame802154 × Cursor UInt8 :=
  let p := Cursor.start data
  let pf := { pf with fcf := frame802154ParseFcf (p.peek 0) (p.peek 1) }
  let (pf, p) := parseSeqno (p.skip 2) pf
  let (pf, p) := parseDest p pf
  let (pf, p) := parseSrc p pf
  parseAuxHdr conf p pf

/-- `frame802154_parse`: the length of the header, 0 for a frame that is rejected, and the
frame as the call leaves it. -/
def frame802154Parse (data : List UInt8) (pf : Frame802154) :
    Nat × Frame802154 :=
  if data.length < 2 then (0, pf)
  else
    let (pf, p) := parseHeader conf data pf
    (if p.offset > data.length then 0 else p.offset,
      { pf with payload := p.rest, payloadLen := data.length - p.offset })

end MultiPhyTsch
