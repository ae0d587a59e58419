import MultiPhyTsch.Frame.HeaderPrefix
import MultiPhyTsch.Frame.IeOffset
import MultiPhyTsch.Lib.Aes128

/-! `tsch-security.c`: how the sender protects a frame and the receiver checks it. The two
sides find the boundary between what is authenticated and what is encrypted by parsing the
information elements, the sender those of the plain frame and the receiver those of the
encrypted one. -/

namespace MultiPhyTsch.Security

structure SecuritySetting where
  keyIndex : UInt8
  level : UInt8
  valid : level.toNat < 8
deriving DecidableEq, Repr

/-- `TSCH_SECURITY_K1`, `TSCH_SECURITY_K2` and the settings for the types of frames. A build
with security uses the auxiliary header with explicit keys. -/
structure SecurityConf where
  ie : IeConf
  keys : Vector (Vector UInt8 16) 2
  eb : SecuritySetting
  ack : SecuritySetting
  other : SecuritySetting

def securityLlsec : LlsecConf := ⟨true, true⟩

structure PanMembership where
  isAssociated : Bool
  isPanSecured : Bool
deriving DecidableEq, Repr

def tschSecurityInitNonce (sender : LinkAddr) (asn : TschAsn) : List UInt8 :=
  sender.toList ++ [asn.ms1b, (asn.ls4b >>> 24).toUInt8, (asn.ls4b >>> 16).toUInt8,
    (asn.ls4b >>> 8).toUInt8, asn.ls4b.toUInt8]

def requiredSetting (conf : SecurityConf) (frameType : UInt8) : SecuritySetting :=
  if frameType = beaconFrame then conf.eb
  else if frameType = ackFrame then conf.ack
  else conf.other

def tschSecurityCheckLevel (conf : SecurityConf) (pan : PanMembership) (frame : Frame802154) :
    Bool :=
  if frame.fcf.securityEnabled = 0 then !(pan.isAssociated && pan.isPanSecured)
  else if pan.isAssociated && !pan.isPanSecured then false
  else
    let required := requiredSetting conf frame.fcf.frameType
    frame.auxHdr.securityControl.securityLevel == required.level &&
      frame.auxHdr.keyIndex == required.keyIndex

def tschSecurityMicLen (frame : Frame802154) : Nat :=
  if frame.fcf.securityEnabled ≠ 0 then
    2 <<< (frame.auxHdr.securityControl.securityLevel &&& 3).toNat
  else 0

def withEncryption (frame : Frame802154) : Bool :=
  frame.auxHdr.securityControl.securityLevel &&& 4 != 0

def keyOf (conf : SecurityConf) (frame : Frame802154) :
    Option (Vector UInt8 16) :=
  if frame.auxHdr.keyIndex = 0 then none
  else conf.keys.toList[frame.auxHdr.keyIndex.toNat - 1]?

/-- `a_len` and `m_len`, which are bytes, with `offset` bytes of header IEs before the data. -/
def securitySplit (frame : Frame802154) (hdrlen datalen offset : Nat) : Nat × Nat :=
  if withEncryption frame then ((hdrlen + offset) % 256, (datalen - offset) % 256)
  else ((hdrlen + datalen) % 256, 0)

variable (conf : SecurityConf)

variable (memory : List UInt8)

variable (hdrlen datalen : Nat)

def securityIes :
    Int × Ieee802154Ies :=
  frame802154eParseInformationElements conf.ie (memory.drop hdrlen) (UInt8.ofNat datalen)
    (iesZero conf.ie)

def senderOffset : Nat :=
  let (value, ies) := securityIes conf memory hdrlen datalen
  if value > 0 then ies.iePayloadIeOffset.toNat else 0

def receiverOffset : Nat :=
  (securityIes conf memory hdrlen datalen).2.iePayloadIeOffset.toNat

variable (aes : CcmStar.BlockCipher (Vector UInt8 16))

/-- `CCM_STAR.aead` in place, on the `mLen` bytes after the first `aLen`: the memory after it
and the code. -/
def aeadInPlace (key : Vector UInt8 16) (nonce memory : List UInt8) (split : Nat × Nat)
    (micLen : Nat) (forward : Bool) : List UInt8 × List UInt8 :=
  let header := memory.take split.1
  let message := (memory.drop split.1).take split.2
  let result := CcmStar.aead (aes.encrypt key) nonce message header micLen forward
  (header ++ result.1 ++ memory.drop (split.1 + split.2), result.2)

/-- `tsch_security_secure_frame`: the length of the code, and `outbuf` from its start on. The
memory at `hdr` goes on behind the frame; `frame` is the local structure before it is set. -/
def tschSecuritySecureFrame (conf : SecurityConf) (nodeAddr : LinkAddr) (hdr outbuf : List UInt8)
    (hdrlen datalen : Int) (asn : TschAsn) (frame : Frame802154) : Nat × List UInt8 :=
  if hdrlen < 0 ∨ datalen < 0 then (0, outbuf)
  else
    let total := hdrlen.toNat + datalen.toNat
    let (parsed, frame) := frame802154Parse securityLlsec (hdr.take total) frame
    if parsed < 3 then (0, outbuf)
    else
      let offset := senderOffset conf hdr hdrlen.toNat datalen.toNat
      if frame.fcf.securityEnabled = 0 then (0, outbuf)
      else match keyOf conf frame with
        | none => (0, outbuf)
        | some key =>
          let split := securitySplit frame hdrlen.toNat datalen.toNat offset
          let copied := hdr.take (split.1 + split.2) ++ outbuf.drop (split.1 + split.2)
          let (secured, mic) := aeadInPlace aes key (tschSecurityInitNonce nodeAddr asn) copied
            split (tschSecurityMicLen frame) true
          (tschSecurityMicLen frame,
            secured.take total ++ mic ++ secured.drop (total + tschSecurityMicLen frame))

/-- `tsch_security_parse_frame`: whether the frame is good, and the memory at `hdr`, which
holds the decrypted frame also when the code is wrong. -/
def tschSecurityParseFrame (conf : SecurityConf) (pan : PanMembership) (hdr : List UInt8)
    (hdrlen datalen : Int) (frame : Frame802154) (sender : LinkAddr) (asn : TschAsn) :
    Bool × List UInt8 :=
  if hdrlen < 0 ∨ datalen < 0 then (false, hdr)
  else if !tschSecurityCheckLevel conf pan frame then (false, hdr)
  else if frame.fcf.securityEnabled = 0 then (true, hdr)
  else match keyOf conf frame with
    | none => (false, hdr)
    | some key =>
      let offset := receiverOffset conf hdr hdrlen.toNat datalen.toNat
      let split := securitySplit frame hdrlen.toNat datalen.toNat offset
      let (memory, mic) := aeadInPlace aes key (tschSecurityInitNonce sender asn) hdr split
        (tschSecurityMicLen frame) false
      let received := (hdr.drop (hdrlen.toNat + datalen.toNat)).take (tschSecurityMicLen frame)
      (tschSecurityMicLen frame == 0 || mic == received, memory)

end MultiPhyTsch.Security
