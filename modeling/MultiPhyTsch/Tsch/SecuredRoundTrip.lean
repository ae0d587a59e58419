import MultiPhyTsch.Tsch.Security

/-! A secured frame at the receiver. Both sides authenticate and encrypt the same parts when
the receiver's offset is the sender's; otherwise the receiver decrypts from another byte on. -/

namespace MultiPhyTsch.Security

variable (conf : SecurityConf) {memory memory' : List UInt8} {hdrlen hdrlen' datalen : Nat}

theorem ofNat_toNat_of_le {value bound : Nat} (small : value ≤ bound) (byte : bound ≤ 255) :
    (UInt8.ofNat value).toNat = value := by
  rw [UInt8.toNat_ofNat']
  exact Nat.mod_eq_of_lt (by omega)

/-- The parser stops inside the data, says where, and has seen nothing behind that. -/
theorem receiverOffset_stop (byte : datalen ≤ 255)
    (went : (securityIes conf memory hdrlen datalen).1 ≠ -1 ∨
      datalen ≤ (memory.drop hdrlen).length) :
    ∃ stop ≤ datalen, (receiverOffset conf memory hdrlen datalen = stop ∨
        (securityIes conf memory hdrlen datalen).1 = -1 ∧
          receiverOffset conf memory hdrlen datalen = 0) ∧
      ∀ memory' hdrlen', datalen ≤ (memory'.drop hdrlen').length →
        (memory'.drop hdrlen').take stop = (memory.drop hdrlen).take stop →
        receiverOffset conf memory' hdrlen' datalen = receiverOffset conf memory hdrlen datalen := by
  have size := ofNat_toNat_of_le (Nat.le_refl datalen) byte
  obtain ⟨stop, -, inside, saved, found⟩ := parseElements_headerOffset conf.ie
    ((memory.drop hdrlen).length + 1)
    ⟨Cursor.start (memory.drop hdrlen), UInt8.ofNat datalen, 0, .headerIe, iesZero conf.ie⟩ rfl
    (went.imp_right fun filled => by rw [size]; omega)
  dsimp only at inside saved found
  rw [size] at inside found
  have within : stop ≤ datalen := by simpa using inside
  refine ⟨stop, within, ?_, fun memory' hdrlen' filled agree => ?_⟩
  · rcases saved with saved | ⟨failed, unsaved⟩
    · exact .inl ((congrArg UInt8.toNat saved).trans (ofNat_toNat_of_le within byte))
    · exact .inr ⟨failed, congrArg UInt8.toNat unsaved⟩
  · exact congrArg UInt8.toNat (found ((memory'.drop hdrlen').length + 1) (memory'.drop hdrlen')
      (by omega) (by simpa using agree))

theorem receiverOffset_congr (byte : datalen ≤ 255) (filled : hdrlen + datalen ≤ memory.length)
    (agree : (memory'.drop hdrlen').take datalen = (memory.drop hdrlen).take datalen) :
    receiverOffset conf memory' hdrlen' datalen = receiverOffset conf memory hdrlen datalen ∧
      receiverOffset conf memory hdrlen datalen ≤ datalen := by
  have lengths := congrArg List.length agree
  simp only [List.length_take, List.length_drop] at lengths
  have whole : datalen ≤ (memory.drop hdrlen).length := by
    rw [List.length_drop]
    omega
  obtain ⟨stop, within, saved, found⟩ := receiverOffset_stop conf byte (.inr whole)
  refine ⟨found memory' hdrlen' (by rw [List.length_drop]; omega) (take_congr within agree), ?_⟩
  rcases saved with saved | ⟨-, zero⟩
  · omega
  · omega

theorem receiverOffset_of_parsed (byte : datalen ≤ 255)
    (parsed : (securityIes conf memory hdrlen datalen).1 > 0) :
    senderOffset conf memory hdrlen datalen ≤ datalen ∧
      ∀ memory', hdrlen + datalen ≤ memory'.length →
        (memory'.drop hdrlen).take (senderOffset conf memory hdrlen datalen) =
          (memory.drop hdrlen).take (senderOffset conf memory hdrlen datalen) →
        receiverOffset conf memory' hdrlen datalen = senderOffset conf memory hdrlen datalen := by
  have accepted : (securityIes conf memory hdrlen datalen).1 ≠ -1 := by omega
  have same : senderOffset conf memory hdrlen datalen = receiverOffset conf memory hdrlen datalen :=
    if_pos parsed
  obtain ⟨stop, within, saved, found⟩ := receiverOffset_stop conf byte (.inl accepted)
  have stopped := saved.resolve_right fun refused => accepted refused.1
  rw [same, stopped]
  refine ⟨within, fun memory' filled agree => ?_⟩
  exact (found memory' hdrlen (by rw [List.length_drop]; omega) agree).trans stopped

variable (frame : Frame802154)

def authLen (hdrlen datalen offset : Nat) : Nat :=
  if withEncryption frame then hdrlen + offset else hdrlen + datalen

theorem securitySplit_eq {offset : Nat} (inside : offset ≤ datalen)
    (byte : hdrlen + datalen ≤ 255) :
    securitySplit frame hdrlen datalen offset =
      (authLen frame hdrlen datalen offset,
        hdrlen + datalen - authLen frame hdrlen datalen offset) := by
  unfold securitySplit authLen
  cases withEncryption frame with
  | true =>
    simp only [if_true, Prod.mk.injEq]
    constructor
    · exact Nat.mod_eq_of_lt (by omega)
    · rw [Nat.mod_eq_of_lt (by omega)]
      omega
  | false =>
    simp only [Bool.false_eq_true, if_false, Nat.sub_self, Prod.mk.injEq, and_true]
    exact Nat.mod_eq_of_lt (by omega)

theorem authLen_bounds (hdrlen : Nat) {offset : Nat} (inside : offset ≤ datalen) :
    hdrlen ≤ authLen frame hdrlen datalen offset ∧
      authLen frame hdrlen datalen offset ≤ hdrlen + datalen := by
  unfold authLen
  split <;> omega

theorem micLen_le : tschSecurityMicLen frame ≤ CcmStar.blockSize := by
  have small := and_three_lt frame.auxHdr.securityControl.securityLevel
  unfold tschSecurityMicLen
  split
  · calc 2 <<< (frame.auxHdr.securityControl.securityLevel &&& 3).toNat
        ≤ 2 <<< 3 := by
          rw [Nat.shiftLeft_eq, Nat.shiftLeft_eq]
          exact Nat.mul_le_mul_left 2 (Nat.pow_le_pow_right (by omega) (by omega))
      _ = CcmStar.blockSize := rfl
  · exact Nat.zero_le _

variable (aes : CcmStar.BlockCipher (Vector UInt8 16))

theorem aeadInPlace_eq (key : Vector UInt8 16) (nonce header message behind : List UInt8)
    (micLen : Nat) (forward : Bool) :
    let result := CcmStar.aead (aes.encrypt key) nonce message header micLen forward
    aeadInPlace aes key nonce (header ++ (message ++ behind)) (header.length, message.length) micLen
      forward = (header ++ (result.1 ++ behind), result.2) := by
  simp [aeadInPlace]

def securedFrame (key : Vector UInt8 16) (nonce header message : List UInt8) (micLen : Nat) :
    List UInt8 :=
  let result := CcmStar.aead (aes.encrypt key) nonce message header micLen true
  header ++ (result.1 ++ result.2)

variable (nodeAddr : LinkAddr) (asn : TschAsn)

theorem initNonce_length : (tschSecurityInitNonce nodeAddr asn).length = 13 := by
  simp [tschSecurityInitNonce]

theorem senderOffset_of_unparsed (unparsed : ¬ (securityIes conf memory hdrlen datalen).1 > 0) :
    senderOffset conf memory hdrlen datalen = 0 := by
  simp only [senderOffset, if_neg unparsed]

theorem senderOffset_le (memory : List UInt8) (hdrlen : Nat) (byte : datalen ≤ 255) :
    senderOffset conf memory hdrlen datalen ≤ datalen := by
  by_cases parsed : (securityIes conf memory hdrlen datalen).1 > 0
  · exact (receiverOffset_of_parsed conf byte parsed).1
  · rw [senderOffset_of_unparsed conf parsed]
    exact Nat.zero_le _

theorem secureFrame_spec {hdr outbuf : List UInt8} {stale : Frame802154}
    (byte : hdrlen + datalen ≤ 255) (filled : hdrlen + datalen ≤ hdr.length)
    (secured : (tschSecuritySecureFrame aes conf nodeAddr hdr outbuf hdrlen datalen asn stale).1 ≠ 0) :
    let total := hdrlen + datalen
    let parsed := frame802154Parse securityLlsec (hdr.take total) stale
    let frame := parsed.2
    let start := authLen frame hdrlen datalen (senderOffset conf hdr hdrlen datalen)
    let result := tschSecuritySecureFrame aes conf nodeAddr hdr outbuf hdrlen datalen asn stale
    3 ≤ parsed.1 ∧ frame.fcf.securityEnabled ≠ 0 ∧ result.1 = tschSecurityMicLen frame ∧
      ∃ key, keyOf conf frame = some key ∧
        result.2.take (total + result.1) = securedFrame aes key (tschSecurityInitNonce nodeAddr asn)
          (hdr.take start) ((hdr.take total).drop start) (tschSecurityMicLen frame) := by
  intro total parsed frame start result
  have natural : ¬ ((hdrlen : Int) < 0 ∨ (datalen : Int) < 0) := by omega
  have resultEq : result =
      tschSecuritySecureFrame aes conf nodeAddr hdr outbuf hdrlen datalen asn stale := rfl
  change result.1 ≠ 0 at secured
  simp only [tschSecuritySecureFrame, if_neg natural, Int.toNat_natCast] at resultEq
  by_cases short : parsed.1 < 3
  · rw [if_pos short] at resultEq
    exact absurd (congrArg Prod.fst resultEq) secured
  rw [if_neg short] at resultEq
  by_cases plain : frame.fcf.securityEnabled = 0
  · rw [if_pos plain] at resultEq
    exact absurd (congrArg Prod.fst resultEq) secured
  rw [if_neg plain] at resultEq
  cases found : keyOf conf frame with
  | none =>
    simp only [frame, parsed, total] at found
    simp only [found] at resultEq
    exact absurd (congrArg Prod.fst resultEq) secured
  | some key =>
    have keyFound := found
    simp only [frame, parsed, total] at keyFound
    simp only [keyFound] at resultEq
    have inside := senderOffset_le conf hdr hdrlen (by omega : datalen ≤ 255)
    have bounds := authLen_bounds frame hdrlen inside
    have splitEq := securitySplit_eq frame inside byte
    have headerLength : (hdr.take start).length = start := by
      rw [List.length_take]
      omega
    have messageLength : ((hdr.take total).drop start).length = total - start := by
      rw [List.length_drop, List.length_take]
      omega
    have copied : hdr.take total ++ outbuf.drop total =
        hdr.take start ++ ((hdr.take total).drop start ++ outbuf.drop total) := by
      rw [← List.append_assoc]
      congr 1
      have whole := List.take_append_drop start (hdr.take total)
      rw [List.take_take, Nat.min_eq_left bounds.2] at whole
      exact whole.symm
    have inPlace := aeadInPlace_eq aes key (tschSecurityInitNonce nodeAddr asn) (hdr.take start)
      ((hdr.take total).drop start) (outbuf.drop total) (tschSecurityMicLen frame) true
    rw [headerLength, messageLength, ← copied] at inPlace
    rw [splitEq] at resultEq
    simp only [Nat.add_sub_cancel' bounds.2] at resultEq
    rw [inPlace] at resultEq
    generalize aead_eq : CcmStar.aead (aes.encrypt key) (tschSecurityInitNonce nodeAddr asn)
      ((hdr.take total).drop start) (hdr.take start) (tschSecurityMicLen frame) true = aead
      at resultEq
    have encryptedLength : (hdr.take start).length + aead.1.length = total := by
      rw [← aead_eq, CcmStar.aead_length, headerLength, messageLength]
      omega
    have micLength : aead.2.length = tschSecurityMicLen frame := by
      rw [← aead_eq]
      exact CcmStar.mic_length (aes.length_encrypt key) (initNonce_length nodeAddr asn) _ _
        (micLen_le frame)
    have body : (hdr.take start ++ (aead.1 ++ outbuf.drop total)).take total =
        hdr.take start ++ aead.1 := by
      rw [← List.append_assoc, List.take_left' (by rw [List.length_append]; exact encryptedLength)]
    refine ⟨by omega, plain, by rw [resultEq], key, rfl, ?_⟩
    rw [resultEq]
    dsimp only [securedFrame]
    rw [aead_eq, body, ← List.append_assoc (hdr.take start) aead.1 aead.2]
    apply List.take_left'
    rw [List.length_append, List.length_append, encryptedLength, micLength]

theorem parseFrame_eq {pan : PanMembership} {frame : Frame802154} {key : Vector UInt8 16}
    (byte : hdrlen + datalen ≤ 255) (filled : hdrlen + datalen ≤ memory.length)
    (level : tschSecurityCheckLevel conf pan frame = true) (enabled : frame.fcf.securityEnabled ≠ 0)
    (found : keyOf conf frame = some key) :
    let start := authLen frame hdrlen datalen (receiverOffset conf memory hdrlen datalen)
    let result := aeadInPlace aes key (tschSecurityInitNonce nodeAddr asn) memory
      (start, hdrlen + datalen - start) (tschSecurityMicLen frame) false
    tschSecurityParseFrame aes conf pan memory hdrlen datalen frame nodeAddr asn =
      (tschSecurityMicLen frame == 0 ||
        result.2 == (memory.drop (hdrlen + datalen)).take (tschSecurityMicLen frame), result.1) := by
  have natural : ¬ ((hdrlen : Int) < 0 ∨ (datalen : Int) < 0) := by omega
  have inside := (receiverOffset_congr conf (by omega) filled rfl).2
  simp only [tschSecurityParseFrame, if_neg natural, level, if_neg enabled, found,
    Int.toNat_natCast, securitySplit_eq frame inside byte, Bool.not_true, Bool.false_eq_true, if_false]

/-- A frame as the members of a secured PAN send it: with the setting of its type, and with a
key identifier, which every sender asks for. -/
structure OfSecuredPan (pan : PanMembership) (frame : Frame802154) : Prop where
  member : pan.isAssociated → pan.isPanSecured
  level : frame.auxHdr.securityControl.securityLevel =
    (requiredSetting conf frame.fcf.frameType).level
  keyIndex : frame.auxHdr.keyIndex = (requiredSetting conf frame.fcf.frameType).keyIndex
  keyIdMode : frame.auxHdr.securityControl.keyIdMode ≠ 0

structure SameSecurity (frame frame' : Frame802154) : Prop where
  enabled : frame'.fcf.securityEnabled = frame.fcf.securityEnabled
  frameType : frame'.fcf.frameType = frame.fcf.frameType
  level : frame'.auxHdr.securityControl.securityLevel = frame.auxHdr.securityControl.securityLevel
  keyIndex : frame'.auxHdr.keyIndex = frame.auxHdr.keyIndex

variable {frame frame' : Frame802154}

theorem sameSecurity_of_header
    (header : SameHeader securityLlsec frame frame') (enabled : frame.fcf.securityEnabled ≠ 0)
    (named : frame.auxHdr.securityControl.keyIdMode ≠ 0) : SameSecurity frame frame' :=
  have key := header.key rfl enabled
  ⟨by rw [header.fcf], by rw [header.fcf], key.control.level, key.keyIndex rfl named⟩

theorem SameSecurity.micLen (same : SameSecurity frame frame') :
    tschSecurityMicLen frame' = tschSecurityMicLen frame := by
  simp [tschSecurityMicLen, same.enabled, same.level]

theorem SameSecurity.keyOf (same : SameSecurity frame frame') :
    keyOf conf frame' = keyOf conf frame := by
  simp [Security.keyOf, same.keyIndex]

theorem SameSecurity.authLen (same : SameSecurity frame frame')
    (offset : Nat) : authLen frame' hdrlen datalen offset = authLen frame hdrlen datalen offset := by
  simp [Security.authLen, withEncryption, same.level]

theorem OfSecuredPan.checkLevel {pan : PanMembership} {frame frame' : Frame802154}
    (ofPan : OfSecuredPan conf pan frame) (same : SameSecurity frame frame')
    (enabled : frame.fcf.securityEnabled ≠ 0) : tschSecurityCheckLevel conf pan frame' = true := by
  have secured : (pan.isAssociated && !pan.isPanSecured) = false := by
    cases joined : pan.isAssociated with
    | false => rfl
    | true => simp [ofPan.member joined]
  simp [tschSecurityCheckLevel, same.enabled, enabled, same.frameType, same.level, same.keyIndex,
    ofPan.level, ofPan.keyIndex, secured]

def tschPacketMaxLen : Nat := 127

/-- The receiver parses the header of what it received and then checks and decrypts it, in a
buffer that goes on behind the frame. -/
def receiveSecured (pan : PanMembership) (sent behind : List UInt8) (hdrlen datalen : Nat)
    (stale : Frame802154) : Bool × List UInt8 :=
  tschSecurityParseFrame aes conf pan (sent ++ behind) hdrlen datalen
    (frame802154Parse securityLlsec sent stale).2 nodeAddr asn

def maskedData (frame : Frame802154) (data : List UInt8) : List UInt8 :=
  match keyOf conf frame with
  | none => data
  | some key => CcmStar.ctr (aes.encrypt key) (tschSecurityInitNonce nodeAddr asn) data

/-- The receiver encrypts the same part of the frame as the sender: nothing is encrypted, or the
plain data is a list of information elements, or the encrypted data does not look as if it
started with one. -/
def SplitKept (frame : Frame802154) (hdr : List UInt8) (hdrlen datalen : Nat) : Prop :=
  withEncryption frame = false ∨ 0 < (securityIes conf hdr hdrlen datalen).1 ∨
    receiverOffset conf (maskedData conf aes nodeAddr asn frame ((hdr.drop hdrlen).take datalen)) 0
      datalen = 0

theorem drop_take_front {hdr : List UInt8} {start : Nat} (total : Nat) :
    (hdr.take (start + total)).drop start = (hdr.drop start).take total := by
  rw [List.drop_take, Nat.add_sub_cancel_left]

section

variable {pan : PanMembership} {frame : Frame802154} {key : Vector UInt8 16}
  (header message behind : List UInt8)

theorem receive_same_split (byte : hdrlen + datalen ≤ 255)
    (total : header.length + message.length = hdrlen + datalen)
    (level : tschSecurityCheckLevel conf pan frame = true) (enabled : frame.fcf.securityEnabled ≠ 0)
    (found : keyOf conf frame = some key) :
    let sent := securedFrame aes key (tschSecurityInitNonce nodeAddr asn) header message
      (tschSecurityMicLen frame)
    authLen frame hdrlen datalen (receiverOffset conf (sent ++ behind) hdrlen datalen) =
      header.length →
    let checked := tschSecurityParseFrame aes conf pan (sent ++ behind) hdrlen datalen frame
      nodeAddr asn
    checked.1 = true ∧ checked.2.take (hdrlen + datalen) = header ++ message := by
  intro sent split checked
  let nonce := tschSecurityInitNonce nodeAddr asn
  let secured := CcmStar.aead (aes.encrypt key) nonce message header (tschSecurityMicLen frame) true
  have sentEq : sent ++ behind = header ++ (secured.1 ++ (secured.2 ++ behind)) := by
    simp [sent, securedFrame, secured, nonce]
  have encryptedLength : secured.1.length = message.length := CcmStar.aead_length ..
  have micLength : secured.2.length = tschSecurityMicLen frame :=
    CcmStar.mic_length (aes.length_encrypt key) (initNonce_length nodeAddr asn) _ _ (micLen_le frame)
  have filled : hdrlen + datalen ≤ (sent ++ behind).length := by
    rw [sentEq]
    simp only [List.length_append]
    omega
  have opened := CcmStar.aead_aead (aes.encrypt key) nonce message header (tschSecurityMicLen frame)
  have inPlace := aeadInPlace_eq aes key nonce header secured.1 (secured.2 ++ behind)
    (tschSecurityMicLen frame) false
  have rest : hdrlen + datalen - header.length = secured.1.length := by omega
  have parsed := parseFrame_eq conf aes nodeAddr asn byte filled level enabled found
  dsimp only at opened inPlace parsed
  rw [split, rest, sentEq, inPlace, opened] at parsed
  have code : ((header ++ (secured.1 ++ (secured.2 ++ behind))).drop (hdrlen + datalen)).take
      (tschSecurityMicLen frame) = secured.2 := by
    rw [← List.append_assoc, List.drop_left' (by rw [List.length_append]; omega),
      List.take_left' micLength]
  have checkedEq : checked = _ := (congrArg (fun memory =>
    tschSecurityParseFrame aes conf pan memory hdrlen datalen frame nodeAddr asn) sentEq).trans parsed
  rw [checkedEq, code]
  constructor
  · simp [secured]
  · rw [← List.append_assoc, List.take_left' (by rw [List.length_append]; omega)]

theorem receive_late_split (byte : header.length + message.length ≤ 255)
    (level : tschSecurityCheckLevel conf pan frame = true) (enabled : frame.fcf.securityEnabled ≠ 0)
    (encrypted : withEncryption frame = true) (found : keyOf conf frame = some key) :
    let sent := securedFrame aes key (tschSecurityInitNonce nodeAddr asn) header message
      (tschSecurityMicLen frame)
    0 < receiverOffset conf (sent ++ behind) header.length message.length →
    (tschSecurityParseFrame aes conf pan (sent ++ behind) header.length message.length frame
      nodeAddr asn).2.take (header.length + message.length) = header ++ message →
    CcmStar.ctr (aes.encrypt key) (tschSecurityInitNonce nodeAddr asn) message = message := by
  intro sent late restored
  let nonce := tschSecurityInitNonce nodeAddr asn
  let secured := CcmStar.aead (aes.encrypt key) nonce message header (tschSecurityMicLen frame) true
  generalize offset_eq : receiverOffset conf (sent ++ behind) header.length message.length = offset
    at late
  have encryptedLength : secured.1.length = message.length := CcmStar.aead_length ..
  have sentEq : sent ++ behind = header ++ (secured.1 ++ (secured.2 ++ behind)) := by
    simp [sent, securedFrame, secured, nonce]
  have filled : header.length + message.length ≤ (sent ++ behind).length := by
    rw [sentEq]
    simp only [List.length_append]
    omega
  have inside : offset ≤ message.length := by
    rw [← offset_eq]
    exact (receiverOffset_congr conf (by omega) filled rfl).2
  have parsed := parseFrame_eq conf aes nodeAddr asn byte filled level enabled found
  have inPlace := aeadInPlace_eq aes key nonce (header ++ secured.1.take offset)
    (secured.1.drop offset) (secured.2 ++ behind) (tschSecurityMicLen frame) false
  have regroup : header ++ secured.1.take offset ++ (secured.1.drop offset ++ (secured.2 ++ behind)) =
      sent ++ behind := by
    rw [sentEq, List.append_assoc, ← List.append_assoc (secured.1.take offset),
      List.take_append_drop]
  have startLength : (header ++ secured.1.take offset).length = header.length + offset := by
    rw [List.length_append, List.length_take]
    omega
  have endLength : (secured.1.drop offset).length =
      header.length + message.length - (header.length + offset) := by
    rw [List.length_drop]
    omega
  dsimp only at parsed inPlace
  rw [offset_eq, authLen, if_pos encrypted] at parsed
  rw [regroup, startLength, endLength] at inPlace
  rw [parsed, inPlace, ← List.append_assoc, List.take_left' (by
    rw [List.length_append, startLength, CcmStar.aead_length, endLength]
    omega), List.append_assoc] at restored
  exact CcmStar.ctr_of_late_start (aes.encrypt key) nonce message late (List.append_cancel_left restored)

end

theorem received_sameSecurity {plain sent : List UInt8} {start : Nat} (stale stale' : Frame802154)
    (parsed : (frame802154Parse securityLlsec plain stale).1 ≠ 0)
    (covers : (frame802154Parse securityLlsec plain stale).1 ≤ start)
    (agree : sent.take start = plain.take start)
    (enabled : (frame802154Parse securityLlsec plain stale).2.fcf.securityEnabled ≠ 0)
    (named : (frame802154Parse securityLlsec plain stale).2.auxHdr.securityControl.keyIdMode ≠ 0) :
    SameSecurity (frame802154Parse securityLlsec plain stale).2
      (frame802154Parse securityLlsec sent stale').2 := by
  have header := frame802154Parse_congr securityLlsec stale stale' parsed (take_congr covers agree)
  exact sameSecurity_of_header header.2 enabled named

section received

variable {pan : PanMembership} {frame frame' : Frame802154} {hdr sent behind : List UInt8}
  {key : Vector UInt8 16} {start : Nat}

structure SentAs (frame : Frame802154) (hdr sent : List UInt8) (key : Vector UInt8 16)
    (hdrlen datalen start : Nat) : Prop where
  byte : hdrlen + datalen ≤ 255
  filled : hdrlen + datalen ≤ hdr.length
  start_eq : start = authLen frame hdrlen datalen (senderOffset conf hdr hdrlen datalen)
  found : keyOf conf frame = some key
  sent_eq : sent = securedFrame aes key (tschSecurityInitNonce nodeAddr asn) (hdr.take start)
    ((hdr.take (hdrlen + datalen)).drop start) (tschSecurityMicLen frame)

variable {conf aes nodeAddr asn}
  (sentAs : SentAs conf aes nodeAddr asn frame hdr sent key hdrlen datalen start)

include sentAs

theorem SentAs.bounds : hdrlen ≤ start ∧ start ≤ hdrlen + datalen := by
  have byte := sentAs.byte
  rw [sentAs.start_eq]
  exact authLen_bounds frame hdrlen (senderOffset_le conf hdr hdrlen (by omega))

theorem SentAs.header_length : (hdr.take start).length = start := by
  have bounds := sentAs.bounds
  have filled := sentAs.filled
  rw [List.length_take]
  omega

theorem SentAs.message_length :
    ((hdr.take (hdrlen + datalen)).drop start).length = hdrlen + datalen - start := by
  have filled := sentAs.filled
  rw [List.length_drop, List.length_take]
  omega

theorem SentAs.whole :
    hdr.take start ++ (hdr.take (hdrlen + datalen)).drop start = hdr.take (hdrlen + datalen) := by
  have parts := List.take_append_drop start (hdr.take (hdrlen + datalen))
  rwa [List.take_take, Nat.min_eq_left sentAs.bounds.2] at parts

theorem SentAs.header_kept : sent.take start = (hdr.take (hdrlen + datalen)).take start := by
  rw [sentAs.sent_eq, securedFrame, List.take_left' sentAs.header_length, List.take_take,
    Nat.min_eq_left sentAs.bounds.2]

theorem SentAs.receiverOffset (behind : List UInt8) (encrypted : withEncryption frame = true) :
    receiverOffset conf (sent ++ behind) hdrlen datalen =
      if 0 < (securityIes conf hdr hdrlen datalen).1 then senderOffset conf hdr hdrlen datalen
      else receiverOffset conf
        (maskedData conf aes nodeAddr asn frame ((hdr.drop hdrlen).take datalen)) 0 datalen := by
  have start_eq : start = hdrlen + senderOffset conf hdr hdrlen datalen := by
    rw [sentAs.start_eq, authLen, if_pos encrypted]
  have sentEq := sentAs.sent_eq
  rw [start_eq] at sentEq
  have byte := sentAs.byte
  have filled := sentAs.filled
  have inside := senderOffset_le conf hdr hdrlen (by omega : datalen ≤ 255)
  have sentLong : hdrlen + datalen ≤ (sent ++ behind).length := by
    rw [sentEq]
    simp only [securedFrame, List.length_append, CcmStar.aead_length, List.length_take,
      List.length_drop]
    omega
  split
  next parsed =>
    apply (receiverOffset_of_parsed conf (by omega) parsed).2 _ sentLong
    rw [sentEq, securedFrame, List.append_assoc, List.drop_append_of_le_length (by
      rw [List.length_take]
      omega), drop_take_front, List.take_append_of_le_length (by
      rw [List.length_take, List.length_drop]
      omega), List.take_take, Nat.min_self]
  next unparsed =>
    rw [senderOffset_of_unparsed conf unparsed, Nat.add_zero, drop_take_front] at sentEq
    have maskedEq : maskedData conf aes nodeAddr asn frame ((hdr.drop hdrlen).take datalen) =
        CcmStar.ctr (aes.encrypt key) (tschSecurityInitNonce nodeAddr asn)
          ((hdr.drop hdrlen).take datalen) := by
      rw [maskedData, sentAs.found]
    have maskedLength : (maskedData conf aes nodeAddr asn frame
        ((hdr.drop hdrlen).take datalen)).length = datalen := by
      rw [maskedEq, CcmStar.ctr_length, List.length_take, List.length_drop]
      omega
    apply (receiverOffset_congr conf (by omega) (by omega) _).1
    have ahead : (sent ++ behind).drop hdrlen = maskedData conf aes nodeAddr asn frame
        ((hdr.drop hdrlen).take datalen) ++
          ((CcmStar.aead (aes.encrypt key) (tschSecurityInitNonce nodeAddr asn)
            ((hdr.drop hdrlen).take datalen) (hdr.take hdrlen) (tschSecurityMicLen frame)
              true).2 ++ behind) := by
      rw [sentEq, securedFrame, List.append_assoc, List.drop_left' (by
        rw [List.length_take]
        omega), maskedEq, List.append_assoc]
      rfl
    rw [ahead, List.drop_zero, List.take_left' maskedLength]
    exact (List.take_of_length_le (Nat.le_of_eq maskedLength)).symm

theorem SentAs.split_kept (behind : List UInt8)
    (kept : SplitKept conf aes nodeAddr asn frame hdr hdrlen datalen) :
    authLen frame hdrlen datalen (Security.receiverOffset conf (sent ++ behind) hdrlen datalen) =
      start := by
  rw [sentAs.start_eq]
  cases encrypted : withEncryption frame with
  | false => simp only [authLen, encrypted, Bool.false_eq_true, if_false]
  | true =>
    rw [sentAs.receiverOffset behind encrypted]
    split
    · rfl
    next unparsed =>
      rcases kept with plain | parsed | unseen
      · rw [encrypted] at plain
        cases plain
      · exact absurd parsed unparsed
      · rw [unseen, senderOffset_of_unparsed conf unparsed]

variable (same : SameSecurity frame frame')
  (level : tschSecurityCheckLevel conf pan frame' = true) (enabled : frame.fcf.securityEnabled ≠ 0)

include same level enabled

theorem SentAs.received_of_kept (kept : SplitKept conf aes nodeAddr asn frame hdr hdrlen datalen) :
    let checked := tschSecurityParseFrame aes conf pan (sent ++ behind) hdrlen datalen frame'
      nodeAddr asn
    checked.1 = true ∧ checked.2.take (hdrlen + datalen) = hdr.take (hdrlen + datalen) := by
  have bounds := sentAs.bounds
  have split := sentAs.split_kept behind kept
  rw [← same.authLen, ← sentAs.header_length] at split
  have sent_eq := sentAs.sent_eq
  rw [← same.micLen] at sent_eq
  have back := receive_same_split conf aes nodeAddr asn (hdr.take start)
    ((hdr.take (hdrlen + datalen)).drop start) behind sentAs.byte
    (by rw [sentAs.header_length, sentAs.message_length]; omega) level (same.enabled ▸ enabled)
    ((same.keyOf conf).trans sentAs.found) (by rw [← sent_eq]; exact split)
  rwa [sentAs.whole, ← sent_eq] at back

theorem SentAs.masked_of_received
    (missed : ¬ SplitKept conf aes nodeAddr asn frame hdr hdrlen datalen)
    (restored : (tschSecurityParseFrame aes conf pan (sent ++ behind) hdrlen datalen frame'
      nodeAddr asn).2.take (hdrlen + datalen) = hdr.take (hdrlen + datalen)) :
    maskedData conf aes nodeAddr asn frame ((hdr.drop hdrlen).take datalen) =
      (hdr.drop hdrlen).take datalen := by
  simp only [SplitKept, not_or] at missed
  obtain ⟨encrypted, unparsed, seen⟩ := missed
  have encrypted : withEncryption frame = true := by simpa using encrypted
  have offset := sentAs.receiverOffset behind encrypted
  rw [if_neg unparsed] at offset
  have start_eq : start = hdrlen := by
    rw [sentAs.start_eq, authLen, if_pos encrypted, senderOffset_of_unparsed conf unparsed, Nat.add_zero]
  have sent_eq := sentAs.sent_eq
  rw [← same.micLen, start_eq, drop_take_front] at sent_eq
  have header := sentAs.header_length
  have message := sentAs.message_length
  have whole := sentAs.whole
  rw [start_eq] at header message whole
  rw [drop_take_front] at message whole
  rw [Nat.add_sub_cancel_left] at message
  have late := receive_late_split conf aes nodeAddr asn (hdr.take hdrlen)
    ((hdr.drop hdrlen).take datalen) behind (by rw [header, message]; exact sentAs.byte) level
    (same.enabled ▸ enabled) (by rw [withEncryption, same.level]; exact encrypted)
    ((same.keyOf conf).trans sentAs.found)
  dsimp only at late
  rw [header, message, ← sent_eq, offset, whole] at late
  rw [maskedData, sentAs.found]
  exact late (Nat.pos_of_ne_zero seen) restored

end received

/-- The receiver accepts what the sender secured and finds the plain frame in its buffer when
both split it alike. When they do not, it finds it only if the key stream is zero on the data. -/
theorem secured_frame_round_trip (pan : PanMembership) (hdr outbuf behind : List UInt8)
    (hdrlen datalen : Nat) (stale stale' : Frame802154)
    (fits : hdrlen + datalen ≤ tschPacketMaxLen) (filled : hdrlen + datalen ≤ hdr.length)
    (covers : (frame802154Parse securityLlsec (hdr.take (hdrlen + datalen)) stale).1 ≤ hdrlen)
    (ofPan : OfSecuredPan conf pan
      (frame802154Parse securityLlsec (hdr.take (hdrlen + datalen)) stale).2)
    (nonzero : (tschSecuritySecureFrame aes conf nodeAddr hdr outbuf hdrlen datalen asn stale).1 ≠ 0) :
    let plain := hdr.take (hdrlen + datalen)
    let frame := (frame802154Parse securityLlsec plain stale).2
    let secured := tschSecuritySecureFrame aes conf nodeAddr hdr outbuf hdrlen datalen asn stale
    let sent := secured.2.take (hdrlen + datalen + secured.1)
    let checked := receiveSecured conf aes nodeAddr asn pan sent behind hdrlen datalen stale'
    (SplitKept conf aes nodeAddr asn frame hdr hdrlen datalen →
      checked.1 = true ∧ checked.2.take (hdrlen + datalen) = plain) ∧
    (checked.1 = true ∧ checked.2.take (hdrlen + datalen) = plain →
      SplitKept conf aes nodeAddr asn frame hdr hdrlen datalen ∨
        maskedData conf aes nodeAddr asn frame (plain.drop hdrlen) = plain.drop hdrlen) := by
  have byte : hdrlen + datalen ≤ 255 := Nat.le_trans fits (by decide)
  obtain ⟨long, enabled, -, key, found, sentEq⟩ :=
    secureFrame_spec conf aes nodeAddr asn byte filled nonzero
  dsimp only
  generalize tschSecuritySecureFrame aes conf nodeAddr hdr outbuf hdrlen datalen asn stale = secured
    at sentEq ⊢
  generalize secured.2.take (hdrlen + datalen + secured.1) = sent at sentEq ⊢
  have sentAs : SentAs conf aes nodeAddr asn _ hdr sent key hdrlen datalen _ :=
    ⟨byte, filled, rfl, found, sentEq⟩
  have same := received_sameSecurity stale stale' (by omega)
    (Nat.le_trans covers sentAs.bounds.1) sentAs.header_kept enabled ofPan.keyIdMode
  have level := ofPan.checkLevel conf same enabled
  constructor
  · exact sentAs.received_of_kept same level enabled
  · rintro ⟨-, restored⟩
    rw [drop_take_front]
    exact or_iff_not_imp_left.mpr fun missed =>
      sentAs.masked_of_received same level enabled missed restored

def defaultSecurity : SecurityConf :=
  { ie := ⟨16, false⟩
    keys := #v[
      #v[0x36, 0x54, 0x69, 0x53, 0x43, 0x48, 0x20, 0x6d, 0x69, 0x6e, 0x69, 0x6d, 0x61, 0x6c, 0x31, 0x35],
      #v[0xde, 0xad, 0xbe, 0xef, 0xfa, 0xce, 0xca, 0xfe, 0xde, 0xad, 0xbe, 0xef, 0xfa, 0xce, 0xca, 0xfe]]
    eb := ⟨1, 1, by decide⟩
    ack := ⟨2, 5, by decide⟩
    other := ⟨2, 5, by decide⟩ }

def dataSender : LinkAddr := Vector.replicate 8 2

def dataHeader : List UInt8 :=
  [0x29, 0xec, 7, 0xcd, 0xab, 1, 1, 1, 1, 1, 1, 1, 1, 2, 2, 2, 2, 2, 2, 2, 2, 0x2d, 2]

theorem ordinaryData_received :
    let secured := tschSecuritySecureFrame Aes128.cipher defaultSecurity dataSender
      (dataHeader ++ [1, 2, 3, 4]) [] 23 4 ⟨100, 0⟩ default
    let checked := receiveSecured defaultSecurity Aes128.cipher dataSender ⟨100, 0⟩ ⟨true, true⟩
      (secured.2.take (23 + 4 + secured.1)) [] 23 4 default
    checked.1 = true ∧ checked.2.take 27 = dataHeader ++ [1, 2, 3, 4] :=
  (secured_frame_round_trip defaultSecurity Aes128.cipher dataSender ⟨100, 0⟩ ⟨true, true⟩
    (dataHeader ++ [1, 2, 3, 4]) [] [] 23 4 default default (by decide) (by decide) (by decide)
    (by constructor <;> decide) (by decide +kernel)).1 (.inr (.inr (by decide +kernel)))

theorem lookalikeData_lost :
    let plain := dataHeader ++ [0xa6, 0xe3, 1, 2]
    let parsed := frame802154Parse securityLlsec plain default
    let secured := tschSecuritySecureFrame Aes128.cipher defaultSecurity dataSender plain [] 23 4
      ⟨100, 0⟩ default
    parsed.1 = 23 ∧ OfSecuredPan defaultSecurity ⟨true, true⟩ parsed.2 ∧
      secured = (4, dataHeader ++ [0, 0x3f, 207, 165, 92, 162, 143, 55]) ∧
      receiveSecured defaultSecurity Aes128.cipher dataSender ⟨100, 0⟩ ⟨true, true⟩ secured.2 [] 23 4
        default = (false, dataHeader ++ [0, 0x3f, 105, 121, 92, 162, 143, 55]) := by
  refine ⟨by decide, by constructor <;> decide, by decide +kernel, by decide +kernel⟩

end MultiPhyTsch.Security
