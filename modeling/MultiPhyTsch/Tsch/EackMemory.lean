import MultiPhyTsch.Frame.RoundTrip
import MultiPhyTsch.Tsch.Packet
import MultiPhyTsch.Tsch.SecuredRoundTrip

/-! The enhanced ACK and the memory it is built in. `tsch_packet_create_eack` does not clear the
frame parameters on its stack, and the framer sets the security bit only where it is 1. -/

namespace MultiPhyTsch

open Security

structure SameOnAir (conf : LlsecConf) (first second : Frame802154) : Prop where
  version : first.fcf.frameVersion = ieee802154of2015
  securityEnabled : second.fcf.securityEnabled &&& 1 = first.fcf.securityEnabled &&& 1
  fcf : second.fcf = { first.fcf with securityEnabled := second.fcf.securityEnabled }
  seq : second.seq = first.seq
  pids : second.destPid = first.destPid ∧ second.srcPid = first.srcPid
  destAddr : createAddr (addrLen (first.fcf.destAddrMode &&& 3)) second.destAddr =
    createAddr (addrLen (first.fcf.destAddrMode &&& 3)) first.destAddr
  srcAddr : createAddr (addrLen (first.fcf.srcAddrMode &&& 3)) second.srcAddr =
    createAddr (addrLen (first.fcf.srcAddrMode &&& 3)) first.srcAddr
  auxLen : auxSecLen conf second = auxSecLen conf first
  auxHdr : createAuxHdr conf 0 (auxSecLen conf first) second.auxHdr =
    createAuxHdr conf 0 (auxSecLen conf first) first.auxHdr

namespace SameOnAir

variable {conf : LlsecConf} {first second : Frame802154}

section

variable (same : SameOnAir conf first second)
include same

theorem setPanidCompression :
    MultiPhyTsch.setPanidCompression first = first ∧
      MultiPhyTsch.setPanidCompression second = second := by
  constructor
  · exact setPanidCompression_of_2015 same.version
  · apply setPanidCompression_of_2015
    rw [same.fcf]
    exact same.version

theorem fieldLen :
    MultiPhyTsch.fieldLen conf second = MultiPhyTsch.fieldLen conf first := by
  simp only [MultiPhyTsch.fieldLen, same.auxLen]
  rw [same.fcf]
  rfl

theorem hdrlen :
    frame802154Hdrlen conf second = frame802154Hdrlen conf first := by
  obtain ⟨firstSet, secondSet⟩ := same.setPanidCompression
  rw [frame802154Hdrlen, frame802154Hdrlen, firstSet, secondSet, same.fieldLen]

theorem createFcf :
    frame802154CreateFcf second.fcf = frame802154CreateFcf first.fcf := by
  have bit : bitField second.fcf.securityEnabled 1 3 = bitField first.fcf.securityEnabled 1 3 := by
    rw [bitField, bitField, same.securityEnabled]
  rw [same.fcf]
  simp only [frame802154CreateFcf, bit]

theorem create : (frame802154Create conf 0 second).2 = (frame802154Create conf 0 first).2 := by
  obtain ⟨firstSet, secondSet⟩ := same.setPanidCompression
  simp only [frame802154Create, firstSet, secondSet, same.fieldLen, same.createFcf, same.seq,
    same.pids.1, same.pids.2]
  have dest := same.destAddr
  have src := same.srcAddr
  have aux := same.auxHdr
  simp only [MultiPhyTsch.fieldLen]
  rw [dest, src, aux]

end

end SameOnAir

variable (conf : PacketConf) (panId : UInt16) (isPanSecured : Bool) (nodeAddr destAddr : LinkAddr)
  (seqno : UInt8)

def eackParams (params : Frame802154) : Frame802154 :=
  let params := if conf.eackWithDestAddr then { params with destAddr := destAddr } else params
  let params := if conf.eackWithSrcAddr then { params with srcAddr := nodeAddr } else params
  framer802154SetupParams conf.framer panId (eackbufAttrs conf isPanSecured seqno) false params

theorem tschPacketCreateEack_eq (bufLen : Int) (drift : Int16) (nack : Bool) (params : Frame802154) :
    tschPacketCreateEack conf panId isPanSecured nodeAddr bufLen destAddr seqno drift nack params =
      let sent := eackParams conf panId isPanSecured nodeAddr destAddr seqno params
      (createIeHeaderAckNackTimeCorrection (bufLen - frame802154Hdrlen conf.framer.llsec sent)
        { iesZero conf.ie with ieTimeCorrection := drift, ieIsNack := nack }).map fun element =>
          (frame802154Create conf.framer.llsec 0 sent).2 ++ element := rfl

def eackLevel : UInt8 :=
  match conf.security with
  | none => 0
  | some security => if isPanSecured then security.ack.level else 0

theorem eackbufAttrs_securityLevel :
    (eackbufAttrs conf isPanSecured seqno).securityLevel = (eackLevel conf isPanSecured).toUInt16 := by
  unfold eackbufAttrs eackLevel
  cases conf.security with
  | none => rfl
  | some security => cases isPanSecured <;> rfl

theorem eackLevel_eq_zero_iff :
    (eackbufAttrs conf isPanSecured seqno).securityLevel = 0 ↔ eackLevel conf isPanSecured = 0 := by
  rw [eackbufAttrs_securityLevel, ← UInt16.toNat_inj, ← UInt8.toNat_inj, UInt8.toNat_toUInt16]
  rfl

def eackSecurityEnabled (params : Frame802154) : UInt8 :=
  if conf.framer.llsec.usesAuxHeader then
    if eackLevel conf isPanSecured ≠ 0 then 1 else params.fcf.securityEnabled
  else 0

theorem eackParams_fcf (params : Frame802154) :
    (eackParams conf panId isPanSecured nodeAddr destAddr seqno params).fcf =
      { frameType := ackFrame
        securityEnabled := eackSecurityEnabled conf isPanSecured params
        framePending := 0
        ackRequired := 0
        panidCompression := 0
        sequenceNumberSuppression := if conf.framer.supprSeqno then 1 else 0
        ieListPresent := 1
        destAddrMode := if conf.eackWithDestAddr then longAddrMode else noAddr
        frameVersion := ieee802154of2015
        srcAddrMode := if conf.eackWithSrcAddr then longAddrMode else noAddr } := by
  have level := eackLevel_eq_zero_iff conf isPanSecured seqno
  have version := conf.version
  have attrs : (eackbufAttrs conf isPanSecured seqno).frameType = 2 ∧
      (eackbufAttrs conf isPanSecured seqno).macAck = 0 ∧
      (eackbufAttrs conf isPanSecured seqno).macMetadata = 1 ∧
      (eackbufAttrs conf isPanSecured seqno).macNoDestAddr =
        (if conf.eackWithDestAddr then 0 else 1) ∧
      (eackbufAttrs conf isPanSecured seqno).macNoSrcAddr =
        (if conf.eackWithSrcAddr then 0 else 1) := by
    unfold eackbufAttrs
    cases conf.security with
    | none => exact ⟨rfl, rfl, rfl, rfl, rfl⟩
    | some security => cases isPanSecured <;> exact ⟨rfl, rfl, rfl, rfl, rfl⟩
  obtain ⟨type, ack, metadata, noDest, noSrc⟩ := attrs
  simp only [eackParams, framer802154SetupParams, setupSecurity, type, ack, metadata, noDest, noSrc,
    eackSecurityEnabled, ne_eq, level, version]
  cases conf.eackWithDestAddr <;> cases conf.eackWithSrcAddr <;>
    cases conf.framer.llsec.usesAuxHeader <;> rfl

theorem eackParams_setPanidCompression (params : Frame802154) :
    let sent := eackParams conf panId isPanSecured nodeAddr destAddr seqno params
    setPanidCompression sent = sent := by
  intro sent
  apply setPanidCompression_of_2015
  rw [eackParams_fcf]

theorem eackParams_fields (params : Frame802154) :
    let sent := eackParams conf panId isPanSecured nodeAddr destAddr seqno params
    sent.seq = seqno ∧ sent.destPid = panId ∧ sent.srcPid = panId ∧
      (conf.eackWithDestAddr → sent.destAddr = destAddr) ∧
      (conf.eackWithSrcAddr → sent.srcAddr = nodeAddr) := by
  intro sent
  have number : (eackbufAttrs conf isPanSecured seqno).macSeqno.toUInt8 = seqno := by
    unfold eackbufAttrs
    cases conf.security with
    | none => exact UInt8.toUInt8_toUInt16 seqno
    | some security => cases isPanSecured <;> exact UInt8.toUInt8_toUInt16 seqno
  refine ⟨number, rfl, rfl, ?_, ?_⟩
  · intro present
    simp only [sent, eackParams, framer802154SetupParams, setupSecurity, present]
    cases conf.eackWithSrcAddr <;> cases conf.framer.llsec.usesAuxHeader <;> rfl
  · intro present
    simp only [sent, eackParams, framer802154SetupParams, setupSecurity, present]
    cases conf.framer.llsec.usesAuxHeader <;> rfl

theorem eackParams_auxHdr (params : Frame802154) (uses : conf.framer.llsec.usesAuxHeader = true) :
    let aux := (eackParams conf panId isPanSecured nodeAddr destAddr seqno params).auxHdr
    aux.securityControl.securityLevel = eackLevel conf isPanSecured ∧
      aux.securityControl.frameCounterSuppression = 1 ∧ aux.securityControl.frameCounterSize = 1 ∧
      (conf.framer.llsec.usesExplicitKeys →
        aux.securityControl.keyIdMode = (eackbufAttrs conf isPanSecured seqno).keyIdMode.toUInt8 ∧
        aux.keyIndex = (eackbufAttrs conf isPanSecured seqno).keyIndex.toUInt8) := by
  intro aux
  have level : (eackbufAttrs conf isPanSecured seqno).securityLevel.toUInt8 =
      eackLevel conf isPanSecured := by
    rw [eackbufAttrs_securityLevel, UInt8.toUInt8_toUInt16]
  have form : aux = { (eackParams conf panId isPanSecured nodeAddr destAddr seqno params).auxHdr with
      securityControl := ⟨(eackbufAttrs conf isPanSecured seqno).securityLevel.toUInt8,
        if conf.framer.llsec.usesExplicitKeys then
          (eackbufAttrs conf isPanSecured seqno).keyIdMode.toUInt8
        else params.auxHdr.securityControl.keyIdMode, 1, 1⟩
      keyIndex := if conf.framer.llsec.usesExplicitKeys then
          (eackbufAttrs conf isPanSecured seqno).keyIndex.toUInt8
        else params.auxHdr.keyIndex } := by
    simp only [aux, eackParams, framer802154SetupParams, setupSecurity, uses, if_true]
    cases conf.eackWithDestAddr <;> cases conf.eackWithSrcAddr <;> rfl
  rw [form]
  refine ⟨level, rfl, rfl, fun explicit => ?_⟩
  exact ⟨if_pos explicit, if_pos explicit⟩

theorem eackbufAttrs_keyIdMode :
    (eackbufAttrs conf isPanSecured seqno).keyIdMode.toUInt8 = 0 ∨
      (eackbufAttrs conf isPanSecured seqno).keyIdMode.toUInt8 = 1 := by
  unfold eackbufAttrs
  cases conf.security with
  | none => exact Or.inl rfl
  | some security =>
    cases isPanSecured
    · exact Or.inl rfl
    · exact Or.inr rfl

theorem eackParams_auxSecLen (params : Frame802154) :
    auxSecLen conf.framer.llsec (eackParams conf panId isPanSecured nodeAddr destAddr seqno params) =
      if conf.framer.llsec.usesAuxHeader ∧ eackSecurityEnabled conf isPanSecured params &&& 1 ≠ 0 then
        1 + (if conf.framer.llsec.usesExplicitKeys then
          getKeyIdLen (eackbufAttrs conf isPanSecured seqno).keyIdMode.toUInt8 else 0)
      else 0 := by
  rw [auxSecLen, eackParams_fcf]
  cases uses : conf.framer.llsec.usesAuxHeader with
  | false => simp
  | true =>
    obtain ⟨-, suppressed, -, explicit⟩ := eackParams_auxHdr conf panId isPanSecured nodeAddr
      destAddr seqno params uses
    by_cases bit : eackSecurityEnabled conf isPanSecured params &&& 1 = 0
    · simp [bit]
    · cases keys : conf.framer.llsec.usesExplicitKeys with
      | false => simp [bit, suppressed]
      | true => simp [bit, suppressed, (explicit keys).1]

theorem eackParams_createAuxHdr (length : Nat) (params : Frame802154)
    (uses : conf.framer.llsec.usesAuxHeader = true) :
    createAuxHdr conf.framer.llsec 0 length
        (eackParams conf panId isPanSecured nodeAddr destAddr seqno params).auxHdr =
      createAuxHdr conf.framer.llsec 0 length
        (eackParams conf panId isPanSecured nodeAddr destAddr seqno frame802154Zero).auxHdr := by
  obtain ⟨level, suppressed, size, explicit⟩ := eackParams_auxHdr conf panId isPanSecured nodeAddr
    destAddr seqno params uses
  obtain ⟨level', suppressed', size', explicit'⟩ := eackParams_auxHdr conf panId isPanSecured
    nodeAddr destAddr seqno frame802154Zero uses
  have one : ¬ (1 : UInt8) = 0 := by decide
  cases keys : conf.framer.llsec.usesExplicitKeys with
  | false =>
    simp [createAuxHdr, createAuxFields, createScf, createFrameCounter, createKeyId, keys, level,
      suppressed, size, level', suppressed', size']
  | true =>
    obtain ⟨mode, index⟩ := explicit keys
    obtain ⟨mode', index'⟩ := explicit' keys
    -- the key source is not sent with either key mode
    rcases eackbufAttrs_keyIdMode conf isPanSecured seqno with implicit | oneByte
    · rw [implicit] at mode mode'
      simp [createAuxHdr, createAuxFields, createScf, createFrameCounter, createKeyId, keys, level,
        suppressed, size, level', suppressed', size', mode, mode']
    · rw [oneByte] at mode mode'
      simp [createAuxHdr, createAuxFields, createScf, createFrameCounter, createKeyId, keys, level,
        suppressed, size, level', suppressed', size', mode, mode', index, index']

def eackStack (securityEnabled : UInt8) : Frame802154 :=
  { frame802154Zero with fcf := { frame802154Zero.fcf with securityEnabled := securityEnabled } }

theorem createAddr_noAddr (addr : LinkAddr) : createAddr (addrLen (noAddr &&& 3)) addr = [] := by
  have empty : addrLen (noAddr &&& 3) = 0 := by decide
  rw [empty]
  rfl

variable {params : Frame802154}

theorem eackParams_sameOnAir {bit : UInt8}
    (same : eackSecurityEnabled conf isPanSecured params &&& 1 =
      eackSecurityEnabled conf isPanSecured (eackStack bit) &&& 1) :
    SameOnAir conf.framer.llsec
      (eackParams conf panId isPanSecured nodeAddr destAddr seqno (eackStack bit))
      (eackParams conf panId isPanSecured nodeAddr destAddr seqno params) := by
  have fcf := eackParams_fcf conf panId isPanSecured nodeAddr destAddr seqno params
  have fcf' := eackParams_fcf conf panId isPanSecured nodeAddr destAddr seqno (eackStack bit)
  obtain ⟨seq, destPid, srcPid, dest, src⟩ :=
    eackParams_fields conf panId isPanSecured nodeAddr destAddr seqno params
  obtain ⟨seq', destPid', srcPid', dest', src'⟩ :=
    eackParams_fields conf panId isPanSecured nodeAddr destAddr seqno (eackStack bit)
  have auxLen : auxSecLen conf.framer.llsec
      (eackParams conf panId isPanSecured nodeAddr destAddr seqno params) =
      auxSecLen conf.framer.llsec
        (eackParams conf panId isPanSecured nodeAddr destAddr seqno (eackStack bit)) := by
    rw [eackParams_auxSecLen, eackParams_auxSecLen, same]
  refine ⟨?_, ?_, ?_, seq.trans seq'.symm, ⟨destPid.trans destPid'.symm, srcPid.trans srcPid'.symm⟩,
    ?_, ?_, auxLen, ?_⟩
  · rw [fcf']
  · rw [fcf, fcf']
    exact same
  · rw [fcf, fcf']
  · rw [fcf']
    cases present : conf.eackWithDestAddr with
    | true => rw [dest present, dest' present]
    | false => exact (createAddr_noAddr _).trans (createAddr_noAddr _).symm
  · rw [fcf']
    cases present : conf.eackWithSrcAddr with
    | true => rw [src present, src' present]
    | false => exact (createAddr_noAddr _).trans (createAddr_noAddr _).symm
  · cases uses : conf.framer.llsec.usesAuxHeader with
    | true =>
      rw [eackParams_createAuxHdr conf panId isPanSecured nodeAddr destAddr seqno _ params uses,
        eackParams_createAuxHdr conf panId isPanSecured nodeAddr destAddr seqno _ (eackStack bit)
          uses]
    | false =>
      rw [eackParams_auxSecLen, uses]
      rfl

def plainEackLen : Nat :=
  2 + (if conf.framer.supprSeqno then 0 else 1) +
    (if conf.eackWithDestAddr || conf.eackWithSrcAddr then 2 else 0) +
    (if conf.eackWithDestAddr then 8 else 0) + (if conf.eackWithSrcAddr then 8 else 0)

theorem eackParams_hdrlen (params : Frame802154) :
    frame802154Hdrlen conf.framer.llsec
        (eackParams conf panId isPanSecured nodeAddr destAddr seqno params) =
      plainEackLen conf + auxSecLen conf.framer.llsec
        (eackParams conf panId isPanSecured nodeAddr destAddr seqno params) := by
  have fcf := eackParams_fcf conf panId isPanSecured nodeAddr destAddr seqno params
  have set := eackParams_setPanidCompression conf panId isPanSecured nodeAddr destAddr seqno params
  simp only [frame802154Hdrlen, set, fieldLen, fcf, plainEackLen]
  cases conf.framer.supprSeqno <;> cases conf.eackWithDestAddr <;> cases conf.eackWithSrcAddr <;>
    simp [hasDestPanid, hasSrcPanid, addrLen, ieee802154of2015, noAddr, longAddrMode, shortAddrMode]

variable (bufLen : Int) (drift : Int16) (nack : Bool)

theorem createEack_eq_of_bit {bit : UInt8}
    (same : eackSecurityEnabled conf isPanSecured params &&& 1 =
      eackSecurityEnabled conf isPanSecured (eackStack bit) &&& 1) :
    tschPacketCreateEack conf panId isPanSecured nodeAddr bufLen destAddr seqno drift nack params =
      tschPacketCreateEack conf panId isPanSecured nodeAddr bufLen destAddr seqno drift nack
        (eackStack bit) := by
  have alike := eackParams_sameOnAir conf panId isPanSecured nodeAddr destAddr seqno same
  rw [tschPacketCreateEack_eq, tschPacketCreateEack_eq]
  dsimp only
  rw [alike.hdrlen, alike.create]

def EackDetermined : Prop :=
  conf.framer.llsec.usesAuxHeader = false ∨ eackLevel conf isPanSecured ≠ 0 ∨
    bufLen < plainEackLen conf + 4

theorem createEack_plain (exposed : ¬ EackDetermined conf isPanSecured bufLen) : ∃ bytes,
    tschPacketCreateEack conf panId isPanSecured nodeAddr bufLen destAddr seqno drift nack
      (eackStack 0) = some bytes := by
  simp only [EackDetermined, not_or, ne_eq, not_not, not_lt] at exposed
  obtain ⟨-, unsecured, room⟩ := exposed
  have disabled : eackSecurityEnabled conf isPanSecured (eackStack 0) = 0 := by
    simp [eackSecurityEnabled, unsecured, eackStack, frame802154Zero]
  have noAux : auxSecLen conf.framer.llsec
      (eackParams conf panId isPanSecured nodeAddr destAddr seqno (eackStack 0)) = 0 := by
    rw [eackParams_auxSecLen, disabled]
    simp
  rw [tschPacketCreateEack_eq]
  dsimp only
  rw [eackParams_hdrlen, noAux, createIeHeaderAckNackTimeCorrection, createIe, if_pos]
  · exact ⟨_, rfl⟩
  · have two : ∀ value : UInt16, (write16 value).length = 2 := fun _ => rfl
    rw [two]
    push_cast
    omega

variable {conf panId isPanSecured nodeAddr destAddr seqno bufLen drift nack}

theorem createEack_none (short : bufLen < plainEackLen conf + 4) :
    tschPacketCreateEack conf panId isPanSecured nodeAddr bufLen destAddr seqno drift nack params =
      none := by
  rw [tschPacketCreateEack_eq]
  dsimp only
  rw [createIeHeaderAckNackTimeCorrection, createIe, if_neg, Option.map_none]
  rw [eackParams_hdrlen]
  have two : ∀ value : UInt16, (write16 value).length = 2 := fun _ => rfl
  rw [two]
  push_cast
  omega

theorem createEack_eq_of_determined (determined : EackDetermined conf isPanSecured bufLen)
    (params : Frame802154) :
    tschPacketCreateEack conf panId isPanSecured nodeAddr bufLen destAddr seqno drift nack params =
      tschPacketCreateEack conf panId isPanSecured nodeAddr bufLen destAddr seqno drift nack
        (eackStack 0) := by
  rcases determined with unused | secured | short
  · apply createEack_eq_of_bit
    simp [eackSecurityEnabled, unused]
  · apply createEack_eq_of_bit
    simp [eackSecurityEnabled, secured]
  · rw [createEack_none short, createEack_none short]

theorem createEack_head {bytes : List UInt8}
    (created : tschPacketCreateEack conf panId isPanSecured nodeAddr bufLen destAddr seqno drift nack
      params = some bytes) :
    bytes.head? = some (2 ||| bitField (eackSecurityEnabled conf isPanSecured params) 1 3) := by
  rw [tschPacketCreateEack_eq] at created
  obtain ⟨element, -, rfl⟩ := Option.map_eq_some_iff.mp created
  have set := eackParams_setPanidCompression conf panId isPanSecured nodeAddr destAddr seqno params
  simp only [frame802154Create, set, frame802154CreateFcf, eackParams_fcf]
  have type : bitField ackFrame 7 0 = 2 := by decide
  have zero : ∀ position, bitField 0 1 position = 0 := by simp [bitField]
  simp [type, zero]

theorem createEack_determined_iff :
    (∀ first second : Frame802154,
      tschPacketCreateEack conf panId isPanSecured nodeAddr bufLen destAddr seqno drift nack first =
        tschPacketCreateEack conf panId isPanSecured nodeAddr bufLen destAddr seqno drift nack
          second) ↔ EackDetermined conf isPanSecured bufLen := by
  constructor
  · intro alike
    by_contra exposed
    obtain ⟨bytes, plain⟩ :=
      createEack_plain conf panId isPanSecured nodeAddr destAddr seqno bufLen drift nack exposed
    have garbled := (alike (eackStack 1) (eackStack 0)).trans plain
    have plainHead := createEack_head plain
    have garbledHead := createEack_head garbled
    simp only [EackDetermined, not_or, ne_eq, not_not, Bool.not_eq_false] at exposed
    obtain ⟨uses, unsecured, -⟩ := exposed
    rw [plainHead] at garbledHead
    simp only [eackSecurityEnabled, uses, unsecured, ne_eq, not_true_eq_false, if_true, if_false,
      eackStack] at garbledHead
    exact absurd garbledHead (by decide)
  · intro determined first second
    rw [createEack_eq_of_determined determined first, createEack_eq_of_determined determined second]

variable (conf panId isPanSecured nodeAddr destAddr seqno bufLen drift nack)

/-- `tsch_packet_create_eack` where `dest_addr` may be NULL: such an ACK has no destination. -/
def createEackTo (destAddr : Option LinkAddr) (params : Frame802154) : Option (List UInt8) :=
  match destAddr with
  | some addr =>
    tschPacketCreateEack conf panId isPanSecured nodeAddr bufLen addr seqno drift nack params
  | none =>
    tschPacketCreateEack { conf with eackWithDestAddr := false } panId isPanSecured nodeAddr bufLen
      linkaddrNull seqno drift nack params

def eackConfTo (destAddr : Option LinkAddr) : PacketConf :=
  { conf with eackWithDestAddr := conf.eackWithDestAddr && destAddr.isSome }

theorem createEackTo_determined_iff (destAddr : Option LinkAddr) :
    (∀ first second : Frame802154,
      createEackTo conf panId isPanSecured nodeAddr seqno bufLen drift nack destAddr first =
        createEackTo conf panId isPanSecured nodeAddr seqno bufLen drift nack destAddr second) ↔
      EackDetermined (eackConfTo conf destAddr) isPanSecured bufLen := by
  cases destAddr with
  | none =>
    have same : eackConfTo conf none = { conf with eackWithDestAddr := false } := by
      simp [eackConfTo]
    rw [same]
    exact createEack_determined_iff
  | some addr =>
    have same : eackConfTo conf (some addr) = conf := by
      simp [eackConfTo]
    rw [same]
    exact createEack_determined_iff

def securityBuild : PacketConf where
  framer := ⟨securityLlsec, ieee802154of2015, false, 128, UInt8.le_refl ieee802154of2015⟩
  ie := ⟨16, false⟩
  security := some defaultSecurity
  eackWithDestAddr := true
  eackWithSrcAddr := false
  eb := {}
  rtimerticksToUs := UInt32.toUInt16
  version := rfl
  explicitKeys := fun _ => rfl

theorem createEackTo_depends_on_stack :
    createEackTo securityBuild 0xabcd false linkaddrNull 7 127 0 false
        (some (Vector.replicate 8 2)) (eackStack 0) ≠
      createEackTo securityBuild 0xabcd false linkaddrNull 7 127 0 false
        (some (Vector.replicate 8 2)) (eackStack 1) := by
  decide

end MultiPhyTsch
