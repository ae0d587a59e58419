import MultiPhyTsch.Frame.Framer802154
import MultiPhyTsch.Frame.RoundTrip

/-! What a node recovers of a packet that another node of its PAN framed. -/

namespace MultiPhyTsch

variable (conf : FramerConf)

structure PacketbufAttrs.Fits (attrs : PacketbufAttrs) : Prop where
  macSeqno : attrs.macSeqno.toNat < 256
  macAck : attrs.macAck.toNat < 2
  macMetadata : attrs.macMetadata.toNat < 2
  frameType : attrs.frameType.toNat < 8
  securityLevel : attrs.securityLevel.toNat < 8
  keyIdMode : attrs.keyIdMode.toNat < 4
  keyIndex : attrs.keyIndex.toNat < 256

def seqnoSuppressed (packetbuf : Packetbuf) : Bool :=
  if packetbufHoldsBroadcast packetbuf then ieee802154of2015 ≤ conf.frameVersion
  else conf.supprSeqno

/-- A receiver has recovered the packet `sent`: a broadcast has the null address as its
receiver, an address that is not in the frame is null and a suppressed sequence number is
0xffff. Key attributes are carried by secured frames, the key index when the key is not
implicit. -/
structure Recovered (sent : Packetbuf) (hdrLen : Nat)
    (result : Option Nat × Packetbuf × Frame802154) : Prop where
  length : result.1 = some hdrLen
  frameType : result.2.1.attrs.frameType = sent.attrs.frameType
  sender : result.2.1.sender = if sent.attrs.macNoSrcAddr = 1 then linkaddrNull else sent.sender
  receiver : result.2.1.receiver =
    if sent.attrs.macNoDestAddr = 1 ∨ sent.receiver = tschBroadcastAddress then linkaddrNull
    else sent.receiver
  macSeqno : result.2.1.attrs.macSeqno =
    if seqnoSuppressed conf sent then 0xffff else sent.attrs.macSeqno
  framePending : result.2.2.fcf.framePending = 0
  ackRequired : result.2.2.fcf.ackRequired.toUInt16 =
    if packetbufHoldsBroadcast sent then 0 else sent.attrs.macAck
  securityLevel : conf.llsec.usesAuxHeader →
    result.2.1.attrs.securityLevel = sent.attrs.securityLevel
  keyIdMode : conf.llsec.usesAuxHeader → conf.llsec.usesExplicitKeys →
    sent.attrs.securityLevel ≠ 0 → result.2.1.attrs.keyIdMode = sent.attrs.keyIdMode
  keyIndex : conf.llsec.usesAuxHeader → conf.llsec.usesExplicitKeys →
    sent.attrs.securityLevel ≠ 0 → sent.attrs.keyIdMode ≠ 0 →
      result.2.1.attrs.keyIndex = sent.attrs.keyIndex

/-- The frames that go out without the destination PAN ID although they have a destination
address: broadcasts of 802.15.4-2015 without a source, and ACKs before 802.15.4-2015. -/
def DropsDestPanid (packetbuf : Packetbuf) : Prop :=
  packetbuf.attrs.macNoDestAddr ≠ 1 ∧
    ((conf.frameVersion = ieee802154of2015 ∧ packetbuf.receiver = linkaddrNull ∧
        packetbuf.attrs.macNoSrcAddr = 1) ∨
      (conf.frameVersion < ieee802154of2015 ∧ packetbuf.attrs.frameType = 2))

theorem toUInt8_toNat {value : UInt16} (small : value.toNat < 256) :
    value.toUInt8.toNat = value.toNat := by
  simp
  omega

theorem toUInt8_toUInt16 {value : UInt16} (small : value.toNat < 256) :
    value.toUInt8.toUInt16 = value := by
  apply UInt16.toNat_inj.mp
  simp
  omega

theorem createFrameParams_securityEnabled (panId : UInt16) (packetbuf : Packetbuf) :
    (createFrameParams conf panId packetbuf).fcf.securityEnabled =
      if conf.llsec.usesAuxHeader ∧ packetbuf.attrs.securityLevel ≠ 0 then 1 else 0 := by
  cases uses : conf.llsec.usesAuxHeader with
  | false => simp [createFrameParams, framer802154SetupParams, setupSecurity, uses]
  | true => simp [createFrameParams, framer802154SetupParams, setupSecurity, uses, frame802154Zero]

theorem createFrameParams_securityControl (panId : UInt16) (packetbuf : Packetbuf)
    (uses : conf.llsec.usesAuxHeader) :
    (createFrameParams conf panId packetbuf).auxHdr.securityControl =
      ⟨packetbuf.attrs.securityLevel.toUInt8,
        if conf.llsec.usesExplicitKeys then packetbuf.attrs.keyIdMode.toUInt8 else 0, 1, 1⟩ := by
  simp only [createFrameParams, framer802154SetupParams, setupSecurity, if_pos uses]
  rfl

theorem bit_lt (condition : Prop) [Decidable condition] :
    (if condition then (1 : UInt8) else 0).toNat < 2 := by
  split <;> decide

variable {packetbuf : Packetbuf}

theorem createFrameParams_wellFormed (panId : UInt16)
    (fits : packetbuf.attrs.Fits) : (createFrameParams conf panId packetbuf).WellFormed := by
  have known : conf.frameVersion.toNat ≤ 2 := conf.versionKnown
  obtain ⟨seqno, ack, metadata, type, level, mode, index⟩ := fits
  have fcf : (createFrameParams conf panId packetbuf).fcf.WellFormed := by
    refine ⟨?_, ?_, ?_, ?_, ?_, ?_, ?_, ?_, ?_, ?_⟩
    · change packetbuf.attrs.frameType.toUInt8.toNat < 8
      rwa [toUInt8_toNat (by omega)]
    · rw [createFrameParams_securityEnabled]
      exact bit_lt _
    · exact (by decide : (0 : UInt8).toNat < 2)
    · change (if packetbufHoldsBroadcast packetbuf then 0 else packetbuf.attrs.macAck.toUInt8).toNat < 2
      split
      · decide
      · rwa [toUInt8_toNat (by omega)]
    · exact bit_lt _
    · simp only [createFrameParams, framer802154SetupParams]
      split <;> exact bit_lt _
    · change packetbuf.attrs.macMetadata.toUInt8.toNat < 2
      rwa [toUInt8_toNat (by omega)]
    · simp only [createFrameParams, framer802154SetupParams]
      split
      · decide
      · split <;> decide
    · exact Nat.lt_of_le_of_lt known (by decide)
    · simp only [createFrameParams, framer802154SetupParams]
      split <;> decide
  refine ⟨fcf, ?_⟩
  cases uses : conf.llsec.usesAuxHeader with
  | false =>
    have zero : (createFrameParams conf panId packetbuf).auxHdr.securityControl = ⟨0, 0, 0, 0⟩ := by
      simp only [createFrameParams, framer802154SetupParams, setupSecurity, uses]
      rfl
    rw [zero]
    exact ⟨by decide, by decide, by decide, by decide⟩
  | true =>
    rw [createFrameParams_securityControl conf panId packetbuf uses]
    have one : (1 : UInt8).toNat < 2 := by decide
    refine ⟨?_, ?_, one, one⟩
    · dsimp only
      rwa [toUInt8_toNat (by omega)]
    · dsimp only
      split
      · rwa [toUInt8_toNat (by omega)]
      · decide

variable {panId : UInt16}

theorem createFrameParams_layout :
    SameLayout conf.llsec (setPanidCompression (createFrameParams conf panId packetbuf)) := by
  constructor
  · rintro ⟨version, dest, src, compressed⟩
    rw [setPanidCompression_version] at version
    rw [setPanidCompression_of_2015 version] at dest src compressed
    have uncompressed : (createFrameParams conf panId packetbuf).fcf.panidCompression =
        if (createFrameParams conf panId packetbuf).fcf.srcAddrMode = shortAddrMode ∨
          (createFrameParams conf panId packetbuf).fcf.destAddrMode = shortAddrMode then 1 else 0 := rfl
    rw [uncompressed, dest, src] at compressed
    exact absurd compressed (by decide)
  · intro uses _ _
    have sameAux : (setPanidCompression (createFrameParams conf panId packetbuf)).auxHdr =
        (createFrameParams conf panId packetbuf).auxHdr := by
      unfold setPanidCompression
      split <;> rfl
    rw [sameAux, createFrameParams_securityControl conf panId packetbuf uses]
    exact (by decide : (1 : UInt8) ≠ 0)

theorem createFrameParams_modes (panId : UInt16) (packetbuf : Packetbuf) :
    let fcf := (createFrameParams conf panId packetbuf).fcf
    fcf.frameVersion = conf.frameVersion ∧ fcf.frameType = packetbuf.attrs.frameType.toUInt8 ∧
    fcf.srcAddrMode = (if packetbuf.attrs.macNoSrcAddr = 1 then noAddr else longAddrMode) ∧
    fcf.destAddrMode = (if packetbuf.attrs.macNoDestAddr = 1 then noAddr
      else if packetbuf.receiver = linkaddrNull then shortAddrMode else longAddrMode) ∧
    fcf.panidCompression =
      if fcf.srcAddrMode = shortAddrMode ∨ fcf.destAddrMode = shortAddrMode then 1 else 0 := by
  refine ⟨rfl, rfl, rfl, ?_, rfl⟩
  simp [createFrameParams, framer802154SetupParams, packetbufHoldsBroadcast]

theorem hasPanids_2015 {fcf : Frame802154Fcf} (version : fcf.frameVersion = ieee802154of2015)
    (src : fcf.srcAddrMode = noAddr ∨ fcf.srcAddrMode = longAddrMode)
    (dest : fcf.destAddrMode = shortAddrMode ∨ fcf.destAddrMode = longAddrMode)
    (compression : fcf.panidCompression =
      if fcf.srcAddrMode = shortAddrMode ∨ fcf.destAddrMode = shortAddrMode then 1 else 0) :
    hasDestPanid fcf = !(fcf.srcAddrMode == noAddr && fcf.destAddrMode == shortAddrMode) ∧
      hasSrcPanid fcf = false := by
  rcases src with src | src <;> rcases dest with dest | dest <;>
    simp only [hasDestPanid, hasSrcPanid, version, src, dest, compression, if_true] <;> decide

theorem hasPanids_before_2015 (fcf : Frame802154Fcf) (version : fcf.frameVersion ≠ ieee802154of2015)
    (dest : fcf.destAddrMode = shortAddrMode ∨ fcf.destAddrMode = longAddrMode) :
    hasDestPanid fcf = (fcf.frameType != ackFrame) ∧
      (fcf.frameType = ackFrame → hasSrcPanid fcf = false) := by
  constructor
  · have present : (fcf.destAddrMode &&& 3 != 0) = true := by
      rcases dest with dest | dest <;> rw [dest] <;> decide
    simp [hasDestPanid, version, present]
  · intro type
    simp [hasSrcPanid, version, type]

theorem setPanidCompression_keeps (frame : Frame802154) :
    let sent := setPanidCompression frame
    sent.fcf.frameType = frame.fcf.frameType ∧ sent.fcf.destAddrMode = frame.fcf.destAddrMode ∧
      sent.destPid = frame.destPid := by
  intro sent
  simp only [sent, setPanidCompression]
  split <;> exact ⟨rfl, rfl, rfl⟩

theorem frameType_ack {attrs : PacketbufAttrs} (fits : attrs.Fits) :
    attrs.frameType.toUInt8 = ackFrame ↔ attrs.frameType = 2 := by
  have small := fits.frameType
  rw [← UInt8.toNat_inj, ← UInt16.toNat_inj, toUInt8_toNat (by omega)]
  rfl

theorem parsedDestPid_create (panId : UInt16)
    (fits : packetbuf.attrs.Fits) (addressed : packetbuf.attrs.macNoDestAddr ≠ 1) :
    let sent := setPanidCompression (createFrameParams conf panId packetbuf)
    (DropsDestPanid conf packetbuf → parsedDestPid sent = 0) ∧
      (¬ DropsDestPanid conf packetbuf → parsedDestPid sent = panId) := by
  intro sent
  obtain ⟨version, type, src, dest, compression⟩ := createFrameParams_modes conf panId packetbuf
  rw [if_neg addressed] at dest
  have destMode : (createFrameParams conf panId packetbuf).fcf.destAddrMode = shortAddrMode ∨
      (createFrameParams conf panId packetbuf).fcf.destAddrMode = longAddrMode := by
    rw [dest]
    split <;> simp
  by_cases current : conf.frameVersion = ieee802154of2015
  · have same : sent = createFrameParams conf panId packetbuf :=
      setPanidCompression_of_2015 (version.trans current)
    obtain ⟨hasDest, hasSrc⟩ := hasPanids_2015 (version.trans current)
      (by rw [src]; split <;> simp) destMode compression
    have pid : parsedDestPid sent = if hasDestPanid sent.fcf then panId else 0 := by
      rw [same]
      simp only [parsedDestPid, hasSrc, Bool.false_eq_true, false_and, if_false]
      rfl
    rw [pid, same, hasDest, src, dest]
    unfold DropsDestPanid
    by_cases null : packetbuf.receiver = linkaddrNull <;>
      by_cases unsourced : packetbuf.attrs.macNoSrcAddr = 1 <;>
        simp [null, unsourced, addressed, current, noAddr, shortAddrMode, longAddrMode]
  · have earlier : conf.frameVersion < ieee802154of2015 :=
      UInt8.lt_of_le_of_ne conf.versionKnown current
    obtain ⟨sameType, sameDest, samePid⟩ :=
      setPanidCompression_keeps (createFrameParams conf panId packetbuf)
    obtain ⟨hasDest, hasSrc⟩ := hasPanids_before_2015 sent.fcf
      (by rw [setPanidCompression_version, version]; exact current)
      (by rw [sameDest]; exact destMode)
    have ack : sent.fcf.frameType = ackFrame ↔ packetbuf.attrs.frameType = 2 := by
      rw [sameType, type, frameType_ack fits]
    have drops : DropsDestPanid conf packetbuf ↔ sent.fcf.frameType = ackFrame := by
      unfold DropsDestPanid
      simp [addressed, current, earlier, ack]
    rw [drops]
    constructor
    · intro type
      simp [parsedDestPid, hasDest, hasSrc type, type]
    · intro type
      simp only [parsedDestPid, hasDest, type, bne_iff_ne, ne_eq, not_false_eq_true, not_true,
        and_false, if_false, if_true]
      exact samePid

variable {hdrLen : Nat}

theorem framer802154Create_some {packetbuf sent : Packetbuf}
    (created : framer802154Create conf panId packetbuf = some (hdrLen, sent)) :
    let header := (frame802154Create conf.llsec 0 (createFrameParams conf panId packetbuf)).2
    panId ≠ 0xffff ∧ hdrLen = frame802154Hdrlen conf.llsec (createFrameParams conf panId packetbuf) ∧
      header.length + packetbufTotlen packetbuf ≤ conf.packetbufSize ∧
      sent = { packetbuf with hdr := header ++ packetbuf.hdr } := by
  intro header
  unfold framer802154Create packetbufHdralloc at created
  split at created
  next reserved => simp at created
  next assigned =>
    dsimp only at created
    split at created
    next long => simp at created
    next short =>
      simp only [Option.map_some, Option.some.injEq, Prod.mk.injEq] at created
      obtain ⟨length, rfl⟩ := created
      exact ⟨assigned, length.symm, Nat.not_lt.mp short, rfl⟩

section

variable {packetbuf sent : Packetbuf} (fits : packetbuf.attrs.Fits)
  (created : framer802154Create conf panId packetbuf = some (hdrLen, sent))
include fits created

theorem framer802154Create_eq :
    let header := (frame802154Create conf.llsec 0 (createFrameParams conf panId packetbuf)).2
    panId ≠ 0xffff ∧ hdrLen = header.length ∧
      packetbufFrame sent = header ++ packetbufFrame packetbuf ∧
      (packetbufFrame sent).length ≤ conf.packetbufSize := by
  intro header
  obtain ⟨assigned, length, short, rfl⟩ := framer802154Create_some conf created
  have sameLength : header.length = frame802154Hdrlen conf.llsec
      (createFrameParams conf panId packetbuf) :=
    frame802154Create_length conf.llsec 0
      (createFrameParams_wellFormed conf panId fits).securityControl.keyIdMode
  have frame : packetbufFrame { packetbuf with hdr := header ++ packetbuf.hdr } =
      header ++ packetbufFrame packetbuf := by simp [packetbufFrame]
  refine ⟨assigned, by omega, frame, ?_⟩
  change (packetbufFrame { packetbuf with hdr := header ++ packetbuf.hdr }).length ≤ _
  rw [frame]
  simp only [packetbufTotlen] at short
  simp only [packetbufFrame, List.length_append]
  omega

theorem framer802154Parse_create (stack : Frame802154) :
    let frame := setPanidCompression (createFrameParams conf panId packetbuf)
    let received := packetbufCopyfrom conf (packetbufFrame sent)
    ∃ parsed, frame802154Parse conf.llsec received.data stack = (hdrLen, parsed) ∧ hdrLen ≠ 0 ∧
      hdrLen ≤ received.data.length ∧
      ReadsBack conf.llsec frame (frame802154Create conf.llsec 0
        (createFrameParams conf panId packetbuf)).2 (packetbufFrame packetbuf) (hdrLen, parsed) ∧
      parsed.destPid = parsedDestPid frame := by
  intro frame received
  obtain ⟨-, length, bytes, short⟩ := framer802154Create_eq conf fits created
  have data : received.data = (frame802154Create conf.llsec 0
      (createFrameParams conf panId packetbuf)).2 ++ packetbufFrame packetbuf := by
    rw [← bytes]
    exact List.take_of_length_le short
  obtain ⟨reads, pid, -⟩ := frame802154Parse_create conf.llsec 0
    (createFrameParams_wellFormed conf panId fits) (createFrameParams_layout conf)
    (packetbufFrame packetbuf) stack
  rw [← data] at reads pid
  have positive : 2 ≤ hdrLen := by
    rw [length, frame802154Create_length conf.llsec 0
      (createFrameParams_wellFormed conf panId fits).securityControl.keyIdMode, frame802154Hdrlen]
    omega
  have same : frame802154Parse conf.llsec received.data stack =
      (hdrLen, (frame802154Parse conf.llsec received.data stack).2) := by
    rw [length, ← reads.length]
  rw [same] at reads
  refine ⟨_, same, by omega, ?_, reads, pid⟩
  rw [data, List.length_append, length]
  omega

end

theorem framer802154Parse_eq (panId : UInt16) {stack parsed : Frame802154} {received : Packetbuf}
    (parse : frame802154Parse conf.llsec received.data stack = (hdrLen, parsed))
    (positive : hdrLen ≠ 0) (bounded : hdrLen ≤ received.data.length) :
    let result := framer802154Parse conf panId stack received
    result.2.2 = parsed ∧
      (parsed.fcf.destAddrMode ≠ 0 ∧ parsed.destPid ≠ panId ∧ parsed.destPid ≠ broadcastPanId →
        result.1 = none) ∧
      (¬ (parsed.fcf.destAddrMode ≠ 0 ∧ parsed.destPid ≠ panId ∧ parsed.destPid ≠ broadcastPanId) →
        result.1 = some hdrLen ∧ result.2.1.attrs = parsedAttrs conf parsed received.attrs ∧
        result.2.1.sender = parsed.srcAddr ∧
        result.2.1.receiver =
          if parsed.fcf.destAddrMode ≠ 0 ∧
            ¬ frame802154IsBroadcastAddr parsed.fcf.destAddrMode parsed.destAddr then
            parsed.destAddr else received.receiver) := by
  intro result
  have reduced : packetbufHdrreduce hdrLen received = some { received with
      hdr := received.hdr ++ received.data.take hdrLen
      data := received.data.drop hdrLen } := if_neg (by omega)
  have resultEq : result = framer802154Parse conf panId stack received := rfl
  unfold framer802154Parse at resultEq
  rw [parse] at resultEq
  simp only [if_neg positive, reduced] at resultEq
  split at resultEq
  next foreign =>
    rw [resultEq]
    exact ⟨rfl, fun _ => rfl, fun accepted => absurd foreign accepted⟩
  next accepted =>
    rw [resultEq]
    exact ⟨rfl, fun foreign => absurd foreign accepted, fun _ => ⟨rfl, rfl, rfl, rfl⟩⟩

theorem setPanidCompression_eq (frame : Frame802154) :
    ∃ bit, setPanidCompression frame =
      { frame with fcf := { frame.fcf with panidCompression := bit } } := by
  unfold setPanidCompression
  split
  · exact ⟨_, rfl⟩
  · exact ⟨frame.fcf.panidCompression, rfl⟩

theorem SameAddr.eq_of_long {sent parsed : LinkAddr} (same : SameAddr longAddrMode sent parsed) :
    parsed = sent := by
  apply Vector.toList_inj.mp
  have whole : ∀ addr : LinkAddr, addr.toList.take (addrLen longAddrMode) = addr.toList := by
    intro addr
    apply List.take_of_length_le
    simp [addrLen, shortAddrMode, longAddrMode]
  rw [← whole parsed, ← whole sent]
  exact same

theorem frame802154IsBroadcastAddr_long (addr : LinkAddr) :
    frame802154IsBroadcastAddr longAddrMode addr ↔ addr = tschBroadcastAddress := by
  rcases addr with ⟨⟨items⟩, size⟩
  match items, size with
  | [a, b, c, d, e, f, g, h], _ =>
    simp [frame802154IsBroadcastAddr, tschBroadcastAddress, longAddrMode, shortAddrMode,
      Vector.replicate, Array.replicate]

section

variable (panId : UInt16) (parsed : Frame802154)

theorem recovered_receiver
    (same : SameAddr (createFrameParams conf panId packetbuf).fcf.destAddrMode
      (createFrameParams conf panId packetbuf).destAddr parsed.destAddr)
    (mode : parsed.fcf.destAddrMode = (createFrameParams conf panId packetbuf).fcf.destAddrMode) :
    (if parsed.fcf.destAddrMode ≠ 0 ∧
        ¬ frame802154IsBroadcastAddr parsed.fcf.destAddrMode parsed.destAddr then parsed.destAddr
      else linkaddrNull) =
    if packetbuf.attrs.macNoDestAddr = 1 ∨ packetbuf.receiver = tschBroadcastAddress then linkaddrNull
    else packetbuf.receiver := by
  obtain ⟨-, -, -, dest, -⟩ := createFrameParams_modes conf panId packetbuf
  rw [mode]
  by_cases unaddressed : packetbuf.attrs.macNoDestAddr = 1
  · rw [if_pos unaddressed] at dest
    simp [dest, unaddressed, noAddr]
  · rw [if_neg unaddressed] at dest
    by_cases null : packetbuf.receiver = linkaddrNull
    · rw [if_pos null] at dest
      have both : parsed.destAddr.toList.take 2 = [0xff, 0xff] := by
        rw [dest] at same
        simpa [SameAddr, createFrameParams, packetbufHoldsBroadcast, null, addrLen] using same
      have broadcast : frame802154IsBroadcastAddr shortAddrMode parsed.destAddr = true := by
        simp [frame802154IsBroadcastAddr, both]
      rw [dest, if_neg (by simp [broadcast]), null]
      split <;> rfl
    · rw [if_neg null] at dest
      have receiver : parsed.destAddr = packetbuf.receiver := by
        rw [dest] at same
        have sent := same.eq_of_long
        simpa [createFrameParams, packetbufHoldsBroadcast, null] using sent
      rw [dest, receiver]
      by_cases broadcast : packetbuf.receiver = tschBroadcastAddress
      · simp [broadcast, (frame802154IsBroadcastAddr_long _).mpr]
      · have unicast : frame802154IsBroadcastAddr longAddrMode packetbuf.receiver = false :=
          Bool.eq_false_iff.mpr fun all => broadcast ((frame802154IsBroadcastAddr_long _).mp all)
        have present : longAddrMode ≠ 0 := by decide
        rw [if_pos ⟨present, by simp [unicast]⟩, if_neg (by simp [unaddressed, broadcast])]

theorem recovered_seqno (fits : packetbuf.attrs.Fits)
    (suppression : parsed.fcf.sequenceNumberSuppression =
      (createFrameParams conf panId packetbuf).fcf.sequenceNumberSuppression)
    (seq : (createFrameParams conf panId packetbuf).fcf.sequenceNumberSuppression = 0 →
      parsed.seq = packetbuf.attrs.macSeqno.toUInt8) :
    (if parsed.fcf.sequenceNumberSuppression = 0 then parsed.seq.toUInt16 else 0xffff) =
      if seqnoSuppressed conf packetbuf then 0xffff else packetbuf.attrs.macSeqno := by
  have bit : (createFrameParams conf panId packetbuf).fcf.sequenceNumberSuppression =
      if seqnoSuppressed conf packetbuf then 1 else 0 := by
    simp only [createFrameParams, framer802154SetupParams, seqnoSuppressed]
    split <;> simp
  rw [suppression]
  cases suppressed : seqnoSuppressed conf packetbuf with
  | true => simp [bit, suppressed]
  | false =>
    have zero : (createFrameParams conf panId packetbuf).fcf.sequenceNumberSuppression = 0 := by
      simp [bit, suppressed]
    rw [if_pos zero, seq zero, toUInt8_toUInt16 fits.macSeqno]
    rfl

theorem recovered_security (fits : packetbuf.attrs.Fits) (uses : conf.llsec.usesAuxHeader)
    (enabled : parsed.fcf.securityEnabled =
      (createFrameParams conf panId packetbuf).fcf.securityEnabled)
    (same : (createFrameParams conf panId packetbuf).fcf.securityEnabled = 1 →
      SameKeyFields conf.llsec (createFrameParams conf panId packetbuf).auxHdr parsed.auxHdr) :
    let attrs := parsedAttrs conf parsed packetbufClear.attrs
    attrs.securityLevel = packetbuf.attrs.securityLevel ∧
      (conf.llsec.usesExplicitKeys → packetbuf.attrs.securityLevel ≠ 0 →
        attrs.keyIdMode = packetbuf.attrs.keyIdMode ∧
        (packetbuf.attrs.keyIdMode ≠ 0 → attrs.keyIndex = packetbuf.attrs.keyIndex)) := by
  intro attrs
  obtain ⟨-, -, -, -, level, mode, index⟩ := fits
  have security := createFrameParams_securityEnabled conf panId packetbuf
  by_cases plain : packetbuf.attrs.securityLevel = 0
  · rw [if_neg (by simp [plain])] at security
    simp [attrs, parsedAttrs, enabled, security, plain, packetbufClear]
  · rw [if_pos ⟨uses, plain⟩] at security
    have keys := same security
    have control := createFrameParams_securityControl conf panId packetbuf uses
    have on : (conf.llsec.usesAuxHeader && parsed.fcf.securityEnabled != 0) = true := by
      simp [uses, enabled, security]
    simp only [attrs, parsedAttrs, on, if_true]
    refine ⟨?_, fun explicit _ => ⟨?_, fun keyed => ?_⟩⟩
    · rw [keys.securityLevel, control]
      exact toUInt8_toUInt16 (by omega)
    · rw [if_pos explicit, keys.keyIdMode explicit, control]
      simp only [explicit, if_true]
      exact toUInt8_toUInt16 (by omega)
    · have nonzero : (createFrameParams conf panId packetbuf).auxHdr.securityControl.keyIdMode ≠ 0 := by
        rw [control]
        simp only [explicit, if_true, ne_eq]
        rw [← UInt8.toNat_inj, toUInt8_toNat (by omega)]
        intro zero
        exact keyed (UInt16.toNat_inj.mp zero)
      have created : (createFrameParams conf panId packetbuf).auxHdr.keyIndex =
          packetbuf.attrs.keyIndex.toUInt8 := by
        simp [createFrameParams, framer802154SetupParams, setupSecurity, uses, explicit]
      rw [if_pos explicit, keys.keyIndex explicit nonzero, created]
      exact toUInt8_toUInt16 index

theorem recovered_sender (absent : parsed.fcf.srcAddrMode = noAddr → parsed.srcAddr = linkaddrNull)
    (mode : parsed.fcf.srcAddrMode = (createFrameParams conf panId packetbuf).fcf.srcAddrMode)
    (same : SameAddr (createFrameParams conf panId packetbuf).fcf.srcAddrMode
      packetbuf.sender parsed.srcAddr) :
    parsed.srcAddr =
      if packetbuf.attrs.macNoSrcAddr = 1 then linkaddrNull else packetbuf.sender := by
  obtain ⟨-, -, src, -, -⟩ := createFrameParams_modes conf panId packetbuf
  by_cases unsourced : packetbuf.attrs.macNoSrcAddr = 1
  · rw [if_pos unsourced] at src ⊢
    exact absent (mode.trans src)
  · rw [if_neg unsourced] at src ⊢
    rw [src] at same
    exact same.eq_of_long

end

theorem parsedAttrs_frameType (frame : Frame802154) (attrs : PacketbufAttrs) :
    (parsedAttrs conf frame attrs).frameType = frame.fcf.frameType.toUInt16 := by
  simp only [parsedAttrs]
  cases conf.llsec.usesAuxHeader && frame.fcf.securityEnabled != 0 <;> rfl

theorem parsedAttrs_macSeqno (frame : Frame802154) (attrs : PacketbufAttrs) :
    (parsedAttrs conf frame attrs).macSeqno =
      if frame.fcf.sequenceNumberSuppression = 0 then frame.seq.toUInt16 else 0xffff := by
  simp only [parsedAttrs]
  cases conf.llsec.usesAuxHeader && frame.fcf.securityEnabled != 0 <;> rfl

/-- A node of the same PAN recovers a created frame, unless the PAN ID is not 0 and the frame
goes out without it although it has a destination address. -/
theorem framer_round_trip_iff {panId : UInt16} {packetbuf sent : Packetbuf} {hdrLen : Nat}
    (fits : packetbuf.attrs.Fits)
    (created : framer802154Create conf panId packetbuf = some (hdrLen, sent))
    (stack : Frame802154) :
    Recovered conf packetbuf hdrLen (framer802154Parse conf panId stack
      (packetbufCopyfrom conf (packetbufFrame sent))) ↔
    (DropsDestPanid conf packetbuf → panId = 0) := by
  obtain ⟨parsed, parse, positive, bounded, reads, pid⟩ :=
    framer802154Parse_create conf fits created stack
  obtain ⟨frame, foreign, accepted⟩ := framer802154Parse_eq conf panId parse positive bounded
  generalize framer802154Parse conf panId stack
    (packetbufCopyfrom conf (packetbufFrame sent)) = result at frame foreign accepted ⊢
  obtain ⟨bit, sentEq⟩ := setPanidCompression_eq (createFrameParams conf panId packetbuf)
  obtain ⟨-, -, -, destMode, -⟩ := createFrameParams_modes conf panId packetbuf
  have fcf : parsed.fcf = { (createFrameParams conf panId packetbuf).fcf with
      panidCompression := bit } := by
    rw [reads.fcf, sentEq]
  have present : parsed.fcf.destAddrMode ≠ 0 ↔ packetbuf.attrs.macNoDestAddr ≠ 1 := by
    rw [fcf]
    change (createFrameParams conf panId packetbuf).fcf.destAddrMode ≠ 0 ↔ _
    rw [destMode]
    split
    · simp [*, noAddr]
    · split <;> simp [*, shortAddrMode, longAddrMode]
  constructor
  · intro recovered drops
    by_contra assigned
    have zero := (parsedDestPid_create conf panId fits drops.1).1 drops
    have dropped := foreign ⟨present.mpr drops.1, by rw [pid, zero]; exact Ne.symm assigned,
      by rw [pid, zero]; decide⟩
    rw [recovered.length] at dropped
    simp at dropped
  · intro kept
    have ours : ¬ (parsed.fcf.destAddrMode ≠ 0 ∧ parsed.destPid ≠ panId ∧
        parsed.destPid ≠ broadcastPanId) := by
      rintro ⟨addressed, other, -⟩
      obtain ⟨dropped, carried⟩ := parsedDestPid_create conf panId fits (present.mp addressed)
      by_cases drops : DropsDestPanid conf packetbuf
      · exact other (by rw [pid, dropped drops, kept drops])
      · exact other (by rw [pid, carried drops])
    obtain ⟨length, attrs, sender, receiver⟩ := accepted ours
    have seqno := recovered_seqno conf panId parsed fits (by rw [fcf]) (by
      intro numbered
      have carried := reads.seq (by rw [sentEq]; exact numbered)
      rw [sentEq] at carried
      exact carried)
    have security := fun uses => recovered_security conf panId parsed fits uses
      (by rw [fcf]) (by
        intro secured
        have keys := reads.auxHdr uses (by rw [sentEq]; exact secured)
        rw [sentEq] at keys
        exact keys)
    have noSrc : parsed.fcf.srcAddrMode = noAddr → parsed.srcAddr = linkaddrNull :=
      frame802154Parse_noSrc conf.llsec parse positive
    have src := recovered_sender conf panId parsed noSrc (by rw [fcf])
      (by have same := reads.srcAddr; rw [sentEq] at same; exact same)
    have dest := recovered_receiver conf panId parsed
      (by have same := reads.destAddr; rw [sentEq] at same; exact same) (by rw [fcf])
    refine ⟨length, ?_, sender.trans src, receiver.trans dest, ?_, ?_, ?_, ?_, ?_, ?_⟩
    · rw [attrs, parsedAttrs_frameType, fcf]
      have type := fits.frameType
      exact toUInt8_toUInt16 (by omega)
    · rw [attrs, parsedAttrs_macSeqno]
      exact seqno
    · rw [frame, fcf]
      rfl
    · rw [frame, fcf]
      change (if packetbufHoldsBroadcast packetbuf then 0
        else packetbuf.attrs.macAck.toUInt8).toUInt16 = _
      have ack := fits.macAck
      split
      · rfl
      · exact toUInt8_toUInt16 (by omega)
    · intro uses
      rw [attrs]
      exact (security uses).1
    · intro uses explicit secured
      rw [attrs]
      exact ((security uses).2 explicit secured).1
    · intro uses explicit secured keyed
      rw [attrs]
      exact ((security uses).2 explicit secured).2 keyed

def securedFramer : FramerConf :=
  ⟨⟨true, true⟩, ieee802154of2015, false, 128, UInt8.le_refl ieee802154of2015⟩

def dataPacket : Packetbuf :=
  ⟨[], [1, 2, 3], ⟨7, 1, 0, 0, 0, 1, 5, 1, 4⟩, Vector.replicate 8 2, Vector.replicate 8 1⟩

theorem dataPacket_recovered :
    ∃ hdrLen sent, framer802154Create securedFramer 0xabcd dataPacket = some (hdrLen, sent) ∧
      hdrLen = 23 ∧ Recovered securedFramer dataPacket hdrLen
        (framer802154Parse securedFramer 0xabcd default
          (packetbufCopyfrom securedFramer (packetbufFrame sent))) := by
  have fits : dataPacket.attrs.Fits :=
    ⟨by decide, by decide, by decide, by decide, by decide, by decide, by decide⟩
  refine ⟨_, _, rfl, by decide, ?_⟩
  refine (framer_round_trip_iff securedFramer fits rfl default).mpr ?_
  rintro ⟨-, ⟨-, null, -⟩ | ⟨early, -⟩⟩
  · exact absurd null (by decide)
  · exact absurd early (by decide)

/-- A broadcast without a source address goes out without the PAN ID, and a node of the same
PAN drops it as a frame of another PAN. -/
def unsourcedBroadcast : Packetbuf :=
  ⟨[], [1, 2, 3], ⟨7, 0, 0, 1, 0, 1, 0, 0, 0⟩, linkaddrNull, linkaddrNull⟩

theorem unsourcedBroadcast_lost :
    unsourcedBroadcast.attrs.Fits ∧
    ∃ hdrLen sent, framer802154Create securedFramer 0xabcd unsourcedBroadcast = some (hdrLen, sent) ∧
      packetbufFrame sent = [0x41, 0x29, 0xff, 0xff, 1, 2, 3] ∧
      (framer802154Parse securedFramer 0xabcd default
        (packetbufCopyfrom securedFramer (packetbufFrame sent))).1 = none ∧
      ¬ Recovered securedFramer unsourcedBroadcast hdrLen
        (framer802154Parse securedFramer 0xabcd default
          (packetbufCopyfrom securedFramer (packetbufFrame sent))) := by
  refine ⟨⟨by decide, by decide, by decide, by decide, by decide, by decide, by decide⟩,
    _, _, rfl, by decide, by decide, ?_⟩
  intro recovered
  exact absurd recovered.length (by decide)

end MultiPhyTsch
