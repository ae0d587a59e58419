import MultiPhyTsch.Tsch.Packet
import MultiPhyTsch.Tsch.SecuredRoundTrip
import MultiPhyTsch.Frame.FramerRoundTrip

/-! A received frame is tested twice: in the slot, which acknowledges it, and later in the
process that hands it to the upper layers. -/

namespace MultiPhyTsch

open Security

/-- What the slot knows when it looks at a frame. `stale` is the static frame of the last slot
and `behind` the bytes of the input buffer behind the frame. -/
structure RxContext where
  panId : UInt16
  nodeAddr : LinkAddr
  pan : PanMembership
  asn : TschAsn
  stale : Frame802154
  behind : List UInt8

structure AcceptedFrame where
  payload : List UInt8
  frame : Frame802154
  source : LinkAddr

variable (conf : PacketConf) (aes : CcmStar.BlockCipher (Vector UInt8 16))

def rxMaxLen : Nat := min tschPacketMaxLen conf.framer.packetbufSize

variable (context : RxContext)

/-- The check and decryption of a frame in the slot: the bytes without the code, none for a
frame that is not authentic. -/
def rxUnsecure (payload : List UInt8) (headerLen : Nat) (frame : Frame802154)
    (source : LinkAddr) : Option (List UInt8) :=
  match conf.security with
  | none => some payload
  | some security =>
    let (good, memory) := tschSecurityParseFrame aes security context.pan (payload ++ context.behind)
      headerLen ((payload.length : Int) - headerLen - tschSecurityMicLen frame) frame source
      context.asn
    if good then some (memory.take (payload.length - tschSecurityMicLen frame)) else none

/-- The tests of `tsch_rx_slot` on a received frame, up to the place where it decides whether to
acknowledge it. -/
def rxAccept (payload : List UInt8) : Option AcceptedFrame :=
  let (headerLen, frame) := frame802154Parse conf.framer.llsec payload context.stale
  if headerLen > 0 ∧ frame802154CheckDestPanid context.panId frame then
    match frame802154ExtractLinkaddr frame with
    | none => none
    | some (source, destination) =>
      if frame.fcf.frameType = dataFrame ∨ frame.fcf.frameType = beaconFrame then
        match rxUnsecure conf aes context payload headerLen frame source with
        | none => none
        | some payload =>
          if destination = context.nodeAddr ∨ destination = linkaddrNull then
            some ⟨payload, frame, source⟩
          else none
      else none
  else none

def rxEack (accepted : AcceptedFrame) (drift : Int16) (doNack : Bool)
    (params : Frame802154) : Option (List UInt8) :=
  if accepted.frame.fcf.ackRequired ≠ 0 then
    tschPacketCreateEack conf context.panId context.pan.isPanSecured context.nodeAddr (rxMaxLen conf)
      accepted.source accepted.frame.seq drift doNack params
  else none

/-- `tsch_rx_process_pending` hands a data frame to `packet_input`: what the framer then
returns. The outer option is none for a frame that is not handed over. -/
def rxProcessPending (payload : List UInt8) (frame stack : Frame802154) :
    Option (Option Nat) :=
  let (ret, frame) := frame802154Parse conf.framer.llsec payload frame
  if ret ≠ 0 ∧ frame.fcf.frameType = dataFrame then
    some (framer802154Parse conf.framer context.panId stack (packetbufCopyfrom conf.framer payload)).1
  else none

theorem aeadInPlace_keeps (key : Vector UInt8 16) (nonce memory : List UInt8) {start count : Nat}
    (micLen : Nat) (forward : Bool) {kept : Nat} (before : kept ≤ start)
    (inside : start + count ≤ memory.length) :
    let result := (aeadInPlace aes key nonce memory (start, count) micLen forward).1
    result.take kept = memory.take kept ∧ result.length = memory.length := by
  have long : kept ≤ (memory.take start).length := by
    rw [List.length_take]
    omega
  dsimp only [aeadInPlace]
  constructor
  · rw [List.append_assoc, List.take_append_of_le_length long, List.take_take, Nat.min_eq_left before]
  · simp only [List.length_append, CcmStar.aead_length, List.length_take, List.length_drop]
    omega

theorem parseFrame_keeps (security : SecurityConf) (pan : PanMembership) (memory : List UInt8)
    (hdrlen datalen : Nat) (frame : Frame802154) (sender : LinkAddr) (asn : TschAsn)
    (byte : hdrlen + datalen ≤ 255) (filled : hdrlen + datalen ≤ memory.length) :
    let result := (tschSecurityParseFrame aes security pan memory hdrlen datalen frame sender asn).2
    result.take hdrlen = memory.take hdrlen ∧ result.length = memory.length := by
  have natural : ¬ ((hdrlen : Int) < 0 ∨ (datalen : Int) < 0) := by omega
  have inside := (receiverOffset_congr security (by omega) filled rfl).2
  obtain ⟨low, high⟩ := authLen_bounds frame hdrlen inside
  simp only [tschSecurityParseFrame, if_neg natural]
  split
  · exact ⟨rfl, rfl⟩
  · split
    · exact ⟨rfl, rfl⟩
    · split
      · exact ⟨rfl, rfl⟩
      · simp only [Int.toNat_natCast, securitySplit_eq frame inside byte]
        exact aeadInPlace_keeps aes _ _ memory _ _ low (by omega)

theorem rxUnsecure_keeps {context : RxContext} {payload plain : List UInt8} {headerLen : Nat}
    {frame : Frame802154} {source : LinkAddr} (byte : payload.length ≤ 255)
    (unsecured : rxUnsecure conf aes context payload headerLen frame source = some plain)
    (bounded : headerLen ≤ payload.length) :
    plain.length ≤ payload.length ∧ plain.take headerLen = payload.take headerLen := by
  unfold rxUnsecure at unsecured
  cases enabled : conf.security with
  | none =>
    simp only [enabled, Option.some.injEq] at unsecured
    rw [unsecured]
    exact ⟨Nat.le_refl _, rfl⟩
  | some security =>
    simp only [enabled] at unsecured
    by_cases fits : headerLen + tschSecurityMicLen frame ≤ payload.length
    · obtain ⟨datalen, datalen_eq⟩ : ∃ datalen : Nat,
          (payload.length : Int) - headerLen - tschSecurityMicLen frame = datalen :=
        ⟨payload.length - headerLen - tschSecurityMicLen frame, by omega⟩
      rw [datalen_eq] at unsecured
      obtain ⟨kept, length⟩ := parseFrame_keeps aes security context.pan
        (payload ++ context.behind) headerLen datalen frame source context.asn (by omega)
        (by rw [List.length_append]; omega)
      rw [List.take_append_of_le_length bounded] at kept
      rw [List.length_append] at length
      split at unsecured
      · simp only [Option.some.injEq] at unsecured
        have shorter : headerLen ≤ payload.length - tschSecurityMicLen frame := by omega
        rw [← unsecured, List.length_take, List.take_take, Nat.min_eq_left shorter]
        exact ⟨by omega, kept⟩
      · cases unsecured
    · have short : (headerLen : Int) < 0 ∨
          (payload.length : Int) - headerLen - tschSecurityMicLen frame < 0 := by omega
      simp only [tschSecurityParseFrame, if_pos short] at unsecured
      cases unsecured

theorem hasSrcPanid_of_no_dest {fcf : Frame802154Fcf} (small : fcf.destAddrMode.toNat < 4)
    (addressed : fcf.destAddrMode ≠ noAddr) (absent : hasDestPanid fcf = false) :
    hasSrcPanid fcf = false := by
  have mode := and_three_of_lt small
  unfold hasDestPanid at absent
  unfold hasSrcPanid
  split at absent
  next version =>
    rw [if_pos version]
    simp only [noAddr, shortAddrMode, longAddrMode] at *
    grind
  next version =>
    rw [if_neg version]
    rw [mode] at absent
    simp only [noAddr] at *
    grind

theorem parseSrc_destPid {p : Cursor UInt8} {pf : Frame802154} (absent : hasSrcPanid pf.fcf = false) :
    (parseSrc p pf).1.destPid = pf.destPid := by
  unfold parseSrc
  split
  · simp [absent]
  · rfl

theorem parseHeader_destPid (llsec : LlsecConf) (data : List UInt8) (pf : Frame802154)
    (addressed : (parseHeader llsec data pf).1.fcf.destAddrMode ≠ noAddr)
    (absent : hasDestPanid (parseHeader llsec data pf).1.fcf = false) :
    (parseHeader llsec data pf).1.destPid = 0 := by
  have small : (parseHeader llsec data pf).1.fcf.destAddrMode.toNat < 4 := by
    rw [(parseHeader_spec llsec data pf).1]
    exact and_three_lt _
  have noSrc := hasSrcPanid_of_no_dest small addressed absent
  simp only [parseHeader, parseAuxHdr_keeps, parseAuxHdr_destPid, parseSrc_spec, parseDest_spec]
    at addressed absent noSrc ⊢
  generalize parseSeqno _ _ = seq at addressed absent noSrc ⊢
  rw [parseSrc_destPid (by rw [(parseDest_spec _ _).1]; exact noSrc)]
  simp only [parseDest, absent]
  split <;> rfl

theorem frame802154Parse_accepted (llsec : LlsecConf) {data : List UInt8} {pf : Frame802154}
    (parsed : (frame802154Parse llsec data pf).1 ≠ 0) :
    let frame := (frame802154Parse llsec data pf).2
    (frame802154Parse llsec data pf).1 ≤ data.length ∧
      frame.fcf = frame802154ParseFcf (data.getD 0 default) (data.getD 1 default) ∧
      (frame.fcf.destAddrMode ≠ noAddr → hasDestPanid frame.fcf = false → frame.destPid = 0) := by
  unfold frame802154Parse at parsed ⊢
  split at parsed
  · exact absurd rfl parsed
  next long =>
    simp only [if_neg long]
    refine ⟨?_, (parseHeader_spec llsec data pf).1, parseHeader_destPid llsec data pf⟩
    split
    · exact Nat.zero_le _
    · omega

theorem rxAccept_some {context : RxContext} {payload : List UInt8} {accepted : AcceptedFrame}
    (accept : rxAccept conf aes context payload = some accepted) :
    let parsed := frame802154Parse conf.framer.llsec payload context.stale
    parsed.1 ≠ 0 ∧ accepted.frame = parsed.2 ∧
      frame802154CheckDestPanid context.panId parsed.2 = true ∧
      rxUnsecure conf aes context payload parsed.1 parsed.2 accepted.source =
        some accepted.payload := by
  unfold rxAccept at accept
  dsimp only at accept ⊢
  generalize frame802154Parse conf.framer.llsec payload context.stale = parsed at accept ⊢
  split at accept
  next valid =>
    split at accept
    · cases accept
    next source destination extracted =>
      split at accept
      next =>
        split at accept
        · cases accept
        next plain unsecured =>
          split at accept
          next =>
            cases accept
            exact ⟨Nat.ne_of_gt valid.1, rfl, valid.2, unsecured⟩
          next => cases accept
      next => cases accept
  next => cases accept

/-- A data frame that the slot accepts is parsed by the framer, unless it has a destination
address without a PAN ID: the slot has nothing to compare there, the framer compares 0. -/
theorem acknowledged_parses_iff (context : RxContext) (payload : List UInt8) {accepted : AcceptedFrame}
    (frame stack : Frame802154) (sized : payload.length ≤ rxMaxLen conf)
    (accept : rxAccept conf aes context payload = some accepted)
    (data : accepted.frame.fcf.frameType = dataFrame) :
    let fcf := frame802154ParseFcf (payload.getD 0 default) (payload.getD 1 default)
    (∃ hdrLen, rxProcessPending conf context accepted.payload frame stack = some (some hdrLen)) ↔
      fcf.destAddrMode = noAddr ∨ hasDestPanid fcf ∨ context.panId = 0 := by
  intro fcf
  obtain ⟨parsed, frameEq, panid, unsecured⟩ := rxAccept_some conf aes accept
  obtain ⟨bounded, fcfEq, destPid⟩ := frame802154Parse_accepted conf.framer.llsec parsed
  rw [frameEq] at data
  have limit : payload.length ≤ 127 ∧ payload.length ≤ conf.framer.packetbufSize := by
    unfold rxMaxLen tschPacketMaxLen at sized
    omega
  obtain ⟨shorter, kept⟩ := rxUnsecure_keeps conf aes (by omega) unsecured bounded
  have pending := frame802154Parse_congr conf.framer.llsec context.stale frame parsed kept
  have framer := frame802154Parse_congr conf.framer.llsec context.stale stack parsed kept
  generalize frame802154Parse conf.framer.llsec payload context.stale = received at *
  have copied : (packetbufCopyfrom conf.framer accepted.payload).data = accepted.payload :=
    List.take_of_length_le (by omega)
  have isData : rxProcessPending conf context accepted.payload frame stack =
      some (framer802154Parse conf.framer context.panId stack
        (packetbufCopyfrom conf.framer accepted.payload)).1 := by
    simp only [rxProcessPending, pending.1, pending.2.fcf]
    rw [if_pos ⟨parsed, data⟩]
  have reread := frame802154Parse_accepted conf.framer.llsec
    (by rw [framer.1]; exact parsed : (frame802154Parse conf.framer.llsec accepted.payload stack).1 ≠ 0)
  have parse : frame802154Parse conf.framer.llsec
      (packetbufCopyfrom conf.framer accepted.payload).data stack =
        (received.1, (frame802154Parse conf.framer.llsec accepted.payload stack).2) := by
    rw [copied, ← framer.1]
  obtain ⟨-, foreign, ours⟩ := framer802154Parse_eq conf.framer context.panId parse parsed
    (by rw [copied, ← framer.1]; exact reread.1)
  rw [framer.2.fcf, framer.2.destPid, fcfEq] at foreign ours
  rw [fcfEq] at destPid
  simp only [isData, Option.some.injEq]
  have checked : hasDestPanid fcf → received.2.destPid = context.panId ∨
      received.2.destPid = broadcastPanId := by
    intro present
    rw [frame802154CheckDestPanid, fcfEq, present] at panid
    simp only [Bool.true_and, Bool.not_eq_true', Bool.and_eq_false_iff, bne_eq_false_iff_eq] at panid
    exact panid
  constructor
  · rintro ⟨hdrLen, success⟩
    by_contra missing
    simp only [not_or, Bool.not_eq_true] at missing
    obtain ⟨addressed, absent, nonzero⟩ := missing
    have zero := destPid addressed absent
    have failed := foreign ⟨addressed, by rw [zero]; exact Ne.symm nonzero, by rw [zero]; decide⟩
    rw [failed] at success
    cases success
  · intro condition
    refine ⟨received.1, (ours ?_).1⟩
    rintro ⟨addressed, other, unicast⟩
    by_cases present : hasDestPanid fcf
    · rcases checked present with same | broadcast
      · exact other same
      · exact unicast broadcast
    · have zero := destPid addressed (Bool.eq_false_iff.mpr present)
      rcases condition with none | carried | first
      · exact addressed none
      · exact present carried
      · exact other (zero.trans first.symm)

def plainPackets : PacketConf := unsecuredPackets {}

def joinedReceiver : RxContext :=
  ⟨0xabcd, Vector.replicate 8 1, ⟨true, false⟩, ⟨100, 0⟩, default, []⟩

def unicastData (fcf0 : UInt8) (panid : List UInt8) : List UInt8 :=
  [fcf0, 0xec, 7] ++ panid ++ List.replicate 8 1 ++ List.replicate 8 2 ++ [1, 2, 3]

def unicastAccepted (fcf0 : UInt8) (panid : List UInt8) : Option AcceptedFrame :=
  rxAccept plainPackets Aes128.cipher joinedReceiver (unicastData fcf0 panid)

theorem addressedFrame_parses : ∃ hdrLen,
    rxProcessPending plainPackets joinedReceiver ((unicastAccepted 0x21 [0xcd, 0xab]).get rfl).payload
      default default = some (some hdrLen) :=
  (acknowledged_parses_iff plainPackets Aes128.cipher joinedReceiver (unicastData 0x21 [0xcd, 0xab])
    default default (by decide) (Option.some_get _).symm rfl).mpr (.inr (.inl rfl))

theorem compressedFrame_acknowledged_and_dropped :
    ∃ accepted, unicastAccepted 0x61 [] = some accepted ∧
      accepted.frame.fcf.frameType = dataFrame ∧
      (rxEack plainPackets joinedReceiver accepted 0 false default).isSome ∧
      rxProcessPending plainPackets joinedReceiver accepted.payload default default = some none :=
  ⟨_, rfl, rfl, by decide, by decide⟩

end MultiPhyTsch
