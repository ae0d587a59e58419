import MultiPhyTsch.Lowpan.AddFragment

/-! Frames with headers that `input` cannot decode. `uncompress_hdr_iphc` returns in the middle of
its work without telling its caller, which goes on with the lengths set so far. -/

namespace MultiPhyTsch.Lowpan

def nextHdrsStop (nhc : Bool) (hc06 : Cursor UInt8) : Option Nat :=
  let (state, supported) := uncompressExtHdrs (hc06.rest.length + 1)
    { hc06 := hc06
      buf := fun _ => 0
      nhc := nhc
      lastNextheader := 6
      ipPayload := uipIphLen
      uncompHdrLen := uipIphLen
      extHdrLen := 0 }
  if supported = false then some state.uncompHdrLen
  else
    match uncompressUdp 0 0 state with
    | none => some state.uncompHdrLen
    | some _ => none

/-- The bytes of headers uncompressed when `uncompress_hdr_iphc` stops at an unknown context, an
unsupported extension header or an unsupported form of UDP, none when it comes to its end. -/
def iphcStop (addrContexts : List SicslowpanAddrContext) (packetbuf : RxPacketbuf)
    (packetbufHdrLen : Nat) : Option Nat :=
  let iphc := (Cursor.start packetbuf.bytes).skip packetbufHdrLen
  let iphc0 := iphc.peek 0
  let iphc1 := iphc.peek 1
  let contexts := iphc.peek 2
  let hc06 := iphc.skip (if iphc1 &&& iphcCid ≠ 0 then 3 else 2)
  let hc06 := (uncompressTrafficClass iphc0 hc06).2
  let hc06 := (uncompressNextHeader iphc0 hc06).2
  let hc06 := (uncompressHopLimit iphc0 hc06).2
  match uncompressSrcipaddr addrContexts iphc1 contexts packetbuf.sender hc06 with
  | none => some 0
  | some (_, hc06) =>
    match uncompressDestipaddr addrContexts iphc1 contexts packetbuf.receiver hc06 with
    | none => some 0
    | some (_, hc06) => nextHdrsStop (iphc0 &&& iphcNhC ≠ 0) hc06

namespace RxPacketbuf

def pagingAt (packetbuf : RxPacketbuf) : Nat :=
  if packetbuf.fragDispatch = dispatchFrag1 then frag1HdrLen else 0

def switchesPage (packetbuf : RxPacketbuf) : Prop :=
  packetbuf.mem packetbuf.pagingAt &&& dispatchPagingMask = dispatchPaging

instance (packetbuf : RxPacketbuf) : Decidable packetbuf.switchesPage :=
  inferInstanceAs (Decidable (_ = _))

def dispatchAt (packetbuf : RxPacketbuf) : Nat :=
  if packetbuf.switchesPage then packetbuf.pagingAt + 1 else packetbuf.pagingAt

def unsupportedPage (packetbuf : RxPacketbuf) : Prop :=
  packetbuf.switchesPage ∧ 1 < packetbuf.mem packetbuf.pagingAt &&& 0x0f

instance (packetbuf : RxPacketbuf) : Decidable packetbuf.unsupportedPage :=
  inferInstanceAs (Decidable (_ ∧ _))

def hasIphc (packetbuf : RxPacketbuf) : Prop :=
  packetbuf.mem packetbuf.dispatchAt &&& dispatchIphcMask = dispatchIphc

instance (packetbuf : RxPacketbuf) : Decidable packetbuf.hasIphc :=
  inferInstanceAs (Decidable (_ = _))

def unsupportedDispatch (packetbuf : RxPacketbuf) : Prop :=
  ¬ packetbuf.hasIphc ∧ packetbuf.mem packetbuf.dispatchAt ≠ dispatchIpv6

end RxPacketbuf

def Undecodable (addrContexts : List SicslowpanAddrContext) (packetbuf : RxPacketbuf) : Prop :=
  packetbuf.fragDispatch ≠ dispatchFragn ∧
    (packetbuf.unsupportedPage ∨ packetbuf.unsupportedDispatch ∨
      packetbuf.hasIphc ∧ (iphcStop addrContexts packetbuf packetbuf.dispatchAt).isSome)

structure Dropped {conf : LowpanConf} (addrContexts : List SicslowpanAddrContext)
    (expired : Fin conf.reassContexts → Bool) (state : Reassembly conf) (packetbuf : RxPacketbuf) :
    Prop where
  delivered : (input addrContexts expired state packetbuf).2 = none
  allocated : packetbuf.datalen ≠ 0 → packetbuf.fragDispatch = dispatchFrag1 →
    ∀ context, (addFragment expired state packetbuf frag1HdrLen packetbuf.fragTag
      packetbuf.fragSize 0).2 = some context →
        ((input addrContexts expired state packetbuf).1.fragInfo context).len = 0

/-- What else keeps an undecodable frame back: it is empty; it is a first fragment without a free
context or of size 0; or it is no fragment and is refused for its page or dispatch or because its
bytes do not fit behind the headers uncompressed so far. -/
def KeptBack {conf : LowpanConf} (addrContexts : List SicslowpanAddrContext)
    (expired : Fin conf.reassContexts → Bool) (state : Reassembly conf) (packetbuf : RxPacketbuf) :
    Prop :=
  packetbuf.datalen = 0 ∨
    if packetbuf.fragDispatch = dispatchFrag1 then
      ¬ HasFreeContext expired state ∨ packetbuf.fragSize = 0
    else
      packetbuf.unsupportedPage ∨ packetbuf.unsupportedDispatch ∨
        ∃ headers, iphcStop addrContexts packetbuf packetbuf.dispatchAt = some headers ∧
          conf.uipBufsize < headers + (packetbuf.datalen - packetbuf.dispatchAt)

/-! Where the decompression stops does not depend on the buffer or on the lengths of the packet. -/

structure NhcState.Alike (state other : NhcState) : Prop where
  hc06 : state.hc06 = other.hc06
  nhc : state.nhc = other.nhc
  uncompHdrLen : state.uncompHdrLen = other.uncompHdrLen

theorem uncompressExtHdr_alike {state other : NhcState} (alike : state.Alike other) :
    Option.Rel NhcState.Alike (uncompressExtHdr state) (uncompressExtHdr other) := by
  unfold uncompressExtHdr
  rw [alike.hc06]
  dsimp only
  cases extHdrProto ((other.hc06.peek 0 &&& 0x0e) >>> 1) with
  | none => exact Option.Rel.none
  | some proto =>
    refine Option.Rel.some ⟨rfl, rfl, ?_⟩
    dsimp only
    rw [alike.uncompHdrLen]

theorem uncompressExtHdrs_alike (rounds : Nat) : ∀ {state other : NhcState}, state.Alike other →
    (uncompressExtHdrs rounds state).1.Alike (uncompressExtHdrs rounds other).1 ∧
      (uncompressExtHdrs rounds state).2 = (uncompressExtHdrs rounds other).2 := by
  induction rounds with
  | zero => exact fun alike => ⟨alike, rfl⟩
  | succ rounds ih =>
    intro state other alike
    unfold uncompressExtHdrs
    rw [alike.hc06, alike.nhc]
    split
    next follows =>
      have round := uncompressExtHdr_alike alike
      cases first : uncompressExtHdr state with
      | none =>
        cases second : uncompressExtHdr other with
        | none => exact ⟨alike, rfl⟩
        | some after =>
          rw [first, second] at round
          cases round
      | some next =>
        cases second : uncompressExtHdr other with
        | none =>
          rw [first, second] at round
          cases round
        | some after =>
          rw [first, second] at round
          cases round with
          | some alike => exact ih alike
    next => exact ⟨alike, rfl⟩

theorem uncompressUdp_isSome {state other : NhcState} (alike : state.Alike other)
    (datalen ipLen datalen' ipLen' : Nat) :
    (uncompressUdp datalen ipLen state).isSome = (uncompressUdp datalen' ipLen' other).isSome := by
  unfold uncompressUdp
  rw [alike.hc06, alike.nhc]
  split
  · dsimp only
    cases uncompressPorts other.hc06 with
    | none => rfl
    | some ports => rfl
  · rfl

theorem uncompressNextHdrs_of_stop {nhc : Bool} {hc06 : Cursor UInt8} {headers : Nat}
    (stop : nextHdrsStop nhc hc06 = some headers) (datalen packetbufHdrLen ipLen : Nat)
    (buf : Memory UInt8) :
    (uncompressNextHdrs datalen packetbufHdrLen ipLen nhc buf hc06).packetbufHdrLen =
        packetbufHdrLen ∧
      (uncompressNextHdrs datalen packetbufHdrLen ipLen nhc buf hc06).uncompHdrLen = headers := by
  have start : NhcState.Alike ⟨hc06, fun _ => 0, nhc, 6, uipIphLen, uipIphLen, 0⟩
      ⟨hc06, buf, nhc, 6, uipIphLen, uipIphLen, 0⟩ := ⟨rfl, rfl, rfl⟩
  have alike := uncompressExtHdrs_alike (hc06.rest.length + 1) start
  unfold nextHdrsStop at stop
  unfold uncompressNextHdrs
  generalize uncompressExtHdrs (hc06.rest.length + 1)
    ⟨hc06, fun _ => 0, nhc, 6, uipIphLen, uipIphLen, 0⟩ = ended at alike stop
  generalize uncompressExtHdrs (hc06.rest.length + 1)
    ⟨hc06, buf, nhc, 6, uipIphLen, uipIphLen, 0⟩ = other at alike ⊢
  obtain ⟨state, supported⟩ := ended
  obtain ⟨state', supported'⟩ := other
  obtain ⟨alike, rfl⟩ := alike
  dsimp only at stop ⊢
  split at stop
  next unsupported =>
    rw [if_pos unsupported]
    exact ⟨rfl, by rw [← Option.some.inj stop]; exact alike.uncompHdrLen.symm⟩
  next =>
    rw [if_neg ‹_›]
    have same := uncompressUdp_isSome alike 0 0 datalen ipLen
    split at stop
    next none =>
      rw [none] at same
      cases form : uncompressUdp datalen ipLen state' with
      | none => exact ⟨rfl, by rw [← Option.some.inj stop]; exact alike.uncompHdrLen.symm⟩
      | some next =>
        rw [form] at same
        cases same
    next => cases stop

theorem uncompressHdrIphc_of_stop {addrContexts : List SicslowpanAddrContext}
    {packetbuf : RxPacketbuf} {packetbufHdrLen headers : Nat}
    (stop : iphcStop addrContexts packetbuf packetbufHdrLen = some headers) (buf : Memory UInt8)
    (ipLen : Nat) :
    (uncompressHdrIphc addrContexts packetbuf packetbufHdrLen buf ipLen).packetbufHdrLen =
        packetbufHdrLen ∧
      (uncompressHdrIphc addrContexts packetbuf packetbufHdrLen buf ipLen).uncompHdrLen =
        headers := by
  unfold iphcStop at stop
  dsimp only at stop
  -- `split` reaches into an unfolded goal as well, so the goal is unfolded in each case
  split at stop
  next unknown =>
    unfold uncompressHdrIphc
    dsimp only
    rw [unknown]
    exact ⟨rfl, Option.some.inj stop⟩
  next src hc06 known =>
    split at stop
    next unknown =>
      unfold uncompressHdrIphc
      dsimp only
      rw [known]
      dsimp only
      rw [unknown]
      exact ⟨rfl, Option.some.inj stop⟩
    next dest hc06 found =>
      unfold uncompressHdrIphc
      dsimp only
      rw [known]
      dsimp only
      rw [found]
      exact uncompressNextHdrs_of_stop stop _ _ _ _

section

variable {addrContexts : List SicslowpanAddrContext} {packetbuf : RxPacketbuf}

theorem page_iff : ((if packetbuf.mem packetbuf.pagingAt &&& dispatchPagingMask = dispatchPaging
    then packetbuf.mem packetbuf.pagingAt &&& 0x0f else 0) > 1) ↔ packetbuf.unsupportedPage := by
  by_cases switches : packetbuf.switchesPage
  · have paging : packetbuf.mem packetbuf.pagingAt &&& dispatchPagingMask = dispatchPaging :=
      switches
    rw [if_pos paging]
    exact ⟨fun page => ⟨switches, page⟩, And.right⟩
  · have paging : ¬ packetbuf.mem packetbuf.pagingAt &&& dispatchPagingMask = dispatchPaging :=
      switches
    rw [if_neg paging]
    exact iff_of_false (by decide) fun page => switches page.1

theorem inputHeaders_eq (buffer : Memory UInt8) (fragSize : Nat) :
    inputHeaders addrContexts packetbuf packetbuf.pagingAt buffer fragSize =
      if packetbuf.unsupportedPage then none
      else if packetbuf.hasIphc then
        some (uncompressHdrIphc addrContexts packetbuf packetbuf.dispatchAt buffer fragSize)
      else if packetbuf.mem packetbuf.dispatchAt = dispatchIpv6 then
        some ⟨buffer.write 0 (packetbuf.mem.read (packetbuf.dispatchAt + 1) uipIphLen),
          packetbuf.dispatchAt + 1 + uipIphLen, uipIphLen⟩
      else none := by
  by_cases unsupported : packetbuf.unsupportedPage
  · rw [if_pos unsupported]
    exact if_pos (page_iff.mpr unsupported)
  · rw [if_neg unsupported]
    exact if_neg (mt page_iff.mp unsupported)

theorem inputHeaders_refused (refused : packetbuf.unsupportedPage ∨ packetbuf.unsupportedDispatch)
    (buffer : Memory UInt8) (fragSize : Nat) :
    inputHeaders addrContexts packetbuf packetbuf.pagingAt buffer fragSize = none := by
  rw [inputHeaders_eq]
  split
  · rfl
  next supported =>
    have dispatch := refused.resolve_left supported
    rw [if_neg dispatch.1, if_neg dispatch.2]

theorem inputHeaders_of_stop {headers : Nat} (supported : ¬ packetbuf.unsupportedPage)
    (iphc : packetbuf.hasIphc)
    (stop : iphcStop addrContexts packetbuf packetbuf.dispatchAt = some headers)
    (buffer : Memory UInt8) (fragSize : Nat) :
    ∃ buf, inputHeaders addrContexts packetbuf packetbuf.pagingAt buffer fragSize =
      some ⟨buf, packetbuf.dispatchAt, headers⟩ := by
  obtain ⟨hdrLen, uncomp⟩ := uncompressHdrIphc_of_stop stop buffer fragSize
  refine ⟨(uncompressHdrIphc addrContexts packetbuf packetbuf.dispatchAt buffer fragSize).buf, ?_⟩
  rw [inputHeaders_eq, if_neg supported, if_pos iphc]
  generalize uncompressHdrIphc addrContexts packetbuf packetbuf.dispatchAt buffer fragSize = left
    at hdrLen uncomp ⊢
  rw [← hdrLen, ← uncomp]

end

section

variable {conf : LowpanConf} {addrContexts : List SicslowpanAddrContext}
  {expired : Fin conf.reassContexts → Bool} {state : Reassembly conf} {packetbuf : RxPacketbuf}

theorem input_unfragmented (some : packetbuf.datalen ≠ 0)
    (first : packetbuf.fragDispatch ≠ dispatchFrag1)
    (later : packetbuf.fragDispatch ≠ dispatchFragn) :
    (input addrContexts expired state packetbuf).2 = none ↔
      (inputBuffer conf addrContexts packetbuf 0 state.uipBuf 0).2 = none := by
  rw [input, if_neg some, if_neg first, if_neg later]
  cases (inputBuffer conf addrContexts packetbuf 0 state.uipBuf 0) with
  | mk uipBuf len =>
    cases len with
    | none => exact iff_of_true rfl rfl
    | some len => exact iff_of_false (fun absent => nomatch absent) fun absent => nomatch absent

theorem inputFrag1_len {context : Fin conf.reassContexts}
    (found : (addFragment expired state packetbuf frag1HdrLen packetbuf.fragTag
      packetbuf.fragSize 0).2 = some context) :
    ((inputFrag1 addrContexts expired state packetbuf).fragInfo context).len =
      packetbuf.fragSize := by
  cases added : addFragment expired state packetbuf frag1HdrLen packetbuf.fragTag
      packetbuf.fragSize 0 with
  | mk after claimed =>
    rw [added] at found
    obtain rfl : claimed = some context := found
    obtain ⟨-, mid, -, -, rfl⟩ := addFirstFragment_some added
    have size : ((mid.setInfo context
        { mid.fragInfo context with
          len := packetbuf.fragSize
          tag := packetbuf.fragTag
          sender := packetbuf.sender }).fragInfo context).len = packetbuf.fragSize := by
      rw [Reassembly.setInfo_fragInfo]
    unfold inputFrag1
    rw [added]
    dsimp only
    rw [Reassembly.setInfo_fragInfo]
    split
    · split
      · exact size
      · exact size
    · exact size

theorem addFragment_isSome_iff : (∃ context, (addFragment expired state packetbuf frag1HdrLen
    packetbuf.fragTag packetbuf.fragSize 0).2 = some context) ↔ HasFreeContext expired state := by
  cases added : addFragment expired state packetbuf frag1HdrLen packetbuf.fragTag
      packetbuf.fragSize 0 with
  | mk after claimed =>
    cases claimed with
    | none =>
      have full := (addFirstFragment_none added).2
      exact iff_of_false (fun ⟨_, found⟩ => nomatch found) full
    | some context =>
      exact iff_of_true ⟨context, rfl⟩ (addFirstFragment_some added).1

theorem frag1_dropped_iff (some : packetbuf.datalen ≠ 0)
    (first : packetbuf.fragDispatch = dispatchFrag1) :
    Dropped addrContexts expired state packetbuf ↔
      ¬ HasFreeContext expired state ∨ packetbuf.fragSize = 0 := by
  have run : input addrContexts expired state packetbuf =
      (inputFrag1 addrContexts expired state packetbuf, none) := by
    rw [input, if_neg some, if_pos first]
  rw [← addFragment_isSome_iff]
  constructor
  · rintro ⟨-, allocated⟩
    by_contra kept
    obtain ⟨⟨context, found⟩, sized⟩ := not_or.mp kept |>.imp not_not.mp id
    have free := allocated some first context found
    rw [run, inputFrag1_len found] at free
    exact sized free
  · intro kept
    refine ⟨by rw [run], fun _ _ context found => ?_⟩
    rw [run, inputFrag1_len found]
    exact kept.resolve_left fun full => full ⟨context, found⟩

end

theorem undecodable_dropped_iff {conf : LowpanConf} (addrContexts : List SicslowpanAddrContext)
    (expired : Fin conf.reassContexts → Bool) (state : Reassembly conf) (packetbuf : RxPacketbuf)
    (undecodable : Undecodable addrContexts packetbuf) :
    Dropped addrContexts expired state packetbuf ↔
      KeptBack addrContexts expired state packetbuf := by
  by_cases empty : packetbuf.datalen = 0
  · refine iff_of_true ⟨?_, fun some => absurd empty some⟩ (.inl empty)
    rw [input, if_pos empty]
  rw [KeptBack, or_iff_right empty]
  by_cases first : packetbuf.fragDispatch = dispatchFrag1
  · rw [if_pos first, frag1_dropped_iff empty first]
  rw [if_neg first]
  have dropped : Dropped addrContexts expired state packetbuf ↔
      (inputBuffer conf addrContexts packetbuf 0 state.uipBuf 0).2 = none := by
    rw [← input_unfragmented empty first undecodable.1]
    exact ⟨Dropped.delivered, fun delivered => ⟨delivered, fun _ same => absurd same first⟩⟩
  have start : packetbuf.pagingAt = 0 := if_neg first
  have fromStart : inputHeaders addrContexts packetbuf 0 state.uipBuf 0 =
      inputHeaders addrContexts packetbuf packetbuf.pagingAt state.uipBuf 0 := by
    rw [start]
  rw [dropped, inputBuffer, fromStart]
  by_cases refused : packetbuf.unsupportedPage ∨ packetbuf.unsupportedDispatch
  · rw [inputHeaders_refused refused]
    exact iff_of_true rfl (or_assoc.mp (.inl refused))
  obtain ⟨supported, dispatched⟩ := not_or.mp refused
  obtain ⟨iphc, stops⟩ := (undecodable.2.resolve_left supported).resolve_left dispatched
  obtain ⟨headers, stop⟩ := Option.isSome_iff_exists.mp stops
  obtain ⟨buf, left⟩ := inputHeaders_of_stop supported iphc stop state.uipBuf 0
  have inside : packetbuf.dispatchAt ≤ packetbuf.datalen := by
    unfold RxPacketbuf.dispatchAt
    rw [start]
    split <;> omega
  rw [left, or_iff_right supported, or_iff_right dispatched, stop]
  dsimp only
  by_cases accepted : payloadAccepted conf packetbuf packetbuf.dispatchAt headers 0
  · rw [if_pos accepted]
    refine iff_of_false (fun absent => nomatch absent) ?_
    rintro ⟨other, same, large⟩
    obtain rfl := Option.some.inj same
    have fits := accepted.2
    omega
  · rw [if_neg accepted]
    refine iff_of_true rfl ⟨headers, rfl, ?_⟩
    by_contra fits
    exact accepted ⟨inside, by omega⟩

section Frames

def frameOf (bytes : List UInt8) : RxPacketbuf :=
  { sender := #v[2, 0, 0, 0, 0, 0, 5, 9]
    receiver := #v[2, 0, 0, 0, 0, 0, 5, 8]
    bytes := bytes
    datalen := bytes.length }

def otherDispatch : RxPacketbuf := frameOf [0x80, 1, 2, 3, 4, 5, 6, 7, 8, 9]

def unknownContext : RxPacketbuf := frameOf [0x7a, 0x53, 59, 3, 4, 5, 6, 7, 8, 9]

def quietConf : LowpanConf := ⟨110, 2, 2, 1280, by decide⟩

def quiet : Reassembly quietConf :=
  { fragInfo := fun _ => ⟨linkaddrNull, 0, 0, 0, 0, fun _ => 0⟩
    fragBuf := fun _ => ⟨0, 0, 0, fun _ => 0⟩
    uipBuf := fun _ => 0 }

theorem otherDispatch_dropped : Dropped [] (fun _ => false) quiet otherDispatch := by
  have unsupported : otherDispatch.unsupportedDispatch := ⟨by decide, by decide⟩
  refine (undecodable_dropped_iff [] (fun _ => false) quiet otherDispatch
    ⟨by decide, .inr (.inl unsupported)⟩).mpr (.inr ?_)
  rw [if_neg (by decide)]
  exact .inr (.inl unsupported)

theorem unknownContext_delivered :
    ¬ ∀ (conf : LowpanConf) (addrContexts : List SicslowpanAddrContext)
      (expired : Fin conf.reassContexts → Bool) (state : Reassembly conf)
      (packetbuf : RxPacketbuf),
      Undecodable addrContexts packetbuf → Dropped addrContexts expired state packetbuf := by
  intro dropped
  have undecodable : Undecodable [] unknownContext :=
    ⟨by decide, .inr (.inr ⟨by decide, by decide⟩)⟩
  have delivered : (input [] (fun _ => false) quiet unknownContext).2 =
      some unknownContext.bytes := by
    decide +kernel
  have absent := (dropped quietConf [] (fun _ => false) quiet unknownContext undecodable).delivered
  rw [delivered] at absent
  cases absent

end Frames

end MultiPhyTsch.Lowpan
