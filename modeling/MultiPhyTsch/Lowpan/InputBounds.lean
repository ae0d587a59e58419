import MultiPhyTsch.Lowpan.FrameLayout
import MultiPhyTsch.Lowpan.ReassemblySoundness

/-! Where `input` reads the packet buffer and writes `first_frag`, the fragment buffers and
`uip_buf`, over any run of received frames. -/

namespace MultiPhyTsch.Lowpan

variable {conf : LowpanConf}

/-- The decompression of a frame, none where `input` returns in front of it or has a later
fragment. -/
def decompression (addrContexts : List SicslowpanAddrContext)
    (expired : Fin conf.reassContexts → Bool) (state : Reassembly conf) (packetbuf : RxPacketbuf) :
    Option (Reads UInt8 (List (Patch UInt8) × Option Nat)) :=
  if packetbuf.datalen = 0 then none
  else if packetbuf.fragDispatch = dispatchFrag1 then
    match (addFragment expired state packetbuf frag1HdrLen packetbuf.fragTag packetbuf.fragSize 0).2
    with
    | none => none
    | some _ =>
      some (Reading.inputBuffer conf addrContexts packetbuf frag1HdrLen packetbuf.fragSize)
  else if packetbuf.fragDispatch = dispatchFragn then none
  else some (Reading.inputBuffer conf addrContexts packetbuf 0 0)

/-- `store_fragment` finds a free buffer, maybe once `timeout_fragments` has freed some. -/
def FindsBuffer (expired : Fin conf.reassContexts → Bool) (state : Reassembly conf)
    (packetbuf : RxPacketbuf) (found : Fin conf.reassContexts) : Prop :=
  (storeFragment state found packetbuf.fragOffset packetbuf fragnHdrLen).2.isSome ∨
    (timeoutFragments expired state found).2 > 0 ∧
      (storeFragment (timeoutFragments expired state found).1 found packetbuf.fragOffset packetbuf
        fragnHdrLen).2.isSome

instance (expired : Fin conf.reassContexts → Bool) (state : Reassembly conf)
    (packetbuf : RxPacketbuf) (found : Fin conf.reassContexts) :
    Decidable (FindsBuffer expired state packetbuf found) :=
  inferInstanceAs (Decidable (_ ∨ _))

/-- The size with which `store_fragment` calls `memcpy`, none where it stores nothing. -/
def storedSize (expired : Fin conf.reassContexts → Bool) (state : Reassembly conf)
    (packetbuf : RxPacketbuf) : Option Int :=
  if packetbuf.datalen ≠ 0 ∧ packetbuf.fragDispatch = dispatchFragn ∧ packetbuf.fragOffset ≠ 0 then
    match contextOf state packetbuf.sender packetbuf.fragTag with
    | none => none
    | some found =>
      if FindsBuffer expired state packetbuf found then
        some ((packetbuf.datalen : Int) - fragnHdrLen)
      else none
  else none

def copiedToUip (expired : Fin conf.reassContexts → Bool) (state : Reassembly conf)
    (packetbuf : RxPacketbuf) : List (Patch UInt8) :=
  if packetbuf.datalen ≠ 0 ∧ packetbuf.fragDispatch = dispatchFragn then
    match addFragment expired state packetbuf fragnHdrLen packetbuf.fragTag packetbuf.fragSize
      packetbuf.fragOffset with
    | (_, none) => []
    | (state, some context) =>
      if payloadAccepted conf packetbuf fragnHdrLen 0 packetbuf.fragOffset ∧
          packetbuf.fragSize ≤ (state.fragInfo context).reassembledLen ∧
            0 < packetbuf.fragSize then heldPatches state context
      else []
  else []

/-- The headers and the payload are read inside the frame; what is stored of it fits into a fragment
buffer (a negative size is that of a copy without end), a first fragment into `first_frag` and a
packet, fragmented or not, into `uip_buf`. -/
structure StaysInBuffers (addrContexts : List SicslowpanAddrContext) (state : Reassembly conf)
    (arrival : Arrival conf) : Prop where
  reads : ∀ program ∈ decompression addrContexts arrival.expired state arrival.packetbuf,
    program.Below arrival.packetbuf.mem arrival.packetbuf.datalen
  stored : ∀ size ∈ storedSize arrival.expired state arrival.packetbuf,
    0 ≤ size ∧ size ≤ conf.fragmentSize
  firstFrag : arrival.packetbuf.fragDispatch = dispatchFrag1 →
    ∀ program ∈ decompression addrContexts arrival.expired state arrival.packetbuf,
      AllWithin conf.firstFragmentSize (program.value arrival.packetbuf.mem).1
  whole : arrival.packetbuf.fragDispatch ≠ dispatchFrag1 →
    ∀ program ∈ decompression addrContexts arrival.expired state arrival.packetbuf,
      AllWithin conf.uipBufsize (program.value arrival.packetbuf.mem).1
  copied : AllWithin conf.uipBufsize (copiedToUip arrival.expired state arrival.packetbuf)

/-- The headers of a frame that is decompressed are in it, and a first fragment that finds a context
fits into `first_frag`, a frame that is no fragment into `uip_buf`; a later fragment that is stored
has its header, fits into a fragment buffer, and has its place inside `uip_buf` unless it is
empty. -/
structure FrameInBounds (addrContexts : List SicslowpanAddrContext) (state : Reassembly conf)
    (arrival : Arrival conf) : Prop where
  headers : arrival.packetbuf.datalen ≠ 0 → arrival.packetbuf.fragDispatch ≠ dispatchFragn →
    (arrival.packetbuf.fragDispatch = dispatchFrag1 → HasFreeContext arrival.expired state) →
    HeadersWhole addrContexts arrival.packetbuf
  firstFrag : arrival.packetbuf.datalen ≠ 0 → arrival.packetbuf.fragDispatch = dispatchFrag1 →
    HasFreeContext arrival.expired state →
    FrameFits conf addrContexts arrival.packetbuf conf.firstFragmentSize
  whole : arrival.packetbuf.datalen ≠ 0 → arrival.packetbuf.fragDispatch ≠ dispatchFrag1 →
    arrival.packetbuf.fragDispatch ≠ dispatchFragn →
    uipIphLen ≤ conf.uipBufsize ∧ FrameFits conf addrContexts arrival.packetbuf conf.uipBufsize
  fragment : arrival.packetbuf.datalen ≠ 0 → arrival.packetbuf.fragDispatch = dispatchFragn →
    arrival.packetbuf.fragOffset ≠ 0 →
    ∀ context, contextOf state arrival.packetbuf.sender arrival.packetbuf.fragTag = some context →
      HasFreeBuffer arrival.expired state context →
      fragnHdrLen ≤ arrival.packetbuf.datalen ∧
        arrival.packetbuf.datalen - fragnHdrLen ≤ conf.fragmentSize ∧
        (fragnHdrLen < arrival.packetbuf.datalen →
          arrival.packetbuf.fragOffset * 8 + (arrival.packetbuf.datalen - fragnHdrLen) ≤
            conf.uipBufsize)

structure FirstKept (state after : Reassembly conf) : Prop where
  uipBuf : after.uipBuf = state.uipBuf
  firstFrag : ∀ context, (after.fragInfo context).firstFrag = (state.fragInfo context).firstFrag
  firstFragLen : ∀ context,
    (after.fragInfo context).firstFragLen = (state.fragInfo context).firstFragLen

section

variable {expired : Fin conf.reassContexts → Bool} {state mid after : Reassembly conf}
  {packetbuf : RxPacketbuf}

theorem FirstKept.refl (state : Reassembly conf) : FirstKept state state :=
  ⟨rfl, fun _ => rfl, fun _ => rfl⟩

theorem FirstKept.trans (first : FirstKept state mid) (second : FirstKept mid after) :
    FirstKept state after :=
  ⟨second.uipBuf.trans first.uipBuf,
    fun context => (second.firstFrag context).trans (first.firstFrag context),
    fun context => (second.firstFragLen context).trans (first.firstFragLen context)⟩

section

variable (state : Reassembly conf)

theorem FirstKept.setInfo {context : Fin conf.reassContexts} {info : SicslowpanFragInfo}
    (firstFrag : info.firstFrag = (state.fragInfo context).firstFrag)
    (firstFragLen : info.firstFragLen = (state.fragInfo context).firstFragLen) :
    FirstKept state (state.setInfo context info) := by
  refine ⟨rfl, fun other => ?_, fun other => ?_⟩
  · by_cases same : other = context
    · rw [same, Reassembly.setInfo_fragInfo, firstFrag]
    · rw [Reassembly.setInfo_fragInfo_of_ne _ _ same]
  · by_cases same : other = context
    · rw [same, Reassembly.setInfo_fragInfo, firstFragLen]
    · rw [Reassembly.setInfo_fragInfo_of_ne _ _ same]

theorem FirstKept.clearFragments (context : Fin conf.reassContexts) :
    FirstKept state (Lowpan.clearFragments state context).1 := by
  have kept := @FirstKept.setInfo conf state context { state.fragInfo context with len := 0 } rfl
    rfl
  exact ⟨kept.uipBuf, kept.firstFrag, kept.firstFragLen⟩

theorem FirstKept.timeoutFragments (notContext : Fin conf.reassContexts) :
    FirstKept state (Lowpan.timeoutFragments expired state notContext).1 := by
  refine List.foldlRecOn (motive := fun progress : Reassembly conf × Nat =>
    FirstKept state progress.1) _ _ (FirstKept.refl state) ?_
  intro progress kept context _
  refine kept.trans ?_
  unfold timeoutFragment
  split
  · exact FirstKept.clearFragments progress.1 context
  · exact FirstKept.refl progress.1

theorem FirstKept.addFirstFragment (tag : UInt16) (fragSize : Nat) :
    FirstKept state (Lowpan.addFirstFragment expired state packetbuf tag fragSize).1 := by
  have folded : FirstKept state
      ((List.finRange conf.reassContexts).foldl (findFreeContext expired) (state, none)).1 := by
    refine List.foldlRecOn (motive := fun progress : Reassembly conf × Option (Fin _) =>
      FirstKept state progress.1) _ _ (FirstKept.refl state) ?_
    intro progress kept context _
    refine kept.trans ?_
    unfold findFreeContext
    dsimp only
    split
    · exact FirstKept.clearFragments progress.1 context
    · exact FirstKept.refl progress.1
  unfold Lowpan.addFirstFragment
  generalize (List.finRange conf.reassContexts).foldl (findFreeContext expired) (state, none) =
    result at folded ⊢
  obtain ⟨mid, found⟩ := result
  cases found with
  | none => exact folded
  | some context => exact folded.trans (FirstKept.setInfo mid rfl rfl)

theorem FirstKept.storeFragment (index : Fin conf.reassContexts) (offset packetbufHdrLen : Nat) :
    FirstKept state (Lowpan.storeFragment state index offset packetbuf packetbufHdrLen).1 := by
  rcases storeFragment_cases state index offset packetbuf packetbufHdrLen with
    ⟨-, failed⟩ | ⟨i, -, stored⟩
  · rw [failed]
    exact FirstKept.refl state
  · rw [stored]
    exact ⟨rfl, fun _ => rfl, fun _ => rfl⟩

theorem FirstKept.addNFragment (packetbufHdrLen : Nat) (tag : UInt16) (offset : Nat) :
    FirstKept state
      (Lowpan.addNFragment expired state packetbuf packetbufHdrLen tag offset).1 := by
  cases matched : contextOf state packetbuf.sender tag with
  | none =>
    have same : Lowpan.addNFragment expired state packetbuf packetbufHdrLen tag offset =
        (state, none) := by
      rw [contextOf] at matched
      rw [Lowpan.addNFragment, matched]
    rw [same]
    exact FirstKept.refl state
  | some found =>
    have context : ((List.finRange conf.reassContexts).find? fun i =>
        (state.fragInfo i).tag = tag ∧ 0 < (state.fragInfo i).len ∧
          (state.fragInfo i).sender = packetbuf.sender) = some found := matched
    -- what becomes of a fragment that is stored in a state `mid`
    have taken : ∀ mid, FirstKept state mid → FirstKept state
        (let stored := Lowpan.storeFragment mid found offset packetbuf packetbufHdrLen
        if 0 < stored.2.getD 0 then
          (stored.1.setInfo found
            { stored.1.fragInfo found with
              reassembledLen :=
                ((stored.1.fragInfo found).reassembledLen + stored.2.getD 0) % 65536 },
            some found)
        else (stored.1, none)).1 := by
      intro mid kept
      have stored := kept.trans
        (@FirstKept.storeFragment conf packetbuf mid found offset packetbufHdrLen)
      dsimp only
      split
      · exact stored.trans (FirstKept.setInfo _ rfl rfl)
      · exact stored
    rcases storeFragment_cases state found offset packetbuf packetbufHdrLen with
      ⟨-, failed⟩ | ⟨i, -, stored⟩
    · have freed := @FirstKept.timeoutFragments conf expired state found
      by_cases frees : (Lowpan.timeoutFragments expired state found).2 > 0
      · have kept := taken _ freed
        simp only [Lowpan.addNFragment, context, failed, frees, if_true]
        exact kept
      · have same : Lowpan.addNFragment expired state packetbuf packetbufHdrLen tag offset =
            ((Lowpan.timeoutFragments expired state found).1, none) := by
          simp only [Lowpan.addNFragment, context, failed, frees, if_false]
          rfl
        rw [same]
        exact freed
    · have kept := taken state (FirstKept.refl state)
      rw [stored] at kept
      simp only [Lowpan.addNFragment, context, stored]
      exact kept

theorem FirstKept.addFragment (packetbufHdrLen : Nat) (tag : UInt16) (fragSize offset : Nat) :
    FirstKept state
      (Lowpan.addFragment expired state packetbuf packetbufHdrLen tag fragSize offset).1 := by
  unfold Lowpan.addFragment
  split
  · exact FirstKept.addFirstFragment state tag fragSize
  · exact FirstKept.addNFragment state packetbufHdrLen tag offset

end

end

section

variable {addrContexts : List SicslowpanAddrContext} {expired : Fin conf.reassContexts → Bool}
  {state : Reassembly conf} {packetbuf : RxPacketbuf}

theorem decompression_some (some : packetbuf.datalen ≠ 0)
    (brings : packetbuf.fragDispatch ≠ dispatchFragn)
    (free : packetbuf.fragDispatch = dispatchFrag1 → HasFreeContext expired state) :
    ∃ fragSize, decompression addrContexts expired state packetbuf = Option.some
      (Reading.inputBuffer conf addrContexts packetbuf packetbuf.pagingAt fragSize) := by
  unfold decompression RxPacketbuf.pagingAt
  rw [if_neg some]
  by_cases first : packetbuf.fragDispatch = dispatchFrag1
  · obtain ⟨context, found⟩ := addFragment_isSome_iff.mpr (free first)
    rw [if_pos first, if_pos first, found]
    exact ⟨_, rfl⟩
  · rw [if_neg first, if_neg first, if_neg brings]
    exact ⟨_, rfl⟩

theorem mem_decompression {program : Reads UInt8 (List (Patch UInt8) × Option Nat)}
    (member : program ∈ decompression addrContexts expired state packetbuf) :
    ∃ fragSize,
      program = Reading.inputBuffer conf addrContexts packetbuf packetbuf.pagingAt fragSize ∧
        packetbuf.datalen ≠ 0 ∧ packetbuf.fragDispatch ≠ dispatchFragn ∧
        (packetbuf.fragDispatch = dispatchFrag1 → HasFreeContext expired state) := by
  unfold decompression at member
  unfold RxPacketbuf.pagingAt
  split at member
  · cases member
  next some =>
    split at member
    next first =>
      have apart : dispatchFrag1 ≠ dispatchFragn := by decide
      split at member
      · cases member
      next context found =>
        cases member
        rw [if_pos first]
        exact ⟨_, rfl, some, fun same => apart (first.symm.trans same),
          fun _ => addFragment_isSome_iff.mp ⟨context, found⟩⟩
    next other =>
      split at member
      · cases member
      next brings =>
        cases member
        rw [if_neg other]
        exact ⟨_, rfl, some, brings, fun first => absurd first other⟩

theorem decompression_stays_iff :
    ((∀ program ∈ decompression addrContexts expired state packetbuf,
        program.Below packetbuf.mem packetbuf.datalen) ∧
      (packetbuf.fragDispatch = dispatchFrag1 →
        ∀ program ∈ decompression addrContexts expired state packetbuf,
          AllWithin conf.firstFragmentSize (program.value packetbuf.mem).1)) ↔
      (packetbuf.datalen ≠ 0 → packetbuf.fragDispatch ≠ dispatchFragn →
        (packetbuf.fragDispatch = dispatchFrag1 → HasFreeContext expired state) →
          HeadersWhole addrContexts packetbuf ∧
            (packetbuf.fragDispatch = dispatchFrag1 →
              FrameFits conf addrContexts packetbuf conf.firstFragmentSize)) := by
  have room : 24 ≤ conf.firstFragmentSize := by
    unfold LowpanConf.firstFragmentSize
    omega
  constructor
  · rintro ⟨reads, written⟩ some brings free
    obtain ⟨fragSize, run⟩ := @decompression_some conf addrContexts expired state packetbuf some
      brings free
    refine ⟨(below_inputBuffer addrContexts fragSize conf).mp (reads _ run), fun first => ?_⟩
    exact (inputBuffer_within addrContexts fragSize conf room).mp (written first _ run)
  · intro each
    constructor
    · intro program member
      obtain ⟨fragSize, rfl, some, brings, free⟩ := mem_decompression member
      exact (below_inputBuffer addrContexts fragSize conf).mpr (each some brings free).1
    · intro first program member
      obtain ⟨fragSize, rfl, some, brings, free⟩ := mem_decompression member
      exact (inputBuffer_within addrContexts fragSize conf room).mpr
        ((each some brings free).2 first)

theorem FindsBuffer.hasFreeBuffer {found : Fin conf.reassContexts}
    (finds : FindsBuffer expired state packetbuf found) : HasFreeBuffer expired state found := by
  rcases finds with now | ⟨-, later⟩
  · rcases storeFragment_cases state found packetbuf.fragOffset packetbuf fragnHdrLen with
      ⟨-, failed⟩ | ⟨i, free, -⟩
    · rw [failed] at now
      cases now
    · exact ⟨i, .inl free⟩
  · have freed := @timeoutFragments_freed conf expired state found
    rcases storeFragment_cases (timeoutFragments expired state found).1 found packetbuf.fragOffset
        packetbuf fragnHdrLen with ⟨-, failed⟩ | ⟨i, free, -⟩
    · rw [failed] at later
      cases later
    · rcases freed.released i free with before | ⟨other, held, timer, used⟩
      · exact ⟨i, .inl before⟩
      · simp only [Bool.and_eq_true, decide_eq_true_eq] at timer
        exact ⟨i, .inr ⟨other, timer.2, held, timer.1, used⟩⟩

theorem clearFragments_fragBuf (state : Reassembly conf) (context : Fin conf.reassContexts)
    (i : Fin conf.fragmentBuffers) : (clearFragments state context).1.fragBuf i =
      if (state.fragBuf i).HeldFor context then { state.fragBuf i with len := 0 }
      else state.fragBuf i := rfl

end

structure HeldInside (state : Reassembly conf) : Prop where
  first : ∀ context, (state.fragInfo context).firstFragLen ≤ conf.uipBufsize
  held : ∀ i, 0 < (state.fragBuf i).len →
    (state.fragBuf i).offset * 8 + (state.fragBuf i).len ≤ conf.uipBufsize

section

variable {addrContexts : List SicslowpanAddrContext} {expired : Fin conf.reassContexts → Bool}
  {state mid after : Reassembly conf} {packetbuf : RxPacketbuf}

section

variable (inside : HeldInside state)
include inside

theorem HeldInside.patches (context : Fin conf.reassContexts) :
    AllWithin conf.uipBufsize (heldPatches state context) := by
  intro patch member
  rw [Patch.within_iff]
  intro _
  rcases mem_heldPatches.mp member with rfl | ⟨i, held, rfl⟩
  · have first := inside.first context
    unfold SicslowpanFragInfo.firstPatch
    rw [Memory.read_length, Nat.zero_add]
    exact first
  · have fits := inside.held i held.1
    unfold SicslowpanFragBuf.patch
    rw [Memory.read_length]
    exact fits

theorem HeldInside.freedBuf (freed : Freed expired state after)
    (i : Fin conf.fragmentBuffers) (allocated : 0 < (after.fragBuf i).len) :
    (after.fragBuf i).offset * 8 + (after.fragBuf i).len ≤ conf.uipBufsize := by
  rcases freed.buf i with same | empty
  · rw [same] at allocated ⊢
    exact inside.held i allocated
  · omega

theorem HeldInside.addFragment (packetbufHdrLen : Nat) (tag : UInt16) (fragSize offset : Nat)
    (fits : offset ≠ 0 → ∀ context, contextOf state packetbuf.sender tag = some context →
      HasFreeBuffer expired state context → packetbufHdrLen < packetbuf.datalen →
      offset * 8 + (packetbuf.datalen - packetbufHdrLen) ≤ conf.uipBufsize) :
    HeldInside
      (Lowpan.addFragment expired state packetbuf packetbufHdrLen tag fragSize offset).1 := by
  have kept := @FirstKept.addFragment conf expired packetbuf state packetbufHdrLen tag fragSize
    offset
  constructor
  · intro context
    rw [kept.firstFragLen]
    exact inside.first context
  intro i allocated
  unfold Lowpan.addFragment at allocated ⊢
  by_cases zero : offset = 0
  · rw [if_pos zero] at allocated ⊢
    cases added : addFirstFragment expired state packetbuf tag fragSize with
    | mk after claimed =>
      rw [added] at allocated
      cases claimed with
      | none => exact inside.freedBuf (addFirstFragment_none added).1 i allocated
      | some context =>
        obtain ⟨-, mid, freed, -, rfl⟩ := addFirstFragment_some added
        exact inside.freedBuf freed i allocated
  · rw [if_neg zero] at allocated ⊢
    rcases addNFragment_cases expired state packetbuf packetbufHdrLen tag offset with
      ⟨-, freed⟩ | ⟨context, found, -, room, mid, j, added⟩
    · exact inside.freedBuf freed i allocated
    · have payload := added.payload
      have short := Nat.mod_le (packetbuf.datalen - packetbufHdrLen) 256
      have fits := fits zero context found room (by omega)
      rw [added.after] at allocated ⊢
      by_cases same : i = j
      · rw [same, fragmentAdded_fragBuf]
        unfold storedFragment
        dsimp only
        omega
      · rw [fragmentAdded_fragBuf_of_ne same] at allocated ⊢
        exact inside.freedBuf added.freed i allocated

theorem HeldInside.setInfo {context : Fin conf.reassContexts}
    {info : SicslowpanFragInfo} (first : info.firstFragLen ≤ conf.uipBufsize) :
    HeldInside (state.setInfo context info) where
  first := by
    intro other
    by_cases same : other = context
    · rw [same, Reassembly.setInfo_fragInfo]
      exact first
    · rw [Reassembly.setInfo_fragInfo_of_ne _ _ same]
      exact inside.first other
  held := inside.held

theorem HeldInside.copyFrags2uip (context : Fin conf.reassContexts) :
    HeldInside (Lowpan.copyFrags2uip state context) where
  first := by
    intro other
    have kept := (FirstKept.clearFragments state context).firstFragLen other
    have same : ((Lowpan.copyFrags2uip state context).fragInfo other).firstFragLen =
        (state.fragInfo other).firstFragLen := kept
    rw [same]
    exact inside.first other
  held := by
    intro i allocated
    have cell : (Lowpan.copyFrags2uip state context).fragBuf i = _ :=
      clearFragments_fragBuf state context i
    rw [cell] at allocated ⊢
    split at allocated
    · exact absurd allocated (Nat.lt_irrefl 0)
    next elsewhere =>
      rw [if_neg elsewhere]
      exact inside.held i allocated

end

theorem inputBuffer_len {packetbufHdrLen fragSize len : Nat} {buffer : Memory UInt8}
    (put : (inputBuffer conf addrContexts packetbuf packetbufHdrLen buffer fragSize).2 = some len) :
    len ≤ conf.uipBufsize := by
  unfold inputBuffer at put
  split at put
  · cases put
  · split at put
    next accepted =>
      obtain rfl := Option.some.inj put
      have room := accepted.2
      omega
    next => cases put

theorem HeldInside.inputFrag1 (inside : HeldInside state) :
    HeldInside (Lowpan.inputFrag1 addrContexts expired state packetbuf) := by
  have added := @HeldInside.addFragment conf expired state packetbuf inside frag1HdrLen
    packetbuf.fragTag packetbuf.fragSize 0 fun absent => absurd rfl absent
  unfold Lowpan.inputFrag1
  generalize Lowpan.addFragment expired state packetbuf frag1HdrLen packetbuf.fragTag
    packetbuf.fragSize 0 = result at added ⊢
  obtain ⟨mid, claimed⟩ := result
  cases claimed with
  | none => exact added
  | some context =>
    dsimp only at added ⊢
    apply added.setInfo
    have before := added.first context
    cases put : (inputBuffer conf addrContexts packetbuf frag1HdrLen
        (mid.fragInfo context).firstFrag packetbuf.fragSize).2 with
    | none => exact before
    | some len =>
      have checked := inputBuffer_len put
      dsimp only
      split
      · exact Nat.le_trans (Nat.mod_le len 65536) checked
      · exact before

theorem HeldInside.inputFragn (inside : HeldInside state)
    (fits : packetbuf.fragOffset ≠ 0 → ∀ context,
      contextOf state packetbuf.sender packetbuf.fragTag = some context →
      HasFreeBuffer expired state context → fragnHdrLen < packetbuf.datalen →
      packetbuf.fragOffset * 8 + (packetbuf.datalen - fragnHdrLen) ≤ conf.uipBufsize) :
    HeldInside (Lowpan.inputFragn expired state packetbuf).1 := by
  have added := inside.addFragment fragnHdrLen packetbuf.fragTag packetbuf.fragSize
    packetbuf.fragOffset fits
  unfold Lowpan.inputFragn
  generalize Lowpan.addFragment expired state packetbuf fragnHdrLen packetbuf.fragTag
    packetbuf.fragSize packetbuf.fragOffset = result at added ⊢
  obtain ⟨mid, claimed⟩ := result
  cases claimed with
  | none => exact added
  | some context =>
    dsimp only at added ⊢
    split
    · split
      · split
        · refine HeldInside.copyFrags2uip (added.setInfo ?_) context
          exact added.first context
        · exact added
      · exact added
    · exact added

end

section

variable {addrContexts : List SicslowpanAddrContext} {state : Reassembly conf}
  {arrival : Arrival conf}

def afterInput (addrContexts : List SicslowpanAddrContext) (state : Reassembly conf)
    (arrival : Arrival conf) : Reassembly conf :=
  (input addrContexts arrival.expired state arrival.packetbuf).1

theorem HeldInside.afterInput (inside : HeldInside state)
    (bounds : FrameInBounds addrContexts state arrival) :
    HeldInside (Lowpan.afterInput addrContexts state arrival) := by
  unfold Lowpan.afterInput input
  split
  · exact inside
  next some =>
    split
    · exact inside.inputFrag1
    · split
      next later =>
        refine inside.inputFragn fun offset context found free => ?_
        exact (bounds.fragment some later offset context found free).2.2
      next =>
        split
        · exact ⟨inside.first, inside.held⟩
        · exact ⟨inside.first, inside.held⟩

theorem boot_heldInside : HeldInside (boot conf).node :=
  ⟨fun _ => Nat.zero_le _, fun _ allocated => absurd allocated (Nat.lt_irrefl 0)⟩

theorem FrameInBounds.stays (bounds : FrameInBounds addrContexts state arrival)
    (inside : HeldInside state) : StaysInBuffers addrContexts state arrival := by
  have headers := decompression_stays_iff.mpr fun some brings free =>
    ⟨bounds.headers some brings free, fun first => bounds.firstFrag some first (free first)⟩
  refine ⟨headers.1, ?_, headers.2, ?_, ?_⟩
  · intro size member
    unfold storedSize at member
    split at member
    next later =>
      split at member
      · cases member
      next context found =>
        split at member
        next finds =>
          obtain rfl := Option.some.inj member
          have fragment := bounds.fragment later.1 later.2.1 later.2.2 context found
            finds.hasFreeBuffer
          omega
        next => cases member
    next => cases member
  · intro other program member
    obtain ⟨fragSize, rfl, some, brings, -⟩ := mem_decompression member
    obtain ⟨room, fits⟩ := bounds.whole some other brings
    unfold uipIphLen at room
    exact (inputBuffer_within addrContexts fragSize conf (by omega)).mpr fits
  · unfold copiedToUip
    split
    next later =>
      have added := inside.addFragment fragnHdrLen arrival.packetbuf.fragTag
        arrival.packetbuf.fragSize arrival.packetbuf.fragOffset fun offset context found free =>
          (bounds.fragment later.1 later.2 offset context found free).2.2
      generalize addFragment arrival.expired state arrival.packetbuf fragnHdrLen
        arrival.packetbuf.fragTag arrival.packetbuf.fragSize arrival.packetbuf.fragOffset = result
        at added ⊢
      obtain ⟨mid, claimed⟩ := result
      cases claimed with
      | none => exact allWithin_nil _
      | some context =>
        dsimp only at added ⊢
        split
        · exact added.patches context
        · exact allWithin_nil _
    next => exact allWithin_nil _

end

theorem input_stays (conf : LowpanConf) (addrContexts : List SicslowpanAddrContext)
    (arrivals : List (Arrival conf))
    (bounds : Run.Meets (afterInput addrContexts) (FrameInBounds addrContexts) (boot conf).node
      arrivals) :
    Run.Meets (afterInput addrContexts) (StaysInBuffers addrContexts) (boot conf).node arrivals :=
  Run.meets_of_meets HeldInside (fun _ _ inside bounds => inside.afterInput bounds)
    (fun _ _ inside bounds => bounds.stays inside) arrivals _ boot_heldInside bounds

section Sessions

theorem firstOfTwo_inBounds : FrameInBounds [] (boot sessionConf).node (atOnce firstOfTwo) where
  headers := fun _ _ _ =>
    { paging := by decide
      dispatch := fun _ => by decide
      iphc := fun _ iphc => absurd iphc (by decide)
      ipv6 := fun _ _ _ => by decide }
  firstFrag := fun _ _ _ =>
    { iphc := fun _ iphc => absurd iphc (by decide)
      stopped := fun _ iphc => absurd iphc (by decide)
      ended := fun _ iphc => absurd iphc (by decide)
      ipv6 := fun _ _ _ => ⟨by decide, fun _ _ => by decide⟩ }
  whole := fun _ first => absurd rfl first
  fragment := fun _ later => absurd later (by decide)

theorem secondOfTwo_inBounds (state : Reassembly sessionConf) :
    FrameInBounds [] state (atOnce secondOfTwo) where
  headers := fun _ first => absurd rfl first
  firstFrag := fun _ first => absurd first (by decide)
  whole := fun _ _ next => absurd rfl next
  fragment := fun _ _ _ _ _ _ => ⟨by decide, by decide, fun _ => by decide⟩

theorem input_stays_twoFragments :
    Run.Meets (afterInput []) (StaysInBuffers []) (boot sessionConf).node
      [atOnce firstOfTwo, atOnce secondOfTwo] :=
  input_stays sessionConf [] [atOnce firstOfTwo, atOnce secondOfTwo]
    ⟨firstOfTwo_inBounds, secondOfTwo_inBounds _, trivial⟩

def shortExtHdr : RxPacketbuf :=
  { firstOfTwo with
    bytes := [0xc0, 120, 0, 1] ++ [0x7e, 0x33] ++ [0xe1, 2, 1, 0] ++ [0xf3, 0x12, 7, 7] ++
      List.replicate 16 5
    datalen := 30 }

/-- The length of the extension header in units of 8 bytes is 0 - 1 = 255: the UDP header is written
2048 bytes behind it, beyond `first_frag`. -/
theorem shortExtHdr_leaves : ¬ ∀ (conf : LowpanConf) (addrContexts : List SicslowpanAddrContext)
    (arrivals : List (Arrival conf)),
    Run.Meets (afterInput addrContexts) (StaysInBuffers addrContexts) (boot conf).node
      arrivals := by
  intro all
  obtain ⟨stays, -⟩ := all sessionConf [] [atOnce shortExtHdr]
  have uncompressed : decompression [] (fun _ => false) (boot sessionConf).node shortExtHdr =
      some (Reading.inputBuffer sessionConf [] shortExtHdr frag1HdrLen shortExtHdr.fragSize) := by
    rfl
  have inside := stays.firstFrag (by decide) _ uncompressed
  have beyond : ∃ patch ∈ ((Reading.inputBuffer sessionConf [] shortExtHdr frag1HdrLen
      shortExtHdr.fragSize).value shortExtHdr.mem).1,
      patch.items.length ≠ 0 ∧ 2000 < patch.start := by
    decide +kernel
  obtain ⟨patch, member, some, far⟩ := beyond
  have fits := Patch.within_iff.mp (inside patch member) some
  have size : sessionConf.firstFragmentSize = 148 := rfl
  omega

end Sessions

end MultiPhyTsch.Lowpan
