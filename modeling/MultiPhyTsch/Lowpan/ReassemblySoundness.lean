import MultiPhyTsch.Lib.Run
import MultiPhyTsch.Lowpan.AddFragment

/-! Where the bytes of a reassembled packet come from. The observer keeps, for each context, the
frames received since it was created; `input` reads none of that. -/

namespace MultiPhyTsch.Lowpan

variable {conf : LowpanConf} {addrContexts : List SicslowpanAddrContext}

def RxPacketbuf.followedBy (packetbuf : RxPacketbuf) (behind : List UInt8) : RxPacketbuf :=
  { packetbuf with bytes := packetbuf.bytes.take packetbuf.datalen ++ behind }

/-- Whatever the buffer held and whatever lies behind the frame in the packet buffer. -/
def Rebuilds (conf : LowpanConf) (addrContexts : List SicslowpanAddrContext)
    (packetbuf : RxPacketbuf) (bytes : List UInt8) : Prop :=
  ∀ buffer behind,
    let result := inputBuffer conf addrContexts (packetbuf.followedBy behind) frag1HdrLen buffer
      packetbuf.fragSize
    result.2 = some bytes.length ∧ result.1.read 0 bytes.length = bytes

/-- What the frame is decompressed to stays in a buffer of `size` bytes. -/
def ExpandsWithin (conf : LowpanConf) (addrContexts : List SicslowpanAddrContext)
    (packetbuf : RxPacketbuf) (packetbufHdrLen fragSize size : Nat) : Prop :=
  ∀ buffer address, size ≤ address →
    (inputBuffer conf addrContexts packetbuf packetbufHdrLen buffer fragSize).1 address =
      buffer address

def CarriesByte (conf : LowpanConf) (addrContexts : List SicslowpanAddrContext)
    (packetbuf : RxPacketbuf) (address : Nat) (item : UInt8) : Prop :=
  (packetbuf.fragDispatch = dispatchFrag1 ∧
    ∃ bytes, Rebuilds conf addrContexts packetbuf bytes ∧ bytes[address]? = some item) ∨
  (packetbuf.fragDispatch = dispatchFragn ∧ packetbuf.fragnPatch.Holds address item)

structure Arrival (conf : LowpanConf) where
  expired : Fin conf.reassContexts → Bool
  packetbuf : RxPacketbuf

structure Observed (conf : LowpanConf) where
  node : Reassembly conf
  since : Fin conf.reassContexts → List RxPacketbuf

def createdContext (state : Reassembly conf) (arrival : Arrival conf) :
    Option (Fin conf.reassContexts) :=
  let packetbuf := arrival.packetbuf
  if packetbuf.datalen ≠ 0 ∧ (packetbuf.fragDispatch = dispatchFrag1 ∨
      (packetbuf.fragDispatch = dispatchFragn ∧ packetbuf.fragOffset = 0)) then
    (addFirstFragment arrival.expired state packetbuf packetbuf.fragTag packetbuf.fragSize).2
  else none

def observe (addrContexts : List SicslowpanAddrContext) (obs : Observed conf)
    (arrival : Arrival conf) : Observed conf :=
  { node := (input addrContexts arrival.expired obs.node arrival.packetbuf).1
    since := fun context =>
      if createdContext obs.node arrival = some context then [arrival.packetbuf]
      else obs.since context ++ [arrival.packetbuf] }

def boot (conf : LowpanConf) : Observed conf :=
  { node :=
      { fragInfo := fun _ => ⟨linkaddrNull, 0, 0, 0, 0, fun _ => 0⟩
        fragBuf := fun _ => ⟨0, 0, 0, fun _ => 0⟩
        uipBuf := fun _ => 0 }
    since := fun _ => [] }

/-- A packet reassembled at this frame has the size given in the frame, and each of its bytes was
carried by a frame of the same sender and tag received since the context was created. -/
def DeliverySound (addrContexts : List SicslowpanAddrContext) (obs : Observed conf)
    (arrival : Arrival conf) : Prop :=
  let packetbuf := arrival.packetbuf
  ∀ packet, packetbuf.fragDispatch = dispatchFragn →
    (input addrContexts arrival.expired obs.node packetbuf).2 = some packet →
    packet.length = packetbuf.fragSize ∧
    ∃ context, (addFragment arrival.expired obs.node packetbuf fragnHdrLen packetbuf.fragTag
        packetbuf.fragSize packetbuf.fragOffset).2 = some context ∧
      ∀ address item, packet[address]? = some item →
        ∃ carrier ∈ (observe addrContexts obs arrival).since context,
          carrier.sender = packetbuf.sender ∧ carrier.fragTag = packetbuf.fragTag ∧
          CarriesByte conf addrContexts carrier address item

/-! The frames for which the counter of a context stays that of the bytes it holds. -/

def Covered (state : Reassembly conf) (context : Fin conf.reassContexts) (address : Nat) : Prop :=
  ∃ patch ∈ heldPatches state context, patch.Covers address

instance (state : Reassembly conf) (context : Fin conf.reassContexts) (address : Nat) :
    Decidable (Covered state context address) := inferInstanceAs (Decidable (∃ _ ∈ _, _))

/-- The fragment fits its buffer and `uip_buf`, names the size of the packet, and has only bytes
of it that were not there before, or has all that were not. -/
structure FragnCounts (state : Reassembly conf) (context : Fin conf.reassContexts)
    (packetbuf : RxPacketbuf) : Prop where
  accepted : payloadAccepted conf packetbuf fragnHdrLen 0 packetbuf.fragOffset
  fits : packetbuf.datalen - fragnHdrLen ≤ conf.fragmentSize
  size : packetbuf.fragSize = (state.fragInfo context).len
  bytes : (∀ address, packetbuf.fragnPatch.Covers address →
      address < packetbuf.fragSize ∧ ¬ Covered state context address) ∨
    ∀ address, address < packetbuf.fragSize →
      Covered state context address ∨ packetbuf.fragnPatch.Covers address

structure FragmentCounts (addrContexts : List SicslowpanAddrContext) (state : Reassembly conf)
    (arrival : Arrival conf) : Prop where
  first : arrival.packetbuf.fragDispatch = dispatchFrag1 → arrival.packetbuf.fragSize ≠ 0 →
    HasFreeContext arrival.expired state →
    ∃ bytes, Rebuilds conf addrContexts arrival.packetbuf bytes ∧
      bytes.length ≤ conf.firstFragmentSize
  firstFits : arrival.packetbuf.fragDispatch = dispatchFrag1 →
    HasFreeContext arrival.expired state →
    ExpandsWithin conf addrContexts arrival.packetbuf frag1HdrLen arrival.packetbuf.fragSize
      conf.firstFragmentSize
  wholeFits : arrival.packetbuf.fragDispatch ≠ dispatchFrag1 →
    arrival.packetbuf.fragDispatch ≠ dispatchFragn →
    ExpandsWithin conf addrContexts arrival.packetbuf 0 0 conf.uipBufsize
  offsetZero : arrival.packetbuf.fragDispatch = dispatchFragn → arrival.packetbuf.fragOffset = 0 →
    arrival.packetbuf.fragSize ≠ 0 → ¬ HasFreeContext arrival.expired state
  next : arrival.packetbuf.fragDispatch = dispatchFragn → arrival.packetbuf.fragOffset ≠ 0 →
    ∀ context, contextOf state arrival.packetbuf.sender arrival.packetbuf.fragTag = some context →
      HasFreeBuffer arrival.expired state context →
      arrival.packetbuf.datalen = fragnHdrLen ∨ FragnCounts state context arrival.packetbuf

structure ContextSound (addrContexts : List SicslowpanAddrContext) (obs : Observed conf)
    (context : Fin conf.reassContexts) : Prop where
  counted : (obs.node.fragInfo context).reassembledLen ≤
      (Patch.coveredIn (obs.node.fragInfo context).len (heldPatches obs.node context)).card ∨
    ∀ address, address < (obs.node.fragInfo context).len → Covered obs.node context address
  carried : ∀ patch ∈ heldPatches obs.node context, ∀ address item, patch.Holds address item →
    ∃ carrier ∈ obs.since context, carrier.sender = (obs.node.fragInfo context).sender ∧
      carrier.fragTag = (obs.node.fragInfo context).tag ∧
      CarriesByte conf addrContexts carrier address item

structure Sound (addrContexts : List SicslowpanAddrContext) (obs : Observed conf) : Prop where
  owned : BuffersOwned obs.node
  contexts : ∀ context, 0 < (obs.node.fragInfo context).len → ContextSound addrContexts obs context

theorem boot_sound : Sound addrContexts (boot conf) where
  owned := fun _ allocated => absurd allocated (Nat.lt_irrefl 0)
  contexts := fun _ used => absurd used (Nat.lt_irrefl 0)

variable {obs : Observed conf} {context : Fin conf.reassContexts} {mid : Reassembly conf}
  {expired : Fin conf.reassContexts → Bool} {packetbuf : RxPacketbuf}

theorem ContextSound.complete (sound : ContextSound addrContexts obs context)
    (enough : (obs.node.fragInfo context).len ≤ (obs.node.fragInfo context).reassembledLen)
    {address : Nat} (inside : address < (obs.node.fragInfo context).len) :
    Covered obs.node context address := by
  rcases sound.counted with count | all
  · exact Patch.covered_of_card (enough.trans count) inside
  · exact all address inside

theorem ContextSound.of_same {after : Observed conf} (sound : ContextSound addrContexts obs context)
    (info : after.node.fragInfo context = obs.node.fragInfo context)
    (held : ∀ patch, patch ∈ heldPatches after.node context ↔ patch ∈ heldPatches obs.node context)
    (since : ∀ carrier ∈ obs.since context, carrier ∈ after.since context) :
    ContextSound addrContexts after context := by
  have covered : ∀ address, Covered after.node context address ↔ Covered obs.node context address := by
    intro address
    simp only [Covered, held]
  have same : Patch.coveredIn (obs.node.fragInfo context).len (heldPatches after.node context) =
      Patch.coveredIn (obs.node.fragInfo context).len (heldPatches obs.node context) := by
    ext address
    rw [Patch.mem_coveredIn, Patch.mem_coveredIn]
    exact and_congr_right fun _ => covered address
  constructor
  · rw [info, same]
    exact sound.counted.imp id fun all address inside => (covered address).mpr (all address inside)
  · intro patch member address item holds
    obtain ⟨carrier, seen, rest⟩ := sound.carried patch ((held patch).mp member) address item holds
    rw [info]
    exact ⟨carrier, since carrier seen, rest⟩

theorem Sound.freed {since : Fin conf.reassContexts → List RxPacketbuf}
    (sound : Sound addrContexts obs) (freed : Freed expired obs.node mid)
    (more : ∀ context, 0 < (mid.fragInfo context).len →
      ∀ carrier ∈ obs.since context, carrier ∈ since context) :
    Sound addrContexts ⟨mid, since⟩ where
  owned := freed.owned sound.owned
  contexts := by
    intro context used
    have info := freed.info_inUse used
    exact (sound.contexts context (by rw [← info]; exact used)).of_same info
      (fun patch => freed.mem_heldPatches used) (more context used)

theorem setInfo_heldPatches_of_ne {other : Fin conf.reassContexts} (info : SicslowpanFragInfo)
    (different : other ≠ context) :
    heldPatches (mid.setInfo context info) other = heldPatches mid other := by
  unfold heldPatches
  rw [Reassembly.setInfo_fragInfo_of_ne _ _ different, Reassembly.setInfo_fragBuf]

theorem setInfo_mem_heldPatches {info : SicslowpanFragInfo} {patch : Patch UInt8}
    (owned : BuffersOwned mid) (free : (mid.fragInfo context).len = 0) :
    patch ∈ heldPatches (mid.setInfo context info) context ↔ patch = info.firstPatch := by
  rw [mem_heldPatches, Reassembly.setInfo_fragInfo, Reassembly.setInfo_fragBuf]
  apply or_iff_left
  rintro ⟨i, held, _⟩
  obtain ⟨owner, index, used⟩ := owned i held.1
  have same : owner = context := Fin.val_injective (index.symm.trans held.2)
  rw [same] at used
  omega

theorem firstFragment_sound {since : Fin conf.reassContexts → List RxPacketbuf}
    {info : SicslowpanFragInfo} {bytes : List UInt8} (owned : BuffersOwned mid)
    (free : (mid.fragInfo context).len = 0)
    (dispatch : packetbuf.fragDispatch = dispatchFrag1)
    (rebuilds : Rebuilds conf addrContexts packetbuf bytes)
    (reassembledLen : info.reassembledLen = bytes.length)
    (firstFrag : info.firstFrag.read 0 info.firstFragLen = bytes)
    (sender : packetbuf.sender = info.sender) (tag : packetbuf.fragTag = info.tag)
    (seen : packetbuf ∈ since context) :
    ContextSound addrContexts ⟨mid.setInfo context info, since⟩ context := by
  have held : ∀ patch : Patch UInt8,
      patch ∈ heldPatches (mid.setInfo context info) context ↔ patch = ⟨0, bytes⟩ := by
    intro other
    rw [setInfo_mem_heldPatches owned free, SicslowpanFragInfo.firstPatch, firstFrag]
  constructor
  · rw [Reassembly.setInfo_fragInfo, reassembledLen]
    by_cases inside : bytes.length ≤ info.len
    · left
      rw [@Patch.card_coveredIn_fresh UInt8 ⟨0, bytes⟩ info.len [] _ (fun other => by rw [held]; simp)
        (fun address covers => ⟨by have before := covers.2; dsimp only at before; omega, by simp⟩)]
      exact Nat.le_add_left _ _
    · right
      intro address before
      exact ⟨⟨0, bytes⟩, (held _).mpr rfl, Nat.zero_le _, by dsimp only; omega⟩
  · intro other member address item holds
    rw [(held other).mp member] at holds
    rw [Reassembly.setInfo_fragInfo]
    exact ⟨packetbuf, seen, sender, tag, Or.inl ⟨dispatch, bytes, rebuilds, holds.2⟩⟩

theorem fragmentAdded_sound {i : Fin conf.fragmentBuffers}
    {since : Fin conf.reassContexts → List RxPacketbuf}
    (sound : ContextSound addrContexts ⟨mid, since⟩ context) (free : (mid.fragBuf i).len = 0)
    (dispatch : packetbuf.fragDispatch = dispatchFragn) (some : fragnHdrLen < packetbuf.datalen)
    (counts : FragnCounts mid context packetbuf)
    (sender : packetbuf.sender = (mid.fragInfo context).sender)
    (tag : packetbuf.fragTag = (mid.fragInfo context).tag) (seen : packetbuf ∈ since context) :
    ContextSound addrContexts
      ⟨fragmentAdded mid i context packetbuf fragnHdrLen packetbuf.fragOffset, since⟩ context := by
  have fits := counts.fits
  have payloadFits := conf.payloadFits
  have short : packetbuf.datalen - fragnHdrLen < 256 := by
    unfold LowpanConf.fragmentSize at fits
    omega
  have whole : (packetbuf.datalen - fragnHdrLen) % 256 = packetbuf.fragnPatch.items.length := by
    rw [Nat.mod_eq_of_lt short]
    simp [RxPacketbuf.fragnPatch]
  have held : ∀ patch : Patch UInt8, patch ∈ heldPatches
      (fragmentAdded mid i context packetbuf fragnHdrLen packetbuf.fragOffset) context ↔
        patch ∈ heldPatches mid context ∨ patch = packetbuf.fragnPatch := by
    intro patch
    rw [fragmentAdded_mem_heldPatches free some short, and_iff_right rfl]
  have covered : ∀ address, Covered mid context address ∨ packetbuf.fragnPatch.Covers address →
      Covered (fragmentAdded mid i context packetbuf fragnHdrLen packetbuf.fragOffset) context
        address := by
    rintro address (⟨patch, member, covers⟩ | covers)
    · exact ⟨patch, (held patch).mpr (Or.inl member), covers⟩
    · exact ⟨packetbuf.fragnPatch, (held _).mpr (Or.inr rfl), covers⟩
  constructor
  · rw [fragmentAdded_fragInfo]
    dsimp only
    rcases sound.counted with count | all
    · rcases counts.bytes with fresh | completes
      · left
        rw [counts.size] at fresh
        rw [Patch.card_coveredIn_fresh held fresh, whole]
        exact (Nat.mod_le _ _).trans (Nat.add_le_add_right count _)
      · right
        rw [counts.size] at completes
        exact fun address inside => covered address (completes address inside)
    · right
      exact fun address inside => covered address (Or.inl (all address inside))
  · intro patch member address item holds
    rw [fragmentAdded_fragInfo]
    rcases (held patch).mp member with before | rfl
    · exact sound.carried patch before address item holds
    · exact ⟨packetbuf, seen, sender, tag, Or.inr ⟨dispatch, holds⟩⟩

variable {since before : Fin conf.reassContexts → List RxPacketbuf} {state : Reassembly conf}

theorem Sound.taken {info : SicslowpanFragInfo} (sound : Sound addrContexts ⟨mid, since⟩)
    (free : (mid.fragInfo context).len = 0)
    (fresh : 0 < info.len → ContextSound addrContexts ⟨mid.setInfo context info, since⟩ context) :
    Sound addrContexts ⟨mid.setInfo context info, since⟩ where
  owned := by
    intro i allocated
    obtain ⟨owner, index, used⟩ := sound.owned i allocated
    have different : owner ≠ context := by
      rintro rfl
      exact absurd free (Nat.pos_iff_ne_zero.mp used)
    exact ⟨owner, index, by rw [Reassembly.setInfo_fragInfo_of_ne _ _ different]; exact used⟩
  contexts := by
    intro other used
    by_cases same : other = context
    · subst same
      rw [Reassembly.setInfo_fragInfo] at used
      exact fresh used
    · have info := Reassembly.setInfo_fragInfo_of_ne mid info same
      rw [info] at used
      exact (sound.contexts other used).of_same info
        (fun patch => by rw [setInfo_heldPatches_of_ne _ same]) (fun _ seen => seen)

def frag1Info (conf : LowpanConf) (addrContexts : List SicslowpanAddrContext)
    (info : SicslowpanFragInfo) (packetbuf : RxPacketbuf) : SicslowpanFragInfo :=
  let result := inputBuffer conf addrContexts packetbuf frag1HdrLen info.firstFrag packetbuf.fragSize
  let lens := if 0 < packetbuf.fragSize then result.2.map (· % 65536) else none
  { sender := packetbuf.sender
    tag := packetbuf.fragTag
    len := packetbuf.fragSize
    reassembledLen := lens.getD info.reassembledLen
    firstFragLen := lens.getD info.firstFragLen
    firstFrag := result.1 }

theorem inputFrag1_cases (addrContexts : List SicslowpanAddrContext)
    (expired : Fin conf.reassContexts → Bool) (state : Reassembly conf) (packetbuf : RxPacketbuf) :
    let result := inputFrag1 addrContexts expired state packetbuf
    let found := (addFirstFragment expired state packetbuf packetbuf.fragTag packetbuf.fragSize).2
    (found = none ∧ ¬ HasFreeContext expired state ∧ Freed expired state result) ∨
    ∃ context mid, found = some context ∧ HasFreeContext expired state ∧ Freed expired state mid ∧
      (mid.fragInfo context).len = 0 ∧
      result = mid.setInfo context (frag1Info conf addrContexts (mid.fragInfo context) packetbuf) := by
  intro result found
  have input : result = inputFrag1 addrContexts expired state packetbuf := rfl
  rw [inputFrag1, addFragment, if_pos rfl] at input
  rcases added : addFirstFragment expired state packetbuf packetbuf.fragTag packetbuf.fragSize with
    ⟨after, _ | context⟩
  · obtain ⟨freed, full⟩ := addFirstFragment_none added
    rw [added] at input
    left
    refine ⟨congrArg Prod.snd added, full, ?_⟩
    rw [input]
    exact freed
  · obtain ⟨room, mid, freed, free, rfl⟩ := addFirstFragment_some added
    rw [added] at input
    right
    refine ⟨context, mid, congrArg Prod.snd added, room, freed, free, ?_⟩
    rw [input]
    dsimp only
    rw [Reassembly.setInfo_setInfo, Reassembly.setInfo_fragInfo, frag1Info]
    congr 1
    dsimp only
    rcases inputBuffer conf addrContexts packetbuf frag1HdrLen (mid.fragInfo context).firstFrag
      packetbuf.fragSize with ⟨buffer, _ | len⟩
    · simp
    · by_cases sized : 0 < packetbuf.fragSize
      · simp [sized]
      · simp [sized]

theorem followedBy_drop (packetbuf : RxPacketbuf) :
    packetbuf.followedBy (packetbuf.bytes.drop packetbuf.datalen) = packetbuf := by
  rw [RxPacketbuf.followedBy, List.take_append_drop]

theorem inputFrag1_sound (sound : Sound addrContexts ⟨state, before⟩)
    (dispatch : packetbuf.fragDispatch = dispatchFrag1)
    (clean : packetbuf.fragSize ≠ 0 → HasFreeContext expired state →
      ∃ bytes, Rebuilds conf addrContexts packetbuf bytes ∧ bytes.length ≤ conf.firstFragmentSize)
    (created : ∀ context,
      (addFirstFragment expired state packetbuf packetbuf.fragTag packetbuf.fragSize).2 =
        some context → packetbuf ∈ since context)
    (kept : ∀ context,
      (addFirstFragment expired state packetbuf packetbuf.fragTag packetbuf.fragSize).2 ≠
        some context → ∀ carrier ∈ before context, carrier ∈ since context) :
    Sound addrContexts ⟨inputFrag1 addrContexts expired state packetbuf, since⟩ := by
  rcases inputFrag1_cases addrContexts expired state packetbuf with
    ⟨none, _, freed⟩ | ⟨context, mid, found, room, freed, free, result⟩
  · exact sound.freed freed (fun other _ => kept other (by rw [none]; simp))
  · rw [result]
    have soundMid : Sound addrContexts ⟨mid, since⟩ := by
      apply sound.freed freed
      intro other used
      apply kept
      rw [found]
      rintro same
      cases same
      exact absurd free (Nat.pos_iff_ne_zero.mp used)
    apply soundMid.taken free
    intro used
    have sized : 0 < packetbuf.fragSize := used
    obtain ⟨bytes, rebuilds, fits⟩ := clean (Nat.pos_iff_ne_zero.mp sized) room
    obtain ⟨len, read⟩ := rebuilds (mid.fragInfo context).firstFrag
      (packetbuf.bytes.drop packetbuf.datalen)
    rw [followedBy_drop] at len read
    have small : bytes.length % 65536 = bytes.length := by
      have payloadFits := conf.payloadFits
      unfold LowpanConf.firstFragmentSize LowpanConf.fragmentSize at fits
      exact Nat.mod_eq_of_lt (by omega)
    apply @firstFragment_sound conf addrContexts context mid packetbuf since _ bytes soundMid.owned
      free dispatch rebuilds
    · simp [frag1Info, sized, len, small]
    · simp only [frag1Info, sized, if_true, len, Option.map_some, small, Option.getD_some]
      exact read
    · rfl
    · rfl
    · exact created context found

theorem Sound.added {i : Fin conf.fragmentBuffers} (sound : Sound addrContexts ⟨mid, since⟩)
    (inUse : 0 < (mid.fragInfo context).len) (free : (mid.fragBuf i).len = 0)
    (some : fragnHdrLen < packetbuf.datalen) (short : packetbuf.datalen - fragnHdrLen < 256)
    (fresh : ContextSound addrContexts
      ⟨fragmentAdded mid i context packetbuf fragnHdrLen packetbuf.fragOffset, since⟩ context) :
    Sound addrContexts
      ⟨fragmentAdded mid i context packetbuf fragnHdrLen packetbuf.fragOffset, since⟩ := by
  have used : ∀ other, 0 < ((fragmentAdded mid i context packetbuf fragnHdrLen
      packetbuf.fragOffset).fragInfo other).len ↔ 0 < (mid.fragInfo other).len := by
    intro other
    by_cases same : other = context
    · subst same
      rw [fragmentAdded_fragInfo]
    · rw [fragmentAdded_fragInfo_of_ne same]
  constructor
  · intro j allocated
    by_cases same : j = i
    · subst same
      rw [fragmentAdded_fragBuf]
      exact ⟨context, rfl, (used context).mpr inUse⟩
    · rw [fragmentAdded_fragBuf_of_ne same] at allocated ⊢
      obtain ⟨owner, index, inUse⟩ := sound.owned j allocated
      exact ⟨owner, index, (used owner).mpr inUse⟩
  · intro other inUse
    by_cases same : other = context
    · subst same
      exact fresh
    · refine ContextSound.of_same (sound.contexts other ((used other).mp inUse))
        (fragmentAdded_fragInfo_of_ne same) ?_ (fun _ seen => seen)
      intro patch
      rw [fragmentAdded_mem_heldPatches free some short]
      simp [same]

theorem inputFragn_of_added
    (added : addFragment expired state packetbuf fragnHdrLen packetbuf.fragTag packetbuf.fragSize
      packetbuf.fragOffset = (mid, some context)) :
    inputFragn expired state packetbuf =
      if payloadAccepted conf packetbuf fragnHdrLen 0 packetbuf.fragOffset ∧
          packetbuf.fragSize ≤ (mid.fragInfo context).reassembledLen then
        if 0 < packetbuf.fragSize then
          let after := copyFrags2uip (mid.setInfo context
            { mid.fragInfo context with reassembledLen := packetbuf.fragSize }) context
          (after, some (after.uipBuf.read 0 packetbuf.fragSize))
        else (mid, some [])
      else (mid, none) := by
  unfold inputFragn
  rw [added]
  by_cases accepted : payloadAccepted conf packetbuf fragnHdrLen 0 packetbuf.fragOffset
  · by_cases last : packetbuf.fragSize ≤ (mid.fragInfo context).reassembledLen
    · simp only [accepted, last, and_self, if_true]
    · simp only [accepted, last, and_false, if_true, if_false]
  · simp only [accepted, false_and, if_false]

theorem copyFrags2uip_holds {address : Nat} (info : SicslowpanFragInfo)
    (same : info.firstPatch = (mid.fragInfo context).firstPatch)
    (covered : Covered mid context address) :
    ∃ patch ∈ heldPatches mid context,
      patch.Holds address ((copyFrags2uip (mid.setInfo context info) context).uipBuf address) := by
  have held : ∀ patch, patch ∈ heldPatches (mid.setInfo context info) context ↔
      patch ∈ heldPatches mid context := by
    intro patch
    rw [mem_heldPatches, mem_heldPatches, Reassembly.setInfo_fragInfo, Reassembly.setInfo_fragBuf,
      same]
  obtain ⟨patch, member, covers⟩ := covered
  obtain ⟨last, found, holds⟩ := Patch.applyAll_covered mid.uipBuf
    ⟨patch, (held patch).mpr member, covers⟩
  exact ⟨last, (held last).mp found, holds⟩

theorem Covered.iff_freed (freed : Freed expired state mid) (inUse : 0 < (mid.fragInfo context).len)
    (address : Nat) : Covered mid context address ↔ Covered state context address := by
  simp only [Covered, freed.mem_heldPatches inUse]

theorem FragnCounts.freed (counts : FragnCounts state context packetbuf)
    (freed : Freed expired state mid) (inUse : 0 < (mid.fragInfo context).len) :
    FragnCounts mid context packetbuf where
  accepted := counts.accepted
  fits := counts.fits
  size := by rw [freed.info_inUse inUse]; exact counts.size
  bytes := by
    simp only [Covered.iff_freed freed inUse]
    exact counts.bytes

theorem contextOf_some {sender : LinkAddr} {tag : UInt16}
    (found : contextOf state sender tag = some context) :
    (state.fragInfo context).tag = tag ∧ 0 < (state.fragInfo context).len ∧
      (state.fragInfo context).sender = sender := by
  have holds := List.find?_some found
  simpa using holds

theorem completed_carried {info : SicslowpanFragInfo}
    (sound : Sound addrContexts ⟨state, since⟩) (inUse : 0 < (state.fragInfo context).len)
    {size : Nat} (sized : size = (state.fragInfo context).len)
    (enough : size ≤ (state.fragInfo context).reassembledLen) {address : Nat} {item : UInt8}
    (found : ((copyFrags2uip (state.setInfo context info) context).uipBuf.read 0 size)[address]? =
      some item)
    (same : info.firstPatch = (state.fragInfo context).firstPatch) :
    ∃ carrier ∈ since context, carrier.sender = (state.fragInfo context).sender ∧
      carrier.fragTag = (state.fragInfo context).tag ∧
      CarriesByte conf addrContexts carrier address item := by
  have contextSound := sound.contexts context inUse
  have inside : address < size := by
    have bound := (List.getElem?_eq_some_iff.mp found).1
    simpa using bound
  rw [Memory.read_getElem? _ inside, Nat.zero_add] at found
  have covered : Covered state context address :=
    contextSound.complete (by rw [← sized]; exact enough) (by rw [← sized]; exact inside)
  obtain ⟨patch, member, holds⟩ := copyFrags2uip_holds info same covered
  rw [Option.some.inj found] at holds
  exact contextSound.carried patch member address item holds

theorem completed_sound (info : SicslowpanFragInfo) (sound : Sound addrContexts ⟨state, since⟩)
    (inUse : 0 < (state.fragInfo context).len) :
    Sound addrContexts ⟨copyFrags2uip (state.setInfo context info) context, since⟩ := by
  have freed : Freed (fun _ => true) state (copyFrags2uip (state.setInfo context info) context) :=
    copyFrags2uip_freed rfl (fun other different => Reassembly.setInfo_fragInfo_of_ne _ _ different)
      rfl inUse
  exact sound.freed freed (fun _ _ _ seen => seen)

theorem inputFragn_sound (sound : Sound addrContexts ⟨state, before⟩)
    (dispatch : packetbuf.fragDispatch = dispatchFragn)
    (offsetZero : packetbuf.fragOffset = 0 → packetbuf.fragSize ≠ 0 → ¬ HasFreeContext expired state)
    (next : packetbuf.fragOffset ≠ 0 → ∀ context,
      contextOf state packetbuf.sender packetbuf.fragTag = some context →
      HasFreeBuffer expired state context →
      packetbuf.datalen = fragnHdrLen ∨ FragnCounts state context packetbuf)
    (kept : ∀ context, (packetbuf.fragOffset = 0 →
      (addFirstFragment expired state packetbuf packetbuf.fragTag packetbuf.fragSize).2 ≠
        some context) → packetbuf ∈ since context ∧ ∀ carrier ∈ before context, carrier ∈ since context) :
    Sound addrContexts ⟨(inputFragn expired state packetbuf).1, since⟩ ∧
    ∀ packet, (inputFragn expired state packetbuf).2 = some packet →
      packet.length = packetbuf.fragSize ∧
      ∃ context, (addFragment expired state packetbuf fragnHdrLen packetbuf.fragTag
          packetbuf.fragSize packetbuf.fragOffset).2 = some context ∧
        ∀ address item, packet[address]? = some item →
          ∃ carrier ∈ since context, carrier.sender = packetbuf.sender ∧
            carrier.fragTag = packetbuf.fragTag ∧
            CarriesByte conf addrContexts carrier address item := by
  by_cases start : packetbuf.fragOffset = 0
  · have first : addFragment expired state packetbuf fragnHdrLen packetbuf.fragTag
        packetbuf.fragSize packetbuf.fragOffset =
          addFirstFragment expired state packetbuf packetbuf.fragTag packetbuf.fragSize := by
      rw [addFragment, if_pos start]
    rcases added : addFirstFragment expired state packetbuf packetbuf.fragTag packetbuf.fragSize with
      ⟨after, _ | context⟩
    · have result : inputFragn expired state packetbuf = (after, none) := by
        rw [inputFragn, first, added]
      rw [result]
      refine ⟨sound.freed (addFirstFragment_none added).1 ?_, fun _ found => by cases found⟩
      exact fun other _ => (kept other (fun _ => by rw [added]; simp)).2
    · -- only a fragment of size 0 gets here: its context stays free
      obtain ⟨room, mid, freed, free, rfl⟩ := addFirstFragment_some added
      have unsized : packetbuf.fragSize = 0 := by
        by_contra sized
        exact offsetZero start sized room
      have soundMid : Sound addrContexts ⟨mid, since⟩ := by
        apply sound.freed freed
        intro other used
        refine (kept other ?_).2
        intro _
        rw [added]
        rintro same
        cases same
        exact absurd free (Nat.pos_iff_ne_zero.mp used)
      have taken := @Sound.taken conf addrContexts context mid since
        { mid.fragInfo context with
          len := packetbuf.fragSize
          tag := packetbuf.fragTag
          sender := packetbuf.sender } soundMid free
        (fun sized => absurd unsized (Nat.pos_iff_ne_zero.mp sized))
      rw [inputFragn_of_added (first.trans added)]
      split
      · rw [if_neg (by omega)]
        refine ⟨taken, ?_⟩
        rintro packet found
        cases found
        refine ⟨unsized.symm, context, congrArg Prod.snd (first.trans added), ?_⟩
        intro address item found
        simp at found
      · exact ⟨taken, fun _ found => by cases found⟩
  · have later : addFragment expired state packetbuf fragnHdrLen packetbuf.fragTag
        packetbuf.fragSize packetbuf.fragOffset =
          addNFragment expired state packetbuf fragnHdrLen packetbuf.fragTag
            packetbuf.fragOffset := by
      rw [addFragment, if_neg start]
    have keeps := fun context => kept context (fun zero => absurd zero start)
    rcases addNFragment_cases expired state packetbuf fragnHdrLen packetbuf.fragTag
      packetbuf.fragOffset with ⟨none, freed⟩ | ⟨context, matched, found, room, mid, i, stored⟩
    · have result : inputFragn expired state packetbuf =
          ((addNFragment expired state packetbuf fragnHdrLen packetbuf.fragTag
            packetbuf.fragOffset).1, Option.none) := by
        rw [inputFragn, later]
        rw [← Prod.eta (addNFragment expired state packetbuf fragnHdrLen packetbuf.fragTag
          packetbuf.fragOffset), none]
      rw [result]
      exact ⟨sound.freed freed (fun other _ => (keeps other).2), fun _ found => by cases found⟩
    · obtain ⟨tag, used, sender⟩ := contextOf_some matched
      have inUse : 0 < (mid.fragInfo context).len := by
        rw [stored.info]
        exact used
      have payload := stored.payload
      have some : fragnHdrLen < packetbuf.datalen := by
        by_contra short
        rw [Nat.sub_eq_zero_of_le (by omega)] at payload
        exact absurd payload (Nat.lt_irrefl 0)
      have counts : FragnCounts mid context packetbuf := by
        rcases next start context matched room with empty | counts
        · omega
        · exact counts.freed stored.freed inUse
      have short : packetbuf.datalen - fragnHdrLen < 256 := by
        have fits := counts.fits
        have payloadFits := conf.payloadFits
        unfold LowpanConf.fragmentSize at fits
        omega
      have soundMid : Sound addrContexts ⟨mid, since⟩ :=
        sound.freed stored.freed (fun other _ => (keeps other).2)
      have soundAdded := soundMid.added inUse stored.free some short
        (fragmentAdded_sound (soundMid.contexts context inUse) stored.free dispatch some counts
          (by rw [stored.info, sender]) (by rw [stored.info, tag]) (keeps context).1)
      have after := stored.after
      have added : addFragment expired state packetbuf fragnHdrLen packetbuf.fragTag
          packetbuf.fragSize packetbuf.fragOffset =
            (fragmentAdded mid i context packetbuf fragnHdrLen packetbuf.fragOffset,
              Option.some context) := by
        rw [later, ← after, ← found]
      have info := @fragmentAdded_fragInfo conf mid packetbuf i context fragnHdrLen
        packetbuf.fragOffset
      have size : packetbuf.fragSize = ((fragmentAdded mid i context packetbuf fragnHdrLen
          packetbuf.fragOffset).fragInfo context).len := by
        rw [info]
        exact counts.size
      have same : ((fragmentAdded mid i context packetbuf fragnHdrLen
          packetbuf.fragOffset).fragInfo context).sender = packetbuf.sender ∧
          ((fragmentAdded mid i context packetbuf fragnHdrLen
            packetbuf.fragOffset).fragInfo context).tag = packetbuf.fragTag := by
        rw [info]
        dsimp only
        rw [stored.info]
        exact ⟨sender, tag⟩
      have usedAdded : 0 < ((fragmentAdded mid i context packetbuf fragnHdrLen
          packetbuf.fragOffset).fragInfo context).len := by
        rw [info]
        exact inUse
      rw [inputFragn_of_added added]
      by_cases last : payloadAccepted conf packetbuf fragnHdrLen 0 packetbuf.fragOffset ∧
          packetbuf.fragSize ≤ ((fragmentAdded mid i context packetbuf fragnHdrLen
            packetbuf.fragOffset).fragInfo context).reassembledLen
      · rw [if_pos last, if_pos (by omega)]
        constructor
        · exact completed_sound _ soundAdded usedAdded
        · rintro packet found
          cases found
          refine ⟨by simp, context, congrArg Prod.snd added, ?_⟩
          intro address item read
          have carried := completed_carried soundAdded usedAdded size last.2 read rfl
          rw [same.1, same.2] at carried
          exact carried
      · rw [if_neg last]
        exact ⟨soundAdded, fun _ found => by cases found⟩

theorem input_unfragmented_freed (addrContexts : List SicslowpanAddrContext)
    (first : packetbuf.fragDispatch ≠ dispatchFrag1)
    (next : packetbuf.fragDispatch ≠ dispatchFragn) :
    Freed expired state (input addrContexts expired state packetbuf).1 := by
  unfold input
  rw [if_neg first, if_neg next]
  split
  · exact Freed.refl state
  · split
    · exact (Freed.refl state).congr rfl rfl
    · exact (Freed.refl state).congr rfl rfl

theorem observe_created {obs : Observed conf} {arrival : Arrival conf}
    (created : createdContext obs.node arrival = some context) :
    (observe addrContexts obs arrival).since context = [arrival.packetbuf] := by
  simp [observe, created]

theorem observe_sound (obs : Observed conf) (arrival : Arrival conf)
    (sound : Sound addrContexts obs)
    (counts : arrival.packetbuf.datalen ≠ 0 → FragmentCounts addrContexts obs.node arrival) :
    Sound addrContexts (observe addrContexts obs arrival) ∧
      DeliverySound addrContexts obs arrival := by
  obtain ⟨node, before⟩ := obs
  obtain ⟨expired, packetbuf⟩ := arrival
  have kept : ∀ context, createdContext node ⟨expired, packetbuf⟩ ≠ some context →
      packetbuf ∈ (observe addrContexts ⟨node, before⟩ ⟨expired, packetbuf⟩).since context ∧
      ∀ carrier ∈ before context,
        carrier ∈ (observe addrContexts ⟨node, before⟩ ⟨expired, packetbuf⟩).since context := by
    intro context other
    simp only [observe, if_neg other]
    exact ⟨by simp, fun carrier seen => List.mem_append_left _ seen⟩
  by_cases empty : packetbuf.datalen = 0
  · have result : input addrContexts expired node packetbuf = (node, none) := if_pos empty
    have none : createdContext node ⟨expired, packetbuf⟩ = none := if_neg (fun some => some.1 empty)
    constructor
    · have quiet := sound.freed (@Freed.refl conf expired node)
        (fun context _ => (kept context (by rw [none]; simp)).2)
      simpa only [observe, result] using quiet
    · intro packet _ found
      rw [result] at found
      cases found
  · by_cases first : packetbuf.fragDispatch = dispatchFrag1
    · have created : createdContext node ⟨expired, packetbuf⟩ =
          (addFirstFragment expired node packetbuf packetbuf.fragTag packetbuf.fragSize).2 :=
        if_pos ⟨empty, Or.inl first⟩
      have result : input addrContexts expired node packetbuf =
          (inputFrag1 addrContexts expired node packetbuf, none) := by
        rw [input, if_neg empty, if_pos first]
      constructor
      · have clean := inputFrag1_sound sound first ((counts empty).first first)
          (fun context found => by
            have here : createdContext node ⟨expired, packetbuf⟩ = some context :=
              created.trans found
            show packetbuf ∈ (observe addrContexts ⟨node, before⟩ ⟨expired, packetbuf⟩).since context
            rw [observe_created here]
            exact List.mem_singleton_self packetbuf)
          (fun context other => (kept context (by rw [created]; exact other)).2)
        simpa only [observe, result] using clean
      · intro packet _ found
        rw [result] at found
        cases found
    · by_cases next : packetbuf.fragDispatch = dispatchFragn
      · have result : input addrContexts expired node packetbuf =
            inputFragn expired node packetbuf := by
          rw [input, if_neg empty, if_neg first, if_pos next]
        have fragn := inputFragn_sound sound next ((counts empty).offsetZero next)
          ((counts empty).next next)
          (fun context other => kept context (by
            by_cases start : packetbuf.fragOffset = 0
            · have created : createdContext node ⟨expired, packetbuf⟩ =
                  (addFirstFragment expired node packetbuf packetbuf.fragTag
                    packetbuf.fragSize).2 := if_pos ⟨empty, Or.inr ⟨next, start⟩⟩
              rw [created]
              exact other start
            · have none : createdContext node ⟨expired, packetbuf⟩ = none := by
                apply if_neg
                rintro ⟨_, dispatch | ⟨_, zero⟩⟩
                · exact first dispatch
                · exact start zero
              rw [none]
              simp))
        constructor
        · simpa only [observe, result] using fragn.1
        · intro packet _ found
          rw [result] at found
          exact fragn.2 packet found
      · have none : createdContext node ⟨expired, packetbuf⟩ = none := by
          apply if_neg
          rintro ⟨_, dispatch | ⟨dispatch, _⟩⟩
          · exact first dispatch
          · exact next dispatch
        constructor
        · exact sound.freed (input_unfragmented_freed addrContexts first next)
            (fun context _ => (kept context (by rw [none]; simp)).2)
        · intro packet dispatch _
          exact absurd dispatch next

/-- As long as every frame that is not empty leaves the counters with the bytes that are held, every packet that is
reassembled consists of what its sender sent. -/
theorem reassembly_sound (conf : LowpanConf) (addrContexts : List SicslowpanAddrContext)
    (arrivals : List (Arrival conf))
    (counts : Run.Meets (observe addrContexts)
      (fun obs arrival => arrival.packetbuf.datalen ≠ 0 →
        FragmentCounts addrContexts obs.node arrival) (boot conf) arrivals) :
    Run.Meets (observe addrContexts) (DeliverySound addrContexts) (boot conf) arrivals :=
  Run.meets_of_meets (Sound addrContexts)
    (fun obs arrival sound counts => (observe_sound obs arrival sound counts).1)
    (fun obs arrival sound counts => (observe_sound obs arrival sound counts).2)
    arrivals (boot conf) boot_sound counts

section

variable (addrContexts : List SicslowpanAddrContext)
  (dispatch : packetbuf.mem frag1HdrLen = dispatchIpv6)
  (whole : frag1HdrLen + 1 + uipIphLen ≤ packetbuf.datalen)
  (fits : packetbuf.datalen - (frag1HdrLen + 1) ≤ conf.uipBufsize)
include dispatch whole fits

theorem inputBuffer_ipv6 (buffer : Memory UInt8) (fragSize : Nat) :
    inputBuffer conf addrContexts packetbuf frag1HdrLen buffer fragSize =
      ((buffer.write 0 (packetbuf.mem.read (frag1HdrLen + 1) uipIphLen)).write uipIphLen
        (packetbuf.payload (frag1HdrLen + 1 + uipIphLen)),
        some (packetbuf.datalen - (frag1HdrLen + 1))) := by
  have hdrLen : frag1HdrLen = 4 := rfl
  have iphLen : uipIphLen = 40 := rfl
  have noPaging : ¬ dispatchIpv6 &&& dispatchPagingMask = dispatchPaging := by decide
  have noIphc : ¬ dispatchIpv6 &&& dispatchIphcMask = dispatchIphc := by decide
  have headers : inputHeaders addrContexts packetbuf frag1HdrLen buffer fragSize =
      some ⟨buffer.write 0 (packetbuf.mem.read (frag1HdrLen + 1) uipIphLen),
        frag1HdrLen + 1 + uipIphLen, uipIphLen⟩ := by
    simp only [inputHeaders, dispatch, noPaging, noIphc, if_false, if_true]
    rfl
  have accepted : payloadAccepted conf packetbuf (frag1HdrLen + 1 + uipIphLen) uipIphLen 0 :=
    ⟨whole, by omega⟩
  have len : uipIphLen + (packetbuf.datalen - (frag1HdrLen + 1 + uipIphLen)) =
      packetbuf.datalen - (frag1HdrLen + 1) := by omega
  simp only [inputBuffer, headers, if_pos accepted, len]

theorem expandsWithin_ipv6 (fragSize : Nat) :
    ExpandsWithin conf addrContexts packetbuf frag1HdrLen fragSize
      (packetbuf.datalen - (frag1HdrLen + 1)) := by
  intro buffer address behind
  have header : (packetbuf.mem.read (frag1HdrLen + 1) uipIphLen).length = uipIphLen :=
    Memory.read_length _ _ _
  have payload := packetbuf.payload_length (frag1HdrLen + 1 + uipIphLen)
  rw [inputBuffer_ipv6 addrContexts dispatch whole fits]
  exact (Memory.write_after _ (by omega)).trans (Memory.write_after _ (by omega))

theorem rebuilds_ipv6 (given : packetbuf.datalen ≤ packetbuf.bytes.length) :
    Rebuilds conf addrContexts packetbuf
      (packetbuf.mem.read (frag1HdrLen + 1) (packetbuf.datalen - (frag1HdrLen + 1))) := by
  intro buffer behind
  have same : ∀ address, address < packetbuf.datalen →
      (packetbuf.followedBy behind).mem address = packetbuf.mem address := by
    intro address inside
    rw [RxPacketbuf.mem, RxPacketbuf.followedBy, RxPacketbuf.mem, List.getD_append _ _ _ _
      (by rw [List.length_take]; omega), List.getD_eq_getElem?_getD, List.getElem?_take_of_lt inside,
      List.getD_eq_getElem?_getD]
  have bytes : (packetbuf.followedBy behind).mem.read (frag1HdrLen + 1)
      (packetbuf.datalen - (frag1HdrLen + 1)) =
        packetbuf.mem.read (frag1HdrLen + 1) (packetbuf.datalen - (frag1HdrLen + 1)) :=
    Memory.read_congr fun address _ inside => same address (by omega)
  have result := @inputBuffer_ipv6 conf (packetbuf.followedBy behind) addrContexts
    ((same _ (by omega)).trans dispatch) whole fits buffer packetbuf.fragSize
  have len : packetbuf.datalen - (frag1HdrLen + 1) =
      uipIphLen + (packetbuf.datalen - (frag1HdrLen + 1 + uipIphLen)) := by
    have hdrLen : frag1HdrLen = 4 := rfl
    have iphLen : uipIphLen = 40 := rfl
    omega
  have payload : ((packetbuf.followedBy behind).payload (frag1HdrLen + 1 + uipIphLen)).length =
      packetbuf.datalen - (frag1HdrLen + 1 + uipIphLen) := RxPacketbuf.payload_length _ _
  dsimp only
  rw [result, Memory.read_length]
  refine ⟨rfl, ?_⟩
  rw [← bytes, len, Memory.read_add, Memory.read_add, Nat.zero_add,
    Memory.read_write_before _ _ (by simp), Memory.read_write_of_length _ _ (by simp),
    Memory.read_write_of_length _ _ payload]
  rfl

end

section Sessions

def sessionConf : LowpanConf := ⟨125, 2, 2, 1280, by decide⟩

def firstOfTwo : RxPacketbuf :=
  { sender := #v[2, 0, 0, 0, 0, 0, 0, 9]
    receiver := #v[2, 0, 0, 0, 0, 0, 0, 8]
    bytes := [0xc0, 56, 0, 1, 0x41] ++ [0x60, 0, 0, 0, 0, 16, 59, 64] ++ List.replicate 32 7 ++
      [1, 2, 3, 4, 5, 6, 7, 8]
    datalen := 53 }

def secondOfTwo : RxPacketbuf :=
  { sender := #v[2, 0, 0, 0, 0, 0, 0, 9]
    receiver := #v[2, 0, 0, 0, 0, 0, 0, 8]
    bytes := [0xe0, 56, 0, 1, 6] ++ [11, 12, 13, 14, 15, 16, 17, 18]
    datalen := 13 }

def offsetZero : RxPacketbuf :=
  { sender := #v[2, 0, 0, 0, 0, 0, 0, 5]
    receiver := #v[2, 0, 0, 0, 0, 0, 0, 8]
    bytes := [0xe0, 56, 0, 7, 0] ++ [21, 22]
    datalen := 7 }

def atOnce (packetbuf : RxPacketbuf) : Arrival sessionConf := ⟨fun _ => false, packetbuf⟩

theorem firstOfTwo_counts : FragmentCounts [] (boot sessionConf).node (atOnce firstOfTwo) where
  first := fun _ _ _ =>
    ⟨_, rebuilds_ipv6 [] (by decide) (by decide) (by decide) (by decide), by decide⟩
  firstFits := fun _ _ buffer address behind =>
    expandsWithin_ipv6 [] (by decide) (by decide) (by decide) _ buffer address
      (Nat.le_trans (by decide) behind)
  wholeFits := fun first => absurd rfl first
  offsetZero := fun dispatch => absurd dispatch (by decide)
  next := fun dispatch => absurd dispatch (by decide)

theorem secondOfTwo_counts :
    FragmentCounts [] (observe [] (boot sessionConf) (atOnce firstOfTwo)).node
      (atOnce secondOfTwo) where
  first := fun dispatch => absurd dispatch (by decide)
  firstFits := fun dispatch => absurd dispatch (by decide)
  wholeFits := fun _ next => absurd rfl next
  offsetZero := fun _ zero => absurd zero (by decide)
  next := by
    intro _ _ context found _
    have only : contextOf (observe [] (boot sessionConf) (atOnce firstOfTwo)).node
        secondOfTwo.sender secondOfTwo.fragTag = some ⟨0, by decide⟩ := by
      decide +kernel
    cases Option.some.inj (only.symm.trans found)
    right
    exact ⟨by decide, by decide, by decide +kernel, Or.inr (by decide +kernel)⟩

theorem reassembly_sound_twoFragments :
    Run.Meets (observe []) (DeliverySound []) (boot sessionConf)
      [atOnce firstOfTwo, atOnce secondOfTwo] :=
  reassembly_sound sessionConf [] [atOnce firstOfTwo, atOnce secondOfTwo]
    ⟨fun _ => firstOfTwo_counts, fun _ => secondOfTwo_counts, trivial⟩

/-- A fragment with offset 0 from another node gets a context with the counter and the first
fragment of the session before, and is delivered with the bytes of that one. -/
theorem offsetZero_delivers_stale :
    ¬ Run.Meets (observe []) (DeliverySound []) (boot sessionConf)
      [atOnce firstOfTwo, atOnce secondOfTwo, atOnce offsetZero] := by
  rintro ⟨_, _, sound, _⟩
  let obs := observe [] (observe [] (boot sessionConf) (atOnce firstOfTwo)) (atOnce secondOfTwo)
  have stale : ((input [] (fun _ => false) obs.node offsetZero).2.bind fun packet => packet[0]?) =
      some 0x60 := by
    decide +kernel
  have created : createdContext obs.node (atOnce offsetZero) = some ⟨0, by decide⟩ := by
    decide +kernel
  have chosen : (addFragment (fun _ => false) obs.node offsetZero fragnHdrLen offsetZero.fragTag
      offsetZero.fragSize offsetZero.fragOffset).2 = some ⟨0, by decide⟩ := by
    decide +kernel
  obtain ⟨packet, delivered, first⟩ := Option.bind_eq_some_iff.mp stale
  obtain ⟨_, context, found, carried⟩ := sound packet (by decide) delivered
  cases Option.some.inj (found.symm.trans chosen)
  obtain ⟨carrier, seen, _, _, carries⟩ := carried 0 0x60 first
  have only : (observe [] obs (atOnce offsetZero)).since ⟨0, by decide⟩ = [offsetZero] :=
    observe_created created
  have same : carrier = offsetZero := by
    rw [only] at seen
    exact List.mem_singleton.mp seen
  rw [same] at carries
  rcases carries with ⟨dispatch, _⟩ | ⟨_, _, holds⟩
  · exact absurd dispatch (by decide)
  · exact absurd holds (by decide)

end Sessions

end MultiPhyTsch.Lowpan
