import MultiPhyTsch.Ipv6.ExtHeaderProgress
import MultiPhyTsch.Rpl.HeaderInsertion
import Mathlib.Data.UInt

/-! The operations on extension headers keep the length field and `uip_ext_len` right, and what one
of them inserts another one takes out. -/

namespace MultiPhyTsch.Rpl

open MultiPhyTsch.Ipv6

inductive ExtHeaderOp
  | srhGetNextHop
  | srhUpdate
  | hbhUpdate (uipExtOptOffset : UInt8)
  | updateHbh
  | insertHbh
  | insertSrh
  | remove
  | update
deriving DecidableEq, Repr

section

variable (conf : RplConf) (router : RplRouter) (sender : LinkAddr)

def ExtHeaderOp.run (rounds : Nat) (packet : UipPacket) : ExtHeaderOp → Option (Bool × UipPacket)
  | .srhGetNextHop => (rplExtHeaderSrhGetNextHop router packet).map fun (hop, packet) =>
    (hop.isSome, packet)
  | .srhUpdate => rplExtHeaderSrhUpdate packet
  | .hbhUpdate offset =>
    let (updated, packet, _) := rplExtHeaderHbhUpdate conf router sender offset.toNat packet
    some (updated, packet)
  | .updateHbh => some (updateHbhHeader router packet)
  | .insertHbh => some (insertHbhHeader router packet)
  | .insertSrh => insertSrhHeader router packet
  | .remove => (rplExtHeaderRemove rounds packet).map fun packet => (true, packet)
  | .update => rplExtHeaderUpdate rounds router packet

def ExtLenKept (packet after : UipPacket) : Prop :=
  (after.uipExtLen.toNat : Int) - packet.uipExtLen.toNat =
    (after.uipLen.toNat : Int) - packet.uipLen.toNat

instance (packet after : UipPacket) : Decidable (ExtLenKept packet after) :=
  inferInstanceAs (Decidable (_ = _))

def TakenOut (packet inserted : UipPacket) : Prop :=
  ∃ rounds restored, rplExtHeaderRemove rounds inserted = some restored ∧ Restored packet restored

structure Transparent (packet : UipPacket) (op : ExtHeaderOp) : Prop where
  len : ∀ rounds after, op.run conf router sender rounds packet = some (true, after) →
    LenMatches after
  extLen : ∀ rounds succeeded after,
    op.run conf router sender rounds packet = some (succeeded, after) → ExtLenKept packet after
  takenOut : op = .insertHbh ∨ op = .insertSrh → ∀ rounds inserted,
    op.run conf router sender rounds packet = some (true, inserted) → inserted ≠ packet →
    TakenOut packet inserted

end

structure InPlace (packet after : UipPacket) : Prop where
  uipLen : after.uipLen = packet.uipLen
  len : lenOf after.buf = lenOf packet.buf

theorem InPlace.refl (packet : UipPacket) : InPlace packet packet := ⟨rfl, rfl⟩

theorem InPlace.lenMatches {packet after : UipPacket} (inPlace : InPlace packet after)
    (before : LenMatches packet) : LenMatches after := by
  unfold LenMatches at *
  change lenOf after.buf + uipIphLen = _
  rw [inPlace.len, inPlace.uipLen]
  exact before

theorem InPlace.extLenKept_iff {packet after : UipPacket} (inPlace : InPlace packet after) :
    ExtLenKept packet after ↔ after.uipExtLen = packet.uipExtLen := by
  unfold ExtLenKept
  rw [inPlace.uipLen, ← UInt8.toNat_inj]
  omega

theorem lenOf_write {buf : Memory UInt8} {start : Nat} (items : List UInt8)
    (behind : lenField + 1 < start) : lenOf (buf.write start items) = lenOf buf :=
  lenOf_congr (Memory.write_before _ _ (by omega)) (Memory.write_before _ _ behind)

theorem srhSwap_len (buf : Memory UInt8) (rh : Nat) (behind : uipIphLen ≤ rh) :
    lenOf (srhSwap buf rh) = lenOf buf := by
  have ip : uipIphLen = 40 := rfl
  have high : lenField = 4 := rfl
  have dest : destipaddrField = 24 := rfl
  unfold srhSwap
  dsimp only
  split
  · rfl
  · rw [lenOf_write _ (by omega), lenOf_write _ (by omega)]
    exact lenOf_write _ (by omega)

theorem srhUpdate_inPlace {packet after : UipPacket} {succeeded : Bool}
    (ran : rplExtHeaderSrhUpdate packet = some (succeeded, after)) :
    InPlace packet after ∧ after.uipExtLen = packet.uipExtLen := by
  unfold rplExtHeaderSrhUpdate at ran
  obtain ⟨search, _, result⟩ := Option.map_eq_some_iff.mp ran
  split at result
  · obtain rfl := congrArg Prod.snd result
    exact ⟨⟨rfl, srhSwap_len _ _ (Nat.le_add_right _ _)⟩, rfl⟩
  · obtain rfl := congrArg Prod.snd result
    exact ⟨InPlace.refl _, rfl⟩

theorem hbhUpdate_inPlace (conf : RplConf) (router : RplRouter) (sender : LinkAddr)
    (offset : Nat) (packet : UipPacket) :
    let after := (rplExtHeaderHbhUpdate conf router sender offset packet).2.1
    InPlace packet after ∧ after.uipExtLen = packet.uipExtLen := by
  intro after
  have behind : ∀ flags, InPlace packet (packet.store (packet.extBuf + offset + 2) flags) := by
    intro flags
    refine ⟨rfl, lenOf_write _ ?_⟩
    unfold lenField UipPacket.extBuf uipIphLen
    omega
  have cases : after = packet ∨ ∃ flags, after = packet.store (packet.extBuf + offset + 2) flags :=
    hbhUpdate_packet conf router sender offset packet
  rcases cases with same | ⟨flags, stored⟩
  · rw [same]
    exact ⟨InPlace.refl _, rfl⟩
  · rw [stored]
    exact ⟨behind flags, rfl⟩

def WrongHbhSize (packet : UipPacket) : Prop :=
  (packet.proto = uipProtoHbho ∧ packet.buf (uipIphLen + 2) = uipExtHdrOptRpl) ∧
    (packet.buf (uipIphLen + 1) ≠ 0 ∨ packet.buf (uipIphLen + 3) ≠ rplHdrOptLen)

theorem updateHbh_inPlace (router : RplRouter) (packet : UipPacket) :
    InPlace packet (updateHbhHeader router packet).2 ∧
      ((updateHbhHeader router packet).2.uipExtLen = packet.uipExtLen ↔
        packet.uipExtLen = 0 ∨ ¬ WrongHbhSize packet) := by
  unfold updateHbhHeader WrongHbhSize
  dsimp only
  split
  next rpl =>
    split
    next wrong =>
      refine ⟨⟨rfl, rfl⟩, ?_⟩
      change 0 = packet.uipExtLen ↔ _
      simp only [rpl, wrong, and_self, not_true, or_false]
      exact eq_comm
    next right =>
      have kept : packet.uipExtLen = 0 ∨ ¬ ((packet.proto = uipProtoHbho ∧
          packet.buf (uipIphLen + 2) = uipExtHdrOptRpl) ∧
          (packet.buf (uipIphLen + 1) ≠ 0 ∨ packet.buf (uipIphLen + 3) ≠ rplHdrOptLen)) :=
        Or.inr fun both => right both.2
      split
      · exact ⟨InPlace.refl _, iff_of_true rfl kept⟩
      · exact ⟨⟨rfl, lenOf_write _ (by decide)⟩, iff_of_true rfl kept⟩
  next other =>
    exact ⟨InPlace.refl _, iff_of_true rfl (Or.inr fun both => other both.1)⟩

def SearchedCounted (packet : UipPacket) : Prop :=
  ∀ search, findRoutingHeader packet.buf = some search → search.extLen = packet.uipExtLen

theorem srhGetNextHop_inPlace {router : RplRouter} {packet after : UipPacket}
    {hop : Option UipIpaddr}
    (ran : rplExtHeaderSrhGetNextHop router packet = some (hop, after)) :
    InPlace packet after ∧ (after.uipExtLen = packet.uipExtLen ↔
      router.rplIsAddrInOurDag packet.destipaddr = true ∨ SearchedCounted packet) := by
  unfold rplExtHeaderSrhGetNextHop at ran
  obtain ⟨search, found, result⟩ := Option.map_eq_some_iff.mp ran
  split at result
  next outside =>
    obtain rfl := congrArg Prod.snd result
    refine ⟨⟨rfl, rfl⟩, ?_⟩
    have notIn : router.rplIsAddrInOurDag packet.destipaddr ≠ true := by simpa using outside
    constructor
    · intro same
      refine Or.inr fun other again => ?_
      obtain rfl := Option.some.inj (found.symm.trans again)
      exact same
    · rintro (inDag | counted)
      · exact absurd inDag notIn
      · exact counted search found
  next inside =>
    have inDag : router.rplIsAddrInOurDag packet.destipaddr = true := by simpa using inside
    dsimp only at result
    split at result <;>
      · obtain rfl := congrArg Prod.snd result
        exact ⟨InPlace.refl _, iff_of_true rfl (Or.inl inDag)⟩

structure Grown (packet after : UipPacket) (size : Nat) : Prop where
  byte : size < 256
  uipLen : after.uipLen.toNat = packet.uipLen.toNat + size
  len : lenOf after.buf = (lenOf packet.buf + size) % 65536
  extLen : after.uipExtLen = packet.uipExtLen + UInt8.ofNat size

theorem Grown.lenMatches {packet after : UipPacket} {size : Nat} (grown : Grown packet after size)
    (before : LenMatches packet) : LenMatches after := by
  have bound := UInt16.toNat_lt after.uipLen
  have uipLen := grown.uipLen
  have ip : uipIphLen = 40 := rfl
  unfold LenMatches at *
  change lenOf packet.buf + uipIphLen = _ at before
  change lenOf after.buf + uipIphLen = _
  rw [grown.len]
  omega

theorem Grown.extLenKept_iff {packet after : UipPacket} {size : Nat}
    (grown : Grown packet after size) :
    ExtLenKept packet after ↔ packet.uipExtLen.toNat + size < 256 := by
  have byte := grown.byte
  have bound := UInt8.toNat_lt packet.uipExtLen
  unfold ExtLenKept
  rw [grown.uipLen, grown.extLen, UInt8.toNat_add, UInt8.toNat_ofNat']
  omega

theorem placeHbh_grown {router : RplRouter} {packet : UipPacket}
    (room : packet.uipLen.toNat + rplHopByHopLen ≤ router.room.toNat) :
    Grown packet (placeHbh router packet) rplHopByHopLen := by
  refine ⟨by decide, placeHbh_uipLen room, ?_, rfl⟩
  have same : ∀ buf : Memory UInt8, lenOf buf = lenOf packet.buf →
      lenOf (addIpLen buf (UInt8.ofNat rplHopByHopLen)) =
        (lenOf packet.buf + rplHopByHopLen) % 65536 := by
    intro buf len
    rw [lenOf_addIpLen, len]
    rfl
  refine same _ ?_
  unfold writeRankAndInstance
  rw [lenOf_write _ (by decide), lenOf_write _ (by decide), lenOf_write _ (by decide),
    lenOf_write _ (by decide)]
  exact lenOf_congr (makeRoom_before (by decide)) (makeRoom_before (by decide))

theorem insertHbh_cases (router : RplRouter) (packet : UipPacket) :
    (¬ packet.uipLen.toNat + rplHopByHopLen ≤ router.room.toNat ∧
        insertHbhHeader router packet = (false, packet)) ∨
      packet.uipLen.toNat + rplHopByHopLen ≤ router.room.toNat ∧
        (insertHbhHeader router packet).1 = router.node.currInstance.used ∧
        Grown packet (insertHbhHeader router packet).2 rplHopByHopLen := by
  unfold insertHbhHeader
  split
  next tooLong => exact Or.inl ⟨Nat.not_le.mpr tooLong, rfl⟩
  next fits =>
    have room := Nat.not_lt.mp fits
    have grown := placeHbh_grown room
    right
    rw [updateHbh_placed]
    cases used : router.node.currInstance.used
    · exact ⟨room, rfl, grown⟩
    · refine ⟨room, rfl, grown.byte, grown.uipLen, ?_, grown.extLen⟩
      refine Eq.trans ?_ grown.len
      exact lenOf_write _ (by decide)

structure SrhRegular (router : RplRouter) (packet : UipPacket) (destNode rootNode : Nat)
    (hops : List Nat) : Prop where
  small : hops.length * hopSize (srhSizes router packet.destipaddr hops).cmpri ≤ 240
  top : destNode = rootNode → (router.sr.nodememb.mem rootNode).parent = none

theorem routed_grown {router : RplRouter} {packet : UipPacket} {destNode rootNode : Nat}
    {hops : List Nat} {below : List Nat × Option Nat}
    (route : SrhRoute router packet destNode rootNode hops below)
    (regular : SrhRegular router packet destNode rootNode hops) :
    Grown packet (routed router packet destNode hops below)
      (srhSizes router packet.destipaddr hops).extLen.toNat := by
  obtain ⟨size, blocks, sized⟩ := (route.fits regular.small regular.top).size
  have room := route.room
  unfold routed
  generalize srhSizes router packet.destipaddr hops = sizes at room sized ⊢
  have extLen := sized.extLen
  have written := sized.written
  have ip : uipIphLen = 40 := rfl
  have high : lenField = 4 := rfl
  have proto : protoField = 6 := rfl
  have ends : hopsEnd sizes packet = packet.extBuf + size - sizes.padding.toNat := by
    unfold hopsEnd
    rw [extLen]
  have beyond : uipIphLen ≤ packet.extBuf := Nat.le_add_right _ _
  obtain ⟨_, _, _, other⟩ := writeSrh_header sizes packet.extBuf
    (makeRoom packet.buf packet.extBuf sizes.extLen.toNat (moveCount packet.uipLen)) (by omega)
  refine ⟨UInt8.toNat_lt _, placeSrh_uipLen room, ?_, ?_⟩
  · have cells : ∀ address, address ≤ lenField + 1 →
        writeHops router sizes.cmpri.toNat below.1 (hopsEnd sizes packet)
          (writeSrh sizes packet.extBuf (makeRoom packet.buf packet.extBuf sizes.extLen.toNat
            (moveCount packet.uipLen))) address = packet.buf address := by
      intro address low
      have room : below.1.length * (16 - sizes.cmpri.toNat) ≤ hopsEnd sizes packet := by
        unfold hopSize at written
        omega
      unfold hopSize at written
      rw [writeHops_other router sizes.cmpri.toNat room (by omega), other address (by omega)]
      exact makeRoom_before (by omega)
    unfold placeSrh
    dsimp only
    rw [lenOf_addIpLen]
    unfold writeIpaddr
    rw [lenOf_write _ (by decide)]
    have kept := lenOf_congr (cells lenField (by omega)) (cells (lenField + 1) (by omega))
    unfold hopsEnd makeRoom at kept
    rw [kept]
  · change packet.uipExtLen + sizes.extLen = _
    rw [UInt8.ofNat_toNat]

structure Inside (removal : HeaderRemoval) : Prop where
  counted : (if removal.isRpl then removal.size
    else removal.packet.uipExtLen.toNat + removal.size) < 256
  inside : removal.ext + removal.size ≤ removal.packet.uipLen.toNat

def headersLen : Nat → HeaderRemoval → Nat
  | 0, _ => 0
  | rounds + 1, removal =>
    match removal.step with
    | none => 0
    | some next => removal.size + headersLen rounds next

def HeadersInside (packet : UipPacket) : Prop :=
  ∀ removal, Loop.Visits HeaderRemoval.step (HeaderRemoval.start packet) removal →
    removal.step ≠ none → Inside removal

def HeadersCounted (packet : UipPacket) : Prop :=
  ∀ rounds, (rplExtHeaderRemove rounds packet).isSome = true →
    headersLen rounds (HeaderRemoval.start packet) = packet.uipExtLen.toNat

structure Linked (removal : HeaderRemoval) : Prop where
  link : removal.nextHdr = protoField ∨ uipIphLen ≤ removal.nextHdr
  before : removal.nextHdr < removal.ext
  len : LenMatches removal.packet

theorem linked_start {packet : UipPacket} (ipv6 : LenMatches packet) :
    Linked (HeaderRemoval.start packet) :=
  ⟨Or.inl rfl, show protoField < uipIphLen + 0 by decide, ipv6⟩

theorem Linked.step {removal next : HeaderRemoval} (linked : Linked removal)
    (inside : Inside removal) (stepped : removal.step = some next) :
    Linked next ∧ next.packet.uipExtLen.toNat + removal.packet.uipLen.toNat =
      removal.packet.uipExtLen.toNat + next.packet.uipLen.toNat + removal.size := by
  have size := size_ge removal
  have ends := inside.inside
  have counted := inside.counted
  have before := linked.before
  have ipv6 := linked.len
  have beyond : uipIphLen ≤ removal.ext := Nat.le_add_right _ _
  have ip : uipIphLen = 40 := rfl
  have high : lenField = 4 := rfl
  have proto : protoField = 6 := rfl
  have bound := UInt16.toNat_lt removal.packet.uipLen
  unfold HeaderRemoval.step at stepped
  split at stepped
  next isRpl =>
    obtain rfl := Option.some.inj stepped
    rw [if_pos isRpl] at counted
    have len : removal.rplExtHdrLen.toNat = removal.size := by
      have byte : removal.unlink (removal.ext + 1) = removal.packet.buf (removal.ext + 1) :=
        Memory.write_cell_other _ _ (by omega)
      unfold HeaderRemoval.rplExtHdrLen
      unfold HeaderRemoval.size extHdrLen at counted ⊢
      have eight : (8 : UInt8).toNat = 8 := rfl
      rw [byte, UInt8.toNat_add, UInt8.toNat_mul, eight]
      omega
    have uipLen : removal.remove.packet.uipLen.toNat =
        removal.packet.uipLen.toNat - removal.size := by
      change (removal.packet.uipLen - removal.rplExtHdrLen.toUInt16).toNat = _
      rw [UInt16.toNat_sub, UInt8.toNat_toUInt16, len]
      omega
    have cells : ∀ address, address ≤ lenField + 1 → removal.remove.packet.buf address =
        HeaderRemoval.subIpLen removal.unlink removal.rplExtHdrLen address :=
      fun address low => moveBytes_before (by omega)
    have kept : lenOf removal.unlink = lenOf removal.packet.buf := by
      refine lenOf_write _ ?_
      rcases linked.link with same | after <;> omega
    refine ⟨⟨linked.link, before, ?_⟩, ?_⟩
    · unfold LenMatches at *
      change lenOf removal.packet.buf + _ = _ at ipv6
      change lenOf removal.remove.packet.buf + _ = _
      rw [lenOf_congr (cells _ (by omega)) (cells _ (by omega)), lenOf_subIpLen, kept, len, uipLen]
      omega
    · rw [uipLen]
      change removal.packet.uipExtLen.toNat + _ = _
      omega
  next other =>
    split at stepped
    · obtain rfl := Option.some.inj stepped
      rw [if_neg other] at counted
      have extLen : removal.skip.packet.uipExtLen.toNat =
          removal.packet.uipExtLen.toNat + removal.size := by
        change (removal.packet.uipExtLen + UInt8.ofNat removal.size).toNat = _
        rw [UInt8.toNat_add, UInt8.toNat_ofNat']
        omega
      have ext : removal.skip.ext = removal.ext + removal.size := by
        change uipIphLen + removal.skip.packet.uipExtLen.toNat = _
        rw [extLen]
        exact (Nat.add_assoc _ _ _).symm
      refine ⟨⟨Or.inr beyond, ?_, ipv6⟩, ?_⟩
      · rw [ext]
        change removal.ext < _
        omega
      · rw [extLen]
        change _ = _ + removal.packet.uipLen.toNat + _
        omega
    · cases stepped

theorem removal_run {rounds : Nat} : ∀ {removal last : HeaderRemoval}, Linked removal →
    (∀ visited, Loop.Visits HeaderRemoval.step removal visited → visited.step ≠ none →
      Inside visited) →
    Loop.final HeaderRemoval.step rounds removal = some last →
    LenMatches last.packet ∧ last.packet.uipExtLen.toNat + removal.packet.uipLen.toNat =
      removal.packet.uipExtLen.toNat + last.packet.uipLen.toNat + headersLen rounds removal := by
  induction rounds with
  | zero => exact fun _ _ ended => nomatch ended
  | succ rounds ih =>
    intro removal last linked inside ended
    cases stepped : removal.step with
    | none =>
      rw [Loop.final_of_left stepped] at ended
      obtain rfl := Option.some.inj ended
      refine ⟨linked.len, ?_⟩
      rw [headersLen, stepped]
      dsimp only
      omega
    | some next =>
      rw [Loop.final_of_step stepped] at ended
      have here := inside removal Loop.Visits.start (by simp [stepped])
      obtain ⟨after, moved⟩ := linked.step here stepped
      obtain ⟨len, rest⟩ := ih after
        (fun visited visits => inside visited (visits.from_next stepped)) ended
      refine ⟨len, ?_⟩
      rw [headersLen, stepped]
      dsimp only
      omega

theorem remove_kept {packet after : UipPacket} {rounds : Nat} (ipv6 : LenMatches packet)
    (inside : HeadersInside packet) (ran : rplExtHeaderRemove rounds packet = some after) :
    LenMatches after ∧ (ExtLenKept packet after ↔
      headersLen rounds (HeaderRemoval.start packet) = packet.uipExtLen.toNat) := by
  unfold rplExtHeaderRemove at ran
  obtain ⟨last, ended, rfl⟩ := Option.map_eq_some_iff.mp ran
  obtain ⟨len, moved⟩ := removal_run (linked_start ipv6) inside ended
  refine ⟨len, ?_⟩
  have none : (HeaderRemoval.start packet).packet.uipExtLen.toNat = 0 := rfl
  have same : (HeaderRemoval.start packet).packet.uipLen = packet.uipLen := rfl
  rw [none, same] at moved
  unfold ExtLenKept
  omega

theorem ExtLenKept.trans {packet middle after : UipPacket} (first : ExtLenKept packet middle)
    (second : ExtLenKept middle after) : ExtLenKept packet after := by
  unfold ExtLenKept at *
  omega

def HbhCounted (router : RplRouter) (packet : UipPacket) : Prop :=
  packet.uipLen.toNat + rplHopByHopLen ≤ router.room.toNat →
    packet.uipExtLen.toNat + rplHopByHopLen < 256

def SrhCounted (router : RplRouter) (packet : UipPacket) : Prop :=
  ∀ destNode rootNode hops below, SrhRoute router packet destNode rootNode hops below →
    SrhRegular router packet destNode rootNode hops ∧
      packet.uipExtLen.toNat + (srhSizes router packet.destipaddr hops).extLen.toNat < 256

section

variable (conf : RplConf) (router : RplRouter) (sender : LinkAddr) {packet : UipPacket}

/-- When an operation is transparent. A source route is put right behind the IPv6 header only if
no headers are counted, and the removal takes out every header of RPL that it comes to, not only
the one that was inserted. -/
def Regular (packet : UipPacket) : ExtHeaderOp → Prop
  | .srhGetNextHop =>
    router.rplIsAddrInOurDag packet.destipaddr = true ∨ SearchedCounted packet
  | .srhUpdate => True
  | .hbhUpdate _ => True
  | .updateHbh => packet.uipExtLen = 0 ∨ ¬ WrongHbhSize packet
  | .insertHbh => HbhCounted router packet ∧
      (packet.uipLen.toNat + rplHopByHopLen ≤ router.room.toNat →
        router.node.currInstance.used = true → PlainHeaders packet)
  | .insertSrh => SrhCounted router packet ∧
      ∀ destNode rootNode hops below, SrhRoute router packet destNode rootNode hops below →
        packet.uipExtLen = 0 ∧ PlainHeaders packet
  | .remove => HeadersInside packet ∧ HeadersCounted packet
  | .update =>
    if !router.node.currInstance.used || isAddrLinklocal packet.destipaddr ||
      isAddrMcast packet.destipaddr then True
    else if router.node.isRoot then
      (HeadersInside packet ∧ HeadersCounted packet) ∧
        ∀ rounds removed, rplExtHeaderRemove rounds packet = some removed →
          SrhCounted router removed
    else if router.isMyAddr packet.srcipaddr && packet.buf ttlField = router.curHopLimit then
      HbhCounted router packet
    else packet.uipExtLen = 0 ∨ ¬ WrongHbhSize packet

def ExtHeaderOp.inPlace : ExtHeaderOp → Bool
  | .srhGetNextHop | .srhUpdate | .hbhUpdate _ | .updateHbh => true
  | _ => false

variable {op : ExtHeaderOp}

theorem ExtHeaderOp.run_inPlace (inPlace : op.inPlace = true) {rounds : Nat}
    {succeeded : Bool} {after : UipPacket}
    (ran : op.run conf router sender rounds packet = some (succeeded, after)) :
    InPlace packet after ∧ (after.uipExtLen = packet.uipExtLen ↔ Regular router packet op) := by
  cases op with
  | srhGetNextHop =>
    obtain ⟨⟨hop, left⟩, found, result⟩ := Option.map_eq_some_iff.mp ran
    obtain rfl := congrArg Prod.snd result
    exact srhGetNextHop_inPlace found
  | srhUpdate =>
    obtain ⟨kept, same⟩ := srhUpdate_inPlace ran
    exact ⟨kept, iff_of_true same trivial⟩
  | hbhUpdate offset =>
    obtain ⟨kept, same⟩ := hbhUpdate_inPlace conf router sender offset.toNat packet
    obtain rfl := congrArg Prod.snd (Option.some.inj ran)
    exact ⟨kept, iff_of_true same trivial⟩
  | updateHbh =>
    have kept := updateHbh_inPlace router packet
    obtain rfl := congrArg Prod.snd (Option.some.inj ran)
    exact kept
  | insertHbh => cases inPlace
  | insertSrh => cases inPlace
  | remove => cases inPlace
  | update => cases inPlace

theorem ExtHeaderOp.run_kept (ipv6 : LenMatches packet)
    (regular : Regular router packet op) {rounds : Nat} {succeeded : Bool} {after : UipPacket}
    (ran : op.run conf router sender rounds packet = some (succeeded, after)) :
    LenMatches after ∧ ExtLenKept packet after := by
  have unchanged : LenMatches packet ∧ ExtLenKept packet packet :=
    ⟨ipv6, (InPlace.refl packet).extLenKept_iff.mpr rfl⟩
  have placed : ∀ op : ExtHeaderOp, op.inPlace = true → Regular router packet op →
      op.run conf router sender rounds packet = some (succeeded, after) →
      LenMatches after ∧ ExtLenKept packet after := by
    intro op inPlace regular ran
    obtain ⟨kept, same⟩ := ExtHeaderOp.run_inPlace conf router sender inPlace ran
    exact ⟨kept.lenMatches ipv6, kept.extLenKept_iff.mpr (same.mpr regular)⟩
  have hbh : HbhCounted router packet → some (insertHbhHeader router packet) =
      some (succeeded, after) → LenMatches after ∧ ExtLenKept packet after := by
    intro counted ran
    obtain rfl := congrArg Prod.snd (Option.some.inj ran)
    rcases insertHbh_cases router packet with ⟨_, same⟩ | ⟨room, _, grown⟩
    · rw [same]
      exact unchanged
    · exact ⟨grown.lenMatches ipv6, grown.extLenKept_iff.mpr (counted room)⟩
  have srh : ∀ {packet : UipPacket}, LenMatches packet → SrhCounted router packet →
      insertSrhHeader router packet = some (succeeded, after) →
      LenMatches after ∧ ExtLenKept packet after := by
    intro packet ipv6 counted ran
    rcases insertSrh_cases ran with ⟨rfl, _⟩ | ⟨_, destNode, rootNode, hops, below, route, rfl⟩
    · exact ⟨ipv6, (InPlace.refl _).extLenKept_iff.mpr rfl⟩
    · obtain ⟨srhRegular, byte⟩ := counted destNode rootNode hops below route
      have grown := routed_grown route srhRegular
      exact ⟨grown.lenMatches ipv6, grown.extLenKept_iff.mpr byte⟩
  have remove : ∀ {removed : UipPacket}, HeadersInside packet ∧ HeadersCounted packet →
      rplExtHeaderRemove rounds packet = some removed →
      LenMatches removed ∧ ExtLenKept packet removed := by
    intro removed regular ran
    obtain ⟨len, kept⟩ := remove_kept ipv6 regular.1 ran
    exact ⟨len, kept.mpr (regular.2 rounds (by rw [ran]; rfl))⟩
  cases op with
  | srhGetNextHop => exact placed .srhGetNextHop rfl regular ran
  | srhUpdate => exact placed .srhUpdate rfl regular ran
  | hbhUpdate offset => exact placed (.hbhUpdate offset) rfl regular ran
  | updateHbh => exact placed .updateHbh rfl regular ran
  | insertHbh => exact hbh regular.1 ran
  | insertSrh => exact srh ipv6 regular.1 ran
  | remove =>
    obtain ⟨left, removed, result⟩ := Option.map_eq_some_iff.mp ran
    obtain rfl := congrArg Prod.snd result
    exact remove regular removed
  | update =>
    simp only [ExtHeaderOp.run, rplExtHeaderUpdate] at ran
    simp only [Regular] at regular
    split at ran
    · obtain rfl := congrArg Prod.snd (Option.some.inj ran)
      exact unchanged
    next active =>
      rw [if_neg active] at regular
      split at ran
      next isRoot =>
        rw [if_pos isRoot] at regular
        obtain ⟨removed, first, second⟩ := Option.bind_eq_some_iff.mp ran
        obtain ⟨len, kept⟩ := remove regular.1 first
        obtain ⟨finalLen, more⟩ := srh len (regular.2 rounds removed first) second
        exact ⟨finalLen, kept.trans more⟩
      next notRoot =>
        rw [if_neg notRoot] at regular
        split at ran
        next source =>
          rw [if_pos source] at regular
          exact hbh regular ran
        next forwarded =>
          rw [if_neg forwarded] at regular
          exact placed .updateHbh rfl regular ran

theorem ExtHeaderOp.run_takenOut (ipv6 : LenMatches packet)
    (regular : Regular router packet op) (inserts : op = .insertHbh ∨ op = .insertSrh)
    {rounds : Nat} {inserted : UipPacket}
    (ran : op.run conf router sender rounds packet = some (true, inserted))
    (changed : inserted ≠ packet) : TakenOut packet inserted := by
  have header : uipIphLen ≤ packet.uipLen.toNat := Nat.le.intro ((Nat.add_comm _ _).trans ipv6)
  rcases inserts with rfl | rfl
  · have hbh := Option.some.inj ran
    rcases insertHbh_cases router packet with ⟨_, same⟩ | ⟨room, used, _⟩
    · exact absurd (congrArg Prod.snd (hbh.symm.trans same)) changed
    · exact (insertHbh_inserted header hbh).restored header
        (regular.2 room (used.symm.trans (congrArg Prod.fst hbh)))
  · rcases insertSrh_cases ran with ⟨same, _⟩ | ⟨_, destNode, rootNode, hops, below, route, rfl⟩
    · exact absurd same changed
    · obtain ⟨srhRegular, _⟩ := regular.1 destNode rootNode hops below route
      obtain ⟨uncounted, plain⟩ := regular.2 destNode rootNode hops below route
      have fits := route.fits srhRegular.small srhRegular.top
      exact (routed_inserted route fits uncounted header).restored header plain

def Needs (packet : UipPacket) (op : ExtHeaderOp) : Prop :=
  match op with
  | .insertHbh => HbhCounted router packet
  | .insertSrh => True
  | .remove => HeadersInside packet → HeadersCounted packet
  | .update => True
  | op => (∃ rounds, op.run conf router sender rounds packet ≠ none) → Regular router packet op

theorem Transparent.needs (ipv6 : LenMatches packet)
    (transparent : Transparent conf router sender packet op) :
    Needs conf router sender packet op := by
  have placed : ∀ op : ExtHeaderOp, op.inPlace = true →
      Transparent conf router sender packet op →
      (∃ rounds, op.run conf router sender rounds packet ≠ none) → Regular router packet op := by
    rintro op inPlace transparent ⟨rounds, returns⟩
    obtain ⟨⟨succeeded, after⟩, ran⟩ := Option.ne_none_iff_exists'.mp returns
    obtain ⟨kept, same⟩ := ExtHeaderOp.run_inPlace conf router sender inPlace ran
    exact same.mp (kept.extLenKept_iff.mp (transparent.extLen rounds succeeded after ran))
  cases op with
  | srhGetNextHop => exact placed .srhGetNextHop rfl transparent
  | srhUpdate => exact placed .srhUpdate rfl transparent
  | hbhUpdate offset => exact placed (.hbhUpdate offset) rfl transparent
  | updateHbh => exact placed .updateHbh rfl transparent
  | insertHbh =>
    intro room
    rcases insertHbh_cases router packet with ⟨tooLong, _⟩ | ⟨_, _, grown⟩
    · exact absurd room tooLong
    · exact grown.extLenKept_iff.mp (transparent.extLen 0 _ _ rfl)
  | insertSrh => trivial
  | remove =>
    intro inside rounds returns
    obtain ⟨after, ran⟩ := Option.isSome_iff_exists.mp returns
    refine (remove_kept ipv6 inside ran).2.mp (transparent.extLen rounds true after ?_)
    simp only [ExtHeaderOp.run, ran, Option.map_some]
  | update => trivial

theorem ext_header_transparent (ipv6 : LenMatches packet) (op : ExtHeaderOp) :
    (Regular router packet op → Transparent conf router sender packet op) ∧
      (Transparent conf router sender packet op → Needs conf router sender packet op) := by
  refine ⟨fun regular => ⟨?_, ?_, ?_⟩, fun transparent => transparent.needs conf router sender ipv6⟩
  · exact fun _ _ ran => (ExtHeaderOp.run_kept conf router sender ipv6 regular ran).1
  · exact fun _ _ _ ran => (ExtHeaderOp.run_kept conf router sender ipv6 regular ran).2
  · exact fun inserts _ _ ran =>
      ExtHeaderOp.run_takenOut conf router sender ipv6 regular inserts ran

end

section

variable {packet : UipPacket}

theorem plainHeaders_of_none (none : (HeaderRemoval.start packet).step = none) :
    PlainHeaders packet := by
  intro removal visits going
  rcases Loop.visits_cases visits with rfl | ⟨next, stepped, _⟩
  · exact absurd none going
  · rw [none] at stepped
    cases stepped

theorem headers_of_one {next : HeaderRemoval} (inside : Inside (HeaderRemoval.start packet))
    (stepped : (HeaderRemoval.start packet).step = some next) (ended : next.step = none)
    (counted : (HeaderRemoval.start packet).size = packet.uipExtLen.toNat) :
    HeadersInside packet ∧ HeadersCounted packet := by
  constructor
  · refine (Loop.forall_visits_iff _).mpr ⟨fun _ => inside, fun other same => ?_⟩
    obtain rfl := Option.some.inj (stepped.symm.trans same)
    refine (Loop.forall_visits_iff _).mpr ⟨absurd ended, fun later found => ?_⟩
    rw [ended] at found
    cases found
  · intro rounds returns
    match rounds with
    | 0 => cases returns
    | 1 =>
      rw [rplExtHeaderRemove, Loop.final_of_step stepped] at returns
      cases returns
    | rounds + 2 => simp only [headersLen, stepped, ended, counted, Nat.add_zero]

end

def dagRouter : RplRouter :=
  { bootRouter 1280 with node := { RplNode.boot 4 with
    currInstance := { (RplNode.boot 4).currInstance with used := true } } }

def udpPacket : UipPacket :=
  ⟨Memory.write (fun _ => 0) 0 ([0x60, 0, 0, 0, 0, 8, uipProtoUdp, 64] ++ List.replicate 32 0x20 ++
    [1, 2, 3, 4, 0, 8, 0, 0]), 48, 0⟩

/-- A header is inserted into a UDP packet and taken out again. -/
theorem ext_header_transparent_udp :
    let result := insertHbhHeader dagRouter udpPacket
    result.1 = true ∧ result.2.uipLen = 56 ∧
      Transparent rplConf dagRouter 0 udpPacket .insertHbh ∧
      Transparent rplConf dagRouter 0 result.2 .remove := by
  intro result
  have stepped : (HeaderRemoval.start result.2).step = some (HeaderRemoval.start result.2).remove :=
    if_pos (by decide +kernel)
  refine ⟨by decide +kernel, by decide +kernel, ?_, ?_⟩
  · refine (ext_header_transparent rplConf dagRouter 0 (by decide) .insertHbh).1
      ⟨fun _ => by decide, fun _ _ => plainHeaders_of_none ?_⟩
    exact Option.isNone_iff_eq_none.mp (by decide +kernel)
  · refine (ext_header_transparent rplConf dagRouter 0 (by decide +kernel) .remove).1
      (headers_of_one ⟨by decide +kernel, by decide +kernel⟩ stepped ?_ (by decide +kernel))
    exact Option.isNone_iff_eq_none.mp (by decide +kernel)

/-- A packet of 56 bytes with a hop-by-hop header, which `uip_process` has passed, and a header with
destination options, which it has not. -/
def destoPacket : UipPacket :=
  ⟨Memory.write (fun _ => 0) 0 ([0x60, 0, 0, 0, 0, 16, uipProtoHbho, 64] ++
    List.replicate 32 0x20 ++ [uipProtoDesto, 0, uipExtHdrOptPadn, 4, 0, 0, 0, 0] ++
    [uipProtoNone, 0, uipExtHdrOptPadn, 4, 0, 0, 0, 0]), 56, 8⟩

theorem next_hop_counts_headers :
    ¬ ∀ conf router sender packet op, LenMatches packet →
      Transparent conf router sender packet op := by
  intro always
  have transparent :=
    always rplConf (bootRouter 1280) 0 destoPacket .srhGetNextHop (by decide)
  have searched : findRoutingHeader destoPacket.buf = some ⟨some 8, 16⟩ := by decide +kernel
  have ran : ExtHeaderOp.srhGetNextHop.run rplConf (bootRouter 1280) 0 0 destoPacket =
      some (false, { destoPacket with uipExtLen := 16 }) := by
    simp only [ExtHeaderOp.run, rplExtHeaderSrhGetNextHop, searched]
    rfl
  have kept := transparent.extLen 0 false _ ran
  exact absurd kept (by decide)

end MultiPhyTsch.Rpl
