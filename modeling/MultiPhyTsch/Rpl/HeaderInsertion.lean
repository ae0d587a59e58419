import MultiPhyTsch.Rpl.SrhPath

/-! What the insertion of an extension header changes in the packet, and that its removal takes it
back. -/

namespace MultiPhyTsch.Rpl

open MultiPhyTsch.Ipv6

def lenOf (buf : Memory UInt8) : Nat :=
  (buf lenField).toNat * 256 + (buf (lenField + 1)).toNat

def LenMatches (packet : UipPacket) : Prop := packet.ipLen + uipIphLen = packet.uipLen.toNat

instance (packet : UipPacket) : Decidable (LenMatches packet) :=
  inferInstanceAs (Decidable (_ = _))

theorem lenOf_congr {buf other : Memory UInt8} (high : buf lenField = other lenField)
    (low : buf (lenField + 1) = other (lenField + 1)) : lenOf buf = lenOf other := by
  unfold lenOf
  rw [high, low]

variable {buf : Memory UInt8} {address : Nat}

theorem addIpLen_other {len : UInt8} (high : address ≠ lenField) (low : address ≠ lenField + 1) :
    addIpLen buf len address = buf address := by
  unfold addIpLen
  split
  · rw [Memory.write_cell_other _ _ high, Memory.write_cell_other _ _ low]
  · exact Memory.write_cell_other _ _ low

theorem subIpLen_other {len : UInt8} (high : address ≠ lenField) (low : address ≠ lenField + 1) :
    HeaderRemoval.subIpLen buf len address = buf address := by
  unfold HeaderRemoval.subIpLen
  split
  · rw [Memory.write_cell_other _ _ high, Memory.write_cell_other _ _ low]
  · exact Memory.write_cell_other _ _ low

theorem lenOf_addIpLen (buf : Memory UInt8) (len : UInt8) :
    lenOf (addIpLen buf len) = (lenOf buf + len.toNat) % 65536 := by
  have high := UInt8.toNat_lt (buf lenField)
  have low := UInt8.toNat_lt (buf (lenField + 1))
  have small := UInt8.toNat_lt len
  have sum := UInt8.toNat_add (buf (lenField + 1)) len
  have apart : lenField ≠ lenField + 1 := by decide
  unfold addIpLen
  dsimp only
  simp only [Memory.write_cell, Memory.write_cell_other _ _ apart]
  unfold lenOf
  split
  next carry =>
    rw [UInt8.lt_iff_toNat_lt] at carry
    have more := UInt8.toNat_add (buf lenField) 1
    rw [Memory.write_cell, Memory.write_cell_other _ _ apart.symm, Memory.write_cell, more]
    have one : (1 : UInt8).toNat = 1 := rfl
    omega
  next noCarry =>
    rw [UInt8.lt_iff_toNat_lt] at noCarry
    rw [Memory.write_cell, Memory.write_cell_other _ _ apart]
    omega

theorem lenOf_subIpLen (buf : Memory UInt8) (len : UInt8) :
    lenOf (HeaderRemoval.subIpLen buf len) = (lenOf buf + (65536 - len.toNat)) % 65536 := by
  have high := UInt8.toNat_lt (buf lenField)
  have low := UInt8.toNat_lt (buf (lenField + 1))
  have small := UInt8.toNat_lt len
  have difference := UInt8.toNat_sub (buf (lenField + 1)) len
  have apart : lenField ≠ lenField + 1 := by decide
  unfold HeaderRemoval.subIpLen
  dsimp only
  simp only [Memory.write_cell, Memory.write_cell_other _ _ apart]
  unfold lenOf
  split
  next borrow =>
    rw [gt_iff_lt, UInt8.lt_iff_toNat_lt] at borrow
    have less := UInt8.toNat_sub (buf lenField) 1
    rw [Memory.write_cell, Memory.write_cell_other _ _ apart.symm, Memory.write_cell, less]
    have one : (1 : UInt8).toNat = 1 := rfl
    omega
  next noBorrow =>
    rw [gt_iff_lt, UInt8.lt_iff_toNat_lt] at noBorrow
    rw [Memory.write_cell, Memory.write_cell_other _ _ apart]
    omega

structure Inserted (packet inserted : UipPacket) (size : Nat) : Prop where
  within : size < 256
  uipLen : inserted.uipLen.toNat = packet.uipLen.toNat + size
  isRpl : (HeaderRemoval.start inserted).isRpl = true
  next : inserted.buf uipIphLen = packet.proto
  len : inserted.buf (uipIphLen + 1) * 8 + 8 = UInt8.ofNat size
  moved : ∀ address, uipIphLen ≤ address → address < packet.uipLen.toNat →
    inserted.buf (address + size) = packet.buf address

structure Agrees (removal other : HeaderRemoval) : Prop where
  nextHdr : removal.nextHdr = other.nextHdr
  uipExtLen : removal.packet.uipExtLen = other.packet.uipExtLen
  uipLen : removal.packet.uipLen = other.packet.uipLen
  buf : ∀ address, address = protoField ∨ uipIphLen ≤ address →
    address < other.packet.uipLen.toNat → removal.packet.buf address = other.packet.buf address

theorem moveCount_eq {uipLen : UInt16} (header : uipIphLen ≤ uipLen.toNat) :
    moveCount uipLen = uipLen.toNat - uipIphLen := by
  have bound := UInt16.toNat_lt uipLen
  unfold moveCount
  omega

theorem moveBytes_inside {dest source count address : Nat}
    (after : dest ≤ address) (before : address < dest + count) :
    moveBytes buf dest source count address = buf (source + (address - dest)) := by
  unfold moveBytes
  apply Memory.write_inside _ after
  rw [Memory.read_getElem? _ (by omega)]

theorem moveBytes_before {dest source count address : Nat}
    (before : address < dest) : moveBytes buf dest source count address = buf address :=
  Memory.write_before buf _ before

theorem Inserted.agrees {packet inserted : UipPacket} {size : Nat}
    (insertion : Inserted packet inserted size) (header : uipIphLen ≤ packet.uipLen.toNat) :
    Agrees (HeaderRemoval.start inserted).remove (HeaderRemoval.start packet) := by
  have bound := insertion.within
  have unlinked : ∀ address, address ≠ protoField →
      (HeaderRemoval.start inserted).unlink address = inserted.buf address :=
    fun address other => Memory.write_cell_other _ _ other
  have ext : (HeaderRemoval.start inserted).ext = uipIphLen := rfl
  have len : (HeaderRemoval.start inserted).rplExtHdrLen = UInt8.ofNat size := by
    unfold HeaderRemoval.rplExtHdrLen
    rw [ext, unlinked (uipIphLen + 1) (by decide)]
    exact insertion.len
  have len_toNat : (UInt8.ofNat size).toNat = size := by
    rw [UInt8.toNat_ofNat']
    omega
  have uipLen : (HeaderRemoval.start inserted).remove.packet.uipLen = packet.uipLen := by
    apply UInt16.toNat_inj.mp
    have sum := insertion.uipLen
    have bound16 := UInt16.toNat_lt inserted.uipLen
    change (inserted.uipLen - (HeaderRemoval.start inserted).rplExtHdrLen.toUInt16).toNat = _
    rw [len, UInt16.toNat_sub, UInt8.toNat_toUInt16, len_toNat]
    omega
  refine ⟨rfl, rfl, uipLen, ?_⟩
  intro address place inside
  have count : moveCount (HeaderRemoval.start inserted).remove.packet.uipLen =
      packet.uipLen.toNat - uipIphLen := by
    rw [uipLen, moveCount_eq header]
  change address < packet.uipLen.toNat at inside
  change moveBytes (HeaderRemoval.subIpLen (HeaderRemoval.start inserted).unlink
    (HeaderRemoval.start inserted).rplExtHdrLen) uipIphLen
    (uipIphLen + (HeaderRemoval.start inserted).rplExtHdrLen.toNat)
    (moveCount (HeaderRemoval.start inserted).remove.packet.uipLen) address = packet.buf address
  rw [count, len, len_toNat]
  rcases place with rfl | after
  · rw [moveBytes_before (by decide), subIpLen_other (by decide) (by decide)]
    refine Eq.trans ?_ insertion.next
    exact Memory.write_cell _ _ _
  · have beyond : protoField < uipIphLen := by decide
    have high : lenField + 1 < uipIphLen := by decide
    rw [moveBytes_inside after (by omega), subIpLen_other (by omega) (by omega),
      unlinked _ (by omega), show uipIphLen + size + (address - uipIphLen) = address + size by omega]
    exact insertion.moved address after inside

def HeaderRemoval.size (removal : HeaderRemoval) : Nat :=
  extHdrLen (removal.packet.buf (removal.ext + 1))

structure Plain (removal : HeaderRemoval) : Prop where
  isOther : removal.isRpl = false
  counted : removal.packet.uipExtLen.toNat + removal.size < 256
  inside : removal.ext + removal.size ≤ removal.packet.uipLen.toNat

def PlainHeaders (packet : UipPacket) : Prop :=
  ∀ removal, Loop.Visits HeaderRemoval.step (HeaderRemoval.start packet) removal →
    removal.step ≠ none → Plain removal

theorem size_ge (removal : HeaderRemoval) : 8 ≤ removal.size := by
  unfold HeaderRemoval.size extHdrLen
  omega

variable {removal : HeaderRemoval}

theorem Plain.fits (plain : Plain removal) :
    removal.skip.packet.uipExtLen.toNat = removal.packet.uipExtLen.toNat + removal.size := by
  have counted := plain.counted
  change (removal.packet.uipExtLen + UInt8.ofNat removal.size).toNat = _
  rw [UInt8.toNat_add, UInt8.toNat_ofNat']
  omega

theorem step_of_plain {removal next : HeaderRemoval} (plain : Plain removal)
    (stepped : removal.step = some next) : next = removal.skip := by
  unfold HeaderRemoval.step at stepped
  rw [plain.isOther] at stepped
  simp only [Bool.false_eq_true, ↓reduceIte] at stepped
  split at stepped
  · exact (Option.some.inj stepped).symm
  · cases stepped

def LinkInside (removal : HeaderRemoval) : Prop :=
  (removal.nextHdr = protoField ∨ uipIphLen ≤ removal.nextHdr) ∧
    removal.nextHdr < removal.packet.uipLen.toNat

theorem Agrees.step {removal other : HeaderRemoval} (agrees : Agrees removal other)
    (link : LinkInside other) (plain : other.step ≠ none → Plain other) :
    removal.step = none ∧ other.step = none ∨
      removal.step = some removal.skip ∧ other.step = some other.skip := by
  have type : removal.packet.buf removal.nextHdr = other.packet.buf other.nextHdr := by
    rw [agrees.nextHdr]
    exact agrees.buf other.nextHdr link.1 link.2
  have ext : removal.ext = other.ext := by
    unfold HeaderRemoval.ext UipPacket.extBuf
    rw [agrees.uipExtLen]
  cases stepped : other.step with
  | none =>
    left
    refine ⟨?_, rfl⟩
    unfold HeaderRemoval.step at stepped
    split at stepped
    · cases stepped
    · split at stepped
      · cases stepped
      next isOther passes =>
        rw [← type] at passes
        unfold HeaderRemoval.step
        have notRpl : removal.isRpl = false := by
          unfold HeaderRemoval.isRpl at isOther ⊢
          rw [type] at *
          rw [not_or] at passes
          simp only [Bool.or_eq_true, Bool.and_eq_true, decide_eq_true_eq, not_or] at isOther
          simp [isOther.1, passes.1]
        simp [notRpl, passes]
  | some next =>
    right
    have isPlain := plain (by simp [stepped])
    obtain rfl := step_of_plain isPlain stepped
    refine ⟨?_, rfl⟩
    have size := size_ge other
    have inside := isPlain.inside
    have option : removal.packet.buf (removal.ext + 2) = other.packet.buf (other.ext + 2) := by
      rw [ext]
      refine agrees.buf _ (Or.inr ?_) (by omega)
      unfold HeaderRemoval.ext UipPacket.extBuf
      omega
    have sameRpl : removal.isRpl = other.isRpl := by
      unfold HeaderRemoval.isRpl
      rw [type, option]
    unfold HeaderRemoval.step at stepped ⊢
    rw [sameRpl, type]
    rw [isPlain.isOther] at stepped ⊢
    simp only [Bool.false_eq_true, ↓reduceIte] at stepped ⊢
    split at stepped
    next passes => rw [if_pos passes]
    next => cases stepped

theorem Agrees.skip {removal other : HeaderRemoval} (agrees : Agrees removal other)
    (plain : Plain other) : Agrees removal.skip other.skip := by
  have ext : removal.ext = other.ext := by
    unfold HeaderRemoval.ext UipPacket.extBuf
    rw [agrees.uipExtLen]
  have size := size_ge other
  have inside := plain.inside
  have len : removal.packet.buf (removal.ext + 1) = other.packet.buf (other.ext + 1) := by
    rw [ext]
    refine agrees.buf _ (Or.inr ?_) (by omega)
    unfold HeaderRemoval.ext UipPacket.extBuf
    omega
  refine ⟨ext, ?_, agrees.uipLen, agrees.buf⟩
  change removal.packet.uipExtLen + _ = other.packet.uipExtLen + _
  rw [agrees.uipExtLen, len]

theorem LinkInside.skip (plain : Plain removal) : LinkInside removal.skip := by
  have size := size_ge removal
  have inside := plain.inside
  refine ⟨Or.inr ?_, ?_⟩
  · change uipIphLen ≤ removal.packet.extBuf
    unfold UipPacket.extBuf
    omega
  · change removal.ext < removal.packet.uipLen.toNat
    omega

theorem plain_run {room : Nat} : ∀ {removal other : HeaderRemoval}, Agrees removal other →
    LinkInside other →
    (∀ visited, Loop.Visits HeaderRemoval.step other visited → visited.step ≠ none →
      Plain visited) →
    256 ≤ other.packet.uipExtLen.toNat + room →
    ∃ last, Loop.final HeaderRemoval.step room removal = some last ∧
      last.packet.uipLen = other.packet.uipLen ∧
      ∀ address, address = protoField ∨ uipIphLen ≤ address →
        address < other.packet.uipLen.toNat → last.packet.buf address = other.packet.buf address := by
  induction room with
  | zero =>
    intro _ other _ _ _ near
    have bound := UInt8.toNat_lt other.packet.uipExtLen
    omega
  | succ room ih =>
    intro removal other agrees link plain near
    rcases agrees.step link (plain other Loop.Visits.start) with ⟨left, _⟩ | ⟨stepped, also⟩
    · exact ⟨removal, Loop.final_of_left left room, agrees.uipLen, agrees.buf⟩
    · have isPlain := plain other Loop.Visits.start (by simp [also])
      rw [Loop.final_of_step stepped]
      have size := size_ge other
      have fits := isPlain.fits
      have rest := ih (agrees.skip isPlain) (LinkInside.skip isPlain)
        (fun visited visits => plain visited (visits.from_next also)) (by omega)
      exact rest

structure Restored (packet restored : UipPacket) : Prop where
  uipLen : restored.uipLen = packet.uipLen
  proto : restored.proto = packet.proto
  bytes : ∀ address, uipIphLen ≤ address → address < packet.uipLen.toNat →
    restored.buf address = packet.buf address

theorem Inserted.restored {packet inserted : UipPacket} {size : Nat}
    (insertion : Inserted packet inserted size) (header : uipIphLen ≤ packet.uipLen.toNat)
    (plain : PlainHeaders packet) :
    ∃ rounds restored, rplExtHeaderRemove rounds inserted = some restored ∧
      Restored packet restored := by
  have proto : protoField < packet.uipLen.toNat := Nat.lt_of_lt_of_le (by decide) header
  have link : LinkInside (HeaderRemoval.start packet) := ⟨Or.inl rfl, proto⟩
  have first : (HeaderRemoval.start inserted).step =
      some (HeaderRemoval.start inserted).remove := by
    unfold HeaderRemoval.step
    rw [if_pos insertion.isRpl]
  obtain ⟨last, ended, uipLen, reads⟩ :=
    plain_run (insertion.agrees header) link plain (Nat.le_add_left 256 _)
  refine ⟨257, last.packet, ?_, uipLen, reads protoField (Or.inl rfl) proto, ?_⟩
  · unfold rplExtHeaderRemove
    rw [Loop.final_of_step first, ended]
    rfl
  · exact fun address after inside => reads address (Or.inr after) inside

/-- The bytes from `start` on are moved, and the bytes they leave are cleared. -/
def makeRoom (buf : Memory UInt8) (start size count : Nat) : Memory UInt8 :=
  (moveBytes buf (start + size) start count).write start (List.replicate size 0)

theorem makeRoom_before {start size count address : Nat}
    (before : address < start) : makeRoom buf start size count address = buf address := by
  unfold makeRoom
  rw [Memory.write_before _ _ before, moveBytes_before (by omega)]

theorem makeRoom_moved {start size count address : Nat}
    (after : start ≤ address) (inside : address < start + count) :
    makeRoom buf start size count (address + size) = buf address := by
  unfold makeRoom
  rw [Memory.write_after _ (by rw [List.length_replicate]; omega),
    moveBytes_inside (by omega) (by omega)]
  congr 1
  omega

theorem writeRankAndInstance_other (inst : RplInstance) {opt address : Nat}
    (outside : address < opt + 3 ∨ opt + 6 ≤ address) :
    writeRankAndInstance inst opt buf address = buf address := by
  unfold writeRankAndInstance
  rcases outside with before | after
  · exact Memory.write_before _ _ before
  · exact Memory.write_after _ after

theorem isRpl_of_hbho (type : removal.packet.buf removal.nextHdr = uipProtoHbho)
    (option : removal.packet.buf (removal.ext + 2) = uipExtHdrOptRpl) : removal.isRpl = true := by
  simp [HeaderRemoval.isRpl, type, option]

theorem isRpl_of_routing
    (type : removal.packet.buf removal.nextHdr = uipProtoRouting) : removal.isRpl = true := by
  simp [HeaderRemoval.isRpl, type]

theorem placeHbh_header (router : RplRouter) (packet : UipPacket) :
    let placed := placeHbh router packet
    placed.proto = uipProtoHbho ∧ placed.buf uipIphLen = packet.proto ∧
      placed.buf (uipIphLen + 1) = 0 ∧ placed.buf (uipIphLen + 2) = uipExtHdrOptRpl ∧
      placed.buf (uipIphLen + 3) = rplHdrOptLen ∧
      placed.buf (uipIphLen + 5) = router.node.currInstance.instanceId := by
  intro placed
  have first : ∀ address, address ≠ lenField → address ≠ lenField + 1 → placed.buf address =
      writeRankAndInstance router.node.currInstance (uipIphLen + 2)
        ((((makeRoom packet.buf uipIphLen rplHopByHopLen (moveCount packet.uipLen)).write uipIphLen
          [makeRoom packet.buf uipIphLen rplHopByHopLen (moveCount packet.uipLen) protoField]).write
          protoField [uipProtoHbho]).write (uipIphLen + 1)
            [0, uipExtHdrOptRpl, rplHdrOptLen, 0]) address :=
    fun address high low => addIpLen_other high low
  have proto : makeRoom packet.buf uipIphLen rplHopByHopLen (moveCount packet.uipLen) protoField =
      packet.proto := makeRoom_before (by decide)
  rw [proto] at first
  refine ⟨?_, ?_, ?_, ?_, ?_, ?_⟩
  · exact (first protoField (by decide) (by decide)).trans rfl
  · exact (first uipIphLen (by decide) (by decide)).trans rfl
  · exact (first _ (by decide) (by decide)).trans rfl
  · exact (first _ (by decide) (by decide)).trans rfl
  · exact (first _ (by decide) (by decide)).trans rfl
  · exact (first _ (by decide) (by decide)).trans rfl

variable {packet : UipPacket}

theorem placeHbh_moved (router : RplRouter)
    (header : uipIphLen ≤ packet.uipLen.toNat) (after : uipIphLen ≤ address)
    (inside : address < packet.uipLen.toNat) :
    (placeHbh router packet).buf (address + rplHopByHopLen) = packet.buf address := by
  have size : rplHopByHopLen = 8 := rfl
  have ip : uipIphLen = 40 := rfl
  have high : lenField = 4 := rfl
  have proto : protoField = 6 := rfl
  have other : address + rplHopByHopLen ≠ protoField := by omega
  unfold placeHbh
  dsimp only
  rw [addIpLen_other (by omega) (by omega), writeRankAndInstance_other _ (by omega),
    Memory.write_after _ (by simp; omega), Memory.write_cell_other _ _ other,
    Memory.write_cell_other _ _ (by omega)]
  exact makeRoom_moved after (by rw [moveCount_eq header]; omega)

variable {router : RplRouter}

theorem placeHbh_uipLen (room : packet.uipLen.toNat + rplHopByHopLen ≤ router.room.toNat) :
    (placeHbh router packet).uipLen.toNat = packet.uipLen.toNat + rplHopByHopLen := by
  have bound := UInt16.toNat_lt router.room
  change (packet.uipLen + UInt16.ofNat rplHopByHopLen).toNat = _
  rw [UInt16.toNat_add, UInt16.toNat_ofNat']
  unfold rplHopByHopLen at *
  omega

theorem updateHbh_placed (router : RplRouter) (packet : UipPacket) :
    updateHbhHeader router (placeHbh router packet) =
      if router.node.currInstance.used then
        (true, { placeHbh router packet with
          buf := writeRankAndInstance router.node.currInstance (uipIphLen + 2)
            (placeHbh router packet).buf })
      else (false, placeHbh router packet) := by
  obtain ⟨proto, _, len, opt, optLen, instanceId⟩ := placeHbh_header router packet
  unfold updateHbhHeader
  cases used : router.node.currInstance.used <;>
    simp [proto, len, opt, optLen, instanceId, used]

theorem insertHbh_inserted {packet inserted : UipPacket} (header : uipIphLen ≤ packet.uipLen.toNat)
    (succeeded : insertHbhHeader router packet = (true, inserted)) :
    Inserted packet inserted rplHopByHopLen := by
  unfold insertHbhHeader at succeeded
  split at succeeded
  · cases succeeded
  next fits =>
    rw [updateHbh_placed] at succeeded
    split at succeeded
    · obtain rfl := congrArg Prod.snd succeeded
      obtain ⟨proto, next, len, opt, _, _⟩ := placeHbh_header router packet
      have same : ∀ address, address < uipIphLen + 5 ∨ uipIphLen + 8 ≤ address →
          writeRankAndInstance router.node.currInstance (uipIphLen + 2)
            (placeHbh router packet).buf address = (placeHbh router packet).buf address :=
        fun address outside => writeRankAndInstance_other _ outside
      refine ⟨by decide, placeHbh_uipLen (Nat.not_lt.mp fits), ?_, ?_, ?_, ?_⟩
      · have protoSame := (same protoField (Or.inl (by decide))).trans proto
        have optSame := (same (uipIphLen + 2) (Or.inl (by decide))).trans opt
        exact isRpl_of_hbho protoSame optSame
      · exact (same uipIphLen (Or.inl (by decide))).trans next
      · change writeRankAndInstance _ _ _ (uipIphLen + 1) * 8 + 8 = _
        rw [same (uipIphLen + 1) (Or.inl (by decide)), len]
        rfl
      · intro address after inside
        have size : rplHopByHopLen = 8 := rfl
        exact (same _ (Or.inr (by omega))).trans (placeHbh_moved router header after inside)
    · cases succeeded

structure SrhRoute (router : RplRouter) (packet : UipPacket) (destNode rootNode : Nat)
    (hops : List Nat) (below : List Nat × Option Nat) : Prop where
  inDag : router.rplIsAddrInOurDag packet.destipaddr = true
  dest : router.getNode packet.destipaddr = some destNode
  root : router.getNode router.node.currInstance.dag.dagId = some rootNode
  reachable : router.sr.uipSrIsAddrReachable router.routing none packet.destipaddr = true
  above : hopsAbove router.sr rootNode router.sr.nodememb.num
    (router.sr.nodememb.mem destNode).parent = some hops
  room : packet.uipLen.toNat + (srhSizes router packet.destipaddr hops).extLen.toNat ≤
    router.room.toNat
  found : hopsBelow router.sr rootNode router.sr.nodememb.num (some destNode) = some below

def routed (router : RplRouter) (packet : UipPacket) (destNode : Nat) (hops : List Nat)
    (below : List Nat × Option Nat) : UipPacket :=
  placeSrh router (srhSizes router packet.destipaddr hops) below.1
    (below.2.getD (below.1.getLastD destNode)) packet

theorem insertSrh_cases {packet inserted : UipPacket} {succeeded : Bool}
    (ran : insertSrhHeader router packet = some (succeeded, inserted)) :
    (inserted = packet ∧ (succeeded = true →
        router.rplIsAddrInOurDag packet.destipaddr = true →
          router.getNode packet.destipaddr = none)) ∨
      succeeded = true ∧ ∃ destNode rootNode hops below,
        SrhRoute router packet destNode rootNode hops below ∧
          inserted = routed router packet destNode hops below := by
  have failed : some (false, packet) = some (succeeded, inserted) → inserted = packet ∧
      (succeeded = true → router.rplIsAddrInOurDag packet.destipaddr = true →
        router.getNode packet.destipaddr = none) := by
    intro result
    obtain ⟨rfl, rfl⟩ := Prod.mk.inj (Option.some.inj result)
    exact ⟨rfl, fun other => nomatch other⟩
  unfold insertSrhHeader at ran
  dsimp only at ran
  split at ran
  next outside =>
    left
    obtain ⟨rfl, rfl⟩ := Prod.mk.inj (Option.some.inj ran)
    exact ⟨rfl, fun _ inDag => by simp [inDag] at outside⟩
  next inDag =>
    split at ran
    next unknown =>
      left
      obtain ⟨rfl, rfl⟩ := Prod.mk.inj (Option.some.inj ran)
      exact ⟨rfl, fun _ _ => unknown⟩
    next destNode dest =>
      split at ran
      · exact Or.inl (failed ran)
      next rootNode root =>
        split at ran
        · exact Or.inl (failed ran)
        next reachable =>
          split at ran
          · cases ran
          next hops above =>
            split at ran
            · exact Or.inl (failed ran)
            next room =>
              obtain ⟨below, found, result⟩ := Option.map_eq_some_iff.mp ran
              refine Or.inr ⟨(congrArg Prod.fst result).symm, destNode, rootNode, hops, below,
                ⟨?_, dest, root, ?_, above, Nat.not_lt.mp room, found⟩,
                (congrArg Prod.snd result).symm⟩
              · simpa using inDag
              · simpa using reachable

variable {destNode rootNode : Nat} {hops : List Nat} {below : List Nat × Option Nat}

theorem SrhRoute.path
    (route : SrhRoute router packet destNode rootNode hops below) (other : destNode ≠ rootNode) :
    PathTo router.sr rootNode destNode hops := by
  have reachable := route.reachable
  have dest : router.sr.uipSrGetNode router.routing none packet.destipaddr = some destNode :=
    route.dest
  have root : router.sr.uipSrGetNode router.routing none router.routing.rootIpaddr =
      some rootNode := route.root
  unfold UipSr.uipSrIsAddrReachable UipSr.getHopCount at reachable
  rw [dest, root] at reachable
  dsimp only at reachable
  split at reachable
  next reached =>
    rw [Bool.and_eq_true, decide_eq_true_eq] at reached
    obtain ⟨left, climbed⟩ : ∃ left, router.sr.climb (some rootNode) router.sr.nodememb.num
        (some destNode) = (some rootNode, left) := ⟨_, Prod.ext reached.2 rfl⟩
    rcases climb_pathTo climbed with same | ⟨path, found⟩
    · exact absurd same other
    · rw [hopsAbove_pathTo found route.above]
      exact found
  next => simp at reachable

structure SrhFits (router : RplRouter) (packet : UipPacket) (hops : List Nat)
    (below : List Nat × Option Nat) : Prop where
  small : hops.length * hopSize (srhSizes router packet.destipaddr hops).cmpri ≤ 240
  behind : below.1.length * hopSize (srhSizes router packet.destipaddr hops).cmpri ≤
    hops.length * hopSize (srhSizes router packet.destipaddr hops).cmpri + 6

theorem writeSrh_header (sizes : SrhSizes) (rh : Nat) (buf : Memory UInt8)
    (beyond : protoField < rh) :
    let written := writeSrh sizes rh buf
    written protoField = uipProtoRouting ∧ written rh = buf protoField ∧
      written (rh + 1) = UInt8.ofInt (((sizes.extLen.toNat : Int) - 8).tdiv 8) ∧
      (∀ address, (address < rh ∧ address ≠ protoField) ∨ rh + 6 ≤ address →
        written address = buf address) := by
  intro written
  refine ⟨?_, ?_, ?_, ?_⟩
  · change Memory.write _ _ _ protoField = _
    rw [Memory.write_before _ _ (by omega)]
    exact Memory.write_cell _ _ _
  · change Memory.write _ _ _ rh = _
    rw [Memory.write_before _ _ (by omega), Memory.write_cell_other _ _ (by omega)]
    exact Memory.write_cell _ _ _
  · change Memory.write _ _ _ (rh + 1) = _
    exact Memory.write_inside _ (Nat.le_refl _) (by rw [Nat.sub_self]; rfl)
  · intro address outside
    change Memory.write _ _ _ address = _
    rcases outside with ⟨before, other⟩ | after
    · rw [Memory.write_before _ _ (by omega), Memory.write_cell_other _ _ other,
        Memory.write_cell_other _ _ (by omega)]
    · rw [Memory.write_after _ (by simp; omega), Memory.write_cell_other _ _ (by omega),
        Memory.write_cell_other _ _ (by omega)]

theorem writeIpaddr_other {start address : Nat} (addr : UipIpaddr)
    (outside : address < start ∨ start + 16 ≤ address) :
    writeIpaddr buf start addr address = buf address := by
  unfold writeIpaddr
  rcases outside with before | after
  · exact Memory.write_before _ _ before
  · exact Memory.write_after _ (by simpa using after)

def hopsEnd (sizes : SrhSizes) (packet : UipPacket) : Nat :=
  packet.extBuf + sizes.extLen.toNat - sizes.padding.toNat

theorem placeSrh_other {sizes : SrhSizes} {nextHop : Nat}
    (room : hops.length * hopSize sizes.cmpri ≤ hopsEnd sizes packet)
    (len : address ≠ lenField ∧ address ≠ lenField + 1)
    (dest : address < destipaddrField ∨ uipIphLen ≤ address)
    (outside : address < hopsEnd sizes packet - hops.length * hopSize sizes.cmpri ∨
      hopsEnd sizes packet ≤ address) :
    (placeSrh router sizes hops nextHop packet).buf address =
      writeSrh sizes packet.extBuf (makeRoom packet.buf packet.extBuf sizes.extLen.toNat
        (moveCount packet.uipLen)) address := by
  unfold placeSrh
  dsimp only
  rw [addIpLen_other len.1 len.2, writeIpaddr_other _ dest]
  exact writeHops_other router sizes.cmpri.toNat room outside

theorem placeSrh_uipLen {sizes : SrhSizes} {nextHop : Nat}
    (room : packet.uipLen.toNat + sizes.extLen.toNat ≤ router.room.toNat) :
    (placeSrh router sizes hops nextHop packet).uipLen.toNat =
      packet.uipLen.toNat + sizes.extLen.toNat := by
  have bound := UInt16.toNat_lt router.room
  change (packet.uipLen + sizes.extLen.toUInt16).toNat = _
  rw [UInt16.toNat_add, UInt8.toNat_toUInt16]
  omega

theorem headerLen_byte {extLen : UInt8} {blocks : Nat} (size : extLen.toNat = 8 + blocks * 8) :
    UInt8.ofInt (((extLen.toNat : Int) - 8).tdiv 8) = UInt8.ofNat blocks := by
  have exact8 : ((extLen.toNat : Int) - 8).tdiv 8 = (blocks : Int) := by
    rw [size, show ((8 + blocks * 8 : Nat) : Int) - 8 = (blocks : Int) * 8 by omega]
    exact Int.mul_tdiv_cancel _ (by decide)
  rw [exact8, ofInt_natCast]

structure RoutedSize (sizes : SrhSizes) (below : Nat) (size blocks : Nat) : Prop where
  extLen : sizes.extLen.toNat = size
  whole : size = 8 + blocks * 8
  byte : size < 256
  padding : sizes.padding.toNat < 8
  written : below * hopSize sizes.cmpri + sizes.padding.toNat + 2 ≤ size

theorem SrhFits.size (fits : SrhFits router packet hops below) :
    ∃ size blocks, RoutedSize (srhSizes router packet.destipaddr hops) below.1.length size
      blocks := by
  have small := fits.small
  have behind := fits.behind
  have sizes := srhSizes_fit router packet.destipaddr hops small
  have padding := sizes.padding_eq
  have extLen := sizes.extLen_eq
  generalize hops.length * hopSize (srhSizes router packet.destipaddr hops).cmpri = taken at *
  unfold paddingOf at padding extLen
  refine ⟨_, (taken + 7) / 8, rfl, ?_, ?_, ?_, ?_⟩ <;> omega

theorem SrhRoute.fits (route : SrhRoute router packet destNode rootNode hops below)
    (small : hops.length * hopSize (srhSizes router packet.destipaddr hops).cmpri ≤ 240)
    (top : destNode = rootNode → (router.sr.nodememb.mem rootNode).parent = none) :
    SrhFits router packet hops below := by
  refine ⟨small, ?_⟩
  by_cases same : destNode = rootNode
  · subst destNode
    have alone := top rfl
    have above := route.above
    have found := route.found
    have empty : hops = [] := by
      rw [alone] at above
      cases fuel : router.sr.nodememb.num <;> rw [fuel] at above <;>
        exact (Option.some.inj above).symm
    subst hops
    have one : below.1.length ≤ 1 := by
      cases fuel : router.sr.nodememb.num with
      | zero => simp [fuel, hopsBelow, alone] at found
      | succ fuel' =>
        rw [fuel, hopsBelow, if_neg (by simp [alone]), alone] at found
        obtain ⟨rest, none, rfl⟩ := Option.map_eq_some_iff.mp found
        cases fuel' <;>
          · obtain rfl := Option.some.inj none
            exact Nat.le_refl 1
    have size : hopSize (srhSizes router packet.destipaddr []).cmpri = 1 := rfl
    rw [size]
    omega
  · have found := hopsBelow_pathTo (route.path same) route.found
    rw [found]
    simp

theorem routed_inserted (route : SrhRoute router packet destNode rootNode hops below)
    (fits : SrhFits router packet hops below) (uncounted : packet.uipExtLen = 0)
    (header : uipIphLen ≤ packet.uipLen.toNat) :
    Inserted packet (routed router packet destNode hops below)
      (srhSizes router packet.destipaddr hops).extLen.toNat := by
  have ext : packet.extBuf = uipIphLen := by
    unfold UipPacket.extBuf
    rw [uncounted]
    rfl
  obtain ⟨size, blocks, sized⟩ := fits.size
  have room := route.room
  have ip : uipIphLen = 40 := rfl
  have high : lenField = 4 := rfl
  have proto : protoField = 6 := rfl
  have dest : destipaddrField = 24 := rfl
  unfold routed
  generalize srhSizes router packet.destipaddr hops = sizes at room sized ⊢
  have extLen := sized.extLen
  have written := sized.written
  have padding := sized.padding
  have whole := sized.whole
  have ends : hopsEnd sizes packet = uipIphLen + size - sizes.padding.toNat := by
    unfold hopsEnd
    rw [ext, extLen]
  obtain ⟨first, next, len, other⟩ := writeSrh_header sizes packet.extBuf
    (makeRoom packet.buf packet.extBuf sizes.extLen.toNat (moveCount packet.uipLen)) (by omega)
  have cells : ∀ address, address = protoField ∨ address = uipIphLen ∨ address = uipIphLen + 1 ∨
      uipIphLen + size ≤ address →
      (placeSrh router sizes below.1 (below.2.getD (below.1.getLastD destNode)) packet).buf
        address = writeSrh sizes packet.extBuf (makeRoom packet.buf packet.extBuf
          sizes.extLen.toNat (moveCount packet.uipLen)) address := by
    intro address place
    refine placeSrh_other (by omega) ⟨by omega, by omega⟩ (by omega) (by omega)
  rw [ext] at cells first next len other
  refine ⟨UInt8.toNat_lt _, placeSrh_uipLen room, ?_, ?_, ?_, ?_⟩
  · exact isRpl_of_routing ((cells protoField (Or.inl rfl)).trans first)
  · rw [cells uipIphLen (Or.inr (Or.inl rfl)), next]
    exact makeRoom_before (by decide)
  · rw [cells (uipIphLen + 1) (by simp), len, headerLen_byte (extLen.trans whole)]
    apply UInt8.toNat_inj.mp
    have byte := sized.byte
    have eight : (8 : UInt8).toNat = 8 := rfl
    rw [UInt8.toNat_add, UInt8.toNat_mul, UInt8.toNat_ofNat', UInt8.toNat_ofNat', extLen, eight]
    omega
  · intro address after inside
    rw [cells _ (by omega), other _ (by omega), extLen]
    exact makeRoom_moved after (by rw [moveCount_eq header]; omega)

end MultiPhyTsch.Rpl
