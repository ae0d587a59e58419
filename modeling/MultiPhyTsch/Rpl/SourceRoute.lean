import MultiPhyTsch.Ipv6.ExtHeaderProgress
import MultiPhyTsch.Rpl.HeaderInsertion

/-! A packet travels along the source route that the root puts into it. -/

namespace MultiPhyTsch.Rpl

open MultiPhyTsch.Ipv6

def segLeftField : Nat := uipIphLen + 3
def cmprField : Nat := uipIphLen + rplRhLen
def padField : Nat := uipIphLen + rplRhLen + 1
def addressesField : Nat := uipIphLen + rplRhLen + rplSrhLen

variable (packet : UipPacket)

def segLeft : Nat := (packet.buf segLeftField).toNat

def srhCmpr : Nat := (packet.buf cmprField >>> 4).toNat

def srhPathLenOf : UInt8 :=
  srhPathLen (packet.buf (uipIphLen + 1) * 8 + 8) (packet.buf padField >>> 4)
    (packet.buf cmprField >>> 4) (packet.buf cmprField &&& 0x0f)

def srhPath : List (List UInt8) :=
  (List.range (srhPathLenOf packet).toNat).map fun index =>
    packet.buf.read destipaddrField (srhCmpr packet) ++
      packet.buf.read (addressesField + index * (16 - srhCmpr packet)) (16 - srhCmpr packet)

def srhTravel : Nat → UipPacket → Option UipPacket
  | 0, packet => some packet
  | hops + 1, packet =>
    match rplExtHeaderSrhUpdate packet with
    | some (true, next) => srhTravel hops next
    | _ => none

structure SrhForm (cmpr pathLen : Nat) (packet : UipPacket) : Prop where
  proto : packet.proto = uipProtoRouting
  type : packet.buf (uipIphLen + 2) = rplRhTypeSrh
  cmpri : (packet.buf cmprField >>> 4).toNat = cmpr
  cmpre : (packet.buf cmprField &&& 0x0f).toNat = cmpr
  cmpr_le : cmpr ≤ 15
  pathLen : (srhPathLenOf packet).toNat = pathLen

theorem findRoutingHeader_first {buf : Memory UInt8} (routing : buf protoField = uipProtoRouting) :
    findRoutingHeader buf = some HeaderSearch.start := by
  have left : HeaderSearch.start.step buf = none := by
    unfold HeaderSearch.step
    rw [if_neg]
    change ¬ (buf protoField = _ ∨ buf protoField = _)
    rw [routing]
    decide
  exact Loop.final_of_left left _

theorem SrhForm.update {cmpr pathLen : Nat} {packet : UipPacket}
    (form : SrhForm cmpr pathLen packet) :
    rplExtHeaderSrhUpdate packet =
      some (true, { packet with buf := srhSwap packet.buf uipIphLen }) := by
  have isSrh : isSrh packet.buf HeaderSearch.start = true := by
    unfold Rpl.isSrh
    have type : packet.buf (HeaderSearch.start.ext + 2) = rplRhTypeSrh := form.type
    have proto : packet.buf HeaderSearch.start.nextHdr = uipProtoRouting := form.proto
    simp [type, proto]
  unfold rplExtHeaderSrhUpdate
  rw [findRoutingHeader_first form.proto, Option.map_some, if_pos isSrh]
  rfl

theorem SrhForm.swap {cmpr pathLen done : Nat} {packet : UipPacket}
    (form : SrhForm cmpr pathLen packet) (segments : segLeft packet + done = pathLen)
    (more : done < pathLen) :
    srhSwap packet.buf uipIphLen =
      ((moveBytes packet.buf (destipaddrField + cmpr)
        (addressesField + done * (16 - cmpr)) (16 - cmpr)).write
        (addressesField + done * (16 - cmpr))
        ((packet.buf.read destipaddrField 16).drop cmpr)).write segLeftField
        [packet.buf segLeftField - 1] := by
  have positive : packet.buf segLeftField ≠ 0 := by
    intro zero
    unfold segLeft at segments
    rw [zero] at segments
    have none : (0 : UInt8).toNat = 0 := rfl
    omega
  have index : (srhPathLenOf packet - packet.buf segLeftField).toNat = done := by
    have pathLen := form.pathLen
    unfold segLeft at segments
    rw [UInt8.toNat_sub_of_le]
    · omega
    · rw [UInt8.le_iff_toNat_le]
      omega
  have both : (if packet.buf segLeftField = 1 then packet.buf cmprField &&& 0x0f
      else packet.buf cmprField >>> 4).toNat = cmpr := by
    split
    · exact form.cmpre
    · exact form.cmpri
  have unfolded : srhSwap packet.buf uipIphLen =
      if packet.buf segLeftField = 0 then packet.buf
      else ((moveBytes packet.buf
        (destipaddrField + (if packet.buf segLeftField = 1 then packet.buf cmprField &&& 0x0f
          else packet.buf cmprField >>> 4).toNat)
        (addressesField + (srhPathLenOf packet - packet.buf segLeftField).toNat *
          (16 - (packet.buf cmprField >>> 4).toNat))
        (16 - (if packet.buf segLeftField = 1 then packet.buf cmprField &&& 0x0f
          else packet.buf cmprField >>> 4).toNat)).write
        (addressesField + (srhPathLenOf packet - packet.buf segLeftField).toNat *
          (16 - (packet.buf cmprField >>> 4).toNat))
        ((packet.buf.read destipaddrField 16).drop
          (if packet.buf segLeftField = 1 then packet.buf cmprField &&& 0x0f
            else packet.buf cmprField >>> 4).toNat)).write segLeftField
        [packet.buf segLeftField - 1] := rfl
  rw [unfolded, if_neg positive, both, form.cmpri, index]

theorem readIpaddr_toList (buf : Memory UInt8) (start : Nat) :
    (readIpaddr buf start).toList = buf.read start 16 := by
  apply List.ext_getElem
  · simp
  · intro index left right
    simp [readIpaddr, Memory.read]

section

variable (router : RplRouter) (cmpr : Nat) (path : List Nat) (start : UipPacket)

def slot (index : Nat) : Nat := addressesField + index * (16 - cmpr)

/-- A packet that has come to the node at `done` of the path. The header has the nodes that were
passed and those that are ahead, and else nothing has changed. -/
structure OnTheWay (done : Nat) (packet : UipPacket) : Prop where
  dest : ∀ node, path[done]? = some node → packet.destipaddr = router.nodeIpaddr node
  segments : segLeft packet + done + 1 = path.length
  passed : ∀ index node, index < done → path[index]? = some node →
    packet.buf.read (slot cmpr index) (16 - cmpr) = hopBytes router cmpr node
  ahead : ∀ index node, done ≤ index → path[index + 1]? = some node →
    packet.buf.read (slot cmpr index) (16 - cmpr) = hopBytes router cmpr node
  others : ∀ address, address < destipaddrField ∨ uipIphLen ≤ address → address ≠ segLeftField →
    address < addressesField ∨ slot cmpr (path.length - 1) ≤ address →
    packet.buf address = start.buf address
  uipLen : packet.uipLen = start.uipLen
  uipExtLen : packet.uipExtLen = start.uipExtLen

variable {router cmpr path start}

theorem OnTheWay.form {done pathLen : Nat} {packet : UipPacket}
    (onTheWay : OnTheWay router cmpr path start done packet)
    (form : SrhForm cmpr pathLen start) : SrhForm cmpr pathLen packet := by
  have same := onTheWay.others
  have proto : packet.proto = start.proto :=
    same protoField (Or.inl (by decide)) (by decide) (Or.inl (by decide))
  have len : packet.buf (uipIphLen + 1) = start.buf (uipIphLen + 1) :=
    same _ (Or.inr (by decide)) (by decide) (Or.inl (by decide))
  have type : packet.buf (uipIphLen + 2) = start.buf (uipIphLen + 2) :=
    same _ (Or.inr (by decide)) (by decide) (Or.inl (by decide))
  have cmprByte : packet.buf cmprField = start.buf cmprField :=
    same _ (Or.inr (by decide)) (by decide) (Or.inl (by decide))
  have padding : packet.buf padField = start.buf padField :=
    same _ (Or.inr (by decide)) (by decide) (Or.inl (by decide))
  refine ⟨proto.trans form.proto, type.trans form.type, ?_, ?_, form.cmpr_le, ?_⟩
  · rw [cmprByte]
    exact form.cmpri
  · rw [cmprByte]
    exact form.cmpre
  · unfold srhPathLenOf
    rw [len, cmprByte, padding]
    exact form.pathLen

theorem slot_mono (cmpr : Nat) {index other : Nat} (below : index < other) :
    slot cmpr index + (16 - cmpr) ≤ slot cmpr other := by
  unfold slot
  have more := Nat.mul_le_mul_right (16 - cmpr) (Nat.succ_le_of_lt below)
  rw [Nat.succ_mul] at more
  omega

theorem slot_ge (cmpr index : Nat) : addressesField ≤ slot cmpr index := Nat.le_add_right _ _

theorem swapped_read {buf : Memory UInt8} {source start len : Nat} {bytes : List UInt8}
    {segments : UInt8} (count : bytes.length = 16 - cmpr)
    (outside : start + len ≤ destipaddrField ∨ uipIphLen ≤ start)
    (noSegLeft : start + len ≤ segLeftField ∨ segLeftField < start)
    (apart : start + len ≤ source ∨ source + (16 - cmpr) ≤ start)
    (small : cmpr ≤ 15) :
    (((moveBytes buf (destipaddrField + cmpr) source (16 - cmpr)).write source bytes).write
      segLeftField [segments]).read start len = buf.read start len := by
  have dest : destipaddrField = 24 := rfl
  have ip : uipIphLen = 40 := rfl
  apply Memory.read_congr
  intro address after before
  have other : address ≠ segLeftField := by omega
  rw [Memory.write_cell_other _ _ other]
  have source : (moveBytes buf (destipaddrField + cmpr) source (16 - cmpr)).write source bytes
      address = moveBytes buf (destipaddrField + cmpr) source (16 - cmpr) address := by
    rcases apart with left | right
    · exact Memory.write_before _ _ (by omega)
    · exact Memory.write_after _ (by omega)
  rw [source]
  unfold moveBytes
  rcases outside with left | right
  · exact Memory.write_before _ _ (by omega)
  · exact Memory.write_after _ (by rw [Memory.read_length]; omega)

theorem hopBytes_eq (router : RplRouter) (cmpr : Nat) {node : Nat} {addr : UipIpaddr}
    (same : addr = router.nodeIpaddr node) :
    addr.toList.drop cmpr = hopBytes router cmpr node := by
  rw [same]
  rfl

theorem OnTheWay.next {done : Nat} {packet : UipPacket}
    (onTheWay : OnTheWay router cmpr path start done packet)
    (form : SrhForm cmpr (path.length - 1) start) {shared : UipIpaddr}
    (shares : ∀ node ∈ path, SharePrefix cmpr (router.nodeIpaddr node) shared)
    (more : done + 1 < path.length) :
    ∃ next, rplExtHeaderSrhUpdate packet = some (true, next) ∧
      OnTheWay router cmpr path start (done + 1) next := by
  have formHere := onTheWay.form form
  have segments := onTheWay.segments
  have small := form.cmpr_le
  have dest : destipaddrField = 24 := rfl
  have ip : uipIphLen = 40 := rfl
  have segField : segLeftField = 43 := rfl
  have addresses : addressesField = 48 := rfl
  obtain ⟨here, atHere⟩ : ∃ node, path[done]? = some node :=
    ⟨_, List.getElem?_eq_getElem (by omega)⟩
  obtain ⟨there, atThere⟩ : ∃ node, path[done + 1]? = some node :=
    ⟨_, List.getElem?_eq_getElem more⟩
  have destHere := onTheWay.dest here atHere
  have destBytes : packet.buf.read destipaddrField 16 = (router.nodeIpaddr here).toList := by
    rw [← readIpaddr_toList]
    exact congrArg Vector.toList destHere
  have count : ((packet.buf.read destipaddrField 16).drop cmpr).length = 16 - cmpr := by
    rw [List.length_drop, Memory.read_length]
  have swap := @SrhForm.swap cmpr (path.length - 1) done packet formHere (by omega) (by omega)
  have source := slot_ge cmpr done
  have after := slot_mono cmpr (Nat.lt_succ_self done)
  have last := slot_mono cmpr (show done < path.length - 1 by omega)
  refine ⟨_, formHere.update, ?_⟩
  rw [swap]
  refine ⟨?_, ?_, ?_, ?_, ?_, onTheWay.uipLen, onTheWay.uipExtLen⟩
  · intro node atNode
    obtain rfl := Option.some.inj (atThere.symm.trans atNode)
    apply Vector.toList_inj.mp
    refine (readIpaddr_toList _ _).trans ?_
    have front : ∀ target : Nat, destipaddrField + cmpr ≤ target → ∀ (mem : Memory UInt8)
        (items : List UInt8), (mem.write target items).read destipaddrField cmpr =
          mem.read destipaddrField cmpr :=
      fun target behind mem items => mem.read_write_before items behind
    have back : ∀ target : Nat, uipIphLen ≤ target → ∀ (mem : Memory UInt8)
        (items : List UInt8), (mem.write target items).read (destipaddrField + cmpr) (16 - cmpr) =
          mem.read (destipaddrField + cmpr) (16 - cmpr) :=
      fun target behind mem items => mem.read_write_before items (by omega)
    have split : ∀ mem : Memory UInt8, mem.read destipaddrField 16 =
        mem.read destipaddrField cmpr ++ mem.read (destipaddrField + cmpr) (16 - cmpr) := by
      intro mem
      rw [← Memory.read_add, Nat.add_sub_cancel' (by omega)]
    rw [split, front _ (by omega), front _ (by omega), back _ (by decide), back _ (by omega)]
    unfold moveBytes
    rw [front _ (Nat.le_refl _), Memory.read_write_of_length _ _ (Memory.read_length _ _ _)]
    have kept : packet.buf.read destipaddrField cmpr = (router.nodeIpaddr there).toList.take cmpr := by
      rw [← Memory.read_take packet.buf destipaddrField (show cmpr ≤ 16 by omega), destBytes]
      exact (shares here (List.mem_of_getElem? atHere)).trans
        (shares there (List.mem_of_getElem? atThere)).symm
    have moved := onTheWay.ahead done there (Nat.le_refl done) atThere
    unfold slot at moved
    rw [kept, moved]
    exact List.take_append_drop cmpr _
  · have one : (1 : UInt8).toNat = 1 := rfl
    have positive : 1 ≤ packet.buf segLeftField := by
      unfold segLeft at segments
      rw [UInt8.le_iff_toNat_le]
      omega
    unfold segLeft at segments ⊢
    dsimp only
    rw [Memory.write_cell, UInt8.toNat_sub_of_le _ _ positive]
    omega
  · intro index node below atNode
    rcases Nat.lt_succ_iff_lt_or_eq.mp below with earlier | rfl
    · have apart := slot_mono cmpr earlier
      have behind := slot_ge cmpr index
      rw [← onTheWay.passed index node earlier atNode]
      exact swapped_read count (by omega) (by omega) (Or.inl apart) small
    · obtain rfl := Option.some.inj (atHere.symm.trans atNode)
      rw [← hopBytes_eq router cmpr rfl, ← destBytes]
      refine Eq.trans ?_ (Memory.read_write_of_length (moveBytes packet.buf
        (destipaddrField + cmpr) (slot cmpr index) (16 - cmpr)) (slot cmpr index) count)
      apply Memory.read_write_after
      change segLeftField + 1 ≤ _
      omega
  · intro index node later atNode
    have apart := slot_mono cmpr (Nat.lt_of_succ_le later)
    have behind := slot_ge cmpr index
    rw [← onTheWay.ahead index node (by omega) atNode]
    exact swapped_read count (by omega) (by omega) (Or.inr apart) small
  · intro address outside other place
    rw [← onTheWay.others address outside other place]
    have cell := @swapped_read cmpr packet.buf (slot cmpr done) address 1 _
      (packet.buf segLeftField - 1) count (by omega) (by omega) (by omega) small
    unfold slot at cell
    simpa [Memory.read] using cell

end

theorem nibbles (half : Fin 16) :
    ((UInt8.ofNat half.val <<< 4) + UInt8.ofNat half.val) >>> 4 = UInt8.ofNat half.val ∧
      ((UInt8.ofNat half.val <<< 4) + UInt8.ofNat half.val) &&& 0x0f = UInt8.ofNat half.val ∧
      (UInt8.ofNat half.val <<< 4) >>> 4 = UInt8.ofNat half.val := by
  revert half
  decide

theorem nibbles_toNat {half : UInt8} (small : half.toNat ≤ 15) :
    ((half <<< 4) + half) >>> 4 = half ∧ ((half <<< 4) + half) &&& 0x0f = half ∧
      (half <<< 4) >>> 4 = half := by
  have all := nibbles ⟨half.toNat, Nat.lt_succ_of_le small⟩
  simpa only [UInt8.ofNat_toNat] using all

theorem srhPathLen_eq {extLen padding cmpr : UInt8} {pathLen : Nat}
    (size : extLen.toNat = 8 + pathLen * (16 - cmpr.toNat) + padding.toNat)
    (small : cmpr.toNat ≤ 15) (byte : pathLen < 256)
    (alone : pathLen = 0 → 16 - cmpr.toNat = 1) :
    (srhPathLen extLen padding cmpr cmpr).toNat = pathLen := by
  have taken : ((extLen.toNat : Int) - padding.toNat - rplRhLen - rplSrhLen -
      (16 - (cmpr.toNat : Int))).tdiv (16 - cmpr.toNat) + 1 = (pathLen : Int) := by
    have hop : (16 : Int) - cmpr.toNat = ((16 - cmpr.toNat : Nat) : Int) := by omega
    rw [hop]
    cases pathLen with
    | zero =>
      have one := alone rfl
      have minusOne : (extLen.toNat : Int) - padding.toNat - rplRhLen - rplSrhLen -
          ((16 - cmpr.toNat : Nat) : Int) = -1 := by
        simp only [rplRhLen, rplSrhLen]
        omega
      rw [minusOne, one]
      rfl
    | succ pathLen =>
      have rest : (extLen.toNat : Int) - padding.toNat - rplRhLen - rplSrhLen -
          ((16 - cmpr.toNat : Nat) : Int) = (pathLen : Int) * ((16 - cmpr.toNat : Nat) : Int) := by
        rw [size, Nat.add_one_mul, ← Int.natCast_mul]
        simp only [rplRhLen, rplSrhLen]
        omega
      rw [rest, Int.mul_tdiv_cancel _ (by omega)]
      omega
  unfold srhPathLen
  rw [taken, ofInt_natCast, UInt8.toNat_ofNat']
  omega

theorem readIpaddr_write (buf : Memory UInt8) (start : Nat) (addr : UipIpaddr) :
    readIpaddr (writeIpaddr buf start addr) start = addr := by
  apply Vector.toList_inj.mp
  rw [readIpaddr_toList]
  exact Memory.read_write_of_length _ _ (by simp)

theorem writeSrh_fields (sizes : SrhSizes) (buf : Memory UInt8) :
    let written := writeSrh sizes uipIphLen buf
    written (uipIphLen + 2) = rplRhTypeSrh ∧ written segLeftField = sizes.pathLen ∧
      written cmprField = (sizes.cmpri <<< 4) + sizes.cmpri ∧
      written padField = sizes.padding <<< 4 :=
  ⟨rfl, rfl, rfl, rfl⟩

section

variable {router : RplRouter} {sizes : SrhSizes} {written : List Nat} {nextHop pathLen : Nat}
  {packet : UipPacket}

structure BehindFields (sizes : SrhSizes) (written : List Nat) (pathLen : Nat)
    (packet : UipPacket) : Prop where
  fit : SizesFit sizes pathLen
  small : pathLen * hopSize sizes.cmpri ≤ 240
  alone : pathLen = 0 → hopSize sizes.cmpri = 1
  behind : written.length * hopSize sizes.cmpri + sizes.padding.toNat + 6 ≤ sizes.extLen.toNat
  uncounted : packet.uipExtLen = 0

section

variable (behind : BehindFields sizes written pathLen packet)
include behind

theorem BehindFields.extBuf :
    packet.extBuf = uipIphLen := by
  unfold UipPacket.extBuf
  rw [behind.uncounted]
  rfl

theorem BehindFields.hopsEnd :
    hopsEnd sizes packet = slot sizes.cmpri.toNat pathLen := by
  have padding := behind.fit.padding_eq
  have extLen := behind.fit.extLen_eq
  unfold Rpl.hopsEnd slot addressesField rplRhLen rplSrhLen
  rw [behind.extBuf, extLen, padding]
  unfold hopSize
  omega

theorem BehindFields.cells {address : Nat}
    (field : address = protoField ∨ uipIphLen ≤ address ∧ address ≤ padField) :
    (placeSrh router sizes written nextHop packet).buf address =
      writeSrh sizes uipIphLen (makeRoom packet.buf uipIphLen sizes.extLen.toNat
        (moveCount packet.uipLen)) address := by
  have room := behind.behind
  have ends : Rpl.hopsEnd sizes packet = uipIphLen + sizes.extLen.toNat - sizes.padding.toNat := by
    unfold Rpl.hopsEnd
    rw [behind.extBuf]
  have ip : uipIphLen = 40 := rfl
  have proto : protoField = 6 := rfl
  have pad : padField = 45 := rfl
  have high : lenField = 4 := rfl
  have dest : destipaddrField = 24 := rfl
  have placed := @placeSrh_other address packet router written sizes nextHop (by omega)
    ⟨by omega, by omega⟩ (by omega) (by omega)
  rw [behind.extBuf] at placed
  exact placed

theorem BehindFields.form :
    SrhForm sizes.cmpri.toNat pathLen (placeSrh router sizes written nextHop packet) ∧
      segLeft (placeSrh router sizes written nextHop packet) = pathLen := by
  have fit := behind.fit
  have small := behind.small
  have cmpr_le := fit.cmpri_le
  obtain ⟨type, segments, cmpr, pad⟩ := writeSrh_fields sizes
    (makeRoom packet.buf uipIphLen sizes.extLen.toNat (moveCount packet.uipLen))
  obtain ⟨proto, _, len, _⟩ := writeSrh_header sizes uipIphLen
    (makeRoom packet.buf uipIphLen sizes.extLen.toNat (moveCount packet.uipLen)) (by decide)
  have cell := fun address field => @BehindFields.cells router sizes written nextHop pathLen packet
    behind address field
  have typeHere := (cell (uipIphLen + 2) (Or.inr (by decide))).trans type
  have segmentsHere := (cell segLeftField (Or.inr (by decide))).trans segments
  have cmprHere := (cell cmprField (Or.inr (by decide))).trans cmpr
  have padHere := (cell padField (Or.inr (by decide))).trans pad
  have lenHere := (cell (uipIphLen + 1) (Or.inr (by decide))).trans len
  have protoHere := (cell protoField (Or.inl rfl)).trans proto
  have paddingSmall : sizes.padding.toNat ≤ 15 := by
    rw [fit.padding_eq]
    unfold paddingOf
    omega
  obtain ⟨high, low, _⟩ := nibbles_toNat cmpr_le
  obtain ⟨_, _, padding⟩ := nibbles_toNat paddingSmall
  have extLen : (placeSrh router sizes written nextHop packet).buf (uipIphLen + 1) * 8 + 8 =
      sizes.extLen := by
    have size := fit.extLen_eq
    have pads := fit.padding_eq
    unfold paddingOf at size
    have blocks : sizes.extLen.toNat = 8 + (sizes.extLen.toNat / 8 - 1) * 8 := by omega
    rw [lenHere, headerLen_byte blocks]
    apply UInt8.toNat_inj.mp
    have eight : (8 : UInt8).toNat = 8 := rfl
    rw [UInt8.toNat_add, UInt8.toNat_mul, UInt8.toNat_ofNat', eight]
    omega
  refine ⟨⟨protoHere, typeHere, ?_, ?_, cmpr_le, ?_⟩, ?_⟩
  · rw [cmprHere, high]
  · rw [cmprHere, low]
  · unfold srhPathLenOf
    rw [extLen, cmprHere, padHere, high, low, padding]
    have size := fit.extLen_eq
    rw [← fit.padding_eq] at size
    refine srhPathLen_eq size cmpr_le ?_ behind.alone
    have positive : 1 ≤ hopSize sizes.cmpri := by
      unfold hopSize
      omega
    have count := Nat.le_mul_of_pos_right pathLen positive
    omega
  · unfold segLeft
    rw [segmentsHere, fit.pathLen_eq]

end

theorem placeSrh_dest : (placeSrh router sizes written nextHop packet).destipaddr =
    router.nodeIpaddr nextHop := by
  refine Eq.trans ?_ (readIpaddr_write (writeHops router sizes.cmpri.toNat written
    (Rpl.hopsEnd sizes packet) (writeSrh sizes packet.extBuf (makeRoom packet.buf packet.extBuf
      sizes.extLen.toNat (moveCount packet.uipLen)))) destipaddrField (router.nodeIpaddr nextHop))
  apply Vector.toList_inj.mp
  refine (readIpaddr_toList _ _).trans (Eq.trans ?_ (readIpaddr_toList _ _).symm)
  apply Memory.read_congr
  intro address after _
  have dest : destipaddrField = 24 := rfl
  have high : lenField = 4 := rfl
  exact addIpLen_other (by omega) (by omega)

theorem placeSrh_slot (room : written.length * hopSize sizes.cmpri ≤ Rpl.hopsEnd sizes packet)
    {index node place : Nat} (at_index : written[index]? = some node)
    (stands : place = Rpl.hopsEnd sizes packet - (index + 1) * (16 - sizes.cmpri.toNat))
    (behind : uipIphLen ≤ place) :
    (placeSrh router sizes written nextHop packet).buf.read place (16 - sizes.cmpri.toNat) =
      hopBytes router sizes.cmpri.toNat node := by
  have dest : destipaddrField = 24 := rfl
  have high : lenField = 4 := rfl
  have ip : uipIphLen = 40 := rfl
  refine Eq.trans ?_ (@writeHops_at written router sizes.cmpri.toNat (Rpl.hopsEnd sizes packet)
    (writeSrh sizes packet.extBuf (makeRoom packet.buf packet.extBuf sizes.extLen.toNat
      (moveCount packet.uipLen))) index node room at_index)
  rw [← stands]
  apply Memory.read_congr
  intro address after _
  refine (addIpLen_other (by omega) (by omega)).trans ?_
  exact writeIpaddr_other _ (by omega)

end

def RootPath (sr : UipSr) (rootNode destNode : Nat) (hops : List Nat) : Prop :=
  PathTo sr rootNode destNode hops ∨
    destNode = rootNode ∧ (sr.nodememb.mem rootNode).parent = none ∧ hops = []

def routePath (destNode : Nat) (hops : List Nat) : List Nat := (destNode :: hops).reverse

theorem routePath_length (destNode : Nat) (hops : List Nat) :
    (routePath destNode hops).length = hops.length + 1 := by
  simp [routePath]

structure RouteFound (router : RplRouter) (packet : UipPacket) (destNode : Nat) (hops : List Nat)
    (below : List Nat × Option Nat) : Prop where
  behind : BehindFields (srhSizes router packet.destipaddr hops) below.1 hops.length packet
  next : (routePath destNode hops)[0]? = some (below.2.getD (below.1.getLastD destNode))
  written : ∀ index, index < hops.length →
    below.1[hops.length - 1 - index]? = (routePath destNode hops)[index + 1]?
  dest : router.nodeIpaddr destNode = packet.destipaddr

theorem getNode_nodeIpaddr {router : RplRouter} {addr : UipIpaddr} {node : Nat}
    (found : router.getNode addr = some node) : router.nodeIpaddr node = addr := by
  have isMatch := List.find?_some found
  unfold UipSr.nodeMatchesAddress at isMatch
  rw [Bool.and_eq_true, decide_eq_true_eq, decide_eq_true_eq] at isMatch
  exact isMatch.2

section

variable {router : RplRouter} {packet : UipPacket} {destNode : Nat} {hops : List Nat}
  {below : List Nat × Option Nat}

theorem SrhRoute.routeFound {rootNode : Nat}
    (route : SrhRoute router packet destNode rootNode hops below)
    (way : RootPath router.sr rootNode destNode hops) (short : hops.length ≤ 30)
    (uncounted : packet.uipExtLen = 0) : RouteFound router packet destNode hops below := by
  have dest := getNode_nodeIpaddr route.dest
  have eight := cmpri_ge router hops dest
  have le := cmpri_le router packet.destipaddr hops
  have size : hopSize (srhSizes router packet.destipaddr hops).cmpri ≤ 8 := by
    unfold hopSize
    omega
  have small : hops.length * hopSize (srhSizes router packet.destipaddr hops).cmpri ≤ 240 :=
    (Nat.mul_le_mul short size).trans (by decide)
  have fit := srhSizes_fit router packet.destipaddr hops small
  have alone : hops.length = 0 →
      hopSize (srhSizes router packet.destipaddr hops).cmpri = 1 := by
    intro none
    rw [List.length_eq_zero_iff.mp none]
    rfl
  have extLen := fit.extLen_eq
  rw [← fit.padding_eq] at extLen
  rcases way with path | ⟨rfl, top, rfl⟩
  · have found := hopsBelow_pathTo path route.found
    have length : below.1.length = hops.length := by
      rw [found]
      simp
    refine ⟨⟨fit, small, alone, ?_, uncounted⟩, ?_, ?_, dest⟩
    · rw [length, extLen]
      omega
    · rw [found]
      unfold routePath
      rw [List.getElem?_reverse (by simp)]
      simp [List.getLast?_eq_getElem?]
    · intro index inside
      rw [found]
      unfold routePath
      rw [List.getElem?_reverse (by simpa using inside), List.length_cons,
        List.getElem?_dropLast, if_pos (by simp; omega)]
      congr 1
      omega
  · have found := route.found
    have below_eq : below = ([destNode], none) := by
      cases fuel : router.sr.nodememb.num with
      | zero => simp [fuel, hopsBelow, top] at found
      | succ fuel' =>
        rw [fuel, hopsBelow, if_neg (by simp [top]), top] at found
        obtain ⟨rest, left, rfl⟩ := Option.map_eq_some_iff.mp found
        cases fuel' <;>
          · obtain rfl := Option.some.inj left
            rfl
    subst below_eq
    refine ⟨⟨fit, small, alone, ?_, uncounted⟩, rfl, fun index inside => absurd inside (Nat.not_lt_zero index), dest⟩
    rw [extLen, alone rfl]
    simp only [List.length_cons, List.length_nil]
    omega

theorem RouteFound.start (found : RouteFound router packet destNode hops below) :
    let inserted := routed router packet destNode hops below
    SrhForm (srhSizes router packet.destipaddr hops).cmpri.toNat hops.length inserted ∧
      OnTheWay router (srhSizes router packet.destipaddr hops).cmpri.toNat
        (routePath destNode hops) inserted 0 inserted := by
  intro inserted
  have behind := found.behind
  obtain ⟨form, segments⟩ := @BehindFields.form router (srhSizes router packet.destipaddr hops)
    below.1 (below.2.getD (below.1.getLastD destNode)) hops.length packet behind
  refine ⟨form, ?_, ?_, ?_, ?_, fun _ _ _ _ => rfl, rfl, rfl⟩
  · intro node first
    obtain rfl := Option.some.inj (found.next.symm.trans first)
    exact placeSrh_dest
  · rw [routePath_length]
    exact congrArg (· + 0 + 1) segments
  · exact fun index _ below => absurd below (Nat.not_lt_zero index)
  · intro index node _ atNode
    have inside : index < hops.length := by
      have bound := (List.getElem?_eq_some_iff.mp atNode).1
      rw [routePath_length] at bound
      omega
    have ends := behind.hopsEnd
    have room := behind.behind
    have place : slot (srhSizes router packet.destipaddr hops).cmpri.toNat index =
        hopsEnd (srhSizes router packet.destipaddr hops) packet - (hops.length - 1 - index + 1) *
          (16 - (srhSizes router packet.destipaddr hops).cmpri.toNat) := by
      rw [ends]
      unfold slot
      obtain ⟨rest, total⟩ := Nat.exists_eq_add_of_lt inside
      rw [total, show index + rest + 1 - 1 - index + 1 = rest + 1 by omega,
        show index + rest + 1 = index + (rest + 1) by omega, Nat.add_mul]
      omega
    refine placeSrh_slot ?_ ((found.written index inside).trans atNode) place ?_
    · have whole : hopsEnd (srhSizes router packet.destipaddr hops) packet =
          packet.extBuf + (srhSizes router packet.destipaddr hops).extLen.toNat -
            (srhSizes router packet.destipaddr hops).padding.toNat := rfl
      omega
    · exact Nat.le_trans (by decide) (slot_ge _ index)

end

theorem srhTravel_succ {hops : Nat} : ∀ {start packet next : UipPacket},
    srhTravel hops start = some packet → rplExtHeaderSrhUpdate packet = some (true, next) →
    srhTravel (hops + 1) start = some next := by
  induction hops with
  | zero =>
    intro start packet next travelled updated
    obtain rfl := Option.some.inj travelled
    unfold srhTravel
    rw [updated]
    rfl
  | succ hops ih =>
    intro start packet next travelled updated
    unfold srhTravel at travelled ⊢
    split at travelled
    next first firstUpdate => exact ih travelled updated
    next => cases travelled

theorem OnTheWay.travel {router : RplRouter} {cmpr : Nat} {path : List Nat} {start : UipPacket}
    (form : SrhForm cmpr (path.length - 1) start) {shared : UipIpaddr}
    (shares : ∀ node ∈ path, SharePrefix cmpr (router.nodeIpaddr node) shared)
    (first : OnTheWay router cmpr path start 0 start) (done : Nat) (within : done < path.length) :
    ∃ packet, srhTravel done start = some packet ∧
      OnTheWay router cmpr path start done packet := by
  induction done with
  | zero => exact ⟨start, rfl, first⟩
  | succ done ih =>
    obtain ⟨packet, travelled, onTheWay⟩ := ih (by omega)
    obtain ⟨next, updated, further⟩ := onTheWay.next form shares within
    exact ⟨next, srhTravel_succ travelled updated, further⟩

theorem srhSwap_done {buf : Memory UInt8} (none : buf segLeftField = 0) :
    srhSwap buf uipIphLen = buf := by
  unfold srhSwap
  exact if_pos none

/-- The source route of a packet is followed: the nodes of the path are the destinations one after
the other, the payload and the size of the header stay as they are, and in the end the header
lists the nodes that were passed. -/
structure Delivered (router : RplRouter) (path : List Nat) (packet inserted : UipPacket) :
    Prop where
  visits : ∀ done node, path[done]? = some node → ∃ here, srhTravel done inserted = some here ∧
    here.destipaddr = router.nodeIpaddr node ∧ segLeft here + done + 1 = path.length
  keeps : ∀ done here, done < path.length → srhTravel done inserted = some here →
    here.uipLen = inserted.uipLen ∧ here.uipExtLen = inserted.uipExtLen ∧
      here.buf (uipIphLen + 1) = inserted.buf (uipIphLen + 1) ∧
      ∃ size, inserted.uipLen.toNat = packet.uipLen.toNat + size ∧
        ∀ address, uipIphLen ≤ address → address < packet.uipLen.toNat →
          here.buf (address + size) = packet.buf address
  arrives : ∃ last, srhTravel (path.length - 1) inserted = some last ∧
    last.destipaddr = packet.destipaddr ∧ segLeft last = 0 ∧
    rplExtHeaderSrhUpdate last = some (true, last) ∧
    srhPath last = path.dropLast.map fun node => (router.nodeIpaddr node).toList

theorem OnTheWay.srhPath {router : RplRouter} {cmpr : Nat} {path : List Nat}
    {start last : UipPacket} (onTheWay : OnTheWay router cmpr path start (path.length - 1) last)
    (form : SrhForm cmpr (path.length - 1) start) {shared : UipIpaddr}
    (shares : ∀ node ∈ path, SharePrefix cmpr (router.nodeIpaddr node) shared)
    (some_node : path ≠ []) :
    srhPath last = path.dropLast.map fun node => (router.nodeIpaddr node).toList := by
  have here := onTheWay.form form
  have cmpr_eq : srhCmpr last = cmpr := here.cmpri
  have length := List.length_pos_of_ne_nil some_node
  have small := form.cmpr_le
  unfold Rpl.srhPath
  rw [here.pathLen, cmpr_eq]
  apply List.ext_getElem?
  intro index
  by_cases inside : index < path.length - 1
  · have bound : index < path.length := by omega
    have atIndex : path[index]? = some path[index] := List.getElem?_eq_getElem bound
    obtain ⟨final, atLast⟩ : ∃ node, path[path.length - 1]? = some node :=
      ⟨_, List.getElem?_eq_getElem (by omega)⟩
    have dest : last.buf.read destipaddrField 16 = (router.nodeIpaddr final).toList := by
      rw [← readIpaddr_toList]
      exact congrArg Vector.toList (onTheWay.dest final atLast)
    have front : last.buf.read destipaddrField cmpr =
        (router.nodeIpaddr path[index]).toList.take cmpr := by
      rw [← Memory.read_take last.buf destipaddrField (show cmpr ≤ 16 by omega), dest]
      exact (shares final (List.mem_of_getElem? atLast)).trans
        (shares path[index] (List.mem_of_getElem? atIndex)).symm
    have back := onTheWay.passed index path[index] inside atIndex
    unfold slot at back
    simp only [List.getElem?_map, List.getElem?_range inside, Option.map_some,
      List.getElem?_dropLast, inside, ↓reduceIte, atIndex]
    rw [front, back]
    exact congrArg some (List.take_append_drop cmpr _)
  · rw [List.getElem?_eq_none, List.getElem?_eq_none]
    · simpa using inside
    · simpa using inside

theorem RootPath.hops_eq {sr : UipSr} {rootNode destNode fuel : Nat} {hops found : List Nat}
    (way : RootPath sr rootNode destNode hops)
    (above : hopsAbove sr rootNode fuel (sr.nodememb.mem destNode).parent = some found) :
    found = hops := by
  rcases way with path | ⟨rfl, top, rfl⟩
  · exact hopsAbove_pathTo path above
  · rw [top] at above
    cases fuel <;> exact (Option.some.inj above).symm

theorem source_route_delivered {router : RplRouter} {packet inserted : UipPacket}
    {destNode rootNode : Nat} {hops : List Nat} (ipv6 : LenMatches packet)
    (uncounted : packet.uipExtLen = 0)
    (inDag : router.rplIsAddrInOurDag packet.destipaddr = true)
    (dest : router.getNode packet.destipaddr = some destNode)
    (root : router.getNode router.node.currInstance.dag.dagId = some rootNode)
    (way : RootPath router.sr rootNode destNode hops) (short : hops.length ≤ 30)
    (succeeded : insertSrhHeader router packet = some (true, inserted)) :
    Delivered router (routePath destNode hops) packet inserted := by
  have header : uipIphLen ≤ packet.uipLen.toNat := Nat.le.intro ((Nat.add_comm _ _).trans ipv6)
  rcases insertSrh_cases succeeded with ⟨_, skipped⟩ | ⟨_, node, top, above, below, route, rfl⟩
  · rw [skipped rfl inDag] at dest
    cases dest
  obtain rfl := Option.some.inj (route.dest.symm.trans dest)
  obtain rfl := Option.some.inj (route.root.symm.trans root)
  obtain rfl := way.hops_eq route.above
  have found := route.routeFound way short uncounted
  obtain ⟨form, first⟩ := found.start
  have length := routePath_length node above
  have last : (routePath node above).length - 1 = above.length := by omega
  rw [← last] at form
  have shares : ∀ passed ∈ routePath node above, SharePrefix
      (srhSizes router packet.destipaddr above).cmpri.toNat (router.nodeIpaddr passed)
      packet.destipaddr := by
    intro passed member
    unfold routePath at member
    rcases List.mem_cons.mp (List.mem_reverse.mp member) with rfl | hop
    · rw [found.dest]
      exact rfl
    · exact cmpri_shares router packet.destipaddr hop
  have travel := OnTheWay.travel form shares first
  refine ⟨?_, ?_, ?_⟩
  · intro done passed atDone
    have bound := (List.getElem?_eq_some_iff.mp atDone).1
    obtain ⟨here, travelled, onTheWay⟩ := travel done bound
    exact ⟨here, travelled, onTheWay.dest passed atDone, onTheWay.segments⟩
  · intro done here bound travelled
    obtain ⟨_, again, onTheWay⟩ := travel done bound
    obtain rfl := Option.some.inj (travelled.symm.trans again)
    have size := found.behind.fit.extLen_eq
    have fits : SrhFits router packet above below := by
      have room := found.behind.behind
      have padding := found.behind.fit.padding_eq
      exact ⟨found.behind.small, by omega⟩
    have placed := routed_inserted route fits uncounted header
    refine ⟨onTheWay.uipLen, onTheWay.uipExtLen, ?_, _, placed.uipLen, ?_⟩
    · exact onTheWay.others _ (Or.inr (by decide)) (by decide) (Or.inl (by decide))
    · intro address after inside
      rw [← placed.moved address after inside]
      have taken : slot (srhSizes router packet.destipaddr above).cmpri.toNat above.length =
          48 + above.length * hopSize (srhSizes router packet.destipaddr above).cmpri := rfl
      have ip : uipIphLen = 40 := rfl
      have segField : segLeftField = 43 := rfl
      refine onTheWay.others _ (Or.inr (by omega)) (by omega) (Or.inr ?_)
      rw [last, taken]
      omega
  · obtain ⟨here, travelled, onTheWay⟩ := travel _ (show (routePath node above).length - 1 <
      (routePath node above).length by omega)
    have segments := onTheWay.segments
    have none : segLeft here = 0 := by omega
    refine ⟨here, travelled, ?_, none, ?_, ?_⟩
    · rw [onTheWay.dest node, found.dest]
      unfold routePath
      rw [List.getElem?_reverse (by simp)]
      simp
    · rw [(onTheWay.form form).update, srhSwap_done (UInt8.toNat_inj.mp none)]
    · exact onTheWay.srhPath form shares (by simp [routePath])

def chainAddr (host : UInt8) : UipIpaddr := hostAddr host

def chainNode (host : UInt8) (parent : Option Nat) : UipSrNode :=
  ⟨uipSrInfiniteLifetime, none, linkIdentifierOf (chainAddr host), parent⟩

def chainNodes : Nat → UipSrNode
  | 0 => chainNode 1 none
  | 1 => chainNode 2 (some 0)
  | 2 => chainNode 3 (some 1)
  | _ => chainNode 4 (some 2)

def chainRouter (prefixLength : UInt8) : RplRouter :=
  { bootRouter 1280 with
    node := { RplNode.boot 4 with
      currInstance := { rplInstanceZero with
        used := true
        dag := { rplInstanceZero.dag with dagId := chainAddr 1 } } }
    prefixLength := prefixLength
    sr := ⟨4, [0, 1, 2, 3], ⟨4, fun _ => 1, chainNodes⟩⟩ }

/-- A packet to the last node, with a destination-options header, which `uip_ext_len` counts, or
without. -/
def chainPacket (desto : Bool) : UipPacket :=
  let ext : List UInt8 := if desto then [uipProtoUdp, 0, uipExtHdrOptPadn, 4, 0, 0, 0, 0] else []
  let len := UInt8.ofNat ext.length
  ⟨Memory.write (fun _ => 0) 0 ([0x60, 0, 0, 0, 0, len + 8, if desto then uipProtoDesto else
    uipProtoUdp, 64] ++ (chainAddr 1).toList ++ (chainAddr 4).toList ++ ext ++
    [1, 2, 3, 4, 0, 8, 0, 0]), len.toUInt16 + 48, len⟩

theorem chain_path (prefixLength : UInt8) :
    RootPath (chainRouter prefixLength).sr 0 3 [2, 1] :=
  Or.inl (PathTo.up rfl (by decide) (PathTo.up rfl (by decide) (PathTo.child rfl)))

theorem chain_succeeds : (insertSrhHeader (chainRouter 64) (chainPacket false)).map Prod.fst =
    some true := by
  decide +kernel

theorem source_route_delivered_chain : ∃ inserted,
    insertSrhHeader (chainRouter 64) (chainPacket false) = some (true, inserted) ∧
      Delivered (chainRouter 64) (routePath 3 [2, 1]) (chainPacket false) inserted := by
  obtain ⟨⟨_, inserted⟩, ran, rfl⟩ := Option.map_eq_some_iff.mp chain_succeeds
  exact ⟨inserted, ran, source_route_delivered (by decide) rfl (by decide) (by decide) (by decide)
    (chain_path 64) (by decide) ran⟩

def srhPathAfter (done : Nat) (router : RplRouter) (packet : UipPacket) :
    Option (List (List UInt8)) :=
  (insertSrhHeader router packet).bind fun result => (srhTravel done result.2).map srhPath

/-- Two nodes are passed on the way, and the header has them in that order, not in the reverse one.
A destination that is not in the DAG, whose prefix is a whole address, gets no header at all, and a
header that is put behind one that is counted is not found by the first update. -/
theorem source_route_not_reversed :
    srhPathAfter 2 (chainRouter 64) (chainPacket false) =
        some [(chainAddr 2).toList, (chainAddr 3).toList] ∧
      (¬ ∀ router packet inserted destNode rootNode hops, LenMatches packet →
        router.getNode packet.destipaddr = some destNode →
        router.getNode router.node.currInstance.dag.dagId = some rootNode →
        RootPath router.sr rootNode destNode hops → hops.length ≤ 30 →
        insertSrhHeader router packet = some (true, inserted) →
        ∃ last, srhTravel hops.length inserted = some last ∧
          (srhPath last).reverse =
            (routePath destNode hops).dropLast.map fun node =>
              (router.nodeIpaddr node).toList) ∧
      srhPathAfter 1 (chainRouter 128) (chainPacket false) = none ∧
      srhPathAfter 1 (chainRouter 64) (chainPacket true) = none := by
  have order : srhPathAfter 2 (chainRouter 64) (chainPacket false) =
      some [(chainAddr 2).toList, (chainAddr 3).toList] := by decide +kernel
  refine ⟨order, ?_, by decide +kernel, by decide +kernel⟩
  intro always
  obtain ⟨⟨succeeded, inserted⟩, ran, after⟩ := Option.bind_eq_some_iff.mp order
  have succeeds := chain_succeeds
  rw [ran] at succeeds
  obtain rfl := Option.some.inj succeeds
  obtain ⟨last, travelled, listed⟩ := Option.map_eq_some_iff.mp after
  obtain ⟨other, again, reversed⟩ := always (chainRouter 64) (chainPacket false) inserted 3 0 [2, 1]
    (by decide) (by decide) (by decide) (chain_path 64) (by decide) ran
  obtain rfl := Option.some.inj (travelled.symm.trans again)
  rw [listed] at reversed
  exact absurd reversed (by decide)

end MultiPhyTsch.Rpl
