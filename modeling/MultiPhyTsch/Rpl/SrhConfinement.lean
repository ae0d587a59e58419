import MultiPhyTsch.Rpl.SrhPath

/-! What the update of a received routing header touches of the packet. The index of the next
address is computed from fields that nobody has compared, so that it may lie beyond the header. -/

namespace MultiPhyTsch.Rpl

open MultiPhyTsch.Ipv6

section

variable (buf : Memory UInt8) (rh : Nat)

def srhLen : Nat := (buf (rh + 1)).toNat
def srhSegLeft : Nat := (buf (rh + 3)).toNat
def srhCmpri : Nat := (buf (rh + rplRhLen) >>> 4).toNat
def srhCmpre : Nat := (buf (rh + rplRhLen) &&& 0x0f).toNat
def srhPad : Nat := (buf (rh + rplRhLen + 1) >>> 4).toNat

def InSrh (address : Nat) : Prop := rh ≤ address ∧ address < rh + 8 * (srhLen buf rh + 1)

def InDest (address : Nat) : Prop := destipaddrField ≤ address ∧ address < uipIphLen

def srhIndex : Nat :=
  ((((8 * (srhLen buf rh + 1) % 256 : Nat) - (srhPad buf rh : Int) - 8 -
    (16 - (srhCmpre buf rh : Int))).tdiv (16 - (srhCmpri buf rh : Int)) + 1 -
      srhSegLeft buf rh) % 256).toNat

def srhHop : Nat := 16 - if srhSegLeft buf rh = 1 then srhCmpre buf rh else srhCmpri buf rh

def HopInside : Prop :=
  srhSegLeft buf rh = 0 ∨
    8 + srhIndex buf rh * (16 - srhCmpri buf rh) + srhHop buf rh ≤ 8 * (srhLen buf rh + 1)

/-- Whatever else stands in the buffer, the update changes nothing but the header and the
destination, and reads nothing else for that. -/
def Confined : Prop :=
  ∀ other : Memory UInt8, (∀ address, InSrh buf rh address → other address = buf address) →
    (∀ address, ¬ InSrh buf rh address → ¬ InDest address →
      srhSwap other rh address = other address) ∧
    ∀ third : Memory UInt8,
      (∀ address, InSrh buf rh address ∨ InDest address → third address = other address) →
      ∀ address, InSrh buf rh address ∨ InDest address →
        srhSwap third rh address = srhSwap other rh address

def srhAddr : Nat := rh + 8 + srhIndex buf rh * (16 - srhCmpri buf rh)

end

variable {buf : Memory UInt8} {rh : Nat}

theorem nibble_le (byte : UInt8) : (byte >>> 4).toNat ≤ 15 ∧ (byte &&& 0x0f).toNat ≤ 15 := by
  constructor
  · have bound := UInt8.toNat_lt byte
    have four : (4 : UInt8).toNat % 8 = 4 := rfl
    rw [UInt8.toNat_shiftRight, four, Nat.shiftRight_eq_div_pow]
    omega
  · rw [UInt8.toNat_and]
    exact Nat.and_le_right

theorem srhCmpri_le (buf : Memory UInt8) (rh : Nat) : srhCmpri buf rh ≤ 15 := (nibble_le _).1

theorem srhHop_bounds (buf : Memory UInt8) (rh : Nat) : 1 ≤ srhHop buf rh ∧ srhHop buf rh ≤ 16 := by
  have high := srhCmpri_le buf rh
  have low : srhCmpre buf rh ≤ 15 := (nibble_le _).2
  unfold srhHop
  split
  next => omega
  next => omega

theorem byteOfInt_toNat (value : Int) : ((UInt8.ofInt value).toNat : Int) = value % 256 := by
  have positive := Int.emod_nonneg value (show (256 : Int) ≠ 0 by decide)
  have below := Int.emod_lt_of_pos value (show (0 : Int) < 256 by decide)
  simp only [UInt8.ofInt, UInt8.toNat_ofNat']
  omega

theorem sub_toNat_emod (left right : UInt8) :
    ((left - right).toNat : Int) = ((left.toNat : Int) - right.toNat) % 256 := by
  have leftBound := UInt8.toNat_lt left
  have rightBound := UInt8.toNat_lt right
  rw [UInt8.toNat_sub]
  omega

theorem srhIndex_eq (buf : Memory UInt8) (rh : Nat) :
    (srhPathLen (buf (rh + 1) * 8 + 8) (buf (rh + rplRhLen + 1) >>> 4) (buf (rh + rplRhLen) >>> 4)
      (buf (rh + rplRhLen) &&& 0x0f) - buf (rh + 3)).toNat = srhIndex buf rh := by
  have bound := UInt8.toNat_lt (buf (rh + 1))
  have eight : (8 : UInt8).toNat = 8 := rfl
  have extLen : (buf (rh + 1) * 8 + 8).toNat = 8 * (srhLen buf rh + 1) % 256 := by
    unfold srhLen
    rw [UInt8.toNat_add, UInt8.toNat_mul, eight]
    omega
  have fixed : ∀ size : Int, size - ((rplRhLen : Nat) : Int) - ((rplSrhLen : Nat) : Int) =
      size - 8 := by
    intro size
    simp only [rplRhLen, rplSrhLen]
    omega
  have pathLen : ((srhPathLen (buf (rh + 1) * 8 + 8) (buf (rh + rplRhLen + 1) >>> 4)
      (buf (rh + rplRhLen) >>> 4) (buf (rh + rplRhLen) &&& 0x0f)).toNat : Int) =
      (((8 * (srhLen buf rh + 1) % 256 : Nat) - (srhPad buf rh : Int) - 8 -
        (16 - (srhCmpre buf rh : Int))).tdiv (16 - (srhCmpri buf rh : Int)) + 1) % 256 := by
    unfold srhPathLen
    rw [byteOfInt_toNat, extLen, fixed]
    rfl
  have once : ∀ left right : Int, (left % 256 - right) % 256 = (left - right) % 256 := by
    intro left right
    omega
  have index := sub_toNat_emod (srhPathLen (buf (rh + 1) * 8 + 8) (buf (rh + rplRhLen + 1) >>> 4)
    (buf (rh + rplRhLen) >>> 4) (buf (rh + rplRhLen) &&& 0x0f)) (buf (rh + 3))
  rw [pathLen, once] at index
  exact (Int.toNat_natCast _).symm.trans (congrArg Int.toNat index)

theorem srhSwap_eq (more : srhSegLeft buf rh ≠ 0) :
    srhSwap buf rh =
      ((moveBytes buf (uipIphLen - srhHop buf rh) (srhAddr buf rh) (srhHop buf rh)).write
        (srhAddr buf rh) (buf.read (uipIphLen - srhHop buf rh) (srhHop buf rh))).write (rh + 3)
          [buf (rh + 3) - 1] := by
  have positive : buf (rh + 3) ≠ 0 := fun zero => more (congrArg UInt8.toNat zero)
  have cmpr : (if buf (rh + 3) = 1 then buf (rh + rplRhLen) &&& 0x0f
      else buf (rh + rplRhLen) >>> 4).toNat =
        if srhSegLeft buf rh = 1 then srhCmpre buf rh else srhCmpri buf rh := by
    by_cases last : buf (rh + 3) = 1
    · rw [if_pos last, if_pos (show srhSegLeft buf rh = 1 from congrArg UInt8.toNat last)]
      rfl
    · have other : srhSegLeft buf rh ≠ 1 := fun one => last (UInt8.toNat_inj.mp one)
      rw [if_neg last, if_neg other]
      rfl
  have bounds := srhHop_bounds buf rh
  have hop : srhHop buf rh = 16 -
      if srhSegLeft buf rh = 1 then srhCmpre buf rh else srhCmpri buf rh := rfl
  have dest : destipaddrField = 24 := rfl
  have ip : uipIphLen = 40 := rfl
  generalize (if srhSegLeft buf rh = 1 then srhCmpre buf rh else srhCmpri buf rh) = shared
    at cmpr hop
  have start : destipaddrField + shared = uipIphLen - srhHop buf rh := by omega
  have unfolded : srhSwap buf rh = if buf (rh + 3) = 0 then buf else
      ((moveBytes buf (destipaddrField + (if buf (rh + 3) = 1 then buf (rh + rplRhLen) &&& 0x0f
          else buf (rh + rplRhLen) >>> 4).toNat)
        (rh + rplRhLen + rplSrhLen + (srhPathLen (buf (rh + 1) * 8 + 8)
          (buf (rh + rplRhLen + 1) >>> 4) (buf (rh + rplRhLen) >>> 4)
          (buf (rh + rplRhLen) &&& 0x0f) - buf (rh + 3)).toNat *
            (16 - (buf (rh + rplRhLen) >>> 4).toNat))
        (16 - (if buf (rh + 3) = 1 then buf (rh + rplRhLen) &&& 0x0f
          else buf (rh + rplRhLen) >>> 4).toNat)).write
        (rh + rplRhLen + rplSrhLen + (srhPathLen (buf (rh + 1) * 8 + 8)
          (buf (rh + rplRhLen + 1) >>> 4) (buf (rh + rplRhLen) >>> 4)
          (buf (rh + rplRhLen) &&& 0x0f) - buf (rh + 3)).toNat *
            (16 - (buf (rh + rplRhLen) >>> 4).toNat))
        ((buf.read destipaddrField 16).drop (if buf (rh + 3) = 1 then buf (rh + rplRhLen) &&& 0x0f
          else buf (rh + rplRhLen) >>> 4).toNat)).write (rh + 3) [buf (rh + 3) - 1] := rfl
  have source : rh + rplRhLen + rplSrhLen + srhIndex buf rh *
      (16 - (buf (rh + rplRhLen) >>> 4).toNat) = srhAddr buf rh := rfl
  rw [unfolded, if_neg positive, cmpr, srhIndex_eq, source, start, ← hop, Memory.read_drop, start,
    ← hop]

theorem srhSwap_none (done : srhSegLeft buf rh = 0) : srhSwap buf rh = buf := by
  have zero : buf (rh + 3) = 0 := UInt8.toNat_inj.mp done
  unfold srhSwap
  dsimp only
  rw [if_pos zero]

theorem srhSwap_cell (more : srhSegLeft buf rh ≠ 0) (address : Nat) :
    srhSwap buf rh address =
      if address = rh + 3 then buf (rh + 3) - 1
      else if srhAddr buf rh ≤ address ∧ address < srhAddr buf rh + srhHop buf rh then
        buf (uipIphLen - srhHop buf rh + (address - srhAddr buf rh))
      else if uipIphLen - srhHop buf rh ≤ address ∧ address < uipIphLen then
        buf (srhAddr buf rh + (address - (uipIphLen - srhHop buf rh)))
      else buf address := by
  have bounds := srhHop_bounds buf rh
  have ip : uipIphLen = 40 := rfl
  rw [srhSwap_eq more]
  split
  next here =>
    subst here
    exact Memory.write_cell _ _ _
  next other =>
    rw [Memory.write_cell_other _ _ other]
    split
    next inside =>
      refine Memory.write_inside _ inside.1 ?_
      exact Memory.read_getElem? _ (by omega)
    next outside =>
      have unwritten : (moveBytes buf (uipIphLen - srhHop buf rh) (srhAddr buf rh)
          (srhHop buf rh)).write (srhAddr buf rh)
          (buf.read (uipIphLen - srhHop buf rh) (srhHop buf rh)) address =
          moveBytes buf (uipIphLen - srhHop buf rh) (srhAddr buf rh) (srhHop buf rh) address := by
        rcases Nat.lt_or_ge address (srhAddr buf rh) with before | after
        · exact Memory.write_before _ _ before
        · exact Memory.write_after _ (by rw [Memory.read_length]; omega)
      rw [unwritten]
      split
      next inDest =>
        refine Memory.write_inside _ inDest.1 ?_
        exact Memory.read_getElem? _ (by omega)
      next notDest =>
        rcases Nat.lt_or_ge address (uipIphLen - srhHop buf rh) with before | after
        · exact Memory.write_before _ _ before
        · exact Memory.write_after _ (by rw [Memory.read_length]; omega)

theorem inSrh_field (buf : Memory UInt8) {rh offset : Nat} (fixed : offset < 8) :
    InSrh buf rh (rh + offset) := by
  unfold InSrh
  omega

theorem fields_agree {other : Memory UInt8}
    (same : ∀ address, InSrh buf rh address → other address = buf address) :
    srhLen other rh = srhLen buf rh ∧ srhSegLeft other rh = srhSegLeft buf rh ∧
      srhHop other rh = srhHop buf rh ∧ srhAddr other rh = srhAddr buf rh := by
  have cell : ∀ offset, offset < 8 → other (rh + offset) = buf (rh + offset) :=
    fun offset fixed => same _ (inSrh_field buf fixed)
  have len : srhLen other rh = srhLen buf rh := congrArg UInt8.toNat (cell 1 (by decide))
  have segLeft : srhSegLeft other rh = srhSegLeft buf rh :=
    congrArg UInt8.toNat (cell 3 (by decide))
  have cmpr : other (rh + rplRhLen) = buf (rh + rplRhLen) := cell 4 (by decide)
  have pad : other (rh + rplRhLen + 1) = buf (rh + rplRhLen + 1) := cell 5 (by decide)
  have cmpri : srhCmpri other rh = srhCmpri buf rh := by
    unfold srhCmpri
    rw [cmpr]
  have cmpre : srhCmpre other rh = srhCmpre buf rh := by
    unfold srhCmpre
    rw [cmpr]
  have padSame : srhPad other rh = srhPad buf rh := by
    unfold srhPad
    rw [pad]
  refine ⟨len, segLeft, ?_, ?_⟩
  · unfold srhHop
    rw [segLeft, cmpri, cmpre]
  · unfold srhAddr srhIndex
    rw [len, segLeft, cmpri, cmpre, padSame]

theorem hopInside_of_confined (behind : uipIphLen ≤ rh) (confined : Confined buf rh) :
    HopInside buf rh := by
  by_contra outside
  unfold HopInside at outside
  rw [not_or] at outside
  obtain ⟨more, beyond⟩ := outside
  have bounds := srhHop_bounds buf rh
  have ip : uipIphLen = 40 := rfl
  have dest : destipaddrField = 24 := rfl
  have addr : srhAddr buf rh = rh + 8 + srhIndex buf rh * (16 - srhCmpri buf rh) := rfl
  generalize last_eq : srhAddr buf rh + (srhHop buf rh - 1) = last
  have notHeader : ¬ InSrh buf rh last := by
    unfold InSrh
    omega
  have notDest : ¬ InDest last := by
    unfold InDest
    omega
  have same : ∀ address, InSrh buf rh address →
      (buf.write last [buf (uipIphLen - 1) + 1]) address = buf address := by
    intro address inside
    refine Memory.write_cell_other _ _ ?_
    rintro rfl
    exact notHeader inside
  obtain ⟨_, segLeft, hop, place⟩ := fields_agree same
  have written := (confined _ same).1 last notHeader notDest
  rw [srhSwap_cell (segLeft ▸ more), hop, place, if_neg (by omega), if_pos (by omega),
    Memory.write_cell, Memory.write_cell_other _ _ (by omega),
    show uipIphLen - srhHop buf rh + (last - srhAddr buf rh) = uipIphLen - 1 by omega] at written
  have value := congrArg UInt8.toNat written
  have one : (1 : UInt8).toNat = 1 := rfl
  rw [UInt8.toNat_add, one] at value
  omega

theorem confined_of_hopInside (inside : HopInside buf rh) : Confined buf rh := by
  intro other same
  obtain ⟨_, segLeft, hop, place⟩ := fields_agree same
  by_cases done : srhSegLeft buf rh = 0
  · refine ⟨fun address _ _ => congrFun (srhSwap_none (segLeft.trans done)) address, ?_⟩
    intro third again address covered
    have thirdSame : ∀ address, InSrh buf rh address → third address = buf address :=
      fun address inHeader => (again address (Or.inl inHeader)).trans (same address inHeader)
    rw [srhSwap_none (segLeft.trans done), srhSwap_none ((fields_agree thirdSame).2.1.trans done)]
    exact again address covered
  · have within := inside.resolve_left done
    have bounds := srhHop_bounds buf rh
    have ip : uipIphLen = 40 := rfl
    have dest : destipaddrField = 24 := rfl
    have addr : srhAddr buf rh = rh + 8 + srhIndex buf rh * (16 - srhCmpri buf rh) := rfl
    have count : InSrh buf rh (rh + 3) := inSrh_field buf (by decide)
    have header : ∀ address, srhAddr buf rh ≤ address →
        address < srhAddr buf rh + srhHop buf rh → InSrh buf rh address := by
      intro address after before
      unfold InSrh
      omega
    constructor
    · intro address notHeader notDest
      have notCount : address ≠ rh + 3 := fun here => notHeader (here ▸ count)
      have notHop : ¬ (srhAddr buf rh ≤ address ∧ address < srhAddr buf rh + srhHop buf rh) :=
        fun within => notHeader (header address within.1 within.2)
      have notSwapped : ¬ (uipIphLen - srhHop buf rh ≤ address ∧ address < uipIphLen) :=
        fun within => notDest ⟨by omega, within.2⟩
      rw [srhSwap_cell (segLeft ▸ done), hop, place, if_neg notCount, if_neg notHop,
        if_neg notSwapped]
    · intro third again address covered
      have thirdSame : ∀ address, InSrh buf rh address → third address = buf address :=
        fun address inHeader => (again address (Or.inl inHeader)).trans (same address inHeader)
      obtain ⟨_, thirdLeft, thirdHop, thirdPlace⟩ := fields_agree thirdSame
      rw [srhSwap_cell (thirdLeft ▸ done), srhSwap_cell (segLeft ▸ done), hop, place, thirdHop,
        thirdPlace, again _ (Or.inl count)]
      split
      next => rfl
      next =>
        split
        next => exact again _ (Or.inr ⟨by omega, by omega⟩)
        next =>
          split
          next => exact again _ (Or.inl (header _ (by omega) (by omega)))
          next => exact again _ covered

theorem ext_behind (search : HeaderSearch) : uipIphLen ≤ search.ext := Nat.le_add_right _ _

theorem rplExtHeaderSrhUpdate_confined {packet : UipPacket} {search : HeaderSearch}
    (found : findRoutingHeader packet.buf = some search) (srh : isSrh packet.buf search = true) :
    rplExtHeaderSrhUpdate packet =
        some (true, { packet with buf := srhSwap packet.buf search.ext }) ∧
      (Confined packet.buf search.ext ↔ HopInside packet.buf search.ext) := by
  refine ⟨?_, hopInside_of_confined (ext_behind search), confined_of_hopInside⟩
  unfold rplExtHeaderSrhUpdate
  rw [found, Option.map_some, if_pos srh]

end MultiPhyTsch.Rpl
