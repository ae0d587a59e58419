import MultiPhyTsch.Lib.Loop
import MultiPhyTsch.Lowpan.UncompressReads

/-! The next headers that follow IPHC: which bytes of a frame they take, and which bytes of the
packet they become. -/

namespace MultiPhyTsch.Lowpan

structure NhcPlace where
  hc06 : Nat
  nhc : Bool
  dest : Nat
  headers : Nat
deriving DecidableEq, Repr

def extSize (len : Nat) : Nat := ((UInt8.ofNat ((2 + len) / 8) - 1).toNat + 1) * 8

def portsLen (form : UInt8) : Nat :=
  if form &&& nhcUdpCsP11 = nhcUdpCsP00 then 5
  else if form &&& nhcUdpCsP11 = nhcUdpCsP11 then 2 else 4

def udpHdrLen (form : UInt8) : Nat :=
  portsLen form + if form &&& nhcUdpChecksumc ≠ 0 then 0 else 2

namespace NhcPlace

variable (mem : Memory UInt8) (place : NhcPlace)

def isExtHdr : Prop := place.nhc = true ∧ mem place.hc06 &&& nhcMask = nhcExtHdr

def isUdp : Prop := place.nhc = true ∧ mem place.hc06 &&& nhcUdpMask = nhcUdpId

def supported : Prop := (extHdrProto ((mem place.hc06 &&& 0x0e) >>> 1)).isSome = true

instance : Decidable (place.isExtHdr mem) := inferInstanceAs (Decidable (_ ∧ _))

instance : Decidable (place.isUdp mem) := inferInstanceAs (Decidable (_ ∧ _))

instance : Decidable (place.supported mem) := inferInstanceAs (Decidable (_ = _))

def lenAt : Nat := place.hc06 + if mem place.hc06 &&& 0x01 = 0 then 2 else 1

def extLen : Nat := (mem (place.lenAt mem)).toNat

def next : Option NhcPlace :=
  if place.isExtHdr mem ∧ place.supported mem then
    some
      { hc06 := place.lenAt mem + 1 + place.extLen mem
        nhc := mem place.hc06 &&& 0x01 ≠ 0
        dest := place.dest + extSize (place.extLen mem)
        headers := (place.headers + extSize (place.extLen mem)) % 256 }
  else none

structure ExtWhole (limit : Nat) : Prop where
  form : place.nhc = true → place.hc06 < limit
  extHdr : place.isExtHdr mem → place.lenAt mem < limit ∧
    (place.supported mem → place.lenAt mem + 1 + place.extLen mem ≤ limit)

structure Whole (limit : Nat) : Prop extends place.ExtWhole mem limit where
  udp : place.isUdp mem → place.hc06 + udpHdrLen (mem place.hc06) ≤ limit

structure Fits (size : Nat) : Prop where
  extHdr : place.isExtHdr mem → place.supported mem → place.dest + 2 + place.extLen mem ≤ size
  udp : place.isUdp mem →
    place.dest + (if mem place.hc06 &&& nhcUdpChecksumc ≠ 0 then 6 else 8) ≤ size

/-- `packetbuf_hdr_len` and `uncomp_hdr_len` when the headers end at the place. -/
def left (packetbufHdrLen : Nat) : Nat × Nat :=
  if place.isExtHdr mem then (packetbufHdrLen, place.headers)
  else if place.isUdp mem then
    ((place.hc06 + udpHdrLen (mem place.hc06)) % 256, (place.headers + uipUdphLen) % 256)
  else (place.hc06 % 256, place.headers)

def start (nhc : Bool) (hc06 : Nat) : NhcPlace := ⟨hc06, nhc, uipIphLen, uipIphLen⟩

theorem isExtHdr_or_isUdp (ext : place.isExtHdr mem) : ¬ place.isUdp mem := by
  intro udp
  have masks : mem place.hc06 &&& nhcUdpMask &&& nhcMask = mem place.hc06 &&& nhcMask := by
    rw [UInt8.and_assoc]
    rfl
  rw [udp.2, ext.2] at masks
  exact absurd masks (by decide)

end NhcPlace

namespace Reading

def NhcState.place (state : NhcState) : NhcPlace :=
  ⟨state.hc06, state.nhc, state.ipPayload, state.uncompHdrLen⟩

end Reading

section

variable {mem : Memory UInt8} {state : Reading.NhcState}

theorem lenAt_eq : state.place.lenAt mem =
    state.hc06 + if mem state.hc06 &&& 0x01 = 0 then 2 else 1 := rfl

theorem extHdrNext_next : ((Reading.extHdrNext (mem state.hc06 &&& 0x01) (state.hc06 + 1)).value
    mem).2 = state.place.lenAt mem := by
  rw [lenAt_eq, Reading.extHdrNext, Reads.value_ite, Reads.value_bind, Reads.value_pure,
    Reads.value_pure]
  split
  · rfl
  · rfl

theorem below_extHdrNext (limit : Nat) :
    (Reading.extHdrNext (mem state.hc06 &&& 0x01) (state.hc06 + 1)).Below mem limit ↔
      (mem state.hc06 &&& 0x01 = 0 → state.hc06 + 1 < limit) := by
  simp only [Reading.extHdrNext, Reads.below_ite, Reads.below_bind, Reads.below_element,
    Reads.below_pure, and_true, implies_true]

theorem below_uncompressExtHdr (limit : Nat) :
    (Reading.uncompressExtHdr state).Below mem limit ↔
      state.place.lenAt mem < limit ∧
        (state.place.supported mem →
          state.place.lenAt mem + 1 + state.place.extLen mem ≤ limit) := by
  have front : state.hc06 < state.place.lenAt mem ∧
      (mem state.hc06 &&& 0x01 = 0 → state.hc06 + 1 < state.place.lenAt mem) := by
    rw [lenAt_eq]
    split
    next inlined => exact ⟨by omega, fun _ => by omega⟩
    next absent => exact ⟨by omega, fun inlined => absurd inlined absent⟩
  have data : ∀ proto : Option UInt8, proto = extHdrProto ((mem state.hc06 &&& 0x0e) >>> 1) →
      (state.place.supported mem ↔ proto.isSome = true) := by
    rintro proto rfl
    exact Iff.rfl
  unfold Reading.uncompressExtHdr
  rw [Reads.below_bind, Reads.below_element, Reads.value_element, Reads.below_bind,
    below_extHdrNext, Reads.below_bind, Reads.below_element, Reads.value_element, extHdrNext_next]
  cases kind : extHdrProto ((mem state.hc06 &&& 0x0e) >>> 1) with
  | none =>
    have unsupported : ¬ state.place.supported mem := by
      rw [data none kind.symm]
      exact Bool.noConfusion
    simp only [Reads.below_pure, and_true]
    constructor
    · rintro ⟨-, -, len⟩
      exact ⟨len, fun supported => absurd supported unsupported⟩
    · rintro ⟨len, -⟩
      exact ⟨by omega, fun inlined => by have := front.2 inlined; omega, len⟩
  | some proto =>
    have supported : state.place.supported mem := (data (some proto) kind.symm).mpr rfl
    rw [imp_iff_right supported, Reads.below_bind, Reads.below_elements]
    have len : (mem (state.place.lenAt mem)).toNat = state.place.extLen mem := rfl
    rw [len]
    simp only [Reads.below_pure, and_true]
    constructor
    · rintro ⟨-, -, read, bytes⟩
      exact ⟨read, by omega⟩
    · rintro ⟨read, bytes⟩
      exact ⟨by omega, fun inlined => by have := front.2 inlined; omega, read, fun _ => bytes⟩

theorem uncompressExtHdr_none (unsupported : ¬ state.place.supported mem) :
    (Reading.uncompressExtHdr state).value mem = none := by
  unfold Reading.uncompressExtHdr
  rw [Reads.value_bind, Reads.value_element, Reads.value_bind, Reads.value_bind]
  cases kind : extHdrProto ((mem state.hc06 &&& 0x0e) >>> 1) with
  | none => rfl
  | some proto =>
    refine absurd ?_ unsupported
    exact congrArg Option.isSome kind

def AllWithin (size : Nat) (written : List (Patch UInt8)) : Prop :=
  ∀ patch ∈ written, patch.Within size

theorem allWithin_append {size : Nat} (first second : List (Patch UInt8)) :
    AllWithin size (first ++ second) ↔ AllWithin size first ∧ AllWithin size second :=
  List.forall_mem_append

theorem allWithin_cons {size : Nat} (patch : Patch UInt8) (rest : List (Patch UInt8)) :
    AllWithin size (patch :: rest) ↔ patch.Within size ∧ AllWithin size rest :=
  List.forall_mem_cons

theorem allWithin_nil (size : Nat) : AllWithin size [] :=
  fun _ absent => absurd absent List.not_mem_nil

theorem lenAt_pos : state.hc06 < state.place.lenAt mem := by
  rw [lenAt_eq]
  split <;> omega

theorem uncompressExtHdr_some (ext : state.place.isExtHdr mem)
    (supported : state.place.supported mem) :
    ∃ after, (Reading.uncompressExtHdr state).value mem = some after ∧ state.hc06 < after.hc06 ∧
      state.place.next mem = some after.place ∧ after.lastNextheader = state.ipPayload ∧
      (∀ patch ∈ state.written, patch ∈ after.written) ∧
      ∀ size, state.lastNextheader < size → (AllWithin size after.written ↔
        AllWithin size state.written ∧ state.ipPayload + 2 + state.place.extLen mem ≤ size) := by
  obtain ⟨proto, kind⟩ := Option.isSome_iff_exists.mp supported
  have kind : extHdrProto ((mem state.hc06 &&& 0x0e) >>> 1) = some proto := kind
  have next : state.place.next mem = some
      ⟨state.place.lenAt mem + 1 + state.place.extLen mem, mem state.hc06 &&& 0x01 ≠ 0,
        state.ipPayload + extSize (state.place.extLen mem),
        (state.uncompHdrLen + extSize (state.place.extLen mem)) % 256⟩ := if_pos ⟨ext, supported⟩
  have len : (mem (state.place.lenAt mem)).toNat = state.place.extLen mem := rfl
  rw [next]
  unfold Reading.uncompressExtHdr
  rw [Reads.value_bind, Reads.value_element, Reads.value_bind, Reads.value_bind,
    Reads.value_element, extHdrNext_next, kind]
  dsimp only
  rw [Reads.value_bind, Reads.value_pure, len]
  have ahead := @lenAt_pos mem state
  refine ⟨_, rfl, by dsimp only; omega, rfl, rfl, fun patch member => List.mem_append_left _ member,
    fun size last => ?_⟩
  dsimp only
  rw [allWithin_append]
  refine and_congr_right fun _ => ?_
  simp only [allWithin_cons, Patch.within_iff, List.length_singleton, Vector.length_toList]
  constructor
  · rintro ⟨-, exthdrLen, -, bytes, -⟩
    have exthdrLen := exthdrLen (by decide)
    by_cases none : state.place.extLen mem = 0
    · omega
    · exact bytes none
  · intro fits
    exact ⟨fun _ => by omega, fun _ => by omega, fun _ => by omega, fun _ => by omega,
      allWithin_nil size⟩

/-- How the loop over the extension headers ends: at the last place of the chain, with the pieces of
all the supported extension headers written. -/
structure ExtHdrsEnd (mem : Memory UInt8) (state ended : Reading.NhcState) (supported : Bool) :
    Prop where
  visits : Loop.Visits (NhcPlace.next mem) state.place ended.place
  left : ended.place.next mem = none
  supported : supported = false ↔ ended.place.isExtHdr mem
  kept : ∀ patch ∈ state.written, patch ∈ ended.written
  written : ∀ size, state.lastNextheader < size → (AllWithin size ended.written ↔
    AllWithin size state.written ∧
      ∀ place, Loop.Visits (NhcPlace.next mem) state.place place → place.isExtHdr mem →
        place.supported mem → place.dest + 2 + place.extLen mem ≤ size)
  lastNextheader : ∀ size, state.lastNextheader < size → AllWithin size ended.written →
    ended.lastNextheader < size

theorem ExtHdrsEnd.here {supported : Bool} (left : state.place.next mem = none)
    (flag : supported = false ↔ state.place.isExtHdr mem) :
    ExtHdrsEnd mem state state supported where
  visits := .start
  left := left
  supported := flag
  kept := fun _ member => member
  written := by
    intro size last
    rw [and_iff_left]
    intro place visits ext known
    rcases Loop.visits_cases visits with rfl | ⟨next, stepped, -⟩
    · exact absurd ((if_pos ⟨ext, known⟩).symm.trans left) (Option.some_ne_none _)
    · rw [left] at stepped
      cases stepped
  lastNextheader := fun _ last _ => last

theorem ExtHdrsEnd.behind {after ended : Reading.NhcState} {supported : Bool}
    (rest : ExtHdrsEnd mem after ended supported) (ext : state.place.isExtHdr mem)
    (known : state.place.supported mem) (next : state.place.next mem = some after.place)
    (last : after.lastNextheader = state.ipPayload)
    (kept : ∀ patch ∈ state.written, patch ∈ after.written)
    (written : ∀ size, state.lastNextheader < size → (AllWithin size after.written ↔
      AllWithin size state.written ∧ state.ipPayload + 2 + state.place.extLen mem ≤ size)) :
    ExtHdrsEnd mem state ended supported where
  visits := rest.visits.from_next next
  left := rest.left
  supported := rest.supported
  kept := fun patch member => rest.kept patch (kept patch member)
  written := by
    intro size inside
    have written := written size inside
    have first : (state.place.isExtHdr mem → state.place.supported mem →
        state.place.dest + 2 + state.place.extLen mem ≤ size) ↔
          state.ipPayload + 2 + state.place.extLen mem ≤ size :=
      ⟨fun fits => fits ext known, fun fits _ _ => fits⟩
    rw [Loop.forall_visits_iff, next, first]
    simp only [Option.some.injEq, forall_eq']
    by_cases fits : state.ipPayload + 2 + state.place.extLen mem ≤ size
    · rw [rest.written size (by omega), written]
      simp only [fits, and_true, true_and]
    · refine iff_of_false (fun all => fits ?_) fun both => fits both.2.1
      exact (written.mp fun patch member => all patch (rest.kept patch member)).2
  lastNextheader := by
    intro size inside all
    have fits := ((written size inside).mp fun patch member => all patch (rest.kept patch member)).2
    exact rest.lastNextheader size (by omega) all

/-- Once an extension header is next, UDP comes at the end of the chain only. -/
theorem ExtHdrsEnd.udp_last {ended : Reading.NhcState} {supported : Bool} {place : NhcPlace}
    (rest : ExtHdrsEnd mem state ended supported)
    (visited : Loop.Visits (NhcPlace.next mem) state.place place) (udp : place.isUdp mem) :
    place = ended.place := by
  refine rest.visits.last_unique rest.left visited (if_neg fun both => ?_)
  exact place.isExtHdr_or_isUdp mem both.1 udp

theorem uncompressExtHdrs_spec {bytesLen : Nat} (zero : ∀ index, bytesLen ≤ index → mem index = 0)
    (limit rounds : Nat) : ∀ state : Reading.NhcState, bytesLen - state.hc06 + 1 ≤ rounds →
      ((Reading.uncompressExtHdrs rounds state).Below mem limit ↔
        ∀ place, Loop.Visits (NhcPlace.next mem) state.place place → place.ExtWhole mem limit) ∧
      ExtHdrsEnd mem state ((Reading.uncompressExtHdrs rounds state).value mem).1
        ((Reading.uncompressExtHdrs rounds state).value mem).2 := by
  induction rounds with
  | zero => exact fun state enough => absurd enough (by omega)
  | succ rounds ih =>
    intro state enough
    unfold Reading.uncompressExtHdrs
    rw [Loop.forall_visits_iff]
    by_cases nhc : state.nhc = true
    · rw [if_pos nhc, Reads.below_bind, Reads.below_element, Reads.value_bind,
        Reads.value_element]
      by_cases kind : mem state.hc06 &&& nhcMask = nhcExtHdr
      · have ext : state.place.isExtHdr mem := ⟨nhc, kind⟩
        have inside : state.hc06 < bytesLen := by
          by_contra behind
          rw [zero state.hc06 (by omega)] at kind
          exact absurd kind (by decide)
        rw [if_pos kind, Reads.below_bind, below_uncompressExtHdr, Reads.value_bind]
        by_cases supported : state.place.supported mem
        · obtain ⟨after, value, further, next, last, kept, written⟩ :=
            uncompressExtHdr_some ext supported
          obtain ⟨below, ended⟩ := ih after (by omega)
          rw [value, next]
          refine ⟨?_, ended.behind ext supported next last kept written⟩
          dsimp only
          rw [below]
          simp only [Option.some.injEq, forall_eq']
          constructor
          · rintro ⟨first, ⟨len, whole⟩, later⟩
            exact ⟨⟨fun _ => first, fun _ => ⟨len, whole⟩⟩, later⟩
          · rintro ⟨⟨first, whole⟩, later⟩
            exact ⟨first nhc, whole ext, later⟩
        · have left : state.place.next mem = none := if_neg fun both => supported both.2
          rw [uncompressExtHdr_none supported, left]
          refine ⟨?_, ExtHdrsEnd.here left (iff_of_true rfl ext)⟩
          constructor
          · rintro ⟨first, whole, -⟩
            exact ⟨⟨fun _ => first, fun _ => whole⟩, fun next absent => by cases absent⟩
          · rintro ⟨⟨first, whole⟩, -⟩
            exact ⟨first nhc, whole ext, Reads.below_pure mem limit _⟩
      · have other : ¬ state.place.isExtHdr mem := fun ext => kind ext.2
        have left : state.place.next mem = none := if_neg fun both => other both.1
        rw [if_neg kind, left]
        refine ⟨?_, ExtHdrsEnd.here left (iff_of_false Bool.noConfusion other)⟩
        constructor
        · rintro ⟨first, -⟩
          exact ⟨⟨fun _ => first, fun ext => absurd ext other⟩, fun next absent => by cases absent⟩
        · rintro ⟨⟨first, -⟩, -⟩
          exact ⟨first nhc, Reads.below_pure mem limit _⟩
    · have other : ¬ state.place.isExtHdr mem := fun ext => nhc ext.1
      have left : state.place.next mem = none := if_neg fun both => other both.1
      rw [if_neg nhc, left]
      refine ⟨?_, ExtHdrsEnd.here left (iff_of_false Bool.noConfusion other)⟩
      refine iff_of_true (Reads.below_pure mem limit _)
        ⟨⟨?_, ?_⟩, fun next absent => by cases absent⟩
      · exact fun follows => absurd follows nhc
      · exact fun ext => absurd ext other

theorem udpForm_cases {form : UInt8} (udp : form &&& nhcUdpMask = nhcUdpId) :
    form &&& nhcUdpCsP11 = nhcUdpCsP00 ∨ form &&& nhcUdpCsP11 = nhcUdpCsP01 ∨
      form &&& nhcUdpCsP11 = nhcUdpCsP10 ∨ form &&& nhcUdpCsP11 = nhcUdpCsP11 := by
  obtain ⟨index, rfl⟩ : ∃ index : Fin 256, form = UInt8.ofNat index :=
    ⟨⟨form.toNat, form.toNat_lt⟩, by simp⟩
  revert index
  decide +kernel

theorem uncompressPorts_spec {form : UInt8} (udp : form &&& nhcUdpMask = nhcUdpId) (hc06 : Nat) :
    (∃ ports, ports.length = 4 ∧
      (Reading.uncompressPorts form hc06).value mem = some (ports, hc06 + portsLen form)) ∧
    ∀ limit, (Reading.uncompressPorts form hc06).Below mem limit ↔
      hc06 + portsLen form ≤ limit := by
  unfold Reading.uncompressPorts portsLen
  dsimp only
  rcases udpForm_cases udp with kind | kind | kind | kind
  · rw [kind, if_pos rfl, if_pos rfl, Reads.value_bind, Reads.value_pure]
    refine ⟨⟨_, Vector.length_toList, rfl⟩, fun limit => ?_⟩
    simp only [Reads.below_bind, Reads.below_elements, Reads.below_pure, and_true]
    omega
  · rw [kind, if_neg (by decide), if_pos rfl, if_neg (by decide), if_neg (by decide),
      Reads.value_bind, Reads.value_bind, Reads.value_pure]
    refine ⟨⟨_, ?_, rfl⟩, fun limit => ?_⟩
    · rw [List.length_append, Vector.length_toList, set16_length]
    · simp only [Reads.below_bind, Reads.below_elements, Reads.below_element, Reads.below_pure,
        and_true]
      omega
  · rw [kind, if_neg (by decide), if_neg (by decide), if_pos rfl, if_neg (by decide),
      if_neg (by decide), Reads.value_bind, Reads.value_bind, Reads.value_pure]
    refine ⟨⟨_, ?_, rfl⟩, fun limit => ?_⟩
    · rw [List.length_append, Vector.length_toList, set16_length]
    · simp only [Reads.below_bind, Reads.below_elements, Reads.below_element, Reads.below_pure,
        and_true]
      omega
  · rw [kind, if_neg (by decide), if_neg (by decide), if_neg (by decide), if_pos rfl,
      if_neg (by decide), if_pos rfl, Reads.value_bind, Reads.value_pure]
    refine ⟨⟨_, rfl, rfl⟩, fun limit => ?_⟩
    simp only [Reads.below_bind, Reads.below_element, Reads.below_pure, and_true]
    omega

theorem uncompressChecksum_spec (compressed : Prop) [Decidable compressed] (ipPayload hc06 : Nat) :
    ((Reading.uncompressChecksum compressed ipPayload hc06).value mem).2 =
        hc06 + (if compressed then 0 else 2) ∧
      (∀ limit, (Reading.uncompressChecksum compressed ipPayload hc06).Below mem limit ↔
        (¬ compressed → hc06 + 2 ≤ limit)) ∧
      ∀ size, AllWithin size
          ((Reading.uncompressChecksum compressed ipPayload hc06).value mem).1 ↔
        (¬ compressed → ipPayload + 8 ≤ size) := by
  unfold Reading.uncompressChecksum
  by_cases absent : compressed
  · rw [if_pos absent, if_pos absent]
    refine ⟨rfl, fun limit => ?_, fun size => ?_⟩
    · exact iff_of_true (Reads.below_pure mem limit _) fun sent => absurd absent sent
    · exact iff_of_true (allWithin_nil size) fun sent => absurd absent sent
  · rw [if_neg absent, if_neg absent, Reads.value_bind, Reads.value_pure]
    refine ⟨rfl, fun limit => ?_, fun size => ?_⟩
    · rw [Reads.below_bind, and_iff_left (Reads.below_pure mem limit _), Reads.below_elements]
      exact ⟨fun fits _ => fits (by decide), fun fits _ => fits absent⟩
    · rw [allWithin_cons, and_iff_left (allWithin_nil size), Patch.within_iff, Vector.length_toList]
      exact ⟨fun fits _ => fits (by decide), fun fits _ => fits absent⟩

theorem below_uncompressUdp (datalen ipLen limit : Nat) :
    (Reading.uncompressUdp datalen ipLen state).Below mem limit ↔
      (state.nhc = true → state.hc06 < limit) ∧
        (state.place.isUdp mem → state.hc06 + udpHdrLen (mem state.hc06) ≤ limit) := by
  unfold Reading.uncompressUdp
  by_cases nhc : state.nhc = true
  · rw [if_pos nhc, imp_iff_right nhc, Reads.below_bind, Reads.below_element, Reads.value_element]
    refine and_congr_right fun _ => ?_
    by_cases kind : mem state.hc06 &&& nhcUdpMask = nhcUdpId
    · have udp : state.place.isUdp mem := ⟨nhc, kind⟩
      rw [if_pos kind, imp_iff_right udp]
      unfold Reading.uncompressUdpHdr udpHdrLen
      obtain ⟨⟨ports, -, value⟩, below⟩ := @uncompressPorts_spec mem _ kind state.hc06
      obtain ⟨-, checksum, -⟩ := @uncompressChecksum_spec mem
        (mem state.hc06 &&& nhcUdpChecksumc ≠ 0) inferInstance state.ipPayload
        (state.hc06 + portsLen (mem state.hc06))
      rw [Reads.below_bind, below, value]
      dsimp only
      rw [Reads.below_bind, checksum]
      by_cases compressed : mem state.hc06 &&& nhcUdpChecksumc ≠ 0
      · rw [if_pos compressed]
        constructor
        · rintro ⟨first, -⟩
          exact first
        · intro first
          exact ⟨first, fun absent => absurd compressed absent, Reads.below_pure mem limit _⟩
      · rw [if_neg compressed]
        constructor
        · rintro ⟨-, behind, -⟩
          have behind := behind compressed
          omega
        · intro behind
          exact ⟨by omega, fun _ => by omega, Reads.below_pure mem limit _⟩
    · rw [if_neg kind]
      exact iff_of_true (Reads.below_pure mem limit _) fun udp => absurd udp.2 kind
  · rw [if_neg nhc]
    refine iff_of_true (Reads.below_pure mem limit _) ⟨?_, ?_⟩
    · exact fun follows => absurd follows nhc
    · exact fun udp => absurd udp.1 nhc

theorem uncompressUdp_some (datalen ipLen : Nat) (udp : state.place.isUdp mem) :
    ∃ after, (Reading.uncompressUdp datalen ipLen state).value mem = some after ∧
      after.hc06 = state.hc06 + udpHdrLen (mem state.hc06) ∧
      after.uncompHdrLen = (state.uncompHdrLen + uipUdphLen) % 256 ∧
      (∀ patch ∈ state.written, patch ∈ after.written) ∧
      ∀ size, state.lastNextheader < size → (AllWithin size after.written ↔
        AllWithin size state.written ∧
          state.ipPayload + (if mem state.hc06 &&& nhcUdpChecksumc ≠ 0 then 6 else 8) ≤ size) := by
  have nhc : state.nhc = true := udp.1
  have kind : mem state.hc06 &&& nhcUdpMask = nhcUdpId := udp.2
  obtain ⟨⟨ports, length, value⟩, -⟩ := @uncompressPorts_spec mem _ kind state.hc06
  obtain ⟨place, -, checksum⟩ := @uncompressChecksum_spec mem
    (mem state.hc06 &&& nhcUdpChecksumc ≠ 0) inferInstance state.ipPayload
    (state.hc06 + portsLen (mem state.hc06))
  unfold Reading.uncompressUdp Reading.uncompressUdpHdr udpHdrLen
  rw [if_pos nhc, Reads.value_bind, Reads.value_element, if_pos kind, Reads.value_bind, value]
  dsimp only
  rw [Reads.value_bind, Reads.value_pure]
  refine ⟨_, rfl, ?_, rfl, fun patch member => ?_, fun size last => ?_⟩
  · dsimp only
    rw [place, Nat.add_assoc]
  · dsimp only
    exact List.mem_append_left _ (List.mem_append_left _ (List.mem_append_left _ member))
  · dsimp only
    rw [allWithin_append, allWithin_append, allWithin_append, checksum size, and_assoc, and_assoc]
    refine and_congr_right fun _ => ?_
    simp only [allWithin_cons, Patch.within_iff, List.length_singleton, length, set16_length]
    by_cases compressed : mem state.hc06 &&& nhcUdpChecksumc ≠ 0
    · rw [if_pos compressed]
      constructor
      · rintro ⟨-, -, udplen, -⟩
        have udplen := udplen (by decide)
        omega
      · intro fits
        exact ⟨⟨fun _ => by omega, fun _ => by omega, allWithin_nil size⟩,
          fun absent => absurd compressed absent, fun _ => by omega, allWithin_nil size⟩
    · rw [if_neg compressed]
      constructor
      · rintro ⟨-, udpchksum, -⟩
        exact udpchksum compressed
      · intro fits
        exact ⟨⟨fun _ => by omega, fun _ => by omega, allWithin_nil size⟩,
          fun _ => fits, fun _ => by omega, allWithin_nil size⟩

theorem uncompressUdp_other (datalen ipLen : Nat) (other : ¬ state.place.isUdp mem) :
    (Reading.uncompressUdp datalen ipLen state).value mem = some state := by
  unfold Reading.uncompressUdp
  by_cases nhc : state.nhc = true
  · have kind : ¬ mem state.hc06 &&& nhcUdpMask = nhcUdpId := fun kind => other ⟨nhc, kind⟩
    rw [if_pos nhc, Reads.value_bind, Reads.value_element, if_neg kind]
    rfl
  · rw [if_neg nhc]
    rfl

theorem allWithin_len {size : Nat} (room : 8 ≤ size) (len : UInt16) :
    AllWithin size [⟨4, set16 len⟩] := by
  rw [allWithin_cons, Patch.within_iff, set16_length]
  exact ⟨fun _ => by dsimp only; omega, allWithin_nil size⟩

section

variable {bytesLen : Nat} (zero : ∀ index, bytesLen ≤ index → mem index = 0)
  {rounds hc06 : Nat} (enough : bytesLen - hc06 + 1 ≤ rounds) (datalen packetbufHdrLen ipLen : Nat)
  (nhc : Bool) (written : List (Patch UInt8))

include zero enough

theorem below_uncompressNextHdrs (limit : Nat) :
    (Reading.uncompressNextHdrs rounds datalen packetbufHdrLen ipLen nhc written hc06).Below mem
        limit ↔
      ∀ place, Loop.Visits (NhcPlace.next mem) (.start nhc hc06) place →
        place.Whole mem limit := by
  obtain ⟨below, ended⟩ := uncompressExtHdrs_spec zero limit rounds (.start nhc written hc06) enough
  unfold Reading.uncompressNextHdrs
  rw [Reads.below_bind, below]
  generalize (Reading.uncompressExtHdrs rounds (.start nhc written hc06)).value mem = result
    at ended ⊢
  obtain ⟨state, supported⟩ := result
  have atEnd := fun place => @ExtHdrsEnd.udp_last _ _ _ _ place ended
  obtain ⟨visits, last, flag, -, -, -⟩ := ended
  dsimp only at visits last flag ⊢
  by_cases stopped : supported = false
  · have ext := flag.mp stopped
    rw [if_pos stopped, and_iff_left (Reads.below_pure mem limit _)]
    constructor
    · intro each place visited
      refine ⟨each place visited, fun udp => ?_⟩
      rw [atEnd place visited udp] at udp
      exact absurd udp (state.place.isExtHdr_or_isUdp mem ext)
    · exact fun each place visited => (each place visited).toExtWhole
  · rw [if_neg stopped, Reads.below_bind, below_uncompressUdp]
    constructor
    · rintro ⟨each, ⟨-, udp⟩, -⟩ place visited
      refine ⟨each place visited, fun follows => ?_⟩
      obtain rfl := atEnd place visited follows
      exact udp follows
    · intro each
      have here := each state.place visits
      refine ⟨fun place visited => (each place visited).toExtWhole, ⟨here.form, here.udp⟩, ?_⟩
      split
      · exact Reads.below_pure mem limit _
      · exact Reads.below_pure mem limit _

theorem uncompressNextHdrs_left :
    let left := (Reading.uncompressNextHdrs rounds datalen packetbufHdrLen ipLen nhc written
      hc06).value mem
    (∃ last, Loop.Visits (NhcPlace.next mem) (.start nhc hc06) last ∧ last.next mem = none ∧
      (left.packetbufHdrLen, left.uncompHdrLen) = last.left mem packetbufHdrLen) ∧
    ∀ size, 8 ≤ size → (AllWithin size left.written ↔ AllWithin size written ∧
      ∀ place, Loop.Visits (NhcPlace.next mem) (.start nhc hc06) place → place.Fits mem size) := by
  obtain ⟨-, ended⟩ := uncompressExtHdrs_spec zero 0 rounds (.start nhc written hc06) enough
  unfold Reading.uncompressNextHdrs
  rw [Reads.value_bind]
  generalize (Reading.uncompressExtHdrs rounds (.start nhc written hc06)).value mem = result
    at ended ⊢
  obtain ⟨state, supported⟩ := result
  have atEnd := fun place => @ExtHdrsEnd.udp_last _ _ _ _ place ended
  obtain ⟨visits, last, flag, -, pieces, lastNextheader⟩ := ended
  dsimp only at visits last flag pieces lastNextheader ⊢
  have start : (Reading.NhcState.start nhc written hc06).lastNextheader = 6 := rfl
  by_cases stopped : supported = false
  · have ext := flag.mp stopped
    rw [if_pos stopped, Reads.value_pure]
    refine ⟨⟨state.place, visits, last, ?_⟩, fun size room => ?_⟩
    · rw [NhcPlace.left, if_pos ext]
      rfl
    · dsimp only
      rw [pieces size (by omega)]
      refine and_congr_right fun _ => forall₂_congr fun place visited => ?_
      constructor
      · intro fits
        refine ⟨fits, fun udp => ?_⟩
        rw [atEnd place visited udp] at udp
        exact absurd udp (state.place.isExtHdr_or_isUdp mem ext)
      · exact NhcPlace.Fits.extHdr
  · have other : ¬ state.place.isExtHdr mem := fun ext => stopped (flag.mpr ext)
    rw [if_neg stopped, Reads.value_bind]
    by_cases udp : state.place.isUdp mem
    · obtain ⟨after, value, place, headers, kept, more⟩ := uncompressUdp_some datalen ipLen udp
      rw [value]
      dsimp only
      rw [Reads.value_pure]
      refine ⟨⟨state.place, visits, last, ?_⟩, fun size room => ?_⟩
      · rw [NhcPlace.left, if_neg other, if_pos udp]
        dsimp only
        rw [place, headers]
        rfl
      · dsimp only
        rw [allWithin_append, and_iff_left (allWithin_len room _)]
        have pieces := pieces size (by omega)
        constructor
        · intro all
          have before : AllWithin size state.written :=
            fun patch member => all patch (kept patch member)
          obtain ⟨first, each⟩ := pieces.mp before
          have last := lastNextheader size (by omega) before
          refine ⟨first, fun place visited => ⟨each place visited, fun follows => ?_⟩⟩
          obtain rfl := atEnd place visited follows
          exact ((more size last).mp all).2
        · rintro ⟨first, each⟩
          have before := pieces.mpr ⟨first, fun place visited => (each place visited).extHdr⟩
          have last := lastNextheader size (by omega) before
          exact (more size last).mpr ⟨before, (each state.place visits).udp udp⟩
    · rw [uncompressUdp_other datalen ipLen udp]
      dsimp only
      rw [Reads.value_pure]
      refine ⟨⟨state.place, visits, last, ?_⟩, fun size room => ?_⟩
      · rw [NhcPlace.left, if_neg other, if_neg udp]
        rfl
      · dsimp only
        rw [allWithin_append, and_iff_left (allWithin_len room _), pieces size (by omega)]
        refine and_congr_right fun _ => forall₂_congr fun place visited => ?_
        constructor
        · intro fits
          refine ⟨fits, fun follows => ?_⟩
          obtain rfl := atEnd place visited follows
          exact absurd follows udp
        · exact NhcPlace.Fits.extHdr

end

end

end MultiPhyTsch.Lowpan
