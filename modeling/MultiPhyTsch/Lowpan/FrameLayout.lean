import MultiPhyTsch.Lowpan.HeaderLayout
import MultiPhyTsch.Lowpan.NextHdrLayout
import MultiPhyTsch.Lowpan.Undecodable

/-! The headers of a frame as a whole: when they are read inside the frame, and when what they
become fits into a buffer together with the payload. -/

namespace MultiPhyTsch.Lowpan

def addressesAt (mem : Memory UInt8) (iphc : Nat) : Nat :=
  iphc + (if mem (iphc + 1) &&& iphcCid ≠ 0 then 3 else 2) + trafficClassLen (mem iphc) +
    nextHeaderLen (mem iphc) + hopLimitLen (mem iphc)

def iphcEnd (addrContexts : List SicslowpanAddrContext) (mem : Memory UInt8) (iphc : Nat) : Nat :=
  addressesAt mem iphc +
    if srcKnown addrContexts mem iphc then
      srcipaddrLen (mem (iphc + 1)) +
        if destKnown addrContexts mem iphc then destipaddrLen (mem (iphc + 1)) else 0
    else 0

def nhcStart (addrContexts : List SicslowpanAddrContext) (mem : Memory UInt8) (iphc : Nat) :
    NhcPlace :=
  .start (mem iphc &&& iphcNhC ≠ 0) (iphcEnd addrContexts mem iphc)

structure IphcWhole (addrContexts : List SicslowpanAddrContext) (mem : Memory UInt8)
    (iphc limit : Nat) : Prop where
  fields : iphcEnd addrContexts mem iphc ≤ limit
  next : srcKnown addrContexts mem iphc → destKnown addrContexts mem iphc →
    ∀ place, Loop.Visits (NhcPlace.next mem) (nhcStart addrContexts mem iphc) place →
      place.Whole mem limit

structure IphcFits (addrContexts : List SicslowpanAddrContext) (mem : Memory UInt8)
    (iphc size : Nat) : Prop where
  dest : srcKnown addrContexts mem iphc → destKnown addrContexts mem iphc →
    destipaddrSize (mem (iphc + 1)) ≠ 0 → uipIphLen ≤ size
  next : srcKnown addrContexts mem iphc → destKnown addrContexts mem iphc →
    ∀ place, Loop.Visits (NhcPlace.next mem) (nhcStart addrContexts mem iphc) place →
      place.Fits mem size

section

variable {packetbuf : RxPacketbuf}

theorem mem_behind (index : Nat) (behind : packetbuf.bytes.length ≤ index) :
    packetbuf.mem index = 0 := by
  unfold RxPacketbuf.mem
  rw [List.getD_eq_getElem?_getD, List.getElem?_eq_none behind]
  rfl

theorem front_length (iphc0 : UInt8) (hc06 : Nat) (mem : Memory UInt8) :
    ((Reading.uncompressTrafficClass iphc0 hc06).value mem).1.length = 4 ∧
      ((Reading.uncompressNextHeader iphc0 hc06).value mem).1.length ≤ 1 := by
  unfold Reading.uncompressTrafficClass Reading.uncompressNextHeader
  constructor
  · split
    · split
      · rfl
      · rfl
    · split
      · rfl
      · rfl
  · split
    · exact Nat.le_refl 1
    · exact Nat.zero_le 1

/-- What `uncompress_hdr_iphc` leaves: the lengths at the last of the next headers, or those in
front of IPHC where the context of an address is not known. -/
structure IphcLeft (addrContexts : List SicslowpanAddrContext) (mem : Memory UInt8) (iphc : Nat)
    (start : NhcPlace) (left : Reading.Written) : Prop where
  stopped : ¬ (srcKnown addrContexts mem iphc ∧ destKnown addrContexts mem iphc) →
    (left.packetbufHdrLen, left.uncompHdrLen) = (iphc, 0)
  ended : srcKnown addrContexts mem iphc → destKnown addrContexts mem iphc →
    ∃ last, Loop.Visits (NhcPlace.next mem) start last ∧ last.next mem = none ∧
      (left.packetbufHdrLen, left.uncompHdrLen) = last.left mem iphc
  written : ∀ size, 24 ≤ size → (AllWithin size left.written ↔
    (srcKnown addrContexts mem iphc → destKnown addrContexts mem iphc →
      (destipaddrSize (mem (iphc + 1)) ≠ 0 → uipIphLen ≤ size) ∧
        ∀ place, Loop.Visits (NhcPlace.next mem) start place → place.Fits mem size))

section

variable (addrContexts : List SicslowpanAddrContext) (iphc ipLen : Nat)
  (written : List (Patch UInt8)) (hc06 : Nat)

def behindAddrs (mem : Memory UInt8) (iphc hc06 : Nat) : NhcPlace :=
  .start (mem iphc &&& iphcNhC ≠ 0)
    (hc06 + srcipaddrLen (mem (iphc + 1)) + destipaddrLen (mem (iphc + 1)))

theorem below_uncompressAddrs (limit : Nat) :
    (Reading.uncompressAddrs addrContexts packetbuf iphc ipLen (packetbuf.mem iphc)
        (packetbuf.mem (iphc + 1)) written hc06).Below packetbuf.mem limit ↔
      ((packetbuf.mem (iphc + 1) &&& iphcSac ≠ 0 ∧ packetbuf.mem (iphc + 1) &&& iphcCid ≠ 0 →
          iphc + 2 < limit) ∧
        (srcKnown addrContexts packetbuf.mem iphc → srcipaddrLen (packetbuf.mem (iphc + 1)) ≠ 0 →
          hc06 + srcipaddrLen (packetbuf.mem (iphc + 1)) ≤ limit)) ∧
      (srcKnown addrContexts packetbuf.mem iphc →
        ((packetbuf.mem (iphc + 1) &&& iphcM = 0 ∧ packetbuf.mem (iphc + 1) &&& iphcDac ≠ 0 ∧
            packetbuf.mem (iphc + 1) &&& iphcCid ≠ 0 → iphc + 2 < limit) ∧
          (destKnown addrContexts packetbuf.mem iphc →
            destipaddrLen (packetbuf.mem (iphc + 1)) ≠ 0 →
              hc06 + srcipaddrLen (packetbuf.mem (iphc + 1)) +
                destipaddrLen (packetbuf.mem (iphc + 1)) ≤ limit)) ∧
        (destKnown addrContexts packetbuf.mem iphc →
          ∀ place, Loop.Visits (NhcPlace.next packetbuf.mem)
              (behindAddrs packetbuf.mem iphc hc06) place →
            place.Whole packetbuf.mem limit)) := by
  have src := @reads_uncompressSrcipaddr packetbuf.mem addrContexts iphc hc06 packetbuf.sender
  have dest := @reads_uncompressDestipaddr packetbuf.mem addrContexts iphc
    (hc06 + srcipaddrLen (packetbuf.mem (iphc + 1))) packetbuf.receiver
  unfold Reading.uncompressAddrs
  rw [Reads.below_bind, src.below]
  refine and_congr_right fun _ => ?_
  by_cases known : srcKnown addrContexts packetbuf.mem iphc
  · obtain ⟨addr, -, value⟩ := src.found known
    rw [value, imp_iff_right known]
    dsimp only
    rw [Reads.below_bind, dest.below]
    refine and_congr_right fun _ => ?_
    by_cases reached : destKnown addrContexts packetbuf.mem iphc
    · obtain ⟨other, -, value⟩ := dest.found reached
      rw [value, imp_iff_right reached]
      dsimp only
      exact below_uncompressNextHdrs mem_behind (Nat.le_refl _) _ _ _ _ _ limit
    · rw [dest.unknown reached]
      exact iff_of_true (Reads.below_pure packetbuf.mem limit _) fun absent => absurd absent reached
  · rw [src.unknown known]
    exact iff_of_true (Reads.below_pure packetbuf.mem limit _) fun absent => absurd absent known

theorem uncompressAddrs_left (front : ∀ size, 24 ≤ size → AllWithin size written) :
    IphcLeft addrContexts packetbuf.mem iphc (behindAddrs packetbuf.mem iphc hc06)
      ((Reading.uncompressAddrs addrContexts packetbuf iphc ipLen (packetbuf.mem iphc)
        (packetbuf.mem (iphc + 1)) written hc06).value packetbuf.mem) := by
  have src := @reads_uncompressSrcipaddr packetbuf.mem addrContexts iphc hc06 packetbuf.sender
  have dest := @reads_uncompressDestipaddr packetbuf.mem addrContexts iphc
    (hc06 + srcipaddrLen (packetbuf.mem (iphc + 1))) packetbuf.receiver
  unfold Reading.uncompressAddrs
  rw [Reads.value_bind]
  by_cases known : srcKnown addrContexts packetbuf.mem iphc
  · obtain ⟨addr, length, value⟩ := src.found known
    rw [value]
    dsimp only
    rw [Reads.value_bind]
    have withSrc : ∀ size, 24 ≤ size → AllWithin size (written ++ [⟨8, addr⟩]) := by
      intro size room
      rw [allWithin_append, allWithin_cons, Patch.within_iff, length]
      exact ⟨front size room, fun _ => by dsimp only; omega, allWithin_nil size⟩
    by_cases reached : destKnown addrContexts packetbuf.mem iphc
    · obtain ⟨other, size, value⟩ := dest.found reached
      rw [value]
      dsimp only
      obtain ⟨ended, pieces⟩ := uncompressNextHdrs_left (@mem_behind packetbuf) (Nat.le_refl _)
        packetbuf.datalen iphc ipLen (packetbuf.mem iphc &&& iphcNhC ≠ 0)
        (written ++ [⟨8, addr⟩] ++ [⟨24, other⟩])
      refine ⟨fun stop => absurd ⟨known, reached⟩ stop, fun _ _ => ended, fun room enough => ?_⟩
      rw [pieces room (by omega), imp_iff_right known, imp_iff_right reached, allWithin_append,
        and_iff_right (withSrc room enough), allWithin_cons, and_iff_left (allWithin_nil room),
        Patch.within_iff]
      refine and_congr_left fun _ => ?_
      dsimp only
      rw [size]
      unfold destipaddrSize uipIphLen
      split
      · exact iff_of_true (fun absent => absurd rfl absent) fun absent => absurd rfl absent
      · rfl
    · rw [dest.unknown reached]
      refine ⟨fun _ => rfl, fun _ absent => absurd absent reached, fun size room => ?_⟩
      exact iff_of_true (withSrc size room) fun _ absent => absurd absent reached
  · rw [src.unknown known]
    refine ⟨fun _ => rfl, fun absent => absurd absent known, fun size room => ?_⟩
    exact iff_of_true (front size room) fun absent => absurd absent known

end

section

variable (addrContexts : List SicslowpanAddrContext) (iphc ipLen : Nat)

theorem behindAddrs_eq {mem : Memory UInt8} (known : srcKnown addrContexts mem iphc)
    (reached : destKnown addrContexts mem iphc) :
    behindAddrs mem iphc (addressesAt mem iphc) = nhcStart addrContexts mem iphc := by
  unfold behindAddrs nhcStart iphcEnd
  rw [if_pos known, if_pos reached, Nat.add_assoc]

theorem context_of_unknown {mem : Memory UInt8} :
    (¬ srcKnown addrContexts mem iphc → mem (iphc + 1) &&& iphcSac ≠ 0) ∧
      (¬ destKnown addrContexts mem iphc →
        mem (iphc + 1) &&& iphcM = 0 ∧ mem (iphc + 1) &&& iphcDac ≠ 0) := by
  constructor
  · intro unknown none
    exact unknown fun sac => absurd none sac
  · intro unknown
    by_contra none
    exact unknown fun unicast dac => absurd ⟨unicast, dac⟩ none

theorem addressesAt_bounds (mem : Memory UInt8) :
    iphc + 2 ≤ addressesAt mem iphc ∧
      (mem (iphc + 1) &&& iphcCid ≠ 0 → iphc + 3 ≤ addressesAt mem iphc) ∧
      addressesAt mem iphc ≤ iphcEnd addrContexts mem iphc := by
  unfold iphcEnd addressesAt
  by_cases cid : mem (iphc + 1) &&& iphcCid ≠ 0
  · rw [if_pos cid]
    exact ⟨by omega, fun _ => by omega, by omega⟩
  · rw [if_neg cid]
    exact ⟨by omega, fun some => absurd some cid, by omega⟩

theorem below_uncompressHdrIphc (limit : Nat) :
    (Reading.uncompressHdrIphc addrContexts packetbuf iphc ipLen).Below packetbuf.mem limit ↔
      IphcWhole addrContexts packetbuf.mem iphc limit := by
  have tf := @spans_uncompressTrafficClass packetbuf.mem (packetbuf.mem iphc)
    (iphc + if packetbuf.mem (iphc + 1) &&& iphcCid ≠ 0 then 3 else 2)
  have bounds := addressesAt_bounds addrContexts iphc packetbuf.mem
  have unknown := @context_of_unknown addrContexts iphc packetbuf.mem
  unfold Reading.uncompressHdrIphc
  rw [Reads.below_bind, Reads.below_element, Reads.value_element, Reads.below_bind,
    Reads.below_element, Reads.value_element]
  dsimp only
  rw [tf.below_bind, (spans_uncompressNextHeader _ _).below_bind,
    (spans_uncompressHopLimit _ _).below_bind, below_uncompressAddrs]
  have start : (iphc + if packetbuf.mem (iphc + 1) &&& iphcCid ≠ 0 then 3 else 2) +
      trafficClassLen (packetbuf.mem iphc) + nextHeaderLen (packetbuf.mem iphc) +
        hopLimitLen (packetbuf.mem iphc) = addressesAt packetbuf.mem iphc := rfl
  rw [start]
  constructor
  · rintro ⟨first, second, tfRead, nhRead, hlimRead, ⟨sciRead, srcRead⟩, rest⟩
    -- the third byte is read, or a byte behind it
    have front : (packetbuf.mem (iphc + 1) &&& iphcCid ≠ 0 → iphc + 2 < limit) →
        addressesAt packetbuf.mem iphc ≤ limit := by
      intro third
      by_cases cid : packetbuf.mem (iphc + 1) &&& iphcCid ≠ 0
      · rw [if_pos cid] at tfRead nhRead start
        have third := third cid
        omega
      · rw [if_neg cid] at tfRead nhRead start
        omega
    by_cases known : srcKnown addrContexts packetbuf.mem iphc
    · obtain ⟨⟨dciRead, destRead⟩, next⟩ := rest known
      have srcRead := srcRead known
      by_cases reached : destKnown addrContexts packetbuf.mem iphc
      · have next := next reached
        rw [behindAddrs_eq addrContexts iphc known reached] at next
        have destRead := destRead reached
        have last : iphcEnd addrContexts packetbuf.mem iphc = addressesAt packetbuf.mem iphc +
            srcipaddrLen (packetbuf.mem (iphc + 1)) + destipaddrLen (packetbuf.mem (iphc + 1)) := by
          rw [iphcEnd, if_pos known, if_pos reached, Nat.add_assoc]
        refine ⟨?_, fun _ _ => next⟩
        by_cases nhc : packetbuf.mem iphc &&& iphcNhC = 0
        · have inlined : nextHeaderLen (packetbuf.mem iphc) = 1 := if_pos nhc
          omega
        · have form := (next _ .start).form (decide_eq_true nhc)
          exact Nat.le_of_lt form
      · have dac := unknown.2 reached
        have front := front fun cid => dciRead ⟨dac.1, dac.2, cid⟩
        refine ⟨?_, fun _ absent => absurd absent reached⟩
        rw [iphcEnd, if_pos known, if_neg reached]
        omega
    · have front := front fun cid => sciRead ⟨unknown.1 known, cid⟩
      refine ⟨?_, fun absent => absurd absent known⟩
      rw [iphcEnd, if_neg known]
      exact front
  · rintro ⟨fields, next⟩
    have third : packetbuf.mem (iphc + 1) &&& iphcCid ≠ 0 → iphc + 2 < limit := by
      intro cid
      have third := bounds.2.1 cid
      omega
    refine ⟨by omega, by omega, fun _ => by omega, fun _ => by omega, fun _ => by omega,
      ⟨fun both => third both.2, fun known _ => ?_⟩,
      fun known => ⟨⟨fun all => third all.2.2, ?_⟩, ?_⟩⟩
    · rw [iphcEnd, if_pos known] at fields
      omega
    · intro reached _
      rw [iphcEnd, if_pos known, if_pos reached] at fields
      omega
    · intro reached
      rw [behindAddrs_eq addrContexts iphc known reached]
      exact next known reached

theorem uncompressHdrIphc_left :
    IphcLeft addrContexts packetbuf.mem iphc (behindAddrs packetbuf.mem iphc
        (addressesAt packetbuf.mem iphc))
      ((Reading.uncompressHdrIphc addrContexts packetbuf iphc ipLen).value packetbuf.mem) := by
  have tf := @spans_uncompressTrafficClass packetbuf.mem (packetbuf.mem iphc)
    (iphc + if packetbuf.mem (iphc + 1) &&& iphcCid ≠ 0 then 3 else 2)
  unfold Reading.uncompressHdrIphc
  rw [Reads.value_bind, Reads.value_element, Reads.value_bind, Reads.value_element]
  dsimp only
  rw [tf.value_bind, (spans_uncompressNextHeader _ _).value_bind,
    (spans_uncompressHopLimit _ _).value_bind]
  apply uncompressAddrs_left
  intro size room
  have lengths := fun hc06 => front_length (packetbuf.mem iphc) hc06 packetbuf.mem
  simp only [allWithin_cons, Patch.within_iff, (lengths _).1, List.length_singleton]
  refine ⟨fun _ => by omega, fun _ => ?_, fun _ => by omega, allWithin_nil size⟩
  have short := fun hc06 => (lengths hc06).2
  exact Nat.le_trans (Nat.add_le_add_left (short _) 6) (by omega)

end

def PayloadFits (conf : LowpanConf) (packetbuf : RxPacketbuf) (size : Nat) (left : Nat × Nat) :
    Prop :=
  payloadAccepted conf packetbuf left.1 left.2 0 → left.1 < packetbuf.datalen →
    left.2 + (packetbuf.datalen - left.1) ≤ size

structure HeadersWhole (addrContexts : List SicslowpanAddrContext) (packetbuf : RxPacketbuf) :
    Prop where
  paging : packetbuf.pagingAt < packetbuf.datalen
  dispatch : ¬ packetbuf.unsupportedPage → packetbuf.dispatchAt < packetbuf.datalen
  iphc : ¬ packetbuf.unsupportedPage → packetbuf.hasIphc →
    IphcWhole addrContexts packetbuf.mem packetbuf.dispatchAt packetbuf.datalen
  ipv6 : ¬ packetbuf.unsupportedPage → ¬ packetbuf.hasIphc →
    packetbuf.mem packetbuf.dispatchAt = dispatchIpv6 →
      packetbuf.dispatchAt + 1 + uipIphLen ≤ packetbuf.datalen

structure FrameFits (conf : LowpanConf) (addrContexts : List SicslowpanAddrContext)
    (packetbuf : RxPacketbuf) (size : Nat) : Prop where
  iphc : ¬ packetbuf.unsupportedPage → packetbuf.hasIphc →
    IphcFits addrContexts packetbuf.mem packetbuf.dispatchAt size
  stopped : ¬ packetbuf.unsupportedPage → packetbuf.hasIphc →
    ¬ (srcKnown addrContexts packetbuf.mem packetbuf.dispatchAt ∧
      destKnown addrContexts packetbuf.mem packetbuf.dispatchAt) →
    PayloadFits conf packetbuf size (packetbuf.dispatchAt, 0)
  ended : ¬ packetbuf.unsupportedPage → packetbuf.hasIphc →
    srcKnown addrContexts packetbuf.mem packetbuf.dispatchAt →
    destKnown addrContexts packetbuf.mem packetbuf.dispatchAt →
    ∀ last, Loop.Visits (NhcPlace.next packetbuf.mem)
        (nhcStart addrContexts packetbuf.mem packetbuf.dispatchAt) last →
      last.next packetbuf.mem = none →
        PayloadFits conf packetbuf size (last.left packetbuf.mem packetbuf.dispatchAt)
  ipv6 : ¬ packetbuf.unsupportedPage → ¬ packetbuf.hasIphc →
    packetbuf.mem packetbuf.dispatchAt = dispatchIpv6 →
      uipIphLen ≤ size ∧
        PayloadFits conf packetbuf size (packetbuf.dispatchAt + 1 + uipIphLen, uipIphLen)

theorem dispatchAt_eq : (if packetbuf.mem packetbuf.pagingAt &&& dispatchPagingMask = dispatchPaging
    then packetbuf.pagingAt + 1 else packetbuf.pagingAt) = packetbuf.dispatchAt := rfl

section

variable (addrContexts : List SicslowpanAddrContext) (fragSize : Nat)

theorem below_inputHeaders :
    (Reading.inputHeaders addrContexts packetbuf packetbuf.pagingAt fragSize).Below packetbuf.mem
        packetbuf.datalen ↔ HeadersWhole addrContexts packetbuf := by
  unfold Reading.inputHeaders
  rw [Reads.below_bind, Reads.below_element, Reads.value_element]
  dsimp only
  rw [dispatchAt_eq]
  by_cases page : packetbuf.unsupportedPage
  · rw [if_pos (page_iff.mpr page), and_iff_left (Reads.below_pure packetbuf.mem _ _)]
    have none : ∀ {property : Prop}, ¬ packetbuf.unsupportedPage → property :=
      fun absent => absurd page absent
    exact ⟨fun paging => ⟨paging, none, none, none⟩, HeadersWhole.paging⟩
  · rw [if_neg (mt page_iff.mp page), Reads.below_bind, Reads.below_element, Reads.value_element]
    by_cases iphc : packetbuf.hasIphc
    · have dispatch : packetbuf.mem packetbuf.dispatchAt &&& dispatchIphcMask = dispatchIphc := iphc
      rw [if_pos dispatch, Reads.below_bind, and_iff_left (Reads.below_pure packetbuf.mem _ _),
        below_uncompressHdrIphc]
      exact ⟨fun ⟨paging, dispatch, whole⟩ => ⟨paging, fun _ => dispatch, fun _ _ => whole,
        fun _ absent => absurd iphc absent⟩,
        fun whole => ⟨whole.paging, whole.dispatch page, whole.iphc page iphc⟩⟩
    · have other : ¬ packetbuf.mem packetbuf.dispatchAt &&& dispatchIphcMask = dispatchIphc := iphc
      rw [if_neg other]
      by_cases ipv6 : packetbuf.mem packetbuf.dispatchAt = dispatchIpv6
      · rw [if_pos ipv6, Reads.below_bind, and_iff_left (Reads.below_pure packetbuf.mem _ _),
          Reads.below_elements]
        exact ⟨fun ⟨paging, dispatch, header⟩ => ⟨paging, fun _ => dispatch,
          fun _ absent => absurd absent iphc, fun _ _ _ => header (by decide)⟩,
          fun whole => ⟨whole.paging, whole.dispatch page, fun _ => whole.ipv6 page iphc ipv6⟩⟩
      · rw [if_neg ipv6, and_iff_left (Reads.below_pure packetbuf.mem _ _)]
        exact ⟨fun ⟨paging, dispatch⟩ => ⟨paging, fun _ => dispatch,
          fun _ absent => absurd absent iphc, fun _ _ absent => absurd absent ipv6⟩,
          fun whole => ⟨whole.paging, whole.dispatch page⟩⟩

theorem inputHeaders_left :
    (Reading.inputHeaders addrContexts packetbuf packetbuf.pagingAt fragSize).value packetbuf.mem =
      if packetbuf.unsupportedPage then none
      else if packetbuf.hasIphc then
        some ((Reading.uncompressHdrIphc addrContexts packetbuf packetbuf.dispatchAt fragSize).value
          packetbuf.mem)
      else if packetbuf.mem packetbuf.dispatchAt = dispatchIpv6 then
        some ⟨[⟨0, packetbuf.mem.read (packetbuf.dispatchAt + 1) uipIphLen⟩],
          packetbuf.dispatchAt + 1 + uipIphLen, uipIphLen⟩
      else none := by
  unfold Reading.inputHeaders
  rw [Reads.value_bind, Reads.value_element]
  dsimp only
  rw [dispatchAt_eq]
  by_cases page : packetbuf.unsupportedPage
  · rw [if_pos (page_iff.mpr page), if_pos page]
    rfl
  · rw [if_neg (mt page_iff.mp page), if_neg page, Reads.value_bind, Reads.value_element]
    by_cases iphc : packetbuf.hasIphc
    · have dispatch : packetbuf.mem packetbuf.dispatchAt &&& dispatchIphcMask = dispatchIphc := iphc
      rw [if_pos dispatch, if_pos iphc, Reads.value_bind]
      rfl
    · have other : ¬ packetbuf.mem packetbuf.dispatchAt &&& dispatchIphcMask = dispatchIphc := iphc
      rw [if_neg other, if_neg iphc]
      split
      · rw [Reads.value_bind, Reads.value_pure, Reading.elements_toList]
      · rfl

variable (conf : LowpanConf)

theorem below_inputBuffer :
    (Reading.inputBuffer conf addrContexts packetbuf packetbuf.pagingAt fragSize).Below
        packetbuf.mem packetbuf.datalen ↔ HeadersWhole addrContexts packetbuf := by
  unfold Reading.inputBuffer
  rw [Reads.below_bind, below_inputHeaders, and_iff_left]
  cases (Reading.inputHeaders addrContexts packetbuf packetbuf.pagingAt fragSize).value
    packetbuf.mem with
  | none => exact Reads.below_pure packetbuf.mem _ _
  | some headers =>
    dsimp only
    split
    next accepted =>
      rw [Reads.below_bind, Reads.below_elements,
        and_iff_left (Reads.below_pure packetbuf.mem _ _)]
      have inside := accepted.1
      exact fun _ => by omega
    next => exact Reads.below_pure packetbuf.mem _ _

theorem payload_within (size : Nat) (headers : Reading.Written) : AllWithin size ((
        if payloadAccepted conf packetbuf headers.packetbufHdrLen headers.uncompHdrLen 0 then do
          let payloadLen := packetbuf.datalen - headers.packetbufHdrLen
          let payload ← Reads.elements payloadLen (headers.packetbufHdrLen + ·)
          pure (headers.written ++ [⟨headers.uncompHdrLen, payload.toList⟩],
            some (headers.uncompHdrLen + payloadLen))
        else pure (headers.written, none) : Reads UInt8 (List (Patch UInt8) × Option Nat)).value
          packetbuf.mem).1 ↔
      AllWithin size headers.written ∧
        PayloadFits conf packetbuf size (headers.packetbufHdrLen, headers.uncompHdrLen) := by
  unfold PayloadFits
  split
  next accepted =>
    dsimp only
    rw [Reads.value_bind, Reads.value_pure, allWithin_append, allWithin_cons,
      and_iff_left (allWithin_nil size), Patch.within_iff, Vector.length_toList,
      imp_iff_right accepted]
    refine and_congr_right fun _ => ?_
    exact ⟨fun fits some => fits (by omega), fun fits some => fits (by omega)⟩
  next refused =>
    exact (and_iff_left fun accepted => absurd accepted refused).symm

theorem inputBuffer_within {size : Nat} (room : 24 ≤ size) :
    AllWithin size ((Reading.inputBuffer conf addrContexts packetbuf packetbuf.pagingAt
        fragSize).value packetbuf.mem).1 ↔ FrameFits conf addrContexts packetbuf size := by
  unfold Reading.inputBuffer
  rw [Reads.value_bind, inputHeaders_left]
  by_cases page : packetbuf.unsupportedPage
  · rw [if_pos page]
    refine iff_of_true (allWithin_nil size) ⟨?_, ?_, ?_, ?_⟩
    all_goals exact fun absent => absurd page absent
  rw [if_neg page]
  by_cases iphc : packetbuf.hasIphc
  · have left := @uncompressHdrIphc_left packetbuf addrContexts packetbuf.dispatchAt fragSize
    rw [if_pos iphc]
    dsimp only
    generalize (Reading.uncompressHdrIphc addrContexts packetbuf packetbuf.dispatchAt
      fragSize).value packetbuf.mem = headers at left ⊢
    rw [payload_within, left.written size room]
    have ipv6 : ¬ packetbuf.unsupportedPage → ¬ packetbuf.hasIphc →
        packetbuf.mem packetbuf.dispatchAt = dispatchIpv6 → uipIphLen ≤ size ∧
          PayloadFits conf packetbuf size (packetbuf.dispatchAt + 1 + uipIphLen, uipIphLen) :=
      fun _ absent => absurd iphc absent
    by_cases known : srcKnown addrContexts packetbuf.mem packetbuf.dispatchAt ∧
        destKnown addrContexts packetbuf.mem packetbuf.dispatchAt
    · obtain ⟨src, dest⟩ := known
      obtain ⟨last, visits, final, lengths⟩ := left.ended src dest
      rw [behindAddrs_eq addrContexts _ src dest] at visits ⊢
      rw [lengths]
      constructor
      · rintro ⟨fits, payload⟩
        refine ⟨fun _ _ => ⟨fun src dest => (fits src dest).1, fun src dest => (fits src dest).2⟩,
          fun _ _ stop => absurd ⟨src, dest⟩ stop, ?_, ipv6⟩
        intro _ _ _ _ other visited there
        rw [visits.last_unique final visited there]
        exact payload
      · intro fits
        have headers := fits.iphc page iphc
        exact ⟨fun src dest => ⟨headers.dest src dest, headers.next src dest⟩,
          fits.ended page iphc src dest last visits final⟩
    · rw [left.stopped known]
      constructor
      · rintro ⟨-, payload⟩
        exact ⟨fun _ _ => ⟨fun src dest => absurd ⟨src, dest⟩ known,
          fun src dest => absurd ⟨src, dest⟩ known⟩, fun _ _ _ => payload,
          fun _ _ src dest => absurd ⟨src, dest⟩ known, ipv6⟩
      · intro fits
        exact ⟨fun src dest => absurd ⟨src, dest⟩ known, fits.stopped page iphc known⟩
  · rw [if_neg iphc]
    have other : ∀ {property : Prop}, ¬ packetbuf.unsupportedPage → packetbuf.hasIphc → property :=
      fun _ absent => absurd absent iphc
    by_cases ipv6 : packetbuf.mem packetbuf.dispatchAt = dispatchIpv6
    · rw [if_pos ipv6]
      refine (payload_within conf size
        ⟨[⟨0, packetbuf.mem.read (packetbuf.dispatchAt + 1) uipIphLen⟩],
          packetbuf.dispatchAt + 1 + uipIphLen, uipIphLen⟩).trans ?_
      have header : AllWithin size
          [⟨0, packetbuf.mem.read (packetbuf.dispatchAt + 1) uipIphLen⟩] ↔ uipIphLen ≤ size := by
        rw [allWithin_cons, and_iff_left (allWithin_nil size), Patch.within_iff, Memory.read_length,
          Nat.zero_add]
        exact imp_iff_right (by decide)
      rw [header]
      exact ⟨fun fits => ⟨other, other, other, fun _ _ _ => fits⟩,
        fun fits => fits.ipv6 page iphc ipv6⟩
    · rw [if_neg ipv6]
      exact iff_of_true (allWithin_nil size)
        ⟨other, other, other, fun _ _ absent => absurd absent ipv6⟩

end

end

end MultiPhyTsch.Lowpan
