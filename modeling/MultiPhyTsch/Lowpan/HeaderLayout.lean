import MultiPhyTsch.Lowpan.UncompressReads

/-! The fields of IPHC: which bytes of a frame they take, and which bytes of the packet they
become. -/

namespace MultiPhyTsch.Lowpan

open Reads (element)

def trafficClassLen (iphc0 : UInt8) : Nat :=
  if iphc0 &&& iphcFlC = 0 then if iphc0 &&& iphcTcC = 0 then 4 else 3
  else if iphc0 &&& iphcTcC = 0 then 1 else 0

def nextHeaderLen (iphc0 : UInt8) : Nat := if iphc0 &&& iphcNhC = 0 then 1 else 0

def hopLimitLen (iphc0 : UInt8) : Nat := if iphc0 &&& 0x03 ≠ 0 then 0 else 1

def postLen (prefPostCount : Nat × Nat) : Nat :=
  if prefPostCount.2 = 15 then 16 else prefPostCount.2

variable (iphc1 : UInt8)

def srcMode : UInt8 := ((iphc1 &&& iphcSam11) >>> iphcSamBit) &&& 0x03

def destMode : UInt8 := ((iphc1 &&& iphcDam11) >>> iphcDamBit) &&& 0x03

def srcipaddrLen : Nat :=
  postLen (if iphc1 &&& iphcSac ≠ 0 then uncCtxconf (srcMode iphc1) else uncLlconf (srcMode iphc1))

def destipaddrLen : Nat :=
  if iphc1 &&& iphcM ≠ 0 then
    if iphc1 &&& iphcDac ≠ 0 then 0
    else (if destMode iphc1 > 0 ∧ destMode iphc1 < 3 then 1 else 0) +
      postLen (uncMxconf (destMode iphc1))
  else
    postLen (if iphc1 &&& iphcDac ≠ 0 then uncCtxconf (destMode iphc1)
      else uncLlconf (destMode iphc1))

section

variable {mem : Memory UInt8} {limit : Nat}

def srcKnown (addrContexts : List SicslowpanAddrContext) (mem : Memory UInt8) (iphc : Nat) :
    Prop :=
  mem (iphc + 1) &&& iphcSac ≠ 0 → srcMode (mem (iphc + 1)) ≠ 0 →
    (addrContextLookupByNumber addrContexts
      (if mem (iphc + 1) &&& iphcCid ≠ 0 then mem (iphc + 2) >>> 4 else 0)).isSome

def destKnown (addrContexts : List SicslowpanAddrContext) (mem : Memory UInt8) (iphc : Nat) :
    Prop :=
  mem (iphc + 1) &&& iphcM = 0 → mem (iphc + 1) &&& iphcDac ≠ 0 →
    (addrContextLookupByNumber addrContexts
      (if mem (iphc + 1) &&& iphcCid ≠ 0 then mem (iphc + 2) &&& 0x0f else 0)).isSome

instance (addrContexts : List SicslowpanAddrContext) (iphc : Nat) :
    Decidable (srcKnown addrContexts mem iphc) := inferInstanceAs (Decidable (_ → _ → _))

instance (addrContexts : List SicslowpanAddrContext) (iphc : Nat) :
    Decidable (destKnown addrContexts mem iphc) := inferInstanceAs (Decidable (_ → _ → _))

theorem spans_uncompressAddr (prefixBytes : List UInt8) (prefPostCount : Nat × Nat)
    (lladdr : LinkAddr) (hc06 : Nat) :
    Reads.Spans mem hc06 (postLen prefPostCount)
      (Reading.uncompressAddr prefixBytes prefPostCount lladdr hc06) := by
  unfold Reading.uncompressAddr postLen
  dsimp only
  generalize (if prefPostCount.2 = 15 then 16 else prefPostCount.2) = postcount
  by_cases inlined : postcount > 0
  · rw [if_pos inlined]
    constructor
    · rw [Reads.value_bind, Reads.value_pure]
    · intro limit
      rw [Reads.below_bind, Reads.below_elements, and_iff_left (Reads.below_pure mem limit _)]
  · have none : postcount = 0 := by omega
    rw [if_neg inlined, none]
    generalize (if prefPostCount.1 = 15 then 16 else prefPostCount.1) = prefcount
    split
    · exact Reads.Spans.pure _
    · exact Reads.Spans.pure _

theorem spans_uncompressTrafficClass (iphc0 : UInt8) (hc06 : Nat) :
    Reads.Spans mem hc06 (trafficClassLen iphc0) (Reading.uncompressTrafficClass iphc0 hc06) := by
  unfold Reading.uncompressTrafficClass trafficClassLen
  refine Reads.Spans.ite (fun _ => ?_) fun _ => ?_
  · refine Reads.Spans.ite (fun _ => ⟨rfl, fun limit => ?_⟩) fun _ => ⟨rfl, fun limit => ?_⟩
    · simp only [Reads.below_bind, Reads.below_elements, Reads.below_element, Reads.below_pure,
        and_true]
      omega
    · simp only [Reads.below_bind, Reads.below_elements, Reads.below_element, Reads.below_pure,
        and_true]
      omega
  · refine Reads.Spans.ite (fun _ => ⟨rfl, fun limit => ?_⟩) fun _ => Reads.Spans.pure _
    simp only [Reads.below_bind, Reads.below_element, Reads.below_pure, and_true]
    omega

theorem spans_uncompressNextHeader (iphc0 : UInt8) (hc06 : Nat) :
    Reads.Spans mem hc06 (nextHeaderLen iphc0) (Reading.uncompressNextHeader iphc0 hc06) := by
  refine Reads.Spans.ite (fun _ => ⟨rfl, fun limit => ?_⟩) fun _ => Reads.Spans.pure _
  simp only [Reads.below_bind, Reads.below_element, Reads.below_pure, and_true]
  omega

theorem spans_uncompressHopLimit (iphc0 : UInt8) (hc06 : Nat) :
    Reads.Spans mem hc06 (hopLimitLen iphc0) (Reading.uncompressHopLimit iphc0 hc06) := by
  refine Reads.Spans.ite (fun _ => Reads.Spans.pure _) fun _ => ⟨rfl, fun limit => ?_⟩
  simp only [Reads.below_bind, Reads.below_element, Reads.below_pure, and_true]
  omega

/-- The configuration of an address asks for no more than there is of the prefix, and leaves room
for what is inline. -/
def ConfFits (prefixLen : Nat) (prefPostCount : Nat × Nat) : Prop :=
  let prefcount := if prefPostCount.1 = 15 then 16 else prefPostCount.1
  prefcount ≤ prefixLen ∧ prefcount + postLen prefPostCount ≤ 16

instance (prefixLen : Nat) (prefPostCount : Nat × Nat) :
    Decidable (ConfFits prefixLen prefPostCount) := inferInstanceAs (Decidable (_ ∧ _))

theorem uncLlconf_fits (mode : UInt8) : ConfFits 2 (uncLlconf mode) := by
  unfold uncLlconf
  split <;> decide

theorem uncMxconf_fits (mode : UInt8) : ConfFits 2 (uncMxconf mode) := by
  unfold uncMxconf
  split <;> decide

theorem uncCtxconf_fits (mode : UInt8) : ConfFits 8 (uncCtxconf mode) := by
  unfold uncCtxconf
  split <;> decide

theorem uncompressAddr_length {prefixBytes : List UInt8} {prefPostCount : Nat × Nat}
    (fits : ConfFits prefixBytes.length prefPostCount) (lladdr : LinkAddr) (hc06 : Nat) :
    ((Reading.uncompressAddr prefixBytes prefPostCount lladdr hc06).value mem).1.length = 16 := by
  unfold ConfFits postLen at fits
  unfold Reading.uncompressAddr
  dsimp only at fits ⊢
  generalize (if prefPostCount.1 = 15 then 16 else prefPostCount.1) = prefcount at fits ⊢
  generalize (if prefPostCount.2 = 15 then 16 else prefPostCount.2) = postcount at fits ⊢
  have front : (prefixBytes.take prefcount ++
      List.replicate (16 - (prefcount + postcount)) (0 : UInt8)).length = 16 - postcount := by
    rw [List.length_append, List.length_take_of_le fits.1, List.length_replicate]
    omega
  split
  · rw [Reads.value_bind, Reads.value_pure]
    split
    · rw [List.length_set, List.length_set, List.length_append, front, Vector.length_toList]
      omega
    · rw [List.length_append, front, Vector.length_toList]
      omega
  · split
    · rw [Reads.value_pure, uipDs6SetAddrIid, List.length_append, List.length_take, front]
      simp only [List.length_cons, List.length_nil]
      omega
    · rw [Reads.value_pure, front]
      omega

/-- What a program reads of an address, with the third byte of IPHC if it needs the number of a
context: it stops there if the context is not known. -/
structure ReadsAddr (mem : Memory UInt8) (context known : Prop) (iphc hc06 len size : Nat)
    (reader : Reads UInt8 (Option (List UInt8 × Nat))) : Prop where
  found : known → ∃ addr, addr.length = size ∧ reader.value mem = some (addr, hc06 + len)
  unknown : ¬ known → reader.value mem = none
  below : ∀ limit, reader.Below mem limit ↔
    (context → iphc + 2 < limit) ∧ (known → len ≠ 0 → hc06 + len ≤ limit)

section

variable {context known : Prop} {iphc hc06 len size : Nat}

theorem ReadsAddr.of_fits {prefixBytes : List UInt8} {prefPostCount : Nat × Nat}
    (fits : ConfFits prefixBytes.length prefPostCount) (lladdr : LinkAddr) :
    ReadsAddr mem False True iphc hc06 (postLen prefPostCount) 16
      (Reading.uncompressAddr prefixBytes prefPostCount lladdr hc06 >>= fun addr =>
        pure (some addr)) := by
  have spans := @spans_uncompressAddr mem prefixBytes prefPostCount lladdr hc06
  refine ⟨fun _ => ⟨_, @uncompressAddr_length mem _ _ fits lladdr hc06, ?_⟩,
    fun absent => absurd trivial absent, fun limit => ?_⟩
  · rw [Reads.value_bind, Reads.value_pure, ← spans.next]
  · rw [Reads.below_bind, and_iff_left (Reads.below_pure mem limit _), spans.below limit,
      false_imp_iff, true_and, true_imp_iff]

theorem ReadsAddr.stop : ReadsAddr mem False False iphc hc06 len size (pure none) where
  found := False.elim
  unknown := fun _ => rfl
  below := fun limit =>
    iff_of_true (Reads.below_pure mem limit _) ⟨False.elim, False.elim⟩

theorem ReadsAddr.of_iff {other required : Prop} {reader : Reads UInt8 (Option (List UInt8 × Nat))}
    (reads : ReadsAddr mem context known iphc hc06 len size reader) (same : context ↔ other)
    (needed : known ↔ required) : ReadsAddr mem other required iphc hc06 len size reader := by
  rw [← propext same, ← propext needed]
  exact reads

theorem ReadsAddr.behind {cid : Prop} {number : Reads UInt8 UInt8}
    {rest : UInt8 → Reads UInt8 (Option (List UInt8 × Nat))}
    (numbered : ∀ limit, number.Below mem limit ↔ (cid → iphc + 2 < limit))
    (reads : ReadsAddr mem False known iphc hc06 len size (rest (number.value mem))) :
    ReadsAddr mem cid known iphc hc06 len size (number >>= rest) where
  found := by
    rw [Reads.value_bind]
    exact reads.found
  unknown := by
    rw [Reads.value_bind]
    exact reads.unknown
  below := fun limit => by
    rw [Reads.below_bind, numbered, reads.below, false_imp_iff, true_and]

end

theorem below_sci (iphc1 : UInt8) (iphc limit : Nat) :
    (Reading.sci iphc1 iphc).Below mem limit ↔ (iphc1 &&& iphcCid ≠ 0 → iphc + 2 < limit) := by
  simp only [Reading.sci, Reads.below_ite, Reads.below_bind, Reads.below_element, Reads.below_pure,
    and_true, implies_true]

theorem below_dci (iphc1 : UInt8) (iphc limit : Nat) :
    (Reading.dci iphc1 iphc).Below mem limit ↔ (iphc1 &&& iphcCid ≠ 0 → iphc + 2 < limit) := by
  simp only [Reading.dci, Reads.below_ite, Reads.below_bind, Reads.below_element, Reads.below_pure,
    and_true, implies_true]

theorem ReadsAddr.of_context {iphc hc06 : Nat} (context : SicslowpanAddrContext) (mode : UInt8)
    (lladdr : LinkAddr) :
    ReadsAddr mem False True iphc hc06 (postLen (uncCtxconf mode)) 16
      (Reading.uncompressAddr context.prefixBytes.toList (uncCtxconf mode) lladdr hc06 >>=
        fun addr => pure (some addr)) := by
  apply ReadsAddr.of_fits
  rw [Vector.length_toList]
  exact uncCtxconf_fits mode

theorem reads_uncompressSrcipaddr (addrContexts : List SicslowpanAddrContext) (iphc hc06 : Nat)
    (sender : LinkAddr) :
    ReadsAddr mem (mem (iphc + 1) &&& iphcSac ≠ 0 ∧ mem (iphc + 1) &&& iphcCid ≠ 0)
      (srcKnown addrContexts mem iphc) iphc hc06 (srcipaddrLen (mem (iphc + 1))) 16
      (Reading.uncompressSrcipaddr addrContexts (mem (iphc + 1)) iphc sender hc06) := by
  unfold Reading.uncompressSrcipaddr srcKnown srcipaddrLen
  change ReadsAddr _ _ _ _ _ _ _ (if _ then Reading.sci _ _ >>= fun sci =>
    if srcMode (mem (iphc + 1)) ≠ 0 then _ else _ else _)
  have number := Reading.sci_value mem (mem (iphc + 1)) iphc
  generalize mem (iphc + 1) = iphc1 at number ⊢
  by_cases sac : iphc1 &&& iphcSac ≠ 0
  · rw [if_pos sac, if_pos sac, and_iff_right sac, imp_iff_right sac]
    refine ReadsAddr.behind (fun limit => below_sci iphc1 iphc limit) ?_
    rw [number]
    by_cases mode : srcMode iphc1 ≠ 0
    · rw [if_pos mode, imp_iff_right mode]
      cases addrContextLookupByNumber addrContexts _ with
      | none => exact ReadsAddr.stop.of_iff Iff.rfl (iff_of_false id Bool.noConfusion)
      | some context =>
        exact (ReadsAddr.of_context context _ sender).of_iff Iff.rfl (iff_of_true trivial rfl)
    · rw [if_neg mode]
      have zero : srcMode iphc1 = 0 := not_not.mp mode
      refine (@ReadsAddr.of_fits mem iphc hc06 [] (uncCtxconf (srcMode iphc1)) ?_ sender).of_iff
        Iff.rfl (iff_of_true trivial fun some => absurd some mode)
      rw [zero]
      decide
  · rw [if_neg sac, if_neg sac]
    refine (@ReadsAddr.of_fits mem iphc hc06 llprefix _ (uncLlconf_fits _) sender).of_iff ?_ ?_
    · exact iff_of_false id fun both => sac both.1
    · exact iff_of_true trivial fun some => absurd some sac

def destipaddrSize (iphc1 : UInt8) : Nat :=
  if iphc1 &&& iphcM ≠ 0 ∧ iphc1 &&& iphcDac ≠ 0 then 0 else 16

theorem ReadsAddr.behindScope {iphc hc06 len size : Nat} {known : Prop}
    {rest : UInt8 → Reads UInt8 (Option (List UInt8 × Nat))}
    (reads : ReadsAddr mem False True iphc (hc06 + 1) len size (rest (mem hc06)))
    (needed : known) :
    ReadsAddr mem False known iphc hc06 (1 + len) size (element hc06 >>= rest) where
  found := by
    intro _
    rw [Reads.value_bind, Reads.value_element, ← Nat.add_assoc]
    exact reads.found trivial
  unknown := fun absent => absurd needed absent
  below := fun limit => by
    rw [Reads.below_bind, Reads.below_element, Reads.value_element, reads.below,
      imp_iff_right needed, true_imp_iff]
    constructor
    · rintro ⟨first, -, behind⟩
      exact ⟨False.elim, fun _ => by omega⟩
    · rintro ⟨-, behind⟩
      exact ⟨by omega, False.elim, fun _ => by omega⟩

theorem reads_uncompressDestipaddr (addrContexts : List SicslowpanAddrContext) (iphc hc06 : Nat)
    (receiver : LinkAddr) :
    ReadsAddr mem
      (mem (iphc + 1) &&& iphcM = 0 ∧ mem (iphc + 1) &&& iphcDac ≠ 0 ∧
        mem (iphc + 1) &&& iphcCid ≠ 0)
      (destKnown addrContexts mem iphc) iphc hc06 (destipaddrLen (mem (iphc + 1)))
      (destipaddrSize (mem (iphc + 1)))
      (Reading.uncompressDestipaddr addrContexts (mem (iphc + 1)) iphc receiver hc06) := by
  unfold Reading.uncompressDestipaddr destKnown destipaddrLen
  change ReadsAddr _ _ _ _ _ _ _ (if _ then if _ then _ else
    if destMode (mem (iphc + 1)) > 0 ∧ destMode (mem (iphc + 1)) < 3 then _ else _ else _)
  have number := Reading.dci_value mem (mem (iphc + 1)) iphc
  generalize mem (iphc + 1) = iphc1 at number ⊢
  by_cases mcast : iphc1 &&& iphcM ≠ 0
  · have unicast : ¬ iphc1 &&& iphcM = 0 := mcast
    have needed : iphc1 &&& iphcM = 0 → iphc1 &&& iphcDac ≠ 0 →
        (addrContextLookupByNumber addrContexts
          (if iphc1 &&& iphcCid ≠ 0 then mem (iphc + 2) &&& 0x0f else 0)).isSome :=
      fun absent => absurd absent unicast
    have numbered : False ↔ iphc1 &&& iphcM = 0 ∧ iphc1 &&& iphcDac ≠ 0 ∧ iphc1 &&& iphcCid ≠ 0 :=
      iff_of_false id fun both => unicast both.1
    rw [if_pos mcast, if_pos mcast]
    by_cases dac : iphc1 &&& iphcDac ≠ 0
    · have nothing : destipaddrSize iphc1 = 0 := if_pos ⟨mcast, dac⟩
      rw [if_pos dac, if_pos dac, nothing]
      refine ⟨fun _ => ⟨[], rfl, rfl⟩, fun absent => absurd needed absent, fun limit => ?_⟩
      refine iff_of_true (Reads.below_pure mem limit _) ⟨fun both => absurd both.1 unicast, ?_⟩
      exact fun _ absent => absurd rfl absent
    · have whole : destipaddrSize iphc1 = 16 := if_neg fun both => dac both.2
      rw [if_neg dac, if_neg dac, whole]
      by_cases withScope : destMode iphc1 > 0 ∧ destMode iphc1 < 3
      · rw [if_pos withScope, if_pos withScope]
        have rest := @ReadsAddr.of_fits mem iphc (hc06 + 1) [0xff, mem hc06] _
          (uncMxconf_fits (destMode iphc1)) receiver
        exact (ReadsAddr.behindScope rest needed).of_iff numbered Iff.rfl
      · rw [if_neg withScope, if_neg withScope, Nat.zero_add]
        exact (@ReadsAddr.of_fits mem iphc hc06 [0xff, 0x02] _ (uncMxconf_fits _) receiver).of_iff
          numbered (iff_of_true trivial needed)
  · have unicast : iphc1 &&& iphcM = 0 := not_not.mp mcast
    have whole : destipaddrSize iphc1 = 16 := if_neg fun both => mcast both.1
    rw [if_neg mcast, if_neg mcast, whole, and_iff_right unicast, imp_iff_right unicast]
    by_cases dac : iphc1 &&& iphcDac ≠ 0
    · rw [if_pos dac, if_pos dac, and_iff_right dac, imp_iff_right dac]
      refine ReadsAddr.behind (fun limit => below_dci iphc1 iphc limit) ?_
      rw [number]
      cases addrContextLookupByNumber addrContexts _ with
      | none => exact ReadsAddr.stop.of_iff Iff.rfl (iff_of_false id Bool.noConfusion)
      | some context =>
        exact (ReadsAddr.of_context context _ receiver).of_iff Iff.rfl (iff_of_true trivial rfl)
    · rw [if_neg dac, if_neg dac]
      refine (@ReadsAddr.of_fits mem iphc hc06 llprefix _ (uncLlconf_fits _) receiver).of_iff ?_ ?_
      · exact iff_of_false id fun both => dac both.1
      · exact iff_of_true trivial fun some => absurd some dac

end

end MultiPhyTsch.Lowpan
