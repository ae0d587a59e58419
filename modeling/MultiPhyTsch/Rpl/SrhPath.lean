import MultiPhyTsch.Rpl.ExtHeader

/-! The path that a source-routing header is made from, its sizes and its addresses. -/

namespace MultiPhyTsch.Rpl

open MultiPhyTsch.Ipv6

inductive PathTo (sr : UipSr) (rootNode : Nat) : Nat → List Nat → Prop
  | child {node} : (sr.nodememb.mem node).parent = some rootNode → PathTo sr rootNode node []
  | up {node parent hops} : (sr.nodememb.mem node).parent = some parent → parent ≠ rootNode →
      PathTo sr rootNode parent hops → PathTo sr rootNode node (parent :: hops)

theorem climb_pathTo {sr : UipSr} {rootNode : Nat} {depth left : Nat} :
    ∀ {node : Nat}, sr.climb (some rootNode) depth (some node) = (some rootNode, left) →
      node = rootNode ∨ ∃ hops, PathTo sr rootNode node hops := by
  induction depth with
  | zero =>
    intro node climbed
    exact Or.inl (Option.some.inj (congrArg Prod.fst climbed))
  | succ depth ih =>
    intro node climbed
    unfold UipSr.climb at climbed
    by_cases top : some node = some rootNode
    · exact Or.inl (Option.some.inj top)
    · rw [if_neg top] at climbed
      right
      cases parent : (sr.nodememb.mem node).parent with
      | none =>
        rw [parent] at climbed
        cases depth with
        | zero => cases congrArg Prod.fst climbed
        | succ depth => cases congrArg Prod.fst climbed
      | some above =>
        rw [parent] at climbed
        by_cases top : above = rootNode
        · exact ⟨[], PathTo.child (top ▸ parent)⟩
        · rcases ih climbed with same | ⟨hops, path⟩
          · exact absurd same top
          · exact ⟨above :: hops, PathTo.up parent top path⟩

theorem hopsAbove_of_root (sr : UipSr) (rootNode fuel : Nat) :
    hopsAbove sr rootNode fuel (some rootNode) = some [] := by
  cases fuel <;> simp [hopsAbove]

variable {hops : List Nat}

theorem hopsAbove_pathTo {sr : UipSr} {rootNode node : Nat}
    (path : PathTo sr rootNode node hops) : ∀ {fuel : Nat} {found : List Nat},
      hopsAbove sr rootNode fuel (sr.nodememb.mem node).parent = some found → found = hops := by
  induction path with
  | child parent =>
    intro fuel found walked
    rw [parent, hopsAbove_of_root] at walked
    exact (Option.some.inj walked).symm
  | up parent other _ ih =>
    intro fuel found walked
    rw [parent] at walked
    cases fuel with
    | zero => simp [hopsAbove, other] at walked
    | succ fuel =>
      rw [hopsAbove, if_neg other] at walked
      obtain ⟨above, rest, rfl⟩ := Option.map_eq_some_iff.mp walked
      rw [ih rest]

theorem hopsBelow_pathTo {sr : UipSr} {rootNode node : Nat}
    (path : PathTo sr rootNode node hops) : ∀ {fuel : Nat} {found : List Nat × Option Nat},
      hopsBelow sr rootNode fuel (some node) = some found →
      found = ((node :: hops).dropLast, (node :: hops).getLast?) := by
  induction path with
  | child parent =>
    intro fuel found walked
    cases fuel <;>
      · rw [hopsBelow, if_pos parent] at walked
        exact (Option.some.inj walked).symm
  | @up node above hops parent other _ ih =>
    intro fuel found walked
    have notRoot : (sr.nodememb.mem node).parent ≠ some rootNode := by
      rw [parent]
      exact fun same => other (Option.some.inj same)
    cases fuel with
    | zero => simp [hopsBelow, notRoot] at walked
    | succ fuel =>
      rw [hopsBelow, if_neg notRoot, parent] at walked
      obtain ⟨below, rest, rfl⟩ := Option.map_eq_some_iff.mp walked
      rw [ih rest]
      rfl

def hopSize (cmpri : UInt8) : Nat := 16 - cmpri.toNat

variable (router : RplRouter)

def SharePrefix (count : Nat) (first second : UipIpaddr) : Prop :=
  first.toList.take count = second.toList.take count

theorem countMatchingBytes_shares (first second : UipIpaddr) {count : Nat}
    (below : count ≤ countMatchingBytes first second) : SharePrefix count first second := by
  apply List.ext_getElem?
  intro index
  rw [List.getElem?_take, List.getElem?_take]
  split
  next inside =>
    have matched : ∀ i ∈ (List.finRange 16).takeWhile (fun i => first.get i = second.get i),
        first.get i = second.get i := by
      intro i member
      simpa using List.all_eq_true.mp List.all_takeWhile i member
    have short : index < ((List.finRange 16).takeWhile
        fun i => first.get i = second.get i).length := Nat.lt_of_lt_of_le inside below
    have whole := (List.takeWhile_sublist (l := List.finRange 16)
      (fun i => first.get i = second.get i)).length_le
    rw [List.length_finRange] at whole
    have at_index : ((List.finRange 16).takeWhile fun i => first.get i = second.get i)[index] =
        ⟨index, by omega⟩ := by
      have isPrefix := List.takeWhile_prefix (l := List.finRange 16)
        (fun i => decide (first.get i = second.get i))
      rw [isPrefix.getElem short]
      simp
    have same := matched _ (List.getElem_mem short)
    rw [at_index] at same
    have inRange : index < 16 := by omega
    simpa [inRange, Vector.get] using same
  · rfl

theorem takeWhile_length_ge {p : Fin 16 → Bool} {count : Nat} (within : count ≤ 16)
    (holds : ∀ i : Fin 16, i.val < count → p i = true) :
    count ≤ ((List.finRange 16).takeWhile p).length := by
  rw [← List.take_append_drop count (List.finRange 16)]
  have all : ∀ i ∈ (List.finRange 16).take count, p i = true := by
    intro i member
    obtain ⟨index, bound, rfl⟩ := List.mem_iff_getElem.mp member
    rw [List.length_take] at bound
    exact holds _ (by simp; omega)
  rw [List.takeWhile_append_of_pos all, List.length_append, List.length_take,
    List.length_finRange]
  omega

theorem countMatchingBytes_ge {first second : UipIpaddr} {count : Nat} (within : count ≤ 16)
    (same : ∀ i : Fin 16, i.val < count → first.get i = second.get i) :
    count ≤ countMatchingBytes first second :=
  takeWhile_length_ge within fun i below => decide_eq_true (same i below)

theorem le_cmpri_fold (dest : UipIpaddr) {least : Nat} : ∀ {cmpri : UInt8},
    least ≤ (hops.foldl (fun cmpri node =>
      UInt8.ofNat (min cmpri.toNat (countMatchingBytes (router.nodeIpaddr node) dest))) cmpri).toNat ↔
      least ≤ cmpri.toNat ∧
        ∀ node ∈ hops, least ≤ countMatchingBytes (router.nodeIpaddr node) dest := by
  induction hops with
  | nil => simp
  | cons first hops ih =>
    intro cmpri
    have bound := UInt8.toNat_lt cmpri
    rw [List.foldl_cons, ih, List.forall_mem_cons, UInt8.toNat_ofNat', Nat.mod_eq_of_lt (by omega),
      Nat.le_min, and_assoc]

theorem cmpri_shares (dest : UipIpaddr) {node : Nat} (member : node ∈ hops) :
    SharePrefix (srhSizes router dest hops).cmpri.toNat (router.nodeIpaddr node) dest :=
  countMatchingBytes_shares _ _ (((le_cmpri_fold router dest).mp (Nat.le_refl _)).2 node member)

theorem cmpri_ge {dest : UipIpaddr} {destNode : Nat} (hops : List Nat)
    (found : router.nodeIpaddr destNode = dest) : 8 ≤ (srhSizes router dest hops).cmpri.toNat := by
  refine (le_cmpri_fold router dest).mpr ⟨by decide, ?_⟩
  intro node _
  refine countMatchingBytes_ge (by decide) ?_
  intro i below
  rw [← found]
  unfold RplRouter.nodeIpaddr getSrNodeIpaddr
  change (Vector.ofFn _)[i.val] = (Vector.ofFn _)[i.val]
  rw [Vector.getElem_ofFn, Vector.getElem_ofFn, if_pos below, if_pos below]

theorem cmpri_le (dest : UipIpaddr) (hops : List Nat) :
    (srhSizes router dest hops).cmpri.toNat ≤ 15 :=
  ((le_cmpri_fold router dest).mp (Nat.le_refl _)).1

theorem rawLen_eq (pathLen size : Nat) (alone : pathLen = 0 → size = 1) :
    (rplRhLen : Int) + rplSrhLen + ((pathLen : Int) - 1) * size + size =
      ((8 + pathLen * size : Nat) : Int) := by
  cases pathLen with
  | zero =>
    rw [alone rfl]
    rfl
  | succ pathLen =>
    have smaller : ((pathLen + 1 : Nat) : Int) - 1 = (pathLen : Int) := by omega
    rw [smaller, Nat.add_one_mul, ← Int.natCast_mul]
    simp only [rplRhLen, rplSrhLen]
    omega

def paddingOf (size : Nat) : Nat := (8 - size % 8) % 8

structure SizesFit (sizes : SrhSizes) (pathLen : Nat) : Prop where
  pathLen_eq : sizes.pathLen.toNat = pathLen
  cmpri_le : sizes.cmpri.toNat ≤ 15
  padding_eq : sizes.padding.toNat = paddingOf (pathLen * hopSize sizes.cmpri)
  extLen_eq : sizes.extLen.toNat =
    8 + pathLen * hopSize sizes.cmpri + paddingOf (pathLen * hopSize sizes.cmpri)

theorem ofInt_natCast (n : Nat) : UInt8.ofInt (n : Int) = UInt8.ofNat n := by
  apply UInt8.toNat_inj.mp
  simp only [UInt8.ofInt, UInt8.toNat_ofNat']
  omega

theorem padding_toNat (extLen : UInt8) :
    (if extLen % 8 = 0 then (0 : UInt8) else 8 - extLen % 8).toNat = paddingOf extLen.toNat := by
  have rest : (extLen % 8).toNat = extLen.toNat % 8 := by simp
  unfold paddingOf
  split
  next exact8 =>
    have zero := congrArg UInt8.toNat exact8
    rw [rest] at zero
    rw [zero]
    rfl
  next more =>
    have nonzero : extLen.toNat % 8 ≠ 0 := by
      intro zero
      exact more (UInt8.toNat_inj.mp (rest.trans zero))
    have within : extLen % 8 ≤ 8 := by
      rw [UInt8.le_iff_toNat_le, rest]
      change extLen.toNat % 8 ≤ 8
      omega
    rw [UInt8.toNat_sub_of_le _ _ within, rest]
    change 8 - extLen.toNat % 8 = _
    omega

theorem padded_toNat (extLen : UInt8) (small : extLen.toNat ≤ 248) :
    (extLen + if extLen % 8 = 0 then (0 : UInt8) else 8 - extLen % 8).toNat =
      extLen.toNat + paddingOf extLen.toNat := by
  rw [UInt8.toNat_add, padding_toNat]
  unfold paddingOf
  omega

theorem srhSizes_fit (dest : UipIpaddr) (hops : List Nat)
    (small : hops.length * hopSize (srhSizes router dest hops).cmpri ≤ 240) :
    SizesFit (srhSizes router dest hops) hops.length := by
  have below := cmpri_le router dest hops
  have alone : hops.length = 0 → hopSize (srhSizes router dest hops).cmpri = 1 := by
    intro empty
    rw [List.length_eq_zero_iff.mp empty]
    rfl
  have count : hops.length ≤ 240 := by
    refine Nat.le_trans (Nat.le_mul_of_pos_right _ ?_) small
    unfold hopSize
    omega
  have pathLen : (UInt8.ofNat hops.length).toNat = hops.length := by
    rw [UInt8.toNat_ofNat']
    omega
  have raw := rawLen_eq hops.length _ alone
  generalize size_eq : hopSize (srhSizes router dest hops).cmpri = size at small alone raw
  have asInt : ((16 : Int) - (srhSizes router dest hops).cmpri.toNat) = (size : Int) := by
    rw [← size_eq]
    unfold hopSize
    omega
  have extLen : UInt8.ofInt ((rplRhLen : Int) + rplSrhLen +
      (((UInt8.ofNat hops.length).toNat : Int) - 1) *
        (16 - (srhSizes router dest hops).cmpri.toNat) +
      (16 - (srhSizes router dest hops).cmpri.toNat)) = UInt8.ofNat (8 + hops.length * size) := by
    rw [pathLen, asInt, raw, ofInt_natCast]
  have extLen_toNat : (UInt8.ofNat (8 + hops.length * size)).toNat = 8 + hops.length * size := by
    rw [UInt8.toNat_ofNat']
    omega
  have padding := padding_toNat (UInt8.ofNat (8 + hops.length * size))
  have padded := padded_toNat (UInt8.ofNat (8 + hops.length * size)) (by omega)
  have samePadding : paddingOf (8 + hops.length * size) = paddingOf (hops.length * size) := by
    unfold paddingOf
    omega
  rw [extLen_toNat, samePadding] at padding padded
  rw [← extLen] at padding padded
  refine ⟨pathLen, below, ?_, ?_⟩
  · rw [size_eq]
    exact padding
  · rw [size_eq]
    exact padded

def hopBytes (router : RplRouter) (cmpri : Nat) (node : Nat) : List UInt8 :=
  (router.nodeIpaddr node).toList.drop cmpri

theorem hopBytes_length (cmpri node : Nat) : (hopBytes router cmpri node).length = 16 - cmpri := by
  simp [hopBytes]

theorem writeHops_other (cmpri : Nat) : ∀ {hopPtr : Nat} {buf : Memory UInt8} {address : Nat},
      hops.length * (16 - cmpri) ≤ hopPtr →
      address < hopPtr - hops.length * (16 - cmpri) ∨ hopPtr ≤ address →
      writeHops router cmpri hops hopPtr buf address = buf address := by
  induction hops with
  | nil => exact fun _ _ => rfl
  | cons node hops ih =>
    intro hopPtr buf address room outside
    rw [List.length_cons, Nat.add_one_mul] at room outside
    rw [writeHops, ih (by omega) (by omega)]
    rcases outside with before | after
    · exact buf.write_before _ (by omega)
    · apply buf.write_after
      have size := hopBytes_length router cmpri node
      unfold hopBytes at size
      omega

theorem writeHops_at (cmpri : Nat) :
    ∀ {hopPtr : Nat} {buf : Memory UInt8} {index : Nat} {node : Nat},
      hops.length * (16 - cmpri) ≤ hopPtr → hops[index]? = some node →
      (writeHops router cmpri hops hopPtr buf).read (hopPtr - (index + 1) * (16 - cmpri))
        (16 - cmpri) = hopBytes router cmpri node := by
  induction hops with
  | nil => exact fun _ found => nomatch found
  | cons first hops ih =>
    intro hopPtr buf index node room found
    rw [List.length_cons, Nat.add_one_mul] at room
    cases index with
    | zero =>
      obtain rfl := Option.some.inj found
      rw [writeHops, Nat.zero_add, Nat.one_mul]
      have same : (writeHops router cmpri hops (hopPtr - (16 - cmpri))
          (buf.write (hopPtr - (16 - cmpri)) (hopBytes router cmpri first))).read
            (hopPtr - (16 - cmpri)) (16 - cmpri) =
          (buf.write (hopPtr - (16 - cmpri)) (hopBytes router cmpri first)).read
            (hopPtr - (16 - cmpri)) (16 - cmpri) := by
        apply Memory.read_congr
        intro address after _
        exact writeHops_other router cmpri (by omega) (Or.inr after)
      refine Eq.trans same ?_
      exact buf.read_write_of_length _ (hopBytes_length router cmpri first)
    | succ index =>
      rw [writeHops]
      have rest := @ih (hopPtr - (16 - cmpri))
        (buf.write (hopPtr - (16 - cmpri)) (hopBytes router cmpri first)) index node
        (by omega) found
      have next : hopPtr - (index + 1 + 1) * (16 - cmpri) =
          hopPtr - (16 - cmpri) - (index + 1) * (16 - cmpri) := by
        rw [Nat.add_one_mul (index + 1)]
        omega
      rw [next]
      exact rest

end MultiPhyTsch.Rpl
