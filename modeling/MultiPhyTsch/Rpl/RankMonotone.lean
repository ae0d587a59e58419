import MultiPhyTsch.Rpl.Dag

/-! The rank of a node lies above the rank of its preferred parent. MRHOF bounds the rank from
below; OF0 returns the increase with 16 bits, which the product may exceed. -/

namespace MultiPhyTsch.Rpl

variable (conf : RplConf)

def RankIncreases (node : RplNode) : Prop :=
  ∀ nbr ∈ node.tables.items .rplNeighbors, node.parentCandidate conf false nbr →
    min ((node.rplNbr nbr).rank.toNat + node.currInstance.minHoprankinc.toNat) 0xffff ≤
      (node.rplNeighborRankViaNbr conf (some nbr)).toNat

def RankAboveParent (node : RplNode) : Prop :=
  node.currInstance.used → node.isRoot = false →
    ∀ parent, (node.rplDagUpdateState conf).currInstance.dag.preferredParent = some parent →
      ((node.rplDagUpdateState conf).rplNbr parent).rank <
          (node.rplDagUpdateState conf).currInstance.dag.rank ∨
        (node.rplDagUpdateState conf).currInstance.dag.rank = rplInfiniteRank

/-- With OF0, no multiple of 2^16 is reached by the last of the steps to a selectable neighbor,
unless the rank is infinite in spite of the wrap. -/
def IncreasesFit (node : RplNode) : Prop :=
  node.currInstance.of = .of0 → ∀ nbr ∈ node.tables.items .rplNeighbors,
    node.parentCandidate conf false nbr → ∀ wraps : Nat, 0 < wraps →
      (Of0.stepOfRank conf node nbr - 1) * node.currInstance.minHoprankinc.toNat < 65536 * wraps →
      65536 * wraps ≤ Of0.stepOfRank conf node nbr * node.currInstance.minHoprankinc.toNat →
      65535 + 65536 * (wraps : Int) ≤ (node.rplNbr nbr).rank.toNat +
        Of0.stepOfRank conf node nbr * node.currInstance.minHoprankinc.toNat

theorem cappedSum_toNat (rank increase : UInt16) :
    (cappedSum rank increase).toNat = min (rank.toNat + increase.toNat) 0xffff := by
  rw [cappedSum, UInt16.toNat_ofNat']
  omega

theorem ofInt_toNat (value : Int) (positive : 0 ≤ value) :
    (UInt16.ofInt value).toNat = value.toNat % 65536 := by
  rw [UInt16.ofInt, UInt16.toNat_ofNat']
  omega

theorem wrapped_increase_iff {rank minHoprankinc product : Nat} (lower : minHoprankinc ≤ product)
    (small : minHoprankinc < 65536) :
    min (rank + minHoprankinc) 0xffff ≤ min (rank + product % 65536) 0xffff ↔
      ∀ wraps : Nat, 0 < wraps → product < 65536 * wraps + minHoprankinc →
        65536 * wraps ≤ product → 65535 + 65536 * wraps ≤ rank + product := by
  constructor
  · intro bound wraps _ reached passed
    have last : product / 65536 = wraps := by omega
    omega
  · intro fits
    by_cases enough : minHoprankinc ≤ product % 65536
    · omega
    · have wrapped := fits (product / 65536) (by omega) (by omega) (by omega)
      omega

variable (node : RplNode)

theorem of0_rank_increases_iff (nbr : Nat) (acceptable : Of0.nbrIsAcceptableParent conf node nbr) :
    min ((node.rplNbr nbr).rank.toNat + node.currInstance.minHoprankinc.toNat) 0xffff ≤
        (Of0.rankViaNbr conf node nbr).toNat ↔
      ∀ wraps : Nat, 0 < wraps →
        (Of0.stepOfRank conf node nbr - 1) * node.currInstance.minHoprankinc.toNat < 65536 * wraps →
        65536 * wraps ≤ Of0.stepOfRank conf node nbr * node.currInstance.minHoprankinc.toNat →
        65535 + 65536 * (wraps : Int) ≤ (node.rplNbr nbr).rank.toNat +
          Of0.stepOfRank conf node nbr * node.currInstance.minHoprankinc.toNat := by
  simp only [Of0.nbrIsAcceptableParent, decide_eq_true_eq] at acceptable
  obtain ⟨step, step_eq⟩ := Int.eq_ofNat_of_zero_le (show 0 ≤ Of0.stepOfRank conf node nbr by omega)
  have small : node.currInstance.minHoprankinc.toNat < 65536 := UInt16.toNat_lt _
  have lower : node.currInstance.minHoprankinc.toNat ≤
      step * node.currInstance.minHoprankinc.toNat := Nat.le_mul_of_pos_left _ (by omega)
  have product : (Of0.nbrRankIncrease conf node nbr).toNat =
      step * node.currInstance.minHoprankinc.toNat % 65536 := by
    rw [Of0.nbrRankIncrease, step_eq, ← Int.natCast_mul, ofInt_toNat _ (Int.natCast_nonneg _),
      Int.toNat_natCast]
  rw [Of0.rankViaNbr, cappedSum_toNat, product, wrapped_increase_iff lower small]
  simp only [step_eq, Int.sub_mul, Int.one_mul, ← Int.natCast_mul]
  constructor
  · intro fits wraps positive reached passed
    have bound := fits wraps positive (by omega) (by omega)
    omega
  · intro fits wraps positive reached passed
    have bound := fits wraps positive (by omega) (by omega)
    omega

theorem uint16Max_toNat (a b : UInt16) : (max a b).toNat = max a.toNat b.toNat := by
  have choice : max a b = if a ≤ b then b else a := rfl
  rw [choice]
  split
  · rename_i below
    exact (Nat.max_eq_right (UInt16.le_iff_toNat_le.mp below)).symm
  · rename_i above
    exact (Nat.max_eq_left (Nat.le_of_not_le fun below => above (UInt16.le_iff_toNat_le.mpr below))).symm

theorem mrhof_rank_increases (nbr : Nat) :
    min ((node.rplNbr nbr).rank.toNat + node.currInstance.minHoprankinc.toNat) 0xffff ≤
      (Mrhof.rankViaNbr conf node nbr).toNat := by
  rw [← cappedSum_toNat, Mrhof.rankViaNbr, uint16Max_toNat]
  exact Nat.le_max_left _ _

theorem rankIncreases_iff : RankIncreases conf node ↔ IncreasesFit conf node := by
  unfold RankIncreases IncreasesFit
  cases objective : node.currInstance.of with
  | mrhof =>
    constructor
    · intro _ other
      contradiction
    · intro _ nbr _ _
      rw [RplNode.rplNeighborRankViaNbr, objective]
      exact mrhof_rank_increases conf node nbr
  | of0 =>
    have each : ∀ nbr, node.parentCandidate conf false nbr →
        Of0.nbrIsAcceptableParent conf node nbr := by
      intro nbr candidate
      simp only [RplNode.parentCandidate, objective, RplOf.nbrIsAcceptableParent,
        Bool.and_eq_true] at candidate
      exact candidate.1.1.2
    have via : ∀ nbr, node.rplNeighborRankViaNbr conf (some nbr) = Of0.rankViaNbr conf node nbr := by
      intro nbr
      rw [RplNode.rplNeighborRankViaNbr, objective]
      rfl
    constructor
    · intro increases _ nbr member candidate
      have bound := increases nbr member candidate
      rw [via] at bound
      exact (of0_rank_increases_iff conf node nbr (each nbr candidate)).mp bound
    · intro fits nbr member candidate
      rw [via]
      exact (of0_rank_increases_iff conf node nbr (each nbr candidate)).mpr
        (fits rfl nbr member candidate)

theorem bestAcceptable_some {acceptable : Nat → Bool} {better : Nat → Nat → Option Nat}
    (one : ∀ nbr1 nbr2 chosen, better nbr1 nbr2 = some chosen → chosen = nbr1 ∨ chosen = nbr2)
    {nbr1 nbr2 : Option Nat} {chosen : Nat}
    (found : bestAcceptable acceptable better nbr1 nbr2 = some chosen) :
    nbr1 = some chosen ∨ nbr2 = some chosen := by
  unfold bestAcceptable at found
  cases first : nbr1.filter acceptable with
  | none =>
    simp only [first] at found
    exact Or.inr (Option.filter_eq_some_iff.mp found).1
  | some nbr1 =>
    have firstIs := (Option.filter_eq_some_iff.mp first).1
    cases second : nbr2.filter acceptable with
    | none =>
      simp only [first, second] at found
      exact Or.inl (firstIs.trans found)
    | some nbr2 =>
      have secondIs := (Option.filter_eq_some_iff.mp second).1
      simp only [first, second] at found
      rcases one nbr1 nbr2 chosen found with rfl | rfl
      · exact Or.inl firstIs
      · exact Or.inr secondIs

theorem of_bestParent_some (objective : RplOf) {nbr1 nbr2 : Option Nat}
    {chosen : Nat} (found : objective.bestParent conf node nbr1 nbr2 = some chosen) :
    nbr1 = some chosen ∨ nbr2 = some chosen := by
  cases objective with
  | of0 =>
    refine bestAcceptable_some ?_ found
    intro nbr1 nbr2 chosen better
    split at better
    · split at better
      · exact Or.inl (Option.some.inj better).symm
      · exact Or.inr (Option.some.inj better).symm
    · split at better
      · rename_i tied
        rw [better] at tied
        simpa [eq_comm] using tied
      · split at better
        · exact Or.inl (Option.some.inj better).symm
        · exact Or.inr (Option.some.inj better).symm
  | mrhof =>
    refine bestAcceptable_some ?_ found
    intro nbr1 nbr2 chosen better
    split at better
    · exact Or.inl (Option.some.inj better).symm
    · split at better
      · exact Or.inr (Option.some.inj better).symm
      · split at better
        · exact Or.inl (Option.some.inj better).symm
        · exact Or.inr (Option.some.inj better).symm

theorem parentCandidate_fresh {freshOnly : Bool} {node : RplNode} {nbr : Nat}
    (candidate : node.parentCandidate conf freshOnly nbr) : node.parentCandidate conf false nbr := by
  simp only [RplNode.parentCandidate, Bool.and_eq_true] at candidate ⊢
  exact ⟨⟨candidate.1.1, rfl⟩, candidate.2⟩

theorem bestParent_mem {freshOnly : Bool} {node : RplNode} {best : Nat}
    (found : node.bestParent conf freshOnly = some best) :
    best ∈ node.tables.items .rplNeighbors ∧ node.parentCandidate conf false best := by
  unfold RplNode.bestParent at found
  split at found
  · have picked := foldl_some_mem (fun before nbr chosen one => by
      rcases of_bestParent_some conf node _ one with same | same
      · exact Or.inl same
      · exact Or.inr (Option.some.inj same).symm) _ _ _ found
    rcases picked with none | member
    · contradiction
    · obtain ⟨member, candidate⟩ := List.mem_filter.mp member
      exact ⟨member, parentCandidate_fresh conf candidate⟩
  · contradiction

theorem selectBest_mem {node : RplNode} {best : Nat} (found : node.selectBest conf = some best) :
    best ∈ node.tables.items .rplNeighbors ∧ node.parentCandidate conf false best := by
  unfold RplNode.selectBest at found
  split at found
  · contradiction
  · dsimp only at found
    split at found
    · split at found
      · exact bestParent_mem conf found
      · cases fresh : node.bestParent conf true with
        | some bestFresh =>
          simp only [fresh] at found
          exact bestParent_mem conf (fresh.trans found)
        | none =>
          simp only [fresh] at found
          split at found
          · contradiction
          · exact bestParent_mem conf found
    · exact bestParent_mem conf found

structure SameRanks (node next : RplNode) : Prop where
  lladdr : next.tables.neighborAddrMem = node.tables.neighborAddrMem
  linkStats : next.linkStats = node.linkStats
  objective : next.currInstance.of = node.currInstance.of
  minHoprankinc : next.currInstance.minHoprankinc = node.currInstance.minHoprankinc
  mc : next.currInstance.mc = node.currInstance.mc
  rank : ∀ nbr, (next.rplNbr nbr).rank = (node.rplNbr nbr).rank
  nbrMc : ∀ nbr, (next.rplNbr nbr).mc = (node.rplNbr nbr).mc

theorem SameRanks.refl : SameRanks node node :=
  ⟨rfl, rfl, rfl, rfl, rfl, fun _ => rfl, fun _ => rfl⟩

theorem SameRanks.linkMetric {node next : RplNode} (same : SameRanks node next) (nbr : Nat) :
    nbrLinkMetric next nbr = nbrLinkMetric node nbr := by
  simp only [nbrLinkMetric, RplNode.rplNeighborGetLinkStats, same.lladdr, same.linkStats]

theorem SameRanks.rankVia {node next : RplNode} (same : SameRanks node next) (nbr : Option Nat) :
    next.rplNeighborRankViaNbr conf nbr = node.rplNeighborRankViaNbr conf nbr := by
  cases nbr with
  | none => rfl
  | some nbr =>
    simp only [RplNode.rplNeighborRankViaNbr, same.objective, Option.map_some, Option.getD_some]
    cases node.currInstance.of with
    | of0 =>
      simp only [RplOf.rankViaNbr, Of0.rankViaNbr, Of0.nbrRankIncrease, Of0.stepOfRank,
        same.linkMetric, same.minHoprankinc, same.rank]
    | mrhof =>
      simp only [RplOf.rankViaNbr, Mrhof.rankViaNbr, Mrhof.nbrPathCost, Mrhof.pathCostBase,
        same.linkMetric, same.minHoprankinc, same.rank, same.mc, same.nbrMc]

theorem uipDs6DefrtRm_eq (ipaddr : Option UipIpaddr) (node : RplNode) :
    node.uipDs6DefrtRm ipaddr =
      { node with defaultrouterlist := ipaddr.elim node.defaultrouterlist node.defaultrouterlist.erase } := by
  cases ipaddr <;> rfl

theorem uipDs6DefrtAdd_eq (ipaddr : Option UipIpaddr) (node : RplNode) :
    node.uipDs6DefrtAdd conf ipaddr =
      { node with defaultrouterlist := routersAdd conf node.defaultrouterlist ipaddr } := by
  cases ipaddr with
  | none => rfl
  | some ipaddr =>
    simp only [RplNode.uipDs6DefrtAdd, routersAdd, Option.elim_some]
    split
    · rfl
    · split <;> rfl

theorem setPreferredParent_eq {nbr : Option Nat} {node : RplNode}
    (changed : node.currInstance.dag.preferredParent ≠ nbr) :
    node.setPreferredParent conf nbr =
      { node with
        tables := (node.tables.nbrTableUnlock .rplNeighbors
          node.currInstance.dag.preferredParent).nbrTableLock .rplNeighbors nbr
        defaultrouterlist := routersAdd conf
          ((node.rplNeighborGetIpaddr node.currInstance.dag.preferredParent).elim
            node.defaultrouterlist node.defaultrouterlist.erase) (node.rplNeighborGetIpaddr nbr)
        currInstance := { node.currInstance with
          dag := { node.currInstance.dag with preferredParent := nbr } } } := by
  have sameAddress : ∀ item : Option Nat, (node.onTables fun tables =>
      (tables.nbrTableUnlock .rplNeighbors node.currInstance.dag.preferredParent).nbrTableLock
        .rplNeighbors nbr).rplNeighborGetIpaddr item = node.rplNeighborGetIpaddr item := by
    intro item
    cases node.currInstance.dag.preferredParent <;> cases nbr <;> rfl
  rw [RplNode.setPreferredParent, if_neg changed]
  simp only [uipDs6DefrtRm_eq, uipDs6DefrtAdd_eq, sameAddress]
  have laterAddress : ∀ routers, RplNode.rplNeighborGetIpaddr
      { node.onTables fun tables =>
          (tables.nbrTableUnlock .rplNeighbors node.currInstance.dag.preferredParent).nbrTableLock
            .rplNeighbors nbr with defaultrouterlist := routers } nbr =
        node.rplNeighborGetIpaddr nbr := fun routers => sameAddress nbr
  rw [laterAddress]
  rfl

theorem setPreferredParent_frame (nbr : Option Nat) (node : RplNode) :
    ∃ lockedMap defaultrouterlist, node.setPreferredParent conf nbr =
      { node with
        tables := { node.tables with lockedMap := lockedMap }
        defaultrouterlist := defaultrouterlist
        currInstance := { node.currInstance with
          dag := { node.currInstance.dag with preferredParent := nbr } } } := by
  by_cases same : node.currInstance.dag.preferredParent = nbr
  · rw [RplNode.setPreferredParent, if_pos same]
    subst same
    exact ⟨_, _, rfl⟩
  · have locks : (node.tables.nbrTableUnlock .rplNeighbors
        node.currInstance.dag.preferredParent).nbrTableLock .rplNeighbors nbr =
          { node.tables with
            lockedMap := ((node.tables.nbrTableUnlock .rplNeighbors
              node.currInstance.dag.preferredParent).nbrTableLock .rplNeighbors nbr).lockedMap } := by
      cases node.currInstance.dag.preferredParent <;> cases nbr <;> rfl
    rw [setPreferredParent_eq conf same, locks]
    exact ⟨_, _, rfl⟩

theorem selectUrgentProbing_frame : ∃ target,
    node.selectUrgentProbing conf = node.onDag fun dag => { dag with urgentProbingTarget := target } := by
  unfold RplNode.selectUrgentProbing
  split
  · split
    · exact ⟨_, rfl⟩
    · exact ⟨node.currInstance.dag.urgentProbingTarget, rfl⟩
  · exact ⟨node.currInstance.dag.urgentProbingTarget, rfl⟩

theorem SameRanks.trans {node between next : RplNode} (first : SameRanks node between)
    (second : SameRanks between next) : SameRanks node next :=
  ⟨second.lladdr.trans first.lladdr, second.linkStats.trans first.linkStats,
    second.objective.trans first.objective, second.minHoprankinc.trans first.minHoprankinc,
    second.mc.trans first.mc, fun nbr => (second.rank nbr).trans (first.rank nbr),
    fun nbr => (second.nbrMc nbr).trans (first.nbrMc nbr)⟩

theorem onDag_sameRanks (change : RplDag → RplDag) (node : RplNode) :
    SameRanks node (node.onDag change) := ⟨rfl, rfl, rfl, rfl, rfl, fun _ => rfl, fun _ => rfl⟩

theorem updateBetterParentSince_sameRanks (nbr : Nat) :
    SameRanks node (RplNode.updateBetterParentSince conf node nbr) := by
  refine ⟨rfl, rfl, rfl, rfl, rfl, ?_, ?_⟩ <;>
  · intro other
    by_cases same : other = nbr
    · subst same
      simp [RplNode.updateBetterParentSince, RplNode.onNbr]
    · simp [RplNode.updateBetterParentSince, RplNode.onNbr, same]

theorem foldl_updateBetterParentSince_frame (nbrs : List Nat) : ∀ node : RplNode,
    ∃ items, nbrs.foldl (RplNode.updateBetterParentSince conf) node = { node with rplNbr := items } ∧
      SameRanks node { node with rplNbr := items } := by
  induction nbrs with
  | nil => exact fun node => ⟨node.rplNbr, rfl, SameRanks.refl node⟩
  | cons nbr rest ih =>
    intro node
    obtain ⟨items, rest_eq, same⟩ := ih (RplNode.updateBetterParentSince conf node nbr)
    exact ⟨items, rest_eq, (updateBetterParentSince_sameRanks conf node nbr).trans same⟩

theorem updateParent_frame (node : RplNode) : ∃ target lockedMap routers items,
    node.chooseParent conf =
      { node with
        tables := { node.tables with lockedMap := lockedMap }
        defaultrouterlist := routers
        currInstance := { node.currInstance with
          dag := { node.currInstance.dag with
            preferredParent := node.selectBest conf
            urgentProbingTarget := target } } } ∧
    node.updateParent conf = RplNode.onDag
      (fun dag => RplNode.updateDagAfterRank conf node.currInstance.dag.preferredParent
        { dag with rank := node.rplNeighborRankViaNbr conf (node.selectBest conf) })
      { node.chooseParent conf with rplNbr := items } ∧
    SameRanks node (node.updateParent conf) := by
  obtain ⟨target, probed⟩ := selectUrgentProbing_frame conf node
  obtain ⟨lockedMap, routers, changed⟩ :=
    setPreferredParent_frame conf (node.selectBest conf) (node.selectUrgentProbing conf)
  rw [probed] at changed
  have chosen := (congrArg (RplNode.setPreferredParent conf _) probed).trans changed
  change node.chooseParent conf = _ at chosen
  have ranks : SameRanks node (node.chooseParent conf) := by
    rw [chosen]
    exact ⟨rfl, rfl, rfl, rfl, rfl, fun _ => rfl, fun _ => rfl⟩
  obtain ⟨items, compared, same⟩ := foldl_updateBetterParentSince_frame conf
    ((node.chooseParent conf).tables.items .rplNeighbors) ((node.chooseParent conf).onDag fun dag =>
      { dag with rank := (node.chooseParent conf).rplNeighborRankViaNbr conf dag.preferredParent })
  have updated := congrArg
    (RplNode.onDag (RplNode.updateDagAfterRank conf node.currInstance.dag.preferredParent)) compared
  change node.updateParent conf = _ at updated
  refine ⟨target, lockedMap, routers, items, chosen, ?_, ?_⟩
  · rw [updated, ← ranks.rankVia conf, chosen]
    rfl
  · rw [updated]
    exact ((ranks.trans (onDag_sameRanks _ _)).trans same).trans (onDag_sameRanks _ _)

theorem updateParent_spec :
    (node.updateParent conf).currInstance.dag.preferredParent = node.selectBest conf ∧
      (node.updateParent conf).currInstance.dag.rank =
        node.rplNeighborRankViaNbr conf (node.selectBest conf) ∧
      SameRanks node (node.updateParent conf) := by
  obtain ⟨target, lockedMap, routers, items, chosen, updated, same⟩ := updateParent_frame conf node
  refine ⟨?_, ?_, same⟩
  · rw [updated, chosen]
    rfl
  · rw [updated]
    rfl

theorem rank_above_of_bound {parentRank minHoprankinc rank : UInt16} (positive : 0 < minHoprankinc)
    (bound : min (parentRank.toNat + minHoprankinc.toNat) 0xffff ≤ rank.toNat) :
    parentRank < rank ∨ rank = rplInfiniteRank := by
  have step : 0 < minHoprankinc.toNat := UInt16.lt_iff_toNat_lt.mp positive
  have top := UInt16.toNat_lt rank
  rw [UInt16.lt_iff_toNat_lt, ← UInt16.toNat_inj]
  change _ ∨ rank.toNat = 65535
  omega

theorem rankAboveParent_of_increases {node : RplNode}
    (positive : 0 < node.currInstance.minHoprankinc) (increases : RankIncreases conf node) :
    RankAboveParent conf node := by
  intro used notRoot parent
  unfold RplNode.rplDagUpdateState
  rw [if_pos used]
  split
  · intro found
    have none := setPreferredParent_frame conf Option.none node
    obtain ⟨lockedMap, routers, changed⟩ := none
    rw [changed] at found
    exact nomatch found
  · rw [notRoot, if_neg Bool.false_ne_true]
    obtain ⟨chosen, ranked, same⟩ := updateParent_spec conf node
    intro found
    change (node.updateParent conf).currInstance.dag.preferredParent = some parent at found
    change ((node.updateParent conf).rplNbr parent).rank <
      (node.updateParent conf).currInstance.dag.rank ∨
        (node.updateParent conf).currInstance.dag.rank = rplInfiniteRank
    rw [chosen] at found
    obtain ⟨member, candidate⟩ := selectBest_mem conf found
    rw [ranked, same.rank, found]
    exact rank_above_of_bound positive (increases parent member candidate)

/-- The bound on the ranks and the order between a node and its parent hold exactly if the
increases that OF0 computes fit. -/
theorem rank_monotone_iff (node : RplNode) (positive : 0 < node.currInstance.minHoprankinc) :
    (RankIncreases conf node ∧ RankAboveParent conf node) ↔ IncreasesFit conf node := by
  rw [← rankIncreases_iff]
  constructor
  · exact And.left
  · intro increases
    exact ⟨increases, rankAboveParent_of_increases conf positive increases⟩

/-- A build with both objective functions and the default values of `rpl-conf.h`. -/
def rplConf : RplConf :=
  { supportedOfs := [.mrhof, .of0]
    ofOcp := 1
    etxDivisor := 128
    maxLinkMetric := 512
    maxPathCost := 32768
    squaredEtx := false
    withMc := false
    withProbing := true
    nd6SendNs := false
    findRemovable := true
    dagMc := rplDagMcNone
    timeThreshold := 76800
    significantChangeThreshold := 512
    mopDefault := 1
    maxRankinc := 1024
    minHoprankinc := 128
    preference := 0
    grounded := 0
    defrtNb := 2
    defrtNb_pos := by decide }

def parentIpaddr : UipIpaddr := #v[0xfe, 0x80, 0, 0, 0, 0, 0, 0, 2, 2, 2, 2, 2, 2, 2, 2]

/-- A node that has joined a DAG with OF0 and knows one neighbor, a child of the root, over a link
with an ETX of 171/128. -/
def joinedNode (minHoprankinc : RplRank) : RplNode :=
  { tables :=
      { neighborAddrMem := ⟨4, fun key => if key = 0 then 1 else 0, fun _ => Vector.replicate 8 2⟩
        nbrTableKeys := [0]
        usedMap := fun key _ => key == 0
        lockedMap := fun _ _ => false }
    ds6Nbr := fun _ => ⟨parentIpaddr, .reachable⟩
    rplNbr := fun _ => ⟨0, default, minHoprankinc⟩
    defaultrouterlist := []
    currInstance := { rplInstanceZero with
      used := true
      minHoprankinc := minHoprankinc
      dag := { rplInstanceZero.dag with
        rank := rplInfiniteRank
        lastAdvertisedRank := rplInfiniteRank
        lowestRank := rplInfiniteRank } }
    linkStats := fun _ => some ⟨171, true⟩
    clockTime := 1 }

theorem joinedNode_rank_monotone :
    RankIncreases rplConf (joinedNode 256) ∧ RankAboveParent rplConf (joinedNode 256) := by
  refine (rank_monotone_iff rplConf (joinedNode 256) (by decide)).mpr ?_
  intro _ nbr member _ wraps positive _ passed
  have only : (joinedNode 256).tables.items .rplNeighbors = [0] := by decide
  obtain rfl : nbr = 0 := List.mem_singleton.mp (only ▸ member)
  have product : Of0.stepOfRank rplConf (joinedNode 256) 0 *
      (joinedNode 256).currInstance.minHoprankinc.toNat = 512 := by decide
  omega

theorem wrapped_increase_keeps_rank :
    let updated := (joinedNode 32768).rplDagUpdateState rplConf
    updated.currInstance.dag.preferredParent = some 0 ∧
      updated.currInstance.dag.rank = (updated.rplNbr 0).rank ∧
      ¬ (RankIncreases rplConf (joinedNode 32768) ∧ RankAboveParent rplConf (joinedNode 32768)) := by
  refine ⟨by decide, by decide, ?_⟩
  rintro ⟨increases, -⟩
  have bound := increases 0 (by decide) (by decide)
  exact absurd bound (by decide)

end MultiPhyTsch.Rpl
