import MultiPhyTsch.Rpl.PreferredParent

/-! How far the rank of a node rises above the lowest one it has had with a parent. -/

namespace MultiPhyTsch.Rpl

variable (conf : RplConf)

def RplNode.rankPart (node : RplNode) : Option Nat × RplRank × RplRank × RplRank :=
  (node.currInstance.dag.preferredParent, node.currInstance.dag.rank,
    node.currInstance.dag.lowestRank, node.currInstance.maxRankinc)

def RankKept (node next : RplNode) : Prop :=
  next.currInstance.dag.preferredParent = none ∨ next.rankPart = node.rankPart

theorem RankKept.of_eq {node next : RplNode} (same : next.rankPart = node.rankPart) :
    RankKept node next := Or.inr same

theorem RankKept.trans {node between next : RplNode} (first : RankKept node between)
    (second : RankKept between next) : RankKept node next := by
  rcases second with none | same
  · exact Or.inl none
  · rcases first with none | before
    · left
      have parent : next.currInstance.dag.preferredParent =
          between.currInstance.dag.preferredParent := congrArg Prod.fst same
      rw [parent, none]
    · exact Or.inr (same.trans before)

theorem removeKey_rankPart (key : Nat) (node : RplNode) :
    (node.removeKey key).rankPart = node.rankPart := by
  unfold RplNode.removeKey
  dsimp only
  split
  · split
    · rfl
    · rfl
  · split
    · rfl
    · rfl

theorem removableKey_rankPart (reason : NbrTableReason) (node : RplNode) :
    (node.removableKey conf reason).2.rankPart = node.rankPart := by
  unfold RplNode.removableKey
  split
  · split
    · rfl
    · rfl
  · rfl

theorem nbrTableAllocate_rankPart (reason : NbrTableReason) (node : RplNode) :
    (node.nbrTableAllocate conf reason).2.rankPart = node.rankPart := by
  have evicted : ∀ (key : Option Nat) (before : RplNode),
      (key.elim before fun key => before.removeKey key).rankPart = before.rankPart := by
    intro key before
    cases key with
    | none => rfl
    | some key => exact removeKey_rankPart key before
  unfold RplNode.nbrTableAllocate
  split
  · rfl
  · dsimp only
    rw [evicted]
    split
    · exact removableKey_rankPart conf reason node
    · rfl

theorem keyOfLladdr_rankPart (lladdr : Option LinkAddr) (reason : NbrTableReason) (node : RplNode) :
    (node.keyOfLladdr conf lladdr reason).2.rankPart = node.rankPart := by
  have allocated := nbrTableAllocate_rankPart conf reason node
  unfold RplNode.keyOfLladdr
  split
  · rfl
  · split
    · rename_i found
      rw [found] at allocated
      exact allocated
    · rename_i found
      rw [found] at allocated
      exact allocated

theorem nbrTableAddLladdr_rankPart (table : NbrTableId) (lladdr : Option LinkAddr)
    (reason : NbrTableReason) (node : RplNode) :
    (node.nbrTableAddLladdr conf table lladdr reason).2.rankPart = node.rankPart := by
  have key := keyOfLladdr_rankPart conf lladdr reason node
  unfold RplNode.nbrTableAddLladdr
  split
  · rename_i found
    rw [found] at key
    exact key
  · rename_i found
    rw [found] at key
    exact key

theorem uipDs6NbrAdd_rankPart (ipaddr : UipIpaddr) (lladdr : Option LinkAddr) (state : Ds6NbrState)
    (reason : NbrTableReason) (node : RplNode) :
    (node.uipDs6NbrAdd conf ipaddr lladdr state reason).2.rankPart = node.rankPart := by
  have added := nbrTableAddLladdr_rankPart conf .ds6Neighbors lladdr reason node
  unfold RplNode.uipDs6NbrAdd
  split
  · rename_i found
    rw [found] at added
    exact added
  · rename_i found
    rw [found] at added
    exact added

variable (sender : LinkAddr)

theorem rplIcmp6UpdateNbrTable_rankPart («from» : UipIpaddr)
    (reason : NbrTableReason) (node : RplNode) :
    (node.rplIcmp6UpdateNbrTable conf sender «from» reason).2.rankPart = node.rankPart := by
  unfold RplNode.rplIcmp6UpdateNbrTable
  split
  · rfl
  · exact uipDs6NbrAdd_rankPart conf «from» (some sender) .reachable reason node

theorem updateNbrFromDio_rankPart («from» : UipIpaddr) (dio : RplDio) (node : RplNode) :
    (node.updateNbrFromDio conf «from» dio).2.rankPart = node.rankPart := by
  unfold RplNode.updateNbrFromDio
  dsimp only
  split
  · rfl
  · split
    · rfl
    · rename_i lladdr _
      have added := nbrTableAddLladdr_rankPart conf .rplNeighbors (some lladdr) (.rplDio dio) node
      split
      · rename_i found
        rw [found] at added
        exact added
      · rename_i found
        rw [found] at added
        exact added

variable (node : RplNode)

theorem updateParent_lowestRank : (node.updateParent conf).currInstance.dag.lowestRank =
        (if node.currInstance.dag.preferredParent.isNone ||
            (node.updateParent conf).currInstance.dag.rank < node.currInstance.dag.lowestRank then
          (node.updateParent conf).currInstance.dag.rank
        else node.currInstance.dag.lowestRank) ∧
      (node.updateParent conf).currInstance.maxRankinc = node.currInstance.maxRankinc := by
  obtain ⟨target, lockedMap, routers, items, chosen, updated, -⟩ := updateParent_frame conf node
  rw [updated, chosen]
  exact ⟨rfl, rfl⟩

theorem rplDagUpdateState_rankKept {node : RplNode}
    (empty : node.tables.items .rplNeighbors = []) : RankKept node (node.rplDagUpdateState conf) := by
  have nothing : node.selectBest conf = none := by
    cases chosen : node.selectBest conf with
    | none => rfl
    | some nbr =>
      have member := (selectBest_mem conf chosen).1
      rw [empty] at member
      cases member
  unfold RplNode.rplDagUpdateState
  split
  · split
    · left
      obtain ⟨lockedMap, routers, changed⟩ := setPreferredParent_frame conf none node
      rw [changed]
      rfl
    · split
      · exact Or.inr rfl
      · left
        have parent := (updateParent_spec conf node).1
        rw [nothing] at parent
        exact parent
  · exact Or.inr rfl

theorem foldl_removeNeighbor_rankPart (nbrs : List Nat) : ∀ node : RplNode,
    (nbrs.foldl RplNode.removeNeighbor node).rankPart = node.rankPart := by
  induction nbrs with
  | nil => exact fun node => rfl
  | cons nbr rest ih => exact fun node => ih (node.removeNeighbor nbr)

theorem rplNeighborRemoveAll_rankKept : RankKept node (node.rplNeighborRemoveAll conf) := by
  have removed := foldl_removeNeighbor (node.tables.items .rplNeighbors) node
  have part := foldl_removeNeighbor_rankPart (node.tables.items .rplNeighbors) node
  unfold RplNode.rplNeighborRemoveAll
  refine (RankKept.of_eq part).trans (rplDagUpdateState_rankKept conf ?_)
  rw [NbrTables.items, List.filter_eq_nil_iff]
  intro key member used
  obtain ⟨absent, before⟩ := (removed.used key).mp used
  rw [removed.keys] at member
  exact absent (List.mem_filter.mpr ⟨member, before⟩)

theorem rplLocalRepair_rankKept : RankKept node (node.rplLocalRepair conf) := by
  unfold RplNode.rplLocalRepair
  split
  · split
    · exact rplNeighborRemoveAll_rankKept conf node
    · exact (RankKept.of_eq rfl).trans (rplNeighborRemoveAll_rankKept conf _)
  · exact Or.inr rfl

theorem rplGlobalRepair_rankKept : RankKept node (node.rplGlobalRepair conf) := by
  unfold RplNode.rplGlobalRepair
  split
  · exact (RankKept.of_eq rfl).trans (rplLocalRepair_rankKept conf _)
  · exact Or.inr rfl

theorem adoptVersion_rankKept (dio : RplDio) (node : RplNode) :
    RankKept node (node.adoptVersion conf dio) := by
  unfold RplNode.adoptVersion
  split
  · split
    · exact (RankKept.of_eq rfl).trans (rplGlobalRepair_rankKept conf _)
    · unfold RplNode.globalRepairNonRoot
      split
      · exact Or.inr rfl
      · refine RankKept.trans (Or.inl ?_) (rplLocalRepair_rankKept conf _)
        exact initDagFromDio_parent conf dio
  · exact Or.inr rfl

theorem processDioFromCurrentDag_rankKept («from» : UipIpaddr) (dio : RplDio)
    (node : RplNode) : RankKept node (node.processDioFromCurrentDag conf sender «from» dio) := by
  unfold RplNode.processDioFromCurrentDag
  split
  · exact Or.inr rfl
  · split
    · exact Or.inr rfl
    · have adopted := adoptVersion_rankKept conf dio node
      have known := rplIcmp6UpdateNbrTable_rankPart conf sender «from» (.rplDio dio)
        (node.adoptVersion conf dio)
      split
      · rename_i found
        rw [found] at known
        exact (adopted.trans (RankKept.of_eq known)).trans
          (RankKept.of_eq (updateNbrFromDio_rankPart conf «from» dio _))
      · rename_i found
        rw [found] at known
        exact adopted.trans (RankKept.of_eq known)

theorem processDioInitDag_rankKept (dio : RplDio) (node : RplNode) :
    RankKept node (node.processDioInitDag conf dio) := by
  unfold RplNode.processDioInitDag
  split
  · exact Or.inr rfl
  · exact Or.inl (initDagFromDio_parent conf dio)

theorem receiveDio_rankKept («from» : UipIpaddr) (dio : RplDio)
    (node : RplNode) : RankKept node (node.receiveDio conf sender «from» dio) := by
  have joined : RankKept node
      (if node.currInstance.used then node else node.processDioInitDag conf dio) := by
    split
    · exact Or.inr rfl
    · exact processDioInitDag_rankKept conf dio node
  unfold RplNode.receiveDio
  generalize (if node.currInstance.used then node
    else node.processDioInitDag conf dio) = before at joined ⊢
  dsimp only
  split
  · exact joined.trans (processDioFromCurrentDag_rankKept conf sender «from» dio before)
  · exact joined

theorem receiveHbh_rankKept (sender : Option Nat) (senderRank : RplRank)
    (loopDetected rankErrorSignaled : Bool) (node : RplNode) :
    RankKept node (node.receiveHbh sender senderRank loopDetected rankErrorSignaled) := by
  unfold RplNode.receiveHbh
  dsimp only
  right
  split
  · split
    · rfl
    · rfl
  · split
    · rfl
    · rfl

theorem step_rankKept {step : RplStep} (other : step ≠ .updateState) :
    RankKept node (step.apply conf node) := by
  cases step with
  | receiveDio sender source dio => exact receiveDio_rankKept conf sender source dio node
  | receiveDis sender source =>
    exact RankKept.of_eq (rplIcmp6UpdateNbrTable_rankPart conf sender source .rplDis node)
  | autofill ipaddr lladdr state reason =>
    exact RankKept.of_eq (uipDs6NbrAdd_rankPart conf ipaddr lladdr state reason node)
  | updateState => exact absurd rfl other
  | receiveHbh sender senderRank loopDetected rankErrorSignaled =>
    exact receiveHbh_rankKept sender senderRank loopDetected rankErrorSignaled node
  | localRepair => exact rplLocalRepair_rankKept conf node
  | globalRepair => exact rplGlobalRepair_rankKept conf node
  | poison => exact Or.inr rfl
  | leave =>
    unfold RplStep.apply
    dsimp only
    split
    · unfold RplNode.rplDagLeave
      exact (RankKept.of_eq rfl).trans (rplNeighborRemoveAll_rankKept conf
        { node with linkStats := fun _ => none })
    · exact Or.inr rfl
  | initRoot instanceId dagId prefixLen prefixFlags =>
    exact Or.inl (initDag_parent conf instanceId dagId conf.ofOcp prefixLen prefixFlags)
  | addOther table lladdr reason =>
    exact RankKept.of_eq (nbrTableAddLladdr_rankPart conf (.other table) lladdr reason node)
  | lockOther table item value => exact Or.inr rfl
  | removeOther table item => exact Or.inr rfl
  | measure linkStats clockTime => exact Or.inr rfl
  | reach nbr state => exact Or.inr rfl

/-! Runs, with the ranks that the node has had since it last acquired a parent. -/

structure RankHistory where
  node : RplNode
  ranks : List RplRank

variable (history : RankHistory)

def RankHistory.extend (next : RplNode) : RankHistory :=
  ⟨next, if next.currInstance.dag.preferredParent.isNone then []
    else next.currInstance.dag.rank :: history.ranks⟩

def RankHistory.step (step : RplStep) : RankHistory :=
  history.extend (step.apply conf history.node)

def RankLimited : Prop :=
  history.node.currInstance.maxRankinc ≠ 0 →
  history.node.currInstance.dag.preferredParent ≠ none →
  ∀ rank ∈ history.ranks, history.node.currInstance.dag.rank.toNat ≤
    min (rank.toNat + history.node.currInstance.maxRankinc.toNat) 0xffff

def ViaAcceptable (step : RplStep) : Prop :=
  step = .updateState → history.node.currInstance.dag.preferredParent ≠ none →
  ∀ nbr ∈ history.node.tables.items .rplNeighbors, history.node.parentCandidate conf false nbr →
    (history.node.rplNeighborRankViaNbr conf (some nbr)).toNat ≤ history.node.maxAcceptableRank

structure LowestRank (history : RankHistory) : Prop where
  noRanks : history.node.currInstance.dag.preferredParent = none → history.ranks = []
  lowest : history.node.currInstance.dag.preferredParent ≠ none →
    ∀ rank ∈ history.node.currInstance.dag.rank :: history.ranks,
      history.node.currInstance.dag.lowestRank ≤ rank
  within : history.node.currInstance.maxRankinc ≠ 0 →
    history.node.currInstance.dag.preferredParent ≠ none →
    history.node.currInstance.dag.rank.toNat ≤ min (history.node.currInstance.dag.lowestRank.toNat +
      history.node.currInstance.maxRankinc.toNat) 0xffff

variable {history : RankHistory}

theorem LowestRank.limited (lowest : LowestRank history) : RankLimited history := by
  intro limit parent rank member
  have bound := lowest.within limit parent
  have least := UInt16.le_iff_toNat_le.mp
    (lowest.lowest parent rank (List.mem_cons_of_mem _ member))
  omega

variable {next : RplNode}

theorem LowestRank.of_none
    (lost : next.currInstance.dag.preferredParent = none) : LowestRank (history.extend next) := by
  refine ⟨?_, ?_, ?_⟩
  · intro _
    unfold RankHistory.extend
    rw [lost]
    rfl
  · exact fun parent => absurd lost parent
  · exact fun _ parent => absurd lost parent

theorem extend_ranks (parent : next.currInstance.dag.preferredParent ≠ none) :
    (history.extend next).ranks = next.currInstance.dag.rank :: history.ranks := by
  unfold RankHistory.extend
  rw [if_neg]
  exact fun lost => parent (Option.isNone_iff_eq_none.mp lost)

theorem LowestRank.of_kept (lowest : LowestRank history)
    (kept : RankKept history.node next) : LowestRank (history.extend next) := by
  by_cases lost : next.currInstance.dag.preferredParent = none
  · exact LowestRank.of_none lost
  · rcases kept with none | same
    · exact absurd none lost
    · have parent : next.currInstance.dag.preferredParent =
          history.node.currInstance.dag.preferredParent := congrArg Prod.fst same
      have rank : next.currInstance.dag.rank = history.node.currInstance.dag.rank :=
        congrArg (fun part => part.2.1) same
      have least : next.currInstance.dag.lowestRank = history.node.currInstance.dag.lowestRank :=
        congrArg (fun part => part.2.2.1) same
      have limit : next.currInstance.maxRankinc = history.node.currInstance.maxRankinc :=
        congrArg (fun part => part.2.2.2) same
      have before := lost
      rw [parent] at before
      refine ⟨fun none => absurd none lost, ?_, ?_⟩
      · intro _ other member
        rw [extend_ranks lost] at member
        change next.currInstance.dag.lowestRank ≤ other
        rw [least]
        change other ∈ next.currInstance.dag.rank :: _ at member
        rw [rank] at member
        rcases List.mem_cons.mp member with here | later
        · exact lowest.lowest before other (List.mem_cons.mpr (Or.inl here))
        · exact lowest.lowest before other later
      · intro limited _
        change next.currInstance.maxRankinc ≠ 0 at limited
        change next.currInstance.dag.rank.toNat ≤
          min (next.currInstance.dag.lowestRank.toNat + next.currInstance.maxRankinc.toNat) 0xffff
        rw [rank, least, limit]
        rw [limit] at limited
        exact lowest.within limited before

theorem LowestRank.of_updateParent (lowest : LowestRank history)
    (acceptable : history.node.currInstance.dag.preferredParent ≠ none →
      ∀ nbr ∈ history.node.tables.items .rplNeighbors,
        history.node.parentCandidate conf false nbr →
        (history.node.rplNeighborRankViaNbr conf (some nbr)).toNat ≤ history.node.maxAcceptableRank) :
    LowestRank (history.extend (history.node.updateParent conf)) := by
  by_cases lost : (history.node.updateParent conf).currInstance.dag.preferredParent = none
  · exact LowestRank.of_none lost
  · obtain ⟨parent, rank, _⟩ := updateParent_spec conf history.node
    obtain ⟨least, limit⟩ := updateParent_lowestRank conf history.node
    have top := UInt16.toNat_lt (history.node.updateParent conf).currInstance.dag.rank
    have below : (history.node.updateParent conf).currInstance.dag.lowestRank ≤
        (history.node.updateParent conf).currInstance.dag.rank := by
      rw [least]
      split
      · exact UInt16.le_refl _
      · rename_i notLower
        simp only [Bool.or_eq_true, decide_eq_true_eq, not_or] at notLower
        exact UInt16.not_lt.mp notLower.2
    refine ⟨fun none => absurd none lost, ?_, ?_⟩
    · intro _ other member
      rw [extend_ranks lost] at member
      rcases List.mem_cons.mp member with rfl | member
      · exact below
      · rcases List.mem_cons.mp member with rfl | member
        · exact below
        · change (history.node.updateParent conf).currInstance.dag.lowestRank ≤ other
          have before : history.node.currInstance.dag.preferredParent ≠ none := by
            intro none
            rw [lowest.noRanks none] at member
            cases member
          have older := lowest.lowest before other (List.mem_cons_of_mem _ member)
          rw [least]
          split
          · rename_i lower
            rw [Bool.or_eq_true, decide_eq_true_eq] at lower
            rcases lower with first | lower
            · exact absurd (Option.isNone_iff_eq_none.mp first) before
            · exact UInt16.le_trans (UInt16.le_of_lt lower) older
          · exact older
    · intro limited _
      change (history.node.updateParent conf).currInstance.dag.rank.toNat ≤
        min ((history.node.updateParent conf).currInstance.dag.lowestRank.toNat +
          (history.node.updateParent conf).currInstance.maxRankinc.toNat) 0xffff
      change (history.node.updateParent conf).currInstance.maxRankinc ≠ 0 at limited
      rw [least]
      split
      · omega
      · rename_i notLower
        simp only [Bool.or_eq_true, decide_eq_true_eq, not_or] at notLower
        have before : history.node.currInstance.dag.preferredParent ≠ none :=
          fun none => notLower.1 (Option.isNone_iff_eq_none.mpr none)
        cases chosen : history.node.selectBest conf with
        | none => exact absurd (parent.trans chosen) lost
        | some nbr =>
          obtain ⟨member, candidate⟩ := selectBest_mem conf chosen
          have accepted := acceptable before nbr member candidate
          rw [limit] at limited ⊢
          unfold RplNode.maxAcceptableRank at accepted
          rw [if_neg limited] at accepted
          rw [rank, chosen]
          exact accepted

theorem LowestRank.step {step : RplStep} (lowest : LowestRank history)
    (acceptable : ViaAcceptable conf history step) : LowestRank (history.step conf step) := by
  change LowestRank (history.extend (step.apply conf history.node))
  by_cases update : step = .updateState
  · subst update
    change LowestRank (history.extend (history.node.rplDagUpdateState conf))
    unfold RplNode.rplDagUpdateState
    split
    · split
      · obtain ⟨lockedMap, routers, changed⟩ := setPreferredParent_frame conf none history.node
        refine LowestRank.of_none ?_
        rw [changed]
        rfl
      · split
        · exact lowest.of_kept (RankKept.of_eq rfl)
        · have updated := lowest.of_updateParent conf (acceptable rfl)
          exact ⟨updated.noRanks, updated.lowest, updated.within⟩
    · exact lowest.of_kept (RankKept.of_eq rfl)
  · exact lowest.of_kept (step_rankKept conf history.node update)

theorem lowestRank_boot (n : Nat) : LowestRank ⟨RplNode.boot n, []⟩ :=
  ⟨fun _ => rfl, fun parent => absurd rfl parent, fun _ parent => absurd rfl parent⟩

/-- As long as every neighbor that is accepted as a parent gives the node an acceptable rank, the
node stays within the limit. The code tests the rank of the neighbor in its place. -/
theorem rank_limited (n : Nat) (steps : List RplStep)
    (acceptable : Run.Meets (RankHistory.step conf) (ViaAcceptable conf)
      ⟨RplNode.boot n, []⟩ steps) :
    Run.Always (RankHistory.step conf) RankLimited ⟨RplNode.boot n, []⟩ steps :=
  Run.always_of_meets LowestRank (fun _ lowest => lowest.limited)
    (fun _ _ lowest acceptable => lowest.step conf acceptable) steps _ (lowestRank_boot n)
    acceptable

def limitedDio : RplDio := { childDio 240 with dagMaxRankinc := 256 }

def linkChangeSteps (etx : UInt16) : List RplStep :=
  [.measure (fun _ => some ⟨128, true⟩) 1, .receiveDio parentLladdr parentIpaddr limitedDio,
    .updateState, .measure (fun _ => some ⟨etx, true⟩) 2, .updateState]

theorem rank_limited_linkChange :
    Run.Always (RankHistory.step rplConf) RankLimited ⟨RplNode.boot 4, []⟩
      (linkChangeSteps 256) := by
  refine rank_limited rplConf 4 (linkChangeSteps 256) ⟨?_, ?_, ?_, ?_, ?_, trivial⟩
  · exact fun other => nomatch other
  · exact fun other => nomatch other
  · intro _ parent
    exact absurd (by decide +kernel) parent
  · exact fun other => nomatch other
  · intro _ _
    decide +kernel

theorem link_change_exceeds_limit :
    let history := Run.final (RankHistory.step rplConf) ⟨RplNode.boot 4, []⟩ (linkChangeSteps 512)
    history.node.currInstance.dag.preferredParent = some 0 ∧
      history.node.currInstance.dag.rank = 768 ∧ history.ranks = [768, 384, 384] ∧
      ¬ RankLimited history := by
  intro history
  have parent : history.node.currInstance.dag.preferredParent = some 0 := by decide +kernel
  have rank : history.node.currInstance.dag.rank = 768 := by decide +kernel
  have ranks : history.ranks = [768, 384, 384] := by decide +kernel
  have limit : history.node.currInstance.maxRankinc = 256 := by decide +kernel
  refine ⟨parent, rank, ranks, fun limited => ?_⟩
  have bound := limited (by rw [limit]; decide) (by rw [parent]; decide) 384 (by rw [ranks]; decide)
  rw [rank, limit] at bound
  exact absurd bound (by decide)

end MultiPhyTsch.Rpl
