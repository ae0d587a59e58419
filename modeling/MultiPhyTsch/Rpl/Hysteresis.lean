import MultiPhyTsch.Lib.Incumbent
import MultiPhyTsch.Rpl.RankMonotone

/-! The hysteresis of MRHOF over the whole table of neighbors. The preferred parent has an advantage
in the comparisons it takes part in, but not in those of two others. -/

namespace MultiPhyTsch.Rpl

open Incumbent

variable (conf : RplConf)

namespace RplNode

def parentCandidates (freshOnly : Bool) (node : RplNode) : List Nat :=
  (node.tables.items .rplNeighbors).filter (node.parentCandidate conf freshOnly)

def mrhofCost (node : RplNode) (nbr : Nat) : Nat :=
  (Mrhof.nbrPathCost conf node (some nbr)).toNat

/-- The path cost of the neighbor is at least `RANK_THRESHOLD` lower than that of the parent, or the
neighbor has been better for more than `TIME_THRESHOLD`. -/
def BeyondHysteresis (node : RplNode) (parent nbr : Nat) : Prop :=
  node.mrhofCost conf nbr + Mrhof.rankThreshold conf ≤ node.mrhofCost conf parent ∨
    (node.rplNbr nbr).betterParentSince ≠ 0 ∧
      conf.timeThreshold < node.clockTime - (node.rplNbr nbr).betterParentSince

def ReplacesParent (freshOnly : Bool) (node : RplNode) (parent nbr : Nat) : Prop :=
  Replaces (node.mrhofCost conf) (Mrhof.withinHysteresis conf node) parent
    (node.parentCandidates conf freshOnly) nbr

end RplNode

section

variable {conf} {node : RplNode} {parent : Nat}

theorem bestParent_duel (chosen : node.currInstance.dag.preferredParent = some parent)
    {nbr1 nbr2 : Nat} (acceptable1 : Mrhof.nbrIsAcceptableParent conf node nbr1 = true)
    (acceptable2 : Mrhof.nbrIsAcceptableParent conf node nbr2 = true) :
    Mrhof.bestParent conf node (some nbr1) (some nbr2) =
      some (duel (node.mrhofCost conf) (Mrhof.withinHysteresis conf node) parent nbr1 nbr2) := by
  have kept1 : (some nbr1).filter (Mrhof.nbrIsAcceptableParent conf node) = some nbr1 :=
    Option.filter_some_pos acceptable1
  have kept2 : (some nbr2).filter (Mrhof.nbrIsAcceptableParent conf node) = some nbr2 :=
    Option.filter_some_pos acceptable2
  unfold Mrhof.bestParent bestAcceptable
  rw [kept1, kept2, chosen]
  simp only [duel, cheaper, Option.some.injEq, RplNode.mrhofCost, UInt16.lt_iff_toNat_lt]
  split
  · rfl
  split
  · rfl
  exact (apply_ite some _ _ _).symm

theorem foldl_bestParent (chosen : node.currInstance.dag.preferredParent = some parent)
    {list : List Nat} (acceptable : ∀ nbr ∈ list, Mrhof.nbrIsAcceptableParent conf node nbr = true) :
    list.foldl (fun best nbr => Mrhof.bestParent conf node best (some nbr)) none =
      winner (node.mrhofCost conf) (Mrhof.withinHysteresis conf node) parent list := by
  have from_best : ∀ best : Option Nat,
      (∀ nbr, best = some nbr → Mrhof.nbrIsAcceptableParent conf node nbr = true) →
      list.foldl (fun best nbr => Mrhof.bestParent conf node best (some nbr)) best =
        list.foldl (fun best nbr => some (best.elim nbr fun best =>
          duel (node.mrhofCost conf) (Mrhof.withinHysteresis conf node) parent best nbr)) best := by
    induction list with
    | nil => exact fun _ _ => rfl
    | cons nbr rest ih =>
      intro best accepted
      have here := acceptable nbr List.mem_cons_self
      rw [List.foldl_cons, List.foldl_cons]
      cases best with
      | none =>
        have first : Mrhof.bestParent conf node none (some nbr) = some nbr :=
          Option.filter_some_pos here
        rw [first]
        apply ih (fun other member => acceptable other (List.mem_cons_of_mem _ member))
        intro other same
        exact Option.some.inj same ▸ here
      | some best =>
        rw [bestParent_duel chosen (accepted best rfl) here, Option.elim_some]
        apply ih (fun other member => acceptable other (List.mem_cons_of_mem _ member))
        intro other same
        obtain rfl := Option.some.inj same
        unfold duel cheaper
        split_ifs
        all_goals first | exact accepted best rfl | exact here
  exact from_best none fun _ absent => nomatch absent

section

variable (used : node.currInstance.used = true) (mrhof : node.currInstance.of = .mrhof)
  (chosen : node.currInstance.dag.preferredParent = some parent)
include used mrhof chosen

theorem bestParent_winner (freshOnly : Bool) :
    node.bestParent conf freshOnly =
      winner (node.mrhofCost conf) (Mrhof.withinHysteresis conf node) parent
        (node.parentCandidates conf freshOnly) := by
  rw [RplNode.bestParent, if_pos used, mrhof]
  apply foldl_bestParent chosen
  intro nbr member
  have candidate := (List.mem_filter.mp member).2
  simp only [RplNode.parentCandidate, Bool.and_eq_true, mrhof] at candidate
  exact candidate.1.1.2

theorem bestParent_iff_replacesParent (nodup : (node.tables.items .rplNeighbors).Nodup)
    (freshOnly : Bool) (nbr : Nat) :
    node.bestParent conf freshOnly = some nbr ∧ nbr ≠ parent ↔
      node.ReplacesParent conf freshOnly parent nbr := by
  rw [bestParent_winner used mrhof chosen]
  exact winner_iff (nodup.filter _)

theorem bestParent_eq_none_iff (freshOnly : Bool) :
    node.bestParent conf freshOnly = none ↔ node.parentCandidates conf freshOnly = [] := by
  rw [bestParent_winner used mrhof chosen]
  exact winner_eq_none_iff

end

theorem selectBest_of_unused (unused : node.currInstance.used ≠ true)
    (chosen : node.currInstance.dag.preferredParent = some parent) :
    node.selectBest conf = none := by
  have nothing : ∀ freshOnly, node.bestParent conf freshOnly = none := by
    intro freshOnly
    rw [RplNode.bestParent, if_neg unused]
  rw [RplNode.selectBest, nothing, nothing, chosen]
  simp

theorem selectBest_eq (notRoot : node.isRoot = false)
    (chosen : node.currInstance.dag.preferredParent = some parent) {best : Nat}
    (won : node.bestParent conf false = some best) :
    node.selectBest conf =
      if conf.withProbing = true ∧ node.rplNeighborIsFresh best = false ∧ best ≠ parent then
        (node.bestParent conf true).or (some best)
      else some best := by
  unfold RplNode.selectBest
  rw [notRoot, if_neg Bool.false_ne_true, won, chosen]
  by_cases probing : conf.withProbing = true
  · cases fresh : node.rplNeighborIsFresh best with
    | true => simp [fresh]
    | false =>
      by_cases same : best = parent
      · simp [same]
      · cases node.bestParent conf true with
        | none => simp
        | some other => simp [probing, fresh, same]
  · simp [probing]

end

/-- A parent that is acceptable is replaced only beyond the hysteresis if and only if whoever takes
its place among the candidates is beyond it. Where that neighbor is not fresh and others are, it is
who takes the place among those. -/
theorem mrhof_hysteresis_iff (node : RplNode) (parent : Nat)
    (mrhof : node.currInstance.of = .mrhof)
    (chosen : node.currInstance.dag.preferredParent = some parent)
    (nodup : (node.tables.items .rplNeighbors).Nodup)
    (acceptable : parent ∈ node.parentCandidates conf false) :
    (∀ nbr, node.selectBest conf = some nbr → nbr ≠ parent →
      node.BeyondHysteresis conf parent nbr) ↔
    (node.currInstance.used = true → node.isRoot = false →
      ∀ nbr, node.ReplacesParent conf false parent nbr →
        if conf.withProbing = true ∧ node.rplNeighborIsFresh nbr = false ∧
            node.parentCandidates conf true ≠ [] then
          ∀ fresh, node.ReplacesParent conf true parent fresh →
            node.BeyondHysteresis conf parent fresh
        else node.BeyondHysteresis conf parent nbr) := by
  have replaces := fun freshOnly nbr used =>
    @bestParent_iff_replacesParent conf node parent used mrhof chosen nodup freshOnly nbr
  have none_iff := fun freshOnly used =>
    @bestParent_eq_none_iff conf node parent used mrhof chosen freshOnly
  constructor
  · intro holds used notRoot nbr takes
    obtain ⟨won, other⟩ := (replaces false nbr used).mpr takes
    have selected := selectBest_eq notRoot chosen won
    split
    next contested =>
      obtain ⟨probing, stale, -⟩ := contested
      intro fresh takes'
      obtain ⟨won', other'⟩ := (replaces true fresh used).mpr takes'
      rw [if_pos ⟨probing, stale, other⟩, won', Option.some_or] at selected
      exact holds fresh selected other'
    next settled =>
      refine holds nbr ?_ other
      rw [selected]
      split
      next contested =>
        have nobody : node.bestParent conf true = none := by
          rw [none_iff true used]
          by_contra some
          exact settled ⟨contested.1, contested.2.1, some⟩
        rw [nobody, Option.none_or]
      next => rfl
  · intro condition nbr selected other
    by_cases used : node.currInstance.used = true
    · cases notRoot : node.isRoot with
      | true =>
        rw [RplNode.selectBest, if_pos notRoot] at selected
        exact nomatch selected
      | false =>
        obtain ⟨best, won⟩ : ∃ best, node.bestParent conf false = some best := by
          apply Option.ne_none_iff_exists'.mp
          rw [Ne, none_iff false used]
          exact List.ne_nil_of_mem acceptable
        rw [selectBest_eq notRoot chosen won] at selected
        split at selected
        next contested =>
          obtain ⟨probing, stale, other'⟩ := contested
          have answer := condition used notRoot best ((replaces false best used).mp ⟨won, other'⟩)
          cases won' : node.bestParent conf true with
          | none =>
            rw [won', Option.none_or] at selected
            obtain rfl := Option.some.inj selected
            rw [if_neg fun both => both.2.2 ((none_iff true used).mp won')] at answer
            exact answer
          | some fresh =>
            rw [won', Option.some_or] at selected
            obtain rfl := Option.some.inj selected
            have some : node.parentCandidates conf true ≠ [] := fun none =>
              nomatch won'.symm.trans ((none_iff true used).mpr none)
            rw [if_pos ⟨probing, stale, some⟩] at answer
            exact answer fresh ((replaces true fresh used).mp ⟨won', other⟩)
        next settled =>
          obtain rfl := Option.some.inj selected
          have answer := condition used notRoot best ((replaces false best used).mp ⟨won, other⟩)
          rw [if_neg fun both => settled ⟨both.1, both.2.1, other⟩] at answer
          exact answer
    · rw [selectBest_of_unused used chosen] at selected
      cases selected

/-- A node whose parent 0 has a path cost of 1000. Neighbor 1, at 950, has been better for long,
and neighbor 2, at 940, is new. -/
def tornNode (nbrs : List Nat) : RplNode :=
  { tables :=
      { neighborAddrMem := ⟨4, fun key => if key < 3 then 1 else 0,
          fun key => Vector.replicate 8 (UInt8.ofNat (key + 1))⟩
        nbrTableKeys := nbrs
        usedMap := fun key _ => key < 3
        lockedMap := fun key _ => key == 0 }
    ds6Nbr := fun _ => ⟨parentIpaddr, .reachable⟩
    rplNbr := fun nbr =>
      if nbr = 0 then ⟨0, default, 744⟩ else if nbr = 1 then ⟨1, default, 694⟩ else ⟨0, default, 684⟩
    defaultrouterlist := [parentIpaddr]
    currInstance := { rplInstanceZero with
      used := true
      of := .mrhof
      minHoprankinc := 128
      dag := { rplInstanceZero.dag with
        preferredParent := some 0
        rank := 1000
        lastAdvertisedRank := 1000
        lowestRank := 1000 } }
    linkStats := fun _ => some ⟨256, true⟩
    clockTime := 100000 }

theorem tornNode_switches_late :
    (tornNode [0, 1]).selectBest rplConf = some 1 ∧
      ((tornNode [0, 1]).currInstance.used = true → (tornNode [0, 1]).isRoot = false →
        ∀ nbr, (tornNode [0, 1]).ReplacesParent rplConf false 0 nbr →
          if rplConf.withProbing = true ∧ (tornNode [0, 1]).rplNeighborIsFresh nbr = false ∧
              (tornNode [0, 1]).parentCandidates rplConf true ≠ [] then
            ∀ fresh, (tornNode [0, 1]).ReplacesParent rplConf true 0 fresh →
              (tornNode [0, 1]).BeyondHysteresis rplConf 0 fresh
          else (tornNode [0, 1]).BeyondHysteresis rplConf 0 nbr) := by
  have switched : (tornNode [0, 1]).selectBest rplConf = some 1 := by decide
  refine ⟨switched, (mrhof_hysteresis_iff rplConf (tornNode [0, 1]) 0 rfl rfl (by decide)
    (by decide)).mp ?_⟩
  intro nbr selected _
  obtain rfl := Option.some.inj (switched.symm.trans selected)
  exact Or.inr (by decide)

theorem tornNode_switches_early :
    0 ∈ (tornNode [0, 1, 2]).parentCandidates rplConf true ∧
      ¬ ∀ nbr, (tornNode [0, 1, 2]).selectBest rplConf = some nbr → nbr ≠ 0 →
        (tornNode [0, 1, 2]).BeyondHysteresis rplConf 0 nbr := by
  refine ⟨by decide, fun holds => ?_⟩
  rcases holds 2 (by decide) (by decide) with cheaper | since
  · exact absurd cheaper (by decide)
  · exact absurd since (by decide)

end MultiPhyTsch.Rpl
