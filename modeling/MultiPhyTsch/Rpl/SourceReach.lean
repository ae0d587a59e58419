import Mathlib.Data.List.Find
import Mathlib.Data.List.Perm.Subperm
import MultiPhyTsch.Lib.Ascent
import MultiPhyTsch.Rpl.GraphIntegrity

/-! An update of the source-routing graph disconnects no node: a parent that leads back to the
child is taken back, and every other parent leaves a way to the root. -/

namespace MultiPhyTsch.Rpl

open UipSr

namespace UipSr

def parentOf (sr : UipSr) (node : Nat) : Option Nat := (sr.nodememb.mem node).parent

end UipSr

structure ParentsValid (sr : UipSr) : Prop where
  used : sr.nodememb.InUse sr.nodelist
  nodup : sr.nodelist.Nodup
  parents : ∀ node ∈ sr.nodelist, ∀ parent, sr.parentOf node = some parent →
    parent ∈ sr.nodelist ∧ (sr.nodememb.mem parent).graph = (sr.nodememb.mem node).graph

def ReachesRoot (routing : SrRouting) (graph : Option Nat) (sr : UipSr) (node : Nat) : Prop :=
  ∃ root, sr.uipSrGetNode routing graph routing.rootIpaddr = some root ∧
    Reaches sr.parentOf root node

theorem uipSrInit_parentsValid (sr : UipSr) : ParentsValid sr.uipSrInit :=
  ⟨Memb.membInit_inUse sr.nodememb, List.nodup_nil, by simp [uipSrInit]⟩

theorem climb_of_ascent {sr : UipSr} {root node : Nat} {path : List Nat}
    (ascent : Ascent sr.parentOf root node path) : ∀ depth, path.length ≤ depth + 1 →
    sr.climb (some root) depth (some node) = (some root, depth + 1 - path.length) := by
  induction ascent with
  | root =>
    intro depth _
    cases depth with
    | zero => rfl
    | succ depth => simp [climb]
  | @up node above path notRoot up ascent ih =>
    intro depth enough
    rw [List.length_cons] at enough ⊢
    have longer := List.length_pos_of_mem ascent.root_mem
    cases depth with
    | zero => omega
    | succ depth =>
      have different : some node ≠ some root := fun same => notRoot (Option.some.inj same)
      have next : (sr.nodememb.mem node).parent = some above := up
      rw [climb, if_neg different, next, ih depth (by omega)]
      congr 1
      omega

theorem ascent_of_climb {sr : UipSr} {root : Nat} : ∀ depth start left,
    sr.climb (some root) depth start = (some root, left) →
    ∃ node path, start = some node ∧ Ascent sr.parentOf root node path ∧
      path.length + left = depth + 1 := by
  intro depth
  induction depth with
  | zero =>
    intro start left climbed
    rw [climb] at climbed
    obtain ⟨rfl, rfl⟩ := Prod.mk.inj climbed
    exact ⟨root, [root], rfl, Ascent.root, rfl⟩
  | succ depth ih =>
    intro start left climbed
    cases start with
    | none => cases climbed
    | some node =>
      rw [climb] at climbed
      split at climbed
      · rename_i isRoot
        obtain rfl := Option.some.inj isRoot
        obtain ⟨_, rfl⟩ := Prod.mk.inj climbed
        exact ⟨node, [node], rfl, Ascent.root, by rw [List.length_singleton]; omega⟩
      · rename_i notRoot
        obtain ⟨above, path, up, ascent, length⟩ := ih _ _ climbed
        have different : node ≠ root := fun same => notRoot (congrArg some same)
        exact ⟨node, node :: path, rfl, Ascent.up different up ascent,
          by rw [List.length_cons]; omega⟩

theorem ParentsValid.ascent_length {sr : UipSr} (valid : ParentsValid sr) {root node : Nat}
    {path : List Nat} (member : node ∈ sr.nodelist) (ascent : Ascent sr.parentOf root node path) :
    path.length ≤ sr.nodememb.num := by
  have within : ∀ other ∈ path, other ∈ sr.nodelist :=
    ascent.subset member fun node inside above up => (valid.parents node inside above up).1
  have counted := valid.used.membNumfree_add valid.nodup
  have shorter := (List.Nodup.subperm ascent.nodup within).length_le
  omega

variable {addr : UipIpaddr}

theorem uipSrGetNode_mem {routing : SrRouting} {graph : Option Nat} {sr : UipSr}
    {node : Nat} (found : sr.uipSrGetNode routing graph addr = some node) : node ∈ sr.nodelist :=
  (uipSrGetNode_some found).1

theorem uipSrIsAddrReachable_iff {routing : SrRouting} {graph : Option Nat}
    {sr : UipSr} (valid : ParentsValid sr) : sr.uipSrIsAddrReachable routing graph addr = true ↔
      ∃ node, sr.uipSrGetNode routing graph addr = some node ∧
        ReachesRoot routing graph sr node := by
  unfold uipSrIsAddrReachable getHopCount
  rw [bne_iff_ne]
  constructor
  · intro reachable
    dsimp only at reachable
    split at reachable
    · rename_i atRoot
      rw [Bool.and_eq_true, decide_eq_true_eq] at atRoot
      obtain ⟨isSome, same⟩ := atRoot
      obtain ⟨root, isRoot⟩ := Option.isSome_iff_exists.mp (same ▸ isSome)
      rw [isRoot] at same
      obtain ⟨node, path, found, ascent, _⟩ := ascent_of_climb _ _ _ (Prod.ext same rfl)
      exact ⟨node, found, root, isRoot, ascent.reaches⟩
    · exact absurd rfl reachable
  · rintro ⟨node, found, root, isRoot, reached⟩
    obtain ⟨path, ascent⟩ := reached.ascent
    have short := valid.ascent_length (uipSrGetNode_mem found) ascent
    have climbed := climb_of_ascent ascent sr.nodememb.num (by omega)
    have nonempty := List.length_pos_of_mem ascent.root_mem
    rw [found, isRoot]
    dsimp only
    rw [climbed]
    simp
    omega

structure Keeps (routing : SrRouting) (sr next : UipSr) : Prop where
  valid : ParentsValid next
  num : next.nodememb.num = sr.nodememb.num
  nodes : ∀ node ∈ sr.nodelist, node ∈ next.nodelist
  graphs : ∀ node ∈ sr.nodelist, (next.nodememb.mem node).graph = (sr.nodememb.mem node).graph
  found : ∀ graph addr node, sr.uipSrGetNode routing graph addr = some node →
    next.uipSrGetNode routing graph addr = some node
  reached : ∀ graph, ∀ node ∈ sr.nodelist, ReachesRoot routing graph sr node →
    ReachesRoot routing graph next node

theorem Keeps.refl {routing : SrRouting} {sr : UipSr} (valid : ParentsValid sr) :
    Keeps routing sr sr :=
  ⟨valid, rfl, fun _ member => member, fun _ _ => rfl, fun _ _ _ found => found,
    fun _ _ _ reached => reached⟩

theorem Keeps.trans {routing : SrRouting} {sr next last : UipSr} (first : Keeps routing sr next)
    (second : Keeps routing next last) : Keeps routing sr last := by
  refine ⟨second.valid, second.num.trans first.num, ?_, ?_, ?_, ?_⟩
  · exact fun node member => second.nodes node (first.nodes node member)
  · exact fun node member =>
      (second.graphs node (first.nodes node member)).trans (first.graphs node member)
  · exact fun graph addr node found =>
      second.found graph addr node (first.found graph addr node found)
  · intro graph node member reached
    exact second.reached graph node (first.nodes node member)
      (first.reached graph node member reached)

def ParentIn (sr : UipSr) (graph : Option Nat) (parentNode : Option Nat) : Prop :=
  ∀ parent, parentNode = some parent →
    parent ∈ sr.nodelist ∧ (sr.nodememb.mem parent).graph = graph

theorem ParentIn.of_getNode (routing : SrRouting) (graph : Option Nat) (addr : UipIpaddr)
    (sr : UipSr) : ParentIn sr graph (sr.uipSrGetNode routing graph addr) := by
  intro parent found
  obtain ⟨member, graphSame, _⟩ := uipSrGetNode_some found
  exact ⟨member, graphSame⟩

variable {routing : SrRouting}

variable {graph : Option Nat}

theorem nodeMatchesAddress_congr {sr next : UipSr} {node : Nat}
    (graphSame : (next.nodememb.mem node).graph = (sr.nodememb.mem node).graph)
    (identifier : (next.nodememb.mem node).linkIdentifier =
      (sr.nodememb.mem node).linkIdentifier) :
    next.nodeMatchesAddress routing graph addr node =
      sr.nodeMatchesAddress routing graph addr node := by
  unfold nodeMatchesAddress getSrNodeIpaddr
  rw [graphSame, identifier]

theorem uipSrGetNode_append
    {sr next : UipSr} {node : Nat} {added : List Nat} (list : next.nodelist = sr.nodelist ++ added)
    (same : ∀ node ∈ sr.nodelist, next.nodeMatchesAddress routing graph addr node =
      sr.nodeMatchesAddress routing graph addr node)
    (found : sr.uipSrGetNode routing graph addr = some node) :
    next.uipSrGetNode routing graph addr = some node := by
  have older : sr.nodelist.find? (next.nodeMatchesAddress routing graph addr) = some node := by
    rw [← found]
    exact List.find?_congr same
  unfold uipSrGetNode
  rw [list, List.find?_append, older]
  rfl

theorem updateFound_added {child : UipIpaddr}
    {lifetime : UInt32} {parentNode : Option Nat} {node : Nat} {sr next : UipSr}
    (valid : ParentsValid sr) (parentIn : ParentIn sr graph parentNode)
    (added : sr.updateFound routing graph child lifetime none parentNode = (some node, next)) :
    Keeps routing sr next ∧ node ∈ next.nodelist ∧ (next.nodememb.mem node).graph = graph := by
  unfold UipSr.updateFound at added
  split at added
  · rename_i block grown taken
    obtain ⟨chosen, rfl⟩ := Prod.mk.inj added
    obtain rfl := Option.some.inj chosen
    obtain ⟨fresh, list, used, num, _, orphan, others⟩ := childNode_added valid.used taken
    obtain ⟨parent, chosen, written⟩ :=
      linkChild_spec routing graph child lifetime parentNode block grown
    have same : ∀ other ∈ sr.nodelist, ((grown.write block fun _ =>
        ⟨lifetime, graph, linkIdentifierOf child, parent⟩).nodememb.mem other) =
          sr.nodememb.mem other := by
      intro other member
      have different : other ≠ block := fun here => fresh (here ▸ member)
      rw [write_mem_other _ _ different, others other different]
    have last : block ∈ grown.nodelist := by
      rw [list]
      exact List.mem_append_right _ (List.mem_singleton.mpr rfl)
    have older : ∀ other ∈ sr.nodelist, other ∈ grown.nodelist := by
      intro other member
      rw [list]
      exact List.mem_append_left _ member
    have getsParent : ParentIn sr graph parent := by
      rcases chosen with taken | kept
      · exact taken ▸ parentIn
      · intro above isParent
        rw [kept, orphan] at isParent
        cases isParent
    rw [written]
    refine ⟨⟨⟨write_inUse used block _, ?_, ?_⟩, num, older, ?_, ?_, ?_⟩, last, ?_⟩
    · change grown.nodelist.Nodup
      rw [list, List.nodup_append]
      refine ⟨valid.nodup, List.nodup_singleton block, ?_⟩
      intro other member again here same
      exact fresh (List.mem_singleton.mp here ▸ same ▸ member)
    · intro other member above isParent
      have split : other ∈ sr.nodelist ∨ other = block := by
        have inGrown : other ∈ grown.nodelist := member
        rw [list, List.mem_append, List.mem_singleton] at inGrown
        exact inGrown
      rcases split with old | rfl
      · unfold parentOf at isParent
        rw [same other old] at isParent
        obtain ⟨inside, graphSame⟩ := valid.parents other old above isParent
        exact ⟨older above inside, by rw [same above inside, same other old, graphSame]⟩
      · unfold parentOf at isParent
        rw [write_mem_same] at isParent
        obtain ⟨inside, graphSame⟩ := getsParent above isParent
        exact ⟨older above inside, by rw [same above inside, write_mem_same, graphSame]⟩
    · intro other member
      rw [same other member]
    · intro graph addr other found
      refine uipSrGetNode_append list ?_ found
      intro other member
      exact nodeMatchesAddress_congr (by rw [same other member]) (by rw [same other member])
    · rintro graph other member ⟨root, isRoot, reached⟩
      refine ⟨root, uipSrGetNode_append list ?_ isRoot, ?_⟩
      · intro other member
        exact nodeMatchesAddress_congr (by rw [same other member]) (by rw [same other member])
      · refine reached.carry member (fun node inside above up => (valid.parents node inside above
          up).1) ?_
        intro other inside _
        exact Or.inl (congrArg UipSrNode.parent (same other inside))
    · rw [write_mem_same]
  · cases added

def relink (graph : Option Nat) (child : UipIpaddr) (lifetime : UInt32) (node : Nat) (sr : UipSr)
    (parent : Option Nat) : UipSr :=
  sr.write node fun _ => ⟨lifetime, graph, linkIdentifierOf child, parent⟩

section

variable {routing : SrRouting} {graph : Option Nat} {child : UipIpaddr} {lifetime : UInt32}
variable {node : Nat} {sr : UipSr} {parent parentNode : Option Nat}

theorem linkChild_eq :
    sr.linkChild routing graph child lifetime parentNode node =
      if (relink graph child lifetime node sr (sr.parentOf node)).uipSrIsAddrReachable routing
            graph child = true ∧
          ¬ (relink graph child lifetime node sr parentNode).uipSrIsAddrReachable routing graph
            child = true
      then relink graph child lifetime node sr (sr.parentOf node)
      else relink graph child lifetime node sr parentNode := by
  have old : (sr.write node fun item => { item with
      graph := graph, lifetime := lifetime, linkIdentifier := linkIdentifierOf child }) =
      relink graph child lifetime node sr (sr.parentOf node) := by
    simp [relink, UipSr.write, Memb.write, parentOf]
  have new : ((sr.write node fun item => { item with
      graph := graph, lifetime := lifetime, linkIdentifier := linkIdentifierOf child }).write node
        fun item => { item with parent := parentNode }) =
      relink graph child lifetime node sr parentNode := write_write sr node _ _
  have again : ((relink graph child lifetime node sr parentNode).write node fun item =>
      { item with parent := ((relink graph child lifetime node sr
        (sr.parentOf node)).nodememb.mem node).parent }) =
      relink graph child lifetime node sr (sr.parentOf node) := by
    simp [relink, UipSr.write, Memb.write, parentOf]
  unfold UipSr.linkChild
  dsimp only
  rw [new, old, again]
  split
  · rename_i before
    split
    · rename_i after
      rw [if_neg fun both => both.2 after]
    · rename_i lost
      rw [if_pos ⟨before, lost⟩]
  · rename_i unreachable
    rw [if_neg fun both => unreachable both.1]

theorem relink_other {other : Nat} (different : other ≠ node) :
    (relink graph child lifetime node sr parent).nodememb.mem other = sr.nodememb.mem other :=
  write_mem_other sr _ different

theorem relink_same :
    (relink graph child lifetime node sr parent).nodememb.mem node =
      ⟨lifetime, graph, linkIdentifierOf child, parent⟩ :=
  write_mem_same sr node _

theorem relink_identity (found : sr.uipSrGetNode routing graph child = some node) (other : Nat) :
    ((relink graph child lifetime node sr parent).nodememb.mem other).graph =
        (sr.nodememb.mem other).graph ∧
      ((relink graph child lifetime node sr parent).nodememb.mem other).linkIdentifier =
        (sr.nodememb.mem other).linkIdentifier := by
  by_cases here : other = node
  · obtain ⟨_, graphSame, identifier⟩ := uipSrGetNode_some found
    rw [here, relink_same]
    exact ⟨graphSame.symm, identifier.symm⟩
  · rw [relink_other here]
    exact ⟨rfl, rfl⟩

theorem relink_getNode (found : sr.uipSrGetNode routing graph child = some node)
    (otherGraph : Option Nat) (addr : UipIpaddr) :
    (relink graph child lifetime node sr parent).uipSrGetNode routing otherGraph addr =
      sr.uipSrGetNode routing otherGraph addr := by
  refine List.find?_congr fun other _ => ?_
  obtain ⟨graphSame, identifier⟩ := relink_identity found other
  exact nodeMatchesAddress_congr graphSame identifier

section

variable (valid : ParentsValid sr) (found : sr.uipSrGetNode routing graph child = some node)
include valid found

theorem relink_valid (parentIn : ParentIn sr graph parent) :
    ParentsValid (relink graph child lifetime node sr parent) := by
  refine ⟨write_inUse valid.used node _, valid.nodup, ?_⟩
  intro other member above isParent
  rw [(relink_identity found above).1, (relink_identity found other).1]
  unfold parentOf at isParent
  by_cases here : other = node
  · rw [here, relink_same] at isParent
    rw [here, (uipSrGetNode_some found).2.1]
    exact parentIn above isParent
  · rw [relink_other here] at isParent
    exact valid.parents other member above isParent

theorem relink_keeps (parentIn : ParentIn sr graph parent)
    (kept : ReachesRoot routing graph sr node →
      parent = sr.parentOf node ∨
        ReachesRoot routing graph (relink graph child lifetime node sr parent) node) :
    Keeps routing sr (relink graph child lifetime node sr parent) := by
  refine ⟨relink_valid valid found parentIn, rfl, fun _ member => member,
    fun other _ => (relink_identity found other).1, ?_, ?_⟩
  · intro otherGraph addr other isThere
    rw [relink_getNode found]
    exact isThere
  · rintro otherGraph other member ⟨root, isRoot, reached⟩
    refine ⟨root, (relink_getNode found otherGraph _).trans isRoot, ?_⟩
    refine reached.carry member (fun node inside above up =>
      (valid.parents node inside above up).1) ?_
    intro other inside reached
    by_cases here : other = node
    · -- a way to a root stays in the root's graph, so this is the graph of the update
      have graphSame := reached.inside_root
        (fun above => above ∈ sr.nodelist ∧
          (sr.nodememb.mem above).graph = (sr.nodememb.mem other).graph) ⟨inside, rfl⟩
        (fun node inside above up =>
          have next := valid.parents node inside.1 above up
          ⟨next.1, next.2.trans inside.2⟩)
      rw [(uipSrGetNode_some isRoot).2.1, here, (uipSrGetNode_some found).2.1] at graphSame
      obtain rfl := graphSame.2
      subst here
      rcases kept ⟨root, isRoot, reached⟩ with same | ⟨again, isAgain, reachedAgain⟩
      · left
        unfold parentOf at same ⊢
        rw [relink_same, same]
      · right
        rw [relink_getNode found, isRoot] at isAgain
        exact Option.some.inj isAgain ▸ reachedAgain
    · left
      unfold parentOf
      rw [relink_other here]

theorem linkChild_keeps (parentIn : ParentIn sr graph parentNode) :
    Keeps routing sr (sr.linkChild routing graph child lifetime parentNode node) := by
  obtain ⟨member, graphSame, _⟩ := uipSrGetNode_some found
  have oldParent : ParentIn sr graph (sr.parentOf node) := by
    intro above isParent
    exact graphSame ▸ valid.parents node member above isParent
  have old : Keeps routing sr (relink graph child lifetime node sr (sr.parentOf node)) :=
    relink_keeps valid found oldParent fun _ => Or.inl rfl
  rw [linkChild_eq]
  split
  · exact old
  · rename_i taken
    refine relink_keeps valid found parentIn fun reached => Or.inr ?_
    have before : (relink graph child lifetime node sr (sr.parentOf node)).uipSrIsAddrReachable
        routing graph child = true :=
      (uipSrIsAddrReachable_iff old.valid).mpr
        ⟨node, old.found graph child node found, old.reached graph node member reached⟩
    have after : (relink graph child lifetime node sr parentNode).uipSrIsAddrReachable routing graph
        child = true := by
      by_contra lost
      exact taken ⟨before, lost⟩
    obtain ⟨again, isAgain, reachedAgain⟩ :=
      (uipSrIsAddrReachable_iff (relink_valid valid found parentIn)).mp after
    rw [relink_getNode found, found] at isAgain
    exact Option.some.inj isAgain ▸ reachedAgain

end

theorem updateFound_keeps {found : Option Nat} {old : UipSr} (before : Keeps routing old sr)
    (lookup : found = old.uipSrGetNode routing graph child)
    (parentIn : ParentIn sr graph parentNode) :
    Keeps routing sr (sr.updateFound routing graph child lifetime found parentNode).2 := by
  cases isFound : found with
  | some node =>
    rw [isFound] at lookup
    exact linkChild_keeps before.valid (before.found graph child node lookup.symm) parentIn
  | none =>
    cases result : sr.updateFound routing graph child lifetime none parentNode with
    | mk added next =>
      cases added with
      | some node => exact (updateFound_added before.valid parentIn result).1
      | none =>
        rw [updateFound_failed result]
        exact Keeps.refl before.valid

end

theorem uipSrUpdateNode_keeps (routing : SrRouting) (graph : Option Nat) (child : UipIpaddr)
    (parent : Option UipIpaddr) (lifetime : UInt32) {sr : UipSr} (valid : ParentsValid sr) :
    Keeps routing sr (sr.uipSrUpdateNode routing graph child parent lifetime).2 := by
  have start : Keeps routing sr sr := Keeps.refl valid
  unfold uipSrUpdateNode
  dsimp only
  cases parent with
  | none => exact updateFound_keeps start rfl (fun _ isParent => by cases isParent)
  | some addr =>
    dsimp only
    have parentIn := ParentIn.of_getNode routing graph addr sr
    cases lookup : sr.uipSrGetNode routing graph addr with
    | some parentNode =>
      rw [lookup] at parentIn
      exact updateFound_keeps start rfl parentIn
    | none =>
      dsimp only
      cases result : sr.updateFound routing graph addr uipSrInfiniteLifetime none none with
      | mk added next =>
        cases added with
        | none =>
          rw [updateFound_failed result]
          exact start
        | some parentNode =>
          obtain ⟨kept, member, graphSame⟩ :=
            updateFound_added valid (fun _ isParent => by cases isParent) result
          have parentIn : ParentIn next graph (some parentNode) := by
            rintro _ ⟨rfl⟩
            exact ⟨member, graphSame⟩
          exact kept.trans (updateFound_keeps kept rfl parentIn)

/-- Every node and every address that was reachable still is, in whichever graph, and the way to the
root repeats no node and has no more of them than `UIP_SR_LINK_NUM`. -/
theorem update_disconnects_no_node (routing : SrRouting) (graph : Option Nat) (child : UipIpaddr)
    (parent : Option UipIpaddr) (lifetime : UInt32) (sr : UipSr) (valid : ParentsValid sr) :
    let next := (sr.uipSrUpdateNode routing graph child parent lifetime).2
    ParentsValid next ∧
      (∀ other, ∀ node ∈ sr.nodelist, ReachesRoot routing other sr node →
        node ∈ next.nodelist ∧ ReachesRoot routing other next node) ∧
      (∀ other addr, sr.uipSrIsAddrReachable routing other addr = true →
        next.uipSrIsAddrReachable routing other addr = true) ∧
      ∀ other, ∀ node ∈ next.nodelist, ReachesRoot routing other next node →
        ∃ root path, next.uipSrGetNode routing other routing.rootIpaddr = some root ∧
          Ascent next.parentOf root node path ∧ path.Nodup ∧ path.length ≤ sr.nodememb.num := by
  intro next
  have kept : Keeps routing sr next :=
    uipSrUpdateNode_keeps routing graph child parent lifetime valid
  refine ⟨kept.valid, ?_, ?_, ?_⟩
  · intro other node member reached
    exact ⟨kept.nodes node member, kept.reached other node member reached⟩
  · intro other addr reachable
    obtain ⟨node, found, reached⟩ := (uipSrIsAddrReachable_iff valid).mp reachable
    exact (uipSrIsAddrReachable_iff kept.valid).mpr ⟨node, kept.found other addr node found,
      kept.reached other node (uipSrGetNode_mem found) reached⟩
  · rintro other node member ⟨root, isRoot, reached⟩
    obtain ⟨path, ascent⟩ := reached.ascent
    exact ⟨root, path, isRoot, ascent, ascent.nodup,
      kept.num ▸ kept.valid.ascent_length member ascent⟩

def srChain : UipSr :=
  Run.final SrStep.apply srEmpty.uipSrInit
    [.updateNode srRouting none srRouter (some srRoot) 100,
      .updateNode srRouting none srLeaf (some srRouter) 100]

theorem srChain_parentsValid : ParentsValid srChain :=
  (uipSrUpdateNode_keeps srRouting none srLeaf (some srRouter) 100
    (uipSrUpdateNode_keeps srRouting none srRouter (some srRoot) 100
      (uipSrInit_parentsValid srEmpty)).valid).valid

theorem update_disconnects_no_node_loop :
    (srChain.uipSrUpdateNode srRouting none srRouter (some srLeaf) 100).2.uipSrIsAddrReachable
      srRouting none srLeaf = true :=
  (update_disconnects_no_node srRouting none srRouter (some srLeaf) 100 srChain
    srChain_parentsValid).2.2.1 none srLeaf (by decide +kernel)

end MultiPhyTsch.Rpl
