import Mathlib.Data.List.Induction
import MultiPhyTsch.Rpl.SourceRouting

/-! The parents in the source-routing graph are nodes of it and its addresses are unique, along
every run whose steps keep off two defects: an expired node is removed although it is the parent
of another one, and an address that is not found is added although its identifier is there. -/

namespace MultiPhyTsch.Rpl

open UipSr

theorem linkIdentifierOf_getSrNodeIpaddr (dagId : UipIpaddr) (node : UipSrNode) :
    linkIdentifierOf (getSrNodeIpaddr dagId node) = node.linkIdentifier := by
  apply Vector.ext
  intro i bound
  simp [linkIdentifierOf, getSrNodeIpaddr]

theorem getSrNodeIpaddr_inj {dagId : UipIpaddr} {node other : UipSrNode}
    (same : getSrNodeIpaddr dagId node = getSrNodeIpaddr dagId other) :
    node.linkIdentifier = other.linkIdentifier := by
  rw [← linkIdentifierOf_getSrNodeIpaddr dagId node, same, linkIdentifierOf_getSrNodeIpaddr]

variable {routing : SrRouting} {graph : Option Nat} {sr : UipSr} {node : Nat}

theorem nodeMatchesAddress_iff {addr : UipIpaddr} :
    sr.nodeMatchesAddress routing graph addr node = true ↔
      (sr.nodememb.mem node).graph = graph ∧
        getSrNodeIpaddr routing.dagId (sr.nodememb.mem node) = addr := by
  rw [nodeMatchesAddress, Bool.and_eq_true, decide_eq_true_eq, decide_eq_true_eq]

theorem uipSrGetNode_some {addr : UipIpaddr}
    (found : sr.uipSrGetNode routing graph addr = some node) :
    node ∈ sr.nodelist ∧ (sr.nodememb.mem node).graph = graph ∧
      (sr.nodememb.mem node).linkIdentifier = linkIdentifierOf addr := by
  obtain ⟨graphSame, address⟩ := nodeMatchesAddress_iff.mp (List.find?_some found)
  refine ⟨List.mem_of_find?_eq_some found, graphSame, ?_⟩
  rw [← address, linkIdentifierOf_getSrNodeIpaddr]

structure GraphIntegrity (sr : UipSr) : Prop where
  parents : ∀ node ∈ sr.nodelist, ∀ parent, (sr.nodememb.mem node).parent = some parent →
    parent ∈ sr.nodelist
  unique : ∀ dagId, ∀ node ∈ sr.nodelist, ∀ other ∈ sr.nodelist,
    (sr.nodememb.mem node).graph = (sr.nodememb.mem other).graph →
    getSrNodeIpaddr dagId (sr.nodememb.mem node) = getSrNodeIpaddr dagId (sr.nodememb.mem other) →
    node = other
  counted : sr.numNodes = sr.nodelist.length
  allocated : sr.nodememb.membNumfree + sr.nodelist.length = sr.nodememb.num

structure GraphInvariant (sr : UipSr) : Prop where
  used : sr.nodememb.InUse sr.nodelist
  nodup : sr.nodelist.Nodup
  counted : sr.numNodes = sr.nodelist.length
  parents : ∀ node ∈ sr.nodelist, ∀ parent, (sr.nodememb.mem node).parent = some parent →
    parent ∈ sr.nodelist
  unique : ∀ node ∈ sr.nodelist, ∀ other ∈ sr.nodelist,
    (sr.nodememb.mem node).graph = (sr.nodememb.mem other).graph →
    (sr.nodememb.mem node).linkIdentifier = (sr.nodememb.mem other).linkIdentifier → node = other

theorem GraphInvariant.integrity (invariant : GraphInvariant sr) : GraphIntegrity sr :=
  ⟨invariant.parents,
    fun _ node member other otherMember graph address =>
      invariant.unique node member other otherMember graph (getSrNodeIpaddr_inj address),
    invariant.counted, invariant.used.membNumfree_add invariant.nodup⟩

theorem uipSrInit_invariant (sr : UipSr) : GraphInvariant sr.uipSrInit :=
  ⟨Memb.membInit_inUse sr.nodememb, List.nodup_nil, rfl, by simp [uipSrInit],
    by simp [uipSrInit]⟩

def IdentifierFree (sr : UipSr) (graph : Option Nat) (addr : UipIpaddr) (node : Nat) : Prop :=
  ∀ other ∈ sr.nodelist, other ≠ node → (sr.nodememb.mem other).graph = graph →
    (sr.nodememb.mem other).linkIdentifier ≠ linkIdentifierOf addr

structure Linkable (sr : UipSr) (graph : Option Nat) (child : UipIpaddr) (node : Nat) : Prop where
  used : sr.nodememb.InUse sr.nodelist
  nodup : sr.nodelist.Nodup
  counted : sr.numNodes = sr.nodelist.length
  parents : ∀ node ∈ sr.nodelist, ∀ parent, (sr.nodememb.mem node).parent = some parent →
    parent ∈ sr.nodelist
  member : node ∈ sr.nodelist
  unique : ∀ first ∈ sr.nodelist, ∀ second ∈ sr.nodelist, first ≠ node → second ≠ node →
    (sr.nodememb.mem first).graph = (sr.nodememb.mem second).graph →
    (sr.nodememb.mem first).linkIdentifier = (sr.nodememb.mem second).linkIdentifier →
    first = second
  free : IdentifierFree sr graph child node

section

variable (routing : SrRouting) (graph : Option Nat) (child : UipIpaddr) (lifetime : UInt32)
  (parentNode : Option Nat) (node : Nat) (sr : UipSr)

theorem linkChild_spec :
    ∃ parent, (parent = parentNode ∨ parent = (sr.nodememb.mem node).parent) ∧
      sr.linkChild routing graph child lifetime parentNode node =
        sr.write node fun _ => ⟨lifetime, graph, linkIdentifierOf child, parent⟩ := by
  unfold UipSr.linkChild
  dsimp only
  split
  · split
    · exact ⟨parentNode, Or.inl rfl, write_write sr node _ _⟩
    · refine ⟨(sr.nodememb.mem node).parent, Or.inr rfl, ?_⟩
      rw [write_write, write_write]
      simp [UipSr.write]
  · exact ⟨parentNode, Or.inl rfl, write_write sr node _ _⟩

theorem linkChild_nodelist :
    (sr.linkChild routing graph child lifetime parentNode node).nodelist = sr.nodelist := by
  obtain ⟨parent, _, written⟩ := linkChild_spec routing graph child lifetime parentNode node sr
  rw [written]
  rfl

end

variable {child : UipIpaddr} {lifetime : UInt32} {parentNode : Option Nat}

theorem linkChild_invariant (linkable : Linkable sr graph child node)
    (parentIn : ∀ parent, parentNode = some parent → parent ∈ sr.nodelist) :
    GraphInvariant (sr.linkChild routing graph child lifetime parentNode node) := by
  obtain ⟨parent, chosen, written⟩ :=
    linkChild_spec routing graph child lifetime parentNode node sr
  have parentMember : ∀ item, parent = some item → item ∈ sr.nodelist := by
    intro item isParent
    rcases chosen with taken | kept
    · exact parentIn item (taken ▸ isParent)
    · exact linkable.parents node linkable.member item (kept ▸ isParent)
  rw [written]
  refine ⟨write_inUse linkable.used node _, linkable.nodup, linkable.counted, ?_, ?_⟩
  · intro other member item isParent
    by_cases here : other = node
    · rw [here, write_mem_same] at isParent
      exact parentMember item isParent
    · rw [write_mem_other _ _ here] at isParent
      exact linkable.parents other member item isParent
  · intro first firstIn second secondIn graphSame identifierSame
    by_cases firstHere : first = node
    · by_cases secondHere : second = node
      · exact firstHere.trans secondHere.symm
      · rw [firstHere, write_mem_same, write_mem_other _ _ secondHere] at graphSame identifierSame
        exact absurd identifierSame.symm (linkable.free second secondIn secondHere graphSame.symm)
    · by_cases secondHere : second = node
      · rw [secondHere, write_mem_same, write_mem_other _ _ firstHere] at graphSame identifierSame
        exact absurd identifierSame (linkable.free first firstIn firstHere graphSame)
      · rw [write_mem_other _ _ firstHere, write_mem_other _ _ secondHere] at graphSame
        rw [write_mem_other _ _ firstHere, write_mem_other _ _ secondHere] at identifierSame
        exact linkable.unique first firstIn second secondIn firstHere secondHere graphSame
          identifierSame

theorem write_lifetime_parent (sr : UipSr) (node : Nat) (lifetime : UipSrNode → UInt32)
    (other : Nat) :
    ((sr.write node fun item => { item with lifetime := lifetime item }).nodememb.mem other).parent =
      (sr.nodememb.mem other).parent :=
  Memb.write_field sr.nodememb node (fun item => { item with lifetime := lifetime item })
    UipSrNode.parent rfl other

theorem lifetime_invariant (invariant : GraphInvariant sr) (node : Nat)
    (lifetime : UipSrNode → UInt32) :
    GraphInvariant (sr.write node fun item => { item with lifetime := lifetime item }) := by
  have graph := Memb.write_field sr.nodememb node
    (fun item => { item with lifetime := lifetime item }) UipSrNode.graph rfl
  have identifier := Memb.write_field sr.nodememb node
    (fun item => { item with lifetime := lifetime item }) UipSrNode.linkIdentifier rfl
  refine ⟨write_inUse invariant.used node _, invariant.nodup, invariant.counted, ?_, ?_⟩
  · intro other member item isParent
    rw [write_lifetime_parent] at isParent
    exact invariant.parents other member item isParent
  · intro first firstIn second secondIn graphSame identifierSame
    refine invariant.unique first firstIn second secondIn ?_ ?_
    · rw [← graph first, ← graph second]
      exact graphSame
    · rw [← identifier first, ← identifier second]
      exact identifierSame

theorem linkable_found (invariant : GraphInvariant sr) (member : node ∈ sr.nodelist)
    (graphSame : (sr.nodememb.mem node).graph = graph)
    (identifier : (sr.nodememb.mem node).linkIdentifier = linkIdentifierOf child) :
    Linkable sr graph child node := by
  refine ⟨invariant.used, invariant.nodup, invariant.counted, invariant.parents, member, ?_, ?_⟩
  · exact fun first firstIn second secondIn _ _ => invariant.unique first firstIn second secondIn
  · intro other otherIn different otherGraph same
    exact different (invariant.unique other otherIn node member (otherGraph.trans graphSame.symm)
      (same.trans identifier.symm))

theorem childNode_added {sr added : UipSr} (used : sr.nodememb.InUse sr.nodelist)
    (taken : sr.childNode none = (some node, added)) :
    node ∉ sr.nodelist ∧ added.nodelist = sr.nodelist ++ [node] ∧
      added.nodememb.InUse added.nodelist ∧ added.nodememb.num = sr.nodememb.num ∧
      added.numNodes = sr.numNodes + 1 ∧ (added.nodememb.mem node).parent = none ∧
      ∀ other, other ≠ node → added.nodememb.mem other = sr.nodememb.mem other := by
  have allocated := @Memb.membAlloc_some _ sr.nodememb sr.nodelist node used
  have blocks := Memb.membAlloc_num sr.nodememb
  unfold UipSr.childNode at taken
  dsimp only at taken
  split at taken
  · rename_i block nodememb search
    rw [search] at allocated blocks
    obtain ⟨chosen, rfl⟩ := Prod.mk.inj taken
    obtain rfl := Option.some.inj chosen
    obtain ⟨fresh, inUse, mem, _⟩ := allocated rfl
    have list : listAdd sr.nodelist block = sr.nodelist ++ [block] := listAdd_of_not_mem fresh
    refine ⟨fresh, list, ?_, blocks, rfl, ?_, ?_⟩
    · have same : ∀ other, other ∈ listAdd sr.nodelist block ↔ other ∈ block :: sr.nodelist := by
        intro other
        rw [list, List.mem_append, List.mem_singleton, List.mem_cons, or_comm]
      have written : (nodememb.write block fun item => { item with parent := none }).InUse
          (listAdd sr.nodelist block) := (inUse.write block _).congr same
      exact written
    · simp [UipSr.write]
    · intro other different
      have other_same : (nodememb.write block fun item => { item with parent := none }).mem other =
          sr.nodememb.mem other := (Memb.write_other _ _ different).trans (congrFun mem other)
      exact other_same
  · cases taken

theorem childNode_fresh {sr added : UipSr} (invariant : GraphInvariant sr)
    (free : ∀ other ∈ sr.nodelist, (sr.nodememb.mem other).graph = graph →
      (sr.nodememb.mem other).linkIdentifier ≠ linkIdentifierOf child)
    (taken : sr.childNode none = (some node, added)) :
    Linkable added graph child node ∧ added.nodelist = sr.nodelist ++ [node] ∧
      ∀ other ∈ sr.nodelist, other ≠ node ∧ added.nodememb.mem other = sr.nodememb.mem other := by
  obtain ⟨fresh, list, used, _, counted, orphan, same⟩ := childNode_added invariant.used taken
  have others : ∀ other ∈ sr.nodelist,
      other ≠ node ∧ added.nodememb.mem other = sr.nodememb.mem other := by
    intro other member
    have different : other ≠ node := fun here => fresh (here ▸ member)
    exact ⟨different, same other different⟩
  have older : ∀ other ∈ added.nodelist, other ≠ node → other ∈ sr.nodelist := by
    intro other member different
    rw [list, List.mem_append, List.mem_singleton] at member
    exact member.resolve_right different
  refine ⟨⟨used, ?_, ?_, ?_, ?_, ?_, ?_⟩, list, others⟩
  · rw [list, List.nodup_append]
    refine ⟨invariant.nodup, List.nodup_singleton node, ?_⟩
    intro other member last lastIn here
    exact fresh (List.mem_singleton.mp lastIn ▸ here ▸ member)
  · rw [counted, list, List.length_append, List.length_singleton, invariant.counted]
    omega
  · intro other member parent isParent
    by_cases here : other = node
    · rw [here, orphan] at isParent
      cases isParent
    · have old := older other member here
      rw [same other here] at isParent
      rw [list]
      exact List.mem_append_left _ (invariant.parents other old parent isParent)
  · rw [list]
    exact List.mem_append_right _ (List.mem_singleton.mpr rfl)
  · intro one oneIn two twoIn oneOther twoOther graphSame identifierSame
    rw [same one oneOther, same two twoOther] at graphSame identifierSame
    exact invariant.unique one (older one oneIn oneOther) two (older two twoIn twoOther) graphSame
      identifierSame
  · intro other otherIn different otherGraph
    rw [same other different] at otherGraph ⊢
    exact free other (older other otherIn different) otherGraph

theorem childNode_none {sr kept : UipSr} {found : Option Nat}
    (failed : sr.childNode found = (none, kept)) : kept = sr := by
  unfold UipSr.childNode at failed
  split at failed
  · cases failed
  · split at failed
    · cases failed
    · exact (congrArg Prod.snd failed).symm

theorem updateFound_failed {found parentNode : Option Nat} {sr next : UipSr}
    (failed : sr.updateFound routing graph child lifetime found parentNode = (none, next)) :
    next = sr := by
  unfold UipSr.updateFound at failed
  split at failed
  · cases failed
  · rename_i kept missing
    obtain rfl : kept = next := congrArg Prod.snd failed
    exact childNode_none missing

theorem updateFound_found (linkable : Linkable sr graph child node)
    (parentIn : ∀ parent, parentNode = some parent → parent ∈ sr.nodelist) :
    GraphInvariant (sr.updateFound routing graph child lifetime (some node) parentNode).2 :=
  linkChild_invariant linkable parentIn

theorem updateFound_new {sr next : UipSr} (invariant : GraphInvariant sr)
    (free : ∀ other ∈ sr.nodelist, (sr.nodememb.mem other).graph = graph →
      (sr.nodememb.mem other).linkIdentifier ≠ linkIdentifierOf child)
    (parentIn : ∀ parent, parentNode = some parent → parent ∈ sr.nodelist)
    (added : sr.updateFound routing graph child lifetime none parentNode = (some node, next)) :
    GraphInvariant next ∧ next.nodelist = sr.nodelist ++ [node] ∧
      (∀ other ∈ sr.nodelist, next.nodememb.mem other = sr.nodememb.mem other) ∧
      (next.nodememb.mem node).linkIdentifier = linkIdentifierOf child := by
  unfold UipSr.updateFound at added
  split at added
  · rename_i block grown taken
    obtain ⟨chosen, rfl⟩ := Prod.mk.inj added
    obtain rfl := Option.some.inj chosen
    obtain ⟨linkable, list, others⟩ := childNode_fresh invariant free taken
    have parentStill : ∀ parent, parentNode = some parent → parent ∈ grown.nodelist := by
      intro parent isParent
      rw [list]
      exact List.mem_append_left _ (parentIn parent isParent)
    refine ⟨linkChild_invariant linkable parentStill, ?_, ?_, ?_⟩
    · rw [linkChild_nodelist, list]
    · intro other member
      obtain ⟨different, same⟩ := others other member
      obtain ⟨parent, _, written⟩ :=
        linkChild_spec routing graph child lifetime parentNode block grown
      rw [written, write_mem_other _ _ different, same]
    · obtain ⟨parent, _, written⟩ :=
        linkChild_spec routing graph child lifetime parentNode block grown
      rw [written, write_mem_same]
  · cases added

def AddressNew (routing : SrRouting) (graph : Option Nat) (addr : UipIpaddr) (sr : UipSr) : Prop :=
  sr.uipSrGetNode routing graph addr = none →
  ∀ node ∈ sr.nodelist, (sr.nodememb.mem node).graph = graph →
    (sr.nodememb.mem node).linkIdentifier ≠ linkIdentifierOf addr

structure UpdateDistinct (routing : SrRouting) (graph : Option Nat) (child : UipIpaddr)
    (parent : Option UipIpaddr) (sr : UipSr) : Prop where
  childNew : AddressNew routing graph child sr
  parentNew : ∀ addr, parent = some addr → AddressNew routing graph addr sr
  different : ∀ addr, parent = some addr → sr.uipSrGetNode routing graph child = none →
    sr.uipSrGetNode routing graph addr = none → linkIdentifierOf child ≠ linkIdentifierOf addr

theorem updateFound_invariant (invariant : GraphInvariant sr)
    (childNew : AddressNew routing graph child sr)
    (parentIn : ∀ parent, parentNode = some parent → parent ∈ sr.nodelist) :
    GraphInvariant (sr.updateFound routing graph child lifetime
      (sr.uipSrGetNode routing graph child) parentNode).2 := by
  cases search : sr.uipSrGetNode routing graph child with
  | some node =>
    obtain ⟨member, graphSame, identifier⟩ := uipSrGetNode_some search
    exact updateFound_found (linkable_found invariant member graphSame identifier) parentIn
  | none =>
    cases result : sr.updateFound routing graph child lifetime none parentNode with
    | mk node next =>
      cases node with
      | some node => exact (updateFound_new invariant (childNew search) parentIn result).1
      | none =>
        have same := updateFound_failed result
        exact same ▸ invariant

theorem uipSrUpdateNode_invariant {parent : Option UipIpaddr} (invariant : GraphInvariant sr)
    (distinct : UpdateDistinct routing graph child parent sr) :
    GraphInvariant (sr.uipSrUpdateNode routing graph child parent lifetime).2 := by
  unfold UipSr.uipSrUpdateNode
  dsimp only
  split
  · exact updateFound_invariant invariant distinct.childNew fun _ isParent => nomatch isParent
  · rename_i addr
    split
    · rename_i parentNode found
      refine updateFound_invariant invariant distinct.childNew ?_
      intro parent isParent
      obtain rfl := Option.some.inj isParent
      exact (uipSrGetNode_some found).1
    · rename_i missing
      split
      · rename_i parentNode grown added
        obtain ⟨grownInvariant, list, others, identifier⟩ := updateFound_new invariant
          (distinct.parentNew addr rfl missing) (by simp) added
        have parentIn : ∀ parent, some parentNode = some parent → parent ∈ grown.nodelist := by
          intro parent isParent
          obtain rfl := Option.some.inj isParent
          rw [list]
          exact List.mem_append_right _ (List.mem_singleton.mpr rfl)
        cases search : sr.uipSrGetNode routing graph child with
        | some node =>
          obtain ⟨member, graphSame, childIdentifier⟩ := uipSrGetNode_some search
          have still := others node member
          refine updateFound_found (linkable_found grownInvariant ?_ ?_ ?_) parentIn
          · rw [list]
            exact List.mem_append_left _ member
          · rw [still, graphSame]
          · rw [still, childIdentifier]
        | none =>
          have free : ∀ other ∈ grown.nodelist, (grown.nodememb.mem other).graph = graph →
              (grown.nodememb.mem other).linkIdentifier ≠ linkIdentifierOf child := by
            intro other otherIn otherGraph
            rw [list, List.mem_append, List.mem_singleton] at otherIn
            rcases otherIn with old | rfl
            · rw [others other old] at otherGraph ⊢
              exact distinct.childNew search other old otherGraph
            · rw [identifier]
              exact (distinct.different addr rfl search missing).symm
          cases result : grown.updateFound routing graph child lifetime none (some parentNode) with
          | mk node next =>
            cases node with
            | some node => exact (updateFound_new grownInvariant free parentIn result).1
            | none =>
              have same := updateFound_failed result
              exact same ▸ grownInvariant
      · rename_i kept failed
        have same := updateFound_failed failed
        exact same ▸ invariant

theorem uipSrExpireParent_invariant {child parent : UipIpaddr} (invariant : GraphInvariant sr) :
    GraphInvariant (sr.uipSrExpireParent routing graph child parent) := by
  unfold UipSr.uipSrExpireParent
  split
  · split
    · exact lifetime_invariant invariant _ _
    · exact invariant
  · exact invariant

structure PoolInvariant (sr : UipSr) : Prop where
  used : sr.nodememb.InUse sr.nodelist
  nodup : sr.nodelist.Nodup
  counted : sr.numNodes = sr.nodelist.length

theorem deallocate_pool (pool : PoolInvariant sr)
    (member : node ∈ sr.nodelist) : PoolInvariant (sr.deallocate node) := by
  refine ⟨?_, pool.nodup.erase node, ?_⟩
  · refine (pool.used.membFree member).congr fun other => ?_
    change other ∈ sr.nodelist.erase node ↔ _
    rw [pool.nodup.mem_erase_iff, List.mem_filter, decide_eq_true_eq, and_comm]
  · change sr.numNodes - 1 = ((sr.nodelist.erase node).length : Int)
    have positive := List.length_pos_of_mem member
    rw [List.length_erase_of_mem member, pool.counted]
    omega

theorem deallocate_invariant (invariant : GraphInvariant sr) (member : node ∈ sr.nodelist)
    (childless : ∀ other ∈ sr.nodelist, (sr.nodememb.mem other).parent ≠ some node) :
    GraphInvariant (sr.deallocate node) := by
  obtain ⟨used, nodup, counted⟩ :=
    deallocate_pool ⟨invariant.used, invariant.nodup, invariant.counted⟩ member
  have older : ∀ other ∈ (sr.deallocate node).nodelist, other ∈ sr.nodelist :=
    fun other => List.mem_of_mem_erase
  have mem : (sr.deallocate node).nodememb.mem = sr.nodememb.mem :=
    Memb.membFree_mem sr.nodememb node
  refine ⟨used, nodup, counted, ?_, ?_⟩
  · intro other otherIn parent isParent
    rw [mem] at isParent
    have different : parent ≠ node :=
      fun same => childless other (older other otherIn) (same ▸ isParent)
    exact (List.mem_erase_of_ne different).mpr
      (invariant.parents other (older other otherIn) parent isParent)
  · intro first firstIn second secondIn
    rw [mem]
    exact invariant.unique first (older first firstIn) second (older second secondIn)

theorem foldl_deallocate (rest : List Nat) : ∀ sr : UipSr, sr.nodelist = rest → PoolInvariant sr →
    PoolInvariant (rest.foldl deallocate sr) ∧ (rest.foldl deallocate sr).nodelist = [] := by
  induction rest with
  | nil => exact fun sr list pool => ⟨pool, list⟩
  | cons node rest ih =>
    intro sr list pool
    refine ih (sr.deallocate node) ?_ (deallocate_pool pool (list ▸ List.mem_cons_self))
    change sr.nodelist.erase node = rest
    rw [list, List.erase_cons_head]

theorem uipSrFreeAll_invariant (invariant : GraphInvariant sr) :
    GraphInvariant sr.uipSrFreeAll := by
  obtain ⟨pool, empty⟩ := foldl_deallocate sr.nodelist sr rfl
    ⟨invariant.used, invariant.nodup, invariant.counted⟩
  refine ⟨pool.used, pool.nodup, pool.counted, ?_, ?_⟩
  · intro node member
    unfold uipSrFreeAll at member
    rw [empty] at member
    cases member
  · intro node member
    unfold uipSrFreeAll at member
    rw [empty] at member
    cases member

def ExpiredChildless (sr : UipSr) : Prop :=
  ∀ before node after, sr.nodelist = before ++ node :: after →
    (sr.nodememb.mem node).lifetime = 0 →
    ∀ other ∈ sr.nodelist, (sr.nodememb.mem other).parent = some node →
      other ∈ before ∧ (sr.nodememb.mem other).lifetime = 0

structure PeriodicLoop (start : UipSr) (before rest : List Nat) (sr : UipSr) : Prop where
  invariant : GraphInvariant sr
  nodelist : sr.nodelist =
    before.filter (fun node => (start.nodememb.mem node).lifetime ≠ 0) ++ rest
  parent : ∀ node, (sr.nodememb.mem node).parent = (start.nodememb.mem node).parent
  lifetime : ∀ node ∈ rest, (sr.nodememb.mem node).lifetime = (start.nodememb.mem node).lifetime

theorem PeriodicLoop.childless {start sr : UipSr} {before rest : List Nat}
    (loop : PeriodicLoop start before (node :: rest) sr)
    (list : start.nodelist = before ++ node :: rest) (nodup : start.nodelist.Nodup)
    (childless : ExpiredChildless start) (expired : (start.nodememb.mem node).lifetime = 0) :
    ∀ other ∈ sr.nodelist, (sr.nodememb.mem other).parent ≠ some node := by
  intro other member isParent
  rw [loop.parent] at isParent
  rw [loop.nodelist, List.mem_append, List.mem_filter, decide_eq_true_eq] at member
  have older : other ∈ start.nodelist := by
    rw [list, List.mem_append]
    exact member.imp And.left id
  obtain ⟨inBefore, gone⟩ := childless before node rest list expired other older isParent
  rcases member with kept | later
  · exact kept.2 gone
  · rw [list] at nodup
    exact (List.nodup_append.mp nodup).2.2 other inBefore other later rfl

theorem PeriodicLoop.step {start sr : UipSr} {before rest : List Nat}
    {seconds : UInt32} (loop : PeriodicLoop start before (node :: rest) sr)
    (list : start.nodelist = before ++ node :: rest) (nodup : start.nodelist.Nodup)
    (childless : ExpiredChildless start) :
    PeriodicLoop start (before ++ [node]) rest (sr.expireNode seconds node) := by
  have here := loop.lifetime node List.mem_cons_self
  have member : node ∈ sr.nodelist := by
    rw [loop.nodelist]
    exact List.mem_append_right _ List.mem_cons_self
  have apart := List.nodup_append.mp (list ▸ nodup)
  have later : ∀ other ∈ rest, other ≠ node := by
    intro other otherIn same
    exact (List.nodup_cons.mp apart.2.1).1 (same ▸ otherIn)
  unfold UipSr.expireNode
  split
  · rename_i expired
    rw [here] at expired
    have mem : (sr.deallocate node).nodememb.mem = sr.nodememb.mem :=
      Memb.membFree_mem sr.nodememb node
    refine ⟨deallocate_invariant loop.invariant member
      (loop.childless list nodup childless expired), ?_, ?_, ?_⟩
    · change sr.nodelist.erase node = _
      have absent : node ∉ before.filter fun node => (start.nodememb.mem node).lifetime ≠ 0 :=
        fun kept => apart.2.2 node (List.mem_of_mem_filter kept) node List.mem_cons_self rfl
      rw [loop.nodelist, List.erase_append_right _ absent, List.erase_cons_head,
        List.filter_append]
      simp [expired]
    · exact fun other => (congrArg UipSrNode.parent (congrFun mem other)).trans (loop.parent other)
    · intro other otherIn
      rw [mem]
      exact loop.lifetime other (List.mem_cons_of_mem _ otherIn)
  · rename_i alive
    rw [here] at alive
    have kept : sr.nodelist =
        (before ++ [node]).filter (fun node => (start.nodememb.mem node).lifetime ≠ 0) ++ rest := by
      rw [loop.nodelist, List.filter_append]
      simp [alive]
    split
    · refine ⟨lifetime_invariant loop.invariant _ _, kept, ?_, ?_⟩
      · intro other
        rw [write_lifetime_parent, loop.parent other]
      · intro other otherIn
        rw [write_mem_other _ _ (later other otherIn)]
        exact loop.lifetime other (List.mem_cons_of_mem _ otherIn)
    · exact ⟨loop.invariant, kept, loop.parent,
        fun other otherIn => loop.lifetime other (List.mem_cons_of_mem _ otherIn)⟩

theorem periodic_loop {start : UipSr} (seconds : UInt32) (invariant : GraphInvariant start)
    (childless : ExpiredChildless start) (before : List Nat) : ∀ rest,
    start.nodelist = before ++ rest →
    PeriodicLoop start before rest (before.foldl (expireNode seconds) start) := by
  induction before using List.reverseRecOn with
  | nil =>
    intro rest list
    exact ⟨invariant, list, fun _ => rfl, fun _ _ => rfl⟩
  | append_singleton before node ih =>
    intro rest list
    rw [List.append_assoc] at list
    rw [List.foldl_append]
    exact (ih (node :: rest) list).step list invariant.nodup childless

theorem uipSrPeriodic_invariant (seconds : UInt32) (invariant : GraphInvariant sr)
    (childless : ExpiredChildless sr) : GraphInvariant (sr.uipSrPeriodic seconds) :=
  (periodic_loop seconds invariant childless sr.nodelist [] (List.append_nil _).symm).invariant

def RemovalsSafe (sr : UipSr) : SrStep → Prop
  | .periodic seconds => ∀ before node after, sr.nodelist = before ++ node :: after →
      let reached := before.foldl (expireNode seconds) sr
      (reached.nodememb.mem node).lifetime = 0 →
      ∀ other ∈ reached.nodelist, (reached.nodememb.mem other).parent ≠ some node
  | _ => True

/-- What a step has to be like: a new address is not one of the graph under another prefix, and
nodes that expire have no children. -/
def SrStepSafe (sr : UipSr) : SrStep → Prop
  | .updateNode routing graph child parent _ => UpdateDistinct routing graph child parent sr
  | .periodic _ => ExpiredChildless sr
  | _ => True

theorem srStep_invariant {step : SrStep} (invariant : GraphInvariant sr)
    (safe : SrStepSafe sr step) : GraphInvariant (step.apply sr) := by
  cases step with
  | updateNode routing graph child parent lifetime => exact uipSrUpdateNode_invariant invariant safe
  | expireParent routing graph child parent => exact uipSrExpireParent_invariant invariant
  | periodic seconds => exact uipSrPeriodic_invariant seconds invariant safe
  | freeAll => exact uipSrFreeAll_invariant invariant

theorem removalsSafe_of_safe {step : SrStep} (invariant : GraphInvariant sr)
    (safe : SrStepSafe sr step) : RemovalsSafe sr step := by
  cases step with
  | updateNode routing graph child parent lifetime => trivial
  | expireParent routing graph child parent => trivial
  | periodic seconds =>
    intro before node after list reached expired
    have loop := periodic_loop seconds invariant safe before (node :: after) list
    rw [loop.lifetime node List.mem_cons_self] at expired
    exact loop.childless list invariant.nodup safe expired
  | freeAll => trivial

theorem graph_integrity (sr : UipSr) (steps : List SrStep)
    (safe : Run.Meets SrStep.apply SrStepSafe sr.uipSrInit steps) :
    Run.Always SrStep.apply GraphIntegrity sr.uipSrInit steps ∧
      Run.Meets SrStep.apply RemovalsSafe sr.uipSrInit steps := by
  constructor
  · exact Run.always_of_meets GraphInvariant (fun _ invariant => invariant.integrity)
      (fun _ _ invariant safe => srStep_invariant invariant safe) steps _ (uipSrInit_invariant sr)
      safe
  · exact Run.meets_of_meets GraphInvariant
      (fun _ _ invariant safe => srStep_invariant invariant safe)
      (fun _ _ invariant safe => removalsSafe_of_safe invariant safe) steps _
      (uipSrInit_invariant sr) safe

theorem expiredChildless_of_alive (alive : ∀ other ∈ sr.nodelist, (sr.nodememb.mem other).parent.all
      fun parent => (sr.nodememb.mem parent).lifetime ≠ 0) : ExpiredChildless sr := by
  intro before node after _ expired other member isParent
  have parentAlive := alive other member
  rw [isParent] at parentAlive
  exact absurd expired (of_decide_eq_true parentAlive)

def srRoot : UipIpaddr := #v[0xfd, 0, 0, 0, 0, 0, 0, 0, 0, 0, 0, 0, 0, 0, 0, 1]

def srRouter : UipIpaddr := #v[0xfd, 0, 0, 0, 0, 0, 0, 0, 0, 0, 0, 0, 0, 0, 0, 2]

def srLeaf : UipIpaddr := #v[0xfd, 0, 0, 0, 0, 0, 0, 0, 0, 0, 0, 0, 0, 0, 0, 3]

def srLeafLinklocal : UipIpaddr := #v[0xfe, 0x80, 0, 0, 0, 0, 0, 0, 0, 0, 0, 0, 0, 0, 0, 3]

def srRouting : SrRouting := ⟨srRoot, srRoot⟩

def srEmpty : UipSr := ⟨0, [], ⟨5, fun _ => 0, fun _ => default⟩⟩

def agingSteps (routerLifetime leafLifetime : UInt32) : List SrStep :=
  [.updateNode srRouting none srRouter (some srRoot) routerLifetime,
    .updateNode srRouting none srLeaf (some srRouter) leafLifetime, .periodic 60, .periodic 60]

theorem graph_integrity_aging :
    Run.Always SrStep.apply GraphIntegrity srEmpty.uipSrInit (agingSteps 200 60) ∧
      Run.Meets SrStep.apply RemovalsSafe srEmpty.uipSrInit (agingSteps 200 60) := by
  refine graph_integrity srEmpty (agingSteps 200 60) ⟨⟨?_, ?_, ?_⟩, ⟨?_, ?_, ?_⟩, ?_, ?_, trivial⟩
  · unfold AddressNew
    decide +kernel
  · rintro addr ⟨rfl⟩
    unfold AddressNew
    decide +kernel
  · rintro addr ⟨rfl⟩ _ _
    decide +kernel
  · unfold AddressNew
    decide +kernel
  · rintro addr ⟨rfl⟩
    unfold AddressNew
    decide +kernel
  · rintro addr ⟨rfl⟩ _ _
    decide +kernel
  · exact expiredChildless_of_alive (by decide +kernel)
  · exact expiredChildless_of_alive (by decide +kernel)

/-- When the router expires first it is removed under its child; and a leaf that registers from its
link-local address gets one node for each message. -/
theorem graph_integrity_fails :
    ¬ GraphIntegrity (Run.final SrStep.apply srEmpty.uipSrInit (agingSteps 60 100)) ∧
      ¬ GraphIntegrity (Run.final SrStep.apply srEmpty.uipSrInit
        (List.replicate 2 (.updateNode srRouting none srLeafLinklocal (some srRoot) 120))) := by
  constructor
  · intro integrity
    exact absurd (integrity.parents 2 (by decide +kernel) 1 (by decide +kernel)) (by decide +kernel)
  · intro integrity
    exact absurd (integrity.unique srRoot 1 (by decide +kernel) 2 (by decide +kernel)
      (by decide +kernel) (by decide +kernel)) (by decide)

end MultiPhyTsch.Rpl
