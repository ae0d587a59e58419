import MultiPhyTsch.Ipv6.RouteConsistency

/-! What `uip_ds6_route_add` does to the other routes. The route it takes for an old one is the
longest match of the address, which can be the route of a shorter prefix. -/

namespace MultiPhyTsch.Ds6

open Rpl RouteState

variable {conf : RouteConf} {state : RouteState}

def addressBits (ipaddr : UipIpaddr) : List Bool :=
  ipaddr.toList.flatMap fun byte => (List.range 8).map fun bit => byte.toNat.testBit (7 - bit)

def destination (ipaddr : UipIpaddr) (length : UInt8) : UInt8 × List Bool :=
  (length, (addressBits ipaddr).take length.toNat)

namespace RouteState

def routeDestination (r : Nat) (state : RouteState) : UInt8 × List Bool :=
  destination (state.route r).ipaddr (state.route r).length

def hopAddress (hop : Option Nat) (state : RouteState) : Option UipIpaddr :=
  (state.tables.getFromLladdr .ds6Neighbors (state.tables.getLladdr hop)).map state.ds6Nbr

theorem uipDs6RouteNexthop_eq (r : Nat) (state : RouteState) :
    state.uipDs6RouteNexthop r = state.hopAddress (state.route r).neighborRoutes := rfl

theorem hopAddress_unlinked (key block r : Nat) (hop : Option Nat) (state : RouteState) :
    (state.unlinked key block r).hopAddress hop = state.hopAddress hop := by
  have used : ∀ item, (state.unlinked key block r).tables.usedMap item .ds6Neighbors =
      state.tables.usedMap item .ds6Neighbors := by
    intro item
    rw [unlinked_usedMap, if_neg]
    rintro ⟨-, same, -⟩
    cases same
  simp only [hopAddress, NbrTables.getFromLladdr, NbrTables.getLladdr, NbrTables.indexFromLladdr,
    unlinked_nbrTableKeys, unlinked_neighborAddrMem, used]
  rfl

theorem hopAddress_linked (key block r : Nat) (ipaddr : UipIpaddr) (length : UInt8)
    (hop : Option Nat) (state : RouteState) :
    (state.linked key block r ipaddr length).hopAddress hop = state.hopAddress hop := by
  have used : ∀ item, (state.linked key block r ipaddr length).tables.usedMap item .ds6Neighbors =
      state.tables.usedMap item .ds6Neighbors := by
    intro item
    rw [linked_usedMap, if_neg]
    rintro ⟨-, same⟩
    cases same
  simp only [hopAddress, NbrTables.getFromLladdr, used]
  rfl

end RouteState

structure InsertsOnly (ipaddr : UipIpaddr) (length : UInt8) (nexthop : UipIpaddr)
    (state next : RouteState) : Prop where
  inserted : ∃ r ∈ next.routelist, next.routeDestination r = destination ipaddr length ∧
    next.uipDs6RouteNexthop r = some nexthop
  others : ∀ r ∈ state.routelist, state.routeDestination r ≠ destination ipaddr length →
    ∃ kept ∈ next.routelist, next.routeDestination kept = state.routeDestination r ∧
      (next.route kept).neighborRoutes = (state.route r).neighborRoutes ∧
      next.uipDs6RouteNexthop kept = state.uipDs6RouteNexthop r

/-- The next hop is known, and the longest match is no route that goes by mistake or that is taken
for the new one by mistake. -/
def MatchesExactly (ipaddr : UipIpaddr) (length : UInt8) (nexthop : UipIpaddr)
    (state : RouteState) : Prop :=
  state.uipDs6NbrLookup nexthop ≠ none ∧ ∀ r, state.foundRoute ipaddr = some r →
    if state.uipDs6RouteNexthop r = some nexthop then
      ∃ same ∈ state.routelist, state.routeDestination same = destination ipaddr length ∧
        state.uipDs6RouteNexthop same = some nexthop
    else
      state.routeDestination r = destination ipaddr length ∨
        ∃ twin ∈ state.routelist, twin ≠ r ∧
          state.routeDestination twin = state.routeDestination r ∧
          (state.route twin).neighborRoutes = (state.route r).neighborRoutes

structure Extends (ipaddr : UipIpaddr) (length : UInt8) (nexthop : UipIpaddr) (r : Nat)
    (state next : RouteState) : Prop where
  routelist : next.routelist = r :: state.routelist
  added : next.routeDestination r = destination ipaddr length
  via : next.uipDs6RouteNexthop r = some nexthop
  kept : ∀ old ∈ state.routelist, next.route old = state.route old
  addresses : ∀ hop, next.hopAddress hop = state.hopAddress hop

namespace RouteInv

theorem hopAddress_neighbor (inv : RouteInv conf [] state) {nexthop : UipIpaddr} {item : Nat}
    (neighbor : state.uipDs6NbrLookup nexthop = some item) :
    state.hopAddress (some item) = some nexthop := by
  have known := inv.indexFromLladdr_neighbor neighbor
  have used : state.tables.usedMap item .ds6Neighbors = true :=
    (List.mem_filter.mp (List.mem_of_find?_eq_some neighbor)).2
  have address : state.ds6Nbr item = nexthop := by simpa using List.find?_some neighbor
  simp [hopAddress, NbrTables.getFromLladdr, NbrTables.getLladdr, known, used, address]

theorem uipDs6NbrLookup_of_hopAddress (hop : Option Nat) {nexthop : UipIpaddr}
    (address : state.hopAddress hop = some nexthop) : state.uipDs6NbrLookup nexthop ≠ none := by
  obtain ⟨item, found, same⟩ := Option.map_eq_some_iff.mp address
  rw [NbrTables.getFromLladdr, Option.filter_eq_some_iff] at found
  have member : item ∈ state.tables.items .ds6Neighbors :=
    List.mem_filter.mpr ⟨List.mem_of_find?_eq_some found.1, found.2⟩
  intro absent
  have different := List.find?_eq_none.mp absent item member
  simp [same] at different

theorem extends_linked (inv : RouteInv conf [] state) (ipaddr : UipIpaddr) (length : UInt8)
    {nexthop : UipIpaddr} {item block r : Nat} (address : state.hopAddress (some item) = some nexthop)
    (routeFound : state.routememb.membAlloc.1 = some r) :
    Extends ipaddr length nexthop r state (state.linked item block r ipaddr length) := by
  have fresh := (Memb.membAlloc_some inv.routes.inUse routeFound).1
  have new : (state.linked item block r ipaddr length).route r = ⟨some item, ipaddr, length⟩ := by
    simp [linked, route]
  refine ⟨rfl, ?_, ?_, ?_, fun hop => hopAddress_linked item block r ipaddr length hop state⟩
  · rw [routeDestination, new]
  · rw [uipDs6RouteNexthop_eq, new, hopAddress_linked, address]
  · intro old listed
    have different : old ≠ r := fun same => fresh (same ▸ listed)
    simp [linked, route, Memb.write_other _ _ different]

end RouteInv

namespace Extends

variable {ipaddr : UipIpaddr} {length : UInt8} {nexthop : UipIpaddr} {r : Nat} {next : RouteState}

theorem inserted (extend : Extends ipaddr length nexthop r state next) :
    ∃ r ∈ next.routelist, next.routeDestination r = destination ipaddr length ∧
      next.uipDs6RouteNexthop r = some nexthop := by
  refine ⟨r, ?_, extend.added, extend.via⟩
  rw [extend.routelist]
  exact List.mem_cons_self

theorem old (extend : Extends ipaddr length nexthop r state next) {kept : Nat}
    (listed : kept ∈ state.routelist) :
    kept ∈ next.routelist ∧ next.route kept = state.route kept ∧
      next.uipDs6RouteNexthop kept = state.uipDs6RouteNexthop kept := by
  refine ⟨extend.routelist ▸ List.mem_cons_of_mem r listed, extend.kept kept listed, ?_⟩
  rw [uipDs6RouteNexthop_eq, uipDs6RouteNexthop_eq, extend.kept kept listed, extend.addresses]

end Extends

section

variable (inv : RouteInv conf [] state) (victim : Option Nat) (ipaddr : UipIpaddr) (length : UInt8)
  (nexthop : UipIpaddr) (space : state.foundRoute ipaddr = none → state.numRoutes ≠ conf.routeNb)
include inv space

theorem uipDs6RouteAdd_cases :
    ∃ list, list.Perm state.routelist ∧
      let moved := { state with routelist := list }
      let next := (state.uipDs6RouteAdd conf victim ipaddr length nexthop).2
      (state.uipDs6NbrLookup nexthop = none ∧ next = state) ∨
      (state.uipDs6NbrLookup nexthop ≠ none ∧ state.foundRoute ipaddr = none ∧
        ∃ r, Extends ipaddr length nexthop r moved next) ∨
      (∃ found, state.uipDs6NbrLookup nexthop ≠ none ∧ state.foundRoute ipaddr = some found ∧
        state.uipDs6RouteNexthop found = some nexthop ∧ next = moved) ∨
      ∃ found key block r, state.uipDs6NbrLookup nexthop ≠ none ∧
        state.foundRoute ipaddr = some found ∧ state.uipDs6RouteNexthop found ≠ some nexthop ∧
        Extends ipaddr length nexthop r (moved.unlinked key block found) next := by
  obtain ⟨list, same, looked⟩ := state.uipDs6RouteLookup_eq ipaddr
  have moved := inv.reorder same
  refine ⟨list, same, ?_⟩
  cases neighbor : state.uipDs6NbrLookup nexthop with
  | none =>
    exact Or.inl ⟨rfl, by
      simp [uipDs6RouteAdd, uipDs6NbrLladdrFromIpaddr, neighbor, NbrTables.getLladdr]⟩
  | some item =>
    have lladdr : state.uipDs6NbrLladdrFromIpaddr nexthop =
        some (state.tables.neighborAddrMem.mem item) := by
      rw [uipDs6NbrLladdrFromIpaddr, neighbor]
      rfl
    have known := inv.indexFromLladdr_neighbor neighbor
    have address := moved.hopAddress_neighbor neighbor
    right
    simp only [uipDs6RouteAdd, lladdr, looked]
    cases found : state.foundRoute ipaddr with
    | none =>
      left
      obtain ⟨r, block, routeFound, -, result⟩ :=
        moved.insertRoute_eq victim ipaddr length (space found) known
      dsimp only
      rw [result]
      exact ⟨Option.some_ne_none item, rfl, r,
        moved.extends_linked ipaddr length address routeFound⟩
    | some old =>
      right
      by_cases current : state.uipDs6RouteNexthop old = some nexthop
      · left
        have still : uipDs6RouteNexthop old { state with routelist := list } = some nexthop :=
          current
        simp only [still, if_true]
        exact ⟨old, Option.some_ne_none item, rfl, current, trivial⟩
      · right
        have changed : uipDs6RouteNexthop old { state with routelist := list } ≠ some nexthop :=
          current
        simp only [changed, if_false]
        have listed : old ∈ list := same.mem_iff.mpr (mem_of_foundRoute found)
        obtain ⟨key, block, member, target⟩ := moved.exists_block listed
        obtain ⟨-, fewer, index⟩ := moved.uipDs6RouteRm listed
        have kept := moved.unlink member target listed
        rw [moved.uipDs6RouteRm_eq member target] at fewer index ⊢
        have counted := inv.counted
        have bound := inv.length_le
        have room : (unlinked key block old { state with routelist := list }).numRoutes ≠
            conf.routeNb := by
          rw [fewer]
          dsimp only
          omega
        obtain ⟨r, other, routeFound, -, result⟩ :=
          kept.insertRoute_eq victim ipaddr length room ((index _).trans known)
        rw [result]
        refine ⟨old, key, block, r, Option.some_ne_none item, rfl, current, ?_⟩
        apply kept.extends_linked ipaddr length _ routeFound
        rw [hopAddress_unlinked, address]

theorem insertsOnly_iff :
    InsertsOnly ipaddr length nexthop state
        (state.uipDs6RouteAdd conf victim ipaddr length nexthop).2 ↔
      MatchesExactly ipaddr length nexthop state := by
  obtain ⟨list, same, outcome⟩ := uipDs6RouteAdd_cases inv victim ipaddr length nexthop space
  dsimp only at outcome
  generalize (state.uipDs6RouteAdd conf victim ipaddr length nexthop).2 = next at outcome ⊢
  have moved : ∀ {r}, r ∈ list ↔ r ∈ state.routelist := same.mem_iff
  rcases outcome with ⟨unknown, rfl⟩ | ⟨known, absent, r, extend⟩ |
    ⟨found, known, longest, current, rfl⟩ | ⟨found, key, block, r, known, longest, changed, extend⟩
  · constructor
    · intro holds
      obtain ⟨r, -, -, via⟩ := holds.inserted
      exact absurd unknown (RouteInv.uipDs6NbrLookup_of_hopAddress _ via)
    · exact fun condition => absurd unknown condition.1
  · constructor
    · intro _
      refine ⟨known, ?_⟩
      intro other found
      rw [absent] at found
      cases found
    · intro _
      refine ⟨extend.inserted, ?_⟩
      intro old listed _
      obtain ⟨member, content, via⟩ := extend.old (moved.mpr listed)
      exact ⟨old, member, by rw [routeDestination, content]; rfl, by rw [content]; rfl, via⟩
  · constructor
    · intro holds
      refine ⟨known, ?_⟩
      intro other alsoFound
      obtain rfl : found = other := Option.some.inj (longest.symm.trans alsoFound)
      rw [if_pos current]
      obtain ⟨exact, member, content⟩ := holds.inserted
      exact ⟨exact, moved.mp member, content⟩
    · intro condition
      have present := condition.2 found longest
      rw [if_pos current] at present
      obtain ⟨exact, member, content⟩ := present
      refine ⟨⟨exact, moved.mpr member, content⟩, ?_⟩
      exact fun old listed _ => ⟨old, moved.mpr listed, rfl, rfl, rfl⟩
  · have remains : ∀ {old}, old ∈ listRemove list found ↔ old ≠ found ∧ old ∈ state.routelist := by
      intro old
      have unique : list.Nodup := same.nodup_iff.mpr inv.routes.nodup
      rw [mem_listRemove unique, moved]
    have kept : ∀ old, old ≠ found → old ∈ state.routelist →
        old ∈ next.routelist ∧ next.route old = state.route old ∧
          next.uipDs6RouteNexthop old = state.uipDs6RouteNexthop old := by
      intro old different listed
      obtain ⟨member, content, via⟩ := extend.old (remains.mpr ⟨different, listed⟩)
      have memory : (unlinked key block found { state with routelist := list }).route old =
          state.route old := congrFun (Memb.membFree_mem _ _) old
      refine ⟨member, content.trans memory, via.trans ?_⟩
      rw [uipDs6RouteNexthop_eq, hopAddress_unlinked, memory]
      rfl
    constructor
    · intro holds
      refine ⟨known, ?_⟩
      intro other alsoFound
      obtain rfl : found = other := Option.some.inj (longest.symm.trans alsoFound)
      rw [if_neg changed]
      by_cases exact : state.routeDestination found = destination ipaddr length
      · exact Or.inl exact
      · obtain ⟨twin, member, content, owner, -⟩ :=
          holds.others found (mem_of_foundRoute longest) exact
        rw [extend.routelist] at member
        rcases List.mem_cons.mp member with new | old
        · rw [new, extend.added] at content
          exact absurd content.symm exact
        · obtain ⟨different, listed⟩ := remains.mp old
          obtain ⟨-, memory, -⟩ := kept twin different listed
          rw [routeDestination, memory] at content
          rw [memory] at owner
          exact Or.inr ⟨twin, listed, different, content, owner⟩
    · intro condition
      have apart := condition.2 found longest
      rw [if_neg changed] at apart
      refine ⟨extend.inserted, ?_⟩
      intro old listed different
      have survivor : ∃ twin ∈ state.routelist, twin ≠ found ∧
          state.routeDestination twin = state.routeDestination old ∧
          (state.route twin).neighborRoutes = (state.route old).neighborRoutes := by
        by_cases removed : old = found
        · subst removed
          exact apart.resolve_left different
        · exact ⟨old, listed, removed, rfl, rfl⟩
      obtain ⟨twin, twinListed, remaining, content, owner⟩ := survivor
      obtain ⟨member, memory, via⟩ := kept twin remaining twinListed
      refine ⟨twin, member, ?_, ?_, ?_⟩
      · rw [routeDestination, memory]
        exact content
      · rw [memory, owner]
      · rw [via, uipDs6RouteNexthop_eq, uipDs6RouteNexthop_eq, owner]

end

theorem insertsOnly_iff_of_run (conf : RouteConf) (maxNeighbors : Nat) (steps : List RouteStep)
    (valid : Run.Meets (RouteStep.apply conf) (fun state step => step.Valid state)
      (RouteState.init conf maxNeighbors) steps)
    (victim : Option Nat) (ipaddr : UipIpaddr) (length : UInt8) (nexthop : UipIpaddr)
    (state : RouteState)
    (reached : state = Run.final (RouteStep.apply conf) (RouteState.init conf maxNeighbors) steps)
    (space : state.foundRoute ipaddr = none → state.numRoutes ≠ conf.routeNb) :
    InsertsOnly ipaddr length nexthop state
        (state.uipDs6RouteAdd conf victim ipaddr length nexthop).2 ↔
      MatchesExactly ipaddr length nexthop state := by
  have inv : RouteInv conf [] state := reached ▸ routeInv_of_run conf maxNeighbors valid
  exact insertsOnly_iff inv victim ipaddr length nexthop space

def coveringRun : List RouteStep :=
  [.neighborAdd (sampleAddr 0xfe 1) (sampleLladdr 1) none,
    .neighborAdd (sampleAddr 0xfe 2) (sampleLladdr 2) none,
    .add (sampleAddr 0x20 0) 64 (sampleAddr 0xfe 1) none]

def coveringState : RouteState :=
  Run.final (RouteStep.apply ⟨4, true⟩) (RouteState.init ⟨4, true⟩ 2) coveringRun

theorem insertsOnly_iff_of_run_covering :
    InsertsOnly (sampleAddr 0x30 7) 128 (sampleAddr 0xfe 2) coveringState
        (coveringState.uipDs6RouteAdd ⟨4, true⟩ none (sampleAddr 0x30 7) 128
          (sampleAddr 0xfe 2)).2 ↔
      MatchesExactly (sampleAddr 0x30 7) 128 (sampleAddr 0xfe 2) coveringState := by
  apply insertsOnly_iff_of_run ⟨4, true⟩ 2 coveringRun _ none (sampleAddr 0x30 7) 128
    (sampleAddr 0xfe 2) coveringState rfl
  · decide
  · simp only [coveringRun, Run.Meets, RouteStep.Valid]
    decide

theorem coveringRoute_removed :
    Run.Meets (RouteStep.apply ⟨4, true⟩) (fun state step => step.Valid state)
        (RouteState.init ⟨4, true⟩ 2) coveringRun ∧
      coveringState.numRoutes ≠ 4 ∧
      ¬ InsertsOnly (sampleAddr 0x20 7) 128 (sampleAddr 0xfe 2) coveringState
        (coveringState.uipDs6RouteAdd ⟨4, true⟩ none (sampleAddr 0x20 7) 128
          (sampleAddr 0xfe 2)).2 := by
  refine ⟨?_, by decide, ?_⟩
  · simp only [coveringRun, Run.Meets, RouteStep.Valid]
    decide
  · intro holds
    have survivor := holds.others 0 (by decide) (by decide)
    revert survivor
    decide

end MultiPhyTsch.Ds6
