import MultiPhyTsch.Ipv6.RouteInvariant

/-! A route that is added finds its next hop among the keys and a block in each pool, so that every
call keeps the lists and the pools in step. -/

namespace MultiPhyTsch.Ds6

open Rpl Nbr RouteState

variable {conf : RouteConf} {state : RouteState}

namespace RouteState

theorem lookupFrom_mem (addr : UipIpaddr) (state : RouteState) {r : Nat} :
    ∀ (list : List Nat) (found : Option Nat) (longest : UInt8),
      state.lookupFrom addr list found longest = some r → found = some r ∨ r ∈ list := by
  intro list
  induction list with
  | nil => exact fun found longest result => Or.inl result
  | cons first rest ih =>
    intro found longest result
    rw [lookupFrom] at result
    split at result
    · split at result
      · exact Or.inr (Option.some.inj result ▸ List.mem_cons_self)
      · rcases ih _ _ result with here | later
        · exact Or.inr (Option.some.inj here ▸ List.mem_cons_self)
        · exact Or.inr (List.mem_cons_of_mem first later)
    · rcases ih _ _ result with earlier | later
      · exact Or.inl earlier
      · exact Or.inr (List.mem_cons_of_mem first later)

theorem mem_of_foundRoute {addr : UipIpaddr} {r : Nat} (found : state.foundRoute addr = some r) :
    r ∈ state.routelist := by
  rcases lookupFrom_mem addr state state.routelist none 0 found with absent | member
  · cases absent
  · exact member

theorem uipDs6RouteLookup_eq (addr : UipIpaddr) (state : RouteState) :
    ∃ list, list.Perm state.routelist ∧
      state.uipDs6RouteLookup addr = (state.foundRoute addr, { state with routelist := list }) := by
  rw [uipDs6RouteLookup]
  cases found : state.foundRoute addr with
  | none => exact ⟨state.routelist, List.Perm.refl _, rfl⟩
  | some r =>
    by_cases front : state.routelist.head? = some r
    · exact ⟨state.routelist, List.Perm.refl _, by simp [front]⟩
    · exact ⟨listPush state.routelist r,
        (List.perm_cons_erase (mem_of_foundRoute found)).symm, by simp [front]⟩

theorem linkRoute_eq {key r block : Nat} (ipaddr : UipIpaddr) (length : UInt8)
    (routeFound : state.routememb.membAlloc.1 = some r) (freshRoute : r ∉ state.routelist)
    (blockFound : state.neighborroutememb.membAlloc.1 = some block)
    (freshBlock : block ∉ state.routeList key) :
    state.linkRoute ipaddr length key =
      (some r, { state with
        routelist := r :: state.routelist
        routeList := Function.update state.routeList key (state.routeList key ++ [block])
        tables := state.tables.setLocked true nbrRoutesTable key
        routememb := state.routememb.membAlloc.2.write r fun _ => ⟨some key, ipaddr, length⟩
        neighborroutememb := state.neighborroutememb.membAlloc.2.write block fun _ => some r
        numRoutes := state.numRoutes + 1 }) := by
  have routePair : state.routememb.membAlloc = (some r, state.routememb.membAlloc.2) :=
    Prod.ext routeFound rfl
  have blockPair : state.neighborroutememb.membAlloc =
      (some block, state.neighborroutememb.membAlloc.2) := Prod.ext blockFound rfl
  rw [linkRoute, routePair]
  dsimp only
  rw [blockPair]
  dsimp only
  rw [listAdd_of_not_mem freshBlock, listPush, listRemove, List.erase_of_not_mem freshRoute]

theorem setUsed_self {tables : NbrTables} {table : NbrTableId} {item : Nat}
    (used : tables.usedMap item table = true) : tables.setUsed true table item = tables := by
  simp [NbrTables.setUsed, ← used]

end RouteState

namespace RouteInv

theorem length_le {pending : List Nat} (inv : RouteInv conf pending state) :
    state.routelist.length ≤ conf.routeNb := by
  have total := inv.routes.inUse.membNumfree_add inv.routes.nodup
  have size := inv.routesNum
  omega

theorem exists_free (inv : RouteInv conf [] state) (space : state.numRoutes ≠ conf.routeNb) :
    (∃ r, state.routememb.membAlloc.1 = some r) ∧
      ∃ block, state.neighborroutememb.membAlloc.1 = some block := by
  have counted := inv.counted
  have bound := inv.length_le
  have routesNum := inv.routesNum
  have blocksNum := inv.blocksNum
  have lengths := inv.targets.length_eq
  rw [List.length_map, List.length_map] at lengths
  rw [← Option.isSome_iff_exists, ← Option.isSome_iff_exists,
    inv.routes.inUse.membAlloc_isSome_iff inv.routes.nodup,
    inv.blocks.inUse.membAlloc_isSome_iff inv.blocks.nodup]
  omega

theorem insertRoute_eq (inv : RouteInv conf [] state) (victim : Option Nat) (ipaddr : UipIpaddr)
    (length : UInt8) {lladdr : LinkAddr} {key : Nat} (space : state.numRoutes ≠ conf.routeNb)
    (known : state.tables.indexFromLladdr (some lladdr) = some key) :
    ∃ r block, state.routememb.membAlloc.1 = some r ∧
      state.neighborroutememb.membAlloc.1 = some block ∧
      state.insertRoute conf victim ipaddr length lladdr =
        (some r, state.linked key block r ipaddr length) := by
  obtain ⟨⟨r, routeFound⟩, block, blockFound⟩ := inv.exists_free space
  have freshRoute := (Memb.membAlloc_some inv.routes.inUse routeFound).1
  have freshBlock : block ∉ state.nextHopRoutes key := fun member =>
    (Memb.membAlloc_some inv.blocks.inUse blockFound).1 (inv.mem_listedBlocks.mpr ⟨key, member⟩)
  refine ⟨r, block, routeFound, blockFound, ?_⟩
  by_cases used : state.tables.usedMap key nbrRoutesTable = true
  · have hop : state.tables.getFromLladdr nbrRoutesTable (some lladdr) = some key := by
      simp [NbrTables.getFromLladdr, known, used]
    have whole : state.nextHopRoutes key = state.routeList key := by rw [nextHopRoutes, if_pos used]
    rw [whole] at freshBlock
    simp only [insertRoute, space, hop, decide_false, Bool.false_and, Bool.false_eq_true, if_false]
    rw [linkRoute_eq ipaddr length routeFound freshRoute blockFound freshBlock, linked, whole,
      setUsed_self used]
  · have hop : state.tables.getFromLladdr nbrRoutesTable (some lladdr) = none := by
      simp [NbrTables.getFromLladdr, known, used]
    have none : state.nextHopRoutes key = [] := by rw [nextHopRoutes, if_neg used]
    simp only [insertRoute, space, hop, decide_false, Bool.false_and, Bool.false_eq_true, if_false,
      addNextHop, RouteState.keyOfLladdr, known]
    have added := @linkRoute_eq
      { state with
        routeList := Function.update state.routeList key []
        tables := state.tables.setUsed true nbrRoutesTable key }
      key r block ipaddr length routeFound freshRoute blockFound (by simp)
    rw [added, linked, none]
    simp

theorem uipDs6RouteRm (inv : RouteInv conf [] state) {r : Nat} (listed : r ∈ state.routelist) :
    RouteInv conf [] (state.uipDs6RouteRm (some r)) ∧
      (state.uipDs6RouteRm (some r)).numRoutes = state.numRoutes - 1 ∧
      ∀ lladdr, (state.uipDs6RouteRm (some r)).tables.indexFromLladdr lladdr =
        state.tables.indexFromLladdr lladdr := by
  obtain ⟨key, block, member, target⟩ := inv.exists_block listed
  rw [inv.uipDs6RouteRm_eq member target]
  refine ⟨inv.unlink member target listed, rfl, ?_⟩
  intro lladdr
  simp [NbrTables.indexFromLladdr]

theorem reorder {pending list : List Nat} (inv : RouteInv conf pending state)
    (same : list.Perm state.routelist) :
    RouteInv conf pending { state with routelist := list } :=
  ⟨inv.tables, inv.routes.perm same, inv.blocks, inv.targets.trans (same.symm.map some), inv.owners,
    inv.nonempty, inv.routesNum, inv.blocksNum,
    inv.counted.trans (congrArg Nat.cast same.symm.length_eq)⟩

theorem insertRoute (inv : RouteInv conf [] state) (victim : Option Nat) (ipaddr : UipIpaddr)
    (length : UInt8) {lladdr : LinkAddr} {key : Nat}
    (known : state.tables.indexFromLladdr (some lladdr) = some key) :
    RouteInv conf [] (state.insertRoute conf victim ipaddr length lladdr).2 ∧
      ((state.insertRoute conf victim ipaddr length lladdr).1 = none ↔
        state.numRoutes = conf.routeNb ∧
          (conf.removeLeastRecentlyUsed = false ∨ state.routelist = [])) := by
  have spaced : ∀ state : RouteState, RouteInv conf [] state → state.numRoutes ≠ conf.routeNb →
      state.tables.indexFromLladdr (some lladdr) = some key →
      RouteInv conf [] (state.insertRoute conf victim ipaddr length lladdr).2 ∧
        (state.insertRoute conf victim ipaddr length lladdr).1 ≠ none := by
    intro state inv space known
    obtain ⟨r, block, routeFound, blockFound, result⟩ :=
      inv.insertRoute_eq victim ipaddr length space known
    rw [result]
    exact ⟨inv.link ipaddr length (List.mem_of_find?_eq_some known) routeFound blockFound,
      Option.some_ne_none r⟩
  by_cases full : state.numRoutes = conf.routeNb
  · cases oldest : (if conf.removeLeastRecentlyUsed then state.routelist.getLast? else none) with
    | none =>
      have stopped : state.insertRoute conf victim ipaddr length lladdr = (none, state) := by
        simp [RouteState.insertRoute, full, oldest]
      rw [stopped]
      refine ⟨inv, ?_⟩
      by_cases policy : conf.removeLeastRecentlyUsed = true
      · rw [if_pos policy, List.getLast?_eq_none_iff] at oldest
        simp [full, oldest]
      · simp [full, policy]
    | some last =>
      have policy : conf.removeLeastRecentlyUsed = true := by
        by_contra off
        rw [if_neg off] at oldest
        cases oldest
      rw [if_pos policy] at oldest
      have listed : last ∈ state.routelist := List.mem_of_getLast? oldest
      obtain ⟨kept, fewer, index⟩ := inv.uipDs6RouteRm listed
      have space : (state.uipDs6RouteRm (some last)).numRoutes ≠ conf.routeNb := by omega
      have dropped : state.insertRoute conf victim ipaddr length lladdr =
          (state.uipDs6RouteRm (some last)).insertRoute conf victim ipaddr length lladdr := by
        simp [RouteState.insertRoute, full, oldest, policy, space]
      rw [dropped]
      obtain ⟨result, inserted⟩ := spaced _ kept space ((index _).trans known)
      refine ⟨result, ⟨fun failed => absurd failed inserted, ?_⟩⟩
      rintro ⟨-, off | empty⟩
      · rw [policy] at off
        cases off
      · rw [empty] at listed
        cases listed
  · obtain ⟨result, inserted⟩ := spaced state inv full known
    exact ⟨result, ⟨fun failed => absurd failed inserted, fun condition => absurd condition.1 full⟩⟩

theorem indexFromLladdr_neighbor {pending : List Nat} (inv : RouteInv conf pending state)
    {nexthop : UipIpaddr} {item : Nat} (neighbor : state.uipDs6NbrLookup nexthop = some item) :
    state.tables.indexFromLladdr (some (state.tables.neighborAddrMem.mem item)) = some item :=
  inv.tables.indexFromLladdr_eq_some.mpr
    ⟨List.mem_of_mem_filter (List.mem_of_find?_eq_some neighbor), rfl⟩

theorem uipDs6RouteAdd (inv : RouteInv conf [] state) (victim : Option Nat) (ipaddr : UipIpaddr)
    (length : UInt8) (nexthop : UipIpaddr) :
    RouteInv conf [] (state.uipDs6RouteAdd conf victim ipaddr length nexthop).2 ∧
      ((state.uipDs6RouteAdd conf victim ipaddr length nexthop).1 = none ↔
        state.uipDs6NbrLookup nexthop = none ∨
          (state.foundRoute ipaddr = none ∧ state.numRoutes = conf.routeNb ∧
            (conf.removeLeastRecentlyUsed = false ∨ state.routelist = []))) := by
  cases neighbor : state.uipDs6NbrLookup nexthop with
  | none =>
    have stopped : state.uipDs6RouteAdd conf victim ipaddr length nexthop = (none, state) := by
      simp [RouteState.uipDs6RouteAdd, uipDs6NbrLladdrFromIpaddr, neighbor, NbrTables.getLladdr]
    rw [stopped]
    exact ⟨inv, by simp⟩
  | some item =>
    have lladdr : state.uipDs6NbrLladdrFromIpaddr nexthop =
        some (state.tables.neighborAddrMem.mem item) := by
      rw [uipDs6NbrLladdrFromIpaddr, neighbor]
      rfl
    have known := inv.indexFromLladdr_neighbor neighbor
    obtain ⟨list, same, looked⟩ := state.uipDs6RouteLookup_eq ipaddr
    have moved := inv.reorder same
    simp only [RouteState.uipDs6RouteAdd, lladdr, looked]
    cases found : state.foundRoute ipaddr with
    | none =>
      have empty : list = [] ↔ state.routelist = [] := by
        rw [← List.length_eq_zero_iff, ← List.length_eq_zero_iff, same.length_eq]
      have inserted := moved.insertRoute victim ipaddr length known
      simpa [empty] using inserted
    | some r =>
      have listed : r ∈ list := same.mem_iff.mpr (mem_of_foundRoute found)
      by_cases current :
          uipDs6RouteNexthop r { state with routelist := list } = some nexthop
      · simp only [current, if_true]
        exact ⟨moved, by simp⟩
      · simp only [current, if_false]
        obtain ⟨kept, fewer, index⟩ := moved.uipDs6RouteRm listed
        obtain ⟨result, refused⟩ :=
          kept.insertRoute victim ipaddr length ((index _).trans known)
        refine ⟨result, ?_⟩
        rw [refused, fewer]
        have counted := inv.counted
        have bound := inv.length_le
        dsimp only
        simp only [reduceCtorEq, false_and, or_false, iff_false, not_and]
        intro full
        omega

theorem init (conf : RouteConf) (maxNeighbors : Nat) :
    RouteInv conf [] (RouteState.init conf maxNeighbors) := by
  have empty : ∀ {α : Type} (num : Nat) (mem : Nat → α),
      (Memb.mk num (fun _ => 0) mem).Exactly [] := by
    intro α num mem
    exact ⟨⟨by simp, by simp⟩, List.nodup_nil⟩
  have unused : ∀ key, (RouteState.init conf maxNeighbors).nextHopRoutes key = [] := by
    intro key
    simp [nextHopRoutes, RouteState.init]
  refine ⟨⟨empty _ _, List.nodup_nil, ?_⟩, empty _ _, empty _ _, List.Perm.refl _, ?_, ?_, rfl, rfl,
    rfl⟩
  · intro key table used
    cases used
  · intro key block member
    rw [unused key] at member
    cases member
  · intro key used
    cases used

theorem apply (inv : RouteInv conf [] state) {step : RouteStep} (valid : step.Valid state) :
    RouteInv conf [] (step.apply conf state) := by
  cases step with
  | add ipaddr length nexthop victim =>
    exact (inv.uipDs6RouteAdd victim ipaddr length nexthop).1
  | lookup addr =>
    obtain ⟨list, same, looked⟩ := state.uipDs6RouteLookup_eq addr
    rw [RouteStep.apply, looked]
    exact inv.reorder same
  | rm route =>
    cases route with
    | none => exact inv
    | some r => exact (inv.uipDs6RouteRm (valid r rfl)).1
  | rmByNexthop nexthop =>
    rw [RouteStep.apply, uipDs6RouteRmByNexthop]
    cases hop : state.tables.getFromLladdr nbrRoutesTable
        (state.uipDs6NbrLladdrFromIpaddr nexthop) with
    | none => exact inv
    | some key =>
      have used : state.tables.usedMap key nbrRoutesTable = true := by
        rw [NbrTables.getFromLladdr, Option.filter_eq_some_iff] at hop
        exact hop.2
      exact (inv.rmRoutelist used).1
  | neighborAdd ipaddr lladdr victim =>
    rw [RouteStep.apply, uipDs6NbrAdd]
    cases added : state.keyOfLladdr lladdr victim with
    | mk result next =>
      obtain ⟨kept, inside⟩ := inv.keyOfLladdr valid added
      cases result with
      | none => exact kept
      | some index =>
        have different : NbrTableId.ds6Neighbors ≠ nbrRoutesTable := by decide
        have joined := kept.setUsed different true fun _ => inside index rfl
        exact ⟨joined.tables, joined.routes, joined.blocks, joined.targets, joined.owners,
          joined.nonempty, joined.routesNum, joined.blocksNum, joined.counted⟩
  | tableAdd table lladdr victim =>
    rw [RouteStep.apply]
    cases added : state.keyOfLladdr lladdr victim with
    | mk result next =>
      obtain ⟨kept, inside⟩ := inv.keyOfLladdr valid.2 added
      cases result with
      | none => exact kept
      | some index => exact kept.setUsed valid.1 true fun _ => inside index rfl
  | tableRemove table item =>
    have removed : RouteInv conf [] (state.onTables (NbrTables.setUsed false table item)) :=
      inv.setUsed valid false fun on => absurd on Bool.false_ne_true
    exact removed.setLocked table false item
  | tableLock table item locked => exact inv.setLocked table locked item

end RouteInv

structure Consistent (conf : RouteConf) (state : RouteState) : Prop where
  counted : state.numRoutes = state.routelist.length
  summed : state.numRoutes =
    ((state.nextHops.map fun hop => (state.routeList hop).length).sum : Nat)
  oneHop : ∀ r ∈ state.routelist, ∃ hop ∈ state.nextHops,
    (state.route r).neighborRoutes = some hop ∧
      ∀ other ∈ state.nextHops,
        ((state.routeList other).map state.neighborroutememb.mem).count (some r) =
          if other = hop then 1 else 0
  linksRoute : ∀ hop ∈ state.nextHops, ∀ block ∈ state.routeList hop,
    ∃ r ∈ state.routelist, state.neighborroutememb.mem block = some r
  nonempty : ∀ hop, state.tables.usedMap hop nbrRoutesTable = true →
    hop ∈ state.nextHops ∧ state.routeList hop ≠ []
  routes : state.routememb.Exactly state.routelist
  blocks : state.neighborroutememb.Exactly state.listedBlocks
  keys : state.tables.neighborAddrMem.Exactly state.tables.nbrTableKeys
  -- No block is ever missing: NULL means one of the two earlier returns.
  failures : ∀ ipaddr length nexthop victim,
    (state.uipDs6RouteAdd conf victim ipaddr length nexthop).1 = none ↔
      state.uipDs6NbrLookup nexthop = none ∨
        (state.foundRoute ipaddr = none ∧ state.numRoutes = conf.routeNb ∧
          (conf.removeLeastRecentlyUsed = false ∨ state.routelist = []))

namespace RouteInv

section

variable (inv : RouteInv conf [] state)
include inv

theorem mem_nextHops {hop : Nat} :
    hop ∈ state.nextHops ↔ state.tables.usedMap hop nbrRoutesTable = true := by
  rw [nextHops, NbrTables.items, List.mem_filter]
  exact ⟨And.right, fun used => ⟨inv.tables.used hop nbrRoutesTable used, used⟩⟩

theorem nextHopRoutes_eq {hop : Nat} (member : hop ∈ state.nextHops) :
    state.nextHopRoutes hop = state.routeList hop := by
  rw [nextHopRoutes, if_pos (inv.mem_nextHops.mp member)]

theorem count_target {r : Nat} (listed : r ∈ state.routelist) :
    ∃ hop ∈ state.nextHops, (state.route r).neighborRoutes = some hop ∧
      ∀ other ∈ state.nextHops,
        ((state.routeList other).map state.neighborroutememb.mem).count (some r) =
          if other = hop then 1 else 0 := by
  obtain ⟨hop, block, member, target⟩ := inv.exists_block listed
  have hopMember := inv.mem_nextHops.mpr (used_of_mem member).1
  have owner := inv.owners hop block member r target
  refine ⟨hop, hopMember, owner, ?_⟩
  have unique := inv.targets_nodup
  rw [listedBlocks, List.map_flatMap, List.nodup_flatMap] at unique
  intro other otherMember
  by_cases same : other = hop
  · rw [if_pos same, same]
    apply List.count_eq_one_of_mem (unique.1 hop hopMember)
    exact List.mem_map.mpr ⟨block, (used_of_mem member).2, target⟩
  · rw [if_neg same]
    apply List.count_eq_zero_of_not_mem
    intro inside
    obtain ⟨twin, twinMember, twinTarget⟩ := List.mem_map.mp inside
    rw [← inv.nextHopRoutes_eq otherMember] at twinMember
    have twinOwner := inv.owners other twin twinMember r twinTarget
    rw [owner] at twinOwner
    exact same (Option.some.inj twinOwner).symm

theorem consistent : Consistent conf state := by
  have lengths := inv.targets.length_eq
  rw [List.length_map, List.length_map, listedBlocks, List.length_flatMap] at lengths
  refine ⟨inv.counted, ?_, fun r listed => inv.count_target listed, ?_, ?_, inv.routes,
    inv.blocks, inv.tables.exactly, ?_⟩
  · rw [inv.counted, lengths]
  · intro hop hopMember block member
    rw [← inv.nextHopRoutes_eq hopMember] at member
    exact inv.exists_route member
  · intro hop used
    exact ⟨inv.mem_nextHops.mpr used, inv.nonempty hop used⟩
  · intro ipaddr length nexthop victim
    exact (inv.uipDs6RouteAdd victim ipaddr length nexthop).2

end

end RouteInv

theorem routeInv_of_run (conf : RouteConf) (maxNeighbors : Nat) {steps : List RouteStep}
    (valid : Run.Meets (RouteStep.apply conf) (fun state step => step.Valid state)
      (RouteState.init conf maxNeighbors) steps) :
    RouteInv conf [] (Run.final (RouteStep.apply conf) (RouteState.init conf maxNeighbors) steps) :=
  Run.invariant_of_meets (RouteInv conf []) (fun _ _ inv allowed => inv.apply allowed) steps _
    (RouteInv.init conf maxNeighbors) valid

theorem consistent_of_run (conf : RouteConf) (maxNeighbors : Nat) (steps : List RouteStep)
    (valid : Run.Meets (RouteStep.apply conf) (fun state step => step.Valid state)
      (RouteState.init conf maxNeighbors) steps) :
    Consistent conf
      (Run.final (RouteStep.apply conf) (RouteState.init conf maxNeighbors) steps) :=
  (routeInv_of_run conf maxNeighbors valid).consistent

def sampleAddr (first last : UInt8) : UipIpaddr :=
  ((Vector.replicate 16 0).setIfInBounds 0 first).setIfInBounds 15 last

def sampleLladdr (last : UInt8) : LinkAddr := linkaddrNull.setIfInBounds 7 last

/-- Two routes through one of two neighbors, a third one that drops the first, and a neighbor that
takes the place of their next hop. -/
def evictionRun : List RouteStep :=
  [.neighborAdd (sampleAddr 0xfe 1) (sampleLladdr 1) none, .neighborAdd (sampleAddr 0xfe 2) (sampleLladdr 2) none,
    .add (sampleAddr 0x20 7) 128 (sampleAddr 0xfe 1) none,
    .add (sampleAddr 0x20 8) 128 (sampleAddr 0xfe 1) none, .lookup (sampleAddr 0x20 7),
    .add (sampleAddr 0x20 9) 128 (sampleAddr 0xfe 2) none, .tableAdd .rplNeighbors (sampleLladdr 3) (some 0),
    .rm (some 1), .rmByNexthop (sampleAddr 0xfe 2)]

theorem consistent_of_run_eviction :
    Consistent ⟨2, true⟩
      (Run.final (RouteStep.apply ⟨2, true⟩) (RouteState.init ⟨2, true⟩ 2) evictionRun) := by
  refine consistent_of_run ⟨2, true⟩ 2 evictionRun ?_
  simp only [evictionRun, Run.Meets, RouteStep.Valid]
  decide

end MultiPhyTsch.Ds6
