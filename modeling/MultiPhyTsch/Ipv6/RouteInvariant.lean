import MultiPhyTsch.Ipv6.RouteTable
import MultiPhyTsch.Lib.Run
import MultiPhyTsch.Net.NbrKeys

/-! Every route stands on the list of routes and, through one block, on the list of the next hop
that it points back to, and the pools hold nothing else. -/

namespace MultiPhyTsch.Ds6

open Rpl Nbr

namespace RouteState

variable (state : RouteState)

def nextHopRoutes (key : Nat) : List Nat :=
  if state.tables.usedMap key nbrRoutesTable then state.routeList key else []

def nextHops : List Nat := state.tables.items nbrRoutesTable

def listedBlocks : List Nat := state.nextHops.flatMap state.routeList

theorem listedBlocks_eq :
    state.listedBlocks = state.tables.nbrTableKeys.flatMap state.nextHopRoutes := by
  rw [listedBlocks, nextHops, NbrTables.items]
  induction state.tables.nbrTableKeys with
  | nil => rfl
  | cons key rest ih =>
    by_cases used : state.tables.usedMap key nbrRoutesTable = true
    · simp [used, ih, nextHopRoutes]
    · simp [used, ih, nextHopRoutes]

theorem used_of_mem {state : RouteState} {key block : Nat}
    (member : block ∈ state.nextHopRoutes key) :
    state.tables.usedMap key nbrRoutesTable = true ∧ block ∈ state.routeList key := by
  rw [nextHopRoutes] at member
  split at member
  · rename_i used
    exact ⟨used, member⟩
  · exact absurd member List.not_mem_nil

def unlinked (key block r : Nat) (state : RouteState) : RouteState :=
  let list := listRemove (state.routeList key) block
  { state with
    routelist := listRemove state.routelist r
    routeList := Function.update state.routeList key list
    tables :=
      if list = [] then state.tables.nbrTableRemove nbrRoutesTable key else state.tables
    routememb := state.routememb.membFree r
    neighborroutememb := state.neighborroutememb.membFree block
    numRoutes := state.numRoutes - 1 }

/-- The state with the route `r` that `block` links to `key`, which is a next hop from now on. -/
def linked (key block r : Nat) (ipaddr : UipIpaddr) (length : UInt8) (state : RouteState) :
    RouteState :=
  { state with
    routelist := r :: state.routelist
    routeList := Function.update state.routeList key (state.nextHopRoutes key ++ [block])
    tables :=
      (state.tables.setUsed true nbrRoutesTable key).setLocked true nbrRoutesTable key
    routememb := state.routememb.membAlloc.2.write r fun _ => ⟨some key, ipaddr, length⟩
    neighborroutememb := state.neighborroutememb.membAlloc.2.write block fun _ => some r
    numRoutes := state.numRoutes + 1 }

section Unlinked

variable (state : RouteState) (key block r : Nat)

@[simp] theorem unlinked_nbrTableKeys :
    (state.unlinked key block r).tables.nbrTableKeys = state.tables.nbrTableKeys := by
  dsimp only [unlinked]
  split <;> rfl

@[simp] theorem unlinked_neighborAddrMem :
    (state.unlinked key block r).tables.neighborAddrMem = state.tables.neighborAddrMem := by
  dsimp only [unlinked]
  split <;> rfl

theorem unlinked_usedMap (other : Nat) (table : NbrTableId) :
    (state.unlinked key block r).tables.usedMap other table =
      if other = key ∧ table = nbrRoutesTable ∧ listRemove (state.routeList key) block = [] then
        false
      else state.tables.usedMap other table := by
  dsimp only [unlinked]
  by_cases empty : listRemove (state.routeList key) block = []
  · rw [if_pos empty]
    simp [NbrTables.nbrTableRemove_usedMap, empty]
  · simp [empty]

theorem nextHopRoutes_unlinked_self (used : state.tables.usedMap key nbrRoutesTable = true) :
    (state.unlinked key block r).nextHopRoutes key =
      listRemove (state.nextHopRoutes key) block := by
  rw [nextHopRoutes, nextHopRoutes, if_pos used, unlinked_usedMap]
  by_cases empty : listRemove (state.routeList key) block = []
  · simp [empty]
  · simp [empty, used, unlinked]

theorem nextHopRoutes_unlinked_other {other : Nat} (different : other ≠ key) :
    (state.unlinked key block r).nextHopRoutes other = state.nextHopRoutes other := by
  rw [nextHopRoutes, nextHopRoutes, unlinked_usedMap]
  simp [different, unlinked]

end Unlinked

section Linked

variable (state : RouteState) (key block r : Nat) (ipaddr : UipIpaddr) (length : UInt8)

theorem linked_usedMap (other : Nat) (table : NbrTableId) :
    (state.linked key block r ipaddr length).tables.usedMap other table =
      if other = key ∧ table = nbrRoutesTable then true else state.tables.usedMap other table := by
  by_cases here : other = key
  · by_cases same : table = nbrRoutesTable
    · simp [linked, NbrTables.setUsed, NbrTables.setLocked, here, same]
    · simp [linked, NbrTables.setUsed, NbrTables.setLocked, here, same]
  · simp [linked, NbrTables.setUsed, NbrTables.setLocked, here]

theorem nextHopRoutes_linked_self :
    (state.linked key block r ipaddr length).nextHopRoutes key =
      state.nextHopRoutes key ++ [block] := by
  rw [nextHopRoutes, linked_usedMap]
  simp [linked]

theorem nextHopRoutes_linked_other {other : Nat} (different : other ≠ key) :
    (state.linked key block r ipaddr length).nextHopRoutes other = state.nextHopRoutes other := by
  rw [nextHopRoutes, nextHopRoutes, linked_usedMap]
  simp [different, linked]

end Linked

end RouteState

open RouteState

/-- What holds between the calls, and within them while a key in `pending` has been allocated and
is not on the list of keys yet. -/
structure RouteInv (conf : RouteConf) (pending : List Nat) (state : RouteState) : Prop where
  tables : KeysSound pending state.tables
  routes : state.routememb.Exactly state.routelist
  blocks : state.neighborroutememb.Exactly state.listedBlocks
  targets : (state.listedBlocks.map state.neighborroutememb.mem).Perm (state.routelist.map some)
  owners : ∀ key, ∀ block ∈ state.nextHopRoutes key, ∀ r,
    state.neighborroutememb.mem block = some r → (state.route r).neighborRoutes = some key
  nonempty : ∀ key, state.tables.usedMap key nbrRoutesTable = true → state.routeList key ≠ []
  routesNum : state.routememb.num = conf.routeNb
  blocksNum : state.neighborroutememb.num = conf.routeNb
  counted : state.numRoutes = state.routelist.length

namespace RouteInv

variable {conf : RouteConf} {pending : List Nat} {state : RouteState}

section

variable (inv : RouteInv conf pending state)
include inv

theorem mem_listedBlocks {block : Nat} :
    block ∈ state.listedBlocks ↔ ∃ key, block ∈ state.nextHopRoutes key := by
  rw [listedBlocks_eq, List.mem_flatMap]
  constructor
  · rintro ⟨key, -, member⟩
    exact ⟨key, member⟩
  · rintro ⟨key, member⟩
    exact ⟨key, inv.tables.used key nbrRoutesTable (used_of_mem member).1, member⟩

theorem exists_route {key block : Nat} (member : block ∈ state.nextHopRoutes key) :
    ∃ r ∈ state.routelist, state.neighborroutememb.mem block = some r := by
  have listed := inv.mem_listedBlocks.mpr ⟨key, member⟩
  have target := inv.targets.mem_iff.mp (List.mem_map_of_mem listed)
  obtain ⟨r, inside, same⟩ := List.mem_map.mp target
  exact ⟨r, inside, same.symm⟩

theorem exists_block {r : Nat} (member : r ∈ state.routelist) :
    ∃ key, ∃ block ∈ state.nextHopRoutes key, state.neighborroutememb.mem block = some r := by
  have target := inv.targets.mem_iff.mpr (List.mem_map_of_mem member)
  obtain ⟨block, listed, same⟩ := List.mem_map.mp target
  obtain ⟨key, inside⟩ := inv.mem_listedBlocks.mp listed
  exact ⟨key, block, inside, same⟩

theorem targets_nodup : (state.listedBlocks.map state.neighborroutememb.mem).Nodup :=
  inv.targets.nodup_iff.mpr (inv.routes.nodup.map (Option.some_injective Nat))

theorem block_unique {key other block twin r : Nat}
    (member : block ∈ state.nextHopRoutes key) (target : state.neighborroutememb.mem block = some r)
    (twinMember : twin ∈ state.nextHopRoutes other)
    (twinTarget : state.neighborroutememb.mem twin = some r) : twin = block := by
  apply List.inj_on_of_nodup_map inv.targets_nodup
  · exact inv.mem_listedBlocks.mpr ⟨other, twinMember⟩
  · exact inv.mem_listedBlocks.mpr ⟨key, member⟩
  · rw [twinTarget, target]

section

variable {key block r : Nat} (member : block ∈ state.nextHopRoutes key)
  (target : state.neighborroutememb.mem block = some r)
include member target

theorem uipDs6RouteRm_eq : state.uipDs6RouteRm (some r) = state.unlinked key block r := by
  have inside := (used_of_mem member).2
  have found : (state.routeList key).find?
      (fun other => state.neighborroutememb.mem other = some r) = some block := by
    cases search : (state.routeList key).find?
        (fun other => state.neighborroutememb.mem other = some r) with
    | none =>
      have absent := List.find?_eq_none.mp search block inside
      simp [target] at absent
    | some twin =>
      have twinMember : twin ∈ state.nextHopRoutes key := by
        rw [nextHopRoutes, if_pos (used_of_mem member).1]
        exact List.mem_of_find?_eq_some search
      have twinTarget : state.neighborroutememb.mem twin = some r := by
        simpa using List.find?_some search
      rw [inv.block_unique member target twinMember twinTarget]
  simp only [uipDs6RouteRm, inv.owners key block member r target, found, Option.elim_some]
  rfl

theorem unlink (listed : r ∈ state.routelist) :
    RouteInv conf pending (state.unlinked key block r) := by
  have used := (used_of_mem member).1
  have inside : key ∈ state.tables.nbrTableKeys := inv.tables.used key nbrRoutesTable used
  have routesSplit : state.routelist.Perm (r :: (state.unlinked key block r).routelist) :=
    List.perm_cons_erase listed
  have blocksSplit :
      state.listedBlocks.Perm (block :: (state.unlinked key block r).listedBlocks) := by
    rw [listedBlocks_eq, listedBlocks_eq, unlinked_nbrTableKeys]
    apply flatMap_perm_cons inv.tables.nodup inside
    · intro other different
      exact state.nextHopRoutes_unlinked_other key block r different
    · rw [nextHopRoutes_unlinked_self _ _ _ _ used]
      exact List.perm_cons_erase member
  refine ⟨?_, ?_, ?_, ?_, ?_, ?_, ?_, ?_, ?_⟩
  · dsimp only [unlinked]
    split
    · exact inv.tables.nbrTableRemove nbrRoutesTable key
    · exact inv.tables
  · exact inv.routes.free routesSplit
  · exact inv.blocks.free blocksSplit
  · have whole : (some r :: (state.unlinked key block r).listedBlocks.map
        state.neighborroutememb.mem).Perm
          (some r :: (state.unlinked key block r).routelist.map some) := by
      have mapped := blocksSplit.map state.neighborroutememb.mem
      rw [List.map_cons, target] at mapped
      exact mapped.symm.trans (inv.targets.trans (routesSplit.map some))
    have memory : (state.unlinked key block r).neighborroutememb.mem =
        state.neighborroutememb.mem := Memb.membFree_mem _ _
    rw [memory]
    exact whole.cons_inv
  · intro other otherBlock otherMember otherRoute otherTarget
    have memory : (state.unlinked key block r).neighborroutememb.mem =
        state.neighborroutememb.mem := Memb.membFree_mem _ _
    have routeMemory : (state.unlinked key block r).route otherRoute = state.route otherRoute :=
      congrFun (Memb.membFree_mem _ _) otherRoute
    rw [memory] at otherTarget
    rw [routeMemory]
    refine inv.owners other otherBlock ?_ otherRoute otherTarget
    by_cases same : other = key
    · subst same
      rw [nextHopRoutes_unlinked_self _ _ _ _ used] at otherMember
      exact List.mem_of_mem_erase otherMember
    · rwa [nextHopRoutes_unlinked_other _ _ _ _ same] at otherMember
  · intro other otherUsed empty
    rw [unlinked_usedMap] at otherUsed
    by_cases same : other = key
    · subst same
      have gone : listRemove (state.routeList other) block = [] := by
        simpa [unlinked] using empty
      simp [gone] at otherUsed
    · have old : state.routeList other = [] := by simpa [unlinked, same] using empty
      simp only [same, false_and, if_false] at otherUsed
      exact inv.nonempty other otherUsed old
  · simpa [unlinked] using inv.routesNum
  · simpa [unlinked] using inv.blocksNum
  · have shorter := routesSplit.length_eq
    rw [List.length_cons] at shorter
    have counted := inv.counted
    dsimp only [unlinked] at shorter ⊢
    omega

end

theorem link {key block r : Nat} (ipaddr : UipIpaddr)
    (length : UInt8) (inside : key ∈ state.tables.nbrTableKeys)
    (routeFound : state.routememb.membAlloc.1 = some r)
    (blockFound : state.neighborroutememb.membAlloc.1 = some block) :
    RouteInv conf pending (state.linked key block r ipaddr length) := by
  have freshRoute := (Memb.membAlloc_some inv.routes.inUse routeFound).1
  have freshBlock := (Memb.membAlloc_some inv.blocks.inUse blockFound).1
  have blocksSplit :
      (state.linked key block r ipaddr length).listedBlocks.Perm (block :: state.listedBlocks) := by
    rw [listedBlocks_eq, listedBlocks_eq]
    apply flatMap_perm_cons inv.tables.nodup inside
    · intro other different
      exact (state.nextHopRoutes_linked_other key block r ipaddr length different).symm
    · rw [nextHopRoutes_linked_self]
      exact List.perm_append_singleton _ _
  have newBlock : (state.linked key block r ipaddr length).neighborroutememb.mem block =
      some r := by simp [linked]
  have oldBlock : ∀ other ∈ state.listedBlocks,
      (state.linked key block r ipaddr length).neighborroutememb.mem other =
        state.neighborroutememb.mem other := by
    intro other listed
    have different : other ≠ block := fun same => freshBlock (same ▸ listed)
    simp [linked, Memb.write_other _ _ different]
  have newRoute : (state.linked key block r ipaddr length).route r = ⟨some key, ipaddr, length⟩ := by
    simp [linked, route]
  have oldRoute : ∀ other ∈ state.routelist,
      (state.linked key block r ipaddr length).route other = state.route other := by
    intro other listed
    have different : other ≠ r := fun same => freshRoute (same ▸ listed)
    simp [linked, route, Memb.write_other _ _ different]
  have oldOwner : ∀ other, ∀ otherBlock ∈ state.nextHopRoutes other, ∀ otherRoute,
      (state.linked key block r ipaddr length).neighborroutememb.mem otherBlock =
        some otherRoute →
      ((state.linked key block r ipaddr length).route otherRoute).neighborRoutes = some other := by
    intro other otherBlock member otherRoute target
    rw [oldBlock otherBlock (inv.mem_listedBlocks.mpr ⟨other, member⟩)] at target
    obtain ⟨listedRoute, listed, same⟩ := inv.exists_route member
    obtain rfl : listedRoute = otherRoute := Option.some.inj (same.symm.trans target)
    rw [oldRoute listedRoute listed]
    exact inv.owners other otherBlock member listedRoute target
  refine ⟨(inv.tables.setUsed true nbrRoutesTable fun _ => inside).setLocked true nbrRoutesTable key,
    ?_, ?_, ?_, ?_, ?_, ?_, ?_, ?_⟩
  · exact (inv.routes.alloc routeFound).write r fun _ => ⟨some key, ipaddr, length⟩
  · exact ((inv.blocks.alloc blockFound).perm blocksSplit).write block fun _ => some r
  · refine (blocksSplit.map _).trans ?_
    rw [List.map_cons, newBlock, List.map_congr_left oldBlock]
    exact inv.targets.cons (some r)
  · intro other otherBlock member otherRoute target
    by_cases same : other = key
    · subst same
      rw [nextHopRoutes_linked_self, List.mem_append, List.mem_singleton] at member
      rcases member with old | new
      · exact oldOwner other otherBlock old otherRoute target
      · rw [new, newBlock] at target
        rw [← Option.some.inj target, newRoute]
    · rw [nextHopRoutes_linked_other _ _ _ _ _ _ same] at member
      exact oldOwner other otherBlock member otherRoute target
  · intro other used
    by_cases same : other = key
    · simp [linked, same]
    · rw [linked_usedMap, if_neg fun here => same here.1] at used
      simpa [linked, same] using inv.nonempty other used
  · simpa [linked] using inv.routesNum
  · simpa [linked] using inv.blocksNum
  · simp [linked, inv.counted]

theorem retable {allocated : List Nat} {tables : NbrTables} (sound : KeysSound allocated tables)
    (same : ∀ key, tables.usedMap key nbrRoutesTable = state.tables.usedMap key nbrRoutesTable) :
    RouteInv conf allocated { state with tables := tables } := by
  have hops : ({ state with tables := tables } : RouteState).nextHops.Perm state.nextHops := by
    rw [nextHops, nextHops, NbrTables.items, NbrTables.items,
      List.perm_ext_iff_of_nodup (sound.nodup.filter _) (inv.tables.nodup.filter _)]
    intro key
    simp only [List.mem_filter, same key]
    constructor
    · rintro ⟨-, hop⟩
      exact ⟨inv.tables.used key nbrRoutesTable hop, hop⟩
    · rintro ⟨-, hop⟩
      exact ⟨sound.used key nbrRoutesTable ((same key).trans hop), hop⟩
  have blocks := hops.flatMap_right state.routeList
  refine ⟨sound, inv.routes, inv.blocks.perm blocks, (blocks.map _).trans inv.targets, ?_, ?_,
    inv.routesNum, inv.blocksNum, inv.counted⟩
  · intro key block member
    apply inv.owners key block
    rw [nextHopRoutes] at member ⊢
    rwa [same key] at member
  · intro key hop
    exact inv.nonempty key ((same key).symm.trans hop)

end

theorem rmRoutesFrom (key : Nat) : ∀ fuel (state : RouteState), RouteInv conf pending state →
    state.routeList key = state.nextHopRoutes key → (state.routeList key).length ≤ fuel →
      RouteInv conf pending (state.rmRoutesFrom fuel key) ∧
        (state.rmRoutesFrom fuel key).tables.usedMap key nbrRoutesTable = false ∧
        (state.rmRoutesFrom fuel key).tables.nbrTableKeys = state.tables.nbrTableKeys ∧
        (state.rmRoutesFrom fuel key).tables.neighborAddrMem = state.tables.neighborAddrMem := by
  have unused : ∀ state : RouteState, RouteInv conf pending state → state.routeList key = [] →
      state.tables.usedMap key nbrRoutesTable = false := by
    intro state inv empty
    rw [← Bool.not_eq_true]
    intro used
    exact inv.nonempty key used empty
  intro fuel
  induction fuel with
  | zero =>
    intro state inv _ bound
    have empty : state.routeList key = [] := List.length_eq_zero_iff.mp (by omega)
    exact ⟨inv, unused state inv empty, rfl, rfl⟩
  | succ fuel ih =>
    intro state inv whole bound
    cases blocks : state.routeList key with
    | nil =>
      have stopped : state.rmRoutesFrom (fuel + 1) key = state := by
        simp [RouteState.rmRoutesFrom, blocks]
      rw [stopped]
      exact ⟨inv, unused state inv blocks, rfl, rfl⟩
    | cons block rest =>
      have member : block ∈ state.nextHopRoutes key := by
        rw [← whole, blocks]
        exact List.mem_cons_self
      obtain ⟨r, listed, target⟩ := inv.exists_route member
      have shorter : (state.unlinked key block r).routeList key = rest := by
        simp [unlinked, blocks, listRemove]
      simp only [RouteState.rmRoutesFrom, blocks, List.head?_cons, target]
      rw [inv.uipDs6RouteRm_eq member target]
      rw [blocks, List.length_cons] at bound
      obtain ⟨kept, gone, keys, addresses⟩ := ih (state.unlinked key block r)
        (inv.unlink member target listed) (by
          rw [nextHopRoutes_unlinked_self _ _ _ _ (used_of_mem member).1, ← whole, blocks,
            shorter]
          simp [listRemove]) (by rw [shorter]; omega)
      rw [unlinked_nbrTableKeys] at keys
      rw [unlinked_neighborAddrMem] at addresses
      exact ⟨kept, gone, keys, addresses⟩

theorem rmRoutelist (inv : RouteInv conf pending state) {key : Nat}
    (used : state.tables.usedMap key nbrRoutesTable = true) :
    RouteInv conf pending (state.rmRoutelist (some key)) ∧
      (state.rmRoutelist (some key)).tables.usedMap key nbrRoutesTable = false ∧
      (state.rmRoutelist (some key)).tables.nbrTableKeys = state.tables.nbrTableKeys ∧
      (state.rmRoutelist (some key)).tables.neighborAddrMem = state.tables.neighborAddrMem := by
  obtain ⟨kept, gone, keys, addresses⟩ :=
    @rmRoutesFrom conf pending key (state.routeList key).length state inv
      (by rw [nextHopRoutes, if_pos used]) (Nat.le_refl _)
  have cleared : ∀ other, (NbrTables.nbrTableRemove nbrRoutesTable key
      (state.rmRoutesFrom (state.routeList key).length key).tables).usedMap other nbrRoutesTable =
        (state.rmRoutesFrom (state.routeList key).length key).tables.usedMap other
          nbrRoutesTable := by
    intro other
    rw [NbrTables.nbrTableRemove_usedMap]
    by_cases here : other = key <;> simp [here, gone]
  exact ⟨kept.retable (kept.tables.nbrTableRemove nbrRoutesTable key) cleared,
    (cleared key).trans gone, keys, addresses⟩

theorem removeKey (inv : RouteInv conf [] state) {key : Nat}
    (inside : key ∈ state.tables.nbrTableKeys) :
    RouteInv conf [key] (state.removeKey key) ∧
      (state.removeKey key).tables.nbrTableKeys = state.tables.nbrTableKeys.erase key ∧
      (state.removeKey key).tables.neighborAddrMem = state.tables.neighborAddrMem := by
  have callback : ∃ next : RouteState,
      (if state.tables.usedMap key nbrRoutesTable then state.rmRoutelist (some key) else state) =
        next ∧ RouteInv conf [] next ∧ next.tables.usedMap key nbrRoutesTable = false ∧
        next.tables.nbrTableKeys = state.tables.nbrTableKeys ∧
        next.tables.neighborAddrMem = state.tables.neighborAddrMem := by
    by_cases used : state.tables.usedMap key nbrRoutesTable = true
    · exact ⟨_, if_pos used, inv.rmRoutelist used⟩
    · exact ⟨state, if_neg used, inv, Bool.not_eq_true _ ▸ used, rfl, rfl⟩
  obtain ⟨next, called, kept, gone, keys, addresses⟩ := callback
  dsimp only [RouteState.removeKey]
  rw [called]
  refine ⟨?_, congrArg (List.erase · key) keys, addresses⟩
  have member : key ∈ next.tables.nbrTableKeys := keys ▸ inside
  apply kept.retable (kept.tables.evict member)
  intro other
  by_cases same : other = key
  · simp [same, gone]
  · simp [same]

variable {victim : Option Nat} {next : RouteState}

theorem nbrTableAllocate (inv : RouteInv conf [] state)
    (evictable : ∀ key ∈ victim, key ∈ state.tables.nbrTableKeys) {key : Nat}
    (found : state.nbrTableAllocate victim = (some key, next)) : RouteInv conf [key] next ∧
      (∀ other ∈ next.tables.nbrTableKeys, other ∈ state.tables.nbrTableKeys) ∧
      next.tables.neighborAddrMem.mem = state.tables.neighborAddrMem.mem := by
  unfold RouteState.nbrTableAllocate at found
  split at found
  · rename_i first pool allocated
    obtain ⟨same, rfl⟩ := Prod.mk.inj found
    obtain rfl : first = key := Option.some.inj same
    obtain ⟨sound, memory⟩ := inv.tables.alloc allocated
    exact ⟨inv.retable sound fun _ => rfl, fun other member => member, memory⟩
  · obtain ⟨rfl, rfl⟩ := Prod.mk.inj found
    obtain ⟨kept, keys, addresses⟩ := inv.removeKey (evictable key rfl)
    refine ⟨kept, ?_, congrArg Memb.mem addresses⟩
    intro other member
    dsimp only [Option.elim_some] at member
    rw [keys] at member
    exact List.mem_of_mem_erase member

theorem nbrTableAllocate_none
    (failed : state.nbrTableAllocate victim = (none, next)) : next = state := by
  unfold RouteState.nbrTableAllocate at failed
  split at failed
  · cases (Prod.mk.inj failed).1
  · obtain ⟨rfl, rfl⟩ := Prod.mk.inj failed
    rfl

theorem keyOfLladdr (inv : RouteInv conf [] state)
    (evictable : ∀ key ∈ victim, key ∈ state.tables.nbrTableKeys) {lladdr : LinkAddr}
    {result : Option Nat} (found : state.keyOfLladdr lladdr victim = (result, next)) :
    RouteInv conf [] next ∧ ∀ index, result = some index → index ∈ next.tables.nbrTableKeys := by
  unfold RouteState.keyOfLladdr at found
  split at found
  · rename_i known search
    obtain ⟨rfl, rfl⟩ := Prod.mk.inj found
    refine ⟨inv, ?_⟩
    intro index same
    rw [← Option.some.inj same]
    exact List.mem_of_find?_eq_some search
  · rename_i unknown
    split at found
    · rename_i key evicted allocated
      obtain ⟨rfl, rfl⟩ := Prod.mk.inj found
      obtain ⟨kept, older, memory⟩ := inv.nbrTableAllocate evictable allocated
      have newAddress : lladdr ∉
          evicted.tables.nbrTableKeys.map evicted.tables.neighborAddrMem.mem := by
        intro member
        obtain ⟨other, listed, same⟩ := List.mem_map.mp member
        rw [memory] at same
        have absent := List.find?_eq_none.mp unknown other (older other listed)
        simp [same] at absent
      constructor
      · exact kept.retable (kept.tables.append newAddress) fun _ => rfl
      · intro index same
        rw [← Option.some.inj same]
        exact List.mem_append_right _ (List.mem_singleton_self key)
    · rename_i evicted failed
      obtain ⟨rfl, rfl⟩ := Prod.mk.inj found
      rw [nbrTableAllocate_none failed]
      refine ⟨inv, ?_⟩
      intro index same
      cases same

theorem setUsed (inv : RouteInv conf pending state) {table : NbrTableId}
    (different : table ≠ nbrRoutesTable) (value : Bool) {item : Nat}
    (inside : value = true → item ∈ state.tables.nbrTableKeys) :
    RouteInv conf pending (state.onTables (NbrTables.setUsed value table item)) := by
  apply inv.retable (inv.tables.setUsed value table inside)
  intro other
  by_cases here : other = item
  · simp [NbrTables.setUsed, here, Function.update_of_ne (Ne.symm different)]
  · simp [NbrTables.setUsed, here]

theorem setLocked (inv : RouteInv conf pending state) (table : NbrTableId) (value : Bool)
    (item : Nat) : RouteInv conf pending (state.onTables (NbrTables.setLocked value table item)) :=
  inv.retable (inv.tables.setLocked value table item) fun _ => rfl

end RouteInv

end MultiPhyTsch.Ds6
