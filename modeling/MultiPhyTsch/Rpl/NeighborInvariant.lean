import MultiPhyTsch.Rpl.Dag

/-! The neighbor tables stay well formed, and adding a neighbor never takes the preferred parent
out of them. -/

namespace MultiPhyTsch.Rpl

variable (conf : RplConf)

/-- What holds of the tables at all times, but for the count of the keys: every address has one
key, what is no key is used by no table, and RPL keeps no neighbor that IPv6 does not know. -/
structure TableWf (tables : NbrTables) : Prop where
  nodup : tables.nbrTableKeys.Nodup
  addresses : ∀ key ∈ tables.nbrTableKeys, ∀ other ∈ tables.nbrTableKeys,
    tables.neighborAddrMem.mem key = tables.neighborAddrMem.mem other → key = other
  unused : ∀ key, key ∉ tables.nbrTableKeys → ∀ table, tables.usedMap key table = false
  known : ∀ key, tables.usedMap key .rplNeighbors = true → tables.usedMap key .ds6Neighbors = true

namespace TableWf

variable {tables : NbrTables}

theorem indexFromLladdr_some {lladdr : Option LinkAddr} {index : Nat}
    (found : tables.indexFromLladdr lladdr = some index) :
    index ∈ tables.nbrTableKeys ∧
      tables.neighborAddrMem.mem index = lladdr.getD linkaddrNull := by
  have member := List.mem_of_find?_eq_some found
  have same := List.find?_some found
  exact ⟨member, of_decide_eq_true same⟩

theorem indexFromLladdr_key (wf : TableWf tables) {key : Nat} (member : key ∈ tables.nbrTableKeys) :
    tables.indexFromLladdr (some (tables.neighborAddrMem.mem key)) = some key := by
  cases found : tables.indexFromLladdr (some (tables.neighborAddrMem.mem key)) with
  | none =>
    have absent := List.find?_eq_none.mp found key member
    simp at absent
  | some index =>
    obtain ⟨indexMember, same⟩ := indexFromLladdr_some found
    rw [wf.addresses index indexMember key member same]

variable {table : NbrTableId}

section

variable (wf : TableWf tables)
include wf

theorem mem_keys {key : Nat}
    (used : tables.usedMap key table = true) : key ∈ tables.nbrTableKeys := by
  by_contra absent
  rw [wf.unused key absent table] at used
  contradiction

theorem mem_items_iff {key : Nat} :
    key ∈ tables.items table ↔ tables.usedMap key table = true := by
  rw [NbrTables.items, List.mem_filter]
  constructor
  · exact And.right
  · intro used
    exact ⟨wf.mem_keys used, used⟩

theorem getFromLladdr_key {key : Nat} (used : tables.usedMap key table = true) :
    tables.getFromLladdr table (some (tables.neighborAddrMem.mem key)) = some key := by
  rw [NbrTables.getFromLladdr, wf.indexFromLladdr_key (wf.mem_keys used)]
  simp [used]

theorem setLocked (value : Bool) (table : NbrTableId) (item : Nat) :
    TableWf (tables.setLocked value table item) :=
  ⟨wf.nodup, wf.addresses, wf.unused, wf.known⟩

theorem setUsed {item : Nat} (member : item ∈ tables.nbrTableKeys)
    (known : table = .rplNeighbors → tables.usedMap item .ds6Neighbors = true) :
    TableWf (tables.setUsed true table item) := by
  refine ⟨wf.nodup, wf.addresses, ?_, ?_⟩
  · intro key absent other
    have different : key ≠ item := fun same => absent (same ▸ member)
    simpa [NbrTables.setUsed, different] using wf.unused key absent other
  · intro key used
    by_cases same : key = item
    · subst same
      by_cases rpl : table = .rplNeighbors
      · subst rpl
        simpa [NbrTables.setUsed] using known rfl
      · simp only [NbrTables.setUsed, Function.update_self,
          Function.update_of_ne (Ne.symm rpl)] at used ⊢
        by_cases ds6 : table = .ds6Neighbors
        · subst ds6
          simp
        · rw [Function.update_of_ne (Ne.symm ds6)]
          exact wf.known key used
    · simp only [NbrTables.setUsed, Function.update_of_ne same] at used ⊢
      exact wf.known key used

theorem clearUsed {item : Nat}
    (known : table = .ds6Neighbors → tables.usedMap item .rplNeighbors = false) :
    TableWf (tables.setUsed false table item) := by
  refine ⟨wf.nodup, wf.addresses, ?_, ?_⟩
  · intro key absent other
    by_cases same : key = item
    · subst same
      by_cases here : other = table
      · simp [NbrTables.setUsed, here]
      · simpa [NbrTables.setUsed, here] using wf.unused key absent other
    · simpa [NbrTables.setUsed, same] using wf.unused key absent other
  · intro key used
    by_cases same : key = item
    · subst same
      by_cases rpl : table = .rplNeighbors
      · subst rpl
        simp [NbrTables.setUsed] at used
      · simp only [NbrTables.setUsed, Function.update_self,
          Function.update_of_ne (Ne.symm rpl)] at used ⊢
        by_cases ds6 : table = .ds6Neighbors
        · rw [known ds6] at used
          contradiction
        · rw [Function.update_of_ne (Ne.symm ds6)]
          exact wf.known key used
    · simp only [NbrTables.setUsed, Function.update_of_ne same] at used ⊢
      exact wf.known key used

end

end TableWf

structure ParentConsistent (node : RplNode) : Prop where
  present : ∀ parent, node.currInstance.dag.preferredParent = some parent →
    parent ∈ node.tables.items .rplNeighbors ∧ node.tables.lockedMap parent .rplNeighbors = true
  onlyLock : ∀ nbr, node.tables.lockedMap nbr .rplNeighbors = true →
    node.currInstance.dag.preferredParent = some nbr
  routers : node.defaultrouterlist.map some =
    node.currInstance.dag.preferredParent.toList.map fun parent =>
      node.rplNeighborGetIpaddr (some parent)

/-- What every step keeps. Between the allocation of a key and its insertion the keys are not all
the blocks in use, so these are counted apart. -/
structure ParentInvariant (node : RplNode) : Prop where
  wf : TableWf node.tables
  used : ∀ parent, node.currInstance.dag.preferredParent = some parent →
    node.tables.usedMap parent .rplNeighbors = true
  locked : ∀ nbr, node.tables.lockedMap nbr .rplNeighbors = true ↔
    node.currInstance.dag.preferredParent = some nbr
  routers : node.defaultrouterlist =
    node.currInstance.dag.preferredParent.toList.map fun parent => (node.ds6Nbr parent).ipaddr
  live : ∀ parent, node.currInstance.dag.preferredParent = some parent →
    node.currInstance.used = true ∧ node.isRoot = false

variable {node : RplNode}

theorem rplNeighborGetIpaddr_cached (wf : TableWf node.tables) {nbr : Nat}
    (used : node.tables.usedMap nbr .ds6Neighbors = true) :
    node.rplNeighborGetIpaddr (some nbr) = some (node.ds6Nbr nbr).ipaddr := by
  have found := wf.getFromLladdr_key used
  simp only [RplNode.rplNeighborGetIpaddr, RplNode.rplNeighborGetLladdr, NbrTables.getLladdr,
    Option.map_some, RplNode.uipDs6NbrIpaddrFromLladdr, found]

theorem ParentInvariant.consistent (inv : ParentInvariant node) : ParentConsistent node := by
  refine ⟨?_, fun nbr => (inv.locked nbr).mp, ?_⟩
  · intro parent chosen
    exact ⟨inv.wf.mem_items_iff.mpr (inv.used parent chosen), (inv.locked parent).mpr chosen⟩
  · rw [inv.routers, List.map_map]
    apply List.map_congr_left
    intro parent member
    have chosen : node.currInstance.dag.preferredParent = some parent := Option.mem_toList.mp member
    exact (rplNeighborGetIpaddr_cached inv.wf (inv.wf.known parent (inv.used parent chosen))).symm

structure KeepsParent (node next : RplNode) : Prop where
  parent : next.currInstance.dag.preferredParent = node.currInstance.dag.preferredParent
  routers : next.defaultrouterlist = node.defaultrouterlist
  locks : ∀ nbr, next.tables.lockedMap nbr .rplNeighbors = node.tables.lockedMap nbr .rplNeighbors
  item : ∀ parent, node.currInstance.dag.preferredParent = some parent →
    next.tables.usedMap parent .rplNeighbors = node.tables.usedMap parent .rplNeighbors ∧
      (next.ds6Nbr parent).ipaddr = (node.ds6Nbr parent).ipaddr
  live : ∀ parent, node.currInstance.dag.preferredParent = some parent →
    next.currInstance.used = node.currInstance.used ∧ next.isRoot = node.isRoot

theorem ParentInvariant.keep {node next : RplNode} (inv : ParentInvariant node)
    (keeps : KeepsParent node next) (wf : TableWf next.tables) : ParentInvariant next := by
  refine ⟨wf, ?_, ?_, ?_, ?_⟩
  · intro parent chosen
    rw [keeps.parent] at chosen
    rw [(keeps.item parent chosen).1]
    exact inv.used parent chosen
  · intro nbr
    rw [keeps.locks, keeps.parent]
    exact inv.locked nbr
  · rw [keeps.routers, inv.routers, keeps.parent]
    apply List.map_congr_left
    intro parent member
    exact (keeps.item parent (Option.mem_toList.mp member)).2.symm
  · intro parent chosen
    rw [keeps.parent] at chosen
    rw [(keeps.live parent chosen).1, (keeps.live parent chosen).2]
    exact inv.live parent chosen

theorem KeepsParent.refl (node : RplNode) : KeepsParent node node :=
  ⟨rfl, rfl, fun _ => rfl, fun _ _ => ⟨rfl, rfl⟩, fun _ _ => ⟨rfl, rfl⟩⟩

theorem KeepsParent.trans {node between next : RplNode} (first : KeepsParent node between)
    (second : KeepsParent between next) : KeepsParent node next := by
  refine ⟨second.parent.trans first.parent, second.routers.trans first.routers,
    fun nbr => (second.locks nbr).trans (first.locks nbr), ?_, ?_⟩
  · intro parent chosen
    have later := second.item parent (first.parent.trans chosen)
    have before := first.item parent chosen
    exact ⟨later.1.trans before.1, later.2.trans before.2⟩
  · intro parent chosen
    have later := second.live parent (first.parent.trans chosen)
    have before := first.live parent chosen
    exact ⟨later.1.trans before.1, later.2.trans before.2⟩

theorem removeKey_tables (key : Nat) (node : RplNode) :
    (node.removeKey key).tables.nbrTableKeys = node.tables.nbrTableKeys.erase key ∧
      (node.removeKey key).tables.neighborAddrMem = node.tables.neighborAddrMem ∧
      (node.removeKey key).tables.usedMap =
        Function.update node.tables.usedMap key (fun _ => false) := by
  unfold RplNode.removeKey
  refine ⟨?_, ?_, ?_⟩ <;> dsimp only <;> split <;> split <;>
    simp [RplNode.onTables, RplNode.removeNeighbor, RplNode.onDag, NbrTables.nbrTableRemove,
      NbrTables.setUsed, NbrTables.setLocked]

theorem removeKey_wf (wf : TableWf node.tables) (key : Nat) :
    TableWf (node.removeKey key).tables := by
  obtain ⟨keys, addresses, usedMap⟩ := removeKey_tables key node
  refine ⟨?_, ?_, ?_, ?_⟩
  · rw [keys]
    exact wf.nodup.erase key
  · rw [keys, addresses]
    intro first firstMember second secondMember same
    exact wf.addresses first (List.mem_of_mem_erase firstMember) second
      (List.mem_of_mem_erase secondMember) same
  · rw [keys, usedMap]
    intro other absent table
    by_cases same : other = key
    · simp [same]
    · rw [Function.update_of_ne same]
      exact wf.unused other (fun member => absent ((List.mem_erase_of_ne same).mpr member)) table
  · rw [usedMap]
    intro other used
    by_cases same : other = key
    · simp [same] at used
    · rw [Function.update_of_ne same] at used ⊢
      exact wf.known other used

variable {key : Nat}

theorem removeKey_keeps (inv : ParentInvariant node)
    (other : node.currInstance.dag.preferredParent ≠ some key) :
    KeepsParent node (node.removeKey key) := by
  have unlocked : node.tables.lockedMap key .rplNeighbors = false := by
    rw [← Bool.not_eq_true]
    exact fun locked => other ((inv.locked key).mp locked)
  have locks : ∀ nbr, (node.removeKey key).tables.lockedMap nbr .rplNeighbors =
      node.tables.lockedMap nbr .rplNeighbors := by
    intro nbr
    unfold RplNode.removeKey
    dsimp only
    by_cases same : nbr = key <;> split <;> split <;>
      simp [RplNode.onTables, RplNode.removeNeighbor, RplNode.onDag,
        NbrTables.nbrTableRemove_lockedMap, same, unlocked]
  have frame : (node.removeKey key).currInstance.dag.preferredParent =
        node.currInstance.dag.preferredParent ∧
      (node.removeKey key).defaultrouterlist = node.defaultrouterlist ∧
      (node.removeKey key).ds6Nbr = node.ds6Nbr ∧
      (node.removeKey key).currInstance.used = node.currInstance.used ∧
      (node.removeKey key).isRoot = node.isRoot := by
    unfold RplNode.removeKey
    dsimp only
    split <;> split <;> exact ⟨rfl, rfl, rfl, rfl, rfl⟩
  obtain ⟨parent, routers, ds6Nbr, used, isRoot⟩ := frame
  refine ⟨parent, routers, locks, ?_, fun _ _ => ⟨used, isRoot⟩⟩
  intro chosen isParent
  have different : chosen ≠ key := fun same => other (same ▸ isParent)
  rw [(removeKey_tables key node).2.2, ds6Nbr, Function.update_of_ne different]
  exact ⟨rfl, rfl⟩

theorem foldl_worst_mem {rank : Nat → RplRank} {eligible : Nat → Prop} [DecidablePred eligible]
    (items : List Nat) (worst : Option Nat × RplRank) (item : Nat) :
    (items.foldl (fun worst item =>
      if eligible item ∧ rank item > worst.2 then (some item, rank item) else worst) worst).1 =
        some item → worst.1 = some item ∨ item ∈ items ∧ eligible item := by
  refine List.foldlRecOn (motive := fun now : Option Nat × RplRank =>
    now.1 = some item → worst.1 = some item ∨ item ∈ items ∧ eligible item) _ _ Or.inl ?_
  intro now before next member found
  split at found
  · rename_i taken
    obtain rfl : next = item := Option.some.inj found
    exact Or.inr ⟨member, taken.1⟩
  · exact before found

theorem worstRankNbr_ne_parent (inv : ParentInvariant node) {item : Nat}
    (found : (node.worstRankNbr conf).1 = some item) :
    item ∈ node.tables.nbrTableKeys ∧ node.currInstance.dag.preferredParent ≠ some item := by
  rcases foldl_worst_mem (node.tables.items .ds6Neighbors) (none, 0) item found with
    none | ⟨member, eligible⟩
  · contradiction
  · refine ⟨List.mem_of_mem_filter member, ?_⟩
    intro parent
    apply eligible
    rw [RplNode.rplNeighborGetFromLladdr, parent]
    exact inv.wf.getFromLladdr_key (inv.used item parent)

variable {reason : NbrTableReason}

theorem rplNbrPolicy_ne_parent (inv : ParentInvariant node) {item : Nat}
    (found : node.rplNbrPolicyFindRemovable conf reason = some item) :
    item ∈ node.tables.nbrTableKeys ∧ node.currInstance.dag.preferredParent ≠ some item := by
  cases reason with
  | rplDio dio =>
    simp only [RplNode.rplNbrPolicyFindRemovable, RplNode.findRemovableDio] at found
    split at found
    · contradiction
    · split at found
      · exact worstRankNbr_ne_parent conf inv found
      · contradiction
  | rplDis => exact worstRankNbr_ne_parent conf inv found
  | ipv6NdAutofill => exact worstRankNbr_ne_parent conf inv found
  | undefined => contradiction

theorem leastUsedKey_ne_parent (inv : ParentInvariant node)
    (found : node.tables.leastUsedKey = some key) :
    key ∈ node.tables.nbrTableKeys ∧ node.currInstance.dag.preferredParent ≠ some key := by
  unfold NbrTables.leastUsedKey at found
  have choice := foldl_some_mem (fun least next chosen taken => by
    cases least with
    | none => exact Or.inr (Option.some.inj taken).symm
    | some best =>
      dsimp only at taken
      split at taken
      · exact Or.inr (Option.some.inj taken).symm
      · exact Or.inl taken) _ _ _ found
  rcases choice with none | listed
  · contradiction
  · obtain ⟨inKeys, unlocked⟩ := List.mem_filter.mp listed
    refine ⟨inKeys, ?_⟩
    intro parent
    have locked : node.tables.isLocked key = true :=
      List.any_eq_true.mpr ⟨.rplNeighbors, by decide, (inv.locked key).mpr parent⟩
    rw [locked] at unlocked
    contradiction

/-! Additions. The blocks of the pool in use are the keys, with the one just allocated. -/

structure NodeInvariant (node : RplNode) : Prop where
  inUse : node.tables.neighborAddrMem.InUse node.tables.nbrTableKeys
  inv : ParentInvariant node

structure Allocated (node : RplNode) (key : Nat) (next : RplNode) : Prop where
  fresh : key ∉ next.tables.nbrTableKeys
  inUse : next.tables.neighborAddrMem.InUse (key :: next.tables.nbrTableKeys)
  kept : ∀ other ∈ next.tables.nbrTableKeys, other ∈ node.tables.nbrTableKeys
  addresses : next.tables.neighborAddrMem.mem = node.tables.neighborAddrMem.mem
  keeps : KeepsParent node next
  wf : TableWf next.tables

theorem evicted (invariant : NodeInvariant node) (member : key ∈ node.tables.nbrTableKeys)
    (other : node.currInstance.dag.preferredParent ≠ some key) :
    Allocated node key (node.removeKey key) := by
  obtain ⟨keys, pool, -⟩ := removeKey_tables key node
  refine ⟨?_, ?_, ?_, ?_, removeKey_keeps invariant.inv other, removeKey_wf invariant.inv.wf key⟩
  · rw [keys]
    exact invariant.inv.wf.nodup.not_mem_erase
  · rw [keys, pool]
    refine invariant.inUse.congr ?_
    intro block
    rw [List.mem_cons, invariant.inv.wf.nodup.mem_erase_iff]
    by_cases same : block = key
    · simp [same, member]
    · simp [same]
  · rw [keys]
    exact fun other inRest => List.mem_of_mem_erase inRest
  · rw [pool]

theorem clearLocks (invariant : NodeInvariant node)
    (other : node.currInstance.dag.preferredParent ≠ some key) :
    KeepsParent node (node.onTables fun tables =>
        { tables with lockedMap := Function.update tables.lockedMap key fun _ => false }) ∧
      NodeInvariant (node.onTables fun tables =>
        { tables with lockedMap := Function.update tables.lockedMap key fun _ => false }) := by
  have unlocked : node.tables.lockedMap key .rplNeighbors = false := by
    rw [← Bool.not_eq_true]
    exact fun locked => other ((invariant.inv.locked key).mp locked)
  have keeps : KeepsParent node (node.onTables fun tables =>
      { tables with lockedMap := Function.update tables.lockedMap key fun _ => false }) := by
    refine ⟨rfl, rfl, ?_, fun _ _ => ⟨rfl, rfl⟩, fun _ _ => ⟨rfl, rfl⟩⟩
    intro nbr
    by_cases same : nbr = key
    · subst same
      simp [RplNode.onTables, unlocked]
    · simp [RplNode.onTables, same]
  have wf : TableWf { node.tables with
      lockedMap := Function.update node.tables.lockedMap key fun _ => false } :=
    ⟨invariant.inv.wf.nodup, invariant.inv.wf.addresses, invariant.inv.wf.unused,
      invariant.inv.wf.known⟩
  exact ⟨keeps, invariant.inUse, invariant.inv.keep keeps wf⟩

theorem removableKey_spec {node next : RplNode} (invariant : NodeInvariant node)
    (found : node.removableKey conf reason = (some key, next)) :
    key ∈ node.tables.nbrTableKeys ∧ node.currInstance.dag.preferredParent ≠ some key ∧
      KeepsParent node next ∧ NodeInvariant next ∧
      next.tables.nbrTableKeys = node.tables.nbrTableKeys ∧
      next.tables.neighborAddrMem = node.tables.neighborAddrMem := by
  unfold RplNode.removableKey at found
  cases policy : node.rplNbrPolicyFindRemovable conf reason with
  | none =>
    rw [policy] at found
    exact nomatch found
  | some item =>
    obtain ⟨member, notParent⟩ := rplNbrPolicy_ne_parent conf invariant.inv policy
    have index := invariant.inv.wf.indexFromLladdr_key member
    simp only [policy, NbrTables.getLladdr, Option.map_some, index, Prod.mk.injEq,
      Option.some.injEq] at found
    obtain ⟨rfl, rfl⟩ := found
    obtain ⟨keeps, kept⟩ := clearLocks invariant notParent
    exact ⟨member, notParent, keeps, kept, rfl, rfl⟩

theorem nbrTableAllocate_spec {node next : RplNode} (invariant : NodeInvariant node)
    (found : node.nbrTableAllocate conf reason = (some key, next)) : Allocated node key next := by
  unfold RplNode.nbrTableAllocate at found
  split at found
  · rename_i block pool allocated
    obtain ⟨same, rfl⟩ := Prod.mk.inj found
    obtain rfl : block = key := Option.some.inj same
    obtain ⟨fresh, inUse, mem, -⟩ := Memb.membAlloc_taken invariant.inUse allocated
    have wf := invariant.inv.wf
    refine ⟨fresh, inUse, fun _ member => member, mem, ?_, ?_⟩
    · exact ⟨rfl, rfl, fun _ => rfl, fun _ _ => ⟨rfl, rfl⟩, fun _ _ => ⟨rfl, rfl⟩⟩
    · refine ⟨wf.nodup, ?_, wf.unused, wf.known⟩
      intro first firstMember second secondMember same
      have before : pool.mem first = pool.mem second := same
      rw [mem] at before
      exact wf.addresses first firstMember second secondMember before
  · by_cases policy : conf.findRemovable
    · rw [if_pos policy] at found
      cases removable : node.removableKey conf reason with
      | mk chosen unlocked =>
        rw [removable] at found
        obtain ⟨rfl, rfl⟩ := Prod.mk.inj found
        obtain ⟨member, notParent, keeps, kept, keys, pool⟩ :=
          removableKey_spec conf invariant removable
        have allocated := evicted kept (keys.symm ▸ member) (keeps.parent.symm ▸ notParent)
        refine ⟨allocated.fresh, allocated.inUse, ?_, ?_, keeps.trans allocated.keeps,
          allocated.wf⟩
        · intro other inRest
          exact keys ▸ allocated.kept other inRest
        · exact allocated.addresses.trans (congrArg Memb.mem pool)
    · rw [if_neg policy] at found
      obtain ⟨chosen, rfl⟩ := Prod.mk.inj found
      obtain ⟨member, notParent⟩ := leastUsedKey_ne_parent invariant.inv chosen
      rw [chosen]
      exact evicted invariant member notParent

theorem nbrTableAllocate_none {node next : RplNode}
    (failed : node.nbrTableAllocate conf reason = (none, next)) : next = node := by
  unfold RplNode.nbrTableAllocate at failed
  split at failed
  · exact nomatch (Prod.mk.inj failed).1
  · by_cases policy : conf.findRemovable
    · rw [if_pos policy] at failed
      cases removable : node.removableKey conf reason with
      | mk chosen unlocked =>
        rw [removable] at failed
        obtain ⟨rfl, rfl⟩ := Prod.mk.inj failed
        unfold RplNode.removableKey at removable
        split at removable
        · split at removable
          · exact nomatch (Prod.mk.inj removable).1
          · exact (Prod.mk.inj removable).2.symm
        · exact (Prod.mk.inj removable).2.symm
    · rw [if_neg policy] at failed
      obtain ⟨none, rfl⟩ := Prod.mk.inj failed
      rw [none]
      rfl

variable {lladdr : Option LinkAddr}

theorem keyOfLladdr_spec {node next : RplNode} (invariant : NodeInvariant node) {index : Nat}
    (found : node.keyOfLladdr conf lladdr reason = (some index, next)) :
    KeepsParent node next ∧ NodeInvariant next ∧ index ∈ next.tables.nbrTableKeys ∧
      (node.currInstance.dag.preferredParent = some index →
        node.tables.neighborAddrMem.mem index = lladdr.getD linkaddrNull) := by
  unfold RplNode.keyOfLladdr at found
  split at found
  · rename_i key known
    obtain ⟨same, rfl⟩ := Prod.mk.inj found
    obtain rfl : key = index := Option.some.inj same
    obtain ⟨member, address⟩ := TableWf.indexFromLladdr_some known
    exact ⟨KeepsParent.refl node, invariant, member, fun _ => address⟩
  · rename_i unknown
    split at found
    · rename_i key evicted allocated
      obtain ⟨same, rfl⟩ := Prod.mk.inj found
      obtain rfl : key = index := Option.some.inj same
      have spec := nbrTableAllocate_spec conf invariant allocated
      have newAddress : ∀ other ∈ evicted.tables.nbrTableKeys,
          evicted.tables.neighborAddrMem.mem other ≠ lladdr.getD linkaddrNull := by
        intro other member same
        have absent := List.find?_eq_none.mp unknown other (spec.kept other member)
        rw [← spec.addresses, same] at absent
        simp at absent
      have wf : TableWf (evicted.onTables fun tables =>
          { tables with
            nbrTableKeys := tables.nbrTableKeys ++ [key]
            neighborAddrMem := tables.neighborAddrMem.write key fun _ =>
              lladdr.getD linkaddrNull }).tables := by
        have different : ∀ other ∈ evicted.tables.nbrTableKeys, other ≠ key :=
          fun other member same => spec.fresh (same ▸ member)
        have kept : ∀ other ∈ evicted.tables.nbrTableKeys,
            (evicted.tables.neighborAddrMem.write key fun _ => lladdr.getD linkaddrNull).mem other =
              evicted.tables.neighborAddrMem.mem other :=
          fun other member => Memb.write_other _ _ (different other member)
        have written : (evicted.tables.neighborAddrMem.write key
            fun _ => lladdr.getD linkaddrNull).mem key = lladdr.getD linkaddrNull :=
          Memb.write_same _ _ _
        refine ⟨List.nodup_append.mpr ⟨spec.wf.nodup, List.nodup_singleton key, ?_⟩, ?_, ?_,
          spec.wf.known⟩
        · intro other member last inLast
          rw [List.mem_singleton.mp inLast]
          exact different other member
        · intro first firstMember second secondMember same
          dsimp only [RplNode.onTables] at same
          rcases List.mem_append.mp firstMember with firstOld | firstNew <;>
            rcases List.mem_append.mp secondMember with secondOld | secondNew
          · rw [kept first firstOld, kept second secondOld] at same
            exact spec.wf.addresses first firstOld second secondOld same
          · rw [List.mem_singleton.mp secondNew, kept first firstOld, written] at same
            exact (newAddress first firstOld same).elim
          · rw [List.mem_singleton.mp firstNew, kept second secondOld, written] at same
            exact (newAddress second secondOld same.symm).elim
          · rw [List.mem_singleton.mp firstNew, List.mem_singleton.mp secondNew]
        · intro other absent table
          exact spec.wf.unused other (fun member => absent (List.mem_append_left [key] member)) table
      have keeps : KeepsParent node (evicted.onTables fun tables =>
          { tables with
            nbrTableKeys := tables.nbrTableKeys ++ [key]
            neighborAddrMem := tables.neighborAddrMem.write key fun _ =>
              lladdr.getD linkaddrNull }) :=
        spec.keeps.trans ⟨rfl, rfl, fun _ => rfl, fun _ _ => ⟨rfl, rfl⟩, fun _ _ => ⟨rfl, rfl⟩⟩
      refine ⟨keeps, ⟨?_, invariant.inv.keep keeps wf⟩, by simp [RplNode.onTables], ?_⟩
      · refine (spec.inUse.write key fun _ => lladdr.getD linkaddrNull).congr ?_
        intro block
        simp [RplNode.onTables, or_comm]
      · intro parent
        have used := invariant.inv.used key parent
        rw [← (spec.keeps.item key parent).1] at used
        exact (spec.fresh (spec.wf.mem_keys used)).elim
    · exact nomatch (Prod.mk.inj found).1

theorem keyOfLladdr_none {node next : RplNode}
    (failed : node.keyOfLladdr conf lladdr reason = (none, next)) : next = node := by
  unfold RplNode.keyOfLladdr at failed
  split at failed
  · exact nomatch (Prod.mk.inj failed).1
  · split at failed
    · exact nomatch (Prod.mk.inj failed).1
    · rename_i other allocated
      obtain ⟨-, rfl⟩ := Prod.mk.inj failed
      exact nbrTableAllocate_none conf allocated

theorem useItem (invariant : NodeInvariant node) {table : NbrTableId} {item : Nat}
    (member : item ∈ node.tables.nbrTableKeys)
    (known : table = .rplNeighbors → node.tables.usedMap item .ds6Neighbors = true) :
    KeepsParent node (node.onTables (NbrTables.setUsed true table item)) ∧
      NodeInvariant (node.onTables (NbrTables.setUsed true table item)) := by
  have keeps : KeepsParent node (node.onTables (NbrTables.setUsed true table item)) := by
    refine ⟨rfl, rfl, fun _ => rfl, ?_, fun _ _ => ⟨rfl, rfl⟩⟩
    intro parent chosen
    refine ⟨?_, rfl⟩
    have used := invariant.inv.used parent chosen
    by_cases same : parent = item
    · subst same
      by_cases rpl : table = .rplNeighbors
      · subst rpl
        simp [RplNode.onTables, NbrTables.setUsed, used]
      · simp [RplNode.onTables, NbrTables.setUsed, Ne.symm rpl]
    · simp [RplNode.onTables, NbrTables.setUsed, same]
  exact ⟨keeps, invariant.inUse, invariant.inv.keep keeps (invariant.inv.wf.setUsed member known)⟩

theorem nbrTableAddLladdr_spec (invariant : NodeInvariant node)
    {table : NbrTableId} (notRpl : table ≠ .rplNeighbors) (lladdr : Option LinkAddr)
    (reason : NbrTableReason) :
    KeepsParent node (node.nbrTableAddLladdr conf table lladdr reason).2 ∧
      NodeInvariant (node.nbrTableAddLladdr conf table lladdr reason).2 ∧
      ∀ index, (node.nbrTableAddLladdr conf table lladdr reason).1 = some index →
        node.currInstance.dag.preferredParent = some index →
          node.tables.neighborAddrMem.mem index = lladdr.getD linkaddrNull := by
  unfold RplNode.nbrTableAddLladdr
  split
  · rename_i index next found
    obtain ⟨keeps, kept, member, address⟩ := keyOfLladdr_spec conf invariant found
    obtain ⟨usedKeeps, usedKept⟩ := useItem kept member (fun rpl => (notRpl rpl).elim)
    refine ⟨keeps.trans usedKeeps, usedKept, ?_⟩
    intro other same
    obtain rfl : index = other := Option.some.inj same
    exact address
  · rename_i next failed
    obtain rfl := keyOfLladdr_none conf failed
    exact ⟨KeepsParent.refl _, invariant, fun _ none => nomatch none⟩

theorem uipDs6NbrAdd_spec (invariant : NodeInvariant node) {ipaddr : UipIpaddr}
    (state : Ds6NbrState) (reason : NbrTableReason)
    (same : ∀ parent, node.currInstance.dag.preferredParent = some parent →
      node.tables.neighborAddrMem.mem parent = lladdr.getD linkaddrNull →
        (node.ds6Nbr parent).ipaddr = ipaddr) :
    KeepsParent node (node.uipDs6NbrAdd conf ipaddr lladdr state reason).2 ∧
      NodeInvariant (node.uipDs6NbrAdd conf ipaddr lladdr state reason).2 := by
  obtain ⟨keeps, kept, address⟩ := nbrTableAddLladdr_spec conf invariant
    (show NbrTableId.ds6Neighbors ≠ .rplNeighbors by decide) lladdr reason
  unfold RplNode.uipDs6NbrAdd
  cases added : node.nbrTableAddLladdr conf .ds6Neighbors lladdr reason with
  | mk result next =>
    rw [added] at keeps kept address
    cases result with
    | none => exact ⟨keeps, kept⟩
    | some nbr =>
      dsimp only at keeps kept address ⊢
      have written : KeepsParent node
          { next with ds6Nbr := Function.update next.ds6Nbr nbr ⟨ipaddr, state⟩ } := by
        refine ⟨keeps.parent, keeps.routers, keeps.locks, ?_, keeps.live⟩
        intro parent chosen
        refine ⟨(keeps.item parent chosen).1, ?_⟩
        dsimp only
        by_cases here : parent = nbr
        · subst here
          rw [Function.update_self]
          exact (same parent chosen (address parent rfl chosen)).symm
        · rw [Function.update_of_ne here]
          exact (keeps.item parent chosen).2
      exact ⟨written, kept.inUse, invariant.inv.keep written kept.inv.wf⟩

end MultiPhyTsch.Rpl
