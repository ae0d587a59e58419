import MultiPhyTsch.Lib.Run
import MultiPhyTsch.Rpl.NeighborInvariant
import MultiPhyTsch.Rpl.RankMonotone

/-! The preferred parent, the lock in the neighbor table and the default router are set together
by one function and stay together along every run, unless the instance is overwritten while it
has a parent or what IPv6 knows of the parent changes. -/

namespace MultiPhyTsch.Rpl

variable (conf : RplConf)

structure RouterConsistent (node : RplNode) : Prop where
  wf : TableWf node.tables
  onlyLock : ∀ nbr, node.tables.lockedMap nbr .rplNeighbors = true →
    node.currInstance.dag.preferredParent = some nbr
  routers : node.defaultrouterlist =
    node.currInstance.dag.preferredParent.toList.map fun parent => (node.ds6Nbr parent).ipaddr
  cached : ∀ parent, node.currInstance.dag.preferredParent = some parent →
    node.tables.usedMap parent .ds6Neighbors = true
  live : ∀ parent, node.currInstance.dag.preferredParent = some parent →
    node.currInstance.used = true ∧ node.isRoot = false

variable {node : RplNode}

theorem ParentInvariant.routerConsistent (inv : ParentInvariant node) : RouterConsistent node :=
  ⟨inv.wf, fun nbr => (inv.locked nbr).mp, inv.routers,
    fun parent chosen => inv.wf.known parent (inv.used parent chosen), inv.live⟩

theorem RouterConsistent.invariant_of_none (consistent : RouterConsistent node)
    (none : node.currInstance.dag.preferredParent = none) : ParentInvariant node := by
  refine ⟨consistent.wf, ?_, ?_, consistent.routers, consistent.live⟩
  · intro parent chosen
    rw [none] at chosen
    contradiction
  · intro nbr
    constructor
    · exact consistent.onlyLock nbr
    · intro chosen
      rw [none] at chosen
      contradiction

theorem locks_moved (tables : NbrTables) (old nbr : Option Nat) (item : Nat) :
    ((tables.nbrTableUnlock .rplNeighbors old).nbrTableLock .rplNeighbors nbr).lockedMap item
        .rplNeighbors = true ↔
      nbr = some item ∨ old ≠ some item ∧ tables.lockedMap item .rplNeighbors = true := by
  have unlocked : (tables.nbrTableUnlock .rplNeighbors old).lockedMap item .rplNeighbors = true ↔
      old ≠ some item ∧ tables.lockedMap item .rplNeighbors = true := by
    cases old with
    | none => simp [NbrTables.nbrTableUnlock]
    | some parent =>
      by_cases here : item = parent
      · simp [NbrTables.nbrTableUnlock, NbrTables.setLocked, here]
      · simp [NbrTables.nbrTableUnlock, NbrTables.setLocked, here, Ne.symm here]
  rw [← unlocked]
  cases nbr with
  | none => simp [NbrTables.nbrTableLock]
  | some chosen =>
    by_cases here : item = chosen
    · simp [NbrTables.nbrTableLock, NbrTables.setLocked, here]
    · simp [NbrTables.nbrTableLock, NbrTables.setLocked, here, Ne.symm here]

theorem routers_moved (old nbr : Option UipIpaddr) :
    routersAdd conf (old.elim old.toList old.toList.erase) nbr = nbr.toList := by
  have removed : old.elim old.toList old.toList.erase = [] := by
    cases old <;> simp
  rw [removed]
  cases nbr <;> simp [routersAdd, conf.defrtNb_pos]

theorem setPreferredParent_spec (consistent : RouterConsistent node) (nbr : Option Nat)
    (cached : ∀ item, nbr = some item → node.tables.usedMap item .ds6Neighbors = true)
    (nullFree : nbr = none → node.currInstance.dag.preferredParent ≠ none →
      node.rplNeighborGetIpaddr none = none)
    (locked : ∀ item, nbr = some item → node.currInstance.dag.preferredParent = some item →
      node.tables.lockedMap item .rplNeighbors = true) :
    (∀ item, (node.setPreferredParent conf nbr).tables.lockedMap item .rplNeighbors = true ↔
        nbr = some item) ∧
      (node.setPreferredParent conf nbr).defaultrouterlist =
        nbr.toList.map fun item => (node.ds6Nbr item).ipaddr := by
  by_cases same : node.currInstance.dag.preferredParent = nbr
  · rw [RplNode.setPreferredParent, if_pos same]
    refine ⟨?_, same ▸ consistent.routers⟩
    intro item
    constructor
    · exact fun isLocked => same ▸ consistent.onlyLock item isLocked
    · exact fun chosen => locked item chosen (same.trans chosen)
  · have address : ∀ chosen : Option Nat,
        (∀ item, chosen = some item → node.tables.usedMap item .ds6Neighbors = true) →
        (chosen = none → node.rplNeighborGetIpaddr none = none) →
        (node.rplNeighborGetIpaddr chosen).toList =
          chosen.toList.map fun item => (node.ds6Nbr item).ipaddr := by
      intro chosen known null
      cases chosen with
      | none => simp [null rfl]
      | some item => simp [rplNeighborGetIpaddr_cached consistent.wf (known item rfl)]
    rw [setPreferredParent_eq conf same]
    constructor
    · intro item
      rw [locks_moved]
      constructor
      · rintro (chosen | ⟨other, isLocked⟩)
        · exact chosen
        · exact (other (consistent.onlyLock item isLocked)).elim
      · exact Or.inl
    · dsimp only
      by_cases first : node.currInstance.dag.preferredParent = none
      · have empty : node.defaultrouterlist = [] := by
          rw [consistent.routers, first]
          rfl
        have nothing : (node.rplNeighborGetIpaddr node.currInstance.dag.preferredParent).elim
            node.defaultrouterlist node.defaultrouterlist.erase = [] := by
          rw [empty]
          cases node.rplNeighborGetIpaddr node.currInstance.dag.preferredParent <;> rfl
        rw [nothing, ← address nbr cached (fun none => absurd (first.trans none.symm) same)]
        exact routers_moved conf none _
      · rw [← address nbr cached (fun none => nullFree none first),
          consistent.routers, ← address _ consistent.cached (fun none => absurd none first)]
        exact routers_moved conf _ _

/-- What a node has to be like for an update of its state. If it loses its parent, IPv6 knows no
neighbor with the null address, which the setter would take for the address of no parent; and no
neighbor it selects gives it the rank of a root. -/
structure UpdateSafe (node : RplNode) : Prop where
  nullFree : node.currInstance.dag.preferredParent ≠ none →
    node.currInstance.dag.state = .poisoning ∨ node.selectBest conf = none →
      node.rplNeighborGetIpaddr none = none
  belowRoot : ∀ nbr, node.selectBest conf = some nbr →
    node.rplNeighborRankViaNbr conf (some nbr) ≠ node.currInstance.minHoprankinc

theorem setPreferredParent_tables (nbr : Option Nat) (node : RplNode) : ∃ lockedMap,
    (node.setPreferredParent conf nbr).tables = { node.tables with lockedMap := lockedMap } := by
  obtain ⟨lockedMap, routers, changed⟩ := setPreferredParent_frame conf nbr node
  rw [changed]
  exact ⟨lockedMap, rfl⟩

theorem updateParent_invariant (consistent : RouterConsistent node)
    (used : node.currInstance.used = true) (safe : UpdateSafe conf node)
    (locked : ∀ item, node.selectBest conf = some item →
      node.currInstance.dag.preferredParent = some item →
        node.tables.lockedMap item .rplNeighbors = true) :
    ParentInvariant (node.updateParent conf) := by
  obtain ⟨target, lockedMap, routers, items, chosen, updated, -⟩ := updateParent_frame conf node
  obtain ⟨probed, probing⟩ := selectUrgentProbing_frame conf node
  have inTable : ∀ item, node.selectBest conf = some item →
      node.tables.usedMap item .rplNeighbors = true := by
    intro item chosen
    exact consistent.wf.mem_items_iff.mp (selectBest_mem conf chosen).1
  have probedConsistent : RouterConsistent (node.selectUrgentProbing conf) := by
    rw [probing]
    exact ⟨consistent.wf, consistent.onlyLock, consistent.routers, consistent.cached,
      consistent.live⟩
  have moved := setPreferredParent_spec conf probedConsistent (node.selectBest conf)
    (fun item chosen => by
      rw [probing]
      exact consistent.wf.known item (inTable item chosen))
    (fun none parent => by
      rw [probing] at parent ⊢
      exact safe.nullFree parent (Or.inr none))
    (fun item chosen parent => by
      rw [probing] at parent ⊢
      exact locked item chosen parent)
  rw [← RplNode.chooseParent, chosen, probing] at moved
  rw [updated, chosen]
  refine ⟨⟨consistent.wf.nodup, consistent.wf.addresses, consistent.wf.unused, consistent.wf.known⟩,
    inTable, moved.1, moved.2, fun item found => ⟨used, ?_⟩⟩
  change node.selectBest conf = some item at found
  have different := safe.belowRoot item found
  rw [← found] at different
  simp [RplNode.isRoot, RplInstance.isRoot, RplNode.onDag, RplNode.updateDagAfterRank, different]

theorem poison_invariant (consistent : RouterConsistent node)
    (nullFree : node.currInstance.dag.preferredParent ≠ none →
      node.rplNeighborGetIpaddr none = none) :
    ParentInvariant ((node.setPreferredParent conf none).onDag fun dag =>
      { dag with rank := rplInfiniteRank }) := by
  obtain ⟨lockedMap, routers, changed⟩ := setPreferredParent_frame conf none node
  have moved := setPreferredParent_spec conf consistent none (fun _ none => nomatch none)
    (fun _ parent => nullFree parent) (fun _ none => nomatch none)
  rw [changed] at moved ⊢
  refine RouterConsistent.invariant_of_none ⟨?_, ?_, moved.2, ?_, ?_⟩ rfl
  · exact ⟨consistent.wf.nodup, consistent.wf.addresses, consistent.wf.unused, consistent.wf.known⟩
  · intro item isLocked
    exact (moved.1 item).mp isLocked
  · exact fun _ none => nomatch none
  · exact fun _ none => nomatch none

theorem updateMetricContainer_invariant (inv : ParentInvariant node) :
    ParentInvariant (node.updateMetricContainer conf) :=
  ⟨inv.wf, inv.used, inv.locked, inv.routers, inv.live⟩

theorem rplDagUpdateState_invariant (consistent : RouterConsistent node)
    (safe : UpdateSafe conf node) (locked : ∀ item, node.selectBest conf = some item →
      node.currInstance.dag.preferredParent = some item →
        node.tables.lockedMap item .rplNeighbors = true) :
    ParentInvariant (node.rplDagUpdateState conf) := by
  have noParent : node.isRoot = true ∨ node.currInstance.used = false →
      node.currInstance.dag.preferredParent = none := by
    intro rootOrUnused
    cases chosen : node.currInstance.dag.preferredParent with
    | none => rfl
    | some parent =>
      obtain ⟨used, notRoot⟩ := consistent.live parent chosen
      simp [used, notRoot] at rootOrUnused
  unfold RplNode.rplDagUpdateState
  split
  · rename_i used
    apply updateMetricContainer_invariant
    split
    · rename_i poisoning
      exact poison_invariant conf consistent fun parent => safe.nullFree parent (Or.inl poisoning)
    · split
      · rename_i root
        exact consistent.invariant_of_none (noParent (Or.inl root))
      · exact updateParent_invariant conf consistent used safe locked
  · rename_i unused
    exact consistent.invariant_of_none (noParent (Or.inr (Bool.not_eq_true _ ▸ unused)))

theorem rplDagUpdateState_none (consistent : RouterConsistent node)
    (nothing : node.selectBest conf = none) :
    (node.rplDagUpdateState conf).currInstance.dag.preferredParent = none := by
  unfold RplNode.rplDagUpdateState
  split
  · split
    · obtain ⟨lockedMap, routers, changed⟩ := setPreferredParent_frame conf none node
      rw [changed]
      rfl
    · split
      · rename_i root
        cases chosen : node.currInstance.dag.preferredParent with
        | none => exact chosen
        | some parent => exact absurd root (by simp [(consistent.live parent chosen).2])
      · exact (updateParent_spec conf node).1.trans nothing
  · rename_i unused
    cases chosen : node.currInstance.dag.preferredParent with
    | none => rfl
    | some parent => exact absurd (consistent.live parent chosen).1 unused

theorem rplDagUpdateState_tables (node : RplNode) : ∃ lockedMap,
    (node.rplDagUpdateState conf).tables = { node.tables with lockedMap := lockedMap } := by
  unfold RplNode.rplDagUpdateState
  split
  · split
    · exact setPreferredParent_tables conf none node
    · split
      · exact ⟨node.tables.lockedMap, rfl⟩
      · obtain ⟨target, lockedMap, routers, items, chosen, updated, -⟩ := updateParent_frame conf node
        rw [updated, chosen]
        exact ⟨lockedMap, rfl⟩
  · exact ⟨node.tables.lockedMap, rfl⟩

theorem updateState_invariant (invariant : NodeInvariant node)
    (safe : UpdateSafe conf node) : NodeInvariant (node.rplDagUpdateState conf) := by
  obtain ⟨lockedMap, tables⟩ := rplDagUpdateState_tables conf node
  refine ⟨?_, rplDagUpdateState_invariant conf invariant.inv.routerConsistent safe
    fun item _ parent => (invariant.inv.locked item).mpr parent⟩
  rw [tables]
  exact invariant.inUse

structure Removed (node : RplNode) (nbrs : List Nat) (next : RplNode) : Prop where
  keys : next.tables.nbrTableKeys = node.tables.nbrTableKeys
  pool : next.tables.neighborAddrMem = node.tables.neighborAddrMem
  others : ∀ nbr table, table ≠ .rplNeighbors →
    next.tables.usedMap nbr table = node.tables.usedMap nbr table
  used : ∀ nbr, next.tables.usedMap nbr .rplNeighbors = true ↔
    nbr ∉ nbrs ∧ node.tables.usedMap nbr .rplNeighbors = true
  locked : ∀ nbr, next.tables.lockedMap nbr .rplNeighbors = true ↔
    nbr ∉ nbrs ∧ node.tables.lockedMap nbr .rplNeighbors = true
  ds6Nbr : next.ds6Nbr = node.ds6Nbr
  routers : next.defaultrouterlist = node.defaultrouterlist
  parent : next.currInstance.dag.preferredParent = node.currInstance.dag.preferredParent
  instUsed : next.currInstance.used = node.currInstance.used
  isRoot : next.isRoot = node.isRoot

theorem foldl_removeNeighbor (nbrs : List Nat) : ∀ node : RplNode,
    Removed node nbrs (nbrs.foldl RplNode.removeNeighbor node) := by
  induction nbrs with
  | nil => exact fun node => ⟨rfl, rfl, fun _ _ _ => rfl, by simp, by simp, rfl, rfl, rfl, rfl, rfl⟩
  | cons nbr rest ih =>
    intro node
    have later := ih (node.removeNeighbor nbr)
    have usedHere : ∀ other table, (node.removeNeighbor nbr).tables.usedMap other table = true ↔
        (other ≠ nbr ∨ table ≠ .rplNeighbors) ∧ node.tables.usedMap other table = true := by
      intro other table
      rw [RplNode.removeNeighbor, RplNode.onTables, NbrTables.nbrTableRemove_usedMap]
      by_cases same : other = nbr <;> simp [same, RplNode.onDag]
    have lockedHere : ∀ other, (node.removeNeighbor nbr).tables.lockedMap other .rplNeighbors =
        true ↔ other ≠ nbr ∧ node.tables.lockedMap other .rplNeighbors = true := by
      intro other
      rw [RplNode.removeNeighbor, RplNode.onTables, NbrTables.nbrTableRemove_lockedMap]
      by_cases same : other = nbr <;> simp [same, RplNode.onDag]
    refine ⟨later.keys, later.pool, ?_, ?_, ?_, later.ds6Nbr, later.routers, later.parent,
      later.instUsed, later.isRoot⟩
    · intro other table notRpl
      rw [List.foldl_cons, later.others other table notRpl, Bool.eq_iff_iff, usedHere]
      simp [notRpl]
    · intro other
      rw [List.foldl_cons, later.used, usedHere, List.mem_cons, not_or]
      simp only [ne_eq, not_true_eq_false, or_false]
      tauto
    · intro other
      rw [List.foldl_cons, later.locked, lockedHere, List.mem_cons, not_or]
      tauto

theorem removeAll_invariant (invariant : NodeInvariant node)
    (nullFree : node.currInstance.dag.preferredParent ≠ none →
      node.rplNeighborGetIpaddr none = none) :
    NodeInvariant (node.rplNeighborRemoveAll conf) ∧
      (node.rplNeighborRemoveAll conf).currInstance.dag.preferredParent = none := by
  have removed := foldl_removeNeighbor (node.tables.items .rplNeighbors) node
  have wf := invariant.inv.wf
  unfold RplNode.rplNeighborRemoveAll
  generalize (node.tables.items .rplNeighbors).foldl RplNode.removeNeighbor node = emptied
    at removed ⊢
  have unused : ∀ nbr, ¬ emptied.tables.usedMap nbr .rplNeighbors = true := by
    intro nbr used
    obtain ⟨absent, before⟩ := (removed.used nbr).mp used
    exact absent (wf.mem_items_iff.mpr before)
  have unlocked : ∀ nbr, ¬ emptied.tables.lockedMap nbr .rplNeighbors = true := by
    intro nbr isLocked
    obtain ⟨absent, before⟩ := (removed.locked nbr).mp isLocked
    exact absent (wf.mem_items_iff.mpr (invariant.inv.used nbr ((invariant.inv.locked nbr).mp before)))
  have ds6Used : ∀ nbr, emptied.tables.usedMap nbr .ds6Neighbors =
      node.tables.usedMap nbr .ds6Neighbors :=
    fun nbr => removed.others nbr .ds6Neighbors (by decide)
  have consistent : RouterConsistent emptied := by
    refine ⟨⟨?_, ?_, ?_, ?_⟩, ?_, ?_, ?_, ?_⟩
    · rw [removed.keys]
      exact wf.nodup
    · rw [removed.keys, removed.pool]
      exact wf.addresses
    · rw [removed.keys]
      intro key absent table
      by_cases rpl : table = .rplNeighbors
      · rw [rpl, ← Bool.not_eq_true]
        exact unused key
      · rw [removed.others key table rpl]
        exact wf.unused key absent table
    · exact fun key used => absurd used (unused key)
    · exact fun nbr isLocked => absurd isLocked (unlocked nbr)
    · rw [removed.routers, removed.parent, removed.ds6Nbr]
      exact invariant.inv.routers
    · intro parent chosen
      rw [removed.parent] at chosen
      rw [ds6Used]
      exact wf.known parent (invariant.inv.used parent chosen)
    · intro parent chosen
      rw [removed.parent] at chosen
      rw [removed.instUsed, removed.isRoot]
      exact invariant.inv.live parent chosen
  have nothing : emptied.selectBest conf = none := by
    cases chosen : emptied.selectBest conf with
    | none => rfl
    | some nbr =>
      have member := (selectBest_mem conf chosen).1
      exact absurd (consistent.wf.mem_items_iff.mp member) (unused nbr)
  have safe : UpdateSafe conf emptied := by
    refine ⟨?_, fun nbr chosen => nomatch nothing.symm.trans chosen⟩
    intro parent _
    rw [removed.parent] at parent
    have sameNull : emptied.rplNeighborGetIpaddr none = node.rplNeighborGetIpaddr none := by
      have index : emptied.tables.indexFromLladdr none = node.tables.indexFromLladdr none := by
        rw [NbrTables.indexFromLladdr, removed.keys, removed.pool]
        rfl
      simp only [RplNode.rplNeighborGetIpaddr, RplNode.rplNeighborGetLladdr, NbrTables.getLladdr,
        Option.map_none, RplNode.uipDs6NbrIpaddrFromLladdr, NbrTables.getFromLladdr, index, ds6Used,
        removed.ds6Nbr]
    rw [sameNull]
    exact nullFree parent
  refine ⟨⟨?_, rplDagUpdateState_invariant conf consistent safe fun nbr chosen =>
    nomatch nothing.symm.trans chosen⟩, rplDagUpdateState_none conf consistent nothing⟩
  obtain ⟨lockedMap, tables⟩ := rplDagUpdateState_tables conf emptied
  rw [tables]
  change emptied.tables.neighborAddrMem.InUse emptied.tables.nbrTableKeys
  rw [removed.keys, removed.pool]
  exact invariant.inUse

theorem onDag_invariant (invariant : NodeInvariant node) {change : RplDag → RplDag}
    (parent : (change node.currInstance.dag).preferredParent =
      node.currInstance.dag.preferredParent)
    (rank : (change node.currInstance.dag).rank = node.currInstance.dag.rank) :
    NodeInvariant (node.onDag change) := by
  refine ⟨invariant.inUse, invariant.inv.keep ⟨parent, rfl, fun _ => rfl, fun _ _ => ⟨rfl, rfl⟩, ?_⟩
    invariant.inv.wf⟩
  intro chosen _
  refine ⟨rfl, ?_⟩
  simp only [RplNode.isRoot, RplInstance.isRoot, RplNode.onDag, rank]

theorem replaceInstance_invariant (invariant : NodeInvariant node)
    (orphan : node.currInstance.dag.preferredParent = none) {inst : RplInstance}
    (noParent : inst.dag.preferredParent = none) :
    NodeInvariant { node with currInstance := inst } := by
  have consistent := invariant.inv.routerConsistent
  refine ⟨invariant.inUse, RouterConsistent.invariant_of_none ⟨consistent.wf, ?_, ?_, ?_, ?_⟩ noParent⟩
  · intro nbr isLocked
    exact nomatch orphan.symm.trans (consistent.onlyLock nbr isLocked)
  · change node.defaultrouterlist = _
    rw [consistent.routers, orphan, noParent]
  · exact fun parent chosen => nomatch noParent.symm.trans chosen
  · exact fun parent chosen => nomatch noParent.symm.trans chosen

theorem initDag_parent (instanceId : UInt8) (dagId : UipIpaddr) (ocp : UInt16)
    (prefixLen prefixFlags : UInt8) :
    ((RplNode.initDag conf instanceId dagId ocp prefixLen prefixFlags).getD
      rplInstanceZero).dag.preferredParent = none := by
  unfold RplNode.initDag
  split
  · split <;> rfl
  · rfl

theorem initDagFromDio_parent (dio : RplDio) :
    ((RplNode.initDagFromDio conf dio).getD rplInstanceZero).dag.preferredParent = none := by
  have parent := initDag_parent conf dio.instanceId dio.dagId dio.ocp dio.prefixLength dio.prefixFlags
  unfold RplNode.initDagFromDio
  cases built : RplNode.initDag conf dio.instanceId dio.dagId dio.ocp dio.prefixLength
      dio.prefixFlags with
  | none => rfl
  | some inst =>
    rw [built] at parent
    exact parent

section

variable (invariant : NodeInvariant node)
include invariant

theorem rplLocalRepair_invariant (nullFree : node.currInstance.dag.preferredParent ≠ none →
      node.rplNeighborGetIpaddr none = none) : NodeInvariant (node.rplLocalRepair conf) := by
  unfold RplNode.rplLocalRepair
  split
  · split
    · exact (removeAll_invariant conf invariant nullFree).1
    · have initialized : NodeInvariant (node.onDag fun dag => { dag with state := .initialized }) :=
        onDag_invariant invariant rfl rfl
      exact (removeAll_invariant conf initialized nullFree).1
  · exact invariant

theorem rplLocalRepair_none (orphan : node.currInstance.dag.preferredParent = none) :
    (node.rplLocalRepair conf).currInstance.dag.preferredParent = none := by
  unfold RplNode.rplLocalRepair
  split
  · split
    · exact (removeAll_invariant conf invariant fun parent => absurd orphan parent).2
    · have initialized : NodeInvariant (node.onDag fun dag => { dag with state := .initialized }) :=
        onDag_invariant invariant rfl rfl
      exact (removeAll_invariant conf initialized fun parent => absurd orphan parent).2
  · exact orphan

theorem isRoot_parent (root : node.isRoot = true) :
    node.currInstance.dag.preferredParent = none := by
  cases chosen : node.currInstance.dag.preferredParent with
  | none => rfl
  | some parent => exact absurd root (by simp [(invariant.inv.live parent chosen).2])

theorem rplGlobalRepair_invariant :
    NodeInvariant (node.rplGlobalRepair conf) ∧
      (node.currInstance.dag.preferredParent = none →
        (node.rplGlobalRepair conf).currInstance.dag.preferredParent = none) := by
  unfold RplNode.rplGlobalRepair
  split
  · rename_i root
    have orphan := isRoot_parent invariant root
    have versioned : NodeInvariant (node.onDag fun dag =>
        { dag with version := RplNode.rplLollipopIncrement dag.version }) :=
      onDag_invariant invariant rfl rfl
    exact ⟨rplLocalRepair_invariant conf versioned fun parent => absurd orphan parent,
      fun orphan => rplLocalRepair_none conf versioned orphan⟩
  · exact ⟨invariant, fun orphan => orphan⟩

theorem adoptVersion_invariant {dio : RplDio}
    (orphan : node.currInstance.dag.preferredParent = none) :
    NodeInvariant (node.adoptVersion conf dio) ∧
      (node.adoptVersion conf dio).currInstance.dag.preferredParent = none := by
  unfold RplNode.adoptVersion
  split
  · split
    · have versioned : NodeInvariant (node.onDag fun dag => { dag with version := dio.version }) :=
        onDag_invariant invariant rfl rfl
      obtain ⟨kept, stillNone⟩ := rplGlobalRepair_invariant conf versioned
      exact ⟨kept, stillNone orphan⟩
    · unfold RplNode.globalRepairNonRoot
      split
      · exact ⟨invariant, orphan⟩
      · have replaced := replaceInstance_invariant invariant orphan (initDagFromDio_parent conf dio)
        exact ⟨rplLocalRepair_invariant conf replaced fun parent =>
            absurd (initDagFromDio_parent conf dio) parent,
          rplLocalRepair_none conf replaced (initDagFromDio_parent conf dio)⟩
  · exact ⟨invariant, orphan⟩

end

def SourceKnown (node : RplNode) (sender : LinkAddr) («from» : UipIpaddr) : Prop :=
  ∀ parent, node.currInstance.dag.preferredParent = some parent →
    node.uipDs6NbrLookup «from» = none → node.tables.neighborAddrMem.mem parent ≠ sender

variable {sender : LinkAddr} {«from» : UipIpaddr}

section

variable (invariant : NodeInvariant node)
include invariant

theorem rplIcmp6UpdateNbrTable_invariant (reason : NbrTableReason)
    (known : SourceKnown node sender «from») :
    NodeInvariant (node.rplIcmp6UpdateNbrTable conf sender «from» reason).2 := by
  unfold RplNode.rplIcmp6UpdateNbrTable
  split
  · exact invariant
  · rename_i unknown
    refine (uipDs6NbrAdd_spec conf invariant .reachable reason ?_).2
    intro parent chosen same
    exact absurd same (known parent chosen unknown)

theorem onNbr_invariant (nbr : Nat) (change : RplNbr → RplNbr) :
    NodeInvariant (node.onNbr nbr change) :=
  ⟨invariant.inUse, ⟨invariant.inv.wf, invariant.inv.used, invariant.inv.locked,
    invariant.inv.routers, invariant.inv.live⟩⟩

theorem updateNbrFromDio_invariant («from» : UipIpaddr) (dio : RplDio) :
    NodeInvariant (node.updateNbrFromDio conf «from» dio).2 := by
  unfold RplNode.updateNbrFromDio
  dsimp only
  split
  · dsimp only
    exact onNbr_invariant invariant _ _
  · split
    · exact invariant
    · rename_i lladdr found
      split
      · rename_i nbr next added
        obtain ⟨item, lookup, rfl⟩ := Option.map_eq_some_iff.mp found
        have member := List.mem_of_find?_eq_some lookup
        have used := invariant.inv.wf.mem_items_iff.mp member
        have index := invariant.inv.wf.indexFromLladdr_key (invariant.inv.wf.mem_keys used)
        simp only [RplNode.nbrTableAddLladdr, RplNode.keyOfLladdr, index, Prod.mk.injEq,
          Option.some.injEq] at added
        obtain ⟨rfl, rfl⟩ := added
        dsimp only
        exact onNbr_invariant (onNbr_invariant
          (useItem invariant (invariant.inv.wf.mem_keys used) fun _ => used).2 _ _) _ _
      · rename_i next failed
        obtain ⟨item, lookup, rfl⟩ := Option.map_eq_some_iff.mp found
        have used := invariant.inv.wf.mem_items_iff.mp (List.mem_of_find?_eq_some lookup)
        have index := invariant.inv.wf.indexFromLladdr_key (invariant.inv.wf.mem_keys used)
        simp [RplNode.nbrTableAddLladdr, RplNode.keyOfLladdr, index] at failed

theorem receiveHbh_invariant (sender : Option Nat) (senderRank : RplRank)
    (loopDetected rankErrorSignaled : Bool) :
    NodeInvariant (node.receiveHbh sender senderRank loopDetected rankErrorSignaled) := by
  have targeted : NodeInvariant (if loopDetected && node.currInstance.used then
      node.onDag fun dag => { dag with unicastDioTarget := sender } else node) := by
    split
    · exact onDag_invariant invariant rfl rfl
    · exact invariant
  unfold RplNode.receiveHbh
  dsimp only
  split
  · exact onNbr_invariant targeted _ _
  · exact targeted

end

def RplNode.takesDio (node : RplNode) (dio : RplDio) : Bool :=
  node.inDagOf dio && node.currInstance.minHoprankinc ≤ dio.rank &&
    !RplNode.rplLollipopGreaterThan node.currInstance.dag.version dio.version

def DioSafe (node : RplNode) (sender : LinkAddr) («from» : UipIpaddr) (dio : RplDio) : Prop :=
  node.currInstance.dag.preferredParent ≠ none → node.takesDio dio →
    RplNode.rplLollipopGreaterThan dio.version node.currInstance.dag.version = false ∧
      SourceKnown node sender «from»

theorem processDioFromCurrentDag_invariant (invariant : NodeInvariant node)
    {dio : RplDio} (inDag : node.inDagOf dio = true) (safe : DioSafe node sender «from» dio) :
    NodeInvariant (node.processDioFromCurrentDag conf sender «from» dio) := by
  unfold RplNode.processDioFromCurrentDag
  split
  · exact invariant
  · rename_i rankOk
    split
    · exact invariant
    · rename_i notOlder
      have adopted : NodeInvariant (node.adoptVersion conf dio) ∧
          SourceKnown (node.adoptVersion conf dio) sender «from» := by
        by_cases orphan : node.currInstance.dag.preferredParent = none
        · obtain ⟨kept, stillNone⟩ := adoptVersion_invariant conf invariant orphan
          exact ⟨kept, fun parent chosen => nomatch stillNone.symm.trans chosen⟩
        · have takes : node.takesDio dio = true := by
            simp [RplNode.takesDio, inDag, notOlder, UInt16.not_lt.mp rankOk]
          obtain ⟨notNewer, known⟩ := safe orphan takes
          have same : node.adoptVersion conf dio = node := by
            rw [RplNode.adoptVersion, notNewer, if_neg Bool.false_ne_true]
          rw [same]
          exact ⟨invariant, known⟩
      have cached := rplIcmp6UpdateNbrTable_invariant conf adopted.1 (.rplDio dio) adopted.2
      split
      · rename_i nbr next updated
        rw [updated] at cached
        exact updateNbrFromDio_invariant conf cached «from» dio
      · rename_i next updated
        rw [updated] at cached
        exact cached

theorem receiveDio_invariant (invariant : NodeInvariant node)
    {dio : RplDio} (safe : DioSafe node sender «from» dio) :
    NodeInvariant (node.receiveDio conf sender «from» dio) := by
  unfold RplNode.receiveDio
  by_cases used : node.currInstance.used = true
  · simp only [if_pos used]
    split
    · rename_i inDag
      exact processDioFromCurrentDag_invariant conf invariant inDag safe
    · exact invariant
  · have orphan : node.currInstance.dag.preferredParent = none := by
      cases chosen : node.currInstance.dag.preferredParent with
      | none => rfl
      | some parent => exact absurd (invariant.inv.live parent chosen).1 used
    have joined : NodeInvariant (node.processDioInitDag conf dio) ∧
        (node.processDioInitDag conf dio).currInstance.dag.preferredParent = none := by
      unfold RplNode.processDioInitDag
      split
      · exact ⟨invariant, orphan⟩
      · exact ⟨replaceInstance_invariant invariant orphan (initDagFromDio_parent conf dio),
          initDagFromDio_parent conf dio⟩
    simp only [if_neg used]
    split
    · rename_i inDag
      exact processDioFromCurrentDag_invariant conf joined.1 inDag
        fun parent => absurd joined.2 parent
    · exact joined.1

/-- What a node does, one call after another. A table other than those of IPv6 and RPL may add,
lock and remove neighbors; link statistics, the time and the reachability of neighbors change. -/
inductive RplStep where
  | receiveDio (sender : LinkAddr) («from» : UipIpaddr) (dio : RplDio)
  | receiveDis (sender : LinkAddr) («from» : UipIpaddr)
  | autofill (ipaddr : UipIpaddr) (lladdr : Option LinkAddr) (state : Ds6NbrState)
    (reason : NbrTableReason)
  | updateState
  | receiveHbh (sender : Option Nat) (senderRank : RplRank) (loopDetected rankErrorSignaled : Bool)
  | localRepair
  | globalRepair
  | poison
  | leave
  | initRoot (instanceId : UInt8) (dagId : UipIpaddr) (prefixLen prefixFlags : UInt8)
  | addOther (table : Fin 6) (lladdr : Option LinkAddr) (reason : NbrTableReason)
  | lockOther (table : Fin 6) (item : Nat) (value : Bool)
  | removeOther (table : Fin 6) (item : Nat)
  | measure (linkStats : LinkAddr → Option LinkStats) (clockTime : UInt32)
  | reach (nbr : Nat) (state : Ds6NbrState)

def RplStep.apply (node : RplNode) : RplStep → RplNode
  | receiveDio sender «from» dio => node.receiveDio conf sender «from» dio
  | receiveDis sender «from» => (node.rplIcmp6UpdateNbrTable conf sender «from» .rplDis).2
  | autofill ipaddr lladdr state reason => (node.uipDs6NbrAdd conf ipaddr lladdr state reason).2
  | updateState => node.rplDagUpdateState conf
  | receiveHbh sender senderRank loopDetected rankErrorSignaled =>
    node.receiveHbh sender senderRank loopDetected rankErrorSignaled
  | localRepair => node.rplLocalRepair conf
  | globalRepair => node.rplGlobalRepair conf
  | poison => node.rplDagPoisonAndLeave
  | leave => if node.currInstance.used then node.rplDagLeave conf else node
  | initRoot instanceId dagId prefixLen prefixFlags =>
    node.rplDagInitRoot conf instanceId dagId prefixLen prefixFlags
  | addOther table lladdr reason => (node.nbrTableAddLladdr conf (.other table) lladdr reason).2
  | lockOther table item value => node.onTables (NbrTables.setLocked value (.other table) item)
  | removeOther table item => node.onTables (NbrTables.nbrTableRemove (.other table) item)
  | measure linkStats clockTime => { node with linkStats := linkStats, clockTime := clockTime }
  | reach nbr state =>
    { node with
      ds6Nbr := Function.update node.ds6Nbr nbr { node.ds6Nbr nbr with state := state } }

def NullFree (node : RplNode) : Prop :=
  node.currInstance.dag.preferredParent ≠ none → node.rplNeighborGetIpaddr none = none

/-- What a step must not do: take a newer version, or give the parent's link-layer address another
IPv6 address, while there is a parent; lose the parent while the null address is known; or select
a parent via which the rank is that of a root. -/
def StepSafe (node : RplNode) : RplStep → Prop
  | .receiveDio sender «from» dio => DioSafe node sender «from» dio
  | .receiveDis sender «from» => SourceKnown node sender «from»
  | .autofill ipaddr lladdr _ _ => ∀ parent, node.currInstance.dag.preferredParent = some parent →
      node.tables.neighborAddrMem.mem parent = lladdr.getD linkaddrNull →
        (node.ds6Nbr parent).ipaddr = ipaddr
  | .updateState => UpdateSafe conf node
  | .localRepair => NullFree node
  | .leave => NullFree node
  | .initRoot _ _ _ _ => NullFree node
  | _ => True

theorem rplDagLeave_invariant (invariant : NodeInvariant node) (nullFree : NullFree node) :
    NodeInvariant (node.rplDagLeave conf) ∧
      (node.rplDagLeave conf).currInstance.dag.preferredParent = none := by
  have forgot : NodeInvariant { node with linkStats := fun _ => none } :=
    ⟨invariant.inUse, ⟨invariant.inv.wf, invariant.inv.used, invariant.inv.locked,
      invariant.inv.routers, invariant.inv.live⟩⟩
  obtain ⟨removed, orphan⟩ := removeAll_invariant conf forgot nullFree
  exact ⟨replaceInstance_invariant removed orphan orphan, orphan⟩

theorem rplDagInitRoot_invariant (invariant : NodeInvariant node)
    (nullFree : NullFree node) (instanceId : UInt8) (dagId : UipIpaddr)
    (prefixLen prefixFlags : UInt8) :
    NodeInvariant (node.rplDagInitRoot conf instanceId dagId prefixLen prefixFlags) := by
  unfold RplNode.rplDagInitRoot
  dsimp only
  split
  · obtain ⟨left, orphan⟩ := rplDagLeave_invariant conf invariant nullFree
    exact replaceInstance_invariant left orphan (initDag_parent conf _ _ _ _ _)
  · rename_i unused
    have orphan : node.currInstance.dag.preferredParent = none := by
      cases chosen : node.currInstance.dag.preferredParent with
      | none => rfl
      | some parent => exact absurd (invariant.inv.live parent chosen).1 unused
    exact replaceInstance_invariant invariant orphan (initDag_parent conf _ _ _ _ _)

theorem step_invariant (invariant : NodeInvariant node) (step : RplStep)
    (safe : StepSafe conf node step) : NodeInvariant (step.apply conf node) := by
  cases step with
  | receiveDio sender «from» dio => exact receiveDio_invariant conf invariant safe
  | receiveDis sender «from» => exact rplIcmp6UpdateNbrTable_invariant conf invariant .rplDis safe
  | autofill ipaddr lladdr state reason =>
    exact (uipDs6NbrAdd_spec conf invariant state reason safe).2
  | updateState => exact updateState_invariant conf invariant safe
  | receiveHbh sender senderRank loopDetected rankErrorSignaled =>
    exact receiveHbh_invariant invariant sender senderRank loopDetected rankErrorSignaled
  | localRepair => exact rplLocalRepair_invariant conf invariant safe
  | globalRepair => exact (rplGlobalRepair_invariant conf invariant).1
  | poison =>
    have poisoned : NodeInvariant (node.onDag fun dag => { dag with state := .poisoning }) :=
      onDag_invariant invariant rfl rfl
    exact poisoned
  | leave =>
    simp only [RplStep.apply]
    split
    · exact (rplDagLeave_invariant conf invariant safe).1
    · exact invariant
  | initRoot instanceId dagId prefixLen prefixFlags =>
    exact rplDagInitRoot_invariant conf invariant safe instanceId dagId prefixLen prefixFlags
  | addOther table lladdr reason =>
    exact (nbrTableAddLladdr_spec conf invariant (by simp) lladdr reason).2.1
  | lockOther table item value =>
    refine ⟨invariant.inUse, invariant.inv.keep ⟨rfl, rfl, ?_, fun _ _ => ⟨rfl, rfl⟩,
      fun _ _ => ⟨rfl, rfl⟩⟩ (invariant.inv.wf.setLocked value (.other table) item)⟩
    intro nbr
    by_cases same : nbr = item
    · simp [RplStep.apply, RplNode.onTables, NbrTables.setLocked, same]
    · simp [RplStep.apply, RplNode.onTables, NbrTables.setLocked, same]
  | removeOther table item =>
    refine ⟨invariant.inUse, invariant.inv.keep ⟨rfl, rfl, ?_, ?_, fun _ _ => ⟨rfl, rfl⟩⟩
      ((invariant.inv.wf.clearUsed (by simp)).setLocked false (.other table) item)⟩
    · intro nbr
      simp [RplStep.apply, RplNode.onTables, NbrTables.nbrTableRemove_lockedMap]
    · intro parent _
      refine ⟨?_, rfl⟩
      simp [RplStep.apply, RplNode.onTables, NbrTables.nbrTableRemove_usedMap]
  | measure linkStats clockTime =>
    exact ⟨invariant.inUse, ⟨invariant.inv.wf, invariant.inv.used, invariant.inv.locked,
      invariant.inv.routers, invariant.inv.live⟩⟩
  | reach nbr state =>
    refine ⟨invariant.inUse, invariant.inv.keep ⟨rfl, rfl, fun _ => rfl, ?_,
      fun _ _ => ⟨rfl, rfl⟩⟩ invariant.inv.wf⟩
    intro parent _
    refine ⟨rfl, ?_⟩
    by_cases same : parent = nbr
    · simp [RplStep.apply, same]
    · simp [RplStep.apply, same]

def RplNode.boot (maxNeighbors : Nat) : RplNode :=
  { tables :=
      { neighborAddrMem := ⟨maxNeighbors, fun _ => 0, fun _ => linkaddrNull⟩
        nbrTableKeys := []
        usedMap := fun _ _ => false
        lockedMap := fun _ _ => false }
    ds6Nbr := fun _ => ⟨Vector.replicate 16 0, .incomplete⟩
    rplNbr := fun _ => default
    defaultrouterlist := []
    currInstance := rplInstanceZero
    linkStats := fun _ => none
    clockTime := 0 }

theorem boot_invariant (maxNeighbors : Nat) : NodeInvariant (RplNode.boot maxNeighbors) := by
  refine ⟨⟨by simp [RplNode.boot], by simp [RplNode.boot]⟩, ⟨⟨?_, ?_, ?_, ?_⟩, ?_, ?_, rfl, ?_⟩⟩
  · exact List.nodup_nil
  · simp [RplNode.boot]
  · simp [RplNode.boot]
  · simp [RplNode.boot]
  · exact fun _ none => nomatch none
  · intro nbr
    constructor
    · exact fun isLocked => nomatch isLocked
    · exact fun none => nomatch none
  · exact fun _ none => nomatch none

theorem preferredParent_consistent (maxNeighbors : Nat) (steps : List RplStep)
    (safe : Run.Meets (RplStep.apply conf) (StepSafe conf) (RplNode.boot maxNeighbors) steps) :
    Run.Always (RplStep.apply conf) ParentConsistent (RplNode.boot maxNeighbors) steps := by
  refine Run.always_of_meets NodeInvariant ?_ ?_ steps _ (boot_invariant maxNeighbors) safe
  · exact fun node invariant => invariant.inv.consistent
  · exact fun node step invariant safe => step_invariant conf invariant step safe

theorem rplProcessDio_run (sender : LinkAddr) («from» : UipIpaddr) (dio : RplDio) (node : RplNode) :
    ∃ steps, node.rplProcessDio conf sender «from» dio = Run.final (RplStep.apply conf) node steps ∧
      (steps = [.receiveDio sender «from» dio, .updateState] ∨
        steps = [.receiveDio sender «from» dio]) := by
  unfold RplNode.rplProcessDio
  dsimp only
  by_cases inDag : (if node.currInstance.used = true then node
      else node.processDioInitDag conf dio).inDagOf dio = true
  · refine ⟨_, ?_, Or.inl rfl⟩
    simp only [Run.final, RplStep.apply, RplNode.receiveDio, if_pos inDag]
  · refine ⟨_, ?_, Or.inr rfl⟩
    simp only [Run.final, RplStep.apply, RplNode.receiveDio, if_neg inDag]

theorem rplProcessHbh_run (sender : Option Nat) (senderRank : RplRank)
    (loopDetected rankErrorSignaled : Bool) (node : RplNode) : ∃ steps,
    node.rplProcessHbh conf sender senderRank loopDetected rankErrorSignaled =
        Run.final (RplStep.apply conf) node steps ∧
      (steps = [.receiveHbh sender senderRank loopDetected rankErrorSignaled, .updateState] ∨
        steps = [.receiveHbh sender senderRank loopDetected rankErrorSignaled]) := by
  unfold RplNode.rplProcessHbh
  dsimp only
  split
  · exact ⟨_, rfl, Or.inl rfl⟩
  · exact ⟨_, rfl, Or.inr rfl⟩

def parentLladdr : LinkAddr := Vector.replicate 8 2

def otherLladdr : LinkAddr := Vector.replicate 8 3

def otherIpaddr : UipIpaddr := #v[0xfe, 0x80, 0, 0, 0, 0, 0, 0, 3, 3, 3, 3, 3, 3, 3, 3]

def childDio (version : UInt8) : RplDio :=
  { instanceId := 0
    dagId := Vector.replicate 16 1
    ocp := 1
    rank := 256
    grounded := 0
    mop := 1
    preference := 0
    version := version
    dagMaxRankinc := 1024
    dagMinHoprankinc := 128
    prefixLength := 64
    prefixFlags := RplNode.autonomousFlag
    mc := default }

def joinSteps : List RplStep :=
  [.measure (fun _ => some ⟨128, true⟩) 1, .receiveDio parentLladdr parentIpaddr (childDio 240),
    .updateState]

theorem joinSteps_consistent :
    Run.Always (RplStep.apply rplConf) ParentConsistent (RplNode.boot 4) joinSteps := by
  refine preferredParent_consistent rplConf 4 joinSteps
    ⟨trivial, fun parent => absurd rfl parent, ⟨?_, ?_⟩, trivial⟩
  · intro parent
    exact absurd (by decide +kernel) parent
  · intro nbr chosen
    have best : RplNode.selectBest rplConf (Run.final (RplStep.apply rplConf) (RplNode.boot 4)
        (joinSteps.take 2)) = some 0 := by decide +kernel
    obtain rfl : 0 = nbr := Option.some.inj (best.symm.trans chosen)
    decide +kernel

/-- The newer version of another neighbor overwrites the instance: the address of the parent stays
among the default routers. -/
theorem global_repair_keeps_default_router :
    let repaired := Run.final (RplStep.apply rplConf) (RplNode.boot 4) (joinSteps ++
      [.receiveDio otherLladdr otherIpaddr (childDio 241), .updateState])
    repaired.currInstance.dag.preferredParent = some 1 ∧
      repaired.defaultrouterlist = [otherIpaddr, parentIpaddr] ∧ ¬ ParentConsistent repaired := by
  intro repaired
  have routers : repaired.defaultrouterlist = [otherIpaddr, parentIpaddr] := by decide +kernel
  have parent : repaired.currInstance.dag.preferredParent = some 1 := by decide +kernel
  refine ⟨parent, routers, fun consistent => ?_⟩
  have one := consistent.routers
  rw [routers, parent] at one
  exact absurd (congrArg List.length one) (by decide)

end MultiPhyTsch.Rpl
