import MultiPhyTsch.Rpl.ObjectiveFunctions

/-! `rpl-neighbor.c`, `rpl-nbr-policy.c` and `rpl-dag.c`, with the functions that add neighbors. -/

namespace MultiPhyTsch.Rpl

variable (conf : RplConf)

def RplInstance.isRoot (inst : RplInstance) : Bool :=
  inst.used && inst.dag.rank == inst.minHoprankinc

namespace RplNode

variable (node : RplNode)

def isRoot : Bool := node.currInstance.isRoot

def maxAcceptableRank : Nat :=
  if node.currInstance.maxRankinc = 0 then 0xffff
  else min (node.currInstance.dag.lowestRank.toNat + node.currInstance.maxRankinc.toNat) 0xffff

def acceptableRank (rank : RplRank) : Bool :=
  rank != rplInfiniteRank && node.currInstance.minHoprankinc ≤ rank &&
    rank.toNat ≤ node.maxAcceptableRank

def rplNeighborRankViaNbr (nbr : Option Nat) : RplRank :=
  (nbr.map (node.currInstance.of.rankViaNbr conf node)).getD rplInfiniteRank

def parentCandidate (freshOnly : Bool) (node : RplNode) (nbr : Nat) : Bool :=
  node.acceptableRank (node.rplNbr nbr).rank &&
    node.currInstance.of.nbrIsAcceptableParent conf node nbr &&
    (!freshOnly || node.rplNeighborIsFresh nbr) && (!conf.nd6SendNs || node.nudReachable nbr)

def bestParent (freshOnly : Bool) (node : RplNode) : Option Nat :=
  if node.currInstance.used then
    ((node.tables.items .rplNeighbors).filter (node.parentCandidate conf freshOnly)).foldl
      (fun best nbr => node.currInstance.of.bestParent conf node best (some nbr)) none
  else none

def selectBest (node : RplNode) : Option Nat :=
  if node.isRoot then none
  else
    let best := node.bestParent conf false
    if conf.withProbing then
      if best.any node.rplNeighborIsFresh ∨ best = node.currInstance.dag.preferredParent then best
      else
        match node.bestParent conf true with
        | some bestFresh => some bestFresh
        | none => if node.currInstance.dag.preferredParent.isNone then none else best
    else best

/-- What `rpl_neighbor_select_best` does to the target of the urgent probing. -/
def selectUrgentProbing (node : RplNode) : RplNode :=
  if conf.withProbing && !node.isRoot then
    match node.bestParent conf false with
    | some best =>
      node.onDag fun dag =>
        { dag with
          urgentProbingTarget :=
            if node.rplNeighborIsFresh best then none
            else dag.urgentProbingTarget.or (some best) }
    | none => node
  else node

def setPreferredParent (nbr : Option Nat) (node : RplNode) : RplNode :=
  let old := node.currInstance.dag.preferredParent
  if old = nbr then node
  else
    let locked := node.onTables fun tables =>
      (tables.nbrTableUnlock .rplNeighbors old).nbrTableLock .rplNeighbors nbr
    let removed := locked.uipDs6DefrtRm (locked.rplNeighborGetIpaddr old)
    let added := removed.uipDs6DefrtAdd conf (removed.rplNeighborGetIpaddr nbr)
    added.onDag fun dag => { dag with preferredParent := nbr }

def updateBetterParentSince (node : RplNode) (nbr : Nat) : RplNode :=
  node.onNbr nbr fun item =>
    { item with
      betterParentSince :=
        if node.rplNeighborRankViaNbr conf (some nbr) < node.currInstance.dag.rank then
          if item.betterParentSince = 0 then node.clockTime else item.betterParentSince
        else 0 }

def rankDistance (rank1 rank2 : RplRank) : Nat := ((rank1.toNat : Int) - rank2.toNat).natAbs

def updateDagAfterRank (oldParent : Option Nat) (dag : RplDag) : RplDag :=
  { dag with
    lowestRank :=
      if oldParent.isNone || dag.rank < dag.lowestRank then dag.rank else dag.lowestRank
    lastAdvertisedRank :=
      if dag.lastAdvertisedRank ≠ rplInfiniteRank ∧ dag.rank ≠ rplInfiniteRank ∧
          rankDistance dag.rank dag.lastAdvertisedRank > conf.significantChangeThreshold then
        dag.rank
      else dag.lastAdvertisedRank
    state :=
      if dag.preferredParent = oldParent then dag.state
      else if dag.preferredParent.isNone then .initialized
      else if oldParent.isNone then .joined
      else dag.state }

variable (node : RplNode)

def updateMetricContainer : RplNode :=
  { node with
    currInstance :=
      { node.currInstance with mc := node.currInstance.of.updateMetricContainer conf node } }

def chooseParent : RplNode :=
  (node.selectUrgentProbing conf).setPreferredParent conf (node.selectBest conf)

def updateParent : RplNode :=
  let oldParent := node.currInstance.dag.preferredParent
  let chosen := node.chooseParent conf
  let ranked := chosen.onDag fun dag =>
    { dag with rank := chosen.rplNeighborRankViaNbr conf dag.preferredParent }
  let compared := (ranked.tables.items .rplNeighbors).foldl (updateBetterParentSince conf) ranked
  compared.onDag (updateDagAfterRank conf oldParent)

def rplDagUpdateState : RplNode :=
  if node.currInstance.used then
    (if node.currInstance.dag.state = .poisoning then
      (node.setPreferredParent conf none).onDag fun dag => { dag with rank := rplInfiniteRank }
    else if node.isRoot then node
    else node.updateParent conf).updateMetricContainer conf
  else node

def removeNeighbor (nbr : Nat) : RplNode :=
  (node.onDag fun dag =>
    { dag with
      urgentProbingTarget := dag.urgentProbingTarget.filter (· ≠ nbr)
      unicastDioTarget := dag.unicastDioTarget.filter (· ≠ nbr) }).onTables
    (NbrTables.nbrTableRemove .rplNeighbors nbr)

def rplNeighborRemoveAll : RplNode :=
  ((node.tables.items .rplNeighbors).foldl removeNeighbor node).rplDagUpdateState conf

end RplNode

inductive NbrTableReason where
  | rplDio (dio : RplDio)
  | rplDis
  | ipv6NdAutofill
  | undefined

namespace RplNode

/-- The neighbor of the worst rank and that rank, from `update_state` of the policy. -/
def worstRankNbr (node : RplNode) : Option Nat × RplRank :=
  (node.tables.items .ds6Neighbors).foldl
    (fun worst item =>
      let nbr := node.rplNeighborGetFromLladdr (node.tables.getLladdr (some item))
      let rank := node.rplNeighborRankViaNbr conf nbr
      if nbr ≠ node.currInstance.dag.preferredParent ∧ rank > worst.2 then (some item, rank)
      else worst) (none, 0)

def findRemovableDio (dio : RplDio) (node : RplNode) : Option Nat :=
  let worst := node.worstRankNbr conf
  let inst := node.currInstance
  if !inst.used || inst.instanceId != dio.instanceId then none
  else if (dio.rank.toNat : Int) + inst.minHoprankinc.toNat <
      worst.2.toNat - inst.minHoprankinc.toNat / 2 then worst.1
  else none

def rplNbrPolicyFindRemovable (reason : NbrTableReason) (node : RplNode) : Option Nat :=
  match reason with
  | .rplDio dio => node.findRemovableDio conf dio
  | .rplDis => (node.worstRankNbr conf).1
  | .ipv6NdAutofill => (node.worstRankNbr conf).1
  | .undefined => none

/-- The callback of `ds6_neighbors` and the one of `rpl_neighbors` on a key that is removed; the
other tables have none that reaches RPL. -/
def removeKey (key : Nat) (node : RplNode) : RplNode :=
  let node :=
    if node.tables.usedMap key .ds6Neighbors then
      node.onTables (NbrTables.nbrTableRemove .ds6Neighbors key)
    else node
  let node := if node.tables.usedMap key .rplNeighbors then node.removeNeighbor key else node
  node.onTables fun tables =>
    { tables with
      usedMap := Function.update tables.usedMap key fun _ => false
      nbrTableKeys := tables.nbrTableKeys.erase key }

def removableKey (reason : NbrTableReason) (node : RplNode) : Option Nat × RplNode :=
  match node.tables.getLladdr (node.rplNbrPolicyFindRemovable conf reason) with
  | some lladdr =>
    match node.tables.indexFromLladdr (some lladdr) with
    | some key =>
      (some key, node.onTables fun tables =>
        { tables with lockedMap := Function.update tables.lockedMap key fun _ => false })
    | none => (node.tables.leastUsedKey, node)
  | none => (none, node)

def nbrTableAllocate (reason : NbrTableReason) (node : RplNode) : Option Nat × RplNode :=
  match node.tables.neighborAddrMem.membAlloc with
  | (some key, neighborAddrMem) =>
    (some key, node.onTables fun tables => { tables with neighborAddrMem := neighborAddrMem })
  | (none, _) =>
    let (leastUsedKey, node) :=
      if conf.findRemovable then node.removableKey conf reason
      else (node.tables.leastUsedKey, node)
    (leastUsedKey, leastUsedKey.elim node fun key => node.removeKey key)

def keyOfLladdr (lladdr : Option LinkAddr) (reason : NbrTableReason) (node : RplNode) :
    Option Nat × RplNode :=
  match node.tables.indexFromLladdr lladdr with
  | some index => (some index, node)
  | none =>
    match node.nbrTableAllocate conf reason with
    | (some key, node) =>
      (some key, node.onTables fun tables =>
        { tables with
          nbrTableKeys := tables.nbrTableKeys ++ [key]
          neighborAddrMem := tables.neighborAddrMem.write key fun _ =>
            lladdr.getD linkaddrNull })
    | (none, node) => (none, node)

def nbrTableAddLladdr (table : NbrTableId) (lladdr : Option LinkAddr) (reason : NbrTableReason)
    (node : RplNode) : Option Nat × RplNode :=
  match node.keyOfLladdr conf lladdr reason with
  | (some index, node) => (some index, node.onTables (NbrTables.setUsed true table index))
  | (none, node) => (none, node)

def uipDs6NbrAdd (ipaddr : UipIpaddr) (lladdr : Option LinkAddr) (state : Ds6NbrState)
    (reason : NbrTableReason) (node : RplNode) : Option Nat × RplNode :=
  match node.nbrTableAddLladdr conf .ds6Neighbors lladdr reason with
  | (some nbr, node) =>
    (some nbr, { node with ds6Nbr := Function.update node.ds6Nbr nbr ⟨ipaddr, state⟩ })
  | (none, node) => (none, node)

/-- `rpl_icmp6_update_nbr_table`; `sender` is the address of the packet buffer. -/
def rplIcmp6UpdateNbrTable (sender : LinkAddr) («from» : UipIpaddr) (reason : NbrTableReason)
    (node : RplNode) : Option Nat × RplNode :=
  match node.uipDs6NbrLookup «from» with
  | some nbr => (some nbr, node)
  | none => node.uipDs6NbrAdd conf «from» (some sender) .reachable reason

def updateNbrFromDio («from» : UipIpaddr) (dio : RplDio) (node : RplNode) :
    Option Nat × RplNode :=
  let write (nbr : Nat) (node : RplNode) : RplNode :=
    node.onNbr nbr fun item =>
      { item with rank := dio.rank, mc := if conf.withMc then dio.mc else item.mc }
  match node.rplNeighborGetFromIpaddr «from» with
  | some nbr => (some nbr, write nbr node)
  | none =>
    match node.tables.getLladdr (node.uipDs6NbrLookup «from») with
    | none => (none, node)
    | some lladdr =>
      match node.nbrTableAddLladdr conf .rplNeighbors (some lladdr) (.rplDio dio) with
      | (some nbr, node) => (some nbr, write nbr (node.onNbr nbr fun _ => default))
      | (none, node) => (none, node)

def rplLollipopGreaterThan (a b : UInt8) : Bool :=
  if a.toNat > 127 ∧ b.toNat ≤ 127 then 256 + b.toNat - a.toNat > 16
  else (a > b && a.toNat - b.toNat < 16) || (a < b && b.toNat - a.toNat > 112)

def rplLollipopIncrement (counter : UInt8) : UInt8 :=
  if counter > 127 then counter + 1 else (counter + 1) &&& 127

def rplLocalRepair (node : RplNode) : RplNode :=
  if node.currInstance.used then
    (if node.isRoot then node
      else node.onDag fun dag => { dag with state := .initialized }).rplNeighborRemoveAll conf
  else node

def rplGlobalRepair (node : RplNode) : RplNode :=
  if node.isRoot then
    (node.onDag fun dag => { dag with version := rplLollipopIncrement dag.version }).rplLocalRepair
      conf
  else node

def autonomousFlag : UInt8 := 0x40

def prefixAccepted (prefixLen prefixFlags : UInt8) : Bool :=
  prefixLen != 0 && prefixLen ≤ 128 && prefixFlags &&& autonomousFlag != 0

/-- `init_dag`: the instance, none for a failure, which leaves it set to zeros. -/
def initDag (instanceId : UInt8) (dagId : UipIpaddr) (ocp : UInt16) (prefixLen prefixFlags : UInt8) :
    Option RplInstance :=
  match conf.supportedOfs.find? (·.ocp = ocp) with
  | some objective =>
    if prefixAccepted prefixLen prefixFlags then
      some { rplInstanceZero with
        instanceId := instanceId
        of := objective
        used := true
        dag := { rplInstanceZero.dag with
          rank := rplInfiniteRank
          lastAdvertisedRank := rplInfiniteRank
          lowestRank := rplInfiniteRank
          dagId := dagId } }
    else none
  | none => none

def initDagFromDio (dio : RplDio) : Option RplInstance :=
  (initDag conf dio.instanceId dio.dagId dio.ocp dio.prefixLength dio.prefixFlags).map fun inst =>
    { inst with
      mop := dio.mop
      mc := { inst.mc with
        type := dio.mc.type
        flags := dio.mc.flags
        aggr := dio.mc.aggr
        prec := dio.mc.prec }
      maxRankinc := dio.dagMaxRankinc
      minHoprankinc := dio.dagMinHoprankinc
      dag := { inst.dag with
        state := .initialized
        preference := dio.preference
        grounded := dio.grounded
        version := dio.version } }

def globalRepairNonRoot (dio : RplDio) (node : RplNode) : RplNode :=
  if node.isRoot then node
  else
    ({ node with
      currInstance := (initDagFromDio conf dio).getD rplInstanceZero }).rplLocalRepair conf

def adoptVersion (dio : RplDio) (node : RplNode) : RplNode :=
  if rplLollipopGreaterThan dio.version node.currInstance.dag.version then
    if node.currInstance.dag.rank = node.currInstance.minHoprankinc then
      (node.onDag fun dag => { dag with version := dio.version }).rplGlobalRepair conf
    else node.globalRepairNonRoot conf dio
  else node

def processDioFromCurrentDag (sender : LinkAddr) («from» : UipIpaddr) (dio : RplDio)
    (node : RplNode) : RplNode :=
  if dio.rank < node.currInstance.minHoprankinc then node
  else if rplLollipopGreaterThan node.currInstance.dag.version dio.version then node
  else
    match (node.adoptVersion conf dio).rplIcmp6UpdateNbrTable conf sender «from» (.rplDio dio) with
    | (some _, node) => (node.updateNbrFromDio conf «from» dio).2
    | (none, node) => node

def inDagOf (dio : RplDio) (node : RplNode) : Bool :=
  node.currInstance.used && node.currInstance.instanceId == dio.instanceId &&
    node.currInstance.dag.dagId == dio.dagId

def processDioInitDag (dio : RplDio) (node : RplNode) : RplNode :=
  if dio.mop ≠ 0 ∧ dio.mop ≠ 1 then node
  else { node with currInstance := (initDagFromDio conf dio).getD rplInstanceZero }

def receiveDio (sender : LinkAddr) («from» : UipIpaddr) (dio : RplDio) (node : RplNode) : RplNode :=
  let node := if node.currInstance.used then node else node.processDioInitDag conf dio
  if node.inDagOf dio then node.processDioFromCurrentDag conf sender «from» dio else node

def rplProcessDio (sender : LinkAddr) («from» : UipIpaddr) (dio : RplDio) (node : RplNode) :
    RplNode :=
  let node := if node.currInstance.used then node else node.processDioInitDag conf dio
  if node.inDagOf dio then
    (node.processDioFromCurrentDag conf sender «from» dio).rplDagUpdateState conf
  else node

def receiveHbh (sender : Option Nat) (senderRank : RplRank)
    (loopDetected rankErrorSignaled : Bool) (node : RplNode) : RplNode :=
  let node :=
    if loopDetected && node.currInstance.used then
      node.onDag fun dag => { dag with unicastDioTarget := sender }
    else node
  match rankErrorSignaled, sender with
  | true, some nbr => node.onNbr nbr fun item => { item with rank := senderRank }
  | _, _ => node

def rplProcessHbh (sender : Option Nat) (senderRank : RplRank)
    (loopDetected rankErrorSignaled : Bool) (node : RplNode) : RplNode :=
  let node := node.receiveHbh sender senderRank loopDetected rankErrorSignaled
  if rankErrorSignaled && sender.isSome then node.rplDagUpdateState conf else node

/-- What sets the state in `rpl_dag_poison_and_leave`, `rpl_dag_periodic` and after a DAO-NACK. -/
def rplDagPoisonAndLeave (node : RplNode) : RplNode :=
  node.onDag fun dag => { dag with state := .poisoning }

def rplDagLeave (node : RplNode) : RplNode :=
  let left := { node with linkStats := fun _ => none }.rplNeighborRemoveAll conf
  { left with currInstance := { left.currInstance with used := false } }

def rplDagInitRoot (instanceId : UInt8) (dagId : UipIpaddr) (prefixLen prefixFlags : UInt8)
    (node : RplNode) : RplNode :=
  let inst := node.currInstance
  let version :=
    if inst.used && inst.dag.dagId == dagId then rplLollipopIncrement inst.dag.version else 240
  let node := if inst.used then node.rplDagLeave conf else node
  let inst := (initDag conf instanceId dagId conf.ofOcp prefixLen prefixFlags).getD rplInstanceZero
  { node with
    currInstance :=
      { inst with
        mop := conf.mopDefault
        maxRankinc := conf.maxRankinc
        minHoprankinc := conf.minHoprankinc
        dag := { inst.dag with
          preference := conf.preference
          grounded := conf.grounded
          version := version
          rank := conf.minHoprankinc
          state := .reachable } } }

end RplNode

theorem foldl_some_mem {α : Type} {pick : Option α → α → Option α}
    (one : ∀ best item chosen, pick best item = some chosen → best = some chosen ∨ chosen = item)
    (items : List α) (best : Option α) (chosen : α) : items.foldl pick best = some chosen →
      best = some chosen ∨ chosen ∈ items := by
  refine List.foldlRecOn (motive := fun now =>
    now = some chosen → best = some chosen ∨ chosen ∈ items) _ _ Or.inl ?_
  intro now before item member found
  rcases one now item chosen found with earlier | rfl
  · exact before earlier
  · exact Or.inr member

end MultiPhyTsch.Rpl
