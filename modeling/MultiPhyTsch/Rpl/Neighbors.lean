import MultiPhyTsch.Rpl.Types

/-! The neighbor tables and the default routers: the parts of `nbr-table.c`, `uip-ds6-nbr.c` and
`uip-ds6-route.c` that do not add neighbors. -/

namespace MultiPhyTsch.Rpl

namespace NbrTables

variable (tables : NbrTables)

def indexFromLladdr (lladdr : Option LinkAddr) : Option Nat :=
  tables.nbrTableKeys.find? fun key =>
    tables.neighborAddrMem.mem key = lladdr.getD linkaddrNull

def items (table : NbrTableId) : List Nat :=
  tables.nbrTableKeys.filter fun key => tables.usedMap key table

def getFromLladdr (table : NbrTableId) (lladdr : Option LinkAddr) :
    Option Nat :=
  (tables.indexFromLladdr lladdr).filter fun item => tables.usedMap item table

def getLladdr (item : Option Nat) : Option LinkAddr :=
  item.map tables.neighborAddrMem.mem

def setUsed (value : Bool) (table : NbrTableId) (item : Nat) (tables : NbrTables) : NbrTables :=
  { tables with
    usedMap := Function.update tables.usedMap item
      (Function.update (tables.usedMap item) table value) }

def setLocked (value : Bool) (table : NbrTableId) (item : Nat) (tables : NbrTables) : NbrTables :=
  { tables with
    lockedMap := Function.update tables.lockedMap item
      (Function.update (tables.lockedMap item) table value) }

variable (table : NbrTableId)

def nbrTableRemove (item : Nat) (tables : NbrTables) : NbrTables :=
  (tables.setUsed false table item).setLocked false table item

theorem nbrTableRemove_usedMap (item other : Nat) (place : NbrTableId) (tables : NbrTables) :
    (nbrTableRemove table item tables).usedMap other place =
      if other = item ∧ place = table then false else tables.usedMap other place := by
  by_cases same : other = item
  · by_cases here : place = table <;> simp [nbrTableRemove, setUsed, setLocked, same, here]
  · simp [nbrTableRemove, setUsed, setLocked, same]

theorem nbrTableRemove_lockedMap (item other : Nat) (place : NbrTableId) (tables : NbrTables) :
    (nbrTableRemove table item tables).lockedMap other place =
      if other = item ∧ place = table then false else tables.lockedMap other place := by
  by_cases same : other = item
  · by_cases here : place = table <;> simp [nbrTableRemove, setUsed, setLocked, same, here]
  · simp [nbrTableRemove, setUsed, setLocked, same]

def nbrTableLock (item : Option Nat) (tables : NbrTables) : NbrTables :=
  item.elim tables fun item => tables.setLocked true table item

def nbrTableUnlock (item : Option Nat) (tables : NbrTables) : NbrTables :=
  item.elim tables fun item => tables.setLocked false table item

def isLocked (tables : NbrTables) (item : Nat) : Bool :=
  allTables.any (tables.lockedMap item)

def usedCount (tables : NbrTables) (item : Nat) : Nat :=
  (allTables.filter (tables.usedMap item)).length

def leastUsedKey (tables : NbrTables) : Option Nat :=
  (tables.nbrTableKeys.filter fun key => !tables.isLocked key).foldl
    (fun least key =>
      match least with
      | some best => if tables.usedCount key < tables.usedCount best then some key else some best
      | none => some key) none

end NbrTables

namespace RplNode

variable (node : RplNode)

def uipDs6NbrLookup (ipaddr : UipIpaddr) : Option Nat :=
  (node.tables.items .ds6Neighbors).find? fun item => (node.ds6Nbr item).ipaddr = ipaddr

def uipDs6NbrIpaddrFromLladdr (lladdr : Option LinkAddr) : Option UipIpaddr :=
  (node.tables.getFromLladdr .ds6Neighbors lladdr).map fun item => (node.ds6Nbr item).ipaddr

def rplNeighborGetLladdr (nbr : Option Nat) : Option LinkAddr :=
  node.tables.getLladdr nbr

def rplNeighborGetIpaddr (nbr : Option Nat) : Option UipIpaddr :=
  node.uipDs6NbrIpaddrFromLladdr (node.rplNeighborGetLladdr nbr)

def rplNeighborGetFromLladdr (lladdr : Option LinkAddr) : Option Nat :=
  node.tables.getFromLladdr .rplNeighbors lladdr

def rplNeighborGetFromIpaddr (ipaddr : UipIpaddr) : Option Nat :=
  node.rplNeighborGetFromLladdr (node.tables.getLladdr (node.uipDs6NbrLookup ipaddr))

def rplNeighborGetLinkStats (nbr : Nat) : Option LinkStats :=
  node.linkStats (node.tables.neighborAddrMem.mem nbr)

def rplNeighborIsFresh (nbr : Nat) : Bool :=
  (node.rplNeighborGetLinkStats nbr).any LinkStats.isFresh

/-- The entry of the IPv6 neighbor cache that `rpl_get_ds6_nbr` finds is reachable. -/
def nudReachable (nbr : Nat) : Bool :=
  (node.tables.getFromLladdr .ds6Neighbors (node.rplNeighborGetLladdr (some nbr))).any
    fun item => (node.ds6Nbr item).state == .reachable

def uipDs6DefrtRm (ipaddr : Option UipIpaddr) (node : RplNode) : RplNode :=
  ipaddr.elim node fun ipaddr =>
    { node with defaultrouterlist := node.defaultrouterlist.erase ipaddr }

def uipDs6DefrtAdd (conf : RplConf) (ipaddr : Option UipIpaddr) (node : RplNode) : RplNode :=
  ipaddr.elim node fun ipaddr =>
    if ipaddr ∈ node.defaultrouterlist then node
    else if node.defaultrouterlist.length < conf.defrtNb then
      { node with defaultrouterlist := ipaddr :: node.defaultrouterlist }
    else node

def onTables (change : NbrTables → NbrTables) (node : RplNode) : RplNode :=
  { node with tables := change node.tables }

def onDag (change : RplDag → RplDag) (node : RplNode) : RplNode :=
  { node with currInstance := { node.currInstance with dag := change node.currInstance.dag } }

def onNbr (nbr : Nat) (change : RplNbr → RplNbr) (node : RplNode) : RplNode :=
  { node with rplNbr := Function.update node.rplNbr nbr (change (node.rplNbr nbr)) }

end RplNode

def routersAdd (conf : RplConf) (routers : List UipIpaddr) (ipaddr : Option UipIpaddr) :
    List UipIpaddr :=
  ipaddr.elim routers fun ipaddr =>
    if ipaddr ∈ routers then routers
    else if routers.length < conf.defrtNb then ipaddr :: routers else routers

end MultiPhyTsch.Rpl
