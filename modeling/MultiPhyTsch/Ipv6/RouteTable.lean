import MultiPhyTsch.Rpl.Neighbors

/-! The routing table of `uip-ds6-route.c`. A route is on the list of all routes and, through a
block of its own, on the list of its next hop, which is an item of the neighbor table `nbr_routes`.
The loops that empty a list run at most once for each element it has. -/

namespace MultiPhyTsch.Ds6

open Rpl

def nbrRoutesTable : NbrTableId := .other (Fin.last 5)

structure RouteConf where
  routeNb : Nat
  removeLeastRecentlyUsed : Bool

structure Route where
  neighborRoutes : Option Nat
  ipaddr : UipIpaddr
  length : UInt8
deriving DecidableEq, Repr

instance : Inhabited Route := ⟨⟨none, Vector.replicate 16 0, 0⟩⟩

/-- The tables of neighbors, with the addresses in `ds6_neighbors` and the lists in `nbr_routes`,
and the pools and the list of routes. A block of `neighborroutememb` points to a route. -/
structure RouteState where
  tables : NbrTables
  ds6Nbr : Nat → UipIpaddr
  routeList : Nat → List Nat
  routememb : Memb Route
  neighborroutememb : Memb (Option Nat)
  routelist : List Nat
  numRoutes : Int

def listPush (list : List Nat) (item : Nat) : List Nat := item :: listRemove list item

namespace RouteState

def route (state : RouteState) (r : Nat) : Route := state.routememb.mem r

def onTables (change : NbrTables → NbrTables) (state : RouteState) : RouteState :=
  { state with tables := change state.tables }

def uipDs6NbrLookup (ipaddr : UipIpaddr) (state : RouteState) : Option Nat :=
  (state.tables.items .ds6Neighbors).find? fun item => state.ds6Nbr item = ipaddr

def uipDs6NbrLladdrFromIpaddr (ipaddr : UipIpaddr) (state : RouteState) : Option LinkAddr :=
  state.tables.getLladdr (state.uipDs6NbrLookup ipaddr)

def uipDs6RouteNexthop (r : Nat) (state : RouteState) : Option UipIpaddr :=
  (state.tables.getFromLladdr .ds6Neighbors
    (state.tables.getLladdr (state.route r).neighborRoutes)).map state.ds6Nbr

/-- `uip_ipaddr_prefixcmp` compares whole bytes; what lies behind an address is not compared. -/
def prefixcmp (one two : UipIpaddr) (length : UInt8) : Bool :=
  one.toList.take (length.toNat / 8) = two.toList.take (length.toNat / 8)

/-- The loop of `uip_ds6_route_lookup`: the last of the longest matches, the first one of all 128
bits. -/
def lookupFrom (addr : UipIpaddr) (state : RouteState) : List Nat → Option Nat → UInt8 → Option Nat
  | [], foundRoute, _ => foundRoute
  | r :: rest, foundRoute, longestmatch =>
    if (state.route r).length ≥ longestmatch ∧
        prefixcmp addr (state.route r).ipaddr (state.route r).length then
      if (state.route r).length = 128 then some r
      else lookupFrom addr state rest (some r) (state.route r).length
    else lookupFrom addr state rest foundRoute longestmatch

def foundRoute (addr : UipIpaddr) (state : RouteState) : Option Nat :=
  lookupFrom addr state state.routelist none 0

def uipDs6RouteLookup (addr : UipIpaddr) (state : RouteState) : Option Nat × RouteState :=
  match state.foundRoute addr with
  | some r =>
    (some r,
      if state.routelist.head? = some r then state
      else { state with routelist := listPush state.routelist r })
  | none => (none, state)

def uipDs6RouteRm (route : Option Nat) (state : RouteState) : RouteState :=
  match route with
  | some r =>
    match (state.route r).neighborRoutes with
    | some routes =>
      let neighborRoute := (state.routeList routes).find? fun block =>
        state.neighborroutememb.mem block = some r
      let list := neighborRoute.elim (state.routeList routes) (listRemove (state.routeList routes))
      { state with
        routelist := listRemove state.routelist r
        routeList := Function.update state.routeList routes list
        tables :=
          if list = [] then state.tables.nbrTableRemove nbrRoutesTable routes else state.tables
        routememb := state.routememb.membFree r
        neighborroutememb :=
          neighborRoute.elim state.neighborroutememb state.neighborroutememb.membFree
        numRoutes := state.numRoutes - 1 }
    | none => state
  | none => state

def rmRoutesFrom : Nat → Nat → RouteState → RouteState
  | 0, _, state => state
  | fuel + 1, routes, state =>
    match (state.routeList routes).head? with
    | some block =>
      rmRoutesFrom fuel routes (state.uipDs6RouteRm (state.neighborroutememb.mem block))
    | none => state

def rmRoutelist (routes : Option Nat) (state : RouteState) : RouteState :=
  match routes with
  | some routes =>
    (rmRoutesFrom (state.routeList routes).length routes state).onTables
      (NbrTables.nbrTableRemove nbrRoutesTable routes)
  | none => state

def uipDs6RouteRmByNexthop (nexthop : UipIpaddr) (state : RouteState) : RouteState :=
  state.rmRoutelist
    (state.tables.getFromLladdr nbrRoutesTable (state.uipDs6NbrLladdrFromIpaddr nexthop))

/-- `remove_key`. Of the callbacks only that of `nbr_routes` is here; those of the other tables
remove the item from their own table, which the function does in any case. -/
def removeKey (key : Nat) (state : RouteState) : RouteState :=
  let state := if state.tables.usedMap key nbrRoutesTable then state.rmRoutelist (some key) else state
  state.onTables fun tables =>
    { tables with
      usedMap := Function.update tables.usedMap key fun _ => false
      nbrTableKeys := tables.nbrTableKeys.erase key }

/-- `nbr_table_allocate`; `victim` is the key that the replacement settles on. -/
def nbrTableAllocate (victim : Option Nat) (state : RouteState) : Option Nat × RouteState :=
  match state.tables.neighborAddrMem.membAlloc with
  | (some key, neighborAddrMem) =>
    (some key, state.onTables fun tables => { tables with neighborAddrMem := neighborAddrMem })
  | (none, _) => (victim, victim.elim state fun key => state.removeKey key)

def keyOfLladdr (lladdr : LinkAddr) (victim : Option Nat) (state : RouteState) :
    Option Nat × RouteState :=
  match state.tables.indexFromLladdr (some lladdr) with
  | some index => (some index, state)
  | none =>
    match state.nbrTableAllocate victim with
    | (some key, state) =>
      (some key, state.onTables fun tables =>
        { tables with
          nbrTableKeys := tables.nbrTableKeys ++ [key]
          neighborAddrMem := tables.neighborAddrMem.write key fun _ => lladdr })
    | (none, state) => (none, state)

/-- `nbr_table_add_lladdr` for an item of `nbr_routes`, with the empty list it gets next. -/
def addNextHop (lladdr : LinkAddr) (victim : Option Nat) (state : RouteState) :
    Option Nat × RouteState :=
  match state.keyOfLladdr lladdr victim with
  | (some index, state) =>
    (some index, { state with
      routeList := Function.update state.routeList index []
      tables := state.tables.setUsed true nbrRoutesTable index })
  | (none, state) => (none, state)

/-- `nbr_table_add_lladdr` for a neighbor of the cache, with the address it gets next. -/
def uipDs6NbrAdd (ipaddr : UipIpaddr) (lladdr : LinkAddr) (victim : Option Nat)
    (state : RouteState) : RouteState :=
  match state.keyOfLladdr lladdr victim with
  | (some index, state) =>
    { state with
      ds6Nbr := Function.update state.ds6Nbr index ipaddr
      tables := state.tables.setUsed true .ds6Neighbors index }
  | (none, state) => state

def linkRoute (ipaddr : UipIpaddr) (length : UInt8) (routes : Nat) (state : RouteState) :
    Option Nat × RouteState :=
  match state.routememb.membAlloc with
  | (none, _) => (none, state)
  | (some r, routememb) =>
    let state := { state with
      routememb := routememb, routelist := listPush state.routelist r }
    match state.neighborroutememb.membAlloc with
    | (none, _) => (none, { state with routememb := state.routememb.membFree r })
    | (some block, neighborroutememb) =>
      (some r, { state with
        neighborroutememb := neighborroutememb.write block fun _ => some r
        routeList := Function.update state.routeList routes
          (listAdd (state.routeList routes) block)
        routememb := state.routememb.write r fun _ => ⟨some routes, ipaddr, length⟩
        numRoutes := state.numRoutes + 1
        tables := state.tables.setLocked true nbrRoutesTable routes })

def insertRoute (conf : RouteConf) (victim : Option Nat) (ipaddr : UipIpaddr) (length : UInt8)
    (lladdr : LinkAddr) (state : RouteState) : Option Nat × RouteState :=
  let full : Bool := state.numRoutes = conf.routeNb
  let oldest := if conf.removeLeastRecentlyUsed then state.routelist.getLast? else none
  if full && oldest.isNone then (none, state)
  else
    let state := if full then state.uipDs6RouteRm oldest else state
    match state.tables.getFromLladdr nbrRoutesTable (some lladdr) with
    | some routes => state.linkRoute ipaddr length routes
    | none =>
      match state.addNextHop lladdr victim with
      | (some routes, state) => state.linkRoute ipaddr length routes
      | (none, state) => (none, state)

def uipDs6RouteAdd (conf : RouteConf) (victim : Option Nat) (ipaddr : UipIpaddr) (length : UInt8)
    (nexthop : UipIpaddr) (state : RouteState) : Option Nat × RouteState :=
  match state.uipDs6NbrLladdrFromIpaddr nexthop with
  | none => (none, state)
  | some lladdr =>
    match state.uipDs6RouteLookup ipaddr with
    | (some r, state) =>
      if state.uipDs6RouteNexthop r = some nexthop then (some r, state)
      else (state.uipDs6RouteRm (some r)).insertRoute conf victim ipaddr length lladdr
    | (none, state) => state.insertRoute conf victim ipaddr length lladdr

def init (conf : RouteConf) (maxNeighbors : Nat) : RouteState :=
  { tables :=
      { neighborAddrMem := ⟨maxNeighbors, fun _ => 0, fun _ => linkaddrNull⟩
        nbrTableKeys := []
        usedMap := fun _ _ => false
        lockedMap := fun _ _ => false }
    ds6Nbr := fun _ => Vector.replicate 16 0
    routeList := fun _ => []
    routememb := ⟨conf.routeNb, fun _ => 0, fun _ => default⟩
    neighborroutememb := ⟨conf.routeNb, fun _ => 0, fun _ => none⟩
    routelist := []
    numRoutes := 0 }

end RouteState

/-- The calls that reach the routes. The neighbor table evicts a key where one of them, or another
table, adds an address and no block is free. -/
inductive RouteStep where
  | add (ipaddr : UipIpaddr) (length : UInt8) (nexthop : UipIpaddr) (victim : Option Nat)
  | lookup (addr : UipIpaddr)
  | rm (route : Option Nat)
  | rmByNexthop (nexthop : UipIpaddr)
  | neighborAdd (ipaddr : UipIpaddr) (lladdr : LinkAddr) (victim : Option Nat)
  | tableAdd (table : NbrTableId) (lladdr : LinkAddr) (victim : Option Nat)
  | tableRemove (table : NbrTableId) (item : Nat)
  | tableLock (table : NbrTableId) (item : Nat) (locked : Bool)

namespace RouteStep

def apply (conf : RouteConf) (state : RouteState) : RouteStep → RouteState
  | add ipaddr length nexthop victim =>
    (state.uipDs6RouteAdd conf victim ipaddr length nexthop).2
  | lookup addr => (state.uipDs6RouteLookup addr).2
  | rm route => state.uipDs6RouteRm route
  | rmByNexthop nexthop => state.uipDs6RouteRmByNexthop nexthop
  | neighborAdd ipaddr lladdr victim => state.uipDs6NbrAdd ipaddr lladdr victim
  | tableAdd table lladdr victim =>
    match state.keyOfLladdr lladdr victim with
    | (some index, state) => state.onTables (NbrTables.setUsed true table index)
    | (none, state) => state
  | tableRemove table item => state.onTables (NbrTables.nbrTableRemove table item)
  | tableLock table item locked => state.onTables (NbrTables.setLocked locked table item)

/-- A route that is removed is one of the table, a key that is evicted is one of the keys, and
nobody else has the table `nbr_routes`. -/
def Valid (state : RouteState) : RouteStep → Prop
  | add _ _ _ victim => ∀ key ∈ victim, key ∈ state.tables.nbrTableKeys
  | rm route => ∀ r ∈ route, r ∈ state.routelist
  | neighborAdd _ _ victim => ∀ key ∈ victim, key ∈ state.tables.nbrTableKeys
  | tableAdd table _ victim => table ≠ nbrRoutesTable ∧
      ∀ key ∈ victim, key ∈ state.tables.nbrTableKeys
  | tableRemove table _ => table ≠ nbrRoutesTable
  | tableLock table _ _ => table ≠ nbrRoutesTable
  | _ => True

end RouteStep

end MultiPhyTsch.Ds6
