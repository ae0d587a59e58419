import MultiPhyTsch.Tsch.Types

/-! Data types of RPL Lite (`rpl-types.h`), of the neighbor tables it shares with the rest of the
stack (`nbr-table.c`, `uip-ds6-nbr.c`) and of the list of default routers (`uip-ds6-route.c`). A
neighbor is the index of its key, which is also the index of its items in all tables. Timers, the
messages sent and the addresses configured are left out. -/

namespace MultiPhyTsch.Rpl

abbrev UipIpaddr := Vector UInt8 16

abbrev RplRank := UInt16

def rplInfiniteRank : RplRank := 0xffff

inductive NbrTableId where
  | ds6Neighbors
  | rplNeighbors
  | other (index : Fin 6)
deriving DecidableEq, Repr

def allTables : List NbrTableId :=
  [.ds6Neighbors, .rplNeighbors, .other 0, .other 1, .other 2, .other 3, .other 4, .other 5]

structure NbrTables where
  neighborAddrMem : Memb LinkAddr
  nbrTableKeys : List Nat
  usedMap : Nat → NbrTableId → Bool
  lockedMap : Nat → NbrTableId → Bool

inductive Ds6NbrState where
  | incomplete
  | reachable
  | stale
  | delay
  | probe
deriving DecidableEq, Repr, Inhabited

structure Ds6Nbr where
  ipaddr : UipIpaddr
  state : Ds6NbrState
deriving DecidableEq, Repr

def rplDagMcNone : UInt8 := 0

def rplDagMcEnergy : UInt8 := 2

def rplDagMcEtx : UInt8 := 7

/-- `rpl_metric_container_t`. The two bytes of the union are those of `etx`; the second is
`energy.energy_est`. -/
structure RplMetricContainer where
  type : UInt8
  flags : UInt8
  aggr : UInt8
  prec : UInt8
  length : UInt8
  etx : UInt16
deriving DecidableEq, Repr

instance : Inhabited RplMetricContainer := ⟨⟨0, 0, 0, 0, 0, 0⟩⟩

def RplMetricContainer.energyEst (mc : RplMetricContainer) : UInt16 := mc.etx >>> 8

structure RplNbr where
  betterParentSince : UInt32
  mc : RplMetricContainer
  rank : RplRank
deriving DecidableEq, Repr

instance : Inhabited RplNbr := ⟨⟨0, default, 0⟩⟩

inductive RplOf where
  | of0
  | mrhof
deriving DecidableEq, Repr

def RplOf.ocp : RplOf → UInt16
  | of0 => 0
  | mrhof => 1

inductive RplDagState where
  | initialized
  | joined
  | reachable
  | poisoning
deriving DecidableEq, Repr

structure RplDag where
  dagId : UipIpaddr
  preferredParent : Option Nat
  lowestRank : RplRank
  rank : RplRank
  lastAdvertisedRank : RplRank
  version : UInt8
  grounded : UInt8
  preference : UInt8
  state : RplDagState
  unicastDioTarget : Option Nat
  urgentProbingTarget : Option Nat
deriving DecidableEq, Repr

structure RplInstance where
  mc : RplMetricContainer
  of : RplOf
  used : Bool
  instanceId : UInt8
  mop : UInt8
  maxRankinc : RplRank
  minHoprankinc : RplRank
  dag : RplDag
deriving DecidableEq, Repr

/-- `curr_instance` after `memset`; `of`, which is NULL then, is not read before it is set. -/
def rplInstanceZero : RplInstance :=
  { mc := default
    of := .of0
    used := false
    instanceId := 0
    mop := 0
    maxRankinc := 0
    minHoprankinc := 0
    dag :=
      { dagId := Vector.replicate 16 0
        preferredParent := none
        lowestRank := 0
        rank := 0
        lastAdvertisedRank := 0
        version := 0
        grounded := 0
        preference := 0
        state := .initialized
        unicastDioTarget := none
        urgentProbingTarget := none } }

structure RplDio where
  instanceId : UInt8
  dagId : UipIpaddr
  ocp : UInt16
  rank : RplRank
  grounded : UInt8
  mop : UInt8
  preference : UInt8
  version : UInt8
  dagMaxRankinc : RplRank
  dagMinHoprankinc : RplRank
  prefixLength : UInt8
  prefixFlags : UInt8
  mc : RplMetricContainer
deriving DecidableEq, Repr

structure LinkStats where
  etx : UInt16
  isFresh : Bool
deriving DecidableEq, Repr

structure RplConf where
  supportedOfs : List RplOf
  ofOcp : UInt16
  etxDivisor : Nat
  maxLinkMetric : Nat
  maxPathCost : Nat
  squaredEtx : Bool
  withMc : Bool
  withProbing : Bool
  nd6SendNs : Bool
  findRemovable : Bool
  dagMc : UInt8
  timeThreshold : UInt32
  significantChangeThreshold : Nat
  mopDefault : UInt8
  maxRankinc : RplRank
  minHoprankinc : RplRank
  preference : UInt8
  grounded : UInt8
  defrtNb : Nat
  defrtNb_pos : 0 < defrtNb

/-- The state of a node: the tables of neighbors with the items of two of them, the default
routers, `curr_instance`, the link statistics and the time. -/
structure RplNode where
  tables : NbrTables
  ds6Nbr : Nat → Ds6Nbr
  rplNbr : Nat → RplNbr
  defaultrouterlist : List UipIpaddr
  currInstance : RplInstance
  linkStats : LinkAddr → Option LinkStats
  clockTime : UInt32

end MultiPhyTsch.Rpl
