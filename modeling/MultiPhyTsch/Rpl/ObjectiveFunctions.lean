import MultiPhyTsch.Rpl.Neighbors

/-! The objective functions `rpl-of0.c` and `rpl-mrhof.c`. -/

namespace MultiPhyTsch.Rpl

variable (conf : RplConf) (node : RplNode)

def nbrLinkMetric (nbr : Nat) : UInt16 :=
  ((node.rplNeighborGetLinkStats nbr).map LinkStats.etx).getD 0xffff

def cappedSum (rank increase : UInt16) : UInt16 :=
  UInt16.ofNat (min (rank.toNat + increase.toNat) 0xffff)

/-- The frame of both `best_parent` functions: `better` decides between two acceptable neighbors. -/
def bestAcceptable (acceptable : Nat → Bool) (better : Nat → Nat → Option Nat)
    (nbr1 nbr2 : Option Nat) : Option Nat :=
  match nbr1.filter acceptable, nbr2.filter acceptable with
  | some nbr1, some nbr2 => better nbr1 nbr2
  | some nbr1, none => some nbr1
  | none, nbr2 => nbr2

namespace Of0

variable (nbr : Nat)

def stepOfRank : Int :=
  (3 * (nbrLinkMetric node nbr).toNat) / conf.etxDivisor - 2

/-- `RANK_FACTOR` is 1 and `RANK_STRETCH` 0. The product is computed as an `int` and returned
with 16 bits. -/
def nbrRankIncrease : UInt16 :=
  UInt16.ofInt (stepOfRank conf node nbr * node.currInstance.minHoprankinc.toNat)

def nbrPathCost : UInt16 :=
  cappedSum (node.rplNbr nbr).rank (nbrLinkMetric node nbr)

def rankViaNbr : RplRank :=
  cappedSum (node.rplNbr nbr).rank (nbrRankIncrease conf node nbr)

def nbrIsAcceptableParent : Bool :=
  1 ≤ stepOfRank conf node nbr ∧ stepOfRank conf node nbr ≤ 9

def bestParent : Option Nat → Option Nat → Option Nat :=
  bestAcceptable (nbrIsAcceptableParent conf node) fun nbr1 nbr2 =>
    if nbrPathCost node nbr1 ≠ nbrPathCost node nbr2 then
      if nbrPathCost node nbr1 < nbrPathCost node nbr2 then some nbr1 else some nbr2
    else if some nbr1 = node.currInstance.dag.preferredParent ∨
        some nbr2 = node.currInstance.dag.preferredParent then
      node.currInstance.dag.preferredParent
    else if nbrLinkMetric node nbr1 < nbrLinkMetric node nbr2 then some nbr1 else some nbr2

def updateMetricContainer : RplMetricContainer :=
  { node.currInstance.mc with type := rplDagMcNone }

end Of0

namespace Mrhof

def linkMetricToRank (etx : UInt16) : UInt16 :=
  if conf.squaredEtx then UInt16.ofNat (min (etx.toNat * etx.toNat / conf.etxDivisor) 0xffff)
  else etx

def pathCostBase (nbr : Nat) : UInt16 :=
  if conf.withMc then
    if node.currInstance.mc.type = rplDagMcEtx then (node.rplNbr nbr).mc.etx
    else if node.currInstance.mc.type = rplDagMcEnergy then (node.rplNbr nbr).mc.energyEst <<< 8
    else (node.rplNbr nbr).rank
  else (node.rplNbr nbr).rank

def nbrPathCost (nbr : Option Nat) : UInt16 :=
  match nbr with
  | some nbr =>
    cappedSum (pathCostBase conf node nbr) (linkMetricToRank conf (nbrLinkMetric node nbr))
  | none => 0xffff

def rankViaNbr (nbr : Nat) : RplRank :=
  max (cappedSum (node.rplNbr nbr).rank node.currInstance.minHoprankinc)
    (nbrPathCost conf node (some nbr))

def nbrHasUsableLink (nbr : Nat) : Bool := (nbrLinkMetric node nbr).toNat ≤ conf.maxLinkMetric

def nbrIsAcceptableParent (nbr : Nat) : Bool :=
  nbrHasUsableLink conf node nbr && (nbrPathCost conf node (some nbr)).toNat ≤ conf.maxPathCost

def rankThreshold : Nat := if conf.squaredEtx then 384 else 192

def withinHysteresis (nbr : Nat) : Bool :=
  let pathCost := nbrPathCost conf node (some nbr)
  let parentPathCost := nbrPathCost conf node node.currInstance.dag.preferredParent
  let since := (node.rplNbr nbr).betterParentSince
  pathCost.toNat + rankThreshold conf > parentPathCost.toNat &&
    (since == 0 || node.clockTime - since ≤ conf.timeThreshold)

def bestParent : Option Nat → Option Nat → Option Nat :=
  bestAcceptable (nbrIsAcceptableParent conf node) fun nbr1 nbr2 =>
    if some nbr1 = node.currInstance.dag.preferredParent ∧ withinHysteresis conf node nbr2 then
      some nbr1
    else if some nbr2 = node.currInstance.dag.preferredParent ∧ withinHysteresis conf node nbr1 then
      some nbr2
    else if nbrPathCost conf node (some nbr1) < nbrPathCost conf node (some nbr2) then some nbr1
    else some nbr2

def writePathCost (pathCost : UInt16) (mains : Bool) (mc : RplMetricContainer) :
    RplMetricContainer :=
  if mc.type = rplDagMcEtx then { mc with length := 2, etx := pathCost }
  else if mc.type = rplDagMcEnergy then
    { mc with length := 2, etx := (if mains then (0 : UInt16) else 2) ||| (pathCost >>> 8) <<< 8 }
  else mc

def updateMetricContainer : RplMetricContainer :=
  let inst := node.currInstance
  if conf.withMc then
    if !inst.used then inst.mc
    else if inst.dag.rank = inst.minHoprankinc then
      writePathCost inst.dag.rank true
        { inst.mc with type := conf.dagMc, flags := 0, aggr := 0, prec := 0 }
    else writePathCost (nbrPathCost conf node inst.dag.preferredParent) false inst.mc
  else { inst.mc with type := rplDagMcNone }

end Mrhof

namespace RplOf

def nbrIsAcceptableParent : RplOf → Nat → Bool
  | of0 => Of0.nbrIsAcceptableParent conf node
  | mrhof => Mrhof.nbrIsAcceptableParent conf node

def rankViaNbr : RplOf → Nat → RplRank
  | of0 => Of0.rankViaNbr conf node
  | mrhof => Mrhof.rankViaNbr conf node

def bestParent : RplOf → Option Nat → Option Nat → Option Nat
  | of0 => Of0.bestParent conf node
  | mrhof => Mrhof.bestParent conf node

def updateMetricContainer : RplOf → RplMetricContainer
  | of0 => Of0.updateMetricContainer node
  | mrhof => Mrhof.updateMetricContainer conf node

end RplOf

end MultiPhyTsch.Rpl
