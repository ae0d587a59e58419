import MultiPhyTsch.Lib.ReadLoop
import MultiPhyTsch.Rpl.Dag

/-! The DIO as a message (`rpl-icmp6.c`): the bytes that `rpl_icmp6_dio_output` writes and the
`rpl_dio_t` that `dio_input` reads. -/

namespace MultiPhyTsch.Rpl

open Reads (element elements)

def rplOptionPad1 : UInt8 := 0

def rplOptionDagMetricContainer : UInt8 := 2

def rplOptionRouteInfo : UInt8 := 3

def rplOptionDagConf : UInt8 := 4

def rplOptionPrefixInfo : UInt8 := 8

def rplDioGrounded : UInt8 := 0x80

def rplDioMopMask : UInt8 := 0x38

def rplDioPreferenceMask : UInt8 := 0x07

def rplMulticastAddr : UipIpaddr := #v[0xff, 0x02, 0, 0, 0, 0, 0, 0, 0, 0, 0, 0, 0, 0, 0, 0x1a]

structure RplPrefix where
  address : UipIpaddr
  lifetime : UInt32
  length : UInt8
  flags : UInt8
deriving DecidableEq, Repr

def rplPrefixZero : RplPrefix := ⟨Vector.replicate 16 0, 0, 0, 0⟩

structure RplDioMessage where
  dagId : UipIpaddr
  ocp : UInt16
  rank : RplRank
  grounded : UInt8
  mop : UInt8
  preference : UInt8
  version : UInt8
  instanceId : UInt8
  dtsn : UInt8
  dagIntdoubl : UInt8
  dagIntmin : UInt8
  dagRedund : UInt8
  defaultLifetime : UInt8
  lifetimeUnit : UInt16
  dagMaxRankinc : RplRank
  dagMinHoprankinc : RplRank
  destinationPrefix : RplPrefix
  prefixInfo : RplPrefix
  mc : RplMetricContainer
deriving DecidableEq, Repr

structure DioDefaults where
  dioIntervalDoublings : UInt8
  dioIntervalMin : UInt8
  dioRedundancy : UInt8
  defaultLifetime : UInt8
  defaultLifetimeUnit : UInt16

structure DioSender where
  node : RplNode
  leafOnly : Bool
  dtsnOut : UInt8
  dioIntdoubl : UInt8
  dioIntmin : UInt8
  dioRedundancy : UInt8
  defaultLifetime : UInt8
  lifetimeUnit : UInt16
  prefixInfo : RplPrefix

structure DioOutput where
  dest : UipIpaddr
  payload : List UInt8
deriving DecidableEq, Repr

def set16 (value : UInt16) : List UInt8 := [(value >>> 8).toUInt8, value.toUInt8]

def set32 (value : UInt32) : List UInt8 :=
  [(value >>> 24).toUInt8, (value >>> 16).toUInt8, (value >>> 8).toUInt8, value.toUInt8]

@[simp] theorem set32_length (value : UInt32) : (set32 value).length = 4 := rfl

def get16 (pos : Nat) : Reads UInt8 UInt16 := do
  let high ← element pos
  let low ← element (pos + 1)
  pure ((high.toUInt16 <<< 8) ||| low.toUInt16)

def get32 (pos : Nat) : Reads UInt8 UInt32 := do
  let first ← element pos
  let second ← element (pos + 1)
  let third ← element (pos + 2)
  let fourth ← element (pos + 3)
  pure ((first.toUInt32 <<< 24) ||| (second.toUInt32 <<< 16) ||| (third.toUInt32 <<< 8) |||
    fourth.toUInt32)

namespace DioSender

variable (conf : RplConf)

def dioBase (sender : DioSender) : List UInt8 :=
  let inst := sender.node.currInstance
  [inst.instanceId, inst.dag.version] ++
    set16 (if sender.leafOnly then rplInfiniteRank else inst.dag.rank) ++
    [(if inst.dag.grounded ≠ 0 then rplDioGrounded else 0) ||| (inst.mop <<< 3) |||
      (inst.dag.preference &&& rplDioPreferenceMask), sender.dtsnOut, 0, 0] ++
    inst.dag.dagId.toList

def metricOption (mc : RplMetricContainer) : Option (List UInt8) :=
  let head := [rplOptionDagMetricContainer, 6, mc.type, mc.flags >>> 1,
    ((mc.flags &&& 1) <<< 7) ||| ((mc.aggr <<< 4) ||| mc.prec)]
  if mc.type = rplDagMcNone then some []
  else if mc.type = rplDagMcEtx then some (head ++ 2 :: set16 mc.etx)
  else if mc.type = rplDagMcEnergy then some (head ++ [2, mc.etx.toUInt8, mc.energyEst.toUInt8])
  else none

def confOption (sender : DioSender) : List UInt8 :=
  let inst := sender.node.currInstance
  [rplOptionDagConf, 14, 0, sender.dioIntdoubl, sender.dioIntmin, sender.dioRedundancy] ++
    set16 inst.maxRankinc ++ set16 inst.minHoprankinc ++ set16 inst.of.ocp ++
    [0, sender.defaultLifetime] ++ set16 sender.lifetimeUnit

def prefixOption (info : RplPrefix) : List UInt8 :=
  if info.length = 0 then []
  else
    [rplOptionPrefixInfo, 30, info.length, info.flags] ++ set32 info.lifetime ++
      set32 info.lifetime ++ [0, 0, 0, 0] ++ info.address.toList

/-- `rpl_icmp6_dio_output`: the sender after the call, with the message if there is one. -/
def rplIcmp6DioOutput (ucAddr : Option UipIpaddr) (sender : DioSender) :
    DioSender × Option DioOutput :=
  let sender := { sender with node := sender.node.rplDagUpdateState conf }
  (sender,
    if sender.leafOnly && ucAddr.isNone then none
    else
      (if sender.leafOnly then some [] else metricOption sender.node.currInstance.mc).map
        fun metric =>
          ⟨ucAddr.getD rplMulticastAddr,
            sender.dioBase ++ metric ++ sender.confOption ++ prefixOption sender.prefixInfo⟩)

end DioSender

def optionLen (i : Nat) (suboptType : UInt8) : Reads UInt8 Nat :=
  if suboptType = rplOptionPad1 then pure 1
  else do
    let payload ← element (i + 1)
    pure (2 + payload.toNat)

/-- The variables of the loop of `dio_input`. `copied` are the sizes of the copies into fields of
16 bytes. -/
structure DioInput where
  i : Nat
  dio : RplDioMessage
  discarded : Bool
  copied : List Nat
deriving DecidableEq, Repr

namespace DioInput

def discard (state : DioInput) : DioInput := { state with discarded := true }

def next (len : Nat) (dio : RplDioMessage) (state : DioInput) : DioInput :=
  { state with i := state.i + len, dio := dio }

def copy (size : Nat) (state : DioInput) : DioInput :=
  { state with copied := size :: state.copied }

def dagMetricContainer (len : Nat) (state : DioInput) : Reads UInt8 DioInput :=
  if len < 6 then pure state.discard
  else do
    let type ← element (state.i + 2)
    let flags ← element (state.i + 3)
    let packed ← element (state.i + 4)
    let length ← element (state.i + 5)
    let mc : RplMetricContainer :=
      { type := type
        flags := (flags <<< 1) ||| (packed >>> 7)
        aggr := (packed >>> 4) &&& 0x3
        prec := packed &&& 0xf
        length := length
        etx := state.dio.mc.etx }
    if type = rplDagMcNone then pure (state.next len { state.dio with mc := mc })
    else if type = rplDagMcEtx then do
      let etx ← get16 (state.i + 6)
      pure (state.next len { state.dio with mc := { mc with etx := etx } })
    else if type = rplDagMcEnergy then do
      let flags ← element (state.i + 6)
      let energyEst ← element (state.i + 7)
      let etx := flags.toUInt16 ||| (energyEst.toUInt16 <<< 8)
      pure (state.next len { state.dio with mc := { mc with etx := etx } })
    else pure state.discard

def routeInfo (len : Nat) (state : DioInput) : Reads UInt8 DioInput :=
  if len < 9 then pure state.discard
  else do
    let length ← element (state.i + 2)
    let flags ← element (state.i + 3)
    let lifetime ← get32 (state.i + 4)
    let size := (length.toNat + 7) / 8
    if size + 8 ≤ len ∧ length ≤ 128 then do
      let copied ← elements size (state.i + 8 + ·)
      let address := Vector.ofFn fun byte : Fin 16 =>
        copied.toList.getD byte (state.dio.destinationPrefix.address.get byte)
      pure ((state.copy size).next len
        { state.dio with destinationPrefix := ⟨address, lifetime, length, flags⟩ })
    else pure state.discard

def dagConf (len : Nat) (state : DioInput) : Reads UInt8 DioInput :=
  if len ≠ 16 then pure state.discard
  else do
    let dagIntdoubl ← element (state.i + 3)
    let dagIntmin ← element (state.i + 4)
    let dagRedund ← element (state.i + 5)
    let dagMaxRankinc ← get16 (state.i + 6)
    let dagMinHoprankinc ← get16 (state.i + 8)
    let ocp ← get16 (state.i + 10)
    let defaultLifetime ← element (state.i + 13)
    let lifetimeUnit ← get16 (state.i + 14)
    pure (state.next len
      { state.dio with
        dagIntdoubl := dagIntdoubl
        dagIntmin := dagIntmin
        dagRedund := dagRedund
        dagMaxRankinc := dagMaxRankinc
        dagMinHoprankinc := dagMinHoprankinc
        ocp := ocp
        defaultLifetime := defaultLifetime
        lifetimeUnit := lifetimeUnit })

def prefixInfo (len : Nat) (state : DioInput) : Reads UInt8 DioInput :=
  if len ≠ 32 then pure state.discard
  else do
    let length ← element (state.i + 2)
    let flags ← element (state.i + 3)
    let lifetime ← get32 (state.i + 8)
    let address ← elements 16 (state.i + 16 + ·)
    pure ((state.copy 16).next len
      { state.dio with prefixInfo := ⟨address, lifetime, length, flags⟩ })

def readOption (suboptType : UInt8) (len : Nat) (state : DioInput) : Reads UInt8 DioInput :=
  if suboptType = rplOptionDagMetricContainer then state.dagMetricContainer len
  else if suboptType = rplOptionRouteInfo then state.routeInfo len
  else if suboptType = rplOptionDagConf then state.dagConf len
  else if suboptType = rplOptionPrefixInfo then state.prefixInfo len
  else pure state.discard

def round (bufferLength : UInt8) (state : DioInput) : Reads UInt8 DioInput := do
  let suboptType ← element state.i
  let len ← optionLen state.i suboptType
  if bufferLength.toNat < len + state.i then pure state.discard
  else state.readOption suboptType len

def more (bufferLength : UInt8) (state : DioInput) : Bool :=
  !state.discarded && state.i < bufferLength.toNat

def received (state : DioInput) : Option RplDioMessage :=
  if state.discarded then none else some state.dio

end DioInput

def readDioBase (conf : RplConf) (defaults : DioDefaults) : Reads UInt8 RplDioMessage := do
  let instanceId ← element 0
  let version ← element 1
  let rank ← get16 2
  let packed ← element 4
  let dtsn ← element 5
  let dagId ← elements 16 (8 + ·)
  pure
    { dagId := dagId
      ocp := conf.ofOcp
      rank := rank
      grounded := packed &&& rplDioGrounded
      mop := (packed &&& rplDioMopMask) >>> 3
      preference := packed &&& rplDioPreferenceMask
      version := version
      instanceId := instanceId
      dtsn := dtsn
      dagIntdoubl := defaults.dioIntervalDoublings
      dagIntmin := defaults.dioIntervalMin
      dagRedund := defaults.dioRedundancy
      defaultLifetime := defaults.defaultLifetime
      lifetimeUnit := defaults.defaultLifetimeUnit
      dagMaxRankinc := conf.maxRankinc
      dagMinHoprankinc := conf.minHoprankinc
      destinationPrefix := rplPrefixZero
      prefixInfo := rplPrefixZero
      mc := default }

/-- `dio_input`, which keeps the length of the payload in eight bits. The loop takes at most one
round for each byte. -/
def dioInput (conf : RplConf) (defaults : DioDefaults) (payloadLen : Nat) :
    Reads UInt8 (Option DioInput) := do
  let bufferLength := UInt8.ofNat payloadLen
  let dio ← readDioBase conf defaults
  Reads.loop (DioInput.more bufferLength) (DioInput.round bufferLength) (bufferLength.toNat + 1)
    ⟨24, dio, false, [16]⟩

end MultiPhyTsch.Rpl
