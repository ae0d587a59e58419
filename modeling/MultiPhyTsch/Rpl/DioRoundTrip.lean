import MultiPhyTsch.Lib.Bytes
import MultiPhyTsch.Lib.Memory
import MultiPhyTsch.Rpl.DioMessage
import MultiPhyTsch.Rpl.PreferredParent
import MultiPhyTsch.Rpl.RankMonotone

/-! What `dio_input` reads of a DIO that `rpl_icmp6_dio_output` has written. -/

namespace MultiPhyTsch.Rpl

open Reads (element elements)

/-- A metric container as it is read from its option: two bits of the aggregation and four of the
precedence, with their other bits in the fields before. -/
def RplMetricContainer.readBack (mc : RplMetricContainer) : RplMetricContainer :=
  if mc.type = rplDagMcNone then default
  else
    { mc with
      flags := mc.flags ||| (((mc.aggr <<< 4) ||| mc.prec) >>> 7)
      aggr := (mc.aggr ||| (mc.prec >>> 4)) &&& (0x3 : UInt8)
      prec := mc.prec &&& (0xf : UInt8)
      length := 2 }

namespace DioSender

/-- The DIO that a receiver has of a node that is no leaf: the grounded flag stands for its truth,
the mode of operation and the preference have three bits. -/
def readBack (sender : DioSender) : RplDioMessage :=
  let inst := sender.node.currInstance
  { dagId := inst.dag.dagId
    ocp := inst.of.ocp
    rank := inst.dag.rank
    grounded := (if inst.dag.grounded ≠ 0 then rplDioGrounded else 0) |||
      ((inst.mop &&& (0x10 : UInt8)) <<< 3)
    mop := inst.mop &&& (0x7 : UInt8)
    preference := inst.dag.preference &&& rplDioPreferenceMask
    version := inst.dag.version
    instanceId := inst.instanceId
    dtsn := sender.dtsnOut
    dagIntdoubl := sender.dioIntdoubl
    dagIntmin := sender.dioIntmin
    dagRedund := sender.dioRedundancy
    defaultLifetime := sender.defaultLifetime
    lifetimeUnit := sender.lifetimeUnit
    dagMaxRankinc := inst.maxRankinc
    dagMinHoprankinc := inst.minHoprankinc
    destinationPrefix := rplPrefixZero
    prefixInfo := if sender.prefixInfo.length = 0 then rplPrefixZero else sender.prefixInfo
    mc := inst.mc.readBack }

def instanceDio (sender : DioSender) : RplDioMessage :=
  let inst := sender.node.currInstance
  { sender.readBack with
    grounded := inst.dag.grounded
    mop := inst.mop
    preference := inst.dag.preference
    mc := if inst.mc.type = rplDagMcNone then default else inst.mc }

def updated (conf : RplConf) (sender : DioSender) : DioSender :=
  { sender with node := sender.node.rplDagUpdateState conf }

end DioSender

theorem flags_bits (flags packed : UInt8) :
    ((flags >>> 1) <<< 1) ||| ((((flags &&& 1) <<< 7) ||| packed) >>> 7) =
      flags ||| (packed >>> 7) := by
  apply UInt8.toBitVec_inj.mp
  ext bit inside
  interval_cases bit <;> simp

theorem aggr_bits (flags aggr prec : UInt8) :
    ((((flags &&& 1) <<< 7) ||| ((aggr <<< 4) ||| prec)) >>> 4) &&& (0x3 : UInt8) =
      (aggr ||| (prec >>> 4)) &&& (0x3 : UInt8) := by
  apply UInt8.toBitVec_inj.mp
  ext bit inside
  interval_cases bit <;> simp

theorem prec_bits (flags aggr prec : UInt8) :
    (((flags &&& 1) <<< 7) ||| ((aggr <<< 4) ||| prec)) &&& (0xf : UInt8) =
      prec &&& (0xf : UInt8) := by
  apply UInt8.toBitVec_inj.mp
  ext bit inside
  interval_cases bit <;> simp

section

variable (grounded mop preference : UInt8)

def packedByte : UInt8 :=
  (if grounded ≠ 0 then rplDioGrounded else 0) ||| (mop <<< 3) |||
    (preference &&& rplDioPreferenceMask)

theorem grounded_bits : packedByte grounded mop preference &&& rplDioGrounded =
    (if grounded ≠ 0 then rplDioGrounded else 0) ||| ((mop &&& (0x10 : UInt8)) <<< 3) := by
  apply UInt8.toBitVec_inj.mp
  ext bit inside
  unfold packedByte
  split <;> interval_cases bit <;> simp [rplDioGrounded, rplDioPreferenceMask]

theorem mop_bits :
    (packedByte grounded mop preference &&& rplDioMopMask) >>> 3 = mop &&& (0x7 : UInt8) := by
  apply UInt8.toBitVec_inj.mp
  ext bit inside
  unfold packedByte
  split <;> interval_cases bit <;>
    simp [rplDioGrounded, rplDioMopMask, rplDioPreferenceMask]

theorem preference_bits : packedByte grounded mop preference &&& rplDioPreferenceMask =
    preference &&& rplDioPreferenceMask := by
  apply UInt8.toBitVec_inj.mp
  ext bit inside
  unfold packedByte
  split <;> interval_cases bit <;> simp [rplDioGrounded, rplDioPreferenceMask]

end

section

variable {payload : Memory UInt8} {pos : Nat}

theorem get16_of_bytes {value : UInt16} (high : payload pos = (value >>> 8).toUInt8)
    (low : payload (pos + 1) = value.toUInt8) : (get16 pos).value payload = value := by
  simp only [get16, Reads.value_bind, Reads.value_element, Reads.value_pure, high, low]
  rw [UInt16.or_comm]
  exact uint16_bytes value

theorem get32_of_read {value : UInt32} (written : payload.read pos 4 = set32 value) :
    (get32 pos).value payload = value := by
  simp only [set32, Memory.read_eq_cons_iff, Nat.add_assoc, Nat.reduceAdd] at written
  obtain ⟨first, second, third, fourth, -⟩ := written
  simp only [get32, Reads.value_bind, Reads.value_element, Reads.value_pure, first, second, third,
    fourth]
  have turned : ∀ a b c d : UInt32, a ||| b ||| c ||| d = d ||| c ||| b ||| a := by
    intro a b c d
    ac_rfl
  rw [turned]
  exact uint32_bytes value

theorem elements_of_read {count : Nat} {items : Vector UInt8 count}
    (written : payload.read pos count = items.toList) :
    (elements count (pos + ·) : Reads UInt8 _).value payload = items := by
  rw [Reads.value_elements]
  apply Vector.toList_inj.mp
  rw [← written, Memory.read, Vector.toList_ofFn, List.ofFn_eq_map]
  apply List.ext_getElem
  · simp
  · intro index _ _
    simp

end

theorem dioBase_length (sender : DioSender) : sender.dioBase.length = 24 := by
  simp [DioSender.dioBase, set16]

variable {metric : List UInt8}

theorem metricOption_length {mc : RplMetricContainer}
    (option : DioSender.metricOption mc = some metric) :
    metric.length = if mc.type = rplDagMcNone then 0 else 8 := by
  unfold DioSender.metricOption at option
  split at option
  next absent =>
    obtain rfl := Option.some.inj option
    rw [if_pos absent]
    rfl
  next carried =>
    rw [if_neg carried]
    split at option
    · obtain rfl := Option.some.inj option
      rfl
    · split at option
      · obtain rfl := Option.some.inj option
        rfl
      · cases option

theorem metricOption_isSome_iff {mc : RplMetricContainer} :
    (DioSender.metricOption mc).isSome = true ↔
      mc.type ∈ [rplDagMcNone, rplDagMcEtx, rplDagMcEnergy] := by
  simp only [DioSender.metricOption, List.mem_cons, List.not_mem_nil, or_false]
  split
  next absent => simp [absent]
  next carried =>
    split
    next etx => simp [etx]
    next other =>
      split
      next energy => simp [energy]
      next unsupported => simp [carried, other, unsupported]

theorem confOption_length (sender : DioSender) : sender.confOption.length = 16 := rfl

theorem prefixOption_length (info : RplPrefix) :
    (DioSender.prefixOption info).length = if info.length = 0 then 0 else 32 := by
  unfold DioSender.prefixOption
  split <;> simp

section

variable {payload : Memory UInt8}

def DioSender.baseRead (receiver : RplConf) (defaults : DioDefaults) (sender : DioSender) :
    RplDioMessage :=
  { sender.readBack with
    ocp := receiver.ofOcp
    dagIntdoubl := defaults.dioIntervalDoublings
    dagIntmin := defaults.dioIntervalMin
    dagRedund := defaults.dioRedundancy
    defaultLifetime := defaults.defaultLifetime
    lifetimeUnit := defaults.defaultLifetimeUnit
    dagMaxRankinc := receiver.maxRankinc
    dagMinHoprankinc := receiver.minHoprankinc
    prefixInfo := rplPrefixZero
    mc := default }

theorem readDioBase_value (receiver : RplConf) (defaults : DioDefaults) {sender : DioSender}
    (nonLeaf : sender.leafOnly = false) (written : payload.read 0 24 = sender.dioBase) :
    (readDioBase receiver defaults).value payload = sender.baseRead receiver defaults := by
  have base : sender.dioBase =
      [sender.node.currInstance.instanceId, sender.node.currInstance.dag.version,
        (sender.node.currInstance.dag.rank >>> 8).toUInt8,
        sender.node.currInstance.dag.rank.toUInt8,
        packedByte sender.node.currInstance.dag.grounded sender.node.currInstance.mop
          sender.node.currInstance.dag.preference, sender.dtsnOut, 0, 0] ++
        sender.node.currInstance.dag.dagId.toList := by
    rw [DioSender.dioBase, nonLeaf]
    rfl
  rw [base] at written
  obtain ⟨fields, dagId⟩ := Memory.read_append written
  simp only [List.length_cons, List.length_nil, Nat.reduceAdd, Vector.length_toList,
    Memory.read_eq_cons_iff] at fields dagId
  obtain ⟨instanceId, version, rankHigh, rankLow, packed, dtsn, -⟩ := fields
  simp only [readDioBase, Reads.value_bind, Reads.value_element, Reads.value_pure, instanceId,
    version, packed, dtsn, get16_of_bytes rankHigh rankLow, elements_of_read dagId, grounded_bits,
    mop_bits, preference_bits]
  rfl

section

variable {bufferLength : UInt8} {state : DioInput}

theorem round_value {suboptType len : UInt8} (type : payload state.i = suboptType)
    (length : payload (state.i + 1) = len) (longer : suboptType ≠ rplOptionPad1)
    (inside : state.i + (2 + len.toNat) ≤ bufferLength.toNat) :
    (state.round bufferLength).value payload =
      (state.readOption suboptType (2 + len.toNat)).value payload := by
  have fits : ¬ bufferLength.toNat < 2 + len.toNat + state.i := by omega
  simp only [DioInput.round, optionLen, Reads.value_bind, Reads.value_element, type, length,
    if_neg longer, Reads.value_pure, if_neg fits]

theorem metric_round {mc : RplMetricContainer} {metric : List UInt8}
    (option : DioSender.metricOption mc = some metric) (carried : mc.type ≠ rplDagMcNone)
    (written : payload.read state.i metric.length = metric)
    (inside : state.i + metric.length ≤ bufferLength.toNat) :
    (state.round bufferLength).value payload =
      state.next metric.length { state.dio with mc := mc.readBack } := by
  unfold DioSender.metricOption at option
  unfold RplMetricContainer.readBack
  rw [if_neg carried] at option
  rw [if_neg carried]
  split at option
  next etx =>
    obtain rfl := Option.some.inj option
    simp only [set16, List.cons_append, List.nil_append, List.length_cons, List.length_nil,
      Nat.reduceAdd, Memory.read_eq_cons_iff, Nat.add_assoc] at written inside ⊢
    obtain ⟨type, length, mcType, flags, packed, mcLength, high, low, -⟩ := written
    rw [round_value type length (by decide) inside]
    change ((state.dagMetricContainer 8).value payload) = _
    have long : ¬ 8 < 6 := by decide
    have other : rplDagMcEtx ≠ rplDagMcNone := by decide
    simp only [DioInput.dagMetricContainer, if_neg long, Reads.value_bind, Reads.value_element,
      mcType, flags, packed, mcLength, etx, if_neg other, if_true, get16_of_bytes high low,
      Reads.value_pure, flags_bits, aggr_bits, prec_bits]
  next other =>
    split at option
    next energy =>
      obtain rfl := Option.some.inj option
      simp only [List.cons_append, List.nil_append, List.length_cons, List.length_nil,
        Nat.reduceAdd, Memory.read_eq_cons_iff, Nat.add_assoc] at written inside ⊢
      obtain ⟨type, length, mcType, flags, packed, mcLength, low, high, -⟩ := written
      rw [round_value type length (by decide) inside]
      change ((state.dagMetricContainer 8).value payload) = _
      have long : ¬ 8 < 6 := by decide
      have union : mc.etx.toUInt8.toUInt16 ||| (mc.energyEst.toUInt8.toUInt16 <<< 8) = mc.etx :=
        uint16_bytes mc.etx
      simp only [DioInput.dagMetricContainer, if_neg long, Reads.value_bind, Reads.value_element,
        mcType, flags, packed, mcLength, low, high, if_neg carried, if_neg other, if_pos energy,
        Reads.value_pure, flags_bits, aggr_bits, prec_bits, union]
    next => cases option

def DioSender.configured (sender : DioSender) (dio : RplDioMessage) : RplDioMessage :=
  { dio with
    dagIntdoubl := sender.dioIntdoubl
    dagIntmin := sender.dioIntmin
    dagRedund := sender.dioRedundancy
    dagMaxRankinc := sender.node.currInstance.maxRankinc
    dagMinHoprankinc := sender.node.currInstance.minHoprankinc
    ocp := sender.node.currInstance.of.ocp
    defaultLifetime := sender.defaultLifetime
    lifetimeUnit := sender.lifetimeUnit }

theorem conf_round {sender : DioSender} (written : payload.read state.i 16 = sender.confOption)
    (inside : state.i + 16 ≤ bufferLength.toNat) :
    (state.round bufferLength).value payload =
      state.next 16 (sender.configured state.dio) := by
  simp only [DioSender.confOption, set16, List.cons_append, List.nil_append,
    Memory.read_eq_cons_iff, Nat.add_assoc, Nat.reduceAdd] at written
  obtain ⟨type, length, -, intdoubl, intmin, redund, maxHigh, maxLow, minHigh, minLow, ocpHigh,
    ocpLow, -, lifetime, unitHigh, unitLow, -⟩ := written
  rw [round_value type length (by decide) inside]
  change ((state.dagConf 16).value payload) = _
  simp only [DioInput.dagConf, ne_eq, not_true_eq_false, if_false, Reads.value_bind,
    Reads.value_element, Reads.value_pure, intdoubl, intmin, redund, lifetime, DioSender.configured,
    get16_of_bytes maxHigh maxLow, get16_of_bytes minHigh minLow, get16_of_bytes ocpHigh ocpLow,
    get16_of_bytes unitHigh unitLow]

theorem prefix_round {info : RplPrefix} (carried : info.length ≠ 0)
    (written : payload.read state.i 32 = DioSender.prefixOption info)
    (inside : state.i + 32 ≤ bufferLength.toNat) :
    (state.round bufferLength).value payload =
      (state.copy 16).next 32 { state.dio with prefixInfo := info } := by
  have spelled : DioSender.prefixOption info =
      ([rplOptionPrefixInfo, 30, info.length, info.flags] ++ set32 info.lifetime) ++
        (set32 info.lifetime ++ ([0, 0, 0, 0] ++ info.address.toList)) := by
    rw [DioSender.prefixOption, if_neg carried]
    simp only [List.append_assoc]
  rw [spelled] at written
  obtain ⟨first, second⟩ := Memory.read_append written
  obtain ⟨lifetime, rest⟩ := Memory.read_append second
  obtain ⟨-, address⟩ := Memory.read_append rest
  obtain ⟨header, -⟩ := Memory.read_append first
  simp only [List.length_cons, List.length_nil, List.length_append, Nat.reduceAdd, set32_length,
    Vector.length_toList, Memory.read_eq_cons_iff, Nat.add_assoc] at header lifetime address
  obtain ⟨type, length, prefixLength, flags, -⟩ := header
  rw [round_value type length (by decide) inside]
  change ((state.prefixInfo 32).value payload) = _
  simp only [DioInput.prefixInfo, ne_eq, not_true_eq_false, if_false, Reads.value_bind,
    Reads.value_element, Reads.value_pure, prefixLength, flags, get32_of_read lifetime,
    elements_of_read address]

theorem more_of_inside (live : state.discarded = false) (inside : state.i < bufferLength.toNat) :
    state.more bufferLength = true := by
  rw [DioInput.more, live, decide_eq_true inside]
  rfl

end

variable (bufferLength : UInt8) (state : DioInput)

theorem loop_metric {mc : RplMetricContainer} {metric : List UInt8}
    (option : DioSender.metricOption mc = some metric) (empty : state.dio.mc = default)
    (live : state.discarded = false) (written : payload.read state.i metric.length = metric)
    (inside : state.i + metric.length ≤ bufferLength.toNat) (fuel : Nat) :
    ∃ rounds, fuel ≤ rounds ∧
      (Reads.loop (DioInput.more bufferLength) (DioInput.round bufferLength) (fuel + 1) state).value
          payload =
        (Reads.loop (DioInput.more bufferLength) (DioInput.round bufferLength) rounds
          (state.next metric.length { state.dio with mc := mc.readBack })).value payload := by
  by_cases absent : mc.type = rplDagMcNone
  · rw [DioSender.metricOption, if_pos absent] at option
    obtain rfl := Option.some.inj option
    refine ⟨fuel + 1, Nat.le_succ fuel, ?_⟩
    rw [RplMetricContainer.readBack, if_pos absent, ← empty]
    rfl
  · refine ⟨fuel, Nat.le_refl fuel, ?_⟩
    have long : metric.length = 8 := by rw [metricOption_length option, if_neg absent]
    rw [Reads.value_loop_next (more_of_inside live (by omega)),
      metric_round option absent written inside]

theorem loop_prefix {info : RplPrefix} (empty : state.dio.prefixInfo = rplPrefixZero)
    (live : state.discarded = false)
    (written : payload.read state.i (DioSender.prefixOption info).length =
      DioSender.prefixOption info)
    (inside : state.i + (DioSender.prefixOption info).length ≤ bufferLength.toNat) (fuel : Nat) :
    ∃ rounds copied, fuel ≤ rounds ∧
      (Reads.loop (DioInput.more bufferLength) (DioInput.round bufferLength) (fuel + 1) state).value
          payload =
        (Reads.loop (DioInput.more bufferLength) (DioInput.round bufferLength) rounds
          ⟨state.i + (DioSender.prefixOption info).length,
            { state.dio with
              prefixInfo := if info.length = 0 then rplPrefixZero else info },
            false, copied⟩).value payload := by
  by_cases absent : info.length = 0
  · rw [DioSender.prefixOption, if_pos absent, if_pos absent, ← empty]
    refine ⟨fuel + 1, state.copied, Nat.le_succ fuel, ?_⟩
    rw [← live]
    rfl
  · have long : (DioSender.prefixOption info).length = 32 := by
      rw [DioSender.prefixOption, if_neg absent]
      simp
    rw [long] at written inside ⊢
    refine ⟨fuel, 16 :: state.copied, Nat.le_refl fuel, ?_⟩
    rw [Reads.value_loop_next (more_of_inside live (by omega)), prefix_round absent written inside,
      if_neg absent, ← live]
    rfl

end

theorem loop_options {payload : Memory UInt8} (bufferLength : UInt8) {sender : DioSender}
    (option : DioSender.metricOption sender.node.currInstance.mc = some metric)
    (state : DioInput) (live : state.discarded = false) (noMetric : state.dio.mc = default)
    (noPrefix : state.dio.prefixInfo = rplPrefixZero)
    (metricRead : payload.read state.i metric.length = metric)
    (confRead : payload.read (state.i + metric.length) 16 = sender.confOption)
    (prefixRead : payload.read (state.i + metric.length + 16)
      (DioSender.prefixOption sender.prefixInfo).length = DioSender.prefixOption sender.prefixInfo)
    (total : state.i + metric.length + 16 + (DioSender.prefixOption sender.prefixInfo).length =
      bufferLength.toNat) :
    ∃ copied, (Reads.loop (DioInput.more bufferLength) (DioInput.round bufferLength)
      (bufferLength.toNat + 1) state).value payload =
        some ⟨bufferLength.toNat,
          { sender.configured { state.dio with mc := sender.node.currInstance.mc.readBack } with
            prefixInfo :=
              if sender.prefixInfo.length = 0 then rplPrefixZero else sender.prefixInfo },
          false, copied⟩ := by
  obtain ⟨rounds, enough, behindMetric⟩ :=
    loop_metric bufferLength state option noMetric live metricRead (by omega) bufferLength.toNat
  rw [behindMetric]
  obtain ⟨fuel, rfl⟩ : ∃ fuel, rounds = fuel + 2 := ⟨rounds - 2, by omega⟩
  let second := state.next metric.length
    { state.dio with mc := sender.node.currInstance.mc.readBack }
  have goesOn : second.more bufferLength = true := by
    have inside : second.i < bufferLength.toNat := by
      change state.i + metric.length < _
      omega
    exact more_of_inside live inside
  have confInside : second.i + 16 ≤ bufferLength.toNat := by
    change state.i + metric.length + 16 ≤ _
    omega
  rw [Reads.value_loop_next goesOn, conf_round confRead confInside]
  let third := second.next 16 (sender.configured second.dio)
  obtain ⟨later, copied, more, behindPrefix⟩ :=
    loop_prefix bufferLength third noPrefix live prefixRead (Nat.le_of_eq total) fuel
  refine ⟨copied, ?_⟩
  have place : third.i + (DioSender.prefixOption sender.prefixInfo).length = bufferLength.toNat :=
    total
  obtain ⟨last, rfl⟩ : ∃ last, later = last + 1 := ⟨later - 1, by omega⟩
  rw [behindPrefix, place]
  refine Reads.value_loop_end ?_ last
  exact decide_eq_false (Nat.lt_irrefl _)

theorem dioInput_received (receiver : RplConf) (defaults : DioDefaults) {sender : DioSender}
    (nonLeaf : sender.leafOnly = false)
    (option : DioSender.metricOption sender.node.currInstance.mc = some metric)
    {payload : Memory UInt8} {len : Nat} (written : payload.read 0 len =
      sender.dioBase ++ metric ++ sender.confOption ++ DioSender.prefixOption sender.prefixInfo) :
    ((dioInput receiver defaults len).value payload).bind DioInput.received =
      some sender.readBack := by
  have total : len = 24 + metric.length + 16 +
      (DioSender.prefixOption sender.prefixInfo).length := by
    have length := congrArg List.length written
    rwa [Memory.read_length, List.length_append, List.length_append, List.length_append,
      dioBase_length, confOption_length] at length
  have short : len < 256 := by
    rw [metricOption_length option, prefixOption_length] at total
    split at total <;> split at total <;> omega
  have bufferLength : (UInt8.ofNat len).toNat = len := Nat.mod_eq_of_lt short
  obtain ⟨front, prefixInfo⟩ := Memory.read_append written
  obtain ⟨front, conf⟩ := Memory.read_append front
  obtain ⟨base, metricRead⟩ := Memory.read_append front
  rw [Nat.zero_add, List.length_append, List.length_append, dioBase_length, confOption_length]
    at prefixInfo
  rw [Nat.zero_add, List.length_append, dioBase_length, confOption_length] at conf
  rw [Nat.zero_add, dioBase_length] at metricRead
  rw [dioBase_length] at base
  obtain ⟨copied, ended⟩ := loop_options (UInt8.ofNat len) option
    ⟨24, sender.baseRead receiver defaults, false, [16]⟩ rfl rfl rfl metricRead conf prefixInfo
    (by rw [bufferLength]; exact total.symm)
  rw [dioInput, Reads.value_bind, readDioBase_value receiver defaults nonLeaf base, ended]
  rfl

theorem dio_roundTrip (conf receiver : RplConf) (defaults : DioDefaults) (sender : DioSender)
    (ucAddr : Option UipIpaddr) (nonLeaf : sender.leafOnly = false)
    (supported : (sender.updated conf).node.currInstance.mc.type ∈
      [rplDagMcNone, rplDagMcEtx, rplDagMcEnergy]) :
    ∃ message, (sender.rplIcmp6DioOutput conf ucAddr).2 = some message ∧
      ∀ payload : Memory UInt8, payload.read 0 message.payload.length = message.payload →
        ((dioInput receiver defaults message.payload.length).value payload).bind DioInput.received =
          some (sender.updated conf).readBack := by
  obtain ⟨metric, option⟩ := Option.isSome_iff_exists.mp (metricOption_isSome_iff.mpr supported)
  have stays : (sender.updated conf).leafOnly = false := nonLeaf
  refine ⟨⟨ucAddr.getD rplMulticastAddr, (sender.updated conf).dioBase ++ metric ++
    (sender.updated conf).confOption ++ DioSender.prefixOption sender.prefixInfo⟩, ?_, ?_⟩
  · change (if (sender.updated conf).leafOnly && ucAddr.isNone then none
      else (if (sender.updated conf).leafOnly then some []
        else DioSender.metricOption (sender.updated conf).node.currInstance.mc).map _) = _
    rw [stays, option]
    rfl
  · intro payload written
    exact dioInput_received receiver defaults stays option written

def groundedConf : RplConf := { rplConf with grounded := 1 }

def groundedRoot : DioSender :=
  { node := (RplNode.boot 2).rplDagInitRoot groundedConf 0 parentIpaddr 64 0
    leafOnly := false
    dtsnOut := 240
    dioIntdoubl := 8
    dioIntmin := 12
    dioRedundancy := 0
    defaultLifetime := 30
    lifetimeUnit := 60
    prefixInfo := ⟨parentIpaddr, 0xffffffff, 64, 0⟩ }

def dioDefaults : DioDefaults := ⟨8, 12, 0, 30, 60⟩

theorem groundedRoot_roundTrip :
    groundedRoot.leafOnly = false ∧
      ∃ message, (groundedRoot.rplIcmp6DioOutput groundedConf none).2 = some message ∧
        ∀ payload : Memory UInt8, payload.read 0 message.payload.length = message.payload →
          ((dioInput rplConf dioDefaults message.payload.length).value payload).bind
              DioInput.received = some (groundedRoot.updated groundedConf).readBack :=
  ⟨rfl, dio_roundTrip groundedConf rplConf dioDefaults groundedRoot none rfl (by decide)⟩

theorem grounded_not_readBack : ¬ ∀ (conf receiver : RplConf) (defaults : DioDefaults)
    (sender : DioSender) (ucAddr : Option UipIpaddr), sender.leafOnly = false →
      (sender.updated conf).node.currInstance.mc.type ∈
        [rplDagMcNone, rplDagMcEtx, rplDagMcEnergy] →
      ∃ message, (sender.rplIcmp6DioOutput conf ucAddr).2 = some message ∧
        ∀ payload : Memory UInt8, payload.read 0 message.payload.length = message.payload →
          ((dioInput receiver defaults message.payload.length).value payload).bind
            DioInput.received = some (sender.updated conf).instanceDio := by
  intro all
  obtain ⟨message, sent, same⟩ :=
    all groundedConf rplConf dioDefaults groundedRoot none rfl (by decide)
  let payload : Memory UInt8 := fun index => message.payload.getD index 0
  have written : payload.read 0 message.payload.length = message.payload := by
    apply List.ext_getElem
    · simp
    · intro index _ inside
      simp [Memory.read, payload, inside]
  let sender := groundedRoot.updated groundedConf
  have spelled : message.payload = sender.dioBase ++ [] ++ sender.confOption ++
      DioSender.prefixOption sender.prefixInfo :=
    (congrArg DioOutput.payload (Option.some.inj sent)).symm
  have noMetric : DioSender.metricOption sender.node.currInstance.mc = some [] := rfl
  have back : _ = some sender.readBack :=
    dioInput_received rplConf dioDefaults rfl noMetric (written.trans spelled)
  have dios : sender.readBack = sender.instanceDio :=
    Option.some.inj (back.symm.trans (same payload written))
  have differs : sender.readBack.grounded ≠ sender.instanceDio.grounded := by decide
  exact differs (congrArg RplDioMessage.grounded dios)

end MultiPhyTsch.Rpl
