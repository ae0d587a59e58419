import MultiPhyTsch.Coap.OptionWalk

/-! What a round of the parser of CoAP messages touches and leaves. The strings that it has stored end
before the option that it is at, and what is behind that option is as it was received. -/

namespace MultiPhyTsch.Coap

def CoapMessage.slices (message : CoapMessage) : List CoapSlice :=
  [message.proxyUri, message.proxyScheme, message.uriHost, message.locationPath,
    message.locationQuery, message.uriPath, message.uriQuery]

def CoapMessage.Inside (message : CoapMessage) (limit : Nat) : Prop :=
  ∀ slice ∈ message.slices, slice.stop ≤ limit

section Value

variable {memory : Memory UInt8} {limit current length : Nat}

theorem parseInt_spec (room : current + length ≤ limit) :
    (coapParseIntOption current length).Below memory limit ∧
      (coapParseIntOption current length).KeepsFrom memory (current + length) := by
  unfold coapParseIntOption
  constructor
  · simp only [Accesses.below_bind, Accesses.below_loadAll, Accesses.below_pure, and_true]
    exact fun _ => room
  · exact (Accesses.keepsFrom_loadAll _ _ _ _).bind _ _ (Accesses.keepsFrom_pure _ _ _)

theorem merge_spec {dst : CoapSlice} (behind : dst.stop < current) (room : current + length ≤ limit)
    (separator : UInt8) :
    ((coapMergeMultiOption dst current length separator).Below memory limit ∧
        (coapMergeMultiOption dst current length separator).KeepsFrom memory (current + length)) ∧
      ((coapMergeMultiOption dst current length separator).value memory).stop ≤
        current + length := by
  unfold coapMergeMultiOption
  split
  next some =>
    refine ⟨⟨?_, ?_⟩, ?_⟩
    · simp only [Accesses.below_bind, Accesses.below_store, Accesses.below_move,
        Accesses.below_pure, and_true]
      exact ⟨by omega, fun _ => ⟨room, by omega⟩⟩
    · refine (Accesses.keepsFrom_store _ _ _ (by omega)).bind _ _ ?_
      exact (Accesses.keepsFrom_move _ _ _ (by omega)).bind _ _ (Accesses.keepsFrom_pure _ _ _)
    · have stop : (CoapSlice.mk dst.ptr (dst.len + 1 + length)).stop = dst.stop + 1 + length := by
        unfold CoapSlice.stop
        dsimp only
        omega
      simp only [Accesses.value_bind, Accesses.value_pure]
      omega
  next none =>
    exact ⟨⟨Accesses.below_pure _ _ _, Accesses.keepsFrom_pure _ _ _⟩, Nat.le_refl _⟩

def KeepsMessage (memory : Memory UInt8) (limit stop : Nat) (token : List UInt8)
    (program : Accesses UInt8 (CoapMessage × Option CoapOutcome)) : Prop :=
  program.Below memory limit ∧ program.KeepsFrom memory stop ∧
    (program.value memory).1.Inside stop ∧ (program.value memory).1.payload = none ∧
    (program.value memory).1.token = token

theorem KeepsMessage.ite {condition : Prop} [Decidable condition] {stop : Nat}
    {token : List UInt8}
    {one other : Accesses UInt8 (CoapMessage × Option CoapOutcome)}
    (first : condition → KeepsMessage memory limit stop token one)
    (second : ¬ condition → KeepsMessage memory limit stop token other) :
    KeepsMessage memory limit stop token (if condition then one else other) := by
  by_cases chosen : condition
  · rw [if_pos chosen]
    exact first chosen
  · rw [if_neg chosen]
    exact second chosen

theorem KeepsMessage.bind {α : Type} {stop : Nat} {token : List UInt8} {program : Accesses UInt8 α}
    {rest : α → CoapMessage} {outcome : Option CoapOutcome}
    (first : program.Below memory limit ∧ program.KeepsFrom memory stop)
    (inside : (rest (program.value memory)).Inside stop ∧
      (rest (program.value memory)).payload = none ∧ (rest (program.value memory)).token = token) :
    KeepsMessage memory limit stop token (program >>= fun value => pure (rest value, outcome)) := by
  refine ⟨?_, first.2.bind _ _ (Accesses.keepsFrom_pure _ _ _), inside⟩
  rw [Accesses.below_bind]
  exact ⟨first.1, Accesses.below_pure _ _ _⟩

theorem KeepsMessage.pure {stop : Nat} {token : List UInt8} {message : CoapMessage}
    {outcome : Option CoapOutcome}
    (inside : message.Inside stop ∧ message.payload = none ∧ message.token = token) :
    KeepsMessage memory limit stop token (Pure.pure (message, outcome)) :=
  ⟨Accesses.below_pure _ _ _, Accesses.keepsFrom_pure _ _ _, inside⟩

theorem Inside.mono {message : CoapMessage} {stop more : Nat} (inside : message.Inside stop)
    (further : stop ≤ more) : message.Inside more :=
  fun slice member => Nat.le_trans (inside slice member) further

theorem coapOption_keeps (conf : CoapConf) {message : CoapMessage} {stop : Nat} (number : Nat)
    (inside : message.Inside stop) (unpaid : message.payload = none) (behind : stop < current)
    (room : current + length ≤ limit) :
    KeepsMessage memory limit (current + length) message.token
      (coapOption conf message number current length) := by
  have later : message.Inside (current + length) := Inside.mono inside (by omega)
  have int := @parseInt_spec memory limit current length room
  have fresh : (CoapSlice.mk (some current) length).stop ≤ current + length := Nat.le_refl _
  have bytes : (Accesses.loadAll current (min coapEtagLen length) :
      Accesses UInt8 (List UInt8)).Below memory limit ∧
      (Accesses.loadAll current (min coapEtagLen length) :
        Accesses UInt8 (List UInt8)).KeepsFrom memory (current + length) := by
    refine ⟨?_, Accesses.keepsFrom_loadAll _ _ _ _⟩
    rw [Accesses.below_loadAll]
    omega
  have merged : ∀ slice ∈ message.slices, ∀ separator,
      ((coapMergeMultiOption slice current length separator).Below memory limit ∧
          (coapMergeMultiOption slice current length separator).KeepsFrom memory
            (current + length)) ∧
        ((coapMergeMultiOption slice current length separator).value memory).stop ≤
          current + length := by
    intro slice member separator
    exact merge_spec (Nat.lt_of_le_of_lt (inside slice member) behind) room separator
  have whole : ∀ changed : CoapMessage, changed.Inside (current + length) ↔ changed.proxyUri.stop ≤
      current + length ∧ changed.proxyScheme.stop ≤ current + length ∧ changed.uriHost.stop ≤
      current + length ∧ changed.locationPath.stop ≤ current + length ∧
      changed.locationQuery.stop ≤ current + length ∧ changed.uriPath.stop ≤ current + length ∧
      changed.uriQuery.stop ≤ current + length := by
    intro changed
    simp [CoapMessage.Inside, CoapMessage.slices]
  obtain ⟨proxyUri, proxyScheme, uriHost, locationPath, locationQuery, uriPath, uriQuery⟩ :=
    (whole message).mp later
  simp only [CoapMessage.slices, List.forall_mem_cons] at merged
  obtain ⟨-, -, -, mergedPath, mergedQuery, mergedUri, mergedUriQuery, -⟩ := merged
  have same : ∀ outcome, KeepsMessage memory limit (current + length) message.token
      (pure (message, outcome) : Accesses UInt8 (CoapMessage × Option CoapOutcome)) :=
    fun outcome => .pure ⟨later, unpaid, rfl⟩
  unfold coapOption
  refine .ite (fun _ => .bind int ⟨later, unpaid, rfl⟩) fun _ => ?_
  refine .ite (fun _ => .bind int ⟨later, unpaid, rfl⟩) fun _ => ?_
  refine .ite (fun _ => .bind bytes ⟨later, unpaid, rfl⟩) fun _ => ?_
  refine .ite (fun _ => .bind int ⟨later, unpaid, rfl⟩) fun _ => ?_
  refine .ite (fun _ => .bind bytes ⟨later, unpaid, rfl⟩) fun _ => ?_
  refine .ite (fun _ => .pure ⟨later, unpaid, rfl⟩) fun _ => ?_
  refine .ite (fun _ => ?_) fun _ => ?_
  · apply KeepsMessage.pure
    split
    · exact ⟨(whole _).mpr
        ⟨fresh, proxyScheme, uriHost, locationPath, locationQuery, uriPath, uriQuery⟩, unpaid, rfl⟩
    · exact ⟨later, unpaid, rfl⟩
  refine .ite (fun _ => ?_) fun _ => ?_
  · apply KeepsMessage.pure
    split
    · exact ⟨(whole _).mpr
        ⟨proxyUri, fresh, uriHost, locationPath, locationQuery, uriPath, uriQuery⟩, unpaid, rfl⟩
    · exact ⟨later, unpaid, rfl⟩
  refine .ite (fun _ => .pure ⟨(whole _).mpr
    ⟨proxyUri, proxyScheme, fresh, locationPath, locationQuery, uriPath, uriQuery⟩, unpaid, rfl⟩)
    fun _ => ?_
  refine .ite (fun _ => .bind int ⟨later, unpaid, rfl⟩) fun _ => ?_
  refine .ite (fun _ => .bind (mergedUri _).1 ⟨(whole _).mpr ⟨proxyUri, proxyScheme, uriHost,
    locationPath, locationQuery, (mergedUri _).2, uriQuery⟩, unpaid, rfl⟩) fun _ => ?_
  refine .ite (fun _ => .bind (mergedUriQuery _).1 ⟨(whole _).mpr ⟨proxyUri, proxyScheme, uriHost,
    locationPath, locationQuery, uriPath, (mergedUriQuery _).2⟩, unpaid, rfl⟩) fun _ => ?_
  refine .ite (fun _ => .bind (mergedPath _).1 ⟨(whole _).mpr ⟨proxyUri, proxyScheme, uriHost,
    (mergedPath _).2, locationQuery, uriPath, uriQuery⟩, unpaid, rfl⟩) fun _ => ?_
  refine .ite (fun _ => .bind (mergedQuery _).1 ⟨(whole _).mpr ⟨proxyUri, proxyScheme, uriHost,
    locationPath, (mergedQuery _).2, uriPath, uriQuery⟩, unpaid, rfl⟩) fun _ => ?_
  refine .ite (fun _ => .bind int ⟨later, unpaid, rfl⟩) fun _ => ?_
  refine .ite (fun _ => .bind int ⟨later, unpaid, rfl⟩) fun _ => ?_
  refine .ite (fun _ => .bind int ⟨later, unpaid, rfl⟩) fun _ => ?_
  refine .ite (fun _ => .bind int ⟨later, unpaid, rfl⟩) fun _ => ?_
  refine .ite (fun _ => .bind int ⟨later, unpaid, rfl⟩) fun _ => ?_
  exact .ite (fun _ => same _) fun _ => same _

end Value

def optionBody (conf : CoapConf) (dataLen : UInt16) (point : ParsePoint)
    (delta current length : Nat) : Accesses UInt8 ParsePoint :=
  if current + length > dataLen.toNat then
    pure { point with outcome := some ⟨.badRequest, none⟩ }
  else if point.optionNumber + delta > coapOptionSize1 then
    pure { point with outcome := some ⟨.badRequest, none⟩ }
  else coapOption conf (coapSetOption point.message (point.optionNumber + delta))
    (point.optionNumber + delta) current length >>= fun changed =>
      pure ⟨current + length, point.optionNumber + delta, changed.1, changed.2⟩

/-- What holds between the rounds and at the end: strings and payload are slices of the datagram, and
only what has returned has a payload. -/
structure ParsePoint.Sound (dataLen : UInt16) (point : ParsePoint) : Prop where
  strings : point.message.Inside point.currentOption
  within : point.message.Inside dataLen.toNat
  payload : ∀ start, point.message.payload = some start →
    start + point.message.payloadLen.toNat ≤ dataLen.toNat
  unpaid : point.outcome = none → point.message.payload = none

structure ParsePoint.Round (dataLen : UInt16) (point next : ParsePoint) : Prop where
  sound : next.Sound dataLen
  token : next.message.token = point.message.token

def RoundFits (conf : CoapConf) (data : Memory UInt8) (dataLen : UInt16) (place : Nat) : Prop :=
  (isPayloadMarker (data place) = false → valueStart data place ≤ dataLen.toNat) ∧
    (isPayloadMarker (data place) = true →
      conf.maxChunkSize.toNat < dataLen.toNat - (place + 1))

section Round

variable {conf : CoapConf} {dataLen : UInt16} {point : ParsePoint} {memory : Memory UInt8}

def optionRound (conf : CoapConf) (dataLen : UInt16) (point : ParsePoint) (memory : Memory UInt8) :
    Accesses UInt8 ParsePoint :=
  optionBody conf dataLen point (optionDelta memory point.currentOption)
    (valueStart memory point.currentOption) (valueLength memory point.currentOption)

theorem round_option (option : isPayloadMarker (memory point.currentOption) = false) :
    ((coapParseOption conf dataLen point).value memory =
        (optionRound conf dataLen point memory).value memory ∧
      (coapParseOption conf dataLen point).after memory =
        (optionRound conf dataLen point memory).after memory) ∧
    ∀ limit, point.currentOption < limit →
      ((coapParseOption conf dataLen point).Below memory limit ↔
        valueStart memory point.currentOption ≤ limit ∧
          (optionRound conf dataLen point memory).Below memory limit) := by
  have other : ¬ isPayloadMarker (memory point.currentOption) = true := by
    rw [option]
    exact Bool.false_ne_true
  have deltaSpec := extended_spec memory (memory point.currentOption >>> 4).toNat
    (point.currentOption + 1)
  have lengthSpec := extended_spec memory (memory point.currentOption &&& 0x0f).toNat
    (point.currentOption + 1 + extraBytes (memory point.currentOption >>> 4).toNat)
  have delta : (extended (memory point.currentOption >>> 4).toNat (point.currentOption + 1)).value
      memory = (optionDelta memory point.currentOption, point.currentOption + 1 +
        extraBytes (memory point.currentOption >>> 4).toNat) := Prod.ext rfl (deltaSpec 0).1
  have length : (extended (memory point.currentOption &&& 0x0f).toNat (point.currentOption + 1 +
      extraBytes (memory point.currentOption >>> 4).toNat)).value memory =
        (valueLength memory point.currentOption, valueStart memory point.currentOption) :=
    Prod.ext rfl (lengthSpec 0).1
  unfold coapParseOption
  refine ⟨⟨?_, ?_⟩, ?_⟩
  · rw [Accesses.value_bind, Accesses.value_load, Accesses.after_load, if_neg other,
      Accesses.value_bind, delta, (deltaSpec 0).2.1]
    dsimp only
    rw [Accesses.value_bind, length, (lengthSpec 0).2.1]
    rfl
  · rw [Accesses.after_bind, Accesses.value_load, Accesses.after_load, if_neg other,
      Accesses.after_bind, delta, (deltaSpec 0).2.1]
    dsimp only
    rw [Accesses.after_bind, length, (lengthSpec 0).2.1]
    rfl
  · intro limit inside
    rw [Accesses.below_bind, Accesses.below_load, Accesses.value_load, Accesses.after_load,
      if_neg other, Accesses.below_bind, delta, (deltaSpec limit).2.1, (deltaSpec limit).2.2]
    dsimp only
    rw [Accesses.below_bind, length, (lengthSpec limit).2.1, (lengthSpec limit).2.2]
    have reach : valueStart memory point.currentOption = point.currentOption + 1 +
        extraBytes (memory point.currentOption >>> 4).toNat +
        extraBytes (memory point.currentOption &&& 0x0f).toNat := rfl
    change _ ∧ _ ∧ _ ∧ (optionRound conf dataLen point memory).Below memory limit ↔ _
    rw [← and_assoc, ← and_assoc]
    apply and_congr_left'
    omega

theorem setOption_keeps (message : CoapMessage) (opt : Nat) :
    (coapSetOption message opt).slices = message.slices ∧
      (coapSetOption message opt).payload = message.payload ∧
      (coapSetOption message opt).token = message.token := by
  unfold coapSetOption
  split
  next => exact ⟨rfl, rfl, rfl⟩
  next => exact ⟨rfl, rfl, rfl⟩

theorem badRequest_round (sound : point.Sound dataLen) :
    point.Round dataLen { point with outcome := some ⟨.badRequest, none⟩ } :=
  ⟨⟨sound.strings, sound.within, sound.payload, fun none => absurd none (Option.some_ne_none _)⟩,
    rfl⟩

structure BodySpec (dataLen : UInt16) (point : ParsePoint) (memory : Memory UInt8)
    (delta current length : Nat) (program : Accesses UInt8 ParsePoint) : Prop where
  below : program.Below memory dataLen.toNat
  keeps : program.KeepsFrom memory (current + length)
  round : point.Round dataLen (program.value memory)
  past : dataLen.toNat < current + length →
    (program.value memory).outcome = some ⟨.badRequest, none⟩
  fits : current + length ≤ dataLen.toNat →
    (program.value memory).outcome = optionOutcome (point.optionNumber + delta)
  next : (program.value memory).outcome = none →
    (program.value memory).currentOption = current + length ∧
      (program.value memory).optionNumber = point.optionNumber + delta

theorem optionBody_spec {current : Nat} (delta length : Nat) (sound : point.Sound dataLen)
    (running : point.outcome = none) (behind : point.currentOption < current) :
    BodySpec dataLen point memory delta current length
      (optionBody conf dataLen point delta current length) := by
  unfold optionBody
  split
  next past =>
    exact ⟨Accesses.below_pure _ _ _, Accesses.keepsFrom_pure _ _ _, badRequest_round sound,
      fun _ => rfl, fun fits => absurd past (Nat.not_lt_of_le fits),
      fun none => absurd none (Option.some_ne_none _)⟩
  next inside =>
    split
    next large =>
      have refused : optionOutcome (point.optionNumber + delta) = some ⟨.badRequest, none⟩ := by
        unfold optionOutcome
        rw [if_pos large]
      exact ⟨Accesses.below_pure _ _ _, Accesses.keepsFrom_pure _ _ _, badRequest_round sound,
        fun past => absurd past inside, fun _ => refused.symm,
        fun none => absurd none (Option.some_ne_none _)⟩
    next small =>
      obtain ⟨slices, payload, token⟩ :=
        setOption_keeps point.message (point.optionNumber + delta)
      have kept : (coapSetOption point.message (point.optionNumber + delta)).Inside
          point.currentOption := by
        unfold CoapMessage.Inside
        rw [slices]
        exact sound.strings
      obtain ⟨below, keeps, strings, unpaid, tokenKept⟩ := @coapOption_keeps memory dataLen.toNat
        current length conf _ _ (point.optionNumber + delta) kept
        (payload.trans (sound.unpaid running)) behind (Nat.le_of_not_lt inside)
      refine ⟨?_, keeps.bind _ _ (Accesses.keepsFrom_pure _ _ _),
        ⟨⟨strings, Inside.mono strings (Nat.le_of_not_lt inside), ?_, fun _ => unpaid⟩,
          tokenKept.trans token⟩, fun past => absurd past inside, fun _ => ?_,
        fun _ => ⟨rfl, rfl⟩⟩
      · rw [Accesses.below_bind]
        exact ⟨below, Accesses.below_pure _ _ _⟩
      · intro start some
        exact absurd (some.symm.trans unpaid) (Option.some_ne_none _)
      · rw [← coapOption_outcome conf (coapSetOption point.message (point.optionNumber + delta))
          small current length memory]
        rfl

theorem payload_spec (sound : point.Sound dataLen) (inside : point.currentOption < dataLen.toNat) :
    ((coapPayload conf dataLen point).Below memory dataLen.toNat ↔
        conf.maxChunkSize.toNat < dataLen.toNat - (point.currentOption + 1)) ∧
      point.Round dataLen ((coapPayload conf dataLen point).value memory) := by
  have bound := UInt16.toNat_lt dataLen
  have rest : (dataLen - UInt16.ofNat (point.currentOption + 1)).toNat =
      dataLen.toNat - (point.currentOption + 1) := by
    rw [UInt16.toNat_sub, UInt16.toNat_ofNat']
    omega
  obtain ⟨kept, keptIs⟩ : ∃ kept, kept = (if dataLen - UInt16.ofNat (point.currentOption + 1) >
      conf.maxChunkSize then conf.maxChunkSize
      else dataLen - UInt16.ofNat (point.currentOption + 1)) := ⟨_, rfl⟩
  have size : kept.toNat = min conf.maxChunkSize.toNat
      (dataLen.toNat - (point.currentOption + 1)) := by
    rw [keptIs]
    split
    next longer =>
      have more := UInt16.lt_iff_toNat_lt.mp longer
      omega
    next fits =>
      have less := mt UInt16.lt_iff_toNat_lt.mpr fits
      omega
  unfold coapPayload
  dsimp only
  rw [← keptIs]
  refine ⟨?_, ⟨⟨?_, sound.within, ?_, fun none => absurd none (Option.some_ne_none _)⟩, rfl⟩⟩
  · rw [Accesses.below_bind, Accesses.below_store]
    simp only [Accesses.below_pure, and_true]
    omega
  · exact Inside.mono sound.strings (Nat.le_succ _)
  · intro start some
    obtain rfl := Option.some.inj some
    change point.currentOption + 1 + kept.toNat ≤ dataLen.toNat
    omega

structure RoundSpec (conf : CoapConf) (dataLen : UInt16) (point : ParsePoint)
    (memory data : Memory UInt8) (program : Accesses UInt8 ParsePoint) : Prop where
  round : point.Round dataLen (program.value memory)
  below : program.Below memory dataLen.toNat ↔ RoundFits conf data dataLen point.currentOption
  payload : isPayloadMarker (data point.currentOption) = true →
    (program.value memory).outcome = some ⟨.noError, none⟩
  past : isPayloadMarker (data point.currentOption) = false →
    dataLen.toNat < valueStart data point.currentOption + valueLength data point.currentOption →
    (program.value memory).outcome = some ⟨.badRequest, none⟩
  fits : isPayloadMarker (data point.currentOption) = false →
    valueStart data point.currentOption + valueLength data point.currentOption ≤ dataLen.toNat →
    (program.value memory).outcome =
      optionOutcome (point.optionNumber + optionDelta data point.currentOption)
  keeps : (program.value memory).outcome = none →
    program.KeepsFrom memory (program.value memory).currentOption
  next : (program.value memory).outcome = none →
    (program.value memory).currentOption =
      valueStart data point.currentOption + valueLength data point.currentOption ∧
      (program.value memory).optionNumber =
        point.optionNumber + optionDelta data point.currentOption

theorem RoundSpec.of_same {data : Memory UInt8} {program : Accesses UInt8 ParsePoint}
    (spec : RoundSpec conf dataLen point memory memory program)
    (same : ∀ index, point.currentOption ≤ index → memory index = data index) :
    RoundSpec conf dataLen point memory data program := by
  obtain ⟨round, below, payload, past, fits, keeps, next⟩ := spec
  obtain ⟨start, delta, length⟩ := option_same same
  have first := same point.currentOption (Nat.le_refl _)
  unfold RoundFits at below
  rw [first, start] at below
  rw [first] at payload
  rw [first, start, length] at past
  rw [first, start, length, delta] at fits
  rw [start, length, delta] at next
  exact ⟨round, below, payload, past, fits, keeps, next⟩

theorem round_spec (sound : point.Sound dataLen) (running : point.outcome = none)
    (inside : point.currentOption < dataLen.toNat) :
    RoundSpec conf dataLen point memory memory (coapParseOption conf dataLen point) := by
  cases marker : isPayloadMarker (memory point.currentOption) with
  | true =>
    obtain ⟨below, round⟩ := @payload_spec conf dataLen point memory sound inside
    have value : (coapParseOption conf dataLen point).value memory =
        (coapPayload conf dataLen point).value memory := by
      unfold coapParseOption
      rw [Accesses.value_bind, Accesses.value_load, Accesses.after_load, if_pos marker]
    have outcome : ((coapParseOption conf dataLen point).value memory).outcome =
        some ⟨.noError, none⟩ := by
      rw [value]
      rfl
    have option : isPayloadMarker (memory point.currentOption) ≠ false := by
      rw [marker]
      exact Bool.false_ne_true.symm
    have stops : ((coapParseOption conf dataLen point).value memory).outcome ≠ none := by
      rw [outcome]
      exact Option.some_ne_none _
    refine ⟨value ▸ round, ?_, fun _ => outcome, fun other => absurd other option,
      fun other => absurd other option, fun none => absurd none stops,
      fun none => absurd none stops⟩
    unfold coapParseOption RoundFits
    rw [Accesses.below_bind, Accesses.value_load, Accesses.after_load, if_pos marker, below,
      Accesses.below_load]
    simp [inside, marker]
  | false =>
    obtain ⟨⟨value, after⟩, below⟩ := @round_option conf dataLen point memory marker
    have body : BodySpec dataLen point memory (optionDelta memory point.currentOption)
        (valueStart memory point.currentOption) (valueLength memory point.currentOption)
        (optionRound conf dataLen point memory) :=
      optionBody_spec _ _ sound running (valueStart_gt memory point.currentOption)
    have option : isPayloadMarker (memory point.currentOption) ≠ true := by
      rw [marker]
      exact Bool.false_ne_true
    refine ⟨value ▸ body.round, ?_, fun other => absurd other option, fun _ => ?_, fun _ => ?_,
      ?_, ?_⟩
    · unfold RoundFits
      rw [below dataLen.toNat inside]
      simp [body.below, marker]
    · rw [value]
      exact body.past
    · rw [value]
      exact body.fits
    · intro goesOn place behind
      rw [value] at goesOn behind
      rw [after]
      rw [(body.next goesOn).1] at behind
      exact body.keeps place behind
    · rw [value]
      exact body.next

end Round

theorem parseToken_cases (message : CoapMessage) (memory : Memory UInt8) (limit : Nat) :
    (message.version = 1 ∧ message.tokenLen.toNat ≤ coapTokenLen) ∧
        (coapParseToken message).value memory =
          ⟨coapHeaderLen + message.tokenLen.toNat, 0,
            { message with token := memory.read coapHeaderLen message.tokenLen.toNat }, none⟩ ∧
        ((coapParseToken message).Below memory limit ↔ (message.tokenLen.toNat ≠ 0 →
          coapHeaderLen + message.tokenLen.toNat ≤ limit)) ∨
      ¬ (message.version = 1 ∧ message.tokenLen.toNat ≤ coapTokenLen) ∧
        (∃ text, (coapParseToken message).value memory =
          ⟨0, 0, message, some ⟨.badRequest, some text⟩⟩) ∧
        (coapParseToken message).Below memory limit := by
  unfold coapParseToken
  split
  next version => exact .inr ⟨fun right => version right.1, ⟨_, rfl⟩, Accesses.below_pure _ _ _⟩
  next version =>
    split
    next longer =>
      exact .inr ⟨fun right => absurd right.2 (Nat.not_le_of_lt longer), ⟨_, rfl⟩,
        Accesses.below_pure _ _ _⟩
    next fits =>
      refine .inl ⟨⟨not_not.mp version, Nat.le_of_not_lt fits⟩, rfl, ?_⟩
      simp only [Accesses.below_bind, Accesses.below_loadAll, Accesses.below_pure, and_true]

variable (data : Memory UInt8)

theorem header_value :
    coapParseHeader.value data = (coapParseToken (headerMessage data)).value data := rfl

theorem header_after : coapParseHeader.after data = data := by
  have token : (coapParseToken (headerMessage data)).after data = data := by
    unfold coapParseToken
    split
    next => rfl
    next =>
      split
      next => rfl
      next => rfl
  exact token

theorem header_below (limit : Nat) :
    coapParseHeader.Below data limit ↔
      coapHeaderLen ≤ limit ∧ (coapParseToken (headerMessage data)).Below data limit := by
  have four : (0 < limit ∧ 1 < limit ∧ 2 < limit ∧ 3 < limit) ↔ coapHeaderLen ≤ limit := by
    unfold coapHeaderLen
    omega
  unfold coapParseHeader
  simp only [Accesses.below_bind, Accesses.below_load, Accesses.value_load, Accesses.after_load]
  rw [← four]
  simp only [and_assoc]
  rfl

theorem header_below_iff (limit : Nat) :
    coapParseHeader.Below data limit ↔ coapHeaderLen ≤ limit ∧
      (HeaderAccepted data → coapHeaderLen + (headerMessage data).tokenLen.toNat ≤ limit) := by
  rw [header_below]
  apply and_congr_right
  intro header
  rcases parseToken_cases (headerMessage data) data limit with ⟨right, -, below⟩ |
    ⟨wrong, -, below⟩
  · rw [below]
    constructor
    · intro room _
      by_cases none : (headerMessage data).tokenLen.toNat = 0
      · omega
      · exact room none
    · exact fun room _ => room right
  · exact iff_of_true below fun accepted => absurd accepted wrong

theorem zero_inside (limit : Nat) (data : Memory UInt8) : (headerMessage data).Inside limit := by
  unfold CoapMessage.Inside
  simp [CoapMessage.slices, headerMessage, headerFields, CoapMessage.zero, CoapSlice.null,
    CoapSlice.stop]

theorem header_sound (data : Memory UInt8) (dataLen : UInt16) :
    (coapParseHeader.value data).Sound dataLen := by
  rw [header_value]
  have strings : ∀ limit, (headerMessage data).Inside limit := fun limit => zero_inside limit data
  rcases parseToken_cases (headerMessage data) data 0 with ⟨-, value, -⟩ | ⟨-, ⟨text, value⟩, -⟩
  · rw [value]
    exact ⟨strings _, strings _, fun start some => absurd some.symm (Option.some_ne_none _),
      fun _ => rfl⟩
  · rw [value]
    exact ⟨strings _, strings _, fun start some => absurd some.symm (Option.some_ne_none _),
      fun none => absurd none (Option.some_ne_none _)⟩

end MultiPhyTsch.Coap
