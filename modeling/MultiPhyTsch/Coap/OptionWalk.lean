import MultiPhyTsch.Coap.ParseMessage

/-! The options of a CoAP message as the bytes of the datagram place them, one behind the other. -/

namespace MultiPhyTsch.Coap

def extraBytes (nibble : Nat) : Nat := if nibble = 13 then 1 else if nibble = 14 then 2 else 0

section

variable (data : Memory UInt8) (place : Nat)

/-- Where the option at `place` has its value, behind the bytes that extend its delta and length. -/
def valueStart : Nat :=
  place + 1 + extraBytes (data place >>> 4).toNat + extraBytes (data place &&& 0x0f).toNat

def optionDelta : Nat := ((extended (data place >>> 4).toNat (place + 1)).value data).1

def valueLength : Nat :=
  ((extended (data place &&& 0x0f).toNat
    (place + 1 + extraBytes (data place >>> 4).toNat)).value data).1

end

def parsedOptions : List Nat :=
  [coapOptionContentFormat, coapOptionMaxAge, coapOptionEtag, coapOptionAccept, coapOptionIfMatch,
    coapOptionIfNoneMatch, coapOptionUriHost, coapOptionUriPort, coapOptionUriPath,
    coapOptionUriQuery, coapOptionLocationPath, coapOptionLocationQuery, coapOptionObserve,
    coapOptionBlock2, coapOptionBlock1, coapOptionSize2, coapOptionSize1]

def optionOutcome (number : Nat) : Option CoapOutcome :=
  if number > coapOptionSize1 then some ⟨.badRequest, none⟩
  else if number ∈ parsedOptions then none
  else if number = coapOptionProxyUri ∨ number = coapOptionProxyScheme then
    some ⟨.proxyingNotSupported, some "This is a constrained server (Contiki)"⟩
  else if number % 2 = 1 then some ⟨.badOption, some "Unsupported critical option"⟩
  else none

def headerMessage (data : Memory UInt8) : CoapMessage :=
  headerFields (data 0) (data 1) (data 2) (data 3)

def HeaderAccepted (data : Memory UInt8) : Prop :=
  (headerMessage data).version = 1 ∧ (headerMessage data).tokenLen.toNat ≤ coapTokenLen

inductive Reaches (data : Memory UInt8) (dataLen : UInt16) (passes : Nat → Prop) :
    (place number : Nat) → Prop
  | first : HeaderAccepted data →
      Reaches data dataLen passes (coapHeaderLen + (headerMessage data).tokenLen.toNat) 0
  | next {place number} : Reaches data dataLen passes place number → place < dataLen.toNat →
      isPayloadMarker (data place) = false →
      valueStart data place + valueLength data place ≤ dataLen.toNat →
      passes (number + optionDelta data place) →
      Reaches data dataLen passes (valueStart data place + valueLength data place)
        (number + optionDelta data place)

def Parsed (number : Nat) : Prop := optionOutcome number = none

theorem extended_spec (memory : Memory UInt8) (nibble current limit : Nat) :
    ((extended nibble current).value memory).2 = current + extraBytes nibble ∧
      (extended nibble current).after memory = memory ∧
      ((extended nibble current).Below memory limit ↔
        (extraBytes nibble ≠ 0 → current + extraBytes nibble ≤ limit)) := by
  unfold extended extraBytes
  split
  next =>
    refine ⟨rfl, rfl, ?_⟩
    simp only [Accesses.below_bind, Accesses.below_load, Accesses.below_pure, and_true]
    omega
  next =>
    split
    next =>
      refine ⟨rfl, rfl, ?_⟩
      simp only [Accesses.below_bind, Accesses.below_load, Accesses.below_pure, and_true]
      omega
    next => exact ⟨rfl, rfl, by simp⟩

section

variable {memory data : Memory UInt8} {place : Nat}
  (same : ∀ index, place ≤ index → memory index = data index)

include same

theorem extended_same (nibble : Nat) {current : Nat} (behind : place ≤ current) :
    (extended nibble current).value memory = (extended nibble current).value data := by
  unfold extended
  split
  next =>
    simp only [Accesses.value_bind, Accesses.value_load, Accesses.value_pure]
    rw [same current behind]
  next =>
    split
    next =>
      simp only [Accesses.value_bind, Accesses.value_load, Accesses.after_load,
        Accesses.value_pure]
      rw [same current behind, same (current + 1) (by omega)]
    next => rfl

theorem option_same :
    valueStart memory place = valueStart data place ∧
      optionDelta memory place = optionDelta data place ∧
      valueLength memory place = valueLength data place := by
  have first := same place (Nat.le_refl place)
  unfold valueStart optionDelta valueLength
  rw [first, extended_same same _ (by omega), extended_same same _ (by omega)]
  exact ⟨rfl, rfl, rfl⟩

end

theorem valueStart_gt (data : Memory UInt8) (place : Nat) : place < valueStart data place := by
  unfold valueStart
  omega

theorem optionOutcome_refuses {number : Nat} {outcome : CoapOutcome}
    (refused : optionOutcome number = some outcome) : outcome.status ≠ .noError := by
  unfold optionOutcome at refused
  split at refused
  next =>
    obtain rfl := Option.some.inj refused
    decide
  next =>
    split at refused
    next => cases refused
    next =>
      split at refused
      next =>
        obtain rfl := Option.some.inj refused
        decide
      next =>
        split at refused
        next =>
          obtain rfl := Option.some.inj refused
          decide
        next => cases refused

theorem coapOption_outcome (conf : CoapConf) (message : CoapMessage) {number : Nat}
    (small : ¬ number > coapOptionSize1) (current length : Nat) (memory : Memory UInt8) :
    ((coapOption conf message number current length).value memory).2 = optionOutcome number := by
  have each : ∀ known ∈ parsedOptions,
      ((coapOption conf message known current length).value memory).2 = none := by
    simp only [parsedOptions, List.forall_mem_cons]
    exact ⟨rfl, rfl, rfl, rfl, rfl, rfl, rfl, rfl, rfl, rfl, rfl, rfl, rfl, rfl, rfl, rfl, rfl,
      fun _ absent => absurd absent List.not_mem_nil⟩
  unfold optionOutcome
  rw [if_neg small]
  by_cases parsed : number ∈ parsedOptions
  · rw [if_pos parsed]
    exact each number parsed
  · rw [if_neg parsed]
    simp only [parsedOptions, List.mem_cons, List.not_mem_nil, not_or] at parsed
    obtain ⟨format, age, etag, accept, ifMatch, ifNoneMatch, host, port, path, query, location,
      locationQuery, observe, block2, block1, size2, size1, -⟩ := parsed
    unfold coapOption
    rw [if_neg format, if_neg age, if_neg etag, if_neg accept, if_neg ifMatch, if_neg ifNoneMatch]
    by_cases uri : number = coapOptionProxyUri
    · have proxy : number = coapOptionProxyUri ∨ number = coapOptionProxyScheme := .inl uri
      rw [if_pos proxy, if_pos uri]
      rfl
    · rw [if_neg uri]
      by_cases scheme : number = coapOptionProxyScheme
      · have proxy : number = coapOptionProxyUri ∨ number = coapOptionProxyScheme := .inr scheme
        rw [if_pos proxy, if_pos scheme]
        rfl
      · have direct : ¬ (number = coapOptionProxyUri ∨ number = coapOptionProxyScheme) :=
          not_or.mpr ⟨uri, scheme⟩
        rw [if_neg direct, if_neg scheme, if_neg host, if_neg port, if_neg path, if_neg query,
          if_neg location, if_neg locationQuery, if_neg observe, if_neg block2, if_neg block1,
          if_neg size2, if_neg size1]
        by_cases critical : number % 2 = 1
        · rw [if_pos critical, if_pos critical]
          rfl
        · rw [if_neg critical, if_neg critical]
          rfl

end MultiPhyTsch.Coap
