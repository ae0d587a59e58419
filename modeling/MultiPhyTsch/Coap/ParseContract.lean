import MultiPhyTsch.Coap.ParseBounds

/-! Where the parser of CoAP messages stays within the datagram. Nothing is compared with the length
of the datagram before the end of an option is known, and the payload gets a zero behind it. -/

namespace MultiPhyTsch.Coap

inductive Overlong (data : Memory UInt8) (dataLen : UInt16) : Prop
  | header : dataLen.toNat < coapHeaderLen → Overlong data dataLen
  | token : dataLen.toNat < coapHeaderLen + (headerMessage data).tokenLen.toNat →
      Overlong data dataLen
  | option {place number : Nat} : Reaches data dataLen (fun _ => True) place number →
      place < dataLen.toNat → isPayloadMarker (data place) = false →
      dataLen.toNat < valueStart data place + valueLength data place → Overlong data dataLen

/-- The parser returns, touches nothing behind the datagram, stores only slices of it, and rejects
what extends beyond it. -/
structure ParseContract (data : Memory UInt8) (dataLen : UInt16) (result : Option ParseState) :
    Prop where
  returns : ∃ last, result = some last
  confined : ∀ last ∈ result, ∀ place ∈ last.touched, place < dataLen.toNat
  strings : ∀ last ∈ result, last.point.message.Inside dataLen.toNat
  token : ∀ last ∈ result, last.point.message.token ≠ [] →
    coapHeaderLen + last.point.message.token.length ≤ dataLen.toNat
  payload : ∀ last ∈ result, ∀ start, last.point.message.payload = some start →
    start + last.point.message.payloadLen.toNat ≤ dataLen.toNat
  rejects : ∀ last ∈ result, Overlong data dataLen → last.status ≠ .noError

/-- The header and the token are there, every option that the parser comes to has the bytes of its
delta and length, and a payload is longer than the parser keeps. -/
structure ParseFits (conf : CoapConf) (data : Memory UInt8) (dataLen : UInt16) : Prop where
  header : coapHeaderLen ≤ dataLen.toNat
  token : HeaderAccepted data →
    coapHeaderLen + (headerMessage data).tokenLen.toNat ≤ dataLen.toNat
  options : ∀ place number, Reaches data dataLen Parsed place number → place < dataLen.toNat →
    RoundFits conf data dataLen place

section Run

variable {conf : CoapConf} {data : Memory UInt8} {dataLen : UInt16} {state after : ParseState}

structure ParseState.At (data : Memory UInt8) (state : ParseState) (place number : Nat) : Prop where
  running : state.point.outcome = none
  place : state.point.currentOption = place
  number : state.point.optionNumber = number
  same (index : Nat) : state.point.currentOption ≤ index → state.memory index = data index

structure ParseState.Kept (data : Memory UInt8) (dataLen : UInt16) (state : ParseState) :
    Prop where
  sound : state.point.Sound dataLen
  token : state.point.message.token = (ParseState.start data).point.message.token

theorem step_cases (stepped : state.step conf dataLen = some after) :
    state.point.outcome = none ∧ state.point.currentOption < dataLen.toNat ∧
      after = state.go (coapParseOption conf dataLen state.point) := by
  unfold ParseState.step at stepped
  split at stepped
  next runs => exact ⟨runs.1, runs.2, (Option.some.inj stepped).symm⟩
  next => cases stepped

theorem step_of_running (running : state.point.outcome = none)
    (inside : state.point.currentOption < dataLen.toNat) :
    state.step conf dataLen = some (state.go (coapParseOption conf dataLen state.point)) := by
  unfold ParseState.step
  rw [if_pos ⟨running, inside⟩]

theorem left_of_returned (returned : state.point.outcome ≠ none) :
    state.step conf dataLen = none := by
  unfold ParseState.step
  rw [if_neg fun runs => returned runs.1]

theorem visited_kept (visits : Loop.Visits (ParseState.step conf dataLen) (.start data) state) :
    state.Kept data dataLen := by
  induction visits with
  | start => exact ⟨header_sound data dataLen, rfl⟩
  | @next state _ _ stepped ih =>
    obtain ⟨running, inside, rfl⟩ := step_cases stepped
    have round := (@round_spec conf dataLen state.point state.memory ih.sound running inside).round
    exact ⟨round.sound, round.token.trans ih.token⟩

variable {place number : Nat}

theorem At.spec (stands : state.At data place number)
    (visits : Loop.Visits (ParseState.step conf dataLen) (.start data) state)
    (inside : place < dataLen.toNat) : RoundSpec conf dataLen state.point state.memory data
      (coapParseOption conf dataLen state.point) := by
  have within : state.point.currentOption < dataLen.toNat := stands.place ▸ inside
  exact (round_spec (visited_kept visits).sound stands.running within).of_same stands.same

theorem start_cases (data : Memory UInt8) :
    HeaderAccepted data ∧ (ParseState.start data).At data
        (coapHeaderLen + (headerMessage data).tokenLen.toNat) 0 ∧
        (ParseState.start data).point.message.token.length =
          (headerMessage data).tokenLen.toNat ∨
      ¬ HeaderAccepted data ∧ (∃ text, (ParseState.start data).point.outcome =
        some ⟨.badRequest, text⟩) ∧ (ParseState.start data).point.message.token = [] := by
  have memory : (ParseState.start data).memory = data := header_after data
  have point : (ParseState.start data).point = (coapParseToken (headerMessage data)).value data :=
    rfl
  rcases parseToken_cases (headerMessage data) data 0 with ⟨accepted, value, -⟩ |
    ⟨refused, ⟨text, value⟩, -⟩
  · rw [value] at point
    refine .inl ⟨accepted, ⟨?_, ?_, ?_, fun index _ => by rw [memory]⟩, ?_⟩
    · rw [point]
    · rw [point]
    · rw [point]
    · rw [point]
      exact Memory.read_length _ _ _
  · rw [value] at point
    refine .inr ⟨refused, ⟨text, ?_⟩, ?_⟩
    · rw [point]
    · rw [point]
      rfl

theorem At.next (stands : state.At data place number)
    (visits : Loop.Visits (ParseState.step conf dataLen) (.start data) state)
    (inside : place < dataLen.toNat)
    (goesOn : (state.go (coapParseOption conf dataLen state.point)).point.outcome = none) :
    (state.go (coapParseOption conf dataLen state.point)).At data
      (valueStart data place + valueLength data place) (number + optionDelta data place) := by
  have spec := At.spec stands visits inside
  obtain ⟨running, rfl, rfl, same⟩ := stands
  obtain ⟨place, number⟩ := spec.next goesOn
  refine ⟨goesOn, place, number, fun index behind => ?_⟩
  have further : state.point.currentOption ≤ index := by
    have more := valueStart_gt data state.point.currentOption
    change ((coapParseOption conf dataLen state.point).value state.memory).currentOption ≤ index
      at behind
    omega
  rw [← same index further]
  exact spec.keeps goesOn index behind

theorem Reaches.visited (conf : CoapConf) {passes : Nat → Prop}
    (reaches : Reaches data dataLen passes place number) :
    (∃ state, Loop.Visits (ParseState.step conf dataLen) (.start data) state ∧
        state.At data place number) ∨
      ∃ state refused, Loop.Visits (ParseState.step conf dataLen) (.start data) state ∧
        passes refused ∧ optionOutcome refused ≠ none ∧
        state.point.outcome = optionOutcome refused := by
  induction reaches with
  | first accepted =>
    rcases start_cases data with ⟨-, stands, -⟩ | ⟨refused, -⟩
    · exact .inl ⟨_, .start, stands⟩
    · exact absurd accepted refused
  | @next place number _ inside option fits passed ih =>
    rcases ih with ⟨state, visits, stands⟩ | returned
    · have spec := At.spec stands visits inside
      have within : state.point.currentOption < dataLen.toNat := stands.place ▸ inside
      have visited := visits.next (step_of_running stands.running within)
      have result := spec.fits
      rw [stands.place, stands.number] at result
      by_cases parsed : optionOutcome (number + optionDelta data place) = none
      · exact .inl ⟨_, visited, At.next stands visits inside
          ((result option fits).trans parsed)⟩
      · exact .inr ⟨_, _, visited, passed, parsed, result option fits⟩
    · exact .inr returned

theorem visited_at (visits : Loop.Visits (ParseState.step conf dataLen) (.start data) state)
    (running : state.point.outcome = none) :
    ∃ place number, Reaches data dataLen Parsed place number ∧ state.At data place number := by
  induction visits with
  | start =>
    rcases start_cases data with ⟨accepted, stands, -⟩ | ⟨-, ⟨text, returned⟩, -⟩
    · exact ⟨_, _, .first accepted, stands⟩
    · rw [running] at returned
      cases returned
  | @next state _ visits stepped ih =>
    obtain ⟨before, within, rfl⟩ := step_cases stepped
    obtain ⟨place, number, reaches, stands⟩ := ih before
    have inside : place < dataLen.toNat := stands.place ▸ within
    have spec := At.spec stands visits inside
    obtain ⟨-, -, payload, past, fits, -, -⟩ := spec
    rw [stands.place] at payload past
    rw [stands.place, stands.number] at fits
    change ((coapParseOption conf dataLen state.point).value state.memory).outcome = none
      at running
    have option : isPayloadMarker (data place) = false := by
      cases marker : isPayloadMarker (data place) with
      | false => rfl
      | true =>
        have returned := payload marker
        rw [running] at returned
        cases returned
    have room : valueStart data place + valueLength data place ≤ dataLen.toNat := by
      by_contra beyond
      have returned := past option (Nat.lt_of_not_le beyond)
      rw [running] at returned
      cases returned
    exact ⟨_, _, .next reaches inside option room ((fits option room).symm.trans running),
      At.next stands visits inside running⟩

end Run

section Message

variable (conf : CoapConf) (data : Memory UInt8) (dataLen : UInt16)

def ParseState.position (dataLen : UInt16) (state : ParseState) : Nat :=
  if state.point.outcome = none then min state.point.currentOption dataLen.toNat else dataLen.toNat

theorem parse_returns : ∃ last, coapParseMessage conf data dataLen = some last := by
  apply Option.isSome_iff_exists.mp
  refine @Loop.ends_of_advances _ _ (ParseState.position dataLen) dataLen.toNat ?_ dataLen.toNat _
    (Nat.le_add_left _ _) ?_
  · intro state
    unfold ParseState.position
    split
    next => exact Nat.min_le_right _ _
    next => exact Nat.le_refl _
  · intro state next visits stepped
    obtain ⟨running, within, rfl⟩ := step_cases stepped
    obtain ⟨place, number, -, stands⟩ := visited_at visits running
    have inside : place < dataLen.toNat := stands.place ▸ within
    have spec := At.spec stands visits inside
    unfold ParseState.position
    rw [if_pos running]
    split
    next goesOn =>
      have further := (At.next stands visits inside goesOn).place
      have more := valueStart_gt data place
      have before := stands.place
      omega
    next => omega

section

variable {last : ParseState} (parsed : coapParseMessage conf data dataLen = some last)
include parsed

theorem confined_iff :
    (∀ place ∈ last.touched, place < dataLen.toNat) ↔ ParseFits conf data dataLen := by
  have rounds := Loop.final_iff (fun state => ∀ place ∈ state.touched, place < dataLen.toNat)
    (fun state => (coapParseOption conf dataLen state.point).Below state.memory dataLen.toNat)
    (fun state next stepped => by
      obtain ⟨-, -, rfl⟩ := step_cases stepped
      exact List.forall_mem_append) parsed
  rw [rounds]
  have header : (∀ place ∈ (ParseState.start data).touched, place < dataLen.toNat) ↔
      coapParseHeader.Below data dataLen.toNat := by
    unfold ParseState.start ParseState.go
    rw [List.nil_append]
    rfl
  rw [header, header_below_iff]
  constructor
  · rintro ⟨⟨four, token⟩, below⟩
    refine ⟨four, token, fun place number reaches inside => ?_⟩
    rcases reaches.visited conf with ⟨state, visits, stands⟩ | ⟨-, refused, -, passes, not, -⟩
    · have within : state.point.currentOption < dataLen.toNat := stands.place ▸ inside
      have stays : state.step conf dataLen ≠ none := by
        rw [step_of_running stands.running within]
        exact Option.some_ne_none _
      have fits := (At.spec stands visits inside).below.mp (below state visits stays)
      rwa [stands.place] at fits
    · exact absurd passes not
  · intro fits
    refine ⟨⟨fits.header, fits.token⟩, fun state visits stays => ?_⟩
    obtain ⟨next, stepped⟩ := Option.ne_none_iff_exists'.mp stays
    obtain ⟨running, within, -⟩ := step_cases stepped
    obtain ⟨place, number, reaches, stands⟩ := visited_at visits running
    have inside : place < dataLen.toNat := stands.place ▸ within
    apply (At.spec stands visits inside).below.mpr
    rw [stands.place]
    exact fits.options place number reaches inside

theorem status_of_visit {state : ParseState} {outcome : CoapOutcome}
    (visits : Loop.Visits (ParseState.step conf dataLen) (.start data) state)
    (returned : state.point.outcome = some outcome) : last.status = outcome.status := by
  have left : state.step conf dataLen = none := by
    apply left_of_returned
    rw [returned]
    exact Option.some_ne_none _
  obtain ⟨lastVisits, lastLeft⟩ := Loop.final_visits parsed
  obtain rfl := lastVisits.last_unique lastLeft visits left
  unfold ParseState.status
  rw [returned]
  rfl

theorem overlong_rejected (fits : ParseFits conf data dataLen) (overlong : Overlong data dataLen) :
    last.status ≠ .noError := by
  have refused : CoapStatus.badRequest ≠ .noError := by decide
  cases overlong with
  | header short => exact absurd fits.header (Nat.not_le_of_lt short)
  | token short =>
    rcases start_cases data with ⟨accepted, -⟩ | ⟨-, ⟨text, returned⟩, -⟩
    · exact absurd (fits.token accepted) (Nat.not_le_of_lt short)
    · rw [status_of_visit conf data dataLen parsed .start returned]
      exact refused
  | @option place number reaches inside option beyond =>
    rcases reaches.visited conf with ⟨state, visits, stands⟩ |
      ⟨state, number, visits, -, returns, returned⟩
    · have within : state.point.currentOption < dataLen.toNat := stands.place ▸ inside
      have visited := visits.next (step_of_running stands.running within)
      have past := (At.spec stands visits inside).past
      rw [stands.place] at past
      rw [status_of_visit conf data dataLen parsed visited (past option beyond)]
      exact refused
    · obtain ⟨outcome, refusal⟩ := Option.ne_none_iff_exists'.mp returns
      rw [status_of_visit conf data dataLen parsed visits (returned.trans refusal)]
      exact optionOutcome_refuses refusal

end

/-- The parser stays within the datagram and rejects what extends beyond it if and only if the
header, the token and the bytes of each delta and length are there and a payload is cut off. -/
theorem parse_contract_iff :
    ParseContract data dataLen (coapParseMessage conf data dataLen) ↔
      ParseFits conf data dataLen := by
  obtain ⟨last, parsed⟩ := parse_returns conf data dataLen
  rw [parsed]
  constructor
  · intro contract
    exact (confined_iff conf data dataLen parsed).mp (contract.confined last rfl)
  · intro fits
    have kept := visited_kept (Loop.final_visits parsed).1
    have only : ∀ other ∈ some last, other = last := fun other same => (Option.some.inj same).symm
    refine ⟨⟨last, rfl⟩, ?_, ?_, ?_, ?_, ?_⟩
    · intro other same
      obtain rfl := only other same
      exact (confined_iff conf data dataLen parsed).mpr fits
    · intro other same
      obtain rfl := only other same
      exact kept.sound.within
    · intro other same some
      obtain rfl := only other same
      rw [kept.token] at some ⊢
      rcases start_cases data with ⟨accepted, -, length⟩ | ⟨-, -, empty⟩
      · rw [length]
        exact fits.token accepted
      · exact absurd empty some
    · intro other same
      obtain rfl := only other same
      exact kept.sound.payload
    · intro other same
      obtain rfl := only other same
      exact overlong_rejected conf data dataLen parsed fits

end Message

def payloadMessage : Memory UInt8 := fun index => [0x40, 0x01, 0x00, 0x00, 0xff, 0x41].getD index 0

theorem payload_zero_beyond :
    ¬ ParseContract payloadMessage 6 (coapParseMessage ⟨64, false⟩ payloadMessage 6) := by
  intro contract
  obtain ⟨last, parsed⟩ := contract.returns
  have beyond : (coapParseMessage ⟨64, false⟩ payloadMessage 6).any
      (fun last => last.touched.contains 6) = true := by decide +kernel
  rw [parsed] at beyond
  have touched : 6 ∈ last.touched := List.contains_iff_mem.mp beyond
  exact absurd (contract.confined last parsed 6 touched) (by decide)

end MultiPhyTsch.Coap
