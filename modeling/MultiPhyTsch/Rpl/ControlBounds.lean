import MultiPhyTsch.Lib.Memory
import MultiPhyTsch.Rpl.DaoAck
import MultiPhyTsch.Rpl.DaoOutput
import MultiPhyTsch.Rpl.DioMessage

/-! What the parsers of the RPL control messages (`rpl-icmp6.c`) read and write. The payload lies
in `uip_buf`, so there are bytes behind it. -/

namespace MultiPhyTsch.Rpl

open Reads (element elements)

def rplDaoDFlag : UInt8 := 0x40

structure RplDaoMessage where
  parentAddr : UipIpaddr
  target : UipIpaddr
  sequence : UInt16
  instanceId : UInt8
  lifetime : UInt8
  prefixlen : UInt8
  flags : UInt8
deriving DecidableEq, Repr

/-- The variables of the loop of `dao_input`. `copied` are the sizes of the copies into fields of
16 bytes; what a longer one does to the fields behind is left out. -/
structure DaoInput where
  i : Nat
  dao : RplDaoMessage
  discarded : Bool
  copied : List Nat
deriving DecidableEq, Repr

namespace DaoInput

def target (len : Nat) (state : DaoInput) : Reads UInt8 DaoInput := do
  let prefixlen ← element (state.i + 3)
  let size := (prefixlen.toNat + 7) / 8
  let bytes ← elements size (state.i + 4 + ·)
  pure { state with
    i := state.i + len
    dao := { state.dao with
      prefixlen := prefixlen
      target := Vector.ofFn fun byte : Fin 16 => bytes.toList.getD byte 0 }
    copied := size :: state.copied }

def transit (len : Nat) (state : DaoInput) : Reads UInt8 DaoInput := do
  let lifetime ← element (state.i + 5)
  if 20 ≤ len then do
    let parentAddr ← elements 16 (state.i + 6 + ·)
    pure { state with
      i := state.i + len
      dao := { state.dao with lifetime := lifetime, parentAddr := parentAddr }
      copied := 16 :: state.copied }
  else pure { state with i := state.i + len, dao := { state.dao with lifetime := lifetime } }

def round (state : DaoInput) : Reads UInt8 DaoInput := do
  let suboptType ← element state.i
  let len ← optionLen state.i suboptType
  if suboptType = rplOptionTarget then state.target len
  else if suboptType = rplOptionTransit then state.transit len
  else pure { state with i := state.i + len }

def more (bufferLength : UInt8) (state : DaoInput) : Bool := state.i < bufferLength.toNat

def options (bufferLength : UInt8) (start : Nat) (dao : RplDaoMessage) :
    Reads UInt8 (Option DaoInput) :=
  Reads.loop (more bufferLength) round (bufferLength.toNat + 1) ⟨start, dao, false, []⟩

end DaoInput

def daoInput (inst : RplInstance) (defaultLifetime : UInt8) (payloadLen : Nat) :
    Reads UInt8 (Option DaoInput) := do
  let bufferLength := UInt8.ofNat payloadLen
  let instanceId ← element 0
  let zero := Vector.replicate 16 0
  if !inst.used || inst.instanceId != instanceId then
    pure (some ⟨0, ⟨zero, zero, 0, instanceId, 0, 0, 0⟩, true, []⟩)
  else do
    let flags ← element 1
    let sequence ← element 3
    let dao : RplDaoMessage :=
      { parentAddr := zero
        target := zero
        sequence := sequence.toUInt16
        instanceId := instanceId
        lifetime := defaultLifetime
        prefixlen := 0
        flags := flags }
    if flags &&& rplDaoDFlag ≠ 0 then do
      let dagId ← elements 16 (4 + ·)
      if dagId = inst.dag.dagId then DaoInput.options bufferLength 20 dao
      else pure (some ⟨4, dao, true, []⟩)
    else DaoInput.options bufferLength 4 dao

/-- `dao_ack_input`: the sequence number and the status, none when they are discarded. -/
def daoAckInput (inst : RplInstance) : Reads UInt8 (Option (UInt8 × UInt8)) := do
  let instanceId ← element 0
  let sequence ← element 2
  let status ← element 3
  if !inst.used || inst.instanceId != instanceId then pure none
  else pure (some (sequence, status))

structure StaysInMessage {State : Type} (copied : State → List Nat) (payload : Memory UInt8)
    (payloadLen : Nat) (parser : Reads UInt8 (Option State)) : Prop where
  ends : (parser.value payload).isSome = true
  reads : parser.Below payload payloadLen
  writes : ∀ state, parser.value payload = some state → ∀ size ∈ copied state, size ≤ 16

/-! The places at which the loops find an option, and what the options have to be. -/

section

variable (payload : Memory UInt8)

def optionSize (i : Nat) : Nat :=
  if payload i = rplOptionPad1 then 1 else 2 + (payload (i + 1)).toNat

variable (bufferLength : UInt8)

def dioAccepts (i : Nat) : Bool :=
  let len := optionSize payload i
  decide (i + len ≤ bufferLength.toNat) &&
    if payload i = rplOptionDagMetricContainer then
      decide (6 ≤ len) && [rplDagMcNone, rplDagMcEtx, rplDagMcEnergy].contains (payload (i + 2))
    else if payload i = rplOptionRouteInfo then
      decide (((payload (i + 2)).toNat + 7) / 8 + 8 ≤ len ∧ 9 ≤ len ∧ payload (i + 2) ≤ 128)
    else if payload i = rplOptionDagConf then len == 16
    else payload i == rplOptionPrefixInfo && len == 32

def dioNext (i : Nat) : Option Nat :=
  if i < bufferLength.toNat ∧ dioAccepts payload bufferLength i = true then
    some (i + optionSize payload i)
  else none

def daoNext (i : Nat) : Option Nat :=
  if i < bufferLength.toNat then some (i + optionSize payload i) else none

def ValuedMetric (i : Nat) : Prop :=
  payload i = rplOptionDagMetricContainer ∧ 6 ≤ optionSize payload i ∧
    i + optionSize payload i ≤ bufferLength.toNat ∧
    (payload (i + 2) = rplDagMcEtx ∨ payload (i + 2) = rplDagMcEnergy)

structure DioOptionFits (payloadLen i : Nat) : Prop where
  header : payload i ≠ rplOptionPad1 → i + 1 < payloadLen
  metric : ValuedMetric payload (UInt8.ofNat payloadLen) i → i + 7 < payloadLen

/-- A target has its prefix, of at most 128 bits, and a transit option its lifetime and the parent
that its length announces. -/
structure DaoOptionFits (payloadLen i : Nat) : Prop where
  header : payload i ≠ rplOptionPad1 → i + 1 < payloadLen
  target : payload i = rplOptionTarget → i + 3 < payloadLen ∧ (payload (i + 3)).toNat ≤ 128 ∧
    i + 4 + ((payload (i + 3)).toNat + 7) / 8 ≤ payloadLen
  transit : payload i = rplOptionTransit → i + 5 < payloadLen ∧
    (20 ≤ optionSize payload i → i + 22 ≤ payloadLen)

structure DioFits (payloadLen : Nat) : Prop where
  base : 24 ≤ payloadLen
  options : ∀ i, Loop.Visits (dioNext payload (UInt8.ofNat payloadLen)) 24 i →
    i < (UInt8.ofNat payloadLen).toNat → DioOptionFits payload payloadLen i

def daoStart : Nat := if payload 1 &&& rplDaoDFlag ≠ 0 then 20 else 4

/-- The fixed part of a DAO of the own instance, with the DAG ID if it is announced, and the
options of a DAO of the own DAG. -/
structure DaoFits (inst : RplInstance) (payloadLen : Nat) : Prop where
  first : 0 < payloadLen
  fixed : inst.used = true → inst.instanceId = payload 0 → daoStart payload ≤ payloadLen
  options : inst.used = true → inst.instanceId = payload 0 →
    (payload 1 &&& rplDaoDFlag ≠ 0 → payload.read 4 16 = inst.dag.dagId.toList) →
    ∀ i, Loop.Visits (daoNext payload (UInt8.ofNat payloadLen)) (daoStart payload) i →
      i < (UInt8.ofNat payloadLen).toNat → DaoOptionFits payload payloadLen i

end

section

variable {State α : Type} {copied : State → List Nat} {payload : Memory UInt8} {payloadLen : Nat}

theorem stays_bind (reader : Reads UInt8 α) (rest : α → Reads UInt8 (Option State)) :
    StaysInMessage copied payload payloadLen (reader >>= rest) ↔
      reader.Below payload payloadLen ∧
        StaysInMessage copied payload payloadLen (rest (reader.value payload)) := by
  constructor
  · rintro ⟨ends, reads, writes⟩
    rw [Reads.value_bind] at ends writes
    rw [Reads.below_bind] at reads
    exact ⟨reads.1, ends, reads.2, writes⟩
  · rintro ⟨first, ends, reads, writes⟩
    refine ⟨?_, (Reads.below_bind ..).mpr ⟨first, reads⟩, ?_⟩
    · rw [Reads.value_bind]
      exact ends
    · rw [Reads.value_bind]
      exact writes

theorem stays_pure {state : State} (none : copied state = []) :
    StaysInMessage copied payload payloadLen (pure (some state)) := by
  refine ⟨rfl, Reads.below_pure payload payloadLen _, fun other same => ?_⟩
  obtain rfl : state = other := Option.some.inj same
  rw [none]
  exact fun _ absent => absurd absent List.not_mem_nil

end

section

variable {payload : Memory UInt8} {limit : Nat}

theorem below_get16 (pos : Nat) : (get16 pos).Below payload limit ↔ pos + 1 < limit := by
  simp only [get16, Reads.below_bind, Reads.below_element, Reads.below_pure, and_true]
  omega

theorem below_get32 (pos : Nat) : (get32 pos).Below payload limit ↔ pos + 3 < limit := by
  simp only [get32, Reads.below_bind, Reads.below_element, Reads.below_pure, and_true]
  omega

theorem optionLen_value (i : Nat) :
    (optionLen i (payload i)).value payload = optionSize payload i := by
  simp only [optionLen, optionSize, Reads.value_ite, Reads.value_pure, Reads.value_bind,
    Reads.value_element]

theorem below_optionLen (i : Nat) :
    (optionLen i (payload i)).Below payload limit ↔
      (payload i ≠ rplOptionPad1 → i + 1 < limit) := by
  simp only [optionLen, Reads.below_ite, Reads.below_pure, implies_true, Reads.below_bind,
    Reads.below_element, and_true, true_and, ne_eq]

variable {state : DioInput} {len : Nat} (inside : state.i + len ≤ limit)

include inside

theorem below_dagMetricContainer :
    (state.dagMetricContainer len).Below payload limit ↔
      (6 ≤ len → payload (state.i + 2) = rplDagMcEtx ∨ payload (state.i + 2) = rplDagMcEnergy →
        state.i + 7 < limit) := by
  unfold DioInput.dagMetricContainer
  by_cases short : len < 6
  · rw [if_pos short]
    exact iff_of_true (Reads.below_pure payload limit _) fun long => absurd long (by omega)
  · rw [if_neg short]
    simp only [Reads.below_ite, Reads.below_bind, Reads.below_pure, below_get16]
    simp only [Reads.below_element, Reads.value_element]
    have none : rplDagMcEtx ≠ rplDagMcNone ∧ rplDagMcEnergy ≠ rplDagMcNone := by decide
    constructor
    · rintro ⟨-, -, -, -, -, valued⟩ - known
      rcases known with etx | energy
      · exact ((valued (by rw [etx]; exact none.1)).1 etx).1
      · have other : rplDagMcEnergy ≠ rplDagMcEtx := by decide
        have read := (valued (by rw [energy]; exact none.2)).2 (by rw [energy]; exact other)
        exact (read.1 energy).2.1
    · intro valued
      have valued := valued (by omega)
      refine ⟨by omega, by omega, by omega, by omega, fun _ => trivial, fun _ => ⟨?_, ?_⟩⟩
      · exact fun etx => ⟨valued (.inl etx), trivial⟩
      · intro _
        refine ⟨fun energy => ?_, fun _ => trivial⟩
        have read := valued (.inr energy)
        exact ⟨by omega, read, trivial⟩

theorem below_routeInfo : (state.routeInfo len).Below payload limit := by
  unfold DioInput.routeInfo
  simp only [Reads.below_ite, Reads.below_bind, Reads.below_pure, below_get32, Reads.below_elements]
  simp only [Reads.below_element, Reads.value_element]
  refine ⟨fun _ => trivial, fun long => ⟨by omega, by omega, by omega, fun fits => ?_, ?_⟩⟩
  · exact ⟨fun _ => by omega, trivial⟩
  · exact fun _ => trivial

theorem below_dagConf : (state.dagConf len).Below payload limit := by
  unfold DioInput.dagConf
  simp only [Reads.below_ite, Reads.below_bind, Reads.below_pure, below_get16]
  simp only [Reads.below_element, and_true]
  refine ⟨fun _ => trivial, fun whole => ?_⟩
  have whole := not_not.mp whole
  omega

theorem below_prefixInfo : (state.prefixInfo len).Below payload limit := by
  unfold DioInput.prefixInfo
  simp only [Reads.below_ite, Reads.below_bind, Reads.below_pure, below_get32, Reads.below_elements]
  simp only [Reads.below_element, and_true]
  refine ⟨fun _ => trivial, fun whole => ?_⟩
  have whole := not_not.mp whole
  omega

theorem below_readOption :
    (state.readOption (payload state.i) len).Below payload limit ↔
      (payload state.i = rplOptionDagMetricContainer → 6 ≤ len →
        payload (state.i + 2) = rplDagMcEtx ∨ payload (state.i + 2) = rplDagMcEnergy →
        state.i + 7 < limit) := by
  unfold DioInput.readOption
  by_cases metric : payload state.i = rplOptionDagMetricContainer
  · rw [if_pos metric, below_dagMetricContainer inside]
    exact ⟨fun read _ => read, fun read => read metric⟩
  · rw [if_neg metric]
    refine iff_of_true ?_ fun same => absurd same metric
    split
    · exact below_routeInfo inside
    · split
      · exact below_dagConf inside
      · split
        · exact below_prefixInfo inside
        · exact Reads.below_pure payload limit _

end

section

variable {payload : Memory UInt8} {payloadLen : Nat} {state : DioInput}

theorem ofNat_le (count : Nat) : (UInt8.ofNat count).toNat ≤ count := Nat.mod_le count 256

theorem below_dioRound (inside : state.i < (UInt8.ofNat payloadLen).toNat) :
    (state.round (UInt8.ofNat payloadLen)).Below payload payloadLen ↔
      DioOptionFits payload payloadLen state.i := by
  have bufferLength := ofNat_le payloadLen
  have here : state.i < payloadLen := by omega
  unfold DioInput.round
  rw [Reads.below_bind, Reads.below_element, Reads.value_element, Reads.below_bind, below_optionLen,
    optionLen_value, Reads.below_ite, and_iff_right here]
  constructor
  · rintro ⟨header, -, option⟩
    refine ⟨header, fun ⟨metric, long, fits, valued⟩ => ?_⟩
    have within : ¬ (UInt8.ofNat payloadLen).toNat < optionSize payload state.i + state.i := by
      omega
    have inMessage : state.i + optionSize payload state.i ≤ payloadLen := by omega
    exact (below_readOption inMessage).mp (option within) metric long valued
  · rintro ⟨header, metric⟩
    refine ⟨header, fun _ => Reads.below_pure payload payloadLen _, fun within => ?_⟩
    have inMessage : state.i + optionSize payload state.i ≤ payloadLen := by omega
    rw [below_readOption inMessage]
    exact fun type long valued => metric ⟨type, long, by omega, valued⟩

end

structure DioInput.Follows (accepted : Bool) (len : Nat) (state next : DioInput) : Prop where
  discarded : next.discarded = !accepted
  further : accepted = true → next.i = state.i + len
  copied : (∀ size ∈ state.copied, size ≤ 16) → ∀ size ∈ next.copied, size ≤ 16

namespace DioInput

variable {payload : Memory UInt8} {state : DioInput} (len : Nat)

theorem follows_discard : Follows false len state state.discard :=
  ⟨rfl, fun absent => Bool.noConfusion absent, id⟩

variable (live : state.discarded = false)

include live

theorem follows_next (dio : RplDioMessage) : Follows true len state (state.next len dio) :=
  ⟨live, fun _ => rfl, id⟩

theorem follows_copy {size : Nat} (fits : size ≤ 16) (dio : RplDioMessage) :
    Follows true len state ((state.copy size).next len dio) := by
  refine ⟨live, fun _ => rfl, fun small other member => ?_⟩
  rcases List.mem_cons.mp member with rfl | old
  · exact fits
  · exact small other old

theorem follows_dagMetricContainer :
    Follows (decide (6 ≤ len) &&
        [rplDagMcNone, rplDagMcEtx, rplDagMcEnergy].contains (payload (state.i + 2)))
      len state ((state.dagMetricContainer len).value payload) := by
  unfold dagMetricContainer
  by_cases short : len < 6
  · have refused : decide (6 ≤ len) = false := decide_eq_false (by omega)
    rw [if_pos short, refused]
    exact follows_discard len
  · have long : decide (6 ≤ len) = true := decide_eq_true (by omega)
    rw [if_neg short, long, Bool.true_and]
    simp only [Reads.value_ite, Reads.value_bind, Reads.value_pure]
    rw [← Reads.value_element payload (state.i + 2)]
    split
    next none =>
      rw [none]
      exact follows_next len live _
    next valued =>
      split
      next etx =>
        rw [etx]
        exact follows_next len live _
      next other =>
        split
        next energy =>
          rw [energy]
          exact follows_next len live _
        next unsupported =>
          rw [List.contains_eq_any_beq]
          simp only [List.any_cons, List.any_nil, beq_false_of_ne valued, beq_false_of_ne other,
            beq_false_of_ne unsupported, Bool.or_false]
          exact follows_discard len

theorem follows_routeInfo :
    Follows (decide (((payload (state.i + 2)).toNat + 7) / 8 + 8 ≤ len ∧ 9 ≤ len ∧
        payload (state.i + 2) ≤ 128))
      len state ((state.routeInfo len).value payload) := by
  unfold routeInfo
  by_cases short : len < 9
  · rw [if_pos short, decide_eq_false (by omega)]
    exact follows_discard len
  · rw [if_neg short]
    simp only [Reads.value_ite, Reads.value_bind, Reads.value_pure]
    rw [← Reads.value_element payload (state.i + 2)]
    split
    next fits =>
      have bytes : ((element (state.i + 2)).value payload).toNat ≤ 128 :=
        UInt8.le_iff_toNat_le.mp fits.2
      rw [decide_eq_true ⟨fits.1, by omega, fits.2⟩]
      exact follows_copy len live (by omega) _
    next refused =>
      rw [decide_eq_false fun both => refused ⟨both.1, both.2.2⟩]
      exact follows_discard len

theorem follows_dagConf :
    Follows (len == 16) len state ((state.dagConf len).value payload) := by
  unfold dagConf
  by_cases whole : len = 16
  · rw [if_neg (not_not.mpr whole), whole]
    exact follows_next 16 live _
  · rw [if_pos whole, beq_false_of_ne whole]
    exact follows_discard len

theorem follows_prefixInfo :
    Follows (len == 32) len state ((state.prefixInfo len).value payload) := by
  unfold prefixInfo
  by_cases whole : len = 32
  · rw [if_neg (not_not.mpr whole), whole]
    simp only [Reads.value_bind, Reads.value_pure]
    exact follows_copy 32 live (Nat.le_refl 16) _
  · rw [if_pos whole, beq_false_of_ne whole]
    exact follows_discard len

theorem follows_round (bufferLength : UInt8) :
    Follows (dioAccepts payload bufferLength state.i) (optionSize payload state.i) state
      ((state.round bufferLength).value payload) := by
  unfold round dioAccepts
  rw [Reads.value_bind, Reads.value_element, Reads.value_bind, optionLen_value, Reads.value_ite]
  dsimp only
  by_cases beyond : bufferLength.toNat < optionSize payload state.i + state.i
  · rw [if_pos beyond, decide_eq_false (by omega), Bool.false_and]
    exact follows_discard _
  · rw [if_neg beyond, decide_eq_true (by omega), Bool.true_and, readOption]
    split
    · exact follows_dagMetricContainer _ live
    · split
      · exact follows_routeInfo _ live
      · split
        · exact follows_dagConf _ live
        · split
          next info =>
            rw [info]
            exact follows_prefixInfo _ live
          next other =>
            rw [beq_false_of_ne other, Bool.false_and]
            exact follows_discard _

end DioInput

section

variable (payload : Memory UInt8) (payloadLen : Nat)

theorem optionSize_pos (i : Nat) : 0 < optionSize payload i := by
  unfold optionSize
  split <;> omega

theorem dioNext_eq_some {bufferLength : UInt8} {i place : Nat} :
    dioNext payload bufferLength i = some place ↔
      i < bufferLength.toNat ∧ dioAccepts payload bufferLength i = true ∧
        i + optionSize payload i = place := by
  unfold dioNext
  split
  next both => simp [both]
  next not =>
    constructor
    · exact fun absent => nomatch absent
    · exact fun all => absurd ⟨all.1, all.2.1⟩ not

theorem DioInput.more_iff {bufferLength : UInt8} {state : DioInput} :
    state.more bufferLength = true ↔
      state.discarded = false ∧ state.i < bufferLength.toNat := by
  simp [DioInput.more]

variable {payload payloadLen} {bufferLength : UInt8} {state : DioInput} {fuel : Nat}

theorem dioRound_live (goesOn : state.more bufferLength = true) :
    ((state.round bufferLength).value payload).discarded = false ↔
      dioAccepts payload bufferLength state.i = true := by
  have live := (DioInput.more_iff.mp goesOn).1
  rw [(DioInput.follows_round live bufferLength).discarded, Bool.not_eq_false']

theorem dioLoop_ends (fuel : Nat) (enough : bufferLength.toNat ≤ state.i + fuel) :
    ((Reads.loop (DioInput.more bufferLength) (DioInput.round bufferLength) (fuel + 1) state).value
      payload).isSome = true := by
  refine Reads.loop_ends DioInput.i bufferLength.toNat ?_ ?_ fun _ => enough
  · exact fun state goesOn => (DioInput.more_iff.mp goesOn).2
  · intro state goesOn again
    have live := (DioInput.more_iff.mp goesOn).1
    have accepted := (dioRound_live goesOn).mp (DioInput.more_iff.mp again).1
    have further := (DioInput.follows_round live bufferLength).further accepted
    have longer := optionSize_pos payload state.i
    omega

theorem dioLoop_visits_iff (live : state.discarded = false) {property : Nat → Prop} :
    (∀ i, Loop.Visits (dioNext payload bufferLength) state.i i → property i) ↔
      ∀ other, Loop.Visits
        (Reads.loopStep (DioInput.more bufferLength) (DioInput.round bufferLength) payload) state
          other → other.discarded = false → property other.i := by
  refine Loop.forall_visits_of_follows DioInput.i (fun state => state.discarded = false) live
    ?_ ?_ ?_
  · intro before next stepped _
    exact (DioInput.more_iff.mp (Reads.loopStep_eq_some.mp stepped).1).1
  · intro before next live stepped alive
    obtain ⟨goesOn, rfl⟩ := Reads.loopStep_eq_some.mp stepped
    have accepted := (dioRound_live goesOn).mp alive
    have further := (DioInput.follows_round live bufferLength).further accepted
    exact (dioNext_eq_some payload).mpr ⟨(DioInput.more_iff.mp goesOn).2, accepted, further.symm⟩
  · intro before place live found
    obtain ⟨inside, accepted, rfl⟩ := (dioNext_eq_some payload).mp found
    have goesOn := DioInput.more_iff.mpr ⟨live, inside⟩
    exact ⟨_, Reads.loopStep_of_more goesOn, (dioRound_live goesOn).mpr accepted,
      (DioInput.follows_round live bufferLength).further accepted⟩

theorem below_readDioBase (conf : RplConf) (defaults : DioDefaults) :
    (readDioBase conf defaults).Below payload payloadLen ↔ 24 ≤ payloadLen := by
  simp only [readDioBase, Reads.below_bind, Reads.below_element, below_get16, Reads.below_elements,
    Reads.below_pure, and_true]
  omega

theorem below_dioLoop_iff (live : state.discarded = false)
    (ended : ((Reads.loop (DioInput.more (UInt8.ofNat payloadLen))
      (DioInput.round (UInt8.ofNat payloadLen)) fuel state).value payload).isSome = true) :
    (Reads.loop (DioInput.more (UInt8.ofNat payloadLen)) (DioInput.round (UInt8.ofNat payloadLen))
        fuel state).Below payload payloadLen ↔
      ∀ i, Loop.Visits (dioNext payload (UInt8.ofNat payloadLen)) state.i i →
        i < (UInt8.ofNat payloadLen).toNat → DioOptionFits payload payloadLen i := by
  rw [Reads.below_loop_iff ended, dioLoop_visits_iff live]
  constructor
  · intro each other visits alive inside
    exact (below_dioRound inside).mp (each other visits (DioInput.more_iff.mpr ⟨alive, inside⟩))
  · intro each other visits goesOn
    obtain ⟨alive, inside⟩ := DioInput.more_iff.mp goesOn
    exact (below_dioRound inside).mpr (each other visits alive inside)

theorem dioInput_stays_iff (conf : RplConf) (defaults : DioDefaults) :
    StaysInMessage DioInput.copied payload payloadLen (dioInput conf defaults payloadLen) ↔
      DioFits payload payloadLen := by
  let bufferLength := UInt8.ofNat payloadLen
  let start : DioInput := ⟨24, (readDioBase conf defaults).value payload, false, [16]⟩
  have live : start.discarded = false := rfl
  have ended : ((Reads.loop (DioInput.more bufferLength) (DioInput.round bufferLength)
      (bufferLength.toNat + 1) start).value payload).isSome = true :=
    dioLoop_ends _ (Nat.le_add_left _ _)
  have value : (dioInput conf defaults payloadLen).value payload =
      (Reads.loop (DioInput.more bufferLength) (DioInput.round bufferLength)
        (bufferLength.toNat + 1) start).value payload := Reads.value_bind payload _ _
  have reads : (dioInput conf defaults payloadLen).Below payload payloadLen ↔
      DioFits payload payloadLen := by
    rw [dioInput, Reads.below_bind, below_readDioBase, below_dioLoop_iff live ended]
    exact ⟨fun both => ⟨both.1, both.2⟩, fun fits => ⟨fits.base, fits.options⟩⟩
  constructor
  · exact fun stays => reads.mp stays.reads
  · intro fits
    refine ⟨by rw [value]; exact ended, reads.mpr fits, fun last returned => ?_⟩
    rw [value, Reads.value_loop] at returned
    refine Loop.final_keeps (fun state => ∀ size ∈ state.copied, size ≤ 16) ?_ returned ?_
    · intro before next stepped small
      obtain ⟨goesOn, rfl⟩ := Reads.loopStep_eq_some.mp stepped
      exact (DioInput.follows_round (DioInput.more_iff.mp goesOn).1 bufferLength).copied small
    · intro size member
      exact Nat.le_of_eq (List.mem_singleton.mp member)

end

section

variable {payload : Memory UInt8} {payloadLen : Nat} {bufferLength : UInt8} {state : DaoInput}

structure DaoOptionRead (payload : Memory UInt8) (payloadLen i : Nat) : Prop where
  header : payload i ≠ rplOptionPad1 → i + 1 < payloadLen
  target : payload i = rplOptionTarget → i + 3 < payloadLen ∧
    i + 4 + ((payload (i + 3)).toNat + 7) / 8 ≤ payloadLen
  transit : payload i = rplOptionTransit → i + 5 < payloadLen ∧
    (20 ≤ optionSize payload i → i + 22 ≤ payloadLen)

theorem daoOptionFits_iff {i : Nat} : DaoOptionFits payload payloadLen i ↔
    DaoOptionRead payload payloadLen i ∧
      (payload i = rplOptionTarget → (payload (i + 3)).toNat ≤ 128) := by
  constructor
  · intro fits
    exact ⟨⟨fits.header, fun target => ⟨(fits.target target).1, (fits.target target).2.2⟩,
      fits.transit⟩, fun target => (fits.target target).2.1⟩
  · rintro ⟨read, small⟩
    refine ⟨read.header, fun target => ?_, read.transit⟩
    exact ⟨(read.target target).1, small target, (read.target target).2⟩

theorem below_target (len : Nat) : (state.target len).Below payload payloadLen ↔
    state.i + 3 < payloadLen ∧
      state.i + 4 + ((payload (state.i + 3)).toNat + 7) / 8 ≤ payloadLen := by
  simp only [DaoInput.target, Reads.below_bind, Reads.below_element, Reads.value_element,
    Reads.below_elements, Reads.below_pure, and_true]
  omega

theorem below_transit (len : Nat) : (state.transit len).Below payload payloadLen ↔
    state.i + 5 < payloadLen ∧ (20 ≤ len → state.i + 22 ≤ payloadLen) := by
  simp only [DaoInput.transit, Reads.below_bind, Reads.below_element, Reads.below_ite,
    Reads.below_elements, Reads.below_pure, and_true, implies_true]
  omega

theorem below_daoRound (inside : state.i < payloadLen) :
    state.round.Below payload payloadLen ↔ DaoOptionRead payload payloadLen state.i := by
  unfold DaoInput.round
  rw [Reads.below_bind, Reads.below_element, Reads.value_element, Reads.below_bind, below_optionLen,
    optionLen_value, and_iff_right inside, Reads.below_ite, Reads.below_ite, below_target,
    below_transit]
  have other : rplOptionTransit ≠ rplOptionTarget := by decide
  constructor
  · rintro ⟨header, target, rest⟩
    refine ⟨header, target, fun transit => ?_⟩
    exact (rest (by rw [transit]; exact other)).1 transit
  · rintro ⟨header, target, transit⟩
    exact ⟨header, target, fun _ => ⟨transit, fun _ => Reads.below_pure payload payloadLen _⟩⟩

theorem target_value (len : Nat) :
    ((state.target len).value payload).i = state.i + len ∧
      ((state.target len).value payload).copied =
        ((payload (state.i + 3)).toNat + 7) / 8 :: state.copied := by
  simp only [DaoInput.target, Reads.value_bind, Reads.value_pure, Reads.value_element, and_self]

theorem transit_value (len : Nat) :
    ((state.transit len).value payload).i = state.i + len ∧
      ∀ size ∈ ((state.transit len).value payload).copied, size = 16 ∨ size ∈ state.copied := by
  simp only [DaoInput.transit, Reads.value_bind, Reads.value_ite, Reads.value_pure]
  split
  · exact ⟨rfl, fun size member => List.mem_cons.mp member⟩
  · exact ⟨rfl, fun size member => .inr member⟩

theorem transit_keeps (len : Nat) {size : Nat} (member : size ∈ state.copied) :
    size ∈ ((state.transit len).value payload).copied := by
  simp only [DaoInput.transit, Reads.value_bind, Reads.value_ite, Reads.value_pure]
  split
  · exact List.mem_cons_of_mem _ member
  · exact member

theorem daoRound_value :
    state.round.value payload =
      if payload state.i = rplOptionTarget then
        (state.target (optionSize payload state.i)).value payload
      else if payload state.i = rplOptionTransit then
        (state.transit (optionSize payload state.i)).value payload
      else { state with i := state.i + optionSize payload state.i } := by
  unfold DaoInput.round
  rw [Reads.value_bind, Reads.value_element, Reads.value_bind, optionLen_value, Reads.value_ite,
    Reads.value_ite, Reads.value_pure]

theorem daoRound_i : (state.round.value payload).i = state.i + optionSize payload state.i := by
  rw [daoRound_value]
  split
  · exact (target_value _).1
  · split
    · exact (transit_value _).1
    · rfl

theorem daoRound_copied :
    (∀ size ∈ (state.round.value payload).copied, size ≤ 16) ↔
      (∀ size ∈ state.copied, size ≤ 16) ∧
        (payload state.i = rplOptionTarget → (payload (state.i + 3)).toNat ≤ 128) := by
  rw [daoRound_value]
  split
  next target =>
    rw [(target_value _).2, List.forall_mem_cons]
    constructor
    · exact fun both => ⟨both.2, fun _ => by omega⟩
    · rintro ⟨small, short⟩
      have short := short target
      exact ⟨by omega, small⟩
  next other =>
    have vacuous : payload state.i = rplOptionTarget → (payload (state.i + 3)).toNat ≤ 128 :=
      fun target => absurd target other
    rw [and_iff_left vacuous]
    split
    · constructor
      · exact fun all size member => all size (transit_keeps _ member)
      · intro small size member
        rcases (transit_value _).2 size member with rfl | old
        · exact Nat.le_refl 16
        · exact small size old
    · rfl

theorem daoMore_iff : state.more bufferLength = true ↔ state.i < bufferLength.toNat :=
  decide_eq_true_iff

theorem daoLoop_visits_iff {property : Nat → Prop} :
    (∀ i, Loop.Visits (daoNext payload bufferLength) state.i i → property i) ↔
      ∀ other, Loop.Visits
        (Reads.loopStep (DaoInput.more bufferLength) DaoInput.round payload) state other →
          property other.i := by
  have follows : (∀ i, Loop.Visits (daoNext payload bufferLength) state.i i → property i) ↔
      ∀ other, Loop.Visits
        (Reads.loopStep (DaoInput.more bufferLength) DaoInput.round payload) state other →
          True → property other.i := by
    refine Loop.forall_visits_of_follows DaoInput.i (fun _ => True) trivial
      (fun _ _ _ _ => trivial) ?_ ?_
    · intro before next _ stepped _
      obtain ⟨goesOn, rfl⟩ := Reads.loopStep_eq_some.mp stepped
      rw [daoRound_i]
      exact if_pos (daoMore_iff.mp goesOn)
    · intro before place _ found
      unfold daoNext at found
      split at found
      next inside =>
        obtain rfl := Option.some.inj found
        exact ⟨_, Reads.loopStep_of_more (daoMore_iff.mpr inside), trivial, daoRound_i⟩
      next => cases found
  simpa only [forall_const] using follows

theorem daoOptions_stays_iff (start : Nat) (dao : RplDaoMessage) :
    StaysInMessage DaoInput.copied payload payloadLen
        (DaoInput.options (UInt8.ofNat payloadLen) start dao) ↔
      ∀ i, Loop.Visits (daoNext payload (UInt8.ofNat payloadLen)) start i →
        i < (UInt8.ofNat payloadLen).toNat → DaoOptionFits payload payloadLen i := by
  have bounded := ofNat_le payloadLen
  let first : DaoInput := ⟨start, dao, false, []⟩
  have ended : ((DaoInput.options (UInt8.ofNat payloadLen) start dao).value payload).isSome =
      true := by
    refine Reads.loop_ends DaoInput.i (UInt8.ofNat payloadLen).toNat ?_ ?_ fun _ => ?_
    · exact fun state goesOn => daoMore_iff.mp goesOn
    · intro state _ _
      have longer := optionSize_pos payload state.i
      rw [daoRound_i]
      omega
    · exact Nat.le_add_left _ _
  obtain ⟨last, returned⟩ := Option.isSome_iff_exists.mp ended
  have reads : (DaoInput.options (UInt8.ofNat payloadLen) start dao).Below payload payloadLen ↔ _ :=
    Reads.below_loop_iff ended
  have writes := Loop.final_iff (fun state : DaoInput => ∀ size ∈ state.copied, size ≤ 16)
    (fun state => payload state.i = rplOptionTarget → (payload (state.i + 3)).toNat ≤ 128)
    (fun state next stepped => by
      obtain ⟨-, rfl⟩ := Reads.loopStep_eq_some.mp stepped
      exact daoRound_copied)
    ((Reads.value_loop _ _).symm.trans returned)
  simp only [Reads.loopStep_ne_none, daoMore_iff] at reads writes
  have visits : (∀ i, Loop.Visits (daoNext payload (UInt8.ofNat payloadLen)) first.i i →
      i < (UInt8.ofNat payloadLen).toNat → DaoOptionFits payload payloadLen i) ↔ _ :=
    daoLoop_visits_iff
  refine Iff.trans ?_ visits.symm
  constructor
  · intro stays other visits inside
    have read := reads.mp stays.reads other visits inside
    have short := (writes.mp (stays.writes last returned)).2 other visits inside
    exact daoOptionFits_iff.mpr ⟨(below_daoRound (by omega)).mp read, short⟩
  · intro each
    refine ⟨ended, reads.mpr ?_, ?_⟩
    · intro other visits inside
      exact (below_daoRound (by omega)).mpr (daoOptionFits_iff.mp (each other visits inside)).1
    · intro other found
      obtain rfl := Option.some.inj (found.symm.trans returned)
      refine writes.mpr ⟨fun _ absent => absurd absent List.not_mem_nil, ?_⟩
      exact fun state visits inside => (daoOptionFits_iff.mp (each state visits inside)).2

theorem elements_eq_iff (payload : Memory UInt8) (dagId : UipIpaddr) :
    (elements 16 (4 + ·) : Reads UInt8 _).value payload = dagId ↔
      payload.read 4 16 = dagId.toList := by
  rw [Reads.value_elements, ← Vector.toList_inj]
  have read : (Vector.ofFn fun index : Fin 16 => payload (4 + index)).toList =
      payload.read 4 16 := by
    rw [Vector.toList_ofFn]
    rfl
  rw [read]

theorem daoInput_stays_iff (inst : RplInstance) (defaultLifetime : UInt8) :
    StaysInMessage DaoInput.copied payload payloadLen (daoInput inst defaultLifetime payloadLen) ↔
      DaoFits payload inst payloadLen := by
  rw [daoInput, stays_bind, Reads.below_element, Reads.value_element]
  by_cases known : inst.used = true ∧ inst.instanceId = payload 0
  · have taken : ¬ (!inst.used || inst.instanceId != payload 0) = true := by
      simp [known.1, known.2]
    dsimp only
    rw [if_neg taken, stays_bind, Reads.below_element, Reads.value_element, stays_bind,
      Reads.below_element, Reads.value_element]
    by_cases flagged : payload 1 &&& rplDaoDFlag ≠ 0
    · have start : daoStart payload = 20 := if_pos flagged
      rw [if_pos flagged, stays_bind, Reads.below_elements]
      by_cases own : payload.read 4 16 = inst.dag.dagId.toList
      · rw [if_pos ((elements_eq_iff payload _).mpr own), daoOptions_stays_iff]
        constructor
        · rintro ⟨first, -, -, dagId, options⟩
          refine ⟨first, fun _ _ => ?_, fun _ _ _ => ?_⟩
          · rw [start]
            exact dagId (by decide)
          · rw [start]
            exact options
        · intro fits
          have fixed := fits.fixed known.1 known.2
          have options := fits.options known.1 known.2 fun _ => own
          rw [start] at fixed options
          exact ⟨fits.first, by omega, by omega, fun _ => by omega, options⟩
      · rw [if_neg (mt (elements_eq_iff payload _).mp own), and_iff_left (stays_pure rfl)]
        constructor
        · rintro ⟨first, -, -, dagId⟩
          refine ⟨first, fun _ _ => ?_, fun _ _ same => absurd (same flagged) own⟩
          rw [start]
          exact dagId (by decide)
        · intro fits
          have fixed := fits.fixed known.1 known.2
          rw [start] at fixed
          exact ⟨fits.first, by omega, by omega, fun _ => by omega⟩
    · have start : daoStart payload = 4 := if_neg flagged
      rw [if_neg flagged, daoOptions_stays_iff]
      constructor
      · rintro ⟨first, -, fixed, options⟩
        refine ⟨first, fun _ _ => by omega, fun _ _ _ => ?_⟩
        rw [start]
        exact options
      · intro fits
        have fixed := fits.fixed known.1 known.2
        have options := fits.options known.1 known.2 fun flag => absurd flag flagged
        rw [start] at fixed options
        exact ⟨fits.first, by omega, by omega, options⟩
  · have refused : (!inst.used || inst.instanceId != payload 0) = true := by
      by_contra taken
      simp only [Bool.or_eq_true, Bool.not_eq_true', bne_iff_ne, ne_eq, not_or, not_not,
        Bool.not_eq_false] at taken
      exact known taken
    dsimp only
    rw [if_pos refused, and_iff_left (stays_pure rfl)]
    exact ⟨fun first => ⟨first, fun used same => absurd ⟨used, same⟩ known,
      fun used same => absurd ⟨used, same⟩ known⟩, DaoFits.first⟩

end

theorem below_daoAckInput (payload : Memory UInt8) (payloadLen : Nat) (inst : RplInstance) :
    (daoAckInput inst).Below payload payloadLen ↔ 4 ≤ payloadLen := by
  simp only [daoAckInput, Reads.below_bind, Reads.below_element, Reads.below_ite, Reads.below_pure,
    implies_true, and_true]
  omega

/-- The three parsers stay in their messages exactly if the messages have what is read of them
without a check, and the prefixes of the targets have at most 128 bits. -/
theorem controlInput_stays_iff (conf : RplConf) (defaults : DioDefaults) (inst : RplInstance)
    (defaultLifetime : UInt8) (payload : Memory UInt8) (payloadLen : Nat) :
    (StaysInMessage DioInput.copied payload payloadLen (dioInput conf defaults payloadLen) ↔
      DioFits payload payloadLen) ∧
    (StaysInMessage DaoInput.copied payload payloadLen (daoInput inst defaultLifetime payloadLen) ↔
      DaoFits payload inst payloadLen) ∧
    ((daoAckInput inst).Below payload payloadLen ↔ 4 ≤ payloadLen) :=
  ⟨dioInput_stays_iff conf defaults, daoInput_stays_iff inst defaultLifetime,
    below_daoAckInput payload payloadLen inst⟩

theorem overlongTarget_leaves : ¬ ∀ (conf : RplConf) (defaults : DioDefaults) (inst : RplInstance)
    (defaultLifetime : UInt8) (payload : Memory UInt8) (payloadLen : Nat),
    StaysInMessage DioInput.copied payload payloadLen (dioInput conf defaults payloadLen) ∧
      StaysInMessage DaoInput.copied payload payloadLen
        (daoInput inst defaultLifetime payloadLen) ∧
      (daoAckInput inst).Below payload payloadLen := by
  intro all
  obtain ⟨-, stays, -⟩ := all rplConf ⟨8, 12, 0, 30, 60⟩ { rplInstanceZero with used := true } 30
    (fun index => [0, 0, 0, 1, 5, 2, 0, 255].getD index 0) 8
  have small := stays.writes _ rfl 32 (by decide)
  exact absurd small (by decide)

end MultiPhyTsch.Rpl
