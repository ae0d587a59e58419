import MultiPhyTsch.Tcp.ReceiveEffect

/-! Which segments a connection accounts for. The length of the data is found by subtracting what the
header says, and nothing says that the segment is that long. -/

namespace MultiPhyTsch.Tcp

section Accounting

variable {conf : TcpConf} {conn : UipConn} {segment : Segment} {outcome : TcpOutcome}

theorem accounting_silent (effect : Effect conn outcome 0 0) (bytes : bytesTaken conn segment = 0)
    (syn : synTaken conf conn segment = false)
    (fin : ¬ (segment.seqno = conn.rcvNxt ∧ finTaken conn segment = true)) :
    ReceiveAccounting conf conn segment outcome := by
  have control : controlTaken conf conn segment = 0 := by
    unfold controlTaken
    rw [if_neg]
    rintro (taken | taken)
    · exact absurd (syn.symm.trans taken) Bool.false_ne_true
    · exact fin taken
  have below := conn.rcvNxt.value_lt
  have kept : outcome.conn.rcvNxt = conn.rcvNxt := by
    apply Seq32.value_inj
    rw [effect.rcvNxt, Nat.add_zero, Nat.mod_eq_of_lt below]
  refine ⟨fun call member fresh => ?_, fun moved => absurd kept moved, ?_⟩
  · rw [effect.offered call member fresh]
    exact Nat.zero_le _
  · rw [bytes, control, syn]
    exact effect.rcvNxt

theorem silent_iff (effect : Effect conn outcome 0 0) (text : textSkipped conn segment = none)
    (syn : synTaken conf conn segment = false) (fin : finTaken conn segment = false) :
    ReceiveAccounting conf conn segment outcome ↔ SegmentFits conn segment := by
  refine iff_of_true (accounting_silent effect ?_ syn ?_) ?_
  · unfold bytesTaken
    rw [text]
    simp
  · rintro ⟨-, taken⟩
    exact absurd (fin.symm.trans taken) Bool.false_ne_true
  · intro skip some
    rw [text] at some
    cases some

theorem controlTaken_le (conf : TcpConf) (conn : UipConn) (segment : Segment) :
    controlTaken conf conn segment ≤ 1 := by
  unfold controlTaken
  split
  next => exact Nat.le_refl _
  next => exact Nat.zero_le _

theorem empty_of_other (sequence : outOfSequence conn segment = false)
    (other : segment.seqno ≠ conn.rcvNxt) :
    segment.payload = 0 ∧ segment.has (tcpSyn ||| tcpFin) = false := by
  unfold outOfSequence at sequence
  simp only [other, ne_eq, not_false_eq_true, decide_true, Bool.and_true, Bool.or_eq_false_iff,
    decide_eq_false_iff_not] at sequence
  obtain ⟨none, control⟩ := sequence
  have zero := none_of_not_pos none
  have length := dataLen_toNat segment
  have header := headerLen_toNat segment
  have offset := UInt8.toNat_lt segment.tcpoffset
  have bound := UInt16.toNat_lt segment.uipLen
  refine ⟨?_, control⟩
  unfold Segment.payload
  omega

theorem accounting_text {text advance : Nat} (skip : Nat)
    (effect : Effect conn outcome text advance)
    (skipped : textSkipped conn segment = some skip) (small : skip < 65536)
    (length : text = (segment.dataLen.toNat + 65536 - skip) % 65536)
    (syn : synTaken conf conn segment = false)
    (sequence : outOfSequence conn segment = false)
    (adds : advance = text + controlTaken conf conn segment ∨
      advance = (text + 1) % 65536 ∧ controlTaken conf conn segment = 1) :
    ReceiveAccounting conf conn segment outcome ↔ SegmentFits conn segment := by
  have fits : SegmentFits conn segment ↔ text = segment.payload - skip := by
    rw [length, text_eq_iff segment skip small]
    constructor
    · exact fun fits => fits skip skipped sequence
    · intro fits other same _
      obtain rfl := Option.some.inj (skipped.symm.trans same)
      exact fits
  have bytes : bytesTaken conn segment = segment.payload - skip := by
    unfold bytesTaken
    split
    next =>
      rw [skipped]
      rfl
    next other =>
      rw [(empty_of_other sequence other).1, Nat.zero_sub]
  have control := controlTaken_le conf conn segment
  have bound := UInt16.toNat_lt segment.uipLen
  have payload : segment.payload ≤ 65475 := by
    unfold Segment.payload
    omega
  rw [fits]
  constructor
  · intro accounting
    have advances := accounting.advance
    rw [syn, effect.rcvNxt, bytes] at advances
    change _ = (conn.rcvNxt.value + _ + _) % 2 ^ 32 at advances
    omega
  · intro same
    have exact_ : advance = bytesTaken conn segment + controlTaken conf conn segment := by omega
    refine ⟨fun call member fresh => ?_, fun moved => .inr ?_, ?_⟩
    · rw [effect.offered call member fresh]
      omega
    · by_contra other
      have none : controlTaken conf conn segment = 0 := by
        unfold controlTaken
        rw [syn]
        simp [other]
      have empty := (empty_of_other sequence other).1
      have value := effect.rcvNxt
      have below := conn.rcvNxt.value_lt
      rw [exact_, bytes, none, empty, Nat.zero_sub, Nat.add_zero, Nat.mod_eq_of_lt below] at value
      exact moved (Seq32.value_inj value)
    · rw [syn, effect.rcvNxt, exact_, Nat.add_assoc]
      rfl

theorem Effect.of_same {after : UipConn} {text advance : Nat}
    (same : after.rcvNxt = conn.rcvNxt) (effect : Effect after outcome text advance) :
    Effect conn outcome text advance := by
  refine ⟨?_, effect.offered⟩
  rw [← same]
  exact effect.rcvNxt

theorem synTaken_state (other : conn.state ≠ uipSynSent) : synTaken conf conn segment = false := by
  unfold synTaken
  simp [other]

theorem finTaken_state (established : conn.state ≠ uipEstablished)
    (finWait1 : conn.state ≠ uipFinWait1) (finWait2 : conn.state ≠ uipFinWait2) :
    finTaken conn segment = false := by
  unfold finTaken
  simp [established, finWait1, finWait2]

theorem fin_in_sequence (sequence : outOfSequence conn segment = false)
    (fin : segment.has tcpFin = true) : segment.seqno = conn.rcvNxt := by
  by_contra other
  have none := (empty_of_other sequence other).2
  have some := @has_of_part segment tcpFin (tcpSyn ||| tcpFin) (by decide) fin
  rw [none] at some
  cases some

theorem sequence_of_checked (checked : ¬ (seqUnchecked conn segment = false ∧
    outOfSequence conn segment = true)) (other : conn.state ≠ uipSynSent)
    (acks : conn.state = uipSynRcvd → acksData conn segment = true) :
    outOfSequence conn segment = false := by
  by_contra out
  have unchecked : seqUnchecked conn segment ≠ false :=
    fun unchecked => checked ⟨unchecked, Bool.eq_true_of_not_eq_false out⟩
  apply unchecked
  unfold seqUnchecked
  simp only [other, decide_false, Bool.false_and, Bool.false_or]
  by_cases received : conn.state = uipSynRcvd
  · cases control : segment.ctl tcpSyn with
    | false => simp
    | true =>
      have acked := acks received
      rw [not_acks_of_syn control] at acked
      cases acked
  · simp [received]

variable (rst : segment.has tcpRst = false)
  (checked : ¬ (seqUnchecked conn segment = false ∧ outOfSequence conn segment = true))

include rst

theorem other_accounting {state : UInt8} (at_ : conn.state = state)
    (other : state ≠ uipSynRcvd ∧ state ≠ uipEstablished ∧ state ≠ uipFinWait1 ∧
      state ≠ uipFinWait2)
    (syn : synTaken conf conn segment = false) (effect : Effect conn outcome 0 0) :
    ReceiveAccounting conf conn segment outcome ↔ SegmentFits conn segment := by
  subst at_
  refine silent_iff effect ?_ syn (finTaken_state other.2.1 other.2.2.1 other.2.2.2)
  unfold textSkipped
  simp [rst, other]

include checked

theorem synRcvd_accounting (at_ : conn.state = uipSynRcvd) {acked : Bool}
    (same : acksData conn segment = acked)
    (taken : acked = true → Effect conn outcome segment.dataLen.toNat segment.dataLen.toNat)
    (silent : acked = false → Effect conn outcome 0 0) :
    ReceiveAccounting conf conn segment outcome ↔ SegmentFits conn segment := by
  have sent : conn.state ≠ uipSynSent := by
    rw [at_]
    decide
  have syn := @synTaken_state conf conn segment sent
  have fin : finTaken conn segment = false := by
    apply finTaken_state
    · rw [at_]
      decide
    · rw [at_]
      decide
    · rw [at_]
      decide
  cases acked with
  | false =>
    refine silent_iff (silent rfl) ?_ syn fin
    unfold textSkipped
    simp [rst, at_, same]
  | true =>
    have sequence := sequence_of_checked checked sent fun _ => same
    have bound := UInt16.toNat_lt segment.dataLen
    refine accounting_text 0 (taken rfl) ?_ (by decide) (by omega) syn sequence ?_
    · unfold textSkipped
      simp [rst, at_, same]
    · unfold controlTaken
      rw [syn, fin]
      simp

omit checked in
theorem textSkipped_established (at_ : conn.state = uipEstablished) :
    textSkipped conn segment =
      if segment.has tcpFin ∧ conn.stopped = false then
        if Unacked conn segment then none else some 0
      else if conn.stopped then none
      else some segment.urgent := by
  have received : conn.state ≠ uipSynRcvd := by
    rw [at_]
    decide
  have unreset : ¬ segment.has tcpRst = true := by
    rw [rst]
    exact Bool.false_ne_true
  unfold textSkipped
  rw [if_neg unreset, if_neg received, if_pos at_]

theorem established_accounting (at_ : conn.state = uipEstablished) {ack : UipConn}
    (state : ack.tcpstateflags = conn.tcpstateflags) (rcvNxt : ack.rcvNxt = conn.rcvNxt)
    (outstanding : ack.outstanding = true ↔ Unacked conn segment) {uipFlags : UInt8}
    (flags : uipFlags = uipAckdata ∨ uipFlags = 0) :
    ReceiveAccounting conf conn segment (inEstablished conf ack segment uipFlags) ↔
      SegmentFits conn segment := by
  have sent : conn.state ≠ uipSynSent := by
    rw [at_]
    decide
  have received : conn.state ≠ uipSynRcvd := by
    rw [at_]
    decide
  have finWait1 : conn.state ≠ uipFinWait1 := by
    rw [at_]
    decide
  have finWait2 : conn.state ≠ uipFinWait2 := by
    rw [at_]
    decide
  have syn := @synTaken_state conf conn segment sent
  have sequence := sequence_of_checked checked sent fun same => absurd same received
  have bound := UInt16.toNat_lt segment.dataLen
  have stopped : ack.stopped = conn.stopped := by
    unfold UipConn.stopped
    rw [state]
  unfold inEstablished
  rw [stopped]
  by_cases fin : segment.has tcpFin = true ∧ conn.stopped = false
  · rw [if_pos fin]
    by_cases unacked : Unacked conn segment
    · rw [if_pos (outstanding.mpr unacked)]
      refine silent_iff (Effect.of_same rcvNxt (effect_silent ack _ rfl)) ?_ syn ?_
      · rw [textSkipped_established rst at_, if_pos fin, if_pos unacked]
      · unfold finTaken
        simp [unacked, finWait1, finWait2]
    · rw [if_neg (mt outstanding.mp unacked)]
      have taken : finTaken conn segment = true := by
        unfold finTaken
        simp [rst, at_, fin, unacked]
      have control : controlTaken conf conn segment = 1 := by
        unfold controlTaken
        rw [if_pos (.inr ⟨fin_in_sequence sequence fin.1, taken⟩)]
      have advance : (1 + segment.dataLen).toNat = (segment.dataLen.toNat + 1) % 65536 := by
        rw [UInt16.toNat_add, Nat.add_comm]
        rfl
      refine accounting_text 0 (Effect.of_same rcvNxt (takeFin_effect conf ack segment uipFlags))
        ?_ (by decide) (by omega) syn sequence (.inr ⟨advance, control⟩)
      rw [textSkipped_established rst at_, if_pos fin, if_neg unacked]
  · rw [if_neg fin]
    have untaken : finTaken conn segment = false := by
      unfold finTaken
      cases has : segment.has tcpFin with
      | false => simp
      | true => simp [finWait1, finWait2, Bool.eq_true_of_not_eq_false fun runs => fin ⟨has, runs⟩]
    have control : controlTaken conf conn segment = 0 := by
      unfold controlTaken
      rw [syn, untaken]
      simp
    obtain ⟨runs, stops⟩ := takeText_effect conf ack segment flags
    cases stop : conn.stopped with
    | true =>
      refine silent_iff (Effect.of_same rcvNxt (stops (stopped.trans stop))) ?_ syn untaken
      rw [textSkipped_established rst at_, if_neg fin, if_pos stop]
    | false =>
      have urgent : segment.urgent < 65536 := by
        unfold Segment.urgent
        split
        next => exact UInt16.toNat_lt segment.urgp
        next => decide
      refine accounting_text segment.urgent (Effect.of_same rcvNxt (runs (stopped.trans stop)))
        ?_ urgent (textLen_toNat segment) syn sequence (.inl ?_)
      · have running : ¬ conn.stopped = true := by
          rw [stop]
          exact Bool.false_ne_true
        rw [textSkipped_established rst at_, if_neg fin, if_neg running]
      · rw [control, Nat.add_zero]

theorem finWait_accounting (at_ : conn.state = uipFinWait1 ∨ conn.state = uipFinWait2)
    (effect : Effect conn outcome segment.dataLen.toNat
      (segment.dataLen.toNat + if segment.has tcpFin then 1 else 0)) :
    ReceiveAccounting conf conn segment outcome ↔ SegmentFits conn segment := by
  have sent : conn.state ≠ uipSynSent := by
    rcases at_ with one | two
    · rw [one]
      decide
    · rw [two]
      decide
  have received : conn.state ≠ uipSynRcvd := by
    rcases at_ with one | two
    · rw [one]
      decide
    · rw [two]
      decide
  have established : conn.state ≠ uipEstablished := by
    rcases at_ with one | two
    · rw [one]
      decide
    · rw [two]
      decide
  have syn := @synTaken_state conf conn segment sent
  have sequence := sequence_of_checked checked sent fun same => absurd same received
  have bound := UInt16.toNat_lt segment.dataLen
  refine accounting_text 0 effect ?_ (by decide) (by omega) syn sequence (.inl ?_)
  · unfold textSkipped
    simp [rst, received, established, at_]
  · congr 1
    unfold controlTaken
    rw [syn]
    cases fin : segment.has tcpFin with
    | false => simp [finTaken, fin]
    | true =>
      have same := fin_in_sequence sequence fin
      have taken : finTaken conn segment = true := by
        unfold finTaken
        rcases at_ with one | two
        · simp [rst, fin, one]
        · simp [rst, fin, two]
      simp [same, taken]

omit checked in
theorem synSent_accounting (sent : conn.state = uipSynSent ∧ conf.uipActiveOpen = true)
    {ack : UipConn} (rcvNxt : ack.rcvNxt = conn.rcvNxt) :
    ReceiveAccounting conf conn segment
        (inSynSent conf ack segment (acksData conn segment)) ↔ SegmentFits conn segment := by
  have states : uipSynSent ≠ uipSynRcvd ∧ uipSynSent ≠ uipEstablished ∧
      uipSynSent ≠ uipFinWait1 ∧ uipSynSent ≠ uipFinWait2 := by decide
  by_cases taken : acksData conn segment = true ∧ segment.ctl (tcpSyn ||| tcpAck) = true
  · have syn : synTaken conf conn segment = true := by
      unfold synTaken
      simp [sent, taken]
    have text : textSkipped conn segment = none := by
      unfold textSkipped
      simp [rst, sent.1, states]
    obtain ⟨moved, empty⟩ := synSent_taken conf ack segment taken.2
    rw [taken.1]
    refine iff_of_true ⟨fun call member _ => ?_, fun _ => .inl syn, ?_⟩ ?_
    · rw [empty call member]
      exact Nat.zero_le _
    · have bytes : bytesTaken conn segment = 0 := by
        unfold bytesTaken
        rw [text]
        simp
      have control : controlTaken conf conn segment = 1 := by
        unfold controlTaken
        rw [if_pos (.inl syn)]
      rw [bytes, control, if_pos syn]
      exact moved
    · intro skip some
      rw [text] at some
      cases some
  · have syn : synTaken conf conn segment = false := by
      unfold synTaken
      apply Bool.eq_false_of_not_eq_true
      intro all
      simp only [Bool.and_eq_true] at all
      exact taken ⟨all.2, all.1.2⟩
    exact other_accounting rst sent.1 states syn
      (Effect.of_same rcvNxt (synSent_effect conf ack segment taken))

end Accounting

/-- A segment is accounted for if and only if its payload is not taken or the header and the urgent
bytes that it says are inside it. -/
theorem receive_accounting_iff (conf : TcpConf) (conn : UipConn) (segment : Segment) :
    ReceiveAccounting conf conn segment (tcpFound conf conn segment) ↔
      SegmentFits conn segment := by
  unfold tcpFound
  cases rst : segment.has tcpRst with
  | true =>
    have abort : Effect conn (appcall conf { conn with tcpstateflags := uipClosed } uipAbort
        segment.uipLen .drop) 0 0 :=
      effect_call conn 0 rfl rfl (by decide) (moved_zero conn rfl rfl)
    refine silent_iff abort ?_ ?_ ?_
    · unfold textSkipped
      rw [if_pos rst]
    · cases control : segment.ctl (tcpSyn ||| tcpAck) with
      | false =>
        unfold synTaken
        simp [control]
      | true =>
        rw [has_of_ctl control (by decide)] at rst
        exact absurd rst (by decide)
    · unfold finTaken
      simp [rst]
  | false =>
    rw [if_neg Bool.false_ne_true]
    split
    next turned =>
      obtain ⟨unchecked, out⟩ := turned
      have other : segment.seqno ≠ conn.rcvNxt := by
        unfold outOfSequence at out
        exact of_decide_eq_true (Bool.and_eq_true_iff.mp out).2
      have syn : synTaken conf conn segment = false := by
        unfold seqUnchecked at unchecked
        have answer := (Bool.or_eq_false_iff.mp unchecked).1
        unfold synTaken
        rcases Bool.and_eq_false_iff.mp answer with unsent | control
        · simp only [unsent, Bool.false_and]
        · simp only [control, Bool.and_false, Bool.false_and]
      refine iff_of_true (accounting_silent (effect_silent conn _ rfl) ?_ syn ?_) ?_
      · unfold bytesTaken
        rw [if_neg other]
      · exact fun taken => other taken.1
      · intro skip _ sequence
        rw [out] at sequence
        cases sequence
    next checked =>
      obtain ⟨rcvNxt, state, outstanding⟩ := takeAck_keeps conn segment
      have same : (takeAck conn segment).state = conn.state := by
        unfold UipConn.state
        rw [state]
      have silent : ∀ reply, Effect conn ⟨takeAck conn segment, reply, []⟩ 0 0 :=
        fun reply => effect_silent conn reply rcvNxt
      unfold byState
      rw [same]
      dsimp only
      split
      next at_ =>
        refine synRcvd_accounting rst checked at_ rfl ?_ ?_
        · intro acked
          rw [acked]
          exact Effect.of_same rcvNxt (synRcvd_effect conf _ segment).1
        · intro unacked
          rw [unacked]
          exact Effect.of_same rcvNxt (synRcvd_effect conf _ segment).2
      next =>
      split
      next sent => exact synSent_accounting rst sent rcvNxt
      next unsent =>
      have syn : synTaken conf conn segment = false := by
        unfold synTaken
        by_cases sent : conn.state = uipSynSent
        · simp [Bool.eq_false_of_not_eq_true fun active => unsent ⟨sent, active⟩]
        · simp [sent]
      split
      next at_ =>
        refine established_accounting rst checked at_ state rcvNxt outstanding ?_
        split
        next => exact .inl rfl
        next => exact .inr rfl
      next =>
      split
      next at_ =>
        exact other_accounting rst at_ (by decide) syn
          (Effect.of_same rcvNxt (lastAck_effect conf _ segment _))
      next =>
      split
      next at_ =>
        exact finWait_accounting rst checked (.inl at_)
          (Effect.of_same rcvNxt (finWait1_effect conf _ segment _))
      next =>
      split
      next at_ =>
        exact finWait_accounting rst checked (.inr at_)
          (Effect.of_same rcvNxt (finWait2_effect conf _ segment))
      next =>
      split
      next at_ => exact other_accounting rst at_ (by decide) syn (silent _)
      next =>
      split
      next at_ =>
        refine other_accounting rst at_ (by decide) syn (effect_silent conn _ ?_)
        rw [← rcvNxt]
        split
        next => rfl
        next => rfl
      next => exact other_accounting rst rfl ⟨‹_›, ‹_›, ‹_›, ‹_›⟩ syn (silent _)

def exampleConn : UipConn :=
  ⟨⟨0, 0, 3, 232⟩, ⟨0, 0, 0, 1⟩, 0, 1220, 1220, 0, 4, 3, uipEstablished, 0, 0⟩

def shortSegment : Segment :=
  ⟨60, tcpAck, 0xf0, ⟨0, 0, 3, 232⟩, ⟨0, 0, 0, 1⟩, 1000, 0, fun _ => 0⟩

def quietApp : TcpConf := ⟨true, 1220, fun conn uipFlags _ => ⟨uipFlags, 0, conn.tcpstateflags⟩⟩

theorem short_segment_overread :
    ¬ ReceiveAccounting quietApp exampleConn shortSegment
      (tcpFound quietApp exampleConn shortSegment) := by
  intro accounting
  have offered := accounting.offered ⟨uipNewdata, 65496⟩ (by decide) (by decide)
  exact absurd offered (by decide)

end MultiPhyTsch.Tcp
