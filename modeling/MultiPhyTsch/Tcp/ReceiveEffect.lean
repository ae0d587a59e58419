import MultiPhyTsch.Tcp.ReceiveSpec

/-! What each state does to the next sequence number, and what it offers to the application. -/

namespace MultiPhyTsch.Tcp

section Parts

variable (conf : TcpConf) (conn : UipConn) (segment : Segment)

theorem takeAck_keeps :
    (takeAck conn segment).rcvNxt = conn.rcvNxt ∧
      (takeAck conn segment).tcpstateflags = conn.tcpstateflags ∧
      ((takeAck conn segment).outstanding = true ↔ Unacked conn segment) := by
  unfold takeAck Unacked
  cases acked : acksData conn segment with
  | true =>
    refine ⟨?_, ?_, by simp [UipConn.outstanding]⟩
    · simp only [if_true, rttEstimate, apply_ite UipConn.rcvNxt, ite_self]
    · simp only [if_true, rttEstimate, apply_ite UipConn.tcpstateflags, ite_self]
  | false => exact ⟨rfl, rfl, by simp⟩

theorem appsend_rcvNxt (uipFlags : UInt8) (uipSlen : UInt16) :
    (appsend conn uipFlags uipSlen).1.rcvNxt = conn.rcvNxt := by
  unfold appsend
  simp only [apply_ite Prod.fst, apply_ite UipConn.rcvNxt, ite_self]

structure Effect (conn : UipConn) (outcome : TcpOutcome) (text advance : Nat) : Prop where
  rcvNxt : outcome.conn.rcvNxt.value = (conn.rcvNxt.value + advance) % 2 ^ 32
  offered : ∀ call ∈ outcome.calls, call.uipFlags &&& uipNewdata ≠ 0 → call.uipLen.toNat = text

variable {after : UipConn}

theorem effect_silent (reply : TcpReply) (same : after.rcvNxt = conn.rcvNxt) :
    Effect conn ⟨after, reply, []⟩ 0 0 := by
  have bound := conn.rcvNxt.value_lt
  refine ⟨?_, fun _ absent => absurd absent List.not_mem_nil⟩
  rw [same, Nat.add_zero, Nat.mod_eq_of_lt bound]

theorem effect_send {advance : Nat} (uipFlags : UInt8) (uipLen : UInt16)
    (moved : after.rcvNxt.value = (conn.rcvNxt.value + advance) % 2 ^ 32) :
    Effect conn (appcallAndSend conf after uipFlags uipLen) uipLen.toNat advance := by
  refine ⟨?_, fun call only _ => ?_⟩
  · unfold appcallAndSend
    rw [appsend_rcvNxt]
    exact moved
  · rw [List.mem_singleton.mp only]

theorem effect_call {outcome : TcpOutcome} {advance : Nat} (text : Nat)
    {uipFlags : UInt8} {uipLen : UInt16} (calls : outcome.calls = [⟨uipFlags, uipLen⟩])
    (same : outcome.conn.rcvNxt = after.rcvNxt) (old : uipFlags &&& uipNewdata = 0)
    (moved : after.rcvNxt.value = (conn.rcvNxt.value + advance) % 2 ^ 32) :
    Effect conn outcome text advance := by
  refine ⟨same ▸ moved, fun call only fresh => ?_⟩
  rw [calls] at only
  rw [List.mem_singleton.mp only] at fresh
  exact absurd old fresh

end Parts

section States

variable (conf : TcpConf) (conn : UipConn) (segment : Segment)

theorem moved_zero {after : UipConn} (same : after.rcvNxt = conn.rcvNxt) {number : Nat}
    (none : number = 0) : after.rcvNxt.value = (conn.rcvNxt.value + number) % 2 ^ 32 := by
  have bound := conn.rcvNxt.value_lt
  rw [same, none, Nat.add_zero, Nat.mod_eq_of_lt bound]

theorem none_of_not_pos {len : UInt16} (none : ¬ len > 0) : len.toNat = 0 := by
  have zero := mt UInt16.lt_iff_toNat_lt.mpr none
  change ¬ 0 < len.toNat at zero
  omega

theorem synRcvd_effect :
    Effect conn (inSynRcvd conf conn segment true) segment.dataLen.toNat segment.dataLen.toNat ∧
      Effect conn (inSynRcvd conf conn segment false) 0 0 := by
  unfold inSynRcvd
  constructor
  · rw [if_pos rfl]
    dsimp only
    split
    next => exact effect_send conf conn _ _ (uipAdd32_value _ _)
    next none => exact effect_send conf conn _ _ (moved_zero conn rfl (none_of_not_pos none))
  · rw [if_neg Bool.false_ne_true]
    split
    next => exact effect_silent conn _ rfl
    next => exact effect_silent conn _ rfl

theorem synSent_taken (control : segment.ctl (tcpSyn ||| tcpAck) = true) :
    (inSynSent conf conn segment true).conn.rcvNxt.value = (segment.seqno.value + 1) % 2 ^ 32 ∧
      ∀ call ∈ (inSynSent conf conn segment true).calls, call.uipLen.toNat = 0 := by
  unfold inSynSent
  rw [if_pos ⟨rfl, control⟩]
  unfold appcallAndSend
  dsimp only
  rw [appsend_rcvNxt]
  refine ⟨uipAdd32_value _ _, fun call only => ?_⟩
  rw [List.mem_singleton.mp only]
  rfl

theorem synSent_effect {acked : Bool}
    (refused : ¬ (acked = true ∧ segment.ctl (tcpSyn ||| tcpAck) = true)) :
    Effect conn (inSynSent conf conn segment acked) 0 0 := by
  unfold inSynSent
  rw [if_neg refused]
  exact effect_call conn 0 rfl rfl (by decide) (moved_zero conn rfl rfl)

theorem takeFin_effect (uipFlags : UInt8) :
    Effect conn (takeFin conf conn segment uipFlags) segment.dataLen.toNat
      (1 + segment.dataLen).toNat := by
  unfold takeFin
  refine ⟨uipAdd32_value _ _, fun call only fresh => ?_⟩
  rw [List.mem_singleton.mp only]

theorem takeText_effect {uipFlags : UInt8} (flags : uipFlags = uipAckdata ∨ uipFlags = 0) :
    (conn.stopped = false → Effect conn (takeText conf conn segment uipFlags)
        segment.textLen.toNat segment.textLen.toNat) ∧
      (conn.stopped = true → Effect conn (takeText conf conn segment uipFlags) 0 0) := by
  have old : uipFlags &&& uipNewdata = 0 := by rcases flags with rfl | rfl <;> decide
  have silent : ∀ after : UipConn, after.rcvNxt = conn.rcvNxt →
      Effect conn (appcallAndSend conf after uipFlags segment.textLen) 0 0 := by
    intro after same
    refine ⟨(effect_send conf conn _ _ (moved_zero conn same rfl)).rcvNxt, fun call only fresh => ?_⟩
    rw [List.mem_singleton.mp only] at fresh
    exact absurd old fresh
  unfold takeText
  constructor
  · intro runs
    by_cases some : segment.textLen > 0
    · have taken : (decide (segment.textLen > 0) && !conn.stopped) = true := by
        simp [some, runs]
      have fresh : (uipFlags ||| uipNewdata) &&& (uipNewdata ||| uipAckdata) ≠ 0 := by
        rcases flags with rfl | rfl <;> decide
      simp only [taken, if_true, fresh, ne_eq, not_false_eq_true]
      exact effect_send conf conn _ _ (uipAdd32_value _ _)
    · have none := none_of_not_pos some
      have taken : (decide (segment.textLen > 0) && !conn.stopped) = false := by
        simp [some]
      simp only [taken, Bool.false_eq_true, if_false]
      rw [none]
      split
      next => exact silent _ rfl
      next => exact effect_silent conn _ rfl
  · intro stopped
    have taken : (decide (segment.textLen > 0) && !conn.stopped) = false := by
      simp [stopped]
    simp only [taken, Bool.false_eq_true, if_false]
    split
    next => exact silent _ rfl
    next => exact effect_silent conn _ rfl

theorem lastAck_effect (acked : Bool) : Effect conn (inLastAck conf conn segment acked) 0 0 := by
  unfold inLastAck
  split
  next => exact effect_call conn 0 rfl rfl (by decide) (moved_zero conn rfl rfl)
  next => exact effect_silent conn _ rfl

theorem skipText_value : (skipText conn segment).rcvNxt.value =
    (conn.rcvNxt.value + segment.dataLen.toNat) % 2 ^ 32 := by
  unfold skipText
  split
  next => exact uipAdd32_value _ _
  next none => exact moved_zero conn rfl (none_of_not_pos none)

theorem fin_value {after : UipConn} (same : after.rcvNxt = (skipText conn segment).rcvNxt) :
    (after.addRcvNxt 1).rcvNxt.value =
      (conn.rcvNxt.value + (segment.dataLen.toNat + 1)) % 2 ^ 32 := by
  have one : (uipAdd32 after.rcvNxt 1).value = (after.rcvNxt.value + 1) % 2 ^ 32 :=
    uipAdd32_value _ _
  have text := skipText_value conn segment
  change (uipAdd32 after.rcvNxt 1).value = _
  rw [one, same, text]
  omega

theorem finWait1_effect (acked : Bool) :
    Effect conn (inFinWait1 conf conn segment acked) segment.dataLen.toNat
      (segment.dataLen.toNat + if segment.has tcpFin then 1 else 0) := by
  unfold inFinWait1
  dsimp only
  split
  next fin =>
    refine effect_call conn _ rfl rfl (by decide) (fin_value conn segment ?_)
    split
    next => rfl
    next => rfl
  next =>
    split
    next => exact ⟨skipText_value conn segment, fun _ absent => absurd absent List.not_mem_nil⟩
    next => exact ⟨skipText_value conn segment, fun _ absent => absurd absent List.not_mem_nil⟩

theorem finWait2_effect :
    Effect conn (inFinWait2 conf conn segment) segment.dataLen.toNat
      (segment.dataLen.toNat + if segment.has tcpFin then 1 else 0) := by
  unfold inFinWait2
  dsimp only
  split
  next fin => exact effect_call conn _ rfl rfl (by decide) (fin_value conn segment rfl)
  next => exact ⟨skipText_value conn segment, fun _ absent => absurd absent List.not_mem_nil⟩

end States

end MultiPhyTsch.Tcp
