import MultiPhyTsch.Rpl.SourceRouting

/-! The DAOs that a root receives and the DAO-ACKs it sends. The acknowledgement that the timer
sends stands in one slot of the DAG, so a DAO that comes before the timer runs takes the place of
the one before. -/

namespace MultiPhyTsch.Rpl

def rplDaoKFlag : UInt8 := 0x80

def rplInfiniteLifetime : UInt8 := 0xff

def rplDaoAckUnconditionalAccept : UInt8 := 0

structure RplDao where
  parentAddr : UipIpaddr
  sequence : UInt16
  lifetime : UInt8
  flags : UInt8

structure DaoAckMessage where
  dest : UipIpaddr
  sequence : UInt8
  status : UInt8
deriving DecidableEq, Repr

structure DaoRoot where
  used : Bool
  dagId : UipIpaddr
  lifetimeUnit : UInt16
  sr : UipSr
  daoAckTarget : UipIpaddr
  daoAckSequence : UInt16
  daoAckTimer : Bool
  sent : List DaoAckMessage

namespace DaoRoot

def rplLifetime (root : DaoRoot) (lifetime : UInt8) : UInt32 :=
  if lifetime = rplInfiniteLifetime then uipSrInfiniteLifetime
  else root.lifetimeUnit.toUInt32 * lifetime.toUInt32

def routing (root : DaoRoot) : SrRouting := ⟨root.dagId, root.dagId⟩

def registerLink (source : UipIpaddr) (dao : RplDao) (root : DaoRoot) : Option DaoRoot :=
  if dao.lifetime = 0 then
    some { root with sr := root.sr.uipSrExpireParent root.routing none source dao.parentAddr }
  else
    match root.sr.uipSrUpdateNode root.routing none source (some dao.parentAddr)
        (root.rplLifetime dao.lifetime) with
    | (some _, sr) => some { root with sr := sr }
    | (none, _) => none

def rplTimersScheduleDaoAck (target : UipIpaddr) (sequence : UInt16) (root : DaoRoot) : DaoRoot :=
  if root.used then
    { root with daoAckTarget := target, daoAckSequence := sequence, daoAckTimer := true }
  else root

/-- `rpl_process_dao`. What a DAO without space leaves of the graph stays there. -/
def rplProcessDao (source : UipIpaddr) (dao : RplDao) (root : DaoRoot) : DaoRoot :=
  match root.registerLink source dao with
  | some root =>
    if dao.flags &&& rplDaoKFlag ≠ 0 then root.rplTimersScheduleDaoAck source dao.sequence
    else root
  | none =>
    { root with
      sr := (root.sr.uipSrUpdateNode root.routing none source (some dao.parentAddr)
        (root.rplLifetime dao.lifetime)).2 }

def rplIcmp6DaoAckOutput (dest : UipIpaddr) (sequence status : UInt8) (root : DaoRoot) : DaoRoot :=
  { root with sent := root.sent ++ [⟨dest, sequence, status⟩] }

def handleDaoAckTimer (root : DaoRoot) : DaoRoot :=
  root.rplIcmp6DaoAckOutput root.daoAckTarget root.daoAckSequence.toUInt8
    rplDaoAckUnconditionalAccept

end DaoRoot

inductive DaoRootStep where
  /-- A DAO of the instance, as `dao_input` reads it. -/
  | dao (source parentAddr : UipIpaddr) (sequence lifetime flags : UInt8)
  | daoAckTimer
  | periodic (seconds : UInt32)

structure DaoHistory where
  root : DaoRoot
  requested : List DaoAckMessage

def DaoRoot.request (source : UipIpaddr) (dao : RplDao) (root : DaoRoot) : List DaoAckMessage :=
  if (root.registerLink source dao).isSome && dao.flags &&& rplDaoKFlag != 0 then
    [⟨source, dao.sequence.toUInt8, rplDaoAckUnconditionalAccept⟩]
  else []

def DaoHistory.step (history : DaoHistory) : DaoRootStep → DaoHistory
  | .dao source parentAddr sequence lifetime flags =>
    let dao : RplDao := ⟨parentAddr, sequence.toUInt16, lifetime, flags⟩
    ⟨history.root.rplProcessDao source dao,
      history.requested ++ history.root.request source dao⟩
  | .daoAckTimer =>
    if history.root.daoAckTimer then
      { history with
        root := { history.root with daoAckTimer := false }.handleDaoAckTimer }
    else history
  | .periodic seconds =>
    { history with root := { history.root with sr := history.root.sr.uipSrPeriodic seconds } }

def DaoRoot.pending (root : DaoRoot) : List DaoAckMessage :=
  if root.daoAckTimer then
    [⟨root.daoAckTarget, root.daoAckSequence.toUInt8, rplDaoAckUnconditionalAccept⟩]
  else []

def EveryDaoAnswered (history : DaoHistory) : Prop :=
  history.requested.Perm (history.root.sent ++ history.root.pending)

def NoneWaiting (history : DaoHistory) : DaoRootStep → Prop
  | .dao source parentAddr sequence lifetime flags =>
    history.root.request source ⟨parentAddr, sequence.toUInt16, lifetime, flags⟩ ≠ [] →
    history.root.daoAckTimer = false
  | _ => True

structure AnsweredInOrder (history : DaoHistory) : Prop where
  used : history.root.used = true
  inOrder : history.requested = history.root.sent ++ history.root.pending

variable {history : DaoHistory}

theorem AnsweredInOrder.answered (answered : AnsweredInOrder history) :
    EveryDaoAnswered history := by
  unfold EveryDaoAnswered
  rw [answered.inOrder]

theorem registerLink_frame {source : UipIpaddr} {dao : RplDao} {root next : DaoRoot}
    (registered : root.registerLink source dao = some next) :
    next = { root with sr := next.sr } := by
  unfold DaoRoot.registerLink at registered
  split at registered
  · obtain rfl := Option.some.inj registered
    rfl
  · split at registered
    · obtain rfl := Option.some.inj registered
      rfl
    · cases registered

theorem rplProcessDao_cases (source : UipIpaddr) (dao : RplDao) {root : DaoRoot}
    (used : root.used = true) :
    (root.request source dao = [] ∧ ∃ sr, root.rplProcessDao source dao = { root with sr := sr }) ∨
    (root.request source dao = [⟨source, dao.sequence.toUInt8, rplDaoAckUnconditionalAccept⟩] ∧
      ∃ sr, root.rplProcessDao source dao =
        { root with
          sr := sr
          daoAckTarget := source
          daoAckSequence := dao.sequence
          daoAckTimer := true }) := by
  unfold DaoRoot.rplProcessDao DaoRoot.request
  cases registered : root.registerLink source dao with
  | none => exact Or.inl ⟨rfl, _, rfl⟩
  | some next =>
    have frame := registerLink_frame registered
    by_cases wanted : dao.flags &&& rplDaoKFlag = 0
    · left
      refine ⟨by simp [wanted], next.sr, ?_⟩
      simp only [wanted, ne_eq, not_true_eq_false, if_false]
      exact frame
    · right
      refine ⟨by simp [wanted], next.sr, ?_⟩
      simp only [ne_eq, wanted, not_false_eq_true, if_true]
      rw [frame, DaoRoot.rplTimersScheduleDaoAck, if_pos used]

theorem pending_of_idle {root : DaoRoot} (idle : root.daoAckTimer = false) : root.pending = [] := by
  rw [DaoRoot.pending, idle]
  rfl

theorem AnsweredInOrder.step {step : DaoRootStep}
    (answered : AnsweredInOrder history) (waiting : NoneWaiting history step) :
    AnsweredInOrder (history.step step) := by
  cases step with
  | dao source parentAddr sequence lifetime flags =>
    unfold DaoHistory.step
    dsimp only
    rcases rplProcessDao_cases source ⟨parentAddr, sequence.toUInt16, lifetime, flags⟩
      answered.used with ⟨nothing, sr, changed⟩ | ⟨wanted, sr, changed⟩
    · rw [nothing, changed, List.append_nil]
      exact ⟨answered.used, answered.inOrder⟩
    · have idle := waiting (by rw [wanted]; exact List.cons_ne_nil _ _)
      rw [wanted, changed]
      refine ⟨answered.used, ?_⟩
      change history.requested ++ _ = history.root.sent ++ _
      rw [answered.inOrder, pending_of_idle idle, List.append_nil]
      rfl
  | daoAckTimer =>
    unfold DaoHistory.step
    dsimp only
    split
    · rename_i running
      refine ⟨answered.used, ?_⟩
      change history.requested = (history.root.sent ++ _) ++ []
      rw [answered.inOrder, DaoRoot.pending, if_pos running, List.append_nil]
    · exact answered
  | periodic seconds => exact ⟨answered.used, answered.inOrder⟩

theorem overwritten_not_answered {step : DaoRootStep}
    (answered : AnsweredInOrder history) (waiting : ¬ NoneWaiting history step) :
    ¬ EveryDaoAnswered (history.step step) := by
  cases step with
  | dao source parentAddr sequence lifetime flags =>
    unfold NoneWaiting at waiting
    rw [Classical.not_imp, Bool.not_eq_false] at waiting
    obtain ⟨wanted, running⟩ := waiting
    intro every
    unfold EveryDaoAnswered DaoHistory.step at every
    dsimp only at every
    rcases rplProcessDao_cases source ⟨parentAddr, sequence.toUInt16, lifetime, flags⟩
      answered.used with ⟨nothing, _⟩ | ⟨asked, sr, changed⟩
    · exact wanted nothing
    · rw [asked, changed, answered.inOrder, DaoRoot.pending, if_pos running] at every
      have lengths := every.length_eq
      simp [DaoRoot.pending] at lengths
  | daoAckTimer => exact absurd trivial waiting
  | periodic seconds => exact absurd trivial waiting

def DaoHistory.start (dagId : UipIpaddr) (lifetimeUnit : UInt16) (sr : UipSr)
    (daoAckTarget : UipIpaddr) (daoAckSequence : UInt16) : DaoHistory :=
  ⟨⟨true, dagId, lifetimeUnit, sr, daoAckTarget, daoAckSequence, false, []⟩, []⟩

/-- Every DAO is answered exactly as long as none that wants an acknowledgement comes between
another one and the timer. -/
theorem dao_answered_iff (dagId : UipIpaddr) (lifetimeUnit : UInt16) (sr : UipSr)
    (daoAckTarget : UipIpaddr) (daoAckSequence : UInt16) (steps : List DaoRootStep) :
    Run.Always DaoHistory.step EveryDaoAnswered
        (DaoHistory.start dagId lifetimeUnit sr daoAckTarget daoAckSequence) steps ↔
      Run.Meets DaoHistory.step NoneWaiting
        (DaoHistory.start dagId lifetimeUnit sr daoAckTarget daoAckSequence) steps :=
  Run.always_iff_meets AnsweredInOrder (fun _ answered => answered.answered)
    (fun _ _ answered _ waiting => answered.step waiting)
    (fun _ _ answered _ waiting => overwritten_not_answered answered waiting) steps _ ⟨rfl, rfl⟩
    (@Run.meets_of_forall _ _ DaoHistory.step (fun _ _ => True) (fun _ _ => trivial) steps _)

def daoSender (host : UInt8) : UipIpaddr := hostAddr host

theorem dao_ack_overwritten :
    let history := Run.final DaoHistory.step
      (DaoHistory.start (daoSender 1) 60 ⟨0, [], ⟨4, fun _ => 0, fun _ => default⟩⟩ (daoSender 0) 0)
      [.dao (daoSender 2) (daoSender 1) 241 30 0x80, .dao (daoSender 3) (daoSender 1) 245 30 0x80,
        .daoAckTimer]
    history.requested = [⟨daoSender 2, 241, 0⟩, ⟨daoSender 3, 245, 0⟩] ∧
      history.root.sent = [⟨daoSender 3, 245, 0⟩] ∧ history.root.daoAckTimer = false ∧
      ¬ EveryDaoAnswered history := by
  intro history
  have requested : history.requested = [⟨daoSender 2, 241, 0⟩, ⟨daoSender 3, 245, 0⟩] := by
    decide +kernel
  have sent : history.root.sent = [⟨daoSender 3, 245, 0⟩] := by decide +kernel
  have idle : history.root.daoAckTimer = false := by decide +kernel
  refine ⟨requested, sent, idle, fun every => ?_⟩
  have lengths := every.length_eq
  rw [requested, sent, pending_of_idle idle] at lengths
  exact absurd lengths (by decide)

end MultiPhyTsch.Rpl
