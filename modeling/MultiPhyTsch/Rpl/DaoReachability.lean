import MultiPhyTsch.Rpl.Dag
import MultiPhyTsch.Lib.Run

/-! How a node with DAO-ACKs becomes reachable. The choice of the parent is left to the
environment, so that every order of parent changes is there; what is modelled is what
`rpl_dag_update_state`, the DAO timer and the DAO-ACKs do with the state of the DAG and with the
three sequence numbers. The log tells what happened, and no function reads it. -/

namespace MultiPhyTsch.Rpl

def rplLollipopInit : UInt8 := 240

def rplDaoMaxRetransmissions : UInt8 := 5

def rplDaoAckUnableToAccept : UInt8 := 128

def rplMopNoDownwardRoutes : UInt8 := 0

inductive DaoEvent where
  | gotParent
  | daoSent (sequence : UInt8)
deriving DecidableEq, Repr

structure DaoNode where
  used : Bool
  mop : UInt8
  infiniteLifetime : Bool
  state : RplDagState
  preferredParent : Option Nat
  daoCurrSeqno : UInt8
  daoLastSeqno : UInt8
  daoLastAckedSeqno : UInt8
  daoTransmissions : UInt8
  daoTimer : Bool
  log : List DaoEvent

/-- What an update of the state finds: whether the rank is that of a root, and the neighbor that
`rpl_neighbor_select_best` returns. -/
structure Selection where
  rootRank : Bool
  best : Option Nat

def Selection.nothing : Selection := ⟨false, none⟩

namespace DaoNode

def rplTimersScheduleDao (node : DaoNode) : DaoNode :=
  if node.used ∧ node.mop ≠ rplMopNoDownwardRoutes then
    { node with daoCurrSeqno := RplNode.rplLollipopIncrement node.daoCurrSeqno, daoTimer := true }
  else node

def enterJoined (node : DaoNode) : DaoNode :=
  { node with
    state := .joined
    log := if node.state = .joined then node.log else .gotParent :: node.log }

def parentSet (node : DaoNode) : DaoNode :=
  if node.preferredParent.isSome then node.rplTimersScheduleDao
  else { node with state := .initialized }

def parentSwitch (oldParent : Option Nat) (node : DaoNode) : DaoNode :=
  (if oldParent.isNone then node.enterJoined else node).parentSet

def rplDagUpdateState (selection : Selection) (node : DaoNode) : DaoNode :=
  if !node.used then node
  else if node.state = .poisoning then { node with preferredParent := none }
  else if selection.rootRank then node
  else if selection.best = node.preferredParent then node
  else { node with preferredParent := selection.best }.parentSwitch node.preferredParent

/-- `rpl_local_repair` of a node that is no root. All neighbors are removed before the update. -/
def rplLocalRepair (node : DaoNode) : DaoNode :=
  if node.used then { node with state := .initialized }.rplDagUpdateState .nothing else node

/-- The end of `rpl_icmp6_dao_output`, which sends if there is a parent and if the node is ready:
if it had a prefix and an address of its parent before the update. -/
def sendDao (ready : Bool) (node : DaoNode) : DaoNode :=
  if node.used && node.preferredParent.isSome && ready && node.mop != rplMopNoDownwardRoutes then
    { node with log := .daoSent node.daoCurrSeqno :: node.log }
  else node

def rplIcmp6DaoOutput (selection : Selection) (ready : Bool) (node : DaoNode) : DaoNode :=
  (node.rplDagUpdateState selection).sendDao ready

variable (node : DaoNode)

def scheduleDaoRefresh : DaoNode :=
  if node.used && !node.infiniteLifetime then
    { node with daoCurrSeqno := RplNode.rplLollipopIncrement node.daoCurrSeqno, daoTimer := true }
  else node

def newDao : Bool :=
  RplNode.rplLollipopGreaterThan node.daoCurrSeqno node.daoLastSeqno

def transmits : Bool :=
  node.newDao || (node.daoLastAckedSeqno != node.daoLastSeqno &&
    node.daoTransmissions < rplDaoMaxRetransmissions)

def countTransmission : DaoNode :=
  { node with
    daoTransmissions := (if node.newDao then 0 else node.daoTransmissions) + 1
    daoTimer := true
    daoLastSeqno := node.daoCurrSeqno }

def transmitDao (selection : Selection) (ready : Bool) (node : DaoNode) : DaoNode :=
  node.countTransmission.rplIcmp6DaoOutput selection ready

def handleDaoTimer (selection : Selection) (ready : Bool) (node : DaoNode) : DaoNode :=
  if node.newDao then node.transmitDao selection ready
  else if node.daoLastAckedSeqno = node.daoLastSeqno then node.scheduleDaoRefresh
  else if node.daoTransmissions ≥ rplDaoMaxRetransmissions then node.rplLocalRepair
  else node.transmitDao selection ready

def rplProcessDaoAck (sequence status : UInt8) (node : DaoNode) : DaoNode :=
  let node :=
    if RplNode.rplLollipopGreaterThan sequence node.daoLastAckedSeqno then
      { node with daoLastAckedSeqno := sequence }
    else node
  if sequence = node.daoLastSeqno then
    if status < rplDaoAckUnableToAccept then
      if node.state = .joined then { node with state := .reachable } else node
    else { node with state := .poisoning }
  else node

def initDagFromDio (mop : UInt8) (infiniteLifetime : Bool) (node : DaoNode) : DaoNode :=
  { node with
    used := true
    mop := mop
    infiniteLifetime := infiniteLifetime
    state := .initialized
    preferredParent := none
    daoCurrSeqno := rplLollipopInit
    daoLastSeqno := rplLollipopInit
    daoLastAckedSeqno := rplLollipopInit
    daoTransmissions := 0
    daoTimer := false }

def rplDagLeave (selection : Selection) (ready : Bool) (node : DaoNode) : DaoNode :=
  let node := { node with daoCurrSeqno := RplNode.rplLollipopIncrement node.daoCurrSeqno }
  let node := (node.rplIcmp6DaoOutput selection ready).rplDagUpdateState .nothing
  { node with used := false, daoTimer := false }

def boot : DaoNode := ⟨false, 0, false, .initialized, none, 0, 0, 0, 0, false, []⟩

end DaoNode

inductive DaoStep where
  /-- The first DIO of a DAG, or one with a newer version. -/
  | initDag (mop : UInt8) (infiniteLifetime : Bool)
  | initFailed
  | updateState (selection : Selection)
  | localRepair
  /-- A DIO of the parent with a newer DTSN. -/
  | scheduleDao
  | daoTimer (selection : Selection) (ready : Bool)
  /-- A DAO-ACK of the instance, whichever DAO it was sent for. -/
  | daoAck (sequence status : UInt8)
  | poison
  | leave (selection : Selection) (ready : Bool)

def DaoStep.apply (node : DaoNode) : DaoStep → DaoNode
  | .initDag mop infiniteLifetime =>
    (node.initDagFromDio mop infiniteLifetime).rplLocalRepair
  | .initFailed => { DaoNode.boot with log := node.log }
  | .updateState selection => node.rplDagUpdateState selection
  | .localRepair => node.rplLocalRepair
  | .scheduleDao => node.rplTimersScheduleDao
  | .daoTimer selection ready =>
    if node.used && node.daoTimer then
      { node with daoTimer := false }.handleDaoTimer selection ready
    else node
  | .daoAck sequence status => if node.used then node.rplProcessDaoAck sequence status else node
  | .poison => { node with state := .poisoning }
  | .leave selection ready => if node.used then node.rplDagLeave selection ready else node

/-- The sequence numbers of the DAOs sent since the node last entered `DAG_JOINED`. -/
def daosSinceJoined : List DaoEvent → List UInt8
  | [] => []
  | .gotParent :: _ => []
  | .daoSent sequence :: log => sequence :: daosSinceJoined log

def ReachabilityEarned (node : DaoNode) (step : DaoStep) : Prop :=
  node.used = true → node.state = .joined → (step.apply node).state = .reachable →
  ∃ sequence status, step = .daoAck sequence status ∧ status < rplDaoAckUnableToAccept ∧
    sequence ∈ daosSinceJoined node.log

def DaoGoesOut (node : DaoNode) (selection : Selection) (ready : Bool) : Prop :=
  (selection.rootRank = false ∧ selection.best = none) ∨
  ((selection.rootRank = true ∨ selection.best = node.preferredParent) ∧
    (node.state = .joined → ready = true))

/-- What a step has to be like. A positive DAO-ACK with the number of the last DAO comes to a
joined node only after it has sent a DAO since it joined; and when the DAO timer sends, what is
sent has the number that is noted as the last one. -/
def AckAfterDao (node : DaoNode) : DaoStep → Prop
  | .daoAck sequence status => node.used = true → node.state = .joined →
      sequence = node.daoLastSeqno → status < rplDaoAckUnableToAccept →
      daosSinceJoined node.log ≠ []
  | .daoTimer selection ready => node.used = true → node.daoTimer = true →
      node.state ≠ .poisoning → node.transmits = true → DaoGoesOut node selection ready
  | _ => True

structure DaoInvariant (node : DaoNode) : Prop where
  sent : node.used = true → node.state = .joined → daosSinceJoined node.log ≠ [] →
    node.daoLastSeqno ∈ daosSinceJoined node.log
  parent : node.used = true → node.state = .joined → node.preferredParent ≠ none
  downward : node.used = true → node.daoTimer = true → node.mop ≠ rplMopNoDownwardRoutes

variable {node : DaoNode}

abbrev LastSent (node : DaoNode) : Prop :=
  node.used = true → node.state = .joined → daosSinceJoined node.log ≠ [] →
    node.daoLastSeqno ∈ daosSinceJoined node.log

abbrev Downward (node : DaoNode) : Prop :=
  node.used = true → node.daoTimer = true → node.mop ≠ rplMopNoDownwardRoutes

theorem DaoInvariant.of_notJoined (other : node.state ≠ .joined) (downward : Downward node) :
    DaoInvariant node :=
  ⟨fun _ joined => absurd joined other, fun _ joined => absurd joined other, downward⟩

theorem scheduleDao_invariant (invariant : DaoInvariant node) :
    DaoInvariant node.rplTimersScheduleDao := by
  unfold DaoNode.rplTimersScheduleDao
  split
  · rename_i downward
    exact ⟨invariant.sent, invariant.parent, fun _ _ => downward.2⟩
  · exact invariant

theorem enterJoined_sent (sent : node.state = .joined → daosSinceJoined node.log ≠ [] →
      node.daoLastSeqno ∈ daosSinceJoined node.log) :
    daosSinceJoined node.enterJoined.log ≠ [] →
      node.enterJoined.daoLastSeqno ∈ daosSinceJoined node.enterJoined.log := by
  unfold DaoNode.enterJoined
  dsimp only
  by_cases joined : node.state = .joined
  · rw [if_pos joined]
    exact sent joined
  · rw [if_neg joined]
    exact fun some => absurd rfl some

theorem parentSet_invariant (sent : LastSent node) (downward : Downward node) :
    DaoInvariant node.parentSet := by
  unfold DaoNode.parentSet
  split
  · rename_i chosen
    apply scheduleDao_invariant
    exact ⟨sent, fun _ _ => Option.isSome_iff_ne_none.mp chosen, downward⟩
  · exact DaoInvariant.of_notJoined (by simp) downward

theorem parentSwitch_invariant (oldParent : Option Nat) (sent : LastSent node)
    (downward : Downward node) : DaoInvariant (node.parentSwitch oldParent) := by
  unfold DaoNode.parentSwitch
  split
  · exact parentSet_invariant (fun used _ => enterJoined_sent (sent used)) downward
  · exact parentSet_invariant sent downward

theorem update_invariant (selection : Selection) (invariant : DaoInvariant node) :
    DaoInvariant (node.rplDagUpdateState selection) := by
  unfold DaoNode.rplDagUpdateState
  split
  · exact invariant
  · split
    · rename_i poisoning
      refine DaoInvariant.of_notJoined ?_ invariant.downward
      rw [poisoning]
      exact fun joined => nomatch joined
    · split
      · exact invariant
      · split
        · exact invariant
        · exact parentSwitch_invariant _ invariant.sent invariant.downward

theorem localRepair_invariant (invariant : DaoInvariant node) :
    DaoInvariant node.rplLocalRepair := by
  unfold DaoNode.rplLocalRepair
  split
  · apply update_invariant
    exact DaoInvariant.of_notJoined (by simp) invariant.downward
  · exact invariant

variable {selection : Selection}

theorem update_same (active : node.state ≠ .poisoning)
    (keeps : selection.rootRank = true ∨ selection.best = node.preferredParent) :
    node.rplDagUpdateState selection = node := by
  unfold DaoNode.rplDagUpdateState
  rw [if_neg active]
  rcases keeps with root | same
  · rw [if_pos root, ite_self]
  · rw [if_pos same, ite_self, ite_self]

theorem update_lost (used : node.used = true)
    (active : node.state ≠ .poisoning) (parent : node.preferredParent ≠ none)
    (notRoot : selection.rootRank = false) (nothing : selection.best = none) :
    node.rplDagUpdateState selection =
      { node with preferredParent := none, state := .initialized } := by
  have first : ¬ node.preferredParent.isNone = true := by simpa using parent
  unfold DaoNode.rplDagUpdateState
  rw [if_neg (by simp [used]), if_neg active, if_neg (by simp [notRoot]),
    if_neg (by rw [nothing]; exact parent.symm), nothing]
  unfold DaoNode.parentSwitch DaoNode.parentSet
  rw [if_neg first]
  rfl

theorem update_poisoning (selection : Selection) (used : node.used = true)
    (poisoning : node.state = .poisoning) :
    node.rplDagUpdateState selection = { node with preferredParent := none } := by
  unfold DaoNode.rplDagUpdateState
  rw [if_neg (by simp [used]), if_pos poisoning]

theorem sendDao_frame (node : DaoNode) (ready : Bool) :
    ∃ log, node.sendDao ready = { node with log := log } := by
  unfold DaoNode.sendDao
  split
  · exact ⟨_, rfl⟩
  · exact ⟨node.log, rfl⟩

theorem sendDao_notJoined (ready : Bool) (other : node.state ≠ .joined)
    (downward : Downward node) : DaoInvariant (node.sendDao ready) := by
  obtain ⟨log, same⟩ := sendDao_frame node ready
  rw [same]
  exact DaoInvariant.of_notJoined other downward

section

variable {ready : Bool} (invariant : DaoInvariant node) (used : node.used = true)
  (downward : node.mop ≠ rplMopNoDownwardRoutes)
include invariant used downward

theorem transmit_invariant (goesOut : node.state ≠ .poisoning → DaoGoesOut node selection ready) :
    DaoInvariant (node.transmitDao selection ready) := by
  unfold DaoNode.transmitDao DaoNode.rplIcmp6DaoOutput
  by_cases poisoning : node.state = .poisoning
  · rw [@update_poisoning node.countTransmission selection used poisoning]
    refine sendDao_notJoined ready ?_ fun _ _ => downward
    change node.state ≠ .joined
    rw [poisoning]
    decide
  · by_cases lost : selection.rootRank = false ∧ selection.best = none ∧ node.preferredParent ≠ none
    · rw [@update_lost node.countTransmission selection used poisoning lost.2.2 lost.1 lost.2.1]
      exact sendDao_notJoined ready (by simp) fun _ _ => downward
    · have keeps : (selection.rootRank = true ∨ selection.best = node.preferredParent) ∧
          (node.state = .joined → ready = true) := by
        rcases goesOut poisoning with ⟨notRoot, nothing⟩ | kept
        · have noParent : node.preferredParent = none := by
            by_contra parent
            exact lost ⟨notRoot, nothing, parent⟩
          refine ⟨Or.inr (nothing.trans noParent.symm), fun joined => ?_⟩
          exact absurd noParent (invariant.parent used joined)
        · exact kept
      rw [@update_same node.countTransmission selection poisoning keeps.1]
      by_cases joined : node.state = .joined
      · have parent := invariant.parent used joined
        unfold DaoNode.sendDao
        rw [if_pos (by simp [DaoNode.countTransmission, used, Option.isSome_iff_ne_none.mpr parent,
          keeps.2 joined, downward])]
        exact ⟨fun _ _ _ => List.mem_cons_self, fun _ _ => parent, fun _ _ => downward⟩
      · exact sendDao_notJoined ready joined fun _ _ => downward

theorem handleDaoTimer_invariant (goesOut : node.state ≠ .poisoning → node.transmits = true →
      DaoGoesOut node selection ready) : DaoInvariant (node.handleDaoTimer selection ready) := by
  unfold DaoNode.handleDaoTimer
  split
  · rename_i fresh
    refine transmit_invariant invariant used downward fun active => goesOut active ?_
    simp [DaoNode.transmits, fresh]
  · split
    · unfold DaoNode.scheduleDaoRefresh
      split
      · exact ⟨invariant.sent, invariant.parent, fun _ _ => downward⟩
      · exact invariant
    · rename_i unacked
      split
      · exact localRepair_invariant invariant
      · rename_i left
        refine transmit_invariant invariant used downward fun active => goesOut active ?_
        simp only [ge_iff_le, UInt8.not_le] at left
        simp [DaoNode.transmits, unacked, left]

end

theorem processDaoAck_eq (node : DaoNode) (sequence status : UInt8) : ∃ acked,
    let noted := { node with daoLastAckedSeqno := acked }
    node.rplProcessDaoAck sequence status =
      if sequence = node.daoLastSeqno then
        if status < rplDaoAckUnableToAccept then
          if node.state = .joined then { noted with state := .reachable } else noted
        else { noted with state := .poisoning }
      else noted := by
  unfold DaoNode.rplProcessDaoAck
  dsimp only
  split
  · exact ⟨sequence, rfl⟩
  · exact ⟨node.daoLastAckedSeqno, rfl⟩

theorem processDaoAck_invariant (sequence status : UInt8)
    (invariant : DaoInvariant node) : DaoInvariant (node.rplProcessDaoAck sequence status) := by
  obtain ⟨acked, same⟩ := processDaoAck_eq node sequence status
  have noted : DaoInvariant { node with daoLastAckedSeqno := acked } :=
    ⟨invariant.sent, invariant.parent, invariant.downward⟩
  rw [same]
  split
  · split
    · split
      · exact DaoInvariant.of_notJoined (by simp) noted.downward
      · exact noted
    · exact DaoInvariant.of_notJoined (by simp) noted.downward
  · exact noted

theorem daoStep_invariant {step : DaoStep} (invariant : DaoInvariant node)
    (inOrder : AckAfterDao node step) : DaoInvariant (step.apply node) := by
  cases step with
  | initDag mop infiniteLifetime =>
    apply localRepair_invariant
    exact DaoInvariant.of_notJoined (by simp [DaoNode.initDagFromDio])
      (by simp [DaoNode.initDagFromDio])
  | initFailed =>
    exact DaoInvariant.of_notJoined (fun joined => nomatch joined) (fun used => nomatch used)
  | updateState selection => exact update_invariant selection invariant
  | localRepair => exact localRepair_invariant invariant
  | scheduleDao => exact scheduleDao_invariant invariant
  | daoTimer selection ready =>
    unfold DaoStep.apply
    dsimp only
    split
    · rename_i running
      rw [Bool.and_eq_true] at running
      exact handleDaoTimer_invariant
        ⟨invariant.sent, invariant.parent, fun used _ => invariant.downward used running.2⟩
        running.1 (invariant.downward running.1 running.2)
        (fun active transmits => inOrder running.1 running.2 active transmits)
    · exact invariant
  | daoAck sequence status =>
    unfold DaoStep.apply
    dsimp only
    split
    · exact processDaoAck_invariant sequence status invariant
    · exact invariant
  | poison => exact DaoInvariant.of_notJoined (by simp [DaoStep.apply]) invariant.downward
  | leave selection ready =>
    unfold DaoStep.apply
    dsimp only
    split
    · have unused : (node.rplDagLeave selection ready).used ≠ true := Bool.false_ne_true
      exact ⟨fun used => absurd used unused, fun used => absurd used unused,
        fun used => absurd used unused⟩
    · exact invariant

theorem scheduleDao_state (node : DaoNode) : node.rplTimersScheduleDao.state = node.state := by
  unfold DaoNode.rplTimersScheduleDao
  split
  · rfl
  · rfl

theorem update_unreachable (selection : Selection) (unreachable : node.state ≠ .reachable) :
    (node.rplDagUpdateState selection).state ≠ .reachable := by
  have set : ∀ {before : DaoNode}, before.state ≠ .reachable →
      before.parentSet.state ≠ .reachable := by
    intro before beforeState
    unfold DaoNode.parentSet
    split
    · rw [scheduleDao_state]
      exact beforeState
    · simp
  unfold DaoNode.rplDagUpdateState
  split
  · exact unreachable
  · split
    · exact unreachable
    · split
      · exact unreachable
      · split
        · exact unreachable
        · unfold DaoNode.parentSwitch
          split
          · exact set (by simp [DaoNode.enterJoined])
          · exact set unreachable

theorem localRepair_unreachable (unreachable : node.state ≠ .reachable) :
    node.rplLocalRepair.state ≠ .reachable := by
  unfold DaoNode.rplLocalRepair
  split
  · exact update_unreachable _ (by simp)
  · exact unreachable

theorem output_unreachable (selection : Selection) (ready : Bool)
    (unreachable : node.state ≠ .reachable) :
    (node.rplIcmp6DaoOutput selection ready).state ≠ .reachable := by
  unfold DaoNode.rplIcmp6DaoOutput
  obtain ⟨log, same⟩ := sendDao_frame (node.rplDagUpdateState selection) ready
  rw [same]
  exact update_unreachable selection unreachable

theorem handleDaoTimer_unreachable (selection : Selection) (ready : Bool)
    (unreachable : node.state ≠ .reachable) :
    (node.handleDaoTimer selection ready).state ≠ .reachable := by
  have transmitted : (node.transmitDao selection ready).state ≠ .reachable :=
    output_unreachable selection ready unreachable
  unfold DaoNode.handleDaoTimer
  split
  · exact transmitted
  · split
    · unfold DaoNode.scheduleDaoRefresh
      split
      · exact unreachable
      · exact unreachable
    · split
      · exact localRepair_unreachable unreachable
      · exact transmitted

theorem processDaoAck_reachable {sequence status : UInt8} (unreachable : node.state ≠ .reachable)
    (reachable : (node.rplProcessDaoAck sequence status).state = .reachable) :
    sequence = node.daoLastSeqno ∧ status < rplDaoAckUnableToAccept := by
  obtain ⟨acked, same⟩ := processDaoAck_eq node sequence status
  rw [same] at reachable
  split at reachable
  · rename_i last
    split at reachable
    · rename_i positive
      exact ⟨last, positive⟩
    · cases reachable
  · exact absurd reachable unreachable

theorem earned_of_invariant {step : DaoStep} (invariant : DaoInvariant node)
    (inOrder : AckAfterDao node step) : ReachabilityEarned node step := by
  intro used joined reachable
  have unreachable : node.state ≠ .reachable := by
    rw [joined]
    decide
  cases step with
  | initDag mop infiniteLifetime =>
    exact absurd reachable (localRepair_unreachable (by simp [DaoNode.initDagFromDio]))
  | initFailed => exact absurd reachable (by simp [DaoStep.apply, DaoNode.boot])
  | updateState selection => exact absurd reachable (update_unreachable selection unreachable)
  | localRepair => exact absurd reachable (localRepair_unreachable unreachable)
  | scheduleDao =>
    exact absurd ((scheduleDao_state node).symm.trans reachable) unreachable
  | daoTimer selection ready =>
    unfold DaoStep.apply at reachable
    dsimp only at reachable
    split at reachable
    · exact absurd reachable (handleDaoTimer_unreachable selection ready unreachable)
    · exact absurd reachable unreachable
  | daoAck sequence status =>
    unfold DaoStep.apply at reachable
    dsimp only at reachable
    rw [if_pos used] at reachable
    obtain ⟨last, positive⟩ := processDaoAck_reachable unreachable reachable
    have sent := inOrder used joined last positive
    exact ⟨sequence, status, rfl, positive, last ▸ invariant.sent used joined sent⟩
  | poison => exact absurd reachable (by simp [DaoStep.apply])
  | leave selection ready =>
    unfold DaoStep.apply at reachable
    dsimp only at reachable
    rw [if_pos used] at reachable
    exact absurd reachable
      (update_unreachable _ (output_unreachable selection ready unreachable))

/-- Reachability is earned in every run in which acknowledgements come after a DAO of the same
time in the DAG and the DAOs sent have the numbers noted for them. -/
theorem reachability_earned (steps : List DaoStep)
    (inOrder : Run.Meets DaoStep.apply AckAfterDao DaoNode.boot steps) :
    Run.Meets DaoStep.apply ReachabilityEarned DaoNode.boot steps :=
  Run.meets_of_meets DaoInvariant
    (fun _ _ invariant inOrder => daoStep_invariant invariant inOrder)
    (fun _ _ invariant inOrder => earned_of_invariant invariant inOrder) steps DaoNode.boot
    (DaoInvariant.of_notJoined (by decide) (by decide)) inOrder

def reachSteps : List DaoStep :=
  [.initDag 1 false, .updateState ⟨false, some 0⟩, .daoTimer ⟨false, some 0⟩ true, .daoAck 241 0]

theorem reachability_earned_first :
    Run.Meets DaoStep.apply ReachabilityEarned DaoNode.boot reachSteps := by
  refine reachability_earned reachSteps ⟨trivial, trivial, ?_, ?_, trivial⟩
  · exact fun _ _ _ _ => Or.inr ⟨Or.inr (by decide), fun _ => rfl⟩
  · intro _ _ _ _
    decide

/-- The acknowledgement of the first DAO comes after a local repair and a new parent: the node is
reachable before it has sent another DAO. -/
theorem delayed_ack_reaches :
    let joined := Run.final DaoStep.apply DaoNode.boot
      (reachSteps.take 3 ++ [.localRepair, .updateState ⟨false, some 1⟩])
    joined.state = .joined ∧ daosSinceJoined joined.log = [] ∧
      ((DaoStep.daoAck 241 0).apply joined).state = .reachable ∧
      ¬ ReachabilityEarned joined (.daoAck 241 0) := by
  intro joined
  have state : joined.state = .joined := by decide +kernel
  have nothing : daosSinceJoined joined.log = [] := by decide +kernel
  have reachable : ((DaoStep.daoAck 241 0).apply joined).state = .reachable := by decide +kernel
  refine ⟨state, nothing, reachable, fun earned => ?_⟩
  obtain ⟨sequence, status, _, _, sent⟩ := earned (by decide +kernel) state reachable
  rw [nothing] at sent
  cases sent

end MultiPhyTsch.Rpl
