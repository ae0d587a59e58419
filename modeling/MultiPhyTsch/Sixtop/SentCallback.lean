import MultiPhyTsch.Sixtop.TransTable

/-! Whom `mac_callback` reaches. The MAC holds a pointer into the pool of transactions; by the
time it reports the packet the block can hold another transaction, and nothing in the block tells
the two apart. -/

namespace MultiPhyTsch.Sixp

/-- A callback changed and called nothing but the transaction that sent the packet, and changed
nothing when that transaction was gone. -/
structure OwnCallback (record : CallbackRecord) : Prop where
  changed : ∀ uid, record.changed = some uid → uid = record.sender ∧ record.alive
  called : ∀ uid, record.called = some uid → uid = record.sender
  cleared : ∀ uid, record.cleared = some uid → uid = record.sender ∧ record.alive

def CallbacksOwned (node : SixpNode) : Prop := ∀ record ∈ node.callbacks, OwnCallback record

/-- The callback finds nothing to do in a block that is in this state: the packet was sent but the
state is not one that waits for it, or it was not and there is no `sent_func`. -/
def CallbackIgnored (status : MacTxStatus) (trans : SixpTrans) : Prop :=
  if status = .ok then
    trans.state ≠ .init ∧ trans.state ≠ .requestReceived ∧ trans.state ≠ .responseReceived
  else trans.state ≠ .init ∧ trans.callback = none

/-- The block still holds the transaction that sent the packet. Where that has ended, its
`sent_func` does not use the block for a new transaction with a callback. -/
def BlockKept (react : SixpNode → SixpNode) (packet : SentPacket) (node : SixpNode) : Prop :=
  (node.trans packet.block).uid = packet.uid ∧
    (packet.block ∈ node.transList ∨
      (react node).liveUid packet.block (·.callback.isSome) = none)

theorem CallbacksOwned.append {node after : SixpNode} {record : CallbackRecord}
    (owned : CallbacksOwned node) (log : after.callbacks = node.callbacks ++ [record]) :
    CallbacksOwned after ↔ OwnCallback record := by
  constructor
  · intro all
    exact all record (by rw [log]; simp)
  · intro own other member
    rw [log, List.mem_append, List.mem_singleton] at member
    rcases member with old | rfl
    · exact owned other old
    · exact own

theorem CallbacksOwned.of_same {node after : SixpNode} (owned : CallbacksOwned node)
    (log : after.callbacks = node.callbacks) : CallbacksOwned after := by
  rw [CallbacksOwned, log]
  exact owned

theorem liveUid_some {node : SixpNode} {block uid : Nat} {test : SixpTrans → Bool}
    (found : node.liveUid block test = some uid) :
    block ∈ node.transList ∧ (node.trans block).uid = uid := by
  unfold SixpNode.liveUid at found
  split at found
  next live => exact ⟨live.1, Option.some.inj found⟩
  next => cases found

theorem updateNextSeqno_callbacks (trans : SixpTrans) (newState : SixpTransState) (node : SixpNode) :
    (updateNextSeqno trans newState node).callbacks = node.callbacks := by
  unfold updateNextSeqno
  split
  · split <;> rfl
  · rfl
  · rfl

theorem transitState_callbacks (block : Nat) (newState : SixpTransState) (node : SixpNode) :
    (sixpTransTransitState block newState node).2.callbacks = node.callbacks := by
  by_cases allowed : transitionAllowed (node.trans block) newState
  · rw [transitState_allowed allowed]
    exact updateNextSeqno_callbacks _ _ _
  · rw [transitState_refused allowed]

variable {trans : SixpTrans}

variable {status : MacTxStatus}

theorem callbackState_of_not_ignored (effective : ¬ CallbackIgnored status trans) :
    ∃ newState, callbackState status trans.state = some newState ∧
      (newState ≠ trans.state ∨ (newState = trans.state ∧ trans.callback.isSome)) := by
  unfold CallbackIgnored at effective
  unfold callbackState
  split at effective
  next ok =>
    rw [if_pos ok]
    cases state : trans.state <;> simp_all
  next failed =>
    rw [if_neg failed]
    by_cases init : trans.state = .init
    · rw [if_pos init]
      refine ⟨_, rfl, Or.inl ?_⟩
      rw [init]
      decide
    · rw [if_neg init]
      refine ⟨_, rfl, Or.inr ⟨rfl, ?_⟩⟩
      rw [Option.isSome_iff_ne_none]
      exact fun absent => effective ⟨init, absent⟩

theorem ignored_of_unexpected
    (unexpected : callbackState status trans.state = none) : CallbackIgnored status trans := by
  by_contra effective
  obtain ⟨newState, next, -⟩ := callbackState_of_not_ignored effective
  rw [unexpected] at next
  cases next

theorem not_ignored_of_change {newState : SixpTransState}
    (next : callbackState status trans.state = some newState) (changes : newState ≠ trans.state) :
    ¬ CallbackIgnored status trans := by
  unfold CallbackIgnored
  unfold callbackState at next
  split at next
  next ok =>
    rw [if_pos ok]
    cases state : trans.state <;> simp_all
  next failed =>
    rw [if_neg failed]
    rintro ⟨waiting, -⟩
    rw [if_neg waiting] at next
    exact changes (Option.some.inj next).symm

theorem ignored_iff_of_same (next : callbackState status trans.state = some trans.state) :
    CallbackIgnored status trans ↔ trans.callback = none := by
  unfold CallbackIgnored
  unfold callbackState at next
  split at next
  next ok => cases state : trans.state <;> simp_all
  next failed =>
    rw [if_neg failed]
    split at next
    next init =>
      rw [init] at next
      cases next
    next waiting => exact ⟨fun ignored => ignored.2, fun absent => ⟨waiting, absent⟩⟩

section callback

variable {waiting : Option Nat} {react : SixpNode → SixpNode} {packet : SentPacket}
  {status : MacTxStatus} {node : SixpNode}

theorem ownCallback_of_kept {after : SixpNode} {changed called : Option Nat}
    (member : packet.block ∈ node.transList) (same : (node.trans packet.block).uid = packet.uid)
    (growth : Extends node after)
    (changedUid : ∀ uid, changed = some uid → uid = (node.trans packet.block).uid)
    (calledUid : ∀ uid, called = some uid → uid = (node.trans packet.block).uid) :
    OwnCallback ⟨packet.uid,
      decide (packet.block ∈ node.transList ∧ (node.trans packet.block).uid = packet.uid),
      changed, called, after.liveUid packet.block (·.callback.isSome)⟩ := by
  have alive : decide (packet.block ∈ node.transList ∧
      (node.trans packet.block).uid = packet.uid) = true := decide_eq_true ⟨member, same⟩
  refine ⟨?_, ?_, ?_⟩
  · intro uid found
    exact ⟨(changedUid uid found).trans same, alive⟩
  · intro uid found
    exact (calledUid uid found).trans same
  · intro uid found
    have found : after.liveUid packet.block (·.callback.isSome) = some uid := found
    have uidEq := (liveUid_some found).2
    rw [(growth packet.block member).2.uid, same] at uidEq
    exact ⟨uidEq.symm, alive⟩

theorem ownCallback_nothing (sender : Nat) (alive : Bool) :
    OwnCallback ⟨sender, alive, none, none, none⟩ :=
  ⟨(fun _ absent => nomatch absent), (fun _ absent => nomatch absent), fun _ absent => nomatch absent⟩

section reaction

variable (reaction : ∀ node, Keeps waiting node (react node))
  (quiet : ∀ node, TableInv waiting node → CallbacksOwned node → CallbacksOwned (react node))

include reaction in
theorem Extends.reacted (callback : Option Nat) (inv : TableInv waiting node) :
    Extends node (if callback.isSome then react node else node) := by
  split
  · exact (reaction node inv).2
  · exact Extends.refl node

include quiet in
theorem CallbacksOwned.reacted (callback : Option Nat) (inv : TableInv waiting node)
    (owned : CallbacksOwned node) :
    CallbacksOwned (if callback.isSome then react node else node) := by
  split
  · exact quiet node inv owned
  · exact owned

include reaction quiet in
theorem macCallback_changing {newState : SixpTransState} (inv : TableInv waiting node)
    (owned : CallbacksOwned node)
    (next : callbackState status (node.trans packet.block).state = some newState)
    (changes : newState ≠ (node.trans packet.block).state) :
    CallbacksOwned (macCallback react packet status node) ↔
      (node.trans packet.block).uid = packet.uid := by
  have member := listed_of_change inv next changes
  unfold macCallback
  simp only [next]
  split
  next failed =>
    have before : CallbacksOwned (sixpTransTransitState packet.block .terminating node).2 :=
      owned.of_same (transitState_callbacks ..)
    refine (before.append rfl).trans ⟨fun own => (own.changed _ rfl).1, fun same => ?_⟩
    refine ⟨?_, (fun _ absent => nomatch absent), fun _ absent => nomatch absent⟩
    intro uid found
    obtain rfl := Option.some.inj found
    exact ⟨same, decide_eq_true ⟨member, same⟩⟩
  next passed =>
    obtain ⟨movedInv, moved⟩ := Keeps.transit newState member (callbackState_sending next changes) inv
    have movedOwned : CallbacksOwned (sixpTransTransitState packet.block newState node).2 :=
      owned.of_same (transitState_callbacks ..)
    have after := CallbacksOwned.reacted quiet (node.trans packet.block).callback movedInv movedOwned
    refine (CallbacksOwned.append (after.of_same rfl) rfl).trans ?_
    constructor
    · intro own
      exact (own.changed _ rfl).1
    · intro same
      refine ownCallback_of_kept member same (moved.trans (Extends.reacted reaction _ movedInv)) ?_ ?_
      · intro uid found
        exact (Option.some.inj found).symm
      · intro uid found
        split at found
        · exact (Option.some.inj found).symm
        · cases found

include reaction quiet in
theorem macCallback_staying (inv : TableInv waiting node) (owned : CallbacksOwned node)
    (next : callbackState status (node.trans packet.block).state =
      some (node.trans packet.block).state) :
    CallbacksOwned (macCallback react packet status node) ↔
      (node.trans packet.block).callback = none ∨ BlockKept react packet node := by
  unfold macCallback
  simp only [next, ne_eq, not_true_eq_false, false_and, if_false]
  cases callback : (node.trans packet.block).callback with
  | none =>
    have silent : node.liveUid packet.block (·.callback.isSome) = none := by
      rw [SixpNode.liveUid, if_neg]
      simp [callback]
    refine (CallbacksOwned.append (owned.of_same rfl) rfl).trans ⟨fun _ => Or.inl rfl, fun _ => ?_⟩
    simp only [Option.isSome_none, Bool.false_eq_true, if_false, silent]
    exact ownCallback_nothing _ _
  | some func =>
    have after : CallbacksOwned (react node) := quiet node inv owned
    have growth := (reaction node inv).2
    refine (CallbacksOwned.append (after.of_same rfl) rfl).trans ?_
    simp only [Option.isSome_some, if_true, reduceCtorEq, false_or]
    constructor
    · intro own
      have same : (node.trans packet.block).uid = packet.uid := own.called _ rfl
      refine ⟨same, ?_⟩
      by_cases member : packet.block ∈ node.transList
      · exact Or.inl member
      · right
        cases cleared : (react node).liveUid packet.block (·.callback.isSome) with
        | none => rfl
        | some uid =>
          have alive := (own.cleared uid cleared).2
          exact absurd (of_decide_eq_true alive).1 member
    · rintro ⟨same, member | reused⟩
      · refine ownCallback_of_kept member same growth (fun _ absent => nomatch absent) ?_
        intro uid found
        exact (Option.some.inj found).symm
      · rw [reused]
        refine ⟨(fun _ absent => nomatch absent), ?_, fun _ absent => nomatch absent⟩
        intro uid found
        obtain rfl := Option.some.inj found
        exact same

include reaction quiet in
theorem macCallback_owned (inv : TableInv waiting node) (owned : CallbacksOwned node) :
    CallbacksOwned (macCallback react packet status node) ↔
      CallbackIgnored status (node.trans packet.block) ∨ BlockKept react packet node := by
  cases next : callbackState status (node.trans packet.block).state with
  | none =>
    have ignored := ignored_of_unexpected next
    unfold macCallback
    simp only [next]
    exact (owned.append rfl).trans ⟨fun _ => Or.inl ignored, fun _ => ownCallback_nothing _ _⟩
  | some newState =>
    by_cases changes : newState = (node.trans packet.block).state
    · subst changes
      rw [macCallback_staying reaction quiet inv owned next, ignored_iff_of_same next]
    · have member := listed_of_change inv next changes
      have kept : BlockKept react packet node ↔ (node.trans packet.block).uid = packet.uid :=
        ⟨fun both => both.1, fun same => ⟨same, Or.inl member⟩⟩
      rw [macCallback_changing reaction quiet inv owned next changes, kept,
        or_iff_right (not_ignored_of_change next changes)]

end reaction

end callback

/-! No other function calls `mac_callback`, but for a packet that the MAC reports at once. -/

section silent

variable (conf : SixpConf) {node : SixpNode}

variable (pkt : SixpPkt)

theorem transAlloc_callbacks (peerAddr : LinkAddr) (role : TransRole) (node : SixpNode) :
    (sixpTransAlloc conf pkt peerAddr role node).2.callbacks = node.callbacks := by
  unfold sixpTransAlloc
  split <;> rfl

theorem sendBackError_callbacks (type : SixpPktType) (code sfid seqno : UInt8) (destAddr : LinkAddr)
    (node : SixpNode) :
    (sendBackError conf type code sfid seqno destAddr node).callbacks = node.callbacks := by
  unfold sendBackError
  split <;> rfl

theorem OnlyNbrs.callbacks {before after : SixpNode} (only : OnlyNbrs before after) :
    after.callbacks = before.callbacks := by
  obtain ⟨nbrs, rfl⟩ := only
  rfl

theorem prepareOutput_callbacks (args : SixpOutputArgs) (room : NbrRoom) (node : SixpNode) :
    (prepareOutput conf args room node).2.callbacks = node.callbacks := by
  rcases prepareOutput_cases conf args room node with ⟨-, only⟩ |
    ⟨before, sf, pkt, block, message, only, -, -, started⟩ | ⟨-, -, -, only, -⟩
  · exact only.callbacks
  · rw [started]
    exact only.callbacks
  · exact only.callbacks

variable (srcAddr : LinkAddr)

theorem inputRequest_callbacks (node : SixpNode) :
    (inputRequest conf pkt srcAddr node).2.callbacks = node.callbacks := by
  unfold inputRequest
  split
  · exact sendBackError_callbacks ..
  · have reset : (if pkt.code = sixpPktCmdClear ∧ (node.nbrs srcAddr).isSome then
        node.setNextSeqno srcAddr 0 else node).callbacks = node.callbacks := by
      split <;> rfl
    dsimp only
    generalize (if pkt.code = sixpPktCmdClear ∧ (node.nbrs srcAddr).isSome then
      node.setNextSeqno srcAddr 0 else node) = cleared at reset
    have alloc := transAlloc_callbacks conf pkt srcAddr .responder cleared
    split
    next after result =>
      rw [result] at alloc
      exact (sendBackError_callbacks ..).trans (alloc.trans reset)
    next block after result =>
      rw [result] at alloc
      have received := (transitState_callbacks block .requestReceived after).trans (alloc.trans reset)
      split
      · exact (sendBackError_callbacks ..).trans received
      · exact received

theorem inputReply_callbacks (newState : SixpTransState)
    (node : SixpNode) : (inputReply pkt srcAddr newState node).2.callbacks = node.callbacks := by
  unfold inputReply
  split
  · rfl
  next block found =>
    have moved := transitState_callbacks block newState node
    split
    · rfl
    · split
      next result =>
        rw [result] at moved
        exact moved
      next result =>
        rw [result] at moved
        exact (transitState_callbacks ..).trans moved

theorem acceptInput_callbacks (node : SixpNode) :
    (acceptInput conf pkt srcAddr node).2.callbacks = node.callbacks := by
  unfold acceptInput
  split
  · exact inputRequest_callbacks conf pkt srcAddr node
  · exact inputReply_callbacks pkt srcAddr _ node
  · exact inputReply_callbacks pkt srcAddr _ node
  · rfl

theorem processTrans_callbacks (block : Nat) (node : SixpNode) :
    (processTrans block node).callbacks = node.callbacks := by
  unfold processTrans
  dsimp only
  split
  · rfl
  · have state : (processState block (node.setTimer block none)).callbacks = node.callbacks := by
      rcases processState_cases block (node.setTimer block none) with same | ended
      · rw [same]
        rfl
      · rw [ended]
        exact transitState_callbacks ..
    split <;> exact state

section calls

variable {waiting : Option Nat} {react : SixpNode → SixpNode}
  (reaction : ∀ node, Keeps waiting node (react node))
  (quiet : ∀ node, TableInv waiting node → CallbacksOwned node → CallbacksOwned (react node))

include reaction quiet in
theorem sixtopOutput_owned {destAddr : LinkAddr} {message : List UInt8} {block : Nat}
    {immediate : Option MacTxStatus} (member : block ∈ node.transList) (inv : TableInv waiting node)
    (owned : CallbacksOwned node) :
    CallbacksOwned (sixtopOutput destAddr message block immediate react node) := by
  unfold sixtopOutput
  cases immediate with
  | none => exact owned.of_same rfl
  | some status =>
    let sending := { node with outbox := node.outbox ++ [(destAddr, message)] }
    have sendingInv : TableInv waiting sending := inv.of_same rfl rfl
    have sendingOwned : CallbacksOwned sending := owned.of_same rfl
    exact (macCallback_owned reaction quiet sendingInv sendingOwned).mpr (Or.inr ⟨rfl, Or.inl member⟩)

include reaction quiet in
theorem sixpOutput_owned (args : SixpOutputArgs) (room : NbrRoom) (immediate : Option MacTxStatus)
    (inv : TableInv waiting node) (owned : CallbacksOwned node) :
    CallbacksOwned (sixpOutput conf args room immediate react node).2 := by
  have prepared : Keeps waiting node (prepareOutput conf args room node).2 :=
    Keeps.prepareOutput conf args room node
  have log := prepareOutput_callbacks conf args room node
  unfold sixpOutput
  split
  next result =>
    rw [result] at log
    exact owned.of_same log
  next block message after result =>
    have member := prepareOutput_block conf result
    rw [result] at prepared log
    have armed := (prepared.trans (Keeps.setCallback waiting after block args.func)) inv
    exact sixtopOutput_owned reaction quiet member armed.1 (owned.of_same log)

theorem sfCalls_owned (calls : SfCalls) : ∀ node, TableInv waiting node → CallbacksOwned node →
    CallbacksOwned (calls.run conf node) := by
  induction calls with
  | done => exact fun _ _ owned => owned
  | output args room immediate reaction next reactionIh nextIh =>
    intro node inv owned
    have kept : ∀ node, Keeps waiting node (reaction.run conf node) := Keeps.sfCalls conf reaction
    have after := (Keeps.sixpOutput conf kept args room immediate node) inv
    exact nextIh _ after.1 (sixpOutput_owned conf kept reactionIh args room immediate inv owned)

include quiet in
theorem sixpInput_owned (buf : List UInt8) (srcAddr : LinkAddr) (inv : TableInv waiting node)
    (owned : CallbacksOwned node) : CallbacksOwned (sixpInput conf buf srcAddr react node) := by
  unfold sixpInput
  split
  · split
    · exact owned.of_same (sendBackError_callbacks ..)
    · exact owned
  next pkt _ =>
    split
    · exact owned.of_same (sendBackError_callbacks ..)
    · have accepted : Keeps waiting node (acceptInput conf pkt srcAddr node).2 :=
        Keeps.acceptInput conf pkt srcAddr node
      have log := acceptInput_callbacks conf pkt srcAddr node
      split
      next result =>
        rw [result] at log
        exact owned.of_same log
      next result =>
        rw [result] at log accepted
        split
        · exact quiet _ ((accepted inv).1.of_same rfl rfl) (owned.of_same log)
        · exact owned.of_same log

end calls

end silent

def SentToOwner (conf : SixpConf) (node : SixpNode) : SixpEvent → Prop
  | .sent index status calls => ∀ packet, node.inFlight[index]? = some packet →
      CallbackIgnored status (node.trans packet.block) ∨
        BlockKept (calls.run conf) packet { node with inFlight := node.inFlight.eraseIdx index }
  | _ => True

theorem sixpStep_owned (conf : SixpConf) {node : SixpNode} (event : SixpEvent)
    (inv : TableInv none node) (owned : CallbacksOwned node) :
    CallbacksOwned (sixpStep conf node event) ↔ SentToOwner conf node event := by
  have kept : ∀ (waiting : Option Nat) (calls : SfCalls) node,
      Keeps waiting node (calls.run conf node) :=
    fun _ calls => Keeps.sfCalls conf calls
  have quiet : ∀ (waiting : Option Nat) (calls : SfCalls) node, TableInv waiting node →
      CallbacksOwned node → CallbacksOwned (calls.run conf node) :=
    fun _ calls => sfCalls_owned conf calls
  cases event with
  | input buf srcAddr calls =>
    exact iff_of_true (sixpInput_owned conf (quiet none calls) buf srcAddr inv owned) trivial
  | sfCalls calls => exact iff_of_true (quiet none calls node inv owned) trivial
  | sent index status calls =>
    simp only [sixpStep, SentToOwner]
    cases found : node.inFlight[index]? with
    | none =>
      refine iff_of_true owned ?_
      intro packet absent
      cases absent
    | some packet =>
      let reported := { node with inFlight := node.inFlight.eraseIdx index }
      have reportedInv : TableInv none reported := inv.of_same rfl rfl
      have reportedOwned : CallbacksOwned reported := owned.of_same rfl
      refine (macCallback_owned (kept none calls) (quiet none calls) reportedInv
        reportedOwned).trans ?_
      simp only [Option.some.injEq, forall_eq']
      rfl
  | timer block calls =>
    refine iff_of_true ?_ trivial
    simp only [sixpStep]
    split
    · exact owned
    · have stopped : TableInv (some block) (node.setTimer block none) := inv.stopTimer
      unfold handleTransTimeout
      dsimp only
      refine CallbacksOwned.of_same ?_ (transitState_callbacks ..)
      split
      · exact quiet (some block) calls _ stopped (owned.of_same rfl)
      · exact owned.of_same rfl
    · exact owned.of_same (processTrans_callbacks block node)
  | nbrRemoved addr => exact iff_of_true (owned.of_same rfl) trivial

/-- Along any run every callback of the MAC changes and calls only the transaction that sent the
packet, exactly if each finds nothing to do or that transaction. -/
theorem sent_callbacks_owned_iff (conf : SixpConf) (events : List SixpEvent) :
    Run.Always (sixpStep conf) CallbacksOwned (sixpInit conf) events ↔
      Run.Meets (sixpStep conf) (SentToOwner conf) (sixpInit conf) events := by
  have valid : Run.Meets (sixpStep conf) (fun _ _ => True) (sixpInit conf) events :=
    Run.meets_of_forall (fun _ _ => trivial) events _
  refine Run.always_iff_meets (fun node => TableInv none node ∧ CallbacksOwned node) ?_ ?_ ?_ events
    _ ?_ valid
  · exact fun _ holds => holds.2
  · intro node event holds _ met
    exact ⟨holds.1.step conf event, (sixpStep_owned conf event holds.1 holds.2).mpr met⟩
  · intro node event holds _ unmet safe
    exact unmet ((sixpStep_owned conf event holds.1 holds.2).mp safe)
  · exact ⟨sixpInit_table conf, fun _ member => nomatch member⟩

def oneTransConf : SixpConf := ⟨1, 128, [⟨0, true, true⟩]⟩

def addRequest (destAddr : LinkAddr) : SfCalls :=
  .output ⟨.request, sixpPktCmdAdd, 0, some [0, 0, 0, 1], destAddr, none⟩ (.added []) none .done .done

/-- A request times out while the MAC has it. Its block goes to a request to another neighbor before
the MAC reports the first. -/
def lateCallbackRun : List SixpEvent :=
  [.sfCalls (addRequest (Vector.replicate 8 1)), .timer 0 .done, .timer 0 .done,
    .sfCalls (addRequest (Vector.replicate 8 2)), .sent 0 .ok .done]

theorem lateCallback_changes_other :
    ¬ Run.Always (sixpStep oneTransConf) CallbacksOwned (sixpInit oneTransConf) lateCallbackRun := by
  rintro ⟨-, -, -, -, -, owned⟩
  have logged : (⟨0, false, some 1, none, none⟩ : CallbackRecord) ∈
      (Run.final (sixpStep oneTransConf) (sixpInit oneTransConf) lateCallbackRun).callbacks := by
    decide
  have wrong := (owned _ logged).changed 1 rfl
  exact absurd wrong.1 (by decide)

end MultiPhyTsch.Sixp
