import MultiPhyTsch.Sixtop.TransTable

/-! A response and the report that its request was sent, in either order. The MAC hands received
packets over before it reports sent ones, so the response can come first. -/

namespace MultiPhyTsch.Sixp

theorem sixpTransFind_listed {waiting : Option Nat} {node : SixpNode} {block : Nat}
    {peerAddr : LinkAddr} (inv : TableInv waiting node) (member : block ∈ node.transList)
    (peer : (node.trans block).peerAddr = peerAddr) : sixpTransFind peerAddr node = some block := by
  cases found : sixpTransFind peerAddr node with
  | none => exact absurd peer (sixpTransFind_none found block member)
  | some other =>
    obtain ⟨otherMember, otherPeer⟩ := sixpTransFind_some found
    rw [inv.peers other otherMember block member (otherPeer.trans peer.symm)]

theorem OnlyNbrs.trans_eq {before after : SixpNode} (only : OnlyNbrs before after) (block : Nat) :
    after.trans block = before.trans block := by
  obtain ⟨nbrs, rfl⟩ := only
  rfl

theorem transit_other {block other : Nat} (newState : SixpTransState) (node : SixpNode)
    (different : block ≠ other) :
    (sixpTransTransitState other newState node).2.trans block = node.trans block := by
  by_cases allowed : transitionAllowed (node.trans other) newState
  · rw [transitState_allowed allowed, writeTrans_other _ _ different]
    exact trans_of_same (updateNextSeqno_table ..).1 block
  · rw [transitState_refused allowed]

section reactions

variable (conf : SixpConf) {waiting : Option Nat} {node : SixpNode} {block : Nat}

theorem prepareOutput_other (args : SixpOutputArgs) (room : NbrRoom) (inv : TableInv waiting node)
    (member : block ∈ node.transList) :
    (prepareOutput conf args room node).2.trans block = node.trans block ∧
      ∀ message, (prepareOutput conf args room node).1 = some (block, message) →
        (node.trans block).state = .requestReceived ∨
          (node.trans block).state = .responseReceived := by
  rcases prepareOutput_cases conf args room node with ⟨failed, only⟩ |
    ⟨before, sf, pkt, started, text, only, alone, fresh, prepared⟩ |
    ⟨chosen, text, reply, only, -, state⟩
  · refine ⟨only.trans_eq block, fun message ready => ?_⟩
    rw [failed] at ready
    cases ready
  · have absent : block ≠ started := by
      obtain ⟨beforeInv, growth⟩ := only.keeps inv
      rintro rfl
      exact (Memb.membAlloc_some beforeInv.used fresh).1 (growth block member).1
    rw [prepared]
    refine ⟨(addTrans_other before _ absent).trans (only.trans_eq block), fun message ready => ?_⟩
    simp only [Option.some.injEq, Prod.mk.injEq] at ready
    exact absurd ready.1.symm absent
  · refine ⟨only.trans_eq block, fun message ready => ?_⟩
    rw [reply, Option.some.injEq, Prod.mk.injEq] at ready
    rwa [← ready.1]

def Idle (trans : SixpTrans) : Prop := trans.state ≠ .requestReceived ∧ trans.state ≠ .responseReceived

structure Grows (block : Nat) (before after : SixpNode) : Prop where
  visited : (before.trans block).visited <:+ (after.trans block).visited
  idle : Idle (before.trans block) → after.trans block = before.trans block

theorem suffix_of_eq {first second : List SixpTransState} (same : second = first) :
    first <:+ second := same ▸ List.suffix_refl first

variable {before after : SixpNode}

theorem Grows.of_eq (same : after.trans block = before.trans block) : Grows block before after :=
  ⟨suffix_of_eq (congrArg SixpTrans.visited same), fun _ => same⟩

theorem Grows.trans {first second third : SixpNode} (left : Grows block first second)
    (right : Grows block second third) : Grows block first third := by
  refine ⟨left.visited.trans right.visited, fun idle => ?_⟩
  have same := left.idle idle
  rw [← same] at idle
  exact (right.idle idle).trans same

theorem transit_visited (block other : Nat) (newState : SixpTransState) (node : SixpNode) :
    (node.trans block).visited <:+ ((sixpTransTransitState other newState node).2.trans block).visited := by
  by_cases different : block = other
  · subst different
    by_cases allowed : transitionAllowed (node.trans block) newState
    · rw [transitState_allowed allowed, writeTrans_same,
        trans_of_same (updateNextSeqno_table ..).1 block]
      exact List.suffix_cons newState _
    · exact suffix_of_eq (by rw [transitState_refused allowed])
  · exact suffix_of_eq (by rw [transit_other newState node different])

theorem Moves.visited {other : Nat} (moves : Moves other before after)
    (block : Nat) : (before.trans block).visited <:+ (after.trans block).visited := by
  rcases moves with rfl | ⟨-, newState, -, rfl⟩
  · exact List.suffix_refl _
  · exact transit_visited block other newState before

theorem Moves.other {other : Nat} (moves : Moves other before after)
    (different : block ≠ other) : after.trans block = before.trans block := by
  rcases moves with rfl | ⟨-, newState, -, rfl⟩
  · rfl
  · exact transit_other newState before different

theorem setCallback_visited (block other : Nat) (callback : Option Nat) (node : SixpNode) :
    ((setCallback other callback node).trans block).visited = (node.trans block).visited := by
  by_cases different : block = other
  · subst different
    rw [setCallback, writeTrans_same]
  · rw [setCallback, writeTrans_other _ _ different]

section callback

variable {react : SixpNode → SixpNode}
  (grows : ∀ node, TableInv waiting node → block ∈ node.transList → Grows block node (react node))

include grows in
theorem macCallback_grows {packet : SentPacket} {status : MacTxStatus} (inv : TableInv waiting node)
    (member : block ∈ node.transList) (due : packet.block = block → ¬ Idle (node.trans block)) :
    Grows block node (macCallback react packet status node) := by
  obtain ⟨moved, record, moves, ended | ended⟩ := macCallback_cases react packet status inv
  · rw [ended]
    refine ⟨moves.visited block, fun idle => moves.other fun same => due same.symm idle⟩
  · rw [ended]
    obtain ⟨movedInv, growth⟩ := moves.keeps inv
    have called : Grows block moved
        (if (node.trans packet.block).callback.isSome then react moved else moved) := by
      split
      · exact grows moved movedInv (growth block member).1
      · exact Grows.of_eq rfl
    generalize (if (node.trans packet.block).callback.isSome then react moved else moved) = final
      at called
    constructor
    · change _ <:+ ((setCallback packet.block none final).trans block).visited
      rw [setCallback_visited]
      exact (moves.visited block).trans called.visited
    · intro idle
      have different : block ≠ packet.block := fun same => due same.symm idle
      have same := moves.other different
      change (setCallback packet.block none final).trans block = _
      rw [setCallback, writeTrans_other _ _ different, called.idle (by rwa [same]), same]

include grows in
theorem sixtopOutput_grows {destAddr : LinkAddr} {message : List UInt8} {target : Nat}
    {immediate : Option MacTxStatus} (inv : TableInv waiting node) (member : block ∈ node.transList)
    (due : target = block → ¬ Idle (node.trans block)) :
    Grows block node (sixtopOutput destAddr message target immediate react node) := by
  unfold sixtopOutput
  cases immediate with
  | none => exact Grows.of_eq rfl
  | some status =>
    let sending := { node with outbox := node.outbox ++ [(destAddr, message)] }
    have sendingInv : TableInv waiting sending := inv.of_same rfl rfl
    have sent : Grows block node sending := Grows.of_eq rfl
    exact sent.trans (macCallback_grows grows sendingInv member due)

end callback

theorem sfCalls_grows (calls : SfCalls) : ∀ node, TableInv waiting node → block ∈ node.transList →
    Grows block node (calls.run conf node) := by
  induction calls with
  | done => exact fun node _ _ => Grows.of_eq rfl
  | output args room immediate reaction next reactionIh nextIh =>
    intro node inv member
    have kept : ∀ node, Keeps waiting node (reaction.run conf node) := Keeps.sfCalls conf reaction
    obtain ⟨outputInv, growth⟩ := Keeps.sixpOutput conf kept args room immediate node inv
    refine Grows.trans ?_ (nextIh _ outputInv (growth block member).1)
    obtain ⟨preparedInv, prepared⟩ := Keeps.prepareOutput conf args room node inv
    obtain ⟨same, due⟩ := prepareOutput_other conf args room inv member
    unfold sixpOutput
    split
    next result =>
      rw [result] at same
      exact Grows.of_eq same
    next target message after result =>
      rw [result] at same due preparedInv prepared
      have replied : target = block → ¬ Idle (node.trans block) := by
        rintro rfl idle
        exact (due message rfl).elim idle.1 idle.2
      let ready := setCallback target args.func after
      obtain ⟨readyInv, settled⟩ := Keeps.setCallback waiting after target args.func preparedInv
      have waits : Grows block node ready := by
        refine ⟨?_, fun idle => ?_⟩
        · exact suffix_of_eq (by rw [setCallback_visited, same])
        · have different : block ≠ target := fun equal => replied equal.symm idle
          exact (writeTrans_other after _ different).trans same
      refine waits.trans (sixtopOutput_grows (fun _ => reactionIh _) readyInv
        (settled block (prepared block member).1).1 fun equal idle => replied equal ?_)
      subst equal
      have idle : Idle ((setCallback target args.func after).trans target) := idle
      rw [setCallback, writeTrans_same] at idle
      rwa [← same]

end reactions

def SixpNode.withOutbox (node : SixpNode) (outbox : List (LinkAddr × List UInt8)) : SixpNode :=
  { node with outbox := outbox }

def IgnoresOutbox (change : SixpNode → SixpNode) : Prop :=
  ∀ node outbox, ∃ later, change (node.withOutbox outbox) = (change node).withOutbox later

def KeepsOutbox {α : Type} (change : SixpNode → α × SixpNode) : Prop :=
  ∀ node outbox, change (node.withOutbox outbox) =
    ((change node).1, (change node).2.withOutbox outbox)

section outbox

variable (conf : SixpConf) {react : SixpNode → SixpNode}

section fields

variable (node : SixpNode) (outbox : List (LinkAddr × List UInt8))

@[simp] theorem withOutbox_nbrs : (node.withOutbox outbox).nbrs = node.nbrs := rfl

@[simp] theorem withOutbox_trans (block : Nat) :
    (node.withOutbox outbox).trans block = node.trans block := rfl

@[simp] theorem withOutbox_find (peerAddr : LinkAddr) :
    sixpTransFind peerAddr (node.withOutbox outbox) = sixpTransFind peerAddr node := rfl

theorem updateNextSeqno_withOutbox (trans : SixpTrans) (newState : SixpTransState) :
    updateNextSeqno trans newState (node.withOutbox outbox) =
      (updateNextSeqno trans newState node).withOutbox outbox := by
  cases entry : node.nbrs trans.peerAddr with
  | none => cases newState <;> simp only [updateNextSeqno, withOutbox_nbrs, entry]
  | some seqno =>
    cases newState with
    | requestSent =>
      simp only [updateNextSeqno, withOutbox_nbrs, entry]
      split <;> rfl
    | responseSent =>
      simp only [updateNextSeqno, withOutbox_nbrs, entry]
      rfl
    | _ => rfl

theorem transit_withOutbox (block : Nat) (newState : SixpTransState) :
    (sixpTransTransitState block newState (node.withOutbox outbox)).2 =
      (sixpTransTransitState block newState node).2.withOutbox outbox := by
  by_cases allowed : transitionAllowed (node.trans block) newState
  · rw [transitState_allowed allowed, transitState_allowed (by simpa), withOutbox_trans,
      updateNextSeqno_withOutbox]
    rfl
  · rw [transitState_refused allowed, transitState_refused (by simpa using allowed)]

theorem nbrAlloc_withOutbox (addr : LinkAddr) (room : NbrRoom) :
    sixpNbrAlloc addr room (node.withOutbox outbox) =
      (sixpNbrAlloc addr room node).map (·.withOutbox outbox) := by
  simp only [sixpNbrAlloc, withOutbox_nbrs]
  split <;> rfl

end fields

theorem macCallback_ignoresOutbox (reaction : IgnoresOutbox react) (packet : SentPacket)
    (status : MacTxStatus) : IgnoresOutbox (macCallback react packet status) := by
  intro node outbox
  have same := withOutbox_trans node outbox packet.block
  have list : (node.withOutbox outbox).transList = node.transList := rfl
  unfold macCallback
  simp only [same, list]
  split
  · exact ⟨outbox, rfl⟩
  next newState next =>
    split
    · rw [transit_withOutbox]
      exact ⟨outbox, rfl⟩
    next passed =>
      have moved : (if newState ≠ (node.trans packet.block).state then
          (sixpTransTransitState packet.block newState (node.withOutbox outbox)).2
          else node.withOutbox outbox) = (if newState ≠ (node.trans packet.block).state then
          (sixpTransTransitState packet.block newState node).2 else node).withOutbox outbox := by
        split
        · exact transit_withOutbox ..
        · rfl
      rw [moved]
      generalize (if newState ≠ (node.trans packet.block).state then
        (sixpTransTransitState packet.block newState node).2 else node) = after
      obtain ⟨later, called⟩ := reaction after outbox
      refine ⟨if (node.trans packet.block).callback.isSome then later else outbox, ?_⟩
      split
      · rw [called]
        rfl
      · rfl

theorem transAlloc_withOutbox (pkt : SixpPkt) (peerAddr : LinkAddr) (role : TransRole) :
    KeepsOutbox (sixpTransAlloc conf pkt peerAddr role) := by
  intro node outbox
  have memb : (node.withOutbox outbox).transMemb = node.transMemb := rfl
  simp only [sixpTransAlloc, withOutbox_find, memb]
  split <;> rfl

variable (args : SixpOutputArgs) (room : NbrRoom)

theorem outputRequest_withOutbox : KeepsOutbox (outputRequest conf args room) := by
  intro node outbox
  have entry : (node.nbrs args.destAddr).elim
      (sixpNbrAlloc args.destAddr room (node.withOutbox outbox)) (fun _ => some (node.withOutbox outbox)) =
      ((node.nbrs args.destAddr).elim (sixpNbrAlloc args.destAddr room node)
        (fun _ => some node)).map (·.withOutbox outbox) := by
    cases node.nbrs args.destAddr with
    | none => exact nbrAlloc_withOutbox ..
    | some seqno => rfl
  simp only [outputRequest, withOutbox_find, withOutbox_nbrs, entry]
  split
  · rfl
  · cases (node.nbrs args.destAddr).elim (sixpNbrAlloc args.destAddr room node)
      (fun _ => some node) with
    | none => rfl
    | some entered =>
      have reset : (if args.code = sixpPktCmdClear then
          (entered.withOutbox outbox).setNextSeqno args.destAddr 0 else entered.withOutbox outbox) =
          (if args.code = sixpPktCmdClear then entered.setNextSeqno args.destAddr 0
            else entered).withOutbox outbox := by
        split <;> rfl
      simp only [Option.map_some, reset, withOutbox_nbrs, transAlloc_withOutbox conf _ _ _ _ outbox]
      split
      · rfl
      · generalize sixpTransAlloc conf _ _ _ _ = result
        obtain ⟨_ | block, after⟩ := result <;> rfl

theorem outputReply_withOutbox (expected : SixpTransState) :
    KeepsOutbox (outputReply conf args expected room) := by
  intro node outbox
  have same := withOutbox_trans node outbox
  simp only [outputReply, withOutbox_find, withOutbox_nbrs, same]
  split
  · rfl
  next block _ =>
    split
    · rfl
    · have entry : ∀ needsNbr : Prop, [Decidable needsNbr] →
          (if needsNbr then sixpNbrAlloc args.destAddr room (node.withOutbox outbox)
            else some (node.withOutbox outbox)) =
          (if needsNbr then sixpNbrAlloc args.destAddr room node else some node).map
            (·.withOutbox outbox) := by
        intro needsNbr _
        split
        · exact nbrAlloc_withOutbox ..
        · rfl
      rw [entry]
      generalize (if node.nbrs args.destAddr = none ∧ args.type = .response ∧
        args.code = sixpPktRcSuccess ∧ ((node.trans block).cmd = sixpPktCmdAdd ∨
          (node.trans block).cmd = sixpPktCmdDelete)
        then sixpNbrAlloc args.destAddr room node else some node) = result
      cases result with
      | none => rfl
      | some after =>
        simp only [Option.map_some]
        split <;> rfl

theorem prepareOutput_withOutbox : KeepsOutbox (prepareOutput conf args room) := by
  intro node outbox
  unfold prepareOutput
  split
  · exact outputRequest_withOutbox conf args room node outbox
  · exact outputReply_withOutbox conf args room _ node outbox
  · exact outputReply_withOutbox conf args room _ node outbox
  · rfl

theorem sfCalls_ignoresOutbox (calls : SfCalls) : IgnoresOutbox (calls.run conf) := by
  induction calls with
  | done => exact fun node outbox => ⟨outbox, rfl⟩
  | output args room immediate reaction next reactionIh nextIh =>
    intro node outbox
    have sent : ∃ later, (sixpOutput conf args room immediate (reaction.run conf)
        (node.withOutbox outbox)).2 =
        (sixpOutput conf args room immediate (reaction.run conf) node).2.withOutbox later := by
      unfold sixpOutput
      rw [prepareOutput_withOutbox conf args room node outbox]
      generalize prepareOutput conf args room node = result
      obtain ⟨_ | ⟨block, message⟩, after⟩ := result
      · exact ⟨outbox, rfl⟩
      · cases immediate with
        | none => exact ⟨outbox ++ [(args.destAddr, message)], rfl⟩
        | some status =>
          exact macCallback_ignoresOutbox reactionIh
            ⟨block, ((setCallback block args.func after).trans block).uid⟩ status
            ((setCallback block args.func after).withOutbox
              (after.outbox ++ [(args.destAddr, message)])) (outbox ++ [(args.destAddr, message)])
    obtain ⟨later, sent⟩ := sent
    change ∃ final, next.run conf _ = (next.run conf _).withOutbox final
    rw [sent]
    exact nextIh _ later

end outbox

/-- What a transaction came to: whether it was in the state for a received response, how often the
scheduling function got a message of it, and the next sequence number for the neighbor. -/
structure Outcome where
  reached : Bool
  delivered : Nat
  nextSeqno : Option UInt8
deriving DecidableEq, Repr

def outcome (block uid : Nat) (peerAddr : LinkAddr) (node : SixpNode) : Outcome :=
  ⟨decide (.responseReceived ∈ (node.trans block).visited), node.inputs.countP (·.uid = uid),
    node.nbrs peerAddr⟩

structure RequestPending (block index : Nat) (peerAddr : LinkAddr) (node : SixpNode) : Prop where
  found : sixpTransFind peerAddr node = some block
  init : (node.trans block).state = .init
  inFlight : node.inFlight[index]? = some ⟨block, (node.trans block).uid⟩

section orders

variable (conf : SixpConf) {node : SixpNode} {block index : Nat} {peerAddr : LinkAddr}
  {buf : List UInt8} {pkt : SixpPkt}

def Matches (pkt : SixpPkt) (trans : SixpTrans) : Prop :=
  (sixtopFindSf conf pkt.sfid).isSome ∧ trans.seqno = pkt.seqno

theorem init_visited {trans : SixpTrans} (legal : LegalTrans trans) (init : trans.state = .init) :
    trans.visited = [.init] := by
  obtain ⟨path, current, -, -⟩ := legal
  rw [init] at current
  cases visited : trans.visited with
  | nil => simp [visited] at current
  | cons last before =>
    rw [visited] at path current
    obtain rfl : last = .init := by simpa using current
    cases before with
    | nil => rfl
    | cons previous earlier => exact absurd path.1 (init_not_legal _ _ _)

theorem unmatched_dropped (react : SixpNode → SixpNode) (found : sixpTransFind peerAddr node = some block)
    (parsed : sixpPktParse buf = (true, pkt)) (response : pkt.type = .response)
    (unmatched : ¬ Matches conf pkt (node.trans block)) :
    ∃ outbox, sixpInput conf buf peerAddr react node = { node with outbox := outbox } := by
  unfold sixpInput
  rw [parsed]
  dsimp only
  cases known : sixtopFindSf conf pkt.sfid with
  | none =>
    dsimp only
    unfold sendBackError
    split
    · exact ⟨node.outbox, rfl⟩
    · exact ⟨_, rfl⟩
  | some sf =>
    have differs : (node.trans block).seqno ≠ pkt.seqno := by
      intro equal
      exact unmatched ⟨by rw [known]; rfl, equal⟩
    simp only [acceptInput, response, inputReply, found, if_pos differs]
    exact ⟨node.outbox, rfl⟩

theorem responseFirst_terminates (react : SixpNode → SixpNode)
    (pending : RequestPending block index peerAddr node)
    (parsed : sixpPktParse buf = (true, pkt)) (response : pkt.type = .response)
    (matched : Matches conf pkt (node.trans block)) :
    sixpInput conf buf peerAddr react node = (sixpTransTransitState block .terminating node).2 := by
  obtain ⟨known, seqno⟩ := matched
  obtain ⟨sf, known⟩ := Option.isSome_iff_exists.mp known
  have refused : ¬ transitionAllowed (node.trans block) .responseReceived := by
    simp [transitionAllowed, pending.init]
  unfold sixpInput
  rw [parsed]
  simp only [known, acceptInput, response, inputReply, pending.found, seqno, ne_eq,
    not_true_eq_false, if_false, transitState_refused refused]

theorem macCallback_requestSent (react : SixpNode → SixpNode) (packet : SentPacket)
    (init : (node.trans packet.block).state = .init) :
    ∃ record, macCallback react packet .ok node = (setCallback packet.block none
      (if (node.trans packet.block).callback.isSome then
        react (sixpTransTransitState packet.block .requestSent node).2
      else (sixpTransTransitState packet.block .requestSent node).2)).recordCallback record := by
  have next : callbackState .ok (node.trans packet.block).state = some .requestSent := by
    rw [init]
    rfl
  have changes : .requestSent ≠ (node.trans packet.block).state := by
    rw [init]
    decide
  have allowed : transitionAllowed (node.trans packet.block) .requestSent := by
    simp [transitionAllowed, init]
  unfold macCallback
  simp only [next]
  rw [if_neg fun failed => failed.2 allowed, if_pos changes]
  exact ⟨_, rfl⟩

theorem RequestPending.reported (pending : RequestPending block index peerAddr node) (calls : SfCalls) :
    sixpStep conf node (.sent index .ok calls) =
      macCallback (calls.run conf) ⟨block, (node.trans block).uid⟩ .ok
        { node with inFlight := node.inFlight.eraseIdx index } := by
  simp only [sixpStep, pending.inFlight]

theorem sent_waits (calls : SfCalls) (inv : TableInv none node)
    (pending : RequestPending block index peerAddr node) :
    let after := sixpStep conf node (.sent index .ok calls)
    TableInv none after ∧ block ∈ after.transList ∧
      SameTrans (node.trans block) (after.trans block) ∧ (after.trans block).state = .requestSent := by
  have member := (sixpTransFind_some pending.found).1
  have kept : ∀ node, Keeps none node (calls.run conf node) := Keeps.sfCalls conf calls
  let reported := { node with inFlight := node.inFlight.eraseIdx index }
  have reportedInv : TableInv none reported := inv.of_same rfl rfl
  let packet : SentPacket := ⟨block, (node.trans block).uid⟩
  have stepped : sixpStep conf node (.sent index .ok calls) =
      macCallback (calls.run conf) packet .ok reported := pending.reported conf calls
  obtain ⟨afterInv, growth⟩ := Keeps.macCallback kept packet .ok reported reportedInv
  have init : (reported.trans packet.block).state = .init := pending.init
  obtain ⟨record, called⟩ := macCallback_requestSent (calls.run conf) packet init
  dsimp only
  rw [stepped]
  refine ⟨afterInv, (growth block member).1, (growth block member).2, ?_⟩
  have allowed : transitionAllowed (reported.trans block) .requestSent := by
    simpa [transitionAllowed] using init
  let moved := (sixpTransTransitState block .requestSent reported).2
  have sent : (moved.trans block).state = .requestSent := by
    simp only [moved, transitState_allowed allowed, writeTrans_same]
    rfl
  have moves : Keeps none reported moved := Keeps.transit .requestSent member (by decide)
  obtain ⟨movedInv, movedGrowth⟩ := moves reportedInv
  -- The `sent_func` has no reply to send for the transaction, so it finds it and leaves it so.
  have settled : ((if (reported.trans block).callback.isSome then calls.run conf moved
      else moved).trans block).state = .requestSent := by
    split
    · have grows := sfCalls_grows conf calls moved movedInv (movedGrowth block member).1
      have idle : Idle (moved.trans block) := by
        rw [Idle, sent]
        decide
      rw [grows.idle idle, sent]
    · exact sent
  rw [called]
  change ((setCallback block none _).trans block).state = _
  rw [setCallback, writeTrans_same]
  exact settled

section answered

variable (sentCalls inputCalls : SfCalls) (inv : TableInv none node)
  (pending : RequestPending block index peerAddr node) (parsed : sixpPktParse buf = (true, pkt))
  (response : pkt.type = .response) (matched : Matches conf pkt (node.trans block))
include inv pending parsed response matched

theorem responseLast_reached :
    .responseReceived ∈ ((sixpStep conf (sixpStep conf node (.sent index .ok sentCalls))
      (.input buf peerAddr inputCalls)).trans block).visited := by
  obtain ⟨sentInv, member, same, waits⟩ := sent_waits conf sentCalls inv pending
  generalize sixpStep conf node (.sent index .ok sentCalls) = sent at sentInv member same waits
  obtain ⟨known, seqno⟩ := matched
  obtain ⟨sf, known⟩ := Option.isSome_iff_exists.mp known
  have found : sixpTransFind peerAddr sent = some block :=
    sixpTransFind_listed sentInv member (same.peerAddr.trans (sixpTransFind_some pending.found).2)
  have allowed : transitionAllowed (sent.trans block) .responseReceived := by
    simp [transitionAllowed, waits]
  obtain ⟨movedInv, growth⟩ := Keeps.transit .responseReceived member (by decide) sentInv
  have reached : .responseReceived ∈
      ((sixpTransTransitState block .responseReceived sent).2.trans block).visited := by
    rw [transitState_allowed allowed, writeTrans_same]
    exact List.mem_cons_self
  have accepted : acceptInput conf pkt peerAddr sent =
      (some block, (sixpTransTransitState block .responseReceived sent).2) := by
    have fits : (sent.trans block).seqno = pkt.seqno := same.seqno.trans seqno
    simp only [acceptInput, response, inputReply, found, fits, ne_eq, not_true_eq_false, if_false,
      transitState_allowed allowed]
  have handled : ∀ inputs, .responseReceived ∈ ((inputCalls.run conf
      { (sixpTransTransitState block .responseReceived sent).2 with inputs := inputs }).trans
        block).visited := by
    intro inputs
    have grows := sfCalls_grows conf inputCalls
      { (sixpTransTransitState block .responseReceived sent).2 with inputs := inputs }
      (movedInv.of_same rfl rfl) (growth block member).1
    exact grows.visited.subset reached
  simp only [sixpStep, sixpInput, parsed, known, accepted]
  split
  · exact handled _
  · exact reached

theorem responseFirst_missed :
    .responseReceived ∉ ((sixpStep conf (sixpStep conf node (.input buf peerAddr inputCalls))
      (.sent index .ok sentCalls)).trans block).visited := by
  have member := (sixpTransFind_some pending.found).1
  have visited := init_visited (inv.legal block member) pending.init
  have ended : sixpStep conf node (.input buf peerAddr inputCalls) =
      node.writeTrans block (entered .terminating) := by
    simp only [sixpStep]
    rw [responseFirst_terminates conf _ pending parsed response matched, transitState_allowed rfl]
    rfl
  rw [ended]
  have inFlight : (node.writeTrans block (entered .terminating)).inFlight[index]? =
      some ⟨block, (node.trans block).uid⟩ := pending.inFlight
  simp only [sixpStep, inFlight]
  -- The report finds a state it does not expect.
  let reported := { node.writeTrans block (entered .terminating) with
    inFlight := (node.writeTrans block (entered .terminating)).inFlight.eraseIdx index }
  have trans : reported.trans block = entered .terminating (node.trans block) :=
    writeTrans_same node block _
  have ignored : ∃ record, macCallback (sentCalls.run conf) ⟨block, (node.trans block).uid⟩ .ok
      reported = reported.recordCallback record := by
    unfold macCallback
    simp only [trans]
    exact ⟨_, rfl⟩
  obtain ⟨record, ignored⟩ := ignored
  rw [ignored]
  change .responseReceived ∉ (reported.trans block).visited
  rw [trans]
  simp [entered, visited]

end answered

/-- The two orders come to the same exactly when the response does not fit to the transaction, so
that it is dropped in both. -/
theorem response_order_outcome_iff (events : List SixpEvent) (sentCalls inputCalls : SfCalls)
    (pending : RequestPending block index peerAddr
      (Run.final (sixpStep conf) (sixpInit conf) events))
    (parsed : sixpPktParse buf = (true, pkt)) (response : pkt.type = .response) :
    let node := Run.final (sixpStep conf) (sixpInit conf) events
    let result := outcome block (node.trans block).uid peerAddr
    result (Run.final (sixpStep conf) node
        [.input buf peerAddr inputCalls, .sent index .ok sentCalls]) =
      result (Run.final (sixpStep conf) node
        [.sent index .ok sentCalls, .input buf peerAddr inputCalls]) ↔
    ¬ Matches conf pkt (node.trans block) := by
  intro node result
  have inv : TableInv none node := Run.invariant_of_step (TableInv none)
    (fun _ event holds => holds.step conf event) events (sixpInit conf) (sixpInit_table conf)
  constructor
  · intro same matched
    have reached := responseLast_reached conf sentCalls inputCalls inv pending parsed response matched
    have missed := responseFirst_missed conf sentCalls inputCalls inv pending parsed response matched
    have agree := congrArg Outcome.reached same
    simp only [result, outcome, Run.final, decide_eq_decide] at agree
    exact missed (agree.mpr reached)
  · intro unmatched
    simp only [Run.final]
    obtain ⟨sentInv, member, same, -⟩ := sent_waits conf sentCalls inv pending
    obtain ⟨outbox, early⟩ := unmatched_dropped conf (inputCalls.run conf) pending.found parsed
      response unmatched
    have lateFound := sixpTransFind_listed sentInv member
      (same.peerAddr.trans (sixpTransFind_some pending.found).2)
    have lateUnmatched : ¬ Matches conf pkt
        ((sixpStep conf node (.sent index .ok sentCalls)).trans block) := by
      rwa [Matches, same.seqno]
    obtain ⟨lateOutbox, late⟩ := unmatched_dropped conf (inputCalls.run conf) lateFound parsed
      response lateUnmatched
    -- The messages that were sent make no difference to the report.
    have pendingLater : RequestPending block index peerAddr (node.withOutbox outbox) :=
      ⟨pending.found, pending.init, pending.inFlight⟩
    obtain ⟨later, sent⟩ := macCallback_ignoresOutbox (sfCalls_ignoresOutbox conf sentCalls)
      ⟨block, (node.trans block).uid⟩ .ok { node with inFlight := node.inFlight.eraseIdx index } outbox
    have first : sixpStep conf (sixpStep conf node (.input buf peerAddr inputCalls))
        (.sent index .ok sentCalls) =
        (sixpStep conf node (.sent index .ok sentCalls)).withOutbox later := by
      rw [pending.reported conf sentCalls, ← sent]
      exact (congrArg (sixpStep conf · _) early).trans (pendingLater.reported conf sentCalls)
    have last : sixpStep conf (sixpStep conf node (.sent index .ok sentCalls))
        (.input buf peerAddr inputCalls) =
        (sixpStep conf node (.sent index .ok sentCalls)).withOutbox lateOutbox := late
    rw [first, last]
    rfl

end orders

def singleSfConf : SixpConf := ⟨2, 128, [⟨0, true, true⟩]⟩

def pendingRun : List SixpEvent :=
  [.sfCalls (.output ⟨.request, sixpPktCmdAdd, 0, some [0, 0, 0, 1, 5, 0, 7, 0], Vector.replicate 8 1,
    none⟩ (.added []) none .done .done)]

def addResponse : List UInt8 := [0x10, 0, 0, 0, 5, 0, 7, 0]

theorem addResponse_order :
    let node := Run.final (sixpStep singleSfConf) (sixpInit singleSfConf) pendingRun
    let result := outcome 0 (node.trans 0).uid (Vector.replicate 8 1)
    result (Run.final (sixpStep singleSfConf) node
        [.input addResponse (Vector.replicate 8 1) .done, .sent 0 .ok .done]) =
      result (Run.final (sixpStep singleSfConf) node
        [.sent 0 .ok .done, .input addResponse (Vector.replicate 8 1) .done]) ↔
    ¬ Matches singleSfConf ⟨0, .response, 0, 0, 0, some [5, 0, 7, 0]⟩ (node.trans 0) :=
  response_order_outcome_iff singleSfConf pendingRun .done .done
    ⟨by decide, by decide, by decide⟩ (by decide) rfl

theorem addResponse_lost_when_first :
    let node := Run.final (sixpStep singleSfConf) (sixpInit singleSfConf) pendingRun
    let result := outcome 0 (node.trans 0).uid (Vector.replicate 8 1)
    result (Run.final (sixpStep singleSfConf) node
        [.input addResponse (Vector.replicate 8 1) .done, .sent 0 .ok .done]) = ⟨false, 0, some 0⟩ ∧
      result (Run.final (sixpStep singleSfConf) node
        [.sent 0 .ok .done, .input addResponse (Vector.replicate 8 1) .done]) = ⟨true, 1, some 1⟩ := by
  decide

end MultiPhyTsch.Sixp
