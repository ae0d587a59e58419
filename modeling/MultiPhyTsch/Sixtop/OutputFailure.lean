import MultiPhyTsch.Sixtop.TransTable

/-! What a call of `sixp_output` that returns -1 leaves behind. The neighbor is prepared before the
packet and the transaction, and nothing is undone. -/

namespace MultiPhyTsch.Sixp

variable (conf : SixpConf)

variable (args : SixpOutputArgs)

def ReplyNeedsNbr (expected : SixpTransState) (node : SixpNode) : Prop :=
  node.nbrs args.destAddr = none ∧ args.type = .response ∧ args.code = sixpPktRcSuccess ∧
    ∃ block, sixpTransFind args.destAddr node = some block ∧ (node.trans block).state = expected ∧
      ((node.trans block).cmd = sixpPktCmdAdd ∨ (node.trans block).cmd = sixpPktCmdDelete)

def PreparesNbr (node : SixpNode) : Prop :=
  (args.type = .request ∧ sixpTransFind args.destAddr node = none) ∨
    ReplyNeedsNbr args .requestReceived node

/-- A missing entry is added with the sequence number 0, in place of the `evicted` ones, and a
CLEAR request resets the number of an entry that is there. -/
def preparedNbrs (room : NbrRoom) (nbrs : LinkAddr → Option UInt8) :
    LinkAddr → Option UInt8 :=
  match nbrs args.destAddr, room with
  | none, .full => nbrs
  | none, .added evicted =>
    Function.update (fun other => if evicted.contains other then none else nbrs other) args.destAddr
      (some 0)
  | some _, _ =>
    if args.type = .request ∧ args.code = sixpPktCmdClear then
      Function.update nbrs args.destAddr (some 0)
    else nbrs

theorem requestNbr_eq (request : args.type = .request) (room : NbrRoom) (node : SixpNode) :
    ((node.nbrs args.destAddr).elim (sixpNbrAlloc args.destAddr room node) fun _ => some node) =
        none ∧ { node with nbrs := preparedNbrs args room node.nbrs } = node ∨
      ∃ prepared,
        ((node.nbrs args.destAddr).elim (sixpNbrAlloc args.destAddr room node) fun _ => some node) =
          some prepared ∧
        (if args.code = sixpPktCmdClear then prepared.setNextSeqno args.destAddr 0 else prepared) =
          { node with nbrs := preparedNbrs args room node.nbrs } := by
  unfold preparedNbrs
  cases known : node.nbrs args.destAddr with
  | some seqno =>
    refine Or.inr ⟨node, rfl, ?_⟩
    by_cases clear : args.code = sixpPktCmdClear
    · simp [clear, request, SixpNode.setNextSeqno]
    · simp [clear]
  | none =>
    cases room with
    | full => exact Or.inl ⟨by simp [sixpNbrAlloc, known], rfl⟩
    | added evicted =>
      right
      simp only [sixpNbrAlloc, known, Option.elim_none, Option.some.injEq, exists_eq_left']
      by_cases clear : args.code = sixpPktCmdClear
      · simp [clear, SixpNode.setNextSeqno]
      · simp [clear, SixpNode.setNextSeqno]

theorem outputRequest_failed {args : SixpOutputArgs} {room : NbrRoom} {node next : SixpNode}
    (request : args.type = .request) (free : sixpTransFind args.destAddr node = none)
    (failed : outputRequest conf args room node = (none, next)) :
    next = { node with nbrs := preparedNbrs args room node.nbrs } := by
  have absent : ¬ (sixpTransFind args.destAddr node).isSome = true := by simp [free]
  rw [outputRequest, if_neg absent] at failed
  rcases requestNbr_eq args request room node with ⟨noRoom, same⟩ | ⟨prepared, found, reset⟩
  · rw [noRoom] at failed
    rw [same]
    exact (Prod.mk.inj failed).2.symm
  · rw [found] at failed
    dsimp only at failed
    rw [reset] at failed
    split at failed
    · exact (Prod.mk.inj failed).2.symm
    · rcases sixpTransAlloc_cases conf ⟨sixpPktVersion, args.type, args.code, args.sfid,
          (prepared.nbrs args.destAddr).getD 0, args.body⟩ args.destAddr .initiator
          { node with nbrs := preparedNbrs args room node.nbrs } with
        rejected | ⟨_, _, _, _, _, allocated⟩
      · rw [rejected] at failed
        exact (Prod.mk.inj failed).2.symm
      · rw [allocated] at failed
        cases (Prod.mk.inj failed).1

theorem replyNbr_eq (args : SixpOutputArgs) (room : NbrRoom) {node : SixpNode}
    (missing : node.nbrs args.destAddr = none) :
    sixpNbrAlloc args.destAddr room node = none ∧
        { node with nbrs := preparedNbrs args room node.nbrs } = node ∨
      sixpNbrAlloc args.destAddr room node =
        some { node with nbrs := preparedNbrs args room node.nbrs } := by
  unfold preparedNbrs sixpNbrAlloc
  rw [missing]
  cases room with
  | full => exact Or.inl ⟨rfl, rfl⟩
  | added evicted =>
    right
    simp only [List.contains_iff_mem]
    rfl

theorem outputReply_failed {args : SixpOutputArgs} {expected : SixpTransState} {room : NbrRoom}
    {node next : SixpNode} (failed : outputReply conf args expected room node = (none, next)) :
    (ReplyNeedsNbr args expected node →
        next = { node with nbrs := preparedNbrs args room node.nbrs }) ∧
      (¬ ReplyNeedsNbr args expected node → next = node) := by
  unfold outputReply at failed
  cases found : sixpTransFind args.destAddr node with
  | none =>
    rw [found] at failed
    refine ⟨?_, fun _ => (Prod.mk.inj failed).2.symm⟩
    rintro ⟨-, -, -, block, known, -⟩
    rw [found] at known
    cases known
  | some block =>
    rw [found] at failed
    dsimp only at failed
    by_cases state : (node.trans block).state = expected
    · rw [if_neg (by simpa using state)] at failed
      have needs : ReplyNeedsNbr args expected node ↔
          node.nbrs args.destAddr = none ∧ args.type = .response ∧ args.code = sixpPktRcSuccess ∧
            ((node.trans block).cmd = sixpPktCmdAdd ∨ (node.trans block).cmd = sixpPktCmdDelete) := by
        simp [ReplyNeedsNbr, found, state]
      rw [needs]
      split at failed
      next noRoom =>
        refine ⟨?_, fun _ => (Prod.mk.inj failed).2.symm⟩
        intro needed
        rw [if_pos needed] at noRoom
        rcases replyNbr_eq args room needed.1 with ⟨-, same⟩ | allocated
        · rw [same]
          exact (Prod.mk.inj failed).2.symm
        · rw [allocated] at noRoom
          cases noRoom
      next prepared found =>
        have same : next = prepared := by
          split at failed
          · exact (Prod.mk.inj failed).2.symm
          · cases (Prod.mk.inj failed).1
        rw [same]
        constructor
        · intro needed
          rw [if_pos needed] at found
          rcases replyNbr_eq args room needed.1 with ⟨full, -⟩ | allocated
          · rw [full] at found
            cases found
          · rw [allocated] at found
            exact (Option.some.inj found).symm
        · intro other
          rw [if_neg other] at found
          exact (Option.some.inj found).symm
    · rw [if_pos state] at failed
      refine ⟨?_, fun _ => (Prod.mk.inj failed).2.symm⟩
      rintro ⟨-, -, -, other, known, reached, -⟩
      rw [found, Option.some.injEq] at known
      rw [← known] at reached
      exact absurd reached state

theorem sixpOutput_failed (args : SixpOutputArgs) (room : NbrRoom) (immediate : Option MacTxStatus)
    (react : SixpNode → SixpNode) {node : SixpNode}
    (failed : (sixpOutput conf args room immediate react node).1 = false) :
    (PreparesNbr args node → (sixpOutput conf args room immediate react node).2 =
        { node with nbrs := preparedNbrs args room node.nbrs }) ∧
      (¬ PreparesNbr args node → (sixpOutput conf args room immediate react node).2 = node) := by
  cases prepared : prepareOutput conf args room node with
  | mk result next =>
    cases result with
    | some sent =>
      rw [sixpOutput, prepared] at failed
      cases failed
    | none =>
      have after : (sixpOutput conf args room immediate react node).2 = next := by
        rw [sixpOutput, prepared]
      rw [after]
      unfold PreparesNbr
      unfold prepareOutput at prepared
      cases type : args.type with
      | request =>
        rw [type] at prepared
        have noReply : ¬ ReplyNeedsNbr args .requestReceived node := by
          rintro ⟨-, response, -⟩
          rw [type] at response
          cases response
        cases found : sixpTransFind args.destAddr node with
        | none =>
          have done := outputRequest_failed conf type found prepared
          exact ⟨fun _ => done, fun nothing => absurd (Or.inl ⟨rfl, rfl⟩) nothing⟩
        | some block =>
          have busy : (sixpTransFind args.destAddr node).isSome = true := by simp [found]
          rw [outputRequest, if_pos busy] at prepared
          refine ⟨?_, fun _ => (Prod.mk.inj prepared).2.symm⟩
          rintro (⟨-, free⟩ | reply)
          · cases free
          · exact absurd reply noReply
      | response =>
        rw [type] at prepared
        obtain ⟨needed, unneeded⟩ := outputReply_failed conf prepared
        simpa using ⟨needed, unneeded⟩
      | confirmation =>
        rw [type] at prepared
        have noReply : ∀ state, ¬ ReplyNeedsNbr args state node := by
          rintro state ⟨-, response, -⟩
          rw [type] at response
          cases response
        obtain ⟨-, unneeded⟩ := outputReply_failed conf prepared
        simpa [noReply] using unneeded (noReply _)
      | reserved =>
        rw [type] at prepared
        have noReply : ¬ ReplyNeedsNbr args .requestReceived node := by
          rintro ⟨-, response, -⟩
          rw [type] at response
          cases response
        simpa [noReply] using (Prod.mk.inj prepared).2.symm

def oneRequestConf : SixpConf := ⟨1, 128, [⟨0, true, true⟩]⟩

def oneRequestNode : SixpNode :=
  (sixpOutput oneRequestConf
    ⟨.request, sixpPktCmdAdd, 0, some [0, 0, 0, 1], Vector.replicate 8 1, none⟩ (.added []) none id
    (sixpInit oneRequestConf)).2.setNextSeqno (Vector.replicate 8 2) 3

def clearRequest : SixpOutputArgs :=
  ⟨.request, sixpPktCmdClear, 0, some [0, 0], Vector.replicate 8 2, none⟩

theorem clearRequest_failed :
    (sixpOutput oneRequestConf clearRequest .full none id oneRequestNode).2 =
      { oneRequestNode with nbrs := preparedNbrs clearRequest .full oneRequestNode.nbrs } :=
  (sixpOutput_failed oneRequestConf clearRequest .full none id (by decide)).1
    (Or.inl ⟨rfl, by decide⟩)

theorem failedClear_resets : ¬ ∀ (conf : SixpConf) (args : SixpOutputArgs) (room : NbrRoom)
    (immediate : Option MacTxStatus) (react : SixpNode → SixpNode) (node : SixpNode),
    (sixpOutput conf args room immediate react node).1 = false →
      (sixpOutput conf args room immediate react node).2.transList = node.transList ∧
      (sixpOutput conf args room immediate react node).2.transMemb = node.transMemb ∧
      (sixpOutput conf args room immediate react node).2.nbrs = node.nbrs := by
  intro all
  have same := congrFun (all oneRequestConf clearRequest .full none id oneRequestNode (by decide)).2.2
    (Vector.replicate 8 2)
  revert same
  decide

end MultiPhyTsch.Sixp
