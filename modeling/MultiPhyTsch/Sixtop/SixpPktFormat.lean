import MultiPhyTsch.Sixtop.SixpPkt

/-! The format of a 6P message: which bodies the codes have, that a message reads back as it was
created, and which bytes are taken for a message. -/

namespace MultiPhyTsch.Sixp

inductive LegalBody : SixpPktType → UInt8 → Nat → Prop
  | cells {cmd : UInt8} (listed : cmd ∈ [sixpPktCmdAdd, sixpPktCmdDelete, sixpPktCmdRelocate])
      (numCells : Nat) : LegalBody .request cmd (2 + 1 + 1 + 4 * numCells)
  | count : LegalBody .request sixpPktCmdCount (2 + 1)
  | list : LegalBody .request sixpPktCmdList (2 + 1 + 1 + 2 + 2)
  | signal (payload : Nat) : LegalBody .request sixpPktCmdSignal (2 + payload)
  | clear : LegalBody .request sixpPktCmdClear 2
  | success {type : SixpPktType} (reply : type = .response ∨ type = .confirmation) (len : Nat) :
      LegalBody type sixpPktRcSuccess len
  | eol {type : SixpPktType} (reply : type = .response ∨ type = .confirmation) (numCells : Nat) :
      LegalBody type sixpPktRcEol (4 * numCells)
  | err {type : SixpPktType} (reply : type = .response ∨ type = .confirmation) {rc : UInt8}
      (listed : rc ∈ [sixpPktRcErr, sixpPktRcReset, sixpPktRcErrVersion, sixpPktRcErrSfid,
        sixpPktRcErrSeqnum, sixpPktRcErrCelllist, sixpPktRcErrBusy, sixpPktRcErrLocked]) :
      LegalBody type rc 0

theorem requestLenValid_iff (cmd : UInt8) (len : Nat) :
    requestLenValid cmd len = true ↔ LegalBody .request cmd len := by
  constructor
  · intro valid
    unfold requestLenValid at valid
    split at valid
    next listed =>
      simp only [Bool.and_eq_true, decide_eq_true_eq, beq_iff_eq] at valid
      have cells : len = 2 + 1 + 1 + 4 * ((len - 4) / 4) := by omega
      rw [cells]
      exact .cells (by simpa using listed) _
    next =>
      split at valid
      next isCount =>
        rw [isCount, beq_iff_eq.mp valid]
        exact .count
      next =>
        split at valid
        next isList =>
          rw [isList, beq_iff_eq.mp valid]
          exact .list
        next =>
          split at valid
          next isSignal =>
            have payload : len = 2 + (len - 2) := by
              have metadata := of_decide_eq_true valid
              omega
            rw [isSignal, payload]
            exact .signal _
          next =>
            split at valid
            next isClear =>
              rw [isClear, beq_iff_eq.mp valid]
              exact .clear
            next => cases valid
  · intro legal
    cases legal with
    | cells listed numCells =>
      have listed : cmd = sixpPktCmdAdd ∨ cmd = sixpPktCmdDelete ∨ cmd = sixpPktCmdRelocate := by
        simpa using listed
      rw [requestLenValid, if_pos listed]
      simp only [Bool.and_eq_true, decide_eq_true_eq, beq_iff_eq]
      omega
    | count => rfl
    | list => rfl
    | signal payload => simp [requestLenValid, sixpPktCmdSignal, sixpPktCmdAdd, sixpPktCmdDelete,
        sixpPktCmdRelocate, sixpPktCmdCount, sixpPktCmdList]
    | clear => rfl
    | success reply => simp at reply
    | eol reply => simp at reply
    | err reply => simp at reply

theorem replyLenValid_iff {type : SixpPktType} (reply : type = .response ∨ type = .confirmation)
    (rc : UInt8) (len : Nat) : replyLenValid rc len = true ↔ LegalBody type rc len := by
  constructor
  · intro valid
    unfold replyLenValid at valid
    split at valid
    next isSuccess =>
      rw [isSuccess]
      exact .success reply len
    next notSuccess =>
      split at valid
      next isEol =>
        have cells : len = 4 * (len / 4) := by
          have whole := beq_iff_eq.mp valid
          omega
        rw [isEol, cells]
        exact .eol reply _
      next notEol =>
        split at valid
        next small =>
          rw [beq_iff_eq.mp valid]
          apply LegalBody.err reply
          have bound : rc.toNat ≤ 9 := UInt8.le_iff_toNat_le.mp small
          obtain ⟨index, rfl⟩ : ∃ index : Fin 10, rc = UInt8.ofNat index :=
            ⟨⟨rc.toNat, by omega⟩, by simp⟩
          clear valid bound
          revert notSuccess notEol small index
          decide
        next => cases valid
  · intro legal
    cases legal with
    | success reply len => rfl
    | eol reply numCells => simp [replyLenValid, sixpPktRcEol, sixpPktRcSuccess]
    | err reply listed =>
      simp only [List.mem_cons, List.not_mem_nil, or_false] at listed
      rcases listed with rfl | rfl | rfl | rfl | rfl | rfl | rfl | rfl <;> rfl
    | cells => simp at reply
    | count => simp at reply
    | list => simp at reply
    | signal => simp at reply
    | clear => simp at reply

def lenValid (type : SixpPktType) (code : UInt8) (len : Nat) : Bool :=
  match type with
  | .request => requestLenValid code len
  | .response | .confirmation => replyLenValid code len
  | .reserved => false

theorem lenValid_iff (type : SixpPktType) (code : UInt8) (len : Nat) :
    lenValid type code len = true ↔ LegalBody type code len := by
  cases type with
  | request => exact requestLenValid_iff code len
  | response => exact replyLenValid_iff (Or.inl rfl) code len
  | confirmation => exact replyLenValid_iff (Or.inr rfl) code len
  | reserved =>
    constructor
    · intro valid
      cases valid
    · intro legal
      cases legal with
      | success reply => simp at reply
      | eol reply => simp at reply
      | err reply => simp at reply

def headerVersion : List UInt8 → UInt8
  | first :: _ => first &&& 0x0f
  | [] => sixpPktVersion

inductive LegalPkt : List UInt8 → Prop
  | mk {first code sfid seqno : UInt8} {body : List UInt8}
      (legal : LegalBody (.ofBits ((first &&& 0x30) >>> 4)) code body.length) :
      LegalPkt (first :: code :: sfid :: seqno :: body)

theorem sixpPktParse_iff (buf : List UInt8) : (sixpPktParse buf).1 = true ↔ LegalPkt buf := by
  match buf with
  | first :: code :: sfid :: seqno :: body =>
    have same : (sixpPktParse (first :: code :: sfid :: seqno :: body)).1 =
        lenValid (.ofBits ((first &&& 0x30) >>> 4)) code body.length := by
      unfold sixpPktParse
      dsimp only
      split
      next valid => exact valid.symm
      next invalid => exact (Bool.eq_false_iff.mpr invalid).symm
    rw [same, lenValid_iff]
    constructor
    · exact LegalPkt.mk
    · rintro ⟨legal⟩
      exact legal
  | [] | [_] | [_, _] | [_, _, _] =>
    constructor
    · intro accepted
      cases accepted
    · intro legal
      cases legal

def ReadsBack (packetbufSize : Nat) (type : SixpPktType) (code sfid seqno : UInt8)
    (body : Option (List UInt8)) : Prop :=
  ∃ message, sixpPktCreate packetbufSize type code sfid seqno body = some message ∧
    sixpPktParse message = (true, ⟨sixpPktVersion, type, code, sfid, seqno, some (body.getD [])⟩)

theorem type_bits (type : SixpPktType) :
    SixpPktType.ofBits ((((type.value <<< 4) ||| sixpPktVersion) &&& 0x30) >>> 4) = type ∧
      ((type.value <<< 4) ||| sixpPktVersion) &&& 0x0f = sixpPktVersion := by
  cases type with
  | request => decide
  | response => decide
  | confirmation => decide
  | reserved => decide

theorem sixpPktParse_length {buf body : List UInt8} {pkt : SixpPkt}
    (parsed : sixpPktParse buf = (true, pkt)) (stored : pkt.body = some body) :
    buf.length = 4 + body.length := by
  unfold sixpPktParse at parsed
  split at parsed
  · dsimp only at parsed
    split_ifs at parsed
    · obtain ⟨-, rfl⟩ := Prod.mk.inj parsed
      cases stored
      exact Nat.add_comm _ 4
    · cases (Prod.mk.inj parsed).1
  · cases (Prod.mk.inj parsed).1

theorem readsBack_iff (packetbufSize : Nat) {type : SixpPktType} {code sfid seqno : UInt8}
    {body : Option (List UInt8)} (filled : body ≠ some [])
    (legal : LegalBody type code (body.getD []).length) :
    ReadsBack packetbufSize type code sfid seqno body ↔
      4 + (body.getD []).length ≤ packetbufSize := by
  have given : ¬ (body.isSome ∧ (body.getD []).length = 0) := by
    rintro ⟨present, empty⟩
    obtain ⟨bytes, rfl⟩ := Option.isSome_iff_exists.mp present
    exact filled (congrArg some (List.length_eq_zero_iff.mp empty))
  have size : ([(type.value <<< 4) ||| sixpPktVersion, code, sfid, seqno] ++
      body.getD []).length = 4 + (body.getD []).length := List.length_append
  unfold ReadsBack sixpPktCreate
  dsimp only
  rw [if_neg given]
  constructor
  · rintro ⟨message, created, parsed⟩
    split at created
    · cases created
    · -- a body that runs over the end comes back shorter
      have whole := sixpPktParse_length parsed rfl
      rw [← Option.some.inj created, List.length_take, size] at whole
      omega
  · intro fits
    rw [if_neg (by omega)]
    refine ⟨_, rfl, ?_⟩
    rw [List.take_of_length_le (size.trans_le fits)]
    obtain ⟨typeBits, versionBits⟩ := type_bits type
    have valid := (lenValid_iff type code (body.getD []).length).mpr legal
    unfold lenValid at valid
    simp only [List.cons_append, List.nil_append, sixpPktParse, typeBits, versionBits]
    exact if_pos valid

/-- Messages are read back when they fit the packet buffer. A message of another version is
refused only if it would be refused in any case. -/
theorem sixpPkt_format (packetbufSize : Nat) :
    (∀ (type : SixpPktType) (code sfid seqno : UInt8) (body : Option (List UInt8)),
      body ≠ some [] → LegalBody type code (body.getD []).length →
        (ReadsBack packetbufSize type code sfid seqno body ↔
          4 + (body.getD []).length ≤ packetbufSize)) ∧
    ∀ buf : List UInt8,
      (headerVersion buf ≠ sixpPktVersion ∨ ¬ LegalPkt buf → (sixpPktParse buf).1 = false) ↔
        (headerVersion buf = sixpPktVersion ∨ ¬ LegalPkt buf) := by
  refine ⟨fun _ _ _ _ _ filled legal => readsBack_iff packetbufSize filled legal, ?_⟩
  intro buf
  rw [← Bool.not_eq_true, sixpPktParse_iff]
  constructor
  · intro refused
    by_cases supported : headerVersion buf = sixpPktVersion
    · exact Or.inl supported
    · exact Or.inr (refused (Or.inl supported))
  · rintro (supported | malformed) (other | illegal)
    · exact absurd supported other
    · exact illegal
    · exact malformed
    · exact malformed

theorem sixpPkt_format_add :
    ReadsBack 128 .request sixpPktCmdAdd 0xf0 7 (some [0, 0, 1, 1, 5, 0, 3, 0]) ∧
      ((headerVersion [0x00, 2, 0xf0, 7, 0, 0, 1, 1] ≠ sixpPktVersion ∨
        ¬ LegalPkt [0x00, 2, 0xf0, 7, 0, 0, 1, 1] →
          (sixpPktParse [0x00, 2, 0xf0, 7, 0, 0, 1, 1]).1 = false) ↔
        (headerVersion [0x00, 2, 0xf0, 7, 0, 0, 1, 1] = sixpPktVersion ∨
          ¬ LegalPkt [0x00, 2, 0xf0, 7, 0, 0, 1, 1])) :=
  ⟨((sixpPkt_format 128).1 .request sixpPktCmdAdd 0xf0 7 (some [0, 0, 1, 1, 5, 0, 3, 0]) (by decide)
    (.cells (by decide) 1)).mpr (by decide), (sixpPkt_format 128).2 _⟩

theorem otherVersion_accepted :
    ¬ ∀ buf : List UInt8, headerVersion buf ≠ sixpPktVersion ∨ ¬ LegalPkt buf →
      (sixpPktParse buf).1 = false := by
  intro all
  have refused := all [0x02, 2, 0xf0, 7, 0xde, 0xad, 0xbe, 0xef] (Or.inl (by decide))
  revert refused
  decide

end MultiPhyTsch.Sixp
