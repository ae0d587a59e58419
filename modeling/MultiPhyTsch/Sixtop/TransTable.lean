import MultiPhyTsch.Lib.Run
import MultiPhyTsch.Sixtop.Sixp

/-! The transactions of a node after any sequence of events. The events only reach a transaction
through the transition rules, so it keeps to the order of its role and mode; a block that was
given back is left in the terminating state with its timer stopped, and a callback that still
points to it finds nothing to change. -/

namespace MultiPhyTsch.Sixp

def legalNext (role : TransRole) (mode : SixpTransMode) : SixpTransState → List SixpTransState
  | .init => [.terminating, if role = .initiator then .requestSent else .requestReceived]
  | .requestSent => [.terminating, .responseReceived]
  | .requestReceived => [.terminating, .responseSent]
  | .responseSent => .terminating :: if mode = .threeStep then [.confirmationReceived] else []
  | .responseReceived => .terminating :: if mode = .threeStep then [.confirmationSent] else []
  | .confirmationSent | .confirmationReceived | .terminating => [.terminating]
  | .unavailable => []

def LegalPath (role : TransRole) (mode : SixpTransMode) : List SixpTransState → Prop
  | [] => False
  | [first] => first = .init
  | next :: last :: before =>
    next ∈ legalNext role mode last ∧ LegalPath role mode (last :: before)

structure LegalTrans (trans : SixpTrans) : Prop where
  path : LegalPath trans.role trans.mode trans.visited
  current : trans.visited.head? = some trans.state
  started : trans.role = .responder → trans.state ≠ .init
  mode : trans.mode = .twoStep ∨ (trans.mode = .threeStep ∧
    (trans.cmd = sixpPktCmdAdd ∨ trans.cmd = sixpPktCmdDelete))

def Armed (trans : SixpTrans) : Prop :=
  trans.timer ≠ none ∧ (trans.state = .terminating → trans.timer = some .processTrans)

def Dead (trans : SixpTrans) : Prop :=
  trans.timer = none ∧ (trans.state = .terminating ∨ trans.state = .unavailable)

/-- `waiting` is a transaction whose timer has expired and whose scheduling function is being
told. -/
structure TableInv (waiting : Option Nat) (node : SixpNode) : Prop where
  used : node.transMemb.InUse node.transList
  unique : node.transList.Nodup
  peers : ∀ block ∈ node.transList, ∀ other ∈ node.transList,
    (node.trans block).peerAddr = (node.trans other).peerAddr → block = other
  legal : ∀ block ∈ node.transList, LegalTrans (node.trans block)
  armed : ∀ block ∈ node.transList, some block ≠ waiting → Armed (node.trans block)
  dead : ∀ block, block ∉ node.transList → Dead (node.trans block)

structure SameTrans (before after : SixpTrans) : Prop where
  sf : after.sf = before.sf
  peerAddr : after.peerAddr = before.peerAddr
  seqno : after.seqno = before.seqno
  cmd : after.cmd = before.cmd
  mode : after.mode = before.mode
  uid : after.uid = before.uid
  role : after.role = before.role

theorem SameTrans.refl (trans : SixpTrans) : SameTrans trans trans :=
  ⟨rfl, rfl, rfl, rfl, rfl, rfl, rfl⟩

theorem SameTrans.trans {first second third : SixpTrans} (left : SameTrans first second)
    (right : SameTrans second third) : SameTrans first third :=
  ⟨right.sf.trans left.sf, right.peerAddr.trans left.peerAddr, right.seqno.trans left.seqno,
    right.cmd.trans left.cmd, right.mode.trans left.mode, right.uid.trans left.uid,
    right.role.trans left.role⟩

def Extends (before after : SixpNode) : Prop :=
  ∀ block ∈ before.transList, block ∈ after.transList ∧
    SameTrans (before.trans block) (after.trans block)

theorem Extends.refl (node : SixpNode) : Extends node node :=
  fun _ member => ⟨member, SameTrans.refl _⟩

theorem Extends.trans {first second third : SixpNode} (left : Extends first second)
    (right : Extends second third) : Extends first third := by
  intro block member
  obtain ⟨kept, same⟩ := left block member
  obtain ⟨still, again⟩ := right block kept
  exact ⟨still, same.trans again⟩

def Keeps (waiting : Option Nat) (before after : SixpNode) : Prop :=
  TableInv waiting before → TableInv waiting after ∧ Extends before after

theorem Keeps.refl (waiting : Option Nat) (node : SixpNode) : Keeps waiting node node :=
  fun inv => ⟨inv, Extends.refl node⟩

theorem Keeps.trans {waiting : Option Nat} {first second third : SixpNode}
    (left : Keeps waiting first second) (right : Keeps waiting second third) :
    Keeps waiting first third := by
  intro inv
  obtain ⟨middle, growth⟩ := left inv
  obtain ⟨last, more⟩ := right middle
  exact ⟨last, growth.trans more⟩

variable {before after : SixpNode}

theorem trans_of_same (memb : after.transMemb = before.transMemb)
    (block : Nat) : after.trans block = before.trans block := by
  rw [SixpNode.trans, memb, SixpNode.trans]

theorem Extends.of_same (memb : after.transMemb = before.transMemb)
    (list : after.transList = before.transList) : Extends before after := by
  intro block member
  rw [list, trans_of_same memb]
  exact ⟨member, SameTrans.refl _⟩

theorem TableInv.of_same {waiting : Option Nat}
    (inv : TableInv waiting before) (memb : after.transMemb = before.transMemb)
    (list : after.transList = before.transList) : TableInv waiting after := by
  obtain ⟨used, unique, peers, legal, armed, dead⟩ := inv
  constructor
  · rwa [memb, list]
  · rwa [list]
  · simpa only [list, trans_of_same memb] using peers
  · simpa only [list, trans_of_same memb] using legal
  · simpa only [list, trans_of_same memb] using armed
  · simpa only [list, trans_of_same memb] using dead

theorem Keeps.of_same {waiting : Option Nat}
    (memb : after.transMemb = before.transMemb) (list : after.transList = before.transList) :
    Keeps waiting before after :=
  fun inv => ⟨inv.of_same memb list, Extends.of_same memb list⟩

section writes

variable {waiting : Option Nat} {node : SixpNode} {block : Nat} {change : SixpTrans → SixpTrans}

@[simp] theorem writeTrans_same (node : SixpNode) (block : Nat) (change : SixpTrans → SixpTrans) :
    (node.writeTrans block change).trans block = change (node.trans block) :=
  Memb.write_same ..

theorem writeTrans_other (node : SixpNode) {block other : Nat} (change : SixpTrans → SixpTrans)
    (different : other ≠ block) :
    (node.writeTrans block change).trans other = node.trans other :=
  Memb.write_other _ _ different

theorem Extends.write (same : SameTrans (node.trans block) (change (node.trans block))) :
    Extends node (node.writeTrans block change) := by
  intro other member
  refine ⟨member, ?_⟩
  by_cases equal : other = block
  · subst equal
    rwa [writeTrans_same]
  · rw [writeTrans_other node change equal]
    exact SameTrans.refl _

theorem TableInv.write {after : Option Nat} (inv : TableInv waiting node)
    (same : SameTrans (node.trans block) (change (node.trans block)))
    (live : block ∈ node.transList → LegalTrans (change (node.trans block)) ∧
      (some block ≠ after → Armed (change (node.trans block))))
    (dead : block ∉ node.transList → Dead (change (node.trans block)))
    (waits : ∀ other, other ≠ block → some other ≠ after → some other ≠ waiting) :
    TableInv after (node.writeTrans block change) := by
  have split : ∀ (holds : SixpTrans → Prop) (other : Nat),
      (other ≠ block → holds (node.trans other)) → (other = block → holds (change (node.trans block))) →
      holds ((node.writeTrans block change).trans other) := by
    intro holds other away here
    by_cases equal : other = block
    · rw [equal, writeTrans_same]
      exact here equal
    · rw [writeTrans_other node change equal]
      exact away equal
  have peer : ∀ other, ((node.writeTrans block change).trans other).peerAddr =
      (node.trans other).peerAddr := by
    intro other
    by_cases equal : other = block
    · rw [equal, writeTrans_same, same.peerAddr]
    · rw [writeTrans_other node change equal]
  constructor
  · exact inv.used.write block change
  · exact inv.unique
  · intro first firstMember second secondMember equal
    rw [peer, peer] at equal
    exact inv.peers first firstMember second secondMember equal
  · intro other member
    refine split _ other (fun _ => inv.legal other member) fun equal => ?_
    exact (live (equal ▸ member)).1
  · intro other member settled
    refine split _ other (fun away => inv.armed other member (waits other away settled)) fun equal => ?_
    subst equal
    exact (live member).2 settled
  · intro other absent
    refine split _ other (fun _ => inv.dead other absent) fun equal => ?_
    exact dead (equal ▸ absent)

end writes

theorem unavailable_not_legal (role : TransRole) (mode : SixpTransMode) (state : SixpTransState) :
    .unavailable ∉ legalNext role mode state := by
  cases role <;> cases mode <;> cases state <;> decide

theorem init_not_legal (role : TransRole) (mode : SixpTransMode) (state : SixpTransState) :
    .init ∉ legalNext role mode state := by
  cases role <;> cases mode <;> cases state <;> decide

theorem LegalTrans.available {trans : SixpTrans} (legal : LegalTrans trans) :
    trans.state ≠ .unavailable := by
  obtain ⟨path, current, -, -⟩ := legal
  intro unavailable
  rw [unavailable] at current
  cases visited : trans.visited with
  | nil => simp [visited] at current
  | cons last before =>
    rw [visited] at path current
    obtain rfl : last = .unavailable := by simpa using current
    cases before with
    | nil => exact absurd path (by simp [LegalPath])
    | cons previous earlier => exact unavailable_not_legal _ _ _ path.1

variable {newState : SixpTransState}

theorem legalNext_of_allowed {trans : SixpTrans}
    (legal : LegalTrans trans) (sending : newState ≠ .requestReceived)
    (allowed : transitionAllowed trans newState) :
    newState ∈ legalNext trans.role trans.mode trans.state := by
  have available := legal.available
  cases newState with
  | unavailable => simp [transitionAllowed] at allowed
  | init => simp [transitionAllowed] at allowed
  | requestReceived => exact absurd rfl sending
  | terminating =>
    cases state : trans.state with
    | unavailable => exact absurd state available
    | _ => simp [legalNext]
  | requestSent =>
    have state : trans.state = .init := by simpa [transitionAllowed] using allowed
    have initiator : trans.role = .initiator := by
      cases role : trans.role with
      | initiator => rfl
      | responder => exact absurd state (legal.started role)
    simp [state, initiator, legalNext]
  | responseSent =>
    have state : trans.state = .requestReceived := by simpa [transitionAllowed] using allowed
    simp [state, legalNext]
  | responseReceived =>
    have state : trans.state = .requestSent := by simpa [transitionAllowed] using allowed
    simp [state, legalNext]
  | confirmationSent =>
    have state : trans.state = .responseReceived ∧ trans.mode = .threeStep := by
      simpa [transitionAllowed] using allowed
    simp [state, legalNext]
  | confirmationReceived =>
    have state : trans.state = .responseSent ∧ trans.mode = .threeStep := by
      simpa [transitionAllowed] using allowed
    simp [state, legalNext]

def entered (newState : SixpTransState) (trans : SixpTrans) : SixpTrans :=
  { trans with
    state := newState
    visited := newState :: trans.visited
    timer := some .processTrans }

theorem LegalTrans.entered {trans : SixpTrans} (legal : LegalTrans trans)
    (next : newState ∈ legalNext trans.role trans.mode trans.state) :
    LegalTrans (entered newState trans) := by
  obtain ⟨path, current, started, mode⟩ := legal
  refine ⟨?_, rfl, ?_, mode⟩
  · cases visited : trans.visited with
    | nil => simp [visited] at current
    | cons last before =>
      rw [visited] at path current
      obtain rfl : last = trans.state := by simpa using current
      change LegalPath trans.role trans.mode (newState :: trans.visited)
      rw [visited]
      exact ⟨next, path⟩
  · intro _ back
    have back : newState = .init := back
    subst back
    exact init_not_legal _ _ _ next

theorem entered_armed (newState : SixpTransState) (trans : SixpTrans) :
    Armed (entered newState trans) := ⟨Option.some_ne_none _, fun _ => rfl⟩

theorem entered_same (newState : SixpTransState) (trans : SixpTrans) :
    SameTrans trans (entered newState trans) := ⟨rfl, rfl, rfl, rfl, rfl, rfl, rfl⟩

theorem updateNextSeqno_table (trans : SixpTrans) (newState : SixpTransState) (node : SixpNode) :
    (updateNextSeqno trans newState node).transMemb = node.transMemb ∧
      (updateNextSeqno trans newState node).transList = node.transList := by
  unfold updateNextSeqno
  split
  · split <;> exact ⟨rfl, rfl⟩
  · exact ⟨rfl, rfl⟩
  · exact ⟨rfl, rfl⟩

theorem transitState_allowed {block : Nat} {node : SixpNode}
    (allowed : transitionAllowed (node.trans block) newState) :
    sixpTransTransitState block newState node =
      (true, (updateNextSeqno (node.trans block) newState node).writeTrans block (entered newState)) :=
  if_pos allowed

theorem transitState_refused {block : Nat} {node : SixpNode}
    (refused : ¬ transitionAllowed (node.trans block) newState) :
    sixpTransTransitState block newState node = (false, node) := if_neg refused

theorem TableInv.transit {waiting after : Option Nat} {node : SixpNode} {block : Nat}
    (inv : TableInv waiting node) (member : block ∈ node.transList)
    (sending : newState ≠ .requestReceived) (allowed : transitionAllowed (node.trans block) newState)
    (waits : ∀ other, other ≠ block → some other ≠ after → some other ≠ waiting) :
    TableInv after (sixpTransTransitState block newState node).2 := by
  rw [transitState_allowed allowed]
  obtain ⟨memb, list⟩ := updateNextSeqno_table (node.trans block) newState node
  have trans : (updateNextSeqno (node.trans block) newState node).trans block = node.trans block := by
    rw [SixpNode.trans, memb, SixpNode.trans]
  have legal := inv.legal block member
  refine (inv.of_same memb list).write ?_ ?_ ?_ waits
  · exact entered_same newState _
  · intro _
    rw [trans]
    exact ⟨legal.entered (legalNext_of_allowed legal sending allowed),
      fun _ => entered_armed newState _⟩
  · intro absent
    rw [list] at absent
    exact absurd member absent

theorem Extends.transit (block : Nat) (newState : SixpTransState) (node : SixpNode) :
    Extends node (sixpTransTransitState block newState node).2 := by
  by_cases allowed : transitionAllowed (node.trans block) newState
  · rw [transitState_allowed allowed]
    obtain ⟨memb, list⟩ := updateNextSeqno_table (node.trans block) newState node
    exact (Extends.of_same memb list).trans (Extends.write (entered_same newState _))
  · rw [transitState_refused allowed]
    exact Extends.refl node

theorem Keeps.transit {waiting : Option Nat} {node : SixpNode} {block : Nat}
    (newState : SixpTransState) (member : block ∈ node.transList)
    (sending : newState ≠ .requestReceived) :
    Keeps waiting node (sixpTransTransitState block newState node).2 := by
  intro inv
  refine ⟨?_, Extends.transit block newState node⟩
  by_cases allowed : transitionAllowed (node.trans block) newState
  · exact inv.transit member sending allowed fun _ _ settled => settled
  · rw [transitState_refused allowed]
    exact inv

theorem Keeps.setCallback (waiting : Option Nat) (node : SixpNode) (block : Nat)
    (callback : Option Nat) : Keeps waiting node (setCallback block callback node) := by
  have same : SameTrans (node.trans block) { node.trans block with callback := callback } :=
    ⟨rfl, rfl, rfl, rfl, rfl, rfl, rfl⟩
  intro inv
  refine ⟨inv.write same ?_ ?_ fun _ _ settled => settled, Extends.write same⟩
  · intro member
    obtain ⟨path, current, started, mode⟩ := inv.legal block member
    exact ⟨⟨path, current, started, mode⟩, fun settled => inv.armed block member settled⟩
  · exact inv.dead block

theorem Keeps.record (waiting : Option Nat) (node : SixpNode) (record : CallbackRecord) :
    Keeps waiting node (node.recordCallback record) := Keeps.of_same rfl rfl

variable {status : MacTxStatus}

theorem callbackState_dead {trans : SixpTrans}
    (dead : Dead trans) (next : callbackState status trans.state = some newState) :
    newState = trans.state := by
  obtain ⟨-, terminating | unavailable⟩ := dead
  · rw [terminating] at next ⊢
    cases status <;> simp_all [callbackState]
  · rw [unavailable] at next ⊢
    cases status <;> simp_all [callbackState]

theorem callbackState_sending {state newState : SixpTransState}
    (next : callbackState status state = some newState) (changes : newState ≠ state) :
    newState ≠ .requestReceived := by
  rintro rfl
  cases status <;> cases state <;> simp_all [callbackState]

theorem listed_of_change {waiting : Option Nat} {node : SixpNode} {block : Nat}
    (inv : TableInv waiting node)
    (next : callbackState status (node.trans block).state = some newState)
    (changes : newState ≠ (node.trans block).state) : block ∈ node.transList := by
  by_contra absent
  exact changes (callbackState_dead (inv.dead block absent) next)

def Moves (block : Nat) (before after : SixpNode) : Prop :=
  after = before ∨ (block ∈ before.transList ∧ ∃ newState, newState ≠ .requestReceived ∧
    after = (sixpTransTransitState block newState before).2)

theorem Moves.keeps {waiting : Option Nat} {block : Nat}
    (moves : Moves block before after) : Keeps waiting before after := by
  rcases moves with rfl | ⟨member, newState, sending, rfl⟩
  · exact Keeps.refl waiting after
  · exact Keeps.transit newState member sending

theorem macCallback_cases {waiting : Option Nat} {node : SixpNode} (react : SixpNode → SixpNode)
    (packet : SentPacket) (status : MacTxStatus) (inv : TableInv waiting node) :
    ∃ moved record, Moves packet.block node moved ∧
      (macCallback react packet status node = moved.recordCallback record ∨
        macCallback react packet status node = (setCallback packet.block none
          (if (node.trans packet.block).callback.isSome then react moved else moved)).recordCallback
            record) := by
  unfold macCallback
  dsimp only
  split
  next unexpected => exact ⟨node, _, Or.inl rfl, Or.inl rfl⟩
  next newState next =>
    split
    next failed =>
      exact ⟨_, _, Or.inr ⟨listed_of_change inv next failed.1, .terminating, by decide, rfl⟩,
        Or.inl rfl⟩
    next =>
      refine ⟨_, _, ?_, Or.inr rfl⟩
      split
      next changes =>
        exact Or.inr ⟨listed_of_change inv next changes, newState, callbackState_sending next changes,
          rfl⟩
      next => exact Or.inl rfl

theorem Keeps.macCallback {waiting : Option Nat} {react : SixpNode → SixpNode}
    (reaction : ∀ node, Keeps waiting node (react node)) (packet : SentPacket)
    (status : MacTxStatus) (node : SixpNode) :
    Keeps waiting node (macCallback react packet status node) := by
  intro inv
  obtain ⟨moved, record, moves, ended | ended⟩ := macCallback_cases react packet status inv
  · rw [ended]
    exact (moves.keeps.trans (Keeps.record waiting moved record)) inv
  · rw [ended]
    have called : Keeps waiting moved
        (if (node.trans packet.block).callback.isSome then react moved else moved) := by
      split
      · exact reaction moved
      · exact Keeps.refl waiting moved
    exact ((moves.keeps.trans called).trans ((Keeps.setCallback waiting _ packet.block none).trans
      (Keeps.record waiting _ record))) inv

theorem sixpTransFind_none {peerAddr : LinkAddr} {node : SixpNode}
    (none : sixpTransFind peerAddr node = none) :
    ∀ block ∈ node.transList, (node.trans block).peerAddr ≠ peerAddr := by
  intro block member
  have absent := List.find?_eq_none.mp none block member
  simpa using absent

theorem sixpTransFind_some {peerAddr : LinkAddr} {node : SixpNode} {block : Nat}
    (found : sixpTransFind peerAddr node = some block) :
    block ∈ node.transList ∧ (node.trans block).peerAddr = peerAddr := by
  refine ⟨List.mem_of_find?_eq_some found, ?_⟩
  simpa using List.find?_some found

def SixpNode.addTrans (node : SixpNode) (block : Nat) (trans : SixpTrans) : SixpNode :=
  { node with
    transMemb := node.transMemb.membAlloc.2.write block fun _ => trans
    transList := listAdd node.transList block
    nextUid := node.nextUid + 1 }

section add

variable {waiting : Option Nat} {node : SixpNode} {block : Nat} {trans : SixpTrans}

theorem addTrans_same (node : SixpNode) (block : Nat) (trans : SixpTrans) :
    (node.addTrans block trans).trans block = trans := by
  rw [SixpNode.trans, SixpNode.addTrans, Memb.write_same]

theorem addTrans_other (node : SixpNode) (trans : SixpTrans) {other : Nat} (different : other ≠ block) :
    (node.addTrans block trans).trans other = node.trans other := by
  rw [SixpNode.trans, SixpNode.addTrans, Memb.write_other _ _ different, Memb.membAlloc_mem,
    SixpNode.trans]

theorem Keeps.addTrans (fresh : node.transMemb.membAlloc.1 = some block)
    (alone : sixpTransFind trans.peerAddr node = none) (legal : LegalTrans trans)
    (armed : Armed trans) : Keeps waiting node (node.addTrans block trans) := by
  intro inv
  obtain ⟨absent, used, -, -⟩ := Memb.membAlloc_some inv.used fresh
  have list : (node.addTrans block trans).transList = node.transList ++ [block] :=
    listAdd_of_not_mem absent
  have member : ∀ other, other ∈ (node.addTrans block trans).transList ↔
      other ∈ node.transList ∨ other = block := by
    intro other
    rw [list, List.mem_append, List.mem_singleton]
  have old : ∀ other ∈ node.transList, (node.addTrans block trans).trans other = node.trans other := by
    intro other inside
    exact addTrans_other node trans fun equal => absent (equal ▸ inside)
  have others := sixpTransFind_none alone
  refine ⟨⟨?_, ?_, ?_, ?_, ?_, ?_⟩, ?_⟩
  · have written : (node.addTrans block trans).transMemb.InUse (block :: node.transList) :=
      used.write block fun _ => trans
    refine written.congr fun other => ?_
    rw [member, List.mem_cons, or_comm]
  · rw [list, List.nodup_append_comm]
    exact List.nodup_cons.mpr ⟨absent, inv.unique⟩
  · intro first firstMember second secondMember equal
    rcases (member first).mp firstMember with firstOld | rfl <;>
      rcases (member second).mp secondMember with secondOld | rfl
    · rw [old first firstOld, old second secondOld] at equal
      exact inv.peers first firstOld second secondOld equal
    · rw [old first firstOld, addTrans_same] at equal
      exact absurd equal (others first firstOld)
    · rw [old second secondOld, addTrans_same] at equal
      exact absurd equal.symm (others second secondOld)
    · rfl
  · intro other inside
    rcases (member other).mp inside with known | rfl
    · rw [old other known]
      exact inv.legal other known
    · rwa [addTrans_same]
  · intro other inside settled
    rcases (member other).mp inside with known | rfl
    · rw [old other known]
      exact inv.armed other known settled
    · rwa [addTrans_same]
  · intro other outside
    rw [member, not_or] at outside
    rw [addTrans_other node trans outside.2]
    exact inv.dead other outside.1
  · intro other inside
    rw [old other inside]
    exact ⟨(member other).mpr (Or.inl inside), SameTrans.refl _⟩

end add

variable (conf : SixpConf)

def newTrans (sf : SixtopSf) (pkt : SixpPkt) (peerAddr : LinkAddr) (role : TransRole) (uid : Nat) :
    SixpTrans :=
  { sf := sf
    peerAddr := peerAddr
    seqno := pkt.seqno
    cmd := pkt.code
    state := .init
    mode := determineTransMode pkt
    callback := none
    timer := some .handleTransTimeout
    uid := uid
    role := role
    visited := [.init] }

theorem sixpTransAlloc_cases (pkt : SixpPkt) (peerAddr : LinkAddr) (role : TransRole)
    (node : SixpNode) :
    sixpTransAlloc conf pkt peerAddr role node = (none, node) ∨
      ∃ sf block, sixtopFindSf conf pkt.sfid = some sf ∧ sixpTransFind peerAddr node = none ∧
        node.transMemb.membAlloc.1 = some block ∧
        sixpTransAlloc conf pkt peerAddr role node =
          (some block, node.addTrans block (newTrans sf pkt peerAddr role node.nextUid)) := by
  unfold sixpTransAlloc
  split
  next sf block memb found alone fresh =>
    refine Or.inr ⟨sf, block, found, alone, congrArg Prod.fst fresh, ?_⟩
    rw [SixpNode.addTrans, fresh]
    rfl
  next => exact Or.inl rfl

section

variable (sf : SixtopSf) (pkt : SixpPkt) (peerAddr : LinkAddr)

theorem newTrans_mode (role : TransRole) (uid : Nat) :
    let trans := newTrans sf pkt peerAddr role uid
    trans.mode = .twoStep ∨ (trans.mode = .threeStep ∧
      (trans.cmd = sixpPktCmdAdd ∨ trans.cmd = sixpPktCmdDelete)) := by
  simp only [newTrans, determineTransMode]
  split
  next three => exact Or.inr ⟨rfl, three.2.1⟩
  next => exact Or.inl rfl

theorem newTrans_armed (role : TransRole) (uid : Nat) : Armed (newTrans sf pkt peerAddr role uid) :=
  ⟨Option.some_ne_none _, fun terminating => nomatch terminating⟩

theorem newTrans_legal (uid : Nat) : LegalTrans (newTrans sf pkt peerAddr .initiator uid) :=
  ⟨rfl, rfl, (fun responder => nomatch responder), newTrans_mode sf pkt peerAddr .initiator uid⟩

theorem receivedTrans_legal (uid : Nat) :
    LegalTrans (entered .requestReceived (newTrans sf pkt peerAddr .responder uid)) := by
  refine ⟨⟨?_, rfl⟩, rfl, fun _ back => ?_, newTrans_mode sf pkt peerAddr .responder uid⟩
  · simp [entered, newTrans, legalNext]
  · exact absurd back (by simp [entered])

end

theorem addTrans_requestReceived (node : SixpNode) (block : Nat) (sf : SixtopSf) (pkt : SixpPkt)
    (peerAddr : LinkAddr) (uid : Nat) :
    (sixpTransTransitState block .requestReceived
        (node.addTrans block (newTrans sf pkt peerAddr .responder uid))).2 =
      node.addTrans block (entered .requestReceived (newTrans sf pkt peerAddr .responder uid)) := by
  have allowed : transitionAllowed
      ((node.addTrans block (newTrans sf pkt peerAddr .responder uid)).trans block)
      .requestReceived := by
    rw [addTrans_same]
    rfl
  rw [transitState_allowed allowed, addTrans_same]
  simp [updateNextSeqno, SixpNode.writeTrans, SixpNode.addTrans, Memb.write]

section calls

variable {waiting : Option Nat} {node : SixpNode}

theorem Keeps.sendBackError (waiting : Option Nat) (type : SixpPktType) (code sfid seqno : UInt8)
    (destAddr : LinkAddr) (node : SixpNode) :
    Keeps waiting node (sendBackError conf type code sfid seqno destAddr node) := by
  unfold Sixp.sendBackError
  split <;> exact Keeps.of_same rfl rfl

def OnlyNbrs (before after : SixpNode) : Prop := ∃ nbrs, after = { before with nbrs := nbrs }

theorem OnlyNbrs.refl (node : SixpNode) : OnlyNbrs node node := ⟨node.nbrs, rfl⟩

theorem OnlyNbrs.trans {first second third : SixpNode} (left : OnlyNbrs first second)
    (right : OnlyNbrs second third) : OnlyNbrs first third := by
  obtain ⟨nbrs, rfl⟩ := left
  obtain ⟨later, rfl⟩ := right
  exact ⟨later, rfl⟩

theorem OnlyNbrs.keeps {before after : SixpNode} (only : OnlyNbrs before after) :
    Keeps waiting before after := by
  obtain ⟨nbrs, rfl⟩ := only
  exact Keeps.of_same rfl rfl

theorem OnlyNbrs.setNextSeqno (node : SixpNode) (addr : LinkAddr) (seqno : UInt8) :
    OnlyNbrs node (node.setNextSeqno addr seqno) := ⟨_, rfl⟩

theorem OnlyNbrs.nbrAlloc {addr : LinkAddr} {room : NbrRoom} {after : SixpNode}
    (allocated : sixpNbrAlloc addr room node = some after) : OnlyNbrs node after := by
  unfold sixpNbrAlloc at allocated
  split at allocated
  · cases allocated
  · cases allocated
  · obtain rfl := Option.some.inj allocated
    exact ⟨_, rfl⟩

section prepared

variable (node : SixpNode) (result : Option (Nat × List UInt8) × SixpNode)

abbrev Unprepared : Prop := result.1 = none ∧ OnlyNbrs node result.2

abbrev Started (peerAddr : LinkAddr) : Prop :=
  ∃ before sf pkt block message, OnlyNbrs node before ∧ sixpTransFind peerAddr before = none ∧
    before.transMemb.membAlloc.1 = some block ∧ result = (some (block, message),
      before.addTrans block (newTrans sf pkt peerAddr .initiator before.nextUid))

abbrev Replied : Prop :=
  ∃ block message, result.1 = some (block, message) ∧ OnlyNbrs node result.2 ∧
    block ∈ node.transList ∧
    ((node.trans block).state = .requestReceived ∨ (node.trans block).state = .responseReceived)

end prepared

variable (args : SixpOutputArgs)

theorem outputRequest_cases (room : NbrRoom) (node : SixpNode) :
    Unprepared node (outputRequest conf args room node) ∨
      Started node (outputRequest conf args room node) args.destAddr := by
  unfold outputRequest
  split
  · exact Or.inl ⟨rfl, OnlyNbrs.refl node⟩
  · split
    · exact Or.inl ⟨rfl, OnlyNbrs.refl node⟩
    next found neighbor =>
      have entry : OnlyNbrs node found := by
        cases known : node.nbrs args.destAddr with
        | none =>
          rw [known] at neighbor
          exact OnlyNbrs.nbrAlloc neighbor
        | some seqno =>
          rw [known] at neighbor
          obtain rfl : node = found := Option.some.inj neighbor
          exact OnlyNbrs.refl node
      have reset : OnlyNbrs node (if args.code = sixpPktCmdClear then
          found.setNextSeqno args.destAddr 0 else found) := by
        split
        · exact entry.trans (OnlyNbrs.setNextSeqno ..)
        · exact entry
      dsimp only
      generalize (if args.code = sixpPktCmdClear then
        found.setNextSeqno args.destAddr 0 else found) = cleared at reset
      split
      · exact Or.inl ⟨rfl, reset⟩
      next message _ =>
        rcases sixpTransAlloc_cases conf ⟨sixpPktVersion, args.type, args.code, args.sfid,
            (found.nbrs args.destAddr).getD 0, args.body⟩ args.destAddr .initiator cleared with
          failed | ⟨sf, block, -, alone, fresh, allocated⟩
        · rw [failed]
          exact Or.inl ⟨rfl, reset⟩
        · rw [allocated]
          exact Or.inr ⟨cleared, sf, _, block, message, reset, alone, fresh, rfl⟩

theorem outputReply_cases (expected : SixpTransState) (room : NbrRoom) (node : SixpNode) :
    OnlyNbrs node (outputReply conf args expected room node).2 ∧
      ((outputReply conf args expected room node).1 = none ∨
        ∃ block message, (outputReply conf args expected room node).1 = some (block, message) ∧
          sixpTransFind args.destAddr node = some block ∧ (node.trans block).state = expected) := by
  unfold outputReply
  split
  · exact ⟨OnlyNbrs.refl node, Or.inl rfl⟩
  next block found =>
    dsimp only
    split
    · exact ⟨OnlyNbrs.refl node, Or.inl rfl⟩
    next state =>
      split
      · exact ⟨OnlyNbrs.refl node, Or.inl rfl⟩
      next after neighbor =>
        have entry : OnlyNbrs node after := by
          split at neighbor
          · exact OnlyNbrs.nbrAlloc neighbor
          · obtain rfl := Option.some.inj neighbor
            exact OnlyNbrs.refl node
        split
        · exact ⟨entry, Or.inl rfl⟩
        next message _ => exact ⟨entry, Or.inr ⟨block, message, rfl, found, not_not.mp state⟩⟩

theorem prepareOutput_cases (room : NbrRoom) (node : SixpNode) :
    Unprepared node (prepareOutput conf args room node) ∨
      Started node (prepareOutput conf args room node) args.destAddr ∨
      Replied node (prepareOutput conf args room node) := by
  have reply : ∀ expected, expected = .requestReceived ∨ expected = .responseReceived →
      Unprepared node (outputReply conf args expected room node) ∨
        Replied node (outputReply conf args expected room node) := by
    intro expected kinds
    obtain ⟨only, failed | ⟨block, message, ready, found, state⟩⟩ :=
      outputReply_cases conf args expected room node
    · exact Or.inl ⟨failed, only⟩
    · exact Or.inr ⟨block, message, ready, only, (sixpTransFind_some found).1, state ▸ kinds⟩
  unfold prepareOutput
  split
  · exact (outputRequest_cases conf args room node).imp_right Or.inl
  · exact (reply .requestReceived (Or.inl rfl)).imp_right Or.inr
  · exact (reply .responseReceived (Or.inr rfl)).imp_right Or.inr
  · exact Or.inl ⟨rfl, OnlyNbrs.refl node⟩

variable {react : SixpNode → SixpNode}

theorem Keeps.sixtopOutput
    (reaction : ∀ node, Keeps waiting node (react node)) (destAddr : LinkAddr) (message : List UInt8)
    (block : Nat) (immediate : Option MacTxStatus) :
    Keeps waiting node (sixtopOutput destAddr message block immediate react node) := by
  unfold Sixp.sixtopOutput
  cases immediate with
  | none => exact Keeps.of_same rfl rfl
  | some status =>
    have sent : Keeps waiting node { node with outbox := node.outbox ++ [(destAddr, message)] } :=
      Keeps.of_same rfl rfl
    exact sent.trans (Keeps.macCallback reaction _ status _)

theorem Keeps.prepareOutput (room : NbrRoom) (node : SixpNode) :
    Keeps waiting node (prepareOutput conf args room node).2 := by
  rcases prepareOutput_cases conf args room node with ⟨-, only⟩ |
    ⟨before, sf, pkt, block, message, only, alone, fresh, started⟩ | ⟨-, -, -, only, -⟩
  · exact only.keeps
  · rw [started]
    exact only.keeps.trans (Keeps.addTrans fresh alone (newTrans_legal sf pkt args.destAddr _)
      (newTrans_armed ..))
  · exact only.keeps

theorem prepareOutput_block {args : SixpOutputArgs} {room : NbrRoom} {block : Nat}
    {message : List UInt8} {after : SixpNode}
    (ready : prepareOutput conf args room node = (some (block, message), after)) :
    block ∈ after.transList := by
  rcases prepareOutput_cases conf args room node with ⟨failed, -⟩ |
    ⟨before, sf, pkt, fresh, text, -, -, -, started⟩ | ⟨chosen, text, reply, ⟨nbrs, only⟩, member, -⟩
  · rw [ready] at failed
    cases failed
  · rw [ready] at started
    simp only [Prod.mk.injEq, Option.some.injEq] at started
    obtain ⟨⟨rfl, -⟩, rfl⟩ := started
    simp [SixpNode.addTrans, listAdd]
  · rw [ready] at reply only
    simp only [Option.some.injEq, Prod.mk.injEq] at reply only
    obtain ⟨rfl, -⟩ := reply
    rw [only]
    exact member

theorem Keeps.sixpOutput
    (reaction : ∀ node, Keeps waiting node (react node)) (args : SixpOutputArgs) (room : NbrRoom)
    (immediate : Option MacTxStatus) (node : SixpNode) :
    Keeps waiting node (sixpOutput conf args room immediate react node).2 := by
  have prepared : Keeps waiting node (Sixp.prepareOutput conf args room node).2 :=
    Keeps.prepareOutput conf args room node
  unfold Sixp.sixpOutput
  split
  next result => rwa [result] at prepared
  next block message after result =>
    rw [result] at prepared
    exact (prepared.trans (Keeps.setCallback waiting after block args.func)).trans
      (Keeps.sixtopOutput reaction args.destAddr message block immediate)

theorem Keeps.sfCalls (calls : SfCalls) : ∀ node, Keeps waiting node (calls.run conf node) := by
  induction calls with
  | done => exact fun node => Keeps.refl waiting node
  | output args room immediate reaction next reactionIh nextIh =>
    intro node
    exact (Keeps.sixpOutput conf reactionIh args room immediate node).trans (nextIh _)

section

variable (pkt : SixpPkt) (srcAddr : LinkAddr)

theorem Keeps.inputRequest (node : SixpNode) :
    Keeps waiting node (inputRequest conf pkt srcAddr node).2 := by
  unfold Sixp.inputRequest
  split
  · exact Keeps.sendBackError conf waiting _ _ _ _ _ node
  · have reset : Keeps waiting node (if pkt.code = sixpPktCmdClear ∧ (node.nbrs srcAddr).isSome then
        node.setNextSeqno srcAddr 0 else node) := by
      split <;> exact Keeps.of_same rfl rfl
    dsimp only
    generalize (if pkt.code = sixpPktCmdClear ∧ (node.nbrs srcAddr).isSome then
        node.setNextSeqno srcAddr 0 else node) = cleared at reset
    refine reset.trans ?_
    rcases sixpTransAlloc_cases conf pkt srcAddr .responder cleared with failed |
      ⟨sf, block, -, alone, fresh, allocated⟩
    · rw [failed]
      exact Keeps.sendBackError conf waiting _ _ _ _ _ cleared
    · rw [allocated]
      dsimp only
      rw [addTrans_requestReceived]
      have added : Keeps waiting cleared (cleared.addTrans block
          (entered .requestReceived (newTrans sf pkt srcAddr .responder cleared.nextUid))) :=
        Keeps.addTrans fresh alone (receivedTrans_legal sf pkt srcAddr _) (entered_armed _ _)
      split
      · exact added.trans (Keeps.sendBackError conf waiting _ _ _ _ _ _)
      · exact added

theorem Keeps.inputReply {newState : SixpTransState} (sending : newState ≠ .requestReceived)
    (node : SixpNode) : Keeps waiting node (inputReply pkt srcAddr newState node).2 := by
  unfold Sixp.inputReply
  split
  · exact Keeps.refl waiting node
  next block found =>
    have member := (sixpTransFind_some found).1
    split
    · exact Keeps.refl waiting node
    · by_cases allowed : transitionAllowed (node.trans block) newState
      · have transit : Keeps waiting node (sixpTransTransitState block newState node).2 :=
          Keeps.transit newState member sending
        rw [transitState_allowed allowed] at transit ⊢
        exact transit
      · rw [transitState_refused allowed]
        exact Keeps.transit .terminating member (by decide)

theorem Keeps.acceptInput (node : SixpNode) :
    Keeps waiting node (acceptInput conf pkt srcAddr node).2 := by
  unfold Sixp.acceptInput
  split
  · exact Keeps.inputRequest conf pkt srcAddr node
  · exact Keeps.inputReply pkt srcAddr (by decide) node
  · exact Keeps.inputReply pkt srcAddr (by decide) node
  · exact Keeps.refl waiting node

end

theorem Keeps.sixpInput
    (reaction : ∀ node, Keeps waiting node (react node)) (buf : List UInt8) (srcAddr : LinkAddr)
    (node : SixpNode) : Keeps waiting node (sixpInput conf buf srcAddr react node) := by
  unfold Sixp.sixpInput
  split
  · split
    · exact Keeps.sendBackError conf waiting _ _ _ _ _ node
    · exact Keeps.refl waiting node
  next pkt _ =>
    split
    · exact Keeps.sendBackError conf waiting _ _ _ _ _ node
    next sf _ =>
      have accepted : Keeps waiting node (Sixp.acceptInput conf pkt srcAddr node).2 :=
        Keeps.acceptInput conf pkt srcAddr node
      split
      next result => rwa [result] at accepted
      next block after result =>
        rw [result] at accepted
        split
        · refine accepted.trans (Keeps.trans ?_ (reaction _))
          exact Keeps.of_same rfl rfl
        · exact accepted

end calls

theorem TableInv.stopTimer {node : SixpNode} {block : Nat} (inv : TableInv none node) :
    TableInv (some block) (node.setTimer block none) := by
  refine inv.write ⟨rfl, rfl, rfl, rfl, rfl, rfl, rfl⟩ ?_ ?_ fun _ _ _ => Option.some_ne_none _
  · intro member
    obtain ⟨path, current, started, mode⟩ := inv.legal block member
    exact ⟨⟨path, current, started, mode⟩, fun settled => absurd rfl settled⟩
  · intro absent
    exact ⟨rfl, (inv.dead block absent).2⟩

section

variable {node : SixpNode} {block : Nat} (inv : TableInv (some block) node)
  (member : block ∈ node.transList)
include inv member

theorem TableInv.startTimer (running : (node.trans block).state ≠ .terminating) :
    TableInv none (node.setTimer block (some .handleTransTimeout)) := by
  refine inv.write ⟨rfl, rfl, rfl, rfl, rfl, rfl, rfl⟩ ?_ (fun absent => absurd member absent) ?_
  · intro _
    obtain ⟨path, current, started, mode⟩ := inv.legal block member
    exact ⟨⟨path, current, started, mode⟩,
      fun _ => ⟨Option.some_ne_none _, fun terminating => absurd terminating running⟩⟩
  · intro other away _ waits
    exact away (Option.some.inj waits)

theorem TableInv.terminate : TableInv none (sixpTransTransitState block .terminating node).2 := by
  refine inv.transit member (by decide) rfl ?_
  intro other away _ waits
  exact away (Option.some.inj waits)

theorem TableInv.free (stopped : (node.trans block).timer = none)
    (terminated : (node.trans block).state = .terminating) :
    TableInv none (freeTrans block node) := by
  have list : (freeTrans block node).transList = node.transList.filter (· ≠ block) := by
    change node.transList.erase block = _
    rw [inv.unique.erase_eq_filter]
    apply List.filter_congr
    intro other _
    rw [decide_not]
    rfl
  have trans : ∀ other, (freeTrans block node).trans other = node.trans other := by
    intro other
    rw [SixpNode.trans, freeTrans, Memb.membFree_mem, SixpNode.trans]
  have inside : ∀ other, other ∈ (freeTrans block node).transList ↔
      other ∈ node.transList ∧ other ≠ block := by
    intro other
    rw [list, List.mem_filter, decide_eq_true_eq]
  constructor
  · rw [list]
    exact inv.used.membFree member
  · rw [list]
    exact inv.unique.filter _
  · intro first firstMember second secondMember equal
    rw [trans, trans] at equal
    exact inv.peers first ((inside first).mp firstMember).1 second
      ((inside second).mp secondMember).1 equal
  · intro other kept
    rw [trans]
    exact inv.legal other ((inside other).mp kept).1
  · intro other kept _
    obtain ⟨known, away⟩ := (inside other).mp kept
    rw [trans]
    exact inv.armed other known fun waits => away (Option.some.inj waits)
  · intro other gone
    rw [trans]
    by_cases equal : other = block
    · subst equal
      exact ⟨stopped, Or.inl terminated⟩
    · exact inv.dead other fun known => gone ((inside other).mpr ⟨known, equal⟩)

end

theorem processState_cases (block : Nat) (node : SixpNode) :
    processState block node = node ∨
      processState block node = (sixpTransTransitState block .terminating node).2 := by
  unfold processState
  dsimp only
  split
  · split
    · exact Or.inr rfl
    · exact Or.inl rfl
  · split
    · exact Or.inr rfl
    · exact Or.inl rfl
  · exact Or.inr rfl
  · exact Or.inr rfl
  · exact Or.inl rfl

theorem terminate_state (block : Nat) (node : SixpNode) :
    ((sixpTransTransitState block .terminating node).2.trans block).state = .terminating := by
  rw [transitState_allowed rfl, writeTrans_same]
  rfl

theorem TableInv.process {node : SixpNode} {block : Nat} (inv : TableInv none node)
    (member : block ∈ node.transList) : TableInv none (processTrans block node) := by
  have stopped : TableInv (some block) (node.setTimer block none) := inv.stopTimer
  unfold processTrans
  dsimp only
  split
  next terminated =>
    exact stopped.free member (by rw [SixpNode.setTimer, writeTrans_same]) terminated
  next running =>
    rcases processState_cases block (node.setTimer block none) with same | ended
    · rw [same, if_pos running]
      exact stopped.startTimer member running
    · rw [ended, if_neg (not_not.mpr (terminate_state block _))]
      exact stopped.terminate member

theorem TableInv.timeout {node : SixpNode} {block : Nat} {react : SixpNode → SixpNode}
    (inv : TableInv (some block) node) (member : block ∈ node.transList)
    (reaction : ∀ node, Keeps (some block) node (react node)) :
    TableInv none (handleTransTimeout react block node) := by
  have told : Keeps (some block) node
      (if (node.trans block).sf.hasTimeout then react node else node) := by
    split
    · exact reaction node
    · exact Keeps.refl _ node
  obtain ⟨after, growth⟩ := told inv
  exact after.terminate (growth block member).1

theorem TableInv.step {node : SixpNode} (inv : TableInv none node) (event : SixpEvent) :
    TableInv none (sixpStep conf node event) := by
  cases event with
  | input buf srcAddr calls =>
    exact (Keeps.sixpInput conf (Keeps.sfCalls conf calls) buf srcAddr node inv).1
  | sfCalls calls => exact (Keeps.sfCalls conf calls node inv).1
  | sent index status calls =>
    simp only [sixpStep]
    split
    · exact inv
    next packet _ =>
      have taken : TableInv none { node with inFlight := node.inFlight.eraseIdx index } :=
        inv.of_same rfl rfl
      exact (Keeps.macCallback (Keeps.sfCalls conf calls) packet status _ taken).1
  | timer block calls =>
    simp only [sixpStep]
    have member : (node.trans block).timer ≠ none → block ∈ node.transList := by
      intro set
      by_contra absent
      exact set (inv.dead block absent).1
    split
    · exact inv
    next set =>
      exact (inv.stopTimer).timeout (member (by rw [set]; exact Option.some_ne_none _))
        (Keeps.sfCalls conf calls)
    next set => exact inv.process (member (by rw [set]; exact Option.some_ne_none _))
  | nbrRemoved addr => exact inv.of_same rfl rfl

theorem sixpInit_table : TableInv none (sixpInit conf) := by
  refine ⟨⟨?_, ?_⟩, List.nodup_nil, ?_, ?_, ?_, ?_⟩
  · intro block
    rfl
  · intro block member
    exact absurd member (List.not_mem_nil)
  · intro block member
    exact absurd member (List.not_mem_nil)
  · intro block member
    exact absurd member (List.not_mem_nil)
  · intro block member
    exact absurd member (List.not_mem_nil)
  · intro block _
    exact ⟨rfl, Or.inr rfl⟩

theorem sixp_transaction_table_safe (events : List SixpEvent) :
    let node := Run.final (sixpStep conf) (sixpInit conf) events
    (∀ block ∈ node.transList, ∀ other ∈ node.transList,
      (node.trans block).peerAddr = (node.trans other).peerAddr → block = other) ∧
    (∀ block ∈ node.transList, LegalTrans (node.trans block)) ∧
    (∀ block ∈ node.transList, Armed (node.trans block)) ∧
    node.transMemb.num - node.transMemb.membNumfree = node.transList.length := by
  intro node
  have inv : TableInv none node := Run.invariant_of_step (TableInv none)
    (fun _ event holds => holds.step conf event) events (sixpInit conf) (sixpInit_table conf)
  refine ⟨inv.peers, inv.legal, ?_, ?_⟩
  · intro block member
    exact inv.armed block member (Option.some_ne_none block)
  · have free := inv.used.membNumfree_add inv.unique
    omega

end MultiPhyTsch.Sixp
