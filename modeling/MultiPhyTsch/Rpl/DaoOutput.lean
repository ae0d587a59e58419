import MultiPhyTsch.Rpl.DaoAck
import MultiPhyTsch.Rpl.Hysteresis
import MultiPhyTsch.Rpl.PreferredParent

/-! The DAO that a node sends (`rpl_icmp6_dao_output`). The address of the parent is looked up
before the state is updated and copied into the message after that. -/

namespace MultiPhyTsch.Rpl

variable (conf : RplConf)

structure DaoSender where
  node : RplNode
  daoCurrSeqno : UInt8
  globalAddress : Option UipIpaddr

structure DaoMessage where
  dest : UipIpaddr
  payload : List UInt8
deriving DecidableEq, Repr

def rplOptionTarget : UInt8 := 5

def rplOptionTransit : UInt8 := 6

namespace RplNode

/-- What `rpl_neighbor_get_ipaddr` points to: an item of the IPv6 neighbor cache. -/
def ipaddrItem (node : RplNode) (nbr : Option Nat) : Option Nat :=
  node.tables.getFromLladdr .ds6Neighbors (node.rplNeighborGetLladdr nbr)

def nextParent (node : RplNode) : Option Nat :=
  if node.currInstance.dag.state = .poisoning then none
  else if node.isRoot then node.currInstance.dag.preferredParent
  else node.selectBest conf

end RplNode

namespace DaoSender

/-- `rpl_dag_update_state`: a DAO is scheduled, under the next number, when there is a new
parent. -/
def rplDagUpdateState (sender : DaoSender) : DaoSender :=
  let node := sender.node.rplDagUpdateState conf
  let parent := node.currInstance.dag.preferredParent
  { sender with
    node := node
    daoCurrSeqno :=
      if parent ≠ sender.node.currInstance.dag.preferredParent ∧ parent ≠ none ∧
          node.currInstance.mop ≠ 0 then RplNode.rplLollipopIncrement sender.daoCurrSeqno
      else sender.daoCurrSeqno }

def daoPayload (withDaoAck : Bool) (instanceId daoCurrSeqno lifetime : UInt8)
    (target dagId parentIpaddr : UipIpaddr) : List UInt8 :=
  [instanceId, if withDaoAck && lifetime != 0 then rplDaoKFlag else 0, 0, daoCurrSeqno] ++
    ([rplOptionTarget, 2 + 16, 0, 128] ++ target.toList) ++
    ([rplOptionTransit, 20, 0, 0, 0, lifetime] ++
      (dagId.toList.take 8 ++ parentIpaddr.toList.drop 8))

def rplIcmp6DaoOutput (withDaoAck : Bool) (lifetime : UInt8) (sender : DaoSender) :
    DaoSender × Option DaoMessage :=
  let parentIpaddr := sender.node.ipaddrItem sender.node.currInstance.dag.preferredParent
  let sender := sender.rplDagUpdateState conf
  let inst := sender.node.currInstance
  (sender,
    if !inst.used then none
    else if inst.dag.preferredParent.isNone then none
    else
      match sender.globalAddress, parentIpaddr with
      | some target, some item =>
        if inst.mop = 0 then none
        else some ⟨inst.dag.dagId, daoPayload withDaoAck inst.instanceId sender.daoCurrSeqno
          lifetime target inst.dag.dagId (sender.node.ds6Nbr item).ipaddr⟩
      | _, _ => none)

end DaoSender

def DaoMessage.parentAddr (message : DaoMessage) : List UInt8 := (message.payload.drop 30).take 16

/-- The message names the parent of the sender by its global address, which has the prefix of the
DAG, and carries the lifetime and the number of the sender. -/
structure DaoMessage.Current (sender : DaoSender) (lifetime : UInt8) (message : DaoMessage) :
    Prop where
  parent : ∃ nbr ipaddr, sender.node.currInstance.dag.preferredParent = some nbr ∧
    sender.node.rplNeighborGetIpaddr (some nbr) = some ipaddr ∧
    message.parentAddr = sender.node.currInstance.dag.dagId.toList.take 8 ++ ipaddr.toList.drop 8
  lifetime : message.payload[29]? = some lifetime
  sequence : message.payload[3]? = some sender.daoCurrSeqno

theorem updateState_frame (node : RplNode) :
    let next := node.rplDagUpdateState conf
    next.ds6Nbr = node.ds6Nbr ∧ next.currInstance.dag.dagId = node.currInstance.dag.dagId ∧
      next.currInstance.mop = node.currInstance.mop ∧
      next.currInstance.used = node.currInstance.used ∧
      (node.currInstance.used = true →
        next.currInstance.dag.preferredParent = node.nextParent conf) := by
  unfold RplNode.rplDagUpdateState RplNode.nextParent
  dsimp only
  split
  next used =>
    split
    · obtain ⟨lockedMap, routers, changed⟩ := setPreferredParent_frame conf none node
      rw [changed]
      exact ⟨rfl, rfl, rfl, rfl, fun _ => rfl⟩
    · split
      · exact ⟨rfl, rfl, rfl, rfl, fun _ => rfl⟩
      · obtain ⟨target, lockedMap, routers, items, chosen, updated, -⟩ := updateParent_frame conf node
        rw [updated, chosen]
        exact ⟨rfl, rfl, rfl, rfl, fun _ => rfl⟩
  next unused => exact ⟨rfl, rfl, rfl, rfl, fun used => absurd used unused⟩

theorem updateState_getIpaddr (node : RplNode) (nbr : Option Nat) :
    (node.rplDagUpdateState conf).rplNeighborGetIpaddr nbr = node.rplNeighborGetIpaddr nbr := by
  obtain ⟨lockedMap, tables⟩ := rplDagUpdateState_tables conf node
  unfold RplNode.rplNeighborGetIpaddr RplNode.uipDs6NbrIpaddrFromLladdr RplNode.rplNeighborGetLladdr
  rw [tables, (updateState_frame conf node).1]
  rfl

theorem daoPayload_fields (withDaoAck : Bool) (instanceId daoCurrSeqno lifetime : UInt8)
    (target dagId parentIpaddr : UipIpaddr) :
    let payload := DaoSender.daoPayload withDaoAck instanceId daoCurrSeqno lifetime target dagId
      parentIpaddr
    payload[3]? = some daoCurrSeqno ∧ payload[29]? = some lifetime ∧
      (payload.drop 30).take 16 = dagId.toList.take 8 ++ parentIpaddr.toList.drop 8 := by
  have front : ([instanceId, if withDaoAck && lifetime != 0 then rplDaoKFlag else 0, 0,
      daoCurrSeqno] ++ ([rplOptionTarget, 2 + 16, 0, 128] ++ target.toList)).length = 24 := by
    simp
  have halves : (dagId.toList.take 8 ++ parentIpaddr.toList.drop 8).length = 16 := by
    simp
  refine ⟨rfl, ?_, ?_⟩
  · rw [DaoSender.daoPayload, List.getElem?_append_right (by rw [front]; omega), front]
    rfl
  · rw [DaoSender.daoPayload, show 30 = 24 + 6 by rfl, ← List.drop_drop, List.drop_left' front]
    exact List.take_of_length_le (Nat.le_of_eq halves)

theorem daoOutput_eq_some_iff (withDaoAck : Bool) (lifetime : UInt8) (sender : DaoSender)
    (message : DaoMessage) :
    (sender.rplIcmp6DaoOutput conf withDaoAck lifetime).2 = some message ↔
      sender.node.currInstance.used = true ∧ sender.node.nextParent conf ≠ none ∧
      sender.node.currInstance.mop ≠ 0 ∧ ∃ target item, sender.globalAddress = some target ∧
        sender.node.ipaddrItem sender.node.currInstance.dag.preferredParent = some item ∧
        message = ⟨sender.node.currInstance.dag.dagId, DaoSender.daoPayload withDaoAck
          (sender.rplDagUpdateState conf).node.currInstance.instanceId
          (sender.rplDagUpdateState conf).daoCurrSeqno lifetime target
          sender.node.currInstance.dag.dagId (sender.node.ds6Nbr item).ipaddr⟩ := by
  obtain ⟨ds6Nbr, dagId, mop, used, parent⟩ := updateState_frame conf sender.node
  unfold DaoSender.rplIcmp6DaoOutput
  dsimp only
  change (if (!(sender.node.rplDagUpdateState conf).currInstance.used) = true then none
    else if (sender.node.rplDagUpdateState conf).currInstance.dag.preferredParent.isNone = true
      then none
    else match sender.globalAddress,
        sender.node.ipaddrItem sender.node.currInstance.dag.preferredParent with
      | some target, some item =>
        if (sender.node.rplDagUpdateState conf).currInstance.mop = 0 then none
        else some (DaoMessage.mk (sender.node.rplDagUpdateState conf).currInstance.dag.dagId
          (DaoSender.daoPayload withDaoAck _ _ lifetime target
            (sender.node.rplDagUpdateState conf).currInstance.dag.dagId
            ((sender.node.rplDagUpdateState conf).ds6Nbr item).ipaddr))
      | _, _ => none) = some message ↔ _
  rw [used, mop, dagId, ds6Nbr]
  by_cases inUse : sender.node.currInstance.used = true
  · rw [parent inUse]
    cases next : sender.node.nextParent conf with
    | none => simp [inUse]
    | some nbr =>
      cases sender.globalAddress with
      | none => simp [inUse]
      | some target =>
        cases sender.node.ipaddrItem sender.node.currInstance.dag.preferredParent with
        | none => simp [inUse]
        | some item =>
          by_cases off : sender.node.currInstance.mop = 0
          · simp [inUse, off]
          · simp [inUse, off, eq_comm]
  · simp [inUse]

/-- A DAO names the parent at the moment of sending if and only if the update keeps the parent or
the address of the new one ends like that of the old one. Lifetime and number are always right. -/
theorem daoOutput_current_iff (withDaoAck : Bool) (lifetime : UInt8) (sender : DaoSender) :
    (∀ message, (sender.rplIcmp6DaoOutput conf withDaoAck lifetime).2 = some message →
      message.Current (sender.rplDagUpdateState conf) lifetime) ↔
    (sender.node.currInstance.used = true → sender.node.currInstance.mop ≠ 0 →
      sender.globalAddress ≠ none → ∀ nbr item, sender.node.nextParent conf = some nbr →
        sender.node.ipaddrItem sender.node.currInstance.dag.preferredParent = some item →
          ∃ ipaddr, sender.node.rplNeighborGetIpaddr (some nbr) = some ipaddr ∧
            ipaddr.toList.drop 8 = (sender.node.ds6Nbr item).ipaddr.toList.drop 8) := by
  obtain ⟨-, dagId, -, -, parent⟩ := updateState_frame conf sender.node
  constructor
  · intro current used mop address nbr item next captured
    obtain ⟨target, address⟩ := Option.ne_none_iff_exists'.mp address
    have sent := (daoOutput_eq_some_iff conf withDaoAck lifetime sender _).mpr
      ⟨used, by simp [next], mop, target, item, address, captured, rfl⟩
    obtain ⟨nbr', ipaddr, chosen, known, names⟩ := (current _ sent).parent
    have same := (parent used).symm.trans chosen
    rw [next, Option.some.injEq] at same
    subst same
    rw [DaoMessage.parentAddr, (daoPayload_fields _ _ _ _ _ _ _).2.2] at names
    change (sender.node.rplDagUpdateState conf).rplNeighborGetIpaddr (some nbr) = some ipaddr
      at known
    change _ = (sender.node.rplDagUpdateState conf).currInstance.dag.dagId.toList.take 8 ++ _
      at names
    rw [updateState_getIpaddr] at known
    rw [dagId] at names
    exact ⟨ipaddr, known, (List.append_cancel_left names).symm⟩
  · intro agrees message sent
    obtain ⟨used, next, mop, target, item, address, captured, rfl⟩ :=
      (daoOutput_eq_some_iff conf withDaoAck lifetime sender message).mp sent
    obtain ⟨nbr, next⟩ := Option.ne_none_iff_exists'.mp next
    obtain ⟨ipaddr, known, ends⟩ := agrees used mop (by simp [address]) nbr item next captured
    obtain ⟨sequence, lifetime', names⟩ := daoPayload_fields withDaoAck
      (sender.rplDagUpdateState conf).node.currInstance.instanceId
      (sender.rplDagUpdateState conf).daoCurrSeqno lifetime target
      sender.node.currInstance.dag.dagId (sender.node.ds6Nbr item).ipaddr
    refine ⟨⟨nbr, ipaddr, (parent used).trans next, ?_, ?_⟩, lifetime', sequence⟩
    · exact (updateState_getIpaddr conf sender.node (some nbr)).trans known
    · refine names.trans ?_
      change _ = (sender.node.rplDagUpdateState conf).currInstance.dag.dagId.toList.take 8 ++ _
      rw [dagId, ends]

def switchingNode : DaoSender :=
  { node :=
      { tornNode [0, 1] with
        ds6Nbr := fun nbr => ⟨parentIpaddr.set 15 (UInt8.ofNat nbr), .reachable⟩
        currInstance := { (tornNode [0, 1]).currInstance with mop := 1 } }
    daoCurrSeqno := 240
    globalAddress := some #v[0x20, 0x80, 0, 0, 0, 0, 0, 0, 2, 2, 2, 2, 2, 2, 2, 2] }

theorem switchingNode_names_old_parent :
    ¬ ∀ message, (switchingNode.rplIcmp6DaoOutput rplConf true 30).2 = some message →
      message.Current (switchingNode.rplDagUpdateState rplConf) 30 := by
  intro current
  have sent := (daoOutput_eq_some_iff rplConf true 30 switchingNode _).mpr
    ⟨rfl, by decide, by decide, _, 0, rfl, by decide, rfl⟩
  obtain ⟨nbr, ipaddr, chosen, known, names⟩ := (current _ sent).parent
  have switched : (switchingNode.rplDagUpdateState rplConf).node.currInstance.dag.preferredParent =
      some 1 := by
    decide
  obtain rfl := Option.some.inj (switched.symm.trans chosen)
  have second : (switchingNode.rplDagUpdateState rplConf).node.rplNeighborGetIpaddr (some 1) =
      some (parentIpaddr.set 15 1) := by
    decide
  obtain rfl := Option.some.inj (second.symm.trans known)
  rw [DaoMessage.parentAddr, (daoPayload_fields _ _ _ _ _ _ _).2.2] at names
  exact absurd (List.append_inj_right names rfl) (by decide)

end MultiPhyTsch.Rpl
