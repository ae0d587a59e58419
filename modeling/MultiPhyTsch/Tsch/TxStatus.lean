import MultiPhyTsch.Tsch.QueueRuns
import MultiPhyTsch.Tsch.ScheduleCalls

/-! When is `MAC_TX_OK` true? `mac_tx_status` is a static variable that only the prepared path
of `tsch_tx_slot` writes, so a slot that could not prepare its frame reports what an earlier
slot left there; and a frame that could not be secured is sent as it is. -/

namespace MultiPhyTsch

variable (conf : TschConf)

def QueueEvent.Honest (log : List QueueEvent) : QueueEvent → Prop
  | reported _ status sent => status = .ok → sent = true
  | callback uid status _ => status = .ok → reported uid .ok true ∈ log
  | _ => True

def Queue.Truthful (queue : Queue) (p : Nat) : Prop :=
  (queue.packetMemb.mem p).ret = .ok →
    .reported (queue.packetMemb.mem p).uid .ok true ∈ queue.log

structure StatusInv (queue : Queue) : Prop where
  honest : ∀ event ∈ queue.log, event.Honest queue.log
  queued : ∀ n index p, (queue.neighborMemb.mem n).txArray index = some p → queue.Truthful p
  dequeued : ∀ index p, queue.dequeuedArray index = some p → queue.Truthful p

theorem QueueEvent.Honest.mono {log more : List QueueEvent} {event : QueueEvent}
    (honest : event.Honest log) (sub : ∀ earlier ∈ log, earlier ∈ more) : event.Honest more := by
  cases event with
  | callback uid status transmissions => exact fun ok => sub _ (honest ok)
  | _ => exact honest

variable {queue next : Queue} {events : List QueueEvent}

theorem Queue.Truthful.grow {p : Nat}
    (truthful : queue.Truthful p) (log : next.log = queue.log ++ events)
    (same : (next.packetMemb.mem p).ret = .ok → (queue.packetMemb.mem p).ret = .ok ∧
      (next.packetMemb.mem p).uid = (queue.packetMemb.mem p).uid) : next.Truthful p := by
  intro ok
  obtain ⟨before, uid⟩ := same ok
  rw [uid, log]
  exact List.mem_append_left events (truthful before)

theorem StatusInv.step (inv : StatusInv queue)
    (log : next.log = queue.log ++ events) (honest : ∀ event ∈ events, event.Honest queue.log)
    (blocks : ∀ p, queue.Truthful p → next.Truthful p)
    (queued : ∀ n index p, (next.neighborMemb.mem n).txArray index = some p →
      (queue.neighborMemb.mem n).txArray index = some p ∨ next.Truthful p)
    (dequeued : ∀ index p, next.dequeuedArray index = some p →
      queue.dequeuedArray index = some p ∨ next.Truthful p) : StatusInv next := by
  have sub : ∀ earlier ∈ queue.log, earlier ∈ next.log := by
    intro earlier member
    rw [log]
    exact List.mem_append_left events member
  refine ⟨?_, ?_, ?_⟩
  · intro event member
    rw [log] at member
    rcases List.mem_append.mp member with old | new
    · exact (inv.honest event old).mono sub
    · exact (honest event new).mono sub
  · intro n index p stored
    rcases queued n index p stored with old | new
    · exact blocks p (inv.queued n index p old)
    · exact new
  · intro index p stored
    rcases dequeued index p stored with old | new
    · exact blocks p (inv.dequeued index p old)
    · exact new

theorem StatusInv.record (inv : StatusInv queue)
    (log : next.log = queue.log ++ events) (honest : ∀ event ∈ events, event.Honest queue.log)
    (mem : next.packetMemb.mem = queue.packetMemb.mem)
    (queued : ∀ n index p, (next.neighborMemb.mem n).txArray index = some p →
      (queue.neighborMemb.mem n).txArray index = some p)
    (dequeued : next.dequeuedArray = queue.dequeuedArray) : StatusInv next := by
  apply inv.step log honest
  · intro p truthful
    apply truthful.grow log
    rw [mem]
    exact fun ok => ⟨ok, rfl⟩
  · intro n index p stored
    exact .inl (queued n index p stored)
  · intro index p stored
    rw [dequeued] at stored
    exact .inl stored

theorem StatusInv.silent (inv : StatusInv queue) (log : next.log = queue.log)
    (blocks : ∀ p, (next.packetMemb.mem p).ret = .ok → (queue.packetMemb.mem p).ret = .ok ∧
      (next.packetMemb.mem p).uid = (queue.packetMemb.mem p).uid)
    (queued : ∀ n, (next.neighborMemb.mem n).txArray = (queue.neighborMemb.mem n).txArray)
    (dequeued : next.dequeuedArray = queue.dequeuedArray) : StatusInv next := by
  have grown : next.log = queue.log ++ [] := log.trans (List.append_nil _).symm
  apply inv.step grown
  · intro event absent
    cases absent
  · intro p truthful
    exact truthful.grow grown (blocks p)
  · intro n index p stored
    exact .inl (queued n ▸ stored)
  · intro index p stored
    exact .inl (dequeued ▸ stored)

theorem StatusInv.core (inv : StatusInv queue) (same : next.core = queue.core) :
    StatusInv next := by
  have coreInv : StatusInv queue.core := ⟨inv.honest, inv.queued, inv.dequeued⟩
  rw [← same] at coreInv
  exact ⟨coreInv.honest, coreInv.queued, coreInv.dequeued⟩

theorem writeNeighbor_txArray {queue : Queue} {n : Nat} (change : TschNeighbor → TschNeighbor)
    (same : ∀ nbr, (change nbr).txArray = nbr.txArray) {other index p : Nat}
    (stored : ((queue.neighborMemb.write n change).mem other).txArray index = some p) :
    (queue.neighborMemb.mem other).txArray index = some p := by
  by_cases equal : other = n
  · subst equal
    rw [Memb.write_same, same] at stored
    exact stored
  · rwa [Memb.write_other _ _ equal] at stored

variable {node : Node}

theorem tschQueueRemovePacketFromQueue_status (n : Option Nat)
    (inv : StatusInv node.queue) : StatusInv (tschQueueRemovePacketFromQueue n node).2.queue := by
  refine tschQueueRemovePacketFromQueue_cases (motive := fun next => StatusInv next.queue) n inv
    fun n ring removed => ?_
  apply inv.record rfl
  · intro event member
    obtain ⟨p, _, rfl⟩ := List.mem_map.mp member
    exact trivial
  · rfl
  · intro other index p stored
    exact writeNeighbor_txArray (fun nbr => { nbr with txRingbuf := ring }) (fun _ => rfl) stored
  · rfl

theorem tschQueueFreePacket_status (p : Option Nat) (inv : StatusInv node.queue) :
    StatusInv (tschQueueFreePacket p node).queue := by
  rcases p with _ | p
  · exact inv
  · apply inv.record rfl
    · intro event member
      rw [List.mem_singleton.mp member]
      exact trivial
    · exact Memb.membFree_mem _ p
    · exact fun _ _ _ stored => stored
    · rfl

theorem macCallSentCallback_status {p : Nat} (inv : StatusInv node.queue)
    (truthful : node.queue.Truthful p) : StatusInv (macCallSentCallback p node).queue := by
  apply inv.record rfl
  · intro event member
    rw [List.mem_singleton.mp member]
    exact truthful
  · rfl
  · exact fun _ _ _ stored => stored
  · rfl

theorem writePacket_status {p : Nat} {change : TschPacket → TschPacket} (inv : StatusInv node.queue)
    (same : ∀ packet, (change packet).ret = .ok →
      packet.ret = .ok ∧ (change packet).uid = packet.uid) :
    StatusInv (node.writePacket p change).queue := by
  apply inv.silent
  · rfl
  · intro other
    by_cases equal : other = p
    · subst equal
      simp only [Node.writePacket, Memb.write_same]
      exact same _
    · simp [Node.writePacket, Memb.write_other _ _ equal]
  · exact fun _ => rfl
  · rfl

variable (n : Nat)

theorem tschQueueFlushNbrQueueFrom_status : ∀ (fuel : Nat) {node : Node},
    StatusInv node.queue → StatusInv (tschQueueFlushNbrQueueFrom fuel n node).queue := by
  intro fuel
  induction fuel with
  | zero =>
    intro node inv
    exact inv
  | succ fuel ih =>
    intro node inv
    rw [tschQueueFlushNbrQueueFrom]
    split
    · exact inv
    · have removed := tschQueueRemovePacketFromQueue_status (some n) inv
      generalize tschQueueRemovePacketFromQueue (some n) node = result at removed ⊢
      rcases result with ⟨_ | p, next⟩
      · exact ih removed
      · have failed : StatusInv (next.writePacket p fun packet =>
            { packet with ret := .err }).queue := by
          apply writePacket_status removed
          intro packet ok
          cases ok
        have notOk : ((next.writePacket p fun packet =>
            { packet with ret := .err }).packet p).ret = .err := by
          simp [Node.packet, Node.writePacket]
        apply ih
        apply tschQueueFreePacket_status
        apply macCallSentCallback_status failed
        intro ok
        exact (MacTxStatus.noConfusion (notOk.symm.trans ok))

section

variable (inv : StatusInv node.queue)
include inv

theorem tschQueueFlushNbrQueue_status :
    StatusInv (tschQueueFlushNbrQueue n node).queue :=
  tschQueueFlushNbrQueueFrom_status n _ inv

theorem tschQueueReset_status :
    StatusInv (tschQueueReset conf node).queue := by
  simp only [tschQueueReset]
  split
  · refine List.foldlRecOn (motive := fun next : Node => StatusInv next.queue) _ _ inv ?_
    intro next kept n _
    exact (tschQueueFlushNbrQueue_status n kept).core (tschQueueBackoffReset_core conf n _)
  · exact inv

theorem tschQueueRemoveNbr_status :
    StatusInv (tschQueueRemoveNbr n node).queue := by
  simp only [tschQueueRemoveNbr, tschGetLock]
  cases node.lock.tschLocked with
  | true => exact inv
  | false =>
    have unlisted : StatusInv (tschReleaseLock { node with
        lock := { node.lock with tschLocked := true, tschLockRequested := false }
        queue := { node.queue with
          neighborList := listRemove node.queue.neighborList n } }).queue :=
      ⟨inv.honest, inv.queued, inv.dequeued⟩
    have flushed := tschQueueFlushNbrQueue_status n unlisted
    refine ⟨flushed.honest, ?_, flushed.dequeued⟩
    intro other index p stored
    simp only [Bool.not_false, if_true, Memb.membFree_mem] at stored
    exact flushed.queued other index p stored

theorem tschQueueFreeUnusedNeighbors_status :
    StatusInv (tschQueueFreeUnusedNeighbors node).queue := by
  simp only [tschQueueFreeUnusedNeighbors]
  split
  · refine List.foldlRecOn (motive := fun next : Node => StatusInv next.queue) _ _ inv ?_
    intro next kept n _
    split
    · exact tschQueueRemoveNbr_status n kept
    · exact kept
  · exact inv

end

theorem tschTxProcessPendingFrom_status : ∀ (fuel : Nat) {node : Node},
    StatusInv node.queue → StatusInv (tschTxProcessPendingFrom fuel node).queue := by
  intro fuel
  induction fuel with
  | zero =>
    intro node inv
    exact inv
  | succ fuel ih =>
    intro node inv
    rw [tschTxProcessPendingFrom]
    split
    · rename_i dequeuedIndex _
      split
      · rename_i p stored
        have truthful := inv.dequeued _ p stored
        have freed := tschQueueFreePacket_status (some p) (macCallSentCallback_status inv truthful)
        have swept := tschQueueFreeUnusedNeighbors_status freed
        exact ih ⟨swept.honest, swept.queued, swept.dequeued⟩
      · exact inv
    · exact inv

theorem tschQueueAddNbr_status (addr : LinkAddr) (inv : StatusInv node.queue) :
    StatusInv (tschQueueAddNbr conf addr node).2.queue := by
  simp only [tschQueueAddNbr, tschGetLock]
  cases tschQueueGetNbr addr node with
  | some n => exact inv
  | none =>
    cases node.lock.tschLocked with
    | true => exact inv
    | false =>
      simp only [Bool.not_false, if_true]
      rcases alloc : node.queue.neighborMemb.membAlloc with ⟨_ | n, memb⟩
      · exact inv
      · have mem : memb.mem = node.queue.neighborMemb.mem := by
          have same := Memb.membAlloc_mem node.queue.neighborMemb
          rwa [alloc] at same
        refine ⟨inv.honest, ?_, inv.dequeued⟩
        intro other index p stored
        by_cases equal : other = n
        · subst equal
          simp [tschReleaseLock, newNeighbor] at stored
        · simp only [tschReleaseLock, Memb.write_other _ _ equal, mem] at stored
          exact inv.queued other index p stored

theorem tschQueueAddPacket_status (addr : LinkAddr) (maxTransmissions : UInt8) (sent : Option Nat)
    (ptr : Nat) (qb : Option Queuebuf) (inv : StatusInv node.queue) :
    StatusInv (tschQueueAddPacket conf addr maxTransmissions sent ptr qb node).2.queue := by
  simp only [tschQueueAddPacket]
  split
  case isFalse => exact inv
  case isTrue =>
    have added := tschQueueAddNbr_status conf addr inv
    generalize tschQueueAddNbr conf addr node = result at added ⊢
    obtain ⟨n, next⟩ := result
    rcases n with _ | n
    · exact added
    dsimp only at added ⊢
    rcases (next.neighbor n).txRingbuf.ringbufindexPeekPut with _ | putIndex
    · exact added
    dsimp only
    rcases alloc : next.queue.packetMemb.membAlloc with ⟨_ | p, memb⟩
    · exact added
    have mem : memb.mem = next.queue.packetMemb.mem := by
      have same := Memb.membAlloc_mem next.queue.packetMemb
      rwa [alloc] at same
    rcases qb with _ | qb
    · -- the block goes back to the pool with its result untouched
      apply added.silent
      · rfl
      · intro other
        simp only [Memb.membFree_mem]
        by_cases equal : other = p
        · subst equal
          simp [mem]
        · simp [Memb.write_other _ _ equal, mem]
      · exact fun _ => rfl
      · rfl
    · apply added.step rfl
      · intro event member
        rw [List.mem_singleton.mp member]
        exact trivial
      · intro other truthful
        apply truthful.grow rfl
        by_cases equal : other = p
        · subst equal
          simp [Node.record, Node.writeNeighbor]
        · simp [Node.record, Node.writeNeighbor, Memb.write_other _ _ equal, mem]
      · intro m index q stored
        by_cases equal : m = n
        · subst equal
          simp only [Node.record, Node.writeNeighbor, Memb.write_same, Function.update_apply]
            at stored
          split at stored
          · cases stored
            refine .inr fun ok => ?_
            simp [Node.record, Node.writeNeighbor] at ok
          · exact .inl stored
        · simp only [Node.record, Node.writeNeighbor, Memb.write_other _ _ equal] at stored
          exact .inl stored
      · exact fun _ _ stored => .inl stored

def txPrepared (ready : Bool) (packetLen : UInt8) (input : TxInput) : Bool :=
  ready && input.prepare packetLen = 0

theorem txStatus_eq_ok (previous : MacTxStatus) (ready isBroadcast : Bool) (seqno packetLen : UInt8)
    (input : TxInput) :
    txStatus conf previous ready isBroadcast seqno packetLen input = .ok ↔
      txSent conf ready isBroadcast seqno packetLen input = true ∨
        (txPrepared ready packetLen input = false ∧ previous = .ok) := by
  simp only [txStatus, txSent, txPrepared]
  by_cases prepared : (ready && decide (input.prepare packetLen = 0)) = true
  · simp only [prepared, if_true, Bool.true_and]
    by_cases transmitted : input.transmit packetLen = .ok
    · cases isBroadcast with
      | true => simp [transmitted]
      | false => cases accepted : ackAccepted conf seqno input.ack <;> simp [transmitted]
    · simp [transmitted]
  · simp [prepared]

/-- A slot that does not prepare its frame does not find `MAC_TX_OK` left by an earlier one, and
a frame that goes out and counts as sent was not one that had to be secured and could not be,
nor acknowledged by something else than an Enhanced ACK. -/
def TxHonest (n p : Nat) (input : TxInput) (node : Node) : Prop :=
  ∀ qb ∈ (node.packet p).qb,
    let requested := burstLinkRequested conf n node
    let frame := txFrame n requested.1 input qb.data requested.2
    let packet := requested.2.packet p
    let packetLen := txPacketLen conf packet frame.2 input node.mac
    (txPrepared frame.1 packetLen input = false → node.slot.macTxStatus ≠ .ok) ∧
    (txSent conf frame.1 (node.neighbor n).isBroadcast (qb.data.getD 2 0) packetLen input = true →
      txUnsecured conf packet frame.2 input node.mac = false ∧
        ((node.neighbor n).isBroadcast || input.ack.isEnhancedAck) = true)

theorem burstLinkRequested_onlyQueue (node : Node) :
    OnlyQueue node (burstLinkRequested conf n node).2 := by
  simp only [burstLinkRequested]
  split
  · exact OnlyQueue.packetCount conf _ node
  · exact OnlyQueue.refl node

theorem txAttempt_honest (n p : Nat) (link : TschLink) (input : TxInput) (node : Node) :
    ((txAttempt conf n p link input node).status = .ok →
      (txAttempt conf n p link input node).sent = true) ↔ TxHonest conf n p input node := by
  simp only [txAttempt, TxHonest]
  rcases (node.packet p).qb with _ | qb
  · simp
  · have only := burstLinkRequested_onlyQueue conf n node
    generalize burstLinkRequested conf n node = requested at only ⊢
    obtain ⟨requested, next⟩ := requested
    simp only [Option.mem_def, Option.some.injEq, forall_eq'] at only ⊢
    generalize txFrame n requested input qb.data next = frame
    obtain ⟨ready, data⟩ := frame
    simp only [txStatus_eq_ok, only.slot_eq, only.mac_eq, Bool.and_eq_true, Bool.not_eq_true']
    generalize txPacketLen conf (next.packet p) data input node.mac = packetLen
    generalize txUnsecured conf (next.packet p) data input node.mac = unsecured
    have sentPrepared : txSent conf ready (node.neighbor n).isBroadcast (qb.data.getD 2 0) packetLen
        input = true → txPrepared ready packetLen input = true := by
      simp only [txSent, txPrepared, Bool.and_eq_true]
      exact fun sent => sent.1.1
    generalize txSent conf ready (node.neighbor n).isBroadcast (qb.data.getD 2 0) packetLen input =
      sent at sentPrepared ⊢
    generalize txPrepared ready packetLen input = prepared at sentPrepared ⊢
    cases sent <;> cases prepared <;> simp_all

theorem burstLinkRequested_status (inv : StatusInv node.queue) :
    StatusInv (burstLinkRequested conf n node).2.queue := by
  simp only [burstLinkRequested]
  split
  · simp only [tschQueuePacketCount]
    split
    · have added := tschQueueAddNbr_status conf (node.neighbor n).addr inv
      generalize tschQueueAddNbr conf (node.neighbor n).addr node = result at added ⊢
      rcases result with ⟨_ | m, next⟩
      · exact added
      · exact added
    · exact inv
  · exact inv

theorem txAttempt_status (n p : Nat) (link : TschLink) (input : TxInput)
    (inv : StatusInv node.queue) : StatusInv (txAttempt conf n p link input node).node.queue := by
  simp only [txAttempt]
  split
  · exact inv
  · have requested := burstLinkRequested_status conf n inv
    generalize burstLinkRequested conf n node = result at requested ⊢
    have written : ∀ qb, StatusInv (result.2.writePacket p fun packet =>
        { packet with qb := qb }).queue := by
      intro qb
      apply writePacket_status requested
      exact fun _ ok => ⟨ok, rfl⟩
    dsimp only
    split
    · rw [txAcknowledged_queue]
      exact written _
    · exact written _

theorem storeStatus_status (p : Nat) {attempt : TxAttempt} (inv : StatusInv attempt.node.queue)
    (honest : attempt.status = .ok → attempt.sent = true) :
    StatusInv (storeStatus p attempt).queue ∧ (storeStatus p attempt).queue.Truthful p := by
  have truthful : (storeStatus p attempt).queue.Truthful p := by
    intro ok
    simp only [storeStatus, Node.record, Node.writePacket, Memb.write_same] at ok ⊢
    simp only [ok, honest ok, Node.packet, List.mem_append, List.mem_singleton, or_true]
  refine ⟨?_, truthful⟩
  apply inv.step rfl
  · intro event member
    rw [List.mem_singleton.mp member]
    exact honest
  · intro other before
    by_cases equal : other = p
    · exact equal ▸ truthful
    · apply before.grow rfl
      simp [storeStatus, Node.record, Node.writePacket, Memb.write_other _ _ equal]
  · exact fun _ _ _ stored => .inl stored
  · exact fun _ _ stored => .inl stored

theorem tschQueueRemovePacketFromQueue_log (n : Option Nat) (node : Node) :
    (tschQueueRemovePacketFromQueue n node).2.queue.packetMemb = node.queue.packetMemb ∧
    ∃ events, (tschQueueRemovePacketFromQueue n node).2.queue.log = node.queue.log ++ events :=
  tschQueueRemovePacketFromQueue_cases
    (motive := fun next => next.queue.packetMemb = node.queue.packetMemb ∧
      ∃ events, next.queue.log = node.queue.log ++ events)
    n ⟨rfl, [], (List.append_nil _).symm⟩ fun _ _ _ => ⟨rfl, _, rfl⟩

theorem txReport_status {dequeuedIndex : UInt8} {n p : Nat} {link : TschLink} {random : UInt16}
    {attempt : TxAttempt} (inv : StatusInv attempt.node.queue)
    (honest : attempt.status = .ok → attempt.sent = true) :
    StatusInv (txReport conf dequeuedIndex n p link random attempt).queue := by
  obtain ⟨stored, truthful⟩ := storeStatus_status p inv honest
  have core := tschQueuePacketSent_core conf n p link attempt.status random (storeStatus p attempt)
  simp only [txReport]
  generalize tschQueuePacketSent conf n p link attempt.status random (storeStatus p attempt) =
    result at core ⊢
  obtain ⟨inQueue, next⟩ := result
  cases inQueue with
  | true => exact stored.core core
  | false =>
    have removed := (tschQueueRemovePacketFromQueue_status (some n) stored).core core
    obtain ⟨memb, events, log⟩ :=
      tschQueueRemovePacketFromQueue_log (some n) (storeStatus p attempt)
    have still : (tschQueueRemovePacketFromQueue (some n)
        (storeStatus p attempt)).2.queue.Truthful p := by
      apply truthful.grow log
      rw [memb]
      exact fun ok => ⟨ok, rfl⟩
    have kept : next.queue.core.Truthful p := core ▸ still
    apply removed.step rfl
    · intro event member
      rw [List.mem_singleton.mp member]
      exact trivial
    · intro q before
      exact before.grow rfl fun ok => ⟨ok, rfl⟩
    · exact fun _ _ _ stored => .inl stored
    · intro index q pushed
      simp only [pushDequeued, Node.record, Function.update_apply] at pushed
      split at pushed
      · cases pushed
        refine .inr (Queue.Truthful.grow ?_ rfl fun ok => ⟨ok, rfl⟩)
        exact kept
      · exact .inl pushed

theorem txReport_log (dequeuedIndex : UInt8) (n p : Nat) (link : TschLink) (random : UInt16)
    (attempt : TxAttempt) :
    .reported (attempt.node.packet p).uid attempt.status attempt.sent ∈
      (txReport conf dequeuedIndex n p link random attempt).queue.log := by
  have recorded : .reported (attempt.node.packet p).uid attempt.status attempt.sent ∈
      (storeStatus p attempt).queue.log := by
    simp [storeStatus, Node.record, Node.packet, Node.writePacket]
  have core := tschQueuePacketSent_core conf n p link attempt.status random (storeStatus p attempt)
  simp only [txReport]
  generalize tschQueuePacketSent conf n p link attempt.status random (storeStatus p attempt) =
    result at core ⊢
  obtain ⟨inQueue, next⟩ := result
  have logEq := congrArg Queue.log core
  cases inQueue with
  | true =>
    simp only [Queue.core, if_true] at logEq
    rw [← logEq] at recorded
    exact recorded
  | false =>
    obtain ⟨_, events, log⟩ := tschQueueRemovePacketFromQueue_log (some n) (storeStatus p attempt)
    simp only [Queue.core, Bool.false_eq_true, if_false, log] at logEq
    change _ ∈ next.queue.log ++ _
    rw [logEq]
    exact List.mem_append_left _ (List.mem_append_left events recorded)

theorem tschTxSlot_status (n p : Nat) (link : TschLink) (input : TxInput)
    (inv : StatusInv node.queue)
    (honest : node.queue.dequeuedRingbuf.ringbufindexPeekPut ≠ none → TxHonest conf n p input node) :
    StatusInv (tschTxSlot conf n p link input node).queue := by
  simp only [tschTxSlot]
  split
  · rename_i dequeuedIndex room
    apply txReport_status conf (txAttempt_status conf n p link input inv)
    exact (txAttempt_honest conf n p link input node).mpr (honest (by simp [room]))
  · exact inv

/-- `MAC_TX_OK` is reported, kept for the callback and handed to the callback only for packets
sent in the slot that reported them. -/
structure HonestStatus (queue : Queue) : Prop where
  reported : ∀ uid sent, .reported uid .ok sent ∈ queue.log → sent = true
  dequeued : ∀ index p, queue.dequeuedArray index = some p → (queue.packetMemb.mem p).ret = .ok →
    .reported (queue.packetMemb.mem p).uid .ok true ∈ queue.log
  callback : ∀ uid transmissions, .callback uid .ok transmissions ∈ queue.log →
    .reported uid .ok true ∈ queue.log

theorem StatusInv.honestStatus {queue : Queue} (inv : StatusInv queue) : HonestStatus queue := by
  refine ⟨?_, inv.dequeued, ?_⟩
  · intro uid sent member
    exact inv.honest _ member rfl
  · intro uid transmissions member
    exact inv.honest _ member rfl

def QueueStep.TxHonest (node : Node) : QueueStep → Prop
  | slot input => ∀ entry ∈ txEntry conf input node,
      entry.node.queue.dequeuedRingbuf.ringbufindexPeekPut ≠ none →
        MultiPhyTsch.TxHonest conf entry.neighbor entry.packet input.tx entry.node
  | _ => True

theorem QueueStep.apply_status {step : QueueStep} (inv : StatusInv node.queue)
    (honest : step.TxHonest conf node) : StatusInv (step.apply conf node).queue := by
  cases step with
  | addPacket addr maxTransmissions sent ptr qb =>
    exact tschQueueAddPacket_status conf addr maxTransmissions sent ptr qb inv
  | addNbr addr => exact tschQueueAddNbr_status conf addr inv
  | flags n isTimeSource txLinksCount dedicatedTxLinksCount =>
    exact inv.core (Queue.core_write n _ fun _ => ⟨rfl, rfl, rfl, rfl⟩)
  | slot input =>
    have entered := tschSlotOperation_entry conf input node
    simp only [QueueStep.TxHonest] at honest
    rcases transmits : txEntry conf input node with _ | entry
    · rw [transmits] at entered
      exact inv.core entered.core_eq
    · rw [transmits] at entered honest
      have before := inv.core entered.1.core_eq
      have sent := tschTxSlot_status conf entry.neighbor entry.packet entry.link input.tx before
        (honest entry rfl)
      exact sent.core entered.2.core_eq
  | start attempt retries =>
    exact inv.core (tschSlotOperationStart_quiet conf attempt retries node).core_eq
  | processPending => exact tschTxProcessPendingFrom_status _ inv
  | freeUnusedNeighbors => exact tschQueueFreeUnusedNeighbors_status inv
  | reset => exact tschQueueReset_status conf inv
  | elsewhere requested sched phy mac currentLink => exact inv

theorem QueueStep.refuted {step : QueueStep} (dishonest : ¬ step.TxHonest conf node) :
    ¬ HonestStatus (step.apply conf node).queue := by
  cases step with
  | slot input =>
    have entered := tschSlotOperation_entry conf input node
    simp only [QueueStep.TxHonest, not_forall] at dishonest
    obtain ⟨entry, isEntry, room, dishonest⟩ := dishonest
    rw [isEntry] at entered
    rw [← txAttempt_honest conf entry.neighbor entry.packet entry.link, Classical.not_imp,
      Bool.not_eq_true] at dishonest
    obtain ⟨dequeuedIndex, free⟩ := Option.ne_none_iff_exists'.mp room
    have logged := txReport_log conf dequeuedIndex entry.neighbor entry.packet entry.link
      input.tx.random
      (txAttempt conf entry.neighbor entry.packet entry.link input.tx entry.node)
    rw [dishonest.1, dishonest.2] at logged
    have same := congrArg Queue.log entered.2.core_eq
    simp only [Queue.core, tschTxSlot, free] at same
    rw [← same] at logged
    intro honest
    cases honest.reported _ _ logged
  | _ => exact (dishonest trivial).elim

theorem tschQueueInit_status : StatusInv (tschQueueInit conf (Node.boot conf)).queue := by
  have cleared : StatusInv (Node.cleared conf).queue := by
    refine ⟨?_, ?_, ?_⟩
    · intro event absent
      cases absent
    · intro n index p stored
      cases stored
    · intro index p stored
      cases stored
  have eb := tschQueueAddNbr_status conf tschEbAddress cleared
  have broadcast := tschQueueAddNbr_status conf tschBroadcastAddress eb
  exact ⟨broadcast.honest, broadcast.queued, broadcast.dequeued⟩

theorem honestStatus_iff (steps : List QueueStep) :
    Run.Always (QueueStep.apply conf) (fun node => HonestStatus node.queue)
        (tschQueueInit conf (Node.boot conf)) steps ↔
      Run.Meets (QueueStep.apply conf) (fun node step => step.TxHonest conf node)
        (tschQueueInit conf (Node.boot conf)) steps := by
  have allowed : Run.Meets (QueueStep.apply conf) (fun _ _ => True)
      (tschQueueInit conf (Node.boot conf)) steps :=
    Run.meets_of_forall (fun _ _ => trivial) steps _
  exact Run.always_iff_meets (fun node : Node => StatusInv node.queue) (fun _ inv => inv.honestStatus)
    (fun _ _ inv _ honest => QueueStep.apply_status conf inv honest)
    (fun _ _ _ _ dishonest => QueueStep.refuted conf dishonest) steps _ (tschQueueInit_status conf)
    allowed

/-- The first transmission of a node fails in `prepare`. The static status is still 0, which is
`MAC_TX_OK`: the packet is dequeued and its callback told that it was sent. -/
theorem unprepared_reported_ok :
    (Run.final (QueueStep.apply cc1200Conf) (tschQueueInit cc1200Conf (Node.boot cc1200Conf))
      [.addPacket (Vector.replicate 8 2) 3 none 0 (some ⟨[0x41, 0xd8, 7], 0xffff, 0xffff, 0⟩),
        .elsewhere false oneTxLink default
          { tschIsAssociated := true, tschIsCoordinator := true } (some 0),
        .slot { (default : SlotInput) with
          tx := { (default : TxInput) with prepare := fun _ => 1 } },
        .processPending]).queue.log =
      [.accepted 0 (Vector.replicate 8 2), .reported 0 .ok false,
        .left 0 (Vector.replicate 8 2), .dequeued 0, .callback 0 .ok 1, .freed 0] := by
  decide

end MultiPhyTsch
