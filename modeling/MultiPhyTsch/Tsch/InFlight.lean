import MultiPhyTsch.Tsch.PacketConservation
import MultiPhyTsch.Tsch.ScheduleCalls

/-! `tsch_tx_slot` with its yield points, interleaved with the main thread. While the slot is
suspended the main thread goes on, and an interrupt of the slot can come between any two of the
steps below. A step of the main thread that takes the TSCH lock waits in `tsch_get_lock` for the
end of the slot, so it is not taken while a packet is in flight. -/

namespace MultiPhyTsch

variable (conf : TschConf)

/-- Where `tsch_tx_slot` yields. The yield before CCA comes in the same state as the one before
the transmission. -/
inductive TxPhase where
  | beforeTx
  | beforeAck
deriving DecidableEq, Repr

structure Flight where
  neighbor : Nat
  packet : Nat
  dequeuedIndex : UInt8
  burstLinkRequested : Bool
  isBroadcast : Bool
  seqno : UInt8
  packetLen : UInt8
  unsecured : Bool
  phase : TxPhase
deriving DecidableEq, Repr

/-- What `current_link` points to. NULL is dereferenced by the code; the default record stands
for what is read there. -/
def pointedLink (node : Node) : TschLink := (node.slot.currentLink.map node.link).getD default

/-- `tsch_tx_slot` up to its first yield, or to its end when the frame cannot be prepared. -/
def txStart (dequeuedIndex : UInt8) (n p : Nat) (input : TxInput) (node : Node) :
    Node × Option Flight :=
  match (node.packet p).qb with
  | none =>
    (txReport conf dequeuedIndex n p (pointedLink node) input.random ⟨.errFatal, false, node⟩, none)
  | some qb =>
    let isBroadcast := (node.neighbor n).isBroadcast
    let (requested, node) := burstLinkRequested conf n node
    let (ready, data) := txFrame n requested input qb.data node
    let seqno := qb.data.getD 2 0
    let packetLen := txPacketLen conf (node.packet p) data input node.mac
    let unsecured := txUnsecured conf (node.packet p) data input node.mac
    let node := node.writePacket p fun packet => { packet with qb := some { qb with data := data } }
    if ready && input.prepare packetLen = 0 then
      (node, some ⟨n, p, dequeuedIndex, requested, isBroadcast, seqno, packetLen, unsecured,
        .beforeTx⟩)
    else
      (txReport conf dequeuedIndex n p (pointedLink node) input.random
        ⟨node.slot.macTxStatus, false, node⟩, none)

namespace Flight

variable (flight : Flight)

def report (random : UInt16) (attempt : TxAttempt) : Node :=
  txReport conf flight.dequeuedIndex flight.neighbor flight.packet (pointedLink attempt.node) random
    attempt

def resume (input : TxInput) (node : Node) : Node × Option Flight :=
  match flight.phase with
  | .beforeTx =>
    if input.transmit flight.packetLen = .ok then
      if flight.isBroadcast then
        (flight.report conf input.random ⟨.ok, !flight.unsecured, node⟩, none)
      else (node, some { flight with phase := .beforeAck })
    else (flight.report conf input.random ⟨.err, false, node⟩, none)
  | .beforeAck =>
    if ackAccepted conf flight.seqno input.ack then
      (flight.report conf input.random ⟨.ok, !flight.unsecured && input.ack.isEnhancedAck,
        txAcknowledged conf flight.neighbor (pointedLink node) flight.burstLinkRequested input
          node⟩, none)
    else (flight.report conf input.random ⟨.noack, false, node⟩, none)

end Flight

variable {node next : Node}

theorem RadioWork.pointedLink_eq (work : RadioWork node next) :
    pointedLink next = pointedLink node := by
  have same : next.link = node.link := by
    funext l
    rw [Node.link, Node.link, work.sched_eq]
  rw [pointedLink, pointedLink, work.currentLink_eq, same]

def resumed (input : TxInput) (running : Node × Option Flight) : Node × Option Flight :=
  match running with
  | (node, some flight) => flight.resume conf input node
  | (node, none) => (node, none)

theorem resumed_txStart {dequeuedIndex : UInt8} (n p : Nat) (input : TxInput) (node : Node)
    (announced : node.queue.dequeuedRingbuf.ringbufindexPeekPut = some dequeuedIndex) :
    resumed conf input (resumed conf input (txStart conf dequeuedIndex n p input node)) =
      (tschTxSlot conf n p (pointedLink node) input node, none) := by
  simp only [tschTxSlot, announced, txStart, txAttempt]
  rcases (node.packet p).qb with _ | qb
  · rfl
  · have burst := RadioWork.burst conf n node
    generalize burstLinkRequested conf n node = result at burst ⊢
    obtain ⟨requested, next⟩ := result
    dsimp only at burst ⊢
    rw [← burst.pointedLink_eq]
    generalize txFrame n requested input qb.data next = frame
    obtain ⟨ready, data⟩ := frame
    dsimp only
    generalize (node.neighbor n).isBroadcast = isBroadcast
    generalize qb.data.getD 2 0 = seqno
    generalize txPacketLen conf (next.packet p) data input next.mac = packetLen
    generalize txUnsecured conf (next.packet p) data input next.mac = unsecured
    have same : pointedLink (next.writePacket p fun packet =>
        { packet with qb := some { qb with data := data } }) = pointedLink next := rfl
    have status : (next.writePacket p fun packet =>
        { packet with qb := some { qb with data := data } }).slot.macTxStatus =
        next.slot.macTxStatus := rfl
    generalize (next.writePacket p fun packet =>
      { packet with qb := some { qb with data := data } }) = written at same status ⊢
    rw [← same, ← status]
    by_cases prepared : (ready && decide (input.prepare packetLen = 0)) = true
    · simp only [txStatus, txSent, prepared, if_true, Bool.true_and]
      by_cases transmitted : input.transmit packetLen = .ok
      · cases isBroadcast with
        | true => simp [resumed, Flight.resume, Flight.report, transmitted]
        | false =>
          have acknowledged := (RadioWork.acknowledged conf n (pointedLink written) requested input
            written).pointedLink_eq
          by_cases accepted : ackAccepted conf seqno input.ack = true
          · simp [resumed, Flight.resume, Flight.report, transmitted, accepted, acknowledged]
          · simp [resumed, Flight.resume, Flight.report, transmitted, accepted]
      · simp [resumed, Flight.resume, Flight.report, transmitted]
    · simp [txStatus, txSent, prepared, resumed]

def endPass (input : SlotInput) (node : Node) : Node :=
  { endSlot conf input node with
    lock := { (endSlot conf input node).lock with tschInSlotOperation := false } }

theorem endPass_quiet (input : SlotInput) (node : Node) :
    Quiet node (endPass conf input node) :=
  (Quiet.endSlot conf input node).trans ⟨rfl, rfl, rfl⟩

theorem tschSlotOperation_tx {input : SlotInput} {entry : TxEntry} {node : Node}
    (found : txEntry conf input node = some entry) :
    tschSlotOperation conf input node = endPass conf input
      (tschTxSlot conf entry.neighbor entry.packet (pointedLink entry.node) input.tx entry.node) := by
  simp only [txEntry] at found
  rcases current : node.slot.currentLink with _ | l
  · simp only [current] at found
    cases found
  · simp only [current] at found
    split at found
    · cases found
    · rename_i active
      simp only [Bool.or_eq_true, Bool.not_eq_true', not_or, Bool.not_eq_false,
        Bool.not_eq_true] at active
      obtain ⟨other, chosen, linked⟩ := Option.bind_eq_some_iff.mp found
      simp only [tschSlotOperation, active.1, if_true, skipOrRunSlot, current, active.2,
        Bool.false_eq_true, if_false, runSlot, chosen, endPass]
      have executed := executeLink_entry conf other input (chooseLink conf l (enterSlot node))
      rw [linked] at executed
      have same : entry.link = pointedLink entry.node := by
        simp only [linkEntry] at linked
        split at linked
        · cases linked
        · split at linked
          · cases linked
            simp only [pointedLink, selectPhy]
            by_cases burst : (chooseLink conf l (enterSlot node)).slot.burstLinkScheduled = true
            · simp only [burst, if_true, chosen]
              rfl
            · simp only [burst, chosen]
              rfl
          · cases linked
      rw [executed.2, same]

/-- Where the main thread is. `popping p` is the loop of `tsch_tx_process_pending` after the
packet `p` was freed, `flushing p` the loop of `tsch_queue_flush_nbr_queue` after `p` was taken
out of its queue. -/
inductive QueuePc where
  | idle
  | popping (p : Nat)
  | flushing (p : Nat)
deriving DecidableEq, Repr

structure Threads where
  node : Node
  flight : Option Flight
  main : QueuePc

/-- `slot` is the interrupt at the start of a slot and `resume` the one that ends a yield. The
rest is the main thread: `tsch_queue_add_packet`, `tsch_queue_add_nbr`, the rounds of
`tsch_tx_process_pending` (`deliver`, `popDequeued`), of `tsch_queue_free_unused_neighbors`
(`removeUnused`) and of `tsch_queue_reset` (`flushTake`, `flushFree`, `backoffReset`), and what
it writes elsewhere, such as `tsch_is_associated` in `tsch_disassociate`. -/
inductive ThreadStep where
  | slot (input : SlotInput)
  | resume (input : SlotInput)
  | addPacket (addr : LinkAddr) (maxTransmissions : UInt8) (sent : Option Nat) (ptr : Nat)
      (qb : Option Queuebuf)
  | addNbr (addr : LinkAddr)
  | deliver
  | popDequeued
  | removeUnused (n : Nat)
  | flushTake (n : Nat)
  | flushFree
  | backoffReset (n : Nat)
  | flags (n : Nat) (isTimeSource : Bool) (txLinksCount dedicatedTxLinksCount : UInt8)
  | start (attempt : Attempt) (retries : List Attempt)
  | elsewhere (requested : Bool) (sched : Schedule) (phy : Phy) (mac : Mac)
      (currentLink : Option Nat)

def Threads.ran (state : Threads) (input : SlotInput) (running : Node × Option Flight) : Threads :=
  match running with
  | (node, some flight) => { state with node := node, flight := some flight }
  | (node, none) => { state with node := endPass conf input node, flight := none }

def Threads.proceeds (state : Threads) (addr : LinkAddr) : Bool :=
  state.flight.isNone || (tschQueueGetNbr addr state.node).isSome

def ThreadStep.apply (state : Threads) : ThreadStep → Threads
  | slot input =>
    match state.flight, txEntry conf input state.node with
    | some _, _ => state
    | none, none => { state with node := tschSlotOperation conf input state.node }
    | none, some entry =>
      match entry.node.queue.dequeuedRingbuf.ringbufindexPeekPut with
      | some dequeuedIndex => state.ran conf input
          (txStart conf dequeuedIndex entry.neighbor entry.packet input.tx entry.node)
      | none => { state with node := endPass conf input entry.node }
  | resume input =>
    match state.flight with
    | some flight => state.ran conf input (flight.resume conf input.tx state.node)
    | none => state
  | addPacket addr maxTransmissions sent ptr qb =>
    if state.main = .idle ∧ state.proceeds addr then
      { state with node :=
        (tschQueueAddPacket conf addr maxTransmissions sent ptr qb state.node).2 }
    else state
  | addNbr addr =>
    if state.main = .idle ∧ state.proceeds addr then
      { state with node := (tschQueueAddNbr conf addr state.node).2 }
    else state
  | deliver =>
    match state.main, state.node.queue.dequeuedRingbuf.ringbufindexPeekGet.bind fun index =>
      state.node.queue.dequeuedArray index.toNat with
    | .idle, some p =>
      { state with
        node := tschQueueFreePacket (some p) (macCallSentCallback p state.node)
        main := .popping p }
    | _, _ => state
  | popDequeued =>
    match state.main with
    | .popping _ =>
      { state with
        node := { state.node with queue := { state.node.queue with
          dequeuedRingbuf := state.node.queue.dequeuedRingbuf.ringbufindexGet.2 } }
        main := .idle }
    | _ => state
  | removeUnused n =>
    if state.flight = none ∧ n ∈ state.node.queue.neighborList ∧ neighborUnused state.node n then
      { state with node := tschQueueRemoveNbr n state.node }
    else state
  | flushTake n =>
    if state.main = .idle ∧ n ∈ state.node.queue.neighborList then
      match tschQueueRemovePacketFromQueue (some n) state.node with
      | (some p, node) => { state with node := node, main := .flushing p }
      | (none, node) => { state with node := node }
    else state
  | flushFree =>
    match state.main with
    | .flushing p =>
      let node := state.node.writePacket p fun packet => { packet with ret := .err }
      { state with
        node := tschQueueFreePacket (some p) (macCallSentCallback p node)
        main := .idle }
    | _ => state
  | backoffReset n => { state with node := tschQueueBackoffReset conf n state.node }
  | flags n isTimeSource txLinksCount dedicatedTxLinksCount =>
    { state with node := state.node.writeNeighbor n fun nbr =>
      { nbr with
        isTimeSource := isTimeSource
        txLinksCount := txLinksCount
        dedicatedTxLinksCount := dedicatedTxLinksCount } }
  | start attempt retries =>
    if state.flight = none then
      { state with node := tschSlotOperationStart conf attempt retries state.node }
    else state
  | elsewhere requested sched phy mac currentLink =>
    { state with node := { state.node with
      lock := { state.node.lock with tschLockRequested := requested }
      sched := sched, phy := phy, mac := mac
      slot := { state.node.slot with currentLink := currentLink } } }

theorem slot_uninterrupted (input : SlotInput) (node : Node) (main : QueuePc) :
    Run.final (ThreadStep.apply conf) ⟨node, none, main⟩
      [.slot input, .resume input, .resume input] =
        ⟨tschSlotOperation conf input node, none, main⟩ := by
  have pieces : ∀ (running : Node × Option Flight) (last : Node),
      resumed conf input.tx (resumed conf input.tx running) = (last, none) →
      ThreadStep.apply conf (ThreadStep.apply conf
        (Threads.ran conf ⟨node, none, main⟩ input running) (.resume input)) (.resume input) =
        ⟨endPass conf input last, none, main⟩ := by
    rintro ⟨first, _ | flight⟩ last finished
    · obtain ⟨rfl, -⟩ := Prod.mk.inj finished
      rfl
    · simp only [resumed] at finished
      simp only [Threads.ran, ThreadStep.apply]
      generalize flight.resume conf input.tx first = second at finished ⊢
      rcases second with ⟨second, _ | again⟩
      · obtain ⟨rfl, -⟩ := Prod.mk.inj finished
        rfl
      · dsimp only at finished ⊢
        rw [finished]
  simp only [Run.final]
  rcases found : txEntry conf input node with _ | entry
  · simp only [ThreadStep.apply, found]
  · rw [tschSlotOperation_tx conf found]
    rcases announced : entry.node.queue.dequeuedRingbuf.ringbufindexPeekPut with _ | dequeuedIndex
    · simp only [ThreadStep.apply, found, announced, tschTxSlot]
    · have finished := resumed_txStart conf entry.neighbor entry.packet input.tx entry.node announced
      have whole := pieces _ _ finished
      simp only [ThreadStep.apply, found, announced] at whole ⊢
      exact whole

structure Flight.Owned (flight : Flight) (node : Node) : Prop where
  listed : flight.neighbor ∈ node.queue.neighborList
  allocated : node.queue.packetMemb.count flight.packet ≠ 0
  head : ((node.neighbor flight.neighbor).txRingbuf.ringbufindexPeekGet.bind fun index =>
    (node.neighbor flight.neighbor).txArray index.toNat) = some flight.packet

structure Threads.Safe (state : Threads) : Prop where
  owned : ∀ flight ∈ state.flight, flight.Owned state.node
  dequeued_once : (dequeuedUids state.node.queue.log).Nodup
  called_once : (calledUids state.node.queue.log).Nodup

def ThreadStep.Spares (state : Threads) : ThreadStep → Prop
  | flushTake n => state.main = .idle → ∀ flight ∈ state.flight, flight.neighbor ≠ n
  | _ => True

def QueuePc.taken : QueuePc → List Nat
  | flushing p => [p]
  | _ => []

def QueuePc.freed : QueuePc → List Nat
  | popping p => [p]
  | _ => []

structure ThreadInv (state : Threads) (queued : Nat → List Nat) (hand : List Nat) : Prop where
  unlocked : state.node.lock.tschLocked = false
  inv : QueueInv state.node.queue queued (hand ++ state.main.taken)
  dequeued : state.node.queue.dequeuedRingbuf.Holds state.node.queue.dequeuedArray
    (state.main.freed ++ hand)
  listed : ∀ flight ∈ state.flight, flight.neighbor ∈ state.node.queue.neighborList
  heads : ∀ flight ∈ state.flight, ∃ rest, queued flight.neighbor = flight.packet :: rest
  announced : ∀ flight ∈ state.flight,
    state.node.queue.dequeuedRingbuf.ringbufindexPeekPut = some flight.dequeuedIndex

structure SameQueues (node next : Node) : Prop where
  inv : ∀ {queued hand}, QueueInv node.queue queued hand → QueueInv next.queue queued hand
  keeps : KeepsDequeued node next
  list : next.queue.neighborList = node.queue.neighborList

theorem SameQueues.refl (node : Node) : SameQueues node node :=
  ⟨fun inv => inv, KeepsDequeued.refl node, rfl⟩

theorem Quiet.sameQueues (quiet : Quiet node next) : SameQueues node next := by
  obtain ⟨-, list, ring, array, -⟩ := Queue.fields_of_core quiet.core_eq
  exact ⟨fun inv => inv.core quiet.core_eq, ⟨quiet.locked_eq, ring, array⟩, list⟩

theorem writePacket_sameQueues (node : Node) (p : Nat) (change : TschPacket → TschPacket)
    (same : ∀ packet, (change packet).uid = packet.uid) :
    SameQueues node (node.writePacket p change) :=
  ⟨fun inv => inv.writePacket p change same, ⟨rfl, rfl, rfl⟩, rfl⟩

def Outcome (dequeuedIndex : UInt8) (n p : Nat) (node : Node)
    (running : Node × Option Flight) : Prop :=
  ∃ next, SameQueues node next ∧
    ((∃ flight : Flight, running = (next, some flight) ∧ flight.neighbor = n ∧
        flight.packet = p ∧ flight.dequeuedIndex = dequeuedIndex) ∨
      ∃ link random attempt, attempt.node = next ∧
        running = (txReport conf dequeuedIndex n p link random attempt, none))

theorem txStart_outcome (dequeuedIndex : UInt8) {n : Nat} (p : Nat) (input : TxInput) {node : Node}
    (free : node.lock.tschLocked = false) (member : n ∈ node.queue.neighborList) :
    Outcome conf dequeuedIndex n p node (txStart conf dequeuedIndex n p input node) := by
  have same := burstLinkRequested_node conf free member
  simp only [txStart]
  split
  · exact ⟨node, SameQueues.refl node, .inr ⟨_, _, _, rfl, rfl⟩⟩
  · rename_i qb stored
    generalize burstLinkRequested conf n node = burst at same ⊢
    obtain ⟨requested, next⟩ := burst
    dsimp only at same ⊢
    subst same
    have written := writePacket_sameQueues next p (fun packet => { packet with
      qb := some { qb with data := (txFrame n requested input qb.data next).2 } }) fun _ => rfl
    split
    · exact ⟨_, written, .inl ⟨_, rfl, rfl, rfl, rfl⟩⟩
    · exact ⟨_, written, .inr ⟨_, _, _, rfl, rfl⟩⟩

theorem Flight.resume_outcome (flight : Flight) (input : TxInput) (node : Node) :
    Outcome conf flight.dequeuedIndex flight.neighbor flight.packet node
      (flight.resume conf input node) := by
  have same := SameQueues.refl node
  simp only [Flight.resume]
  split
  · split
    · split
      · exact ⟨node, same, .inr ⟨_, _, _, rfl, rfl⟩⟩
      · exact ⟨node, same, .inl ⟨_, rfl, rfl, rfl, rfl⟩⟩
    · exact ⟨node, same, .inr ⟨_, _, _, rfl, rfl⟩⟩
  · split
    · have queue := txAcknowledged_queue conf flight.neighbor (pointedLink node)
        flight.burstLinkRequested input node
      have locked := (RadioWork.acknowledged conf flight.neighbor (pointedLink node)
        flight.burstLinkRequested input node).locked_eq
      refine ⟨_, ⟨?_, ⟨locked, ?_, ?_⟩, ?_⟩, .inr ⟨_, _, _, rfl, rfl⟩⟩
      · intro queued hand inv
        rw [queue]
        exact inv
      · rw [queue]
      · rw [queue]
      · rw [queue]
    · exact ⟨node, same, .inr ⟨_, _, _, rfl, rfl⟩⟩

namespace ThreadInv

variable {state : Threads} {queued : Nat → List Nat} {hand : List Nat}

theorem same (inv : ThreadInv state queued hand) {next : Node}
    (same : SameQueues state.node next) : ThreadInv { state with node := next } queued hand := by
  constructor
  · exact same.keeps.unlocked.trans inv.unlocked
  · exact same.inv inv.inv
  · rw [same.keeps.ring, same.keeps.array]
    exact inv.dequeued
  · rw [same.list]
    exact inv.listed
  · exact inv.heads
  · rw [same.keeps.ring]
    exact inv.announced

theorem grow (inv : ThreadInv state queued hand) {next : Node} {more : Nat → List Nat}
    (keeps : KeepsDequeued state.node next)
    (moreInv : QueueInv next.queue more (hand ++ state.main.taken))
    (grows : Grows state.node next queued more) : ThreadInv { state with node := next } more hand := by
  constructor
  · exact keeps.unlocked.trans inv.unlocked
  · exact moreInv
  · rw [keeps.ring, keeps.array]
    exact inv.dequeued
  · intro flight flying
    exact (grows _ (inv.listed flight flying)).1
  · intro flight flying
    obtain ⟨rest, head⟩ := inv.heads flight flying
    obtain ⟨added, longer⟩ := (grows _ (inv.listed flight flying)).2
    rw [head] at longer
    exact ⟨rest ++ added, longer.symm⟩
  · rw [keeps.ring]
    exact inv.announced

theorem ran {node before : Node} {main : QueuePc} {earlier : Option Flight}
    (inv : ThreadInv ⟨node, none, main⟩ queued hand) {dequeuedIndex : UInt8} {n p : Nat}
    {rest : List Nat} (member : n ∈ node.queue.neighborList) (head : queued n = p :: rest)
    (announced : node.queue.dequeuedRingbuf.ringbufindexPeekPut = some dequeuedIndex)
    (input : SlotInput) {running : Node × Option Flight}
    (outcome : Outcome conf dequeuedIndex n p node running) :
    ∃ more next, ThreadInv (Threads.ran conf ⟨before, earlier, main⟩ input running) more next := by
  obtain ⟨next, same, suspended | reported⟩ := outcome
  · obtain ⟨flight, rfl, rfl, rfl, rfl⟩ := suspended
    have kept := inv.same same
    refine ⟨queued, hand, kept.unlocked, kept.inv, kept.dequeued, ?_, ?_, ?_⟩
    · rintro other ⟨⟩
      exact same.list ▸ member
    · rintro other ⟨⟩
      exact ⟨rest, head⟩
    · rintro other ⟨⟩
      exact same.keeps.ring ▸ announced
  · obtain ⟨link, random, attempt, rfl, rfl⟩ := reported
    have kept := inv.same same
    have stillAnnounced := announced
    rw [← same.keeps.ring] at stillAnnounced
    have stillMember := member
    rw [← same.list] at stillMember
    obtain ⟨free, left⟩ := txReport_inv conf kept.unlocked kept.inv kept.dequeued stillMember head
      stillAnnounced (rfl : txReport conf dequeuedIndex n p link random attempt = _)
    have ended := (endPass_quiet conf input
      (txReport conf dequeuedIndex n p link random attempt)).sameQueues
    rcases left with ⟨queue, holds⟩ | ⟨queue, holds⟩
    · have landed : ThreadInv ⟨txReport conf dequeuedIndex n p link random attempt, none, main⟩
          queued hand :=
        ⟨free, queue, holds, by rintro _ ⟨⟩, by rintro _ ⟨⟩, by rintro _ ⟨⟩⟩
      exact ⟨_, _, landed.same ended⟩
    · have order : (hand ++ main.taken ++ [p]).Perm (hand ++ [p] ++ main.taken) := by
        rw [List.append_assoc, List.append_assoc]
        exact List.perm_append_comm.append_left hand
      rw [List.append_assoc] at holds
      have landed : ThreadInv ⟨txReport conf dequeuedIndex n p link random attempt, none, main⟩
          (Function.update queued n rest) (hand ++ [p]) :=
        ⟨free, queue.perm order, holds, by rintro _ ⟨⟩, by rintro _ ⟨⟩, by rintro _ ⟨⟩⟩
      exact ⟨_, _, landed.same ended⟩

section

variable (inv : ThreadInv state queued hand)
include inv

theorem slot (input : SlotInput) :
    ∃ more next, ThreadInv ((ThreadStep.slot input).apply conf state) more next := by
  obtain ⟨node, flight, main⟩ := state
  simp only [ThreadStep.apply]
  rcases flight with _ | flight
  · rcases found : txEntry conf input node with _ | entry
    · have passed := tschSlotOperation_entry conf input node
      rw [found] at passed
      exact ⟨queued, hand, inv.same passed.sameQueues⟩
    · have passed := tschSlotOperation_entry conf input node
      rw [found] at passed
      have entered := passed.1.sameQueues
      have running := inv.same entered
      obtain ⟨member, rest, head⟩ := txEntry_head conf inv.inv found
      rcases announced : entry.node.queue.dequeuedRingbuf.ringbufindexPeekPut with _ | dequeuedIndex
      · simp only [announced]
        exact ⟨queued, hand, running.same (endPass_quiet conf input entry.node).sameQueues⟩
      · rw [← entered.list] at member
        simp only [announced]
        exact ran conf running member head announced input
          (txStart_outcome conf dequeuedIndex entry.packet input.tx running.unlocked member)
  · exact ⟨queued, hand, inv⟩

theorem resume (input : SlotInput) :
    ∃ more next, ThreadInv ((ThreadStep.resume input).apply conf state) more next := by
  obtain ⟨node, flight, main⟩ := state
  simp only [ThreadStep.apply]
  rcases flight with _ | flight
  · exact ⟨queued, hand, inv⟩
  · have running : ThreadInv ⟨node, none, main⟩ queued hand :=
      ⟨inv.unlocked, inv.inv, inv.dequeued, by rintro _ ⟨⟩, by rintro _ ⟨⟩, by rintro _ ⟨⟩⟩
    obtain ⟨rest, head⟩ := inv.heads flight rfl
    exact ran conf running (inv.listed flight rfl) head (inv.announced flight rfl) input
      (flight.resume_outcome conf input.tx node)

theorem addPacket (addr : LinkAddr) (maxTransmissions : UInt8)
    (sent : Option Nat) (ptr : Nat) (qb : Option Queuebuf) :
    ∃ more, ThreadInv ((ThreadStep.addPacket addr maxTransmissions sent ptr qb).apply conf state)
      more hand := by
  simp only [ThreadStep.apply]
  split
  · obtain ⟨⟨more, added, grows⟩, keeps, -⟩ := tschQueueAddPacket_inv conf addr maxTransmissions sent
      ptr qb inv.unlocked inv.inv rfl
    exact ⟨more, inv.grow keeps added grows⟩
  · exact ⟨queued, inv⟩

theorem addNbr (addr : LinkAddr) :
    ∃ more, ThreadInv ((ThreadStep.addNbr addr).apply conf state) more hand := by
  simp only [ThreadStep.apply]
  split
  · obtain ⟨more, added, keeps, grows, -⟩ := tschQueueAddNbr_inv conf addr inv.unlocked inv.inv
    exact ⟨more, inv.grow keeps added grows⟩
  · exact ⟨queued, inv⟩

theorem deliver :
    ∃ next, ThreadInv (ThreadStep.deliver.apply conf state) queued next := by
  obtain ⟨node, flight, main⟩ := state
  simp only [ThreadStep.apply, inv.dequeued.peekGet_eq]
  cases main with
  | idle =>
    rcases hand with _ | ⟨p, rest⟩
    · exact ⟨[], inv⟩
    · have queue := inv.inv
      simp only [QueuePc.taken, List.append_nil] at queue
      have freed := deliver_inv queue (List.mem_cons_self : p ∈ p :: rest)
      rw [List.erase_cons_head] at freed
      have delivered : ThreadInv ⟨tschQueueFreePacket (some p) (macCallSentCallback p node),
          flight, .popping p⟩ queued rest := by
        refine ⟨inv.unlocked, ?_, inv.dequeued, inv.listed, inv.heads, inv.announced⟩
        simpa only [QueuePc.taken, List.append_nil] using freed
      exact ⟨rest, delivered⟩
  | popping p => exact ⟨hand, inv⟩
  | flushing p => exact ⟨hand, inv⟩

theorem popDequeued :
    ThreadInv (ThreadStep.popDequeued.apply conf state) queued hand := by
  obtain ⟨node, flight, main⟩ := state
  simp only [ThreadStep.apply]
  cases main with
  | idle => exact inv
  | flushing p => exact inv
  | popping p =>
    have holds : node.queue.dequeuedRingbuf.Holds node.queue.dequeuedArray (p :: hand) :=
      inv.dequeued
    refine ⟨inv.unlocked, inv.inv.withDequeued _ _, holds.get_cons.2.2.2, inv.listed, inv.heads, ?_⟩
    intro other flying
    exact holds.announced_get (inv.announced other flying)

theorem removeUnused (n : Nat) :
    ThreadInv ((ThreadStep.removeUnused n).apply conf state) queued hand := by
  simp only [ThreadStep.apply]
  split
  · rename_i unused
    obtain ⟨grounded, member, isUnused⟩ := unused
    obtain ⟨removed, keeps⟩ := tschQueueRemoveNbr_inv inv.unlocked inv.inv member isUnused
    have nobody : ∀ other, other ∉ state.flight := by
      rw [grounded]
      rintro other ⟨⟩
    refine ⟨keeps.unlocked.trans inv.unlocked, removed, ?_, ?_, ?_, ?_⟩
    · rw [keeps.ring, keeps.array]
      exact inv.dequeued
    · exact fun other flying => (nobody other flying).elim
    · exact fun other flying => (nobody other flying).elim
    · exact fun other flying => (nobody other flying).elim
  · exact inv

theorem flushTake {n : Nat}
    (spared : state.main = .idle → ∀ flight ∈ state.flight, flight.neighbor ≠ n) :
    ∃ more, ThreadInv ((ThreadStep.flushTake n).apply conf state) more hand := by
  obtain ⟨node, flight, main⟩ := state
  simp only [ThreadStep.apply]
  split
  · rename_i allowed
    obtain ⟨rfl, member⟩ := allowed
    have queue := inv.inv
    simp only [QueuePc.taken, List.append_nil] at queue
    rcases list : queued n with _ | ⟨p, rest⟩
    · rw [tschQueueRemovePacketFromQueue_nil queue member list]
      exact ⟨queued, inv⟩
    · obtain ⟨next, removed, popped, keeps, -, lists, -⟩ :=
        tschQueueRemovePacketFromQueue_cons inv.unlocked queue member list
      simp only [removed]
      refine ⟨_, keeps.unlocked.trans inv.unlocked, popped, ?_, ?_, ?_, ?_⟩
      · rw [keeps.ring, keeps.array]
        exact inv.dequeued
      · rw [lists]
        exact inv.listed
      · intro other flying
        rw [Function.update_of_ne (spared rfl other flying)]
        exact inv.heads other flying
      · rw [keeps.ring]
        exact inv.announced
  · exact ⟨queued, inv⟩

theorem flushFree :
    ThreadInv (ThreadStep.flushFree.apply conf state) queued hand := by
  obtain ⟨node, flight, main⟩ := state
  simp only [ThreadStep.apply]
  cases main with
  | idle => exact inv
  | popping p => exact inv
  | flushing p =>
    have queue : QueueInv node.queue queued (hand ++ [p]) := inv.inv
    have stored := queue.writePacket p (fun packet => { packet with ret := .err }) fun _ => rfl
    have freed := deliver_inv stored (List.mem_append_right hand (List.mem_singleton_self p))
    have outside : p ∉ hand := by
      have unique := (List.nodup_append.mp queue.held_nodup).2.1
      intro inside
      exact (List.nodup_append.mp unique).2.2 p inside p (List.mem_singleton_self p) rfl
    rw [List.erase_append_right _ outside, List.erase_cons_head] at freed
    exact ⟨inv.unlocked, freed, inv.dequeued, inv.listed, inv.heads, inv.announced⟩

end

theorem apply {step : ThreadStep} (inv : ThreadInv state queued hand) (spares : step.Spares state) :
    ∃ more next, ThreadInv (step.apply conf state) more next := by
  cases step with
  | slot input => exact inv.slot conf input
  | resume input => exact inv.resume conf input
  | addPacket addr maxTransmissions sent ptr qb =>
    obtain ⟨more, added⟩ := inv.addPacket conf addr maxTransmissions sent ptr qb
    exact ⟨more, hand, added⟩
  | addNbr addr =>
    obtain ⟨more, added⟩ := inv.addNbr conf addr
    exact ⟨more, hand, added⟩
  | deliver => exact ⟨queued, inv.deliver conf⟩
  | popDequeued => exact ⟨queued, hand, inv.popDequeued conf⟩
  | removeUnused n => exact ⟨queued, hand, inv.removeUnused conf n⟩
  | flushTake n =>
    obtain ⟨more, taken⟩ := inv.flushTake conf spares
    exact ⟨more, hand, taken⟩
  | flushFree => exact ⟨queued, hand, inv.flushFree conf⟩
  | backoffReset n =>
    have quiet : Quiet state.node (tschQueueBackoffReset conf n state.node) :=
      ⟨tschQueueBackoffReset_core conf n state.node, rfl, rfl⟩
    exact ⟨queued, hand, inv.same quiet.sameQueues⟩
  | flags n isTimeSource txLinksCount dedicatedTxLinksCount =>
    exact ⟨queued, hand, inv.same (Quiet.sameQueues
      ⟨Queue.core_write n _ fun _ => ⟨rfl, rfl, rfl, rfl⟩, rfl, rfl⟩)⟩
  | start attempt retries =>
    simp only [ThreadStep.apply]
    split
    · exact ⟨queued, hand, inv.same
        (tschSlotOperationStart_quiet conf attempt retries state.node).sameQueues⟩
    · exact ⟨queued, hand, inv⟩
  | elsewhere requested sched phy mac currentLink =>
    exact ⟨queued, hand, inv.unlocked, inv.inv, inv.dequeued, inv.listed, inv.heads, inv.announced⟩

theorem safe (inv : ThreadInv state queued hand) : state.Safe := by
  refine ⟨?_, inv.inv.dequeued_nodup, ?_⟩
  · intro flight flying
    obtain ⟨rest, head⟩ := inv.heads flight flying
    have listed := inv.listed flight flying
    refine ⟨listed, ?_, ?_⟩
    · have held : flight.packet ∈ state.node.queue.held queued (hand ++ state.main.taken) :=
        QueueInv.mem_held listed (by simp [head])
      rw [inv.inv.held_inUse.count_eq, if_pos held]
      exact Nat.one_ne_zero
    · have first := (inv.inv.rings _ listed).peekGet_eq
      rw [head] at first
      exact first
  · rw [inv.inv.called]
    have unique := inv.inv.conserved.nodup_iff.mpr List.nodup_range
    exact (List.nodup_append.mp unique).2.1

theorem refuted {step : ThreadStep} (inv : ThreadInv state queued hand)
    (flushes : ¬ step.Spares state) : ¬ (step.apply conf state).Safe := by
  obtain ⟨node, flight, main⟩ := state
  cases step with
  | flushTake n =>
    simp only [ThreadStep.Spares, not_forall, not_not] at flushes
    obtain ⟨rfl, flight, flying, rfl⟩ := flushes
    obtain ⟨rest, head⟩ := inv.heads flight flying
    have listed : flight.neighbor ∈ node.queue.neighborList := inv.listed flight flying
    have queue : QueueInv node.queue queued (hand ++ []) := inv.inv
    obtain ⟨next, removed, popped, -, -, lists, -⟩ :=
      tschQueueRemovePacketFromQueue_cons inv.unlocked queue listed head
    intro safe
    simp only [ThreadStep.apply, listed, and_self, if_true, removed] at safe
    have first := (safe.owned flight flying).head
    have stored := (popped.rings _ (lists ▸ listed)).peekGet_eq
    rw [Function.update_self] at stored
    -- the packet would be in its queue twice
    have again : flight.packet ∈ rest :=
      List.mem_of_mem_head? (stored.symm.trans first)
    have unique := (List.nodup_append.mp queue.held_nodup).1
    have twice := (List.nodup_flatMap.mp unique).1 _ listed
    rw [head, List.nodup_cons] at twice
    exact twice.1 again
  | _ => exact (flushes trivial).elim

end ThreadInv

theorem flight_owned_iff (steps : List ThreadStep) :
    Run.Always (ThreadStep.apply conf) Threads.Safe
        ⟨tschQueueInit conf (Node.boot conf), none, .idle⟩ steps ↔
      Run.Meets (ThreadStep.apply conf) (fun state step => step.Spares state)
        ⟨tschQueueInit conf (Node.boot conf), none, .idle⟩ steps := by
  obtain ⟨queued, hand, booted⟩ := tschQueueInit_packetInv conf
  have start : ThreadInv ⟨tschQueueInit conf (Node.boot conf), none, .idle⟩ queued hand := by
    refine ⟨booted.unlocked, ?_, booted.dequeued, by rintro _ ⟨⟩, by rintro _ ⟨⟩, by rintro _ ⟨⟩⟩
    simpa only [QueuePc.taken, List.append_nil] using booted.inv
  have allowed : Run.Meets (ThreadStep.apply conf) (fun _ _ => True)
      ⟨tschQueueInit conf (Node.boot conf), none, .idle⟩ steps :=
    Run.meets_of_forall (fun _ _ => trivial) steps _
  apply Run.always_iff_meets (fun state => ∃ queued hand, ThreadInv state queued hand)
  · rintro state ⟨queued, hand, inv⟩
    exact inv.safe
  · rintro state step ⟨queued, hand, inv⟩ - spares
    exact inv.apply conf spares
  · rintro state step ⟨queued, hand, inv⟩ - flushes
    exact inv.refuted conf flushes
  · exact ⟨queued, hand, start⟩
  · exact allowed

/-- A node leaves the network while a packet waits for its transmission. `tsch_reset` flushes the
queue: the packet is called back and freed, and the slot then dequeues it and it is called back
and freed again. -/
theorem flushed_in_flight :
    (Run.final (ThreadStep.apply cc1200Conf)
      ⟨tschQueueInit cc1200Conf (Node.boot cc1200Conf), none, .idle⟩
      [.addPacket (Vector.replicate 8 2) 1 none 0 (some ⟨[0x41, 0xd8, 7], 0xffff, 0xffff, 0⟩),
        .elsewhere false oneTxLink default { tschIsAssociated := true } (some 0),
        .slot default,
        .elsewhere false oneTxLink default { tschIsAssociated := false } (some 0),
        .flushTake 2, .flushFree,
        .resume default, .resume default,
        .deliver]).node.queue.log =
      [.accepted 0 (Vector.replicate 8 2), .left 0 (Vector.replicate 8 2), .callback 0 .err 0,
        .freed 0, .reported 0 .noack false, .dequeued 0, .callback 0 .noack 1, .freed 0] := by
  decide +kernel

/-- Some interleaving leads from one state of the threads to the other, and flushes no neighbor while
its packet is in flight. -/
def Threads.Reaches (state next : Threads) : Prop :=
  ∃ steps, Run.Meets (ThreadStep.apply conf) (fun state step => step.Spares state) state steps ∧
    Run.final (ThreadStep.apply conf) state steps = next

namespace Threads.Reaches

variable {start : Threads} {node : Node} {main : QueuePc}

theorem refl (state : Threads) : Reaches conf state state := ⟨[], trivial, rfl⟩

theorem trans {state middle next : Threads} (one : Reaches conf state middle)
    (two : Reaches conf middle next) : Reaches conf state next := by
  obtain ⟨first, spares, rfl⟩ := one
  obtain ⟨second, later, rfl⟩ := two
  exact ⟨first ++ second, (Run.meets_append first state).mpr ⟨spares, later⟩,
    Run.final_append first state⟩

theorem step {next : Threads} (reaches : Reaches conf start ⟨node, none, main⟩) (step : ThreadStep)
    (taken : step.apply conf ⟨node, none, main⟩ = next) : Reaches conf start next := by
  refine reaches.trans conf ⟨[step], ⟨?_, trivial⟩, taken⟩
  cases step with
  | flushTake n => exact fun _ _ flying => by cases flying
  | _ => exact trivial

theorem freeUnusedNeighbors (reaches : Reaches conf start ⟨node, none, main⟩)
    (free : node.lock.tschLocked = false) (unique : node.queue.neighborList.Nodup) :
    Reaches conf start ⟨tschQueueFreeUnusedNeighbors node, none, main⟩ ∧
      (tschQueueFreeUnusedNeighbors node).lock.tschLocked = false ∧
      (tschQueueFreeUnusedNeighbors node).queue.neighborList.Nodup := by
  refine tschQueueFreeUnusedNeighbors_induct (motive := fun next =>
    Reaches conf start ⟨next, none, main⟩ ∧ next.lock.tschLocked = false ∧
      next.queue.neighborList.Nodup) ?_ free unique ⟨reaches, free, unique⟩
  rintro next n ⟨reaches, -, unique⟩ member unused unlocked
  refine ⟨reaches.step conf (.removeUnused n) (if_pos ⟨rfl, member, unused⟩), ?_⟩
  rw [tschQueueRemoveNbr_eq unlocked unused]
  exact ⟨rfl, unique.erase n⟩

theorem flushNbrQueue {n : Nat} : ∀ (fuel : Nat) {node : Node},
    Reaches conf start ⟨node, none, .idle⟩ → n ∈ node.queue.neighborList →
    Reaches conf start ⟨tschQueueFlushNbrQueueFrom fuel n node, none, .idle⟩ ∧
      (tschQueueFlushNbrQueueFrom fuel n node).queue.neighborList = node.queue.neighborList := by
  intro fuel
  induction fuel with
  | zero => exact fun reaches _ => ⟨reaches, rfl⟩
  | succ fuel ih =>
    intro node reaches member
    rw [tschQueueFlushNbrQueueFrom]
    split
    next => exact ⟨reaches, rfl⟩
    next =>
      have kept : (tschQueueRemovePacketFromQueue (some n) node).2.queue.neighborList =
          node.queue.neighborList :=
        tschQueueRemovePacketFromQueue_cases
          (motive := fun next => next.queue.neighborList = node.queue.neighborList)
          (some n) rfl fun _ _ _ => rfl
      have took : ∀ next, (ThreadStep.flushTake n).apply conf ⟨node, none, .idle⟩ = next →
          Reaches conf start next := fun next => reaches.step conf (.flushTake n)
      simp only [ThreadStep.apply, true_and, if_pos member] at took
      generalize tschQueueRemovePacketFromQueue (some n) node = result at kept took ⊢
      obtain ⟨_ | p, next⟩ := result
      · obtain ⟨later, same⟩ := ih (took _ rfl) (kept ▸ member)
        exact ⟨later, same.trans kept⟩
      · obtain ⟨later, same⟩ := ih ((took _ rfl).step conf .flushFree rfl) (kept ▸ member)
        exact ⟨later, same.trans kept⟩

theorem txProcessPending : ∀ (fuel : Nat) {node : Node},
    Reaches conf start ⟨node, none, .idle⟩ → node.lock.tschLocked = false →
    node.queue.neighborList.Nodup →
    Reaches conf start ⟨tschTxProcessPendingFrom fuel node, none, .idle⟩ := by
  intro fuel
  induction fuel with
  | zero => exact fun reaches _ _ => reaches
  | succ fuel ih =>
    intro node reaches free unique
    rw [tschTxProcessPendingFrom]
    cases peek : node.queue.dequeuedRingbuf.ringbufindexPeekGet with
    | none => exact reaches
    | some index =>
      dsimp only
      cases stored : node.queue.dequeuedArray index.toNat with
      | none => exact reaches
      | some p =>
        have delivered := reaches.step conf .deliver
          (by simp only [ThreadStep.apply, peek, Option.bind_some, stored]; rfl)
        obtain ⟨swept, unlocked, distinct⟩ := delivered.freeUnusedNeighbors conf free unique
        exact ih (swept.step conf .popDequeued rfl) unlocked distinct

end Threads.Reaches

theorem QueueStep.reaches {node : Node} (free : node.lock.tschLocked = false)
    (unique : node.queue.neighborList.Nodup) (step : QueueStep) :
    Threads.Reaches conf ⟨node, none, .idle⟩ ⟨step.apply conf node, none, .idle⟩ := by
  have start := Threads.Reaches.refl conf ⟨node, none, .idle⟩
  cases step with
  | slot input =>
    exact ⟨[.slot input, .resume input, .resume input], ⟨trivial, trivial, trivial, trivial⟩,
      slot_uninterrupted conf input node .idle⟩
  | processPending => exact start.txProcessPending conf _ free unique
  | freeUnusedNeighbors => exact (start.freeUnusedNeighbors conf free unique).1
  | reset =>
    simp only [QueueStep.apply, tschQueueReset, tschIsLocked, free, Bool.not_false, if_true]
    refine (List.foldlRecOn (motive := fun next : Node =>
      Threads.Reaches conf ⟨node, none, .idle⟩ ⟨next, none, .idle⟩ ∧
        next.queue.neighborList = node.queue.neighborList) _ _ ⟨start, rfl⟩ ?_).1
    rintro next ⟨reaches, same⟩ n listed
    obtain ⟨flushed, kept⟩ := reaches.flushNbrQueue conf _ (same ▸ listed)
    exact ⟨flushed.step conf (.backoffReset n) rfl, kept.trans same⟩
  | addPacket addr maxTransmissions sent ptr qb =>
    exact start.step conf (.addPacket addr maxTransmissions sent ptr qb) rfl
  | addNbr addr => exact start.step conf (.addNbr addr) rfl
  | flags n isTimeSource txLinksCount dedicatedTxLinksCount =>
    exact start.step conf (.flags n isTimeSource txLinksCount dedicatedTxLinksCount) rfl
  | start attempt retries => exact start.step conf (.start attempt retries) rfl
  | elsewhere requested sched phy mac currentLink =>
    exact start.step conf (.elsewhere requested sched phy mac currentLink) rfl

/-- Every state of a node whose slots and queue functions are steps of their own is a state of an
interleaving of their parts. -/
theorem queue_run_interleaved (steps : List QueueStep) :
    Threads.Reaches conf ⟨tschQueueInit conf (Node.boot conf), none, .idle⟩
      ⟨Run.final (QueueStep.apply conf) (tschQueueInit conf (Node.boot conf)) steps, none,
        .idle⟩ := by
  have each : ∀ (steps : List QueueStep) (node : Node), (∃ queued hand, PacketInv node queued hand) →
      Threads.Reaches conf ⟨node, none, .idle⟩
        ⟨Run.final (QueueStep.apply conf) node steps, none, .idle⟩ := by
    intro steps
    induction steps with
    | nil => exact fun node _ => Threads.Reaches.refl conf _
    | cons step rest ih =>
      rintro node ⟨queued, hand, state⟩
      exact (step.reaches conf state.unlocked state.inv.neighbors_nodup).trans conf
        (ih _ (QueueStep.apply_packetInv conf ⟨queued, hand, state⟩))
  exact each steps _ (tschQueueInit_packetInv conf)

end MultiPhyTsch
