import MultiPhyTsch.Tsch.PacketConservation
import MultiPhyTsch.Tsch.TxStatus

/-! Bursts: the frame pending bit that `tsch_tx_slot` puts on the air against the slot that it
schedules for itself, and against the one that the receiver of the frame schedules. -/

namespace MultiPhyTsch

variable (conf : TschConf)

def tschPacketGetFramePending (data : List UInt8) : Bool := (data.headD 0 >>> 4) &&& 1 != 0

theorem getFramePending_set (first : UInt8) (rest : List UInt8) :
    tschPacketGetFramePending (tschPacketSetFramePending (first :: rest)) = true := by
  have bit : ∀ index : Fin 256, ((UInt8.ofNat index ||| 16) >>> 4) &&& 1 != 0 := by
    decide +kernel
  have same : UInt8.ofNat first.toNat = first := by simp
  have set := bit ⟨first.toNat, first.toNat_lt⟩
  rw [same] at set
  exact set

namespace TxEntry

variable (input : TxInput) (entry : TxEntry)

def airFrame : Option (List UInt8) :=
  match entry.node.queue.dequeuedRingbuf.ringbufindexPeekPut,
      (entry.node.packet entry.packet).qb with
  | some _, some qb =>
    let (requested, node) := burstLinkRequested conf entry.neighbor entry.node
    let (ready, data) := txFrame entry.neighbor requested input qb.data node
    let packetLen := txPacketLen conf (node.packet entry.packet) data input node.mac
    if txPrepared ready packetLen input then some data else none
  | _, _ => none

def after : Node := tschTxSlot conf entry.neighbor entry.packet entry.link input entry.node

def status : MacTxStatus :=
  (txAttempt conf entry.neighbor entry.packet entry.link input entry.node).status

def storedFrame : List UInt8 := ((entry.node.packet entry.packet).qb.map (·.data)).getD []

structure UnicastData : Prop where
  unicast : (entry.node.neighbor entry.neighbor).isBroadcast = false
  data : entry.storedFrame.headD 0 &&& 7 = 1

instance : Decidable entry.UnicastData :=
  decidable_of_iff ((entry.node.neighbor entry.neighbor).isBroadcast = false ∧
    entry.storedFrame.headD 0 &&& 7 = 1)
    ⟨fun both => ⟨both.1, both.2⟩, fun kind => ⟨kind.unicast, kind.data⟩⟩

def burstAllowed : Bool :=
  entry.node.slot.tschCurrentBurstCount + 1 < conf.burstMaxLen &&
    1 < (entry.node.neighbor entry.neighbor).txRingbuf.ringbufindexElements

end TxEntry

structure RxInput.Acknowledges (rx : RxInput) (data : List UInt8) : Prop where
  received : rx.inputSpace = true ∧ rx.packetSeen = true ∧ rx.pendingPacket = true
  accepted : rx.frameValid = true ∧ rx.forThisNode = true
  acknowledged : rx.ackRequired = true ∧ 0 < rx.ackLen
  framePending_eq : rx.framePending = tschPacketGetFramePending data

/-- The bit on the air is the sender's request; once the sender has the acknowledgement, both
sides schedule the extra slot or neither does. -/
structure BurstAgreement (input : TxInput) (entry : TxEntry) (data : List UInt8) : Prop where
  pending_eq : tschPacketGetFramePending data =
    (burstLinkRequested conf entry.neighbor entry.node).1
  scheduled_eq : entry.status conf input = .ok → ∀ (receiver : Node) (link : TschLink)
    (rx : RxInput), rx.Acknowledges data →
      (tschRxSlot conf link rx receiver).slot.burstLinkScheduled =
        (entry.after conf input).slot.burstLinkScheduled

namespace QueueStep

def BurstAgrees (node : Node) : QueueStep → Prop
  | slot input => ∀ entry ∈ txEntry conf input node, entry.UnicastData →
      ∀ data ∈ entry.airFrame conf input.tx, BurstAgreement conf input.tx entry data
  | _ => True

def BurstBitFresh (node : Node) : QueueStep → Prop
  | slot input => ∀ entry ∈ txEntry conf input node, entry.UnicastData →
      (entry.airFrame conf input.tx).isSome →
      tschPacketGetFramePending entry.storedFrame = true → entry.burstAllowed conf = true
  | _ => True

end QueueStep

section Slot

variable {conf} {node : Node} {queued : Nat → List Nat} {hand : List Nat}

theorem burstLinkRequested_eq (state : PacketInv node queued hand) {n : Nat}
    (member : n ∈ node.queue.neighborList) (unicast : (node.neighbor n).isBroadcast = false) :
    (burstLinkRequested conf n node).1 =
      (decide (node.slot.tschCurrentBurstCount + 1 < conf.burstMaxLen) &&
        decide (1 < (node.neighbor n).txRingbuf.ringbufindexElements)) := by
  have lookup : (tschQueueGetNbr (node.neighbor n).addr node) = some n := by
    rcases found : tschQueueGetNbr (node.neighbor n).addr node with _ | m
    · have absent : ∀ m ∈ node.queue.neighborList,
          (node.neighbor m).addr ≠ (node.neighbor n).addr := by
        simpa [tschQueueGetNbr, tschIsLocked, state.unlocked] using found
      exact (absent n member rfl).elim
    · obtain ⟨listed, same⟩ := tschQueueGetNbr_some found
      rw [state.inv.neighbor_eq_of_addr listed member same]
  simp only [burstLinkRequested, unicast, Bool.not_false, Bool.true_and, tschQueuePacketCount,
    tschIsLocked, state.unlocked, if_true, tschQueueAddNbr, lookup, decide_eq_true_eq]
  split
  · rename_i below
    simp only [below, decide_true, Bool.true_and, UInt8.lt_iff_toNat_lt]
    apply decide_eq_decide.mpr
    simp only [UInt8.reduceToNat]
    omega
  · rename_i atLimit
    simp [atLimit]

variable {data : List UInt8}

theorem airFrame_some {entry : TxEntry} {input : TxInput}
    (found : entry.airFrame conf input = some data)
    (unicast : entry.node.queue.nEb ≠ some entry.neighbor)
    (same : (burstLinkRequested conf entry.neighbor entry.node).2 = entry.node) :
    data = (if (burstLinkRequested conf entry.neighbor entry.node).1 then
      tschPacketSetFramePending entry.storedFrame else entry.storedFrame) := by
  simp only [TxEntry.airFrame] at found
  split at found
  · rename_i dequeuedIndex qb room stored
    rw [same] at found
    simp only [txFrame, unicast, if_false] at found
    simp only [TxEntry.storedFrame, stored, Option.map_some, Option.getD_some]
    exact (Option.some_inj.mp (Option.ite_none_right_eq_some.mp found).2).symm
  · cases found

theorem airFrame_pending {entry : TxEntry} {input : TxInput}
    (found : entry.airFrame conf input = some data) (kind : entry.UnicastData)
    (unicast : entry.node.queue.nEb ≠ some entry.neighbor)
    (same : (burstLinkRequested conf entry.neighbor entry.node).2 = entry.node) :
    tschPacketGetFramePending data = ((burstLinkRequested conf entry.neighbor entry.node).1 ||
      tschPacketGetFramePending entry.storedFrame) := by
  rw [airFrame_some found unicast same]
  cases (burstLinkRequested conf entry.neighbor entry.node).1 with
  | false => simp
  | true =>
    simp only [if_true, Bool.true_or]
    rcases stored : entry.storedFrame with _ | ⟨first, rest⟩
    · have typed := kind.data
      rw [stored] at typed
      exact absurd typed (by decide)
    · exact getFramePending_set first rest

theorem txEntry_burst {entry : TxEntry} {input : SlotInput}
    (found : txEntry conf input node = some entry) :
    entry.node.slot.burstLinkScheduled = false := by
  simp only [txEntry] at found
  split at found
  · split at found
    · cases found
    · obtain ⟨other, -, linked⟩ := Option.bind_eq_some_iff.mp found
      simp only [linkEntry] at linked
      split at linked
      · cases linked
      · split at linked
        · cases linked
          simp only [selectPhy]
          split
          · rfl
          · rename_i idle
            simpa using idle
        · cases linked
  · cases found

theorem txAcknowledged_burst (n : Nat) (link : TschLink) (requested : Bool) (input : TxInput)
    (node : Node) : (txAcknowledged conf n link requested input node).slot.burstLinkScheduled =
      (requested || node.slot.burstLinkScheduled) := by
  simp only [txAcknowledged]
  by_cases source : (targetIsTimeSource conf n input node && link.has linkOptionTimeKeeping) = true
  · cases requested <;> simp [source, storeCorrection]
  · cases requested <;> simp [source]

theorem txReport_burst (dequeuedIndex : UInt8) (n p : Nat) (link : TschLink) (random : UInt16)
    (attempt : TxAttempt) : (txReport conf dequeuedIndex n p link random
      attempt).slot.burstLinkScheduled = attempt.node.slot.burstLinkScheduled := by
  have sent := (OnlyQueue.packetSent conf n p link attempt.status random
    (storeStatus p attempt)).slot_eq
  simp only [txReport]
  generalize tschQueuePacketSent conf n p link attempt.status random (storeStatus p attempt) =
    result at sent ⊢
  have kept : result.2.slot.burstLinkScheduled = attempt.node.slot.burstLinkScheduled := by
    rw [sent]
    rfl
  rcases result with ⟨_ | _, next⟩
  · exact kept
  · exact kept

theorem after_burst {entry : TxEntry} {input : TxInput}
    (found : entry.airFrame conf input = some data)
    (unicast : (entry.node.neighbor entry.neighbor).isBroadcast = false)
    (same : (burstLinkRequested conf entry.neighbor entry.node).2 = entry.node)
    (idle : entry.node.slot.burstLinkScheduled = false) (ok : entry.status conf input = .ok) :
    (entry.after conf input).slot.burstLinkScheduled =
      (burstLinkRequested conf entry.neighbor entry.node).1 := by
  simp only [TxEntry.airFrame] at found
  split at found
  · rename_i dequeuedIndex qb room stored
    simp only [TxEntry.after, tschTxSlot, room, txReport_burst]
    simp only [TxEntry.status, txAttempt, stored] at ok ⊢
    rw [same] at found ok ⊢
    obtain ⟨prepared, -⟩ := Option.ite_none_right_eq_some.mp found
    rcases (txStatus_eq_ok conf _ _ _ _ _ _).mp ok with sent | ⟨unprepared, -⟩
    · rw [unicast] at sent
      simp only [sent, unicast, Bool.not_false, Bool.and_self, if_true, txAcknowledged_burst]
      rw [Node.writePacket, idle, Bool.or_false]
    · rw [prepared] at unprepared
      cases unprepared
  · cases found

theorem tschRxSlot_burst {rx : RxInput} (acknowledges : rx.Acknowledges data)
    (link : TschLink) (receiver : Node) :
    (tschRxSlot conf link rx receiver).slot.burstLinkScheduled =
      tschPacketGetFramePending data := by
  obtain ⟨⟨space, seen, pending⟩, ⟨valid, mine⟩, ⟨required, ack⟩, framePending⟩ := acknowledges
  simp only [tschRxSlot, space, seen, pending, valid, mine, Bool.and_self, if_true,
    scheduleReceivedBurst, required, ack, decide_true]
  split
  · exact framePending
  · exact framePending

theorem burstAgreement_iff {entry : TxEntry} {input : SlotInput}
    (state : PacketInv node queued hand) (found : txEntry conf input node = some entry)
    (kind : entry.UnicastData) (onAir : entry.airFrame conf input.tx = some data) :
    BurstAgreement conf input.tx entry data ↔
      (tschPacketGetFramePending entry.storedFrame = true → entry.burstAllowed conf = true) := by
  have entered := tschSlotOperation_entry conf input node
  rw [found] at entered
  have before := state.quiet entered.1
  have member := (txEntry_head conf state.inv found).1
  rw [← (txEntry_some conf found).1] at member
  have notEb : entry.node.queue.nEb ≠ some entry.neighbor := by
    intro isEb
    have broadcast : (entry.node.neighbor entry.neighbor).isBroadcast = true :=
      (before.inv.eb _ isEb).2
    rw [kind.unicast] at broadcast
    cases broadcast
  have same := burstLinkRequested_node conf before.unlocked member
  have requested : (burstLinkRequested conf entry.neighbor entry.node).1 =
      entry.burstAllowed conf := burstLinkRequested_eq before member kind.unicast
  have pending := airFrame_pending onAir kind notEb same
  constructor
  · intro agreement stored
    have bit := agreement.pending_eq
    rw [pending, stored, Bool.or_true, requested] at bit
    exact bit.symm
  · intro fresh
    have bit : tschPacketGetFramePending data =
        (burstLinkRequested conf entry.neighbor entry.node).1 := by
      rw [pending, requested]
      cases stored : tschPacketGetFramePending entry.storedFrame with
      | false => exact Bool.or_false _
      | true => rw [fresh stored, Bool.or_true]
    refine ⟨bit, ?_⟩
    intro ok receiver link rx acknowledges
    rw [tschRxSlot_burst acknowledges, after_burst onAir kind.unicast same (txEntry_burst found) ok]
    exact bit

theorem QueueStep.burstAgrees_iff {step : QueueStep} (state : PacketInv node queued hand) :
    step.BurstAgrees conf node ↔ step.BurstBitFresh conf node := by
  cases step with
  | slot input =>
    constructor
    · intro agrees entry found kind onAir
      obtain ⟨data, onAir⟩ := Option.isSome_iff_exists.mp onAir
      exact (burstAgreement_iff state found kind onAir).mp (agrees entry found kind data onAir)
    · intro fresh entry found kind data onAir
      exact (burstAgreement_iff state found kind onAir).mpr
        (fresh entry found kind (Option.isSome_of_mem onAir))
  | _ => exact Iff.rfl

end Slot

theorem burst_agreement_iff (steps : List QueueStep) :
    Run.Meets (QueueStep.apply conf) (fun node step => step.BurstAgrees conf node)
        (tschQueueInit conf (Node.boot conf)) steps ↔
      Run.Meets (QueueStep.apply conf) (fun node step => step.BurstBitFresh conf node)
        (tschQueueInit conf (Node.boot conf)) steps := by
  have preserved : ∀ (condition : Prop) (node : Node) (step : QueueStep),
      (∃ queued hand, PacketInv node queued hand) → condition →
      ∃ queued hand, PacketInv (step.apply conf node) queued hand :=
    fun _ _ _ state _ => QueueStep.apply_packetInv conf state
  constructor
  · apply Run.meets_of_meets _ (fun node step => preserved _ node step) _ steps _
      (tschQueueInit_packetInv conf)
    rintro node step ⟨queued, hand, state⟩ agrees
    exact (QueueStep.burstAgrees_iff state).mp agrees
  · apply Run.meets_of_meets _ (fun node step => preserved _ node step) _ steps _
      (tschQueueInit_packetInv conf)
    rintro node step ⟨queued, hand, state⟩ fresh
    exact (QueueStep.burstAgrees_iff state).mpr fresh

def shortBurstConf : TschConf := { cc1200Conf with burstMaxLen := 2 }

/-- Two packets for each of two neighbors on the minimal schedule. The first one is sent with the
bit and not acknowledged; its neighbor backs off, the other neighbor gets a burst, and in the burst
slot, the last that is allowed, the first packet is sent again: with its old bit. -/
theorem stale_pending_bit :
    let data : Option Queuebuf := some ⟨[0x41, 0xd8, 7], 0xffff, 0xffff, 0⟩
    let acked : ReceivedAck := { (default : ReceivedAck) with
      len := 3, parsed := 3, frameType := 2, frameVersion := 2, seq := 7, destPanidOk := true,
      dest := some linkaddrNull }
    let minimal := (tschScheduleCreateMinimal shortBurstConf (Node.boot shortBurstConf)).sched
    let steps : List QueueStep :=
      [.addPacket (Vector.replicate 8 2) 3 none 0 data,
        .addPacket (Vector.replicate 8 2) 3 none 0 data,
        .addPacket (Vector.replicate 8 3) 3 none 0 data,
        .addPacket (Vector.replicate 8 3) 3 none 0 data,
        .elsewhere false minimal default { tschIsAssociated := true, tschIsCoordinator := true }
          (some 0),
        .slot (slotWithAck 64 default), .slot (slotWithAck 0 acked)]
    ¬ Run.Meets (QueueStep.apply shortBurstConf) (fun node step => step.BurstAgrees shortBurstConf node)
      (tschQueueInit shortBurstConf (Node.boot shortBurstConf))
      (steps ++ [.slot (slotWithAck 0 acked)]) := by
  intro data acked minimal steps meets
  have agrees := ((Run.meets_append steps _).mp meets).2.1
  have sent : ((txEntry shortBurstConf (slotWithAck 0 acked) (Run.final
      (QueueStep.apply shortBurstConf) (tschQueueInit shortBurstConf (Node.boot shortBurstConf))
      steps)).any fun entry => entry.UnicastData ∧
        entry.airFrame shortBurstConf (slotWithAck 0 acked).tx = some [0x51, 0xd8, 7] ∧
        (burstLinkRequested shortBurstConf entry.neighbor entry.node).1 = false) = true := by
    decide
  obtain ⟨entry, found, seen⟩ := (Option.any_eq_true _ _).mp sent
  obtain ⟨kind, onAir, quiet⟩ := of_decide_eq_true seen
  have bit := (agrees entry found kind _ onAir).pending_eq
  rw [quiet] at bit
  exact absurd bit (by decide)

end MultiPhyTsch
