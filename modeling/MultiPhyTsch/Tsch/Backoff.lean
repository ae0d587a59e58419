import MultiPhyTsch.Tsch.NeighborTable
import MultiPhyTsch.Tsch.PacketConservation

/-! The backoff of shared slots (`tsch-queue.c`) over runs of slots and queue calls. -/

namespace MultiPhyTsch

variable (conf : TschConf)

namespace NbrProfile

structure BackoffBounded (nbr : NbrProfile) : Prop where
  min_le : conf.macMinBe ≤ nbr.backoffExponent
  le_max : nbr.backoffExponent ≤ conf.macMaxBe
  window_le : nbr.backoffWindow.toNat ≤ 2 ^ nbr.backoffExponent.toNat

variable {conf}

theorem raisedExponent_toNat (nbr : NbrProfile) :
    (nbr.raisedExponent conf).toNat =
      min (nbr.backoffExponent.toNat + 1) conf.macMaxBe.toNat := by
  have bound := conf.macMaxBe.toNat_lt
  rw [raisedExponent, UInt8.toNat_ofNat', Nat.mod_eq_of_lt]
  omega

theorem backoffInc_window (small : conf.macMaxBe.toNat ≤ 7) (random : UInt16) (nbr : NbrProfile) :
    (nbr.backoffInc conf random).backoffWindow.toNat =
      (random.toNat >>> 6) % 2 ^ (nbr.raisedExponent conf).toNat + 1 := by
  have exponent : (nbr.raisedExponent conf).toNat ≤ 7 := by
    rw [raisedExponent_toNat]
    omega
  have power : 2 ^ (nbr.raisedExponent conf).toNat ≤ 2 ^ 7 := Nat.pow_le_pow_right (by omega) exponent
  have drawn : (random.toNat >>> 6) % 2 ^ (nbr.raisedExponent conf).toNat <
      2 ^ (nbr.raisedExponent conf).toNat := Nat.mod_lt _ (Nat.two_pow_pos _)
  rw [backoffInc, UInt8.toNat_add, UInt8.toNat_ofNat']
  generalize (random.toNat >>> 6) % 2 ^ (nbr.raisedExponent conf).toNat = window at drawn ⊢
  simp only [UInt8.reduceToNat]
  omega

theorem tick_window {nbr : NbrProfile} (waiting : nbr.backoffWindow ≠ 0) :
    nbr.tick.backoffWindow.toNat + 1 = nbr.backoffWindow.toNat := by
  have positive : nbr.backoffWindow.toNat ≠ 0 := fun zero => waiting (UInt8.toNat_inj.mp zero)
  have one : (1 : UInt8) ≤ nbr.backoffWindow := by
    rw [UInt8.le_iff_toNat_le]
    simp only [UInt8.reduceToNat]
    omega
  rw [tick, UInt8.toNat_sub_of_le _ _ one]
  simp only [UInt8.reduceToNat]
  omega

namespace BackoffBounded

variable {nbr : NbrProfile}

theorem new (ordered : conf.macMinBe ≤ conf.macMaxBe)
    (exponent : nbr.backoffExponent = conf.macMinBe) (window : nbr.backoffWindow = 0) :
    nbr.BackoffBounded conf := by
  constructor
  · rw [exponent]
    exact UInt8.le_refl _
  · rw [exponent]
    exact ordered
  · rw [window]
    exact Nat.zero_le _

theorem backoffInc (ordered : conf.macMinBe ≤ conf.macMaxBe) (small : conf.macMaxBe.toNat ≤ 7)
    (random : UInt16) (bounded : nbr.BackoffBounded conf) :
    (nbr.backoffInc conf random).BackoffBounded conf := by
  have raised : (nbr.raisedExponent conf).toNat = _ := raisedExponent_toNat nbr
  have least := UInt8.le_iff_toNat_le.mp bounded.min_le
  have order := UInt8.le_iff_toNat_le.mp ordered
  constructor
  · rw [UInt8.le_iff_toNat_le]
    show conf.macMinBe.toNat ≤ (nbr.raisedExponent conf).toNat
    omega
  · rw [UInt8.le_iff_toNat_le]
    show (nbr.raisedExponent conf).toNat ≤ conf.macMaxBe.toNat
    omega
  · rw [backoffInc_window small]
    exact Nat.mod_lt _ (Nat.two_pow_pos _)

theorem tick (bounded : nbr.BackoffBounded conf)
    (waiting : nbr.backoffWindow ≠ 0) : nbr.tick.BackoffBounded conf := by
  constructor
  · exact bounded.min_le
  · exact bounded.le_max
  · have less := tick_window waiting
    have window := bounded.window_le
    show nbr.tick.backoffWindow.toNat ≤ 2 ^ nbr.backoffExponent.toNat
    omega

end BackoffBounded

end NbrProfile

namespace NbrTable

def BackoffBounded (table : NbrTable) : Prop :=
  ∀ n ∈ table.list, (table.memb.mem n).BackoffBounded conf

variable {conf}

theorem BackoffBounded.write {list : List Nat} {memb : Memb NbrProfile} (n : Nat)
    {change : NbrProfile → NbrProfile} (bounded : BackoffBounded conf ⟨list, memb⟩)
    (written : (memb.mem n).BackoffBounded conf → (change (memb.mem n)).BackoffBounded conf) :
    BackoffBounded conf ⟨list, memb.write n change⟩ := by
  intro m member
  by_cases equal : m = n
  · subst equal
    simp only [Memb.write_same]
    exact written (bounded m member)
  · simp only [Memb.write_other memb change equal]
    exact bounded m member

theorem Change.backoffBounded (ordered : conf.macMinBe ≤ conf.macMaxBe)
    (small : conf.macMaxBe.toNat ≤ 7) {table next : NbrTable} (bounded : table.BackoffBounded conf)
    (change : Change conf table next) : next.BackoffBounded conf := by
  cases change with
  | added addr absent alloc =>
    rename_i list memb n more
    have content : more.mem = memb.mem := by rw [← Memb.membAlloc_mem memb, alloc]
    intro m member
    by_cases equal : m = n
    · subst equal
      simp only [Memb.write_same]
      exact NbrProfile.BackoffBounded.new ordered rfl rfl
    · simp only [Memb.write_other more _ equal, content]
      apply bounded
      simpa [listAdd, listRemove, equal, List.mem_erase_of_ne] using member
  | removed member unicast noLinks =>
    intro m inside
    simp only [Memb.membFree_mem]
    exact bounded m (List.mem_of_mem_erase inside)
  | backoffReset n => exact bounded.write n fun _ => NbrProfile.BackoffBounded.new ordered rfl rfl
  | backoffInc n random => exact bounded.write n fun held => held.backoffInc ordered small random
  | tick n waiting => exact bounded.write n fun held => held.tick waiting

end NbrTable

section Runs

variable {conf} {node : Node} {queued : Nat → List Nat} {hand : List Nat}

theorem QueueStep.apply_bounded (ordered : conf.macMinBe ≤ conf.macMaxBe)
    (small : conf.macMaxBe.toNat ≤ 7) {step : QueueStep} (state : PacketInv node queued hand)
    (bounded : node.queue.nbrTable.BackoffBounded conf) :
    (step.apply conf node).queue.nbrTable.BackoffBounded conf := by
  have free := state.unlocked
  have unique := state.inv.neighbors_nodup
  have worked : ∀ {next : Node}, QueueWork conf node next →
      next.queue.nbrTable.BackoffBounded conf := by
    intro next done
    exact done.work.preserves conf
      (fun _ _ held change => change.backoffBounded ordered small held) bounded
  cases step with
  | addPacket addr maxTransmissions sent ptr qb =>
    exact worked (QueueWork.addPacket conf addr free maxTransmissions sent ptr qb)
  | addNbr addr => exact worked (QueueWork.addNbr conf addr free)
  | flags n isTimeSource txLinksCount dedicatedTxLinksCount =>
    have same : ((node.writeNeighbor n fun nbr => { nbr with
        isTimeSource := isTimeSource
        txLinksCount := txLinksCount
        dedicatedTxLinksCount := dedicatedTxLinksCount }).queue.nbrTable) =
        ⟨node.queue.neighborList, (node.queue.neighborMemb.map TschNeighbor.profile).write n
          fun nbr => { nbr with
            txLinksCount := txLinksCount, dedicatedTxLinksCount := dedicatedTxLinksCount }⟩ := by
      simp only [Queue.nbrTable, Node.writeNeighbor]
      rw [Memb.map_write TschNeighbor.profile]
      rfl
    simp only [QueueStep.apply, same]
    apply NbrTable.BackoffBounded.write n bounded
    intro held
    exact ⟨held.min_le, held.le_max, held.window_le⟩
  | slot input => exact worked (QueueWork.slot conf free input)
  | start attempt retries => exact worked (QueueWork.start conf free attempt retries)
  | processPending => exact worked (QueueWork.txProcessPendingFrom conf _ free unique)
  | freeUnusedNeighbors => exact worked (QueueWork.freeUnusedNeighbors conf free unique)
  | reset => exact worked (QueueWork.reset conf free)
  | elsewhere requested sched phy mac currentLink => exact bounded

def BackoffInv (conf : TschConf) (node : Node) : Prop :=
  (∃ queued hand, PacketInv node queued hand) ∧ node.queue.nbrTable.BackoffBounded conf

theorem BackoffInv.apply (ordered : conf.macMinBe ≤ conf.macMaxBe)
    (small : conf.macMaxBe.toNat ≤ 7) (node : Node) (step : QueueStep)
    (inv : BackoffInv conf node) : BackoffInv conf (step.apply conf node) := by
  obtain ⟨⟨queued, hand, state⟩, bounded⟩ := inv
  constructor
  · exact QueueStep.apply_packetInv conf ⟨queued, hand, state⟩
  · exact QueueStep.apply_bounded ordered small state bounded

theorem tschQueueInit_bounded (ordered : conf.macMinBe ≤ conf.macMaxBe)
    (small : conf.macMaxBe.toNat ≤ 7) :
    (tschQueueInit conf (Node.boot conf)).queue.nbrTable.BackoffBounded conf := by
  have cleared : (Node.cleared conf).queue.nbrTable.BackoffBounded conf := by
    intro n member
    cases member
  have unlocked : (Node.cleared conf).lock.tschLocked = false := rfl
  have eb := QueueWork.addNbr conf tschEbAddress unlocked
  have both := eb.trans (QueueWork.addNbr conf tschBroadcastAddress eb.unlocked)
  exact both.work.preserves conf
    (fun _ _ held change => change.backoffBounded ordered small held) cleared

/-! What a transmission does to the backoff of its neighbor and of all others. -/

def TschNeighbor.backoff (nbr : TschNeighbor) : UInt8 × UInt8 :=
  (nbr.backoffExponent, nbr.backoffWindow)

theorem removePacketFromQueue_field {β : Type} (field : TschNeighbor → β)
    (same : ∀ nbr ring, field { nbr with txRingbuf := ring } = field nbr) (n : Option Nat)
    (node : Node) (m : Nat) :
    field ((tschQueueRemovePacketFromQueue n node).2.neighbor m) = field (node.neighbor m) :=
  tschQueueRemovePacketFromQueue_cases
    (motive := fun next => field (next.neighbor m) = field (node.neighbor m)) n rfl
    fun n ring _ => Memb.write_field node.queue.neighborMemb n
      (fun nbr => { nbr with txRingbuf := ring }) field (same _ ring) m

def resetsBackoff (n : Nat) (link : TschLink) (next : Node) : Bool :=
  !(next.neighbor n).isBroadcast &&
    (link.has linkOptionShared || (next.neighbor n).txRingbuf.ringbufindexEmpty)

theorem tschQueuePacketSent_ok (n p : Nat) (link : TschLink) (random : UInt16)
    (free : node.lock.tschLocked = false) (m : Nat) :
    ((tschQueuePacketSent conf n p link .ok random node).2.neighbor m).backoff =
      if m = n ∧ resetsBackoff n link (tschQueuePacketSent conf n p link .ok random node).2 then
        (conf.macMinBe, 0)
      else (node.neighbor m).backoff := by
  have kept := removePacketFromQueue_field TschNeighbor.backoff (fun _ _ => rfl) (some n) node m
  have cast := removePacketFromQueue_field TschNeighbor.isBroadcast (fun _ _ => rfl) (some n) node n
  have unlocked := (OnlyQueue.removePacketFromQueue (some n) node).locked_eq.trans free
  simp only [tschQueuePacketSent, if_true, ← cast]
  generalize (tschQueueRemovePacketFromQueue (some n) node).2 = popped at kept unlocked ⊢
  have tested : (!(popped.neighbor n).isBroadcast &&
      (link.has linkOptionShared || tschQueueIsEmpty (some n) popped)) =
      resetsBackoff n link popped := by
    simp [resetsBackoff, tschQueueIsEmpty, tschIsLocked, unlocked]
  rw [tested]
  by_cases resets : resetsBackoff n link popped = true
  · have still : resetsBackoff n link (tschQueueBackoffReset conf n popped) =
        resetsBackoff n link popped := by
      simp [resetsBackoff, tschQueueBackoffReset, Node.neighbor, Node.writeNeighbor]
    rw [if_pos resets, still]
    by_cases equal : m = n
    · subst equal
      simp [resets, TschNeighbor.backoff, tschQueueBackoffReset, Node.neighbor, Node.writeNeighbor]
    · rw [if_neg fun both => equal both.1, ← kept, tschQueueBackoffReset,
        popped.neighbor_writeNeighbor_other _ equal]
  · rw [if_neg resets, if_neg fun both => resets both.2, kept]

theorem tschQueuePacketSent_dedicated (n p : Nat) {link : TschLink} {status : MacTxStatus}
    (random : UInt16) (failed : status ≠ .ok) (dedicated : link.has linkOptionShared = false)
    (m : Nat) :
    ((tschQueuePacketSent conf n p link status random node).2.neighbor m).backoff =
      (node.neighbor m).backoff := by
  simp only [tschQueuePacketSent, failed, if_false, dedicated, Bool.and_false, Bool.false_eq_true]
  split
  · exact removePacketFromQueue_field TschNeighbor.backoff (fun _ _ => rfl) (some n) node m
  · rfl

section

variable {n : Nat} (p : Nat) (link : TschLink) (input : TxInput)

theorem txAttempt_neighbor (free : node.lock.tschLocked = false)
    (member : n ∈ node.queue.neighborList) :
    (txAttempt conf n p link input node).node.queue.neighborMemb = node.queue.neighborMemb := by
  have same := burstLinkRequested_node conf free member
  simp only [txAttempt]
  split
  · rfl
  · generalize burstLinkRequested conf n node = burst at same ⊢
    obtain ⟨requested, next⟩ := burst
    dsimp only at same ⊢
    subst same
    split
    · rw [txAcknowledged_queue]
      rfl
    · rfl

theorem tschTxSlot_neighbor {dequeuedIndex : UInt8}
    (room : node.queue.dequeuedRingbuf.ringbufindexPeekPut = some dequeuedIndex) (m : Nat) :
    (tschTxSlot conf n p link input node).neighbor m =
      (tschQueuePacketSent conf n p link (txAttempt conf n p link input node).status input.random
        (storeStatus p (txAttempt conf n p link input node))).2.neighbor m := by
  simp only [tschTxSlot, room, txReport]
  generalize tschQueuePacketSent conf n p link (txAttempt conf n p link input node).status
    input.random (storeStatus p (txAttempt conf n p link input node)) = outcome
  rcases outcome with ⟨_ | _, next⟩ <;> rfl

theorem tschTxSlot_backoff (free : node.lock.tschLocked = false)
    (member : n ∈ node.queue.neighborList) {dequeuedIndex : UInt8}
    (room : node.queue.dequeuedRingbuf.ringbufindexPeekPut = some dequeuedIndex) (m : Nat) :
    let status := (txAttempt conf n p link input node).status
    let next := tschTxSlot conf n p link input node
    (status = .ok → (next.neighbor m).backoff =
      if m = n ∧ resetsBackoff n link next then (conf.macMinBe, 0)
      else (node.neighbor m).backoff) ∧
    (status ≠ .ok → link.has linkOptionShared = false →
      (next.neighbor m).backoff = (node.neighbor m).backoff) := by
  have sent : ∀ m, (tschTxSlot conf n p link input node).neighbor m = _ :=
    fun m => tschTxSlot_neighbor p link input room m
  have kept : (storeStatus p (txAttempt conf n p link input node)).neighbor m = node.neighbor m :=
    congrArg (fun memb => memb.mem m) (txAttempt_neighbor p link input free member)
  have unlocked : (storeStatus p (txAttempt conf n p link input node)).lock.tschLocked = false :=
    (RadioWork.attempt conf n p link input node).locked_eq.trans free
  constructor
  · intro ok
    simp only [resetsBackoff, sent, ok]
    rw [← kept]
    exact tschQueuePacketSent_ok n p link input.random unlocked m
  · intro failed dedicated
    rw [sent, ← kept]
    exact tschQueuePacketSent_dedicated n p input.random failed dedicated m

end

theorem tschQueueGetPacketForNbr_expired {n p : Nat} {link : TschLink}
    (shared : link.has linkOptionShared = true)
    (found : tschQueueGetPacketForNbr conf (some n) link node = some p) :
    (node.neighbor n).backoffWindow = 0 := by
  simp only [tschQueueGetPacketForNbr] at found
  split at found
  · rw [Option.bind_some] at found
    obtain ⟨getIndex, -, picked⟩ := Option.bind_eq_some_iff.mp found
    split at picked
    · cases picked
    · rename_i expired
      simpa [shared, tschQueueBackoffExpired] using expired
  · cases found

def tickFor (addr : LinkAddr) (nbr : TschNeighbor) : TschNeighbor :=
  if nbr.backoffWindow != 0 &&
      ((nbr.txLinksCount == 0 && addr = tschBroadcastAddress) ||
        (0 < nbr.txLinksCount && addr = nbr.addr)) then
    { nbr with backoffWindow := nbr.backoffWindow - 1 }
  else nbr

theorem tschQueueUpdateAllBackoffWindows_neighbor (addr : LinkAddr)
    (free : node.lock.tschLocked = false) (unique : node.queue.neighborList.Nodup) (m : Nat) :
    (tschQueueUpdateAllBackoffWindows addr node).neighbor m =
      if m ∈ node.queue.neighborList then tickFor addr (node.neighbor m) else node.neighbor m := by
  simp only [tschQueueUpdateAllBackoffWindows, tschIsLocked, free, Bool.not_false, if_true]
  clear free
  generalize node.queue.neighborList = items at unique ⊢
  induction items generalizing node with
  | nil => rfl
  | cons n rest ih =>
    rw [List.nodup_cons] at unique
    have one : ∀ m, (if (node.neighbor n).backoffWindow != 0 &&
        (((node.neighbor n).txLinksCount == 0 && addr = tschBroadcastAddress) ||
          (0 < (node.neighbor n).txLinksCount && addr = (node.neighbor n).addr)) then
        node.writeNeighbor n fun nbr => { nbr with backoffWindow := nbr.backoffWindow - 1 }
        else node).neighbor m =
        if m = n then tickFor addr (node.neighbor m) else node.neighbor m := by
      intro m
      by_cases equal : m = n
      · subst equal
        rw [if_pos rfl, tickFor]
        split
        · exact node.neighbor_writeNeighbor_same m _
        · rfl
      · rw [if_neg equal]
        split
        · exact node.neighbor_writeNeighbor_other _ equal
        · rfl
    rw [List.foldl_cons, ih unique.2, one]
    by_cases equal : m = n
    · subst equal
      simp [unique.1]
    · simp [equal]

end Runs

/-- The discipline of the shared slots in one state, whatever comes next: the bounds, a draw and
a countdown in full precision, the choice of a packet, and the outcomes of its transmission. -/
structure BackoffDiscipline (node : Node) : Prop where
  exponent : ∀ n ∈ node.queue.neighborList, conf.macMinBe ≤ (node.neighbor n).backoffExponent ∧
    (node.neighbor n).backoffExponent ≤ conf.macMaxBe
  window : ∀ n ∈ node.queue.neighborList,
    (node.neighbor n).backoffWindow.toNat ≤ 2 ^ (node.neighbor n).backoffExponent.toNat
  drawn : ∀ n random, ((tschQueueBackoffInc conf n random node).neighbor n).backoffWindow.toNat =
    (random.toNat >>> 6) %
      2 ^ ((tschQueueBackoffInc conf n random node).neighbor n).backoffExponent.toNat + 1
  counted : ∀ n addr,
    let next := (tschQueueUpdateAllBackoffWindows addr node).neighbor n
    next.backoffWindow = (node.neighbor n).backoffWindow ∨
      next.backoffWindow.toNat + 1 = (node.neighbor n).backoffWindow.toNat
  selected : ∀ input, ∀ entry ∈ txEntry conf input node,
    entry.link.has linkOptionShared = true → (node.neighbor entry.neighbor).backoffWindow = 0
  sent : ∀ input, ∀ entry ∈ txEntry conf input node,
    entry.node.queue.dequeuedRingbuf.ringbufindexPeekPut ≠ none → ∀ m,
    let status :=
      (txAttempt conf entry.neighbor entry.packet entry.link input.tx entry.node).status
    let next := tschTxSlot conf entry.neighbor entry.packet entry.link input.tx entry.node
    (status = .ok → (next.neighbor m).backoff =
      if m = entry.neighbor ∧ resetsBackoff entry.neighbor entry.link next then (conf.macMinBe, 0)
      else (node.neighbor m).backoff) ∧
    (status ≠ .ok → entry.link.has linkOptionShared = false →
      (next.neighbor m).backoff = (node.neighbor m).backoff)

theorem BackoffDiscipline.ofBounded (small : conf.macMaxBe.toNat ≤ 7) {node : Node}
    {queued : Nat → List Nat} {hand : List Nat} (state : PacketInv node queued hand)
    (bounded : node.queue.nbrTable.BackoffBounded conf) : BackoffDiscipline conf node := by
  constructor
  · intro n member
    exact ⟨(bounded n member).min_le, (bounded n member).le_max⟩
  · intro n member
    exact (bounded n member).window_le
  · intro n random
    have raised := NbrProfile.backoffInc_window small random (node.neighbor n).profile
    simp only [tschQueueBackoffInc, node.neighbor_writeNeighbor_same]
    exact raised
  · intro n addr
    dsimp only
    rw [tschQueueUpdateAllBackoffWindows_neighbor addr state.unlocked state.inv.neighbors_nodup]
    split
    · rw [tickFor]
      split
      · rename_i waiting
        simp only [Bool.and_eq_true, bne_iff_ne] at waiting
        have nonzero : (node.neighbor n).profile.backoffWindow ≠ 0 := waiting.1
        exact .inr (NbrProfile.tick_window nonzero)
      · exact .inl rfl
    · exact .inl rfl
  · intro input entry found shared
    exact tschQueueGetPacketForNbr_expired shared (txEntry_some conf found).2.1
  · intro input entry found room m
    obtain ⟨same, -, -⟩ := txEntry_some conf found
    obtain ⟨member, -⟩ := txEntry_head conf state.inv found
    obtain ⟨dequeuedIndex, room⟩ := Option.ne_none_iff_exists'.mp room
    have entered := tschSlotOperation_entry conf input node
    rw [Option.mem_def.mp found] at entered
    have free := entered.1.locked_eq.trans state.unlocked
    have before : entry.node.neighbor m = node.neighbor m := by
      rw [Node.neighbor, same]
      rfl
    rw [← before]
    exact tschTxSlot_backoff entry.packet entry.link input.tx free (same ▸ member) room m

theorem backoff_discipline (ordered : conf.macMinBe ≤ conf.macMaxBe)
    (small : conf.macMaxBe.toNat ≤ 7) (steps : List QueueStep) :
    BackoffDiscipline conf (Run.final (QueueStep.apply conf)
      (tschQueueInit conf (Node.boot conf)) steps) := by
  obtain ⟨⟨queued, hand, state⟩, bounded⟩ := Run.invariant_of_step (BackoffInv conf)
    (BackoffInv.apply ordered small) steps _
    ⟨tschQueueInit_packetInv conf, tschQueueInit_bounded ordered small⟩
  exact BackoffDiscipline.ofBounded conf small state bounded

/-- A slot without an acknowledgement on the shared link, one in which the neighbor waits, and one
with it. -/
theorem backoff_discipline_cc1200 :
    let acked : ReceivedAck := { (default : ReceivedAck) with
      len := 3, parsed := 3, frameType := 2, frameVersion := 2, seq := 7, destPanidOk := true,
      dest := some linkaddrNull }
    let minimal := (tschScheduleCreateMinimal cc1200Conf (Node.boot cc1200Conf)).sched
    let failed : List QueueStep :=
      [.addPacket (Vector.replicate 8 2) 3 none 0 (some ⟨[0x41, 0xd8, 7], 0xffff, 0xffff, 0⟩),
        .elsewhere false minimal default { tschIsAssociated := true, tschIsCoordinator := true }
          (some 0),
        .slot (slotWithAck 64 default)]
    let after := Run.final (QueueStep.apply cc1200Conf)
      (tschQueueInit cc1200Conf (Node.boot cc1200Conf))
    let sent := after (failed ++ [.slot (slotWithAck 0 default), .slot (slotWithAck 0 acked)])
    cc1200Conf.macMinBe ≤ cc1200Conf.macMaxBe ∧ cc1200Conf.macMaxBe.toNat ≤ 7 ∧
      ((after failed).neighbor 2).backoff = (2, 1) ∧ (sent.neighbor 2).backoff = (1, 0) ∧
      BackoffDiscipline cc1200Conf sent :=
  ⟨by decide, by decide, by decide +kernel, by decide +kernel,
    backoff_discipline cc1200Conf (by decide) (by decide) _⟩

end MultiPhyTsch
