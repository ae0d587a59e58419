import MultiPhyTsch.Tsch.Phy
import MultiPhyTsch.Tsch.Schedule
import MultiPhyTsch.Tsch.TxSlot

/-! `tsch-slot-operation.c`: one pass of `tsch_slot_operation` from its wake-up to its yield,
`tsch_slot_operation_start` and `tsch_slot_operation_sync`. The clock readings of the
scheduling loop, what the radio returns and what is received are the input of a pass. -/

namespace MultiPhyTsch

variable (conf : TschConf)

def getPacketAndNeighborForLink (link : TschLink) (node : Node) : Option Nat × Option Nat :=
  if link.has linkOptionTx then
    let (p, n) :=
      if link.linkType = .advertising ∨ link.linkType = .advertisingOnly then
        (tschQueueGetPacketForNbr conf node.queue.nEb link node, node.queue.nEb)
      else (none, none)
    if link.linkType ≠ .advertisingOnly ∧ p = none then
      let n := tschQueueGetNbr link.addr node
      match tschQueueGetPacketForNbr conf n link node with
      | some p => (some p, n)
      | none =>
        if n = node.queue.nBroadcast then
          match tschQueueGetUnicastPacketForAny conf link node with
          | some (p, n) => (some p, some n)
          | none => (none, n)
        else (none, n)
    else (p, n)
  else (none, none)

/-- What a listening slot receives. `frameValid` is the outcome of the parser, the PAN
identifier, the frame type and the security checks together. -/
structure RxInput where
  inputSpace : Bool
  packetSeen : Bool
  pendingPacket : Bool
  frameValid : Bool
  forThisNode : Bool
  ackRequired : Bool
  ackLen : Int
  framePending : Bool
  sourceAddress : LinkAddr
  estimatedDrift : Int32
  lowerNodeId : Bool
deriving DecidableEq, Repr, Inhabited

def sourceIsTimeSource (n : Option Nat) (input : RxInput) (node : Node) : Bool :=
  if conf.syncWithLowerNodeId then input.lowerNodeId
  else n.any fun n => (node.neighbor n).isTimeSource

def scheduleReceivedBurst (input : RxInput) (node : Node) : Node :=
  if input.ackRequired && 0 < input.ackLen then
    { node with slot := { node.slot with burstLinkScheduled := input.framePending } }
  else node

def tschRxSlot (link : TschLink) (input : RxInput) (node : Node) : Node :=
  if input.inputSpace && input.packetSeen && input.pendingPacket && input.frameValid &&
      input.forThisNode then
    let node := scheduleReceivedBurst input node
    let n := tschQueueGetNbr input.sourceAddress node
    if sourceIsTimeSource conf n input node && link.has linkOptionTimeKeeping then
      storeCorrection conf n (-input.estimatedDrift) node
    else node
  else node

/-- The channel of an active slot and the radio work that goes with it. The radio is selected
first, then the channel computed, then the cc1200 reconfigured. -/
def selectPhy (slotframe : TschSlotframe) (link : TschLink) (busy : Bool) (node : Node) : Node :=
  let phy :=
    if conf.withMultiradio then multiradioSelect conf slotframe.radio node.phy else node.phy
  let slot :=
    if node.slot.burstLinkScheduled then { node.slot with burstLinkScheduled := false }
    else { node.slot with tschCurrentChannel :=
      tschCalculateChannel conf phy node.mac node.mac.tschCurrentAsn link.channelOffset.toUInt8 }
  let phy :=
    if conf.withCc1200Reconf then
      match slotframe.cc1200Config with
      | some config => cc1200Reconfigure config busy slot.tschCurrentChannel phy
      | none => netstackSetChannel conf busy slot.tschCurrentChannel phy
    else netstackSetChannel conf busy slot.tschCurrentChannel phy
  { node with phy := phy, slot := slot }

/-- The slotframe an active slot reads its PHY from. NULL is dereferenced by the code; the
default record stands for what is read there. -/
def slotframeOfLink (link : TschLink) (node : Node) : TschSlotframe :=
  ((tschScheduleGetSlotframeByHandle link.slotframeHandle node).map node.slotframe).getD default

structure Attempt where
  now : UInt32
  rtimerOk : Bool
deriving DecidableEq, Repr, Inhabited

structure SlotInput where
  busy : Bool
  tx : TxInput
  rx : RxInput
  attempt : Attempt
  retries : List Attempt
deriving Inhabited

def chooseLink (l : Nat) (node : Node) : Node :=
  let (p, n) := getPacketAndNeighborForLink conf (node.link l) node
  match p, node.slot.backupLink with
  | none, some backup =>
    if (node.link l).has linkOptionRx then
      { node with slot := { node.slot with currentPacket := none, currentNeighbor := n } }
    else
      let (p, n) := getPacketAndNeighborForLink conf (node.link backup) node
      { node with slot := { node.slot with
        currentLink := some backup, currentPacket := p, currentNeighbor := n } }
  | _, _ => { node with slot := { node.slot with currentPacket := p, currentNeighbor := n } }

def executeLink (l : Nat) (input : SlotInput) (node : Node) : Node :=
  let link := node.link l
  if node.slot.currentPacket ≠ none ∨ link.has linkOptionRx ∨ link.has linkOptionSampleRssi then
    let node := selectPhy conf (slotframeOfLink link node) link input.busy node
    if link.has linkOptionSampleRssi then node
    else
      match node.slot.currentPacket, node.slot.currentNeighbor with
      | some p, some n => tschTxSlot conf n p link input.tx node
      | some _, none => node
      | none, _ => tschRxSlot conf link input.rx node
  else { node with slot := { node.slot with burstLinkScheduled := false } }

def enterSlot (node : Node) : Node :=
  { node with
    lock := { node.lock with tschInSlotOperation := true }
    slot := { node.slot with driftCorrection := 0, isDriftCorrectionUsed := false } }

def runSlot (l : Nat) (input : SlotInput) (node : Node) : Node :=
  let node := chooseLink conf l (enterSlot node)
  match node.slot.currentLink with
  | some l => executeLink conf l input node
  | none => node

def checkTimerMiss (refTime offset now : UInt32) : Bool :=
  let target := refTime + offset
  let nowHasOverflowed := decide (now < refTime)
  let targetHasOverflowed := decide (target < refTime)
  if nowHasOverflowed = targetHasOverflowed then decide (target ≤ now) else nowHasOverflowed

def tschScheduleSlotOperation (refTime offset : UInt32) (attempt : Attempt) : Bool :=
  !checkTimerMiss refTime (offset - conf.rtimerGuard) attempt.now && attempt.rtimerOk

def takeNextActiveLink (node : Node) : Node × UInt16 :=
  match tschScheduleGetNextActiveLink node.mac.tschCurrentAsn node with
  | (some l, timeOffset, backup) =>
    ({ node with slot := { node.slot with currentLink := some l, backupLink := backup } },
      timeOffset.getD 0)
  | (none, _, backup) =>
    ({ node with slot := { node.slot with currentLink := none, backupLink := backup } }, 1)

def nextLink (node : Node) : Node × UInt16 :=
  if node.slot.burstLinkScheduled then
    ({ node with slot := { node.slot with
      backupLink := none
      tschCurrentBurstCount := node.slot.tschCurrentBurstCount + 1 } }, 1)
  else
    let (node, timeslotDiff) := takeNextActiveLink node
    ({ node with slot := { node.slot with
      tschCurrentBurstCount := if node.slot.currentLink = none then node.slot.tschCurrentBurstCount
        else 0 } }, timeslotDiff)

def advanceClock (advance : Advance) (time : UInt32) (node : Node) : Node :=
  { node with
    mac := { node.mac with
      tschCurrentAsn := tschAsnInc node.mac.tschCurrentAsn advance.timeslotDiff.toUInt32 }
    slot := { node.slot with
      currentSlotStart := node.slot.currentSlotStart + time
      ledger := node.slot.ledger ++ [advance] } }

def countSharedLink (node : Node) : Node :=
  match node.slot.currentLink with
  | some l =>
    if (node.link l).has linkOptionTx && (node.link l).has linkOptionShared then
      tschQueueUpdateAllBackoffWindows (node.link l).addr node
    else node
  | none => node

/-- One round of the scheduling loop; the second component is `time_to_next_active_slot`. -/
def scheduleNext (node : Node) : Node × UInt32 :=
  let (node, timeslotDiff) := nextLink (countSharedLink node)
  let time := timeslotDiff.toUInt32 * conf.timeslotLength + node.slot.driftCorrection.toUInt32
  let (compensation, timesync) := tschTimesyncAdaptiveCompensate conf time node.timesync
  let time := time + compensation.toUInt32
  let correction :=
    if node.slot.isDriftCorrectionUsed then some node.slot.driftCorrection else none
  let node := advanceClock ⟨timeslotDiff, correction, compensation⟩ time node
  ({ node with
    timesync := timesync
    slot := { node.slot with driftCorrection := 0, isDriftCorrectionUsed := false } }, time)

/-- The do-while loops that schedule the next wake-up: the body is repeated until
`tsch_schedule_slot_operation` succeeds or the readings end. -/
def retryLoop (body : Node → Node × UInt32) : Attempt → List Attempt → Node → Node
  | attempt, retries, node =>
    let (next, time) := body node
    if tschScheduleSlotOperation conf node.slot.currentSlotStart time attempt then next
    else
      match retries with
      | retry :: retries => retryLoop body retry retries next
      | [] => next

variable (input : SlotInput)

variable (node : Node)

def endSlot : Node :=
  if !node.mac.tschIsCoordinator &&
      tschAsnDiff node.mac.tschCurrentAsn node.slot.lastSyncAsn > conf.desyncThresholdSlots then
    { node with
      timesync := { node.timesync with lastTimesourceNeighbor := none }
      mac := { node.mac with tschIsAssociated := false } }
  else retryLoop conf (scheduleNext conf) input.attempt input.retries node

def skipOrRunSlot : Node :=
  match node.slot.currentLink with
  | some l => if node.lock.tschLockRequested then node else runSlot conf l input node
  | none => node

def tschSlotOperation : Node :=
  if node.mac.tschIsAssociated then
    let node := endSlot conf input (skipOrRunSlot conf input node)
    { node with lock := { node.lock with tschInSlotOperation := false } }
  else node

def startNext : Node × UInt32 :=
  let (node, timeslotDiff) := takeNextActiveLink node
  let time := timeslotDiff.toUInt32 * conf.timeslotLength
  (advanceClock ⟨timeslotDiff, none, 0⟩ time node, time)

def tschSlotOperationStart (attempt : Attempt) (retries : List Attempt) (node : Node) : Node :=
  retryLoop conf (startNext conf) attempt retries node

def tschSlotOperationSync (nextSlotStart : UInt32) (nextSlotAsn : TschAsn) (node : Node) : Node :=
  { node with
    mac := { node.mac with tschCurrentAsn := nextSlotAsn }
    slot := { node.slot with
      currentSlotStart := nextSlotStart, lastSyncAsn := nextSlotAsn, currentLink := none } }

/-! Sending and receiving leave the schedule, the radios and the choice of the link alone. -/

structure RadioWork (node next : Node) : Prop where
  sched_eq : next.sched = node.sched
  phy_eq : next.phy = node.phy
  mac_eq : next.mac = node.mac
  channel_eq : next.slot.tschCurrentChannel = node.slot.tschCurrentChannel
  currentLink_eq : next.slot.currentLink = node.slot.currentLink
  backupLink_eq : next.slot.backupLink = node.slot.backupLink
  locked_eq : next.lock.tschLocked = node.lock.tschLocked

namespace RadioWork

theorem refl (node : Node) : RadioWork node node := ⟨rfl, rfl, rfl, rfl, rfl, rfl, rfl⟩

theorem trans {node middle next : Node} (one : RadioWork node middle)
    (two : RadioWork middle next) : RadioWork node next :=
  ⟨two.sched_eq.trans one.sched_eq, two.phy_eq.trans one.phy_eq, two.mac_eq.trans one.mac_eq,
    two.channel_eq.trans one.channel_eq, two.currentLink_eq.trans one.currentLink_eq,
    two.backupLink_eq.trans one.backupLink_eq, two.locked_eq.trans one.locked_eq⟩

theorem ofOnlyQueue {node next : Node} (only : OnlyQueue node next) : RadioWork node next :=
  ⟨only.sched_eq, only.phy_eq, only.mac_eq, by rw [only.slot_eq], by rw [only.slot_eq],
    by rw [only.slot_eq], only.locked_eq⟩

theorem acknowledged (n : Nat) (link : TschLink) (requested : Bool) (input : TxInput)
    (node : Node) : RadioWork node (txAcknowledged conf n link requested input node) := by
  simp only [txAcknowledged]
  by_cases source : (targetIsTimeSource conf n input node && link.has linkOptionTimeKeeping) = true
  · simp only [source, if_true]
    split <;> exact ⟨rfl, rfl, rfl, rfl, rfl, rfl, rfl⟩
  · simp only [source]
    split <;> exact ⟨rfl, rfl, rfl, rfl, rfl, rfl, rfl⟩

theorem burst (n : Nat) (node : Node) : RadioWork node (burstLinkRequested conf n node).2 := by
  simp only [burstLinkRequested]
  split
  · exact ofOnlyQueue (OnlyQueue.packetCount conf _ node)
  · exact refl node

theorem attempt (n p : Nat) (link : TschLink) (input : TxInput) (node : Node) :
    RadioWork node (txAttempt conf n p link input node).node := by
  simp only [txAttempt]
  split
  · exact refl node
  · have requested := burst conf n node
    generalize burstLinkRequested conf n node = result at requested ⊢
    refine requested.trans ?_
    dsimp only
    have written : ∀ f, RadioWork result.2 (result.2.writePacket p f) :=
      fun f => ⟨rfl, rfl, rfl, rfl, rfl, rfl, rfl⟩
    split
    · exact (written _).trans (acknowledged conf n link _ input _)
    · exact written _

theorem txSlot (n p : Nat) (link : TschLink) (input : TxInput) (node : Node) :
    RadioWork node (tschTxSlot conf n p link input node) := by
  simp only [tschTxSlot]
  split
  · refine (attempt conf n p link input node).trans ?_
    generalize txAttempt conf n p link input node = attempted
    have stored : RadioWork attempted.node (storeStatus p attempted) :=
      ⟨rfl, rfl, rfl, rfl, rfl, rfl, rfl⟩
    refine stored.trans ?_
    have sent := OnlyQueue.packetSent conf n p link attempted.status input.random
      (storeStatus p attempted)
    simp only [txReport]
    generalize tschQueuePacketSent conf n p link attempted.status input.random
      (storeStatus p attempted) = result at sent ⊢
    refine (ofOnlyQueue sent).trans ?_
    rcases result with ⟨_ | _, next⟩
    · exact ⟨rfl, rfl, rfl, rfl, rfl, rfl, rfl⟩
    · exact refl next
  · exact refl node

theorem rxSlot (link : TschLink) (input : RxInput) (node : Node) :
    RadioWork node (tschRxSlot conf link input node) := by
  simp only [tschRxSlot]
  split
  · have received : RadioWork node (scheduleReceivedBurst input node) := by
      simp only [scheduleReceivedBurst]
      split <;> exact ⟨rfl, rfl, rfl, rfl, rfl, rfl, rfl⟩
    refine received.trans ?_
    split
    · exact ⟨rfl, rfl, rfl, rfl, rfl, rfl, rfl⟩
    · exact refl _
  · exact refl node

end RadioWork

theorem countSharedLink_onlyQueue (node : Node) : OnlyQueue node (countSharedLink node) := by
  simp only [countSharedLink]
  split
  · split
    · exact OnlyQueue.updateAllBackoffWindows _ node
    · exact OnlyQueue.refl node
  · exact OnlyQueue.refl node

theorem retryLoop_rounds (before after : Node → Prop) {body : Node → Node × UInt32}
    (round : ∀ node, before node → after (body node).1)
    (again : ∀ node, after node → before node) :
    ∀ (retries : List Attempt) (attempt : Attempt) (node : Node), before node →
      after (retryLoop conf body attempt retries node) := by
  intro retries
  induction retries with
  | nil =>
    intro attempt node holds
    have next := round node holds
    rw [retryLoop]
    generalize body node = result at next ⊢
    obtain ⟨done, time⟩ := result
    dsimp only at next ⊢
    split
    · exact next
    · exact next
  | cons retry retries ih =>
    intro attempt node holds
    have next := round node holds
    rw [retryLoop]
    generalize body node = result at next ⊢
    obtain ⟨done, time⟩ := result
    dsimp only at next ⊢
    split
    · exact next
    · exact ih retry done (again done next)

/-- What the main thread may change between two slots, apart from the clock: the schedule, the
queues, the lock flags, the radios, `current_link` and the MAC variables. -/
structure MainThread where
  lock : LockFlags
  sched : Schedule
  queue : Queue
  phy : Phy
  mac : Mac
  currentLink : Option Nat

def MainThread.apply (change : MainThread) (node : Node) : Node :=
  { node with
    lock := change.lock
    sched := change.sched
    queue := change.queue
    phy := change.phy
    mac := { change.mac with tschCurrentAsn := node.mac.tschCurrentAsn }
    slot := { node.slot with currentLink := change.currentLink } }

inductive SlotStep where
  | slot (input : SlotInput)
  | start (attempt : Attempt) (retries : List Attempt)
  | mainThread (change : MainThread)

def SlotStep.apply (node : Node) : SlotStep → Node
  | slot input => tschSlotOperation conf input node
  | start attempt retries => tschSlotOperationStart conf attempt retries node
  | mainThread change => change.apply node

end MultiPhyTsch
