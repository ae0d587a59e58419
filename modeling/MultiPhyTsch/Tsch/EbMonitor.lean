import MultiPhyTsch.Lib.Run
import MultiPhyTsch.Tsch.DriftOwner
import MultiPhyTsch.Tsch.EbRoundTrip

/-! The neighbor to fall back on when the time source is lost. `eb_input` keeps the sender of an EB
for `keepalive_packet_sent`, which makes it the time source when a keep-alive is not acknowledged.
Before it stores the sender, `eb_input` compares the address stored last with the time source, and
not the sender. -/

namespace MultiPhyTsch.EbMonitor

structure MonitorConf where
  tsch : TschConf
  packet : PacketConf
  maxJoinPriority : UInt8

structure InputPacket where
  payload : List UInt8
  len : Nat
  rxAsn : TschAsn
  frame : Frame802154
  ies : Ieee802154Ies

structure MonitorState where
  node : Node
  lastEbNbrAddr : LinkAddr := linkaddrNull
  lastEbNbrJp : UInt8 := 0
  tschJoinPriority : UInt8 := 0
  macPanId : UInt16 := 0
  syncCount : Nat := 0

variable (conf : MonitorConf)

namespace MonitorState

def stored (state : MonitorState) : LinkAddr × UInt8 := (state.lastEbNbrAddr, state.lastEbNbrJp)

def tschDisassociate (state : MonitorState) : MonitorState :=
  { state with node := { state.node with
      mac := { state.node.mac with tschIsAssociated := false } } }

def storeEb (eb : EbParsed) (state : MonitorState) : MonitorState :=
  { state with
    lastEbNbrAddr := eb.frame.srcAddr
    lastEbNbrJp := eb.ies.ieJoinPriority }

end MonitorState

variable (input : InputPacket)

def InputPacket.parsed : EbParsed :=
  tschPacketParseEb conf.packet input.payload input.len input.frame input.ies 0 true

/-- `eb_input` without `TSCH_AUTOSELECT_TIME_SOURCE`, with which `tsch_reset` does not compile. -/
def ebInput (state : MonitorState) : MonitorState :=
  let eb := input.parsed conf
  if eb.value ≠ 0 then
    let ts := timeSourceAddr state.node
    let state :=
      if ts = none ∨ ts ≠ some state.lastEbNbrAddr then state.storeEb eb else state
    if ts = some eb.frame.srcAddr then
      let state :=
        if (tschAsnDiff input.rxAsn eb.ies.ieAsn).toInt32 ≠ 0 then state.tschDisassociate else state
      if eb.ies.ieJoinPriority ≥ conf.maxJoinPriority then state.tschDisassociate else state
    else state
  else state

def isEb : Bool :=
  let (ret, frame) :=
    frame802154Parse conf.packet.framer.llsec (input.payload.take input.len) input.frame
  UInt8.ofNat ret != 0 && frame.fcf.frameVersion == ieee802154of2015 &&
    frame.fcf.frameType == beaconFrame

/-- A round of `tsch_rx_process_pending`, less what the upper layers do with a data frame. -/
def tschRxProcessPending (state : MonitorState) : MonitorState :=
  if isEb conf input then ebInput conf input state else state

def keepalivePacketSent (status : MacTxStatus) (state : MonitorState) : MonitorState :=
  if status = .noack then
    if state.lastEbNbrAddr = linkaddrNull then
      if state.syncCount = 0 then state.tschDisassociate else state
    else
      { state with
        node := (tschQueueUpdateTimeSource conf.tsch (some state.lastEbNbrAddr) state.node).2
        tschJoinPriority := state.lastEbNbrJp + 1 }
  else state

def tschReset (state : MonitorState) : MonitorState :=
  let node := tschQueueFreeUnusedNeighbors (tschQueueReset conf.tsch state.node)
  let node := (tschQueueUpdateTimeSource conf.tsch none node).2
  { state with
    macPanId := 0xffff
    node := { node with
      mac := { node.mac with tschCurrentAsn := ⟨0, 0⟩ }
      slot := { node.slot with currentLink := none } }
    tschJoinPriority := 0xff
    lastEbNbrAddr := linkaddrNull }

def InputPacket.eb (input : InputPacket) : Option (LinkAddr × UInt8) :=
  let eb := input.parsed conf
  if isEb conf input && eb.value != 0 then some (eb.frame.srcAddr, eb.ies.ieJoinPriority) else none

/-- `elsewhere` is what the other parts of the node do: the slots, the association, the routing
protocol that follows its preferred parent. -/
inductive MonitorStep where
  | received (input : InputPacket)
  | keepaliveSent (status : MacTxStatus)
  | reset
  | elsewhere (node : Node) (tschJoinPriority : UInt8) (macPanId : UInt16) (syncCount : Nat)

def MonitorStep.apply (state : MonitorState) : MonitorStep → MonitorState
  | received input => tschRxProcessPending conf input state
  | keepaliveSent status => keepalivePacketSent conf status state
  | reset => tschReset conf state
  | elsewhere node tschJoinPriority macPanId syncCount =>
    { state with node, tschJoinPriority, macPanId, syncCount }

/-- The monitor with the last valid EB since the reset whose sender was not the time source when
it came, and the neighbors selected, each with the time source it was to replace. -/
structure MonitorHistory where
  state : MonitorState
  heard : Option (LinkAddr × UInt8)
  selected : List (Option LinkAddr × LinkAddr)

namespace MonitorHistory

def start (node : Node) : MonitorHistory := ⟨{ node := node }, none, []⟩

def hear (history : MonitorHistory) : Option (LinkAddr × UInt8) → Option (LinkAddr × UInt8)
  | some eb => if timeSourceAddr history.state.node = some eb.1 then history.heard else some eb
  | none => history.heard

def step (history : MonitorHistory) (step : MonitorStep) : MonitorHistory :=
  { state := step.apply conf history.state
    heard :=
      match step with
      | .received input => history.hear (input.eb conf)
      | .reset => none
      | _ => history.heard
    selected :=
      match step with
      | .keepaliveSent .noack =>
        if history.state.lastEbNbrAddr = linkaddrNull then history.selected
        else (timeSourceAddr history.state.node, history.state.lastEbNbrAddr) :: history.selected
      | _ => history.selected }

variable (history : MonitorHistory)

def Describes : Prop :=
  match history.heard with
  | some eb => history.state.stored = eb
  | none => history.state.lastEbNbrAddr = linkaddrNull

def Replaces : Prop :=
  ∀ selection ∈ history.selected, selection.1 ≠ some selection.2

def Monitors : Prop := history.Describes ∧ history.Replaces

/-- While there is a time source, an EB is its own exactly if the address stored is its own, and a
keep-alive is lost only while another address is stored. -/
def Apart : MonitorStep → Prop
  | .received input => ∀ eb ∈ input.eb conf, ∀ source ∈ timeSourceAddr history.state.node,
      (eb.1 = source ↔ history.state.lastEbNbrAddr = source)
  | .keepaliveSent status => status = .noack → history.state.lastEbNbrAddr ≠ linkaddrNull →
      timeSourceAddr history.state.node ≠ some history.state.lastEbNbrAddr
  | _ => True

end MonitorHistory

theorem stored_tschRxProcessPending (input : InputPacket) (state : MonitorState) :
    (tschRxProcessPending conf input state).stored =
      match input.eb conf with
      | some eb =>
        if timeSourceAddr state.node = some state.lastEbNbrAddr then state.stored else eb
      | none => state.stored := by
  unfold tschRxProcessPending InputPacket.eb
  cases received : isEb conf input with
  | false => rfl
  | true =>
    unfold ebInput
    by_cases valid : (input.parsed conf).value = 0
    · simp [valid]
    · simp only [ne_eq, valid, not_false_eq_true, if_true, Bool.true_and, bne_iff_ne]
      by_cases same : timeSourceAddr state.node = some state.lastEbNbrAddr
      · simp only [same, reduceCtorEq, not_true_eq_false, or_self, if_false, if_true]
        split_ifs <;> rfl
      · simp only [same, not_false_eq_true, or_true, if_false, if_true]
        split_ifs <;> rfl

namespace MonitorHistory

theorem Describes.kept {history next : MonitorHistory} (describes : history.Describes)
    (heard : next.heard = history.heard) (stored : next.state.stored = history.state.stored) :
    next.Describes := by
  have addr : next.state.lastEbNbrAddr = history.state.lastEbNbrAddr := congrArg Prod.fst stored
  unfold Describes at describes ⊢
  rw [heard, stored, addr]
  exact describes

theorem describes_of_heard {history : MonitorHistory}
    (heard : history.heard = some history.state.stored) : history.Describes := by
  unfold Describes
  rw [heard]

theorem Describes.addr_eq {history next : MonitorHistory} (describes : history.Describes)
    (later : next.Describes) (heard : next.heard = history.heard) :
    next.state.lastEbNbrAddr = history.state.lastEbNbrAddr := by
  unfold Describes at describes later
  rw [heard] at later
  rcases known : history.heard with _ | eb
  · rw [known] at describes later
    exact later.trans describes.symm
  · rw [known] at describes later
    exact congrArg Prod.fst (later.trans describes.symm)

variable (history : MonitorHistory)

theorem describes_received (input : InputPacket) (describes : history.Describes) :
    (history.step conf (.received input)).Describes ↔ history.Apart conf (.received input) := by
  have stored : (history.step conf (.received input)).state.stored = _ :=
    stored_tschRxProcessPending conf input history.state
  have heard : (history.step conf (.received input)).heard = history.hear (input.eb conf) := rfl
  have apart : history.Apart conf (.received input) = ∀ eb ∈ input.eb conf,
    ∀ source ∈ timeSourceAddr history.state.node,
      (eb.1 = source ↔ history.state.lastEbNbrAddr = source) := rfl
  rw [apart]
  rcases received : input.eb conf with _ | ⟨addr, joinPriority⟩
  · rw [received] at stored heard
    simp only [Option.not_mem_none, false_implies, implies_true, iff_true]
    exact describes.kept heard stored
  · rw [received] at stored heard
    simp only [hear] at heard
    simp only [Option.mem_some_iff, forall_eq']
    rcases current : timeSourceAddr history.state.node with _ | source
    · rw [current] at stored heard
      simp only [reduceCtorEq, if_false] at stored heard
      simp only [Option.not_mem_none, false_implies, implies_true, iff_true]
      exact describes_of_heard (heard.trans (congrArg some stored.symm))
    · rw [current] at stored heard
      simp only [Option.some.injEq] at stored heard
      simp only [Option.mem_some_iff, forall_eq']
      by_cases own : addr = source
      · rw [if_pos own.symm] at heard
        by_cases kept : history.state.lastEbNbrAddr = source
        · rw [if_pos kept.symm] at stored
          exact iff_of_true (describes.kept heard stored) (iff_of_true own kept)
        · rw [if_neg (Ne.symm kept)] at stored
          -- The time source took the place of the EB heard last.
          refine iff_of_false (fun later => kept ?_) (fun both => kept (both.mp own))
          rw [← describes.addr_eq later heard, ← own]
          exact congrArg Prod.fst stored
      · rw [if_neg (Ne.symm own)] at heard
        by_cases kept : history.state.lastEbNbrAddr = source
        · rw [if_pos kept.symm] at stored
          -- The EB of another neighbor was not stored.
          refine iff_of_false (fun later => own ?_) (fun both => own (both.mpr kept))
          unfold Describes at later
          rw [heard] at later
          rw [← kept]
          exact (congrArg Prod.fst (later.symm.trans stored))
        · rw [if_neg (Ne.symm kept)] at stored
          exact iff_of_true (describes_of_heard (heard.trans (congrArg some stored.symm)))
            (iff_of_false own kept)

theorem stored_keepalivePacketSent (status : MacTxStatus) (state : MonitorState) :
    (keepalivePacketSent conf status state).stored = state.stored := by
  unfold keepalivePacketSent
  split_ifs <;> rfl

theorem monitors_keepaliveSent (status : MacTxStatus) (monitors : history.Monitors) :
    (history.step conf (.keepaliveSent status)).Monitors ↔
      history.Apart conf (.keepaliveSent status) := by
  have describes : (history.step conf (.keepaliveSent status)).Describes :=
    monitors.1.kept rfl (stored_keepalivePacketSent conf status history.state)
  have apart : history.Apart conf (.keepaliveSent status) = (status = .noack →
    history.state.lastEbNbrAddr ≠ linkaddrNull →
      timeSourceAddr history.state.node ≠ some history.state.lastEbNbrAddr) := rfl
  rw [Monitors, and_iff_right describes, apart]
  by_cases lost : status = .noack
  · subst lost
    by_cases empty : history.state.lastEbNbrAddr = linkaddrNull
    · have selected : (history.step conf (.keepaliveSent .noack)).selected = history.selected :=
        if_pos empty
      rw [Replaces, selected]
      exact iff_of_true monitors.2 fun _ filled => absurd empty filled
    · have selected : (history.step conf (.keepaliveSent .noack)).selected =
          (timeSourceAddr history.state.node, history.state.lastEbNbrAddr) :: history.selected :=
        if_neg empty
      rw [Replaces, selected, List.forall_mem_cons]
      rw [and_iff_left (show ∀ selection ∈ history.selected, _ from monitors.2)]
      exact ⟨fun other _ _ => other, fun other => other rfl empty⟩
  · have selected : (history.step conf (.keepaliveSent status)).selected = history.selected := by
      cases status with
      | noack => exact absurd rfl lost
      | ok => rfl
      | collision => rfl
      | deferred => rfl
      | err => rfl
      | errFatal => rfl
    rw [Replaces, selected]
    exact iff_of_true monitors.2 fun noack => absurd noack lost

theorem monitors_step (step : MonitorStep) (monitors : history.Monitors) :
    (history.step conf step).Monitors ↔ history.Apart conf step := by
  cases step with
  | received input =>
    have replaces : (history.step conf (.received input)).Replaces := monitors.2
    rw [Monitors, and_iff_left replaces]
    exact describes_received conf history input monitors.1
  | keepaliveSent status => exact monitors_keepaliveSent conf history status monitors
  | reset => exact iff_of_true ⟨rfl, monitors.2⟩ trivial
  | elsewhere node tschJoinPriority macPanId syncCount =>
    exact iff_of_true ⟨monitors.1.kept rfl rfl, monitors.2⟩ trivial

end MonitorHistory

open MonitorHistory

/-- The monitor does its work along a run exactly if every EB that comes while there is a time
source is from it just when its address is stored, and no keep-alive is lost while the address
stored is that of the time source. -/
theorem monitors_iff_apart (node : Node) (steps : List MonitorStep) :
    Run.Always (MonitorHistory.step conf) Monitors (.start node) steps ↔
      Run.Meets (MonitorHistory.step conf) (Apart conf) (.start node) steps := by
  have allowed : Run.Meets (MonitorHistory.step conf) (fun _ _ => True) (.start node) steps :=
    Run.meets_of_forall (fun _ _ => trivial) steps _
  refine Run.always_iff_meets Monitors (fun _ monitors => monitors) ?_ ?_ steps _ ?_ allowed
  · intro history step monitors _ apart
    exact (history.monitors_step conf step monitors).mpr apart
  · intro history step monitors _ mixed later
    exact mixed ((history.monitors_step conf step monitors).mp later)
  · exact ⟨rfl, fun _ absent => absurd absent List.not_mem_nil⟩

def monitorConf : MonitorConf :=
  { tsch := cc1200Conf
    packet := beaconPackets {}
    maxJoinPriority := 32 }

def beaconOf (addr : LinkAddr) : InputPacket :=
  let frame := ((tschPacketCreateEb (beaconPackets {}) { beaconSource with nodeAddr := addr }).map
    fun created => packetbufFrame created.1).getD []
  ⟨frame, frame.length, ⟨0, 0⟩, default, iesZero ⟨16, false⟩⟩

def following (addr : LinkAddr) : Node :=
  (tschQueueUpdateTimeSource cc1200Conf (some addr)
    (tschQueueInit cc1200Conf (Node.boot cc1200Conf))).2

def hearsBoth : List MonitorStep :=
  [.received (beaconOf (Vector.replicate 8 2)), .received (beaconOf (Vector.replicate 8 3)),
    .keepaliveSent .noack]

theorem timeSource_selected_again : ¬ ∀ (conf : MonitorConf) (node : Node) (steps : List MonitorStep),
    Run.Always (MonitorHistory.step conf) Monitors (.start node) steps := by
  intro always
  have monitors := Run.always_final (always monitorConf (following (Vector.replicate 8 2)) hearsBoth)
  have selected : (some (Vector.replicate 8 2), Vector.replicate 8 2) ∈
      (Run.final (MonitorHistory.step monitorConf) (.start (following (Vector.replicate 8 2)))
        hearsBoth).selected := by
    decide +kernel
  exact monitors.2 _ selected rfl

end MultiPhyTsch.EbMonitor
