import MultiPhyTsch.Lib.Run
import MultiPhyTsch.Tsch.NextActiveLink
import MultiPhyTsch.Tsch.SlotOperation

/-! `current_link` and `backup_link` over runs of schedule calls and slots. Removing a link
resets `current_link` when it points to that link, and leaves `backup_link` alone. -/

namespace MultiPhyTsch

variable (conf : TschConf)

structure LinkView where
  locked : Bool
  sched : Schedule
  currentLink : Option Nat
  backupLink : Option Nat

def Node.linkView (node : Node) : LinkView :=
  ⟨node.lock.tschLocked, node.sched, node.slot.currentLink, node.slot.backupLink⟩

structure LinkView.Sound (view : LinkView) : Prop where
  unlocked : view.locked = false
  inv : ScheduleInv view.sched
  current : ∀ l ∈ view.currentLink, l ∈ view.sched.installedLinks
  backup : ∀ l ∈ view.backupLink, l ∈ view.sched.installedLinks

theorem RadioWork.linkView_eq {node next : Node} (work : RadioWork node next) :
    next.linkView = node.linkView := by
  simp only [Node.linkView, work.locked_eq, work.sched_eq, work.currentLink_eq, work.backupLink_eq]

variable {node : Node}

theorem nextActiveLink_installed (free : node.lock.tschLocked = false)
    (inv : ScheduleInv node.sched) (asn : TschAsn) :
    (∀ l ∈ (tschScheduleGetNextActiveLink asn node).1, l ∈ node.sched.installedLinks) ∧
    ∀ l ∈ (tschScheduleGetNextActiveLink asn node).2.2, l ∈ node.sched.installedLinks := by
  obtain ⟨scan, scanned, result⟩ := tschScheduleGetNextActiveLink_scanned inv asn free
  rw [result]
  have ofTied : ∀ l time, l ∈ tiedAt (candidates asn node) time →
      l ∈ node.sched.installedLinks := by
    intro l time member
    exact NextAt.installed asn ((mem_candidates inv asn).mp (mem_tiedAt.mp member))
  cases scanned with
  | empty _ eq =>
    subst eq
    constructor
    · intro l absent
      cases absent
    · intro l absent
      cases absent
  | found best current _ tied =>
    constructor
    · intro l isBest
      have same : best = l := by simpa [current] using isBest
      exact same ▸ ofTied best _ tied.best_mem
    · intro l isBackup
      exact ofTied l _ (tied.backup_mem l isBackup).1

theorem takeNextActiveLink_sound (sound : node.linkView.Sound) :
    (takeNextActiveLink node).1.linkView.Sound := by
  obtain ⟨best, backup⟩ := nextActiveLink_installed sound.unlocked sound.inv node.mac.tschCurrentAsn
  simp only [takeNextActiveLink]
  generalize tschScheduleGetNextActiveLink node.mac.tschCurrentAsn node = result at best backup ⊢
  obtain ⟨l, timeOffset, b⟩ := result
  cases l with
  | some l => exact ⟨sound.unlocked, sound.inv, best, backup⟩
  | none => exact ⟨sound.unlocked, sound.inv, best, backup⟩

theorem nextLink_sound (sound : node.linkView.Sound) : (nextLink node).1.linkView.Sound := by
  simp only [nextLink]
  split
  · refine ⟨sound.unlocked, sound.inv, sound.current, ?_⟩
    intro l absent
    cases absent
  · exact takeNextActiveLink_sound sound

theorem scheduleNext_sound (sound : node.linkView.Sound) :
    (scheduleNext conf node).1.linkView.Sound := by
  have counted := (RadioWork.ofOnlyQueue (countSharedLink_onlyQueue node)).linkView_eq
  rw [← counted] at sound
  exact nextLink_sound sound

theorem endSlot_sound (input : SlotInput) (sound : node.linkView.Sound) :
    (endSlot conf input node).linkView.Sound := by
  simp only [endSlot]
  split
  · exact sound
  · exact retryLoop_rounds conf (fun node => node.linkView.Sound) (fun node => node.linkView.Sound)
      (fun _ sound => scheduleNext_sound conf sound) (fun _ sound => sound) _ _ node sound

theorem chooseLink_sound (l : Nat) (sound : node.linkView.Sound) :
    (chooseLink conf l node).linkView.Sound := by
  simp only [chooseLink]
  split
  · rename_i backup _ isBackup
    split
    · exact sound
    · refine ⟨sound.unlocked, sound.inv, ?_, sound.backup⟩
      intro other same
      exact sound.backup other (isBackup.trans same)
  · exact sound

theorem selectPhy_linkView (slotframe : TschSlotframe) (link : TschLink) (busy : Bool)
    (node : Node) : (selectPhy conf slotframe link busy node).linkView = node.linkView := by
  by_cases burst : node.slot.burstLinkScheduled = true
  · simp [selectPhy, Node.linkView, burst]
  · simp [selectPhy, Node.linkView, burst]

theorem executeLink_linkView (l : Nat) (input : SlotInput) (node : Node) :
    (executeLink conf l input node).linkView = node.linkView := by
  simp only [executeLink]
  split
  · have selected := selectPhy_linkView conf (slotframeOfLink (node.link l) node) (node.link l)
      input.busy node
    generalize selectPhy conf (slotframeOfLink (node.link l) node) (node.link l) input.busy node =
      middle at selected ⊢
    rw [← selected]
    split
    · rfl
    · split
      · exact (RadioWork.txSlot conf _ _ _ _ middle).linkView_eq
      · rfl
      · exact (RadioWork.rxSlot conf _ _ middle).linkView_eq
  · rfl

theorem tschSlotOperation_sound (input : SlotInput) (sound : node.linkView.Sound) :
    (tschSlotOperation conf input node).linkView.Sound := by
  have slot : (skipOrRunSlot conf input node).linkView.Sound := by
    simp only [skipOrRunSlot]
    split
    · split
      · exact sound
      · rename_i l _ _
        have entered : (enterSlot node).linkView.Sound := sound
        have chosen := chooseLink_sound conf l entered
        simp only [runSlot]
        split
        · rw [executeLink_linkView]
          exact chosen
        · exact chosen
    · exact sound
  simp only [tschSlotOperation]
  split
  · exact endSlot_sound conf input slot
  · exact sound

theorem tschSlotOperationStart_sound (attempt : Attempt) (retries : List Attempt)
    (sound : node.linkView.Sound) :
    (tschSlotOperationStart conf attempt retries node).linkView.Sound :=
  retryLoop_rounds conf (fun node => node.linkView.Sound) (fun node => node.linkView.Sound)
    (fun _ sound => takeNextActiveLink_sound sound) (fun _ sound => sound) retries attempt node sound

theorem ScheduleCall.exec_sound {call : ScheduleCall} (sound : node.linkView.Sound)
    (valid : call.PointerValid node)
    (keepsBackup : ∀ l ∈ node.slot.backupLink, l ∉ call.removedLinks node) :
    (call.exec conf node).linkView.Sound := by
  have effect := ScheduleCall.exec_effect conf sound.unlocked sound.inv valid
  refine ⟨effect.unlocked, effect.inv, ?_, ?_⟩
  · intro l current
    simp only [Node.linkView, effect.slot_eq, Slot.forget] at current
    split at current
    · cases current
    · rename_i kept
      refine (effect.kept l (sound.current l current) ?_).1
      intro removed
      exact kept ⟨l, current, removed⟩
  · intro l backup
    have same : (call.exec conf node).slot.backupLink = node.slot.backupLink := by
      rw [effect.slot_eq, Slot.forget]
      split <;> rfl
    change l ∈ (call.exec conf node).slot.backupLink at backup
    rw [same] at backup
    exact (effect.kept l (sound.backup l backup) (keepsBackup l backup)).1

/-- The steps of a run. `elsewhere` is what the main thread does outside the schedule, while it
does not hold the lock. -/
inductive LinkStep where
  | schedule (call : ScheduleCall)
  | slot (input : SlotInput)
  | start (attempt : Attempt) (retries : List Attempt)
  | sync (nextSlotStart : UInt32) (nextSlotAsn : TschAsn)
  | elsewhere (requested : Bool) (queue : Queue) (phy : Phy) (mac : Mac)

def LinkStep.apply (node : Node) : LinkStep → Node
  | schedule call => call.exec conf node
  | slot input => tschSlotOperation conf input node
  | start attempt retries => tschSlotOperationStart conf attempt retries node
  | sync nextSlotStart nextSlotAsn => tschSlotOperationSync nextSlotStart nextSlotAsn node
  | elsewhere requested queue phy mac => { node with
      lock := { node.lock with tschLockRequested := requested }
      queue := queue, phy := phy, mac := mac }

def LinkStep.PointerValid (node : Node) : LinkStep → Prop
  | schedule call => call.PointerValid node
  | _ => True

def LinkStep.KeepsBackup (node : Node) : LinkStep → Prop
  | schedule call => ∀ l ∈ node.slot.backupLink, l ∉ call.removedLinks node
  | _ => True

theorem LinkStep.apply_sound {step : LinkStep} (sound : node.linkView.Sound)
    (valid : step.PointerValid node) (keepsBackup : step.KeepsBackup node) :
    (step.apply conf node).linkView.Sound := by
  cases step with
  | schedule call => exact call.exec_sound conf sound valid keepsBackup
  | slot input => exact tschSlotOperation_sound conf input sound
  | start attempt retries => exact tschSlotOperationStart_sound conf attempt retries sound
  | sync nextSlotStart nextSlotAsn =>
    refine ⟨sound.unlocked, sound.inv, ?_, sound.backup⟩
    intro l absent
    cases absent
  | elsewhere requested queue phy mac => exact sound

theorem linkPointers_installed {node initial : Node}
    (started : tschScheduleInit node = (true, initial))
    (noCurrent : node.slot.currentLink = none) (noBackup : node.slot.backupLink = none)
    {steps : List LinkStep}
    (meets : Run.Meets (LinkStep.apply conf)
      (fun node step => step.PointerValid node ∧ step.KeepsBackup node) initial steps) :
    (∀ l ∈ (Run.final (LinkStep.apply conf) initial steps).slot.currentLink,
      l ∈ (Run.final (LinkStep.apply conf) initial steps).sched.installedLinks) ∧
    ∀ l ∈ (Run.final (LinkStep.apply conf) initial steps).slot.backupLink,
      l ∈ (Run.final (LinkStep.apply conf) initial steps).sched.installedLinks := by
  obtain ⟨free, inv⟩ := tschScheduleInit_inv started
  have slotEq : initial.slot = node.slot := by
    simp only [tschScheduleInit, tschGetLock] at started
    split at started
    · rename_i locked eq
      cases started
      split at eq
      · cases eq
        rfl
      · cases eq
    · cases started
  have begin : initial.linkView.Sound := by
    refine ⟨free, inv, ?_, ?_⟩
    · intro l current
      simp [Node.linkView, slotEq, noCurrent] at current
    · intro l backup
      simp [Node.linkView, slotEq, noBackup] at backup
  have sound := Run.invariant_of_meets (fun node : Node => node.linkView.Sound)
    (fun _ step sound allowed => step.apply_sound conf sound allowed.1 allowed.2) steps initial
    begin meets
  exact ⟨sound.current, sound.backup⟩

def coincident : List LinkStep :=
  [.schedule (.addSlotframe 0 7), .schedule (.addSlotframe 1 7),
    .schedule (.addLink (some 0) linkOptionTx .normal none 0 0),
    .schedule (.addLink (some 1) linkOptionRx .normal none 0 1),
    .start ⟨0, true⟩ []]

theorem linkPointers_installed_coincident :
    (Run.final (LinkStep.apply cc1200Conf) (tschScheduleInit (Node.boot cc1200Conf)).2
      (coincident ++ [.schedule (.removeLink (some 0) (some 0))])).slot.backupLink = some 1 ∧
    1 ∈ (Run.final (LinkStep.apply cc1200Conf) (tschScheduleInit (Node.boot cc1200Conf)).2
      (coincident ++ [.schedule (.removeLink (some 0) (some 0))])).sched.installedLinks := by
  have pointsTo : (Run.final (LinkStep.apply cc1200Conf) (tschScheduleInit (Node.boot cc1200Conf)).2
      (coincident ++ [.schedule (.removeLink (some 0) (some 0))])).slot.backupLink = some 1 := by
    decide
  refine ⟨pointsTo, (linkPointers_installed cc1200Conf tschScheduleInit_cc1200 rfl rfl ?_).2 1 pointsTo⟩
  simp only [coincident, List.cons_append, List.nil_append, Run.Meets, LinkStep.PointerValid,
    LinkStep.KeepsBackup, ScheduleCall.PointerValid, ScheduleCall.slotframeArgument]
  decide

/-- Removing the Rx link leaves `backup_link` pointing to its block, which is free again. -/
theorem backupLink_dangles :
    Run.Meets (LinkStep.apply cc1200Conf) (fun node step => step.PointerValid node)
      (tschScheduleInit (Node.boot cc1200Conf)).2
      (coincident ++ [.schedule (.removeLink (some 1) (some 1))]) ∧
    (Run.final (LinkStep.apply cc1200Conf) (tschScheduleInit (Node.boot cc1200Conf)).2
      (coincident ++ [.schedule (.removeLink (some 1) (some 1))])).slot.backupLink = some 1 ∧
    1 ∉ (Run.final (LinkStep.apply cc1200Conf) (tschScheduleInit (Node.boot cc1200Conf)).2
      (coincident ++ [.schedule (.removeLink (some 1) (some 1))])).sched.installedLinks := by
  refine ⟨?_, by decide, by decide⟩
  simp only [coincident, List.cons_append, List.nil_append, Run.Meets, LinkStep.PointerValid,
    ScheduleCall.PointerValid, ScheduleCall.slotframeArgument]
  decide

end MultiPhyTsch
