import MultiPhyTsch.Lib.Run
import MultiPhyTsch.Tsch.LinkPointers

/-! The handshake of `tsch_get_lock` between the main thread and the slot interrupt, statement
by statement. The interrupt may come between any two statements of the main thread, and the
main thread goes on whenever the slot yields. -/

namespace MultiPhyTsch

variable (conf : TschConf)

/-- Where the main thread is. `call` is what it takes the lock for: a schedule call, or the list
of neighbors when there is none. A call of several brackets is the sequence of its brackets:
`tsch_schedule_add_link` first removes the link at its timeslot, and
`tsch_schedule_remove_slotframe` the links of the slotframe one by one. `before` is the schedule
at the start of the bracket. -/
inductive MainPc where
  | outside
  | seenFree (call : Option ScheduleCall)
  | requesting (call : Option ScheduleCall)
  | waited (call : Option ScheduleCall)
  | taking (call : Option ScheduleCall)
  | taken (call : Option ScheduleCall)
  | holding (call : Option ScheduleCall) (before : Schedule)
  | completed

inductive SlotPc where
  | asleep
  | executing
deriving DecidableEq, Repr

structure Handshake where
  node : Node
  main : MainPc
  slot : SlotPc

/-- `lock` and `proceed` are the statements of `tsch_get_lock`, `write` and `complete` those of
the bracket. Only the schedule at the end of a bracket is prescribed, what is in memory before
that is arbitrary. -/
inductive HandshakeStep where
  | lock (call : Option ScheduleCall)
  | proceed
  | write (sched : Schedule) (currentLink : Option Nat)
  | complete
  | release
  | elsewhere (queue : Queue) (phy : Phy) (mac : Mac)
  | wake (input : SlotInput)
  | finish (input : SlotInput)

def completeBracket (call : Option ScheduleCall) (before : Schedule) (node : Node) : Node :=
  let start := { node with lock := {}, sched := before }
  match call with
  | some call => { node with
      sched := (call.exec conf start).sched
      slot := node.slot.forget (call.removedLinks start) }
  | none => { node with sched := before }

def proceedLock (state : Handshake) : Handshake :=
  let lock := state.node.lock
  match state.main with
  | .seenFree call => { state with
      node := { state.node with lock := { lock with tschLockRequested := true } }
      main := .requesting call }
  | .requesting call =>
    -- the busy wait for the end of the slot
    if lock.tschInSlotOperation then state else { state with main := .waited call }
  | .waited call =>
    if lock.tschLocked then { state with main := .outside } else { state with main := .taking call }
  | .taking call => { state with
      node := { state.node with lock := { lock with tschLocked := true } }
      main := .taken call }
  | .taken call => { state with
      node := { state.node with lock := { lock with tschLockRequested := false } }
      main := .holding call state.node.sched }
  | _ => state

/-- From the interrupt to the choice of the link, or to the end of a skipped slot. The slot
functions take no lock themselves, as the neighbors they ask for exist. -/
def wakeSlot (input : SlotInput) (state : Handshake) : Handshake :=
  let node := state.node
  if node.mac.tschIsAssociated then
    match node.slot.currentLink with
    | some l =>
      if node.lock.tschLockRequested then
        { state with node := { endSlot conf input node with lock := node.lock } }
      else
        { state with
          node := chooseLink conf l (enterSlot node)
          slot := .executing }
    | none => { state with node := { endSlot conf input node with lock := node.lock } }
  else state

def finishSlot (input : SlotInput) (state : Handshake) : Handshake :=
  let node := match state.node.slot.currentLink with
    | some l => executeLink conf l input state.node
    | none => state.node
  { state with
    node := { endSlot conf input node with
      lock := { state.node.lock with tschInSlotOperation := false } }
    slot := .asleep }

def HandshakeStep.apply (state : Handshake) : HandshakeStep → Handshake
  | lock call =>
    match state.main with
    | .outside =>
      if state.node.lock.tschLocked then state else { state with main := .seenFree call }
    | _ => state
  | proceed => proceedLock state
  | write sched currentLink =>
    match state.main with
    | .holding _ _ => { state with node := { state.node with
        sched := sched, slot := { state.node.slot with currentLink := currentLink } } }
    | _ => state
  | complete =>
    match state.main with
    | .holding call before => { state with
        node := completeBracket conf call before state.node, main := .completed }
    | _ => state
  | release =>
    match state.main with
    | .completed => { state with node := tschReleaseLock state.node, main := .outside }
    | _ => state
  | elsewhere queue phy mac =>
    match state.main with
    | .outside => { state with node := { state.node with queue := queue, phy := phy, mac := mac } }
    | _ => state
  | wake input =>
    match state.slot with
    | .asleep => wakeSlot conf input state
    | .executing => state
  | finish input =>
    match state.slot with
    | .executing => finishSlot conf input state
    | .asleep => state

namespace MainPc

def flags : MainPc → Bool × Bool
  | outside => (false, false)
  | seenFree _ => (false, false)
  | requesting _ => (false, true)
  | waited _ => (false, true)
  | taking _ => (false, true)
  | taken _ => (true, true)
  | holding _ _ => (true, false)
  | completed => (true, false)

def pastWait : MainPc → Bool
  | outside => false
  | seenFree _ => false
  | requesting _ => false
  | _ => true

def inBracket : MainPc → Bool
  | holding _ _ => true
  | completed => true
  | _ => false

def call : MainPc → Option ScheduleCall
  | seenFree call => call
  | requesting call => call
  | waited call => call
  | taking call => call
  | taken call => call
  | holding call _ => call
  | _ => none

def stable (sched : Schedule) : MainPc → Schedule
  | holding _ before => before
  | _ => sched

end MainPc

theorem takeNextActiveLink_sched (node : Node) :
    (takeNextActiveLink node).1.sched = node.sched := by
  simp only [takeNextActiveLink]
  split <;> rfl

theorem scheduleNext_sched (node : Node) : (scheduleNext conf node).1.sched = node.sched := by
  have counted := (countSharedLink_onlyQueue node).sched_eq
  have linked : (nextLink (countSharedLink node)).1.sched = (countSharedLink node).sched := by
    simp only [nextLink]
    split
    · rfl
    · exact takeNextActiveLink_sched _
  exact linked.trans counted

variable (input : SlotInput)

theorem endSlot_sched (node : Node) : (endSlot conf input node).sched = node.sched := by
  simp only [endSlot]
  split
  · rfl
  · refine retryLoop_rounds conf (fun next => next.sched = node.sched)
      (fun next => next.sched = node.sched) ?_ (fun _ same => same) _ _ node rfl
    intro next same
    rw [scheduleNext_sched, same]

theorem chooseLink_frame (l : Nat) (node : Node) :
    (chooseLink conf l node).sched = node.sched ∧ (chooseLink conf l node).lock = node.lock := by
  simp only [chooseLink]
  split
  · split <;> exact ⟨rfl, rfl⟩
  · exact ⟨rfl, rfl⟩

structure Handshake.Inv (state : Handshake) : Prop where
  flags : (state.node.lock.tschLocked, state.node.lock.tschLockRequested) = state.main.flags
  inSlot : state.node.lock.tschInSlotOperation = true ↔ state.slot = .executing
  exclusive : state.main.pastWait = true → state.slot = .asleep
  sched : ScheduleInv (state.main.stable state.node.sched)
  pointers : ∀ call ∈ state.main.call, ∀ sf ∈ call.slotframeArgument,
    sf ∈ (state.main.stable state.node.sched).slotframeList

def Handshake.Exclusive (state : Handshake) : Prop :=
  state.slot = .executing → state.node.lock.tschLocked = false ∧
    ∀ l ∈ state.node.sched.installedLinks,
      tschScheduleGetSlotframeByHandle (state.node.link l).slotframeHandle state.node ≠ none

theorem slotframe_found {node : Node} (free : node.lock.tschLocked = false)
    (inv : ScheduleInv node.sched) {l : Nat} (installed : l ∈ node.sched.installedLinks) :
    tschScheduleGetSlotframeByHandle (node.link l).slotframeHandle node ≠ none := by
  intro absent
  obtain ⟨sf, member, inside⟩ := List.mem_flatMap.mp installed
  exact tschScheduleGetSlotframeByHandle_none free absent sf member
    (inv.placed sf member l inside).handle_eq.symm

theorem MainPc.early {main : MainPc} (before : main.pastWait = false) :
    main.flags.1 = false ∧ ∀ sched, main.stable sched = sched := by
  cases main with
  | outside => exact ⟨rfl, fun _ => rfl⟩
  | seenFree call => exact ⟨rfl, fun _ => rfl⟩
  | requesting call => exact ⟨rfl, fun _ => rfl⟩
  | _ => cases before

variable {state : Handshake}

theorem Handshake.Inv.exclusive_lookup (inv : state.Inv) : state.Exclusive := by
  intro executing
  have before : state.main.pastWait = false := by
    cases past : state.main.pastWait with
    | false => rfl
    | true =>
      have asleep := inv.exclusive past
      rw [executing] at asleep
      cases asleep
  obtain ⟨unlocked, stable⟩ := MainPc.early before
  have free : state.node.lock.tschLocked = false := (congrArg Prod.fst inv.flags).trans unlocked
  have sched := inv.sched
  rw [stable] at sched
  exact ⟨free, fun l installed => slotframe_found free sched installed⟩

def HandshakeStep.PointerValid (state : Handshake) : HandshakeStep → Prop
  | lock bracket => ∀ call ∈ bracket, call.PointerValid state.node
  | _ => True

def HandshakeStep.WakesOutside (state : Handshake) : HandshakeStep → Prop
  | wake _ => state.main.inBracket = true → state.slot = .asleep →
      state.node.mac.tschIsAssociated = true → state.node.slot.currentLink = none
  | _ => True

theorem completeBracket_inv (bracket : Option ScheduleCall) {before : Schedule} (node : Node)
    (inv : ScheduleInv before)
    (pointers : ∀ call ∈ bracket, ∀ sf ∈ call.slotframeArgument, sf ∈ before.slotframeList) :
    ScheduleInv (completeBracket conf bracket before node).sched ∧
      (completeBracket conf bracket before node).lock = node.lock := by
  cases bracket with
  | none => exact ⟨inv, rfl⟩
  | some call =>
    have valid : call.PointerValid { node with lock := {}, sched := before } := pointers call rfl
    have effect := ScheduleCall.exec_effect conf rfl inv valid
    exact ⟨effect.inv, rfl⟩

theorem proceedLock_inv (inv : state.Inv) : (proceedLock state).Inv := by
  obtain ⟨flags, inSlot, exclusive, sched, pointers⟩ := inv
  obtain ⟨node, main, slot⟩ := state
  cases main with
  | seenFree call =>
    simp only [MainPc.flags, Prod.mk.injEq] at flags
    refine ⟨?_, inSlot, ?_, sched, pointers⟩
    · simp [proceedLock, MainPc.flags, flags.1]
    · simp [proceedLock, MainPc.pastWait]
  | requesting call =>
    simp only [proceedLock]
    split
    · exact ⟨flags, inSlot, exclusive, sched, pointers⟩
    · rename_i ended
      refine ⟨flags, inSlot, ?_, sched, pointers⟩
      intro _
      cases slot with
      | asleep => rfl
      | executing => exact (ended (inSlot.mpr rfl)).elim
  | waited call =>
    simp only [MainPc.flags, Prod.mk.injEq] at flags
    simp only [proceedLock, flags.1]
    exact ⟨by simp [MainPc.flags, flags], inSlot, exclusive, sched, pointers⟩
  | taking call =>
    simp only [MainPc.flags, Prod.mk.injEq] at flags
    exact ⟨by simp [proceedLock, MainPc.flags, flags.2], inSlot, exclusive, sched, pointers⟩
  | taken call =>
    simp only [MainPc.flags, Prod.mk.injEq] at flags
    exact ⟨by simp [proceedLock, MainPc.flags, flags.1], inSlot, exclusive, sched, pointers⟩
  | _ => exact ⟨flags, inSlot, exclusive, sched, pointers⟩

theorem wakeSlot_inv (inv : state.Inv)
    (outside : state.main.inBracket = true → state.node.mac.tschIsAssociated = true →
      state.node.slot.currentLink = none) : (wakeSlot conf input state).Inv := by
  obtain ⟨flags, inSlot, exclusive, sched, pointers⟩ := inv
  have skipped : Handshake.Inv
      { state with node := { endSlot conf input state.node with lock := state.node.lock } } :=
    ⟨flags, inSlot, exclusive, by rw [← endSlot_sched conf input] at sched; exact sched,
      by rw [← endSlot_sched conf input] at pointers; exact pointers⟩
  simp only [wakeSlot]
  split
  case isFalse => exact ⟨flags, inSlot, exclusive, sched, pointers⟩
  case isTrue associated =>
    split
    case h_2 => exact skipped
    case h_1 l hasLink =>
      split
      case isTrue => exact skipped
      case isFalse notRequested =>
        -- not requested and not inside a bracket, so the main thread is before its wait
        have early : state.main.pastWait = false := by
          have unrequested : state.main.flags.2 = false :=
            (congrArg Prod.snd flags).symm.trans (by simpa using notRequested)
          have notInside : state.main.inBracket = false := by
            cases inside : state.main.inBracket with
            | false => rfl
            | true =>
              have absent := outside inside associated
              rw [absent] at hasLink
              cases hasLink
          cases main : state.main <;> simp_all [MainPc.flags, MainPc.inBracket, MainPc.pastWait]
        obtain ⟨schedEq, lockEq⟩ := chooseLink_frame conf l (enterSlot state.node)
        refine ⟨?_, ?_, ?_, ?_, ?_⟩
        · rw [lockEq]
          exact flags
        · rw [lockEq]
          exact ⟨fun _ => rfl, fun _ => rfl⟩
        · simp [early]
        · rw [schedEq]
          exact sched
        · rw [schedEq]
          exact pointers

theorem finishSlot_inv (inv : state.Inv) : (finishSlot conf input state).Inv := by
  obtain ⟨flags, inSlot, exclusive, sched, pointers⟩ := inv
  have schedEq : (finishSlot conf input state).node.sched = state.node.sched := by
    simp only [finishSlot]
    rw [endSlot_sched]
    split
    · exact congrArg LinkView.sched (executeLink_linkView conf _ input state.node)
    · rfl
  refine ⟨flags, ?_, fun _ => rfl, ?_, ?_⟩
  · simp [finishSlot]
  · rw [schedEq]
    exact sched
  · rw [schedEq]
    exact pointers

theorem HandshakeStep.apply_inv {step : HandshakeStep} (inv : state.Inv)
    (valid : step.PointerValid state) (outside : step.WakesOutside state) :
    (step.apply conf state).Inv := by
  have kept := inv
  obtain ⟨flags, inSlot, exclusive, sched, pointers⟩ := inv
  obtain ⟨node, main, slot⟩ := state
  cases step with
  | lock call =>
    cases main with
    | outside =>
      simp only [MainPc.flags, Prod.mk.injEq] at flags
      simp only [HandshakeStep.apply, flags.1]
      exact ⟨by simp [MainPc.flags, flags], inSlot, by simp [MainPc.pastWait], sched, valid⟩
    | _ => exact kept
  | proceed => exact proceedLock_inv kept
  | write written currentLink =>
    cases main with
    | holding call before => exact ⟨flags, inSlot, exclusive, sched, pointers⟩
    | _ => exact kept
  | complete =>
    cases main with
    | holding call before =>
      have began : ScheduleInv before := sched
      obtain ⟨completedInv, lockEq⟩ := completeBracket_inv conf call node began pointers
      refine ⟨?_, ?_, exclusive, completedInv, ?_⟩
      · simp only [HandshakeStep.apply, lockEq]
        exact flags
      · simp only [HandshakeStep.apply, lockEq]
        exact inSlot
      · intro call absent
        cases absent
    | _ => exact kept
  | release =>
    cases main with
    | completed =>
      simp only [MainPc.flags, Prod.mk.injEq] at flags
      refine ⟨?_, inSlot, ?_, sched, pointers⟩
      · simp [HandshakeStep.apply, tschReleaseLock, MainPc.flags, flags.2]
      · simp [HandshakeStep.apply, MainPc.pastWait]
    | _ => exact kept
  | elsewhere queue phy mac =>
    cases main with
    | outside => exact ⟨flags, inSlot, exclusive, sched, pointers⟩
    | _ => exact kept
  | wake input =>
    cases slot with
    | asleep => exact wakeSlot_inv conf input kept fun inside => outside inside rfl
    | executing => exact kept
  | finish input =>
    cases slot with
    | asleep => exact kept
    | executing => exact finishSlot_inv conf input kept

theorem HandshakeStep.refuted {step : HandshakeStep} (inv : state.Inv)
    (inside : ¬ step.WakesOutside state) : ¬ (step.apply conf state).Exclusive := by
  cases step with
  | wake input =>
    simp only [WakesOutside, Classical.not_imp] at inside
    obtain ⟨bracket, asleep, associated, hasLink⟩ := inside
    obtain ⟨l, current⟩ := Option.ne_none_iff_exists'.mp hasLink
    have flags : (state.node.lock.tschLocked, state.node.lock.tschLockRequested) =
        (true, false) := by
      rw [inv.flags]
      cases main : state.main <;> simp_all [MainPc.inBracket, MainPc.flags]
    rw [Prod.mk.injEq] at flags
    intro exclusive
    simp only [HandshakeStep.apply, asleep, wakeSlot, associated, current, flags.2, if_true,
      Bool.false_eq_true, if_false] at exclusive
    have unlocked := (exclusive rfl).1
    rw [(chooseLink_frame conf l _).2, enterSlot, flags.1] at unlocked
    cases unlocked
  | _ => exact (inside trivial).elim

def Handshake.start (node : Node) : Handshake := ⟨{ node with lock := {} }, .outside, .asleep⟩

theorem slotExclusion_iff {node initial : Node} (started : tschScheduleInit node = (true, initial))
    {steps : List HandshakeStep}
    (valid : Run.Meets (HandshakeStep.apply conf) (fun state step => step.PointerValid state)
      (Handshake.start initial) steps) :
    Run.Always (HandshakeStep.apply conf) Handshake.Exclusive (Handshake.start initial) steps ↔
      Run.Meets (HandshakeStep.apply conf) (fun state step => step.WakesOutside state)
        (Handshake.start initial) steps := by
  have begin : (Handshake.start initial).Inv := by
    refine ⟨rfl, ?_, ?_, (tschScheduleInit_inv started).2, ?_⟩
    · simp [Handshake.start]
    · simp [Handshake.start]
    · intro call absent
      cases absent
  exact Run.always_iff_meets Handshake.Inv (fun _ inv => inv.exclusive_lookup)
    (fun _ _ inv valid outside => HandshakeStep.apply_inv conf inv valid outside)
    (fun _ _ inv _ inside => HandshakeStep.refuted conf inv inside) steps _ begin valid

def bracket (call : ScheduleCall) : List HandshakeStep :=
  [.lock (some call), .proceed, .proceed, .proceed, .proceed, .proceed, .complete, .release]

/-- An associated coordinator with one Rx link, which the skipped slot at the end of the run
schedules for the next wake-up. -/
def oneRxLink : List HandshakeStep :=
  .elsewhere (Node.boot cc1200Conf).queue default
      { (Node.boot cc1200Conf).mac with tschIsAssociated := true, tschIsCoordinator := true } ::
    bracket (.addSlotframe 0 7) ++
    bracket (.addLink (some 0) linkOptionRx .normal none 0 0) ++
    [.wake default]

theorem slotExclusion_iff_waits :
    Run.Always (HandshakeStep.apply cc1200Conf) Handshake.Exclusive
      (Handshake.start (tschScheduleInit (Node.boot cc1200Conf)).2)
      (oneRxLink ++ [.wake default, .lock (some .removeAllSlotframes), .proceed, .proceed, .proceed,
        .finish default, .proceed, .proceed, .proceed, .proceed, .complete, .release,
        .wake default]) := by
  refine (slotExclusion_iff cc1200Conf tschScheduleInit_cc1200 ?_).mpr ?_
  · simp only [oneRxLink, bracket, List.cons_append, List.nil_append, Run.Meets,
      HandshakeStep.PointerValid, ScheduleCall.PointerValid, ScheduleCall.slotframeArgument]
    decide
  · simp only [oneRxLink, bracket, List.cons_append, List.nil_append, Run.Meets,
      HandshakeStep.WakesOutside]
    decide

/-- The slot wakes up just after the lock was taken: the request is withdrawn, so it goes on, and
its lookup returns NULL. -/
theorem slot_executes_locked :
    let final := Run.final (HandshakeStep.apply cc1200Conf)
      (Handshake.start (tschScheduleInit (Node.boot cc1200Conf)).2)
      (oneRxLink ++ [.lock (some .removeAllSlotframes), .proceed, .proceed, .proceed, .proceed,
        .proceed, .wake default])
    final.slot = .executing ∧ final.node.lock.tschLocked = true ∧
      final.node.slot.currentLink = some 0 ∧ 0 ∈ final.node.sched.installedLinks ∧
      tschScheduleGetSlotframeByHandle (final.node.link 0).slotframeHandle final.node = none := by
  decide

end MultiPhyTsch
