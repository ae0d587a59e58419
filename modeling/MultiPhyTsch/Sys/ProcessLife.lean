import MultiPhyTsch.Lib.Run
import MultiPhyTsch.Sys.Process

/-! The life cycle of processes: who is on the process list and on the call stack. -/

namespace MultiPhyTsch.Process

def Frame.activation : Frame → Option Nat
  | .thread p .. => some p
  | _ => none

def Frame.exit : Frame → Option Nat
  | .exitLoop p .. => some p
  | .exitLast p _ => some p
  | _ => none

def activations (stack : List Frame) : List Nat := stack.filterMap Frame.activation

def exits (stack : List Frame) : List Nat := stack.filterMap Frame.exit

/-- A process is on the list once and on the call stack once, and unless it is just exiting it is on
the list if and only if it has a state. -/
structure Orderly (m : Machine) : Prop where
  once : m.kernel.processList.Nodup
  single : (activations m.stack).Nodup
  listed : ∀ p, p ∉ exits m.stack →
    (p ∈ m.kernel.processList ↔ m.kernel.state p ≠ .none)

/-- The conditions on a step: a process starts only when its exit and its thread are over; a thread
is made to exit by itself, or when it is not on the call stack; a thread that was made to exit ends
when it returns; and polls and queued initial events find their process as it was started. -/
def Proper (m : Machine) (action : Action) : Prop :=
  match action with
  | .start p _ => InControl m.stack = true → p ∉ m.kernel.processList →
      p ∉ activations m.stack ∧ p ∉ exits m.stack
  | .exit p => InControl m.stack = true → p ∈ m.kernel.processList → m.kernel.state p ≠ .none →
      p ∈ activations m.stack → m.kernel.current = some p
  | .ret ret =>
    match m.stack with
    | .thread p ev _ false :: _ => Finishes ret ev ∨ p ∈ m.kernel.processList
    | _ => True
  | .go =>
    match m.stack with
    | .poll visited :: _ => ∀ p ∈ m.kernel.walk visited,
        m.kernel.needspoll p = true → m.kernel.state p = .running
    | .event :: _ => ∀ event ∈ m.kernel.events.head?, event.ev = processEventInit →
        ∀ p ∈ event.p, m.kernel.state p = .running
    | _ => True
  | _ => True

instance (m : Machine) (action : Action) : Decidable (Proper m action) := by
  unfold Proper
  split
  · infer_instance
  · infer_instance
  · split <;> infer_instance
  · split <;> infer_instance
  · infer_instance

/-- A thread that was called exits above its own activation only, and what exits above another
activation of itself is the caller of `exit_process`. -/
def Nested : List Frame → Prop
  | [] => True
  | .thread p _ _ false :: rest => p ∉ exits rest ∧ Nested rest
  | .exitLoop p fromprocess _ _ :: rest =>
    (p ∈ activations rest → fromprocess = some p) ∧ Nested rest
  | _ :: rest => Nested rest

structure Sound (m : Machine) : Prop extends Orderly m where
  exiting : ∀ p ∈ exits m.stack, m.kernel.state p = .none
  idle : ∀ p ∈ activations m.stack, m.kernel.state p ≠ .running
  nested : Nested m.stack

theorem sound_processInit (thread : Nat → Bool) : Sound (processInit thread) where
  once := List.nodup_nil
  single := List.nodup_nil
  listed := by
    intro p _
    simp [processInit]
  exiting := by
    intro p member
    cases member
  idle := by
    intro p member
    cases member
  nested := trivial

theorem Sound.congr {m next : Machine} (sound : Sound m)
    (list : next.kernel.processList = m.kernel.processList)
    (state : next.kernel.state = m.kernel.state)
    (active : activations next.stack = activations m.stack)
    (exit : exits next.stack = exits m.stack) (nested : Nested next.stack) : Sound next where
  once := list ▸ sound.once
  single := active ▸ sound.single
  listed := by
    rw [list, state, exit]
    exact sound.listed
  exiting := by
    rw [exit, state]
    exact sound.exiting
  idle := by
    rw [active, state]
    exact sound.idle
  nested := nested

variable {m : Machine}

theorem sound_callProcess (sound : Sound m) (p ev : Nat) (data : Option Nat) :
    Sound (callProcess p ev data m) := by
  unfold callProcess
  by_cases enters : m.kernel.state p = .running ∧ m.kernel.thread p = true
  · rw [if_pos enters]
    have outside : p ∉ activations m.stack := fun member => sound.idle p member enters.1
    have stays : p ∉ exits m.stack := by
      intro member
      have none := sound.exiting p member
      rw [enters.1] at none
      cases none
    exact
      { once := sound.once
        single := List.nodup_cons.mpr ⟨outside, sound.single⟩
        listed := by
          intro other absent
          have before := sound.listed other absent
          by_cases same : other = p
          · subst same
            simp only [Kernel.setState, Function.update_self]
            rw [enters.1] at before
            simpa using before
          · simp only [Kernel.setState, Function.update_of_ne same]
            exact before
        exiting := by
          intro other member
          have different : other ≠ p := fun same => stays (same ▸ member)
          simp only [Kernel.setState, Function.update_of_ne different]
          exact sound.exiting other member
        idle := by
          intro other member
          by_cases same : other = p
          · simp [Kernel.setState, same]
          · simp only [Kernel.setState, Function.update_of_ne same]
            exact sound.idle other ((List.mem_cons.mp member).resolve_left same)
        nested := ⟨stays, sound.nested⟩ }
  · rw [if_neg enters]
    exact sound

theorem sound_processPostSynch (sound : Sound m) (p ev : Nat) (data : Option Nat) :
    Sound (processPostSynch p ev data m) := by
  have framed : Sound (m.push (.synch m.kernel.current)) :=
    sound.congr rfl rfl rfl rfl sound.nested
  exact sound_callProcess framed p ev data

variable {p : Nat}

theorem sound_processStart (sound : Sound m) (data : Option Nat)
    (ended : p ∉ m.kernel.processList → p ∉ activations m.stack ∧ p ∉ exits m.stack) :
    Sound (processStart p data m) := by
  unfold processStart
  by_cases member : p ∈ m.kernel.processList
  · rw [if_pos member]
    exact sound
  · rw [if_neg member]
    obtain ⟨outside, stays⟩ := ended member
    refine sound_processPostSynch ?_ p processEventInit data
    exact
      { once := List.nodup_cons.mpr ⟨member, sound.once⟩
        single := sound.single
        listed := by
          intro other absent
          by_cases same : other = p
          · simp [Kernel.setState, same]
          · simp only [Kernel.setState, Function.update_of_ne same, List.mem_cons, same, false_or]
            exact sound.listed other absent
        exiting := by
          intro other exit
          have different : other ≠ p := fun same => stays (same ▸ exit)
          simp only [Kernel.setState, Function.update_of_ne different]
          exact sound.exiting other exit
        idle := by
          intro other active
          have different : other ≠ p := fun same => outside (same ▸ active)
          simp only [Kernel.setState, Function.update_of_ne different]
          exact sound.idle other active
        nested := sound.nested }

theorem processList_unlink (k : Kernel) (p : Nat) :
    (k.unlink p).processList = k.processList.erase p := by
  unfold Kernel.unlink
  split
  case isTrue => rfl
  case isFalse absent => exact (List.erase_of_not_mem absent).symm

theorem state_unlink (k : Kernel) (p : Nat) : (k.unlink p).state = k.state := by
  unfold Kernel.unlink
  split <;> rfl

theorem sound_unlink (sound : Sound m) (none : m.kernel.state p = .none) :
    Sound { m with kernel := m.kernel.unlink p } := by
  exact
    { once := by
        simp only [processList_unlink]
        exact sound.once.erase p
      single := sound.single
      listed := by
        intro other absent
        simp only [processList_unlink, state_unlink, sound.once.mem_erase_iff]
        by_cases same : other = p
        · simp [same, none]
        · simp only [ne_eq, same, not_false_iff, true_and]
          exact sound.listed other absent
      exiting := by
        simp only [state_unlink]
        exact sound.exiting
      idle := by
        simp only [state_unlink]
        exact sound.idle
      nested := sound.nested }

theorem sound_exitProcess (sound : Sound m) {fromprocess : Option Nat}
    (itself : p ∈ m.kernel.processList → m.kernel.state p ≠ .none → p ∈ activations m.stack →
      fromprocess = some p) :
    Sound (exitProcess p fromprocess m) := by
  unfold exitProcess
  split
  case isFalse => exact sound
  case isTrue member =>
    split
    case isFalse stateless => exact sound_unlink sound (not_not.mp stateless)
    case isTrue stateful =>
      exact
        { once := sound.once
          single := sound.single
          listed := by
            intro other absent
            have different : other ≠ p := fun same => absent (same ▸ List.mem_cons_self)
            simp only [Kernel.setState, Function.update_of_ne different]
            exact sound.listed other fun exit => absent (List.mem_cons_of_mem p exit)
          exiting := by
            intro other exit
            by_cases same : other = p
            · simp [Kernel.setState, same]
            · simp only [Kernel.setState, Function.update_of_ne same]
              exact sound.exiting other ((List.mem_cons.mp exit).resolve_left same)
          idle := by
            intro other active
            by_cases same : other = p
            · simp [Kernel.setState, same]
            · simp only [Kernel.setState, Function.update_of_ne same]
              exact sound.idle other active
          nested := ⟨itself member stateful, sound.nested⟩ }

theorem Sound.requestedPoll (sound : Sound m) : Sound (requestedPoll m) := by
  unfold Process.requestedPoll
  split
  case isTrue => exact sound.congr rfl rfl rfl rfl sound.nested
  case isFalse => exact sound

variable {rest : List Frame}

theorem Nested.tail {frame : Frame} (nested : Nested (frame :: rest)) : Nested rest := by
  unfold Nested at nested
  split at nested
  case h_1 shown => cases shown
  case h_2 shown =>
    cases shown
    exact nested.2
  case h_3 shown =>
    cases shown
    exact nested.2
  case h_4 shown =>
    cases shown
    exact nested

theorem Sound.pop {frame : Frame} (sound : Sound m)
    (shown : m.stack = frame :: rest) (inactive : frame.activation = none)
    (stays : frame.exit = none) : Sound { m with stack := rest } := by
  have nested := sound.nested
  rw [shown] at nested
  refine sound.congr rfl rfl ?_ ?_ nested.tail
  · simp [activations, shown, inactive]
  · simp [exits, shown, stays]

theorem Sound.leave {p ev : Nat} {data : Option Nat} {exiting : Bool}
    (sound : Sound m) (shown : m.stack = .thread p ev data exiting :: rest) :
    Sound { m with stack := rest } ∧ p ∉ activations rest := by
  have single := sound.single
  have active : activations m.stack = p :: activations rest := by rw [shown]; rfl
  have exit : exits m.stack = exits rest := by rw [shown]; rfl
  have nested := sound.nested
  rw [shown] at nested
  rw [active] at single
  obtain ⟨outside, single⟩ := List.nodup_cons.mp single
  refine ⟨⟨⟨sound.once, single, ?_⟩, ?_, ?_, nested.tail⟩, outside⟩
  · rw [← exit]
    exact sound.listed
  · rw [← exit]
    exact sound.exiting
  · intro other member
    exact sound.idle other (active ▸ List.mem_cons_of_mem p member)

theorem sound_threadReturn (sound : Sound m) {ret : PtReturn}
    (proper : Proper m (.ret ret)) : Sound (threadReturn ret m) := by
  unfold threadReturn
  unfold Proper at proper
  cases stack : m.stack with
  | nil => exact sound
  | cons frame rest =>
    cases frame with
    | thread p ev data exiting =>
      obtain ⟨left, outside⟩ := sound.leave stack
      cases exiting with
      | true => exact left
      | false =>
        simp only [stack] at proper
        dsimp only
        rw [if_neg Bool.false_ne_true]
        split
        case isTrue => exact sound_exitProcess left fun _ _ _ => rfl
        case isFalse continues =>
          have listed := proper.resolve_left continues
          have nested := sound.nested
          rw [stack] at nested
          have stays : p ∉ exits rest := nested.1
          exact
            { once := left.once
              single := left.single
              listed := by
                intro other absent
                by_cases same : other = p
                · simp [Kernel.setState, same, listed]
                · simp only [Kernel.setState, Function.update_of_ne same]
                  exact left.listed other absent
              exiting := by
                intro other exit
                have different : other ≠ p := fun same => stays (same ▸ exit)
                simp only [Kernel.setState, Function.update_of_ne different]
                exact left.exiting other exit
              idle := by
                intro other active
                have different : other ≠ p := fun same => outside (same ▸ active)
                simp only [Kernel.setState, Function.update_of_ne different]
                exact left.idle other active
              nested := left.nested }
    | exitLoop | exitLast | synch | poll | broadcast | call | event => exact sound

theorem sound_exitRound {fromprocess oldCurrent visited : Option Nat}
    (sound : Sound (m.push (.exitLoop p fromprocess oldCurrent visited))) :
    Sound (exitRound p fromprocess oldCurrent visited m) := by
  have none : m.kernel.state p = .none := sound.exiting p List.mem_cons_self
  unfold exitRound
  split
  case h_1 q found =>
    have moved : Sound (m.push (.exitLoop p fromprocess oldCurrent (some q))) :=
      sound.congr rfl rfl rfl rfl sound.nested
    dsimp only
    split
    case isTrue => exact sound_callProcess moved q processEventExited (some p)
    case isFalse => exact moved
  case h_2 =>
    have last : Sound (m.push (.exitLast p oldCurrent)) :=
      sound.congr rfl rfl rfl rfl sound.nested.2
    dsimp only
    split
    case isFalse => exact last
    case isTrue enters =>
      have outside : p ∉ activations m.stack := fun member => enters.2 (sound.nested.1 member).symm
      exact
        { once := last.once
          single := List.nodup_cons.mpr ⟨outside, last.single⟩
          listed := last.listed
          exiting := last.exiting
          idle := by
            intro other active
            rcases List.mem_cons.mp active with rfl | below
            · simp [Machine.push, none]
            · exact last.idle other below
          nested := last.nested }

theorem sound_exitLast {oldCurrent : Option Nat} (sound : Sound (m.push (.exitLast p oldCurrent))) :
    Sound { m with kernel := { m.kernel.unlink p with current := oldCurrent } } := by
  have none : m.kernel.state p = .none := sound.exiting p List.mem_cons_self
  have unlinked := sound_unlink sound none
  exact
    { once := unlinked.once
      single := unlinked.single
      listed := by
        intro other absent
        by_cases same : other = p
        · subst same
          simp only [processList_unlink, state_unlink, none]
          have gone : other ∉ m.kernel.processList.erase other := fun member =>
            (sound.once.mem_erase_iff.mp member).1 rfl
          simp [gone]
        · refine unlinked.listed other fun member => absent ?_
          exact (List.mem_cons.mp member).resolve_left same
      exiting := fun other member => unlinked.exiting other (List.mem_cons_of_mem p member)
      idle := unlinked.idle
      nested := unlinked.nested }

section

variable (sound : Sound m)
include sound

theorem sound_pollRound {visited : Option Nat}
    (fresh : ∀ p ∈ m.kernel.walk visited, m.kernel.needspoll p = true →
      m.kernel.state p = .running) : Sound (pollRound visited m) := by
  unfold pollRound
  split
  case h_2 => exact sound
  case h_1 p found =>
    have moved : Sound (m.push (.poll (some p))) := sound.congr rfl rfl rfl rfl sound.nested
    dsimp only
    split
    case isFalse => exact moved
    case isTrue asked =>
      have running : m.kernel.state p = .running := fresh p found asked
      have same : Function.update m.kernel.state p .running = m.kernel.state := by
        rw [← running, Function.update_eq_self]
      refine sound_callProcess ?_ p processEventPoll none
      exact moved.congr rfl same rfl rfl moved.nested

theorem sound_broadcastRound {ev : Nat} {data visited : Option Nat} :
    Sound (broadcastRound ev data visited m) := by
  unfold broadcastRound
  split
  case h_1 p found =>
    have pushed : Sound ((m.push (.broadcast ev data (some p))).push (.call p ev data)) :=
      sound.congr rfl rfl rfl rfl sound.nested
    exact pushed.requestedPoll
  case h_2 => exact sound

theorem sound_doEvent (fresh : ∀ event ∈ m.kernel.events.head?, event.ev = processEventInit →
      ∀ p ∈ event.p, m.kernel.state p = .running) : Sound (doEvent m) := by
  unfold doEvent
  split
  case h_1 => exact sound
  case h_2 ev data receiver rest shown =>
    have taken : Sound { m with kernel := { m.kernel with events := rest } } :=
      sound.congr rfl rfl rfl rfl sound.nested
    rw [shown, List.head?_cons] at fresh
    dsimp only
    split
    case h_1 => exact taken.congr rfl rfl rfl rfl taken.nested
    case h_2 p =>
      refine sound_callProcess ?_ p ev data
      split
      case isFalse => exact taken
      case isTrue initial =>
        have running : m.kernel.state p = .running := fresh _ rfl initial p rfl
        have same : Function.update m.kernel.state p .running = m.kernel.state := by
          rw [← running, Function.update_eq_self]
        exact taken.congr rfl same rfl rfl taken.nested

theorem sound_kernelStep (proper : Proper m .go) : Sound (kernelStep m) := by
  rcases m with ⟨kernel, _ | ⟨frame, rest⟩⟩
  · exact sound
  · cases frame with
    | thread p ev data exiting => exact sound
    | exitLoop p fromprocess oldCurrent visited =>
      exact sound_exitRound (m := ⟨kernel, rest⟩) sound
    | exitLast p oldCurrent => exact sound_exitLast (m := ⟨kernel, rest⟩) sound
    | synch caller =>
      have left := sound.pop rfl rfl rfl
      exact left.congr rfl rfl rfl rfl left.nested
    | poll visited => exact sound_pollRound (sound.pop rfl rfl rfl) proper
    | broadcast ev data visited => exact sound_broadcastRound (sound.pop rfl rfl rfl)
    | call p ev data => exact sound_callProcess (sound.pop rfl rfl rfl) p ev data
    | event => exact sound_doEvent (sound.pop rfl rfl rfl) proper

theorem sound_processPost (numevents : Nat) (event : Event) :
    Sound (processPost numevents event m) := by
  unfold processPost
  split
  case isTrue => exact sound
  case isFalse => exact sound.congr rfl rfl rfl rfl sound.nested

theorem sound_processPoll (p : Nat) : Sound (processPoll p m) := by
  unfold processPoll
  split
  case isTrue => exact sound.congr rfl rfl rfl rfl sound.nested
  case isFalse => exact sound

theorem sound_processRun : Sound (processRun m) := by
  have pushed : Sound (m.push .event) := sound.congr rfl rfl rfl rfl sound.nested
  exact pushed.requestedPoll

end

theorem sound_step (numevents : Nat) (sound : Sound m) {action : Action}
    (proper : Proper m action) : Sound (step numevents m action) := by
  unfold step
  split
  case h_1 => exact sound_processPoll sound _
  case h_2 => exact sound_kernelStep sound proper
  case h_3 p data control => exact sound_processStart sound data (proper control)
  case h_4 p control => exact sound_exitProcess sound (proper control)
  case h_5 => exact sound_processPost sound numevents _
  case h_6 p ev data _ => exact sound_processPostSynch sound p ev data
  case h_7 => exact sound_processRun sound
  case h_8 => exact sound_threadReturn sound proper
  case h_9 => exact sound

/-- In every run whose steps meet the conditions, of threads that call the kernel as they like,
processes come and go in order. -/
theorem proper_run_orderly (numevents : Nat) (thread : Nat → Bool) {actions : List Action}
    (proper : Run.Meets (step numevents) Proper (processInit thread) actions) :
    Run.Always (step numevents) Orderly (processInit thread) actions :=
  Run.always_of_meets Sound (fun _ sound => sound.toOrderly)
    (fun _ _ sound proper => sound_step numevents sound proper) actions (processInit thread)
    (sound_processInit thread) proper

theorem proper_run_orderly_neighbours :
    Run.Meets (step 32) Proper (processInit fun _ => true)
      [.start 1 none, .start 2 none, .ret .yielded, .go, .ret .yielded, .go,
        .postSynch 2 0x90 none, .exit 1, .go, .go, .go, .ret .ended, .go, .ret .yielded, .go] ∧
    Run.Always (step 32) Orderly (processInit fun _ => true)
      [.start 1 none, .start 2 none, .ret .yielded, .go, .ret .yielded, .go,
        .postSynch 2 0x90 none, .exit 1, .go, .go, .go, .ret .ended, .go, .ret .yielded, .go] :=
  ⟨by decide, proper_run_orderly 32 (fun _ => true) (by decide)⟩

/-- A process that starts another one, which makes it exit while it waits for the start to be over:
`exit_process` calls the thread of the first a second time. -/
theorem exited_caller_runs_twice :
    ¬ ∀ (thread : Nat → Bool) (actions : List Action),
      Run.Always (step 32) Orderly (processInit thread) actions := by
  intro all
  have orderly := Run.always_final (all (fun _ => true)
    [.start 1 none, .start 2 none, .exit 1, .go, .go, .go])
  have single := orderly.single
  revert single
  decide

end MultiPhyTsch.Process
