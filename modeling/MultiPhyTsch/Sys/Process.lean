import Mathlib.Data.List.Nodup
import Mathlib.Logic.Function.Basic

/-! The process kernel (`process.c`) as a machine with an explicit call stack. What a process thread
does between two calls of the kernel is its own affair, so a label says what the running thread calls
next or how it returns, and `go` lets the kernel function on top of the stack take one step. -/

namespace MultiPhyTsch.Process

inductive ProcessState where
  | none
  | running
  | called
deriving DecidableEq, Repr

inductive PtReturn where
  | waiting
  | yielded
  | exited
  | ended
deriving DecidableEq, Repr

def processEventInit : Nat := 0x81
def processEventPoll : Nat := 0x82
def processEventExit : Nat := 0x83
def processEventExited : Nat := 0x87

structure Event where
  ev : Nat
  data : Option Nat
  p : Option Nat
deriving DecidableEq, Repr

structure Kernel where
  processList : List Nat
  /-- The `next` field of a process that has left the list. -/
  next : Nat → Option Nat
  state : Nat → ProcessState
  needspoll : Nat → Bool
  /-- Whether the process has a thread. -/
  thread : Nat → Bool
  current : Option Nat
  events : List Event
  pollRequested : Bool

/-- An activation on the call stack: of a process thread, called by `call_process` or by `exit_process`
itself, or of a kernel function. The loops keep the process that they have come to. -/
inductive Frame where
  | thread (p ev : Nat) (data : Option Nat) (exiting : Bool)
  | exitLoop (p : Nat) (fromprocess oldCurrent visited : Option Nat)
  | exitLast (p : Nat) (oldCurrent : Option Nat)
  | synch (caller : Option Nat)
  | poll (visited : Option Nat)
  | broadcast (ev : Nat) (data visited : Option Nat)
  | call (p ev : Nat) (data : Option Nat)
  | event
deriving DecidableEq, Repr

structure Machine where
  kernel : Kernel
  stack : List Frame

def Kernel.setState (k : Kernel) (p : Nat) (state : ProcessState) : Kernel :=
  { k with state := Function.update k.state p state }

def Kernel.following (k : Kernel) (p : Nat) : Option Nat :=
  if p ∈ k.processList then (k.processList.dropWhile (· ≠ p)).tail.head? else k.next p

def Kernel.walk (k : Kernel) : Option Nat → Option Nat
  | none => k.processList.head?
  | some p => k.following p

def Kernel.unlink (k : Kernel) (p : Nat) : Kernel :=
  if p ∈ k.processList then
    { k with
      processList := k.processList.erase p
      next := Function.update k.next p (k.following p) }
  else k

def Machine.push (m : Machine) (frame : Frame) : Machine := { m with stack := frame :: m.stack }

def callProcess (p ev : Nat) (data : Option Nat) (m : Machine) : Machine :=
  if m.kernel.state p = .running ∧ m.kernel.thread p = true then
    { kernel := { m.kernel.setState p .called with current := some p }
      stack := .thread p ev data false :: m.stack }
  else m

def processPostSynch (p ev : Nat) (data : Option Nat) (m : Machine) : Machine :=
  callProcess p ev data (m.push (.synch m.kernel.current))

def processStart (p : Nat) (data : Option Nat) (m : Machine) : Machine :=
  if p ∈ m.kernel.processList then m
  else
    processPostSynch p processEventInit data
      { m with
        kernel := { m.kernel.setState p .running with processList := p :: m.kernel.processList } }

def exitProcess (p : Nat) (fromprocess : Option Nat) (m : Machine) : Machine :=
  if p ∈ m.kernel.processList then
    if m.kernel.state p ≠ .none then
      { kernel := m.kernel.setState p .none
        stack := .exitLoop p fromprocess m.kernel.current none :: m.stack }
    else { m with kernel := m.kernel.unlink p }
  else m

def processExit (p : Nat) (m : Machine) : Machine := exitProcess p m.kernel.current m

def processPost (numevents : Nat) (event : Event) (m : Machine) : Machine :=
  if m.kernel.events.length = numevents then m
  else { m with kernel := { m.kernel with events := m.kernel.events ++ [event] } }

def processPoll (p : Nat) (m : Machine) : Machine :=
  if m.kernel.state p = .running ∨ m.kernel.state p = .called then
    { m with
      kernel := { m.kernel with needspoll := Function.update m.kernel.needspoll p true, pollRequested := true } }
  else m

def requestedPoll (m : Machine) : Machine :=
  if m.kernel.pollRequested then
    { kernel := { m.kernel with pollRequested := false }, stack := .poll none :: m.stack }
  else m

def processRun (m : Machine) : Machine := requestedPoll (m.push .event)

def Finishes (ret : PtReturn) (ev : Nat) : Prop :=
  ret = .exited ∨ ret = .ended ∨ ev = processEventExit

instance (ret : PtReturn) (ev : Nat) : Decidable (Finishes ret ev) :=
  inferInstanceAs (Decidable (_ ∨ _ ∨ _))

def threadReturn (ret : PtReturn) (m : Machine) : Machine :=
  match m.stack with
  | .thread p ev _ exiting :: rest =>
    if exiting then { m with stack := rest }
    else if Finishes ret ev then exitProcess p (some p) { m with stack := rest }
    else { kernel := m.kernel.setState p .running, stack := rest }
  | _ => m

def exitRound (p : Nat) (fromprocess oldCurrent visited : Option Nat) (m : Machine) : Machine :=
  match m.kernel.walk visited with
  | some q =>
    let m := m.push (.exitLoop p fromprocess oldCurrent (some q))
    if p ≠ q then callProcess q processEventExited (some p) m else m
  | none =>
    let m := m.push (.exitLast p oldCurrent)
    if m.kernel.thread p = true ∧ some p ≠ fromprocess then
      { kernel := { m.kernel with current := some p }
        stack := .thread p processEventExit none true :: m.stack }
    else m

def pollRound (visited : Option Nat) (m : Machine) : Machine :=
  match m.kernel.walk visited with
  | some p =>
    let m := m.push (.poll (some p))
    if m.kernel.needspoll p then
      callProcess p processEventPoll none
        { m with
          kernel := { m.kernel.setState p .running with
            needspoll := Function.update m.kernel.needspoll p false } }
    else m
  | none => m

def broadcastRound (ev : Nat) (data visited : Option Nat) (m : Machine) : Machine :=
  match m.kernel.walk visited with
  | some p => requestedPoll ((m.push (.broadcast ev data (some p))).push (.call p ev data))
  | none => m

def doEvent (m : Machine) : Machine :=
  match m.kernel.events with
  | [] => m
  | ⟨ev, data, receiver⟩ :: rest =>
    let m := { m with kernel := { m.kernel with events := rest } }
    match receiver with
    | none => m.push (.broadcast ev data none)
    | some receiver =>
      callProcess receiver ev data
        (if ev = processEventInit then { m with kernel := m.kernel.setState receiver .running }
        else m)

def kernelStep (m : Machine) : Machine :=
  match m.stack with
  | .exitLoop p fromprocess oldCurrent visited :: rest =>
    exitRound p fromprocess oldCurrent visited { m with stack := rest }
  | .exitLast p oldCurrent :: rest =>
    { kernel := { m.kernel.unlink p with current := oldCurrent }, stack := rest }
  | .synch caller :: rest => { kernel := { m.kernel with current := caller }, stack := rest }
  | .poll visited :: rest => pollRound visited { m with stack := rest }
  | .broadcast ev data visited :: rest => broadcastRound ev data visited { m with stack := rest }
  | .call p ev data :: rest => callProcess p ev data { m with stack := rest }
  | .event :: rest => doEvent { m with stack := rest }
  | _ => m

inductive Action where
  | start (p : Nat) (data : Option Nat)
  | exit (p : Nat)
  | post (p : Option Nat) (ev : Nat) (data : Option Nat)
  | postSynch (p ev : Nat) (data : Option Nat)
  | run
  | ret (ret : PtReturn)
  | poll (p : Nat)
  | go
deriving DecidableEq, Repr

/-- The program that calls the kernel is in control: a process thread, or `main`. -/
def InControl : List Frame → Bool
  | [] => true
  | .thread .. :: _ => true
  | _ => false

def step (numevents : Nat) (m : Machine) (action : Action) : Machine :=
  match action, InControl m.stack with
  | .poll p, _ => processPoll p m
  | .go, false => kernelStep m
  | .start p data, true => processStart p data m
  | .exit p, true => processExit p m
  | .post p ev data, true => processPost numevents ⟨ev, data, p⟩ m
  | .postSynch p ev data, true => processPostSynch p ev data m
  | .run, true => processRun m
  | .ret ret, true => threadReturn ret m
  | _, _ => m

/-- `process_init`, with the processes of the image, of which some have a thread. -/
def processInit (thread : Nat → Bool) : Machine :=
  { kernel :=
      { processList := []
        next := fun _ => none
        state := fun _ => .none
        needspoll := fun _ => false
        thread
        current := none
        events := []
        pollRequested := false }
    stack := [] }

end MultiPhyTsch.Process
