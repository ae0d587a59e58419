import MultiPhyTsch.Lib.Memb

/-! Timers (`timer.c`), event timers (`etimer.c`) and callback timers (`ctimer.c`) of one node, with
the event queue of `process.c` as the list of its events. The width of `clock_time_t` is that of the
platform; `ticks` is the time that the clock shows in so many bits. -/

namespace MultiPhyTsch.Sys

structure Timer (w : Nat) where
  start : BitVec w
  interval : BitVec w
deriving DecidableEq, Repr

structure Etimer (w : Nat) where
  timer : Timer w
  p : Option Nat
deriving DecidableEq, Repr

inductive EtimerId where
  | ofCtimer (c : Nat)
  | own (k : Nat)
deriving DecidableEq, Repr

inductive EventKind where
  | timer (data : EtimerId)
  | other (ev : Nat)
deriving DecidableEq, Repr

structure Event where
  p : Nat
  kind : EventKind
deriving DecidableEq, Repr

structure Ctimer where
  p : Nat
  f : Option Nat
  ptr : Nat
deriving DecidableEq, Repr

structure Call where
  f : Nat
  ptr : Nat
  p : Nat
  time : Nat
deriving DecidableEq, Repr

structure Node (w : Nat) where
  ticks : Nat
  etimers : EtimerId → Etimer w
  timerlist : List EtimerId
  nextExpiration : BitVec w
  etimerPoll : Bool
  events : List Event
  ctimers : Nat → Ctimer
  ctimerList : List Nat
  initialized : Bool
  calls : List Call

def ctimerProcess : Nat := 0

variable {w : Nat}

def clockTime (node : Node w) : BitVec w := BitVec.ofNat w node.ticks

def timerSet (interval : BitVec w) (node : Node w) (_ : Timer w) : Timer w :=
  ⟨clockTime node, interval⟩

def timerReset (timer : Timer w) : Timer w := { timer with start := timer.start + timer.interval }

variable (node : Node w)

def timerRestart (timer : Timer w) : Timer w := { timer with start := clockTime node }

def timerExpired (timer : Timer w) : Bool :=
  timer.interval < clockTime node - timer.start + 1

def Node.timer (e : EtimerId) : Timer w := (node.etimers e).timer

def Node.writeEtimer (e : EtimerId) (change : Etimer w → Etimer w) : Node w :=
  { node with etimers := Function.update node.etimers e (change (node.etimers e)) }

def timeLeft (e : EtimerId) : BitVec w :=
  (node.timer e).start + (node.timer e).interval - clockTime node

def updateTime : Node w :=
  match node.timerlist with
  | [] => { node with nextExpiration := 0 }
  | e :: rest =>
    let tdist := rest.foldl (fun tdist t => if timeLeft node t < tdist then timeLeft node t else tdist)
      (timeLeft node e)
    { node with nextExpiration := clockTime node + tdist }

def etimerRequestPoll : Node w := { node with etimerPoll := true }

variable (e : EtimerId)

def addTimer (current : Nat) (node : Node w) : Node w :=
  let node := etimerRequestPoll node
  let next := node.writeEtimer e fun etimer => { etimer with p := some current }
  if (node.etimers e).p ≠ none ∧ e ∈ node.timerlist then updateTime next
  else updateTime { next with timerlist := e :: next.timerlist }

def etimerSet (interval : BitVec w) (current : Nat) (node : Node w) : Node w :=
  addTimer e current (node.writeEtimer e fun etimer =>
    { etimer with timer := timerSet interval node etimer.timer })

def etimerReset (current : Nat) (node : Node w) : Node w :=
  addTimer e current (node.writeEtimer e fun etimer =>
    { etimer with timer := timerReset etimer.timer })

def etimerRestart (current : Nat) (node : Node w) : Node w :=
  addTimer e current (node.writeEtimer e fun etimer =>
    { etimer with timer := timerRestart node etimer.timer })

def etimerStop (node : Node w) : Node w :=
  let node := if e ∈ node.timerlist then
      updateTime { node with timerlist := node.timerlist.erase e }
    else node
  node.writeEtimer e fun etimer => { etimer with p := none }

def etimerProcessExited (p : Nat) (node : Node w) : Node w :=
  { node with timerlist := node.timerlist.filter fun e => (node.etimers e).p ≠ some p }

variable (numevents : Nat)

def processPost (event : Event) (node : Node w) : Bool × Node w :=
  if node.events.length = numevents then (false, node)
  else (true, { node with events := node.events ++ [event] })

def tick (ticks : Nat) (node : Node w) : Node w := { node with ticks := node.ticks + ticks }

/-- The loop of `etimer_process`, begun again after each timer that is posted. On a full queue every
expired timer fails and asks for another poll. The clock may advance after each post. -/
def pollAgain : Nat → List Nat → Node w → Node w
  | 0, _, node => node
  | fuel + 1, pauses, node =>
    match node.timerlist.find? fun e => timerExpired node (node.timer e) with
    | none => node
    | some e =>
      match processPost numevents ⟨(node.etimers e).p.getD 0, .timer e⟩ node with
      | (false, node) => etimerRequestPoll node
      | (true, node) =>
        let node := node.writeEtimer e fun etimer => { etimer with p := none }
        pollAgain fuel pauses.tail (tick (pauses.headD 0)
          (updateTime { node with timerlist := node.timerlist.erase e }))

def etimerProcess (pauses : List Nat) (node : Node w) : Node w :=
  pollAgain numevents node.timerlist.length pauses { node with etimerPoll := false }

def Node.writeCtimer (node : Node w) (c : Nat) (change : Ctimer → Ctimer) : Node w :=
  { node with ctimers := Function.update node.ctimers c (change (node.ctimers c)) }

variable (c : Nat)

def ctimerAdd (node : Node w) : Node w :=
  { node with ctimerList := listAdd node.ctimerList c }

def ctimerSetWithProcess (t : BitVec w) (f : Option Nat) (ptr p : Nat) (node : Node w) :
    Node w :=
  let node := node.writeCtimer c fun _ => ⟨p, f, ptr⟩
  let node := if node.initialized then etimerSet (.ofCtimer c) t ctimerProcess node
    else node.writeEtimer (.ofCtimer c) fun etimer =>
      { etimer with timer := { etimer.timer with interval := t } }
  ctimerAdd c node

def ctimerSet (t : BitVec w) (f : Option Nat) (ptr current : Nat) (node : Node w) : Node w :=
  ctimerSetWithProcess c t f ptr current node

def ctimerReset (node : Node w) : Node w :=
  ctimerAdd c (if node.initialized then etimerReset (.ofCtimer c) ctimerProcess node else node)

def ctimerRestart (node : Node w) : Node w :=
  ctimerAdd c (if node.initialized then etimerRestart (.ofCtimer c) ctimerProcess node else node)

def ctimerStop (node : Node w) : Node w :=
  let node := if node.initialized then etimerStop (.ofCtimer c) node
    else node.writeEtimer (.ofCtimer c) fun etimer => { etimer with p := none }
  { node with ctimerList := listRemove node.ctimerList c }

/-- The first run of `ctimer_process`, which `ctimer_init` starts with an empty list. -/
def ctimerInit (node : Node w) : Node w :=
  let node := { node with initialized := false, ctimerList := [] }
  let node := node.ctimerList.foldl (fun node c =>
    etimerSet (.ofCtimer c) (node.timer (.ofCtimer c)).interval ctimerProcess node) node
  { node with initialized := true }

def ctimerProcessTimer (data : EtimerId) (node : Node w) : Node w :=
  match node.ctimerList.find? fun c => .ofCtimer c = data with
  | none => node
  | some c =>
    let node := { node with ctimerList := listRemove node.ctimerList c }
    match (node.ctimers c).f with
    | none => node
    | some f =>
      { node with
        calls := node.calls ++ [⟨f, (node.ctimers c).ptr, (node.ctimers c).p, node.ticks⟩] }

/-- `do_event` for one event: what other processes do with theirs is steps of the run. -/
def doEvent (node : Node w) : Node w :=
  match node.events with
  | [] => node
  | event :: rest =>
    let node := { node with events := rest }
    match event.kind with
    | .timer data => if event.p = ctimerProcess then ctimerProcessTimer data node else node
    | .other _ => node

def boot (w : Nat) : Node w :=
  { ticks := 0
    etimers := fun _ => ⟨⟨0, 0⟩, none⟩
    timerlist := []
    nextExpiration := 0
    etimerPoll := false
    events := []
    ctimers := fun _ => ⟨0, none, 0⟩
    ctimerList := []
    initialized := false
    calls := [] }

end MultiPhyTsch.Sys
