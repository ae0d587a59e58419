import MultiPhyTsch.Lib.OneShot
import MultiPhyTsch.Lib.Run
import MultiPhyTsch.Sys.EtimerList

/-! What becomes of each setting of a callback timer. Beside the node stands a ledger with one order
for each setting, and for each queued event the setting that its timer had when it expired. -/

namespace MultiPhyTsch.Sys

open OneShot

variable {w : Nat}

structure Setting (w : Nat) where
  f : Option Nat
  ptr : Nat
  p : Nat
  since : Nat
  interval : BitVec w
deriving DecidableEq, Repr

namespace Setting

variable (setting : Setting w)

def deadline : Nat := setting.since + setting.interval.toNat

def timer : Timer w := ⟨BitVec.ofNat w setting.since, setting.interval⟩

def ctimer : Ctimer := ⟨setting.p, setting.f, setting.ptr⟩

def reset : Setting w := { setting with since := setting.deadline }

def restart (ticks : Nat) (setting : Setting w) : Setting w := { setting with since := ticks }

end Setting

def call (service : Service Nat (Setting w)) : Option Call :=
  service.order.f.map fun f => ⟨f, service.order.ptr, service.order.p, service.time⟩

structure History (w : Nat) where
  node : Node w
  ledger : Ledger Nat (Setting w)
  tags : List (Option (Nat × Nat))
  delivered : List (Nat × Nat)

/-- The label of a step: of the callback timers, of the clock and the queue, or of other processes,
which have event timers and post events of their own. -/
inductive Action (w : Nat) where
  | set (c : Nat) (t : BitVec w) (f : Option Nat) (ptr current : Nat)
  | reset (c : Nat)
  | restart (c : Nat)
  | stop (c : Nat)
  | tick (ticks : Nat)
  | poll (pauses : List Nat)
  | deliver
  | etimerSet (k : Nat) (interval : BitVec w) (current : Nat)
  | etimerReset (k current : Nat)
  | etimerRestart (k current : Nat)
  | etimerStop (k : Nat)
  | post (p ev : Nat)
  | exited (p : Nat)
deriving DecidableEq, Repr

variable (numevents : Nat)

def nodeStep (node : Node w) : Action w → Node w
  | .set c t f ptr current => ctimerSet c t f ptr current node
  | .reset c => ctimerReset c node
  | .restart c => ctimerRestart c node
  | .stop c => ctimerStop c node
  | .tick ticks => tick ticks node
  | .poll pauses => etimerProcess numevents pauses node
  | .deliver => doEvent node
  | .etimerSet k interval current => etimerSet (.own k) interval current node
  | .etimerReset k current => etimerReset (.own k) current node
  | .etimerRestart k current => etimerRestart (.own k) current node
  | .etimerStop k => etimerStop (.own k) node
  | .post p ev => (processPost numevents ⟨p, .other ev⟩ node).2
  | .exited p => if p = ctimerProcess then node else etimerProcessExited p node

def setting (h : History w) : Action w → Option (Nat × Setting w)
  | .set c t f ptr current => some (c, ⟨f, ptr, current, h.node.ticks, t⟩)
  | .reset c => some (c, (h.ledger.order c).reset)
  | .restart c => some (c, (h.ledger.order c).restart h.node.ticks)
  | _ => none

def expiry (c : Nat) : Event := ⟨ctimerProcess, .timer (.ofCtimer c)⟩

def running (node : Node w) : Option Nat :=
  node.ctimerList.find? fun c => node.events.head? = some (expiry c)

def ledgerStep (h : History w) (action : Action w) : Ledger Nat (Setting w) :=
  match setting h action, action with
  | some (c, setting), _ => h.ledger.place c setting
  | none, .stop c => h.ledger.withdraw c
  | none, .deliver =>
    match running h.node with
    | some c => h.ledger.serve c h.node.ticks
    | none => h.ledger
  | none, _ => h.ledger

def tag (ledger : Ledger Nat (Setting w)) (event : Event) : Option (Nat × Nat) :=
  match event.kind with
  | .timer (.ofCtimer c) => some (c, ledger.number c)
  | _ => none

def History.after (h : History w) (node : Node w) (ledger : Ledger Nat (Setting w)) : History w :=
  { h with
    node, ledger
    tags := h.tags ++ (node.events.drop h.tags.length).map (tag h.ledger) }

def History.step (h : History w) (action : Action w) : History w :=
  if action = .deliver then
    { node := doEvent h.node
      ledger := ledgerStep h .deliver
      tags := h.tags.tail
      delivered := h.delivered ++ (h.tags.headD none).toList }
  else h.after (nodeStep numevents h.node action) (ledgerStep h action)

def booted (w : Nat) : History w :=
  { node := ctimerInit (boot w)
    ledger := .open fun _ => ⟨none, 0, 0, 0, 0⟩
    tags := []
    delivered := [] }

/-- A callback is run for a setting that was made and not stopped, not before its deadline, with its
function and argument. It is run once, when the expiry event of the setting is delivered at the
latest, and that event is still to come while the setting waits. -/
structure Timely (h : History w) : Prop where
  calls : h.node.calls = h.ledger.served.filterMap call
  due : ∀ service ∈ h.ledger.served, service.order.deadline ≤ service.time
  once : (h.ledger.served.map Service.id).Nodup
  standing : ∀ id ∈ h.ledger.served.map Service.id, 0 < id.2 ∧ id ∉ h.ledger.dropped
  answered : ∀ id ∈ h.delivered, id ∈ h.ledger.served.map Service.id ∨ id ∈ h.ledger.dropped
  heard : ∀ c, h.ledger.waiting c = true →
    .ofCtimer c ∈ h.node.timerlist ∨ expiry c ∈ h.node.events

/-- A timer is not set, reset or restarted while an expiry event of it is queued, unless the new
deadline is no later than now, and `timer_reset` is used on an interval that is over. -/
def Settled (h : History w) (action : Action w) : Prop :=
  match setting h action with
  | some (c, setting) => setting.since ≤ h.node.ticks ∧
      (expiry c ∈ h.node.events → setting.deadline ≤ h.node.ticks)
  | none => True

instance (h : History w) (action : Action w) : Decidable (Settled h action) := by
  unfold Settled
  cases setting h action <;> infer_instance

end MultiPhyTsch.Sys
