import MultiPhyTsch.Coap.Transactions
import MultiPhyTsch.Lib.Run

/-! Who created each transaction, and what its end called. -/

namespace MultiPhyTsch.Coap

variable {E : Type}

structure Creation (E : Type) where
  number : Nat
  mid : UInt16
  endpoint : E
  setting : Option (Nat × Nat)
deriving DecidableEq, Repr

inductive Cause (E : Type) where
  | creator
  | message (message : Message E)
  | exhausted (timeouts : Nat)
deriving DecidableEq, Repr

structure Ending (E : Type) where
  creation : Creation E
  cause : Cause E
  calls : List (Call E)
deriving DecidableEq, Repr

structure History (E : Type) where
  engine : Engine E
  created : Nat
  owner : Nat → Creation E
  timeouts : Nat → Nat
  endings : List (Ending E)

/-- A creator sends or clears its transaction; `create` is for clients, observers and separate
responses, and a request makes the engine itself a creator. -/
inductive Action (E : Type) where
  | create (mid : UInt16) (endpoint : E) (setting : Option (Nat × Nat))
  | send (t : Nat) (type : MessageType)
  | clear (t : Nat)
  | receive (message : Message E)
  | timeout (t : Nat)
deriving DecidableEq, Repr

def setCallback (t : Nat) : Option (Nat × Nat) → Engine E → Engine E
  | none, engine => engine
  | some (callback, callbackData), engine =>
    engine.write t (Transaction.setCallback callback callbackData)

def create (mid : UInt16) (endpoint : E) (setting : Option (Nat × Nat)) (engine : Engine E) :
    Engine E :=
  match coapNewTransaction mid endpoint engine with
  | (none, engine) => engine
  | (some t, engine) => setCallback t setting engine

def engineStep (engine : Engine E) : Action E → Engine E
  | .create mid endpoint setting => create mid endpoint setting engine
  | .send t type => coapSendTransaction t (engine.write t (Transaction.setMessage type))
  | .clear t => coapClearTransaction t engine
  | .receive message => coapReceive message engine
  | .timeout t => coapTimerRun t engine

def Unsent (engine : Engine E) (t : Nat) : Prop :=
  t ∈ engine.transactionsList ∧ t ∉ engine.timerList

instance (engine : Engine E) (t : Nat) : Decidable (Unsent engine t) :=
  inferInstanceAs (Decidable (_ ∧ _))

def Quiet (engine : Engine E) : Prop := ∀ t ∈ engine.transactionsList, t ∈ engine.timerList

instance (engine : Engine E) : Decidable (Quiet engine) :=
  inferInstanceAs (Decidable (∀ t ∈ _, _))

def Enabled (engine : Engine E) : Action E → Prop
  | .create .. => True
  | .send t _ => Unsent engine t
  | .clear t => Unsent engine t
  | .receive _ => Quiet engine
  | .timeout t => Quiet engine ∧ t ∈ engine.timerList

instance (engine : Engine E) (action : Action E) : Decidable (Enabled engine action) := by
  cases action <;> unfold Enabled <;> infer_instance

variable (h : History E)

def opening : Action E → Option (Nat × Creation E)
  | .create mid endpoint setting =>
    (coapNewTransaction mid endpoint h.engine).1.map fun t =>
      (t, ⟨h.created, mid, endpoint, setting⟩)
  | .receive message =>
    if message.isRequest then
      (coapNewTransaction message.mid message.src h.engine).1.map fun t =>
        (t, ⟨h.created, message.mid, message.src, none⟩)
    else none
  | _ => none

def cause : Action E → Cause E
  | .receive message => .message message
  | .timeout t => .exhausted (h.timeouts t + 1)
  | _ => .creator

def History.begin : Option (Nat × Creation E) → History E
  | none => h
  | some (t, creation) =>
    { h with
      created := h.created + 1
      owner := Function.update h.owner t creation
      timeouts := Function.update h.timeouts t 0 }

def History.count : Action E → History E
  | .timeout t => { h with timeouts := Function.update h.timeouts t (h.timeouts t + 1) }
  | _ => h

def History.advance (action : Action E) : History E :=
  let next := engineStep h.engine action
  let closed := h.engine.transactionsList.filter fun t => t ∉ next.transactionsList
  let h' := (h.count action).begin (opening h action)
  { h' with
    engine := next
    endings := h.endings ++ closed.map fun t =>
      ⟨h.owner t, cause h action, next.calls.drop h.engine.calls.length⟩ }

def History.step (action : Action E) : History E :=
  if Enabled h.engine action then h.advance action else h

def History.init (num : Nat) (blank : E) : History E :=
  { engine := .init num blank
    created := 0
    owner := fun _ => ⟨0, 0, blank, none⟩
    timeouts := fun _ => 0
    endings := [] }

def expected (creation : Creation E) (response : Option (Message E)) : List (Call E) :=
  creation.setting.toList.map fun setting => ⟨setting.1, setting.2, response⟩

/-- The end of a transaction calls what its creator set: for a message with its identifier from its
endpoint, or when the last of its retransmissions has timed out. -/
def Ending.Rightful (ending : Ending E) : Prop :=
  match ending.cause with
  | .creator => ending.calls = []
  | .message message => ending.calls = expected ending.creation (some message) ∧
      (ending.calls ≠ [] →
        message.src = ending.creation.endpoint ∧ message.mid = ending.creation.mid)
  | .exhausted timeouts => ending.calls = expected ending.creation none ∧
      timeouts = coapMaxRetransmit

structure Owned (h : History E) : Prop where
  calls : h.engine.calls = h.endings.flatMap Ending.calls
  once : (h.endings.map fun ending => ending.creation.number).Nodup
  rightful : ∀ ending ∈ h.endings, ending.Rightful

variable [DecidableEq E]

/-- The first transaction with the identifier of a response is one with the endpoint that sent it, or
has no callback; and a transaction that is sent to be acknowledged, without a callback of its
creator, has a block without one. -/
def Sorted (h : History E) (action : Action E) : Prop :=
  match action with
  | .receive message => message.isRequest = false →
      ∀ t ∈ coapGetTransactionByMid message.mid h.engine,
        (h.engine.transaction t).callback = none ∨ (h.engine.transaction t).endpoint = message.src
  | .send t type => type = .con → (h.owner t).setting = none → (h.engine.transaction t).callback = none
  | _ => True

instance (h : History E) (action : Action E) : Decidable (Sorted h action) := by
  unfold Sorted
  split <;> infer_instance

end MultiPhyTsch.Coap
