import MultiPhyTsch.Lib.Memb

/-! The transactions of CoAP (`coap-transactions.c`) and what `coap_receive` of `coap-engine.c` does
with them. Endpoints may be of any type. A message is what the transactions depend on; the
handlers of a request, its reply and the times of the timers are not part of it. -/

namespace MultiPhyTsch.Coap

inductive MessageType where
  | con
  | non
  | ack
  | rst
deriving DecidableEq, Repr

structure Message (E : Type) where
  src : E
  type : MessageType
  code : UInt8
  mid : UInt16
deriving DecidableEq, Repr

def coapGet : UInt8 := 1
def coapDelete : UInt8 := 4
def coapMaxRetransmit : Nat := 4

def Message.isRequest {E : Type} (message : Message E) : Bool :=
  coapGet ≤ message.code && message.code ≤ coapDelete

structure Transaction (E : Type) where
  mid : UInt16
  retransCounter : Nat
  endpoint : E
  callback : Option Nat
  callbackData : Nat
  messageType : MessageType
  userData : Option Nat
deriving DecidableEq, Repr

structure Call (E : Type) where
  callback : Nat
  callbackData : Nat
  response : Option (Message E)
deriving DecidableEq, Repr

structure Engine (E : Type) where
  transactionsMemb : Memb (Transaction E)
  transactionsList : List Nat
  timerList : List Nat
  calls : List (Call E)

variable {E : Type}

def Engine.transaction (engine : Engine E) (t : Nat) : Transaction E := engine.transactionsMemb.mem t

def Engine.write (engine : Engine E) (t : Nat) (change : Transaction E → Transaction E) : Engine E :=
  { engine with transactionsMemb := engine.transactionsMemb.write t change }

namespace Transaction

/-- The fields that `coap_new_transaction` writes: the callback is not among them. -/
def renew (mid : UInt16) (endpoint : E) (transaction : Transaction E) : Transaction E :=
  { transaction with mid := mid, retransCounter := 0, endpoint := endpoint }

def setCallback (callback callbackData : Nat) (transaction : Transaction E) : Transaction E :=
  { transaction with callback := some callback, callbackData := callbackData }

def setMessage (type : MessageType) (transaction : Transaction E) : Transaction E :=
  { transaction with messageType := type }

def setUserData (t : Nat) (transaction : Transaction E) : Transaction E :=
  { transaction with userData := some t }

def countRetransmission (transaction : Transaction E) : Transaction E :=
  { transaction with retransCounter := transaction.retransCounter + 1 }

end Transaction

def coapNewTransaction (mid : UInt16) (endpoint : E) (engine : Engine E) : Option Nat × Engine E :=
  match engine.transactionsMemb.membAlloc with
  | (none, memb) => (none, { engine with transactionsMemb := memb })
  | (some t, memb) =>
    (some t,
      { engine with
        transactionsMemb := memb.write t (Transaction.renew mid endpoint)
        transactionsList := listAdd engine.transactionsList t })

def coapTimerSet (t : Nat) (engine : Engine E) : Engine E :=
  { engine with timerList := listAdd engine.timerList t }

def coapTimerStop (t : Nat) (engine : Engine E) : Engine E :=
  { engine with timerList := listRemove engine.timerList t }

def coapClearTransaction (t : Nat) (engine : Engine E) : Engine E :=
  let engine := coapTimerStop t engine
  { engine with
    transactionsList := listRemove engine.transactionsList t
    transactionsMemb := engine.transactionsMemb.membFree t }

def callCallback (transaction : Transaction E) (response : Option (Message E)) (engine : Engine E) :
    Engine E :=
  match transaction.callback with
  | none => engine
  | some callback =>
    { engine with calls := engine.calls ++ [⟨callback, transaction.callbackData, response⟩] }

def coapSendTransaction (t : Nat) (engine : Engine E) : Engine E :=
  let transaction := engine.transaction t
  if transaction.messageType = .con then
    if transaction.retransCounter < coapMaxRetransmit then
      coapTimerSet t
        (if transaction.retransCounter = 0 then engine.write t (Transaction.setUserData t) else engine)
    else callCallback transaction none (coapClearTransaction t engine)
  else coapClearTransaction t engine

def coapRetransmitTransaction (timer : Nat) (engine : Engine E) : Engine E :=
  match (engine.transaction timer).userData with
  | none => engine
  | some t => coapSendTransaction t (engine.write t Transaction.countRetransmission)

def coapTimerRun (timer : Nat) (engine : Engine E) : Engine E :=
  coapRetransmitTransaction timer { engine with timerList := listRemove engine.timerList timer }

def coapGetTransactionByMid (mid : UInt16) (engine : Engine E) : Option Nat :=
  engine.transactionsList.find? fun t => (engine.transaction t).mid = mid

def coapReceive (message : Message E) (engine : Engine E) : Engine E :=
  if message.isRequest then (coapNewTransaction message.mid message.src engine).2
  else
    match coapGetTransactionByMid message.mid engine with
    | none => engine
    | some t => callCallback (engine.transaction t) (some message) (coapClearTransaction t engine)

def Engine.init (num : Nat) (blank : E) : Engine E :=
  { transactionsMemb := ⟨num, fun _ => 0, fun _ => ⟨0, 0, blank, none, 0, .con, none⟩⟩
    transactionsList := []
    timerList := []
    calls := [] }

end MultiPhyTsch.Coap
