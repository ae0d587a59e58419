import MultiPhyTsch.Sixtop.SixpPkt

/-! `sixp-trans.c`, `sixp-nbr.c` and `sixp.c`: transactions, sequence numbers and the messages
of 6P. What a scheduling function does when it is called back is a list of calls to
`sixp_output`. -/

namespace MultiPhyTsch.Sixp

inductive SixpTransState where
  | unavailable
  | init
  | requestSent
  | requestReceived
  | responseSent
  | responseReceived
  | confirmationSent
  | confirmationReceived
  | terminating
deriving DecidableEq, Repr

inductive SixpTransMode where
  | unavailable
  | twoStep
  | threeStep
deriving DecidableEq, Repr

inductive TransTimer where
  | handleTransTimeout
  | processTrans
deriving DecidableEq, Repr

inductive TransRole where
  | initiator
  | responder
deriving DecidableEq, Repr

structure SixtopSf where
  sfid : UInt8
  hasInput : Bool
  hasTimeout : Bool
deriving DecidableEq, Repr

/-- `sixp_trans_t`. `callback` is the function and argument to call when a message was sent.
`uid`, `role` and `visited`, the states from the last to the first, are of the model; no
function reads them. -/
structure SixpTrans where
  sf : SixtopSf
  peerAddr : LinkAddr
  seqno : UInt8
  cmd : UInt8
  state : SixpTransState
  mode : SixpTransMode
  callback : Option Nat
  timer : Option TransTimer
  uid : Nat
  role : TransRole
  visited : List SixpTransState
deriving DecidableEq, Repr

def sixpTransZero : SixpTrans :=
  ⟨⟨0, false, false⟩, linkaddrNull, 0, 0, .unavailable, .unavailable, none, none, 0, .initiator, []⟩

/-- A packet with the MAC, whose callback gets the pointer `block`. `uid` is the transaction
that sent it. -/
structure SentPacket where
  block : Nat
  uid : Nat
deriving DecidableEq, Repr

/-- What one call of `mac_callback` did: whose packet it reported and whether that transaction
was still there, which transaction changed its state, whose `sent_func` was called and from which
transaction a callback was taken at the end. -/
structure CallbackRecord where
  sender : Nat
  alive : Bool
  changed : Option Nat := none
  called : Option Nat := none
  cleared : Option Nat := none
deriving DecidableEq, Repr

structure SfInput where
  type : SixpPktType
  code : UInt8
  body : List UInt8
  srcAddr : LinkAddr
  uid : Nat
deriving DecidableEq, Repr

structure SixpConf where
  maxTransactions : Nat
  packetbufSize : Nat
  schedulingFunctions : List SixtopSf

/-- The variables of 6P. `nbrs` is the next sequence number of a neighbor in the table. `outbox`,
`inputs` and `callbacks` record the messages given to the MAC, those given to the scheduling
functions and the calls of `mac_callback`; no function reads them. -/
structure SixpNode where
  transMemb : Memb SixpTrans
  transList : List Nat
  nbrs : LinkAddr → Option UInt8
  inFlight : List SentPacket
  nextUid : Nat
  outbox : List (LinkAddr × List UInt8)
  inputs : List SfInput
  callbacks : List CallbackRecord

variable (conf : SixpConf)

def sixpInit : SixpNode :=
  { transMemb := ⟨conf.maxTransactions, fun _ => 0, fun _ => sixpTransZero⟩
    transList := []
    nbrs := fun _ => none
    inFlight := []
    nextUid := 0
    outbox := []
    inputs := []
    callbacks := [] }

def SixpNode.trans (node : SixpNode) (block : Nat) : SixpTrans := node.transMemb.mem block

def SixpNode.writeTrans (node : SixpNode) (block : Nat) (change : SixpTrans → SixpTrans) : SixpNode :=
  { node with transMemb := node.transMemb.write block change }

def SixpNode.setTimer (node : SixpNode) (block : Nat) (timer : Option TransTimer) : SixpNode :=
  node.writeTrans block fun trans => { trans with timer := timer }

def sixtopFindSf (sfid : UInt8) : Option SixtopSf :=
  conf.schedulingFunctions.find? (·.sfid = sfid)

inductive NbrRoom where
  | full
  | added (evicted : List LinkAddr)
deriving DecidableEq, Repr

def SixpNode.setNextSeqno (node : SixpNode) (addr : LinkAddr) (seqno : UInt8) : SixpNode :=
  { node with nbrs := Function.update node.nbrs addr (some seqno) }

def sixpNbrAlloc (addr : LinkAddr) (room : NbrRoom) (node : SixpNode) : Option SixpNode :=
  match node.nbrs addr, room with
  | some _, _ => none
  | none, .full => none
  | none, .added evicted =>
    some ({ node with nbrs := fun other => if other ∈ evicted then none else node.nbrs other
      }.setNextSeqno addr 0)

def incrementSeqno (seqno : UInt8) : UInt8 := if seqno + 1 = 0 then 1 else seqno + 1

def transitionAllowed (trans : SixpTrans) : SixpTransState → Bool
  | .terminating => true
  | .requestSent => trans.state = .init
  | .requestReceived => trans.state = .init
  | .responseSent => trans.state = .requestReceived
  | .responseReceived => trans.state = .requestSent
  | .confirmationReceived => trans.state = .responseSent && trans.mode = .threeStep
  | .confirmationSent => trans.state = .responseReceived && trans.mode = .threeStep
  | .unavailable => false
  | .init => false

def updateNextSeqno (trans : SixpTrans) (newState : SixpTransState) (node : SixpNode) : SixpNode :=
  match newState, node.nbrs trans.peerAddr with
  | .requestSent, some seqno =>
    if trans.cmd = sixpPktCmdClear then node
    else node.setNextSeqno trans.peerAddr (incrementSeqno seqno)
  | .responseSent, some seqno =>
    node.setNextSeqno trans.peerAddr
      (incrementSeqno (if trans.seqno ≠ 0 then trans.seqno else seqno))
  | _, _ => node

variable (block : Nat)

def sixpTransTransitState (newState : SixpTransState) (node : SixpNode) :
    Bool × SixpNode :=
  let trans := node.trans block
  if transitionAllowed trans newState then
    (true, (updateNextSeqno trans newState node).writeTrans block fun trans =>
      { trans with
        state := newState
        visited := newState :: trans.visited
        timer := some .processTrans })
  else (false, node)

def freeTrans (node : SixpNode) : SixpNode :=
  { node with
    transList := listRemove node.transList block
    transMemb := node.transMemb.membFree block }

def processState (node : SixpNode) : SixpNode :=
  let trans := node.trans block
  match trans.state with
  | .responseSent | .responseReceived =>
    if trans.mode = .twoStep then (sixpTransTransitState block .terminating node).2 else node
  | .confirmationSent | .confirmationReceived =>
    (sixpTransTransitState block .terminating node).2
  | _ => node

def processTrans (node : SixpNode) : SixpNode :=
  let node := node.setTimer block none
  if (node.trans block).state = .terminating then freeTrans block node
  else
    let node := processState block node
    if (node.trans block).state ≠ .terminating then
      node.setTimer block (some .handleTransTimeout)
    else node

/-- `handle_trans_timeout`. `react` is what the scheduling function does about the timeout. -/
def handleTransTimeout (react : SixpNode → SixpNode) (block : Nat) (node : SixpNode) : SixpNode :=
  let node := if (node.trans block).sf.hasTimeout then react node else node
  (sixpTransTransitState block .terminating node).2

def determineTransMode (req : SixpPkt) : SixpTransMode :=
  if req.type = .request ∧ (req.code = sixpPktCmdAdd ∨ req.code = sixpPktCmdDelete) ∧
      sixpPktGetCellListLen req.type req.code req.body = some 0 then .threeStep
  else .twoStep

def sixpTransFind (peerAddr : LinkAddr) (node : SixpNode) : Option Nat :=
  node.transList.find? fun block => (node.trans block).peerAddr = peerAddr

def sixpTransAlloc (pkt : SixpPkt) (peerAddr : LinkAddr) (role : TransRole) (node : SixpNode) :
    Option Nat × SixpNode :=
  match sixtopFindSf conf pkt.sfid, sixpTransFind peerAddr node, node.transMemb.membAlloc with
  | some sf, none, (some block, memb) =>
    (some block, { node with
      transMemb := memb.write block fun _ =>
        { sf := sf
          peerAddr := peerAddr
          seqno := pkt.seqno
          cmd := pkt.code
          state := .init
          mode := determineTransMode pkt
          callback := none
          timer := some .handleTransTimeout
          uid := node.nextUid
          role := role
          visited := [.init] }
      transList := listAdd node.transList block
      nextUid := node.nextUid + 1 })
  | _, _, _ => (none, node)

def callbackState (status : MacTxStatus) (state : SixpTransState) : Option SixpTransState :=
  if status = .ok then
    match state with
    | .init => some .requestSent
    | .requestReceived => some .responseSent
    | .responseReceived => some .confirmationSent
    | _ => none
  else if state = .init then some .terminating
  else some state

def SixpNode.recordCallback (node : SixpNode) (record : CallbackRecord) : SixpNode :=
  { node with callbacks := node.callbacks ++ [record] }

def setCallback (block : Nat) (callback : Option Nat) (node : SixpNode) : SixpNode :=
  node.writeTrans block fun trans => { trans with callback := callback }

def SixpNode.liveUid (node : SixpNode) (block : Nat) (test : SixpTrans → Bool) : Option Nat :=
  if block ∈ node.transList ∧ test (node.trans block) then some (node.trans block).uid else none

def macCallback (react : SixpNode → SixpNode) (packet : SentPacket) (status : MacTxStatus)
    (node : SixpNode) : SixpNode :=
  let trans := node.trans packet.block
  let record : CallbackRecord := ⟨packet.uid,
    decide (packet.block ∈ node.transList ∧ trans.uid = packet.uid), none, none, none⟩
  match callbackState status trans.state with
  | none => node.recordCallback record
  | some newState =>
    if newState ≠ trans.state ∧ ¬ transitionAllowed trans newState then
      (sixpTransTransitState packet.block .terminating node).2.recordCallback
        { record with changed := some trans.uid }
    else
      let node :=
        if newState ≠ trans.state then (sixpTransTransitState packet.block newState node).2
        else node
      let node := if trans.callback.isSome then react node else node
      (setCallback packet.block none node).recordCallback { record with
        changed := if newState ≠ trans.state then some trans.uid else none
        called := if trans.callback.isSome then some trans.uid else none
        cleared := node.liveUid packet.block (·.callback.isSome) }

def sendBackError (type : SixpPktType) (code sfid seqno : UInt8) (destAddr : LinkAddr)
    (node : SixpNode) : SixpNode :=
  match sixpPktCreate conf.packetbufSize type code sfid seqno none with
  | none => node
  | some message => { node with outbox := node.outbox ++ [(destAddr, message)] }

variable (pkt : SixpPkt)

def seqnoInconsistent (nextSeqno : Option UInt8) : Bool :=
  pkt.code ≠ sixpPktCmdClear &&
    match nextSeqno with
    | none => pkt.seqno ≠ 0
    | some seqno => seqno ≠ 0 && pkt.seqno = 0

variable (srcAddr : LinkAddr)

def inputRequest (node : SixpNode) : Option Nat × SixpNode :=
  if (sixpTransFind srcAddr node).isSome then
    (none, sendBackError conf .response sixpPktRcErrBusy pkt.sfid pkt.seqno srcAddr node)
  else
    let node :=
      if pkt.code = sixpPktCmdClear ∧ (node.nbrs srcAddr).isSome then node.setNextSeqno srcAddr 0
      else node
    match sixpTransAlloc conf pkt srcAddr .responder node with
    | (none, node) =>
      (none, sendBackError conf .response sixpPktRcErrBusy pkt.sfid pkt.seqno srcAddr node)
    | (some block, node) =>
      let node := (sixpTransTransitState block .requestReceived node).2
      if seqnoInconsistent pkt (node.nbrs srcAddr) then
        (none, sendBackError conf .response sixpPktRcErrSeqnum pkt.sfid
          ((node.nbrs srcAddr).getD 0) srcAddr node)
      else (some block, node)

def inputReply (newState : SixpTransState) (node : SixpNode) :
    Option Nat × SixpNode :=
  match sixpTransFind srcAddr node with
  | none => (none, node)
  | some block =>
    if (node.trans block).seqno ≠ pkt.seqno then (none, node)
    else
      match sixpTransTransitState block newState node with
      | (true, node) => (some block, node)
      | (false, node) => (none, (sixpTransTransitState block .terminating node).2)

def acceptInput (node : SixpNode) : Option Nat × SixpNode :=
  match pkt.type with
  | .request => inputRequest conf pkt srcAddr node
  | .response => inputReply pkt srcAddr .responseReceived node
  | .confirmation => inputReply pkt srcAddr .confirmationReceived node
  | .reserved => (none, node)

def sixpInput (buf : List UInt8) (srcAddr : LinkAddr) (react : SixpNode → SixpNode)
    (node : SixpNode) : SixpNode :=
  match sixpPktParse buf with
  | (false, pkt) =>
    if pkt.version ≠ sixpPktVersion then
      sendBackError conf .response sixpPktRcErrVersion pkt.sfid pkt.seqno srcAddr node
    else node
  | (true, pkt) =>
    match sixtopFindSf conf pkt.sfid with
    | none => sendBackError conf .response sixpPktRcErrSfid pkt.sfid pkt.seqno srcAddr node
    | some sf =>
      match acceptInput conf pkt srcAddr node with
      | (none, node) => node
      | (some block, node) =>
        if sf.hasInput then
          react { node with inputs := node.inputs ++
            [⟨pkt.type, pkt.code, pkt.body.getD [], srcAddr, (node.trans block).uid⟩] }
        else node

structure SixpOutputArgs where
  type : SixpPktType
  code : UInt8
  sfid : UInt8
  body : Option (List UInt8)
  destAddr : LinkAddr
  func : Option Nat
deriving DecidableEq, Repr

/-- The message and the transaction of a request, none for -1. The sequence number is taken
before a CLEAR resets it. -/
def outputRequest (args : SixpOutputArgs) (room : NbrRoom) (node : SixpNode) :
    Option (Nat × List UInt8) × SixpNode :=
  if (sixpTransFind args.destAddr node).isSome then (none, node)
  else
    match (node.nbrs args.destAddr).elim (sixpNbrAlloc args.destAddr room node)
        (fun _ => some node) with
    | none => (none, node)
    | some node =>
      let seqno := (node.nbrs args.destAddr).getD 0
      let node :=
        if args.code = sixpPktCmdClear then node.setNextSeqno args.destAddr 0 else node
      match sixpPktCreate conf.packetbufSize args.type args.code args.sfid seqno args.body with
      | none => (none, node)
      | some message =>
        match sixpTransAlloc conf ⟨sixpPktVersion, args.type, args.code, args.sfid, seqno,
            args.body⟩ args.destAddr .initiator node with
        | (none, node) => (none, node)
        | (some block, node) => (some (block, message), node)

/-- The message and the transaction of a response or confirmation, none for -1. A successful
response to ADD or DELETE needs an entry for the neighbor. -/
def outputReply (args : SixpOutputArgs) (expected : SixpTransState) (room : NbrRoom)
    (node : SixpNode) : Option (Nat × List UInt8) × SixpNode :=
  match sixpTransFind args.destAddr node with
  | none => (none, node)
  | some block =>
    let trans := node.trans block
    if trans.state ≠ expected then (none, node)
    else
      let needsNbr := node.nbrs args.destAddr = none ∧ args.type = .response ∧
        args.code = sixpPktRcSuccess ∧ (trans.cmd = sixpPktCmdAdd ∨ trans.cmd = sixpPktCmdDelete)
      match if needsNbr then sixpNbrAlloc args.destAddr room node else some node with
      | none => (none, node)
      | some node =>
        match sixpPktCreate conf.packetbufSize args.type args.code args.sfid trans.seqno
            args.body with
        | none => (none, node)
        | some message => (some (block, message), node)

/-- `sixtop_output` with `mac_callback`. The MAC takes the packet and may report it later, or
`immediate` is the status it reports at once. -/
def sixtopOutput (destAddr : LinkAddr) (message : List UInt8) (block : Nat)
    (immediate : Option MacTxStatus) (react : SixpNode → SixpNode) (node : SixpNode) : SixpNode :=
  let packet : SentPacket := ⟨block, (node.trans block).uid⟩
  let node := { node with outbox := node.outbox ++ [(destAddr, message)] }
  match immediate with
  | none => { node with inFlight := node.inFlight ++ [packet] }
  | some status => macCallback react packet status node

def prepareOutput (args : SixpOutputArgs) (room : NbrRoom) (node : SixpNode) :
    Option (Nat × List UInt8) × SixpNode :=
  match args.type with
  | .request => outputRequest conf args room node
  | .response => outputReply conf args .requestReceived room node
  | .confirmation => outputReply conf args .responseReceived room node
  | .reserved => (none, node)

def sixpOutput (args : SixpOutputArgs) (room : NbrRoom) (immediate : Option MacTxStatus)
    (react : SixpNode → SixpNode) (node : SixpNode) : Bool × SixpNode :=
  match prepareOutput conf args room node with
  | (none, node) => (false, node)
  | (some (block, message), node) =>
    (true, sixtopOutput args.destAddr message block immediate react
      (setCallback block args.func node))

/-- The calls of a scheduling function: `sixp_output` with what the neighbor table and the MAC do
about it and, where the MAC reports at once, what the `sent_func` calls; then the next calls. -/
inductive SfCalls where
  | done
  | output (args : SixpOutputArgs) (room : NbrRoom) (immediate : Option MacTxStatus)
      (reaction next : SfCalls)

def SfCalls.run : SfCalls → SixpNode → SixpNode
  | .done, node => node
  | .output args room immediate reaction next, node =>
    next.run (sixpOutput conf args room immediate reaction.run node).2

inductive SixpEvent where
  | input (buf : List UInt8) (srcAddr : LinkAddr) (calls : SfCalls)
  | sfCalls (calls : SfCalls)
  | sent (index : Nat) (status : MacTxStatus) (calls : SfCalls)
  | timer (block : Nat) (calls : SfCalls)
  | nbrRemoved (addr : LinkAddr)

/-- One event: a message arrives, a scheduling function sends, the MAC reports a packet it has,
a timer that is set expires, or the neighbor table drops an entry. -/
def sixpStep (node : SixpNode) : SixpEvent → SixpNode
  | .input buf srcAddr calls => sixpInput conf buf srcAddr (calls.run conf) node
  | .sfCalls calls => calls.run conf node
  | .sent index status calls =>
    match node.inFlight[index]? with
    | none => node
    | some packet =>
      macCallback (calls.run conf) packet status
        { node with inFlight := node.inFlight.eraseIdx index }
  | .timer block calls =>
    match (node.trans block).timer with
    | none => node
    | some .handleTransTimeout =>
      handleTransTimeout (calls.run conf) block (node.setTimer block none)
    | some .processTrans => processTrans block node
  | .nbrRemoved addr => { node with nbrs := Function.update node.nbrs addr none }

end MultiPhyTsch.Sixp
