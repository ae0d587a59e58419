import MultiPhyTsch.Tsch.Types

/-! `sixp-pkt.c`: the header of a 6P message and the lengths a body can have. -/

namespace MultiPhyTsch.Sixp

inductive SixpPktType where
  | request
  | response
  | confirmation
  | reserved
deriving DecidableEq, Repr

def sixpPktCmdAdd : UInt8 := 1
def sixpPktCmdDelete : UInt8 := 2
def sixpPktCmdRelocate : UInt8 := 3
def sixpPktCmdCount : UInt8 := 4
def sixpPktCmdList : UInt8 := 5
def sixpPktCmdSignal : UInt8 := 6
def sixpPktCmdClear : UInt8 := 7

def sixpPktRcSuccess : UInt8 := 0
def sixpPktRcEol : UInt8 := 1
def sixpPktRcErr : UInt8 := 2
def sixpPktRcReset : UInt8 := 3
def sixpPktRcErrVersion : UInt8 := 4
def sixpPktRcErrSfid : UInt8 := 5
def sixpPktRcErrSeqnum : UInt8 := 6
def sixpPktRcErrCelllist : UInt8 := 7
def sixpPktRcErrBusy : UInt8 := 8
def sixpPktRcErrLocked : UInt8 := 9

def sixpPktVersion : UInt8 := 0

structure SixpPkt where
  version : UInt8
  type : SixpPktType
  code : UInt8
  sfid : UInt8
  seqno : UInt8
  body : Option (List UInt8)
deriving DecidableEq, Repr

def sixpPktZero : SixpPkt := ⟨0, .request, 0, 0, 0, none⟩

def SixpPktType.value : SixpPktType → UInt8
  | .request => 0
  | .response => 1
  | .confirmation => 2
  | .reserved => 3

def SixpPktType.ofBits (bits : UInt8) : SixpPktType :=
  if bits = 0 then .request
  else if bits = 1 then .response
  else if bits = 2 then .confirmation
  else .reserved

def requestLenValid (cmd : UInt8) (len : Nat) : Bool :=
  if cmd = sixpPktCmdAdd ∨ cmd = sixpPktCmdDelete ∨ cmd = sixpPktCmdRelocate then
    4 ≤ len && len % 4 == 0
  else if cmd = sixpPktCmdCount then len == 3
  else if cmd = sixpPktCmdList then len == 8
  else if cmd = sixpPktCmdSignal then 2 ≤ len
  else if cmd = sixpPktCmdClear then len == 2
  else false

/-- Whether a response or a confirmation with the return code can have a body of `len` bytes. -/
def replyLenValid (rc : UInt8) (len : Nat) : Bool :=
  if rc = sixpPktRcSuccess then true
  else if rc = sixpPktRcEol then len % 4 == 0
  else if rc ≤ sixpPktRcErrLocked then len == 0
  else false

/-- `sixp_pkt_parse`: whether it succeeds, and the structure, whose header fields are filled
in also when the body is refused. The version is not looked at. -/
def sixpPktParse : List UInt8 → Bool × SixpPkt
  | first :: code :: sfid :: seqno :: body =>
    let pkt : SixpPkt :=
      { version := first &&& 0x0f
        type := .ofBits ((first &&& 0x30) >>> 4)
        code := code
        sfid := sfid
        seqno := seqno
        body := none }
    let valid := match pkt.type with
      | .request => requestLenValid code body.length
      | .response | .confirmation => replyLenValid code body.length
      | .reserved => false
    if valid then (true, { pkt with body := some body }) else (false, pkt)
  | _ => (false, sixpPktZero)

/-- `sixp_pkt_create` in a packet buffer of `packetbufSize` bytes: the message in it, none for -1.
A body that is not null has to have a length; a null body with a length fails the same way. The
header is not counted in the check: bytes of the body copied behind the buffer are not in it. -/
def sixpPktCreate (packetbufSize : Nat) (type : SixpPktType) (code sfid seqno : UInt8)
    (body : Option (List UInt8)) : Option (List UInt8) :=
  let bytes := body.getD []
  if body.isSome ∧ bytes.length = 0 then none
  else if packetbufSize < bytes.length ∨ packetbufSize < 4 then none
  else
    some (([(type.value <<< 4) ||| sixpPktVersion, code, sfid, seqno] ++ bytes).take packetbufSize)

def getCellListOffset (type : SixpPktType) (code : UInt8) : Option Nat :=
  match type with
  | .request => if code = sixpPktCmdAdd ∨ code = sixpPktCmdDelete then some 4 else none
  | .response | .confirmation =>
    if code = sixpPktRcSuccess ∨ code = sixpPktRcEol then some 0 else none
  | .reserved => none

def sixpPktGetCellListLen (type : SixpPktType) (code : UInt8) (body : Option (List UInt8)) :
    Option Nat :=
  match body, getCellListOffset type code with
  | some body, some offset =>
    if body.length < offset ∨ (body.length - offset) % 4 ≠ 0 then none
    else some (body.length - offset)
  | _, _ => none

end MultiPhyTsch.Sixp
