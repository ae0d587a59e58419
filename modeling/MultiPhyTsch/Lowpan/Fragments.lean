import MultiPhyTsch.Lowpan.Uncompress
import Mathlib.Data.List.FinRange

/-! Reassembly: the contexts and fragment buffers, `add_fragment` and `input`. Timers enter as the
set of contexts whose timer has expired when a frame is received. -/

namespace MultiPhyTsch.Lowpan

structure SicslowpanFragInfo where
  sender : LinkAddr
  tag : UInt16
  len : Nat
  reassembledLen : Nat
  firstFragLen : Nat
  firstFrag : Memory UInt8

structure SicslowpanFragBuf where
  index : Nat
  offset : Nat
  len : Nat
  data : Memory UInt8

structure Reassembly (conf : LowpanConf) where
  fragInfo : Fin conf.reassContexts → SicslowpanFragInfo
  fragBuf : Fin conf.fragmentBuffers → SicslowpanFragBuf
  uipBuf : Memory UInt8

namespace Reassembly

variable {conf : LowpanConf}

def setInfo (state : Reassembly conf) (context : Fin conf.reassContexts)
    (info : SicslowpanFragInfo) : Reassembly conf :=
  { state with fragInfo := Function.update state.fragInfo context info }

def setBuf (state : Reassembly conf) (i : Fin conf.fragmentBuffers) (buf : SicslowpanFragBuf) :
    Reassembly conf :=
  { state with fragBuf := Function.update state.fragBuf i buf }

variable (state : Reassembly conf) {context other : Fin conf.reassContexts}
  {i j : Fin conf.fragmentBuffers} (info : SicslowpanFragInfo) (buf : SicslowpanFragBuf)

@[simp] theorem setInfo_fragInfo : (state.setInfo context info).fragInfo context = info := by
  simp [setInfo]

@[simp] theorem setInfo_fragInfo_of_ne (different : other ≠ context) :
    (state.setInfo context info).fragInfo other = state.fragInfo other := by
  simp [setInfo, different]

@[simp] theorem setInfo_fragBuf : (state.setInfo context info).fragBuf = state.fragBuf := rfl

@[simp] theorem setInfo_setInfo (first : SicslowpanFragInfo) :
    (state.setInfo context first).setInfo context info = state.setInfo context info := by
  simp [setInfo]

@[simp] theorem setBuf_fragBuf : (state.setBuf i buf).fragBuf i = buf := by
  simp [setBuf]

@[simp] theorem setBuf_fragBuf_of_ne (different : j ≠ i) :
    (state.setBuf i buf).fragBuf j = state.fragBuf j := by
  simp [setBuf, different]

@[simp] theorem setBuf_fragInfo : (state.setBuf i buf).fragInfo = state.fragInfo := rfl

end Reassembly

namespace RxPacketbuf

def mem (packetbuf : RxPacketbuf) : Memory UInt8 := fun index => packetbuf.bytes.getD index 0

def payload (packetbuf : RxPacketbuf) (packetbufHdrLen : Nat) : List UInt8 :=
  packetbuf.mem.read packetbufHdrLen (packetbuf.datalen - packetbufHdrLen)

@[simp] theorem payload_length (packetbuf : RxPacketbuf) (packetbufHdrLen : Nat) :
    (packetbuf.payload packetbufHdrLen).length = packetbuf.datalen - packetbufHdrLen := by
  simp [payload]

variable (packetbuf : RxPacketbuf)

def fragDispatch : UInt8 := packetbuf.mem 0 &&& dispatchFragMask

def fragSize : Nat := (get16 packetbuf.mem 0 &&& 0x07ff).toNat

def fragTag : UInt16 := get16 packetbuf.mem 2

def fragOffset : Nat := (packetbuf.mem 4).toNat

end RxPacketbuf

def frag1HdrLen : Nat := 4
def fragnHdrLen : Nat := 5

variable {conf : LowpanConf}

def SicslowpanFragBuf.HeldFor (buf : SicslowpanFragBuf) (context : Nat) : Prop :=
  0 < buf.len ∧ buf.index = context

instance (buf : SicslowpanFragBuf) (context : Nat) : Decidable (buf.HeldFor context) :=
  inferInstanceAs (Decidable (_ ∧ _))

def clearFragments (state : Reassembly conf) (context : Fin conf.reassContexts) :
    Reassembly conf × Nat :=
  ({ state.setInfo context { state.fragInfo context with len := 0 } with
      fragBuf := fun i =>
        if (state.fragBuf i).HeldFor context then { state.fragBuf i with len := 0 }
        else state.fragBuf i },
    (List.finRange conf.fragmentBuffers).countP fun i => (state.fragBuf i).HeldFor context)

def timeoutFragment (expired : Fin conf.reassContexts → Bool)
    (notContext : Fin conf.reassContexts) (progress : Reassembly conf × Nat)
    (i : Fin conf.reassContexts) : Reassembly conf × Nat :=
  if 0 < (progress.1.fragInfo i).len ∧ i ≠ notContext ∧ expired i then
    let (state, count) := clearFragments progress.1 i
    (state, progress.2 + count)
  else progress

def timeoutFragments (expired : Fin conf.reassContexts → Bool) (state : Reassembly conf)
    (notContext : Fin conf.reassContexts) : Reassembly conf × Nat :=
  (List.finRange conf.reassContexts).foldl (timeoutFragment expired notContext) (state, 0)

def storeFragment (state : Reassembly conf) (index : Fin conf.reassContexts) (offset : Nat)
    (packetbuf : RxPacketbuf) (packetbufHdrLen : Nat) : Reassembly conf × Option Nat :=
  match (List.finRange conf.fragmentBuffers).find? fun i => (state.fragBuf i).len = 0 with
  | none => (state, none)
  | some i =>
    let payload := packetbuf.payload packetbufHdrLen
    let len := payload.length % 256
    (state.setBuf i
      { index := index
        offset := offset
        len := len
        data := (state.fragBuf i).data.write 0 payload }, some len)

variable (expired : Fin conf.reassContexts → Bool)

/-- One round of the loop of `add_fragment` for a first fragment: the state and `found`. -/
def findFreeContext
    (progress : Reassembly conf × Option (Fin conf.reassContexts)) (i : Fin conf.reassContexts) :
    Reassembly conf × Option (Fin conf.reassContexts) :=
  let state :=
    if 0 < (progress.1.fragInfo i).len ∧ expired i then (clearFragments progress.1 i).1
    else progress.1
  (state, if progress.2 = none ∧ (state.fragInfo i).len = 0 then some i else progress.2)

def addFirstFragment (state : Reassembly conf)
    (packetbuf : RxPacketbuf) (tag : UInt16) (fragSize : Nat) :
    Reassembly conf × Option (Fin conf.reassContexts) :=
  match (List.finRange conf.reassContexts).foldl (findFreeContext expired) (state, none) with
  | (state, none) => (state, none)
  | (state, some found) =>
    (state.setInfo found
      { state.fragInfo found with
        len := fragSize
        tag := tag
        sender := packetbuf.sender }, some found)

def addNFragment (state : Reassembly conf)
    (packetbuf : RxPacketbuf) (packetbufHdrLen : Nat) (tag : UInt16) (offset : Nat) :
    Reassembly conf × Option (Fin conf.reassContexts) :=
  match (List.finRange conf.reassContexts).find? fun i => (state.fragInfo i).tag = tag ∧
    0 < (state.fragInfo i).len ∧ (state.fragInfo i).sender = packetbuf.sender with
  | none => (state, none)
  | some found =>
    let (state, len) :=
      match storeFragment state found offset packetbuf packetbufHdrLen with
      | (state, some len) => (state, some len)
      | (state, none) =>
        let (state, count) := timeoutFragments expired state found
        if count > 0 then storeFragment state found offset packetbuf packetbufHdrLen
        else (state, none)
    if 0 < len.getD 0 then
      (state.setInfo found
        { state.fragInfo found with
          reassembledLen := ((state.fragInfo found).reassembledLen + len.getD 0) % 65536 },
        some found)
    else (state, none)

def addFragment (state : Reassembly conf)
    (packetbuf : RxPacketbuf) (packetbufHdrLen : Nat) (tag : UInt16) (fragSize offset : Nat) :
    Reassembly conf × Option (Fin conf.reassContexts) :=
  if offset = 0 then addFirstFragment expired state packetbuf tag fragSize
  else addNFragment expired state packetbuf packetbufHdrLen tag offset

def heldPatches (state : Reassembly conf) (context : Fin conf.reassContexts) : List (Patch UInt8) :=
  ⟨0, (state.fragInfo context).firstFrag.read 0 (state.fragInfo context).firstFragLen⟩ ::
    (List.finRange conf.fragmentBuffers).filterMap fun i =>
      if (state.fragBuf i).HeldFor context then
        some ⟨(state.fragBuf i).offset * 8, (state.fragBuf i).data.read 0 (state.fragBuf i).len⟩
      else none

def copyFrags2uip (state : Reassembly conf) (context : Fin conf.reassContexts) : Reassembly conf :=
  { (clearFragments state context).1 with
    uipBuf := Patch.applyAll state.uipBuf (heldPatches state context) }

/-- The headers behind the fragmentation header, from `digest_paging_dispatch` on; none where
`input` returns. -/
def inputHeaders (addrContexts : List SicslowpanAddrContext) (packetbuf : RxPacketbuf)
    (packetbufHdrLen : Nat) (buffer : Memory UInt8) (fragSize : Nat) : Option Uncompressed :=
  let paging := packetbuf.mem packetbufHdrLen &&& dispatchPagingMask = dispatchPaging
  let currPage := if paging then packetbuf.mem packetbufHdrLen &&& 0x0f else 0
  let packetbufHdrLen := if paging then packetbufHdrLen + 1 else packetbufHdrLen
  if currPage > 1 then none
  else if packetbuf.mem packetbufHdrLen &&& dispatchIphcMask = dispatchIphc then
    some (uncompressHdrIphc addrContexts packetbuf packetbufHdrLen buffer fragSize)
  else if packetbuf.mem packetbufHdrLen = dispatchIpv6 then
    some ⟨buffer.write 0 (packetbuf.mem.read (packetbufHdrLen + 1) uipIphLen),
      packetbufHdrLen + 1 + uipIphLen, uipIphLen⟩
  else none

/-- The checks in front of the payload's copy, with what is required of `uip_buf`. -/
def payloadAccepted (conf : LowpanConf) (packetbuf : RxPacketbuf)
    (packetbufHdrLen uncompHdrLen fragOffset : Nat) : Prop :=
  packetbufHdrLen ≤ packetbuf.datalen ∧
    uncompHdrLen + fragOffset * 8 + (packetbuf.datalen - packetbufHdrLen) ≤ conf.uipBufsize

instance (packetbuf : RxPacketbuf) (packetbufHdrLen uncompHdrLen fragOffset : Nat) :
    Decidable (payloadAccepted conf packetbuf packetbufHdrLen uncompHdrLen fragOffset) :=
  inferInstanceAs (Decidable (_ ∧ _))

/-- What `input` makes of the headers and the payload in `buffer`: the buffer, and the bytes that
were put there, none where it returns. -/
def inputBuffer (conf : LowpanConf) (addrContexts : List SicslowpanAddrContext)
    (packetbuf : RxPacketbuf) (packetbufHdrLen : Nat) (buffer : Memory UInt8) (fragSize : Nat) :
    Memory UInt8 × Option Nat :=
  match inputHeaders addrContexts packetbuf packetbufHdrLen buffer fragSize with
  | none => (buffer, none)
  | some headers =>
    if payloadAccepted conf packetbuf headers.packetbufHdrLen headers.uncompHdrLen 0 then
      (headers.buf.write headers.uncompHdrLen (packetbuf.payload headers.packetbufHdrLen),
        some (headers.uncompHdrLen + (packetbuf.datalen - headers.packetbufHdrLen)))
    else (headers.buf, none)

def inputFrag1 (addrContexts : List SicslowpanAddrContext) (expired : Fin conf.reassContexts → Bool)
    (state : Reassembly conf) (packetbuf : RxPacketbuf) : Reassembly conf :=
  match addFragment expired state packetbuf frag1HdrLen packetbuf.fragTag packetbuf.fragSize 0 with
  | (state, none) => state
  | (state, some context) =>
    let (firstFrag, len) := inputBuffer conf addrContexts packetbuf frag1HdrLen
      (state.fragInfo context).firstFrag packetbuf.fragSize
    let info := { state.fragInfo context with firstFrag := firstFrag }
    let info :=
      match len with
      | some len =>
        if 0 < packetbuf.fragSize then
          { info with reassembledLen := len % 65536, firstFragLen := len % 65536 }
        else info
      | none => info
    state.setInfo context info

def inputFragn (expired : Fin conf.reassContexts → Bool) (state : Reassembly conf)
    (packetbuf : RxPacketbuf) : Reassembly conf × Option (List UInt8) :=
  match addFragment expired state packetbuf fragnHdrLen packetbuf.fragTag packetbuf.fragSize
    packetbuf.fragOffset with
  | (state, none) => (state, none)
  | (state, some context) =>
    if payloadAccepted conf packetbuf fragnHdrLen 0 packetbuf.fragOffset then
      if packetbuf.fragSize ≤ (state.fragInfo context).reassembledLen then
        -- the last fragment to arrive
        if 0 < packetbuf.fragSize then
          let info := { state.fragInfo context with reassembledLen := packetbuf.fragSize }
          let state := copyFrags2uip (state.setInfo context info) context
          (state, some (state.uipBuf.read 0 packetbuf.fragSize))
        else (state, some [])
      else (state, none)
    else (state, none)

def input (addrContexts : List SicslowpanAddrContext) (expired : Fin conf.reassContexts → Bool)
    (state : Reassembly conf) (packetbuf : RxPacketbuf) :
    Reassembly conf × Option (List UInt8) :=
  if packetbuf.datalen = 0 then (state, none)
  else if packetbuf.fragDispatch = dispatchFrag1 then
    (inputFrag1 addrContexts expired state packetbuf, none)
  else if packetbuf.fragDispatch = dispatchFragn then inputFragn expired state packetbuf
  else
    match inputBuffer conf addrContexts packetbuf 0 state.uipBuf 0 with
    | (uipBuf, none) => ({ state with uipBuf := uipBuf }, none)
    | (uipBuf, some len) => ({ state with uipBuf := uipBuf }, some (uipBuf.read 0 (len % 65536)))

end MultiPhyTsch.Lowpan
