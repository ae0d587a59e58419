import MultiPhyTsch.Lib.Accesses
import MultiPhyTsch.Lib.Loop

/-! The parser of CoAP messages (`coap_parse_message` in `coap.c`). It works on the datagram in
place; strings and the payload are slices of the datagram, which places below say by their index. -/

namespace MultiPhyTsch.Coap

inductive CoapStatus where
  | noError
  | badRequest
  | badOption
  | proxyingNotSupported
deriving DecidableEq, Repr

structure CoapSlice where
  ptr : Option Nat
  len : Nat
deriving DecidableEq, Repr

def CoapSlice.null : CoapSlice := ⟨none, 0⟩

def CoapSlice.stop (slice : CoapSlice) : Nat := slice.ptr.getD 0 + slice.len

structure CoapBlock where
  num : UInt32
  more : UInt8
  size : UInt16
  offset : UInt32
deriving DecidableEq, Repr

structure CoapMessage where
  version : UInt8
  type : UInt8
  code : UInt8
  mid : UInt16
  tokenLen : UInt8
  token : List UInt8
  options : Vector UInt8 8
  contentFormat : UInt16
  maxAge : UInt32
  etagLen : UInt8
  etag : List UInt8
  proxyUri : CoapSlice
  proxyScheme : CoapSlice
  uriHost : CoapSlice
  locationPath : CoapSlice
  uriPort : UInt16
  locationQuery : CoapSlice
  uriPath : CoapSlice
  observe : Int32
  accept : UInt16
  ifMatchLen : UInt8
  ifMatch : List UInt8
  block2 : CoapBlock
  block1 : CoapBlock
  size2 : UInt32
  size1 : UInt32
  uriQuery : CoapSlice
  ifNoneMatch : UInt8
  payloadLen : UInt16
  payload : Option Nat
deriving DecidableEq, Repr

def CoapMessage.zero : CoapMessage where
  version := 0
  type := 0
  code := 0
  mid := 0
  tokenLen := 0
  token := []
  options := Vector.replicate 8 0
  contentFormat := 0
  maxAge := 0
  etagLen := 0
  etag := []
  proxyUri := .null
  proxyScheme := .null
  uriHost := .null
  locationPath := .null
  uriPort := 0
  locationQuery := .null
  uriPath := .null
  observe := 0
  accept := 0
  ifMatchLen := 0
  ifMatch := []
  block2 := ⟨0, 0, 0, 0⟩
  block1 := ⟨0, 0, 0, 0⟩
  size2 := 0
  size1 := 0
  uriQuery := .null
  ifNoneMatch := 0
  payloadLen := 0
  payload := none

def coapHeaderLen : Nat := 4
def coapTokenLen : Nat := 8
def coapEtagLen : Nat := 8

def coapOptionIfMatch : Nat := 1
def coapOptionUriHost : Nat := 3
def coapOptionEtag : Nat := 4
def coapOptionIfNoneMatch : Nat := 5
def coapOptionObserve : Nat := 6
def coapOptionUriPort : Nat := 7
def coapOptionLocationPath : Nat := 8
def coapOptionUriPath : Nat := 11
def coapOptionContentFormat : Nat := 12
def coapOptionMaxAge : Nat := 14
def coapOptionUriQuery : Nat := 15
def coapOptionAccept : Nat := 17
def coapOptionLocationQuery : Nat := 20
def coapOptionBlock2 : Nat := 23
def coapOptionBlock1 : Nat := 27
def coapOptionSize2 : Nat := 28
def coapOptionProxyUri : Nat := 35
def coapOptionProxyScheme : Nat := 39
def coapOptionSize1 : Nat := 60

structure CoapConf where
  maxChunkSize : UInt16
  proxyOptionProcessing : Bool

structure CoapOutcome where
  status : CoapStatus
  errorMessage : Option String
deriving DecidableEq, Repr

def coapSetOption (message : CoapMessage) (opt : Nat) : CoapMessage :=
  if opt > coapOptionSize1 then message
  else
    let bits := message.options.toList.getD (opt / 8) 0 ||| ((1 : UInt8) <<< UInt8.ofNat (opt % 8))
    { message with options := message.options.setIfInBounds (opt / 8) bits }

def coapParseIntOption (bytes length : Nat) : Accesses UInt8 UInt32 := do
  let read ← Accesses.loadAll bytes length
  pure (read.foldl (fun var byte => (var <<< 8) ||| byte.toUInt32) 0)

/-- `coap_merge_multi_option`: a further segment is moved behind the ones before it. -/
def coapMergeMultiOption (dst : CoapSlice) (option optionLen : Nat) (separator : UInt8) :
    Accesses UInt8 CoapSlice :=
  if dst.len > 0 then do
    Accesses.store dst.stop separator
    Accesses.move (dst.stop + 1) option optionLen
    pure ⟨dst.ptr, dst.len + 1 + optionLen⟩
  else pure ⟨some option, optionLen⟩

def coapBlock (num : UInt32) : CoapBlock where
  num := num >>> 4
  more := ((num &&& 0x08) >>> 3).toUInt8
  size := UInt16.ofNat (16 <<< (num &&& 0x07).toNat)
  offset := (num &&& ~~~ 0x0000000f) <<< (num &&& 0x07)

def extended (nibble current : Nat) : Accesses UInt8 (Nat × Nat) :=
  if nibble = 13 then do
    let byte ← Accesses.load current
    pure (13 + byte.toNat, current + 1)
  else if nibble = 14 then do
    let high ← Accesses.load current
    let low ← Accesses.load (current + 1)
    pure (14 + 255 + high.toNat * 256 + low.toNat, current + 2)
  else pure (nibble, current)

def charSlash : UInt8 := 0x2f
def charAmpersand : UInt8 := 0x26

/-- The case of an option, with its value at `current`: the message, and what is returned if the
parser ends there. -/
def coapOption (conf : CoapConf) (message : CoapMessage) (number current length : Nat) :
    Accesses UInt8 (CoapMessage × Option CoapOutcome) := do
  let unsupported : CoapOutcome :=
    ⟨.proxyingNotSupported, some "This is a constrained server (Contiki)"⟩
  if number = coapOptionContentFormat then
    let value ← coapParseIntOption current length
    pure ({ message with contentFormat := value.toUInt16 }, none)
  else if number = coapOptionMaxAge then
    let value ← coapParseIntOption current length
    pure ({ message with maxAge := value }, none)
  else if number = coapOptionEtag then
    let etag ← Accesses.loadAll current (min coapEtagLen length)
    pure ({ message with etagLen := UInt8.ofNat (min coapEtagLen length), etag := etag }, none)
  else if number = coapOptionAccept then
    let value ← coapParseIntOption current length
    pure ({ message with accept := value.toUInt16 }, none)
  else if number = coapOptionIfMatch then
    let ifMatch ← Accesses.loadAll current (min coapEtagLen length)
    pure ({ message with
      ifMatchLen := UInt8.ofNat (min coapEtagLen length), ifMatch := ifMatch }, none)
  else if number = coapOptionIfNoneMatch then
    pure ({ message with ifNoneMatch := 1 }, none)
  else if number = coapOptionProxyUri then
    let changed := if conf.proxyOptionProcessing then
      { message with proxyUri := ⟨some current, length⟩ } else message
    pure (changed, some unsupported)
  else if number = coapOptionProxyScheme then
    let changed := if conf.proxyOptionProcessing then
      { message with proxyScheme := ⟨some current, length⟩ } else message
    pure (changed, some unsupported)
  else if number = coapOptionUriHost then
    pure ({ message with uriHost := ⟨some current, length⟩ }, none)
  else if number = coapOptionUriPort then
    let value ← coapParseIntOption current length
    pure ({ message with uriPort := value.toUInt16 }, none)
  else if number = coapOptionUriPath then
    let slice ← coapMergeMultiOption message.uriPath current length charSlash
    pure ({ message with uriPath := slice }, none)
  else if number = coapOptionUriQuery then
    let slice ← coapMergeMultiOption message.uriQuery current length charAmpersand
    pure ({ message with uriQuery := slice }, none)
  else if number = coapOptionLocationPath then
    let slice ← coapMergeMultiOption message.locationPath current length charSlash
    pure ({ message with locationPath := slice }, none)
  else if number = coapOptionLocationQuery then
    let slice ← coapMergeMultiOption message.locationQuery current length charAmpersand
    pure ({ message with locationQuery := slice }, none)
  else if number = coapOptionObserve then
    let value ← coapParseIntOption current length
    pure ({ message with observe := value.toInt32 }, none)
  else if number = coapOptionBlock2 then
    let value ← coapParseIntOption current length
    pure ({ message with block2 := coapBlock value }, none)
  else if number = coapOptionBlock1 then
    let value ← coapParseIntOption current length
    pure ({ message with block1 := coapBlock value }, none)
  else if number = coapOptionSize2 then
    let value ← coapParseIntOption current length
    pure ({ message with size2 := value }, none)
  else if number = coapOptionSize1 then
    let value ← coapParseIntOption current length
    pure ({ message with size1 := value }, none)
  else if number % 2 = 1 then
    pure (message, some ⟨.badOption, some "Unsupported critical option"⟩)
  else pure (message, none)

structure ParsePoint where
  currentOption : Nat
  optionNumber : Nat
  message : CoapMessage
  outcome : Option CoapOutcome
deriving DecidableEq, Repr

def coapPayload (conf : CoapConf) (dataLen : UInt16) (point : ParsePoint) :
    Accesses UInt8 ParsePoint := do
  let payload := point.currentOption + 1
  let rest := dataLen - UInt16.ofNat payload
  let payloadLen := if rest > conf.maxChunkSize then conf.maxChunkSize else rest
  Accesses.store (payload + payloadLen.toNat) 0
  pure { point with
    currentOption := payload
    message := { point.message with payload := some payload, payloadLen := payloadLen }
    outcome := some ⟨.noError, none⟩ }

def isPayloadMarker (byte : UInt8) : Bool := byte &&& 0xf0 = 0xf0

def coapParseOption (conf : CoapConf) (dataLen : UInt16) (point : ParsePoint) :
    Accesses UInt8 ParsePoint := do
  let first ← Accesses.load point.currentOption
  if isPayloadMarker first then coapPayload conf dataLen point
  else
    let (delta, current) ← extended (first >>> 4).toNat (point.currentOption + 1)
    let (length, current) ← extended (first &&& 0x0f).toNat current
    if current + length > dataLen.toNat then
      pure { point with outcome := some ⟨.badRequest, none⟩ }
    else
      let number := point.optionNumber + delta
      if number > coapOptionSize1 then pure { point with outcome := some ⟨.badRequest, none⟩ }
      else
        let (message, outcome) ←
          coapOption conf (coapSetOption point.message number) number current length
        pure ⟨current + length, number, message, outcome⟩

def headerFields (first code high low : UInt8) : CoapMessage :=
  { CoapMessage.zero with
    version := (0xc0 &&& first) >>> 6
    type := (0x30 &&& first) >>> 4
    tokenLen := 0x0f &&& first
    code := code
    mid := (high.toUInt16 <<< 8) ||| low.toUInt16 }

def coapParseToken (message : CoapMessage) : Accesses UInt8 ParsePoint :=
  if message.version ≠ 1 then
    pure ⟨0, 0, message, some ⟨.badRequest, some "CoAP version must be 1"⟩⟩
  else if message.tokenLen.toNat > coapTokenLen then
    pure ⟨0, 0, message, some ⟨.badRequest, some "Token Length must not be more than 8"⟩⟩
  else do
    let token ← Accesses.loadAll coapHeaderLen message.tokenLen.toNat
    pure ⟨coapHeaderLen + message.tokenLen.toNat, 0, { message with token := token }, none⟩

def coapParseHeader : Accesses UInt8 ParsePoint := do
  let first ← Accesses.load 0
  let code ← Accesses.load 1
  let high ← Accesses.load 2
  let low ← Accesses.load 3
  coapParseToken (headerFields first code high low)

structure ParseState where
  point : ParsePoint
  memory : Memory UInt8
  touched : List Nat

def ParseState.go (state : ParseState) (program : Accesses UInt8 ParsePoint) : ParseState :=
  ⟨program.value state.memory, program.after state.memory,
    state.touched ++ program.touched state.memory⟩

def ParseState.step (conf : CoapConf) (dataLen : UInt16) (state : ParseState) :
    Option ParseState :=
  if state.point.outcome = none ∧ state.point.currentOption < dataLen.toNat then
    some (state.go (coapParseOption conf dataLen state.point))
  else none

def ParseState.start (data : Memory UInt8) : ParseState :=
  ParseState.go ⟨⟨0, 0, .zero, none⟩, data, []⟩ coapParseHeader

def coapParseMessage (conf : CoapConf) (data : Memory UInt8) (dataLen : UInt16) :
    Option ParseState :=
  Loop.final (ParseState.step conf dataLen) (dataLen.toNat + 1) (ParseState.start data)

def ParseState.status (state : ParseState) : CoapStatus :=
  (state.point.outcome.map CoapOutcome.status).getD .noError

end MultiPhyTsch.Coap
