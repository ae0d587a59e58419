import MultiPhyTsch.Tcp.Input

/-! What a connection is to take of the segments it receives, and the length of their data. -/

namespace MultiPhyTsch.Tcp

def Segment.payload (segment : Segment) : Nat :=
  segment.uipLen.toNat - (40 + max 20 segment.headerLen.toNat)

def Segment.urgent (segment : Segment) : Nat :=
  if segment.has tcpUrg then segment.urgp.toNat else 0

section Spec

variable (conf : TcpConf) (conn : UipConn) (segment : Segment)

def Unacked : Prop := conn.outstanding = true ∧ acksData conn segment = false

instance : Decidable (Unacked conn segment) := inferInstanceAs (Decidable (_ ∧ _))

def finTaken : Bool :=
  segment.has tcpFin && !segment.has tcpRst &&
    (conn.state = uipEstablished && !conn.stopped && !decide (Unacked conn segment) ||
      conn.state = uipFinWait1 || conn.state = uipFinWait2)

def synTaken : Bool :=
  conn.state = uipSynSent && conf.uipActiveOpen && segment.ctl (tcpSyn ||| tcpAck) &&
    acksData conn segment

def textSkipped : Option Nat :=
  if segment.has tcpRst then none
  else if conn.state = uipSynRcvd then if acksData conn segment then some 0 else none
  else if conn.state = uipEstablished then
    if segment.has tcpFin ∧ conn.stopped = false then
      if Unacked conn segment then none else some 0
    else if conn.stopped then none
    else some segment.urgent
  else if conn.state = uipFinWait1 ∨ conn.state = uipFinWait2 then some 0
  else none

def bytesTaken : Nat :=
  if segment.seqno = conn.rcvNxt then
    ((textSkipped conn segment).map fun skip => segment.payload - skip).getD 0
  else 0

def controlTaken : Nat :=
  if synTaken conf conn segment ∨ segment.seqno = conn.rcvNxt ∧ finTaken conn segment then 1 else 0

/-- The application is offered no more than the payload, and the next sequence number changes for
the segment that has it, or whose SYN sets it, by what is taken. -/
structure ReceiveAccounting (outcome : TcpOutcome) : Prop where
  offered : ∀ call ∈ outcome.calls, call.uipFlags &&& uipNewdata ≠ 0 →
    call.uipLen.toNat ≤ segment.payload
  sequence : outcome.conn.rcvNxt ≠ conn.rcvNxt →
    synTaken conf conn segment = true ∨ segment.seqno = conn.rcvNxt
  advance : outcome.conn.rcvNxt.value =
    ((if synTaken conf conn segment then segment.seqno else conn.rcvNxt).value +
      bytesTaken conn segment + controlTaken conf conn segment) % 2 ^ 32

def TextFits (skip : Nat) : Prop :=
  20 ≤ segment.headerLen.toNat ∧ 40 + segment.headerLen.toNat + skip ≤ segment.uipLen.toNat ∨
    40 + segment.headerLen.toNat + skip = segment.uipLen.toNat ∨
    40 + segment.headerLen.toNat + skip = segment.uipLen.toNat + 65536

def SegmentFits : Prop :=
  ∀ skip, textSkipped conn segment = some skip → outOfSequence conn segment = false →
    TextFits segment skip

end Spec

section Length

variable (segment : Segment)

theorem headerLen_toNat : segment.headerLen.toNat = segment.tcpoffset.toNat / 16 * 4 := by
  have bound := UInt8.toNat_lt segment.tcpoffset
  have four : (segment.tcpoffset >>> 4).toNat = segment.tcpoffset.toNat / 16 := by
    rw [UInt8.toNat_shiftRight, Nat.shiftRight_eq_div_pow]
    rfl
  unfold Segment.headerLen
  rw [UInt16.toNat_shiftLeft, UInt8.toNat_toUInt16, four, Nat.shiftLeft_eq]
  change segment.tcpoffset.toNat / 16 * 4 % 65536 = _
  omega

theorem dataLen_toNat : segment.dataLen.toNat =
    (segment.uipLen.toNat + 65536 - (40 + segment.headerLen.toNat)) % 65536 := by
  have header := headerLen_toNat segment
  have offset := UInt8.toNat_lt segment.tcpoffset
  have bound := UInt16.toNat_lt segment.uipLen
  have forty : uipIphLen.toNat = 40 := rfl
  unfold Segment.dataLen
  rw [UInt16.toNat_sub, UInt16.toNat_sub, forty]
  omega

theorem text_eq_iff (skip : Nat) (small : skip < 65536) :
    (segment.dataLen.toNat + 65536 - skip) % 65536 = segment.payload - skip ↔
      TextFits segment skip := by
  have header := headerLen_toNat segment
  have offset := UInt8.toNat_lt segment.tcpoffset
  have bound := UInt16.toNat_lt segment.uipLen
  rw [dataLen_toNat]
  unfold Segment.payload TextFits
  omega

theorem textLen_toNat :
    segment.textLen.toNat = (segment.dataLen.toNat + 65536 - segment.urgent) % 65536 := by
  have bound := UInt16.toNat_lt segment.dataLen
  unfold Segment.textLen Segment.urgent
  split
  next =>
    have urgent := UInt16.toNat_lt segment.urgp
    rw [UInt16.toNat_sub]
    omega
  next => omega

end Length

section Control

variable {segment : Segment} {flag flags : UInt8}

theorem has_of_ctl (control : segment.ctl flags = true) (inside : tcpCtl &&& flag = flag) :
    segment.has flag = (flags &&& flag ≠ 0 : Bool) := by
  have same : segment.flags &&& tcpCtl = flags := of_decide_eq_true control
  unfold Segment.has
  rw [← same, UInt8.and_assoc, inside]

theorem has_of_part (part : flags &&& flag = flag) (has : segment.has flag = true) :
    segment.has flags = true := by
  unfold Segment.has at has ⊢
  have some := of_decide_eq_true has
  apply decide_eq_true
  intro none
  apply some
  rw [← part, ← UInt8.and_assoc, none, UInt8.zero_and]

theorem not_acks_of_syn {conn : UipConn} (control : segment.ctl tcpSyn = true) :
    acksData conn segment = false := by
  unfold acksData
  rw [has_of_ctl control (by decide)]
  rfl

end Control

end MultiPhyTsch.Tcp
