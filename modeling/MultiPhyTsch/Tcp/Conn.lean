import Mathlib.Data.Nat.Bitwise

/-! Connections of TCP and the segments they receive (`uip.h`, `uip6.c`). -/

namespace MultiPhyTsch.Tcp

structure Seq32 where
  byte0 : UInt8
  byte1 : UInt8
  byte2 : UInt8
  byte3 : UInt8
deriving DecidableEq, Repr

def Seq32.value (seq : Seq32) : Nat :=
  ((seq.byte0.toNat * 256 + seq.byte1.toNat) * 256 + seq.byte2.toNat) * 256 + seq.byte3.toNat

def Seq32.carry1 (seq : Seq32) : Seq32 :=
  let seq := { seq with byte1 := seq.byte1 + 1 }
  if seq.byte1 = 0 then { seq with byte0 := seq.byte0 + 1 } else seq

def Seq32.carry2 (seq : Seq32) : Seq32 :=
  let seq := { seq with byte2 := seq.byte2 + 1 }
  if seq.byte2 = 0 then seq.carry1 else seq

def uipAdd32 (op32 : Seq32) (op16 : UInt16) : Seq32 :=
  let low := op16.toUInt8
  let high := (op16 >>> 8).toUInt8
  let acc : Seq32 := ⟨op32.byte0, op32.byte1, op32.byte2 + high, op32.byte3 + low⟩
  let acc := if acc.byte2 < high then acc.carry1 else acc
  if acc.byte3 < low then acc.carry2 else acc

structure UipConn where
  rcvNxt : Seq32
  sndNxt : Seq32
  len : UInt16
  mss : UInt16
  initialmss : UInt16
  sa : UInt8
  sv : UInt8
  rto : UInt8
  tcpstateflags : UInt8
  timer : UInt8
  nrtx : UInt8
deriving DecidableEq, Repr

def uipClosed : UInt8 := 0
def uipSynRcvd : UInt8 := 1
def uipSynSent : UInt8 := 2
def uipEstablished : UInt8 := 3
def uipFinWait1 : UInt8 := 4
def uipFinWait2 : UInt8 := 5
def uipClosing : UInt8 := 6
def uipTimeWait : UInt8 := 7
def uipLastAck : UInt8 := 8
def uipTsMask : UInt8 := 15
def uipStopped : UInt8 := 16

def tcpFin : UInt8 := 0x01
def tcpSyn : UInt8 := 0x02
def tcpRst : UInt8 := 0x04
def tcpPsh : UInt8 := 0x08
def tcpAck : UInt8 := 0x10
def tcpUrg : UInt8 := 0x20
def tcpCtl : UInt8 := 0x3f

def tcpOptEnd : UInt8 := 0
def tcpOptNoop : UInt8 := 1
def tcpOptMss : UInt8 := 2
def tcpOptMssLen : UInt8 := 4

def uipAckdata : UInt8 := 1
def uipNewdata : UInt8 := 2
def uipClose : UInt8 := 16
def uipAbort : UInt8 := 32
def uipConnected : UInt8 := 64

def uipIphLen : UInt16 := 40

def uipIptcphLen : UInt16 := 60

variable (conn : UipConn)

def UipConn.state : UInt8 := conn.tcpstateflags &&& uipTsMask

def UipConn.stopped : Bool := conn.tcpstateflags &&& uipStopped ≠ 0

def UipConn.outstanding : Bool := conn.len ≠ 0

def UipConn.addRcvNxt (n : UInt16) : UipConn :=
  { conn with rcvNxt := uipAdd32 conn.rcvNxt n }

/-- A segment in `uip_buf`: the length of the packet, the fields of its TCP header, and the bytes
behind that header. -/
structure Segment where
  uipLen : UInt16
  flags : UInt8
  tcpoffset : UInt8
  seqno : Seq32
  ackno : Seq32
  wnd : UInt16
  urgp : UInt16
  optdata : Nat → UInt8

namespace Segment

variable (segment : Segment)

def has (flag : UInt8) : Bool := segment.flags &&& flag ≠ 0

def ctl (flags : UInt8) : Bool := segment.flags &&& tcpCtl = flags

def headerLen : UInt16 := (segment.tcpoffset >>> 4).toUInt16 <<< 2

def dataLen : UInt16 := segment.uipLen - segment.headerLen - uipIphLen

/-- The loop over the options, from byte `c` of them on: what the MSS option says. -/
def mssOption : Nat → Nat → Option UInt16
  | 0, _ => none
  | fuel + 1, c =>
    if c < ((segment.tcpoffset >>> 4).toNat - 5) * 4 then
      if segment.optdata c = tcpOptEnd then none
      else if segment.optdata c = tcpOptNoop then mssOption fuel (c + 1)
      else if segment.optdata c = tcpOptMss ∧ segment.optdata (1 + c) = tcpOptMssLen then
        some (((segment.optdata (2 + c)).toUInt16 <<< 8) ||| (segment.optdata (3 + c)).toUInt16)
      else if segment.optdata (1 + c) = 0 then none
      else mssOption fuel (c + (segment.optdata (1 + c)).toNat)
    else none

end Segment

theorem byte_succ (byte : UInt8) :
    byte + 1 = 0 ∧ byte.toNat = 255 ∧ (byte + 1).toNat = 0 ∨
      byte + 1 ≠ 0 ∧ (byte + 1).toNat = byte.toNat + 1 := by
  have bound := UInt8.toNat_lt byte
  have sum : (byte + 1).toNat = (byte.toNat + 1) % 256 := UInt8.toNat_add byte 1
  by_cases last : byte.toNat = 255
  · have zero : (byte + 1).toNat = 0 := by omega
    exact .inl ⟨UInt8.toNat_inj.mp zero, last, zero⟩
  · refine .inr ⟨fun zero => ?_, by omega⟩
    have none : (byte + 1).toNat = 0 := congrArg UInt8.toNat zero
    omega

theorem byte_add (byte more : UInt8) :
    byte + more < more ∧ (byte + more).toNat + 256 = byte.toNat + more.toNat ∨
      ¬ byte + more < more ∧ (byte + more).toNat = byte.toNat + more.toNat := by
  have bound := UInt8.toNat_lt byte
  have moreBound := UInt8.toNat_lt more
  have sum : (byte + more).toNat = (byte.toNat + more.toNat) % 256 := UInt8.toNat_add byte more
  rw [UInt8.lt_iff_toNat_lt]
  omega

variable (seq : Seq32)

theorem Seq32.carry1_value : seq.carry1.value % 2 ^ 32 = (seq.value + 65536) % 2 ^ 32 := by
  obtain ⟨byte0, byte1, byte2, byte3⟩ := seq
  unfold Seq32.carry1 Seq32.value
  rcases byte_succ byte1 with ⟨wrapped, last, zero⟩ | ⟨plain, next⟩
  · simp only [wrapped, if_true]
    have first := byte_succ byte0
    have none : (0 : UInt8).toNat = 0 := rfl
    omega
  · simp only [plain, if_false]
    omega

theorem Seq32.carry1_byte3 : seq.carry1.byte3 = seq.byte3 := by
  unfold Seq32.carry1
  dsimp only
  split
  next => rfl
  next => rfl

theorem Seq32.carry2_value : seq.carry2.value % 2 ^ 32 = (seq.value + 256) % 2 ^ 32 := by
  obtain ⟨byte0, byte1, byte2, byte3⟩ := seq
  unfold Seq32.carry2
  rcases byte_succ byte2 with ⟨wrapped, last, zero⟩ | ⟨plain, next⟩
  · simp only [wrapped, if_true]
    rw [Seq32.carry1_value]
    unfold Seq32.value
    have none : (0 : UInt8).toNat = 0 := rfl
    dsimp only
    omega
  · simp only [plain, if_false]
    unfold Seq32.value
    dsimp only
    omega

theorem Seq32.value_lt : seq.value < 2 ^ 32 := by
  have bound0 := UInt8.toNat_lt seq.byte0
  have bound1 := UInt8.toNat_lt seq.byte1
  have bound2 := UInt8.toNat_lt seq.byte2
  have bound3 := UInt8.toNat_lt seq.byte3
  unfold Seq32.value
  omega

theorem Seq32.value_inj {one other : Seq32} (same : one.value = other.value) : one = other := by
  obtain ⟨one0, one1, one2, one3⟩ := one
  obtain ⟨other0, other1, other2, other3⟩ := other
  have bound1 := UInt8.toNat_lt one1
  have bound2 := UInt8.toNat_lt one2
  have bound3 := UInt8.toNat_lt one3
  have otherBound1 := UInt8.toNat_lt other1
  have otherBound2 := UInt8.toNat_lt other2
  have otherBound3 := UInt8.toNat_lt other3
  unfold Seq32.value at same
  dsimp only at same
  rw [Seq32.mk.injEq, ← UInt8.toNat_inj, ← UInt8.toNat_inj, ← UInt8.toNat_inj, ← UInt8.toNat_inj]
  omega

section

variable {acc upper high low sum last op16 : Nat}
  (value : acc % 2 ^ 32 = (upper + high * 256 + sum) % 2 ^ 32) (parts : high * 256 + low = op16)
include value parts

theorem low_carries (past : sum + 256 = last + low) :
    (acc + 256) % 2 ^ 32 = (upper + last + op16) % 2 ^ 32 := by
  omega

theorem low_added (within : sum = last + low) : acc % 2 ^ 32 = (upper + last + op16) % 2 ^ 32 := by
  omega

end

theorem uipAdd32_value (op32 : Seq32) (op16 : UInt16) :
    (uipAdd32 op32 op16).value = (op32.value + op16.toNat) % 2 ^ 32 := by
  obtain ⟨byte0, byte1, byte2, byte3⟩ := op32
  have parts : (op16 >>> 8).toUInt8.toNat * 256 + op16.toUInt8.toNat = op16.toNat := by
    have bound := UInt16.toNat_lt op16
    have high : (op16 >>> 8).toUInt8.toNat = op16.toNat / 256 % 256 := by
      rw [UInt16.toNat_toUInt8, UInt16.toNat_shiftRight, Nat.shiftRight_eq_div_pow]
      rfl
    have low : op16.toUInt8.toNat = op16.toNat % 256 := UInt16.toNat_toUInt8 op16
    omega
  obtain ⟨low, lowIs⟩ : ∃ low, low = op16.toUInt8 := ⟨_, rfl⟩
  obtain ⟨high, highIs⟩ : ∃ high, high = (op16 >>> 8).toUInt8 := ⟨_, rfl⟩
  rw [← lowIs, ← highIs] at parts
  have highSum : ∀ acc : Seq32, acc = ⟨byte0, byte1, byte2 + high, byte3 + low⟩ →
      (if acc.byte2 < high then acc.carry1 else acc).value % 2 ^ 32 =
        (((byte0.toNat * 256 + byte1.toNat) * 256 + byte2.toNat) * 256 + high.toNat * 256 +
          (byte3 + low).toNat) % 2 ^ 32 ∧
      (if acc.byte2 < high then acc.carry1 else acc).byte3 = byte3 + low := by
    rintro _ rfl
    rcases byte_add byte2 high with ⟨past, sum⟩ | ⟨within, sum⟩
    · simp only [past, if_true]
      refine ⟨?_, ?_⟩
      · rw [Seq32.carry1_value]
        unfold Seq32.value
        dsimp only
        omega
      · exact Seq32.carry1_byte3 _
    · simp only [within, if_false]
      refine ⟨?_, trivial⟩
      unfold Seq32.value
      dsimp only
      omega
  obtain ⟨value, last⟩ := highSum _ rfl
  have bound := Seq32.value_lt (uipAdd32 ⟨byte0, byte1, byte2, byte3⟩ op16)
  rw [← Nat.mod_eq_of_lt bound]
  unfold uipAdd32
  dsimp only at value last ⊢
  rw [← lowIs, ← highIs, last]
  generalize (if byte2 + high < high then _ else _ : Seq32) = acc at value last ⊢
  rcases byte_add byte3 low with ⟨past, sum⟩ | ⟨within, sum⟩
  · rw [if_pos past, Seq32.carry2_value]
    exact low_carries value parts sum
  · rw [if_neg within]
    exact low_added value parts sum

end MultiPhyTsch.Tcp
