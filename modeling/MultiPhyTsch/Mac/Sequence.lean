import MultiPhyTsch.Lib.Recency
import MultiPhyTsch.Lib.Run
import MultiPhyTsch.Tsch.Types

/-! The sequence numbers of received frames (`mac-sequence.c`) and the duplicate filter of
`packet_input` in `tsch.c`. The width of `clock_time_t` is that of the platform; `ticks` is the time
that the clock shows in so many bits. -/

namespace MultiPhyTsch.Mac

variable {w : Nat}

structure Seqno (w : Nat) where
  sender : LinkAddr
  timestamp : BitVec w
  seqno : UInt8
deriving DecidableEq, Repr

structure SeqnoConf where
  maxSeqnos : Nat
  maxAge : Nat
  maxSeqnos_pos : 0 < maxSeqnos

structure Packetbuf where
  sender : LinkAddr
  macSeqno : UInt16
deriving DecidableEq, Repr

structure Receiver (w : Nat) where
  ticks : Nat
  receivedSeqnos : Nat → Seqno w

def clockTime (node : Receiver w) : BitVec w := BitVec.ofNat w node.ticks

def findDuplicate (conf : SeqnoConf) (packetbuf : Packetbuf) (node : Receiver w) : Nat → Nat → Bool
  | 0, _ => false
  | fuel + 1, i =>
    if packetbuf.sender = (node.receivedSeqnos i).sender then
      packetbuf.macSeqno = (node.receivedSeqnos i).seqno.toUInt16 ∧
        (0 < conf.maxAge →
          (clockTime node - (node.receivedSeqnos i).timestamp).toNat ≤ conf.maxAge)
    else findDuplicate conf packetbuf node fuel (i + 1)

def macSequenceIsDuplicate (conf : SeqnoConf) (packetbuf : Packetbuf) (node : Receiver w) : Bool :=
  findDuplicate conf packetbuf node conf.maxSeqnos 0

/-- The first loop of `mac_sequence_register_seqno`: one more than the index of the sender, or the
number of entries. -/
def locate (sender : LinkAddr) (seqnos : Nat → Seqno w) : Nat → Nat → Nat
  | 0, i => i
  | fuel + 1, i => if sender = (seqnos i).sender then i + 1 else locate sender seqnos fuel (i + 1)

def shift : Nat → (Nat → Seqno w) → Nat → Seqno w
  | 0, seqnos => seqnos
  | j + 1, seqnos => shift j (Function.update seqnos (j + 1) (seqnos j))

def macSequenceRegisterSeqno (conf : SeqnoConf) (packetbuf : Packetbuf) (node : Receiver w) :
    Receiver w :=
  let i := locate packetbuf.sender node.receivedSeqnos conf.maxSeqnos 0
  { node with
    receivedSeqnos := Function.update (shift (i - 1) node.receivedSeqnos) 0
      ⟨packetbuf.sender, clockTime node, packetbuf.macSeqno.toUInt8⟩ }

def packetInput (conf : SeqnoConf) (packetbuf : Packetbuf) (node : Receiver w) : Bool × Receiver w :=
  if packetbuf.macSeqno ≠ 0xffff then
    if macSequenceIsDuplicate conf packetbuf node then (true, node)
    else (false, macSequenceRegisterSeqno conf packetbuf node)
  else (false, node)

def macSeqno (seq : Option UInt8) : UInt16 := (seq.map UInt8.toUInt16).getD 0xffff

def boot (w : Nat) : Receiver w := ⟨0, fun _ => ⟨linkaddrNull, 0, 0⟩⟩

end MultiPhyTsch.Mac
