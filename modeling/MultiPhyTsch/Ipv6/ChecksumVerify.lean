import MultiPhyTsch.Ipv6.Checksum

/-! The checksums are the sums of RFC 1071, and a receiver that delimits the packet as its sender
did finds the checksum right whatever is in it. -/

namespace MultiPhyTsch.Ipv6

open MultiPhyTsch.Rpl (UipIpaddr)
open OnesComplement

theorem shifted_toNat (high : UInt8) : (high.toUInt16 <<< 8).toNat = high.toNat * 256 := by
  have bound := UInt8.toNat_lt high
  have eight : (8 : UInt16).toNat % 16 = 8 := rfl
  rw [UInt16.toNat_shiftLeft, UInt8.toNat_toUInt16, eight, Nat.shiftLeft_eq]
  omega

theorem joined_toNat (high low : UInt8) :
    ((high.toUInt16 <<< 8) + low.toUInt16).toNat = word high low := by
  have left := UInt8.toNat_lt high
  have right := UInt8.toNat_lt low
  rw [UInt16.toNat_add, shifted_toNat, UInt8.toNat_toUInt16, word]
  omega

theorem chksum_toNat (sum : UInt16) (data : List UInt8) :
    (chksum sum data).toNat = fold (sum.toNat + wordSum data) := by
  induction sum, data using chksum.induct with
  | case1 sum high low rest ih =>
    rw [chksum, ih, addWord_toNat, fold_fold_add, joined_toNat, wordSum, Nat.add_assoc]
  | case2 sum high =>
    have none : (0 : UInt8).toNat = 0 := rfl
    rw [chksum, addWord_toNat, shifted_toNat, wordSum, word, none, Nat.add_zero]
  | case3 sum =>
    have bound := UInt16.toNat_lt sum
    rw [chksum, wordSum, Nat.add_zero, fold_of_le (by omega)]

theorem chksum_append {first : List UInt8} (even : first.length % 2 = 0) (sum : UInt16)
    (second : List UInt8) : chksum sum (first ++ second) = chksum (chksum sum first) second := by
  apply UInt16.toNat_inj.mp
  rw [chksum_toNat, chksum_toNat, chksum_toNat, fold_fold_add, wordSum_append even, Nat.add_assoc]

namespace UipPacket

variable (packet : UipPacket) (proto : UInt8)

def total : Nat :=
  (packet.pseudoStart proto).toNat + wordSum packet.addresses + wordSum packet.upperLayer

theorem upperLayerChksum_toNat :
    (packet.upperLayerChksum proto).toNat =
      if packet.total proto = 0 then 65535 else fold (packet.total proto) := by
  have sum : (chksum (chksum (packet.pseudoStart proto) packet.addresses) packet.upperLayer).toNat =
      fold (packet.total proto) := by
    rw [chksum_toNat, chksum_toNat, fold_fold_add]
    rfl
  have zero := fold_eq_zero_iff (packet.total proto)
  unfold upperLayerChksum
  dsimp only
  split
  next none =>
    rw [none] at sum
    rw [if_pos (zero.mp sum.symm)]
    rfl
  next some =>
    rw [if_neg, sum]
    intro nothing
    rw [nothing] at sum
    exact some (UInt16.toNat_inj.mp sum)

theorem upperLayerChksum_max_iff :
    packet.upperLayerChksum proto = 0xffff ↔ 65535 ∣ packet.total proto := by
  have max : (0xffff : UInt16).toNat = 65535 := rfl
  rw [← UInt16.toNat_inj, upperLayerChksum_toNat, max]
  split
  next zero => simp [zero]
  next positive => rw [fold_eq_max_iff]; simp [positive]

def upperEnd : Nat := packet.extBuf + packet.upperLayerLen.toNat

end UipPacket

theorem netBytes_word (value : UInt16) :
    ((value >>> 8).toUInt8.toNat * 256 + value.toUInt8.toNat) = value.toNat ∧
      (value >>> 8).toUInt8.toNat = value.toNat / 256 := by
  have bound := UInt16.toNat_lt value
  have eight : (8 : UInt16).toNat % 16 = 8 := rfl
  rw [UInt16.toNat_toUInt8, UInt16.toNat_toUInt8, UInt16.toNat_shiftRight, eight,
    Nat.shiftRight_eq_div_pow]
  omega

section Field

variable {buf : Memory UInt8} {start offset len : Nat} (value : UInt16)

theorem read_front (items : List UInt8) :
    (buf.write (start + offset) items).read start offset = buf.read start offset :=
  Memory.read_write_before buf items (Nat.le_refl _)

theorem wordSum_split (even : offset % 2 = 0) (mem : Memory UInt8) (rest : Nat) :
    wordSum (mem.read start (offset + rest)) =
      wordSum (mem.read start offset) + wordSum (mem.read (start + offset) rest) := by
  rw [Memory.read_add, wordSum_append]
  rw [Memory.read_length]
  exact even

theorem wordSum_field (even : offset % 2 = 0) (inside : offset + 2 ≤ len) :
    wordSum ((buf.write (start + offset) (netBytes value)).read start len) =
      wordSum ((buf.write (start + offset) [0, 0]).read start len) + value.toNat := by
  obtain ⟨rest, rfl⟩ := Nat.exists_eq_add_of_le inside
  have behind : ∀ items : List UInt8, items.length = 2 →
      (buf.write (start + offset) items).read (start + offset + 2) rest =
        buf.read (start + offset + 2) rest := by
    intro items two
    exact Memory.read_write_after buf rest (by omega)
  have own : ∀ high low : UInt8,
      (buf.write (start + offset) [high, low]).read (start + offset) (2 + rest) =
        high :: low :: buf.read (start + offset + 2) rest := by
    intro high low
    rw [Memory.read_add, behind _ rfl]
    exact congrArg (· ++ _) (Memory.read_write_self buf (start + offset) [high, low])
  rw [Nat.add_assoc, wordSum_split even, wordSum_split even, read_front, read_front, netBytes,
    own, own, wordSum, wordSum]
  have bytes := (netBytes_word value).1
  have none : (0 : UInt8).toNat = 0 := rfl
  unfold word
  omega

theorem wordSum_half (even : offset % 2 = 0) :
    wordSum ((buf.write (start + offset) (netBytes value)).read start (offset + 1)) =
      wordSum ((buf.write (start + offset) [0, 0]).read start (offset + 1)) +
        value.toNat / 256 * 256 := by
  have own : ∀ high low : UInt8,
      (buf.write (start + offset) [high, low]).read (start + offset) 1 = [high] := by
    intro high low
    have both := Memory.read_write_self buf (start + offset) [high, low]
    have taken := Memory.read_take (buf.write (start + offset) [high, low]) (start + offset)
      (show 1 ≤ [high, low].length by simp)
    rw [both] at taken
    exact taken.symm
  rw [wordSum_split even, wordSum_split even, read_front, read_front, netBytes, own, own, wordSum,
    wordSum]
  have bytes := (netBytes_word value).2
  have none : (0 : UInt8).toNat = 0 := rfl
  unfold word
  rw [bytes]
  omega

end Field

theorem total_congr {packet other : UipPacket} (proto : UInt8)
    (sameExt : packet.uipExtLen = other.uipExtLen)
    (same : ∀ address, lenField ≤ address → packet.buf address = other.buf address) :
    packet.total proto = other.total proto := by
  have lens : packet.upperLayerLen = other.upperLayerLen := by
    unfold UipPacket.upperLayerLen
    rw [sameExt, same lenField (Nat.le_refl _), same (lenField + 1) (Nat.le_succ _)]
  have starts : packet.extBuf = other.extBuf := by
    unfold UipPacket.extBuf
    rw [sameExt]
  have behind : lenField ≤ other.extBuf := by
    unfold lenField UipPacket.extBuf uipIphLen
    omega
  have addresses : packet.addresses = other.addresses :=
    Memory.read_congr fun address after _ => same address (Nat.le_trans (by decide) after)
  have upper : packet.upperLayer = other.upperLayer := by
    unfold UipPacket.upperLayer
    rw [lens, starts]
    exact Memory.read_congr fun address after _ => same address (Nat.le_trans behind after)
  unfold UipPacket.total UipPacket.pseudoStart
  rw [lens, addresses, upper]

def UipPacket.stamped (packet : UipPacket) (field : Nat) (bytes : List UInt8) : UipPacket :=
  { packet with buf := packet.buf.write field bytes }

section Stamped

variable {packet : UipPacket} {field : Nat}

theorem stamped_upperLayerLen (behind : uipIphLen ≤ field) (bytes : List UInt8) :
    (packet.stamped field bytes).upperLayerLen = packet.upperLayerLen := by
  have apart : ∀ address, address < uipIphLen → packet.buf.write field bytes address =
      packet.buf address :=
    fun address inside => Memory.write_before packet.buf bytes (Nat.lt_of_lt_of_le inside behind)
  unfold UipPacket.upperLayerLen UipPacket.stamped
  dsimp only
  rw [apart lenField (by decide), apart (lenField + 1) (by decide)]

theorem stamped_total (behind : uipIphLen ≤ field) (proto : UInt8) (bytes : List UInt8) :
    (packet.stamped field bytes).total proto =
      (packet.pseudoStart proto).toNat + wordSum packet.addresses +
        wordSum ((packet.buf.write field bytes).read packet.extBuf packet.upperLayerLen.toNat) := by
  have addresses : (packet.stamped field bytes).addresses = packet.addresses :=
    Memory.read_write_before packet.buf bytes behind
  unfold UipPacket.total UipPacket.pseudoStart UipPacket.upperLayer
  rw [addresses, stamped_upperLayerLen behind]
  rfl

theorem stamped_adds (whole : packet.uipExtLen.toNat % 8 = 0) (even : field % 2 = 0)
    (behind : uipIphLen ≤ field) (proto : UInt8) (value : UInt16) :
    (packet.stamped field (netBytes value)).total proto =
      (packet.stamped field [0, 0]).total proto +
        if packet.extBuf ≤ field ∧ field + 2 ≤ packet.upperEnd then value.toNat
        else if packet.extBuf ≤ field ∧ field + 1 = packet.upperEnd then value.toNat / 256 * 256
        else 0 := by
  have aligned : packet.extBuf % 2 = 0 := by
    unfold UipPacket.extBuf uipIphLen
    omega
  rw [stamped_total behind, stamped_total behind]
  unfold UipPacket.upperEnd
  generalize packet.extBuf = start at aligned ⊢
  generalize packet.upperLayerLen.toNat = len
  by_cases after : start ≤ field
  · obtain ⟨offset, rfl⟩ := Nat.exists_eq_add_of_le after
    have evenOffset : offset % 2 = 0 := by omega
    by_cases inside : offset + 2 ≤ len
    · rw [if_pos ⟨after, by omega⟩, wordSum_field value evenOffset inside]
      omega
    · rw [if_neg (fun both => inside (by omega))]
      by_cases half : offset + 1 = len
      · rw [if_pos ⟨after, by omega⟩, ← half, wordSum_half value evenOffset]
        omega
      · have apart : ∀ bytes : List UInt8,
            (packet.buf.write (start + offset) bytes).read start len = packet.buf.read start len :=
          fun bytes => Memory.read_write_before packet.buf bytes (by omega)
        rw [if_neg (fun both => half (by omega)), apart, apart, Nat.add_zero]
  · have apart : ∀ bytes : List UInt8, bytes.length = 2 →
        (packet.buf.write field bytes).read start len = packet.buf.read start len :=
      fun bytes two => Memory.read_write_after packet.buf len (by omega)
    rw [if_neg (fun both => after both.1), if_neg (fun both => after both.1), apart _ rfl,
      apart _ rfl, Nat.add_zero]

end Stamped

namespace Outgoing

variable (out : Outgoing) (received : ExtLen)

def total : Nat := out.unfinished.total out.proto

def receivedTotal : Nat := (out.unfinished.seen received).total out.proto

def fieldValue : Nat :=
  match out with
  | udp .. => if complement out.total = 0 then 65535 else complement out.total
  | _ => complement out.total

def Whole : Prop :=
  (out.unfinished.seen received).extBuf ≤ out.field ∧
    out.field + 2 ≤ (out.unfinished.seen received).upperEnd

def Halved : Prop :=
  (out.unfinished.seen received).extBuf ≤ out.field ∧
    out.field + 1 = (out.unfinished.seen received).upperEnd

instance : Decidable (out.Whole received) := inferInstanceAs (Decidable (_ ∧ _))

instance : Decidable (out.Halved received) := inferInstanceAs (Decidable (_ ∧ _))

/-- The receiver sums the checksum, and the rest comes to what the sender has summed. Where it does
not sum all of the checksum, the rest makes up for that. -/
def Balanced : Prop :=
  if out.Whole received then out.receivedTotal received ≡ out.total [MOD 65535]
  else if out.Halved received then
    65535 ∣ out.receivedTotal received + out.fieldValue / 256 * 256
  else 65535 ∣ out.receivedTotal received

variable {out received}

theorem stored_toNat : out.stored.toNat = out.fieldValue := by
  have inverted : (~~~ out.unfinished.upperLayerChksum out.proto).toNat = complement out.total := by
    have size : UInt16.size - 1 = 65535 := rfl
    rw [UInt16.toNat_not, size, UipPacket.upperLayerChksum_toNat]
    unfold complement total
    split
    next => rfl
    next => rfl
  have zero : ~~~ out.unfinished.upperLayerChksum out.proto = 0 ↔ complement out.total = 0 := by
    rw [← UInt16.toNat_inj, inverted]
    exact Iff.rfl
  unfold stored fieldValue
  generalize ~~~ out.unfinished.upperLayerChksum out.proto = sum at inverted zero ⊢
  generalize complement out.total = value at inverted zero ⊢
  cases out with
  | udp packet slen conn src =>
    dsimp only
    by_cases none : sum = 0
    · rw [if_pos none, if_pos (zero.mp none)]
      rfl
    · rw [if_neg none, if_neg (fun gone => none (zero.mpr gone)), inverted]
  | tcp packet curHopLimit => exact inverted
  | icmp6 packet => exact inverted

theorem field_balances : 65535 ∣ out.total + out.fieldValue := by
  have plain := complement_balances out.total
  have other := complement_balances_nonzero out.total
  unfold fieldValue
  generalize out.total = total at plain other ⊢
  cases out with
  | udp packet slen conn src => exact other
  | tcp packet curHopLimit => exact plain
  | icmp6 packet => exact plain

theorem field_even : out.field % 2 = 0 ∧ uipIphLen ≤ out.field := by
  cases out with
  | udp packet slen conn src =>
    unfold field
    dsimp only
    decide
  | tcp packet curHopLimit =>
    unfold field
    dsimp only
    decide
  | icmp6 packet =>
    have whole := packet.whole
    unfold field UipPacket.extBuf uipIphLen
    dsimp only
    omega

def base (out : Outgoing) (received : ExtLen) : UipPacket :=
  UipPacket.seen { out.packet.toUipPacket with buf := out.headers } received

theorem completed_buf {address : Nat} (after : lenField ≤ address) :
    out.completed.buf address =
      (out.headers.write out.field (netBytes out.stored)) address := by
  have past : out.unfinished.buf.write out.field (netBytes out.stored) =
      out.headers.write out.field (netBytes out.stored) :=
    Memory.write_write out.headers out.field (Nat.le_refl 2)
  unfold completed
  rw [past]
  generalize out.headers.write out.field (netBytes out.stored) = buf
  cases out with
  | udp packet slen conn src => exact Memory.write_after buf after
  | tcp packet curHopLimit => exact Memory.write_after buf after
  | icmp6 packet => rfl

theorem completed_total :
    (out.completed.seen received).total out.proto = out.receivedTotal received +
      if out.Whole received then out.fieldValue
      else if out.Halved received then out.fieldValue / 256 * 256 else 0 := by
  obtain ⟨even, behind⟩ := @field_even out
  have written : ∀ address, lenField ≤ address → (out.completed.seen received).buf address =
      ((out.base received).stamped out.field (netBytes out.stored)).buf address :=
    fun address after => completed_buf after
  have sameExt : (out.completed.seen received).uipExtLen =
      ((out.base received).stamped out.field (netBytes out.stored)).uipExtLen := rfl
  have seen : out.unfinished.seen received = (out.base received).stamped out.field [0, 0] := rfl
  have starts : (out.unfinished.seen received).extBuf = (out.base received).extBuf := rfl
  have ends : (out.unfinished.seen received).upperEnd = (out.base received).upperEnd := by
    unfold UipPacket.upperEnd
    rw [starts, seen, stamped_upperLayerLen behind]
  have zeros : out.receivedTotal received =
      ((out.base received).stamped out.field [0, 0]).total out.proto := by
    rw [← seen]
    rfl
  have extLen : (out.base received).uipExtLen = received.bytes := rfl
  have units : (out.base received).uipExtLen.toNat % 8 = 0 := by
    rw [extLen]
    exact received.whole
  have adds := stamped_adds units even behind out.proto out.stored
  rw [total_congr out.proto sameExt written, adds, stored_toNat, zeros]
  have whole : out.Whole received ↔ (out.base received).extBuf ≤ out.field ∧
      out.field + 2 ≤ (out.base received).upperEnd := by
    unfold Whole
    rw [starts, ends]
  have halved : out.Halved received ↔ (out.base received).extBuf ≤ out.field ∧
      out.field + 1 = (out.base received).upperEnd := by
    unfold Halved
    rw [starts, ends]
  simp only [whole, halved]

theorem verifies_iff : out.Verifies received ↔ out.Balanced received := by
  have balances := @field_balances out
  unfold Verifies Balanced
  rw [UipPacket.upperLayerChksum_max_iff, completed_total]
  split
  next whole =>
    rw [Nat.ModEq]
    omega
  next => split <;> simp

theorem balanced_of_same (same : received.bytes = out.packet.uipExtLen)
    (whole : out.Whole received) : out.Balanced received := by
  have seen : out.unfinished.seen received = out.unfinished := by
    unfold UipPacket.seen
    rw [same]
    rfl
  unfold Balanced
  rw [if_pos whole]
  unfold receivedTotal total
  rw [seen]

end Outgoing

theorem upperLayerLen_of_field {packet : UipPacket} {uipLen : UInt16}
    (written : packet.buf.read lenField 2 = ipLenBytes uipLen) (extLen : packet.uipExtLen = 0) :
    packet.upperLayerLen = uipLen - UInt16.ofNat uipIphLen := by
  have bytes := Memory.read_eq_cons_iff.mp written
  have last := Memory.read_eq_cons_iff.mp bytes.2
  have none : (0 : UInt8).toUInt16 = 0 := rfl
  unfold UipPacket.upperLayerLen
  rw [bytes.1, last.1, extLen, none, UInt16.sub_zero]
  apply UInt16.toNat_inj.mp
  rw [joined_toNat, word, (netBytes_word _).1]

theorem ipLen_toNat {uipLen : UInt16} (header : uipIphLen ≤ uipLen.toNat) :
    (uipLen - UInt16.ofNat uipIphLen).toNat = uipLen.toNat - uipIphLen := by
  have bound := UInt16.toNat_lt uipLen
  have forty : (UInt16.ofNat uipIphLen).toNat = 40 := rfl
  rw [UInt16.toNat_sub, forty]
  unfold uipIphLen at header ⊢
  omega

namespace Outgoing

theorem balanced_of_room {out : Outgoing} (extLen : out.packet.uipExtLen = 0) {uipLen : UInt16}
    (written : out.headers.read lenField 2 = ipLenBytes uipLen)
    (room : out.field + 2 ≤ uipLen.toNat) : out.Balanced ⟨0, rfl⟩ := by
  have behind := (@field_even out).2
  have same : (⟨0, rfl⟩ : ExtLen).bytes = out.packet.uipExtLen := extLen.symm
  have kept : (out.unfinished.seen ⟨0, rfl⟩).buf.read lenField 2 = ipLenBytes uipLen := by
    have apart : lenField + 2 ≤ out.field := Nat.le_trans (by decide) behind
    exact (Memory.read_write_before out.headers [0, 0] apart).trans written
  have start : (out.unfinished.seen ⟨0, rfl⟩).extBuf = uipIphLen := rfl
  have len := upperLayerLen_of_field kept rfl
  apply balanced_of_same same
  unfold Whole UipPacket.upperEnd
  rw [start, len, ipLen_toNat (by omega)]
  exact ⟨behind, by omega⟩

theorem udp_balanced {packet : ExtPacket} (extLen : packet.uipExtLen = 0) {slen : UInt16}
    (room : slen.toNat + 48 < 65536) (conn : UipUdpConn) (src : UipIpaddr) :
    (udp packet slen conn src).Balanced ⟨0, rfl⟩ := by
  have written : (udp packet slen conn src).headers.read lenField 2 =
      ipLenBytes (slen + uipIpudphLen) := by
    unfold headers writeIpaddr
    dsimp only
    rw [Memory.read_write_before _ _ (by decide), Memory.read_write_before _ _ (by decide),
      Memory.read_write_before _ _ (by decide), Memory.read_write_before _ _ (by decide),
      Memory.read_write_before _ _ (by decide), Memory.read_write_before _ _ (by decide),
      Memory.read_write_before _ _ (by decide), Memory.read_write_after _ _ (by decide)]
    exact Memory.read_write_self _ _ (ipLenBytes _)
  have len : (slen + uipIpudphLen).toNat = slen.toNat + 48 := by
    have header : uipIpudphLen.toNat = 48 := rfl
    rw [UInt16.toNat_add, header]
    omega
  have field : (udp packet slen conn src).field = 46 := rfl
  exact balanced_of_room extLen written (by omega)

theorem tcp_balanced {packet : ExtPacket} (extLen : packet.uipExtLen = 0)
    (room : 60 ≤ packet.uipLen.toNat) (curHopLimit : UInt8) :
    (tcp packet curHopLimit).Balanced ⟨0, rfl⟩ := by
  have written : (tcp packet curHopLimit).headers.read lenField 2 = ipLenBytes packet.uipLen := by
    unfold headers
    dsimp only
    rw [Memory.read_write_before _ _ (by decide)]
    exact Memory.read_write_self _ _ (ipLenBytes _)
  have field : (tcp packet curHopLimit).field = 56 := rfl
  exact balanced_of_room extLen written (by omega)

end Outgoing

/-- What is sent without extension headers passes the check of its receiver. -/
theorem transport_verifies {packet : ExtPacket} (extLen : packet.uipExtLen = 0) :
    (∀ slen conn src, slen.toNat + 48 < 65536 →
      (Outgoing.udp packet slen conn src).Verifies ⟨0, rfl⟩) ∧
    (∀ curHopLimit, 60 ≤ packet.uipLen.toNat →
      (Outgoing.tcp packet curHopLimit).Verifies ⟨0, rfl⟩) ∧
    (packet.buf.read lenField 2 = ipLenBytes packet.uipLen → 44 ≤ packet.uipLen.toNat →
      (Outgoing.icmp6 packet).Verifies ⟨0, rfl⟩) := by
  refine ⟨fun slen conn src room => ?_, fun curHopLimit room => ?_, fun written room => ?_⟩
  · exact Outgoing.verifies_iff.mpr (Outgoing.udp_balanced extLen room conn src)
  · exact Outgoing.verifies_iff.mpr (Outgoing.tcp_balanced extLen room curHopLimit)
  · have field : (Outgoing.icmp6 packet).field = 42 := by
      simp [Outgoing.field, UipPacket.extBuf, extLen, uipIphLen]
    have balanced := @Outgoing.balanced_of_room (.icmp6 packet) extLen _ written (by omega)
    exact Outgoing.verifies_iff.mpr balanced

theorem transport_verifies_sixty :
    let packet : ExtPacket := ⟨⟨Memory.write (fun _ => 0) 0 ([0x60, 0, 0, 0, 0, 20, uipProtoUdp, 64] ++
      List.replicate 32 0x85 ++ (List.range 20).map UInt8.ofNat), 60, 0⟩, rfl⟩
    let conn : UipUdpConn := ⟨Vector.replicate 16 0x86, 5683, 61616, 64⟩
    (Outgoing.udp packet 12 conn (Vector.replicate 16 0x85)).Verifies ⟨0, rfl⟩ ∧
      (Outgoing.tcp packet 64).Verifies ⟨0, rfl⟩ ∧ (Outgoing.icmp6 packet).Verifies ⟨0, rfl⟩ :=
  ⟨(transport_verifies rfl).1 12 _ _ (by decide), (transport_verifies rfl).2.1 64 (by decide),
    (transport_verifies rfl).2.2 (by decide) (by decide)⟩

/-- What is said of the checksums: of the sum of every string, of every two parts of one, and of a
packet that goes out, at a receiver that has found `received` bytes of extension headers. -/
structure ChecksumContract (out : Outgoing) (received : ExtLen) : Prop where
  rfc1071 : ∀ data, (chksum 0 data).toNat = fold (wordSum data) ∧
    (chksum 0 data).toNat % 65535 = wordSum data % 65535
  parts : ∀ first second : List UInt8, first.length % 2 = 0 →
    chksum (chksum 0 first) second = chksum 0 (first ++ second)
  verified : out.Verifies received

theorem checksum_contract_iff (out : Outgoing) (received : ExtLen) :
    ChecksumContract out received ↔ out.Balanced received := by
  rw [← Outgoing.verifies_iff]
  constructor
  · exact fun contract => contract.verified
  · intro verified
    refine ⟨fun data => ?_, fun first second even => (chksum_append even 0 second).symm, verified⟩
    have sum : (chksum 0 data).toNat = fold (wordSum data) := by
      have start : (0 : UInt16).toNat = 0 := rfl
      rw [chksum_toNat, start, Nat.zero_add]
    rw [sum]
    exact ⟨rfl, fold_mod _⟩

def shortEcho : UipPacket :=
  ⟨Memory.write (fun _ => 0) 0 ([0x60, 0, 0, 0, 0, 2, uipProtoIcmp6, 64] ++
    ([0xfd] ++ List.replicate 13 0 ++ [0x85, 0xc0]) ++ ([0xfd] ++ List.replicate 14 0 ++ [1]) ++
    [128, 0]), 42, 0⟩

def shortEchoReply : ExtPacket :=
  ⟨(echoRequestInput 64 id shortEcho).getD shortEcho, by decide⟩

theorem short_echo_unverified :
    shortEcho.upperLayerChksum uipProtoIcmp6 = 0xffff ∧
      echoRequestInput 64 id shortEcho = some shortEchoReply.toUipPacket ∧
      ¬ ChecksumContract (.icmp6 shortEchoReply) ⟨0, rfl⟩ := by
  refine ⟨by decide +kernel, rfl, fun contract => ?_⟩
  have unverified : (Outgoing.completed (.icmp6 shortEchoReply)).upperLayerChksum
      uipProtoIcmp6 ≠ 0xffff := by decide +kernel
  exact unverified contract.verified

end MultiPhyTsch.Ipv6
