import MultiPhyTsch.Lowpan.Compress
import MultiPhyTsch.Lowpan.Uncompress
import Mathlib.Tactic.IntervalCases

/-! Each field of the IP header is read back from the bytes and bits in which `compress_hdr_iphc`
sends it. -/

namespace MultiPhyTsch.Lowpan

def rotatedTrafficClass (vtc tcflow : UInt8) : UInt8 :=
  let tmp := (vtc <<< 4) ||| (tcflow >>> 4)
  ((tmp &&& 0x03) <<< 6) ||| (tmp >>> 2)

variable (vtc tcflow : UInt8)

theorem rotated_dscp :
    (rotatedTrafficClass vtc tcflow >>> 2) &&& (0x0f : UInt8) = vtc &&& 0x0f := by
  apply UInt8.toBitVec_inj.mp
  ext bit bound
  simp [rotatedTrafficClass]
  interval_cases bit <;> simp

theorem rotated_ecn : ((rotatedTrafficClass vtc tcflow >>> 2) &&& (0x30 : UInt8)) |||
      (rotatedTrafficClass vtc tcflow <<< 6) = tcflow &&& 0xf0 := by
  apply UInt8.toBitVec_inj.mp
  ext bit bound
  simp [rotatedTrafficClass]
  interval_cases bit <;> simp

theorem rotated_masked : ((rotatedTrafficClass vtc tcflow <<< 6) &&& (0xc0 : UInt8)) |||
      ((rotatedTrafficClass vtc tcflow >>> 2) &&& (0x30 : UInt8)) = tcflow &&& 0xf0 := by
  apply UInt8.toBitVec_inj.mp
  ext bit bound
  simp [rotatedTrafficClass]
  interval_cases bit <;> simp

theorem rotated_zero {vtc tcflow : UInt8} (high : vtc &&& 0x0f = 0) (low : tcflow &&& 0xf0 = 0) :
    rotatedTrafficClass vtc tcflow = 0 := by
  have shifted : vtc <<< 4 = (vtc &&& 0x0f) <<< 4 := by
    obtain ⟨bits⟩ := vtc
    revert bits
    decide
  have dropped : tcflow >>> 4 = (tcflow &&& 0xf0) >>> 4 := by
    obtain ⟨bits⟩ := tcflow
    revert bits
    decide
  rw [rotatedTrafficClass, shifted, dropped, high, low]
  decide

theorem version_dscp {vtc : UInt8} (version : vtc >>> 4 = 6) :
    (0x60 : UInt8) ||| (vtc &&& 0x0f) = vtc := by
  obtain ⟨bits⟩ := vtc
  revert bits
  decide

theorem nibbles (byte : UInt8) : (byte &&& 0xf0) ||| (byte &&& 0x0f) = byte := by
  obtain ⟨bits⟩ := byte
  revert bits
  decide

theorem low_nibble (byte : UInt8) :
    (byte &&& (0x0f : UInt8) &&& (0x0f : UInt8)) |||
      (((byte &&& (0x0f : UInt8)) >>> 2) &&& (0x30 : UInt8)) = byte &&& 0x0f := by
  obtain ⟨bits⟩ := byte
  revert bits
  decide

theorem u16IsZero_iff (addr : Memory UInt8) (index : Nat) :
    u16IsZero addr index = true ↔ addr (2 * index) = 0 ∧ addr (2 * index + 1) = 0 := by
  simp [u16IsZero]

variable {ip : Memory UInt8} {iphc0 : UInt8} {hc06 : Cursor UInt8} {tail : List UInt8}

theorem uncompressTrafficClass_compress (version : ip 0 >>> 4 = 6)
    (flow : iphc0 &&& iphcFlC = (compressTrafficClass ip).1 &&& iphcFlC)
    (trafficClass : iphc0 &&& iphcTcC = (compressTrafficClass ip).1 &&& iphcTcC)
    (ahead : hc06.rest = (compressTrafficClass ip).2 ++ tail) :
    uncompressTrafficClass iphc0 hc06 =
      (ip.read 0 4, hc06.skip (compressTrafficClass ip).2.length) := by
  have rotated : ((((ip 0 <<< 4) ||| (ip 1 >>> 4)) &&& 0x03) <<< 6) |||
      (((ip 0 <<< 4) ||| (ip 1 >>> 4)) >>> 2) = rotatedTrafficClass (ip 0) (ip 1) := rfl
  have header : ip.read 0 4 = [ip 0, ip 1, ip 2, ip 3] := by
    simp [Memory.read, List.range_succ]
  have vtc := version_dscp version
  have tcflow := nibbles (ip 1)
  simp only [compressTrafficClass, rotated] at flow trafficClass ahead ⊢
  rw [header]
  by_cases elided : ip 1 &&& 0x0f = 0 ∧ u16IsZero ip 1
  · obtain ⟨label, zero⟩ := elided
    obtain ⟨third, fourth⟩ := (u16IsZero_iff ip 1).mp zero
    simp only [Nat.mul_one, Nat.reduceAdd] at third fourth
    rw [if_pos ⟨label, zero⟩] at flow trafficClass ahead ⊢
    by_cases noClass : ip 0 &&& 0x0f = 0 ∧ ip 1 &&& 0xf0 = 0
    · rw [if_pos noClass] at flow trafficClass ahead ⊢
      dsimp only at flow trafficClass
      have flowBit : iphc0 &&& 16 = 16 := flow.trans (by decide)
      have classBit : iphc0 &&& 8 = 8 := trafficClass.trans (by decide)
      have first : ip 0 = 0x60 := by
        rw [← vtc, noClass.1]
        rfl
      have second : ip 1 = 0 := by
        rw [← tcflow, noClass.2, label]
        rfl
      simp [uncompressTrafficClass, flowBit, classBit, iphcFlC, iphcTcC, first, second, third,
        fourth, Cursor.skip]
    · rw [if_neg noClass] at flow trafficClass ahead ⊢
      dsimp only at flow trafficClass
      have flowBit : iphc0 &&& 16 = 16 := flow.trans (by decide)
      have classBit : iphc0 &&& 8 = 0 := trafficClass.trans (by decide)
      have second := rotated_masked (ip 0) (ip 1)
      rw [show ip 1 &&& 0xf0 = ip 1 by simpa [label] using tcflow] at second
      simp [uncompressTrafficClass, flowBit, classBit, iphcFlC, iphcTcC, Cursor.peek, ahead,
        rotated_dscp, vtc, second, third, fourth]
  · rw [if_neg elided] at flow trafficClass ahead ⊢
    by_cases noClass : ip 0 &&& 0x0f = 0 ∧ ip 1 &&& 0xf0 = 0
    · rw [if_pos noClass] at flow trafficClass ahead ⊢
      dsimp only at flow trafficClass
      have flowBit : iphc0 &&& 16 = 0 := flow.trans (by decide)
      have classBit : iphc0 &&& 8 = 8 := trafficClass.trans (by decide)
      have first : ip 0 = 0x60 := by
        rw [← vtc, noClass.1]
        rfl
      have low : ip 1 &&& 0x0f = ip 1 := by simpa [noClass.2] using tcflow
      have second := low_nibble (ip 1)
      simp only [low] at second
      rw [rotated_zero noClass.1 noClass.2] at ahead
      simp [uncompressTrafficClass, flowBit, classBit, iphcFlC, iphcTcC, Cursor.peek, ahead, low,
        second, first]
    · rw [if_neg noClass] at flow trafficClass ahead ⊢
      dsimp only at flow trafficClass
      have flowBit : iphc0 &&& 16 = 0 := flow.trans (by decide)
      have classBit : iphc0 &&& 8 = 0 := trafficClass.trans (by decide)
      have ecn := rotated_ecn (ip 0) (ip 1)
      simp [uncompressTrafficClass, flowBit, classBit, iphcFlC, iphcTcC, Cursor.peek, ahead,
        rotated_dscp, vtc, ecn, tcflow]

theorem uncompressNextHeader_compress
    (bit : iphc0 &&& iphcNhC = (compressNextHeader ip).1 &&& iphcNhC)
    (ahead : hc06.rest = (compressNextHeader ip).2 ++ tail) :
    uncompressNextHeader iphc0 hc06 =
      ((compressNextHeader ip).2, hc06.skip (compressNextHeader ip).2.length) := by
  simp only [compressNextHeader] at bit ahead ⊢
  by_cases compressable : isCompressableProto (ip 6) = true
  · rw [if_pos compressable] at bit ⊢
    have set : iphc0 &&& 4 = 4 := bit.trans (by decide)
    simp [uncompressNextHeader, iphcNhC, set, Cursor.skip]
  · rw [if_neg compressable] at bit ahead ⊢
    dsimp only at bit
    have clear : iphc0 &&& 4 = 0 := bit.trans (by decide)
    simp [uncompressNextHeader, iphcNhC, clear, Cursor.peek, ahead]

theorem uncompressHopLimit_compress
    (bits : iphc0 &&& 0x03 = (compressHopLimit ip).1 &&& 0x03)
    (ahead : hc06.rest = (compressHopLimit ip).2 ++ tail) :
    uncompressHopLimit iphc0 hc06 = (ip 7, hc06.skip (compressHopLimit ip).2.length) := by
  simp only [compressHopLimit] at bits ahead ⊢
  by_cases one : ip 7 = 1
  · rw [if_pos one] at bits ⊢
    have mode : iphc0 &&& 3 = 1 := bits.trans (by decide)
    simp [uncompressHopLimit, mode, ttlValues, one, Cursor.skip]
  rw [if_neg one] at bits ahead ⊢
  by_cases sixtyFour : ip 7 = 64
  · rw [if_pos sixtyFour] at bits ⊢
    have mode : iphc0 &&& 3 = 2 := bits.trans (by decide)
    simp [uncompressHopLimit, mode, ttlValues, sixtyFour, Cursor.skip]
  rw [if_neg sixtyFour] at bits ahead ⊢
  by_cases most : ip 7 = 255
  · rw [if_pos most] at bits ⊢
    have mode : iphc0 &&& 3 = 3 := bits.trans (by decide)
    simp [uncompressHopLimit, mode, ttlValues, most, Cursor.skip]
  · rw [if_neg most] at bits ahead ⊢
    dsimp only at bits
    have mode : iphc0 &&& 3 = 0 := bits.trans (by decide)
    simp [uncompressHopLimit, mode, Cursor.peek, ahead]

def iidMode (ipaddr : Memory UInt8) (lladdr : LinkAddr) : UInt8 :=
  if uipIsAddrMacAddrBased ipaddr lladdr then 3
  else if isIid16BitCompressable ipaddr then 2
  else 1

theorem iidMode_cases (ipaddr : Memory UInt8) (lladdr : LinkAddr) :
    iidMode ipaddr lladdr = 1 ∨ iidMode ipaddr lladdr = 2 ∨ iidMode ipaddr lladdr = 3 := by
  unfold iidMode
  split
  · exact Or.inr (Or.inr rfl)
  · split
    · exact Or.inr (Or.inl rfl)
    · exact Or.inl rfl

theorem compressAddr64_mode (bitpos : UInt8) (ipaddr : Memory UInt8) (lladdr : LinkAddr) :
    (compressAddr64 bitpos ipaddr lladdr).1 = iidMode ipaddr lladdr <<< bitpos := by
  unfold compressAddr64 iidMode
  split
  · rfl
  · split <;> rfl

def iidPostcount : UInt8 → Nat
  | 1 => 8
  | 2 => 2
  | _ => 0

structure Expands (prefixBytes : List UInt8) (prefcount : Nat) (upper : List UInt8) : Prop where
  short : prefcount = 2 ∨ prefcount = 8
  elided : prefixBytes.take prefcount ++ List.replicate (8 - prefcount) 0 = upper
  length : upper.length = 8

section Expansion

variable {prefixBytes upper : List UInt8} {prefcount : Nat}

section

variable (expands : Expands prefixBytes prefcount upper)
include expands

theorem Expands.zeros {count total : Nat} (fill : total = 8 - prefcount + count) :
    prefixBytes.take prefcount ++ List.replicate total 0 = upper ++ List.replicate count 0 := by
  rw [fill, List.replicate_add, ← List.append_assoc, expands.elided]

variable (lladdr : LinkAddr)

theorem Expands.uncompressAddr_64 (hc06 : Cursor UInt8) :
    uncompressAddr prefixBytes (prefcount, 8) lladdr hc06 = (upper ++ hc06.read 8, hc06.skip 8) := by
  have short := expands.short
  have whole : prefcount ≠ 15 := by omega
  have addr := expands.zeros (show 16 - (prefcount + 8) = 8 - prefcount + 0 by omega)
  simp only [uncompressAddr, if_neg whole, Nat.reduceEqDiff, if_false, addr]
  simp

theorem Expands.uncompressAddr_16 (hc06 : Cursor UInt8) :
    uncompressAddr prefixBytes (prefcount, 2) lladdr hc06 =
      (upper ++ [0, 0, 0, 0xff, 0xfe, 0] ++ hc06.read 2, hc06.skip 2) := by
  have short := expands.short
  have whole : prefcount ≠ 15 := by omega
  have below : prefcount < 11 := by omega
  have addr := expands.zeros (show 16 - (prefcount + 2) = 8 - prefcount + 6 by omega)
  have length := expands.length
  simp only [uncompressAddr, if_neg whole, Nat.reduceEqDiff, if_false, addr]
  simp [below, length, List.replicate]

theorem Expands.uncompressAddr_0 (hc06 : Cursor UInt8) :
    uncompressAddr prefixBytes (prefcount, 0) lladdr hc06 =
      (uipDs6SetAddrIid upper lladdr, hc06) := by
  have short := expands.short
  have whole : prefcount ≠ 15 := by omega
  have some : 0 < prefcount := by omega
  have addr := expands.zeros (show 16 - (prefcount + 0) = 8 - prefcount + 8 by omega)
  have upperHalf : (upper ++ List.replicate 8 (0 : UInt8)).take 8 = upper :=
    List.take_left' expands.length
  rw [← addr] at upperHalf
  simp only [uncompressAddr, if_neg whole, if_pos some, uipDs6SetAddrIid]
  rw [if_neg (by decide), List.take_of_length_le (Nat.le_of_eq expands.length)]
  exact congrArg (fun half => (half ++ _, hc06)) upperHalf

end

end Expansion

theorem uncompressAddr_compressAddr64 {ipaddr : Memory UInt8} {lladdr : LinkAddr} {bitpos : UInt8}
    {prefixBytes upper : List UInt8} {prefcount : Nat}
    (expands : Expands prefixBytes prefcount upper)
    (ahead : hc06.rest = (compressAddr64 bitpos ipaddr lladdr).2 ++ tail) :
    uncompressAddr prefixBytes (prefcount, iidPostcount (iidMode ipaddr lladdr)) lladdr hc06 =
      (upper ++ ipaddr.read 8 8, hc06.skip (compressAddr64 bitpos ipaddr lladdr).2.length) := by
  have iid : ipaddr.read 8 8 = [ipaddr 8, ipaddr 9, ipaddr 10, ipaddr 11, ipaddr 12, ipaddr 13,
      ipaddr 14, ipaddr 15] := by
    simp [Memory.read, List.range_succ]
  simp only [compressAddr64, iidMode] at ahead ⊢
  by_cases based : uipIsAddrMacAddrBased ipaddr lladdr = true
  · rw [if_pos based] at ahead ⊢
    rw [if_pos based]
    simp only [uipIsAddrMacAddrBased, Bool.and_eq_true, beq_iff_eq] at based
    obtain ⟨⟨⟨⟨⟨⟨⟨b8, b9⟩, b10⟩, b11⟩, b12⟩, b13⟩, b14⟩, b15⟩ := based
    rw [show iidPostcount 3 = 0 from rfl, expands.uncompressAddr_0, uipDs6SetAddrIid,
      List.take_of_length_le (Nat.le_of_eq expands.length), iid, b8, b9, b10, b11, b12, b13, b14, b15]
    simp [Cursor.skip]
  rw [if_neg based] at ahead ⊢
  rw [if_neg based]
  by_cases sixteen : isIid16BitCompressable ipaddr = true
  · rw [if_pos sixteen] at ahead ⊢
    rw [if_pos sixteen]
    simp only [isIid16BitCompressable, Bool.and_eq_true, beq_iff_eq, u16IsZero_iff] at sixteen
    obtain ⟨⟨⟨⟨⟨b8, b9⟩, b10⟩, b11⟩, b12⟩, b13⟩ := sixteen
    have sent := Cursor.read_ahead ahead
    rw [ipaddr.read_length] at sent
    rw [show iidPostcount 2 = 2 from rfl, expands.uncompressAddr_16, sent, iid, b10, b11, b12, b13]
    simp [Memory.read, List.range_succ, b8, b9]
  · rw [if_neg sixteen] at ahead ⊢
    rw [if_neg sixteen]
    have sent := Cursor.read_ahead ahead
    rw [ipaddr.read_length] at sent
    rw [show iidPostcount 1 = 8 from rfl, expands.uncompressAddr_64, sent]
    simp

theorem expands_llprefix : Expands llprefix 2 [0xfe, 0x80, 0, 0, 0, 0, 0, 0] :=
  ⟨Or.inl rfl, rfl, rfl⟩

theorem expands_context (context : SicslowpanAddrContext) :
    Expands context.prefixBytes.toList 8 context.prefixBytes.toList := by
  refine ⟨Or.inr rfl, ?_, by simp⟩
  rw [List.take_of_length_le (by simp)]
  simp

variable (addrContexts : List SicslowpanAddrContext)

def srcContext (ip : Memory UInt8) : Option SicslowpanAddrContext :=
  if uipIsAddrUnspecified (srcipaddr ip) then none
  else addrContextLookupByPrefix addrContexts (srcipaddr ip)

def destContext (ip : Memory UInt8) : Option SicslowpanAddrContext :=
  if uipIsAddrMcast (destipaddr ip) then none
  else addrContextLookupByPrefix addrContexts (destipaddr ip)

def contextNumber : Option SicslowpanAddrContext → UInt8
  | some context => context.number
  | none => 0

def contextNumbers (ip : Memory UInt8) : UInt8 :=
  (contextNumber (srcContext addrContexts ip) <<< 4) ||| contextNumber (destContext addrContexts ip)

def srcSentOnLink (ip : Memory UInt8) : Prop :=
  uipIsAddrLinklocal (srcipaddr ip) ∧ u16IsZero (destipaddr ip) 1 ∧ u16IsZero (destipaddr ip) 2 ∧
    u16IsZero (destipaddr ip) 3

instance (ip : Memory UInt8) : Decidable (srcSentOnLink ip) := inferInstanceAs (Decidable (_ ∧ _))

def destSentOnLink (ip : Memory UInt8) : Prop :=
  uipIsAddrLinklocal (destipaddr ip) ∧ u16IsZero (destipaddr ip) 1 ∧ u16IsZero (destipaddr ip) 2 ∧
    u16IsZero (destipaddr ip) 3

instance (ip : Memory UInt8) : Decidable (destSentOnLink ip) := inferInstanceAs (Decidable (_ ∧ _))

/-- The upper half of the source address as the receiver rebuilds it from the numbers of the
contexts; none where it finds no context. -/
def srcUpper (numbers : UInt8) (ip : Memory UInt8) : Option (List UInt8) :=
  match srcContext addrContexts ip with
  | some _ =>
    (addrContextLookupByNumber addrContexts (numbers >>> 4)).map fun context =>
      context.prefixBytes.toList
  | none =>
    if srcSentOnLink ip then some [0xfe, 0x80, 0, 0, 0, 0, 0, 0]
    else some ((srcipaddr ip).read 0 8)

def destUpper (numbers : UInt8) (ip : Memory UInt8) : Option (List UInt8) :=
  match destContext addrContexts ip with
  | some _ =>
    (addrContextLookupByNumber addrContexts (numbers &&& 0x0f)).map fun context =>
      context.prefixBytes.toList
  | none => some ((destipaddr ip).read 0 8)

variable {addrContexts} {iphc1 numbers : UInt8} {lladdr : LinkAddr}

theorem compressSrcipaddr_unspecified (unspecified : uipIsAddrUnspecified (srcipaddr ip) = true) :
    compressSrcipaddr addrContexts ip lladdr = ⟨iphcSac, 0, []⟩ := by
  simp [compressSrcipaddr, unspecified]

theorem compressSrcipaddr_context {context : SicslowpanAddrContext}
    (sent : srcContext addrContexts ip = some context) :
    compressSrcipaddr addrContexts ip lladdr =
      ⟨iphcCid ||| iphcSac ||| (compressAddr64 iphcSamBit (srcipaddr ip) lladdr).1,
        context.number <<< 4, (compressAddr64 iphcSamBit (srcipaddr ip) lladdr).2⟩ := by
  unfold srcContext at sent
  split at sent
  · cases sent
  · rename_i specified
    simp [compressSrcipaddr, specified, sent]

section

variable (specified : ¬ uipIsAddrUnspecified (srcipaddr ip) = true)
  (sent : srcContext addrContexts ip = none)
include specified sent

theorem compressSrcipaddr_onLink (onLink : srcSentOnLink ip) :
    compressSrcipaddr addrContexts ip lladdr =
      ⟨(compressAddr64 iphcSamBit (srcipaddr ip) lladdr).1, 0,
        (compressAddr64 iphcSamBit (srcipaddr ip) lladdr).2⟩ := by
  rw [srcContext, if_neg specified] at sent
  rw [compressSrcipaddr, if_neg specified, sent]
  exact if_pos onLink

theorem compressSrcipaddr_inline (offLink : ¬ srcSentOnLink ip) :
    compressSrcipaddr addrContexts ip lladdr = ⟨0, 0, (srcipaddr ip).read 0 16⟩ := by
  rw [srcContext, if_neg specified] at sent
  rw [compressSrcipaddr, if_neg specified, sent]
  exact if_neg offLink

end

theorem unspecified_zeros {addr : Memory UInt8} (unspecified : uipIsAddrUnspecified addr = true) :
    addr.read 0 16 = List.replicate 16 0 := by
  simp only [uipIsAddrUnspecified, Bool.and_eq_true, u16IsZero_iff] at unspecified
  obtain ⟨⟨⟨⟨⟨⟨⟨b0, b2⟩, b4⟩, b6⟩, b8⟩, b10⟩, b12⟩, b14⟩ := unspecified
  simp at b0 b2 b4 b6 b8 b10 b12 b14
  simp [Memory.read, List.range_succ, List.replicate, b0, b2, b4, b6, b8, b10, b12, b14]

theorem unspecified_offLink (unspecified : uipIsAddrUnspecified (srcipaddr ip) = true) :
    srcContext addrContexts ip = none ∧ ¬ srcSentOnLink ip := by
  constructor
  · simp [srcContext, unspecified]
  · rintro ⟨linklocal, _⟩
    simp only [uipIsAddrUnspecified, Bool.and_eq_true, u16IsZero_iff] at unspecified
    have zero := unspecified.1.1.1.1.1.1.1.1
    simp at zero
    simp [uipIsAddrLinklocal, zero] at linklocal

theorem src_forms (addrContexts : List SicslowpanAddrContext) (ip : Memory UInt8) :
    uipIsAddrUnspecified (srcipaddr ip) = true ∨ (∃ context, srcContext addrContexts ip = some context) ∨
      ¬ uipIsAddrUnspecified (srcipaddr ip) = true ∧ srcContext addrContexts ip = none := by
  by_cases unspecified : uipIsAddrUnspecified (srcipaddr ip) = true
  · exact Or.inl unspecified
  · cases sent : srcContext addrContexts ip with
    | some context => exact Or.inr (Or.inl ⟨context, rfl⟩)
    | none => exact Or.inr (Or.inr ⟨unspecified, rfl⟩)

theorem compressSrcipaddr_contexts :
    (compressSrcipaddr addrContexts ip lladdr).contexts =
      contextNumber (srcContext addrContexts ip) <<< 4 := by
  rcases src_forms addrContexts ip with unspecified | ⟨context, sent⟩ | ⟨specified, sent⟩
  · rw [compressSrcipaddr_unspecified unspecified, (unspecified_offLink unspecified).1]
    rfl
  · rw [compressSrcipaddr_context sent, sent]
    rfl
  · by_cases onLink : srcSentOnLink ip
    · rw [compressSrcipaddr_onLink specified sent onLink, sent]
      rfl
    · rw [compressSrcipaddr_inline specified sent onLink, sent]
      rfl

theorem uncCtxconf_iidMode {mode : UInt8} (modes : mode = 1 ∨ mode = 2 ∨ mode = 3) :
    uncCtxconf mode = (8, iidPostcount mode) := by
  rcases modes with rfl | rfl | rfl <;> rfl

theorem uncLlconf_iidMode {mode : UInt8} (modes : mode = 1 ∨ mode = 2 ∨ mode = 3) :
    uncLlconf mode = (2, iidPostcount mode) := by
  rcases modes with rfl | rfl | rfl <;> rfl

theorem uncompressSrcipaddr_compress
    (cid : (srcContext addrContexts ip).isSome → iphc1 &&& iphcCid ≠ 0)
    (sac : iphc1 &&& iphcSac = (compressSrcipaddr addrContexts ip lladdr).iphc1 &&& iphcSac)
    (sam : iphc1 &&& iphcSam11 = (compressSrcipaddr addrContexts ip lladdr).iphc1 &&& iphcSam11)
    (ahead : hc06.rest = (compressSrcipaddr addrContexts ip lladdr).bytes ++ tail) :
    uncompressSrcipaddr addrContexts iphc1 numbers lladdr hc06 =
      (srcUpper addrContexts numbers ip).map fun upper =>
        (upper ++ (srcipaddr ip).read 8 8,
          hc06.skip (compressSrcipaddr addrContexts ip lladdr).bytes.length) := by
  have modes := iidMode_cases (srcipaddr ip) lladdr
  have halves : (srcipaddr ip).read 0 8 ++ (srcipaddr ip).read 8 8 = (srcipaddr ip).read 0 16 :=
    ((srcipaddr ip).read_add 0 8 8).symm
  rcases src_forms addrContexts ip with unspecified | ⟨context, sent⟩ | ⟨specified, sent⟩
  · have forms : srcContext addrContexts ip = none ∧ ¬ srcSentOnLink ip :=
      unspecified_offLink unspecified
    obtain ⟨sent, offLink⟩ := forms
    rw [compressSrcipaddr_unspecified unspecified] at sac sam ⊢
    have inContext : iphc1 &&& iphcSac ≠ 0 := by
      rw [sac]
      decide
    have mode : ((iphc1 &&& iphcSam11) >>> iphcSamBit) &&& 0x03 = 0 := by
      rw [sam]
      decide
    simp only [uncompressSrcipaddr, mode, srcUpper, sent, if_neg offLink, Option.map_some, halves,
      unspecified_zeros unspecified]
    rw [if_pos inContext]
    simp [uncCtxconf, uncompressAddr, Cursor.skip]
  · rw [compressSrcipaddr_context sent] at sac sam ahead ⊢
    dsimp only at sac sam ahead ⊢
    rw [compressAddr64_mode] at sac sam
    obtain ⟨inContext, mode, carried⟩ : iphc1 &&& iphcSac ≠ 0 ∧
        ((iphc1 &&& iphcSam11) >>> iphcSamBit) &&& 0x03 = iidMode (srcipaddr ip) lladdr ∧
          iidMode (srcipaddr ip) lladdr ≠ 0 := by
      rw [sac, sam]
      rcases modes with mode | mode | mode <;> rw [mode] <;> decide
    have flagged := cid (by rw [sent]; rfl)
    simp only [uncompressSrcipaddr, mode, srcUpper, sent, if_pos inContext, if_pos carried,
      if_pos flagged]
    cases addrContextLookupByNumber addrContexts (numbers >>> 4) with
    | none => rfl
    | some found =>
      simp only [Option.map_some, uncCtxconf_iidMode modes]
      rw [uncompressAddr_compressAddr64 (expands_context found) ahead]
  · by_cases onLink : srcSentOnLink ip
    · rw [compressSrcipaddr_onLink specified sent onLink] at sac sam ahead ⊢
      dsimp only at sac sam ahead ⊢
      rw [compressAddr64_mode] at sac sam
      obtain ⟨noContext, mode⟩ : ¬ iphc1 &&& iphcSac ≠ 0 ∧
          ((iphc1 &&& iphcSam11) >>> iphcSamBit) &&& 0x03 = iidMode (srcipaddr ip) lladdr := by
        rw [sac, sam]
        rcases modes with mode | mode | mode <;> rw [mode] <;> decide
      simp only [uncompressSrcipaddr, mode, srcUpper, sent, if_neg noContext, if_pos onLink,
        Option.map_some, uncLlconf_iidMode modes]
      rw [uncompressAddr_compressAddr64 expands_llprefix ahead]
    · rw [compressSrcipaddr_inline specified sent onLink] at sac sam ahead ⊢
      dsimp only at sac sam ahead
      have noContext : ¬ iphc1 &&& iphcSac ≠ 0 := by
        rw [sac]
        decide
      have mode : ((iphc1 &&& iphcSam11) >>> iphcSamBit) &&& 0x03 = 0 := by
        rw [sam]
        decide
      have carried := Cursor.read_ahead ahead
      rw [Memory.read_length] at carried
      simp only [uncompressSrcipaddr, mode, srcUpper, sent, if_neg noContext, if_neg onLink,
        Option.map_some, halves, Memory.read_length]
      simp [uncLlconf, uncompressAddr, carried]

theorem compressDestipaddr_mcast (mcast : uipIsAddrMcast (destipaddr ip) = true) :
    compressDestipaddr addrContexts ip lladdr =
      if isMcastAddrCompressable8 (destipaddr ip) then
        ⟨iphcM ||| iphcDam11, 0, [destipaddr ip 15]⟩
      else if isMcastAddrCompressable32 (destipaddr ip) then
        ⟨iphcM ||| iphcDam10, 0, destipaddr ip 1 :: (destipaddr ip).read 13 3⟩
      else if isMcastAddrCompressable48 (destipaddr ip) then
        ⟨iphcM ||| iphcDam01, 0, destipaddr ip 1 :: (destipaddr ip).read 11 5⟩
      else ⟨iphcM, 0, (destipaddr ip).read 0 16⟩ := by
  simp [compressDestipaddr, mcast]

theorem compressDestipaddr_context {context : SicslowpanAddrContext}
    (sent : destContext addrContexts ip = some context) :
    compressDestipaddr addrContexts ip lladdr =
      ⟨iphcDac ||| (compressAddr64 iphcDamBit (destipaddr ip) lladdr).1, context.number,
        (compressAddr64 iphcDamBit (destipaddr ip) lladdr).2⟩ := by
  unfold destContext at sent
  split at sent
  · cases sent
  · rename_i unicast
    simp [compressDestipaddr, unicast, sent]

section

variable (unicast : ¬ uipIsAddrMcast (destipaddr ip) = true)
  (sent : destContext addrContexts ip = none)
include unicast sent

theorem compressDestipaddr_onLink (onLink : destSentOnLink ip) :
    compressDestipaddr addrContexts ip lladdr =
      ⟨(compressAddr64 iphcDamBit (destipaddr ip) lladdr).1, 0,
        (compressAddr64 iphcDamBit (destipaddr ip) lladdr).2⟩ := by
  rw [destContext, if_neg unicast] at sent
  rw [compressDestipaddr, if_neg unicast, sent]
  exact if_pos onLink

theorem compressDestipaddr_inline (offLink : ¬ destSentOnLink ip) :
    compressDestipaddr addrContexts ip lladdr = ⟨0, 0, (destipaddr ip).read 0 16⟩ := by
  rw [destContext, if_neg unicast] at sent
  rw [compressDestipaddr, if_neg unicast, sent]
  exact if_neg offLink

end

theorem dest_forms (addrContexts : List SicslowpanAddrContext) (ip : Memory UInt8) :
    uipIsAddrMcast (destipaddr ip) = true ∨ (∃ context, destContext addrContexts ip = some context) ∨
      ¬ uipIsAddrMcast (destipaddr ip) = true ∧ destContext addrContexts ip = none := by
  by_cases mcast : uipIsAddrMcast (destipaddr ip) = true
  · exact Or.inl mcast
  · cases sent : destContext addrContexts ip with
    | some context => exact Or.inr (Or.inl ⟨context, rfl⟩)
    | none => exact Or.inr (Or.inr ⟨mcast, rfl⟩)

theorem destContext_mcast (mcast : uipIsAddrMcast (destipaddr ip) = true) :
    destContext addrContexts ip = none := by
  simp [destContext, mcast]

theorem compressDestipaddr_contexts :
    (compressDestipaddr addrContexts ip lladdr).contexts =
      contextNumber (destContext addrContexts ip) := by
  rcases dest_forms addrContexts ip with mcast | ⟨context, sent⟩ | ⟨unicast, sent⟩
  · rw [compressDestipaddr_mcast mcast, destContext_mcast mcast]
    split
    · rfl
    · split
      · rfl
      · split <;> rfl
  · rw [compressDestipaddr_context sent, sent]
    rfl
  · by_cases onLink : destSentOnLink ip
    · rw [compressDestipaddr_onLink unicast sent onLink, sent]
      rfl
    · rw [compressDestipaddr_inline unicast sent onLink, sent]
      rfl

theorem onLink_upper {addr : Memory UInt8} (linklocal : uipIsAddrLinklocal addr = true)
    (zeros : u16IsZero addr 1 = true ∧ u16IsZero addr 2 = true ∧ u16IsZero addr 3 = true) :
    addr.read 0 8 = [0xfe, 0x80, 0, 0, 0, 0, 0, 0] := by
  simp only [u16IsZero_iff] at zeros
  obtain ⟨⟨b2, b3⟩, ⟨b4, b5⟩, ⟨b6, b7⟩⟩ := zeros
  simp only [uipIsAddrLinklocal, Bool.and_eq_true, beq_iff_eq] at linklocal
  simp at b2 b3 b4 b5 b6 b7
  simp [Memory.read, List.range_succ, b2, b3, b4, b5, b6, b7, linklocal.1, linklocal.2]

theorem uncompressDestipaddr_mode (mode : UInt8) (multicast : iphc1 &&& iphcM ≠ 0)
    (noContext : iphc1 &&& iphcDac = 0)
    (carried : ((iphc1 &&& iphcDam11) >>> iphcDamBit) &&& 0x03 = mode) :
    uncompressDestipaddr addrContexts iphc1 numbers lladdr hc06 =
      if mode > 0 ∧ mode < 3 then
        some (uncompressAddr [0xff, hc06.peek 0] (uncMxconf mode) lladdr (hc06.skip 1))
      else some (uncompressAddr [0xff, 0x02] (uncMxconf mode) lladdr hc06) := by
  simp only [uncompressDestipaddr, carried, if_pos multicast, noContext, ne_eq, not_true_eq_false,
    if_false]

variable
  (m : iphc1 &&& iphcM = (compressDestipaddr addrContexts ip lladdr).iphc1 &&& iphcM)
  (dac : iphc1 &&& iphcDac = (compressDestipaddr addrContexts ip lladdr).iphc1 &&& iphcDac)
  (dam : iphc1 &&& iphcDam11 = (compressDestipaddr addrContexts ip lladdr).iphc1 &&& iphcDam11)
  (ahead : hc06.rest = (compressDestipaddr addrContexts ip lladdr).bytes ++ tail)

include m dac dam ahead

theorem uncompressDestipaddr_mcast (mcast : uipIsAddrMcast (destipaddr ip) = true) :
    uncompressDestipaddr addrContexts iphc1 numbers lladdr hc06 =
      some ((destipaddr ip).read 0 16,
        hc06.skip (compressDestipaddr addrContexts ip lladdr).bytes.length) := by
  rw [compressDestipaddr_mcast mcast] at m dac dam ahead ⊢
  have first : destipaddr ip 0 = 0xff := by simpa [uipIsAddrMcast] using mcast
  by_cases eight : isMcastAddrCompressable8 (destipaddr ip) = true
  · rw [if_pos eight] at m dac dam ahead ⊢
    dsimp only at m dac dam
    rw [uncompressDestipaddr_mode 3 (by rw [m]; decide) (by rw [dac]; decide) (by rw [dam]; decide)]
    simp only [isMcastAddrCompressable8, Bool.and_eq_true, beq_iff_eq, u16IsZero_iff] at eight
    obtain ⟨⟨⟨⟨⟨⟨⟨b1, b2⟩, b4⟩, b6⟩, b8⟩, b10⟩, b12⟩, b14⟩ := eight
    simp at b2 b4 b6 b8 b10 b12
    simp [uncMxconf, uncompressAddr, Cursor.read, Cursor.peek, ahead, Memory.read, List.range_succ,
      List.replicate, first, b1, b2, b4, b6, b8, b10, b12, b14]
  rw [if_neg eight] at m dac dam ahead ⊢
  by_cases thirtyTwo : isMcastAddrCompressable32 (destipaddr ip) = true
  · rw [if_pos thirtyTwo] at m dac dam ahead ⊢
    dsimp only at m dac dam
    rw [uncompressDestipaddr_mode 2 (by rw [m]; decide) (by rw [dac]; decide) (by rw [dam]; decide)]
    simp only [isMcastAddrCompressable32, Bool.and_eq_true, beq_iff_eq, u16IsZero_iff] at thirtyTwo
    obtain ⟨⟨⟨⟨⟨b2, b4⟩, b6⟩, b8⟩, b10⟩, b12⟩ := thirtyTwo
    simp at b2 b4 b6 b8 b10
    simp [uncMxconf, uncompressAddr, Cursor.read, Cursor.peek, ahead, Memory.read, List.range_succ,
      List.replicate, Cursor.skip_skip, first, b2, b4, b6, b8, b10, b12]
  rw [if_neg thirtyTwo] at m dac dam ahead ⊢
  by_cases fortyEight : isMcastAddrCompressable48 (destipaddr ip) = true
  · rw [if_pos fortyEight] at m dac dam ahead ⊢
    dsimp only at m dac dam
    rw [uncompressDestipaddr_mode 1 (by rw [m]; decide) (by rw [dac]; decide) (by rw [dam]; decide)]
    simp only [isMcastAddrCompressable48, Bool.and_eq_true, beq_iff_eq, u16IsZero_iff] at fortyEight
    obtain ⟨⟨⟨⟨b2, b4⟩, b6⟩, b8⟩, b10⟩ := fortyEight
    simp at b2 b4 b6 b8
    simp [uncMxconf, uncompressAddr, Cursor.read, Cursor.peek, ahead, Memory.read, List.range_succ,
      List.replicate, Cursor.skip_skip, first, b2, b4, b6, b8, b10]
  · rw [if_neg fortyEight] at m dac dam ahead ⊢
    dsimp only at m dac dam
    rw [uncompressDestipaddr_mode 0 (by rw [m]; decide) (by rw [dac]; decide) (by rw [dam]; decide)]
    have carried := Cursor.read_ahead ahead
    rw [Memory.read_length] at carried
    simp [uncMxconf, uncompressAddr, carried]

theorem uncompressDestipaddr_compress
    (cid : (destContext addrContexts ip).isSome → iphc1 &&& iphcCid ≠ 0) :
    uncompressDestipaddr addrContexts iphc1 numbers lladdr hc06 =
      (destUpper addrContexts numbers ip).map fun upper =>
        (upper ++ (destipaddr ip).read 8 8,
          hc06.skip (compressDestipaddr addrContexts ip lladdr).bytes.length) := by
  have modes := iidMode_cases (destipaddr ip) lladdr
  have halves : (destipaddr ip).read 0 8 ++ (destipaddr ip).read 8 8 = (destipaddr ip).read 0 16 :=
    ((destipaddr ip).read_add 0 8 8).symm
  rcases dest_forms addrContexts ip with mcast | ⟨context, sent⟩ | ⟨unicast, sent⟩
  · rw [uncompressDestipaddr_mcast m dac dam ahead mcast]
    simp only [destUpper, destContext_mcast mcast, Option.map_some, halves]
  · rw [compressDestipaddr_context sent] at m dac dam ahead ⊢
    dsimp only at m dac dam ahead ⊢
    rw [compressAddr64_mode] at m dac dam
    obtain ⟨unicast, inContext, mode⟩ : ¬ iphc1 &&& iphcM ≠ 0 ∧ iphc1 &&& iphcDac ≠ 0 ∧
        ((iphc1 &&& iphcDam11) >>> iphcDamBit) &&& 0x03 = iidMode (destipaddr ip) lladdr := by
      rw [m, dac, dam]
      rcases modes with mode | mode | mode <;> rw [mode] <;> decide
    have flagged := cid (by rw [sent]; rfl)
    simp only [uncompressDestipaddr, mode, destUpper, sent, if_neg unicast, if_pos inContext,
      if_pos flagged]
    cases addrContextLookupByNumber addrContexts (numbers &&& 0x0f) with
    | none => rfl
    | some found =>
      simp only [Option.map_some, uncCtxconf_iidMode modes]
      rw [uncompressAddr_compressAddr64 (expands_context found) ahead]
  · by_cases onLink : destSentOnLink ip
    · rw [compressDestipaddr_onLink unicast sent onLink] at m dac dam ahead ⊢
      dsimp only at m dac dam ahead ⊢
      rw [compressAddr64_mode] at m dac dam
      obtain ⟨unicast, noContext, mode⟩ : ¬ iphc1 &&& iphcM ≠ 0 ∧ ¬ iphc1 &&& iphcDac ≠ 0 ∧
          ((iphc1 &&& iphcDam11) >>> iphcDamBit) &&& 0x03 = iidMode (destipaddr ip) lladdr := by
        rw [m, dac, dam]
        rcases modes with mode | mode | mode <;> rw [mode] <;> decide
      simp only [uncompressDestipaddr, mode, destUpper, sent, if_neg unicast, if_neg noContext,
        Option.map_some, uncLlconf_iidMode modes]
      rw [uncompressAddr_compressAddr64 expands_llprefix ahead, onLink_upper onLink.1 onLink.2]
    · rw [compressDestipaddr_inline unicast sent onLink] at m dac dam ahead ⊢
      dsimp only at m dac dam ahead
      have unicast : ¬ iphc1 &&& iphcM ≠ 0 := by
        rw [m]
        decide
      have noContext : ¬ iphc1 &&& iphcDac ≠ 0 := by
        rw [dac]
        decide
      have mode : ((iphc1 &&& iphcDam11) >>> iphcDamBit) &&& 0x03 = 0 := by
        rw [dam]
        decide
      have carried := Cursor.read_ahead ahead
      rw [Memory.read_length] at carried
      simp only [uncompressDestipaddr, mode, destUpper, sent, if_neg unicast, if_neg noContext,
        Option.map_some, halves, Memory.read_length]
      simp [uncLlconf, uncompressAddr, carried]

end MultiPhyTsch.Lowpan
