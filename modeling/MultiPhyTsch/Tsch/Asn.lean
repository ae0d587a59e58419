import Mathlib.Data.Nat.ModEq
import Mathlib.Tactic.Ring

/-! The 40-bit absolute slot number of `tsch-asn.h` and its quick modulo. The
multiplication in `TSCH_ASN_MOD` is done in `int`, 32 bits wide on the targets of the
multi-PHY projects, where `255 * 65535` does not overflow. -/

namespace MultiPhyTsch

structure TschAsn where
  ls4b : UInt32
  ms1b : UInt8
deriving DecidableEq, Repr, Inhabited

structure TschAsnDivisor where
  val : UInt16
  asnMs1bRemainder : UInt16
deriving DecidableEq, Repr, Inhabited

def tschAsnInc (asn : TschAsn) (inc : UInt32) : TschAsn :=
  let newLs4b := asn.ls4b + inc
  { ls4b := newLs4b, ms1b := if newLs4b < asn.ls4b then asn.ms1b + 1 else asn.ms1b }

def tschAsnDec (asn : TschAsn) (dec : UInt32) : TschAsn :=
  let newLs4b := asn.ls4b - dec
  { ls4b := newLs4b, ms1b := if newLs4b > asn.ls4b then asn.ms1b - 1 else asn.ms1b }

def tschAsnDiff (first second : TschAsn) : UInt32 := first.ls4b - second.ls4b

def tschAsnDivisorInit (val : UInt16) : TschAsnDivisor :=
  { val := val
    asnMs1bRemainder := UInt16.ofNat ((0xffffffff % val.toNat + 1) % val.toNat) }

def tschAsnMod (asn : TschAsn) (div : TschAsnDivisor) : UInt16 :=
  UInt16.ofNat (((asn.ls4b.toNat % div.val.toNat) % 2 ^ 16 +
    (asn.ms1b.toNat * div.asnMs1bRemainder.toNat % div.val.toNat) % 2 ^ 16) % div.val.toNat)

def TschAsn.toNat (asn : TschAsn) : Nat := asn.ms1b.toNat * 2 ^ 32 + asn.ls4b.toNat

variable (asn : TschAsn)

theorem TschAsn.toNat_lt : asn.toNat < 2 ^ 40 := by
  have high := asn.ms1b.toNat_lt
  have low := asn.ls4b.toNat_lt
  unfold TschAsn.toNat
  omega

theorem tschAsnInc_toNat (inc : UInt32) :
    (tschAsnInc asn inc).toNat = (asn.toNat + inc.toNat) % 2 ^ 40 := by
  have high := asn.ms1b.toNat_lt
  have low := asn.ls4b.toNat_lt
  have step := inc.toNat_lt
  unfold tschAsnInc TschAsn.toNat
  simp only [UInt32.lt_iff_toNat_lt, UInt32.toNat_add]
  split
  · rw [UInt8.toNat_add]
    simp only [UInt8.reduceToNat]
    omega
  · omega

theorem tschAsnDec_toNat (dec : UInt32) :
    (tschAsnDec asn dec).toNat = (asn.toNat + (2 ^ 40 - dec.toNat)) % 2 ^ 40 := by
  have high := asn.ms1b.toNat_lt
  have low := asn.ls4b.toNat_lt
  have step := dec.toNat_lt
  unfold tschAsnDec TschAsn.toNat
  simp only [gt_iff_lt, UInt32.lt_iff_toNat_lt, UInt32.toNat_sub]
  split
  · rw [UInt8.toNat_sub]
    simp only [UInt8.reduceToNat]
    omega
  · omega

theorem TschAsn.toNat_inj {asn other : TschAsn} (same : asn.toNat = other.toNat) : asn = other := by
  have low := asn.ls4b.toNat_lt
  have otherLow := other.ls4b.toNat_lt
  unfold TschAsn.toNat at same
  obtain ⟨ls4b, ms1b⟩ := asn
  obtain ⟨otherLs4b, otherMs1b⟩ := other
  have lowSame : ls4b.toNat = otherLs4b.toNat := by
    dsimp only at same low otherLow
    omega
  have highSame : ms1b.toNat = otherMs1b.toNat := by
    dsimp only at same
    omega
  rw [UInt32.toNat_inj.mp lowSame, UInt8.toNat_inj.mp highSame]

theorem tschAsnDec_inc (inc : UInt32) : tschAsnDec (tschAsnInc asn inc) inc = asn := by
  have bound := asn.toNat_lt
  have step := inc.toNat_lt
  apply TschAsn.toNat_inj
  rw [tschAsnDec_toNat, tschAsnInc_toNat]
  omega

theorem tschAsnInc_dec (dec : UInt32) : tschAsnInc (tschAsnDec asn dec) dec = asn := by
  have bound := asn.toNat_lt
  have step := dec.toNat_lt
  apply TschAsn.toNat_inj
  rw [tschAsnInc_toNat, tschAsnDec_toNat]
  omega

theorem tschAsnDiff_toInt (first second : TschAsn)
    (low : -2 ^ 31 ≤ (first.toNat : Int) - second.toNat)
    (high : (first.toNat : Int) - second.toNat < 2 ^ 31) :
    (tschAsnDiff first second).toInt32.toInt = (first.toNat : Int) - second.toNat := by
  have firstLow := first.ls4b.toNat_lt
  have secondLow := second.ls4b.toNat_lt
  have bits : (tschAsnDiff first second).toInt32.toInt = (tschAsnDiff first second).toBitVec.toInt :=
    rfl
  have signed : (tschAsnDiff first second).toInt32.toInt =
      ((tschAsnDiff first second).toNat : Int).bmod (2 ^ 32) := by
    rw [bits]
    exact BitVec.toInt_eq_toNat_bmod _
  rw [signed, tschAsnDiff, UInt32.toNat_sub]
  unfold TschAsn.toNat at low high ⊢
  rw [Int.bmod_def]
  split
  · omega
  · omega

theorem tschAsnDivisorInit_remainder {val : UInt16} (positive : 0 < val.toNat) :
    (tschAsnDivisorInit val).asnMs1bRemainder.toNat = 2 ^ 32 % val.toNat := by
  have bound := val.toNat_lt
  have small := Nat.mod_lt (0xffffffff % val.toNat + 1) positive
  unfold tschAsnDivisorInit
  rw [UInt16.toNat_ofNat', Nat.mod_eq_of_lt (by omega), Nat.mod_add_mod,
    show 0xffffffff + 1 = 2 ^ 32 from rfl]

theorem tschAsnMod_toNat {val : UInt16} (positive : 0 < val.toNat) :
    (tschAsnMod asn (tschAsnDivisorInit val)).toNat = asn.toNat % val.toNat := by
  have bound := val.toNat_lt
  have lowSmall := Nat.mod_lt asn.ls4b.toNat positive
  have highSmall := Nat.mod_lt (asn.ms1b.toNat * (2 ^ 32 % val.toNat)) positive
  have sumSmall := Nat.mod_lt (asn.ls4b.toNat % val.toNat +
    asn.ms1b.toNat * (2 ^ 32 % val.toNat) % val.toNat) positive
  unfold tschAsnMod
  rw [tschAsnDivisorInit_remainder positive]
  simp only [tschAsnDivisorInit]
  rw [Nat.mod_eq_of_lt (by omega : asn.ls4b.toNat % val.toNat < 2 ^ 16),
    Nat.mod_eq_of_lt (by omega :
      asn.ms1b.toNat * (2 ^ 32 % val.toNat) % val.toNat < 2 ^ 16),
    UInt16.toNat_ofNat', Nat.mod_eq_of_lt (by omega), ← Nat.add_mod]
  unfold TschAsn.toNat
  rw [Nat.add_comm, Nat.add_mod, Nat.mul_mod_mod, ← Nat.add_mod]

theorem tschAsn_arithmetic (asn : TschAsn) (n : UInt32) :
    (∀ val : UInt16, 0 < val.toNat →
      (tschAsnMod asn (tschAsnDivisorInit val)).toNat =
        (asn.ms1b.toNat * 2 ^ 32 + asn.ls4b.toNat) % val.toNat) ∧
    (tschAsnInc asn n).toNat = (asn.toNat + n.toNat) % 2 ^ 40 ∧
    ((tschAsnDec asn n).toNat : Int) = ((asn.toNat : Int) - n.toNat) % 2 ^ 40 ∧
    tschAsnDec (tschAsnInc asn n) n = asn ∧ tschAsnInc (tschAsnDec asn n) n = asn ∧
    ∀ other : TschAsn, -2 ^ 31 ≤ (asn.toNat : Int) - other.toNat →
      (asn.toNat : Int) - other.toNat < 2 ^ 31 →
      (tschAsnDiff asn other).toInt32.toInt = (asn.toNat : Int) - other.toNat := by
  refine ⟨fun val positive => tschAsnMod_toNat asn positive, tschAsnInc_toNat asn n, ?_,
    tschAsnDec_inc asn n, tschAsnInc_dec asn n, fun other low high => tschAsnDiff_toInt asn other low high⟩
  have step := n.toNat_lt
  rw [tschAsnDec_toNat]
  omega

theorem tschAsn_arithmetic_carried :
    (tschAsnMod ⟨5, 3⟩ (tschAsnDivisorInit 101)).toNat = (3 * 2 ^ 32 + 5) % 101 ∧
      (tschAsnDiff ⟨2, 3⟩ ⟨0xfffffffe, 2⟩).toInt32.toInt =
        ((TschAsn.mk 2 3).toNat : Int) - (TschAsn.mk 0xfffffffe 2).toNat := by
  have near : ((TschAsn.mk 2 3).toNat : Int) - (TschAsn.mk 0xfffffffe 2).toNat = 4 := by
    simp [TschAsn.toNat]
  obtain ⟨-, -, -, -, -, diff⟩ := tschAsn_arithmetic ⟨2, 3⟩ 7
  constructor
  · have modulo := (tschAsn_arithmetic ⟨5, 3⟩ 7).1 101 (by decide)
    simpa using modulo
  · exact diff ⟨0xfffffffe, 2⟩ (by omega) (by omega)

end MultiPhyTsch
