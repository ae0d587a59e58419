import Mathlib.Data.Nat.Bitwise
import Mathlib.Tactic.NormNum.Basic

/-! Machine words put together from their bytes. -/

theorem or_shiftLeft {low high : Nat} (count : Nat) (small : low < 2 ^ count) :
    low ||| high <<< count = low + high * 2 ^ count := by
  rw [Nat.or_comm, ← Nat.shiftLeft_add_eq_or_of_lt small, Nat.shiftLeft_eq, Nat.add_comm]

theorem uint16_bytes (value : UInt16) :
    value.toUInt8.toUInt16 ||| ((value >>> 8).toUInt8.toUInt16 <<< 8) = value := by
  apply UInt16.toNat_inj.mp
  have bound := value.toNat_lt
  simp only [UInt16.toNat_or, UInt16.toNat_shiftLeft, UInt8.toNat_toUInt16, UInt16.toNat_toUInt8,
    UInt16.toNat_shiftRight, UInt16.reduceToNat, Nat.reduceMod, Nat.shiftRight_eq_div_pow]
  have shifted : (value.toNat / 2 ^ 8 % 2 ^ 8) <<< 8 % 2 ^ 16 = (value.toNat / 2 ^ 8 % 2 ^ 8) <<< 8 := by
    rw [Nat.shiftLeft_eq]
    omega
  rw [shifted, or_shiftLeft 8 (by omega)]
  omega

theorem uint32_bytes (value : UInt32) :
    value.toUInt8.toUInt32 ||| ((value >>> 8).toUInt8.toUInt32 <<< 8) |||
      ((value >>> 16).toUInt8.toUInt32 <<< 16) ||| ((value >>> 24).toUInt8.toUInt32 <<< 24) =
        value := by
  apply UInt32.toNat_inj.mp
  have bound := value.toNat_lt
  simp only [UInt32.toNat_or, UInt32.toNat_shiftLeft, UInt8.toNat_toUInt32, UInt32.toNat_toUInt8,
    UInt32.toNat_shiftRight, UInt32.reduceToNat, Nat.reduceMod, Nat.shiftRight_eq_div_pow]
  have shifted : ∀ byte count : Nat, byte < 2 ^ 8 → count ≤ 24 →
      byte <<< count % 2 ^ 32 = byte <<< count := by
    intro byte count small inside
    apply Nat.mod_eq_of_lt
    rw [Nat.shiftLeft_eq]
    calc byte * 2 ^ count < 2 ^ 8 * 2 ^ count := (Nat.mul_lt_mul_right (Nat.two_pow_pos _)).mpr small
      _ = 2 ^ (8 + count) := (Nat.pow_add ..).symm
      _ ≤ 2 ^ 32 := Nat.pow_le_pow_right (by omega) (by omega)
  rw [shifted _ 8 (by omega) (by omega), shifted _ 16 (by omega) (by omega),
    shifted _ 24 (by omega) (by omega), or_shiftLeft 8 (by omega), or_shiftLeft 16 (by omega),
    or_shiftLeft 24 (by omega)]
  omega
