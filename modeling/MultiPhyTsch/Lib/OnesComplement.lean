import Mathlib.Data.Nat.ModEq

/-! Sums of 16-bit words in one's complement: a carry out of the word is added in again at its
end, so that the sum of two words is their sum modulo 65535. Of the two words for zero only the
empty sum and sums of zeros give 0. -/

namespace OnesComplement

def fold (total : Nat) : Nat := if total = 0 then 0 else (total - 1) % 65535 + 1

theorem fold_zero : fold 0 = 0 := rfl

theorem fold_pos {total : Nat} (positive : total ≠ 0) : fold total = (total - 1) % 65535 + 1 :=
  if_neg positive

theorem fold_of_le {total : Nat} (word : total ≤ 65535) : fold total = total := by
  unfold fold
  split
  next zero => exact zero.symm
  next positive => omega

variable (total : Nat)

theorem fold_le : fold total ≤ 65535 := by
  unfold fold
  split
  next => exact Nat.zero_le _
  next => omega

theorem fold_mod : fold total % 65535 = total % 65535 := by
  unfold fold
  split
  next zero => rw [zero]
  next positive => omega

theorem fold_eq_zero_iff : fold total = 0 ↔ total = 0 := by
  unfold fold
  split
  next zero => simp [zero]
  next positive => omega

theorem fold_eq_max_iff : fold total = 65535 ↔ total ≠ 0 ∧ 65535 ∣ total := by
  unfold fold
  split
  next zero => simp [zero]
  next positive => omega

theorem fold_fold_add (first second : Nat) : fold (fold first + second) = fold (first + second) := by
  by_cases zero : first = 0
  · rw [zero, fold_zero]
  · rw [fold_pos zero, fold_pos (by omega), fold_pos (by omega)]
    omega

def addWord (sum word : UInt16) : UInt16 :=
  if sum + word < word then sum + word + 1 else sum + word

theorem addWord_toNat (sum word : UInt16) :
    (addWord sum word).toNat = fold (sum.toNat + word.toNat) := by
  have left := UInt16.toNat_lt sum
  have right := UInt16.toNat_lt word
  have wrapped : (sum + word).toNat = (sum.toNat + word.toNat) % 65536 := UInt16.toNat_add sum word
  unfold addWord
  split
  next carried =>
    have smaller : (sum + word).toNat < word.toNat := carried
    have one : (sum + word + 1).toNat = ((sum + word).toNat + 1) % 65536 :=
      UInt16.toNat_add (sum + word) 1
    rw [one, fold_pos (by omega)]
    omega
  next kept =>
    have larger : ¬ (sum + word).toNat < word.toNat := kept
    rw [fold_of_le (by omega)]
    omega

def word (high low : UInt8) : Nat := high.toNat * 256 + low.toNat

def wordSum : List UInt8 → Nat
  | high :: low :: rest => word high low + wordSum rest
  | [high] => word high 0
  | [] => 0

theorem wordSum_append {first : List UInt8} (even : first.length % 2 = 0) (second : List UInt8) :
    wordSum (first ++ second) = wordSum first + wordSum second := by
  induction first using wordSum.induct with
  | case1 high low rest ih =>
    rw [List.length_cons, List.length_cons] at even
    have inner := ih (by omega)
    rw [List.cons_append, List.cons_append, wordSum, wordSum, inner, Nat.add_assoc]
  | case2 high => simp at even
  | case3 => simp [wordSum]

def complement (total : Nat) : Nat := if total = 0 then 0 else 65535 - fold total

theorem complement_balances : 65535 ∣ total + complement total := by
  have same := fold_mod total
  have bound := fold_le total
  unfold complement
  split
  next zero => simp [zero]
  next => omega

theorem complement_balances_nonzero :
    65535 ∣ total + if complement total = 0 then 65535 else complement total := by
  have balances := complement_balances total
  split
  next zero =>
    rw [zero] at balances
    exact Nat.dvd_add balances (Nat.dvd_refl _)
  next => exact balances

end OnesComplement
