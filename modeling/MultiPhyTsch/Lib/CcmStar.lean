import Mathlib.Data.List.Basic

/-! CCM* over a block cipher. Counter mode is its own inverse, so decrypting what was encrypted
under the same nonce gives back the message and its authentication code. Lengths and counters
are bytes, which is enough for messages of up to 255 bytes. -/

namespace CcmStar

def blockSize : Nat := 16

def xorBytes : List UInt8 → List UInt8 → List UInt8
  | byte :: bytes, mask :: masks => (byte ^^^ mask) :: xorBytes bytes masks
  | bytes, _ => bytes

theorem xorBytes_length (bytes masks : List UInt8) : (xorBytes bytes masks).length = bytes.length := by
  induction bytes generalizing masks with
  | nil => simp [xorBytes]
  | cons byte bytes ih =>
    cases masks with
    | nil => simp [xorBytes]
    | cons mask masks => simp [xorBytes, ih]

structure BlockCipher (κ : Type) where
  encrypt : κ → List UInt8 → List UInt8
  length_encrypt : ∀ (key : κ) (block : List UInt8), block.length = blockSize →
    (encrypt key block).length = blockSize

variable (encrypt : List UInt8 → List UInt8)

def iv (flags : UInt8) (nonce : List UInt8) (counter : UInt8) : List UInt8 :=
  [flags] ++ nonce ++ [0, counter]

def ctrFrom (nonce : List UInt8) : Nat → UInt8 → List UInt8 → List UInt8
  | 0, _, message => message
  | rounds + 1, counter, message =>
    if message.isEmpty then []
    else xorBytes (message.take blockSize) (encrypt (iv 1 nonce counter)) ++
      ctrFrom nonce rounds (counter + 1) (message.drop blockSize)

def ctr (nonce message : List UInt8) : List UInt8 :=
  ctrFrom encrypt nonce message.length 1 message

def absorb : Nat → List UInt8 → List UInt8 → List UInt8
  | 0, state, _ => state
  | rounds + 1, state, message =>
    if message.isEmpty then state
    else absorb rounds (encrypt (xorBytes state (message.take blockSize))) (message.drop blockSize)

def authFlags (adata : Nat) (micLen : Nat) : UInt8 :=
  (if adata ≠ 0 then (0x40 : UInt8) else 0) ||| (UInt8.ofNat ((micLen - 2) / 2) <<< 3) ||| 1

def absorbHeader (state header : List UInt8) : List UInt8 :=
  if header.isEmpty then state
  else absorb encrypt header.length
    (encrypt (xorBytes state ([0, UInt8.ofNat header.length] ++ header.take 14))) (header.drop 14)

def mic (nonce message header : List UInt8) (micLen : Nat) : List UInt8 :=
  let start := encrypt (iv (authFlags header.length micLen) nonce (UInt8.ofNat message.length))
  let state := absorb encrypt message.length (absorbHeader encrypt start header) message
  (xorBytes state (encrypt (iv 1 nonce 0))).take micLen

def aead (nonce message header : List UInt8) (micLen : Nat) (forward : Bool) :
    List UInt8 × List UInt8 :=
  let result := ctr encrypt nonce message
  (result, mic encrypt nonce (if forward then message else result) header micLen)

theorem ctrFrom_length (nonce : List UInt8) (rounds : Nat) : ∀ (counter : UInt8) (message : List UInt8),
    (ctrFrom encrypt nonce rounds counter message).length = message.length := by
  induction rounds with
  | zero => intro counter message; rfl
  | succ rounds ih =>
    intro counter message
    simp only [ctrFrom]
    split
    next empty => simp [List.isEmpty_iff.mp empty]
    next =>
      simp only [List.length_append, xorBytes_length, ih, List.length_take, List.length_drop]
      omega

variable (nonce message : List UInt8)

theorem ctr_length : (ctr encrypt nonce message).length = message.length :=
  ctrFrom_length encrypt nonce message.length 1 message

theorem xorBytes_getElem? (bytes masks : List UInt8) (index : Nat) :
    (xorBytes bytes masks)[index]? = bytes[index]?.map (· ^^^ masks.getD index 0) := by
  induction bytes generalizing masks index with
  | nil => simp [xorBytes]
  | cons byte bytes ih =>
    cases masks with
    | nil => simp [xorBytes]
    | cons mask masks =>
      cases index with
      | zero => simp [xorBytes]
      | succ index => simpa [xorBytes] using ih masks index

def streamByte (nonce : List UInt8) (counter : UInt8) (index : Nat) : UInt8 :=
  (encrypt (iv 1 nonce (counter + UInt8.ofNat (index / blockSize)))).getD (index % blockSize) 0

theorem ctrFrom_getElem? (nonce : List UInt8) (rounds : Nat) :
    ∀ (counter : UInt8) (message : List UInt8) (index : Nat), message.length ≤ rounds →
      (ctrFrom encrypt nonce rounds counter message)[index]? =
        message[index]?.map (· ^^^ streamByte encrypt nonce counter index) := by
  have size : blockSize = 16 := rfl
  induction rounds with
  | zero =>
    intro counter message index bound
    simp [List.eq_nil_of_length_eq_zero (Nat.le_zero.mp bound), ctrFrom]
  | succ rounds ih =>
    intro counter message index bound
    by_cases empty : message = []
    · simp [ctrFrom, empty]
    have filled : message.isEmpty = false := by simp [empty]
    have positive := List.length_pos_of_ne_nil empty
    rw [ctrFrom, filled]
    simp only [Bool.false_eq_true, if_false]
    rw [List.getElem?_append, xorBytes_length, List.length_take]
    by_cases first : index < blockSize
    · have inFirst : index / blockSize = 0 := Nat.div_eq_of_lt first
      by_cases inside : index < message.length
      · rw [if_pos (by omega), xorBytes_getElem?, List.getElem?_take, if_pos first]
        simp [streamByte, inFirst, Nat.mod_eq_of_lt first]
      · rw [if_neg (by omega), List.getElem?_eq_none (by
          rw [ctrFrom_length, List.length_drop]
          omega), List.getElem?_eq_none (by omega)]
        rfl
    · by_cases inside : blockSize ≤ message.length
      · have next : counter + 1 + UInt8.ofNat ((index - blockSize) / blockSize) =
            counter + UInt8.ofNat (index / blockSize) := by
          rw [Nat.div_eq_sub_div (by omega) (by omega : blockSize ≤ index), UInt8.ofNat_add]
          grind
        rw [if_neg (by omega), Nat.min_eq_left inside,
          ih (counter + 1) _ _ (by rw [List.length_drop]; omega), List.getElem?_drop,
          Nat.add_sub_cancel' (by omega), streamByte, streamByte, next,
          ← Nat.mod_eq_sub_mod (by omega)]
      · rw [if_neg (by omega), List.getElem?_eq_none (by
          rw [ctrFrom_length, List.length_drop]
          omega), List.getElem?_eq_none (by omega)]
        rfl

theorem ctr_getElem? (index : Nat) : (ctr encrypt nonce message)[index]? =
      message[index]?.map (· ^^^ streamByte encrypt nonce 1 index) :=
  ctrFrom_getElem? encrypt nonce message.length 1 message index (Nat.le_refl _)

theorem ctr_ctr : ctr encrypt nonce (ctr encrypt nonce message) = message := by
  apply List.ext_getElem?
  intro index
  rw [ctr_getElem?, ctr_getElem?]
  cases message[index]? with
  | none => rfl
  | some byte =>
    have twice (mask : UInt8) : byte ^^^ mask ^^^ mask = byte := by
      rw [UInt8.xor_assoc, UInt8.xor_self, UInt8.xor_zero]
    exact congrArg some (twice _)

theorem xor_left_cancel {byte mask : UInt8} (same : byte ^^^ mask = byte) : mask = 0 := by
  have zero := congrArg (byte ^^^ ·) same
  simpa [← UInt8.xor_assoc] using zero

theorem ctr_of_late_start {skipped : Nat} (late : 0 < skipped)
    (restored : (ctr encrypt nonce message).take skipped ++
      ctr encrypt nonce ((ctr encrypt nonce message).drop skipped) = message) :
    ctr encrypt nonce message = message := by
  have zero : ∀ index, index < message.length → streamByte encrypt nonce 1 index = 0 := by
    intro index
    induction index using Nat.strongRecOn with
    | ind index ih =>
      intro inside
      have byte : message[index]? = some message[index] := List.getElem?_eq_getElem inside
      have here := congrArg (·[index]?) restored
      rw [List.getElem?_append, List.length_take, ctr_length] at here
      by_cases before : index < skipped
      · rw [if_pos (by omega), List.getElem?_take, if_pos before, ctr_getElem?, byte] at here
        exact xor_left_cancel (Option.some.inj here)
      · have earlier := ih (index - skipped) (by omega) (by omega)
        rw [if_neg (by omega), Nat.min_eq_left (by omega), ctr_getElem?, List.getElem?_drop,
          Nat.add_sub_cancel' (by omega), ctr_getElem?, byte, earlier] at here
        simp only [Option.map_some, UInt8.xor_zero] at here
        exact xor_left_cancel (Option.some.inj here)
  apply List.ext_getElem?
  intro index
  rw [ctr_getElem?]
  by_cases inside : index < message.length
  · rw [zero index inside]
    simp
  · rw [List.getElem?_eq_none (by omega)]
    rfl

theorem aead_length (nonce message header : List UInt8) (micLen : Nat) (forward : Bool) :
    (aead encrypt nonce message header micLen forward).1.length = message.length :=
  ctr_length encrypt nonce message

theorem aead_aead (nonce message header : List UInt8) (micLen : Nat) :
    let sealed := aead encrypt nonce message header micLen true
    aead encrypt nonce sealed.1 header micLen false = (message, sealed.2) := by
  simp [aead, ctr_ctr]

section lengths

variable {encrypt} (blocks : ∀ block : List UInt8, block.length = blockSize →
  (encrypt block).length = blockSize)

include blocks

theorem absorb_length (rounds : Nat) : ∀ state message : List UInt8, state.length = blockSize →
    (absorb encrypt rounds state message).length = blockSize := by
  induction rounds with
  | zero => intro state message full; exact full
  | succ rounds ih =>
    intro state message full
    rw [absorb]
    split
    · exact full
    · apply ih
      apply blocks
      rw [xorBytes_length, full]

theorem absorbHeader_length {state : List UInt8} (header : List UInt8)
    (full : state.length = blockSize) : (absorbHeader encrypt state header).length = blockSize := by
  unfold absorbHeader
  split
  · exact full
  · apply absorb_length blocks
    apply blocks
    rw [xorBytes_length, full]

theorem mic_length {nonce : List UInt8} (sized : nonce.length = 13) (message header : List UInt8)
    {micLen : Nat} (short : micLen ≤ blockSize) :
    (mic encrypt nonce message header micLen).length = micLen := by
  have start : (encrypt (iv (authFlags header.length micLen) nonce
      (UInt8.ofNat message.length))).length = blockSize := by
    apply blocks
    simp [iv, sized, blockSize]
  have state := absorb_length blocks message.length _ message (absorbHeader_length blocks header start)
  simp only [mic, List.length_take, xorBytes_length, state]
  omega

end lengths

end CcmStar
