import MultiPhyTsch.Lib.CcmStar

/-! The AES-128 block cipher, in software. A block is the list of its 16 bytes. -/

namespace Aes128

def sbox : List UInt8 :=
  [ 0x63, 0x7c, 0x77, 0x7b, 0xf2, 0x6b, 0x6f, 0xc5, 0x30, 0x01, 0x67, 0x2b, 0xfe, 0xd7, 0xab, 0x76,
    0xca, 0x82, 0xc9, 0x7d, 0xfa, 0x59, 0x47, 0xf0, 0xad, 0xd4, 0xa2, 0xaf, 0x9c, 0xa4, 0x72, 0xc0,
    0xb7, 0xfd, 0x93, 0x26, 0x36, 0x3f, 0xf7, 0xcc, 0x34, 0xa5, 0xe5, 0xf1, 0x71, 0xd8, 0x31, 0x15,
    0x04, 0xc7, 0x23, 0xc3, 0x18, 0x96, 0x05, 0x9a, 0x07, 0x12, 0x80, 0xe2, 0xeb, 0x27, 0xb2, 0x75,
    0x09, 0x83, 0x2c, 0x1a, 0x1b, 0x6e, 0x5a, 0xa0, 0x52, 0x3b, 0xd6, 0xb3, 0x29, 0xe3, 0x2f, 0x84,
    0x53, 0xd1, 0x00, 0xed, 0x20, 0xfc, 0xb1, 0x5b, 0x6a, 0xcb, 0xbe, 0x39, 0x4a, 0x4c, 0x58, 0xcf,
    0xd0, 0xef, 0xaa, 0xfb, 0x43, 0x4d, 0x33, 0x85, 0x45, 0xf9, 0x02, 0x7f, 0x50, 0x3c, 0x9f, 0xa8,
    0x51, 0xa3, 0x40, 0x8f, 0x92, 0x9d, 0x38, 0xf5, 0xbc, 0xb6, 0xda, 0x21, 0x10, 0xff, 0xf3, 0xd2,
    0xcd, 0x0c, 0x13, 0xec, 0x5f, 0x97, 0x44, 0x17, 0xc4, 0xa7, 0x7e, 0x3d, 0x64, 0x5d, 0x19, 0x73,
    0x60, 0x81, 0x4f, 0xdc, 0x22, 0x2a, 0x90, 0x88, 0x46, 0xee, 0xb8, 0x14, 0xde, 0x5e, 0x0b, 0xdb,
    0xe0, 0x32, 0x3a, 0x0a, 0x49, 0x06, 0x24, 0x5c, 0xc2, 0xd3, 0xac, 0x62, 0x91, 0x95, 0xe4, 0x79,
    0xe7, 0xc8, 0x37, 0x6d, 0x8d, 0xd5, 0x4e, 0xa9, 0x6c, 0x56, 0xf4, 0xea, 0x65, 0x7a, 0xae, 0x08,
    0xba, 0x78, 0x25, 0x2e, 0x1c, 0xa6, 0xb4, 0xc6, 0xe8, 0xdd, 0x74, 0x1f, 0x4b, 0xbd, 0x8b, 0x8a,
    0x70, 0x3e, 0xb5, 0x66, 0x48, 0x03, 0xf6, 0x0e, 0x61, 0x35, 0x57, 0xb9, 0x86, 0xc1, 0x1d, 0x9e,
    0xe1, 0xf8, 0x98, 0x11, 0x69, 0xd9, 0x8e, 0x94, 0x9b, 0x1e, 0x87, 0xe9, 0xce, 0x55, 0x28, 0xdf,
    0x8c, 0xa1, 0x89, 0x0d, 0xbf, 0xe6, 0x42, 0x68, 0x41, 0x99, 0x2d, 0x0f, 0xb0, 0x54, 0xbb, 0x16 ]

def subByte (byte : UInt8) : UInt8 := sbox.getD byte.toNat 0

def galoisMul2 (value : UInt8) : UInt8 := (value <<< 1) ^^^ ((value >>> 7) * 0x1b)

def nextRoundKey (rcon : UInt8) : List UInt8 → List UInt8
  | [k0, k1, k2, k3, k4, k5, k6, k7, k8, k9, k10, k11, k12, k13, k14, k15] =>
    let r0 := subByte k13 ^^^ k0 ^^^ rcon
    let r1 := subByte k14 ^^^ k1
    let r2 := subByte k15 ^^^ k2
    let r3 := subByte k12 ^^^ k3
    let r4 := k4 ^^^ r0
    let r5 := k5 ^^^ r1
    let r6 := k6 ^^^ r2
    let r7 := k7 ^^^ r3
    let r8 := k8 ^^^ r4
    let r9 := k9 ^^^ r5
    let r10 := k10 ^^^ r6
    let r11 := k11 ^^^ r7
    [r0, r1, r2, r3, r4, r5, r6, r7, r8, r9, r10, r11,
      k12 ^^^ r8, k13 ^^^ r9, k14 ^^^ r10, k15 ^^^ r11]
  | key => key

def shiftRow : List UInt8 → List UInt8
  | [s0, s1, s2, s3, s4, s5, s6, s7, s8, s9, s10, s11, s12, s13, s14, s15] =>
    [s0, s5, s10, s15, s4, s9, s14, s3, s8, s13, s2, s7, s12, s1, s6, s11]
  | state => state

def mixColumn : List UInt8 → List UInt8
  | a :: b :: c :: d :: rest =>
    let all := a ^^^ b ^^^ c ^^^ d
    (a ^^^ galoisMul2 (a ^^^ b) ^^^ all) :: (b ^^^ galoisMul2 (b ^^^ c) ^^^ all) ::
      (c ^^^ galoisMul2 (c ^^^ d) ^^^ all) :: (d ^^^ galoisMul2 (d ^^^ a) ^^^ all) :: mixColumn rest
  | state => state

def addRoundKey (state key : List UInt8) : List UInt8 := List.zipWith (· ^^^ ·) state key

/-- The rounds from one on, each under the key derived from the one before; the last round
leaves out the mixing of columns. -/
def encryptFrom : Nat → UInt8 → List UInt8 → List UInt8 → List UInt8
  | 0, _, _, state => state
  | left + 1, rcon, key, state =>
    let key := nextRoundKey rcon key
    let state := shiftRow (state.map subByte)
    encryptFrom left (galoisMul2 rcon) key
      (addRoundKey (if left = 0 then state else mixColumn state) key)

def encrypt (key block : List UInt8) : List UInt8 :=
  encryptFrom 10 1 key (addRoundKey block key)

/-- The example vector of the standard. -/
example : encrypt (List.range 16 |>.map UInt8.ofNat) (List.range 16 |>.map (UInt8.ofNat <| 17 * ·)) =
    [0x69, 0xc4, 0xe0, 0xd8, 0x6a, 0x7b, 0x04, 0x30, 0xd8, 0xcd, 0xb7, 0x80, 0x70, 0xb4, 0xc5, 0x5a] := by
  decide +kernel

theorem nextRoundKey_length (rcon : UInt8) (key : List UInt8) :
    (nextRoundKey rcon key).length = key.length := by
  unfold nextRoundKey
  split <;> rfl

theorem shiftRow_length (state : List UInt8) : (shiftRow state).length = state.length := by
  unfold shiftRow
  split <;> rfl

theorem mixColumn_length (state : List UInt8) : (mixColumn state).length = state.length := by
  fun_induction mixColumn state with
  | case1 a b c d rest all ih => simp [ih]
  | case2 state => rfl

theorem encryptFrom_length (left : Nat) : ∀ (rcon : UInt8) (key state : List UInt8),
    key.length = state.length → (encryptFrom left rcon key state).length = state.length := by
  induction left with
  | zero => intro rcon key state _; rfl
  | succ left ih =>
    intro rcon key state same
    have mixed : (addRoundKey (if left = 0 then shiftRow (state.map subByte)
        else mixColumn (shiftRow (state.map subByte))) (nextRoundKey rcon key)).length =
          state.length := by
      rw [addRoundKey, List.length_zipWith, nextRoundKey_length, same]
      split <;> simp [mixColumn_length, shiftRow_length]
    rw [encryptFrom]
    exact (ih _ _ _ (by rw [mixed, nextRoundKey_length, same])).trans mixed

def cipher : CcmStar.BlockCipher (Vector UInt8 16) where
  encrypt key block := encrypt key.toList block
  length_encrypt key block full := by
    have whitened : (addRoundKey block key.toList).length = CcmStar.blockSize := by
      simp [addRoundKey, full, CcmStar.blockSize]
    rw [encrypt, encryptFrom_length 10 1 _ _ (by simp [whitened, CcmStar.blockSize]), whitened]

end Aes128
