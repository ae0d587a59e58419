import MultiPhyTsch.Coap.ParseMessage

/-! `coap_block1_handler`: the blocks of a request are copied into a buffer at the offset that the
Block1 option of each says. -/

namespace MultiPhyTsch.Coap

structure Block1Request where
  block1 : CoapBlock
  hasBlock1 : Bool
  payload : List UInt8
  short : payload.length < 2 ^ 16

/-- `copied` is what `memcpy` writes, by its index in the buffer, and `len` what `*len` is set to. -/
structure Block1Result where
  ret : Int
  statusCode : Option UInt8
  errorMessage : Option String
  response : Option (UInt32 × UInt8 × UInt16)
  copied : Option (Nat × List UInt8)
  len : Option Nat
deriving DecidableEq, Repr

def badRequest400 : UInt8 := 128
def requestEntityTooLarge413 : UInt8 := 141
def continue231 : UInt8 := 95

def coapSetHeaderBlock1 (num : UInt32) (more : UInt8) (size : UInt16) :
    Option (UInt32 × UInt8 × UInt16) :=
  if size < 16 ∨ size > 2048 ∨ num > 0x0FFFFF then none else some (num, more, size)

def Block1Request.reach (request : Block1Request) : Nat :=
  (request.block1.offset.toNat + request.payload.length) % 2 ^ 32

/-- `buffer` says whether there are a target and a place for the length. -/
def coapBlock1Handler (buffer : Bool) (maxLen : Nat) (request : Block1Request) : Block1Result :=
  if request.payload = [] then ⟨-1, some badRequest400, some "NoPayload", none, none, none⟩
  else if request.reach > maxLen then
    ⟨-1, some requestEntityTooLarge413, some "Message to big", none, none, none⟩
  else
    let copied := if buffer then some (request.block1.offset.toNat, request.payload) else none
    let len := if buffer then some request.reach else none
    if request.hasBlock1 then
      let response := coapSetHeaderBlock1 request.block1.num request.block1.more request.block1.size
      if request.block1.more ≠ 0 then ⟨1, some continue231, none, response, copied, len⟩
      else ⟨0, none, none, response, copied, len⟩
    else ⟨0, none, none, none, copied, len⟩

def Block1Request.Wraps (request : Block1Request) (maxLen : Nat) : Prop :=
  request.reach ≤ maxLen ∧ maxLen < request.block1.offset.toNat + request.payload.length

def Block1Result.Inside (result : Block1Result) (maxLen : Nat) : Prop :=
  (∀ copy ∈ result.copied, copy.1 + copy.2.length ≤ maxLen) ∧ ∀ len ∈ result.len, len ≤ maxLen

structure Assembly where
  target : Nat → UInt8
  len : Nat

def Assembly.receive (assembly : Assembly) (result : Block1Result) : Assembly where
  target index := (result.copied.bind fun copy =>
    if copy.1 ≤ index then copy.2[index - copy.1]? else none).getD (assembly.target index)
  len := result.len.getD assembly.len

section

variable (szx : Fin 8) (payload : List UInt8)

def blockSize : Nat := 16 * 2 ^ szx.val

def blockOption (k : Nat) : UInt32 :=
  UInt32.ofNat (16 * k + 8 * (decide ((k + 1) * blockSize szx < payload.length)).toNat + szx)

def blockRequest (k : Nat) : Block1Request where
  block1 := coapBlock (blockOption szx payload k)
  hasBlock1 := true
  payload := (payload.drop (k * blockSize szx)).take (blockSize szx)
  short := by
    have small : 2 ^ szx.val ≤ 2 ^ 7 := Nat.pow_le_pow_right (by omega) (by omega)
    rw [List.length_take, blockSize]
    omega

def sendBlocks (maxLen : Nat) (assembly : Assembly) : Nat → Assembly
  | 0 => assembly
  | k + 1 => (sendBlocks maxLen assembly k).receive
    (coapBlock1Handler true maxLen (blockRequest szx payload k))

def blockCount : Nat := (payload.length + blockSize szx - 1) / blockSize szx

end

def Assembly.Complete (assembly : Assembly) (payload : List UInt8) : Prop :=
  (∀ index < payload.length, payload[index]? = some (assembly.target index)) ∧
    assembly.len = payload.length

theorem and_blockMask {num : Nat} (bound : num < 2 ^ 32) :
    num &&& 4294967280 = num / 16 * 16 := by
  apply Nat.eq_of_testBit_eq
  intro i
  rw [Nat.testBit_and, show 4294967280 = (2 ^ 28 - 1) * 2 ^ 4 from rfl,
    show num / 16 * 16 = num / 2 ^ 4 * 2 ^ 4 from rfl, Nat.testBit_mul_two_pow,
    Nat.testBit_mul_two_pow, Nat.testBit_two_pow_sub_one, Nat.testBit_div_two_pow]
  by_cases high : 4 ≤ i
  · rw [Nat.sub_add_cancel high]
    by_cases inside : i - 4 < 28
    · simp [high, inside]
    · rw [Nat.testBit_lt_two_pow (Nat.lt_of_lt_of_le bound (Nat.pow_le_pow_right (by omega)
        (show 32 ≤ i by omega)))]
      simp
  · simp [high]

theorem coapBlock_offset (num : UInt32) : (coapBlock num).offset.toNat =
    num.toNat / 16 * 16 * 2 ^ (num.toNat % 8) % 2 ^ 32 := by
  have low : (num &&& 0x07).toNat = num.toNat % 8 := by
    rw [UInt32.toNat_and]
    exact Nat.and_two_pow_sub_one_eq_mod _ 3
  have high : (num &&& ~~~ 0x0000000f).toNat = num.toNat / 16 * 16 := by
    rw [UInt32.toNat_and]
    exact and_blockMask num.toNat_lt
  rw [coapBlock, UInt32.toNat_shiftLeft, low, high, Nat.shiftLeft_eq,
    Nat.mod_eq_of_lt (show num.toNat % 8 < 32 by omega)]

theorem handler_accepted {request : Block1Request} {maxLen : Nat} (buffer : Bool)
    (accepted : request.payload ≠ [] ∧ request.reach ≤ maxLen) :
    (coapBlock1Handler buffer maxLen request).copied =
        (if buffer then some (request.block1.offset.toNat, request.payload) else none) ∧
      (coapBlock1Handler buffer maxLen request).len =
        if buffer then some request.reach else none := by
  unfold coapBlock1Handler
  rw [if_neg accepted.1, if_neg (Nat.not_lt.mpr accepted.2)]
  by_cases option : request.hasBlock1 = true
  · by_cases more : request.block1.more ≠ 0
    · simp only [if_pos option, if_pos more]
      exact ⟨trivial, trivial⟩
    · simp only [if_pos option, if_neg more]
      exact ⟨trivial, trivial⟩
  · simp only [if_neg option]
    exact ⟨trivial, trivial⟩

theorem handler_refused {request : Block1Request} {maxLen : Nat} (buffer : Bool)
    (refused : ¬ (request.payload ≠ [] ∧ request.reach ≤ maxLen)) :
    (coapBlock1Handler buffer maxLen request).copied = none ∧
      (coapBlock1Handler buffer maxLen request).len = none := by
  unfold coapBlock1Handler
  by_cases empty : request.payload = []
  · rw [if_pos empty]
    exact ⟨rfl, rfl⟩
  · rw [if_neg empty, if_pos (Nat.not_le.mp fun fits => refused ⟨empty, fits⟩)]
    exact ⟨rfl, rfl⟩

theorem inside_iff (request : Block1Request) (maxLen : Nat) :
    (∀ buffer, (coapBlock1Handler buffer maxLen request).Inside maxLen) ↔
      ¬ (request.payload ≠ [] ∧ request.Wraps maxLen) := by
  constructor
  · rintro inside ⟨some, fits, outside⟩
    have copied := (handler_accepted true ⟨some, fits⟩).1
    exact absurd ((inside true).1 _ copied) (Nat.not_le.mpr outside)
  · intro narrow buffer
    rw [Block1Result.Inside]
    by_cases accepted : request.payload ≠ [] ∧ request.reach ≤ maxLen
    · obtain ⟨copied, len⟩ := handler_accepted buffer accepted
      rw [copied, len]
      cases buffer with
      | false => exact ⟨nofun, nofun⟩
      | true =>
        refine ⟨?_, ?_⟩
        · rintro _ ⟨⟩
          exact Nat.not_lt.mp fun outside => narrow ⟨accepted.1, accepted.2, outside⟩
        · rintro _ ⟨⟩
          exact accepted.2
    · obtain ⟨copied, len⟩ := handler_refused buffer accepted
      rw [copied, len]
      exact ⟨nofun, nofun⟩

theorem narrow_of_three_bytes {request : Block1Request} {num : UInt32}
    (parsed : request.block1 = coapBlock num) (three : num.toNat < 2 ^ 24) (maxLen : Nat) :
    ¬ request.Wraps maxLen := by
  rintro ⟨fits, outside⟩
  have power : 2 ^ (num.toNat % 8) ≤ 2 ^ 7 := Nat.pow_le_pow_right (by omega) (by omega)
  have bound : num.toNat / 16 * 16 * 2 ^ (num.toNat % 8) ≤ 2 ^ 24 * 2 ^ 7 :=
    Nat.mul_le_mul (by omega) power
  have offset := coapBlock_offset num
  have short := request.short
  rw [← parsed] at offset
  rw [Block1Request.reach] at fits
  omega

section

variable {szx : Fin 8} {payload : List UInt8} {k maxLen : Nat}

theorem blockSize_pos (szx : Fin 8) : 0 < blockSize szx := Nat.mul_pos (by omega) (Nat.two_pow_pos _)

theorem blockRequest_offset (within : k * blockSize szx < 2 ^ 32) :
    (blockRequest szx payload k).block1.offset.toNat = k * blockSize szx := by
  have exponent := szx.isLt
  have less : 16 * k ≤ k * blockSize szx := by
    rw [blockSize, Nat.mul_comm 16 k]
    exact Nat.mul_le_mul_left k (Nat.le_mul_of_pos_right 16 (Nat.two_pow_pos _))
  have more := Bool.toNat_le (decide ((k + 1) * blockSize szx < payload.length))
  have option : (blockOption szx payload k).toNat =
      16 * k + 8 * (decide ((k + 1) * blockSize szx < payload.length)).toNat + szx := by
    rw [blockOption, UInt32.toNat_ofNat']
    exact Nat.mod_eq_of_lt (by omega)
  have number : (blockOption szx payload k).toNat / 16 = k := by omega
  have size : (blockOption szx payload k).toNat % 8 = szx := by omega
  rw [blockRequest, coapBlock_offset, number, size, Nat.mul_assoc]
  exact Nat.mod_eq_of_lt within

theorem blockRequest_accepted (more : k * blockSize szx < payload.length) (small : payload.length < 2 ^ 32) :
    (blockRequest szx payload k).payload ≠ [] ∧
      (blockRequest szx payload k).reach = min ((k + 1) * blockSize szx) payload.length := by
  have positive := blockSize_pos szx
  have length : (blockRequest szx payload k).payload.length =
      min (blockSize szx) (payload.length - k * blockSize szx) := by
    rw [blockRequest, List.length_take, List.length_drop]
  have next : (k + 1) * blockSize szx = k * blockSize szx + blockSize szx := Nat.succ_mul _ _
  refine ⟨List.ne_nil_of_length_pos (by omega), ?_⟩
  rw [Block1Request.reach, blockRequest_offset (by omega), length, next]
  omega

/-- After `k` blocks the buffer holds what they carried. -/
theorem sendBlocks_held (assembly : Assembly) (fits : payload.length ≤ maxLen)
    (small : payload.length < 2 ^ 32) (sent : (k - 1) * blockSize szx < payload.length) :
    (∀ index < payload.length, index < k * blockSize szx →
      payload[index]? = some ((sendBlocks szx payload maxLen assembly k).target index)) ∧
    (0 < k → (sendBlocks szx payload maxLen assembly k).len =
      min (k * blockSize szx) payload.length) := by
  induction k with
  | zero => exact ⟨fun _ _ early => absurd early (by omega), fun none => absurd none (by omega)⟩
  | succ k ih =>
    rw [Nat.add_sub_cancel] at sent
    obtain ⟨earlier, _⟩ := ih (Nat.lt_of_le_of_lt (Nat.mul_le_mul_right _ (Nat.sub_le k 1)) sent)
    obtain ⟨some, reach⟩ := blockRequest_accepted sent small
    obtain ⟨copied, len⟩ := handler_accepted true ⟨some, (by omega : _ ≤ maxLen)⟩
    rw [if_pos rfl, blockRequest_offset (by omega)] at copied
    rw [if_pos rfl] at len
    rw [sendBlocks, Assembly.receive, copied, len, reach]
    refine ⟨fun index within behind => ?_, fun _ => rfl⟩
    simp only [Option.bind_some, blockRequest]
    by_cases new : k * blockSize szx ≤ index
    · have next : (k + 1) * blockSize szx = k * blockSize szx + blockSize szx := Nat.succ_mul _ _
      rw [if_pos new, List.getElem?_take_of_lt (by omega), List.getElem?_drop,
        Nat.add_sub_cancel' new, List.getElem?_eq_getElem within]
      rfl
    · rw [if_neg new]
      exact earlier index within (Nat.not_le.mp new)

theorem sendBlocks_len_lt (fits : payload.length ≤ maxLen) (some : payload ≠ [])
    (assembly : Assembly) : (sendBlocks szx payload maxLen assembly (k + 1)).len < 2 ^ 32 := by
  have positive := blockSize_pos szx
  have length := List.length_pos_iff.mpr some
  induction k with
  | zero =>
    have offset : (blockRequest szx payload 0).block1.offset.toNat = 0 :=
      (blockRequest_offset (by omega)).trans (Nat.zero_mul _)
    have first : (blockRequest szx payload 0).payload.length = min (blockSize szx) payload.length := by
      rw [blockRequest, List.length_take, Nat.zero_mul, List.drop_zero]
    have fits : (blockRequest szx payload 0).reach ≤ maxLen := by
      rw [Block1Request.reach]
      omega
    have len := (handler_accepted true ⟨List.ne_nil_of_length_pos (by omega), fits⟩).2
    rw [sendBlocks, Assembly.receive, len]
    exact Nat.mod_lt _ (by omega)
  | succ k ih =>
    rw [sendBlocks, Assembly.receive]
    by_cases accepted : (blockRequest szx payload (k + 1)).payload ≠ [] ∧
        (blockRequest szx payload (k + 1)).reach ≤ maxLen
    · rw [(handler_accepted true accepted).2]
      exact Nat.mod_lt _ (by omega)
    · rw [(handler_refused true accepted).2]
      exact ih

/-- The handler stays in the buffer unless the offset and the length of the payload wrap around, which
no option of three bytes brings about, and assembles every payload shorter than 2 ^ 32. -/
theorem block1_assembly_iff (maxLen : Nat) :
    (∀ request, (∀ buffer, (coapBlock1Handler buffer maxLen request).Inside maxLen) ↔
      ¬ (request.payload ≠ [] ∧ request.Wraps maxLen)) ∧
    (∀ (request : Block1Request) num, request.block1 = coapBlock num → num.toNat < 2 ^ 24 →
      ¬ request.Wraps maxLen) ∧
    ∀ szx payload assembly, payload ≠ [] → payload.length ≤ maxLen →
      ((sendBlocks szx payload maxLen assembly (blockCount szx payload)).Complete payload ↔
        payload.length < 2 ^ 32) := by
  refine ⟨fun request => inside_iff request maxLen,
    fun _ _ parsed three => narrow_of_three_bytes parsed three maxLen,
    fun szx payload assembly some fits => ?_⟩
  have positive := blockSize_pos szx
  have length := List.length_pos_iff.mpr some
  obtain ⟨last, count⟩ : ∃ last, blockCount szx payload = last + 1 :=
    Nat.exists_eq_succ_of_ne_zero (Nat.div_pos (by omega) positive).ne'
  have floor := Nat.div_mul_le_self (payload.length + blockSize szx - 1) (blockSize szx)
  have ceil := Nat.lt_div_mul_add positive (a := payload.length + blockSize szx - 1)
  rw [← blockCount, count, Nat.succ_mul] at floor ceil
  rw [count]
  constructor
  · intro complete
    exact complete.2 ▸ sendBlocks_len_lt fits some assembly
  · intro small
    obtain ⟨held, len⟩ := sendBlocks_held assembly fits small
      (show (last + 1 - 1) * blockSize szx < payload.length by rw [Nat.add_sub_cancel]; omega)
    rw [Nat.succ_mul] at held len
    exact ⟨fun index within => held index within (by omega), (len (by omega)).trans (by omega)⟩

end

def wrappingRequest : Block1Request := ⟨coapBlock 0xfffffff0, true, List.replicate 32 0, by decide⟩

theorem wrapping_copied : ¬ ∀ request maxLen,
    (∃ num, request.block1 = coapBlock num) → (coapBlock1Handler true maxLen request).Inside maxLen :=
  fun inside => absurd ((inside wrappingRequest 64 ⟨_, rfl⟩).1 (0xfffffff0, List.replicate 32 0) rfl)
    (by decide)

end MultiPhyTsch.Coap
