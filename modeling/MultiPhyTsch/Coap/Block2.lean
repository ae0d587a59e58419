import Mathlib.Algebra.GroupWithZero.Nat
import MultiPhyTsch.Coap.Block1

/-! How `coap_receive` answers a GET in blocks. A payload is a part of the representation of the
resource, which is said by where it starts and how long it is. -/

namespace MultiPhyTsch.Coap

/-- `COAP_MAX_CHUNK_SIZE`, and the exponent of `COAP_MAX_BLOCK_SIZE`. -/
structure ChunkConf where
  maxChunkSize : Fin (2 ^ 16)
  exponent : Fin 8
  fits : blockSize exponent ≤ maxChunkSize

def ChunkConf.maxBlockSize (conf : ChunkConf) : Nat := blockSize conf.exponent

/-- The handler sets the whole representation as payload, or, `blockwise`, fills the buffer from
the given offset on. The offset is an `int32_t`. -/
structure Resource where
  representation : List UInt8
  blockwise : Bool
  short : representation.length < 2 ^ 31

structure Part where
  start : Nat
  len : Nat
deriving DecidableEq, Repr

def Part.bytes (part : Part) (representation : List UInt8) : List UInt8 :=
  (representation.drop part.start).take part.len

/-- `error` is the text that is sent instead of a payload. -/
structure GetResponse where
  code : UInt8
  error : Option String
  payload : Part
  block2 : Option (UInt32 × Bool × Nat)
deriving DecidableEq, Repr

def content205 : UInt8 := 69
def badOption402 : UInt8 := 130

def outOfScope : GetResponse := ⟨badOption402, some "BlockOutOfScope", ⟨0, 0⟩, none⟩

def coapSetHeaderBlock2 (num : UInt32) (more : Bool) (size : Nat) : Option (UInt32 × Bool × Nat) :=
  if size < 16 ∨ size > 2048 ∨ num > 0x0FFFFF then none else some (num, more, size)

section

variable (conf : ChunkConf) (resource : Resource)

/-- What can be had of the resource: a payload is cut off behind a chunk. -/
def Resource.size : Nat :=
  if resource.blockwise then resource.representation.length
  else min conf.maxChunkSize resource.representation.length

/-- The payload that the handler sets and the offset that it leaves. -/
def Resource.handle (bufferSize offset : Nat) : Part × Int :=
  if resource.blockwise then
    let len := min bufferSize (resource.size conf - offset)
    (⟨offset, len⟩, if offset + bufferSize < resource.size conf then offset + len else -1)
  else (⟨0, resource.size conf⟩, offset)

/-- A GET, with the Block2 option of the request if there is one. -/
def Resource.coapReceive : Option CoapBlock → GetResponse
  | some block2 =>
    let blockSize := min block2.size.toNat conf.maxBlockSize
    let blockOffset := block2.offset.toNat
    if 2 ^ 31 ≤ blockOffset then outOfScope
    else
      let (payload, newOffset) := resource.handle conf blockSize blockOffset
      if newOffset = blockOffset then
        if payload.len ≤ blockOffset then outOfScope
        else
          ⟨content205, none,
            ⟨payload.start + blockOffset, min (payload.len - blockOffset) blockSize⟩,
            coapSetHeaderBlock2 block2.num (payload.len - blockOffset > blockSize) blockSize⟩
      else
        ⟨content205, none, ⟨payload.start, min payload.len blockSize⟩,
          coapSetHeaderBlock2 block2.num (newOffset ≠ -1 ∨ payload.len > blockSize) blockSize⟩
  | none =>
    let (payload, newOffset) := resource.handle conf conf.maxBlockSize 0
    if newOffset ≠ 0 then
      ⟨content205, none, ⟨payload.start, min payload.len conf.maxBlockSize⟩,
        coapSetHeaderBlock2 0 (newOffset ≠ -1) conf.maxBlockSize⟩
    else ⟨content205, none, payload, none⟩

/-- A block is where its number and size say, full if there are more, and there are more if data of
the representation, of `length` bytes, remains behind it. -/
def GetResponse.Consistent (response : GetResponse) (length : Nat) : Prop :=
  ∀ block ∈ response.block2,
    (0 < response.payload.len → block.1.toNat * block.2.2 = response.payload.start) ∧
    (block.2.1 = true → response.payload.len = block.2.2) ∧
    (block.2.1 = true ↔ response.payload.start + response.payload.len < length)

def Resource.Uncut : Prop :=
  resource.blockwise = true ∨ resource.representation.length ≤ conf.maxChunkSize

/-- There is no such block; or the size asked for is not above the maximum, unless the number does
not depend on it, and the block does not end where the representation is cut off. -/
def BlockKept (block2 : CoapBlock) : Prop :=
  block2.num > 0x0FFFFF ∨ resource.size conf ≤ block2.offset.toNat ∨
    (block2.num = 0 ∨ block2.size.toNat ≤ conf.maxBlockSize) ∧
      (resource.Uncut conf ∨
        block2.offset.toNat + min block2.size.toNat conf.maxBlockSize < resource.size conf)

end

variable {conf : ChunkConf} {resource : Resource}

theorem maxBlockSize_bounds (conf : ChunkConf) :
    16 ≤ conf.maxBlockSize ∧ conf.maxBlockSize ≤ 2048 := by
  have low := Nat.one_le_two_pow (n := conf.exponent.val)
  have high : 2 ^ conf.exponent.val ≤ 2 ^ 7 := Nat.pow_le_pow_right (by omega) (by omega)
  rw [ChunkConf.maxBlockSize, blockSize]
  omega

theorem Resource.size_le : resource.size conf ≤ resource.representation.length := by
  rw [Resource.size]
  split <;> omega

theorem Resource.uncut_iff :
    resource.Uncut conf ↔ resource.size conf = resource.representation.length := by
  rw [Resource.Uncut, Resource.size]
  split
  next blockwise => exact iff_of_true (.inl blockwise) rfl
  next whole =>
    rw [or_iff_right whole]
    omega

theorem consistent_part (code : UInt8) (error : Option String) (num : UInt32)
    (start : Nat) {total length size : Nat} (sized : 16 ≤ size ∧ size ≤ 2048)
    (cut : total ≤ length) (inside : start < total ∨ total = length) :
    (GetResponse.mk code error ⟨start, min (total - start) size⟩
      (coapSetHeaderBlock2 num (start + size < total) size)).Consistent length ↔
    num > 0x0FFFFF ∨ total ≤ start ∨
      num.toNat * size = start ∧ (total = length ∨ start + size < total) := by
  unfold coapSetHeaderBlock2
  by_cases big : num > 0x0FFFFF
  · rw [if_pos (.inr (.inr big))]
    exact iff_of_true nofun (.inl big)
  have set : ¬ (size < 16 ∨ size > 2048 ∨ num > 0x0FFFFF) := by
    rintro (low | high | wide)
    · omega
    · omega
    · exact big wide
  rw [if_neg set, GetResponse.Consistent]
  constructor
  · intro consistent
    by_cases beyond : total ≤ start
    · exact .inr (.inl beyond)
    · obtain ⟨place, -, more⟩ := consistent _ rfl
      simp only [decide_eq_true_eq] at place more
      exact .inr (.inr ⟨place (by omega), by omega⟩)
  · rintro place _ ⟨⟩
    have kept := place.resolve_left big
    simp only [decide_eq_true_eq]
    refine ⟨fun some => ?_, ?_, ?_⟩
    · exact (kept.resolve_left (by omega)).1
    · omega
    · omega

theorem coapBlock_num (value : UInt32) : (coapBlock value).num.toNat = value.toNat / 16 := by
  rw [coapBlock, UInt32.toNat_shiftRight]
  exact Nat.shiftRight_eq_div_pow _ 4

theorem coapBlock_size (value : UInt32) :
    (coapBlock value).size.toNat = 16 * 2 ^ (value.toNat % 8) := by
  have low : (value &&& 0x07).toNat = value.toNat % 8 := by
    rw [UInt32.toNat_and]
    exact Nat.and_two_pow_sub_one_eq_mod _ 3
  have high : 2 ^ (value.toNat % 8) ≤ 2 ^ 7 := Nat.pow_le_pow_right (by omega) (by omega)
  rw [coapBlock, UInt16.toNat_ofNat', low, Nat.shiftLeft_eq]
  exact Nat.mod_eq_of_lt (by omega)

theorem coapBlock_offset_of_num {value : UInt32} (inside : (coapBlock value).num.toNat < 2 ^ 20) :
    (coapBlock value).offset.toNat = (coapBlock value).num.toNat * (coapBlock value).size.toNat ∧
      (coapBlock value).offset.toNat < 2 ^ 31 := by
  have high : 2 ^ (value.toNat % 8) ≤ 2 ^ 7 := Nat.pow_le_pow_right (by omega) (by omega)
  have bound := Nat.mul_le_mul (Nat.le_sub_one_of_lt inside) (Nat.mul_le_mul_left 16 high)
  rw [← coapBlock_size] at bound
  rw [coapBlock_offset, Nat.mul_assoc, ← coapBlock_size, ← coapBlock_num]
  omega

theorem coapReceive_some {block2 : CoapBlock} (positive : 0 < block2.size.toNat) :
    resource.coapReceive conf (some block2) =
      if 2 ^ 31 ≤ block2.offset.toNat ∨
          resource.blockwise = false ∧ resource.size conf ≤ block2.offset.toNat then outOfScope
      else
        ⟨content205, none,
          ⟨block2.offset.toNat, min (resource.size conf - block2.offset.toNat)
            (min block2.size.toNat conf.maxBlockSize)⟩,
          coapSetHeaderBlock2 block2.num
            (block2.offset.toNat + min block2.size.toNat conf.maxBlockSize < resource.size conf)
            (min block2.size.toNat conf.maxBlockSize)⟩ := by
  have bounds := maxBlockSize_bounds conf
  simp only [Resource.coapReceive]
  generalize sized : min block2.size.toNat conf.maxBlockSize = size
  have some : 0 < size := by omega
  generalize block2.offset.toNat = offset
  by_cases far : 2 ^ 31 ≤ offset
  · rw [if_pos far, if_pos (.inl far)]
  rw [if_neg far]
  cases kind : resource.blockwise with
  | false =>
    simp only [Resource.handle, kind, Bool.false_eq_true, if_false, if_true, true_and, Nat.zero_add]
    by_cases beyond : resource.size conf ≤ offset
    · rw [if_pos beyond, if_pos (.inr beyond)]
    · rw [if_neg beyond, if_neg (by omega)]
      have remains : resource.size conf - offset > size ↔ offset + size < resource.size conf := by
        omega
      simp only [remains]
  | true =>
    simp only [Resource.handle, kind, if_true, Bool.true_eq_false, false_and, or_false]
    rw [if_neg far]
    by_cases more : offset + size < resource.size conf
    · have len : min size (resource.size conf - offset) = size := by omega
      have len' : min (resource.size conf - offset) size = size := by omega
      have advanced : ¬ ((offset : Int) + size = offset) ∧ ¬ (offset : Int) + size = -1 := by omega
      simp [more, len, len', advanced.1, advanced.2]
    · have len : min size (resource.size conf - offset) = resource.size conf - offset := by omega
      have len' : min (resource.size conf - offset) size = resource.size conf - offset := by omega
      have ended : ¬ (-1 : Int) = offset ∧ ¬ resource.size conf - offset > size := by omega
      simp [more, len, len', ended.1, ended.2]

theorem consistent_iff (value : UInt32) :
    (resource.coapReceive conf (some (coapBlock value))).Consistent
        resource.representation.length ↔
      BlockKept conf resource (coapBlock value) := by
  have sized := coapBlock_size value
  have positive := Nat.one_le_two_pow (n := value.toNat % 8)
  have high : 2 ^ (value.toNat % 8) ≤ 2 ^ 7 := Nat.pow_le_pow_right (by omega) (by omega)
  have bounds := maxBlockSize_bounds conf
  have placed := @coapBlock_offset_of_num value
  rw [coapReceive_some (by omega), BlockKept]
  generalize coapBlock value = block2 at *
  have few : block2.num > 0x0FFFFF ∨ block2.num.toNat < 2 ^ 20 := by
    rw [gt_iff_lt, UInt32.lt_iff_toNat_lt]
    simp only [UInt32.reduceToNat]
    omega
  by_cases out : 2 ^ 31 ≤ block2.offset.toNat ∨
      resource.blockwise = false ∧ resource.size conf ≤ block2.offset.toNat
  · rw [if_pos out]
    refine iff_of_true nofun ?_
    rcases out with far | beyond
    · exact .inl (few.resolve_right fun small =>
        absurd (placed small).2 (Nat.not_lt.mpr far))
    · exact .inr (.inl beyond.2)
  have inside : block2.offset.toNat < resource.size conf ∨
      resource.size conf = resource.representation.length := by
    rw [← Resource.uncut_iff, Resource.Uncut]
    by_cases blockwise : resource.blockwise = true
    · exact .inr (.inl blockwise)
    · exact .inl (Nat.lt_of_not_le fun beyond => out (.inr ⟨by simpa using blockwise, beyond⟩))
  rw [if_neg out, consistent_part _ _ _ _ (by omega) Resource.size_le inside, Resource.uncut_iff]
  rcases few with big | small
  · exact iff_of_true (.inl big) (.inl big)
  have same : block2.num.toNat * min block2.size.toNat conf.maxBlockSize = block2.offset.toNat ↔
      block2.num = 0 ∨ block2.size.toNat ≤ conf.maxBlockSize := by
    rw [(placed small).1, mul_eq_mul_left_iff, min_eq_left_iff, or_comm]
    exact or_congr_left (@UInt32.toNat_inj _ 0)
  rw [same]

theorem consistent_whole :
    (resource.coapReceive conf none).Consistent resource.representation.length := by
  have bounds := maxBlockSize_bounds conf
  simp only [Resource.coapReceive]
  cases kind : resource.blockwise with
  | false =>
    simp only [Resource.handle, kind, Bool.false_eq_true, if_false]
    exact nofun
  | true =>
    have whole : resource.size conf = resource.representation.length := if_pos kind
    have part := (consistent_part content205 none 0 0 bounds Resource.size_le (.inr whole)).mpr
      (.inr (.inr ⟨Nat.zero_mul _, .inl whole⟩))
    by_cases more : conf.maxBlockSize < resource.size conf
    · have len : min conf.maxBlockSize (resource.size conf) = conf.maxBlockSize := by omega
      have len' : min (resource.size conf) conf.maxBlockSize = conf.maxBlockSize := by omega
      have advanced : ¬ conf.maxBlockSize = 0 ∧ ¬ (conf.maxBlockSize : Int) = -1 := by omega
      simpa [Resource.handle, kind, more, len, len', advanced.1, advanced.2] using part
    · have len : min conf.maxBlockSize (resource.size conf) = resource.size conf := by omega
      have len' : min (resource.size conf) conf.maxBlockSize = resource.size conf := by omega
      simpa [Resource.handle, kind, more, len, len'] using part

section

variable (szx : Fin 8)

/-- The Block2 option of a client that asks for block after block. -/
def requestOption (k : Nat) : UInt32 := UInt32.ofNat (16 * k + szx)

theorem requested_part (k : Nat) (fits : blockSize szx ≤ conf.maxBlockSize) (few : k < 2 ^ 20) :
    (resource.coapReceive conf (some (coapBlock (requestOption szx k)))).payload.bytes
        resource.representation =
      (resource.representation.drop (k * blockSize szx)).take
        (min (resource.size conf - k * blockSize szx) (blockSize szx)) := by
  have exponent := szx.isLt
  have value : (requestOption szx k).toNat = 16 * k + szx := by
    rw [requestOption, UInt32.toNat_ofNat']
    exact Nat.mod_eq_of_lt (by omega)
  have num : (coapBlock (requestOption szx k)).num.toNat = k := by
    rw [coapBlock_num, value]
    omega
  have size : (coapBlock (requestOption szx k)).size.toNat = blockSize szx := by
    have low : (16 * k + szx) % 8 = szx := by omega
    rw [coapBlock_size, value, low, blockSize]
  obtain ⟨offset, near⟩ := coapBlock_offset_of_num (num ▸ few)
  rw [num, size] at offset
  rw [coapReceive_some (size ▸ blockSize_pos szx), offset, size, Nat.min_eq_left fits]
  split
  · have none : resource.size conf - k * blockSize szx = 0 := by omega
    rw [none, Nat.zero_min, List.take_zero]
    exact List.take_zero
  · rfl

theorem blocks_of_requests (fits : blockSize szx ≤ conf.maxBlockSize) (count : Nat)
    (few : count ≤ 2 ^ 20) :
    (List.range count).flatMap (fun k => (resource.coapReceive conf
        (some (coapBlock (requestOption szx k)))).payload.bytes resource.representation) =
      resource.representation.take (min (count * blockSize szx) (resource.size conf)) := by
  induction count with
  | zero => simp
  | succ count ih =>
    have earlier := ih (by omega)
    rw [List.range_succ, List.flatMap_append, earlier, List.flatMap_singleton, Nat.succ_mul,
      requested_part szx count fits (by omega)]
    by_cases sent : count * blockSize szx < resource.size conf
    · rw [Nat.min_eq_left (by omega), ← List.take_add]
      congr 1
      omega
    · have none : resource.size conf - count * blockSize szx = 0 := by omega
      rw [none, Nat.zero_min, List.take_zero, List.append_nil]
      congr 1
      omega

end

/-- A response to a GET with Block2 is consistent unless the size asked for is cut down while the
number stays or the representation is cut off, and the blocks of a size that is not cut down add up
to the representation as far as it is not cut off. -/
theorem block2_consistent_iff (conf : ChunkConf) (resource : Resource) :
    (∀ value, (resource.coapReceive conf (some (coapBlock value))).Consistent
        resource.representation.length ↔ BlockKept conf resource (coapBlock value)) ∧
      (resource.coapReceive conf none).Consistent resource.representation.length ∧
      ∀ (szx : Fin 8) count, blockSize szx ≤ conf.maxBlockSize → count ≤ 2 ^ 20 →
        ((List.range count).flatMap (fun k => (resource.coapReceive conf
              (some (coapBlock (requestOption szx k)))).payload.bytes resource.representation) =
            resource.representation.take (count * blockSize szx) ↔
          resource.Uncut conf ∨ count * blockSize szx ≤ conf.maxChunkSize) := by
  refine ⟨consistent_iff, consistent_whole, fun szx count fits few => ?_⟩
  rw [blocks_of_requests szx fits count few, List.take_eq_take_iff, Resource.Uncut, Resource.size]
  cases resource.blockwise with
  | true => simp
  | false =>
    simp only [Bool.false_eq_true, if_false, false_or]
    omega

theorem larger_block_misnumbered : ¬ ∀ conf (resource : Resource) value,
    (resource.coapReceive conf (some (coapBlock value))).Consistent
      resource.representation.length := by
  intro consistent
  have wrong := (consistent ⟨64, 2, by decide⟩
    ⟨List.replicate 2000 0, true, by rw [List.length_replicate]; omega⟩ 22)
  rw [consistent_iff, BlockKept, Resource.size] at wrong
  simp only [Resource.Uncut, if_true, List.length_replicate] at wrong
  exact absurd wrong (by decide)

end MultiPhyTsch.Coap
