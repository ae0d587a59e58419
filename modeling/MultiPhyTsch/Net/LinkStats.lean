import MultiPhyTsch.Lib.Run
import MultiPhyTsch.Tsch.Types

/-! The link statistics (`link-stats.c`), where `int` has 32 bits. Beside its effect an operation
gives what it computes for variables of 8 and 16 bits, before the value is put into them. -/

namespace MultiPhyTsch.Stats

structure LinkStats where
  lastTxTime : UInt32
  etx : UInt16
  rssi : Int16
  freshness : UInt8
  txCount : UInt8
  ackCount : UInt8
deriving DecidableEq

structure Conf where
  etxFromPacketCount : Bool
  initEtxFromRssi : Bool
  clockSecond : UInt32

structure Assignment where
  value : Int
  low : Int
  high : Int

def Assignment.Fits (assignment : Assignment) : Prop :=
  assignment.low ≤ assignment.value ∧ assignment.value ≤ assignment.high

def inUInt8 (value : Nat) : Assignment := ⟨value, 0, 255⟩

def inUInt16 (value : Nat) : Assignment := ⟨value, 0, 65535⟩

def inUInt32 (value : Nat) : Assignment := ⟨value, 0, 4294967295⟩

def inInt16 (value : Int) : Assignment := ⟨value, -32768, 32767⟩

def inInt32 (value : Int) : Assignment := ⟨value, -2147483648, 2147483647⟩

def txCountMax : Nat := 32

def freshnessTarget : UInt8 := 4

def freshnessMax : Nat := 16

def ewmaScale : Nat := 100

def ewmaAlpha : Nat := 10

def ewmaBootstrapAlpha : Nat := 25

def etxDivisor : Nat := 128

def etxNoackPenalty : Nat := 12

def etxDefault : Nat := 2

def etxInitMax : Nat := 3

def rssiHigh : Int := -60

def rssiLow : Int := -90

def charged (status : MacTxStatus) (numtx : Nat) : Nat :=
  if status = .noack then numtx + etxNoackPenalty else numtx

def statsZero : LinkStats := ⟨0, 0, 0, 0, 0, 0⟩

namespace LinkStats

def isFresh (conf : Conf) (now : UInt32) (stats : LinkStats) : Bool :=
  now - stats.lastTxTime < 10 * 60 * conf.clockSecond && freshnessTarget ≤ stats.freshness

def rssiRatio (stats : LinkStats) : Nat :=
  ((rssiHigh - rssiLow) * etxDivisor / (max (min stats.rssi.toInt rssiHigh) (rssiLow + 1) -
    rssiLow)).toNat

def guessEtxFromRssi (stats : LinkStats) : UInt16 :=
  if stats.rssi = 0 then UInt16.ofNat (etxDefault * etxDivisor)
  else UInt16.ofNat (min (UInt16.ofNat stats.rssiRatio).toNat (etxInitMax * etxDivisor))

def initEtx (conf : Conf) (stats : LinkStats) : LinkStats × List Assignment :=
  if conf.initEtxFromRssi then
    ({ stats with etx := stats.guessEtxFromRssi }, [inUInt16 stats.rssiRatio])
  else ({ stats with etx := UInt16.ofNat (etxDefault * etxDivisor) }, [])

def updateCounts (acked : Bool) (numtx : Nat) (stats : LinkStats) :
    LinkStats × List Assignment :=
  let full := stats.txCount.toNat + numtx > txCountMax
  let txCount := if full then stats.txCount / 2 else stats.txCount
  let ackCount := if full then stats.ackCount / 2 else stats.ackCount
  let txSum := txCount.toNat + numtx
  let ackSum := ackCount.toNat + if acked then 1 else 0
  let stats := { stats with txCount := UInt8.ofNat txSum, ackCount := UInt8.ofNat ackSum }
  let etx :=
    if stats.ackCount > 0 then stats.txCount.toNat * etxDivisor / stats.ackCount.toNat
    else max etxNoackPenalty stats.txCount.toNat * etxDivisor
  ({ stats with etx := UInt16.ofNat etx },
    [inUInt8 txSum, inUInt8 ackSum, inUInt16 (stats.txCount.toNat * etxDivisor), inUInt16 etx])

def updateEwma (fresh : Bool) (numtx : Nat) (stats : LinkStats) : LinkStats × List Assignment :=
  let packetEtx := UInt16.ofNat (numtx * etxDivisor)
  let alpha := if fresh then ewmaAlpha else ewmaBootstrapAlpha
  let sum := stats.etx.toNat * (ewmaScale - alpha) + packetEtx.toNat * alpha
  let etx := (UInt32.ofNat sum).toNat / ewmaScale
  ({ stats with etx := UInt16.ofNat etx },
    [inUInt16 (numtx * etxDivisor), inUInt32 sum, inUInt16 etx])

/-- `link_stats_packet_sent` with the entry of the receiver. The clock is read again for the
freshness. -/
def packetSent (conf : Conf) (status : MacTxStatus) (numtx : Nat) (now later : UInt32)
    (stats : LinkStats) : LinkStats × List Assignment :=
  let freshness := min (stats.freshness.toNat + numtx) freshnessMax
  let stats := { stats with lastTxTime := now, freshness := UInt8.ofNat freshness }
  let numtx := charged status numtx
  let (stats, assignments) :=
    if conf.etxFromPacketCount then stats.updateCounts (status = .ok) numtx
    else stats.updateEwma (stats.isFresh conf later) numtx
  (stats, inUInt8 freshness :: assignments)

def updateRssi (packetRssi : Int16) (stats : LinkStats) : LinkStats × List Assignment :=
  let sum := stats.rssi.toInt * (ewmaScale - ewmaAlpha) + packetRssi.toInt * ewmaAlpha
  ({ stats with rssi := Int16.ofInt ((Int32.ofInt sum).toInt.tdiv ewmaScale) },
    [inInt32 sum, inInt16 ((Int32.ofInt sum).toInt.tdiv ewmaScale)])

end LinkStats

abbrev Table := LinkAddr → Option LinkStats

/-- The calls. An entry is added if there is room for it; one that has to make room for another, or
that `link_stats_reset` takes out, is removed. -/
inductive Call where
  | packetSent (lladdr : LinkAddr) (status : MacTxStatus) (numtx : Nat) (now later : UInt32)
      (room : Bool)
  | inputCallback (lladdr : LinkAddr) (packetRssi : Int16) (room : Bool)
  | periodic
  | remove (lladdr : LinkAddr)

namespace Table

def set (lladdr : LinkAddr) (result : LinkStats × List Assignment) (table : Table) :
    Table × List Assignment :=
  (Function.update table lladdr (some result.1), result.2)

def run (conf : Conf) (table : Table) : Call → Table × List Assignment
  | .packetSent lladdr status numtx now later room =>
    if status = .ok ∨ status = .noack then
      match table lladdr with
      | some stats => table.set lladdr (stats.packetSent conf status numtx now later)
      | none =>
        if room then
          let (stats, first) := statsZero.initEtx conf
          let (stats, assignments) := stats.packetSent conf status numtx now later
          table.set lladdr (stats, first ++ assignments)
        else (table, [])
    else (table, [])
  | .inputCallback lladdr packetRssi room =>
    match table lladdr with
    | some stats => table.set lladdr (stats.updateRssi packetRssi)
    | none =>
      if room then table.set lladdr ({ statsZero with rssi := packetRssi }.initEtx conf)
      else (table, [])
  | .periodic =>
    (fun lladdr => (table lladdr).map fun stats =>
      { stats with freshness := stats.freshness >>> 1 }, [])
  | .remove lladdr => (Function.update table lladdr none, [])

def step (conf : Conf) (table : Table) (call : Call) : Table := (table.run conf call).1

end Table

/-- The ETX is at least that of a perfect link, no more packets are acknowledged than sent, and the
freshness does not exceed its maximum. -/
structure LinkStats.InRange (stats : LinkStats) : Prop where
  etx : etxDivisor ≤ stats.etx.toNat
  acked : stats.ackCount ≤ stats.txCount
  freshness : stats.freshness.toNat ≤ freshnessMax

def Table.InRange (table : Table) : Prop :=
  ∀ lladdr stats, table lladdr = some stats → stats.InRange

def Table.Keeps (conf : Conf) (table : Table) (call : Call) : Prop :=
  (∀ assignment ∈ (table.run conf call).2, assignment.Fits) ∧ (table.step conf call).InRange

def Call.Valid : Call → Prop
  | .packetSent _ _ numtx _ _ _ => 1 ≤ numtx ∧ numtx ≤ 255
  | _ => True

def Table.CountFits (conf : Conf) (table : Table) : Call → Prop
  | .packetSent lladdr status numtx _ _ room =>
    conf.etxFromPacketCount = true →
      ((table lladdr).getD statsZero).txCount.toNat / 2 + charged status numtx ≤ 255 ∨
        status ≠ .ok ∧ status ≠ .noack ∨ table lladdr = none ∧ room = false
  | _ => True

section

variable {stats : LinkStats}

theorem inUInt8_fits (value : Nat) : (inUInt8 value).Fits ↔ value ≤ 255 := by
  unfold inUInt8 Assignment.Fits
  dsimp only
  omega

theorem inUInt16_fits (value : Nat) : (inUInt16 value).Fits ↔ value ≤ 65535 := by
  unfold inUInt16 Assignment.Fits
  dsimp only
  omega

theorem inUInt32_fits (value : Nat) : (inUInt32 value).Fits ↔ value ≤ 4294967295 := by
  unfold inUInt32 Assignment.Fits
  dsimp only
  omega

theorem rssiRatio_bounds (stats : LinkStats) :
    etxDivisor ≤ stats.rssiRatio ∧ stats.rssiRatio ≤ 3840 := by
  unfold LinkStats.rssiRatio rssiHigh rssiLow etxDivisor
  generalize stats.rssi.toInt = rssi
  have low : 1 ≤ max (min rssi (-60)) (-90 + 1) - -90 := by omega
  have high : max (min rssi (-60)) (-90 + 1) - -90 ≤ 30 := by omega
  generalize max (min rssi (-60)) (-90 + 1) - -90 = range at low high ⊢
  have least : (-60 - -90) * (128 : Nat) / range ≥ 128 := by
    rw [ge_iff_le, Int.le_ediv_iff_mul_le (by omega)]
    omega
  have most : (-60 - -90) * (128 : Nat) / range ≤ 3840 :=
    Int.ediv_le_self range (by decide)
  omega

theorem guessEtxFromRssi_bound (stats : LinkStats) :
    etxDivisor ≤ stats.guessEtxFromRssi.toNat := by
  unfold LinkStats.guessEtxFromRssi
  split
  · decide
  · obtain ⟨low, high⟩ := rssiRatio_bounds stats
    have fits : (UInt16.ofNat stats.rssiRatio).toNat = stats.rssiRatio :=
      UInt16.toNat_ofNat_of_lt (by change _ < 65536; omega)
    have capped : (UInt16.ofNat (min stats.rssiRatio (etxInitMax * etxDivisor))).toNat =
        min stats.rssiRatio (etxInitMax * etxDivisor) :=
      UInt16.toNat_ofNat_of_lt (by change min stats.rssiRatio 384 < 65536; omega)
    rw [fits, capped]
    exact Nat.le_min.mpr ⟨low, by decide⟩

theorem initEtx_spec (conf : Conf) (stats : LinkStats) :
    (∃ etx, (stats.initEtx conf).1 = { stats with etx := etx } ∧ etxDivisor ≤ etx.toNat) ∧
      ∀ assignment ∈ (stats.initEtx conf).2, assignment.Fits := by
  unfold LinkStats.initEtx
  split
  · refine ⟨⟨_, rfl, guessEtxFromRssi_bound stats⟩, ?_⟩
    intro assignment member
    obtain rfl := List.mem_singleton.mp member
    obtain ⟨-, high⟩ := rssiRatio_bounds stats
    exact (inUInt16_fits _).mpr (by omega)
  · exact ⟨⟨_, rfl, by decide⟩, fun _ absent => absurd absent List.not_mem_nil⟩

variable {numtx : Nat}

theorem updateEwma_spec (stats : LinkStats) (fresh : Bool) (some : 1 ≤ numtx)
    (few : numtx ≤ 267) (least : etxDivisor ≤ stats.etx.toNat) :
    (∃ etx, (stats.updateEwma fresh numtx).1 = { stats with etx := etx } ∧
        etxDivisor ≤ etx.toNat) ∧
      ∀ assignment ∈ (stats.updateEwma fresh numtx).2, assignment.Fits := by
  have packet : (UInt16.ofNat (numtx * etxDivisor)).toNat = numtx * 128 :=
    UInt16.toNat_ofNat_of_lt (by change numtx * 128 < 65536; omega)
  obtain ⟨alpha, chosen, within⟩ : ∃ alpha, (if fresh then ewmaAlpha else ewmaBootstrapAlpha) =
      alpha ∧ alpha ≤ 25 := by
    cases fresh
    · exact ⟨25, rfl, by decide⟩
    · exact ⟨10, rfl, by decide⟩
  have top := stats.etx.toNat_lt
  have old : 128 * (100 - alpha) ≤ stats.etx.toNat * (100 - alpha) ∧
      stats.etx.toNat * (100 - alpha) ≤ 65535 * (100 - alpha) :=
    ⟨Nat.mul_le_mul_right _ least, Nat.mul_le_mul_right _ (by omega)⟩
  have new : 128 * alpha ≤ numtx * 128 * alpha ∧ numtx * 128 * alpha ≤ 34176 * alpha :=
    ⟨Nat.mul_le_mul_right _ (by omega), Nat.mul_le_mul_right _ (by omega)⟩
  unfold LinkStats.updateEwma
  rw [chosen]
  dsimp only
  rw [packet, show ewmaScale = 100 from rfl]
  generalize stats.etx.toNat * (100 - alpha) = first at old ⊢
  generalize numtx * 128 * alpha = second at new ⊢
  have sum : (UInt32.ofNat (first + second)).toNat = first + second :=
    UInt32.toNat_ofNat_of_lt (by change _ < 4294967296; omega)
  have mean : 128 ≤ (first + second) / 100 ∧ (first + second) / 100 ≤ 65535 := by omega
  rw [sum]
  refine ⟨⟨_, rfl, ?_⟩, ?_⟩
  · have etx : (UInt16.ofNat ((first + second) / 100)).toNat = (first + second) / 100 :=
      UInt16.toNat_ofNat_of_lt (by change (first + second) / 100 < 65536; omega)
    rw [etx]
    exact mean.1
  · simp only [List.forall_mem_cons, inUInt16_fits, inUInt32_fits]
    refine ⟨?_, ?_, mean.2, fun _ absent => absurd absent List.not_mem_nil⟩
    · change numtx * 128 ≤ 65535
      omega
    · omega

theorem countEtx_bounds {txCount ackCount : UInt8} (counted : ackCount ≤ txCount) :
    etxDivisor ≤ (if ackCount > 0 then txCount.toNat * etxDivisor / ackCount.toNat
        else max etxNoackPenalty txCount.toNat * etxDivisor) ∧
      (if ackCount > 0 then txCount.toNat * etxDivisor / ackCount.toNat
        else max etxNoackPenalty txCount.toNat * etxDivisor) ≤ 32640 := by
  have counted := UInt8.le_iff_toNat_le.mp counted
  have top := txCount.toNat_lt
  unfold etxDivisor etxNoackPenalty
  split
  next some =>
    have some : 0 < ackCount.toNat := UInt8.lt_iff_toNat_lt.mp some
    constructor
    · rw [Nat.le_div_iff_mul_le some, Nat.mul_comm]
      exact Nat.mul_le_mul_right _ counted
    · exact Nat.le_trans (Nat.div_le_self _ _) (by omega)
  next => omega

theorem updateCounts_spec (stats : LinkStats) (acked : Bool) (some : 1 ≤ numtx)
    (fits : stats.txCount.toNat / 2 + numtx ≤ 255) (counted : stats.ackCount ≤ stats.txCount) :
    (∃ etx txCount ackCount, (stats.updateCounts acked numtx).1 =
        { stats with etx := etx, txCount := txCount, ackCount := ackCount } ∧
      etxDivisor ≤ etx.toNat ∧ ackCount ≤ txCount) ∧
      ∀ assignment ∈ (stats.updateCounts acked numtx).2, assignment.Fits := by
  have counted := UInt8.le_iff_toNat_le.mp counted
  -- the counters that the transmissions are added to
  obtain ⟨txCount, ackCount, tx, ack, room, fewer⟩ : ∃ txCount ackCount : UInt8,
      (if stats.txCount.toNat + numtx > txCountMax then stats.txCount / 2 else stats.txCount) =
        txCount ∧
      (if stats.txCount.toNat + numtx > txCountMax then stats.ackCount / 2 else stats.ackCount) =
        ackCount ∧ txCount.toNat + numtx ≤ 255 ∧ ackCount.toNat ≤ txCount.toNat := by
    refine ⟨_, _, rfl, rfl, ?_⟩
    by_cases full : stats.txCount.toNat + numtx > txCountMax
    · rw [if_pos full, if_pos full, UInt8.toNat_div, UInt8.toNat_div]
      exact ⟨fits, Nat.div_le_div_right counted⟩
    · rw [if_neg full, if_neg full]
      unfold txCountMax at full
      exact ⟨by omega, counted⟩
  have one : (if acked then 1 else 0) ≤ numtx := by
    cases acked
    · exact Nat.zero_le _
    · exact some
  unfold LinkStats.updateCounts
  simp only [tx, ack]
  generalize (if acked then 1 else 0) = count at one ⊢
  have txSum : (UInt8.ofNat (txCount.toNat + numtx)).toNat = txCount.toNat + numtx :=
    UInt8.toNat_ofNat_of_lt (by change _ < 256; omega)
  have ackSum : (UInt8.ofNat (ackCount.toNat + count)).toNat = ackCount.toNat + count :=
    UInt8.toNat_ofNat_of_lt (by change _ < 256; omega)
  have ordered : UInt8.ofNat (ackCount.toNat + count) ≤ UInt8.ofNat (txCount.toNat + numtx) := by
    rw [UInt8.le_iff_toNat_le, txSum, ackSum]
    omega
  obtain ⟨low, high⟩ := countEtx_bounds ordered
  refine ⟨⟨_, _, _, rfl, ?_, ordered⟩, ?_⟩
  · rw [UInt16.toNat_ofNat_of_lt' (by change _ < 65536; omega)]
    exact low
  · simp only [List.forall_mem_cons, inUInt8_fits, inUInt16_fits]
    refine ⟨by omega, by omega, ?_, by omega, fun _ absent => absurd absent List.not_mem_nil⟩
    rw [txSum]
    unfold etxDivisor
    omega

theorem charged_bounds (status : MacTxStatus) (some : 1 ≤ numtx)
    (few : numtx ≤ 255) : 1 ≤ charged status numtx ∧ charged status numtx ≤ 267 := by
  unfold charged etxNoackPenalty
  split
  · omega
  · omega

theorem packetSent_spec (stats : LinkStats) (conf : Conf) (status : MacTxStatus)
    (now later : UInt32) (some : 1 ≤ numtx) (few : numtx ≤ 255) (inRange : stats.InRange)
    (fits : conf.etxFromPacketCount = true →
      stats.txCount.toNat / 2 + charged status numtx ≤ 255) :
    (stats.packetSent conf status numtx now later).1.InRange ∧
      ∀ assignment ∈ (stats.packetSent conf status numtx now later).2, assignment.Fits := by
  have capped : min (stats.freshness.toNat + numtx) freshnessMax ≤ 16 := Nat.min_le_right _ _
  have bounds := charged_bounds status some few
  unfold LinkStats.packetSent
  dsimp only
  generalize min (stats.freshness.toNat + numtx) freshnessMax = freshness at capped ⊢
  generalize charged status numtx = count at bounds fits ⊢
  have stored : (UInt8.ofNat freshness).toNat = freshness :=
    UInt8.toNat_ofNat_of_lt (by change _ < 256; omega)
  have fresh : (UInt8.ofNat freshness).toNat ≤ freshnessMax := by
    rw [stored]
    exact capped
  by_cases counting : conf.etxFromPacketCount = true
  · obtain ⟨⟨etx, txCount, ackCount, same, least, ordered⟩, rest⟩ :=
      updateCounts_spec
        { stats with lastTxTime := now, freshness := UInt8.ofNat freshness } (status = .ok)
        bounds.1 (fits counting) inRange.acked
    rw [if_pos counting, same]
    refine ⟨⟨least, ordered, fresh⟩, List.forall_mem_cons.mpr ⟨?_, rest⟩⟩
    exact (inUInt8_fits freshness).mpr (by omega)
  · obtain ⟨⟨etx, same, least⟩, rest⟩ := updateEwma_spec
        { stats with lastTxTime := now, freshness := UInt8.ofNat freshness }
        (LinkStats.isFresh conf later
          { stats with lastTxTime := now, freshness := UInt8.ofNat freshness })
        bounds.1 bounds.2 inRange.etx
    rw [if_neg counting, same]
    refine ⟨⟨least, inRange.acked, fresh⟩, List.forall_mem_cons.mpr ⟨?_, rest⟩⟩
    exact (inUInt8_fits freshness).mpr (by omega)

theorem packetSent_wraps {conf : Conf} {status : MacTxStatus} (now later : UInt32)
    (counting : conf.etxFromPacketCount = true)
    (large : 255 < stats.txCount.toNat / 2 + charged status numtx) :
    ¬ ∀ assignment ∈ (stats.packetSent conf status numtx now later).2, assignment.Fits := by
  intro fits
  unfold LinkStats.packetSent at fits
  dsimp only at fits
  rw [if_pos counting] at fits
  generalize charged status numtx = count at large fits
  have full : stats.txCount.toNat + count > txCountMax := by
    unfold txCountMax
    omega
  have sum := (List.forall_mem_cons.mp (List.forall_mem_cons.mp fits).2).1
  rw [inUInt8_fits, if_pos full, UInt8.toNat_div] at sum
  exact absurd sum (Nat.not_le.mpr large)

theorem updateRssi_fits (stats : LinkStats) (packetRssi : Int16) :
    ∀ assignment ∈ (stats.updateRssi packetRssi).2, assignment.Fits := by
  have low := stats.rssi.le_toInt
  have high := stats.rssi.toInt_lt
  have low' := packetRssi.le_toInt
  have high' := packetRssi.toInt_lt
  have sum : -3276800 ≤ stats.rssi.toInt * (ewmaScale - ewmaAlpha) + packetRssi.toInt * ewmaAlpha ∧
      stats.rssi.toInt * (ewmaScale - ewmaAlpha) + packetRssi.toInt * ewmaAlpha ≤ 3276700 := by
    unfold ewmaScale ewmaAlpha
    omega
  unfold LinkStats.updateRssi
  dsimp only
  generalize stats.rssi.toInt * (ewmaScale - ewmaAlpha) + packetRssi.toInt * ewmaAlpha = total
    at sum ⊢
  have stored : (Int32.ofInt total).toInt = total :=
    Int32.toInt_ofInt_of_le (by omega) (by omega)
  rw [stored]
  simp only [List.forall_mem_cons, inInt32, inInt16, Assignment.Fits]
  have mean : -32768 ≤ total.tdiv 100 ∧ total.tdiv 100 ≤ 32767 := by
    rcases Int.le_total 0 total with positive | negative
    · rw [Int.tdiv_eq_ediv_of_nonneg positive]
      omega
    · rw [← Int.neg_neg total, Int.neg_tdiv, Int.tdiv_eq_ediv_of_nonneg (by omega)]
      omega
  exact ⟨by omega, mean, fun _ absent => absurd absent List.not_mem_nil⟩

theorem updateRssi_inRange (packetRssi : Int16) (inRange : stats.InRange) :
    (stats.updateRssi packetRssi).1.InRange :=
  ⟨inRange.etx, inRange.acked, inRange.freshness⟩

theorem halved_inRange (inRange : stats.InRange) :
    LinkStats.InRange { stats with freshness := stats.freshness >>> 1 } := by
  refine ⟨inRange.etx, inRange.acked, ?_⟩
  have half : (stats.freshness >>> 1).toNat = stats.freshness.toNat / 2 := by
    rw [UInt8.toNat_shiftRight]
    exact Nat.shiftRight_succ _ 0
  have fresh := inRange.freshness
  dsimp only
  omega

theorem initEtx_inRange (conf : Conf) (rssi : Int16) :
    ({ statsZero with rssi := rssi }.initEtx conf).1.InRange ∧
      ∀ assignment ∈ ({ statsZero with rssi := rssi }.initEtx conf).2, assignment.Fits := by
  obtain ⟨⟨etx, same, least⟩, fits⟩ := initEtx_spec conf { statsZero with rssi := rssi }
  rw [same]
  exact ⟨⟨least, UInt8.le_refl _, Nat.zero_le _⟩, fits⟩

end

theorem Table.set_keeps {table : Table} {lladdr : LinkAddr} {result : LinkStats × List Assignment}
    (inRange : table.InRange) (entry : result.1.InRange)
    (fits : ∀ assignment ∈ result.2, assignment.Fits) :
    (∀ assignment ∈ (table.set lladdr result).2, assignment.Fits) ∧
      (table.set lladdr result).1.InRange := by
  refine ⟨fits, ?_⟩
  intro other stats found
  by_cases same : other = lladdr
  · rw [same] at found
    obtain rfl := Option.some.inj ((Function.update_self lladdr _ table).symm.trans found)
    exact entry
  · exact inRange other stats ((Function.update_of_ne same _ table).symm.trans found)

theorem Table.packetSent_keeps {conf : Conf} {table : Table} {lladdr : LinkAddr}
    {status : MacTxStatus} {numtx : Nat} (now later : UInt32) (room : Bool)
    (inRange : table.InRange) (some : 1 ≤ numtx) (few : numtx ≤ 255)
    (counted : table.CountFits conf (.packetSent lladdr status numtx now later room)) :
    table.Keeps conf (.packetSent lladdr status numtx now later room) := by
  unfold Table.Keeps Table.step Table.run
  dsimp only
  split
  next known =>
    have other : ¬ (status ≠ .ok ∧ status ≠ .noack) := fun neither =>
      known.elim neither.1 neither.2
    split
    next stats found =>
      obtain ⟨entry, fits⟩ := packetSent_spec stats conf status now later some few
        (inRange lladdr stats found) fun counting => by
          have counted := counted counting
          rw [found] at counted
          rcases counted with fits | neither | ⟨absent, -⟩
          · exact fits
          · exact absurd neither other
          · exact nomatch absent
      exact Table.set_keeps inRange entry fits
    next absent =>
      split
      next space =>
        obtain ⟨fresh, first⟩ := initEtx_inRange conf 0
        obtain ⟨⟨etx, same, -⟩, -⟩ := initEtx_spec conf statsZero
        obtain ⟨entry, fits⟩ := packetSent_spec (statsZero.initEtx conf).1 conf status now later
          some few fresh fun counting => by
            have counted := counted counting
            rw [absent] at counted
            rw [same]
            rcases counted with fits | neither | ⟨-, full⟩
            · exact fits
            · exact absurd neither other
            · exact absurd (space.symm.trans full) Bool.noConfusion
        refine Table.set_keeps inRange entry ?_
        intro assignment member
        rcases List.mem_append.mp member with early | late
        · exact first assignment early
        · exact fits assignment late
      next => exact ⟨fun _ none => absurd none List.not_mem_nil, inRange⟩
  next => exact ⟨fun _ none => absurd none List.not_mem_nil, inRange⟩

theorem Table.keeps_iff {conf : Conf} {table : Table} {call : Call} (inRange : table.InRange)
    (valid : call.Valid) : table.Keeps conf call ↔ table.CountFits conf call := by
  cases call with
  | packetSent lladdr status numtx now later room =>
    refine ⟨?_, Table.packetSent_keeps now later room inRange valid.1 valid.2⟩
    rintro ⟨fits, -⟩ counting
    by_contra failing
    obtain ⟨large, known, placed⟩ := (not_or.trans (and_congr_right fun _ => not_or)).mp failing
    have status : status = .ok ∨ status = .noack := by
      by_contra neither
      exact known (not_or.mp neither)
    unfold Table.run at fits
    dsimp only at fits
    rw [if_pos status] at fits
    cases found : table lladdr with
    | some stats =>
      rw [found] at fits large
      exact packetSent_wraps now later counting (Nat.not_le.mp large) fits
    | none =>
      have space : room = true := by
        cases room
        · exact absurd ⟨found, rfl⟩ placed
        · rfl
      obtain ⟨⟨etx, same, -⟩, -⟩ := initEtx_spec conf statsZero
      rw [found] at fits large
      dsimp only at fits
      rw [if_pos space] at fits
      refine packetSent_wraps now later counting ?_ fun assignment member =>
        fits assignment (List.mem_append_right _ member)
      rw [same]
      exact Nat.not_le.mp large
  | inputCallback lladdr packetRssi room =>
    refine iff_of_true ?_ trivial
    unfold Table.Keeps Table.step Table.run
    dsimp only
    split
    next stats found =>
      exact Table.set_keeps inRange (updateRssi_inRange packetRssi (inRange lladdr stats found))
        (updateRssi_fits stats packetRssi)
    next =>
      split
      next =>
        obtain ⟨entry, fits⟩ := initEtx_inRange conf packetRssi
        exact Table.set_keeps inRange entry fits
      next => exact ⟨fun _ none => absurd none List.not_mem_nil, inRange⟩
  | periodic =>
    refine iff_of_true ⟨fun _ none => absurd none List.not_mem_nil, ?_⟩ trivial
    intro lladdr stats found
    obtain ⟨before, known, rfl⟩ := Option.map_eq_some_iff.mp found
    exact halved_inRange (inRange lladdr before known)
  | remove lladdr =>
    refine iff_of_true ⟨fun _ none => absurd none List.not_mem_nil, ?_⟩ trivial
    intro other stats found
    change Function.update table lladdr none other = some stats at found
    by_cases same : other = lladdr
    · rw [same, Function.update_self] at found
      exact nomatch found
    · rw [Function.update_of_ne same] at found
      exact inRange other stats found

/-- Along every run from the empty table nothing overflows and the statistics stay in range if and
only if every count fits; where the ETX is a moving average all of them do. -/
theorem linkStats_inRange_iff (conf : Conf) (calls : List Call)
    (valid : ∀ call ∈ calls, call.Valid) :
    Run.Meets (Table.step conf) (Table.Keeps conf) (fun _ => none) calls ↔
      Run.Meets (Table.step conf) (Table.CountFits conf) (fun _ => none) calls := by
  apply Run.meets_iff_meets Table.InRange _ _ calls _ _ (Run.meets_of_mem calls _ valid)
  · intro table call inRange valid counted
    exact ((Table.keeps_iff inRange valid).mpr counted).2
  · exact fun table call inRange valid => Table.keeps_iff inRange valid
  · exact fun lladdr stats none => nomatch none

def countingConf : Conf := ⟨true, true, 128⟩

def neighborAddr : LinkAddr := Vector.replicate 8 1

theorem linkStats_inRange_two :
    Run.Meets (Table.step countingConf) (Table.Keeps countingConf) (fun _ => none)
      [.packetSent neighborAddr .ok 2 0 0 true, .packetSent neighborAddr .noack 7 5 5 true] := by
  refine (linkStats_inRange_iff countingConf _ ?_).mpr ⟨?_, ?_, trivial⟩
  · simp [Call.Valid]
  · exact fun _ => Or.inl (by decide)
  · exact fun _ => Or.inl (by decide)

theorem linkStats_count_wraps :
    ¬ Run.Meets (Table.step countingConf) (Table.Keeps countingConf) (fun _ => none)
      [.packetSent neighborAddr .ok 2 0 0 true, .packetSent neighborAddr .ok 255 5 5 true] := by
  rintro ⟨⟨-, inRange⟩, second, -⟩
  have valid : (Call.packetSent neighborAddr .ok 255 5 5 true).Valid := ⟨by decide, by decide⟩
  rcases (Table.keeps_iff inRange valid).mp second rfl with fits | neither | ⟨absent, -⟩
  · exact absurd fits (by decide)
  · exact absurd rfl neither.1
  · exact absurd absent (by decide)

end MultiPhyTsch.Stats
