import MultiPhyTsch.Coffee.LogTable

/-! What the searches of a log table find. The forward one goes on after it has found a free record,
and the backward one keeps the index in 16 bits with a sign. -/

namespace MultiPhyTsch.Coffee

structure LogTable where
  conf : CoffeeConf
  flash : Memory UInt8
  logPage : Nat
  logRecords : UInt16
  usedFirst : ∀ index later, index ≤ later → later < logRecords.toNat →
    readIndex flash (absoluteOffset conf logPage (2 * index)) = 0 →
      readIndex flash (absoluteOffset conf logPage (2 * later)) = 0

namespace LogTable

variable (table : LogTable)

def entry (index : Nat) : UInt16 :=
  readIndex table.flash (absoluteOffset table.conf table.logPage (2 * index))

def FirstFree (result : Int) : Prop :=
  ∃ index ≤ table.logRecords.toNat, result = index ∧ (∀ used < index, table.entry used ≠ 0) ∧
    (index < table.logRecords.toNat → table.entry index = 0)

/-- The last of the entries before `searchRecords` that name the region, or -1. -/
def LastNaming (searchRecords region : UInt16) (result : Int) : Prop :=
  (∃ index < searchRecords.toNat, result = index ∧ Names region (table.entry index) ∧
    ∀ later, index < later → later < searchRecords.toNat → ¬ Names region (table.entry later)) ∨
  (result = -1 ∧ ∀ index < searchRecords.toNat, ¬ Names region (table.entry index))

structure SearchContract (searchRecords region : UInt16) : Prop where
  next : ∀ recordCount : Int, recordCount < 0 → ∃ result,
    findNextRecord table.conf table.flash table.logPage recordCount table.logRecords =
      some result ∧ table.FirstFree result
  last : ∃ result,
    getRecordIndex table.conf table.flash table.logPage searchRecords region = some result ∧
      table.LastNaming searchRecords region result

def preferred : Nat := min table.logRecords.toNat table.conf.logTableLimit

def lastBatch : Nat := (table.logRecords.toNat - 1) / table.preferred * table.preferred

def FreeInLastBatch : Prop :=
  table.logRecords.toNat ≤ table.conf.logTableLimit ∨
    (∃ index < table.logRecords.toNat, table.entry index = 0) ∧
      ∀ index < table.lastBatch, table.entry index ≠ 0

def IndexFits (searchRecords region : UInt16) : Prop :=
  ∀ index < searchRecords.toNat, Names region (table.entry index) →
    (∀ later, index < later → later < searchRecords.toNat → ¬ Names region (table.entry later)) →
    index < 32768

end LogTable

theorem freeInBatch_spec (indices : List UInt16) (processed : Nat) : ∀ logRecord,
    (∃ index, ∃ bound : index < indices.length, indices[index] = 0 ∧
      (∀ earlier, ∀ inside : earlier < index, indices[earlier] ≠ 0) ∧
      freeInBatch processed logRecord indices = logRecord + index + processed) ∨
    (∀ index, ∀ bound : index < indices.length, indices[index] ≠ 0) ∧
      freeInBatch processed logRecord indices = logRecord + indices.length := by
  induction indices with
  | nil =>
    intro logRecord
    exact .inr ⟨fun index bound => absurd bound (Nat.not_lt_zero index), rfl⟩
  | cons first rest ih =>
    intro logRecord
    unfold freeInBatch
    by_cases free : first = 0
    · rw [if_pos free]
      refine .inl ⟨0, by simp, free, fun earlier inside => absurd inside (Nat.not_lt_zero _), ?_⟩
      rw [Nat.add_zero]
    · rw [if_neg free]
      rcases ih (logRecord + 1) with ⟨index, bound, zero, used, found⟩ | ⟨used, none⟩
      · refine .inl ⟨index + 1, by simpa using bound, by simpa using zero, ?_, by omega⟩
        intro earlier inside
        cases earlier with
        | zero => simpa using free
        | succ earlier => simpa using used earlier (by omega)
      · refine .inr ⟨?_, by simp only [List.length_cons]; omega⟩
        intro index bound
        cases index with
        | zero => simpa using free
        | succ index => simpa using used index (by simpa using bound)

namespace LogTable

variable {table : LogTable}

def batch (table : LogTable) (processed count : Nat) : List UInt16 :=
  readIndices table.flash (absoluteOffset table.conf table.logPage (processed * 2)) count

@[simp] theorem batch_length (processed count : Nat) :
    (table.batch processed count).length = count := by
  simp [batch, readIndices]

theorem batch_getElem {processed count index : Nat}
    (bound : index < (table.batch processed count).length) :
    (table.batch processed count)[index] = table.entry (processed + index) := by
  have place : absoluteOffset table.conf table.logPage (processed * 2) + 2 * index =
      absoluteOffset table.conf table.logPage (2 * (processed + index)) := by
    unfold absoluteOffset
    omega
  simp only [batch, readIndices, List.getElem_map, List.getElem_range, entry, place]

theorem freeInBatch_entries (processed count : Nat) :
    (∃ index < count, table.entry (processed + index) = 0 ∧
      (∀ earlier < index, table.entry (processed + earlier) ≠ 0) ∧
      freeInBatch processed 0 (table.batch processed count) = processed + index) ∨
    (∀ index < count, table.entry (processed + index) ≠ 0) ∧
      freeInBatch processed 0 (table.batch processed count) = count := by
  rcases freeInBatch_spec (table.batch processed count) processed 0 with
    ⟨index, bound, zero, used, found⟩ | ⟨used, none⟩
  · have inside : index < count := by simpa using bound
    refine .inl ⟨index, inside, by rwa [batch_getElem] at zero, ?_, by omega⟩
    intro earlier before
    have nonzero := used earlier before
    rwa [batch_getElem] at nonzero
  · refine .inr ⟨?_, by simpa using none⟩
    intro index inside
    have nonzero := used index (by simpa using inside)
    rwa [batch_getElem] at nonzero

theorem freeSearch_final (fuel : Nat) : ∀ processed logRecord : Nat,
    processed < table.logRecords.toNat → table.logRecords.toNat - processed < fuel →
    ∀ last, last = processed +
      (table.logRecords.toNat - processed - 1) / table.preferred * table.preferred →
    Loop.final (FreeSearch.step table.conf table.flash table.logPage table.logRecords.toNat) fuel
      ⟨processed, logRecord⟩ = some ⟨table.logRecords.toNat,
        freeInBatch last 0 (table.batch last (table.logRecords.toNat - last))⟩ := by
  induction fuel with
  | zero => exact fun _ _ _ rounds => absurd rounds (Nat.not_lt_zero _)
  | succ fuel ih =>
    intro processed logRecord more rounds last lastStart
    have nonempty : 0 < table.preferred := by
      have limit := table.conf.someTable
      unfold preferred
      omega
    have stepped : FreeSearch.step table.conf table.flash table.logPage table.logRecords.toNat
        ⟨processed, logRecord⟩ = some
          ⟨processed + min (table.logRecords.toNat - processed) table.preferred,
            freeInBatch processed 0 (table.batch processed
              (min (table.logRecords.toNat - processed) table.preferred))⟩ := by
      unfold FreeSearch.step
      dsimp only
      rw [if_pos more]
      rfl
    rw [Loop.final_of_step stepped]
    by_cases lastOne : table.logRecords.toNat - processed ≤ table.preferred
    · have here : last = processed := by
        have none : (table.logRecords.toNat - processed - 1) / table.preferred = 0 :=
          Nat.div_eq_of_lt (by omega)
        rw [lastStart, none, Nat.zero_mul, Nat.add_zero]
      have size : min (table.logRecords.toNat - processed) table.preferred =
          table.logRecords.toNat - processed := Nat.min_eq_left lastOne
      have all : processed + (table.logRecords.toNat - processed) = table.logRecords.toNat := by
        omega
      obtain ⟨rest, rfl⟩ : ∃ rest, fuel = rest + 1 := ⟨fuel - 1, by omega⟩
      rw [here, size, all]
      apply Loop.final_of_left
      unfold FreeSearch.step
      dsimp only
      rw [if_neg (Nat.lt_irrefl _)]
    · have size : min (table.logRecords.toNat - processed) table.preferred = table.preferred :=
        Nat.min_eq_right (by omega)
      have ahead : table.logRecords.toNat - processed - 1 =
          table.logRecords.toNat - (processed + table.preferred) - 1 + table.preferred := by omega
      rw [ahead, Nat.add_div_right _ nonempty, Nat.succ_mul] at lastStart
      rw [size]
      exact ih (processed + table.preferred) _ (by omega) (by omega) last (by omega)

theorem findNextRecord_eq {recordCount : Int} (unknown : recordCount < 0) :
    findNextRecord table.conf table.flash table.logPage recordCount table.logRecords =
      some (freeInBatch table.lastBatch 0
        (table.batch table.lastBatch (table.logRecords.toNat - table.lastBatch)) : Nat) := by
  unfold findNextRecord
  rw [if_neg (by omega)]
  by_cases empty : table.logRecords.toNat = 0
  · have left : FreeSearch.step table.conf table.flash table.logPage table.logRecords.toNat
        ⟨0, table.logRecords.toNat⟩ = none := by
      unfold FreeSearch.step
      dsimp only
      rw [if_neg (by omega)]
    have start : table.lastBatch = 0 := by
      unfold lastBatch preferred
      rw [empty, Nat.zero_min, Nat.mul_zero]
    rw [Loop.final_of_left left, start, empty]
    rfl
  · rw [freeSearch_final (table.logRecords.toNat + 1) 0 _ (by omega) (by omega) table.lastBatch]
    · rfl
    · rw [lastBatch, Nat.zero_add, Nat.sub_zero]

theorem lastBatch_lt (some : table.logRecords.toNat ≠ 0) :
    table.lastBatch < table.logRecords.toNat := by
  have within := Nat.div_mul_le_self (table.logRecords.toNat - 1) table.preferred
  unfold lastBatch
  omega

theorem lastBatch_eq_zero_iff :
    table.lastBatch = 0 ↔ table.logRecords.toNat ≤ table.conf.logTableLimit := by
  have limit := table.conf.someTable
  unfold lastBatch preferred
  constructor
  · intro start
    by_contra larger
    rw [Nat.min_eq_right (by omega)] at start
    have once : 1 ≤ (table.logRecords.toNat - 1) / table.conf.logTableLimit :=
      (Nat.one_le_div_iff limit).mpr (by omega)
    have batch := Nat.le_mul_of_pos_left table.conf.logTableLimit once
    omega
  · intro fits
    rw [Nat.min_eq_left fits]
    by_cases empty : table.logRecords.toNat = 0
    · rw [empty, Nat.mul_zero]
    · rw [Nat.div_eq_of_lt (by omega), Nat.zero_mul]

theorem next_iff :
    (∀ recordCount : Int, recordCount < 0 → ∃ result,
      findNextRecord table.conf table.flash table.logPage recordCount table.logRecords =
        some result ∧ table.FirstFree result) ↔ table.FreeInLastBatch := by
  have single := @lastBatch_eq_zero_iff table
  have found : (∀ recordCount : Int, recordCount < 0 → ∃ result,
      findNextRecord table.conf table.flash table.logPage recordCount table.logRecords =
        some result ∧ table.FirstFree result) ↔
      table.FirstFree (freeInBatch table.lastBatch 0
        (table.batch table.lastBatch (table.logRecords.toNat - table.lastBatch)) : Nat) := by
    constructor
    · intro all
      obtain ⟨result, returned, free⟩ := all (-1) (by decide)
      rw [findNextRecord_eq (by decide)] at returned
      rwa [Option.some.inj returned]
    · exact fun free recordCount unknown => ⟨_, findNextRecord_eq unknown, free⟩
  rw [found]
  unfold FirstFree FreeInLastBatch
  rcases @freeInBatch_entries table table.lastBatch (table.logRecords.toNat - table.lastBatch) with
    ⟨index, inside, zero, used, free⟩ | ⟨used, full⟩
  · rw [free]
    constructor
    · rintro ⟨first, within, same, before, -⟩
      obtain rfl : table.lastBatch + index = first := by exact_mod_cast same
      exact .inr ⟨⟨table.lastBatch + index, by omega, zero⟩,
        fun earlier ahead => before earlier (by omega)⟩
    · intro last
      refine ⟨table.lastBatch + index, by omega, rfl, ?_, fun _ => zero⟩
      intro earlier before
      by_cases inBatch : table.lastBatch ≤ earlier
      · obtain ⟨offset, rfl⟩ := Nat.exists_eq_add_of_le inBatch
        exact used offset (by omega)
      · rcases last with one | ⟨-, usedBefore⟩
        · have start := single.mpr one
          omega
        · exact usedBefore earlier (by omega)
  · rw [full]
    -- A free entry anywhere would make those of the last batch free.
    have allUsed : ∀ index < table.logRecords.toNat, table.entry index ≠ 0 := by
      intro index inside zero
      have last := @lastBatch_lt table (by omega)
      have end' := table.usedFirst index (table.logRecords.toNat - 1) (by omega) (by omega) zero
      refine used (table.logRecords.toNat - 1 - table.lastBatch) (by omega) ?_
      rw [show table.lastBatch + (table.logRecords.toNat - 1 - table.lastBatch) =
        table.logRecords.toNat - 1 by omega]
      exact end'
    constructor
    · rintro ⟨first, within, same, -, free⟩
      have count : table.logRecords.toNat - table.lastBatch = first := by exact_mod_cast same
      by_cases room : first < table.logRecords.toNat
      · exact absurd (free room) (allUsed first room)
      · refine .inl (single.mp ?_)
        by_cases empty : table.logRecords.toNat = 0
        · exact single.mpr (by omega)
        · have last := @lastBatch_lt table empty
          omega
    · rintro (one | ⟨⟨index, inside, zero⟩, -⟩)
      · have start := single.mpr one
        refine ⟨table.logRecords.toNat, Nat.le_refl _, ?_, allUsed,
          fun room => absurd room (Nat.lt_irrefl _)⟩
        rw [start, Nat.sub_zero]
      · exact absurd zero (allUsed index inside)

theorem int16_le (value : Nat) : int16 value ≤ 32767 := by
  have bound := @Int.bmod_lt value 65536 (by decide)
  unfold int16
  omega

theorem int16_of_small {value : Nat} (small : value < 32768) : int16 value = value :=
  Int.bmod_eq_of_le (by omega) (by omega)

theorem namedInBatch_spec (region : UInt16) (indices : List UInt16) (count : Nat) :
    match namedInBatch region indices count with
    | some i => i < count ∧ Names region (indices.getD i 0) ∧
        ∀ later, i < later → later < count → ¬ Names region (indices.getD later 0)
    | none => ∀ i < count, ¬ Names region (indices.getD i 0) := by
  induction count with
  | zero => exact fun i inside => absurd inside (Nat.not_lt_zero i)
  | succ count ih =>
    unfold namedInBatch
    by_cases names : Names region (indices.getD count 0)
    · rw [if_pos names]
      exact ⟨Nat.lt_succ_self count, names, fun later after before => by omega⟩
    · rw [if_neg names]
      have upTo : ∀ later, later < count + 1 → later < count ∨ later = count :=
        fun later before => by omega
      cases found : namedInBatch region indices count with
      | some i =>
        rw [found] at ih
        obtain ⟨inside, named, last⟩ := ih
        refine ⟨by omega, named, fun later after before => ?_⟩
        rcases upTo later before with earlier | rfl
        · exact last later after earlier
        · exact names
      | none =>
        rw [found] at ih
        intro i before
        rcases upTo i before with earlier | rfl
        · exact ih i earlier
        · exact names

structure Searched (table : LogTable) (searchRecords region : UInt16) (search : IndexSearch) :
    Prop where
  within : search.processed ≤ searchRecords.toNat
  base : search.base = absoluteOffset table.conf table.logPage
    (2 * (searchRecords.toNat - search.processed))
  batch : search.processed < searchRecords.toNat → 0 < search.batchSize
  small : search.matchIndex ≤ 32767
  outcome : table.IndexFits searchRecords region →
    (∃ index < searchRecords.toNat, search.matchIndex = index ∧
      Names region (table.entry index) ∧ ∀ later, index < later →
        later < searchRecords.toNat → ¬ Names region (table.entry later)) ∨
    (search.matchIndex = -1 ∧ ∀ index, searchRecords.toNat - search.processed ≤ index →
      index < searchRecords.toNat → ¬ Names region (table.entry index))

theorem batch_getD {processed count index : Nat} (inside : index < count) :
    (table.batch processed count).getD index 0 = table.entry (processed + index) := by
  have bound : index < (table.batch processed count).length := by simpa using inside
  rw [List.getD_eq_getElem?_getD, List.getElem?_eq_getElem bound, Option.getD_some, batch_getElem]

theorem searched_step {searchRecords region : UInt16} {search : IndexSearch}
    (searched : table.Searched searchRecords region search)
    (more : search.processed < searchRecords.toNat ∧ search.matchIndex < 0) :
    ∃ next, IndexSearch.step table.flash searchRecords.toNat region search = some next ∧
      search.processed < next.processed ∧ table.Searched searchRecords region next := by
  obtain ⟨within, base, batch, small, outcome⟩ := searched
  have nonempty := batch more.1
  unfold IndexSearch.step
  rw [if_pos more]
  obtain ⟨size, sized⟩ : ∃ size, size = if search.batchSize + search.processed >
      searchRecords.toNat then searchRecords.toNat - search.processed else search.batchSize :=
    ⟨_, rfl⟩
  dsimp only
  rw [← sized]
  have some : 0 < size ∧ search.processed + size ≤ searchRecords.toNat := by
    split at sized <;> omega
  obtain ⟨start, placed⟩ : ∃ start, start = searchRecords.toNat - search.processed - size :=
    ⟨_, rfl⟩
  have read : readIndices table.flash (search.base - size * 2) size = table.batch start size := by
    have place : search.base - size * 2 =
        absoluteOffset table.conf table.logPage (start * 2) := by
      rw [base]
      unfold absoluteOffset
      omega
    unfold LogTable.batch
    rw [place]
  have scanned := namedInBatch_spec region (table.batch start size) size
  have based : search.base - size * 2 = absoluteOffset table.conf table.logPage
      (2 * (searchRecords.toNat - (search.processed + size))) := by
    rw [base]
    unfold absoluteOffset
    omega
  have unnamed : table.IndexFits searchRecords region → search.matchIndex = -1 ∧
      ∀ index, searchRecords.toNat - search.processed ≤ index → index < searchRecords.toNat →
        ¬ Names region (table.entry index) := by
    intro fits
    rcases outcome fits with ⟨index, -, matched, -⟩ | none
    · omega
    · exact none
  rw [read]
  refine ⟨_, rfl, by dsimp only; omega, ⟨by dsimp only; omega, based, fun _ => some.1, ?_, ?_⟩⟩
  · dsimp only
    split
    next => exact int16_le _
    next => exact small
  · intro fits
    obtain ⟨unmatched, none⟩ := unnamed fits
    dsimp only
    cases found : namedInBatch region (table.batch start size) size with
    | some i =>
      rw [found] at scanned
      obtain ⟨inside, named, last⟩ := scanned
      have position : searchRecords.toNat - search.processed - (size - i) = start + i := by omega
      have lastNamed : ∀ later, start + i < later → later < searchRecords.toNat →
          ¬ Names region (table.entry later) := by
        intro later after before
        by_cases inBatch : later < start + size
        · obtain ⟨offset, rfl⟩ := Nat.exists_eq_add_of_le (show start ≤ later by omega)
          have unnamedThere := last offset (by omega) (by omega)
          rwa [batch_getD (by omega)] at unnamedThere
        · exact none later (by omega) before
      rw [batch_getD inside] at named
      dsimp only
      rw [position]
      refine .inl ⟨start + i, by omega, ?_, named, lastNamed⟩
      exact int16_of_small (fits (start + i) (by omega) named lastNamed)
    | none =>
      rw [found] at scanned
      refine .inr ⟨unmatched, fun index after before => ?_⟩
      by_cases inBatch : index < start + size
      · obtain ⟨offset, rfl⟩ := Nat.exists_eq_add_of_le (show start ≤ index by omega)
        have unnamedThere := scanned offset (by omega)
        rwa [batch_getD (by omega)] at unnamedThere
      · exact none index (by omega) before

theorem indexSearch_final {searchRecords region : UInt16} (fuel : Nat) : ∀ search,
    table.Searched searchRecords region search →
    searchRecords.toNat - search.processed < fuel → ∃ last,
      Loop.final (IndexSearch.step table.flash searchRecords.toNat region) fuel search =
        some last ∧ table.Searched searchRecords region last ∧
        ¬ (last.processed < searchRecords.toNat ∧ last.matchIndex < 0) := by
  induction fuel with
  | zero => exact fun _ _ rounds => absurd rounds (Nat.not_lt_zero _)
  | succ fuel ih =>
    intro search searched rounds
    by_cases more : search.processed < searchRecords.toNat ∧ search.matchIndex < 0
    · obtain ⟨next, stepped, further, kept⟩ := searched_step searched more
      rw [Loop.final_of_step stepped]
      exact ih next kept (by omega)
    · have left : IndexSearch.step table.flash searchRecords.toNat region search = none :=
        if_neg more
      exact ⟨search, Loop.final_of_left left fuel, searched, more⟩

theorem searched_start (searchRecords region : UInt16) :
    table.Searched searchRecords region
      ⟨absoluteOffset table.conf table.logPage (2 * searchRecords.toNat), 0,
        min searchRecords.toNat table.conf.logTableLimit, -1⟩ := by
  have limit := table.conf.someTable
  refine ⟨Nat.zero_le _, rfl, fun some => ?_, by dsimp only; omega, fun _ => .inr ⟨rfl, ?_⟩⟩
  · dsimp only at some ⊢
    omega
  · intro index after before
    dsimp only at after
    omega

theorem last_iff (searchRecords region : UInt16) :
    (∃ result, getRecordIndex table.conf table.flash table.logPage searchRecords region =
      some result ∧ table.LastNaming searchRecords region result) ↔
      table.IndexFits searchRecords region := by
  obtain ⟨last, ended, searched, left⟩ := indexSearch_final (searchRecords.toNat + 1) _
    (@searched_start table searchRecords region) (Nat.lt_succ_of_le (Nat.sub_le _ _))
  have returned : getRecordIndex table.conf table.flash table.logPage searchRecords region =
      some last.matchIndex := by
    unfold getRecordIndex
    rw [ended]
    rfl
  obtain ⟨within, -, -, small, outcome⟩ := searched
  constructor
  · rintro ⟨result, found, naming⟩ index inside named lastNamed
    rw [returned] at found
    obtain rfl := Option.some.inj found
    rcases naming with ⟨other, bound, same, otherNamed, otherLast⟩ | ⟨-, none⟩
    · have unique : other = index := by
        rcases Nat.lt_trichotomy other index with before | eq | after
        · exact absurd named (otherLast index before inside)
        · exact eq
        · exact absurd otherNamed (lastNamed other after bound)
      omega
    · exact absurd named (none index inside)
  · intro fits
    refine ⟨last.matchIndex, returned, ?_⟩
    rcases outcome fits with found | ⟨unmatched, none⟩
    · exact .inl found
    · refine .inr ⟨unmatched, fun index inside => none index ?_ inside⟩
      omega

theorem search_contract_iff (searchRecords region : UInt16) :
    table.SearchContract searchRecords region ↔
      table.FreeInLastBatch ∧ table.IndexFits searchRecords region := by
  constructor
  · exact fun contract => ⟨next_iff.mp contract.next, (last_iff _ _).mp contract.last⟩
  · exact fun right => ⟨next_iff.mpr right.1, (last_iff _ _).mpr right.2⟩

end LogTable

def freshLog : LogTable :=
  ⟨⟨256, 40, 16, Nat.succ_pos _, by decide⟩, fun _ => 0, 1, 32, fun _ _ _ _ zero => zero⟩

theorem freshLog_skips :
    findNextRecord freshLog.conf freshLog.flash freshLog.logPage (-1) freshLog.logRecords =
      some 16 ∧ ¬ freshLog.SearchContract 32 0 := by
  have returned : findNextRecord freshLog.conf freshLog.flash freshLog.logPage (-1)
      freshLog.logRecords = some 16 := by decide
  refine ⟨returned, fun contract => ?_⟩
  obtain ⟨result, found, first, -, same, used, -⟩ := contract.next (-1) (by decide)
  rw [returned] at found
  have sixteen : (16 : Int) = first := (Option.some.inj found).trans same
  exact used 0 (by omega) rfl

end MultiPhyTsch.Coffee
