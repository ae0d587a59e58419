import Mathlib.Data.List.Nodup

/-! The last entry of each key in a log that is written at its head, from most to least recent. -/

namespace Recency

variable {α κ : Type} [DecidableEq κ] (key : α → κ)

def touch (entry : α) (entries : List α) : List α :=
  entry :: entries.filter fun other => key other ≠ key entry

def recent : List α → List α
  | [] => []
  | entry :: log => touch key entry (recent log)

variable {entries : List α}

theorem keys_touch_nodup (nodup : (entries.map key).Nodup) (entry : α) :
    ((touch key entry entries).map key).Nodup := by
  unfold touch
  rw [List.map_cons, List.nodup_cons]
  refine ⟨?_, (List.Sublist.map key List.filter_sublist).nodup nodup⟩
  intro member
  obtain ⟨other, kept, same⟩ := List.mem_map.mp member
  simp only [List.mem_filter, decide_eq_true_eq] at kept
  exact kept.2 same

theorem keys_recent_nodup (log : List α) : ((recent key log).map key).Nodup := by
  induction log with
  | nil => exact List.nodup_nil
  | cons entry log ih => exact keys_touch_nodup key ih entry

theorem find_recent (wanted : κ) (log : List α) :
    (recent key log).find? (fun entry => key entry = wanted) =
      log.find? fun entry => key entry = wanted := by
  induction log with
  | nil => rfl
  | cons entry log ih =>
    unfold recent touch
    by_cases same : key entry = wanted
    · rw [List.find?_cons_of_pos (by simpa using same), List.find?_cons_of_pos (by simpa using same)]
    · rw [List.find?_cons_of_neg (by simpa using same), List.find?_cons_of_neg (by simpa using same),
        ← ih, List.find?_filter]
      congr 1
      funext other
      by_cases found : key other = wanted
      · have different : wanted ≠ key entry := fun equal => same equal.symm
        simp [found, different]
      · simp [found]

theorem find_key_iff (nodup : (entries.map key).Nodup) {wanted : κ} {entry : α} :
    entries.find? (fun entry => key entry = wanted) = some entry ↔
      entry ∈ entries ∧ key entry = wanted := by
  constructor
  · intro found
    have same := List.find?_some found
    simp only [decide_eq_true_eq] at same
    exact ⟨List.mem_of_find?_eq_some found, same⟩
  · rintro ⟨member, same⟩
    cases found : entries.find? fun entry => key entry = wanted with
    | none =>
      rw [List.find?_eq_none] at found
      exact absurd (by simpa using same) (found entry member)
    | some other =>
      have also := List.find?_some found
      simp only [decide_eq_true_eq] at also
      rw [List.inj_on_of_nodup_map nodup (List.mem_of_find?_eq_some found) member
        (also.trans same.symm)]

theorem find_log_iff {log : List α} {wanted : κ} {entry : α} :
    log.find? (fun entry => key entry = wanted) = some entry ↔
      entry ∈ recent key log ∧ key entry = wanted := by
  rw [← find_recent, find_key_iff key (keys_recent_nodup key log)]

theorem take_touch {entry : α} (nodup : (entries.map key).Nodup) (count : Nat) :
    (touch key entry entries).take (count + 1) =
      (touch key entry (entries.take (count + 1))).take (count + 1) := by
  unfold touch
  rw [List.take_succ_cons, List.take_succ_cons]
  congr 1
  induction entries generalizing count with
  | nil => rfl
  | cons first rest ih =>
    rw [List.map_cons, List.nodup_cons] at nodup
    by_cases same : key first = key entry
    · have others : ∀ other ∈ rest, key other ≠ key entry := by
        intro other member equal
        exact nodup.1 (List.mem_map.mpr ⟨other, member, equal.trans same.symm⟩)
      have kept : rest.filter (fun other => key other ≠ key entry) = rest :=
        List.filter_eq_self.mpr fun other member => by simpa using others other member
      have taken : (rest.take count).filter (fun other => key other ≠ key entry) =
          rest.take count :=
        List.filter_eq_self.mpr fun other member => by
          simpa using others other (List.mem_of_mem_take member)
      rw [List.take_succ_cons, List.filter_cons_of_neg (by simpa using same),
        List.filter_cons_of_neg (by simpa using same), kept, taken, List.take_take, Nat.min_self]
    · rw [List.take_succ_cons, List.filter_cons_of_pos (by simpa using same),
        List.filter_cons_of_pos (by simpa using same)]
      cases count with
      | zero => rfl
      | succ count =>
        rw [List.take_succ_cons, List.take_succ_cons, ih nodup.2 count]

theorem length_le_touch (nodup : (entries.map key).Nodup) (entry : α) :
    entries.length ≤ (touch key entry entries).length := by
  unfold touch
  rw [List.length_cons]
  induction entries with
  | nil => exact Nat.zero_le _
  | cons first rest ih =>
    rw [List.map_cons, List.nodup_cons] at nodup
    by_cases same : key first = key entry
    · have kept : rest.filter (fun other => key other ≠ key entry) = rest := by
        rw [List.filter_eq_self]
        intro other member
        have different : key other ≠ key entry := by
          intro equal
          exact nodup.1 (List.mem_map.mpr ⟨other, member, equal.trans same.symm⟩)
        simpa using different
      apply Nat.le_of_eq
      rw [List.filter_cons_of_neg (by simpa using same), kept, List.length_cons]
    · have shorter := ih nodup.2
      rw [List.filter_cons_of_pos (by simpa using same), List.length_cons, List.length_cons]
      omega

theorem length_take_touch (nodup : (entries.map key).Nodup) (entry : α) (count : Nat) :
    min (count - (touch key entry (entries.take count)).length) (count - entries.length) =
      count - (touch key entry entries).length := by
  have longer := length_le_touch key nodup entry
  by_cases short : entries.length ≤ count
  · rw [List.take_of_length_le short]
    omega
  · omega

end Recency
