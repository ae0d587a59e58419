import Mathlib.Data.List.Induction

/-! The first item of a list whose score is least, found in one pass. -/

variable {α : Type} (score : α → Nat)

def lesser (least : Option α) (item : α) : Option α :=
  match least with
  | some best => if score item < score best then some item else some best
  | none => some item

def firstLeast (list : List α) : Option α := list.foldl (lesser score) none

theorem firstLeast_concat (list : List α) (item : α) :
    firstLeast score (list ++ [item]) = lesser score (firstLeast score list) item := by
  rw [firstLeast, List.foldl_append]
  rfl

theorem firstLeast_eq_none {list : List α} (absent : firstLeast score list = none) :
    list = [] := by
  induction list using List.reverseRecOn with
  | nil => rfl
  | append_singleton list item ih =>
    rw [firstLeast_concat] at absent
    cases earlier : firstLeast score list with
    | none =>
      rw [earlier] at absent
      cases absent
    | some best =>
      rw [earlier, lesser] at absent
      split at absent
      · cases absent
      · cases absent

theorem firstLeast_split {list : List α} {best : α} (found : firstLeast score list = some best) :
    ∃ before after, list = before ++ best :: after ∧
      (∀ item ∈ before, score best < score item) ∧ ∀ item ∈ after, score best ≤ score item := by
  induction list using List.reverseRecOn generalizing best with
  | nil => cases found
  | append_singleton list item ih =>
    rw [firstLeast_concat] at found
    cases earlier : firstLeast score list with
    | none =>
      rw [earlier, lesser, Option.some.injEq] at found
      rw [firstLeast_eq_none score earlier, found]
      exact ⟨[], [], rfl, by simp, by simp⟩
    | some old =>
      obtain ⟨before, after, split, more, noLess⟩ := ih earlier
      rw [earlier, lesser] at found
      by_cases less : score item < score old
      · rw [if_pos less, Option.some.injEq] at found
        subst found
        refine ⟨list, [], rfl, ?_, by simp⟩
        intro other member
        rw [split, List.mem_append, List.mem_cons] at member
        rcases member with first | same | last
        · have := more other first
          omega
        · rw [same]
          exact less
        · have := noLess other last
          omega
      · rw [if_neg less, Option.some.injEq] at found
        subst found
        refine ⟨before, after ++ [item], by rw [split]; simp, more, ?_⟩
        intro other member
        rw [List.mem_append, List.mem_singleton] at member
        rcases member with last | same
        · exact noLess other last
        · rw [same]
          omega
