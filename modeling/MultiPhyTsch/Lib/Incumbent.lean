import Mathlib.Data.List.Nodup

/-! The cheapest of a list, found in one pass in which an incumbent has an advantage: against one
who is within a margin of it the incumbent stays, whatever the costs. Other comparisons go by the
cost, and the later of two that cost the same is taken. -/

namespace Incumbent

variable {α : Type} (cost : α → Nat)

def cheaper (first second : α) : α := if cost first < cost second then first else second

def LastLeast (list : List α) (best : α) : Prop :=
  ∃ before after, list = before ++ best :: after ∧ (∀ item ∈ before, cost best ≤ cost item) ∧
    ∀ item ∈ after, cost best < cost item

section

variable {cost}

variable {list : List α}

theorem LastLeast.mem {best : α} (least : LastLeast cost list best) : best ∈ list := by
  obtain ⟨before, after, rfl, -⟩ := least
  exact List.mem_append_right _ List.mem_cons_self

theorem LastLeast.le {best item : α} (least : LastLeast cost list best)
    (member : item ∈ list) : cost best ≤ cost item := by
  obtain ⟨before, after, rfl, early, late⟩ := least
  rcases List.mem_append.mp member with front | rest
  · exact early item front
  · rcases List.mem_cons.mp rest with rfl | back
    · exact Nat.le_refl _
    · exact Nat.le_of_lt (late item back)

theorem LastLeast.singleton (item : α) : LastLeast cost [item] item :=
  ⟨[], [], rfl, by simp, by simp⟩

theorem LastLeast.concat {best : α} (least : LastLeast cost list best)
    (item : α) : LastLeast cost (list ++ [item]) (cheaper cost best item) := by
  unfold cheaper
  split
  next less =>
    obtain ⟨before, after, rfl, early, late⟩ := least
    refine ⟨before, after ++ [item], by simp, early, ?_⟩
    intro other member
    rcases List.mem_append.mp member with back | last
    · exact late other back
    · rw [List.mem_singleton.mp last]
      exact less
  next least' =>
    refine ⟨list, [], rfl, fun other member => ?_, by simp⟩
    have := least.le member
    omega

theorem LastLeast.foldl {best : α} (rest : List α) : ∀ {list : List α},
    LastLeast cost list best → LastLeast cost (list ++ rest) (rest.foldl (cheaper cost) best) := by
  induction rest generalizing best with
  | nil =>
    intro list least
    rwa [List.append_nil]
  | cons item rest ih =>
    intro list least
    have onward := ih (least.concat item)
    rwa [List.append_assoc] at onward

theorem LastLeast.unique {best other : α} (least : LastLeast cost list best)
    (least' : LastLeast cost list other) : best = other := by
  have same : cost best = cost other :=
    Nat.le_antisymm (least.le least'.mem) (least'.le least.mem)
  obtain ⟨before, after, split, early, late⟩ := least
  obtain ⟨before', after', split', early', late'⟩ := least'
  rcases List.append_eq_append_iff.mp (split.symm.trans split') with
    ⟨between, rfl, rest⟩ | ⟨between, rfl, rest⟩
  · cases between with
    | nil => exact (List.cons.inj rest).1
    | cons first between =>
      have behind := late other (by rw [(List.cons.inj rest).2]; simp)
      omega
  · cases between with
    | nil => exact (List.cons.inj rest).1.symm
    | cons first between =>
      have behind := late' best (by rw [(List.cons.inj rest).2]; simp)
      omega

end

variable [DecidableEq α] (within : α → Bool) (incumbent : α)

def duel (first second : α) : α :=
  if first = incumbent ∧ within second then first
  else if second = incumbent ∧ within first then second
  else cheaper cost first second

def winner (list : List α) : Option α :=
  list.foldl (fun best item => some (best.elim item fun best => duel cost within incumbent best item))
    none

/-- Those who contend for the place of the incumbent when it is displaced: all others if the best
of those before it displaces it, and if not those from the first behind it on that does. -/
def Contenders (before after contenders : List α) : Prop :=
  (∃ best, LastLeast cost before best ∧ within best = false ∧ cost best < cost incumbent ∧
      contenders = before ++ after) ∨
    (∀ best, LastLeast cost before best → within best = true ∨ cost incumbent ≤ cost best) ∧
      ∃ passed first rest, after = passed ++ first :: rest ∧
        (∀ item ∈ passed, within item = true ∨ cost incumbent < cost item) ∧
        within first = false ∧ cost first ≤ cost incumbent ∧ contenders = first :: rest

/-- The item takes the place of the incumbent: it is the last cheapest of the contenders, or of
the list if the incumbent is not in it. -/
def Replaces (list : List α) (item : α) : Prop :=
  (∃ before after contenders, list = before ++ incumbent :: after ∧
      Contenders cost within incumbent before after contenders ∧ LastLeast cost contenders item) ∨
    incumbent ∉ list ∧ LastLeast cost list item

section

variable {cost within incumbent}

theorem winner_foldl {best : α} (rest : List α) :
    rest.foldl (fun best item =>
        some (best.elim item fun best => duel cost within incumbent best item)) (some best) =
      some (rest.foldl (duel cost within incumbent) best) := by
  induction rest generalizing best with
  | nil => rfl
  | cons item rest ih => exact ih

theorem foldl_without {best : α} {rest : List α} (other : best ≠ incumbent)
    (absent : incumbent ∉ rest) :
    rest.foldl (duel cost within incumbent) best = rest.foldl (cheaper cost) best := by
  induction rest generalizing best with
  | nil => rfl
  | cons item rest ih =>
    have apart : item ≠ incumbent := fun same => absent (same ▸ List.mem_cons_self)
    have duelled : duel cost within incumbent best item = cheaper cost best item := by
      rw [duel, if_neg (fun both => other both.1), if_neg (fun both => apart both.1)]
    rw [List.foldl_cons, List.foldl_cons, duelled]
    apply ih
    · unfold cheaper
      split
      · exact other
      · exact apart
    · exact fun member => absent (List.mem_cons_of_mem _ member)

theorem winner_without {list : List α} (absent : incumbent ∉ list) :
    list = [] ∧ winner cost within incumbent list = none ∨
      ∃ best, winner cost within incumbent list = some best ∧ LastLeast cost list best := by
  cases list with
  | nil => exact Or.inl ⟨rfl, rfl⟩
  | cons first rest =>
    right
    have apart : first ≠ incumbent := fun same => absent (same ▸ List.mem_cons_self)
    have absent : incumbent ∉ rest := fun member => absent (List.mem_cons_of_mem _ member)
    refine ⟨rest.foldl (cheaper cost) first, ?_, (LastLeast.singleton first).foldl rest⟩
    rw [← foldl_without apart absent]
    exact winner_foldl rest

theorem foldl_incumbent {after : List α} (absent : incumbent ∉ after) :
    (∀ item ∈ after, within item = true ∨ cost incumbent < cost item) ∧
        after.foldl (duel cost within incumbent) incumbent = incumbent ∨
      ∃ passed first rest, after = passed ++ first :: rest ∧
        (∀ item ∈ passed, within item = true ∨ cost incumbent < cost item) ∧
        within first = false ∧ cost first ≤ cost incumbent ∧
        after.foldl (duel cost within incumbent) incumbent = rest.foldl (cheaper cost) first := by
  induction after with
  | nil => exact Or.inl ⟨by simp, rfl⟩
  | cons item after ih =>
    have apart : item ≠ incumbent := fun same => absent (same ▸ List.mem_cons_self)
    have absent : incumbent ∉ after := fun member => absent (List.mem_cons_of_mem _ member)
    by_cases stays : within item = true ∨ cost incumbent < cost item
    · have duelled : duel cost within incumbent incumbent item = incumbent := by
        unfold duel
        by_cases near : within item = true
        · rw [if_pos ⟨rfl, near⟩]
        · rw [if_neg (fun both => near both.2), if_neg (fun both => apart both.1), cheaper,
            if_pos (stays.resolve_left near)]
      rw [List.foldl_cons, duelled]
      rcases ih absent with ⟨all, same⟩ | ⟨passed, first, rest, rfl, early, far, least, same⟩
      · exact Or.inl ⟨List.forall_mem_cons.mpr ⟨stays, all⟩, same⟩
      · exact Or.inr ⟨item :: passed, first, rest, rfl,
          List.forall_mem_cons.mpr ⟨stays, early⟩, far, least, same⟩
    · obtain ⟨far, least⟩ := not_or.mp stays
      have duelled : duel cost within incumbent incumbent item = item := by
        rw [duel, if_neg (fun both => far both.2), if_neg (fun both => apart both.1), cheaper,
          if_neg least]
      right
      refine ⟨[], item, after, rfl, by simp, Bool.not_eq_true _ ▸ far, Nat.not_lt.mp least, ?_⟩
      rw [List.foldl_cons, duelled]
      exact foldl_without apart absent

theorem Contenders.unique {before after one two : List α}
    (contend : Contenders cost within incumbent before after one)
    (contend' : Contenders cost within incumbent before after two) : one = two := by
  rcases contend with ⟨best, least, far, less, rfl⟩ |
    ⟨none, passed, first, rest, rfl, stays, far, less, rfl⟩
  · rcases contend' with ⟨_, _, _, _, rfl⟩ | ⟨none, -⟩
    · rfl
    · rcases none best least with near | more
      · exact absurd (far.symm.trans near) Bool.false_ne_true
      · omega
  · rcases contend' with ⟨best, least, far', less', rfl⟩ |
      ⟨-, passed', first', rest', split, stays', far', less', rfl⟩
    · rcases none best least with near | more
      · exact absurd (far'.symm.trans near) Bool.false_ne_true
      · omega
    · have apart : ∀ {item : α}, within item = true ∨ cost incumbent < cost item →
          within item = false → cost item ≤ cost incumbent → False := by
        intro item stays far less
        rcases stays with near | more
        · exact absurd (far.symm.trans near) Bool.false_ne_true
        · omega
      rcases List.append_eq_append_iff.mp split with ⟨between, rfl, tail⟩ | ⟨between, rfl, tail⟩
      · cases between with
        | nil => exact tail
        | cons item between =>
          obtain ⟨rfl, -⟩ := List.cons.inj tail
          exact (apart (stays' first (by simp)) far less).elim
      · cases between with
        | nil => exact tail.symm
        | cons item between =>
          obtain ⟨rfl, -⟩ := List.cons.inj tail
          exact (apart (stays first' (by simp)) far' less').elim

theorem winner_with {before after : List α} (early : incumbent ∉ before)
    (late : incumbent ∉ after) :
    winner cost within incumbent (before ++ incumbent :: after) = some incumbent ∧
        (∀ contenders, ¬ Contenders cost within incumbent before after contenders) ∨
      ∃ contenders best, Contenders cost within incumbent before after contenders ∧
        LastLeast cost contenders best ∧
        winner cost within incumbent (before ++ incumbent :: after) = some best := by
  -- the incumbent has won against those before it
  have behind : (∀ best, LastLeast cost before best →
        within best = true ∨ cost incumbent ≤ cost best) →
      winner cost within incumbent (before ++ incumbent :: after) =
        some (after.foldl (duel cost within incumbent) incumbent) →
      winner cost within incumbent (before ++ incumbent :: after) = some incumbent ∧
          (∀ contenders, ¬ Contenders cost within incumbent before after contenders) ∨
        ∃ contenders best, Contenders cost within incumbent before after contenders ∧
          LastLeast cost contenders best ∧
          winner cost within incumbent (before ++ incumbent :: after) = some best := by
    intro none won
    rcases foldl_incumbent late with ⟨all, same⟩ | ⟨passed, first, rest, split, stays, far, less, same⟩
    · left
      refine ⟨won.trans (congrArg some same), ?_⟩
      rintro contenders (⟨best, least, far, less, -⟩ | ⟨-, passed, first, rest, rfl, -, far, less, -⟩)
      · rcases none best least with near | more
        · exact absurd (far.symm.trans near) Bool.false_ne_true
        · omega
      · rcases all first (by simp) with near | more
        · exact absurd (far.symm.trans near) Bool.false_ne_true
        · omega
    · right
      refine ⟨first :: rest, rest.foldl (cheaper cost) first,
        Or.inr ⟨none, passed, first, rest, split, stays, far, less, rfl⟩,
        (LastLeast.singleton first).foldl rest, won.trans (congrArg some same)⟩
  have split : winner cost within incumbent (before ++ incumbent :: after) =
      after.foldl (fun best item =>
          some (best.elim item fun best => duel cost within incumbent best item))
        (some ((winner cost within incumbent before).elim incumbent
          fun best => duel cost within incumbent best incumbent)) := by
    rw [winner, List.foldl_append]
    rfl
  rw [winner_foldl] at split
  rcases winner_without early with ⟨rfl, nobody⟩ | ⟨best, won, least⟩
  · apply behind
    · rintro best ⟨before, after, nothing, -⟩
      exact absurd nothing (by simp)
    · rw [split, nobody]
      rfl
  · have apart : best ≠ incumbent := fun same => early (same ▸ least.mem)
    rw [won] at split
    by_cases displaces : within best = false ∧ cost best < cost incumbent
    · right
      refine ⟨before ++ after, after.foldl (cheaper cost) best,
        Or.inl ⟨best, least, displaces.1, displaces.2, rfl⟩, least.foldl after, ?_⟩
      have duelled : duel cost within incumbent best incumbent = best := by
        rw [duel, if_neg (fun both => apart both.1),
          if_neg (fun both => Bool.false_ne_true (displaces.1.symm.trans both.2)), cheaper,
          if_pos displaces.2]
      rw [split, Option.elim_some, duelled, foldl_without apart late]
    · have stays : within best = true ∨ cost incumbent ≤ cost best := by
        cases near : within best with
        | true => exact Or.inl rfl
        | false => exact Or.inr (Nat.not_lt.mp fun less => displaces ⟨near, less⟩)
      apply behind
      · intro other least'
        rwa [← least.unique least']
      · have duelled : duel cost within incumbent best incumbent = incumbent := by
          unfold duel
          rw [if_neg (fun both => apart both.1)]
          by_cases near : within best = true
          · rw [if_pos ⟨rfl, near⟩]
          · rw [if_neg (fun both => near both.2), cheaper,
              if_neg (Nat.not_lt.mpr (stays.resolve_left near))]
        rw [split, Option.elim_some, duelled]

omit [DecidableEq α] in
theorem Contenders.mem {before after contenders : List α} {item : α}
    (contend : Contenders cost within incumbent before after contenders)
    (member : item ∈ contenders) : item ∈ before ∨ item ∈ after := by
  rcases contend with ⟨best, -, -, -, rfl⟩ | ⟨-, passed, first, rest, rfl, -, -, -, rfl⟩
  · exact List.mem_append.mp member
  · exact Or.inr (List.mem_append_right _ member)

theorem winner_iff {list : List α} {item : α} (nodup : list.Nodup) :
    winner cost within incumbent list = some item ∧ item ≠ incumbent ↔
      Replaces cost within incumbent list item := by
  by_cases member : incumbent ∈ list
  · obtain ⟨before, after, rfl⟩ := List.append_of_mem member
    obtain ⟨early, late⟩ : incumbent ∉ before ∧ incumbent ∉ after := by
      rw [List.nodup_middle, List.nodup_cons, List.mem_append, not_or] at nodup
      exact nodup.1
    constructor
    · rintro ⟨won, other⟩
      rcases winner_with early late with ⟨won', -⟩ | ⟨contenders, best, contend, least, won'⟩
      · exact absurd (Option.some.inj (won.symm.trans won')) other
      · obtain rfl := Option.some.inj (won.symm.trans won')
        exact Or.inl ⟨before, after, contenders, rfl, contend, least⟩
    · rintro (⟨before', after', contenders', split, contend', least'⟩ | ⟨absent, -⟩)
      · obtain ⟨rfl, -, rfl⟩ := (List.append_cons_inj_of_notMem early late).mp split
        rcases winner_with early late with ⟨-, nobody⟩ | ⟨contenders, best, contend, least, won⟩
        · exact absurd contend' (nobody contenders')
        · rw [contend'.unique contend] at least'
          obtain rfl := least.unique least'
          refine ⟨won, fun same => ?_⟩
          rcases contend.mem least.mem with front | back
          · exact early (same ▸ front)
          · exact late (same ▸ back)
      · exact absurd member absent
  · constructor
    · rintro ⟨won, -⟩
      rcases winner_without member with ⟨-, nobody⟩ | ⟨best, won', least⟩
      · exact nomatch won.symm.trans nobody
      · obtain rfl := Option.some.inj (won.symm.trans won')
        exact Or.inr ⟨member, least⟩
    · rintro (⟨before, after, contenders, rfl, -⟩ | ⟨-, least'⟩)
      · exact absurd (by simp) member
      · rcases winner_without member with ⟨rfl, -⟩ | ⟨best, won, least⟩
        · exact absurd least'.mem List.not_mem_nil
        · obtain rfl := least.unique least'
          exact ⟨won, fun same => member (same ▸ least.mem)⟩

theorem winner_eq_none_iff {list : List α} :
    winner cost within incumbent list = none ↔ list = [] := by
  cases list with
  | nil => exact iff_of_true rfl rfl
  | cons first rest =>
    have won : winner cost within incumbent (first :: rest) = some _ := winner_foldl rest
    rw [won]
    exact iff_of_false (fun none => nomatch none) (List.cons_ne_nil first rest)

end

end Incumbent
