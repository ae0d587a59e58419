import Mathlib.Data.List.Basic

/-! Spans of memory, each with a header and data behind it, that follow one another without gaps. -/

structure Span where
  start : Nat
  size : Nat
deriving DecidableEq, Repr

namespace Span

variable (header : Nat) (span : Span)

def data : Nat := span.start + header

def stop : Nat := span.start + header + span.size

end Span

namespace Tiling

variable {header : Nat}

def Tiles (header : Nat) : Nat → List Span → Nat → Prop
  | first, [], last => first = last
  | first, span :: spans, last =>
    span.start = first ∧ Tiles header (span.stop header) spans last

variable {left right : List Span}

theorem tiles_append : ∀ {first last : Nat}, Tiles header first (left ++ right) last ↔
      ∃ middle, Tiles header first left middle ∧ Tiles header middle right last := by
  induction left with
  | nil =>
    intro first last
    constructor
    · exact fun tiles => ⟨first, rfl, tiles⟩
    · rintro ⟨middle, rfl, tiles⟩
      exact tiles
  | cons span left ih =>
    intro first last
    constructor
    · rintro ⟨start, tiles⟩
      obtain ⟨middle, before, after⟩ := ih.mp tiles
      exact ⟨middle, ⟨start, before⟩, after⟩
    · rintro ⟨middle, ⟨start, before⟩, after⟩
      exact ⟨start, ih.mpr ⟨middle, before, after⟩⟩

variable {spans : List Span}

theorem Tiles.le : ∀ {first last : Nat}, Tiles header first spans last → first ≤ last := by
  induction spans with
  | nil => exact fun tiles => Nat.le_of_eq tiles
  | cons span spans ih =>
    rintro first last ⟨start, tiles⟩
    have rest := ih tiles
    unfold Span.stop at rest
    omega

theorem Tiles.unique : ∀ {first last other : Nat},
    Tiles header first spans last → Tiles header first spans other → last = other := by
  induction spans with
  | nil => exact fun one two => one.symm.trans two
  | cons span spans ih => exact fun one two => ih one.2 two.2

theorem Tiles.bounds {span : Span} : ∀ {first last : Nat},
    Tiles header first spans last → span ∈ spans →
    first ≤ span.start ∧ span.stop header ≤ last := by
  induction spans with
  | nil => exact fun _ member => nomatch member
  | cons head spans ih =>
    rintro first last ⟨start, tiles⟩ member
    rcases List.mem_cons.mp member with rfl | later
    · exact ⟨Nat.le_of_eq start.symm, tiles.le⟩
    · obtain ⟨low, high⟩ := ih tiles later
      unfold Span.stop at low
      exact ⟨by omega, high⟩

theorem Tiles.apart {span other : Span} : ∀ {first last : Nat},
    Tiles header first spans last → span ∈ spans → other ∈ spans →
    span = other ∨ span.stop header ≤ other.start ∨ other.stop header ≤ span.start := by
  induction spans with
  | nil => exact fun _ member => nomatch member
  | cons head spans ih =>
    rintro first last ⟨_, tiles⟩ member otherMember
    rcases List.mem_cons.mp member with rfl | later
    · rcases List.mem_cons.mp otherMember with rfl | otherLater
      · exact Or.inl rfl
      · exact Or.inr (Or.inl (tiles.bounds otherLater).1)
    · rcases List.mem_cons.mp otherMember with rfl | otherLater
      · exact Or.inr (Or.inr (tiles.bounds later).1)
      · exact ih tiles later otherLater

variable {first last : Nat}

theorem Tiles.start_inj {span other : Span}
    (positive : 0 < header) (tiles : Tiles header first spans last) (member : span ∈ spans)
    (otherMember : other ∈ spans) (same : span.start = other.start) : span = other := by
  rcases tiles.apart member otherMember with equal | before | after
  · exact equal
  · unfold Span.stop at before
    omega
  · unfold Span.stop at after
    omega

theorem tiles_snoc {span : Span} : Tiles header first (spans ++ [span]) last ↔
      Tiles header first spans span.start ∧ span.stop header = last := by
  rw [tiles_append]
  constructor
  · rintro ⟨middle, before, start, stop⟩
    rw [start]
    exact ⟨before, stop⟩
  · rintro ⟨before, stop⟩
    exact ⟨span.start, before, rfl, stop⟩

theorem Tiles.last_of_stop {span : Span}
    (positive : 0 < header) (tiles : Tiles header first (left ++ span :: right) last)
    (stop : span.stop header = last) : right = [] := by
  obtain ⟨_, _, _, rest⟩ := tiles_append.mp tiles
  cases right with
  | nil => rfl
  | cons next right =>
    have low := rest.1
    have high := rest.2.le
    unfold Span.stop at *
    omega

theorem Tiles.next_of_stop {span : Span} (tiles : Tiles header first (left ++ span :: right) last)
    (inner : span.stop header ≠ last) :
    ∃ next rest, right = next :: rest ∧ next.start = span.stop header := by
  obtain ⟨_, _, _, rest⟩ := tiles_append.mp tiles
  cases right with
  | nil => exact absurd rest inner
  | cons next right => exact ⟨next, right, rfl, rest.1⟩

theorem Tiles.split {span : Span} {first last offset : Nat}
    (tiles : Tiles header first (left ++ span :: right) last) (room : offset + header ≤ span.size) :
    Tiles header first (left ++ ⟨span.start, offset⟩ ::
      ⟨span.start + header + offset, span.size - header - offset⟩ :: right) last := by
  obtain ⟨middle, before, start, rest⟩ := tiles_append.mp tiles
  refine tiles_append.mpr ⟨middle, before, start, rfl, ?_⟩
  have stop : Span.stop header ⟨span.start + header + offset, span.size - header - offset⟩ =
      span.stop header := by
    unfold Span.stop
    dsimp only
    omega
  rw [stop]
  exact rest

theorem Tiles.merge {span next : Span}
    (tiles : Tiles header first (left ++ span :: next :: right) last) :
    Tiles header first (left ++ ⟨span.start, span.size + (header + next.size)⟩ :: right) last := by
  obtain ⟨middle, before, start, nextStart, rest⟩ := tiles_append.mp tiles
  refine tiles_append.mpr ⟨middle, before, start, ?_⟩
  have stop : Span.stop header ⟨span.start, span.size + (header + next.size)⟩ =
      next.stop header := by
    unfold Span.stop at *
    dsimp only
    omega
  rw [stop]
  exact rest

end Tiling
