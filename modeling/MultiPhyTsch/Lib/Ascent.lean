import Mathlib.Data.List.Nodup
import Mathlib.Logic.Relation

/-! Climbing from a node to a root along a partial parent function: the way up is unique, repeats no
node, and is still there after a change of parents that the nodes on it do not see. -/

namespace MultiPhyTsch

variable {α : Type}

def Reaches (parent : α → Option α) (root node : α) : Prop :=
  Relation.ReflTransGen (fun node above => parent node = some above) node root

inductive Ascent (parent : α → Option α) (root : α) : α → List α → Prop
  | root : Ascent parent root root [root]
  | up {node above path} : node ≠ root → parent node = some above →
      Ascent parent root above path → Ascent parent root node (node :: path)

theorem Reaches.step {parent : α → Option α} {root node above : α}
    (up : parent node = some above) (reached : Reaches parent root above) :
    Reaches parent root node :=
  Relation.ReflTransGen.head up reached

namespace Ascent

variable {parent : α → Option α} {root node : α} {path : List α}

section

variable (ascent : Ascent parent root node path)
include ascent

theorem reaches : Reaches parent root node := by
  induction ascent with
  | root => exact Relation.ReflTransGen.refl
  | up _ up _ ih => exact ih.step up

theorem root_mem : root ∈ path := by
  induction ascent with
  | root => exact List.mem_singleton.mpr rfl
  | up _ _ _ ih => exact List.mem_cons_of_mem _ ih

theorem unique {other : List α} (again : Ascent parent root node other) : path = other := by
  induction ascent generalizing other with
  | root =>
    cases again with
    | root => rfl
    | up notRoot _ _ => exact absurd rfl notRoot
  | up notRoot up _ ih =>
    cases again with
    | root => exact absurd rfl notRoot
    | up _ upAgain rest =>
      rw [up] at upAgain
      obtain rfl := Option.some.inj upAgain
      rw [ih rest]

theorem from_mem {inner : α} (member : inner ∈ path) :
    ∃ rest, Ascent parent root inner rest ∧ rest.length ≤ path.length := by
  induction ascent with
  | root =>
    obtain rfl := List.mem_singleton.mp member
    exact ⟨_, Ascent.root, Nat.le_refl _⟩
  | @up first above path notRoot up ascent ih =>
    rcases List.mem_cons.mp member with rfl | later
    · exact ⟨_, Ascent.up notRoot up ascent, Nat.le_refl _⟩
    · obtain ⟨rest, found, shorter⟩ := ih later
      exact ⟨rest, found, by rw [List.length_cons]; omega⟩

theorem nodup : path.Nodup := by
  induction ascent with
  | root => exact List.nodup_singleton _
  | @up first above path notRoot up ascent ih =>
    refine List.nodup_cons.mpr ⟨?_, ih⟩
    intro again
    -- the way from a node is unique, so it cannot go on from there a second time
    obtain ⟨rest, found, shorter⟩ := ascent.from_mem again
    have same := (Ascent.up notRoot up ascent).unique found
    rw [← same, List.length_cons] at shorter
    omega

theorem subset {inside : α → Prop} (start : inside node)
    (closed : ∀ node, inside node → ∀ above, parent node = some above → inside above) :
    ∀ other ∈ path, inside other := by
  induction ascent with
  | root =>
    intro other member
    exact List.mem_singleton.mp member ▸ start
  | up _ up _ ih =>
    intro other member
    rcases List.mem_cons.mp member with rfl | later
    · exact start
    · exact ih (closed _ start _ up) other later

end

end Ascent

section

variable {parent : α → Option α} {root node : α} (reached : Reaches parent root node)
include reached

theorem Reaches.ascent : ∃ path, Ascent parent root node path := by
  induction reached using Relation.ReflTransGen.head_induction_on with
  | refl => exact ⟨[root], Ascent.root⟩
  | @head first above up _ ih =>
    obtain ⟨path, ascent⟩ := ih
    by_cases isRoot : first = root
    · exact ⟨[root], isRoot ▸ Ascent.root⟩
    · exact ⟨first :: path, Ascent.up isRoot up ascent⟩

theorem Reaches.inside_root (inside : α → Prop) (start : inside node)
    (closed : ∀ node, inside node → ∀ above, parent node = some above → inside above) :
    inside root := by
  obtain ⟨path, ascent⟩ := reached.ascent
  exact ascent.subset start closed root ascent.root_mem

theorem Reaches.carry {changed : α → Option α} {inside : α → Prop} (start : inside node)
    (closed : ∀ node, inside node → ∀ above, parent node = some above → inside above)
    (kept : ∀ node, inside node → Reaches parent root node →
      changed node = parent node ∨ Reaches changed root node) : Reaches changed root node := by
  induction reached using Relation.ReflTransGen.head_induction_on with
  | refl => exact Relation.ReflTransGen.refl
  | @head first above up rest ih =>
    rcases kept first start (Reaches.step up rest) with same | another
    · exact (ih (closed first start above up)).step (same.trans up)
    · exact another

end

end MultiPhyTsch
