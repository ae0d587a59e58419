import Mathlib.Data.List.Nodup

/-! Doubly linked lists of nodes that are known by their addresses. -/

namespace LinkedList

variable {prev next prev' next' : Nat → Option Nat}

def Linked (prev next : Nat → Option Nat) : Option Nat → List Nat → Prop
  | _, [] => True
  | before, node :: nodes =>
    prev node = before ∧ next node = nodes.head? ∧ Linked prev next (some node) nodes

theorem Linked.congr {nodes : List Nat} : ∀ {before : Option Nat},
    Linked prev next before nodes →
    (∀ node ∈ nodes, prev' node = prev node ∧ next' node = next node) →
    Linked prev' next' before nodes := by
  induction nodes with
  | nil => exact fun _ _ => trivial
  | cons node nodes ih =>
    rintro before ⟨back, forth, rest⟩ same
    obtain ⟨samePrev, sameNext⟩ := same node List.mem_cons_self
    refine ⟨samePrev.trans back, sameNext.trans forth, ih rest ?_⟩
    exact fun later member => same later (List.mem_cons_of_mem node member)

variable {node : Nat}

theorem Linked.push {nodes : List Nat} (linked : Linked prev next none nodes)
    (back : prev' node = none) (forth : next' node = nodes.head?)
    (first : ∀ head, nodes.head? = some head → prev' head = some node)
    (sameNext : ∀ other ∈ nodes, next' other = next other)
    (samePrev : ∀ other ∈ nodes.tail, prev' other = prev other) (nodup : nodes.Nodup) :
    Linked prev' next' none (node :: nodes) := by
  refine ⟨back, forth, ?_⟩
  cases nodes with
  | nil => trivial
  | cons head nodes =>
    obtain ⟨_, headForth, rest⟩ := linked
    refine ⟨first head rfl, (sameNext head List.mem_cons_self).trans headForth, ?_⟩
    refine rest.congr ?_
    intro other member
    exact ⟨samePrev other member, sameNext other (List.mem_cons_of_mem head member)⟩

variable {left right : List Nat}

theorem Linked.next_eq : ∀ {before : Option Nat},
    Linked prev next before (left ++ node :: right) → next node = right.head? := by
  induction left with
  | nil => exact fun linked => linked.2.1
  | cons first left ih => exact fun linked => ih linked.2.2

theorem Linked.prev_eq : ∀ {before : Option Nat},
    Linked prev next before (left ++ node :: right) → prev node = left.getLast?.or before := by
  induction left with
  | nil => exact fun linked => linked.1
  | cons first left ih =>
    intro before linked
    rw [ih linked.2.2]
    cases left with
    | nil => rfl
    | cons second left =>
      rw [List.getLast?_cons_cons]
      cases last : (second :: left).getLast? with
      | none => simp at last
      | some node => rfl

theorem Linked.unlink : ∀ {before : Option Nat},
    Linked prev next before (left ++ node :: right) → (left ++ node :: right).Nodup →
    (∀ other, before = some other → other ∉ left ++ node :: right) →
    (∀ other ∈ left ++ right, next' other = if prev node = some other then next node
      else next other) →
    (∀ other ∈ left ++ right, prev' other = if next node = some other then prev node
      else prev other) →
    Linked prev' next' before (left ++ right) := by
  induction left with
  | nil =>
    rintro before ⟨back, forth, rest⟩ nodup outside nextEq prevEq
    rw [List.nil_append, List.nodup_cons] at nodup
    cases right with
    | nil => trivial
    | cons head right =>
      obtain ⟨_, headForth, tail⟩ := rest
      have forthHead : next node = some head := forth
      have headNext : next' head = right.head? := by
        rw [nextEq head List.mem_cons_self, if_neg]
        · exact headForth
        · intro same
          exact outside head (back.symm.trans same) (List.mem_cons_of_mem _ List.mem_cons_self)
      have headPrev : prev' head = before := by
        rw [prevEq head List.mem_cons_self, if_pos forthHead]
        exact back
      refine ⟨headPrev, headNext, tail.congr ?_⟩
      intro other member
      have inRight : other ∈ head :: right := List.mem_cons_of_mem head member
      have notHead : other ≠ head := by
        rintro rfl
        exact (List.nodup_cons.mp nodup.2).1 member
      refine ⟨?_, ?_⟩
      · rw [prevEq other inRight, if_neg]
        intro same
        exact notHead (Option.some.inj (same.symm.trans forth))
      · rw [nextEq other inRight, if_neg]
        intro same
        exact outside other (back.symm.trans same) (List.mem_cons_of_mem _ inRight)
  | cons first left ih =>
    rintro before ⟨back, forth, rest⟩ nodup outside nextEq prevEq
    rw [List.cons_append, List.nodup_cons] at nodup
    have nodeNext := rest.next_eq
    have nodePrev := rest.prev_eq
    have firstPrev : prev' first = before := by
      rw [prevEq first List.mem_cons_self, if_neg]
      · exact back
      · intro same
        have member := List.mem_of_head? (nodeNext.symm.trans same)
        exact nodup.1 (List.mem_append_right left (List.mem_cons_of_mem node member))
    have firstNext : next' first = (left ++ right).head? := by
      rw [nextEq first List.mem_cons_self]
      cases left with
      | nil =>
        have afterFirst : prev node = some first := nodePrev
        rw [if_pos afterFirst]
        exact nodeNext
      | cons second left =>
        rw [if_neg]
        · exact forth
        · intro same
          have last : (second :: left).getLast? = some first := by
            rw [nodePrev] at same
            cases found : (second :: left).getLast? with
            | none => simp at found
            | some node => rw [found] at same; exact same
          have member := List.mem_of_getLast? last
          exact nodup.1 (List.mem_append_left _ member)
    have shifted := ih rest nodup.2
      (fun other same => Option.some.inj same ▸ nodup.1)
      (fun other member => nextEq other (List.mem_cons_of_mem first member))
      (fun other member => prevEq other (List.mem_cons_of_mem first member))
    exact ⟨firstPrev, firstNext, shifted⟩

end LinkedList
