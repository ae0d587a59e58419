import Mathlib.Data.List.Nodup
import Mathlib.Logic.Function.Basic

/-! Orders of which at most one waits for each key. A new order takes the place of the one that
waits; an order leaves the ledger when it is served, or dropped without service. -/

namespace OneShot

structure Service (Key Order : Type) where
  key : Key
  number : Nat
  order : Order
  time : Nat
deriving DecidableEq, Repr

def Service.id {Key Order : Type} (service : Service Key Order) : Key × Nat :=
  (service.key, service.number)

structure Ledger (Key Order : Type) where
  number : Key → Nat
  order : Key → Order
  waiting : Key → Bool
  served : List (Service Key Order)
  dropped : List (Key × Nat)

variable {Key Order : Type}

def Ledger.open (order : Key → Order) : Ledger Key Order :=
  ⟨fun _ => 0, order, fun _ => false, [], []⟩

variable [DecidableEq Key]

variable (ledger : Ledger Key Order)

def Ledger.withdraw (key : Key) : Ledger Key Order :=
  if ledger.waiting key then
    { ledger with
      waiting := Function.update ledger.waiting key false
      dropped := ledger.dropped ++ [(key, ledger.number key)] }
  else ledger

def Ledger.place (key : Key) (order : Order) : Ledger Key Order :=
  { ledger.withdraw key with
    number := Function.update ledger.number key (ledger.number key + 1)
    order := Function.update ledger.order key order
    waiting := Function.update ledger.waiting key true }

def Ledger.serve (key : Key) (time : Nat) : Ledger Key Order :=
  { ledger with
    waiting := Function.update ledger.waiting key false
    served := ledger.served ++ [⟨key, ledger.number key, ledger.order key, time⟩] }

omit [DecidableEq Key] in
def Ledger.Gone (ledger : Ledger Key Order) (id : Key × Nat) : Prop :=
  id ∈ ledger.served.map Service.id ∨ id ∈ ledger.dropped

structure Ledger.Sound (ledger : Ledger Key Order) : Prop where
  once : (ledger.served.map Service.id).Nodup
  standing : ∀ id ∈ ledger.served.map Service.id, id ∉ ledger.dropped
  past : ∀ id, ledger.Gone id → 0 < id.2 ∧ id.2 ≤ ledger.number id.1 ∧
    (ledger.waiting id.1 = true → id.2 < ledger.number id.1)
  kept : ∀ key number, 0 < number → number ≤ ledger.number key →
    (ledger.waiting key = true ∧ number = ledger.number key) ∨ ledger.Gone (key, number)
  placed : ∀ key, ledger.waiting key = true → 0 < ledger.number key

section Access

variable (ledger : Ledger Key Order) (key : Key) (order : Order) (time : Nat)

@[simp] theorem number_withdraw : (ledger.withdraw key).number = ledger.number := by
  unfold Ledger.withdraw
  split <;> rfl

@[simp] theorem order_withdraw : (ledger.withdraw key).order = ledger.order := by
  unfold Ledger.withdraw
  split <;> rfl

@[simp] theorem served_withdraw : (ledger.withdraw key).served = ledger.served := by
  unfold Ledger.withdraw
  split <;> rfl

@[simp] theorem waiting_withdraw :
    (ledger.withdraw key).waiting = Function.update ledger.waiting key false := by
  unfold Ledger.withdraw
  by_cases waits : ledger.waiting key = true
  · rw [if_pos waits]
  · have same : Function.update ledger.waiting key false = ledger.waiting := by
      rw [Function.update_eq_self_iff]
      exact (Bool.eq_false_iff.mpr waits).symm
    rw [if_neg waits, same]

@[simp] theorem served_place : (ledger.place key order).served = ledger.served :=
  served_withdraw ledger key

variable {id : Key × Nat}

theorem mem_dropped_withdraw : id ∈ (ledger.withdraw key).dropped ↔
    id ∈ ledger.dropped ∨ (ledger.waiting key = true ∧ id = (key, ledger.number key)) := by
  unfold Ledger.withdraw
  by_cases waits : ledger.waiting key = true
  · simp [waits]
  · simp [waits]

theorem gone_withdraw : (ledger.withdraw key).Gone id ↔
    ledger.Gone id ∨ (ledger.waiting key = true ∧ id = (key, ledger.number key)) := by
  unfold Ledger.Gone
  rw [mem_dropped_withdraw, served_withdraw, or_assoc]

theorem gone_place : (ledger.place key order).Gone id ↔
    ledger.Gone id ∨ (ledger.waiting key = true ∧ id = (key, ledger.number key)) :=
  gone_withdraw ledger key

theorem gone_serve :
    (ledger.serve key time).Gone id ↔ ledger.Gone id ∨ id = (key, ledger.number key) := by
  simp only [Ledger.Gone, Ledger.serve, List.map_append, List.map_cons, List.map_nil,
    List.mem_append, List.mem_singleton, Service.id]
  constructor
  · rintro ((earlier | same) | dropped)
    · exact .inl (.inl earlier)
    · exact .inr same
    · exact .inl (.inr dropped)
  · rintro ((earlier | dropped) | same)
    · exact .inl (.inl earlier)
    · exact .inr dropped
    · exact .inl (.inr same)

end Access

omit [DecidableEq Key] in
theorem sound_open (order : Key → Order) : (Ledger.open order).Sound where
  once := List.nodup_nil
  standing := by
    intro id member
    cases member
  past := by
    rintro id (member | member) <;> cases member
  kept := by
    intro key number positive bound
    have none : number ≤ 0 := bound
    omega
  placed := by
    intro key waits
    cases waits

omit [DecidableEq Key] in
theorem Ledger.Sound.not_gone {ledger : Ledger Key Order} (sound : ledger.Sound) {key : Key}
    (waits : ledger.waiting key = true) : ¬ ledger.Gone (key, ledger.number key) := by
  intro gone
  have earlier := (sound.past _ gone).2.2 waits
  exact absurd earlier (Nat.lt_irrefl _)

section

variable {ledger : Ledger Key Order} (sound : ledger.Sound)
include sound

theorem sound_withdraw (key : Key) :
    (ledger.withdraw key).Sound where
  once := by
    rw [served_withdraw]
    exact sound.once
  standing := by
    intro id served dropped
    rw [served_withdraw] at served
    rcases (mem_dropped_withdraw ledger key).mp dropped with earlier | ⟨waits, rfl⟩
    · exact sound.standing id served earlier
    · exact sound.not_gone waits (.inl served)
  past := by
    intro id gone
    rw [number_withdraw, waiting_withdraw]
    rcases (gone_withdraw ledger key).mp gone with earlier | ⟨waits, rfl⟩
    · obtain ⟨positive, bound, before⟩ := sound.past id earlier
      refine ⟨positive, bound, ?_⟩
      intro still
      by_cases same : id.1 = key
      · rw [same, Function.update_self] at still
        cases still
      · rw [Function.update_of_ne same] at still
        exact before still
    · refine ⟨sound.placed key waits, Nat.le_refl _, ?_⟩
      intro still
      rw [Function.update_self] at still
      cases still
  kept := by
    intro other number positive bound
    rw [number_withdraw] at bound ⊢
    rw [waiting_withdraw, gone_withdraw]
    rcases sound.kept other number positive bound with ⟨waits, last⟩ | gone
    · by_cases same : other = key
      · subst same
        exact .inr (.inr ⟨waits, by rw [last]⟩)
      · rw [Function.update_of_ne same]
        exact .inl ⟨waits, last⟩
    · exact .inr (.inl gone)
  placed := by
    intro other waits
    rw [waiting_withdraw] at waits
    rw [number_withdraw]
    by_cases same : other = key
    · rw [same, Function.update_self] at waits
      cases waits
    · rw [Function.update_of_ne same] at waits
      exact sound.placed other waits

theorem sound_place (key : Key) (order : Order) :
    (ledger.place key order).Sound where
  once := (sound_withdraw sound key).once
  standing := (sound_withdraw sound key).standing
  past := by
    intro id gone
    obtain ⟨positive, bound, before⟩ := (sound_withdraw sound key).past id gone
    rw [number_withdraw, waiting_withdraw] at before
    rw [number_withdraw] at bound
    refine ⟨positive, ?_⟩
    by_cases same : id.1 = key
    · simp only [Ledger.place, same, Function.update_self]
      rw [same] at bound
      exact ⟨by omega, fun _ => by omega⟩
    · simp only [Ledger.place, Function.update_of_ne same]
      rw [Function.update_of_ne same] at before
      exact ⟨bound, before⟩
  kept := by
    intro other number positive bound
    by_cases same : other = key
    · subst same
      simp only [Ledger.place, Function.update_self] at bound ⊢
      by_cases last : number = ledger.number other + 1
      · exact .inl ⟨trivial, last⟩
      · rcases (sound_withdraw sound other).kept other number positive
          (by rw [number_withdraw]; omega) with ⟨waits, _⟩ | gone
        · rw [waiting_withdraw, Function.update_self] at waits
          cases waits
        · exact .inr gone
    · simp only [Ledger.place, Function.update_of_ne same] at bound ⊢
      rcases sound.kept other number positive bound with waiting | gone
      · exact .inl waiting
      · exact .inr ((gone_withdraw ledger key).mpr (.inl gone))
  placed := by
    intro other waits
    by_cases same : other = key
    · simp only [Ledger.place, same, Function.update_self]
      omega
    · simp only [Ledger.place, Function.update_of_ne same] at waits ⊢
      exact sound.placed other waits

theorem sound_serve {key : Key} (waits : ledger.waiting key = true) (time : Nat) :
    (ledger.serve key time).Sound where
  once := by
    simp only [Ledger.serve, List.map_append, List.map_cons, List.map_nil]
    rw [List.nodup_append]
    refine ⟨sound.once, List.nodup_singleton _, ?_⟩
    intro id served other last same
    rw [List.mem_singleton] at last
    rw [same, last] at served
    exact sound.not_gone waits (.inl served)
  standing := by
    intro id served dropped
    rcases (gone_serve ledger key time).mp (.inl served) with gone | rfl
    · rcases gone with earlier | other
      · exact sound.standing id earlier dropped
      · simp only [Ledger.serve, List.map_append, List.map_cons, List.map_nil, List.mem_append,
          List.mem_singleton] at served
        rcases served with earlier | last
        · exact sound.standing id earlier dropped
        · rw [last] at other
          exact sound.not_gone waits (.inr other)
    · exact sound.not_gone waits (.inr dropped)
  past := by
    intro id gone
    rcases (gone_serve ledger key time).mp gone with earlier | rfl
    · obtain ⟨positive, bound, before⟩ := sound.past id earlier
      refine ⟨positive, bound, ?_⟩
      intro still
      by_cases same : id.1 = key
      · simp only [Ledger.serve, same, Function.update_self] at still
        cases still
      · simp only [Ledger.serve, Function.update_of_ne same] at still
        exact before still
    · refine ⟨sound.placed key waits, Nat.le_refl _, ?_⟩
      intro still
      simp only [Ledger.serve, Function.update_self] at still
      cases still
  kept := by
    intro other number positive bound
    rw [gone_serve]
    rcases sound.kept other number positive bound with ⟨still, last⟩ | gone
    · by_cases same : other = key
      · subst same
        exact .inr (.inr (by rw [last]))
      · refine .inl ⟨?_, last⟩
        simp only [Ledger.serve, Function.update_of_ne same]
        exact still
    · exact .inr (.inl gone)
  placed := by
    intro other still
    by_cases same : other = key
    · rw [same]
      exact sound.placed key waits
    · simp only [Ledger.serve, Function.update_of_ne same] at still
      exact sound.placed other still

end

end OneShot
