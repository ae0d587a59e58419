import Mathlib.Data.Int.ModEq
import MultiPhyTsch.Sys.Process

/-! The event queue of `process.c`, for any queue size, against a bounded FIFO of events. All that
touches the queue is `process_post` and `do_event`, which takes an event out before any handler
runs: a call of `process_run` is the posts of the poll handlers, one event taken, and the posts of
the processes that it is delivered to. -/

namespace MultiPhyTsch.Events

open Process (Event)

structure EventQueue where
  nevents : UInt8
  fevent : UInt8
  events : Nat → Event

structure Queue (State : Type) where
  post : Event → State → Bool × State
  take : State → Option Event × State

inductive QueueStep where
  | post (event : Event)
  | take

/-- Whether a post succeeds, or the event that is delivered. -/
def Queue.step {State : Type} (queue : Queue State) :
    QueueStep → State → (Bool ⊕ Option Event) × State
  | .post event, state => ((queue.post event state).map .inl id)
  | .take, state => ((queue.take state).map .inr id)

def Queue.after {State : Type} (queue : Queue State) (steps : List QueueStep) (state : State) :
    State :=
  steps.foldl (fun state step => (queue.step step state).2) state

section

variable (n : Nat)

def processPost (event : Event) (queue : EventQueue) : Bool × EventQueue :=
  if queue.nevents.toNat = n then (false, queue)
  else
    let snum := (queue.fevent + queue.nevents).toNat % n
    (true, { queue with
      events := Function.update queue.events snum event
      nevents := queue.nevents + 1 })

/-- The dequeuing in `do_event`. -/
def takeEvent (queue : EventQueue) : Option Event × EventQueue :=
  if 0 < queue.nevents then
    (some (queue.events queue.fevent.toNat), { queue with
      fevent := UInt8.ofNat ((queue.fevent.toNat + 1) % n)
      nevents := queue.nevents - 1 })
  else (none, queue)

def eventQueue : Queue EventQueue := ⟨processPost n, takeEvent n⟩

def boundedFifo : Queue (List Event) where
  post event pending := if pending.length = n then (false, pending) else (true, pending ++ [event])
  take pending := (pending.head?, pending.tail)

def EventQueue.init (events : Nat → Event) : EventQueue := ⟨0, 0, events⟩

/-- After any steps, each step does what it does on the bounded FIFO, and a failing post leaves the
queue as it is. -/
def BoundedFifo : Prop := ∀ events steps step,
  ((eventQueue n).step step ((eventQueue n).after steps (.init events))).1 =
    ((boundedFifo n).step step ((boundedFifo n).after steps [])).1 ∧
  ∀ event queue, (processPost n event queue).1 = false → (processPost n event queue).2 = queue

end

structure Holds (n : Nat) (queue : EventQueue) (pending : List Event) : Prop where
  first : queue.fevent.toNat < n
  count : queue.nevents.toNat = pending.length
  bound : pending.length ≤ n
  slots : ∀ i < pending.length,
    pending[i]? = some (queue.events ((queue.fevent.toNat + i) % n))

theorem slot_injective {n f i j : Nat} (hi : i < n) (hj : j < n)
    (same : (f + i) % n = (f + j) % n) : i = j :=
  Nat.ModEq.eq_of_lt_of_lt (Nat.ModEq.add_left_cancel' f same) hi hj

variable {n : Nat} {queue : EventQueue} {pending : List Event}

namespace Holds

theorem init (positive : 0 < n) (events : Nat → Event) : Holds n (.init events) [] :=
  ⟨positive, rfl, Nat.zero_le _, fun _ short => absurd short (Nat.not_lt_zero _)⟩

/-- A post whose slot number fits in eight bits is an append. -/
theorem post (holds : Holds n queue pending) (small : n ≤ 255) (event : Event)
    (fits : queue.fevent.toNat + pending.length < 256) :
    (processPost n event queue).1 = ((boundedFifo n).post event pending).1 ∧
      Holds n (processPost n event queue).2 ((boundedFifo n).post event pending).2 := by
  obtain ⟨first, count, bound, slots⟩ := holds
  unfold processPost boundedFifo
  rw [count]
  by_cases full : pending.length = n
  · simp only [if_pos full]
    exact ⟨trivial, first, count, bound, slots⟩
  · have slot : (queue.fevent + queue.nevents).toNat % n =
        (queue.fevent.toNat + pending.length) % n := by
      rw [UInt8.toNat_add, count, Nat.mod_eq_of_lt fits]
    simp only [if_neg full, slot]
    refine ⟨trivial, first, ?_, ?_, fun i within => ?_⟩
    · rw [UInt8.toNat_add, count, List.length_append]
      exact Nat.mod_eq_of_lt (show pending.length + 1 < 256 by omega)
    · rw [List.length_append, List.length_singleton]
      omega
    · rw [List.length_append, List.length_singleton] at within
      show (pending ++ [event])[i]? = some (Function.update queue.events _ event
        ((queue.fevent.toNat + i) % n))
      by_cases last : i = pending.length
      · rw [last, Function.update_self, List.getElem?_concat_length]
      · have old : i < pending.length := by omega
        have other : (queue.fevent.toNat + i) % n ≠ (queue.fevent.toNat + pending.length) % n :=
          fun same => last (slot_injective (by omega) (by omega) same)
        rw [Function.update_of_ne other, List.getElem?_append_left old, slots i old]

theorem take (holds : Holds n queue pending) (small : n ≤ 255) :
    (takeEvent n queue).1 = pending.head? ∧ Holds n (takeEvent n queue).2 pending.tail ∧
      (pending ≠ [] → (takeEvent n queue).2.fevent.toNat = (queue.fevent.toNat + 1) % n) := by
  obtain ⟨first, count, bound, slots⟩ := holds
  unfold takeEvent
  cases pending with
  | nil =>
    have empty : ¬ 0 < queue.nevents := by
      rw [UInt8.lt_iff_toNat_lt, count]
      exact Nat.lt_irrefl 0
    rw [if_neg empty]
    exact ⟨rfl, ⟨first, count, bound, slots⟩, fun nonempty => absurd rfl nonempty⟩
  | cons event rest =>
    have some : 0 < queue.nevents := by
      rw [UInt8.lt_iff_toNat_lt, count]
      exact Nat.succ_pos _
    have next : (queue.fevent.toNat + 1) % n < n := Nat.mod_lt _ (by omega)
    have stored : (UInt8.ofNat ((queue.fevent.toNat + 1) % n)).toNat =
        (queue.fevent.toNat + 1) % n := by
      rw [UInt8.toNat_ofNat']
      exact Nat.mod_eq_of_lt (by omega)
    rw [List.length_cons] at count bound
    rw [if_pos some]
    refine ⟨?_, ⟨?_, ?_, Nat.le_of_succ_le bound, fun i within => ?_⟩, fun _ => stored⟩
    · have head := slots 0 (Nat.succ_pos _)
      rw [Nat.add_zero, Nat.mod_eq_of_lt first] at head
      exact head.symm
    · rw [stored]
      exact next
    · rw [UInt8.toNat_sub_of_le _ _ (by rw [UInt8.le_iff_toNat_le, count]; simp), count]
      rfl
    · have later := slots (i + 1) (Nat.succ_lt_succ within)
      rw [stored, Nat.mod_add_mod, Nat.add_assoc, Nat.add_comm 1 i]
      exact later

theorem step (half : n ≤ 128) (step : QueueStep) (holds : Holds n queue pending) :
    ((eventQueue n).step step queue).1 = ((boundedFifo n).step step pending).1 ∧
      Holds n ((eventQueue n).step step queue).2 ((boundedFifo n).step step pending).2 := by
  have first := holds.first
  have bound := holds.bound
  cases step with
  | post event =>
    obtain ⟨accepted, next⟩ := holds.post (by omega) event (by omega)
    exact ⟨congrArg Sum.inl accepted, next⟩
  | take =>
    obtain ⟨delivered, next, _⟩ := holds.take (by omega)
    exact ⟨congrArg Sum.inr delivered, next⟩

theorem after (half : n ≤ 128) (steps : List QueueStep) (holds : Holds n queue pending) :
    Holds n ((eventQueue n).after steps queue) ((boundedFifo n).after steps pending) := by
  induction steps generalizing queue pending with
  | nil => exact holds
  | cons step rest ih => exact ih (holds.step half step).2

end Holds

theorem after_append {State : Type} (queue : Queue State) (first second : List QueueStep)
    (state : State) :
    queue.after (first ++ second) state = queue.after second (queue.after first state) :=
  List.foldl_append

def anEvent : Event := ⟨1, none, none⟩

def anotherEvent : Event := ⟨2, none, none⟩

/-- Events that go through the queue one by one. -/
def cycles : Nat → List QueueStep
  | 0 => []
  | count + 1 => cycles count ++ [.post anEvent, .take]

theorem processPost_fevent (n : Nat) (event : Event) (queue : EventQueue) :
    (processPost n event queue).2.fevent = queue.fevent := by
  unfold processPost
  split <;> rfl

section

variable (small : n ≤ 255)
include small

theorem cycles_holds (count : Nat) (before : count < n) (events : Nat → Event) :
    Holds n ((eventQueue n).after (cycles count) (.init events)) [] ∧
      ((eventQueue n).after (cycles count) (.init events)).fevent.toNat = count ∧
      (boundedFifo n).after (cycles count) [] = [] := by
  induction count with
  | zero => exact ⟨.init before _, rfl, rfl⟩
  | succ count ih =>
    obtain ⟨holds, first, empty⟩ := ih (by omega)
    have appended : (boundedFifo n).post anEvent [] = (true, [anEvent]) :=
      if_neg fun full => absurd full (by simp only [List.length_nil]; omega)
    have posted := (holds.post small anEvent (by simp only [List.length_nil]; omega)).2
    rw [appended] at posted
    obtain ⟨_, taken, next⟩ := posted.take small
    rw [cycles, after_append, after_append, empty]
    refine ⟨taken, ?_, congrArg (List.tail ∘ Prod.snd) appended⟩
    refine (next (List.cons_ne_nil _ _)).trans ?_
    rw [processPost_fevent, first, Nat.mod_eq_of_lt before]

theorem posts_hold (count : Nat) (room : count < n) (holds : Holds n queue [])
    (fits : queue.fevent.toNat + count ≤ 256) :
    Holds n ((eventQueue n).after (List.replicate count (.post anEvent)) queue)
        (List.replicate count anEvent) ∧
      ((eventQueue n).after (List.replicate count (.post anEvent)) queue).fevent = queue.fevent ∧
      (boundedFifo n).after (List.replicate count (.post anEvent)) [] =
        List.replicate count anEvent := by
  induction count with
  | zero => exact ⟨holds, rfl, rfl⟩
  | succ count ih =>
    obtain ⟨holds, first, pending⟩ := ih (by omega) (by omega)
    have appended : (boundedFifo n).post anEvent (List.replicate count anEvent) =
        (true, List.replicate (count + 1) anEvent) := by
      rw [List.replicate_succ']
      exact if_neg fun full => by
        rw [List.length_replicate] at full
        omega
    have posted := (holds.post small anEvent (by
      rw [first, List.length_replicate]
      omega)).2
    rw [appended] at posted
    rw [List.replicate_succ' (n := count), after_append, after_append, pending]
    exact ⟨posted, (processPost_fevent _ _ _).trans first, congrArg Prod.snd appended⟩

theorem overwritten (large : 128 < n) (first : queue.fevent.toNat = n - 1)
    (count : queue.nevents.toNat = 257 - n) :
    (takeEvent n (takeEvent n (processPost n anotherEvent queue).2).2).1 = some anotherEvent := by
  have room : ¬ queue.nevents.toNat = n := by omega
  have slot : (queue.fevent + queue.nevents).toNat % n = 0 := by
    rw [UInt8.toNat_add, first, count, show n - 1 + (257 - n) = 2 ^ 8 by omega, Nat.mod_self,
      Nat.zero_mod]
  have back : queue.nevents + 1 - 1 = queue.nevents := UInt8.add_sub_cancel _ _
  have some : 0 < queue.nevents := by
    rw [UInt8.lt_iff_toNat_lt, count]
    exact Nat.sub_pos_of_lt (by omega)
  have more : 0 < queue.nevents + 1 := by
    rw [UInt8.lt_iff_toNat_lt, UInt8.toNat_add, count]
    show 0 < (257 - n + 1) % 256
    omega
  have wrapped : (queue.fevent.toNat + 1) % n = 0 := by
    rw [first, Nat.sub_add_cancel (by omega), Nat.mod_self]
  simp only [processPost, if_neg room, slot, takeEvent, if_pos more, back, if_pos some, wrapped]
  rfl

/-- Behind slot 255 the next event overwrites the one in slot 0, the second in the queue. -/
theorem not_boundedFifo (large : 128 < n) : ¬ BoundedFifo n := by
  intro fifo
  have same := (fifo (fun _ => anEvent) (cycles (n - 1) ++
    (List.replicate (257 - n) (.post anEvent) ++ [.post anotherEvent, .take])) .take).1
  obtain ⟨holds, first, empty⟩ := cycles_holds small (n - 1) (by omega) fun _ => anEvent
  obtain ⟨filled, kept, pending⟩ := posts_hold small (257 - n) (by omega) holds (by omega)
  rw [after_append, after_append, after_append, after_append, empty, pending] at same
  have concrete := overwritten small large (kept ▸ first) (filled.count.trans List.length_replicate)
  obtain ⟨more, rest⟩ : ∃ more, 257 - n = more + 2 := ⟨255 - n, by omega⟩
  have appended : (boundedFifo n).post anotherEvent (List.replicate (257 - n) anEvent) =
      (true, anEvent :: anEvent :: (List.replicate more anEvent ++ [anotherEvent])) := by
    rw [rest]
    exact if_neg fun full => by
      rw [List.length_replicate] at full
      omega
  have abstract : ((boundedFifo n).step .take ((boundedFifo n).after [.post anotherEvent, .take]
      (List.replicate (257 - n) anEvent))).1 = .inr (some anEvent) := by
    show Sum.inr ((boundedFifo n).post anotherEvent (List.replicate (257 - n) anEvent)).2.tail.head? = _
    rw [appended]
    rfl
  have delivered := Sum.inr.inj (same.trans abstract)
  exact absurd (concrete.symm.trans delivered) (by decide)

end

/-- The queue is a bounded FIFO up to 128 events: from 129 on, the sum of `fevent` and `nevents` can
pass 255, and the cast to eight bits comes before the remainder. -/
theorem eventQueue_fifo {n : Nat} (positive : 0 < n) (small : n ≤ 255) :
    BoundedFifo n ↔ n ≤ 128 := by
  refine ⟨fun fifo => ?_, fun half events steps step => ?_⟩
  · by_contra large
    exact not_boundedFifo small (by omega) fifo
  · refine ⟨(((Holds.init positive events).after half steps).step half step).1,
      fun event queue failed => ?_⟩
    unfold processPost at failed ⊢
    split at failed
    · next full => rw [if_pos full]
    · cases failed

theorem eventQueue_fifo_default : BoundedFifo 32 :=
  (eventQueue_fifo (by decide) (by decide)).mpr (by decide)

theorem eventQueue_overwrites : ¬ BoundedFifo 200 := not_boundedFifo (by decide) (by decide)

end MultiPhyTsch.Events
