import MultiPhyTsch.Sys.Etimer

/-! What the functions of `etimer.c` do to the list of event timers: the list holds a timer once,
and a timer on it has a process. -/

namespace MultiPhyTsch.Sys

variable {w : Nat}

structure TimersSound (node : Node w) : Prop where
  nodup : node.timerlist.Nodup
  owned : ∀ e ∈ node.timerlist, (node.etimers e).p ≠ none

structure SameCtimers (node next : Node w) : Prop where
  ticks : next.ticks = node.ticks
  ctimers : next.ctimers = node.ctimers
  ctimerList : next.ctimerList = node.ctimerList
  initialized : next.initialized = node.initialized
  calls : next.calls = node.calls

theorem SameCtimers.refl (node : Node w) : SameCtimers node node := ⟨rfl, rfl, rfl, rfl, rfl⟩

structure Armed (e : EtimerId) (timer : Timer w) (current : Nat) (node next : Node w) : Prop where
  timers : TimersSound next
  armed : next.etimers e = ⟨timer, some current⟩
  others : ∀ other, other ≠ e → next.etimers other = node.etimers other
  mem : ∀ other, other ∈ next.timerlist ↔ other = e ∨ other ∈ node.timerlist
  events : next.events = node.events
  same : SameCtimers node next

structure Stopped (e : EtimerId) (node next : Node w) : Prop where
  timers : TimersSound next
  timer : ∀ other, next.timer other = node.timer other
  others : ∀ other, other ≠ e → next.etimers other = node.etimers other
  mem : ∀ other, other ∈ next.timerlist ↔ other ≠ e ∧ other ∈ node.timerlist
  events : next.events = node.events
  same : SameCtimers node next

theorem updateTime_eq (node : Node w) :
    ∃ next, updateTime node = { node with nextExpiration := next } := by
  unfold updateTime
  split
  · exact ⟨_, rfl⟩
  · exact ⟨_, rfl⟩

variable {node : Node w}

section

variable (sound : TimersSound node)
include sound

variable (e : EtimerId)

theorem armed_addTimer (timer : Timer w) (current : Nat) :
    Armed e timer current node
      (addTimer e current (node.writeEtimer e fun etimer => { etimer with timer := timer })) := by
  have listed : ∀ (next : BitVec w) (list : List EtimerId), list.Nodup →
      (∀ other, other ∈ list ↔ other = e ∨ other ∈ node.timerlist) →
      Armed e timer current node
        { node with
          etimerPoll := true, nextExpiration := next, timerlist := list
          etimers := Function.update node.etimers e ⟨timer, some current⟩ } := by
    intro next list nodup mem
    refine ⟨⟨nodup, ?_⟩, Function.update_self .., ?_, mem, rfl, ⟨rfl, rfl, rfl, rfl, rfl⟩⟩
    · intro other member
      dsimp only at member ⊢
      by_cases same : other = e
      · rw [same, Function.update_self]
        exact Option.some_ne_none _
      · rw [Function.update_of_ne same]
        exact sound.owned other (((mem other).mp member).resolve_left same)
    · intro other different
      exact Function.update_of_ne different ..
  have owner : ((node.writeEtimer e fun etimer => { etimer with timer := timer }).etimers e).p =
      (node.etimers e).p := by
    simp [Node.writeEtimer]
  unfold addTimer
  dsimp only [etimerRequestPoll]
  simp only [owner]
  split
  case isTrue on =>
    obtain ⟨next, shown⟩ := updateTime_eq (Node.writeEtimer
      { node.writeEtimer e fun etimer => { etimer with timer := timer } with etimerPoll := true }
      e fun etimer => { etimer with p := some current })
    rw [shown]
    have both := listed next node.timerlist sound.nodup (by
      intro other
      constructor
      · exact .inr
      · rintro (rfl | member)
        · exact on.2
        · exact member)
    simpa [Node.writeEtimer] using both
  case isFalse off =>
    have fresh : e ∉ node.timerlist := fun member => off ⟨sound.owned e member, member⟩
    obtain ⟨next, shown⟩ := updateTime_eq (w := w) _
    rw [shown]
    have both := listed next (e :: node.timerlist) (List.nodup_cons.mpr ⟨fresh, sound.nodup⟩)
      (fun other => List.mem_cons)
    simpa [Node.writeEtimer] using both

theorem armed_etimerSet (interval : BitVec w) (current : Nat) :
    Armed e ⟨clockTime node, interval⟩ current node (etimerSet e interval current node) :=
  armed_addTimer sound e ⟨clockTime node, interval⟩ current

theorem armed_etimerReset (current : Nat) :
    Armed e (timerReset (node.timer e)) current node (etimerReset e current node) :=
  armed_addTimer sound e (timerReset (node.timer e)) current

theorem armed_etimerRestart (current : Nat) :
    Armed e (timerRestart node (node.timer e)) current node (etimerRestart e current node) :=
  armed_addTimer sound e (timerRestart node (node.timer e)) current

theorem stopped_etimerStop :
    Stopped e node (etimerStop e node) := by
  have shape : ∃ next, etimerStop e node =
      { node with
        nextExpiration := next, timerlist := node.timerlist.erase e
        etimers := Function.update node.etimers e { node.etimers e with p := none } } := by
    unfold etimerStop
    by_cases on : e ∈ node.timerlist
    · obtain ⟨next, shown⟩ := updateTime_eq { node with timerlist := node.timerlist.erase e }
      simp only [if_pos on, shown]
      exact ⟨next, rfl⟩
    · simp only [if_neg on]
      exact ⟨node.nextExpiration, by rw [List.erase_of_not_mem on]; rfl⟩
  obtain ⟨next, shown⟩ := shape
  rw [shown]
  have mem : ∀ other, other ∈ node.timerlist.erase e ↔ other ≠ e ∧ other ∈ node.timerlist :=
    fun other => sound.nodup.mem_erase_iff
  refine ⟨⟨sound.nodup.erase e, ?_⟩, ?_, ?_, mem, rfl, ⟨rfl, rfl, rfl, rfl, rfl⟩⟩
  · intro other member
    obtain ⟨different, on⟩ := (mem other).mp member
    dsimp only
    rw [Function.update_of_ne different]
    exact sound.owned other on
  · intro other
    by_cases same : other = e
    · simp [Node.timer, same]
    · simp [Node.timer, Function.update_of_ne same]
  · intro other different
    exact Function.update_of_ne different ..

theorem timersSound_exited (p : Nat) :
    TimersSound (etimerProcessExited p node) :=
  ⟨sound.nodup.filter _, fun e member => sound.owned e (List.mem_filter.mp member).1⟩

end

def Node.expire (node : Node w) (e : EtimerId) (next : BitVec w) : Node w :=
  { node with
    events := node.events ++ [⟨(node.etimers e).p.getD 0, .timer e⟩]
    etimers := Function.update node.etimers e { node.etimers e with p := none }
    timerlist := node.timerlist.erase e
    nextExpiration := next }

theorem etimers_expire_of_ne {e other : EtimerId} (next : BitVec w)
    (different : other ≠ e) : (node.expire e next).etimers other = node.etimers other :=
  Function.update_of_ne different ..

theorem timer_expire (node : Node w) (e other : EtimerId) (next : BitVec w) :
    (node.expire e next).timer other = node.timer other := by
  by_cases same : other = e
  · simp [Node.expire, Node.timer, same]
  · exact congrArg Etimer.timer (etimers_expire_of_ne next same)

theorem pollAgain_cases (numevents fuel : Nat) (pauses : List Nat) (node : Node w) :
    pollAgain numevents (fuel + 1) pauses node = node ∨
    pollAgain numevents (fuel + 1) pauses node = etimerRequestPoll node ∨
    ∃ e next, e ∈ node.timerlist ∧ timerExpired node (node.timer e) = true ∧
      pollAgain numevents (fuel + 1) pauses node =
        pollAgain numevents fuel pauses.tail (tick (pauses.headD 0) (node.expire e next)) := by
  rw [pollAgain]
  split
  case h_1 => exact .inl rfl
  case h_2 e found =>
    right
    have member := List.mem_of_find?_eq_some found
    have expired := List.find?_some found
    unfold processPost
    by_cases full : node.events.length = numevents
    · simp only [if_pos full]
      exact .inl trivial
    · simp only [if_neg full]
      obtain ⟨next, shown⟩ := updateTime_eq (w := w) _
      rw [shown]
      exact .inr ⟨e, next, member, expired, rfl⟩

end MultiPhyTsch.Sys
