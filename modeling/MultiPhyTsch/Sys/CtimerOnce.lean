import MultiPhyTsch.Sys.CtimerDelivery

/-! Callback timers fire once and on time, in every run without a new setting under a queued expiry
event. -/

namespace MultiPhyTsch.Sys

open OneShot

variable {w : Nat} {numevents : Nat}

def Tagged (ledger : Ledger Nat (Setting w)) (event : Event) (tag : Option (Nat × Nat)) : Prop :=
  ∀ id, tag = some id → event = expiry id.1 ∧ 0 < id.2 ∧ id.2 ≤ ledger.number id.1

structure Kept (h : History w) : Prop where
  timers : TimersSound h.node
  ready : h.node.initialized = true
  sound : h.ledger.Sound
  listed : ∀ c, c ∈ h.node.ctimerList ↔ h.ledger.waiting c = true
  nodup : h.node.ctimerList.Nodup
  ctimer : ∀ c, h.node.ctimers c = (h.ledger.order c).ctimer
  timer : ∀ c, h.node.timer (.ofCtimer c) = (h.ledger.order c).timer
  begun : ∀ c, (h.ledger.order c).since ≤ h.node.ticks
  owned : ∀ c, .ofCtimer c ∈ h.node.timerlist →
    (h.node.etimers (.ofCtimer c)).p = some ctimerProcess ∧ 0 < h.ledger.number c
  heard : ∀ c, h.ledger.waiting c = true →
    .ofCtimer c ∈ h.node.timerlist ∨ expiry c ∈ h.node.events
  passed : ∀ c, expiry c ∈ h.node.events → (h.ledger.order c).deadline ≤ h.node.ticks
  tags : List.Forall₂ (Tagged h.ledger) h.node.events h.tags
  calls : h.node.calls = h.ledger.served.filterMap call
  due : ∀ service ∈ h.ledger.served, service.order.deadline ≤ service.time
  answered : ∀ id ∈ h.delivered, h.ledger.Gone id

variable {h : History w}

theorem Kept.timely (kept : Kept h) : Timely h where
  calls := kept.calls
  due := kept.due
  once := kept.sound.once
  standing := fun id served => ⟨(kept.sound.past id (.inl served)).1, kept.sound.standing id served⟩
  answered := kept.answered
  heard := kept.heard

theorem kept_booted : Kept (booted w) where
  timers := ⟨List.nodup_nil, by intro e member; cases member⟩
  ready := rfl
  sound := sound_open _
  listed := by
    intro c
    constructor
    · intro member
      cases member
    · intro waits
      cases waits
  nodup := List.nodup_nil
  ctimer := fun _ => rfl
  timer := fun _ => rfl
  begun := fun _ => Nat.zero_le _
  owned := by
    intro c member
    cases member
  heard := by
    intro c waits
    cases waits
  passed := by
    intro c member
    cases member
  tags := .nil
  calls := rfl
  due := by
    intro service member
    cases member
  answered := by
    intro id member
    cases member

variable {node : Node w}

theorem due_of_expired {setting : Setting w} (begun : setting.since ≤ node.ticks)
    (expired : timerExpired node setting.timer = true) : setting.deadline ≤ node.ticks := by
  have room : 0 < 2 ^ w := Nat.two_pow_pos w
  have elapsed : clockTime node - BitVec.ofNat w setting.since + 1 =
      BitVec.ofNat w (node.ticks - setting.since + 1) := by
    have split : node.ticks = node.ticks - setting.since + setting.since := by omega
    unfold clockTime
    rw [split, BitVec.ofNat_add, BitVec.ofNat_add, Nat.sub_add_cancel begun, BitVec.add_sub_cancel]
    rfl
  unfold timerExpired at expired
  simp only [Setting.timer, elapsed, decide_eq_true_eq, BitVec.lt_def, BitVec.toNat_ofNat] at expired
  have bound := Nat.mod_le (node.ticks - setting.since + 1) (2 ^ w)
  unfold Setting.deadline
  omega

theorem tags_after (kept : Kept h) (node : Node w)
    (same : node.events = h.node.events) (ledger : Ledger Nat (Setting w)) :
    (h.after node ledger).tags = h.tags := by
  have length := kept.tags.length_eq
  simp [History.after, same, length]

theorem Tagged.mono {ledger next : Ledger Nat (Setting w)}
    (grown : ∀ c, ledger.number c ≤ next.number c) {event : Event} {tag : Option (Nat × Nat)}
    (tagged : Tagged ledger event tag) : Tagged next event tag := by
  intro id shown
  obtain ⟨same, positive, bound⟩ := tagged id shown
  exact ⟨same, positive, Nat.le_trans bound (grown id.1)⟩

structure SameTimers (node next : Node w) : Prop where
  timers : TimersSound next
  timer : ∀ c, next.timer (.ofCtimer c) = node.timer (.ofCtimer c)
  mem : ∀ c, .ofCtimer c ∈ next.timerlist ↔ .ofCtimer c ∈ node.timerlist
  owner : ∀ c, .ofCtimer c ∈ node.timerlist →
    (next.etimers (.ofCtimer c)).p = (node.etimers (.ofCtimer c)).p
  events : next.events = node.events
  same : SameCtimers node next

theorem Kept.same_timers (kept : Kept h) {next : Node w}
    (same : SameTimers h.node next) : Kept (h.after next h.ledger) := by
  have tags := tags_after kept next same.events h.ledger
  have ticks := same.same.ticks
  have ctimerList := same.same.ctimerList
  exact
    { timers := same.timers
      ready := same.same.initialized.trans kept.ready
      sound := kept.sound
      listed := by
        intro c
        simp only [History.after, ctimerList]
        exact kept.listed c
      nodup := by
        simp only [History.after, ctimerList]
        exact kept.nodup
      ctimer := by
        intro c
        simp only [History.after, same.same.ctimers]
        exact kept.ctimer c
      timer := fun c => (same.timer c).trans (kept.timer c)
      begun := by
        intro c
        simp only [History.after, ticks]
        exact kept.begun c
      owned := by
        intro c member
        have before := (same.mem c).mp member
        obtain ⟨owner, positive⟩ := kept.owned c before
        exact ⟨(same.owner c before).trans owner, positive⟩
      heard := by
        intro c waits
        simp only [History.after, same.mem c, same.events]
        exact kept.heard c waits
      passed := by
        intro c member
        simp only [History.after, same.events, ticks] at member ⊢
        exact kept.passed c member
      tags := by
        rw [tags]
        simp only [History.after, same.events]
        exact kept.tags
      calls := same.same.calls.trans kept.calls
      due := kept.due
      answered := kept.answered }

theorem SameTimers.of_armed {node next : Node w} {k current : Nat} {timer : Timer w}
    (armed : Armed (.own k) timer current node next) : SameTimers node next where
  timers := armed.timers
  timer := by
    intro c
    unfold Node.timer
    rw [armed.others (.ofCtimer c) (by rintro ⟨⟩)]
  mem := by
    intro c
    rw [armed.mem]
    simp
  owner := by
    intro c _
    rw [armed.others (.ofCtimer c) (by rintro ⟨⟩)]
  events := armed.events
  same := armed.same

theorem SameTimers.of_stopped {node next : Node w} {k : Nat} (stopped : Stopped (.own k) node next) :
    SameTimers node next where
  timers := stopped.timers
  timer := fun c => stopped.timer (.ofCtimer c)
  mem := by
    intro c
    rw [stopped.mem]
    simp
  owner := by
    intro c _
    rw [stopped.others (.ofCtimer c) (by rintro ⟨⟩)]
  events := stopped.events
  same := stopped.same

theorem SameTimers.of_exited (kept : Kept h) {p : Nat} (other : p ≠ ctimerProcess) :
    SameTimers h.node (etimerProcessExited p h.node) where
  timers := timersSound_exited kept.timers p
  timer := fun _ => rfl
  mem := by
    intro c
    constructor
    · exact fun member => (List.mem_filter.mp member).1
    · intro member
      refine List.mem_filter.mpr ⟨member, ?_⟩
      rw [(kept.owned c member).1]
      simpa using other.symm
  owner := fun _ _ => rfl
  events := rfl
  same := ⟨rfl, rfl, rfl, rfl, rfl⟩

variable {c : Nat}

theorem Kept.place (kept : Kept h) {order : Setting w}
    (armed : Armed (.ofCtimer c) order.timer ctimerProcess
      (h.node.writeCtimer c fun _ => order.ctimer) node)
    (begun : order.since ≤ h.node.ticks)
    (settled : expiry c ∈ h.node.events → order.deadline ≤ h.node.ticks) :
    Kept (h.after (ctimerAdd c node) (h.ledger.place c order)) := by
  have events : (ctimerAdd c node).events = h.node.events := armed.events
  have ticks : (ctimerAdd c node).ticks = h.node.ticks := armed.same.ticks
  have tags := tags_after kept (ctimerAdd c node) events (h.ledger.place c order)
  have list : (ctimerAdd c node).ctimerList = listAdd h.node.ctimerList c :=
    congrArg (listAdd · c) armed.same.ctimerList
  have grown : ∀ other, h.ledger.number other ≤ (h.ledger.place c order).number other := by
    intro other
    by_cases same : other = c
    · simp only [Ledger.place, same, Function.update_self]
      omega
    · simp only [Ledger.place, Function.update_of_ne same, Nat.le_refl]
  have others : ∀ other, other ≠ c → node.etimers (.ofCtimer other) = h.node.etimers (.ofCtimer other) := by
    intro other different
    exact armed.others (.ofCtimer other) (by simpa using different)
  exact
    { timers := ⟨armed.timers.nodup, armed.timers.owned⟩
      ready := armed.same.initialized.trans kept.ready
      sound := sound_place kept.sound c order
      listed := by
        intro other
        simp only [History.after, list, mem_listAdd, Ledger.place]
        by_cases same : other = c
        · simp [same]
        · simp [same, kept.listed other]
      nodup := by
        simp only [History.after, list]
        exact nodup_listAdd kept.nodup c
      ctimer := by
        intro other
        have written : (ctimerAdd c node).ctimers =
            Function.update h.node.ctimers c order.ctimer := armed.same.ctimers
        simp only [History.after, written, Ledger.place]
        by_cases same : other = c
        · simp only [same, Function.update_self]
        · simp only [Function.update_of_ne same]
          exact kept.ctimer other
      timer := by
        intro other
        simp only [History.after, Ledger.place, Node.timer]
        by_cases same : other = c
        · rw [same, Function.update_self]
          exact congrArg Etimer.timer armed.armed
        · rw [Function.update_of_ne same]
          exact (congrArg Etimer.timer (others other same)).trans (kept.timer other)
      begun := by
        intro other
        simp only [History.after, ticks, Ledger.place]
        by_cases same : other = c
        · rw [same, Function.update_self]
          exact begun
        · rw [Function.update_of_ne same]
          exact kept.begun other
      owned := by
        intro other member
        by_cases same : other = c
        · subst same
          simp only [History.after, Ledger.place, Function.update_self]
          exact ⟨congrArg Etimer.p armed.armed, Nat.succ_pos _⟩
        · have before : .ofCtimer other ∈ h.node.timerlist :=
            ((armed.mem _).mp member).resolve_left (by simpa using same)
          obtain ⟨owner, positive⟩ := kept.owned other before
          exact ⟨(congrArg Etimer.p (others other same)).trans owner,
            Nat.lt_of_lt_of_le positive (grown other)⟩
      heard := by
        intro other waits
        simp only [History.after, events]
        by_cases same : other = c
        · exact .inl ((armed.mem _).mpr (.inl (congrArg EtimerId.ofCtimer same)))
        · simp only [History.after, Ledger.place, Function.update_of_ne same] at waits
          rcases kept.heard other waits with member | queued
          · exact .inl ((armed.mem _).mpr (.inr member))
          · exact .inr queued
      passed := by
        intro other queued
        simp only [History.after, events, ticks, Ledger.place] at queued ⊢
        by_cases same : other = c
        · subst same
          rw [Function.update_self]
          exact settled queued
        · rw [Function.update_of_ne same]
          exact kept.passed other queued
      tags := by
        rw [tags]
        simp only [History.after, events]
        exact kept.tags.imp fun _ _ => Tagged.mono grown
      calls := by
        simp only [History.after, served_place]
        exact armed.same.calls.trans kept.calls
      due := by
        simp only [History.after, served_place]
        exact kept.due
      answered := fun id delivered => (gone_place h.ledger c order).mpr (.inl (kept.answered id delivered)) }

theorem Kept.withdraw (kept : Kept h) (c : Nat) :
    Kept (h.after (ctimerStop c h.node) (h.ledger.withdraw c)) := by
  have stopped := stopped_etimerStop kept.timers (.ofCtimer c)
  have shape : ctimerStop c h.node =
      { etimerStop (.ofCtimer c) h.node with
        ctimerList := listRemove (etimerStop (.ofCtimer c) h.node).ctimerList c } := by
    unfold ctimerStop
    rw [if_pos kept.ready]
  rw [shape]
  generalize etimerStop (.ofCtimer c) h.node = node at stopped
  have tags := tags_after kept { node with ctimerList := listRemove node.ctimerList c }
    stopped.events (h.ledger.withdraw c)
  have list := stopped.same.ctimerList
  have ticks := stopped.same.ticks
  have remains : ∀ other, (h.ledger.withdraw c).waiting other = true ↔
      other ≠ c ∧ h.ledger.waiting other = true := by
    intro other
    rw [waiting_withdraw]
    by_cases same : other = c
    · simp [same]
    · simp [same]
  exact
    { timers := ⟨stopped.timers.nodup, stopped.timers.owned⟩
      ready := stopped.same.initialized.trans kept.ready
      sound := sound_withdraw kept.sound c
      listed := by
        intro other
        simp only [History.after, list]
        rw [mem_listRemove kept.nodup, remains, kept.listed other]
      nodup := by
        simp only [History.after, list]
        exact kept.nodup.erase c
      ctimer := by
        intro other
        simp only [History.after, stopped.same.ctimers, order_withdraw]
        exact kept.ctimer other
      timer := by
        intro other
        simp only [History.after, order_withdraw]
        exact (stopped.timer _).trans (kept.timer other)
      begun := by
        intro other
        simp only [History.after, ticks, order_withdraw]
        exact kept.begun other
      owned := by
        intro other member
        obtain ⟨different, before⟩ := (stopped.mem _).mp member
        simp only [History.after, number_withdraw, stopped.others _ different]
        exact kept.owned other before
      heard := by
        intro other waits
        obtain ⟨different, before⟩ := (remains other).mp waits
        simp only [History.after, stopped.events]
        rcases kept.heard other before with member | queued
        · exact .inl ((stopped.mem _).mpr ⟨by simpa using different, member⟩)
        · exact .inr queued
      passed := by
        intro other queued
        simp only [History.after, stopped.events, ticks, order_withdraw] at queued ⊢
        exact kept.passed other queued
      tags := by
        rw [tags]
        simp only [History.after, stopped.events]
        exact kept.tags.imp fun _ _ => Tagged.mono fun other => by simp
      calls := by
        simp only [History.after, served_withdraw]
        exact stopped.same.calls.trans kept.calls
      due := by
        simp only [History.after, served_withdraw]
        exact kept.due
      answered := fun id delivered => (gone_withdraw h.ledger c).mpr (.inl (kept.answered id delivered)) }

theorem Kept.idle (kept : Kept h) : Kept (h.after h.node h.ledger) :=
  kept.same_timers ⟨kept.timers, fun _ => rfl, fun _ => Iff.rfl, fun _ _ => rfl, rfl, .refl _⟩

theorem Kept.requestPoll (kept : Kept h) (poll : Bool) :
    Kept (h.after { h.node with etimerPoll := poll } h.ledger) :=
  kept.same_timers ⟨⟨kept.timers.nodup, kept.timers.owned⟩, fun _ => rfl, fun _ => Iff.rfl,
    fun _ _ => rfl, rfl, ⟨rfl, rfl, rfl, rfl, rfl⟩⟩

theorem Kept.advance (kept : Kept h) (ticks : Nat) :
    Kept (h.after (tick ticks h.node) h.ledger) := by
  have tags := tags_after kept (tick ticks h.node) rfl h.ledger
  exact
    { kept with
      timers := ⟨kept.timers.nodup, kept.timers.owned⟩
      begun := fun c => Nat.le_trans (kept.begun c) (Nat.le_add_right _ _)
      passed := fun c queued => Nat.le_trans (kept.passed c queued) (Nat.le_add_right _ _)
      tags := by
        rw [tags]
        exact kept.tags }

theorem tagged_tag {event : Event} (owned : ∀ c, event.kind = .timer (.ofCtimer c) →
      event.p = ctimerProcess ∧ 0 < h.ledger.number c) :
    Tagged h.ledger event (tag h.ledger event) := by
  intro id shown
  rcases event with ⟨p, kind⟩
  unfold tag at shown
  split at shown
  case h_1 c same =>
    obtain ⟨owner, positive⟩ := owned c same
    simp only [Option.some.injEq] at shown
    subst shown
    dsimp only at same owner
    subst same owner
    exact ⟨rfl, positive, Nat.le_refl _⟩
  case h_2 => cases shown

theorem Kept.queue (kept : Kept h) (event : Event)
    (timers : TimersSound node) (same : SameCtimers h.node node)
    (events : node.events = h.node.events ++ [event])
    (timer : ∀ c, node.timer (.ofCtimer c) = h.node.timer (.ofCtimer c))
    (owner : ∀ c, .ofCtimer c ∈ node.timerlist → .ofCtimer c ∈ h.node.timerlist ∧
      (node.etimers (.ofCtimer c)).p = (h.node.etimers (.ofCtimer c)).p)
    (left : ∀ c, .ofCtimer c ∈ h.node.timerlist → .ofCtimer c ∈ node.timerlist ∨ event = expiry c)
    (owned : ∀ c, event.kind = .timer (.ofCtimer c) →
      event.p = ctimerProcess ∧ 0 < h.ledger.number c)
    (passed : ∀ c, event = expiry c → (h.ledger.order c).deadline ≤ h.node.ticks) :
    Kept (h.after node h.ledger) := by
  have length := kept.tags.length_eq
  have tags : (h.after node h.ledger).tags = h.tags ++ [tag h.ledger event] := by
    simp [History.after, events, ← length]
  have ticks := same.ticks
  exact
    { timers := timers
      ready := same.initialized.trans kept.ready
      sound := kept.sound
      listed := by
        intro c
        simp only [History.after, same.ctimerList]
        exact kept.listed c
      nodup := by
        simp only [History.after, same.ctimerList]
        exact kept.nodup
      ctimer := by
        intro c
        simp only [History.after, same.ctimers]
        exact kept.ctimer c
      timer := fun c => (timer c).trans (kept.timer c)
      begun := by
        intro c
        simp only [History.after, ticks]
        exact kept.begun c
      owned := by
        intro c member
        obtain ⟨before, process⟩ := owner c member
        obtain ⟨shown, positive⟩ := kept.owned c before
        exact ⟨process.trans shown, positive⟩
      heard := by
        intro c waits
        simp only [History.after, events, List.mem_append, List.mem_singleton]
        rcases kept.heard c waits with member | queued
        · rcases left c member with still | posted
          · exact .inl still
          · exact .inr (.inr posted.symm)
        · exact .inr (.inl queued)
      passed := by
        intro c queued
        simp only [History.after, events, ticks, List.mem_append, List.mem_singleton] at queued ⊢
        rcases queued with earlier | last
        · exact kept.passed c earlier
        · exact passed c last.symm
      tags := by
        rw [tags]
        simp only [History.after, events]
        exact List.rel_append kept.tags (.cons (tagged_tag owned) .nil)
      calls := same.calls.trans kept.calls
      due := kept.due
      answered := kept.answered }

theorem Kept.post (kept : Kept h) (p ev : Nat) :
    Kept (h.after (processPost numevents ⟨p, .other ev⟩ h.node).2 h.ledger) := by
  unfold processPost
  by_cases full : h.node.events.length = numevents
  · rw [if_pos full]
    exact kept.idle
  · rw [if_neg full]
    refine kept.queue ⟨p, .other ev⟩ ⟨kept.timers.nodup, kept.timers.owned⟩
      ⟨rfl, rfl, rfl, rfl, rfl⟩ rfl (fun _ => rfl) (fun _ member => ⟨member, rfl⟩)
      (fun _ member => .inl member) ?_ ?_
    · intro c same
      cases same
    · intro c same
      cases same

theorem Kept.expire (kept : Kept h) {e : EtimerId} (member : e ∈ h.node.timerlist)
    (expired : timerExpired h.node (h.node.timer e) = true) (next : BitVec w) :
    Kept (h.after (h.node.expire e next) h.ledger) := by
  have mem : ∀ other, other ∈ h.node.timerlist.erase e ↔ other ≠ e ∧ other ∈ h.node.timerlist :=
    fun other => kept.timers.nodup.mem_erase_iff
  refine kept.queue ⟨(h.node.etimers e).p.getD 0, .timer e⟩ ⟨kept.timers.nodup.erase e, ?_⟩
    ⟨rfl, rfl, rfl, rfl, rfl⟩ rfl ?_ ?_ ?_ ?_ ?_
  · intro other on
    obtain ⟨different, before⟩ := (mem other).mp on
    rw [etimers_expire_of_ne next different]
    exact kept.timers.owned other before
  · exact fun c => timer_expire h.node e (.ofCtimer c) next
  · intro c on
    obtain ⟨different, before⟩ := (mem _).mp on
    exact ⟨before, by rw [etimers_expire_of_ne next different]⟩
  · intro c on
    by_cases same : EtimerId.ofCtimer c = e
    · subst same
      right
      rw [(kept.owned c on).1]
      rfl
    · exact .inl ((mem _).mpr ⟨same, on⟩)
  · intro c same
    simp only [EventKind.timer.injEq] at same
    subst same
    obtain ⟨owner, positive⟩ := kept.owned c member
    dsimp only
    rw [owner]
    exact ⟨rfl, positive⟩
  · intro c same
    simp only [expiry, Event.mk.injEq, EventKind.timer.injEq] at same
    obtain ⟨_, rfl⟩ := same
    rw [kept.timer c] at expired
    exact due_of_expired (kept.begun c) expired

theorem Kept.chain (kept : Kept h) {node last : Node w} {added more : List Event}
    (events : node.events = h.node.events ++ added) (extended : last.events = node.events ++ more)
    (chained : Kept ((h.after node h.ledger).after last h.ledger)) :
    Kept (h.after last h.ledger) := by
  have length := kept.tags.length_eq
  have same : (h.after node h.ledger).after last h.ledger = h.after last h.ledger := by
    simp [History.after, extended, events, ← length]
  rw [← same]
  exact chained

theorem Kept.pollAgain : ∀ (fuel : Nat) (pauses : List Nat) {h : History w}, Kept h →
    (∃ added, (pollAgain numevents fuel pauses h.node).events = h.node.events ++ added) ∧
      Kept (h.after (Sys.pollAgain numevents fuel pauses h.node) h.ledger) := by
  intro fuel
  induction fuel with
  | zero =>
    intro pauses h kept
    exact ⟨⟨[], (List.append_nil _).symm⟩, kept.idle⟩
  | succ fuel ih =>
    intro pauses h kept
    rcases pollAgain_cases numevents fuel pauses h.node with same | full |
      ⟨e, next, member, expired, again⟩
    · rw [same]
      exact ⟨⟨[], (List.append_nil _).symm⟩, kept.idle⟩
    · rw [full]
      exact ⟨⟨[], (List.append_nil _).symm⟩, kept.requestPoll true⟩
    · rw [again]
      have expires : (h.node.expire e next).events =
          h.node.events ++ [⟨(h.node.etimers e).p.getD 0, .timer e⟩] := rfl
      have posted : (tick (pauses.headD 0) (h.node.expire e next)).events =
          h.node.events ++ [⟨(h.node.etimers e).p.getD 0, .timer e⟩] := rfl
      have later : Kept (h.after (tick (pauses.headD 0) (h.node.expire e next)) h.ledger) :=
        kept.chain expires (List.append_nil _).symm
          ((kept.expire member expired next).advance (pauses.headD 0))
      generalize tick (pauses.headD 0) (h.node.expire e next) = node at posted later
      obtain ⟨⟨added, extended⟩, last⟩ : (∃ added,
          (Sys.pollAgain numevents fuel pauses.tail node).events = node.events ++ added) ∧
          Kept ((h.after node h.ledger).after (Sys.pollAgain numevents fuel pauses.tail node)
            h.ledger) := ih pauses.tail later
      refine ⟨⟨⟨(h.node.etimers e).p.getD 0, .timer e⟩ :: added, ?_⟩, ?_⟩
      · rw [List.append_cons, ← posted]
        exact extended
      · exact kept.chain posted extended last

theorem Kept.poll (kept : Kept h) (pauses : List Nat) :
    Kept (h.after (etimerProcess numevents pauses h.node) h.ledger) := by
  have quiet := kept.requestPoll false
  obtain ⟨⟨added, extended⟩, last⟩ :=
    @Kept.pollAgain w numevents h.node.timerlist.length pauses _ quiet
  exact kept.chain (List.append_nil _).symm extended last

theorem doEvent_other (none : running node = none) :
    doEvent node = { node with events := node.events.tail } := by
  unfold running at none
  unfold doEvent
  split
  case h_1 empty =>
    have same : node.events.tail = node.events := by rw [empty, List.tail_nil]
    rw [same]
  case h_2 event rest shown =>
    rcases event with ⟨p, kind⟩
    simp only [shown, List.head?_cons, Option.some.injEq, List.find?_eq_none,
      decide_eq_true_eq] at none
    cases kind with
    | other ev => simp [shown]
    | timer data =>
      by_cases own : p = ctimerProcess
      · subst own
        have absent : node.ctimerList.find? (fun c => EtimerId.ofCtimer c = data) = Option.none := by
          simp only [List.find?_eq_none, decide_eq_true_eq]
          rintro c member rfl
          exact none c member rfl
        simp [ctimerProcessTimer, absent, shown]
      · simp [own, shown]

theorem doEvent_running (runs : running node = some c) :
    c ∈ node.ctimerList ∧ (∃ rest, node.events = expiry c :: rest) ∧ doEvent node =
      { node with
        events := node.events.tail
        ctimerList := listRemove node.ctimerList c
        calls := node.calls ++ ((node.ctimers c).f.map fun f =>
          ⟨f, (node.ctimers c).ptr, (node.ctimers c).p, node.ticks⟩).toList } := by
  have member := List.mem_of_find?_eq_some runs
  have head := List.find?_some runs
  simp only [decide_eq_true_eq, List.head?_eq_some_iff] at head
  obtain ⟨rest, shown⟩ := head
  refine ⟨member, ⟨rest, shown⟩, ?_⟩
  have first : node.ctimerList.find? (fun other => EtimerId.ofCtimer other = .ofCtimer c) =
      some c := by
    cases found : node.ctimerList.find? fun other => EtimerId.ofCtimer other = .ofCtimer c with
    | none =>
      rw [List.find?_eq_none] at found
      exact absurd (decide_eq_true rfl) (found c member)
    | some other =>
      have same := List.find?_some found
      simp only [EtimerId.ofCtimer.injEq, decide_eq_true_eq] at same
      rw [same]
  unfold doEvent
  simp only [shown, expiry, if_true, ctimerProcessTimer, first, List.tail_cons]
  cases (node.ctimers c).f with
  | none => simp
  | some f => rfl

theorem mem_of_running_none (none : running node = none) {rest : List Event}
    (shown : node.events = expiry c :: rest) : c ∉ node.ctimerList := by
  intro member
  unfold running at none
  rw [List.find?_eq_none] at none
  exact none c member (by simp [shown])

section

variable (kept : Kept h)
include kept

theorem Kept.deliver_other (none : running h.node = none) : Kept
      { node := { h.node with events := h.node.events.tail }
        ledger := h.ledger
        tags := h.tags.tail
        delivered := h.delivered ++ (h.tags.headD Option.none).toList } where
  timers := ⟨kept.timers.nodup, kept.timers.owned⟩
  ready := kept.ready
  sound := kept.sound
  listed := kept.listed
  nodup := kept.nodup
  ctimer := kept.ctimer
  timer := kept.timer
  begun := kept.begun
  owned := kept.owned
  heard := by
    intro c waits
    rcases kept.heard c waits with member | queued
    · exact .inl member
    · right
      cases shown : h.node.events with
      | nil =>
        rw [shown] at queued
        cases queued
      | cons event rest =>
        rw [shown] at queued
        rcases List.mem_cons.mp queued with first | later
        · subst first
          exact absurd ((kept.listed c).mpr waits) (mem_of_running_none none shown)
        · exact later
  passed := fun c queued => kept.passed c (List.mem_of_mem_tail queued)
  tags := by
    have tags := kept.tags
    dsimp only
    generalize h.node.events = events at tags ⊢
    generalize h.tags = list at tags ⊢
    cases tags with
    | nil => exact .nil
    | cons _ rest => exact rest
  calls := kept.calls
  due := kept.due
  answered := by
    intro id delivered
    rcases List.mem_append.mp delivered with earlier | last
    · exact kept.answered id earlier
    · have tags := kept.tags
      cases events : h.node.events with
      | nil =>
        rw [events, List.forall₂_nil_left_iff] at tags
        rw [tags] at last
        cases last
      | cons event rest =>
        rw [events, List.forall₂_cons_left_iff] at tags
        obtain ⟨tag, others, tagged, _, shown⟩ := tags
        rw [shown, List.headD_cons, Option.mem_toList] at last
        obtain ⟨same, positive, bound⟩ := tagged id last
        rcases kept.sound.kept id.1 id.2 positive bound with ⟨waits, _⟩ | gone
        · exact absurd ((kept.listed id.1).mpr waits)
            (mem_of_running_none none (events.trans (congrArg (· :: rest) same)))
        · exact gone

theorem Kept.deliver_running (runs : running h.node = some c) : Kept
      { node := doEvent h.node
        ledger := h.ledger.serve c h.node.ticks
        tags := h.tags.tail
        delivered := h.delivered ++ (h.tags.headD Option.none).toList } := by
  obtain ⟨member, ⟨rest, events⟩, shown⟩ := doEvent_running runs
  have waits := (kept.listed c).mp member
  have queued : expiry c ∈ h.node.events := events ▸ List.mem_cons_self
  have tags := kept.tags
  rw [events, List.forall₂_cons_left_iff] at tags
  obtain ⟨tag, others, tagged, rest_tagged, tags⟩ := tags
  rw [shown]
  exact
    { timers := ⟨kept.timers.nodup, kept.timers.owned⟩
      ready := kept.ready
      sound := sound_serve kept.sound waits h.node.ticks
      listed := by
        intro other
        simp only [Ledger.serve]
        rw [mem_listRemove kept.nodup]
        by_cases same : other = c
        · simp [same]
        · simp [same, kept.listed other]
      nodup := kept.nodup.erase c
      ctimer := kept.ctimer
      timer := kept.timer
      begun := kept.begun
      owned := kept.owned
      heard := by
        intro other still
        by_cases same : other = c
        · simp only [Ledger.serve, same, Function.update_self] at still
          cases still
        · simp only [Ledger.serve, Function.update_of_ne same] at still
          rcases kept.heard other still with on | expires
          · exact .inl on
          · right
            rw [events] at expires ⊢
            rcases List.mem_cons.mp expires with first | later
            · simp only [expiry, Event.mk.injEq, EventKind.timer.injEq, EtimerId.ofCtimer.injEq,
                true_and] at first
              exact absurd first same
            · exact later
      passed := fun other later => kept.passed other (List.mem_of_mem_tail later)
      tags := by
        rw [tags]
        simp only [events, List.tail_cons]
        exact rest_tagged
      calls := by
        simp only [Ledger.serve, List.filterMap_append, kept.calls]
        congr 1
        rw [kept.ctimer c]
        cases found : (h.ledger.order c).f with
        | none => simp [Setting.ctimer, call, found]
        | some f => simp [Setting.ctimer, call, found]
      due := by
        intro service served
        rcases List.mem_append.mp served with earlier | last
        · exact kept.due service earlier
        · rw [List.mem_singleton] at last
          subst last
          exact kept.passed c queued
      answered := by
        intro id delivered
        rw [gone_serve]
        rcases List.mem_append.mp delivered with earlier | last
        · exact .inl (kept.answered id earlier)
        · rw [tags, List.headD_cons, Option.mem_toList] at last
          obtain ⟨same, positive, bound⟩ := tagged id last
          have key : id.1 = c := by
            simpa [expiry] using same.symm
          rcases kept.sound.kept id.1 id.2 positive bound with ⟨_, number⟩ | gone
          · right
            rw [← key, ← number]
          · exact .inl gone }

theorem writeCtimer_self (order : Setting w) (same : order.ctimer = (h.ledger.order c).ctimer) :
    (h.node.writeCtimer c fun _ => order.ctimer) = h.node := by
  unfold Node.writeCtimer
  rw [same, ← kept.ctimer c, Function.update_eq_self]

theorem Kept.set {t : BitVec w} {f : Option Nat} {ptr current : Nat}
    (settled : Settled h (.set c t f ptr current)) :
    Kept (h.after (ctimerSet c t f ptr current h.node)
      (h.ledger.place c ⟨f, ptr, current, h.node.ticks, t⟩)) := by
  have shape : ctimerSet c t f ptr current h.node = ctimerAdd c (etimerSet (.ofCtimer c) t
      ctimerProcess (h.node.writeCtimer c fun _ => ⟨current, f, ptr⟩)) := by
    have ready : (h.node.writeCtimer c fun _ => ⟨current, f, ptr⟩).initialized = true := kept.ready
    simp only [ctimerSet, ctimerSetWithProcess, ready, if_true]
  rw [shape]
  have written : TimersSound (h.node.writeCtimer c fun _ => ⟨current, f, ptr⟩) :=
    ⟨kept.timers.nodup, kept.timers.owned⟩
  exact kept.place (armed_etimerSet written (.ofCtimer c) t ctimerProcess) settled.1 settled.2

theorem Kept.reset (settled : Settled h (.reset c)) :
    Kept (h.after (ctimerReset c h.node) (h.ledger.place c (h.ledger.order c).reset)) := by
  unfold ctimerReset
  rw [if_pos kept.ready]
  have timer : timerReset (h.node.timer (.ofCtimer c)) = (h.ledger.order c).reset.timer := by
    rw [kept.timer c]
    simp [timerReset, Setting.timer, Setting.reset, Setting.deadline, BitVec.ofNat_add]
  have armed := armed_etimerReset kept.timers (.ofCtimer c) ctimerProcess
  rw [timer] at armed
  refine kept.place ?_ settled.1 settled.2
  rw [writeCtimer_self kept (h.ledger.order c).reset rfl]
  exact armed

theorem Kept.restart (settled : Settled h (.restart c)) :
    Kept (h.after (ctimerRestart c h.node)
      (h.ledger.place c ((h.ledger.order c).restart h.node.ticks))) := by
  unfold ctimerRestart
  rw [if_pos kept.ready]
  have timer : timerRestart h.node (h.node.timer (.ofCtimer c)) =
      ((h.ledger.order c).restart h.node.ticks).timer := by
    rw [kept.timer c]
    rfl
  have armed := armed_etimerRestart kept.timers (.ofCtimer c) ctimerProcess
  rw [timer] at armed
  refine kept.place ?_ settled.1 settled.2
  rw [writeCtimer_self kept ((h.ledger.order c).restart h.node.ticks) rfl]
  exact armed

theorem Kept.exited (p : Nat) :
    Kept (h.after (if p = ctimerProcess then h.node else etimerProcessExited p h.node) h.ledger) := by
  by_cases own : p = ctimerProcess
  · rw [if_pos own]
    exact kept.idle
  · rw [if_neg own]
    exact kept.same_timers (.of_exited kept own)

theorem Kept.deliver : Kept (h.step numevents .deliver) := by
  unfold History.step
  rw [if_pos rfl]
  cases runs : running h.node with
  | none =>
    have ledger : ledgerStep h .deliver = h.ledger := by
      simp [ledgerStep, setting, runs]
    rw [ledger, doEvent_other runs]
    exact kept.deliver_other runs
  | some c =>
    have ledger : ledgerStep h .deliver = h.ledger.serve c h.node.ticks := by
      simp [ledgerStep, setting, runs]
    rw [ledger]
    exact kept.deliver_running runs

theorem Kept.step {action : Action w} (settled : Settled h action) :
    Kept (h.step numevents action) := by
  cases action with
  | set c t f ptr current => exact kept.set settled
  | reset c => exact kept.reset settled
  | restart c => exact kept.restart settled
  | stop c => exact kept.withdraw c
  | tick ticks => exact kept.advance ticks
  | poll pauses => exact kept.poll pauses
  | deliver => exact kept.deliver
  | etimerSet k interval current =>
    exact kept.same_timers (.of_armed (armed_etimerSet kept.timers (.own k) interval current))
  | etimerReset k current =>
    exact kept.same_timers (.of_armed (armed_etimerReset kept.timers (.own k) current))
  | etimerRestart k current =>
    exact kept.same_timers (.of_armed (armed_etimerRestart kept.timers (.own k) current))
  | etimerStop k => exact kept.same_timers (.of_stopped (stopped_etimerStop kept.timers (.own k)))
  | post p ev => exact kept.post p ev
  | exited p => exact kept.exited p

end

/-- In every run whose settings find no expiry event of their timer queued, callbacks run once, on
time and with what was set. -/
theorem settled_run_timely (numevents : Nat) {actions : List (Action w)}
    (settled : Run.Meets (History.step numevents) Settled (booted w) actions) :
    Run.Always (History.step numevents) Timely (booted w) actions :=
  Run.always_of_meets Kept (fun _ kept => kept.timely) (fun _ _ kept settled => kept.step settled)
    actions (booted w) kept_booted settled

theorem settled_run_timely_twice :
    Run.Meets (History.step 8) Settled (booted 32)
      [.set 1 10 (some 7) 3 5, .tick 10, .poll [], .deliver, .set 1 20 (some 8) 4 5, .stop 1] ∧
    Run.Always (History.step 8) Timely (booted 32)
      [.set 1 10 (some 7) 3 5, .tick 10, .poll [], .deliver, .set 1 20 (some 8) 4 5, .stop 1] :=
  ⟨by decide, settled_run_timely 8 (by decide)⟩

/-- A timer that is set again while its expiry event is queued: the event is taken for that of the
new setting, whose callback runs at once. -/
theorem queued_expiry_answers_next_set :
    ¬ ∀ actions : List (Action 32), Run.Always (History.step 8) Timely (booted 32) actions := by
  intro all
  have timely := Run.always_final (all [.set 1 10 (some 7) 3 5, .tick 10, .poll [],
    .set 1 20 (some 8) 4 5, .deliver])
  have early := timely.due ⟨1, 2, ⟨some 8, 4, 5, 10, 20⟩, 10⟩ (by decide)
  revert early
  decide

end MultiPhyTsch.Sys
