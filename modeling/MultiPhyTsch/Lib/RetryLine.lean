import Mathlib.Algebra.BigOperators.Group.List.Basic
import Mathlib.Algebra.GroupWithZero.Nat
import Mathlib.Data.List.Nodup
import Mathlib.Logic.Function.Basic

/-! Requests that wait in one line for each key. The first of a line is tried until an outcome is
final or its limit of attempts is reached; an attempt may be preceded by collisions, and too many of
them in a row are an attempt of their own. The log tells what happened to each request. -/

namespace RetryLine

inductive Kind where
  | passed
  | failed
  | collided
  | broken
deriving DecidableEq, Repr

inductive Entry (Req Status : Type) where
  | accepted (request : Req)
  | dropped (request : Req)
  | tried (request : Req) (status : Status)
  | completed (request : Req) (status : Status) (count : Nat)

structure Rules (Key Req Status : Type) where
  key : Req → Key
  limit : Req → Nat
  kind : Status → Kind
  patience : Nat

structure Desk (Key Req Status : Type) where
  line : Key → List Req
  attempts : Key → Nat
  collisions : Key → Nat
  log : List (Entry Req Status)

variable {Key Req Status : Type} (rules : Rules Key Req Status)

def Desk.open : Desk Key Req Status := ⟨fun _ => [], fun _ => 0, fun _ => 0, []⟩

def countAttempts (status : Status) (attempts collisions : Nat) : Nat :=
  match rules.kind status with
  | .passed => attempts + 1
  | .failed => attempts + 1
  | .collided => if rules.patience < collisions + 1 then attempts + 1 else attempts
  | .broken => attempts

def countCollisions (status : Status) (collisions : Nat) : Nat :=
  match rules.kind status with
  | .passed => 0
  | .failed => 0
  | .collided => if rules.patience < collisions + 1 then 0 else collisions + 1
  | .broken => collisions

def Finishes (request : Req) (status : Status) (attempts : Nat) : Prop :=
  match rules.kind status with
  | .passed => True
  | .broken => True
  | .failed => rules.limit request ≤ attempts
  | .collided => rules.limit request ≤ attempts

instance (request : Req) (status : Status) (attempts : Nat) :
    Decidable (Finishes rules request status attempts) := by
  unfold Finishes
  cases rules.kind status <;> exact inferInstance

/-- At most `patience` collisions and an outcome that is none, or one collision more than that. -/
def IsAttempt (outcomes : List Status) : Prop :=
  ∃ before last, outcomes = before ++ [last] ∧ (∀ status ∈ before, rules.kind status = .collided) ∧
    before.length ≤ rules.patience ∧
    (rules.kind last = .collided → before.length = rules.patience)

structure Served (request : Req) (outcomes : List Status) (status : Status) (count : Nat) : Prop where
  attempts : ∃ attempts : List (List Status), attempts.flatten = outcomes ∧
    (∀ attempt ∈ attempts, IsAttempt rules attempt) ∧ attempts.length ≤ rules.limit request ∧
    attempts.length = if rules.kind status = .broken then count + 1 else count
  last : outcomes.getLast? = some status
  retried : ∀ earlier ∈ outcomes.dropLast,
    rules.kind earlier = .failed ∨ rules.kind earlier = .collided
  exhausted : rules.kind status = .failed ∨ rules.kind status = .collided →
    count = rules.limit request

structure Trying (request : Req) (outcomes : List Status) (attempts collisions : Nat) : Prop where
  split : ∃ (past : List (List Status)) (current : List Status), outcomes = past.flatten ++ current ∧
    (∀ attempt ∈ past, IsAttempt rules attempt) ∧ past.length = attempts ∧
    (∀ status ∈ current, rules.kind status = .collided) ∧ current.length = collisions
  retried : ∀ status ∈ outcomes, rules.kind status = .failed ∨ rules.kind status = .collided
  below : attempts < rules.limit request
  patient : collisions ≤ rules.patience

variable {request : Req}

theorem Trying.start (positive : 0 < rules.limit request) : Trying rules request [] 0 0 := by
  refine ⟨⟨[], [], rfl, ?_, rfl, ?_, rfl⟩, ?_, positive, Nat.zero_le _⟩
  · intro attempt member
    cases member
  · intro status member
    cases member
  · intro status member
    cases member

variable {status : Status}

theorem isAttempt_concat {current : List Status}
    (collided : ∀ other ∈ current, rules.kind other = .collided)
    (patient : current.length ≤ rules.patience)
    (full : rules.kind status = .collided → current.length = rules.patience) :
    IsAttempt rules (current ++ [status]) :=
  ⟨current, status, rfl, collided, patient, full⟩

variable {attempts collisions : Nat}

section

variable {outcomes : List Status} (trying : Trying rules request outcomes attempts collisions)
include trying

theorem Trying.attempt_done (full : rules.kind status = .collided → collisions = rules.patience) :
    ∃ past : List (List Status), past.flatten = outcomes ++ [status] ∧
      (∀ attempt ∈ past, IsAttempt rules attempt) ∧ past.length = attempts + 1 := by
  obtain ⟨past, current, rfl, good, count, collided, length⟩ := trying.split
  have patient := trying.patient
  refine ⟨past ++ [current ++ [status]], ?_, ?_, ?_⟩
  · rw [List.flatten_append, List.flatten_singleton, List.append_assoc]
  · intro attempt member
    rcases List.mem_append.mp member with earlier | last
    · exact good attempt earlier
    · rw [List.mem_singleton] at last
      subst last
      exact isAttempt_concat rules collided (by omega) (fun same => length.trans (full same))
  · simp [count]

theorem Trying.retry
    (again : ¬ Finishes rules request status (countAttempts rules status attempts collisions)) :
    Trying rules request (outcomes ++ [status]) (countAttempts rules status attempts collisions)
      (countCollisions rules status collisions) := by
  have patient := trying.patient
  have below := trying.below
  have extended : rules.kind status = .failed ∨ rules.kind status = .collided →
      ∀ other ∈ outcomes ++ [status], rules.kind other = .failed ∨ rules.kind other = .collided := by
    intro kind other member
    rcases List.mem_append.mp member with earlier | last
    · exact trying.retried other earlier
    · rw [List.mem_singleton] at last
      exact last ▸ kind
  have ended : rules.kind status = .failed ∨ rules.kind status = .collided →
      (rules.kind status = .collided → collisions = rules.patience) →
      attempts + 1 < rules.limit request →
      Trying rules request (outcomes ++ [status]) (attempts + 1) 0 := by
    intro kind full room
    obtain ⟨past, flat, good, count⟩ := trying.attempt_done rules full
    refine ⟨⟨past, [], ?_, good, count, ?_, rfl⟩, extended kind, room, Nat.zero_le _⟩
    · rw [List.append_nil, flat]
    · intro other member
      cases member
  unfold Finishes countAttempts at again
  unfold countAttempts countCollisions
  cases kind : rules.kind status with
  | passed => simp [kind] at again
  | broken => simp [kind] at again
  | failed =>
    simp only [kind] at again ⊢
    exact ended (Or.inl kind) (fun same => by rw [kind] at same; cases same) (by omega)
  | collided =>
    simp only [kind] at again ⊢
    by_cases full : rules.patience < collisions + 1
    · simp only [if_pos full] at again ⊢
      exact ended (Or.inr kind) (fun _ => by omega) (by omega)
    · simp only [if_neg full]
      obtain ⟨past, current, rfl, good, count, collided, length⟩ := trying.split
      refine ⟨⟨past, current ++ [status], ?_, good, count, ?_, ?_⟩, extended (Or.inr kind), below,
        by omega⟩
      · rw [List.append_assoc]
      · intro other member
        rcases List.mem_append.mp member with earlier | last
        · exact collided other earlier
        · rw [List.mem_singleton] at last
          exact last ▸ kind
      · simp [length]

theorem Trying.finish
    (done : Finishes rules request status (countAttempts rules status attempts collisions)) :
    Served rules request (outcomes ++ [status]) status
      (countAttempts rules status attempts collisions) := by
  have patient := trying.patient
  have below := trying.below
  have full : rules.kind status = .collided → rules.patience < collisions + 1 := by
    intro kind
    by_contra short
    simp only [Finishes, countAttempts, kind, if_neg short] at done
    omega
  have count : countAttempts rules status attempts collisions =
      if rules.kind status = .broken then attempts else attempts + 1 := by
    unfold countAttempts
    cases kind : rules.kind status with
    | passed => rfl
    | failed => rfl
    | collided => simp [full kind]
    | broken => rfl
  refine ⟨?_, ?_, ?_, ?_⟩
  · have ended : rules.kind status = .collided → collisions = rules.patience := by
      intro kind
      have := full kind
      omega
    obtain ⟨past, flat, good, length⟩ := trying.attempt_done rules ended
    refine ⟨past, flat, good, by omega, ?_⟩
    rw [count, length]
    split <;> rfl
  · simp
  · intro earlier member
    rw [List.dropLast_concat] at member
    exact trying.retried earlier member
  · intro kind
    rw [count] at done ⊢
    unfold Finishes at done
    rcases kind with failed | collided
    · simp only [failed] at done ⊢
      simp only [reduceCtorEq, if_false] at done ⊢
      omega
    · simp only [collided] at done ⊢
      simp only [reduceCtorEq, if_false] at done ⊢
      omega

end

theorem budget_again (patient : collisions ≤ rules.patience)
    (again : ¬ Finishes rules request status (countAttempts rules status attempts collisions)) :
    attempts * (rules.patience + 1) + collisions + 1 ≤
      countAttempts rules status attempts collisions * (rules.patience + 1) +
        countCollisions rules status collisions := by
  have whole : (attempts + 1) * (rules.patience + 1) =
      attempts * (rules.patience + 1) + (rules.patience + 1) := Nat.succ_mul _ _
  unfold Finishes at again
  unfold countAttempts countCollisions
  cases kind : rules.kind status with
  | passed => simp [kind] at again
  | broken => simp [kind] at again
  | failed =>
    dsimp only
    omega
  | collided =>
    dsimp only
    split
    · omega
    · omega

theorem Trying.length_lt {outcomes : List Status}
    (trying : Trying rules request outcomes attempts collisions) :
    attempts * (rules.patience + 1) + collisions < rules.limit request * (rules.patience + 1) := by
  have patient := trying.patient
  have whole : (attempts + 1) * (rules.patience + 1) ≤ rules.limit request * (rules.patience + 1) :=
    Nat.mul_le_mul_right _ trying.below
  rw [Nat.add_mul, Nat.one_mul] at whole
  omega

variable [DecidableEq Key]

def accepted (key : Key) (log : List (Entry Req Status)) : List Req :=
  log.filterMap fun
    | .accepted request => if rules.key request = key then some request else none
    | _ => none

def completed (key : Key) (log : List (Entry Req Status)) : List Req :=
  log.filterMap fun
    | .completed request _ _ => if rules.key request = key then some request else none
    | _ => none

def tries (key : Key) (log : List (Entry Req Status)) : Nat :=
  log.countP fun
    | .tried request _ => rules.key request = key
    | _ => false

theorem mem_accepted {key : Key} {log : List (Entry Req Status)} :
    request ∈ accepted rules key log ↔ .accepted request ∈ log ∧ rules.key request = key := by
  rw [accepted, List.mem_filterMap]
  constructor
  · rintro ⟨entry, member, found⟩
    cases entry with
    | accepted other =>
      simp only [Option.ite_none_right_eq_some, Option.some.injEq] at found
      obtain ⟨same, rfl⟩ := found
      exact ⟨member, same⟩
    | dropped other => cases found
    | tried other status => cases found
    | completed other status count => cases found
  · rintro ⟨member, same⟩
    exact ⟨_, member, if_pos same⟩

theorem mem_completed {key : Key} {log : List (Entry Req Status)} :
    request ∈ completed rules key log ↔
      (∃ status count, .completed request status count ∈ log) ∧ rules.key request = key := by
  rw [completed, List.mem_filterMap]
  constructor
  · rintro ⟨entry, member, found⟩
    cases entry with
    | completed other status count =>
      simp only [Option.ite_none_right_eq_some, Option.some.injEq] at found
      obtain ⟨same, rfl⟩ := found
      exact ⟨⟨status, count, member⟩, same⟩
    | accepted other => cases found
    | dropped other => cases found
    | tried other status => cases found
  · rintro ⟨⟨status, count, member⟩, same⟩
    exact ⟨_, member, if_pos same⟩

variable (key : Key)

variable (log more : List (Entry Req Status))

theorem accepted_append :
    accepted rules key (log ++ more) = accepted rules key log ++ accepted rules key more :=
  List.filterMap_append

theorem completed_append :
    completed rules key (log ++ more) = completed rules key log ++ completed rules key more :=
  List.filterMap_append

theorem tries_append :
    tries rules key (log ++ more) = tries rules key log + tries rules key more :=
  List.countP_append

theorem accepted_singleton (request : Req) :
    accepted rules key [(.accepted request : Entry Req Status)] =
      if rules.key request = key then [request] else [] := by
  by_cases same : rules.key request = key <;> simp [accepted, same]

theorem completed_served (request : Req) (status : Status) (count : Nat) :
    completed rules key [.tried request status, .completed request status count] =
      if rules.key request = key then [request] else [] := by
  by_cases same : rules.key request = key <;> simp [completed, same]

theorem tries_tried (request : Req) (status : Status) (rest : List (Entry Req Status)) :
    tries rules key (.tried request status :: rest) =
      tries rules key rest + if rules.key request = key then 1 else 0 := by
  simp [tries, List.countP_cons]

variable [DecidableEq Req]

def outcomes (request : Req) (log : List (Entry Req Status)) : List Status :=
  log.filterMap fun
    | .tried other status => if other = request then some status else none
    | _ => none

theorem outcomes_append (request : Req) (log more : List (Entry Req Status)) :
    outcomes request (log ++ more) = outcomes request log ++ outcomes request more :=
  List.filterMap_append

theorem outcomes_tried (request other : Req) (status : Status) (rest : List (Entry Req Status)) :
    outcomes other (.tried request status :: rest) =
      (if request = other then [status] else []) ++ outcomes other rest := by
  by_cases same : request = other <;> simp [outcomes, same]

def Desk.join (request : Req) (desk : Desk Key Req Status) : Desk Key Req Status :=
  { desk with
    line := Function.update desk.line (rules.key request) (desk.line (rules.key request) ++ [request])
    log := desk.log ++ [.accepted request] }

def Desk.turnAway (request : Req) (desk : Desk Key Req Status) : Desk Key Req Status :=
  { desk with log := desk.log ++ [.dropped request] }

def Desk.serve (key : Key) (status : Status) (desk : Desk Key Req Status) : Desk Key Req Status :=
  match desk.line key with
  | [] => desk
  | request :: rest =>
    let attempts := countAttempts rules status (desk.attempts key) (desk.collisions key)
    if Finishes rules request status attempts then
      { line := Function.update desk.line key rest
        attempts := Function.update desk.attempts key 0
        collisions := Function.update desk.collisions key 0
        log := desk.log ++ [.tried request status, .completed request status attempts] }
    else
      { desk with
        attempts := Function.update desk.attempts key attempts
        collisions := Function.update desk.collisions key
          (countCollisions rules status (desk.collisions key))
        log := desk.log ++ [.tried request status] }

structure Ledger (desk : Desk Key Req Status) : Prop where
  fifo : ∀ key, accepted rules key desk.log = completed rules key desk.log ++ desk.line key
  nodup : ∀ key, (accepted rules key desk.log).Nodup
  limits : ∀ key, ∀ request ∈ desk.line key, 0 < rules.limit request
  idle : ∀ key, desk.line key = [] → desk.attempts key = 0 ∧ desk.collisions key = 0
  served : ∀ request status count, .completed request status count ∈ desk.log →
    Served rules request (outcomes request desk.log) status count
  trying : ∀ key request rest, desk.line key = request :: rest →
    Trying rules request (outcomes request desk.log) (desk.attempts key) (desk.collisions key)
  quiet : ∀ request, request ∉ completed rules (rules.key request) desk.log →
    (∀ rest, desk.line (rules.key request) ≠ request :: rest) → outcomes request desk.log = []
  budget : ∀ key, tries rules key desk.log ≤
    ((completed rules key desk.log).map fun request =>
      rules.limit request * (rules.patience + 1)).sum +
    (desk.attempts key * (rules.patience + 1) + desk.collisions key)

namespace Ledger

variable {rules} {desk : Desk Key Req Status} (ledger : Ledger rules desk)
include ledger

variable {key : Key}

theorem key_eq {request : Req} (member : request ∈ desk.line key) : rules.key request = key := by
  have listed : request ∈ accepted rules key desk.log := by
    rw [ledger.fifo]
    exact List.mem_append_right _ member
  exact ((mem_accepted rules).mp listed).2

theorem not_completed {request : Req} (member : request ∈ desk.line key) :
    request ∉ completed rules key desk.log := by
  have apart := ledger.nodup key
  rw [ledger.fifo, List.nodup_append] at apart
  exact fun done => apart.2.2 request done request member rfl

theorem line_nodup (key : Key) : (desk.line key).Nodup := by
  have apart := ledger.nodup key
  rw [ledger.fifo, List.nodup_append] at apart
  exact apart.2.1

theorem completed_accepted {request : Req}
    (done : request ∈ completed rules (rules.key request) desk.log) :
    .accepted request ∈ desk.log := by
  have listed : request ∈ accepted rules (rules.key request) desk.log := by
    rw [ledger.fifo]
    exact List.mem_append_left _ done
  exact ((mem_accepted rules).mp listed).1

theorem join {request : Req} (fresh : .accepted request ∉ desk.log)
    (positive : 0 < rules.limit request) : Ledger rules (desk.join rules request) := by
  have unlisted : ∀ key, request ∉ accepted rules key desk.log := by
    intro key member
    exact fresh ((mem_accepted rules).mp member).1
  have absent : request ∉ desk.line (rules.key request) := by
    intro member
    apply unlisted (rules.key request)
    rw [ledger.fifo]
    exact List.mem_append_right _ member
  have same : ∀ other, outcomes other (desk.log ++ [.accepted request]) = outcomes other desk.log := by
    intro other
    rw [outcomes_append]
    exact List.append_nil _
  have done : ∀ key, completed rules key (desk.log ++ [.accepted request]) =
      completed rules key desk.log := by
    intro key
    rw [completed_append]
    exact List.append_nil _
  refine ⟨?_, ?_, ?_, ?_, ?_, ?_, ?_, ?_⟩
  · intro key
    simp only [Desk.join, done]
    rw [accepted_append, accepted_singleton, ledger.fifo]
    by_cases own : rules.key request = key
    · subst own
      simp
    · simp [own, Function.update_of_ne (Ne.symm own)]
  · intro key
    simp only [Desk.join]
    rw [accepted_append, accepted_singleton]
    by_cases own : rules.key request = key
    · rw [if_pos own, List.nodup_append]
      refine ⟨ledger.nodup key, List.nodup_singleton _, ?_⟩
      intro other earlier last new
      rw [List.mem_singleton] at new
      rintro rfl
      exact unlisted key (new ▸ earlier)
    · rw [if_neg own, List.append_nil]
      exact ledger.nodup key
  · intro key other member
    simp only [Desk.join] at member
    by_cases own : key = rules.key request
    · subst own
      rw [Function.update_self, List.mem_append, List.mem_singleton] at member
      rcases member with earlier | rfl
      · exact ledger.limits _ other earlier
      · exact positive
    · rw [Function.update_of_ne own] at member
      exact ledger.limits key other member
  · intro key empty
    simp only [Desk.join] at empty
    by_cases own : key = rules.key request
    · subst own
      rw [Function.update_self] at empty
      simp at empty
    · rw [Function.update_of_ne own] at empty
      exact ledger.idle key empty
  · intro other status count member
    simp only [Desk.join, List.mem_append, List.mem_singleton, reduceCtorEq, or_false] at member
    simp only [Desk.join, same]
    exact ledger.served other status count member
  · intro key other rest line
    simp only [Desk.join, same] at line ⊢
    by_cases own : key = rules.key request
    · subst own
      rw [Function.update_self] at line
      rcases old : desk.line (rules.key request) with _ | ⟨first, others⟩
      · rw [old, List.nil_append, List.cons.injEq] at line
        obtain ⟨rfl, -⟩ := line
        have silent : outcomes request desk.log = [] := by
          apply ledger.quiet
          · intro earlier
            exact fresh (ledger.completed_accepted earlier)
          · intro others line
            rw [old] at line
            cases line
        obtain ⟨attempts, collisions⟩ := ledger.idle _ old
        rw [silent, attempts, collisions]
        exact Trying.start rules positive
      · rw [old, List.cons_append, List.cons.injEq] at line
        obtain ⟨rfl, -⟩ := line
        exact ledger.trying _ first others old
    · rw [Function.update_of_ne own] at line
      exact ledger.trying key other rest line
  · intro other incomplete waits
    simp only [Desk.join, same, done] at incomplete waits ⊢
    apply ledger.quiet other incomplete
    intro rest line
    by_cases own : rules.key other = rules.key request
    · rw [own, Function.update_self, ← own, line] at waits
      exact waits (rest ++ [request]) rfl
    · rw [Function.update_of_ne own] at waits
      exact waits rest line
  · intro key
    simp only [Desk.join, done]
    rw [tries_append]
    exact ledger.budget key

theorem turnAway (request : Req) : Ledger rules (desk.turnAway request) := by
  have listed : ∀ key, accepted rules key (desk.log ++ [.dropped request]) =
      accepted rules key desk.log := by
    intro key
    rw [accepted_append]
    exact List.append_nil _
  have done : ∀ key, completed rules key (desk.log ++ [.dropped request]) =
      completed rules key desk.log := by
    intro key
    rw [completed_append]
    exact List.append_nil _
  have same : ∀ other, outcomes other (desk.log ++ [.dropped request]) = outcomes other desk.log := by
    intro other
    rw [outcomes_append]
    exact List.append_nil _
  refine ⟨?_, ?_, ledger.limits, ledger.idle, ?_, ?_, ?_, ?_⟩
  · intro key
    simp only [Desk.turnAway, listed, done]
    exact ledger.fifo key
  · intro key
    simp only [Desk.turnAway, listed]
    exact ledger.nodup key
  · intro other status count member
    simp only [Desk.turnAway, List.mem_append, List.mem_singleton, reduceCtorEq, or_false] at member
    simp only [Desk.turnAway, same]
    exact ledger.served other status count member
  · intro key other rest line
    simp only [Desk.turnAway, same]
    exact ledger.trying key other rest line
  · intro other incomplete waits
    simp only [Desk.turnAway, same, done] at incomplete ⊢
    exact ledger.quiet other incomplete waits
  · intro key
    simp only [Desk.turnAway, done]
    rw [tries_append]
    exact ledger.budget key

variable {rest : List Req}

section

variable {request : Req} (line : desk.line key = request :: rest)
include line

theorem outcomes_other (status : Status) (more : List (Entry Req Status))
    (silent : ∀ other, outcomes other more = []) {other : Req}
    (done : other ∈ completed rules (rules.key other) desk.log) :
    outcomes other (desk.log ++ .tried request status :: more) = outcomes other desk.log := by
  have different : request ≠ other := by
    rintro rfl
    have member : request ∈ desk.line key := line ▸ List.mem_cons_self
    apply ledger.not_completed member
    rw [← ledger.key_eq member]
    exact done
  rw [outcomes_append, outcomes_tried, if_neg different, silent, List.append_nil, List.append_nil]

theorem serve_again {status : Status} (again : ¬ Finishes rules request status
      (countAttempts rules status (desk.attempts key) (desk.collisions key))) :
    Ledger rules (desk.serve rules key status) := by
  have member : request ∈ desk.line key := line ▸ List.mem_cons_self
  have own := ledger.key_eq member
  have listed : ∀ other, accepted rules other (desk.log ++ [.tried request status]) =
      accepted rules other desk.log := by
    intro other
    rw [accepted_append]
    exact List.append_nil _
  have done : ∀ other, completed rules other (desk.log ++ [.tried request status]) =
      completed rules other desk.log := by
    intro other
    rw [completed_append]
    exact List.append_nil _
  have heard : ∀ other, outcomes other (desk.log ++ [.tried request status]) =
      outcomes other desk.log ++ if request = other then [status] else [] := by
    intro other
    rw [outcomes_append, outcomes_tried]
    exact congrArg _ (List.append_nil _)
  have next := (ledger.trying key request rest line).retry rules again
  simp only [Desk.serve, line, if_neg again]
  refine ⟨?_, ?_, ledger.limits, ?_, ?_, ?_, ?_, ?_⟩
  · intro other
    simp only [listed, done]
    exact ledger.fifo other
  · intro other
    simp only [listed]
    exact ledger.nodup other
  · intro other empty
    have different : other ≠ key := by
      rintro rfl
      rw [line] at empty
      cases empty
    simp only [Function.update_of_ne different]
    exact ledger.idle other empty
  · intro other earlier count found
    simp only [List.mem_append, List.mem_singleton, reduceCtorEq, or_false] at found
    rw [ledger.outcomes_other line status [] (fun _ => rfl)
      ((mem_completed rules).mpr ⟨⟨earlier, count, found⟩, rfl⟩)]
    exact ledger.served other earlier count found
  · intro other first others found
    simp only [heard]
    by_cases same : other = key
    · subst same
      rw [line, List.cons.injEq] at found
      obtain ⟨rfl, -⟩ := found
      rw [Function.update_self, Function.update_self, if_pos rfl]
      exact next
    · have different : request ≠ first := by
        rintro rfl
        apply same
        rw [← own, ledger.key_eq (found ▸ List.mem_cons_self : request ∈ desk.line other)]
      rw [Function.update_of_ne same, Function.update_of_ne same, if_neg different, List.append_nil]
      exact ledger.trying other first others found
  · intro other incomplete waits
    simp only [heard, done] at incomplete ⊢
    have different : request ≠ other := by
      rintro rfl
      exact waits rest (own ▸ line)
    rw [if_neg different, List.append_nil]
    exact ledger.quiet other incomplete waits
  · intro other
    simp only [done]
    rw [tries_append, tries_tried]
    have earlier := ledger.budget other
    by_cases same : other = key
    · subst same
      rw [Function.update_self, Function.update_self, if_pos own]
      have patient := (ledger.trying other request rest line).patient
      have counted := budget_again rules patient again
      have zero : tries rules other ([] : List (Entry Req Status)) = 0 := rfl
      omega
    · rw [Function.update_of_ne same, Function.update_of_ne same,
        if_neg (fun equal => same (equal.symm.trans own))]
      exact earlier

theorem serve_last {status : Status} (ends : Finishes rules request status
      (countAttempts rules status (desk.attempts key) (desk.collisions key))) :
    Ledger rules (desk.serve rules key status) := by
  have member : request ∈ desk.line key := line ▸ List.mem_cons_self
  have own := ledger.key_eq member
  have unique := ledger.line_nodup key
  rw [line, List.nodup_cons] at unique
  have waiting : ∀ other ∈ rest, other ∈ desk.line key := by
    intro other later
    rw [line]
    exact List.mem_cons_of_mem request later
  generalize counted : countAttempts rules status (desk.attempts key) (desk.collisions key) = count
    at ends
  have listed : ∀ other, accepted rules other (desk.log ++
      [.tried request status, .completed request status count]) =
      accepted rules other desk.log := by
    intro other
    rw [accepted_append]
    exact List.append_nil _
  have done : ∀ other, completed rules other (desk.log ++
      [.tried request status, .completed request status count]) =
      completed rules other desk.log ++ if other = key then [request] else [] := by
    intro other
    rw [completed_append, completed_served, own]
    simp only [eq_comm]
  have heard : ∀ other, outcomes other (desk.log ++
      [.tried request status, .completed request status count]) =
      outcomes other desk.log ++ if request = other then [status] else [] := by
    intro other
    rw [outcomes_append, outcomes_tried]
    exact congrArg _ (List.append_nil _)
  have trying := ledger.trying key request rest line
  simp only [Desk.serve, line, counted, if_pos ends]
  refine ⟨?_, ?_, ?_, ?_, ?_, ?_, ?_, ?_⟩
  · intro other
    simp only [listed, done, ledger.fifo other]
    by_cases same : other = key
    · subst same
      simp [line]
    · simp [same]
  · intro other
    simp only [listed]
    exact ledger.nodup other
  · intro other later found
    by_cases same : other = key
    · subst same
      simp only [Function.update_self] at found
      exact ledger.limits other later (waiting later found)
    · simp only [Function.update_of_ne same] at found
      exact ledger.limits other later found
  · intro other empty
    by_cases same : other = key
    · subst same
      simp only [Function.update_self, and_self]
    · simp only [Function.update_of_ne same] at empty ⊢
      exact ledger.idle other empty
  · intro other earlier number found
    rw [List.mem_append] at found
    rcases found with old | new
    · rw [ledger.outcomes_other line status [.completed request status count] (fun _ => rfl)
        ((mem_completed rules).mpr ⟨⟨earlier, number, old⟩, rfl⟩)]
      exact ledger.served other earlier number old
    · simp only [List.mem_cons, reduceCtorEq, Entry.completed.injEq, List.not_mem_nil, or_false,
        false_or] at new
      obtain ⟨rfl, rfl, rfl⟩ := new
      simp only [heard, if_true]
      rw [← counted] at ends ⊢
      exact trying.finish rules ends
  · intro other first others found
    by_cases same : other = key
    · subst same
      simp only [Function.update_self] at found ⊢
      have later : first ∈ rest := found ▸ List.mem_cons_self
      have different : request ≠ first := fun equal => unique.1 (equal ▸ later)
      have ownFirst := ledger.key_eq (waiting first later)
      have silent : outcomes first desk.log = [] := by
        apply ledger.quiet
        · rw [ownFirst]
          exact ledger.not_completed (waiting first later)
        · intro tail head
          rw [ownFirst, line, List.cons.injEq] at head
          exact different head.1
      rw [heard, if_neg different, silent, List.append_nil]
      exact Trying.start rules (ledger.limits other first (waiting first later))
    · simp only [Function.update_of_ne same] at found ⊢
      have different : request ≠ first := by
        rintro rfl
        apply same
        rw [← own, ledger.key_eq (found ▸ List.mem_cons_self : request ∈ desk.line other)]
      rw [heard, if_neg different, List.append_nil]
      exact ledger.trying other first others found
  · intro other incomplete waits
    simp only [heard, done] at incomplete ⊢
    rw [List.mem_append, not_or] at incomplete
    by_cases same : rules.key other = key
    · have different : request ≠ other := by
        rintro rfl
        simp [same] at incomplete
      rw [if_neg different, List.append_nil]
      apply ledger.quiet other incomplete.1
      intro tail head
      rw [same, line, List.cons.injEq] at head
      exact different head.1
    · have different : request ≠ other := by
        rintro rfl
        exact same own
      simp only [Function.update_of_ne same] at waits
      rw [if_neg different, List.append_nil]
      exact ledger.quiet other incomplete.1 waits
  · intro other
    simp only [done]
    rw [tries_append, tries_tried, own]
    have earlier := ledger.budget other
    have zero : tries rules other [(.completed request status count : Entry Req Status)] = 0 := rfl
    by_cases same : other = key
    · subst same
      have within := trying.length_lt rules
      simp only [Function.update_self, if_true, List.map_append, List.map_cons, List.map_nil,
        List.sum_append, List.sum_cons, List.sum_nil]
      omega
    · simp only [Function.update_of_ne same, if_neg same, if_neg (Ne.symm same), List.append_nil]
      omega

end

theorem serve (key : Key) (status : Status) : Ledger rules (desk.serve rules key status) := by
  rcases line : desk.line key with _ | ⟨request, rest⟩
  · simp only [Desk.serve, line]
    exact ledger
  · by_cases ends : Finishes rules request status
        (countAttempts rules status (desk.attempts key) (desk.collisions key))
    · exact ledger.serve_last line ends
    · exact ledger.serve_again line ends

theorem tries_serve (waiting : desk.line key ≠ []) (status : Status) :
    tries rules key (desk.serve rules key status).log = tries rules key desk.log + 1 := by
  rcases line : desk.line key with _ | ⟨request, rest⟩
  · exact absurd line waiting
  · have own := ledger.key_eq (line ▸ List.mem_cons_self : request ∈ desk.line key)
    have more : ∀ entries : List (Entry Req Status), tries rules key entries = 0 →
        tries rules key (desk.log ++ .tried request status :: entries) =
          tries rules key desk.log + 1 := by
      intro entries silent
      rw [tries_append, tries_tried, if_pos own, silent]
    simp only [Desk.serve, line]
    split
    · exact more _ rfl
    · exact more _ rfl

theorem completed_of_tries {before after : List Req} {request : Req}
    (split : accepted rules key desk.log = before ++ request :: after)
    (enough : ((before ++ [request]).map fun request =>
      rules.limit request * (rules.patience + 1)).sum ≤ tries rules key desk.log) :
    request ∈ completed rules key desk.log := by
  by_contra incomplete
  have fifo := ledger.fifo key
  have budget := ledger.budget key
  have waiting : ∃ ahead, before = completed rules key desk.log ++ ahead ∧
      desk.line key = ahead ++ request :: after := by
    rw [split, List.append_eq_append_iff] at fifo
    rcases fifo with ⟨rest, done, tail⟩ | waiting
    · rcases rest with _ | ⟨first, rest⟩
      · refine ⟨[], ?_, tail.symm⟩
        rw [done, List.append_nil, List.append_nil]
      · rw [List.cons_append, List.cons.injEq] at tail
        rw [done, ← tail.1] at incomplete
        simp at incomplete
    · exact waiting
  obtain ⟨ahead, rfl, line⟩ := waiting
  have costs : desk.attempts key * (rules.patience + 1) + desk.collisions key <
      ((ahead ++ [request]).map fun request => rules.limit request * (rules.patience + 1)).sum := by
    rcases ahead with _ | ⟨first, rest⟩
    · have within := (ledger.trying key request after line).length_lt rules
      simpa using within
    · have within := (ledger.trying key first (rest ++ request :: after) line).length_lt rules
      simp only [List.cons_append, List.map_cons, List.sum_cons]
      omega
  rw [List.append_assoc, List.map_append, List.sum_append] at enough
  omega

end Ledger

theorem ledger_open : Ledger rules (Desk.open : Desk Key Req Status) := by
  refine ⟨?_, ?_, ?_, ?_, ?_, ?_, ?_, ?_⟩
  · intro key
    rfl
  · intro key
    exact List.nodup_nil
  · intro key request member
    cases member
  · intro key _
    exact ⟨rfl, rfl⟩
  · intro request status count member
    cases member
  · intro key request rest line
    cases line
  · intro request _ _
    rfl
  · intro key
    exact Nat.zero_le _

end RetryLine
