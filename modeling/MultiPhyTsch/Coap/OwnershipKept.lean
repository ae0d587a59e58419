import MultiPhyTsch.Coap.Ownership

/-! Every end of a transaction calls what its creator set, in the runs that keep the identifiers and
the blocks of the transactions apart. -/

namespace MultiPhyTsch.Coap

variable {E : Type}

structure Touched (t : Nat) (engine next : Engine E) : Prop where
  list : next.transactionsList = engine.transactionsList
  pool : next.transactionsMemb.Exactly next.transactionsList
  others : ∀ other, other ≠ t → next.transaction other = engine.transaction other
  timers : ∀ other, other ≠ t → (other ∈ next.timerList ↔ other ∈ engine.timerList)
  nodup : next.timerList.Nodup
  calls : next.calls = engine.calls

structure Closed (t : Nat) (engine next : Engine E) (made : List (Call E)) : Prop where
  list : next.transactionsList = listRemove engine.transactionsList t
  pool : next.transactionsMemb.Exactly next.transactionsList
  others : ∀ other, other ≠ t → next.transaction other = engine.transaction other
  timers : ∀ other, other ≠ t → (other ∈ next.timerList ↔ other ∈ engine.timerList)
  left : t ∉ next.timerList
  nodup : next.timerList.Nodup
  calls : next.calls = engine.calls ++ made

section

variable {t : Nat} {engine next : Engine E} (touched : Touched t engine next)
include touched

theorem Touched.write (change : Transaction E → Transaction E) :
    Touched t engine (next.write t change) where
  list := touched.list
  pool := touched.pool.write t change
  others := by
    intro other different
    exact (next.transactionsMemb.write_other change different).trans (touched.others other different)
  timers := touched.timers
  nodup := touched.nodup
  calls := touched.calls

theorem Touched.timerSet :
    Touched t engine (coapTimerSet t next) where
  list := touched.list
  pool := touched.pool
  others := touched.others
  timers := by
    intro other different
    simp only [coapTimerSet, mem_listAdd, different, false_or]
    exact touched.timers other different
  nodup := nodup_listAdd touched.nodup t
  calls := touched.calls

theorem Touched.timerStop :
    Touched t engine { next with timerList := listRemove next.timerList t } where
  list := touched.list
  pool := touched.pool
  others := touched.others
  timers := by
    intro other different
    simp only [mem_listRemove touched.nodup, ne_eq, different, not_false_iff, true_and]
    exact touched.timers other different
  nodup := touched.nodup.erase t
  calls := touched.calls

theorem Touched.clear (member : t ∈ engine.transactionsList) :
    Closed t engine (coapClearTransaction t next) [] := by
  have stopped := touched.timerStop
  have split : next.transactionsList.Perm (t :: listRemove next.transactionsList t) :=
    List.perm_cons_erase (touched.list ▸ member)
  exact
    { list := congrArg (listRemove · t) touched.list
      pool := touched.pool.free split
      others := by
        intro other different
        have mem : (coapClearTransaction t next).transaction other = next.transaction other := by
          simp [Engine.transaction, coapClearTransaction, coapTimerStop]
        exact mem.trans (touched.others other different)
      timers := stopped.timers
      left := by
        intro on
        exact ((mem_listRemove touched.nodup).mp on).1 rfl
      nodup := stopped.nodup
      calls := touched.calls.trans (List.append_nil _).symm }

end

def made (transaction : Transaction E) (response : Option (Message E)) : List (Call E) :=
  transaction.callback.toList.map fun callback => ⟨callback, transaction.callbackData, response⟩

theorem Closed.call {t : Nat} {engine next : Engine E} (closed : Closed t engine next [])
    (transaction : Transaction E) (response : Option (Message E)) :
    Closed t engine (callCallback transaction response next) (made transaction response) := by
  have calls : next.calls = engine.calls := closed.calls.trans (List.append_nil _)
  unfold callCallback made
  cases transaction.callback with
  | none => exact { closed with calls := closed.calls }
  | some callback =>
    exact
      { closed with
        others := closed.others
        calls := congrArg (· ++ _) calls }

structure Matches (transaction : Transaction E) (creation : Creation E) (timeouts : Nat) : Prop where
  mid : transaction.mid = creation.mid
  endpoint : transaction.endpoint = creation.endpoint
  counter : transaction.retransCounter = timeouts
  set : ∀ setting ∈ creation.setting,
    transaction.callback = some setting.1 ∧ transaction.callbackData = setting.2

structure Standing (t : Nat) (transaction : Transaction E) (creation : Creation E) (timeouts : Nat) :
    Prop where
  userData : transaction.userData = some t
  con : transaction.messageType = .con
  below : timeouts < coapMaxRetransmit
  unset : creation.setting = none → transaction.callback = none

def History.numbers (h : History E) : List Nat :=
  (h.engine.transactionsList.map fun t => (h.owner t).number) ++
    h.endings.map fun ending => ending.creation.number

structure Kept (h : History E) : Prop where
  pool : h.engine.transactionsMemb.Exactly h.engine.transactionsList
  timed : ∀ t ∈ h.engine.timerList, t ∈ h.engine.transactionsList
  timers : h.engine.timerList.Nodup
  shown : ∀ t ∈ h.engine.transactionsList,
    Matches (h.engine.transaction t) (h.owner t) (h.timeouts t)
  standing : ∀ t ∈ h.engine.timerList,
    Standing t (h.engine.transaction t) (h.owner t) (h.timeouts t)
  unsent : ∀ t ∈ h.engine.transactionsList, t ∉ h.engine.timerList → h.timeouts t = 0
  numbers : h.numbers.Nodup
  bound : ∀ number ∈ h.numbers, number < h.created
  calls : h.engine.calls = h.endings.flatMap Ending.calls
  rightful : ∀ ending ∈ h.endings, ending.Rightful

theorem Kept.owned {h : History E} (kept : Kept h) : Owned h where
  calls := kept.calls
  once := (List.nodup_append.mp kept.numbers).2.1
  rightful := kept.rightful

theorem Kept.untouched {h : History E} (kept : Kept h) (t : Nat) : Touched t h.engine h.engine :=
  ⟨rfl, kept.pool, fun _ _ => rfl, fun _ _ => Iff.rfl, kept.timers, rfl⟩

theorem kept_init (num : Nat) (blank : E) : Kept (History.init num blank) where
  pool := by
    refine ⟨⟨?_, ?_⟩, List.nodup_nil⟩
    · intro block
      simp [History.init, Engine.init]
    · intro block member
      cases member
  timed := by
    intro t member
    cases member
  timers := List.nodup_nil
  shown := by
    intro t member
    cases member
  standing := by
    intro t member
    cases member
  unsent := by
    intro t member
    cases member
  numbers := List.nodup_nil
  bound := by
    intro number member
    cases member
  calls := rfl
  rightful := by
    intro ending member
    cases member

theorem made_eq_expected {transaction : Transaction E} {creation : Creation E} {t timeouts : Nat}
    (shown : Matches transaction creation timeouts)
    (standing : Standing t transaction creation timeouts) (response : Option (Message E)) :
    made transaction response = expected creation response := by
  unfold made expected
  cases setting : creation.setting with
  | none => rw [standing.unset setting]; rfl
  | some pair =>
    obtain ⟨callback, data⟩ := shown.set pair setting
    rw [callback, data]
    rfl

section

variable {h : History E} (kept : Kept h) {t : Nat} {next : Engine E} {timeouts : Nat → Nat}
  (member : t ∈ h.engine.transactionsList)
include kept member

theorem Kept.touch (touched : Touched t h.engine next)
    (counts : ∀ other, other ≠ t → timeouts other = h.timeouts other)
    (shown : Matches (next.transaction t) (h.owner t) (timeouts t)) (timed : t ∈ next.timerList)
    (standing : Standing t (next.transaction t) (h.owner t) (timeouts t)) :
    Kept { h with engine := next, timeouts := timeouts } where
  pool := touched.pool
  timed := by
    intro other on
    rw [touched.list]
    by_cases same : other = t
    · exact same ▸ member
    · exact kept.timed other ((touched.timers other same).mp on)
  timers := touched.nodup
  shown := by
    intro other on
    rw [touched.list] at on
    by_cases same : other = t
    · exact same ▸ shown
    · dsimp only
      rw [touched.others other same, counts other same]
      exact kept.shown other on
  standing := by
    intro other on
    by_cases same : other = t
    · exact same ▸ standing
    · dsimp only
      rw [touched.others other same, counts other same]
      exact kept.standing other ((touched.timers other same).mp on)
  unsent := by
    intro other on off
    rw [touched.list] at on
    by_cases same : other = t
    · exact absurd (same ▸ timed) off
    · dsimp only
      rw [counts other same]
      exact kept.unsent other on fun still => off ((touched.timers other same).mpr still)
  numbers := by
    simp only [History.numbers, touched.list]
    exact kept.numbers
  bound := by
    simp only [History.numbers, touched.list]
    exact kept.bound
  calls := touched.calls.trans kept.calls
  rightful := kept.rightful

theorem Kept.close {cause : Cause E} {calls : List (Call E)} (closed : Closed t h.engine next calls)
    (counts : ∀ other, other ≠ t → timeouts other = h.timeouts other)
    (rightful : Ending.Rightful ⟨h.owner t, cause, calls⟩) :
    Kept
      { h with
        engine := next, timeouts := timeouts
        endings := h.endings ++ [⟨h.owner t, cause, calls⟩] } := by
  have unique := kept.pool.nodup
  have mem : ∀ other, other ∈ next.transactionsList ↔
      other ≠ t ∧ other ∈ h.engine.transactionsList := by
    intro other
    rw [closed.list]
    exact mem_listRemove unique
  have same : List.Perm
      (((listRemove h.engine.transactionsList t).map fun t => (h.owner t).number) ++
        (h.endings ++ [(⟨h.owner t, cause, calls⟩ : Ending E)]).map
          fun ending => ending.creation.number) h.numbers := by
    have split := (List.perm_cons_erase member).map fun t => (h.owner t).number
    rw [List.map_append, ← List.append_assoc]
    refine List.perm_append_comm.trans ?_
    exact (List.Perm.append_right _ split).symm
  exact
    { pool := closed.pool
      timed := by
        intro other on
        have different : other ≠ t := fun same => closed.left (same ▸ on)
        exact (mem other).mpr ⟨different, kept.timed other ((closed.timers other different).mp on)⟩
      timers := closed.nodup
      shown := by
        intro other on
        obtain ⟨different, before⟩ := (mem other).mp on
        dsimp only
        rw [closed.others other different, counts other different]
        exact kept.shown other before
      standing := by
        intro other on
        have different : other ≠ t := fun same => closed.left (same ▸ on)
        dsimp only
        rw [closed.others other different, counts other different]
        exact kept.standing other ((closed.timers other different).mp on)
      unsent := by
        intro other on off
        obtain ⟨different, before⟩ := (mem other).mp on
        dsimp only
        rw [counts other different]
        exact kept.unsent other before fun still => off ((closed.timers other different).mpr still)
      numbers := by
        simp only [History.numbers, closed.list]
        exact same.nodup_iff.mpr kept.numbers
      bound := by
        intro number on
        simp only [History.numbers, closed.list] at on
        exact kept.bound number (same.mem_iff.mp on)
      calls := by
        rw [closed.calls, kept.calls, List.flatMap_append, List.flatMap_singleton]
      rightful := by
        intro ending on
        rcases List.mem_append.mp on with earlier | last
        · exact kept.rightful ending earlier
        · rw [List.mem_singleton] at last
          exact last ▸ rightful }

end

theorem coapNewTransaction_none {mid : UInt16} {endpoint : E} {engine : Engine E}
    (full : (coapNewTransaction mid endpoint engine).1 = none) :
    (coapNewTransaction mid endpoint engine).2 = engine := by
  unfold coapNewTransaction at full ⊢
  split at full
  case h_1 memb shown =>
    rw [Memb.membAlloc_none shown]
  case h_2 => cases full

theorem coapNewTransaction_some {mid : UInt16} {endpoint : E} {engine : Engine E} {t : Nat}
    (found : (coapNewTransaction mid endpoint engine).1 = some t) :
    engine.transactionsMemb.membAlloc.1 = some t ∧
    (coapNewTransaction mid endpoint engine).2 =
      { engine with
        transactionsMemb :=
          engine.transactionsMemb.membAlloc.2.write t (Transaction.renew mid endpoint)
        transactionsList := listAdd engine.transactionsList t } := by
  unfold coapNewTransaction at found ⊢
  split at found
  case h_1 => cases found
  case h_2 block memb shown =>
    cases found
    rw [shown]
    exact ⟨rfl, rfl⟩

theorem setCallback_transaction (t : Nat) (setting : Option (Nat × Nat)) (engine : Engine E) :
    ∃ change, setCallback t setting engine = engine.write t change ∧
      ∀ transaction, (change transaction).mid = transaction.mid ∧
        (change transaction).endpoint = transaction.endpoint ∧
        (change transaction).retransCounter = transaction.retransCounter ∧
        ∀ pair ∈ setting, (change transaction).callback = some pair.1 ∧
          (change transaction).callbackData = pair.2 := by
  cases setting with
  | none =>
    refine ⟨id, ?_, fun transaction => ⟨rfl, rfl, rfl, ?_⟩⟩
    · simp [setCallback, Engine.write, Memb.write]
    · intro pair member
      cases member
  | some pair =>
    refine ⟨Transaction.setCallback pair.1 pair.2, rfl, fun transaction => ⟨rfl, rfl, rfl, ?_⟩⟩
    intro other member
    cases member
    exact ⟨rfl, rfl⟩

theorem Kept.open {h : History E} (kept : Kept h) {mid : UInt16} {endpoint : E}
    {setting : Option (Nat × Nat)} {t : Nat}
    (found : (coapNewTransaction mid endpoint h.engine).1 = some t) :
    Kept
      { h with
        engine := setCallback t setting (coapNewTransaction mid endpoint h.engine).2
        created := h.created + 1
        owner := Function.update h.owner t ⟨h.created, mid, endpoint, setting⟩
        timeouts := Function.update h.timeouts t 0 } := by
  obtain ⟨allocated, shape⟩ := coapNewTransaction_some found
  have fresh := (Memb.membAlloc_some kept.pool.inUse allocated).1
  have idle : t ∉ h.engine.timerList := fun on => fresh (kept.timed t on)
  obtain ⟨change, written, fields⟩ := setCallback_transaction t setting
    (coapNewTransaction mid endpoint h.engine).2
  rw [written, shape]
  have list : listAdd h.engine.transactionsList t = h.engine.transactionsList ++ [t] :=
    listAdd_of_not_mem fresh
  have others : ∀ other, other ≠ t →
      ((Memb.write (Memb.write h.engine.transactionsMemb.membAlloc.2 t
        (Transaction.renew mid endpoint)) t change).mem other) = h.engine.transaction other := by
    intro other different
    rw [Memb.write_other _ change different, Memb.write_other _ _ different, Memb.membAlloc_mem]
    rfl
  have renewed : (Memb.write (Memb.write h.engine.transactionsMemb.membAlloc.2 t
      (Transaction.renew mid endpoint)) t change).mem t =
        change (Transaction.renew mid endpoint (h.engine.transaction t)) := by
    simp [Memb.write, Engine.transaction]
  have numbers : (h.engine.transactionsList.map fun other =>
      (Function.update h.owner t ⟨h.created, mid, endpoint, setting⟩ other).number) =
        h.engine.transactionsList.map fun other => (h.owner other).number := by
    apply List.map_congr_left
    intro other member
    have different : other ≠ t := fun same => fresh (same ▸ member)
    rw [Function.update_of_ne different]
  have same : List.Perm
      ((listAdd h.engine.transactionsList t).map (fun other =>
        (Function.update h.owner t ⟨h.created, mid, endpoint, setting⟩ other).number) ++
          h.endings.map fun ending => ending.creation.number) (h.created :: h.numbers) := by
    rw [list, List.map_append, numbers]
    simp only [List.map_cons, List.map_nil, Function.update_self]
    rw [List.append_assoc]
    exact List.perm_middle
  exact
    { pool := by
        refine (((kept.pool.alloc allocated).write t _).write t change).perm ?_
        exact (List.Perm.of_eq list).trans (List.perm_append_comm)
      timed := by
        intro other on
        exact mem_listAdd.mpr (.inr (kept.timed other on))
      timers := kept.timers
      shown := by
        intro other on
        simp only [Engine.transaction, Engine.write]
        by_cases same : other = t
        · subst same
          rw [Function.update_self, Function.update_self, renewed]
          obtain ⟨sameMid, sameEndpoint, sameCounter, set⟩ :=
            fields (Transaction.renew mid endpoint (h.engine.transaction other))
          exact ⟨sameMid, sameEndpoint, sameCounter, set⟩
        · rw [Function.update_of_ne same, Function.update_of_ne same, others other same]
          exact kept.shown other ((mem_listAdd.mp on).resolve_left same)
      standing := by
        intro other on
        have different : other ≠ t := fun same => idle (same ▸ on)
        simp only [Engine.transaction, Engine.write]
        rw [Function.update_of_ne different, Function.update_of_ne different,
          others other different]
        exact kept.standing other on
      unsent := by
        intro other on off
        dsimp only
        by_cases same : other = t
        · rw [same, Function.update_self]
        · rw [Function.update_of_ne same]
          exact kept.unsent other ((mem_listAdd.mp on).resolve_left same) off
      numbers := by
        refine same.nodup_iff.mpr (List.nodup_cons.mpr ⟨?_, kept.numbers⟩)
        intro member
        exact Nat.lt_irrefl _ (kept.bound h.created member)
      bound := by
        intro number member
        rcases List.mem_cons.mp (same.mem_iff.mp member) with last | earlier
        · rw [last]
          exact Nat.lt_succ_self _
        · exact Nat.lt_succ_of_lt (kept.bound number earlier)
      calls := kept.calls
      rightful := kept.rightful }

theorem advance_open {h : History E} {action : Action E}
    (keeps : ∀ t ∈ h.engine.transactionsList, t ∈ (engineStep h.engine action).transactionsList) :
    h.advance action =
      { (h.count action).begin (opening h action) with
        engine := engineStep h.engine action, endings := h.endings } := by
  have none : h.engine.transactionsList.filter
      (fun t => t ∉ (engineStep h.engine action).transactionsList) = [] := by
    rw [List.filter_eq_nil_iff]
    intro t member
    simp [keeps t member]
  unfold History.advance
  dsimp only
  rw [none, List.map_nil, List.append_nil]

theorem filter_not_mem_listRemove {list : List Nat} (nodup : list.Nodup) {t : Nat}
    (member : t ∈ list) : list.filter (fun other => other ∉ listRemove list t) = [t] := by
  have same : list.filter (fun other => other ∉ listRemove list t) =
      list.filter fun other => other = t := by
    apply List.filter_congr
    intro other inside
    rw [decide_eq_decide, mem_listRemove nodup]
    simp [inside]
  rw [same, List.filter_eq, List.count_eq_one_of_mem nodup member, List.replicate_one]

theorem advance_close {h : History E} (kept : Kept h) {action : Action E} {t : Nat}
    {calls : List (Call E)} (member : t ∈ h.engine.transactionsList)
    (closed : Closed t h.engine (engineStep h.engine action) calls)
    (old : opening h action = none) :
    h.advance action =
      { h.count action with
        engine := engineStep h.engine action
        endings := h.endings ++ [⟨h.owner t, cause h action, calls⟩] } := by
  unfold History.advance
  dsimp only
  rw [old, closed.list, filter_not_mem_listRemove kept.pool.nodup member, closed.calls,
    List.drop_left]
  rfl

section

variable {mid : UInt16} {endpoint : E} {setting : Option (Nat × Nat)} {engine : Engine E}

theorem mem_create {t : Nat} (found : (coapNewTransaction mid endpoint engine).1 = some t) :
    create mid endpoint setting engine =
      setCallback t setting (coapNewTransaction mid endpoint engine).2 := by
  unfold create
  generalize coapNewTransaction mid endpoint engine = result at found
  obtain ⟨first, second⟩ := result
  dsimp only at found
  subst found
  rfl

theorem create_none (full : (coapNewTransaction mid endpoint engine).1 = none) :
    create mid endpoint setting engine = engine := by
  have same := coapNewTransaction_none full
  unfold create
  generalize coapNewTransaction mid endpoint engine = result at full same
  obtain ⟨first, second⟩ := result
  dsimp only at full same
  subst full same
  rfl

end

theorem create_unset (mid : UInt16) (endpoint : E) (engine : Engine E) :
    create mid endpoint none engine = (coapNewTransaction mid endpoint engine).2 := by
  unfold create
  split
  case h_1 shown => rw [shown]
  case h_2 shown =>
    rw [shown]
    rfl

theorem transactionsList_create {mid : UInt16} {endpoint : E} {setting : Option (Nat × Nat)}
    {engine : Engine E} {t : Nat} (found : (coapNewTransaction mid endpoint engine).1 = some t) :
    (create mid endpoint setting engine).transactionsList = listAdd engine.transactionsList t := by
  obtain ⟨change, written, _⟩ := setCallback_transaction t setting
    (coapNewTransaction mid endpoint engine).2
  rw [mem_create found, written, (coapNewTransaction_some found).2]
  rfl

variable {h : History E}

theorem Kept.create (kept : Kept h) {action : Action E} {mid : UInt16} {endpoint : E}
    {setting : Option (Nat × Nat)}
    (creates : engineStep h.engine action = Coap.create mid endpoint setting h.engine)
    (begins : opening h action = (coapNewTransaction mid endpoint h.engine).1.map fun t =>
      (t, ⟨h.created, mid, endpoint, setting⟩))
    (uncounted : h.count action = h) : Kept (h.advance action) := by
  cases found : (coapNewTransaction mid endpoint h.engine).1 with
  | none =>
    have same : engineStep h.engine action = h.engine := creates.trans (create_none found)
    rw [advance_open (by rw [same]; exact fun _ member => member), begins, found, uncounted, same]
    exact kept
  | some t =>
    have keeps : ∀ other ∈ h.engine.transactionsList,
        other ∈ (engineStep h.engine action).transactionsList := by
      intro other member
      rw [creates, transactionsList_create found]
      exact mem_listAdd.mpr (.inr member)
    rw [advance_open keeps, begins, found, uncounted, creates, mem_create found]
    exact kept.open found

theorem Kept.clear (kept : Kept h) {t : Nat} (unsent : Unsent h.engine t) :
    Kept (h.advance (.clear t)) := by
  have closed : Closed t h.engine (engineStep h.engine (.clear t)) [] :=
    (kept.untouched t).clear unsent.1
  rw [advance_close kept unsent.1 closed rfl]
  exact kept.close unsent.1 closed (fun _ _ => rfl) rfl

theorem Kept.send (kept : Kept h) {t : Nat} {type : MessageType} (unsent : Unsent h.engine t)
    (unset : type = .con → (h.owner t).setting = none → (h.engine.transaction t).callback = none) :
    Kept (h.advance (.send t type)) := by
  obtain ⟨member, off⟩ := unsent
  have none := kept.unsent t member off
  have shown := kept.shown t member
  have zero : (h.engine.transaction t).retransCounter = 0 := shown.counter.trans none
  have written := (kept.untouched t).write (Transaction.setMessage type)
  have message : (h.engine.write t (Transaction.setMessage type)).transaction t =
      Transaction.setMessage type (h.engine.transaction t) := by
    simp [Engine.transaction, Engine.write, Memb.write]
  by_cases con : type = .con
  · have isCon : (Transaction.setMessage type (h.engine.transaction t)).messageType = .con := con
    have unsentYet : (Transaction.setMessage type (h.engine.transaction t)).retransCounter = 0 := zero
    have next : engineStep h.engine (.send t type) = coapTimerSet t
        ((h.engine.write t (Transaction.setMessage type)).write t (Transaction.setUserData t)) := by
      simp [engineStep, coapSendTransaction, message, isCon, unsentYet, coapMaxRetransmit]
    have touched := (written.write (Transaction.setUserData t)).timerSet
    rw [← next] at touched
    have fields : (engineStep h.engine (.send t type)).transaction t =
        Transaction.setUserData t (Transaction.setMessage type (h.engine.transaction t)) := by
      rw [next]
      simp [Engine.transaction, Engine.write, Memb.write, coapTimerSet]
    have timed : t ∈ (engineStep h.engine (.send t type)).timerList := by
      rw [next]
      exact mem_listAdd.mpr (.inl rfl)
    rw [advance_open (by rw [touched.list]; exact fun _ on => on)]
    refine kept.touch member touched (fun _ _ => rfl) ?_ timed ?_
    · rw [fields]
      exact ⟨shown.mid, shown.endpoint, shown.counter, shown.set⟩
    · rw [fields]
      exact ⟨rfl, con, none ▸ (by decide : 0 < coapMaxRetransmit), unset con⟩
  · have next : engineStep h.engine (.send t type) =
        coapClearTransaction t (h.engine.write t (Transaction.setMessage type)) := by
      simp [engineStep, coapSendTransaction, message, Transaction.setMessage, con]
    have closed := written.clear member
    rw [← next] at closed
    rw [advance_close kept member closed rfl]
    exact kept.close member closed (fun _ _ => rfl) rfl

theorem Kept.timeout (kept : Kept h) {t : Nat} (timed : t ∈ h.engine.timerList) :
    Kept (h.advance (.timeout t)) := by
  have member := kept.timed t timed
  have shown := kept.shown t member
  have standing := kept.standing t timed
  have stopped := (kept.untouched t).timerStop
  have counted := stopped.write Transaction.countRetransmission
  have increment : (Engine.write { h.engine with timerList := listRemove h.engine.timerList t } t
      Transaction.countRetransmission).transaction t =
        Transaction.countRetransmission (h.engine.transaction t) := by
    simp [Engine.transaction, Engine.write, Memb.write]
  have counts : ∀ other, other ≠ t →
      Function.update h.timeouts t (h.timeouts t + 1) other = h.timeouts other :=
    fun other different => Function.update_of_ne different ..
  have user : (Engine.transaction { h.engine with timerList := listRemove h.engine.timerList t }
      t).userData = some t := standing.userData
  by_cases last : h.timeouts t + 1 < coapMaxRetransmit
  · have next : engineStep h.engine (.timeout t) = coapTimerSet t (Engine.write
        { h.engine with timerList := listRemove h.engine.timerList t } t
          Transaction.countRetransmission) := by
      simp [engineStep, coapTimerRun, coapRetransmitTransaction, user, coapSendTransaction, increment,
        Transaction.countRetransmission, standing.con, shown.counter, last]
    have touched := counted.timerSet
    rw [← next] at touched
    have fields : (engineStep h.engine (.timeout t)).transaction t =
        Transaction.countRetransmission (h.engine.transaction t) := by
      rw [next]
      exact increment
    have again : t ∈ (engineStep h.engine (.timeout t)).timerList := by
      rw [next]
      exact mem_listAdd.mpr (.inl rfl)
    rw [advance_open (by rw [touched.list]; exact fun _ on => on)]
    have count : ((h.count (.timeout t)).begin (opening h (.timeout t))).timeouts t =
        h.timeouts t + 1 := Function.update_self ..
    refine kept.touch member touched counts ?_ again ?_
    · rw [fields, count]
      exact ⟨shown.mid, shown.endpoint, congrArg (· + 1) shown.counter, shown.set⟩
    · rw [fields, count]
      exact ⟨standing.userData, standing.con, last, standing.unset⟩
  · have next : engineStep h.engine (.timeout t) =
        callCallback (Transaction.countRetransmission (h.engine.transaction t)) none
          (coapClearTransaction t (Engine.write
            { h.engine with timerList := listRemove h.engine.timerList t } t
              Transaction.countRetransmission)) := by
      simp [engineStep, coapTimerRun, coapRetransmitTransaction, user, coapSendTransaction, increment,
        Transaction.countRetransmission, standing.con, shown.counter, last]
    have closed := (counted.clear member).call
      (Transaction.countRetransmission (h.engine.transaction t)) none
    rw [← next] at closed
    have calls : made (Transaction.countRetransmission (h.engine.transaction t)) none =
        expected (h.owner t) none := made_eq_expected shown standing none
    rw [advance_close kept member closed rfl]
    refine kept.close member closed counts ⟨calls, ?_⟩
    have below := standing.below
    omega

theorem Kept.receive (kept : Kept h) {message : Message E} (quiet : Quiet h.engine)
    (sorted : Sorted h (.receive message)) : Kept (h.advance (.receive message)) := by
  by_cases request : message.isRequest = true
  · refine @Kept.create E h kept (.receive message) message.mid message.src none ?_ ?_ rfl
    · rw [create_unset]
      simp [engineStep, coapReceive, request]
    · simp [opening, request]
  · have response : message.isRequest = false := Bool.eq_false_iff.mpr request
    have old : opening h (.receive message) = none := by simp [opening, response]
    cases found : coapGetTransactionByMid message.mid h.engine with
    | none =>
      have same : engineStep h.engine (.receive message) = h.engine := by
        simp [engineStep, coapReceive, response, found]
      rw [advance_open (by rw [same]; exact fun _ on => on), old, same]
      exact kept
    | some t =>
      have member := List.mem_of_find?_eq_some found
      have mid := List.find?_some found
      simp only [decide_eq_true_eq] at mid
      have shown := kept.shown t member
      have standing := kept.standing t (quiet t member)
      have next : engineStep h.engine (.receive message) =
          callCallback (h.engine.transaction t) (some message) (coapClearTransaction t h.engine) := by
        simp [engineStep, coapReceive, response, found]
      have closed := ((kept.untouched t).clear member).call (h.engine.transaction t) (some message)
      rw [← next] at closed
      rw [advance_close kept member closed old]
      refine kept.close member closed (fun _ _ => rfl) ⟨made_eq_expected shown standing _, ?_⟩
      intro called
      rcases sorted response t found with uncalled | source
      · exact absurd (by simp [made, uncalled]) called
      · exact ⟨source.symm.trans shown.endpoint, mid.symm.trans shown.mid⟩

theorem Kept.step (kept : Kept h) {action : Action E}
    (sorted : Enabled h.engine action → Sorted h action) : Kept (h.step action) := by
  unfold History.step
  split
  case isFalse => exact kept
  case isTrue enabled =>
    cases action with
    | create mid endpoint setting => exact kept.create rfl rfl rfl
    | send t type => exact kept.send enabled (sorted enabled)
    | clear t => exact kept.clear enabled
    | receive message => exact kept.receive enabled (sorted enabled)
    | timeout t => exact kept.timeout enabled.2

theorem sorted_run_owned (num : Nat) (blank : E) {actions : List (Action E)}
    (sorted : Run.Meets History.step (fun h action => Enabled h.engine action → Sorted h action)
      (History.init num blank) actions) :
    Run.Always History.step Owned (History.init num blank) actions :=
  Run.always_of_meets Kept (fun _ kept => kept.owned) (fun _ _ kept sorted => kept.step sorted)
    actions (History.init num blank) (kept_init num blank) sorted

theorem sorted_run_owned_exchange :
    Run.Meets History.step (fun h action => Enabled h.engine action → Sorted h action)
      (History.init 4 0)
      [.create 7 1 (some (5, 9)), .send 0 .con, .receive ⟨1, .ack, 69, 7⟩,
        .receive ⟨2, .con, 1, 30⟩, .send 0 .ack] ∧
    Run.Always History.step Owned (History.init 4 0)
      [.create 7 1 (some (5, 9)), .send 0 .con, .receive ⟨1, .ack, 69, 7⟩,
        .receive ⟨2, .con, 1, 30⟩, .send 0 .ack] :=
  ⟨by decide, sorted_run_owned 4 0 (by decide)⟩

/-- The acknowledgement of a notification runs the callback that the block had for a request, and a
response from another endpoint runs the callback of a request with its identifier. -/
theorem callback_of_another :
    ¬ Run.Always History.step Owned (History.init 4 0)
      [.create 7 1 (some (5, 9)), .send 0 .con, .receive ⟨1, .ack, 69, 7⟩,
        .create 8 2 none, .send 0 .con, .receive ⟨2, .ack, 0, 8⟩] ∧
    ¬ Run.Always History.step Owned (History.init 4 0)
      [.create 7 1 (some (5, 9)), .send 0 .con, .receive ⟨3, .ack, 69, 7⟩] := by
  constructor
  · intro always
    have rightful := (Run.always_final always).rightful ⟨⟨1, 8, 2, none⟩,
      .message ⟨2, .ack, 0, 8⟩, [⟨5, 9, some ⟨2, .ack, 0, 8⟩⟩]⟩ (by decide)
    have none := rightful.1
    revert none
    decide
  · intro always
    have rightful := (Run.always_final always).rightful ⟨⟨0, 7, 1, some (5, 9)⟩,
      .message ⟨3, .ack, 69, 7⟩, [⟨5, 9, some ⟨3, .ack, 69, 7⟩⟩]⟩ (by decide)
    have source := (rightful.2 (by decide)).1
    revert source
    decide

end MultiPhyTsch.Coap
