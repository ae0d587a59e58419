import MultiPhyTsch.Lib.Run
import MultiPhyTsch.Rpl.Types

/-! The Trickle timer of the DIOs (`rpl-timers.c`), where `unsigned long` and `clock_time_t` have
32 bits. What the rest of RPL does to it comes in as events, also while a DIO is sent. -/

namespace MultiPhyTsch.Rpl

/-- The fields of the instance and of the DAG that the timer reads and writes. `dioTimer` is the
delay that `dio_timer` was set to, none when it does not run. -/
structure DioTrickle where
  used : Bool
  mop : UInt8
  state : RplDagState
  isRoot : Bool
  leafOnly : Bool
  dioIntdoubl : UInt8
  dioIntmin : UInt8
  dioRedundancy : UInt8
  dioIntcurrent : UInt8
  dioSend : Bool
  dioCounter : UInt8
  dioNextDelay : UInt32
  dioTimer : Option UInt32
deriving DecidableEq, Repr

/-- An interval that has been started: its length, the instant at which the timer runs off and what
is left of the interval then. -/
structure DioInterval where
  dioIntcurrent : UInt8
  ticks : UInt32
  instant : UInt32
  nextDelay : UInt32
deriving DecidableEq, Repr

/-- What happens elsewhere: the node joins, leaves or changes its state, the timer is reset with a
random number for the draw, a DIO is heard. -/
inductive DioEvent where
  | change (used : Bool) (mop : UInt8) (state : RplDagState) (isRoot leafOnly : Bool)
  | reset (rand : UInt16)
  | heard
deriving DecidableEq, Repr

/-- The timer runs off with the draw of the next interval, if there is one, and the events in the
state update before a DIO is sent. -/
inductive DioLabel where
  | event (event : DioEvent)
  | expire (update : List DioEvent) (rand : UInt16)
deriving DecidableEq, Repr

def randomRandMax : UInt32 := 65535

namespace DioTrickle

def initDagFromDio (mop dagIntdoubl dagIntmin dagRedund : UInt8) (leafOnly : Bool) : DioTrickle :=
  { used := true
    mop := mop
    state := .initialized
    isRoot := false
    leafOnly := leafOnly
    dioIntdoubl := dagIntdoubl
    dioIntmin := dagIntmin
    dioRedundancy := dagRedund
    dioIntcurrent := dagIntmin
    dioSend := false
    dioCounter := 0
    dioNextDelay := 0
    dioTimer := none }

def readyToAdvertise (trickle : DioTrickle) : Bool :=
  if trickle.mop = 0 then trickle.used
  else trickle.used && (trickle.state == .reachable || trickle.state == .poisoning)

def time (trickle : DioTrickle) : Option UInt32 :=
  if trickle.dioIntcurrent < 32 then some (UInt32.ofNat (2 ^ trickle.dioIntcurrent.toNat)) else none

variable (clockSecond : UInt32)

def newDioInterval (rand : UInt16) (trickle : DioTrickle) : Option (DioTrickle × DioInterval) :=
  trickle.time.map fun time =>
    let ticks := time * clockSecond / 1000
    let instant := ticks / 2 + ticks / 2 * rand.toUInt32 / randomRandMax
    let nextDelay := ticks - instant
    ({ trickle with
        dioNextDelay := nextDelay
        dioSend := true
        dioCounter := 0
        dioTimer := some instant },
      ⟨trickle.dioIntcurrent, ticks, instant, nextDelay⟩)

def rplTimersDioReset (rand : UInt16) (trickle : DioTrickle) :
    Option (DioTrickle × List DioInterval) :=
  if trickle.readyToAdvertise && !trickle.leafOnly then
    (newDioInterval clockSecond rand
      { trickle with dioCounter := 0, dioIntcurrent := trickle.dioIntmin }).map
        fun (trickle, interval) => (trickle, [interval])
  else some (trickle, [])

def event (trickle : DioTrickle) : DioEvent → Option (DioTrickle × List DioInterval)
  | .change used mop state isRoot leafOnly =>
    some ({ trickle with
      used := used, mop := mop, state := state, isRoot := isRoot, leafOnly := leafOnly }, [])
  | .reset rand => rplTimersDioReset clockSecond rand trickle
  | .heard => some ({ trickle with dioCounter := trickle.dioCounter + 1 }, [])

def events (trickle : DioTrickle) : List DioEvent → Option (DioTrickle × List DioInterval)
  | [] => some (trickle, [])
  | first :: rest =>
    (trickle.event clockSecond first).bind fun (trickle, started) =>
      (trickle.events rest).map fun (trickle, later) => (trickle, started ++ later)

def sendsDio (trickle : DioTrickle) : Bool :=
  trickle.isRoot || trickle.dioRedundancy == 0 || trickle.dioCounter < trickle.dioRedundancy

def handleDioTimer (update : List DioEvent) (rand : UInt16) (trickle : DioTrickle) :
    Option (DioTrickle × List DioInterval) :=
  if !trickle.readyToAdvertise then some (trickle, [])
  else if trickle.dioSend then
    (trickle.events clockSecond (if trickle.sendsDio then update else [])).map
      fun (trickle, started) =>
        ({ trickle with dioSend := false, dioTimer := some trickle.dioNextDelay }, started)
  else
    let dioIntcurrent :=
      if trickle.dioIntcurrent.toNat < trickle.dioIntmin.toNat + trickle.dioIntdoubl.toNat then
        trickle.dioIntcurrent + 1
      else trickle.dioIntcurrent
    (newDioInterval clockSecond rand { trickle with dioIntcurrent := dioIntcurrent }).map
      fun (trickle, interval) => (trickle, [interval])

def run (trickle : DioTrickle) : DioLabel → Option (DioTrickle × List DioInterval)
  | .event event => trickle.event clockSecond event
  | .expire update rand =>
    if trickle.dioTimer.isSome then
      handleDioTimer clockSecond update rand { trickle with dioTimer := none }
    else some (trickle, [])

def step (trickle : DioTrickle) (label : DioLabel) : DioTrickle :=
  ((trickle.run clockSecond label).map Prod.fst).getD trickle

end DioTrickle

/-- The interval has the length of its exponent in whole ticks, the timer runs off in the second
half of it, and the delay that is left ends with it. -/
structure DioInterval.Exact (clockSecond : UInt32) (interval : DioInterval) : Prop where
  length : interval.ticks.toNat = 2 ^ interval.dioIntcurrent.toNat * clockSecond.toNat / 1000
  early : interval.ticks.toNat / 2 ≤ interval.instant.toNat
  late : interval.instant.toNat ≤ interval.ticks.toNat
  rest : interval.instant.toNat + interval.nextDelay.toNat = interval.ticks.toNat

def DioInterval.Fits (clockSecond : UInt32) (exponent : Nat) : Prop :=
  exponent < 32 ∧ 2 ^ exponent * clockSecond.toNat < 2 ^ 32

def DioTrickle.Keeps (clockSecond : UInt32) (dioIntmin dioIntdoubl : UInt8) (trickle : DioTrickle)
    (label : DioLabel) : Prop :=
  ∃ next started, trickle.run clockSecond label = some (next, started) ∧
    dioIntmin.toNat ≤ next.dioIntcurrent.toNat ∧
    next.dioIntcurrent.toNat ≤ dioIntmin.toNat + dioIntdoubl.toNat ∧
    ∀ interval ∈ started, interval.Exact clockSecond

section

variable {clockSecond : UInt32}

theorem DioInterval.Fits.mono {exponent larger : Nat} (fits : Fits clockSecond larger)
    (smaller : exponent ≤ larger) : Fits clockSecond exponent := by
  refine ⟨by have := fits.1; omega, Nat.lt_of_le_of_lt ?_ fits.2⟩
  exact Nat.mul_le_mul_right _ (Nat.pow_le_pow_right (by omega) smaller)

theorem draw_le (half : UInt32) (rand : UInt16) :
    (half * rand.toUInt32 / randomRandMax).toNat ≤ half.toNat := by
  have below : rand.toNat ≤ 65535 := by
    have := rand.toNat_lt
    omega
  have product : half.toNat * rand.toNat ≤ half.toNat * 65535 := Nat.mul_le_mul_left _ below
  rw [UInt32.toNat_div, UInt32.toNat_mul, UInt16.toNat_toUInt32]
  change half.toNat * rand.toNat % 2 ^ 32 / 65535 ≤ half.toNat
  have wrapped := Nat.mod_le (half.toNat * rand.toNat) (2 ^ 32)
  omega

theorem time_toNat {trickle : DioTrickle} {time : UInt32} (shifted : trickle.time = some time) :
    trickle.dioIntcurrent.toNat < 32 ∧ time.toNat = 2 ^ trickle.dioIntcurrent.toNat := by
  unfold DioTrickle.time at shifted
  split at shifted
  next small =>
    obtain rfl := Option.some.inj shifted
    have small : trickle.dioIntcurrent.toNat < 32 := UInt8.lt_iff_toNat_lt.mp small
    have fits : 2 ^ trickle.dioIntcurrent.toNat < 2 ^ 32 := Nat.pow_lt_pow_right (by omega) small
    exact ⟨small, Nat.mod_eq_of_lt fits⟩
  next => cases shifted

theorem newDioInterval_some {rand : UInt16} {trickle next : DioTrickle} {interval : DioInterval}
    (started : trickle.newDioInterval clockSecond rand = some (next, interval)) :
    trickle.dioIntcurrent.toNat < 32 ∧
      interval.dioIntcurrent = trickle.dioIntcurrent ∧
      interval.ticks.toNat =
        2 ^ trickle.dioIntcurrent.toNat * clockSecond.toNat % 2 ^ 32 / 1000 ∧
      interval.ticks.toNat / 2 ≤ interval.instant.toNat ∧
      interval.instant.toNat ≤ interval.ticks.toNat ∧
      interval.instant.toNat + interval.nextDelay.toNat = interval.ticks.toNat := by
  unfold DioTrickle.newDioInterval at started
  obtain ⟨time, shifted, made⟩ := Option.map_eq_some_iff.mp started
  obtain ⟨small, value⟩ := time_toNat shifted
  cases made
  have length : (time * clockSecond / 1000).toNat =
      2 ^ trickle.dioIntcurrent.toNat * clockSecond.toNat % 2 ^ 32 / 1000 := by
    rw [UInt32.toNat_div, UInt32.toNat_mul, value]
    rfl
  refine ⟨small, rfl, length, ?_⟩
  generalize time * clockSecond / 1000 = ticks
  have drawn := draw_le (ticks / 2) rand
  generalize ticks / 2 * rand.toUInt32 / randomRandMax = draw at drawn ⊢
  have half : (ticks / 2).toNat = ticks.toNat / 2 := UInt32.toNat_div ticks 2
  have bound := ticks.toNat_lt
  have instant : (ticks / 2 + draw).toNat = ticks.toNat / 2 + draw.toNat := by
    rw [UInt32.toNat_add, half]
    exact Nat.mod_eq_of_lt (by omega)
  have inside : ticks / 2 + draw ≤ ticks := by
    rw [UInt32.le_iff_toNat_le, instant]
    omega
  dsimp only
  rw [UInt32.toNat_sub_of_le _ _ inside, instant]
  omega

theorem newDioInterval_exact_iff (rand : UInt16) (trickle : DioTrickle) :
    (∃ next interval, trickle.newDioInterval clockSecond rand = some (next, interval) ∧
      interval.Exact clockSecond) ↔
      DioInterval.Fits clockSecond trickle.dioIntcurrent.toNat := by
  constructor
  · rintro ⟨next, interval, started, precise⟩
    obtain ⟨small, same, length, -⟩ := newDioInterval_some started
    refine ⟨small, ?_⟩
    have whole := precise.length
    rw [same, length] at whole
    by_contra beyond
    generalize 2 ^ trickle.dioIntcurrent.toNat * clockSecond.toNat = product at whole beyond
    omega
  · rintro ⟨small, fits⟩
    have shifted : trickle.time = some (UInt32.ofNat (2 ^ trickle.dioIntcurrent.toNat)) :=
      if_pos (UInt8.lt_iff_toNat_lt.mpr small)
    cases started : trickle.newDioInterval clockSecond rand with
    | none =>
      rw [DioTrickle.newDioInterval, shifted] at started
      cases started
    | some made =>
      obtain ⟨next, interval⟩ := made
      obtain ⟨-, same, length, early, late, rest⟩ := newDioInterval_some started
      rw [Nat.mod_eq_of_lt fits, ← same] at length
      exact ⟨next, interval, rfl, ⟨length, early, late, rest⟩⟩

theorem newDioInterval_state {rand : UInt16} {trickle next : DioTrickle} {interval : DioInterval}
    (started : trickle.newDioInterval clockSecond rand = some (next, interval)) :
    next = { trickle with
      dioNextDelay := interval.nextDelay
      dioSend := true
      dioCounter := 0
      dioTimer := some interval.instant } := by
  unfold DioTrickle.newDioInterval at started
  obtain ⟨time, -, made⟩ := Option.map_eq_some_iff.mp started
  cases made
  rfl

end

structure DioTrickle.InRange (dioIntmin dioIntdoubl : UInt8) (trickle : DioTrickle) : Prop where
  intmin : trickle.dioIntmin = dioIntmin
  intdoubl : trickle.dioIntdoubl = dioIntdoubl
  lower : dioIntmin.toNat ≤ trickle.dioIntcurrent.toNat
  upper : trickle.dioIntcurrent.toNat ≤ dioIntmin.toNat + dioIntdoubl.toNat

def DioTrickle.Regular (clockSecond : UInt32) (dioIntmin dioIntdoubl : UInt8)
    (result : Option (DioTrickle × List DioInterval)) : Prop :=
  ∃ next started, result = some (next, started) ∧ next.InRange dioIntmin dioIntdoubl ∧
    ∀ interval ∈ started, interval.Exact clockSecond

section

variable {clockSecond : UInt32} {dioIntmin dioIntdoubl : UInt8}

variable {trickle : DioTrickle}

theorem regular_quiet (inRange : trickle.InRange dioIntmin dioIntdoubl) :
    DioTrickle.Regular clockSecond dioIntmin dioIntdoubl (some (trickle, [])) :=
  ⟨trickle, [], rfl, inRange, fun _ absent => absurd absent List.not_mem_nil⟩

variable (fits : DioInterval.Fits clockSecond (dioIntmin.toNat + dioIntdoubl.toNat))

include fits

theorem newDioInterval_regular {rand : UInt16} (inRange : trickle.InRange dioIntmin dioIntdoubl) :
    DioTrickle.Regular clockSecond dioIntmin dioIntdoubl
      ((trickle.newDioInterval clockSecond rand).map
        fun (trickle, interval) => (trickle, [interval])) := by
  obtain ⟨next, interval, started, precise⟩ :=
    (newDioInterval_exact_iff rand trickle).mpr (fits.mono inRange.upper)
  have same := newDioInterval_state started
  refine ⟨next, [interval], by rw [started]; rfl, ?_, ?_⟩
  · rw [same]
    exact ⟨inRange.intmin, inRange.intdoubl, inRange.lower, inRange.upper⟩
  · intro other member
    obtain rfl := List.mem_singleton.mp member
    exact precise

theorem event_regular (inRange : trickle.InRange dioIntmin dioIntdoubl) (event : DioEvent) :
    DioTrickle.Regular clockSecond dioIntmin dioIntdoubl (trickle.event clockSecond event) := by
  cases event with
  | change used mop state isRoot leafOnly =>
    exact regular_quiet ⟨inRange.intmin, inRange.intdoubl, inRange.lower, inRange.upper⟩
  | heard => exact regular_quiet ⟨inRange.intmin, inRange.intdoubl, inRange.lower, inRange.upper⟩
  | reset rand =>
    change DioTrickle.Regular _ _ _ (trickle.rplTimersDioReset clockSecond rand)
    unfold DioTrickle.rplTimersDioReset
    split
    · apply newDioInterval_regular fits
      refine ⟨inRange.intmin, inRange.intdoubl, ?_, ?_⟩
      · exact Nat.le_of_eq (congrArg UInt8.toNat inRange.intmin).symm
      · change trickle.dioIntmin.toNat ≤ _
        rw [inRange.intmin]
        exact Nat.le_add_right _ _
    · exact regular_quiet inRange

theorem events_regular (events : List DioEvent) : ∀ {trickle : DioTrickle},
    trickle.InRange dioIntmin dioIntdoubl →
      DioTrickle.Regular clockSecond dioIntmin dioIntdoubl (trickle.events clockSecond events) := by
  induction events with
  | nil => exact fun inRange => regular_quiet inRange
  | cons first rest ih =>
    intro trickle inRange
    obtain ⟨middle, started, ran, inRange, precise⟩ := event_regular fits inRange first
    obtain ⟨next, later, onward, inRange, precise'⟩ := ih inRange
    refine ⟨next, started ++ later, ?_, inRange, ?_⟩
    · simp only [DioTrickle.events, ran, onward, Option.bind_some, Option.map_some]
    · intro interval member
      rcases List.mem_append.mp member with early | late
      · exact precise interval early
      · exact precise' interval late

theorem handleDioTimer_regular
    (inRange : trickle.InRange dioIntmin dioIntdoubl) (update : List DioEvent) (rand : UInt16) :
    DioTrickle.Regular clockSecond dioIntmin dioIntdoubl
      (trickle.handleDioTimer clockSecond update rand) := by
  unfold DioTrickle.handleDioTimer
  split
  · exact regular_quiet inRange
  split
  · obtain ⟨next, started, ran, inRange, precise⟩ :=
      events_regular fits (if trickle.sendsDio then update else []) inRange
    refine ⟨_, started, by rw [ran]; rfl, ?_, precise⟩
    exact ⟨inRange.intmin, inRange.intdoubl, inRange.lower, inRange.upper⟩
  · apply newDioInterval_regular fits
    refine ⟨inRange.intmin, inRange.intdoubl, ?_, ?_⟩
    all_goals
      have below := fits.1
      have lower := inRange.lower
      have upper := inRange.upper
      dsimp only
      rw [inRange.intmin, inRange.intdoubl]
      split
    -- the exponent is below 32, so it does not wrap
    · rw [UInt8.toNat_add]
      change _ ≤ (_ + 1) % 256
      omega
    · exact lower
    · rw [UInt8.toNat_add]
      change (_ + 1) % 256 ≤ _
      omega
    · exact upper

theorem run_regular (inRange : trickle.InRange dioIntmin dioIntdoubl) (label : DioLabel) :
    DioTrickle.Regular clockSecond dioIntmin dioIntdoubl (trickle.run clockSecond label) := by
  cases label with
  | event event => exact event_regular fits inRange event
  | expire update rand =>
    by_cases running : trickle.dioTimer.isSome
    · rw [DioTrickle.run, if_pos running]
      apply handleDioTimer_regular fits
      exact ⟨inRange.intmin, inRange.intdoubl, inRange.lower, inRange.upper⟩
    · rw [DioTrickle.run, if_neg running]
      exact regular_quiet inRange

omit fits in
theorem DioTrickle.Regular.step {label : DioLabel}
    (regular : DioTrickle.Regular clockSecond dioIntmin dioIntdoubl
      (trickle.run clockSecond label)) :
    (trickle.step clockSecond label).InRange dioIntmin dioIntdoubl ∧
      trickle.Keeps clockSecond dioIntmin dioIntdoubl label := by
  obtain ⟨next, started, ran, inRange, precise⟩ := regular
  constructor
  · rw [DioTrickle.step, ran]
    exact inRange
  · exact ⟨next, started, ran, inRange.lower, inRange.upper, precise⟩

theorem keeps_of_fits (labels : List DioLabel) : ∀ {trickle : DioTrickle},
    trickle.InRange dioIntmin dioIntdoubl →
      Run.Meets (DioTrickle.step clockSecond) (DioTrickle.Keeps clockSecond dioIntmin dioIntdoubl)
        trickle labels := by
  induction labels with
  | nil => exact fun _ => trivial
  | cons label rest ih =>
    intro trickle inRange
    obtain ⟨inRange, keeps⟩ := DioTrickle.Regular.step (run_regular fits inRange label)
    exact ⟨keeps, ih inRange⟩

end

/-! The run in which nothing disturbs the timer: each time it runs off twice the exponent grows. -/

structure DioTrickle.Doubling (clockSecond : UInt32) (dioIntmin dioIntdoubl : UInt8) (grown : Nat)
    (trickle : DioTrickle) : Prop where
  ready : trickle.readyToAdvertise = true
  sending : trickle.dioSend = true
  running : trickle.dioTimer.isSome = true
  intmin : trickle.dioIntmin = dioIntmin
  intdoubl : trickle.dioIntdoubl = dioIntdoubl
  current : trickle.dioIntcurrent.toNat = dioIntmin.toNat + grown
  fits : DioInterval.Fits clockSecond (dioIntmin.toNat + grown)

def undisturbed : Nat → List DioLabel
  | 0 => [.event (.change true 0 .initialized false false), .event (.reset 0)]
  | grown + 1 => undisturbed grown ++ [.expire [] 0, .expire [] 0]

section

variable (clockSecond : UInt32) {dioIntmin dioIntdoubl : UInt8}

theorem expire_eq (trickle : DioTrickle) (running : trickle.dioTimer.isSome = true)
    (ready : trickle.readyToAdvertise = true) :
    trickle.run clockSecond (.expire [] 0) =
      if trickle.dioSend then
        some ({ trickle with dioSend := false, dioTimer := some trickle.dioNextDelay }, [])
      else
        (DioTrickle.newDioInterval clockSecond 0 { trickle with
          dioTimer := none
          dioIntcurrent :=
            if trickle.dioIntcurrent.toNat < trickle.dioIntmin.toNat + trickle.dioIntdoubl.toNat then
              trickle.dioIntcurrent + 1
            else trickle.dioIntcurrent }).map
          fun (trickle, interval) => (trickle, [interval]) := by
  have ready' : ¬ (!trickle.readyToAdvertise) = true := by simp [ready]
  rw [DioTrickle.run, if_pos running, DioTrickle.handleDioTimer]
  refine (if_neg ready').trans ?_
  rw [ite_self]
  rfl

variable {clockSecond}

theorem fits_of_keeps (rand : UInt16) {trickle before : DioTrickle} {label : DioLabel}
    (ran : trickle.run clockSecond label = (before.newDioInterval clockSecond rand).map
      fun (trickle, interval) => (trickle, [interval]))
    (keeps : trickle.Keeps clockSecond dioIntmin dioIntdoubl label) :
    ∃ interval : DioInterval, trickle.step clockSecond label = { before with
        dioNextDelay := interval.nextDelay
        dioSend := true
        dioCounter := 0
        dioTimer := some interval.instant } ∧
      DioInterval.Fits clockSecond before.dioIntcurrent.toNat := by
  obtain ⟨next, started, kept, -, -, precise⟩ := keeps
  rw [ran] at kept
  obtain ⟨⟨next', interval⟩, made, same⟩ := Option.map_eq_some_iff.mp kept
  cases same
  refine ⟨interval, ?_, (newDioInterval_exact_iff rand before).mp ⟨next, interval, made, ?_⟩⟩
  · rw [DioTrickle.step, ran, kept]
    exact newDioInterval_state made
  · exact precise interval (List.mem_singleton.mpr rfl)

theorem DioTrickle.Doubling.grows {grown : Nat} {trickle : DioTrickle}
    (doubling : trickle.Doubling clockSecond dioIntmin dioIntdoubl grown)
    (room : grown < dioIntdoubl.toNat)
    (keeps : Run.Meets (DioTrickle.step clockSecond)
      (DioTrickle.Keeps clockSecond dioIntmin dioIntdoubl) trickle [.expire [] 0, .expire [] 0]) :
    (Run.final (DioTrickle.step clockSecond) trickle [.expire [] 0, .expire [] 0]).Doubling
      clockSecond dioIntmin dioIntdoubl (grown + 1) := by
  obtain ⟨-, keeps, -⟩ := keeps
  have sent : trickle.step clockSecond (.expire [] 0) =
      { trickle with dioSend := false, dioTimer := some trickle.dioNextDelay } := by
    rw [DioTrickle.step, expire_eq clockSecond trickle doubling.running doubling.ready,
      if_pos doubling.sending]
    rfl
  have grows : trickle.dioIntcurrent.toNat < trickle.dioIntmin.toNat + trickle.dioIntdoubl.toNat := by
    rw [doubling.current, doubling.intmin, doubling.intdoubl]
    omega
  have current : (trickle.dioIntcurrent + 1).toNat = dioIntmin.toNat + (grown + 1) := by
    have small := doubling.fits.1
    rw [UInt8.toNat_add, doubling.current]
    change (_ + 1) % 256 = _
    omega
  rw [sent] at keeps
  have ran := expire_eq clockSecond
    { trickle with dioSend := false, dioTimer := some trickle.dioNextDelay } rfl doubling.ready
  rw [if_neg Bool.false_ne_true] at ran
  obtain ⟨interval, started, fits⟩ := fits_of_keeps 0 ran keeps
  dsimp only at started fits
  rw [if_pos grows] at started fits
  change (DioTrickle.step clockSecond (DioTrickle.step clockSecond _ _) _).Doubling _ _ _ _
  rw [sent, started]
  exact ⟨doubling.ready, rfl, rfl, doubling.intmin, doubling.intdoubl, current, current ▸ fits⟩

theorem undisturbed_doubling {grown : Nat} {trickle : DioTrickle}
    (intmin : trickle.dioIntmin = dioIntmin) (intdoubl : trickle.dioIntdoubl = dioIntdoubl)
    (room : grown ≤ dioIntdoubl.toNat)
    (keeps : Run.Meets (DioTrickle.step clockSecond)
      (DioTrickle.Keeps clockSecond dioIntmin dioIntdoubl) trickle (undisturbed grown)) :
    (Run.final (DioTrickle.step clockSecond) trickle (undisturbed grown)).Doubling
      clockSecond dioIntmin dioIntdoubl grown := by
  induction grown with
  | zero =>
    obtain ⟨-, keeps, -⟩ := keeps
    obtain ⟨interval, started, fits⟩ := fits_of_keeps 0 rfl keeps
    change (DioTrickle.step clockSecond (DioTrickle.step clockSecond _ _) _).Doubling _ _ _ _
    rw [started]
    exact ⟨rfl, rfl, rfl, intmin, intdoubl, congrArg UInt8.toNat intmin, intmin ▸ fits⟩
  | succ grown ih =>
    rw [undisturbed, Run.meets_append] at keeps
    rw [undisturbed, Run.final_append]
    exact (ih (by omega) keeps.1).grows room keeps.2

end

/-- From the DIO on every run keeps the exponent in range and starts exact intervals if and only if
the longest interval that the DIO allows fits into 32 bits. -/
theorem dioTrickle_exact_iff (clockSecond : UInt32) (mop dagIntdoubl dagIntmin dagRedund : UInt8)
    (leafOnly : Bool) :
    (∀ labels, Run.Meets (DioTrickle.step clockSecond)
      (DioTrickle.Keeps clockSecond dagIntmin dagIntdoubl)
      (DioTrickle.initDagFromDio mop dagIntdoubl dagIntmin dagRedund leafOnly) labels) ↔
      dagIntmin.toNat + dagIntdoubl.toNat < 32 ∧
        2 ^ (dagIntmin.toNat + dagIntdoubl.toNat) * clockSecond.toNat < 2 ^ 32 := by
  constructor
  · intro keeps
    have doubling := undisturbed_doubling (by rfl) (by rfl) (Nat.le_refl dagIntdoubl.toNat)
      (keeps (undisturbed dagIntdoubl.toNat))
    exact doubling.fits
  · intro fits labels
    exact keeps_of_fits fits labels ⟨rfl, rfl, Nat.le_refl _, Nat.le_add_right _ _⟩

theorem dioTrickle_floods :
    ¬ Run.Meets (DioTrickle.step 128) (DioTrickle.Keeps 128 25 0)
      (DioTrickle.initDagFromDio 0 0 25 10 false) [.event (.reset 0)] := by
  rintro ⟨⟨next, started, ran, -, -, precise⟩, -⟩
  cases ran
  exact absurd (precise _ (List.mem_singleton.mpr rfl)).length (by decide)

end MultiPhyTsch.Rpl
