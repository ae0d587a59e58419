import MultiPhyTsch.Lib.Aes128
import MultiPhyTsch.Lib.Run
import MultiPhyTsch.Tsch.AdaptiveTimesync
import MultiPhyTsch.Tsch.EbRoundTrip
import MultiPhyTsch.Tsch.Phy

/-! The timeslot timings: the tables compiled in, the pointer `tsch_timing` to one of them, and
the functions that set the pointer or write through it. -/

namespace MultiPhyTsch

structure RfConfig where
  channels : Cc1200RfCfg
  tschTiming : Nat
deriving DecidableEq, Repr

/-- `TSCH_CONF_MULTIPHY_DEFAULT_TIMING` and the configurations name a table by its number;
`timings` are the values compiled in. -/
structure TimingConf where
  tsch : TschConf
  packet : PacketConf
  aes : CcmStar.BlockCipher (Vector UInt8 16)
  usToRtimerticks : UInt16 → UInt32
  timings : Nat → Vector UInt32 12
  rfConfigs : Nat → RfConfig
  multiphyDefaultTiming : Nat
  scanningRadio : RadioDriver
  scanningCc1200Cfg : Nat
  joinSecuredOnly : Bool
  joinMyPanidOnly : Bool
  ieee802154Panid : UInt16

structure TimingState where
  phy : Phy
  currentRfConfig : Nat
  tschTiming : Option Nat
  tables : Nat → Vector UInt32 12

variable (conf : TimingConf)

def TimingState.boot (phy : Phy) (config : Nat) : TimingState := ⟨phy, config, none, conf.timings⟩

namespace TimingState

def values (state : TimingState) : Option (Vector UInt32 12) := state.tschTiming.map state.tables

def select (radio : Option RadioDriver) (state : TimingState) : TimingState :=
  if conf.tsch.withMultiradio then
    { state with phy := multiradioSelect conf.tsch radio state.phy }
  else state

def reconfigure (config : Nat) (busy : Bool) (channel : UInt8) (state : TimingState) :
    TimingState :=
  { state with
    phy := cc1200Reconfigure (conf.rfConfigs config).channels busy channel state.phy
    currentRfConfig := config }

variable (state : TimingState)

def radioTiming : Option Nat :=
  match netstackDriver conf.tsch state.phy with
  | some .cc1200 => some (conf.rfConfigs state.currentRfConfig).tschTiming
  | some .cc2538Rf => none
  | none => none

def timingOfRadio : Nat :=
  (state.radioTiming conf).getD conf.multiphyDefaultTiming

def getTiming : TimingState :=
  { state with tschTiming := some (state.timingOfRadio conf) }

def selectScanning (busy : Bool) (state : TimingState) : TimingState :=
  let selected := state.select conf (some conf.scanningRadio)
  if conf.tsch.withCc1200Reconf then selected.reconfigure conf conf.scanningCc1200Cfg busy 0
  else selected

/-- The timings of an EB written to where `tsch_timing` points. The pointer is set before any
association; a write through NULL goes to no table. -/
def writeTiming (timeslot : Vector UInt16 12) (state : TimingState) : TimingState :=
  match state.tschTiming with
  | some table =>
    { state with
      tables := Function.update state.tables table (timeslot.map conf.usToRtimerticks) }
  | none => state

end TimingState

open TimingState

structure InputEb where
  payload : List UInt8
  len : Nat
  pan : Security.PanMembership
  frame : Frame802154
  ies : Ieee802154Ies
  hdrlen : UInt8

def InputEb.parsed (eb : InputEb) : EbParsed :=
  tschPacketParseEb conf.packet eb.payload eb.len eb.frame eb.ies eb.hdrlen false

def InputEb.authentic (eb : InputEb) : Bool :=
  let parsed := eb.parsed conf
  match conf.packet.security with
  | some security =>
    (Security.tschSecurityParseFrame conf.aes security eb.pan eb.payload parsed.hdrLen.toNat
      ((eb.len : Int) - parsed.hdrLen.toNat - Security.tschSecurityMicLen parsed.frame)
      parsed.frame parsed.frame.srcAddr parsed.ies.ieAsn).1
  | none => parsed.frame.fcf.securityEnabled != 1

def InputEb.accepted (eb : InputEb) : Option Ieee802154Ies :=
  let parsed := eb.parsed conf
  if parsed.value = 0 then none
  else if conf.joinSecuredOnly ∧ parsed.frame.fcf.securityEnabled = 0 then none
  else if !eb.authentic conf then none
  else if conf.joinMyPanidOnly ∧ parsed.frame.srcPid ≠ conf.ieee802154Panid then none
  else if parsed.ies.ieJoinPriority = 0xff then none
  else some parsed.ies

def tschReset (busy : Bool) (state : TimingState) : TimingState :=
  { state.selectScanning conf busy with tschTiming := some conf.multiphyDefaultTiming }

/-- The part of `tsch_associate` that decides the timing. What follows it may still refuse the
network, but undoes none of it. -/
def tschAssociate (eb : InputEb) (busy : Bool) (state : TimingState) : TimingState :=
  match eb.accepted conf with
  | some ies =>
    if ies.ieTschTimeslotId = 0 then (state.selectScanning conf busy).getTiming conf
    else state.writeTiming conf ies.ieTschTimeslot
  | none => state

def slotTiming (radio : Option RadioDriver) (config : Option Nat) (busy : Bool) (channel : UInt8)
    (state : TimingState) : TimingState :=
  let selected := state.select conf radio
  let configured :=
    match conf.tsch.withCc1200Reconf, config with
    | true, some config => selected.reconfigure conf config busy channel
    | _, _ => { selected with phy := netstackSetChannel conf.tsch busy channel selected.phy }
  configured.getTiming conf

/-- The calls that reach the timings. `scan` is the start of `tsch_scan` and `scanRound` one
round of its loop. -/
inductive TimingStep where
  | reset (busy : Bool)
  | scan (busy : Bool)
  | scanRound
  | associate (eb : InputEb) (busy : Bool)
  | slot (radio : Option RadioDriver) (config : Option Nat) (busy : Bool) (channel : UInt8)

def TimingStep.apply (state : TimingState) : TimingStep → TimingState
  | reset busy => tschReset conf busy state
  | scan busy => state.selectScanning conf busy
  | scanRound => state.getTiming conf
  | associate eb busy => tschAssociate conf eb busy state
  | slot radio config busy channel => slotTiming conf radio config busy channel state

def rescan (busy : Bool) (state : TimingState) : TimingState :=
  Run.final (TimingStep.apply conf) state [.reset busy, .scan busy, .scanRound]

/-- No table was altered, and a reset at this point leads to the timings compiled in: those of the
default, then those of the radio that scans, then those of the radio on which an EB without
timings was accepted. -/
structure ResetForgets (state : TimingState) : Prop where
  tables : ∀ table, state.tables table = conf.timings table
  reset : ∀ busy, (tschReset conf busy state).values =
    some (conf.timings conf.multiphyDefaultTiming)
  scan : ∀ busy, (rescan conf busy state).values =
    some (conf.timings ((rescan conf busy state).timingOfRadio conf))
  associate : ∀ busy eb ies, eb.accepted conf = some ies → ies.ieTschTimeslotId = 0 →
    let joined := tschAssociate conf eb busy (rescan conf busy state)
    joined.values = some (conf.timings (joined.timingOfRadio conf))

/-- An EB that passes the checks and carries timings carries those `tsch_timing` points to. -/
def CarriesCurrentTiming (state : TimingState) : TimingStep → Prop
  | .associate eb _ => ∀ ies, eb.accepted conf = some ies → ies.ieTschTimeslotId ≠ 0 →
      ∀ table, state.tschTiming = some table →
        ies.ieTschTimeslot.map conf.usToRtimerticks = state.tables table
  | _ => True

theorem select_tables (radio : Option RadioDriver) (state : TimingState) :
    (state.select conf radio).tables = state.tables := by
  unfold select
  split <;> rfl

theorem selectScanning_tables (busy : Bool) (state : TimingState) :
    (state.selectScanning conf busy).tables = state.tables := by
  unfold selectScanning
  split
  · exact select_tables conf _ state
  · exact select_tables conf _ state

variable (state : TimingState)

theorem getTiming_values :
    (state.getTiming conf).values = some (state.tables (state.timingOfRadio conf)) := rfl

theorem rescan_tables (busy : Bool) (state : TimingState) :
    (rescan conf busy state).tables = state.tables := by
  have scanned : (rescan conf busy state).tables =
      ((tschReset conf busy state).selectScanning conf busy).tables := rfl
  rw [scanned, selectScanning_tables]
  exact selectScanning_tables conf busy state

theorem resetForgets_iff :
    ResetForgets conf state ↔ ∀ table, state.tables table = conf.timings table := by
  constructor
  · exact ResetForgets.tables
  · intro kept
    constructor
    · exact kept
    · intro busy
      have reset : (tschReset conf busy state).values =
          some ((state.selectScanning conf busy).tables conf.multiphyDefaultTiming) := rfl
      rw [reset, selectScanning_tables, kept]
    · intro busy
      have read : (rescan conf busy state).values =
          some ((rescan conf busy state).tables ((rescan conf busy state).timingOfRadio conf)) := rfl
      rw [read, rescan_tables, kept]
    · intro busy eb ies accepted absent joined
      have chosen : joined =
          ((rescan conf busy state).selectScanning conf busy).getTiming conf := by
        simp only [joined, tschAssociate, accepted, if_pos absent]
      rw [chosen, getTiming_values, selectScanning_tables, rescan_tables, kept]
      rfl

theorem slotTiming_tables (radio : Option RadioDriver) (config : Option Nat) (busy : Bool)
    (channel : UInt8) (state : TimingState) :
    (slotTiming conf radio config busy channel state).tables = state.tables := by
  unfold slotTiming
  dsimp only
  split
  · exact select_tables conf radio state
  · exact select_tables conf radio state

theorem TimingStep.apply_tables (step : TimingStep) :
    (step.apply conf state).tables = state.tables ∨
      ∃ eb busy ies table, step = .associate eb busy ∧ eb.accepted conf = some ies ∧
        ies.ieTschTimeslotId ≠ 0 ∧ state.tschTiming = some table ∧
        (step.apply conf state).tables = Function.update state.tables table
          (ies.ieTschTimeslot.map conf.usToRtimerticks) := by
  cases step with
  | reset busy => exact Or.inl (selectScanning_tables conf busy state)
  | scan busy => exact Or.inl (selectScanning_tables conf busy state)
  | scanRound => exact Or.inl rfl
  | slot radio config busy channel =>
    exact Or.inl (slotTiming_tables conf radio config busy channel state)
  | associate eb busy =>
    simp only [TimingStep.apply, tschAssociate]
    cases accepted : eb.accepted conf with
    | none => exact Or.inl rfl
    | some ies =>
      by_cases absent : ies.ieTschTimeslotId = 0
      · left
        simp only [if_pos absent]
        exact selectScanning_tables conf busy state
      · simp only [if_neg absent, writeTiming]
        cases pointed : state.tschTiming with
        | none => exact Or.inl rfl
        | some table => exact Or.inr ⟨eb, busy, ies, table, rfl, accepted, absent, rfl, rfl⟩

theorem tables_kept_iff (step : TimingStep) :
    (step.apply conf state).tables = state.tables ↔ CarriesCurrentTiming conf state step := by
  rcases step.apply_tables conf state with kept | ⟨eb, busy, ies, table, rfl, accepted, present,
      pointed, written⟩
  · refine iff_of_true kept ?_
    cases step with
    | associate eb busy =>
      intro ies accepted present table pointed
      simp only [TimingStep.apply, tschAssociate, accepted, if_neg present, writeTiming,
        pointed] at kept
      simpa using congrFun kept table
    | _ => trivial
  · rw [written, Function.update_eq_self_iff]
    constructor
    · intro same others othersAccepted _ other otherPointed
      obtain rfl : ies = others := Option.some.inj (accepted.symm.trans othersAccepted)
      obtain rfl : table = other := Option.some.inj (pointed.symm.trans otherPointed)
      exact same
    · intro carries
      exact carries ies accepted present table pointed

/-- Along a run every reset leads back to the timings compiled in exactly if every EB that is
accepted with timings of its own carries the ones in use. -/
theorem reset_forgets_iff (phy : Phy) (config : Nat) (steps : List TimingStep) :
    Run.Always (TimingStep.apply conf) (ResetForgets conf) (TimingState.boot conf phy config) steps ↔
      Run.Meets (TimingStep.apply conf) (CarriesCurrentTiming conf)
        (TimingState.boot conf phy config) steps := by
  have anyStep : Run.Meets (TimingStep.apply conf) (fun _ _ => True)
      (TimingState.boot conf phy config) steps := Run.meets_of_forall (fun _ _ => trivial) steps _
  apply Run.always_iff_meets (fun state => state.tables = conf.timings) _ _ _ steps _ rfl anyStep
  · intro state kept
    exact (resetForgets_iff conf state).mpr (congrFun kept)
  · intro state step kept _ carries
    exact ((tables_kept_iff conf state step).mpr carries).trans kept
  · intro state step kept _ other forgets
    have after : (step.apply conf state).tables = conf.timings := funext forgets.tables
    exact other ((tables_kept_iff conf state step).mp (after.trans kept.symm))

def timingConf : TimingConf :=
  { tsch := cc1200Conf
    packet := beaconPackets inlineElements
    aes := Aes128.cipher
    usToRtimerticks := fun us => (usToRtimerticks (Int32.ofNat us.toNat)).toUInt32
    timings := fun _ => #v[59, 4, 69, 32, 26, 33, 72, 13, 6, 79, 140, 328]
    rfConfigs := fun _ => ⟨cc1200Conf.cc1200ConfRfCfg, 0⟩
    multiphyDefaultTiming := 0
    scanningRadio := .cc1200
    scanningCc1200Cfg := 0
    joinSecuredOnly := false
    joinMyPanidOnly := false
    ieee802154Panid := 0xabcd }

def inlineBeacon : InputEb :=
  let frame := ((tschPacketCreateEb (beaconPackets inlineElements) beaconSource).map
    fun created => packetbufFrame created.1).getD []
  ⟨frame, frame.length, ⟨false, false⟩, default, iesZero ⟨16, false⟩, 0⟩

theorem foreign_timing_survives_reset :
    let left := Run.final (TimingStep.apply timingConf) (TimingState.boot timingConf default 0)
      [.reset false, .scan false, .scanRound, .associate inlineBeacon false, .reset false]
    left.values = some #v[0, 33, 66, 98, 131, 164, 197, 229, 262, 295, 328, 360] ∧
      ¬ ResetForgets timingConf left := by
  intro left
  have timings : left.values = some #v[0, 33, 66, 98, 131, 164, 197, 229, 262, 295, 328, 360] := by
    decide +kernel
  refine ⟨timings, fun forgets => ?_⟩
  have pointed : left.tschTiming = some 0 := rfl
  rw [values, pointed, Option.map_some, forgets.tables] at timings
  exact absurd timings (by decide)

end MultiPhyTsch
