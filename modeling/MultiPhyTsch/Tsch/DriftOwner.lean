import MultiPhyTsch.Lib.Run
import MultiPhyTsch.Tsch.AdaptiveTimesync
import MultiPhyTsch.Tsch.NeighborTable

/-! Whose corrections the drift was learned from. `tsch_timesync_update` forgets what was learned
when its argument is not the pointer of the last correction. Nothing is forgotten when the time
source changes, and a neighbor block that was freed may come back for another address. -/

namespace MultiPhyTsch

variable (conf : TschConf)

def timeSourceAddr (node : Node) : Option LinkAddr :=
  (tschQueueGetTimeSource node).map fun n => (node.neighbor n).addr

structure DriftSample where
  addr : LinkAddr
  tenure : Nat
deriving DecidableEq, Repr

/-- The node with the corrections behind each entry of the moving average, newest first, those
added up since the last entry, and the tenure of the last one. -/
structure DriftHistory where
  node : Node
  tenure : Nat
  learned : List (List DriftSample)
  window : List DriftSample
  measured : Nat

inductive DriftStep where
  | updateTimeSource (newAddr : Option LinkAddr)
  | addNbr (addr : LinkAddr)
  | freeUnusedNeighbors
  | correction (n : Nat) (timeDeltaAsn : UInt16) (driftCorrection : Int32)
  | compensate (timeDeltaTicks : UInt32)
  | desynchronize
  | traffic (queue : Queue)
  | elsewhere (mac : Mac)

namespace DriftStep

def apply (node : Node) : DriftStep → Node
  | updateTimeSource newAddr => (tschQueueUpdateTimeSource conf newAddr node).2
  | addNbr addr => (tschQueueAddNbr conf addr node).2
  | freeUnusedNeighbors => tschQueueFreeUnusedNeighbors node
  | correction n timeDeltaAsn driftCorrection => { node with
      timesync := tschTimesyncUpdate conf (some n) timeDeltaAsn driftCorrection node.timesync }
  | compensate timeDeltaTicks => { node with
      timesync := (tschTimesyncAdaptiveCompensate conf timeDeltaTicks node.timesync).2 }
  | desynchronize => { node with timesync := { node.timesync with lastTimesourceNeighbor := none } }
  | traffic queue => { node with queue := queue }
  | elsewhere mac => { node with mac := mac }

def Valid (node : Node) : DriftStep → Prop
  | correction n _ _ => n ∈ node.queue.neighborList ∧ (node.neighbor n).isTimeSource = true
  | traffic queue =>
    queue.neighborList = node.queue.neighborList ∧
    queue.neighborMemb.num = node.queue.neighborMemb.num ∧
    queue.neighborMemb.count = node.queue.neighborMemb.count ∧
    ∀ n ∈ node.queue.neighborList,
      (queue.neighborMemb.mem n).addr = (node.neighbor n).addr ∧
      (queue.neighborMemb.mem n).isTimeSource = (node.neighbor n).isTimeSource
  | _ => True

end DriftStep

namespace DriftHistory

def samples (history : DriftHistory) : List DriftSample :=
  history.learned.flatten ++ history.window

/-- What `tsch_timesync_update` does with the correction that `sample` stands for. -/
def measure (history : DriftHistory) (n : Nat) (timeDeltaAsn : UInt16) (sample : DriftSample) :
    DriftHistory :=
  let timesync := history.node.timesync
  if conf.adaptiveTimesync then
    if timesync.lastTimesourceNeighbor ≠ some n then
      { history with learned := [], window := [], measured := sample.tenure }
    else if timesync.asnSinceLastLearning + timeDeltaAsn.toUInt32 ≥ 4 * conf.slotsPerSecond then
      { history with
        learned := ((history.window ++ [sample]) :: history.learned).take 8
        window := [], measured := sample.tenure }
    else { history with window := history.window ++ [sample], measured := sample.tenure }
  else history

def step (history : DriftHistory) (step : DriftStep) : DriftHistory :=
  let measured :=
    match step with
    | .correction n timeDeltaAsn _ =>
      history.measure conf n timeDeltaAsn ⟨(history.node.neighbor n).addr, history.tenure⟩
    | _ => history
  let node := step.apply conf history.node
  { measured with
    node := node
    tenure := if timeSourceAddr node = timeSourceAddr history.node then history.tenure
      else history.tenure + 1 }

def start (node : Node) : DriftHistory := ⟨node, 0, [], [], 0⟩

variable (history : DriftHistory)

def Applied : Prop :=
  conf.adaptiveTimesync = true ∧ history.node.timesync.driftPpm ≠ 0 ∧
    history.node.timesync.lastTimesourceNeighbor ≠ none

def Owned : Prop :=
  ∀ sample ∈ history.samples,
    timeSourceAddr history.node = some sample.addr ∧ sample.tenure = history.tenure

def AppliesOwned : DriftStep → Prop
  | .compensate _ => history.Applied conf → history.Owned
  | _ => True

def Unmixed : DriftStep → Prop
  | .correction n _ _ => history.node.timesync.lastTimesourceNeighbor = some n →
      history.samples = [] ∨ history.measured = history.tenure
  | _ => True

def AppliesFresh : DriftStep → Prop
  | .compensate _ => history.Applied conf → history.measured = history.tenure
  | _ => True

end DriftHistory

structure SourceTable (queue : Queue) : Prop where
  inUse : queue.neighborMemb.InUse queue.neighborList
  nodup : queue.neighborList.Nodup
  single : ∀ n ∈ queue.neighborList, ∀ m ∈ queue.neighborList,
    (queue.neighborMemb.mem n).isTimeSource = true →
      (queue.neighborMemb.mem m).isTimeSource = true → n = m

variable {node : Node}

theorem SourceTable.timeSource (table : SourceTable node.queue)
    (free : node.lock.tschLocked = false) {n : Nat} (member : n ∈ node.queue.neighborList)
    (flagged : (node.neighbor n).isTimeSource = true) : tschQueueGetTimeSource node = some n := by
  simp only [tschQueueGetTimeSource, tschIsLocked, free, Bool.not_false, if_true]
  rcases found : node.queue.neighborList.find? (fun n => (node.neighbor n).isTimeSource) with _ | m
  · exact absurd flagged (List.find?_eq_none.mp found n member)
  · have listed := List.mem_of_find?_eq_some found
    have chosen := List.find?_some found
    rw [table.single m listed n member chosen flagged]

theorem SourceTable.of_flags {queue next : Queue} (table : SourceTable queue)
    (inUse : next.neighborMemb.InUse next.neighborList) (nodup : next.neighborList.Nodup)
    (flags : ∀ n ∈ next.neighborList, (next.neighborMemb.mem n).isTimeSource = true →
      n ∈ queue.neighborList ∧ (queue.neighborMemb.mem n).isTimeSource = true) :
    SourceTable next := by
  refine ⟨inUse, nodup, fun n listed m otherListed flagged otherFlagged => ?_⟩
  obtain ⟨old, oldFlagged⟩ := flags n listed flagged
  obtain ⟨otherOld, otherOldFlagged⟩ := flags m otherListed otherFlagged
  exact table.single n old m otherOld oldFlagged otherOldFlagged

theorem tschQueueAddNbr_cases (addr : LinkAddr) (free : node.lock.tschLocked = false) :
    (∃ n ∈ node.queue.neighborList, tschQueueAddNbr conf addr node = (some n, node)) ∨
    ∃ lock : LockFlags, lock.tschLocked = false ∧
      (tschQueueAddNbr conf addr node = (none, { node with lock := lock }) ∨
      ∃ n memb, node.queue.neighborMemb.membAlloc = (some n, memb) ∧
        tschQueueAddNbr conf addr node = (some n, { node with
          lock := lock
          queue := { node.queue with
            neighborMemb := memb.write n fun _ => newNeighbor conf addr
            neighborList := listAdd node.queue.neighborList n } })) := by
  simp only [tschQueueAddNbr, tschGetLock_of_unlocked free]
  rcases lookup : tschQueueGetNbr addr node with _ | n
  · right
    rcases alloc : node.queue.neighborMemb.membAlloc with ⟨_ | n, memb⟩
    · exact ⟨_, rfl, Or.inl rfl⟩
    · exact ⟨_, rfl, Or.inr ⟨n, memb, rfl, rfl⟩⟩
  · left
    simp only [tschQueueGetNbr, tschIsLocked, free, Bool.not_false, if_true] at lookup
    exact ⟨n, List.mem_of_find?_eq_some lookup, rfl⟩

structure FlagsKept (node next : Node) : Prop where
  unlocked : next.lock.tschLocked = false
  table : SourceTable next.queue
  timesync_eq : next.timesync = node.timesync
  flagged : ∀ m ∈ next.queue.neighborList, (next.neighbor m).isTimeSource = true →
    m ∈ node.queue.neighborList ∧ (node.neighbor m).isTimeSource = true

theorem FlagsKept.refl (free : node.lock.tschLocked = false)
    (table : SourceTable node.queue) : FlagsKept node node :=
  ⟨free, table, rfl, fun _ listed flagged => ⟨listed, flagged⟩⟩

theorem FlagsKept.of_queue {node next : Node} (unlocked : next.lock.tschLocked = false)
    (table : SourceTable node.queue)
    (inUse : next.queue.neighborMemb.InUse next.queue.neighborList)
    (nodup : next.queue.neighborList.Nodup) (same : next.timesync = node.timesync)
    (flagged : ∀ m ∈ next.queue.neighborList, (next.neighbor m).isTimeSource = true →
      m ∈ node.queue.neighborList ∧ (node.neighbor m).isTimeSource = true) :
    FlagsKept node next :=
  ⟨unlocked, table.of_flags inUse nodup flagged, same, flagged⟩

theorem tschQueueAddNbr_flags (addr : LinkAddr)
    (free : node.lock.tschLocked = false) (table : SourceTable node.queue) :
    FlagsKept node (tschQueueAddNbr conf addr node).2 ∧ ∀ n ∈ (tschQueueAddNbr conf addr node).1,
      n ∈ (tschQueueAddNbr conf addr node).2.queue.neighborList := by
  rcases tschQueueAddNbr_cases conf addr free with
    ⟨n, listed, found⟩ | ⟨lock, unlocked, absent | ⟨n, memb, alloc, added⟩⟩
  · rw [found]
    refine ⟨FlagsKept.refl free table, ?_⟩
    rintro _ ⟨⟩
    exact listed
  · rw [absent]
    refine ⟨⟨unlocked, table, rfl, fun _ listed flagged => ⟨listed, flagged⟩⟩, ?_⟩
    intro n none
    cases none
  · obtain ⟨fresh, used, kept, -⟩ := Memb.membAlloc_taken table.inUse alloc
    rw [added]
    have list : listAdd node.queue.neighborList n = node.queue.neighborList ++ [n] :=
      listAdd_of_not_mem fresh
    simp only [list]
    refine ⟨FlagsKept.of_queue unlocked table ?_ ?_ rfl ?_, ?_⟩
    · apply (used.write n fun _ => newNeighbor conf addr).congr
      intro m
      simp [or_comm]
    · exact List.nodup_append.mpr ⟨table.nodup, List.nodup_singleton n, by
        intro m listed _ last same
        rw [List.mem_singleton] at last
        exact fresh (last ▸ same ▸ listed)⟩
    · intro m listed flagged
      by_cases same : m = n
      · rw [same] at flagged
        simp [Node.neighbor, newNeighbor] at flagged
      · rw [List.mem_append, List.mem_singleton] at listed
        simp only [Node.neighbor, Memb.write_other _ _ same, kept] at flagged
        exact ⟨listed.resolve_right same, flagged⟩
    · rintro _ ⟨⟩
      simp

theorem tschQueueFreeUnusedNeighbors_flags (free : node.lock.tschLocked = false)
    (table : SourceTable node.queue) : FlagsKept node (tschQueueFreeUnusedNeighbors node) := by
  refine tschQueueFreeUnusedNeighbors_induct (motive := FlagsKept node) ?_ free table.nodup
    (FlagsKept.refl free table)
  intro next n kept member unused unlocked
  rw [tschQueueRemoveNbr_eq unlocked unused]
  refine FlagsKept.of_queue rfl table ?_ ?_ kept.timesync_eq ?_
  · apply (kept.table.inUse.membFree member).congr
    intro m
    simp [listRemove, kept.table.nodup.mem_erase_iff, and_comm]
  · exact kept.table.nodup.erase n
  · intro m inside flagged
    refine kept.flagged m (List.mem_of_mem_erase inside) ?_
    simpa [Node.neighbor] using flagged

def Node.flagSource (n : Nat) (flag : Bool) (node : Node) : Node :=
  node.writeNeighbor n fun nbr => { nbr with isTimeSource := flag }

theorem Node.flagSource_flag (n : Nat) (flag : Bool) (node : Node) (m : Nat) :
    ((node.flagSource n flag).neighbor m).isTimeSource =
      if m = n then flag else (node.neighbor m).isTimeSource := by
  by_cases same : m = n
  · rw [if_pos same, same, Node.flagSource, node.neighbor_writeNeighbor_same]
  · rw [if_neg same, Node.flagSource, node.neighbor_writeNeighbor_other _ same]

theorem SourceTable.flagSource {list : List Nat} (n : Nat) (flag : Bool)
    (inUse : node.queue.neighborMemb.InUse list) (same : node.queue.neighborList = list)
    (nodup : list.Nodup) (chosen : Nat)
    (single : ∀ m ∈ list, ((node.flagSource n flag).neighbor m).isTimeSource = true → m = chosen) :
    SourceTable (node.flagSource n flag).queue := by
  subst same
  refine ⟨inUse.write n fun nbr => { nbr with isTimeSource := flag }, nodup, ?_⟩
  intro first firstListed second secondListed firstFlagged secondFlagged
  rw [single first firstListed firstFlagged, single second secondListed secondFlagged]

theorem tschQueueUpdateTimeSource_table (newAddr : Option LinkAddr)
    (free : node.lock.tschLocked = false) (table : SourceTable node.queue) :
    (tschQueueUpdateTimeSource conf newAddr node).2.lock.tschLocked = false ∧
      SourceTable (tschQueueUpdateTimeSource conf newAddr node).2.queue := by
  simp only [tschQueueUpdateTimeSource, tschIsLocked, free, Bool.not_false, Bool.true_and]
  split
  case isFalse => exact ⟨free, table⟩
  rcases newAddr with _ | addr
  · rcases source : tschQueueGetTimeSource node with _ | old
    · exact ⟨free, table⟩
    · refine ⟨free, SourceTable.flagSource old false table.inUse rfl table.nodup old ?_⟩
      intro m listed flagged
      rw [Node.flagSource_flag] at flagged
      split at flagged
      · contradiction
      · exact Option.some.inj ((table.timeSource free listed flagged).symm.trans source)
  · obtain ⟨kept, listed⟩ := tschQueueAddNbr_flags conf addr free table
    simp only [Option.map_some]
    generalize tschQueueAddNbr conf addr node = result at kept listed ⊢
    obtain ⟨found, next⟩ := result
    rcases found with _ | new
    · exact ⟨kept.unlocked, kept.table⟩
    · have newListed := listed new rfl
      have atMost : ∀ m ∈ next.queue.neighborList, (next.neighbor m).isTimeSource = true →
          tschQueueGetTimeSource node = some m := by
        intro m member flagged
        obtain ⟨old, oldFlagged⟩ := kept.flagged m member flagged
        exact table.timeSource free old oldFlagged
      dsimp only
      split
      · exact ⟨kept.unlocked, kept.table⟩
      case isFalse different =>
        change ((tschQueueGetTimeSource node).elim (next.flagSource new true) fun old =>
          (next.flagSource new true).flagSource old false).lock.tschLocked = false ∧ _
        rcases source : tschQueueGetTimeSource node with _ | old
        · refine ⟨kept.unlocked, SourceTable.flagSource new true kept.table.inUse rfl
            kept.table.nodup new ?_⟩
          intro m member flagged
          rw [Node.flagSource_flag] at flagged
          split at flagged
          case isTrue same => exact same
          case isFalse => exact absurd (atMost m member flagged) (by simp [source])
        · refine ⟨kept.unlocked, SourceTable.flagSource old false
            (kept.table.inUse.write new fun nbr => { nbr with isTimeSource := true }) rfl
            kept.table.nodup new ?_⟩
          intro m member flagged
          rw [Node.flagSource_flag] at flagged
          split at flagged
          · contradiction
          case isFalse other =>
            change ((next.flagSource new true).neighbor m).isTimeSource = true at flagged
            rw [Node.flagSource_flag] at flagged
            split at flagged
            case isTrue same => exact same
            case isFalse =>
              have first := atMost m member flagged
              rw [source] at first
              exact absurd (Option.some.inj first).symm other

structure DriftInv (history : DriftHistory) : Prop where
  unlocked : history.node.lock.tschLocked = false
  table : SourceTable history.node.queue
  bound : history.measured ≤ history.tenure
  tenure_eq : ∀ sample ∈ history.samples, sample.tenure = history.measured
  addr_eq : history.measured = history.tenure → ∀ sample ∈ history.samples,
    timeSourceAddr history.node = some sample.addr
  counted : ∀ entry ∈ history.learned, entry ≠ []
  short : history.learned.length ≤ 8
  entries : history.node.timesync.timesyncEntryCount = history.learned.length
  idle : history.learned = [] → history.node.timesync.driftPpm = 0

variable {history : DriftHistory}

theorem DriftInv.owned_iff (inv : DriftInv history)
    (some : history.samples ≠ []) : history.Owned ↔ history.measured = history.tenure := by
  constructor
  · intro owned
    obtain ⟨sample, member⟩ := List.exists_mem_of_ne_nil _ some
    rw [← inv.tenure_eq sample member, (owned sample member).2]
  · intro same sample member
    exact ⟨inv.addr_eq same sample member, (inv.tenure_eq sample member).trans same⟩

theorem DriftInv.applied (inv : DriftInv history)
    (applied : history.Applied conf) : history.samples ≠ [] := by
  intro empty
  rcases list : history.learned with _ | ⟨entry, rest⟩
  · exact applied.2.1 (inv.idle list)
  · have first := inv.counted entry (by simp [list])
    simp [DriftHistory.samples, list, first] at empty

theorem DriftInv.keep {history next : DriftHistory} (inv : DriftInv history)
    (unlocked : next.node.lock.tschLocked = false) (table : SourceTable next.node.queue)
    (learned : next.learned = history.learned) (window : next.window = history.window)
    (measured : next.measured = history.measured)
    (tenure : next.tenure = if timeSourceAddr next.node = timeSourceAddr history.node
      then history.tenure else history.tenure + 1)
    (count : next.node.timesync.timesyncEntryCount = history.node.timesync.timesyncEntryCount)
    (drift : next.node.timesync.driftPpm = history.node.timesync.driftPpm) : DriftInv next := by
  have samples : next.samples = history.samples := by
    rw [DriftHistory.samples, learned, window]
    rfl
  have bound := inv.bound
  refine ⟨unlocked, table, ?_, ?_, ?_, ?_, ?_, ?_, ?_⟩
  · rw [measured, tenure]
    split <;> omega
  · rw [samples, measured]
    exact inv.tenure_eq
  · rw [samples, measured, tenure]
    split
    case isTrue same =>
      rw [same]
      exact inv.addr_eq
    case isFalse =>
      intro equal
      omega
  · rw [learned]
    exact inv.counted
  · rw [learned]
    exact inv.short
  · rw [learned, count]
    exact inv.entries
  · rw [learned, drift]
    exact inv.idle

theorem samples_learned (history : DriftHistory) (sample : DriftSample) :
    ∀ other ∈ (((history.window ++ [sample]) :: history.learned).take 8).flatten ++ [],
      other ∈ history.samples ∨ other = sample := by
  intro other member
  rw [List.append_nil, List.mem_flatten] at member
  obtain ⟨entry, taken, inside⟩ := member
  simp only [DriftHistory.samples, List.mem_append, List.mem_flatten]
  rcases List.mem_cons.mp (List.mem_of_mem_take taken) with rfl | earlier
  · rw [List.mem_append, List.mem_singleton] at inside
    rcases inside with waiting | new
    · exact Or.inl (Or.inr waiting)
    · exact Or.inr new
  · exact Or.inl (Or.inl ⟨entry, earlier, inside⟩)

theorem tschQueueUpdateTimeSource_timesync (newAddr : Option LinkAddr) (node : Node) :
    (tschQueueUpdateTimeSource conf newAddr node).2.timesync = node.timesync := by
  simp only [tschQueueUpdateTimeSource]
  split
  · rcases newAddr with _ | addr
    · rcases tschQueueGetTimeSource node with _ | old <;> rfl
    · have added := (OnlyQueue.addNbr conf addr node).timesync_eq
      simp only [Option.map_some]
      generalize tschQueueAddNbr conf addr node = result at added ⊢
      obtain ⟨found, next⟩ := result
      rcases found with _ | new
      · exact added
      · dsimp only
        split
        · exact added
        · rcases tschQueueGetTimeSource node with _ | old
          · exact added
          · exact added
  · rfl

theorem DriftInv.correction (inv : DriftInv history) {n : Nat}
    (timeDeltaAsn : UInt16) (driftCorrection : Int32) (listed : n ∈ history.node.queue.neighborList)
    (flagged : (history.node.neighbor n).isTimeSource = true)
    (unmixed : history.Unmixed (.correction n timeDeltaAsn driftCorrection)) :
    DriftInv (history.step conf (.correction n timeDeltaAsn driftCorrection)) := by
  have source : timeSourceAddr history.node = some (history.node.neighbor n).addr := by
    rw [timeSourceAddr, inv.table.timeSource inv.unlocked listed flagged]
    rfl
  have stays : timeSourceAddr ((DriftStep.correction n timeDeltaAsn driftCorrection).apply conf
      history.node) = timeSourceAddr history.node := rfl
  simp only [DriftHistory.step, stays, if_true]
  simp only [DriftStep.apply, DriftHistory.measure, tschTimesyncUpdate]
  by_cases adaptive : conf.adaptiveTimesync = true
  case neg =>
    simp only [adaptive]
    exact inv.keep inv.unlocked inv.table rfl rfl rfl (if_pos rfl).symm rfl rfl
  simp only [adaptive, if_true]
  by_cases other : history.node.timesync.lastTimesourceNeighbor ≠ some n
  · simp only [if_pos other]
    exact ⟨inv.unlocked, inv.table, le_rfl, by simp [DriftHistory.samples],
      by simp [DriftHistory.samples], by simp, by simp, rfl, fun _ => rfl⟩
  · simp only [if_neg other]
    have current := unmixed (not_ne_iff.mp other)
    have old : ∀ sample ∈ history.samples, sample.tenure = history.tenure ∧
        timeSourceAddr history.node = some sample.addr := by
      intro sample member
      rcases current with none | same
      · rw [none] at member
        cases member
      · exact ⟨(inv.tenure_eq sample member).trans same, inv.addr_eq same sample member⟩
    have joined : ∀ (samples : List DriftSample),
        (∀ sample ∈ samples, sample ∈ history.samples ∨
          sample = ⟨(history.node.neighbor n).addr, history.tenure⟩) →
        ∀ sample ∈ samples, sample.tenure = history.tenure ∧
          timeSourceAddr history.node = some sample.addr := by
      intro samples subset sample member
      rcases subset sample member with earlier | rfl
      · exact old sample earlier
      · exact ⟨rfl, source⟩
    split
    · have entered := joined _ (samples_learned history
        ⟨(history.node.neighbor n).addr, history.tenure⟩)
      refine ⟨inv.unlocked, inv.table, le_rfl, fun sample member => (entered sample member).1,
        fun _ sample member => (entered sample member).2, ?_, ?_, ?_, ?_⟩
      · intro entry member
        rcases List.mem_cons.mp (List.mem_of_mem_take member) with rfl | earlier
        · simp
        · exact inv.counted entry earlier
      · exact List.length_take_le _ _
      · have short := inv.short
        have entries := inv.entries
        simp only [timesyncLearnDriftTicks, timesyncEntryAdd, List.length_take, List.length_cons]
        split <;> omega
      · simp
    · have entered := joined (history.learned.flatten ++ (history.window ++
        [⟨(history.node.neighbor n).addr, history.tenure⟩])) (by
          intro sample member
          simp only [List.mem_append, List.mem_singleton] at member
          simp only [DriftHistory.samples, List.mem_append]
          tauto)
      exact ⟨inv.unlocked, inv.table, le_rfl, fun sample member => (entered sample member).1,
        fun _ sample member => (entered sample member).2, inv.counted, inv.short, inv.entries,
        inv.idle⟩

theorem DriftInv.step (inv : DriftInv history) {step : DriftStep}
    (valid : step.Valid history.node) (unmixed : history.Unmixed step) :
    DriftInv (history.step conf step) := by
  cases step with
  | updateTimeSource newAddr =>
    obtain ⟨unlocked, table⟩ :=
      tschQueueUpdateTimeSource_table conf newAddr inv.unlocked inv.table
    have kept := tschQueueUpdateTimeSource_timesync conf newAddr history.node
    exact inv.keep unlocked table rfl rfl rfl rfl (congrArg Timesync.timesyncEntryCount kept)
      (congrArg Timesync.driftPpm kept)
  | addNbr addr =>
    have kept := (tschQueueAddNbr_flags conf addr inv.unlocked inv.table).1
    exact inv.keep kept.unlocked kept.table rfl rfl rfl rfl
      (congrArg Timesync.timesyncEntryCount kept.timesync_eq)
      (congrArg Timesync.driftPpm kept.timesync_eq)
  | freeUnusedNeighbors =>
    have kept := tschQueueFreeUnusedNeighbors_flags inv.unlocked inv.table
    exact inv.keep kept.unlocked kept.table rfl rfl rfl rfl
      (congrArg Timesync.timesyncEntryCount kept.timesync_eq)
      (congrArg Timesync.driftPpm kept.timesync_eq)
  | correction n timeDeltaAsn driftCorrection =>
    exact inv.correction conf timeDeltaAsn driftCorrection valid.1 valid.2 unmixed
  | compensate timeDeltaTicks =>
    obtain ⟨-, -, -, -, count, drift⟩ := compensate_frame conf timeDeltaTicks history.node.timesync
    exact inv.keep inv.unlocked inv.table rfl rfl rfl rfl count drift
  | desynchronize => exact inv.keep inv.unlocked inv.table rfl rfl rfl rfl rfl rfl
  | traffic queue =>
    obtain ⟨list, num, count, fields⟩ := valid
    have table : SourceTable queue := by
      refine inv.table.of_flags ?_ (list ▸ inv.table.nodup) ?_
      · rw [list]
        refine ⟨fun block => ?_, fun block member => ?_⟩
        · rw [count]
          exact inv.table.inUse.count_eq block
        · rw [num]
          exact inv.table.inUse.bounded block member
      · intro m listed flagged
        rw [list] at listed
        exact ⟨listed, (fields m listed).2.symm.trans flagged⟩
    exact inv.keep inv.unlocked table rfl rfl rfl rfl rfl rfl
  | elsewhere mac => exact inv.keep inv.unlocked inv.table rfl rfl rfl rfl rfl rfl

theorem DriftInv.start (conf : TschConf) :
    DriftInv (.start (tschQueueInit conf (Node.boot conf))) := by
  have empty : SourceTable (Node.boot conf).queue := by
    refine ⟨⟨fun _ => rfl, fun _ member => ?_⟩, List.nodup_nil, fun _ member => ?_⟩
    · cases member
    · cases member
  have eb := (tschQueueAddNbr_flags conf tschEbAddress
    (rfl : (Node.boot conf).lock.tschLocked = false) empty).1
  have both := (tschQueueAddNbr_flags conf tschBroadcastAddress eb.unlocked eb.table).1
  have timesync : (tschQueueInit conf (Node.boot conf)).timesync = {} :=
    both.timesync_eq.trans eb.timesync_eq
  refine ⟨both.unlocked, ⟨both.table.inUse, both.table.nodup, both.table.single⟩, le_rfl,
    ?_, ?_, ?_, Nat.zero_le 8, ?_, ?_⟩
  · intro sample member
    cases member
  · intro _ sample member
    cases member
  · intro entry member
    cases member
  · exact congrArg Timesync.timesyncEntryCount timesync
  · exact fun _ => congrArg Timesync.driftPpm timesync

/-- While corrections of different tenures are not mixed, a drift that is applied was learned from
the current time source exactly if the last correction came in its tenure. -/
theorem drift_owned_iff {steps : List DriftStep}
    (valid : Run.Meets (DriftHistory.step conf) (fun history step => step.Valid history.node)
      (.start (tschQueueInit conf (Node.boot conf))) steps)
    (unmixed : Run.Meets (DriftHistory.step conf) DriftHistory.Unmixed
      (.start (tschQueueInit conf (Node.boot conf))) steps) :
    Run.Meets (DriftHistory.step conf) (DriftHistory.AppliesOwned conf)
        (.start (tschQueueInit conf (Node.boot conf))) steps ↔
      Run.Meets (DriftHistory.step conf) (DriftHistory.AppliesFresh conf)
        (.start (tschQueueInit conf (Node.boot conf))) steps := by
  refine Run.meets_iff_meets DriftInv ?_ ?_ steps _ (DriftInv.start conf)
    (Run.meets_and valid unmixed)
  · intro history step inv allowed _
    exact inv.step conf allowed.1 allowed.2
  · intro history step inv _
    cases step with
    | compensate timeDeltaTicks =>
      constructor
      · intro owned applied
        exact (inv.owned_iff (inv.applied conf applied)).mp (owned applied)
      · intro fresh applied
        exact (inv.owned_iff (inv.applied conf applied)).mpr (fresh applied)
    | updateTimeSource newAddr => exact Iff.rfl
    | addNbr addr => exact Iff.rfl
    | freeUnusedNeighbors => exact Iff.rfl
    | correction n timeDeltaAsn driftCorrection => exact Iff.rfl
    | desynchronize => exact Iff.rfl
    | traffic queue => exact Iff.rfl
    | elsewhere mac => exact Iff.rfl

def driftStart : DriftHistory := .start (tschQueueInit cc1200Conf (Node.boot cc1200Conf))

def followed : List DriftStep :=
  [.updateTimeSource (some (Vector.replicate 8 2)), .correction 2 100 0, .correction 2 500 40,
    .compensate 32768]

theorem followed_owned :
    Run.Meets (DriftHistory.step cc1200Conf) (DriftHistory.AppliesOwned cc1200Conf) driftStart
      followed := by
  have valid : Run.Meets (DriftHistory.step cc1200Conf)
      (fun history step => step.Valid history.node) driftStart followed := by
    simp only [followed, Run.Meets, DriftStep.Valid]
    decide +kernel
  have unmixed : Run.Meets (DriftHistory.step cc1200Conf) DriftHistory.Unmixed driftStart
      followed := by
    simp only [followed, Run.Meets, DriftHistory.Unmixed]
    decide +kernel
  refine (drift_owned_iff cc1200Conf valid unmixed).mpr ?_
  simp only [followed, Run.Meets, DriftHistory.AppliesFresh, DriftHistory.Applied]
  decide +kernel

/-- The block of a time source that was given up and freed is taken for the next one, whose first
correction joins what was learned from the other. -/
def reusedBlock : List DriftStep :=
  [.updateTimeSource (some (Vector.replicate 8 2)), .correction 2 100 0, .correction 2 500 40,
    .updateTimeSource none, .freeUnusedNeighbors,
    .updateTimeSource (some (Vector.replicate 8 3)), .correction 2 100 0, .compensate 32768]

theorem drift_of_other_neighbor : ¬ ∀ (conf : TschConf) (steps : List DriftStep),
    Run.Meets (DriftHistory.step conf) (fun history step => step.Valid history.node)
      (.start (tschQueueInit conf (Node.boot conf))) steps →
    Run.Meets (DriftHistory.step conf) (DriftHistory.AppliesOwned conf)
      (.start (tschQueueInit conf (Node.boot conf))) steps := by
  intro owned
  have valid : Run.Meets (DriftHistory.step cc1200Conf)
      (fun history step => step.Valid history.node) driftStart reusedBlock := by
    simp only [reusedBlock, Run.Meets, DriftStep.Valid]
    decide +kernel
  have applies := owned cc1200Conf reusedBlock valid
  simp only [reusedBlock, Run.Meets, DriftHistory.AppliesOwned, DriftHistory.Applied,
    DriftHistory.Owned] at applies
  revert applies
  decide +kernel

end MultiPhyTsch
