import MultiPhyTsch.Mac.Sequence

/-! The history of sequence numbers is the map of the senders that were registered last. -/

namespace MultiPhyTsch.Mac

open Recency

variable {w : Nat}

def entries (seqnos : Nat → Seqno w) (count : Nat) : List (Seqno w) := (List.range count).map seqnos

theorem entries_succ (seqnos : Nat → Seqno w) (count : Nat) :
    entries seqnos (count + 1) = seqnos 0 :: entries (fun i => seqnos (i + 1)) count := by
  simp [entries, List.range_succ_eq_map, Function.comp_def]

variable (sender : LinkAddr)

variable (seqnos : Nat → Seqno w)

theorem locate_succ (fuel : Nat) : ∀ i,
    locate sender seqnos fuel (i + 1) = locate sender (fun i => seqnos (i + 1)) fuel i + 1 := by
  induction fuel with
  | zero => exact fun _ => rfl
  | succ fuel ih =>
    intro i
    unfold locate
    split
    case isTrue => rfl
    case isFalse => exact ih (i + 1)

theorem le_locate (fuel : Nat) : ∀ i, i ≤ locate sender seqnos fuel i := by
  induction fuel with
  | zero => exact fun _ => Nat.le_refl _
  | succ fuel ih =>
    intro i
    unfold locate
    split
    case isTrue => omega
    case isFalse =>
      have later := ih (i + 1)
      omega

theorem locate_pos (fuel : Nat) :
    0 < locate sender seqnos (fuel + 1) 0 := by
  unfold locate
  split
  case isTrue => omega
  case isFalse => exact Nat.lt_of_lt_of_le Nat.zero_lt_one (le_locate sender seqnos fuel 1)

theorem shift_apply (j : Nat) : ∀ (seqnos : Nat → Seqno w) (i : Nat),
    shift j seqnos i = if 0 < i ∧ i ≤ j then seqnos (i - 1) else seqnos i := by
  induction j with
  | zero =>
    intro seqnos i
    have none : ¬ (0 < i ∧ i ≤ 0) := by omega
    rw [shift, if_neg none]
  | succ j ih =>
    intro seqnos i
    rw [shift, ih]
    by_cases last : i = j + 1
    · subst last
      rw [if_neg (by omega), if_pos (by omega), Function.update_self]
      rfl
    · by_cases inside : 0 < i ∧ i ≤ j
      · rw [if_pos inside, if_pos (by omega), Function.update_of_ne (by omega)]
      · rw [if_neg inside, if_neg (by omega), Function.update_of_ne last]

theorem entries_moved : ∀ (count : Nat) (seqnos : Nat → Seqno w),
    (∀ i j, i < count + 1 → j < count + 1 → (seqnos i).sender = sender →
      (seqnos j).sender = sender → i = j) →
    entries (fun i => if i + 1 ≤ locate sender seqnos (count + 1) 0 - 1 then seqnos i
      else seqnos (i + 1)) count =
        ((entries seqnos (count + 1)).filter fun entry => entry.sender ≠ sender).take count := by
  intro count
  induction count with
  | zero => exact fun _ _ => rfl
  | succ count ih =>
    intro seqnos unique
    rw [entries_succ seqnos (count + 1)]
    by_cases first : (seqnos 0).sender = sender
    · have place : locate sender seqnos (count + 1 + 1) 0 = 1 := by
        rw [locate, if_pos first.symm]
      have others : ∀ entry ∈ entries (fun i => seqnos (i + 1)) (count + 1),
          entry.sender ≠ sender := by
        intro entry member same
        obtain ⟨i, bound, rfl⟩ := List.mem_map.mp member
        rw [List.mem_range] at bound
        have equal := unique 0 (i + 1) (by omega) (by omega) first same
        omega
      have kept : (entries (fun i => seqnos (i + 1)) (count + 1)).filter
          (fun entry => entry.sender ≠ sender) = entries (fun i => seqnos (i + 1)) (count + 1) :=
        List.filter_eq_self.mpr fun entry member => by simpa using others entry member
      rw [List.filter_cons_of_neg (by simpa using first), kept,
        List.take_of_length_le (by simp [entries]), place]
      simp [entries]
    · have place : locate sender seqnos (count + 1 + 1) 0 =
          locate sender (fun i => seqnos (i + 1)) (count + 1) 0 + 1 := by
        rw [locate, if_neg fun same => first same.symm, locate_succ]
      have positive := locate_pos sender (fun i => seqnos (i + 1)) count
      have later := ih (fun i => seqnos (i + 1)) (by
        intro i j boundI boundJ sameI sameJ
        have equal := unique (i + 1) (j + 1) (by omega) (by omega) sameI sameJ
        omega)
      rw [List.filter_cons_of_pos (by simpa using first), List.take_succ_cons, ← later,
        entries_succ, place]
      congr 1
      · rw [if_pos (by omega)]
      · congr 1
        funext i
        by_cases before : i + 1 ≤ locate sender (fun i => seqnos (i + 1)) (count + 1) 0 - 1
        · rw [if_pos before, if_pos (by omega)]
        · rw [if_neg before, if_neg (by omega)]

variable (conf : SeqnoConf)

variable (packetbuf : Packetbuf)

variable (node : Receiver w)

theorem entries_register (unique : ∀ i j, i < conf.maxSeqnos → j < conf.maxSeqnos →
      (node.receivedSeqnos i).sender = packetbuf.sender →
      (node.receivedSeqnos j).sender = packetbuf.sender → i = j) :
    entries (macSequenceRegisterSeqno conf packetbuf node).receivedSeqnos conf.maxSeqnos =
      (touch Seqno.sender ⟨packetbuf.sender, clockTime node, packetbuf.macSeqno.toUInt8⟩
        (entries node.receivedSeqnos conf.maxSeqnos)).take conf.maxSeqnos := by
  obtain ⟨count, size⟩ := Nat.exists_eq_succ_of_ne_zero conf.maxSeqnos_pos.ne'
  unfold macSequenceRegisterSeqno touch
  rw [size] at unique ⊢
  dsimp only
  rw [entries_succ, Function.update_self, List.take_succ_cons,
    ← entries_moved packetbuf.sender count node.receivedSeqnos unique]
  congr 2
  funext i
  rw [Function.update_of_ne (Nat.succ_ne_zero i), shift_apply]
  by_cases before : i + 1 ≤ locate packetbuf.sender node.receivedSeqnos (count + 1) 0 - 1
  · rw [if_pos ⟨Nat.succ_pos i, before⟩, if_pos before]
    rfl
  · rw [if_neg (fun both => before both.2), if_neg before]

def Repeats (entry : Seqno w) : Prop :=
  packetbuf.macSeqno = entry.seqno.toUInt16 ∧
    (0 < conf.maxAge → (clockTime node - entry.timestamp).toNat ≤ conf.maxAge)

theorem findDuplicate_iff (fuel : Nat) : ∀ i, findDuplicate conf packetbuf node fuel i = true ↔
      ∃ entry, (entries (fun j => node.receivedSeqnos (i + j)) fuel).find?
        (fun entry => entry.sender = packetbuf.sender) = some entry ∧
          Repeats conf packetbuf node entry := by
  induction fuel with
  | zero =>
    intro i
    simp [findDuplicate, entries]
  | succ fuel ih =>
    intro i
    rw [findDuplicate, entries_succ]
    by_cases first : packetbuf.sender = (node.receivedSeqnos i).sender
    · rw [if_pos first, List.find?_cons_of_pos (by simpa using first.symm),
        decide_eq_true_eq]
      constructor
      · exact fun repeats => ⟨node.receivedSeqnos i, rfl, repeats⟩
      · rintro ⟨entry, found, repeats⟩
        cases found
        exact repeats
    · have moved : (fun j => node.receivedSeqnos (i + (j + 1))) =
          fun j => node.receivedSeqnos (i + 1 + j) := by
        funext j
        congr 1
        omega
      rw [if_neg first, List.find?_cons_of_neg (by simpa using fun same => first same.symm), moved]
      exact ih (i + 1)

theorem isDuplicate_iff :
    macSequenceIsDuplicate conf packetbuf node = true ↔
      ∃ entry, (entries node.receivedSeqnos conf.maxSeqnos).find?
        (fun entry => entry.sender = packetbuf.sender) = some entry ∧
          Repeats conf packetbuf node entry := by
  unfold macSequenceIsDuplicate
  rw [findDuplicate_iff]
  simp only [Nat.zero_add]

structure Registration where
  sender : LinkAddr
  seqno : UInt8
  time : Nat
deriving DecidableEq, Repr

def Registration.entry (w : Nat) (registration : Registration) : Seqno w :=
  ⟨registration.sender, BitVec.ofNat w registration.time, registration.seqno⟩

def recentSenders (log : List Registration) : List LinkAddr :=
  (recent Registration.sender log).map Registration.sender

def lastRegistered (log : List Registration) (sender : LinkAddr) : Option Registration :=
  log.find? fun registration => registration.sender = sender

structure History (w : Nat) where
  node : Receiver w
  log : List Registration

inductive Action where
  | tick (ticks : Nat)
  | receive (sender : LinkAddr) (seq : Option UInt8)
deriving DecidableEq, Repr

def History.step (conf : SeqnoConf) (h : History w) : Action → History w
  | .tick ticks => { h with node := { h.node with ticks := h.node.ticks + ticks } }
  | .receive sender seq =>
    let (duplicate, node) := packetInput conf ⟨sender, macSeqno seq⟩ h.node
    match seq, duplicate with
    | some seq, false => { node, log := ⟨sender, seq, h.node.ticks⟩ :: h.log }
    | _, _ => { h with node }

def booted (w : Nat) : History w := ⟨boot w, []⟩

def FromSender : Action → Prop
  | .tick _ => True
  | .receive sender _ => sender ≠ linkaddrNull

instance : DecidablePred FromSender := by
  intro action
  cases action <;> unfold FromSender <;> infer_instance

def blank (w : Nat) : Seqno w := ⟨linkaddrNull, 0, 0⟩

/-- The history holds the last registration of each of the last senders, in their order, and a frame
is a duplicate if the one of its sender has its sequence number and is recent enough. -/
structure Filters (conf : SeqnoConf) (recently : Nat → Prop) (h : History w) : Prop where
  history : entries h.node.receivedSeqnos conf.maxSeqnos =
    ((recent Registration.sender h.log).take conf.maxSeqnos).map (Registration.entry w) ++
      List.replicate (conf.maxSeqnos - (recent Registration.sender h.log).length) (blank w)
  once : (((entries h.node.receivedSeqnos conf.maxSeqnos).map Seqno.sender).filter
    fun sender => sender ≠ linkaddrNull).Nodup
  duplicate : ∀ (sender : LinkAddr) (seq : UInt8), sender ≠ linkaddrNull →
    (macSequenceIsDuplicate conf ⟨sender, macSeqno (some seq)⟩ h.node = true ↔
      sender ∈ (recentSenders h.log).take conf.maxSeqnos ∧
        ∃ registration, lastRegistered h.log sender = some registration ∧
          registration.seqno = seq ∧
          (0 < conf.maxAge → recently (h.node.ticks - registration.time)))

structure Kept (conf : SeqnoConf) (h : History w) : Prop where
  history : entries h.node.receivedSeqnos conf.maxSeqnos =
    ((recent Registration.sender h.log).take conf.maxSeqnos).map (Registration.entry w) ++
      List.replicate (conf.maxSeqnos - (recent Registration.sender h.log).length) (blank w)
  known : ∀ registration ∈ h.log, registration.sender ≠ linkaddrNull
  past : ∀ registration ∈ h.log, registration.time ≤ h.node.ticks

theorem kept_booted (conf : SeqnoConf) : Kept conf (booted w) where
  history := by
    simp [booted, boot, entries, blank, recent, List.map_const']
  known := by
    intro registration member
    cases member
  past := by
    intro registration member
    cases member

section Lookup

variable {conf : SeqnoConf} {h : History w}

theorem senders_recent_nodup (log : List Registration) (count : Nat) :
    (((recent Registration.sender log).take count).map Registration.sender).Nodup :=
  (List.Sublist.map _ (List.take_sublist _ _)).nodup (keys_recent_nodup Registration.sender log)

section

variable (kept : Kept conf h)
include kept

theorem Kept.find_entry {sender : LinkAddr} (known : sender ≠ linkaddrNull) (entry : Seqno w) :
    (entries h.node.receivedSeqnos conf.maxSeqnos).find? (fun entry => entry.sender = sender) =
      some entry ↔
    sender ∈ (recentSenders h.log).take conf.maxSeqnos ∧
      ∃ registration, lastRegistered h.log sender = some registration ∧
        entry = registration.entry w := by
  have blanks : (List.replicate (conf.maxSeqnos - (recent Registration.sender h.log).length)
      (blank w)).find? (fun entry => entry.sender = sender) = none := by
    rw [List.find?_eq_none]
    intro other member
    rw [List.eq_of_mem_replicate member]
    simp [blank, known.symm]
  have find : ∀ registration : Registration,
      ((recent Registration.sender h.log).take conf.maxSeqnos).find?
        (fun registration => registration.sender = sender) = some registration ↔
      sender ∈ (recentSenders h.log).take conf.maxSeqnos ∧
        lastRegistered h.log sender = some registration := by
    intro registration
    have nodup := senders_recent_nodup h.log conf.maxSeqnos
    unfold recentSenders lastRegistered
    rw [find_key_iff Registration.sender nodup, find_log_iff, ← List.map_take]
    constructor
    · rintro ⟨member, same⟩
      exact ⟨List.mem_map.mpr ⟨registration, member, same⟩, List.mem_of_mem_take member, same⟩
    · rintro ⟨listed, last, same⟩
      obtain ⟨other, member, also⟩ := List.mem_map.mp listed
      have equal := List.inj_on_of_nodup_map (keys_recent_nodup Registration.sender h.log)
        (List.mem_of_mem_take member) last (also.trans same.symm)
      exact ⟨equal ▸ member, same⟩
  rw [kept.history, List.find?_append, blanks, Option.or_none, List.find?_map,
    Option.map_eq_some_iff]
  constructor
  · rintro ⟨registration, found, rfl⟩
    obtain ⟨listed, last⟩ := (find registration).mp found
    exact ⟨listed, registration, last, rfl⟩
  · rintro ⟨listed, registration, last, rfl⟩
    exact ⟨registration, (find registration).mpr ⟨listed, last⟩, rfl⟩

theorem Kept.senders_once :
    (((entries h.node.receivedSeqnos conf.maxSeqnos).map Seqno.sender).filter
      fun sender => sender ≠ linkaddrNull).Nodup := by
  have blanks : (List.replicate (conf.maxSeqnos - (recent Registration.sender h.log).length)
      linkaddrNull).filter (fun sender => sender ≠ linkaddrNull) = [] := by
    rw [List.filter_eq_nil_iff]
    intro sender member
    simp [List.eq_of_mem_replicate member]
  have senders : (((recent Registration.sender h.log).take conf.maxSeqnos).map
      (Registration.entry w)).map Seqno.sender =
        ((recent Registration.sender h.log).take conf.maxSeqnos).map Registration.sender := by
    rw [List.map_map]
    rfl
  rw [kept.history, List.map_append, List.map_replicate, List.filter_append, senders]
  change (_ ++ (List.replicate _ linkaddrNull).filter _).Nodup
  rw [blanks, List.append_nil]
  exact (senders_recent_nodup h.log conf.maxSeqnos).filter _

theorem Kept.unique {sender : LinkAddr} (known : sender ≠ linkaddrNull)
    {i j : Nat} (boundI : i < conf.maxSeqnos) (boundJ : j < conf.maxSeqnos)
    (sameI : (h.node.receivedSeqnos i).sender = sender)
    (sameJ : (h.node.receivedSeqnos j).sender = sender) : i = j := by
  have once := kept.senders_once
  unfold entries at once
  rw [List.map_map, List.Nodup, List.pairwise_filter, List.pairwise_map,
    List.pairwise_iff_getElem] at once
  have apart : ∀ i j, i < conf.maxSeqnos → j < conf.maxSeqnos → i < j →
      (h.node.receivedSeqnos i).sender = sender → (h.node.receivedSeqnos j).sender = sender →
        False := by
    intro i j boundI boundJ before sameI sameJ
    have different := once i j (by simpa using boundI) (by simpa using boundJ) before
    simp only [List.getElem_range, Function.comp_apply, sameI, sameJ, decide_eq_true_eq, ne_eq,
      not_true_eq_false] at different
    exact different known known
  rcases Nat.lt_trichotomy i j with before | same | after
  · exact (apart i j boundI boundJ before sameI sameJ).elim
  · exact same
  · exact (apart j i boundJ boundI after sameJ sameI).elim

theorem age_eq {registration : Registration} (member : registration ∈ h.log) :
    (clockTime h.node - (registration.entry w).timestamp).toNat =
      (h.node.ticks - registration.time) % 2 ^ w := by
  have split : h.node.ticks = h.node.ticks - registration.time + registration.time := by
    have past := kept.past registration member
    omega
  have elapsed : clockTime h.node - (registration.entry w).timestamp =
      BitVec.ofNat w (h.node.ticks - registration.time) := by
    unfold clockTime Registration.entry
    rw [split, BitVec.ofNat_add, Nat.add_sub_cancel, BitVec.add_sub_cancel]
  rw [elapsed, BitVec.toNat_ofNat]

theorem Kept.duplicate {sender : LinkAddr} (known : sender ≠ linkaddrNull) (seq : UInt8) :
    macSequenceIsDuplicate conf ⟨sender, macSeqno (some seq)⟩ h.node = true ↔
      sender ∈ (recentSenders h.log).take conf.maxSeqnos ∧
        ∃ registration, lastRegistered h.log sender = some registration ∧
          registration.seqno = seq ∧
          (0 < conf.maxAge → (h.node.ticks - registration.time) % 2 ^ w ≤ conf.maxAge) := by
  have repeats : ∀ registration ∈ h.log,
      (Repeats conf ⟨sender, macSeqno (some seq)⟩ h.node (registration.entry w) ↔
        registration.seqno = seq ∧
          (0 < conf.maxAge → (h.node.ticks - registration.time) % 2 ^ w ≤ conf.maxAge)) := by
    intro registration member
    unfold Repeats
    rw [age_eq kept member]
    have octet : macSeqno (some seq) = (registration.entry w).seqno.toUInt16 ↔
        registration.seqno = seq := by
      constructor
      · intro same
        exact (UInt8.toUInt16_inj.mp same).symm
      · intro same
        rw [← same]
        rfl
    rw [octet]
  rw [isDuplicate_iff]
  constructor
  · rintro ⟨entry, found, same⟩
    obtain ⟨listed, registration, last, rfl⟩ := (kept.find_entry known entry).mp found
    exact ⟨listed, registration, last, (repeats registration (List.mem_of_find?_eq_some last)).mp same⟩
  · rintro ⟨listed, registration, last, same⟩
    refine ⟨registration.entry w,
      (kept.find_entry known _).mpr ⟨listed, registration, last, rfl⟩, ?_⟩
    exact (repeats registration (List.mem_of_find?_eq_some last)).mpr same

theorem Kept.register {sender : LinkAddr} (known : sender ≠ linkaddrNull) (seq : UInt8) :
    Kept conf
      { node := macSequenceRegisterSeqno conf ⟨sender, macSeqno (some seq)⟩ h.node
        log := ⟨sender, seq, h.node.ticks⟩ :: h.log } := by
  have nodup := keys_recent_nodup Registration.sender h.log
  have octet : (macSeqno (some seq)).toUInt8 = seq := UInt8.toUInt8_toUInt16 seq
  have blanks : (List.replicate (conf.maxSeqnos - (recent Registration.sender h.log).length)
      (blank w)).filter (fun other => other.sender ≠ sender) =
        List.replicate (conf.maxSeqnos - (recent Registration.sender h.log).length) (blank w) := by
    rw [List.filter_eq_self]
    intro other member
    rw [List.eq_of_mem_replicate member]
    simp [blank, known.symm]
  have touched : touch Seqno.sender ⟨sender, clockTime h.node, seq⟩
      (entries h.node.receivedSeqnos conf.maxSeqnos) =
        (touch Registration.sender ⟨sender, seq, h.node.ticks⟩
          ((recent Registration.sender h.log).take conf.maxSeqnos)).map (Registration.entry w) ++
        List.replicate (conf.maxSeqnos - (recent Registration.sender h.log).length) (blank w) := by
    unfold touch
    rw [kept.history, List.filter_append, blanks, List.filter_map, List.map_cons, List.cons_append]
    rfl
  obtain ⟨count, size⟩ := Nat.exists_eq_succ_of_ne_zero conf.maxSeqnos_pos.ne'
  constructor
  · dsimp only
    rw [entries_register conf _ h.node fun i j boundI boundJ => kept.unique known boundI boundJ, octet,
      touched, List.take_append, List.take_replicate, List.length_map, length_take_touch _ nodup,
      ← List.map_take]
    congr 2
    rw [size]
    exact (take_touch Registration.sender nodup count).symm
  · intro registration member
    rcases List.mem_cons.mp member with rfl | earlier
    · exact known
    · exact kept.known registration earlier
  · intro registration member
    rcases List.mem_cons.mp member with rfl | earlier
    · exact Nat.le_refl _
    · exact kept.past registration earlier

end

theorem packetInput_some (conf : SeqnoConf) (sender : LinkAddr) (seq : UInt8) (node : Receiver w) :
    packetInput conf ⟨sender, macSeqno (some seq)⟩ node =
      if macSequenceIsDuplicate conf ⟨sender, macSeqno (some seq)⟩ node then (true, node)
      else (false, macSequenceRegisterSeqno conf ⟨sender, macSeqno (some seq)⟩ node) := by
  have shown : macSeqno (some seq) ≠ 0xffff := by
    intro same
    have value : seq.toNat = 65535 := congrArg UInt16.toNat same
    have bound := seq.toNat_lt
    omega
  unfold packetInput
  rw [if_pos shown]

theorem Kept.step (kept : Kept conf h) {action : Action} (sent : FromSender action) :
    Kept conf (h.step conf action) := by
  cases action with
  | tick ticks =>
    exact ⟨kept.history, kept.known,
      fun registration member => Nat.le_trans (kept.past registration member) (Nat.le_add_right _ _)⟩
  | receive sender seq =>
    unfold History.step
    cases seq with
    | none => exact kept
    | some seq =>
      simp only [packetInput_some]
      cases macSequenceIsDuplicate conf ⟨sender, macSeqno (some seq)⟩ h.node with
      | true => exact kept
      | false => exact kept.register sent seq

theorem Kept.filters (kept : Kept conf h) :
    Filters conf (fun elapsed => elapsed % 2 ^ w ≤ conf.maxAge) h :=
  ⟨kept.history, kept.senders_once, fun _ seq known => kept.duplicate known seq⟩

end Lookup

theorem run_filters (conf : SeqnoConf) {actions : List Action}
    (sent : Run.Meets (History.step conf) (fun _ action => FromSender action) (booted w) actions) :
    Run.Always (History.step conf)
      (Filters conf fun elapsed => elapsed % 2 ^ w ≤ conf.maxAge) (booted w) actions :=
  Run.always_of_meets (Kept conf) (fun _ kept => kept.filters)
    (fun _ _ kept sent => kept.step sent) actions (booted w) (kept_booted conf) sent

def address (octet : UInt8) : LinkAddr := Vector.replicate 8 octet

theorem run_filters_three :
    Run.Meets (History.step (w := 32) ⟨2, 2560, by decide⟩) (fun _ action => FromSender action)
      (booted 32)
      [.receive (address 1) (some 7), .receive (address 2) (some 7), .tick 9,
        .receive (address 1) none, .receive (address 3) (some 7)] ∧
    Run.Always (History.step ⟨2, 2560, by decide⟩)
      (Filters ⟨2, 2560, by decide⟩ fun elapsed => elapsed % 2 ^ 32 ≤ 2560) (booted 32)
      [.receive (address 1) (some 7), .receive (address 2) (some 7), .tick 9,
        .receive (address 1) none, .receive (address 3) (some 7)] :=
  ⟨by decide, run_filters ⟨2, 2560, by decide⟩ (by decide)⟩

theorem registered_one_round_ago :
    ¬ ∀ (conf : SeqnoConf) (actions : List Action),
      Run.Meets (History.step conf) (fun _ action => FromSender action) (booted 32) actions →
        Run.Always (History.step conf) (Filters conf fun elapsed => elapsed ≤ conf.maxAge)
          (booted 32) actions := by
  intro all
  have always := all ⟨16, 2560, by decide⟩ [.receive (address 1) (some 7), .tick (2 ^ 32)] (by decide)
  have duplicate := (Run.always_final always).duplicate (address 1) 7 (by decide)
  obtain ⟨_, registration, last, _, recently⟩ := duplicate.mp (by decide)
  have first : some registration = some ⟨address 1, 7, 0⟩ := last.symm.trans (by decide)
  cases first
  have age := recently (by decide)
  revert age
  decide

/-- `tsch_packet_seqno` for the next unicast packet of `send_packet`: never zero. -/
def nextPacketSeqno (seqno : UInt8) : UInt8 := if seqno + 1 = 0 then seqno + 1 + 1 else seqno + 1

/-- The sequence number of each packet, from what `tsch_init` has drawn. -/
def packetSeqno (drawn : UInt8) : Nat → UInt8
  | 0 => nextPacketSeqno drawn
  | number + 1 => nextPacketSeqno (packetSeqno drawn number)

theorem packetSeqno_toNat (drawn : UInt8) (number : Nat) :
    (packetSeqno drawn number).toNat = (drawn.toNat + number) % 255 + 1 := by
  have next : ∀ seqno : UInt8, (nextPacketSeqno seqno).toNat = seqno.toNat % 255 + 1 := by
    intro seqno
    have bound := seqno.toNat_lt
    unfold nextPacketSeqno
    simp only [← UInt8.toNat_inj]
    split <;> simp at * <;> omega
  induction number with
  | zero => exact next drawn
  | succ number ih =>
    rw [packetSeqno, next, ih]
    omega

/-- A receiver, and the packet of one sender that it has heard last. -/
structure Listener (w : Nat) where
  history : History w
  last : Option Nat

inductive Heard where
  | action (action : Action)
  | packet (number : Nat)

section Repetition

variable (conf : SeqnoConf) (sender : LinkAddr) (drawn : UInt8)

def frameOf (number : Nat) : Action := .receive sender (some (packetSeqno drawn number))

def Listener.step (listener : Listener w) : Heard → Listener w
  | .action action => { listener with history := listener.history.step conf action }
  | .packet number => ⟨listener.history.step conf (frameOf sender drawn number), some number⟩

/-- A packet is sent at or soon after the one heard last, and is repeated while that one is in the
history and not too old. The broadcasts of the sender have no sequence number. -/
def Allowed (listener : Listener w) : Heard → Prop
  | .action (.tick _) => True
  | .action (.receive other seq) => other ≠ linkaddrNull ∧ (other = sender → seq = none)
  | .packet number => (∀ last ∈ listener.last, last ≤ number ∧ number < last + 255) ∧
    (listener.last = some number →
      ∀ registration ∈ lastRegistered listener.history.log sender,
        sender ∈ (recentSenders listener.history.log).take conf.maxSeqnos ∧
          (0 < conf.maxAge →
            (listener.history.node.ticks - registration.time) % 2 ^ w ≤ conf.maxAge))

structure Follows (listener : Listener w) : Prop where
  kept : Kept conf listener.history
  last : (lastRegistered listener.history.log sender).map Registration.seqno =
    listener.last.map (packetSeqno drawn)

variable {conf sender drawn} {listener : Listener w}

theorem Follows.duplicate (follows : Follows conf sender drawn listener)
    (known : sender ≠ linkaddrNull) {number : Nat}
    (allowed : Allowed conf sender listener (.packet number)) :
    macSequenceIsDuplicate conf ⟨sender, macSeqno (some (packetSeqno drawn number))⟩
      listener.history.node = true ↔ listener.last = some number := by
  have last := follows.last
  rw [follows.kept.duplicate known]
  constructor
  · rintro ⟨-, registration, found, same, -⟩
    rw [found] at last
    obtain ⟨earlier, heard, equal⟩ := Option.map_eq_some_iff.mp last.symm
    have values := congrArg UInt8.toNat (equal.trans same)
    rw [packetSeqno_toNat, packetSeqno_toNat] at values
    have near := allowed.1 earlier heard
    rw [heard]
    congr 1
    omega
  · intro again
    rw [again] at last
    obtain ⟨registration, found, same⟩ := Option.map_eq_some_iff.mp last
    obtain ⟨listed, recently⟩ := allowed.2 again registration found
    exact ⟨listed, registration, found, same, recently⟩

theorem Follows.step (follows : Follows conf sender drawn listener) (known : sender ≠ linkaddrNull)
    {heard : Heard} (allowed : Allowed conf sender listener heard) :
    Follows conf sender drawn (listener.step conf sender drawn heard) := by
  cases heard with
  | packet number =>
    refine ⟨@Kept.step _ _ _ follows.kept (frameOf sender drawn number) known, ?_⟩
    have judged := follows.duplicate known allowed
    simp only [Listener.step, frameOf, History.step, packetInput_some]
    by_cases again : listener.last = some number
    · rw [if_pos (judged.mpr again), ← again]
      exact follows.last
    · rw [if_neg (mt judged.mp again)]
      simp [lastRegistered]
  | action action =>
    cases action with
    | tick ticks => exact ⟨@Kept.step _ _ _ follows.kept (.tick ticks) trivial, follows.last⟩
    | receive other seq =>
      refine ⟨@Kept.step _ _ _ follows.kept (.receive other seq) allowed.1,
        Eq.trans ?_ follows.last⟩
      unfold Listener.step History.step
      dsimp only
      split
      next =>
        refine congrArg _ (List.find?_cons_of_neg ?_)
        simpa using fun same => Option.some_ne_none _ (allowed.2 same)
      next => rfl

end Repetition

/-- A packet is dropped exactly if it is the one heard last, so each is passed on once. -/
theorem packets_passed_once (conf : SeqnoConf) {sender : LinkAddr} (known : sender ≠ linkaddrNull)
    (drawn : UInt8) {heard : List Heard} {number : Nat}
    (allowed : Run.Meets (Listener.step conf sender drawn) (Allowed conf sender)
      ⟨booted w, none⟩ (heard ++ [.packet number])) :
    let listener := Run.final (Listener.step conf sender drawn) ⟨booted w, none⟩ heard
    (packetInput conf ⟨sender, macSeqno (some (packetSeqno drawn number))⟩
      listener.history.node).1 = true ↔ listener.last = some number := by
  intro listener
  obtain ⟨before, last, -⟩ := (Run.meets_append heard _).mp allowed
  have follows := Run.invariant_of_meets (Follows conf sender drawn)
    (fun _ _ follows allowed => follows.step known allowed) heard _ ⟨kept_booted conf, rfl⟩ before
  refine Iff.trans ?_ (follows.duplicate known last)
  rw [packetInput_some]
  split
  next again => exact iff_of_true rfl again
  next fresh => exact iff_of_false Bool.false_ne_true fresh

/-- The number of the packet that is repeated is the last one before the counter wraps around. -/
theorem packets_passed_once_wrapped :
    let listener : Listener 32 := Run.final (Listener.step ⟨2, 2560, by decide⟩ (address 1) 254)
      ⟨booted 32, none⟩ [.packet 0, .action (.receive (address 1) none), .action (.tick 9)]
    (packetInput ⟨2, 2560, by decide⟩ ⟨address 1, macSeqno (some (packetSeqno 254 0))⟩
      listener.history.node).1 = true ↔ listener.last = some 0 := by
  refine packets_passed_once ⟨2, 2560, by decide⟩ (by decide) 254 ?_
  simp only [List.cons_append, List.nil_append, Run.Meets, Allowed]
  decide

end MultiPhyTsch.Mac
