import MultiPhyTsch.Tsch.ScheduleCalls

/-! The search of `tsch_schedule_get_next_active_link`. The nested loops are one pass over
the installed links in list order; `Tied` says what the pass has found among the links
that share the least distance seen so far. -/

namespace MultiPhyTsch

structure OccursIn (asn : TschAsn) (size timeslot distance : Nat) : Prop where
  positive : 1 ≤ distance
  within : distance ≤ size
  position : (asn.toNat + distance) % size = timeslot

theorem OccursIn.unique {asn : TschAsn} {size timeslot first second : Nat}
    (one : OccursIn asn size timeslot first) (two : OccursIn asn size timeslot second) :
    first = second := by
  have congruent : asn.toNat + first ≡ asn.toNat + second [MOD size] :=
    one.position.trans two.position.symm
  have remainders : (first - 1) % size = (second - 1) % size := by
    have shifted : asn.toNat + 1 + (first - 1) ≡ asn.toNat + 1 + (second - 1) [MOD size] := by
      have onePos := one.positive
      have twoPos := two.positive
      rwa [show asn.toNat + 1 + (first - 1) = asn.toNat + first by omega,
        show asn.toNat + 1 + (second - 1) = asn.toNat + second by omega]
    exact Nat.ModEq.add_left_cancel' _ shifted
  have onePos := one.positive
  have twoPos := two.positive
  have oneLe := one.within
  have twoLe := two.within
  rw [Nat.mod_eq_of_lt (by omega), Nat.mod_eq_of_lt (by omega)] at remainders
  omega

theorem OccursIn.first {asn : TschAsn} {size timeslot distance earlier : Nat}
    (occurs : OccursIn asn size timeslot distance) (positive : 1 ≤ earlier)
    (before : earlier < distance) : (asn.toNat + earlier) % size ≠ timeslot := by
  intro position
  have within := occurs.within
  have same := occurs.unique ⟨positive, by omega, position⟩
  omega

theorem timeToTimeslot_occurs (asn : TschAsn) {size timeslot : UInt16} (nonzero : size ≠ 0)
    (inFrame : timeslot < size) :
    OccursIn asn size.toNat timeslot.toNat
      (timeToTimeslot size (tschAsnMod asn (tschAsnDivisorInit size)) timeslot).toNat := by
  have sizePos : 0 < size.toNat := by
    rcases Nat.eq_zero_or_pos size.toNat with zero | positive
    · exact (nonzero (UInt16.toNat_inj.mp zero)).elim
    · exact positive
  have current := tschAsnMod_toNat asn sizePos
  have currentLt := Nat.mod_lt asn.toNat sizePos
  have slotLt := UInt16.lt_iff_toNat_lt.mp inFrame
  have bound := size.toNat_lt
  generalize tschAsnMod asn (tschAsnDivisorInit size) = now at current ⊢
  rw [← current] at currentLt
  have distance : (timeToTimeslot size now timeslot).toNat =
      if now.toNat < timeslot.toNat then timeslot.toNat - now.toNat
      else size.toNat + timeslot.toNat - now.toNat := by
    simp only [timeToTimeslot, gt_iff_lt, UInt16.lt_iff_toNat_lt]
    split
    · rw [UInt16.toNat_sub]
      omega
    · rw [UInt16.toNat_sub, UInt16.toNat_add]
      omega
  rw [distance]
  have position : ∀ distance, (asn.toNat + distance) % size.toNat =
      (now.toNat + distance) % size.toNat := by
    intro distance
    rw [current, Nat.mod_add_mod]
  split
  · refine ⟨by omega, by omega, ?_⟩
    rw [position, Nat.add_sub_cancel' (by omega), Nat.mod_eq_of_lt slotLt]
  · refine ⟨by omega, by omega, ?_⟩
    rw [position, show now.toNat + (size.toNat + timeslot.toNat - now.toNat) =
      timeslot.toNat + size.toNat by omega, Nat.add_mod_right, Nat.mod_eq_of_lt slotLt]

def Beats (first second : TschLink) : Prop :=
  (first.has linkOptionTx = true ∧ second.has linkOptionTx = false) ∨
    (first.has linkOptionTx = second.has linkOptionTx ∧
      first.slotframeHandle < second.slotframeHandle)

instance (first second : TschLink) : Decidable (Beats first second) :=
  inferInstanceAs (Decidable (_ ∨ _))

theorem Beats.asymm {first second : TschLink} (one : Beats first second)
    (two : Beats second first) : False := by
  rcases one with ⟨tx, other⟩ | ⟨same, lower⟩
  · rcases two with ⟨_, none⟩ | ⟨same, _⟩
    · simp [tx] at none
    · simp [tx, other] at same
  · rcases two with ⟨tx, other⟩ | ⟨_, higher⟩
    · simp [tx, other] at same
    · exact UInt16.lt_asymm lower higher

theorem Beats.trans {first second third : TschLink} (one : Beats first second)
    (two : Beats second third) : Beats first third := by
  rcases one with ⟨tx, other⟩ | ⟨same, lower⟩
  · rcases two with ⟨again, _⟩ | ⟨equal, _⟩
    · simp [other] at again
    · exact .inl ⟨tx, equal ▸ other⟩
  · rcases two with ⟨tx, other⟩ | ⟨equal, higher⟩
    · exact .inl ⟨same.trans tx, other⟩
    · exact .inr ⟨same.trans equal, UInt16.lt_trans lower higher⟩

theorem Beats.total {first second : TschLink}
    (different : first.slotframeHandle ≠ second.slotframeHandle) :
    Beats first second ∨ Beats second first := by
  unfold Beats
  rcases UInt16.lt_or_lt_of_ne different with lower | higher
  · cases first.has linkOptionTx <;> cases second.has linkOptionTx <;> simp [lower]
  · cases first.has linkOptionTx <;> cases second.has linkOptionTx <;> simp [higher]

theorem txBit_eq_iff (first second : TschLink) :
    first.linkOptions &&& linkOptionTx = second.linkOptions &&& linkOptionTx ↔
      first.has linkOptionTx = second.has linkOptionTx := by
  have bit : ∀ options : UInt8, options &&& linkOptionTx = 0 ∨ options &&& linkOptionTx = 1 := by
    intro options
    have low := Nat.and_one_is_mod options.toNat
    have value : (options &&& linkOptionTx).toNat = options.toNat % 2 := by
      rw [UInt8.toNat_and]
      exact low
    rcases Nat.mod_two_eq_zero_or_one options.toNat with even | odd
    · exact .inl (UInt8.toNat_inj.mp (value.trans even))
    · exact .inr (UInt8.toNat_inj.mp (value.trans odd))
  unfold TschLink.has
  rcases bit first.linkOptions with one | one <;> rcases bit second.linkOptions with two | two <;>
    simp [one, two]

theorem newBest_eq (links : Nat → TschLink) (best l : Nat) :
    (if (links best).linkOptions &&& linkOptionTx = (links l).linkOptions &&& linkOptionTx then
      if (links l).slotframeHandle < (links best).slotframeHandle then some l else none
    else if (links l).has linkOptionTx then some l else none) =
      if Beats (links l) (links best) then some l else none := by
  simp only [txBit_eq_iff]
  by_cases same : (links best).has linkOptionTx = (links l).has linkOptionTx
  · simp [Beats, same]
  · cases tx : (links l).has linkOptionTx
    · have other : (links best).has linkOptionTx = true := by
        simpa [tx] using same
      simp [Beats, tx, other]
    · have other : (links best).has linkOptionTx = false := by
        simpa [tx] using same
      simp [Beats, tx, other]

/-! What the pass knows about the links that tie, in the order they were met. -/

section Tie

variable (links : Nat → TschLink)

def tieBackup (best l : Nat) (backup : Option Nat) : Option Nat :=
  if backup = none then
    if (links best).has linkOptionRx then some best
    else if ¬ Beats (links l) (links best) ∧ (links l).has linkOptionRx then some l
    else none
  else backup

theorem considerLink_tie {best l : Nat} {time : UInt16} {scan : ActiveScan}
    (current : scan.currBest = some best) (equal : time = scan.timeToCurrBest) :
    considerLink links time l scan =
      { scan with
        currBest := some (if Beats (links l) (links best) then l else best)
        currBackup := tieBackup links best l scan.currBackup } := by
  subst equal
  simp only [considerLink, current, UInt16.lt_irrefl, if_false, if_true, newBest_eq, tieBackup]
  by_cases wins : Beats (links l) (links best)
  · have different : l ≠ best := by
      rintro rfl
      exact wins.asymm wins
    simp [wins, different]
  · simp [wins]

structure Tied (tied : List Nat) (best : Nat) (backup : Option Nat) : Prop where
  best_mem : best ∈ tied
  best_beats : ∀ l ∈ tied, l ≠ best → Beats (links best) (links l)
  backup_mem : ∀ b ∈ backup, b ∈ tied ∧ (links b).has linkOptionRx
  backup_none : backup = none → ∀ before l after, tied = before ++ l :: after →
    (links l).has linkOptionRx → after = [] ∧ l = best
  backup_self : backup = some best ↔ ∃ before after, tied = before ++ best :: after ∧
    (links best).has linkOptionRx ∧ after ≠ [] ∧ ∀ l ∈ before, ¬ (links l).has linkOptionRx

theorem Tied.single (l : Nat) : Tied links [l] l none := by
  refine ⟨List.mem_singleton_self l, ?_, ?_, ?_, ?_⟩
  · intro other member different
    exact (different (List.mem_singleton.mp member)).elim
  · intro b absent
    cases absent
  · intro _ before other after split _
    rcases before with _ | ⟨first, rest⟩
    · simp only [List.nil_append, List.cons.injEq] at split
      exact ⟨split.2.symm, split.1.symm⟩
    · simp at split
  · constructor
    · intro same
      cases same
    · rintro ⟨before, after, split, _, nonempty, _⟩
      rcases before with _ | ⟨first, rest⟩
      · simp only [List.nil_append, List.cons.injEq] at split
        exact (nonempty split.2.symm).elim
      · simp at split

theorem snoc_split {tied before after : List Nat} {l other : Nat}
    (split : tied ++ [l] = before ++ other :: after) :
    (after = [] ∧ other = l ∧ before = tied) ∨
      ∃ rest, after = rest ++ [l] ∧ tied = before ++ other :: rest := by
  rcases List.eq_nil_or_concat after with rfl | ⟨rest, last, rfl⟩
  · have pieces := List.append_inj' split rfl
    simp only [List.cons.injEq, and_true] at pieces
    exact .inl ⟨rfl, pieces.2.symm, pieces.1.symm⟩
  · rw [List.concat_eq_append, ← List.cons_append, ← List.append_assoc] at split
    have pieces := List.append_inj' split rfl
    simp only [List.cons.injEq, and_true] at pieces
    exact .inr ⟨rest, by rw [List.concat_eq_append, pieces.2], pieces.1⟩

variable {links}

section

variable {tied : List Nat} {best l : Nat} {backup : Option Nat}
  (state : Tied links tied best backup) (fresh : l ∉ tied)
include state fresh

theorem Tied.snoc_wins (wins : Beats (links l) (links best)) :
    Tied links (tied ++ [l]) l (tieBackup links best l backup) := by
  have source : ∀ b ∈ tieBackup links best l backup, b ∈ tied ∧ (links b).has linkOptionRx := by
    intro b found
    simp only [tieBackup] at found
    split at found
    · split at found
      · rename_i receives
        cases found
        exact ⟨state.best_mem, receives⟩
      · simp [wins] at found
    · exact state.backup_mem b found
  refine ⟨by simp, ?_, ?_, ?_, ?_⟩
  · intro other member different
    rcases List.mem_append.mp member with earlier | last
    · by_cases same : other = best
      · exact same ▸ wins
      · exact wins.trans (state.best_beats other earlier same)
    · exact (different (List.mem_singleton.mp last)).elim
  · intro b found
    exact ⟨List.mem_append_left _ (source b found).1, (source b found).2⟩
  · intro absent before other after split receives
    rcases snoc_split split with ⟨last, same, _⟩ | ⟨rest, _, earlier⟩
    · exact ⟨last, same⟩
    · simp only [tieBackup] at absent
      split at absent
      · rename_i empty
        have isBest := (state.backup_none empty before other rest earlier receives).2
        subst isBest
        simp [receives] at absent
      · rename_i present
        exact (present absent).elim
  · constructor
    · intro found
      exact (fresh (source l found).1).elim
    · rintro ⟨before, after, split, _, nonempty, _⟩
      rcases snoc_split split with ⟨last, _, _⟩ | ⟨rest, _, earlier⟩
      · exact (nonempty last).elim
      · exact (fresh (by simp [earlier])).elim

theorem Tied.snoc_loses (loses : Beats (links best) (links l)) :
    Tied links (tied ++ [l]) best (tieBackup links best l backup) := by
  have notWins : ¬ Beats (links l) (links best) := fun wins => wins.asymm loses
  have different : l ≠ best := fun same => fresh (same ▸ state.best_mem)
  refine ⟨List.mem_append_left _ state.best_mem, ?_, ?_, ?_, ?_⟩
  · intro other member distinct
    rcases List.mem_append.mp member with earlier | last
    · exact state.best_beats other earlier distinct
    · exact List.mem_singleton.mp last ▸ loses
  · intro b found
    simp only [tieBackup] at found
    split at found
    · split at found
      · rename_i receives
        cases found
        exact ⟨List.mem_append_left _ state.best_mem, receives⟩
      · split at found
        · rename_i receives
          cases found
          exact ⟨by simp, receives.2⟩
        · cases found
    · obtain ⟨member, receives⟩ := state.backup_mem b found
      exact ⟨List.mem_append_left _ member, receives⟩
  · intro absent before other after split receives
    simp only [tieBackup] at absent
    split at absent
    · rename_i empty
      split at absent
      · cases absent
      · rename_i deaf
        split at absent
        · cases absent
        · rename_i silent
          rcases snoc_split split with ⟨_, same, _⟩ | ⟨rest, _, earlier⟩
          · exact (silent ⟨notWins, same ▸ receives⟩).elim
          · have isBest := (state.backup_none empty before other rest earlier receives).2
            exact (deaf (isBest ▸ receives)).elim
    · rename_i present
      exact (present absent).elim
  · by_cases empty : backup = none
    · have value : tieBackup links best l backup = some best ↔ (links best).has linkOptionRx := by
        simp only [tieBackup, empty, if_true]
        by_cases receives : (links best).has linkOptionRx = true
        · simp [receives]
        · simp [receives, different]
      rw [value]
      constructor
      · intro receives
        obtain ⟨before, after, split⟩ := List.append_of_mem state.best_mem
        refine ⟨before, after ++ [l], by simp [split], receives, by simp, ?_⟩
        intro other member otherReceives
        obtain ⟨first, second, inner⟩ := List.append_of_mem member
        have shape : tied = first ++ other :: (second ++ best :: after) := by
          simp [split, inner]
        have last := (state.backup_none empty first other _ shape otherReceives).1
        simp at last
      · rintro ⟨_, _, _, receives, _, _⟩
        exact receives
    · have same : tieBackup links best l backup = backup := by simp [tieBackup, empty]
      rw [same]
      constructor
      · intro found
        obtain ⟨before, after, split, receives, _, silent⟩ := state.backup_self.mp found
        exact ⟨before, after ++ [l], by simp [split], receives, by simp, silent⟩
      · rintro ⟨before, after, split, receives, _, silent⟩
        rcases snoc_split split with ⟨_, isLast, _⟩ | ⟨rest, _, earlier⟩
        · exact (different isLast.symm).elim
        · by_cases more : rest = []
          · obtain ⟨b, found⟩ := Option.ne_none_iff_exists'.mp empty
            obtain ⟨member, backupReceives⟩ := state.backup_mem b found
            rw [earlier, more] at member
            rcases List.mem_append.mp member with front | last
            · exact (silent b front backupReceives).elim
            · rw [found, List.mem_singleton.mp last]
          · exact state.backup_self.mpr ⟨before, rest, earlier, receives, more, silent⟩

end

end Tie

structure Candidate where
  link : Nat
  time : UInt16
deriving DecidableEq, Repr

def candidates (asn : TschAsn) (node : Node) : List Candidate :=
  node.sched.slotframeList.flatMap fun sf => (node.sched.links sf).map fun l =>
    { link := l
      time := timeToTimeslot (node.slotframe sf).size.val (tschAsnMod asn (node.slotframe sf).size)
        (node.link l).timeslot }

def considerCandidate (node : Node) (scan : ActiveScan) (candidate : Candidate) : ActiveScan :=
  considerLink node.link candidate.time candidate.link scan

theorem scan_eq (asn : TschAsn) (node : Node) (slotframes : List Nat) (scan : ActiveScan) :
    slotframes.foldl (scanSlotframe asn node) scan =
      (slotframes.flatMap fun sf => (node.sched.links sf).map fun l =>
        { link := l
          time := timeToTimeslot (node.slotframe sf).size.val
            (tschAsnMod asn (node.slotframe sf).size)
            (node.link l).timeslot : Candidate }).foldl (considerCandidate node) scan := by
  induction slotframes generalizing scan with
  | nil => rfl
  | cons sf rest ih =>
    rw [List.foldl_cons, ih, List.flatMap_cons, List.foldl_append, List.foldl_map]
    rfl

def tiedAt (seen : List Candidate) (time : UInt16) : List Nat :=
  (seen.filter fun candidate => candidate.time = time).map Candidate.link

inductive Scanned (links : Nat → TschLink) (seen : List Candidate) (scan : ActiveScan) : Prop where
  | empty : seen = [] → scan = {} → Scanned links seen scan
  | found (best : Nat) : scan.currBest = some best →
      (∀ candidate ∈ seen, scan.timeToCurrBest ≤ candidate.time) →
      Tied links (tiedAt seen scan.timeToCurrBest) best scan.currBackup → Scanned links seen scan

theorem tiedAt_snoc (seen : List Candidate) (candidate : Candidate) (time : UInt16) :
    tiedAt (seen ++ [candidate]) time =
      tiedAt seen time ++ if candidate.time = time then [candidate.link] else [] := by
  simp only [tiedAt, List.filter_append, List.map_append]
  congr 1
  by_cases same : candidate.time = time
  · simp [same]
  · simp [same]

variable {seen : List Candidate}

theorem tiedAt_eq_nil {time : UInt16}
    (later : ∀ candidate ∈ seen, time < candidate.time) : tiedAt seen time = [] := by
  simp only [tiedAt, List.map_eq_nil_iff, List.filter_eq_nil_iff, decide_eq_true_eq]
  intro candidate member same
  have bound := later candidate member
  rw [same] at bound
  exact UInt16.lt_irrefl _ bound

theorem mem_tiedAt {time : UInt16} {l : Nat} :
    l ∈ tiedAt seen time ↔ (⟨l, time⟩ : Candidate) ∈ seen := by
  simp only [tiedAt, List.mem_map, List.mem_filter, decide_eq_true_eq]
  constructor
  · rintro ⟨⟨_, _⟩, ⟨member, rfl⟩, rfl⟩
    exact member
  · intro member
    exact ⟨_, ⟨member, rfl⟩, rfl⟩

theorem Scanned.step {node : Node} {scan : ActiveScan}
    {candidate : Candidate} (state : Scanned node.link seen scan)
    (distinct : ∀ other ∈ seen, other.time = candidate.time →
      (node.link other.link).slotframeHandle ≠ (node.link candidate.link).slotframeHandle) :
    Scanned node.link (seen ++ [candidate]) (considerCandidate node scan candidate) := by
  have restart : (∀ other ∈ seen, candidate.time < other.time) →
      considerCandidate node scan candidate =
        { timeToCurrBest := candidate.time, currBest := some candidate.link, currBackup := none } →
      Scanned node.link (seen ++ [candidate]) (considerCandidate node scan candidate) := by
    intro later eq
    rw [eq]
    refine .found candidate.link rfl ?_ ?_
    · intro other member
      rcases List.mem_append.mp member with earlier | last
      · exact UInt16.le_of_lt (later other earlier)
      · rw [List.mem_singleton.mp last]
        exact UInt16.le_refl _
    · simp only [tiedAt_snoc, tiedAt_eq_nil later, if_true, List.nil_append]
      exact Tied.single node.link candidate.link
  cases state with
  | empty none eq =>
    apply restart
    · rw [none]
      intro other member
      cases member
    · rw [eq]
      rfl
  | found best current least tied =>
    have order : candidate.time < scan.timeToCurrBest ∨ candidate.time = scan.timeToCurrBest ∨
        scan.timeToCurrBest < candidate.time := by
      simp only [UInt16.lt_iff_toNat_lt, ← UInt16.toNat_inj]
      exact Nat.lt_trichotomy _ _
    rcases order with less | equal | more
    · apply restart
      · intro other member
        exact UInt16.lt_of_lt_of_le less (least other member)
      · simp [considerCandidate, considerLink, current, less]
    · have fresh : candidate.link ∉ tiedAt seen scan.timeToCurrBest := by
        intro member
        rw [← equal, mem_tiedAt] at member
        exact distinct _ member rfl rfl
      have bestSeen := mem_tiedAt.mp tied.best_mem
      have handles := distinct _ bestSeen equal.symm
      have bound : ∀ other ∈ seen ++ [candidate], scan.timeToCurrBest ≤ other.time := by
        intro other member
        rcases List.mem_append.mp member with earlier | last
        · exact least other earlier
        · rw [List.mem_singleton.mp last, equal]
          exact UInt16.le_refl _
      rw [considerCandidate, considerLink_tie node.link current equal]
      by_cases wins : Beats (node.link candidate.link) (node.link best)
      · refine .found candidate.link (by simp [wins]) bound ?_
        simp only [tiedAt_snoc, equal, if_true]
        exact tied.snoc_wins fresh wins
      · have loses := (Beats.total handles).resolve_right wins
        refine .found best (by simp [wins]) bound ?_
        simp only [tiedAt_snoc, equal, if_true]
        exact tied.snoc_loses fresh loses
    · have notLess : ¬ candidate.time < scan.timeToCurrBest := UInt16.lt_asymm more
      have notEqual : candidate.time ≠ scan.timeToCurrBest := by
        intro equal
        rw [equal] at more
        exact UInt16.lt_irrefl _ more
      have same : considerCandidate node scan candidate = scan := by
        simp [considerCandidate, considerLink, current, notLess, notEqual]
      rw [same]
      refine .found best current ?_ ?_
      · intro other member
        rcases List.mem_append.mp member with earlier | last
        · exact least other earlier
        · rw [List.mem_singleton.mp last]
          exact UInt16.le_of_lt more
      · simp only [tiedAt_snoc, notEqual, if_false, List.append_nil]
        exact tied

theorem Scanned.run {node : Node} : ∀ (rest seen : List Candidate) (scan : ActiveScan),
    Scanned node.link seen scan →
    (seen ++ rest).Pairwise (fun first second => first.time = second.time →
      (node.link first.link).slotframeHandle ≠ (node.link second.link).slotframeHandle) →
    Scanned node.link (seen ++ rest) (rest.foldl (considerCandidate node) scan) := by
  intro rest
  induction rest with
  | nil =>
    intro seen scan state _
    simpa using state
  | cons candidate rest ih =>
    intro seen scan state distinct
    have next : Scanned node.link (seen ++ [candidate]) (considerCandidate node scan candidate) :=
      state.step fun other member =>
        (List.pairwise_append.mp distinct).2.2 other member candidate List.mem_cons_self
    rw [List.append_cons] at distinct ⊢
    exact ih (seen ++ [candidate]) _ next distinct

/-- The link occurs next `distance` slots after `asn`, within one period of its slotframe. -/
def NextAt (node : Node) (asn : TschAsn) (l distance : Nat) : Prop :=
  ∃ sf ∈ node.sched.slotframeList, l ∈ node.sched.links sf ∧
    OccursIn asn (node.slotframe sf).size.val.toNat (node.link l).timeslot.toNat distance

structure Preferred (node : Node) (asn : TschAsn) (best : Nat) (time : UInt16) : Prop where
  next : NextAt node asn best time.toNat
  first : ∀ l distance, NextAt node asn l distance → time.toNat < distance ∨
    (time.toNat = distance ∧ (l = best ∨ Beats (node.link best) (node.link l)))

theorem Preferred.unique {node : Node} {asn : TschAsn} {first second : Nat} {firstTime secondTime : UInt16}
    (one : Preferred node asn first firstTime) (two : Preferred node asn second secondTime) :
    first = second ∧ firstTime = secondTime := by
  have forward := one.first second _ two.next
  have backward := two.first first _ one.next
  have times : firstTime.toNat = secondTime.toNat := by
    rcases forward with less | ⟨equal, _⟩
    · rcases backward with more | ⟨equal, _⟩ <;> omega
    · exact equal
  refine ⟨?_, UInt16.toNat_inj.mp times⟩
  rcases forward with less | ⟨_, same | wins⟩
  · omega
  · exact same.symm
  · rcases backward with less | ⟨_, same | loses⟩
    · omega
    · exact same
    · exact (wins.asymm loses).elim

section Search

variable {node : Node} (inv : ScheduleInv node.sched) (asn : TschAsn)

include inv

theorem ScheduleInv.occurs {sf l : Nat} (member : sf ∈ node.sched.slotframeList)
    (inside : l ∈ node.sched.links sf) :
    OccursIn asn (node.slotframe sf).size.val.toNat (node.link l).timeslot.toNat
      (timeToTimeslot (node.slotframe sf).size.val (tschAsnMod asn (node.slotframe sf).size)
        (node.link l).timeslot).toNat := by
  obtain ⟨val, nonzero, size⟩ := inv.size_eq sf member
  have inFrame := (inv.placed sf member l inside).timeslot_lt
  rw [size] at inFrame
  change (node.slotframe sf).size = _ at size
  rw [size]
  exact timeToTimeslot_occurs asn nonzero inFrame

theorem mem_candidates {l : Nat} {time : UInt16} :
    (⟨l, time⟩ : Candidate) ∈ candidates asn node ↔ NextAt node asn l time.toNat := by
  simp only [candidates, List.mem_flatMap, List.mem_map, Candidate.mk.injEq]
  constructor
  · rintro ⟨sf, member, other, inside, rfl, rfl⟩
    exact ⟨sf, member, inside, inv.occurs asn member inside⟩
  · rintro ⟨sf, member, inside, occurs⟩
    refine ⟨sf, member, l, inside, rfl, ?_⟩
    exact UInt16.toNat_inj.mp ((inv.occurs asn member inside).unique occurs)

theorem NextAt.exists_of_installed {l : Nat} (installed : l ∈ node.sched.installedLinks) :
    ∃ time : UInt16, NextAt node asn l time.toNat := by
  obtain ⟨sf, member, inside⟩ := List.mem_flatMap.mp installed
  exact ⟨_, sf, member, inside, inv.occurs asn member inside⟩

omit inv in
theorem NextAt.installed {l distance : Nat} (next : NextAt node asn l distance) :
    l ∈ node.sched.installedLinks := by
  obtain ⟨sf, member, inside, _⟩ := next
  exact List.mem_flatMap.mpr ⟨sf, member, inside⟩

theorem NextAt.unique {l first second : Nat} (one : NextAt node asn l first)
    (two : NextAt node asn l second) : first = second := by
  obtain ⟨sf, member, inside, occurs⟩ := one
  obtain ⟨other, otherMember, otherInside, otherOccurs⟩ := two
  have same : sf = other := inv.slotframe_eq_of_handle member otherMember
    ((inv.placed sf member l inside).handle_eq.symm.trans
      (inv.placed other otherMember l otherInside).handle_eq)
  subst same
  exact occurs.unique otherOccurs

theorem candidates_distinct : (candidates asn node).Pairwise fun first second =>
    first.time = second.time →
      (node.link first.link).slotframeHandle ≠ (node.link second.link).slotframeHandle := by
  rw [candidates, List.pairwise_flatMap]
  constructor
  · intro sf member
    rw [List.pairwise_map]
    have timeslots := inv.timeslots_distinct sf member
    rw [List.Nodup, List.pairwise_map] at timeslots
    apply timeslots.imp_of_mem
    intro first second firstInside secondInside different sameTime
    -- two links of one slotframe never share a distance
    have one := (inv.occurs asn member firstInside).position
    have two := (inv.occurs asn member secondInside).position
    simp only at sameTime
    rw [sameTime] at one
    exact (different (UInt16.toNat_inj.mp (one.symm.trans two))).elim
  · have handles := inv.handles_distinct
    rw [List.Nodup, List.pairwise_map] at handles
    apply handles.imp_of_mem
    intro first second firstMember secondMember different one oneIn two twoIn _
    obtain ⟨l, inside, rfl⟩ := List.mem_map.mp oneIn
    obtain ⟨other, otherInside, rfl⟩ := List.mem_map.mp twoIn
    have oneHandle := (inv.placed first firstMember l inside).handle_eq
    have twoHandle := (inv.placed second secondMember other otherInside).handle_eq
    intro same
    exact different (oneHandle.symm.trans (same.trans twoHandle))

theorem tschScheduleGetNextActiveLink_scanned (free : node.lock.tschLocked = false) :
    ∃ scan, Scanned node.link (candidates asn node) scan ∧
      tschScheduleGetNextActiveLink asn node =
        (scan.currBest, some scan.timeToCurrBest, scan.currBackup) := by
  refine ⟨(candidates asn node).foldl (considerCandidate node) {}, ?_, ?_⟩
  · exact Scanned.run (candidates asn node) [] {} (.empty rfl rfl) (candidates_distinct inv asn)
  · simp only [tschScheduleGetNextActiveLink, tschIsLocked, free, Bool.not_false, if_true, scan_eq]
    rfl

theorem Scanned.preferred {scan : ActiveScan} {best : Nat}
    (least : ∀ candidate ∈ candidates asn node, scan.timeToCurrBest ≤ candidate.time)
    (tied : Tied node.link (tiedAt (candidates asn node) scan.timeToCurrBest) best
      scan.currBackup) : Preferred node asn best scan.timeToCurrBest := by
  refine ⟨(mem_candidates inv asn).mp (mem_tiedAt.mp tied.best_mem), ?_⟩
  intro l distance occurs
  obtain ⟨time, timed⟩ := NextAt.exists_of_installed inv asn (NextAt.installed asn occurs)
  have same := NextAt.unique inv asn occurs timed
  subst same
  have member := (mem_candidates inv asn).mpr timed
  rcases Nat.lt_or_eq_of_le (UInt16.le_iff_toNat_le.mp (least _ member)) with less | equal
  · exact .inl less
  · refine .inr ⟨equal, ?_⟩
    have inTie : l ∈ tiedAt (candidates asn node) scan.timeToCurrBest := by
      rw [mem_tiedAt, UInt16.toNat_inj.mp equal]
      exact member
    by_cases isBest : l = best
    · exact .inl isBest
    · exact .inr (tied.best_beats l inTie isBest)

theorem nextActiveLink_optimal :
    (node.lock.tschLocked = true → tschScheduleGetNextActiveLink asn node = (none, none, none)) ∧
    (node.lock.tschLocked = false →
      ((tschScheduleGetNextActiveLink asn node).1 = none ↔ node.sched.installedLinks = []) ∧
      ∀ best ∈ (tschScheduleGetNextActiveLink asn node).1,
        ∃ timeOffset : UInt16, (tschScheduleGetNextActiveLink asn node).2.1 = some timeOffset ∧
          NextAt node asn best timeOffset.toNat ∧
          (∀ l ∈ node.sched.installedLinks, ∀ distance, NextAt node asn l distance →
            timeOffset.toNat < distance ∨
            (timeOffset.toNat = distance ∧
              (l = best ∨ Beats (node.link best) (node.link l)))) ∧
          (∀ sf ∈ node.sched.slotframeList, ∀ l ∈ node.sched.links sf, ∀ earlier,
            1 ≤ earlier → earlier < timeOffset.toNat →
              (asn.toNat + earlier) % (node.slotframe sf).size.val.toNat ≠
                (node.link l).timeslot.toNat)) := by
  constructor
  · intro locked
    simp [tschScheduleGetNextActiveLink, tschIsLocked, locked]
  intro free
  obtain ⟨scan, scanned, result⟩ := tschScheduleGetNextActiveLink_scanned inv asn free
  rw [result]
  cases scanned with
  | empty none eq =>
    have noLinks : node.sched.installedLinks = [] := by
      apply List.eq_nil_iff_forall_not_mem.mpr
      intro l installed
      obtain ⟨time, next⟩ := NextAt.exists_of_installed inv asn installed
      have member := (mem_candidates inv asn).mpr next
      rw [none] at member
      cases member
    rw [eq]
    refine ⟨by simp [noLinks], ?_⟩
    intro best absent
    cases absent
  | found best current least tied =>
    have preferred := Scanned.preferred inv asn least tied
    refine ⟨?_, ?_⟩
    · simp only [current, reduceCtorEq, false_iff]
      intro noLinks
      have installed := NextAt.installed asn preferred.next
      rw [noLinks] at installed
      cases installed
    · intro chosen isBest
      have same : chosen = best := by simpa [current] using isBest.symm
      subst same
      refine ⟨scan.timeToCurrBest, rfl, preferred.next, ?_, ?_⟩
      · intro l _ distance occurs
        exact preferred.first l distance occurs
      · intro sf member l inside earlier positive before
        have occurs := inv.occurs asn member inside
        rcases preferred.first l _ ⟨sf, member, inside, occurs⟩ with less | ⟨equal, _⟩
        · exact occurs.first positive (by omega)
        · exact occurs.first positive (by omega)

end Search

def overlapping : Node :=
  Run.final (ScheduleCall.exec cc1200Conf) (tschScheduleInit (Node.boot cc1200Conf)).2
    [.addSlotframe 0 7, .addSlotframe 1 7,
      .addLink (some 0) (linkOptionTx ||| linkOptionRx) .normal none 0 0,
      .addLink (some 1) (linkOptionTx ||| linkOptionRx) .normal none 0 1]

theorem overlapping_inv : ScheduleInv overlapping.sched := by
  apply (ScheduleCall.run_inv cc1200Conf rfl _ _).2
  · exact (tschScheduleInit_inv tschScheduleInit_cc1200).2
  · simp only [Run.Meets, ScheduleCall.PointerValid, ScheduleCall.slotframeArgument]
    decide

theorem nextActiveLink_optimal_overlapping :
    ∃ timeOffset : UInt16,
      (tschScheduleGetNextActiveLink ⟨0, 0⟩ overlapping).2.1 = some timeOffset ∧
      NextAt overlapping ⟨0, 0⟩ 0 timeOffset.toNat := by
  obtain ⟨_, chosen⟩ := (nextActiveLink_optimal overlapping_inv ⟨0, 0⟩).2 rfl
  obtain ⟨timeOffset, stored, next, _⟩ := chosen 0 (by decide)
  exact ⟨timeOffset, stored, next⟩

theorem nextActiveLink_locked :
    ScheduleInv (tschGetLock overlapping).2.sched ∧
      (tschGetLock overlapping).2.sched.installedLinks = [0, 1] ∧
      (tschScheduleGetNextActiveLink ⟨0, 0⟩ (tschGetLock overlapping).2).1 = none := by
  refine ⟨?_, by decide, by decide⟩
  exact overlapping_inv

def BackupSound (asn : TschAsn) (node : Node) : Prop :=
  ∀ best timeOffset backup,
    tschScheduleGetNextActiveLink asn node = (some best, timeOffset, backup) →
    (∀ b ∈ backup, b ∈ node.sched.installedLinks ∧ b ≠ best ∧
      (∃ distance, NextAt node asn best distance ∧ NextAt node asn b distance) ∧
      (node.link b).has linkOptionRx) ∧
    (¬ (node.link best).has linkOptionRx → (backup ≠ none ↔ ∃ other, other ≠ best ∧
      (∃ distance, NextAt node asn best distance ∧ NextAt node asn other distance) ∧
      (node.link other).has linkOptionRx))

/-- If the preferred link has the Rx option, it is the last in list order among the links at
its distance, or one of those before it has the Rx option. -/
def BackupSafe (asn : TschAsn) (node : Node) : Prop :=
  ∀ best time before after, Preferred node asn best time →
    tiedAt (candidates asn node) time = before ++ best :: after →
    (node.link best).has linkOptionRx → after = [] ∨ ∃ l ∈ before, (node.link l).has linkOptionRx

section Backup

variable {node : Node} (inv : ScheduleInv node.sched) (asn : TschAsn)

include inv

theorem backupSound_iff :
    BackupSound asn node ↔ node.lock.tschLocked = true ∨ BackupSafe asn node := by
  cases free : node.lock.tschLocked with
  | true =>
    simp only [true_or, iff_true]
    intro best timeOffset backup result
    simp [tschScheduleGetNextActiveLink, tschIsLocked, free] at result
  | false =>
    simp only [Bool.false_eq_true, false_or]
    obtain ⟨scan, scanned, result⟩ := tschScheduleGetNextActiveLink_scanned inv asn free
    cases scanned with
    | empty none eq =>
      constructor
      · intro _ best time before after preferred
        have member := (mem_candidates inv asn).mpr preferred.next
        rw [none] at member
        cases member
      · intro _ best timeOffset backup chosen
        rw [result, eq] at chosen
        cases chosen
    | found best current least tied =>
      have preferred := Scanned.preferred inv asn least tied
      have atDistance : ∀ l, l ∈ tiedAt (candidates asn node) scan.timeToCurrBest ↔
          ∃ distance, NextAt node asn best distance ∧ NextAt node asn l distance := by
        intro l
        rw [mem_tiedAt, mem_candidates inv asn]
        constructor
        · intro next
          exact ⟨_, preferred.next, next⟩
        · rintro ⟨distance, bestNext, next⟩
          rwa [NextAt.unique inv asn preferred.next bestNext]
      -- the only thing that can go wrong is a backup that is the chosen link itself
      have selfIff : BackupSound asn node ↔ scan.currBackup ≠ some best := by
        constructor
        · intro sound self
          exact ((sound best _ _ (result.trans (by rw [current]))).1 best self).2.1 rfl
        · intro notSelf chosen timeOffset backup chosenResult
          rw [result, current] at chosenResult
          cases chosenResult
          refine ⟨?_, ?_⟩
          · intro b isBackup
            obtain ⟨member, receives⟩ := tied.backup_mem b isBackup
            have together := (atDistance b).mp member
            refine ⟨?_, ?_, together, receives⟩
            · obtain ⟨distance, _, next⟩ := together
              exact NextAt.installed asn next
            · rintro rfl
              exact notSelf isBackup
          · intro deaf
            constructor
            · intro present
              obtain ⟨b, isBackup⟩ := Option.ne_none_iff_exists'.mp present
              obtain ⟨member, receives⟩ := tied.backup_mem b isBackup
              refine ⟨b, ?_, (atDistance b).mp member, receives⟩
              rintro rfl
              exact deaf receives
            · rintro ⟨other, different, together, receives⟩ absent
              obtain ⟨before, after, split⟩ :=
                List.append_of_mem ((atDistance other).mpr together)
              exact different (tied.backup_none absent before other after split receives).2
      rw [selfIff, Ne, tied.backup_self]
      constructor
      · intro notSelf other time before after otherPreferred split receives
        obtain ⟨rfl, rfl⟩ := otherPreferred.unique preferred
        by_contra bad
        rw [not_or] at bad
        apply notSelf
        refine ⟨before, after, split, receives, bad.1, ?_⟩
        intro l member otherReceives
        exact bad.2 ⟨l, member, otherReceives⟩
      · rintro safe ⟨before, after, split, receives, nonempty, silent⟩
        rcases safe best _ before after preferred split receives with last | ⟨l, member, early⟩
        · exact nonempty last
        · exact silent l member early

end Backup

theorem backup_is_itself :
    ScheduleInv overlapping.sched ∧
      tschScheduleGetNextActiveLink ⟨0, 0⟩ overlapping = (some 0, some 7, some 0) ∧
      ¬ BackupSound ⟨0, 0⟩ overlapping := by
  have result : tschScheduleGetNextActiveLink ⟨0, 0⟩ overlapping = (some 0, some 7, some 0) := by
    decide
  refine ⟨overlapping_inv, result, ?_⟩
  intro sound
  exact ((sound 0 _ _ result).1 0 rfl).2.1 rfl

theorem backupSound_iff_overlapping :
    BackupSound ⟨0, 1⟩ overlapping ↔
      overlapping.lock.tschLocked = true ∨ BackupSafe ⟨0, 1⟩ overlapping :=
  backupSound_iff overlapping_inv ⟨0, 1⟩

end MultiPhyTsch
