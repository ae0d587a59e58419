import MultiPhyTsch.Tsch.ScheduleCalls

/-! Link handles. A new link takes its handle from a counter that only grows, and keeps its low
16 bits: a link that stays installed for 65536 further additions meets its own handle again. -/

namespace MultiPhyTsch

variable (conf : TschConf) {node : Node}

structure HandlesIdentify (node : Node) : Prop where
  distinct : (node.sched.installedLinks.map fun l => (node.link l).handle).Nodup
  lookup : ∀ l ∈ node.sched.installedLinks,
    tschScheduleGetLinkByHandle (node.link l).handle node = some l

def HandlesInj (node : Node) : Prop :=
  ∀ first ∈ node.sched.installedLinks, ∀ second ∈ node.sched.installedLinks,
    (node.link first).handle = (node.link second).handle → first = second

theorem handlesIdentify_iff (free : node.lock.tschLocked = false)
    (inv : ScheduleInv node.sched) : HandlesIdentify node ↔ HandlesInj node := by
  constructor
  · intro identify first firstIn second secondIn same
    exact List.inj_on_of_nodup_map identify.distinct firstIn secondIn same
  · intro inj
    refine ⟨?_, ?_⟩
    · rw [List.nodup_map_iff_inj_on inv.links_nodup]
      exact inj
    · intro l installed
      have lookup : tschScheduleGetLinkByHandle (node.link l).handle node =
          node.sched.slotframeList.findSome? fun sf => (node.sched.links sf).find? fun other =>
            (node.link other).handle = (node.link l).handle := by
        simp [tschScheduleGetLinkByHandle, tschIsLocked, free, Node.slotframe, Schedule.links]
      rw [lookup]
      rcases found : node.sched.slotframeList.findSome? (fun sf => (node.sched.links sf).find?
        fun other => (node.link other).handle = (node.link l).handle) with _ | other
      · obtain ⟨sf, member, inside⟩ := List.mem_flatMap.mp installed
        have missed := List.findSome?_eq_none_iff.mp found sf member
        have different := List.find?_eq_none.mp missed l inside
        simp at different
      · obtain ⟨sf, member, first⟩ := List.exists_of_findSome?_eq_some found
        have inside := List.mem_of_find?_eq_some first
        have same : (node.link other).handle = (node.link l).handle := by
          simpa using List.find?_some first
        rw [inj other (List.mem_flatMap.mpr ⟨sf, member, inside⟩) l installed same]

def HandleFree (node : Node) : ScheduleCall → Prop
  | .addLink slotframe _ _ _ timeslot channelOffset =>
    addsLink node slotframe timeslot channelOffset = true →
      ∀ l ∈ node.sched.installedLinks,
        l ∉ removedByAddLink node slotframe timeslot channelOffset →
          (node.link l).handle ≠ UInt16.ofNat node.sched.currentLinkHandle
  | _ => True

theorem HandlesInj.of_subset {node next : Node} (inj : HandlesInj node)
    (listed : ∀ l ∈ next.sched.installedLinks, l ∈ node.sched.installedLinks)
    (same : next.sched.linkMemb.mem = node.sched.linkMemb.mem) : HandlesInj next := by
  intro first firstIn second secondIn equal
  simp only [Node.link, same] at equal
  exact inj first (listed first firstIn) second (listed second secondIn) equal

theorem HandlesInj.of_removes {node next : Node} {removed : List Nat} (inj : HandlesInj node)
    (removes : Removes removed node next) : HandlesInj next :=
  inj.of_subset (fun l installed => ((removes.installed_iff l).mp installed).1) removes.mem_eq

theorem LinkAdded.handlesInj_iff {sf l : Nat} {removed : List Nat} {timeslot : UInt16}
    {node next : Node} (added : LinkAdded sf l removed timeslot node next) (inj : HandlesInj node) :
    HandlesInj next ↔ ∀ other ∈ node.sched.installedLinks, other ∉ removed →
      (node.link other).handle ≠ UInt16.ofNat node.sched.currentLinkHandle := by
  have new : l ∈ next.sched.installedLinks := (added.installed_iff l).mpr (Or.inr rfl)
  constructor
  · intro nextInj other installed outside clash
    have different : other ≠ l := by
      rintro rfl
      exact added.fresh ⟨installed, outside⟩
    apply different
    apply nextInj other ((added.installed_iff other).mpr (Or.inl ⟨installed, outside⟩)) l new
    rw [added.kept other different, clash, added.handle_eq]
  · intro unused
    have apart : ∀ other, other ∈ next.sched.installedLinks → other ≠ l →
        (next.link other).handle ≠ (next.link l).handle := by
      intro other installed different
      obtain ⟨old, outside⟩ := ((added.installed_iff other).mp installed).resolve_right different
      rw [added.kept other different, added.handle_eq]
      exact unused other old outside
    intro first firstIn second secondIn same
    by_cases firstNew : first = l
    · by_cases secondNew : second = l
      · rw [firstNew, secondNew]
      · exact absurd (firstNew ▸ same).symm (apart second secondIn secondNew)
    · by_cases secondNew : second = l
      · exact absurd (secondNew ▸ same) (apart first firstIn firstNew)
      · have firstOld := ((added.installed_iff first).mp firstIn).resolve_right firstNew
        have secondOld := ((added.installed_iff second).mp secondIn).resolve_right secondNew
        rw [added.kept first firstNew, added.kept second secondNew] at same
        exact inj first firstOld.1 second secondOld.1 same

theorem tschScheduleAddLink_handlesInj (slotframe : Option Nat) (linkOptions : UInt8)
    (linkType : LinkType) (address : Option LinkAddr) (timeslot channelOffset : UInt16)
    (free : node.lock.tschLocked = false) (inv : ScheduleInv node.sched)
    (valid : ∀ sf ∈ slotframe, sf ∈ node.sched.slotframeList) (inj : HandlesInj node) :
    HandlesInj (tschScheduleAddLink conf slotframe linkOptions linkType address timeslot
        channelOffset node).2 ↔
      HandleFree node (.addLink slotframe linkOptions linkType address timeslot channelOffset) := by
  have outcome := (tschScheduleAddLink_effect conf slotframe linkOptions linkType address timeslot
    channelOffset free inv valid rfl).2.2
  by_cases adds : addsLink node slotframe timeslot channelOffset = true
  · rw [if_pos adds] at outcome
    obtain ⟨sf, -, l, added⟩ := outcome
    rw [added.handlesInj_iff inj]
    exact ⟨fun unused _ => unused, fun unused => unused adds⟩
  · rw [if_neg adds] at outcome
    refine iff_of_true (inj.of_subset (fun l => (outcome.1 l).mp) outcome.2) ?_
    exact fun added => absurd added adds

theorem tschScheduleCreateMinimal_handlesInj (free : node.lock.tschLocked = false)
    (inv : ScheduleInv node.sched) : HandlesInj (tschScheduleCreateMinimal conf node) := by
  obtain ⟨-, sfMin, framed, -, -, -, -, ready, eq⟩ :=
    tschScheduleCreateMinimal_framed conf free inv
  have empty : ∀ l, l ∉ framed.sched.installedLinks := by simp [ready.empty]
  have linked : HandlesInj (addMinimalLink conf sfMin framed) := by
    rw [addMinimalLink, tschScheduleAddLink_handlesInj conf _ _ _ _ _ _ ready.unlocked ready.inv
      ready.valid (fun first firstIn => absurd firstIn (empty first))]
    exact fun _ l installed => absurd installed (empty l)
  rw [eq]
  rcases sfMin with _ | sf
  · exact linked
  · exact linked.of_subset (fun l installed => (ready.configured conf).2 ▸ installed) rfl

theorem ScheduleCall.exec_handlesInj {call : ScheduleCall}
    (free : node.lock.tschLocked = false) (inv : ScheduleInv node.sched)
    (valid : call.PointerValid node) (inj : HandlesInj node) :
    HandlesInj (call.exec conf node) ↔ HandleFree node call := by
  cases call with
  | addSlotframe handle size =>
    exact iff_of_true
      (inj.of_removes (tschScheduleAddSlotframe_removes handle size free inv).1) trivial
  | removeSlotframe slotframe =>
    refine iff_of_true ?_ trivial
    rcases slotframe with _ | sf
    · exact inj
    · exact inj.of_removes (tschScheduleRemoveSlotframe_removes conf free inv (valid sf rfl)).2.1
  | removeAllSlotframes =>
    exact iff_of_true
      (inj.of_removes (removeSlotframesFrom_removes conf _ node free inv le_rfl).2.1) trivial
  | addLink slotframe linkOptions linkType address timeslot channelOffset =>
    exact tschScheduleAddLink_handlesInj conf slotframe linkOptions linkType address timeslot
      channelOffset free inv valid inj
  | removeLink slotframe link =>
    exact iff_of_true
      (inj.of_removes (tschScheduleRemoveLink_effect conf slotframe link free inv valid).1) trivial
  | removeLinkByTimeslot slotframe timeslot =>
    refine iff_of_true ?_ trivial
    rcases slotframe with _ | sf
    · exact inj
    · exact inj.of_removes (tschScheduleRemoveLinkByTimeslot_removes conf timeslot free inv
        (valid sf rfl) rfl).1
  | createMinimal => exact iff_of_true (tschScheduleCreateMinimal_handlesInj conf free inv) trivial

theorem link_handles_identify_iff {node initial : Node}
    (started : tschScheduleInit node = (true, initial)) {calls : List ScheduleCall}
    (valid : Run.Meets (ScheduleCall.exec conf) (fun node call => call.PointerValid node)
      initial calls) :
    Run.Always (ScheduleCall.exec conf) HandlesIdentify initial calls ↔
      Run.Meets (ScheduleCall.exec conf) HandleFree initial calls := by
  obtain ⟨free, inv⟩ := tschScheduleInit_inv started
  have empty : initial.sched.installedLinks = [] := by
    simp only [tschScheduleInit] at started
    split at started
    · cases started
      rfl
    · cases started
  refine Run.always_iff_meets
    (fun node => (node.lock.tschLocked = false ∧ ScheduleInv node.sched) ∧ HandlesInj node)
    ?_ ?_ ?_ calls initial ⟨⟨free, inv⟩, ?_⟩ valid
  · intro state holds
    exact (handlesIdentify_iff holds.1.1 holds.1.2).mpr holds.2
  · intro state call holds pointer unused
    have effect := ScheduleCall.exec_effect conf holds.1.1 holds.1.2 pointer
    exact ⟨⟨effect.unlocked, effect.inv⟩,
      (ScheduleCall.exec_handlesInj conf holds.1.1 holds.1.2 pointer holds.2).mpr unused⟩
  · intro state call holds pointer clash identify
    have effect := ScheduleCall.exec_effect conf holds.1.1 holds.1.2 pointer
    exact clash ((ScheduleCall.exec_handlesInj conf holds.1.1 holds.1.2 pointer holds.2).mp
      ((handlesIdentify_iff effect.unlocked effect.inv).mp identify))
  · intro first installed
    rw [empty] at installed
    cases installed

def scheduleStart : Node := (tschScheduleInit (Node.boot cc1200Conf)).2

def firstLink : List ScheduleCall :=
  [.addSlotframe 0 7, .addLink (some 0) linkOptionRx .normal none 0 0]

theorem firstLink_valid : Run.Meets (ScheduleCall.exec cc1200Conf)
    (fun node call => call.PointerValid node) scheduleStart firstLink := by
  simp only [firstLink, Run.Meets, ScheduleCall.PointerValid, ScheduleCall.slotframeArgument]
  decide

/-- Three links, one of which is replaced. -/
def threeLinks : List ScheduleCall :=
  firstLink ++ [.addLink (some 0) linkOptionTx .normal none 1 0,
    .addLink (some 0) linkOptionTx .normal none 2 0, .addLink (some 0) linkOptionRx .normal none 1 0]

theorem threeLinks_identified :
    Run.Always (ScheduleCall.exec cc1200Conf) HandlesIdentify scheduleStart threeLinks := by
  have valid : Run.Meets (ScheduleCall.exec cc1200Conf) (fun node call => call.PointerValid node)
      scheduleStart threeLinks := by
    refine (Run.meets_append firstLink _).mpr ⟨firstLink_valid, ?_⟩
    simp only [Run.Meets, ScheduleCall.PointerValid, ScheduleCall.slotframeArgument]
    decide +kernel
  refine (link_handles_identify_iff cc1200Conf tschScheduleInit_cc1200 valid).mpr ?_
  simp only [threeLinks, firstLink, List.cons_append, List.nil_append, Run.Meets, HandleFree]
  decide +kernel

/-! A link at timeslot 0 that stays while the one at timeslot 1 is replaced again and again. -/

def replaceLink : ScheduleCall := .addLink (some 0) linkOptionRx .normal none 1 0

structure Replacing (count : Nat) (node : Node) : Prop where
  unlocked : node.lock.tschLocked = false
  inv : ScheduleInv node.sched
  member : 0 ∈ node.sched.slotframeList
  wide : 1 < (node.slotframe 0).size.val
  counter : node.sched.currentLinkHandle = count
  first : ∃ l ∈ node.sched.installedLinks, (node.link l).handle = 0 ∧ (node.link l).timeslot = 0
  room : (tschScheduleGetLinkByTimeslot (some 0) 1 node).isSome = true ∨
    node.sched.linkMemb.membAlloc.1.isSome = true

theorem Replacing.step {count : Nat} (replacing : Replacing count node) :
    Replacing (count + 1) (replaceLink.exec conf node) ∧
    ∃ l ∈ (replaceLink.exec conf node).sched.installedLinks,
      ((replaceLink.exec conf node).link l).handle = UInt16.ofNat count ∧
      ((replaceLink.exec conf node).link l).timeslot = 1 := by
  have valid : ∀ sf ∈ some 0, sf ∈ node.sched.slotframeList := by
    rintro sf ⟨⟩
    exact replacing.member
  obtain ⟨effect, lists, outcome⟩ := tschScheduleAddLink_effect conf (some 0) linkOptionRx .normal
    none 1 0 replacing.unlocked replacing.inv valid rfl
  have adds : addsLink node (some 0) 1 0 = true := by
    have narrow : (0 : UInt16) ≤ 15 := by decide
    simp only [addsLink, replacing.wide, narrow, decide_true, Bool.true_and, Bool.or_eq_true]
    exact replacing.room
  rw [if_pos adds] at outcome
  obtain ⟨_, ⟨⟩, new, added⟩ := outcome
  change ScheduleEffect _ node (replaceLink.exec conf node) at effect
  change (replaceLink.exec conf node).sched.slotframeList = _ at lists
  change LinkAdded 0 new _ 1 node (replaceLink.exec conf node) at added
  generalize replaceLink.exec conf node = next at *
  obtain ⟨l, installed, handle, timeslot⟩ := replacing.first
  have stays : l ∉ removedByAddLink node (some 0) 1 0 := by
    simp only [removedByAddLink, replacing.wide, true_and]
    rw [if_pos (by decide), Option.mem_toList]
    intro replaced
    have second := (tschScheduleGetLinkByTimeslot_some replaced).2
    rw [timeslot] at second
    contradiction
  obtain ⟨still, same⟩ := effect.kept l installed stays
  refine ⟨⟨effect.unlocked, effect.inv, lists ▸ replacing.member, ?_, ?_, ?_, ?_⟩, ?_⟩
  · rw [added.size_eq 0]
    exact replacing.wide
  · rw [added.counter, replacing.counter]
  · exact ⟨l, still, by rw [same, handle], by rw [same, timeslot]⟩
  · left
    rcases lookup : tschScheduleGetLinkByTimeslot (some 0) 1 next with _ | found
    · exact absurd added.timeslot_eq
        (tschScheduleGetLinkByTimeslot_none effect.unlocked lookup new added.listed)
    · rfl
  · refine ⟨new, (added.installed_iff new).mpr (Or.inr rfl), ?_, added.timeslot_eq⟩
    rw [added.handle_eq, replacing.counter]

theorem Replacing.run (rounds : Nat) : ∀ {count : Nat} {node : Node}, Replacing count node →
    Run.Meets (ScheduleCall.exec conf) (fun node call => call.PointerValid node) node
      (List.replicate rounds replaceLink) ∧
    Replacing (count + rounds)
      (Run.final (ScheduleCall.exec conf) node (List.replicate rounds replaceLink)) := by
  induction rounds with
  | zero => exact fun replacing => ⟨trivial, replacing⟩
  | succ rounds ih =>
    intro count node replacing
    obtain ⟨valid, later⟩ := ih (replacing.step conf).1
    refine ⟨⟨?_, valid⟩, ?_⟩
    · rintro sf ⟨⟩
      exact replacing.member
    · rw [show count + (rounds + 1) = count + 1 + rounds by omega]
      exact later

theorem firstLink_replacing :
    Replacing 1 (Run.final (ScheduleCall.exec cc1200Conf) scheduleStart firstLink) := by
  obtain ⟨free, inv⟩ := tschScheduleInit_inv tschScheduleInit_cc1200
  obtain ⟨unlocked, kept⟩ := ScheduleCall.run_inv cc1200Conf free inv firstLink_valid
  exact ⟨unlocked, kept, by decide, by decide, rfl, ⟨0, by decide, rfl, rfl⟩, Or.inr (by decide)⟩

theorem replaced_handle_clash {rounds : Nat} (wraps : UInt16.ofNat (1 + rounds) = 0) :
    ∃ calls, Run.Meets (ScheduleCall.exec cc1200Conf) (fun node call => call.PointerValid node)
      scheduleStart calls ∧
    ¬ HandlesIdentify (Run.final (ScheduleCall.exec cc1200Conf) scheduleStart calls) := by
  obtain ⟨valid, full⟩ := firstLink_replacing.run cc1200Conf rounds
  obtain ⟨next, second, secondIn, secondHandle, secondSlot⟩ := full.step cc1200Conf
  obtain ⟨first, firstIn, firstHandle, firstSlot⟩ := next.first
  refine ⟨firstLink ++ (List.replicate rounds replaceLink ++ [replaceLink]), ?_, ?_⟩
  · rw [Run.meets_append, Run.meets_append]
    refine ⟨firstLink_valid, valid, ?_, trivial⟩
    rintro sf ⟨⟩
    exact full.member
  · rw [Run.final_append, Run.final_append]
    intro identify
    have same := (handlesIdentify_iff next.unlocked next.inv).mp identify first firstIn second
      secondIn (by rw [firstHandle, secondHandle, wraps])
    rw [same, secondSlot] at firstSlot
    exact absurd firstSlot (by decide)

theorem handle_reused : ¬ ∀ (conf : TschConf) (node initial : Node) (calls : List ScheduleCall),
    tschScheduleInit node = (true, initial) →
    Run.Meets (ScheduleCall.exec conf) (fun node call => call.PointerValid node) initial calls →
    Run.Always (ScheduleCall.exec conf) HandlesIdentify initial calls := by
  intro always
  have wraps : UInt16.ofNat (1 + 65535) = 0 := by decide
  obtain ⟨calls, valid, clash⟩ := replaced_handle_clash wraps
  exact clash (Run.always_final
    (always cc1200Conf (Node.boot cc1200Conf) scheduleStart calls rfl valid))

end MultiPhyTsch
