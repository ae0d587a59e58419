import MultiPhyTsch.Tsch.Queue

/-! The schedule manager of `tsch-schedule.c`. The functions take and return pointers to
blocks of the link and slotframe pools; `while` loops that empty a list run at most once
per element the list has at the start, and `ScheduleInvariant` shows that this many
rounds do empty it. -/

namespace MultiPhyTsch

variable (conf : TschConf)

def tschScheduleGetSlotframeByHandle (handle : UInt16) (node : Node) : Option Nat :=
  if !tschIsLocked node then
    node.sched.slotframeList.find? fun sf => (node.slotframe sf).handle = handle
  else none

def tschScheduleAddSlotframe (handle size : UInt16) (node : Node) : Option Nat × Node :=
  if size = 0 then (none, node)
  else if (tschScheduleGetSlotframeByHandle handle node).isSome then (none, node)
  else
    match tschGetLock node with
    | (true, node) =>
      match node.sched.slotframeMemb.membAlloc with
      | (some sf, memb) =>
        -- `cc1200_config` keeps what the block held before
        (some sf, tschReleaseLock { node with sched := { node.sched with
          slotframeMemb := memb.write sf fun block =>
            { block with
              handle := handle, radio := none, tschTiming := none
              size := tschAsnDivisorInit size, linksList := [] }
          slotframeList := listAdd node.sched.slotframeList sf } })
      | (none, _) => (none, tschReleaseLock node)
    | (false, node) => (none, node)

def tschScheduleGetLinkByHandle (handle : UInt16) (node : Node) : Option Nat :=
  if !tschIsLocked node then
    node.sched.slotframeList.findSome? fun sf =>
      (node.slotframe sf).linksList.find? fun l => (node.link l).handle = handle
  else none

def tschScheduleGetLinkByTimeslot (slotframe : Option Nat) (timeslot : UInt16) (node : Node) :
    Option Nat :=
  if !tschIsLocked node then
    slotframe.bind fun sf =>
      (node.slotframe sf).linksList.find? fun l => (node.link l).timeslot = timeslot
  else none

def updateLinkCounters (addr : LinkAddr) (linkOptions : UInt8) (change : UInt8 → UInt8)
    (node : Node) : Node :=
  if linkOptions &&& linkOptionTx != 0 then
    match tschQueueAddNbr conf addr node with
    | (some n, node) =>
      node.writeNeighbor n fun nbr =>
        { nbr with
          txLinksCount := change nbr.txLinksCount
          dedicatedTxLinksCount :=
            if linkOptions &&& linkOptionShared != 0 then nbr.dedicatedTxLinksCount
            else change nbr.dedicatedTxLinksCount }
    | (none, node) => node
  else node

theorem updateLinkCounters_frame (addr : LinkAddr) (linkOptions : UInt8) (change : UInt8 → UInt8)
    (node : Node) (free : node.lock.tschLocked = false) :
    ∃ queue requested, updateLinkCounters conf addr linkOptions change node = { node with
      queue := queue, lock := { node.lock with tschLockRequested := requested } } := by
  obtain ⟨queue, requested, added⟩ := tschQueueAddNbr_frame conf addr free
  simp only [updateLinkCounters]
  split
  · rcases result : tschQueueAddNbr conf addr node with ⟨_ | n, after⟩
    · rw [result] at added
      exact ⟨queue, requested, added⟩
    · rw [result] at added
      subst added
      exact ⟨_, requested, rfl⟩
  · exact ⟨node.queue, node.lock.tschLockRequested, rfl⟩

theorem updateLinkCounters_sched (addr : LinkAddr) (linkOptions : UInt8) (change : UInt8 → UInt8)
    {node : Node} (free : node.lock.tschLocked = false) :
    (updateLinkCounters conf addr linkOptions change node).sched = node.sched := by
  obtain ⟨_, _, eq⟩ := updateLinkCounters_frame conf addr linkOptions change node free
  rw [eq]

def removeLinkLocked (sf l : Nat) (node : Node) : Node :=
  { node with
    slot := if node.slot.currentLink = some l then { node.slot with currentLink := none }
      else node.slot
    sched := { node.sched with
      slotframeMemb := node.sched.slotframeMemb.write sf fun block =>
        { block with linksList := listRemove block.linksList l }
      linkMemb := node.sched.linkMemb.membFree l } }

def tschScheduleRemoveLink (slotframe link : Option Nat) (node : Node) : Bool × Node :=
  match slotframe, link with
  | some sf, some l =>
    if (node.link l).slotframeHandle = (node.slotframe sf).handle then
      match tschGetLock node with
      | (true, node) =>
        let linkOptions := (node.link l).linkOptions
        let addr := (node.link l).addr
        (true, updateLinkCounters conf addr linkOptions (· - 1)
          (tschReleaseLock (removeLinkLocked sf l node)))
      | (false, node) => (false, node)
    else (false, node)
  | _, _ => (false, node)

def tschScheduleRemoveLinkByTimeslot (slotframe : Option Nat) (timeslot : UInt16) (node : Node) :
    Bool × Node :=
  if slotframe.isSome then
    tschScheduleRemoveLink conf slotframe (tschScheduleGetLinkByTimeslot slotframe timeslot node) node
  else (false, node)

def addLinkLocked (sf l : Nat) (memb : Memb TschLink) (linkOptions : UInt8) (linkType : LinkType)
    (addr : LinkAddr) (timeslot channelOffset : UInt16) (node : Node) : Node :=
  { node with sched := { node.sched with
    slotframeMemb := node.sched.slotframeMemb.write sf fun block =>
      { block with linksList := listAdd block.linksList l }
    linkMemb := memb.write l fun _ =>
      { handle := UInt16.ofNat node.sched.currentLinkHandle
        addr := addr
        slotframeHandle := (node.slotframe sf).handle
        timeslot := timeslot
        channelOffset := channelOffset
        linkOptions := linkOptions
        linkType := linkType }
    currentLinkHandle := node.sched.currentLinkHandle + 1 } }

def tschScheduleAddLink (slotframe : Option Nat) (linkOptions : UInt8) (linkType : LinkType)
    (address : Option LinkAddr) (timeslot channelOffset : UInt16) (node : Node) :
    Option Nat × Node :=
  match slotframe with
  | none => (none, node)
  | some sf =>
    -- both comparisons are made in `int`
    if (timeslot.toNat : Int) > ((node.slotframe sf).size.val.toNat : Int) - 1 then (none, node)
    else if channelOffset > 15 then (none, node)
    else
      let node := (tschScheduleRemoveLinkByTimeslot conf (some sf) timeslot node).2
      match tschGetLock node with
      | (false, node) => (none, node)
      | (true, node) =>
        match node.sched.linkMemb.membAlloc with
        | (none, _) => (none, tschReleaseLock node)
        | (some l, memb) =>
          let addr := address.getD linkaddrNull
          (some l, updateLinkCounters conf addr linkOptions (· + 1)
            (tschReleaseLock (addLinkLocked sf l memb linkOptions linkType addr
              timeslot channelOffset node)))

def removeLinksFrom : Nat → Nat → Node → Node
  | 0, _, node => node
  | fuel + 1, sf, node =>
    match (node.slotframe sf).linksList.head? with
    | some l => removeLinksFrom fuel sf (tschScheduleRemoveLink conf (some sf) (some l) node).2
    | none => node

def tschScheduleRemoveSlotframe (slotframe : Option Nat) (node : Node) : Bool × Node :=
  match slotframe with
  | some sf =>
    match tschGetLock (removeLinksFrom conf (node.slotframe sf).linksList.length sf node) with
    | (true, node) =>
      (true, tschReleaseLock { node with sched := { node.sched with
        slotframeMemb := node.sched.slotframeMemb.membFree sf
        slotframeList := listRemove node.sched.slotframeList sf } })
    | (false, node) => (false, node)
  | none => (false, node)

def removeSlotframesFrom : Nat → Node → Bool × Node
  | 0, node => (true, node)
  | fuel + 1, node =>
    match node.sched.slotframeList.head? with
    | some sf =>
      match tschScheduleRemoveSlotframe conf (some sf) node with
      | (true, node) => removeSlotframesFrom fuel node
      | (false, node) => (false, node)
    | none => (true, node)

def tschScheduleRemoveAllSlotframes (node : Node) : Bool × Node :=
  removeSlotframesFrom conf node.sched.slotframeList.length node

def tschScheduleInit (node : Node) : Bool × Node :=
  match tschGetLock node with
  | (true, node) =>
    (true, tschReleaseLock { node with sched := { node.sched with
      linkMemb := node.sched.linkMemb.membInit
      slotframeMemb := node.sched.slotframeMemb.membInit
      slotframeList := [] } })
  | (false, node) => (false, node)

def tschScheduleCreateMinimal (node : Node) : Node :=
  let node := (tschScheduleRemoveAllSlotframes conf node).2
  let (sfMin, node) := tschScheduleAddSlotframe 0 conf.scheduleDefaultLength node
  let node := (tschScheduleAddLink conf sfMin
    (linkOptionRx ||| linkOptionTx ||| linkOptionShared ||| linkOptionTimeKeeping)
    .advertising (some tschBroadcastAddress) 0 0 node).2
  match sfMin with
  | some sf => node.writeSlotframe sf fun block =>
    { block with cc1200Config := some conf.cc1200ConfRfCfg }
  -- the code writes through NULL here
  | none => node

structure ActiveScan where
  timeToCurrBest : UInt16 := 0
  currBest : Option Nat := none
  currBackup : Option Nat := none
deriving DecidableEq, Repr

/-- `time_to_timeslot` for a link at `linkTimeslot` when the slotframe is at `timeslot`. -/
def timeToTimeslot (size timeslot linkTimeslot : UInt16) : UInt16 :=
  if linkTimeslot > timeslot then linkTimeslot - timeslot
  else size + linkTimeslot - timeslot

def considerLink (links : Nat → TschLink) (time : UInt16) (l : Nat) (scan : ActiveScan) :
    ActiveScan :=
  match scan.currBest with
  | none => { timeToCurrBest := time, currBest := some l, currBackup := none }
  | some best =>
    if time < scan.timeToCurrBest then
      { timeToCurrBest := time, currBest := some l, currBackup := none }
    else if time = scan.timeToCurrBest then
      let newBest :=
        if (links best).linkOptions &&& linkOptionTx = (links l).linkOptions &&& linkOptionTx then
          if (links l).slotframeHandle < (links best).slotframeHandle then some l else none
        else if (links l).has linkOptionTx then some l else none
      let currBackup :=
        if scan.currBackup = none then
          let backup := if newBest ≠ some l ∧ (links l).has linkOptionRx then some l else none
          if newBest ≠ some best ∧ (links best).has linkOptionRx then some best else backup
        else scan.currBackup
      { scan with currBest := newBest.or (some best), currBackup := currBackup }
    else scan

def scanSlotframe (asn : TschAsn) (node : Node) (scan : ActiveScan) (sf : Nat) : ActiveScan :=
  let timeslot := tschAsnMod asn (node.slotframe sf).size
  (node.slotframe sf).linksList.foldl (fun scan l =>
    considerLink node.link
      (timeToTimeslot (node.slotframe sf).size.val timeslot (node.link l).timeslot) l scan) scan

/-- `tsch_schedule_get_next_active_link`: the link, the value stored in `*time_offset`
(`none` where nothing is stored) and the backup link. -/
def tschScheduleGetNextActiveLink (asn : TschAsn) (node : Node) :
    Option Nat × Option UInt16 × Option Nat :=
  if !tschIsLocked node then
    let scan := node.sched.slotframeList.foldl (scanSlotframe asn node) {}
    (scan.currBest, some scan.timeToCurrBest, scan.currBackup)
  else (none, none, none)

end MultiPhyTsch
