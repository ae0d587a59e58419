import MultiPhyTsch.Csma.CsmaPools

/-! The queues of the CSMA MAC are lines of requests, one for each neighbor: every operation of the
MAC is one of the operations of such lines. -/

namespace MultiPhyTsch.Csma

open RetryLine (Entry)

variable (conf : CsmaConf)

def statusKind : MacTxStatus → RetryLine.Kind
  | .ok => .passed
  | .noack => .failed
  | .collision => .collided
  | .deferred => .broken
  | .err => .broken
  | .errFatal => .broken

def rules : RetryLine.Rules LinkAddr Request MacTxStatus where
  key := Request.addr
  limit := fun request => request.maxTransmissions.toNat
  kind := statusKind
  patience := conf.maxBackoff

structure View where
  line : List Request
  attempts : Nat
  collisions : Nat

def View.empty : View := ⟨[], 0, 0⟩

def Mac.view (mac : Mac) (n : Nat) : View :=
  ⟨(mac.queue n).map (mac.request n), (mac.neighbor n).transmissions.toNat,
    (mac.neighbor n).collisions.toNat⟩

def Mac.viewAt (mac : Mac) (addr : LinkAddr) : View :=
  ((neighborQueueFromAddr addr mac).map mac.view).getD .empty

def Mac.desk (mac : Mac) : RetryLine.Desk LinkAddr Request MacTxStatus :=
  ⟨fun addr => (mac.viewAt addr).line, fun addr => (mac.viewAt addr).attempts,
    fun addr => (mac.viewAt addr).collisions, mac.log⟩

theorem PoolsExact.viewAt_listed {mac : Mac} {borrowed : List Nat}
    (exactly : PoolsExact mac borrowed) {n : Nat} (listed : n ∈ mac.neighborList) :
    mac.viewAt (mac.neighbor n).addr = mac.view n := by
  rw [Mac.viewAt, exactly.lookup listed]
  rfl

variable {addr : LinkAddr}

theorem viewAt_absent {mac : Mac}
    (absent : ∀ n ∈ mac.neighborList, (mac.neighbor n).addr ≠ addr) : mac.viewAt addr = .empty := by
  rcases found : neighborQueueFromAddr addr mac with _ | n
  · rw [Mac.viewAt, found]
    rfl
  · obtain ⟨listed, same⟩ := neighborQueueFromAddr_some found
    exact absurd same (absent n listed)

theorem viewAt_update {mac next : Mac} {borrowed nextBorrowed : List Nat}
    (exactly : PoolsExact mac borrowed) (exactlyNext : PoolsExact next nextBorrowed) {n : Nat}
    (owner : ∀ m ∈ mac.neighborList, (mac.neighbor m).addr = addr ↔ m = n)
    (ownerNext : n ∈ next.neighborList → (next.neighbor n).addr = addr)
    (others : ∀ m, m ≠ n → (m ∈ next.neighborList ↔ m ∈ mac.neighborList))
    (same : ∀ m ∈ mac.neighborList, m ≠ n →
      (next.neighbor m).addr = (mac.neighbor m).addr ∧ next.view m = mac.view m) :
    next.viewAt = Function.update mac.viewAt addr
      (if n ∈ next.neighborList then next.view n else .empty) := by
  funext other
  by_cases own : other = addr
  · subst own
    rw [Function.update_self]
    by_cases listed : n ∈ next.neighborList
    · rw [if_pos listed, ← ownerNext listed]
      exact exactlyNext.viewAt_listed listed
    · rw [if_neg listed]
      apply viewAt_absent
      intro m inside
      have different : m ≠ n := by
        rintro rfl
        exact listed inside
      have old := (others m different).mp inside
      rw [(same m old different).1]
      exact fun equal => different ((owner m old).mp equal)
  · rw [Function.update_of_ne own]
    by_cases known : ∃ m ∈ mac.neighborList, (mac.neighbor m).addr = other
    · obtain ⟨m, listed, rfl⟩ := known
      have different : m ≠ n := by
        rintro rfl
        exact own ((owner m listed).mpr rfl)
      obtain ⟨addrSame, viewSame⟩ := same m listed different
      rw [exactly.viewAt_listed listed, ← viewSame, ← addrSame]
      exact exactlyNext.viewAt_listed ((others m different).mpr listed)
    · rw [viewAt_absent fun m listed equal => known ⟨m, listed, equal⟩]
      apply viewAt_absent
      intro m inside equal
      by_cases same' : m = n
      · subst same'
        exact own (equal.symm.trans (ownerNext inside))
      · have old := (others m same').mp inside
        rw [(same m old same').1] at equal
        exact known ⟨m, old, equal⟩

theorem desk_of_viewAt {mac next : Mac} {view : View}
    (views : next.viewAt = Function.update mac.viewAt addr view) :
    next.desk = ⟨Function.update mac.desk.line addr view.line,
      Function.update mac.desk.attempts addr view.attempts,
      Function.update mac.desk.collisions addr view.collisions, next.log⟩ := by
  have component : ∀ {α : Type} (part : View → α), (fun other => part (next.viewAt other)) =
      Function.update (fun other => part (mac.viewAt other)) addr (part view) := by
    intro α part
    rw [views]
    exact Function.comp_update part mac.viewAt addr view
  simp only [Mac.desk, component]

theorem desk_same {mac next : Mac} (views : next.viewAt = mac.viewAt) :
    next.desk = { mac.desk with log := next.log } := by
  simp only [Mac.desk, views]

def due : Entry Request MacTxStatus → Option SentCall
  | .dropped request => request.sent.map fun sent => ⟨sent, request.cptr, .err, 1⟩
  | .completed request status numTx => request.sent.map fun sent => ⟨sent, request.cptr, status, numTx⟩
  | .accepted _ => none
  | .tried _ _ => none

structure Logs (mac next : Mac) (entries : List (Entry Request MacTxStatus))
    (calls : List SentCall) : Prop where
  log : next.log = mac.log ++ entries
  calls : next.calls = mac.calls ++ calls
  requests : next.requests = mac.requests

theorem Logs.trans {mac middle next : Mac} {before after : List (Entry Request MacTxStatus)}
    {callsBefore callsAfter : List SentCall} (first : Logs mac middle before callsBefore)
    (second : Logs middle next after callsAfter) :
    Logs mac next (before ++ after) (callsBefore ++ callsAfter) :=
  ⟨by rw [second.log, first.log, List.append_assoc],
    by rw [second.calls, first.calls, List.append_assoc], second.requests.trans first.requests⟩

structure LiveExcept (mac : Mac) (n : Nat) : Prop where
  waiting : ∀ m ∈ mac.neighborList, m ≠ n → mac.queue m ≠ []
  armed : ∀ m, m ≠ n → ((mac.neighbor m).transmitTimer.isSome = true ↔ m ∈ mac.neighborList)

structure Live (mac : Mac) : Prop where
  waiting : ∀ m ∈ mac.neighborList, mac.queue m ≠ []
  armed : ∀ m, (mac.neighbor m).transmitTimer.isSome = true ↔ m ∈ mac.neighborList

theorem Live.except {mac : Mac} (live : Live mac) (n : Nat) : LiveExcept mac n :=
  ⟨fun m listed _ => live.waiting m listed, fun m _ => live.armed m⟩

theorem view_eq {mac next : Mac} {n : Nat} {line : List Nat}
    (queue : next.queue n = line) (addr : (next.neighbor n).addr = (mac.neighbor n).addr)
    (metadata : ∀ q ∈ line, next.metadata q = mac.metadata q) :
    next.view n = ⟨line.map (mac.request n), (next.neighbor n).transmissions.toNat,
      (next.neighbor n).collisions.toNat⟩ := by
  have requests : line.map (next.request n) = line.map (mac.request n) := by
    apply List.map_congr_left
    intro q inside
    rw [Mac.request, Mac.request, metadata q inside, addr]
  rw [Mac.view, queue, requests]

theorem view_congr {mac next : Mac} {n : Nat} (queue : next.queue n = mac.queue n)
    (addr : (next.neighbor n).addr = (mac.neighbor n).addr)
    (attempts : (next.neighbor n).transmissions = (mac.neighbor n).transmissions)
    (collisions : (next.neighbor n).collisions = (mac.neighbor n).collisions)
    (metadata : ∀ q ∈ mac.queue n, next.metadata q = mac.metadata q) :
    next.view n = mac.view n := by
  rw [view_eq queue addr metadata, attempts, collisions]
  rfl

theorem PoolsExact.owner {mac : Mac} {borrowed : List Nat} (exactly : PoolsExact mac borrowed)
    {n : Nat} (listed : n ∈ mac.neighborList) :
    ∀ m ∈ mac.neighborList, (mac.neighbor m).addr = (mac.neighbor n).addr ↔ m = n := by
  intro m other
  constructor
  · exact exactly.addrs m other n listed
  · rintro rfl
    rfl

@[simp] theorem writeNeighbor_same (mac : Mac) (n : Nat) (change : NeighborQueue → NeighborQueue) :
    (mac.writeNeighbor n change).neighbor n = change (mac.neighbor n) :=
  Memb.write_same _ _ _

theorem writeNeighbor_other (mac : Mac) {n m : Nat} (change : NeighborQueue → NeighborQueue)
    (different : m ≠ n) : (mac.writeNeighbor n change).neighbor m = mac.neighbor m :=
  Memb.write_other _ _ different

structure SameLines (mac next : Mac) : Prop where
  neighbors : next.neighborMemb = mac.neighborMemb
  packets : next.packetMemb = mac.packetMemb
  metadata : next.metadataMemb = mac.metadataMemb
  list : next.neighborList = mac.neighborList

namespace SameLines

variable {mac next : Mac} (same : SameLines mac next)
include same

theorem neighbor : next.neighbor = mac.neighbor := congrArg Memb.mem same.neighbors

theorem packet : next.packet = mac.packet := congrArg Memb.mem same.packets

theorem blocks : next.blocks = mac.blocks := by
  have queue : next.queue = mac.queue := by
    funext n
    rw [Mac.queue, Mac.queue, same.neighbor]
  rw [Mac.blocks, Mac.blocks, same.list, queue]

theorem metadata_eq : next.metadata = mac.metadata := by
  funext q
  rw [Mac.metadata, Mac.metadata, same.packet, same.metadata]

theorem viewAt : next.viewAt = mac.viewAt := by
  have view : next.view = mac.view := by
    funext n
    apply view_congr
    · rw [Mac.queue, Mac.queue, same.neighbor]
    · rw [same.neighbor]
    · rw [same.neighbor]
    · rw [same.neighbor]
    · intro q _
      rw [same.metadata_eq]
  funext addr
  simp only [Mac.viewAt, neighborQueueFromAddr, same.list, same.neighbor, view]

theorem live (live : Live mac) : Live next := by
  constructor
  · intro m listed
    rw [same.list] at listed
    rw [Mac.queue, same.neighbor]
    exact live.waiting m listed
  · intro m
    rw [same.neighbor, same.list]
    exact live.armed m

theorem except {n : Nat} (live : LiveExcept mac n) : LiveExcept next n := by
  constructor
  · intro m listed different
    rw [same.list] at listed
    rw [Mac.queue, same.neighbor]
    exact live.waiting m listed different
  · intro m different
    rw [same.neighbor, same.list]
    exact live.armed m different

theorem pools {borrowed others : List Nat} (exactly : PoolsExact mac borrowed)
    (bufs : next.bufmem.Exactly (mac.bufs others))
    (rams : next.buframmem.Exactly ((mac.bufs others).map next.bufmem.mem)) :
    PoolsExact next others := by
  have owned : next.bufs others = mac.bufs others := by
    rw [Mac.bufs, Mac.bufs, same.blocks, same.packet]
  refine ⟨?_, ?_, ?_, owned ▸ bufs, owned ▸ rams, ?_, ?_⟩
  · rw [same.neighbors, same.list]
    exact exactly.neighbors
  · rw [same.packets, same.blocks]
    exact exactly.packets
  · have pointers : next.metadataOf = mac.metadataOf := by
      funext q
      rw [Mac.metadataOf, Mac.metadataOf, same.packet]
    rw [same.metadata, same.blocks, pointers]
    exact exactly.metadata
  · rw [same.blocks, same.packet]
    exact exactly.pointed
  · rw [same.list, same.neighbor]
    exact exactly.addrs

end SameLines

structure SameMemory (mac next : Mac) : Prop extends SameLines mac next where
  bufs : next.bufmem = mac.bufmem
  rams : ∀ blocks, mac.buframmem.Exactly blocks → next.buframmem.Exactly blocks

theorem SameMemory.pools {mac next : Mac} {borrowed : List Nat} (same : SameMemory mac next)
    (exactly : PoolsExact mac borrowed) : PoolsExact next borrowed := by
  apply same.toSameLines.pools exactly
  · rw [same.bufs]
    exact exactly.bufs
  · rw [same.bufs]
    exact same.rams _ exactly.rams

structure Touches (mac next : Mac) (borrowed : List Nat) (n : Nat) (line : List Nat) : Prop where
  pools : PoolsExact next borrowed
  list : next.neighborList = mac.neighborList
  others : ∀ m, m ≠ n → next.neighbor m = mac.neighbor m
  addr : (next.neighbor n).addr = (mac.neighbor n).addr
  queue : next.queue n = line
  metadata : ∀ q ∈ mac.blocks, next.metadata q = mac.metadata q

structure Serves (mac next : Mac) (borrowed : List Nat) (addr : LinkAddr) (view : View) : Prop where
  pools : PoolsExact next borrowed
  live : Live next
  views : next.viewAt = Function.update mac.viewAt addr view

theorem Touches.refl {mac : Mac} {borrowed : List Nat} (exactly : PoolsExact mac borrowed) (n : Nat) :
    Touches mac mac borrowed n (mac.queue n) :=
  ⟨exactly, rfl, fun _ _ => rfl, rfl, rfl, fun _ _ => rfl⟩

namespace Touches

variable {mac next : Mac} {borrowed oldBorrowed : List Nat} {n : Nat} {line : List Nat}
  (touches : Touches mac next borrowed n line)
include touches

theorem writeNeighbor (change : NeighborQueue → NeighborQueue)
    (queue : (change (next.neighbor n)).packetQueue = (next.neighbor n).packetQueue)
    (addr : (change (next.neighbor n)).addr = (next.neighbor n).addr) :
    Touches mac (next.writeNeighbor n change) borrowed n line := by
  refine ⟨touches.pools.writeNeighbor n change queue addr, touches.list, ?_, ?_, ?_,
    touches.metadata⟩
  · intro m different
    rw [writeNeighbor_other next change different, touches.others m different]
  · rw [writeNeighbor_same, addr, touches.addr]
  · rw [Mac.queue, writeNeighbor_same, queue]
    exact touches.queue

theorem memory {other : Mac} (same : SameMemory next other) : Touches mac other borrowed n line := by
  refine ⟨same.pools touches.pools, same.list.trans touches.list, ?_, ?_, ?_, ?_⟩
  · intro m different
    rw [same.neighbor, touches.others m different]
  · rw [same.neighbor, touches.addr]
  · rw [Mac.queue, same.neighbor]
    exact touches.queue
  · intro q inside
    rw [same.metadata_eq, touches.metadata q inside]

theorem except (live : LiveExcept mac n) : LiveExcept next n := by
  constructor
  · intro m listed different
    rw [touches.list] at listed
    rw [Mac.queue, touches.others m different]
    exact live.waiting m listed different
  · intro m different
    rw [touches.others m different, touches.list]
    exact live.armed m different

theorem otherView {m : Nat} (listed : m ∈ mac.neighborList) (different : m ≠ n) :
    (next.neighbor m).addr = (mac.neighbor m).addr ∧ next.view m = mac.view m := by
  have same := touches.others m different
  refine ⟨by rw [same], view_congr ?_ (by rw [same]) (by rw [same]) (by rw [same]) ?_⟩
  · rw [Mac.queue, Mac.queue, same]
  · intro q inside
    exact touches.metadata q (List.mem_flatMap.mpr ⟨m, listed, inside⟩)

theorem views (exactly : PoolsExact mac oldBorrowed) (listed : n ∈ mac.neighborList) :
    next.viewAt = Function.update mac.viewAt (mac.neighbor n).addr (next.view n) := by
  have update := viewAt_update exactly touches.pools (exactly.owner listed) (fun _ => touches.addr)
    (fun m _ => by rw [touches.list]) (fun m other different => touches.otherView other different)
  rwa [if_pos (touches.list ▸ listed)] at update

theorem serves (exactly : PoolsExact mac oldBorrowed) (live : LiveExcept mac n)
    (listed : n ∈ mac.neighborList) (waiting : line ≠ [])
    (armed : (next.neighbor n).transmitTimer.isSome = true) :
    Serves mac next borrowed (mac.neighbor n).addr (next.view n) := by
  have listedNext : n ∈ next.neighborList := touches.list ▸ listed
  have except := touches.except live
  refine ⟨touches.pools, ⟨?_, ?_⟩, touches.views exactly listed⟩
  · intro m inside
    by_cases own : m = n
    · rw [own, touches.queue]
      exact waiting
    · exact except.waiting m inside own
  · intro m
    by_cases own : m = n
    · rw [own]
      exact iff_of_true armed listedNext
    · exact except.armed m own

theorem view (listed : n ∈ mac.neighborList) (inside : ∀ q ∈ line, q ∈ mac.queue n) :
    next.view n = ⟨line.map (mac.request n), (next.neighbor n).transmissions.toNat,
      (next.neighbor n).collisions.toNat⟩ := by
  apply view_eq touches.queue touches.addr
  intro q member
  exact touches.metadata q (List.mem_flatMap.mpr ⟨n, listed, inside q member⟩)

theorem freeNeighbor (exactly : PoolsExact mac oldBorrowed) (live : LiveExcept mac n)
    (listed : n ∈ mac.neighborList) (empty : line = [])
    (stopped : (next.neighbor n).transmitTimer = none) :
    Serves mac (freeNeighbor n next) borrowed (mac.neighbor n).addr .empty := by
  have listedNext : n ∈ next.neighborList := touches.list ▸ listed
  have pools := touches.pools.freeNeighbor listedNext (touches.queue.trans empty)
  have except := touches.except live
  have neighbor : ∀ m, (Csma.freeNeighbor n next).neighbor m = next.neighbor m := by
    intro m
    simp only [Mac.neighbor, Csma.freeNeighbor, Memb.membFree_mem]
  have list : ∀ m, m ∈ (Csma.freeNeighbor n next).neighborList ↔ m ∈ next.neighborList ∧ m ≠ n := by
    intro m
    have unique := touches.pools.neighbors.nodup
    simp only [Csma.freeNeighbor, listRemove, unique.mem_erase_iff]
    exact and_comm
  have gone : n ∉ (Csma.freeNeighbor n next).neighborList := fun inside => ((list n).mp inside).2 rfl
  refine ⟨pools, ⟨?_, ?_⟩, ?_⟩
  · intro m inside
    obtain ⟨old, different⟩ := (list m).mp inside
    rw [Mac.queue, neighbor]
    exact except.waiting m old different
  · intro m
    rw [neighbor, list]
    by_cases own : m = n
    · rw [own, stopped]
      simp
    · rw [except.armed m own]
      exact (and_iff_left own).symm
  · have update := viewAt_update exactly pools (exactly.owner listed)
      (fun inside => absurd inside gone)
      (fun m different => by rw [list, and_iff_left different, touches.list])
      (fun m other different => by
        obtain ⟨addr, same⟩ := touches.otherView other different
        rw [neighbor]
        refine ⟨addr, (view_congr ?_ ?_ ?_ ?_ ?_).trans same⟩
        · rw [Mac.queue, Mac.queue, neighbor]
        · rw [neighbor]
        · rw [neighbor]
        · rw [neighbor]
        · intro q _
          rfl)
    rwa [if_neg gone] at update

end Touches

variable {rest : List Nat}

theorem freePacket_serves {mac : Mac} {borrowed : List Nat} (exactly : PoolsExact mac borrowed)
    {n p : Nat} (live : LiveExcept mac n) (listed : n ∈ mac.neighborList)
    (head : mac.queue n = p :: rest) (random : UInt16) :
    Serves mac (freePacket conf n p random mac) borrowed (mac.neighbor n).addr
      ⟨rest.map (mac.request n), 0, 0⟩ ∧ Logs mac (freePacket conf n p random mac) [] [] := by
  obtain ⟨pools, left⟩ := exactly.dequeue listed head
  obtain ⟨queue, neighbor⟩ := left.neighbor
  unfold freePacket
  generalize dequeuePacket n p mac = middle at *
  have touches : Touches mac middle borrowed n rest :=
    ⟨pools, left.list, left.others, by rw [neighbor], left.queue, fun q _ => congrFun left.metadata q⟩
  have logs : Logs mac middle [] [] := by
    refine ⟨?_, ?_, left.requests⟩
    · rw [left.log, List.append_nil]
    · rw [left.calls, List.append_nil]
  have inside : ∀ q ∈ rest, q ∈ mac.queue n := by
    intro q member
    rw [head]
    exact List.mem_cons_of_mem p member
  have queues : (middle.neighbor n).packetQueue = rest := left.queue
  dsimp only
  rw [queues]
  by_cases more : rest ≠ []
  · rw [if_pos more, scheduleTransmission]
    have scheduled := (touches.writeNeighbor NeighborQueue.resetTx rfl rfl).writeNeighbor
      (NeighborQueue.schedule conf random) rfl rfl
    have served := scheduled.serves exactly live listed more (by simp [NeighborQueue.schedule])
    rw [scheduled.view listed inside] at served
    refine ⟨?_, logs.log, logs.calls, logs.requests⟩
    simpa [NeighborQueue.schedule, NeighborQueue.resetTx] using served
  · rw [if_neg more]
    have empty : rest = [] := not_not.mp more
    have stopped := touches.writeNeighbor NeighborQueue.stopTimer rfl rfl
    refine ⟨?_, logs.log, logs.calls, logs.requests⟩
    rw [empty]
    exact stopped.freeNeighbor exactly live listed empty (by simp [NeighborQueue.stopTimer])

theorem macCallSentCallback_frame (sent : Option Nat) (ptr : Nat) (status : MacTxStatus)
    (numTx : Nat) (mac : Mac) :
    macCallSentCallback sent ptr status numTx mac = { mac with
      calls := mac.calls ++ (sent.map fun sent => ⟨sent, ptr, status, numTx⟩).toList } := by
  rcases sent with _ | sent
  · simp [macCallSentCallback]
  · rfl

section

variable {mac middle next : Mac} {borrowed : List Nat} {n q : Nat}
  (touches : Touches mac middle borrowed n (q :: rest)) (exactly : PoolsExact mac borrowed)
  (live : LiveExcept mac n) (listed : n ∈ mac.neighborList) (head : mac.queue n = q :: rest)
  (status : MacTxStatus) (random : UInt16)
include touches exactly live listed head

theorem Touches.txDone (nextEq : next = txDone conf status q n random middle) :
    Serves mac next borrowed (mac.neighbor n).addr ⟨rest.map (mac.request n), 0, 0⟩ ∧
      Logs middle next
        [.completed (mac.request n q) status (middle.neighbor n).transmissions.toNat]
        ((mac.request n q).sent.map fun sent => ⟨sent, (mac.request n q).cptr, status,
          (middle.neighbor n).transmissions.toNat⟩).toList := by
  have inside : ∀ p ∈ q :: rest, p ∈ mac.queue n := by
    intro p member
    rw [head]
    exact member
  have request : ∀ p ∈ q :: rest, middle.request n p = mac.request n p := by
    intro p member
    rw [Mac.request, Mac.request, touches.addr,
      touches.metadata p (List.mem_flatMap.mpr ⟨n, listed, inside p member⟩)]
  have first := request q List.mem_cons_self
  have tail : rest.map (middle.request n) = rest.map (mac.request n) :=
    List.map_congr_left fun p member => request p (List.mem_cons_of_mem q member)
  have middleListed : n ∈ middle.neighborList := touches.list ▸ listed
  have logged : SameMemory middle { middle with
      log := middle.log ++ [.completed (middle.request n q) status
        (middle.neighbor n).transmissions.toNat] } := ⟨⟨rfl, rfl, rfl, rfl⟩, rfl, fun _ kept => kept⟩
  obtain ⟨served, logs⟩ := freePacket_serves conf (logged.pools touches.pools)
    (logged.except (touches.except live)) middleListed touches.queue random
  simp only [Csma.txDone, macCallSentCallback_frame] at nextEq
  generalize freePacket conf n q random _ = freed at served logs nextEq
  subst nextEq
  have called : SameMemory freed { freed with
      calls := freed.calls ++ ((middle.metadata q).sent.map fun sent =>
        ⟨sent, (middle.metadata q).cptr, status, (middle.neighbor n).transmissions.toNat⟩).toList } :=
    ⟨⟨rfl, rfl, rfl, rfl⟩, rfl, fun _ kept => kept⟩
  refine ⟨⟨called.pools served.pools, called.live served.live, ?_⟩, ?_, ?_, logs.requests⟩
  · have views := served.views
    rw [logged.viewAt, logged.neighbor, touches.views exactly listed, touches.addr,
      Function.update_idem] at views
    rw [called.viewAt, views, ← tail]
    rfl
  · rw [← first]
    exact logs.log.trans (List.append_nil _)
  · have calls : freed.calls = middle.calls := logs.calls.trans (List.append_nil _)
    dsimp only
    rw [calls, ← first]
    rfl

theorem Touches.rexmit (nextEq : next = rexmit conf q n random middle) :
    Serves mac next borrowed (mac.neighbor n).addr ⟨(q :: rest).map (mac.request n),
      (middle.neighbor n).transmissions.toNat, (middle.neighbor n).collisions.toNat⟩ ∧
      Logs middle next [] [] := by
  have scheduled := touches.writeNeighbor (NeighborQueue.schedule conf random) rfl rfl
  have copied : SameMemory (middle.writeNeighbor n (NeighborQueue.schedule conf random)) next := by
    subst nextEq
    refine ⟨⟨rfl, rfl, rfl, rfl⟩, rfl, fun blocks kept => ?_⟩
    simp only [Csma.rexmit, queuebufUpdateAttrFromPacketbuf, scheduleTransmission]
    exact kept.write _ _
  have logs : Logs middle next [] [] := by
    subst nextEq
    exact ⟨(List.append_nil _).symm, (List.append_nil _).symm, rfl⟩
  have inside : ∀ p ∈ q :: rest, p ∈ mac.queue n := by
    intro p member
    rw [head]
    exact member
  have final := scheduled.memory copied
  have neighbor : next.neighbor n = NeighborQueue.schedule conf random (middle.neighbor n) := by
    rw [copied.neighbor, writeNeighbor_same]
  have served := final.serves exactly live listed (List.cons_ne_nil q rest)
    (by simp [neighbor, NeighborQueue.schedule])
  rw [final.view listed inside, neighbor] at served
  exact ⟨served, logs⟩

theorem Touches.retryOrDone (nextEq : next = retryOrDone conf status q n random middle) :
    if (mac.request n q).maxTransmissions.toNat ≤ (middle.neighbor n).transmissions.toNat then
      Serves mac next borrowed (mac.neighbor n).addr ⟨rest.map (mac.request n), 0, 0⟩ ∧
        Logs middle next
          [.completed (mac.request n q) status (middle.neighbor n).transmissions.toNat]
          ((mac.request n q).sent.map fun sent => ⟨sent, (mac.request n q).cptr, status,
            (middle.neighbor n).transmissions.toNat⟩).toList
    else
      Serves mac next borrowed (mac.neighbor n).addr ⟨(q :: rest).map (mac.request n),
        (middle.neighbor n).transmissions.toNat, (middle.neighbor n).collisions.toNat⟩ ∧
        Logs middle next [] [] := by
  have metadata : middle.metadata q = mac.metadata q := by
    apply touches.metadata
    exact List.mem_flatMap.mpr ⟨n, listed, head ▸ List.mem_cons_self⟩
  have reached : (middle.neighbor n).transmissions ≥ (middle.metadata q).maxTransmissions ↔
      (mac.request n q).maxTransmissions.toNat ≤ (middle.neighbor n).transmissions.toNat := by
    rw [metadata]
    exact UInt8.le_iff_toNat_le
  unfold Csma.retryOrDone at nextEq
  split
  · rename_i limit
    rw [if_pos (reached.mpr limit)] at nextEq
    exact touches.txDone conf exactly live listed head status random nextEq
  · rename_i below
    rw [if_neg (fun limit => below (reached.mp limit))] at nextEq
    exact touches.rexmit conf exactly live listed head random nextEq

end

structure Head (mac : Mac) (n q : Nat) (rest : List Nat) : Prop where
  listed : n ∈ mac.neighborList
  queue : mac.queue n = q :: rest
  below : (mac.neighbor n).transmissions.toNat < (mac.request n q).maxTransmissions.toNat
  patient : (mac.neighbor n).collisions.toNat ≤ conf.maxBackoff

structure Delivers (mac next : Mac) (borrowed : List Nat) (addr : LinkAddr) (status : MacTxStatus) :
    Prop where
  pools : PoolsExact next borrowed
  live : Live next
  desk : next.desk = mac.desk.serve (rules conf) addr status
  logs : ∃ entries, Logs mac next entries (entries.filterMap due)

theorem desk_line {mac : Mac} {borrowed : List Nat} (exactly : PoolsExact mac borrowed) {n : Nat}
    (listed : n ∈ mac.neighborList) :
    mac.desk.line (mac.neighbor n).addr = (mac.queue n).map (mac.request n) ∧
      mac.desk.attempts (mac.neighbor n).addr = (mac.neighbor n).transmissions.toNat ∧
      mac.desk.collisions (mac.neighbor n).addr = (mac.neighbor n).collisions.toNat := by
  simp only [Mac.desk, exactly.viewAt_listed listed]
  exact ⟨rfl, rfl, rfl⟩

variable {status : MacTxStatus}

section

variable {mac next : Mac} {borrowed : List Nat} (exactly : PoolsExact mac borrowed) {n q : Nat}
  (head : Head conf mac n q rest) {attempts collisions : Nat}
include exactly head

theorem Serves.finish
    (served : Serves mac next borrowed (mac.neighbor n).addr ⟨rest.map (mac.request n), 0, 0⟩)
    (counted : attempts = RetryLine.countAttempts (rules conf) status
      (mac.neighbor n).transmissions.toNat (mac.neighbor n).collisions.toNat)
    (ends : RetryLine.Finishes (rules conf) (mac.request n q) status attempts) (logs : Logs mac next
      [.tried (mac.request n q) status, .completed (mac.request n q) status attempts]
      ((mac.request n q).sent.map fun sent =>
        ⟨sent, (mac.request n q).cptr, status, attempts⟩).toList) :
    Delivers conf mac next borrowed (mac.neighbor n).addr status := by
  obtain ⟨line, tries, collided⟩ := desk_line exactly head.listed
  rw [head.queue, List.map_cons] at line
  refine ⟨served.pools, served.live, ?_,
    [.tried (mac.request n q) status, .completed (mac.request n q) status attempts], ?_⟩
  · rw [desk_of_viewAt served.views, logs.log]
    simp only [RetryLine.Desk.serve, line, tries, collided, ← counted, if_pos ends]
    rfl
  · refine ⟨logs.log, ?_, logs.requests⟩
    rw [logs.calls]
    rcases sent : (mac.request n q).sent with _ | callback
    · simp [List.filterMap_cons, due, sent]
    · simp [List.filterMap_cons, due, sent]

theorem Serves.again
    (served : Serves mac next borrowed (mac.neighbor n).addr
      ⟨(q :: rest).map (mac.request n), attempts, collisions⟩)
    (counted : attempts = RetryLine.countAttempts (rules conf) status
      (mac.neighbor n).transmissions.toNat (mac.neighbor n).collisions.toNat)
    (countedToo : collisions = RetryLine.countCollisions (rules conf) status
      (mac.neighbor n).collisions.toNat)
    (again : ¬ RetryLine.Finishes (rules conf) (mac.request n q) status attempts)
    (logs : Logs mac next [.tried (mac.request n q) status] []) :
    Delivers conf mac next borrowed (mac.neighbor n).addr status := by
  obtain ⟨line, tries, collided⟩ := desk_line exactly head.listed
  rw [head.queue] at line
  refine ⟨served.pools, served.live, ?_, _, logs⟩
  rw [desk_of_viewAt served.views, logs.log]
  have kept : Function.update mac.desk.line (mac.neighbor n).addr ((q :: rest).map (mac.request n)) =
      mac.desk.line := by
    rw [← line]
    exact Function.update_eq_self _ _
  rw [List.map_cons] at line
  simp only [RetryLine.Desk.serve, line, tries, collided, ← counted, ← countedToo, if_neg again, kept]
  rfl

end

theorem sendStatus_ne_deferred (radio : RadioAnswers) (isBroadcast : Bool) :
    sendStatus radio isBroadcast ≠ .deferred := by
  unfold sendStatus
  repeat' split
  all_goals exact fun equal => MacTxStatus.noConfusion equal

theorem countTransmission_counts {mac : Mac} {n q : Nat} (head : Head conf mac n q rest) :
    (countTransmission 1 (mac.neighbor n)).transmissions.toNat =
        (mac.neighbor n).transmissions.toNat + 1 ∧
      (countTransmission 1 (mac.neighbor n)).collisions.toNat = 0 := by
  have below := head.below
  have limit := (mac.request n q).maxTransmissions.toNat_lt
  refine ⟨?_, rfl⟩
  simp only [countTransmission, UInt8.toNat_add, UInt8.toNat_one]
  omega

theorem countCollision_counts {mac : Mac} {n q : Nat} (head : Head conf mac n q rest) :
    (countCollision conf 1 (mac.neighbor n)).transmissions.toNat =
        RetryLine.countAttempts (rules conf) .collision (mac.neighbor n).transmissions.toNat
          (mac.neighbor n).collisions.toNat ∧
      (countCollision conf 1 (mac.neighbor n)).collisions.toNat =
        RetryLine.countCollisions (rules conf) .collision (mac.neighbor n).collisions.toNat := by
  have below := head.below
  have patient := head.patient
  have narrow := conf.maxBackoff_lt
  have limit := (mac.request n q).maxTransmissions.toNat_lt
  have sum : ((mac.neighbor n).collisions + 1).toNat = (mac.neighbor n).collisions.toNat + 1 := by
    rw [UInt8.toNat_add, UInt8.toNat_one]
    omega
  have next : ((mac.neighbor n).transmissions + 1).toNat =
      (mac.neighbor n).transmissions.toNat + 1 := by
    rw [UInt8.toNat_add, UInt8.toNat_one]
    omega
  simp only [RetryLine.countAttempts, RetryLine.countCollisions, rules, statusKind, countCollision,
    sum, gt_iff_lt]
  by_cases full : conf.maxBackoff < (mac.neighbor n).collisions.toNat + 1
  · rw [if_pos full]
    exact ⟨next.trans (if_pos full).symm, (if_pos full).symm⟩
  · rw [if_neg full]
    exact ⟨(if_neg full).symm, sum.trans (if_neg full).symm⟩

theorem Touches.packetSent {mac middle : Mac} {borrowed : List Nat} {n q : Nat}
    (exactly : PoolsExact mac borrowed) (live : LiveExcept mac n) (head : Head conf mac n q rest)
    (touches : Touches mac middle borrowed n (q :: rest))
    (same : middle.neighbor n = mac.neighbor n) (logs : Logs mac middle [] [])
    (found : (middle.queuebuf (middle.packet q).buf).macSeqno = middle.packetbuf.macSeqno)
    (pointed : (middle.packet q).ptr ≠ none) (sent : status ≠ .deferred)
    (random : UInt16) {next : Mac} (nextEq : next = packetSent conf n status 1 random middle) :
    Delivers conf mac next borrowed (mac.neighbor n).addr status := by
  have queue : (middle.neighbor n).packetQueue = q :: rest := touches.queue
  have request : middle.request n q = mac.request n q := by
    have metadata : middle.metadata q = mac.metadata q := by
      apply touches.metadata
      exact List.mem_flatMap.mpr ⟨n, head.listed, head.queue ▸ List.mem_cons_self⟩
    rw [Mac.request, Mac.request, metadata, same]
  simp only [Csma.packetSent, queue, List.find?_cons, found, decide_true, pointed, if_false] at nextEq
  rw [request] at nextEq
  have logged : SameMemory middle { middle with
      log := middle.log ++ [.tried (mac.request n q) status] } :=
    ⟨⟨rfl, rfl, rfl, rfl⟩, rfl, fun _ kept => kept⟩
  have tried := touches.memory logged
  have logsTried : Logs mac { middle with log := middle.log ++ [.tried (mac.request n q) status] }
      [.tried (mac.request n q) status] [] := by
    refine ⟨?_, logs.calls, logs.requests⟩
    dsimp only
    rw [logs.log, List.append_nil]
  have neighbor : ({ middle with log := middle.log ++ [.tried (mac.request n q) status] } : Mac).neighbor n =
      mac.neighbor n := same
  generalize ({ middle with log := middle.log ++ [.tried (mac.request n q) status] } : Mac) = start
    at nextEq tried logsTried neighbor
  have counting : ∀ change : NeighborQueue → NeighborQueue,
      Logs mac (start.writeNeighbor n change) [.tried (mac.request n q) status] [] :=
    fun _ => ⟨logsTried.log, logsTried.calls, logsTried.requests⟩
  cases status with
  | ok =>
    obtain ⟨attempts, -⟩ := countTransmission_counts conf head
    have counted := tried.writeNeighbor (countTransmission 1) rfl rfl
    obtain ⟨served, more⟩ := counted.txDone conf exactly live head.listed head.queue .ok random nextEq
    rw [writeNeighbor_same, neighbor, attempts] at more
    exact served.finish conf exactly head rfl trivial ((counting _).trans more)
  | noack =>
    obtain ⟨attempts, collisions⟩ := countTransmission_counts conf head
    have counted := tried.writeNeighbor (countTransmission 1) rfl rfl
    have outcome := counted.retryOrDone conf exactly live head.listed head.queue .noack random nextEq
    rw [writeNeighbor_same, neighbor, attempts, collisions] at outcome
    split at outcome
    · rename_i limit
      exact outcome.1.finish conf exactly head rfl limit ((counting _).trans outcome.2)
    · rename_i below
      exact outcome.1.again conf exactly head rfl rfl below ((counting _).trans outcome.2)
  | collision =>
    obtain ⟨attempts, collisions⟩ := countCollision_counts conf head
    have kept : (countCollision conf 1 (start.neighbor n)).packetQueue =
        (start.neighbor n).packetQueue ∧
        (countCollision conf 1 (start.neighbor n)).addr = (start.neighbor n).addr := by
      unfold countCollision
      split
      · exact ⟨rfl, rfl⟩
      · exact ⟨rfl, rfl⟩
    have counted := tried.writeNeighbor (countCollision conf 1) kept.1 kept.2
    have outcome :=
      counted.retryOrDone conf exactly live head.listed head.queue .collision random nextEq
    rw [writeNeighbor_same, neighbor, attempts, collisions] at outcome
    split at outcome
    · rename_i limit
      exact outcome.1.finish conf exactly head rfl limit ((counting _).trans outcome.2)
    · rename_i below
      exact outcome.1.again conf exactly head rfl rfl below ((counting _).trans outcome.2)
  | deferred => exact absurd rfl sent
  | err =>
    obtain ⟨served, more⟩ := tried.txDone conf exactly live head.listed head.queue .err random nextEq
    rw [neighbor] at more
    exact served.finish conf exactly head rfl trivial (logsTried.trans more)
  | errFatal =>
    obtain ⟨served, more⟩ :=
      tried.txDone conf exactly live head.listed head.queue .errFatal random nextEq
    rw [neighbor] at more
    exact served.finish conf exactly head rfl trivial (logsTried.trans more)

section

variable {mac : Mac} {borrowed : List Nat} (exactly : PoolsExact mac borrowed) (live : Live mac)
  (ledger : RetryLine.Ledger (rules conf) mac.desk) {n : Nat}
include exactly live ledger

theorem Live.head (listed : n ∈ mac.neighborList) : ∃ q rest, Head conf mac n q rest := by
  rcases queue : mac.queue n with _ | ⟨q, rest⟩
  · exact absurd queue (live.waiting n listed)
  · obtain ⟨line, tries, collided⟩ := desk_line exactly listed
    rw [queue, List.map_cons] at line
    have trying := ledger.trying _ _ _ line
    rw [tries, collided] at trying
    exact ⟨q, rest, listed, queue, trying.below, trying.patient⟩

theorem expireTimer_delivers (armed : (mac.neighbor n).transmitTimer.isSome = true)
    (radio : RadioAnswers) (random : UInt16) :
    ∃ status, Delivers conf mac (expireTimer conf n radio random mac) borrowed
      (mac.neighbor n).addr status := by
  have listed := (live.armed n).mp armed
  obtain ⟨q, rest, head⟩ := Live.head conf exactly live ledger listed
  have stopped := (Touches.refl exactly n).writeNeighbor NeighborQueue.stopTimer rfl rfl
  have view : (mac.writeNeighbor n NeighborQueue.stopTimer).view n = mac.view n := by
    rw [stopped.view listed fun _ inside => inside, writeNeighbor_same]
    rfl
  have same : (mac.writeNeighbor n NeighborQueue.stopTimer).viewAt = mac.viewAt := by
    rw [stopped.views exactly listed, view, ← exactly.viewAt_listed listed]
    exact Function.update_eq_self _ _
  have except := stopped.except (live.except n)
  have first : Head conf (mac.writeNeighbor n NeighborQueue.stopTimer) n q rest := by
    have neighbor := writeNeighbor_same mac n NeighborQueue.stopTimer
    refine ⟨listed, ?_, ?_, ?_⟩
    · rw [Mac.queue, neighbor]
      exact head.queue
    · rw [Mac.request, neighbor]
      exact head.below
    · rw [neighbor]
      exact head.patient
  have addr : ((mac.writeNeighbor n NeighborQueue.stopTimer).neighbor n).addr =
      (mac.neighbor n).addr := stopped.addr
  have logs : Logs mac (mac.writeNeighbor n NeighborQueue.stopTimer) [] [] :=
    ⟨(List.append_nil _).symm, (List.append_nil _).symm, rfl⟩
  have exactlyStopped := stopped.pools
  rw [expireTimer, if_pos armed]
  generalize mac.writeNeighbor n NeighborQueue.stopTimer = start at *
  have queue : (start.neighbor n).packetQueue = q :: rest := first.queue
  simp only [transmitFromQueue, queue, sendOnePacket]
  have loaded : SameMemory start { queuebufToPacketbuf (start.packet q).buf start with
      packetbuf := { (queuebufToPacketbuf (start.packet q).buf start).packetbuf with
        sender := conf.linkaddrNodeAddr, macAck := 1 } } :=
    ⟨⟨rfl, rfl, rfl, rfl⟩, rfl, fun _ kept => kept⟩
  have touches := (Touches.refl exactlyStopped n).memory loaded
  rw [first.queue] at touches
  have pointed : (start.packet q).ptr ≠ none := by
    have set := exactlyStopped.pointed q
      (List.mem_flatMap.mpr ⟨n, first.listed, first.queue ▸ List.mem_cons_self⟩)
    intro missing
    rw [missing] at set
    cases set
  have delivered := touches.packetSent conf exactlyStopped except first rfl
    ⟨(List.append_nil _).symm, (List.append_nil _).symm, rfl⟩ rfl pointed
    (sendStatus_ne_deferred radio (packetbufHoldsBroadcast (start.queuebuf (start.packet q).buf)))
    random rfl
  rw [addr] at delivered
  obtain ⟨entries, more⟩ := delivered.logs
  have desk : start.desk = mac.desk := by
    rw [desk_same same, logs.log, List.append_nil]
    rfl
  exact ⟨_, delivered.pools, delivered.live, desk ▸ delivered.desk, entries, logs.trans more⟩

end

end MultiPhyTsch.Csma
