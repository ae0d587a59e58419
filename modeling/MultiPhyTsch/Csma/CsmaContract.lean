import MultiPhyTsch.Csma.CsmaDelivery

/-! Requests to the CSMA MAC, and what holds after any run of requests, expired timers and other
users of the packet copies. -/

namespace MultiPhyTsch.Csma

open RetryLine (Entry)

variable (conf : CsmaConf)

structure NeighborReady (mac next : Mac) (borrowed : List Nat) (addr : LinkAddr) (n : Nat) :
    Prop where
  pools : PoolsExact next borrowed
  listed : n ∈ next.neighborList
  addr : (next.neighbor n).addr = addr
  views : next.viewAt = mac.viewAt
  logs : Logs mac next [] []
  packetbuf : next.packetbuf = mac.packetbuf
  known : next = mac ∨ (next.queue n = [] ∧ next.view n = .empty ∧
    (next.neighbor n).transmitTimer = none ∧ LiveExcept next n ∧
    SameCounts mac (freeNeighbor n next))

variable {mac : Mac} {borrowed : List Nat} {addr : LinkAddr}

theorem newNeighbor_ready (exactly : PoolsExact mac borrowed)
    (live : Live mac) {n : Nat} {memb : Memb NeighborQueue}
    (unknown : ∀ m ∈ mac.neighborList, (mac.neighbor m).addr ≠ addr)
    (fresh : n ∉ mac.neighborList) (taken : memb.Exactly (n :: mac.neighborList))
    (mem : memb.mem = mac.neighborMemb.mem) (count : (memb.membFree n).count = mac.neighborMemb.count) :
    NeighborReady mac { mac with
      neighborMemb := memb.write n (NeighborQueue.init addr)
      neighborList := mac.neighborList ++ [n] } borrowed addr n := by
  generalize nextEq : ({ mac with
    neighborMemb := memb.write n (NeighborQueue.init addr)
    neighborList := mac.neighborList ++ [n] } : Mac) = next
  have own : next.neighbor n = (mac.neighbor n).init addr := by
    rw [← nextEq, Mac.neighbor, Memb.write_same, mem]
    rfl
  have others : ∀ m, m ≠ n → next.neighbor m = mac.neighbor m := by
    intro m different
    rw [← nextEq, Mac.neighbor, Memb.write_other _ _ different, mem]
    rfl
  have apart : ∀ m ∈ mac.neighborList, m ≠ n := by
    rintro m listed rfl
    exact fresh listed
  have list : next.neighborList = mac.neighborList ++ [n] := by rw [← nextEq]
  have empty : next.queue n = [] := by
    rw [Mac.queue, own]
    rfl
  have blocks : next.blocks = mac.blocks := by
    rw [Mac.blocks, list, List.flatMap_append, List.flatMap_singleton, empty, List.append_nil]
    apply List.flatMap_congr
    intro m listed
    rw [Mac.queue, others m (apart m listed)]
    rfl
  have pools : PoolsExact next borrowed := by
    have bufs : next.bufs borrowed = mac.bufs borrowed := by
      rw [Mac.bufs, blocks, ← nextEq]
      rfl
    refine ⟨?_, ?_, ?_, ?_, ?_, ?_, ?_⟩
    · rw [list, ← nextEq]
      exact (taken.write n _).perm (List.perm_append_singleton n _)
    · rw [blocks, ← nextEq]
      exact exactly.packets
    · rw [blocks, ← nextEq]
      exact exactly.metadata
    · rw [bufs, ← nextEq]
      exact exactly.bufs
    · rw [bufs, ← nextEq]
      exact exactly.rams
    · rw [blocks, ← nextEq]
      exact exactly.pointed
    · have newAddr : (next.neighbor n).addr = addr := by
        rw [own]
        rfl
      intro one listedOne two listedTwo same
      rw [list, List.mem_append, List.mem_singleton] at listedOne listedTwo
      rcases listedOne with oldOne | rfl
      · rw [others one (apart one oldOne)] at same
        rcases listedTwo with oldTwo | rfl
        · rw [others two (apart two oldTwo)] at same
          exact exactly.addrs one oldOne two oldTwo same
        · exact absurd (same.trans newAddr) (unknown one oldOne)
      · rcases listedTwo with oldTwo | rfl
        · rw [others two (apart two oldTwo)] at same
          exact absurd (same.symm.trans newAddr) (unknown two oldTwo)
        · rfl
  have listed : n ∈ next.neighborList := by simp [list]
  have blank : next.view n = .empty := by
    rw [Mac.view, empty, own]
    rfl
  have views : next.viewAt = mac.viewAt := by
    have update := viewAt_update exactly pools
      (fun m known => iff_of_false (unknown m known) (apart m known)) (fun _ => by rw [own]; rfl)
      (fun m different => by simp [list, different])
      (fun m known different => by
        refine ⟨by rw [others m different], view_congr ?_ ?_ ?_ ?_ ?_⟩
        · rw [Mac.queue, Mac.queue, others m different]
        · rw [others m different]
        · rw [others m different]
        · rw [others m different]
        · intro q _
          rw [← nextEq]
          rfl)
    rw [update, if_pos listed, blank, ← viewAt_absent unknown]
    exact Function.update_eq_self _ _
  have timer : (next.neighbor n).transmitTimer = none := by
    rw [own]
    exact Option.not_isSome_iff_eq_none.mp fun set => fresh ((live.armed n).mp set)
  refine ⟨pools, listed, by rw [own]; rfl, views, ?_, by rw [← nextEq],
    Or.inr ⟨empty, blank, timer, ?_, ?_⟩⟩
  · rw [← nextEq]
    exact ⟨(List.append_nil _).symm, (List.append_nil _).symm, rfl⟩
  · constructor
    · intro m inside different
      rw [list, List.mem_append, List.mem_singleton] at inside
      rw [Mac.queue, others m different]
      exact live.waiting m (inside.resolve_right different)
    · intro m different
      rw [others m different, live.armed m, list, List.mem_append, List.mem_singleton]
      exact (or_iff_left different).symm
  · rw [← nextEq]
    exact ⟨(Memb.write_membFree _ _ _).trans count, rfl, rfl, rfl, rfl⟩

theorem addNeighborQueue_spec (exactly : PoolsExact mac borrowed)
    (live : Live mac) (addr : LinkAddr) : (∃ n, (addNeighborQueue addr mac).1 = some n ∧
      NeighborReady mac (addNeighborQueue addr mac).2 borrowed addr n) ∨
    ((addNeighborQueue addr mac).1 = none ∧ (addNeighborQueue addr mac).2 = mac) := by
  unfold addNeighborQueue
  rcases lookup : neighborQueueFromAddr addr mac with _ | n
  · have unknown := neighborQueueFromAddr_none lookup
    rcases alloc : mac.neighborMemb.membAlloc with ⟨_ | n, memb⟩
    · obtain rfl := Memb.membAlloc_none alloc
      exact Or.inr ⟨rfl, rfl⟩
    · obtain ⟨taken, count, mem⟩ := exactly.neighbors.taken alloc
      dsimp only
      have fresh : n ∉ mac.neighborList := (List.nodup_cons.mp taken.nodup).1
      rw [listAdd_of_not_mem fresh]
      exact Or.inl ⟨n, rfl, newNeighbor_ready exactly live unknown fresh taken mem count⟩
  · obtain ⟨listed, same⟩ := neighborQueueFromAddr_some lookup
    exact Or.inl ⟨n, rfl, exactly, listed, same, rfl,
      ⟨(List.append_nil _).symm, (List.append_nil _).symm, rfl⟩, rfl, Or.inl rfl⟩

def newRequest (mac : Mac) (sent : Option Nat) (ptr : Nat) : Request :=
  ⟨mac.requests, mac.packetbuf.receiver, sent, ptr, maxTransmissions conf mac.packetbuf⟩

structure Accepts (mac next : Mac) (borrowed : List Nat) (request : Request) : Prop where
  pools : PoolsExact next borrowed
  live : Live next
  desk : next.desk = mac.desk.join (rules conf) request
  calls : next.calls = mac.calls

structure Refuses (mac next : Mac) (borrowed : List Nat) (request : Request) : Prop where
  pools : PoolsExact next borrowed
  live : Live next
  desk : next.desk = mac.desk.turnAway request
  calls : next.calls = mac.calls ++
    (request.sent.map fun sent => ⟨sent, request.cptr, .err, 1⟩).toList
  counts : SameCounts mac next

theorem dropPacket_refuses {mac middle : Mac}
    (pools : PoolsExact middle borrowed) (live : Live middle) (views : middle.viewAt = mac.viewAt)
    (logs : Logs mac middle [] []) (packetbuf : middle.packetbuf = mac.packetbuf)
    (counts : SameCounts mac middle) (sent : Option Nat) (ptr : Nat) :
    Refuses mac (dropPacket conf sent ptr middle) borrowed (newRequest conf mac sent ptr) ∧
      (dropPacket conf sent ptr middle).requests = mac.requests := by
  simp only [dropPacket, macCallSentCallback_frame]
  generalize nextEq : ({ middle with
    log := middle.log ++ [.dropped ⟨middle.requests, middle.packetbuf.receiver, sent, ptr,
      maxTransmissions conf middle.packetbuf⟩]
    calls := middle.calls ++ (sent.map fun sent => ⟨sent, ptr, .err, 1⟩).toList } : Mac) = next
  have same : SameMemory middle next := by
    rw [← nextEq]
    exact ⟨⟨rfl, rfl, rfl, rfl⟩, rfl, fun _ kept => kept⟩
  have log : middle.log = mac.log := logs.log.trans (List.append_nil _)
  have calls : middle.calls = mac.calls := logs.calls.trans (List.append_nil _)
  refine ⟨⟨same.pools pools, same.live live, ?_, ?_, ?_⟩, ?_⟩
  · rw [desk_same (same.viewAt.trans views), ← nextEq, log, logs.requests, packetbuf]
    rfl
  · rw [← nextEq, calls]
    rfl
  · rw [← nextEq]
    exact ⟨counts.neighbors, counts.packets, counts.metadata, counts.bufs, counts.rams⟩
  · exact logs.requests

theorem NeighborReady.except {mac middle : Mac} {n : Nat}
    (ready : NeighborReady mac middle borrowed addr n) (live : Live mac) : LiveExcept middle n := by
  rcases ready.known with rfl | new
  · exact live.except n
  · exact new.2.2.2.1

variable {request : Request}

theorem NeighborReady.accepts {mac middle next : Mac} {n q : Nat}
    (live : Live mac) (ready : NeighborReady mac middle borrowed request.addr n)
    (touches : Touches middle next borrowed n (middle.queue n ++ [q]))
    (armed : (next.neighbor n).transmitTimer.isSome = true)
    (attempts : (next.neighbor n).transmissions = (middle.neighbor n).transmissions)
    (collisions : (next.neighbor n).collisions = (middle.neighbor n).collisions)
    (new : next.request n q = request) (log : next.log = mac.log ++ [.accepted request])
    (calls : next.calls = mac.calls) : Accepts conf mac next borrowed request := by
  have served := touches.serves ready.pools (ready.except live) ready.listed (by simp) armed
  have own := ready.pools.viewAt_listed ready.listed
  rw [ready.views, ready.addr] at own
  have views := served.views
  rw [ready.views, ready.addr] at views
  have view : next.view n = ⟨(mac.viewAt request.addr).line ++ [request],
      (mac.viewAt request.addr).attempts, (mac.viewAt request.addr).collisions⟩ := by
    have line : (middle.queue n).map (next.request n) = (middle.queue n).map (middle.request n) := by
      apply List.map_congr_left
      intro p inside
      rw [Mac.request, Mac.request, touches.addr,
        touches.metadata p (List.mem_flatMap.mpr ⟨n, ready.listed, inside⟩)]
    rw [own, Mac.view, touches.queue, List.map_append, line, List.map_singleton, new, attempts,
      collisions]
    rfl
  refine ⟨served.pools, served.live, ?_, calls⟩
  rw [desk_of_viewAt views, view, log]
  have tries : Function.update mac.desk.attempts request.addr (mac.viewAt request.addr).attempts =
      mac.desk.attempts := Function.update_eq_self _ _
  have collided : Function.update mac.desk.collisions request.addr
      (mac.viewAt request.addr).collisions = mac.desk.collisions := Function.update_eq_self _ _
  simp only [tries, collided]
  rfl

variable {next : Mac}

theorem NeighborReady.enqueue {mac middle allocated : Mac} {n q m buf : Nat}
    (live : Live mac) (ready : NeighborReady mac middle borrowed mac.packetbuf.receiver n)
    (alloc : Allocated middle allocated borrowed q m buf) (sent : Option Nat) (ptr : Nat)
    (random : UInt16) (nextEq : next = enqueuePacket conf n q sent ptr random allocated) :
    Accepts conf mac next borrowed (newRequest conf mac sent ptr) ∧ next.requests = mac.requests := by
  obtain ⟨pools, linked⟩ := ready.pools.linkPacket conf ready.listed alloc sent ptr
  rw [ready.logs.requests, ready.addr, ready.packetbuf] at linked
  unfold enqueuePacket at nextEq
  generalize linkPacket conf n q sent ptr allocated = joined at pools linked nextEq
  have queue : (joined.neighbor n).packetQueue = middle.queue n ++ [q] := by rw [linked.neighbor]
  have touches : Touches middle joined borrowed n (middle.queue n ++ [q]) :=
    ⟨pools, linked.list, linked.others, by rw [linked.neighbor], queue, linked.old⟩
  have log : joined.log = mac.log ++ [.accepted (newRequest conf mac sent ptr)] := by
    rw [linked.log, ready.logs.log, List.append_nil]
    rfl
  have calls : joined.calls = mac.calls := by
    rw [linked.calls, ready.logs.calls, List.append_nil]
  have requests : joined.requests = mac.requests := linked.requests.trans ready.logs.requests
  dsimp only at nextEq
  rw [queue] at nextEq
  by_cases empty : middle.queue n = []
  · rw [empty, List.nil_append, List.head?_cons, if_pos rfl, scheduleTransmission] at nextEq
    have scheduled := touches.writeNeighbor (NeighborQueue.schedule conf random) rfl rfl
    have neighbor := writeNeighbor_same joined n (NeighborQueue.schedule conf random)
    subst nextEq
    refine ⟨ready.accepts conf live scheduled ?_ ?_ ?_ ?_ log calls, requests⟩
    · rw [neighbor]
      rfl
    · rw [neighbor, linked.neighbor]
      rfl
    · rw [neighbor, linked.neighbor]
      rfl
    · refine Eq.trans ?_ linked.new
      rw [Mac.request, neighbor]
      rfl
  · have other : (middle.queue n ++ [q]).head? ≠ some q := by
      rcases first : middle.queue n with _ | ⟨p, rest⟩
      · exact absurd first empty
      · intro same
        rw [List.cons_append, List.head?_cons, Option.some.injEq] at same
        apply linked.fresh
        refine List.mem_flatMap.mpr ⟨n, ready.listed, ?_⟩
        rw [first, same]
        exact List.mem_cons_self
    rw [if_neg other] at nextEq
    subst nextEq
    have known : middle = mac := by
      rcases ready.known with same | new
      · exact same
      · exact absurd new.1 empty
    have armed : (middle.neighbor n).transmitTimer.isSome = true := by
      have listed := ready.listed
      rw [known] at listed ⊢
      exact (live.armed n).mpr listed
    refine ⟨ready.accepts conf live touches ?_ ?_ ?_ linked.new log calls, requests⟩
    · rw [linked.neighbor]
      exact armed
    · rw [linked.neighbor]
    · rw [linked.neighbor]

theorem NeighborReady.giveUp {mac middle failed : Mac} {n : Nat}
    (exactly : PoolsExact mac borrowed) (live : Live mac)
    (ready : NeighborReady mac middle borrowed addr n)
    (alloc : NotAllocated middle failed borrowed) (sent : Option Nat) (ptr : Nat) :
    Refuses mac (dropPacket conf sent ptr (freeNeighborIfEmpty n failed)) borrowed
        (newRequest conf mac sent ptr) ∧
      (dropPacket conf sent ptr (freeNeighborIfEmpty n failed)).requests = mac.requests := by
  have neighbor : failed.neighbor = middle.neighbor := by
    rw [alloc.rest]
    rfl
  have touches : Touches middle failed borrowed n (middle.queue n) :=
    ⟨alloc.pools, alloc.same.list, fun m _ => by rw [neighbor], by rw [neighbor], alloc.same.queue n,
      alloc.same.metadata⟩
  have view : failed.view n = middle.view n := by
    rw [touches.view ready.listed fun _ inside => inside, neighbor]
    rfl
  have views : failed.viewAt = mac.viewAt := by
    rw [touches.views ready.pools ready.listed, view, ← ready.pools.viewAt_listed ready.listed,
      ← ready.views]
    exact Function.update_eq_self _ _
  have logs : Logs mac failed [] [] := by
    rw [alloc.rest]
    exact ⟨ready.logs.log, ready.logs.calls, ready.logs.requests⟩
  have packetbuf : failed.packetbuf = mac.packetbuf := by
    rw [alloc.rest]
    exact ready.packetbuf
  have queue : (failed.neighbor n).packetQueue = middle.queue n := by rw [neighbor, Mac.queue]
  unfold freeNeighborIfEmpty
  rw [queue]
  rcases ready.known with same | ⟨empty, blank, timer, except, counts⟩
  · subst same
    have busy : ¬ (middle.queue n).length = 0 := by
      rw [List.length_eq_zero_iff]
      exact live.waiting n ready.listed
    rw [if_neg busy]
    have awake : Live failed := by
      constructor
      · intro m listed
        rw [alloc.same.list] at listed
        rw [alloc.same.queue]
        exact live.waiting m listed
      · intro m
        rw [neighbor, alloc.same.list]
        exact live.armed m
    exact dropPacket_refuses conf alloc.pools awake views logs packetbuf alloc.counts sent ptr
  · rw [empty, if_pos List.length_nil]
    have freed := touches.freeNeighbor ready.pools except ready.listed empty (by rw [neighbor, timer])
    have kept : (freeNeighbor n failed).viewAt = mac.viewAt := by
      rw [freed.views, ← blank, ← ready.pools.viewAt_listed ready.listed, ← ready.views]
      exact Function.update_eq_self _ _
    have same : SameCounts mac (freeNeighbor n failed) := by
      have memb : failed.neighborMemb = middle.neighborMemb := by rw [alloc.rest]
      refine ⟨?_, alloc.counts.packets.trans counts.packets, alloc.counts.metadata.trans counts.metadata,
        alloc.counts.bufs.trans counts.bufs, alloc.counts.rams.trans counts.rams⟩
      simp only [freeNeighbor, memb]
      exact counts.neighbors
    exact dropPacket_refuses conf freed.pools freed.live kept ⟨logs.log, logs.calls, logs.requests⟩
      packetbuf same sent ptr

theorem queueOrDrop_spec (exactly : PoolsExact mac borrowed)
    (live : Live mac) (sent : Option Nat) (ptr : Nat) (random : UInt16)
    (nextEq : next = queueOrDrop conf sent ptr random mac) :
    (Accepts conf mac next borrowed (newRequest conf mac sent ptr) ∨
      Refuses mac next borrowed (newRequest conf mac sent ptr)) ∧ next.requests = mac.requests := by
  subst nextEq
  unfold queueOrDrop
  rcases addNeighborQueue_spec exactly live mac.packetbuf.receiver with
    ⟨n, found, ready⟩ | ⟨missing, same⟩
  · generalize addNeighborQueue mac.packetbuf.receiver mac = result at found ready ⊢
    obtain ⟨neighbor, middle⟩ := result
    dsimp only at found ready ⊢
    subst found
    dsimp only
    split
    · rcases ready.pools.allocatePacket with ⟨q, m, buf, packet, alloc⟩ | ⟨none, alloc⟩
      · generalize allocatePacket middle = result at packet alloc ⊢
        obtain ⟨block, allocated⟩ := result
        dsimp only at packet alloc ⊢
        subst packet
        obtain ⟨accepts, requests⟩ := ready.enqueue conf live alloc sent ptr random rfl
        exact ⟨Or.inl accepts, requests⟩
      · generalize allocatePacket middle = result at none alloc ⊢
        obtain ⟨block, failed⟩ := result
        dsimp only at none alloc ⊢
        subst none
        obtain ⟨refuses, requests⟩ := ready.giveUp conf exactly live alloc sent ptr
        exact ⟨Or.inr refuses, requests⟩
    · rename_i full
      rcases ready.known with rfl | ⟨empty, -⟩
      · obtain ⟨refuses, requests⟩ := dropPacket_refuses conf exactly live rfl ready.logs rfl
          ⟨rfl, rfl, rfl, rfl, rfl⟩ sent ptr
        exact ⟨Or.inr refuses, requests⟩
      · rw [Mac.queue] at empty
        rw [empty] at full
        exact absurd conf.maxPacketPerNeighbor_pos full
  · generalize addNeighborQueue mac.packetbuf.receiver mac = result at missing same ⊢
    obtain ⟨neighbor, middle⟩ := result
    dsimp only at missing same ⊢
    subst missing same
    obtain ⟨refuses, requests⟩ := dropPacket_refuses conf exactly live rfl
      ⟨(List.append_nil _).symm, (List.append_nil _).symm, rfl⟩ rfl ⟨rfl, rfl, rfl, rfl, rfl⟩ sent ptr
    exact ⟨Or.inr refuses, requests⟩

theorem csmaOutputPacket_spec (exactly : PoolsExact mac borrowed)
    (live : Live mac) (packetbuf : Packetbuf) (sent : Option Nat) (ptr : Nat)
    (random : UInt16 × UInt16) (requestEq : request =
      ⟨mac.requests, packetbuf.receiver, sent, ptr, maxTransmissions conf packetbuf⟩)
    (nextEq : next = csmaOutputPacket conf sent ptr random { mac with packetbuf := packetbuf }) :
    (Accepts conf mac next borrowed request ∨ Refuses mac next borrowed request) ∧
      next.requests = mac.requests + 1 := by
  have started : ∀ (initialized : Bool) (seqno : UInt8) (packetbuf : Packetbuf), SameMemory mac
      { mac with initialized := initialized, seqno := seqno, packetbuf := packetbuf } :=
    fun _ _ _ => ⟨⟨rfl, rfl, rfl, rfl⟩, rfl, fun _ kept => kept⟩
  obtain ⟨outcome, requests⟩ := queueOrDrop_spec conf ((started true
    (nextSeqno random.1 { mac with packetbuf := packetbuf } + 1) { packetbuf with
      macSeqno := (nextSeqno random.1 { mac with packetbuf := packetbuf }).toUInt16
      frameType := frame802154Dataframe }).pools exactly) ((started _ _ _).live live) sent ptr random.2
    rfl
  generalize queuedEq : queueOrDrop conf sent ptr random.2 _ = queued at outcome requests
  have counted : next = { queued with requests := queued.requests + 1 } := by
    rw [nextEq, ← queuedEq]
    rfl
  have final : SameMemory queued next := by
    rw [counted]
    exact ⟨⟨rfl, rfl, rfl, rfl⟩, rfl, fun _ kept => kept⟩
  have desk : next.desk = queued.desk := by
    rw [desk_same final.viewAt, counted]
    rfl
  have calls : next.calls = queued.calls := by rw [counted]
  subst requestEq
  refine ⟨?_, ?_⟩
  · rcases outcome with accepts | refuses
    · exact Or.inl ⟨final.pools accepts.pools, final.live accepts.live, desk.trans accepts.desk,
        calls.trans accepts.calls⟩
    · refine Or.inr ⟨final.pools refuses.pools, final.live refuses.live, desk.trans refuses.desk,
        calls.trans refuses.calls, ?_⟩
      rw [counted]
      exact ⟨refuses.counts.neighbors, refuses.counts.packets, refuses.counts.metadata,
        refuses.counts.bufs, refuses.counts.rams⟩
  · rw [counted]
    exact congrArg (· + 1) requests

structure Inv (history : History) : Prop where
  pools : PoolsExact history.mac history.borrowed
  live : Live history.mac
  ledger : RetryLine.Ledger (rules conf) history.mac.desk
  calls : history.mac.calls = history.mac.log.filterMap due
  numbers : ∀ request, .accepted request ∈ history.mac.log → request.number < history.mac.requests

theorem maxTransmissions_pos (packetbuf : Packetbuf) :
    0 < (maxTransmissions conf packetbuf).toNat := by
  have narrow := conf.maxFrameRetries_lt
  unfold maxTransmissions
  split
  · rw [UInt8.toNat_ofNat']
    omega
  · rename_i given
    rw [← UInt8.toNat_inj] at given
    exact Nat.pos_of_ne_zero given

variable {history : History}

theorem Inv.send (inv : Inv conf history) (packetbuf : Packetbuf)
    (sent : Option Nat) (ptr : Nat) (random : UInt16 × UInt16) :
    Inv conf (history.step conf (.send packetbuf sent ptr random)) := by
  obtain ⟨outcome, requests⟩ := csmaOutputPacket_spec conf inv.pools inv.live packetbuf sent ptr random
    rfl rfl
  simp only [History.step]
  generalize csmaOutputPacket conf sent ptr random { history.mac with packetbuf := packetbuf } = next
    at outcome requests
  rcases outcome with accepts | refuses
  · have log : next.log = history.mac.log ++ [.accepted ⟨history.mac.requests, packetbuf.receiver,
        sent, ptr, maxTransmissions conf packetbuf⟩] := congrArg RetryLine.Desk.log accepts.desk
    refine ⟨accepts.pools, accepts.live, ?_, ?_, ?_⟩
    · rw [accepts.desk]
      apply inv.ledger.join
      · intro earlier
        exact absurd (inv.numbers _ earlier) (Nat.lt_irrefl _)
      · exact maxTransmissions_pos conf packetbuf
    · rw [accepts.calls, log, List.filterMap_append, inv.calls]
      exact (List.append_nil _).symm
    · intro request member
      rw [requests]
      rw [log, List.mem_append] at member
      rcases member with earlier | new
      · exact Nat.lt_succ_of_lt (inv.numbers request earlier)
      · simp only [List.mem_singleton, Entry.accepted.injEq] at new
        subst new
        exact Nat.lt_succ_self _
  · have log : next.log = history.mac.log ++ [.dropped ⟨history.mac.requests, packetbuf.receiver,
        sent, ptr, maxTransmissions conf packetbuf⟩] := congrArg RetryLine.Desk.log refuses.desk
    refine ⟨refuses.pools, refuses.live, ?_, ?_, ?_⟩
    · rw [refuses.desk]
      exact inv.ledger.turnAway _
    · rw [refuses.calls, log, List.filterMap_append, inv.calls]
      rcases sent with _ | callback
      · rfl
      · rfl
    · intro request member
      rw [requests]
      rw [log, List.mem_append] at member
      rcases member with earlier | new
      · exact Nat.lt_succ_of_lt (inv.numbers request earlier)
      · simp at new

theorem serve_accepted {desk : RetryLine.Desk LinkAddr Request MacTxStatus} {status : MacTxStatus}
    (member : .accepted request ∈ (desk.serve (rules conf) addr status).log) :
    .accepted request ∈ desk.log := by
  unfold RetryLine.Desk.serve at member
  split at member
  · exact member
  · dsimp only at member
    split at member
    · simpa using member
    · simpa using member

section

variable (inv : Inv conf history)
include inv

theorem Inv.expire (n : Nat) (radio : RadioAnswers)
    (random : UInt16) : Inv conf (history.step conf (.expire n radio random)) := by
  simp only [History.step]
  by_cases armed : (history.mac.neighbor n).transmitTimer.isSome = true
  · obtain ⟨status, delivers⟩ :=
      expireTimer_delivers conf inv.pools inv.live inv.ledger armed radio random
    generalize expireTimer conf n radio random history.mac = next at delivers
    obtain ⟨entries, logs⟩ := delivers.logs
    refine ⟨delivers.pools, delivers.live, ?_, ?_, ?_⟩
    · rw [delivers.desk]
      exact inv.ledger.serve _ _
    · rw [logs.calls, logs.log, List.filterMap_append, inv.calls]
    · intro request member
      rw [logs.requests]
      have log : next.log = (history.mac.desk.serve (rules conf) (history.mac.neighbor n).addr
          status).log := congrArg RetryLine.Desk.log delivers.desk
      rw [log] at member
      exact inv.numbers request (serve_accepted conf member)
  · rw [expireTimer, if_neg armed]
    exact inv

theorem Inv.of_lines (same : SameLines history.mac next) (pools : PoolsExact next borrowed)
    (log : next.log = history.mac.log) (calls : next.calls = history.mac.calls)
    (requests : next.requests = history.mac.requests) : Inv conf ⟨next, borrowed⟩ := by
  have desk : next.desk = history.mac.desk := by
    rw [desk_same same.viewAt, log]
    rfl
  refine ⟨pools, same.live inv.live, desk ▸ inv.ledger, ?_, ?_⟩
  · rw [calls, log]
    exact inv.calls
  · intro request member
    rw [log] at member
    rw [requests]
    exact inv.numbers request member

theorem Inv.borrow (packetbuf : Packetbuf) :
    Inv conf (history.step conf (.borrow packetbuf)) := by
  have bufs : ({ history.mac with packetbuf := packetbuf } : Mac).bufmem.Exactly
      (history.mac.bufs history.borrowed) := inv.pools.bufs
  simp only [History.step]
  have frame := fun {next : Mac} (rest : next = { history.mac with
      packetbuf := packetbuf, bufmem := next.bufmem, buframmem := next.buframmem }) =>
    (⟨by rw [rest], by rw [rest], by rw [rest], by rw [rest]⟩ : SameLines history.mac next)
  rcases queuebufNewFromPacketbuf_spec bufs inv.pools.rams with ⟨buf, found, copied⟩ | ⟨missing, kept⟩
  · generalize queuebufNewFromPacketbuf { history.mac with packetbuf := packetbuf } = result
      at found copied ⊢
    obtain ⟨block, next⟩ := result
    dsimp only at found copied ⊢
    subst found
    have same := frame copied.rest
    have order : (history.mac.bufs (buf :: history.borrowed)).Perm
        (buf :: history.mac.bufs history.borrowed) := List.perm_middle
    refine inv.of_lines conf same (same.pools inv.pools (copied.bufs.perm order)
      (copied.rams.perm (order.map _))) ?_ ?_ ?_
    · rw [copied.rest]
    · rw [copied.rest]
    · rw [copied.rest]
  · generalize queuebufNewFromPacketbuf { history.mac with packetbuf := packetbuf } = result
      at missing kept ⊢
    obtain ⟨block, next⟩ := result
    dsimp only at missing kept ⊢
    subst missing
    have same := frame kept.rest
    have rams := kept.rams
    refine inv.of_lines conf same (same.pools inv.pools kept.bufs (kept.mem ▸ rams)) ?_ ?_ ?_
    · rw [kept.rest]
    · rw [kept.rest]
    · rw [kept.rest]

theorem Inv.giveBack (buf : Nat) :
    Inv conf (history.step conf (.giveBack buf)) := by
  simp only [History.step]
  split
  · rename_i owned
    have member : buf ∈ history.mac.bufs history.borrowed := List.mem_append_right _ owned
    rw [queuebufFree_of_lt buf history.mac (inv.pools.bufs.inUse.bounded buf member)]
    have order : (history.mac.bufs history.borrowed).Perm
        (buf :: history.mac.bufs (history.borrowed.erase buf)) :=
      ((List.perm_cons_erase owned).append_left _).trans List.perm_middle
    have same : SameLines history.mac { history.mac with
        buframmem := history.mac.buframmem.membFree (history.mac.bufmem.mem buf)
        bufmem := history.mac.bufmem.membFree buf } := ⟨rfl, rfl, rfl, rfl⟩
    refine inv.of_lines conf same (same.pools inv.pools (inv.pools.bufs.free order) ?_) rfl rfl rfl
    dsimp only
    rw [Memb.membFree_mem]
    exact inv.pools.rams.free (order.map _)
  · exact inv

theorem Inv.step (step : CsmaStep) :
    Inv conf (history.step conf step) := by
  cases step with
  | send packetbuf sent ptr random => exact inv.send conf packetbuf sent ptr random
  | expire n radio random => exact inv.expire conf n radio random
  | borrow packetbuf => exact inv.borrow conf packetbuf
  | giveBack buf => exact inv.giveBack conf buf

end

theorem inv_start : Inv conf (History.start conf) := by
  have empty : ∀ {α : Type} [Inhabited α] (num : Nat),
      ((emptyMemb num : Memb α).membInit).Exactly [] :=
    fun _ => ⟨Memb.membInit_inUse _, List.nodup_nil⟩
  refine ⟨⟨empty _, empty _, empty _, empty _, empty _, ?_, ?_⟩, ⟨?_, ?_⟩, ?_, rfl, ?_⟩
  · intro q member
    cases member
  · intro n listed
    cases listed
  · intro n listed
    cases listed
  · intro n
    constructor
    · intro set
      cases set
    · intro listed
      cases listed
  · exact RetryLine.ledger_open (rules conf)
  · intro request member
    cases member

structure Contract (history : History) : Prop where
  fifo : ∀ addr, RetryLine.accepted (rules conf) addr history.mac.log =
    RetryLine.completed (rules conf) addr history.mac.log ++ history.mac.desk.line addr
  distinct : ∀ addr, (RetryLine.accepted (rules conf) addr history.mac.log).Nodup
  callbacks : history.mac.calls = history.mac.log.filterMap due
  attempts : ∀ request status numTx, .completed request status numTx ∈ history.mac.log →
    RetryLine.Served (rules conf) request (RetryLine.outcomes request history.mac.log) status numTx
  serviced : ∀ addr, history.mac.desk.line addr ≠ [] → ∃ n ∈ history.mac.neighborList,
    (history.mac.neighbor n).addr = addr ∧
    (history.mac.neighbor n).transmitTimer.isSome = true ∧ ∀ radio random,
      RetryLine.tries (rules conf) addr (expireTimer conf n radio random history.mac).log =
        RetryLine.tries (rules conf) addr history.mac.log + 1
  finished : ∀ addr before request after,
    RetryLine.accepted (rules conf) addr history.mac.log = before ++ request :: after →
    ((before ++ [request]).map fun other =>
      other.maxTransmissions.toNat * (conf.maxBackoff + 1)).sum ≤
        RetryLine.tries (rules conf) addr history.mac.log →
    request ∈ RetryLine.completed (rules conf) addr history.mac.log
  requests : ∀ packetbuf sent ptr random,
    let request : Request :=
      ⟨history.mac.requests, packetbuf.receiver, sent, ptr, maxTransmissions conf packetbuf⟩
    let next := csmaOutputPacket conf sent ptr random { history.mac with packetbuf := packetbuf }
    next.log = history.mac.log ++ [.accepted request] ∨
      (next.log = history.mac.log ++ [.dropped request] ∧ SameCounts history.mac next)
  pools : PoolsExact history.mac history.borrowed
  neighbors : ∀ n, (n ∈ history.mac.neighborList ↔ history.mac.neighborMemb.count n ≠ 0) ∧
    (n ∈ history.mac.neighborList → history.mac.queue n ≠ [])

theorem Inv.contract (inv : Inv conf history) : Contract conf history := by
  refine ⟨inv.ledger.fifo, inv.ledger.nodup, inv.calls, inv.ledger.served, ?_, ?_, ?_, inv.pools, ?_⟩
  · intro addr waiting
    rcases lookup : neighborQueueFromAddr addr history.mac with _ | n
    · have empty := congrArg View.line (viewAt_absent (neighborQueueFromAddr_none lookup))
      exact absurd empty waiting
    · obtain ⟨listed, own⟩ := neighborQueueFromAddr_some lookup
      have armed := (inv.live.armed n).mpr listed
      refine ⟨n, listed, own, armed, ?_⟩
      intro radio random
      obtain ⟨status, delivers⟩ :=
        expireTimer_delivers conf inv.pools inv.live inv.ledger armed radio random
      rw [own] at delivers
      have log := congrArg RetryLine.Desk.log delivers.desk
      calc RetryLine.tries (rules conf) addr (expireTimer conf n radio random history.mac).log
          = RetryLine.tries (rules conf) addr
              (history.mac.desk.serve (rules conf) addr status).log := congrArg _ log
        _ = RetryLine.tries (rules conf) addr history.mac.log + 1 :=
              inv.ledger.tries_serve waiting status
  · intro addr before request after split enough
    exact inv.ledger.completed_of_tries split enough
  · intro packetbuf sent ptr random
    obtain ⟨outcome, -⟩ := csmaOutputPacket_spec conf inv.pools inv.live packetbuf sent ptr random rfl
      rfl
    rcases outcome with accepts | refuses
    · exact Or.inl (congrArg RetryLine.Desk.log accepts.desk)
    · exact Or.inr ⟨congrArg RetryLine.Desk.log refuses.desk, refuses.counts⟩
  · intro n
    refine ⟨?_, inv.live.waiting n⟩
    rw [inv.pools.neighbors.inUse.count_eq n]
    by_cases listed : n ∈ history.mac.neighborList
    · simp [listed]
    · simp [listed]

/-- After any run, every accepted packet is waiting in its line or was completed in its turn, within
its attempts and with one callback; a refused one had its callback and took no block. -/
theorem csma_keeps_contract (steps : List CsmaStep) :
    Contract conf (Run.final (History.step conf) (History.start conf) steps) := by
  apply Inv.contract
  exact Run.invariant_of_step (Inv conf) (fun _ step inv => inv.step conf step) steps _ (inv_start conf)

end MultiPhyTsch.Csma
