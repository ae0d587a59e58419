import MultiPhyTsch.Csma.CsmaOutput

/-! The pools of the CSMA MAC hold exactly the blocks its queues name, and the packet copies that
others hold. -/

namespace MultiPhyTsch.Csma

def Mac.queue (mac : Mac) (n : Nat) : List Nat := (mac.neighbor n).packetQueue

def Mac.blocks (mac : Mac) : List Nat := mac.neighborList.flatMap mac.queue

def Mac.metadataOf (mac : Mac) (q : Nat) : Nat := (mac.packet q).ptr.getD 0

def Mac.bufs (mac : Mac) (borrowed : List Nat) : List Nat :=
  mac.blocks.map (fun q => (mac.packet q).buf) ++ borrowed

structure PoolsExact (mac : Mac) (borrowed : List Nat) : Prop where
  neighbors : mac.neighborMemb.Exactly mac.neighborList
  packets : mac.packetMemb.Exactly mac.blocks
  metadata : mac.metadataMemb.Exactly (mac.blocks.map mac.metadataOf)
  bufs : mac.bufmem.Exactly (mac.bufs borrowed)
  rams : mac.buframmem.Exactly ((mac.bufs borrowed).map mac.bufmem.mem)
  pointed : ∀ q ∈ mac.blocks, (mac.packet q).ptr.isSome = true
  addrs : ∀ n ∈ mac.neighborList, ∀ m ∈ mac.neighborList,
    (mac.neighbor n).addr = (mac.neighbor m).addr → n = m

structure SameQueues (mac next : Mac) : Prop where
  list : next.neighborList = mac.neighborList
  queue : ∀ n, next.queue n = mac.queue n
  addr : ∀ n, (next.neighbor n).addr = (mac.neighbor n).addr
  packet : ∀ q ∈ mac.blocks, next.packet q = mac.packet q
  metadata : ∀ q ∈ mac.blocks, next.metadata q = mac.metadata q

theorem SameQueues.blocks {mac next : Mac} (same : SameQueues mac next) :
    next.blocks = mac.blocks := by
  rw [Mac.blocks, Mac.blocks, same.list]
  exact List.flatMap_congr fun n _ => same.queue n

theorem SameQueues.bufs {mac next : Mac} (same : SameQueues mac next) (borrowed : List Nat) :
    next.bufs borrowed = mac.bufs borrowed := by
  rw [Mac.bufs, Mac.bufs, same.blocks]
  congr 1
  exact List.map_congr_left fun q member => congrArg PacketQueue.buf (same.packet q member)

variable {borrowed : List Nat}

theorem PoolsExact.of_same {mac next : Mac}
    (exactly : PoolsExact mac borrowed) (same : SameQueues mac next)
    (ram : ∀ buf ∈ mac.bufs borrowed, next.bufmem.mem buf = mac.bufmem.mem buf)
    (neighbors : next.neighborMemb.Exactly mac.neighborList)
    (packets : next.packetMemb.Exactly mac.blocks)
    (metadata : next.metadataMemb.Exactly (mac.blocks.map mac.metadataOf))
    (bufs : next.bufmem.Exactly (mac.bufs borrowed))
    (rams : next.buframmem.Exactly ((mac.bufs borrowed).map mac.bufmem.mem)) :
    PoolsExact next borrowed := by
  refine ⟨?_, ?_, ?_, ?_, ?_, ?_, ?_⟩
  · rw [same.list]
    exact neighbors
  · rw [same.blocks]
    exact packets
  · have pointers : mac.blocks.map next.metadataOf = mac.blocks.map mac.metadataOf := by
      apply List.map_congr_left
      intro q member
      rw [Mac.metadataOf, Mac.metadataOf, same.packet q member]
    rw [same.blocks, pointers]
    exact metadata
  · rw [same.bufs]
    exact bufs
  · rw [same.bufs, List.map_congr_left ram]
    exact rams
  · intro q member
    rw [same.blocks] at member
    rw [same.packet q member]
    exact exactly.pointed q member
  · intro n listed m other
    rw [same.list] at listed other
    rw [same.addr, same.addr]
    exact exactly.addrs n listed m other

theorem sameQueues_writeNeighbor (mac : Mac) (n : Nat) (change : NeighborQueue → NeighborQueue)
    (queue : (change (mac.neighbor n)).packetQueue = (mac.neighbor n).packetQueue)
    (addr : (change (mac.neighbor n)).addr = (mac.neighbor n).addr) :
    SameQueues mac (mac.writeNeighbor n change) := by
  refine ⟨rfl, ?_, ?_, fun _ _ => rfl, fun _ _ => rfl⟩
  · exact mac.neighborMemb.write_field n change NeighborQueue.packetQueue queue
  · exact mac.neighborMemb.write_field n change NeighborQueue.addr addr

variable {mac : Mac}

theorem PoolsExact.writeNeighbor
    (exactly : PoolsExact mac borrowed) (n : Nat) (change : NeighborQueue → NeighborQueue)
    (queue : (change (mac.neighbor n)).packetQueue = (mac.neighbor n).packetQueue)
    (addr : (change (mac.neighbor n)).addr = (mac.neighbor n).addr) :
    PoolsExact (mac.writeNeighbor n change) borrowed :=
  exactly.of_same (sameQueues_writeNeighbor mac n change queue addr) (fun _ _ => rfl)
    (exactly.neighbors.write n change) exactly.packets exactly.metadata exactly.bufs exactly.rams

theorem neighborQueueFromAddr_some {addr : LinkAddr} {n : Nat}
    (found : neighborQueueFromAddr addr mac = some n) :
    n ∈ mac.neighborList ∧ (mac.neighbor n).addr = addr := by
  refine ⟨List.mem_of_find?_eq_some found, ?_⟩
  simpa using List.find?_some found

theorem neighborQueueFromAddr_none {addr : LinkAddr}
    (missing : neighborQueueFromAddr addr mac = none) :
    ∀ n ∈ mac.neighborList, (mac.neighbor n).addr ≠ addr := by
  intro n listed
  simpa using List.find?_eq_none.mp missing n listed

theorem PoolsExact.lookup (exactly : PoolsExact mac borrowed)
    {n : Nat} (listed : n ∈ mac.neighborList) :
    neighborQueueFromAddr (mac.neighbor n).addr mac = some n := by
  rcases found : neighborQueueFromAddr (mac.neighbor n).addr mac with _ | m
  · exact absurd rfl (neighborQueueFromAddr_none found n listed)
  · obtain ⟨other, same⟩ := neighborQueueFromAddr_some found
    rw [exactly.addrs m other n listed same]

theorem PoolsExact.blocks_split
    (exactly : PoolsExact mac borrowed) {n : Nat} (listed : n ∈ mac.neighborList) :
    ∃ others : List Nat, mac.blocks.Perm (mac.queue n ++ others) ∧
      ∀ next : Mac, next.neighborList = mac.neighborList →
        (∀ m, m ≠ n → next.queue m = mac.queue m) → next.blocks.Perm (next.queue n ++ others) := by
  obtain ⟨front, back, split⟩ := List.append_of_mem listed
  have apart := exactly.neighbors.nodup
  rw [split] at apart
  have outside := List.nodup_middle.mp apart
  rw [List.nodup_cons, List.mem_append, not_or] at outside
  have rotate : ∀ queue : Nat → List Nat, ((front ++ n :: back).flatMap queue).Perm
      (queue n ++ (front.flatMap queue ++ back.flatMap queue)) := by
    intro queue
    rw [List.flatMap_append, List.flatMap_cons]
    exact List.perm_append_comm_assoc _ _ _
  refine ⟨front.flatMap mac.queue ++ back.flatMap mac.queue, ?_, ?_⟩
  · rw [Mac.blocks, split]
    exact rotate mac.queue
  · intro next list same
    have kept : ∀ part : List Nat, n ∉ part → part.flatMap next.queue = part.flatMap mac.queue := by
      intro part absent
      apply List.flatMap_congr
      intro m inside
      apply same
      rintro rfl
      exact absent inside
    rw [Mac.blocks, list, split, ← kept front outside.1.1, ← kept back outside.1.2]
    exact rotate next.queue

theorem queuebufFree_of_lt (buf : Nat) (mac : Mac) (bound : buf < mac.bufmem.num) :
    queuebufFree buf mac = { mac with
      buframmem := mac.buframmem.membFree (mac.bufmem.mem buf)
      bufmem := mac.bufmem.membFree buf } := if_pos bound

structure Dequeued (mac next : Mac) (n : Nat) (rest : List Nat) : Prop where
  list : next.neighborList = mac.neighborList
  queue : next.queue n = rest
  others : ∀ m, m ≠ n → next.neighbor m = mac.neighbor m
  neighbor : ∃ queue, next.neighbor n = { mac.neighbor n with packetQueue := queue }
  packet : next.packet = mac.packet
  metadata : next.metadata = mac.metadata
  ram : next.bufmem.mem = mac.bufmem.mem
  log : next.log = mac.log
  calls : next.calls = mac.calls
  requests : next.requests = mac.requests

theorem PoolsExact.dequeue (exactly : PoolsExact mac borrowed)
    {n p : Nat} {rest : List Nat} (listed : n ∈ mac.neighborList) (head : mac.queue n = p :: rest) :
    PoolsExact (dequeuePacket n p mac) borrowed ∧ Dequeued mac (dequeuePacket n p mac) n rest := by
  have member : p ∈ mac.blocks := by
    rw [Mac.blocks, List.mem_flatMap]
    exact ⟨n, listed, head ▸ List.mem_cons_self⟩
  obtain ⟨m, pointer⟩ := Option.isSome_iff_exists.mp (exactly.pointed p member)
  have bound : (mac.packet p).buf < mac.bufmem.num := by
    apply exactly.bufs.inUse.bounded
    exact List.mem_append_left _ (List.mem_map.mpr ⟨p, member, rfl⟩)
  have shape : dequeuePacket n p mac = { mac with
      neighborMemb := mac.neighborMemb.write n (NeighborQueue.remove p)
      packetMemb := mac.packetMemb.membFree p
      metadataMemb := mac.metadataMemb.membFree m
      bufmem := mac.bufmem.membFree (mac.packet p).buf
      buframmem := mac.buframmem.membFree (mac.bufmem.mem (mac.packet p).buf) } := by
    have freed := queuebufFree_of_lt ((mac.writeNeighbor n (NeighborQueue.remove p)).packet p).buf
      (mac.writeNeighbor n (NeighborQueue.remove p)) bound
    have pointed : (mac.packetMemb.mem p).ptr = some m := pointer
    simp only [dequeuePacket, freed]
    simp only [Mac.packet, Mac.writeNeighbor, pointed, Option.map_some, Option.getD_some]
  generalize dequeuePacket n p mac = next at shape
  have left : Dequeued mac next n rest := by
    subst shape
    refine ⟨rfl, ?_, ?_, ?_, ?_, ?_, ?_, rfl, rfl, rfl⟩
    · rw [Mac.queue, Mac.neighbor, Memb.write_same]
      change listRemove (mac.queue n) p = rest
      rw [head, listRemove, List.erase_cons_head]
    · intro other different
      exact Memb.write_other _ _ different
    · exact ⟨_, Memb.write_same _ _ _⟩
    · funext q
      exact congrFun (Memb.membFree_mem _ _) q
    · funext q
      simp only [Mac.metadata, Mac.packet, Memb.membFree_mem]
    · exact Memb.membFree_mem _ _
  obtain ⟨others, before, after⟩ := exactly.blocks_split listed
  have smaller := after next left.list fun other different =>
    congrArg NeighborQueue.packetQueue (left.others other different)
  rw [left.queue] at smaller
  rw [head, List.cons_append] at before
  have split : mac.blocks.Perm (p :: next.blocks) := before.trans (smaller.symm.cons p)
  have inside : ∀ q ∈ next.blocks, q ∈ mac.blocks := fun q kept =>
    split.mem_iff.mpr (List.mem_cons_of_mem p kept)
  have bufs : (mac.bufs borrowed).Perm ((mac.packet p).buf :: next.bufs borrowed) := by
    rw [Mac.bufs, Mac.bufs, left.packet]
    exact (split.map _).append_right borrowed
  have addr : ∀ other, (next.neighbor other).addr = (mac.neighbor other).addr := by
    intro other
    by_cases same : other = n
    · obtain ⟨queue, eq⟩ := left.neighbor
      rw [same, eq]
    · rw [left.others other same]
  refine ⟨⟨?_, ?_, ?_, ?_, ?_, ?_, ?_⟩, left⟩
  · rw [left.list]
    subst shape
    exact exactly.neighbors.write n _
  · have freed : next.packetMemb = mac.packetMemb.membFree p := by rw [shape]
    rw [freed]
    exact exactly.packets.free split
  · have freed : next.metadataMemb = mac.metadataMemb.membFree (mac.metadataOf p) := by
      rw [shape, Mac.metadataOf, pointer, Option.getD_some]
    have pointers : next.metadataOf = mac.metadataOf := by
      funext q
      simp only [Mac.metadataOf, left.packet]
    rw [freed, pointers]
    exact exactly.metadata.free (split.map _)
  · have freed : next.bufmem = mac.bufmem.membFree (mac.packet p).buf := by rw [shape]
    rw [freed]
    exact exactly.bufs.free bufs
  · have freed : next.buframmem = mac.buframmem.membFree (mac.bufmem.mem (mac.packet p).buf) := by
      rw [shape]
    rw [freed, left.ram]
    exact exactly.rams.free (bufs.map _)
  · intro q kept
    rw [left.packet]
    exact exactly.pointed q (inside q kept)
  · intro one listedOne two listedTwo
    rw [left.list] at listedOne listedTwo
    rw [addr, addr]
    exact exactly.addrs one listedOne two listedTwo

theorem PoolsExact.freeNeighbor
    (exactly : PoolsExact mac borrowed) {n : Nat} (listed : n ∈ mac.neighborList)
    (empty : mac.queue n = []) : PoolsExact (freeNeighbor n mac) borrowed := by
  have order : mac.neighborList.Perm (n :: listRemove mac.neighborList n) :=
    List.perm_cons_erase listed
  have blocks : mac.blocks.Perm (Csma.freeNeighbor n mac).blocks := by
    have moved := order.flatMap_right mac.queue
    rw [List.flatMap_cons, empty, List.nil_append] at moved
    have same : (Csma.freeNeighbor n mac).queue = mac.queue := by
      funext other
      simp only [Mac.queue, Mac.neighbor, Csma.freeNeighbor, Memb.membFree_mem]
    rw [Mac.blocks, Mac.blocks, same]
    exact moved
  have bufs : (mac.bufs borrowed).Perm ((Csma.freeNeighbor n mac).bufs borrowed) :=
    (blocks.map _).append_right borrowed
  refine ⟨exactly.neighbors.free order, exactly.packets.perm blocks.symm,
    exactly.metadata.perm (blocks.map _).symm, exactly.bufs.perm bufs.symm,
    exactly.rams.perm (bufs.map _).symm, ?_, ?_⟩
  · intro q kept
    exact exactly.pointed q (blocks.mem_iff.mpr kept)
  · intro one listedOne two listedTwo
    simp only [Mac.neighbor, Csma.freeNeighbor, Memb.membFree_mem]
    exact exactly.addrs one (List.mem_of_mem_erase listedOne) two (List.mem_of_mem_erase listedTwo)

structure Copied (mac next : Mac) (owned : List Nat) (buf : Nat) : Prop where
  rest : next = { mac with bufmem := next.bufmem, buframmem := next.buframmem }
  bufs : next.bufmem.Exactly (buf :: owned)
  rams : next.buframmem.Exactly ((buf :: owned).map next.bufmem.mem)
  others : ∀ other ∈ owned, next.bufmem.mem other = mac.bufmem.mem other

structure NotCopied (mac next : Mac) (owned : List Nat) : Prop where
  rest : next = { mac with bufmem := next.bufmem, buframmem := next.buframmem }
  bufs : next.bufmem.Exactly owned
  rams : next.buframmem.Exactly (owned.map mac.bufmem.mem)
  mem : next.bufmem.mem = mac.bufmem.mem
  bufCount : next.bufmem.count = mac.bufmem.count
  ramCount : next.buframmem.count = mac.buframmem.count

theorem queuebufNewFromPacketbuf_spec {owned : List Nat}
    (bufs : mac.bufmem.Exactly owned) (rams : mac.buframmem.Exactly (owned.map mac.bufmem.mem)) :
    (∃ buf, (queuebufNewFromPacketbuf mac).1 = some buf ∧
      Copied mac (queuebufNewFromPacketbuf mac).2 owned buf) ∨
    ((queuebufNewFromPacketbuf mac).1 = none ∧
      NotCopied mac (queuebufNewFromPacketbuf mac).2 owned) := by
  unfold queuebufNewFromPacketbuf
  rcases bufAlloc : mac.bufmem.membAlloc with ⟨_ | buf, bufmem⟩
  · obtain rfl := Memb.membAlloc_none bufAlloc
    exact Or.inr ⟨rfl, rfl, bufs, rams, rfl, rfl, rfl⟩
  · obtain ⟨taken, count, mem⟩ := bufs.taken bufAlloc
    rcases ramAlloc : mac.buframmem.membAlloc with ⟨_ | ram, buframmem⟩
    · obtain rfl := Memb.membAlloc_none ramAlloc
      exact Or.inr ⟨rfl, rfl, taken.free (List.Perm.refl _), rams,
        (Memb.membFree_mem _ _).trans mem, count, rfl⟩
    · have takenRam := (rams.taken ramAlloc).1
      have others : ∀ other ∈ owned, (bufmem.write buf fun _ => ram).mem other =
          mac.bufmem.mem other := by
        intro other inside
        have different : other ≠ buf := by
          rintro rfl
          exact (List.nodup_cons.mp taken.nodup).1 inside
        rw [Memb.write_other _ _ different, mem]
      dsimp only
      refine Or.inl ⟨buf, rfl, rfl, taken.write buf fun _ => ram, ?_, others⟩
      simp only [List.map_cons, Memb.write_same, List.map_congr_left others]
      exact takenRam.write ram _

structure Allocated (mac next : Mac) (borrowed : List Nat) (q m buf : Nat) : Prop where
  rest : next = { mac with
    packetMemb := next.packetMemb
    metadataMemb := next.metadataMemb
    bufmem := next.bufmem
    buframmem := next.buframmem }
  packets : next.packetMemb.Exactly (q :: mac.blocks)
  metadata : next.metadataMemb.Exactly (m :: mac.blocks.map mac.metadataOf)
  bufs : next.bufmem.Exactly (buf :: mac.bufs borrowed)
  rams : next.buframmem.Exactly ((buf :: mac.bufs borrowed).map next.bufmem.mem)
  packet : next.packet q = ⟨buf, some m⟩
  others : ∀ p ∈ mac.blocks, next.packet p = mac.packet p
  mem : next.metadataMemb.mem = mac.metadataMemb.mem
  ram : ∀ other ∈ mac.bufs borrowed, next.bufmem.mem other = mac.bufmem.mem other

structure SameCounts (mac next : Mac) : Prop where
  neighbors : next.neighborMemb.count = mac.neighborMemb.count
  packets : next.packetMemb.count = mac.packetMemb.count
  metadata : next.metadataMemb.count = mac.metadataMemb.count
  bufs : next.bufmem.count = mac.bufmem.count
  rams : next.buframmem.count = mac.buframmem.count

structure NotAllocated (mac next : Mac) (borrowed : List Nat) : Prop where
  rest : next = { mac with
    packetMemb := next.packetMemb
    metadataMemb := next.metadataMemb
    bufmem := next.bufmem
    buframmem := next.buframmem }
  same : SameQueues mac next
  pools : PoolsExact next borrowed
  counts : SameCounts mac next

theorem PoolsExact.allocatePacket (exactly : PoolsExact mac borrowed) :
    (∃ q m buf, (allocatePacket mac).1 = some q ∧
      Allocated mac (allocatePacket mac).2 borrowed q m buf) ∨
    ((allocatePacket mac).1 = none ∧ NotAllocated mac (allocatePacket mac).2 borrowed) := by
  unfold Csma.allocatePacket
  rcases packetAlloc : mac.packetMemb.membAlloc with ⟨_ | q, packetMemb⟩
  · obtain rfl := Memb.membAlloc_none packetAlloc
    exact Or.inr ⟨rfl, rfl, ⟨rfl, fun _ => rfl, fun _ => rfl, fun _ _ => rfl, fun _ _ => rfl⟩,
      exactly, ⟨rfl, rfl, rfl, rfl, rfl⟩⟩
  obtain ⟨taken, count, mem⟩ := exactly.packets.taken packetAlloc
  dsimp only
  have fresh : q ∉ mac.blocks := (List.nodup_cons.mp taken.nodup).1
  have packet : ∀ change : PacketQueue → PacketQueue, ∀ p ∈ mac.blocks,
      (packetMemb.write q change).mem p = mac.packet p := by
    intro change p inside
    have different : p ≠ q := by
      rintro rfl
      exact fresh inside
    rw [Memb.write_other _ _ different, mem]
    rfl
  have returned : ∀ change : PacketQueue → PacketQueue,
      ((packetMemb.write q change).membFree q).Exactly mac.blocks ∧
      ((packetMemb.write q change).membFree q).count = mac.packetMemb.count := by
    intro change
    exact ⟨(taken.write q change).free (List.Perm.refl _),
      (Memb.write_membFree _ _ _).trans count⟩
  rcases metadataAlloc : mac.metadataMemb.membAlloc with ⟨_ | m, metadataMemb⟩
  · obtain rfl := Memb.membAlloc_none metadataAlloc
    have queues : SameQueues mac { mac with
        packetMemb := (packetMemb.write q fun block => { block with ptr := none }).membFree q } := by
      refine ⟨rfl, fun _ => rfl, fun _ => rfl, ?_, ?_⟩
      · intro p inside
        simp only [Mac.packet, Memb.membFree_mem]
        exact packet _ p inside
      · intro p inside
        simp only [Mac.metadata, Mac.packet, Memb.membFree_mem, packet _ p inside]
    obtain ⟨left, leftCount⟩ := returned fun block => { block with ptr := none }
    exact Or.inr ⟨rfl, rfl, queues, exactly.of_same queues (fun _ _ => rfl) exactly.neighbors left
      exactly.metadata exactly.bufs exactly.rams, ⟨rfl, leftCount, rfl, rfl, rfl⟩⟩
  obtain ⟨takenMetadata, countMetadata, memMetadata⟩ := exactly.metadata.taken metadataAlloc
  dsimp only
  have linked : ({ mac with
      packetMemb := packetMemb.write q fun block => { block with ptr := some m }
      metadataMemb := metadataMemb } : Mac).bufmem.Exactly (mac.bufs borrowed) := exactly.bufs
  rcases queuebufNewFromPacketbuf_spec linked exactly.rams with ⟨buf, copied, copy⟩ | ⟨failed, copy⟩
  · generalize queuebufNewFromPacketbuf _ = result at copied copy ⊢
    obtain ⟨found, next⟩ := result
    dsimp only at copied copy ⊢
    subst copied
    rw [copy.rest]
    dsimp only
    have linkedBlock := (taken.write q fun block => { block with ptr := some m }).write q
      fun block => { block with buf := buf }
    refine Or.inl ⟨q, m, buf, rfl, rfl, linkedBlock, takenMetadata, copy.bufs, copy.rams, ?_, ?_,
      memMetadata, copy.others⟩
    · simp [Mac.packet]
    · intro p inside
      have different : p ≠ q := by
        rintro rfl
        exact fresh inside
      simp only [Mac.packet, Memb.write_other _ _ different, mem]
  · generalize queuebufNewFromPacketbuf _ = result at failed copy ⊢
    obtain ⟨found, next⟩ := result
    dsimp only at failed copy ⊢
    subst failed
    rw [copy.rest]
    dsimp only
    have queues : SameQueues mac { mac with
        packetMemb := (packetMemb.write q fun block => { block with ptr := some m }).membFree q
        metadataMemb := metadataMemb.membFree m
        bufmem := next.bufmem
        buframmem := next.buframmem } := by
      refine ⟨rfl, fun _ => rfl, fun _ => rfl, ?_, ?_⟩
      · intro p inside
        simp only [Mac.packet, Memb.membFree_mem]
        exact packet _ p inside
      · intro p inside
        simp only [Mac.metadata, Mac.packet, Memb.membFree_mem, packet _ p inside, memMetadata]
    obtain ⟨left, leftCount⟩ := returned fun block => { block with ptr := some m }
    exact Or.inr ⟨rfl, rfl, queues, exactly.of_same queues (fun buf _ => congrFun copy.mem buf)
      exactly.neighbors left (takenMetadata.free (List.Perm.refl _)) copy.bufs copy.rams,
      ⟨rfl, leftCount, countMetadata, copy.bufCount, copy.ramCount⟩⟩

variable (conf : CsmaConf)

structure Linked (mac next : Mac) (n q : Nat) (request : Request) : Prop where
  list : next.neighborList = mac.neighborList
  neighbor : next.neighbor n = { mac.neighbor n with packetQueue := mac.queue n ++ [q] }
  others : ∀ other, other ≠ n → next.neighbor other = mac.neighbor other
  new : next.request n q = request
  old : ∀ p ∈ mac.blocks, next.metadata p = mac.metadata p
  fresh : q ∉ mac.blocks
  log : next.log = mac.log ++ [.accepted request]
  calls : next.calls = mac.calls
  requests : next.requests = mac.requests

theorem PoolsExact.linkPacket {mac allocated : Mac}
    (exactly : PoolsExact mac borrowed) {n q m buf : Nat} (listed : n ∈ mac.neighborList)
    (alloc : Allocated mac allocated borrowed q m buf) (sent : Option Nat) (ptr : Nat) :
    PoolsExact (linkPacket conf n q sent ptr allocated) borrowed ∧
      Linked mac (linkPacket conf n q sent ptr allocated) n q
        ⟨mac.requests, (mac.neighbor n).addr, sent, ptr, maxTransmissions conf mac.packetbuf⟩ := by
  have fresh : q ∉ mac.blocks := (List.nodup_cons.mp alloc.packets.nodup).1
  have freshMetadata := (List.nodup_cons.mp alloc.metadata.nodup).1
  have absent : q ∉ mac.queue n := by
    intro inside
    exact fresh (List.mem_flatMap.mpr ⟨n, listed, inside⟩)
  have shape : Csma.linkPacket conf n q sent ptr allocated = { mac with
      neighborMemb := mac.neighborMemb.write n (NeighborQueue.add q)
      packetMemb := allocated.packetMemb
      metadataMemb := allocated.metadataMemb.write m fun _ =>
        ⟨sent, ptr, maxTransmissions conf mac.packetbuf, mac.requests⟩
      bufmem := allocated.bufmem
      buframmem := allocated.buframmem
      log := mac.log ++ [.accepted ⟨mac.requests, (mac.neighbor n).addr, sent, ptr,
        maxTransmissions conf mac.packetbuf⟩] } := by
    have pointer : (allocated.packetMemb.mem q).ptr = some m := congrArg PacketQueue.ptr alloc.packet
    rw [alloc.rest]
    simp only [Csma.linkPacket, Mac.packet, pointer, Option.map_some, Option.getD_some,
      Mac.writeNeighbor, Mac.request, Mac.metadata, Mac.neighbor, Memb.write_same]
    rfl
  generalize Csma.linkPacket conf n q sent ptr allocated = next at shape
  have packet : next.packet = allocated.packet := by
    rw [shape]
    rfl
  have pointer : (next.packet q).ptr = some m := by rw [packet, alloc.packet]
  have metadata : ∀ p ∈ mac.blocks, next.metadata p = mac.metadata p := by
    intro p inside
    obtain ⟨k, owned⟩ := Option.isSome_iff_exists.mp (exactly.pointed p inside)
    have different : k ≠ m := by
      rintro rfl
      apply freshMetadata
      rw [List.mem_map]
      exact ⟨p, inside, by rw [Mac.metadataOf, owned, Option.getD_some]⟩
    have kept : next.metadataMemb.mem k = mac.metadataMemb.mem k := by
      rw [shape]
      dsimp only
      rw [Memb.write_other _ _ different, alloc.mem]
    simp only [Mac.metadata, packet, alloc.others p inside, owned, Option.map_some, kept]
  have neighbor : next.neighbor n = { mac.neighbor n with packetQueue := mac.queue n ++ [q] } := by
    have written : next.neighbor n = (mac.neighbor n).add q := by
      rw [shape]
      exact Memb.write_same _ _ _
    rw [written, NeighborQueue.add, ← listAdd_of_not_mem absent]
    rfl
  have others : ∀ other, other ≠ n → next.neighbor other = mac.neighbor other := by
    intro other different
    rw [shape]
    exact Memb.write_other _ _ different
  have list : next.neighborList = mac.neighborList := by rw [shape]
  have linked : Linked mac next n q
      ⟨mac.requests, (mac.neighbor n).addr, sent, ptr, maxTransmissions conf mac.packetbuf⟩ := by
    refine ⟨list, neighbor, others, ?_, metadata, fresh, by rw [shape], by rw [shape],
      by rw [shape]⟩
    have filled : next.metadata q =
        ⟨sent, ptr, maxTransmissions conf mac.packetbuf, mac.requests⟩ := by
      rw [Mac.metadata, pointer, shape]
      simp
    rw [Mac.request, filled, neighbor]
  refine ⟨?_, linked⟩
  obtain ⟨around, before, after⟩ := exactly.blocks_split listed
  have larger := after next list fun other different =>
    congrArg NeighborQueue.packetQueue (others other different)
  have queue : next.queue n = mac.queue n ++ [q] := by rw [Mac.queue, neighbor]
  have split : next.blocks.Perm (q :: mac.blocks) := by
    rw [queue, List.append_assoc, List.singleton_append] at larger
    exact larger.trans (List.perm_middle.trans (before.symm.cons q))
  have bufs : (next.bufs borrowed).Perm (buf :: mac.bufs borrowed) := by
    have mapped : next.blocks.map (fun p => (next.packet p).buf) |>.Perm
        (buf :: mac.blocks.map fun p => (mac.packet p).buf) := by
      have moved := split.map fun p => (next.packet p).buf
      rw [List.map_cons, packet, alloc.packet] at moved
      rw [packet]
      refine moved.trans (List.Perm.of_eq ?_)
      congr 1
      exact List.map_congr_left fun p inside => congrArg PacketQueue.buf (alloc.others p inside)
    exact mapped.append_right borrowed
  have pointers : (next.blocks.map next.metadataOf).Perm (m :: mac.blocks.map mac.metadataOf) := by
    refine (split.map _).trans (List.Perm.of_eq ?_)
    rw [List.map_cons, Mac.metadataOf, pointer, Option.getD_some]
    congr 1
    apply List.map_congr_left
    intro p inside
    rw [Mac.metadataOf, Mac.metadataOf, packet, alloc.others p inside]
  have ram : next.bufmem = allocated.bufmem := by rw [shape]
  have addr : ∀ other, (next.neighbor other).addr = (mac.neighbor other).addr := by
    intro other
    by_cases same : other = n
    · rw [same, neighbor]
    · rw [others other same]
  refine ⟨?_, ?_, ?_, ?_, ?_, ?_, ?_⟩
  · rw [list, shape]
    exact exactly.neighbors.write n _
  · have kept : next.packetMemb = allocated.packetMemb := by rw [shape]
    rw [kept]
    exact alloc.packets.perm split
  · have written : next.metadataMemb = allocated.metadataMemb.write m fun _ =>
        ⟨sent, ptr, maxTransmissions conf mac.packetbuf, mac.requests⟩ := by rw [shape]
    rw [written]
    exact (alloc.metadata.write m _).perm pointers
  · rw [ram]
    exact alloc.bufs.perm bufs
  · have kept : next.buframmem = allocated.buframmem := by rw [shape]
    rw [kept, ram]
    exact alloc.rams.perm (bufs.map _)
  · intro p inside
    rcases List.mem_cons.mp (split.mem_iff.mp inside) with rfl | earlier
    · rw [pointer]
      rfl
    · rw [packet, alloc.others p earlier]
      exact exactly.pointed p earlier
  · intro one listedOne two listedTwo
    rw [list] at listedOne listedTwo
    rw [addr, addr]
    exact exactly.addrs one listedOne two listedTwo

end MultiPhyTsch.Csma
