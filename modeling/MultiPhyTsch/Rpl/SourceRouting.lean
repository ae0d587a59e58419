import MultiPhyTsch.Lib.Run
import MultiPhyTsch.Rpl.Types

/-! The graph of child-parent links at the root (`uip-sr.c`), and what its operations keep of it. A
node is the index of its block in the pool; the graph a node belongs to is a pointer of the routing
protocol, which is only compared. -/

namespace MultiPhyTsch.Rpl

def uipSrInfiniteLifetime : UInt32 := 0xffffffff

def uipSrRemovalDelay : UInt32 := 60

structure UipSrNode where
  lifetime : UInt32
  graph : Option Nat
  linkIdentifier : Vector UInt8 8
  parent : Option Nat
deriving DecidableEq, Repr

instance : Inhabited UipSrNode := ⟨⟨0, none, Vector.replicate 8 0, none⟩⟩

structure UipSr where
  numNodes : Int
  nodelist : List Nat
  nodememb : Memb UipSrNode

/-- What the routing protocol answers: the DAG whose prefix completes the address of a node, and
the address of the root, which is the same one unless no instance is used. -/
structure SrRouting where
  dagId : UipIpaddr
  rootIpaddr : UipIpaddr

def linkIdentifierOf (ipaddr : UipIpaddr) : Vector UInt8 8 :=
  Vector.ofFn fun i => ipaddr[8 + i.val]

def getSrNodeIpaddr (dagId : UipIpaddr) (node : UipSrNode) : UipIpaddr :=
  Vector.ofFn fun i =>
    if i.val < 8 then dagId[i.val] else node.linkIdentifier[i.val - 8]

def hostAddr (host : UInt8) : UipIpaddr := #v[0xfd, 0, 0, 0, 0, 0, 0, 0, 0, 0, 0, 0, 0, 0, 0, host]

namespace UipSr

variable (routing : SrRouting)

def uipSrInit (sr : UipSr) : UipSr := ⟨0, [], sr.nodememb.membInit⟩

def write (sr : UipSr) (node : Nat) (change : UipSrNode → UipSrNode) : UipSr :=
  { sr with nodememb := sr.nodememb.write node change }

@[simp] theorem write_mem_same (sr : UipSr) (node : Nat) (change : UipSrNode → UipSrNode) :
    (sr.write node change).nodememb.mem node = change (sr.nodememb.mem node) :=
  Memb.write_same sr.nodememb node change

theorem write_mem_other (sr : UipSr) {node other : Nat} (change : UipSrNode → UipSrNode)
    (different : other ≠ node) :
    (sr.write node change).nodememb.mem other = sr.nodememb.mem other :=
  Memb.write_other sr.nodememb change different

theorem write_inUse {sr : UipSr} {blocks : List Nat} (used : sr.nodememb.InUse blocks) (node : Nat)
    (change : UipSrNode → UipSrNode) : (sr.write node change).nodememb.InUse blocks :=
  used.write node change

theorem write_write (sr : UipSr) (node : Nat) (first second : UipSrNode → UipSrNode) :
    (sr.write node first).write node second = sr.write node fun item => second (first item) := by
  unfold UipSr.write Memb.write
  simp

def nodeMatchesAddress (graph : Option Nat) (addr : UipIpaddr) (sr : UipSr) (node : Nat) : Bool :=
  (sr.nodememb.mem node).graph = graph &&
    getSrNodeIpaddr routing.dagId (sr.nodememb.mem node) = addr

def uipSrGetNode (graph : Option Nat) (addr : UipIpaddr) (sr : UipSr) : Option Nat :=
  sr.nodelist.find? (sr.nodeMatchesAddress routing graph addr)

/-- The loop of `get_hop_count`: where it ends and what is left of `max_depth`. -/
def climb (sr : UipSr) (rootNode : Option Nat) : Nat → Option Nat → Option Nat × Nat
  | 0, node => (node, 0)
  | maxDepth + 1, none => (none, maxDepth + 1)
  | maxDepth + 1, some node =>
    if some node = rootNode then (some node, maxDepth + 1)
    else sr.climb rootNode maxDepth (sr.nodememb.mem node).parent

variable (graph : Option Nat)

def getHopCount (addr : UipIpaddr) (sr : UipSr) : Int :=
  let rootNode := sr.uipSrGetNode routing graph routing.rootIpaddr
  let (node, maxDepth) :=
    sr.climb rootNode sr.nodememb.num (sr.uipSrGetNode routing graph addr)
  if node.isSome && node = rootNode then (sr.nodememb.num : Int) - maxDepth else -1

def uipSrIsAddrReachable (addr : UipIpaddr) (sr : UipSr) : Bool :=
  sr.getHopCount routing graph addr != -1

def uipSrExpireParent (child parent : UipIpaddr) (sr : UipSr) : UipSr :=
  match sr.uipSrGetNode routing graph child with
  | some node =>
    if (sr.nodememb.mem node).parent.any (sr.nodeMatchesAddress routing graph parent) then
      sr.write node fun item => { item with lifetime := uipSrRemovalDelay }
    else sr
  | none => sr

def childNode (found : Option Nat) (sr : UipSr) : Option Nat × UipSr :=
  match found with
  | some node => (some node, sr)
  | none =>
    match sr.nodememb.membAlloc with
    | (some node, nodememb) =>
      (some node,
        { UipSr.write { sr with nodememb := nodememb } node fun item =>
            { item with parent := none } with
          nodelist := listAdd sr.nodelist node
          numNodes := sr.numNodes + 1 })
    | (none, _) => (none, sr)

/-- The end of `uip_sr_update_node`: the parent is taken unless it makes a node unreachable that was
reachable before. -/
def linkChild (graph : Option Nat) (child : UipIpaddr) (lifetime : UInt32) (parentNode : Option Nat)
    (node : Nat) (sr : UipSr) : UipSr :=
  let sr := sr.write node fun item =>
    { item with graph := graph, lifetime := lifetime, linkIdentifier := linkIdentifierOf child }
  let linked := sr.write node fun item => { item with parent := parentNode }
  if sr.uipSrIsAddrReachable routing graph child then
    if linked.uipSrIsAddrReachable routing graph child then linked
    else linked.write node fun item => { item with parent := (sr.nodememb.mem node).parent }
  else linked

def updateFound (graph : Option Nat) (child : UipIpaddr) (lifetime : UInt32)
    (found parentNode : Option Nat) (sr : UipSr) : Option Nat × UipSr :=
  match sr.childNode found with
  | (some node, sr) => (some node, sr.linkChild routing graph child lifetime parentNode node)
  | (none, sr) => (none, sr)

def uipSrUpdateNode (graph : Option Nat) (child : UipIpaddr) (parent : Option UipIpaddr)
    (lifetime : UInt32) (sr : UipSr) : Option Nat × UipSr :=
  let found := sr.uipSrGetNode routing graph child
  match parent with
  | none => sr.updateFound routing graph child lifetime found none
  | some addr =>
    match sr.uipSrGetNode routing graph addr with
    | some parentNode => sr.updateFound routing graph child lifetime found (some parentNode)
    | none =>
      -- the call for the parent, which has no parent of its own
      match sr.updateFound routing graph addr uipSrInfiniteLifetime none none with
      | (some parentNode, sr) =>
        sr.updateFound routing graph child lifetime found (some parentNode)
      | (none, sr) => (none, sr)

def deallocate (sr : UipSr) (node : Nat) : UipSr :=
  { sr with
    nodelist := listRemove sr.nodelist node
    nodememb := sr.nodememb.membFree node
    numNodes := sr.numNodes - 1 }

/-- The body of the loop of `uip_sr_periodic`. The search for a child has no effect. -/
def expireNode (seconds : UInt32) (sr : UipSr) (node : Nat) : UipSr :=
  if (sr.nodememb.mem node).lifetime = 0 then sr.deallocate node
  else if (sr.nodememb.mem node).lifetime ≠ uipSrInfiniteLifetime then
    sr.write node fun item =>
      { item with lifetime := if item.lifetime > seconds then item.lifetime - seconds else 0 }
  else sr

def uipSrPeriodic (seconds : UInt32) (sr : UipSr) : UipSr :=
  sr.nodelist.foldl (expireNode seconds) sr

def uipSrFreeAll (sr : UipSr) : UipSr := sr.nodelist.foldl deallocate sr

end UipSr

inductive SrStep where
  | updateNode (routing : SrRouting) (graph : Option Nat) (child : UipIpaddr)
      (parent : Option UipIpaddr) (lifetime : UInt32)
  | expireParent (routing : SrRouting) (graph : Option Nat) (child parent : UipIpaddr)
  | periodic (seconds : UInt32)
  | freeAll

def SrStep.apply (sr : UipSr) : SrStep → UipSr
  | .updateNode routing graph child parent lifetime =>
    (sr.uipSrUpdateNode routing graph child parent lifetime).2
  | .expireParent routing graph child parent => sr.uipSrExpireParent routing graph child parent
  | .periodic seconds => sr.uipSrPeriodic seconds
  | .freeAll => sr.uipSrFreeAll

end MultiPhyTsch.Rpl
