import MultiPhyTsch.Ipv6.Packet
import MultiPhyTsch.Lib.Loop
import MultiPhyTsch.Rpl.Dag
import MultiPhyTsch.Rpl.SourceRouting

/-! The extension headers of RPL (`rpl-ext-header.c`). A function that may not return gives an
option, none if it does not. -/

namespace MultiPhyTsch.Rpl

open MultiPhyTsch.Ipv6

def rplHopByHopLen : Nat := 8
def rplHdrOptLen : UInt8 := 4
def rplRhLen : Nat := 4
def rplSrhLen : Nat := 4
def rplRhTypeSrh : UInt8 := 3

def rplHdrOptDown : UInt8 := 0x80
def rplHdrOptRankErr : UInt8 := 0x40
def rplHdrOptFwdErr : UInt8 := 0x20

/-- A router: its instance and neighbors, the graph if it is a root, what IPv6 knows of itself, and
the room in `uip_buf` from the IPv6 header on. -/
structure RplRouter where
  node : RplNode
  prefixLength : UInt8
  sr : UipSr
  isMyAddr : UipIpaddr → Bool
  curHopLimit : UInt8
  room : UInt16
  loopErrorDrop : Bool

namespace RplRouter

variable (router : RplRouter)

def routing : SrRouting :=
  ⟨router.node.currInstance.dag.dagId, router.node.currInstance.dag.dagId⟩

def rplIsAddrInOurDag (addr : UipIpaddr) : Bool :=
  router.node.currInstance.used &&
    router.node.currInstance.dag.dagId.toList.take (router.prefixLength.toNat / 8) =
      addr.toList.take (router.prefixLength.toNat / 8)

def getNode (addr : UipIpaddr) : Option Nat :=
  router.sr.uipSrGetNode router.routing none addr

def nodeIpaddr (node : Nat) : UipIpaddr :=
  getSrNodeIpaddr router.routing.dagId (router.sr.nodememb.mem node)

end RplRouter

structure HeaderSearch where
  last : Option UInt8
  extLen : UInt8
deriving DecidableEq, Repr

namespace HeaderSearch

def nextHdr (search : HeaderSearch) : Nat :=
  search.last.elim protoField fun last => uipIphLen + last.toNat

def ext (search : HeaderSearch) : Nat := uipIphLen + search.extLen.toNat

def start : HeaderSearch := ⟨none, 0⟩

def skip (buf : Memory UInt8) (search : HeaderSearch) : HeaderSearch :=
  ⟨some search.extLen, search.extLen + UInt8.ofNat (extHdrLen (buf (search.ext + 1)))⟩

def step (buf : Memory UInt8) (search : HeaderSearch) : Option HeaderSearch :=
  if buf search.nextHdr = uipProtoHbho ∨ buf search.nextHdr = uipProtoDesto then
    some (search.skip buf)
  else none

end HeaderSearch

def searchRounds : Nat := 65792

def findRoutingHeader (buf : Memory UInt8) : Option HeaderSearch :=
  Loop.final (HeaderSearch.step buf) searchRounds HeaderSearch.start

def isSrh (buf : Memory UInt8) (search : HeaderSearch) : Bool :=
  buf search.nextHdr = uipProtoRouting && buf (search.ext + 2) = rplRhTypeSrh

def createLinklocalPrefix (addr : UipIpaddr) : UipIpaddr :=
  Vector.ofFn fun i =>
    if i.val = 0 then 0xfe else if i.val = 1 then 0x80 else if i.val < 8 then 0 else addr.get i

/-- The next hop, if there is one. Out of the DAG `uip_ext_len` is left where the search ended. -/
def rplExtHeaderSrhGetNextHop (router : RplRouter) (packet : UipPacket) :
    Option (Option UipIpaddr × UipPacket) :=
  (findRoutingHeader packet.buf).map fun search =>
    if !router.rplIsAddrInOurDag packet.destipaddr then
      (none, { packet with uipExtLen := search.extLen })
    else
      let rootNode := router.getNode router.node.currInstance.dag.dagId
      let child := (router.getNode packet.destipaddr).any fun destNode =>
        rootNode.isSome && (router.sr.nodememb.mem destNode).parent = rootNode
      if isSrh packet.buf search || child then
        (some (createLinklocalPrefix packet.destipaddr), packet)
      else (none, packet)

def srhPathLen (extLen padding cmpri cmpre : UInt8) : UInt8 :=
  UInt8.ofInt (((extLen.toNat : Int) - padding.toNat - rplRhLen - rplSrhLen -
    (16 - (cmpre.toNat : Int))).tdiv (16 - cmpri.toNat) + 1)

/-- The next address of the header at `rh` and the destination change places. -/
def srhSwap (buf : Memory UInt8) (rh : Nat) : Memory UInt8 :=
  let segmentsLeft := buf (rh + 3)
  let extLen := buf (rh + 1) * 8 + 8
  let cmpri := buf (rh + rplRhLen) >>> 4
  let cmpre := buf (rh + rplRhLen) &&& 0x0f
  let padding := buf (rh + rplRhLen + 1) >>> 4
  if segmentsLeft = 0 then buf
  else
    let i := srhPathLen extLen padding cmpri cmpre - segmentsLeft
    let addrPtr := rh + rplRhLen + rplSrhLen + i.toNat * (16 - cmpri.toNat)
    let cmpr := (if segmentsLeft = 1 then cmpre else cmpri).toNat
    let currentDestAddr := buf.read destipaddrField 16
    let visited := moveBytes buf (destipaddrField + cmpr) addrPtr (16 - cmpr)
    (visited.write addrPtr (currentDestAddr.drop cmpr)).write (rh + 3) [segmentsLeft - 1]

def rplExtHeaderSrhUpdate (packet : UipPacket) : Option (Bool × UipPacket) :=
  (findRoutingHeader packet.buf).map fun search =>
    if isSrh packet.buf search then (true, { packet with buf := srhSwap packet.buf search.ext })
    else (false, packet)

def countMatchingBytes (first second : UipIpaddr) : Nat :=
  ((List.finRange 16).takeWhile fun i => first.get i = second.get i).length

def hopsAbove (sr : UipSr) (rootNode : Nat) : Nat → Option Nat → Option (List Nat)
  | _, none => some []
  | 0, some node => if node = rootNode then some [] else none
  | fuel + 1, some node =>
    if node = rootNode then some []
    else (hopsAbove sr rootNode fuel (sr.nodememb.mem node).parent).map (node :: ·)

def hopsBelow (sr : UipSr) (rootNode : Nat) : Nat → Option Nat → Option (List Nat × Option Nat)
  | _, none => some ([], none)
  | 0, some node => if (sr.nodememb.mem node).parent = some rootNode then some ([], some node) else none
  | fuel + 1, some node =>
    if (sr.nodememb.mem node).parent = some rootNode then some ([], some node)
    else (hopsBelow sr rootNode fuel (sr.nodememb.mem node).parent).map fun found =>
      (node :: found.1, found.2)

def moveCount (uipLen : UInt16) : Nat := (((uipLen.toNat : Int) - uipIphLen) % 2 ^ 32).toNat

def addIpLen (buf : Memory UInt8) (len : UInt8) : Memory UInt8 :=
  let tempLen := buf (lenField + 1)
  let buf := buf.write (lenField + 1) [tempLen + len]
  if buf (lenField + 1) < tempLen then buf.write lenField [buf lenField + 1] else buf

def writeHops (router : RplRouter) (cmpri : Nat) : List Nat → Nat → Memory UInt8 → Memory UInt8
  | [], _, buf => buf
  | node :: hops, hopPtr, buf =>
    writeHops router cmpri hops (hopPtr - (16 - cmpri))
      (buf.write (hopPtr - (16 - cmpri)) ((router.nodeIpaddr node).toList.drop cmpri))

structure SrhSizes where
  pathLen : UInt8
  cmpri : UInt8
  padding : UInt8
  extLen : UInt8
deriving DecidableEq, Repr

def srhSizes (router : RplRouter) (dest : UipIpaddr) (hops : List Nat) : SrhSizes :=
  let pathLen := UInt8.ofNat hops.length
  let cmpri := hops.foldl (fun cmpri node =>
    UInt8.ofNat (min cmpri.toNat (countMatchingBytes (router.nodeIpaddr node) dest))) 15
  let extLen := UInt8.ofInt ((rplRhLen : Int) + rplSrhLen +
    ((pathLen.toNat : Int) - 1) * (16 - cmpri.toNat) + (16 - cmpri.toNat))
  let padding := if extLen % 8 = 0 then 0 else 8 - extLen % 8
  ⟨pathLen, cmpri, padding, extLen + padding⟩

def writeSrh (sizes : SrhSizes) (rh : Nat) (buf : Memory UInt8) : Memory UInt8 :=
  let next := buf protoField
  let buf := (buf.write rh [next]).write protoField [uipProtoRouting]
  buf.write (rh + 1) [UInt8.ofInt (((sizes.extLen.toNat : Int) - 8).tdiv 8), rplRhTypeSrh,
    sizes.pathLen, (sizes.cmpri <<< 4) + sizes.cmpri, sizes.padding <<< 4]

def placeSrh (router : RplRouter) (sizes : SrhSizes) (hops : List Nat) (nextHop : Nat)
    (packet : UipPacket) : UipPacket :=
  let rh := packet.extBuf
  let moved := moveBytes packet.buf (rh + sizes.extLen.toNat) rh (moveCount packet.uipLen)
  let cleared := moved.write rh (List.replicate sizes.extLen.toNat 0)
  let addressed := writeHops router sizes.cmpri.toNat hops
    (rh + sizes.extLen.toNat - sizes.padding.toNat) (writeSrh sizes rh cleared)
  { buf := addIpLen (writeIpaddr addressed destipaddrField (router.nodeIpaddr nextHop)) sizes.extLen
    uipLen := packet.uipLen + sizes.extLen.toUInt16
    uipExtLen := packet.uipExtLen + sizes.extLen }

def insertSrhHeader (router : RplRouter) (packet : UipPacket) : Option (Bool × UipPacket) :=
  let dest := packet.destipaddr
  if !router.rplIsAddrInOurDag dest then some (true, packet)
  else
    match router.getNode dest with
    | none => some (true, packet)
    | some destNode =>
      match router.getNode router.node.currInstance.dag.dagId with
      | none => some (false, packet)
      | some rootNode =>
        if !router.sr.uipSrIsAddrReachable router.routing none dest then some (false, packet)
        else
          let fuel := router.sr.nodememb.num
          match hopsAbove router.sr rootNode fuel (router.sr.nodememb.mem destNode).parent with
          | none => none
          | some hops =>
            let sizes := srhSizes router dest hops
            if packet.uipLen.toNat + sizes.extLen.toNat > router.room.toNat then
              some (false, packet)
            else
              (hopsBelow router.sr rootNode fuel (some destNode)).map fun below =>
                -- without a node left the address of the last one stays where it was read
                (true, placeSrh router sizes below.1
                  (below.2.getD (below.1.getLastD destNode)) packet)

def rplExtHeaderHbhUpdate (conf : RplConf) (router : RplRouter) (sender : LinkAddr)
    (uipExtOptOffset : Nat) (packet : UipPacket) : Bool × UipPacket × RplNode :=
  let opt := packet.extBuf + uipExtOptOffset
  let inst := router.node.currInstance
  if packet.buf (packet.extBuf + 1) ≠ 0 ∨ packet.buf opt ≠ uipExtHdrOptRpl ∨
      packet.buf (opt + 1) ≠ rplHdrOptLen then (false, packet, router.node)
  else if !inst.used ∨ inst.instanceId ≠ packet.buf (opt + 3) then (false, packet, router.node)
  else if packet.buf (opt + 2) &&& rplHdrOptFwdErr ≠ 0 then (false, packet, router.node)
  else
    let flags := packet.buf (opt + 2)
    let down : Bool := flags &&& rplHdrOptDown ≠ 0
    let senderRank := (packet.buf (opt + 4)).toUInt16 <<< 8 ||| (packet.buf (opt + 5)).toUInt16
    let rankErrorSignaled : Bool := flags &&& rplHdrOptRankErr ≠ 0
    let senderCloser : Bool := senderRank < inst.dag.rank
    let loopDetected := down == !senderCloser
    let packet := if loopDetected then packet.store (opt + 2) (flags ||| rplHdrOptRankErr) else packet
    (!(loopDetected && rankErrorSignaled && router.loopErrorDrop), packet,
      router.node.rplProcessHbh conf (router.node.rplNeighborGetFromLladdr (some sender)) senderRank
        loopDetected rankErrorSignaled)

def writeRankAndInstance (inst : RplInstance) (opt : Nat) (buf : Memory UInt8) : Memory UInt8 :=
  buf.write (opt + 3) [inst.instanceId, (inst.dag.rank >>> 8).toUInt8, inst.dag.rank.toUInt8]

/-- `update_hbh_header`. A header of the wrong size leaves `uip_ext_len` at zero. -/
def updateHbhHeader (router : RplRouter) (packet : UipPacket) : Bool × UipPacket :=
  let inst := router.node.currInstance
  let hbho := uipIphLen
  let opt := hbho + 2
  if packet.proto = uipProtoHbho ∧ packet.buf opt = uipExtHdrOptRpl then
    if packet.buf (hbho + 1) ≠ 0 ∨ packet.buf (opt + 1) ≠ rplHdrOptLen then
      (false, { packet with uipExtLen := 0 })
    else if !inst.used ∨ inst.instanceId ≠ packet.buf (opt + 3) then (false, packet)
    else (true, { packet with buf := writeRankAndInstance inst opt packet.buf })
  else (true, packet)

def placeHbh (router : RplRouter) (packet : UipPacket) : UipPacket :=
  let hbho := uipIphLen
  let moved := moveBytes packet.buf (hbho + rplHopByHopLen) hbho (moveCount packet.uipLen)
  let cleared := moved.write hbho (List.replicate rplHopByHopLen 0)
  let next := cleared protoField
  let buf := (cleared.write hbho [next]).write protoField [uipProtoHbho]
  let buf := buf.write (hbho + 1) [0, uipExtHdrOptRpl, rplHdrOptLen, 0]
  { buf := addIpLen (writeRankAndInstance router.node.currInstance (hbho + 2) buf)
      (UInt8.ofNat rplHopByHopLen)
    uipLen := packet.uipLen + UInt16.ofNat rplHopByHopLen
    uipExtLen := packet.uipExtLen + UInt8.ofNat rplHopByHopLen }

def insertHbhHeader (router : RplRouter) (packet : UipPacket) : Bool × UipPacket :=
  if packet.uipLen.toNat + rplHopByHopLen > router.room.toNat then (false, packet)
  else updateHbhHeader router (placeHbh router packet)

structure HeaderRemoval where
  packet : UipPacket
  nextHdr : Nat

namespace HeaderRemoval

def ext (removal : HeaderRemoval) : Nat := removal.packet.extBuf

def subIpLen (buf : Memory UInt8) (len : UInt8) : Memory UInt8 :=
  let tempLen := buf (lenField + 1)
  let buf := buf.write (lenField + 1) [tempLen - len]
  if buf (lenField + 1) > tempLen then buf.write lenField [buf lenField - 1] else buf

variable (removal : HeaderRemoval)

def unlink : Memory UInt8 :=
  removal.packet.buf.write removal.nextHdr [removal.packet.buf removal.ext]

def rplExtHdrLen : UInt8 := removal.unlink (removal.ext + 1) * 8 + 8

def remove : HeaderRemoval :=
  let uipLen := removal.packet.uipLen - removal.rplExtHdrLen.toUInt16
  { removal with
    packet := { removal.packet with
      buf := moveBytes (subIpLen removal.unlink removal.rplExtHdrLen) removal.ext
        (removal.ext + removal.rplExtHdrLen.toNat) (moveCount uipLen)
      uipLen := uipLen } }

def skip : HeaderRemoval :=
  { packet := { removal.packet with
      uipExtLen := removal.packet.uipExtLen +
        UInt8.ofNat (extHdrLen (removal.packet.buf (removal.ext + 1))) }
    nextHdr := removal.ext }

def isRpl : Bool :=
  removal.packet.buf removal.nextHdr = uipProtoRouting ||
    removal.packet.buf removal.nextHdr = uipProtoHbho &&
      removal.packet.buf (removal.ext + 2) = uipExtHdrOptRpl

def step : Option HeaderRemoval :=
  if removal.isRpl then some removal.remove
  else if removal.packet.buf removal.nextHdr = uipProtoHbho ∨
      removal.packet.buf removal.nextHdr = uipProtoDesto then some removal.skip
  else none

def start (packet : UipPacket) : HeaderRemoval := ⟨{ packet with uipExtLen := 0 }, protoField⟩

end HeaderRemoval

def rplExtHeaderRemove (rounds : Nat) (packet : UipPacket) : Option UipPacket :=
  (Loop.final HeaderRemoval.step rounds (HeaderRemoval.start packet)).map HeaderRemoval.packet

def rplExtHeaderUpdate (rounds : Nat) (router : RplRouter) (packet : UipPacket) :
    Option (Bool × UipPacket) :=
  if !router.node.currInstance.used || isAddrLinklocal packet.destipaddr ||
      isAddrMcast packet.destipaddr then some (true, packet)
  else if router.node.isRoot then
    (rplExtHeaderRemove rounds packet).bind (insertSrhHeader router)
  else if router.isMyAddr packet.srcipaddr && packet.buf ttlField = router.curHopLimit then
    some (insertHbhHeader router packet)
  else some (updateHbhHeader router packet)

end MultiPhyTsch.Rpl
