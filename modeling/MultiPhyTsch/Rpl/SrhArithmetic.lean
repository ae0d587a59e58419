import MultiPhyTsch.Rpl.SourceRoute
import MultiPhyTsch.Rpl.SrhConfinement

/-! The lengths of source-routing headers, which are bytes: of the one that the root inserts, for a
path of any length, and of one that is received. -/

namespace MultiPhyTsch.Rpl

open MultiPhyTsch.Ipv6

variable (router : RplRouter)

variable (dest : UipIpaddr)

variable (hops : List Nat)

def sharedBytes : Nat :=
  hops.foldl (fun least node => min least (countMatchingBytes (router.nodeIpaddr node) dest)) 15

def pathBytes : Nat :=
  hops.length * (16 - sharedBytes router dest hops)

theorem cmpri_fold :
    ∀ {cmpri : UInt8} {least : Nat}, cmpri.toNat = least → (hops.foldl (fun cmpri node =>
      UInt8.ofNat (min cmpri.toNat (countMatchingBytes (router.nodeIpaddr node) dest))) cmpri).toNat
        = hops.foldl (fun least node =>
          min least (countMatchingBytes (router.nodeIpaddr node) dest)) least := by
  induction hops with
  | nil => exact fun same => same
  | cons node hops ih =>
    intro cmpri least same
    refine ih ?_
    have bound := UInt8.toNat_lt cmpri
    rw [UInt8.toNat_ofNat', same]
    dsimp only
    omega

theorem cmpri_eq : (srhSizes router dest hops).cmpri.toNat = sharedBytes router dest hops :=
  cmpri_fold router dest hops rfl

theorem pathBytes_eq :
    hops.length * hopSize (srhSizes router dest hops).cmpri = pathBytes router dest hops := by
  unfold hopSize pathBytes
  rw [cmpri_eq]

theorem srhSizes_extLen : (srhSizes router dest hops).extLen.toNat =
        (8 + pathBytes router dest hops + paddingOf (pathBytes router dest hops)) % 256 ∧
      (srhSizes router dest hops).padding.toNat = paddingOf (pathBytes router dest hops) := by
  have shared := cmpri_eq router dest hops
  have le := cmpri_le router dest hops
  have bytes : pathBytes router dest hops = hops.length * (16 - sharedBytes router dest hops) := rfl
  generalize size_eq : 16 - sharedBytes router dest hops = size at bytes
  have asInt : ((16 : Int) - (srhSizes router dest hops).cmpri.toNat) = (size : Int) := by omega
  have count : (UInt8.ofNat hops.length).toNat = hops.length % 256 := UInt8.toNat_ofNat'
  generalize raw_eq : UInt8.ofInt ((rplRhLen : Int) + rplSrhLen +
      (((UInt8.ofNat hops.length).toNat : Int) - 1) *
        (16 - (srhSizes router dest hops).cmpri.toNat) +
      (16 - (srhSizes router dest hops).cmpri.toNat)) = raw
  have whole : raw.toNat = (8 + pathBytes router dest hops) % 256 := by
    have value : (raw.toNat : Int) = _ := raw_eq ▸ byteOfInt_toNat _
    have fixed : ((rplRhLen : Nat) : Int) + ((rplSrhLen : Nat) : Int) = 8 := rfl
    have less : (((hops.length % 256 : Nat) : Int) - 1) * (size : Int) =
        ((hops.length % 256 * size : Nat) : Int) - size := by
      rw [Int.sub_mul, Int.one_mul, ← Int.natCast_mul]
    have parts : hops.length * size =
        256 * (hops.length / 256 * size) + hops.length % 256 * size := by
      rw [← Nat.mul_assoc, ← Nat.add_mul, Nat.div_add_mod]
    rw [asInt, count, fixed, less] at value
    omega
  have sizes : (srhSizes router dest hops).padding =
        (if raw % 8 = 0 then (0 : UInt8) else 8 - raw % 8) ∧
      (srhSizes router dest hops).extLen =
        raw + if raw % 8 = 0 then (0 : UInt8) else 8 - raw % 8 := by
    rw [← raw_eq]
    exact ⟨rfl, rfl⟩
  have padding : (if raw % 8 = 0 then (0 : UInt8) else 8 - raw % 8).toNat =
      paddingOf (pathBytes router dest hops) := by
    rw [padding_toNat, whole]
    unfold paddingOf
    omega
  rw [sizes.1, sizes.2, UInt8.toNat_add, padding, whole]
  exact ⟨by omega, rfl⟩

variable {sr : UipSr}

theorem hopsAbove_length {rootNode : Nat} : ∀ {fuel : Nat} {node : Option Nat}
    {hops : List Nat}, hopsAbove sr rootNode fuel node = some hops → hops.length ≤ fuel := by
  intro fuel
  induction fuel with
  | zero =>
    intro node hops walked
    cases node with
    | none =>
      obtain rfl := Option.some.inj walked
      exact Nat.le_refl 0
    | some node =>
      unfold hopsAbove at walked
      split at walked
      · obtain rfl := Option.some.inj walked
        exact Nat.le_refl 0
      · cases walked
  | succ fuel ih =>
    intro node hops walked
    cases node with
    | none =>
      obtain rfl := Option.some.inj walked
      exact Nat.zero_le _
    | some node =>
      unfold hopsAbove at walked
      split at walked
      · obtain rfl := Option.some.inj walked
        exact Nat.zero_le _
      · obtain ⟨rest, above, rfl⟩ := Option.map_eq_some_iff.mp walked
        exact Nat.succ_le_succ (ih above)

theorem hopsBelow_exists {rootNode node : Nat} {hops : List Nat}
    (path : PathTo sr rootNode node hops) : ∀ {fuel : Nat}, hops.length ≤ fuel →
    ∃ found, hopsBelow sr rootNode fuel (some node) = some found := by
  induction path with
  | @child node parent =>
    intro fuel _
    cases fuel with
    | zero => exact ⟨_, if_pos parent⟩
    | succ fuel => exact ⟨_, if_pos parent⟩
  | @up node above hops parent other _ ih =>
    intro fuel enough
    rw [List.length_cons] at enough
    cases fuel with
    | zero => omega
    | succ fuel =>
      have notRoot : (sr.nodememb.mem node).parent ≠ some rootNode := by
        rw [parent]
        exact fun same => other (Option.some.inj same)
      obtain ⟨found, rest⟩ := @ih fuel (by omega)
      refine ⟨(node :: found.1, found.2), ?_⟩
      rw [hopsBelow, if_neg notRoot, parent, rest, Option.map_some]

theorem hopsBelow_orphan {rootNode node fuel : Nat} {found : List Nat × Option Nat}
    (orphan : (sr.nodememb.mem node).parent = none)
    (below : hopsBelow sr rootNode fuel (some node) = some found) : found.1.length = 0 + 1 := by
  have notRoot : (sr.nodememb.mem node).parent ≠ some rootNode := by simp [orphan]
  cases fuel with
  | zero =>
    rw [hopsBelow, if_neg notRoot] at below
    cases below
  | succ fuel =>
    rw [hopsBelow, if_neg notRoot, orphan] at below
    obtain ⟨rest, none, rfl⟩ := Option.map_eq_some_iff.mp below
    cases fuel with
    | zero =>
      obtain rfl := Option.some.inj none
      rfl
    | succ fuel =>
      obtain rfl := Option.some.inj none
      rfl

theorem hopsAbove_cases {rootNode : Nat} : ∀ {fuel node : Nat} {hops : List Nat},
    hopsAbove sr rootNode fuel (sr.nodememb.mem node).parent = some hops →
    PathTo sr rootNode node hops ∨
      ∀ fuel found, hopsBelow sr rootNode fuel (some node) = some found →
        found.1.length = hops.length + 1 := by
  intro fuel
  induction fuel with
  | zero =>
    intro node hops walked
    cases parent : (sr.nodememb.mem node).parent with
    | none =>
      rw [parent] at walked
      obtain rfl := Option.some.inj walked
      exact Or.inr fun fuel found below => hopsBelow_orphan parent below
    | some above =>
      rw [parent] at walked
      unfold hopsAbove at walked
      split at walked
      · rename_i isRoot
        obtain rfl := Option.some.inj walked
        exact Or.inl (PathTo.child (isRoot ▸ parent))
      · cases walked
  | succ fuel ih =>
    intro node hops walked
    cases parent : (sr.nodememb.mem node).parent with
    | none =>
      rw [parent] at walked
      obtain rfl := Option.some.inj walked
      exact Or.inr fun fuel found below => hopsBelow_orphan parent below
    | some above =>
      rw [parent] at walked
      unfold hopsAbove at walked
      split at walked
      · rename_i isRoot
        obtain rfl := Option.some.inj walked
        exact Or.inl (PathTo.child (isRoot ▸ parent))
      · rename_i other
        obtain ⟨rest, upper, rfl⟩ := Option.map_eq_some_iff.mp walked
        rcases ih upper with path | longer
        · exact Or.inl (PathTo.up parent other path)
        · right
          intro fuel found below
          have notRoot : (sr.nodememb.mem node).parent ≠ some rootNode := by
            rw [parent]
            exact fun same => other (Option.some.inj same)
          cases fuel with
          | zero =>
            rw [hopsBelow, if_neg notRoot] at below
            cases below
          | succ fuel =>
            rw [hopsBelow, if_neg notRoot, parent] at below
            obtain ⟨lower, walkedOn, rfl⟩ := Option.map_eq_some_iff.mp below
            exact congrArg Nat.succ (longer fuel lower walkedOn)

structure SrhDescribes (buf : Memory UInt8) (rh cmpr padding : Nat) (addresses : List (List UInt8)) :
    Prop where
  type : buf (rh + 2) = rplRhTypeSrh
  cmpri : srhCmpri buf rh = cmpr
  cmpre : srhCmpre buf rh = cmpr
  pad : srhPad buf rh = padding
  segLeft : srhSegLeft buf rh = addresses.length
  len : 8 * (srhLen buf rh + 1) = 8 + addresses.length * (16 - cmpr) + padding
  address : ∀ index bytes, addresses[index]? = some bytes →
    buf.read (rh + 8 + index * (16 - cmpr)) (16 - cmpr) = bytes

/-- The header is as long as the addresses that are written and the padding, none of which has
wrapped around, and says so. -/
structure HeaderRight (router : RplRouter) (packet : UipPacket) (sizes : SrhSizes)
    (written : List Nat) (inserted : UipPacket) : Prop where
  count : sizes.pathLen.toNat = written.length
  whole : sizes.extLen.toNat = 8 + written.length * hopSize sizes.cmpri + sizes.padding.toNat
  padding : sizes.padding.toNat < 8
  uipLen : inserted.uipLen.toNat = packet.uipLen.toNat + sizes.extLen.toNat
  proto : inserted.proto = uipProtoRouting
  describes : SrhDescribes inserted.buf packet.extBuf sizes.cmpri.toNat sizes.padding.toNat
    (written.reverse.map (hopBytes router sizes.cmpri.toNat))

def InsertRight (router : RplRouter) (packet : UipPacket) : Prop :=
  ∃ succeeded inserted, insertSrhHeader router packet = some (succeeded, inserted) ∧
    ((inserted = packet ∧ (succeeded = true →
        router.rplIsAddrInOurDag packet.destipaddr = true →
          router.getNode packet.destipaddr = none)) ∨
      succeeded = true ∧ ∃ destNode rootNode hops below,
        SrhRoute router packet destNode rootNode hops below ∧
          HeaderRight router packet (srhSizes router packet.destipaddr hops) below.1 inserted)

/-- The destination has a way up to the root whose addresses take 240 bytes at most; or else the way
ends somewhere, and the size modulo 256 is still more than there is room for. -/
def InsertFits (router : RplRouter) (packet : UipPacket) : Prop :=
  ∀ destNode rootNode, router.rplIsAddrInOurDag packet.destipaddr = true →
    router.getNode packet.destipaddr = some destNode →
    router.getNode router.node.currInstance.dag.dagId = some rootNode →
    router.sr.uipSrIsAddrReachable router.routing none packet.destipaddr = true →
    ∃ hops, hopsAbove router.sr rootNode router.sr.nodememb.num
        (router.sr.nodememb.mem destNode).parent = some hops ∧
      (router.room.toNat < packet.uipLen.toNat +
          (8 + pathBytes router packet.destipaddr hops +
            paddingOf (pathBytes router packet.destipaddr hops)) % 256 ∨
        PathTo router.sr rootNode destNode hops ∧
          pathBytes router packet.destipaddr hops ≤ 240)

section

variable {router : RplRouter} {packet : UipPacket} {sizes : SrhSizes} {written : List Nat}
  {nextHop pathLen : Nat}

theorem placeSrh_field (fit : SizesFit sizes pathLen) (count : written.length = pathLen)
    {address : Nat} (field : address = protoField ∨
      packet.extBuf ≤ address ∧ address ≤ packet.extBuf + 5) :
    (placeSrh router sizes written nextHop packet).buf address =
      writeSrh sizes packet.extBuf (makeRoom packet.buf packet.extBuf sizes.extLen.toNat
        (moveCount packet.uipLen)) address := by
  have extLen := fit.extLen_eq
  have padding := fit.padding_eq
  have ip : uipIphLen = 40 := rfl
  have proto : protoField = 6 := rfl
  have high : lenField = 4 := rfl
  have dest : destipaddrField = 24 := rfl
  have behind : uipIphLen ≤ packet.extBuf := Nat.le_add_right _ _
  have ends : hopsEnd sizes packet = packet.extBuf + sizes.extLen.toNat - sizes.padding.toNat := rfl
  refine placeSrh_other ?_ ⟨?_, ?_⟩ ?_ ?_
  · rw [count]
    omega
  · omega
  · omega
  · omega
  · rw [count]
    omega

theorem writeSrh_at (sizes : SrhSizes) (rh : Nat) (buf : Memory UInt8) :
    writeSrh sizes rh buf (rh + 2) = rplRhTypeSrh ∧
      writeSrh sizes rh buf (rh + 3) = sizes.pathLen ∧
      writeSrh sizes rh buf (rh + 4) = (sizes.cmpri <<< 4) + sizes.cmpri ∧
      writeSrh sizes rh buf (rh + 5) = sizes.padding <<< 4 := by
  have cell : ∀ offset item, [UInt8.ofInt (((sizes.extLen.toNat : Int) - 8).tdiv 8), rplRhTypeSrh,
      sizes.pathLen, (sizes.cmpri <<< 4) + sizes.cmpri, sizes.padding <<< 4][offset]? = some item →
      writeSrh sizes rh buf (rh + 1 + offset) = item := by
    intro offset item at_offset
    refine Memory.write_inside _ (Nat.le_add_right _ _) ?_
    rw [Nat.add_sub_cancel_left]
    exact at_offset
  exact ⟨cell 1 _ rfl, cell 2 _ rfl, cell 3 _ rfl, cell 4 _ rfl⟩

theorem placeSrh_right (fit : SizesFit sizes pathLen) (count : written.length = pathLen)
    (room : packet.uipLen.toNat + sizes.extLen.toNat ≤ router.room.toNat) :
    HeaderRight router packet sizes written (placeSrh router sizes written nextHop packet) := by
  have extLen := fit.extLen_eq
  have padding := fit.padding_eq
  have cmpr_le := fit.cmpri_le
  have behind : uipIphLen ≤ packet.extBuf := Nat.le_add_right _ _
  have ip : uipIphLen = 40 := rfl
  have proto : protoField = 6 := rfl
  have small : sizes.padding.toNat < 8 := by
    rw [padding]
    unfold paddingOf
    omega
  have field := fun {address} place =>
    @placeSrh_field router packet sizes written nextHop pathLen fit count address place
  obtain ⟨first, _, len, _⟩ := writeSrh_header sizes packet.extBuf (makeRoom packet.buf packet.extBuf
    sizes.extLen.toNat (moveCount packet.uipLen)) (by omega)
  obtain ⟨type, segLeft, cmpr, pad⟩ := writeSrh_at sizes packet.extBuf (makeRoom packet.buf
    packet.extBuf sizes.extLen.toNat (moveCount packet.uipLen))
  obtain ⟨high, low, _⟩ := nibbles_toNat cmpr_le
  obtain ⟨_, _, pads⟩ := nibbles_toNat (show sizes.padding.toNat ≤ 15 by omega)
  have whole : sizes.extLen.toNat = 8 + written.length * hopSize sizes.cmpri +
      sizes.padding.toNat := by
    rw [count, padding, extLen]
  have ends : hopsEnd sizes packet = packet.extBuf + 8 + written.length *
      (16 - sizes.cmpri.toNat) := by
    have shared : hopSize sizes.cmpri = 16 - sizes.cmpri.toNat := rfl
    unfold hopsEnd
    rw [whole, shared]
    omega
  refine ⟨fit.pathLen_eq.trans count.symm, whole, small, placeSrh_uipLen room,
    (field (Or.inl rfl)).trans first, ?_⟩
  constructor
  · exact (field (Or.inr ⟨by omega, by omega⟩)).trans type
  · unfold srhCmpri
    rw [show packet.extBuf + rplRhLen = packet.extBuf + 4 from rfl,
      field (Or.inr ⟨by omega, by omega⟩), cmpr, high]
  · unfold srhCmpre
    rw [show packet.extBuf + rplRhLen = packet.extBuf + 4 from rfl,
      field (Or.inr ⟨by omega, by omega⟩), cmpr, low]
  · unfold srhPad
    rw [show packet.extBuf + rplRhLen + 1 = packet.extBuf + 5 from rfl,
      field (Or.inr ⟨by omega, by omega⟩), pad, pads]
  · unfold srhSegLeft
    rw [field (Or.inr ⟨by omega, by omega⟩), segLeft, List.length_map, List.length_reverse, count,
      fit.pathLen_eq]
  · have bound := UInt8.toNat_lt sizes.extLen
    have multiple : sizes.extLen.toNat % 8 = 0 := by
      rw [extLen]
      unfold paddingOf
      omega
    have blocks : sizes.extLen.toNat = 8 + (sizes.extLen.toNat / 8 - 1) * 8 := by omega
    have shared : hopSize sizes.cmpri = 16 - sizes.cmpri.toNat := rfl
    unfold srhLen
    rw [field (Or.inr ⟨by omega, by omega⟩), len, headerLen_byte blocks, UInt8.toNat_ofNat',
      List.length_map, List.length_reverse, ← shared]
    omega
  · intro index bytes atIndex
    rw [List.getElem?_map] at atIndex
    obtain ⟨node, atNode, rfl⟩ := Option.map_eq_some_iff.mp atIndex
    have inside : index < written.length := by
      have bound := (List.getElem?_eq_some_iff.mp atNode).1
      rwa [List.length_reverse] at bound
    rw [List.getElem?_reverse inside] at atNode
    have slots : written.length * (16 - sizes.cmpri.toNat) =
        (written.length - 1 - index + 1) * (16 - sizes.cmpri.toNat) +
          index * (16 - sizes.cmpri.toNat) := by
      rw [← Nat.add_mul]
      congr 1
      omega
    have shared : hopSize sizes.cmpri = 16 - sizes.cmpri.toNat := rfl
    exact placeSrh_slot (by rw [shared, ends]; omega) atNode (by rw [ends]; omega) (by omega)

end

section

variable {router : RplRouter} {packet : UipPacket} {destNode rootNode : Nat} {hops : List Nat}

theorem insertSrh_found (inDag : router.rplIsAddrInOurDag packet.destipaddr = true)
    (dest : router.getNode packet.destipaddr = some destNode)
    (root : router.getNode router.node.currInstance.dag.dagId = some rootNode)
    (reachable : router.sr.uipSrIsAddrReachable router.routing none packet.destipaddr = true) :
    insertSrhHeader router packet =
      match hopsAbove router.sr rootNode router.sr.nodememb.num
        (router.sr.nodememb.mem destNode).parent with
      | none => none
      | some hops =>
        if packet.uipLen.toNat + (srhSizes router packet.destipaddr hops).extLen.toNat >
            router.room.toNat then
          some (false, packet)
        else
          (hopsBelow router.sr rootNode router.sr.nodememb.num (some destNode)).map fun below =>
            (true, routed router packet destNode hops below) := by
  unfold insertSrhHeader routed
  dsimp only
  rw [inDag, dest, root, reachable]
  rfl

theorem SrhRoute.same {otherNode otherRoot : Nat} {otherHops : List Nat}
    {below : List Nat × Option Nat}
    (route : SrhRoute router packet otherNode otherRoot otherHops below)
    (dest : router.getNode packet.destipaddr = some destNode)
    (root : router.getNode router.node.currInstance.dag.dagId = some rootNode)
    (above : hopsAbove router.sr rootNode router.sr.nodememb.num
      (router.sr.nodememb.mem destNode).parent = some hops) :
    otherHops = hops ∧
      hopsBelow router.sr rootNode router.sr.nodememb.num (some destNode) = some below := by
  obtain rfl := Option.some.inj (route.dest.symm.trans dest)
  obtain rfl := Option.some.inj (route.root.symm.trans root)
  exact ⟨Option.some.inj (route.above.symm.trans above), route.found⟩

theorem insertFits_of_right (right : InsertRight router packet) : InsertFits router packet := by
  obtain ⟨succeeded, inserted, ran, outcome⟩ := right
  intro destNode rootNode inDag dest root reachable
  rw [insertSrh_found inDag dest root reachable] at ran
  cases above : hopsAbove router.sr rootNode router.sr.nodememb.num
      (router.sr.nodememb.mem destNode).parent with
  | none =>
    rw [above] at ran
    cases ran
  | some hops =>
    rw [above] at ran
    obtain ⟨extLen, padding⟩ := srhSizes_extLen router packet.destipaddr hops
    refine ⟨hops, rfl, ?_⟩
    rw [← extLen]
    by_cases full : packet.uipLen.toNat + (srhSizes router packet.destipaddr hops).extLen.toNat >
        router.room.toNat
    · exact Or.inl full
    · right
      dsimp only at ran
      rw [if_neg full] at ran
      obtain ⟨below, found, result⟩ := Option.map_eq_some_iff.mp ran
      obtain ⟨rfl, rfl⟩ := Prod.mk.inj result
      rcases outcome with ⟨_, unknown⟩ | ⟨_, _, _, otherHops, otherBelow, route, header⟩
      · rw [unknown rfl inDag] at dest
        cases dest
      · obtain ⟨rfl, foundAgain⟩ := route.same dest root above
        obtain rfl := Option.some.inj (found.symm.trans foundAgain)
        have count := header.count
        have pathLen : (srhSizes router packet.destipaddr otherHops).pathLen.toNat =
            otherHops.length % 256 := UInt8.toNat_ofNat'
        rcases hopsAbove_cases above with path | longer
        · refine ⟨path, ?_⟩
          have written : below.1.length = otherHops.length := by
            rw [hopsBelow_pathTo path found]
            simp
          have whole := header.whole
          have bound := UInt8.toNat_lt (srhSizes router packet.destipaddr otherHops).extLen
          rw [written, pathBytes_eq, padding] at whole
          unfold paddingOf at whole
          omega
        · have more := longer _ _ found
          omega

theorem insertRight_of_fits (fits : InsertFits router packet) : InsertRight router packet := by
  by_cases inDag : router.rplIsAddrInOurDag packet.destipaddr = true
  · cases dest : router.getNode packet.destipaddr with
    | none =>
      refine ⟨true, packet, ?_, Or.inl ⟨rfl, fun _ _ => dest⟩⟩
      unfold insertSrhHeader
      dsimp only
      rw [inDag, dest]
      rfl
    | some destNode =>
      have failed : insertSrhHeader router packet = some (false, packet) →
          InsertRight router packet :=
        fun ran => ⟨false, packet, ran, Or.inl ⟨rfl, fun other => nomatch other⟩⟩
      cases root : router.getNode router.node.currInstance.dag.dagId with
      | none =>
        apply failed
        unfold insertSrhHeader
        dsimp only
        rw [inDag, dest, root]
        rfl
      | some rootNode =>
        by_cases reachable : router.sr.uipSrIsAddrReachable router.routing none
            packet.destipaddr = true
        · obtain ⟨hops, above, enough⟩ := fits destNode rootNode inDag dest root reachable
          have found := insertSrh_found inDag dest root reachable
          rw [above] at found
          dsimp only at found
          rw [← (srhSizes_extLen router packet.destipaddr hops).1] at enough
          by_cases full : packet.uipLen.toNat +
              (srhSizes router packet.destipaddr hops).extLen.toNat > router.room.toNat
          · rw [if_pos full] at found
            exact failed found
          · obtain ⟨path, small⟩ := enough.resolve_left full
            rw [if_neg full] at found
            obtain ⟨below, walked⟩ := hopsBelow_exists path (hopsAbove_length above)
            rw [walked] at found
            have written : below.1.length = hops.length := by
              rw [hopsBelow_pathTo path walked]
              simp
            have room := Nat.le_of_not_gt full
            have fit := srhSizes_fit router packet.destipaddr hops (pathBytes_eq .. ▸ small)
            exact ⟨true, _, found, Or.inr ⟨rfl, destNode, rootNode, hops, below,
              ⟨inDag, dest, root, reachable, above, room, walked⟩,
              placeSrh_right fit written room⟩⟩
        · apply failed
          unfold insertSrhHeader
          dsimp only
          rw [inDag, dest, root, Bool.eq_false_iff.mpr reachable]
          rfl
  · refine ⟨true, packet, ?_, Or.inl ⟨rfl, fun _ inside => absurd inside inDag⟩⟩
    unfold insertSrhHeader
    dsimp only
    rw [Bool.eq_false_iff.mpr inDag]
    rfl

end

/-- A header is inserted right, or not at all, exactly when the way to the destination and its
addresses fit; and a header that is received is updated within its bounds exactly when the next
address lies in it. -/
theorem srh_arithmetic (packet : UipPacket) :
    (∀ router, InsertRight router packet ↔ InsertFits router packet) ∧
      ∀ search, findRoutingHeader packet.buf = some search →
        isSrh packet.buf search = true →
        rplExtHeaderSrhUpdate packet =
            some (true, { packet with buf := srhSwap packet.buf search.ext }) ∧
          (Confined packet.buf search.ext ↔ HopInside packet.buf search.ext) :=
  ⟨fun _ => ⟨insertFits_of_right, insertRight_of_fits⟩,
    fun _ found srh => rplExtHeaderSrhUpdate_confined found srh⟩

def eightHops (segmentsLeft : UInt8) : UipPacket where
  buf := fun address =>
    if address = protoField then uipProtoRouting
    else if address = uipIphLen + 1 then 1
    else if address = uipIphLen + 2 then rplRhTypeSrh
    else if address = uipIphLen + 3 then segmentsLeft
    else if address = uipIphLen + 4 then 0xff
    else 0
  uipLen := 56
  uipExtLen := 0

theorem srh_arithmetic_eight : Confined (eightHops 8).buf uipIphLen :=
  ((srh_arithmetic (eightHops 8)).2 HeaderSearch.start (findRoutingHeader_first rfl) rfl).2.mpr
    (by unfold HopInside; decide)

theorem srh_arithmetic_fails :
    findRoutingHeader (eightHops 9).buf = some HeaderSearch.start ∧
      isSrh (eightHops 9).buf HeaderSearch.start = true ∧
      ¬ Confined (eightHops 9).buf uipIphLen := by
  refine ⟨findRoutingHeader_first rfl, rfl, ?_⟩
  intro confined
  exact absurd (hopInside_of_confined (Nat.le_refl _) confined) (by unfold HopInside; decide)

end MultiPhyTsch.Rpl
