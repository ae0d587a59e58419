import MultiPhyTsch.Ipv6.RouteConsistency

/-! The next hop of a packet (`get_nexthop` in `tcpip.c`), between the calls that change the routes.
What the routing protocol does in `drop_route` and `output_fallback` is left out. -/

namespace MultiPhyTsch.Ds6

open Rpl RouteState

/-- What is asked besides the routes: the next hop of a source routing header, the prefixes that are
on the link, the default routers, and which neighbors are `NBR_INCOMPLETE`. -/
structure Surroundings where
  srhNextHop : Option UipIpaddr
  prefixList : List (UipIpaddr × UInt8)
  defaultrouterlist : List UipIpaddr
  incomplete : Nat → Bool

def uipDs6IsAddrOnlink (around : Surroundings) (ipaddr : UipIpaddr) : Bool :=
  around.prefixList.any fun locprefix => prefixcmp locprefix.1 ipaddr locprefix.2

def uipDs6DefrtChoose (around : Surroundings) (state : RouteState) : Option UipIpaddr :=
  (around.defaultrouterlist.find? fun router =>
    (state.uipDs6NbrLookup router).any fun item => !around.incomplete item).or
      around.defaultrouterlist.getLast?

def getNexthop (around : Surroundings) (destipaddr : UipIpaddr) (state : RouteState) :
    Option UipIpaddr × RouteState :=
  match around.srhNextHop with
  | some addr => (some addr, state)
  | none =>
    if uipDs6IsAddrOnlink around destipaddr then (some destipaddr, state)
    else
      match state.uipDs6RouteLookup destipaddr with
      | (none, state) => (uipDs6DefrtChoose around state, state)
      | (some route, state) =>
        match state.uipDs6RouteNexthop route with
        | some nexthop => (some nexthop, state)
        | none => (none, state.uipDs6RouteRm (some route))

def Surroundings.Undecided (around : Surroundings) (addr : UipIpaddr) : Prop :=
  around.srhNextHop = none ∧ ¬ uipDs6IsAddrOnlink around addr = true

inductive Traffic where
  | call (step : RouteStep)
  | packet (around : Surroundings) (destipaddr : UipIpaddr)

def Traffic.apply (conf : RouteConf) (state : RouteState) : Traffic → RouteState
  | call step => step.apply conf state
  | packet around destipaddr => (getNexthop around destipaddr state).2

def Traffic.Valid (state : RouteState) : Traffic → Prop
  | call step => step.Valid state
  | packet _ _ => True

def covers (addr : UipIpaddr) (state : RouteState) (r : Nat) : Bool :=
  prefixcmp addr (state.route r).ipaddr (state.route r).length

/-- No route that covers the address has a longer prefix; the search ends at one of 128 bits. -/
structure LongestMatch (addr : UipIpaddr) (state : RouteState) (r : Nat) : Prop where
  listed : r ∈ state.routelist
  covering : covers addr state r = true
  longest : ∀ s ∈ state.routelist, covers addr state s = true →
    (state.route s).length ≤ (state.route r).length ∨ (state.route r).length = 128

/-- A source route decides first, then the link. A dead route is taken off the list, another one comes
to its front. -/
inductive Forwarded (around : Surroundings) (addr : UipIpaddr) (state : RouteState) :
    Option UipIpaddr × RouteState → Prop
  | source (nexthop : UipIpaddr) : around.srhNextHop = some nexthop →
      Forwarded around addr state (some nexthop, state)
  | onLink : around.srhNextHop = none → uipDs6IsAddrOnlink around addr = true →
      Forwarded around addr state (some addr, state)
  | unrouted : around.Undecided addr → (∀ r ∈ state.routelist, covers addr state r = false) →
      Forwarded around addr state (uipDs6DefrtChoose around state, state)
  | routed (r : Nat) (nexthop : UipIpaddr) (next : RouteState) : around.Undecided addr →
      LongestMatch addr state r → state.uipDs6RouteNexthop r = some nexthop →
      next.routelist = r :: state.routelist.erase r →
      Forwarded around addr state (some nexthop, next)
  | dead (r : Nat) (next : RouteState) : around.Undecided addr → LongestMatch addr state r →
      state.uipDs6RouteNexthop r = none → next.routelist = state.routelist.erase r →
      Forwarded around addr state (none, next)

variable {conf : RouteConf} {state : RouteState}

theorem lookupFrom_longest (addr : UipIpaddr) {rest before : List Nat} {found : Option Nat}
    {longest : UInt8} (split : state.routelist = before ++ rest) (fresh : found = none → longest = 0)
    (best : ∀ s ∈ before, covers addr state s = true →
      found ≠ none ∧ (state.route s).length ≤ longest)
    (kept : ∀ r ∈ found, (state.route r).length = longest ∧ r ∈ before ∧ covers addr state r = true) :
    (∀ r ∈ lookupFrom addr state rest found longest, LongestMatch addr state r) ∧
      (lookupFrom addr state rest found longest = none →
        ∀ s ∈ state.routelist, covers addr state s = false) := by
  induction rest generalizing before found longest with
  | nil =>
    rw [List.append_nil] at split
    subst split
    refine ⟨fun r result => ?_, fun missing s member => ?_⟩
    · obtain ⟨same, listed, covering⟩ := kept r result
      exact ⟨listed, covering, fun s member covered => .inl (same ▸ (best s member covered).2)⟩
    · by_contra covered
      exact (best s member (by simpa using covered)).1 missing
  | cons first rest ih =>
    have onward : state.routelist = (before ++ [first]) ++ rest := by
      rw [split, List.append_assoc]
      rfl
    rw [lookupFrom]
    split
    next taken =>
      have covering : covers addr state first = true := taken.2
      split
      next whole =>
        refine ⟨?_, fun missing => absurd missing (Option.some_ne_none first)⟩
        rintro r ⟨⟩
        exact ⟨split ▸ List.mem_append_right _ List.mem_cons_self, covering, fun _ _ _ => .inr whole⟩
      next =>
        refine ih onward (fun missing => absurd missing (Option.some_ne_none first)) ?_ ?_
        · intro s member covered
          refine ⟨Option.some_ne_none first, ?_⟩
          rcases List.mem_append.mp member with earlier | last
          · exact UInt8.le_trans (best s earlier covered).2 taken.1
          · rw [List.mem_singleton.mp last]
            exact UInt8.le_refl _
        · rintro r ⟨⟩
          exact ⟨rfl, by simp, covering⟩
    next passed =>
      refine ih onward fresh ?_ ?_
      · intro s member covered
        rcases List.mem_append.mp member with earlier | last
        · exact best s earlier covered
        · rw [List.mem_singleton] at last
          subst last
          have short : (state.route s).length < longest := by
            by_contra long
            exact passed ⟨UInt8.not_lt.mp long, covered⟩
          refine ⟨fun missing => ?_, UInt8.le_of_lt short⟩
          rw [fresh missing] at short
          exact UInt8.not_lt_zero short
      · intro r same
        obtain ⟨length, member, covering⟩ := kept r same
        exact ⟨length, List.mem_append_left _ member, covering⟩

theorem uipDs6RouteLookup_some {addr : UipIpaddr} {r : Nat}
    (found : state.foundRoute addr = some r) :
    state.uipDs6RouteLookup addr =
      (some r, { state with routelist := r :: state.routelist.erase r }) := by
  rw [uipDs6RouteLookup, found]
  dsimp only
  split
  next front =>
    obtain ⟨rest, list⟩ := List.head?_eq_some_iff.mp front
    have same : r :: state.routelist.erase r = state.routelist := by
      rw [list, List.erase_cons_head]
    rw [same]
  next => rfl

theorem getNexthop_forwarded (inv : RouteInv conf [] state) (around : Surroundings)
    (addr : UipIpaddr) : Forwarded around addr state (getNexthop around addr state) := by
  obtain ⟨longest, missing⟩ := @lookupFrom_longest state addr _ [] none _ rfl (fun _ => rfl)
    nofun nofun
  rw [getNexthop]
  split
  next nexthop routed => exact .source nexthop routed
  rename_i unsourced
  split
  next near => exact .onLink unsourced near
  rename_i far
  cases found : state.foundRoute addr with
  | none =>
    rw [uipDs6RouteLookup, found]
    exact .unrouted ⟨unsourced, far⟩ (missing found)
  | some r =>
    rw [uipDs6RouteLookup_some found]
    have best := longest r found
    have same : ({ state with routelist := r :: state.routelist.erase r } :
      RouteState).uipDs6RouteNexthop r = state.uipDs6RouteNexthop r := rfl
    simp only [same]
    cases alive : state.uipDs6RouteNexthop r with
    | some nexthop => exact .routed r nexthop _ ⟨unsourced, far⟩ best alive rfl
    | none =>
      refine .dead r _ ⟨unsourced, far⟩ best alive ?_
      have moved := inv.reorder (List.perm_cons_erase best.listed).symm
      obtain ⟨key, block, member, target⟩ := moved.exists_block List.mem_cons_self
      rw [moved.uipDs6RouteRm_eq member target]
      exact List.erase_cons_head r _

theorem traffic_inv (inv : RouteInv conf [] state) {traffic : Traffic}
    (valid : traffic.Valid state) : RouteInv conf [] (traffic.apply conf state) := by
  cases traffic with
  | call step => exact inv.apply valid
  | packet around destipaddr =>
    rw [Traffic.apply, getNexthop]
    split
    · exact inv
    split
    · exact inv
    cases found : state.foundRoute destipaddr with
    | none =>
      rw [uipDs6RouteLookup, found]
      exact inv
    | some r =>
      rw [uipDs6RouteLookup_some found]
      have moved := inv.reorder (List.perm_cons_erase (mem_of_foundRoute found)).symm
      dsimp only
      split
      · exact moved
      · exact (moved.uipDs6RouteRm List.mem_cons_self).1

theorem forwarded_of_run (conf : RouteConf) (maxNeighbors : Nat) {traffic : List Traffic}
    (valid : Run.Meets (Traffic.apply conf) (fun state traffic => traffic.Valid state)
      (RouteState.init conf maxNeighbors) traffic) (around : Surroundings) (addr : UipIpaddr) :
    let state := Run.final (Traffic.apply conf) (RouteState.init conf maxNeighbors) traffic
    Consistent conf state ∧ Forwarded around addr state (getNexthop around addr state) := by
  have inv := Run.invariant_of_meets (RouteInv conf [])
    (fun _ _ inv allowed => traffic_inv inv allowed) traffic _ (RouteInv.init conf maxNeighbors) valid
  exact ⟨inv.consistent, getNexthop_forwarded inv around addr⟩

def noRouters : Surroundings := ⟨none, [], [], fun _ => false⟩

/-- The next hop of a route leaves before the first packet, which removes the route. -/
def deadRun : List Traffic :=
  [.call (.neighborAdd (sampleAddr 0xfe 1) (sampleLladdr 1) none),
    .call (.add (sampleAddr 0x20 7) 64 (sampleAddr 0xfe 1) none),
    .call (.tableRemove .ds6Neighbors 0), .packet noRouters (sampleAddr 0x20 7)]

theorem forwarded_of_run_dead :
    let state := Run.final (Traffic.apply ⟨2, true⟩) (RouteState.init ⟨2, true⟩ 2) deadRun
    Consistent ⟨2, true⟩ state ∧ Forwarded noRouters (sampleAddr 0x20 7) state
      (getNexthop noRouters (sampleAddr 0x20 7) state) := by
  refine forwarded_of_run ⟨2, true⟩ 2 ?_ noRouters (sampleAddr 0x20 7)
  simp only [deadRun, Run.Meets, Traffic.Valid, RouteStep.Valid]
  decide

end MultiPhyTsch.Ds6
