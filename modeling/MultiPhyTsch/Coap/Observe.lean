import Mathlib.Data.List.Nodup
import MultiPhyTsch.Lib.Memb

/-! The observers of `coap-observe.c`, for endpoints of any type. The list leads through the `next`
fields of the blocks, and `list_remove` sets the field of the block that it takes out to NULL. -/

namespace MultiPhyTsch.Coap

def coapObserverUrlLen : Nat := 20

/-- `url` is cut to its buffer. `uri` is the whole URI of the registration; the code does not keep
it. -/
structure Observer (E : Type) where
  url : List UInt8
  endpoint : E
  token : List UInt8
  lastMid : UInt16
  uri : List UInt8
deriving DecidableEq, Repr

structure Observers (E : Type) where
  memb : Memb (Observer E)
  list : List Nat
  owned : memb.Exactly list

def cString (bytes : List UInt8) : List UInt8 := bytes.takeWhile (· ≠ 0)

def bytesAt (memory : Nat → UInt8) (len : Nat) : List UInt8 := (List.range len).map memory

theorem free_erase {E : Type} {memb : Memb (Observer E)} {list : List Nat}
    (owned : memb.Exactly list) (o : Nat) : (memb.membFree o).Exactly (listRemove list o) := by
  by_cases member : o ∈ list
  · exact owned.free (List.perm_cons_erase member)
  · have unused : memb.membFree o = memb :=
      if_neg fun used => by simp [owned.inUse.count_eq, member] at used
    rw [unused, listRemove, List.erase_of_not_mem member]
    exact owned

theorem alloc_add {E : Type} {memb : Memb (Observer E)} {list : List Nat} {o : Nat}
    (owned : memb.Exactly list) (allocated : memb.membAlloc.1 = some o) :
    o ∉ list ∧ memb.membAlloc.2.Exactly (listAdd list o) := by
  have grown := owned.alloc allocated
  have fresh := (List.nodup_cons.mp grown.nodup).1
  rw [listAdd_of_not_mem fresh]
  exact ⟨fresh, grown.perm (List.perm_append_singleton o list)⟩

namespace Observers

variable {E : Type} (observers : Observers E)

def next (o : Nat) : Option Nat :=
  if o ∈ observers.list then (observers.list.dropWhile (· ≠ o)).tail.head? else none

def coapRemoveObserver (o : Nat) : Observers E :=
  ⟨observers.memb.membFree o, listRemove observers.list o, free_erase observers.owned o⟩

/-- The loop of the four removals, from the block `obs` on. -/
def removeFrom (isMatch : Observer E → Bool) : Nat → Option Nat → Observers E → Nat × Observers E
  | 0, _, observers => (0, observers)
  | _ + 1, none, observers => (0, observers)
  | rounds + 1, some obs, observers =>
    if isMatch (observers.memb.mem obs) then
      let removed := observers.coapRemoveObserver obs
      let (count, rest) := removeFrom isMatch rounds (removed.next obs) removed
      (count + 1, rest)
    else removeFrom isMatch rounds (observers.next obs) observers

def removeMatching (isMatch : Observer E → Bool) : Nat × Observers E :=
  removeFrom isMatch observers.list.length observers.list.head? observers

/-- The second half of `add_observer`. -/
def allocate (obs : Observer E) : Option Nat × Observers E :=
  match allocated : observers.memb.membAlloc.1 with
  | none => (none, observers)
  | some o => (some o, {
      memb := observers.memb.membAlloc.2.write o fun _ => obs
      list := listAdd observers.list o
      owned := (alloc_add observers.owned allocated).2.write o _ })

def found (isMatch : Observer E → Bool) : Option Nat :=
  observers.list.find? fun obs => isMatch (observers.memb.mem obs)

variable {observers}

theorem next_of_split {before rest : List Nat} {o : Nat}
    (split : observers.list = before ++ o :: rest) : observers.next o = rest.head? := by
  have unique := observers.owned.nodup
  rw [split, List.nodup_append] at unique
  have earlier : ∀ other ∈ before, decide (other ≠ o) = true := fun other member =>
    decide_eq_true (unique.2.2 other member o List.mem_cons_self)
  rw [next, split, if_pos (List.mem_append_right _ List.mem_cons_self),
    List.dropWhile_append_of_pos earlier, List.dropWhile_cons_of_neg (by simp), List.tail_cons]

theorem removeFrom_eq (isMatch : Observer E → Bool) {before rest : List Nat} {rounds : Nat}
    (split : observers.list = before ++ rest) (enough : rest.length ≤ rounds) :
    removeFrom isMatch rounds rest.head? observers =
      (rest.find? fun obs => isMatch (observers.memb.mem obs)).elim (0, observers)
        fun obs => (1, observers.coapRemoveObserver obs) := by
  induction rest generalizing before rounds with
  | nil => cases rounds <;> rfl
  | cons obs rest ih =>
    obtain ⟨rounds, rfl⟩ : ∃ fewer, rounds = fewer + 1 :=
      ⟨rounds - 1, by rw [List.length_cons] at enough; omega⟩
    rw [List.head?_cons, removeFrom]
    by_cases matched : isMatch (observers.memb.mem obs) = true
    · have gone : (observers.coapRemoveObserver obs).next obs = none :=
        if_neg observers.owned.nodup.not_mem_erase
      have first : ((obs :: rest).find? fun obs => isMatch (observers.memb.mem obs)) = some obs :=
        List.find?_cons_of_pos matched
      rw [if_pos matched, first]
      simp only [gone]
      cases rounds <;> rfl
    · have later : ((obs :: rest).find? fun obs => isMatch (observers.memb.mem obs)) =
          rest.find? fun obs => isMatch (observers.memb.mem obs) := List.find?_cons_of_neg matched
      have shifted : observers.list = (before ++ [obs]) ++ rest := by
        rw [split, List.append_assoc]
        rfl
      rw [if_neg matched, later, next_of_split split]
      exact ih shifted (Nat.le_of_succ_le_succ enough)

theorem removeMatching_eq (isMatch : Observer E → Bool) :
    observers.removeMatching isMatch = (observers.found isMatch).elim (0, observers)
      fun obs => (1, observers.coapRemoveObserver obs) :=
  removeFrom_eq isMatch (List.nil_append _).symm (Nat.le_refl _)

theorem allocate_list (observers : Observers E) (obs : Observer E) :
    (observers.allocate obs).2.list = observers.list ++ (observers.allocate obs).1.toList := by
  unfold allocate
  split
  · exact (List.append_nil _).symm
  · next o allocated => exact listAdd_of_not_mem (alloc_add observers.owned allocated).1

section

variable [DecidableEq E] (endpoint : E) (observers)

def coapRemoveObserverByClient : Nat × Observers E :=
  observers.removeMatching fun obs => obs.endpoint = endpoint

def coapRemoveObserverByToken (token : List UInt8) : Nat × Observers E :=
  observers.removeMatching fun obs => obs.endpoint = endpoint ∧ obs.token = token

/-- `memcmp` takes its length from the stored URL, so `uri` is the memory from the pointer on. Where
the pointers are equal, so are the bytes. -/
def coapRemoveObserverByUri (endpoint : Option E) (uri : Nat → UInt8) : Nat × Observers E :=
  observers.removeMatching fun obs =>
    (∀ given ∈ endpoint, obs.endpoint = given) ∧ bytesAt uri (cString obs.url).length = cString obs.url

def coapRemoveObserverByMid (mid : UInt16) : Nat × Observers E :=
  observers.removeMatching fun obs => obs.endpoint = endpoint ∧ obs.lastMid = mid

def addObserver (token : List UInt8) (uri : Nat → UInt8) (uriLen : Nat) :
    Option Nat × Observers E :=
  (observers.coapRemoveObserverByUri (some endpoint) uri).2.allocate
    ⟨bytesAt uri (min (coapObserverUrlLen - 1) uriLen), endpoint, token, 0, bytesAt uri uriLen⟩

end

end Observers

inductive Removal (E : Type) where
  | client (endpoint : E)
  | token (endpoint : E) (token : List UInt8)
  | uri (endpoint : Option E) (uri : Nat → UInt8) (uriLen : Nat)
  | mid (endpoint : E) (mid : UInt16)

namespace Removal

variable {E : Type} [DecidableEq E]

def run (observers : Observers E) : Removal E → Nat × Observers E
  | client endpoint => observers.coapRemoveObserverByClient endpoint
  | token endpoint value => observers.coapRemoveObserverByToken endpoint value
  | uri endpoint memory _ => observers.coapRemoveObserverByUri endpoint memory
  | mid endpoint value => observers.coapRemoveObserverByMid endpoint value

def meant (obs : Observer E) : Removal E → Bool
  | client endpoint => obs.endpoint = endpoint
  | token endpoint value => obs.endpoint = endpoint ∧ obs.token = value
  | uri endpoint memory uriLen =>
    (∀ given ∈ endpoint, obs.endpoint = given) ∧ obs.uri = bytesAt memory uriLen
  | mid endpoint value => obs.endpoint = endpoint ∧ obs.lastMid = value

def compared (obs : Observer E) : Removal E → Bool
  | uri endpoint memory _ => (∀ given ∈ endpoint, obs.endpoint = given) ∧
      bytesAt memory (cString obs.url).length = cString obs.url
  | removal => removal.meant obs

variable (removal : Removal E)

def matching (observers : Observers E) : List Nat :=
  observers.list.filter fun obs => removal.meant (observers.memb.mem obs)

def others (observers : Observers E) : List Nat :=
  observers.list.filter fun obs => !removal.meant (observers.memb.mem obs)

def Exact (observers : Observers E) : Prop :=
  (removal.run observers).1 = (removal.matching observers).length ∧
    (removal.run observers).2.list = removal.others observers

def OnlyFirst (observers : Observers E) : Prop :=
  removal.matching observers = (observers.found removal.compared).toList

theorem run_eq (observers : Observers E) :
    removal.run observers = (observers.found removal.compared).elim (0, observers)
      fun obs => (1, observers.coapRemoveObserver obs) := by
  cases removal <;> exact Observers.removeMatching_eq _

end Removal

theorem filter_eq_erase_iff {list : List Nat} (unique : list.Nodup) {o : Nat} (member : o ∈ list)
    (meant : Nat → Bool) :
    list.erase o = list.filter (fun obs => !meant obs) ↔ list.filter meant = [o] := by
  have alone : list.filter (fun obs => obs = o) = [o] := by
    rw [List.filter_eq, List.count_eq_one_of_mem unique member]
    rfl
  rw [unique.erase_eq_filter]
  constructor
  · intro same
    rw [← alone]
    refine List.filter_congr fun obs inside => ?_
    have both : obs ∈ list.filter (· != o) ↔ obs ∈ list.filter fun obs => !meant obs := by
      rw [same]
    simp only [List.mem_filter, inside, true_and, bne_iff_ne, Bool.not_eq_true', ne_eq] at both
    by_cases equal : obs = o <;> simp_all
  · intro one
    refine List.filter_congr fun obs inside => ?_
    have both : obs ∈ list.filter meant ↔ obs = o := by rw [one, List.mem_singleton]
    simp only [List.mem_filter, inside, true_and] at both
    by_cases equal : obs = o <;> simp_all

variable {E : Type} [DecidableEq E]

theorem others_iff (removal : Removal E) (observers : Observers E) :
    (removal.run observers).2.list = removal.others observers ↔ removal.OnlyFirst observers := by
  rw [Removal.run_eq, Removal.OnlyFirst, Removal.others, Removal.matching]
  cases first : observers.found removal.compared with
  | none =>
    simp only [Option.elim_none, Option.toList_none]
    rw [eq_comm, List.filter_eq_self, List.filter_eq_nil_iff]
    simp only [Bool.not_eq_true', Bool.not_eq_true]
  | some o =>
    exact filter_eq_erase_iff observers.owned.nodup (List.mem_of_find?_eq_some first) _

theorem exact_iff (removal : Removal E) (observers : Observers E) :
    removal.Exact observers ↔ removal.OnlyFirst observers := by
  refine ⟨fun exact => (others_iff removal observers).mp exact.2, fun only => ?_⟩
  refine ⟨?_, (others_iff removal observers).mpr only⟩
  rw [only, Removal.run_eq]
  cases observers.found removal.compared <;> rfl

/-- A removal is exact when the first observer that its comparison finds is the only one meant, and
then a registration replaces the observation of the same client and URI only. -/
theorem observer_removal_exact_iff (observers : Observers E) :
    (∀ removal : Removal E, removal.Exact observers ↔ removal.OnlyFirst observers) ∧
      ∀ endpoint token uri uriLen,
        (observers.addObserver endpoint token uri uriLen).2.list =
            (Removal.uri (some endpoint) uri uriLen).others observers ++
              (observers.addObserver endpoint token uri uriLen).1.toList ↔
          (Removal.uri (some endpoint) uri uriLen).OnlyFirst observers := by
  refine ⟨fun removal => exact_iff removal observers, fun endpoint token uri uriLen => ?_⟩
  rw [Observers.addObserver, Observers.allocate_list, List.append_left_inj]
  exact others_iff (Removal.uri (some endpoint) uri uriLen) observers

def oneClient : Observers Nat where
  memb := ⟨4, fun o => if o < 2 then 1 else 0, fun o =>
    ⟨[97 + o.toUInt8], 5, [o.toUInt8], 0, [97 + o.toUInt8]⟩⟩
  list := [0, 1]
  owned := ⟨⟨fun o => by simp only [List.mem_cons, List.not_mem_nil, or_false]; congr 1; simp; omega,
    by decide⟩, by decide⟩

theorem second_observer_stays :
    ¬ ∀ (removal : Removal Nat) (observers : Observers Nat), removal.Exact observers := fun exact =>
  absurd (exact (.client 5) oneClient) (by unfold Removal.Exact; decide)

end MultiPhyTsch.Coap
