import MultiPhyTsch.Lowpan.Fragments

/-! What `add_fragment` can do: free contexts whose timer has expired, take a context, and store a
fragment in a buffer. -/

namespace MultiPhyTsch.Lowpan

variable {conf : LowpanConf} {expired : Fin conf.reassContexts → Bool}
  {state mid after : Reassembly conf} {packetbuf : RxPacketbuf}

def BuffersOwned (state : Reassembly conf) : Prop :=
  ∀ i, 0 < (state.fragBuf i).len →
    ∃ context : Fin conf.reassContexts, (state.fragBuf i).index = context ∧
      0 < (state.fragInfo context).len

structure Freed (expired : Fin conf.reassContexts → Bool) (state after : Reassembly conf) :
    Prop where
  info : ∀ context, after.fragInfo context = state.fragInfo context ∨
    (expired context = true ∧ 0 < (state.fragInfo context).len ∧
      (after.fragInfo context).len = 0)
  buf : ∀ i, after.fragBuf i = state.fragBuf i ∨ (after.fragBuf i).len = 0
  kept : ∀ context i, 0 < (after.fragInfo context).len → (state.fragBuf i).HeldFor context →
    after.fragBuf i = state.fragBuf i
  released : ∀ i, (after.fragBuf i).len = 0 → (state.fragBuf i).len = 0 ∨
    ∃ context : Fin conf.reassContexts, (state.fragBuf i).HeldFor context ∧
      expired context = true ∧ 0 < (state.fragInfo context).len
  owned : BuffersOwned state → BuffersOwned after

theorem Freed.refl (state : Reassembly conf) : Freed expired state state where
  info := fun _ => Or.inl rfl
  buf := fun _ => Or.inl rfl
  kept := fun _ _ _ _ => rfl
  released := fun _ none => Or.inl none
  owned := id

theorem Freed.info_inUse (freed : Freed expired state after) {context : Fin conf.reassContexts}
    (inUse : 0 < (after.fragInfo context).len) :
    after.fragInfo context = state.fragInfo context := by
  rcases freed.info context with same | ⟨_, _, cleared⟩
  · exact same
  · exact absurd cleared (Nat.pos_iff_ne_zero.mp inUse)

theorem Freed.trans (first : Freed expired state mid) (second : Freed expired mid after) :
    Freed expired state after := by
  have inUse : ∀ context, 0 < (after.fragInfo context).len → 0 < (mid.fragInfo context).len := by
    intro context used
    rw [← second.info_inUse used]
    exact used
  have usedBefore : ∀ context, 0 < (mid.fragInfo context).len →
      0 < (state.fragInfo context).len := by
    intro context used
    rw [← first.info_inUse used]
    exact used
  constructor
  · intro context
    rcases second.info context with same | ⟨timer, used, cleared⟩
    · rw [same]
      exact first.info context
    · right
      exact ⟨timer, usedBefore context used, cleared⟩
  · intro i
    rcases second.buf i with same | empty
    · rw [same]
      exact first.buf i
    · exact Or.inr empty
  · intro context i used held
    have midSame := first.kept context i (inUse context used) held
    rw [second.kept context i used (by rw [midSame]; exact held), midSame]
  · intro i empty
    rcases second.released i empty with before | ⟨context, held, timer, used⟩
    · exact first.released i before
    · have same := first.buf i
      rcases same with same | none
      · rw [same] at held
        exact Or.inr ⟨context, held, timer, usedBefore context used⟩
      · exact absurd held.1 (by omega)
  · exact fun owned => second.owned (first.owned owned)

theorem Freed.mono {more : Fin conf.reassContexts → Bool} (freed : Freed expired state after)
    (wider : ∀ context, expired context = true → more context = true) :
    Freed more state after where
  info := fun context => (freed.info context).imp id fun ⟨timer, rest⟩ => ⟨wider context timer, rest⟩
  buf := freed.buf
  kept := freed.kept
  released := fun i empty => (freed.released i empty).imp id
    fun ⟨context, held, timer, used⟩ => ⟨context, held, wider context timer, used⟩
  owned := freed.owned

theorem Freed.congr {other : Reassembly conf} (freed : Freed expired state after)
    (info : other.fragInfo = after.fragInfo) (buf : other.fragBuf = after.fragBuf) :
    Freed expired state other := by
  constructor
  · rw [info]
    exact freed.info
  · rw [buf]
    exact freed.buf
  · rw [info, buf]
    exact freed.kept
  · rw [buf]
    exact freed.released
  · unfold BuffersOwned
    rw [info, buf]
    exact freed.owned

section

variable {base : Reassembly conf} {context : Fin conf.reassContexts}
  (buf : base.fragBuf = state.fragBuf)
  (others : ∀ other, other ≠ context → base.fragInfo other = state.fragInfo other)
  (timer : expired context = true) (inUse : 0 < (state.fragInfo context).len)
include buf others timer inUse

theorem clearFragments_freed : Freed expired state (clearFragments base context).1 := by
  have info : ∀ other, other ≠ context →
      (clearFragments base context).1.fragInfo other = state.fragInfo other := by
    intro other different
    rw [← others other different]
    exact Function.update_of_ne different _ _
  have cells : ∀ i, (clearFragments base context).1.fragBuf i =
      if (state.fragBuf i).HeldFor context then { state.fragBuf i with len := 0 }
      else state.fragBuf i := by
    intro i
    rw [← buf]
    rfl
  constructor
  · intro other
    by_cases same : other = context
    · subst same
      exact Or.inr ⟨timer, inUse, by simp [clearFragments]⟩
    · exact Or.inl (info other same)
  · intro i
    rw [cells]
    split
    · exact Or.inr rfl
    · exact Or.inl rfl
  · intro other i used held
    have different : other ≠ context := by
      rintro rfl
      simp [clearFragments] at used
    have elsewhere : ¬ (state.fragBuf i).HeldFor context := by
      intro mine
      exact different (Fin.val_injective (held.2.symm.trans mine.2))
    rw [cells]
    exact if_neg elsewhere
  · intro i empty
    rw [cells] at empty
    split at empty
    · rename_i held
      exact Or.inr ⟨context, held, timer, inUse⟩
    · exact Or.inl empty
  · intro owned i allocated
    rw [cells] at allocated ⊢
    by_cases held : (state.fragBuf i).HeldFor context
    · simp [held] at allocated
    · rw [if_neg held] at allocated ⊢
      obtain ⟨owner, index, used⟩ := owned i allocated
      have different : owner ≠ context := by
        rintro rfl
        exact held ⟨allocated, index⟩
      exact ⟨owner, index, by rw [info owner different]; exact used⟩

theorem copyFrags2uip_freed : Freed expired state (copyFrags2uip base context) :=
  (clearFragments_freed buf others timer inUse).congr rfl rfl

end

theorem timeoutFragments_freed (notContext : Fin conf.reassContexts) :
    Freed (fun context => expired context && decide (context ≠ notContext)) state
      (timeoutFragments expired state notContext).1 := by
  refine List.foldlRecOn (motive := fun progress : Reassembly conf × Nat =>
    Freed (fun context => expired context && decide (context ≠ notContext)) state progress.1) _ _
    (Freed.refl state) ?_
  intro progress freed context _
  refine freed.trans ?_
  unfold timeoutFragment
  split
  · rename_i frees
    exact clearFragments_freed rfl (fun _ _ => rfl) (by simp [frees.2.1, frees.2.2]) frees.1
  · exact Freed.refl progress.1

theorem findFreeContext_loop : ∀ (contexts : List (Fin conf.reassContexts))
    (progress : Reassembly conf × Option (Fin conf.reassContexts)),
    (∀ found, progress.2 = some found → (progress.1.fragInfo found).len = 0) →
    let result := contexts.foldl (findFreeContext expired) progress
    Freed expired progress.1 result.1 ∧
      (∀ found, result.2 = some found → (result.1.fragInfo found).len = 0) ∧
      (result.2 = none → progress.2 = none ∧ ∀ context ∈ contexts,
        0 < (progress.1.fragInfo context).len ∧ expired context = false) := by
  intro contexts
  induction contexts with
  | nil =>
    intro progress free
    exact ⟨Freed.refl _, free, fun none => ⟨none, fun _ member => by cases member⟩⟩
  | cons first rest ih =>
    intro progress free
    have freed : Freed expired progress.1 (findFreeContext expired progress first).1 := by
      simp only [findFreeContext]
      split
      · rename_i frees
        exact clearFragments_freed rfl (fun _ _ => rfl) frees.2 frees.1
      · exact Freed.refl _
    have next : ∀ found, (findFreeContext expired progress first).2 = some found →
        ((findFreeContext expired progress first).1.fragInfo found).len = 0 := by
      intro found taken
      by_cases fresh : progress.2 = none ∧
          ((findFreeContext expired progress first).1.fragInfo first).len = 0
      · have same : (findFreeContext expired progress first).2 = some first := if_pos fresh
        rw [same] at taken
        cases taken
        exact fresh.2
      · have same : (findFreeContext expired progress first).2 = progress.2 := if_neg fresh
        have before := free found (same.symm.trans taken)
        by_contra used
        rw [freed.info_inUse (Nat.pos_of_ne_zero used)] at used
        exact used before
    obtain ⟨later, found, none⟩ := ih _ next
    refine ⟨freed.trans later, found, ?_⟩
    intro missed
    obtain ⟨missedFirst, missedRest⟩ := none missed
    have skipped : ¬ (progress.2 = Option.none ∧
        ((findFreeContext expired progress first).1.fragInfo first).len = 0) := by
      intro fresh
      have taken : (findFreeContext expired progress first).2 = some first := if_pos fresh
      rw [taken] at missedFirst
      cases missedFirst
    have before : (findFreeContext expired progress first).2 = progress.2 := if_neg skipped
    have nothing := before.symm.trans missedFirst
    refine ⟨nothing, ?_⟩
    have keeps : ∀ context, 0 < ((findFreeContext expired progress first).1.fragInfo context).len →
        0 < (progress.1.fragInfo context).len := by
      intro context used
      rw [← freed.info_inUse used]
      exact used
    intro context member
    rcases List.mem_cons.mp member with rfl | later
    · have used : 0 < ((findFreeContext expired progress context).1.fragInfo context).len :=
        Nat.pos_of_ne_zero fun empty => skipped ⟨nothing, empty⟩
      refine ⟨keeps context used, ?_⟩
      by_contra timer
      have frees : 0 < (progress.1.fragInfo context).len ∧ expired context = true :=
        ⟨keeps context used, by simpa using timer⟩
      simp [findFreeContext, frees, clearFragments] at used
    · obtain ⟨used, timer⟩ := missedRest context later
      exact ⟨keeps context used, timer⟩

def HasFreeContext (expired : Fin conf.reassContexts → Bool) (state : Reassembly conf) : Prop :=
  ∃ context, (state.fragInfo context).len = 0 ∨ expired context = true

theorem addFirstFragment_none {tag : UInt16} {fragSize : Nat}
    (result : addFirstFragment expired state packetbuf tag fragSize = (after, none)) :
    Freed expired state after ∧ ¬ HasFreeContext expired state := by
  have loop := @findFreeContext_loop conf expired (List.finRange conf.reassContexts) (state, none)
    (fun _ found => by cases found)
  unfold addFirstFragment at result
  split at result
  · rename_i mid folded
    cases result
    rw [folded] at loop
    obtain ⟨freed, _, missed⟩ := loop
    refine ⟨freed, ?_⟩
    rintro ⟨context, free⟩
    obtain ⟨used, timer⟩ := (missed rfl).2 context (List.mem_finRange context)
    rcases free with empty | frees
    · exact absurd empty (by dsimp only at used; omega)
    · rw [timer] at frees
      cases frees
  · cases result

theorem addFirstFragment_some {tag : UInt16} {fragSize : Nat} {found : Fin conf.reassContexts}
    (result : addFirstFragment expired state packetbuf tag fragSize = (after, some found)) :
    HasFreeContext expired state ∧ ∃ mid, Freed expired state mid ∧ (mid.fragInfo found).len = 0 ∧
      after = mid.setInfo found
        { mid.fragInfo found with
          len := fragSize
          tag := tag
          sender := packetbuf.sender } := by
  have loop := @findFreeContext_loop conf expired (List.finRange conf.reassContexts) (state, none)
    (fun _ found => by cases found)
  unfold addFirstFragment at result
  split at result
  · cases result
  · rename_i mid context folded
    cases result
    rw [folded] at loop
    obtain ⟨freed, free, _⟩ := loop
    have empty := free found rfl
    refine ⟨⟨found, ?_⟩, mid, freed, empty, rfl⟩
    rcases freed.info found with same | ⟨timer, _⟩
    · left
      rw [← same]
      exact empty
    · exact Or.inr timer

def contextOf (state : Reassembly conf) (sender : LinkAddr) (tag : UInt16) :
    Option (Fin conf.reassContexts) :=
  (List.finRange conf.reassContexts).find? fun i => (state.fragInfo i).tag = tag ∧
    0 < (state.fragInfo i).len ∧ (state.fragInfo i).sender = sender

def HasFreeBuffer (expired : Fin conf.reassContexts → Bool) (state : Reassembly conf)
    (context : Fin conf.reassContexts) : Prop :=
  ∃ i, (state.fragBuf i).len = 0 ∨ ∃ other, other ≠ context ∧ (state.fragBuf i).HeldFor other.val ∧
    expired other = true ∧ 0 < (state.fragInfo other).len

def storedFragment (mid : Reassembly conf) (i : Fin conf.fragmentBuffers)
    (context : Fin conf.reassContexts) (packetbuf : RxPacketbuf) (packetbufHdrLen offset : Nat) :
    SicslowpanFragBuf :=
  { index := context
    offset := offset
    len := (packetbuf.datalen - packetbufHdrLen) % 256
    data := (mid.fragBuf i).data.write 0 (packetbuf.payload packetbufHdrLen) }

theorem storeFragment_cases (state : Reassembly conf) (index : Fin conf.reassContexts)
    (offset : Nat) (packetbuf : RxPacketbuf) (packetbufHdrLen : Nat) :
    ((∀ i, (state.fragBuf i).len ≠ 0) ∧
      storeFragment state index offset packetbuf packetbufHdrLen = (state, none)) ∨
    ∃ i, (state.fragBuf i).len = 0 ∧
      storeFragment state index offset packetbuf packetbufHdrLen =
        (state.setBuf i (storedFragment state i index packetbuf packetbufHdrLen offset),
          some ((packetbuf.datalen - packetbufHdrLen) % 256)) := by
  unfold storeFragment
  cases free : (List.finRange conf.fragmentBuffers).find? fun i => (state.fragBuf i).len = 0 with
  | none =>
    left
    refine ⟨?_, rfl⟩
    intro i
    simpa using List.find?_eq_none.mp free i (List.mem_finRange i)
  | some i =>
    right
    have empty := List.find?_some free
    exact ⟨i, by simpa using empty, by simp [storedFragment]⟩

theorem storedFragment_empty {i : Fin conf.fragmentBuffers} {context : Fin conf.reassContexts}
    {packetbufHdrLen offset : Nat} (free : (state.fragBuf i).len = 0)
    (empty : (packetbuf.datalen - packetbufHdrLen) % 256 = 0) :
    Freed expired state
      (state.setBuf i (storedFragment state i context packetbuf packetbufHdrLen offset)) := by
  have none : (storedFragment state i context packetbuf packetbufHdrLen offset).len = 0 := empty
  constructor
  · exact fun _ => Or.inl rfl
  · intro other
    by_cases same : other = i
    · subst same
      exact Or.inr (by rw [Reassembly.setBuf_fragBuf, none])
    · exact Or.inl (Reassembly.setBuf_fragBuf_of_ne _ _ same)
  · intro owner other _ held
    have different : other ≠ i := by
      rintro rfl
      exact absurd held.1 (by omega)
    exact Reassembly.setBuf_fragBuf_of_ne _ _ different
  · intro other released
    by_cases same : other = i
    · subst same
      exact Or.inl free
    · rw [Reassembly.setBuf_fragBuf_of_ne _ _ same] at released
      exact Or.inl released
  · intro owned other allocated
    by_cases same : other = i
    · subst same
      rw [Reassembly.setBuf_fragBuf, none] at allocated
      exact absurd allocated (Nat.lt_irrefl 0)
    · rw [Reassembly.setBuf_fragBuf_of_ne _ _ same] at allocated ⊢
      exact owned other allocated

def fragmentAdded (mid : Reassembly conf) (i : Fin conf.fragmentBuffers)
    (context : Fin conf.reassContexts) (packetbuf : RxPacketbuf) (packetbufHdrLen offset : Nat) :
    Reassembly conf :=
  (mid.setBuf i (storedFragment mid i context packetbuf packetbufHdrLen offset)).setInfo context
    { mid.fragInfo context with
      reassembledLen := ((mid.fragInfo context).reassembledLen +
        (packetbuf.datalen - packetbufHdrLen) % 256) % 65536 }

section FragmentAdded

variable {i j : Fin conf.fragmentBuffers} {context other : Fin conf.reassContexts}
  {packetbufHdrLen offset : Nat}

@[simp] theorem fragmentAdded_fragInfo :
    (fragmentAdded mid i context packetbuf packetbufHdrLen offset).fragInfo context =
      { mid.fragInfo context with
        reassembledLen := ((mid.fragInfo context).reassembledLen +
          (packetbuf.datalen - packetbufHdrLen) % 256) % 65536 } := by
  simp [fragmentAdded]

@[simp] theorem fragmentAdded_fragInfo_of_ne (different : other ≠ context) :
    (fragmentAdded mid i context packetbuf packetbufHdrLen offset).fragInfo other =
      mid.fragInfo other := by
  simp [fragmentAdded, different]

@[simp] theorem fragmentAdded_fragBuf :
    (fragmentAdded mid i context packetbuf packetbufHdrLen offset).fragBuf i =
      storedFragment mid i context packetbuf packetbufHdrLen offset := by
  simp [fragmentAdded]

@[simp] theorem fragmentAdded_fragBuf_of_ne (different : j ≠ i) :
    (fragmentAdded mid i context packetbuf packetbufHdrLen offset).fragBuf j = mid.fragBuf j := by
  simp [fragmentAdded, different]

end FragmentAdded

structure Added (expired : Fin conf.reassContexts → Bool) (state : Reassembly conf)
    (packetbuf : RxPacketbuf) (packetbufHdrLen offset : Nat) (context : Fin conf.reassContexts)
    (after : Reassembly conf) (mid : Reassembly conf) (i : Fin conf.fragmentBuffers) : Prop where
  freed : Freed expired state mid
  info : mid.fragInfo context = state.fragInfo context
  free : (mid.fragBuf i).len = 0
  payload : 0 < (packetbuf.datalen - packetbufHdrLen) % 256
  after : after = fragmentAdded mid i context packetbuf packetbufHdrLen offset

theorem addNFragment_cases (expired : Fin conf.reassContexts → Bool) (state : Reassembly conf)
    (packetbuf : RxPacketbuf) (packetbufHdrLen : Nat) (tag : UInt16) (offset : Nat) :
    let result := addNFragment expired state packetbuf packetbufHdrLen tag offset
    (result.2 = none ∧ Freed expired state result.1) ∨
    ∃ context, contextOf state packetbuf.sender tag = some context ∧ result.2 = some context ∧
      HasFreeBuffer expired state context ∧
      ∃ mid i, Added expired state packetbuf packetbufHdrLen offset context result.1 mid i := by
  intro result
  cases matched : contextOf state packetbuf.sender tag with
  | none =>
    left
    have same : result = (state, none) := by
      simp only [result, addNFragment]
      rw [contextOf] at matched
      rw [matched]
    rw [same]
    exact ⟨rfl, Freed.refl state⟩
  | some context =>
    -- what comes of a store in a state `mid` in which contexts have been freed
    have store : ∀ mid, Freed expired state mid → mid.fragInfo context = state.fragInfo context →
        (∀ i, (mid.fragBuf i).len = 0 → HasFreeBuffer expired state context) →
        result = (let stored := storeFragment mid context offset packetbuf packetbufHdrLen
          if 0 < stored.2.getD 0 then
            (stored.1.setInfo context
              { stored.1.fragInfo context with
                reassembledLen :=
                  ((stored.1.fragInfo context).reassembledLen + stored.2.getD 0) % 65536 },
              some context)
          else (stored.1, none)) →
        (result.2 = none ∧ Freed expired state result.1) ∨
        ∃ found, some context = some found ∧ result.2 = some found ∧
          HasFreeBuffer expired state found ∧
          ∃ mid i, Added expired state packetbuf packetbufHdrLen offset found result.1 mid i := by
      intro mid freed info room same
      rcases storeFragment_cases mid context offset packetbuf packetbufHdrLen with
        ⟨_, failed⟩ | ⟨i, free, stored⟩
      · rw [failed] at same
        rw [same]
        exact Or.inl ⟨rfl, freed⟩
      · rw [stored] at same
        by_cases empty : (packetbuf.datalen - packetbufHdrLen) % 256 = 0
        · rw [same]
          simp only [Option.getD_some, empty, Nat.lt_irrefl, if_false]
          left
          exact ⟨trivial, freed.trans (storedFragment_empty free empty)⟩
        · have payload : 0 < (packetbuf.datalen - packetbufHdrLen) % 256 :=
            Nat.pos_of_ne_zero empty
          rw [same]
          simp only [Option.getD_some, payload, if_true]
          exact Or.inr ⟨context, rfl, rfl, room i free, mid, i, freed, info, free, payload, rfl⟩
    have found : ((List.finRange conf.reassContexts).find? fun i => (state.fragInfo i).tag = tag ∧
        0 < (state.fragInfo i).len ∧ (state.fragInfo i).sender = packetbuf.sender) =
          some context := matched
    rcases storeFragment_cases state context offset packetbuf packetbufHdrLen with
      ⟨_, failed⟩ | ⟨i, _, stored⟩
    · have freed := @timeoutFragments_freed conf expired state context
      have kept : (timeoutFragments expired state context).1.fragInfo context =
          state.fragInfo context := by
        rcases freed.info context with same | ⟨timer, _⟩
        · exact same
        · simp at timer
      by_cases frees : (timeoutFragments expired state context).2 > 0
      · apply store (timeoutFragments expired state context).1
        · exact freed.mono (fun other timer => by simp at timer; exact timer.1)
        · exact kept
        · intro i free
          rcases freed.released i free with before | ⟨other, held, timer, used⟩
          · exact ⟨i, Or.inl before⟩
          · simp only [Bool.and_eq_true, decide_eq_true_eq] at timer
            exact ⟨i, Or.inr ⟨other, timer.2, held, timer.1, used⟩⟩
        · simp only [result, addNFragment, found, failed, frees, if_true]
      · left
        have same : result = ((timeoutFragments expired state context).1, none) := by
          simp only [result, addNFragment, found, failed, frees, if_false]
          rfl
        rw [same]
        exact ⟨rfl, freed.mono (fun other timer => by simp at timer; exact timer.1)⟩
    · apply store state (Freed.refl state) rfl (fun i free => ⟨i, Or.inl free⟩)
      simp only [result, addNFragment, found, stored]

def RxPacketbuf.fragnPatch (packetbuf : RxPacketbuf) : Patch UInt8 :=
  ⟨packetbuf.fragOffset * 8, packetbuf.payload fragnHdrLen⟩

def SicslowpanFragBuf.patch (buf : SicslowpanFragBuf) : Patch UInt8 :=
  ⟨buf.offset * 8, buf.data.read 0 buf.len⟩

def SicslowpanFragInfo.firstPatch (info : SicslowpanFragInfo) : Patch UInt8 :=
  ⟨0, info.firstFrag.read 0 info.firstFragLen⟩

section

variable {context : Fin conf.reassContexts} {patch : Patch UInt8}

theorem mem_heldPatches :
    patch ∈ heldPatches state context ↔ patch = (state.fragInfo context).firstPatch ∨
      ∃ i, (state.fragBuf i).HeldFor context ∧ patch = (state.fragBuf i).patch := by
  unfold heldPatches
  rw [List.mem_cons, List.mem_filterMap]
  apply or_congr_right
  constructor
  · rintro ⟨i, _, found⟩
    split at found
    · rename_i held
      exact ⟨i, held, (Option.some.inj found).symm⟩
    · cases found
  · rintro ⟨i, held, rfl⟩
    exact ⟨i, List.mem_finRange i, if_pos held⟩

theorem Freed.mem_heldPatches (freed : Freed expired state after)
    (inUse : 0 < (after.fragInfo context).len) :
    patch ∈ heldPatches after context ↔ patch ∈ heldPatches state context := by
  rw [Lowpan.mem_heldPatches, Lowpan.mem_heldPatches, freed.info_inUse inUse]
  apply or_congr_right
  constructor
  · rintro ⟨i, held, rfl⟩
    rcases freed.buf i with same | empty
    · rw [same] at held ⊢
      exact ⟨i, held, rfl⟩
    · exact absurd held.1 (by omega)
  · rintro ⟨i, held, rfl⟩
    have same := freed.kept context i inUse held
    exact ⟨i, by rw [same]; exact held, by rw [same]⟩

theorem fragmentAdded_mem_heldPatches {i : Fin conf.fragmentBuffers}
    {other : Fin conf.reassContexts} (free : (mid.fragBuf i).len = 0)
    (some : fragnHdrLen < packetbuf.datalen) (short : packetbuf.datalen - fragnHdrLen < 256) :
    patch ∈ heldPatches (fragmentAdded mid i context packetbuf fragnHdrLen packetbuf.fragOffset)
        other ↔
      patch ∈ heldPatches mid other ∨ (other = context ∧ patch = packetbuf.fragnPatch) := by
  have len : (packetbuf.datalen - fragnHdrLen) % 256 = packetbuf.datalen - fragnHdrLen :=
    Nat.mod_eq_of_lt short
  have first : ((fragmentAdded mid i context packetbuf fragnHdrLen packetbuf.fragOffset).fragInfo
      other).firstPatch = (mid.fragInfo other).firstPatch := by
    by_cases same : other = context
    · subst same
      rw [fragmentAdded_fragInfo]
      rfl
    · rw [fragmentAdded_fragInfo_of_ne same]
  have stored : (storedFragment mid i context packetbuf fragnHdrLen packetbuf.fragOffset).patch =
      packetbuf.fragnPatch := by
    simp only [storedFragment, SicslowpanFragBuf.patch, RxPacketbuf.fragnPatch, len]
    rw [Memory.read_write_of_length _ _ (by simp)]
  rw [mem_heldPatches, mem_heldPatches, first, or_assoc]
  apply or_congr_right
  constructor
  · rintro ⟨j, held, rfl⟩
    by_cases same : j = i
    · subst same
      rw [fragmentAdded_fragBuf] at held ⊢
      exact Or.inr ⟨Fin.val_injective held.2.symm, stored⟩
    · rw [fragmentAdded_fragBuf_of_ne same] at held ⊢
      exact Or.inl ⟨j, held, rfl⟩
  · rintro (⟨j, held, rfl⟩ | ⟨rfl, rfl⟩)
    · have different : j ≠ i := by
        rintro rfl
        exact absurd held.1 (by omega)
      refine ⟨j, ?_⟩
      rw [fragmentAdded_fragBuf_of_ne different]
      exact ⟨held, rfl⟩
    · refine ⟨i, ?_⟩
      rw [fragmentAdded_fragBuf]
      exact ⟨⟨by simp only [storedFragment, len]; omega, rfl⟩, stored.symm⟩

end

end MultiPhyTsch.Lowpan
