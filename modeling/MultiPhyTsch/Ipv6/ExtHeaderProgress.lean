import MultiPhyTsch.Ipv6.ExtHdrProcess
import MultiPhyTsch.Rpl.PreferredParent
import MultiPhyTsch.Rpl.RankMonotone

/-! The loops over options and extension headers make progress exactly where no length takes the
8-bit offset round. -/

namespace MultiPhyTsch.Ipv6

open MultiPhyTsch.Rpl

def Fits (offset : UInt8) (size : Nat) : Prop :=
  size % 256 ≠ 0 ∧ offset.toNat + size % 256 < 256

theorem add_advances_iff (offset : UInt8) (size : Nat) :
    offset.toNat < (offset + UInt8.ofNat size).toNat ↔ Fits offset size := by
  have bound := UInt8.toNat_lt offset
  have sum : (offset + UInt8.ofNat size).toNat = (offset.toNat + size % 256) % 256 := by
    rw [UInt8.toNat_add, UInt8.toNat_ofNat']
  unfold Fits
  rw [sum]
  omega

variable (buf : Memory UInt8)

def OptionFits (ext : Nat) (offset : UInt8) : Prop :=
  Fits offset (optionLen buf (ext + offset.toNat))

def OptionsFit (ext : Nat) : Prop :=
  ∀ offset, Loop.Visits (optionStep buf ext) firstOption offset →
    optionStep buf ext offset ≠ none → OptionFits buf ext offset

def OptionsProgress (ext : Nat) : Prop :=
  Loop.Progresses (optionStep buf ext) UInt8.toNat firstOption

theorem optionStep_some {buf : Memory UInt8} {ext : Nat} {offset next : UInt8}
    (stepped : optionStep buf ext offset = some next) :
    next = offset + UInt8.ofNat (optionLen buf (ext + offset.toNat)) := by
  unfold optionStep at stepped
  dsimp only at stepped
  split at stepped
  · split at stepped
    · exact (Option.some.inj stepped).symm
    · split at stepped
      · cases stepped
      · split at stepped
        · exact (Option.some.inj stepped).symm
        · cases stepped
  · cases stepped

theorem offset_bounded (offset : UInt8) : offset.toNat ≤ 255 :=
  Nat.le_of_lt_succ (UInt8.toNat_lt offset)

variable (buf : Memory UInt8)

theorem optionsProgress_iff (ext : Nat) : OptionsProgress buf ext ↔ OptionsFit buf ext := by
  refine Loop.progresses_iff offset_bounded ?_ firstOption
  intro offset next stepped
  rw [optionStep_some stepped]
  exact add_advances_iff offset _

theorem optionRounds_enough (ext : Nat) : Loop.Ends (optionStep buf ext) firstOption ↔
      (Loop.final (optionStep buf ext) optionRounds firstOption).isSome = true := by
  have injective : Function.Injective UInt8.toFin := fun _ _ same => UInt8.toFin_inj.mp same
  exact Loop.ends_iff_within injective firstOption

theorem options_return {conf : RplConf} {sender : LinkAddr} {router : RplRouter}
    {packet : UipPacket} (progress : OptionsProgress packet.buf packet.extBuf) :
    extHdrOptionsProcess conf sender router packet ≠ none := by
  have ended := (optionRounds_enough packet.buf packet.extBuf).mp progress.ends
  unfold extHdrOptionsProcess
  intro stuck
  rw [Option.map_eq_none_iff] at stuck
  rw [stuck] at ended
  cases ended

theorem hbhUpdate_packet (conf : RplConf) (router : RplRouter) (sender : LinkAddr)
    (offset : Nat) (packet : UipPacket) :
    (rplExtHeaderHbhUpdate conf router sender offset packet).2.1 = packet ∨
      ∃ flags, (rplExtHeaderHbhUpdate conf router sender offset packet).2.1 =
        packet.store (packet.extBuf + offset + 2) flags := by
  unfold rplExtHeaderHbhUpdate
  dsimp only
  split
  · exact Or.inl rfl
  · split
    · exact Or.inl rfl
    · split
      · exact Or.inl rfl
      · dsimp only
        split
        · exact Or.inr ⟨_, rfl⟩
        · exact Or.inl rfl

theorem store_extLenByte (packet : UipPacket) (offset : Nat) (flags : UInt8) :
    (packet.store (packet.extBuf + offset + 2) flags).buf (packet.extBuf + 1) =
      packet.buf (packet.extBuf + 1) := by
  have other : packet.extBuf + 1 ≠ packet.extBuf + offset + 2 := by omega
  exact Memory.write_cell_other packet.buf flags other

section

variable {conf : RplConf} {sender : LinkAddr} {router after : RplRouter}
  {packet changed : UipPacket} {action : UInt8}
  (processed : extHdrOptionsProcess conf sender router packet = some (action, changed, after))
include processed

theorem options_packet :
    changed = packet ∨ ∃ offset flags, changed = packet.store (packet.extBuf + offset + 2) flags := by
  unfold extHdrOptionsProcess at processed
  obtain ⟨offset, ended, result⟩ := Option.map_eq_some_iff.mp processed
  dsimp only at result
  split at result
  · split at result
    · have same := congrArg (fun found => found.2.1) result
      dsimp only at same
      rw [← same]
      rcases hbhUpdate_packet conf router sender offset.toNat packet with unchanged | ⟨flags, stored⟩
      · exact .inl unchanged
      · exact .inr ⟨offset.toNat, flags, stored⟩
    · split at result
      all_goals try split at result
      all_goals
        obtain ⟨-, rfl, -⟩ := Prod.mk.injEq .. ▸ result
        exact .inl rfl
  · obtain ⟨-, rfl, -⟩ := Prod.mk.injEq .. ▸ result
    exact .inl rfl

theorem options_frame :
    changed.uipExtLen = packet.uipExtLen ∧
      changed.buf (packet.extBuf + 1) = packet.buf (packet.extBuf + 1) := by
  rcases options_packet processed with rfl | ⟨offset, flags, rfl⟩
  · exact ⟨rfl, rfl⟩
  · exact ⟨rfl, store_extLenByte packet offset flags⟩

end

section Headers

variable (conf : ExtHdrConf) (sender : LinkAddr)

def HeaderWalk.position (walk : HeaderWalk) : Nat := walk.packet.uipExtLen.toNat

def HeaderFits (packet : UipPacket) : Prop :=
  Fits packet.uipExtLen (extHdrLen (packet.buf (packet.extBuf + 1)))

def WalkFits (walk : HeaderWalk) : Prop :=
  (walk.marked conf ≠ none →
    extHdrOptionsProcess conf.rpl sender walk.router walk.packet ≠ none) ∧ HeaderFits walk.packet

theorem pass_position (walk : HeaderWalk) :
    walk.position < walk.pass.position ↔ HeaderFits walk.packet :=
  add_advances_iff walk.packet.uipExtLen _

theorem processOptions_advances {bitmap : UInt8} {walk next : HeaderWalk}
    (stepped : walk.processOptions conf sender bitmap = some next) :
    walk.position < next.position ↔
      extHdrOptionsProcess conf.rpl sender walk.router walk.packet ≠ none ∧
        HeaderFits walk.packet := by
  unfold HeaderWalk.processOptions at stepped
  split at stepped
  case h_1 stuck =>
    obtain rfl := Option.some.inj stepped
    simp [stuck]
  case h_2 packet router processed =>
    obtain ⟨sameExtLen, sameByte⟩ := options_frame processed
    obtain rfl := Option.some.inj stepped
    have sameExt : packet.extBuf = walk.packet.extBuf := by
      unfold UipPacket.extBuf
      rw [sameExtLen]
    have advances :=
      pass_position { walk with packet := packet, router := router, bitmap := bitmap }
    have before : ({ walk with packet := packet, router := router, bitmap := bitmap } :
        HeaderWalk).position = walk.position := congrArg UInt8.toNat sameExtLen
    rw [before] at advances
    rw [advances]
    unfold HeaderFits
    rw [sameExt, sameExtLen, sameByte]
    simp [processed]
  case h_3 => cases stepped

theorem step_advances (walk next : HeaderWalk) (stepped : walk.step conf sender = some next) :
    walk.position < next.position ↔ WalkFits conf sender walk := by
  unfold HeaderWalk.step at stepped
  unfold WalkFits
  cases marked : walk.marked conf with
  | some bitmap =>
    rw [marked] at stepped
    rw [processOptions_advances conf sender stepped]
    simp
  | none =>
    rw [marked] at stepped
    dsimp only at stepped
    split at stepped
    · split at stepped
      next bitmap _ =>
        split at stepped
        · cases stepped
        · obtain rfl := Option.some.inj stepped
          have advances := pass_position { walk with bitmap := bitmap }
          have before : ({ walk with bitmap := bitmap } : HeaderWalk).position =
              walk.position := rfl
          rw [before] at advances
          simpa using advances
      next => cases stepped
    · cases stepped

theorem extLen_bounded (walk : HeaderWalk) : walk.position ≤ 255 :=
  offset_bounded walk.packet.uipExtLen

theorem nextHeader_progress_iff (first : HeaderWalk) :
    Loop.Progresses (HeaderWalk.step conf sender) HeaderWalk.position first ↔
      ∀ walk, Loop.Visits (HeaderWalk.step conf sender) first walk →
        walk.step conf sender ≠ none → WalkFits conf sender walk :=
  Loop.progresses_iff extLen_bounded (step_advances conf sender) first

end Headers

def SearchFits (buf : Memory UInt8) (search : HeaderSearch) : Prop :=
  Fits search.extLen (extHdrLen (buf (search.ext + 1)))

theorem search_advances (search next : HeaderSearch) (stepped : search.step buf = some next) :
    search.extLen.toNat < next.extLen.toNat ↔ SearchFits buf search := by
  unfold HeaderSearch.step at stepped
  split at stepped
  · obtain rfl := Option.some.inj stepped
    exact add_advances_iff search.extLen _
  · cases stepped

theorem search_progress_iff (start : HeaderSearch) :
    Loop.Progresses (HeaderSearch.step buf) (fun search => search.extLen.toNat) start ↔
      ∀ search, Loop.Visits (HeaderSearch.step buf) start search →
        search.step buf ≠ none → SearchFits buf search :=
  Loop.progresses_iff (fun search => offset_bounded search.extLen) (search_advances buf) start

def removalPosition (removal : HeaderRemoval) : Nat :=
  removal.packet.uipExtLen.toNat + (65535 - removal.packet.uipLen.toNat)

def RemovalFits (removal : HeaderRemoval) : Prop :=
  if removal.isRpl then
    removal.rplExtHdrLen ≠ 0 ∧ removal.rplExtHdrLen.toNat ≤ removal.packet.uipLen.toNat
  else HeaderFits removal.packet

variable (removal : HeaderRemoval)

theorem uipLen_bounded : removal.packet.uipLen.toNat ≤ 65535 :=
  Nat.le_of_lt_succ (UInt16.toNat_lt removal.packet.uipLen)

theorem removalPosition_bounded : removalPosition removal ≤ 65790 := by
  have extLen := offset_bounded removal.packet.uipExtLen
  unfold removalPosition
  omega

theorem remove_advances : removalPosition removal < removalPosition removal.remove ↔
      removal.rplExtHdrLen ≠ 0 ∧ removal.rplExtHdrLen.toNat ≤ removal.packet.uipLen.toNat := by
  have bound := uipLen_bounded removal
  have size := UInt8.toNat_lt removal.rplExtHdrLen
  have left : removal.remove.packet.uipLen.toNat =
      (removal.packet.uipLen.toNat + (65536 - removal.rplExtHdrLen.toNat)) % 65536 := by
    simp only [HeaderRemoval.remove, UInt16.toNat_sub, UInt8.toNat_toUInt16]
    omega
  have same : removal.remove.packet.uipExtLen = removal.packet.uipExtLen := rfl
  have zero : removal.rplExtHdrLen = 0 ↔ removal.rplExtHdrLen.toNat = 0 :=
    ⟨fun eq => by rw [eq]; rfl, fun eq => UInt8.toNat_inj.mp eq⟩
  unfold removalPosition
  rw [left, same, Ne, zero]
  omega

theorem skip_advances :
    removalPosition removal < removalPosition removal.skip ↔ HeaderFits removal.packet := by
  have advances := add_advances_iff removal.packet.uipExtLen
    (extHdrLen (removal.packet.buf (removal.ext + 1)))
  have position : removalPosition removal < removalPosition removal.skip ↔
      removal.packet.uipExtLen.toNat < removal.skip.packet.uipExtLen.toNat := by
    simp only [removalPosition, HeaderRemoval.skip]
    omega
  exact position.trans advances

theorem removal_advances (removal next : HeaderRemoval) (stepped : removal.step = some next) :
    removalPosition removal < removalPosition next ↔ RemovalFits removal := by
  unfold HeaderRemoval.step at stepped
  unfold RemovalFits
  split at stepped
  next isRpl =>
    obtain rfl := Option.some.inj stepped
    rw [if_pos isRpl]
    exact remove_advances removal
  next other =>
    rw [if_neg other]
    split at stepped
    · obtain rfl := Option.some.inj stepped
      exact skip_advances removal
    · cases stepped

theorem removal_progress_iff (start : HeaderRemoval) :
    Loop.Progresses HeaderRemoval.step removalPosition start ↔
      ∀ removal, Loop.Visits HeaderRemoval.step start removal →
        removal.step ≠ none → RemovalFits removal :=
  Loop.progresses_iff removalPosition_bounded removal_advances start

section AllLoops

variable (conf : ExtHdrConf) (sender : LinkAddr) (router : RplRouter) (packet : UipPacket)

def Walks (walk : HeaderWalk) : Prop :=
  ∃ first, HeaderWalk.start conf sender router packet = some first ∧
    Loop.Visits (HeaderWalk.step conf sender) first walk

structure ExtHeadersProgress : Prop where
  firstOptions : HeaderWalk.hbhoFirst conf packet = true → OptionsProgress packet.buf uipIphLen
  options : ∀ walk, Walks conf sender router packet walk → walk.marked conf ≠ none →
    OptionsProgress walk.packet.buf walk.packet.extBuf
  nextHeader : ∀ first, HeaderWalk.start conf sender router packet = some first →
    Loop.Progresses (HeaderWalk.step conf sender) HeaderWalk.position first
  search : Loop.Progresses (HeaderSearch.step packet.buf) (fun search => search.extLen.toNat)
    HeaderSearch.start
  removal : Loop.Progresses HeaderRemoval.step removalPosition (HeaderRemoval.start packet)

structure LengthsFit : Prop where
  firstOptions : HeaderWalk.hbhoFirst conf packet = true → OptionsFit packet.buf uipIphLen
  options : ∀ walk, Walks conf sender router packet walk → walk.marked conf ≠ none →
    OptionsFit walk.packet.buf walk.packet.extBuf
  headers : ∀ walk, Walks conf sender router packet walk → walk.step conf sender ≠ none →
    HeaderFits walk.packet
  search : ∀ search, Loop.Visits (HeaderSearch.step packet.buf) HeaderSearch.start search →
    search.step packet.buf ≠ none → SearchFits packet.buf search
  removal : ∀ removal, Loop.Visits HeaderRemoval.step (HeaderRemoval.start packet) removal →
    removal.step ≠ none → RemovalFits removal

theorem ext_headers_progress_iff :
    ExtHeadersProgress conf sender router packet ↔ LengthsFit conf sender router packet := by
  constructor
  · intro progress
    refine ⟨?_, ?_, ?_, ?_, ?_⟩
    · exact fun hbho => (optionsProgress_iff _ _).mp (progress.firstOptions hbho)
    · exact fun walk walks marked =>
        (optionsProgress_iff _ _).mp (progress.options walk walks marked)
    · rintro walk ⟨first, started, visits⟩ goesOn
      have each := (nextHeader_progress_iff conf sender first).mp (progress.nextHeader first started)
      exact (each walk visits goesOn).2
    · exact (search_progress_iff _ _).mp progress.search
    · exact (removal_progress_iff _).mp progress.removal
  · intro fit
    refine ⟨?_, ?_, ?_, ?_, ?_⟩
    · exact fun hbho => (optionsProgress_iff _ _).mpr (fit.firstOptions hbho)
    · exact fun walk walks marked => (optionsProgress_iff _ _).mpr (fit.options walk walks marked)
    · intro first started
      apply (nextHeader_progress_iff conf sender first).mpr
      intro walk visits goesOn
      have walks : Walks conf sender router packet walk := ⟨first, started, visits⟩
      refine ⟨fun marked => ?_, fit.headers walk walks goesOn⟩
      exact options_return ((optionsProgress_iff _ _).mpr (fit.options walk walks marked))
    · exact (search_progress_iff _ _).mpr fit.search
    · exact (removal_progress_iff _).mpr fit.removal

end AllLoops

def bootRouter (room : UInt16) : RplRouter :=
  ⟨RplNode.boot 4, 64, ⟨0, [], ⟨4, fun _ => 0, fun _ => default⟩⟩, fun _ => false, 64, room, true⟩

def padnPacket : UipPacket :=
  ⟨Memory.write (fun _ => 0) 0 ([0x60, 0, 0, 0, 0, 8, uipProtoHbho, 64] ++ List.replicate 32 0x20 ++
    [uipProtoNone, 0, uipExtHdrOptPadn, 254, 0, 0, 0, 0]), 48, 0⟩

theorem padn_never_ends :
    ¬ ∀ conf sender router packet, ExtHeadersProgress conf sender router packet := by
  intro always
  have progress := (always ⟨rplConf, true, true⟩ 0 (bootRouter 1280) padnPacket).firstOptions rfl
  have stays : optionStep padnPacket.buf uipIphLen firstOption = some firstOption := by decide
  exact Loop.not_ends_of_cycle stays Loop.Visits.start progress.ends

end MultiPhyTsch.Ipv6
