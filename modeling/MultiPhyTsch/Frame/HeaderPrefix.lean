import MultiPhyTsch.Frame.RoundTrip

/-! What `frame802154_parse` reads of a frame. It looks at the bytes of the header only, so a
frame whose payload was encrypted, decrypted or cut has the same header fields. -/

namespace MultiPhyTsch

variable (conf : LlsecConf) {limit : Nat} {p p' : Cursor UInt8} {pf pf' : Frame802154}

theorem parseSeqno_congr (agrees : p.AgreesUpTo limit p') (fcf : pf'.fcf = pf.fcf) :
    (parseSeqno p pf).2.AgreesUpTo limit (parseSeqno p' pf').2 := by
  unfold parseSeqno
  rw [fcf]
  split
  · exact agrees.skip 1
  · exact agrees

theorem parseAddr_congr (mode : UInt8) (old old' : LinkAddr) (agrees : p.AgreesUpTo limit p') :
    (parseAddr mode p old).2.AgreesUpTo limit (parseAddr mode p' old').2 := by
  unfold parseAddr
  split
  · exact agrees.skip 2
  · split
    · exact agrees.skip 8
    · exact agrees

theorem read16_congr (agrees : p.AgreesUpTo limit p') (inside : p.offset + 2 ≤ limit) :
    read16 (p'.peek 0) (p'.peek 1) = read16 (p.peek 0) (p.peek 1) := by
  rw [agrees.peek (by omega), agrees.peek (by omega)]

theorem parseDest_congr (agrees : p.AgreesUpTo limit p') (fcf : pf'.fcf = pf.fcf)
    (inside : (parseDest p pf).2.offset ≤ limit) :
    (parseDest p pf).2.AgreesUpTo limit (parseDest p' pf').2 ∧
      (parseDest p' pf').1.destPid = (parseDest p pf).1.destPid := by
  rw [(parseDest_spec p pf).2] at inside
  unfold parseDest
  rw [fcf]
  by_cases present : pf.fcf.destAddrMode ≠ 0
  · rw [if_pos present] at inside
    simp only [if_pos present]
    by_cases panid : hasDestPanid pf.fcf
    · rw [if_pos panid] at inside
      simp only [if_pos panid]
      exact ⟨parseAddr_congr _ _ _ (agrees.skip 2), read16_congr agrees (by omega)⟩
    · simp only [if_neg panid]
      exact ⟨parseAddr_congr _ _ _ agrees, trivial⟩
  · simp only [if_neg present]
    exact ⟨agrees, trivial⟩

theorem parseSrc_congr (agrees : p.AgreesUpTo limit p') (fcf : pf'.fcf = pf.fcf)
    (destPid : pf'.destPid = pf.destPid) (inside : (parseSrc p pf).2.offset ≤ limit) :
    (parseSrc p pf).2.AgreesUpTo limit (parseSrc p' pf').2 ∧
      (parseSrc p' pf').1.destPid = (parseSrc p pf).1.destPid := by
  rw [(parseSrc_spec p pf).2] at inside
  unfold parseSrc
  rw [fcf, destPid]
  by_cases present : pf.fcf.srcAddrMode ≠ 0
  · rw [if_pos present] at inside
    simp only [if_pos present]
    by_cases panid : hasSrcPanid pf.fcf
    · rw [if_pos panid] at inside
      simp only [if_pos panid]
      rw [read16_congr agrees (by omega)]
      exact ⟨parseAddr_congr _ _ _ (agrees.skip 2), rfl⟩
    · simp only [if_neg panid]
      exact ⟨parseAddr_congr _ _ _ agrees, trivial⟩
  · simp only [if_neg present]
    exact ⟨agrees, trivial⟩

structure SameControl (control control' : Frame802154Scf) : Prop where
  level : control'.securityLevel = control.securityLevel
  suppression : control'.frameCounterSuppression = control.frameCounterSuppression
  size : control'.frameCounterSize = control.frameCounterSize
  keyIdMode : conf.usesExplicitKeys → control'.keyIdMode = control.keyIdMode

theorem parseScf_congr (byte : UInt8) (old old' : Frame802154Scf) :
    SameControl conf (parseScf conf byte old) (parseScf conf byte old') := by
  constructor <;> simp +contextual [parseScf]

section

variable {aux aux' : Frame802154AuxHdr} (agrees : p.AgreesUpTo limit p')
  (same : SameControl conf aux.securityControl aux'.securityControl)
include agrees same

theorem parseFrameCounter_congr :
    (parseFrameCounter p aux).2.AgreesUpTo limit (parseFrameCounter p' aux').2 := by
  unfold parseFrameCounter
  rw [same.suppression, same.size]
  split
  · dsimp only
    split
    · exact agrees.skip 5
    · exact agrees.skip 4
  · exact agrees

theorem parseKeyId_congr (inside : (parseKeyId conf p aux).2.offset ≤ limit) :
    (parseKeyId conf p aux).2.AgreesUpTo limit (parseKeyId conf p' aux').2 ∧
      (conf.usesExplicitKeys → aux.securityControl.keyIdMode ≠ 0 →
        (parseKeyId conf p' aux').1.keyIndex = (parseKeyId conf p aux).1.keyIndex) := by
  unfold parseKeyId at inside ⊢
  cases explicit : conf.usesExplicitKeys with
  | false => exact ⟨agrees, fun absent => nomatch absent⟩
  | true =>
    rw [same.keyIdMode explicit]
    by_cases keyed : aux.securityControl.keyIdMode = 0
    · simp only [keyed, bne_self_eq_false, Bool.and_false, Bool.false_eq_true, if_false]
      exact ⟨agrees, fun _ named => absurd rfl named⟩
    · simp only [explicit, Bool.true_and, bne_iff_ne, ne_eq, keyed, not_false_eq_true, if_true,
        Cursor.skip_offset] at inside ⊢
      exact ⟨agrees.skip _, fun _ _ => agrees.peek (by omega)⟩

end

structure SameKey (aux aux' : Frame802154AuxHdr) : Prop where
  control : SameControl conf aux.securityControl aux'.securityControl
  keyIndex : conf.usesExplicitKeys → aux.securityControl.keyIdMode ≠ 0 →
    aux'.keyIndex = aux.keyIndex

theorem parseScf_keyIdMode_lt (byte : UInt8) (old : Frame802154Scf)
    (explicit : conf.usesExplicitKeys) : (parseScf conf byte old).keyIdMode.toNat < 4 := by
  simp only [parseScf, explicit, if_true]
  exact and_three_lt _

theorem parseAuxFields_congr (aux aux' : Frame802154AuxHdr) (agrees : p.AgreesUpTo limit p')
    (inside : (parseAuxFields conf p aux).2.offset ≤ limit) :
    (parseAuxFields conf p aux).2.AgreesUpTo limit (parseAuxFields conf p' aux').2 ∧
      SameKey conf (parseAuxFields conf p aux).1 (parseAuxFields conf p' aux').1 := by
  have start := (parseAuxFields_spec conf p aux).1
  have byte : p'.peek 0 = p.peek 0 := agrees.peek (by omega)
  unfold parseAuxFields at inside ⊢
  dsimp only at inside ⊢
  rw [byte]
  have same := parseScf_congr conf (p.peek 0) aux.securityControl aux'.securityControl
  have small := parseScf_keyIdMode_lt conf (p.peek 0) aux.securityControl
  have small' := parseScf_keyIdMode_lt conf (p.peek 0) aux'.securityControl
  generalize parseScf conf (p.peek 0) aux.securityControl = control at inside same small ⊢
  generalize parseScf conf (p.peek 0) aux'.securityControl = control' at same small' ⊢
  have spec := parseFrameCounter_spec (p.skip 1) { aux with securityControl := control }
  have spec' := parseFrameCounter_spec (p'.skip 1) { aux' with securityControl := control' }
  have counter : (parseFrameCounter (p.skip 1) { aux with securityControl := control }).2.AgreesUpTo
      limit (parseFrameCounter (p'.skip 1) { aux' with securityControl := control' }).2 :=
    parseFrameCounter_congr conf (agrees.skip 1) same
  generalize parseFrameCounter (p.skip 1) { aux with securityControl := control } = read
    at inside spec counter ⊢
  generalize parseFrameCounter (p'.skip 1) { aux' with securityControl := control' } = read'
    at spec' counter ⊢
  dsimp only at spec spec'
  have control : SameControl conf read.1.securityControl read'.1.securityControl := by
    rwa [spec.1, spec'.1]
  have key := parseKeyId_congr conf counter control inside
  have kept := (parseKeyId_spec conf read.2 read.1 (by rwa [spec.1])).1
  have kept' := (parseKeyId_spec conf read'.2 read'.1 (by rwa [spec'.1])).1
  refine ⟨key.1, ?_, ?_⟩
  · rwa [kept, kept']
  · rw [kept]
    exact key.2

theorem parseAuxHdr_congr (agrees : p.AgreesUpTo limit p') (fcf : pf'.fcf = pf.fcf)
    (inside : (parseAuxHdr conf p pf).2.offset ≤ limit) :
    (parseAuxHdr conf p pf).2.AgreesUpTo limit (parseAuxHdr conf p' pf').2 ∧
      (conf.usesAuxHeader → pf.fcf.securityEnabled ≠ 0 →
        SameKey conf (parseAuxHdr conf p pf).1.auxHdr (parseAuxHdr conf p' pf').1.auxHdr) := by
  unfold parseAuxHdr at inside ⊢
  rw [fcf]
  cases uses : conf.usesAuxHeader with
  | false => exact ⟨agrees, fun absent => nomatch absent⟩
  | true =>
    by_cases secured : pf.fcf.securityEnabled = 0
    · simp only [secured, bne_self_eq_false, Bool.and_false, Bool.false_eq_true, if_false]
      exact ⟨agrees, fun _ absent => absurd rfl absent⟩
    · have enabled : (pf.fcf.securityEnabled != 0) = true := by simpa using secured
      simp only [uses, enabled, Bool.and_self, if_true] at inside ⊢
      have fields := parseAuxFields_congr conf pf.auxHdr pf'.auxHdr agrees inside
      exact ⟨fields.1, fun _ _ => fields.2⟩

theorem parseAuxHdr_destPid (p : Cursor UInt8) (pf : Frame802154) :
    (parseAuxHdr conf p pf).1.destPid = pf.destPid := by
  unfold parseAuxHdr
  split <;> rfl

structure SameHeader (parsed parsed' : Frame802154) : Prop where
  fcf : parsed'.fcf = parsed.fcf
  destPid : parsed'.destPid = parsed.destPid
  key : conf.usesAuxHeader → parsed.fcf.securityEnabled ≠ 0 →
    SameKey conf parsed.auxHdr parsed'.auxHdr

theorem parseHeader_congr {data data' : List UInt8} (pf pf' : Frame802154)
    (same : data'.take (parseHeader conf data pf).2.offset =
      data.take (parseHeader conf data pf).2.offset) :
    (parseHeader conf data' pf').2.offset = (parseHeader conf data pf).2.offset ∧
      SameHeader conf (parseHeader conf data pf).1 (parseHeader conf data' pf').1 := by
  generalize limit_eq : (parseHeader conf data pf).2.offset = limit at same ⊢
  have long : 2 ≤ limit := by
    rw [← limit_eq, (parseHeader_spec conf data pf).2.1, parsedHdrlen]
    omega
  have start : (Cursor.start data).AgreesUpTo limit (Cursor.start data') := ⟨rfl, same⟩
  unfold parseHeader at limit_eq ⊢
  dsimp only at limit_eq ⊢
  rw [start.peek (by simp; omega), start.peek (by simp; omega)]
  have small : (frame802154ParseFcf ((Cursor.start data).peek 0)
      ((Cursor.start data).peek 1)).securityEnabled.toNat < 2 := and_one_lt _
  generalize frame802154ParseFcf ((Cursor.start data).peek 0) ((Cursor.start data).peek 1) = fcf
    at limit_eq small ⊢
  generalize before : { pf with fcf := fcf } = set at limit_eq ⊢
  generalize before' : { pf' with fcf := fcf } = set' at ⊢
  have fcf0 : set'.fcf = set.fcf := by rw [← before, ← before']
  have small : set.fcf.securityEnabled.toNat < 2 := by rwa [← before]
  have seqno := parseSeqno_congr (start.skip 2) fcf0
  have seqFcf := (parseSeqno_spec ((Cursor.start data).skip 2) set).1
  have seqFcf' := (parseSeqno_spec ((Cursor.start data').skip 2) set').1
  generalize parseSeqno ((Cursor.start data).skip 2) set = seq at limit_eq seqno seqFcf ⊢
  generalize parseSeqno ((Cursor.start data').skip 2) set' = seq' at seqno seqFcf' ⊢
  have fcf1 : seq'.1.fcf = seq.1.fcf := by rw [seqFcf, seqFcf', fcf0]
  have dest := parseDest_congr seqno fcf1
  have destFcf := (parseDest_spec seq.2 seq.1).1
  have destFcf' := (parseDest_spec seq'.2 seq'.1).1
  generalize parseDest seq.2 seq.1 = dst at limit_eq dest destFcf ⊢
  generalize parseDest seq'.2 seq'.1 = dst' at dest destFcf' ⊢
  have fcf2 : dst'.1.fcf = dst.1.fcf := by rw [destFcf, destFcf', fcf1]
  have source := fun (agrees : dst.2.AgreesUpTo limit dst'.2) =>
    parseSrc_congr agrees fcf2
  have srcFcf := parseSrc_spec dst.2 dst.1
  have srcFcf' := parseSrc_spec dst'.2 dst'.1
  generalize parseSrc dst.2 dst.1 = src at limit_eq source srcFcf ⊢
  generalize parseSrc dst'.2 dst'.1 = src' at source srcFcf' ⊢
  have aux := parseAuxHdr_spec conf src.2 src.1 (by rwa [srcFcf.1, destFcf, seqFcf])
  dsimp only at aux
  have srcInside : src.2.offset ≤ limit := by
    rw [← limit_eq, aux.2.1]
    omega
  have destInside : dst.2.offset ≤ limit := by
    refine Nat.le_trans ?_ srcInside
    rw [srcFcf.2]
    omega
  obtain ⟨destAgrees, destPid⟩ := dest destInside
  obtain ⟨srcAgrees, srcPid⟩ := source destAgrees destPid srcInside
  have fcf3 : src'.1.fcf = src.1.fcf := by rw [srcFcf.1, srcFcf'.1, fcf2]
  obtain ⟨auxAgrees, key⟩ := parseAuxHdr_congr conf srcAgrees fcf3 (Nat.le_of_eq limit_eq)
  refine ⟨auxAgrees.offset.trans limit_eq, ?_, ?_, ?_⟩
  · rw [(parseAuxHdr_keeps conf src'.2 src'.1).1, (parseAuxHdr_keeps conf src.2 src.1).1, fcf3]
  · rw [parseAuxHdr_destPid, parseAuxHdr_destPid, srcPid]
  · rw [(parseAuxHdr_keeps conf src.2 src.1).1]
    exact key

theorem frame802154Parse_congr {data data' : List UInt8} (pf pf' : Frame802154)
    (parsed : (frame802154Parse conf data pf).1 ≠ 0)
    (same : data'.take (frame802154Parse conf data pf).1 =
      data.take (frame802154Parse conf data pf).1) :
    (frame802154Parse conf data' pf').1 = (frame802154Parse conf data pf).1 ∧
      SameHeader conf (frame802154Parse conf data pf).2 (frame802154Parse conf data' pf').2 := by
  unfold frame802154Parse at parsed same ⊢
  by_cases short : data.length < 2
  · rw [if_pos short] at parsed
    exact absurd rfl parsed
  rw [if_neg short] at parsed same ⊢
  dsimp only at parsed same ⊢
  by_cases beyond : (parseHeader conf data pf).2.offset > data.length
  · rw [if_pos beyond] at parsed
    exact absurd rfl parsed
  rw [if_neg beyond] at same ⊢
  obtain ⟨offset, header⟩ := parseHeader_congr conf pf pf' same
  have reaches := congrArg List.length same
  rw [List.length_take, List.length_take] at reaches
  have long : 2 ≤ (parseHeader conf data pf).2.offset := by
    rw [(parseHeader_spec conf data pf).2.1, parsedHdrlen]
    omega
  rw [if_neg (by omega : ¬ data'.length < 2)]
  dsimp only
  rw [offset, if_neg (by omega)]
  exact ⟨rfl, header.fcf, header.destPid, header.key⟩

end MultiPhyTsch
