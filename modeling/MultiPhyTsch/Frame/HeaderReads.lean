import MultiPhyTsch.Frame.HeaderPrefix
import MultiPhyTsch.Lib.Reads

/-! Which bytes `frame802154_parse` reads, and what it stores of them. The program below reads the
header as the code does and gives the fields that are stored; it does not know the structure they
are stored in. -/

namespace MultiPhyTsch

open Reads

structure AuxFields where
  securityLevel : UInt8
  keyIdMode : Option UInt8
  frameCounterSuppression : UInt8
  frameCounterSize : UInt8
  frameCounter : Option (Vector UInt8 4)
  keySource : List UInt8
  keyIndex : Option UInt8

structure HeaderFields where
  fcf : Frame802154Fcf
  seq : Option UInt8
  destPid : UInt16
  destAddr : Option LinkAddr
  srcPid : UInt16
  srcAddr : Option LinkAddr
  aux : Option AuxFields

def AuxFields.fill (fields : AuxFields) (old : Frame802154AuxHdr) : Frame802154AuxHdr :=
  { securityControl :=
      { securityLevel := fields.securityLevel
        keyIdMode := fields.keyIdMode.getD old.securityControl.keyIdMode
        frameCounterSuppression := fields.frameCounterSuppression
        frameCounterSize := fields.frameCounterSize }
    frameCounter := fields.frameCounter.getD old.frameCounter
    keySource := Vector.ofFn fun index => fields.keySource.getD index (old.keySource.get index)
    keyIndex := fields.keyIndex.getD old.keyIndex }

def HeaderFields.fill (fields : HeaderFields) (old : Frame802154) : Frame802154 :=
  { old with
    fcf := fields.fcf
    seq := fields.seq.getD old.seq
    destPid := fields.destPid
    destAddr := fields.destAddr.getD old.destAddr
    srcPid := fields.srcPid
    srcAddr := fields.srcAddr.getD old.srcAddr
    auxHdr := (fields.aux.map fun aux => aux.fill old.auxHdr).getD old.auxHdr }

variable (conf : LlsecConf)

def readSeqno (fcf : Frame802154Fcf) (p : Nat) : Reads UInt8 (Option UInt8 × Nat) :=
  if fcf.sequenceNumberSuppression = 0 then do
    let seq ← element p
    pure (some seq, p + 1)
  else pure (none, p)

def readPid (p : Nat) : Reads UInt8 (UInt16 × Nat) := do
  let low ← element p
  let high ← element (p + 1)
  pure (read16 low high, p + 2)

def readPidField (present : Bool) (absent : UInt16) (p : Nat) : Reads UInt8 (UInt16 × Nat) :=
  if present then readPid p else pure (absent, p)

def readAddr (mode : UInt8) (p : Nat) : Reads UInt8 (Option LinkAddr × Nat) :=
  if mode = shortAddrMode then do
    let high ← element (p + 1)
    let low ← element p
    pure (some #v[high, low, 0, 0, 0, 0, 0, 0], p + 2)
  else if mode = longAddrMode then do
    let addr ← elements 8 fun index => p + (7 - index)
    pure (some addr, p + 8)
  else pure (none, p)

def readDest (fcf : Frame802154Fcf) (p : Nat) : Reads UInt8 ((UInt16 × Option LinkAddr) × Nat) :=
  if fcf.destAddrMode ≠ 0 then do
    let pid ← readPidField (hasDestPanid fcf) 0 p
    let addr ← readAddr fcf.destAddrMode pid.2
    pure ((pid.1, addr.1), addr.2)
  else pure ((0, some linkaddrNull), p)

def readSrc (fcf : Frame802154Fcf) (destPid : UInt16) (p : Nat) :
    Reads UInt8 ((UInt16 × UInt16 × Option LinkAddr) × Nat) :=
  if fcf.srcAddrMode ≠ 0 then do
    let pid ← readPidField (hasSrcPanid fcf) destPid p
    let addr ← readAddr fcf.srcAddrMode pid.2
    pure ((pid.1, if hasSrcPanid fcf && !hasDestPanid fcf then pid.1 else destPid, addr.1), addr.2)
  else pure ((0, destPid, some linkaddrNull), p)

def readFrameCounter (scf : UInt8) (p : Nat) : Reads UInt8 (Option (Vector UInt8 4) × Nat) :=
  if scf >>> 5 = 0 then do
    let counter ← elements 4 fun index => p + index
    pure (some counter, if scf >>> 6 = 1 then p + 5 else p + 4)
  else pure (none, p)

def readKeyId (scf : UInt8) (p : Nat) : Reads UInt8 ((List UInt8 × Option UInt8) × Nat) :=
  let keyIdMode := (scf >>> 3) &&& 3
  if conf.usesExplicitKeys && keyIdMode != 0 then do
    let count := (keyIdMode.toNat - 1) * 4
    let source ← elements count fun index => p + index
    let index ← element (p + count)
    pure ((source.toList, some index), p + (count + 1))
  else pure (([], none), p)

def readAuxFields (p : Nat) : Reads UInt8 (AuxFields × Nat) := do
  let scf ← element p
  let counter ← readFrameCounter scf (p + 1)
  let key ← readKeyId conf scf counter.2
  pure ({ securityLevel := scf &&& 7
          keyIdMode := if conf.usesExplicitKeys then some ((scf >>> 3) &&& 3) else none
          frameCounterSuppression := scf >>> 5
          frameCounterSize := scf >>> 6
          frameCounter := counter.1
          keySource := key.1.1
          keyIndex := key.1.2 }, key.2)

def readAuxHdr (fcf : Frame802154Fcf) (p : Nat) : Reads UInt8 (Option AuxFields × Nat) :=
  if conf.usesAuxHeader && fcf.securityEnabled != 0 then do
    let aux ← readAuxFields conf p
    pure (some aux.1, aux.2)
  else pure (none, p)

def readHeader : Reads UInt8 (HeaderFields × Nat) := do
  let byte0 ← element 0
  let byte1 ← element 1
  let fcf := frame802154ParseFcf byte0 byte1
  let seq ← readSeqno fcf 2
  let dest ← readDest fcf seq.2
  let src ← readSrc fcf dest.1.1 dest.2
  let aux ← readAuxHdr conf fcf src.2
  pure ({ fcf := fcf
          seq := seq.1
          destPid := src.1.2.1
          destAddr := dest.1.2
          srcPid := src.1.1
          srcAddr := src.1.2.2
          aux := aux.1 }, aux.2)

/-- `frame802154_parse` on `len` bytes: the header length, the fields and the payload pointer. -/
def readFrame (len : Nat) : Reads UInt8 (Nat × Option (HeaderFields × Nat)) :=
  if len < 2 then pure (0, none)
  else do
    let header ← readHeader conf
    pure (if header.2 > len then 0 else header.2, some header)

variable (fcf : Frame802154Fcf)

theorem advances_readSeqno (p : Nat) : Advances p (readSeqno fcf p) := by
  intro memory
  unfold readSeqno
  split
  · simp
  · simp

theorem advances_readPid (p : Nat) : Advances p (readPid p) := by
  intro memory
  simp [readPid]

theorem advances_readPidField (present : Bool) (absent : UInt16) (p : Nat) :
    Advances p (readPidField present absent p) :=
  Advances.ite (fun _ => advances_readPid p) fun _ => Advances.pure (Nat.le_refl p) _

theorem advances_readAddr (mode : UInt8) (p : Nat) : Advances p (readAddr mode p) := by
  intro memory
  unfold readAddr
  split
  · simp
  · split
    · simp
      omega
    · simp

theorem advances_readDest (p : Nat) : Advances p (readDest fcf p) := by
  unfold readDest
  refine Advances.ite (fun _ => ?_) (fun _ => Advances.pure (Nat.le_refl p) _)
  refine Advances.bind (advances_readPidField _ _ p) fun pid next => ?_
  exact Advances.bind (advances_readAddr fcf.destAddrMode next) fun addr last =>
    Advances.pure (Nat.le_refl last) _

theorem advances_readSrc (destPid : UInt16) (p : Nat) : Advances p (readSrc fcf destPid p) := by
  unfold readSrc
  refine Advances.ite (fun _ => ?_) (fun _ => Advances.pure (Nat.le_refl p) _)
  refine Advances.bind (advances_readPidField _ _ p) fun pid next => ?_
  exact Advances.bind (advances_readAddr fcf.srcAddrMode next) fun addr last =>
    Advances.pure (Nat.le_refl last) _

theorem advances_readFrameCounter (scf : UInt8) (p : Nat) : Advances p (readFrameCounter scf p) := by
  unfold readFrameCounter
  refine Advances.ite (fun _ => ?_) (fun _ => Advances.pure (Nat.le_refl p) _)
  refine Advances.elements fun counter => Advances.pure ?_ _
  split
  · omega
  · omega

theorem advances_readKeyId (scf : UInt8) (p : Nat) : Advances p (readKeyId conf scf p) := by
  unfold readKeyId
  refine Advances.ite (fun _ => ?_) (fun _ => Advances.pure (Nat.le_refl p) _)
  refine Advances.elements fun source => Advances.element fun index => Advances.pure ?_ _
  exact Nat.le_refl _

theorem advances_readAuxFields (p : Nat) : Advances p (readAuxFields conf p) := by
  refine Advances.element fun scf => ?_
  refine Advances.bind (advances_readFrameCounter scf (p + 1)) fun counter next => ?_
  exact Advances.bind (advances_readKeyId conf scf next) fun key last => Advances.pure (Nat.le_refl last) _

theorem advances_readAuxHdr (p : Nat) : Advances p (readAuxHdr conf fcf p) := by
  unfold readAuxHdr
  refine Advances.ite (fun _ => ?_) (fun _ => Advances.pure (Nat.le_refl p) _)
  exact Advances.bind (advances_readAuxFields conf p) fun aux last => Advances.pure (Nat.le_refl last) _

theorem advances_readHeader : Advances 0 (readHeader conf) := by
  refine Advances.element fun byte0 => Advances.element fun byte1 => ?_
  refine Advances.bind (advances_readSeqno (frame802154ParseFcf byte0 byte1) 2) fun seq p => ?_
  refine Advances.bind (advances_readDest _ p) fun dest p => ?_
  refine Advances.bind (advances_readSrc _ dest.1 p) fun src p => ?_
  exact Advances.bind (advances_readAuxHdr conf _ p) fun aux last => Advances.pure (Nat.le_refl last) _

def bytesOf (data : List UInt8) (index : Nat) : UInt8 := data.getD index default

section fill

variable (data : List UInt8)

variable (p : Nat)

theorem parseSeqno_reads (pf : Frame802154) : parseSeqno (.into data p) pf =
      let seq := (readSeqno pf.fcf p).value (bytesOf data)
      ({ pf with seq := seq.1.getD pf.seq }, .into data seq.2) := by
  unfold parseSeqno readSeqno
  by_cases present : pf.fcf.sequenceNumberSuppression = 0
  · simp [present, bytesOf]
  · simp [present]

theorem parseAddr_reads (mode : UInt8) (p : Nat) (old : LinkAddr) :
    parseAddr mode (.into data p) old =
      let addr := (readAddr mode p).value (bytesOf data)
      (addr.1.getD old, .into data addr.2) := by
  unfold parseAddr readAddr
  by_cases short : mode = shortAddrMode
  · simp [short, bytesOf]
  · by_cases long : mode = longAddrMode
    · simp [long, show longAddrMode ≠ shortAddrMode by decide, bytesOf]
    · simp [short, long]

theorem parseDest_reads (pf : Frame802154) : parseDest (.into data p) pf =
      let dest := (readDest pf.fcf p).value (bytesOf data)
      ({ pf with destPid := dest.1.1, destAddr := dest.1.2.getD pf.destAddr }, .into data dest.2) := by
  unfold parseDest readDest readPidField readPid
  by_cases present : pf.fcf.destAddrMode ≠ 0
  · by_cases panid : hasDestPanid pf.fcf = true
    · simp [present, panid, parseAddr_reads, bytesOf]
    · simp [present, panid, parseAddr_reads]
  · simp [present]

theorem parseSrc_reads (pf : Frame802154) : parseSrc (.into data p) pf =
      let src := (readSrc pf.fcf pf.destPid p).value (bytesOf data)
      ({ pf with
        srcPid := src.1.1
        destPid := src.1.2.1
        srcAddr := src.1.2.2.getD pf.srcAddr }, .into data src.2) := by
  unfold parseSrc readSrc readPidField readPid
  by_cases present : pf.fcf.srcAddrMode ≠ 0
  · by_cases panid : hasSrcPanid pf.fcf = true
    · by_cases dest : hasDestPanid pf.fcf = true
      · simp [present, panid, dest, parseAddr_reads, bytesOf]
      · simp [present, panid, dest, parseAddr_reads, bytesOf]
    · simp [present, panid, parseAddr_reads]
  · simp [present]

theorem parseFrameCounter_reads (scf : UInt8) (p : Nat) (aux : Frame802154AuxHdr)
    (suppression : aux.securityControl.frameCounterSuppression = scf >>> 5)
    (size : aux.securityControl.frameCounterSize = scf >>> 6) :
    parseFrameCounter (.into data p) aux =
      let counter := (readFrameCounter scf p).value (bytesOf data)
      ({ aux with frameCounter := counter.1.getD aux.frameCounter }, .into data counter.2) := by
  unfold parseFrameCounter readFrameCounter
  rw [suppression, size]
  by_cases present : scf >>> 5 = 0
  · by_cases wide : scf >>> 6 = 1
    · simp [present, wide, bytesOf]
    · simp [present, wide, bytesOf]
  · simp [present]

theorem getD_ofFn_toList {count : Nat} (found : Fin count → UInt8) (index : Nat) (old : UInt8) :
    (Vector.ofFn found).toList.getD index old =
      if inside : index < count then found ⟨index, inside⟩ else old := by
  rw [List.getD_eq_getElem?_getD]
  split
  next inside => simp [inside]
  next outside => simp [Nat.le_of_not_lt outside]

theorem parseKeyId_reads (scf : UInt8) (p : Nat) (aux : Frame802154AuxHdr)
    (mode : conf.usesExplicitKeys → aux.securityControl.keyIdMode = (scf >>> 3) &&& 3) :
    parseKeyId conf (.into data p) aux =
      let key := (readKeyId conf scf p).value (bytesOf data)
      ({ aux with
        keySource := Vector.ofFn fun index => key.1.1.getD index (aux.keySource.get index)
        keyIndex := key.1.2.getD aux.keyIndex }, .into data key.2) := by
  have kept : (Vector.ofFn fun index : Fin 8 => aux.keySource.get index) = aux.keySource := by
    apply Vector.ext
    intro index inside
    rw [Vector.getElem_ofFn]
    rfl
  unfold parseKeyId readKeyId
  cases explicit : conf.usesExplicitKeys with
  | false => simp [kept]
  | true =>
    rw [mode explicit]
    by_cases keyed : (scf >>> 3) &&& 3 = 0
    · simp [keyed, kept]
    · simp only [Bool.true_and, bne_iff_ne, ne_eq, keyed, not_false_eq_true, if_true, value_bind,
        value_elements, value_element, value_pure, getD_ofFn_toList, Cursor.into_peek,
        Cursor.into_skip, bytesOf, Option.getD_some, dite_eq_ite]

theorem parseAuxFields_reads (aux : Frame802154AuxHdr) : parseAuxFields conf (.into data p) aux =
      let fields := (readAuxFields conf p).value (bytesOf data)
      (fields.1.fill aux, .into data fields.2) := by
  unfold parseAuxFields readAuxFields
  dsimp only
  have scf : (Cursor.into data p).peek 0 = bytesOf data p := by simp [bytesOf]
  rw [scf, Cursor.into_skip, parseFrameCounter_reads data (bytesOf data p) (p + 1) _ rfl rfl]
  dsimp only
  rw [parseKeyId_reads conf data (bytesOf data p)]
  · simp only [value_bind, value_element, value_pure, AuxFields.fill, parseScf]
    cases conf.usesExplicitKeys with
    | false => rfl
    | true => rfl
  · intro explicit
    simp [parseScf, explicit]

theorem parseAuxHdr_reads (pf : Frame802154) : parseAuxHdr conf (.into data p) pf =
      let aux := (readAuxHdr conf pf.fcf p).value (bytesOf data)
      ({ pf with auxHdr := (aux.1.map fun fields => fields.fill pf.auxHdr).getD pf.auxHdr },
        .into data aux.2) := by
  unfold parseAuxHdr readAuxHdr
  by_cases secured : (conf.usesAuxHeader && pf.fcf.securityEnabled != 0) = true
  · simp [secured, parseAuxFields_reads]
  · simp [secured]

theorem parseHeader_reads (pf : Frame802154) :
    parseHeader conf data pf =
      let header := (readHeader conf).value (bytesOf data)
      (header.1.fill pf, .into data header.2) := by
  unfold parseHeader readHeader
  have first : (Cursor.into data 0).peek 0 = bytesOf data 0 := by simp [bytesOf]
  have second : (Cursor.into data 0).peek 1 = bytesOf data 1 := by simp [bytesOf]
  rw [Cursor.start_eq_into]
  dsimp only
  rw [first, second, Cursor.into_skip, parseSeqno_reads]
  dsimp only
  rw [parseDest_reads]
  dsimp only
  rw [parseSrc_reads]
  dsimp only
  rw [parseAuxHdr_reads]
  simp only [value_bind, value_element, value_pure, HeaderFields.fill]

theorem frame802154Parse_reads (pf : Frame802154) :
    frame802154Parse conf data pf =
      let parsed := (readFrame conf data.length).value (bytesOf data)
      (parsed.1, (parsed.2.map fun header => { header.1.fill pf with
        payload := data.drop header.2
        payloadLen := (data.length : Int) - header.2 }).getD pf) := by
  unfold frame802154Parse readFrame
  by_cases short : data.length < 2
  · simp [short]
  · simp only [if_neg short, parseHeader_reads, value_bind, value_pure, Cursor.into_offset,
      Option.map_some, Option.getD_some]
    rfl

end fill

theorem bytesOf_of_take {data data' : List UInt8} {c index : Nat} (inside : index < c)
    (same : data'.take c = data.take c) : bytesOf data' index = bytesOf data index := by
  have byte := congrArg (fun bytes => bytes.getD index default) same
  simpa [bytesOf, List.getD_eq_getElem?_getD, List.getElem?_take, inside] using byte

theorem readFrame_accepted {data : List UInt8}
    (accepted : ((readFrame conf data.length).value (bytesOf data)).1 > 0) :
    ∃ fields c, (readHeader conf).value (bytesOf data) = (fields, c) ∧ 2 ≤ c ∧ c ≤ data.length ∧
      ¬ data.length < 2 ∧ ∀ index ∈ (readHeader conf).indices (bytesOf data), index < c := by
  unfold readFrame at accepted
  by_cases short : data.length < 2
  · rw [if_pos short] at accepted
    exact absurd accepted (Nat.lt_irrefl 0)
  · rw [if_neg short, value_bind, value_pure] at accepted
    obtain ⟨-, before⟩ := advances_readHeader conf (bytesOf data)
    rcases header : (readHeader conf).value (bytesOf data) with ⟨fields, c⟩
    rw [header] at accepted before
    dsimp only at accepted before
    refine ⟨fields, c, rfl, ?_, ?_, short, before⟩
    · exact before 1 (by simp [readHeader])
    · by_contra beyond
      rw [if_pos (by omega)] at accepted
      exact absurd accepted (Nat.lt_irrefl 0)

/-- A header that is accepted is all that was read of the frame: whatever follows it, and whatever
the structure held before, the same fields are stored. -/
theorem frame802154Parse_local (data : List UInt8) (pf : Frame802154)
    (accepted : (frame802154Parse conf data pf).1 > 0) :
    let c := (frame802154Parse conf data pf).1
    c ≤ data.length ∧
      (∀ memory : Nat → UInt8, (∀ index < data.length, memory index = bytesOf data index) →
        ∀ index ∈ (readFrame conf data.length).indices memory, index < c) ∧
      ∃ fields : HeaderFields, ∀ data' : List UInt8, data'.take c = data.take c →
        ∀ pf' : Frame802154, frame802154Parse conf data' pf' =
          (c, { fields.fill pf' with
            payload := data'.drop c
            payloadLen := (data'.length : Int) - c }) := by
  rw [frame802154Parse_reads] at accepted ⊢
  dsimp only at accepted ⊢
  obtain ⟨fields, c, header, long, inside, short, before⟩ := readFrame_accepted conf accepted
  have value : (readFrame conf data.length).value (bytesOf data) = (c, some (fields, c)) := by
    rw [readFrame, if_neg short, value_bind, header, value_pure, if_neg (by omega)]
  rw [value]
  dsimp only
  refine ⟨inside, ?_, fields, ?_⟩
  · intro memory starts index member
    have indices : (readFrame conf data.length).indices (bytesOf data) =
        (readHeader conf).indices (bytesOf data) := by
      rw [readFrame, if_neg short, indices_bind, indices_pure, List.append_nil]
    have same := ((readFrame conf data.length).congr fun index member =>
      starts index (Nat.lt_of_lt_of_le (before index (by rwa [indices] at member)) inside)).2
    rw [same, indices] at member
    exact before index member
  · intro data' agrees pf'
    have reaches := congrArg List.length agrees
    rw [List.length_take, List.length_take] at reaches
    have read := ((readHeader conf).congr fun index member =>
      bytesOf_of_take (before index member) agrees).1
    have value' : (readFrame conf data'.length).value (bytesOf data') = (c, some (fields, c)) := by
      rw [readFrame, if_neg (by omega), value_bind, read, header, value_pure, if_neg (by omega)]
    rw [frame802154Parse_reads, value']
    rfl

def securedHeader : List UInt8 :=
  [0x69, 0xec, 7] ++ List.replicate 8 1 ++ List.replicate 8 2 ++ [0x2d, 1] ++ [0xaa, 0xbb, 0xcc]

theorem securedHeader_local :
    (frame802154Parse ⟨true, true⟩ securedHeader default).1 = 21 ∧
      (∀ index ∈ (readFrame ⟨true, true⟩ securedHeader.length).indices (bytesOf securedHeader),
        index < 21) ∧
      ∃ fields : HeaderFields, ∀ data' : List UInt8, data'.take 21 = securedHeader.take 21 →
        ∀ pf' : Frame802154, frame802154Parse ⟨true, true⟩ data' pf' =
          (21, { fields.fill pf' with
            payload := data'.drop 21
            payloadLen := (data'.length : Int) - (21 : Nat) }) := by
  have length : (frame802154Parse ⟨true, true⟩ securedHeader default).1 = 21 := by decide
  obtain ⟨-, reads, fields, stored⟩ :=
    frame802154Parse_local ⟨true, true⟩ securedHeader default (by rw [length]; decide)
  rw [length] at reads stored
  exact ⟨length, reads _ fun _ _ => rfl, fields, stored⟩

end MultiPhyTsch
