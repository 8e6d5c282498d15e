import CloudFpga.Foundation.Clocked
import CloudFpga.Toe.AxisFields
import CloudFpga.Toe.TxEngine.MemoryReader

/-!
Segment assembly of the Tx engine, `tx_engine.cpp`: `pTxMemoryReader`, the memory that answers its
commands, and `pTcpSegStitcher`.

A segment is a pseudo header, and the read command for its payload if it has one. The pseudo
headers, the commands and the streams with which the memory answers are fixed beforehand; a cycle
says what of them has arrived, and which streams are full.

* `tssNext`: a cycle, in which each process is called once.
* `TssInv`: what was delivered and what is still to be delivered make up the assembled segments.
* `tss_run`: after enough cycles that do not block the processes, the segments are delivered.
* `pTcpSegStitcher_assembles_iff`: they are one stream for each segment, its header and the bytes
  of the circular buffer, exactly when no payload is cut after eight bytes.
-/

namespace CloudFpga.Toe

open Foundation AxisRaw

inductive TssFsmState where
  | psdHdr | psdOpt | data | fwd1stBuf | fwd2ndBuf | join2ndBuf | residue
  deriving DecidableEq, Repr

/-- The registers of `pTcpSegStitcher`, and the streams around it. The flags that
`pTxMemoryReader` has written are read from there. `answers` are the streams with which the memory
will answer the commands, in order. -/
structure TssState where
  mrd : MrdState
  answers : List (List AxisApp)
  fsmState : TssFsmState := .psdHdr
  psdHdrChunkCount : ℕ := 0
  prevChunk : AxisApp
  memRdOffset : ℕ := 0
  mustJoin : Bool := false
  siPhcPseudoHdr : List AxisPsd4
  siMEMTxPData : List AxisApp := []
  soScaPseudoPkt : List AxisPsd4 := []
  deriving DecidableEq

/-- What a cycle offers: which outputs are full, whether the memory answers a command, and what
has arrived at the stitcher. -/
structure TssCycle where
  mrd : MrdCycle
  memAnswers : Bool
  pseudoHdr : Bool
  memData : Bool
  splitSegFlag : Bool
  pseudoPktFull : Bool
  deriving DecidableEq, Repr

/-- Nothing blocks the processes in the cycle. -/
def TssCycle.ready (k : TssCycle) : Bool :=
  !k.mrd.splitMemAccFull && !k.mrd.memRdCmdFull && k.memAnswers && k.pseudoHdr && k.memData &&
    k.splitSegFlag && !k.pseudoPktFull

/-- The cycle that offers everything. -/
def TssCycle.free : TssCycle := ⟨⟨false, false⟩, true, true, true, true, false⟩

section Calls

variable (s : TssState) (k : TssCycle)

/-- A chunk for the checksum accumulators. -/
def tssWrite (c : AxisPsd4) : TssState := { s with soScaPseudoPkt := s.soScaPseudoPkt ++ [c] }

/-- `TSS_PSD_HDR`: the first 4 chunks of the header. -/
def tssPsdHdr : TssState :=
  match s.siPhcPseudoHdr with
  | currHdrChunk :: hs =>
      if k.pseudoHdr ∧ ¬k.pseudoPktFull then
        let s := tssWrite { s with siPhcPseudoHdr := hs } currHdrChunk
        let s :=
          if s.psdHdrChunkCount = 3 then
            { s with
              fsmState := if getTcpCtrlSyn currHdrChunk then .psdOpt else .data
              psdHdrChunkCount := 0 }
          else { s with psdHdrChunkCount := s.psdHdrChunkCount + 1 }
        if currHdrChunk.tlast then { s with fsmState := .psdHdr, psdHdrChunkCount := 0 } else s
      else s
  | [] => s

/-- `TSS_PSD_OPT`: the fifth chunk of the header. -/
def tssPsdOpt : TssState :=
  match s.siPhcPseudoHdr with
  | currHdrChunk :: hs =>
      if k.pseudoHdr ∧ ¬k.pseudoPktFull then
        { tssWrite { s with siPhcPseudoHdr := hs } currHdrChunk with fsmState := .psdHdr }
      else s
  | [] => s

/-- `TSS_DATA`: the very first chunk of the payload. The `tlast` of a first part of one chunk is
not cleared. -/
def tssData : TssState :=
  match s.siMEMTxPData, s.mrd.soTssSplitMemAcc with
  | currAppChunk :: cs, mustJoin :: fs =>
      if k.memData ∧ k.splitSegFlag ∧ ¬k.pseudoPktFull then
        let s := { s with
          siMEMTxPData := cs
          mrd := { s.mrd with soTssSplitMemAcc := fs }
          mustJoin := mustJoin }
        if currAppChunk.tlast then
          if mustJoin = false then { tssWrite s currAppChunk with fsmState := .psdHdr }
          else if currAppChunk.getLen ≠ 8 then
            { s with
              memRdOffset := currAppChunk.getLen
              prevChunk := currAppChunk
              fsmState := .join2ndBuf }
          else
            { tssWrite s currAppChunk with
              memRdOffset := currAppChunk.getLen
              fsmState := .fwd2ndBuf }
        else { tssWrite s currAppChunk with fsmState := .fwd1stBuf }
      else s
  | _, _ => s

/-- `TSS_FWD_1ST_BUF`. -/
def tssFwd1stBuf : TssState :=
  match s.siMEMTxPData with
  | currAppChunk :: cs =>
      if k.memData ∧ ¬k.pseudoPktFull then
        let s := { s with siMEMTxPData := cs }
        if currAppChunk.tlast then
          if s.mustJoin = false then { tssWrite s currAppChunk with fsmState := .psdHdr }
          else if currAppChunk.getLen ≠ 8 then
            { s with
              memRdOffset := currAppChunk.getLen
              prevChunk := clearTLast currAppChunk
              fsmState := .join2ndBuf }
          else
            { tssWrite s (clearTLast currAppChunk) with
              memRdOffset := currAppChunk.getLen
              fsmState := .fwd2ndBuf }
        else tssWrite s currAppChunk
      else s
  | [] => s

/-- `TSS_FWD_2ND_BUF`. -/
def tssFwd2ndBuf : TssState :=
  match s.siMEMTxPData with
  | currAppChunk :: cs =>
      if k.memData ∧ ¬k.pseudoPktFull then
        let s := tssWrite { s with siMEMTxPData := cs } currAppChunk
        if currAppChunk.tlast then { s with fsmState := .psdHdr } else s
      else s
  | [] => s

/-- `TSS_JOIN_2ND_BUF`. -/
def tssJoin2ndBuf : TssState :=
  match s.siMEMTxPData with
  | currAppChunk :: cs =>
      if k.memData ∧ ¬k.pseudoPktFull then
        let joinedChunk := joinHead s.memRdOffset s.prevChunk currAppChunk
        let s := { s with
          siMEMTxPData := cs
          prevChunk := carry s.memRdOffset s.prevChunk currAppChunk }
        if fits s.memRdOffset currAppChunk then
          { tssWrite s joinedChunk.setTLast with fsmState := .psdHdr }
        else if currAppChunk.tlast then { tssWrite s joinedChunk with fsmState := .residue }
        else tssWrite s joinedChunk
      else s
  | [] => s

/-- `TSS_RESIDUE`. -/
def tssResidue : TssState :=
  if ¬k.pseudoPktFull then
    { tssWrite s (lastChunk s.memRdOffset s.prevChunk) with fsmState := .psdHdr }
  else s

/-- One call of `pTcpSegStitcher`. -/
def pTcpSegStitcher : TssState :=
  match s.fsmState with
  | .psdHdr => tssPsdHdr s k
  | .psdOpt => tssPsdOpt s k
  | .data => tssData s k
  | .fwd1stBuf => tssFwd1stBuf s k
  | .fwd2ndBuf => tssFwd2ndBuf s k
  | .join2ndBuf => tssJoin2ndBuf s k
  | .residue => tssResidue s k

/-- The memory answers a command. -/
def tssMemAnswer : TssState :=
  match s.mrd.soMEMTxpRdCmd, s.answers with
  | _ :: cmds, st :: sts =>
      if k.memAnswers then
        { s with
          mrd := { s.mrd with soMEMTxpRdCmd := cmds }
          answers := sts
          siMEMTxPData := s.siMEMTxPData ++ st }
      else s
  | _, _ => s

/-- A cycle. -/
def tssNext : TssState :=
  pTcpSegStitcher (tssMemAnswer { s with mrd := pTxMemoryReader s.mrd k.mrd } k) k

end Calls

/-! ### Assembled segments -/

/-- A segment: its pseudo header, and the command that reads its payload. -/
structure TssSeg where
  hdr : List AxisPsd4
  cmd : Option DmCmd

/-- The pseudo headers that `pPseudoHeaderConstructor` writes: a pure header, a `SYN` with its
option, and a header that is followed by a payload. -/
inductive TssSeg.Shaped : TssSeg → Prop
  | pure {hdr : List AxisPsd4} (hwf : WellFormed hdr) (hlen : hdr.length = 4) : Shaped ⟨hdr, none⟩
  | syn {c0 c1 c2 c3 c4 : AxisPsd4} (hwf : WellFormed [c0, c1, c2, c3, c4])
      (hsyn : getTcpCtrlSyn c3 = true) : Shaped ⟨[c0, c1, c2, c3, c4], none⟩
  | data {c0 c1 c2 c3 : AxisPsd4} {cmd : DmCmd}
      (hvalid : ∀ c ∈ [c0, c1, c2, c3], c.isValid ∧ c.tlast = false)
      (hsyn : getTcpCtrlSyn c3 = false) : Shaped ⟨[c0, c1, c2, c3], some cmd⟩

/-- The read commands of segments. -/
def segCmds (segs : List TssSeg) : List DmCmd := segs.filterMap (·.cmd)

/-- The header of a segment, and the bytes of its payload. -/
def TssSeg.bytes (mem : BitVec 40 → Byte) (seg : TssSeg) : List Byte :=
  streamBytes seg.hdr ++
    match seg.cmd with
    | none => []
    | some c => (List.range c.btt.toNat).map fun i => mem (circularAddr c.saddr i)

/-- One well-formed stream with the bytes of the segment. -/
structure Assembles (mem : BitVec 40 → Byte) (seg : TssSeg) (st : List AxisPsd4) : Prop where
  wf : WellFormed st
  bytes : streamBytes st = seg.bytes mem

/-- The chunks are one such stream for each segment. -/
def AssemblesAll (mem : BitVec 40 → Byte) (segs : List TssSeg) (pkts : List AxisPsd4) : Prop :=
  ∃ streams : List (List AxisPsd4),
    pkts = streams.flatten ∧ List.Forall₂ (Assembles mem) segs streams

/-- The segments that are made of pseudo headers and of the streams of the memory. -/
def assembleAll : List TssSeg → List (List AxisApp) → List AxisPsd4
  | [], _ => []
  | seg :: segs, sts =>
      match seg.cmd with
      | none => seg.hdr ++ assembleAll segs sts
      | some c =>
          seg.hdr ++ ((takeSegment c.wraps sts).1 ++ assembleAll segs (takeSegment c.wraps sts).2)

section Segments

variable {mem : BitVec 40 → Byte} {seg : TssSeg} {segs : List TssSeg} {c : DmCmd}
  {st st' : List AxisPsd4} {sts : List (List AxisApp)}

/-- A header that is followed by a payload, and the payload. -/
lemma wellFormed_append {hdr : List AxisPsd4} (hhdr : ∀ c ∈ hdr, c.isValid ∧ c.tlast = false)
    (hst : WellFormed st) : WellFormed (hdr ++ st) := by
  refine ⟨hst.isStream.append fun c hc => (hhdr c hc).2, fun c hc => ?_⟩
  rcases List.mem_append.mp hc with hc | hc
  · exact (hhdr c hc).1
  · exact hst.isValid c hc

/-- The stream of the first segment, in front of those of the other segments. -/
lemma assemblesAll_cons (h : Assembles mem seg st) (rest : List AxisPsd4) :
    AssemblesAll mem (seg :: segs) (st ++ rest) ↔ AssemblesAll mem segs rest := by
  constructor
  · rintro ⟨streams, hdata, hall⟩
    obtain ⟨t, ts, ht, hts, rfl⟩ := List.forall₂_cons_left_iff.mp hall
    rw [List.flatten_cons] at hdata
    obtain ⟨-, hrest⟩ := h.wf.isStream.append_inj ht.wf.isStream hdata
    exact ⟨ts, hrest, hts⟩
  · rintro ⟨streams, rfl, hall⟩
    exact ⟨st :: streams, rfl, .cons h hall⟩

/-- A segment without a payload is its header. -/
lemma assembles_of_none (h : seg.Shaped) (hcmd : seg.cmd = none) : Assembles mem seg seg.hdr := by
  cases h with
  | pure hwf _ => exact ⟨hwf, by simp [TssSeg.bytes]⟩
  | syn hwf _ => exact ⟨hwf, by simp [TssSeg.bytes]⟩
  | data _ _ => cases hcmd

/-- A segment with a payload is its header, and the payload that is read back. -/
lemma assembles_of_readBack (h : seg.Shaped) (hcmd : seg.cmd = some c) (hst : ReadBack mem c st) :
    Assembles mem seg (seg.hdr ++ st) := by
  cases h with
  | pure _ _ => cases hcmd
  | syn _ _ => cases hcmd
  | data hvalid _ =>
      cases hcmd
      refine ⟨wellFormed_append hvalid hst.wf, ?_⟩
      rw [streamBytes_append, hst.bytes, TssSeg.bytes]

/-- A first part of eight bytes is taken for the whole payload. -/
lemma not_assemblesAll_of_eight (hseg : seg.Shaped) (hcmd : seg.cmd = some c)
    (h8 : SplitAfterEight c) (hlt : c.btt.toNat < toeBufferSize) (h : Answers mem c.first st)
    (rest : List AxisPsd4) :
    ¬AssemblesAll mem (seg :: segs) (seg.hdr ++ (stitch st st' ++ rest)) := by
  rintro ⟨streams, hdata, hall⟩
  obtain ⟨t, ts, ht, -, rfl⟩ := List.forall₂_cons_left_iff.mp hall
  have hlen : (streamBytes st).length = 8 := by
    rw [h.length, c.toNat_btt_first, h8.2]
    rfl
  obtain ⟨c8, hlast, hst, hbytes⟩ := @stitch_of_eight st st' h.wf hlen
  cases hseg with
  | pure _ _ => cases hcmd
  | syn _ _ => cases hcmd
  | data hvalid _ =>
      rename_i c0 c1 c2 c3 cmd hsyn
      obtain rfl : cmd = c := by injection hcmd
      -- the header and the first part are a packet of their own
      have hpkt : IsStream ([c0, c1, c2, c3] ++ [c8]) :=
        IsPacket.append (fun d hd => (hvalid d hd).2) ((isPacket_cons_of_last hlast).mpr rfl)
      have hcut : ([c0, c1, c2, c3] ++ [c8]) ++ (st' ++ rest) = t ++ ts.flatten := by
        rw [← List.flatten_cons, ← hdata, hst]
        simp
      obtain ⟨rfl, -⟩ := hpkt.append_inj ht.wf.isStream hcut
      have hone : (streamBytes [c8]).length = 8 := by
        rw [streamBytes_cons, streamBytes_nil, List.append_nil, hbytes]
      have hsum := congrArg List.length ht.bytes
      rw [TssSeg.bytes, streamBytes_append, List.length_append, List.length_append, hone] at hsum
      dsimp only at hsum
      rw [List.length_map, List.length_range] at hsum
      have hfirst := firstAccLen_lt h8.1 hlt
      rw [h8.2] at hfirst
      have height : (8 : RxBufPtr).toNat = 8 := rfl
      omega

/-- **Assembled segments**: they are one stream for each segment, with its header and its payload,
exactly when no payload is cut after eight bytes. -/
theorem assemblesAll_iff (hseg : ∀ seg ∈ segs, seg.Shaped)
    (hlt : ∀ c ∈ segCmds segs, c.btt.toNat < toeBufferSize)
    (hans : List.Forall₂ (Answers mem) ((segCmds segs).flatMap dmReads) sts) :
    AssemblesAll mem segs (assembleAll segs sts) ↔ ∀ c ∈ segCmds segs, ¬SplitAfterEight c := by
  induction segs generalizing sts with
  | nil => exact iff_of_true ⟨[], rfl, .nil⟩ (by simp [segCmds])
  | cons seg segs ih =>
      have hhead := hseg seg List.mem_cons_self
      have htail : ∀ seg' ∈ segs, seg'.Shaped := fun x hx => hseg x (List.mem_cons_of_mem seg hx)
      cases hcmd : seg.cmd with
      | none =>
          have hcmds : segCmds (seg :: segs) = segCmds segs := by simp [segCmds, hcmd]
          rw [hcmds] at hlt hans ⊢
          have happ : assembleAll (seg :: segs) sts = seg.hdr ++ assembleAll segs sts := by
            simp only [assembleAll, hcmd]
          rw [happ, assemblesAll_cons (assembles_of_none hhead hcmd), ih htail hlt hans]
      | some c =>
          have hcmds : segCmds (seg :: segs) = c :: segCmds segs := by simp [segCmds, hcmd]
          rw [hcmds] at hlt hans ⊢
          have hc := hlt c List.mem_cons_self
          have hrest (sts' : List (List AxisApp)) :=
            @ih sts' htail fun d hd => hlt d (List.mem_cons_of_mem c hd)
          have happ : assembleAll (seg :: segs) sts = seg.hdr ++
              ((takeSegment c.wraps sts).1 ++ assembleAll segs (takeSegment c.wraps sts).2) := by
            simp only [assembleAll, hcmd]
          rw [happ, List.forall_mem_cons]
          rw [List.flatMap_cons] at hans
          cases hw : c.wraps with
          | false =>
              rw [dmReads, hw, if_neg Bool.false_ne_true] at hans
              obtain ⟨st, sts, hst, hsts, rfl⟩ := List.forall₂_cons_left_iff.mp hans
              have hno : ¬SplitAfterEight c := fun h => by rw [h.1] at hw; cases hw
              have hback := readBack_of_not_wraps (by simp [hw]) hst
              rw [takeSegment, ← List.append_assoc,
                assemblesAll_cons (assembles_of_readBack hhead hcmd hback), hrest sts hsts]
              exact (and_iff_right hno).symm
          | true =>
              rw [dmReads, hw, if_pos rfl] at hans
              obtain ⟨st, sts₁, hst, hsts₁, rfl⟩ := List.forall₂_cons_left_iff.mp hans
              obtain ⟨st', sts, hst', hsts, rfl⟩ := List.forall₂_cons_left_iff.mp hsts₁
              rw [takeSegment]
              by_cases h8 : SplitAfterEight c
              · exact iff_of_false (not_assemblesAll_of_eight hhead hcmd h8 hc hst _)
                  fun h => h.1 h8
              · have hne : c.firstAccLen ≠ 8 := fun heq => h8 ⟨hw, heq⟩
                have hback := readBack_stitch hw hc hne hst hst'
                rw [← List.append_assoc,
                  assemblesAll_cons (assembles_of_readBack hhead hcmd hback), hrest sts hsts]
                exact (and_iff_right h8).symm

end Segments

/-! ### What is still to be delivered -/

/-- The state of a stitcher of payloads. -/
def TssFsmState.ass : TssFsmState → AssFsmState
  | .psdHdr | .psdOpt | .data => .idle
  | .fwd1stBuf => .fwd1stBuf
  | .fwd2ndBuf => .fwd2ndBuf
  | .join2ndBuf => .join2ndBuf
  | .residue => .residue

def AssFsmState.tss : AssFsmState → TssFsmState
  | .idle => .psdHdr
  | .fwd1stBuf => .fwd1stBuf
  | .fwd2ndBuf => .fwd2ndBuf
  | .join2ndBuf => .join2ndBuf
  | .residue => .residue

/-- The registers of the stitcher. -/
def TssState.regs (s : TssState) : StitchRegs :=
  ⟨s.fsmState.ass, s.memRdOffset, s.prevChunk, s.mustJoin⟩

/-- The stitcher has read a chunk of a payload. -/
def TssState.read (s : TssState) (c : AxisApp) : TssState :=
  { s with
    fsmState := (s.regs.read c).2.fsmState.tss
    memRdOffset := (s.regs.read c).2.memRdOffset
    prevChunk := (s.regs.read c).2.prevChunk
    mustJoin := (s.regs.read c).2.mustJoin
    soScaPseudoPkt := s.soScaPseudoPkt ++ (s.regs.read c).1 }

/-- In a state of the stitcher, what is left of the header and of the command of the current
segment. -/
inductive TssNow : TssFsmState → ℕ → TssSeg → Prop
  | start : TssNow .psdHdr 0 ⟨[], none⟩
  | pure {n : ℕ} {hs : List AxisPsd4} (hwf : WellFormed hs) (hlen : n + hs.length = 4) :
      TssNow .psdHdr n ⟨hs, none⟩
  | syn {n : ℕ} {hs : List AxisPsd4} {c3 c4 : AxisPsd4} (hwf : WellFormed (hs ++ [c3, c4]))
      (hlen : n + hs.length = 3) (hsyn : getTcpCtrlSyn c3 = true) :
      TssNow .psdHdr n ⟨hs ++ [c3, c4], none⟩
  | opt {c4 : AxisPsd4} : TssNow .psdOpt 0 ⟨[c4], none⟩
  | payload {n : ℕ} {hs : List AxisPsd4} {c3 : AxisPsd4} {cmd : DmCmd}
      (hvalid : ∀ c ∈ hs ++ [c3], c.tlast = false) (hlen : n + hs.length = 3)
      (hsyn : getTcpCtrlSyn c3 = false) : TssNow .psdHdr n ⟨hs ++ [c3], some cmd⟩
  | data {cmd : DmCmd} : TssNow .data 0 ⟨[], some cmd⟩
  | fwd {state : TssFsmState} (hst : state.ass ≠ .idle) : TssNow state 0 ⟨[], none⟩

/-- The flags that the stitcher has still to read. -/
def tssFlags (s : TssState) : List Bool :=
  s.mrd.soTssSplitMemAcc ++ s.mrd.siMdlBufferRdCmd.map DmCmd.wraps

/-- What the stitcher has still to read and to write: of the current segment, of the payload that
is being stitched, and of the other segments. -/
structure TssAsm (total : List AxisPsd4) (s : TssState) (cur : TssSeg) (segs : List TssSeg)
    (sts : List (List AxisApp)) (rest ahead : List AxisApp) : Prop where
  now : TssNow s.fsmState s.psdHdrChunkCount cur
  shaped : ∀ seg ∈ segs, seg.Shaped
  hdrs : s.siPhcPseudoHdr = cur.hdr ++ segs.flatMap (·.hdr)
  flags : tssFlags s = (segCmds (cur :: segs)).map DmCmd.wraps
  streams : SplitStreams (tssFlags s) sts
  chunks : s.siMEMTxPData ++ s.answers.flatten = rest ++ sts.flatten
  regs : s.regs.Ahead rest ahead
  out : s.soScaPseudoPkt ++ (ahead ++ assembleAll (cur :: segs) sts) = total

/-- What was delivered and what is still to be delivered make up the whole. -/
def TssAsmInv (total : List AxisPsd4) (s : TssState) : Prop :=
  ∃ cur segs sts rest ahead, TssAsm total s cur segs sts rest ahead

/-- The stitcher has nothing to do. -/
def TssIdle (s : TssState) : Prop :=
  match s.fsmState with
  | .psdHdr | .psdOpt => s.siPhcPseudoHdr = []
  | .data => s.siMEMTxPData = [] ∨ s.mrd.soTssSplitMemAcc = []
  | .fwd1stBuf | .fwd2ndBuf | .join2ndBuf => s.siMEMTxPData = []
  | .residue => False

section Stitcher

variable {total : List AxisPsd4} {s : TssState} {k : TssCycle} {cur seg : TssSeg}
  {segs : List TssSeg} {sts : List (List AxisApp)} {rest ahead : List AxisApp}

lemma assembleAll_cons_of_none (h : seg.cmd = none) :
    assembleAll (seg :: segs) sts = seg.hdr ++ assembleAll segs sts := by
  simp only [assembleAll, h]

lemma assembleAll_cons_hdr (c : AxisPsd4) (hs : List AxisPsd4) (cmd : Option DmCmd) :
    assembleAll (⟨c :: hs, cmd⟩ :: segs) sts = c :: assembleAll (⟨hs, cmd⟩ :: segs) sts := by
  cases cmd <;> rfl

/-- A segment before its first chunk. -/
lemma TssNow.of_shaped (h : seg.Shaped) : TssNow .psdHdr 0 seg := by
  cases h with
  | pure hwf hlen => exact .pure hwf (by omega)
  | syn hwf hsyn =>
      rename_i c0 c1 c2 c3 c4
      exact @TssNow.syn 0 [c0, c1, c2] c3 c4 hwf rfl hsyn
  | data hvalid hsyn =>
      rename_i c0 c1 c2 c3 cmd
      exact @TssNow.payload 0 [c0, c1, c2] c3 cmd (fun c hc => (hvalid c hc).2) rfl hsyn

lemma TssSeg.Shaped.hdr_ne_nil (h : seg.Shaped) : seg.hdr ≠ [] := by
  cases h with
  | pure hwf _ => exact hwf.isStream.ne_nil
  | syn _ _ => exact List.cons_ne_nil _ _
  | data _ _ => exact List.cons_ne_nil _ _

/-- The state after a chunk of the header. -/
def hdrNext (n : ℕ) (c : AxisPsd4) : TssFsmState × ℕ :=
  if c.tlast then (.psdHdr, 0)
  else if n = 3 then (if getTcpCtrlSyn c then .psdOpt else .data, 0)
  else (.psdHdr, n + 1)

/-- A chunk of the header is read. -/
lemma TssNow.hdrNext {n : ℕ} {c : AxisPsd4} {hs : List AxisPsd4} {cmd : Option DmCmd}
    (h : TssNow .psdHdr n ⟨c :: hs, cmd⟩) :
    TssNow (hdrNext n c).1 (hdrNext n c).2 ⟨hs, cmd⟩ := by
  generalize hst : TssFsmState.psdHdr = state at h
  generalize hseg : (⟨c :: hs, cmd⟩ : TssSeg) = seg at h
  cases h with
  | start => cases hseg
  | opt => cases hst
  | data => cases hst
  | fwd hidle =>
      subst hst
      exact absurd rfl hidle
  | pure hwf hlen =>
      cases hseg
      rw [List.length_cons] at hlen
      cases hlast : c.tlast with
      | true =>
          obtain rfl := hwf.tail_eq_nil hlast
          rw [Toe.hdrNext, if_pos hlast]
          exact .start
      | false =>
          have hpos := List.length_pos_iff.mpr (hwf.tail hlast).isStream.ne_nil
          rw [Toe.hdrNext, if_neg (by simp [hlast]), if_neg (by omega)]
          exact .pure (hwf.tail hlast) (by omega)
  | syn hwf hlen hsyn =>
      rename_i hs' c3 c4
      cases hs' with
      | nil =>
          cases hseg
          have hlast : c.tlast = false := by
            by_contra hl
            have hnil := hwf.tail_eq_nil (by simpa using hl)
            cases hnil
          rw [Toe.hdrNext, if_neg (by simp [hlast]), if_pos (by simpa using hlen), if_pos hsyn]
          exact .opt
      | cons x xs =>
          cases hseg
          have hlast : c.tlast = false := by
            by_contra hl
            have hnil := hwf.tail_eq_nil (by simpa using hl)
            simp at hnil
          rw [List.length_cons] at hlen
          rw [Toe.hdrNext, if_neg (by simp [hlast]), if_neg (by omega)]
          exact .syn (hwf.tail hlast) (by omega) hsyn
  | payload hvalid hlen hsyn =>
      rename_i hs' c3 cmd
      cases hs' with
      | nil =>
          cases hseg
          have hlast := hvalid c List.mem_cons_self
          rw [Toe.hdrNext, if_neg (by simp [hlast]), if_pos (by simpa using hlen),
            if_neg (by simp [hsyn])]
          exact .data
      | cons x xs =>
          cases hseg
          have hlast := hvalid c List.mem_cons_self
          rw [List.length_cons] at hlen
          rw [Toe.hdrNext, if_neg (by simp [hlast]), if_neg (by omega)]
          exact .payload (fun d hd => hvalid d (List.mem_cons_of_mem c hd)) (by omega) hsyn

/-- Between two segments, or after the header of one, nothing of a header is left. -/
lemma TssNow.of_hdr_nil {n : ℕ} {cmd : Option DmCmd} (h : TssNow .psdHdr n ⟨[], cmd⟩) :
    n = 0 ∧ cmd = none := by
  generalize hst : TssFsmState.psdHdr = state at h
  generalize hseg : (⟨[], cmd⟩ : TssSeg) = seg at h
  cases h with
  | start =>
      cases hseg
      exact ⟨rfl, rfl⟩
  | pure hwf _ =>
      cases hseg
      exact absurd hwf.isStream id
  | syn _ _ _ =>
      rename_i hs _ _ _ _ _
      cases hs <;> cases hseg
  | opt => cases hst
  | payload _ _ _ =>
      rename_i hs _ _ _ _ _
      cases hs <;> cases hseg
  | data => cases hst
  | fwd hidle =>
      subst hst
      exact absurd rfl hidle

/-- The chunk of the header that is read next belongs to the current segment. -/
lemma TssAsm.begin {c : AxisPsd4} {hs : List AxisPsd4} (h : TssAsm total s cur segs sts rest ahead)
    (hst : s.fsmState = .psdHdr) (hhdr : s.siPhcPseudoHdr = c :: hs) :
    ∃ hs' cmd segs', TssAsm total s ⟨c :: hs', cmd⟩ segs' sts rest ahead := by
  obtain ⟨hdr, cmd⟩ := cur
  have hhdrs := h.hdrs
  rw [hhdr] at hhdrs
  cases hdr with
  | cons x xs =>
      rw [List.cons_append, List.cons.injEq] at hhdrs
      obtain ⟨rfl, -⟩ := hhdrs
      exact ⟨xs, cmd, segs, h⟩
  | nil =>
      have hnow := h.now
      rw [hst] at hnow
      obtain ⟨hn, rfl⟩ := hnow.of_hdr_nil
      cases segs with
      | nil => cases hhdrs
      | cons seg segs =>
          have hseg := h.shaped seg List.mem_cons_self
          obtain ⟨hdr, cmd⟩ := seg
          cases hdr with
          | nil => exact absurd rfl hseg.hdr_ne_nil
          | cons x xs =>
              have hx := hhdrs
              simp only [List.nil_append, List.flatMap_cons, List.cons_append,
                List.cons.injEq] at hx
              obtain ⟨rfl, -⟩ := hx
              refine ⟨xs, cmd, segs, ⟨?_, fun d hd => h.shaped d (List.mem_cons_of_mem _ hd),
                h.hdrs, h.flags, h.streams, h.chunks, h.regs, h.out⟩⟩
              rw [hst, hn]
              exact .of_shaped hseg

/-- Where the stitcher reads a header, no payload is ahead. -/
lemma TssAsm.idle (h : TssAsm total s cur segs sts rest ahead) (hst : s.fsmState.ass = .idle) :
    rest = [] ∧ ahead = [] := by
  have hregs := h.regs
  rw [StitchRegs.Ahead, TssState.regs] at hregs
  dsimp only at hregs
  rw [hst] at hregs
  cases hregs
  exact ⟨rfl, rfl⟩

lemma TssNow.of_psdOpt {n : ℕ} (h : TssNow .psdOpt n cur) : n = 0 ∧ ∃ c4, cur = ⟨[c4], none⟩ := by
  cases h with
  | opt => exact ⟨rfl, _, rfl⟩
  | fwd hst => exact absurd rfl hst

lemma TssNow.of_data {n : ℕ} (h : TssNow .data n cur) : n = 0 ∧ ∃ cmd, cur = ⟨[], some cmd⟩ := by
  cases h with
  | data => exact ⟨rfl, _, rfl⟩
  | fwd hst => exact absurd rfl hst

/-- The state that a stitcher of payloads goes to. -/
lemma TssNow.of_ass (state : AssFsmState) : TssNow state.tss 0 ⟨[], none⟩ := by
  cases state with
  | idle => exact .start
  | fwd1stBuf => exact .fwd (by simp [AssFsmState.tss, TssFsmState.ass])
  | fwd2ndBuf => exact .fwd (by simp [AssFsmState.tss, TssFsmState.ass])
  | join2ndBuf => exact .fwd (by simp [AssFsmState.tss, TssFsmState.ass])
  | residue => exact .fwd (by simp [AssFsmState.tss, TssFsmState.ass])

@[simp] lemma ass_tss (state : AssFsmState) : state.tss.ass = state := by
  cases state <;> rfl

lemma regs_read (c : AxisApp) : (s.read c).regs = (s.regs.read c).2 := by
  simp only [TssState.read, TssState.regs, ass_tss]

/-- Where the stitcher joins a payload, the header and the command of its segment are done. -/
lemma TssNow.of_ass_ne_idle {state : TssFsmState} {n : ℕ} (h : TssNow state n cur)
    (hst : state.ass ≠ .idle) : n = 0 ∧ cur = ⟨[], none⟩ := by
  cases h with
  | fwd _ => exact ⟨rfl, rfl⟩
  | start => exact absurd rfl hst
  | pure _ _ => exact absurd rfl hst
  | syn _ _ _ => exact absurd rfl hst
  | opt => exact absurd rfl hst
  | payload _ _ _ => exact absurd rfl hst
  | data => exact absurd rfl hst

/-- What a call of the stitcher does: nothing, if it is blocked or idle; otherwise it reads a chunk
of the header or of the payload, or it writes the residue. -/
inductive TssStep (s : TssState) (k : TssCycle) : TssState → Prop
  | stay (hidle : k.ready = true → TssIdle s) : TssStep s k s
  | hdr {c : AxisPsd4} {hs : List AxisPsd4} (hst : s.fsmState = .psdHdr)
      (hhdr : s.siPhcPseudoHdr = c :: hs) :
      TssStep s k { s with
        siPhcPseudoHdr := hs
        soScaPseudoPkt := s.soScaPseudoPkt ++ [c]
        fsmState := (hdrNext s.psdHdrChunkCount c).1
        psdHdrChunkCount := (hdrNext s.psdHdrChunkCount c).2 }
  | opt {c : AxisPsd4} {hs : List AxisPsd4} (hst : s.fsmState = .psdOpt)
      (hhdr : s.siPhcPseudoHdr = c :: hs) :
      TssStep s k { s with
        siPhcPseudoHdr := hs
        soScaPseudoPkt := s.soScaPseudoPkt ++ [c]
        fsmState := .psdHdr }
  | first {c : AxisApp} {cs : List AxisApp} {f : Bool} {fs : List Bool} (hst : s.fsmState = .data)
      (hdata : s.siMEMTxPData = c :: cs) (hacc : s.mrd.soTssSplitMemAcc = f :: fs) :
      TssStep s k (TssState.read { s with
        siMEMTxPData := cs
        mrd := { s.mrd with soTssSplitMemAcc := fs }
        mustJoin := f } c)
  | next {c : AxisApp} {cs : List AxisApp} (hidle : s.fsmState.ass ≠ .idle)
      (hres : s.fsmState.ass ≠ .residue) (hdata : s.siMEMTxPData = c :: cs) :
      TssStep s k (TssState.read { s with siMEMTxPData := cs } c)
  | residue (hst : s.fsmState = .residue) :
      TssStep s k { s with
        soScaPseudoPkt := s.soScaPseudoPkt ++ [lastChunk s.memRdOffset s.prevChunk]
        fsmState := .psdHdr }

/-- A cycle in which nothing blocks the processes. -/
lemma TssCycle.ready_iff : k.ready = true ↔
    (k.mrd.splitMemAccFull = false ∧ k.mrd.memRdCmdFull = false ∧ k.memAnswers = true) ∧
      k.pseudoHdr = true ∧ k.memData = true ∧ k.splitSegFlag = true ∧ k.pseudoPktFull = false := by
  simp only [TssCycle.ready, Bool.and_eq_true, Bool.not_eq_true', and_assoc]

/-- `TSS_PSD_HDR`. -/
lemma tssPsdHdr_step (hst : s.fsmState = .psdHdr) : TssStep s k (tssPsdHdr s k) := by
  rw [tssPsdHdr]
  split
  · next c hs hhdr =>
      split
      · convert TssStep.hdr hst hhdr using 1
        simp only [tssWrite, hdrNext]
        by_cases hlast : c.tlast
        · by_cases hn : s.psdHdrChunkCount = 3 <;> simp only [hlast, hn, if_true, if_false]
        · by_cases hn : s.psdHdrChunkCount = 3
          · simp [hlast, hn]
          · simp [hlast, hn, hst]
      · next hk =>
          refine .stay fun hr => absurd ?_ hk
          simp [TssCycle.ready_iff.mp hr]
  · next hhdr => exact .stay fun _ => by simp only [TssIdle, hst, hhdr]

/-- `TSS_PSD_OPT`. -/
lemma tssPsdOpt_step (hst : s.fsmState = .psdOpt) : TssStep s k (tssPsdOpt s k) := by
  rw [tssPsdOpt]
  split
  · next c hs hhdr =>
      split
      · exact .opt hst hhdr
      · next hk =>
          refine .stay fun hr => absurd ?_ hk
          simp [TssCycle.ready_iff.mp hr]
  · next hhdr => exact .stay fun _ => by simp only [TssIdle, hst, hhdr]

/-- `TSS_DATA`. -/
lemma tssData_step (hst : s.fsmState = .data) : TssStep s k (tssData s k) := by
  rw [tssData]
  split
  · next c cs f fs hdata hacc =>
      split
      · convert TssStep.first hst hdata hacc using 1
        simp only [tssWrite, TssState.read, TssState.regs, hst, StitchRegs.read, TssFsmState.ass]
        split
        · split
          · rfl
          · split
            · simp [AssFsmState.tss]
            · rfl
        · rfl
      · next hk =>
          refine .stay fun hr => absurd ?_ hk
          simp [TssCycle.ready_iff.mp hr]
  · next hno =>
      refine .stay fun _ => ?_
      rw [TssIdle, hst]
      cases hdata : s.siMEMTxPData with
      | nil => exact .inl rfl
      | cons c cs =>
          cases hacc : s.mrd.soTssSplitMemAcc with
          | nil => exact .inr rfl
          | cons f fs => exact absurd hacc (hno c cs f fs hdata)

/-- `TSS_FWD_1ST_BUF`. -/
lemma tssFwd1stBuf_step (hst : s.fsmState = .fwd1stBuf) : TssStep s k (tssFwd1stBuf s k) := by
  rw [tssFwd1stBuf]
  split
  · next c cs hdata =>
      split
      · convert @TssStep.next s k c cs (by simp [hst, TssFsmState.ass])
          (by simp [hst, TssFsmState.ass]) hdata using 1
        simp only [tssWrite, TssState.read, TssState.regs, hst, StitchRegs.read, TssFsmState.ass]
        split
        · split
          · rfl
          · split
            · simp [AssFsmState.tss]
            · rfl
        · rfl
      · next hk =>
          refine .stay fun hr => absurd ?_ hk
          simp [TssCycle.ready_iff.mp hr]
  · next hdata => exact .stay fun _ => by simp only [TssIdle, hst, hdata]

/-- `TSS_FWD_2ND_BUF`. -/
lemma tssFwd2ndBuf_step (hst : s.fsmState = .fwd2ndBuf) : TssStep s k (tssFwd2ndBuf s k) := by
  rw [tssFwd2ndBuf]
  split
  · next c cs hdata =>
      split
      · convert @TssStep.next s k c cs (by simp [hst, TssFsmState.ass])
          (by simp [hst, TssFsmState.ass]) hdata using 1
        simp only [tssWrite, TssState.read, TssState.regs, hst, StitchRegs.read, TssFsmState.ass]
        split
        · rfl
        · rfl
      · next hk =>
          refine .stay fun hr => absurd ?_ hk
          simp [TssCycle.ready_iff.mp hr]
  · next hdata => exact .stay fun _ => by simp only [TssIdle, hst, hdata]

/-- `TSS_JOIN_2ND_BUF`. -/
lemma tssJoin2ndBuf_step (hst : s.fsmState = .join2ndBuf) : TssStep s k (tssJoin2ndBuf s k) := by
  rw [tssJoin2ndBuf]
  split
  · next c cs hdata =>
      split
      · convert @TssStep.next s k c cs (by simp [hst, TssFsmState.ass])
          (by simp [hst, TssFsmState.ass]) hdata using 1
        simp only [tssWrite, TssState.read, TssState.regs, hst, StitchRegs.read, TssFsmState.ass]
        split
        · rfl
        · split
          · rfl
          · rfl
      · next hk =>
          refine .stay fun hr => absurd ?_ hk
          simp [TssCycle.ready_iff.mp hr]
  · next hdata => exact .stay fun _ => by simp only [TssIdle, hst, hdata]

/-- `TSS_RESIDUE`. -/
lemma tssResidue_step (hst : s.fsmState = .residue) : TssStep s k (tssResidue s k) := by
  rw [tssResidue]
  split
  · exact .residue hst
  · next hk =>
      refine .stay fun hr => absurd ?_ hk
      simp [TssCycle.ready_iff.mp hr]

/-- One call of `pTcpSegStitcher`. -/
lemma pTcpSegStitcher_step : TssStep s k (pTcpSegStitcher s k) := by
  rw [pTcpSegStitcher]
  split
  · next hst => exact tssPsdHdr_step hst
  · next hst => exact tssPsdOpt_step hst
  · next hst => exact tssData_step hst
  · next hst => exact tssFwd1stBuf_step hst
  · next hst => exact tssFwd2ndBuf_step hst
  · next hst => exact tssJoin2ndBuf_step hst
  · next hst => exact tssResidue_step hst

/-- A chunk of the header is read. -/
lemma hdr_inv {c : AxisPsd4} {hs : List AxisPsd4} (h : TssAsmInv total s)
    (hst : s.fsmState = .psdHdr) (hhdr : s.siPhcPseudoHdr = c :: hs) :
    TssAsmInv total { s with
      siPhcPseudoHdr := hs
      soScaPseudoPkt := s.soScaPseudoPkt ++ [c]
      fsmState := (hdrNext s.psdHdrChunkCount c).1
      psdHdrChunkCount := (hdrNext s.psdHdrChunkCount c).2 } := by
  obtain ⟨cur, segs, sts, rest, ahead, hasm⟩ := h
  obtain ⟨hs', cmd, segs, hasm⟩ := hasm.begin hst hhdr
  obtain ⟨rfl, rfl⟩ := hasm.idle (by rw [hst]; rfl)
  have hnow := hasm.now
  rw [hst] at hnow
  have hrest := hasm.hdrs
  rw [hhdr, List.cons_append, List.cons.injEq] at hrest
  have hout := hasm.out
  rw [List.nil_append, assembleAll_cons_hdr] at hout
  refine ⟨⟨hs', cmd⟩, segs, sts, [], [], hnow.hdrNext, hasm.shaped, hrest.2, hasm.flags,
    hasm.streams, hasm.chunks, ?_, ?_⟩
  · have hidle : (hdrNext s.psdHdrChunkCount c).1.ass = .idle := by
      rw [hdrNext]
      repeat' split
      all_goals rfl
    rw [StitchRegs.Ahead, TssState.regs]
    dsimp only
    rw [hidle]
    exact .idle
  · rw [List.append_assoc]
    exact hout

/-- The option of a `SYN` is read. -/
lemma opt_inv {c : AxisPsd4} {hs : List AxisPsd4} (h : TssAsmInv total s)
    (hst : s.fsmState = .psdOpt) (hhdr : s.siPhcPseudoHdr = c :: hs) :
    TssAsmInv total { s with
      siPhcPseudoHdr := hs
      soScaPseudoPkt := s.soScaPseudoPkt ++ [c]
      fsmState := .psdHdr } := by
  obtain ⟨cur, segs, sts, rest, ahead, hasm⟩ := h
  obtain ⟨rfl, rfl⟩ := hasm.idle (by rw [hst]; rfl)
  have hnow := hasm.now
  rw [hst] at hnow
  have hrest := hasm.hdrs
  have hout := hasm.out
  obtain ⟨hn, c4, rfl⟩ := hnow.of_psdOpt
  rw [hhdr, List.cons_append, List.cons.injEq] at hrest
  obtain ⟨rfl, hrest⟩ := hrest
  rw [List.nil_append, assembleAll_cons_hdr] at hout
  refine ⟨⟨[], none⟩, segs, sts, [], [], ?_, hasm.shaped, hrest, hasm.flags, hasm.streams,
    hasm.chunks, .idle, ?_⟩
  · simp only [hn]
    exact .start
  · rw [List.append_assoc]
    exact hout

/-- The first chunk of a payload is read. -/
lemma first_inv {c : AxisApp} {cs : List AxisApp} {f : Bool} {fs : List Bool}
    (h : TssAsmInv total s) (hst : s.fsmState = .data) (hdata : s.siMEMTxPData = c :: cs)
    (hacc : s.mrd.soTssSplitMemAcc = f :: fs) :
    TssAsmInv total (TssState.read { s with
      siMEMTxPData := cs
      mrd := { s.mrd with soTssSplitMemAcc := fs }
      mustJoin := f } c) := by
  obtain ⟨cur, segs, sts, rest, ahead, hasm⟩ := h
  obtain ⟨rfl, rfl⟩ := hasm.idle (by rw [hst]; rfl)
  have hnow := hasm.now
  rw [hst] at hnow
  have hflags := hasm.flags
  have hS := hasm.streams
  have hD := hasm.chunks
  have hO := hasm.out
  obtain ⟨hn, cmd, rfl⟩ := hnow.of_data
  rw [tssFlags, hacc, List.cons_append] at hS hflags
  have hcmds : segCmds (⟨[], some cmd⟩ :: segs) = cmd :: segCmds segs := rfl
  rw [hcmds, List.map_cons, List.cons.injEq] at hflags
  obtain ⟨rfl, hflags⟩ := hflags
  rw [hdata, List.nil_append, List.cons_append] at hD
  obtain ⟨rest', ahead', hS', hD', hA', hseg⟩ :=
    @read_idle c _ sts _ ⟨.idle, s.memRdOffset, s.prevChunk, cmd.wraps⟩ rfl hS hD
  have happ : assembleAll (⟨[], some cmd⟩ :: segs) sts
      = (takeSegment cmd.wraps sts).1 ++ assembleAll segs (takeSegment cmd.wraps sts).2 := rfl
  rw [happ, hseg, List.nil_append, List.append_assoc, ← List.append_assoc] at hO
  refine ⟨⟨[], none⟩, segs, _, rest', ahead', ?_, hasm.shaped, hasm.hdrs, hflags, hS', hD', ?_, ?_⟩
  · simp only [TssState.read, hn]
    exact .of_ass _
  · rw [regs_read, TssState.regs]
    simp only [hst]
    exact hA'
  · rw [assembleAll_cons_of_none rfl]
    simpa [TssState.read, TssState.regs, hst, TssFsmState.ass] using hO

/-- A chunk behind the first one of its payload is read. -/
lemma next_inv {c : AxisApp} {cs : List AxisApp} (h : TssAsmInv total s)
    (hidle : s.fsmState.ass ≠ .idle) (hres : s.fsmState.ass ≠ .residue)
    (hdata : s.siMEMTxPData = c :: cs) :
    TssAsmInv total (TssState.read { s with siMEMTxPData := cs } c) := by
  obtain ⟨cur, segs, sts, rest, ahead, hasm⟩ := h
  obtain ⟨hn, rfl⟩ := hasm.now.of_ass_ne_idle hidle
  have hD := hasm.chunks
  have hO := hasm.out
  cases rest with
  | nil => exact absurd rfl (hasm.regs.ne_nil hidle hres)
  | cons x xs =>
      rw [hdata, List.cons_append, List.cons_append, List.cons.injEq] at hD
      obtain ⟨rfl, hD⟩ := hD
      obtain ⟨ahead', hA', rfl⟩ := @read_ahead c xs ahead s.regs hasm.regs
      refine ⟨⟨[], none⟩, segs, sts, xs, ahead', ?_, hasm.shaped, hasm.hdrs, hasm.flags,
        hasm.streams, hD, ?_, ?_⟩
      · simp only [TssState.read, hn]
        exact .of_ass _
      · rw [regs_read]
        exact hA'
      · rw [List.append_assoc, ← List.append_assoc] at hO
        exact hO

/-- The residue is written. -/
lemma residue_inv (h : TssAsmInv total s) (hst : s.fsmState = .residue) :
    TssAsmInv total { s with
      soScaPseudoPkt := s.soScaPseudoPkt ++ [lastChunk s.memRdOffset s.prevChunk]
      fsmState := .psdHdr } := by
  obtain ⟨cur, segs, sts, rest, ahead, hasm⟩ := h
  have hne : s.fsmState.ass ≠ .idle := by simp [hst, TssFsmState.ass]
  obtain ⟨hn, rfl⟩ := hasm.now.of_ass_ne_idle hne
  have hO := hasm.out
  have hD := hasm.chunks
  have hregs := hasm.regs
  rw [StitchRegs.Ahead, TssState.regs, hst] at hregs
  dsimp only [TssFsmState.ass] at hregs
  cases hregs with
  | residue =>
      refine ⟨⟨[], none⟩, segs, sts, [], [], ?_, hasm.shaped, hasm.hdrs, hasm.flags,
        hasm.streams, hD, .idle, ?_⟩
      · simp only [hn]
        exact .start
      · rw [List.append_assoc]
        exact hO

/-- One call of `pTcpSegStitcher`. -/
lemma TssStep.inv {s' : TssState} (hstep : TssStep s k s') (h : TssAsmInv total s) :
    TssAsmInv total s' := by
  cases hstep with
  | stay _ => exact h
  | hdr hst hhdr => exact hdr_inv h hst hhdr
  | opt hst hhdr => exact opt_inv h hst hhdr
  | first hst hdata hacc => exact first_inv h hst hdata hacc
  | next hidle hres hdata => exact next_inv h hidle hres hdata
  | residue hst => exact residue_inv h hst

end Stitcher

/-! ### Runs -/

/-- How much the processes have still to do: besides the commands, each chunk of a header is
forwarded, and a residue is written. -/
def tssWork (s : TssState) : ℕ :=
  s.siPhcPseudoHdr.length + mrdWork s.mrd + 2 * s.siMEMTxPData.length
    + if s.fsmState = .residue then 1 else 0

/-- The commands that the memory has still to answer. -/
def tssPending (s : TssState) : List DmCmd := s.mrd.soMEMTxpRdCmd ++ s.mrd.ahead

/-- What was delivered and what is still to be delivered make up the whole, and the streams of
the memory answer the commands. -/
structure TssInv (mem : BitVec 40 → Byte) (total : List AxisPsd4) (s : TssState) : Prop where
  asm : TssAsmInv total s
  answers : List.Forall₂ (Answers mem) (tssPending s) s.answers
  btt : ∀ c ∈ s.mrd.siMdlBufferRdCmd, c.btt.toNat < toeBufferSize

section Progress

variable {mem : BitVec 40 → Byte} {total : List AxisPsd4} {s : TssState} {k : TssCycle}

lemma tssReader_inv (h : TssInv mem total s) :
    TssInv mem total { s with mrd := pTxMemoryReader s.mrd k.mrd } := by
  obtain ⟨⟨cur, segs, sts, rest, ahead, hasm⟩, hans, hbtt⟩ := h
  have hflags : tssFlags { s with mrd := pTxMemoryReader s.mrd k.mrd } = tssFlags s :=
    pTxMemoryReader_flags s.mrd k.mrd
  refine ⟨⟨cur, segs, sts, rest, ahead, hasm.now, hasm.shaped, hasm.hdrs, ?_, ?_, hasm.chunks,
    hasm.regs, hasm.out⟩, ?_, fun c hc => hbtt c (pTxMemoryReader_cmds s.mrd k.mrd c hc)⟩
  · rw [hflags]
    exact hasm.flags
  · rw [hflags]
    exact hasm.streams
  · rw [tssPending, pTxMemoryReader_issues s.mrd k.mrd]
    exact hans

lemma tssReader_moves (h : TssInv mem total s) :
    Clocked.Moves tssWork k.ready s (s.mrd.siMdlBufferRdCmd = [] ∧ s.mrd.fsmState = .access1st)
      { s with mrd := pTxMemoryReader s.mrd k.mrd } := by
  have hmoves := pTxMemoryReader_moves s.mrd k.mrd h.btt
  generalize pTxMemoryReader s.mrd k.mrd = mrd' at hmoves
  cases hmoves with
  | stay hidle =>
      refine .stay fun hr => hidle ?_
      simp only [TssCycle.ready, Bool.and_eq_true] at hr
      simp [hr.1.1.1.1.1.1, hr.1.1.1.1.1.2]
  | work hw =>
      refine .work ?_
      simp only [tssWork]
      omega

lemma tssMemAnswer_inv (h : TssInv mem total s) : TssInv mem total (tssMemAnswer s k) := by
  obtain ⟨⟨cur, segs, sts, rest, ahead, hasm⟩, hans, hbtt⟩ := h
  rw [tssMemAnswer]
  split
  · next c cmds st streams hcmd hst =>
      split
      · rw [tssPending, hcmd, hst, List.cons_append, List.forall₂_cons] at hans
        have hD := hasm.chunks
        rw [hst] at hD
        exact ⟨⟨cur, segs, sts, rest, ahead, hasm.now, hasm.shaped, hasm.hdrs, hasm.flags,
          hasm.streams, by simpa using hD, hasm.regs, hasm.out⟩, hans.2, hbtt⟩
      · exact ⟨⟨cur, segs, sts, rest, ahead, hasm⟩, hans, hbtt⟩
  · exact ⟨⟨cur, segs, sts, rest, ahead, hasm⟩, hans, hbtt⟩

lemma tssMemAnswer_moves (h : TssInv mem total s) :
    Clocked.Moves tssWork k.ready s (s.mrd.soMEMTxpRdCmd = []) (tssMemAnswer s k) := by
  have hans := h.answers
  rw [tssMemAnswer]
  split
  · next c cmds st streams hcmd hst =>
      rw [tssPending, hcmd, hst, List.cons_append, List.forall₂_cons] at hans
      split
      · have hle := length_le_of_wellFormed hans.1.wf
        rw [hans.1.length] at hle
        refine .work ?_
        simp only [tssWork, mrdWork, hcmd, List.map_cons, List.sum_cons, List.length_append]
        omega
      · next hk =>
          refine .stay fun hr => absurd ?_ hk
          simp only [TssCycle.ready, Bool.and_eq_true] at hr
          exact hr.1.1.1.1.2
  · next hno =>
      refine .stay fun _ => ?_
      cases hcmd : s.mrd.soMEMTxpRdCmd with
      | nil => rfl
      | cons c cmds =>
          rw [tssPending, hcmd, List.cons_append] at hans
          obtain ⟨st, sts, -, -, hst⟩ := List.forall₂_cons_left_iff.mp hans
          exact absurd hst (hno c cmds st sts hcmd)

/-- A call of the stitcher concerns what has arrived at it, and what it writes. -/
lemma TssStep.frame {s' : TssState} (hstep : TssStep s k s') :
    s'.mrd.siMdlBufferRdCmd = s.mrd.siMdlBufferRdCmd ∧ tssPending s' = tssPending s ∧
      s'.answers = s.answers ∧ mrdWork s'.mrd = mrdWork s.mrd := by
  cases hstep <;> exact ⟨rfl, rfl, rfl, rfl⟩

/-- A chunk that is read is worth more than the residue it leaves. -/
lemma tssWork_of_read {s' : TssState} {c : AxisApp} (hdata : s.siMEMTxPData = c :: s'.siMEMTxPData)
    (hhdr : s'.siPhcPseudoHdr = s.siPhcPseudoHdr) (hmrd : mrdWork s'.mrd = mrdWork s.mrd) :
    tssWork s' + 1 ≤ tssWork s := by
  have hres : (if s'.fsmState = .residue then 1 else 0) ≤ 1 := by
    split <;> omega
  rw [tssWork, tssWork, hdata, List.length_cons, hhdr, hmrd]
  omega

lemma TssStep.moves {s' : TssState} (hstep : TssStep s k s') :
    Clocked.Moves tssWork k.ready s (TssIdle s) s' := by
  cases hstep with
  | stay hidle => exact .stay hidle
  | hdr hst hhdr =>
      rename_i c hs
      refine .work ?_
      have hne : (hdrNext s.psdHdrChunkCount c).1 ≠ .residue := by
        rw [hdrNext]
        repeat' split
        all_goals simp
      simp only [tssWork, hhdr, List.length_cons, if_neg hne]
      omega
  | opt hst hhdr =>
      refine .work ?_
      simp only [tssWork, hhdr, List.length_cons, reduceCtorEq, if_false]
      omega
  | first hst hdata hacc =>
      exact .work (tssWork_of_read hdata rfl rfl)
  | next hidle hres hdata =>
      exact .work (tssWork_of_read hdata rfl rfl)
  | residue hst =>
      refine .work ?_
      simp only [tssWork, hst, reduceCtorEq, if_false, if_true]
      omega

/-- When no process has anything to do, no work is left. -/
lemma tssWork_of_idle (h : TssInv mem total s) (hcmd : s.mrd.siMdlBufferRdCmd = [])
    (hst : s.mrd.fsmState = .access1st) (hso : s.mrd.soMEMTxpRdCmd = []) (hidle : TssIdle s) :
    tssWork s = 0 ∧ s.fsmState = .psdHdr ∧ s.psdHdrChunkCount = 0 ∧ s.soScaPseudoPkt = total := by
  obtain ⟨⟨cur, segs, sts, rest, ahead, hasm⟩, hans, -⟩ := h
  have hans' : s.answers = [] := by
    rw [tssPending, hso, MrdState.ahead, hst, hcmd] at hans
    exact List.forall₂_nil_left_iff.mp hans
  have hD := hasm.chunks
  rw [hans', List.flatten_nil, List.append_nil] at hD
  -- the memory has no stream left, so the stitcher has read all flags or has a chunk to read
  have hflags : tssFlags s = s.mrd.soTssSplitMemAcc := by
    rw [tssFlags, hcmd, List.map_nil, List.append_nil]
  have hmrd : mrdWork s.mrd = 0 := by
    simp [mrdWork, hcmd, hst, hso]
  have hstart : s.fsmState = .psdHdr := by
    have hnow := hasm.now
    rw [TssIdle] at hidle
    cases hfsm : s.fsmState with
    | psdHdr => rfl
    | psdOpt =>
        rw [hfsm] at hidle hnow
        obtain ⟨-, c4, rfl⟩ := hnow.of_psdOpt
        have hhdrs := hasm.hdrs
        rw [show s.siPhcPseudoHdr = [] from hidle] at hhdrs
        cases hhdrs
    | data =>
        rw [hfsm] at hidle hnow
        obtain ⟨-, cmd, rfl⟩ := hnow.of_data
        obtain ⟨rfl, -⟩ := hasm.idle (by rw [hfsm]; rfl)
        have hsome := hasm.flags
        have hS := hasm.streams
        rw [hflags] at hsome hS
        obtain hnil | hnil := hidle
        · rw [hnil, List.nil_append] at hD
          have hsts := hS.of_flatten_eq_nil hD.symm
          rw [hsts] at hS
          generalize s.mrd.soTssSplitMemAcc = fs at hsome hS
          cases hS
          cases hsome
        · rw [hnil] at hsome
          cases hsome
    | fwd1stBuf =>
        rw [hfsm] at hidle
        have hne := hasm.regs.ne_nil (by simp [TssState.regs, hfsm, TssFsmState.ass])
          (by simp [TssState.regs, hfsm, TssFsmState.ass])
        rw [show s.siMEMTxPData = [] from hidle] at hD
        exact absurd (List.append_eq_nil_iff.mp hD.symm).1 hne
    | fwd2ndBuf =>
        rw [hfsm] at hidle
        have hne := hasm.regs.ne_nil (by simp [TssState.regs, hfsm, TssFsmState.ass])
          (by simp [TssState.regs, hfsm, TssFsmState.ass])
        rw [show s.siMEMTxPData = [] from hidle] at hD
        exact absurd (List.append_eq_nil_iff.mp hD.symm).1 hne
    | join2ndBuf =>
        rw [hfsm] at hidle
        have hne := hasm.regs.ne_nil (by simp [TssState.regs, hfsm, TssFsmState.ass])
          (by simp [TssState.regs, hfsm, TssFsmState.ass])
        rw [show s.siMEMTxPData = [] from hidle] at hD
        exact absurd (List.append_eq_nil_iff.mp hD.symm).1 hne
    | residue =>
        rw [hfsm] at hidle
        exact hidle.elim
  have hhdr : s.siPhcPseudoHdr = [] := by
    rw [TssIdle, hstart] at hidle
    exact hidle
  -- no header is left, so no segment is left
  have hhdrs := hasm.hdrs
  rw [hhdr, eq_comm, List.append_eq_nil_iff] at hhdrs
  obtain ⟨hcur, hsegs⟩ := hhdrs
  have hsegs' : segs = [] := by
    cases segs with
    | nil => rfl
    | cons seg segs =>
        rw [List.flatMap_cons, List.append_eq_nil_iff] at hsegs
        exact absurd hsegs.1 (hasm.shaped seg List.mem_cons_self).hdr_ne_nil
  subst hsegs'
  obtain ⟨hdr, cmd⟩ := cur
  obtain rfl : hdr = [] := hcur
  have hnow := hasm.now
  rw [hstart] at hnow
  obtain ⟨hcount, rfl⟩ := hnow.of_hdr_nil
  obtain ⟨rfl, rfl⟩ := hasm.idle (by rw [hstart]; rfl)
  have hnone := hasm.flags
  have hS := hasm.streams
  rw [hnone] at hS
  cases hS
  have hdata : s.siMEMTxPData = [] := hD
  have hout := hasm.out
  rw [List.nil_append] at hout
  refine ⟨?_, hstart, hcount, ?_⟩
  · simp [tssWork, hhdr, hmrd, hdata, hstart]
  · rw [← hout]
    exact (List.append_nil _).symm

/-- A cycle. -/
theorem tssNext_progress (h : TssInv mem total s) :
    Clocked.Progress (TssInv mem total) tssWork TssCycle.ready s k (tssNext s k) := by
  have hmrd := @tssReader_inv mem total s k h
  have hmem := @tssMemAnswer_inv mem total { s with mrd := pTxMemoryReader s.mrd k.mrd } k hmrd
  have hstep := @pTcpSegStitcher_step
    (tssMemAnswer { s with mrd := pTxMemoryReader s.mrd k.mrd } k) k
  obtain ⟨hcmd, hpending, hans, -⟩ := hstep.frame
  have hnext : TssInv mem total (tssNext s k) := by
    refine ⟨hstep.inv hmem.asm, ?_, ?_⟩
    · rw [tssNext, hpending, hans]
      exact hmem.answers
    · rw [tssNext, hcmd]
      exact hmem.btt
  refine .of_moves hnext
    (((tssReader_moves h).trans (tssMemAnswer_moves hmrd)).trans hstep.moves) ?_
  rintro ⟨⟨⟨hcmd, hst⟩, hs', hso⟩, hs'', hidle⟩
  rw [hs''] at hidle
  rw [hs'] at hso
  exact (tssWork_of_idle h hcmd hst hso hidle).1

/-- When the work is done, the whole is delivered, and the stitcher waits for the next header. -/
lemma soScaPseudoPkt_of_tssWork (h : TssInv mem total s) (hw : tssWork s = 0) :
    s.fsmState = .psdHdr ∧ s.psdHdrChunkCount = 0 ∧ s.soScaPseudoPkt = total := by
  simp only [tssWork, mrdWork, Nat.add_eq_zero_iff, ite_eq_right_iff] at hw
  obtain ⟨⟨⟨hhdr, ⟨hcmd, hst⟩, hso⟩, hdata⟩, hres⟩ := hw
  have hcmd' : s.mrd.siMdlBufferRdCmd = [] := by
    cases hcs : s.mrd.siMdlBufferRdCmd with
    | nil => rfl
    | cons c cs =>
        rw [hcs, List.map_cons, List.sum_cons] at hcmd
        omega
  have hso' : s.mrd.soMEMTxpRdCmd = [] := by
    cases hcs : s.mrd.soMEMTxpRdCmd with
    | nil => rfl
    | cons c cs =>
        rw [hcs, List.map_cons, List.sum_cons] at hso
        omega
  have hst' : s.mrd.fsmState = .access1st := by
    cases hfsm : s.mrd.fsmState with
    | access1st => rfl
    | access2nd =>
        have hzero := hst hfsm
        omega
  have hhdr' : s.siPhcPseudoHdr = [] := List.eq_nil_of_length_eq_zero hhdr
  have hdata' : s.siMEMTxPData = [] := List.eq_nil_of_length_eq_zero (by omega)
  have hidle : TssIdle s := by
    rw [TssIdle]
    cases hfsm : s.fsmState with
    | psdHdr => exact hhdr'
    | psdOpt => exact hhdr'
    | data => exact .inl hdata'
    | fwd1stBuf => exact hdata'
    | fwd2ndBuf => exact hdata'
    | join2ndBuf => exact hdata'
    | residue =>
        have hone := hres hfsm
        omega
  exact (tssWork_of_idle h hcmd' hst' hso' hidle).2

end Progress

/-- The processes before the first segment. The registers for a command and for a chunk hold
anything. -/
def tssStart (memRdCmd : DmCmd) (prevChunk : AxisApp) (segs : List TssSeg)
    (answers : List (List AxisApp)) : TssState where
  mrd := { memRdCmd := memRdCmd, siMdlBufferRdCmd := segCmds segs }
  answers := answers
  prevChunk := prevChunk
  siPhcPseudoHdr := segs.flatMap (·.hdr)

/-- How many cycles in which nothing blocks the processes are enough for the segments. -/
def tssCycles (segs : List TssSeg) : ℕ :=
  (segs.flatMap (·.hdr)).length + ((segCmds segs).map fun c => 2 * c.btt.toNat + 4).sum

section Run

variable {mem : BitVec 40 → Byte} {memRdCmd : DmCmd} {prevChunk : AxisApp} {segs : List TssSeg}
  {answers : List (List AxisApp)} {ks : List TssCycle}

lemma tssInv_start (hseg : ∀ seg ∈ segs, seg.Shaped)
    (hlt : ∀ c ∈ segCmds segs, c.btt.toNat < toeBufferSize)
    (hans : List.Forall₂ (Answers mem) ((segCmds segs).flatMap dmReads) answers) :
    TssInv mem (assembleAll segs answers) (tssStart memRdCmd prevChunk segs answers) := by
  have hpending : tssPending (tssStart memRdCmd prevChunk segs answers)
      = (segCmds segs).flatMap dmReads := rfl
  refine ⟨⟨⟨[], none⟩, segs, answers, [], [], .start, hseg, rfl, rfl, ?_, rfl, .idle, rfl⟩, ?_, hlt⟩
  · exact splitStreams_of_answers hans
  · rw [hpending]
    exact hans

/-- At any time, what was delivered is a part of the assembled segments, from their start on. -/
theorem tss_prefix (hseg : ∀ seg ∈ segs, seg.Shaped)
    (hlt : ∀ c ∈ segCmds segs, c.btt.toNat < toeBufferSize)
    (hans : List.Forall₂ (Answers mem) ((segCmds segs).flatMap dmReads) answers) :
    (Clocked.run tssNext (tssStart memRdCmd prevChunk segs answers) ks).soScaPseudoPkt
      <+: assembleAll segs answers := by
  have hstart := @tssInv_start mem memRdCmd prevChunk segs answers hseg hlt hans
  have hstep (s : TssState) (k : TssCycle) (hs : TssInv mem (assembleAll segs answers) s)
      (_ : True) : TssInv mem (assembleAll segs answers) (tssNext s k) :=
    (tssNext_progress hs).inv
  have hinv := Clocked.run_inv hstep hstart (Clocked.along_trivial tssNext _ ks)
  obtain ⟨cur, rest, sts, chunks, ahead, hasm⟩ := hinv.asm
  exact ⟨_, hasm.out⟩

/-- After enough cycles that do not block the processes, the segments are delivered. -/
theorem tss_run (hseg : ∀ seg ∈ segs, seg.Shaped)
    (hlt : ∀ c ∈ segCmds segs, c.btt.toNat < toeBufferSize)
    (hans : List.Forall₂ (Answers mem) ((segCmds segs).flatMap dmReads) answers)
    (hready : tssCycles segs ≤ ks.countP TssCycle.ready) :
    let s := Clocked.run tssNext (tssStart memRdCmd prevChunk segs answers) ks
    s.fsmState = .psdHdr ∧ s.psdHdrChunkCount = 0 ∧
      s.soScaPseudoPkt = assembleAll segs answers := by
  have hstart := @tssInv_start mem memRdCmd prevChunk segs answers hseg hlt hans
  obtain ⟨hinv, hwork⟩ := Clocked.run_work (fun _ _ hs _ => tssNext_progress hs) hstart
    (Clocked.along_trivial tssNext _ ks)
  have hinit : tssWork (tssStart memRdCmd prevChunk segs answers) = tssCycles segs := by
    simp [tssWork, mrdWork, tssStart, tssCycles]
  exact soScaPseudoPkt_of_tssWork hinv (by omega)

/-- **Segment assembly**: for every sequence of pseudo headers and of read commands for the
payloads, every memory that answers the commands of `pTxMemoryReader`, and every schedule with
enough cycles that do not block the processes, the stitcher is back at the headers, and it has
given one well-formed stream for each segment, with its header and its payload, if and only if no
payload is cut exactly eight bytes behind its start. -/
theorem pTcpSegStitcher_assembles_iff (hseg : ∀ seg ∈ segs, seg.Shaped)
    (hlt : ∀ c ∈ segCmds segs, c.btt.toNat < toeBufferSize)
    (hans : List.Forall₂ (Answers mem) ((segCmds segs).flatMap dmReads) answers)
    (hready : tssCycles segs ≤ ks.countP TssCycle.ready) :
    let s := Clocked.run tssNext (tssStart memRdCmd prevChunk segs answers) ks
    (AssemblesAll mem segs s.soScaPseudoPkt ∧ s.fsmState = .psdHdr ∧ s.psdHdrChunkCount = 0) ↔
      ∀ c ∈ segCmds segs, ¬SplitAfterEight c := by
  intro s
  obtain ⟨hst, hcount, hout⟩ := @tss_run mem memRdCmd prevChunk segs answers ks hseg hlt hans hready
  rw [← assemblesAll_iff hseg hlt hans]
  constructor
  · intro h
    have hall := h.1
    rw [hout] at hall
    exact hall
  · intro h
    refine ⟨?_, hst, hcount⟩
    rw [hout]
    exact h

end Run

/-- A full chunk of zeros in a header. The `SYN` bit is off. -/
def zeroHdrChunk : AxisPsd4 := ⟨List.replicate 8 ⟨0, true⟩, false, by decide⟩

/-- A header that is followed by a payload. -/
def zeroHdr : List AxisPsd4 := List.replicate 4 zeroHdrChunk

lemma shaped_zeroHdr (c : DmCmd) : TssSeg.Shaped ⟨zeroHdr, some c⟩ :=
  .data (by decide) (by decide)

theorem pTcpSegStitcher_assembles_crossing :
    let s := Clocked.run tssNext
      (tssStart readCrossing zero [⟨zeroHdr, some readCrossing⟩] readCrossingAnswers)
      (List.replicate 20 .free)
    AssemblesAll lowBytes [⟨zeroHdr, some readCrossing⟩] s.soScaPseudoPkt ∧
      s.fsmState = .psdHdr ∧ s.psdHdrChunkCount = 0 :=
  (pTcpSegStitcher_assembles_iff
    (fun _ h => (List.mem_singleton.mp h) ▸ shaped_zeroHdr readCrossing) (by decide)
    readCrossing_answers (by decide)).mpr (by decide)

/-- The memory answers both commands, but the segment comes as two streams: the second part of its
payload stands behind a `tlast`. -/
theorem pTcpSegStitcher_splits_eight :
    List.Forall₂ (Answers lowBytes) ((segCmds [⟨zeroHdr, some readEight⟩]).flatMap dmReads)
        readEightAnswers ∧
      TssSeg.Shaped ⟨zeroHdr, some readEight⟩ ∧
      ¬AssemblesAll lowBytes [⟨zeroHdr, some readEight⟩]
        (Clocked.run tssNext
          (tssStart readEight zero [⟨zeroHdr, some readEight⟩] readEightAnswers)
          (List.replicate 28 .free)).soScaPseudoPkt := by
  have hans : List.Forall₂ (Answers lowBytes)
      ((segCmds [⟨zeroHdr, some readEight⟩]).flatMap dmReads) readEightAnswers :=
    .cons ⟨⟨by decide, by decide⟩, by decide⟩ (.cons ⟨⟨by decide, by decide⟩, by decide⟩ .nil)
  have hseg : ∀ seg ∈ [(⟨zeroHdr, some readEight⟩ : TssSeg)], seg.Shaped :=
    fun _ h => (List.mem_singleton.mp h) ▸ shaped_zeroHdr readEight
  refine ⟨hans, shaped_zeroHdr readEight, fun h => ?_⟩
  obtain ⟨-, -, hout⟩ := @tss_run lowBytes readEight zero [⟨zeroHdr, some readEight⟩]
    readEightAnswers (List.replicate 28 .free) hseg (by decide) hans (by decide)
  rw [hout] at h
  exact (assemblesAll_iff hseg (by decide) hans).mp h readEight (by decide) (by decide)

end CloudFpga.Toe
