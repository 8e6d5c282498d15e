import CloudFpga.Foundation.Clocked
import CloudFpga.Toe.RxAppInterface.StitchAhead
import CloudFpga.Toe.Types

/-!
The read path of the Rx application interface, `rx_app_interface.cpp`: `pRxMemoryReader`, the
memory that answers its commands, and `pAppSegmentStitcher`.

The streams with which the memory answers the commands are fixed beforehand; a cycle says what of
them has arrived, and which streams are full.

* `raiNext`: a cycle, in which each process is called once.
* `RaiInv`: what was delivered and what is still to be delivered make up the stitched segments.
* `rai_run`: after enough cycles that do not block the processes, the segments are delivered.
* `pAppSegmentStitcher_readsBack_iff`: they are the bytes of the circular buffer, one stream for
  each command, exactly when no segment is cut after eight bytes.
-/

namespace CloudFpga.Toe

open Foundation AxisRaw

inductive MrdFsmState where
  | access1st | access2nd
  deriving DecidableEq, Repr

/-- The registers of the two processes and the streams between them. `answers` are the streams
with which the memory will answer the commands, in order. -/
structure RaiState where
  mrdFsmState : MrdFsmState := .access1st
  memRdCmd : DmCmd
  firstAccLen : RxBufPtr := 0
  siRasMemRdCmd : List DmCmd
  soMemRxpRdCmd : List DmCmd := []
  answers : List (List AxisApp)
  assFsmState : AssFsmState := .idle
  prevChunk : AxisApp
  memRdOffset : ℕ := 0
  mustJoin : Bool := false
  dataDropCounter : BitVec 16 := 0
  siMemRxpData : List AxisApp := []
  siMrdSplitSeg : List Bool := []
  soTaifData : List AxisApp := []
  deriving DecidableEq

/-- What a cycle offers: which outputs are full, whether the memory answers a command, and what
has arrived at the stitcher. -/
structure RaiCycle where
  splitSegFull : Bool
  memRdCmdFull : Bool
  memAnswers : Bool
  memData : Bool
  splitSeg : Bool
  taifDataFull : Bool
  deriving DecidableEq, Repr

/-- Nothing blocks the processes in the cycle. -/
def RaiCycle.ready (k : RaiCycle) : Bool :=
  !k.splitSegFull && !k.memRdCmdFull && k.memAnswers && k.memData && k.splitSeg

/-- The cycle that offers everything. -/
def RaiCycle.free : RaiCycle := ⟨false, false, true, true, true, false⟩

/-- The second read command, which starts at the bottom of the buffer. -/
def mrdSecond (c : DmCmd) (firstAccLen : RxBufPtr) : DmCmd :=
  .ofAddrLen (setRange c.saddr 15 0 (0 : BitVec 16)) (c.btt - firstAccLen.setWidth 23)

section Calls

variable (s : RaiState) (k : RaiCycle)

/-- One call of `pRxMemoryReader`. -/
def pRxMemoryReader : RaiState :=
  match s.mrdFsmState with
  | .access1st =>
      match s.siRasMemRdCmd with
      | memRdCmd :: cs =>
          if ¬k.splitSegFull ∧ ¬k.memRdCmdFull then
            let s := { s with siRasMemRdCmd := cs, memRdCmd := memRdCmd }
            if memRdCmd.wraps then
              { s with
                firstAccLen := memRdCmd.firstAccLen
                mrdFsmState := .access2nd
                soMemRxpRdCmd := s.soMemRxpRdCmd ++
                  [.ofAddrLen memRdCmd.saddr memRdCmd.firstAccLen]
                siMrdSplitSeg := s.siMrdSplitSeg ++ [true] }
            else
              { s with
                soMemRxpRdCmd := s.soMemRxpRdCmd ++ [memRdCmd]
                siMrdSplitSeg := s.siMrdSplitSeg ++ [false] }
          else s
      | [] => s
  | .access2nd =>
      if ¬k.memRdCmdFull then
        { s with
          memRdCmd := { s.memRdCmd with saddr := setRange s.memRdCmd.saddr 15 0 (0 : BitVec 16) }
          soMemRxpRdCmd := s.soMemRxpRdCmd ++ [mrdSecond s.memRdCmd s.firstAccLen]
          mrdFsmState := .access1st }
      else s

/-- The memory answers a command. -/
def memAnswer : RaiState :=
  match s.soMemRxpRdCmd, s.answers with
  | _ :: cmds, st :: sts =>
      if k.memAnswers then
        { s with soMemRxpRdCmd := cmds, answers := sts, siMemRxpData := s.siMemRxpData ++ st }
      else s
  | _, _ => s

/-- A chunk for the application. It is dropped if the stream is full. -/
def assWrite (c : AxisApp) (counted : Bool) : RaiState :=
  if ¬k.taifDataFull then { s with soTaifData := s.soTaifData ++ [c] }
  else if counted then { s with dataDropCounter := s.dataDropCounter + 1 }
  else s

/-- `ASS_IDLE`: the very first chunk. The `tlast` of a first part of one chunk is not cleared. -/
def assIdle : RaiState :=
  match s.siMemRxpData, s.siMrdSplitSeg with
  | currAppChunk :: cs, mustJoin :: fs =>
      if k.memData ∧ k.splitSeg then
        let s := { s with siMemRxpData := cs, siMrdSplitSeg := fs, mustJoin := mustJoin }
        if currAppChunk.tlast then
          if mustJoin = false then { assWrite s k currAppChunk true with assFsmState := .idle }
          else if currAppChunk.getLen ≠ 8 then
            { s with
              memRdOffset := currAppChunk.getLen
              prevChunk := currAppChunk
              assFsmState := .join2ndBuf }
          else
            { assWrite s k currAppChunk true with
              memRdOffset := currAppChunk.getLen
              assFsmState := .fwd2ndBuf }
        else { assWrite s k currAppChunk true with assFsmState := .fwd1stBuf }
      else s
  | _, _ => s

/-- `ASS_FWD_1ST_BUF`. -/
def assFwd1stBuf : RaiState :=
  match s.siMemRxpData with
  | currAppChunk :: cs =>
      if k.memData then
        let s := { s with siMemRxpData := cs }
        if currAppChunk.tlast then
          if s.mustJoin = false then
            { assWrite s k currAppChunk false with assFsmState := .idle }
          else if currAppChunk.getLen ≠ 8 then
            { s with
              memRdOffset := currAppChunk.getLen
              prevChunk := clearTLast currAppChunk
              assFsmState := .join2ndBuf }
          else
            { assWrite s k (clearTLast currAppChunk) true with
              memRdOffset := currAppChunk.getLen
              assFsmState := .fwd2ndBuf }
        else assWrite s k currAppChunk true
      else s
  | [] => s

/-- `ASS_FWD_2ND_BUF`. -/
def assFwd2ndBuf : RaiState :=
  match s.siMemRxpData with
  | currAppChunk :: cs =>
      if k.memData then
        let s := assWrite { s with siMemRxpData := cs } k currAppChunk true
        if currAppChunk.tlast then { s with assFsmState := .idle } else s
      else s
  | [] => s

/-- `ASS_JOIN_2ND_BUF`. -/
def assJoin2ndBuf : RaiState :=
  match s.siMemRxpData with
  | currAppChunk :: cs =>
      if k.memData then
        let joinedChunk := joinHead s.memRdOffset s.prevChunk currAppChunk
        let s := { s with
          siMemRxpData := cs
          prevChunk := carry s.memRdOffset s.prevChunk currAppChunk }
        if fits s.memRdOffset currAppChunk then
          { assWrite s k joinedChunk.setTLast true with assFsmState := .idle }
        else if currAppChunk.tlast then
          { assWrite s k joinedChunk true with assFsmState := .residue }
        else assWrite s k joinedChunk true
      else s
  | [] => s

/-- `ASS_RESIDUE`. -/
def assResidue : RaiState :=
  { assWrite s k (lastChunk s.memRdOffset s.prevChunk) true with assFsmState := .idle }

/-- One call of `pAppSegmentStitcher`. -/
def pAppSegmentStitcher : RaiState :=
  match s.assFsmState with
  | .idle => assIdle s k
  | .fwd1stBuf => assFwd1stBuf s k
  | .fwd2ndBuf => assFwd2ndBuf s k
  | .join2ndBuf => assJoin2ndBuf s k
  | .residue => assResidue s k

/-- A cycle. -/
def raiNext : RaiState :=
  pAppSegmentStitcher (memAnswer (pRxMemoryReader s k) k) k

end Calls

/-! ### Stitched segments -/

/-- The read commands for a segment. -/
def dmReads (c : DmCmd) : List DmCmd :=
  if c.wraps then [c.first, mrdSecond c c.firstAccLen] else [c]

/-- The memory with the given content answers a command with a stream. -/
structure Answers (mem : BitVec 40 → Byte) (c : DmCmd) (st : List AxisApp) : Prop where
  wf : WellFormed st
  bytes : streamBytes st = (dmAddrs c).map mem

/-- A stream with the bytes of a command, around the circular buffer. -/
structure ReadBack (mem : BitVec 40 → Byte) (c : DmCmd) (st : List AxisApp) : Prop where
  wf : WellFormed st
  bytes : streamBytes st = (List.range c.btt.toNat).map fun i => mem (circularAddr c.saddr i)

/-- The chunks are one such stream for each command. -/
def ReadsBack (mem : BitVec 40 → Byte) (cmds : List DmCmd) (data : List AxisApp) : Prop :=
  ∃ streams : List (List AxisApp), data = streams.flatten ∧ List.Forall₂ (ReadBack mem) cmds streams

/-- The segment is cut exactly eight bytes behind its start. -/
def SplitAfterEight (c : DmCmd) : Prop := c.wraps = true ∧ c.firstAccLen = 8

instance (c : DmCmd) : Decidable (SplitAfterEight c) := inferInstanceAs (Decidable (_ ∧ _))

section Segments

variable {mem : BitVec 40 → Byte} {c : DmCmd} {cmds : List DmCmd} {st st' : List AxisApp}
  {sts : List (List AxisApp)}

lemma Answers.length (h : Answers mem c st) : (streamBytes st).length = c.btt.toNat := by
  rw [h.bytes, List.length_map, dmAddrs, List.length_map, List.length_range]

lemma saddr_mrdSecond (n : RxBufPtr) : (mrdSecond c n).saddr = (c.second n).saddr := by
  simp [mrdSecond, DmCmd.second, DmCmd.ofAddrLen]

lemma btt_mrdSecond (n : RxBufPtr) : (mrdSecond c n).btt = (c.second n).btt := by
  simp [mrdSecond, DmCmd.second, DmCmd.ofAddrLen]

/-- A segment that wraps has a first and a second part. -/
lemma firstAccLen_lt (hw : c.wraps) (hlt : c.btt.toNat < toeBufferSize) :
    c.firstAccLen.toNat < c.btt.toNat := by
  have hf := c.toNat_firstAccLen (c.offset_ne_zero_of_wraps hw hlt)
  simp only [DmCmd.wraps, decide_eq_true_eq, gt_iff_lt] at hw
  omega

lemma readBack_of_not_wraps (hw : ¬c.wraps) (h : Answers mem c st) : ReadBack mem c st := by
  refine ⟨h.wf, ?_⟩
  rw [h.bytes, dmAddrs_of_not_wraps hw, List.map_map]
  rfl

/-- The two parts of a segment, stitched. -/
lemma readBack_stitch (hw : c.wraps) (hlt : c.btt.toNat < toeBufferSize) (h8 : c.firstAccLen ≠ 8)
    (h : Answers mem c.first st) (h' : Answers mem (mrdSecond c c.firstAccLen) st') :
    ReadBack mem c (stitch st st') := by
  have hne : (streamBytes st).length ≠ 8 := by
    rw [h.length, c.toNat_btt_first]
    exact fun heq => h8 (BitVec.eq_of_toNat_eq heq)
  obtain ⟨hwf, hbytes⟩ := stitch_spec h.wf h'.wf hne
  refine ⟨hwf, ?_⟩
  rw [hbytes, h.bytes, h'.bytes, ← List.map_append,
    dmAddrs_of_wraps hw hlt (saddr_mrdSecond _) (btt_mrdSecond _), List.map_map]
  rfl

/-- A first part of eight bytes is taken for the whole segment. -/
lemma not_readsBack_of_eight (h8 : SplitAfterEight c) (hlt : c.btt.toNat < toeBufferSize)
    (h : Answers mem c.first st) (rest : List AxisApp) :
    ¬ReadsBack mem (c :: cmds) (stitch st st' ++ rest) := by
  rintro ⟨streams, hdata, hread⟩
  obtain ⟨t, ts, ht, -, rfl⟩ := List.forall₂_cons_left_iff.mp hread
  have hlen : (streamBytes st).length = 8 := by
    rw [h.length, c.toNat_btt_first, h8.2]
    rfl
  obtain ⟨c8, hlast, hst, hbytes⟩ := @stitch_of_eight st st' h.wf hlen
  rw [hst, List.flatten_cons, List.cons_append] at hdata
  cases t with
  | nil => exact absurd ht.wf.isStream id
  | cons x xs =>
      rw [List.cons_append, List.cons.injEq] at hdata
      obtain ⟨rfl, -⟩ := hdata
      obtain rfl := ht.wf.tail_eq_nil hlast
      have hsum := congrArg List.length ht.bytes
      rw [streamBytes_cons, streamBytes_nil, List.append_nil, hbytes, List.length_map,
        List.length_range] at hsum
      have hfirst := firstAccLen_lt h8.1 hlt
      rw [h8.2] at hfirst
      have height : (8 : RxBufPtr).toNat = 8 := rfl
      omega

/-- The stream of the first command, in front of those of the other commands. -/
lemma readsBack_cons (h : ReadBack mem c st) (rest : List AxisApp) :
    ReadsBack mem (c :: cmds) (st ++ rest) ↔ ReadsBack mem cmds rest := by
  constructor
  · rintro ⟨streams, hdata, hread⟩
    obtain ⟨t, ts, ht, hts, rfl⟩ := List.forall₂_cons_left_iff.mp hread
    rw [List.flatten_cons] at hdata
    obtain ⟨-, hrest⟩ := h.wf.isStream.append_inj ht.wf.isStream hdata
    exact ⟨ts, hrest, hts⟩
  · rintro ⟨streams, rfl, hread⟩
    exact ⟨st :: streams, rfl, .cons h hread⟩

/-- **Stitched segments**: they are one stream for each command, with the bytes of the circular
buffer, exactly when no segment is cut after eight bytes. -/
theorem readsBack_stitchAll_iff (hlt : ∀ c ∈ cmds, c.btt.toNat < toeBufferSize)
    (hans : List.Forall₂ (Answers mem) (cmds.flatMap dmReads) sts) :
    ReadsBack mem cmds (stitchAll (cmds.map DmCmd.wraps) sts) ↔
      ∀ c ∈ cmds, ¬SplitAfterEight c := by
  induction cmds generalizing sts with
  | nil =>
      obtain rfl := List.forall₂_nil_left_iff.mp hans
      exact iff_of_true ⟨[], rfl, .nil⟩ (by simp)
  | cons c cmds ih =>
      have hc := hlt c List.mem_cons_self
      have hrest (sts' : List (List AxisApp)) :=
        @ih sts' fun d hd => hlt d (List.mem_cons_of_mem c hd)
      rw [List.flatMap_cons] at hans
      rw [List.map_cons, List.forall_mem_cons]
      cases hw : c.wraps with
      | false =>
          rw [dmReads, hw, if_neg Bool.false_ne_true] at hans
          obtain ⟨st, sts, hst, hsts, rfl⟩ := List.forall₂_cons_left_iff.mp hans
          have hno : ¬SplitAfterEight c := fun h => by rw [h.1] at hw; cases hw
          rw [stitchAll, readsBack_cons (readBack_of_not_wraps (by simp [hw]) hst), hrest sts hsts]
          exact (and_iff_right hno).symm
      | true =>
          rw [dmReads, hw, if_pos rfl] at hans
          obtain ⟨st, sts₁, hst, hsts₁, rfl⟩ := List.forall₂_cons_left_iff.mp hans
          obtain ⟨st', sts, hst', hsts, rfl⟩ := List.forall₂_cons_left_iff.mp hsts₁
          rw [stitchAll]
          by_cases h8 : SplitAfterEight c
          · exact iff_of_false (not_readsBack_of_eight h8 hc hst _) fun h => h.1 h8
          · have hne : c.firstAccLen ≠ 8 := fun heq => h8 ⟨hw, heq⟩
            rw [readsBack_cons (readBack_stitch hw hc hne hst hst'), hrest sts hsts]
            exact (and_iff_right h8).symm

/-- The streams of the memory come as the flags tell. -/
lemma splitStreams_of_answers (hans : List.Forall₂ (Answers mem) (cmds.flatMap dmReads) sts) :
    SplitStreams (cmds.map DmCmd.wraps) sts := by
  induction cmds generalizing sts with
  | nil =>
      obtain rfl := List.forall₂_nil_left_iff.mp hans
      exact .nil
  | cons c cmds ih =>
      rw [List.flatMap_cons] at hans
      rw [List.map_cons]
      cases hw : c.wraps with
      | false =>
          rw [dmReads, hw, if_neg Bool.false_ne_true] at hans
          obtain ⟨st, sts, hst, hsts, rfl⟩ := List.forall₂_cons_left_iff.mp hans
          exact .one hst.wf (ih hsts)
      | true =>
          rw [dmReads, hw, if_pos rfl] at hans
          obtain ⟨st, sts₁, hst, hsts₁, rfl⟩ := List.forall₂_cons_left_iff.mp hans
          obtain ⟨st', sts, hst', hsts, rfl⟩ := List.forall₂_cons_left_iff.mp hsts₁
          exact .two hst.wf hst'.wf (ih hsts)

end Segments

/-! ### What is still to be delivered -/

/-- The flags that the stitcher has still to read. -/
def raiFlags (s : RaiState) : List Bool :=
  s.siMrdSplitSeg ++ s.siRasMemRdCmd.map DmCmd.wraps

/-- The commands that the memory has still to answer. -/
def raiPending (s : RaiState) : List DmCmd :=
  s.soMemRxpRdCmd ++
    ((if s.mrdFsmState = .access2nd then [mrdSecond s.memRdCmd s.firstAccLen] else []) ++
      s.siRasMemRdCmd.flatMap dmReads)

/-- What was delivered and what is still to be delivered make up the whole. -/
def AssInv (total : List AxisApp) (s : RaiState) : Prop :=
  ∃ sts rest ahead, SplitStreams (raiFlags s) sts ∧
    s.siMemRxpData ++ s.answers.flatten = rest ++ sts.flatten ∧
    AssAhead s.memRdOffset s.prevChunk s.assFsmState s.mustJoin rest ahead ∧
    s.soTaifData ++ (ahead ++ stitchAll (raiFlags s) sts) = total

section Stitcher

variable {total : List AxisApp} {s : RaiState} {k : RaiCycle}

lemma assWrite_of_not_full (hfull : k.taifDataFull = false) (c : AxisApp) (counted : Bool) :
    assWrite s k c counted = { s with soTaifData := s.soTaifData ++ [c] } := by
  rw [assWrite, if_pos (by simp [hfull])]

/-- The registers of the stitcher. -/
def RaiState.regs (s : RaiState) : StitchRegs :=
  ⟨s.assFsmState, s.memRdOffset, s.prevChunk, s.mustJoin⟩

/-- The stitcher has read a chunk, and nothing is dropped. -/
def RaiState.read (s : RaiState) (c : AxisApp) : RaiState :=
  { s with
    assFsmState := (s.regs.read c).2.fsmState
    memRdOffset := (s.regs.read c).2.memRdOffset
    prevChunk := (s.regs.read c).2.prevChunk
    mustJoin := (s.regs.read c).2.mustJoin
    soTaifData := s.soTaifData ++ (s.regs.read c).1 }

/-- `ASS_IDLE`. -/
lemma assIdle_inv (h : AssInv total s) (hst : s.assFsmState = .idle)
    (hfull : k.taifDataFull = false) : AssInv total (assIdle s k) := by
  obtain ⟨sts, rest, ahead, hS, hD, hA, hO⟩ := h
  rw [hst] at hA
  cases hA
  unfold assIdle
  split
  · next c cs f fs hdata hflags =>
      split
      · rw [hdata, List.nil_append] at hD
        rw [raiFlags, hflags, List.cons_append] at hS hO
        rw [stitchAll_cons] at hO
        obtain ⟨rest', ahead', hS', hD', hA', hseg⟩ :=
          @read_idle c _ sts _ ⟨.idle, s.memRdOffset, s.prevChunk, f⟩ rfl hS hD
        rw [hseg, List.append_assoc, List.nil_append, ← List.append_assoc] at hO
        have hread : AssInv total
            (RaiState.read { s with
              siMemRxpData := cs
              siMrdSplitSeg := fs
              mustJoin := f } c) := by
          refine ⟨_, rest', ahead', hS', hD', ?_, ?_⟩
          · simpa [RaiState.read, RaiState.regs, StitchRegs.Ahead, hst] using hA'
          · simpa [RaiState.read, RaiState.regs, hst, raiFlags] using hO
        convert hread using 1
        simp only [assWrite_of_not_full hfull, RaiState.read, RaiState.regs, hst, StitchRegs.read]
        split
        · split
          · rfl
          · split
            · simp
            · rfl
        · rfl
      · exact ⟨sts, [], [], hS, hD, by rw [hst]; exact .idle, hO⟩
  · exact ⟨sts, [], [], hS, hD, by rw [hst]; exact .idle, hO⟩

/-- A chunk that is read behind the first one of its segment. -/
lemma read_inv {c : AxisApp} {cs : List AxisApp} (h : AssInv total s)
    (hidle : s.assFsmState ≠ .idle) (hres : s.assFsmState ≠ .residue)
    (hdata : s.siMemRxpData = c :: cs) :
    AssInv total (RaiState.read { s with siMemRxpData := cs } c) := by
  obtain ⟨sts, rest, ahead, hS, hD, hA, hO⟩ := h
  cases rest with
  | nil => exact absurd rfl (hA.ne_nil hidle hres)
  | cons x xs =>
      rw [hdata, List.cons_append, List.cons_append, List.cons.injEq] at hD
      obtain ⟨rfl, hD⟩ := hD
      obtain ⟨ahead', hA', rfl⟩ := @read_ahead c xs ahead s.regs hA
      refine ⟨sts, xs, ahead', hS, hD, hA', ?_⟩
      rw [List.append_assoc, ← List.append_assoc] at hO
      exact hO

/-- `ASS_FWD_1ST_BUF`. -/
lemma assFwd1stBuf_inv (h : AssInv total s) (hst : s.assFsmState = .fwd1stBuf)
    (hfull : k.taifDataFull = false) : AssInv total (assFwd1stBuf s k) := by
  unfold assFwd1stBuf
  split
  · next c cs hdata =>
      split
      · have hread := read_inv h (by simp [hst]) (by simp [hst]) hdata
        convert hread using 1
        simp only [assWrite_of_not_full hfull, RaiState.read, RaiState.regs, hst, StitchRegs.read]
        split
        · split
          · rfl
          · split
            · simp
            · rfl
        · rfl
      · exact h
  · exact h

/-- `ASS_FWD_2ND_BUF`. -/
lemma assFwd2ndBuf_inv (h : AssInv total s) (hst : s.assFsmState = .fwd2ndBuf)
    (hfull : k.taifDataFull = false) : AssInv total (assFwd2ndBuf s k) := by
  unfold assFwd2ndBuf
  split
  · next c cs hdata =>
      split
      · have hread := read_inv h (by simp [hst]) (by simp [hst]) hdata
        convert hread using 1
        simp only [assWrite_of_not_full hfull, RaiState.read, RaiState.regs, hst, StitchRegs.read]
        split
        · rfl
        · rfl
      · exact h
  · exact h

/-- `ASS_JOIN_2ND_BUF`. -/
lemma assJoin2ndBuf_inv (h : AssInv total s) (hst : s.assFsmState = .join2ndBuf)
    (hfull : k.taifDataFull = false) : AssInv total (assJoin2ndBuf s k) := by
  unfold assJoin2ndBuf
  split
  · next c cs hdata =>
      split
      · have hread := read_inv h (by simp [hst]) (by simp [hst]) hdata
        convert hread using 1
        simp only [assWrite_of_not_full hfull, RaiState.read, RaiState.regs, hst, StitchRegs.read]
        split
        · rfl
        · split
          · rfl
          · rfl
      · exact h
  · exact h

/-- `ASS_RESIDUE`. -/
lemma assResidue_inv (h : AssInv total s) (hst : s.assFsmState = .residue)
    (hfull : k.taifDataFull = false) : AssInv total (assResidue s k) := by
  obtain ⟨sts, rest, ahead, hS, hD, hA, hO⟩ := h
  rw [hst] at hA
  rw [assResidue, assWrite_of_not_full hfull]
  cases hA with
  | residue => exact ⟨sts, [], [], hS, hD, .idle, by simpa [raiFlags] using hO⟩

/-- One call of `pAppSegmentStitcher`. -/
lemma pAppSegmentStitcher_inv (h : AssInv total s) (hfull : k.taifDataFull = false) :
    AssInv total (pAppSegmentStitcher s k) := by
  rw [pAppSegmentStitcher]
  split
  · next hst => exact assIdle_inv h hst hfull
  · next hst => exact assFwd1stBuf_inv h hst hfull
  · next hst => exact assFwd2ndBuf_inv h hst hfull
  · next hst => exact assJoin2ndBuf_inv h hst hfull
  · next hst => exact assResidue_inv h hst hfull

end Stitcher

/-! ### Runs -/

/-- How much the processes have still to do: each byte is read and written at most once, a residue
is written, and each command is sent and answered. -/
def raiWork (s : RaiState) : ℕ :=
  (s.siRasMemRdCmd.map fun c => 2 * c.btt.toNat + 4).sum
    + (if s.mrdFsmState = .access2nd
        then 2 * (mrdSecond s.memRdCmd s.firstAccLen).btt.toNat + 2 else 0)
    + (s.soMemRxpRdCmd.map fun c => 2 * c.btt.toNat + 1).sum
    + 2 * s.siMemRxpData.length + if s.assFsmState = .residue then 1 else 0

/-- What was delivered and what is still to be delivered make up the whole, and the streams of
the memory answer the commands. -/
structure RaiInv (mem : BitVec 40 → Byte) (total : List AxisApp) (s : RaiState) : Prop where
  ass : AssInv total s
  answers : List.Forall₂ (Answers mem) (raiPending s) s.answers
  btt : ∀ c ∈ s.siRasMemRdCmd, c.btt.toNat < toeBufferSize

section Progress

variable {mem : BitVec 40 → Byte} {total : List AxisApp} {s : RaiState} {k : RaiCycle}

/-- A well-formed stream has no more chunks than bytes. -/
lemma length_le_of_wellFormed {st : List AxisRaw} (h : WellFormed st) :
    st.length ≤ (streamBytes st).length := by
  induction st with
  | nil => exact Nat.zero_le _
  | cons c cs ih =>
      have hc := one_le_length_bytes h.head
      rw [streamBytes_cons, List.length_append, List.length_cons]
      cases hlast : c.tlast with
      | true =>
          obtain rfl := h.tail_eq_nil hlast
          rw [List.length_nil]
          omega
      | false =>
          have hcs := ih (h.tail hlast)
          omega

lemma pRxMemoryReader_inv (h : RaiInv mem total s) : RaiInv mem total (pRxMemoryReader s k) := by
  obtain ⟨⟨sts, rest, ahead, hS, hD, hA, hO⟩, hans, hbtt⟩ := h
  rw [pRxMemoryReader]
  split
  · next hst =>
      rw [raiPending, hst] at hans
      split
      · next c cs hcmd =>
          rw [hcmd] at hans hbtt
          rw [raiFlags, hcmd] at hS hO
          rw [List.flatMap_cons, dmReads] at hans
          have hcs : ∀ d ∈ cs, d.btt.toNat < toeBufferSize :=
            fun d hd => hbtt d (List.mem_cons_of_mem c hd)
          split
          · split
            · next hw =>
                rw [if_pos hw] at hans
                refine ⟨⟨sts, rest, ahead, ?_, hD, hA, ?_⟩, ?_, hcs⟩
                · simpa [raiFlags, hw] using hS
                · simpa [raiFlags, hw] using hO
                · simpa [raiPending, DmCmd.first] using hans
            · next hw =>
                rw [if_neg hw] at hans
                have hw' : c.wraps = false := by simpa using hw
                refine ⟨⟨sts, rest, ahead, ?_, hD, hA, ?_⟩, ?_, hcs⟩
                · simpa [raiFlags, hw'] using hS
                · simpa [raiFlags, hw'] using hO
                · simpa [raiPending, hst] using hans
          · refine ⟨⟨sts, rest, ahead, ?_, hD, hA, ?_⟩, ?_, ?_⟩
            · simpa [raiFlags, hcmd] using hS
            · simpa [raiFlags, hcmd] using hO
            · simpa [raiPending, hst, hcmd, dmReads] using hans
            · simpa [hcmd] using hbtt
      · exact ⟨⟨sts, rest, ahead, hS, hD, hA, hO⟩, by simpa [raiPending, hst] using hans, hbtt⟩
  · next hst =>
      split
      · rw [raiPending, hst] at hans
        exact ⟨⟨sts, rest, ahead, hS, hD, hA, hO⟩, by simpa [raiPending] using hans, hbtt⟩
      · exact ⟨⟨sts, rest, ahead, hS, hD, hA, hO⟩, hans, hbtt⟩

lemma pRxMemoryReader_moves (hbtt : ∀ c ∈ s.siRasMemRdCmd, c.btt.toNat < toeBufferSize) :
    Clocked.Moves raiWork k.ready s (s.siRasMemRdCmd = [] ∧ s.mrdFsmState = .access1st)
      (pRxMemoryReader s k) := by
  rw [pRxMemoryReader]
  split
  · next hst =>
      split
      · next c cs hcmd =>
          split
          · refine .work ?_
            split
            · next hw =>
                have hlt := firstAccLen_lt hw (hbtt c (by simp [hcmd]))
                have hfst := c.toNat_btt_first
                have hsnd := c.toNat_btt_second hlt.le
                rw [← btt_mrdSecond] at hsnd
                rw [DmCmd.first] at hfst
                simp only [raiWork, hst, hcmd, List.map_cons, List.sum_cons, List.map_append,
                  List.map_nil, List.sum_append, List.sum_nil, hfst, hsnd]
                simp only [if_true, reduceCtorEq, if_false]
                omega
            · simp only [raiWork, hst, hcmd, List.map_cons, List.sum_cons, List.map_append,
                List.map_nil, List.sum_append, List.sum_nil, reduceCtorEq, if_false]
              omega
          · next hk =>
              refine .stay fun hr => absurd ?_ hk
              simp only [RaiCycle.ready, Bool.and_eq_true, Bool.not_eq_true'] at hr
              simp [hr.1.1.1.1, hr.1.1.1.2]
      · next hcmd => exact .stay fun _ => ⟨hcmd, hst⟩
  · next hst =>
      split
      · refine .work ?_
        simp only [raiWork, hst, List.map_append, List.map_cons, List.map_nil, List.sum_append,
          List.sum_cons, List.sum_nil, if_true, reduceCtorEq, if_false]
        omega
      · next hk =>
          refine .stay fun hr => absurd ?_ hk
          simp only [RaiCycle.ready, Bool.and_eq_true, Bool.not_eq_true'] at hr
          simp [hr.1.1.1.2]

lemma memAnswer_inv (h : RaiInv mem total s) : RaiInv mem total (memAnswer s k) := by
  obtain ⟨⟨sts, rest, ahead, hS, hD, hA, hO⟩, hans, hbtt⟩ := h
  rw [memAnswer]
  split
  · next c cmds st streams hcmd hst =>
      split
      · rw [raiPending, hcmd, hst, List.cons_append, List.forall₂_cons] at hans
        rw [hst] at hD
        exact ⟨⟨sts, rest, ahead, hS, by simpa using hD, hA, hO⟩, hans.2, hbtt⟩
      · exact ⟨⟨sts, rest, ahead, hS, hD, hA, hO⟩, hans, hbtt⟩
  · exact ⟨⟨sts, rest, ahead, hS, hD, hA, hO⟩, hans, hbtt⟩

lemma memAnswer_moves (hans : List.Forall₂ (Answers mem) (raiPending s) s.answers) :
    Clocked.Moves raiWork k.ready s (s.soMemRxpRdCmd = []) (memAnswer s k) := by
  rw [memAnswer]
  split
  · next c cmds st streams hcmd hst =>
      rw [raiPending, hcmd, hst, List.cons_append, List.forall₂_cons] at hans
      split
      · have hle := length_le_of_wellFormed hans.1.wf
        rw [hans.1.length] at hle
        refine .work ?_
        simp only [raiWork, hcmd, List.map_cons, List.sum_cons, List.length_append]
        omega
      · next hk =>
          refine .stay fun hr => absurd ?_ hk
          simp only [RaiCycle.ready, Bool.and_eq_true] at hr
          exact hr.1.1.2
  · next hno =>
      refine .stay fun _ => ?_
      cases hcmd : s.soMemRxpRdCmd with
      | nil => rfl
      | cons c cmds =>
          rw [raiPending, hcmd, List.cons_append] at hans
          obtain ⟨st, sts, -, -, hst⟩ := List.forall₂_cons_left_iff.mp hans
          exact absurd hst (hno c cmds st sts hcmd)

/-- A call of the stitcher concerns what has arrived at it, and what it writes. -/
lemma pAppSegmentStitcher_frame :
    (pAppSegmentStitcher s k).siRasMemRdCmd = s.siRasMemRdCmd ∧
      (pAppSegmentStitcher s k).mrdFsmState = s.mrdFsmState ∧
      (pAppSegmentStitcher s k).memRdCmd = s.memRdCmd ∧
      (pAppSegmentStitcher s k).firstAccLen = s.firstAccLen ∧
      (pAppSegmentStitcher s k).soMemRxpRdCmd = s.soMemRxpRdCmd ∧
      (pAppSegmentStitcher s k).answers = s.answers := by
  simp only [pAppSegmentStitcher, assIdle, assFwd1stBuf, assFwd2ndBuf, assJoin2ndBuf, assResidue,
    assWrite]
  repeat' split
  all_goals exact ⟨rfl, rfl, rfl, rfl, rfl, rfl⟩

/-- A chunk that is read is worth more than the residue it leaves. -/
lemma raiWork_of_read {s' : RaiState} {n : ℕ} (hdata : s.siMemRxpData.length = n + 1)
    (hst : s.assFsmState ≠ .residue) (hdata' : s'.siMemRxpData.length = n)
    (hcmd : s'.siRasMemRdCmd = s.siRasMemRdCmd) (hmrd : s'.mrdFsmState = s.mrdFsmState)
    (hrd : s'.memRdCmd = s.memRdCmd) (hfst : s'.firstAccLen = s.firstAccLen)
    (hso : s'.soMemRxpRdCmd = s.soMemRxpRdCmd) : raiWork s' + 1 ≤ raiWork s := by
  have hres : (if s'.assFsmState = .residue then 1 else 0) ≤ 1 := by
    split <;> omega
  rw [raiWork, raiWork, hdata, hdata', hcmd, hmrd, hrd, hfst, hso, if_neg hst]
  omega

lemma pAppSegmentStitcher_moves :
    Clocked.Moves raiWork k.ready s
      (s.assFsmState ≠ .residue ∧
        (s.siMemRxpData = [] ∨ s.assFsmState = .idle ∧ s.siMrdSplitSeg = []))
      (pAppSegmentStitcher s k) := by
  obtain ⟨hcmd, hmrd, hrd, hfst, hso, -⟩ := @pAppSegmentStitcher_frame s k
  -- an output that is full drops the chunk, but the chunk is read
  have hread {c : AxisApp} {cs : List AxisApp} (hdata : s.siMemRxpData = c :: cs)
      (hst : s.assFsmState ≠ .residue) (hdata' : (pAppSegmentStitcher s k).siMemRxpData = cs) :
      raiWork (pAppSegmentStitcher s k) + 1 ≤ raiWork s :=
    raiWork_of_read (by rw [hdata, List.length_cons]) hst (by rw [hdata']) hcmd hmrd hrd hfst hso
  have hready (hr : k.ready = true) : k.memData = true ∧ k.splitSeg = true := by
    simp only [RaiCycle.ready, Bool.and_eq_true] at hr
    exact ⟨hr.1.2, hr.2⟩
  cases hst : s.assFsmState with
  | idle =>
      cases hdata : s.siMemRxpData with
      | nil =>
          have hstay : pAppSegmentStitcher s k = s := by
            simp only [pAppSegmentStitcher, hst, assIdle, hdata]
          rw [hstay]
          exact .stay fun _ => ⟨by simp, .inl rfl⟩
      | cons c cs =>
          cases hflags : s.siMrdSplitSeg with
          | nil =>
              have hstay : pAppSegmentStitcher s k = s := by
                simp only [pAppSegmentStitcher, hst, assIdle, hdata, hflags]
              rw [hstay]
              exact .stay fun _ => ⟨by simp, .inr ⟨rfl, rfl⟩⟩
          | cons f fs =>
              by_cases hk : k.memData ∧ k.splitSeg
              · refine .work (hread hdata (by simp [hst]) ?_)
                simp only [pAppSegmentStitcher, hst, assIdle, hdata, hflags, if_pos hk, assWrite]
                repeat' split
                all_goals rfl
              · have hstay : pAppSegmentStitcher s k = s := by
                  simp only [pAppSegmentStitcher, hst, assIdle, hdata, hflags, if_neg hk]
                rw [hstay]
                exact .stay fun hr => absurd (hready hr) hk
  | fwd1stBuf =>
      cases hdata : s.siMemRxpData with
      | nil =>
          have hstay : pAppSegmentStitcher s k = s := by
            simp only [pAppSegmentStitcher, hst, assFwd1stBuf, hdata]
          rw [hstay]
          exact .stay fun _ => ⟨by simp, .inl rfl⟩
      | cons c cs =>
          by_cases hk : k.memData
          · refine .work (hread hdata (by simp [hst]) ?_)
            simp only [pAppSegmentStitcher, hst, assFwd1stBuf, hdata, if_pos hk, assWrite]
            repeat' split
            all_goals rfl
          · have hstay : pAppSegmentStitcher s k = s := by
              simp only [pAppSegmentStitcher, hst, assFwd1stBuf, hdata, if_neg hk]
            rw [hstay]
            exact .stay fun hr => absurd (hready hr).1 hk
  | fwd2ndBuf =>
      cases hdata : s.siMemRxpData with
      | nil =>
          have hstay : pAppSegmentStitcher s k = s := by
            simp only [pAppSegmentStitcher, hst, assFwd2ndBuf, hdata]
          rw [hstay]
          exact .stay fun _ => ⟨by simp, .inl rfl⟩
      | cons c cs =>
          by_cases hk : k.memData
          · refine .work (hread hdata (by simp [hst]) ?_)
            simp only [pAppSegmentStitcher, hst, assFwd2ndBuf, hdata, if_pos hk, assWrite]
            repeat' split
            all_goals rfl
          · have hstay : pAppSegmentStitcher s k = s := by
              simp only [pAppSegmentStitcher, hst, assFwd2ndBuf, hdata, if_neg hk]
            rw [hstay]
            exact .stay fun hr => absurd (hready hr).1 hk
  | join2ndBuf =>
      cases hdata : s.siMemRxpData with
      | nil =>
          have hstay : pAppSegmentStitcher s k = s := by
            simp only [pAppSegmentStitcher, hst, assJoin2ndBuf, hdata]
          rw [hstay]
          exact .stay fun _ => ⟨by simp, .inl rfl⟩
      | cons c cs =>
          by_cases hk : k.memData
          · refine .work (hread hdata (by simp [hst]) ?_)
            simp only [pAppSegmentStitcher, hst, assJoin2ndBuf, hdata, if_pos hk, assWrite]
            repeat' split
            all_goals rfl
          · have hstay : pAppSegmentStitcher s k = s := by
              simp only [pAppSegmentStitcher, hst, assJoin2ndBuf, hdata, if_neg hk]
            rw [hstay]
            exact .stay fun hr => absurd (hready hr).1 hk
  | residue =>
      refine .work ?_
      have hdone : (pAppSegmentStitcher s k).assFsmState ≠ .residue := by
        simp [pAppSegmentStitcher, hst, assResidue]
      have hdata : (pAppSegmentStitcher s k).siMemRxpData = s.siMemRxpData := by
        simp only [pAppSegmentStitcher, hst, assResidue, assWrite]
        repeat' split
        all_goals rfl
      rw [raiWork, raiWork, hcmd, hmrd, hrd, hfst, hso, hdata, if_neg hdone, if_pos hst]

/-- A cycle. -/
theorem raiNext_progress (h : RaiInv mem total s) (hfull : k.taifDataFull = false) :
    Clocked.Progress (RaiInv mem total) raiWork RaiCycle.ready s k (raiNext s k) := by
  have hmrd := @pRxMemoryReader_inv mem total s k h
  have hmem := @memAnswer_inv mem total (pRxMemoryReader s k) k hmrd
  have hass : RaiInv mem total (raiNext s k) := by
    obtain ⟨hcmd, hst, hrd, hfst, hso, hans⟩ :=
      @pAppSegmentStitcher_frame (memAnswer (pRxMemoryReader s k) k) k
    refine ⟨pAppSegmentStitcher_inv hmem.ass hfull, ?_, ?_⟩
    · rw [raiNext, raiPending, hcmd, hst, hrd, hfst, hso, hans]
      exact hmem.answers
    · rw [raiNext, hcmd]
      exact hmem.btt
  refine .of_moves hass (((pRxMemoryReader_moves h.btt).trans (memAnswer_moves hmrd.answers)).trans
    pAppSegmentStitcher_moves) ?_
  rintro ⟨⟨⟨hcmd, hst⟩, hs', hso⟩, hs'', hres, hdata⟩
  rw [hs''] at hres hdata
  rw [hs'] at hso
  -- the processes have nothing to do: the stitcher has no data, because no flag is left
  have hnil : s.siMemRxpData = [] := by
    obtain hnil | ⟨hidle, hflags⟩ := hdata
    · exact hnil
    · obtain ⟨sts, rest, ahead, hS, hD, hA, -⟩ := h.ass
      rw [raiFlags, hflags, hcmd] at hS
      rw [hidle] at hA
      cases hS
      cases hA
      exact (List.append_eq_nil_iff.mp hD).1
  simp [raiWork, hcmd, hst, hso, hnil, hres]

/-- When the work is done, the whole is delivered. -/
lemma soTaifData_of_raiWork (h : RaiInv mem total s) (hw : raiWork s = 0) :
    s.soTaifData = total := by
  obtain ⟨⟨sts, rest, ahead, hS, hD, hA, hO⟩, hans, -⟩ := h
  simp only [raiWork, Nat.add_eq_zero_iff, ite_eq_right_iff] at hw
  obtain ⟨⟨⟨⟨hcmd, hst⟩, hso⟩, hdata⟩, hres⟩ := hw
  have hcmd' : s.siRasMemRdCmd = [] := by
    cases hcs : s.siRasMemRdCmd with
    | nil => rfl
    | cons c cs =>
        rw [hcs, List.map_cons, List.sum_cons] at hcmd
        omega
  have hso' : s.soMemRxpRdCmd = [] := by
    cases hcs : s.soMemRxpRdCmd with
    | nil => rfl
    | cons c cs =>
        rw [hcs, List.map_cons, List.sum_cons] at hso
        omega
  have hst' : s.mrdFsmState ≠ .access2nd := fun h => by
    have hzero := hst h
    omega
  have hres' : s.assFsmState ≠ .residue := fun h => by
    have hzero := hres h
    omega
  -- no command is pending, so the memory has no stream left, and the stitcher has read them all
  have hans' : s.answers = [] := by
    rw [raiPending, hso', hcmd', if_neg hst'] at hans
    exact List.forall₂_nil_left_iff.mp hans
  have hdata' : s.siMemRxpData = [] := List.eq_nil_of_length_eq_zero (by omega)
  rw [hans', hdata', List.flatten_nil, List.append_nil, eq_comm, List.append_eq_nil_iff] at hD
  obtain ⟨rfl, hsts⟩ := hD
  obtain rfl := hS.of_flatten_eq_nil hsts
  have hahead : ahead = [] := hA.eq_nil hres'
  rw [hahead, stitchAll_nil, List.append_nil, List.append_nil] at hO
  exact hO

end Progress

/-- The processes before the first command. The registers for a command and for a chunk hold
anything. -/
def raiStart (memRdCmd : DmCmd) (prevChunk : AxisApp) (cmds : List DmCmd)
    (answers : List (List AxisApp)) : RaiState where
  memRdCmd := memRdCmd
  siRasMemRdCmd := cmds
  answers := answers
  prevChunk := prevChunk

section Run

variable {mem : BitVec 40 → Byte} {memRdCmd : DmCmd} {prevChunk : AxisApp} {cmds : List DmCmd}
  {answers : List (List AxisApp)} {ks : List RaiCycle}

lemma raiInv_start (hlt : ∀ c ∈ cmds, c.btt.toNat < toeBufferSize)
    (hans : List.Forall₂ (Answers mem) (cmds.flatMap dmReads) answers) :
    RaiInv mem (stitchAll (cmds.map DmCmd.wraps) answers)
      (raiStart memRdCmd prevChunk cmds answers) :=
  ⟨⟨answers, [], [], splitStreams_of_answers hans, rfl, .idle, rfl⟩, hans, hlt⟩

/-- After enough cycles that do not block the processes, the segments are delivered. -/
theorem rai_run (hlt : ∀ c ∈ cmds, c.btt.toNat < toeBufferSize)
    (hans : List.Forall₂ (Answers mem) (cmds.flatMap dmReads) answers)
    (hfull : ∀ k ∈ ks, k.taifDataFull = false)
    (hready : (cmds.map fun c => 2 * c.btt.toNat + 4).sum ≤ ks.countP RaiCycle.ready) :
    (Clocked.run raiNext (raiStart memRdCmd prevChunk cmds answers) ks).soTaifData
      = stitchAll (cmds.map DmCmd.wraps) answers := by
  have hstart := @raiInv_start mem memRdCmd prevChunk cmds answers hlt hans
  have hnever : Clocked.Along raiNext (fun _ k => k.taifDataFull = false)
      (raiStart memRdCmd prevChunk cmds answers) ks :=
    Clocked.along_of_forall raiNext fun k hk _ => hfull k hk
  obtain ⟨hinv, hwork⟩ :=
    Clocked.run_work (fun _ _ hs hk => raiNext_progress hs hk) hstart hnever
  have hinit : raiWork (raiStart memRdCmd prevChunk cmds answers)
      = (cmds.map fun c => 2 * c.btt.toNat + 4).sum := by
    simp [raiWork, raiStart]
  exact soTaifData_of_raiWork hinv (by omega)

/-- **Reading back**: for every sequence of read commands, every memory that answers the commands
of `pRxMemoryReader`, and every schedule with enough cycles that do not block the processes, the
stitcher gives one well-formed stream with the bytes of the circular buffer for each command if
and only if no command is cut exactly eight bytes behind its start. -/
theorem pAppSegmentStitcher_readsBack_iff (hlt : ∀ c ∈ cmds, c.btt.toNat < toeBufferSize)
    (hans : List.Forall₂ (Answers mem) (cmds.flatMap dmReads) answers)
    (hfull : ∀ k ∈ ks, k.taifDataFull = false)
    (hready : (cmds.map fun c => 2 * c.btt.toNat + 4).sum ≤ ks.countP RaiCycle.ready) :
    ReadsBack mem cmds
        (Clocked.run raiNext (raiStart memRdCmd prevChunk cmds answers) ks).soTaifData ↔
      ∀ c ∈ cmds, ¬SplitAfterEight c := by
  rw [rai_run hlt hans hfull hready]
  exact readsBack_stitchAll_iff hlt hans

end Run

/-- A memory that holds the low byte of each address. -/
def lowBytes (a : BitVec 40) : Byte := a.setWidth 8

/-- A chunk with the given bytes, the last one of its stream. -/
def tailChunk (bytes : List Byte) (h : bytes.length ≤ 8 := by decide) : AxisApp where
  lanes := bytes.map (⟨·, true⟩) ++ List.replicate (8 - bytes.length) ⟨0, false⟩
  tlast := true
  length_lanes := by simp; omega

/-- Six bytes from four bytes before the end of the first buffer on. -/
def readCrossing : DmCmd := .ofAddrLen (0xFFFC : BitVec 32) (6 : BitVec 16)

def readCrossingAnswers : List (List AxisApp) :=
  [[tailChunk [0xFC, 0xFD, 0xFE, 0xFF]], [tailChunk [0, 1]]]

lemma readCrossing_answers :
    List.Forall₂ (Answers lowBytes) ([readCrossing].flatMap dmReads) readCrossingAnswers :=
  .cons ⟨⟨by decide, by decide⟩, by decide⟩ (.cons ⟨⟨by decide, by decide⟩, by decide⟩ .nil)

theorem pAppSegmentStitcher_readsBack_crossing :
    ReadsBack lowBytes [readCrossing]
      (Clocked.run raiNext (raiStart readCrossing zero [readCrossing] readCrossingAnswers)
        (List.replicate 16 .free)).soTaifData :=
  (pAppSegmentStitcher_readsBack_iff (by decide) readCrossing_answers (by decide)
    (by decide)).mpr (by decide)

/-- Ten bytes from eight bytes before the end of the first buffer on: the first chunk keeps its
`tlast`. -/
def readEight : DmCmd := .ofAddrLen (0xFFF8 : BitVec 32) (10 : BitVec 16)

def readEightAnswers : List (List AxisApp) :=
  [[tailChunk [0xF8, 0xF9, 0xFA, 0xFB, 0xFC, 0xFD, 0xFE, 0xFF]], [tailChunk [0, 1]]]

/-- The memory answers both commands, but the segment comes as two streams. -/
theorem pAppSegmentStitcher_splits_eight :
    List.Forall₂ (Answers lowBytes) ([readEight].flatMap dmReads) readEightAnswers ∧
      ¬ReadsBack lowBytes [readEight]
        (Clocked.run raiNext (raiStart readEight zero [readEight] readEightAnswers)
          (List.replicate 24 .free)).soTaifData := by
  have hans : List.Forall₂ (Answers lowBytes) ([readEight].flatMap dmReads) readEightAnswers :=
    .cons ⟨⟨by decide, by decide⟩, by decide⟩ (.cons ⟨⟨by decide, by decide⟩, by decide⟩ .nil)
  refine ⟨hans, fun h => ?_⟩
  rw [rai_run (by decide) hans (by decide) (by decide)] at h
  exact (readsBack_stitchAll_iff (by decide) hans).mp h readEight (by decide) (by decide)

end CloudFpga.Toe
