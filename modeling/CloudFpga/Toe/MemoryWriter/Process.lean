import CloudFpga.Foundation.Clocked
import CloudFpga.Toe.MemoryWriter.Split

/-!
The state machine that the two memory writers of the TOE share: `pRxMemoryWriter` of
`rx_engine.cpp` and `pTxMemoryWriter` of `tx_app_interface.cpp`.

A segment that does not wrap around its 64KB buffer is forwarded with one command; one that wraps
is cut into two streams with a command each. The writers differ in how they start a command and in
where they go when the chunk that is cut is also the last one of the segment, which is the
parameter `residueAfterSplit`.

* `mwrStep`: one call, from the states of the source.
* `MwrAhead`: the commands and chunks that a state will still write, by `splitData`.
* `MwrSlip`: the two cycles in which the process goes wrong.
* `mwr_delivers_iff`: a segment is delivered exactly when the process avoids them.
-/

namespace CloudFpga.Toe

open Foundation AxisRaw

inductive MwrFsmState where
  | idle | fwdAligned | split1stCmd | fwd1stBuf | fwd2ndBuf | residue
  deriving DecidableEq, Repr

/-- The registers and the streams of the process. The input streams hold what arrives in the
whole run. `ι` is the type of the requests. -/
structure MwrState (ι : Type) where
  fsmState : MwrFsmState := .idle
  memWrCmd : DmCmd
  currChunk : AxisApp
  firstAccLen : BitVec 16 := 0
  nrBytesToWr : BitVec 16 := 0
  splitOffset : BitVec 4 := 0
  siCmd : List ι
  siData : List AxisApp
  soMemWrCmd : List DmCmd := []
  soMemWrData : List AxisApp := []
  soSplitSeg : List Bool := []
  deriving DecidableEq

/-- What a cycle offers: which inputs are not empty, and which outputs are full. -/
structure MwrCycle where
  cmd : Bool
  data : Bool
  memWrCmdFull : Bool
  memWrDataFull : Bool
  splitSegFull : Bool
  deriving DecidableEq, Repr

/-- The cycle that offers everything. -/
def MwrCycle.free : MwrCycle := ⟨true, true, false, false, false⟩

/-- Nothing blocks the process in the cycle. -/
def MwrCycle.ready (k : MwrCycle) : Bool :=
  k.cmd && k.data && !k.memWrCmdFull && !k.memWrDataFull && !k.splitSegFull

section Step

variable {ι : Type} (s : MwrState ι) (k : MwrCycle)

/-- `MWR_SPLIT_1ST_CMD`: the command up to the end of the buffer. -/
def mwrSplit1stCmd : MwrState ι :=
  if ¬k.memWrCmdFull then
    { s with
      firstAccLen := s.memWrCmd.firstAccLen
      nrBytesToWr := s.memWrCmd.firstAccLen
      soMemWrCmd := s.soMemWrCmd ++ [.ofAddrLen s.memWrCmd.saddr s.memWrCmd.firstAccLen]
      fsmState := .fwd1stBuf }
  else s

/-- `MWR_FWD_ALIGNED`: chunks are forwarded up to the last one. -/
def mwrFwdAligned : MwrState ι :=
  match s.siData with
  | memChunk :: cs =>
      if k.data ∧ ¬k.memWrDataFull then
        { s with
          siData := cs
          soMemWrData := s.soMemWrData ++ [memChunk]
          fsmState := if memChunk.tlast then .idle else .fwdAligned }
      else s
  | [] => s

/-- The chunk at which the buffer ends, with its `tlast` and, when the end is inside the chunk,
its `tkeep`; and the second command. -/
def mwrCut (residueAfterSplit : Bool) (currChunk : AxisApp) : MwrState ι :=
  let memWrCmd := s.memWrCmd.second s.firstAccLen
  if s.nrBytesToWr = 8 then
    { s with
      memWrCmd := memWrCmd
      soMemWrCmd := s.soMemWrCmd ++ [memWrCmd]
      soMemWrData := s.soMemWrData ++ [currChunk.setTLast]
      fsmState := .fwdAligned }
  else
    { s with
      memWrCmd := memWrCmd
      soMemWrCmd := s.soMemWrCmd ++ [memWrCmd]
      soMemWrData := s.soMemWrData ++ [currChunk.setTLast.setTKeepLen s.nrBytesToWr.toNat]
      splitOffset := (8 - s.nrBytesToWr).setWidth 4
      fsmState := if residueAfterSplit ∧ currChunk.tlast then .residue else .fwd2ndBuf }

/-- `MWR_FWD_1ST_BUF`. The chunk is read and forwarded before the command stream is looked at:
when that is full at the end of the buffer, the chunk passes as it is. -/
def mwrFwd1stBuf (residueAfterSplit : Bool) : MwrState ι :=
  match s.siData with
  | currChunk :: cs =>
      if k.data ∧ ¬k.memWrDataFull then
        let s := { s with siData := cs, currChunk := currChunk }
        if s.nrBytesToWr > 8 then
          { s with
            nrBytesToWr := s.nrBytesToWr - 8
            soMemWrData := s.soMemWrData ++ [currChunk] }
        else if ¬k.memWrCmdFull then mwrCut s residueAfterSplit currChunk
        else { s with soMemWrData := s.soMemWrData ++ [currChunk] }
      else s
  | [] => s

/-- `MWR_FWD_2ND_BUF`: the last lanes of a chunk are joined with the first ones of the next. -/
def mwrFwd2ndBuf : MwrState ι :=
  match s.siData with
  | currChunk :: cs =>
      if k.data ∧ ¬k.memWrDataFull then
        let joinedChunk := join s.splitOffset.toNat s.currChunk currChunk
        let s := { s with siData := cs, currChunk := currChunk }
        if currChunk.tlast then
          if currChunk.getLen > s.nrBytesToWr.toNat then
            { s with soMemWrData := s.soMemWrData ++ [joinedChunk], fsmState := .residue }
          else
            { s with soMemWrData := s.soMemWrData ++ [joinedChunk.setTLast], fsmState := .idle }
        else { s with soMemWrData := s.soMemWrData ++ [joinedChunk] }
      else s
  | [] => s

/-- `MWR_RESIDUE`: the very last unaligned chunk. -/
def mwrResidue : MwrState ι :=
  if ¬k.memWrDataFull then
    { s with
      soMemWrData := s.soMemWrData ++ [residue s.splitOffset.toNat s.currChunk]
      fsmState := .idle }
  else s

end Step

/-- One call of a memory writer with the given `MWR_IDLE`. -/
def mwrStep {ι : Type} (idle : MwrState ι → MwrCycle → MwrState ι) (residueAfterSplit : Bool)
    (s : MwrState ι) (k : MwrCycle) : MwrState ι :=
  match s.fsmState with
  | .idle => idle s k
  | .split1stCmd => mwrSplit1stCmd s k
  | .fwdAligned => mwrFwdAligned s k
  | .fwd1stBuf => mwrFwd1stBuf s k residueAfterSplit
  | .fwd2ndBuf => mwrFwd2ndBuf s k
  | .residue => mwrResidue s k

/-! ### The slips -/

/-- The process is about to cut a chunk while the command stream is full; or, unless it goes to
the residue then, the chunk that it cuts unaligned is the last one of the segment. -/
def MwrSlip {ι : Type} (residueAfterSplit : Bool) (s : MwrState ι) (k : MwrCycle) : Prop :=
  s.fsmState = .fwd1stBuf ∧ k.data ∧ ¬k.memWrDataFull ∧ s.nrBytesToWr ≤ 8 ∧
    s.siData.head?.any fun c =>
      k.memWrCmdFull || (!residueAfterSplit && s.nrBytesToWr ≠ 8 && c.tlast)

instance {ι : Type} (residueAfterSplit : Bool) (s : MwrState ι) (k : MwrCycle) :
    Decidable (MwrSlip residueAfterSplit s k) :=
  inferInstanceAs (Decidable (_ ∧ _))

/-! ### What is still to be written -/

/-- The commands for a segment. -/
def mwrCmds (c : DmCmd) : List DmCmd :=
  if c.wraps then [c.first, c.second c.firstAccLen] else [c]

/-- The chunks for a segment. -/
def mwrData (c : DmCmd) (cs : List AxisApp) : List AxisApp :=
  if c.wraps then (splitData c.firstAccLen.toNat cs).1 ++ (splitData c.firstAccLen.toNat cs).2
  else cs

/-- The commands and the stream of a segment deliver its bytes. -/
theorem mwr_delivers {c : DmCmd} {cs : List AxisApp} (hwf : WellFormed cs)
    (hbtt : c.btt.toNat < toeBufferSize) (hlen : c.btt.toNat = (streamBytes cs).length) :
    Delivers c.saddr (streamBytes cs) (mwrCmds c) (mwrData c cs) := by
  unfold mwrCmds mwrData
  split
  · next hw =>
      have hf := c.toNat_firstAccLen (c.offset_ne_zero_of_wraps hw hbtt)
      have hoff := c.offset.isLt
      have hlt : c.firstAccLen.toNat < (streamBytes cs).length := by
        simp only [DmCmd.wraps, decide_eq_true_eq, gt_iff_lt] at hw
        omega
      have hpos : 1 ≤ c.firstAccLen.toNat := by
        unfold toeBufferSize at hf
        omega
      obtain ⟨h1, h2, hb1, hb2⟩ := splitData_spec hwf hpos hlt
      exact delivers_two hw hbtt hlen h1 h2 hb1 hb2
  · next hw => exact delivers_one hw hwf.isStream hlen

/-- A segment that the process can handle: a well-formed stream of as many bytes as the command
says, less than 64KB. -/
structure MwrJob (c : DmCmd) (cs : List AxisApp) : Prop where
  wf : WellFormed cs
  lt : c.btt.toNat < toeBufferSize
  len : c.btt.toNat = (streamBytes cs).length

/-- In a state of the process, the commands, the chunks and the split flags that it will still
write for the request with the command `c` and the flags `flags`. -/
inductive MwrAhead {ι : Type} (i : ι) (c : DmCmd) (flags : List Bool) (s : MwrState ι) :
    List DmCmd → List AxisApp → List Bool → Prop
  | start (hst : s.fsmState = .idle) (hcmd : s.siCmd = [i]) (hout : s.soMemWrCmd = [])
      (hdat : s.soMemWrData = []) (hjob : MwrJob c s.siData) :
      MwrAhead i c flags s (mwrCmds c) (mwrData c s.siData) flags
  | split1stCmd (hst : s.fsmState = .split1stCmd) (hcmd : s.siCmd = []) (hc : s.memWrCmd = c)
      (hout : s.soMemWrCmd = []) (hdat : s.soMemWrData = []) (hw : c.wraps)
      (hjob : MwrJob c s.siData) :
      MwrAhead i c flags s (mwrCmds c) (mwrData c s.siData) []
  | fwdAligned (hst : s.fsmState = .fwdAligned) (hcmd : s.siCmd = []) (hp : IsStream s.siData) :
      MwrAhead i c flags s [] s.siData []
  | fwd1stBuf (hst : s.fsmState = .fwd1stBuf) (hcmd : s.siCmd = []) (hc : s.memWrCmd = c)
      (hF : s.firstAccLen = c.firstAccLen) (hout : s.soMemWrCmd = [c.first])
      (hdat : ∀ d ∈ s.soMemWrData, d.tlast = false)
      (hsum : (streamBytes s.soMemWrData).length + s.nrBytesToWr.toNat = c.firstAccLen.toNat)
      (hwf : WellFormed s.siData) (hn : 1 ≤ s.nrBytesToWr.toNat)
      (hlt : s.nrBytesToWr.toNat < (streamBytes s.siData).length) :
      MwrAhead i c flags s [c.second c.firstAccLen]
        ((splitData s.nrBytesToWr.toNat s.siData).1 ++ (splitData s.nrBytesToWr.toNat s.siData).2)
        []
  | fwd2ndBuf (hst : s.fsmState = .fwd2ndBuf) (hcmd : s.siCmd = [])
      (hoff : s.splitOffset.toNat + s.nrBytesToWr.toNat = 8) (hprev : KeptFirst s.currChunk.lanes)
      (hwf : WellFormed s.siData) :
      MwrAhead i c flags s [] (realign s.splitOffset.toNat s.currChunk s.siData) []
  | residue (hst : s.fsmState = .residue) (hcmd : s.siCmd = []) (hdata : s.siData = []) :
      MwrAhead i c flags s [] [Toe.residue s.splitOffset.toNat s.currChunk] []
  | done (hst : s.fsmState = .idle) (hcmd : s.siCmd = []) (hdata : s.siData = []) :
      MwrAhead i c flags s [] [] []

/-- The invariant: what was written and what is still to be written make up the whole. -/
def MwrInv {ι : Type} (i : ι) (c : DmCmd) (flags : List Bool) (cs : List AxisApp)
    (s : MwrState ι) : Prop :=
  ∃ cmds data fl, MwrAhead i c flags s cmds data fl ∧ s.soMemWrCmd ++ cmds = mwrCmds c ∧
    s.soMemWrData ++ data = mwrData c cs ∧ s.soSplitSeg ++ fl = flags

/-- The cycles that the process still needs. -/
def mwrWork {ι : Type} (s : MwrState ι) : ℕ :=
  s.siData.length +
    match s.fsmState with
    | .idle => 3 * s.siCmd.length
    | .split1stCmd => 2
    | .fwdAligned => 0
    | .fwd1stBuf | .fwd2ndBuf | .residue => 1

/-- What `MWR_IDLE` does for a request `i` with the command `c`: it waits, or starts the command
and writes the flags. -/
structure MwrStarted {ι : Type} (c : DmCmd) (flags : List Bool) (s s' : MwrState ι) : Prop where
  fsmState : s'.fsmState = if c.wraps then .split1stCmd else .fwdAligned
  memWrCmd : s'.memWrCmd = c
  siCmd : s'.siCmd = []
  siData : s'.siData = s.siData
  soMemWrCmd : s'.soMemWrCmd = if c.wraps then s.soMemWrCmd else s.soMemWrCmd ++ [c]
  soMemWrData : s'.soMemWrData = s.soMemWrData
  soSplitSeg : s'.soSplitSeg = s.soSplitSeg ++ flags

/-- The specification of `MWR_IDLE`. -/
structure MwrIdleSpec {ι : Type} (idle : MwrState ι → MwrCycle → MwrState ι) (i : ι) (c : DmCmd)
    (flags : List Bool) : Prop where
  wait : ∀ s k, s.siCmd = [] → idle s k = s
  start : ∀ s k, s.siCmd = [i] →
    (idle s k = s ∧ k.ready = false) ∨ MwrStarted c flags s (idle s k)

/-! ### One call -/

section Progress

variable {ι : Type} {i : ι} {c : DmCmd} {flags : List Bool} {cs : List AxisApp} {s : MwrState ι}
  {k : MwrCycle} {res : Bool}

lemma wraps_iff_lt (hjob : MwrJob c s.siData) (hw : c.wraps) :
    1 ≤ c.firstAccLen.toNat ∧ c.firstAccLen.toNat < (streamBytes s.siData).length := by
  have hf := c.toNat_firstAccLen (c.offset_ne_zero_of_wraps hw hjob.lt)
  have hoff := c.offset.isLt
  have hlen := hjob.len
  simp only [DmCmd.wraps, decide_eq_true_eq, gt_iff_lt] at hw
  unfold toeBufferSize at hf hw
  omega

lemma not_ready_of_data (h : ¬(k.data = true ∧ ¬k.memWrDataFull = true)) : k.ready = false := by
  unfold MwrCycle.ready
  grind

/-- `MWR_IDLE` with a request. -/
lemma mwrIdle_progress {idle : MwrState ι → MwrCycle → MwrState ι}
    (hidle : MwrIdleSpec idle i c flags) (hinv : MwrInv i c flags cs s)
    (hst : s.fsmState = .idle) (hcmd : s.siCmd = [i]) (hout : s.soMemWrCmd = [])
    (hdat : s.soMemWrData = []) (hjob : MwrJob c s.siData)
    (hdata : s.soMemWrData ++ mwrData c s.siData = mwrData c cs)
    (hfl : s.soSplitSeg ++ flags = flags) :
    Clocked.Progress (MwrInv i c flags cs) mwrWork MwrCycle.ready s k (idle s k) := by
  obtain ⟨heq, hk⟩ | hs' := hidle.start s k hcmd
  · exact .stay hinv heq (.inl hk)
  · have hfst := hs'.fsmState
    have hcmds := hs'.soMemWrCmd
    by_cases hw : c.wraps
    · rw [if_pos hw] at hfst hcmds
      refine .move ⟨_, _, _, .split1stCmd hfst hs'.siCmd hs'.memWrCmd (hcmds.trans hout)
        (hs'.soMemWrData.trans hdat) hw (hs'.siData ▸ hjob), ?_, ?_, ?_⟩ ?_
      · rw [hcmds, hout, List.nil_append]
      · rw [hs'.soMemWrData, hs'.siData, hdata]
      · rw [hs'.soSplitSeg, hfl, List.append_nil]
      · simp [mwrWork, hfst, hst, hcmd, hs'.siData]
    · rw [if_neg hw] at hfst hcmds
      refine .move ⟨_, _, _, .fwdAligned hfst hs'.siCmd (hs'.siData ▸ hjob.wf.isStream), ?_, ?_,
        ?_⟩ ?_
      · rw [hcmds, hout, mwrCmds, if_neg hw, List.nil_append, List.append_nil]
      · rw [hs'.soMemWrData, hs'.siData, ← hdata, mwrData, if_neg hw]
      · rw [hs'.soSplitSeg, hfl, List.append_nil]
      · simp [mwrWork, hfst, hst, hcmd, hs'.siData]

/-- `MWR_SPLIT_1ST_CMD`. -/
lemma mwrSplit1stCmd_progress (hinv : MwrInv i c flags cs s) (hst : s.fsmState = .split1stCmd)
    (hcmd : s.siCmd = []) (hc : s.memWrCmd = c) (hout : s.soMemWrCmd = [])
    (hdat : s.soMemWrData = []) (hw : c.wraps) (hjob : MwrJob c s.siData)
    (hdata : s.soMemWrData ++ mwrData c s.siData = mwrData c cs)
    (hfl : s.soSplitSeg ++ [] = flags) :
    Clocked.Progress (MwrInv i c flags cs) mwrWork MwrCycle.ready s k (mwrSplit1stCmd s k) := by
  unfold mwrSplit1stCmd
  split
  · obtain ⟨hpos, hlt⟩ := wraps_iff_lt hjob hw
    rw [hc]
    refine .move ⟨_, _, _, .fwd1stBuf rfl hcmd rfl rfl (by simp [hout, DmCmd.first])
      (by simp [hdat]) (by simp [hdat]) hjob.wf hpos hlt, ?_, ?_, hfl⟩ (by simp [mwrWork, hst])
    · rw [mwrCmds, if_pos hw, hout]
      rfl
    · rw [← hdata, mwrData, if_pos hw]
  · next hk => exact .stay hinv rfl (.inl (by unfold MwrCycle.ready; grind))

/-- `MWR_FWD_ALIGNED`. -/
lemma mwrFwdAligned_progress (hinv : MwrInv i c flags cs s) (hst : s.fsmState = .fwdAligned)
    (hcmd : s.siCmd = []) (hp : IsStream s.siData) (hcmds : s.soMemWrCmd ++ [] = mwrCmds c)
    (hdata : s.soMemWrData ++ s.siData = mwrData c cs) (hfl : s.soSplitSeg ++ [] = flags) :
    Clocked.Progress (MwrInv i c flags cs) mwrWork MwrCycle.ready s k (mwrFwdAligned s k) := by
  unfold mwrFwdAligned
  split
  · next memChunk rest hsi =>
      split
      · rw [hsi] at hp hdata
        rw [List.append_cons] at hdata
        cases hlast : memChunk.tlast with
        | true =>
            have hnil := (isPacket_cons_of_last hlast).mp hp
            subst hnil
            exact .move ⟨_, _, _, .done rfl hcmd rfl, hcmds, hdata, hfl⟩
              (by simp [mwrWork, hst, hsi, hcmd])
        | false =>
            have hp' := (isPacket_cons_of_not_last hlast).mp hp
            exact .move ⟨_, _, _, .fwdAligned rfl hcmd hp', hcmds, hdata, hfl⟩
              (by simp [mwrWork, hst, hsi])
      · next hk => exact .stay hinv rfl (.inl (not_ready_of_data hk))
  · next hsi =>
      rw [hsi] at hp
      exact absurd hp id

/-- Where the process cuts a chunk without a slip, the command stream has room, and an unaligned
cut of the last chunk only happens when the process goes to the residue then. -/
lemma not_mwrSlip (hslip : ¬MwrSlip res s k) (hst : s.fsmState = .fwd1stBuf)
    {currChunk : AxisApp} {rest : List AxisApp} (hsi : s.siData = currChunk :: rest)
    (hk : k.data = true ∧ ¬k.memWrDataFull = true) (h8 : s.nrBytesToWr ≤ 8) :
    k.memWrCmdFull = false ∧
      (s.nrBytesToWr ≠ 8 → res = true ∨ currChunk.tlast = false) := by
  have hany : ¬s.siData.head?.any fun c =>
      k.memWrCmdFull || (!res && s.nrBytesToWr ≠ 8 && c.tlast) :=
    fun h => hslip ⟨hst, hk.1, hk.2, h8, h⟩
  rw [hsi] at hany
  simp only [List.head?_cons, Option.any_some, Bool.or_eq_true, not_or, Bool.and_eq_true,
    decide_eq_true_eq, Bool.not_eq_true', not_and, Bool.not_eq_true] at hany
  refine ⟨hany.1, fun hne => ?_⟩
  cases res with
  | true => exact .inl rfl
  | false => exact .inr (hany.2 ⟨rfl, hne⟩)

/-- `MWR_FWD_1ST_BUF`, without a slip. -/
lemma mwrFwd1stBuf_progress (hinv : MwrInv i c flags cs s) (hslip : ¬MwrSlip res s k)
    (hst : s.fsmState = .fwd1stBuf) (hcmd : s.siCmd = []) (hc : s.memWrCmd = c)
    (hF : s.firstAccLen = c.firstAccLen) (hout : s.soMemWrCmd = [c.first])
    (hdat : ∀ d ∈ s.soMemWrData, d.tlast = false)
    (hsum : (streamBytes s.soMemWrData).length + s.nrBytesToWr.toNat = c.firstAccLen.toNat)
    (hwf : WellFormed s.siData) (hn : 1 ≤ s.nrBytesToWr.toNat)
    (hlt : s.nrBytesToWr.toNat < (streamBytes s.siData).length)
    (hcmds : s.soMemWrCmd ++ [c.second c.firstAccLen] = mwrCmds c)
    (hdata : s.soMemWrData ++ ((splitData s.nrBytesToWr.toNat s.siData).1
      ++ (splitData s.nrBytesToWr.toNat s.siData).2) = mwrData c cs)
    (hfl : s.soSplitSeg ++ [] = flags) :
    Clocked.Progress (MwrInv i c flags cs) mwrWork MwrCycle.ready s k (mwrFwd1stBuf s k res) := by
  unfold mwrFwd1stBuf
  split
  · next currChunk rest hsi =>
      rw [hsi] at hwf hlt hdata
      split
      · next hk =>
          have hnr : s.nrBytesToWr > 8 ↔ s.nrBytesToWr.toNat > 8 := Iff.rfl
          dsimp only
          split
          · next h8 =>
              -- a chunk of the first buffer
              have h8' := hnr.mp h8
              have hlast : currChunk.tlast = false := by
                by_contra hl
                have hnil := hwf.tail_eq_nil (by simpa using hl)
                have hle := currChunk.length_bytes_le
                subst hnil
                rw [streamBytes_cons, streamBytes_nil, List.append_nil] at hlt
                omega
              have hlen := length_bytes_eq hwf.head hlast
              have hsub : (s.nrBytesToWr - 8).toNat = s.nrBytesToWr.toNat - 8 :=
                BitVec.toNat_sub_of_le (BitVec.le_of_lt h8)
              rw [splitData, if_pos h8', List.cons_append, List.append_cons] at hdata
              rw [streamBytes_cons, List.length_append] at hlt
              refine .move ⟨_, _, _, .fwd1stBuf hst hcmd hc hF hout ?_ ?_ (hwf.tail hlast) ?_ ?_,
                hcmds, ?_, hfl⟩ (by simp [mwrWork, hst, hsi])
              · intro d hd
                obtain hd | hd := List.mem_append.mp hd
                · exact hdat d hd
                · rw [List.mem_singleton.mp hd]
                  exact hlast
              · dsimp only
                rw [streamBytes_append, List.length_append, streamBytes_cons, streamBytes_nil,
                  List.append_nil, hsub]
                omega
              · dsimp only
                omega
              · dsimp only
                omega
              · dsimp only
                rw [hsub, hdata]
          · next h8 =>
              -- the chunk at which the buffer ends
              have h8' : ¬s.nrBytesToWr.toNat > 8 := fun h => h8 (hnr.mpr h)
              obtain ⟨hfull, hgo⟩ := not_mwrSlip hslip hst hsi hk (BitVec.not_lt.mp h8)
              rw [if_pos (by simp [hfull])]
              rw [splitData, if_neg h8'] at hdata
              unfold mwrCut
              dsimp only
              have heq8 : s.nrBytesToWr = 8 ↔ s.nrBytesToWr.toNat = 8 :=
                ⟨fun h => by rw [h]; rfl, fun h => BitVec.eq_of_toNat_eq h⟩
              rw [hc, hF]
              split
              · next heq =>
                  rw [if_pos (heq8.mp heq), ← List.append_assoc] at hdata
                  have hlast : currChunk.tlast = false := by
                    by_contra hl
                    have hnil := hwf.tail_eq_nil (by simpa using hl)
                    have hle := currChunk.length_bytes_le
                    have h88 := heq8.mp heq
                    subst hnil
                    rw [streamBytes_cons, streamBytes_nil, List.append_nil] at hlt
                    omega
                  exact .move ⟨_, _, _, .fwdAligned rfl hcmd (hwf.tail hlast).isStream,
                    by simpa using hcmds, hdata, hfl⟩ (by simp [mwrWork, hst, hsi])
              · next hne =>
                  have hne' : s.nrBytesToWr.toNat ≠ 8 := fun h => hne (heq8.mpr h)
                  rw [if_neg hne', ← List.append_assoc] at hdata
                  have hoff : ((8 - s.nrBytesToWr).setWidth 4).toNat
                      = 8 - s.nrBytesToWr.toNat := by
                    have hsub : (8 - s.nrBytesToWr).toNat = 8 - s.nrBytesToWr.toNat :=
                      BitVec.toNat_sub_of_le (BitVec.not_lt.mp h8)
                    rw [BitVec.toNat_setWidth, hsub]
                    omega
                  cases hlast : currChunk.tlast with
                  | true =>
                      have hnil := hwf.tail_eq_nil hlast
                      subst hnil
                      have hres : res = true := (hgo hne).resolve_right (by simp [hlast])
                      rw [if_pos hlast, ← hoff] at hdata
                      exact .move ⟨_, _, _, .residue (by simp [hres]) hcmd rfl,
                        by simpa using hcmds, hdata, hfl⟩ (by simp [mwrWork, hst, hsi, hres])
                  | false =>
                      rw [if_neg (by simp [hlast]), ← hoff] at hdata
                      exact .move ⟨_, _, _, .fwd2ndBuf (by simp) hcmd
                        (by dsimp only; rw [hoff]; omega) (keptFirst_of_isValid hwf.head)
                        (hwf.tail hlast), by simpa using hcmds, hdata, hfl⟩
                        (by simp [mwrWork, hst, hsi])
      · next hk => exact .stay hinv rfl (.inl (not_ready_of_data hk))
  · next hsi =>
      rw [hsi] at hwf
      exact absurd hwf.isStream id

/-- `MWR_FWD_2ND_BUF`. -/
lemma mwrFwd2ndBuf_progress (hinv : MwrInv i c flags cs s) (hst : s.fsmState = .fwd2ndBuf)
    (hcmd : s.siCmd = []) (hoff : s.splitOffset.toNat + s.nrBytesToWr.toNat = 8)
    (hwf : WellFormed s.siData) (hcmds : s.soMemWrCmd ++ [] = mwrCmds c)
    (hdata : s.soMemWrData ++ realign s.splitOffset.toNat s.currChunk s.siData = mwrData c cs)
    (hfl : s.soSplitSeg ++ [] = flags) :
    Clocked.Progress (MwrInv i c flags cs) mwrWork MwrCycle.ready s k (mwrFwd2ndBuf s k) := by
  unfold mwrFwd2ndBuf
  split
  · next currChunk rest hsi =>
      rw [hsi] at hwf hdata
      split
      · have hcur := keptFirst_of_isValid hwf.head
        dsimp only
        rw [realign, show 8 - s.splitOffset.toNat = s.nrBytesToWr.toNat by omega] at hdata
        split
        · next hlast =>
            rw [if_pos hlast] at hdata
            have hnil := hwf.tail_eq_nil hlast
            subst hnil
            split
            · next hlen =>
                rw [if_pos hlen, List.append_cons] at hdata
                exact .move ⟨_, _, _, .residue rfl hcmd rfl, hcmds, hdata, hfl⟩
                  (by simp [mwrWork, hst, hsi])
            · next hlen =>
                rw [if_neg hlen] at hdata
                exact .move ⟨_, _, _, .done rfl hcmd rfl, hcmds, by simpa using hdata, hfl⟩
                  (by simp [mwrWork, hst, hsi, hcmd])
        · next hlast =>
            rw [if_neg hlast, List.append_cons] at hdata
            have hwf' := hwf.tail (by simpa using hlast)
            exact .move ⟨_, _, _, .fwd2ndBuf hst hcmd hoff hcur hwf', hcmds, hdata, hfl⟩
              (by simp [mwrWork, hst, hsi])
      · next hk => exact .stay hinv rfl (.inl (not_ready_of_data hk))
  · next hsi =>
      rw [hsi] at hwf
      exact absurd hwf.isStream id

/-- `MWR_RESIDUE`. -/
lemma mwrResidue_progress (hinv : MwrInv i c flags cs s) (hst : s.fsmState = .residue)
    (hcmd : s.siCmd = []) (hsi : s.siData = []) (hcmds : s.soMemWrCmd ++ [] = mwrCmds c)
    (hdata : s.soMemWrData ++ [residue s.splitOffset.toNat s.currChunk] = mwrData c cs)
    (hfl : s.soSplitSeg ++ [] = flags) :
    Clocked.Progress (MwrInv i c flags cs) mwrWork MwrCycle.ready s k (mwrResidue s k) := by
  unfold mwrResidue
  split
  · exact .move ⟨_, _, _, .done rfl hcmd hsi, hcmds, by simpa using hdata, hfl⟩
      (by simp [mwrWork, hst, hcmd])
  · next hk => exact .stay hinv rfl (.inl (by unfold MwrCycle.ready; grind))

/-- One call without a slip keeps the invariant, and makes progress when nothing blocks it. -/
lemma mwrStep_progress {idle : MwrState ι → MwrCycle → MwrState ι}
    (hidle : MwrIdleSpec idle i c flags) (hinv : MwrInv i c flags cs s)
    (hslip : ¬MwrSlip res s k) :
    Clocked.Progress (MwrInv i c flags cs) mwrWork MwrCycle.ready s k (mwrStep idle res s k) := by
  have hinv' := hinv
  obtain ⟨cmds, data, fl, ha, hcmds, hdata, hfl⟩ := hinv
  unfold mwrStep
  cases ha with
  | start hst hcmd hout hdat hjob =>
      rw [hst]
      exact mwrIdle_progress hidle hinv' hst hcmd hout hdat hjob hdata hfl
  | split1stCmd hst hcmd hc hout hdat hw hjob =>
      rw [hst]
      exact mwrSplit1stCmd_progress hinv' hst hcmd hc hout hdat hw hjob hdata hfl
  | fwdAligned hst hcmd hp =>
      rw [hst]
      exact mwrFwdAligned_progress hinv' hst hcmd hp hcmds hdata hfl
  | fwd1stBuf hst hcmd hc hF hout hdat hsum hwf hn hlt =>
      rw [hst]
      exact mwrFwd1stBuf_progress hinv' hslip hst hcmd hc hF hout hdat hsum hwf hn hlt hcmds hdata
        hfl
  | fwd2ndBuf hst hcmd hoff hprev hwf =>
      rw [hst]
      exact mwrFwd2ndBuf_progress hinv' hst hcmd hoff hwf hcmds hdata hfl
  | residue hst hcmd hsi =>
      rw [hst]
      exact mwrResidue_progress hinv' hst hcmd hsi hcmds hdata hfl
  | done hst hcmd hsi =>
      rw [hst]
      exact .stay hinv' (hidle.wait s k hcmd) (.inr (by simp [mwrWork, hst, hcmd, hsi]))

/-- The segment is written: the process is idle again, has consumed its inputs and written all
commands, chunks and flags. -/
structure MwrDone (c : DmCmd) (flags : List Bool) (cs : List AxisApp) (s : MwrState ι) : Prop where
  fsmState : s.fsmState = .idle
  siCmd : s.siCmd = []
  siData : s.siData = []
  soMemWrCmd : s.soMemWrCmd = mwrCmds c
  soMemWrData : s.soMemWrData = mwrData c cs
  soSplitSeg : s.soSplitSeg = flags

/-- Without work left the segment is written. -/
lemma mwr_done (hinv : MwrInv i c flags cs s) (hw : mwrWork s = 0) : MwrDone c flags cs s := by
  obtain ⟨cmds, data, fl, ha, hcmds, hdata, hfl⟩ := hinv
  unfold mwrWork at hw
  cases ha with
  | start hst hcmd hout hdat hjob => simp [hst, hcmd] at hw
  | split1stCmd hst hcmd hc hout hdat hwr hjob => simp [hst] at hw
  | fwdAligned hst hcmd hp =>
      have hnil := List.eq_nil_of_length_eq_zero (Nat.eq_zero_of_add_eq_zero hw).1
      rw [hnil] at hp
      exact absurd hp id
  | fwd1stBuf hst hcmd hc hF hout hdat hsum hwf hn hlt => simp [hst] at hw
  | fwd2ndBuf hst hcmd hoff hprev hwf => simp [hst] at hw
  | residue hst hcmd hsi => simp [hst] at hw
  | done hst hcmd hsi =>
      rw [List.append_nil] at hcmds hdata hfl
      exact ⟨hst, hcmd, hsi, hcmds, hdata, hfl⟩

end Progress

/-! ### After a slip -/

/-- What can be seen of a slip ever after: the first stream is at least as long as its command
says and was not ended, or it is longer, or the process waits for a chunk that does not come. -/
inductive MwrBroken {ι : Type} (s : MwrState ι) : Prop
  | notEnded (c₁ : DmCmd) (hst : s.fsmState = .fwd1stBuf) (hcmd : s.siCmd = [])
      (hout : s.soMemWrCmd = [c₁]) (hdat : ∀ d ∈ s.soMemWrData, d.tlast = false)
      (hlen : c₁.btt.toNat ≤ (streamBytes s.soMemWrData).length)
      (hn : 1 ≤ s.nrBytesToWr.toNat) (h8 : s.nrBytesToWr.toNat ≤ 8)
      (hval : ∀ d ∈ s.siData, d.isValid)
  | tooLong (c₁ : DmCmd) (cmds : List DmCmd) (pre suf : List AxisApp) (hcmd : s.siCmd = [])
      (hout : s.soMemWrCmd = c₁ :: cmds) (hdat : s.soMemWrData = pre ++ suf)
      (hpre : ∀ d ∈ pre.dropLast, d.tlast = false)
      (hlen : c₁.btt.toNat < (streamBytes pre).length)
  | waiting (hst : s.fsmState = .fwd2ndBuf) (hsi : s.siData = [])

section Broken

variable {ι : Type} {i : ι} {c : DmCmd} {flags : List Bool} {cs : List AxisApp} {s : MwrState ι}
  {k : MwrCycle} {res : Bool} {idle : MwrState ι → MwrCycle → MwrState ι}

/-- A broken process does not deliver. -/
lemma MwrBroken.not_delivers (h : MwrBroken s) {saddr : BitVec 40} {bytes : List Byte} :
    ¬(s.fsmState = .idle ∧ Delivers saddr bytes s.soMemWrCmd s.soMemWrData) := by
  rintro ⟨hst', hdel⟩
  cases h with
  | notEnded c₁ hst => simp [hst] at hst'
  | tooLong c₁ cmds pre suf hcmd hout hdat hpre hlen =>
      rw [hout, hdat] at hdel
      exact not_delivers_of_overlong hpre hlen hdel
  | waiting hst => simp [hst] at hst'

/-- Without a request, a call only appends to the outputs. -/
lemma mwrStep_append (hidle : MwrIdleSpec idle i c flags) (hcmd : s.siCmd = []) :
    (mwrStep idle res s k).siCmd = [] ∧
      (∃ cmds, (mwrStep idle res s k).soMemWrCmd = s.soMemWrCmd ++ cmds) ∧
      ∃ data, (mwrStep idle res s k).soMemWrData = s.soMemWrData ++ data := by
  have hself : s.siCmd = [] ∧ (∃ cmds, s.soMemWrCmd = s.soMemWrCmd ++ cmds) ∧
      ∃ data, s.soMemWrData = s.soMemWrData ++ data := ⟨hcmd, ⟨[], (List.append_nil _).symm⟩, ⟨[], (List.append_nil _).symm⟩⟩
  unfold mwrStep
  split
  · rw [hidle.wait s k hcmd]
    exact hself
  · unfold mwrSplit1stCmd
    split
    · exact ⟨hcmd, ⟨_, rfl⟩, ⟨[], (List.append_nil _).symm⟩⟩
    · exact hself
  · unfold mwrFwdAligned
    split
    · split
      · exact ⟨hcmd, ⟨[], (List.append_nil _).symm⟩, ⟨_, rfl⟩⟩
      · exact hself
    · exact hself
  · unfold mwrFwd1stBuf mwrCut
    dsimp only
    split
    · split_ifs <;> first | exact hself | exact ⟨hcmd, ⟨[], (List.append_nil _).symm⟩, ⟨_, rfl⟩⟩ |
        exact ⟨hcmd, ⟨_, rfl⟩, ⟨_, rfl⟩⟩
    · exact hself
  · unfold mwrFwd2ndBuf
    dsimp only
    split
    · split_ifs <;> first | exact hself | exact ⟨hcmd, ⟨[], (List.append_nil _).symm⟩, ⟨_, rfl⟩⟩
    · exact hself
  · unfold mwrResidue
    split
    · exact ⟨hcmd, ⟨[], (List.append_nil _).symm⟩, ⟨_, rfl⟩⟩
    · exact hself

/-- What is broken stays broken. -/
lemma MwrBroken.step (hidle : MwrIdleSpec idle i c flags) (h : MwrBroken s) :
    MwrBroken (mwrStep idle res s k) := by
  have hb := h
  cases h with
  | tooLong c₁ cmds pre suf hcmd hout hdat hpre hlen =>
      obtain ⟨hcmd', ⟨cmds', hout'⟩, ⟨data', hdat'⟩⟩ := mwrStep_append (k := k) hidle hcmd
      refine .tooLong c₁ (cmds ++ cmds') pre (suf ++ data') hcmd' ?_ ?_ hpre hlen
      · rw [hout', hout, List.cons_append]
      · rw [hdat', hdat, List.append_assoc]
  | waiting hst hsi =>
      have hstay : mwrStep idle res s k = s := by simp [mwrStep, hst, mwrFwd2ndBuf, hsi]
      rw [hstay]
      exact hb
  | notEnded c₁ hst hcmd hout hdat hlen hn h8 hval =>
      have hnr : ¬s.nrBytesToWr > 8 := fun hgt => by
        have hgt' : s.nrBytesToWr.toNat > 8 := hgt
        omega
      -- whatever is forwarded next makes the first stream too long
      have hlong : ∀ (d : AxisApp) (cmds : List DmCmd) (s' : MwrState ι), 1 ≤ d.bytes.length →
          s'.siCmd = [] → s'.soMemWrCmd = c₁ :: cmds → s'.soMemWrData = s.soMemWrData ++ [d] →
            MwrBroken s' := by
        intro d cmds s' hd hcmd' hout' hdat'
        refine .tooLong c₁ cmds (s.soMemWrData ++ [d]) [] hcmd' hout' (by simp [hdat']) ?_ ?_
        · simpa using hdat
        · rw [streamBytes_append, List.length_append, streamBytes_cons, streamBytes_nil,
            List.append_nil]
          omega
      simp only [mwrStep, hst, mwrFwd1stBuf]
      split
      · next d rest hsi =>
          have hd := one_le_length_bytes (hval d (by rw [hsi]; exact List.mem_cons_self))
          split
          · split
            · unfold mwrCut
              dsimp only
              split
              · exact hlong d.setTLast _ _ hd hcmd (by rw [hout]; rfl) rfl
              · refine hlong (d.setTLast.setTKeepLen s.nrBytesToWr.toNat) _ _ ?_ hcmd
                  (by rw [hout]; rfl) rfl
                rw [length_bytes_setTKeepLen h8]
                exact hn
            · exact hlong d [] _ hd hcmd hout rfl
          · exact hb
      · exact hb

/-- A slip breaks the process. -/
lemma MwrSlip.broken (hinv : MwrInv i c flags cs s) (hslip : MwrSlip res s k) :
    MwrBroken (mwrStep idle res s k) := by
  obtain ⟨hst, hdata, hfull, h8, hany⟩ := hslip
  obtain ⟨cmds, data, fl, ha, -, -, -⟩ := hinv
  have hnr : ¬s.nrBytesToWr > 8 := BitVec.not_lt.mpr h8
  have h8' : s.nrBytesToWr.toNat ≤ 8 := h8
  cases ha with
  | start hst' => exact absurd (hst.symm.trans hst') (by simp)
  | split1stCmd hst' => exact absurd (hst.symm.trans hst') (by simp)
  | fwdAligned hst' => exact absurd (hst.symm.trans hst') (by simp)
  | fwd2ndBuf hst' => exact absurd (hst.symm.trans hst') (by simp)
  | residue hst' => exact absurd (hst.symm.trans hst') (by simp)
  | done hst' => exact absurd (hst.symm.trans hst') (by simp)
  | fwd1stBuf _ hcmd hc hF hout hdat hsum hwf hn hlt =>
      have hbtt := c.toNat_btt_first
      simp only [mwrStep, hst, mwrFwd1stBuf]
      split
      · next d rest hsi =>
          rw [hsi] at hwf hlt hany
          rw [if_pos ⟨hdata, hfull⟩, if_neg hnr]
          have hpos := one_le_length_bytes hwf.head
          split
          · next hroom =>
              -- the last chunk is cut unaligned, and the process waits for another one
              have hres : res = false ∧ s.nrBytesToWr ≠ 8 ∧ d.tlast = true := by
                simpa [hroom, and_assoc] using hany
              obtain ⟨rfl, hne, hlast⟩ := hres
              rw [mwrCut, if_neg hne]
              exact .waiting (by simp) (hwf.tail_eq_nil hlast)
          · -- the chunk passes as it is
            cases hlast : d.tlast with
            | true =>
                have hnil := hwf.tail_eq_nil hlast
                subst hnil
                rw [streamBytes_cons, streamBytes_nil, List.append_nil] at hlt
                refine .tooLong c.first [] (s.soMemWrData ++ [d]) [] hcmd hout (by simp) ?_ ?_
                · simpa using hdat
                · rw [streamBytes_append, List.length_append, streamBytes_cons, streamBytes_nil,
                    List.append_nil]
                  omega
            | false =>
                have hlen := length_bytes_eq hwf.head hlast
                refine .notEnded c.first rfl hcmd hout ?_ ?_ hn h8' ?_
                · intro x hx
                  obtain hx | hx := List.mem_append.mp hx
                  · exact hdat x hx
                  · rw [List.mem_singleton.mp hx]
                    exact hlast
                · dsimp only
                  rw [streamBytes_append, List.length_append, streamBytes_cons, streamBytes_nil,
                    List.append_nil]
                  omega
                · exact fun x hx => hwf.isValid x (List.mem_cons_of_mem d hx)
      · next hsi => simp [hsi] at hany

/-! ### Whole segments -/

/-- A state in which a request and its stream wait for the process. -/
structure MwrReady (i : ι) (s : MwrState ι) : Prop where
  fsmState : s.fsmState = .idle
  siCmd : s.siCmd = [i]
  soMemWrCmd : s.soMemWrCmd = []
  soMemWrData : s.soMemWrData = []
  soSplitSeg : s.soSplitSeg = []

lemma MwrReady.inv (h : MwrReady i s) (hjob : MwrJob c s.siData) :
    MwrInv i c flags s.siData s :=
  ⟨_, _, _, .start h.fsmState h.siCmd h.soMemWrCmd h.soMemWrData hjob, by simp [h.soMemWrCmd],
    by simp [h.soMemWrData], by simp [h.soSplitSeg]⟩

/-- Without a slip the process keeps its invariant, and every cycle that does not block it takes
some of its work. -/
lemma mwr_run (hidle : MwrIdleSpec idle i c flags) (hs : MwrReady i s) (hjob : MwrJob c s.siData)
    {ks : List MwrCycle}
    (hgood : Clocked.Along (mwrStep idle res) (fun s k => ¬MwrSlip res s k) s ks) :
    MwrInv i c flags s.siData (Clocked.run (mwrStep idle res) s ks) ∧
      mwrWork (Clocked.run (mwrStep idle res) s ks) ≤
        s.siData.length + 3 - ks.countP MwrCycle.ready := by
  have hinit : mwrWork s = s.siData.length + 3 := by simp [mwrWork, hs.fsmState, hs.siCmd]
  rw [← hinit]
  exact Clocked.run_work (fun _ _ hi hk => mwrStep_progress hidle hi hk) (hs.inv hjob) hgood

/-- A segment that is processed without a slip is written once enough cycles did not block the
process. -/
theorem mwr_run_done (hidle : MwrIdleSpec idle i c flags) (hs : MwrReady i s)
    (hjob : MwrJob c s.siData) {ks : List MwrCycle}
    (hready : s.siData.length + 3 ≤ ks.countP MwrCycle.ready)
    (hgood : Clocked.Along (mwrStep idle res) (fun s k => ¬MwrSlip res s k) s ks) :
    MwrDone c flags s.siData (Clocked.run (mwrStep idle res) s ks) := by
  obtain ⟨hinv, hwork⟩ := mwr_run hidle hs hjob hgood
  exact mwr_done hinv (by omega)

/-- A slip leaves its mark on the rest of the run. -/
theorem mwr_run_broken (hidle : MwrIdleSpec idle i c flags) (hs : MwrReady i s)
    (hjob : MwrJob c s.siData) {ks : List MwrCycle}
    (hbad : ¬Clocked.Along (mwrStep idle res) (fun s k => ¬MwrSlip res s k) s ks) :
    MwrBroken (Clocked.run (mwrStep idle res) s ks) := by
  obtain ⟨ls, k, ms, rfl, hgood, hslip⟩ := Clocked.exists_first_break hbad
  obtain ⟨hinv, -⟩ := mwr_run hidle hs hjob hgood
  rw [Clocked.run_append, Clocked.run_cons]
  exact Clocked.run_inv (C := fun _ _ => True) (fun _ _ h _ => h.step hidle)
    (MwrSlip.broken hinv (not_not.mp hslip)) (Clocked.along_trivial ..)

/-- The process is idle again with all inputs consumed, and what it wrote delivers the bytes of
the stream from `saddr` on. -/
structure MwrDelivered (saddr : BitVec 40) (cs : List AxisApp) (s : MwrState ι) : Prop where
  fsmState : s.fsmState = .idle
  siCmd : s.siCmd = []
  siData : s.siData = []
  delivers : Delivers saddr (streamBytes cs) s.soMemWrCmd s.soMemWrData

/-- Whatever the schedule, once enough cycles did not block the process the segment is delivered
exactly when no slip happened. -/
theorem mwr_delivers_iff (hidle : MwrIdleSpec idle i c flags) (hs : MwrReady i s)
    (hjob : MwrJob c s.siData) {ks : List MwrCycle}
    (hready : s.siData.length + 3 ≤ ks.countP MwrCycle.ready) :
    MwrDelivered c.saddr s.siData (Clocked.run (mwrStep idle res) s ks) ↔
      Clocked.Along (mwrStep idle res) (fun s k => ¬MwrSlip res s k) s ks := by
  constructor
  · intro h
    by_contra hbad
    exact (mwr_run_broken hidle hs hjob hbad).not_delivers ⟨h.fsmState, h.delivers⟩
  · intro hgood
    have hdone := mwr_run_done hidle hs hjob hready hgood
    refine ⟨hdone.fsmState, hdone.siCmd, hdone.siData, ?_⟩
    rw [hdone.soMemWrCmd, hdone.soMemWrData]
    exact mwr_delivers hjob.wf hjob.lt hjob.len

end Broken

end CloudFpga.Toe
