import CloudFpga.Icmp.EchoServer

/-!
The flow of the packets through the echo service.

* `IccInv`, `IccMove`: what the checker will write for the packets that are still to come, and what
  a call of it does.
* `IpdMove`, `IciInv.moves`: what a call of the dropper and one of the inserter do.
* `EchoCounts`: a verdict is on its way for each packet in `ssICcToIPd_Data`, a checksum for each
  packet that is kept, and the FIFO is deep enough for a packet that waits for its verdict.
* `EchoInv`: the three processes in line, each with what the one before it will write.
-/

namespace CloudFpga.Icmp

open Foundation AxisRaw Toe Uoe

/-! ### The checker -/

/-- A packet that fits into `ssICcToIPd_Data`. -/
structure Fits (cs : List AxisIp4) : Prop where
  wellFormed : WellFormed cs
  header : 20 ≤ (streamBytes cs).length
  depth : cs.length ≤ 64

/-- All that is written for several packets. -/
def echoOuts (qs : List (List AxisIp4)) : IccOut := qs.foldr (fun cs o => echoOut cs ++ o) {}

section Outs

variable (cs : List AxisIp4) (qs : List (List AxisIp4))

lemma echoOuts_cons : echoOuts (cs :: qs) = echoOut cs ++ echoOuts qs := rfl

lemma echoOuts_data : (echoOuts qs).soIPdData = qs.flatMap echoData := by
  induction qs with
  | nil => rfl
  | cons cs qs ih =>
      rw [echoOuts_cons, IccOut.append_data, ih, List.flatMap_cons]
      rfl

lemma echoOuts_cmd :
    (echoOuts qs).soIPdDropCmd = qs.map fun cs => dropCmd (decide (Passes cs)) := by
  induction qs with
  | nil => rfl
  | cons cs qs ih =>
      have hcs : (echoOut cs).soIPdDropCmd = [dropCmd (decide (Passes cs))] := by
        by_cases h : Passes cs <;> simp [echoOut, dropCmd, h]
      rw [echoOuts_cons, IccOut.append_cmd, ih, hcs]
      rfl

lemma echoOuts_csum :
    (echoOuts qs).soICiCsum = (qs.filter fun cs => Passes cs).map echoCsum := by
  induction qs with
  | nil => rfl
  | cons cs qs ih =>
      rw [echoOuts_cons, IccOut.append_csum, ih]
      by_cases h : Passes cs <;> simp [echoOut, h]

end Outs

/-- How many chunks of the packet have been written at most. -/
def iccWritten (s : IccState) : ℕ := if s.writeLastOne then 63 else s.chunkCount.toNat - 1

/-- All chunks of a packet have been written, but no verdict. -/
def iccBusy (s : IccState) : Bool := s.computeCs && !s.writeLastOne

/-- The calls that are left for the checksum. -/
def IccFsm.left : IccFsm → ℕ
  | .s0 => 4
  | .s1 => 3
  | .s2 => 2
  | .s3 => 1

/-- The calls that are left for a packet that has been read; the one that writes counts three times,
since a chunk is passed on twice behind it. -/
def iccPending (s : IccState) : ℕ :=
  (if s.writeLastOne then 3 else 0) + if s.computeCs then s.csumState.left else 0

/-- What a call of the checker does. -/
inductive IccMove (s : IccState) : List AxisIp4 → IccState → List AxisIp4 → IccOut → Prop
  | wait (hw : s.writeLastOne = false) (hc : s.computeCs = false) : IccMove s [] s [] {}
  | read {c : AxisIp4} {cs : List AxisIp4} {s' : IccState} {d : List AxisIp4}
      (hc : s.computeCs = false) (hd : ∀ x ∈ d, x.tlast = false) (hlen : d.length ≤ 1)
      (hbusy : iccBusy s' = false) (hwritten : iccWritten s + d.length ≤ iccWritten s')
      (hpending : iccPending s' ≤ 7) : IccMove s (c :: cs) s' cs { soIPdData := d }
  | write {cs : List AxisIp4} {s' : IccState} {c : AxisIp4} (hw : s.writeLastOne = true)
      (hc : c.tlast = true) (hbusy : iccBusy s' = true) (hpending : iccPending s' + 3 = iccPending s) :
      IccMove s cs s' cs { soIPdData := [c] }
  | compute {cs : List AxisIp4} {s' : IccState} (hbusy : iccBusy s = true)
      (hbusy' : iccBusy s' = true) (hwritten : iccWritten s' = iccWritten s)
      (hpending : iccPending s' + 1 = iccPending s) : IccMove s cs s' cs {}
  | verdict {cs : List AxisIp4} {s' : IccState} (keep : Bool) {csum : IcmpCsum}
      (hbusy : iccBusy s = true) (hbusy' : iccBusy s' = false)
      (hwritten : iccWritten s' = iccWritten s) (hpending : iccPending s' + 1 = iccPending s) :
      IccMove s cs s' cs
        { soIPdDropCmd := [dropCmd keep], soICiCsum := if keep then [csum] else [] }

/-- What the checker will write for the chunks that are still to come. -/
inductive IccInv : IccState → List AxisIp4 → IccOut → Prop
  | idle {s : IccState} {qs : List (List AxisIp4)} (hqs : ∀ cs ∈ qs, Fits cs) (hs : IccIdle s) :
      IccInv s qs.flatten (echoOuts qs)
  | mid {s : IccState} {cs : List AxisIp4} {qs : List (List AxisIp4)} (hqs : ∀ cs ∈ qs, Fits cs)
      (hw : s.writeLastOne = false) (hc : s.computeCs = false) (hs : s.csumState = .s0)
      (hprev : s.prevChunk.tlast = false) (hcs : IsStream cs)
      (hlen : s.chunkCount.toNat + cs.length ≤ 64) :
      IccInv s (cs ++ qs.flatten) (iccDrain s cs ++ echoOuts qs)
  | last {s : IccState} {qs : List (List AxisIp4)} (hqs : ∀ cs ∈ qs, Fits cs)
      (hc : s.computeCs = true) (hk : s.chunkCount = 0)
      (hprev : s.writeLastOne = true → s.prevChunk.tlast = true) :
      IccInv s qs.flatten (iccFlush s ++ echoOuts qs)

section Checker

variable {s : IccState}

/-- A call that reads keeps the flags, and it forwards one chunk that is not the last one; but at the
first chunk of a packet there is nothing to forward. -/
lemma iccRead_spec (s : IccState) (c : AxisIp4)
    (hprev : s.chunkCount ≠ 0 → s.prevChunk.tlast = false) :
    ∃ s' c' d, iccRead s c = (iccNext s' c', { soIPdData := d }) ∧ c'.tlast = c.tlast ∧
      s'.writeLastOne = s.writeLastOne ∧ s'.computeCs = s.computeCs ∧
      s'.csumState = s.csumState ∧ s'.chunkCount = s.chunkCount ∧ (∀ x ∈ d, x.tlast = false) ∧
      d.length = if s.chunkCount = 0 then 0 else 1 := by
  have hne (n : ℕ) (hn : s.chunkCount.toNat = n + 1) : s.chunkCount ≠ 0 := by
    intro h
    rw [h] at hn
    cases hn
  simp only [iccRead]
  split
  · next h =>
      have hs : s.chunkCount = 0 := BitVec.eq_of_toNat_eq h
      exact ⟨_, _, [], rfl, rfl, rfl, rfl, rfl, rfl, by simp, (if_pos hs).symm⟩
  · next h =>
      refine ⟨_, _, _, rfl, rfl, rfl, rfl, rfl, rfl, ?_, (if_neg (hne 0 h)).symm⟩
      intro x hx
      rw [List.mem_singleton.mp hx]
      exact hprev (hne 0 h)
  · next h =>
      refine ⟨_, _, _, rfl, rfl, rfl, rfl, rfl, rfl, ?_, (if_neg (hne 1 h)).symm⟩
      intro x hx
      rw [List.mem_singleton.mp hx]
      rfl
  · next h0 h1 h2 =>
      have hs : s.chunkCount ≠ 0 := fun h => h0 (by rw [h]; rfl)
      refine ⟨_, _, _, rfl, rfl, rfl, rfl, rfl, rfl, ?_, (if_neg hs).symm⟩
      intro x hx
      rw [List.mem_singleton.mp hx]
      exact hprev hs

/-- A call that reads a chunk of a packet. -/
lemma IccInv.read {c : AxisIp4} {cs : List AxisIp4} {qs : List (List AxisIp4)}
    (hqs : ∀ cs ∈ qs, Fits cs) (hw : s.writeLastOne = false) (hc : s.computeCs = false)
    (hs : s.csumState = .s0) (hprev : s.chunkCount ≠ 0 → s.prevChunk.tlast = false)
    (hcs : IsStream (c :: cs)) (hlen : s.chunkCount.toNat + (c :: cs).length ≤ 64) :
    IccInv (iccRead s c).1 (cs ++ qs.flatten) (iccDrain (iccRead s c).1 cs ++ echoOuts qs) ∧
      IccMove s (c :: (cs ++ qs.flatten)) (iccRead s c).1 (cs ++ qs.flatten) (iccRead s c).2 := by
  obtain ⟨s', c', d, hread, hlast, hw', hc', hs', hk', hd, hone⟩ := iccRead_spec s c hprev
  rw [List.length_cons] at hlen
  have hsucc : (s.chunkCount + 1).toNat = s.chunkCount.toNat + 1 := by
    rw [BitVec.toNat_add]
    exact Nat.mod_eq_of_lt (by change s.chunkCount.toNat + 1 < 128; omega)
  have hd1 : d.length ≤ 1 ∧ d.length ≤ s.chunkCount.toNat := by
    rw [hone]
    split_ifs with h0
    · exact ⟨zero_le_one, Nat.zero_le _⟩
    · have hne : s.chunkCount.toNat ≠ 0 := fun h => h0 (BitVec.eq_of_toNat_eq h)
      omega
  rw [hread]
  cases htlast : c.tlast with
  | true =>
      obtain rfl := (isPacket_cons_of_last htlast).mp hcs
      have hnext : iccNext s' c' = { s' with
          prevChunk := c', chunkCount := 0, writeLastOne := true, computeCs := true } :=
        if_pos (hlast.trans htlast)
      refine ⟨?_, .read hc hd hd1.1 ?_ ?_ ?_⟩
      · rw [hnext]
        exact .last hqs rfl rfl fun _ => hlast.trans htlast
      · rw [hnext]
        rfl
      · rw [hnext, iccWritten, iccWritten, hw, if_neg Bool.false_ne_true, if_pos rfl]
        omega
      · rw [hnext, iccPending, if_pos rfl, if_pos rfl, hs', hs]
        exact le_refl 7
  | false =>
      have hnext : iccNext s' c' = { s' with prevChunk := c', chunkCount := s'.chunkCount + 1 } :=
        if_neg (by simp [hlast, htlast])
      refine ⟨?_, .read hc hd hd1.1 ?_ ?_ ?_⟩
      · rw [hnext]
        refine .mid hqs (hw'.trans hw) (hc'.trans hc) (hs'.trans hs) (hlast.trans htlast)
          ((isPacket_cons_of_not_last htlast).mp hcs) ?_
        rw [hk', hsucc]
        omega
      · rw [hnext, iccBusy, hc', hc]
        rfl
      · rw [hnext, iccWritten, iccWritten, hw', hw, if_neg Bool.false_ne_true,
          if_neg Bool.false_ne_true, hk', hsucc]
        omega
      · rw [hnext, iccPending, hw', hw, hc', hc, if_neg Bool.false_ne_true,
          if_neg Bool.false_ne_true]
        exact Nat.zero_le _

/-- A call that writes the last chunk, or computes. -/
lemma IccInv.flush {qs : List (List AxisIp4)} (hqs : ∀ cs ∈ qs, Fits cs)
    (hc : s.computeCs = true) (hk : s.chunkCount = 0)
    (hprev : s.writeLastOne = true → s.prevChunk.tlast = true) (cs : List AxisIp4) :
    ∃ s' o fut', (∀ input, pIcmpChecksumChecker s input = (s', input, o)) ∧
      iccFlush s ++ echoOuts qs = o ++ fut' ∧ IccInv s' qs.flatten fut' ∧ IccMove s cs s' cs o := by
  cases hw : s.writeLastOne with
  | true =>
      refine ⟨(iccWrite s).1, (iccWrite s).2, iccFlush (iccWrite s).1 ++ echoOuts qs,
        fun input => if_pos hw, ?_, ?_, ?_⟩
      · rw [iccFlush_write hw, IccOut.append_assoc]
      · exact .last hqs hc hk fun h => absurd h Bool.false_ne_true
      · refine .write hw (hprev hw) ?_ ?_
        · rw [iccBusy, iccWrite, hc]
          rfl
        · have hnext : iccPending (iccWrite s).1 =
              0 + if s.computeCs then s.csumState.left else 0 := rfl
          rw [hnext, iccPending, hw, if_pos rfl]
          omega
  | false =>
      have hcall (input : List AxisIp4) :
          pIcmpChecksumChecker s input = ((iccCompute s).1, input, (iccCompute s).2) := by
        rw [pIcmpChecksumChecker.eq_def, hw, if_neg Bool.false_ne_true, if_pos hc]
      have hbusy : iccBusy s = true := by rw [iccBusy, hc, hw]; rfl
      have hstep (s' : IccState) (hst : (iccCompute s).1 = s') (hout : (iccCompute s).2 = {})
          (hw' : s'.writeLastOne = false) (hc' : s'.computeCs = true) (hk' : s'.chunkCount = 0)
          (hleft : s'.csumState.left + 1 = s.csumState.left) :
          ∃ s' o fut', (∀ input, pIcmpChecksumChecker s input = (s', input, o)) ∧
            iccFlush s ++ echoOuts qs = o ++ fut' ∧ IccInv s' qs.flatten fut' ∧
            IccMove s cs s' cs o := by
        refine ⟨s', {}, iccFlush s' ++ echoOuts qs, fun input => ?_, ?_, ?_, ?_⟩
        · rw [hcall, hst, hout]
        · rw [iccFlush_compute hw hc, hst, hout]
          rfl
        · exact .last hqs hc' hk' fun h => absurd (hw'.symm.trans h) Bool.false_ne_true
        · refine .compute hbusy ?_ ?_ ?_
          · rw [iccBusy, hc', hw']
            rfl
          · rw [iccWritten, iccWritten, hw', hw, hk', hk]
          · rw [iccPending, iccPending, hw', hw, hc', hc, if_pos rfl, if_pos rfl]
            omega
      cases hs : s.csumState with
      | s0 =>
          refine hstep _ rfl ?_ ?_ ?_ ?_ ?_ <;> simp only [iccCompute, hs]
          all_goals first | exact hw | exact hc | exact hk | rfl
      | s1 =>
          refine hstep _ rfl ?_ ?_ ?_ ?_ ?_ <;> simp only [iccCompute, hs]
          all_goals first | exact hw | exact hc | exact hk | rfl
      | s2 =>
          refine hstep _ rfl ?_ ?_ ?_ ?_ ?_ <;> simp only [iccCompute, hs]
          all_goals first | exact hw | exact hc | exact hk | rfl
      | s3 =>
          have hst : (iccCompute s).1 = { s with csumState := .s0, computeCs := false } := by
            simp only [iccCompute, hs]
          have hidle : IccIdle { s with csumState := .s0, computeCs := false } :=
            ⟨hw, rfl, rfl, hk⟩
          have hnone : iccFlush { s with csumState := .s0, computeCs := false } = {} := by
            rw [iccFlush, hw, if_neg Bool.false_ne_true, if_neg Bool.false_ne_true]
            rfl
          have hbusy' : iccBusy { s with csumState := .s0, computeCs := false } = false := rfl
          have hpending :
              iccPending { s with csumState := .s0, computeCs := false } + 1 = iccPending s := by
            rw [iccPending, iccPending, hw, hc, hs]
            rfl
          refine ⟨(iccCompute s).1, (iccCompute s).2, echoOuts qs, hcall, ?_, ?_, ?_⟩
          · rw [iccFlush_compute hw hc, hst, hnone, IccOut.append_nil]
          · rw [hst]
            exact .idle hqs hidle
          · rw [hst]
            simp only [iccCompute, hs]
            split_ifs
            · exact .verdict true hbusy hbusy' rfl hpending
            · exact @IccMove.verdict _ _ _ false 0 hbusy hbusy' rfl hpending
            · exact @IccMove.verdict _ _ _ false 0 hbusy hbusy' rfl hpending

/-- **A call of the checker** writes the first part of what will be written. -/
lemma IccInv.call {input : List AxisIp4} {fut : IccOut} (h : IccInv s input fut) :
    ∃ fut', fut = (pIcmpChecksumChecker s input).2.2 ++ fut' ∧
      IccInv (pIcmpChecksumChecker s input).1 (pIcmpChecksumChecker s input).2.1 fut' ∧
      IccMove s input (pIcmpChecksumChecker s input).1 (pIcmpChecksumChecker s input).2.1
        (pIcmpChecksumChecker s input).2.2 := by
  have hread {c : AxisIp4} {cs : List AxisIp4} (hw : s.writeLastOne = false)
      (hc : s.computeCs = false) :
      pIcmpChecksumChecker s (c :: cs) = ((iccRead s c).1, cs, (iccRead s c).2) := by
    rw [pIcmpChecksumChecker, hw, hc, if_neg Bool.false_ne_true, if_neg Bool.false_ne_true]
  cases h with
  | @idle qs hqs hs =>
      cases qs with
      | nil =>
          have hcall : pIcmpChecksumChecker s [] = (s, [], {}) := by
            rw [pIcmpChecksumChecker, hs.writeLastOne, hs.computeCs, if_neg Bool.false_ne_true,
              if_neg Bool.false_ne_true]
          rw [List.flatten_nil, hcall]
          exact ⟨{}, rfl, .idle hqs hs, .wait hs.writeLastOne hs.computeCs⟩
      | cons cs qs =>
          obtain ⟨hcs, hrest⟩ := List.forall_mem_cons.mp hqs
          have hdrain := iccDrain_packet hcs.wellFormed hcs.header (hcs.depth.trans (by omega)) hs
          have hdepth := hcs.depth
          have hstream := hcs.wellFormed.isStream
          cases cs with
          | nil => exact absurd hstream id
          | cons c cs =>
              rw [List.flatten_cons, List.cons_append, hread hs.writeLastOne hs.computeCs]
              obtain ⟨hinv, hmove⟩ := IccInv.read hrest hs.writeLastOne hs.computeCs hs.csumState
                (fun h => absurd hs.chunkCount h) hstream
                (by rw [hs.chunkCount]; exact (Nat.zero_add _).trans_le hdepth)
              refine ⟨_, ?_, hinv, hmove⟩
              rw [echoOuts_cons, ← hdrain, iccDrain, IccOut.append_assoc]
  | @mid cs qs hqs hw hc hs hprev hcs hlen =>
      cases cs with
      | nil => exact absurd hcs id
      | cons c cs =>
          rw [List.cons_append, hread hw hc]
          obtain ⟨hinv, hmove⟩ := IccInv.read hqs hw hc hs (fun _ => hprev) hcs hlen
          refine ⟨_, ?_, hinv, hmove⟩
          rw [iccDrain, IccOut.append_assoc]
  | @last qs hqs hc hk hprev =>
      obtain ⟨s', o, fut', hcall, hfut, hinv, hmove⟩ := IccInv.flush hqs hc hk hprev qs.flatten
      rw [hcall]
      exact ⟨fut', hfut, hinv, hmove⟩

end Checker

/-! ### The dropper -/

/-- The chunks of the packet are forwarded. -/
def IpdState.keeps (s : IpdState) : Bool := !s.isFirstChunk && !s.drop

/-- What a call of the dropper does. -/
inductive IpdMove (s : IpdState) :
    List AxisIp4 → List CmdBit → IpdState × List AxisIp4 × List CmdBit × List AxisIp4 → Prop
  | wait {data : List AxisIp4} {cmds : List CmdBit}
      (h : data = [] ∨ s.isFirstChunk = true ∧ cmds = []) :
      IpdMove s data cmds (s, data, cmds, [])
  | first {c : AxisIp4} {data : List AxisIp4} {cmds : List CmdBit} (keep : Bool)
      (hs : s.isFirstChunk = true) :
      IpdMove s (c :: data) (dropCmd keep :: cmds)
        (ipdNext { isFirstChunk := false, drop := !keep } c, data, cmds, if keep then [c] else [])
  | next {c : AxisIp4} {data : List AxisIp4} {cmds : List CmdBit} (keep : Bool)
      (hs : s = { isFirstChunk := false, drop := !keep }) :
      IpdMove s (c :: data) cmds
        (ipdNext { isFirstChunk := false, drop := !keep } c, data, cmds, if keep then [c] else [])

lemma pInvalidPacketDropper_cases {s : IpdState} (hdrop : s.isFirstChunk = true → s.drop = false)
    (data : List AxisIp4) (cmds : List CmdBit) :
    IpdMove s data cmds (pInvalidPacketDropper s data cmds) := by
  obtain ⟨isFirstChunk, drop⟩ := s
  cases data with
  | nil => exact .wait (.inl rfl)
  | cons c data =>
      cases isFirstChunk with
      | true =>
          obtain rfl := hdrop rfl
          cases cmds with
          | nil => exact .wait (.inr ⟨rfl, rfl⟩)
          | cons k cmds =>
              cases k with
              | true => exact .first false rfl
              | false => exact .first true rfl
      | false =>
          cases drop with
          | true => exact .next false rfl
          | false => exact .next true rfl

section Dropper

variable (keep : Bool) (c : AxisIp4)

lemma ipdNext_isFirstChunk :
    (ipdNext { isFirstChunk := false, drop := !keep } c).isFirstChunk = c.tlast := by
  rw [ipdNext]
  cases c.tlast <;> rfl

lemma ipdNext_keeps :
    (ipdNext { isFirstChunk := false, drop := !keep } c).keeps = (keep && !c.tlast) := by
  rw [ipdNext, IpdState.keeps]
  cases c.tlast <;> cases keep <;> rfl

lemma ipdNext_drop (h : (ipdNext { isFirstChunk := false, drop := !keep } c).isFirstChunk = true) :
    (ipdNext { isFirstChunk := false, drop := !keep } c).drop = false := by
  rw [ipdNext_isFirstChunk] at h
  rw [ipdNext, if_pos h]

end Dropper

/-! ### The streams -/

/-- The server behind a call of the checker that did not wait. -/
def EchoServer.withIcc (s : EchoServer) (r : IccState × List AxisIp4 × IccOut) : EchoServer :=
  { s with
    icc := r.1
    siIPRXData := r.2.1
    ssICcToIPdData := s.ssICcToIPdData ++ r.2.2.soIPdData
    ssICcToIPdDropCmd := s.ssICcToIPdDropCmd ++ r.2.2.soIPdDropCmd
    ssUVwToICiCsum := Function.update s.ssUVwToICiCsum fromEcho
      (s.ssUVwToICiCsum fromEcho ++ r.2.2.soICiCsum) }

/-- The server behind a call of the dropper that did not wait. -/
def EchoServer.withIpd (s : EchoServer)
    (r : IpdState × List AxisIp4 × List CmdBit × List AxisIp4) : EchoServer :=
  { s with
    ipd := r.1
    ssICcToIPdData := r.2.1
    ssICcToIPdDropCmd := r.2.2.1
    ssXYzToICiData := Function.update s.ssXYzToICiData fromEcho
      (s.ssXYzToICiData fromEcho ++ r.2.2.2) }

/-- The server behind a call of the inserter. -/
def EchoServer.withIci (s : EchoServer) (r : IciCall) : EchoServer :=
  { s with
    ici := r.state
    ssXYzToICiData := r.siXYzData
    ssUVwToICiCsum := r.siUVwCsum }

/-- What is left to do. A chunk in front of the checker counts most, since reading the last one of
a packet brings the calls for its checksum. -/
def EchoServer.work (s : EchoServer) : ℕ :=
  10 * s.siIPRXData.length + iccPending s.icc + 2 * s.ssICcToIPdData.length +
    (s.ssXYzToICiData fromEcho).length

/-- What is on its way in the streams of the echo service. -/
structure EchoCounts (s : EchoServer) : Prop where
  drop : s.ipd.isFirstChunk = true → s.ipd.drop = false
  verdicts : s.ssICcToIPdDropCmd.length + (!s.ipd.isFirstChunk).toNat + (iccBusy s.icc).toNat =
    s.ssICcToIPdData.countP AxisRaw.tlast
  csums : (s.ssUVwToICiCsum fromEcho).length + s.ici.inserted =
    s.ssICcToIPdDropCmd.countP (· = cmdKeep) + s.ipd.keeps.toNat +
      (s.ssXYzToICiData fromEcho).countP AxisRaw.tlast
  depth : openFrom AxisRaw.tlast 0 s.ssICcToIPdData ≤ iccWritten s.icc
  link : 0 < openFrom AxisRaw.tlast s.ici.chunkCount.toNat (s.ssXYzToICiData fromEcho) ↔
    s.ipd.keeps = true

section System

variable {s : EchoServer}

lemma countP_eq_zero_of {d : List AxisIp4} (hd : ∀ x ∈ d, x.tlast = false) :
    d.countP AxisRaw.tlast = 0 :=
  List.countP_eq_zero.mpr fun x hx => by simp [hd x hx]

lemma countP_dropCmd (keep : Bool) (cmds : List CmdBit) :
    (dropCmd keep :: cmds).countP (· = cmdKeep) = cmds.countP (· = cmdKeep) + keep.toNat := by
  cases keep <;> simp [dropCmd, cmdKeep, cmdDrop]

/-- The checker writes a chunk, or a verdict. -/
lemma EchoCounts.withIcc (h : EchoCounts s) {r : IccState × List AxisIp4 × IccOut}
    (hmove : IccMove s.icc s.siIPRXData r.1 r.2.1 r.2.2) : EchoCounts (s.withIcc r) := by
  obtain ⟨icc, input, o⟩ := r
  have hverdicts := h.verdicts
  have hcsums := h.csums
  have hdepth := h.depth
  dsimp only at hmove
  generalize s.siIPRXData = before at hmove
  cases hmove with
  | wait hw hc =>
      refine ⟨h.drop, ?_, ?_, ?_, h.link⟩ <;>
        simp only [EchoServer.withIcc, List.append_nil, Function.update_self]
      · exact hverdicts
      · exact hcsums
      · exact hdepth
  | @read _ _ _ d hc hd hlen hbusy hwritten hpending =>
      have hnone := countP_eq_zero_of hd
      have hidle : iccBusy s.icc = false := by rw [iccBusy, hc]; rfl
      refine ⟨h.drop, ?_, ?_, ?_, h.link⟩ <;>
        simp only [EchoServer.withIcc, List.append_nil, Function.update_self]
      · rw [List.countP_append, hnone, hbusy, ← hverdicts, hidle, Nat.add_zero]
      · exact hcsums
      · rw [openFrom, List.foldl_append]
        exact (openFrom_of_none hnone).trans_le ((Nat.add_le_add_right hdepth _).trans hwritten)
  | @write _ _ c hw hc hbusy hpending =>
      have hidle : iccBusy s.icc = false := by rw [iccBusy, hw]; exact Bool.and_false _
      refine ⟨h.drop, ?_, ?_, ?_, h.link⟩ <;>
        simp only [EchoServer.withIcc, List.append_nil, Function.update_self]
      · rw [List.countP_append, List.countP_singleton, if_pos hc, hbusy, ← hverdicts, hidle]
        rfl
      · exact hcsums
      · rw [openFrom_snoc, if_pos hc]
        exact Nat.zero_le _
  | compute hbusy hbusy' hwritten hpending =>
      refine ⟨h.drop, ?_, ?_, ?_, h.link⟩ <;>
        simp only [EchoServer.withIcc, List.append_nil, Function.update_self]
      · rw [hbusy', ← hverdicts, hbusy]
      · exact hcsums
      · rw [hwritten]
        exact hdepth
  | @verdict _ _ keep csum hbusy hbusy' hwritten hpending =>
      refine ⟨h.drop, ?_, ?_, ?_, h.link⟩ <;>
        simp only [EchoServer.withIcc, List.append_nil, Function.update_self]
      · rw [List.length_append, hbusy', ← hverdicts, hbusy]
        simp only [List.length_singleton, Bool.toNat_false, Bool.toNat_true]
        omega
      · rw [List.countP_append, countP_dropCmd, List.length_append]
        have hone : (if keep then [csum] else []).length = keep.toNat := by cases keep <;> rfl
        rw [hone, List.countP_nil]
        omega
      · rw [hwritten]
        exact hdepth

/-- The dropper forwards a chunk, or drops it. -/
lemma EchoCounts.chunk {c : AxisIp4} {data : List AxisIp4} {cmds : List CmdBit} {keep : Bool}
    (hverdicts : cmds.length + 1 + (iccBusy s.icc).toNat = (c :: data).countP AxisRaw.tlast)
    (hcsums : (s.ssUVwToICiCsum fromEcho).length + s.ici.inserted =
      cmds.countP (· = cmdKeep) + keep.toNat + (s.ssXYzToICiData fromEcho).countP AxisRaw.tlast)
    (hdepth : openFrom AxisRaw.tlast 0 (c :: data) ≤ iccWritten s.icc)
    (hlink : keep = false →
      ¬0 < openFrom AxisRaw.tlast s.ici.chunkCount.toNat (s.ssXYzToICiData fromEcho)) :
    EchoCounts (s.withIpd
      (ipdNext { isFirstChunk := false, drop := !keep } c, data, cmds,
        if keep then [c] else [])) := by
  rw [List.countP_cons] at hverdicts
  refine ⟨ipdNext_drop keep c, ?_, ?_, openFrom_tail.trans hdepth, ?_⟩ <;>
    simp only [EchoServer.withIpd, Function.update_self, ipdNext_isFirstChunk, ipdNext_keeps]
  · cases hlast : c.tlast <;> simp [hlast] at hverdicts ⊢ <;> omega
  · rw [hcsums, List.countP_append]
    cases hlast : c.tlast with
    | true => cases keep <;> simp [hlast, Nat.add_assoc, Nat.add_comm 1]
    | false => cases keep <;> simp [hlast]
  · cases keep with
    | true =>
        rw [if_pos rfl, openFrom_snoc]
        cases c.tlast <;> simp
    | false =>
        rw [if_neg Bool.false_ne_true, List.append_nil]
        exact iff_of_false (hlink rfl) Bool.false_ne_true

lemma EchoCounts.withIpd (h : EchoCounts s)
    {r : IpdState × List AxisIp4 × List CmdBit × List AxisIp4}
    (hmove : IpdMove s.ipd s.ssICcToIPdData s.ssICcToIPdDropCmd r) : EchoCounts (s.withIpd r) := by
  have hverdicts := h.verdicts
  have hcsums := h.csums
  have hdepth := h.depth
  have hlink := h.link
  generalize hdata : s.ssICcToIPdData = data at *
  generalize hcmds : s.ssICcToIPdDropCmd = cmds at *
  cases hmove with
  | wait hwait =>
      refine ⟨h.drop, hverdicts, ?_, hdepth, ?_⟩ <;>
        simp only [EchoServer.withIpd, List.append_nil, Function.update_self]
      · exact hcsums
      · exact hlink
  | @first c data cmds keep hs =>
      have hno : s.ipd.keeps = false := by rw [IpdState.keeps, hs]; rfl
      rw [hs, List.length_cons] at hverdicts
      rw [hno, countP_dropCmd] at hcsums
      rw [hno] at hlink
      refine EchoCounts.chunk hverdicts hcsums hdepth fun _ => ?_
      exact fun hpos => Bool.false_ne_true (hlink.mp hpos)
  | @next c data _ keep hs =>
      have hkeeps : s.ipd.keeps = keep := by rw [IpdState.keeps, hs]; cases keep <;> rfl
      rw [hs] at hverdicts
      rw [hkeeps] at hcsums hlink
      refine EchoCounts.chunk hverdicts hcsums hdepth fun hkeep hpos => ?_
      exact Bool.false_ne_true (hkeep.symm.trans (hlink.mp hpos))

/-- The inserter sends a chunk. -/
lemma EchoCounts.withIci (h : EchoCounts s) {r : IciCall} {c : AxisIp4} {cs : List AxisIp4}
    {csums : List IcmpCsum} (hxyz : s.ssXYzToICiData fromEcho = c :: cs)
    (hdata : r.siXYzData = Function.update s.ssXYzToICiData fromEcho cs)
    (hcsum : r.siUVwCsum = Function.update s.ssUVwToICiCsum fromEcho csums)
    (hcount : r.state.chunkCount.toNat = if c.tlast then 0 else s.ici.chunkCount.toNat + 1)
    (hlen : csums.length + r.state.inserted + c.tlast.toNat =
      (s.ssUVwToICiCsum fromEcho).length + s.ici.inserted) : EchoCounts (s.withIci r) := by
  have hcsums := h.csums
  have hlink := h.link
  rw [hxyz, List.countP_cons] at hcsums
  rw [hxyz, openFrom_cons] at hlink
  refine ⟨h.drop, h.verdicts, ?_, h.depth, ?_⟩ <;>
    simp only [EchoServer.withIci, hdata, hcsum, Function.update_self]
  · cases hlast : c.tlast <;> simp [hlast] at hlen hcsums <;> omega
  · rw [hcount]
    exact hlink

end System

end CloudFpga.Icmp
