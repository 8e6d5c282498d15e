import CloudFpga.Toe.MemoryWriter.Commands

/-!
Memory writer of the Rx engine, `rx_engine.cpp`: `pRxMemoryWriter`.

* `pRxMemoryWriter`: one call of the process.
* `pRxMemoryWriter_delivers_iff`: a segment is delivered, with its split flag, exactly when the
  process does not cut a chunk while the command stream is full.
-/

namespace CloudFpga.Toe

open Foundation AxisRaw

/-- `MWR_IDLE` of the Rx memory writer: the command is taken over, and the split flag tells
`pRxAppNotifier` whether there will be two of them. -/
def rxMwrIdle (s : MwrState DmCmd) (k : MwrCycle) : MwrState DmCmd :=
  match s.siCmd with
  | memWrCmd :: cs =>
      if k.cmd ∧ ¬k.splitSegFull ∧ ¬k.memWrCmdFull then
        let s := { s with siCmd := cs, memWrCmd := memWrCmd }
        if memWrCmd.wraps then
          { s with soSplitSeg := s.soSplitSeg ++ [true], fsmState := .split1stCmd }
        else
          { s with
            soSplitSeg := s.soSplitSeg ++ [false]
            soMemWrCmd := s.soMemWrCmd ++ [memWrCmd]
            fsmState := .fwdAligned }
      else s
  | [] => s

/-- One call of the process. -/
def pRxMemoryWriter : MwrState DmCmd → MwrCycle → MwrState DmCmd := mwrStep rxMwrIdle true

lemma rxMwrIdle_spec (c : DmCmd) : MwrIdleSpec rxMwrIdle c c [c.wraps] where
  wait s k h := by rw [rxMwrIdle, h]
  start s k h := by
    simp only [rxMwrIdle, h]
    split
    · split
      · next hw => exact .inr (by constructor <;> simp [hw])
      · next hw => exact .inr (by constructor <;> simp [hw])
    · next hk =>
        refine .inl ⟨rfl, ?_⟩
        unfold MwrCycle.ready
        grind

lemma pRxMemoryWriter_issues (s : MwrState DmCmd) (k : MwrCycle) :
    MwrIssues id s (pRxMemoryWriter s k) := by
  refine mwrStep_issues (fun s k hst => ?_) true s k
  rw [rxMwrIdle]
  split
  · next c cs hcmd =>
      split
      · refine .start hst hcmd ?_ ?_
        · dsimp only
          split <;> rfl
        · simp only [id]
          split <;> simp_all
      · exact .refl s
  · exact .refl s

/-- A segment is written, and the split flag is right. -/
structure RxDelivered (c : DmCmd) (cs : List AxisApp) (s : MwrState DmCmd) : Prop where
  delivered : MwrDelivered c.saddr cs s
  split : s.soSplitSeg = [decide (s.soMemWrCmd.length = 2)]

section Delivery

variable {c : DmCmd} {s : MwrState DmCmd} {ks : List MwrCycle}

lemma MwrDone.split {cs : List AxisApp} (h : MwrDone c [c.wraps] cs s) :
    s.soSplitSeg = [decide (s.soMemWrCmd.length = 2)] := by
  rw [h.soSplitSeg, h.soMemWrCmd, mwrCmds]
  split
  · next hw => simp [hw]
  · next hw => simp [hw]

/-- **Delivery of the Rx write path**: from every idle state, for every command and every stream
of as many bytes, and after every schedule with enough cycles that do not block the process, the
segment is delivered if and only if the process did not read the chunk at the end of the buffer
while the command stream was full. -/
theorem pRxMemoryWriter_delivers_iff (hs : MwrReady c s) (hwf : WellFormed s.siData)
    (hlt : c.btt.toNat < toeBufferSize) (hlen : c.btt.toNat = (streamBytes s.siData).length)
    (hready : s.siData.length + 3 ≤ ks.countP MwrCycle.ready) :
    RxDelivered c s.siData (Clocked.run pRxMemoryWriter s ks) ↔
      Clocked.Along pRxMemoryWriter (fun s k => ¬MwrSlip true s k) s ks := by
  have hjob : MwrJob c s.siData := ⟨hwf, hlt, hlen⟩
  have hiff : MwrDelivered c.saddr s.siData (Clocked.run pRxMemoryWriter s ks) ↔
      Clocked.Along pRxMemoryWriter (fun s k => ¬MwrSlip true s k) s ks :=
    mwr_delivers_iff (rxMwrIdle_spec c) hs hjob hready
  refine ⟨fun h => hiff.mp h.delivered, fun h => ⟨hiff.mpr h, ?_⟩⟩
  exact (mwr_run_done (rxMwrIdle_spec c) hs hjob hready h).split

end Delivery

/-- Sixteen bytes from four bytes before the end of the first buffer on. -/
def rxCrossing : DmCmd := .ofAddrLen (0xFFFC : BitVec 32) (16 : BitVec 16)
def rxCrossingState : MwrState DmCmd where
  memWrCmd := rxCrossing
  currChunk := zero
  siCmd := [rxCrossing]
  siData := [⟨List.replicate 8 ⟨1, true⟩, false, rfl⟩, ⟨List.replicate 8 ⟨2, true⟩, true, rfl⟩]

lemma rxCrossingState_ready : MwrReady rxCrossing rxCrossingState := ⟨rfl, rfl, rfl, rfl, rfl⟩

lemma rxCrossingState_wf : WellFormed rxCrossingState.siData :=
  ⟨by decide, by decide⟩

theorem pRxMemoryWriter_delivers_crossing :
    RxDelivered rxCrossing rxCrossingState.siData
      (Clocked.run pRxMemoryWriter rxCrossingState (List.replicate 5 .free)) :=
  (pRxMemoryWriter_delivers_iff rxCrossingState_ready rxCrossingState_wf (by decide) (by decide)
    (by decide)).mpr (by decide)

/-- The command stream is full in the one cycle in which the first chunk is to be cut: all eight
bytes of the chunk go out under the command for the four bytes up to the end of the buffer. -/
theorem pRxMemoryWriter_overruns_crossing :
    ¬RxDelivered rxCrossing rxCrossingState.siData
      (Clocked.run pRxMemoryWriter rxCrossingState
        ([.free, .free, { MwrCycle.free with memWrCmdFull := true }] ++
          List.replicate 5 .free)) := by
  rintro ⟨⟨-, -, -, hdel⟩, -⟩
  exact @not_delivers_of_overlong _ _ rxCrossing.first _ (rxCrossingState.siData.take 1) _
    (by decide) (by decide) hdel

end CloudFpga.Toe
