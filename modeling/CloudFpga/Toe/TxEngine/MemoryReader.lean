import CloudFpga.Foundation.Clocked
import CloudFpga.Toe.RxAppInterface.AppSegmentStitcher

/-!
Memory reader of the Tx engine, `tx_engine.cpp`: `pTxMemoryReader`.

* `pTxMemoryReader`: one call of the process.
* `MrdState.ahead`: the commands that the process is still to issue.
* `pTxMemoryReader_issues`, `pTxMemoryReader_flags`: a call issues the first commands of those
  ahead, and the flags that tell how they split.
* `pTxMemoryReader_moves`: a call that nothing blocks does some of the work, if there is any.
-/

namespace CloudFpga.Toe

open Foundation

/-- The registers and the streams of the process. -/
structure MrdState where
  fsmState : MrdFsmState := .access1st
  memRdCmd : DmCmd
  firstAccLen : TxBufPtr := 0
  siMdlBufferRdCmd : List DmCmd := []
  soMEMTxpRdCmd : List DmCmd := []
  soTssSplitMemAcc : List Bool := []
  deriving DecidableEq

/-- Which outputs are full in a cycle. -/
structure MrdCycle where
  memRdCmdFull : Bool
  splitMemAccFull : Bool
  deriving DecidableEq, Repr

/-- One call of the process. -/
def pTxMemoryReader (s : MrdState) (k : MrdCycle) : MrdState :=
  match s.fsmState with
  | .access1st =>
      match s.siMdlBufferRdCmd with
      | memRdCmd :: cs =>
          if ¬k.splitMemAccFull ∧ ¬k.memRdCmdFull then
            let s := { s with siMdlBufferRdCmd := cs, memRdCmd := memRdCmd }
            if memRdCmd.wraps then
              { s with
                firstAccLen := memRdCmd.firstAccLen
                fsmState := .access2nd
                soMEMTxpRdCmd := s.soMEMTxpRdCmd ++ [.ofAddrLen memRdCmd.saddr memRdCmd.firstAccLen]
                soTssSplitMemAcc := s.soTssSplitMemAcc ++ [true] }
            else
              { s with
                soMEMTxpRdCmd := s.soMEMTxpRdCmd ++ [memRdCmd]
                soTssSplitMemAcc := s.soTssSplitMemAcc ++ [false] }
          else s
      | [] => s
  | .access2nd =>
      if ¬k.memRdCmdFull then
        { s with
          memRdCmd := { s.memRdCmd with saddr := setRange s.memRdCmd.saddr 15 0 (0 : BitVec 16) }
          soMEMTxpRdCmd := s.soMEMTxpRdCmd ++ [mrdSecond s.memRdCmd s.firstAccLen]
          fsmState := .access1st }
      else s

/-- The commands that the process is still to issue. -/
def MrdState.ahead (s : MrdState) : List DmCmd :=
  (match s.fsmState with
    | .access1st => []
    | .access2nd => [mrdSecond s.memRdCmd s.firstAccLen]) ++
  s.siMdlBufferRdCmd.flatMap dmReads

/-- A call issues the first commands of those ahead. -/
lemma pTxMemoryReader_issues (s : MrdState) (k : MrdCycle) :
    (pTxMemoryReader s k).soMEMTxpRdCmd ++ (pTxMemoryReader s k).ahead =
      s.soMEMTxpRdCmd ++ s.ahead := by
  rw [pTxMemoryReader]
  cases hst : s.fsmState with
  | access1st =>
      cases hcmd : s.siMdlBufferRdCmd with
      | nil => rfl
      | cons c cs =>
          dsimp only
          split
          · split
            · next hw => simp [MrdState.ahead, hst, hcmd, dmReads, hw, DmCmd.first]
            · next hw => simp [MrdState.ahead, hst, hcmd, dmReads, hw]
          · rfl
  | access2nd =>
      dsimp only
      split
      · simp [MrdState.ahead, hst]
      · rfl

/-- The flags written, and those to be written for the commands that are left. -/
lemma pTxMemoryReader_flags (s : MrdState) (k : MrdCycle) :
    (pTxMemoryReader s k).soTssSplitMemAcc ++
        (pTxMemoryReader s k).siMdlBufferRdCmd.map DmCmd.wraps
      = s.soTssSplitMemAcc ++ s.siMdlBufferRdCmd.map DmCmd.wraps := by
  rw [pTxMemoryReader]
  cases hst : s.fsmState with
  | access1st =>
      cases hcmd : s.siMdlBufferRdCmd with
      | nil =>
          dsimp only
          rw [hcmd]
      | cons c cs =>
          dsimp only
          split
          · split
            · next hw => simp [hw]
            · next hw => simp [hw]
          · rw [hcmd]
  | access2nd =>
      dsimp only
      split <;> rfl

/-- No call adds a command. -/
lemma pTxMemoryReader_cmds (s : MrdState) (k : MrdCycle) :
    ∀ c ∈ (pTxMemoryReader s k).siMdlBufferRdCmd, c ∈ s.siMdlBufferRdCmd := by
  intro c
  rw [pTxMemoryReader]
  cases hst : s.fsmState with
  | access1st =>
      cases hcmd : s.siMdlBufferRdCmd with
      | nil => simp [hcmd]
      | cons d cs =>
          dsimp only
          split
          · split
            · exact List.mem_cons_of_mem d
            · exact List.mem_cons_of_mem d
          · simp [hcmd]
  | access2nd =>
      dsimp only
      split
      · exact id
      · exact id

/-- How much there is still to do for the commands: each byte is read and written at most once,
and each command is sent and answered. -/
def mrdWork (s : MrdState) : ℕ :=
  (s.siMdlBufferRdCmd.map fun c => 2 * c.btt.toNat + 4).sum
    + (if s.fsmState = .access2nd then 2 * (mrdSecond s.memRdCmd s.firstAccLen).btt.toNat + 2
        else 0)
    + (s.soMEMTxpRdCmd.map fun c => 2 * c.btt.toNat + 1).sum

lemma pTxMemoryReader_moves (s : MrdState) (k : MrdCycle)
    (hbtt : ∀ c ∈ s.siMdlBufferRdCmd, c.btt.toNat < toeBufferSize) :
    Clocked.Moves mrdWork (!k.splitMemAccFull && !k.memRdCmdFull) s
      (s.siMdlBufferRdCmd = [] ∧ s.fsmState = .access1st) (pTxMemoryReader s k) := by
  rw [pTxMemoryReader]
  split
  · next hst =>
      split
      · next c cs hcmd =>
          split
          · refine .work ?_
            split
            · next hw =>
                have hlt := firstAccLen_lt hw (hbtt c (by simp [hcmd]))
                have hfst := c.toNat_btt_first
                have hsnd := c.toNat_btt_second hlt.le
                rw [← btt_mrdSecond] at hsnd
                rw [DmCmd.first] at hfst
                simp only [mrdWork, hst, hcmd, List.map_cons, List.sum_cons, List.map_append,
                  List.map_nil, List.sum_append, List.sum_nil, hfst, hsnd]
                simp only [if_true, reduceCtorEq, if_false]
                omega
            · simp only [mrdWork, hst, hcmd, List.map_cons, List.sum_cons, List.map_append,
                List.map_nil, List.sum_append, List.sum_nil, reduceCtorEq, if_false]
              omega
          · next hk =>
              refine .stay fun hr => absurd ?_ hk
              simpa using hr
      · next hcmd => exact .stay fun _ => ⟨hcmd, hst⟩
  · next hst =>
      split
      · refine .work ?_
        simp only [mrdWork, hst, List.map_append, List.map_cons, List.map_nil, List.sum_append,
          List.sum_cons, List.sum_nil, if_true, reduceCtorEq, if_false]
        omega
      · next hk =>
          refine .stay fun hr => absurd ?_ hk
          simp only [Bool.and_eq_true, Bool.not_eq_true'] at hr
          simp [hr.2]

end CloudFpga.Toe
