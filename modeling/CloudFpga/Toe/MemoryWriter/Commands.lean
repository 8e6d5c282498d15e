import CloudFpga.Toe.MemoryWriter.Process

/-!
The commands that a memory writer issues, request by request, whatever the data streams and the
back-pressure are.

* `MwrState.ahead`: the commands that the process is still to issue for the requests it has.
* `MwrIssues`: from one state to another, the process issues the first commands of those ahead.
* `mwrStep_issues`: every call does.
-/

namespace CloudFpga.Toe

open Foundation AxisRaw

variable {ι : Type}

/-- The commands that the process is still to issue, where `cmd` is the command of a request. -/
def MwrState.ahead (cmd : ι → DmCmd) (s : MwrState ι) : List DmCmd :=
  (match s.fsmState with
    | .split1stCmd => [s.memWrCmd.first, s.memWrCmd.second s.memWrCmd.firstAccLen]
    | .fwd1stBuf => [s.memWrCmd.second s.firstAccLen]
    | .idle | .fwdAligned | .fwd2ndBuf | .residue => []) ++
  s.siCmd.flatMap fun i => mwrCmds (cmd i)

/-- The first commands of those ahead of `s` are issued. -/
def MwrIssues (cmd : ι → DmCmd) (s s' : MwrState ι) : Prop :=
  ∃ cmds, s'.soMemWrCmd = s.soMemWrCmd ++ cmds ∧ s.ahead cmd = cmds ++ s'.ahead cmd

section Issues

variable {cmd : ι → DmCmd} {s s' : MwrState ι}

/-- More requests arrive. -/
lemma MwrState.ahead_append (s : MwrState ι) (is : List ι) :
    MwrState.ahead cmd { s with siCmd := s.siCmd ++ is } =
      s.ahead cmd ++ is.flatMap fun i => mwrCmds (cmd i) := by
  simp only [MwrState.ahead, List.flatMap_append, List.append_assoc]

lemma MwrIssues.refl (s : MwrState ι) : MwrIssues cmd s s := ⟨[], by simp, rfl⟩

/-- No command is issued, and those ahead stay. -/
lemma MwrIssues.of_eq (hout : s'.soMemWrCmd = s.soMemWrCmd) (hahead : s'.ahead cmd = s.ahead cmd) :
    MwrIssues cmd s s' :=
  ⟨[], by rw [hout, List.append_nil], hahead.symm⟩

/-- What is issued and what is ahead stay the same, taken together. -/
lemma MwrIssues.append_eq (h : MwrIssues cmd s s') :
    s'.soMemWrCmd ++ s'.ahead cmd = s.soMemWrCmd ++ s.ahead cmd := by
  obtain ⟨cmds, hout, hahead⟩ := h
  rw [hout, hahead, List.append_assoc]

lemma MwrIssues.length_le (h : MwrIssues cmd s s') :
    s.soMemWrCmd.length ≤ s'.soMemWrCmd.length := by
  obtain ⟨cmds, hout, -⟩ := h
  rw [hout, List.length_append]
  exact Nat.le_add_right _ _

/-- A request is taken up: its command is issued, or it is to be split. -/
lemma MwrIssues.start {i : ι} {is : List ι} (hst : s.fsmState = .idle) (hcmd : s.siCmd = i :: is)
    (hcmd' : s'.siCmd = is)
    (h : if (cmd i).wraps then
        s'.fsmState = .split1stCmd ∧ s'.memWrCmd = cmd i ∧ s'.soMemWrCmd = s.soMemWrCmd
      else s'.fsmState = .fwdAligned ∧ s'.soMemWrCmd = s.soMemWrCmd ++ [cmd i]) :
    MwrIssues cmd s s' := by
  by_cases hw : (cmd i).wraps
  · rw [if_pos hw] at h
    obtain ⟨hst', hreg, hout⟩ := h
    refine ⟨[], by rw [hout, List.append_nil], ?_⟩
    simp [MwrState.ahead, hst, hst', hcmd, hcmd', hreg, mwrCmds, hw]
  · rw [if_neg hw] at h
    obtain ⟨hst', hout⟩ := h
    refine ⟨[cmd i], hout, ?_⟩
    simp [MwrState.ahead, hst, hst', hcmd, hcmd', mwrCmds, hw]

/-- **Every call** issues the first commands of those ahead, if `MWR_IDLE` does. -/
theorem mwrStep_issues {idle : MwrState ι → MwrCycle → MwrState ι}
    (hidle : ∀ s k, s.fsmState = .idle → MwrIssues cmd s (idle s k)) (residueAfterSplit : Bool)
    (s : MwrState ι) (k : MwrCycle) : MwrIssues cmd s (mwrStep idle residueAfterSplit s k) := by
  rw [mwrStep]
  cases hst : s.fsmState with
  | idle => exact hidle s k hst
  | split1stCmd =>
      dsimp only
      rw [mwrSplit1stCmd]
      split
      · exact ⟨[s.memWrCmd.first], rfl, by simp [MwrState.ahead, hst]⟩
      · exact .refl s
  | fwdAligned =>
      dsimp only
      rw [mwrFwdAligned]
      split
      · next memChunk cs _ =>
          split
          · refine .of_eq rfl ?_
            cases hlast : memChunk.tlast <;> simp [MwrState.ahead, hst]
          · exact .refl s
      · exact .refl s
  | fwd1stBuf =>
      dsimp only
      rw [mwrFwd1stBuf]
      split
      · split
        · dsimp only
          split_ifs
          · exact .of_eq rfl (by simp [MwrState.ahead, hst])
          · exact .of_eq rfl (by simp [MwrState.ahead, hst])
          · refine ⟨[s.memWrCmd.second s.firstAccLen], ?_⟩
            simp only [mwrCut, MwrState.ahead, hst]
            split_ifs <;> simp
        · exact .refl s
      · exact .refl s
  | fwd2ndBuf =>
      dsimp only
      rw [mwrFwd2ndBuf]
      split
      · split
        · dsimp only
          split_ifs <;> exact .of_eq rfl (by simp [MwrState.ahead, hst])
        · exact .refl s
      · exact .refl s
  | residue =>
      dsimp only
      rw [mwrResidue]
      split
      · exact .of_eq rfl (by simp [MwrState.ahead, hst])
      · exact .refl s

end Issues

end CloudFpga.Toe
