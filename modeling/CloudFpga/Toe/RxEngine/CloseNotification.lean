import CloudFpga.Toe.RxEngine.AppNotifier

/-!
Completeness of the notifications of the Rx engine: which of the notifications that
`pFiniteStateMachine` writes reach the application.

* `RanComplete`: no notification is lost, but those of out-of-order segments.
* `RanKept`: what was forwarded and what is under way make up what is due.
* `pRxAppNotifier_complete`: they do along the runs in which no connection is closed by a segment
  without payload, and every status that is read is OKAY.
-/

namespace CloudFpga.Toe

open Foundation

/-- No process has anything to do. -/
structure RanQuiet (s : RanState) : Prop where
  notif : s.siFsmNotif = []
  cmd : s.mwr.siCmd = []
  owed : mwrOwed s.mwr = []
  wrCmd : s.mwr.soMemWrCmd = []
  ran : s.siMemWrSts = [] ∨
    s.doubleAccessFlag = false ∧ (s.mwr.soSplitSeg = [] ∨ s.ssRxNotifFifo = [])

/-- The application got the notifications that are due, in order and each of them once; and once
no process has anything to do, it got all of them. -/
structure RanComplete (s : RanState) : Prop where
  out : s.soRAiRxNotif <+: s.due
  quiet : RanQuiet s → s.soRAiRxNotif = s.due

/-- A connection is closed by a segment without payload, or the notifier reads a status that is
not OKAY. -/
def RanLoses (s : RanState) : RanLabel → Prop
  | .transition tcpState _ => s.held.any fun h => closesWithoutPayload h.1 tcpState h.2
  | .notifier k => k.memWrSts ∧ (s.siMemWrSts.head?.any fun sts => !sts.2.okay) ∧
      (s.doubleAccessFlag ∨
        k.splitSeg ∧ k.notifFifo ∧ s.mwr.soSplitSeg ≠ [] ∧ s.ssRxNotifFifo ≠ [])
  | _ => False

instance (s : RanState) : (l : RanLabel) → Decidable (RanLoses s l)
  | .transition _ _ => inferInstanceAs (Decidable (_ = true))
  | .notifier _ => inferInstanceAs (Decidable (_ ∧ _))
  | .load _ | .appRead _ | .data _ | .memoryWriter _ | .memory _ => isFalse id

/-! ### What is due -/

/-- The number of write commands of a segment with the given split flag. -/
def accesses (split : Bool) : ℕ := if split then 2 else 1

lemma length_mwrCmds (c : DmCmd) : (mwrCmds c).length = accesses c.wraps := by
  rw [mwrCmds, accesses]
  split <;> rfl

/-- What was forwarded and what is under way make up what is due, and there are enough split flags
and statuses for it. -/
structure RanKept (s : RanState) : Prop where
  out : s.soRAiRxNotif ++ ((if s.doubleAccessFlag then [s.appNotification] else [])
    ++ (s.ssRxNotifFifo ++ nonzero s.siFsmNotif)) = s.due
  first : s.doubleAccessFlag = true → s.dmStatus1.okay = true
  flags : (s.ssRxNotifFifo ++ nonzero s.siFsmNotif).length
    ≤ (s.mwr.soSplitSeg ++ s.mwr.siCmd.map DmCmd.wraps).length
  sts : s.siMemWrSts.length
      + (s.mwr.soMemWrCmd ++ (mwrOwed s.mwr ++ s.mwr.siCmd.flatMap mwrCmds)).length
    = (if s.doubleAccessFlag then 1 else 0)
      + ((s.mwr.soSplitSeg ++ s.mwr.siCmd.map DmCmd.wraps).map accesses).sum

lemma RanReset.kept {s : RanState} (h : RanReset s) : RanKept s := by
  have howed : mwrOwed s.mwr = [] := by rw [mwrOwed, h.fsmState]
  refine ⟨?_, ?_, ?_, ?_⟩
  · rw [h.soRAiRxNotif, h.doubleAccessFlag, h.ssRxNotifFifo, h.siFsmNotif, h.due]
    rfl
  · rw [h.doubleAccessFlag]
    exact fun h => by cases h
  · rw [h.ssRxNotifFifo, h.siFsmNotif, h.soSplitSeg, h.siCmd]
    rfl
  · rw [h.siMemWrSts, h.soMemWrCmd, h.soSplitSeg, h.siCmd, howed, h.doubleAccessFlag]
    rfl

section Complete

variable {s : RanState} {k : RanCycle}

lemma ranEnqueue_kept (h : RanKept s) (hdouble : s.doubleAccessFlag = false) :
    RanKept (ranEnqueue s k) := by
  obtain ⟨hout, hfirst, hflags, hsts⟩ := h
  rw [ranEnqueue]
  split
  · next n ns hns =>
      split
      · rw [hdouble, if_neg Bool.false_ne_true] at hout
        rw [hns] at hout hflags
        dsimp only
        split
        · next hn =>
            rw [nonzero_cons_of_ne hn] at hout hflags
            refine ⟨?_, hfirst, ?_, hsts⟩
            · rw [hdouble, if_neg Bool.false_ne_true, List.append_assoc s.ssRxNotifFifo]
              exact hout
            · rw [List.append_assoc]
              exact hflags
        · next hn =>
            rw [nonzero_cons_of_eq (not_not.mp hn)] at hout hflags
            refine ⟨?_, hfirst, hflags, hsts⟩
            rw [hdouble, if_neg Bool.false_ne_true]
            exact hout
      · exact ⟨hout, hfirst, hflags, hsts⟩
  · exact ⟨hout, hfirst, hflags, hsts⟩

lemma ranSecond_kept (h : RanKept s) (hdouble : s.doubleAccessFlag = true)
    (hl : ¬RanLoses s (.notifier k)) : RanKept (ranSecond s k) := by
  obtain ⟨hout, hfirst, hflags, hsts⟩ := h
  rw [ranSecond]
  split
  · next sts stss hs =>
      split
      · next hk =>
          have hok : sts.2.okay = true := by
            by_contra hno
            exact hl ⟨hk, by simpa [hs] using hno, .inl hdouble⟩
          rw [hdouble, if_pos rfl] at hout hsts
          rw [hs, List.length_cons] at hsts
          dsimp only
          rw [if_pos ⟨hfirst hdouble, hok⟩]
          refine ⟨?_, (fun h => by cases h), hflags, ?_⟩
          · rw [← hout]
            simp
          · simp only [Bool.false_eq_true, if_false]
            omega
      · exact ⟨hout, hfirst, hflags, hsts⟩
  · exact ⟨hout, hfirst, hflags, hsts⟩

lemma ranFirst_kept (h : RanKept s) (hdouble : s.doubleAccessFlag = false)
    (hl : ¬RanLoses s (.notifier k)) : RanKept (ranFirst s k) := by
  rw [ranFirst]
  split
  · next sts stss double fs n ns hs hsplit hfifo =>
      split
      · next hk =>
          obtain ⟨hout, hfirst, hflags, hsts⟩ := h
          have hok : sts.2.okay = true := by
            by_contra hno
            exact hl ⟨hk.1, by simpa [hs] using hno, .inr ⟨hk.2.1, hk.2.2, by simp [hsplit],
              by simp [hfifo]⟩⟩
          rw [hdouble, if_neg Bool.false_ne_true] at hout hsts
          rw [hfifo] at hout hflags
          rw [hsplit, List.cons_append] at hflags hsts
          rw [hs, List.length_cons, List.map_cons, List.sum_cons] at hsts
          have hflags' : (ns ++ nonzero s.siFsmNotif).length
              ≤ (fs ++ s.mwr.siCmd.map DmCmd.wraps).length := Nat.le_of_succ_le_succ hflags
          have hsts' : stss.length
                + (s.mwr.soMemWrCmd ++ (mwrOwed s.mwr ++ s.mwr.siCmd.flatMap mwrCmds)).length
              = (if double then 1 else 0)
                + ((fs ++ s.mwr.siCmd.map DmCmd.wraps).map accesses).sum := by
            rw [accesses] at hsts
            split at hsts
            · next hd =>
                rw [if_pos hd]
                omega
            · next hd =>
                rw [if_neg hd]
                omega
          dsimp only
          split
          · next hd =>
              refine ⟨?_, fun _ => hok, hflags', hsts'⟩
              rw [hd, if_pos rfl]
              exact hout
          · next hd =>
              refine ⟨?_, (fun h => absurd h hd), hflags', hsts'⟩
              rw [if_neg hd, ← hout]
              simp
      · exact ranEnqueue_kept h hdouble
  · exact ranEnqueue_kept h hdouble

lemma pRxAppNotifier_kept (h : RanKept s) (hl : ¬RanLoses s (.notifier k)) :
    RanKept (pRxAppNotifier s k) := by
  have hcall : RanKept (if s.doubleAccessFlag then ranSecond s k else ranFirst s k) := by
    split
    · next hd => exact ranSecond_kept h hd hl
    · next hd => exact ranFirst_kept h (by simpa using hd) hl
  rw [pRxAppNotifier]
  split
  · obtain ⟨h1, h2, h3, h4⟩ := hcall
    exact ⟨h1, h2, h3, h4⟩
  · exact hcall

/-- The state machine processes a segment that does not close without payload. -/
lemma ranTransition_kept {m : RXeFsmMeta} {rxSar : RxSarReply} {tcpState : TcpState}
    {txSar : RXeTxSarReply} (h : RanKept s)
    (hclose : closesWithoutPayload m tcpState rxSar = false) :
    RanKept (ranTransition s m rxSar tcpState txSar) := by
  obtain ⟨hout, hfirst, hflags, hsts⟩ := h
  have hemits := fsmTransition_emits m tcpState rxSar txSar
  rw [ranTransition]
  generalize fsmTransition m tcpState rxSar txSar = out at hemits ⊢
  generalize out.memWrCmd = cmds at hemits ⊢
  generalize out.rxNotif = ns at hemits ⊢
  -- one more write command comes with its split flag and its statuses
  have hcmd (c : DmCmd) : s.siMemWrSts.length + (s.mwr.soMemWrCmd ++
        (mwrOwed s.mwr ++ (s.mwr.siCmd ++ [c]).flatMap mwrCmds)).length
      = (if s.doubleAccessFlag then 1 else 0)
        + ((s.mwr.soSplitSeg ++ (s.mwr.siCmd ++ [c]).map DmCmd.wraps).map accesses).sum := by
    simp only [List.flatMap_append, List.flatMap_singleton, List.map_append, List.map_cons,
      List.map_nil, List.length_append, List.sum_append, List.sum_cons, List.sum_nil,
      length_mwrCmds] at hsts ⊢
    omega
  cases hemits with
  | nothing =>
      refine ⟨?_, hfirst, ?_, ?_⟩
      · simpa using hout
      · simpa using hflags
      · simpa using hsts
  | @segment c n hn hooo =>
      refine ⟨?_, hfirst, ?_, hcmd c⟩
      · rw [nonzero_append, nonzero_cons_of_ne hn, if_neg (by simp [hooo]), ← hout]
        simp [nonzero]
      · rw [nonzero_append, nonzero_cons_of_ne hn]
        simp only [List.length_append, List.length_map, List.length_cons, List.length_nil, nonzero,
          List.filter_nil] at hflags ⊢
        omega
  | @outOfOrder c n hn hooo =>
      refine ⟨?_, hfirst, ?_, hcmd c⟩
      · rw [nonzero_append, nonzero_cons_of_eq hn, if_pos hooo, ← hout]
        simp [nonzero]
      · rw [nonzero_append, nonzero_cons_of_eq hn]
        simp only [List.length_append, List.length_map, List.length_cons, List.length_nil, nonzero,
          List.filter_nil] at hflags ⊢
        omega
  | close _ h => rw [hclose] at h; cases h

lemma ranNext_kept {l : RanLabel} (h : RanKept s) (hl : ¬RanLoses s l) :
    RanKept (ranNext s l) := by
  cases l with
  | load m =>
      rw [ranNext]
      split
      · exact ⟨h.out, h.first, h.flags, h.sts⟩
      · exact h
  | transition tcpState txSar =>
      rw [ranNext]
      split
      · next m rxSar hheld =>
          refine ranTransition_kept h ?_
          simpa [RanLoses, hheld] using hl
      · exact h
  | appRead req => exact ⟨h.out, h.first, h.flags, h.sts⟩
  | data c => exact ⟨h.out, h.first, h.flags, h.sts⟩
  | memoryWriter k =>
      obtain ⟨hf, hc⟩ := @pRxMemoryWriter_passes s.mwr k
      have hflags := h.flags
      have hsts := h.sts
      rw [← hf] at hflags hsts
      rw [← hc] at hsts
      exact ⟨h.out, h.first, hflags, hsts⟩
  | memory sts =>
      rw [ranNext]
      split
      · next c cs hcmd =>
          have hsts := h.sts
          rw [hcmd, List.cons_append, List.length_cons] at hsts
          have hsts' : (s.siMemWrSts ++ [(c, sts)]).length
                + (cs ++ (mwrOwed s.mwr ++ s.mwr.siCmd.flatMap mwrCmds)).length
              = (if s.doubleAccessFlag then 1 else 0)
                + ((s.mwr.soSplitSeg ++ s.mwr.siCmd.map DmCmd.wraps).map accesses).sum := by
            rw [List.length_append, List.length_singleton]
            omega
          exact ⟨h.out, h.first, h.flags, hsts'⟩
      · exact h
  | notifier k => exact pRxAppNotifier_kept h hl

/-- As many statuses as the split flags ask for. -/
lemma length_le_accesses (fs : List Bool) : fs.length ≤ (fs.map accesses).sum := by
  induction fs with
  | nil => exact le_refl 0
  | cons f fs ih =>
      have hf : 1 ≤ accesses f := by cases f <;> decide
      rw [List.map_cons, List.sum_cons, List.length_cons]
      omega

theorem RanKept.complete (h : RanKept s) : RanComplete s := by
  obtain ⟨hout, hfirst, hflags, hsts⟩ := h
  refine ⟨⟨_, hout⟩, fun hq => ?_⟩
  obtain ⟨hnotif, hcmd, howed, hwr, hran⟩ := hq
  rw [hwr, howed, hcmd] at hsts
  rw [hnotif, hcmd] at hflags
  have hle := length_le_accesses s.mwr.soSplitSeg
  simp only [List.map_nil, List.append_nil, List.flatMap_nil, List.length_nil, nonzero,
    List.filter_nil] at hflags hsts
  -- the statuses are all read, so no split flag is left, and no notification waits
  have hdouble : s.doubleAccessFlag = false := by
    obtain hno | ⟨hd, -⟩ := hran
    · by_contra hd
      rw [hno, if_pos (by simpa using hd), List.length_nil] at hsts
      omega
    · exact hd
  have hfifo : s.ssRxNotifFifo = [] := by
    obtain hno | ⟨-, hsplit | hfifo⟩ := hran
    · rw [hno, List.length_nil] at hsts
      exact List.eq_nil_of_length_eq_zero (by omega)
    · rw [hsplit, List.length_nil] at hflags
      exact List.eq_nil_of_length_eq_zero (by omega)
    · exact hfifo
  rw [hdouble, hfifo, hnotif] at hout
  simpa [nonzero] using hout

end Complete

end CloudFpga.Toe
