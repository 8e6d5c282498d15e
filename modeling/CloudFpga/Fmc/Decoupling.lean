import CloudFpga.Fmc.Call

/-!
The decoupling of the role: while a configuration is unfinished, the FMC drives `setDecoup`.

* `DecoupInv`: an unfinished configuration is decoupled, and so is one whose words can still come.
* `Careful`: the calls in which the programs do not couple a partially configured role.
* `HttpStep.decoupInv`, `opProgram_decoupInv`, `Careful.fmc`: an outcome of a program, the program
  of an operation and a call keep the invariant.
* `decoupled_of_careful`: runs. `not_decoupled_hwicap`: a run that couples such a role.
-/

namespace CloudFpga.Fmc.Plan

open Nal Http
open Foundation

namespace FmcRegs

variable (s : FmcRegs)

/-- An unfinished configuration is decoupled. -/
structure Safe : Prop where
  unfinished : s.history.unfinished = true → s.toDecoup = true
  active : s.fsmHwicap.active = true → s.toDecoup = true

/-- The invariant of the calls. -/
structure DecoupInv : Prop extends s.Safe where
  phase : s.IsHttp → s.globalOperationDone = false → s.transferError = false →
    s.InHeader ∨ s.InPayload .postRouting ∨ s.InPayload .postConfig ∧ s.toDecoup = true
  quiet : s.currentGlobalOperation = .xmemHttp ∨ s.currentGlobalOperation = .xmemToHwicap ∨
    s.currentGlobalOperation = .xmemCheckPattern → s.fsmHwicap.active = false
  quietTcp : s.currentGlobalOperation = .tcpHttp → s.fsmHwicap.active = true →
    s.InPayload .postConfig
  wrote : s.currentGlobalOperation = .tcpHttp → s.fsmHwicap = .done →
    s.history.unfinished = true → s.history.wrote = true

end FmcRegs

/-- The payload of a configuration begins with exactly one byte. -/
def OneByte (c : FmcCall) (q : FmcRegs) : Prop :=
  q.IsHttp ∧ q.InHeader ∧ c.path = .postConfig ∧ c.onePayloadByte = true

/-- HWICAP is not ready in an HTTP configuration that goes on. -/
def HwicapFails (c : FmcCall) (q : FmcRegs) : Prop :=
  q.InPayload .postConfig ∧
    (q.currentGlobalOperation = .xmemHttp ∧ c.eos = false ∧
        (c.copied = .page ∨ c.copied = .lastPage) ∨
      q.currentGlobalOperation = .tcpHttp ∧ q.fsmHwicap = .error)

/-- A configuration that comes through XMEM ends without a word. -/
def EndsEmpty (c : FmcCall) (q : FmcRegs) : Prop :=
  c.copied = .lastPage ∧ c.bufferWord = false ∧ q.history.wrote = false ∧
    (q.currentGlobalOperation = .xmemToHwicap ∨
      q.currentGlobalOperation = .xmemHttp ∧
        (q.InPayload .postConfig ∨ q.InHeader ∧ c.path = .postConfig))

/-- A configuration that comes through the FIFO ends without a word. -/
def FifoEndsEmpty (c : FmcCall) (s : FmcRegs) : Prop :=
  s.currentGlobalOperation = .tcpHttp ∧ s.fsmHwicap = .write ∧ c.eos = true ∧ c.fifoEnd = true ∧
    c.fifoWord = false ∧ s.history.wrote = false

/-- The role is coupled by hand. -/
def Releases (c : FmcCall) (s : FmcRegs) : Prop :=
  s.currentGlobalOperation = .manualDecoupling ∧ c.manuallyToDecoup = false

/-- An operation starts with an abort, and the FIFO is not emptied. -/
def StartsAborted (c : FmcCall) (s : FmcRegs) : Prop :=
  MayStart c s ∧ c.wasAbort = true ∧ (makePlan c s).1.currentGlobalOperation.recorded = true ∧
    (makePlan c s).1.currentGlobalOperation ≠ .xmemCheckPattern

instance (c : FmcCall) (q : FmcRegs) : Decidable (OneByte c q) :=
  inferInstanceAs (Decidable (_ ∧ _))
instance (c : FmcCall) (q : FmcRegs) : Decidable (HwicapFails c q) :=
  inferInstanceAs (Decidable (_ ∧ _))
instance (c : FmcCall) (q : FmcRegs) : Decidable (EndsEmpty c q) :=
  inferInstanceAs (Decidable (_ ∧ _))

/-- The calls that are none of these: the payload of a configuration begins with exactly one byte;
and while a configuration is unfinished or its words can still come, HWICAP is not ready in an HTTP
configuration that goes on, a configuration ends without a word, the role is coupled by hand, or an
operation starts with an abort, so that the FIFO is not emptied. -/
structure Careful (c : FmcCall) (s : FmcRegs) : Prop where
  header : c.wasAbort = false → ¬ OneByte c (entry c s)
  hwicap : c.wasAbort = false → (entry c s).history.unfinished = true → ¬ HwicapFails c (entry c s)
  buffer : c.wasAbort = false → (entry c s).history.unfinished = true → ¬ EndsEmpty c (entry c s)
  fifo : s.history.unfinished = true → ¬ FifoEndsEmpty c s
  manual : Releases c s → s.history.unfinished = false ∧ s.fsmHwicap.active = false
  start : StartsAborted c s → s.fsmHwicap.active = false

instance (c : FmcCall) (s : FmcRegs) : Decidable (FifoEndsEmpty c s) :=
  inferInstanceAs (Decidable (_ ∧ _))
instance (c : FmcCall) (s : FmcRegs) : Decidable (Releases c s) :=
  inferInstanceAs (Decidable (_ ∧ _))
instance (c : FmcCall) (s : FmcRegs) : Decidable (StartsAborted c s) :=
  inferInstanceAs (Decidable (_ ∧ _))
instance (c : FmcCall) (s : FmcRegs) : Decidable (Careful c s) :=
  decidable_of_iff (_ ∧ _ ∧ _ ∧ _ ∧ _ ∧ _)
    ⟨fun h => ⟨h.1, h.2.1, h.2.2.1, h.2.2.2.1, h.2.2.2.2.1, h.2.2.2.2.2⟩,
      fun h => ⟨h.header, h.hwicap, h.buffer, h.fifo, h.manual, h.start⟩⟩

/-! ### The state machine behind the FIFO -/

section Fsm

variable {c : FmcCall} {s : FmcRegs}

/-- Words that come are decoupled. -/
lemma FmcRegs.Safe.icapFsm (h : s.Safe) (c : FmcCall) : (icapFsm c s).Safe := by
  obtain ⟨f, hist, heq, -⟩ := icapFsm_frame c s
  have hact := icapFsm_active c s
  refine ⟨fun hu => ?_, fun ha => ?_⟩
  · have htoDecoup : (Plan.icapFsm c s).toDecoup = s.toDecoup := by rw [heq]
    rw [htoDecoup]
    by_cases ha : s.fsmHwicap.active = true
    · exact h.active ha
    · rw [icapFsm_history (Bool.eq_false_of_not_eq_true ha)] at hu
      exact h.unfinished hu
  · rw [hact] at ha
    have htoDecoup : (Plan.icapFsm c s).toDecoup = s.toDecoup := by rw [heq]
    rw [htoDecoup]
    exact h.active ha

/-- The end of the data comes behind a word. -/
lemma icapFsm_wrote (hop : s.currentGlobalOperation = .tcpHttp)
    (h : s.fsmHwicap = .done → s.history.unfinished = true → s.history.wrote = true)
    (hc : s.history.unfinished = true → ¬ FifoEndsEmpty c s)
    (hdone : (icapFsm c s).fsmHwicap = .done) (hu : (icapFsm c s).history.unfinished = true) :
    (icapFsm c s).history.wrote = true := by
  rw [icapFsm] at hdone hu ⊢
  cases hf : s.fsmHwicap with
  | idle => rw [hf] at hdone; dsimp only at hdone; rw [hf] at hdone; cases hdone
  | write =>
      rw [hf] at hdone hu
      dsimp only at hdone hu ⊢
      cases heos : c.eos with
      | false =>
          rw [heos, if_neg Bool.false_ne_true] at hdone
          cases hdone
      | true =>
          rw [heos, if_pos rfl] at hdone hu
          rw [if_pos rfl]
          dsimp only at hdone hu ⊢
          cases hend : c.fifoEnd with
          | false =>
              rw [hend, if_neg Bool.false_ne_true] at hdone
              cases hdone
          | true =>
              rcases Bool.or_eq_true_iff.mp hu with hu | hw
              · by_contra hnone
                obtain ⟨hold, hword⟩ := Bool.or_eq_false_iff.mp (Bool.eq_false_of_not_eq_true hnone)
                exact hc hu ⟨hop, hf, heos, hend, hword, hold⟩
              · rw [hw, Bool.or_true]
  | done => rw [hf] at hu; exact h hf hu
  | error => rw [hf] at hdone; dsimp only at hdone; rw [hf] at hdone; cases hdone
  | drain => rw [hf] at hdone; cases hdone

lemma FmcRegs.DecoupInv.icapFsm (h : s.DecoupInv)
    (hc : s.history.unfinished = true → ¬ FifoEndsEmpty c s) : (icapFsm c s).DecoupInv := by
  have hsafe := h.toSafe.icapFsm c
  have hact := icapFsm_active c s
  have hwrote := fun hop => icapFsm_wrote hop (h.wrote hop) hc
  obtain ⟨f, hist, heq, -⟩ := icapFsm_frame c s
  rw [heq] at hsafe hact hwrote ⊢
  refine ⟨hsafe, h.phase, fun hop => ?_, fun hop ha => ?_, hwrote⟩
  · rw [hact]
    exact h.quiet hop
  · rw [hact] at ha
    exact h.quietTcp hop ha

end Fsm

/-! ### The outcomes of an HTTP operation -/

section Http

variable {c : FmcCall} {s s' h : FmcRegs}

/-- Words can come in the payload of a configuration only. -/
lemma FmcRegs.DecoupInv.active_eq_false (h : s.DecoupInv) (hop : s.IsHttp)
    (ht : s.reqType ≠ .postConfig) : s.fsmHwicap.active = false := by
  rcases hop with hop | hop
  · exact h.quiet (.inl hop)
  · by_contra ha
    exact ht (h.quietTcp hop (Bool.eq_true_of_not_eq_false ha)).2

/-- Registers at which no words can come. -/
lemma decoupInv_quiet (hsafe : s'.history.unfinished = true → s'.toDecoup = true)
    (hact : s'.fsmHwicap.active = false)
    (hphase : s'.IsHttp → s'.globalOperationDone = false → s'.transferError = false →
      s'.InHeader ∨ s'.InPayload .postRouting ∨ s'.InPayload .postConfig ∧ s'.toDecoup = true) :
    s'.DecoupInv :=
  ⟨⟨hsafe, fun ha => absurd (hact.symm.trans ha) Bool.false_ne_true⟩, hphase, fun _ => hact,
    fun _ ha => absurd (hact.symm.trans ha) Bool.false_ne_true,
    fun _ hdone => by rw [hdone] at hact; cases hact⟩

/-- The registers at which the payload of a routing table begins or goes on. -/
lemma Payload.routing (hh : Payload c s .postRouting h) (hs : s.DecoupInv) (hop : s.IsHttp) :
    h.InPayload .postRouting ∧ h.fsmHwicap.active = false ∧
      (h.history.unfinished = true → h.toDecoup = true) := by
  cases hh with
  | beginRouting hin hpath =>
      have hact := hs.active_eq_false hop hin.2.1
      obtain ⟨hst, -, ht⟩ := header_reqType (s := s) (c := c) (.inr hpath)
      have hpay : (s.header c).InPayload .postRouting := ⟨.inl hst, ht hpath⟩
      obtain ⟨_, _, _, hist, heq, hu, -⟩ := header_frame c s
      rw [heq] at hpay ⊢
      exact ⟨hpay, hact, fun h => hs.unfinished (hu ▸ h)⟩
  | goOnRouting hin =>
      have hne : s.reqType ≠ .postConfig := fun ht => nomatch ht.symm.trans hin.2
      exact ⟨hin, hs.active_eq_false hop hne, hs.unfinished⟩

/-- The registers at which the payload of a configuration begins or goes on: the role is
decoupled. -/
lemma Payload.config (hh : Payload c s .postConfig h) (hs : s.DecoupInv) (hop : s.IsHttp)
    (hdone : s.globalOperationDone = false) (herr : s.transferError = false) :
    h.InPayload .postConfig ∧ h.toDecoup = true ∧
      h.currentGlobalOperation = s.currentGlobalOperation ∧ h.fsmHwicap = s.fsmHwicap ∧
      h.history.unfinished = s.history.unfinished ∧ h.history.wrote = s.history.wrote := by
  cases hh with
  | beginConfig hin hpath =>
      obtain ⟨hst, ht, -⟩ := header_reqType (s := s) (c := c) (.inl hpath)
      have hpay : (s.header c).InPayload .postConfig := ⟨.inl hst, ht hpath⟩
      obtain ⟨_, _, _, hist, heq, hu, hw⟩ := header_frame c s
      rw [heq] at hpay ⊢
      exact ⟨hpay, rfl, rfl, rfl, hu, hw⟩
  | goOnConfig hin =>
      refine ⟨hin, ?_, rfl, rfl, rfl, rfl⟩
      rcases hs.phase hop hdone herr with hh | hr | ⟨-, hd⟩
      · exact absurd hin.2 hh.2.1
      · exact nomatch hr.2.symm.trans hin.2
      · exact hd

/-- **The outcomes of a careful call** keep the invariant. -/
lemma HttpStep.decoupInv (h : HttpStep c s s') (hs : s.DecoupInv) (hop : s.IsHttp)
    (hdone : s.globalOperationDone = false) (herr : s.transferError = false)
    (hdrain : s.fsmHwicap ≠ .drain) (hheader : ¬ OneByte c s)
    (hhwicap : s.history.unfinished = true → ¬ HwicapFails c s)
    (hbuffer : s.history.unfinished = true → ¬ EndsEmpty c s) : s'.DecoupInv := by
  cases h with
  | waits => exact ⟨⟨hs.unfinished, hs.active⟩, hs.phase, hs.quiet, hs.quietTcp, hs.wrote⟩
  | pageFails => exact ⟨⟨hs.unfinished, hs.active⟩, nofun, hs.quiet, hs.quietTcp, hs.wrote⟩
  | headerOpen hin hpath =>
      have hact := hs.active_eq_false hop hin.2.1
      have hin' := header_inHeader hin hpath
      obtain ⟨_, _, _, hist, heq, hu, -⟩ := header_frame c s
      rw [heq] at hin' ⊢
      exact decoupInv_quiet (fun h => hs.unfinished (hu ▸ h)) hact fun _ _ _ => .inl hin'
  | refused hin hpath =>
      have hact := hs.active_eq_false hop hin.2.1
      obtain ⟨_, _, _, hist, heq, hu, -⟩ := header_frame c s
      rw [heq]
      exact decoupInv_quiet (fun h => hs.unfinished (hu ▸ h)) hact nofun
  | answered hin hpath =>
      have hact := hs.active_eq_false hop hin.2.1
      obtain ⟨_, _, _, hist, heq, hu, -⟩ := header_frame c s
      rw [heq]
      exact decoupInv_quiet (fun h => hs.unfinished (hu ▸ h)) hact nofun
  | corner hin hpath hone =>
      have hact := hs.active_eq_false hop hin.2.1
      obtain ⟨-, -, ht⟩ := header_reqType (s := s) hpath
      rcases hpath with hpath | hpath
      · exact absurd ⟨hop, hin, hpath, hone⟩ hheader
      · have ht := ht hpath
        obtain ⟨_, _, _, hist, heq, hu, -⟩ := header_frame c s
        rw [heq] at ht ⊢
        exact decoupInv_quiet (fun h => hs.unfinished (hu ▸ h)) hact
          fun _ _ _ => .inr (.inl ⟨.inr rfl, ht⟩)
  | routed hh =>
      obtain ⟨hpay, hact, hsafe⟩ := hh.routing hs hop
      cases c.routing with
      | notComplete => exact decoupInv_quiet hsafe hact fun _ _ _ => .inr (.inl hpay)
      | stored | invalid | disabled => exact decoupInv_quiet hsafe hact nofun
  | bufferOpen hxmem hh heos hpage =>
      obtain ⟨hpay, hd, hcur, hf, -, -⟩ := hh.config hs hop hdone herr
      have hact := hs.quiet (.inl hxmem)
      rw [← hf] at hact
      exact decoupInv_quiet (fun _ => hd) hact fun _ _ _ => .inr (.inr ⟨hpay, hd⟩)
  | fifoOpen htcp hh hicap =>
      obtain ⟨hpay, hd, hcur, hf, hu, hw⟩ := hh.config hs hop hdone herr
      refine ⟨⟨fun _ => hd, fun _ => hd⟩, fun _ _ _ => .inr (.inr ⟨hpay, hd⟩), fun hx => ?_,
        fun _ _ => hpay, fun _ h => nomatch h⟩
      rw [htcp] at hcur
      rcases hx with hx | hx | hx <;> exact nomatch hcur.symm.trans hx
  | fifoBusy htcp hin hicap =>
      exact ⟨⟨hs.unfinished, hs.active⟩, hs.phase, hs.quiet, hs.quietTcp, hs.wrote⟩
  | bufferDone hxmem hh heos hlast =>
      have hh' := hh
      obtain ⟨hpay, hd, hcur, hf, hu, hw⟩ := hh.config hs hop hdone herr
      have hact := hs.quiet (.inl hxmem)
      rw [← hf] at hact
      refine decoupInv_quiet (fun hend => ?_) hact nofun
      obtain ⟨hunf, hnot⟩ := Bool.and_eq_true_iff.mp hend
      have hnone := Bool.or_eq_false_iff.mp (Bool.not_eq_true' _ ▸ hnot)
      have hunf : s.history.unfinished = true := by
        rcases Bool.or_eq_true_iff.mp hunf with hunf | hword
        · exact hu ▸ hunf
        · exact absurd (hnone.2.symm.trans hword) Bool.false_ne_true
      have hcfg : s.InPayload .postConfig ∨ s.InHeader ∧ c.path = .postConfig := by
        cases hh' with
        | beginConfig hin hpath => exact .inr ⟨hin, hpath⟩
        | goOnConfig hin => exact .inl hin
      exact absurd ⟨hlast, hnone.2, hw ▸ hnone.1, .inr ⟨hxmem, hcfg⟩⟩ (hbuffer hunf)
  | fifoDone htcp hin hicap =>
      refine decoupInv_quiet (fun hend => ?_) rfl nofun
      obtain ⟨hunf, hnot⟩ := Bool.and_eq_true_iff.mp hend
      have hw := hs.wrote htcp hicap hunf
      rw [hw] at hnot
      cases hnot
  | beginFails hxmem hin hpath hone hcopy heos =>
      have hact := hs.active_eq_false hop hin.2.1
      obtain ⟨_, _, _, hist, heq, hu, -⟩ := header_frame c s
      rw [heq]
      exact decoupInv_quiet (fun _ => rfl) hact nofun
  | bufferFails hxmem hin hcopy heos =>
      refine decoupInv_quiet (fun hunf => ?_) (hs.quiet (.inl hxmem)) nofun
      exact absurd ⟨hin, .inl ⟨hxmem, heos, hcopy⟩⟩ (hhwicap hunf)
  | fifoFails htcp hin hicap =>
      refine decoupInv_quiet (fun hunf => ?_) rfl nofun
      have herror := hicap.resolve_right hdrain
      exact absurd ⟨hin, .inr ⟨htcp, herror⟩⟩ (hhwicap hunf)

end Http

/-! ### The programs of the operations -/

section Programs

variable {c : FmcCall} {s : FmcRegs} {e : Exec}

/-- What is recorded behind the plan does not matter for the decoupling. -/
lemma finish_decoupInv (h : e.regs.DecoupInv) : (finish e).DecoupInv :=
  ⟨⟨h.unfinished, h.active⟩, fun hop hdone herr =>
    h.phase hop (Bool.or_eq_false_iff.mp hdone).1 (Bool.or_eq_false_iff.mp herr).1,
    h.quiet, h.quietTcp, h.wrote⟩

lemma decoupInv_of_core {s' : FmcRegs} (h : s'.DecoupInv) (heq : s.core = s'.core) :
    s.DecoupInv := by
  have hcore : s'.core.DecoupInv := ⟨⟨h.unfinished, h.active⟩, h.phase, h.quiet, h.quietTcp, h.wrote⟩
  rw [← heq] at hcore
  exact ⟨⟨hcore.unfinished, hcore.active⟩, hcore.phase, hcore.quiet, hcore.quietTcp, hcore.wrote⟩

/-- A burst that is refused is the only other effect of the check of the pattern. -/
lemma xmemCopyData_core (e : Exec) :
    ∃ f, e.xmemCopyData.regs.core = { e.regs with history.failed := f }.core := by
  rw [Exec.xmemCopyData]
  cases e.copyRet.head?.getD .upToDate with
  | counterMismatch | corrupt => exact ⟨true, rfl⟩
  | upToDate | invalid | lastPage | page => exact ⟨e.regs.history.failed, rfl⟩

/-- The check of the pattern copies pages. -/
lemma xmemCheckPattern_core (e : Exec) :
    ∃ f, ((interpreter c).run xmemCheckPatternProgram e).regs.core =
      { e.regs with history.failed := f }.core := by
  refine GuardedMachine.run_invariant
    (P := fun x : Exec => ∃ f, x.regs.core = { e.regs with history.failed := f }.core)
    (fun x hx => ?_) (fun i hi x _ hx => ?_) ⟨_, rfl⟩
  · show ∃ f, (if x.silentSkip = true then x else x.returns .skipped).regs.core = _
    split <;> exact hx
  · have hop : i.opcode = .enableXmemCheckPattern ∨ i.opcode = .xmemCopyData ∨ i.opcode = .done := by
      simp only [xmemCheckPatternProgram, List.mem_append, List.mem_cons, List.not_mem_nil,
        List.mem_replicate, or_false] at hi
      rcases hi with ((rfl | rfl) | ⟨-, rfl⟩) | rfl <;> simp
    show ∃ f, (x.step c i.opcode).regs.core = _
    rcases hop with hop | hop | hop
    · rw [hop]
      exact hx
    · rw [hop]
      obtain ⟨f, hx⟩ := hx
      obtain ⟨g, hg⟩ := xmemCopyData_core x
      refine ⟨g, hg.trans ?_⟩
      exact congrArg (fun r : FmcRegs => { r with history.failed := g }) hx
    · rw [hop]
      exact hx

/-- A call of a transfer from XMEM to HWICAP: nothing new, a word, a failure, or the end. -/
lemma xmemToHwicap_step (hop : s.currentGlobalOperation = .xmemToHwicap)
    (hdone : s.globalOperationDone = false) (herr : s.transferError = false) :
    ∃ s', (s' = { s with toDecoup := true } ∨
        s' = { s.writesWord c.bufferWord with toDecoup := true } ∨
        s' = { s.fails with toDecoup := true, transferError := true } ∨
        c.copied = .lastPage ∧
          s' = { ({ regs := s.writesWord c.bufferWord } : Exec).completes.regs.changes with
            toDecoup := false, globalOperationDone := true }) ∧
      ∃ b, (finish ((interpreter c).run xmemToHwicapProgram (startExec c s .ok))).core =
        { s' with setDecoup := b }.core := by
  cases hcopy : c.copied with
  | upToDate | invalid =>
      refine ⟨_, .inl rfl, true, ?_⟩
      simp only [FmcCall.copied] at hcopy
      simp [startExec, xmemToHwicapProgram, finish, hcopy, FmcRegs.core, hop, hdone, herr]
  | counterMismatch | corrupt =>
      refine ⟨_, .inr (.inr (.inl rfl)), true, ?_⟩
      simp only [FmcCall.copied] at hcopy
      simp [startExec, xmemToHwicapProgram, finish, hcopy, FmcRegs.core, hop, hdone,
            FmcRegs.fails]
  | page =>
      simp only [FmcCall.copied] at hcopy
      cases heos : c.eos with
      | false =>
          refine ⟨_, .inr (.inr (.inl rfl)), true, ?_⟩
          simp [startExec, xmemToHwicapProgram, finish, hcopy, heos, FmcRegs.core, hop, hdone,
            FmcRegs.fails]
      | true =>
          refine ⟨_, .inr (.inl rfl), true, ?_⟩
          cases hmoves : c.bufferMoves <;>
            simp [startExec, xmemToHwicapProgram, finish, hcopy, heos, hmoves, FmcRegs.core, hop,
              hdone, herr, FmcRegs.writesWord]
  | lastPage =>
      have hret := hcopy
      simp only [FmcCall.copied] at hret
      cases heos : c.eos with
      | false =>
          refine ⟨_, .inr (.inr (.inl rfl)), true, ?_⟩
          simp [startExec, xmemToHwicapProgram, finish, hret, heos, FmcRegs.core, hop, hdone,
            FmcRegs.fails]
      | true =>
          refine ⟨_, .inr (.inr (.inr ⟨rfl, rfl⟩)), false, ?_⟩
          simp [startExec, xmemToHwicapProgram, finish, hret, heos, FmcRegs.core, hop, hdone, herr,
            FmcRegs.writesWord, FmcRegs.changes]

/-- **A careful call of a transfer from XMEM to HWICAP** keeps the invariant. -/
lemma xmemToHwicap_decoupInv (hs : s.DecoupInv) (hop : s.currentGlobalOperation = .xmemToHwicap)
    (hdone : s.globalOperationDone = false) (herr : s.transferError = false)
    (hbuffer : s.history.unfinished = true → ¬ EndsEmpty c s) :
    (finish ((interpreter c).run xmemToHwicapProgram (startExec c s .ok))).DecoupInv := by
  have hact := hs.quiet (.inr (.inl hop))
  have hhttp : ¬ s.IsHttp := by
    rintro (hop' | hop') <;> exact nomatch hop.symm.trans hop'
  obtain ⟨s', hcases, b, heq⟩ := xmemToHwicap_step (c := c) hop hdone herr
  refine decoupInv_of_core ?_ heq
  rcases hcases with rfl | rfl | rfl | ⟨hlast, rfl⟩
  · exact decoupInv_quiet (fun _ => rfl) hact fun hop' => absurd hop' hhttp
  · exact decoupInv_quiet (fun _ => rfl) hact fun hop' => absurd hop' hhttp
  · exact decoupInv_quiet (fun _ => rfl) hact fun hop' => absurd hop' hhttp
  · refine decoupInv_quiet (fun hend => ?_) hact fun hop' => absurd hop' hhttp
    obtain ⟨hunf, hnot⟩ := Bool.and_eq_true_iff.mp hend
    have hnone := Bool.or_eq_false_iff.mp (Bool.not_eq_true' _ ▸ hnot)
    have hunf : s.history.unfinished = true := by
      rcases Bool.or_eq_true_iff.mp hunf with hunf | hword
      · exact hunf
      · exact absurd (hnone.2.symm.trans hword) Bool.false_ne_true
    exact absurd ⟨hlast, hnone.2, hnone.1, .inl hop⟩ (hbuffer hunf)

/-- **The program of an operation in a careful call** keeps the invariant. -/
lemma opProgram_decoupInv (hs : s.DecoupInv) (hrec : s.currentGlobalOperation.recorded = true)
    (hdone : s.globalOperationDone = false) (herr : s.transferError = false)
    (hdrain : s.fsmHwicap ≠ .drain)
    (habort : s.currentGlobalOperation ≠ .xmemCheckPattern → c.wasAbort = false)
    (hheader : c.wasAbort = false → ¬ OneByte c s)
    (hhwicap : c.wasAbort = false → s.history.unfinished = true → ¬ HwicapFails c s)
    (hbuffer : c.wasAbort = false → s.history.unfinished = true → ¬ EndsEmpty c s) :
    (finish ((interpreter c).run (opProgram s)
      { regs := s, wasAbort := c.wasAbort, copyRet := c.copyRet })).DecoupInv := by
  have http (hhttp : s.IsHttp) : (finish ((interpreter c).run (opProgram s)
      { regs := s, wasAbort := c.wasAbort, copyRet := c.copyRet })).DecoupInv := by
    have hno := habort fun h => by rcases hhttp with h' | h' <;> cases h.symm.trans h'
    have hphase : s.InPhase := by
      rcases hs.phase hhttp hdone herr with hin | hin | hin
      · refine .inl ⟨hin, fun _ => ?_⟩
        have hact := hs.active_eq_false hhttp hin.2.1
        cases hf : s.fsmHwicap with
        | idle => rfl
        | drain => exact absurd hf hdrain
        | write | done | error => rw [hf] at hact; cases hact
      · exact .inr (.inl hin)
      · exact .inr (.inr hin.1)
    obtain ⟨t, s', hstep, heq⟩ := httpProgram_step (c := c) hhttp ⟨rfl, hdone, herr⟩ hphase
    rw [opProgram_http hhttp, hno]
    refine decoupInv_of_core (hstep.decoupInv ?_ hhttp hdone herr hdrain (hheader hno)
      (hhwicap hno) (hbuffer hno)) heq
    exact ⟨⟨hs.unfinished, hs.active⟩, hs.phase, hs.quiet, hs.quietTcp, hs.wrote⟩
  cases hop : s.currentGlobalOperation with
  | xmemCheckPattern =>
      have hprog : opProgram s = xmemCheckPatternProgram := by rw [opProgram, hop]
      rw [hprog]
      obtain ⟨f, hcore⟩ := xmemCheckPattern_core (c := c)
        { regs := s, wasAbort := c.wasAbort, copyRet := c.copyRet }
      have hfailed : { s with history.failed := f }.DecoupInv :=
        ⟨⟨hs.unfinished, hs.active⟩, hs.phase, hs.quiet, hs.quietTcp, hs.wrote⟩
      exact finish_decoupInv (decoupInv_of_core hfailed hcore)
  | xmemToHwicap =>
      have hprog : opProgram s = xmemToHwicapProgram := by rw [opProgram, hop]
      have hno := habort (by rw [hop]; rintro ⟨⟩)
      rw [hprog, hno]
      exact xmemToHwicap_decoupInv hs hop hdone herr (hbuffer hno)
  | xmemHttp => exact http (.inl hop)
  | tcpHttp => exact http (.inr hop)
  | idle | manualDecoupling => exact absurd hrec (by rw [hop]; decide)

end Programs

/-! ### A call -/

section Call

variable {c : FmcCall} {s q : FmcRegs} {clear : List Instr}

/-- A call without a program. -/
lemma fmc_rests (hq : (icapFsm c q).DecoupInv) (hplan : makePlan c s = (q, [])) :
    (fmc c s).DecoupInv := by
  rw [fmc, hplan]
  exact finish_decoupInv hq

/-- Registers outside the operations. -/
lemma decoupInv_idle (hs : s.DecoupInv) (hop : q.currentGlobalOperation = .idle)
    (hframe : ∃ o d e i l, q = { s with
      currentGlobalOperation := o, globalOperationDone := d, transferError := e,
      invalidPayload := i, lastXmemPageReceived := l }) : q.DecoupInv := by
  obtain ⟨o, d, e, i, l, rfl⟩ := hframe
  cases hop
  refine ⟨⟨hs.unfinished, hs.active⟩, ?_, ?_, nofun, nofun⟩
  · rintro (h | h) <;> cases h
  · rintro (h | h | h) <;> cases h

/-- The program of an operation goes on. -/
lemma fmc_continues (hs : (icapFsm c s).DecoupInv) (hc : Careful c s) (hmay : ¬ MayStart c s)
    (hrec : s.currentGlobalOperation.recorded = true) (hdone : s.globalOperationDone = false)
    (hplan : makePlan c s = opPlan c [] s) : (fmc c s).DecoupInv := by
  cases herr : s.transferError with
  | true => exact fmc_rests hs (hplan.trans (opPlan_error hrec herr))
  | false =>
      rw [opPlan_recorded hrec herr] at hplan
      by_cases habort : c.wasAbort = true ∧ s.currentGlobalOperation ≠ .xmemCheckPattern
      · rw [if_pos habort] at hplan
        exact fmc_rests hs hplan
      · rw [if_neg habort, List.nil_append] at hplan
        have hentry : entry c s = icapFsm c s := by rw [entry, if_neg hmay, hplan]
        obtain ⟨f, hist, heq, -⟩ := icapFsm_frame c s
        have hprog : opProgram s = opProgram (icapFsm c s) := by rw [heq]; rfl
        have hframe : (icapFsm c s).currentGlobalOperation = s.currentGlobalOperation ∧
            (icapFsm c s).globalOperationDone = false ∧ (icapFsm c s).transferError = false := by
          rw [heq]
          exact ⟨rfl, hdone, herr⟩
        have hheader := hc.header
        have hhwicap := hc.hwicap
        have hbuffer := hc.buffer
        rw [hentry] at hheader hhwicap hbuffer
        rw [fmc, hplan, hprog]
        refine opProgram_decoupInv hs (hframe.1 ▸ hrec) hframe.2.1 hframe.2.2
          (icapFsm_ne_drain c s) (fun hop => ?_) hheader hhwicap hbuffer
        rw [hframe.1] at hop
        exact Bool.eq_false_of_not_eq_true fun h => habort ⟨h, hop⟩

/-- An operation starts. -/
lemma fmc_starts (hs : s.DecoupInv) (hc : Careful c s) (hmay : MayStart c s) (hq : Started s q)
    (hclear : Clears clear) (hplan : makePlan c s = opPlan c clear q) : (fmc c s).DecoupInv := by
  have hsafe : q.Safe :=
    ⟨fun h => hq.toDecoup ▸ hs.unfinished (hq.unfinished ▸ h),
      fun h => hq.toDecoup ▸ hs.active (hq.fsmHwicap ▸ h)⟩
  have hsafe := hsafe.icapFsm c
  have hact := icapFsm_active c q
  rw [opPlan_recorded hq.recorded hq.transferError] at hplan
  obtain ⟨f, hist, heq, -⟩ := icapFsm_frame c q
  by_cases habort : c.wasAbort = true ∧ q.currentGlobalOperation ≠ .xmemCheckPattern
  · rw [if_pos habort] at hplan
    have hstart := hc.start
    rw [StartsAborted, hplan] at hstart
    have hquiet : (icapFsm c q).fsmHwicap.active = false := by
      rw [hact, hq.fsmHwicap]
      exact hstart ⟨hmay, habort.1, hq.recorded, habort.2⟩
    refine fmc_rests ?_ hplan
    rw [heq] at hsafe hquiet ⊢
    exact decoupInv_quiet hsafe.unfinished hquiet fun hop _ _ => .inl (hq.inHeader hop)
  · rw [if_neg habort] at hplan
    have hentry : entry c s = (icapFsm c q).emptied := by rw [entry, if_pos hmay, hplan]
    obtain ⟨r, hrun⟩ := run_clear (c := c) (q := icapFsm c q) hclear (opProgram q) c.wasAbort
      c.copyRet
    have hheader := hc.header
    have hhwicap := hc.hwicap
    have hbuffer := hc.buffer
    have hprog : opProgram q = opProgram { (icapFsm c q).emptied with responses := r } := by
      rw [heq]
      rfl
    rw [hentry] at hheader hhwicap hbuffer
    rw [fmc, hplan]
    simp only [hrun]
    rw [hprog]
    rw [heq] at hsafe hheader hhwicap hbuffer ⊢
    refine opProgram_decoupInv (decoupInv_quiet hsafe.unfinished rfl fun hop _ _ =>
      .inl (hq.inHeader hop)) hq.recorded hq.globalOperationDone hq.transferError (fun h => nomatch h)
      (fun hop => ?_) hheader hhwicap hbuffer
    exact Bool.eq_false_of_not_eq_true fun h => habort ⟨h, hop⟩

/-- The role is decoupled by hand. -/
lemma fmc_activates (hop : q.currentGlobalOperation = .manualDecoupling)
    (hplan : makePlan c s = (q, [⟨.activateDecoup, maskAlways⟩])) : (fmc c s).DecoupInv := by
  have hcur : (icapFsm c q).currentGlobalOperation = .manualDecoupling := by
    obtain ⟨f, hist, heq, -⟩ := icapFsm_frame c q
    rw [heq]
    exact hop
  rw [fmc, hplan]
  refine finish_decoupInv ?_
  simp only [run_cons, run_nil, List.elem_eq_mem, mem_maskAlways, decide_true, if_true, reduceCtorEq,
    if_false, Exec.step, Exec.returns]
  refine ⟨⟨fun _ => rfl, fun _ => rfl⟩, ?_, ?_, fun h => (by cases hcur.symm.trans h),
    fun h => by cases hcur.symm.trans h⟩
  · rintro (h | h) <;> cases hcur.symm.trans h
  · rintro (h | h | h) <;> cases hcur.symm.trans h

/-- The role is coupled by hand. -/
lemma fmc_deactivates (hop : q.currentGlobalOperation = .idle)
    (hunf : (icapFsm c q).history.unfinished = false) (hact : q.fsmHwicap.active = false)
    (hplan : makePlan c s = (q, [⟨.deactivateDecoup, maskAlways⟩])) : (fmc c s).DecoupInv := by
  have hact := (icapFsm_active c q).trans hact
  have hcur : (icapFsm c q).currentGlobalOperation = .idle := by
    obtain ⟨f, hist, heq, -⟩ := icapFsm_frame c q
    rw [heq]
    exact hop
  rw [fmc, hplan]
  refine finish_decoupInv ?_
  simp only [run_cons, run_nil, List.elem_eq_mem, mem_maskAlways, decide_true, if_true, reduceCtorEq,
    if_false, Exec.step, Exec.passesDone, Exec.returns]
  refine decoupInv_quiet (fun h => absurd (hunf.symm.trans h) Bool.false_ne_true) hact ?_
  rintro (h | h) <;> cases hcur.symm.trans h

/-- A call in `GLOBAL_IDLE`. -/
lemma fmc_idle (hs : s.DecoupInv) (hc : Careful c s) (hmay : c.resetFromPsoc = false → MayStart c s)
    (hplan : makePlan c s = idlePlan c s) : (fmc c s).DecoupInv := by
  rcases idlePlan_cases c s with hidle | ⟨hreset, hidle | ⟨q, clear, hq, hclear, hidle⟩⟩
  · have hrest : s.toIdle.DecoupInv := decoupInv_idle hs rfl ⟨_, _, _, _, _, rfl⟩
    exact fmc_rests (hrest.icapFsm fun _ h => nomatch h.1) (hplan.trans hidle)
  · exact fmc_activates rfl (hplan.trans hidle)
  · exact fmc_starts hs hc (hmay hreset) hq hclear (hplan.trans hidle)

/-- A call in an operation through XMEM. -/
lemma fmc_xmem (hs : s.DecoupInv) (hc : Careful c s)
    (hop : s.currentGlobalOperation ∈ [.xmemCheckPattern, .xmemToHwicap, .xmemHttp])
    (hplan : makePlan c s =
      if c.resetFromPsoc then idlePlan c s
      else if s.globalOperationDone then
        (if c.startXmemTrans then s else { s with currentGlobalOperation := .idle }, [])
      else opPlan c [] s) : (fmc c s).DecoupInv := by
  have hne : s.currentGlobalOperation ≠ .tcpHttp := by
    intro h
    rw [h] at hop
    exact absurd hop (by decide)
  have hrec : s.currentGlobalOperation.recorded = true := by
    simp only [List.mem_cons, List.not_mem_nil, or_false] at hop
    rcases hop with hop | hop | hop <;> rw [hop] <;> rfl
  have hicap := hs.icapFsm (c := c) fun _ h => hne h.1
  cases hreset : c.resetFromPsoc with
  | true =>
      rw [hreset, if_pos rfl] at hplan
      exact fmc_idle hs hc (fun h => absurd (hreset.symm.trans h) Bool.false_ne_true.symm) hplan
  | false =>
      rw [hreset, if_neg Bool.false_ne_true] at hplan
      cases hdone : s.globalOperationDone with
      | true =>
          rw [if_pos hdone] at hplan
          cases hxmem : c.startXmemTrans with
          | true =>
              rw [hxmem, if_pos rfl] at hplan
              exact fmc_rests hicap hplan
          | false =>
              rw [hxmem, if_neg Bool.false_ne_true] at hplan
              have hrest : { s with currentGlobalOperation := .idle }.DecoupInv :=
                decoupInv_idle hs rfl ⟨_, _, _, _, _, rfl⟩
              exact fmc_rests (hrest.icapFsm fun _ h => nomatch h.1) hplan
      | false =>
          rw [hdone, if_neg Bool.false_ne_true] at hplan
          refine fmc_continues hicap hc ?_ hrec hdone hplan
          rintro (hidle | ⟨htcp, -⟩)
          · rw [hidle] at hrec
            cases hrec
          · exact hne htcp

/-- The response is under way. -/
lemma fmc_sends (hs : (icapFsm c s).DecoupInv) (hplan : makePlan c s = (s, tcpSendProgram)) :
    (fmc c s).DecoupInv := by
  rw [fmc, hplan]
  exact finish_decoupInv (decoupInv_of_core hs (tcpSend_core _))

/-- **A careful call** keeps the invariant. -/
theorem Careful.fmc (hc : Careful c s) (hs : s.DecoupInv) : (fmc c s).DecoupInv := by
  cases hop : s.currentGlobalOperation with
  | idle => exact fmc_idle hs hc (fun _ => .inl hop) (by rw [makePlan, hop])
  | xmemCheckPattern => exact fmc_xmem hs hc (by rw [hop]; decide) (by rw [makePlan, hop])
  | xmemToHwicap => exact fmc_xmem hs hc (by rw [hop]; decide) (by rw [makePlan, hop])
  | xmemHttp => exact fmc_xmem hs hc (by rw [hop]; decide) (by rw [makePlan, hop])
  | tcpHttp =>
      have hicap := hs.icapFsm hc.fifo
      cases hreset : c.resetFromPsoc with
      | true =>
          exact fmc_idle hs hc (fun h => absurd (hreset.symm.trans h) Bool.false_ne_true.symm)
            (by rw [makePlan, hop]; simp only [hreset, if_true])
      | false =>
          cases hdone : s.globalOperationDone with
          | true =>
              cases hbusy : c.txBusy with
              | true =>
                  exact fmc_sends hicap (by rw [makePlan, hop]; simp [hreset, hdone, hbusy])
              | false =>
                  exact fmc_idle hs hc (fun _ => .inr ⟨hop, hdone, hbusy⟩)
                    (by rw [makePlan, hop]; simp [hreset, hdone, hbusy])
          | false =>
              refine fmc_continues hicap hc ?_ (by rw [hop]; rfl) hdone
                (by rw [makePlan, hop]; simp [hreset, hdone])
              rintro (hidle | ⟨-, hdone', -⟩)
              · exact nomatch hop.symm.trans hidle
              · exact absurd (hdone.symm.trans hdone') Bool.false_ne_true
  | manualDecoupling =>
      have hplan : makePlan c s = opPlan c [] s := by rw [makePlan, hop]
      rw [opPlan, hop] at hplan
      cases hmanual : c.manuallyToDecoup with
      | true =>
          simp only [hmanual, if_true] at hplan
          exact fmc_activates hop hplan
      | false =>
          simp only [hmanual, Bool.false_eq_true, if_false] at hplan
          obtain ⟨hunf, hact⟩ := hc.manual ⟨hop, hmanual⟩
          refine fmc_deactivates (q := { s with currentGlobalOperation := .idle }) rfl ?_ hact hplan
          have hhist := icapFsm_history (c := c) (s := { s with currentGlobalOperation := .idle }) hact
          rw [hhist]
          exact hunf

end Call

/-! ### Runs -/

lemma decoupInv_init : ({} : FmcRegs).DecoupInv :=
  decoupInv_quiet nofun rfl fun h => h.elim nofun nofun

/-- **The decoupling.** In a run of careful calls, in any order of requests and with any outcomes of
their instructions, the decoupling is driven behind every call that leaves a configuration
unfinished. -/
theorem decoupled_of_careful {cs : List FmcCall}
    (h : fmcMachine.Holds (fun s c _ => Careful c s) {} cs) :
    fmcMachine.Holds (fun _ _ s => s.history.unfinished = true → s.setDecoup = true) {} cs := by
  refine @Machine.holds_of_inv _ _ _ FmcRegs.DecoupInv _ _ (fun s c s' hs hc hstep => ?_) _ _
    decoupInv_init h
  obtain rfl : fmc c s = s' := Option.some.inj hstep
  have hinv := hc.fmc hs
  refine ⟨fun hunf => ?_, hinv⟩
  -- the output is `toDecoup`, or an abort
  have hdriven : (fmc c s).toDecoup = true → (fmc c s).setDecoup = true := fun h =>
    Bool.or_eq_true_iff.mpr (.inl h)
  exact hdriven (hinv.unfinished hunf)

/-- A configuration that a corrupt page interrupts, a reset, a request that is refused, and a
configuration that is written up to its end. -/
theorem decoupled_interrupted :
    fmcMachine.Holds (fun _ _ s => s.history.unfinished = true → s.setDecoup = true) {}
      [configPage, { noPage with copyRet := [.corrupt] }, noPage, { resetFromPsoc := true },
        { noPage with copyRet := [.page], path := .notFound }, {}, {}, configPage,
        { noPage with copyRet := [.lastPage], bufferWord := true }, noPage] :=
  decoupled_of_careful (by decide +kernel)

/-- **HWICAP that is not ready in a configuration that goes on** leaves the role coupled: the program
releases the decoupling behind the failure. -/
theorem not_decoupled_hwicap :
    ¬ fmcMachine.Holds (fun _ _ s => s.history.unfinished = true → s.setDecoup = true) {}
      [configPage, pageNotReady, noPage] := by
  decide +kernel

end CloudFpga.Fmc.Plan
