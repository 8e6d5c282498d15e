import CloudFpga.Fmc.HttpStep
import CloudFpga.Foundation.Machine

/-!
What the calls of the FMC have in common: the plan, and the registers in front of the program of the
operation.

* `fmcMachine`: the calls; `configPage`, `pageNotReady`, `noPage`: calls of a request over XMEM.
* `entry`: the registers in front of the program of the operation.
* `icapFsm_frame`, `header_frame`: what the state machine behind the FIFO and a header change.
* `idlePlan_cases`, `opPlan_recorded`: the plans.
-/

namespace CloudFpga.Fmc.Plan

open Nal Http
open Foundation

/-- The calls of the FMC. -/
def fmcMachine : Machine FmcRegs FmcCall := ⟨fun s c => some (fmc c s)⟩

/-- The first page of a configuration in a request over XMEM. -/
def configPage : FmcCall :=
  { parseHTTP := true, startXmemTrans := true, copyRet := [.page], path := .postConfig,
    bufferWord := true, bufferMoves := true }

/-- A page while HWICAP is not ready. -/
def pageNotReady : FmcCall :=
  { parseHTTP := true, startXmemTrans := true, copyRet := [.page], eos := false }

/-- The request stays, and there is no page. -/
def noPage : FmcCall := { parseHTTP := true, startXmemTrans := true }

/-- The states in which words of a configuration may still come through the FIFO. -/
def IcapFsmState.active : IcapFsmState → Bool
  | .write | .done | .error => true
  | .idle | .drain => false

/-- The operation is an HTTP operation. -/
def FmcRegs.IsHttp (s : FmcRegs) : Prop :=
  s.currentGlobalOperation = .xmemHttp ∨ s.currentGlobalOperation = .tcpHttp

/-- An operation may start in the call. -/
def MayStart (c : FmcCall) (s : FmcRegs) : Prop :=
  s.currentGlobalOperation = .idle ∨
    s.currentGlobalOperation = .tcpHttp ∧ s.globalOperationDone = true ∧ c.txBusy = false

instance (c : FmcCall) (s : FmcRegs) : Decidable (MayStart c s) :=
  inferInstanceAs (Decidable (_ ∨ _))

/-- The FIFO is emptied, and its state machine is stopped. -/
def FmcRegs.emptied (s : FmcRegs) : FmcRegs :=
  { s with fsmHwicap := .idle, history.changed := false, history.wrote := false }

/-- The registers in front of the program of the operation in a call. -/
def entry (c : FmcCall) (s : FmcRegs) : FmcRegs :=
  let q := icapFsm c (makePlan c s).1
  if MayStart c s then q.emptied else q

instance (s : FmcRegs) : Decidable s.IsHttp := inferInstanceAs (Decidable (_ ∨ _))
instance (s : FmcRegs) : Decidable s.InHeader := inferInstanceAs (Decidable (_ ∧ _))
instance (s : FmcRegs) (t : ReqType) : Decidable (s.InPayload t) :=
  inferInstanceAs (Decidable (_ ∧ _))

/-! ### The state machine behind the FIFO -/

section Fsm

variable {c : FmcCall} {s : FmcRegs}

/-- The state machine changes its own state and the history. -/
lemma icapFsm_frame (c : FmcCall) (s : FmcRegs) :
    ∃ f h, icapFsm c s = { s with fsmHwicap := f, history := h } ∧
      h.carriedOut = s.history.carriedOut ∧ h.failed = s.history.failed := by
  rw [icapFsm]
  cases s.fsmHwicap with
  | idle => exact ⟨_, _, rfl, rfl, rfl⟩
  | write =>
      dsimp only
      split
      · exact ⟨_, _, rfl, rfl, rfl⟩
      · exact ⟨_, s.history, rfl, rfl, rfl⟩
  | done => exact ⟨_, _, rfl, rfl, rfl⟩
  | error => exact ⟨_, _, rfl, rfl, rfl⟩
  | drain => exact ⟨_, s.history, rfl, rfl, rfl⟩

lemma icapFsm_active (c : FmcCall) (s : FmcRegs) :
    (icapFsm c s).fsmHwicap.active = s.fsmHwicap.active := by
  rw [icapFsm]
  cases hf : s.fsmHwicap with
  | idle => dsimp only; rw [hf]
  | write =>
      dsimp only
      split
      · dsimp only
        split <;> rfl
      · rfl
  | done => dsimp only; rw [hf]
  | error => dsimp only; rw [hf]
  | drain => rfl

lemma icapFsm_ne_drain (c : FmcCall) (s : FmcRegs) : (icapFsm c s).fsmHwicap ≠ .drain := by
  rw [icapFsm]
  cases hf : s.fsmHwicap with
  | idle => dsimp only; rw [hf]; nofun
  | write =>
      dsimp only
      split
      · dsimp only
        split <;> nofun
      · nofun
  | done => dsimp only; rw [hf]; nofun
  | error => dsimp only; rw [hf]; nofun
  | drain => nofun

/-- Where no words come, the history stays. -/
lemma icapFsm_history (h : s.fsmHwicap.active = false) : (icapFsm c s).history = s.history := by
  rw [icapFsm]
  cases hf : s.fsmHwicap with
  | write => rw [hf] at h; cases h
  | idle | done | error | drain => rfl

end Fsm

/-! ### The header -/

section Header

variable {c : FmcCall} {s : FmcRegs}

/-- The header changes the request, the response and the history. -/
lemma header_frame (c : FmcCall) (s : FmcRegs) :
    ∃ t h r hist, s.header c =
      { s with reqType := t, httpState := h, responses := r, history := hist } ∧
      hist.unfinished = s.history.unfinished ∧ hist.wrote = s.history.wrote := by
  rw [FmcRegs.header, Exec.parseHeader]
  cases c.path <;> exact ⟨_, _, _, _, rfl, rfl, rfl⟩

lemma header_inHeader (hs : s.InHeader) (hpath : c.path = .nothing ∨ c.path = .notComplete) :
    (s.header c).InHeader := by
  rw [FmcRegs.header, Exec.parseHeader]
  rcases hpath with hpath | hpath
  · rw [hpath]
    exact hs
  · rw [hpath]
    exact ⟨.inr rfl, by rintro ⟨⟩, by rintro ⟨⟩⟩

lemma header_reqType (hpath : c.path = .postConfig ∨ c.path = .postRouting) :
    (s.header c).httpState = .headerParsed ∧
      (c.path = .postConfig → (s.header c).reqType = .postConfig) ∧
      (c.path = .postRouting → (s.header c).reqType = .postRouting) := by
  rw [FmcRegs.header, Exec.parseHeader]
  rcases hpath with hpath | hpath
  · rw [hpath]
    exact ⟨rfl, fun _ => rfl, by rintro ⟨⟩⟩
  · rw [hpath]
    exact ⟨rfl, by rintro ⟨⟩, fun _ => rfl⟩

end Header

/-! ### Plans -/

section Plans

variable {c : FmcCall} {s q : FmcRegs} {clear : List Instr}

/-- The program of an operation. -/
def opProgram (s : FmcRegs) : List Instr :=
  match s.currentGlobalOperation with
  | .xmemCheckPattern => xmemCheckPatternProgram
  | .xmemToHwicap => xmemToHwicapProgram
  | _ => httpProgram s

lemma opProgram_http (hop : s.IsHttp) : opProgram s = httpProgram s := by
  rcases hop with hop | hop <;> rw [opProgram, hop]

/-- The registers `q` of an operation that starts. -/
structure Started (s q : FmcRegs) : Prop where
  recorded : q.currentGlobalOperation.recorded = true
  globalOperationDone : q.globalOperationDone = false
  transferError : q.transferError = false
  inHeader : q.IsHttp → q.InHeader
  toDecoup : q.toDecoup = s.toDecoup
  fsmHwicap : q.fsmHwicap = s.fsmHwicap
  unfinished : q.history.unfinished = s.history.unfinished

/-- The instructions that start an operation. -/
def Clears (clear : List Instr) : Prop :=
  clear = [⟨.clearInBuffer, maskAlways⟩] ∨
    clear = [⟨.clearInBuffer, maskAlways⟩, ⟨.clearOutBuffer, maskAlways⟩] ∨
    clear = [⟨.clearInBuffer, maskAlways⟩, ⟨.clearOutBuffer, maskAlways⟩, ⟨.tcpCntReset, maskAlways⟩]

lemma run_clear (h : Clears clear) (p : List Instr) (a : Bool) (l : List CopyRet) :
    ∃ r, (interpreter c).run (clear ++ p) { regs := q, wasAbort := a, copyRet := l } =
      (interpreter c).run p
        { regs := { q.emptied with responses := r }, wasAbort := a, copyRet := l } := by
  rcases h with rfl | rfl | rfl
  · exact ⟨q.responses, by simp [FmcRegs.emptied]⟩
  · exact ⟨[], by simp [FmcRegs.emptied]⟩
  · exact ⟨[], by simp [FmcRegs.emptied]⟩

lemma opPlan_error (hrec : q.currentGlobalOperation.recorded = true) (herr : q.transferError = true) :
    opPlan c clear q = (q, []) := by
  rw [opPlan]
  cases hop : q.currentGlobalOperation with
  | idle | manualDecoupling => exact absurd hrec (by rw [hop]; decide)
  | xmemCheckPattern => simp [herr]
  | xmemToHwicap => simp [herr]
  | xmemHttp => simp [herr]
  | tcpHttp => simp [herr]

lemma opPlan_recorded (hrec : q.currentGlobalOperation.recorded = true)
    (herr : q.transferError = false) :
    opPlan c clear q = (q, if c.wasAbort = true ∧ q.currentGlobalOperation ≠ .xmemCheckPattern
      then [] else clear ++ opProgram q) := by
  rw [opPlan, opProgram, httpProgram]
  cases hop : q.currentGlobalOperation with
  | idle | manualDecoupling => exact absurd hrec (by rw [hop]; decide)
  | xmemCheckPattern => simp [herr]
  | xmemToHwicap => simp [herr]
  | xmemHttp => simp [herr]
  | tcpHttp => simp [herr]

/-- In `GLOBAL_IDLE` the FMC rests, an operation starts, or the role is decoupled by hand. -/
lemma idlePlan_cases (c : FmcCall) (s : FmcRegs) :
    idlePlan c s = (s.toIdle, []) ∨
      c.resetFromPsoc = false ∧
        (idlePlan c s = (s.toIdle.start .manualDecoupling, [⟨.activateDecoup, maskAlways⟩]) ∨
          ∃ q clear, Started s q ∧ Clears clear ∧ idlePlan c s = opPlan c clear q) := by
  rw [idlePlan]
  cases hreset : c.resetFromPsoc with
  | true => exact .inl rfl
  | false =>
      rw [if_neg Bool.false_ne_true]
      cases htcp : c.tcpModeStart with
      | true =>
          rw [if_pos rfl]
          cases hparse : c.parseHTTP with
          | true =>
              refine .inr ⟨rfl, .inr ⟨s.toIdle.startHttp .tcpHttp, _, ?_, .inr (.inr rfl), if_pos rfl⟩⟩
              exact ⟨rfl, rfl, rfl, fun _ => ⟨.inl rfl, nofun, nofun⟩, rfl, rfl, rfl⟩
          | false => exact .inl rfl
      | false =>
          rw [if_neg Bool.false_ne_true]
          cases hxmem : c.startXmemTrans with
          | true =>
              rw [if_pos rfl]
              cases hparse : c.parseHTTP with
              | true =>
                  refine .inr ⟨rfl, .inr ⟨s.toIdle.startHttp .xmemHttp, _, ?_, .inr (.inl rfl),
                    if_pos rfl⟩⟩
                  exact ⟨rfl, rfl, rfl, fun _ => ⟨.inl rfl, nofun, nofun⟩, rfl, rfl, rfl⟩
              | false =>
                  rw [if_neg Bool.false_ne_true]
                  cases hcheck : c.checkPattern with
                  | true =>
                      refine .inr ⟨rfl, .inr ⟨s.toIdle.start .xmemCheckPattern, _, ?_, .inl rfl,
                        if_pos rfl⟩⟩
                      exact ⟨rfl, rfl, rfl, fun h => h.elim nofun nofun, rfl, rfl, rfl⟩
                  | false =>
                      refine .inr ⟨rfl, .inr ⟨s.toIdle.start .xmemToHwicap, _, ?_, .inl rfl,
                        if_neg Bool.false_ne_true⟩⟩
                      exact ⟨rfl, rfl, rfl, fun h => h.elim nofun nofun, rfl, rfl, rfl⟩
          | false =>
              rw [if_neg Bool.false_ne_true]
              cases hmanual : c.manuallyToDecoup with
              | true =>
                  refine .inr ⟨rfl, .inl ?_⟩
                  rw [if_pos rfl, opPlan]
                  simp only [FmcRegs.start, hmanual, if_true]
              | false => exact .inl rfl

/-- The response on its way leaves the registers as they are. -/
lemma tcpSend_core (e : Exec) : ((interpreter c).run tcpSendProgram e).regs.core = e.regs.core := by
  cases hsess : e.regs.tcpSessIdUpdated <;> cases hsent : c.sessionSent <;>
    cases hlast : e.lastReturnValue <;>
    simp [tcpSendProgram, hsess, hsent, hlast, FmcRegs.core]

end Plans

end CloudFpga.Fmc.Plan
