import CloudFpga.Fmc.Interpreter

/-!
What one call of an HTTP operation does, over the programs of XMEM and of TCP.

* `Payload`: where the payload of a request begins or goes on.
* `HttpStep`: the outcomes of a call; `xmemFirst_step`, `xmemConfig_step`, ...: the programs have no
  others.
-/

namespace CloudFpga.Fmc.Plan

open Nal Http
open Foundation

/-! ### Outcomes -/

/-- The results of `extract_path` that refuse a request. -/
def PathResult.refuses : PathResult → Bool
  | .malformed | .invalidRank | .invalidSize | .notFound => true
  | _ => false

/-- The requests that have no payload. -/
def PathResult.immediate : PathResult → Bool
  | .getStatus | .putRank | .putSize => true
  | _ => false

/-- The result of the first burst of a call. -/
def FmcCall.copied (c : FmcCall) : CopyRet := c.copyRet.head?.getD .upToDate

namespace FmcRegs

variable (s : FmcRegs)

/-- The registers that only the next return value depends on are forgotten. -/
def core : FmcRegs := { s with lastXmemPageReceived := false, tcpSessIdUpdated := false }

/-- The header of the request is still read. -/
def InHeader : Prop :=
  (s.httpState = .idle ∨ s.httpState = .parseHeader) ∧ s.reqType ≠ .postConfig ∧
    s.reqType ≠ .postRouting

/-- The payload of the request is read. -/
def InPayload (t : ReqType) : Prop :=
  (s.httpState = .headerParsed ∨ s.httpState = .readPayload) ∧ s.reqType = t

/-- The registers behind `extract_path`. -/
def header (c : FmcCall) : FmcRegs := (({ regs := s } : Exec).parseHeader c).regs

/-- The status of a response without an abort. -/
def status : ℕ := if s.transferError ∨ s.invalidPayload then 422 else 200

/-- A response ends the operation. -/
def answered (status : ℕ) : FmcRegs :=
  { s with
    responses := s.responses ++ [status]
    httpState := .done
    globalOperationDone := true }

def changes : FmcRegs := { s with history.changed := true }

/-- The payload or the transfer has failed. -/
def fails : FmcRegs := { s with history.failed := true }

/-- The decoupling is driven. -/
def driven : FmcRegs := { s with setDecoup := s.toDecoup }

/-- A word of a configuration is written. -/
def writesWord (b : Bool) : FmcRegs := (({ regs := s } : Exec).writesWord b).regs

/-- A configuration is finished: the role is coupled again, and the routing table is cleared. -/
def finished : FmcRegs :=
  let h := (({ regs := s } : Exec).completes).regs
  ({ h with toDecoup := false }.changes).answered s.status

/-- HWICAP is not ready in a configuration that goes on. -/
def failed : FmcRegs :=
  { s.fails.changes with
    responses := s.responses ++ [500, 500]
    httpState := .done
    globalOperationDone := true
    toDecoup := false
    transferError := true
    setDecoup := true }

/-- `OP_BUFFER_TO_ROUTING` and what follows. -/
def routed (ret : RoutingRet) : FmcRegs :=
  match ret with
  | .stored => ({ s.changes with history.carriedOut := true }).answered s.status
  | .invalid => ({ s.fails.changes with invalidPayload := true }).answered 422
  | .notComplete => s.changes
  | .disabled => { s.fails with transferError := true, invalidPayload := true }.answered 422

end FmcRegs

/-- The registers `h` at which the payload of a request begins or goes on in a call. A configuration
that begins decouples the role. -/
inductive Payload (c : FmcCall) (s : FmcRegs) : ReqType → FmcRegs → Prop
  | beginRouting (hs : s.InHeader) (hpath : c.path = .postRouting) (hone : c.onePayloadByte = false) :
      Payload c s .postRouting (s.header c)
  | goOnRouting (hs : s.InPayload .postRouting) : Payload c s .postRouting s
  | beginConfig (hs : s.InHeader) (hpath : c.path = .postConfig) (hone : c.onePayloadByte = false) :
      Payload c s .postConfig { s.header c with toDecoup := true }
  | goOnConfig (hs : s.InPayload .postConfig) : Payload c s .postConfig s

/-- The outcomes of a call that is not aborted. -/
inductive HttpStep (c : FmcCall) (s : FmcRegs) : FmcRegs → Prop
  /-- There is nothing new. -/
  | waits (hwait : s.currentGlobalOperation = .xmemHttp → c.copied ≠ .lastPage) :
      HttpStep c s s.driven
  /-- A page is refused. -/
  | pageFails (hop : s.currentGlobalOperation = .xmemHttp)
      (h : c.copied = .counterMismatch ∨ c.copied = .corrupt) :
      HttpStep c s { s.fails with transferError := true }.driven
  /-- The header is not complete. -/
  | headerOpen (hs : s.InHeader) (hpath : c.path = .nothing ∨ c.path = .notComplete) :
      HttpStep c s (s.header c).driven
  /-- The request is refused. -/
  | refused (hs : s.InHeader) (hpath : c.path.refuses) :
      HttpStep c s { s.header c with globalOperationDone := true }.driven
  /-- A request without a payload is answered. -/
  | answered (hs : s.InHeader) (hpath : c.path.immediate) :
      HttpStep c s ((s.header c).answered s.status).driven
  /-- Exactly one byte of the payload is there. -/
  | corner (hs : s.InHeader) (hpath : c.path = .postConfig ∨ c.path = .postRouting)
      (hone : c.onePayloadByte = true) :
      HttpStep c s { s.header c with httpState := .readPayload }.driven
  | routed {h : FmcRegs} (hh : Payload c s .postRouting h) : HttpStep c s (h.routed c.routing).driven
  /-- A configuration goes on. -/
  | bufferOpen {h : FmcRegs} (hop : s.currentGlobalOperation = .xmemHttp)
      (hh : Payload c s .postConfig h) (heos : c.eos = true) (hpage : c.copied = .page) :
      HttpStep c s (h.writesWord c.bufferWord).driven
  | fifoOpen {h : FmcRegs} (hop : s.currentGlobalOperation = .tcpHttp)
      (hh : Payload c s .postConfig h) (hicap : h.fsmHwicap = .idle) :
      HttpStep c s { h with fsmHwicap := .write }.driven
  | fifoBusy (hop : s.currentGlobalOperation = .tcpHttp) (hs : s.InPayload .postConfig)
      (hicap : s.fsmHwicap = .write ∨ s.fsmHwicap = .done) : HttpStep c s s.driven
  /-- A configuration is finished. -/
  | bufferDone {h : FmcRegs} (hop : s.currentGlobalOperation = .xmemHttp)
      (hh : Payload c s .postConfig h) (heos : c.eos = true) (hlast : c.copied = .lastPage) :
      HttpStep c s (h.writesWord c.bufferWord).finished.driven
  | fifoDone (hop : s.currentGlobalOperation = .tcpHttp) (hs : s.InPayload .postConfig)
      (hicap : s.fsmHwicap = .done) :
      HttpStep c s ({ s with fsmHwicap := .idle }.finished).driven
  /-- HWICAP is not ready in the first call of a configuration. -/
  | beginFails (hop : s.currentGlobalOperation = .xmemHttp) (hs : s.InHeader)
      (hpath : c.path = .postConfig) (hone : c.onePayloadByte = false)
      (hcopy : c.copied = .page ∨ c.copied = .lastPage) (heos : c.eos = false) :
      HttpStep c s
        { (s.header c).fails with
          responses := s.responses ++ [500]
          httpState := .done
          toDecoup := true
          transferError := true
          setDecoup := true }
  /-- HWICAP is not ready in a later call: two responses, and the role is coupled again. -/
  | bufferFails (hop : s.currentGlobalOperation = .xmemHttp) (hs : s.InPayload .postConfig)
      (hcopy : c.copied = .page ∨ c.copied = .lastPage) (heos : c.eos = false) :
      HttpStep c s s.failed
  | fifoFails (hop : s.currentGlobalOperation = .tcpHttp) (hs : s.InPayload .postConfig)
      (hicap : s.fsmHwicap = .error ∨ s.fsmHwicap = .drain) :
      HttpStep c s { s with fsmHwicap := .drain }.failed

/-! ### The programs of XMEM -/

section Programs

variable {c : FmcCall} {s : FmcRegs}

/-- An execution at the start of a program. -/
def startExec (c : FmcCall) (s : FmcRegs) (v : Oprv) : Exec :=
  { regs := s, lastReturnValue := v, copyRet := c.copyRet }

/-- The registers in front of a program of an HTTP operation. -/
structure Runs (op : GlobalState) (s : FmcRegs) : Prop where
  currentGlobalOperation : s.currentGlobalOperation = op
  globalOperationDone : s.globalOperationDone = false
  transferError : s.transferError = false

lemma xmemRouting_step (hr : Runs .xmemHttp s) (hs : s.InPayload .postRouting) (v : Oprv) :
    ∃ s', HttpStep c s s' ∧
      (finish ((interpreter c).run xmemRoutingProgram (startExec c s v))).core = s'.core := by
  obtain ⟨hop, hdone, herr⟩ := hr
  cases hcopy : c.copied with
  | upToDate | invalid =>
      refine ⟨_, .waits fun _ => by rw [hcopy]; nofun, ?_⟩
      simp [FmcCall.copied] at hcopy
      simp [startExec, xmemRoutingProgram, finish, hcopy, FmcRegs.core, FmcRegs.driven, hop]
  | counterMismatch | corrupt =>
      refine ⟨_, .pageFails hop (by simp [hcopy]), ?_⟩
      simp [FmcCall.copied] at hcopy
      simp [startExec, xmemRoutingProgram, finish, hcopy, FmcRegs.core, FmcRegs.driven, hop, FmcRegs.fails]
  | page | lastPage =>
      refine ⟨_, .routed (.goOnRouting hs), ?_⟩
      simp [FmcCall.copied] at hcopy
      cases hret : c.routing <;>
        simp [startExec, xmemRoutingProgram, finish, hcopy, FmcRegs.core, FmcRegs.driven, hop, hret,
          FmcRegs.routed, FmcRegs.fails, FmcRegs.answered, FmcRegs.changes, FmcRegs.status, herr, hdone]

lemma xmemConfig_step (hr : Runs .xmemHttp s) (hs : s.InPayload .postConfig) (v : Oprv) :
    ∃ s', HttpStep c s s' ∧
      (finish ((interpreter c).run xmemConfigProgram (startExec c s v))).core = s'.core := by
  obtain ⟨hop, hdone, herr⟩ := hr
  cases hcopy : c.copied with
  | upToDate | invalid =>
      refine ⟨_, .waits fun _ => by rw [hcopy]; nofun, ?_⟩
      simp only [FmcCall.copied] at hcopy
      simp [startExec, xmemConfigProgram, finish, hcopy, FmcRegs.core, FmcRegs.driven, hop]
  | counterMismatch | corrupt =>
      refine ⟨_, .pageFails hop (by simp [hcopy]), ?_⟩
      simp only [FmcCall.copied] at hcopy
      simp [startExec, xmemConfigProgram, finish, hcopy, FmcRegs.core, FmcRegs.driven, hop,
        FmcRegs.fails]
  | page =>
      have hret := hcopy
      simp only [FmcCall.copied] at hret
      cases heos : c.eos with
      | false =>
          refine ⟨_, .bufferFails hop hs (by simp [hcopy]) heos, ?_⟩
          simp [startExec, xmemConfigProgram, finish, hret, heos, hop, FmcRegs.core, FmcRegs.failed, FmcRegs.fails,
            FmcRegs.changes]
      | true =>
          refine ⟨_, .bufferOpen hop (.goOnConfig hs) heos hcopy, ?_⟩
          cases hmoves : c.bufferMoves <;>
            simp [startExec, xmemConfigProgram, finish, hret, heos, hmoves, hop, FmcRegs.core,
              FmcRegs.driven, FmcRegs.writesWord]
  | lastPage =>
      have hret := hcopy
      simp only [FmcCall.copied] at hret
      cases heos : c.eos with
      | false =>
          refine ⟨_, .bufferFails hop hs (by simp [hcopy]) heos, ?_⟩
          simp [startExec, xmemConfigProgram, finish, hret, heos, hop, FmcRegs.core, FmcRegs.failed, FmcRegs.fails,
            FmcRegs.changes]
      | true =>
          refine ⟨_, .bufferDone hop (.goOnConfig hs) heos hcopy, ?_⟩
          simp [startExec, xmemConfigProgram, finish, hret, heos, hop, herr, FmcRegs.core,
            FmcRegs.driven, FmcRegs.writesWord, FmcRegs.finished, FmcRegs.answered,
            FmcRegs.changes, FmcRegs.status]

/-- A configuration begins with a page. -/
lemma xmemFirst_config (hr : Runs .xmemHttp s) (hs : s.InHeader) (v : Oprv)
    (hpath : c.path = .postConfig) (hone : c.onePayloadByte = false) (heos : c.eos = true)
    (hcopy : c.copied = .page ∨ c.copied = .lastPage) :
    ∃ s', HttpStep c s s' ∧
      (finish ((interpreter c).run xmemFirstProgram (startExec c s v))).core = s'.core := by
  obtain ⟨hop, hdone, herr⟩ := hr
  rcases hcopy with hcopy | hcopy
  · have hret := hcopy
    simp only [FmcCall.copied] at hret
    refine ⟨_, .bufferOpen hop (.beginConfig hs hpath hone) heos hcopy, ?_⟩
    rcases hs.1 with hst | hst <;> cases hmoves : c.bufferMoves <;>
      simp [startExec, xmemFirstProgram, finish, hret, hst, hpath, hone, hop, heos, hmoves,
        FmcRegs.core, FmcRegs.driven, FmcRegs.header, FmcRegs.writesWord]
  · have hret := hcopy
    simp only [FmcCall.copied] at hret
    refine ⟨_, .bufferDone hop (.beginConfig hs hpath hone) heos hcopy, ?_⟩
    rcases hs.1 with hst | hst <;>
      simp [startExec, xmemFirstProgram, finish, hret, hst, hpath, hone, hop, heos, herr,
        FmcRegs.core, FmcRegs.driven, FmcRegs.header, FmcRegs.writesWord, FmcRegs.finished,
        FmcRegs.answered, FmcRegs.changes, FmcRegs.status]

lemma xmemFirst_step (hr : Runs .xmemHttp s) (hs : s.InHeader) (v : Oprv) :
    ∃ s', HttpStep c s s' ∧
      (finish ((interpreter c).run xmemFirstProgram (startExec c s v))).core = s'.core := by
  obtain ⟨hop, hdone, herr⟩ := hr
  cases hcopy : c.copied with
  | upToDate | invalid =>
      refine ⟨_, .waits fun _ => by rw [hcopy]; nofun, ?_⟩
      simp only [FmcCall.copied] at hcopy
      simp [startExec, xmemFirstProgram, finish, hcopy, FmcRegs.core, FmcRegs.driven, hop]
  | counterMismatch | corrupt =>
      refine ⟨_, .pageFails hop (by simp [hcopy]), ?_⟩
      simp only [FmcCall.copied] at hcopy
      simp [startExec, xmemFirstProgram, finish, hcopy, FmcRegs.core, FmcRegs.driven, hop, FmcRegs.fails]
  | page | lastPage =>
      have hret := hcopy
      simp only [FmcCall.copied] at hret
      cases hpath : c.path with
      | nothing | notComplete =>
          refine ⟨_, .headerOpen hs (by simp [hpath]), ?_⟩
          rcases hs.1 with hst | hst <;>
            simp [startExec, xmemFirstProgram, finish, hret, hst, hpath, hop, FmcRegs.core,
              FmcRegs.driven, FmcRegs.header]
      | malformed | invalidRank | invalidSize | notFound =>
          refine ⟨_, .refused hs (by rw [hpath]; rfl), ?_⟩
          rcases hs.1 with hst | hst <;>
            simp [startExec, xmemFirstProgram, finish, hret, hst, hpath, hop, FmcRegs.core,
              FmcRegs.driven, FmcRegs.header]
      | getStatus | putRank | putSize =>
          refine ⟨_, .answered hs (by rw [hpath]; rfl), ?_⟩
          rcases hs.1 with hst | hst <;>
            simp [startExec, xmemFirstProgram, finish, hret, hst, hpath, hop, herr, FmcRegs.core,
              FmcRegs.driven, FmcRegs.header, FmcRegs.answered, FmcRegs.status]
      | postRouting =>
          cases hone : c.onePayloadByte with
          | true =>
              refine ⟨_, .corner hs (.inr hpath) hone, ?_⟩
              rcases hs.1 with hst | hst <;>
                simp [startExec, xmemFirstProgram, finish, hret, hst, hpath, hone, hop,
                  FmcRegs.core, FmcRegs.driven, FmcRegs.header]
          | false =>
              refine ⟨_, .routed (.beginRouting hs hpath hone), ?_⟩
              rcases hs.1 with hst | hst <;> cases hrouting : c.routing <;>
                simp [startExec, xmemFirstProgram, finish, hret, hst, hpath, hone, hop, hrouting,
                  herr, hdone, FmcRegs.core, FmcRegs.driven, FmcRegs.header, FmcRegs.routed, FmcRegs.fails,
                  FmcRegs.answered, FmcRegs.changes, FmcRegs.status]
      | postConfig =>
          cases hone : c.onePayloadByte with
          | true =>
              refine ⟨_, .corner hs (.inl hpath) hone, ?_⟩
              rcases hs.1 with hst | hst <;>
                simp [startExec, xmemFirstProgram, finish, hret, hst, hpath, hone, hop,
                  FmcRegs.core, FmcRegs.driven, FmcRegs.header]
          | false =>
              cases heos : c.eos with
              | false =>
                  refine ⟨_, .beginFails hop hs hpath hone (by simp [hcopy]) heos, ?_⟩
                  rcases hs.1 with hst | hst <;>
                    simp [startExec, xmemFirstProgram, finish, hret, hst, hpath, hone, hop, heos,
                      FmcRegs.core, FmcRegs.header, FmcRegs.fails]
              | true =>
                  exact xmemFirst_config ⟨hop, hdone, herr⟩ hs v hpath hone heos (by simp [hcopy])

/-! ### The programs of TCP -/

lemma tcpRouting_step (hr : Runs .tcpHttp s) (hs : s.InPayload .postRouting) (v : Oprv) :
    ∃ s', HttpStep c s s' ∧
      (finish ((interpreter c).run tcpRoutingProgram (startExec c s v))).core = s'.core := by
  obtain ⟨hop, hdone, herr⟩ := hr
  cases hfill : c.fillTcp with
  | notComplete =>
      refine ⟨_, .waits fun h => (nomatch hop.symm.trans h), ?_⟩
      simp [startExec, tcpRoutingProgram, finish, hfill, hop, FmcRegs.core, FmcRegs.driven]
  | ok | done =>
      refine ⟨_, .routed (.goOnRouting hs), ?_⟩
      cases hrouting : c.routing <;> cases hsess : s.tcpSessIdUpdated <;>
        cases hsent : c.sessionSent <;>
        simp [startExec, tcpRoutingProgram, finish, hfill, hop, hrouting, hsess, hsent, herr, hdone,
          FmcRegs.core, FmcRegs.driven, FmcRegs.routed, FmcRegs.fails, FmcRegs.answered, FmcRegs.changes,
          FmcRegs.status]

lemma tcpConfig_step (hr : Runs .tcpHttp s) (hs : s.InPayload .postConfig) (v : Oprv) :
    ∃ s', HttpStep c s s' ∧
      (finish ((interpreter c).run tcpConfigProgram (startExec c s v))).core = s'.core := by
  obtain ⟨hop, hdone, herr⟩ := hr
  cases hicap : s.fsmHwicap with
  | idle =>
      refine ⟨_, .fifoOpen hop (.goOnConfig hs) hicap, ?_⟩
      simp [startExec, tcpConfigProgram, finish, hicap, hop, FmcRegs.core, FmcRegs.driven]
  | write =>
      refine ⟨_, .fifoBusy hop hs (.inl hicap), ?_⟩
      simp [startExec, tcpConfigProgram, finish, hicap, hop, FmcRegs.core, FmcRegs.driven]
  | done =>
      cases hready : c.icapReady with
      | false =>
          refine ⟨_, .fifoBusy hop hs (.inr hicap), ?_⟩
          simp [startExec, tcpConfigProgram, finish, hicap, hready, hop, FmcRegs.core,
            FmcRegs.driven]
      | true =>
          refine ⟨_, .fifoDone hop hs hicap, ?_⟩
          cases hsess : s.tcpSessIdUpdated <;> cases hsent : c.sessionSent <;>
            simp [startExec, tcpConfigProgram, finish, hicap, hready, hop, hsess, hsent, herr,
              FmcRegs.core, FmcRegs.driven, FmcRegs.finished, FmcRegs.answered, FmcRegs.changes,
              FmcRegs.status]
  | error | drain =>
      refine ⟨_, .fifoFails hop hs (by simp [hicap]), ?_⟩
      cases hsess : s.tcpSessIdUpdated <;> cases hsent : c.sessionSent <;>
        simp [startExec, tcpConfigProgram, finish, hicap, hop, hsess, hsent, FmcRegs.core,
          FmcRegs.failed, FmcRegs.fails, FmcRegs.changes]

lemma tcpFirst_step (hr : Runs .tcpHttp s) (hs : s.InHeader) (hicap : s.fsmHwicap = .idle)
    (v : Oprv) :
    ∃ s', HttpStep c s s' ∧
      (finish ((interpreter c).run tcpFirstProgram (startExec c s v))).core = s'.core := by
  obtain ⟨hop, hdone, herr⟩ := hr
  cases hfill : c.fillTcp with
  | notComplete =>
      refine ⟨_, .waits fun h => (nomatch hop.symm.trans h), ?_⟩
      simp [startExec, tcpFirstProgram, finish, hfill, hop, FmcRegs.core, FmcRegs.driven]
  | ok | done =>
      cases hpath : c.path with
      | nothing | notComplete =>
          refine ⟨_, .headerOpen hs (by simp [hpath]), ?_⟩
          rcases hs.1 with hst | hst <;>
            simp [startExec, tcpFirstProgram, finish, hfill, hst, hpath, hop, FmcRegs.core,
              FmcRegs.driven, FmcRegs.header]
      | malformed | invalidRank | invalidSize | notFound =>
          refine ⟨_, .refused hs (by rw [hpath]; rfl), ?_⟩
          rcases hs.1 with hst | hst <;> cases hsess : s.tcpSessIdUpdated <;>
            cases hsent : c.sessionSent <;>
            simp [startExec, tcpFirstProgram, finish, hfill, hst, hpath, hop, hsess, hsent,
              FmcRegs.core, FmcRegs.driven, FmcRegs.header]
      | getStatus | putRank | putSize =>
          refine ⟨_, .answered hs (by rw [hpath]; rfl), ?_⟩
          rcases hs.1 with hst | hst <;> cases hsess : s.tcpSessIdUpdated <;>
            cases hsent : c.sessionSent <;>
            simp [startExec, tcpFirstProgram, finish, hfill, hst, hpath, hop, hsess, hsent, herr,
              FmcRegs.core, FmcRegs.driven, FmcRegs.header, FmcRegs.answered, FmcRegs.status]
      | postRouting =>
          cases hone : c.onePayloadByte with
          | true =>
              refine ⟨_, .corner hs (.inr hpath) hone, ?_⟩
              rcases hs.1 with hst | hst <;>
                simp [startExec, tcpFirstProgram, finish, hfill, hst, hpath, hone, hop,
                  FmcRegs.core, FmcRegs.driven, FmcRegs.header]
          | false =>
              refine ⟨_, .routed (.beginRouting hs hpath hone), ?_⟩
              rcases hs.1 with hst | hst <;> cases hrouting : c.routing <;>
                cases hsess : s.tcpSessIdUpdated <;> cases hsent : c.sessionSent <;>
                simp [startExec, tcpFirstProgram, finish, hfill, hst, hpath, hone, hop, hrouting,
                  hsess, hsent, herr, hdone, FmcRegs.core, FmcRegs.driven, FmcRegs.header,
                  FmcRegs.routed, FmcRegs.fails, FmcRegs.answered, FmcRegs.changes, FmcRegs.status]
      | postConfig =>
          cases hone : c.onePayloadByte with
          | true =>
              refine ⟨_, .corner hs (.inl hpath) hone, ?_⟩
              rcases hs.1 with hst | hst <;>
                simp [startExec, tcpFirstProgram, finish, hfill, hst, hpath, hone, hop,
                  FmcRegs.core, FmcRegs.driven, FmcRegs.header]
          | false =>
              refine ⟨_, .fifoOpen hop (.beginConfig hs hpath hone) ?_, ?_⟩
              · simp [FmcRegs.header, hpath, hicap]
              · rcases hs.1 with hst | hst <;>
                  simp [startExec, tcpFirstProgram, finish, hfill, hst, hpath, hone, hop, hicap,
                    FmcRegs.core, FmcRegs.driven, FmcRegs.header]

/-! ### The program of an operation -/

/-- The program of an HTTP operation, behind the ones that start it. -/
def httpProgram (s : FmcRegs) : List Instr :=
  match s.currentGlobalOperation with
  | .tcpHttp =>
      (if s.tcpSessIdUpdated then [] else tcpSessionProgram) ++ tcpHttpProgram s.reqType
  | _ => xmemHttpProgram s.reqType

/-- The phases of a request. -/
def FmcRegs.InPhase (s : FmcRegs) : Prop :=
  s.InHeader ∧ (s.currentGlobalOperation = .tcpHttp → s.fsmHwicap = .idle) ∨
    s.InPayload .postRouting ∨ s.InPayload .postConfig

lemma xmemHttpProgram_header (hs : s.InHeader) : xmemHttpProgram s.reqType = xmemFirstProgram := by
  obtain ⟨-, h₁, h₂⟩ := hs
  cases ht : s.reqType <;> first | rfl | exact absurd ht h₁ | exact absurd ht h₂

lemma tcpHttpProgram_header (hs : s.InHeader) : tcpHttpProgram s.reqType = tcpFirstProgram := by
  obtain ⟨-, h₁, h₂⟩ := hs
  cases ht : s.reqType <;> first | rfl | exact absurd ht h₁ | exact absurd ht h₂

lemma xmemHttp_step (hr : Runs .xmemHttp s) (hs : s.InPhase) :
    ∃ s', HttpStep c s s' ∧
      (finish ((interpreter c).run (xmemHttpProgram s.reqType) (startExec c s .ok))).core =
        s'.core := by
  rcases hs with ⟨hs, -⟩ | hs | hs
  · rw [xmemHttpProgram_header hs]
    exact xmemFirst_step hr hs _
  · have hprog : xmemHttpProgram s.reqType = xmemRoutingProgram := by rw [hs.2]; rfl
    rw [hprog]
    exact xmemRouting_step hr hs _
  · have hprog : xmemHttpProgram s.reqType = xmemConfigProgram := by rw [hs.2]; rfl
    rw [hprog]
    exact xmemConfig_step hr hs _

lemma tcpHttp_step (hr : Runs .tcpHttp s) (hs : s.InPhase) (v : Oprv) :
    ∃ s', HttpStep c s s' ∧
      (finish ((interpreter c).run (tcpHttpProgram s.reqType) (startExec c s v))).core =
        s'.core := by
  rcases hs with ⟨hs, hicap⟩ | hs | hs
  · rw [tcpHttpProgram_header hs]
    exact tcpFirst_step hr hs (hicap hr.currentGlobalOperation) v
  · have hprog : tcpHttpProgram s.reqType = tcpRoutingProgram := by rw [hs.2]; rfl
    rw [hprog]
    exact tcpRouting_step hr hs v
  · have hprog : tcpHttpProgram s.reqType = tcpConfigProgram := by rw [hs.2]; rfl
    rw [hprog]
    exact tcpConfig_step hr hs v

/-- **The program of an HTTP operation** has the outcomes of `HttpStep`. -/
theorem httpProgram_step {op : GlobalState} (hop : op = .xmemHttp ∨ op = .tcpHttp)
    (hr : Runs op s) (hs : s.InPhase) :
    ∃ t s', HttpStep c { s with tcpSessIdUpdated := t } s' ∧
      (finish ((interpreter c).run (httpProgram s) (startExec c s .ok))).core = s'.core := by
  have hcur := hr.currentGlobalOperation
  rcases hop with rfl | rfl
  · have hprog : httpProgram s = xmemHttpProgram s.reqType := by rw [httpProgram, hcur]
    rw [hprog]
    exact ⟨s.tcpSessIdUpdated, xmemHttp_step hr hs⟩
  · have hprog : httpProgram s = (if s.tcpSessIdUpdated then [] else tcpSessionProgram) ++
        tcpHttpProgram s.reqType := by rw [httpProgram, hcur]
    rw [hprog]
    cases hsess : s.tcpSessIdUpdated with
    | true =>
        rw [if_pos rfl, List.nil_append]
        exact ⟨s.tcpSessIdUpdated, tcpHttp_step hr hs .ok⟩
    | false =>
        rw [if_neg Bool.false_ne_true]
        cases harrived : c.session with
        | true =>
            obtain ⟨s', hstep, hrun⟩ := tcpHttp_step (c := c)
              (s := { s with tcpSessIdUpdated := true }) ⟨hcur, hr.globalOperationDone,
                hr.transferError⟩ hs .skipped
            refine ⟨true, s', hstep, ?_⟩
            rw [← hrun]
            simp [startExec, tcpSessionProgram, hsess, harrived]
        | false =>
            refine ⟨s.tcpSessIdUpdated, _, .waits fun h => (nomatch hcur.symm.trans h), ?_⟩
            simp [startExec, tcpSessionProgram, hsess, harrived, finish, FmcRegs.core,
              FmcRegs.driven, hcur]

end Programs

end CloudFpga.Fmc.Plan
