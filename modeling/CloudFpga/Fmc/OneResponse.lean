import CloudFpga.Fmc.Call

/-!
The response of an HTTP request: a request is answered once, and with the status of what was done.

* `Answered`, `InProgress`: the two states of a request; `Truth`: what a status says.
* `Regular`: the calls in which the programs answer; `ReqInv`: the registers of a request.
* `HttpStep.response`: the outcomes of a regular call.
* `answered_of_regular`: from any registers at which a request may start, the calls of a request.
-/

namespace CloudFpga.Fmc.Plan

open Nal Http
open Foundation

/-! ### Requests -/

/-- What the status `st` says about the request `kind`: 200 that it was carried out, and that the
role is coupled again; 400 or 404 that it was not recognised and nothing was changed; 422 or 500 that
its payload or its transfer failed. -/
def Truth (kind : PathResult) (s : FmcRegs) (st : ℕ) : Prop :=
  (st = 200 ↔ s.history.carriedOut = true ∧ (kind = .postConfig → s.toDecoup = false)) ∧
    (st = 400 ∨ st = 404 ↔ kind.refuses = true ∧ s.history.changed = false) ∧
    (st = 422 ∨ st = 500 ↔ s.history.failed = true)

/-- The call belongs to the operation that is already there. -/
def Belongs (c : FmcCall) (s : FmcRegs) : Prop :=
  c.resetFromPsoc = false ∧
    (s.globalOperationDone = true → s.currentGlobalOperation = .xmemHttp → c.startXmemTrans = true) ∧
    (s.globalOperationDone = true → s.currentGlobalOperation = .tcpHttp → c.txBusy = true)

/-- When the request is withdrawn, the FMC is idle, or the next operation may start at once. -/
def Ready (s : FmcRegs) : Prop :=
  ∀ c, ¬ Belongs c s → (fmc c s).currentGlobalOperation = .idle ∨ MayStart c s

/-- The request is answered, once. -/
def Answered (kind : PathResult) (s : FmcRegs) : Prop :=
  (s.IsHttp ∧ s.globalOperationDone = true) ∧ Ready s ∧ ∃ st, s.responses = [st] ∧ Truth kind s st

/-- The states in which a request is read. -/
def reads : HttpState → Bool
  | .idle | .parseHeader | .headerParsed | .readPayload => true
  | _ => false

/-- The request is read, and there is no response yet. -/
structure InProgress (s : FmcRegs) : Prop where
  isHttp : s.IsHttp
  globalOperationDone : s.globalOperationDone = false
  transferError : s.transferError = false
  reading : reads s.httpState = true
  responses : s.responses = []
  carriedOut : s.history.carriedOut = false
  failed : s.history.failed = false

/-- The request is answered, or it goes on and its last page has not arrived. -/
def Truthful (kind : PathResult) (c : FmcCall) (s : FmcRegs) : Prop :=
  Answered kind s ∨
    InProgress s ∧ (s.currentGlobalOperation = .xmemHttp → c.copied ≠ .lastPage)

/-- The call asks for an HTTP request, by TCP or else by XMEM. -/
def FmcCall.Opens (c : FmcCall) : Prop :=
  c.resetFromPsoc = false ∧ c.parseHTTP = true ∧ (c.tcpModeStart = true ∨ c.startXmemTrans = true)

/-- The operation of the request. -/
def FmcCall.httpOp (c : FmcCall) : GlobalState := if c.tcpModeStart then .tcpHttp else .xmemHttp

/-- The registers of the FMC, when nothing is left of the requests before but the decoupling. -/
def fresh (toDecoup setDecoup unfinished : Bool) : FmcRegs :=
  { toDecoup := toDecoup, setDecoup := setDecoup, history := { unfinished := unfinished } }

/-! ### Regular calls -/

/-- Words of a configuration arrive through XMEM. -/
def ConfigArrives (c : FmcCall) (q : FmcRegs) : Prop :=
  q.currentGlobalOperation = .xmemHttp ∧ (c.copied = .page ∨ c.copied = .lastPage) ∧
    (q.InPayload .postConfig ∨
      q.InHeader ∧ c.path = .postConfig ∧ c.onePayloadByte = false)

/-- The last page ends within the header, with the one byte of a payload, or within a routing
table. -/
def EndsEarly (c : FmcCall) (q : FmcRegs) : Prop :=
  q.currentGlobalOperation = .xmemHttp ∧ c.copied = .lastPage ∧
    (q.InHeader ∧ (c.path = .nothing ∨ c.path = .notComplete ∨
        (c.path = .postConfig ∨ c.path = .postRouting) ∧ c.onePayloadByte = true) ∨
      (q.InPayload .postRouting ∨ q.InHeader ∧ c.path = .postRouting) ∧ c.routing = .notComplete)

/-- The calls of the request `kind` that are none of these: HWICAP is aborted; a page has a wrong
counter or is corrupt; the header is taken for another one, before it is complete; HWICAP is not
ready for a configuration; the last page ends too early. -/
structure Regular (kind : PathResult) (c : FmcCall) (q : FmcRegs) : Prop where
  abort : c.wasAbort = false
  page : q.currentGlobalOperation = .xmemHttp → c.copied ≠ .counterMismatch ∧ c.copied ≠ .corrupt
  header : q.InHeader → c.path ∈ [.nothing, .notComplete, kind]
  buffer : ConfigArrives c q → c.eos = true
  fifo : q.currentGlobalOperation = .tcpHttp → q.fsmHwicap ≠ .error
  last : ¬ EndsEarly c q

/-- A regular call, while the request is not answered. -/
def RegularCall (kind : PathResult) (c : FmcCall) (s : FmcRegs) : Prop :=
  (entry c s).globalOperationDone = false → Regular kind c (entry c s)

instance (c : FmcCall) : Decidable c.Opens := inferInstanceAs (Decidable (_ ∧ _))
instance (c : FmcCall) (s : FmcRegs) : Decidable (Belongs c s) := inferInstanceAs (Decidable (_ ∧ _))
instance (c : FmcCall) (q : FmcRegs) : Decidable (ConfigArrives c q) :=
  inferInstanceAs (Decidable (_ ∧ _))
instance (c : FmcCall) (q : FmcRegs) : Decidable (EndsEarly c q) :=
  inferInstanceAs (Decidable (_ ∧ _))
instance (kind : PathResult) (c : FmcCall) (q : FmcRegs) : Decidable (Regular kind c q) :=
  decidable_of_iff (_ ∧ _ ∧ _ ∧ _ ∧ _ ∧ _)
    ⟨fun h => ⟨h.1, h.2.1, h.2.2.1, h.2.2.2.1, h.2.2.2.2.1, h.2.2.2.2.2⟩,
      fun h => ⟨h.abort, h.page, h.header, h.buffer, h.fifo, h.last⟩⟩
instance (kind : PathResult) (c : FmcCall) (s : FmcRegs) : Decidable (RegularCall kind c s) :=
  inferInstanceAs (Decidable (_ → _))

/-- The registers of the request `kind` in front of a program. -/
structure ReqInv (kind : PathResult) (q : FmcRegs) : Prop extends InProgress q where
  invalidPayload : q.invalidPayload = false
  phase : q.InHeader ∨ q.InPayload .postRouting ∧ kind = .postRouting ∨
    q.InPayload .postConfig ∧ kind = .postConfig
  fsmHwicap : q.currentGlobalOperation = .xmemHttp ∨ ¬ q.InPayload .postConfig →
    q.fsmHwicap = .idle
  changed : q.InHeader → q.history.changed = false

/-! ### The outcomes of a regular call -/

section Outcomes

variable {kind : PathResult} {c : FmcCall} {s s' h : FmcRegs}

/-- An answered operation waits until the request is withdrawn. -/
lemma ready_of_done (hop : s.IsHttp) (hdone : s.globalOperationDone = true) : Ready s := by
  intro c hc
  have idle (hplan : (makePlan c s).1.currentGlobalOperation = .idle) (hnil : (makePlan c s).2 = []) :
      (fmc c s).currentGlobalOperation = .idle := by
    obtain ⟨f, hist, heq, -⟩ := icapFsm_frame c (makePlan c s).1
    rw [fmc, hnil, heq]
    exact hplan
  cases hreset : c.resetFromPsoc with
  | true =>
      have hplan : makePlan c s = (s.toIdle, []) := by
        rcases hop with hop | hop <;> simp [makePlan, hop, hreset, idlePlan]
      exact .inl (idle (by rw [hplan]; rfl) (by rw [hplan]))
  | false =>
      rcases hop with hop | hop
      · cases hxmem : c.startXmemTrans with
        | true => exact absurd ⟨hreset, fun _ _ => hxmem, fun _ h => by cases hop.symm.trans h⟩ hc
        | false =>
            have hplan : makePlan c s = ({ s with currentGlobalOperation := .idle }, []) := by
              rw [makePlan, hop]
              simp [hreset, hdone, hxmem]
            exact .inl (idle (by rw [hplan]) (by rw [hplan]))
      · cases hbusy : c.txBusy with
        | true =>
            exact absurd ⟨hreset, fun _ h => (by cases hop.symm.trans h), fun _ _ => hbusy⟩ hc
        | false => exact .inr (.inr ⟨hop, hdone, hbusy⟩)

lemma truth_success (hcarried : s.history.carriedOut = true)
    (hdec : kind = .postConfig → s.toDecoup = false) (hkind : kind.refuses = false)
    (hfailed : s.history.failed = false) : Truth kind s 200 :=
  ⟨by simpa [hcarried] using hdec, by simp [hkind], by simp [hfailed]⟩

lemma truth_refused {st : ℕ} (hst : st = 400 ∨ st = 404) (hcarried : s.history.carriedOut = false)
    (hkind : kind.refuses = true) (hchanged : s.history.changed = false)
    (hfailed : s.history.failed = false) : Truth kind s st := by
  refine ⟨?_, by simp [hst, hkind, hchanged], ?_⟩
  · rw [hcarried]
    rcases hst with rfl | rfl <;> simp
  · rw [hfailed]
    rcases hst with rfl | rfl <;> simp

lemma truth_failed (hcarried : s.history.carriedOut = false) (hkind : kind.refuses = false)
    (hfailed : s.history.failed = true) : Truth kind s 422 :=
  ⟨by simp [hcarried], by simp [hkind], by simp [hfailed]⟩

/-- What a regular call of a request leads to. -/
def Response (kind : PathResult) (c : FmcCall) (s : FmcRegs) : Prop :=
  Answered kind s ∧ s.fsmHwicap = .idle ∨
    ReqInv kind s ∧ (s.currentGlobalOperation = .xmemHttp → c.copied ≠ .lastPage)

/-- A response ends the operation. -/
lemma response_answered {st : ℕ} (hop : s.IsHttp) (hdone : s.globalOperationDone = true)
    (hresponses : s.responses = [st]) (htruth : Truth kind s st) (hfsm : s.fsmHwicap = .idle) :
    Response kind c s :=
  .inl ⟨⟨⟨hop, hdone⟩, ready_of_done hop hdone, st, hresponses, htruth⟩, hfsm⟩

/-- The header that a regular call classifies is the one of the request. -/
lemma Regular.kind_eq (hr : Regular kind c s) (hin : s.InHeader) (hne : c.path ≠ .nothing)
    (hne' : c.path ≠ .notComplete) : c.path = kind := by
  have hpath := hr.header hin
  simp only [List.mem_cons, List.not_mem_nil, or_false] at hpath
  exact (hpath.resolve_left hne).resolve_left hne'

lemma ReqInv.fsm_header (hq : ReqInv kind s) (hin : s.InHeader) : s.fsmHwicap = .idle :=
  hq.fsmHwicap (.inr fun h => hin.2.1 h.2)

lemma ReqInv.status (hq : ReqInv kind s) : s.status = 200 := by
  rw [FmcRegs.status, hq.transferError, hq.invalidPayload]
  rfl

/-- **A request that is refused** is answered with 400 or 404, and nothing was changed. -/
lemma ReqInv.refused (hq : ReqInv kind s) (hr : Regular kind c s) (hin : s.InHeader)
    (hpath : c.path.refuses = true) :
    Response kind c { s.header c with globalOperationDone := true }.driven := by
  have hfsm := hq.fsm_header hin
  have hkind := hr.kind_eq hin (by rintro h; rw [h] at hpath; cases hpath)
    (by rintro h; rw [h] at hpath; cases hpath)
  have hresponses := hq.responses
  rw [FmcRegs.header, Exec.parseHeader]
  have answer {st : ℕ} {t : ReqType} (hst : st = 400 ∨ st = 404) : Response kind c
      { s with
        reqType := t
        httpState := .invalidRequest
        responses := s.responses ++ [st]
        globalOperationDone := true }.driven := by
    refine @response_answered _ _ _ st hq.isHttp rfl ?_ ?_ hfsm
    · show s.responses ++ [st] = [st]
      rw [hresponses, List.nil_append]
    · exact truth_refused hst hq.carriedOut (hkind ▸ hpath) (hq.changed hin) hq.failed
  cases hp : c.path with
  | malformed | invalidRank | invalidSize => exact answer (.inl rfl)
  | notFound => exact answer (.inr rfl)
  | nothing | notComplete | getStatus | postConfig | putRank | putSize | postRouting =>
      rw [hp] at hpath
      cases hpath

/-- **A request without a payload** is answered with 200. -/
lemma ReqInv.answered (hq : ReqInv kind s) (hr : Regular kind c s) (hin : s.InHeader)
    (hpath : c.path.immediate = true) :
    Response kind c ((s.header c).answered s.status).driven := by
  have hfsm := hq.fsm_header hin
  have hkind := hr.kind_eq hin (by rintro h; rw [h] at hpath; cases hpath)
    (by rintro h; rw [h] at hpath; cases hpath)
  have hresponses := hq.responses
  rw [hq.status, FmcRegs.header, Exec.parseHeader]
  have answer {t : ReqType} {b : Bool} (hne : kind ≠ .postConfig) (href : kind.refuses = false) :
      Response kind c
        ({ s with
          reqType := t
          httpState := .sendResponse
          history.changed := b
          history.carriedOut := true }.answered 200).driven := by
    refine @response_answered _ _ _ 200 hq.isHttp rfl ?_ ?_ hfsm
    · show s.responses ++ [200] = [200]
      rw [hresponses, List.nil_append]
    · exact truth_success rfl (fun h => absurd h hne) href hq.failed
  cases hp : c.path with
  | getStatus | putRank | putSize =>
      rw [hp] at hkind
      subst hkind
      exact answer (by rintro ⟨⟩) rfl
  | nothing | notComplete | malformed | invalidRank | invalidSize | notFound | postConfig |
    postRouting =>
      rw [hp] at hpath
      cases hpath

/-- The registers at which the payload of a routing table begins or goes on. -/
lemma ReqInv.payload_routing (hq : ReqInv kind s) (hr : Regular kind c s)
    (hh : Payload c s .postRouting h) :
    ReqInv kind h ∧ h.InPayload .postRouting ∧ kind = .postRouting ∧
      h.currentGlobalOperation = s.currentGlobalOperation ∧
      (s.InPayload .postRouting ∨ s.InHeader ∧ c.path = .postRouting) := by
  cases hh with
  | beginRouting hin hpath hone =>
      have hfsm := hq.fsm_header hin
      have hkind : kind = .postRouting :=
        (hr.kind_eq hin (by rw [hpath]; rintro ⟨⟩) (by rw [hpath]; rintro ⟨⟩)).symm.trans hpath
      have heq : s.header c = { s with reqType := .postRouting, httpState := .headerParsed } := by
        rw [FmcRegs.header, Exec.parseHeader, hpath]
      rw [heq]
      refine ⟨⟨⟨hq.isHttp, hq.globalOperationDone, hq.transferError, rfl, hq.responses,
        hq.carriedOut, hq.failed⟩, hq.invalidPayload, .inr (.inl ⟨⟨.inl rfl, rfl⟩, hkind⟩),
        fun _ => hfsm, fun h => absurd rfl h.2.2⟩, ⟨.inl rfl, rfl⟩, hkind, rfl, .inr ⟨hin, hpath⟩⟩
  | goOnRouting hin =>
      refine ⟨hq, hin, ?_, rfl, .inl hin⟩
      rcases hq.phase with hp | ⟨-, hp⟩ | ⟨hp, -⟩
      · exact absurd hin.2 hp.2.2
      · exact hp
      · cases hin.2.symm.trans hp.2

/-- The registers at which the payload of a configuration begins or goes on. -/
lemma ReqInv.payload_config (hq : ReqInv kind s) (hr : Regular kind c s)
    (hh : Payload c s .postConfig h) :
    ReqInv kind h ∧ h.InPayload .postConfig ∧ kind = .postConfig ∧
      h.currentGlobalOperation = s.currentGlobalOperation := by
  cases hh with
  | beginConfig hin hpath hone =>
      have hfsm := hq.fsm_header hin
      have hkind : kind = .postConfig :=
        (hr.kind_eq hin (by rw [hpath]; rintro ⟨⟩) (by rw [hpath]; rintro ⟨⟩)).symm.trans hpath
      have heq : s.header c = { s with reqType := .postConfig, httpState := .headerParsed } := by
        rw [FmcRegs.header, Exec.parseHeader, hpath]
      rw [heq]
      refine ⟨⟨⟨hq.isHttp, hq.globalOperationDone, hq.transferError, rfl, hq.responses,
        hq.carriedOut, hq.failed⟩, hq.invalidPayload, .inr (.inr ⟨⟨.inl rfl, rfl⟩, hkind⟩),
        fun _ => hfsm, fun h => absurd rfl h.2.1⟩, ⟨.inl rfl, rfl⟩, hkind, rfl⟩
  | goOnConfig hin =>
      refine ⟨hq, hin, ?_, rfl⟩
      rcases hq.phase with hp | ⟨hp, -⟩ | ⟨-, hp⟩
      · exact absurd hin.2 hp.2.1
      · cases hin.2.symm.trans hp.2
      · exact hp

/-- A configuration that is finished is answered with 200, and the role is coupled again. -/
lemma finished_response (hkind : kind = .postConfig) (hop : s.IsHttp) (hresponses : s.responses = [])
    (hfailed : s.history.failed = false) (hstatus : s.status = 200) (hfsm : s.fsmHwicap = .idle) :
    Response kind c s.finished.driven := by
  rw [FmcRegs.finished, hstatus]
  refine @response_answered _ _ _ 200 hop rfl ?_ ?_ hfsm
  · show s.responses ++ [200] = [200]
    rw [hresponses, List.nil_append]
  · exact truth_success rfl (fun _ => rfl) (by rw [hkind]; rfl) hfailed

/-- **A routing table** is answered with 200 or 422 when its opcode ends, and goes on otherwise. -/
lemma ReqInv.routed (hq : ReqInv kind s) (hr : Regular kind c s)
    (hh : Payload c s .postRouting h) : Response kind c (h.routed c.routing).driven := by
  obtain ⟨hreq, hpay, hkind, hop, hearly⟩ := hq.payload_routing hr hh
  have hfsm : h.fsmHwicap = .idle := hreq.fsmHwicap (.inr fun h' => nomatch hpay.2.symm.trans h'.2)
  have hresponses := hreq.responses
  have hrefuses : kind.refuses = false := by rw [hkind]; rfl
  have hne : kind ≠ .postConfig := by rw [hkind]; nofun
  have hlast (st : ℕ) : h.responses ++ [st] = [st] := by rw [hresponses, List.nil_append]
  cases hret : c.routing with
  | stored =>
      rw [FmcRegs.routed, hreq.status]
      exact @response_answered _ _ _ 200 hreq.isHttp rfl (hlast 200)
        (truth_success rfl (fun h => absurd h hne) hrefuses hreq.failed) hfsm
  | invalid | disabled =>
      exact @response_answered _ _ _ 422 hreq.isHttp rfl (hlast 422)
        (truth_failed hreq.carriedOut hrefuses rfl) hfsm
  | notComplete =>
      refine .inr ⟨⟨⟨hreq.isHttp, hreq.globalOperationDone, hreq.transferError, hreq.reading,
        hreq.responses, hreq.carriedOut, hreq.failed⟩, hreq.invalidPayload, hreq.phase,
        hreq.fsmHwicap, fun h' => absurd hpay.2 h'.2.2⟩, fun hx hlast => ?_⟩
      exact hr.last ⟨hop.symm.trans hx, hlast, .inr ⟨hearly, hret⟩⟩

/-- **The outcomes of a regular call**: the request is answered as it was carried out, or it goes
on. -/
theorem HttpStep.response (hstep : HttpStep c s s') (hq : ReqInv kind s) (hr : Regular kind c s)
    (hdrain : s.fsmHwicap ≠ .drain) : Response kind c s' := by
  have goesOn (h : ReqInv kind s) : ReqInv kind s.driven :=
    ⟨⟨h.isHttp, h.globalOperationDone, h.transferError, h.reading, h.responses, h.carriedOut,
      h.failed⟩, h.invalidPayload, h.phase, h.fsmHwicap, h.changed⟩
  cases hstep with
  | waits hwait => exact .inr ⟨goesOn hq, hwait⟩
  | pageFails hop hcopy =>
      obtain ⟨hmismatch, hcorrupt⟩ := hr.page hop
      exact absurd hcopy (not_or.mpr ⟨hmismatch, hcorrupt⟩)
  | headerOpen hin hpath =>
      have hfsm := hq.fsm_header hin
      have hlast (hx : s.currentGlobalOperation = .xmemHttp) : c.copied ≠ .lastPage := by
        intro hlast
        rcases hpath with hpath | hpath
        · exact hr.last ⟨hx, hlast, .inl ⟨hin, .inl hpath⟩⟩
        · exact hr.last ⟨hx, hlast, .inl ⟨hin, .inr (.inl hpath)⟩⟩
      rcases hpath with hpath | hpath
      · have heq : s.header c = s := by rw [FmcRegs.header, Exec.parseHeader, hpath]
        rw [heq]
        exact .inr ⟨goesOn hq, hlast⟩
      · have heq : s.header c = { s with reqType := .invalid, httpState := .parseHeader } := by
          rw [FmcRegs.header, Exec.parseHeader, hpath]
        rw [heq]
        exact .inr ⟨⟨⟨hq.isHttp, hq.globalOperationDone, hq.transferError, rfl, hq.responses,
          hq.carriedOut, hq.failed⟩, hq.invalidPayload, .inl ⟨.inr rfl, by rintro ⟨⟩, by rintro ⟨⟩⟩,
          fun _ => hfsm, fun _ => hq.changed hin⟩, hlast⟩
  | refused hin hpath => exact hq.refused hr hin hpath
  | answered hin hpath => exact hq.answered hr hin hpath
  | corner hin hpath hone =>
      have hfsm := hq.fsm_header hin
      have hlast (hx : s.currentGlobalOperation = .xmemHttp) : c.copied ≠ .lastPage := fun hlast =>
        hr.last ⟨hx, hlast, .inl ⟨hin, .inr (.inr ⟨hpath, hone⟩)⟩⟩
      have hkind : c.path = kind := by
        refine hr.kind_eq hin ?_ ?_ <;> rcases hpath with hpath | hpath <;> rw [hpath] <;> rintro ⟨⟩
      rcases hpath with hpath | hpath
      · have heq : s.header c = { s with reqType := .postConfig, httpState := .headerParsed } := by
          rw [FmcRegs.header, Exec.parseHeader, hpath]
        rw [heq]
        exact .inr ⟨⟨⟨hq.isHttp, hq.globalOperationDone, hq.transferError, rfl, hq.responses,
          hq.carriedOut, hq.failed⟩, hq.invalidPayload,
          .inr (.inr ⟨⟨.inr rfl, rfl⟩, hkind.symm.trans hpath⟩), fun _ => hfsm,
          fun h => absurd rfl h.2.1⟩, hlast⟩
      · have heq : s.header c = { s with reqType := .postRouting, httpState := .headerParsed } := by
          rw [FmcRegs.header, Exec.parseHeader, hpath]
        rw [heq]
        exact .inr ⟨⟨⟨hq.isHttp, hq.globalOperationDone, hq.transferError, rfl, hq.responses,
          hq.carriedOut, hq.failed⟩, hq.invalidPayload,
          .inr (.inl ⟨⟨.inr rfl, rfl⟩, hkind.symm.trans hpath⟩), fun _ => hfsm,
          fun h => absurd rfl h.2.2⟩, hlast⟩
  | routed hh => exact hq.routed hr hh
  | bufferOpen hop hh heos hpage =>
      obtain ⟨hreq, hpay, hkind, hcur⟩ := hq.payload_config hr hh
      refine .inr ⟨⟨⟨hreq.isHttp, hreq.globalOperationDone, hreq.transferError, hreq.reading,
        hreq.responses, hreq.carriedOut, hreq.failed⟩, hreq.invalidPayload, hreq.phase,
        hreq.fsmHwicap, fun h' => absurd hpay.2 h'.2.1⟩, fun _ => ?_⟩
      rw [hpage]
      rintro ⟨⟩
  | fifoOpen hop hh hicap =>
      obtain ⟨hreq, hpay, hkind, hcur⟩ := hq.payload_config hr hh
      have htcp := hcur.trans hop
      refine .inr ⟨⟨⟨hreq.isHttp, hreq.globalOperationDone, hreq.transferError, hreq.reading,
        hreq.responses, hreq.carriedOut, hreq.failed⟩, hreq.invalidPayload, hreq.phase,
        fun h' => ?_, fun h' => absurd hpay.2 h'.2.1⟩, fun hx => by cases htcp.symm.trans hx⟩
      exact h'.elim (fun hx => by cases htcp.symm.trans hx) fun h' => absurd hpay h'
  | fifoBusy hop hin hicap => exact .inr ⟨goesOn hq, fun hx => by cases hop.symm.trans hx⟩
  | bufferDone hop hh heos hlast =>
      obtain ⟨hreq, hpay, hkind, hcur⟩ := hq.payload_config hr hh
      exact finished_response hkind hreq.isHttp hreq.responses hreq.failed hreq.status
        (hreq.fsmHwicap (.inl (hcur.trans hop)))
  | fifoDone hop hin hicap =>
      obtain ⟨-, -, hkind, -⟩ := hq.payload_config hr (.goOnConfig hin)
      exact finished_response hkind hq.isHttp hq.responses hq.failed hq.status rfl
  | beginFails hop hin hpath hone hcopy heos =>
      have h := hr.buffer ⟨hop, hcopy, .inr ⟨hin, hpath, hone⟩⟩
      exact absurd (heos.symm.trans h) Bool.false_ne_true
  | bufferFails hop hin hcopy heos =>
      have h := hr.buffer ⟨hop, hcopy, .inl hin⟩
      exact absurd (heos.symm.trans h) Bool.false_ne_true
  | fifoFails hop hin hicap => exact absurd (hicap.resolve_right hdrain) (hr.fifo hop)

end Outcomes

/-! ### Calls -/

section Calls

variable {kind : PathResult} {c : FmcCall} {s q s' : FmcRegs} {clear : List Instr}

/-- The registers that only the next return value depends on do not matter. -/
lemma response_of_core (h : Response kind c s') (heq : s.core = s'.core) : Response kind c s := by
  have hcore : Response kind c s'.core := by
    rcases h with ⟨⟨hdone, -, hanswer⟩, hfsm⟩ | ⟨h, hlast⟩
    · exact .inl ⟨⟨hdone, ready_of_done hdone.1 hdone.2, hanswer⟩, hfsm⟩
    · exact .inr ⟨⟨⟨h.isHttp, h.globalOperationDone, h.transferError, h.reading, h.responses,
        h.carriedOut, h.failed⟩, h.invalidPayload, h.phase, h.fsmHwicap, h.changed⟩, hlast⟩
  rw [← heq] at hcore
  rcases hcore with ⟨⟨hdone, -, hanswer⟩, hfsm⟩ | ⟨h, hlast⟩
  · exact .inl ⟨⟨hdone, ready_of_done hdone.1 hdone.2, hanswer⟩, hfsm⟩
  · exact .inr ⟨⟨⟨h.isHttp, h.globalOperationDone, h.transferError, h.reading, h.responses,
      h.carriedOut, h.failed⟩, h.invalidPayload, h.phase, h.fsmHwicap, h.changed⟩, hlast⟩

/-- **The program of a request in a regular call**. -/
lemma ReqInv.program (hq : ReqInv kind q) (hr : Regular kind c q) (hdrain : q.fsmHwicap ≠ .drain) :
    Response kind c (finish ((interpreter c).run (opProgram q)
      { regs := q, wasAbort := c.wasAbort, copyRet := c.copyRet })) := by
  have hphase : q.InPhase := by
    rcases hq.phase with hin | ⟨hin, -⟩ | ⟨hin, -⟩
    · exact .inl ⟨hin, fun _ => hq.fsm_header hin⟩
    · exact .inr (.inl hin)
    · exact .inr (.inr hin)
  obtain ⟨t, s', hstep, heq⟩ := httpProgram_step (c := c) hq.isHttp
    ⟨rfl, hq.globalOperationDone, hq.transferError⟩ hphase
  rw [opProgram_http hq.isHttp, hr.abort]
  refine response_of_core (hstep.response ?_ ?_ hdrain) heq
  · exact ⟨⟨hq.isHttp, hq.globalOperationDone, hq.transferError, hq.reading, hq.responses,
      hq.carriedOut, hq.failed⟩, hq.invalidPayload, hq.phase, hq.fsmHwicap, hq.changed⟩
  · exact ⟨hr.abort, hr.page, hr.header, hr.buffer, hr.fifo, hr.last⟩

/-- The state machine behind the FIFO moves in the payload of a configuration only. -/
lemma ReqInv.icapFsm (hq : ReqInv kind q) : ReqInv kind (icapFsm c q) := by
  by_cases hidle : q.fsmHwicap = .idle
  · have heq : Plan.icapFsm c q = q := by rw [Plan.icapFsm, hidle]
    rw [heq]
    exact hq
  · have hpay : q.InPayload .postConfig := by
      by_contra hno
      exact hidle (hq.fsmHwicap (.inr hno))
    have hop : q.currentGlobalOperation ≠ .xmemHttp := fun h => hidle (hq.fsmHwicap (.inl h))
    obtain ⟨f, hist, heq, hcarried, hfailed⟩ := icapFsm_frame c q
    rw [heq]
    exact ⟨⟨hq.isHttp, hq.globalOperationDone, hq.transferError, hq.reading, hq.responses,
      hcarried.trans hq.carriedOut, hfailed.trans hq.failed⟩, hq.invalidPayload, hq.phase,
      fun h => (h.elim hop fun h => h hpay).elim, fun h => absurd hpay.2 h.2.1⟩

/-- **A request that goes on.** -/
lemma ReqInv.fmc (hq : ReqInv kind s) (hbelongs : Belongs c s) (hr : RegularCall kind c s) :
    Response kind c (fmc c s) := by
  have hdone := hq.globalOperationDone
  have hmay : ¬ MayStart c s := by
    rintro (hidle | ⟨-, hd, -⟩)
    · rcases hq.isHttp with hop | hop <;> exact nomatch hop.symm.trans hidle
    · exact absurd (hdone.symm.trans hd) Bool.false_ne_true
  have hrec : s.currentGlobalOperation.recorded = true := by
    rcases hq.isHttp with hop | hop <;> rw [hop] <;> rfl
  have hplan : makePlan c s = opPlan c [] s := by
    rcases hq.isHttp with hop | hop <;> simp [makePlan, hop, hbelongs.1, hdone]
  rw [opPlan_recorded hrec hq.transferError] at hplan
  have hq' := hq.icapFsm (c := c)
  have hentry : entry c s = Plan.icapFsm c s := by
    rw [entry, if_neg hmay, hplan]
  rw [RegularCall, hentry] at hr
  have hr := hr hq'.globalOperationDone
  have habort : ¬ (c.wasAbort = true ∧ s.currentGlobalOperation ≠ .xmemCheckPattern) :=
    fun h => absurd (hr.abort.symm.trans h.1) Bool.false_ne_true
  rw [if_neg habort, List.nil_append] at hplan
  obtain ⟨f, hist, heq, -⟩ := icapFsm_frame c s
  have hprog : opProgram s = opProgram (Plan.icapFsm c s) := by rw [heq]; rfl
  rw [Plan.fmc, hplan, hprog]
  exact hq'.program hr (icapFsm_ne_drain c s)

lemma eq_of_core (h : q.core = s.core) :
    q.currentGlobalOperation = s.currentGlobalOperation ∧
      q.globalOperationDone = s.globalOperationDone ∧ q.responses = s.responses ∧
      q.history = s.history ∧ q.toDecoup = s.toDecoup ∧ q.fsmHwicap = s.fsmHwicap := by
  have hop := congrArg FmcRegs.currentGlobalOperation h
  have hdone := congrArg FmcRegs.globalOperationDone h
  have hresponses := congrArg FmcRegs.responses h
  have hhist := congrArg FmcRegs.history h
  have hdecoup := congrArg FmcRegs.toDecoup h
  have hfsm := congrArg FmcRegs.fsmHwicap h
  exact ⟨hop, hdone, hresponses, hhist, hdecoup, hfsm⟩

/-- **A request that is answered** stays so until it is withdrawn. -/
lemma Answered.fmc (ha : Answered kind s) (hfsm : s.fsmHwicap = .idle) (hbelongs : Belongs c s) :
    Answered kind (fmc c s) ∧ (fmc c s).fsmHwicap = .idle := by
  obtain ⟨⟨hop, hdone⟩, -, st, hresponses, htruth⟩ := ha
  have hicap : icapFsm c s = s := by rw [icapFsm, hfsm]
  have keeps (e : Exec) (he : e.regs.core = s.core) :
      Answered kind (finish e) ∧ (finish e).fsmHwicap = .idle := by
    obtain ⟨hcur, hd, hresp, hhist, hdecoup, hf⟩ := eq_of_core he
    have hop' : (finish e).IsHttp := by
      rcases hop with hop | hop
      · exact .inl (hcur.trans hop)
      · exact .inr (hcur.trans hop)
    have hdone' : (finish e).globalOperationDone = true :=
      Bool.or_eq_true_iff.mpr (.inl (hd.trans hdone))
    refine ⟨⟨⟨hop', hdone'⟩, ready_of_done hop' hdone', st, hresp.trans hresponses, ?_⟩, hf.trans hfsm⟩
    show Truth kind { finish e with history := e.regs.history, toDecoup := e.regs.toDecoup } st
    rw [hhist, hdecoup]
    exact htruth
  rcases hop with hop | hop
  · have hxmem := hbelongs.2.1 hdone hop
    have hplan : makePlan c s = (s, []) := by
      rw [makePlan, hop]
      simp [hbelongs.1, hdone, hxmem]
    rw [Plan.fmc, hplan, hicap]
    exact keeps _ rfl
  · have hbusy := hbelongs.2.2 hdone hop
    have hplan : makePlan c s = (s, tcpSendProgram) := by
      rw [makePlan, hop]
      simp [hbelongs.1, hdone, hbusy]
    rw [Plan.fmc, hplan, hicap]
    exact keeps _ (tcpSend_core _)

/-- The plan of a call that opens a request. -/
lemma makePlan_opens (hopens : c.Opens) (hmay : MayStart c s) :
    ∃ clear, (clear = [⟨.clearInBuffer, maskAlways⟩, ⟨.clearOutBuffer, maskAlways⟩] ∨
        clear = [⟨.clearInBuffer, maskAlways⟩, ⟨.clearOutBuffer, maskAlways⟩,
          ⟨.tcpCntReset, maskAlways⟩]) ∧
      makePlan c s = opPlan c clear (s.toIdle.startHttp c.httpOp) := by
  obtain ⟨hreset, hparse, hmode⟩ := hopens
  have hidle : makePlan c s = idlePlan c s := by
    rcases hmay with hop | ⟨hop, hdone, hbusy⟩
    · rw [makePlan, hop]
    · rw [makePlan, hop]
      simp [hreset, hdone, hbusy]
  rw [hidle, idlePlan, FmcCall.httpOp]
  cases htcp : c.tcpModeStart with
  | true => exact ⟨_, .inr rfl, by simp [hreset, hparse]⟩
  | false =>
      have hxmem : c.startXmemTrans = true := by
        rcases hmode with h | h
        · exact absurd (htcp.symm.trans h) Bool.false_ne_true
        · exact h
      exact ⟨_, .inl rfl, by simp [hreset, hparse, hxmem]⟩

/-- The registers in front of the program of a request that starts. -/
def opened (c : FmcCall) (s : FmcRegs) : FmcRegs :=
  { fresh s.toDecoup s.setDecoup
      (icapFsm c (s.toIdle.startHttp c.httpOp)).history.unfinished with
    currentGlobalOperation := c.httpOp }

lemma httpOp_isHttp (c : FmcCall) : c.httpOp = .xmemHttp ∨ c.httpOp = .tcpHttp := by
  rw [FmcCall.httpOp]
  split
  · exact .inr rfl
  · exact .inl rfl

lemma startHttp_recorded (c : FmcCall) (s : FmcRegs) :
    (s.toIdle.startHttp c.httpOp).currentGlobalOperation.recorded = true := by
  show c.httpOp.recorded = true
  rcases httpOp_isHttp c with hop | hop <;> rw [hop] <;> rfl

lemma reqInv_opened (kind : PathResult) (c : FmcCall) (s : FmcRegs) : ReqInv kind (opened c s) :=
  ⟨⟨httpOp_isHttp c, rfl, rfl, rfl, rfl, rfl, rfl⟩, rfl, .inl ⟨.inl rfl, nofun, nofun⟩,
    fun _ => rfl, fun _ => rfl⟩

/-- The registers behind the instructions that start a request. -/
lemma emptied_opened (c : FmcCall) (s : FmcRegs) :
    { (icapFsm c (s.toIdle.startHttp c.httpOp)).emptied with responses := [] } = opened c s := by
  obtain ⟨f, hist, heq, hcarried, hfailed⟩ := icapFsm_frame c (s.toIdle.startHttp c.httpOp)
  obtain ⟨ch, ca, fa, wr, un⟩ := hist
  have hca : ca = false := hcarried
  have hfa : fa = false := hfailed
  rw [opened, heq, hca, hfa]
  rfl

lemma entry_opens (hopens : c.Opens) (hmay : MayStart c s) :
    entry c s = (icapFsm c (s.toIdle.startHttp c.httpOp)).emptied := by
  obtain ⟨clear, -, hplan⟩ := makePlan_opens hopens hmay
  rw [opPlan_recorded (startHttp_recorded c s) rfl] at hplan
  rw [entry, if_pos hmay, hplan]

/-- **A request starts** with registers that are reset. -/
lemma fmc_opens (hopens : c.Opens) (hmay : MayStart c s) (habort : c.wasAbort = false) :
    fmc c s = finish ((interpreter c).run (opProgram (opened c s))
      { regs := opened c s, wasAbort := c.wasAbort, copyRet := c.copyRet }) := by
  obtain ⟨clear, hclear, hplan⟩ := makePlan_opens hopens hmay
  have hno : ¬ (c.wasAbort = true ∧
      (s.toIdle.startHttp c.httpOp).currentGlobalOperation ≠ .xmemCheckPattern) :=
    fun h => absurd (habort.symm.trans h.1) Bool.false_ne_true
  rw [opPlan_recorded (startHttp_recorded c s) rfl, if_neg hno] at hplan
  have hprog : opProgram (s.toIdle.startHttp c.httpOp) = opProgram (opened c s) := rfl
  rw [fmc, hplan, hprog, ← emptied_opened]
  rcases hclear with rfl | rfl <;> simp [FmcRegs.emptied]

/-- The first call of a request. -/
lemma fmc_first (hopens : c.Opens) (hmay : MayStart c s) (hr : RegularCall kind c s) :
    Response kind c (fmc c s) ∧
      ∃ unfinished, fmc c s = fmc c (fresh s.toDecoup s.setDecoup unfinished) := by
  have hopened := emptied_opened c s
  rw [← entry_opens hopens hmay] at hopened
  have hdone : (entry c s).globalOperationDone = false :=
    congrArg FmcRegs.globalOperationDone hopened
  have hr := hr hdone
  have hr' : Regular kind c (opened c s) := by
    rw [← hopened]
    exact ⟨hr.abort, hr.page, hr.header, hr.buffer, hr.fifo, hr.last⟩
  rw [fmc_opens hopens hmay hr.abort]
  refine ⟨(reqInv_opened kind c s).program hr' nofun,
    (icapFsm c (s.toIdle.startHttp c.httpOp)).history.unfinished, ?_⟩
  rw [fmc_opens hopens (.inl rfl) hr.abort]
  rfl

end Calls

/-! ### Requests -/

section Requests

variable {kind : PathResult} {c : FmcCall} {s : FmcRegs}

/-- A regular call of a request that is read or answered. -/
lemma Response.fmc {c₀ : FmcCall} (h : Response kind c₀ s) (hbelongs : Belongs c s)
    (hr : RegularCall kind c s) : Response kind c (fmc c s) := by
  rcases h with ⟨h, hfsm⟩ | ⟨h, -⟩
  · exact .inl (h.fmc hfsm hbelongs)
  · exact h.fmc hbelongs hr

lemma Response.truthful (h : Response kind c s) : Truthful kind c s := by
  rcases h with ⟨h, -⟩ | ⟨h, hlast⟩
  · exact .inl h
  · exact .inr ⟨h.toInProgress, hlast⟩

end Requests

end CloudFpga.Fmc.Plan
