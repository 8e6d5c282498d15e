import CloudFpga.Foundation.Clocked
import CloudFpga.Toe.RxEngine.FiniteStateMachine
import CloudFpga.Toe.Tables.TxSarTable
import CloudFpga.Toe.TxEngine.MetaDataLoader

/-!
The processes around the Tx SAR table: the state machine of the Rx engine, the meta-data loader
of the Tx engine and the table itself, with the streams between them.

* `TxSystem`: the state; `TxLabel`: who takes the next step.
* `txNext`: a step of the system.
* `TxShape`: where the queries of the two engines are at any time; `txShape_run`: it holds after
  every run from an idle system.
-/

namespace CloudFpga.Toe

open Foundation

/-! ### The system -/

/-- The system: the segment that `pFiniteStateMachine` has loaded (`FSM_TRANSITION`), if any, its
replies from the table, the table with the queries to it, the meta-data loader, and the pushes
that wait for the Tx application interface. `reset` is a history variable: a SYN has reset the
entry of the session, and the Tx engine has not initialised it yet. -/
structure TxSystem where
  fsm : Option RXeFsmMeta := none
  siFsmTxSarRep : List RXeTxSarReply := []
  tst : TstState
  mdl : MdlState
  siTAiPushCmd : List TStTxSarPush := []
  reset : SessionId → Bool := fun _ => false

/-- Who takes the next step. What the other tables and processes contribute is arbitrary. -/
inductive TxLabel where
  /-- `FSM_LOAD` of a segment -/
  | load (m : RXeFsmMeta)
  /-- `FSM_TRANSITION` with the replies of the state table and of the Rx SAR table; `unread` is
  the value of the local variable `txSar` when no reply is read -/
  | transition (tcpState : TcpState) (rxSar : RxSarReply) (unread : RXeTxSarReply)
  /-- `tx_sar_table` -/
  | table
  /-- `pMetaDataLoader` -/
  | loader
  /-- an event for the Tx engine -/
  | event (e : ExtendedEvent)
  /-- a reply of the Rx SAR table to the Tx engine -/
  | rxSarRep (rep : RxSarReply)
  /-- a push of the Tx application interface -/
  | push (p : TAiTxSarPush)

/-- The query initialises an entry. -/
def TXeTxSarQuery.isInit (q : TXeTxSarQuery) : Bool := q.write ∧ ¬q.isRtQuery ∧ q.init

/-- The Tx SAR reply of a transition and the replies that are left: `none` while the state
machine has to wait. Only the SYN branch does not read the stream; without an ACK bit the read
does not block. -/
def fsmTxSar (m : RXeFsmMeta) (reps : List RXeTxSarReply) (unread : RXeTxSarReply) :
    Option (RXeTxSarReply × List RXeTxSarReply) :=
  match reps with
  | txSar :: rest => if synOnly m then some (unread, reps) else some (txSar, rest)
  | [] => if m.ack then none else some (unread, [])

section Next

variable (s : TxSystem)

/-- The system after new queries of the Rx engine. -/
def TxSystem.askRXe (qs : List RXeTxSarQuery) : TxSystem :=
  { s with tst := { s.tst with siRXeTxSarQry := s.tst.siRXeTxSarQry ++ qs } }

/-- The system after new queries of the Tx engine. -/
def TxSystem.askTXe (qs : List TXeTxSarQuery) : TxSystem :=
  { s with tst := { s.tst with siTXeTxSarQry := s.tst.siTXeTxSarQry ++ qs } }

/-- A call of `pFiniteStateMachine` in `FSM_LOAD`. -/
def fsmLoadCall (m : RXeFsmMeta) : TxSystem :=
  match s.fsm with
  | none => { s with fsm := some m }.askRXe (fsmLoad m).txSarQry
  | some _ => s

/-- A call of `pFiniteStateMachine` in `FSM_TRANSITION`. -/
def fsmTransitionCall (tcpState : TcpState) (rxSar : RxSarReply) (unread : RXeTxSarReply) :
    TxSystem :=
  match s.fsm with
  | some m =>
      match fsmTxSar m s.siFsmTxSarRep unread with
      | some (txSar, reps) =>
          { s with
            fsm := none
            siFsmTxSarRep := reps
            reset :=
              if fsmResets m tcpState then Function.update s.reset m.sessionId true
              else s.reset }.askRXe
            (fsmTransition m tcpState rxSar txSar).txSarQry
      | none => s
  | none => s

/-- A call of `tx_sar_table`. -/
def tableCall : TxSystem :=
  let r := txSarTable s.tst
  { s with
    tst := r.1
    siFsmTxSarRep := s.siFsmTxSarRep ++ r.2.soRXeTxSarRep
    mdl := { s.mdl with siTxSarRep := s.mdl.siTxSarRep ++ r.2.soTXeTxSarRep }
    siTAiPushCmd := s.siTAiPushCmd ++ r.2.soTAiPushCmd
    reset :=
      match s.tst.siTXeTxSarQry with
      | q :: _ => if q.isInit then Function.update s.reset q.sessionID false else s.reset
      | [] => s.reset }

/-- A call of `pMetaDataLoader`. -/
def loaderCall : TxSystem :=
  { s with mdl := (pMetaDataLoader s.mdl).1 }.askTXe (pMetaDataLoader s.mdl).2.txSarQry

/-- A step of the system. -/
def txNext : TxLabel → TxSystem
  | .load m => fsmLoadCall s m
  | .transition tcpState rxSar unread => fsmTransitionCall s tcpState rxSar unread
  | .table => tableCall s
  | .loader => loaderCall s
  | .event e => { s with mdl := { s.mdl with siEvent := s.mdl.siEvent ++ [e] } }
  | .rxSarRep rep => { s with mdl := { s.mdl with siRxSarRep := s.mdl.siRxSarRep ++ [rep] } }
  | .push p => { s with tst := { s.tst with siTAiPushCmd := s.tst.siTAiPushCmd ++ [p] } }

end Next

/-- The entry of a session. -/
def TxSystem.entry (s : TxSystem) (id : SessionId) : TxSarEntry := s.tst.table id

/-- What a call of the table does. -/
inductive TableStep (s : TxSystem) : TxSystem → Prop
  | writeTXe {q : TXeTxSarQuery} {qs : List TXeTxSarQuery} (hqs : s.tst.siTXeTxSarQry = q :: qs)
      (hw : q.write = true) :
      TableStep s { s with
        tst := { s.tst with
          siTXeTxSarQry := qs
          table := Function.update s.tst.table q.sessionID
            (txSarWriteTXe (s.tst.table q.sessionID) q) }
        siTAiPushCmd := s.siTAiPushCmd ++ txSarPushTXe q
        reset := if q.isInit then Function.update s.reset q.sessionID false else s.reset }
  | readTXe {q : TXeTxSarQuery} {qs : List TXeTxSarQuery} (hqs : s.tst.siTXeTxSarQry = q :: qs)
      (hw : q.write = false) :
      TableStep s { s with
        tst := { s.tst with siTXeTxSarQry := qs }
        mdl := { s.mdl with
          siTxSarRep := s.mdl.siTxSarRep ++ [txSarReplyTXe (s.tst.table q.sessionID)] } }
  | push {p : TAiTxSarPush} {ps : List TAiTxSarPush} (hps : s.tst.siTAiPushCmd = p :: ps) :
      TableStep s { s with
        tst := { s.tst with
          siTAiPushCmd := ps
          table := Function.update s.tst.table p.sessionID
            { s.tst.table p.sessionID with appw := p.app } } }
  | writeRXe {q : RXeTxSarQuery} {qs : List RXeTxSarQuery} (hqs : s.tst.siRXeTxSarQry = q :: qs)
      (hw : q.write = true) :
      TableStep s { s with
        tst := { s.tst with
          siRXeTxSarQry := qs
          table := Function.update s.tst.table q.sessionID
            (txSarWriteRXe (s.tst.table q.sessionID) q) }
        siTAiPushCmd := s.siTAiPushCmd ++
          [{ sessionID := q.sessionID, ackd := q.ackd.setWidth 16 }] }
  | readRXe {q : RXeTxSarQuery} {qs : List RXeTxSarQuery} (hqs : s.tst.siRXeTxSarQry = q :: qs)
      (hw : q.write = false) :
      TableStep s { s with
        tst := { s.tst with siRXeTxSarQry := qs }
        siFsmTxSarRep := s.siFsmTxSarRep ++ [txSarReplyRXe (s.tst.table q.sessionID)] }
  | idle : TableStep s s

lemma tableCall_cases (s : TxSystem) : TableStep s (tableCall s) := by
  cases hT : s.tst.siTXeTxSarQry with
  | cons q qs =>
      cases hw : q.write with
      | true =>
          have h := TableStep.writeTXe hT hw
          simpa [tableCall, txSarTable, hT, hw, TstState.set] using h
      | false =>
          have hinit : q.isInit = false := by simp [TXeTxSarQuery.isInit, hw]
          have h := TableStep.readTXe hT hw
          simpa [tableCall, txSarTable, hT, hw, hinit] using h
  | nil =>
      cases hP : s.tst.siTAiPushCmd with
      | cons p ps =>
          have h := TableStep.push hP
          simpa [tableCall, txSarTable, hT, hP, TstState.set] using h
      | nil =>
          cases hR : s.tst.siRXeTxSarQry with
          | cons q qs =>
              cases hw : q.write with
              | true =>
                  have h := TableStep.writeRXe hR hw
                  simpa [tableCall, txSarTable, hT, hP, hR, hw, TstState.set] using h
              | false =>
                  have h := TableStep.readRXe hR hw
                  simpa [tableCall, txSarTable, hT, hP, hR, hw] using h
          | nil =>
              have h := TableStep.idle (s := s)
              simpa [tableCall, txSarTable, hT, hP, hR] using h

/-! ### Where the queries are -/

/-- The queries of the state machine: writes, at the end of them the read for the loaded segment
if it carries an ACK; once that is answered, no query is left. -/
inductive FsmShape (s : TxSystem) : Prop
  | quiet (hm : ∀ m ∈ s.fsm, m.ack = false) (hq : ∀ q ∈ s.tst.siRXeTxSarQry, q.write = true)
      (hr : s.siFsmTxSarRep = [])
  | asked {m : RXeFsmMeta} {ws : List RXeTxSarQuery} (hfsm : s.fsm = some m) (hack : m.ack = true)
      (hq : s.tst.siRXeTxSarQry = ws ++ [.rd m.sessionId]) (hws : ∀ q ∈ ws, q.write = true)
      (hr : s.siFsmTxSarRep = [])
  | answered {m : RXeFsmMeta} {rep : RXeTxSarReply} (hfsm : s.fsm = some m) (hack : m.ack = true)
      (hq : s.tst.siRXeTxSarQry = []) (hr : s.siFsmTxSarRep = [rep])

/-- The event needs a reply of the Tx SAR table. -/
def needsTxSar (mdl : MdlState) : Bool := (mdlQueries mdl.curEvent.event).txSarQry ≠ []

/-- The queries of the meta-data loader: writes, at the end of them the read for the current
event; once that is answered, no query is left. -/
inductive MdlShape (mdl : MdlState) (qs : List TXeTxSarQuery) : Prop
  | quiet (hst : mdl.fsmState = .processEvent → mdl.sarLoaded = false ∧ needsTxSar mdl = false)
      (hq : ∀ q ∈ qs, q.write = true) (hr : mdl.siTxSarRep = [])
  | loaded (hst : mdl.fsmState = .processEvent) (hl : mdl.sarLoaded = true)
      (ht : mdl.curEvent.event.type = .tx ∨ mdl.curEvent.event.type = .rt ∨
        mdl.curEvent.event.type = .fin)
      (hq : ∀ q ∈ qs, q.write = true ∧ q.init = false) (hr : mdl.siTxSarRep = [])
  | asked {ws : List TXeTxSarQuery} (hst : mdl.fsmState = .processEvent)
      (hl : mdl.sarLoaded = false) (hneeds : needsTxSar mdl = true)
      (hq : qs = ws ++ [.rd mdl.sessionID]) (hws : ∀ q ∈ ws, q.write = true)
      (hr : mdl.siTxSarRep = [])
  | answered {rep : TXeTxSarReply} (hst : mdl.fsmState = .processEvent)
      (hl : mdl.sarLoaded = false) (hneeds : needsTxSar mdl = true) (hq : qs = [])
      (hr : mdl.siTxSarRep = [rep])

/-- Where the queries are, and that behind an initialisation no other write waits. -/
structure TxShape (s : TxSystem) : Prop where
  fsm : FsmShape s
  mdl : MdlShape s.mdl s.tst.siTXeTxSarQry
  inits : s.tst.siTXeTxSarQry.Pairwise fun x y => x.isInit = true → y.write = true →
    y.isInit = true

/-- Nothing is in flight between the processes. -/
structure TxIdle (s : TxSystem) : Prop where
  fsm : s.fsm = none
  siFsmTxSarRep : s.siFsmTxSarRep = []
  siTXeTxSarQry : s.tst.siTXeTxSarQry = []
  siRXeTxSarQry : s.tst.siRXeTxSarQry = []
  fsmState : s.mdl.fsmState = .waitEvent
  siTxSarRep : s.mdl.siTxSarRep = []

lemma TxIdle.shape {s : TxSystem} (h : TxIdle s) : TxShape s where
  fsm := .quiet (by simp [h.fsm]) (by simp [h.siRXeTxSarQry]) h.siFsmTxSarRep
  mdl := .quiet (by simp [h.fsmState]) (by simp [h.siTXeTxSarQry]) h.siTxSarRep
  inits := by simp [h.siTXeTxSarQry]

section Shape

variable {s : TxSystem}

lemma mdlQueries_eq (e : Event) :
    (mdlQueries e).txSarQry = [] ∨ (mdlQueries e).txSarQry = [.rd e.sessionID] := by
  unfold mdlQueries
  split
  all_goals
    try dsimp only
    try split_ifs
    all_goals simp

/-- `FSM_LOAD`. -/
lemma FsmShape.load (h : FsmShape s) (m : RXeFsmMeta) : FsmShape (fsmLoadCall s m) := by
  unfold fsmLoadCall
  cases hfsm : s.fsm with
  | some m' => exact h
  | none =>
      cases h with
      | asked hf => rw [hfsm] at hf; cases hf
      | answered hf => rw [hfsm] at hf; cases hf
      | quiet _ hq hr =>
          by_cases hack : m.ack = true
          · exact .asked rfl hack (by simp [TxSystem.askRXe, fsmLoad, hack]) hq hr
          · refine .quiet ?_ ?_ hr
            · simpa [TxSystem.askRXe] using hack
            · simpa [TxSystem.askRXe, fsmLoad, hack] using hq

/-- `FSM_TRANSITION`. -/
lemma FsmShape.transition (h : FsmShape s) (tcpState : TcpState) (rxSar : RxSarReply)
    (unread : RXeTxSarReply) : FsmShape (fsmTransitionCall s tcpState rxSar unread) := by
  unfold fsmTransitionCall
  cases hfsm : s.fsm with
  | none => exact h
  | some m =>
      have hw (txSar : RXeTxSarReply) :
          ∀ q ∈ (fsmTransition m tcpState rxSar txSar).txSarQry, q.write = true := by
        obtain hnil | ⟨w, hqry, hw, -⟩ := fsmTransition_txSarQry m tcpState rxSar txSar
        · simp [hnil]
        · simpa [hqry] using hw
      cases h with
      | quiet hm hq hr =>
          have hack := hm m (by simp [hfsm])
          simp only [fsmTxSar, hr, hack, Bool.false_eq_true, if_false]
          refine .quiet (by simp [TxSystem.askRXe]) ?_ rfl
          intro q hmem
          obtain hmem | hmem := List.mem_append.mp hmem
          · exact hq q hmem
          · exact hw _ q hmem
      | asked hf hack hq hws hr =>
          obtain rfl := Option.some.inj (hfsm.symm.trans hf)
          simp only [fsmTxSar, hr, hack, if_true]
          exact .asked hfsm hack hq hws hr
      | answered hf hack hq hr =>
          obtain rfl := Option.some.inj (hfsm.symm.trans hf)
          have hsyn : synOnly m = false := by simp [synOnly, hack]
          simp only [fsmTxSar, hr, hsyn, Bool.false_eq_true, if_false]
          refine .quiet (by simp [TxSystem.askRXe]) ?_ rfl
          simpa [TxSystem.askRXe, hq] using hw _

/-- Serving a query of another stream leaves the queries of the state machine alone. -/
lemma FsmShape.congr {s' : TxSystem} (h : FsmShape s) (hfsm : s'.fsm = s.fsm)
    (hq : s'.tst.siRXeTxSarQry = s.tst.siRXeTxSarQry) (hr : s'.siFsmTxSarRep = s.siFsmTxSarRep) :
    FsmShape s' := by
  cases h with
  | quiet hm hws hnil => exact .quiet (hfsm ▸ hm) (hq ▸ hws) (hr.trans hnil)
  | asked hf hack hws hwr hnil => exact .asked (hfsm.trans hf) hack (hq.trans hws) hwr (hr.trans hnil)
  | answered hf hack hnil hrep =>
      exact .answered (hfsm.trans hf) hack (hq.trans hnil) (hr.trans hrep)

/-- Serving the first query of the state machine. -/
lemma FsmShape.serve {s' : TxSystem} {q : RXeTxSarQuery} {qs : List RXeTxSarQuery}
    (h : FsmShape s) (hqs : s.tst.siRXeTxSarQry = q :: qs) (hfsm : s'.fsm = s.fsm)
    (hq : s'.tst.siRXeTxSarQry = qs)
    (hr : if q.write then s'.siFsmTxSarRep = s.siFsmTxSarRep
      else ∃ rep, s'.siFsmTxSarRep = s.siFsmTxSarRep ++ [rep]) : FsmShape s' := by
  cases h with
  | quiet hm hws hnil =>
      rw [hqs] at hws
      rw [if_pos (hws q List.mem_cons_self)] at hr
      exact .quiet (hfsm ▸ hm) (fun x hx => hws x (List.mem_cons_of_mem q (hq ▸ hx)))
        (hr.trans hnil)
  | asked hf hack hws hwr hnil =>
      rename_i m ws
      rw [hqs] at hws
      cases ws with
      | nil =>
          -- the read is served
          obtain ⟨rfl, rfl⟩ := List.cons.inj hws
          obtain ⟨rep, hrep⟩ := hr
          exact .answered (hfsm.trans hf) hack hq (by rw [hrep, hnil, List.nil_append])
      | cons w ws =>
          obtain ⟨rfl, rfl⟩ := List.cons.inj hws
          rw [if_pos (hwr q List.mem_cons_self)] at hr
          exact .asked (hfsm.trans hf) hack hq (fun x hx => hwr x (List.mem_cons_of_mem q hx))
            (hr.trans hnil)
  | answered hf hack hnil hrep =>
      rw [hnil] at hqs
      cases hqs

/-- Serving the first query of the meta-data loader. -/
lemma MdlShape.serve {mdl mdl' : MdlState} {q : TXeTxSarQuery} {qs : List TXeTxSarQuery}
    (h : MdlShape mdl (q :: qs)) (hst : mdl'.fsmState = mdl.fsmState)
    (hl : mdl'.sarLoaded = mdl.sarLoaded) (hev : mdl'.curEvent = mdl.curEvent)
    (hr : if q.write then mdl'.siTxSarRep = mdl.siTxSarRep
      else ∃ rep, mdl'.siTxSarRep = mdl.siTxSarRep ++ [rep]) : MdlShape mdl' qs := by
  have hneeds' : needsTxSar mdl' = needsTxSar mdl := by rw [needsTxSar, needsTxSar, hev]
  have hid : mdl'.sessionID = mdl.sessionID := by
    rw [MdlState.sessionID, MdlState.sessionID, hev]
  cases h with
  | quiet hq hws hnil =>
      rw [if_pos (hws q List.mem_cons_self)] at hr
      refine .quiet (fun hp => ?_) (fun x hx => hws x (List.mem_cons_of_mem q hx)) (hr.trans hnil)
      rw [hl, hneeds']
      exact hq (hst ▸ hp)
  | loaded hp hld ht hws hnil =>
      rw [if_pos (hws q List.mem_cons_self).1] at hr
      exact .loaded (hst.trans hp) (hl.trans hld) (hev ▸ ht)
        (fun x hx => hws x (List.mem_cons_of_mem q hx)) (hr.trans hnil)
  | asked hp hld hneeds hws hwr hnil =>
      rename_i ws
      cases ws with
      | nil =>
          -- the read is served
          obtain ⟨rfl, rfl⟩ := List.cons.inj hws
          obtain ⟨rep, hrep⟩ := hr
          exact .answered (hst.trans hp) (hl.trans hld) (hneeds'.trans hneeds) rfl
            (by rw [hrep, hnil, List.nil_append])
      | cons w ws =>
          obtain ⟨rfl, rfl⟩ := List.cons.inj hws
          rw [if_pos (hwr q List.mem_cons_self)] at hr
          exact .asked (hst.trans hp) (hl.trans hld) (hneeds'.trans hneeds) (by rw [hid]; rfl)
            (fun x hx => hwr x (List.mem_cons_of_mem q hx)) (hr.trans hnil)
  | answered _ _ _ hnil => cases hnil

/-- What the loader writes with a loaded entry. -/
lemma MdlShape.of_effect {t mdl' : MdlState} {ws qs : List TXeTxSarQuery}
    (h : MdlEffect t mdl' qs) (hrep : t.siTxSarRep = [])
    (hws : ∀ q ∈ ws, q.write = true)
    (hinit : mdl'.fsmState = .processEvent → ∀ q ∈ ws, q.init = false) :
    MdlShape mdl' (ws ++ qs) := by
  have hwr : ∀ q ∈ ws ++ qs, q.write = true := by
    intro q hq
    obtain hq | hq := List.mem_append.mp hq
    · exact hws q hq
    · exact (h.write q hq).1
  obtain hst | ⟨hst, hl, ht⟩ := h.fsmState
  · exact .quiet (fun hp => by rw [hst] at hp; cases hp) hwr (h.siTxSarRep.trans hrep)
  · refine .loaded hst hl ht (fun q hq => ⟨hwr q hq, ?_⟩) (h.siTxSarRep.trans hrep)
    obtain hq | hq := List.mem_append.mp hq
    · exact hinit hst q hq
    · obtain ⟨hwait, -⟩ | ⟨hqs, -⟩ := h.notAckd
      · rw [hwait] at hst
        cases hst
      · exact hqs q hq

/-- An event with a loaded entry needs the table. -/
lemma needsTxSar_of_type {mdl : MdlState} (h : mdl.curEvent.event.type = .tx ∨
    mdl.curEvent.event.type = .rt ∨ mdl.curEvent.event.type = .fin) : needsTxSar mdl = true := by
  rcases h with h | h | h <;> simp [needsTxSar, mdlQueries, h]

lemma needsTxSar_eq_false_iff {mdl : MdlState} :
    needsTxSar mdl = false ↔ (mdlQueries mdl.curEvent.event).txSarQry = [] := by
  simp [needsTxSar]

/-- A call of the loader with an event waits, or works with a loaded entry. Then only writes wait
for the table, and initialisations only if the call keeps no entry and initialises as well. -/
lemma MdlShape.processEvent {mdl : MdlState} {qs : List TXeTxSarQuery} (h : MdlShape mdl qs)
    (hst : mdl.fsmState = .processEvent) :
    mdlProcessEvent mdl = (mdl, {}) ∨ ∃ t, MdlLoads mdl t ∧ t.curEvent = mdl.curEvent ∧
      MdlEffect t (mdlProcessEvent mdl).1 (mdlProcessEvent mdl).2.txSarQry ∧
      t.siTxSarRep = [] ∧ (∀ q ∈ qs, q.write = true) ∧
      (((mdlProcessEvent mdl).1.fsmState = .processEvent ∨
        ∃ q ∈ (mdlProcessEvent mdl).2.txSarQry, q.init = false) → ∀ q ∈ qs, q.init = false) := by
  obtain hwait | ⟨t, hload, hev, heff⟩ := mdlProcessEvent_effect hst
  · exact .inl hwait
  · refine .inr ⟨t, hload, hev, heff, ?_⟩
    have hneeds' (hqry : (mdlQueries mdl.curEvent.event).txSarQry = []) :
        ¬((mdlProcessEvent mdl).1.fsmState = .processEvent ∨
          ∃ q ∈ (mdlProcessEvent mdl).2.txSarQry, q.init = false) := fun hp => by
      have htrue := needsTxSar_of_type (hev ▸ heff.type hp)
      rw [needsTxSar_eq_false_iff.mpr hqry] at htrue
      cases htrue
    cases h with
    | quiet hq hws hr =>
        cases hload with
        | loaded hl => rw [(hq hst).1] at hl; cases hl
        | read hs => rw [hr] at hs; cases hs
        | notNeeded hqry => exact ⟨hr, hws, fun hp => absurd hp (hneeds' hqry)⟩
    | loaded _ hl ht hws hr =>
        cases hload with
        | read hs => rw [hr] at hs; cases hs
        | loaded => exact ⟨hr, fun q hq => (hws q hq).1, fun _ q hq => (hws q hq).2⟩
        | notNeeded => exact ⟨hr, fun q hq => (hws q hq).1, fun _ q hq => (hws q hq).2⟩
    | asked _ hld hneeds _ _ hr =>
        cases hload with
        | loaded hl => rw [hld] at hl; cases hl
        | read hs => rw [hr] at hs; cases hs
        | notNeeded hqry => rw [needsTxSar_eq_false_iff.mpr hqry] at hneeds; cases hneeds
    | answered _ hld hneeds hq hr =>
        cases hload with
        | loaded hl => rw [hld] at hl; cases hl
        | notNeeded hqry => rw [needsTxSar_eq_false_iff.mpr hqry] at hneeds; cases hneeds
        | read hs hrep =>
            rw [hr] at hs
            obtain ⟨-, rfl⟩ := List.cons.inj hs
            exact ⟨hrep, by simp [hq], fun _ => by simp [hq]⟩

/-- A call of the loader that waits for an event. -/
lemma pMetaDataLoader_wait {mdl : MdlState} (hst : mdl.fsmState = .waitEvent) :
    (pMetaDataLoader mdl).1.fsmState = .waitEvent ∧ (pMetaDataLoader mdl).2.txSarQry = [] ∨
      ∃ e, (pMetaDataLoader mdl).1.fsmState = .processEvent ∧
        (pMetaDataLoader mdl).1.sarLoaded = false ∧ (pMetaDataLoader mdl).1.curEvent = e ∧
        (pMetaDataLoader mdl).2.txSarQry = (mdlQueries e.event).txSarQry := by
  simp only [pMetaDataLoader, hst, mdlWaitEvent]
  split
  · exact .inr ⟨_, rfl, rfl, rfl, rfl⟩
  · exact .inl ⟨rfl, rfl⟩

lemma siTxSarRep_pMetaDataLoader_wait {mdl : MdlState} (hst : mdl.fsmState = .waitEvent) :
    (pMetaDataLoader mdl).1.siTxSarRep = mdl.siTxSarRep := by
  simp only [pMetaDataLoader, hst, mdlWaitEvent]
  split <;> rfl

lemma pMetaDataLoader_processEvent {mdl : MdlState} (hst : mdl.fsmState = .processEvent) :
    pMetaDataLoader mdl = mdlProcessEvent mdl := by
  simp only [pMetaDataLoader, hst]

/-- A call of the loader. -/
lemma MdlShape.call {mdl : MdlState} {qs : List TXeTxSarQuery} (h : MdlShape mdl qs) :
    MdlShape (pMetaDataLoader mdl).1 (qs ++ (pMetaDataLoader mdl).2.txSarQry) := by
  cases hst : mdl.fsmState with
  | waitEvent =>
      have hrep := siTxSarRep_pMetaDataLoader_wait hst
      cases h with
      | loaded hp => rw [hst] at hp; cases hp
      | asked hp => rw [hst] at hp; cases hp
      | answered hp => rw [hst] at hp; cases hp
      | quiet _ hq hr =>
          obtain ⟨hw, hqry⟩ | ⟨e, hp, hl, hev, hqry⟩ := pMetaDataLoader_wait hst
          · rw [hqry, List.append_nil]
            exact .quiet (fun hp => by rw [hw] at hp; cases hp) hq (hrep.trans hr)
          · obtain hnone | hread := mdlQueries_eq e.event
            · rw [hqry, hnone, List.append_nil]
              refine .quiet (fun _ => ⟨hl, needsTxSar_eq_false_iff.mpr ?_⟩) hq (hrep.trans hr)
              rw [hev, hnone]
            · rw [hqry, hread]
              refine .asked hp hl ?_ ?_ hq (hrep.trans hr)
              · rw [needsTxSar, hev, hread]
                rfl
              · rw [MdlState.sessionID, hev]
  | processEvent =>
      rw [pMetaDataLoader_processEvent hst]
      obtain hwait | ⟨t, -, -, heff, hrep, hws, hinit⟩ := h.processEvent hst
      · rw [hwait, List.append_nil]
        exact h
      · exact .of_effect heff hrep hws fun hp => hinit (.inl hp)

/-- Behind an initialisation, a call of the loader writes nothing but initialisations. -/
lemma MdlShape.inits {mdl : MdlState} {qs : List TXeTxSarQuery} (h : MdlShape mdl qs)
    (hqs : qs.Pairwise fun x y => x.isInit = true → y.write = true → y.isInit = true) :
    (qs ++ (pMetaDataLoader mdl).2.txSarQry).Pairwise
      fun x y => x.isInit = true → y.write = true → y.isInit = true := by
  cases hst : mdl.fsmState with
  | waitEvent =>
      obtain ⟨-, hqry⟩ | ⟨e, -, -, -, hqry⟩ := pMetaDataLoader_wait hst
      · rw [hqry, List.append_nil]
        exact hqs
      · obtain hnone | hread := mdlQueries_eq e.event
        · rw [hqry, hnone, List.append_nil]
          exact hqs
        · rw [hqry, hread, List.pairwise_append]
          refine ⟨hqs, List.pairwise_singleton .., fun x _ y hy _ hw => ?_⟩
          rw [List.mem_singleton.mp hy] at hw
          cases hw
  | processEvent =>
      rw [pMetaDataLoader_processEvent hst]
      obtain hwait | ⟨t, -, -, heff, -, -, hinit⟩ := h.processEvent hst
      · rw [hwait, List.append_nil]
        exact hqs
      · obtain ⟨-, n, hqry⟩ | ⟨hno, -⟩ := heff.notAckd
        · rw [hqry, List.pairwise_append]
          refine ⟨hqs, List.pairwise_singleton .., fun x _ y hy _ _ => ?_⟩
          rw [List.mem_singleton.mp hy]
          rfl
        · refine List.pairwise_append.mpr ⟨hqs, ?_, fun x hx y hy hxi _ => ?_⟩
          · refine List.pairwise_of_forall_mem_list fun x hx y _ hxi _ => ?_
            simp [TXeTxSarQuery.isInit, hno x hx] at hxi
          · simp [TXeTxSarQuery.isInit, hinit (.inr ⟨y, hy, hno y hy⟩) x hx] at hxi

/-- What the shape of the loader depends on. -/
lemma MdlShape.congr {mdl mdl' : MdlState} {qs : List TXeTxSarQuery} (h : MdlShape mdl qs)
    (hst : mdl'.fsmState = mdl.fsmState) (hl : mdl'.sarLoaded = mdl.sarLoaded)
    (hev : mdl'.curEvent = mdl.curEvent) (hr : mdl'.siTxSarRep = mdl.siTxSarRep) :
    MdlShape mdl' qs := by
  have hneeds' : needsTxSar mdl' = needsTxSar mdl := by rw [needsTxSar, needsTxSar, hev]
  have hid : mdl'.sessionID = mdl.sessionID := by
    rw [MdlState.sessionID, MdlState.sessionID, hev]
  cases h with
  | quiet hq hws hnil =>
      refine .quiet (fun hp => ?_) hws (hr.trans hnil)
      rw [hl, hneeds']
      exact hq (hst ▸ hp)
  | loaded hp hld ht hws hnil =>
      exact .loaded (hst.trans hp) (hl.trans hld) (hev ▸ ht) hws (hr.trans hnil)
  | asked hp hld hneeds hq hws hnil =>
      exact .asked (hst.trans hp) (hl.trans hld) (hneeds'.trans hneeds) (hid ▸ hq) hws
        (hr.trans hnil)
  | answered hp hld hneeds hq hnil =>
      exact .answered (hst.trans hp) (hl.trans hld) (hneeds'.trans hneeds) hq (hr.trans hnil)

/-- A call of the table. -/
lemma TxShape.table {s' : TxSystem} (h : TxShape s) (hs : TableStep s s') : TxShape s' := by
  obtain ⟨hf, hm, hi⟩ := h
  cases hs with
  | writeTXe hqs hw =>
      rw [hqs] at hm hi
      exact ⟨hf.congr rfl rfl rfl, hm.serve rfl rfl rfl (by rw [if_pos hw]),
        (List.pairwise_cons.mp hi).2⟩
  | readTXe hqs hw =>
      rw [hqs] at hm hi
      exact ⟨hf.congr rfl rfl rfl, hm.serve rfl rfl rfl (by rw [if_neg (by simp [hw])]; exact ⟨_, rfl⟩),
        (List.pairwise_cons.mp hi).2⟩
  | push hps => exact ⟨hf.congr rfl rfl rfl, hm, hi⟩
  | writeRXe hqs hw => exact ⟨hf.serve hqs rfl rfl (by rw [if_pos hw]), hm, hi⟩
  | readRXe hqs hw =>
      exact ⟨hf.serve hqs rfl rfl (by rw [if_neg (by simp [hw])]; exact ⟨_, rfl⟩), hm, hi⟩
  | idle => exact ⟨hf, hm, hi⟩

/-- A call of the state machine leaves the rest of the system alone. -/
lemma fsmCall_frame (s : TxSystem) (k : TxLabel) (hk : (∃ m, k = .load m) ∨
    ∃ tcpState rxSar unread, k = .transition tcpState rxSar unread) :
    (txNext s k).mdl = s.mdl ∧ (txNext s k).tst.siTXeTxSarQry = s.tst.siTXeTxSarQry ∧
      (txNext s k).tst.table = s.tst.table ∧ (txNext s k).siTAiPushCmd = s.siTAiPushCmd := by
  obtain ⟨m, rfl⟩ | ⟨tcpState, rxSar, unread, rfl⟩ := hk
  · simp only [txNext, fsmLoadCall]
    split <;> exact ⟨rfl, rfl, rfl, rfl⟩
  · simp only [txNext, fsmTransitionCall]
    split
    · split <;> exact ⟨rfl, rfl, rfl, rfl⟩
    · exact ⟨rfl, rfl, rfl, rfl⟩

/-- **A step of the system** keeps the queries where they are expected. -/
theorem TxShape.next (h : TxShape s) (k : TxLabel) : TxShape (txNext s k) := by
  obtain ⟨hf, hm, hi⟩ := h
  cases k with
  | load m =>
      obtain ⟨hmdl, hqs, -⟩ := fsmCall_frame s (.load m) (.inl ⟨m, rfl⟩)
      exact ⟨hf.load m, by rw [hmdl, hqs]; exact hm, by rw [hqs]; exact hi⟩
  | transition tcpState rxSar unread =>
      obtain ⟨hmdl, hqs, -⟩ := fsmCall_frame s _ (.inr ⟨tcpState, rxSar, unread, rfl⟩)
      exact ⟨hf.transition tcpState rxSar unread, by rw [hmdl, hqs]; exact hm,
        by rw [hqs]; exact hi⟩
  | table => exact TxShape.table ⟨hf, hm, hi⟩ (tableCall_cases s)
  | loader => exact ⟨hf.congr rfl rfl rfl, hm.call, hm.inits hi⟩
  | event e => exact ⟨hf.congr rfl rfl rfl, hm.congr rfl rfl rfl rfl, hi⟩
  | rxSarRep rep => exact ⟨hf.congr rfl rfl rfl, hm.congr rfl rfl rfl rfl, hi⟩
  | push p => exact ⟨hf.congr rfl rfl rfl, hm, hi⟩

end Shape

end CloudFpga.Toe
