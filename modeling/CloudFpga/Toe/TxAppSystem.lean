import CloudFpga.Toe.TxAppInterface.AppConnect
import CloudFpga.Toe.TxAppInterface.StreamMetaLoader
import CloudFpga.Toe.TxEngine.LoaderCall

/-!
The Tx application interface and the Tx engine, with the streams between them.

* `TxAppSystem`: the processes; `TxAppLabel`: who takes the next step; `txAppNext`: a step.
* `TxAppSystem.unread`: the application pointers on their way to the Tx SAR table, in the order in
  which they arrive.
* `smlGrants`: the request that a call of `pStreamMetaLoader` grants.
* `unread_next`: what a step does to the pointers of a session.
-/

namespace CloudFpga.Toe

open Foundation

/-! ### The system -/

/-- The processes around the Tx SAR table, `pTxAppTable` and `pStreamMetaLoader`, the events that
`pStreamMetaLoader` and `pTxAppConnect` have written, `pTxAppStatusHandler`, and the events on their
way to the Tx engine. -/
structure TxAppSystem where
  tx : TxSystem
  tat : TatState := {}
  sml : SmlState := {}
  smlEvent : List Event := []
  tacEvent : List Event := []
  tash : TashState := {}
  eveEvent : List Event := []

/-- Who takes the next step. What the other processes contribute is arbitrary. -/
inductive TxAppLabel where
  /-- the processes around the Tx SAR table -/
  | tx (l : TxLabel)
  /-- a push of the Tx SAR table arrives at `pTxAppTable` -/
  | ackPush
  /-- `pTxAppTable` -/
  | tat
  /-- a request of the application to send -/
  | sndReq (req : TcpAppSndReq)
  /-- a reply of the state table to `pStreamMetaLoader` -/
  | sessState (sessState : TcpState)
  /-- `pStreamMetaLoader` -/
  | sml (sndRepFull : Bool)
  /-- a call of `pTxAppConnect`, in any of its states -/
  | tac (s : TacState) (i : TacIn)
  /-- `pStreamMux` -/
  | emx
  /-- the status of a write to the memory -/
  | memSts (status : DmSts)
  /-- `pTxAppStatusHandler` -/
  | tash
  /-- an event arrives at the Tx engine -/
  | eve (tuple : SocketPair)

/-- An event that the Rx engine or the timers may write. -/
def Event.fromOthers (e : Event) : Bool := (e.type = .tx ∨ e.type = .fin) → e.rtCount = 0

def txAppNext (s : TxAppSystem) : TxAppLabel → TxAppSystem
  -- the pushes to the table come from `pTxAppStatusHandler`
  | .tx (.push _) => s
  | .tx (.event e) => if e.event.fromOthers then { s with tx := txNext s.tx (.event e) } else s
  | .tx l => { s with tx := txNext s.tx l }
  | .ackPush =>
      match s.tx.siTAiPushCmd with
      | p :: ps =>
          { s with
            tx := { s.tx with siTAiPushCmd := ps }
            tat := { s.tat with siTStPushCmd := s.tat.siTStPushCmd ++ [p] } }
      | [] => s
  | .tat =>
      { s with
        tat := (pTxAppTable s.tat).1
        sml := { s.sml with siTatAccessRep := s.sml.siTatAccessRep ++ (pTxAppTable s.tat).2 } }
  | .sndReq req => { s with sml := { s.sml with siTAIFSndReq := s.sml.siTAIFSndReq ++ [req] } }
  | .sessState sessState =>
      { s with sml := { s.sml with siSTtSessStateRep := s.sml.siSTtSessStateRep ++ [sessState] } }
  | .sml sndRepFull =>
      let r := pStreamMetaLoader s.sml sndRepFull
      { s with
        sml := r.1
        smlEvent := s.smlEvent ++ r.2.soEmxEvent
        tat := { s.tat with siTasAccessQry := s.tat.siTasAccessQry ++ r.2.soTatAccessReq } }
  | .tac t i => { s with tacEvent := s.tacEvent ++ (pTxAppConnect t i).2.event }
  | .emx =>
      let r := pStreamMux s.tacEvent s.smlEvent
      { s with
        tacEvent := r.1
        smlEvent := r.2.1
        tash := { s.tash with siEmxEvent := s.tash.siEmxEvent ++ r.2.2 } }
  | .memSts status =>
      { s with tash := { s.tash with siMEMTxPWrSts := s.tash.siMEMTxPWrSts ++ [status] } }
  | .tash =>
      let r := pTxAppStatusHandler s.tash
      { s with
        tash := r.1
        tx := { s.tx with tst := { s.tx.tst with
          siTAiPushCmd := s.tx.tst.siTAiPushCmd ++ r.2.soTStPushCmd } }
        eveEvent := s.eveEvent ++ r.2.soEVeEvent }
  | .eve tuple =>
      match s.eveEvent with
      | e :: es => { s with eveEvent := es, tx := txNext s.tx (.event ⟨e, tuple⟩) }
      | [] => s

/-! ### The pointers on their way to the table -/

/-- The events of granted requests that are not in the memory yet, in the order in which they will
be. -/
def TxAppSystem.unannounced (s : TxAppSystem) : List Event :=
  (if s.tash.fsmState = .idle then [] else [s.tash.ev]) ++ s.tash.siEmxEvent ++ s.smlEvent

/-- The events of a list that announce bytes of the session. -/
def txPtrs (id : SessionId) (es : List Event) : List TxBufPtr :=
  (es.filter fun e => e.type = .tx ∧ e.sessionID = id).map (·.txAppPtr)

/-- The pointers of a session on their way to the Tx SAR table. -/
def TxAppSystem.unread (s : TxAppSystem) (id : SessionId) : List TxBufPtr :=
  (s.tx.tst.siTAiPushCmd.filter (·.sessionID = id)).map (·.app) ++ txPtrs id s.unannounced

/-- The request that a call of `pStreamMetaLoader` grants, with the pointers that it has read. -/
def smlGrants (s : SmlState) (sndRepFull : Bool) : Option (TcpAppSndReq × TxAppTableReply) :=
  match s.fsmState, s.siTatAccessRep, s.siSTtSessStateRep with
  | .readMeta, rep :: _, sessState :: _ =>
      if ¬sndRepFull ∧ smlError s.appSndReq sessState rep = .noError then some (s.appSndReq, rep)
      else none
  | _, _, _ => none

section Grants

variable {s : SmlState} {sndRepFull : Bool}

lemma pStreamMetaLoader_event (s : SmlState) (sndRepFull : Bool) :
    (pStreamMetaLoader s sndRepFull).2.soEmxEvent =
      (smlGrants s sndRepFull).elim [] fun r => [smlTxEvent r.1 r.2] := by
  rw [pStreamMetaLoader, smlGrants]
  cases hst : s.fsmState with
  | readRequest =>
      cases s.siTAIFSndReq <;> rfl
  | readMeta =>
      cases s.siTatAccessRep with
      | nil => rfl
      | cons rep reps =>
          cases s.siSTtSessStateRep with
          | nil => rfl
          | cons sessState sts =>
              cases sndRepFull with
              | true => rfl
              | false =>
                  by_cases herr : smlError s.appSndReq sessState rep = .noError
                  · simp [smlReadMeta, herr]
                  · simp [smlReadMeta, herr]

/-- The segment of a granted request, for the memory writer. -/
lemma pStreamMetaLoader_meta (s : SmlState) (sndRepFull : Bool) :
    (pStreamMetaLoader s sndRepFull).2.soMwrAppMeta =
      (smlGrants s sndRepFull).elim [] fun r => [⟨r.1.sessId, r.2.mempt, r.1.length⟩] := by
  rw [pStreamMetaLoader, smlGrants]
  cases hst : s.fsmState with
  | readRequest =>
      cases s.siTAIFSndReq <;> rfl
  | readMeta =>
      cases s.siTatAccessRep with
      | nil => rfl
      | cons rep reps =>
          cases s.siSTtSessStateRep with
          | nil => rfl
          | cons sessState sts =>
              cases sndRepFull with
              | true => rfl
              | false =>
                  by_cases herr : smlError s.appSndReq sessState rep = .noError
                  · simp [smlReadMeta, herr]
                  · simp [smlReadMeta, herr]

end Grants

section Unread

variable {s : TxAppSystem} {id : SessionId}

@[simp] lemma txPtrs_nil : txPtrs id [] = [] := rfl

lemma txPtrs_append (es fs : List Event) : txPtrs id (es ++ fs) = txPtrs id es ++ txPtrs id fs := by
  simp [txPtrs]

lemma txPtrs_of_ne {es : List Event} (h : ∀ e ∈ es, e.type ≠ .tx) : txPtrs id es = [] := by
  rw [txPtrs, List.filter_eq_nil_iff.mpr fun e he => by simp [h e he]]
  rfl

lemma txPtrs_unannounced (s : TxAppSystem) (id : SessionId) :
    txPtrs id s.unannounced =
      (if s.tash.fsmState = .idle then [] else txPtrs id [s.tash.ev]) ++
        txPtrs id s.tash.siEmxEvent ++ txPtrs id s.smlEvent := by
  rw [TxAppSystem.unannounced, txPtrs_append, txPtrs_append]
  congr 2
  split <;> rfl

/-- `pStreamMux` keeps the order of the pointers. -/
lemma unread_emx (htac : ∀ e ∈ s.tacEvent, e.type ≠ .tx) :
    (txAppNext s .emx).unread id = s.unread id := by
  rw [TxAppSystem.unread, TxAppSystem.unread, txPtrs_unannounced, txPtrs_unannounced]
  simp only [txAppNext, pStreamMux, List.append_assoc]
  congr 2
  cases htacs : s.tacEvent with
  | cons e es =>
      have hnil : txPtrs id [e] = [] := by
        refine txPtrs_of_ne fun e' he' => ?_
        rw [List.mem_singleton.mp he']
        exact htac e (by simp [htacs])
      simp only [txPtrs_append, hnil, List.append_nil]
  | nil =>
      cases s.smlEvent with
      | nil => simp only [List.append_nil]
      | cons e es =>
          simp only [txPtrs_append, List.append_assoc]
          rw [← txPtrs_append, List.singleton_append]

/-- The pointers of a session that `pTxAppStatusHandler` has read or has ahead. -/
def TashState.ptrs (s : TashState) (id : SessionId) : List TxBufPtr :=
  (if s.fsmState = .idle then [] else txPtrs id [s.ev]) ++ txPtrs id s.siEmxEvent

lemma txPtrs_tx {e : Event} (htype : e.type = .tx) :
    txPtrs id [e] = if e.sessionID = id then [e.txAppPtr] else [] := by
  by_cases hid : e.sessionID = id <;> simp [txPtrs, htype, hid]

lemma txPtrs_cons (e : Event) (es : List Event) : txPtrs id (e :: es) = txPtrs id [e] ++ txPtrs id es :=
  txPtrs_append [e] es

/-- What a call of `pTxAppStatusHandler` does with the pointers of a session: they stay, or the
first one goes to the Tx SAR table or is dropped. -/
lemma tash_ptrs (t : TashState) (id : SessionId)
    (htype : t.fsmState ≠ .idle → t.ev.type = .tx) :
    List.Sublist
      (((pTxAppStatusHandler t).2.soTStPushCmd.filter (·.sessionID = id)).map (·.app) ++
        (pTxAppStatusHandler t).1.ptrs id) (t.ptrs id) := by
  have hannounce (h : t.fsmState ≠ .idle) :
      ((tashAnnounce t.ev).soTStPushCmd.filter (·.sessionID = id)).map (·.app) =
        txPtrs id [t.ev] := by
    rw [txPtrs_tx (htype h), tashAnnounce]
    by_cases hid : t.ev.sessionID = id <;> simp [hid]
  rw [pTxAppStatusHandler]
  cases hst : t.fsmState with
  | idle =>
      dsimp only
      split
      · next e es hes =>
          split
          · next htx =>
              simp only [TashState.ptrs, hst, hes, if_true, reduceCtorEq, if_false, List.filter_nil,
                List.map_nil, List.nil_append]
              rw [txPtrs_cons e es]
          · next htx =>
              have hnil : txPtrs id [e] = [] :=
                txPtrs_of_ne fun e' he' => by rw [List.mem_singleton.mp he']; exact htx
              simp only [TashState.ptrs, hst, hes, if_true, List.filter_nil, List.map_nil,
                List.nil_append]
              rw [txPtrs_cons e es, hnil, List.nil_append]
      · exact List.Sublist.refl _
  | rdMemStatus1 =>
      have hidle : t.fsmState ≠ .idle := by simp [hst]
      dsimp only
      split
      · split
        · split
          · simp [TashState.ptrs, hst]
          · rw [hannounce hidle]
            simp [TashState.ptrs, hst]
        · simp [TashState.ptrs, hst]
      · exact List.Sublist.refl _
  | rdMemStatus2 =>
      have hidle : t.fsmState ≠ .idle := by simp [hst]
      dsimp only
      split
      · split
        · rw [hannounce hidle]
          simp [TashState.ptrs, hst]
        · simp [TashState.ptrs, hst]
      · exact List.Sublist.refl _

lemma unread_eq (s : TxAppSystem) (id : SessionId) :
    s.unread id = (s.tx.tst.siTAiPushCmd.filter (·.sessionID = id)).map (·.app) ++
      (s.tash.ptrs id ++ txPtrs id s.smlEvent) := by
  rw [TxAppSystem.unread, txPtrs_unannounced, TashState.ptrs]

/-- `pTxAppStatusHandler` announces the bytes of an event, or it drops them. -/
lemma unread_tash (htype : s.tash.fsmState ≠ .idle → s.tash.ev.type = .tx) :
    List.Sublist ((txAppNext s .tash).unread id) (s.unread id) := by
  rw [unread_eq, unread_eq]
  simp only [txAppNext, List.filter_append, List.map_append, List.append_assoc]
  refine List.Sublist.append_left ?_ _
  rw [← List.append_assoc]
  exact (tash_ptrs s.tash id htype).append_right _

/-- The pointers that a step adds to those of a session. -/
def TxAppSystem.granted (s : TxAppSystem) (id : SessionId) : TxAppLabel → List TxBufPtr
  | .sml sndRepFull =>
      (smlGrants s.sml sndRepFull).elim [] fun r => txPtrs id [smlTxEvent r.1 r.2]
  | _ => []

/-- A push that is served is the first pointer of its session. -/
lemma unread_table {s' : TxSystem} (h : TableStep s.tx s') :
    List.Sublist ({ s with tx := s' }.unread id) (s.unread id) ∧
      ∀ p ps, s.tx.tst.siTAiPushCmd = p :: ps → p.sessionID = id →
        s'.tst.siTAiPushCmd = s.tx.tst.siTAiPushCmd ∨
          s.unread id = p.app :: { s with tx := s' }.unread id := by
  rw [unread_eq, unread_eq]
  cases h with
  | @push p ps hps =>
      rw [hps]
      refine ⟨(((List.sublist_cons_self p ps).filter _).map _).append_right _, fun q qs hq hid => ?_⟩
      obtain ⟨rfl, rfl⟩ := List.cons.inj hq
      right
      simp [hid]
  | writeTXe | readTXe | writeRXe | readRXe | idle =>
      exact ⟨List.Sublist.refl _, fun _ _ _ _ => .inl rfl⟩

/-- What a step does with the pointers of a session. -/
lemma unread_next (htac : ∀ e ∈ s.tacEvent, e.type ≠ .tx)
    (htash : s.tash.fsmState ≠ .idle → s.tash.ev.type = .tx) (l : TxAppLabel) :
    List.Sublist ((txAppNext s l).unread id) (s.unread id ++ s.granted id l) := by
  have hfsm {k : TxLabel} (hk : (∃ m, k = .load m) ∨
      ∃ tcpState rxSar unread, k = .transition tcpState rxSar unread) :
      (txNext s.tx k).tst.siTAiPushCmd = s.tx.tst.siTAiPushCmd := by
    obtain ⟨m, rfl⟩ | ⟨tcpState, rxSar, unread, rfl⟩ := hk
    · simp only [txNext, fsmLoadCall]
      split <;> rfl
    · simp only [txNext, fsmTransitionCall]
      split
      · split <;> rfl
      · rfl
  cases l with
  | tx l =>
      simp only [TxAppSystem.granted, List.append_nil]
      cases l with
      | load m =>
          rw [unread_eq, unread_eq]
          simp only [txAppNext, hfsm (.inl ⟨m, rfl⟩)]
          exact List.Sublist.refl _
      | transition tcpState rxSar unread =>
          rw [unread_eq, unread_eq]
          simp only [txAppNext, hfsm (.inr ⟨tcpState, rxSar, unread, rfl⟩)]
          exact List.Sublist.refl _
      | table => exact (unread_table (tableCall_cases s.tx)).1
      | event e =>
          simp only [txAppNext]
          split <;> exact List.Sublist.refl _
      | loader | rxSarRep | push => exact List.Sublist.refl _
  | emx =>
      simp only [unread_emx htac, TxAppSystem.granted, List.append_nil]
      exact List.Sublist.refl _
  | tash =>
      simp only [TxAppSystem.granted, List.append_nil]
      exact unread_tash htash
  | sml sndRepFull =>
      rw [unread_eq, unread_eq]
      simp only [txAppNext, TxAppSystem.granted, pStreamMetaLoader_event, txPtrs_append,
        List.append_assoc]
      cases smlGrants s.sml sndRepFull <;> exact List.Sublist.refl _
  | ackPush | eve =>
      simp only [TxAppSystem.granted, List.append_nil, txAppNext]
      split <;> exact List.Sublist.refl _
  | tat | sndReq | sessState | tac | memSts =>
      simp only [TxAppSystem.granted, List.append_nil]
      exact List.Sublist.refl _

end Unread

/-! ### The events under way -/

/-- The events on their way to the Tx engine. -/
def TxAppSystem.events (s : TxAppSystem) : List Event :=
  s.tacEvent ++ s.unannounced ++ s.eveEvent ++ s.tx.mdl.siEvent.map (·.event)

/-- The events that a step adds. -/
def TxAppSystem.raised (s : TxAppSystem) : TxAppLabel → List Event
  | .tx (.event e) => if e.event.fromOthers then [e.event] else []
  | .sml sndRepFull => (pStreamMetaLoader s.sml sndRepFull).2.soEmxEvent
  | .tac t i => (pTxAppConnect t i).2.event
  | _ => []

/-- The events of the multiplexer, of `pTxAppStatusHandler` and of the loader. -/
structure TxAppInv (s : TxAppSystem) : Prop where
  shape : TxShape s.tx
  tac : ∀ e ∈ s.tacEvent, e.type ≠ .tx
  tash : s.tash.fsmState ≠ .idle → s.tash.ev.type = .tx
  events : ∀ e ∈ s.events, e.fromOthers = true
  taken : s.tx.mdl.fsmState = .processEvent → s.tx.mdl.sarLoaded = false →
    s.tx.mdl.curEvent.event.fromOthers = true
  cur : s.tx.mdl.fsmState = .processEvent → s.tx.mdl.curEvent.event.type = .tx →
    s.tx.mdl.curEvent.event.rtCount = 0

lemma pTxAppConnect_event (t : TacState) (i : TacIn) :
    ∀ e ∈ (pTxAppConnect t i).2.event, e.type ≠ .tx ∧ e.fromOthers = true := by
  have hlookup (rep : SessionLookupReply) :
      ∀ e ∈ (tacLookupRep i rep).event, e.type ≠ .tx ∧ e.fromOthers = true := by
    rw [tacLookupRep]
    split
    · simp [Event.fromOthers]
    · simp [tacReply]
  rw [pTxAppConnect]
  cases t.fsmState with
  | idle =>
      simp only [tacIdle]
      split
      · simp
      · split
        · exact hlookup _
        · rw [tacIdleRest]
          split
          · simp [tacReply]
          · split <;> simp
          · simp
          · simp
  | getFreePort =>
      simp only [tacGetFreePort]
      split <;> simp
  | closeConn =>
      simp only [tacCloseConn]
      split
      · dsimp only
        split <;> simp [Event.fromOthers]
      · simp

lemma mem_pTxAppStatusHandler (t : TashState) {e : Event} :
    (e ∈ (pTxAppStatusHandler t).2.soEVeEvent ∨
      (pTxAppStatusHandler t).1.fsmState ≠ .idle ∧ e = (pTxAppStatusHandler t).1.ev ∨
      e ∈ (pTxAppStatusHandler t).1.siEmxEvent) →
    t.fsmState ≠ .idle ∧ e = t.ev ∨ e ∈ t.siEmxEvent := by
  rw [pTxAppStatusHandler]
  cases hst : t.fsmState with
  | idle =>
      dsimp only
      split
      · next hes =>
          split
          · simp [hes]
          · simp [hes]
      · simp [hst]
  | rdMemStatus1 =>
      dsimp only
      split
      · split
        · split
          · simp
          · simp [tashAnnounce]
        · simp
      · simp [hst]
  | rdMemStatus2 =>
      dsimp only
      split
      · split
        · simp [tashAnnounce]
        · simpa using .inr
      · simp [hst]

lemma mem_unannounced {s : TxAppSystem} {e : Event} :
    e ∈ s.unannounced ↔
      (s.tash.fsmState ≠ .idle ∧ e = s.tash.ev) ∨ e ∈ s.tash.siEmxEvent ∨ e ∈ s.smlEvent := by
  rw [TxAppSystem.unannounced, List.mem_append, List.mem_append, or_assoc]
  refine or_congr ?_ Iff.rfl
  split
  · next h => simp [h]
  · next h => simp [h]

lemma siEvent_pMetaDataLoader (m : MdlState) :
    ∀ e ∈ (pMetaDataLoader m).1.siEvent, e ∈ m.siEvent := by
  intro e he
  cases pMetaDataLoader_call m with
  | idle _ hr | waits _ hr =>
      rw [hr] at he
      exact he
  | takes _ hq _ _ _ _ hq' =>
      rw [hq'] at he
      rw [hq]
      exact List.mem_cons_of_mem _ he
  | tx hst | rt hst | fin hst =>
      rw [pMetaDataLoader_processEvent hst, (mdlProcessEvent_frame m).siEvent] at he
      exact he
  | init _ _ _ hq | header _ _ hq =>
      rw [hq] at he
      exact he

/-- The events of a step are those that were there, and those that it adds. -/
lemma events_next (s : TxAppSystem) (l : TxAppLabel) {e : Event}
    (he : e ∈ (txAppNext s l).events) : e ∈ s.events ∨ e ∈ s.raised l := by
  simp only [TxAppSystem.events, List.mem_append, List.mem_map, mem_unannounced] at he ⊢
  cases l with
  | tx l =>
      cases l with
      | load m =>
          have hmdl := (fsmCall_frame s.tx (.load m) (.inl ⟨m, rfl⟩)).1
          simp only [txAppNext, hmdl] at he
          exact .inl he
      | transition tcpState rxSar unread =>
          have hmdl := (fsmCall_frame s.tx _ (.inr ⟨tcpState, rxSar, unread, rfl⟩)).1
          simp only [txAppNext, hmdl] at he
          exact .inl he
      | table | rxSarRep | push => exact .inl he
      | loader =>
          refine .inl (he.imp_right fun ⟨x, hx, heq⟩ => ⟨x, ?_, heq⟩)
          exact siEvent_pMetaDataLoader s.tx.mdl x hx
      | event x =>
          simp only [txAppNext, TxAppSystem.raised] at he ⊢
          split at he
          · next hothers =>
              simp only [hothers, if_true, List.mem_singleton]
              simp only [txNext, List.mem_append, List.mem_singleton] at he
              obtain he | ⟨y, hy | rfl, rfl⟩ := he
              · exact .inl (.inl he)
              · exact .inl (.inr ⟨y, hy, rfl⟩)
              · exact .inr rfl
          · exact .inl he
  | emx =>
      left
      simp only [txAppNext, pStreamMux] at he
      cases htac : s.tacEvent with
      | cons x xs =>
          simp only [htac, List.mem_append, List.mem_cons] at he ⊢
          tauto
      | nil =>
          cases hsml : s.smlEvent with
          | nil => simpa [htac, hsml] using he
          | cons x xs =>
              simp only [htac, hsml, List.mem_append, List.mem_cons] at he ⊢
              tauto
  | tash =>
      left
      have htash := @mem_pTxAppStatusHandler s.tash e
      simp only [txAppNext, List.mem_append] at he
      tauto
  | eve tuple =>
      left
      simp only [txAppNext] at he
      split at he
      · next x xs heve =>
          simp only [txNext, List.mem_append, List.mem_singleton] at he
          simp only [heve, List.mem_cons]
          obtain (he | he) | ⟨y, hy | rfl, rfl⟩ := he
          · tauto
          · tauto
          · exact .inr ⟨y, hy, rfl⟩
          · tauto
      · exact he
  | sml sndRepFull =>
      simp only [txAppNext, List.mem_append, TxAppSystem.raised] at he ⊢
      obtain ((he | he | he | he | he) | he) | he := he
      all_goals first | exact .inr he | exact .inl (.inr he) | simp [he]
  | tac t i =>
      simp only [txAppNext, List.mem_append, TxAppSystem.raised] at he ⊢
      obtain (((he | he) | he) | he) | he := he
      all_goals first | exact .inr he | exact .inl (.inr he) | simp [he]
  | ackPush =>
      left
      simp only [txAppNext] at he
      split at he <;> exact he
  | tat | sndReq | sessState | memSts => exact .inl he

/-- An event that a step adds. -/
lemma fromOthers_raised (s : TxAppSystem) (l : TxAppLabel) :
    ∀ e ∈ s.raised l, e.fromOthers = true := by
  intro e he
  cases l with
  | tx l =>
      cases l with
      | event x =>
          simp only [TxAppSystem.raised] at he
          split at he
          · next h => rw [List.mem_singleton.mp he, h]
          · cases he
      | load | transition | table | loader | rxSarRep | push => cases he
  | sml sndRepFull =>
      simp only [TxAppSystem.raised, pStreamMetaLoader_event] at he
      cases hgrant : smlGrants s.sml sndRepFull with
      | none =>
          rw [hgrant] at he
          cases he
      | some r =>
          rw [hgrant] at he
          rw [List.mem_singleton.mp he]
          simp [Event.fromOthers, smlTxEvent]
  | tac t i => exact (pTxAppConnect_event t i e he).2
  | ackPush | tat | sndReq | sessState | emx | memSts | tash | eve => cases he

/-- What the current event of the loader may be. -/
lemma loader_taken {m : MdlState} (hev : ∀ e ∈ m.siEvent, e.event.fromOthers = true)
    (htaken : m.fsmState = .processEvent → m.sarLoaded = false →
      m.curEvent.event.fromOthers = true)
    (hcur : m.fsmState = .processEvent → m.curEvent.event.type = .tx →
      m.curEvent.event.rtCount = 0) :
    ((pMetaDataLoader m).1.fsmState = .processEvent → (pMetaDataLoader m).1.sarLoaded = false →
      (pMetaDataLoader m).1.curEvent.event.fromOthers = true) ∧
    ((pMetaDataLoader m).1.fsmState = .processEvent →
      (pMetaDataLoader m).1.curEvent.event.type = .tx →
      (pMetaDataLoader m).1.curEvent.event.rtCount = 0) := by
  cases pMetaDataLoader_call m with
  | idle hst hr =>
      rw [hr]
      exact ⟨(fun h => by simp [hst] at h), (fun h => by simp [hst] at h)⟩
  | waits hst hr =>
      rw [hr]
      exact ⟨htaken, hcur⟩
  | takes hst hq hev' =>
      have hothers := hev _ (by rw [hq]; exact List.mem_cons_self)
      rw [hev']
      refine ⟨fun _ _ => hothers, fun _ htype => ?_⟩
      simpa [Event.fromOthers, htype] using hothers
  | @tx t hst htype hload hr =>
      obtain ⟨hev', hst', -⟩ := mdlLoadSar_frame hload
      rw [hr]
      simp only [mdlTxSegment]
      split
      · exact ⟨(fun _ hl => by cases hl), fun _ _ => by rw [hev']; exact hcur hst htype⟩
      · exact ⟨(fun _ hl => by cases hl), (fun _ h => by cases h)⟩
      · exact ⟨(fun h => by cases h), (fun h => by cases h)⟩
  | @rt t hst htype hload hr =>
      obtain ⟨hev', hst', -⟩ := mdlLoadSar_frame hload
      rw [hr]
      have hne : t.curEvent.event.type ≠ .tx := by simp [hev', htype]
      simp only [mdlRtSegment]
      split_ifs
      · exact ⟨(fun h => by cases h), (fun h => by cases h)⟩
      · exact ⟨(fun _ hl => by cases hl), fun _ h => absurd h hne⟩
      · exact ⟨(fun _ hl => by cases hl), (fun _ h => by cases h)⟩
      · exact ⟨(fun h => by cases h), (fun h => by cases h)⟩
  | fin hst htype hload hr =>
      rw [hr]
      exact ⟨(fun h => by cases h), (fun h => by cases h)⟩
  | init hst _ hst' | header hst hst' =>
      rw [hst']
      exact ⟨(fun h => by cases h), (fun h => by cases h)⟩

lemma tash_ev (t : TashState) (h : t.fsmState ≠ .idle → t.ev.type = .tx)
    (hst : (pTxAppStatusHandler t).1.fsmState ≠ .idle) :
    (pTxAppStatusHandler t).1.ev.type = .tx := by
  rw [pTxAppStatusHandler] at hst ⊢
  cases hfsm : t.fsmState with
  | idle =>
      simp only [hfsm] at hst ⊢
      split at hst
      · split at hst
        · next htype => simp [htype]
        · exact absurd rfl hst
      · exact absurd hfsm hst
  | rdMemStatus1 =>
      have htype := h (by simp [hfsm])
      dsimp only
      split
      · split
        · split <;> exact htype
        · exact htype
      · exact htype
  | rdMemStatus2 =>
      have htype := h (by simp [hfsm])
      dsimp only
      split <;> exact htype

/-- **Every step** keeps the events in order. -/
theorem TxAppInv.next {s : TxAppSystem} (h : TxAppInv s) (l : TxAppLabel) :
    TxAppInv (txAppNext s l) := by
  have hevents (e : Event) (he : e ∈ (txAppNext s l).events) : e.fromOthers = true :=
    (events_next s l he).elim (h.events e) (fromOthers_raised s l e)
  have hmdl : ∀ e ∈ s.tx.mdl.siEvent, e.event.fromOthers = true := fun e he =>
    h.events e.event (List.mem_append_right _ (List.mem_map_of_mem he))
  cases l with
  | tx l =>
      cases l with
      | load m =>
          have hframe := (fsmCall_frame s.tx (.load m) (.inl ⟨m, rfl⟩)).1
          refine ⟨h.shape.next (.load m), h.tac, h.tash, hevents, ?_, ?_⟩
          · simp only [txAppNext, hframe]
            exact h.taken
          · simp only [txAppNext, hframe]
            exact h.cur
      | transition tcpState rxSar unread =>
          have hframe := (fsmCall_frame s.tx _ (.inr ⟨tcpState, rxSar, unread, rfl⟩)).1
          refine ⟨h.shape.next (.transition tcpState rxSar unread), h.tac, h.tash, hevents, ?_, ?_⟩
          · simp only [txAppNext, hframe]
            exact h.taken
          · simp only [txAppNext, hframe]
            exact h.cur
      | table => exact ⟨h.shape.next .table, h.tac, h.tash, hevents, h.taken, h.cur⟩
      | loader =>
          obtain ⟨htaken, hcur⟩ := loader_taken hmdl h.taken h.cur
          exact ⟨h.shape.next .loader, h.tac, h.tash, hevents, htaken, hcur⟩
      | event e =>
          simp only [txAppNext] at hevents ⊢
          split at hevents
          · next hothers =>
              rw [if_pos hothers]
              exact ⟨h.shape.next (.event e), h.tac, h.tash, hevents, h.taken, h.cur⟩
          · next hothers =>
              rw [if_neg hothers]
              exact h
      | rxSarRep rep =>
          exact ⟨h.shape.next (.rxSarRep rep), h.tac, h.tash, hevents, h.taken, h.cur⟩
      | push => exact h
  | ackPush =>
      simp only [txAppNext] at hevents ⊢
      split at hevents
      · exact ⟨⟨h.shape.fsm.congr rfl rfl rfl, h.shape.mdl, h.shape.inits⟩, h.tac, h.tash, hevents,
          h.taken, h.cur⟩
      · exact h
  | emx =>
      refine ⟨h.shape, ?_, h.tash, hevents, h.taken, h.cur⟩
      simp only [txAppNext, pStreamMux]
      cases htac : s.tacEvent with
      | nil =>
          cases s.smlEvent <;> simp
      | cons x xs => exact fun e he => h.tac e (by rw [htac]; exact List.mem_cons_of_mem x he)
  | tash =>
      exact ⟨⟨h.shape.fsm.congr rfl rfl rfl, h.shape.mdl, h.shape.inits⟩, h.tac,
        tash_ev s.tash h.tash, hevents, h.taken, h.cur⟩
  | eve tuple =>
      simp only [txAppNext] at hevents ⊢
      split at hevents
      · next e es _ =>
          exact ⟨h.shape.next (.event ⟨e, tuple⟩), h.tac, h.tash, hevents, h.taken, h.cur⟩
      · exact h
  | tac t i =>
      refine ⟨h.shape, fun e he => ?_, h.tash, hevents, h.taken, h.cur⟩
      obtain he | he := List.mem_append.mp he
      · exact h.tac e he
      · exact (pTxAppConnect_event t i e he).1
  | tat | sndReq | sessState | sml | memSts =>
      exact ⟨h.shape, h.tac, h.tash, hevents, h.taken, h.cur⟩

end CloudFpga.Toe
