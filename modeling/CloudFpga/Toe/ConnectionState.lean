import CloudFpga.Toe.RxEngine.StateMove
import CloudFpga.Toe.StateTable
import CloudFpga.Toe.TxAppInterface.AppConnect
import CloudFpga.Toe.TxEngine.InitialSeqNum

/-!
The state of a connection: `pFiniteStateMachine`, `pTxAppConnect` and the timers write it to the
state table, against the Tx SAR table that `pMetaDataLoader` initialises.

* `tcpStep`: the transitions of the connection states.
* `ConnSys`, `connNext`: the processes with the streams between them.
* `StateInv`: how the states, the writes under way and the history of a session are related;
  `SynInv`: which number acknowledges its SYN.
* `ConnSafe`: what every step has to do; `ConnGuard`: where it may fail to.
* `connectionState_safe`: along every run that meets the guard, every step is safe.
-/

namespace CloudFpga.Toe

open Foundation

/-! ### The transitions -/

/-- The states of a connection that waits for the acknowledgment of its SYN. -/
def isOpening (tcpState : TcpState) : Bool := tcpState = .synSent ∨ tcpState = .synReceived

/-- The transitions of `TcpState`: those of RFC-793 with `LISTEN` merged into `CLOSED`, without
`CLOSE_WAIT`, since the FIN is sent as soon as one is received, and without `FIN_WAIT_2`. Any state
may be left for `CLOSED`, by a reset, a refused opening or a timer. -/
def tcpStep : TcpState → TcpState → Bool
  | .closed, .synSent | .closed, .synReceived => true
  | .synSent, .synReceived | .synSent, .established => true
  | .synReceived, .established => true
  | .established, .finWait1 | .established, .lastAck => true
  | .finWait1, .closing | .finWait1, .timeWait => true
  | .closing, .timeWait => true
  | a, b => a = b ∨ b = .closed

lemma tcpStep_self (a : TcpState) : tcpStep a a = true := by
  cases a <;> rfl

lemma tcpStep_closed (a : TcpState) : tcpStep a .closed = true := by
  cases a <;> rfl

/-- The moves of the state machine are transitions, in the states that are used. -/
lemma FsmMove.step {m : RXeFsmMeta} {txSar : RXeTxSarReply} {a b : TcpState}
    (h : FsmMove m txSar a b) (ha : a ≠ .finWait2) : tcpStep a b = true ∧ b ≠ .finWait2 := by
  cases h with
  | keep => exact ⟨tcpStep_self a, ha⟩
  | close => exact ⟨tcpStep_closed a, by simp⟩
  | opens h =>
      simp only [fsmResets, decide_eq_true_eq] at h
      obtain rfl | rfl := h.2
      · exact ⟨rfl, by simp⟩
      · exact ⟨rfl, by simp⟩
  | establish h =>
      simp only [fsmEstablishes, decide_eq_true_eq] at h
      obtain ⟨rfl, -⟩ | ⟨rfl, -⟩ := h.2
      · exact ⟨rfl, by simp⟩
      · exact ⟨rfl, by simp⟩
  | lastAck => exact ⟨rfl, by simp⟩
  | closing h =>
      obtain rfl := h.resolve_right ha
      exact ⟨rfl, by simp⟩
  | timeWait h =>
      obtain rfl | rfl | rfl := h
      · exact ⟨rfl, by simp⟩
      · exact absurd rfl ha
      · exact ⟨rfl, by simp⟩

/-- A closed connection stays closed, unless a SYN opens it. -/
lemma FsmMove.of_closed {m : RXeFsmMeta} {txSar : RXeTxSarReply} {b : TcpState}
    (h : FsmMove m txSar .closed b) (hreset : fsmResets m .closed = false) : b = .closed := by
  generalize ha : TcpState.closed = a at h hreset
  cases h with
  | keep => rfl
  | close => exact ha
  | opens h => rw [hreset] at h; cases h
  | establish h => subst ha; simp [fsmEstablishes] at h
  | lastAck => cases ha
  | closing h => subst ha; simp at h
  | timeWait h => subst ha; simp at h

/-- A connection is synchronized only if it was before or is established now. -/
lemma FsmMove.synchronized {m : RXeFsmMeta} {txSar : RXeTxSarReply} {a b : TcpState}
    (h : FsmMove m txSar a b) (hb : isSynchronized b = true) :
    isSynchronized a = true ∨ b = .established := by
  cases h with
  | keep => exact .inl hb
  | close | opens => cases hb
  | establish => exact .inr rfl
  | lastAck => exact .inl rfl
  | closing h => rcases h with rfl | rfl <;> exact .inl rfl
  | timeWait h => rcases h with rfl | rfl | rfl <;> exact .inl rfl

/-- A connection is opened by a SYN, or stays as it was. -/
lemma FsmMove.opening {m : RXeFsmMeta} {txSar : RXeTxSarReply} {a b : TcpState}
    (h : FsmMove m txSar a b) (hb : isOpening b = true) :
    isOpening a = true ∧ b = a ∨ fsmResets m a = true := by
  cases h with
  | keep => exact .inl ⟨hb, rfl⟩
  | opens h => exact .inr h
  | close | establish | lastAck | closing | timeWait => cases hb

/-- `ESTABLISHED` is entered by a segment that opens the connection. -/
lemma FsmMove.established {m : RXeFsmMeta} {txSar : RXeTxSarReply} {a : TcpState}
    (h : FsmMove m txSar a .established) (ha : a ≠ .established) :
    fsmEstablishes m a txSar = true := by
  generalize hb : TcpState.established = b at h
  cases h with
  | keep => exact absurd hb.symm ha
  | establish h => exact h
  | close | opens | lastAck | closing | timeWait => cases hb

/-- A SYN that resets the session does not lead to a synchronized state. -/
lemma FsmMove.of_resets {m : RXeFsmMeta} {txSar : RXeTxSarReply} {a b : TcpState}
    (h : FsmMove m txSar a b) (hreset : fsmResets m a = true) : isSynchronized b = false := by
  simp only [fsmResets, synOnly, decide_eq_true_eq] at hreset
  have ha : isSynchronized a = false := by
    obtain rfl | rfl := hreset.2
    · rfl
    · rfl
  rw [Bool.eq_false_iff]
  intro hb
  obtain hsync | rfl := h.synchronized hb
  · rw [ha] at hsync
    cases hsync
  · have hest := h.established (fun heq => by rw [heq] at ha; cases ha)
    simp only [fsmEstablishes, ackOnly, synAckOnly, decide_eq_true_eq] at hest
    exact hreset.1.1 (hest.2.elim (fun h => h.2.1) fun h => h.2.1)

/-! ### The system -/

/-- The processes. `opens` holds the events that ask for an initial sequence number on their way
to the Tx engine. The rest are history variables: `opened`, the session was opened since its id
was handed out; `est`, it has reached `ESTABLISHED` since then; `syn`, the number that
acknowledges the SYN sent for it. -/
structure ConnSys where
  tx : TxSystem
  sys : SttSys := {}
  tac : TacState := {}
  opens : List Event := []
  opened : SessionId → Bool := fun _ => false
  est : SessionId → Bool := fun _ => false
  syn : SessionId → Option TxAckNum := fun _ => none

/-- Who takes the next step. What the other processes contribute is arbitrary. -/
inductive ConnLabel where
  /-- `FSM_LOAD` of a segment -/
  | load (m : RXeFsmMeta)
  /-- `FSM_TRANSITION` with a reply of the Rx SAR table; `unread` is the value of `txSar` when no
  reply of the Tx SAR table is read -/
  | transition (rxSar : RxSarReply) (unread : RXeTxSarReply)
  /-- `state_table` -/
  | stateTable
  /-- `tx_sar_table` -/
  | txSarTable
  /-- `pMetaDataLoader` -/
  | loader
  /-- an event that asks for an initial sequence number arrives at the Tx engine -/
  | openEvent (n : ℕ) (tuple : SocketPair)
  /-- another event arrives at the Tx engine -/
  | event (e : ExtendedEvent)
  /-- a reply of the Rx SAR table to the Tx engine -/
  | rxSarRep (rep : RxSarReply)
  /-- a push of the Tx application interface to the Tx SAR table -/
  | push (p : TAiTxSarPush)
  /-- `pTxAppConnect` -/
  | tac (i : TacIn)
  /-- an open request -/
  | opnReq (server : SockAddr)
  /-- a reply of the port table -/
  | freePortRep (port : TcpPort)
  /-- a reply of the session lookup controller -/
  | lookupRep (rep : SessionLookupReply)
  /-- the status of an opening -/
  | actSessState (st : SessState)
  /-- a notification of the timers -/
  | timNotif (st : SessState)
  /-- a close request -/
  | clsReq (id : SessionId)
  /-- a stream of the application asks for the state of its session -/
  | streamReq (id : SessionId)
  /-- the timers close a session -/
  | closeCmd (id : SessionId)
  /-- the session lookup controller hands out an id for a SYN that was received -/
  | alloc (id : SessionId)

/-- What a transition works with, once all replies are there: the segment, the state of its
session, and the reply of the Tx SAR table. -/
def connReads (s : ConnSys) (unread : RXeTxSarReply) :
    Option (RXeFsmMeta × TcpState × RXeTxSarReply) :=
  match s.tx.fsm, s.sys.rxReps with
  | some m, st :: _ => (fsmTxSar m s.tx.siFsmTxSarRep unread).map fun r => (m, st, r.1)
  | _, _ => none

/-- `FSM_TRANSITION`. A SYN that resets the session opens it anew. -/
def connTransition (s : ConnSys) (rxSar : RxSarReply) (unread : RXeTxSarReply) (m : RXeFsmMeta)
    (tcpState : TcpState) (txSar : RXeTxSarReply) : ConnSys :=
  let resets := fsmResets m tcpState
  { s with
    tx := txNext s.tx (.transition tcpState rxSar unread)
    sys := sttNext s.sys (.rxWriteBack (fsmState m rxSar txSar))
    opens := s.opens ++ (fsmTransition m tcpState rxSar txSar).event.filter (·.choosesIsn)
    opened := if resets then Function.update s.opened m.sessionId true else s.opened
    est :=
      if resets then Function.update s.est m.sessionId false
      else if fsmState m rxSar txSar tcpState = .established then
        Function.update s.est m.sessionId true
      else s.est
    syn := if resets then Function.update s.syn m.sessionId none else s.syn }

/-- The query of `pTxAppConnect` goes to the state table. In `TAC_CLOSE_CONN` the call has read a
reply. -/
def tacAsk (tac : TacState) (sys : SttSys) (q : StateQuery) : SttSys :=
  let close : Bool := tac.fsmState = .closeConn
  { sys with
    stt := sys.stt.askTAi q
    taiReps := if close then sys.taiReps.tail else sys.taiReps
    taiAsked := if q.write then none else some q.sessionID
    taiSeen := if close then sys.taiReps.head?.getD sys.taiSeen else sys.taiSeen }

/-- The session that a call of `pTxAppConnect` opens. -/
def tacOpens (s : TacState) (i : TacIn) : Option SessionId :=
  match tacTakes s i with
  | some rep => if rep.hit then some rep.sessionID else none
  | none => none

/-- A call of `pTxAppConnect`. -/
def connTac (s : ConnSys) (i : TacIn) : ConnSys :=
  let r := pTxAppConnect s.tac { i with stateRep := s.sys.taiReps.head? }
  { s with
    tac := r.1
    sys := r.2.connectStateQry.foldl (tacAsk s.tac) s.sys
    opens := s.opens ++ r.2.event.filter (·.choosesIsn)
    opened := (tacOpens s.tac i).elim s.opened (Function.update s.opened · true)
    est := (tacOpens s.tac i).elim s.est (Function.update s.est · false)
    syn := (tacOpens s.tac i).elim s.syn (Function.update s.syn · none) }

def connNext (s : ConnSys) : ConnLabel → ConnSys
  | .load m =>
      match s.tx.fsm with
      | none =>
          { s with tx := txNext s.tx (.load m), sys := sttNext s.sys (.rxRead m.sessionId) }
      | some _ => s
  | .transition rxSar unread =>
      match connReads s unread with
      | some (m, tcpState, txSar) => connTransition s rxSar unread m tcpState txSar
      | none => s
  | .stateTable => { s with sys := sttNext s.sys .call }
  | .txSarTable => { s with tx := txNext s.tx .table }
  | .loader =>
      { s with
        tx := txNext s.tx .loader
        syn := (mdlSynSent s.tx.mdl).elim s.syn fun n =>
          Function.update s.syn s.tx.mdl.sessionID (some n) }
  | .openEvent n tuple =>
      match s.opens[n]? with
      | some e => { s with tx := txNext s.tx (.event ⟨e, tuple⟩), opens := s.opens.eraseIdx n }
      | none => s
  | .event e => if e.event.choosesIsn then s else { s with tx := txNext s.tx (.event e) }
  | .rxSarRep rep => { s with tx := txNext s.tx (.rxSarRep rep) }
  | .push p => { s with tx := txNext s.tx (.push p) }
  | .tac i => connTac s i
  | .opnReq server => { s with tac := { s.tac with siTAIFOpnReq := s.tac.siTAIFOpnReq ++ [server] } }
  | .freePortRep port =>
      { s with tac := { s.tac with siPRtGetFreePortRep := s.tac.siPRtGetFreePortRep ++ [port] } }
  | .lookupRep rep =>
      { s with tac := { s.tac with siSLcSessLookupRep := s.tac.siSLcSessLookupRep ++ [rep] } }
  | .actSessState st =>
      { s with tac := { s.tac with siRXeActSessState := s.tac.siRXeActSessState ++ [st] } }
  | .timNotif st => { s with tac := { s.tac with siTImNotif := s.tac.siTImNotif ++ [st] } }
  | .clsReq id => { s with tac := { s.tac with siTAIFClsReq := s.tac.siTAIFClsReq ++ [id] } }
  | .streamReq id => { s with sys := sttNext s.sys (.streamReq id) }
  | .closeCmd id => { s with sys := sttNext s.sys (.closeCmd id) }
  | .alloc id =>
      { s with opened := Function.update s.opened id false, est := Function.update s.est id false }

/-! ### Safety, and where it may fail -/

/-- The state of a session. -/
def ConnSys.state (s : ConnSys) (id : SessionId) : TcpState := s.sys.stt.table id

/-- A transition notifies payload to the application. -/
def fsmNotifies (m : RXeFsmMeta) (tcpState : TcpState) (rxSar : RxSarReply)
    (txSar : RXeTxSarReply) : Bool :=
  (fsmTransition m tcpState rxSar txSar).rxNotif.any (·.tcpDatLen ≠ 0)

/-- What a transition has to do: `ESTABLISHED` is entered by a segment that acknowledges the SYN
sent for the session, and payload is notified only for a session that has reached `ESTABLISHED`
since its id was handed out. -/
def TransitionSafe (s : ConnSys) (rxSar : RxSarReply) (m : RXeFsmMeta) (tcpState : TcpState)
    (txSar : RXeTxSarReply) : Prop :=
  let tcpState' := fsmState m rxSar txSar tcpState
  (tcpState' = .established → tcpState ≠ .established → s.syn m.sessionId = some m.ackNumb) ∧
  (fsmNotifies m tcpState rxSar txSar →
    s.est m.sessionId = true ∨ tcpState' = .established)

/-- What a step has to do: the state of every session makes a transition, or stays. -/
def ConnSafe (s : ConnSys) (l : ConnLabel) : Prop :=
  (∀ id, tcpStep (s.state id) ((connNext s l).state id) = true) ∧
  match l with
  | .transition rxSar unread =>
      ∀ r ∈ connReads s unread, TransitionSafe s rxSar r.1 r.2.1 r.2.2
  | _ => True

/-- An event that asks for a number for the session has not been processed yet. -/
def ConnSys.AwaitsIsn (s : ConnSys) (id : SessionId) : Prop :=
  (∃ e ∈ s.opens, e.choosesIsn = true ∧ e.sessionID = id) ∨ s.tx.mdl.AwaitsIsn id

instance (s : ConnSys) (id : SessionId) : Decidable (s.AwaitsIsn id) :=
  inferInstanceAs (Decidable ((∃ e ∈ _, _ ∧ _) ∨ _))

/-- The writes of `pTxAppConnect` that open a session, behind the write-back of a session that it
has locked. -/
def SttView.blind (v : SttView) : List StateQuery :=
  (if v.txLock.isSome then v.txPipe.tail else v.txPipe).filter (·.write)

/-- The session is closed, and no write is under way that would change that. -/
def SessionFree (v : SttView) (id : SessionId) : Prop :=
  v.table id = .closed ∧
    ∀ q ∈ v.rxPipe ++ v.txPipe, q.write = true → q.sessionID = id → q.state = .closed

instance (v : SttView) (id : SessionId) : Decidable (SessionFree v id) :=
  inferInstanceAs (Decidable (_ ∧ ∀ q ∈ _, _ → _ → _))

/-- A transition that is safe: a segment that opens the connection was compared with the Tx SAR
entry as the SYN of the session has initialised it; an ACK segment in `SYN_RECEIVED` has payload
only if it opens the connection; and a SYN is not accepted while `pTxAppConnect` is about to write
`SYN_SENT`. -/
def TransitionGuard (s : ConnSys) (rxSar : RxSarReply) (m : RXeFsmMeta) (tcpState : TcpState)
    (txSar : RXeTxSarReply) : Prop :=
  (fsmEstablishes m tcpState txSar →
    ¬s.AwaitsIsn m.sessionId ∧ txSar.prevUnak = s.tx.initUnak m.sessionId) ∧
  (tcpState = .synReceived → ackOnly m → fsmNotifies m tcpState rxSar txSar →
    m.ackNumb = txSar.prevUnak) ∧
  (fsmResets m tcpState → ∀ q ∈ s.sys.stt.view.blind, q.sessionID ≠ m.sessionId)

instance (s : ConnSys) (rxSar : RxSarReply) (m : RXeFsmMeta) (tcpState : TcpState)
    (txSar : RXeTxSarReply) : Decidable (TransitionGuard s rxSar m tcpState txSar) :=
  inferInstanceAs (Decidable ((_ → _ ∧ _) ∧ (_ → _ → _ → _) ∧ (_ → ∀ q ∈ _, _)))

/-- The condition on a step. The ids that are handed out, and the sessions that are found for new
connections, are free; and the `unak` of a session does not move before the SYN is acknowledged. -/
def ConnGuard (s : ConnSys) : ConnLabel → Prop
  | .transition rxSar unread =>
      ∀ r ∈ connReads s unread, TransitionGuard s rxSar r.1 r.2.1 r.2.2
  | .txSarTable =>
      ∀ q ∈ s.tx.tst.siTXeTxSarQry.head?, s.opened q.sessionID → s.est q.sessionID = false →
        ¬s.AwaitsIsn q.sessionID → s.tx.KeepsUnak q.sessionID
  | .tac i => ∀ id ∈ tacOpens s.tac i, SessionFree s.sys.stt.view id
  | .alloc id => SessionFree s.sys.stt.view id
  | .load _ | .stateTable | .loader | .openEvent _ _ | .event _ | .rxSarRep _ | .push _
  | .opnReq _ | .freePortRep _ | .lookupRep _ | .actSessState _ | .timNotif _ | .clsReq _
  | .streamReq _ | .closeCmd _ => True

instance (s : ConnSys) : (l : ConnLabel) → Decidable (ConnGuard s l)
  | .transition _ _ => inferInstanceAs (Decidable (∀ r ∈ _, TransitionGuard ..))
  | .txSarTable => inferInstanceAs (Decidable (∀ q ∈ _, _ → _ → ¬_ → _))
  | .tac _ => inferInstanceAs (Decidable (∀ id ∈ _, SessionFree ..))
  | .alloc _ => inferInstanceAs (Decidable (SessionFree ..))
  | .load _ | .stateTable | .loader | .openEvent _ _ | .event _ | .rxSarRep _ | .push _
  | .opnReq _ | .freePortRep _ | .lookupRep _ | .actSessState _ | .timNotif _ | .clsReq _
  | .streamReq _ | .closeCmd _ => isTrue trivial

/-! ### The states and the writes under way -/

/-- A state that is written for a session: it is reached by a transition, and agrees with the
history of the session. -/
structure BackOk (table : SessionId → TcpState) (opened est : SessionId → Bool) (q : StateQuery) :
    Prop where
  finWait2 : q.state ≠ .finWait2
  step : tcpStep (table q.sessionID) q.state = true
  sync : isSynchronized q.state = true → est q.sessionID = true
  opening : isOpening q.state = true → opened q.sessionID = true ∧ est q.sessionID = false

/-- A write that opens a session: the session is still closed, and the Rx engine does not open it
in the meantime. -/
structure BlindOk (v : SttView) (opened est : SessionId → Bool) (q : StateQuery) : Prop where
  state : q.state = .synSent
  closed : v.table q.sessionID = .closed
  opened : opened q.sessionID = true
  est : est q.sessionID = false
  rx : ∀ q' ∈ v.rxPipe, q'.write = true → q'.sessionID = q.sessionID → q'.state = .closed

/-- How the states, the writes under way and the history of the sessions are related. -/
structure StateInv (v : SttView) (opened est : SessionId → Bool) : Prop where
  finWait2 : ∀ id, v.table id ≠ .finWait2
  sync : ∀ id, isSynchronized (v.table id) = true → est id = true
  opening : ∀ id, isOpening (v.table id) = true → opened id = true
  /-- an open session still waits for its acknowledgment, or the write of `ESTABLISHED` is under
  way -/
  fresh : ∀ id, isOpening (v.table id) = true → est id = true →
    ∃ q ∈ v.rxPipe, q.write = true ∧ q.sessionID = id
  rx : ∀ q ∈ v.rxPipe, q.write = true → BackOk v.table opened est q
  tai : ∀ id, v.txLock = some id → ∀ q ∈ v.txPipe.head?, q.write = true →
    BackOk v.table opened est q ∧ (v.table q.sessionID = .closed → q.state = .closed)
  blind : ∀ q ∈ v.blind, BlindOk v opened est q
  nodup : (v.blind.map (·.sessionID)).Nodup

lemma stateInv_init : StateInv ({} : SttState).view (fun _ => false) fun _ => false where
  finWait2 _ h := by cases h
  sync _ h := by cases h
  opening _ h := by cases h
  fresh _ h := by cases h
  rx q h := by cases h
  tai _ h := by cases h
  blind q h := by cases h
  nodup := List.nodup_nil

section Shape

variable {table : SessionId → TcpState} {seen : TcpState} {blind : Prop}
  {lock asked : Option SessionId} {pipe : List StateQuery} {reps : List TcpState}

/-- A client that never writes without a read has locked the session that it writes. -/
lemma ClientShape.lock_of_write (h : ClientShape table seen False lock pipe reps asked)
    {q : StateQuery} (hq : q ∈ pipe) (hw : q.write = true) : lock = some q.sessionID := by
  have hback {back : List StateQuery} (hb : WriteBack table seen lock back) (hmem : q ∈ back) :
      lock = some q.sessionID := by
    cases hb with
    | none => cases hmem
    | sent => rw [List.mem_singleton.mp hmem]; rfl
  cases h with
  | answered => cases hq
  | writes hb hws =>
      obtain hq | hq := List.mem_append.mp hq
      · exact hback hb hq
      · exact (hws q hq).2.elim
  | asks hb hws =>
      obtain hq | hq := List.mem_append.mp hq
      · obtain hq | hq := List.mem_append.mp hq
        · exact hback hb hq
        · exact (hws q hq).2.elim
      · rw [List.mem_singleton.mp hq] at hw
        cases hw

/-- Nothing is behind a read. -/
lemma ClientShape.nil_of_read {q : StateQuery} {qs : List StateQuery}
    (h : ClientShape table seen blind lock (q :: qs) reps asked) (hw : q.write = false) :
    lock = none ∧ qs = [] := by
  generalize hp : q :: qs = pipe at h
  cases h with
  | answered => cases hp
  | writes hb hws =>
      cases hb with
      | sent => obtain ⟨rfl, -⟩ := List.cons.inj hp; cases hw
      | none =>
          have hq := hws q (by rw [List.nil_append] at hp; simp [← hp])
          rw [hq.1] at hw
          cases hw
  | @asks _ _ ws id hb hws =>
      cases hb with
      | sent => obtain ⟨rfl, -⟩ := List.cons.inj hp; cases hw
      | none =>
          cases ws with
          | nil => exact ⟨rfl, (List.cons.inj hp).2⟩
          | cons w ws =>
              obtain ⟨rfl, -⟩ := List.cons.inj hp
              rw [(hws q List.mem_cons_self).1] at hw
              cases hw

/-- A client that has locked a session and waits for nothing has sent its write-back. -/
lemma ClientShape.ne_nil_of_lock (h : ClientShape table seen blind lock pipe reps none)
    {id : SessionId} (hlock : lock = some id) : pipe ≠ [] := by
  generalize ha : (none : Option SessionId) = asked at h
  cases h with
  | answered | asks => cases ha
  | writes hb hws =>
      cases hb with
      | none => cases hlock
      | sent => simp

end Shape

section Serve

variable {v v' : SttView} {out : SttOut} {opened est : SessionId → Bool}
  {rxSeen taiSeen : TcpState} {rxReps taiReps : List TcpState}
  {rxAsked taiAsked : Option SessionId}

/-- A write that is not the one to the session stays as good as it was. -/
lemma BackOk.update {q : StateQuery} {id : SessionId} {st : TcpState}
    (h : BackOk v.table opened est q) (hid : q.sessionID ≠ id) :
    BackOk (Function.update v.table id st) opened est q := by
  refine ⟨h.finWait2, ?_, h.sync, h.opening⟩
  rw [Function.update_of_ne hid]
  exact h.step

/-- The table after a write to a session that no other write-back is under way for. -/
structure Wrote (v v' : SttView) (opened est : SessionId → Bool) (q : StateQuery) : Prop where
  ok : BackOk v.table opened est q
  table : v'.table = Function.update v.table q.sessionID q.state
  rxPipe : ∀ q' ∈ v'.rxPipe, q' ∈ v.rxPipe
  rx : ∀ q' ∈ v'.rxPipe, q'.write = true → q'.sessionID ≠ q.sessionID
  fresh : ∀ q' ∈ v.rxPipe, q'.write = true → q'.sessionID ≠ q.sessionID → q' ∈ v'.rxPipe
  tai : ∀ id, v'.txLock = some id → ∀ q' ∈ v'.txPipe.head?, q'.write = true →
    v.txLock = some id ∧ q' ∈ v.txPipe.head? ∧ q'.sessionID ≠ q.sessionID
  blind : ∀ q' ∈ v'.blind, q' ∈ v.blind ∧ (q'.sessionID = q.sessionID → q.state = .closed)
  nodup : (v'.blind.map (·.sessionID)).Nodup

lemma StateInv.wrote {q : StateQuery} (h : StateInv v opened est) (hw : Wrote v v' opened est q) :
    StateInv v' opened est ∧ ∀ id, tcpStep (v.table id) (v'.table id) = true := by
  have htable (id : SessionId) : v'.table id = if id = q.sessionID then q.state else v.table id := by
    rw [hw.table, Function.update_apply]
  refine ⟨⟨fun id => ?_, fun id => ?_, fun id => ?_, fun id hop hest => ?_, fun q' hq' hwr => ?_,
    fun id hlock q' hq' hwr => ?_, fun q' hq' => ?_, hw.nodup⟩, fun id => ?_⟩
  · rw [htable]
    split
    · exact hw.ok.finWait2
    · exact h.finWait2 id
  · rw [htable]
    split
    · next hid => exact hid ▸ hw.ok.sync
    · exact h.sync id
  · rw [htable]
    split
    · next hid => exact fun hop => hid ▸ (hw.ok.opening hop).1
    · exact h.opening id
  · rw [htable] at hop
    split at hop
    · next hid =>
        rw [hid, (hw.ok.opening hop).2] at hest
        cases hest
    · next hid =>
        obtain ⟨q', hq', hwr, rfl⟩ := h.fresh id hop hest
        exact ⟨q', hw.fresh q' hq' hwr hid, hwr, rfl⟩
  · rw [hw.table]
    exact (h.rx q' (hw.rxPipe q' hq') hwr).update (hw.rx q' hq' hwr)
  · obtain ⟨hlock', hq'', hid⟩ := hw.tai id hlock q' hq' hwr
    obtain ⟨hok, hclosed⟩ := h.tai id hlock' q' hq'' hwr
    rw [hw.table, Function.update_of_ne hid]
    exact ⟨hok.update hid, hclosed⟩
  · obtain ⟨hq'', hstate⟩ := hw.blind q' hq'
    have hok := h.blind q' hq''
    refine ⟨hok.state, ?_, hok.opened, hok.est, fun r hr => hok.rx r (hw.rxPipe r hr)⟩
    rw [htable]
    split
    · next hid => exact hstate hid
    · exact hok.closed
  · rw [htable]
    split
    · next hid => exact hid ▸ hw.ok.step
    · exact tcpStep_self _

/-- The first query of the Tx application interface is for the session that it has locked. -/
lemma ViewInv.txLock_of_head (hv : ViewInv v rxSeen taiSeen rxReps taiReps rxAsked taiAsked)
    {id : SessionId} (hlock : v.txLock = some id) {q : StateQuery} (hq : q ∈ v.txPipe.head?) :
    v.txLock = some q.sessionID := by
  have htai := hv.tai
  obtain ⟨qs, hqs⟩ : ∃ qs, v.txPipe = q :: qs := by
    cases hpipe : v.txPipe with
    | nil => rw [hpipe] at hq; cases hq
    | cons a as =>
        rw [hpipe] at hq
        exact ⟨as, by rw [Option.some.inj hq]⟩
  rw [hqs, hlock] at htai
  cases htai.head with
  | writeBack => exact hlock

/-- The state of the session that the Rx engine has locked is written back. -/
lemma wrote_rx (h : StateInv v opened est)
    (hv : ViewInv v rxSeen taiSeen rxReps taiReps rxAsked taiAsked) {q : StateQuery}
    {qs : List StateQuery} (hp : v.rxPipe = q :: qs) (hw : q.write = true)
    (hfree : v.txLock ≠ some q.sessionID) :
    Wrote v { v with
      table := Function.update v.table q.sessionID q.state, rxLock := none, rxPipe := qs }
      opened est q := by
  have hmem : q ∈ v.rxPipe := by rw [hp]; exact List.mem_cons_self
  have hrest : ∀ q' ∈ qs, q'.write = false := by
    intro q' hq'
    rw [Bool.eq_false_iff]
    intro hwr
    have hrx := hv.rx
    rw [hp] at hrx
    have hnone := (@ClientShape.serveWrite v.table v.table _ _ _ _ _ _ _ hrx hw).lock_of_write
      hq' hwr
    cases hnone
  refine ⟨h.rx q hmem hw, rfl, fun q' hq' => ?_, fun q' hq' hwr => ?_, fun q' hq' hwr hid => ?_,
    fun id hlock q' hq' hwr => ⟨hlock, hq', fun hid => ?_⟩, fun q' hq' => ⟨hq', fun hid => ?_⟩,
    h.nodup⟩
  · rw [hp]
    exact List.mem_cons_of_mem q hq'
  · rw [hrest q' hq'] at hwr
    cases hwr
  · rw [hp] at hq'
    obtain rfl | hq' := List.mem_cons.mp hq'
    · exact absurd rfl hid
    · exact hq'
  · rw [← hid, hv.txLock_of_head hlock hq'] at hfree
    exact hfree rfl
  · exact (h.blind q' hq').rx q hmem hw hid.symm

/-- A session that the Rx engine has not locked is not written by it. -/
lemma ViewInv.rx_ne (hv : ViewInv v rxSeen taiSeen rxReps taiReps rxAsked taiAsked)
    {id : SessionId} (hfree : v.rxLock ≠ some id) :
    ∀ q ∈ v.rxPipe, q.write = true → q.sessionID ≠ id := by
  intro q hq hw hid
  rw [← hid] at hfree
  exact hfree (hv.rx.lock_of_write hq hw)

/-- The Tx application interface writes back, or opens a session. -/
lemma wrote_tai (h : StateInv v opened est)
    (hv : ViewInv v rxSeen taiSeen rxReps taiReps rxAsked taiAsked) {q : StateQuery}
    {qs : List StateQuery} (hp : v.txPipe = q :: qs) (hw : q.write = true)
    (hfree : v.rxLock ≠ some q.sessionID) :
    Wrote v { v with
      table := Function.update v.table q.sessionID q.state, txLock := none, txPipe := qs }
      opened est q := by
  have hhead : q ∈ v.txPipe.head? := by rw [hp]; rfl
  have htai := hv.tai
  rw [hp] at htai
  have hrx := hv.rx_ne hfree
  generalize hlock : v.txLock = lock at htai
  cases htai.head with
  | read hw' => rw [hw] at hw'; cases hw'
  | writeBack =>
      have hblind : v.blind = qs.filter (·.write) := by simp [SttView.blind, hlock, hp]
      obtain ⟨hok, hclosed⟩ := h.tai _ hlock q hhead hw
      refine ⟨hok, rfl, fun q' hq' => hq', hrx, fun q' hq' _ _ => hq', fun id hl => (by cases hl),
        fun q' hq' => ?_, ?_⟩
      · change q' ∈ qs.filter (·.write) at hq'
        rw [← hblind] at hq'
        exact ⟨hq', fun hid => hclosed (hid ▸ (h.blind q' hq').closed)⟩
      · change ((qs.filter (·.write)).map (·.sessionID)).Nodup
        rw [← hblind]
        exact h.nodup
  | write =>
      have hblind : v.blind = q :: qs.filter (·.write) := by simp [SttView.blind, hlock, hp, hw]
      have hq := h.blind q (by rw [hblind]; exact List.mem_cons_self)
      have hnodup := h.nodup
      rw [hblind, List.map_cons, List.nodup_cons] at hnodup
      refine ⟨⟨by simp [hq.state], by rw [hq.closed, hq.state]; rfl, by simp [hq.state, isSynchronized],
        fun _ => ⟨hq.opened, hq.est⟩⟩, rfl, fun q' hq' => hq', hrx, fun q' hq' _ _ => hq',
        fun id hl => (by cases hl), fun q' hq' => ⟨?_, fun hid => ?_⟩, hnodup.2⟩
      · rw [hblind]
        exact List.mem_cons_of_mem q hq'
      · refine absurd ?_ hnodup.1
        rw [← hid]
        exact List.mem_map_of_mem hq'

/-- The timers close a session. -/
lemma wrote_close (h : StateInv v opened est)
    (hv : ViewInv v rxSeen taiSeen rxReps taiReps rxAsked taiAsked) {id : SessionId}
    {ids : List SessionId} (hrx : v.rxLock ≠ some id) (htx : v.txLock ≠ some id) :
    Wrote v { v with table := Function.update v.table id .closed, closes := ids } opened est
      (.wr id .closed) where
  ok := ⟨by simp [StateQuery.wr], tcpStep_closed _, fun hs => (by cases hs), fun hs => (by cases hs)⟩
  table := rfl
  rxPipe _ hq := hq
  rx := hv.rx_ne hrx
  fresh _ hq _ _ := hq
  tai _ hlock q hq _ := by
    refine ⟨hlock, hq, fun hid => htx ?_⟩
    rw [hv.txLock_of_head hlock hq, hid]
    rfl
  blind _ hq := ⟨hq, fun _ => rfl⟩
  nodup := h.nodup

/-- **A call of the state table** makes transitions only, and keeps the states, the writes and the
history in line. -/
theorem StateInv.serve (h : StateInv v opened est)
    (hv : ViewInv v rxSeen taiSeen rxReps taiReps rxAsked taiAsked) (hs : SttServe v v' out) :
    StateInv v' opened est ∧ ∀ id, tcpStep (v.table id) (v'.table id) = true := by
  cases hs with
  | txWrite hp hw hfree => exact h.wrote (wrote_tai h hv hp hw hfree)
  | rxWrite hp hw hfree => exact h.wrote (wrote_rx h hv hp hw hfree)
  | close hp hrx htx => exact h.wrote (wrote_close h hv hrx htx)
  | stay => exact ⟨h, fun id => tcpStep_self _⟩
  | stream hp =>
      exact ⟨⟨h.finWait2, h.sync, h.opening, h.fresh, h.rx, h.tai, fun q hq =>
        ⟨(h.blind q hq).state, (h.blind q hq).closed, (h.blind q hq).opened, (h.blind q hq).est,
          (h.blind q hq).rx⟩, h.nodup⟩, fun id => tcpStep_self _⟩
  | @txRead q qs hp hw hfree =>
      have htai := hv.tai
      rw [hp] at htai
      obtain ⟨-, rfl⟩ := htai.nil_of_read hw
      exact ⟨⟨h.finWait2, h.sync, h.opening, h.fresh, h.rx, fun _ _ q' hq' => (by cases hq'),
        fun q' hq' => (by cases hq'), List.nodup_nil⟩, fun id => tcpStep_self _⟩
  | @rxRead q qs hp hw hfree =>
      have hrx := hv.rx
      rw [hp] at hrx
      obtain ⟨-, rfl⟩ := hrx.nil_of_read hw
      refine ⟨⟨h.finWait2, h.sync, h.opening, fun id hop hest => ?_, fun q' hq' => (by cases hq'),
        h.tai, fun q' hq' => ?_, h.nodup⟩, fun id => tcpStep_self _⟩
      · obtain ⟨q', hq', hwr, -⟩ := h.fresh id hop hest
        rw [hp, List.mem_singleton] at hq'
        rw [hq', hw] at hwr
        cases hwr
      · have hok := h.blind q' hq'
        exact ⟨hok.state, hok.closed, hok.opened, hok.est, fun r hr => (by cases hr)⟩

/-! ### New queries -/

lemma BackOk.congr {table : SessionId → TcpState} {opened' est' : SessionId → Bool}
    {q : StateQuery} (h : BackOk table opened est q)
    (ho : opened' q.sessionID = opened q.sessionID) (he : est' q.sessionID = est q.sessionID) :
    BackOk table opened' est' q :=
  ⟨h.finWait2, h.step, by rw [he]; exact h.sync, by rw [ho, he]; exact h.opening⟩

lemma BlindOk.congr {opened' est' : SessionId → Bool} {q : StateQuery}
    (h : BlindOk v opened est q) (ht : v'.table = v.table)
    (ho : opened' q.sessionID = opened q.sessionID) (he : est' q.sessionID = est q.sessionID)
    (hrx : ∀ q' ∈ v'.rxPipe, q' ∈ v.rxPipe ∨ q'.write = false ∨ q'.sessionID ≠ q.sessionID ∨
      q'.state = .closed) : BlindOk v' opened' est' q := by
  refine ⟨h.state, ht ▸ h.closed, ho ▸ h.opened, he ▸ h.est, fun q' hq' hw hid => ?_⟩
  obtain hmem | hread | hne | hst := hrx q' hq'
  · exact h.rx q' hmem hw hid
  · rw [hread] at hw
    cases hw
  · exact absurd hid hne
  · exact hst

/-- The Rx engine asks for a state. -/
lemma StateInv.rxRead (h : StateInv v opened est) (id : SessionId) :
    StateInv { v with rxPipe := v.rxPipe ++ [.rd id] } opened est where
  finWait2 := h.finWait2
  sync := h.sync
  opening := h.opening
  fresh id' hop hest := by
    obtain ⟨q, hq, hrest⟩ := h.fresh id' hop hest
    exact ⟨q, List.mem_append_left _ hq, hrest⟩
  rx q hq hw := by
    obtain hq | hq := List.mem_append.mp hq
    · exact h.rx q hq hw
    · rw [List.mem_singleton.mp hq] at hw
      cases hw
  tai := h.tai
  blind q hq := (h.blind q hq).congr rfl rfl rfl fun q' hq' => by
    obtain hq' | hq' := List.mem_append.mp hq'
    · exact .inl hq'
    · rw [List.mem_singleton.mp hq']
      exact .inr (.inl rfl)
  nodup := h.nodup

/-- The Tx application interface asks for a state. -/
lemma StateInv.taiRead (h : StateInv v opened est) (id : SessionId) :
    StateInv { v with txPipe := v.txPipe ++ [.rd id] } opened est := by
  have hblind : SttView.blind { v with txPipe := v.txPipe ++ [.rd id] } = v.blind := by
    simp only [SttView.blind]
    split
    · cases v.txPipe <;> simp [StateQuery.rd]
    · simp [StateQuery.rd]
  refine ⟨h.finWait2, h.sync, h.opening, h.fresh, h.rx, fun id' hlock q hq hw => ?_,
    fun q hq => ?_, by rw [hblind]; exact h.nodup⟩
  · have hhead : q ∈ v.txPipe.head? := by
      cases hpipe : v.txPipe with
      | nil =>
          simp only [hpipe, List.nil_append, List.head?_cons, Option.mem_def,
            Option.some.injEq] at hq
          rw [← hq] at hw
          cases hw
      | cons a as => simpa [hpipe] using hq
    exact h.tai id' hlock q hhead hw
  · rw [hblind] at hq
    exact (h.blind q hq).congr rfl rfl rfl fun q' hq' => .inl hq'

/-- The Rx engine writes back what a transition has made of the state of a session. -/
theorem StateInv.transition (h : StateInv v opened est)
    (hv : ViewInv v rxSeen taiSeen rxReps taiReps rxAsked taiAsked) {m : RXeFsmMeta}
    {txSar : RXeTxSarReply} {st : TcpState} (hlock : v.rxLock = some m.sessionId)
    (hpipe : v.rxPipe = []) (hmove : FsmMove m txSar (v.table m.sessionId) st)
    (hguard : fsmResets m (v.table m.sessionId) = true →
      ∀ q ∈ v.blind, q.sessionID ≠ m.sessionId) :
    let resets := fsmResets m (v.table m.sessionId)
    StateInv { v with rxPipe := v.rxPipe ++ [.wr m.sessionId st] }
      (if resets then Function.update opened m.sessionId true else opened)
      (if resets then Function.update est m.sessionId false
        else if st = .established then Function.update est m.sessionId true else est) := by
  intro resets
  set opened' := if resets then Function.update opened m.sessionId true else opened with hopened
  set est' := if resets then Function.update est m.sessionId false
    else if st = .established then Function.update est m.sessionId true else est with hest
  have ho (id : SessionId) (hid : id ≠ m.sessionId) : opened' id = opened id := by
    rw [hopened]
    split
    · exact Function.update_of_ne hid ..
    · rfl
  have he (id : SessionId) (hid : id ≠ m.sessionId) : est' id = est id := by
    rw [hest]
    split_ifs
    · exact Function.update_of_ne hid ..
    · exact Function.update_of_ne hid ..
    · rfl
  have hmem {q : StateQuery} (hq : q ∈ v.rxPipe ++ [.wr m.sessionId st]) :
      q = .wr m.sessionId st := by
    rw [hpipe, List.nil_append] at hq
    exact List.mem_singleton.mp hq
  have hresets (hr : resets = true) (hst : isSynchronized st = true) : False := by
    rw [hmove.of_resets hr] at hst
    cases hst
  have hsync (hX : isSynchronized (v.table m.sessionId) = true) : est' m.sessionId = true := by
    rw [hest]
    split_ifs with hr
    · simp only [resets, fsmResets, decide_eq_true_eq] at hr
      rcases hr.2 with h' | h' <;> rw [h'] at hX <;> cases hX
    · exact Function.update_self ..
    · exact h.sync _ hX
  have hopening (hX : isOpening (v.table m.sessionId) = true) : opened' m.sessionId = true := by
    rw [hopened]
    split
    · exact Function.update_self ..
    · exact h.opening _ hX
  -- no write is under way, so that an open session is still unacknowledged
  have hunest (hX : isOpening (v.table m.sessionId) = true) : est m.sessionId = false := by
    rw [Bool.eq_false_iff]
    intro hest
    obtain ⟨q, hq, -⟩ := h.fresh _ hX hest
    rw [hpipe] at hq
    cases hq
  have hback : BackOk v.table opened' est' (.wr m.sessionId st) := by
    obtain ⟨hstep, hfw2⟩ := hmove.step (h.finWait2 m.sessionId)
    refine ⟨hfw2, hstep, fun hst => ?_, fun hst => ?_⟩
    · obtain hX | heq := hmove.synchronized hst
      · exact hsync hX
      · change st = _ at heq
        change est' m.sessionId = true
        rw [hest, if_neg (fun hr => hresets hr hst), if_pos heq]
        exact Function.update_self ..
    · obtain ⟨hX, heq⟩ | hr := hmove.opening hst
      · refine ⟨hopening hX, ?_⟩
        change est' m.sessionId = false
        rw [hest]
        split_ifs with hr hest'
        · exact Function.update_self ..
        · change isOpening st = true at hst
          rw [hest'] at hst
          cases hst
        · exact hunest hX
      · refine ⟨?_, ?_⟩
        · change opened' m.sessionId = true
          rw [hopened, if_pos hr]
          exact Function.update_self ..
        · change est' m.sessionId = false
          rw [hest, if_pos hr]
          exact Function.update_self ..
  refine ⟨h.finWait2, fun id hX => ?_, fun id hX => ?_, fun id hX hest => ?_, fun q hq _ => ?_,
    fun id htx q hq hw => ?_, fun q hq => ?_, h.nodup⟩
  · by_cases hid : id = m.sessionId
    · exact hid ▸ hsync (hid ▸ hX)
    · rw [he id hid]
      exact h.sync id hX
  · by_cases hid : id = m.sessionId
    · exact hid ▸ hopening (hid ▸ hX)
    · rw [ho id hid]
      exact h.opening id hX
  · by_cases hid : id = m.sessionId
    · exact ⟨.wr m.sessionId st, by simp, rfl, hid.symm⟩
    · rw [he id hid] at hest
      obtain ⟨q, hq, hrest⟩ := h.fresh id hX hest
      exact ⟨q, List.mem_append_left _ hq, hrest⟩
  · rw [hmem hq]
    exact hback
  · have hid : q.sessionID ≠ m.sessionId := fun hid => by
      have hlock' := hv.txLock_of_head htx hq
      rw [hid] at hlock'
      exact hv.excl _ hlock hlock'
    obtain ⟨hok, hclosed⟩ := h.tai id htx q hq hw
    exact ⟨hok.congr (ho _ hid) (he _ hid), hclosed⟩
  · have hok := h.blind q hq
    by_cases hid : q.sessionID = m.sessionId
    · have hnot : resets = false := by
        rw [Bool.eq_false_iff]
        exact fun hr => hguard hr q hq hid
      have hclosed : v.table m.sessionId = .closed := hid ▸ hok.closed
      have hst : st = .closed := by
        have hm := hmove
        rw [hclosed] at hm
        exact hm.of_closed (hclosed ▸ hnot)
      have ho' : opened' = opened := by
        rw [hopened, if_neg (by simp [hnot])]
      have he' : est' = est := by
        rw [hest, if_neg (by simp [hnot]), if_neg (by simp [hst])]
      refine hok.congr rfl (congrFun ho' _) (congrFun he' _) fun q' hq' => ?_
      rw [hmem hq']
      exact .inr (.inr (.inr hst))
    · refine hok.congr rfl (ho _ hid) (he _ hid) fun q' hq' => ?_
      rw [hmem hq']
      exact .inr (.inr (.inl (Ne.symm hid)))

/-- The Tx application interface writes back what a close request makes of the state. -/
theorem StateInv.taiWriteBack (h : StateInv v opened est)
    (hv : ViewInv v rxSeen taiSeen rxReps taiReps rxAsked taiAsked) {id : SessionId}
    (hlock : v.txLock = some id) (hpipe : v.txPipe = []) :
    StateInv { v with txPipe := v.txPipe ++ [.wr id (tacCloseState (v.table id))] } opened est := by
  have hback : BackOk v.table opened est (.wr id (tacCloseState (v.table id))) := by
    have hfw2 := h.finWait2 id
    have hsync := h.sync id
    have hopening := h.opening id
    have hunest (hX : isOpening (v.table id) = true) : est id = false := by
      rw [Bool.eq_false_iff]
      intro hest
      obtain ⟨q, hq, hw, rfl⟩ := h.fresh id hX hest
      exact hv.excl _ (hv.rx.lock_of_write hq hw) hlock
    constructor
    all_goals
      simp only [StateQuery.wr]
      cases hX : v.table id <;> simp_all [tacCloseState, tcpStep, isSynchronized, isOpening]
  have hblind : SttView.blind
      { v with txPipe := v.txPipe ++ [.wr id (tacCloseState (v.table id))] } = [] := by
    simp [SttView.blind, hlock, hpipe]
  refine ⟨h.finWait2, h.sync, h.opening, h.fresh, h.rx, fun id' _ q hq _ => ?_, fun q hq => ?_, ?_⟩
  · rw [hpipe] at hq
    obtain rfl := Option.some.inj hq
    exact ⟨hback, fun hX => by simp only [StateQuery.wr] at hX ⊢; rw [hX]; rfl⟩
  · rw [hblind] at hq
    cases hq
  · rw [hblind]
    exact List.nodup_nil

/-- A free session is not about to be opened. -/
lemma SessionFree.ne_of_blind {id : SessionId} (hfree : SessionFree v id)
    (h : StateInv v opened est) {q : StateQuery} (hq : q ∈ v.blind) : q.sessionID ≠ id := by
  have hst := (h.blind q hq).state
  rw [SttView.blind, List.mem_filter] at hq
  obtain ⟨hmem, hw⟩ := hq
  have hpipe : q ∈ v.txPipe := by
    split at hmem
    · exact List.mem_of_mem_tail hmem
    · exact hmem
  intro hid
  rw [hfree.2 q (List.mem_append_right _ hpipe) hw hid] at hst
  cases hst

/-- The history of a free session starts anew. -/
lemma SessionFree.inv (h : StateInv v opened est) {id : SessionId} (hfree : SessionFree v id)
    (b : Bool) :
    StateInv v (Function.update opened id b) (Function.update est id false) := by
  obtain ⟨hclosed, hwrites⟩ := hfree
  have hne {id' : SessionId} (hX : v.table id' ≠ .closed) : id' ≠ id := fun hid => by
    rw [hid] at hX
    exact hX hclosed
  have hback {q : StateQuery} (hq : q ∈ v.rxPipe ++ v.txPipe) (hw : q.write = true)
      (hok : BackOk v.table opened est q) :
      BackOk v.table (Function.update opened id b) (Function.update est id false) q := by
    by_cases hid : q.sessionID = id
    · have hst := hwrites q hq hw hid
      have hsync : isSynchronized q.state = false := by rw [hst]; rfl
      have hopening : isOpening q.state = false := by rw [hst]; rfl
      exact ⟨hok.finWait2, hok.step, by simp [hsync], by simp [hopening]⟩
    · exact hok.congr (Function.update_of_ne hid ..) (Function.update_of_ne hid ..)
  refine ⟨h.finWait2, fun id' hX => ?_, fun id' hX => ?_, fun id' hX hest => ?_,
    fun q hq hw => hback (List.mem_append_left _ hq) hw (h.rx q hq hw),
    fun id' hlock q hq hw => ?_, fun q hq => ?_, h.nodup⟩
  · rw [Function.update_of_ne (hne fun hc => by rw [hc] at hX; cases hX)]
    exact h.sync id' hX
  · rw [Function.update_of_ne (hne fun hc => by rw [hc] at hX; cases hX)]
    exact h.opening id' hX
  · rw [Function.update_of_ne (hne fun hc => by rw [hc] at hX; cases hX)] at hest
    exact h.fresh id' hX hest
  · obtain ⟨hok, hst⟩ := h.tai id' hlock q hq hw
    exact ⟨hback (List.mem_append_right _ (List.mem_of_mem_head? hq)) hw hok, hst⟩
  · have hok := h.blind q hq
    have hid : q.sessionID ≠ id := SessionFree.ne_of_blind ⟨hclosed, hwrites⟩ h hq
    exact hok.congr rfl (Function.update_of_ne hid ..) (Function.update_of_ne hid ..)
      fun q' hq' => .inl hq'

/-- The Tx application interface opens a free session. -/
theorem StateInv.opens (h : StateInv v opened est)
    (hv : ViewInv v rxSeen taiSeen rxReps taiReps rxAsked none) {id : SessionId}
    (hfree : SessionFree v id) :
    StateInv { v with txPipe := v.txPipe ++ [.wr id .synSent] }
      (Function.update opened id true) (Function.update est id false) := by
  have h' := hfree.inv h true
  have hblind : SttView.blind { v with txPipe := v.txPipe ++ [.wr id .synSent] } =
      v.blind ++ [.wr id .synSent] := by
    simp only [SttView.blind]
    split
    · next hlock =>
        obtain ⟨id', hlock⟩ := Option.isSome_iff_exists.mp hlock
        cases hpipe : v.txPipe with
        | nil => exact absurd hpipe (hv.tai.ne_nil_of_lock hlock)
        | cons a as => simp [StateQuery.wr]
    · simp [StateQuery.wr]
  refine ⟨h'.finWait2, h'.sync, h'.opening, h'.fresh, h'.rx, fun id' hlock q hq hw => ?_,
    fun q hq => ?_, ?_⟩
  · have hhead : q ∈ v.txPipe.head? := by
      cases hpipe : v.txPipe with
      | nil => exact absurd hpipe (hv.tai.ne_nil_of_lock hlock)
      | cons a as => simpa [hpipe] using hq
    exact h'.tai id' hlock q hhead hw
  · rw [hblind] at hq
    obtain hq | hq := List.mem_append.mp hq
    · exact (h'.blind q hq).congr rfl rfl rfl fun q' hq' => .inl hq'
    · rw [List.mem_singleton.mp hq]
      exact ⟨rfl, hfree.1, Function.update_self .., Function.update_self ..,
        fun q' hq' hw hid => hfree.2 q' (List.mem_append_left _ hq') hw hid⟩
  · rw [hblind, List.map_append, List.map_singleton, List.nodup_append]
    refine ⟨h.nodup, List.nodup_singleton _, fun a ha b hb => ?_⟩
    obtain ⟨q, hq, rfl⟩ := List.mem_map.mp ha
    rw [List.mem_singleton.mp hb]
    exact hfree.ne_of_blind h hq

end Serve

/-! ### Runs -/

/-- The clients of the state table are the state machine and `pTxAppConnect`; the states and the
history of the sessions are in line; and an open session knows the number that acknowledges its
SYN, once the SYN is sent. -/
structure ConnInv (s : ConnSys) : Prop where
  stt : SttInv s.sys
  fsm : s.sys.rxAsked = s.tx.fsm.map (·.sessionId)
  tac : s.sys.taiAsked =
    if s.tac.fsmState = .closeConn then some s.tac.closeSessionID else none
  state : StateInv s.sys.stt.view s.opened s.est
  syn : ∀ id, s.opened id = true → s.est id = false → ¬s.AwaitsIsn id →
    s.syn id = some (s.tx.initUnak id)

/-- Nothing has been opened, and nothing is under way. -/
structure ConnIdle (s : ConnSys) : Prop where
  sys : s.sys = {}
  fsm : s.tx.fsm = none
  tac : s.tac.fsmState = .idle
  opened : s.opened = fun _ => false
  est : s.est = fun _ => false

lemma ConnIdle.inv {s : ConnSys} (h : ConnIdle s) : ConnInv s where
  stt := h.sys ▸ sttInv_init
  fsm := by rw [h.sys, h.fsm]; rfl
  tac := by rw [h.sys, h.tac]; rfl
  state := by rw [h.sys, h.opened, h.est]; exact stateInv_init
  syn id hop := by rw [h.opened] at hop; cases hop

section Steps

variable {s : ConnSys}

/-- A transition works with the state that its session has, which is locked. -/
lemma ConnInv.reads (h : ConnInv s) {unread : RXeTxSarReply} {m : RXeFsmMeta} {st : TcpState}
    {txSar : RXeTxSarReply} (hr : connReads s unread = some (m, st, txSar)) :
    s.tx.fsm = some m ∧ s.sys.rxReps = [st] ∧ s.sys.rxAsked = some m.sessionId ∧
      s.sys.stt.rxLock = some m.sessionId ∧ s.sys.stt.rxPipe = [] ∧ st = s.state m.sessionId ∧
      ∃ reps, fsmTxSar m s.tx.siFsmTxSarRep unread = some (txSar, reps) := by
  rw [connReads] at hr
  split at hr
  · next m' st' reps hfsm hreps =>
      obtain ⟨⟨txSar', rest⟩, htx, heq⟩ := Option.map_eq_some_iff.mp hr
      simp only [Prod.mk.injEq] at heq
      obtain ⟨rfl, rfl, rfl⟩ := heq
      have hasked : s.sys.rxAsked = some m'.sessionId := by rw [h.fsm, hfsm]; rfl
      have hrx := h.stt.rx
      rw [hreps, hasked] at hrx
      obtain ⟨hlock, hpipe, hnil, hst⟩ := hrx.of_reply
      exact ⟨hfsm, by rw [hreps, hnil], hasked, hlock, hpipe, hst, rest, htx⟩
  · cases hr

/-- A transition is safe where the guard says so. -/
lemma ConnInv.transition_safe (h : ConnInv s) {rxSar : RxSarReply} {unread : RXeTxSarReply}
    {m : RXeFsmMeta} {st : TcpState} {txSar : RXeTxSarReply}
    (hr : connReads s unread = some (m, st, txSar)) (hg : TransitionGuard s rxSar m st txSar) :
    TransitionSafe s rxSar m st txSar := by
  obtain ⟨-, -, -, -, hpipe, hst, -⟩ := h.reads hr
  obtain ⟨hest, hpay, -⟩ := hg
  have hmove := @fsmState_move m st rxSar txSar
  constructor
  · intro hst' hne
    have hopens := hmove
    rw [hst'] at hopens
    have hestab := hopens.established hne
    obtain ⟨hawaits, hunak⟩ := hest hestab
    simp only [fsmEstablishes, decide_eq_true_eq] at hestab
    have hopening : isOpening (s.state m.sessionId) = true := by
      rw [← hst]
      rcases hestab.2 with ⟨rfl, -⟩ | ⟨rfl, -⟩ <;> rfl
    have hunest : s.est m.sessionId = false := by
      rw [Bool.eq_false_iff]
      intro hest
      obtain ⟨q, hq, -⟩ := h.state.fresh _ hopening hest
      change q ∈ s.sys.stt.rxPipe at hq
      rw [hpipe] at hq
      cases hq
    rw [h.syn _ (h.state.opening _ hopening) hunest hawaits, ← hunak, hestab.1]
  · intro hnot
    obtain ⟨n, hn, hlen⟩ := List.any_eq_true.mp hnot
    obtain hsync | ⟨hrec, hack⟩ := fsmTransition_notifies hn (by simpa using hlen)
    · rw [hst] at hsync
      exact .inl (h.state.sync _ hsync)
    · refine .inr ?_
      have hackNumb := hpay hrec hack hnot
      subst hrec
      refine @fsmState_eq _ _ _ _ m.sessionId _ ?_
      simp only [fsmTransition_of_ackOnly _ _ _ hack, stateQry_fsmAck]
      simp [ackAccepted, ackState, hackNumb]

/-- A step that leaves the state table and the history alone. -/
lemma ConnInv.of_tx {tx : TxSystem} (h : ConnInv s) (hfsm : tx.fsm = s.tx.fsm)
    (hisn : ∀ id, s.opened id = true → s.est id = false → ¬s.AwaitsIsn id →
      tx.initUnak id = s.tx.initUnak id)
    (hawaits : ∀ id, s.tx.mdl.AwaitsIsn id → tx.mdl.AwaitsIsn id) :
    ConnInv { s with tx := tx } := by
  refine ⟨h.stt, by rw [h.fsm, hfsm], h.tac, h.state, fun id hop hest hnot => ?_⟩
  have hnot' : ¬s.AwaitsIsn id := fun ha => hnot (ha.imp_right (hawaits id))
  rw [hisn id hop hest hnot']
  exact h.syn id hop hest hnot'

/-- `FSM_LOAD`. -/
lemma ConnInv.load (h : ConnInv s) (m : RXeFsmMeta) : ConnInv (connNext s (.load m)) := by
  simp only [connNext]
  split
  · next hfsm =>
      have hasked : s.sys.rxAsked = none := by rw [h.fsm, hfsm]; rfl
      obtain ⟨hmdl, hqs, htable, -⟩ := fsmCall_frame s.tx (.load m) (.inl ⟨m, rfl⟩)
      have hsys : sttNext s.sys (.rxRead m.sessionId) =
          { s.sys with
            stt := s.sys.stt.askRXe (.rd m.sessionId), rxAsked := some m.sessionId } := by
        simp only [sttNext, hasked]
      refine ⟨h.stt.next _, ?_, ?_, ?_, fun id hop hest hnot => ?_⟩
      · simp only [hsys, txNext, fsmLoadCall, hfsm]
        rfl
      · rw [hsys]
        exact h.tac
      · rw [hsys, view_askRXe]
        exact h.state.rxRead m.sessionId
      · have hnot' : ¬s.AwaitsIsn id := fun ha => hnot (by
          rw [ConnSys.AwaitsIsn, hmdl]
          exact ha)
        rw [TxSystem.initUnak, htable, hqs]
        exact h.syn id hop hest hnot'
  · exact h

/-- `FSM_TRANSITION`. -/
lemma ConnInv.transition (h : ConnInv s) {rxSar : RxSarReply} {unread : RXeTxSarReply}
    {m : RXeFsmMeta} {st : TcpState} {txSar : RXeTxSarReply}
    (hr : connReads s unread = some (m, st, txSar)) (hg : TransitionGuard s rxSar m st txSar) :
    ConnInv (connTransition s rxSar unread m st txSar) := by
  obtain ⟨hfsm, hreps, hasked, hlock, hpipe, hst, reps, htx⟩ := h.reads hr
  obtain ⟨hmdl, hqs, htable, -⟩ := fsmCall_frame s.tx (.transition st rxSar unread)
    (.inr ⟨st, rxSar, unread, rfl⟩)
  have hsys : sttNext s.sys (.rxWriteBack (fsmState m rxSar txSar)) =
      { s.sys with
        stt := s.sys.stt.askRXe (.wr m.sessionId (fsmState m rxSar txSar st))
        rxReps := [], rxAsked := none, rxSeen := st } := by
    simp only [sttNext, hasked, hreps]
  have hmove := @fsmState_move m st rxSar txSar
  refine ⟨h.stt.next _, ?_, ?_, ?_, fun id hop hest hnot => ?_⟩
  · simp only [connTransition, hsys, txNext, fsmTransitionCall, hfsm, htx]
    rfl
  · simp only [connTransition, hsys]
    exact h.tac
  · simp only [connTransition, hsys, view_askRXe]
    rw [hst] at hmove hg ⊢
    exact h.state.transition h.stt hlock hpipe hmove hg.2.2
  · simp only [connTransition] at hop hest hnot ⊢
    rw [TxSystem.initUnak, htable, hqs]
    have hnot' : ¬s.AwaitsIsn id := fun ha => hnot (by
      rw [ConnSys.AwaitsIsn, hmdl]
      refine ha.imp_left fun hsyn => ?_
      obtain ⟨e, he, hrest⟩ := hsyn
      exact ⟨e, List.mem_append_left _ he, hrest⟩)
    by_cases hresets : fsmResets m st = true
    · by_cases hid : id = m.sessionId
      · -- the SYN of the session is still to be sent
        refine absurd (.inl ⟨{ type := .synAck, sessionID := m.sessionId }, ?_, rfl, hid.symm⟩) hnot
        rw [fsmTransition_event_of_resets hresets]
        simp [Event.choosesIsn]
      · rw [if_pos hresets, Function.update_of_ne hid] at hop hest
        rw [if_pos hresets, Function.update_of_ne hid]
        exact h.syn id hop hest hnot'
    · rw [if_neg hresets] at hop hest ⊢
      refine h.syn id hop ?_ hnot'
      split at hest
      · by_cases hid : id = m.sessionId
        · rw [hid, Function.update_self] at hest
          cases hest
        · rwa [Function.update_of_ne hid] at hest
      · exact hest

/-- The number of a session that is not opened by the call. -/
lemma ConnInv.syn_of_opens (h : ConnInv s) {evs : List Event} {id : SessionId}
    (hop : s.opened id = true) (hest : s.est id = false)
    (hnot : ¬ConnSys.AwaitsIsn { s with opens := s.opens ++ evs } id) :
    s.syn id = some (s.tx.initUnak id) :=
  h.syn id hop hest fun ha => hnot
    (ha.imp_left fun ⟨e, he, hrest⟩ => ⟨e, List.mem_append_left _ he, hrest⟩)

/-- A call of `pTxAppConnect`. -/
lemma ConnInv.tacCall (h : ConnInv s) (i : TacIn)
    (hg : ∀ id ∈ tacOpens s.tac i, SessionFree s.sys.stt.view id) : ConnInv (connTac s i) := by
  have hopens : tacOpens s.tac { i with stateRep := s.sys.taiReps.head? } = tacOpens s.tac i := rfl
  simp only [connTac]
  generalize hi : ({ i with stateRep := s.sys.taiReps.head? } : TacIn) = i' at hopens ⊢
  have hcall := pTxAppConnect_call s.tac i'
  generalize pTxAppConnect s.tac i' = r at hcall ⊢
  rw [← hopens] at hg ⊢
  cases hcall with
  | @opens rep _ htakes hhit hout hev hidle hst =>
      have htac : tacOpens s.tac i' = some rep.sessionID := by simp [tacOpens, htakes, hhit]
      have hasked : s.sys.taiAsked = none := by rw [h.tac, hidle]; rfl
      have hsys : r.2.connectStateQry.foldl (tacAsk s.tac) s.sys =
          { s.sys with stt := s.sys.stt.askTAi (.wr rep.sessionID .synSent) } := by
        rw [hout]
        simp [tacAsk, hidle, StateQuery.wr, hasked]
      have hnext : { s.sys with stt := s.sys.stt.askTAi (.wr rep.sessionID .synSent) } =
          sttNext s.sys (.taiWrite rep.sessionID .synSent) := by
        simp only [sttNext, hasked]
      have hstt := h.stt
      rw [SttInv, hasked] at hstt
      rw [htac, hsys]
      refine ⟨hnext ▸ h.stt.next _, h.fsm, ?_, ?_, fun id hop hest hnot => ?_⟩
      · rw [hst]
        exact hasked
      · rw [view_askTAi]
        exact h.state.opens hstt (hg _ (by rw [htac]; rfl))
      · by_cases hid : id = rep.sessionID
        · refine absurd (.inl ⟨{ type := .syn, sessionID := rep.sessionID }, ?_, rfl, hid.symm⟩)
            hnot
          simp [hev, Event.choosesIsn]
        · simp only [Option.elim_some, Function.update_of_ne hid] at hop hest ⊢
          exact h.syn_of_opens hop hest hnot
  | @reads id _ htakes hout hev hidle hst hid =>
      have htac : tacOpens s.tac i' = none := by
        rw [tacOpens]
        split
        · next rep hrep => rw [if_neg (by simp [htakes rep hrep])]
        · rfl
      have hasked : s.sys.taiAsked = none := by rw [h.tac, hidle]; rfl
      have hsys : r.2.connectStateQry.foldl (tacAsk s.tac) s.sys =
          { s.sys with stt := s.sys.stt.askTAi (.rd id), taiAsked := some id } := by
        rw [hout]
        simp [tacAsk, hidle, StateQuery.rd]
      have hnext : { s.sys with stt := s.sys.stt.askTAi (.rd id), taiAsked := some id } =
          sttNext s.sys (.taiRead id) := by
        simp only [sttNext, hasked]
      rw [htac, hsys]
      refine ⟨hnext ▸ h.stt.next _, h.fsm, ?_, ?_, fun id hop hest hnot =>
        h.syn_of_opens hop hest hnot⟩
      · rw [hst, if_pos rfl, hid]
      · rw [view_askTAi]
        exact h.state.taiRead id
  | @writesBack tcpState _ htakes hclose hrep hout hev hst =>
      have htac : tacOpens s.tac i' = none := by simp [tacOpens, htakes]
      have hasked : s.sys.taiAsked = some s.tac.closeSessionID := by rw [h.tac, if_pos hclose]
      rw [← hi] at hrep
      obtain ⟨reps, hreps⟩ : ∃ reps, s.sys.taiReps = tcpState :: reps := by
        cases hr : s.sys.taiReps with
        | nil => rw [hr] at hrep; cases hrep
        | cons a as =>
            rw [hr] at hrep
            exact ⟨as, by rw [Option.some.inj hrep]⟩
      have hsys : r.2.connectStateQry.foldl (tacAsk s.tac) s.sys =
          { s.sys with
            stt := s.sys.stt.askTAi (.wr s.tac.closeSessionID (tacCloseState tcpState))
            taiReps := reps, taiAsked := none, taiSeen := tcpState } := by
        rw [hout]
        simp [tacAsk, hclose, hreps, StateQuery.wr]
      have hnext : { s.sys with
            stt := s.sys.stt.askTAi (.wr s.tac.closeSessionID (tacCloseState tcpState))
            taiReps := reps, taiAsked := none, taiSeen := tcpState } =
          sttNext s.sys (.taiWriteBack tacCloseState) := by
        simp only [sttNext, hasked, hreps]
      have hstt := h.stt
      rw [SttInv, hasked, hreps] at hstt
      obtain ⟨hlock, hpipe, -, rfl⟩ := hstt.tai.of_reply
      rw [htac, hsys]
      refine ⟨hnext ▸ h.stt.next _, h.fsm, ?_, ?_, fun id hop hest hnot =>
        h.syn_of_opens hop hest hnot⟩
      · rw [hst]
        rfl
      · rw [view_askTAi]
        exact h.state.taiWriteBack hstt hlock hpipe
  | other htakes hout hev hclose hid hwait =>
      have htac : tacOpens s.tac i' = none := by
        rw [tacOpens]
        split
        · next rep hrep => rw [if_neg (by simp [htakes rep hrep])]
        · rfl
      rw [htac, hout]
      refine ⟨h.stt, h.fsm, ?_, h.state, fun id hop hest hnot => h.syn_of_opens hop hest hnot⟩
      simp only [hid, hclose]
      exact h.tac

/-- A call of the Tx SAR table. -/
lemma ConnInv.txSarTable (h : ConnInv s) (hg : ConnGuard s .txSarTable) :
    ConnInv (connNext s .txSarTable) := by
  have hkeeps (id : SessionId) (hop : s.opened id = true) (hest : s.est id = false)
      (hnot : ¬s.AwaitsIsn id) : s.tx.KeepsUnak id := by
    intro q hq hw hrt hinit hid
    subst hid
    exact hg q hq hop hest hnot q hq hw hrt hinit rfl
  refine h.of_tx ?_ (fun id hop hest hnot => initUnak_table (hkeeps id hop hest hnot)) ?_
  · rfl
  · exact fun id ha => ha

/-- A call of the loader. -/
lemma ConnInv.loader (h : ConnInv s) : ConnInv (connNext s .loader) := by
  simp only [connNext]
  refine ⟨h.stt, h.fsm, h.tac, h.state, fun id hop hest hnot => ?_⟩
  change (Option.elim _ s.syn _) id = some ((loaderCall s.tx).initUnak id)
  cases hsent : mdlSynSent s.tx.mdl with
  | none =>
      obtain ⟨hunak, hawaits⟩ := @loaderCall_isn s.tx id (.inl hsent)
      rw [hunak]
      exact h.syn id hop hest fun ha => hnot (ha.imp_right hawaits.mpr)
  | some n =>
      by_cases hid : id = s.tx.mdl.sessionID
      · rw [hid, initUnak_of_synSent hsent]
        exact Function.update_self ..
      · obtain ⟨hunak, hawaits⟩ := @loaderCall_isn s.tx id (.inr hid)
        rw [hunak]
        exact (Function.update_of_ne hid ..).trans
          (h.syn id hop hest fun ha => hnot (ha.imp_right hawaits.mpr))

/-- An event that asks for a number arrives at the Tx engine. -/
lemma ConnInv.openEvent (h : ConnInv s) (n : ℕ) (tuple : SocketPair) :
    ConnInv (connNext s (.openEvent n tuple)) := by
  simp only [connNext]
  split
  · next e he =>
      refine ⟨h.stt, h.fsm, h.tac, h.state, fun id hop hest hnot => ?_⟩
      refine h.syn id hop hest fun ha => hnot ?_
      obtain ⟨e', he', hisn, hid⟩ | ⟨e', he', hisn, hid⟩ | hproc := ha
      · by_cases heq : e' = e
        · exact .inr (.inl ⟨⟨e, tuple⟩, by simp [txNext], heq ▸ hisn, heq ▸ hid⟩)
        · refine .inl ⟨e', ?_, hisn, hid⟩
          obtain ⟨k, hk, hget⟩ := List.getElem_of_mem he'
          refine List.mem_eraseIdx_iff_getElem.mpr ⟨k, hk, fun hkn => heq ?_, hget⟩
          subst hkn
          rw [List.getElem?_eq_getElem hk, Option.some.injEq] at he
          rw [← hget, he]
      · exact .inr (.inl ⟨e', by simp [txNext, he'], hisn, hid⟩)
      · exact .inr (.inr hproc)
  · exact h

/-- **A step** that meets the guard keeps the invariant. -/
theorem ConnInv.next (h : ConnInv s) {l : ConnLabel} (hg : ConnGuard s l) :
    ConnInv (connNext s l) := by
  cases l with
  | load m => exact h.load m
  | transition rxSar unread =>
      simp only [connNext]
      split
      · next m st txSar hr => exact h.transition hr (hg _ hr)
      · exact h
  | stateTable =>
      exact ⟨h.stt.next .call, h.fsm, h.tac, (h.state.serve h.stt (stateTable_serve s.sys.stt)).1,
        h.syn⟩
  | txSarTable => exact h.txSarTable hg
  | loader => exact h.loader
  | openEvent n tuple => exact h.openEvent n tuple
  | event e =>
      simp only [connNext]
      split
      · exact h
      · refine h.of_tx rfl (fun _ _ _ _ => rfl) fun id ha => ?_
        exact ha.imp_left fun ⟨e', he', hrest⟩ => ⟨e', List.mem_append_left _ he', hrest⟩
  | rxSarRep rep => exact h.of_tx rfl (fun _ _ _ _ => rfl) fun _ ha => ha
  | push p => exact h.of_tx rfl (fun _ _ _ _ => rfl) fun _ ha => ha
  | tac i => exact h.tacCall i hg
  | opnReq | freePortRep | lookupRep | actSessState | timNotif | clsReq =>
      exact ⟨h.stt, h.fsm, h.tac, h.state, h.syn⟩
  | streamReq id => exact ⟨h.stt.next (.streamReq id), h.fsm, h.tac,
      ⟨h.state.finWait2, h.state.sync, h.state.opening, h.state.fresh, h.state.rx, h.state.tai,
        fun q hq => (h.state.blind q hq).congr rfl rfl rfl fun q' hq' => .inl hq', h.state.nodup⟩,
      h.syn⟩
  | closeCmd id => exact ⟨h.stt.next (.closeCmd id), h.fsm, h.tac,
      ⟨h.state.finWait2, h.state.sync, h.state.opening, h.state.fresh, h.state.rx, h.state.tai,
        fun q hq => (h.state.blind q hq).congr rfl rfl rfl fun q' hq' => .inl hq', h.state.nodup⟩,
      h.syn⟩
  | alloc id =>
      refine ⟨h.stt, h.fsm, h.tac, hg.inv h.state false, fun id' hop hest hnot => ?_⟩
      by_cases hid : id' = id
      · rw [hid] at hop
        simp only [connNext, Function.update_self] at hop
        cases hop
      · simp only [connNext, Function.update_of_ne hid] at hop hest
        exact h.syn id' hop hest hnot

lemma table_tacAsk (tac : TacState) (sys : SttSys) (qs : List StateQuery) :
    (qs.foldl (tacAsk tac) sys).stt.table = sys.stt.table := by
  induction qs generalizing sys with
  | nil => rfl
  | cons q qs ih => exact ih _

lemma table_sttNext_rx (sys : SttSys) (l : SttLabel)
    (hl : (∃ id, l = .rxRead id) ∨ ∃ f, l = .rxWriteBack f) :
    (sttNext sys l).stt.table = sys.stt.table := by
  obtain ⟨id, rfl⟩ | ⟨f, rfl⟩ := hl
  · simp only [sttNext]
    split <;> rfl
  · simp only [sttNext]
    split <;> rfl

/-- The state table is the only one that changes the states. -/
lemma state_connNext {l : ConnLabel} (hl : l ≠ .stateTable) (id : SessionId) :
    (connNext s l).state id = s.state id := by
  cases l with
  | stateTable => exact absurd rfl hl
  | load m =>
      simp only [connNext]
      split
      · exact congrFun (table_sttNext_rx s.sys _ (.inl ⟨_, rfl⟩)) id
      · rfl
  | transition rxSar unread =>
      simp only [connNext]
      split
      · exact congrFun (table_sttNext_rx s.sys _ (.inr ⟨_, rfl⟩)) id
      · rfl
  | openEvent | event =>
      simp only [connNext]
      split <;> rfl
  | tac i => exact congrFun (table_tacAsk ..) id
  | txSarTable | loader | rxSarRep | push | opnReq | freePortRep | lookupRep | actSessState
  | timNotif | clsReq | streamReq | closeCmd | alloc => rfl

/-- **A step** that meets the guard is safe. -/
theorem ConnInv.safe (h : ConnInv s) {l : ConnLabel} (hg : ConnGuard s l) : ConnSafe s l := by
  constructor
  · intro id
    by_cases hl : l = .stateTable
    · subst hl
      exact (h.state.serve h.stt (stateTable_serve s.sys.stt)).2 id
    · rw [state_connNext hl]
      exact tcpStep_self _
  · cases l with
    | transition rxSar unread => exact fun r hr => h.transition_safe hr (hg r hr)
    | _ => trivial

end Steps

/-- **Connection states**: along every run whose steps all meet the guard, from a system in which
nothing has been opened, the state of every session makes transitions of `TcpState` only,
`ESTABLISHED` is entered by a segment that acknowledges the SYN of the session, and payload is
notified for sessions only that have reached it since their id was handed out. -/
theorem connectionState_safe {s : ConnSys} (hs : ConnIdle s) {ls : List ConnLabel}
    (hg : Clocked.Along connNext ConnGuard s ls) : Clocked.Along connNext ConnSafe s ls :=
  Clocked.along_of_inv (fun _ _ h hg => ⟨h.safe hg, h.next hg⟩) hs.inv hg

/-! ### Two unsafe segments -/

/-- After a reset. -/
def connStart : ConnSys where
  tx := { tst := { table := fun _ => {} }, mdl := { curEvent := ⟨rstEvent 0 0, ⟨⟨0, 0⟩, ⟨0, 0⟩⟩⟩ } }

lemma connStart_idle : ConnIdle connStart := ⟨rfl, rfl, rfl, rfl, rfl⟩

/-- A SYN for session 0, up to the write of `SYN_RECEIVED`. -/
def rcvSyn : List ConnLabel :=
  [.load { seqNumb := 500, ackNumb := 0, winSize := 1000, length := 4, syn := true, sessionId := 0 },
    .stateTable, .transition {} {}, .stateTable, .txSarTable]

/-- The SYN+ACK of session 0 is sent, and the Tx SAR table is initialised behind it. -/
def sendSynAck : List ConnLabel :=
  [.openEvent 0 ⟨⟨0, 0⟩, ⟨0, 0⟩⟩, .loader, .txSarTable, .rxSarRep { rcvd := 501 }, .loader,
    .txSarTable]

/-- A segment with ACK for session 0, up to the replies of the tables. -/
def rcvAck (ackNumb : TcpAckNum) (length : TcpSegLen) : List ConnLabel :=
  [.load { seqNumb := 501, ackNumb := ackNumb, winSize := 1000, length := length, ack := true,
           sessionId := 0 },
    .stateTable, .txSarTable]

/-- The session is synchronized with the peer. -/
def rcvdSyn : RxSarReply := { rcvd := 501, oooHead := 501, appd := 501 }

/-- Before the SYN+ACK is sent, an ACK of what the previous connection has sent last opens the
connection; and payload is notified in `SYN_RECEIVED`, whatever the segment acknowledges. -/
theorem connectionState_unsafe :
    ¬Clocked.Along connNext ConnSafe connStart
      (rcvSyn ++ rcvAck 0 0 ++ [.transition rcvdSyn {}]) ∧
    ¬Clocked.Along connNext ConnSafe connStart
      (rcvSyn ++ sendSynAck ++ rcvAck 7 10 ++ [.transition rcvdSyn {}]) := by
  constructor
  · intro h
    have hsafe := ((Clocked.along_append connNext).mp h).2.1.2 _ rfl
    exact absurd (hsafe.1 (by decide) (by decide)) (by decide)
  · intro h
    have hsafe := ((Clocked.along_append connNext).mp h).2.1.2 _ rfl
    exact absurd (hsafe.2 (by decide)) (by decide)

/-- The handshake of a passive opening. -/
theorem connectionState_handshake :
    Clocked.Along connNext ConnSafe connStart
      (rcvSyn ++ sendSynAck ++ rcvAck 100002 10 ++ [.transition rcvdSyn {}]) :=
  connectionState_safe connStart_idle (by decide)

end CloudFpga.Toe
