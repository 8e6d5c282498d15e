import CloudFpga.Foundation.Clocked
import CloudFpga.Toe.Types

/-!
The state table, `state_table` of `state_table.cpp`, with its clients.

The Rx engine and the Tx application interface read the state of a session and write it back, and
the timers close sessions. A read locks the session for its client until the client's next write.
A query that meets the lock of the other client is put aside and served later.

* `stateTable`: a call of the process; `SttServe`: the query that a call serves.
* `SttSys`, `sttNext`: the process with its clients, each of which reads a session and then writes
  it back, or writes without a read.
* `SttInv`: where the locks and the queries are at any time; `SttInv.next`: every step keeps it.
-/

namespace CloudFpga.Toe

open Foundation

/-! ### The process -/

/-- The registers of the process and its input streams. -/
structure SttState where
  table : SessionId → TcpState := fun _ => .closed
  rxWait : Bool := false
  txWait : Bool := false
  rxSessionLocked : Bool := false
  txSessionLocked : Bool := false
  closeWait : Bool := false
  txAccess : StateQuery := .rd 0
  rxAccess : StateQuery := .rd 0
  txSessionID : SessionId := 0
  rxSessionID : SessionId := 0
  closeSessionID : SessionId := 0
  siTAiConnectStateQry : List StateQuery := []
  siTAiStreamStateReq : List SessionId := []
  siRXeSessStateQry : List StateQuery := []
  siTImSessCloseCmd : List SessionId := []

/-- The clients of the table: the Rx engine, the opening and closing of connections and the streams
of the Tx application interface, and the timers. -/
inductive SttClient where
  | rxe | connect | stream | tim
  deriving DecidableEq, Repr

/-- A request that was served. -/
inductive SttEvent where
  | read (c : SttClient) (id : SessionId) (state : TcpState)
  | write (c : SttClient) (id : SessionId) (state : TcpState)
  deriving DecidableEq, Repr

/-- What a call writes on the output streams. The request that it has served is a history
variable. -/
structure SttOut where
  soRXeSessStateRep : List TcpState := []
  soTAiConnectStateRep : List TcpState := []
  soTAiStreamStateRep : List TcpState := []
  soSLcSessReleaseCmd : List SessionId := []
  served : Option SttEvent := none
  deriving DecidableEq

section Process

variable (s : SttState)

/-- The Rx engine has locked the session. -/
def SttState.rxLocks (id : SessionId) : Bool := id = s.rxSessionID ∧ s.rxSessionLocked

/-- The Tx application interface has locked the session. -/
def SttState.txLocks (id : SessionId) : Bool := id = s.txSessionID ∧ s.txSessionLocked

/-- The query of the Tx application interface is served. A session is locked on every read. -/
def sttTxServe : SttState × SttOut :=
  let q := s.txAccess
  if q.write then
    ({ s with table := Function.update s.table q.sessionID q.state, txSessionLocked := false },
      { served := some (.write .connect q.sessionID q.state) })
  else
    ({ s with txSessionID := q.sessionID, txSessionLocked := true },
      { soTAiConnectStateRep := [s.table q.sessionID]
        served := some (.read .connect q.sessionID (s.table q.sessionID)) })

/-- The query of the Rx engine is served. A session that becomes closed is released. -/
def sttRxServe : SttState × SttOut :=
  let q := s.rxAccess
  if q.write then
    ({ s with table := Function.update s.table q.sessionID q.state, rxSessionLocked := false },
      { soSLcSessReleaseCmd := if q.state = .closed then [q.sessionID] else []
        served := some (.write .rxe q.sessionID q.state) })
  else
    ({ s with rxSessionID := q.sessionID, rxSessionLocked := true },
      { soRXeSessStateRep := [s.table q.sessionID]
        served := some (.read .rxe q.sessionID (s.table q.sessionID)) })

/-- The session of the timers is closed. -/
def sttCloseServe : SttState × SttOut :=
  ({ s with table := Function.update s.table s.closeSessionID .closed },
    { soSLcSessReleaseCmd := [s.closeSessionID]
      served := some (.write .tim s.closeSessionID .closed) })

/-- A call without a new request: the requests that were put aside. -/
def sttWaitCall : SttState × SttOut :=
  if s.txWait then
    if ¬s.rxLocks s.txAccess.sessionID then
      ({ (sttTxServe s).1 with txWait := false }, (sttTxServe s).2)
    else (s, {})
  else if s.rxWait then
    if ¬s.txLocks s.rxAccess.sessionID then
      ({ (sttRxServe s).1 with rxWait := false }, (sttRxServe s).2)
    else (s, {})
  else if s.closeWait then
    if ¬s.rxLocks s.closeSessionID ∧ ¬s.txLocks s.closeSessionID then
      ({ (sttCloseServe s).1 with closeWait := false }, (sttCloseServe s).2)
    else (s, {})
  else (s, {})

/-- A request of the Tx application interface is read. -/
def sttTxRead (q : StateQuery) (qs : List StateQuery) : SttState × SttOut :=
  let s := { s with txAccess := q, siTAiConnectStateQry := qs }
  if s.rxLocks q.sessionID then ({ s with txWait := true }, {}) else sttTxServe s

/-- A request of the Rx engine is read. -/
def sttRxRead (q : StateQuery) (qs : List StateQuery) : SttState × SttOut :=
  let s := { s with rxAccess := q, siRXeSessStateQry := qs }
  if s.txLocks q.sessionID then ({ s with rxWait := true }, {}) else sttRxServe s

/-- A command of the timers is read. -/
def sttCloseRead (id : SessionId) (ids : List SessionId) : SttState × SttOut :=
  let s := { s with closeSessionID := id, siTImSessCloseCmd := ids }
  if s.rxLocks id ∨ s.txLocks id then ({ s with closeWait := true }, {}) else sttCloseServe s

/-- One call of `state_table`. -/
def stateTable : SttState × SttOut :=
  match s.siTAiConnectStateQry, s.txWait with
  | q :: qs, false => sttTxRead s q qs
  | _, _ =>
      match s.siTAiStreamStateReq with
      | id :: ids =>
          ({ s with siTAiStreamStateReq := ids },
            { soTAiStreamStateRep := [s.table id]
              served := some (.read .stream id (s.table id)) })
      | [] =>
          match s.siRXeSessStateQry, s.rxWait with
          | q :: qs, false => sttRxRead s q qs
          | _, _ =>
              match s.siTImSessCloseCmd, s.closeWait with
              | id :: ids, false => sttCloseRead s id ids
              | _, _ => sttWaitCall s

end Process

/-! ### The queries in the order in which they are served -/

namespace SttState

variable (s : SttState)

/-- The queries of the Tx application interface, the one that was put aside first. -/
def txPipe : List StateQuery := (if s.txWait then [s.txAccess] else []) ++ s.siTAiConnectStateQry

/-- The queries of the Rx engine, the one that was put aside first. -/
def rxPipe : List StateQuery := (if s.rxWait then [s.rxAccess] else []) ++ s.siRXeSessStateQry

/-- The commands of the timers, the one that was put aside first. -/
def closePipe : List SessionId :=
  (if s.closeWait then [s.closeSessionID] else []) ++ s.siTImSessCloseCmd

/-- The session that the Tx application interface has locked. -/
def txLock : Option SessionId := if s.txSessionLocked then some s.txSessionID else none

/-- The session that the Rx engine has locked. -/
def rxLock : Option SessionId := if s.rxSessionLocked then some s.rxSessionID else none

variable {s} {id : SessionId}

lemma rxLocks_iff : s.rxLocks id = true ↔ s.rxLock = some id := by
  rw [rxLocks, rxLock]
  cases s.rxSessionLocked <;> simp [eq_comm]

lemma txLocks_iff : s.txLocks id = true ↔ s.txLock = some id := by
  rw [txLocks, txLock]
  cases s.txSessionLocked <;> simp [eq_comm]

end SttState

/-- The table, the locks and the queries. -/
structure SttView where
  table : SessionId → TcpState
  txLock : Option SessionId
  rxLock : Option SessionId
  txPipe : List StateQuery
  rxPipe : List StateQuery
  streams : List SessionId
  closes : List SessionId

def SttState.view (s : SttState) : SttView where
  table := s.table
  txLock := s.txLock
  rxLock := s.rxLock
  txPipe := s.txPipe
  rxPipe := s.rxPipe
  streams := s.siTAiStreamStateReq
  closes := s.closePipe

/-- What a call does: it serves the first query of one of its clients, which no other client
blocks, or it changes nothing of the view. -/
inductive SttServe (v : SttView) : SttView → SttOut → Prop
  | txWrite {q : StateQuery} {qs : List StateQuery} (hp : v.txPipe = q :: qs)
      (hw : q.write = true) (hfree : v.rxLock ≠ some q.sessionID) :
      SttServe v { v with
        table := Function.update v.table q.sessionID q.state, txLock := none, txPipe := qs }
        { served := some (.write .connect q.sessionID q.state) }
  | txRead {q : StateQuery} {qs : List StateQuery} (hp : v.txPipe = q :: qs)
      (hw : q.write = false) (hfree : v.rxLock ≠ some q.sessionID) :
      SttServe v { v with txLock := some q.sessionID, txPipe := qs }
        { soTAiConnectStateRep := [v.table q.sessionID]
          served := some (.read .connect q.sessionID (v.table q.sessionID)) }
  | stream {id : SessionId} {ids : List SessionId} (hp : v.streams = id :: ids) :
      SttServe v { v with streams := ids }
        { soTAiStreamStateRep := [v.table id]
          served := some (.read .stream id (v.table id)) }
  | rxWrite {q : StateQuery} {qs : List StateQuery} (hp : v.rxPipe = q :: qs)
      (hw : q.write = true) (hfree : v.txLock ≠ some q.sessionID) :
      SttServe v { v with
        table := Function.update v.table q.sessionID q.state, rxLock := none, rxPipe := qs }
        { soSLcSessReleaseCmd := if q.state = .closed then [q.sessionID] else []
          served := some (.write .rxe q.sessionID q.state) }
  | rxRead {q : StateQuery} {qs : List StateQuery} (hp : v.rxPipe = q :: qs)
      (hw : q.write = false) (hfree : v.txLock ≠ some q.sessionID) :
      SttServe v { v with rxLock := some q.sessionID, rxPipe := qs }
        { soRXeSessStateRep := [v.table q.sessionID]
          served := some (.read .rxe q.sessionID (v.table q.sessionID)) }
  | close {id : SessionId} {ids : List SessionId} (hp : v.closes = id :: ids)
      (hrx : v.rxLock ≠ some id) (htx : v.txLock ≠ some id) :
      SttServe v { v with table := Function.update v.table id .closed, closes := ids }
        { soSLcSessReleaseCmd := [id]
          served := some (.write .tim id .closed) }
  | stay : SttServe v v {}

section Serve

variable {s : SttState}

lemma rxLock_ne {id : SessionId} (h : s.rxLocks id = false) : s.rxLock ≠ some id := by
  intro hlock
  rw [SttState.rxLocks_iff.mpr hlock] at h
  cases h

lemma txLock_ne {id : SessionId} (h : s.txLocks id = false) : s.txLock ≠ some id := by
  intro hlock
  rw [SttState.txLocks_iff.mpr hlock] at h
  cases h

/-- The query in `txAccess` is served, and no query is put aside any more. -/
lemma sttTxServe_serve {t : SttState} (hfree : s.rxLocks s.txAccess.sessionID = false)
    (ht : t.view = { (sttTxServe s).1.view with txPipe := s.siTAiConnectStateQry }) :
    SttServe { s.view with txPipe := s.txAccess :: s.siTAiConnectStateQry } t.view
      (sttTxServe s).2 := by
  rw [ht, sttTxServe]
  cases hw : s.txAccess.write with
  | true => exact .txWrite rfl hw (rxLock_ne hfree)
  | false => exact .txRead rfl hw (rxLock_ne hfree)

/-- The query in `rxAccess` is served, and no query is put aside any more. -/
lemma sttRxServe_serve {t : SttState} (hfree : s.txLocks s.rxAccess.sessionID = false)
    (ht : t.view = { (sttRxServe s).1.view with rxPipe := s.siRXeSessStateQry }) :
    SttServe { s.view with rxPipe := s.rxAccess :: s.siRXeSessStateQry } t.view
      (sttRxServe s).2 := by
  rw [ht, sttRxServe]
  cases hw : s.rxAccess.write with
  | true => exact .rxWrite rfl hw (txLock_ne hfree)
  | false => exact .rxRead rfl hw (txLock_ne hfree)

/-- The session in `closeSessionID` is closed, and no command is put aside any more. -/
lemma sttCloseServe_serve {t : SttState} (hrx : s.rxLocks s.closeSessionID = false)
    (htx : s.txLocks s.closeSessionID = false)
    (ht : t.view = { (sttCloseServe s).1.view with closes := s.siTImSessCloseCmd }) :
    SttServe { s.view with closes := s.closeSessionID :: s.siTImSessCloseCmd } t.view
      (sttCloseServe s).2 := by
  rw [ht]
  exact .close rfl (rxLock_ne hrx) (txLock_ne htx)

lemma txPipe_eq_of_not_wait (h : s.txWait = false) : s.txPipe = s.siTAiConnectStateQry := by
  simp [SttState.txPipe, h]

lemma rxPipe_eq_of_not_wait (h : s.rxWait = false) : s.rxPipe = s.siRXeSessStateQry := by
  simp [SttState.rxPipe, h]

lemma closePipe_eq_of_not_wait (h : s.closeWait = false) :
    s.closePipe = s.siTImSessCloseCmd := by
  simp [SttState.closePipe, h]

lemma sttTxRead_serve {q : StateQuery} {qs : List StateQuery}
    (hq : s.siTAiConnectStateQry = q :: qs) (hwait : s.txWait = false) :
    SttServe s.view (sttTxRead s q qs).1.view (sttTxRead s q qs).2 := by
  have hview : s.view = { s.view with txPipe := q :: qs } := by
    rw [← hq, ← txPipe_eq_of_not_wait hwait]
    rfl
  rw [hview, sttTxRead]
  split
  · exact .stay
  · next hfree =>
      refine @sttTxServe_serve { s with txAccess := q, siTAiConnectStateQry := qs } _
        (by simpa using hfree) ?_
      have hwait' : (sttTxServe { s with txAccess := q, siTAiConnectStateQry := qs }).1.txWait =
          false := by
        rw [sttTxServe]
        split <;> exact hwait
      have hqs : (sttTxServe { s with txAccess := q, siTAiConnectStateQry := qs }).1.txPipe =
          qs := by
        rw [txPipe_eq_of_not_wait hwait', sttTxServe]
        split <;> rfl
      conv_lhs => rw [SttState.view, hqs]
      rfl

lemma sttRxRead_serve {q : StateQuery} {qs : List StateQuery}
    (hq : s.siRXeSessStateQry = q :: qs) (hwait : s.rxWait = false) :
    SttServe s.view (sttRxRead s q qs).1.view (sttRxRead s q qs).2 := by
  have hview : s.view = { s.view with rxPipe := q :: qs } := by
    rw [← hq, ← rxPipe_eq_of_not_wait hwait]
    rfl
  rw [hview, sttRxRead]
  split
  · exact .stay
  · next hfree =>
      refine @sttRxServe_serve { s with rxAccess := q, siRXeSessStateQry := qs } _
        (by simpa using hfree) ?_
      have hwait' : (sttRxServe { s with rxAccess := q, siRXeSessStateQry := qs }).1.rxWait =
          false := by
        rw [sttRxServe]
        split <;> exact hwait
      have hqs : (sttRxServe { s with rxAccess := q, siRXeSessStateQry := qs }).1.rxPipe = qs := by
        rw [rxPipe_eq_of_not_wait hwait', sttRxServe]
        split <;> rfl
      conv_lhs => rw [SttState.view, hqs]
      rfl

lemma sttCloseRead_serve {id : SessionId} {ids : List SessionId}
    (hq : s.siTImSessCloseCmd = id :: ids) (hwait : s.closeWait = false) :
    SttServe s.view (sttCloseRead s id ids).1.view (sttCloseRead s id ids).2 := by
  have hview : s.view = { s.view with closes := id :: ids } := by
    rw [← hq, ← closePipe_eq_of_not_wait hwait]
    rfl
  rw [hview, sttCloseRead]
  split
  · exact .stay
  · next hfree =>
      have hfree' : s.rxLocks id = false ∧ s.txLocks id = false := by
        simpa [not_or, SttState.rxLocks, SttState.txLocks] using hfree
      refine @sttCloseServe_serve { s with closeSessionID := id, siTImSessCloseCmd := ids } _
        hfree'.1 hfree'.2 ?_
      have hids : (sttCloseServe { s with
          closeSessionID := id, siTImSessCloseCmd := ids }).1.closePipe = ids :=
        closePipe_eq_of_not_wait hwait
      conv_lhs => rw [SttState.view, hids]
      rfl

lemma sttWaitCall_serve : SttServe s.view (sttWaitCall s).1.view (sttWaitCall s).2 := by
  rw [sttWaitCall]
  split
  · next hwait =>
      split
      · next hfree =>
          have hview : s.view = { s.view with txPipe := s.txAccess :: s.siTAiConnectStateQry } := by
            simp [SttState.view, SttState.txPipe, hwait]
          rw [hview]
          refine sttTxServe_serve (by simpa using hfree) ?_
          rw [sttTxServe]
          split <;> rfl
      · exact .stay
  · split
    · next hwait =>
        split
        · next hfree =>
            have hview : s.view = { s.view with rxPipe := s.rxAccess :: s.siRXeSessStateQry } := by
              simp [SttState.view, SttState.rxPipe, hwait]
            rw [hview]
            refine sttRxServe_serve (by simpa using hfree) ?_
            rw [sttRxServe]
            split <;> rfl
        · exact .stay
    · split
      · next hwait =>
          split
          · next hfree =>
              have hview : s.view =
                  { s.view with closes := s.closeSessionID :: s.siTImSessCloseCmd } := by
                simp [SttState.view, SttState.closePipe, hwait]
              rw [hview]
              exact sttCloseServe_serve (by simpa using hfree.1) (by simpa using hfree.2) rfl
          · exact .stay
      · exact .stay

/-- **A call of the state table** serves the first query of a client. -/
theorem stateTable_serve (s : SttState) :
    SttServe s.view (stateTable s).1.view (stateTable s).2 := by
  rw [stateTable]
  split
  · next hq hwait => exact sttTxRead_serve hq hwait
  · split
    · next hq => exact .stream hq
    · split
      · next hq hwait => exact sttRxRead_serve hq hwait
      · split
        · next hq hwait => exact sttCloseRead_serve hq hwait
        · exact sttWaitCall_serve

end Serve

/-! ### The clients -/

/-- The table with its clients: the replies that wait for them, and for the Rx engine and the Tx
application interface the session whose state they have asked for and not yet written back. The
last state that each of them has read is a history variable. -/
structure SttSys where
  stt : SttState := {}
  rxReps : List TcpState := []
  taiReps : List TcpState := []
  streamReps : List TcpState := []
  releases : List SessionId := []
  rxAsked : Option SessionId := none
  taiAsked : Option SessionId := none
  rxSeen : TcpState := .closed
  taiSeen : TcpState := .closed

/-- Who takes the next step. -/
inductive SttLabel where
  /-- the Rx engine asks for the state of a session -/
  | rxRead (id : SessionId)
  /-- the Rx engine reads the reply and writes a state back -/
  | rxWriteBack (f : TcpState → TcpState)
  /-- the Tx application interface asks for the state of a session -/
  | taiRead (id : SessionId)
  /-- the Tx application interface reads the reply and writes a state back -/
  | taiWriteBack (f : TcpState → TcpState)
  /-- the Tx application interface writes a state that it has not read -/
  | taiWrite (id : SessionId) (state : TcpState)
  /-- a stream of the application asks for the state of its session -/
  | streamReq (id : SessionId)
  /-- the timers close a session -/
  | closeCmd (id : SessionId)
  /-- `state_table` -/
  | call

namespace SttState

/-- More queries of the Rx engine. -/
def askRXe (s : SttState) (q : StateQuery) : SttState :=
  { s with siRXeSessStateQry := s.siRXeSessStateQry ++ [q] }

/-- More queries of the Tx application interface. -/
def askTAi (s : SttState) (q : StateQuery) : SttState :=
  { s with siTAiConnectStateQry := s.siTAiConnectStateQry ++ [q] }

end SttState

def sttNext (s : SttSys) : SttLabel → SttSys
  | .rxRead id =>
      match s.rxAsked with
      | none => { s with stt := s.stt.askRXe (.rd id), rxAsked := some id }
      | some _ => s
  | .rxWriteBack f =>
      match s.rxAsked, s.rxReps with
      | some id, st :: reps =>
          { s with
            stt := s.stt.askRXe (.wr id (f st)), rxReps := reps, rxAsked := none, rxSeen := st }
      | _, _ => s
  | .taiRead id =>
      match s.taiAsked with
      | none => { s with stt := s.stt.askTAi (.rd id), taiAsked := some id }
      | some _ => s
  | .taiWriteBack f =>
      match s.taiAsked, s.taiReps with
      | some id, st :: reps =>
          { s with
            stt := s.stt.askTAi (.wr id (f st)), taiReps := reps, taiAsked := none, taiSeen := st }
      | _, _ => s
  | .taiWrite id state =>
      match s.taiAsked with
      | none => { s with stt := s.stt.askTAi (.wr id state) }
      | some _ => s
  | .streamReq id =>
      { s with stt := { s.stt with siTAiStreamStateReq := s.stt.siTAiStreamStateReq ++ [id] } }
  | .closeCmd id =>
      { s with stt := { s.stt with siTImSessCloseCmd := s.stt.siTImSessCloseCmd ++ [id] } }
  | .call =>
      let r := stateTable s.stt
      { s with
        stt := r.1
        rxReps := s.rxReps ++ r.2.soRXeSessStateRep
        taiReps := s.taiReps ++ r.2.soTAiConnectStateRep
        streamReps := s.streamReps ++ r.2.soTAiStreamStateRep
        releases := s.releases ++ r.2.soSLcSessReleaseCmd }

/-! ### The locks -/

/-- The write-back that a client has sent for the session that it has locked: the session still
has the state that the client has read. -/
inductive WriteBack (table : SessionId → TcpState) (seen : TcpState) :
    Option SessionId → List StateQuery → Prop
  | none : WriteBack table seen none []
  | sent {id : SessionId} {st : TcpState} (h : table id = seen) :
      WriteBack table seen (some id) [.wr id st]

/-- Where the queries of a client are. `blind` tells whether it writes without a read. -/
inductive ClientShape (table : SessionId → TcpState) (seen : TcpState) (blind : Prop) :
    Option SessionId → List StateQuery → List TcpState → Option SessionId → Prop
  /-- it has sent writes only -/
  | writes {lock : Option SessionId} {back ws : List StateQuery}
      (hb : WriteBack table seen lock back) (hws : ∀ q ∈ ws, q.write = true ∧ blind) :
      ClientShape table seen blind lock (back ++ ws) [] none
  /-- it has asked for the state of a session behind its writes -/
  | asks {lock : Option SessionId} {back ws : List StateQuery} {id : SessionId}
      (hb : WriteBack table seen lock back) (hws : ∀ q ∈ ws, q.write = true ∧ blind) :
      ClientShape table seen blind lock (back ++ ws ++ [.rd id]) [] (some id)
  /-- its session is locked, and the reply has the state of it -/
  | answered {id : SessionId} :
      ClientShape table seen blind (some id) [] [table id] (some id)

section Client

variable {table table' : SessionId → TcpState} {seen : TcpState} {blind : Prop}
  {lock asked : Option SessionId} {pipe : List StateQuery} {reps : List TcpState}

lemma WriteBack.congr {back : List StateQuery} (h : WriteBack table seen lock back)
    (ht : ∀ id, lock = some id → table' id = table id) : WriteBack table' seen lock back := by
  cases h with
  | none => exact .none
  | sent h => exact .sent ((ht _ rfl).trans h)

/-- What other clients do to other sessions. -/
lemma ClientShape.congr (h : ClientShape table seen blind lock pipe reps asked)
    (ht : ∀ id, lock = some id → table' id = table id) :
    ClientShape table' seen blind lock pipe reps asked := by
  cases h with
  | writes hb hws => exact .writes (hb.congr ht) hws
  | asks hb hws => exact .asks (hb.congr ht) hws
  | answered =>
      rw [← ht _ rfl]
      exact .answered

/-- The first query of a client that waits to be served. -/
inductive ClientHead (table : SessionId → TcpState) (seen : TcpState) (blind : Prop) :
    Option SessionId → StateQuery → Prop
  | writeBack {q : StateQuery} (hw : q.write = true) (h : table q.sessionID = seen) :
      ClientHead table seen blind (some q.sessionID) q
  | write {q : StateQuery} (hw : q.write = true) (h : blind) : ClientHead table seen blind none q
  | read {q : StateQuery} (hw : q.write = false) : ClientHead table seen blind none q

lemma ClientShape.head {q : StateQuery} {qs : List StateQuery}
    (h : ClientShape table seen blind lock (q :: qs) reps asked) :
    ClientHead table seen blind lock q := by
  generalize hp : q :: qs = pipe at h
  cases h with
  | answered => cases hp
  | writes hb hws =>
      cases hb with
      | sent h =>
          obtain ⟨rfl, -⟩ := List.cons.inj hp
          exact @ClientHead.writeBack _ _ _ (.wr _ _) rfl h
      | none =>
          have hq := hws q (by rw [List.nil_append] at hp; simp [← hp])
          exact .write hq.1 hq.2
  | @asks _ _ ws id hb hws =>
      cases hb with
      | sent h =>
          obtain ⟨rfl, -⟩ := List.cons.inj hp
          exact @ClientHead.writeBack _ _ _ (.wr _ _) rfl h
      | none =>
          cases ws with
          | nil =>
              obtain ⟨rfl, -⟩ := List.cons.inj hp
              exact .read rfl
          | cons w ws =>
              obtain ⟨rfl, -⟩ := List.cons.inj hp
              have hq := hws q List.mem_cons_self
              exact .write hq.1 hq.2

/-- A write of the client is served, which releases its lock. -/
lemma ClientShape.serveWrite {q : StateQuery} {qs : List StateQuery}
    (h : ClientShape table seen blind lock (q :: qs) reps asked) (hw : q.write = true) :
    ClientShape table' seen blind none qs reps asked := by
  generalize hp : q :: qs = pipe at h
  cases h with
  | answered => cases hp
  | @writes _ _ ws hb hws =>
      cases hb with
      | sent h =>
          obtain ⟨rfl, rfl⟩ := List.cons.inj hp
          exact .writes .none hws
      | none =>
          cases ws with
          | nil => cases hp
          | cons w ws =>
              obtain ⟨rfl, rfl⟩ := List.cons.inj hp
              exact .writes .none fun x hx => hws x (List.mem_cons_of_mem _ hx)
  | @asks _ _ ws id hb hws =>
      cases hb with
      | sent h =>
          obtain ⟨rfl, rfl⟩ := List.cons.inj hp
          exact .asks .none hws
      | none =>
          cases ws with
          | nil =>
              obtain ⟨rfl, rfl⟩ := List.cons.inj hp
              cases hw
          | cons w ws =>
              obtain ⟨rfl, rfl⟩ := List.cons.inj hp
              exact .asks .none fun x hx => hws x (List.mem_cons_of_mem _ hx)

/-- The read of the client is served, which locks the session. -/
lemma ClientShape.serveRead {q : StateQuery} {qs : List StateQuery}
    (h : ClientShape table seen blind lock (q :: qs) reps asked) (hw : q.write = false) :
    ClientShape table seen blind (some q.sessionID) qs (reps ++ [table q.sessionID]) asked := by
  generalize hp : q :: qs = pipe at h
  cases h with
  | answered => cases hp
  | writes hb hws =>
      cases hb with
      | sent h =>
          obtain ⟨rfl, -⟩ := List.cons.inj hp
          cases hw
      | none =>
          have hq := hws q (by rw [List.nil_append] at hp; simp [← hp])
          rw [hq.1] at hw
          cases hw
  | @asks _ _ ws id hb hws =>
      cases hb with
      | sent h =>
          obtain ⟨rfl, -⟩ := List.cons.inj hp
          cases hw
      | none =>
          cases ws with
          | nil =>
              obtain ⟨rfl, rfl⟩ := List.cons.inj hp
              exact .answered
          | cons w ws =>
              obtain ⟨rfl, -⟩ := List.cons.inj hp
              rw [(hws q List.mem_cons_self).1] at hw
              cases hw

/-- The client asks for a state. -/
lemma ClientShape.ask (h : ClientShape table seen blind lock pipe reps none) (id : SessionId) :
    ClientShape table seen blind lock (pipe ++ [.rd id]) reps (some id) := by
  generalize ha : (none : Option SessionId) = asked at h
  cases h with
  | writes hb hws => exact .asks hb hws
  | asks => cases ha
  | answered => cases ha

/-- The client writes a state that it has not read. -/
lemma ClientShape.writeBlind (h : ClientShape table seen blind lock pipe reps none) (hb : blind)
    (id : SessionId) (st : TcpState) :
    ClientShape table seen blind lock (pipe ++ [.wr id st]) reps none := by
  generalize ha : (none : Option SessionId) = asked at h
  cases h with
  | asks => cases ha
  | answered => cases ha
  | writes hback hws =>
      rw [List.append_assoc]
      refine .writes hback fun q hq => ?_
      obtain hq | hq := List.mem_append.mp hq
      · exact hws q hq
      · rw [List.mem_singleton.mp hq]
        exact ⟨rfl, hb⟩

/-- A reply that a client may read: nothing else is in flight, and the session is locked. -/
lemma ClientShape.of_reply {id : SessionId} {st : TcpState}
    (h : ClientShape table seen blind lock pipe (st :: reps) (some id)) :
    lock = some id ∧ pipe = [] ∧ reps = [] ∧ st = table id := by
  generalize hr : st :: reps = reps' at h
  generalize ha : some id = asked at h
  cases h with
  | writes => cases hr
  | asks => cases hr
  | answered =>
      obtain ⟨rfl, rfl⟩ := List.cons.inj hr
      obtain rfl := Option.some.inj ha
      exact ⟨rfl, rfl, rfl, rfl⟩

/-- The client reads the reply and writes back. -/
lemma ClientShape.writeBack {id : SessionId} {st st' : TcpState}
    (h : ClientShape table seen blind lock pipe (st :: reps) (some id)) :
    ClientShape table st blind lock (pipe ++ [.wr id st']) reps none := by
  obtain ⟨rfl, rfl, rfl, rfl⟩ := h.of_reply
  exact @ClientShape.writes table _ blind _ _ [] (.sent rfl) (by simp)

end Client

/-- The locks and the queries of both clients: no session is locked by both. -/
structure ViewInv (v : SttView) (rxSeen taiSeen : TcpState) (rxReps taiReps : List TcpState)
    (rxAsked taiAsked : Option SessionId) : Prop where
  rx : ClientShape v.table rxSeen False v.rxLock v.rxPipe rxReps rxAsked
  tai : ClientShape v.table taiSeen True v.txLock v.txPipe taiReps taiAsked
  excl : ∀ id, v.rxLock = some id → v.txLock ≠ some id

def SttInv (s : SttSys) : Prop :=
  ViewInv s.stt.view s.rxSeen s.taiSeen s.rxReps s.taiReps s.rxAsked s.taiAsked

lemma sttInv_init : SttInv {} where
  rx := @ClientShape.writes _ _ _ _ [] [] .none (by simp)
  tai := @ClientShape.writes _ _ _ _ [] [] .none (by simp)
  excl _ h := by cases h

section Steps

variable {v v' : SttView} {out : SttOut} {rxSeen taiSeen : TcpState}
  {rxReps taiReps : List TcpState} {rxAsked taiAsked : Option SessionId}

/-- The write of a client is to a session that the other one has not locked. -/
lemma update_eq_of_lock {table : SessionId → TcpState} {id id' : SessionId} {st : TcpState}
    {lock : Option SessionId} (h : lock ≠ some id) (hlock : lock = some id') :
    Function.update table id st id' = table id' := by
  refine Function.update_of_ne (fun heq => ?_) ..
  rw [hlock, heq] at h
  exact h rfl

/-- Serving a query keeps the locks in order. -/
lemma ViewInv.serve (h : ViewInv v rxSeen taiSeen rxReps taiReps rxAsked taiAsked)
    (hs : SttServe v v' out) :
    ViewInv v' rxSeen taiSeen (rxReps ++ out.soRXeSessStateRep)
      (taiReps ++ out.soTAiConnectStateRep) rxAsked taiAsked := by
  obtain ⟨hrx, htai, hexcl⟩ := h
  cases hs with
  | txWrite hp hw hfree =>
      rw [hp] at htai
      simp only [List.append_nil]
      exact ⟨hrx.congr fun _ hlock => update_eq_of_lock hfree hlock, htai.serveWrite hw,
        fun _ _ hnone => by cases hnone⟩
  | @txRead q qs hp hw hfree =>
      rw [hp] at htai
      simp only [List.append_nil]
      refine ⟨hrx, htai.serveRead hw, fun id hlock heq => ?_⟩
      rw [hlock, Option.some.inj heq] at hfree
      exact hfree rfl
  | stream hp =>
      simp only [List.append_nil]
      exact ⟨hrx, htai, hexcl⟩
  | rxWrite hp hw hfree =>
      rw [hp] at hrx
      simp only [List.append_nil]
      exact ⟨hrx.serveWrite hw, htai.congr fun _ hlock => update_eq_of_lock hfree hlock,
        fun _ hnone => by cases hnone⟩
  | @rxRead q qs hp hw hfree =>
      rw [hp] at hrx
      simp only [List.append_nil]
      refine ⟨hrx.serveRead hw, htai, fun id hlock heq => ?_⟩
      rw [← Option.some.inj hlock] at heq
      exact hfree heq
  | close hp hrxl htxl =>
      simp only [List.append_nil]
      exact ⟨hrx.congr fun _ hlock => update_eq_of_lock hrxl hlock,
        htai.congr fun _ hlock => update_eq_of_lock htxl hlock, hexcl⟩
  | stay =>
      simp only [List.append_nil]
      exact ⟨hrx, htai, hexcl⟩

lemma view_askTAi (s : SttState) (q : StateQuery) :
    (s.askTAi q).view = { s.view with txPipe := s.txPipe ++ [q] } := by
  have hpipe : (s.askTAi q).txPipe = s.txPipe ++ [q] := by
    rw [SttState.txPipe, SttState.txPipe, List.append_assoc]
    rfl
  conv_lhs => rw [SttState.view, hpipe]
  rfl

lemma view_askRXe (s : SttState) (q : StateQuery) :
    (s.askRXe q).view = { s.view with rxPipe := s.rxPipe ++ [q] } := by
  have hpipe : (s.askRXe q).rxPipe = s.rxPipe ++ [q] := by
    rw [SttState.rxPipe, SttState.rxPipe, List.append_assoc]
    rfl
  conv_lhs => rw [SttState.view, hpipe]
  rfl

/-- **Every step** keeps the locks in order. -/
theorem SttInv.next {s : SttSys} (h : SttInv s) (l : SttLabel) : SttInv (sttNext s l) := by
  cases l with
  | rxRead id =>
      simp only [sttNext]
      split
      · next hasked =>
          rw [SttInv, hasked] at h
          rw [SttInv, view_askRXe]
          exact ⟨h.rx.ask id, h.tai, h.excl⟩
      · exact h
  | rxWriteBack f =>
      simp only [sttNext]
      split
      · next hasked hreps =>
          rw [SttInv, hasked, hreps] at h
          rw [SttInv, view_askRXe]
          exact ⟨h.rx.writeBack, h.tai, h.excl⟩
      · exact h
  | taiRead id =>
      simp only [sttNext]
      split
      · next hasked =>
          rw [SttInv, hasked] at h
          rw [SttInv, view_askTAi]
          exact ⟨h.rx, h.tai.ask id, h.excl⟩
      · exact h
  | taiWriteBack f =>
      simp only [sttNext]
      split
      · next hasked hreps =>
          rw [SttInv, hasked, hreps] at h
          rw [SttInv, view_askTAi]
          exact ⟨h.rx, h.tai.writeBack, h.excl⟩
      · exact h
  | taiWrite id st =>
      simp only [sttNext]
      split
      · next hasked =>
          rw [SttInv, hasked] at h
          rw [SttInv, view_askTAi, hasked]
          exact ⟨h.rx, h.tai.writeBlind trivial id st, h.excl⟩
      · exact h
  | streamReq id => exact ⟨h.rx, h.tai, h.excl⟩
  | closeCmd id => exact ⟨h.rx, h.tai, h.excl⟩
  | call => exact ViewInv.serve h (stateTable_serve s.stt)

end Steps

end CloudFpga.Toe
