import CloudFpga.Toe.StateTable

/-!
The locks of the state table: `state_table` makes the read of a state and the write-back of it
atomic.

* `SttTrace`, `traceNext`: the table with its clients, and the history of their requests.
* `AtomicStep`: what every step does with a session that is being read; `ServedInOrder`: the requests are
  served in their order, and each of them once.
* `WaitInv`: a client whose request was put aside has no lock; `stateTable_moves`: a call serves a
  request, or puts one aside.
* `stateTable_atomic`: every run is atomic and in order, and it can be drained.
-/

namespace CloudFpga.Toe

open Foundation

/-! ### The history of the requests -/

/-- A session, and the state to write to it. -/
abbrev SttRequest := SessionId × Option TcpState

def StateQuery.request (q : StateQuery) : SttRequest :=
  (q.sessionID, if q.write then some q.state else none)

namespace SttEvent

def client : SttEvent → SttClient
  | .read c _ _ | .write c _ _ => c

def request : SttEvent → SttRequest
  | .read _ id _ => (id, none)
  | .write _ id state => (id, some state)

/-- The reply to a request. -/
def reply : SttEvent → Option TcpState
  | .read _ _ state => some state
  | .write .. => none

end SttEvent

/-- The requests of a client that were not served yet. -/
def SttView.pending (v : SttView) : SttClient → List SttRequest
  | .rxe => v.rxPipe.map (·.request)
  | .connect => v.txPipe.map (·.request)
  | .stream => v.streams.map (·, none)
  | .tim => v.closes.map (·, some .closed)

/-- The session that a client has locked. -/
def SttView.lock (v : SttView) : SttClient → Option SessionId
  | .rxe => v.rxLock
  | .connect => v.txLock
  | .stream | .tim => none

/-- The replies to a client. -/
def SttOut.replies (o : SttOut) : SttClient → List TcpState
  | .rxe => o.soRXeSessStateRep
  | .connect => o.soTAiConnectStateRep
  | .stream => o.soTAiStreamStateRep
  | .tim => []

/-- The request that a step sends. -/
def sttSent (s : SttSys) : SttLabel → Option (SttClient × SttRequest)
  | .rxRead id => if s.rxAsked = none then some (.rxe, id, none) else none
  | .rxWriteBack f =>
      match s.rxAsked, s.rxReps with
      | some id, st :: _ => some (.rxe, id, some (f st))
      | _, _ => none
  | .taiRead id => if s.taiAsked = none then some (.connect, id, none) else none
  | .taiWriteBack f =>
      match s.taiAsked, s.taiReps with
      | some id, st :: _ => some (.connect, id, some (f st))
      | _, _ => none
  | .taiWrite id state => if s.taiAsked = none then some (.connect, id, some state) else none
  | .streamReq id => some (.stream, id, none)
  | .closeCmd id => some (.tim, id, some .closed)
  | .call => none

/-- What the process writes in a step. -/
def sttOut (s : SttSys) : SttLabel → SttOut
  | .call => (stateTable s.stt).2
  | _ => {}

/-- A client that writes back what it has read. -/
def SttClient.writesBack (c : SttClient) : Bool := c = .rxe ∨ c = .connect

/-- The session that a client has read and not written back yet. -/
def readingAfter (reading : SttClient → Option SessionId) :
    Option SttEvent → SttClient → Option SessionId
  | some (.read c id _) => if c.writesBack then Function.update reading c (some id) else reading
  | some (.write c _ _) => Function.update reading c none
  | none => reading

/-- The table and its clients, and for each client the requests that it has sent, those that were
served, the replies, and the session that it has read and not written back. -/
structure SttTrace where
  sys : SttSys := {}
  sent : SttClient → List SttRequest := fun _ => []
  served : SttClient → List SttEvent := fun _ => []
  replies : SttClient → List TcpState := fun _ => []
  reading : SttClient → Option SessionId := fun _ => none

def traceNext (s : SttTrace) (l : SttLabel) : SttTrace where
  sys := sttNext s.sys l
  sent c := s.sent c ++ ((sttSent s.sys l).toList.filter (·.1 = c)).map (·.2)
  served c := s.served c ++ (sttOut s.sys l).served.toList.filter (·.client = c)
  replies c := s.replies c ++ (sttOut s.sys l).replies c
  reading := readingAfter s.reading (sttOut s.sys l).served

/-- What a step does with the states. Between the read of a session and the write-back of it, no
other client changes its state; a client writes back to the session that it has read; and a read
gives the state of its session. -/
structure AtomicStep (s : SttTrace) (l : SttLabel) : Prop where
  exclusive : ∀ c id, s.reading c = some id →
    (traceNext s l).sys.stt.table id ≠ s.sys.stt.table id →
    ∃ st, (sttOut s.sys l).served = some (.write c id st)
  writeBack : ∀ c id id' st, s.reading c = some id →
    (sttOut s.sys l).served = some (.write c id' st) → id' = id
  read : ∀ c id st, (sttOut s.sys l).served = some (.read c id st) → st = s.sys.stt.table id

/-- The requests of every client are served in their order, each of them once, and so are the
replies to its reads. -/
structure ServedInOrder (s : SttTrace) : Prop where
  served : ∀ c, s.sent c = (s.served c).map (·.request) ++ s.sys.stt.view.pending c
  replies : ∀ c, s.replies c = (s.served c).filterMap (·.reply)

/-- The clients take their replies and write back, and the process is called. -/
def sttRound (s : SttSys) (r : (TcpState → TcpState) × (TcpState → TcpState)) : SttSys :=
  Clocked.run sttNext s [.rxWriteBack r.1, .taiWriteBack r.2, .call]

/-- Nothing waits, neither for the process nor for its clients. -/
def SttSys.Drained (s : SttSys) : Prop :=
  (∀ c, s.stt.view.pending c = []) ∧ s.rxReps = [] ∧ s.taiReps = []

/-! ### What is read, and the order of the requests -/

section Serve

variable {v v' : SttView} {out : SttOut}

/-- The request that is served is the first one of its client. -/
lemma SttServe.pending (h : SttServe v v' out) (c : SttClient) :
    v.pending c = (out.served.toList.filter (·.client = c)).map (·.request) ++ v'.pending c := by
  cases h with
  | txWrite hp hw => cases c <;> simp [SttView.pending, SttEvent.client, SttEvent.request,
      StateQuery.request, hp, hw]
  | txRead hp hw => cases c <;> simp [SttView.pending, SttEvent.client, SttEvent.request,
      StateQuery.request, hp, hw]
  | rxWrite hp hw => cases c <;> simp [SttView.pending, SttEvent.client, SttEvent.request,
      StateQuery.request, hp, hw]
  | rxRead hp hw => cases c <;> simp [SttView.pending, SttEvent.client, SttEvent.request,
      StateQuery.request, hp, hw]
  | stream hp => cases c <;> simp [SttView.pending, SttEvent.client, SttEvent.request, hp]
  | close hp => cases c <;> simp [SttView.pending, SttEvent.client, SttEvent.request, hp]
  | stay => rfl

/-- The replies of a call are those to the request that is served. -/
lemma SttServe.replies (h : SttServe v v' out) (c : SttClient) :
    out.replies c = (out.served.toList.filter (·.client = c)).filterMap (·.reply) := by
  cases h with
  | txWrite | txRead | rxWrite | rxRead | stream | close =>
      cases c <;> simp [SttOut.replies, SttEvent.client, SttEvent.reply]
  | stay => cases c <;> rfl

/-- A state changes only by a write that is served. -/
lemma SttServe.changed (h : SttServe v v' out) {id : SessionId} (hne : v'.table id ≠ v.table id) :
    ∃ c st, out.served = some (.write c id st) := by
  have hupdate {q : SessionId} {st : TcpState} (hne : Function.update v.table q st id ≠ v.table id) :
      id = q := by
    by_contra hq
    exact hne (Function.update_of_ne hq ..)
  cases h with
  | txWrite | rxWrite | close =>
      rw [hupdate hne]
      exact ⟨_, _, rfl⟩
  | txRead | rxRead | stream | stay => exact absurd rfl hne

/-- A read gives the state of its session. -/
lemma SttServe.read (h : SttServe v v' out) {c : SttClient} {id : SessionId} {st : TcpState}
    (hr : out.served = some (.read c id st)) : st = v.table id := by
  cases h with
  | txRead | rxRead | stream =>
      cases hr
      rfl
  | txWrite | rxWrite | close | stay => cases hr

/-- A client has locked the session that it has read and not written back. -/
lemma SttServe.lock (h : SttServe v v' out) : v'.lock = readingAfter v.lock out.served := by
  funext c
  cases h with
  | txWrite | txRead | rxWrite | rxRead | stream | close =>
      cases c <;> simp [SttView.lock, readingAfter, SttClient.writesBack]
  | stay => rfl

/-- The state of a session that a client has locked is changed by this client. -/
lemma SttServe.exclusive (h : SttServe v v' out) {c : SttClient} {id : SessionId}
    (hlock : v.lock c = some id) (hne : v'.table id ≠ v.table id) :
    ∃ st, out.served = some (.write c id st) := by
  obtain ⟨c', st, hserved⟩ := h.changed hne
  suffices hc : c' = c from ⟨st, by rw [hserved, hc]⟩
  cases h with
  | txRead | rxRead | stream | stay => cases hserved
  | txWrite hp hw hfree =>
      cases hserved
      cases c with
      | rxe => exact absurd hlock hfree
      | connect => rfl
      | stream | tim => cases hlock
  | rxWrite hp hw hfree =>
      cases hserved
      cases c with
      | rxe => rfl
      | connect => exact absurd hlock hfree
      | stream | tim => cases hlock
  | close hp hrx htx =>
      cases hserved
      cases c with
      | rxe => exact absurd hlock hrx
      | connect => exact absurd hlock htx
      | stream | tim => cases hlock

end Serve

/-- The first query of a client that has locked a session is the write-back of it. -/
lemma ClientHead.of_lock {table : SessionId → TcpState} {seen : TcpState} {blind : Prop}
    {q : StateQuery} {id : SessionId} (h : ClientHead table seen blind (some id) q) :
    q.write = true ∧ q.sessionID = id := by
  generalize hlock : some id = lock at h
  cases h with
  | writeBack hw => exact ⟨hw, (Option.some.inj hlock).symm⟩
  | write | read => cases hlock

section Locks

variable {v v' : SttView} {out : SttOut} {rxSeen taiSeen : TcpState}
  {rxReps taiReps : List TcpState} {rxAsked taiAsked : Option SessionId}

/-- A client that has locked a session writes to it. -/
lemma ViewInv.writeBack (hv : ViewInv v rxSeen taiSeen rxReps taiReps rxAsked taiAsked)
    (h : SttServe v v' out) {c : SttClient} {id id' : SessionId} {st : TcpState}
    (hlock : v.lock c = some id) (hserved : out.served = some (.write c id' st)) : id' = id := by
  cases h with
  | txRead | rxRead | stream | stay => cases hserved
  | txWrite hp =>
      cases hserved
      have htai := hv.tai
      rw [hp, show v.txLock = some id from hlock] at htai
      exact htai.head.of_lock.2
  | rxWrite hp =>
      cases hserved
      have hrx := hv.rx
      rw [hp, show v.rxLock = some id from hlock] at hrx
      exact hrx.head.of_lock.2
  | close =>
      cases hserved
      cases hlock

end Locks

/-! ### Every run is atomic -/

/-- The locks are those of the clients that read, and the requests are in order. -/
structure TraceInv (s : SttTrace) : Prop where
  locks : SttInv s.sys
  reading : s.reading = s.sys.stt.view.lock
  order : ServedInOrder s

lemma traceInv_init : TraceInv {} where
  locks := sttInv_init
  reading := by
    funext c
    cases c <;> rfl
  order := ⟨fun c => by cases c <;> rfl, fun _ => rfl⟩

/-- A request is sent: it waits behind the others, and the table and the locks stay. -/
structure Sends (v v' : SttView) (sent : Option (SttClient × SttRequest)) : Prop where
  table : v'.table = v.table
  lock : v'.lock = v.lock
  pending : ∀ c,
    v'.pending c = v.pending c ++ (sent.toList.filter (·.1 = c)).map (·.2)

lemma sends_none (v : SttView) : Sends v v none := ⟨rfl, rfl, fun _ => by simp⟩

lemma sends_askRXe (s : SttState) (q : StateQuery) :
    Sends s.view (s.askRXe q).view (some (.rxe, q.request)) := by
  rw [view_askRXe]
  refine ⟨rfl, ?_, fun c => ?_⟩
  · funext c
    cases c <;> rfl
  · cases c <;> simp [SttView.pending, SttState.view]

lemma sends_askTAi (s : SttState) (q : StateQuery) :
    Sends s.view (s.askTAi q).view (some (.connect, q.request)) := by
  rw [view_askTAi]
  refine ⟨rfl, ?_, fun c => ?_⟩
  · funext c
    cases c <;> rfl
  · cases c <;> simp [SttView.pending, SttState.view]

lemma sends_streamReq (s : SttState) (id : SessionId) :
    Sends s.view { s with siTAiStreamStateReq := s.siTAiStreamStateReq ++ [id] }.view
      (some (.stream, id, none)) := by
  refine ⟨rfl, rfl, fun c => ?_⟩
  cases c <;> simp [SttView.pending, SttState.view] <;> rfl

lemma sends_closeCmd (s : SttState) (id : SessionId) :
    Sends s.view { s with siTImSessCloseCmd := s.siTImSessCloseCmd ++ [id] }.view
      (some (.tim, id, some .closed)) := by
  have hpipe : { s with siTImSessCloseCmd := s.siTImSessCloseCmd ++ [id] }.closePipe =
      s.closePipe ++ [id] := by
    rw [SttState.closePipe, SttState.closePipe, List.append_assoc]
  have hview : { s with siTImSessCloseCmd := s.siTImSessCloseCmd ++ [id] }.view =
      { s.view with closes := s.closePipe ++ [id] } := by
    conv_lhs => rw [SttState.view, hpipe]
    rfl
  rw [hview]
  refine ⟨rfl, ?_, fun c => ?_⟩
  · funext c
    cases c <;> rfl
  · cases c <;> simp [SttView.pending, SttState.view]

/-- What a step does that is no call. -/
lemma sttNext_sends (s : SttSys) {l : SttLabel} (hl : l ≠ .call) :
    Sends s.stt.view (sttNext s l).stt.view (sttSent s l) := by
  cases l with
  | rxRead id =>
      cases hasked : s.rxAsked with
      | none =>
          simp only [sttNext, sttSent, hasked, if_true]
          exact sends_askRXe s.stt _
      | some _ =>
          simp only [sttNext, sttSent, hasked, reduceCtorEq, if_false]
          exact sends_none _
  | rxWriteBack f =>
      cases hasked : s.rxAsked with
      | none =>
          simp only [sttNext, sttSent, hasked]
          exact sends_none _
      | some id =>
          cases hreps : s.rxReps with
          | nil =>
              simp only [sttNext, sttSent, hasked, hreps]
              exact sends_none _
          | cons st reps =>
              simp only [sttNext, sttSent, hasked, hreps]
              exact sends_askRXe s.stt (.wr id (f st))
  | taiRead id =>
      cases hasked : s.taiAsked with
      | none =>
          simp only [sttNext, sttSent, hasked, if_true]
          exact sends_askTAi s.stt _
      | some _ =>
          simp only [sttNext, sttSent, hasked, reduceCtorEq, if_false]
          exact sends_none _
  | taiWriteBack f =>
      cases hasked : s.taiAsked with
      | none =>
          simp only [sttNext, sttSent, hasked]
          exact sends_none _
      | some id =>
          cases hreps : s.taiReps with
          | nil =>
              simp only [sttNext, sttSent, hasked, hreps]
              exact sends_none _
          | cons st reps =>
              simp only [sttNext, sttSent, hasked, hreps]
              exact sends_askTAi s.stt (.wr id (f st))
  | taiWrite id state =>
      cases hasked : s.taiAsked with
      | none =>
          simp only [sttNext, sttSent, hasked, if_true]
          exact sends_askTAi s.stt _
      | some _ =>
          simp only [sttNext, sttSent, hasked, reduceCtorEq, if_false]
          exact sends_none _
  | streamReq id => exact sends_streamReq s.stt id
  | closeCmd id => exact sends_closeCmd s.stt id
  | call => exact absurd rfl hl

lemma sttOut_of_ne_call (s : SttSys) {l : SttLabel} (hl : l ≠ .call) : sttOut s l = {} := by
  cases l with
  | call => exact absurd rfl hl
  | rxRead | rxWriteBack | taiRead | taiWriteBack | taiWrite | streamReq | closeCmd => rfl

/-- **Every step** is atomic, and keeps the order of the requests. -/
theorem TraceInv.next {s : SttTrace} (h : TraceInv s) (l : SttLabel) :
    AtomicStep s l ∧ TraceInv (traceNext s l) := by
  by_cases hl : l = .call
  · rw [hl]
    have hserve := stateTable_serve s.sys.stt
    refine ⟨⟨fun c id hr hne => ?_, fun c id id' st hr hserved => ?_, fun c id st hserved => ?_⟩,
      h.locks.next .call, ?_, fun c => ?_, fun c => ?_⟩
    · rw [h.reading] at hr
      exact hserve.exclusive hr hne
    · rw [h.reading] at hr
      exact ViewInv.writeBack h.locks hserve hr hserved
    · exact hserve.read hserved
    · exact (congrArg (readingAfter · (stateTable s.sys.stt).2.served) h.reading).trans
        hserve.lock.symm
    · have hpending := h.order.served c
      rw [hserve.pending c, ← List.append_assoc, ← List.map_append] at hpending
      simp only [traceNext, sttSent, Option.toList_none, List.filter_nil, List.map_nil,
        List.append_nil]
      exact hpending
    · have hreplies := h.order.replies c
      simp only [traceNext, sttOut, hreplies, hserve.replies c, List.filterMap_append]
  · have hsends := sttNext_sends s.sys hl
    have hout := sttOut_of_ne_call s.sys hl
    refine ⟨⟨fun c id _ hne => ?_, fun c id id' st _ hserved => ?_, fun c id st hserved => ?_⟩,
      h.locks.next l, ?_, fun c => ?_, fun c => ?_⟩
    · exact absurd (congrFun hsends.table id) hne
    · rw [hout] at hserved
      cases hserved
    · rw [hout] at hserved
      cases hserved
    · simp only [traceNext, hout, readingAfter, h.reading]
      exact hsends.lock.symm
    · simp only [traceNext, hout, Option.toList_none, List.filter_nil, List.append_nil,
        h.order.served c, List.append_assoc]
      rw [hsends.pending c]
    · have hnil : ({} : SttOut).replies c = [] := by cases c <;> rfl
      simp only [traceNext, hout, Option.toList_none, List.filter_nil, List.append_nil,
        h.order.replies c, hnil]

/-! ### No request waits for ever -/

/-- What is left to do for a query: to serve it and, for a read, to serve the write-back of it. -/
def StateQuery.work (q : StateQuery) : ℕ := if q.write then 1 else 2

/-- What is left to do for the requests that were sent. -/
def SttView.work (v : SttView) : ℕ :=
  (v.rxPipe.map (·.work)).sum + (v.txPipe.map (·.work)).sum + v.streams.length + v.closes.length

/-- What is left to do, the write-backs of the sessions that were read included. -/
def SttSys.work (s : SttSys) : ℕ := s.stt.view.work + s.rxReps.length + s.taiReps.length

/-- How many requests were put aside. -/
def SttState.waits (s : SttState) : ℕ := s.rxWait.toNat + s.txWait.toNat + s.closeWait.toNat

/-- A client whose request was put aside has no lock. -/
structure WaitInv (s : SttState) : Prop where
  rx : s.rxWait = true → s.rxLock = none
  tx : s.txWait = true → s.txLock = none

/-- A call serves a request, which is less to do. -/
lemma SttServe.work {v v' : SttView} {out : SttOut} (h : SttServe v v' out)
    (hserved : out.served ≠ none) :
    v'.work + out.soRXeSessStateRep.length + out.soTAiConnectStateRep.length + 1 = v.work := by
  cases h with
  | txWrite hp hw | txRead hp hw | rxWrite hp hw | rxRead hp hw =>
      simp only [SttView.work, hp, List.map_cons, List.sum_cons, StateQuery.work, hw]
      simp
      omega
  | stream hp | close hp =>
      simp only [SttView.work, hp, List.length_cons, List.length_nil]
      omega
  | stay => exact absurd rfl hserved

/-- What a call does: it serves a request, or it puts one aside, or it has nothing to do. -/
structure SttMoves (s : SttState) (idle : Prop) (r : SttState × SttOut) : Prop where
  inv : WaitInv r.1
  moves : r.2.served ≠ none ∨ (r.1.view = s.view ∧ r.2 = {} ∧ r.1.waits = s.waits + 1) ∨ idle

section Moves

variable {s : SttState} {idle : Prop} {rxSeen taiSeen : TcpState}
  {rxReps taiReps : List TcpState} {rxAsked taiAsked : Option SessionId}

lemma sttTxServe_served (s : SttState) : (sttTxServe s).2.served ≠ none := by
  rw [sttTxServe]
  split <;> simp

lemma sttRxServe_served (s : SttState) : (sttRxServe s).2.served ≠ none := by
  rw [sttRxServe]
  split <;> simp

/-- A query of the Tx application interface is served, and none of it is put aside. -/
lemma WaitInv.txServe (hrx : s.rxWait = true → s.rxLock = none) (hwait : s.txWait = false) :
    WaitInv (sttTxServe s).1 := by
  rw [sttTxServe]
  split <;> exact ⟨hrx, fun h => absurd (hwait.symm.trans h) (by simp)⟩

/-- A query of the Rx engine is served, and none of it is put aside. -/
lemma WaitInv.rxServe (htx : s.txWait = true → s.txLock = none) (hwait : s.rxWait = false) :
    WaitInv (sttRxServe s).1 := by
  rw [sttRxServe]
  split <;> exact ⟨fun h => absurd (hwait.symm.trans h) (by simp), htx⟩

/-- A client that is blocked by the other one has no lock. -/
lemma lock_none_of_blocked {table : SessionId → TcpState} {seen : TcpState} {blind : Prop}
    {lock asked : Option SessionId} {reps : List TcpState} {q : StateQuery} {qs : List StateQuery}
    (h : ClientShape table seen blind lock (q :: qs) reps asked)
    (hblocked : lock ≠ some q.sessionID) : lock = none := by
  cases hlock : lock with
  | none => rfl
  | some id =>
      rw [hlock] at h hblocked
      exact absurd (congrArg some h.head.of_lock.2.symm) hblocked

lemma sttTxRead_moves (hv : ViewInv s.view rxSeen taiSeen rxReps taiReps rxAsked taiAsked)
    (hw : WaitInv s) {q : StateQuery} {qs : List StateQuery}
    (hq : s.siTAiConnectStateQry = q :: qs) (hwait : s.txWait = false) :
    SttMoves s idle (sttTxRead s q qs) := by
  have hpipe : s.txPipe = q :: qs := (txPipe_eq_of_not_wait hwait).trans hq
  rw [sttTxRead]
  split
  · next hblocked =>
      have hlock := SttState.rxLocks_iff.mp hblocked
      have htai := hv.tai
      rw [show s.view.txPipe = q :: qs from hpipe] at htai
      have hnone := lock_none_of_blocked htai (hv.excl _ hlock)
      refine ⟨⟨hw.rx, fun _ => hnone⟩, .inr (.inl ⟨?_, rfl, ?_⟩)⟩
      · simp only [SttState.view, hpipe]
        rfl
      · simp only [SttState.waits, hwait]
        simp
        omega
  · exact ⟨WaitInv.txServe hw.rx hwait, .inl (sttTxServe_served _)⟩

lemma sttRxRead_moves (hv : ViewInv s.view rxSeen taiSeen rxReps taiReps rxAsked taiAsked)
    (hw : WaitInv s) {q : StateQuery} {qs : List StateQuery}
    (hq : s.siRXeSessStateQry = q :: qs) (hwait : s.rxWait = false) :
    SttMoves s idle (sttRxRead s q qs) := by
  have hpipe : s.rxPipe = q :: qs := (rxPipe_eq_of_not_wait hwait).trans hq
  rw [sttRxRead]
  split
  · next hblocked =>
      have hlock := SttState.txLocks_iff.mp hblocked
      have hrx := hv.rx
      rw [show s.view.rxPipe = q :: qs from hpipe] at hrx
      have hnone := lock_none_of_blocked hrx fun h => hv.excl _ h hlock
      refine ⟨⟨fun _ => hnone, hw.tx⟩, .inr (.inl ⟨?_, rfl, ?_⟩)⟩
      · simp only [SttState.view, hpipe]
        rfl
      · simp only [SttState.waits, hwait]
        simp
        omega
  · exact ⟨WaitInv.rxServe hw.tx hwait, .inl (sttRxServe_served _)⟩

lemma sttCloseRead_moves (hw : WaitInv s) {id : SessionId} {ids : List SessionId}
    (hq : s.siTImSessCloseCmd = id :: ids) (hwait : s.closeWait = false) :
    SttMoves s idle (sttCloseRead s id ids) := by
  have hpipe : s.closePipe = id :: ids := (closePipe_eq_of_not_wait hwait).trans hq
  rw [sttCloseRead]
  split
  · refine ⟨⟨hw.rx, hw.tx⟩, .inr (.inl ⟨?_, rfl, ?_⟩)⟩
    · simp only [SttState.view, hpipe]
      rfl
    · simp only [SttState.waits, hwait]
      simp
  · exact ⟨⟨hw.rx, hw.tx⟩, .inl (by simp [sttCloseServe])⟩

/-- With a session locked and no reply waiting, a client has sent the write-back, and it is put
aside or waits to be read. -/
lemma ClientShape.ne_nil {table : SessionId → TcpState} {seen : TcpState} {blind : Prop}
    {asked : Option SessionId} {id : SessionId} {pipe : List StateQuery}
    (h : ClientShape table seen blind (some id) pipe [] asked) : pipe ≠ [] := by
  generalize hlock : some id = lock at h
  generalize hreps : ([] : List TcpState) = reps at h
  cases h with
  | writes hb | asks hb =>
      cases hb with
      | none => cases hlock
      | sent => simp
  | answered => cases hreps

/-- Without a request that can be read, the requests that were put aside are served: a client that
blocks one has its write-back put aside, and then it has no lock. -/
lemma sttWaitCall_moves (hv : ViewInv s.view rxSeen taiSeen rxReps taiReps rxAsked taiAsked)
    (hw : WaitInv s) (hstream : s.siTAiStreamStateReq = [])
    (htx : s.txWait = false → s.siTAiConnectStateQry = [])
    (hrx : s.rxWait = false → s.siRXeSessStateQry = [])
    (hclose : s.closeWait = false → s.siTImSessCloseCmd = []) :
    SttMoves s (rxReps = [] → taiReps = [] → s.view.work = 0) (sttWaitCall s) := by
  have htxPipe (h : s.txWait = false) : s.txPipe = [] := (txPipe_eq_of_not_wait h).trans (htx h)
  have hrxPipe (h : s.rxWait = false) : s.rxPipe = [] := (rxPipe_eq_of_not_wait h).trans (hrx h)
  have hrxFree {id : SessionId} (hreps : rxReps = []) : s.rxLock ≠ some id := by
    intro hlock
    cases hwait : s.rxWait with
    | true => exact absurd ((hw.rx hwait).symm.trans hlock) (by simp)
    | false =>
        have hshape := hv.rx
        rw [hreps, show s.view.rxLock = some id from hlock] at hshape
        exact hshape.ne_nil (hrxPipe hwait)
  have htxFree {id : SessionId} (hreps : taiReps = []) : s.txLock ≠ some id := by
    intro hlock
    cases hwait : s.txWait with
    | true => exact absurd ((hw.tx hwait).symm.trans hlock) (by simp)
    | false =>
        have hshape := hv.tai
        rw [hreps, show s.view.txLock = some id from hlock] at hshape
        exact hshape.ne_nil (htxPipe hwait)
  rw [sttWaitCall]
  split
  · split
    · refine ⟨⟨?_, fun h => by cases h⟩, .inl (sttTxServe_served s)⟩
      rw [sttTxServe]
      split <;> exact hw.rx
    · next hblocked =>
        have hlock := SttState.rxLocks_iff.mp (not_not.mp hblocked)
        exact ⟨hw, .inr (.inr fun hreps _ => absurd hlock (hrxFree hreps))⟩
  · next htxWait =>
      split
      · split
        · refine ⟨⟨(fun h => by cases h), ?_⟩, .inl (sttRxServe_served s)⟩
          rw [sttRxServe]
          split <;> exact hw.tx
        · next hblocked =>
            have hlock := SttState.txLocks_iff.mp (not_not.mp hblocked)
            exact ⟨hw, .inr (.inr fun _ hreps => absurd hlock (htxFree hreps))⟩
      · next hrxWait =>
          split
          · split
            · exact ⟨⟨hw.rx, hw.tx⟩, .inl (by simp [sttCloseServe])⟩
            · next hblocked =>
                refine ⟨hw, .inr (.inr fun hrxReps htaiReps => ?_)⟩
                refine absurd ⟨fun h => ?_, fun h => ?_⟩ hblocked
                · exact hrxFree hrxReps (SttState.rxLocks_iff.mp h)
                · exact htxFree htaiReps (SttState.txLocks_iff.mp h)
          · next hcloseWait =>
              refine ⟨hw, .inr (.inr fun _ _ => ?_)⟩
              have hclosePipe : s.closePipe = [] :=
                (closePipe_eq_of_not_wait (by simpa using hcloseWait)).trans
                  (hclose (by simpa using hcloseWait))
              simp only [SttView.work, SttState.view, hrxPipe (by simpa using hrxWait),
                htxPipe (by simpa using htxWait), hclosePipe, hstream]
              rfl

lemma nil_of_not_cons {α : Type*} {l : List α} (h : ∀ a as, l = a :: as → False) : l = [] := by
  cases l with
  | nil => rfl
  | cons a as => exact (h a as rfl).elim

/-- **A call** serves a request or puts one aside, unless there is none, or a client has a reply to
take. -/
theorem stateTable_moves (hv : ViewInv s.view rxSeen taiSeen rxReps taiReps rxAsked taiAsked)
    (hw : WaitInv s) :
    SttMoves s (rxReps = [] → taiReps = [] → s.view.work = 0) (stateTable s) := by
  rw [stateTable]
  split
  · next hq hwait => exact sttTxRead_moves hv hw hq hwait
  · next htx =>
      split
      · next hq => exact ⟨⟨hw.rx, hw.tx⟩, .inl (by simp)⟩
      · next hstream =>
          split
          · next hq hwait => exact sttRxRead_moves hv hw hq hwait
          · next hrx =>
              split
              · next hq hwait => exact sttCloseRead_moves hw hq hwait
              · next hclose =>
                  refine sttWaitCall_moves hv hw hstream (fun h => ?_) (fun h => ?_) fun h => ?_
                  · exact nil_of_not_cons fun q qs hq => htx q qs hq h
                  · exact nil_of_not_cons fun q qs hq => hrx q qs hq h
                  · exact nil_of_not_cons fun q qs hq => hclose q qs hq h

end Moves

/-! ### Draining -/

/-- A client whose request was put aside has no lock, whatever the clients do. -/
lemma WaitInv.next {s : SttSys} (hv : SttInv s) (hw : WaitInv s.stt) (l : SttLabel) :
    WaitInv (sttNext s l).stt := by
  cases l with
  | rxRead | taiRead | taiWrite | rxWriteBack | taiWriteBack =>
      simp only [sttNext]
      split <;> exact ⟨hw.rx, hw.tx⟩
  | streamReq | closeCmd => exact ⟨hw.rx, hw.tx⟩
  | call => exact (stateTable_moves hv hw).inv

lemma work_askRXe (s : SttState) (q : StateQuery) :
    (s.askRXe q).view.work = s.view.work + q.work := by
  rw [view_askRXe, SttView.work, SttView.work]
  simp only [SttState.view, List.map_append, List.sum_append, List.map_singleton,
    List.sum_singleton]
  omega

lemma work_askTAi (s : SttState) (q : StateQuery) :
    (s.askTAi q).view.work = s.view.work + q.work := by
  rw [view_askTAi, SttView.work, SttView.work]
  simp only [SttState.view, List.map_append, List.sum_append, List.map_singleton,
    List.sum_singleton]
  omega

/-- A client that waits for a reply has asked for a state. -/
lemma ClientShape.asked_of_reply {table : SessionId → TcpState} {seen st : TcpState} {blind : Prop}
    {lock : Option SessionId} {pipe : List StateQuery} {reps : List TcpState}
    (h : ClientShape table seen blind lock pipe (st :: reps) none) : False := by
  generalize hreps : st :: reps = reps' at h
  generalize hasked : (none : Option SessionId) = asked at h
  cases h with
  | writes | asks => cases hreps
  | answered => cases hasked

/-- The Rx engine writes back: that is as much to do as the reply was, and no reply is left. -/
lemma rxWriteBack_work {s : SttSys} (hv : SttInv s) (f : TcpState → TcpState) :
    (sttNext s (.rxWriteBack f)).work = s.work ∧ (sttNext s (.rxWriteBack f)).rxReps = [] := by
  have hrx := hv.rx
  cases hreps : s.rxReps with
  | nil =>
      have hs : sttNext s (.rxWriteBack f) = s := by
        simp only [sttNext, hreps]
        cases s.rxAsked <;> rfl
      rw [hs]
      exact ⟨rfl, hreps⟩
  | cons st reps =>
      rw [hreps] at hrx
      cases hasked : s.rxAsked with
      | none =>
          rw [hasked] at hrx
          exact hrx.asked_of_reply.elim
      | some id =>
          rw [hasked] at hrx
          simp only [sttNext, hreps, hasked, SttSys.work, work_askRXe]
          refine ⟨?_, hrx.of_reply.2.2.1⟩
          simp only [List.length_cons, StateQuery.work, StateQuery.wr, if_true]
          omega

/-- The Tx application interface writes back. -/
lemma taiWriteBack_work {s : SttSys} (hv : SttInv s) (f : TcpState → TcpState) :
    (sttNext s (.taiWriteBack f)).work = s.work ∧ (sttNext s (.taiWriteBack f)).taiReps = [] ∧
      (sttNext s (.taiWriteBack f)).rxReps = s.rxReps := by
  have htai := hv.tai
  cases hreps : s.taiReps with
  | nil =>
      have hs : sttNext s (.taiWriteBack f) = s := by
        simp only [sttNext, hreps]
        cases s.taiAsked <;> rfl
      rw [hs]
      exact ⟨rfl, hreps, rfl⟩
  | cons st reps =>
      rw [hreps] at htai
      cases hasked : s.taiAsked with
      | none =>
          rw [hasked] at htai
          exact htai.asked_of_reply.elim
      | some id =>
          rw [hasked] at htai
          simp only [sttNext, hreps, hasked, SttSys.work, work_askTAi]
          refine ⟨?_, htai.of_reply.2.2.1, trivial⟩
          simp only [List.length_cons, StateQuery.work, StateQuery.wr, if_true]
          omega

lemma SttServe.work_le {v v' : SttView} {out : SttOut} (h : SttServe v v' out) :
    v'.work + out.soRXeSessStateRep.length + out.soTAiConnectStateRep.length ≤ v.work := by
  cases hserved : out.served with
  | some e =>
      have hwork := h.work (by rw [hserved]; simp)
      omega
  | none =>
      cases h with
      | txWrite | txRead | rxWrite | rxRead | stream | close => cases hserved
      | stay => rfl

/-- A request that was put aside is still to do. -/
lemma waits_le_work (s : SttState) : s.waits ≤ s.view.work := by
  have hrx : s.rxWait.toNat ≤ (s.rxPipe.map (·.work)).sum := by
    rw [SttState.rxPipe]
    cases s.rxWait with
    | false => exact Nat.zero_le _
    | true =>
        simp only [if_true, List.map_append, List.map_singleton, List.sum_append,
          List.sum_singleton, StateQuery.work, Bool.toNat_true]
        split <;> omega
  have htx : s.txWait.toNat ≤ (s.txPipe.map (·.work)).sum := by
    rw [SttState.txPipe]
    cases s.txWait with
    | false => exact Nat.zero_le _
    | true =>
        simp only [if_true, List.map_append, List.map_singleton, List.sum_append,
          List.sum_singleton, StateQuery.work, Bool.toNat_true]
        split <;> omega
  have hclose : s.closeWait.toNat ≤ s.closePipe.length := by
    rw [SttState.closePipe]
    cases s.closeWait with
    | false => exact Nat.zero_le _
    | true =>
        simp only [if_true, List.length_append, List.length_singleton, Bool.toNat_true]
        omega
  simp only [SttState.waits, SttView.work, SttState.view]
  omega

/-- The steps that are left. Between two requests that are served, each client has a request put
aside at most once. -/
def SttSys.left (s : SttSys) : ℕ := 4 * s.work - s.stt.waits

/-- The locks are in order, and a client whose request was put aside has no lock. -/
def LockInv (s : SttSys) : Prop := SttInv s ∧ WaitInv s.stt

lemma LockInv.next {s : SttSys} (h : LockInv s) (l : SttLabel) : LockInv (sttNext s l) :=
  ⟨h.1.next l, h.2.next h.1 l⟩

/-- A call without a reply to take makes progress. -/
lemma call_progress {s : SttSys} (h : LockInv s) (hrx : s.rxReps = []) (htai : s.taiReps = []) :
    Clocked.Progress LockInv SttSys.left (fun _ : Unit => true) s () (sttNext s .call) := by
  have hinv := h.next .call
  have hserve := stateTable_serve s.stt
  have hmoves := stateTable_moves h.1 h.2
  have hwaits (t : SttState) : t.waits ≤ 3 := by
    have hrx := Bool.toNat_le t.rxWait
    have htx := Bool.toNat_le t.txWait
    have hclose := Bool.toNat_le t.closeWait
    rw [SttState.waits]
    omega
  have hwork : (sttNext s .call).work = (stateTable s.stt).1.view.work +
      (stateTable s.stt).2.soRXeSessStateRep.length +
      (stateTable s.stt).2.soTAiConnectStateRep.length := by
    simp only [sttNext, SttSys.work, hrx, htai, List.nil_append]
  have hs : s.work = s.stt.view.work := by
    simp only [SttSys.work, hrx, htai, List.length_nil, Nat.add_zero]
  have hwaits' : (sttNext s .call).stt.waits = (stateTable s.stt).1.waits := rfl
  obtain hserved | ⟨hview, hout, haside⟩ | hidle := hmoves.moves
  · refine .move hinv ?_
    have hless := hserve.work hserved
    have hle := hwaits s.stt
    simp only [SttSys.left, hwork, hs]
    omega
  · refine .move hinv ?_
    have hle := waits_le_work (stateTable s.stt).1
    rw [hview] at hle
    simp only [SttSys.left, hwork, hs, hview, hout, hwaits', haside, List.length_nil]
    omega
  · have hzero := hidle hrx htai
    have hle := hserve.work_le
    have hleft : (sttNext s .call).left = 0 := by
      simp only [SttSys.left, hwork]
      omega
    exact ⟨hinv, by omega, fun _ => by omega⟩

/-- A round makes progress. -/
lemma sttRound_progress {s : SttSys} (h : LockInv s)
    (r : (TcpState → TcpState) × (TcpState → TcpState)) :
    Clocked.Progress LockInv SttSys.left (fun _ => true) s r (sttRound s r) := by
  have hwaits (s : SttSys) : (sttNext s (.rxWriteBack r.1)).stt.waits = s.stt.waits ∧
      (sttNext s (.taiWriteBack r.2)).stt.waits = s.stt.waits := by
    simp only [sttNext]
    constructor <;> split <;> rfl
  have h₁ := h.next (.rxWriteBack r.1)
  have h₂ := h₁.next (.taiWriteBack r.2)
  have hrx := rxWriteBack_work h.1 r.1
  have htai := taiWriteBack_work h₁.1 r.2
  have hleft : (sttNext (sttNext s (.rxWriteBack r.1)) (.taiWriteBack r.2)).left = s.left := by
    rw [SttSys.left, SttSys.left, htai.1, hrx.1, (hwaits _).2, (hwaits s).1]
  obtain ⟨hinv, hle, hlt⟩ := call_progress h₂ (htai.2.2.trans hrx.2) htai.2.1
  rw [hleft] at hle hlt
  exact ⟨hinv, hle, fun _ => hlt rfl⟩

/-- Without anything left to do, nothing waits. -/
lemma drained_of_left {s : SttSys} (h : s.left = 0) : s.Drained := by
  have hwaits := waits_le_work s.stt
  have hwork : s.work = 0 := by
    have hle : s.stt.view.work ≤ s.work := by
      rw [SttSys.work]
      omega
    rw [SttSys.left] at h
    omega
  have hnil {qs : List StateQuery} (hqs : (qs.map (·.work)).sum = 0) : qs = [] := by
    cases qs with
    | nil => rfl
    | cons q qs =>
        simp only [List.map_cons, List.sum_cons, StateQuery.work] at hqs
        split at hqs <;> omega
  rw [SttSys.work, SttView.work] at hwork
  have hrx : s.stt.view.rxPipe = [] := hnil (by omega)
  have htx : s.stt.view.txPipe = [] := hnil (by omega)
  have hstreams : s.stt.view.streams = [] := List.length_eq_zero_iff.mp (by omega)
  have hcloses : s.stt.view.closes = [] := List.length_eq_zero_iff.mp (by omega)
  refine ⟨fun c => ?_, List.length_eq_zero_iff.mp (by omega), List.length_eq_zero_iff.mp (by omega)⟩
  cases c <;> simp [SttView.pending, hrx, htx, hstreams, hcloses]

/-- From every reachable state, enough rounds serve all that was requested. -/
lemma drained_of_rounds {s : SttSys} (h : LockInv s)
    {rs : List ((TcpState → TcpState) × (TcpState → TcpState))} (hrs : 4 * s.work ≤ rs.length) :
    (Clocked.run sttRound s rs).Drained := by
  refine drained_of_left ?_
  have hrun := Clocked.run_work (fun s r hs _ => sttRound_progress hs r) h
    (Clocked.along_trivial sttRound s rs)
  have hleft : s.left ≤ 4 * s.work := Nat.sub_le ..
  simp only [List.countP_true] at hrun
  omega

/-- **The reads and write-backs of the connection states are atomic.** For every interleaving of
the requests of the Rx engine, of the Tx application interface and of the timers: between the read
of a session and the write-back of it no other client changes its state, the two clients never have
a lock on the same session, and every request is answered once, in the order of its client.
Whatever waits is served: no requests block each other. -/
theorem stateTable_atomic (ls : List SttLabel) :
    Clocked.Along traceNext AtomicStep {} ls ∧
    (∀ id, ¬((Clocked.run traceNext {} ls).sys.stt.rxLocks id = true ∧
      (Clocked.run traceNext {} ls).sys.stt.txLocks id = true)) ∧
    ServedInOrder (Clocked.run traceNext {} ls) ∧
    ∀ rs, 4 * (Clocked.run traceNext {} ls).sys.work ≤ rs.length →
      (Clocked.run sttRound (Clocked.run traceNext {} ls).sys rs).Drained := by
  have hstep (s : SttTrace) (l : SttLabel) (h : TraceInv s) (_ : True) :
      AtomicStep s l ∧ TraceInv (traceNext s l) := h.next l
  have htrue := Clocked.along_trivial traceNext {} ls
  have hrun := Clocked.run_inv (fun s l h hC => (hstep s l h hC).2) traceInv_init htrue
  have hlock : LockInv (Clocked.run traceNext {} ls).sys :=
    @Clocked.run_inv _ _ traceNext _ (fun s => LockInv s.sys) (fun s l h _ => h.next l) _ _
      ⟨sttInv_init, by simp, by simp⟩ htrue
  refine ⟨Clocked.along_of_inv hstep traceInv_init htrue, fun id h => ?_, hrun.order,
    fun rs hrs => drained_of_rounds hlock hrs⟩
  exact hrun.locks.excl id (SttState.rxLocks_iff.mp h.1) (SttState.txLocks_iff.mp h.2)

end CloudFpga.Toe
