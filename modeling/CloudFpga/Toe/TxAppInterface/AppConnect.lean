import CloudFpga.Toe.Types

/-!
The opening and closing of active connections, `pTxAppConnect` of `tx_app_interface.cpp`.

* `tacIdle`, `tacGetFreePort`, `tacCloseConn`: the cases of the switch on the state.
* `pTxAppConnect`: a call of the process.
-/

namespace CloudFpga.Toe

inductive TacFsmState where
  | idle | getFreePort | closeConn
  deriving DecidableEq, Repr

/-- The registers of the process and its input streams, but for the replies of the state table. -/
structure TacState where
  fsmState : TacFsmState := .idle
  closeSessionID : SessionId := 0
  localFifo : List SockAddr := []
  siTAIFOpnReq : List SockAddr := []
  siTAIFClsReq : List SessionId := []
  siSLcSessLookupRep : List SessionLookupReply := []
  siPRtGetFreePortRep : List TcpPort := []
  siRXeActSessState : List SessState := []
  siTImNotif : List SessState := []
  deriving DecidableEq

/-- What the process meets in a call: the output streams that are full, the reply of the state
table if one waits, and the address of the node. -/
structure TacIn where
  opnRepFull : Bool := false
  getFreePortReqFull : Bool := false
  sessLookupReqFull : Bool := false
  stateRep : Option TcpState := none
  ipAddr : Ip4Addr := 0

/-- What a call writes on the output streams. -/
structure TacOut where
  opnRep : List TcpAppOpnRep := []
  sessLookupReq : List SocketPair := []
  getFreePortReq : List Bool := []
  connectStateQry : List StateQuery := []
  event : List Event := []
  deriving DecidableEq

/-- A reply to the application, which is dropped if the stream is full. -/
def tacReply (i : TacIn) (rep : TcpAppOpnRep) : TacOut :=
  { opnRep := if ¬i.opnRepFull then [rep] else [] }

/-- The reply of a session lookup: the SYN is sent, or the opening of the connection failed. -/
def tacLookupRep (i : TacIn) (rep : SessionLookupReply) : TacOut :=
  if rep.hit then
    { event := [{ type := .syn, sessionID := rep.sessionID }]
      connectStateQry := [.wr rep.sessionID .synSent] }
  else tacReply i ⟨rep.sessionID, .closed⟩

section Process

variable (s : TacState) (i : TacIn)

/-- The end of `TAC_IDLE`: the status of an opening, a notification of the timers or a request to
close a connection. -/
def tacIdleRest : TacState × TacOut :=
  match s.siRXeActSessState, s.siTImNotif, s.siTAIFClsReq with
  | st :: sts, _, _ => ({ s with siRXeActSessState := sts }, tacReply i st)
  | [], st :: sts, _ =>
      if ¬i.opnRepFull then ({ s with siTImNotif := sts }, { opnRep := [st] }) else (s, {})
  | [], [], id :: ids =>
      ({ s with siTAIFClsReq := ids, closeSessionID := id, fsmState := .closeConn },
        { connectStateQry := [.rd id] })
  | [], [], [] => (s, {})

/-- `TAC_IDLE`. -/
def tacIdle : TacState × TacOut :=
  match s.siTAIFOpnReq, i.getFreePortReqFull with
  | server :: reqs, false =>
      ({ s with
        siTAIFOpnReq := reqs, localFifo := s.localFifo ++ [server], fsmState := .getFreePort },
        { getFreePortReq := [true] })
  | _, _ =>
      match s.siSLcSessLookupRep with
      | rep :: reps => ({ s with siSLcSessLookupRep := reps }, tacLookupRep i rep)
      | [] => tacIdleRest s i

/-- `TAC_GET_FREE_PORT`: a session is asked for. -/
def tacGetFreePort : TacState × TacOut :=
  match s.siPRtGetFreePortRep, i.sessLookupReqFull, s.localFifo with
  | freePort :: ports, false, server :: servers =>
      ({ s with siPRtGetFreePortRep := ports, localFifo := servers, fsmState := .idle },
        { sessLookupReq := [⟨⟨i.ipAddr, freePort⟩, server⟩] })
  | _, _, _ => (s, {})

/-- The state that a request to close the connection leads to. -/
def tacCloseState (tcpState : TcpState) : TcpState :=
  if tcpState = .established ∨ tcpState = .finWait2 ∨ tcpState = .finWait1 then .finWait1
  else tcpState

/-- `TAC_CLOSE_CONN`. -/
def tacCloseConn : TacState × TacOut :=
  match i.stateRep with
  | some tcpState =>
      ({ s with fsmState := .idle },
        { connectStateQry := [.wr s.closeSessionID (tacCloseState tcpState)]
          event :=
            if tcpState = .established ∨ tcpState = .finWait2 ∨ tcpState = .finWait1 then
              [{ type := .fin, sessionID := s.closeSessionID }]
            else [] })
  | none => (s, {})

/-- One call of the process. -/
def pTxAppConnect : TacState × TacOut :=
  match s.fsmState with
  | .idle => tacIdle s i
  | .getFreePort => tacGetFreePort s i
  | .closeConn => tacCloseConn s i

end Process

/-- The lookup reply that a call reads. -/
def tacTakes (s : TacState) (i : TacIn) : Option SessionLookupReply :=
  match s.fsmState, s.siTAIFOpnReq, i.getFreePortReqFull with
  | .idle, _ :: _, false => none
  | .idle, _, _ => s.siSLcSessLookupRep.head?
  | _, _, _ => none

/-- What a call means for the state table. -/
inductive TacCall (s : TacState) (i : TacIn) : TacState × TacOut → Prop
  /-- a session was found for the new connection -/
  | opens {rep : SessionLookupReply} {r : TacState × TacOut} (h : tacTakes s i = some rep)
      (hhit : rep.hit = true) (hout : r.2.connectStateQry = [.wr rep.sessionID .synSent])
      (hev : r.2.event = [{ type := .syn, sessionID := rep.sessionID }])
      (hidle : s.fsmState = .idle) (hst : r.1.fsmState = .idle) : TacCall s i r
  /-- the state of the connection to close is read -/
  | reads {id : SessionId} {r : TacState × TacOut} (h : ∀ rep ∈ tacTakes s i, rep.hit = false)
      (hout : r.2.connectStateQry = [.rd id]) (hev : r.2.event = [])
      (hidle : s.fsmState = .idle) (hst : r.1.fsmState = .closeConn)
      (hid : r.1.closeSessionID = id) : TacCall s i r
  /-- the state is written back -/
  | writesBack {tcpState : TcpState} {r : TacState × TacOut} (h : tacTakes s i = none)
      (hclose : s.fsmState = .closeConn) (hrep : i.stateRep = some tcpState)
      (hout : r.2.connectStateQry = [.wr s.closeSessionID (tacCloseState tcpState)])
      (hev : ∀ e ∈ r.2.event, e.type = .fin) (hst : r.1.fsmState = .idle) : TacCall s i r
  /-- nothing -/
  | other {r : TacState × TacOut} (h : ∀ rep ∈ tacTakes s i, rep.hit = false)
      (hout : r.2.connectStateQry = []) (hev : r.2.event = [])
      (hclose : r.1.fsmState = .closeConn ↔ s.fsmState = .closeConn)
      (hid : r.1.closeSessionID = s.closeSessionID)
      (hwait : s.fsmState = .closeConn → i.stateRep = none) : TacCall s i r

section Calls

variable (s : TacState) (i : TacIn)

lemma tacIdleRest_call (hidle : s.fsmState = .idle) (h : ∀ rep ∈ tacTakes s i, rep.hit = false) :
    TacCall s i (tacIdleRest s i) := by
  have hne : s.fsmState ≠ .closeConn := by simp [hidle]
  rw [tacIdleRest]
  split
  · exact .other h rfl rfl Iff.rfl rfl fun hc => absurd hc hne
  · split
    · exact .other h rfl rfl Iff.rfl rfl fun hc => absurd hc hne
    · exact .other h rfl rfl Iff.rfl rfl fun hc => absurd hc hne
  · exact .reads h rfl rfl hidle rfl rfl
  · exact .other h rfl rfl Iff.rfl rfl fun hc => absurd hc hne

lemma tacIdle_call (hidle : s.fsmState = .idle) : TacCall s i (tacIdle s i) := by
  have hne : s.fsmState ≠ .closeConn := by simp [hidle]
  rw [tacIdle]
  split
  · next hreq hfull =>
      refine .other ?_ rfl rfl (iff_of_false (fun hc => by cases hc) hne) rfl
        fun hc => absurd hc hne
      simp [tacTakes, hidle, hreq, hfull]
  · next hreq =>
      have htakes : tacTakes s i = s.siSLcSessLookupRep.head? := by
        rw [tacTakes, hidle]
        split
        · next hreq' hfull => exact absurd hfull (hreq _ _ hreq')
        · rfl
        · next h _ => exact absurd rfl h
      split
      · next rep reps hrep =>
          rw [hrep, List.head?_cons] at htakes
          rw [tacLookupRep]
          split
          · next hhit => exact .opens htakes hhit rfl rfl hidle hidle
          · next hhit =>
              refine .other ?_ rfl rfl Iff.rfl rfl fun hc => absurd hc hne
              simpa [htakes] using hhit
      · next hrep =>
          refine tacIdleRest_call s i hidle ?_
          simp [htakes, hrep]

/-- What a call of the process means for the state table. -/
theorem pTxAppConnect_call : TacCall s i (pTxAppConnect s i) := by
  rw [pTxAppConnect]
  cases hst : s.fsmState with
  | idle => exact tacIdle_call s i hst
  | getFreePort =>
      have htakes : tacTakes s i = none := by simp [tacTakes, hst]
      dsimp only [tacGetFreePort]
      split
      · exact .other (by simp [htakes]) rfl rfl (by simp [hst]) rfl (by simp [hst])
      · exact .other (by simp [htakes]) rfl rfl Iff.rfl rfl (by simp [hst])
  | closeConn =>
      have htakes : tacTakes s i = none := by simp [tacTakes, hst]
      dsimp only [tacCloseConn]
      split
      · next tcpState hrep =>
          refine .writesBack htakes hst hrep rfl ?_ rfl
          dsimp only
          split <;> simp
      · next hrep => exact .other (by simp [htakes]) rfl rfl Iff.rfl rfl fun _ => hrep

end Calls

end CloudFpga.Toe
