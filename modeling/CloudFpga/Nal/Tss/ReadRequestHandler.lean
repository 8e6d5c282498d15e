import CloudFpga.Nal.Tss.ReadPath

/-!
The read request handler of the NAL, `tss.cpp`: `pTcpRRh`. It keeps the number of free bytes of the
FIFO to the FMC and of the one to the ROLE, and requests no more data from the TOE.

* `NalState`: the process with its streams, and the way of the packets behind it. Besides, it
  records the notifications that arrived, the requests, and the lengths that were returned.
* `pTcpRRh`: one call of the process.
* `RrhSessions`: what the process knows about the sessions that wait. It is kept by every step
  that meets `RrhOk`.
-/

namespace CloudFpga.Nal

open Foundation

inductive RrhFsmStates where
  | reset | waitNotif | processNotif | startRequest | processRequest | waitFmc | waitRole | drain
  deriving DecidableEq, Repr

/-- The registers of the process. -/
structure RrhState where
  fsmState : RrhFsmStates := .reset
  sessionLength : Cam8 SessionId TcpDatLen
  waitingSessions : List NalWaitingData := []
  sessionReinsert : List NalWaitingData := []
  waitingLength : TcpDatLen := 0
  notif : TcpAppNotif
  alreadyWaiting : Bool := false
  requestedLength : TcpDatLen := 0
  lengthUpdateValue : TcpDatLen := 0
  foundID : SessionId := 0
  foundFmcSess : Bool := false
  needCamUpdate : Bool := false
  goBackToAckWaitRole : Bool := false
  goBackToAckWaitFmc : Bool := false
  roleFifoFreeCnt : PacketLen := BitVec.ofNat 16 nalMaxFifoDepthsBytes
  fmcFifoFreeCnt : PacketLen := BitVec.ofNat 16 nalMaxFifoDepthsBytes

namespace RrhState

/-- The counter of the FIFO to the FMC, or of the one to the ROLE. -/
def free (r : RrhState) (fmc : Bool) : PacketLen :=
  if fmc then r.fmcFifoFreeCnt else r.roleFifoFreeCnt

def setFree (r : RrhState) (fmc : Bool) (n : PacketLen) : RrhState :=
  if fmc then { r with fmcFifoFreeCnt := n } else { r with roleFifoFreeCnt := n }

def goBack (r : RrhState) (fmc : Bool) : Bool :=
  if fmc then r.goBackToAckWaitFmc else r.goBackToAckWaitRole

def setGoBack (r : RrhState) (fmc : Bool) (b : Bool) : RrhState :=
  if fmc then { r with goBackToAckWaitFmc := b } else { r with goBackToAckWaitRole := b }

/-- The state in which the process waits for the FIFO. -/
def waits (fmc : Bool) : RrhFsmStates := if fmc then .waitFmc else .waitRole

/-- The state to which a notification leads that interrupted a wait, or did not. -/
def afterNotif (r : RrhState) (next : RrhFsmStates) : RrhFsmStates :=
  if r.goBackToAckWaitFmc then .waitFmc else if r.goBackToAckWaitRole then .waitRole else next

end RrhState

/-- A request, the FIFO for which it was made, and the bytes that were free there. -/
structure RrhRequest where
  req : TcpAppRdReq
  fmc : Bool
  free : PacketLen
  deriving DecidableEq, Repr

/-- The process, its streams, and the way of the packets. `arrived`, `requested` and `returned`
are read by no process. -/
structure NalState where
  rrh : RrhState
  path : RxPath := {}
  sTcpNotifBuffer : List TcpAppNotif := []
  sAddNewTripleTcpRrh : List NalNewTableEntry := []
  sMarkAsPriv : List SessionId := []
  sDeleteEntryBySid : List SessionId := []
  arrived : List TcpAppNotif := []
  requested : List RrhRequest := []
  returned : List (Bool × PacketLen) := []

/-- What a call is offered: the levels of the signals, what has arrived, and which outputs are
full. -/
structure RrhCall where
  layer4Enabled : Bool := true
  ntsReady : Bool := true
  cfrmIp4Addr : Ip4Addr
  fmcLsnPort : TcpPort
  notifHere : Bool := true
  fmcSigHere : Bool := true
  roleSigHere : Bool := true
  deleteFull : Bool := false
  addTripleFull : Bool := false
  markAsPrivFull : Bool := false
  dReqFull : Bool := false
  reqNotifFull : Bool := false
  deriving DecidableEq, Repr

/-- The transport layer is up. -/
def RrhCall.up (k : RrhCall) : Bool := k.layer4Enabled && k.ntsReady

/-- The state belongs to a connection that is being closed. -/
def closingState : TcpState → Bool
  | .finWait1 | .finWait2 | .closing | .timeWait | .lastAck | .closed => true
  | _ => false

section Calls

variable (s : NalState) (k : RrhCall)

/-- `RRH_RESET`. -/
def rrhReset : NalState :=
  { s with
    rrh := { s.rrh with
      sessionLength := s.rrh.sessionLength.reset
      goBackToAckWaitFmc := false
      goBackToAckWaitRole := false
      roleFifoFreeCnt := BitVec.ofNat 16 nalMaxFifoDepthsBytes
      fmcFifoFreeCnt := BitVec.ofNat 16 nalMaxFifoDepthsBytes
      fsmState := .waitNotif } }

/-- No notification is read: a session that was put back waits again, or one that waits is taken
up. -/
def rrhTakeUp : NalState :=
  if s.rrh.goBackToAckWaitFmc ∨ s.rrh.goBackToAckWaitRole then s
  else
    match s.rrh.sessionReinsert with
    | w :: ws =>
        if s.rrh.waitingSessions.length < waitingDepth then
          { s with
            rrh := { s.rrh with
              waitingSessions := s.rrh.waitingSessions ++ [w]
              sessionReinsert := ws
              fsmState := .startRequest } }
        else { s with rrh := { s.rrh with fsmState := .startRequest } }
    | [] =>
        if s.rrh.waitingSessions ≠ [] then
          { s with rrh := { s.rrh with fsmState := .startRequest } }
        else s

/-- `RRH_WAIT_NOTIF`. -/
def rrhWaitNotif : NalState :=
  if ¬k.up then { s with rrh := { s.rrh with fsmState := .drain } }
  else
    match s.sTcpNotifBuffer with
    | notif :: ns =>
        if k.notifHere ∧ ¬k.deleteFull then
          if notif.tcpDatLen ≠ 0 then
            { s with
              sTcpNotifBuffer := ns
              rrh := { s.rrh with
                notif := notif
                alreadyWaiting := (s.rrh.sessionLength.lookup notif.sessionID).isSome
                waitingLength :=
                  (s.rrh.sessionLength.lookup notif.sessionID).getD s.rrh.waitingLength
                fsmState := .processNotif } }
          else if closingState notif.tcpState then
            { s with
              sTcpNotifBuffer := ns
              sDeleteEntryBySid := s.sDeleteEntryBySid ++ [notif.sessionID]
              rrh := { s.rrh with
                notif := notif
                fsmState := s.rrh.afterNotif .waitNotif } }
          else { s with sTcpNotifBuffer := ns, rrh := { s.rrh with notif := notif } }
        else rrhTakeUp s
    | [] => rrhTakeUp s

/-- `RRH_PROCESS_NOTIF`. -/
def rrhProcessNotif : NalState :=
  if s.rrh.waitingSessions.length < waitingDepth ∧ ¬k.addTripleFull ∧ ¬k.markAsPrivFull then
    let notif := s.rrh.notif
    if s.rrh.alreadyWaiting then
      { s with
        rrh := { s.rrh with
          sessionLength :=
            s.rrh.sessionLength.update notif.sessionID (notif.tcpDatLen + s.rrh.waitingLength)
          fsmState := s.rrh.afterNotif .startRequest } }
    else
      let isFmc := decide (notif.ip4SrcAddr = k.cfrmIp4Addr ∧ notif.tcpDstPort = k.fmcLsnPort)
      { s with
        sAddNewTripleTcpRrh := s.sAddNewTripleTcpRrh ++
          [⟨newTriple notif.ip4SrcAddr notif.tcpSrcPort notif.tcpDstPort, notif.sessionID⟩]
        sMarkAsPriv := if isFmc then s.sMarkAsPriv ++ [notif.sessionID] else s.sMarkAsPriv
        rrh := { s.rrh with
          sessionLength := s.rrh.sessionLength.insert notif.sessionID notif.tcpDatLen
          waitingSessions := s.rrh.waitingSessions ++ [⟨notif.sessionID, isFmc⟩]
          fsmState := s.rrh.afterNotif .startRequest } }
  else s

/-- `RRH_START_REQUEST`: a length of at least the free bytes is cut, also if it fits. -/
def rrhStartRequest : NalState :=
  match s.rrh.waitingSessions with
  | newData :: ws =>
      if s.rrh.sessionReinsert.length < waitingDepth then
        let foundLength := (s.rrh.sessionLength.lookup newData.sessId).getD 0
        let rrh := { s.rrh with
          waitingSessions := ws
          foundID := newData.sessId
          foundFmcSess := newData.fmcCon
          fsmState := .processRequest }
        if s.rrh.free newData.fmcCon ≤ foundLength then
          { s with
            rrh := { rrh with
              needCamUpdate := true
              requestedLength := s.rrh.free newData.fmcCon
              lengthUpdateValue := foundLength - s.rrh.free newData.fmcCon } }
        else { s with rrh := { rrh with needCamUpdate := false, requestedLength := foundLength } }
      else s
  | [] => s

/-- `RRH_PROCESS_REQUEST`. -/
def rrhProcessRequest : NalState :=
  if ¬k.up then { s with rrh := { s.rrh with fsmState := .drain } }
  else if ¬k.dReqFull ∧ ¬k.reqNotifFull ∧ s.rrh.sessionReinsert.length < waitingDepth then
    let fmc := s.rrh.foundFmcSess
    let newReq : TcpAppRdReq := ⟨s.rrh.foundID, s.rrh.requestedLength⟩
    let rrh :=
      if s.rrh.needCamUpdate then
        { s.rrh.setFree fmc 0 with
          sessionLength := s.rrh.sessionLength.update s.rrh.foundID s.rrh.lengthUpdateValue
          sessionReinsert := s.rrh.sessionReinsert ++ [⟨s.rrh.foundID, fmc⟩] }
      else
        { s.rrh.setFree fmc (s.rrh.free fmc - s.rrh.requestedLength) with
          sessionLength := s.rrh.sessionLength.deleteEntry s.rrh.foundID }
    { s with
      rrh := { rrh with
        goBackToAckWaitFmc := false
        goBackToAckWaitRole := false
        fsmState := RrhState.waits fmc }
      path := { s.path with
        soTOEDReq := s.path.soTOEDReq ++ [newReq]
        sRDpReqNotif := s.path.sRDpReqNotif ++ [newReq] }
      requested := s.requested ++ [⟨newReq, fmc, s.rrh.free fmc⟩] }
  else s

/-- `RRH_WAIT_FMC` and `RRH_WAIT_ROLE`: the bytes that are returned are free again, but no more
than the FIFO holds. A notification interrupts the wait. -/
def rrhWaitAck (fmc : Bool) (sigHere : Bool) : NalState :=
  if ¬k.up then { s with rrh := { s.rrh with fsmState := .drain } }
  else
    match s.path.sig fmc with
    | newFree :: _ =>
        if sigHere then
          let free := s.rrh.free fmc + newFree
          let free :=
            if free > BitVec.ofNat 16 nalMaxFifoDepthsBytes then
              BitVec.ofNat 16 nalMaxFifoDepthsBytes
            else free
          { s with
            path := s.path.takeSig fmc
            rrh := { (s.rrh.setFree fmc free).setGoBack fmc false with fsmState := .waitNotif }
            returned := s.returned ++ [(fmc, newFree)] }
        else if s.sTcpNotifBuffer ≠ [] ∧ k.notifHere then
          { s with rrh := { s.rrh.setGoBack fmc true with fsmState := .waitNotif } }
        else s
    | [] =>
        if s.sTcpNotifBuffer ≠ [] ∧ k.notifHere then
          { s with rrh := { s.rrh.setGoBack fmc true with fsmState := .waitNotif } }
        else s

/-- `RRH_WAIT_FMC`. -/
def rrhWaitFmc : NalState := rrhWaitAck s k true k.fmcSigHere

/-- `RRH_WAIT_ROLE`. -/
def rrhWaitRole : NalState := rrhWaitAck s k false k.roleSigHere

/-- `RRH_DRAIN`. -/
def rrhDrain : NalState :=
  if ¬k.up then
    let path := if k.fmcSigHere then s.path.takeSig true else s.path
    { s with
      sTcpNotifBuffer := if k.notifHere then s.sTcpNotifBuffer.tail else s.sTcpNotifBuffer
      path := if k.roleSigHere then path.takeSig false else path
      rrh := { s.rrh with
        waitingSessions := s.rrh.waitingSessions.tail
        sessionReinsert := s.rrh.sessionReinsert.tail } }
  else { s with rrh := { s.rrh with fsmState := .reset } }

/-- One call of `pTcpRRh`. -/
def pTcpRRh : NalState :=
  match s.rrh.fsmState with
  | .reset => rrhReset s
  | .waitNotif => rrhWaitNotif s k
  | .processNotif => rrhProcessNotif s k
  | .startRequest => rrhStartRequest s
  | .processRequest => rrhProcessRequest s k
  | .waitFmc => rrhWaitFmc s k
  | .waitRole => rrhWaitRole s k
  | .drain => rrhDrain s k

end Calls

/-! ### The sessions that wait -/

/-- The bytes that notifications tell of a session. -/
def notifBytes (id : SessionId) (ns : List TcpAppNotif) : ℕ :=
  (ns.map fun n => if n.sessionID = id then n.tcpDatLen.toNat else 0).sum

/-- The bytes that were requested of a session. -/
def requestBytes (id : SessionId) (rs : List RrhRequest) : ℕ :=
  (rs.map fun r => if r.req.sessionID = id then r.req.length.toNat else 0).sum

/-- The bytes of a session that are recorded in the memory. -/
def RrhState.recorded (r : RrhState) (id : SessionId) : ℕ :=
  ((r.sessionLength.lookup id).map BitVec.toNat).getD 0

/-- The sessions in the queues. -/
def RrhState.queued (r : RrhState) : List SessionId :=
  (r.waitingSessions ++ r.sessionReinsert).map (·.sessId)

/-- The sessions in the queues, and the one that is being requested. -/
def RrhState.known (r : RrhState) : List SessionId :=
  if r.fsmState = .processRequest then r.foundID :: r.queued else r.queued

/-- The bytes of a session that were notified and are not recorded yet. -/
def NalState.unread (s : NalState) (id : SessionId) : ℕ :=
  notifBytes id s.sTcpNotifBuffer +
    if s.rrh.fsmState = .processNotif then notifBytes id [s.rrh.notif] else 0

/-- A notification that is being processed tells of data, and there is room for its session. -/
structure NotifOk (r : RrhState) : Prop where
  pos : r.notif.tcpDatLen ≠ 0
  already : r.alreadyWaiting = (r.sessionLength.lookup r.notif.sessionID).isSome
  waiting : r.alreadyWaiting = true →
    r.sessionLength.lookup r.notif.sessionID = some r.waitingLength
  room : r.waitingSessions.length < waitingDepth
  add : r.alreadyWaiting = true → r.notif.tcpDatLen.toNat + r.waitingLength.toNat < 2 ^ 16
  free : r.alreadyWaiting = false → SlotArray.HasFree r.sessionLength.entries
  takeUp : r.alreadyWaiting = true → r.goBack true = false → r.goBack false = false →
    r.waitingSessions ≠ []

/-- A request that is being made is for the bytes that are recorded, or for all bytes that are
free, and then some of the recorded bytes are left. -/
structure RequestOk (r : RrhState) : Prop where
  pos : r.requestedLength ≠ 0
  le : r.requestedLength.toNat ≤ (r.free r.foundFmcSess).toNat
  cut : r.needCamUpdate = true → r.requestedLength = r.free r.foundFmcSess ∧
    r.lengthUpdateValue ≠ 0 ∧
      r.recorded r.foundID = r.requestedLength.toNat + r.lengthUpdateValue.toNat
  whole : r.needCamUpdate = false → r.recorded r.foundID = r.requestedLength.toNat

/-- What the process knows of the sessions: each session with recorded bytes is in a queue once,
and the bytes that were notified are requested, recorded or not read yet. -/
structure RrhSessions (s : NalState) : Prop where
  distinct : SlotArray.Distinct s.rrh.sessionLength.entries
  start : s.rrh.fsmState = .reset → ∀ id, s.rrh.sessionLength.lookup id = none
  nodup : s.rrh.known.Nodup
  mem : ∀ id, id ∈ s.rrh.known ↔ (s.rrh.sessionLength.lookup id).isSome = true
  pos : ∀ id v, s.rrh.sessionLength.lookup id = some v → v ≠ 0
  sums : ∀ id, notifBytes id s.arrived
    = requestBytes id s.requested + s.rrh.recorded id + s.unread id
  notif : s.rrh.fsmState = .processNotif → NotifOk s.rrh
  takeUp : s.rrh.fsmState = .startRequest → s.rrh.waitingSessions ≠ []
  request : s.rrh.fsmState = .processRequest → RequestOk s.rrh

/-- A notification of data is read while there is room for its session and its bytes, and the
session does not wait, alone, to be put back; the length of a session that is taken up is not
exactly the number of free bytes. -/
def RrhOk (s : NalState) (k : RrhCall) : Prop :=
  k.up = true ∧
    match s.rrh.fsmState with
    | .waitNotif => ∀ n ∈ s.sTcpNotifBuffer.head?, k.notifHere ∧ ¬k.deleteFull ∧ n.tcpDatLen ≠ 0 →
        s.rrh.waitingSessions.length < waitingDepth ∧
          match s.rrh.sessionLength.lookup n.sessionID with
          | some waiting => n.tcpDatLen.toNat + waiting.toNat < 2 ^ 16 ∧
              (s.rrh.goBack true = false → s.rrh.goBack false = false →
                s.rrh.waitingSessions ≠ [])
          | none => SlotArray.HasFree s.rrh.sessionLength.entries
    | .startRequest => ∀ w ∈ s.rrh.waitingSessions.head?,
        s.rrh.sessionLength.lookup w.sessId ≠ some (s.rrh.free w.fmcCon)
    | _ => True

instance (s : NalState) (k : RrhCall) : Decidable (RrhOk s k) :=
  @instDecidableAnd _ _ _ <|
    match s.rrh.fsmState with
    | .waitNotif =>
        have (n : TcpAppNotif) : Decidable (match s.rrh.sessionLength.lookup n.sessionID with
            | some waiting => n.tcpDatLen.toNat + waiting.toNat < 2 ^ 16 ∧
                (s.rrh.goBack true = false → s.rrh.goBack false = false →
                  s.rrh.waitingSessions ≠ [])
            | none => SlotArray.HasFree s.rrh.sessionLength.entries) :=
          match s.rrh.sessionLength.lookup n.sessionID with
          | some _ => inferInstanceAs (Decidable (_ ∧ _))
          | none => inferInstanceAs (Decidable (SlotArray.HasFree _))
        inferInstanceAs (Decidable (∀ n ∈ s.sTcpNotifBuffer.head?, _))
    | .startRequest => inferInstanceAs (Decidable (∀ w ∈ s.rrh.waitingSessions.head?, _))
    | .reset | .processNotif | .processRequest | .waitFmc | .waitRole | .drain => isTrue trivial

section Counters

variable (r : RrhState) (fmc : Bool) (n : PacketLen) (b : Bool)

@[simp] lemma sessionLength_setFree : (r.setFree fmc n).sessionLength = r.sessionLength := by
  cases fmc <;> rfl

@[simp] lemma waitingSessions_setFree : (r.setFree fmc n).waitingSessions = r.waitingSessions := by
  cases fmc <;> rfl

@[simp] lemma sessionReinsert_setFree : (r.setFree fmc n).sessionReinsert = r.sessionReinsert := by
  cases fmc <;> rfl

@[simp] lemma sessionLength_setGoBack : (r.setGoBack fmc b).sessionLength = r.sessionLength := by
  cases fmc <;> rfl

@[simp] lemma waitingSessions_setGoBack :
    (r.setGoBack fmc b).waitingSessions = r.waitingSessions := by
  cases fmc <;> rfl

@[simp] lemma sessionReinsert_setGoBack :
    (r.setGoBack fmc b).sessionReinsert = r.sessionReinsert := by
  cases fmc <;> rfl

end Counters

section Sessions

variable {s s' : NalState} {k : RrhCall} {id : SessionId}

lemma notifBytes_cons (n : TcpAppNotif) (ns : List TcpAppNotif) :
    notifBytes id (n :: ns) = (if n.sessionID = id then n.tcpDatLen.toNat else 0) +
      notifBytes id ns := by
  rw [notifBytes, List.map_cons, List.sum_cons]
  rfl

lemma notifBytes_append (ns ms : List TcpAppNotif) :
    notifBytes id (ns ++ ms) = notifBytes id ns + notifBytes id ms := by
  rw [notifBytes, List.map_append, List.sum_append]
  rfl

lemma requestBytes_append (rs qs : List RrhRequest) :
    requestBytes id (rs ++ qs) = requestBytes id rs + requestBytes id qs := by
  rw [requestBytes, List.map_append, List.sum_append]
  rfl

lemma known_of_ne {r : RrhState} (h : r.fsmState ≠ .processRequest) : r.known = r.queued :=
  if_neg h

lemma unread_of_ne (h : s.rrh.fsmState ≠ .processNotif) :
    s.unread id = notifBytes id s.sTcpNotifBuffer := by
  rw [NalState.unread, if_neg h, Nat.add_zero]

/-- What is known of the sessions depends on the memory, the queues, and the records. -/
lemma RrhSessions.frame (h : RrhSessions s)
    (hcam : s'.rrh.sessionLength = s.rrh.sessionLength)
    (hwait : s'.rrh.waitingSessions = s.rrh.waitingSessions)
    (hback : s'.rrh.sessionReinsert = s.rrh.sessionReinsert)
    (harr : s'.arrived = s.arrived) (hreq : s'.requested = s.requested)
    (hunread : ∀ id, s'.unread id = s.unread id)
    (hst : s.rrh.fsmState ≠ .processRequest)
    (hst' : s'.rrh.fsmState ≠ .reset ∧ s'.rrh.fsmState ≠ .processNotif ∧
      s'.rrh.fsmState ≠ .startRequest ∧ s'.rrh.fsmState ≠ .processRequest) : RrhSessions s' := by
  have hknown : s'.rrh.known = s.rrh.known := by
    rw [known_of_ne hst, known_of_ne hst'.2.2.2, RrhState.queued, RrhState.queued, hwait, hback]
  refine ⟨?_, fun h => absurd h hst'.1, ?_, ?_, ?_, ?_, fun h => absurd h hst'.2.1,
    fun h => absurd h hst'.2.2.1, fun h => absurd h hst'.2.2.2⟩
  · rw [hcam]
    exact h.distinct
  · rw [hknown]
    exact h.nodup
  · intro id
    rw [hknown, hcam]
    exact h.mem id
  · intro id v
    rw [hcam]
    exact h.pos id v
  · intro id
    rw [harr, hreq, hunread, RrhState.recorded, hcam]
    exact h.sums id

/-- `RRH_RESET`. -/
lemma rrhReset_sessions (h : RrhSessions s) (hst : s.rrh.fsmState = .reset) :
    RrhSessions (rrhReset s) := by
  have hnone := h.start hst
  have hknown : (rrhReset s).rrh.known = s.rrh.known := by
    rw [@known_of_ne s.rrh (by simp [hst])]
    exact known_of_ne (fun h => by cases h)
  refine ⟨Cam8.distinct_reset _, fun h => (by cases h), ?_, ?_, ?_, ?_, fun h => (by cases h),
    fun h => (by cases h), fun h => (by cases h)⟩
  · rw [hknown]
    exact h.nodup
  · intro id
    rw [hknown, h.mem id, hnone id]
    have hreset : (rrhReset s).rrh.sessionLength.lookup id = none := Cam8.lookup_reset _ _
    rw [hreset]
  · intro id v hv
    have hreset : (rrhReset s).rrh.sessionLength.lookup id = none := Cam8.lookup_reset _ _
    rw [hreset] at hv
    cases hv
  · intro id
    have hsums := h.sums id
    have hold : s.rrh.recorded id = 0 := by
      rw [RrhState.recorded, hnone id]
      rfl
    have hnew : (rrhReset s).rrh.recorded id = 0 := by
      have hreset : (rrhReset s).rrh.sessionLength.lookup id = none := Cam8.lookup_reset _ _
      rw [RrhState.recorded, hreset]
      rfl
    have hunread : (rrhReset s).unread id = s.unread id := by
      rw [@unread_of_ne s id (by simp [hst])]
      exact unread_of_ne fun h => by cases h
    rw [hnew, hunread]
    rw [hold] at hsums
    exact hsums

/-- A session is taken up. -/
lemma startRequest_sessions (h : RrhSessions s)
    (hst : s.rrh.fsmState ≠ .processRequest ∧ s.rrh.fsmState ≠ .processNotif)
    (hcam : s'.rrh.sessionLength = s.rrh.sessionLength)
    (hqueue : s'.rrh.waitingSessions ++ s'.rrh.sessionReinsert
      = s.rrh.waitingSessions ++ s.rrh.sessionReinsert)
    (harr : s'.arrived = s.arrived) (hreq : s'.requested = s.requested)
    (hbuf : s'.sTcpNotifBuffer = s.sTcpNotifBuffer) (hst' : s'.rrh.fsmState = .startRequest)
    (hwait : s'.rrh.waitingSessions ≠ []) : RrhSessions s' := by
  have hknown : s'.rrh.known = s.rrh.known := by
    rw [known_of_ne hst.1, known_of_ne (by simp [hst']), RrhState.queued, RrhState.queued, hqueue]
  refine ⟨?_, fun h => absurd (h.symm.trans hst') (by simp), ?_, ?_, ?_, ?_,
    fun h => absurd (h.symm.trans hst') (by simp), fun _ => hwait,
    fun h => absurd (h.symm.trans hst') (by simp)⟩
  · rw [hcam]
    exact h.distinct
  · rw [hknown]
    exact h.nodup
  · intro id
    rw [hknown, hcam]
    exact h.mem id
  · intro id v
    rw [hcam]
    exact h.pos id v
  · intro id
    have hunread : s'.unread id = s.unread id := by
      rw [unread_of_ne hst.2, unread_of_ne (by simp [hst']), hbuf]
    rw [harr, hreq, hunread, RrhState.recorded, hcam]
    exact h.sums id

lemma rrhTakeUp_sessions (h : RrhSessions s) (hst : s.rrh.fsmState = .waitNotif) :
    RrhSessions (rrhTakeUp s) := by
  have hne : s.rrh.fsmState ≠ .processRequest ∧ s.rrh.fsmState ≠ .processNotif := by
    simp [hst]
  rw [rrhTakeUp]
  split
  · exact h
  · split
    · next w ws hback =>
        split
        · exact startRequest_sessions h hne rfl (by simp [hback]) rfl rfl rfl rfl (by simp)
        · next hfull =>
            have hwait : s.rrh.waitingSessions ≠ [] := by
              intro hnil
              rw [hnil] at hfull
              exact hfull (by decide)
            exact startRequest_sessions h hne rfl rfl rfl rfl rfl rfl hwait
    · split
      · next hwait => exact startRequest_sessions h hne rfl rfl rfl rfl rfl rfl hwait
      · exact h

lemma afterNotif_waitNotif (r : RrhState) :
    r.afterNotif .waitNotif ≠ .reset ∧ r.afterNotif .waitNotif ≠ .processNotif ∧
      r.afterNotif .waitNotif ≠ .startRequest ∧ r.afterNotif .waitNotif ≠ .processRequest := by
  rw [RrhState.afterNotif]
  split
  · simp
  · split <;> simp

/-- `RRH_WAIT_NOTIF`. -/
lemma rrhWaitNotif_sessions (h : RrhSessions s) (hok : RrhOk s k)
    (hst : s.rrh.fsmState = .waitNotif) : RrhSessions (rrhWaitNotif s k) := by
  have hne : s.rrh.fsmState ≠ .processRequest := by simp [hst]
  rw [rrhWaitNotif, if_neg (by simp [hok.1])]
  split
  · next n ns hbuf =>
      split
      · next hk =>
          split
          · next hlen =>
              have hroom := hok.2
              rw [hst] at hroom
              obtain ⟨hroom, hcase⟩ := hroom n (by rw [hbuf]; rfl) ⟨hk.1, hk.2, hlen⟩
              refine ⟨h.distinct, fun h => (by cases h), ?_, ?_, h.pos, ?_, fun _ => ?_,
                fun h => (by cases h), fun h => (by cases h)⟩
              · have hnodup := h.nodup
                rw [known_of_ne hne] at hnodup
                exact hnodup
              · intro id
                have hmem := h.mem id
                rw [known_of_ne hne] at hmem
                exact hmem
              · intro id
                have hsums := h.sums id
                rw [unread_of_ne (by simp [hst]), hbuf, notifBytes_cons] at hsums
                rw [hsums, NalState.unread, if_pos rfl, notifBytes_cons]
                have hnil : notifBytes id [] = 0 := rfl
                rw [hnil]
                simp only [RrhState.recorded]
                omega
              · refine ⟨hlen, rfl, ?_, hroom, ?_, ?_, ?_⟩
                · intro hwait
                  obtain ⟨v, hv⟩ := Option.isSome_iff_exists.mp hwait
                  simp only [hv, Option.getD_some]
                · intro hwait
                  obtain ⟨v, hv⟩ := Option.isSome_iff_exists.mp hwait
                  rw [hv] at hcase
                  simp only [hv, Option.getD_some]
                  exact hcase.1
                · intro hwait
                  have hnone : s.rrh.sessionLength.lookup n.sessionID = none := by
                    simpa using hwait
                  rw [hnone] at hcase
                  exact hcase
                · intro hwait hfmc hrole
                  obtain ⟨v, hv⟩ := Option.isSome_iff_exists.mp hwait
                  rw [hv] at hcase
                  exact hcase.2 hfmc hrole
          · next hlen =>
              have hzero : n.tcpDatLen.toNat = 0 := by
                have hz : n.tcpDatLen = 0 := by simpa using hlen
                rw [hz]
                rfl
              have hunread (id : SessionId) : notifBytes id ns = s.unread id := by
                rw [unread_of_ne (by simp [hst]), hbuf, notifBytes_cons, hzero, ite_self,
                  Nat.zero_add]
              split
              · have hafter := afterNotif_waitNotif s.rrh
                refine h.frame rfl rfl rfl rfl rfl ?_ hne hafter
                intro id
                rw [← hunread id]
                exact unread_of_ne hafter.2.1
              · refine h.frame rfl rfl rfl rfl rfl ?_ hne (by simp [hst])
                intro id
                rw [← hunread id]
                exact unread_of_ne (by simp [hst])
      · exact rrhTakeUp_sessions h hst
  · exact rrhTakeUp_sessions h hst

lemma afterNotif_startRequest (r : RrhState) :
    r.afterNotif .startRequest ≠ .reset ∧ r.afterNotif .startRequest ≠ .processNotif ∧
      r.afterNotif .startRequest ≠ .processRequest ∧
      (r.afterNotif .startRequest = .startRequest → r.goBack true = false ∧ r.goBack false = false) := by
  rw [RrhState.afterNotif]
  split
  · simp
  · next hfmc =>
      split
      · simp
      · next hrole =>
          refine ⟨by simp, by simp, by simp, fun _ => ⟨?_, ?_⟩⟩
          · simpa [RrhState.goBack] using hfmc
          · simpa [RrhState.goBack] using hrole

lemma recorded_eq {r : RrhState} {o : Option TcpDatLen} (h : r.sessionLength.lookup id = o) :
    r.recorded id = (o.map BitVec.toNat).getD 0 := by
  rw [RrhState.recorded, h]

/-- `RRH_PROCESS_NOTIF`. -/
lemma rrhProcessNotif_sessions (h : RrhSessions s) (hst : s.rrh.fsmState = .processNotif) :
    RrhSessions (rrhProcessNotif s k) := by
  have hn := h.notif hst
  have hne : s.rrh.fsmState ≠ .processRequest := by simp [hst]
  have hafter := afterNotif_startRequest s.rrh
  have hunread (id : SessionId) : s.unread id
      = notifBytes id s.sTcpNotifBuffer
        + if s.rrh.notif.sessionID = id then s.rrh.notif.tcpDatLen.toNat else 0 := by
    rw [NalState.unread, if_pos hst, notifBytes_cons]
    rfl
  rw [rrhProcessNotif]
  split
  · cases hal : s.rrh.alreadyWaiting with
    | true =>
        have hwaiting := hn.waiting hal
        have hadd := hn.add hal
        have hsum : (s.rrh.notif.tcpDatLen + s.rrh.waitingLength).toNat
            = s.rrh.notif.tcpDatLen.toNat + s.rrh.waitingLength.toNat := by
          rw [BitVec.toNat_add]
          omega
        have hlookup (id : SessionId) :
            (s.rrh.sessionLength.update s.rrh.notif.sessionID
                (s.rrh.notif.tcpDatLen + s.rrh.waitingLength)).lookup id
              = if id = s.rrh.notif.sessionID
                then some (s.rrh.notif.tcpDatLen + s.rrh.waitingLength)
                else s.rrh.sessionLength.lookup id := by
          have hassign := @SlotArray.lookup_assign _ _ _ s.rrh.notif.sessionID id
            (s.rrh.notif.tcpDatLen + s.rrh.waitingLength) s.rrh.sessionLength.entries
          rw [show SlotArray.lookup s.rrh.notif.sessionID s.rrh.sessionLength.entries
            = some s.rrh.waitingLength from hwaiting] at hassign
          exact hassign
        rw [if_pos rfl]
        refine ⟨SlotArray.distinct_assign h.distinct, fun h => absurd h hafter.1, ?_, ?_, ?_, ?_,
          fun h => absurd h hafter.2.1, ?_, fun h => absurd h hafter.2.2.1⟩
        · have hnodup := h.nodup
          rw [known_of_ne hne] at hnodup
          rw [known_of_ne hafter.2.2.1]
          exact hnodup
        · intro id
          have hmem := h.mem id
          rw [known_of_ne hne] at hmem
          rw [known_of_ne hafter.2.2.1, hlookup id]
          split
          · next heq =>
              rw [heq] at hmem ⊢
              rw [hwaiting] at hmem
              exact hmem
          · exact hmem
        · intro id v
          rw [hlookup id]
          split
          · intro hv hzero
            have hpos : s.rrh.notif.tcpDatLen.toNat ≠ 0 := fun hz =>
              hn.pos (BitVec.eq_of_toNat_eq hz)
            have hnat := congrArg BitVec.toNat (Option.some.inj hv)
            rw [hsum, hzero] at hnat
            have hz : (0 : TcpDatLen).toNat = 0 := rfl
            omega
          · exact h.pos id v
        · intro id
          have hsums := h.sums id
          rw [hunread id] at hsums
          rw [unread_of_ne hafter.2.1, recorded_eq (hlookup id)]
          by_cases heq : id = s.rrh.notif.sessionID
          · subst heq
            rw [recorded_eq hwaiting, if_pos rfl] at hsums
            rw [if_pos rfl]
            simp only [Option.map_some, Option.getD_some] at hsums ⊢
            omega
          · rw [if_neg (Ne.symm heq)] at hsums
            rw [if_neg heq]
            exact hsums
        · intro hstart
          obtain ⟨hfmc, hrole⟩ := hafter.2.2.2 hstart
          exact hn.takeUp hal hfmc hrole
    | false =>
        have hnone : s.rrh.sessionLength.lookup s.rrh.notif.sessionID = none := by
          have halready := hn.already
          rw [hal] at halready
          simpa using halready.symm
        have hfree := hn.free hal
        have hlookup (id : SessionId) :
            (s.rrh.sessionLength.insert s.rrh.notif.sessionID s.rrh.notif.tcpDatLen).lookup id
              = if id = s.rrh.notif.sessionID then some s.rrh.notif.tcpDatLen
                else s.rrh.sessionLength.lookup id :=
          SlotArray.lookup_store hfree hnone
        have hnew : s.rrh.notif.sessionID ∉ s.rrh.queued := by
          rw [← known_of_ne hne, h.mem, hnone]
          simp
        rw [if_neg Bool.false_ne_true]
        generalize hfmc : decide (s.rrh.notif.ip4SrcAddr = k.cfrmIp4Addr ∧
          s.rrh.notif.tcpDstPort = k.fmcLsnPort) = isFmc
        dsimp only
        have hperm : List.Perm
            (List.map (·.sessId) ((s.rrh.waitingSessions ++ [⟨s.rrh.notif.sessionID, isFmc⟩])
              ++ s.rrh.sessionReinsert)) (s.rrh.notif.sessionID :: s.rrh.queued) := by
          rw [List.append_assoc]
          exact (List.perm_middle).map _
        refine ⟨(SlotArray.distinct_store_iff h.distinct hfree).mpr hnone,
          fun h => absurd h hafter.1, ?_, ?_, ?_, ?_, fun h => absurd h hafter.2.1, ?_,
          fun h => absurd h hafter.2.2.1⟩
        · have hnodup := h.nodup
          rw [known_of_ne hne] at hnodup
          rw [known_of_ne hafter.2.2.1]
          exact hperm.nodup_iff.mpr (List.nodup_cons.mpr ⟨hnew, hnodup⟩)
        · intro id
          have hmem := h.mem id
          rw [known_of_ne hne] at hmem
          rw [known_of_ne hafter.2.2.1, hlookup id]
          refine hperm.mem_iff.trans ?_
          rw [List.mem_cons, hmem]
          by_cases heq : id = s.rrh.notif.sessionID <;> simp [heq]
        · intro id v
          rw [hlookup id]
          split
          · intro hv hzero
            exact hn.pos (by rw [Option.some.inj hv, hzero])
          · exact h.pos id v
        · intro id
          have hsums := h.sums id
          rw [hunread id] at hsums
          rw [unread_of_ne hafter.2.1, recorded_eq (hlookup id)]
          by_cases heq : id = s.rrh.notif.sessionID
          · subst heq
            rw [recorded_eq hnone, if_pos rfl] at hsums
            rw [if_pos rfl]
            simp only [Option.map_none, Option.getD_none, Option.map_some, Option.getD_some]
              at hsums ⊢
            omega
          · rw [if_neg (Ne.symm heq)] at hsums
            rw [if_neg heq]
            exact hsums
        · intro _
          simp
  · exact h

/-- `RRH_START_REQUEST`. -/
lemma rrhStartRequest_sessions (h : RrhSessions s) (hok : RrhOk s k)
    (hst : s.rrh.fsmState = .startRequest) (hfree : ∀ fmc, s.rrh.free fmc ≠ 0) :
    RrhSessions (rrhStartRequest s) := by
  have hne : s.rrh.fsmState ≠ .processRequest := by simp [hst]
  rw [rrhStartRequest]
  split
  · next w ws hwait =>
      split
      · have hexact := hok.2
        rw [hst] at hexact
        have hneq := hexact w (by rw [hwait]; rfl)
        have hnodup := h.nodup
        rw [known_of_ne hne, RrhState.queued, hwait, List.cons_append, List.map_cons] at hnodup
        have hmem (id : SessionId) := h.mem id
        simp only [known_of_ne hne, RrhState.queued, hwait, List.cons_append, List.map_cons]
          at hmem
        obtain ⟨v, hv⟩ := Option.isSome_iff_exists.mp ((hmem w.sessId).mp List.mem_cons_self)
        have hvpos := h.pos _ _ hv
        rw [hv] at hneq ⊢
        have hsums (id : SessionId) := h.sums id
        simp only [unread_of_ne (show s.rrh.fsmState ≠ .processNotif by simp [hst])] at hsums
        dsimp only [Option.getD_some]
        split
        · next hle =>
            refine ⟨h.distinct, fun h => (by cases h), hnodup, hmem, h.pos, hsums,
              fun h => (by cases h), fun h => (by cases h), fun _ => ?_⟩
            have hne' : v.toNat ≠ (s.rrh.free w.fmcCon).toNat := fun heq =>
              hneq (congrArg some (BitVec.eq_of_toNat_eq heq))
            have hle' : (s.rrh.free w.fmcCon).toNat ≤ v.toNat := hle
            have hsub : (v - s.rrh.free w.fmcCon).toNat
                = v.toNat - (s.rrh.free w.fmcCon).toNat := BitVec.toNat_sub_of_le hle
            refine ⟨hfree w.fmcCon, Nat.le_refl _, fun _ => ⟨rfl, ?_, ?_⟩, fun h => by cases h⟩
            · intro hzero
              have hnat := congrArg BitVec.toNat hzero
              rw [hsub] at hnat
              have hz : (0 : TcpDatLen).toNat = 0 := rfl
              omega
            · refine (recorded_eq hv).trans ?_
              simp only [Option.map_some, Option.getD_some, hsub]
              omega
        · next hlt =>
            refine ⟨h.distinct, fun h => (by cases h), hnodup, hmem, h.pos, hsums,
              fun h => (by cases h), fun h => (by cases h), fun _ => ?_⟩
            have hlt' : v.toNat < (s.rrh.free w.fmcCon).toNat := Nat.lt_of_not_le hlt
            exact ⟨hvpos, hlt'.le, fun h => (by cases h), fun _ => recorded_eq hv⟩
      · exact h
  · exact h

/-- `RRH_PROCESS_REQUEST`. -/
lemma rrhProcessRequest_sessions (h : RrhSessions s) (hup : k.up = true)
    (hst : s.rrh.fsmState = .processRequest) : RrhSessions (rrhProcessRequest s k) := by
  have hr := h.request hst
  have hnodup := h.nodup
  have hmem (id : SessionId) := h.mem id
  have hsums (id : SessionId) := h.sums id
  have hwaits : RrhState.waits s.rrh.foundFmcSess ≠ .reset ∧
      RrhState.waits s.rrh.foundFmcSess ≠ .processNotif ∧
      RrhState.waits s.rrh.foundFmcSess ≠ .startRequest ∧
      RrhState.waits s.rrh.foundFmcSess ≠ .processRequest := by
    cases s.rrh.foundFmcSess <;> simp [RrhState.waits]
  rw [RrhState.known, if_pos hst] at hnodup
  simp only [RrhState.known, if_pos hst] at hmem
  simp only [unread_of_ne (show s.rrh.fsmState ≠ .processNotif by simp [hst])] at hsums
  obtain ⟨v, hv⟩ := Option.isSome_iff_exists.mp ((hmem s.rrh.foundID).mp List.mem_cons_self)
  have hrequest (id : SessionId) (fmc : Bool) (free : PacketLen) :
      requestBytes id [⟨⟨s.rrh.foundID, s.rrh.requestedLength⟩, fmc, free⟩]
        = if s.rrh.foundID = id then s.rrh.requestedLength.toNat else 0 := rfl
  rw [rrhProcessRequest, if_neg (by simp [hup])]
  split
  · cases hcut : s.rrh.needCamUpdate with
    | true =>
        obtain ⟨-, hleft, hrec⟩ := hr.cut hcut
        have hlookup (id : SessionId) :
            (s.rrh.sessionLength.update s.rrh.foundID s.rrh.lengthUpdateValue).lookup id
              = if id = s.rrh.foundID then some s.rrh.lengthUpdateValue
                else s.rrh.sessionLength.lookup id := by
          have hassign := @SlotArray.lookup_assign _ _ _ s.rrh.foundID id
            s.rrh.lengthUpdateValue s.rrh.sessionLength.entries
          rw [show SlotArray.lookup s.rrh.foundID s.rrh.sessionLength.entries = some v from hv]
            at hassign
          exact hassign
        have hperm : List.Perm
            (List.map (·.sessId) (s.rrh.waitingSessions ++ (s.rrh.sessionReinsert ++
              [⟨s.rrh.foundID, s.rrh.foundFmcSess⟩]))) (s.rrh.foundID :: s.rrh.queued) := by
          rw [← List.append_assoc]
          exact (List.perm_append_singleton _ _).map _
        simp only [if_true]
        refine ⟨SlotArray.distinct_assign h.distinct, fun h => absurd h hwaits.1, ?_, ?_, ?_, ?_,
          fun h => absurd h hwaits.2.1, fun h => absurd h hwaits.2.2.1,
          fun h => absurd h hwaits.2.2.2⟩
        · rw [known_of_ne hwaits.2.2.2, RrhState.queued]
          simp only [waitingSessions_setFree]
          exact hperm.nodup_iff.mpr hnodup
        · intro id
          rw [known_of_ne hwaits.2.2.2, RrhState.queued, hlookup id]
          simp only [waitingSessions_setFree]
          refine hperm.mem_iff.trans ((hmem id).trans ?_)
          by_cases heq : id = s.rrh.foundID
          · simp [heq, hv]
          · simp [heq]
        · intro id w
          rw [hlookup id]
          split
          · intro hw
            rw [← Option.some.inj hw]
            exact hleft
          · exact h.pos id w
        · intro id
          have hid := hsums id
          rw [unread_of_ne hwaits.2.1, recorded_eq (hlookup id), requestBytes_append, hrequest]
          by_cases heq : id = s.rrh.foundID
          · subst heq
            rw [hrec] at hid
            rw [if_pos rfl, if_pos rfl]
            simp only [Option.map_some, Option.getD_some]
            omega
          · rw [if_neg (Ne.symm heq), if_neg heq, Nat.add_zero]
            exact hid
    | false =>
        have hrec := hr.whole hcut
        have hlookup (id : SessionId) :
            (s.rrh.sessionLength.deleteEntry s.rrh.foundID).lookup id
              = if id = s.rrh.foundID then none else s.rrh.sessionLength.lookup id :=
          SlotArray.lookup_discard h.distinct
        obtain ⟨hnotin, hqueue⟩ := List.nodup_cons.mp hnodup
        simp only [Bool.false_eq_true, if_false]
        refine ⟨SlotArray.distinct_discard h.distinct, fun h => absurd h hwaits.1, ?_, ?_, ?_, ?_,
          fun h => absurd h hwaits.2.1, fun h => absurd h hwaits.2.2.1,
          fun h => absurd h hwaits.2.2.2⟩
        · rw [known_of_ne hwaits.2.2.2, RrhState.queued]
          simp only [waitingSessions_setFree, sessionReinsert_setFree]
          exact hqueue
        · intro id
          rw [known_of_ne hwaits.2.2.2, RrhState.queued, hlookup id]
          simp only [waitingSessions_setFree, sessionReinsert_setFree]
          have hid := hmem id
          rw [List.mem_cons] at hid
          by_cases heq : id = s.rrh.foundID
          · subst heq
            rw [if_pos rfl]
            exact iff_of_false hnotin (by simp)
          · rw [if_neg heq, ← hid]
            simp [heq, RrhState.queued]
        · intro id w
          rw [hlookup id]
          split
          · intro hw
            cases hw
          · exact h.pos id w
        · intro id
          have hid := hsums id
          rw [unread_of_ne hwaits.2.1, recorded_eq (hlookup id), requestBytes_append, hrequest]
          by_cases heq : id = s.rrh.foundID
          · subst heq
            rw [hrec] at hid
            rw [if_pos rfl, if_pos rfl]
            simp only [Option.map_none, Option.getD_none]
            omega
          · rw [if_neg (Ne.symm heq), if_neg heq, Nat.add_zero]
            exact hid
  · exact h

/-- `RRH_WAIT_FMC` and `RRH_WAIT_ROLE`. -/
lemma rrhWaitAck_sessions {fmc sigHere : Bool} (h : RrhSessions s) (hup : k.up = true)
    (hst : s.rrh.fsmState = RrhState.waits fmc) : RrhSessions (rrhWaitAck s k fmc sigHere) := by
  have hne : s.rrh.fsmState ≠ .processRequest ∧ s.rrh.fsmState ≠ .processNotif := by
    rw [hst]
    cases fmc <;> simp [RrhState.waits]
  have hback : RrhSessions { s with
      rrh := { s.rrh.setGoBack fmc true with fsmState := .waitNotif } } := by
    refine h.frame (by simp) (by simp) (by simp) rfl rfl (fun id => ?_) hne.1 (by simp)
    rw [unread_of_ne hne.2]
    exact unread_of_ne fun h => by cases h
  rw [rrhWaitAck, if_neg (by simp [hup])]
  split
  · split
    · refine h.frame (by simp) (by simp) (by simp) rfl rfl (fun id => ?_) hne.1 (by simp)
      rw [unread_of_ne hne.2]
      exact unread_of_ne fun h => by cases h
    · split
      · exact hback
      · exact h
  · split
    · exact hback
    · exact h

/-- One call of `pTcpRRh`, as long as bytes are free when a session is taken up. -/
theorem pTcpRRh_sessions (h : RrhSessions s) (hok : RrhOk s k)
    (hdrain : s.rrh.fsmState ≠ .drain)
    (hfree : s.rrh.fsmState = .startRequest → ∀ fmc, s.rrh.free fmc ≠ 0) :
    RrhSessions (pTcpRRh s k) := by
  rw [pTcpRRh]
  split
  · next hst => exact rrhReset_sessions h hst
  · next hst => exact rrhWaitNotif_sessions h hok hst
  · next hst => exact rrhProcessNotif_sessions h hst
  · next hst => exact rrhStartRequest_sessions h hok hst (hfree hst)
  · next hst => exact rrhProcessRequest_sessions h hok.1 hst
  · next hst => exact rrhWaitAck_sessions h hok.1 hst
  · next hst => exact rrhWaitAck_sessions h hok.1 hst
  · next hst => exact absurd hst hdrain

end Sessions

end CloudFpga.Nal
