import CloudFpga.Foundation.Circular
import CloudFpga.Toe.Types

/-!
The finite state machine of the Rx engine, `pFiniteStateMachine` of `rx_engine.cpp`.

The process has two states. In `FSM_LOAD` it reads the meta-data of a segment and queries the
tables (`fsmLoad`); in `FSM_TRANSITION` it waits for the replies and then processes the segment
(`fsmTransition`). What a call writes on its output streams is an `FsmOut`, one list for each
stream; the pieces of a call are appended in the order of the source. The counters and the
debug streams are left out.

* `fsmAck`, `fsmSyn`, `fsmSynAck`, `fsmFinAck`, `fsmDefault`: the five branches on the control
  bits; `fsmAck` is built from `ackTxSar`, `ackPayload`, `ackEvent` and `ackState`.
* `OooCase`, `oooCase`: which of the six cases of the in-order and out-of-order logic a segment
  with payload falls in.
-/

namespace CloudFpga.Toe

open Foundation

/-! ### Outputs -/

/-- What a call of the state machine writes on its output streams. -/
structure FsmOut where
  stateQry : List StateQuery := []
  rxSarQry : List RXeRxSarQuery := []
  txSarQry : List RXeTxSarQuery := []
  reTxTimerCmd : List RXeReTransTimerCmd := []
  clearProbeTimer : List SessionId := []
  closeTimer : List SessionId := []
  sessOpnSts : List SessState := []
  event : List Event := []
  dropCmd : List CmdBit := []
  memWrCmd : List DmCmd := []
  rxNotif : List TcpAppNotif := []
  deriving DecidableEq, Repr

namespace FsmOut

protected def append (a b : FsmOut) : FsmOut where
  stateQry := a.stateQry ++ b.stateQry
  rxSarQry := a.rxSarQry ++ b.rxSarQry
  txSarQry := a.txSarQry ++ b.txSarQry
  reTxTimerCmd := a.reTxTimerCmd ++ b.reTxTimerCmd
  clearProbeTimer := a.clearProbeTimer ++ b.clearProbeTimer
  closeTimer := a.closeTimer ++ b.closeTimer
  sessOpnSts := a.sessOpnSts ++ b.sessOpnSts
  event := a.event ++ b.event
  dropCmd := a.dropCmd ++ b.dropCmd
  memWrCmd := a.memWrCmd ++ b.memWrCmd
  rxNotif := a.rxNotif ++ b.rxNotif

instance : Append FsmOut := ⟨FsmOut.append⟩

variable (a b : FsmOut)

@[simp] lemma append_stateQry : (a ++ b).stateQry = a.stateQry ++ b.stateQry := rfl
@[simp] lemma append_rxSarQry : (a ++ b).rxSarQry = a.rxSarQry ++ b.rxSarQry := rfl
@[simp] lemma append_txSarQry : (a ++ b).txSarQry = a.txSarQry ++ b.txSarQry := rfl
@[simp] lemma append_event : (a ++ b).event = a.event ++ b.event := rfl
@[simp] lemma append_dropCmd : (a ++ b).dropCmd = a.dropCmd ++ b.dropCmd := rfl
@[simp] lemma append_memWrCmd : (a ++ b).memWrCmd = a.memWrCmd ++ b.memWrCmd := rfl
@[simp] lemma append_rxNotif : (a ++ b).rxNotif = a.rxNotif ++ b.rxNotif := rfl

/-- What is written on the streams that deal with the payload: the Rx SAR table, the segment
dropper, the memory writer and the application. -/
def data (a : FsmOut) : FsmOut where
  rxSarQry := a.rxSarQry
  dropCmd := a.dropCmd
  memWrCmd := a.memWrCmd
  rxNotif := a.rxNotif

@[simp] lemma data_rxSarQry : a.data.rxSarQry = a.rxSarQry := rfl
@[simp] lemma data_dropCmd : a.data.dropCmd = a.dropCmd := rfl
@[simp] lemma data_memWrCmd : a.data.memWrCmd = a.memWrCmd := rfl
@[simp] lemma data_rxNotif : a.data.rxNotif = a.rxNotif := rfl
@[simp] lemma data_append : (a ++ b).data = a.data ++ b.data := rfl
@[simp] lemma empty_append : ({} : FsmOut) ++ a = a := rfl

@[simp] lemma append_empty : a ++ ({} : FsmOut) = a := by
  show FsmOut.append a {} = a
  simp [FsmOut.append]

end FsmOut

/-! ### The load state -/

/-- `FSM_LOAD`: the state and the Rx SAR entry of the session are always queried, the Tx SAR
entry only when the segment carries an acknowledgment. -/
def fsmLoad (m : RXeFsmMeta) : FsmOut where
  stateQry := [.rd m.sessionId]
  rxSarQry := [.rd m.sessionId]
  txSarQry := if m.ack then [.rd m.sessionId] else []

/-! ### The pieces of the ACK branch -/

/-- The free space of the Rx buffer: it ensures that `appd` is not overtaken. -/
def fsmFreeSpace (rxSar : RxSarReply) : RxBufPtr := rxSar.appd - rxSar.oooHead.setWidth 16 - 1

/-- The command to the retransmit timer. -/
def fsmTimerCmd (m : RXeFsmMeta) (txSar : RXeTxSarReply) : TimerCmd :=
  if m.ackNumb = txSar.prevUnak then .stopTimer else .loadTimer

/-- The segment repeats the last acknowledgment while data is in flight. -/
def notNewAck (m : RXeFsmMeta) (txSar : RXeTxSarReply) : Bool :=
  m.ackNumb = txSar.prevAckd ∧ txSar.prevAckd ≠ txSar.prevUnak

/-- The local copy of the Tx SAR entry after the check for a new acknowledgment. -/
def ackTxSar (m : RXeFsmMeta) (txSar : RXeTxSarReply) : RXeTxSarReply :=
  if notNewAck m txSar then
    -- not a new ACK; count it if it does not contain data
    if m.length = 0 then { txSar with count := txSar.count + 1 } else txSar
  else
    { txSar with
      congWindow :=
        if (txSar.congWindow.toNat : ℤ) ≤ txSar.slowstartThreshold.toNat - zyc2Mss then
          txSar.congWindow + BitVec.ofNat 16 zyc2Mss
        else if txSar.congWindow.toNat ≤ toeMaxCongestionWindow then txSar.congWindow + 365
        else txSar.congWindow
      count := 0
      fastRetransmitted := false }

/-- The range check of the acknowledgment number. -/
def ackInRange (m : RXeFsmMeta) (txSar : RXeTxSarReply) : Bool :=
  (m.ackNumb ≥ txSar.prevAckd ∧ m.ackNumb ≤ txSar.prevUnak)
    ∨ ((m.ackNumb ≥ txSar.prevAckd ∨ m.ackNumb ≤ txSar.prevUnak)
        ∧ txSar.prevUnak < txSar.prevAckd)

/-- The update of the Tx SAR table and of the probe timer. -/
def ackUpdate (m : RXeFsmMeta) (txSar : RXeTxSarReply) : FsmOut :=
  let txSar' := ackTxSar m txSar
  { clearProbeTimer := if notNewAck m txSar then [] else [m.sessionId]
    txSarQry :=
      if ackInRange m txSar then
        [.wr m.sessionId m.ackNumb m.winSize txSar'.congWindow txSar'.count
          (txSar'.count = 3 ∨ txSar'.fastRetransmitted)]
      else [] }

/-- The DDR memory address of a segment: the Rx buffers are the lower 1GB. -/
def rxMemSegAddr (m : RXeFsmMeta) : BitVec 32 :=
  memSegAddr toeRxMemoryBase m.sessionId (m.seqNumb.setWidth 16)

/-- The memory write command of a segment. -/
def rxMemWrCmd (m : RXeFsmMeta) : DmCmd := .ofAddrLen (rxMemSegAddr m) m.length

/-- A notification of `len` bytes for the session of a segment. -/
def rxNotif (m : RXeFsmMeta) (len : TcpDatLen) (state : TcpState := .closed) : TcpAppNotif where
  sessionID := m.sessionId
  tcpDatLen := len
  ip4SrcAddr := m.ip4SrcAddr
  tcpSrcPort := m.tcpSrcPort
  tcpDstPort := m.tcpDstPort
  tcpState := state

/-- The cases of the payload processing. -/
inductive OooCase where
  /-- no out-of-order bytes, the segment is the expected one -/
  | default
  /-- no out-of-order bytes yet, the segment is ahead of the expected one -/
  | start
  /-- out-of-order bytes exist, the segment follows `oooHead` -/
  | continueHead
  /-- out-of-order bytes exist, the expected segment leaves a gap -/
  | continueGap
  /-- out-of-order bytes exist, the expected segment fills the gap -/
  | finish
  | drop
  deriving DecidableEq, Repr

/-- The case of a segment with payload. The sums `seqNumb + length` that are compared with `<`
and `==` are 33 bits wide, hence the sums of naturals. -/
def oooCase (m : RXeFsmMeta) (rxSar : RxSarReply) : OooCase :=
  if ¬rxSar.ooo ∧ m.seqNumb = rxSar.rcvd ∧ fsmFreeSpace rxSar > m.length then .default
  else if ¬rxSar.ooo ∧ m.seqNumb > rxSar.rcvd
      ∧ fsmFreeSpace rxSar
          > (m.seqNumb + m.length.setWidth 32 - rxSar.oooHead).setWidth 16 then .start
  else if rxSar.ooo ∧ m.seqNumb = rxSar.oooHead ∧ fsmFreeSpace rxSar > m.length then
    .continueHead
  else if rxSar.ooo ∧ m.seqNumb = rxSar.rcvd
      ∧ m.seqNumb.toNat + m.length.toNat < rxSar.oooTail.toNat then .continueGap
  else if rxSar.ooo ∧ m.seqNumb = rxSar.rcvd
      ∧ m.seqNumb.toNat + m.length.toNat = rxSar.oooTail.toNat then .finish
  else .drop

/-- What the payload processing writes in a given case. -/
def oooOut (m : RXeFsmMeta) (rxSar : RxSarReply) : OooCase → FsmOut
  | .default =>
      { rxSarQry := [.wr m.sessionId (m.seqNumb + m.length.setWidth 32)]
        memWrCmd := [rxMemWrCmd m]
        rxNotif := [rxNotif m m.length]
        dropCmd := [cmdKeep] }
  | .start =>
      -- a notification of length 0 is not forwarded to the application
      { rxSarQry := [.wrOoo m.sessionId rxSar.rcvd true
          (m.seqNumb + m.length.setWidth 32) m.seqNumb]
        memWrCmd := [rxMemWrCmd m]
        rxNotif := [rxNotif m 0]
        dropCmd := [cmdKeep] }
  | .continueHead =>
      { rxSarQry := [.wrOoo m.sessionId rxSar.rcvd true
          (m.seqNumb + m.length.setWidth 32) rxSar.oooTail]
        memWrCmd := [rxMemWrCmd m]
        rxNotif := [rxNotif m 0]
        dropCmd := [cmdKeep] }
  | .continueGap =>
      { rxSarQry := [.wrOoo m.sessionId (m.seqNumb + m.length.setWidth 32) true
          rxSar.oooHead rxSar.oooTail]
        memWrCmd := [rxMemWrCmd m]
        rxNotif := [rxNotif m m.length]
        dropCmd := [cmdKeep] }
  | .finish =>
      { rxSarQry := [.wrOoo m.sessionId rxSar.oooHead false rxSar.oooHead rxSar.oooTail]
        memWrCmd := [rxMemWrCmd m]
        rxNotif := [rxNotif m ((rxSar.oooHead - rxSar.rcvd).setWidth 16)]
        dropCmd := [cmdKeep] }
  | .drop => { dropCmd := [cmdDrop] }

/-- The payload processing of the ACK branch. -/
def ackPayload (m : RXeFsmMeta) (rxSar : RxSarReply) : FsmOut :=
  if m.length ≠ 0 then oooOut m rxSar (oooCase m rxSar) else {}

/-- The event of the ACK branch. -/
def ackEvent (m : RXeFsmMeta) (rxSar : RxSarReply) : FsmOut :=
  if m.length ≠ 0 then
    if ¬rxSar.ooo ∧ m.seqNumb = rxSar.rcvd ∧ fsmFreeSpace rxSar > m.length then
      { event := [{ type := .ack, sessionID := m.sessionId }] }
    else { event := [{ type := .ackNodelay, sessionID := m.sessionId }] }
  else {}

/-- The state update of the ACK branch, which also releases the lock of the state table. -/
def ackState (m : RXeFsmMeta) (tcpState : TcpState) (txSar : RXeTxSarReply) : FsmOut :=
  if m.ackNumb = txSar.prevUnak then
    match tcpState with
    | .synReceived => { stateQry := [.wr m.sessionId .established] }
    | .closing =>
        { stateQry := [.wr m.sessionId .timeWait]
          closeTimer := [m.sessionId] }
    | .lastAck => { stateQry := [.wr m.sessionId .closed] }
    | s => { stateQry := [.wr m.sessionId s] }
  else { stateQry := [.wr m.sessionId tcpState] }

/-- The states in which an acknowledgment is processed. -/
def ackAccepted (tcpState : TcpState) : Bool :=
  tcpState = .established ∨ tcpState = .synReceived ∨ tcpState = .finWait1
    ∨ tcpState = .closing ∨ tcpState = .lastAck

/-! ### The branches on the control bits -/

/-- The ACK branch. -/
def fsmAck (m : RXeFsmMeta) (tcpState : TcpState) (rxSar : RxSarReply)
    (txSar : RXeTxSarReply) : FsmOut :=
  { reTxTimerCmd := [⟨m.sessionId, fsmTimerCmd m txSar⟩] } ++
  if ackAccepted tcpState then
    ackUpdate m txSar ++ (ackPayload m rxSar ++ (ackEvent m rxSar ++ ackState m tcpState txSar))
  else
    { event := [rstEvent m.sessionId (m.seqNumb + m.length.setWidth 32)]
      dropCmd := if m.length ≠ 0 then [cmdDrop] else []
      stateQry := [.wr m.sessionId tcpState] }

/-- The SYN branch. -/
def fsmSyn (m : RXeFsmMeta) (tcpState : TcpState) (rxSar : RxSarReply) : FsmOut :=
  if tcpState = .closed ∨ tcpState = .synSent then
    -- the other Tx SAR fields are zero or false; the Tx engine initialises them
    { rxSarQry := [.wrInit m.sessionId (m.seqNumb + 1)]
      txSarQry := [.wr m.sessionId 0 m.winSize 0 0 false]
      event := [{ type := .synAck, sessionID := m.sessionId }]
      stateQry := [.wr m.sessionId .synReceived] }
  else if tcpState = .synReceived then
    if m.seqNumb.toNat + 1 = rxSar.rcvd.toNat then
      { event := [{ type := .synAck, sessionID := m.sessionId, rtCount := 1 }]
        stateQry := [.wr m.sessionId tcpState] }
    else
      { event := [rstEvent m.sessionId (m.seqNumb + 1)]
        stateQry := [.wr m.sessionId .closed] }
  else
    { event := [{ type := .ackNodelay, sessionID := m.sessionId }]
      stateQry := [.wr m.sessionId tcpState] }

/-- The SYN+ACK branch. -/
def fsmSynAck (m : RXeFsmMeta) (tcpState : TcpState) (txSar : RXeTxSarReply) : FsmOut :=
  { reTxTimerCmd := [⟨m.sessionId, fsmTimerCmd m txSar⟩] } ++
  if tcpState = .synSent ∧ m.ackNumb = txSar.prevUnak then
    { rxSarQry := [.wrInit m.sessionId (m.seqNumb + 1)]
      txSarQry := [.wr m.sessionId m.ackNumb m.winSize txSar.congWindow 0 false]
      event := [{ type := .ackNodelay, sessionID := m.sessionId }]
      stateQry := [.wr m.sessionId .established]
      sessOpnSts := [⟨m.sessionId, .established⟩] }
  else if tcpState = .synSent then
    { event := [rstEvent m.sessionId (m.seqNumb + m.length.setWidth 32 + 1)]
      stateQry := [.wr m.sessionId .closed] }
  else
    { event := [{ type := .ackNodelay, sessionID := m.sessionId }]
      stateQry := [.wr m.sessionId tcpState] }

/-- The FIN+ACK segment is in order in a state that accepts it. -/
def finAccepted (m : RXeFsmMeta) (tcpState : TcpState) (rxSar : RxSarReply) : Bool :=
  (tcpState = .established ∨ tcpState = .finWait1 ∨ tcpState = .finWait2)
    ∧ rxSar.rcvd = m.seqNumb

/-- The payload and the close notification of an accepted FIN+ACK segment. -/
def finPayload (m : RXeFsmMeta) (tcpState : TcpState) : FsmOut :=
  if m.length ≠ 0 then
    { memWrCmd := [rxMemWrCmd m]
      rxNotif := [rxNotif m m.length .closed]
      dropCmd := [cmdKeep] }
  else if tcpState = .established then { rxNotif := [rxNotif m 0 .closed] }
  else {}

/-- The state update of an accepted FIN+ACK segment. -/
def finState (m : RXeFsmMeta) (tcpState : TcpState) (txSar : RXeTxSarReply) : FsmOut :=
  if tcpState = .established then
    { event := [{ type := .fin, sessionID := m.sessionId }]
      stateQry := [.wr m.sessionId .lastAck] }
  else
    (if m.ackNumb = txSar.prevUnak then
      { stateQry := [.wr m.sessionId .timeWait]
        closeTimer := [m.sessionId] }
    else { stateQry := [.wr m.sessionId .closing] }) ++
    { event := [{ type := .ack, sessionID := m.sessionId }] }

/-- The FIN+ACK branch. The flag passed as `~QUERY_FAST_RETRANSMIT` is the integer `-2`, which
converts to true. -/
def fsmFinAck (m : RXeFsmMeta) (tcpState : TcpState) (rxSar : RxSarReply)
    (txSar : RXeTxSarReply) : FsmOut :=
  { reTxTimerCmd := [⟨m.sessionId, fsmTimerCmd m txSar⟩] } ++
  if finAccepted m tcpState rxSar then
    { txSarQry := [.wr m.sessionId m.ackNumb m.winSize txSar.congWindow txSar.count true]
      rxSarQry := [.wr m.sessionId (m.seqNumb + m.length.setWidth 32 + 1)]
      clearProbeTimer := [m.sessionId] } ++
    (finPayload m tcpState ++ finState m tcpState txSar)
  else
    { event := [{ type := .ack, sessionID := m.sessionId }]
      stateQry := [.wr m.sessionId tcpState]
      dropCmd := if m.length ≠ 0 then [cmdDrop] else [] }

/-- The branch of all other control bits. Without an ACK bit no Tx SAR reply is read, and
`txSar` stands for the uninitialised local variable. -/
def fsmDefault (m : RXeFsmMeta) (tcpState : TcpState) (rxSar : RxSarReply)
    (txSar : RXeTxSarReply) : FsmOut :=
  if m.rst then
    if tcpState = .synSent then
      if m.ackNumb = txSar.prevUnak then
        { sessOpnSts := [⟨m.sessionId, .closed⟩]
          stateQry := [.wr m.sessionId .closed]
          reTxTimerCmd := [⟨m.sessionId, .stopTimer⟩] }
      else { stateQry := [.wr m.sessionId tcpState] }
    else if m.seqNumb = rxSar.rcvd then
      { rxNotif := [rxNotif m 0 .closed]
        stateQry := [.wr m.sessionId .closed]
        reTxTimerCmd := [⟨m.sessionId, .stopTimer⟩] }
    else { stateQry := [.wr m.sessionId tcpState] }
  else { stateQry := [.wr m.sessionId tcpState] }

/-- `FSM_TRANSITION`, once the replies are there: the switch on the control bits. -/
def fsmTransition (m : RXeFsmMeta) (tcpState : TcpState) (rxSar : RxSarReply)
    (txSar : RXeTxSarReply) : FsmOut :=
  match m.rst, m.fin, m.syn, m.ack with
  | false, false, false, true => fsmAck m tcpState rxSar txSar
  | false, false, true, false => fsmSyn m tcpState rxSar
  | false, false, true, true => fsmSynAck m tcpState txSar
  | false, true, false, true => fsmFinAck m tcpState rxSar txSar
  | _, _, _, _ => fsmDefault m tcpState rxSar txSar

/-! ### First facts -/

/-- What is known of a segment that falls in a given case. -/
def OooGuard (m : RXeFsmMeta) (rxSar : RxSarReply) : OooCase → Prop
  | .default => rxSar.ooo = false ∧ m.seqNumb = rxSar.rcvd ∧ m.length < fsmFreeSpace rxSar
  | .start => rxSar.ooo = false ∧ rxSar.rcvd < m.seqNumb
      ∧ (m.seqNumb + m.length.setWidth 32 - rxSar.oooHead).setWidth 16 < fsmFreeSpace rxSar
  | .continueHead => rxSar.ooo = true ∧ m.seqNumb = rxSar.oooHead ∧ m.length < fsmFreeSpace rxSar
  | .continueGap => rxSar.ooo = true ∧ m.seqNumb = rxSar.rcvd
      ∧ rxSar.rcvd.toNat + m.length.toNat < rxSar.oooTail.toNat
  | .finish => rxSar.ooo = true ∧ m.seqNumb = rxSar.rcvd
      ∧ rxSar.rcvd.toNat + m.length.toNat = rxSar.oooTail.toNat
  | .drop => True

lemma oooGuard_oooCase (m : RXeFsmMeta) (rxSar : RxSarReply) :
    OooGuard m rxSar (oooCase m rxSar) := by
  unfold oooCase
  split_ifs with h1 h2 h3 h4 h5
  · exact ⟨by simpa using h1.1, h1.2.1, h1.2.2⟩
  · exact ⟨by simpa using h2.1, h2.2.1, h2.2.2⟩
  · exact h3
  · exact ⟨h4.1, h4.2.1, h4.2.1 ▸ h4.2.2⟩
  · exact ⟨h5.1, h5.2.1, h5.2.1 ▸ h5.2.2⟩
  · trivial

/-- The only flag is ACK. -/
def ackOnly (m : RXeFsmMeta) : Bool := m.ack ∧ ¬m.syn ∧ ¬m.fin ∧ ¬m.rst

/-- The flags are FIN and ACK. -/
def finAckOnly (m : RXeFsmMeta) : Bool := m.ack ∧ ¬m.syn ∧ m.fin ∧ ¬m.rst

/-- The only flag is SYN. -/
def synOnly (m : RXeFsmMeta) : Bool := ¬m.ack ∧ m.syn ∧ ¬m.fin ∧ ¬m.rst

section Dispatch

variable {m : RXeFsmMeta} (tcpState : TcpState) (rxSar : RxSarReply) (txSar : RXeTxSarReply)

lemma fsmTransition_of_ackOnly (h : ackOnly m) :
    fsmTransition m tcpState rxSar txSar = fsmAck m tcpState rxSar txSar := by
  simp only [ackOnly, decide_eq_true_eq, Bool.not_eq_true] at h
  simp only [fsmTransition, h]

lemma fsmTransition_of_finAckOnly (h : finAckOnly m) :
    fsmTransition m tcpState rxSar txSar = fsmFinAck m tcpState rxSar txSar := by
  simp only [finAckOnly, decide_eq_true_eq, Bool.not_eq_true] at h
  simp only [fsmTransition, h]

lemma fsmTransition_of_other (hack : ¬ackOnly m) (hfin : ¬finAckOnly m) :
    fsmTransition m tcpState rxSar txSar = fsmSyn m tcpState rxSar ∨
      fsmTransition m tcpState rxSar txSar = fsmSynAck m tcpState txSar ∨
      fsmTransition m tcpState rxSar txSar = fsmDefault m tcpState rxSar txSar := by
  simp only [ackOnly, finAckOnly, decide_eq_true_eq, Bool.not_eq_true] at hack hfin
  unfold fsmTransition
  split
  · next hr hf hs ha => exact absurd ⟨ha, hs, hf, hr⟩ hack
  · exact .inl rfl
  · exact .inr (.inl rfl)
  · next hr hf hs ha => exact absurd ⟨ha, hs, hf, hr⟩ hfin
  · exact .inr (.inr rfl)

end Dispatch

section Data

variable (m : RXeFsmMeta) (tcpState : TcpState) (rxSar : RxSarReply) (txSar : RXeTxSarReply)

@[simp] lemma data_ackUpdate : (ackUpdate m txSar).data = {} := rfl

@[simp] lemma data_ackEvent : (ackEvent m rxSar).data = {} := by
  unfold ackEvent
  split_ifs <;> rfl

@[simp] lemma data_ackState : (ackState m tcpState txSar).data = {} := by
  unfold ackState
  split
  · cases tcpState <;> rfl
  · rfl

@[simp] lemma data_finState : (finState m tcpState txSar).data = {} := by
  unfold finState
  split_ifs <;> rfl

@[simp] lemma data_ackPayload : (ackPayload m rxSar).data = ackPayload m rxSar := by
  unfold ackPayload oooOut
  split
  · cases oooCase m rxSar <;> rfl
  · rfl

@[simp] lemma data_finPayload : (finPayload m tcpState).data = finPayload m tcpState := by
  unfold finPayload
  split_ifs <;> rfl

/-- The command to drop the payload, if there is one. -/
def dropPayload : FsmOut := { dropCmd := if m.length ≠ 0 then [cmdDrop] else [] }

lemma data_fsmAck : (fsmAck m tcpState rxSar txSar).data
    = if ackAccepted tcpState then ackPayload m rxSar else dropPayload m := by
  unfold fsmAck
  split
  · simp only [FsmOut.data_append, data_ackUpdate, data_ackPayload, data_ackEvent,
      data_ackState, FsmOut.append_empty, FsmOut.empty_append]
    rfl
  · rfl

/-- The payload streams of an accepted FIN+ACK segment. -/
def finData : FsmOut :=
  { rxSarQry := [.wr m.sessionId (m.seqNumb + m.length.setWidth 32 + 1)] } ++
    finPayload m tcpState

lemma rxSarQry_finData : (finData m tcpState).rxSarQry
    = [.wr m.sessionId (m.seqNumb + m.length.setWidth 32 + 1)] := by
  unfold finData finPayload
  split_ifs <;> rfl

lemma data_fsmFinAck : (fsmFinAck m tcpState rxSar txSar).data
    = if finAccepted m tcpState rxSar then finData m tcpState else dropPayload m := by
  unfold fsmFinAck
  split
  · simp only [FsmOut.data_append, data_finPayload, data_finState, FsmOut.append_empty]
    rfl
  · rfl

end Data

section StateQry

variable (m : RXeFsmMeta) (tcpState : TcpState) (rxSar : RxSarReply) (txSar : RXeTxSarReply)

@[simp] lemma stateQry_ackUpdate : (ackUpdate m txSar).stateQry = [] := rfl

@[simp] lemma stateQry_ackPayload : (ackPayload m rxSar).stateQry = [] := by
  unfold ackPayload oooOut
  split
  · cases oooCase m rxSar <;> rfl
  · rfl

@[simp] lemma stateQry_ackEvent : (ackEvent m rxSar).stateQry = [] := by
  unfold ackEvent
  split_ifs <;> rfl

@[simp] lemma stateQry_finPayload : (finPayload m tcpState).stateQry = [] := by
  unfold finPayload
  split_ifs <;> rfl

lemma stateQry_fsmAck : (fsmAck m tcpState rxSar txSar).stateQry
    = if ackAccepted tcpState then (ackState m tcpState txSar).stateQry
      else [.wr m.sessionId tcpState] := by
  unfold fsmAck
  split
  · simp
  · rfl

lemma stateQry_fsmFinAck : (fsmFinAck m tcpState rxSar txSar).stateQry
    = if finAccepted m tcpState rxSar then (finState m tcpState txSar).stateQry
      else [.wr m.sessionId tcpState] := by
  unfold fsmFinAck
  split
  · simp
  · rfl

/-- Every branch writes the state of the session back exactly once, which releases the lock
that the load state took. -/
theorem fsmTransition_stateQry :
    ∃ s, (fsmTransition m tcpState rxSar txSar).stateQry = [.wr m.sessionId s] := by
  have hack : ∃ s, (ackState m tcpState txSar).stateQry = [.wr m.sessionId s] := by
    unfold ackState
    split
    · cases tcpState <;> exact ⟨_, rfl⟩
    · exact ⟨_, rfl⟩
  have hfin : ∃ s, (finState m tcpState txSar).stateQry = [.wr m.sessionId s] := by
    unfold finState
    split_ifs <;> exact ⟨_, rfl⟩
  unfold fsmTransition
  split
  · rw [stateQry_fsmAck]
    split
    · exact hack
    · exact ⟨_, rfl⟩
  · unfold fsmSyn
    split_ifs <;> exact ⟨_, rfl⟩
  · unfold fsmSynAck
    split_ifs <;> exact ⟨_, rfl⟩
  · rw [stateQry_fsmFinAck]
    split
    · exact hfin
    · exact ⟨_, rfl⟩
  · unfold fsmDefault
    split_ifs <;> exact ⟨_, rfl⟩

end StateQry

/-! ### Writes to the Tx SAR table -/

/-- A SYN that resets the Tx SAR entry of its session, for the Tx engine to initialise it. -/
def fsmResets (m : RXeFsmMeta) (tcpState : TcpState) : Bool :=
  synOnly m ∧ (tcpState = .closed ∨ tcpState = .synSent)

/-- An accepted FIN+ACK segment whose acknowledgment number is out of range. -/
def finAckOutOfRange (m : RXeFsmMeta) (tcpState : TcpState) (rxSar : RxSarReply)
    (txSar : RXeTxSarReply) : Bool :=
  finAckOnly m ∧ finAccepted m tcpState rxSar ∧ ¬ackInRange m txSar

/-- The range check is membership of the arc of the unacknowledged bytes. -/
lemma ackInRange_iff (m : RXeFsmMeta) (txSar : RXeTxSarReply) :
    ackInRange m txSar ↔ OnArc txSar.prevAckd m.ackNumb txSar.prevUnak := by
  rw [onArc_iff_unsigned, ackInRange, decide_eq_true_eq, ge_iff_le]

section TxSarQry

variable (m : RXeFsmMeta) (tcpState : TcpState) (rxSar : RxSarReply) (txSar : RXeTxSarReply)

@[simp] lemma txSarQry_ackPayload : (ackPayload m rxSar).txSarQry = [] := by
  unfold ackPayload oooOut
  split
  · cases oooCase m rxSar <;> rfl
  · rfl

@[simp] lemma txSarQry_ackEvent : (ackEvent m rxSar).txSarQry = [] := by
  unfold ackEvent
  split_ifs <;> rfl

@[simp] lemma txSarQry_ackState : (ackState m tcpState txSar).txSarQry = [] := by
  unfold ackState
  split
  · cases tcpState <;> rfl
  · rfl

@[simp] lemma txSarQry_finPayload : (finPayload m tcpState).txSarQry = [] := by
  unfold finPayload
  split_ifs <;> rfl

@[simp] lemma txSarQry_finState : (finState m tcpState txSar).txSarQry = [] := by
  unfold finState
  split_ifs <;> rfl

/-- What a transition writes to the Tx SAR table: nothing, or one write query for the session of
the segment. Unless it resets the entry, the segment carries an ACK, and its acknowledgment number
is in range or slipped through the FIN+ACK branch. -/
theorem fsmTransition_txSarQry :
    (fsmTransition m tcpState rxSar txSar).txSarQry = [] ∨
      ∃ w, (fsmTransition m tcpState rxSar txSar).txSarQry = [w] ∧ w.write = true ∧
        w.sessionID = m.sessionId ∧
        (fsmResets m tcpState ∨ m.ack = true ∧
          (OnArc txSar.prevAckd w.ackd txSar.prevUnak ∨
            finAckOutOfRange m tcpState rxSar txSar)) := by
  unfold fsmTransition
  split
  · next hack =>
      unfold fsmAck
      split
      · by_cases hin : ackInRange m txSar
        · have hqry : (ackUpdate m txSar).txSarQry = [_] := if_pos hin
          refine .inr ⟨_, by simpa using hqry, rfl, rfl, .inr ⟨hack, .inl ?_⟩⟩
          exact (ackInRange_iff m txSar).mp hin
        · exact .inl (by simp [ackUpdate, hin])
      · exact .inl rfl
  · next hr hf hs ha =>
      unfold fsmSyn
      split
      · next hst => exact .inr ⟨_, rfl, rfl, rfl, .inl (by simp [fsmResets, synOnly, *])⟩
      · split_ifs <;> exact .inl rfl
  · next hack =>
      unfold fsmSynAck
      split
      · next h =>
          refine .inr ⟨_, rfl, rfl, rfl, .inr ⟨hack, .inl ?_⟩⟩
          rw [h.2]
          exact onArc_right ..
      · split_ifs <;> exact .inl rfl
  · next hr hf hs ha =>
      unfold fsmFinAck
      split
      · next hfin =>
          refine .inr ⟨.wr m.sessionId m.ackNumb m.winSize txSar.congWindow txSar.count true,
            by simp, rfl, rfl, .inr ⟨ha, ?_⟩⟩
          by_cases hin : ackInRange m txSar
          · exact .inl ((ackInRange_iff m txSar).mp hin)
          · exact .inr (by simp [finAckOutOfRange, finAckOnly, *])
      · exact .inl rfl
  · unfold fsmDefault
    split_ifs <;> exact .inl rfl

end TxSarQry

end CloudFpga.Toe
