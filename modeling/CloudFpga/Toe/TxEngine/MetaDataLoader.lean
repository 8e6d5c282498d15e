import CloudFpga.Toe.Types

/-!
The meta-data loader of the Tx engine, `pMetaDataLoader` of `tx_engine.cpp`.

In `MDL_WAIT_EVENT` the process reads an event and queries the tables that the event needs; in
`MDL_PROCESS_EVENT` it waits for the replies and then processes the event, one segment in a call.
What a call writes on its output streams is an `MdlOut`.

* `mdlTx`, `mdlRt`, `mdlAck`, `mdlSyn`, `mdlSynAck`, `mdlFin`, `mdlRst`: the cases of the switch
  on the event type.
* `TxCase`, `txCase`: how much of the pending data a transmission sends.
* `pMetaDataLoader`: one call of the process.
-/

namespace CloudFpga.Toe

/-! ### State and outputs -/

inductive MdlFsmState where
  | waitEvent | processEvent
  deriving DecidableEq, Repr

/-- The registers of the process and its input streams. -/
structure MdlState where
  fsmState : MdlFsmState := .waitEvent
  sarLoaded : Bool := false
  segmentCount : BitVec 2 := 0
  curEvent : ExtendedEvent
  rxSar : RxSarReply := {}
  txSar : TXeTxSarReply := {}
  randomValue : BitVec 32 := 100000
  siEvent : List ExtendedEvent := []
  siRxSarRep : List RxSarReply := []
  siTxSarRep : List TXeTxSarReply := []
  deriving DecidableEq

/-- What a call writes on the output streams. -/
structure MdlOut where
  rxEventSig : List Bool := []
  rxSarReq : List SessionId := []
  txSarQry : List TXeTxSarQuery := []
  reTxTimerCmd : List TXeReTransTimerCmd := []
  tcpDatLen : List TcpDatLen := []
  txeMeta : List TXeMeta := []
  bufferRdCmd : List DmCmd := []
  reverseLkpReq : List SessionId := []
  isLookup : List Bool := []
  rstSockPair : List SocketPair := []
  deriving DecidableEq

namespace MdlState

variable (s : MdlState)

/-- The session of the current event. -/
def sessionID : SessionId := s.curEvent.event.sessionID

/-- The current event with its type changed to `FIN_EVENT`. -/
def setFin : MdlState :=
  { s with curEvent := { s.curEvent with event := { s.curEvent.event with type := .fin } } }

end MdlState

/-- The advertised window. -/
def mdlWinSize (rxSar : RxSarReply) : TcpWindow := rxSar.appd - rxSar.oooHead.setWidth 16 - 1

/-- The bytes of a maximum segment. -/
def mssPayload : BitVec 16 := BitVec.ofNat 16 (zyc2Mss - tcpHeaderLen)

/-! ### Transmission -/

/-- What a transmission does with the data that is pending. -/
inductive TxCase where
  /-- a full segment is sent, and the process stays with the event -/
  | fragment
  /-- all data was sent, and a FIN is pending -/
  | fin
  /-- the last segment of the event -/
  | last (length : TcpDatLen)
  deriving DecidableEq, Repr

/-- The usable window: the minimal window less the bytes in flight. -/
def usableWindow (txSar : TXeTxSarReply) : TcpWindow :=
  let usedLength : TxBufPtr := txSar.notAckd.setWidth 16 - txSar.ackd.setWidth 16
  if txSar.minWindow > usedLength then txSar.minWindow - usedLength else 0

/-- The case of a transmission. The sums with the header length are wider than 16 bits. -/
def txCase (txSar : TXeTxSarReply) : TxCase :=
  let currDatLen : TcpDatLen := txSar.app - txSar.notAckd.setWidth 16
  if currDatLen ≤ usableWindow txSar then
    if currDatLen.toNat + tcpHeaderLen > zyc2Mss then .fragment
    else if txSar.finReady ∧ (txSar.ackd = txSar.notAckd ∨ currDatLen = 0) then .fin
    else .last currDatLen
  else if (usableWindow txSar).toNat + tcpHeaderLen ≥ zyc2Mss then .fragment
  else .last (usableWindow txSar)

/-- The length of the segment. -/
def TxCase.length : TxCase → TcpDatLen
  | .fragment => mssPayload
  | .fin => 0
  | .last n => n

/-- The memory address of a transmission: the Tx buffers are located at `TOE_TX_MEMORY_BASE`. -/
def txMemSegAddr (id : SessionId) (notAckd : TxAckNum) : BitVec 32 :=
  memSegAddr toeTxMemoryBase id (notAckd.setWidth 16)

/-- The memory address of a retransmission. The variable is not initialised, but all its bits are
assigned. -/
def rtMemSegAddr (id : SessionId) (ackd : TxAckNum) : BitVec 32 :=
  setRange (setRange (setRange (0 : BitVec 32) 31 30 (0x01 : BitVec 2)) 29 16 (id.setWidth 14))
    15 0 (ackd.setWidth 16)

/-- The header fields of a segment of an established session. -/
def mdlMeta (rxSar : RxSarReply) (seqNumb : TcpSeqNum) (length : TcpSegLen) : TXeMeta where
  seqNumb := seqNumb
  ackNumb := rxSar.rcvd
  winSize := mdlWinSize rxSar
  length := length
  ack := true

/-- What is written for a segment with data; nothing when there is no data. -/
def mdlSend (id : SessionId) (addr : BitVec 32) (txeMeta : TXeMeta) : MdlOut :=
  if txeMeta.length ≠ 0 then
    { bufferRdCmd := [.ofAddrLen addr txeMeta.length]
      tcpDatLen := [txeMeta.length]
      txeMeta := [txeMeta]
      isLookup := [true]
      reverseLkpReq := [id]
      reTxTimerCmd := [{ sessionID := id }] }
  else {}

/-- What is written for a segment without data. -/
def mdlSendHeader (id : SessionId) (txeMeta : TXeMeta) : MdlOut where
  tcpDatLen := [txeMeta.length]
  txeMeta := [txeMeta]
  isLookup := [true]
  reverseLkpReq := [id]

section Events

variable (s : MdlState)

/-- The replies of both tables, which a new event has to wait for. -/
def mdlReadSar : Option MdlState :=
  match s.siRxSarRep, s.siTxSarRep with
  | rxSar :: rs, txSar :: ts =>
      some { s with rxSar := rxSar, txSar := txSar, siRxSarRep := rs, siTxSarRep := ts }
  | _, _ => none

/-- The tables are read once for an event. -/
def mdlLoadSar : Option MdlState := if s.sarLoaded then some s else mdlReadSar s

/-- The segment of a transmission. The address is built before `notAckd` moves. -/
def mdlTxSend : MdlOut :=
  mdlSend s.sessionID (txMemSegAddr s.sessionID s.txSar.notAckd)
    (mdlMeta s.rxSar s.txSar.notAckd (txCase s.txSar).length)

/-- `TX_EVENT` with its tables loaded: everything between `notAckd` and `app` is sent, as far as
the window allows. -/
def mdlTxSegment : MdlState × MdlOut :=
  let notAckd := s.txSar.notAckd + (txCase s.txSar).length.setWidth 32
  let s' := { s with txSar := { s.txSar with notAckd := notAckd }, sarLoaded := true }
  match txCase s.txSar with
  | .fragment => (s', mdlTxSend s)
  | .fin => (s'.setFin, { mdlTxSend s with txSarQry := [.wr s.sessionID notAckd] })
  | .last _ =>
      ({ s' with fsmState := .waitEvent },
        { mdlTxSend s with txSarQry := [.wr s.sessionID notAckd] })

/-- `TX_EVENT`. -/
def mdlTx : MdlState × MdlOut :=
  match mdlLoadSar s with
  | some s' => mdlTxSegment s'
  | none => (s, {})

/-- The bytes that a retransmission repeats: those in flight, less the FIN. -/
def rtDatLen (txSar : TXeTxSarReply) : TcpDatLen :=
  let inFlight : TcpDatLen := txSar.notAckd.setWidth 16 - txSar.ackd.setWidth 16
  if ¬txSar.finSent then inFlight else inFlight - 1

/-- The slow-start threshold after a loss. -/
def rtThreshold (currDatLen : TcpDatLen) : TcpWindow :=
  if currDatLen.toNat > 4 * zyc2Mss then currDatLen / 2 else BitVec.ofNat 16 (2 * zyc2Mss)

/-- The segment of a retransmission has the maximum size. -/
def rtIsFull (txSar : TXeTxSarReply) : Bool :=
  (rtDatLen txSar).toNat + tcpHeaderLen > zyc2Mss

/-- The segment of a retransmission. The address is built before `ackd` moves. -/
def mdlRtSend : MdlOut :=
  mdlSend s.sessionID (rtMemSegAddr s.sessionID s.txSar.ackd)
    (mdlMeta s.rxSar s.txSar.ackd (if rtIsFull s.txSar then mssPayload else rtDatLen s.txSar))

/-- `RT_EVENT` with its tables loaded: everything between `ackd` and `notAckd` is sent again.
`loaded` tells that this is not the first segment of the event. -/
def mdlRtSegment (loaded : Bool) : MdlState × MdlOut :=
  let qry : List TXeTxSarQuery :=
    -- the threshold decreases on the first retransmission by the timer only
    if ¬loaded ∧ s.curEvent.event.rtCount = 1 then
      [.rt s.sessionID (rtThreshold (rtDatLen s.txSar))]
    else []
  let s' := { s with sarLoaded := true }
  (if rtIsFull s.txSar then
    { s' with
      txSar := { s.txSar with ackd := s.txSar.ackd + mssPayload.setWidth 32 }
      fsmState := if s.segmentCount = 3 then .waitEvent else s.fsmState
      segmentCount := s.segmentCount + 1 }
  else if s.txSar.finSent then s'.setFin
  else { s' with fsmState := .waitEvent },
  { mdlRtSend s with txSarQry := qry })

/-- `RT_EVENT`. -/
def mdlRt : MdlState × MdlOut :=
  match mdlLoadSar s with
  | some s' => mdlRtSegment s' s.sarLoaded
  | none => (s, {})

/-- `ACK_EVENT` and `ACK_NODELAY_EVENT`. -/
def mdlAck : MdlState × MdlOut :=
  match mdlReadSar s with
  | some s =>
      ({ s with fsmState := .waitEvent },
        mdlSendHeader s.sessionID (mdlMeta s.rxSar s.txSar.notAckd 0))
  | none => (s, {})

/-- The segment of a `SYN_EVENT`. -/
def mdlSynSegment (seqNumb : TcpSeqNum) (qry : List TXeTxSarQuery) : MdlState × MdlOut :=
  ({ s with fsmState := .waitEvent },
    { mdlSendHeader s.sessionID { seqNumb := seqNumb, winSize := 0xFFFF, length := 4, syn := true }
      with txSarQry := qry, reTxTimerCmd := [⟨s.sessionID, .syn⟩] })

/-- The state after the initial sequence number was chosen. -/
def mdlChooseIsn : MdlState :=
  { s with
    txSar := { s.txSar with notAckd := s.randomValue }
    randomValue := (s.randomValue * 8) ^^^ s.randomValue }

/-- `SYN_EVENT`: the first transmission chooses the initial sequence number and initialises the
Tx SAR table behind it. A retransmission needs the table. -/
def mdlSyn : MdlState × MdlOut :=
  if s.curEvent.event.rtCount ≠ 0 then
    match s.siTxSarRep with
    | txSar :: ts => mdlSynSegment { s with txSar := txSar, siTxSarRep := ts } txSar.ackd []
    | [] => (s, {})
  else
    mdlSynSegment (mdlChooseIsn s) s.randomValue [.wr s.sessionID (s.randomValue + 1) true]

/-- The segment of a `SYN_ACK_EVENT`. -/
def mdlSynAckSegment (seqNumb : TcpSeqNum) (qry : List TXeTxSarQuery) : MdlState × MdlOut :=
  ({ s with fsmState := .waitEvent },
    { mdlSendHeader s.sessionID
        { seqNumb := seqNumb, ackNumb := s.rxSar.rcvd, winSize := BitVec.ofNat 16 (myMss * 12),
          length := 4, ack := true, syn := true }
      with txSarQry := qry, reTxTimerCmd := [⟨s.sessionID, .synAck⟩] })

/-- `SYN_ACK_EVENT`. -/
def mdlSynAck : MdlState × MdlOut :=
  match mdlReadSar s with
  | some s =>
      if s.curEvent.event.rtCount ≠ 0 then mdlSynAckSegment s s.txSar.ackd []
      else
        mdlSynAckSegment (mdlChooseIsn s) s.randomValue
          [.wr s.sessionID (s.randomValue + 1) true]
  | none => (s, {})

/-- The write-back of a FIN that is sent for the first time: the FIN takes a sequence number
once all data was sent, and is delayed otherwise. -/
def finQry (id : SessionId) (txSar : TXeTxSarReply) : TXeTxSarQuery :=
  if txSar.app = txSar.notAckd.setWidth 16 then .wr id (txSar.notAckd + 1) false true true
  else .wr id txSar.notAckd false true false

/-- `FIN_EVENT` with its tables loaded. A retransmission reuses the sequence number. -/
def mdlFinSegment : MdlState × MdlOut :=
  let isRt : Bool := s.curEvent.event.rtCount ≠ 0
  let seqNumb := if isRt then s.txSar.notAckd - 1 else s.txSar.notAckd
  let out :=
    if seqNumb.setWidth 16 = s.txSar.app then
      { mdlSendHeader s.sessionID { mdlMeta s.rxSar seqNumb 0 with fin := true } with
        reTxTimerCmd := [{ sessionID := s.sessionID }] }
    else {}
  ({ s with fsmState := .waitEvent },
    { out with txSarQry := if isRt then [] else [finQry s.sessionID s.txSar] })

/-- `FIN_EVENT`. -/
def mdlFin : MdlState × MdlOut :=
  match mdlLoadSar s with
  | some s' => mdlFinSegment s'
  | none => (s, {})

/-- `RST_EVENT`, with or without a session. -/
def mdlRst : MdlState × MdlOut :=
  let e := s.curEvent.event
  if ¬e.hasSessionID then
    ({ s with fsmState := .waitEvent },
      { tcpDatLen := [0]
        txeMeta := [{ ackNumb := e.getAckNumb, ack := true, rst := true }]
        isLookup := [false]
        rstSockPair := [s.curEvent.tuple] })
  else
    match s.siTxSarRep with
    | txSar :: ts =>
        ({ s with txSar := txSar, siTxSarRep := ts, fsmState := .waitEvent },
          mdlSendHeader e.sessionID
            { seqNumb := txSar.notAckd, ackNumb := e.getAckNumb, ack := true, rst := true })
    | [] => (s, {})

/-- `MDL_PROCESS_EVENT`: the switch on the event type. -/
def mdlProcessEvent : MdlState × MdlOut :=
  match s.curEvent.event.type with
  | .tx => mdlTx s
  | .rt => mdlRt s
  | .ack | .ackNodelay => mdlAck s
  | .syn => mdlSyn s
  | .synAck => mdlSynAck s
  | .fin => mdlFin s
  | .rst => mdlRst s

/-- The queries to the tables that an event needs. -/
def mdlQueries (e : Event) : MdlOut :=
  match e.type with
  | .rt | .tx | .synAck | .fin | .ack | .ackNodelay =>
      { rxSarReq := [e.sessionID], txSarQry := [.rd e.sessionID] }
  | .rst => { txSarQry := if e.hasSessionID then [.rd e.sessionID] else [] }
  | .syn => { txSarQry := if e.rtCount ≠ 0 then [.rd e.sessionID] else [] }

/-- `MDL_WAIT_EVENT`. -/
def mdlWaitEvent : MdlState × MdlOut :=
  match s.siEvent with
  | e :: es =>
      ({ s with
        siEvent := es
        curEvent := e
        sarLoaded := false
        fsmState := .processEvent
        randomValue := s.randomValue + 1
        segmentCount := 0 },
      { mdlQueries e.event with rxEventSig := [true] })
  | [] => ({ s with segmentCount := 0 }, {})

/-- One call of the process. -/
def pMetaDataLoader : MdlState × MdlOut :=
  match s.fsmState with
  | .waitEvent => mdlWaitEvent s
  | .processEvent => mdlProcessEvent s

end Events

/-! ### First facts -/

section Facts

variable {s t : MdlState}

/-- The tables that a call reads belong to the current event. -/
lemma sessionID_of_mdlLoadSar (h : mdlLoadSar s = some t) : t.sessionID = s.sessionID := by
  unfold mdlLoadSar mdlReadSar at h
  split at h
  · rw [Option.some.inj h]
  · split at h
    · rw [← Option.some.inj h]
      rfl
    · cases h

lemma mdlTx_of_some (h : mdlLoadSar s = some t) : mdlTx s = mdlTxSegment t := by
  rw [mdlTx, h]

lemma mdlTx_of_none (h : mdlLoadSar s = none) : mdlTx s = (s, {}) := by
  rw [mdlTx, h]

lemma mdlRt_of_some (h : mdlLoadSar s = some t) : mdlRt s = mdlRtSegment t s.sarLoaded := by
  rw [mdlRt, h]

lemma mdlRt_of_none (h : mdlLoadSar s = none) : mdlRt s = (s, {}) := by
  rw [mdlRt, h]

lemma mdlTxSegment_send : (mdlTxSegment s).2.txeMeta = (mdlTxSend s).txeMeta ∧
    (mdlTxSegment s).2.bufferRdCmd = (mdlTxSend s).bufferRdCmd := by
  unfold mdlTxSegment
  cases txCase s.txSar <;> exact ⟨rfl, rfl⟩

/-- The segment that `mdlSend` announces is read from the address given. -/
lemma mdlSend_spec {id : SessionId} {addr : BitVec 32} {m m' : TXeMeta} {c : DmCmd}
    (hmeta : (mdlSend id addr m).txeMeta = [m']) (hcmd : (mdlSend id addr m).bufferRdCmd = [c]) :
    m' = m ∧ c = .ofAddrLen addr m.length := by
  unfold mdlSend at hmeta hcmd
  split at hmeta
  · next h =>
      rw [if_pos h] at hcmd
      simp only [List.cons.injEq, and_true] at hmeta hcmd
      exact ⟨hmeta.symm, hcmd.symm⟩
  · cases hmeta

/-- What a transmission sends and reads. -/
lemma mdlTx_spec {m : TXeMeta} {c : DmCmd} (hmeta : (mdlTx s).2.txeMeta = [m])
    (hcmd : (mdlTx s).2.bufferRdCmd = [c]) :
    c = .ofAddrLen (txMemSegAddr s.sessionID m.seqNumb) m.length := by
  cases hload : mdlLoadSar s with
  | none =>
      rw [mdlTx_of_none hload] at hmeta
      cases hmeta
  | some t =>
      rw [mdlTx_of_some hload, mdlTxSegment_send.1] at hmeta
      rw [mdlTx_of_some hload, mdlTxSegment_send.2] at hcmd
      rw [← sessionID_of_mdlLoadSar hload]
      obtain ⟨rfl, rfl⟩ := mdlSend_spec hmeta hcmd
      rfl

/-- What a retransmission sends and reads. -/
lemma mdlRt_spec {m : TXeMeta} {c : DmCmd} (hmeta : (mdlRt s).2.txeMeta = [m])
    (hcmd : (mdlRt s).2.bufferRdCmd = [c]) :
    c = .ofAddrLen (rtMemSegAddr s.sessionID m.seqNumb) m.length := by
  cases hload : mdlLoadSar s with
  | none =>
      rw [mdlRt_of_none hload] at hmeta
      cases hmeta
  | some t =>
      rw [mdlRt_of_some hload] at hmeta hcmd
      rw [← sessionID_of_mdlLoadSar hload]
      obtain ⟨rfl, rfl⟩ := @mdlSend_spec _ (rtMemSegAddr t.sessionID t.txSar.ackd) _ _ _ hmeta hcmd
      rfl

end Facts

/-! ### What a call keeps -/

/-- The event is about a session: it is not a reset for a segment without one. -/
def Event.HasSession (e : Event) : Prop := e.type = .rst → e.hasSessionID = true

/-- The event belongs to a session. -/
def Event.BelongsTo (e : Event) (id : SessionId) : Prop := e.sessionID = id ∧ e.HasSession

instance (e : Event) : Decidable e.HasSession := inferInstanceAs (Decidable (_ → _))

instance (e : Event) (id : SessionId) : Decidable (e.BelongsTo id) :=
  inferInstanceAs (Decidable (_ ∧ _))

section Frame

variable {s t : MdlState}

/-- Loading the tables keeps everything else. -/
lemma mdlReadSar_frame (h : mdlReadSar s = some t) :
    t.curEvent = s.curEvent ∧ t.fsmState = s.fsmState ∧ t.siEvent = s.siEvent := by
  simp only [mdlReadSar] at h
  split at h
  · rw [← Option.some.inj h]
    exact ⟨rfl, rfl, rfl⟩
  · cases h

lemma mdlLoadSar_frame (h : mdlLoadSar s = some t) :
    t.curEvent = s.curEvent ∧ t.fsmState = s.fsmState ∧ t.siEvent = s.siEvent := by
  simp only [mdlLoadSar] at h
  split at h
  · rw [Option.some.inj h]
    exact ⟨rfl, rfl, rfl⟩
  · exact mdlReadSar_frame h

/-- The loader keeps its queue and the session of the current event, but not the type of the
event. -/
structure MdlFrame (m m' : MdlState) : Prop where
  siEvent : m'.siEvent = m.siEvent
  belongs : ∀ id, m'.curEvent.event.BelongsTo id ↔ m.curEvent.event.BelongsTo id

lemma MdlFrame.of_eq {m m' : MdlState} (hq : m'.siEvent = m.siEvent)
    (he : m'.curEvent = m.curEvent) : MdlFrame m m' :=
  ⟨hq, fun id => by rw [he]⟩

lemma MdlFrame.of_setFin {m m' : MdlState} (hq : m'.siEvent = m.siEvent)
    (htype : m.curEvent.event.type ≠ .rst)
    (he : m'.curEvent.event = { m.curEvent.event with type := .fin }) : MdlFrame m m' := by
  refine ⟨hq, fun id => ?_⟩
  rw [he]
  exact and_congr_right fun _ =>
    iff_of_true (fun h => by cases h) fun h => absurd h htype

lemma MdlFrame.of_trans {m t m' : MdlState} (h : t.curEvent = m.curEvent ∧
    t.fsmState = m.fsmState ∧ t.siEvent = m.siEvent) (h' : MdlFrame t m') : MdlFrame m m' :=
  ⟨h'.siEvent.trans h.2.2, fun id => by rw [h'.belongs id, h.1]⟩

lemma mdlProcessEvent_frame (m : MdlState) : MdlFrame m (mdlProcessEvent m).1 := by
  rw [mdlProcessEvent]
  cases htype : m.curEvent.event.type with
  | tx =>
      cases hload : mdlLoadSar m with
      | none =>
          dsimp only
          rw [mdlTx_of_none hload]
          exact .of_eq rfl rfl
      | some t =>
          have hframe := mdlLoadSar_frame hload
          have hrst : t.curEvent.event.type ≠ .rst := by simp [hframe.1, htype]
          dsimp only
          rw [mdlTx_of_some hload]
          refine .of_trans hframe ?_
          simp only [mdlTxSegment]
          split
          · exact .of_eq rfl rfl
          · exact .of_setFin rfl hrst rfl
          · exact .of_eq rfl rfl
  | rt =>
      cases hload : mdlLoadSar m with
      | none =>
          dsimp only
          rw [mdlRt_of_none hload]
          exact .of_eq rfl rfl
      | some t =>
          have hframe := mdlLoadSar_frame hload
          have hrst : t.curEvent.event.type ≠ .rst := by simp [hframe.1, htype]
          dsimp only
          rw [mdlRt_of_some hload]
          refine .of_trans hframe ?_
          simp only [mdlRtSegment]
          split_ifs
          · exact .of_eq rfl rfl
          · exact .of_eq rfl rfl
          · exact .of_setFin rfl hrst rfl
          · exact .of_eq rfl rfl
  | fin =>
      dsimp only [mdlFin]
      cases hload : mdlLoadSar m with
      | none => exact .of_eq rfl rfl
      | some t => exact .of_trans (mdlLoadSar_frame hload) (.of_eq rfl rfl)
  | ack | ackNodelay =>
      dsimp only [mdlAck]
      cases hload : mdlReadSar m with
      | none => exact .of_eq rfl rfl
      | some t => exact .of_trans (mdlReadSar_frame hload) (.of_eq rfl rfl)
  | synAck =>
      dsimp only [mdlSynAck]
      cases hload : mdlReadSar m with
      | none => exact .of_eq rfl rfl
      | some t =>
          refine .of_trans (mdlReadSar_frame hload) ?_
          dsimp only
          split
          · exact .of_eq rfl rfl
          · exact .of_eq rfl rfl
  | syn =>
      dsimp only [mdlSyn]
      split
      · split
        · exact .of_eq rfl rfl
        · exact .of_eq rfl rfl
      · exact .of_eq rfl rfl
  | rst =>
      dsimp only [mdlRst]
      split
      · exact .of_eq rfl rfl
      · split
        · exact .of_eq rfl rfl
        · exact .of_eq rfl rfl

end Frame

/-! ### What a call does with the Tx SAR entry -/

/-- The table entry that a call in `MDL_PROCESS_EVENT` works with: it was loaded by an earlier
call, is not needed, or is the first reply that waits. -/
inductive MdlLoads (s : MdlState) : MdlState → Prop
  | loaded (hl : s.sarLoaded = true)
      (ht : s.curEvent.event.type = .tx ∨ s.curEvent.event.type = .rt ∨
        s.curEvent.event.type = .fin) : MdlLoads s s
  | notNeeded (hq : (mdlQueries s.curEvent.event).txSarQry = []) : MdlLoads s s
  | read {t : MdlState} {rep : TXeTxSarReply} {reps : List TXeTxSarReply}
      (hs : s.siTxSarRep = rep :: reps) (hrep : t.siTxSarRep = reps) (htx : t.txSar = rep)
      (hev : t.curEvent = s.curEvent) (hst : t.fsmState = s.fsmState) : MdlLoads s t

/-- How far a call moves `notAckd`: not at all, by the length of a segment, or by one for a
FIN. -/
def mdlAdvance (t : MdlState) (n : BitVec 32) : Prop :=
  n = 0 ∨ (t.curEvent.event.type = .tx ∧ n = (txCase t.txSar).length.setWidth 32) ∨
    (t.curEvent.event.type = .fin ∧ t.curEvent.event.rtCount = 0 ∧ n = 1)

/-- What a call with the loaded entry of `t` does: its write queries and the entry that it keeps
hold the same new `notAckd`, unless it initialises the session. -/
structure MdlEffect (t s' : MdlState) (qs : List TXeTxSarQuery) : Prop where
  siTxSarRep : s'.siTxSarRep = t.siTxSarRep
  sessionID : s'.sessionID = t.sessionID
  fsmState : s'.fsmState = .waitEvent ∨ s'.fsmState = .processEvent ∧ s'.sarLoaded = true ∧
    (s'.curEvent.event.type = .tx ∨ s'.curEvent.event.type = .rt ∨ s'.curEvent.event.type = .fin)
  write : ∀ q ∈ qs, q.write = true ∧ q.sessionID = t.sessionID
  notAckd : (s'.fsmState = .waitEvent ∧ ∃ n, qs = [.wr t.sessionID n true]) ∨
    (∀ q ∈ qs, q.init = false) ∧ ∃ n, mdlAdvance t n ∧
      (∀ q ∈ qs, q.isRtQuery = false → q.notAckd = t.txSar.notAckd + n) ∧
      (s'.fsmState = .processEvent → s'.txSar.notAckd = t.txSar.notAckd + n)
  type : (s'.fsmState = .processEvent ∨ ∃ q ∈ qs, q.init = false) →
    t.curEvent.event.type = .tx ∨ t.curEvent.event.type = .rt ∨ t.curEvent.event.type = .fin
  ackd : s'.fsmState = .processEvent → s'.curEvent.event.type = .tx →
    t.curEvent.event.type = .tx ∧ s'.txSar.ackd = t.txSar.ackd

section Effect

variable {s t : MdlState}

/-- A call that only waits for the next event afterwards and writes nothing to the table. -/
lemma MdlEffect.of_done {s' : MdlState} (hrep : s'.siTxSarRep = t.siTxSarRep)
    (hev : s'.curEvent = t.curEvent) (hst : s'.fsmState = .waitEvent) : MdlEffect t s' [] where
  siTxSarRep := hrep
  sessionID := by rw [MdlState.sessionID, MdlState.sessionID, hev]
  fsmState := .inl hst
  write := by simp
  notAckd := .inr ⟨by simp, 0, .inl rfl, by simp, fun h => by rw [hst] at h; cases h⟩
  type h := by simp [hst] at h
  ackd h := by rw [hst] at h; cases h

/-- A call that initialises the session. -/
lemma MdlEffect.of_init {s' : MdlState} (n : TxAckNum) (hrep : s'.siTxSarRep = t.siTxSarRep)
    (hev : s'.curEvent = t.curEvent) (hst : s'.fsmState = .waitEvent) :
    MdlEffect t s' [.wr t.sessionID n true] where
  siTxSarRep := hrep
  sessionID := by rw [MdlState.sessionID, MdlState.sessionID, hev]
  fsmState := .inl hst
  write := by simp [TXeTxSarQuery.wr]
  notAckd := .inl ⟨hst, n, rfl⟩
  type h := by simp [hst, TXeTxSarQuery.wr] at h
  ackd h := by rw [hst] at h; cases h

lemma mdlTxSegment_effect (hst : t.fsmState = .processEvent)
    (htype : t.curEvent.event.type = .tx) :
    MdlEffect t (mdlTxSegment t).1 (mdlTxSegment t).2.txSarQry := by
  have hadv : mdlAdvance t ((txCase t.txSar).length.setWidth 32) := .inr (.inl ⟨htype, rfl⟩)
  have hsend : (mdlTxSend t).txSarQry = [] := by
    unfold mdlTxSend mdlSend
    split <;> rfl
  unfold mdlTxSegment
  cases hc : txCase t.txSar with
  | fragment =>
      rw [hc] at hadv
      dsimp only
      rw [hsend]
      exact ⟨rfl, rfl, .inr ⟨hst, rfl, .inl htype⟩, by simp,
        .inr ⟨by simp, _, hadv, by simp, fun _ => rfl⟩, fun _ => .inl htype,
        fun _ _ => ⟨htype, rfl⟩⟩
  | fin =>
      rw [hc] at hadv
      exact ⟨rfl, rfl, .inr ⟨hst, rfl, .inr (.inr rfl)⟩, by simp [TXeTxSarQuery.wr],
        .inr ⟨by simp [TXeTxSarQuery.wr], _, hadv, by simp [TXeTxSarQuery.wr], fun _ => rfl⟩,
        fun _ => .inl htype, fun _ h => by cases h⟩
  | last n =>
      rw [hc] at hadv
      exact ⟨rfl, rfl, .inl rfl, by simp [TXeTxSarQuery.wr],
        .inr ⟨by simp [TXeTxSarQuery.wr], _, hadv, by simp [TXeTxSarQuery.wr], fun _ => rfl⟩,
        fun _ => .inl htype, fun h => by cases h⟩

lemma mdlRtSegment_effect (hst : t.fsmState = .processEvent)
    (htype : t.curEvent.event.type = .rt) (loaded : Bool) :
    MdlEffect t (mdlRtSegment t loaded).1 (mdlRtSegment t loaded).2.txSarQry := by
  have hqs : ∀ q ∈ (mdlRtSegment t loaded).2.txSarQry,
      q.write = true ∧ q.sessionID = t.sessionID ∧ q.init = false ∧ q.isRtQuery = true := by
    unfold mdlRtSegment
    dsimp only
    split <;> simp [TXeTxSarQuery.rt]
  refine ⟨?_, ?_, ?_, fun q hq => ⟨(hqs q hq).1, (hqs q hq).2.1⟩,
    .inr ⟨fun q hq => (hqs q hq).2.2.1, 0, .inl rfl, fun q hq h => ?_, ?_⟩,
    fun _ => .inr (.inl htype), ?_⟩
  all_goals
    try unfold mdlRtSegment
    try dsimp only
  · split_ifs <;> rfl
  · split_ifs <;> rfl
  · split_ifs
    · exact .inl rfl
    · exact .inr ⟨hst, rfl, .inr (.inl htype)⟩
    · exact .inr ⟨hst, rfl, .inr (.inr rfl)⟩
    · exact .inl rfl
  · rw [(hqs q hq).2.2.2] at h
    cases h
  · intro _
    split_ifs <;> simp [MdlState.setFin]
  · intro _ h
    split_ifs at h <;> simp_all [MdlState.setFin]

lemma mdlFinSegment_effect (htype : t.curEvent.event.type = .fin) :
    MdlEffect t (mdlFinSegment t).1 (mdlFinSegment t).2.txSarQry := by
  by_cases hrt : t.curEvent.event.rtCount = 0
  · have hqry : (mdlFinSegment t).2.txSarQry = [finQry t.sessionID t.txSar] := by
      simp [mdlFinSegment, hrt]
    rw [hqry]
    refine ⟨rfl, rfl, .inl rfl, ?_, .inr ⟨?_, ?_⟩, fun _ => .inr (.inr htype),
      fun h => by cases h⟩
    · unfold finQry
      split <;> simp [TXeTxSarQuery.wr]
    · unfold finQry
      split <;> simp [TXeTxSarQuery.wr]
    · unfold finQry
      split
      · exact ⟨1, .inr (.inr ⟨htype, hrt, rfl⟩), by simp [TXeTxSarQuery.wr], fun h => by cases h⟩
      · exact ⟨0, .inl rfl, by simp [TXeTxSarQuery.wr], fun h => by cases h⟩
  · have hqry : (mdlFinSegment t).2.txSarQry = [] := by simpa [mdlFinSegment] using hrt
    rw [hqry]
    exact .of_done rfl rfl rfl

lemma mdlLoads_of_readSar (h : mdlReadSar s = some t) : MdlLoads s t ∧ t.curEvent = s.curEvent := by
  unfold mdlReadSar at h
  split at h
  · next hrep =>
      rw [← Option.some.inj h]
      exact ⟨.read hrep rfl rfl rfl rfl, rfl⟩
  · cases h

lemma mdlLoads_of_loadSar (h : mdlLoadSar s = some t)
    (ht : s.curEvent.event.type = .tx ∨ s.curEvent.event.type = .rt ∨
      s.curEvent.event.type = .fin) :
    MdlLoads s t ∧ t.curEvent = s.curEvent ∧ t.fsmState = s.fsmState := by
  unfold mdlLoadSar at h
  split at h
  · next hl =>
      rw [← Option.some.inj h]
      exact ⟨.loaded hl ht, rfl, rfl⟩
  · unfold mdlReadSar at h
    split at h
    · next hrep =>
        rw [← Option.some.inj h]
        exact ⟨.read hrep rfl rfl rfl rfl, rfl, rfl⟩
    · cases h

/-- **A call in `MDL_PROCESS_EVENT`** waits, or works with an entry that it has loaded. -/
theorem mdlProcessEvent_effect (hst : s.fsmState = .processEvent) :
    mdlProcessEvent s = (s, {}) ∨ ∃ t, MdlLoads s t ∧ t.curEvent = s.curEvent ∧
      MdlEffect t (mdlProcessEvent s).1 (mdlProcessEvent s).2.txSarQry := by
  unfold mdlProcessEvent
  cases htype : s.curEvent.event.type with
  | tx =>
      cases hload : mdlLoadSar s with
      | none => exact .inl (mdlTx_of_none hload)
      | some t =>
          obtain ⟨hl, hev, hst'⟩ := mdlLoads_of_loadSar hload (.inl htype)
          dsimp only
          rw [mdlTx_of_some hload]
          exact .inr ⟨t, hl, hev, mdlTxSegment_effect (hst'.trans hst) (hev ▸ htype)⟩
  | rt =>
      cases hload : mdlLoadSar s with
      | none => exact .inl (mdlRt_of_none hload)
      | some t =>
          obtain ⟨hl, hev, hst'⟩ := mdlLoads_of_loadSar hload (.inr (.inl htype))
          dsimp only
          rw [mdlRt_of_some hload]
          exact .inr ⟨t, hl, hev, mdlRtSegment_effect (hst'.trans hst) (hev ▸ htype) _⟩
  | fin =>
      dsimp only [mdlFin]
      cases hload : mdlLoadSar s with
      | none => exact .inl rfl
      | some t =>
          obtain ⟨hl, hev, -⟩ := mdlLoads_of_loadSar hload (.inr (.inr htype))
          exact .inr ⟨t, hl, hev, mdlFinSegment_effect (hev ▸ htype)⟩
  | ack | ackNodelay =>
      dsimp only [mdlAck]
      cases hload : mdlReadSar s with
      | none => exact .inl rfl
      | some t =>
          obtain ⟨hl, hev⟩ := mdlLoads_of_readSar hload
          exact .inr ⟨t, hl, hev, .of_done rfl rfl rfl⟩
  | synAck =>
      dsimp only [mdlSynAck]
      cases hload : mdlReadSar s with
      | none => exact .inl rfl
      | some t =>
          obtain ⟨hl, hev⟩ := mdlLoads_of_readSar hload
          refine .inr ⟨t, hl, hev, ?_⟩
          dsimp only
          split
          · exact .of_done rfl rfl rfl
          · exact .of_init _ rfl rfl rfl
  | syn =>
      dsimp only [mdlSyn]
      split
      · split
        · next txSar ts hrep =>
            exact .inr ⟨{ s with txSar := txSar, siTxSarRep := ts }, .read hrep rfl rfl rfl rfl,
              rfl, .of_done rfl rfl rfl⟩
        · exact .inl rfl
      · next hrt =>
          refine .inr ⟨s, .notNeeded ?_, rfl, .of_init _ rfl rfl rfl⟩
          simpa [mdlQueries, htype] using hrt
  | rst =>
      dsimp only [mdlRst]
      split
      · next hid =>
          refine .inr ⟨s, .notNeeded ?_, rfl, .of_done rfl rfl rfl⟩
          simp [mdlQueries, htype, hid]
      · split
        · next txSar ts hrep =>
            exact .inr ⟨{ s with txSar := txSar, siTxSarRep := ts }, .read hrep rfl rfl rfl rfl,
              rfl, .of_done rfl rfl rfl⟩
        · exact .inl rfl

end Effect

end CloudFpga.Toe
