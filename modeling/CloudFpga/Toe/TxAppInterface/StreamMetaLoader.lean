import CloudFpga.Toe.Types

/-!
The requests of the application to send, `tx_app_interface.cpp`: `pTxAppTable`,
`pStreamMetaLoader`, `pStreamMux` and `pTxAppStatusHandler`.

* `pTxAppTable`: the pointers of the Tx buffers, as the application interface knows them.
* `pStreamMetaLoader`: a request is granted, or it is refused for lack of space or of a connection.
* `pStreamMux`: the events of the first stream go before those of the second.
* `pTxAppStatusHandler`: a granted request is announced to the Tx engine once it is in the memory.
-/

namespace CloudFpga.Toe

/-! ### The Tx application table -/

/-- `TX_APP_TABLE` and the input streams of the process. -/
structure TatState where
  table : SessionId → TxAppTableEntry := fun _ => {}
  siTStPushCmd : List TStTxSarPush := []
  siTasAccessQry : List TxAppTableQuery := []

/-- The entry after a push of the Tx SAR table. At an initialisation, the pointer that is pushed is
the next byte to transmit. -/
def txAppPush (e : TxAppTableEntry) (p : TStTxSarPush) : TxAppTableEntry :=
  if p.init then { ackd := p.ackd.setWidth 32 - 1, mempt := p.ackd }
  else { e with ackd := p.ackd.setWidth 32 }

/-- The reply to a read query. -/
def txAppReply (id : SessionId) (e : TxAppTableEntry) : TxAppTableReply where
  sessId := id
  ackd := e.ackd.setWidth 16
  mempt := e.mempt

/-- One call of `pTxAppTable`: the pushes go before the queries. -/
def pTxAppTable (s : TatState) : TatState × List TxAppTableReply :=
  match s.siTStPushCmd, s.siTasAccessQry with
  | p :: ps, _ =>
      ({ s with
        siTStPushCmd := ps
        table := Function.update s.table p.sessionID (txAppPush (s.table p.sessionID) p) }, [])
  | [], q :: qs =>
      if q.write then
        ({ s with
          siTasAccessQry := qs
          table := Function.update s.table q.sessId { s.table q.sessId with mempt := q.mempt } }, [])
      else ({ s with siTasAccessQry := qs }, [txAppReply q.sessId (s.table q.sessId)])
  | [], [] => (s, [])

/-! ### The stream meta-data loader -/

inductive SmlFsmState where
  | readRequest | readMeta
  deriving DecidableEq, Repr

/-- The registers of `pStreamMetaLoader` and its input streams. -/
structure SmlState where
  fsmState : SmlFsmState := .readRequest
  appSndReq : TcpAppSndReq := ⟨0, 0⟩
  siTAIFSndReq : List TcpAppSndReq := []
  siSTtSessStateRep : List TcpState := []
  siTatAccessRep : List TxAppTableReply := []
  deriving DecidableEq

/-- What a call writes on the output streams. -/
structure SmlOut where
  soTAIFSndRep : List TcpAppSndRep := []
  soSTtSessStateReq : List SessionId := []
  soTatAccessReq : List TxAppTableQuery := []
  soMwrAppMeta : List AppMemMeta := []
  soEmxEvent : List Event := []
  deriving DecidableEq

/-- The free bytes of the Tx buffer, less the one that is kept free. -/
def maxWriteLength (rep : TxAppTableReply) : TcpDatLen := rep.ackd - rep.mempt - 1

/-- The answer to a request. -/
def smlError (req : TcpAppSndReq) (sessState : TcpState) (rep : TxAppTableReply) : TcpAppSndErr :=
  if sessState ≠ .established then .noConnection
  else if req.length > maxWriteLength rep then .noSpace
  else .noError

/-- The event that announces the bytes of a request. -/
def smlTxEvent (req : TcpAppSndReq) (rep : TxAppTableReply) : Event where
  type := .tx
  sessionID := req.sessId
  address := rep.mempt
  length := req.length

/-- `READ_META` with both replies. -/
def smlReadMeta (req : TcpAppSndReq) (sessState : TcpState) (rep : TxAppTableReply) : SmlOut :=
  let sndRep : TcpAppSndRep :=
    ⟨req.sessId, req.length, maxWriteLength rep, smlError req sessState rep⟩
  if smlError req sessState rep = .noError then
    { soMwrAppMeta := [⟨req.sessId, rep.mempt, req.length⟩]
      soTAIFSndRep := [sndRep]
      soEmxEvent := [smlTxEvent req rep]
      soTatAccessReq := [{ sessId := req.sessId, mempt := rep.mempt + req.length, write := true }] }
  else { soTAIFSndRep := [sndRep] }

/-- One call of `pStreamMetaLoader`. With `sndRepFull` the reply to the application has no room, and
the request is dropped. -/
def pStreamMetaLoader (s : SmlState) (sndRepFull : Bool) : SmlState × SmlOut :=
  match s.fsmState with
  | .readRequest =>
      match s.siTAIFSndReq with
      | req :: reqs =>
          ({ s with siTAIFSndReq := reqs, appSndReq := req, fsmState := .readMeta },
            { soSTtSessStateReq := [req.sessId]
              soTatAccessReq := [{ sessId := req.sessId, write := false }] })
      | [] => (s, {})
  | .readMeta =>
      match s.siTatAccessRep, s.siSTtSessStateRep with
      | rep :: reps, sessState :: sts =>
          ({ s with siTatAccessRep := reps, siSTtSessStateRep := sts, fsmState := .readRequest },
            if ¬sndRepFull then smlReadMeta s.appSndReq sessState rep else {})
      | _, _ => (s, {})

/-! ### The events of the Tx application interface -/

/-- One call of `pStreamMux`: what is left of its two input streams, and what it writes. -/
def pStreamMux {α : Type*} (si1 si2 : List α) : List α × List α × List α :=
  match si1, si2 with
  | x :: xs, _ => (xs, si2, [x])
  | [], y :: ys => ([], ys, [y])
  | [], [] => ([], [], [])

inductive TashFsmState where
  | idle | rdMemStatus1 | rdMemStatus2
  deriving DecidableEq, Repr

/-- The registers of `pTxAppStatusHandler` and its input streams. -/
structure TashState where
  fsmState : TashFsmState := .idle
  ev : Event := { type := .tx, sessionID := 0 }
  siMEMTxPWrSts : List DmSts := []
  siEmxEvent : List Event := []
  deriving DecidableEq

/-- What a call writes on the output streams. -/
structure TashOut where
  soTStPushCmd : List TAiTxSarPush := []
  soEVeEvent : List Event := []
  deriving DecidableEq

/-- The application pointer behind the bytes of an event. -/
def Event.txAppPtr (e : Event) : TxBufPtr := e.address + e.length

/-- The bytes of an event wrap around the end of the buffer. -/
def Event.wraps (e : Event) : Bool := 2 ^ 16 ≤ e.address.toNat + e.length.toNat

/-- The bytes of an event are in the memory. -/
def tashAnnounce (e : Event) : TashOut where
  soTStPushCmd := [⟨e.sessionID, e.txAppPtr⟩]
  soEVeEvent := [e]

/-- One call of `pTxAppStatusHandler`. -/
def pTxAppStatusHandler (s : TashState) : TashState × TashOut :=
  match s.fsmState with
  | .idle =>
      match s.siEmxEvent with
      | e :: es =>
          if e.type = .tx then ({ s with siEmxEvent := es, ev := e, fsmState := .rdMemStatus1 }, {})
          else ({ s with siEmxEvent := es, ev := e }, { soEVeEvent := [e] })
      | [] => (s, {})
  | .rdMemStatus1 =>
      match s.siMEMTxPWrSts with
      | status :: sts =>
          let s := { s with siMEMTxPWrSts := sts }
          if status.okay then
            if s.ev.wraps then ({ s with fsmState := .rdMemStatus2 }, {})
            else ({ s with fsmState := .idle }, tashAnnounce s.ev)
          else (s, {})
      | [] => (s, {})
  | .rdMemStatus2 =>
      match s.siMEMTxPWrSts with
      | status :: sts =>
          ({ s with siMEMTxPWrSts := sts, fsmState := .idle },
            if status.okay then tashAnnounce s.ev else {})
      | [] => (s, {})

end CloudFpga.Toe
