import CloudFpga.Toe.Types

/-!
The Tx SAR table, `tx_sar_table.cpp`.

* `txSarWriteTXe`, `txSarWriteRXe`: the updates of an entry by a write query of the Tx engine and
  of the Rx engine.
* `txSarTable`: one call of the process, with its three prioritised input streams.
-/

namespace CloudFpga.Toe

/-- `TX_SAR_TABLE`. -/
abbrev TxSarTable := SessionId → TxSarEntry

/-- The table and the input streams of the process. -/
structure TstState where
  table : TxSarTable
  siTXeTxSarQry : List TXeTxSarQuery := []
  siTAiPushCmd : List TAiTxSarPush := []
  siRXeTxSarQry : List RXeTxSarQuery := []

/-- What a call writes on the output streams. -/
structure TstOut where
  soTXeTxSarRep : List TXeTxSarReply := []
  soRXeTxSarRep : List RXeTxSarReply := []
  soTAiPushCmd : List TStTxSarPush := []

/-- The entry after a write query of the Tx engine. -/
def txSarWriteTXe (e : TxSarEntry) (q : TXeTxSarQuery) : TxSarEntry :=
  if ¬q.isRtQuery then
    { e with
      unak := q.notAckd
      appw := if q.init then q.notAckd.setWidth 16 else e.appw
      ackd := if q.init then q.notAckd - 1 else e.ackd
      congWindow := if q.init then 0x3908 else e.congWindow
      slowstartThreshold := if q.init then 0xFFFF else e.slowstartThreshold
      finReady := if q.finReady ∨ q.init then q.finReady else e.finReady
      finSent := if q.finSent ∨ q.init then q.finSent else e.finSent }
  else { e with slowstartThreshold := q.getThreshold, congWindow := 0x3908 }

/-- The push to the Tx application interface for a write query of the Tx engine. -/
def txSarPushTXe (q : TXeTxSarQuery) : List TStTxSarPush :=
  if ¬q.isRtQuery ∧ q.init then [⟨q.sessionID, q.notAckd.setWidth 16, true⟩] else []

/-- The reply to a read query of the Tx engine. -/
def txSarReplyTXe (e : TxSarEntry) : TXeTxSarReply where
  ackd := e.ackd
  notAckd := e.unak
  minWindow := if e.congWindow < e.recvWindow then e.congWindow else e.recvWindow
  app := e.appw
  finReady := e.finReady
  finSent := e.finSent

/-- The entry after a write query of the Rx engine. -/
def txSarWriteRXe (e : TxSarEntry) (q : RXeTxSarQuery) : TxSarEntry :=
  { e with
    ackd := q.ackd
    recvWindow := q.recvWindow
    congWindow := q.congWindow
    count := q.count
    fastRetransmitted := q.fastRetransmitted }

/-- The reply to a read query of the Rx engine. -/
def txSarReplyRXe (e : TxSarEntry) : RXeTxSarReply where
  prevAckd := e.ackd
  prevUnak := e.unak
  congWindow := e.congWindow
  slowstartThreshold := e.slowstartThreshold
  count := e.count
  fastRetransmitted := e.fastRetransmitted

/-- The table with a new entry for a session. -/
def TstState.set (s : TstState) (id : SessionId) (e : TxSarEntry) : TstState :=
  { s with table := Function.update s.table id e }

/-- One call of `tx_sar_table`: it serves the first query of the first non-empty stream, in the
order Tx engine, Tx application interface, Rx engine. -/
def txSarTable (s : TstState) : TstState × TstOut :=
  match s.siTXeTxSarQry, s.siTAiPushCmd, s.siRXeTxSarQry with
  | q :: qs, _, _ =>
      let s := { s with siTXeTxSarQry := qs }
      if q.write then
        (s.set q.sessionID (txSarWriteTXe (s.table q.sessionID) q),
          { soTAiPushCmd := txSarPushTXe q })
      else (s, { soTXeTxSarRep := [txSarReplyTXe (s.table q.sessionID)] })
  | [], p :: ps, _ =>
      let s := { s with siTAiPushCmd := ps }
      (s.set p.sessionID { s.table p.sessionID with appw := p.app }, {})
  | [], [], q :: qs =>
      let s := { s with siRXeTxSarQry := qs }
      if q.write then
        (s.set q.sessionID (txSarWriteRXe (s.table q.sessionID) q),
          { soTAiPushCmd := [{ sessionID := q.sessionID, ackd := q.ackd.setWidth 16 }] })
      else (s, { soRXeTxSarRep := [txSarReplyRXe (s.table q.sessionID)] })
  | [], [], [] => (s, {})

end CloudFpga.Toe
