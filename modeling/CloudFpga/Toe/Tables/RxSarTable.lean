import CloudFpga.Toe.Types

/-!
The Rx SAR table, `rx_sar_table.cpp`, and the read side of it in the Rx application interface
(`pRxAppStream` of `rx_app_interface.cpp`).

* `rxSarWrite`: the update of an entry by a write query of the Rx engine.
* `rxSarTable`: one call of the process, with its three prioritised query streams.
* `serveRXe`, `serveRAi`: the table after a call that finds one query only.
-/

namespace CloudFpga.Toe

/-- `RX_SAR_TABLE`. -/
abbrev RxSarTable := SessionId → RxSarEntry

/-- The entry of a session after a write query of the Rx engine. -/
def rxSarWrite (e : RxSarEntry) (q : RXeRxSarQuery) : RxSarEntry where
  rcvd := q.rcvd
  appd := if q.init then q.rcvd.setWidth 16 else e.appd
  ooo := q.ooo
  oooHead := if q.ooo then q.oooHead else q.rcvd
  oooTail := if q.ooo then q.oooTail else q.rcvd

/-- The streams of the process and the table. -/
structure RxSarTableSt where
  table : RxSarTable
  siTXeRxSarReq : List SessionId := []
  soTXeRxSarRep : List RxSarReply := []
  siRAiRxSarQry : List RAiRxSarQuery := []
  soRAiRxSarRep : List RAiRxSarReply := []
  siRXeRxSarQry : List RXeRxSarQuery := []
  soRXeRxSarRep : List RxSarReply := []

/-- One call of `rx_sar_table`: it serves the first query of the first non-empty stream, in the
order Tx engine, Rx application interface, Rx engine. -/
def rxSarTable (s : RxSarTableSt) : RxSarTableSt :=
  match s.siTXeRxSarReq, s.siRAiRxSarQry, s.siRXeRxSarQry with
  | id :: qs, _, _ =>
      { s with siTXeRxSarReq := qs, soTXeRxSarRep := s.soTXeRxSarRep ++ [s.table id] }
  | [], q :: qs, _ =>
      if q.write then
        { s with
          siRAiRxSarQry := qs
          table := Function.update s.table q.sessionID
            { s.table q.sessionID with appd := q.appd } }
      else
        { s with
          siRAiRxSarQry := qs
          soRAiRxSarRep := s.soRAiRxSarRep ++ [⟨q.sessionID, (s.table q.sessionID).appd⟩] }
  | [], [], q :: qs =>
      if q.write then
        { s with
          siRXeRxSarQry := qs
          table := Function.update s.table q.sessionID (rxSarWrite (s.table q.sessionID) q) }
      else
        { s with
          siRXeRxSarQry := qs
          soRXeRxSarRep := s.soRXeRxSarRep ++ [s.table q.sessionID] }
  | [], [], [] => s

/-- The table after a query of the Rx engine. -/
def serveRXe (t : RxSarTable) (q : RXeRxSarQuery) : RxSarTable :=
  (rxSarTable { table := t, siRXeRxSarQry := [q] }).table

/-- The replies to a query of the Rx engine. -/
def replyRXe (t : RxSarTable) (q : RXeRxSarQuery) : List RxSarReply :=
  (rxSarTable { table := t, siRXeRxSarQry := [q] }).soRXeRxSarRep

/-- The table after a query of the Rx application interface. -/
def serveRAi (t : RxSarTable) (q : RAiRxSarQuery) : RxSarTable :=
  (rxSarTable { table := t, siRAiRxSarQry := [q] }).table

/-- The replies to a query of the Rx application interface. -/
def replyRAi (t : RxSarTable) (q : RAiRxSarQuery) : List RAiRxSarReply :=
  (rxSarTable { table := t, siRAiRxSarQry := [q] }).soRAiRxSarRep

/-- The queries of `pRxAppStream` once the read pointer is known: the pointer moves behind the
bytes that are read. -/
def rasUpdate (rep : RAiRxSarReply) (readLength : TcpSegLen) : RAiRxSarQuery where
  sessionID := rep.sessionID
  appd := rep.appd + readLength
  write := true

/-- The table after `pRxAppStream` served a request of the application: it queries the read
pointer and writes it back, unless nothing is to be read. -/
def rxAppStream (t : RxSarTable) (req : TcpAppRdReq) : RxSarTable :=
  if req.length ≠ 0 then
    (replyRAi t (.rd req.sessionID)).foldl (fun t rep => serveRAi t (rasUpdate rep req.length)) t
  else t

section Serve

variable (t : RxSarTable)

@[simp] lemma replyRXe_rd (id : SessionId) : replyRXe t (.rd id) = [t id] := rfl

lemma serveRXe_of_write {q : RXeRxSarQuery} (h : q.write = true) :
    serveRXe t q = Function.update t q.sessionID (rxSarWrite (t q.sessionID) q) := by
  simp [serveRXe, rxSarTable, h]

/-- A read of the application moves the read pointer of its session and nothing else. -/
@[simp] lemma rxAppStream_eq (req : TcpAppRdReq) :
    rxAppStream t req = Function.update t req.sessionID
      { t req.sessionID with appd := (t req.sessionID).appd + req.length } := by
  unfold rxAppStream
  split
  · rfl
  · next h =>
      rw [not_not] at h
      simp [h]

/-- A query of the Rx engine leaves the other sessions alone. -/
lemma serveRXe_other {q : RXeRxSarQuery} {id : SessionId} (h : q.sessionID ≠ id) :
    serveRXe t q id = t id := by
  unfold serveRXe rxSarTable
  split <;> simp_all
  split <;> simp [Function.update_of_ne (Ne.symm h)]

end Serve

end CloudFpga.Toe
