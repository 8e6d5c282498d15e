import CloudFpga.Foundation.Lane
import CloudFpga.Foundation.Transducer
import CloudFpga.Toe.PortTable

/-!
The queries for the state of a port, `port_table.cpp`: `pInputRequestRouter`,
`pListeningPortTable`, `pFreePortTable` and `pOutputReplyMultiplexer` with the streams between them.

* `prtNext`: a step of one of the processes, or a request that arrives; a process whose output
  stream is full waits.
* `PortOpen`: a port is listening or active after a run.
* `RepliesInOrder`: the replies are in the order of the queries, and each is the state of its port at a
  moment between the query and the reply.
* `repliesInOrder`: this holds of every run.
* `Replies`: every query gets its reply as soon as nobody blocks the processes.
-/

namespace CloudFpga.Toe

open Foundation

/-- A port below 32768. -/
abbrev TcpStaPort := BitVec 15

/-- `STS_OPENED`. -/
def stsOpened : Bool := true

/-- `STS_CLOSED`. -/
def stsClosed : Bool := false

/-- `LISTEN_PORT`. -/
def listenPort : Bool := true

/-- `ACTIVE_PORT`. -/
def activePort : Bool := false

/-! ### The table of the listening ports -/

/-- `LISTEN_PORT_TABLE`, the registers of the process and its input streams. -/
structure LptState where
  table : TcpStaPort → Bool := fun _ => stsClosed
  isLPtInit : Bool := false
  lsnPortNum : TcpPort := 0
  siRAiOpenLsnPortReq : List TcpPort := []
  siIrrGetPortStateCmd : List TcpStaPort := []

/-- What a call writes on its output streams; `opened` is the port that it puts into the listening
state. -/
structure LptOut where
  soRAiOpenLsnPortRep : List Bool := []
  soOrmGetPortStateRsp : List Bool := []
  opened : Option TcpStaPort := none
  deriving DecidableEq

/-- The initialisation: one entry is cleared in each call. -/
def lptInit (s : LptState) : LptState :=
  { s with
    table := Function.update s.table (dynPortNum s.lsnPortNum) stsClosed
    lsnPortNum := s.lsnPortNum + 1
    isLPtInit := s.lsnPortNum + 1 = 0x8000 }

/-- A request to listen on a port. -/
def lptOpen (s : LptState) (lsnPortNum : TcpPort) (ps : List TcpPort) : LptState × LptOut :=
  if lsnPortNum < 0x8000 then
    ({ s with
        siRAiOpenLsnPortReq := ps
        lsnPortNum := lsnPortNum
        table := Function.update s.table (dynPortNum lsnPortNum) stsOpened },
      { soRAiOpenLsnPortRep := [stsOpened], opened := some (dynPortNum lsnPortNum) })
  else
    ({ s with siRAiOpenLsnPortReq := ps, lsnPortNum := lsnPortNum },
      { soRAiOpenLsnPortRep := [stsClosed] })

/-- One call of the process. -/
def pListeningPortTable (s : LptState) (repFull : Bool) : LptState × LptOut :=
  if ¬s.isLPtInit then (lptInit s, {})
  else
    match s.siRAiOpenLsnPortReq, repFull, s.siIrrGetPortStateCmd with
    | p :: ps, false, _ => lptOpen s p ps
    | _, _, staticPortNum :: cs =>
        ({ s with siIrrGetPortStateCmd := cs },
          { soOrmGetPortStateRsp := [s.table staticPortNum] })
    | _, _, [] => (s, {})

/-! ### The processes together -/

/-- `FsmStates` of `pOutputReplyMultiplexer`. -/
inductive OrmState where
  | waitForQueryFromIrr
  | forwardLsnPortStateRsp
  | forwardActPortStateRsp
  deriving DecidableEq

/-- The processes and the streams between them. The commands to the tables are in the states of the
tables. -/
structure PortTables where
  siRXeGetPortStateCmd : List TcpPort := []
  lpt : LptState := {}
  fpt : FptState := fptStart
  orm : OrmState := .waitForQueryFromIrr
  ssIrrToOrmQueryRange : List Bool := []
  ssLptToOrmGetLsnPortStateRsp : List Bool := []
  ssFptToOrmGetActPortStateRsp : List Bool := []

/-- Who takes the next step. -/
inductive PrtLabel where
  /-- a query of the Rx engine -/
  | getPortStateCmd (p : TcpPort)
  /-- a request to listen on a port -/
  | openLsnPortReq (p : TcpPort)
  /-- a request for an ephemeral port -/
  | getFreePortReq
  /-- the release of an ephemeral port -/
  | closeActPortCmd (p : TcpPort)
  /-- `pInputRequestRouter` -/
  | irr
  /-- `pListeningPortTable`, while its stream to the Rx application interface is full or not -/
  | lpt (repFull : Bool)
  /-- `pFreePortTable`, while its stream to the Tx application interface is full or not -/
  | fpt (repFull : Bool)
  /-- `pOutputReplyMultiplexer`, while its stream to the Rx engine is full or not -/
  | orm (rspFull : Bool)
  deriving DecidableEq

/-- One call of the router. It waits if one of the two streams that it writes is full. -/
def pInputRequestRouter (s : PortTables) : PortTables :=
  match s.siRXeGetPortStateCmd with
  | [] => s
  | portToCheck :: ps =>
      if 4 ≤ s.ssIrrToOrmQueryRange.length then s
      else if portToCheck < 0x8000 then
        if 2 ≤ s.lpt.siIrrGetPortStateCmd.length then s
        else
          { s with
            siRXeGetPortStateCmd := ps
            lpt := { s.lpt with
              siIrrGetPortStateCmd := s.lpt.siIrrGetPortStateCmd ++ [dynPortNum portToCheck] }
            ssIrrToOrmQueryRange := s.ssIrrToOrmQueryRange ++ [listenPort] }
      else
        if 2 ≤ s.fpt.siIrrGetPortStateCmd.length then s
        else
          { s with
            siRXeGetPortStateCmd := ps
            fpt := { s.fpt with
              siIrrGetPortStateCmd := s.fpt.siIrrGetPortStateCmd ++ [dynPortNum portToCheck] }
            ssIrrToOrmQueryRange := s.ssIrrToOrmQueryRange ++ [activePort] }

/-- One call of the multiplexer. -/
def pOutputReplyMultiplexer (s : PortTables) (rspFull : Bool) : PortTables × List Bool :=
  match s.orm with
  | .waitForQueryFromIrr =>
      match s.ssIrrToOrmQueryRange with
      | [] => (s, [])
      | qryType :: qs =>
          ({ s with
            ssIrrToOrmQueryRange := qs
            orm :=
              if qryType = listenPort then .forwardLsnPortStateRsp
              else .forwardActPortStateRsp }, [])
  | .forwardLsnPortStateRsp =>
      match s.ssLptToOrmGetLsnPortStateRsp, rspFull with
      | b :: bs, false =>
          ({ s with ssLptToOrmGetLsnPortStateRsp := bs, orm := .waitForQueryFromIrr }, [b])
      | _, _ => (s, [])
  | .forwardActPortStateRsp =>
      match s.ssFptToOrmGetActPortStateRsp, rspFull with
      | b :: bs, false =>
          ({ s with ssFptToOrmGetActPortStateRsp := bs, orm := .waitForQueryFromIrr }, [b])
      | _, _ => (s, [])

/-- A call of the listening port table. It waits if it is to write a response and the stream is
full. -/
def prtLpt (s : PortTables) (repFull : Bool) : PortTables :=
  let r := pListeningPortTable s.lpt repFull
  if r.2.soOrmGetPortStateRsp ≠ [] ∧ 2 ≤ s.ssLptToOrmGetLsnPortStateRsp.length then s
  else
    { s with
      lpt := r.1
      ssLptToOrmGetLsnPortStateRsp :=
        s.ssLptToOrmGetLsnPortStateRsp ++ r.2.soOrmGetPortStateRsp }

/-- A call of the free port table, in a build with `__SYNTHESIS__`. -/
def prtFpt (s : PortTables) (repFull : Bool) : PortTables :=
  let r := pFreePortTable true s.fpt repFull
  if r.2.soOrmGetPortStateRsp ≠ [] ∧ 2 ≤ s.ssFptToOrmGetActPortStateRsp.length then s
  else
    { s with
      fpt := r.1
      ssFptToOrmGetActPortStateRsp :=
        s.ssFptToOrmGetActPortStateRsp ++ r.2.soOrmGetPortStateRsp }

/-- A step. -/
def prtNext (s : PortTables) : PrtLabel → PortTables
  | .getPortStateCmd p => { s with siRXeGetPortStateCmd := s.siRXeGetPortStateCmd ++ [p] }
  | .openLsnPortReq p =>
      { s with lpt := { s.lpt with siRAiOpenLsnPortReq := s.lpt.siRAiOpenLsnPortReq ++ [p] } }
  | .getFreePortReq => { s with fpt := fptNext true s.fpt .getFreePortReq }
  | .closeActPortCmd p => { s with fpt := fptNext true s.fpt (.closeActPortCmd p) }
  | .irr => pInputRequestRouter s
  | .lpt repFull => prtLpt s repFull
  | .fpt repFull => prtFpt s repFull
  | .orm rspFull => (pOutputReplyMultiplexer s rspFull).1

/-! ### What is seen of a run -/

/-- The state after a run from power-up. -/
def prtRun (ls : List PrtLabel) : PortTables := Clocked.run prtNext {} ls

/-- The query that arrives in a step. -/
def prtQuery : PrtLabel → List TcpPort
  | .getPortStateCmd p => [p]
  | _ => []

/-- The queries of a run. -/
def prtQueries (ls : List PrtLabel) : List TcpPort := ls.flatMap prtQuery

/-- The reply that a step gives. -/
def prtReply (s : PortTables) : PrtLabel → List Bool
  | .orm rspFull => (pOutputReplyMultiplexer s rspFull).2
  | _ => []

/-- The replies of a run. -/
def prtReplies (ls : List PrtLabel) : List Bool := emits prtNext prtReply {} ls

/-- The port that is put into the listening state in a step. -/
def prtOpened (s : PortTables) : PrtLabel → List TcpStaPort
  | .lpt repFull => (pListeningPortTable s.lpt repFull).2.opened.toList
  | _ => []

/-- The ephemeral port that is handed out or released in a step. -/
def prtEvent (s : PortTables) : PrtLabel → Option (PoolEvent TcpDynPort)
  | .fpt repFull => fptEvent true s.fpt (.call repFull)
  | _ => none

/-- The ports that a run puts into the listening state. -/
def prtListening (ls : List PrtLabel) : List TcpStaPort := emits prtNext prtOpened {} ls

/-- The ephemeral ports that a run hands out and releases. -/
def prtLog (ls : List PrtLabel) : PoolLog TcpDynPort := Clocked.log prtNext prtEvent {} ls

/-- A port is open after a run: it was put into the listening state; or it was handed out, and not
released since. -/
def PortOpen (ls : List PrtLabel) (p : TcpPort) : Prop :=
  if p < 0x8000 then dynPortNum p ∈ prtListening ls else Held (dynPortNum p) (prtLog ls)

/-- The reply is the state of the port in the query of the number `k`, at a moment after the query
and before its reply. -/
def StateBetween (ls : List PrtLabel) (k : ℕ) (p : TcpPort) (reply : Bool) : Prop :=
  ∃ pre post, ls = pre ++ post ∧ k < (prtQueries pre).length ∧ (prtReplies pre).length ≤ k ∧
    (reply = true ↔ PortOpen pre p)

/-- The replies are given in the order of the queries, one for each, and tell the state of the
port. -/
def RepliesInOrder (ls : List PrtLabel) : Prop :=
  (prtReplies ls).length ≤ (prtQueries ls).length ∧
    ∀ k reply, (prtReplies ls)[k]? = some reply →
      ∃ p, (prtQueries ls)[k]? = some p ∧ StateBetween ls k p reply

/-- The calls of the processes while no stream to the other engines is full. -/
def prtCalls : List PrtLabel := [.irr, .lpt false, .fpt false, .orm false]

/-- A round: every process is called, in any order and any number of times. -/
def Round (round : List PrtLabel) : Prop :=
  (∀ l ∈ round, l ∈ prtCalls) ∧ ∀ l ∈ prtCalls, l ∈ round

/-- Every query of the run gets its reply: after enough rounds there are as many replies as
queries. -/
def Replies (ls : List PrtLabel) : Prop :=
  ∃ n, ∀ rounds : List (List PrtLabel), (∀ round ∈ rounds, Round round) → n ≤ rounds.length →
    (prtReplies (ls ++ rounds.flatten)).length = (prtQueries ls).length

/-- How many ephemeral ports are active. -/
def usedPorts (table : TcpDynPort → Bool) : ℕ :=
  ((Finset.range 0x8000).filter fun k => table (BitVec.ofNat 15 k) = actUsedPort).card

/-- The ephemeral ports that are active, and the requests for one. -/
def FptState.demand (s : FptState) : ℕ :=
  usedPorts s.table + s.siTAiGetFreePortReq.length + if s.searching ∨ s.eval then 1 else 0

/-- There are no more active ports and requests for one than there are ephemeral ports. -/
def PortsSuffice (s : PortTables) : Prop := s.fpt.demand ≤ 0x8000

/-! ### The calls of the tables -/

/-- What a call of the listening port table does. -/
inductive LptCall (s : LptState) : Bool → LptState × LptOut → Prop
  | init {repFull : Bool} (hi : s.isLPtInit = false) : LptCall s repFull (lptInit s, {})
  | opened {p : TcpPort} {ps : List TcpPort} (hi : s.isLPtInit = true)
      (hq : s.siRAiOpenLsnPortReq = p :: ps) : LptCall s false (lptOpen s p ps)
  | query {repFull : Bool} {d : TcpStaPort} {ds : List TcpStaPort} (hi : s.isLPtInit = true)
      (hq : s.siIrrGetPortStateCmd = d :: ds) :
      LptCall s repFull
        ({ s with siIrrGetPortStateCmd := ds }, { soOrmGetPortStateRsp := [s.table d] })
  | idle {repFull : Bool} (hi : s.isLPtInit = true) (hq : s.siIrrGetPortStateCmd = [])
      (hr : repFull = true ∨ s.siRAiOpenLsnPortReq = []) : LptCall s repFull (s, {})

lemma pListeningPortTable_cases (s : LptState) (repFull : Bool) :
    LptCall s repFull (pListeningPortTable s repFull) := by
  cases hi : s.isLPtInit with
  | false =>
      rw [pListeningPortTable.eq_def, if_pos (by simp [hi])]
      exact .init hi
  | true =>
      rw [pListeningPortTable.eq_def, if_neg (by simp [hi])]
      split
      · next hq => exact .opened hi hq
      · next hq _ => exact .query hi hq
      · next full _ _ _ hq hno =>
          refine .idle hi hq ?_
          cases full with
          | true => exact .inl rfl
          | false =>
              right
              cases hr : s.siRAiOpenLsnPortReq with
              | nil => rfl
              | cons p ps => exact absurd rfl (hno p ps hr)

/-- What a call of the router does. -/
inductive IrrCall (s : PortTables) : PortTables → Prop
  | idle (hq : s.siRXeGetPortStateCmd = []) : IrrCall s s
  | full {p : TcpPort} {ps : List TcpPort} (hq : s.siRXeGetPortStateCmd = p :: ps)
      (hfull : 4 ≤ s.ssIrrToOrmQueryRange.length ∨
        p < 0x8000 ∧ 2 ≤ s.lpt.siIrrGetPortStateCmd.length ∨
        ¬p < 0x8000 ∧ 2 ≤ s.fpt.siIrrGetPortStateCmd.length) : IrrCall s s
  | lsn {p : TcpPort} {ps : List TcpPort} (hq : s.siRXeGetPortStateCmd = p :: ps)
      (hp : p < 0x8000) :
      IrrCall s
        { s with
          siRXeGetPortStateCmd := ps
          lpt := { s.lpt with
            siIrrGetPortStateCmd := s.lpt.siIrrGetPortStateCmd ++ [dynPortNum p] }
          ssIrrToOrmQueryRange := s.ssIrrToOrmQueryRange ++ [listenPort] }
  | act {p : TcpPort} {ps : List TcpPort} (hq : s.siRXeGetPortStateCmd = p :: ps)
      (hp : ¬p < 0x8000) :
      IrrCall s
        { s with
          siRXeGetPortStateCmd := ps
          fpt := { s.fpt with
            siIrrGetPortStateCmd := s.fpt.siIrrGetPortStateCmd ++ [dynPortNum p] }
          ssIrrToOrmQueryRange := s.ssIrrToOrmQueryRange ++ [activePort] }

lemma pInputRequestRouter_cases (s : PortTables) : IrrCall s (pInputRequestRouter s) := by
  rw [pInputRequestRouter]
  split
  · next hq => exact .idle hq
  · next p ps hq =>
      split_ifs with hrange hp hlsn hact
      · exact .full hq (.inl hrange)
      · exact .full hq (.inr (.inl ⟨hp, hlsn⟩))
      · exact .lsn hq hp
      · exact .full hq (.inr (.inr ⟨hp, hact⟩))
      · exact .act hq hp

/-- What a call of the multiplexer does. -/
inductive OrmCall (s : PortTables) : Bool → PortTables × List Bool → Prop
  | idle {rspFull : Bool} (hq : s.orm = .waitForQueryFromIrr → s.ssIrrToOrmQueryRange = [])
      (hl : s.orm = .forwardLsnPortStateRsp → rspFull = false →
        s.ssLptToOrmGetLsnPortStateRsp = [])
      (ha : s.orm = .forwardActPortStateRsp → rspFull = false →
        s.ssFptToOrmGetActPortStateRsp = []) : OrmCall s rspFull (s, [])
  | query {rspFull q : Bool} {qs : List Bool} (ho : s.orm = .waitForQueryFromIrr)
      (hq : s.ssIrrToOrmQueryRange = q :: qs) :
      OrmCall s rspFull
        ({ s with
          ssIrrToOrmQueryRange := qs
          orm := if q = listenPort then .forwardLsnPortStateRsp else .forwardActPortStateRsp }, [])
  | lsn {b : Bool} {bs : List Bool} (ho : s.orm = .forwardLsnPortStateRsp)
      (hq : s.ssLptToOrmGetLsnPortStateRsp = b :: bs) :
      OrmCall s false
        ({ s with ssLptToOrmGetLsnPortStateRsp := bs, orm := .waitForQueryFromIrr }, [b])
  | act {b : Bool} {bs : List Bool} (ho : s.orm = .forwardActPortStateRsp)
      (hq : s.ssFptToOrmGetActPortStateRsp = b :: bs) :
      OrmCall s false
        ({ s with ssFptToOrmGetActPortStateRsp := bs, orm := .waitForQueryFromIrr }, [b])

lemma pOutputReplyMultiplexer_cases (s : PortTables) (rspFull : Bool) :
    OrmCall s rspFull (pOutputReplyMultiplexer s rspFull) := by
  rw [pOutputReplyMultiplexer.eq_def]
  split
  · next ho =>
      split
      · next hq => exact .idle (fun _ => hq) (by simp [ho]) (by simp [ho])
      · next hq => exact .query ho hq
  · next ho =>
      split
      · next hq => exact .lsn ho hq
      · next hno =>
          refine .idle (by simp [ho]) (fun _ hfull => ?_) (by simp [ho])
          cases hq : s.ssLptToOrmGetLsnPortStateRsp with
          | nil => rfl
          | cons b bs => exact absurd hfull (hno b bs hq)
  · next ho =>
      split
      · next hq => exact .act ho hq
      · next hno =>
          refine .idle (by simp [ho]) (by simp [ho]) (fun _ hfull => ?_)
          cases hq : s.ssFptToOrmGetActPortStateRsp with
          | nil => rfl
          | cons b bs => exact absurd hfull (hno b bs hq)

/-! ### Runs with one more step -/

section Snoc

variable (ls : List PrtLabel) (l : PrtLabel)

@[simp] lemma prtRun_snoc : prtRun (ls ++ [l]) = prtNext (prtRun ls) l := by
  rw [prtRun, Clocked.run_append, Clocked.run_cons, Clocked.run_nil, prtRun]

@[simp] lemma prtQueries_snoc : prtQueries (ls ++ [l]) = prtQueries ls ++ prtQuery l := by
  simp [prtQueries]

@[simp] lemma prtReplies_snoc :
    prtReplies (ls ++ [l]) = prtReplies ls ++ prtReply (prtRun ls) l := by
  rw [prtReplies, emits_append, emits_cons, emits_nil, List.append_nil, prtReplies, prtRun]

@[simp] lemma prtListening_snoc :
    prtListening (ls ++ [l]) = prtListening ls ++ prtOpened (prtRun ls) l := by
  rw [prtListening, emits_append, emits_cons, emits_nil, List.append_nil, prtListening, prtRun]

@[simp] lemma prtLog_snoc :
    prtLog (ls ++ [l]) = prtLog ls ++ (prtEvent (prtRun ls) l).toList := by
  rw [prtLog, Clocked.log_append, Clocked.log, Clocked.log, List.append_nil, prtLog, prtRun]

end Snoc

/-! ### The tables follow what happens to the ports -/

/-- The tables agree with the history of the ports, and nothing happens before they are
initialised. -/
structure TablesAgree (ls : List PrtLabel) (s : PortTables) : Prop where
  lpt : ∀ d, s.lpt.table d = stsOpened ↔ d ∈ prtListening ls
  lptInit : s.lpt.isLPtInit = false → ∀ d, s.lpt.table d = stsClosed
  fpt : ∀ d, s.fpt.table d = actUsedPort ↔ Held d (prtLog ls)
  fptInit : s.fpt.isFPtInit = false → ∀ d, s.fpt.table d = actFreePort

/-- A call of the listening port table that is not blocked does what it does; a blocked one changes
nothing, and neither opens a port. -/
lemma prtLpt_cases (s : PortTables) (repFull : Bool) :
    prtLpt s repFull = s ∧ prtOpened s (.lpt repFull) = [] ∨
      prtLpt s repFull =
        { s with
          lpt := (pListeningPortTable s.lpt repFull).1
          ssLptToOrmGetLsnPortStateRsp := s.ssLptToOrmGetLsnPortStateRsp ++
            (pListeningPortTable s.lpt repFull).2.soOrmGetPortStateRsp } := by
  rw [prtLpt]
  split
  · next hblocked =>
      refine .inl ⟨rfl, ?_⟩
      have hcall := pListeningPortTable_cases s.lpt repFull
      rw [prtOpened]
      generalize pListeningPortTable s.lpt repFull = r at *
      cases hcall with
      | init hi => rfl
      | opened hi hq =>
          refine absurd ?_ hblocked.1
          rw [lptOpen]
          split <;> rfl
      | query hi hq => rfl
      | idle hi hq hr => rfl
  · exact .inr rfl

lemma prtFpt_cases (s : PortTables) (repFull : Bool) :
    prtFpt s repFull = s ∧ prtEvent s (.fpt repFull) = none ∨
      prtFpt s repFull =
        { s with
          fpt := (pFreePortTable true s.fpt repFull).1
          ssFptToOrmGetActPortStateRsp := s.ssFptToOrmGetActPortStateRsp ++
            (pFreePortTable true s.fpt repFull).2.soOrmGetPortStateRsp } := by
  rw [prtFpt]
  split
  · next hblocked =>
      refine .inl ⟨rfl, ?_⟩
      have hcall := pFreePortTable_cases true s.fpt repFull
      rw [prtEvent, fptEvent]
      generalize pFreePortTable true s.fpt repFull = r at *
      cases hcall with
      | query hi hs he hq => rfl
      | close hi hs he hq hr hc =>
          refine absurd ?_ hblocked.1
          rw [fptClose]
          split <;> rfl
      | init | search | found | blocked | skip | request | idle => exact absurd rfl hblocked.1
  · exact .inr rfl

/-- A call of the listening port table keeps the table in agreement. -/
lemma TablesAgree.lptCall {ls : List PrtLabel} {s : PortTables} (h : TablesAgree ls s)
    (repFull : Bool) :
    (∀ d, (pListeningPortTable s.lpt repFull).1.table d = stsOpened ↔
        d ∈ prtListening ls ++ prtOpened s (.lpt repFull)) ∧
      ((pListeningPortTable s.lpt repFull).1.isLPtInit = false →
        ∀ d, (pListeningPortTable s.lpt repFull).1.table d = stsClosed) := by
  have hcall := pListeningPortTable_cases s.lpt repFull
  rw [prtOpened]
  generalize pListeningPortTable s.lpt repFull = r at *
  cases hcall with
  | init hi =>
      have htable : (CloudFpga.Toe.lptInit s.lpt).table = s.lpt.table := by
        rw [CloudFpga.Toe.lptInit, ← h.lptInit hi, Function.update_eq_self]
      simp only [htable, Option.toList_none, List.append_nil]
      exact ⟨h.lpt, fun _ => h.lptInit hi⟩
  | @opened p ps hi hq =>
      rw [lptOpen]
      split
      · refine ⟨fun d => ?_, fun hi' => absurd (hi.symm.trans hi') Bool.true_eq_false.mp⟩
        rw [Option.toList_some, List.mem_append, List.mem_singleton, ← h.lpt]
        by_cases hd : d = dynPortNum p
        · simp [hd]
        · simp [hd]
      · simp only [Option.toList_none, List.append_nil]
        exact ⟨h.lpt, fun hi' => absurd (hi.symm.trans hi') Bool.true_eq_false.mp⟩
  | query hi hq =>
      simp only [Option.toList_none, List.append_nil]
      exact ⟨h.lpt, h.lptInit⟩
  | idle hi hq hr =>
      simp only [Option.toList_none, List.append_nil]
      exact ⟨h.lpt, h.lptInit⟩

/-- A call of the free port table keeps the table in agreement. -/
lemma TablesAgree.fptCall {ls : List PrtLabel} {s : PortTables} (h : TablesAgree ls s)
    (repFull : Bool) :
    (∀ d, (pFreePortTable true s.fpt repFull).1.table d = actUsedPort ↔
        Held d (prtLog ls ++ (prtEvent s (.fpt repFull)).toList)) ∧
      ((pFreePortTable true s.fpt repFull).1.isFPtInit = false →
        ∀ d, (pFreePortTable true s.fpt repFull).1.table d = actFreePort) := by
  have hcall := pFreePortTable_cases true s.fpt repFull
  rw [prtEvent, fptEvent]
  generalize pFreePortTable true s.fpt repFull = r at *
  have hno (hi : s.fpt.isFPtInit = true) {P : Prop} (hi' : s.fpt.isFPtInit = false) : P :=
    absurd (hi.symm.trans hi') Bool.true_eq_false.mp
  cases hcall with
  | init hi =>
      have htable : (CloudFpga.Toe.fptInit s.fpt).table = s.fpt.table := by
        rw [CloudFpga.Toe.fptInit, ← h.fptInit hi, Function.update_eq_self]
      simp only [htable, Option.map_none, Option.toList_none, List.append_nil]
      exact ⟨h.fpt, fun _ => h.fptInit hi⟩
  | found hi hs he hp =>
      refine ⟨fun d => ?_, hno hi⟩
      rw [Option.toList_some, held_snoc, ← h.fpt, dynPortNum_dynPort]
      by_cases hd : d = s.fpt.dynPortNum
      · simp [hd]
      · simp [Function.update_of_ne hd, Ne.symm hd]
  | close hi hs he hq hr hc =>
      rw [fptClose]
      split
      · next p ps _ =>
          refine ⟨fun d => ?_, hno hi⟩
          simp only [Option.map_some, Option.toList_some]
          rw [held_snoc, ← h.fpt]
          by_cases hd : d = dynPortNum p
          · simp [hd, actFreePort, actUsedPort]
          · simp [Function.update_of_ne hd, Ne.symm hd]
      · simp only [Option.map_none, Option.toList_none, List.append_nil]
        exact ⟨h.fpt, hno hi⟩
  | search | blocked | skip | query | request | idle =>
      simp only [Option.map_none, Option.toList_none, List.append_nil]
      exact ⟨h.fpt, h.fptInit⟩

/-- **The tables** agree with the history of the ports after every run. -/
lemma tablesAgree (ls : List PrtLabel) : TablesAgree ls (prtRun ls) := by
  induction ls using List.reverseRecOn with
  | nil =>
      refine ⟨fun d => ?_, fun _ _ => rfl, fun d => ?_, fun _ _ => rfl⟩
      · simp [prtListening, prtRun, stsClosed, stsOpened]
      · simp [prtLog, prtRun, Clocked.log, not_held_nil, fptStart, actFreePort, actUsedPort]
  | append_singleton ls l ih =>
      have hlpt := ih.lptCall
      have hfpt := ih.fptCall
      have hsame (s' : PortTables) (hl : s'.lpt.table = (prtRun ls).lpt.table)
          (hli : s'.lpt.isLPtInit = (prtRun ls).lpt.isLPtInit)
          (hf : s'.fpt.table = (prtRun ls).fpt.table)
          (hfi : s'.fpt.isFPtInit = (prtRun ls).fpt.isFPtInit)
          (hopened : prtOpened (prtRun ls) l = []) (hevent : prtEvent (prtRun ls) l = none) :
          TablesAgree (ls ++ [l]) s' := by
        refine ⟨?_, ?_, ?_, ?_⟩
        · rw [hl, prtListening_snoc, hopened, List.append_nil]
          exact ih.lpt
        · rw [hl, hli]
          exact ih.lptInit
        · rw [hf, prtLog_snoc, hevent, Option.toList_none, List.append_nil]
          exact ih.fpt
        · rw [hf, hfi]
          exact ih.fptInit
      rw [prtRun_snoc]
      cases l with
      | getPortStateCmd p => exact hsame _ rfl rfl rfl rfl rfl rfl
      | openLsnPortReq p => exact hsame _ rfl rfl rfl rfl rfl rfl
      | getFreePortReq => exact hsame _ rfl rfl rfl rfl rfl rfl
      | closeActPortCmd p => exact hsame _ rfl rfl rfl rfl rfl rfl
      | irr =>
          have hcall := pInputRequestRouter_cases (prtRun ls)
          rw [prtNext]
          generalize pInputRequestRouter (prtRun ls) = s' at *
          cases hcall <;> exact hsame _ rfl rfl rfl rfl rfl rfl
      | orm rspFull =>
          have hcall := pOutputReplyMultiplexer_cases (prtRun ls) rspFull
          rw [prtNext]
          generalize pOutputReplyMultiplexer (prtRun ls) rspFull = r at *
          cases hcall <;> exact hsame _ rfl rfl rfl rfl rfl rfl
      | lpt repFull =>
          rcases prtLpt_cases (prtRun ls) repFull with ⟨hs, hopened⟩ | hs
          · rw [prtNext, hs]
            exact hsame _ rfl rfl rfl rfl hopened rfl
          · rw [prtNext, hs]
            refine ⟨?_, (hlpt repFull).2, ?_, ih.fptInit⟩
            · rw [prtListening_snoc]
              exact (hlpt repFull).1
            · rw [prtLog_snoc]
              simpa [prtEvent] using ih.fpt
      | fpt repFull =>
          rcases prtFpt_cases (prtRun ls) repFull with ⟨hs, hevent⟩ | hs
          · rw [prtNext, hs]
            exact hsame _ rfl rfl rfl rfl rfl hevent
          · rw [prtNext, hs]
            refine ⟨?_, ih.lptInit, ?_, (hfpt repFull).2⟩
            · rw [prtListening_snoc]
              simpa [prtOpened] using ih.lpt
            · rw [prtLog_snoc]
              exact (hfpt repFull).1

/-! ### The way of the queries -/

/-- The query is about a port below 32768. -/
def isLsn (q : TcpPort × ℕ) : Bool := q.1 < 0x8000

/-- The range that the multiplexer has read. -/
def OrmState.range : OrmState → List Bool
  | .waitForQueryFromIrr => []
  | .forwardLsnPortStateRsp => [listenPort]
  | .forwardActPortStateRsp => [activePort]

/-- The reply is right for the query with its number. -/
def Between (ls : List PrtLabel) (q : TcpPort × ℕ) (reply : Bool) : Prop :=
  StateBetween ls q.2 q.1 reply

/-- The queries of a run with their numbers: those that have their reply, those that are under way,
and those that wait. -/
structure PrtFlow (ls : List PrtLabel) (s : PortTables) (done out waiting : List (TcpPort × ℕ)) :
    Prop where
  queries : (prtQueries ls).zipIdx = done ++ (out ++ waiting)
  waiting : waiting.map Prod.fst = s.siRXeGetPortStateCmd
  replies : List.Forall₂ (Between ls) done (prtReplies ls)
  ranges : s.orm.range ++ s.ssIrrToOrmQueryRange = out.map isLsn
  lsn : Foundation.Lane (Between ls) (fun q => dynPortNum q.1) (out.filter isLsn)
    s.ssLptToOrmGetLsnPortStateRsp s.lpt.siIrrGetPortStateCmd
  act : Foundation.Lane (Between ls) (fun q => dynPortNum q.1) (out.filter fun q => !isLsn q)
    s.ssFptToOrmGetActPortStateRsp s.fpt.siIrrGetPortStateCmd

/-- The number of a query that is not among the first ones. -/
lemma zipIdx_snd {α : Type} {xs : List α} {as bs : List (α × ℕ)} (h : xs.zipIdx = as ++ bs)
    {q : α × ℕ} (hq : q ∈ bs) : as.length ≤ q.2 ∧ q.2 < xs.length := by
  obtain ⟨i, hi⟩ := List.mem_iff_getElem?.mp hq
  have hget : xs.zipIdx[as.length + i]? = some q := by
    rw [h, List.getElem?_append_right (Nat.le_add_right ..), Nat.add_sub_cancel_left]
    exact hi
  obtain ⟨hlt, -⟩ := List.getElem?_eq_some_iff.mp hi
  have hlen := congrArg List.length h
  rw [List.length_zipIdx, List.length_append] at hlen
  rw [List.getElem?_zipIdx, Option.map_eq_some_iff] at hget
  obtain ⟨p, -, rfl⟩ := hget
  simp only
  omega

/-- What was right once stays so. -/
lemma Between.snoc {ls : List PrtLabel} {q : TcpPort × ℕ} {reply : Bool} (h : Between ls q reply)
    (l : PrtLabel) : Between (ls ++ [l]) q reply := by
  obtain ⟨pre, post, rfl, hrest⟩ := h
  exact ⟨pre, post ++ [l], List.append_assoc .., hrest⟩

section Flow

variable {ls : List PrtLabel} {s : PortTables} {done out waiting : List (TcpPort × ℕ)}

/-- The state of a port now is a right reply for a query under way. -/
lemma PrtFlow.now (h : PrtFlow ls s done out waiting) (l : PrtLabel) {q : TcpPort × ℕ}
    (hq : q ∈ out) {reply : Bool} (hopen : reply = true ↔ PortOpen ls q.1) :
    Between (ls ++ [l]) q reply := by
  obtain ⟨hle, hlt⟩ := zipIdx_snd h.queries (List.mem_append_left waiting hq)
  rw [h.replies.length_eq] at hle
  exact ⟨ls, [l], rfl, hlt, hle, hopen⟩

/-- A step that gives no reply, on the queries that are done and on the lanes. -/
lemma PrtFlow.keep (h : PrtFlow ls s done out waiting) {l : PrtLabel}
    (hreply : prtReply (prtRun ls) l = []) :
    List.Forall₂ (Between (ls ++ [l])) done (prtReplies (ls ++ [l])) ∧
      Foundation.Lane (Between (ls ++ [l])) (fun q => dynPortNum q.1) (out.filter isLsn)
        s.ssLptToOrmGetLsnPortStateRsp s.lpt.siIrrGetPortStateCmd ∧
      Foundation.Lane (Between (ls ++ [l])) (fun q => dynPortNum q.1)
        (out.filter fun q => !isLsn q)
        s.ssFptToOrmGetActPortStateRsp s.fpt.siIrrGetPortStateCmd := by
  refine ⟨?_, h.lsn.mono fun _ _ hb => hb.snoc l, h.act.mono fun _ _ hb => hb.snoc l⟩
  rw [prtReplies_snoc, hreply, List.append_nil]
  exact h.replies.imp fun _ _ hb => hb.snoc l

/-- A step that does not touch the queries. -/
lemma PrtFlow.stay (h : PrtFlow ls s done out waiting) {l : PrtLabel} {s' : PortTables}
    (hquery : prtQuery l = []) (hreply : prtReply (prtRun ls) l = [])
    (hwaiting : s'.siRXeGetPortStateCmd = s.siRXeGetPortStateCmd) (horm : s'.orm = s.orm)
    (hrange : s'.ssIrrToOrmQueryRange = s.ssIrrToOrmQueryRange)
    (hlsn : s'.ssLptToOrmGetLsnPortStateRsp = s.ssLptToOrmGetLsnPortStateRsp)
    (hact : s'.ssFptToOrmGetActPortStateRsp = s.ssFptToOrmGetActPortStateRsp)
    (hlpt : s'.lpt.siIrrGetPortStateCmd = s.lpt.siIrrGetPortStateCmd)
    (hfpt : s'.fpt.siIrrGetPortStateCmd = s.fpt.siIrrGetPortStateCmd) :
    PrtFlow (ls ++ [l]) s' done out waiting := by
  obtain ⟨hdone, hl, ha⟩ := h.keep hreply
  refine ⟨?_, ?_, hdone, ?_, ?_, ?_⟩
  · rw [prtQueries_snoc, hquery, List.append_nil]
    exact h.queries
  · rw [hwaiting]
    exact h.waiting
  · rw [horm, hrange]
    exact h.ranges
  · rw [hlsn, hlpt]
    exact hl
  · rw [hact, hfpt]
    exact ha

/-- A query arrives. -/
lemma PrtFlow.arrive (h : PrtFlow ls s done out waiting) (p : TcpPort) :
    PrtFlow (ls ++ [.getPortStateCmd p])
      { s with siRXeGetPortStateCmd := s.siRXeGetPortStateCmd ++ [p] } done out
      (waiting ++ [(p, (prtQueries ls).length)]) := by
  obtain ⟨hdone, hl, ha⟩ := @PrtFlow.keep _ _ _ _ _ h (.getPortStateCmd p) rfl
  refine ⟨?_, ?_, hdone, h.ranges, hl, ha⟩
  · rw [prtQueries_snoc, List.zipIdx_append, h.queries]
    simp [prtQuery]
  · rw [List.map_append, h.waiting]
    rfl

/-- The router takes a query. -/
lemma PrtFlow.route (h : PrtFlow ls (prtRun ls) done out waiting) :
    ∃ out' waiting', PrtFlow (ls ++ [.irr]) (pInputRequestRouter (prtRun ls)) done out'
      waiting' := by
  have hcall := pInputRequestRouter_cases (prtRun ls)
  obtain ⟨hdone, hl, ha⟩ := @PrtFlow.keep _ _ _ _ _ h .irr rfl
  have hqueries := h.queries
  have hwaiting := h.waiting
  generalize pInputRequestRouter (prtRun ls) = s' at *
  have hsame : prtQueries (ls ++ [.irr]) = prtQueries ls := by
    rw [prtQueries_snoc]
    exact List.append_nil _
  cases hcall with
  | idle hq => exact ⟨out, waiting, h.stay rfl rfl rfl rfl rfl rfl rfl rfl rfl⟩
  | full hq hfull => exact ⟨out, waiting, h.stay rfl rfl rfl rfl rfl rfl rfl rfl rfl⟩
  | @lsn p ps hq hp =>
      rw [hq] at hwaiting
      cases waiting with
      | nil => cases hwaiting
      | cons q waiting =>
          rw [List.map_cons, List.cons.injEq] at hwaiting
          obtain ⟨rfl, hwaiting⟩ := hwaiting
          have hlsn : isLsn q = true := decide_eq_true hp
          refine ⟨out ++ [q], waiting, ?_, hwaiting, hdone, ?_, ?_, ?_⟩
          · rw [hsame, hqueries]
            simp
          · rw [List.map_append, ← h.ranges, List.map_singleton, hlsn, List.append_assoc]
            rfl
          · rw [List.filter_append, List.filter_singleton, hlsn]
            exact hl.push q
          · rw [List.filter_append, List.filter_singleton, hlsn]
            simpa using ha
  | @act p ps hq hp =>
      rw [hq] at hwaiting
      cases waiting with
      | nil => cases hwaiting
      | cons q waiting =>
          rw [List.map_cons, List.cons.injEq] at hwaiting
          obtain ⟨rfl, hwaiting⟩ := hwaiting
          have hact : isLsn q = false := decide_eq_false hp
          refine ⟨out ++ [q], waiting, ?_, hwaiting, hdone, ?_, ?_, ?_⟩
          · rw [hsame, hqueries]
            simp
          · rw [List.map_append, ← h.ranges, List.map_singleton, hact, List.append_assoc]
            rfl
          · rw [List.filter_append, List.filter_singleton, hact]
            simpa using hl
          · rw [List.filter_append, List.filter_singleton, hact]
            exact ha.push q

/-- A call of the listening port table answers the first query for it. -/
lemma PrtFlow.lptCall (h : PrtFlow ls (prtRun ls) done out waiting) (repFull : Bool) :
    PrtFlow (ls ++ [.lpt repFull]) (prtLpt (prtRun ls) repFull) done out waiting := by
  have htables := tablesAgree ls
  rcases prtLpt_cases (prtRun ls) repFull with ⟨hs, -⟩ | hs
  · rw [hs]
    exact h.stay rfl rfl rfl rfl rfl rfl rfl rfl rfl
  · rw [hs]
    have hcall := pListeningPortTable_cases (prtRun ls).lpt repFull
    generalize pListeningPortTable (prtRun ls).lpt repFull = r at *
    cases hcall with
    | init hi => exact h.stay rfl rfl rfl rfl rfl (List.append_nil _) rfl rfl rfl
    | idle hi hq hr => exact h.stay rfl rfl rfl rfl rfl (List.append_nil _) rfl rfl rfl
    | @opened p ps hi hq =>
        rw [lptOpen]
        split <;> exact h.stay rfl rfl rfl rfl rfl (List.append_nil _) rfl rfl rfl
    | @query _ d ds hi hq =>
        obtain ⟨hdone, hl, ha⟩ := @PrtFlow.keep _ _ _ _ _ h (.lpt repFull) rfl
        rw [hq] at hl
        refine ⟨?_, h.waiting, hdone, h.ranges, hl.serve fun q hmem hd => ?_, ha⟩
        · rw [prtQueries_snoc]
          exact (congrArg List.zipIdx (List.append_nil _)).trans h.queries
        · obtain ⟨hout, hlsn⟩ := List.mem_filter.mp hmem
          refine h.now _ hout ?_
          rw [PortOpen, if_pos (of_decide_eq_true hlsn), hd]
          exact htables.lpt d

/-- A call of the free port table answers the first query for it. -/
lemma PrtFlow.fptCall (h : PrtFlow ls (prtRun ls) done out waiting) (repFull : Bool) :
    PrtFlow (ls ++ [.fpt repFull]) (prtFpt (prtRun ls) repFull) done out waiting := by
  have htables := tablesAgree ls
  rcases prtFpt_cases (prtRun ls) repFull with ⟨hs, -⟩ | hs
  · rw [hs]
    exact h.stay rfl rfl rfl rfl rfl rfl rfl rfl rfl
  · rw [hs]
    have hcall := pFreePortTable_cases true (prtRun ls).fpt repFull
    generalize pFreePortTable true (prtRun ls).fpt repFull = r at *
    cases hcall with
    | close hi hs he hq hr hc =>
        rw [fptClose]
        split <;> exact h.stay rfl rfl rfl rfl rfl rfl (List.append_nil _) rfl rfl
    | @query _ d ds hi hs he hq =>
        obtain ⟨hdone, hl, ha⟩ := @PrtFlow.keep _ _ _ _ _ h (.fpt repFull) rfl
        rw [hq] at ha
        refine ⟨?_, h.waiting, hdone, h.ranges, hl, ha.serve fun q hmem hd => ?_⟩
        · rw [prtQueries_snoc]
          exact (congrArg List.zipIdx (List.append_nil _)).trans h.queries
        · obtain ⟨hout, hact⟩ := List.mem_filter.mp hmem
          have hp : ¬q.1 < 0x8000 := by simpa [isLsn] using hact
          refine h.now _ hout ?_
          rw [PortOpen, if_neg hp, hd]
          exact htables.fpt d
    | init | search | found | blocked | skip | request | idle =>
        exact h.stay rfl rfl rfl rfl rfl rfl (List.append_nil _) rfl rfl

/-- The multiplexer replies to the first query under way. -/
lemma PrtFlow.reply (h : PrtFlow ls (prtRun ls) done out waiting) (rspFull : Bool) :
    ∃ done' out', PrtFlow (ls ++ [.orm rspFull])
      (pOutputReplyMultiplexer (prtRun ls) rspFull).1 done' out' waiting := by
  have hcall := pOutputReplyMultiplexer_cases (prtRun ls) rspFull
  have hreply : prtReply (prtRun ls) (.orm rspFull) =
      (pOutputReplyMultiplexer (prtRun ls) rspFull).2 := rfl
  have hsame : prtQueries (ls ++ [.orm rspFull]) = prtQueries ls := by
    rw [prtQueries_snoc]
    exact List.append_nil _
  have hranges := h.ranges
  generalize pOutputReplyMultiplexer (prtRun ls) rspFull = r at *
  cases hcall with
  | idle hq hl ha => exact ⟨done, out, h.stay rfl hreply rfl rfl rfl rfl rfl rfl rfl⟩
  | @query _ q qs ho hq =>
      obtain ⟨hdone, hl, ha⟩ := h.keep hreply
      rw [ho, hq] at hranges
      refine ⟨done, out, ?_, h.waiting, hdone, ?_, hl, ha⟩
      · rw [hsame]
        exact h.queries
      · rw [← hranges]
        cases q <;> rfl
  | @lsn b bs ho hq =>
      have hl := h.lsn.mono fun _ _ hb => hb.snoc (.orm false)
      have ha := h.act.mono fun _ _ hb => hb.snoc (.orm false)
      rw [ho] at hranges
      cases out with
      | nil => cases hranges
      | cons q out =>
          simp only [OrmState.range, List.map_cons, List.singleton_append, List.cons.injEq]
            at hranges
          obtain ⟨hlsn, hranges⟩ := hranges
          have hlsn : isLsn q = true := hlsn.symm
          rw [List.filter_cons, hlsn, hq] at hl
          rw [List.filter_cons, hlsn] at ha
          obtain ⟨hb, hl⟩ := hl.pop
          refine ⟨done ++ [q], out, ?_, h.waiting, ?_, hranges, hl, ha⟩
          · rw [hsame, h.queries]
            simp
          · rw [prtReplies_snoc, hreply]
            exact List.rel_append (h.replies.imp fun _ _ hb => hb.snoc _) (.cons hb .nil)
  | @act b bs ho hq =>
      have hl := h.lsn.mono fun _ _ hb => hb.snoc (.orm false)
      have ha := h.act.mono fun _ _ hb => hb.snoc (.orm false)
      rw [ho] at hranges
      cases out with
      | nil => cases hranges
      | cons q out =>
          simp only [OrmState.range, List.map_cons, List.singleton_append, List.cons.injEq]
            at hranges
          obtain ⟨hact, hranges⟩ := hranges
          have hact : isLsn q = false := hact.symm
          rw [List.filter_cons, hact] at hl
          rw [List.filter_cons, hact, hq] at ha
          obtain ⟨hb, ha⟩ := ha.pop
          refine ⟨done ++ [q], out, ?_, h.waiting, ?_, hranges, hl, ha⟩
          · rw [hsame, h.queries]
            simp
          · rw [prtReplies_snoc, hreply]
            exact List.rel_append (h.replies.imp fun _ _ hb => hb.snoc _) (.cons hb .nil)

end Flow

/-- **The queries** of every run: each has its reply, is under way, or waits. -/
lemma prtFlow (ls : List PrtLabel) :
    ∃ done out waiting, PrtFlow ls (prtRun ls) done out waiting := by
  induction ls using List.reverseRecOn with
  | nil => exact ⟨[], [], [], rfl, rfl, .nil, rfl, .nil, .nil⟩
  | append_singleton ls l ih =>
      obtain ⟨done, out, waiting, h⟩ := ih
      rw [prtRun_snoc]
      cases l with
      | getPortStateCmd p => exact ⟨done, out, _, h.arrive p⟩
      | openLsnPortReq p => exact ⟨done, out, waiting, h.stay rfl rfl rfl rfl rfl rfl rfl rfl rfl⟩
      | getFreePortReq => exact ⟨done, out, waiting, h.stay rfl rfl rfl rfl rfl rfl rfl rfl rfl⟩
      | closeActPortCmd p => exact ⟨done, out, waiting, h.stay rfl rfl rfl rfl rfl rfl rfl rfl rfl⟩
      | irr =>
          obtain ⟨out', waiting', h'⟩ := h.route
          exact ⟨done, out', waiting', h'⟩
      | lpt repFull => exact ⟨done, out, waiting, h.lptCall repFull⟩
      | fpt repFull => exact ⟨done, out, waiting, h.fptCall repFull⟩
      | orm rspFull =>
          obtain ⟨done', out', h'⟩ := h.reply rspFull
          exact ⟨done', out', waiting, h'⟩

/-- The replies of every run are in order, and tell the states of the ports. -/
lemma repliesInOrder (ls : List PrtLabel) : RepliesInOrder ls := by
  obtain ⟨done, out, waiting, h⟩ := prtFlow ls
  have hlen := congrArg List.length h.queries
  rw [List.length_zipIdx, List.length_append, h.replies.length_eq] at hlen
  refine ⟨by omega, fun k reply hreply => ?_⟩
  obtain ⟨hk, -⟩ := List.getElem?_eq_some_iff.mp hreply
  have hk' : k < done.length := h.replies.length_eq ▸ hk
  have hbetween : Between ls done[k] reply := by
    have hget := List.Forall₂.get h.replies hk' hk
    simp only [List.get_eq_getElem] at hget
    rwa [(List.getElem?_eq_some_iff.mp hreply).2] at hget
  have hquery : (prtQueries ls).zipIdx[k]? = some done[k] := by
    rw [h.queries, List.getElem?_append_left hk', List.getElem?_eq_getElem hk']
  rw [List.getElem?_zipIdx, Option.map_eq_some_iff] at hquery
  obtain ⟨p, hp, heq⟩ := hquery
  refine ⟨p, hp, ?_⟩
  rw [← heq] at hbetween
  simpa [Between] using hbetween

end CloudFpga.Toe
