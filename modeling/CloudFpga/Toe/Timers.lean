import CloudFpga.Foundation.Clocked
import CloudFpga.Toe.Types

/-!
The timers of the TOE, `timers.cpp`: `pRetransmitTimer`, `pProbeTimer` and `pCloseTimer`.

Each process keeps a table with one entry for each session and goes through it, one entry in each
call that has no command to serve.

* `TimOut`: what a call accesses and writes.
* `pRetransmitTimer`, `pProbeTimer`, `pCloseTimer`: one call of the processes.
* `CallOk`: the accesses are inside the table, and what is announced was active and allocated.
* `RttOverruns`, `CltOverruns`: the two calls in which a position leaves the table.
* `timers_consistent`: along every run without such a call, every call is fine.
-/

namespace CloudFpga.Toe

open Foundation

/-- `TIME_1s` and the like, in a build with `__SYNTHESIS__`: `s / 0.0000000064 / TOE_MAX_SESSIONS`
rounded down, plus 1. -/
def timeSec (s : ℕ) : BitVec 32 := BitVec.ofNat 32 (s * 156250000 / toeMaxSessions + 1)

/-- What a call of a timer writes on its output streams; and `access`, the positions of its table
that it reads or writes. -/
structure TimOut where
  access : List SessionId := []
  soEmxEvent : List Event := []
  soSmxSessCloseCmd : List SessionId := []
  soTAiNotif : List SessState := []
  soRAiNotif : List TcpAppNotif := []
  deriving DecidableEq

/-- The sessions that a call announces as expired or closed. -/
def TimOut.announced (o : TimOut) : List SessionId :=
  o.soEmxEvent.map (·.sessionID) ++ o.soSmxSessCloseCmd ++ o.soTAiNotif.map (·.sessId) ++
    o.soRAiNotif.map (·.sessionID)

/-! ### The retransmit timer -/

structure ReTxTimerEntry where
  time : BitVec 32 := 0
  retries : BitVec 3 := 0
  active : Bool := false
  type : EventType := .tx
  deriving DecidableEq

/-- `RETRANSMIT_TIMER_TABLE`, the registers and the input streams of the process. The table has
`TOE_MAX_SESSIONS` entries: what the function holds at greater positions is no part of it. -/
structure RttState where
  table : SessionId → ReTxTimerEntry := fun _ => {}
  waitForWrite : Bool := false
  prevPosition : SessionId := 0
  position : SessionId := 0
  rxeCmd : RXeReTransTimerCmd := ⟨0, .stopTimer⟩
  siRXeReTxTimerCmd : List RXeReTransTimerCmd := []
  siTXeReTxTimerCmd : List TXeReTransTimerCmd := []

/-- An entry after a command of the Rx engine. -/
def rttRxeEntry (e : ReTxTimerEntry) : TimerCmd → ReTxTimerEntry
  | .loadTimer => { e with time := timeSec 1, retries := 0 }
  | .stopTimer => { e with time := 0, active := false, retries := 0 }

/-- The retransmission timeout after a number of retries. -/
def rttTimeout (retries : BitVec 3) : BitVec 32 :=
  if retries = 0 then timeSec 3
  else if retries = 1 then timeSec 6
  else if retries = 2 then timeSec 12
  else timeSec 30

/-- An entry after a command of the Tx engine. -/
def rttTxeEntry (e : ReTxTimerEntry) (type : EventType) : ReTxTimerEntry :=
  if ¬e.active then { e with type := type, time := rttTimeout e.retries, active := true }
  else { e with type := type }

/-- The position after a command of the Tx engine for a session close ahead. -/
def rttPush (position id : SessionId) : SessionId :=
  if (id.toNat : ℤ) - 3 < position.toNat ∧ position ≤ id then position + 5 else position

/-- The entry that the sweep has come to. -/
def rttSweep (e : ReTxTimerEntry) (id : SessionId) (eventFull : Bool) : ReTxTimerEntry × TimOut :=
  if e.active then
    if e.time > 0 then ({ e with time := e.time - 1 }, {})
    else if ¬eventFull then
      let e := { e with time := 0, active := false }
      if e.retries < 4 then
        let e := { e with retries := e.retries + 1 }
        (e, { soEmxEvent := [{ type := e.type, sessionID := id, rtCount := e.retries }] })
      else
        ({ e with retries := 0 },
          if e.type = .syn then { soSmxSessCloseCmd := [id], soTAiNotif := [⟨id, .closed⟩] }
          else
            { soSmxSessCloseCmd := [id]
              soRAiNotif := [{ sessionID := id, tcpDatLen := 0, ip4SrcAddr := 0, tcpSrcPort := 0,
                               tcpDstPort := 0, tcpState := .closed }] })
    else (e, {})
  else (e, {})

/-- A call that serves a command of the Tx engine, or goes on with the sweep. -/
def rttTable (s : RttState) (eventFull : Bool) : RttState × TimOut :=
  match s.siTXeReTxTimerCmd with
  | txeCmd :: cmds =>
      let id := txeCmd.sessionID
      ({ s with
        siTXeReTxTimerCmd := cmds
        position := rttPush s.position id
        table := Function.update s.table id (rttTxeEntry (s.table id) txeCmd.type)
        prevPosition := id }, { access := [id] })
  | [] =>
      let id := s.position
      let r := rttSweep (s.table id) id eventFull
      ({ s with
        position := if toeMaxSessions ≤ (id + 1).toNat then 0 else id + 1
        table := Function.update s.table id r.1
        prevPosition := id }, { r.2 with access := [id] })

/-- One call of the process. A command of the Rx engine is read in one call and carried out in a
later one, after a call that was about another session. -/
def pRetransmitTimer (s : RttState) (eventFull : Bool) : RttState × TimOut :=
  if s.waitForWrite ∧ s.rxeCmd.sessionID ≠ s.prevPosition then
    let id := s.rxeCmd.sessionID
    ({ s with
      table := Function.update s.table id (rttRxeEntry (s.table id) s.rxeCmd.command)
      waitForWrite := false }, { access := [id] })
  else
    match s.waitForWrite, s.siRXeReTxTimerCmd with
    | false, cmd :: cmds =>
        ({ s with siRXeReTxTimerCmd := cmds, rxeCmd := cmd, waitForWrite := true }, {})
    | _, _ => rttTable s eventFull

/-! ### The probe timer -/

structure ProbeTimerEntry where
  time : BitVec 32 := 0
  active : Bool := false
  deriving DecidableEq

structure PbtState where
  table : SessionId → ProbeTimerEntry := fun _ => {}
  waitForWrite : Bool := false
  currSessId : SessionId := 0
  updtSessId : SessionId := 0
  prevSessId : SessionId := 0
  siTXeSetProbeTimer : List SessionId := []
  siRXeClrProbeTimer : List SessionId := []

/-- The entry that the sweep has come to. -/
def pbtSweep (e : ProbeTimerEntry) (id : SessionId) (eventFull : Bool) :
    ProbeTimerEntry × TimOut :=
  if e.active then
    if e.time = 0 ∧ ¬eventFull then
      ({ time := 0, active := false }, { soEmxEvent := [{ type := .tx, sessionID := id }] })
    else ({ e with time := e.time - 1 }, {})
  else (e, {})

/-- One call of the process. A timer that is set is left inactive: the keep-alive is disabled. -/
def pProbeTimer (s : PbtState) (eventFull : Bool) : PbtState × TimOut :=
  if s.waitForWrite then
    if s.updtSessId ≠ s.prevSessId then
      ({ s with
        table := Function.update s.table s.updtSessId { time := timeSec 10, active := false }
        waitForWrite := false
        prevSessId := s.prevSessId - 1 }, { access := [s.updtSessId] })
    else ({ s with prevSessId := s.prevSessId - 1 }, {})
  else
    match s.siTXeSetProbeTimer, s.siRXeClrProbeTimer with
    | id :: ids, _ =>
        ({ s with siTXeSetProbeTimer := ids, updtSessId := id, waitForWrite := true }, {})
    | [], id :: ids =>
        ({ s with
          siRXeClrProbeTimer := ids
          table := Function.update s.table id
            (if (s.table id).active then { time := 0, active := false } else s.table id)
          prevSessId := id }, { access := [id] })
    | [], [] =>
        let id := s.currSessId
        let r := pbtSweep (s.table id) id eventFull
        ({ s with
          currSessId := if (id + 1).toNat = toeMaxSessions then 0 else id + 1
          table := Function.update s.table id r.1
          prevSessId := id }, { r.2 with access := [id] })

/-! ### The close timer -/

structure CloseTimerEntry where
  time : BitVec 32 := 0
  active : Bool := false
  deriving DecidableEq

structure CltState where
  table : SessionId → CloseTimerEntry := fun _ => {}
  waitForWrite : Bool := false
  currSessId : SessionId := 0
  prevSessId : SessionId := 0
  sessIdToSet : SessionId := 0
  siRXeCloseTimer : List SessionId := []

/-- The entry that the sweep has come to. -/
def cltSweep (e : CloseTimerEntry) (id : SessionId) : CloseTimerEntry × TimOut :=
  if e.active then
    if e.time > 0 then ({ e with time := e.time - 1 }, {})
    else ({ time := 0, active := false }, { soSmxSessCloseCmd := [id] })
  else (e, {})

/-- One call of the process. The sweep looks for the end of the table after the access. -/
def pCloseTimer (s : CltState) : CltState × TimOut :=
  if s.waitForWrite then
    if s.sessIdToSet ≠ s.prevSessId then
      ({ s with
        table := Function.update s.table s.sessIdToSet { time := timeSec 60, active := true }
        waitForWrite := false
        prevSessId := s.prevSessId - 1 }, { access := [s.sessIdToSet] })
    else ({ s with prevSessId := s.prevSessId - 1 }, {})
  else
    match s.siRXeCloseTimer with
    | id :: ids => ({ s with siRXeCloseTimer := ids, sessIdToSet := id, waitForWrite := true }, {})
    | [] =>
        let id := s.currSessId
        let r := cltSweep (s.table id) id
        ({ s with
          prevSessId := id
          table := Function.update s.table id r.1
          currSessId := if id.toNat = toeMaxSessions then 0 else id + 1 },
          { r.2 with access := [id] })

/-! ### The timers together -/

/-- The timers; and the sessions that the session lookup has handed out so far. -/
structure TimSystem where
  rtt : RttState := {}
  pbt : PbtState := {}
  clt : CltState := {}
  allocated : SessionId → Bool := fun _ => false

/-- Who takes the next step. The commands of the engines come at any time, for any session that was
handed out. -/
inductive TimLabel where
  /-- the session lookup hands out a session, of the `TOE_MAX_SESSIONS` that there are -/
  | allocate (id : SessionId)
  | rxeReTxTimerCmd (cmd : RXeReTransTimerCmd)
  | rxeClrProbeTimer (id : SessionId)
  | rxeCloseTimer (id : SessionId)
  | txeReTxTimerCmd (cmd : TXeReTransTimerCmd)
  | txeSetProbeTimer (id : SessionId)
  /-- `pRetransmitTimer` -/
  | rtt (eventFull : Bool)
  /-- `pProbeTimer` -/
  | pbt (eventFull : Bool)
  /-- `pCloseTimer` -/
  | clt
  deriving DecidableEq

def timNext (s : TimSystem) : TimLabel → TimSystem
  | .allocate id =>
      if id.toNat < toeMaxSessions then
        { s with allocated := Function.update s.allocated id true }
      else s
  | .rxeReTxTimerCmd cmd =>
      if s.allocated cmd.sessionID then
        { s with rtt := { s.rtt with siRXeReTxTimerCmd := s.rtt.siRXeReTxTimerCmd ++ [cmd] } }
      else s
  | .rxeClrProbeTimer id =>
      if s.allocated id then
        { s with pbt := { s.pbt with siRXeClrProbeTimer := s.pbt.siRXeClrProbeTimer ++ [id] } }
      else s
  | .rxeCloseTimer id =>
      if s.allocated id then
        { s with clt := { s.clt with siRXeCloseTimer := s.clt.siRXeCloseTimer ++ [id] } }
      else s
  | .txeReTxTimerCmd cmd =>
      if s.allocated cmd.sessionID then
        { s with rtt := { s.rtt with siTXeReTxTimerCmd := s.rtt.siTXeReTxTimerCmd ++ [cmd] } }
      else s
  | .txeSetProbeTimer id =>
      if s.allocated id then
        { s with pbt := { s.pbt with siTXeSetProbeTimer := s.pbt.siTXeSetProbeTimer ++ [id] } }
      else s
  | .rtt eventFull => { s with rtt := (pRetransmitTimer s.rtt eventFull).1 }
  | .pbt eventFull => { s with pbt := (pProbeTimer s.pbt eventFull).1 }
  | .clt => { s with clt := (pCloseTimer s.clt).1 }

/-- A call accesses the table at its positions only; and a session that it announces has an active
timer and was handed out. -/
structure CallOk (active allocated : SessionId → Bool) (o : TimOut) : Prop where
  access : ∀ id ∈ o.access, id.toNat < toeMaxSessions
  announced : ∀ id ∈ o.announced, active id ∧ allocated id

/-- The call of a step is fine. -/
def TimersOk (s : TimSystem) : TimLabel → Prop
  | .rtt eventFull =>
      CallOk (fun id => (s.rtt.table id).active) s.allocated (pRetransmitTimer s.rtt eventFull).2
  | .pbt eventFull =>
      CallOk (fun id => (s.pbt.table id).active) s.allocated (pProbeTimer s.pbt eventFull).2
  | .clt => CallOk (fun id => (s.clt.table id).active) s.allocated (pCloseTimer s.clt).2
  | _ => True

/-! ### Where a position leaves the table -/

/-- A command of the Tx engine pushes the sweep of the retransmit timer out of the table. -/
def RttOverruns (s : RttState) : Prop :=
  (s.waitForWrite ∧ s.rxeCmd.sessionID = s.prevPosition ∨
      ¬s.waitForWrite ∧ s.siRXeReTxTimerCmd = []) ∧
    s.siTXeReTxTimerCmd.head?.any fun txeCmd =>
      toeMaxSessions ≤ (rttPush s.position txeCmd.sessionID).toNat

/-- The sweep of the close timer has come behind the last entry. -/
def CltOverruns (s : CltState) : Prop :=
  ¬s.waitForWrite ∧ s.siRXeCloseTimer = [] ∧ s.currSessId.toNat = toeMaxSessions

/-- A position leaves its table in the step. -/
def TimOverruns (s : TimSystem) : TimLabel → Prop
  | .rtt _ => RttOverruns s.rtt
  | .clt => CltOverruns s.clt
  | _ => False

/-! ### What the timers keep -/

section Calls

variable {allocated : SessionId → Bool}

/-- Only timers of sessions that were handed out are active, or will be. -/
structure RttInv (allocated : SessionId → Bool) (s : RttState) : Prop where
  active : ∀ id, (s.table id).active → allocated id
  rxeCmd : s.waitForWrite → allocated s.rxeCmd.sessionID
  siRXeReTxTimerCmd : ∀ cmd ∈ s.siRXeReTxTimerCmd, allocated cmd.sessionID
  siTXeReTxTimerCmd : ∀ cmd ∈ s.siTXeReTxTimerCmd, allocated cmd.sessionID
  position : s.position.toNat < toeMaxSessions

structure PbtInv (allocated : SessionId → Bool) (s : PbtState) : Prop where
  active : ∀ id, (s.table id).active → allocated id
  updtSessId : s.waitForWrite → allocated s.updtSessId
  siTXeSetProbeTimer : ∀ id ∈ s.siTXeSetProbeTimer, allocated id
  siRXeClrProbeTimer : ∀ id ∈ s.siRXeClrProbeTimer, allocated id
  currSessId : s.currSessId.toNat < toeMaxSessions

structure CltInv (allocated : SessionId → Bool) (s : CltState) : Prop where
  active : ∀ id, (s.table id).active → allocated id
  sessIdToSet : s.waitForWrite → allocated s.sessIdToSet
  siRXeCloseTimer : ∀ id ∈ s.siRXeCloseTimer, allocated id
  currSessId : s.currSessId.toNat ≤ toeMaxSessions

/-- A call that announces nothing. -/
lemma CallOk.of_access {active : SessionId → Bool} {access : List SessionId}
    (h : ∀ id ∈ access, id.toNat < toeMaxSessions) :
    CallOk active allocated { access := access } :=
  ⟨h, by simp [TimOut.announced]⟩

/-- A table stays fine when one entry changes. -/
lemma active_update {α : Type} {table : SessionId → α} {active : α → Bool} {id : SessionId} {e : α}
    (h : ∀ id, active (table id) → allocated id) (he : active e → allocated id) (id' : SessionId) :
    active (Function.update table id e id') → allocated id' := by
  by_cases hid : id' = id
  · subst hid
    rw [Function.update_self]
    exact he
  · rw [Function.update_of_ne hid]
    exact h id'

/-- A sweep that does not run behind the end of the table. -/
lemma toNat_succ_lt (id : SessionId) :
    (if toeMaxSessions ≤ (id + 1).toNat then 0 else id + 1).toNat < toeMaxSessions := by
  split
  · decide
  · omega

lemma rttSweep_spec (e : ReTxTimerEntry) (id : SessionId) (eventFull : Bool) :
    ((rttSweep e id eventFull).1.active → e.active) ∧
      ∀ id' ∈ (rttSweep e id eventFull).2.announced, id' = id ∧ e.active := by
  rw [rttSweep]
  split
  · next hactive =>
      refine ⟨fun _ => hactive, fun id' hid => ⟨?_, hactive⟩⟩
      revert hid
      simp only [TimOut.announced]
      split_ifs <;> simp
  · exact ⟨fun h => h, by simp [TimOut.announced]⟩

/-- The sweep of the retransmit timer, or a command of the Tx engine. -/
lemma RttInv.table_call {s : RttState} (h : RttInv allocated s)
    (hknown : ∀ id, allocated id → id.toNat < toeMaxSessions) (eventFull : Bool)
    (hpush : s.siTXeReTxTimerCmd.head?.all fun txeCmd =>
      (rttPush s.position txeCmd.sessionID).toNat < toeMaxSessions) :
    RttInv allocated (rttTable s eventFull).1 ∧
      CallOk (fun id => (s.table id).active) allocated (rttTable s eventFull).2 := by
  rw [rttTable]
  split
  · next txeCmd cmds hq =>
      have hid := h.siTXeReTxTimerCmd txeCmd (by simp [hq])
      have hcmds : ∀ cmd ∈ cmds, allocated cmd.sessionID := fun cmd hmem =>
        h.siTXeReTxTimerCmd cmd (by simp [hq, hmem])
      simp only [hq, List.head?_cons, Option.all_some, decide_eq_true_eq] at hpush
      refine ⟨⟨active_update h.active fun _ => hid, h.rxeCmd, h.siRXeReTxTimerCmd, hcmds, hpush⟩,
        .of_access ?_⟩
      simpa using hknown _ hid
  · next hq =>
      obtain ⟨hactive, hannounced⟩ := rttSweep_spec (s.table s.position) s.position eventFull
      refine ⟨⟨active_update h.active fun ha => h.active _ (hactive ha), h.rxeCmd,
        h.siRXeReTxTimerCmd, h.siTXeReTxTimerCmd, toNat_succ_lt s.position⟩, ?_, fun id' hid => ?_⟩
      · simpa using h.position
      · obtain ⟨rfl, ha⟩ := hannounced id' hid
        exact ⟨ha, h.active _ ha⟩

/-- A call of the retransmit timer. -/
lemma RttInv.call {s : RttState} (h : RttInv allocated s)
    (hknown : ∀ id, allocated id → id.toNat < toeMaxSessions) (eventFull : Bool)
    (hpush : ¬RttOverruns s) :
    RttInv allocated (pRetransmitTimer s eventFull).1 ∧
      CallOk (fun id => (s.table id).active) allocated (pRetransmitTimer s eventFull).2 := by
  have htable (hturn : s.waitForWrite ∧ s.rxeCmd.sessionID = s.prevPosition ∨
      ¬s.waitForWrite ∧ s.siRXeReTxTimerCmd = []) :
      RttInv allocated (rttTable s eventFull).1 ∧
        CallOk (fun id => (s.table id).active) allocated (rttTable s eventFull).2 := by
    refine h.table_call hknown eventFull ?_
    have hhead := fun hany => hpush ⟨hturn, hany⟩
    cases hq : s.siTXeReTxTimerCmd with
    | nil => rfl
    | cons txeCmd cmds => simpa [hq] using hhead
  rw [pRetransmitTimer]
  split
  · next hwait =>
      have hid := h.rxeCmd hwait.1
      refine ⟨⟨active_update h.active fun _ => hid, (fun hw => by cases hw), h.siRXeReTxTimerCmd,
        h.siTXeReTxTimerCmd, h.position⟩, .of_access ?_⟩
      simpa using hknown _ hid
  · next hwait =>
      split
      · next cmd cmds hw hq =>
          have hcmds : ∀ cmd ∈ cmds, allocated cmd.sessionID := fun cmd hmem =>
            h.siRXeReTxTimerCmd cmd (by simp [hq, hmem])
          exact ⟨⟨h.active, fun _ => h.siRXeReTxTimerCmd cmd (by simp [hq]), hcmds,
            h.siTXeReTxTimerCmd, h.position⟩, .of_access (by simp)⟩
      · next hno =>
          refine htable ?_
          cases hw : s.waitForWrite with
          | true =>
              left
              refine ⟨rfl, ?_⟩
              by_contra hne
              exact hwait ⟨hw, hne⟩
          | false =>
              right
              refine ⟨by simp, ?_⟩
              cases hq : s.siRXeReTxTimerCmd with
              | nil => rfl
              | cons cmd cmds => exact absurd hq (hno cmd cmds hw)

lemma pbtSweep_spec (e : ProbeTimerEntry) (id : SessionId) (eventFull : Bool) :
    ((pbtSweep e id eventFull).1.active → e.active) ∧
      ∀ id' ∈ (pbtSweep e id eventFull).2.announced, id' = id ∧ e.active := by
  rw [pbtSweep]
  split
  · next hactive =>
      refine ⟨fun _ => hactive, fun id' hid => ⟨?_, hactive⟩⟩
      revert hid
      simp only [TimOut.announced]
      split_ifs <;> simp
  · exact ⟨fun h => h, by simp [TimOut.announced]⟩

/-- A call of the probe timer. -/
lemma PbtInv.call {s : PbtState} (h : PbtInv allocated s)
    (hknown : ∀ id, allocated id → id.toNat < toeMaxSessions) (eventFull : Bool) :
    PbtInv allocated (pProbeTimer s eventFull).1 ∧
      CallOk (fun id => (s.table id).active) allocated (pProbeTimer s eventFull).2 := by
  rw [pProbeTimer]
  split
  · next hw =>
      have hid := h.updtSessId hw
      split
      · refine ⟨⟨active_update h.active fun _ => hid, (fun hw => by cases hw),
          h.siTXeSetProbeTimer, h.siRXeClrProbeTimer, h.currSessId⟩, .of_access ?_⟩
        simpa using hknown _ hid
      · exact ⟨⟨h.active, h.updtSessId, h.siTXeSetProbeTimer, h.siRXeClrProbeTimer, h.currSessId⟩,
          .of_access (by simp)⟩
  · next hw =>
      split
      · next id ids hq =>
          have hids : ∀ id ∈ ids, allocated id := fun id hmem =>
            h.siTXeSetProbeTimer id (by simp [hq, hmem])
          exact ⟨⟨h.active, fun _ => h.siTXeSetProbeTimer id (by simp [hq]), hids,
            h.siRXeClrProbeTimer, h.currSessId⟩, .of_access (by simp)⟩
      · next id ids hset hq =>
          have hid := h.siRXeClrProbeTimer id (by simp [hq])
          have hids : ∀ id ∈ ids, allocated id := fun id hmem =>
            h.siRXeClrProbeTimer id (by simp [hq, hmem])
          refine ⟨⟨active_update h.active fun _ => hid, h.updtSessId, h.siTXeSetProbeTimer, hids,
            h.currSessId⟩, .of_access ?_⟩
          simpa using hknown id hid
      · obtain ⟨hactive, hannounced⟩ := pbtSweep_spec (s.table s.currSessId) s.currSessId eventFull
        have hnext : (if (s.currSessId + 1).toNat = toeMaxSessions then 0
            else s.currSessId + 1).toNat < toeMaxSessions := by
          have hcurr := h.currSessId
          split
          · decide
          · simp only [toeMaxSessions] at *
            bv_omega
        refine ⟨⟨active_update h.active fun ha => h.active _ (hactive ha), h.updtSessId,
          h.siTXeSetProbeTimer, h.siRXeClrProbeTimer, hnext⟩, ?_, fun id' hid => ?_⟩
        · simpa using h.currSessId
        · obtain ⟨rfl, ha⟩ := hannounced id' hid
          exact ⟨ha, h.active _ ha⟩

lemma cltSweep_spec (e : CloseTimerEntry) (id : SessionId) :
    ((cltSweep e id).1.active → e.active) ∧
      ∀ id' ∈ (cltSweep e id).2.announced, id' = id ∧ e.active := by
  rw [cltSweep]
  split
  · next hactive =>
      refine ⟨fun _ => hactive, fun id' hid => ⟨?_, hactive⟩⟩
      revert hid
      simp only [TimOut.announced]
      split_ifs <;> simp
  · exact ⟨fun h => h, by simp [TimOut.announced]⟩

/-- A call of the close timer. -/
lemma CltInv.call {s : CltState} (h : CltInv allocated s)
    (hknown : ∀ id, allocated id → id.toNat < toeMaxSessions) (hsweep : ¬CltOverruns s) :
    CltInv allocated (pCloseTimer s).1 ∧
      CallOk (fun id => (s.table id).active) allocated (pCloseTimer s).2 := by
  rw [pCloseTimer]
  split
  · next hw =>
      have hid := h.sessIdToSet hw
      split
      · refine ⟨⟨active_update h.active fun _ => hid, (fun hw => by cases hw), h.siRXeCloseTimer,
          h.currSessId⟩, .of_access ?_⟩
        simpa using hknown _ hid
      · exact ⟨⟨h.active, h.sessIdToSet, h.siRXeCloseTimer, h.currSessId⟩, .of_access (by simp)⟩
  · next hw =>
      split
      · next id ids hq =>
          have hids : ∀ id ∈ ids, allocated id := fun id hmem =>
            h.siRXeCloseTimer id (by simp [hq, hmem])
          exact ⟨⟨h.active, fun _ => h.siRXeCloseTimer id (by simp [hq]), hids, h.currSessId⟩,
            .of_access (by simp)⟩
      · next hq =>
          obtain ⟨hactive, hannounced⟩ := cltSweep_spec (s.table s.currSessId) s.currSessId
          have hcurr : s.currSessId.toNat < toeMaxSessions :=
            lt_of_le_of_ne h.currSessId fun heq => hsweep ⟨hw, hq, heq⟩
          have hnext : (if s.currSessId.toNat = toeMaxSessions then 0
              else s.currSessId + 1).toNat ≤ toeMaxSessions := by
            rw [if_neg (ne_of_lt hcurr)]
            simp only [toeMaxSessions] at *
            bv_omega
          refine ⟨⟨active_update h.active fun ha => h.active _ (hactive ha), h.sessIdToSet,
            h.siRXeCloseTimer, hnext⟩, ?_, fun id' hid => ?_⟩
          · simpa using hcurr
          · obtain ⟨rfl, ha⟩ := hannounced id' hid
            exact ⟨ha, h.active _ ha⟩

end Calls

/-! ### Runs -/

/-- What the three timers keep, as long as no position leaves a table. -/
structure TimInv (s : TimSystem) : Prop where
  known : ∀ id, s.allocated id → id.toNat < toeMaxSessions
  rtt : RttInv s.allocated s.rtt
  pbt : PbtInv s.allocated s.pbt
  clt : CltInv s.allocated s.clt

lemma timInv_reset : TimInv {} where
  known := fun id h => by cases h
  rtt := ⟨(fun id h => by cases h), (fun h => by cases h), by simp, by simp, by decide⟩
  pbt := ⟨(fun id h => by cases h), (fun h => by cases h), by simp, by simp, by decide⟩
  clt := ⟨(fun id h => by cases h), (fun h => by cases h), by simp, by decide⟩

section Steps

variable {s : TimSystem}

/-- A session that is handed out. -/
lemma TimInv.allocate (h : TimInv s) (id : SessionId) : TimInv (timNext s (.allocate id)) := by
  simp only [timNext]
  split
  · next hid =>
      have hmono (id' : SessionId) (hid : s.allocated id') :
          Function.update s.allocated id true id' := by
        by_cases heq : id' = id
        · rw [heq, Function.update_self]
        · rwa [Function.update_of_ne heq]
      have hknown (id' : SessionId) (hid' : Function.update s.allocated id true id') :
          id'.toNat < toeMaxSessions := by
        by_cases heq : id' = id
        · rwa [heq]
        · rw [Function.update_of_ne heq] at hid'
          exact h.known id' hid'
      refine ⟨hknown, ?_, ?_, ?_⟩
      · exact ⟨fun id' ha => hmono _ (h.rtt.active id' ha), fun hw => hmono _ (h.rtt.rxeCmd hw),
          fun cmd hc => hmono _ (h.rtt.siRXeReTxTimerCmd cmd hc),
          fun cmd hc => hmono _ (h.rtt.siTXeReTxTimerCmd cmd hc), h.rtt.position⟩
      · exact ⟨fun id' ha => hmono _ (h.pbt.active id' ha), fun hw => hmono _ (h.pbt.updtSessId hw),
          fun id' hc => hmono _ (h.pbt.siTXeSetProbeTimer id' hc),
          fun id' hc => hmono _ (h.pbt.siRXeClrProbeTimer id' hc), h.pbt.currSessId⟩
      · exact ⟨fun id' ha => hmono _ (h.clt.active id' ha),
          fun hw => hmono _ (h.clt.sessIdToSet hw),
          fun id' hc => hmono _ (h.clt.siRXeCloseTimer id' hc), h.clt.currSessId⟩
  · exact h

/-- A stream of commands about sessions that were handed out, with one more. -/
lemma allocated_append {α : Type} {allocated : α → Bool} {cs : List α} {c : α}
    (h : ∀ c ∈ cs, allocated c) (hc : allocated c) : ∀ c' ∈ cs ++ [c], allocated c' := by
  intro c' hmem
  obtain hmem | hmem := List.mem_append.mp hmem
  · exact h c' hmem
  · rw [List.mem_singleton.mp hmem]
    exact hc

/-- **Every step** in which no position leaves a table keeps the invariant, and is fine. -/
theorem TimInv.next (h : TimInv s) (l : TimLabel) (hin : ¬TimOverruns s l) :
    TimInv (timNext s l) ∧ TimersOk s l := by
  obtain ⟨hknown, hrtt, hpbt, hclt⟩ := h
  cases l with
  | allocate id => exact ⟨TimInv.allocate ⟨hknown, hrtt, hpbt, hclt⟩ id, trivial⟩
  | rxeReTxTimerCmd cmd =>
      refine ⟨?_, trivial⟩
      simp only [timNext]
      split
      · next hid =>
          exact ⟨hknown, ⟨hrtt.1, hrtt.2, allocated_append hrtt.3 hid, hrtt.4, hrtt.5⟩, hpbt, hclt⟩
      · exact ⟨hknown, hrtt, hpbt, hclt⟩
  | txeReTxTimerCmd cmd =>
      refine ⟨?_, trivial⟩
      simp only [timNext]
      split
      · next hid =>
          exact ⟨hknown, ⟨hrtt.1, hrtt.2, hrtt.3, allocated_append hrtt.4 hid, hrtt.5⟩, hpbt, hclt⟩
      · exact ⟨hknown, hrtt, hpbt, hclt⟩
  | txeSetProbeTimer id =>
      refine ⟨?_, trivial⟩
      simp only [timNext]
      split
      · next hid =>
          exact ⟨hknown, hrtt, ⟨hpbt.1, hpbt.2, allocated_append hpbt.3 hid, hpbt.4, hpbt.5⟩, hclt⟩
      · exact ⟨hknown, hrtt, hpbt, hclt⟩
  | rxeClrProbeTimer id =>
      refine ⟨?_, trivial⟩
      simp only [timNext]
      split
      · next hid =>
          exact ⟨hknown, hrtt, ⟨hpbt.1, hpbt.2, hpbt.3, allocated_append hpbt.4 hid, hpbt.5⟩, hclt⟩
      · exact ⟨hknown, hrtt, hpbt, hclt⟩
  | rxeCloseTimer id =>
      refine ⟨?_, trivial⟩
      simp only [timNext]
      split
      · next hid =>
          exact ⟨hknown, hrtt, hpbt, ⟨hclt.1, hclt.2, allocated_append hclt.3 hid, hclt.4⟩⟩
      · exact ⟨hknown, hrtt, hpbt, hclt⟩
  | rtt eventFull =>
      obtain ⟨hinv, hok⟩ := hrtt.call hknown eventFull hin
      exact ⟨⟨hknown, hinv, hpbt, hclt⟩, hok⟩
  | pbt eventFull =>
      obtain ⟨hinv, hok⟩ := hpbt.call hknown eventFull
      exact ⟨⟨hknown, hrtt, hinv, hclt⟩, hok⟩
  | clt =>
      obtain ⟨hinv, hok⟩ := hclt.call hknown hin
      exact ⟨⟨hknown, hrtt, hpbt, hinv⟩, hok⟩

end Steps

/-- **The timers are consistent** along every run from the reset in which no position leaves its
table: every access is inside the table, and a session that is announced has an active timer and was
handed out. -/
theorem timers_consistent {ls : List TimLabel}
    (h : Clocked.Along timNext (fun s l => ¬TimOverruns s l) {} ls) :
    Clocked.Along timNext TimersOk {} ls := by
  have hstep (s : TimSystem) (l : TimLabel) (hinv : TimInv s) (hin : ¬TimOverruns s l) :
      TimersOk s l ∧ TimInv (timNext s l) := (hinv.next l hin).symm
  exact Clocked.along_of_inv hstep timInv_reset h

instance (s : RttState) : Decidable (RttOverruns s) := inferInstanceAs (Decidable (_ ∧ _))

instance (s : CltState) : Decidable (CltOverruns s) := inferInstanceAs (Decidable (_ ∧ _))

instance (s : TimSystem) : (l : TimLabel) → Decidable (TimOverruns s l)
  | .rtt _ => inferInstanceAs (Decidable (RttOverruns s.rtt))
  | .clt => inferInstanceAs (Decidable (CltOverruns s.clt))
  | .allocate _ | .rxeReTxTimerCmd _ | .rxeClrProbeTimer _ | .rxeCloseTimer _
  | .txeReTxTimerCmd _ | .txeSetProbeTimer _ | .pbt _ => inferInstanceAs (Decidable False)

/-- Session 0 is opened, and all three timers serve it. -/
def timSession : List TimLabel :=
  [.allocate 0, .txeReTxTimerCmd ⟨0, .syn⟩, .rtt false, .rtt false,
    .rxeReTxTimerCmd ⟨0, .stopTimer⟩, .rtt false, .rtt false, .rtt false,
    .txeSetProbeTimer 0, .pbt false, .pbt false, .rxeCloseTimer 0, .clt, .clt, .clt, .clt]

theorem timers_consistent_session : Clocked.Along timNext TimersOk {} timSession :=
  timers_consistent (by decide +kernel)

/-- The sweep of the retransmit timer is at the position 3 of 8 when a segment of session 3 is sent;
and the close timer goes through its table once. Either timer accesses the position 8 next. -/
theorem timers_leave_table :
    ¬Clocked.Along timNext TimersOk {}
      ([.allocate 3, .rtt false, .rtt false, .rtt false, .txeReTxTimerCmd ⟨3, .rt⟩, .rtt false] ++
        [.rtt false]) ∧
    ¬Clocked.Along timNext TimersOk {} (List.replicate 8 .clt ++ [.clt]) := by
  constructor
  · intro h
    have hlast := ((Clocked.along_append timNext).mp h).2.1.access 8 (by decide +kernel)
    exact absurd hlast (by decide)
  · intro h
    have hlast := ((Clocked.along_append timNext).mp h).2.1.access 8 (by decide +kernel)
    exact absurd hlast (by decide)

end CloudFpga.Toe
