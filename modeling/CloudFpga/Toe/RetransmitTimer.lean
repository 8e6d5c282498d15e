import CloudFpga.Foundation.Transducer
import CloudFpga.Toe.Timers

/-!
The law of the retransmit timer, `pRetransmitTimer` of `timers.cpp`, over every interleaving of the
commands of the engines with the calls of the process.

* `rttTask`: what a call is about; `pRetransmitTimer_task`: what it does about it.
* `RttHistory`: what has happened to a timer since it was last told to start again.
* `RttLaw`: the law of a run.
* `RttPushes`: a command of the Tx engine pushes the sweep ahead in a call.
* `rtt_law`: the law holds of every run without such a call.
-/

namespace CloudFpga.Toe

open Foundation

/-- A session of the table. -/
abbrev TableId := { id : SessionId // id.toNat < toeMaxSessions }

/-- What happens to the process: an engine writes a command, or it is called. -/
inductive RttLabel where
  | rxe (id : TableId) (command : TimerCmd)
  | txe (id : TableId) (type : EventType)
  | call (eventFull : Bool)
  deriving DecidableEq

def rttNext (s : RttState) : RttLabel → RttState
  | .rxe id command => { s with siRXeReTxTimerCmd := s.siRXeReTxTimerCmd ++ [⟨id.1, command⟩] }
  | .txe id type => { s with siTXeReTxTimerCmd := s.siTXeReTxTimerCmd ++ [⟨id.1, type⟩] }
  | .call eventFull => (pRetransmitTimer s eventFull).1

/-- What a step writes. -/
def rttOut (s : RttState) : RttLabel → TimOut
  | .call eventFull => (pRetransmitTimer s eventFull).2
  | _ => {}

/-- What a call of the process is about. -/
inductive RttTask where
  /-- it carries out the command of the Rx engine that waits -/
  | rxe (cmd : RXeReTransTimerCmd)
  /-- it reads a command of the Rx engine -/
  | read (cmd : RXeReTransTimerCmd)
  /-- it carries out a command of the Tx engine -/
  | txe (cmd : TXeReTransTimerCmd)
  /-- it visits a session -/
  | sweep (id : SessionId)
  deriving DecidableEq

def rttTask (s : RttState) : RttTask :=
  if s.waitForWrite ∧ s.rxeCmd.sessionID ≠ s.prevPosition then .rxe s.rxeCmd
  else
    match s.waitForWrite, s.siRXeReTxTimerCmd, s.siTXeReTxTimerCmd with
    | false, cmd :: _, _ => .read cmd
    | _, _, cmd :: _ => .txe cmd
    | _, _, [] => .sweep s.position

/-- The session whose entry a task is about. -/
def RttTask.session : RttTask → Option SessionId
  | .rxe cmd => some cmd.sessionID
  | .read _ => none
  | .txe cmd => some cmd.sessionID
  | .sweep id => some id

/-- A step carries out a command about the session. -/
def RttServes (id : SessionId) (s : RttState) : RttLabel → Prop
  | .call _ =>
      match rttTask s with
      | .rxe cmd => cmd.sessionID = id
      | .txe cmd => cmd.sessionID = id
      | _ => False
  | _ => False

/-! ### What is seen of a run -/

/-- The session that a step visits. -/
def rttVisit (s : RttState) : RttLabel → List SessionId
  | .call _ =>
      match rttTask s with
      | .sweep id => [id]
      | _ => []
  | _ => []

/-- The sessions that the calls of a run visit. -/
def rttVisited : RttState → List RttLabel → List SessionId := emits rttNext rttVisit

/-- The visit of a session in a step; whether the event stream is full in it. -/
def rttVisitOf (id : SessionId) (s : RttState) : RttLabel → List Bool
  | .call eventFull => if rttTask s = .sweep id then [eventFull] else []
  | _ => []

/-- The visits of a session in a run. -/
def rttVisits (id : SessionId) : RttState → List RttLabel → List Bool :=
  emits rttNext (rttVisitOf id)

/-- The sessions whose timer expires in a call. -/
def TimOut.expired (o : TimOut) : List SessionId :=
  o.soEmxEvent.map (·.sessionID) ++ o.soSmxSessCloseCmd

/-- The sessions whose timers expire in a run. -/
def rttExpired : RttState → List RttLabel → List SessionId :=
  emits rttNext fun s l => (rttOut s l).expired

/-- The command of the Rx engine that arrives in a step. -/
def rxeArrival : RttLabel → List RXeReTransTimerCmd
  | .rxe id command => [⟨id.1, command⟩]
  | _ => []

/-- The command of the Tx engine that arrives in a step. -/
def txeArrival : RttLabel → List TXeReTransTimerCmd
  | .txe id type => [⟨id.1, type⟩]
  | _ => []

/-- The command of the Rx engine that a step carries out. -/
def rxeServed (s : RttState) : RttLabel → List RXeReTransTimerCmd
  | .call _ =>
      match rttTask s with
      | .rxe cmd => [cmd]
      | _ => []
  | _ => []

/-- The commands of the Rx engine that are carried out in a run. -/
def rxeDone : RttState → List RttLabel → List RXeReTransTimerCmd := emits rttNext rxeServed

/-- The command of the Tx engine that a step carries out. -/
def txeServed (s : RttState) : RttLabel → List TXeReTransTimerCmd
  | .call _ =>
      match rttTask s with
      | .txe cmd => [cmd]
      | _ => []
  | _ => []

/-- The commands of the Tx engine that are carried out in a run. -/
def txeDone : RttState → List RttLabel → List TXeReTransTimerCmd := emits rttNext txeServed

/-- The history of a timer: the type of the last set command; how often it has expired since the
last command of the Rx engine or release; and the time values that it was loaded with since then. -/
structure RttHistory where
  type : Option EventType := none
  expiries : ℕ := 0
  times : List (BitVec 32) := []
  deriving DecidableEq

/-- The histories after a step. A command that finds the timer inactive, or leaves it so, loads no
value that it expires with. -/
def rttRecord (s : RttState) (h : SessionId → RttHistory) (l : RttLabel) :
    SessionId → RttHistory :=
  match l with
  | .call _ =>
      match rttTask s with
      | .rxe cmd =>
          let id := cmd.sessionID
          let e := (rttNext s l).table id
          Function.update h id
            { h id with expiries := 0, times := if e.active then [e.time] else [] }
      | .read _ => h
      | .txe cmd =>
          let id := cmd.sessionID
          let e := (rttNext s l).table id
          Function.update h id
            { h id with
              type := some cmd.type
              times := if (s.table id).active then (h id).times else (h id).times ++ [e.time] }
      | .sweep id =>
          Function.update h id
            (if id ∈ (rttOut s l).soSmxSessCloseCmd then { h id with expiries := 0, times := [] }
            else if id ∈ (rttOut s l).expired then { h id with expiries := (h id).expiries + 1 }
            else h id)
  | _ => h

/-- The process and the histories after a step. -/
def rttHistNext (p : RttState × (SessionId → RttHistory)) (l : RttLabel) :
    RttState × (SessionId → RttHistory) :=
  (rttNext p.1 l, rttRecord p.1 p.2 l)

/-- The histories after a run from the reset. -/
def rttHistory (ls : List RttLabel) : SessionId → RttHistory :=
  (Clocked.run rttHistNext ({}, fun _ => {}) ls).2

/-! ### The law -/

/-- The session is visited only once in a round: between two visits of it with none in between,
every other session is visited once. -/
def GoesRound (visited : List SessionId) : Prop :=
  ∀ before id between after, visited = before ++ id :: (between ++ id :: after) → id ∉ between →
    ∀ id', id'.toNat < toeMaxSessions → id' ≠ id → between.count id' = 1

/-- What a call writes: nothing; or a retransmission event of the type of the last set command; or
the release of a session with one notification. -/
inductive ExpiryOut (h : SessionId → RttHistory) : TimOut → Prop
  | none (access) : ExpiryOut h { access := access }
  | event (access id type rtCount) (htype : (h id).type = some type) :
      ExpiryOut h
        { access := access
          soEmxEvent := [{ type := type, sessionID := id, rtCount := rtCount }] }
  | failed (access id) :
      ExpiryOut h
        { access := access, soSmxSessCloseCmd := [id], soTAiNotif := [⟨id, .closed⟩] }
  | aborted (access id) :
      ExpiryOut h
        { access := access, soSmxSessCloseCmd := [id]
          soRAiNotif := [{ sessionID := id, tcpDatLen := 0, ip4SrcAddr := 0, tcpSrcPort := 0,
                           tcpDstPort := 0, tcpState := .closed }] }

/-- What a command does to the entry of its session. -/
def CommandDone (e e' : ReTxTimerEntry) : RttTask → Prop
  | .rxe ⟨_, .stopTimer⟩ => e'.active = false ∧ e'.retries = 0
  | .rxe ⟨_, .loadTimer⟩ => e'.time = timeSec 1 ∧ e'.retries = 0 ∧ e'.active = e.active
  | .txe cmd => e'.type = cmd.type ∧ e'.active = true ∧ (e.active → e'.time = e.time)
  | _ => True

/-- The law of the retransmit timer for a run from the reset. -/
structure RttLaw (ls : List RttLabel) : Prop where
  /-- the sweep leaves no session out -/
  goesRound : GoesRound (rttVisited {} ls)
  /-- a timer that gets no command expires once, in the first visit that finds room in the event
  stream after as many visits as its time value says -/
  expires : ∀ pre post, ls = pre ++ post → ∀ id,
    ((Clocked.run rttNext {} pre).table id).active →
    Clocked.Along rttNext (fun s l => ¬RttServes id s l) (Clocked.run rttNext {} pre) post →
    (rttExpired (Clocked.run rttNext {} pre) post).count id =
      if false ∈ (rttVisits id (Clocked.run rttNext {} pre) post).drop
        ((Clocked.run rttNext {} pre).table id).time.toNat then 1 else 0
  /-- an expiry is announced once -/
  announced : ∀ pre l post, ls = pre ++ l :: post →
    ExpiryOut (rttHistory pre) (rttOut (Clocked.run rttNext {} pre) l)
  /-- a session is released at its fifth expiry, and no time value was less than the one before -/
  released : ∀ pre l post, ls = pre ++ l :: post →
    ∀ id ∈ (rttOut (Clocked.run rttNext {} pre) l).soSmxSessCloseCmd,
      (rttHistory pre id).expiries = 4 ∧ (rttHistory pre id).times.length = 5 ∧
        (rttHistory pre id).times.Pairwise (· ≤ ·)
  /-- no command is lost or carried out twice -/
  conserved : let s := Clocked.run rttNext {} ls
    ls.flatMap rxeArrival =
        rxeDone {} ls ++ (if s.waitForWrite then [s.rxeCmd] else []) ++ s.siRXeReTxTimerCmd ∧
      ls.flatMap txeArrival = txeDone {} ls ++ s.siTXeReTxTimerCmd
  /-- the commands that wait are carried out in the next calls -/
  served : let s := Clocked.run rttNext {} ls
    ∀ fulls : List Bool,
      4 * s.siRXeReTxTimerCmd.length + 3 * s.siTXeReTxTimerCmd.length + 3 ≤ fulls.length →
      let s' := Clocked.run rttNext s (fulls.map .call)
      s'.waitForWrite = false ∧ s'.siRXeReTxTimerCmd = [] ∧ s'.siTXeReTxTimerCmd = []
  /-- a command does its work on the entry of its session, and a call touches no other entry -/
  applied : ∀ pre eventFull post, ls = pre ++ .call eventFull :: post →
    let s := Clocked.run rttNext {} pre
    let s' := rttNext s (.call eventFull)
    (∀ id, (rttTask s).session = some id → CommandDone (s.table id) (s'.table id) (rttTask s)) ∧
      ∀ id, (rttTask s).session ≠ some id → s'.table id = s.table id

/-- A task pushes the sweep: a command of the Tx engine for a session close ahead. -/
def RttTask.Pushes (position : SessionId) : RttTask → Prop
  | .txe cmd => (cmd.sessionID.toNat : ℤ) - 3 < position.toNat ∧ position ≤ cmd.sessionID
  | _ => False

/-- A call pushes the sweep. -/
def RttPushes (s : RttState) : RttLabel → Prop
  | .call _ => (rttTask s).Pushes s.position
  | _ => False

/-! ### What a call does about its task -/

/-- The process serves neither a command that waits nor the stream of the Rx engine. -/
def RttTurn (s : RttState) : Prop :=
  s.waitForWrite = true ∧ s.rxeCmd.sessionID = s.prevPosition ∨
    s.waitForWrite = false ∧ s.siRXeReTxTimerCmd = []

/-- The task of a call, and what the call does. -/
inductive RttCall (s : RttState) (eventFull : Bool) : RttTask → RttState × TimOut → Prop
  | rxe (hw : s.waitForWrite = true) (hne : s.rxeCmd.sessionID ≠ s.prevPosition) :
      RttCall s eventFull (.rxe s.rxeCmd)
        ({ s with
          table := Function.update s.table s.rxeCmd.sessionID
            (rttRxeEntry (s.table s.rxeCmd.sessionID) s.rxeCmd.command)
          waitForWrite := false }, { access := [s.rxeCmd.sessionID] })
  | read (cmd cmds) (hw : s.waitForWrite = false) (hq : s.siRXeReTxTimerCmd = cmd :: cmds) :
      RttCall s eventFull (.read cmd)
        ({ s with siRXeReTxTimerCmd := cmds, rxeCmd := cmd, waitForWrite := true }, {})
  | txe (cmd cmds) (hturn : RttTurn s) (hq : s.siTXeReTxTimerCmd = cmd :: cmds) :
      RttCall s eventFull (.txe cmd)
        ({ s with
          siTXeReTxTimerCmd := cmds
          position := rttPush s.position cmd.sessionID
          table := Function.update s.table cmd.sessionID
            (rttTxeEntry (s.table cmd.sessionID) cmd.type)
          prevPosition := cmd.sessionID }, { access := [cmd.sessionID] })
  | sweep (hturn : RttTurn s) (hq : s.siTXeReTxTimerCmd = []) :
      RttCall s eventFull (.sweep s.position)
        ({ s with
          position := if toeMaxSessions ≤ (s.position + 1).toNat then 0 else s.position + 1
          table := Function.update s.table s.position
            (rttSweep (s.table s.position) s.position eventFull).1
          prevPosition := s.position },
          { (rttSweep (s.table s.position) s.position eventFull).2 with access := [s.position] })

/-- A call that serves a command of the Tx engine, or goes on with the sweep. -/
lemma rttCall_table {s : RttState} (hturn : RttTurn s) (eventFull : Bool) :
    RttCall s eventFull
      (match s.siTXeReTxTimerCmd with
      | cmd :: _ => .txe cmd
      | [] => .sweep s.position) (rttTable s eventFull) := by
  rw [rttTable]
  cases hq : s.siTXeReTxTimerCmd with
  | nil => simpa only [hq] using @RttCall.sweep s eventFull hturn hq
  | cons cmd cmds => exact .txe cmd cmds hturn hq

/-- **Every call** does what its task says. -/
theorem rttCall (s : RttState) (eventFull : Bool) :
    RttCall s eventFull (rttTask s) (pRetransmitTimer s eventFull) := by
  rw [rttTask, pRetransmitTimer]
  by_cases hw : s.waitForWrite
  · by_cases hne : s.rxeCmd.sessionID = s.prevPosition
    · have htable := rttCall_table (.inl ⟨hw, hne⟩) eventFull
      cases hq : s.siTXeReTxTimerCmd <;> simpa [hw, hne, hq] using htable
    · rw [if_pos ⟨hw, hne⟩, if_pos ⟨hw, hne⟩]
      exact .rxe hw hne
  · rw [if_neg (fun h => hw h.1), if_neg (fun h => hw h.1)]
    simp only [Bool.not_eq_true] at hw
    cases hr : s.siRXeReTxTimerCmd with
    | nil =>
        have htable := rttCall_table (.inr ⟨hw, hr⟩) eventFull
        cases hq : s.siTXeReTxTimerCmd <;> simpa [hw, hr, hq] using htable
    | cons cmd cmds =>
        simp only [hw]
        exact .read cmd cmds hw hr

/-! ### The sweep -/

/-- A session of the table, counted round. -/
def roundId (k : ℕ) : SessionId := BitVec.ofNat 16 (k % toeMaxSessions)

lemma roundId_inj {k l : ℕ} : roundId k = roundId l ↔ k % toeMaxSessions = l % toeMaxSessions := by
  simp only [roundId, toeMaxSessions]
  constructor
  · intro h
    have hnat := congrArg BitVec.toNat h
    simp only [BitVec.toNat_ofNat] at hnat
    omega
  · intro h
    rw [h]

/-- The position after the session `k` of the round. -/
lemma roundId_succ (k : ℕ) :
    (if toeMaxSessions ≤ (roundId k + 1).toNat then 0 else roundId k + 1) = roundId (k + 1) := by
  have hsucc : (roundId k + 1).toNat = k % toeMaxSessions + 1 := by
    rw [roundId, BitVec.toNat_add, BitVec.toNat_ofNat, show (1 : BitVec 16).toNat = 1 from rfl]
    simp only [toeMaxSessions]
    omega
  apply BitVec.eq_of_toNat_eq
  by_cases hend : toeMaxSessions ≤ (roundId k + 1).toNat
  · rw [if_pos hend, roundId, BitVec.toNat_ofNat, show (0 : SessionId).toNat = 0 from rfl]
    simp only [hsucc, toeMaxSessions] at *
    omega
  · rw [if_neg hend, hsucc, roundId, BitVec.toNat_ofNat]
    simp only [hsucc, toeMaxSessions] at *
    omega

/-- A list that goes through the table in order leaves no session out. -/
lemma goesRound_range (p n : ℕ) : GoesRound ((List.range n).map fun k => roundId (p + k)) := by
  intro before id between after heq hbetween id' hid' hne
  have hget (k : ℕ) (hk : k < n) :
      (before ++ id :: (between ++ id :: after))[k]? = some (roundId (p + k)) := by
    rw [← heq]
    simp [hk]
  have hlen : n = before.length + between.length + after.length + 2 := by
    have hl := congrArg List.length heq
    simp only [List.length_map, List.length_range, List.length_append, List.length_cons] at hl
    omega
  have hmid (k : ℕ) (hk : k < between.length) :
      between[k]? = some (roundId (p + (before.length + 1 + k))) := by
    have h := hget (before.length + 1 + k) (by omega)
    rwa [List.getElem?_append_right (by omega),
      show before.length + 1 + k - before.length = k + 1 by omega, List.getElem?_cons_succ,
      List.getElem?_append_left hk] at h
  have hfirst : id = roundId (p + before.length) := by
    have h := hget before.length (by omega)
    simpa using h
  have hlast : id = roundId (p + (before.length + 1 + between.length)) := by
    have h := hget (before.length + 1 + between.length) (by omega)
    rw [List.getElem?_append_right (by omega),
      show before.length + 1 + between.length - before.length = between.length + 1 by omega,
      List.getElem?_cons_succ, List.getElem?_append_right (by omega)] at h
    simpa using h
  -- the next visit of the session is one round later, as it would be in between otherwise
  have hround : between.length = toeMaxSessions - 1 := by
    have hmod := roundId_inj.mp (hfirst.symm.trans hlast)
    by_contra hlong
    have hin : toeMaxSessions - 1 < between.length := by
      simp only [toeMaxSessions] at *
      omega
    have h := hmid _ hin
    refine hbetween (List.mem_of_getElem? (h.trans (congrArg some ?_)))
    rw [hfirst, roundId_inj]
    simp only [toeMaxSessions]
    omega
  have hall : between = (List.range (toeMaxSessions - 1)).map fun k =>
      roundId (p + (before.length + 1 + k)) := by
    refine List.ext_getElem? fun k => ?_
    by_cases hk : k < between.length
    · rw [hmid k hk]
      rw [hround] at hk
      simp [hk]
    · rw [List.getElem?_eq_none (by omega), List.getElem?_eq_none]
      simp only [List.length_map, List.length_range]
      omega
  rw [hall]
  refine List.count_eq_one_of_mem ?_ (List.mem_map.mpr ?_)
  · refine List.Nodup.map_on (fun k hk l hl hkl => ?_) List.nodup_range
    rw [roundId_inj] at hkl
    simp only [List.mem_range, toeMaxSessions] at *
    omega
  · refine ⟨(id'.toNat + toeMaxSessions - (p + before.length) % toeMaxSessions - 1) %
      toeMaxSessions, ?_, ?_⟩
    · have hother : id'.toNat ≠ (p + before.length) % toeMaxSessions := by
        intro hsame
        refine hne (hfirst ▸ ?_)
        rw [roundId, ← hsame, BitVec.ofNat_toNat, BitVec.setWidth_eq]
      simp only [List.mem_range, toeMaxSessions] at *
      omega
    · rw [roundId]
      apply BitVec.eq_of_toNat_eq
      simp only [BitVec.toNat_ofNat, toeMaxSessions] at *
      omega

/-- A run whose commands do not push the sweep visits the sessions in order. -/
lemma rttVisited_range {s : RttState} {ls : List RttLabel} {p : ℕ} (hp : s.position = roundId p)
    (h : Clocked.Along rttNext (fun s l => ¬RttPushes s l) s ls) :
    ∃ n, rttVisited s ls = (List.range n).map fun k => roundId (p + k) := by
  induction ls generalizing s p with
  | nil => exact ⟨0, rfl⟩
  | cons l ls ih =>
      obtain ⟨hl, hls⟩ := h
      have hstep : rttVisit s l = [] ∧ (rttNext s l).position = s.position ∨
          rttVisit s l = [roundId p] ∧ (rttNext s l).position = roundId (p + 1) := by
        cases l with
        | rxe id command => exact .inl ⟨rfl, rfl⟩
        | txe id type => exact .inl ⟨rfl, rfl⟩
        | call eventFull =>
            have hcall := rttCall s eventFull
            simp only [RttPushes] at hl
            rw [rttVisit, rttNext]
            generalize rttTask s = task, pRetransmitTimer s eventFull = r at *
            cases hcall with
            | rxe hw hne => exact .inl ⟨rfl, rfl⟩
            | read cmd cmds hw hq => exact .inl ⟨rfl, rfl⟩
            | txe cmd cmds hturn hq => exact .inl ⟨rfl, if_neg hl⟩
            | sweep hturn hq =>
                refine .inr ⟨congrArg (fun id => [id]) hp, ?_⟩
                rw [hp]
                exact roundId_succ p
      rw [rttVisited, emits_cons, ← rttVisited]
      rcases hstep with ⟨hvisit, hpos⟩ | ⟨hvisit, hpos⟩
      · obtain ⟨n, hn⟩ := ih (hpos.trans hp) hls
        exact ⟨n, by rw [hvisit, hn, List.nil_append]⟩
      · obtain ⟨n, hn⟩ := ih hpos hls
        refine ⟨n + 1, ?_⟩
        rw [hvisit, hn, List.range_succ_eq_map, List.map_cons, List.map_map]
        simp [Function.comp_def, Nat.add_assoc, Nat.add_comm 1]

/-! ### Expiries -/

/-- A call leaves the entries of the other sessions alone. -/
lemma rttCall_other (s : RttState) (eventFull : Bool) {id : SessionId}
    (hid : (rttTask s).session ≠ some id) :
    (pRetransmitTimer s eventFull).1.table id = s.table id ∧
      id ∉ (pRetransmitTimer s eventFull).2.expired := by
  have hcall := rttCall s eventFull
  generalize rttTask s = task, pRetransmitTimer s eventFull = r at *
  cases hcall with
  | rxe hw hne =>
      exact ⟨Function.update_of_ne (fun h => hid (congrArg some h.symm)) _ _,
        by simp [TimOut.expired]⟩
  | read cmd cmds hw hq => exact ⟨rfl, by simp [TimOut.expired]⟩
  | txe cmd cmds hturn hq =>
      exact ⟨Function.update_of_ne (fun h => hid (congrArg some h.symm)) _ _,
        by simp [TimOut.expired]⟩
  | sweep hturn hq =>
      have hne : id ≠ s.position := fun h => hid (congrArg some h.symm)
      refine ⟨Function.update_of_ne hne _ _, fun hmem => ?_⟩
      have hspec := (rttSweep_spec (s.table s.position) s.position eventFull).2 id
      refine hne (hspec ?_).1
      simp only [TimOut.expired, TimOut.announced, List.mem_append] at hmem ⊢
      tauto

/-- A visit of a session. -/
lemma rttCall_visit {s : RttState} {id : SessionId} (htask : rttTask s = .sweep id)
    (eventFull : Bool) :
    pRetransmitTimer s eventFull =
      ({ s with
        position := if toeMaxSessions ≤ (id + 1).toNat then 0 else id + 1
        table := Function.update s.table id (rttSweep (s.table id) id eventFull).1
        prevPosition := id },
        { (rttSweep (s.table id) id eventFull).2 with access := [id] }) := by
  have hcall := rttCall s eventFull
  rw [htask] at hcall
  generalize pRetransmitTimer s eventFull = r at *
  cases hcall
  rfl

/-- The sweep waits for a timer that runs. -/
lemma rttSweep_running {e : ReTxTimerEntry} (hactive : e.active = true) (htime : 0 < e.time)
    (id : SessionId) (eventFull : Bool) :
    rttSweep e id eventFull = ({ e with time := e.time - 1 }, {}) := by
  rw [rttSweep, if_pos hactive, if_pos htime]

/-- A timer that is inactive, or that has run down while the event stream is full, stays as it
is. -/
lemma rttSweep_stay {e : ReTxTimerEntry} {eventFull : Bool}
    (h : e.active = false ∨ e.time = 0 ∧ eventFull = true) (id : SessionId) :
    rttSweep e id eventFull = (e, {}) := by
  rw [rttSweep]
  rcases h with hactive | ⟨htime, hfull⟩
  · simp [hactive]
  · simp [htime, hfull]

/-- A timer that has run down expires: the session gets a retransmission event, or is released. -/
lemma rttSweep_expiry {e : ReTxTimerEntry} (hactive : e.active = true) (htime : e.time = 0)
    (id : SessionId) :
    (rttSweep e id false).1.active = false ∧ (rttSweep e id false).2.expired = [id] := by
  rw [rttSweep, if_pos hactive, if_neg (by simp [htime])]
  simp only [Bool.false_eq_true, not_false_eq_true, if_true, TimOut.expired]
  split_ifs <;> simp

/-- What a step does to a session that gets no command: nothing, or it visits it. -/
lemma rttNext_quiet {s : RttState} {l : RttLabel} {id : SessionId} (h : ¬RttServes id s l) :
    ((rttNext s l).table id = s.table id ∧ id ∉ (rttOut s l).expired ∧ ∀ eventFull,
        l = .call eventFull → rttTask s ≠ .sweep id) ∨
      ∃ eventFull, l = .call eventFull ∧ rttTask s = .sweep id := by
  cases l with
  | rxe id' command => exact .inl ⟨rfl, by simp [rttOut, TimOut.expired], by simp⟩
  | txe id' type => exact .inl ⟨rfl, by simp [rttOut, TimOut.expired], by simp⟩
  | call eventFull =>
      by_cases hid : (rttTask s).session = some id
      · refine .inr ⟨eventFull, rfl, ?_⟩
        simp only [RttServes] at h
        cases htask : rttTask s with
        | rxe cmd => simp_all [RttTask.session]
        | read cmd => simp_all [RttTask.session]
        | txe cmd => simp_all [RttTask.session]
        | sweep id' => simpa [htask, RttTask.session] using hid
      · obtain ⟨htable, hout⟩ := rttCall_other s eventFull hid
        refine .inl ⟨htable, hout, fun _ _ hsweep => hid ?_⟩
        rw [hsweep]
        rfl

section Expiry

variable {id : SessionId}

/-- A timer that is inactive does not expire without a command. -/
lemma rttExpired_inactive {s : RttState} {ls : List RttLabel}
    (hactive : (s.table id).active = false)
    (h : Clocked.Along rttNext (fun s l => ¬RttServes id s l) s ls) :
    (rttExpired s ls).count id = 0 := by
  induction ls generalizing s with
  | nil => rfl
  | cons l ls ih =>
      obtain ⟨hl, hls⟩ := h
      have hstep : ((rttNext s l).table id).active = false ∧ id ∉ (rttOut s l).expired := by
        rcases rttNext_quiet hl with ⟨htable, hout, -⟩ | ⟨eventFull, rfl, htask⟩
        · exact ⟨htable ▸ hactive, hout⟩
        · rw [rttNext, rttOut, rttCall_visit htask, rttSweep_stay (.inl hactive)]
          simpa [TimOut.expired] using hactive
      rw [rttExpired, emits_cons, ← rttExpired, List.count_append, ih hstep.1 hls,
        List.count_eq_zero_of_not_mem hstep.2]

/-- A timer that is active and gets no command expires in the first visit that finds room in the
event stream after as many visits as its time value says. -/
lemma rttExpired_active {s : RttState} {ls : List RttLabel} (hactive : (s.table id).active = true)
    (h : Clocked.Along rttNext (fun s l => ¬RttServes id s l) s ls) :
    (rttExpired s ls).count id =
      if false ∈ (rttVisits id s ls).drop (s.table id).time.toNat then 1 else 0 := by
  induction ls generalizing s with
  | nil => simp [rttExpired, rttVisits]
  | cons l ls ih =>
      obtain ⟨hl, hls⟩ := h
      rw [rttExpired, rttVisits, emits_cons, emits_cons, ← rttExpired, ← rttVisits,
        List.count_append]
      rcases rttNext_quiet hl with ⟨htable, hout, hvisit⟩ | ⟨eventFull, rfl, htask⟩
      · have hnone : rttVisitOf id s l = [] := by
          cases l with
          | rxe id' command => rfl
          | txe id' type => rfl
          | call eventFull => rw [rttVisitOf, if_neg (hvisit eventFull rfl)]
        rw [ih (by rwa [htable]) hls, List.count_eq_zero_of_not_mem hout, zero_add, hnone, htable,
          List.nil_append]
      · have hcall := rttCall_visit htask eventFull
        rw [rttVisitOf, if_pos htask, List.singleton_append]
        by_cases htime : 0 < (s.table id).time
        · -- the timer runs
          rw [rttSweep_running hactive htime] at hcall
          have hentry : (rttNext s (.call eventFull)).table id =
              { s.table id with time := (s.table id).time - 1 } := by
            rw [rttNext, hcall]
            exact Function.update_self ..
          have hdown : (s.table id).time.toNat = ((s.table id).time - 1).toNat + 1 := by
            generalize (s.table id).time = time at *
            bv_omega
          rw [ih (by rw [hentry]; exact hactive) hls, rttOut, hcall, hentry, hdown,
            List.drop_succ_cons]
          simp [TimOut.expired]
        · have hzero : (s.table id).time = 0 := by
            generalize (s.table id).time = time at *
            bv_omega
          cases eventFull with
          | true =>
              -- the event stream is full
              rw [rttSweep_stay (.inr ⟨hzero, rfl⟩), Function.update_eq_self] at hcall
              have hentry : (rttNext s (.call true)).table id = s.table id := by
                rw [rttNext, hcall]
              rw [ih (by rwa [hentry]) hls, rttOut, hcall, hentry, hzero]
              simp [TimOut.expired]
          | false =>
              obtain ⟨hinactive, hexpired⟩ := rttSweep_expiry hactive hzero id
              have hentry : ((rttNext s (.call false)).table id).active = false := by
                rw [rttNext, hcall]
                exact (congrArg ReTxTimerEntry.active (Function.update_self ..)).trans hinactive
              have hnow : (rttOut s (.call false)).expired = [id] := by
                rw [rttOut, hcall]
                exact hexpired
              rw [rttExpired_inactive hentry hls, hnow, hzero]
              simp

end Expiry

/-! ### Histories -/

/-- What the entry of a session says about its history. -/
structure HistInv (e : ReTxTimerEntry) (h : RttHistory) : Prop where
  type : e.active → h.type = some e.type
  expiries : h.expiries = e.retries.toNat
  retries : e.retries.toNat ≤ 4
  length : h.times.length = h.expiries + if e.active then 1 else 0
  sorted : h.times.Pairwise (· ≤ ·)
  bound : ∀ t ∈ h.times, t ≤ rttTimeout e.retries

/-- The next timeout is no shorter. -/
lemma rttTimeout_mono (retries : BitVec 3) (h : retries.toNat < 4) :
    rttTimeout retries ≤ rttTimeout (retries + 1) := by
  have hcases : retries = 0 ∨ retries = 1 ∨ retries = 2 ∨ retries = 3 := by bv_omega
  rcases hcases with rfl | rfl | rfl | rfl <;> decide

lemma timeSec_one_le : timeSec 1 ≤ rttTimeout 0 := by decide

section History

variable {e : ReTxTimerEntry} {h : RttHistory}

/-- A command of the Rx engine starts the history again. -/
lemma HistInv.rxe (hinv : HistInv e h) (command : TimerCmd) :
    HistInv (rttRxeEntry e command)
      { h with
        expiries := 0
        times := if (rttRxeEntry e command).active then [(rttRxeEntry e command).time] else [] } := by
  cases command with
  | loadTimer =>
      refine ⟨hinv.type, rfl, by simp [rttRxeEntry], ?_, ?_, ?_⟩
      · cases hactive : e.active <;> simp [rttRxeEntry, hactive]
      · cases hactive : e.active <;> simp [rttRxeEntry, hactive]
      · intro t ht
        cases hactive : e.active with
        | false => simp [rttRxeEntry, hactive] at ht
        | true =>
            simp only [rttRxeEntry, hactive, if_true, List.mem_singleton] at ht
            rw [ht]
            exact timeSec_one_le
  | stopTimer =>
      exact ⟨by simp [rttRxeEntry], rfl, by simp [rttRxeEntry], rfl, by simp [rttRxeEntry],
        by simp [rttRxeEntry]⟩

/-- A set command starts a timer that is inactive. -/
lemma HistInv.txe (hinv : HistInv e h) (type : EventType) :
    HistInv (rttTxeEntry e type)
      { h with
        type := some type
        times := if e.active then h.times else h.times ++ [(rttTxeEntry e type).time] } := by
  cases hactive : e.active with
  | true =>
      have hlen := hinv.length
      rw [hactive] at hlen
      exact ⟨fun _ => by simp [rttTxeEntry, hactive], by simp [rttTxeEntry, hactive, hinv.expiries],
        by simp [rttTxeEntry, hactive, hinv.retries], by simpa [rttTxeEntry, hactive] using hlen,
        hinv.sorted, by simpa [rttTxeEntry, hactive] using hinv.bound⟩
  | false =>
      have hlen := hinv.length
      rw [hactive] at hlen
      have hentry : rttTxeEntry e type =
          { e with type := type, time := rttTimeout e.retries, active := true } := by
        simp [rttTxeEntry, hactive]
      rw [hentry]
      refine ⟨fun _ => rfl, hinv.expiries, hinv.retries, ?_, ?_, ?_⟩
      · simpa using hlen
      · simp only [Bool.false_eq_true, if_false, List.pairwise_append, List.mem_singleton]
        exact ⟨hinv.sorted, List.pairwise_singleton .., fun t ht t' ht' =>
          ht' ▸ hinv.bound t ht⟩
      · simp only [Bool.false_eq_true, if_false, List.mem_append, List.mem_singleton]
        rintro t (ht | rfl)
        · exact hinv.bound t ht
        · exact BitVec.le_refl _

/-- A timer that has run down asks for a retransmission, as long as it has not done so too
often. -/
lemma rttSweep_event (hactive : e.active = true) (htime : e.time = 0) (hretries : e.retries < 4)
    (id : SessionId) :
    rttSweep e id false =
      ({ e with time := 0, active := false, retries := e.retries + 1 },
        { soEmxEvent := [{ type := e.type, sessionID := id, rtCount := e.retries + 1 }] }) := by
  rw [rttSweep, if_pos hactive, if_neg (by simp [htime])]
  simp only [Bool.false_eq_true, not_false_eq_true, if_true, hretries]

/-- A timer that has run down too often releases the session. -/
lemma rttSweep_release (hactive : e.active = true) (htime : e.time = 0) (hretries : ¬e.retries < 4)
    (id : SessionId) :
    rttSweep e id false =
      ({ e with time := 0, active := false, retries := 0 },
        if e.type = .syn then { soSmxSessCloseCmd := [id], soTAiNotif := [⟨id, .closed⟩] }
        else
          { soSmxSessCloseCmd := [id]
            soRAiNotif := [{ sessionID := id, tcpDatLen := 0, ip4SrcAddr := 0, tcpSrcPort := 0,
                             tcpDstPort := 0, tcpState := .closed }] }) := by
  rw [rttSweep, if_pos hactive, if_neg (by simp [htime])]
  simp only [Bool.false_eq_true, not_false_eq_true, if_true, hretries, if_false]

/-- What a visit does: nothing that is seen; or the timer expires. -/
lemma rttSweep_cases (e : ReTxTimerEntry) (id : SessionId) (eventFull : Bool) :
    ((rttSweep e id eventFull).2 = {} ∧
        ((rttSweep e id eventFull).1 = e ∨
          (rttSweep e id eventFull).1 = { e with time := e.time - 1 })) ∨
      e.active = true ∧ e.time = 0 ∧ eventFull = false := by
  by_cases hactive : e.active = true
  · by_cases htime : 0 < e.time
    · rw [rttSweep_running hactive htime]
      exact .inl ⟨rfl, .inr rfl⟩
    · have hzero : e.time = 0 := by
        generalize e.time = time at *
        bv_omega
      cases eventFull with
      | true =>
          rw [rttSweep_stay (.inr ⟨hzero, rfl⟩)]
          exact .inl ⟨rfl, .inl rfl⟩
      | false => exact .inr ⟨hactive, hzero, rfl⟩
  · rw [rttSweep_stay (.inl (Bool.eq_false_iff.mpr hactive))]
    exact .inl ⟨rfl, .inl rfl⟩

/-- A visit of the session: what is announced agrees with the history, and so does the entry that
is left. -/
lemma HistInv.visit (hinv : HistInv e h) (id : SessionId) (eventFull : Bool) :
    HistInv (rttSweep e id eventFull).1
      (if id ∈ (rttSweep e id eventFull).2.soSmxSessCloseCmd then
        { h with expiries := 0, times := [] }
      else if id ∈ (rttSweep e id eventFull).2.expired then { h with expiries := h.expiries + 1 }
      else h) := by
  rcases rttSweep_cases e id eventFull with ⟨hout, hentry⟩ | ⟨hactive, htime, rfl⟩
  · rw [hout]
    simp only [TimOut.expired, List.not_mem_nil, if_false, List.map_nil, List.append_nil]
    rcases hentry with hentry | hentry <;> rw [hentry]
    · exact hinv
    · exact ⟨hinv.type, hinv.expiries, hinv.retries, hinv.length, hinv.sorted, hinv.bound⟩
  · by_cases hretries : e.retries < 4
    · rw [rttSweep_event hactive htime hretries]
      have hlt : e.retries.toNat < 4 := hretries
      have hsucc : (e.retries + 1).toNat = e.retries.toNat + 1 := by
        generalize e.retries = retries at *
        bv_omega
      simp only [TimOut.expired, List.not_mem_nil, if_false, List.map_cons, List.map_nil,
        List.append_nil, List.mem_singleton, if_true]
      have hlen := hinv.length
      rw [hactive] at hlen
      refine ⟨by simp, ?_, ?_, ?_, hinv.sorted, fun t ht => ?_⟩
      · exact (congrArg (· + 1) hinv.expiries).trans hsucc.symm
      · exact hsucc.trans_le hlt
      · simpa using hlen
      · exact BitVec.le_trans (hinv.bound t ht) (rttTimeout_mono e.retries hlt)
    · rw [rttSweep_release hactive htime hretries]
      have hclose : id ∈ (if e.type = .syn then
          ({ soSmxSessCloseCmd := [id], soTAiNotif := [⟨id, .closed⟩] } : TimOut)
        else
          { soSmxSessCloseCmd := [id]
            soRAiNotif := [{ sessionID := id, tcpDatLen := 0, ip4SrcAddr := 0, tcpSrcPort := 0,
                             tcpDstPort := 0, tcpState := .closed }] }).soSmxSessCloseCmd := by
        split <;> simp
      rw [if_pos hclose]
      exact ⟨by simp, rfl, by simp, rfl, by simp, by simp⟩

end History

/-- What a visit announces. -/
lemma rttSweep_announced {h : SessionId → RttHistory} {e : ReTxTimerEntry} {id : SessionId}
    (hinv : HistInv e (h id)) (eventFull : Bool) (access : List SessionId) :
    ExpiryOut h { (rttSweep e id eventFull).2 with access := access } := by
  rcases rttSweep_cases e id eventFull with ⟨hout, -⟩ | ⟨hactive, htime, rfl⟩
  · rw [hout]
    exact .none access
  · by_cases hretries : e.retries < 4
    · rw [rttSweep_event hactive htime hretries]
      exact .event access id e.type _ (hinv.type hactive)
    · rw [rttSweep_release hactive htime hretries]
      by_cases hsyn : e.type = .syn
      · rw [if_pos hsyn]
        exact .failed access id
      · rw [if_neg hsyn]
        exact .aborted access id

/-- A session is released after four expiries. -/
lemma rttSweep_released {e : ReTxTimerEntry} {h : RttHistory} {id id' : SessionId}
    (hinv : HistInv e h) (eventFull : Bool)
    (hmem : id' ∈ (rttSweep e id eventFull).2.soSmxSessCloseCmd) :
    id' = id ∧ h.expiries = 4 ∧ h.times.length = 5 := by
  rcases rttSweep_cases e id eventFull with ⟨hout, -⟩ | ⟨hactive, htime, rfl⟩
  · rw [hout] at hmem
    cases hmem
  · have hlen := hinv.length
    rw [hactive, if_pos rfl] at hlen
    have hle := hinv.retries
    have hexp := hinv.expiries
    by_cases hretries : e.retries < 4
    · rw [rttSweep_event hactive htime hretries] at hmem
      cases hmem
    · have hnot : ¬e.retries.toNat < 4 := hretries
      rw [rttSweep_release hactive htime hretries] at hmem
      refine ⟨?_, by omega, by omega⟩
      revert hmem
      split <;> simp

/-- **The histories** agree with the table, whatever happens next. -/
lemma histInv_next {s : RttState} {h : SessionId → RttHistory}
    (hinv : ∀ id, HistInv (s.table id) (h id)) (l : RttLabel) (id : SessionId) :
    HistInv ((rttNext s l).table id) (rttRecord s h l id) := by
  cases l with
  | rxe id' command => exact hinv id
  | txe id' type => exact hinv id
  | call eventFull =>
      have hcall := rttCall s eventFull
      have hnext : rttNext s (.call eventFull) = (pRetransmitTimer s eventFull).1 := rfl
      have hout : rttOut s (.call eventFull) = (pRetransmitTimer s eventFull).2 := rfl
      rw [rttRecord]
      generalize rttNext s (.call eventFull) = s', rttOut s (.call eventFull) = o at *
      generalize rttTask s = task, pRetransmitTimer s eventFull = r at *
      subst hnext hout
      cases hcall with
      | rxe hw hne =>
          by_cases hid : id = s.rxeCmd.sessionID
          · subst hid
            simp only [Function.update_self]
            exact (hinv _).rxe s.rxeCmd.command
          · simp only [Function.update_of_ne hid]
            exact hinv id
      | read cmd cmds hw hq => exact hinv id
      | txe cmd cmds hturn hq =>
          by_cases hid : id = cmd.sessionID
          · subst hid
            simp only [Function.update_self]
            exact (hinv _).txe cmd.type
          · simp only [Function.update_of_ne hid]
            exact hinv id
      | sweep hturn hq =>
          by_cases hid : id = s.position
          · subst hid
            simp only [Function.update_self]
            exact (hinv _).visit s.position eventFull
          · simp only [Function.update_of_ne hid]
            exact hinv id

/-- The process goes on as without the histories. -/
lemma rttHistNext_fst (p : RttState × (SessionId → RttHistory)) (ls : List RttLabel) :
    (Clocked.run rttHistNext p ls).1 = Clocked.run rttNext p.1 ls := by
  induction ls generalizing p with
  | nil => rfl
  | cons l ls ih => exact ih (rttHistNext p l)

/-- The histories after a run from the reset agree with the table. -/
lemma histInv_run (ls : List RttLabel) (id : SessionId) :
    HistInv ((Clocked.run rttNext {} ls).table id) (rttHistory ls id) := by
  have hstep (p : RttState × (SessionId → RttHistory)) (l : RttLabel)
      (hinv : ∀ id, HistInv (p.1.table id) (p.2 id)) (_ : True) :
      ∀ id, HistInv ((rttHistNext p l).1.table id) ((rttHistNext p l).2 id) :=
    histInv_next hinv l
  have hreset (id : SessionId) : HistInv {} {} :=
    ⟨by simp, rfl, by decide, rfl, .nil, by simp⟩
  have hrun := Clocked.run_inv (s := ({}, fun _ => {})) hstep hreset
    (Clocked.along_trivial rttHistNext _ ls) id
  rwa [rttHistNext_fst] at hrun

/-! ### Commands -/

/-- The commands of the Rx engine that are not carried out yet. -/
def rxePending (s : RttState) : List RXeReTransTimerCmd :=
  (if s.waitForWrite then [s.rxeCmd] else []) ++ s.siRXeReTxTimerCmd

lemma rxe_conserved (s : RttState) (l : RttLabel) :
    rxePending s ++ rxeArrival l = rxeServed s l ++ rxePending (rttNext s l) := by
  cases l with
  | rxe id command => exact List.append_assoc ..
  | txe id type => exact List.append_nil _
  | call eventFull =>
      have hcall := rttCall s eventFull
      simp only [rxeArrival, rxeServed, rttNext, List.append_nil]
      generalize rttTask s = task, pRetransmitTimer s eventFull = r at *
      cases hcall with
      | rxe hw hne => simp [rxePending, hw]
      | read cmd cmds hw hq => simp [rxePending, hw, hq]
      | txe cmd cmds hturn hq => rfl
      | sweep hturn hq => rfl

lemma txe_conserved (s : RttState) (l : RttLabel) :
    s.siTXeReTxTimerCmd ++ txeArrival l =
      txeServed s l ++ (rttNext s l).siTXeReTxTimerCmd := by
  cases l with
  | rxe id command => exact List.append_nil _
  | txe id type => rfl
  | call eventFull =>
      have hcall := rttCall s eventFull
      simp only [txeArrival, txeServed, rttNext, List.append_nil]
      generalize rttTask s = task, pRetransmitTimer s eventFull = r at *
      cases hcall with
      | rxe hw hne => rfl
      | read cmd cmds hw hq => rfl
      | txe cmd cmds hturn hq => exact hq
      | sweep hturn hq => rfl

/-- How many calls the commands that wait may take. A command that is read waits for a call about
another session. -/
def rttWork (s : RttState) : ℕ :=
  4 * s.siRXeReTxTimerCmd.length + 3 * s.siTXeReTxTimerCmd.length +
    if s.waitForWrite then
      if s.rxeCmd.sessionID = s.prevPosition then
        if s.position = s.prevPosition then 3 else 2
      else 1
    else 0

/-- A call does some of the work. -/
lemma rttWork_call (s : RttState) (eventFull : Bool) :
    rttWork (pRetransmitTimer s eventFull).1 ≤ rttWork s - 1 := by
  have hcall := rttCall s eventFull
  generalize rttTask s = task, pRetransmitTimer s eventFull = r at *
  cases hcall with
  | rxe hw hne =>
      simp only [rttWork, hw, hne, if_true, if_false, Bool.false_eq_true]
      omega
  | read cmd cmds hw hq =>
      simp only [rttWork, hw, hq, if_true, if_false, Bool.false_eq_true, List.length_cons]
      split_ifs <;> omega
  | txe cmd cmds hturn hq =>
      rcases hturn with ⟨hw, hid⟩ | ⟨hw, hr⟩
      · simp only [rttWork, hw, hq, hid, if_true, List.length_cons]
        split_ifs <;> omega
      · simp only [rttWork, hw, hq, if_false, Bool.false_eq_true, List.length_cons]
        omega
  | sweep hturn hq =>
      rcases hturn with ⟨hw, hid⟩ | ⟨hw, hr⟩
      · have hmoves : (if toeMaxSessions ≤ (s.position + 1).toNat then 0 else s.position + 1) ≠
            s.position := by
          generalize s.position = position
          split
          · next hend =>
              intro h
              rw [← h] at hend
              exact absurd hend (by decide)
          · bv_omega
        simp only [rttWork, hw, hid, if_true]
        by_cases hpos : s.position = s.prevPosition
        · rw [hpos] at hmoves
          simp only [hpos, if_true, hmoves, if_false]
          omega
        · simp only [hpos, Ne.symm hpos, if_false]
          omega
      · simp [rttWork, hw, hq, hr]

/-- The commands that wait are carried out in the next calls. -/
lemma rtt_served (s : RttState) (fulls : List Bool) (hlen : rttWork s ≤ fulls.length) :
    let s' := Clocked.run rttNext s (fulls.map .call)
    s'.waitForWrite = false ∧ s'.siRXeReTxTimerCmd = [] ∧ s'.siTXeReTxTimerCmd = [] := by
  have hstep (s : RttState) (eventFull : Bool) (_ : True) (_ : True) :
      Clocked.Progress (fun _ => True) rttWork (fun _ => true) s eventFull
        (pRetransmitTimer s eventFull).1 := by
    have hwork := rttWork_call s eventFull
    exact ⟨trivial, by omega, fun _ => hwork⟩
  have hrun := (Clocked.run_work hstep trivial
    (Clocked.along_trivial (fun s eventFull => (pRetransmitTimer s eventFull).1) s fulls)).2
  have heq : Clocked.run rttNext s (fulls.map .call) =
      Clocked.run (fun s eventFull => (pRetransmitTimer s eventFull).1) s fulls :=
    List.foldl_map
  simp only [heq]
  generalize Clocked.run (fun s eventFull => (pRetransmitTimer s eventFull).1) s fulls = s' at *
  have hzero : rttWork s' = 0 := by
    have hcount : fulls.countP (fun _ => true) = fulls.length :=
      List.countP_eq_length.mpr fun _ _ => rfl
    rw [hcount] at hrun
    omega
  simp only [rttWork] at hzero
  refine ⟨?_, ?_, ?_⟩
  · cases hw : s'.waitForWrite with
    | false => rfl
    | true =>
        rw [hw, if_pos rfl] at hzero
        split_ifs at hzero
  · exact List.eq_nil_of_length_eq_zero (by omega)
  · exact List.eq_nil_of_length_eq_zero (by omega)

/-- A call does what its task says about the entry of the session. -/
lemma rttCall_done (s : RttState) (eventFull : Bool) (id : SessionId)
    (hid : (rttTask s).session = some id) :
    CommandDone (s.table id) ((pRetransmitTimer s eventFull).1.table id) (rttTask s) := by
  have hcall := rttCall s eventFull
  generalize rttTask s = task, pRetransmitTimer s eventFull = r at *
  cases hcall with
  | rxe hw hne =>
      cases hid
      simp only [Function.update_self]
      obtain ⟨id, command⟩ := s.rxeCmd
      cases command <;> simp [CommandDone, rttRxeEntry]
  | read cmd cmds hw hq => trivial
  | txe cmd cmds hturn hq =>
      cases hid
      simp only [Function.update_self, CommandDone, rttTxeEntry]
      cases (s.table cmd.sessionID).active <;> simp
  | sweep hturn hq => trivial

/-! ### The law of every run -/

/-- **The law of the retransmit timer** holds of every run from the reset in which no command of the
Tx engine pushes the sweep. -/
theorem rtt_law {ls : List RttLabel}
    (h : Clocked.Along rttNext (fun s l => ¬RttPushes s l) {} ls) : RttLaw ls where
  goesRound := by
    obtain ⟨n, hn⟩ := rttVisited_range (p := 0) rfl h
    rw [hn]
    exact goesRound_range 0 n
  expires := fun _ _ _ _ hactive hquiet => rttExpired_active hactive hquiet
  announced := by
    intro pre l post _
    cases l with
    | rxe id command => exact .none []
    | txe id type => exact .none []
    | call eventFull =>
        have hinv := histInv_run pre
        have hcall := rttCall (Clocked.run rttNext {} pre) eventFull
        rw [rttOut]
        generalize Clocked.run rttNext {} pre = s at *
        generalize rttTask s = task, pRetransmitTimer s eventFull = r at *
        cases hcall with
        | rxe hw hne => exact .none _
        | read cmd cmds hw hq => exact .none _
        | txe cmd cmds hturn hq => exact .none _
        | sweep hturn hq => exact rttSweep_announced (hinv s.position) eventFull _
  released := by
    intro pre l post _ id hmem
    cases l with
    | rxe id' command => cases hmem
    | txe id' type => cases hmem
    | call eventFull =>
        have hinv := histInv_run pre
        have hcall := rttCall (Clocked.run rttNext {} pre) eventFull
        rw [rttOut] at hmem
        generalize Clocked.run rttNext {} pre = s at *
        generalize rttTask s = task, pRetransmitTimer s eventFull = r at *
        cases hcall with
        | rxe hw hne => cases hmem
        | read cmd cmds hw hq => cases hmem
        | txe cmd cmds hturn hq => cases hmem
        | sweep hturn hq =>
            obtain ⟨rfl, hexp, hlen⟩ := rttSweep_released (hinv s.position) eventFull hmem
            exact ⟨hexp, hlen, (hinv s.position).sorted⟩
  conserved := by
    refine ⟨?_, ?_⟩
    · rw [List.append_assoc]
      exact emits_conserve rxe_conserved {} ls
    · exact emits_conserve txe_conserved {} ls
  served := by
    intro s fulls hlen
    refine rtt_served s fulls (le_trans ?_ hlen)
    simp only [rttWork]
    split_ifs <;> omega
  applied := by
    intro pre eventFull post _
    exact ⟨fun id hid => rttCall_done _ eventFull id hid,
      fun id hid => (rttCall_other _ eventFull hid).1⟩

instance (position : SessionId) : (task : RttTask) → Decidable (task.Pushes position)
  | .txe _ => inferInstanceAs (Decidable (_ ∧ _))
  | .rxe _ | .read _ | .sweep _ => inferInstanceAs (Decidable False)

instance (s : RttState) : (l : RttLabel) → Decidable (RttPushes s l)
  | .call _ => inferInstanceAs (Decidable ((rttTask s).Pushes s.position))
  | .rxe _ _ | .txe _ _ => inferInstanceAs (Decidable False)

/-- A segment of session 0 is sent behind the sweep, and acknowledged in part. -/
theorem rtt_law_session :
    RttLaw [.call false, .txe ⟨0, by decide⟩ .syn, .call false, .rxe ⟨0, by decide⟩ .loadTimer,
      .call true, .call false, .call false] :=
  rtt_law (by decide +kernel)

/-- The sweep comes to session 1 when a segment of this session is sent. It goes on with session 6,
and has left out five sessions when it is back at session 0. -/
theorem not_rtt_law_push :
    ¬RttLaw [.call false, .txe ⟨1, by decide⟩ .tx, .call false, .call false, .call false,
      .call false] := by
  intro h
  have hround := h.goesRound [] 0 [6, 7] [] (by decide +kernel) (by decide) 1 (by decide)
    (by decide)
  exact absurd hround (by decide)

end CloudFpga.Toe
