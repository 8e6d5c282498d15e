import CloudFpga.Foundation.Clocked
import CloudFpga.Toe.TxEngine.MetaDataLoader

/-!
The delayed acknowledgments: `ack_delay` of `ack_delay.cpp`, and the meta-data loader of the Tx
engine that processes the events it forwards.

An acknowledgment of a session is owed from the time the delayer accepts an `ACK_EVENT` until a
segment of the session with an acknowledgment is sent. The delayer drops the delay of a session
as soon as another event comes in, which it expects to carry the acknowledgment.

* `akdEvent`, `akdTick`: a call of the delayer with and without an event.
* `AckKept`: for every acknowledgment that is owed, the delay runs or an event is under way.
* `mdlSilent`: the loader is about to end an event without a segment that acknowledges.
* `ackDelay_keeps_iff`: along every run no acknowledgment is lost exactly when every step meets
  `AckCarried`.
-/

namespace CloudFpga.Toe

open Foundation

/-! ### The delayer -/

/-- `AckEntry`: the delay of a session in steps of `TOE_MAX_SESSIONS` cycles, and the number of
acknowledgments that were merged. -/
structure AckEntry where
  delay : BitVec 12 := 0
  count : BitVec 4 := 0
  deriving DecidableEq, Repr

/-- `ACKD_64us` and the like, in a build with `__SYNTHESIS__`: `us / 0.0064 / TOE_MAX_SESSIONS`
rounded down, plus 1. -/
def ackdUs (us : ℕ) : BitVec 12 := BitVec.ofNat 12 (us * 10000 / 64 / toeMaxSessions + 1)

/-- One more acknowledgment was received, and the delay decreases to `us` at most. -/
def AckEntry.decrease (x : AckEntry) (us : ℕ) : AckEntry where
  delay := if x.delay > ackdUs us then ackdUs us else x.delay
  count := x.count + 1

/-- The entry of a session after an `ACK_EVENT`. -/
def AckEntry.ack (x : AckEntry) : AckEntry :=
  if x.delay = 0 then ⟨ackdUs 64, 1⟩
  else if x.count = 1 then x.decrease 32
  else if x.count = 2 then x.decrease 16
  else if x.count = 3 then x.decrease 8
  else if x.count = 4 then x.decrease 4
  else if x.count = 5 then x.decrease 2
  else if x.count = 6 then x.decrease 1
  else if x.count = 7 then ⟨1, 8⟩
  else x

/-- The registers of the process. -/
structure AkdState where
  ackTable : SessionId → AckEntry := fun _ => {}
  akdPtr : SessionId := 0

/-- What a call writes on the output streams. -/
structure AkdOut where
  rxEventSig : List Bool := []
  txEventSig : List Bool := []
  event : List ExtendedEvent := []
  deriving DecidableEq

/-- A call that reads an event. -/
def akdEvent (s : AkdState) (ev : ExtendedEvent) : AkdState × AkdOut :=
  let id := ev.event.sessionID
  if ev.event.type = .ack then
    ({ s with ackTable := Function.update s.ackTable id (s.ackTable id).ack },
      { rxEventSig := [true] })
  else
    ({ s with ackTable := Function.update s.ackTable id ⟨0, 0⟩ },
      { rxEventSig := [true], txEventSig := [true], event := [ev] })

/-- The event that asks for an acknowledgment. Its socket pair is never read. -/
def ackTimeEvent (id : SessionId) : ExtendedEvent where
  event := { type := .ack, sessionID := id }
  tuple := ⟨⟨0, 0⟩, ⟨0, 0⟩⟩

/-- A call without an event: the delay of the next session decreases, unless `soTXe_Event` is
full. -/
def akdTick (s : AkdState) (full : Bool) : AkdState × AkdOut :=
  let x := s.ackTable s.akdPtr
  let akdPtr := if s.akdPtr + 1 = BitVec.ofNat 16 toeMaxSessions then 0 else s.akdPtr + 1
  if x.delay > 0 ∧ ¬full then
    ({ ackTable := Function.update s.ackTable s.akdPtr { x with delay := x.delay - 1 }
       akdPtr := akdPtr },
      if x.delay = 1 then { txEventSig := [true], event := [ackTimeEvent s.akdPtr] } else {})
  else ({ s with akdPtr := akdPtr }, {})

lemma ackdUs_ne_zero {us : ℕ} (h : us ≤ 64) : ackdUs us ≠ 0 := by
  have hle : us * 10000 / 64 / toeMaxSessions ≤ 1250 := by
    rw [toeMaxSessions]
    omega
  intro heq
  have hnat : (us * 10000 / 64 / toeMaxSessions + 1) % 2 ^ 12 = 0 := congrArg BitVec.toNat heq
  rw [Nat.mod_eq_of_lt (by omega)] at hnat
  cases hnat

lemma AckEntry.decrease_delay_ne_zero {x : AckEntry} {us : ℕ} (hx : x.delay ≠ 0) (h : us ≤ 64) :
    (x.decrease us).delay ≠ 0 := by
  simp only [AckEntry.decrease]
  split
  · exact ackdUs_ne_zero h
  · exact hx

/-- After an `ACK_EVENT` the delay runs. -/
lemma AckEntry.ack_delay_ne_zero (x : AckEntry) : x.ack.delay ≠ 0 := by
  by_cases hx : x.delay = 0
  · rw [AckEntry.ack, if_pos hx]
    exact ackdUs_ne_zero (le_refl _)
  · have hdec : ∀ us ≤ 64, (x.decrease us).delay ≠ 0 :=
      fun us h => AckEntry.decrease_delay_ne_zero hx h
    rw [AckEntry.ack, if_neg hx]
    split_ifs
    · exact hdec 32 (by decide)
    · exact hdec 16 (by decide)
    · exact hdec 8 (by decide)
    · exact hdec 4 (by decide)
    · exact hdec 2 (by decide)
    · exact hdec 1 (by decide)
    · exact (by decide : (1 : BitVec 12) ≠ 0)
    · exact hx

/-! ### The events that are under way -/

namespace MdlState

/-- An event of the session waits in the queue. -/
def Queued (s : MdlState) (id : SessionId) : Prop := ∃ e ∈ s.siEvent, e.event.BelongsTo id

/-- An event of the session is processed. -/
def Processing (s : MdlState) (id : SessionId) : Prop :=
  s.fsmState = .processEvent ∧ s.curEvent.event.BelongsTo id

instance (s : MdlState) (id : SessionId) : Decidable (s.Queued id) :=
  inferInstanceAs (Decidable (∃ e ∈ _, _))

instance (s : MdlState) (id : SessionId) : Decidable (s.Processing id) :=
  inferInstanceAs (Decidable (_ ∧ _))

end MdlState

/-- The call sends a segment of the session with an acknowledgment. -/
def mdlAcks (out : MdlOut) (id : SessionId) : Bool :=
  out.reverseLkpReq.contains id && out.txeMeta.any (·.ack)

/-- The sequence number of a FIN. -/
def finSeqNumb (s : MdlState) : TcpSeqNum :=
  if s.curEvent.event.rtCount ≠ 0 then s.txSar.notAckd - 1 else s.txSar.notAckd

/-- The next call ends the current event, and sends no acknowledgment for its session: a
transmission with no data that fits the window, a retransmission with nothing in flight, a SYN, or
a FIN that has to wait for data. -/
def mdlSilent (s : MdlState) : Bool :=
  match s.curEvent.event.type with
  | .tx => (mdlLoadSar s).any fun t => txCase t.txSar = .last 0
  | .rt =>
      (mdlLoadSar s).any fun t => ¬rtIsFull t.txSar ∧ ¬t.txSar.finSent ∧ rtDatLen t.txSar = 0
  | .syn => s.curEvent.event.rtCount = 0 || !s.siTxSarRep.isEmpty
  | .fin => (mdlLoadSar s).any fun t => (finSeqNumb t).setWidth 16 ≠ t.txSar.app
  | .ack | .ackNodelay | .synAck | .rst => false

/-- What a call that processes an event may do. -/
inductive MdlTurn (s : MdlState) (r : MdlState × MdlOut) : Prop
  /-- it acknowledges -/
  | acks (hsilent : mdlSilent s = false) (h : ∀ id, mdlAcks r.2 id = true ↔ s.sessionID = id)
  /-- it stays with the event -/
  | stays (hsilent : mdlSilent s = false) (h : ∀ id, mdlAcks r.2 id = false)
      (hfsm : r.1.fsmState = .processEvent)
  /-- it ends the event without an acknowledgment -/
  | ends (hsilent : mdlSilent s = true ∨ ¬s.curEvent.event.HasSession)
      (h : ∀ id, mdlAcks r.2 id = false) (hfsm : r.1.fsmState = .waitEvent)

section Turns

variable {s t : MdlState}

lemma mdlAcks_send {id : SessionId} {addr : BitVec 32} {m : TXeMeta} {out : MdlOut}
    (hm : m.length ≠ 0) (hack : m.ack = true)
    (hmeta : out.txeMeta = (mdlSend id addr m).txeMeta)
    (hlkp : out.reverseLkpReq = (mdlSend id addr m).reverseLkpReq) (id' : SessionId) :
    mdlAcks out id' = true ↔ id = id' := by
  rw [mdlAcks, hmeta, hlkp, mdlSend, if_pos hm]
  simp [hack, eq_comm]

lemma mdlAcks_send_empty {id : SessionId} {addr : BitVec 32} {m : TXeMeta} {out : MdlOut}
    (hm : m.length = 0) (hmeta : out.txeMeta = (mdlSend id addr m).txeMeta) (id' : SessionId) :
    mdlAcks out id' = false := by
  rw [mdlAcks, hmeta, mdlSend, if_neg (not_not.mpr hm)]
  simp

lemma mdlAcks_sendHeader {id : SessionId} {m : TXeMeta} {out : MdlOut} (hack : m.ack = true)
    (hmeta : out.txeMeta = (mdlSendHeader id m).txeMeta)
    (hlkp : out.reverseLkpReq = (mdlSendHeader id m).reverseLkpReq) (id' : SessionId) :
    mdlAcks out id' = true ↔ id = id' := by
  rw [mdlAcks, hmeta, hlkp, mdlSendHeader]
  simp [hack, eq_comm]

lemma mssPayload_ne_zero : mssPayload ≠ 0 := by decide

/-- A transmission ends silently when there is nothing to send or the window is closed. -/
lemma mdlTx_turn (hfsm : s.fsmState = .processEvent) (htype : s.curEvent.event.type = .tx) :
    MdlTurn s (mdlTx s) := by
  cases hload : mdlLoadSar s with
  | none =>
      rw [mdlTx_of_none hload]
      exact .stays (by simp [mdlSilent, htype, hload]) (fun _ => rfl) hfsm
  | some t =>
      have hid : s.sessionID = t.sessionID := (sessionID_of_mdlLoadSar hload).symm
      have hsilent : mdlSilent s = decide (txCase t.txSar = .last 0) := by
        simp [mdlSilent, htype, hload]
      rw [mdlTx_of_some hload]
      cases hc : txCase t.txSar with
      | fragment =>
          refine .acks (by rw [hsilent, hc]; rfl) fun id => ?_
          rw [hid]
          refine @mdlAcks_send t.sessionID (txMemSegAddr t.sessionID t.txSar.notAckd)
            (mdlMeta t.rxSar t.txSar.notAckd mssPayload) _ mssPayload_ne_zero rfl ?_ ?_ id
          · simp only [mdlTxSegment, hc, mdlTxSend]
            rfl
          · simp only [mdlTxSegment, hc, mdlTxSend]
            rfl
      | fin =>
          refine .stays (by rw [hsilent, hc]; rfl) (fun id => ?_) ?_
          · refine @mdlAcks_send_empty t.sessionID (txMemSegAddr t.sessionID t.txSar.notAckd)
              (mdlMeta t.rxSar t.txSar.notAckd 0) _ rfl ?_ id
            simp only [mdlTxSegment, hc, mdlTxSend]
            rfl
          · simp only [mdlTxSegment, hc]
            exact (mdlLoadSar_frame hload).2.1.trans hfsm
      | last n =>
          by_cases hn : n = 0
          · subst hn
            refine .ends (.inl (by rw [hsilent, hc]; rfl)) (fun id => ?_) ?_
            · refine @mdlAcks_send_empty t.sessionID (txMemSegAddr t.sessionID t.txSar.notAckd)
                (mdlMeta t.rxSar t.txSar.notAckd 0) _ rfl ?_ id
              simp only [mdlTxSegment, hc, mdlTxSend]
              rfl
            · simp only [mdlTxSegment, hc]
          · refine .acks (by rw [hsilent, hc]; simpa using hn) fun id => ?_
            rw [hid]
            refine @mdlAcks_send t.sessionID (txMemSegAddr t.sessionID t.txSar.notAckd)
              (mdlMeta t.rxSar t.txSar.notAckd n) _ hn rfl ?_ ?_ id
            · simp only [mdlTxSegment, hc, mdlTxSend]
              rfl
            · simp only [mdlTxSegment, hc, mdlTxSend]
              rfl

/-- The segment of a retransmission. -/
lemma mdlRtSegment_send (loaded : Bool) :
    (mdlRtSegment t loaded).2.txeMeta = (mdlRtSend t).txeMeta ∧
      (mdlRtSegment t loaded).2.reverseLkpReq = (mdlRtSend t).reverseLkpReq :=
  ⟨rfl, rfl⟩

/-- A retransmission ends silently when no data is in flight and no FIN was sent. -/
lemma mdlRt_turn (hfsm : s.fsmState = .processEvent) (htype : s.curEvent.event.type = .rt) :
    MdlTurn s (mdlRt s) := by
  cases hload : mdlLoadSar s with
  | none =>
      rw [mdlRt_of_none hload]
      exact .stays (by simp [mdlSilent, htype, hload]) (fun _ => rfl) hfsm
  | some t =>
      have hid : s.sessionID = t.sessionID := (sessionID_of_mdlLoadSar hload).symm
      have hsilent : mdlSilent s =
          decide (¬rtIsFull t.txSar ∧ ¬t.txSar.finSent ∧ rtDatLen t.txSar = 0) := by
        simp [mdlSilent, htype, hload]
      rw [mdlRt_of_some hload]
      have hacks (h : (if rtIsFull t.txSar then mssPayload else rtDatLen t.txSar) ≠ 0)
          (id : SessionId) :
          mdlAcks (mdlRtSegment t s.sarLoaded).2 id = true ↔ s.sessionID = id := by
        rw [hid]
        exact mdlAcks_send h rfl (mdlRtSegment_send _).1 (mdlRtSegment_send _).2 id
      by_cases hfull : rtIsFull t.txSar = true
      · refine .acks (by rw [hsilent]; simp [hfull]) (hacks ?_)
        rw [if_pos hfull]
        exact mssPayload_ne_zero
      · by_cases hlen : rtDatLen t.txSar = 0
        · have hnone (id : SessionId) : mdlAcks (mdlRtSegment t s.sarLoaded).2 id = false := by
            refine mdlAcks_send_empty ?_ (mdlRtSegment_send _).1 id
            exact (if_neg hfull).trans hlen
          by_cases hfin : t.txSar.finSent = true
          · refine .stays (by rw [hsilent]; simp [hfin]) hnone ?_
            simp only [mdlRtSegment, if_neg hfull, if_pos hfin]
            exact (mdlLoadSar_frame hload).2.1.trans hfsm
          · refine .ends (.inl (by rw [hsilent]; simp [hfull, hfin, hlen])) hnone ?_
            simp only [mdlRtSegment, if_neg hfull, if_neg hfin]
        · refine .acks ?_ (hacks ?_)
          · rw [hsilent]
            exact decide_eq_false fun h => hlen h.2.2
          rw [if_neg hfull]
          exact hlen

/-- A FIN ends silently when it has to wait for data. -/
lemma mdlFin_turn (hfsm : s.fsmState = .processEvent) (htype : s.curEvent.event.type = .fin) :
    MdlTurn s (mdlFin s) := by
  cases hload : mdlLoadSar s with
  | none =>
      rw [mdlFin, hload]
      exact .stays (by simp [mdlSilent, htype, hload]) (fun _ => rfl) hfsm
  | some t =>
      have hid : s.sessionID = t.sessionID := (sessionID_of_mdlLoadSar hload).symm
      have hsilent : mdlSilent s =
          decide ((finSeqNumb t).setWidth 16 ≠ t.txSar.app) := by
        simp [mdlSilent, htype, hload]
      rw [mdlFin, hload]
      have hout : (mdlFinSegment t).2.txeMeta =
            (if (finSeqNumb t).setWidth 16 = t.txSar.app then
              [{ mdlMeta t.rxSar (finSeqNumb t) 0 with fin := true }] else []) ∧
          (mdlFinSegment t).2.reverseLkpReq =
            (if (finSeqNumb t).setWidth 16 = t.txSar.app then [t.sessionID] else []) := by
        simp only [mdlFinSegment, finSeqNumb, mdlSendHeader, ne_eq, decide_eq_true_eq]
        split_ifs <;> exact ⟨rfl, rfl⟩
      by_cases hseq : (finSeqNumb t).setWidth 16 = t.txSar.app
      · rw [if_pos hseq, if_pos hseq] at hout
        refine .acks (by rw [hsilent]; simp [hseq]) fun id => ?_
        rw [hid, mdlAcks, hout.1, hout.2]
        simp [mdlMeta, eq_comm]
      · rw [if_neg hseq] at hout
        refine .ends (.inl (by rw [hsilent]; simp [hseq])) (fun id => ?_) rfl
        rw [mdlAcks, hout.1]
        simp

/-- A call that processes an event. -/
theorem mdlProcessEvent_turn (hfsm : s.fsmState = .processEvent) :
    MdlTurn s (mdlProcessEvent s) := by
  rw [mdlProcessEvent]
  cases htype : s.curEvent.event.type with
  | tx => exact mdlTx_turn hfsm htype
  | rt => exact mdlRt_turn hfsm htype
  | fin => exact mdlFin_turn hfsm htype
  | ack | ackNodelay =>
      have hsilent : mdlSilent s = false := by simp [mdlSilent, htype]
      dsimp only [mdlAck]
      cases hload : mdlReadSar s with
      | none => exact .stays hsilent (fun _ => rfl) hfsm
      | some t =>
          refine .acks hsilent fun id => ?_
          rw [MdlState.sessionID, ← (mdlReadSar_frame hload).1]
          exact mdlAcks_sendHeader rfl rfl rfl id
  | synAck =>
      have hsilent : mdlSilent s = false := by simp [mdlSilent, htype]
      dsimp only [mdlSynAck]
      cases hload : mdlReadSar s with
      | none => exact .stays hsilent (fun _ => rfl) hfsm
      | some t =>
          refine .acks hsilent fun id => ?_
          rw [MdlState.sessionID, ← (mdlReadSar_frame hload).1]
          dsimp only
          split
          · exact mdlAcks_sendHeader rfl rfl rfl id
          · exact mdlAcks_sendHeader rfl rfl rfl id
  | syn =>
      dsimp only [mdlSyn]
      have hnone (t : MdlState) (n : TcpSeqNum) (qry : List TXeTxSarQuery) (id : SessionId) :
          mdlAcks (mdlSynSegment t n qry).2 id = false := by
        simp [mdlAcks, mdlSynSegment, mdlSendHeader]
      split
      · next hrt =>
          split
          · next hrep =>
              refine .ends (.inl ?_) (hnone _ _ _) rfl
              simp [mdlSilent, htype, hrep]
          · next hrep =>
              refine .stays ?_ (fun _ => rfl) hfsm
              simpa [mdlSilent, htype, hrep] using hrt
      · next hrt =>
          refine .ends (.inl ?_) (hnone _ _ _) rfl
          simp [mdlSilent, htype, not_not.mp hrt]
  | rst =>
      have hsilent : mdlSilent s = false := by simp [mdlSilent, htype]
      dsimp only [mdlRst]
      split
      · next hid =>
          refine .ends (.inr fun h => hid (h htype)) (fun id => ?_) rfl
          simp [mdlAcks]
      · split
        · exact .acks hsilent fun id => mdlAcks_sendHeader rfl rfl rfl id
        · exact .stays hsilent (fun _ => rfl) hfsm

end Turns

/-! ### The delayer with the loader -/

/-- The delayer and the meta-data loader. `owed` is a history variable: the sessions that still
have to acknowledge since an `ACK_EVENT` of theirs was accepted. -/
structure AckState where
  akd : AkdState := {}
  mdl : MdlState
  owed : SessionId → Bool := fun _ => false

inductive AckLabel where
  /-- a call of the delayer that reads an event -/
  | event (ev : ExtendedEvent)
  /-- a call of the delayer without an event, while `soTXe_Event` is full or not -/
  | tick (full : Bool)
  /-- a reply of the Rx SAR table -/
  | rxSarRep (rep : RxSarReply)
  /-- a reply of the Tx SAR table -/
  | txSarRep (rep : TXeTxSarReply)
  /-- a call of the meta-data loader -/
  | mdl

/-- The loader with more events in its queue. -/
def MdlState.pushEvents (s : MdlState) (evs : List ExtendedEvent) : MdlState :=
  { s with siEvent := s.siEvent ++ evs }

def ackNext (s : AckState) : AckLabel → AckState
  | .event ev =>
      let r := akdEvent s.akd ev
      { akd := r.1
        mdl := s.mdl.pushEvents r.2.event
        owed := if ev.event.type = .ack then Function.update s.owed ev.event.sessionID true
          else s.owed }
  | .tick full =>
      let r := akdTick s.akd full
      { s with akd := r.1, mdl := s.mdl.pushEvents r.2.event }
  | .rxSarRep rep => { s with mdl := { s.mdl with siRxSarRep := s.mdl.siRxSarRep ++ [rep] } }
  | .txSarRep rep => { s with mdl := { s.mdl with siTxSarRep := s.mdl.siTxSarRep ++ [rep] } }
  | .mdl =>
      let r := pMetaDataLoader s.mdl
      { s with mdl := r.1, owed := fun id => s.owed id && !mdlAcks r.2 id }

/-- The delay of the session runs. -/
def AckState.Pending (s : AckState) (id : SessionId) : Prop := (s.akd.ackTable id).delay ≠ 0

instance (s : AckState) (id : SessionId) : Decidable (s.Pending id) :=
  inferInstanceAs (Decidable (_ ≠ _))

/-- No acknowledgment is lost: where one is owed, the delay of the session runs, or an event of
the session is under way that may send it. -/
def AckKept (s : AckState) : Prop :=
  ∀ id, s.owed id = true → s.Pending id ∨ s.mdl.Queued id ∨ s.mdl.Processing id

/-- The event that the delayer reads, or that the loader is about to end without a segment, is not
the last hope of an acknowledgment that is owed. For the delayer this concerns the resets without
a session only, which name a session all the same. -/
def AckCarried (s : AckState) : AckLabel → Prop
  | .event ev =>
      ¬ev.event.HasSession → s.owed ev.event.sessionID →
        s.mdl.Queued ev.event.sessionID ∨ s.mdl.Processing ev.event.sessionID
  | .mdl =>
      s.mdl.fsmState = .processEvent → mdlSilent s.mdl → s.owed s.mdl.sessionID →
        s.Pending s.mdl.sessionID ∨ s.mdl.Queued s.mdl.sessionID
  | .tick _ | .rxSarRep _ | .txSarRep _ => True

instance (s : AckState) : (l : AckLabel) → Decidable (AckCarried s l)
  | .event _ => inferInstanceAs (Decidable (_ → _ → _))
  | .mdl => inferInstanceAs (Decidable (_ → _ → _ → _))
  | .tick _ | .rxSarRep _ | .txSarRep _ => isTrue trivial

section Steps

variable {s : AckState}

lemma queued_pushEvents {m : MdlState} {evs : List ExtendedEvent} {id : SessionId} :
    (m.pushEvents evs).Queued id ↔ m.Queued id ∨ ∃ e ∈ evs, e.event.BelongsTo id := by
  simp [MdlState.Queued, MdlState.pushEvents, or_and_right, exists_or]

lemma processing_pushEvents {m : MdlState} {evs : List ExtendedEvent} {id : SessionId} :
    (m.pushEvents evs).Processing id ↔ m.Processing id := Iff.rfl

/-- An `ACK_EVENT` starts the delay of its session, or lets it run. -/
lemma ackKept_ackEvent (hs : AckKept s) {ev : ExtendedEvent} (hev : ev.event.type = .ack) :
    AckKept (ackNext s (.event ev)) := by
  intro id howed
  simp only [ackNext, akdEvent, if_pos hev] at howed ⊢
  by_cases hid : id = ev.event.sessionID
  · subst hid
    refine .inl ?_
    simp only [AckState.Pending, Function.update_self]
    exact AckEntry.ack_delay_ne_zero _
  · rw [Function.update_of_ne hid] at howed
    have hkept := hs id howed
    simpa [AckState.Pending, Function.update_of_ne hid, MdlState.Queued, MdlState.Processing,
      MdlState.pushEvents] using hkept

/-- Another event takes over from the delay of its session. -/
lemma ackKept_otherEvent (hs : AckKept s) {ev : ExtendedEvent} (hev : ev.event.type ≠ .ack) :
    AckKept (ackNext s (.event ev)) ↔ AckCarried s (.event ev) := by
  have hnext : ackNext s (.event ev) =
      { akd := { s.akd with
          ackTable := Function.update s.akd.ackTable ev.event.sessionID ⟨0, 0⟩ }
        mdl := s.mdl.pushEvents [ev]
        owed := s.owed } := by
    simp only [ackNext, akdEvent, if_neg hev]
  have hqueued (id : SessionId) :
      (s.mdl.pushEvents [ev]).Queued id ↔ s.mdl.Queued id ∨ ev.event.BelongsTo id := by
    simp [queued_pushEvents]
  rw [hnext]
  constructor
  · intro h hsession howed
    obtain hpending | hq | hp := h ev.event.sessionID howed
    · simp [AckState.Pending] at hpending
    · rw [hqueued] at hq
      exact .inl (hq.resolve_right fun hb => hsession hb.2)
    · exact .inr hp
  · intro h id howed
    rw [hqueued]
    by_cases hid : ev.event.sessionID = id
    · subst hid
      by_cases hsession : ev.event.HasSession
      · exact .inr (.inl (.inr ⟨rfl, hsession⟩))
      · obtain hq | hp := h hsession howed
        · exact .inr (.inl (.inl hq))
        · exact .inr (.inr hp)
    · obtain hpending | hq | hp := hs id howed
      · refine .inl ?_
        simp only [AckState.Pending, Function.update_of_ne (Ne.symm hid)]
        exact hpending
      · exact .inr (.inl (.inl hq))
      · exact .inr (.inr hp)

/-- A delay that runs out turns into an event of its session. -/
lemma ackKept_tick (hs : AckKept s) (full : Bool) : AckKept (ackNext s (.tick full)) := by
  intro id howed
  by_cases htick : (s.akd.ackTable s.akd.akdPtr).delay > 0 ∧ ¬full
  · simp only [ackNext, akdTick, if_pos htick] at howed ⊢
    obtain hpending | hq | hp := hs id howed
    · by_cases hid : id = s.akd.akdPtr
      · subst hid
        by_cases hone : (s.akd.ackTable s.akd.akdPtr).delay = 1
        · refine .inr (.inl ?_)
          rw [if_pos hone, queued_pushEvents]
          exact .inr ⟨_, List.mem_singleton_self _, rfl, fun h => by cases h⟩
        · refine .inl ?_
          simp only [AckState.Pending, Function.update_self]
          intro hzero
          exact hone (by bv_omega)
      · refine .inl ?_
        simp only [AckState.Pending, Function.update_of_ne hid]
        exact hpending
    · exact .inr (.inl (queued_pushEvents.mpr (.inl hq)))
    · exact .inr (.inr hp)
  · simp only [ackNext, akdTick, if_neg htick] at howed ⊢
    obtain hpending | hq | hp := hs id howed
    · exact .inl hpending
    · exact .inr (.inl (queued_pushEvents.mpr (.inl hq)))
    · exact .inr (.inr hp)

/-- A silent call is one of a session. -/
lemma hasSession_of_mdlSilent {m : MdlState} (h : mdlSilent m = true) :
    m.curEvent.event.HasSession := by
  intro htype
  simp [mdlSilent, htype] at h

/-- A call of the loader that waits for an event: the event goes on to be processed. -/
lemma ackKept_wait (hs : AckKept s) (hfsm : s.mdl.fsmState = .waitEvent) :
    AckKept (ackNext s .mdl) := by
  have hacks (id : SessionId) : mdlAcks (mdlWaitEvent s.mdl).2 id = false := by
    rw [mdlWaitEvent]
    split
    · simp only [mdlQueries]
      split <;> rfl
    · rfl
  intro id howed
  simp only [ackNext, pMetaDataLoader, hfsm] at howed ⊢
  rw [hacks, Bool.not_false, Bool.and_true] at howed
  obtain hpending | hq | hp := hs id howed
  · exact .inl hpending
  · obtain ⟨e, he, hb⟩ := hq
    cases hevents : s.mdl.siEvent with
    | nil => rw [hevents] at he; cases he
    | cons e' es =>
        rw [hevents] at he
        simp only [mdlWaitEvent, hevents]
        obtain rfl | he := List.mem_cons.mp he
        · exact .inr (.inr ⟨rfl, hb⟩)
        · exact .inr (.inl ⟨e, he, hb⟩)
  · rw [MdlState.Processing, hfsm] at hp
    cases hp.1

/-- A call of the loader that processes an event. -/
lemma ackKept_mdl (hs : AckKept s) : AckKept (ackNext s .mdl) ↔ AckCarried s .mdl := by
  cases hfsm : s.mdl.fsmState with
  | waitEvent =>
      refine iff_of_true (ackKept_wait hs hfsm) fun h => ?_
      rw [hfsm] at h
      cases h
  | processEvent =>
      obtain ⟨hq, hb⟩ := mdlProcessEvent_frame s.mdl
      have hnext : ackNext s .mdl =
          { s with
            mdl := (mdlProcessEvent s.mdl).1
            owed := fun id => s.owed id && !mdlAcks (mdlProcessEvent s.mdl).2 id } := by
        simp only [ackNext, pMetaDataLoader, hfsm]
      have hqueued (id : SessionId) : (mdlProcessEvent s.mdl).1.Queued id ↔ s.mdl.Queued id := by
        rw [MdlState.Queued, MdlState.Queued, hq]
      rw [hnext]
      obtain ⟨hsilent, hacks⟩ | ⟨hsilent, hacks, hstate⟩ | ⟨hsilent, hacks, hstate⟩ :=
        mdlProcessEvent_turn hfsm
      · -- the acknowledgment of the session is sent, and the other sessions keep their hopes
        refine iff_of_true (fun id howed => ?_) fun _ h => ?_
        · obtain ⟨howed, hnot⟩ := Bool.and_eq_true_iff.mp howed
          have hid : s.mdl.sessionID ≠ id := fun h => by
            rw [(hacks id).mpr h] at hnot
            cases hnot
          obtain hpending | hqd | hp := hs id howed
          · exact .inl hpending
          · exact .inr (.inl ((hqueued id).mpr hqd))
          · exact absurd hp.2.1 hid
        · rw [hsilent] at h
          cases h
      · refine iff_of_true (fun id howed => ?_) fun _ h => ?_
        · obtain hpending | hqd | hp := hs id (Bool.and_eq_true_iff.mp howed).1
          · exact .inl hpending
          · exact .inr (.inl ((hqueued id).mpr hqd))
          · exact .inr (.inr ⟨hstate, (hb id).mpr hp.2⟩)
        · rw [hsilent] at h
          cases h
      · have howed' (id : SessionId) :
            (s.owed id && !mdlAcks (mdlProcessEvent s.mdl).2 id) = s.owed id := by
          rw [hacks, Bool.not_false, Bool.and_true]
        constructor
        · intro h _ _ howed
          obtain hpending | hqd | hp := h s.mdl.sessionID ((howed' _).trans howed)
          · exact .inl hpending
          · exact .inr ((hqueued _).mp hqd)
          · rw [MdlState.Processing, hstate] at hp
            cases hp.1
        · intro h id howed
          dsimp only at howed
          rw [howed'] at howed
          have hlast (hp : s.mdl.Processing id) : s.Pending id ∨ s.mdl.Queued id := by
            obtain ⟨-, rfl, hsession⟩ := hp
            exact h hfsm (hsilent.resolve_right fun hn => hn hsession) howed
          obtain hpending | hqd | hp := hs id howed
          · exact .inl hpending
          · exact .inr (.inl ((hqueued id).mpr hqd))
          · obtain hpending | hqd := hlast hp
            · exact .inl hpending
            · exact .inr (.inl ((hqueued id).mpr hqd))

/-- **One step** loses no acknowledgment exactly when it meets the condition. -/
theorem ackKept_next_iff (hs : AckKept s) (l : AckLabel) :
    AckKept (ackNext s l) ↔ AckCarried s l := by
  cases l with
  | event ev =>
      by_cases hev : ev.event.type = .ack
      · refine iff_of_true (ackKept_ackEvent hs hev) fun hsession => ?_
        exact absurd (fun h => by rw [hev] at h; cases h) hsession
      · exact ackKept_otherEvent hs hev
  | tick full => exact iff_of_true (ackKept_tick hs full) trivial
  | rxSarRep rep => exact iff_of_true hs trivial
  | txSarRep rep => exact iff_of_true hs trivial
  | mdl => exact ackKept_mdl hs

end Steps

/-- **Delayed acknowledgments**: along a run no acknowledgment is lost if and only if, in every
step, the delayer reads no reset without a session, and the loader ends no event without a
segment, that would be the last hope of an acknowledgment. -/
theorem ackDelay_keeps_iff {s : AckState} (hs : AckKept s) (ls : List AckLabel) :
    Clocked.Along ackNext (fun s l => AckKept (ackNext s l)) s ls ↔
      Clocked.Along ackNext AckCarried s ls :=
  Clocked.along_iff (fun _ l h => ackKept_next_iff h l)
    (fun _ l h hC => (ackKept_next_iff h l).mpr hC) hs

/-! ### A lost acknowledgment -/

/-- Nothing is owed, and no event is under way. -/
def ackStart : AckState := { mdl := { curEvent := ackTimeEvent 0 } }

/-- An `ACK_EVENT` of a session, and another event that the loader processes with the entries of
empty tables. -/
def ackThen (ack other : Event) : List AckLabel :=
  let tuple : SocketPair := ⟨⟨0, 0⟩, ⟨0, 0⟩⟩
  [.event ⟨ack, tuple⟩, .event ⟨other, tuple⟩, .mdl, .rxSarRep {}, .txSarRep {}, .mdl]

lemma ackStart_kept : AckKept ackStart := fun _ h => by cases h

/-- A transmission with nothing to send cancels the acknowledgment of its session, and a reset
for a segment without a session the one of session 0. -/
theorem ackDelay_loses :
    ¬AckKept (Clocked.run ackNext ackStart
      (ackThen { type := .ack, sessionID := 3 } { type := .tx, sessionID := 3 })) ∧
    ¬AckKept (Clocked.run ackNext ackStart
      (ackThen { type := .ack, sessionID := 0 } (rstEventNoSession 7))) := by
  constructor
  · intro h
    exact absurd (h 3 (by decide)) (by decide)
  · intro h
    exact absurd (h 0 (by decide)) (by decide)

/-- A FIN that is sent carries the acknowledgment. -/
theorem ackDelay_keeps_fin :
    Clocked.Along ackNext (fun s l => AckKept (ackNext s l)) ackStart
      (ackThen { type := .ack, sessionID := 3 } { type := .fin, sessionID := 3 }) :=
  (ackDelay_keeps_iff ackStart_kept _).mpr (by decide)

end CloudFpga.Toe
