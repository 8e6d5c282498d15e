import CloudFpga.Toe.RxEngine.FiniteStateMachine

/-!
How `pFiniteStateMachine` moves the state of a session.

* `fsmState`: the state that a transition writes back.
* `FsmMove`: the moves; `fsmState_move`: every transition makes one of them.
* `fsmTransition_notifies`: in which states payload is notified.
* `fsmTransition_opens`: which events choose an initial sequence number.
-/

namespace CloudFpga.Toe

/-- The flags are SYN and ACK. -/
def synAckOnly (m : RXeFsmMeta) : Bool := m.ack ∧ m.syn ∧ ¬m.fin ∧ ¬m.rst

/-- The segment opens the connection: it acknowledges `prevUnak` in a state that waits for it. -/
def fsmEstablishes (m : RXeFsmMeta) (tcpState : TcpState) (txSar : RXeTxSarReply) : Bool :=
  m.ackNumb = txSar.prevUnak ∧
    (tcpState = .synReceived ∧ ackOnly m ∨ tcpState = .synSent ∧ synAckOnly m)

/-- The moves of the state of a session. -/
inductive FsmMove (m : RXeFsmMeta) (txSar : RXeTxSarReply) : TcpState → TcpState → Prop
  | keep (st : TcpState) : FsmMove m txSar st st
  | close (st : TcpState) : FsmMove m txSar st .closed
  | opens {st : TcpState} (h : fsmResets m st = true) : FsmMove m txSar st .synReceived
  | establish {st : TcpState} (h : fsmEstablishes m st txSar = true) :
      FsmMove m txSar st .established
  | lastAck : FsmMove m txSar .established .lastAck
  | closing {st : TcpState} (h : st = .finWait1 ∨ st = .finWait2) : FsmMove m txSar st .closing
  | timeWait {st : TcpState} (h : st = .finWait1 ∨ st = .finWait2 ∨ st = .closing) :
      FsmMove m txSar st .timeWait

/-- The state that a transition writes back. -/
def fsmState (m : RXeFsmMeta) (rxSar : RxSarReply) (txSar : RXeTxSarReply) (tcpState : TcpState) :
    TcpState :=
  (((fsmTransition m tcpState rxSar txSar).stateQry.head?).map (·.state)).getD tcpState

section Moves

variable (m : RXeFsmMeta) (tcpState : TcpState) (rxSar : RxSarReply) (txSar : RXeTxSarReply)

lemma fsmTransition_stateQry_eq :
    (fsmTransition m tcpState rxSar txSar).stateQry =
      [.wr m.sessionId (fsmState m rxSar txSar tcpState)] := by
  obtain ⟨st, h⟩ := fsmTransition_stateQry m tcpState rxSar txSar
  rw [fsmState, h]
  rfl

variable {m tcpState rxSar txSar}

lemma fsmState_eq {id : SessionId} {st : TcpState}
    (h : (fsmTransition m tcpState rxSar txSar).stateQry = [.wr id st]) :
    fsmState m rxSar txSar tcpState = st := by
  rw [fsmState, h]
  rfl

/-- The ACK branch. -/
lemma ackState_move (h : ackOnly m = true) : ∃ st,
    (ackState m tcpState txSar).stateQry = [.wr m.sessionId st] ∧ FsmMove m txSar tcpState st := by
  by_cases hack : m.ackNumb = txSar.prevUnak
  · simp only [ackState, if_pos hack]
    cases tcpState with
    | synReceived => exact ⟨.established, rfl, .establish (by simp [fsmEstablishes, hack, h])⟩
    | closing => exact ⟨.timeWait, rfl, .timeWait (.inr (.inr rfl))⟩
    | lastAck => exact ⟨.closed, rfl, .close _⟩
    | closed | synSent | established | finWait1 | finWait2 | timeWait => exact ⟨_, rfl, .keep _⟩
  · simp only [ackState, if_neg hack]
    exact ⟨_, rfl, .keep _⟩

/-- The FIN+ACK branch. -/
lemma finState_move (h : finAccepted m tcpState rxSar = true) : ∃ st,
    (finState m tcpState txSar).stateQry = [.wr m.sessionId st] ∧ FsmMove m txSar tcpState st := by
  rw [finState]
  split
  · next hst =>
      subst hst
      exact ⟨_, rfl, .lastAck⟩
  · next hst =>
      have hwait : tcpState = .finWait1 ∨ tcpState = .finWait2 := by
        simp only [finAccepted, decide_eq_true_eq] at h
        exact h.1.resolve_left hst
      split
      · exact ⟨_, rfl, .timeWait (hwait.imp_right .inl)⟩
      · exact ⟨_, rfl, .closing hwait⟩

/-- **Every transition** makes one of the moves. -/
theorem fsmState_move :
    FsmMove m txSar tcpState (fsmState m rxSar txSar tcpState) := by
  have of_wr {st : TcpState} (hmove : FsmMove m txSar tcpState st)
      (h : (fsmTransition m tcpState rxSar txSar).stateQry = [.wr m.sessionId st]) :
      FsmMove m txSar tcpState (fsmState m rxSar txSar tcpState) := by
    rw [fsmState_eq h]
    exact hmove
  cases hr : m.rst <;> cases hf : m.fin <;> cases hs : m.syn <;> cases ha : m.ack
  all_goals simp only [fsmTransition, hr, hf, hs, ha] at of_wr
  case false.false.false.true =>
    rw [stateQry_fsmAck] at of_wr
    by_cases hacc : ackAccepted tcpState = true
    · obtain ⟨st, hst, hmove⟩ := @ackState_move m tcpState txSar (by simp [ackOnly, hr, hf, hs, ha])
      rw [if_pos hacc] at of_wr
      exact of_wr hmove hst
    · rw [if_neg hacc] at of_wr
      exact of_wr (.keep _) rfl
  case false.true.false.true =>
    rw [stateQry_fsmFinAck] at of_wr
    by_cases hacc : finAccepted m tcpState rxSar = true
    · obtain ⟨st, hst, hmove⟩ := @finState_move m tcpState rxSar txSar hacc
      rw [if_pos hacc] at of_wr
      exact of_wr hmove hst
    · rw [if_neg hacc] at of_wr
      exact of_wr (.keep _) rfl
  case false.false.true.false =>
    rw [fsmSyn] at of_wr
    by_cases hclosed : tcpState = .closed ∨ tcpState = .synSent
    · rw [if_pos hclosed] at of_wr
      exact of_wr (.opens (by simp [fsmResets, synOnly, hr, hf, hs, ha, hclosed])) rfl
    · rw [if_neg hclosed] at of_wr
      split at of_wr
      · split at of_wr
        · exact of_wr (.keep _) rfl
        · exact of_wr (.close _) rfl
      · exact of_wr (.keep _) rfl
  case false.false.true.true =>
    rw [fsmSynAck] at of_wr
    split at of_wr
    · next hsent =>
        exact of_wr (.establish (by
          simp [fsmEstablishes, synAckOnly, hr, hf, hs, ha, hsent])) rfl
    · split at of_wr
      · exact of_wr (.close _) rfl
      · exact of_wr (.keep _) rfl
  all_goals
    rw [fsmDefault] at of_wr
    split_ifs at of_wr
    all_goals first
      | exact of_wr (.keep _) rfl
      | exact of_wr (.close _) rfl

/-! ### Payload and events -/

/-- The states of a connection that is open or has been open. -/
def isSynchronized (tcpState : TcpState) : Bool :=
  match tcpState with
  | .established | .finWait1 | .finWait2 | .closing | .timeWait | .lastAck => true
  | .closed | .synSent | .synReceived => false

/-- **Payload** is notified in a synchronized state, or in `SYN_RECEIVED` by an ACK segment. -/
theorem fsmTransition_notifies {n : TcpAppNotif}
    (hn : n ∈ (fsmTransition m tcpState rxSar txSar).rxNotif) (hlen : n.tcpDatLen ≠ 0) :
    isSynchronized tcpState ∨ tcpState = .synReceived ∧ ackOnly m := by
  rw [← FsmOut.data_rxNotif] at hn
  cases hr : m.rst <;> cases hf : m.fin <;> cases hs : m.syn <;> cases ha : m.ack
  all_goals simp only [fsmTransition, hr, hf, hs, ha] at hn
  case false.false.false.true =>
    rw [data_fsmAck] at hn
    by_cases hacc : ackAccepted tcpState = true
    · have hack : ackOnly m = true := by simp [ackOnly, hr, hf, hs, ha]
      cases tcpState with
      | synReceived => exact .inr ⟨rfl, hack⟩
      | established | finWait1 | finWait2 | closing | timeWait | lastAck => exact .inl rfl
      | closed | synSent => cases hacc
    · rw [if_neg hacc] at hn
      cases hn
  case false.true.false.true =>
    rw [data_fsmFinAck] at hn
    by_cases hacc : finAccepted m tcpState rxSar = true
    · simp only [finAccepted, decide_eq_true_eq] at hacc
      obtain ⟨rfl | rfl | rfl, -⟩ := hacc
      · exact .inl rfl
      · exact .inl rfl
      · exact .inl rfl
    · rw [if_neg hacc] at hn
      cases hn
  case false.false.true.false =>
    rw [fsmSyn] at hn
    split_ifs at hn
    all_goals cases hn
  case false.false.true.true =>
    rw [fsmSynAck] at hn
    split_ifs at hn
    all_goals cases hn
  all_goals
    -- the notification that the connection was closed has no payload
    rw [fsmDefault] at hn
    split_ifs at hn
    all_goals first
      | (rw [List.mem_singleton.mp hn] at hlen
         exact absurd rfl hlen)
      | cases hn

/-- **The SYN branch** asks for a new initial sequence number when it resets the session. -/
lemma fsmTransition_event_of_resets (h : fsmResets m tcpState = true) :
    (fsmTransition m tcpState rxSar txSar).event =
      [{ type := .synAck, sessionID := m.sessionId }] := by
  simp only [fsmResets, synOnly, decide_eq_true_eq, Bool.not_eq_true] at h
  simp only [fsmTransition, h, fsmSyn, if_true]

/-- None of the events chooses an initial sequence number. -/
def KeepsIsn (out : FsmOut) : Prop := ∀ e ∈ out.event, e.choosesIsn = false

lemma KeepsIsn.append {a b : FsmOut} (ha : KeepsIsn a) (hb : KeepsIsn b) : KeepsIsn (a ++ b) := by
  intro e he
  rw [FsmOut.append_event, List.mem_append] at he
  exact he.elim (ha e) (hb e)

lemma KeepsIsn.of_nil {out : FsmOut} (h : out.event = []) : KeepsIsn out := by
  simp [KeepsIsn, h]

lemma KeepsIsn.of_singleton {out : FsmOut} {e : Event} (h : out.event = [e])
    (he : e.choosesIsn = false) : KeepsIsn out := by
  simpa [KeepsIsn, h] using he

lemma keepsIsn_fsmAck : KeepsIsn (fsmAck m tcpState rxSar txSar) := by
  rw [fsmAck]
  refine .append (.of_nil rfl) ?_
  split
  · refine .append (.of_nil rfl) (.append (.of_nil ?_) (.append ?_ (.of_nil ?_)))
    · rw [ackPayload]
      split
      · cases oooCase m rxSar <;> rfl
      · rfl
    · rw [ackEvent]
      split_ifs
      · exact .of_singleton rfl rfl
      · exact .of_singleton rfl rfl
      · exact .of_nil rfl
    · by_cases hack : m.ackNumb = txSar.prevUnak
      · simp only [ackState, if_pos hack]
        cases tcpState <;> rfl
      · simp only [ackState, if_neg hack]
  · exact .of_singleton rfl rfl

lemma keepsIsn_fsmFinAck : KeepsIsn (fsmFinAck m tcpState rxSar txSar) := by
  rw [fsmFinAck]
  refine .append (.of_nil rfl) ?_
  split
  · refine .append (.of_nil rfl) (.append (.of_nil ?_) ?_)
    · rw [finPayload]
      split_ifs <;> rfl
    · rw [finState]
      split_ifs
      · exact .of_singleton rfl rfl
      · exact .append (.of_nil rfl) (.of_singleton rfl rfl)
      · exact .append (.of_nil rfl) (.of_singleton rfl rfl)
  · exact .of_singleton rfl rfl

lemma keepsIsn_fsmSynAck : KeepsIsn (fsmSynAck m tcpState txSar) := by
  rw [fsmSynAck]
  refine .append (.of_nil rfl) ?_
  split_ifs
  · exact .of_singleton rfl rfl
  · exact .of_singleton rfl rfl
  · exact .of_singleton rfl rfl

lemma keepsIsn_fsmDefault : KeepsIsn (fsmDefault m tcpState rxSar txSar) := by
  rw [fsmDefault]
  split_ifs <;> exact .of_nil rfl

/-- No other segment does: a SYN that is repeated asks for the number that was chosen. -/
lemma keepsIsn_fsmTransition (h : fsmResets m tcpState = false) :
    KeepsIsn (fsmTransition m tcpState rxSar txSar) := by
  rw [fsmTransition]
  split
  · exact keepsIsn_fsmAck
  · next hr hf hs ha =>
      rw [fsmSyn]
      split
      · next hst => simp [fsmResets, synOnly, hr, hf, hs, ha, hst] at h
      · split_ifs
        · exact .of_singleton rfl rfl
        · exact .of_singleton rfl rfl
        · exact .of_singleton rfl rfl
  · exact keepsIsn_fsmSynAck
  · exact keepsIsn_fsmFinAck
  · exact keepsIsn_fsmDefault

end Moves

end CloudFpga.Toe
