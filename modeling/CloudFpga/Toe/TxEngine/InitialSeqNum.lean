import CloudFpga.Toe.TxSystem

/-!
The initial sequence number of a connection, from the event that asks for it to the Tx SAR table.

* `MdlIsn`: `pMetaDataLoader` chooses a number for an event that asks for one, sends the SYN with
  it and initialises the table behind it; for other events it does neither.
* `TxSystem.AwaitsIsn`: an event that asks for a number has not been processed yet.
* `TxSystem.initUnak`: the `unak` of the session once all initialisations are written.
* `initUnak_table`, `initUnak_of_synSent`, `loaderCall_isn`: what the steps of the system do to
  them.
-/

namespace CloudFpga.Toe

open Foundation

/-! ### The choice of the number -/

/-- What a call that processes an event does about initial sequence numbers. -/
inductive MdlIsn (s : MdlState) (r : MdlState × MdlOut) : Prop
  | waits (h : r = (s, {}))
  | chooses {m : TXeMeta} (hisn : s.curEvent.event.choosesIsn = true) (hsyn : m.syn = true)
      (hmeta : r.2.txeMeta = [m]) (hqry : r.2.txSarQry = [.wr s.sessionID (m.seqNumb + 1) true])
      (hst : r.1.fsmState = .waitEvent)
  | keeps (hisn : s.curEvent.event.choosesIsn = false)
      (hqry : ∀ q ∈ r.2.txSarQry, q.isInit = false)
      (hev : r.1.curEvent.event.choosesIsn = false)

section Loader

variable {s t : MdlState}

lemma choosesIsn_of_type {e : Event} (h : e.type ≠ .syn ∧ e.type ≠ .synAck) :
    e.choosesIsn = false := by
  simp [Event.choosesIsn, h]

lemma choosesIsn_of_rtCount {e : Event} (h : e.rtCount ≠ 0) : e.choosesIsn = false :=
  decide_eq_false fun hisn => h hisn.2

lemma mdlTx_isn (htype : s.curEvent.event.type = .tx) : MdlIsn s (mdlTx s) := by
  have hisn : s.curEvent.event.choosesIsn = false := choosesIsn_of_type (by simp [htype])
  cases hload : mdlLoadSar s with
  | none => exact .waits (mdlTx_of_none hload)
  | some t =>
      rw [mdlTx_of_some hload]
      have hev : t.curEvent = s.curEvent := (mdlLoadSar_frame hload).1
      refine .keeps hisn ?_ ?_
      · rw [mdlTxSegment, mdlTxSend, mdlSend]
        split <;> split_ifs <;> simp [TXeTxSarQuery.isInit, TXeTxSarQuery.wr]
      · rw [mdlTxSegment]
        split
        · exact hev ▸ hisn
        · exact choosesIsn_of_type (by simp [MdlState.setFin])
        · exact hev ▸ hisn

lemma mdlRt_isn (htype : s.curEvent.event.type = .rt) : MdlIsn s (mdlRt s) := by
  have hisn : s.curEvent.event.choosesIsn = false := choosesIsn_of_type (by simp [htype])
  cases hload : mdlLoadSar s with
  | none => exact .waits (mdlRt_of_none hload)
  | some t =>
      rw [mdlRt_of_some hload]
      have hev : t.curEvent = s.curEvent := (mdlLoadSar_frame hload).1
      refine .keeps hisn ?_ ?_
      · rw [mdlRtSegment]
        dsimp only
        split_ifs <;> simp [TXeTxSarQuery.isInit, TXeTxSarQuery.rt]
      · rw [mdlRtSegment]
        dsimp only
        split_ifs
        · exact hev ▸ hisn
        · exact hev ▸ hisn
        · exact choosesIsn_of_type (by simp [MdlState.setFin])
        · exact hev ▸ hisn

lemma mdlFin_isn (htype : s.curEvent.event.type = .fin) : MdlIsn s (mdlFin s) := by
  have hisn : s.curEvent.event.choosesIsn = false := choosesIsn_of_type (by simp [htype])
  rw [mdlFin]
  cases hload : mdlLoadSar s with
  | none => exact .waits rfl
  | some t =>
      have hev : t.curEvent = s.curEvent := (mdlLoadSar_frame hload).1
      refine .keeps hisn ?_ (hev ▸ hisn)
      simp only [mdlFinSegment, finQry]
      split_ifs <;> simp [TXeTxSarQuery.isInit, TXeTxSarQuery.wr]

lemma mdlSyn_isn (htype : s.curEvent.event.type = .syn) : MdlIsn s (mdlSyn s) := by
  rw [mdlSyn]
  split
  · next hrt =>
      have hisn : s.curEvent.event.choosesIsn = false := choosesIsn_of_rtCount hrt
      split
      · exact .keeps hisn (by simp [mdlSynSegment]) hisn
      · exact .waits rfl
  · next hrt =>
      have hisn : s.curEvent.event.choosesIsn = true := by
        simp [Event.choosesIsn, htype, not_not.mp hrt]
      exact .chooses hisn rfl rfl rfl rfl

lemma mdlSynAck_isn (htype : s.curEvent.event.type = .synAck) : MdlIsn s (mdlSynAck s) := by
  rw [mdlSynAck]
  cases hload : mdlReadSar s with
  | none => exact .waits rfl
  | some t =>
      have hev : t.curEvent = s.curEvent := (mdlReadSar_frame hload).1
      have hid : t.sessionID = s.sessionID := by rw [MdlState.sessionID, MdlState.sessionID, hev]
      dsimp only
      split
      · next hrt =>
          rw [hev] at hrt
          have hisn : s.curEvent.event.choosesIsn = false := choosesIsn_of_rtCount hrt
          exact .keeps hisn (by simp [mdlSynAckSegment]) (hev ▸ hisn)
      · next hrt =>
          rw [hev] at hrt
          have hisn : s.curEvent.event.choosesIsn = true := by
            simp [Event.choosesIsn, htype, not_not.mp hrt]
          refine .chooses hisn rfl rfl ?_ rfl
          rw [← hid]
          rfl

/-- **The number** is chosen for the events that ask for it only. -/
theorem mdlProcessEvent_isn (s : MdlState) : MdlIsn s (mdlProcessEvent s) := by
  rw [mdlProcessEvent]
  cases htype : s.curEvent.event.type with
  | tx => exact mdlTx_isn htype
  | rt => exact mdlRt_isn htype
  | fin => exact mdlFin_isn htype
  | syn => exact mdlSyn_isn htype
  | synAck => exact mdlSynAck_isn htype
  | ack | ackNodelay =>
      have hisn : s.curEvent.event.choosesIsn = false := choosesIsn_of_type (by simp [htype])
      dsimp only [mdlAck]
      cases hload : mdlReadSar s with
      | none => exact .waits rfl
      | some t =>
          refine .keeps hisn (by simp [mdlSendHeader]) ?_
          exact (mdlReadSar_frame hload).1 ▸ hisn
  | rst =>
      have hisn : s.curEvent.event.choosesIsn = false := choosesIsn_of_type (by simp [htype])
      dsimp only [mdlRst]
      split
      · exact .keeps hisn (by simp) hisn
      · split
        · exact .keeps hisn (by simp [mdlSendHeader]) hisn
        · exact .waits rfl

/-- The number that a SYN is acknowledged with, when the next call chooses it. -/
def mdlSynSent (s : MdlState) : Option TxAckNum :=
  if s.fsmState = .processEvent ∧ s.curEvent.event.choosesIsn then
    ((pMetaDataLoader s).2.txeMeta.find? (·.syn)).map (·.seqNumb + 1)
  else none

end Loader

/-! ### The number on its way to the table -/

/-- An event that asks for a number for the session has not been processed yet. -/
def MdlState.AwaitsIsn (s : MdlState) (id : SessionId) : Prop :=
  (∃ e ∈ s.siEvent, e.event.choosesIsn = true ∧ e.event.sessionID = id) ∨
    s.fsmState = .processEvent ∧ s.curEvent.event.choosesIsn = true ∧ s.sessionID = id

instance (s : MdlState) (id : SessionId) : Decidable (s.AwaitsIsn id) :=
  inferInstanceAs (Decidable ((∃ e ∈ _, _ ∧ _) ∨ _ ∧ _ ∧ _))

/-- The query initialises the session. -/
def TXeTxSarQuery.initialises (q : TXeTxSarQuery) (id : SessionId) : Bool :=
  q.isInit ∧ q.sessionID = id

/-- `unak` after the initialisations of the session that wait. -/
def unakAfter (id : SessionId) (unak : TxAckNum) (qs : List TXeTxSarQuery) : TxAckNum :=
  qs.foldl (fun u q => if q.initialises id then q.notAckd else u) unak

/-- The `unak` of the session once all initialisations are written. -/
def TxSystem.initUnak (s : TxSystem) (id : SessionId) : TxAckNum :=
  unakAfter id (s.tst.table id).unak s.tst.siTXeTxSarQry

/-- The next query of the Tx engine does not move `unak` for the session, or an initialisation
follows. -/
def TxSystem.KeepsUnak (s : TxSystem) (id : SessionId) : Prop :=
  ∀ q ∈ s.tst.siTXeTxSarQry.head?, q.write = true → q.isRtQuery = false → q.init = false →
    q.sessionID = id → q.notAckd = (s.tst.table id).unak ∨
      ∃ q' ∈ s.tst.siTXeTxSarQry.tail, q'.initialises id = true

instance (s : TxSystem) (id : SessionId) : Decidable (s.KeepsUnak id) :=
  inferInstanceAs (Decidable (∀ q ∈ _, _ → _ → _ → _ → _))

section Unak

variable {id : SessionId} {u u' : TxAckNum} {qs : List TXeTxSarQuery}

lemma unakAfter_append (rs : List TXeTxSarQuery) :
    unakAfter id u (qs ++ rs) = unakAfter id (unakAfter id u qs) rs := List.foldl_append

lemma unakAfter_of_none (h : ∀ q ∈ qs, q.initialises id = false) : unakAfter id u qs = u := by
  induction qs generalizing u with
  | nil => rfl
  | cons q qs ih =>
      rw [unakAfter, List.foldl_cons, h q List.mem_cons_self]
      exact ih fun q' hq' => h q' (List.mem_cons_of_mem q hq')

/-- An initialisation makes the earlier value irrelevant. -/
lemma unakAfter_congr (h : ∃ q ∈ qs, q.initialises id = true) :
    unakAfter id u qs = unakAfter id u' qs := by
  induction qs generalizing u u' with
  | nil => simp at h
  | cons q qs ih =>
      rw [unakAfter, unakAfter, List.foldl_cons, List.foldl_cons]
      by_cases hq : q.initialises id = true
      · rw [if_pos hq, if_pos hq]
      · obtain ⟨q', hmem, hq'⟩ := h
        obtain rfl | hmem := List.mem_cons.mp hmem
        · exact absurd hq' hq
        · exact ih ⟨q', hmem, hq'⟩

lemma unakAfter_cons (q : TXeTxSarQuery) :
    unakAfter id u (q :: qs) = unakAfter id (if q.initialises id then q.notAckd else u) qs := rfl

lemma unakAfter_cons_of_not {q : TXeTxSarQuery} (h : q.initialises id = false) :
    unakAfter id u (q :: qs) = unakAfter id u qs := by
  rw [unakAfter_cons, h]
  rfl

/-- A write of the Tx engine to the table. -/
lemma unakAfter_write {q : TXeTxSarQuery} {table : SessionId → TxSarEntry} (hw : q.write = true)
    (h : q.isRtQuery = false → q.init = false → q.sessionID = id →
      q.notAckd = (table id).unak ∨ ∃ q' ∈ qs, q'.initialises id = true) :
    unakAfter id (Function.update table q.sessionID
      (txSarWriteTXe (table q.sessionID) q) id).unak qs =
      unakAfter id (table id).unak (q :: qs) := by
  by_cases hid : q.sessionID = id
  · subst hid
    rw [Function.update_self]
    cases hrt : q.isRtQuery with
    | true =>
        rw [unakAfter_cons_of_not (by simp [TXeTxSarQuery.initialises, TXeTxSarQuery.isInit, hrt])]
        simp [txSarWriteTXe, hrt]
    | false =>
        have hunak : (txSarWriteTXe (table q.sessionID) q).unak = q.notAckd := by
          simp [txSarWriteTXe, hrt]
        rw [hunak]
        cases hinit : q.init with
        | true =>
            rw [unakAfter_cons, if_pos]
            simp [TXeTxSarQuery.initialises, TXeTxSarQuery.isInit, hw, hrt, hinit]
        | false =>
            rw [unakAfter_cons_of_not
              (by simp [TXeTxSarQuery.initialises, TXeTxSarQuery.isInit, hinit])]
            obtain heq | hlater := h hrt hinit rfl
            · rw [heq]
            · exact unakAfter_congr hlater
  · rw [Function.update_of_ne (Ne.symm hid),
      unakAfter_cons_of_not (by simp [TXeTxSarQuery.initialises, hid])]

/-- An entry whose `unak` is kept. -/
lemma unak_update {table : SessionId → TxSarEntry} {id' : SessionId} {e : TxSarEntry}
    (h : e.unak = (table id').unak) : (Function.update table id' e id).unak = (table id).unak := by
  by_cases hid : id = id'
  · rw [hid, Function.update_self, h]
  · rw [Function.update_of_ne hid]

/-- A call of the table. -/
lemma initUnak_table {s : TxSystem} (h : s.KeepsUnak id) :
    (tableCall s).initUnak id = s.initUnak id := by
  have hstep := tableCall_cases s
  generalize tableCall s = s' at hstep ⊢
  cases hstep with
  | writeTXe hqs hw =>
      rw [TxSystem.initUnak, TxSystem.initUnak, hqs]
      refine unakAfter_write hw fun hrt hinit hid => ?_
      rw [TxSystem.KeepsUnak, hqs] at h
      exact h _ rfl hw hrt hinit hid
  | readTXe hqs hw =>
      rw [TxSystem.initUnak, TxSystem.initUnak, hqs, unakAfter_cons_of_not]
      simp [TXeTxSarQuery.initialises, TXeTxSarQuery.isInit, hw]
  | push hps =>
      rw [TxSystem.initUnak, TxSystem.initUnak]
      exact congrArg (unakAfter id · _) (unak_update rfl)
  | writeRXe hqs hw =>
      rw [TxSystem.initUnak, TxSystem.initUnak]
      exact congrArg (unakAfter id · _) (unak_update rfl)
  | readRXe hqs hw => rfl
  | idle => rfl

end Unak

/-! ### A call of the loader -/

section Call

variable {s : TxSystem} {id : SessionId}

lemma initUnak_loaderCall (s : TxSystem) (id : SessionId) :
    (loaderCall s).initUnak id =
      unakAfter id (s.initUnak id) (pMetaDataLoader s.mdl).2.txSarQry :=
  unakAfter_append _

/-- A call that chooses a number. -/
lemma mdlSynSent_spec {n : TxAckNum} (h : mdlSynSent s.mdl = some n) :
    (pMetaDataLoader s.mdl).2.txSarQry = [.wr s.mdl.sessionID n true] ∧
      (pMetaDataLoader s.mdl).1.fsmState = .waitEvent ∧
      (pMetaDataLoader s.mdl).1.siEvent = s.mdl.siEvent := by
  rw [mdlSynSent] at h
  split at h
  · next hisn =>
      have hcall := pMetaDataLoader_processEvent hisn.1
      rw [hcall] at h ⊢
      cases mdlProcessEvent_isn s.mdl with
      | waits hwait => rw [hwait] at h; cases h
      | keeps hkeep => rw [hkeep] at hisn; cases hisn.2
      | @chooses m _ hsyn hmeta hqry hst =>
          rw [hmeta] at h
          simp only [List.find?_cons, hsyn, Option.map_some, Option.some.injEq] at h
          rw [← h]
          exact ⟨hqry, hst, (mdlProcessEvent_frame s.mdl).siEvent⟩
  · cases h

/-- The session that the number is chosen for. -/
lemma initUnak_of_synSent {n : TxAckNum} (h : mdlSynSent s.mdl = some n) :
    (loaderCall s).initUnak s.mdl.sessionID = n := by
  rw [initUnak_loaderCall, (mdlSynSent_spec h).1, unakAfter_cons, if_pos]
  · rfl
  · simp [TXeTxSarQuery.initialises, TXeTxSarQuery.isInit, TXeTxSarQuery.wr]

lemma mdlSynSent_eq_none_iff {m : TXeMeta} (hfsm : s.mdl.fsmState = .processEvent)
    (hisn : s.mdl.curEvent.event.choosesIsn = true) (hsyn : m.syn = true)
    (hmeta : (mdlProcessEvent s.mdl).2.txeMeta = [m]) : mdlSynSent s.mdl ≠ none := by
  rw [mdlSynSent, if_pos ⟨hfsm, hisn⟩, pMetaDataLoader_processEvent hfsm, hmeta]
  simp [hsyn]

/-- A call that waits for an event. -/
lemma loaderCall_isn_wait (hfsm : s.mdl.fsmState = .waitEvent) :
    (loaderCall s).initUnak id = s.initUnak id ∧
      ((loaderCall s).mdl.AwaitsIsn id ↔ s.mdl.AwaitsIsn id) := by
  have hwait : pMetaDataLoader s.mdl = mdlWaitEvent s.mdl := by simp only [pMetaDataLoader, hfsm]
  rw [initUnak_loaderCall, hwait]
  have hmdl : (loaderCall s).mdl = (mdlWaitEvent s.mdl).1 := congrArg Prod.fst hwait
  rw [hmdl, mdlWaitEvent]
  cases hev : s.mdl.siEvent with
  | nil =>
      refine ⟨rfl, ?_⟩
      simp [MdlState.AwaitsIsn, hev, hfsm]
  | cons e es =>
      refine ⟨unakAfter_of_none fun q hq => ?_, ?_⟩
      · obtain hnil | hrd := mdlQueries_eq e.event
        · rw [hnil] at hq
          cases hq
        · rw [hrd] at hq
          rw [List.mem_singleton.mp hq]
          simp [TXeTxSarQuery.initialises, TXeTxSarQuery.isInit, TXeTxSarQuery.rd]
      · simp only [MdlState.AwaitsIsn, MdlState.sessionID, hev, hfsm, List.mem_cons,
          exists_eq_or_imp, reduceCtorEq, false_and, or_false, true_and]
        exact or_comm

/-- A call keeps the numbers that it does not choose. -/
lemma loaderCall_isn (h : mdlSynSent s.mdl = none ∨ id ≠ s.mdl.sessionID) :
    (loaderCall s).initUnak id = s.initUnak id ∧
      ((loaderCall s).mdl.AwaitsIsn id ↔ s.mdl.AwaitsIsn id) := by
  cases hfsm : s.mdl.fsmState with
  | waitEvent => exact loaderCall_isn_wait hfsm
  | processEvent =>
      have hcall := pMetaDataLoader_processEvent hfsm
      have hmdl : (loaderCall s).mdl = (mdlProcessEvent s.mdl).1 := congrArg Prod.fst hcall
      have hqueue := (mdlProcessEvent_frame s.mdl).siEvent
      rw [initUnak_loaderCall, hcall, hmdl]
      cases mdlProcessEvent_isn s.mdl with
      | waits hwait =>
          rw [hwait]
          exact ⟨rfl, Iff.rfl⟩
      | keeps hisn hqry hev =>
          refine ⟨unakAfter_of_none fun q hq => ?_, ?_⟩
          · simp [TXeTxSarQuery.initialises, hqry q hq]
          · simp [MdlState.AwaitsIsn, hqueue, hisn, hev]
      | chooses hisn hsyn hmeta hqry hst =>
          have hid := h.resolve_left (mdlSynSent_eq_none_iff hfsm hisn hsyn hmeta)
          rw [hqry]
          refine ⟨unakAfter_of_none fun q hq => ?_, ?_⟩
          · rw [List.mem_singleton.mp hq]
            simp [TXeTxSarQuery.initialises, TXeTxSarQuery.wr, Ne.symm hid]
          · simp [MdlState.AwaitsIsn, hqueue, hst, Ne.symm hid]

end Call

end CloudFpga.Toe
