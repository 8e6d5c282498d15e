import CloudFpga.Toe.TxSystem

/-!
What a call of `pMetaDataLoader` does with the Tx SAR entry of its session, and the entry that the
Tx engine sees.

* `MdlCall`: the cases of a call; `pMetaDataLoader_call`.
* `MdlState.held`: the entry that the loader works with.
* `txAfter`: an entry once the writes of the Tx engine that wait are served; `TxSystem.sees`.
* `SameTx`: entries that do not differ in what only the Tx engine writes.
-/

namespace CloudFpga.Toe

open Foundation

/-! ### The calls -/

/-- What a call does. -/
inductive MdlCall (s : MdlState) (r : MdlState × MdlOut) : Prop
  /-- there is no event -/
  | idle (hst : s.fsmState = .waitEvent) (hr : r = ({ s with segmentCount := 0 }, {}))
  /-- an event is taken -/
  | takes {e : ExtendedEvent} {es : List ExtendedEvent} (hst : s.fsmState = .waitEvent)
      (hq : s.siEvent = e :: es) (hev : r.1.curEvent = e) (hst' : r.1.fsmState = .processEvent)
      (hl : r.1.sarLoaded = false) (hrep : r.1.siTxSarRep = s.siTxSarRep)
      (hq' : r.1.siEvent = es) (hmeta : r.2.txeMeta = [])
      (hqry : r.2.txSarQry = (mdlQueries e.event).txSarQry)
  /-- the replies of the tables are not there yet -/
  | waits (hst : s.fsmState = .processEvent) (hr : r = (s, {}))
  | tx {t : MdlState} (hst : s.fsmState = .processEvent) (htype : s.curEvent.event.type = .tx)
      (hload : mdlLoadSar s = some t) (hr : r = mdlTxSegment t)
  | rt {t : MdlState} (hst : s.fsmState = .processEvent) (htype : s.curEvent.event.type = .rt)
      (hload : mdlLoadSar s = some t) (hr : r = mdlRtSegment t s.sarLoaded)
  | fin {t : MdlState} (hst : s.fsmState = .processEvent) (htype : s.curEvent.event.type = .fin)
      (hload : mdlLoadSar s = some t) (hr : r = mdlFinSegment t)
  /-- the session is initialised -/
  | init {m : TXeMeta} (hst : s.fsmState = .processEvent)
      (hisn : s.curEvent.event.choosesIsn = true) (hst' : r.1.fsmState = .waitEvent)
      (hq : r.1.siEvent = s.siEvent) (hmeta : r.2.txeMeta = [m]) (hsyn : m.syn = true)
      (hfin : m.fin = false) (hqry : r.2.txSarQry = [.wr s.sessionID (m.seqNumb + 1) true])
  /-- a segment without data -/
  | header {m : TXeMeta} (hst : s.fsmState = .processEvent) (hst' : r.1.fsmState = .waitEvent)
      (hq : r.1.siEvent = s.siEvent) (hmeta : r.2.txeMeta = [m]) (hfin : m.fin = false)
      (hlen : m.syn = false → m.length = 0)
      (hisn : m.syn = true → s.curEvent.event.choosesIsn = false) (hqry : r.2.txSarQry = [])
      (htype : s.curEvent.event.type ≠ .tx ∧ s.curEvent.event.type ≠ .rt ∧
        s.curEvent.event.type ≠ .fin)

section Call

variable {s t : MdlState}

lemma mdlQueries_txeMeta (e : Event) : (mdlQueries e).txeMeta = [] := by
  rw [mdlQueries]
  split <;> rfl

lemma mdlWaitEvent_call (hst : s.fsmState = .waitEvent) : MdlCall s (mdlWaitEvent s) := by
  rw [mdlWaitEvent]
  split
  · next hq => exact .takes hst hq rfl rfl rfl rfl rfl (mdlQueries_txeMeta _) rfl
  · exact .idle hst rfl

lemma mdlSyn_call (hst : s.fsmState = .processEvent) (htype : s.curEvent.event.type = .syn) :
    MdlCall s (mdlSyn s) := by
  rw [mdlSyn]
  split
  · next hrt =>
      split
      · refine .header hst rfl rfl rfl rfl (by simp) (fun _ => ?_) rfl (by simp [htype])
        exact decide_eq_false fun h => hrt h.2
      · exact .waits hst rfl
  · next hrt =>
      exact .init hst (by simp [Event.choosesIsn, htype, not_not.mp hrt]) rfl rfl rfl rfl rfl rfl

lemma mdlSynAck_call (hst : s.fsmState = .processEvent)
    (htype : s.curEvent.event.type = .synAck) : MdlCall s (mdlSynAck s) := by
  rw [mdlSynAck]
  cases hload : mdlReadSar s with
  | none => exact .waits hst rfl
  | some t =>
      obtain ⟨hev, -, hq⟩ := mdlReadSar_frame hload
      have hid : t.sessionID = s.sessionID := by rw [MdlState.sessionID, MdlState.sessionID, hev]
      dsimp only
      split
      · next hrt =>
          rw [hev] at hrt
          refine .header hst rfl hq rfl rfl (by simp) (fun _ => ?_) rfl (by simp [htype])
          exact decide_eq_false fun h => hrt h.2
      · next hrt =>
          rw [hev] at hrt
          refine .init hst (by simp [Event.choosesIsn, htype, not_not.mp hrt]) rfl hq rfl rfl rfl ?_
          rw [← hid]
          rfl

lemma mdlAck_call (hst : s.fsmState = .processEvent)
    (htype : s.curEvent.event.type = .ack ∨ s.curEvent.event.type = .ackNodelay) :
    MdlCall s (mdlAck s) := by
  rw [mdlAck]
  cases hload : mdlReadSar s with
  | none => exact .waits hst rfl
  | some t =>
      refine .header hst rfl (mdlReadSar_frame hload).2.2 rfl rfl (fun _ => rfl)
        (fun h => by cases h) rfl ?_
      rcases htype with h | h <;> simp [h]

lemma mdlRst_call (hst : s.fsmState = .processEvent) (htype : s.curEvent.event.type = .rst) :
    MdlCall s (mdlRst s) := by
  simp only [mdlRst]
  split
  · exact .header hst rfl rfl rfl rfl (fun _ => rfl) (fun h => by cases h) rfl (by simp [htype])
  · split
    · exact .header hst rfl rfl rfl rfl (fun _ => rfl) (fun h => by cases h) rfl
        (by simp [htype])
    · exact .waits hst rfl

/-- **The cases of a call.** -/
theorem pMetaDataLoader_call (s : MdlState) : MdlCall s (pMetaDataLoader s) := by
  cases hst : s.fsmState with
  | waitEvent =>
      simp only [pMetaDataLoader, hst]
      exact mdlWaitEvent_call hst
  | processEvent =>
      rw [pMetaDataLoader_processEvent hst, mdlProcessEvent]
      cases htype : s.curEvent.event.type with
      | tx =>
          cases hload : mdlLoadSar s with
          | none => exact .waits hst (mdlTx_of_none hload)
          | some t => exact .tx hst htype hload (mdlTx_of_some hload)
      | rt =>
          cases hload : mdlLoadSar s with
          | none => exact .waits hst (mdlRt_of_none hload)
          | some t => exact .rt hst htype hload (mdlRt_of_some hload)
      | fin =>
          cases hload : mdlLoadSar s with
          | none => exact .waits hst (by simp only [mdlFin, hload])
          | some t => exact .fin hst htype hload (by simp only [mdlFin, hload])
      | ack => exact mdlAck_call hst (.inl htype)
      | ackNodelay => exact mdlAck_call hst (.inr htype)
      | syn => exact mdlSyn_call hst htype
      | synAck => exact mdlSynAck_call hst htype
      | rst => exact mdlRst_call hst htype

end Call

/-! ### The entry that the loader works with -/

/-- The entry that a call in `MDL_PROCESS_EVENT` works with. -/
def MdlState.held (s : MdlState) : Option TXeTxSarReply :=
  match s.fsmState with
  | .waitEvent => none
  | .processEvent => if s.sarLoaded then some s.txSar else s.siTxSarRep.head?

section Held

variable {s t : MdlState}

lemma held_of_wait (h : s.fsmState = .waitEvent) : s.held = none := by
  rw [MdlState.held, h]

lemma held_of_loaded (hst : s.fsmState = .processEvent) (hl : s.sarLoaded = true) :
    s.held = some s.txSar := by
  rw [MdlState.held, hst]
  simp [hl]

lemma held_of_loadSar (hst : s.fsmState = .processEvent) (h : mdlLoadSar s = some t) :
    s.held = some t.txSar := by
  rw [MdlState.held, hst]
  simp only [mdlLoadSar] at h
  split at h
  · next hl =>
      rw [if_pos hl, Option.some.inj h]
  · next hl =>
      rw [if_neg hl]
      simp only [mdlReadSar] at h
      split at h
      · next hrep =>
          rw [← Option.some.inj h, hrep]
          rfl
      · cases h

end Held

/-! ### The entry that the Tx engine sees -/

/-- The entry of a session once the writes of the Tx engine are served. -/
def txAfter (id : SessionId) (e : TxSarEntry) (qs : List TXeTxSarQuery) : TxSarEntry :=
  qs.foldl (fun e q => if q.write ∧ q.sessionID = id then txSarWriteTXe e q else e) e

/-- The entry of a session that the next query of the Tx engine reads. -/
def TxSystem.sees (s : TxSystem) (id : SessionId) : TxSarEntry :=
  txAfter id (s.tst.table id) s.tst.siTXeTxSarQry

/-- The entries agree in what the Rx engine does not write. -/
structure SameTx (e e' : TxSarEntry) : Prop where
  unak : e'.unak = e.unak
  appw : e'.appw = e.appw
  finReady : e'.finReady = e.finReady
  finSent : e'.finSent = e.finSent

section Sees

variable {id : SessionId} {e e' : TxSarEntry} {q : TXeTxSarQuery} {qs rs : List TXeTxSarQuery}

lemma SameTx.refl (e : TxSarEntry) : SameTx e e := ⟨rfl, rfl, rfl, rfl⟩

lemma txAfter_append : txAfter id e (qs ++ rs) = txAfter id (txAfter id e qs) rs :=
  List.foldl_append

lemma txAfter_cons :
    txAfter id e (q :: qs) =
      txAfter id (if q.write ∧ q.sessionID = id then txSarWriteTXe e q else e) qs := rfl

lemma txAfter_of_other (h : ∀ q ∈ qs, q.write = true → q.sessionID ≠ id) : txAfter id e qs = e := by
  induction qs with
  | nil => rfl
  | cons q qs ih =>
      rw [txAfter_cons, if_neg fun hq => h q List.mem_cons_self hq.1 hq.2]
      exact ih fun q' hq' => h q' (List.mem_cons_of_mem q hq')

lemma SameTx.write (h : SameTx e e') (q : TXeTxSarQuery) :
    SameTx (txSarWriteTXe e q) (txSarWriteTXe e' q) := by
  simp only [txSarWriteTXe]
  split
  · exact ⟨rfl, by simp [h.appw], by simp [h.finReady], by simp [h.finSent]⟩
  · exact ⟨h.unak, h.appw, h.finReady, h.finSent⟩

lemma SameTx.after (h : SameTx e e') (qs : List TXeTxSarQuery) :
    SameTx (txAfter id e qs) (txAfter id e' qs) := by
  induction qs generalizing e e' with
  | nil => exact h
  | cons q qs ih =>
      rw [txAfter_cons, txAfter_cons]
      split
      · exact ih (h.write q)
      · exact ih h

/-- A push moves the application pointer, unless an initialisation waits that overwrites it. -/
lemma txAfter_push (app : TxBufPtr) (qs : List TXeTxSarQuery) :
    SameTx (txAfter id e qs) (txAfter id { e with appw := app } qs) ∨
      txAfter id { e with appw := app } qs = { txAfter id e qs with appw := app } := by
  induction qs generalizing e with
  | nil => exact .inr rfl
  | cons q qs ih =>
      rw [txAfter_cons, txAfter_cons]
      split
      · by_cases hinit : q.isRtQuery = false ∧ q.init = true
        · left
          have heq : txSarWriteTXe { e with appw := app } q = txSarWriteTXe e q := by
            simp [txSarWriteTXe, hinit]
          rw [heq]
          exact .refl _
        · have heq : txSarWriteTXe { e with appw := app } q =
              { txSarWriteTXe e q with appw := app } := by
            simp only [txSarWriteTXe]
            split
            · next hrt =>
                have hno : q.init = false := by
                  by_contra h
                  exact hinit ⟨by simpa using hrt, by simpa using h⟩
                simp [hno]
            · rfl
          rw [heq]
          exact ih
      · exact ih

end Sees

section Steps

variable {s s' : TxSystem} {id : SessionId}

lemma sees_loaderCall (s : TxSystem) (id : SessionId) :
    (loaderCall s).sees id = txAfter id (s.sees id) (pMetaDataLoader s.mdl).2.txSarQry :=
  txAfter_append

lemma sees_of_nil (h : s.tst.siTXeTxSarQry = []) : s.sees id = s.tst.table id := by
  rw [TxSystem.sees, h]
  rfl

lemma sees_fsmCall {k : TxLabel} (hk : (∃ m, k = .load m) ∨
    ∃ tcpState rxSar unread, k = .transition tcpState rxSar unread) (id : SessionId) :
    (txNext s k).sees id = s.sees id := by
  obtain ⟨-, hqs, htable, -⟩ := fsmCall_frame s k hk
  rw [TxSystem.sees, TxSystem.sees, hqs, htable]

lemma sees_update {e : TxSarEntry} (htable : s'.tst.table = Function.update s.tst.table id e)
    (hqs : s'.tst.siTXeTxSarQry = s.tst.siTXeTxSarQry) (he : SameTx (s.tst.table id) e) :
    SameTx (s.sees id) (s'.sees id) := by
  rw [TxSystem.sees, TxSystem.sees, htable, hqs, Function.update_self]
  exact he.after _

lemma sees_update_of_ne {id' : SessionId} {e : TxSarEntry}
    (htable : s'.tst.table = Function.update s.tst.table id' e)
    (hqs : s'.tst.siTXeTxSarQry = s.tst.siTXeTxSarQry) (hid : id ≠ id') :
    SameTx (s.sees id) (s'.sees id) := by
  rw [TxSystem.sees, TxSystem.sees, htable, hqs, Function.update_of_ne hid]
  exact .refl _

lemma sees_push (app : TxBufPtr)
    (htable : s'.tst.table = Function.update s.tst.table id { s.tst.table id with appw := app })
    (hqs : s'.tst.siTXeTxSarQry = s.tst.siTXeTxSarQry) :
    SameTx (s.sees id) (s'.sees id) ∨ s'.sees id = { s.sees id with appw := app } := by
  rw [TxSystem.sees, TxSystem.sees, htable, hqs, Function.update_self]
  exact txAfter_push app _

/-- What a call of the table does to the entry that the Tx engine sees: the Rx engine changes other
parts of it, and a push moves the application pointer. -/
lemma sees_table (h : TableStep s s') :
    SameTx (s.sees id) (s'.sees id) ∨
      ∃ p ps, s.tst.siTAiPushCmd = p :: ps ∧ s'.tst.siTAiPushCmd = ps ∧ p.sessionID = id ∧
        s'.sees id = { s.sees id with appw := p.app } := by
  cases h with
  | @writeTXe q qs hqs hw =>
      left
      have hsees : txAfter id (Function.update s.tst.table q.sessionID
          (txSarWriteTXe (s.tst.table q.sessionID) q) id) qs = s.sees id := by
        rw [TxSystem.sees, hqs, txAfter_cons]
        by_cases hid : q.sessionID = id
        · rw [if_pos ⟨hw, hid⟩, ← hid, Function.update_self]
        · rw [if_neg (fun hq => hid hq.2), Function.update_of_ne (Ne.symm hid)]
      exact hsees.symm ▸ SameTx.refl _
  | @readTXe q qs hqs hw =>
      left
      have hsees : txAfter id (s.tst.table id) qs = s.sees id := by
        rw [TxSystem.sees, hqs, txAfter_cons, if_neg]
        simp [hw]
      exact hsees.symm ▸ SameTx.refl _
  | @push p ps hps =>
      by_cases hid : p.sessionID = id
      · subst hid
        exact Or.imp_right (fun happ => ⟨p, ps, hps, rfl, rfl, happ⟩) (sees_push p.app rfl rfl)
      · exact .inl (sees_update_of_ne rfl rfl (Ne.symm hid))
  | @writeRXe q qs hqs hw =>
      left
      by_cases hid : q.sessionID = id
      · subst hid
        exact sees_update rfl rfl ⟨rfl, rfl, rfl, rfl⟩
      · exact sees_update_of_ne rfl rfl (Ne.symm hid)
  | readRXe | idle => exact .inl (.refl _)

/-- The entry that waits for the loader is the one that the table had when it was read. -/
lemma held_table (hshape : TxShape s) (h : TableStep s s') :
    s'.mdl.held = s.mdl.held ∨
      s.mdl.held = none ∧ s.mdl.fsmState = .processEvent ∧
        s.tst.siTXeTxSarQry.head? = some (.rd s.mdl.sessionID) ∧
        s.sees s.mdl.sessionID = s.tst.table s.mdl.sessionID ∧
        s'.mdl.held = some (txSarReplyTXe (s.sees s.mdl.sessionID)) := by
  cases h with
  | writeTXe | push | writeRXe | readRXe | idle => exact .inl rfl
  | @readTXe q qs hqs hw =>
      right
      have hmdl := hshape.mdl
      rw [hqs] at hmdl
      cases hmdl with
      | quiet _ hws => exact absurd (hws q List.mem_cons_self) (by simp [hw])
      | loaded _ _ _ hws => exact absurd (hws q List.mem_cons_self).1 (by simp [hw])
      | @asked ws hst hl _ hq hws hrep =>
          cases ws with
          | nil =>
              obtain ⟨rfl, rfl⟩ := List.cons.inj hq
              have hsees : s.sees s.mdl.sessionID = s.tst.table s.mdl.sessionID := by
                rw [TxSystem.sees, hqs]
                rfl
              refine ⟨?_, hst, by rw [hqs]; rfl, hsees, ?_⟩
              · rw [MdlState.held, hst, hrep]
                simp [hl]
              · rw [MdlState.held]
                simp only [hst, hl, hrep, hsees]
                rfl
          | cons w ws =>
              obtain ⟨rfl, -⟩ := List.cons.inj hq
              exact absurd (hws q List.mem_cons_self) (by simp [hw])
      | answered _ _ _ hq => cases hq

end Steps

end CloudFpga.Toe
