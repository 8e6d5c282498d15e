import CloudFpga.Toe.CloseOrder

/-!
The segments of a connection are sent in order, and its FIN behind them.

* `LoaderInv`: how the loader is related to the history of its session; `LoaderOk.of_call`: a call
  for an event keeps it.
* `CloseInv`: the invariant of the system; `CloseInv.next`: every step that meets the guard keeps it.
* `closeOrder_safe`: along every run that meets the guard, every segment is safe.
-/

namespace CloudFpga.Toe

open Foundation

/-! ### A call of the loader -/

/-- A transmission has moved `notAckd` of the entry that the loader works with. -/
def MdlState.Transmits (m : MdlState) : Prop :=
  m.fsmState = .processEvent ∧ m.sarLoaded = true ∧ m.curEvent.event.type = .tx

/-- How the loader is related to the history of its session. -/
structure LoaderInv (m : MdlState) (h : SessHist) (e : TxSarEntry) : Prop where
  unak : ¬m.Transmits → e.unak = h.next
  taken : m.fsmState = .processEvent → m.curEvent.event.type = .fin → h.closed ≠ none
  held : ∀ x ∈ m.held, HeldOk h e m.curEvent.event x

/-- The history after a segment. `isn` tells that the segment opens the session. -/
def SessHist.step (isn : Bool) (h : SessHist) (m : TXeMeta) : SessHist :=
  if m.syn then
    if isn then { accEnd := m.seqNumb + 1, sent := m.seqNumb + 1, closed := none, fin := none }
    else h
  else h.send m

def SessHist.steps (h : SessHist) (isn : Bool) (ms : List TXeMeta) : SessHist :=
  ms.foldl (SessHist.step isn) h

/-- A call of the loader that stays with its session. -/
structure LoaderOk (m : MdlState) (r : MdlState × MdlOut) (h : SessHist) (e : TxSarEntry)
    (ptrs : List TxBufPtr) (closing : Prop) : Prop where
  session : r.1.sessionID = m.sessionID
  safe : ∀ x ∈ r.2.txeMeta, HistSafe h x
  inv : SessInv (h.steps m.curEvent.event.choosesIsn r.2.txeMeta)
    (txAfter m.sessionID e r.2.txSarQry) ptrs closing
  loader : LoaderInv r.1 (h.steps m.curEvent.event.choosesIsn r.2.txeMeta)
    (txAfter m.sessionID e r.2.txSarQry)

section Loader

variable {m t : MdlState} {h : SessHist} {e e' : TxSarEntry} {ptrs : List TxBufPtr}
  {closing : Prop} {x : TXeTxSarReply}

lemma SessInv.entry (hs : SessInv h e ptrs closing) (happw : e'.appw = e.appw)
    (hready : e'.finReady = e.finReady) (hsent : e'.finSent = e.finSent) :
    SessInv h e' ptrs closing where
  closed := hs.closed
  fin := hs.fin
  closing := hs.closing
  finSent := hsent.trans hs.finSent
  finReady hr := by
    rw [hready] at hr
    rw [happw]
    exact hs.finReady hr
  room := hs.room
  chain := by
    rw [happw]
    exact hs.chain

lemma not_transmits (htype : m.curEvent.event.type ≠ .tx) : ¬m.Transmits :=
  fun h => htype h.2.2

lemma loaderInv_of_wait (hst : m.fsmState = .waitEvent) (hunak : e.unak = h.next) :
    LoaderInv m h e where
  unak _ := hunak
  taken hp := by
    rw [hst] at hp
    cases hp
  held y hy := by
    rw [held_of_wait hst] at hy
    cases hy

/-- The loader stays with its event. -/
lemma loaderInv_of_loaded (hst : m.fsmState = .processEvent) (hl : m.sarLoaded = true)
    (hunak : m.curEvent.event.type ≠ .tx → e.unak = h.next)
    (htaken : m.curEvent.event.type = .fin → h.closed ≠ none)
    (hx : HeldOk h e m.curEvent.event m.txSar) : LoaderInv m h e where
  unak htr := hunak fun htype => htr ⟨hst, hl, htype⟩
  taken _ := htaken
  held y hy := by
    rw [held_of_loaded hst hl] at hy
    rw [← Option.some.inj hy]
    exact hx

lemma steps_of_payload {isn : Bool} {y : TXeMeta} (hsyn : y.syn = false) :
    h.steps isn [y] = h.send y := by
  simp [SessHist.steps, SessHist.step, hsyn]

lemma SessHist.advance_zero (h : SessHist) : h.advance 0 = h := by
  rw [SessHist.advance]
  simp

lemma txAfter_single {q : TXeTxSarQuery} (hw : q.write = true) (hid : q.sessionID = m.sessionID) :
    txAfter m.sessionID e [q] = txSarWriteTXe e q := by
  rw [txAfter_cons, if_pos ⟨hw, hid⟩]
  rfl

/-- The history after the segment of a transmission. -/
lemma LoaderInv.txSteps (hl : HeldOk h e t.curEvent.event t.txSar) (hs : SessInv h e ptrs closing)
    (hguard : t.txSar.finSent = true → usableWindow t.txSar = 0) (isn : Bool) :
    (∀ y ∈ (mdlTxSend t).txeMeta, HistSafe h y) ∧
      h.steps isn (mdlTxSend t).txeMeta = h.advance (txCase t.txSar).length := by
  rw [mdlTxSend, mdlSend]
  split
  · next hlen =>
      obtain ⟨hsafe, hsend, -⟩ := hl.txSegment hs hguard rfl hlen
      refine ⟨fun y hy => ?_, ?_⟩
      · rw [List.mem_singleton.mp hy]
        exact hsafe
      · rw [steps_of_payload rfl, hsend]
  · next hlen =>
      have hzero : (txCase t.txSar).length = 0 := by simpa [mdlMeta] using hlen
      rw [hzero, SessHist.advance_zero]
      exact ⟨fun y hy => (List.not_mem_nil hy).elim, rfl⟩

/-- The session and the entry after the segment of a transmission. -/
lemma HeldOk.txAdvance {ev : Event} (hx : HeldOk h e ev x) (hs : SessInv h e ptrs closing)
    (htype : ev.type = .tx) (hguard : x.finSent = true → usableWindow x = 0) :
    SessInv (h.advance (txCase x).length) e ptrs closing ∧
      HeldOk (h.advance (txCase x).length) e ev
        { x with notAckd := x.notAckd + (txCase x).length.setWidth 32 } := by
  obtain ⟨hfin, hle⟩ | hlast := hx.tx hs hguard
  · obtain ⟨hinv, happ, -⟩ := hs.advance hfin hx.app hle
    refine ⟨hinv, ?_, hx.finSent, hx.finReady, happ, fun hf => ?_, fun hf => ?_⟩
    · rw [hx.notAckd, SessHist.next_of_none hfin]
      exact (SessHist.next_of_none (h := h.advance _) hfin).symm
    · rw [htype] at hf
      cases hf
    · rw [htype] at hf
      cases hf
  · rw [hlast, TxCase.length, SessHist.advance_zero]
    refine ⟨hs, ?_, hx.finSent, hx.finReady, hx.app, hx.first, hx.again⟩
    simpa using hx.notAckd

lemma mdlSend_txeMeta {id : SessionId} {addr : BitVec 32} {y : TXeMeta} :
    (mdlSend id addr y).txeMeta = if y.length ≠ 0 then [y] else [] := by
  rw [mdlSend]
  split <;> rfl

lemma mdlTxSend_txSarQry : (mdlTxSend t).txSarQry = [] := by
  rw [mdlTxSend, mdlSend]
  split <;> rfl

lemma LoaderOk.tx (hst : m.fsmState = .processEvent) (htype : m.curEvent.event.type = .tx)
    (hrt : m.curEvent.event.rtCount = 0) (hload : mdlLoadSar m = some t) (hl : LoaderInv m h e)
    (hs : SessInv h e ptrs closing)
    (hguard : t.txSar.finSent = true → usableWindow t.txSar = 0) :
    LoaderOk m (mdlTxSegment t) h e ptrs closing := by
  obtain ⟨hev, hst', -⟩ := mdlLoadSar_frame hload
  have hx := hl.held _ (held_of_loadSar hst hload)
  have hid : t.sessionID = m.sessionID := sessionID_of_mdlLoadSar hload
  obtain ⟨hsafe, hsteps⟩ := LoaderInv.txSteps (by rw [hev]; exact hx) hs hguard
    m.curEvent.event.choosesIsn
  obtain ⟨hinv, hheld⟩ := hx.txAdvance hs htype hguard
  have hwrite : txAfter m.sessionID e
      [.wr t.sessionID (t.txSar.notAckd + (txCase t.txSar).length.setWidth 32)] =
        { e with unak := t.txSar.notAckd + (txCase t.txSar).length.setWidth 32 } := by
    rw [txAfter_single rfl hid]
    simp [txSarWriteTXe, TXeTxSarQuery.wr]
  have hentry : SessInv (h.advance (txCase t.txSar).length)
      { e with unak := t.txSar.notAckd + (txCase t.txSar).length.setWidth 32 } ptrs closing :=
    hinv.entry rfl rfl rfl
  have htx : t.curEvent.event.type = .tx := by rw [hev, htype]
  have hproc : t.fsmState = .processEvent := hst'.trans hst
  rw [mdlTxSegment]
  cases hc : txCase t.txSar with
  | fragment =>
      rw [hc] at hsteps hinv hheld
      refine ⟨hid, hsafe, ?_, ?_⟩
      · rw [hsteps, mdlTxSend_txSarQry]
        exact hinv
      · rw [hsteps, mdlTxSend_txSarQry]
        refine loaderInv_of_loaded hproc rfl (fun hne => absurd htx hne) (fun hf => ?_) ?_
        · exact absurd (htx.symm.trans hf) (by simp)
        · dsimp only
          rw [hev]
          exact hheld
  | fin =>
      obtain ⟨hclosed, happ⟩ := hx.finReady (finReady_of_txCase hc)
      rw [hc] at hsteps hwrite hentry hheld
      refine ⟨hid, hsafe, ?_, ?_⟩
      · rw [hsteps]
        exact hwrite.symm ▸ hentry
      · rw [hsteps]
        dsimp only
        rw [hwrite]
        exact loaderInv_of_loaded hproc rfl (fun _ => hheld.notAckd) (fun _ => hclosed)
          ⟨hheld.notAckd, hheld.finSent, hheld.finReady, hheld.app, fun _ _ => happ,
            fun _ hne => absurd (by rw [← hrt, ← hev]; rfl) hne⟩
  | last n =>
      rw [hc] at hsteps hwrite hentry hheld
      refine ⟨hid, hsafe, ?_, ?_⟩
      · rw [hsteps]
        exact hwrite.symm ▸ hentry
      · rw [hsteps]
        refine loaderInv_of_wait rfl ?_
        dsimp only
        rw [hwrite]
        exact hheld.notAckd

/-- A call whose segments leave the history as it is. -/
lemma LoaderOk.of_same {r : MdlState × MdlOut} (hs : SessInv h e ptrs closing)
    (hid : r.1.sessionID = m.sessionID) (hsafe : ∀ x ∈ r.2.txeMeta, HistSafe h x)
    (hsteps : h.steps m.curEvent.event.choosesIsn r.2.txeMeta = h)
    (he : SameTx e (txAfter m.sessionID e r.2.txSarQry))
    (hl : LoaderInv r.1 h (txAfter m.sessionID e r.2.txSarQry)) : LoaderOk m r h e ptrs closing where
  session := hid
  safe := hsafe
  inv := by
    rw [hsteps]
    exact hs.entry he.appw he.finReady he.finSent
  loader := by
    rw [hsteps]
    exact hl

/-- A retransmission changes the threshold only. -/
lemma sameTx_rt {id : SessionId} {rtt : TcpWindow} : SameTx e (txSarWriteTXe e (.rt id rtt)) :=
  ⟨rfl, rfl, rfl, rfl⟩

lemma LoaderOk.rt (hst : m.fsmState = .processEvent) (htype : m.curEvent.event.type = .rt)
    (hload : mdlLoadSar m = some t) (hl : LoaderInv m h e) (hs : SessInv h e ptrs closing)
    (hguard : RtFits t.txSar) (loaded : Bool) :
    LoaderOk m (mdlRtSegment t loaded) h e ptrs closing := by
  obtain ⟨hev, hst', -⟩ := mdlLoadSar_frame hload
  have hx := hl.held _ (held_of_loadSar hst hload)
  have hid : t.sessionID = m.sessionID := sessionID_of_mdlLoadSar hload
  have hproc : t.fsmState = .processEvent := hst'.trans hst
  have hrt : t.curEvent.event.type = .rt := by rw [hev, htype]
  have hunak : e.unak = h.next := hl.unak (not_transmits (by simp [htype]))
  have hmeta : (∀ y ∈ (mdlRtSend t).txeMeta, HistSafe h y) ∧
      h.steps m.curEvent.event.choosesIsn (mdlRtSend t).txeMeta = h := by
    rw [mdlRtSend, mdlSend_txeMeta]
    generalize hy : mdlMeta t.rxSar t.txSar.ackd
      (if rtIsFull t.txSar then mssPayload else rtDatLen t.txSar) = y
    split
    · next hlen =>
        have hsyn : y.syn = false := by
          rw [← hy]
          rfl
        obtain ⟨hsafe, hsend⟩ := hx.rtSegment hs hguard hy.symm hlen
        refine ⟨fun y hy => ?_, ?_⟩
        · rw [List.mem_singleton.mp hy]
          exact hsafe
        · rw [steps_of_payload hsyn, hsend]
    · exact ⟨fun y hy => (List.not_mem_nil hy).elim, rfl⟩
  have he : SameTx e (txAfter m.sessionID e (mdlRtSegment t loaded).2.txSarQry) := by
    simp only [mdlRtSegment]
    split
    · rw [txAfter_single rfl hid]
      exact sameTx_rt
    · exact .refl e
  -- the entry that the loader keeps, with the event as it is
  have hheld (ackd : TxAckNum) : HeldOk h (txAfter m.sessionID e (mdlRtSegment t loaded).2.txSarQry)
      t.curEvent.event { t.txSar with ackd := ackd } := by
    have hx' := hx.mono he
    rw [← hev] at hx'
    exact ⟨hx'.notAckd, hx'.finSent, hx'.finReady, hx'.app, hx'.first, hx'.again⟩
  refine .of_same hs ?_ hmeta.1 hmeta.2 he ?_
  · simp only [mdlRtSegment]
    split_ifs <;> exact hid
  · have hunak' := he.unak.trans hunak
    generalize txAfter m.sessionID e (mdlRtSegment t loaded).2.txSarQry = e' at hunak' hheld
    have hfinType : t.curEvent.event.type ≠ .fin := by simp [hrt]
    simp only [mdlRtSegment]
    split_ifs with hfull hcount hfin
    · exact loaderInv_of_wait rfl hunak'
    · exact loaderInv_of_loaded hproc rfl (fun _ => hunak') (fun hf => absurd hf hfinType) (hheld _)
    · -- the FIN is repeated after the bytes
      have hsent : h.fin.isSome = true := by rw [← hx.finSent, hfin]
      obtain ⟨f, hf⟩ := Option.isSome_iff_exists.mp hsent
      have happ : t.txSar.app = h.accPtr := by
        have hle : OnArc h.sentPtr t.txSar.app h.accPtr := hx.app.trans hs.onArc_head
        have hacc : h.accPtr = h.sentPtr := by
          rw [SessHist.accPtr, SessHist.sentPtr, hs.sent_eq hf]
        rw [hacc] at hle ⊢
        exact eq_of_onArc hle (onArc_left ..)
      have hx' := hheld t.txSar.ackd
      exact loaderInv_of_loaded hproc rfl (fun _ => hunak') (fun _ => by simp [(hs.fin f hf).1])
        ⟨hx'.notAckd, hx'.finSent, hx'.finReady, hx'.app, fun _ _ => happ, fun _ _ => by simp [hf]⟩
    · exact loaderInv_of_wait rfl hunak'

lemma mdlFinSegment_txeMeta :
    (mdlFinSegment t).2.txeMeta =
      if finEmits t.curEvent.event t.txSar then [finMeta t.curEvent.event t.rxSar t.txSar]
      else [] := by
  simp only [mdlFinSegment, finEmits, decide_eq_true_eq, finMeta]
  generalize (if t.curEvent.event.rtCount ≠ 0 then t.txSar.notAckd - 1 else t.txSar.notAckd) = n
  split <;> rfl

lemma LoaderOk.fin (hst : m.fsmState = .processEvent) (htype : m.curEvent.event.type = .fin)
    (hload : mdlLoadSar m = some t) (hl : LoaderInv m h e) (hs : SessInv h e ptrs closing) :
    LoaderOk m (mdlFinSegment t) h e ptrs closing := by
  obtain ⟨hev, -, -⟩ := mdlLoadSar_frame hload
  have hx := hl.held _ (held_of_loadSar hst hload)
  have hid : t.sessionID = m.sessionID := sessionID_of_mdlLoadSar hload
  have hunak : e.unak = h.next := hl.unak (not_transmits (by simp [htype]))
  have hmeta := mdlFinSegment_txeMeta (t := t)
  rw [hev] at hmeta
  by_cases hrt : m.curEvent.event.rtCount = 0
  · have hqry : txAfter m.sessionID e (mdlFinSegment t).2.txSarQry =
        txSarWriteTXe e (finQry m.sessionID t.txSar) := by
      have hqs : (mdlFinSegment t).2.txSarQry = [finQry m.sessionID t.txSar] := by
        simp [mdlFinSegment, hev, hrt, hid]
      rw [hqs]
      refine txAfter_single ?_ ?_
      · simp only [finQry]
        split <;> rfl
      · simp only [finQry]
        split <;> rfl
    have hstep := hx.finFirst hs htype (hl.taken hst htype) hrt m.sessionID t.rxSar
    split at hstep
    · next hem =>
        obtain ⟨hsafe, hfin⟩ := hstep
        rw [if_pos hem] at hmeta
        have hsteps : h.steps m.curEvent.event.choosesIsn (mdlFinSegment t).2.txeMeta =
            h.send (finMeta m.curEvent.event t.rxSar t.txSar) := by
          rw [hmeta, steps_of_payload rfl]
        refine ⟨hid, fun y hy => ?_, ?_, ?_⟩
        · rw [hmeta] at hy
          rw [List.mem_singleton.mp hy]
          exact hsafe
        · rw [hsteps, hqry]
          exact hfin.inv
        · rw [hsteps, hqry]
          exact loaderInv_of_wait rfl hfin.unak
    · next hem =>
        rw [if_neg hem] at hmeta
        refine ⟨hid, fun y hy => ?_, ?_, ?_⟩
        · rw [hmeta] at hy
          cases hy
        · rw [hmeta, hqry]
          exact hstep.inv
        · rw [hmeta, hqry]
          exact loaderInv_of_wait rfl hstep.unak
  · have hqry : (mdlFinSegment t).2.txSarQry = [] := by
      simpa [mdlFinSegment, hev] using hrt
    obtain ⟨hsafe, hsend⟩ := hx.finAgain hs htype hrt t.rxSar
    refine .of_same hs hid (fun y hy => ?_) ?_ ?_ ?_
    · rw [hmeta] at hy
      split at hy
      · rw [List.mem_singleton.mp hy]
        exact hsafe
      · cases hy
    · rw [hmeta]
      split
      · rw [steps_of_payload rfl, hsend]
      · rfl
    · rw [hqry]
      exact .refl e
    · rw [hqry]
      exact loaderInv_of_wait rfl hunak

/-- The history of a session that is opened. -/
def SessHist.opened (n : TxAckNum) : SessHist :=
  { accEnd := n, sent := n, closed := none, fin := none }

/-- An initialisation makes the entry fit the history of a new session. -/
lemma SessInv.opened {n : TxAckNum} {id : SessionId} (hptrs : ptrs = []) (hclosing : ¬closing) :
    SessInv (.opened n) (txSarWriteTXe e (.wr id n true)) ptrs closing where
  closed c hc := by cases hc
  fin f hf := by cases hf
  closing hc := absurd hc hclosing
  finSent := rfl
  finReady hr := by cases hr
  room := by simp [SessHist.opened]
  chain := by
    rw [hptrs]
    exact List.pairwise_pair.mpr (onArc_left _ _)

/-- **A call of the loader for its event** sends safe segments, and keeps the session in order. -/
lemma LoaderOk.of_call (hst : m.fsmState = .processEvent) (hl : LoaderInv m h e)
    (hs : SessInv h e ptrs closing)
    (hopen : m.curEvent.event.choosesIsn = true → ptrs = [] ∧ ¬closing)
    (hguard : ∀ t ∈ mdlLoadSar m,
      (m.curEvent.event.type = .tx → t.txSar.finSent = true → usableWindow t.txSar = 0) ∧
      (m.curEvent.event.type = .rt → RtFits t.txSar))
    (hrt : m.curEvent.event.type = .tx → m.curEvent.event.rtCount = 0) :
    LoaderOk m (pMetaDataLoader m) h e ptrs closing := by
  have hid : (pMetaDataLoader m).1.sessionID = m.sessionID := by
    rw [pMetaDataLoader_processEvent hst]
    obtain heq | ⟨t, -, hev, heff⟩ := mdlProcessEvent_effect hst
    · rw [heq]
    · rw [heff.sessionID, MdlState.sessionID, hev]
      rfl
  have hunak (htype : m.curEvent.event.type ≠ .tx) : e.unak = h.next :=
    hl.unak (not_transmits htype)
  generalize hr : pMetaDataLoader m = r at hid
  cases hr ▸ pMetaDataLoader_call m with
  | idle hw | takes hw =>
      rw [hst] at hw
      cases hw
  | waits _ hr' =>
      subst hr'
      exact .of_same hs rfl (fun y hy => (List.not_mem_nil hy).elim) rfl (.refl e) hl
  | tx _ htype hload hr' =>
      rw [hr']
      exact .tx hst htype (hrt htype) hload hl hs ((hguard _ hload).1 htype)
  | rt _ htype hload hr' =>
      rw [hr']
      exact .rt hst htype hload hl hs ((hguard _ hload).2 htype) _
  | fin _ htype hload hr' =>
      rw [hr']
      exact .fin hst htype hload hl hs
  | @init y _ hisn hst' _ hmeta hsyn hfin hqry =>
      obtain ⟨hptrs, hclosing⟩ := hopen hisn
      have hsteps : h.steps m.curEvent.event.choosesIsn r.2.txeMeta =
          .opened (y.seqNumb + 1) := by
        simp [hmeta, SessHist.steps, SessHist.step, hsyn, hisn, SessHist.opened]
      have hentry : txAfter m.sessionID e r.2.txSarQry =
          txSarWriteTXe e (.wr m.sessionID (y.seqNumb + 1) true) := by
        rw [hqry]
        exact txAfter_single rfl rfl
      refine ⟨hid, fun z hz => ?_, ?_, ?_⟩
      · rw [hmeta] at hz
        rw [List.mem_singleton.mp hz]
        exact histSafe_header hfin (by simp [hsyn])
      · rw [hsteps, hentry]
        exact .opened hptrs hclosing
      · rw [hsteps, hentry]
        exact loaderInv_of_wait hst' rfl
  | @header y _ hst' _ hmeta hfin hlen hisn hqry htype =>
      refine .of_same hs hid (fun z hz => ?_) ?_ ?_ ?_
      · rw [hmeta] at hz
        rw [List.mem_singleton.mp hz]
        exact histSafe_header hfin hlen
      · rw [hmeta]
        cases hsyn : y.syn with
        | false => rw [steps_of_payload hsyn, SessHist.send_header _ hfin (hlen hsyn)]
        | true => simp [SessHist.steps, SessHist.step, hsyn, hisn hsyn]
      · rw [hqry]
        exact .refl e
      · rw [hqry]
        exact loaderInv_of_wait hst' (hunak htype.1)

end Loader

/-! ### The invariant of the system -/

/-- A `FIN_EVENT` of the session is on its way. -/
def TxAppSystem.Closing (s : TxAppSystem) (id : SessionId) : Prop :=
  ∃ e ∈ s.events, e.type = .fin ∧ e.sessionID = id

/-- The sessions with their histories, and the loader. -/
structure SessionsInv (hist : SessionId → SessHist) (s : TxAppSystem) : Prop where
  sess : ∀ id, SessInv (hist id) (s.tx.sees id) (s.unread id) (s.Closing id)
  loader : LoaderInv s.tx.mdl (hist s.tx.mdl.sessionID) (s.tx.sees s.tx.mdl.sessionID)
  others : ∀ id, id ≠ s.tx.mdl.sessionID → (s.tx.sees id).unak = (hist id).next

structure CloseInv (s : CloseSys) : Prop where
  app : TxAppInv s.app
  sessions : SessionsInv s.hist s.app

/-- The loader is where it was. -/
structure SameLoader (m m' : MdlState) : Prop where
  fsmState : m'.fsmState = m.fsmState
  sarLoaded : m'.sarLoaded = m.sarLoaded
  curEvent : m'.curEvent = m.curEvent
  held : m'.held = m.held

section LoaderInv

variable {m m' : MdlState} {h : SessHist} {e e' : TxSarEntry}

lemma SameLoader.transmits (hm : SameLoader m m') : m'.Transmits ↔ m.Transmits := by
  rw [MdlState.Transmits, MdlState.Transmits, hm.fsmState, hm.sarLoaded, hm.curEvent]

lemma SameLoader.sessionID (hm : SameLoader m m') : m'.sessionID = m.sessionID := by
  rw [MdlState.sessionID, MdlState.sessionID, hm.curEvent]

lemma LoaderInv.same (hl : LoaderInv m h e) (hm : SameLoader m m') (he : SameTx e e') :
    LoaderInv m' h e' where
  unak htr := by
    rw [he.unak]
    exact hl.unak fun h => htr (hm.transmits.mpr h)
  taken := by
    rw [hm.fsmState, hm.curEvent]
    exact hl.taken
  held x hx := by
    rw [hm.held] at hx
    rw [hm.curEvent]
    exact (hl.held x hx).mono he

lemma LoaderInv.close (hl : LoaderInv m h e) : LoaderInv m h.close e where
  unak := hl.unak
  taken _ _ := h.close_closed
  held x hx := (hl.held x hx).close

end LoaderInv

section Frame

variable {s s' : TxAppSystem} {hist hist' : SessionId → SessHist}

/-- A step that may close sessions and loses pointers at most. -/
lemma SessionsInv.frame (h : SessionsInv hist s)
    (hhist : ∀ id, hist' id = (hist id).close ∨
      hist' id = hist id ∧ (s'.Closing id → s.Closing id))
    (hsees : ∀ id, SameTx (s.tx.sees id) (s'.tx.sees id))
    (hunread : ∀ id, List.Sublist (s'.unread id) (s.unread id))
    (hmdl : SameLoader s.tx.mdl s'.tx.mdl) : SessionsInv hist' s' where
  sess id := by
    obtain hclose | ⟨hsame, hclosing⟩ := hhist id
    · rw [hclose]
      exact ((h.sess id).mono (hsees id) (hunread id) fun hc => hc).close
    · rw [hsame]
      exact (h.sess id).mono (hsees id) (hunread id) hclosing
  loader := by
    rw [hmdl.sessionID]
    have hl := h.loader.same hmdl (hsees _)
    obtain hclose | ⟨hsame, -⟩ := hhist s.tx.mdl.sessionID
    · rw [hclose]
      exact hl.close
    · rw [hsame]
      exact hl
  others id hid := by
    rw [hmdl.sessionID] at hid
    rw [(hsees id).unak, h.others id hid]
    obtain hclose | ⟨hsame, -⟩ := hhist id
    · rw [hclose]
      rfl
    · rw [hsame]

/-- Only the loader and the table change the entries and the place of the loader. -/
lemma sees_txAppNext (s : TxAppSystem) {l : TxAppLabel} (hloader : l ≠ .tx .loader)
    (htable : l ≠ .tx .table) :
    (∀ id, (txAppNext s l).tx.sees id = s.tx.sees id) ∧
      SameLoader s.tx.mdl (txAppNext s l).tx.mdl := by
  cases l with
  | tx l =>
      cases l with
      | loader => exact absurd rfl hloader
      | table => exact absurd rfl htable
      | load m =>
          have hframe := (fsmCall_frame s.tx (.load m) (.inl ⟨m, rfl⟩)).1
          refine ⟨sees_fsmCall (.inl ⟨m, rfl⟩), ?_⟩
          simp only [txAppNext, hframe]
          exact ⟨rfl, rfl, rfl, rfl⟩
      | transition tcpState rxSar unread =>
          have hframe := (fsmCall_frame s.tx _ (.inr ⟨tcpState, rxSar, unread, rfl⟩)).1
          refine ⟨sees_fsmCall (.inr ⟨tcpState, rxSar, unread, rfl⟩), ?_⟩
          simp only [txAppNext, hframe]
          exact ⟨rfl, rfl, rfl, rfl⟩
      | event e =>
          simp only [txAppNext]
          split <;> exact ⟨fun _ => rfl, rfl, rfl, rfl, rfl⟩
      | rxSarRep | push => exact ⟨fun _ => rfl, rfl, rfl, rfl, rfl⟩
  | ackPush | eve =>
      simp only [txAppNext]
      split <;> exact ⟨fun _ => rfl, rfl, rfl, rfl, rfl⟩
  | tat | sndReq | sessState | sml | tac | emx | memSts | tash =>
      exact ⟨fun _ => rfl, rfl, rfl, rfl, rfl⟩

lemma closing_next {l : TxAppLabel} {id : SessionId}
    (hraised : ∀ e ∈ s.raised l, e.type = .fin → e.sessionID ≠ id)
    (h : (txAppNext s l).Closing id) : s.Closing id := by
  obtain ⟨e, he, htype, hid⟩ := h
  obtain he | he := events_next s l he
  · exact ⟨e, he, htype, hid⟩
  · exact absurd hid (hraised e he htype)

end Frame

/-! ### The history after a step -/

section History

variable (s : CloseSys)

lemma hist_close (e : Event) (id : SessionId) :
    (s.close e).hist id =
      if e.type = .fin ∧ e.sessionID = id then (s.hist id).close else s.hist id := by
  rw [CloseSys.close]
  by_cases htype : e.type = .fin
  · by_cases hid : e.sessionID = id
    · subst hid
      by_cases hclosed : s.closed e.sessionID = none
      · simp [htype, hclosed, CloseSys.hist, SessHist.close]
      · simp [htype, hclosed, CloseSys.hist, SessHist.close]
    · rw [if_neg (show ¬(e.type = .fin ∧ e.sessionID = id) from fun h => hid h.2)]
      split
      · simp [CloseSys.hist, Function.update_of_ne (Ne.symm hid)]
      · rfl
  · simp [htype]

/-- The events of a step close their sessions. -/
lemma hist_closes (es : List Event) (s : CloseSys) (id : SessionId) :
    (es.foldl CloseSys.close s).hist id = (s.hist id).close ∨
      (es.foldl CloseSys.close s).hist id = s.hist id ∧
        ∀ e ∈ es, e.type = .fin → e.sessionID ≠ id := by
  have hidem (h : SessHist) : h.close.close = h.close := by
    rw [SessHist.close, if_neg h.close_closed]
  induction es generalizing s with
  | nil => exact .inr ⟨rfl, fun e he => (List.not_mem_nil he).elim⟩
  | cons e es ih =>
      rw [List.foldl_cons]
      have hhist := hist_close s e id
      obtain hes | ⟨hes, hno⟩ := ih (s.close e)
      · left
        rw [hes, hhist]
        split
        · rw [hidem]
        · rfl
      · rw [hes, hhist]
        split
        · exact .inl rfl
        · next hne =>
            refine .inr ⟨rfl, fun e' he' htype hid => ?_⟩
            obtain rfl | he' := List.mem_cons.mp he'
            · exact hne ⟨htype, hid⟩
            · exact hno e' he' htype hid

lemma hist_accept (req : TcpAppSndReq) (id : SessionId) :
    (s.accept req).hist id =
      if req.sessId = id then (s.hist id).accept req.length else s.hist id := by
  split
  · next hid =>
      subst hid
      simp [CloseSys.accept, CloseSys.hist, SessHist.accept]
  · next hid => simp [CloseSys.accept, CloseSys.hist, Function.update_of_ne (Ne.symm hid)]

lemma send_app (m : TXeMeta) : (s.send m).app = s.app := by
  simp only [CloseSys.send]
  split_ifs <;> rfl

lemma hist_send (m : TXeMeta) (id : SessionId) :
    (s.send m).hist id =
      if id = s.session then (s.hist id).step s.app.tx.mdl.curEvent.event.choosesIsn m
      else s.hist id := by
  by_cases hid : id = s.session
  · subst hid
    simp only [CloseSys.send, SessHist.step, SessHist.send, if_true, CloseSys.hist]
    split_ifs <;> simp [*]
  · simp only [CloseSys.send, if_neg hid]
    split_ifs <;> simp [CloseSys.hist, Function.update_of_ne hid]

/-- The segments of a call are about the session of the loader. -/
lemma hist_sends (ms : List TXeMeta) (s : CloseSys) (id : SessionId) :
    (ms.foldl CloseSys.send s).hist id =
      if id = s.session then (s.hist id).steps s.app.tx.mdl.curEvent.event.choosesIsn ms
      else s.hist id := by
  induction ms generalizing s with
  | nil =>
      split <;> rfl
  | cons m ms ih =>
      rw [List.foldl_cons, ih, hist_send, CloseSys.session, send_app, CloseSys.session]
      split <;> rfl

end History

/-! ### The steps of the loader and of the table -/

section Steps

variable {s : CloseSys}

lemma safe_of_histSafe {id : SessionId} {m : TXeMeta} (h : HistSafe (s.hist id) m) :
    SegmentSafe s id m :=
  ⟨h.fin, h.payload, h.beyond⟩

/-- The queries of a call for an event are about its session. -/
lemma pMetaDataLoader_session {m : MdlState} (hst : m.fsmState = .processEvent) :
    ∀ q ∈ (pMetaDataLoader m).2.txSarQry, q.sessionID = m.sessionID := by
  intro q hq
  rw [pMetaDataLoader_processEvent hst] at hq
  obtain heq | ⟨t, -, hev, heff⟩ := mdlProcessEvent_effect hst
  · rw [heq] at hq
    cases hq
  · rw [(heff.write q hq).2, MdlState.sessionID, hev]
    rfl

lemma closing_loader {s : TxAppSystem} {id : SessionId}
    (h : (txAppNext s (.tx .loader)).Closing id) : s.Closing id :=
  closing_next (fun _ he => (List.not_mem_nil he).elim) h

/-- A call of the loader that sends nothing and writes nothing. -/
lemma closeHistory_of_nil (hmeta : (pMetaDataLoader s.app.tx.mdl).2.txeMeta = []) :
    closeHistory s (.tx .loader) = s := by
  rw [closeHistory, hmeta]
  rfl

/-- The loader takes an event. -/
lemma SessionsInv.takes {e : ExtendedEvent} {es : List ExtendedEvent} (h : CloseInv s)
    (hst : s.app.tx.mdl.fsmState = .waitEvent) (hq : s.app.tx.mdl.siEvent = e :: es)
    (hev : (pMetaDataLoader s.app.tx.mdl).1.curEvent = e)
    (hst' : (pMetaDataLoader s.app.tx.mdl).1.fsmState = .processEvent)
    (hl : (pMetaDataLoader s.app.tx.mdl).1.sarLoaded = false)
    (hrep : (pMetaDataLoader s.app.tx.mdl).1.siTxSarRep = s.app.tx.mdl.siTxSarRep)
    (hsees : ∀ id, (loaderCall s.app.tx).sees id = s.app.tx.sees id) :
    SessionsInv s.hist (txAppNext s.app (.tx .loader)) := by
  have hunak (id : SessionId) : (s.app.tx.sees id).unak = (s.hist id).next := by
    by_cases hid : id = s.app.tx.mdl.sessionID
    · rw [hid]
      exact h.sessions.loader.unak fun htr => absurd (hst.symm.trans htr.1) (by simp)
    · exact h.sessions.others id hid
  have hnil : s.app.tx.mdl.siTxSarRep = [] := by
    have hshape := h.app.shape.mdl
    cases hshape with
    | quiet _ _ hr => exact hr
    | loaded hp | asked hp | answered hp =>
        rw [hst] at hp
        cases hp
  refine ⟨fun id => ?_, ⟨fun _ => ?_, fun _ htype => ?_, fun x hx => ?_⟩, fun id _ => ?_⟩
  · have hsess := (h.sessions.sess id).mono (.refl _) (List.Sublist.refl _) closing_loader
    rw [← hsees id] at hsess
    exact hsess
  · exact (congrArg TxSarEntry.unak (hsees _)).trans (hunak _)
  · -- the `FIN_EVENT` was on its way
    have hmem : e.event ∈ s.app.events :=
      List.mem_append_right _ (List.mem_map_of_mem (by rw [hq]; exact List.mem_cons_self))
    have hcur : (pMetaDataLoader s.app.tx.mdl).1.curEvent.event = e.event := by rw [hev]
    exact (h.sessions.sess _).closing ⟨e.event, hmem, hcur ▸ htype, by rw [← hcur]; rfl⟩
  · have hheld : (pMetaDataLoader s.app.tx.mdl).1.held = none := by
      rw [MdlState.held, hst']
      simp [hl, hrep, hnil]
    exact absurd (hheld.symm.trans hx) (by simp)
  · exact (congrArg TxSarEntry.unak (hsees id)).trans (hunak id)

/-- **A call of the loader.** -/
lemma CloseInv.loader (h : CloseInv s) (hg : LoaderGuard s) :
    CloseSafe s (.tx .loader) ∧
      SessionsInv (closeNext s (.tx .loader)).hist (txAppNext s.app (.tx .loader)) := by
  have hwait (hmeta : (pMetaDataLoader s.app.tx.mdl).2.txeMeta = [])
      (h' : SessionsInv s.hist (txAppNext s.app (.tx .loader))) :
      CloseSafe s (.tx .loader) ∧
        SessionsInv (closeNext s (.tx .loader)).hist (txAppNext s.app (.tx .loader)) := by
    refine ⟨fun m hm => ?_, ?_⟩
    · rw [hmeta] at hm
      cases hm
    · rw [show (closeNext s (.tx .loader)).hist = (closeHistory s (.tx .loader)).hist from rfl,
        closeHistory_of_nil hmeta]
      exact h'
  have hsees' (id : SessionId) : (loaderCall s.app.tx).sees id =
      txAfter id (s.app.tx.sees id) (pMetaDataLoader s.app.tx.mdl).2.txSarQry :=
    sees_loaderCall _ _
  cases hst : s.app.tx.mdl.fsmState with
  | waitEvent =>
      cases pMetaDataLoader_call s.app.tx.mdl with
      | idle _ hr =>
          refine hwait (by rw [hr]) (h.sessions.frame (fun id => .inr ⟨rfl, closing_loader⟩)
            (fun id => ?_) (fun id => List.Sublist.refl _) ?_)
          · have hsame : (loaderCall s.app.tx).sees id = s.app.tx.sees id := by
              rw [hsees', hr]
              rfl
            exact hsame.symm ▸ SameTx.refl _
          · simp only [txAppNext, txNext, loaderCall, TxSystem.askTXe, hr]
            exact ⟨rfl, rfl, rfl, rfl⟩
      | takes _ hq hev hst' hl hrep _ hmeta hqry =>
          refine hwait hmeta (.takes h hst hq hev hst' hl hrep fun id => ?_)
          rw [hsees', hqry]
          refine txAfter_of_other fun q hq hw => ?_
          obtain hnil | hrd := mdlQueries_eq (pMetaDataLoader s.app.tx.mdl).1.curEvent.event
          · rw [← hev, hnil] at hq
            cases hq
          · rw [← hev, hrd] at hq
            rw [List.mem_singleton.mp hq] at hw
            cases hw
      | waits hp | tx hp | rt hp | fin hp | init hp | header hp =>
          rw [hst] at hp
          cases hp
  | processEvent =>
      obtain ⟨hopen, hload⟩ := hg hst
      have hok := LoaderOk.of_call hst h.sessions.loader (h.sessions.sess _)
        (fun hisn => ⟨(hopen hisn).1, fun hsyn => by
          obtain ⟨e, he, htype, hid⟩ := hsyn
          exact (hopen hisn).2 e he htype hid⟩)
        hload (h.app.cur hst)
      have hhist (id : SessionId) : (closeNext s (.tx .loader)).hist id =
          if id = s.app.tx.mdl.sessionID then (s.hist id).steps
            s.app.tx.mdl.curEvent.event.choosesIsn (pMetaDataLoader s.app.tx.mdl).2.txeMeta
          else s.hist id := hist_sends _ s id
      have hother (id : SessionId) (hid : id ≠ s.app.tx.mdl.sessionID) :
          (loaderCall s.app.tx).sees id = s.app.tx.sees id := by
        rw [hsees']
        refine txAfter_of_other fun q hq _ heq => hid ?_
        rw [← heq, pMetaDataLoader_session hst q hq]
      have hsess : (txAppNext s.app (.tx .loader)).tx.mdl.sessionID = s.app.tx.mdl.sessionID :=
        hok.session
      refine ⟨fun m hm => safe_of_histSafe (hok.safe m hm), fun id => ?_, ?_, fun id hid => ?_⟩
      · rw [hhist]
        split
        · next hid =>
            subst hid
            have hinv := hok.inv.mono (.refl _) (List.Sublist.refl _) closing_loader
            rw [← hsees'] at hinv
            exact hinv
        · next hid =>
            have hinv := (h.sessions.sess id).mono (.refl _) (List.Sublist.refl _) closing_loader
            rw [← hother id hid] at hinv
            exact hinv
      · rw [hsess, hhist, if_pos rfl]
        have hl := hok.loader
        rw [← hsees'] at hl
        exact hl
      · rw [hsess] at hid
        rw [hhist, if_neg hid, ← h.sessions.others id hid]
        exact congrArg TxSarEntry.unak (hother id hid)

/-- The loader reads the entry. -/
lemma SessInv.reads {h : SessHist} {e : TxSarEntry} {ptrs : List TxBufPtr} {closing : Prop}
    {ev : Event} (hs : SessInv h e ptrs closing) (hunak : e.unak = h.next)
    (hfirst : ev.type = .fin → e.appw = h.accPtr) (hrt : ev.type = .fin → ev.rtCount = 0) :
    HeldOk h e ev (txSarReplyTXe e) where
  notAckd := hunak
  finSent := hs.finSent
  finReady := hs.finReady
  app := Nat.le_refl _
  first htype _ := hfirst htype
  again htype hne := absurd (hrt htype) hne

/-- A call of the Tx SAR table. -/
lemma CloseInv.table (h : CloseInv s) (hg : CloseGuard s (.tx .table)) :
    SessionsInv s.hist (txAppNext s.app (.tx .table)) := by
  have hT := tableCall_cases s.app.tx
  have hclosing (id : SessionId) (hc : (txAppNext s.app (.tx .table)).Closing id) :
      s.app.Closing id := closing_next (fun _ he => (List.not_mem_nil he).elim) hc
  have hpush (id : SessionId) {p : TAiTxSarPush} {ps : List TAiTxSarPush}
      (hps : s.app.tx.tst.siTAiPushCmd = p :: ps)
      (hps' : (tableCall s.app.tx).tst.siTAiPushCmd = ps) (hid : p.sessionID = id) :
      SessInv (s.hist id) (s.app.tx.sees id)
        (p.app :: (txAppNext s.app (.tx .table)).unread id) (s.app.Closing id) := by
    obtain hsame | hunread := (unread_table hT).2 p ps hps hid
    · rw [hps', hps] at hsame
      exact absurd hsame.symm (List.cons_ne_self p ps)
    · have hs := h.sessions.sess id
      rw [hunread] at hs
      exact hs
  have hunak (id : SessionId) :
      ((tableCall s.app.tx).sees id).unak = (s.app.tx.sees id).unak := by
    obtain hsame | ⟨p, ps, -, -, -, hsees⟩ := @sees_table _ _ id hT
    · exact hsame.unak
    · rw [hsees]
  refine ⟨fun id => ?_, ⟨fun htr => ?_, h.sessions.loader.taken, fun x hx => ?_⟩, fun id hid => ?_⟩
  · obtain hsame | ⟨p, ps, hps, hps', hid, hsees⟩ := @sees_table _ _ id hT
    · exact (h.sessions.sess id).mono hsame (unread_table hT).1 (hclosing id)
    · have hs := (hpush id hps hps' hid).push.mono (.refl _) (List.Sublist.refl _) (hclosing id)
      rw [← hsees] at hs
      exact hs
  · exact (hunak _).trans (h.sessions.loader.unak htr)
  · -- what the loader holds fits the entry as it was, and then as it is
    have hold : HeldOk (s.hist s.app.tx.mdl.sessionID) (s.app.tx.sees s.app.tx.mdl.sessionID)
        s.app.tx.mdl.curEvent.event x := by
      obtain hsame | ⟨hnone, hst, hhead, hsees, hnew⟩ := held_table h.app.shape hT
      · exact h.sessions.loader.held x (hsame.symm.trans hx)
      · have hl : s.app.tx.mdl.sarLoaded = false := by
          cases hl : s.app.tx.mdl.sarLoaded with
          | false => rfl
          | true =>
              rw [held_of_loaded hst hl] at hnone
              cases hnone
        rw [← Option.some.inj (hnew.symm.trans hx)]
        refine (h.sessions.sess _).reads ?_ (fun htype => ?_) fun htype => ?_
        · exact h.sessions.loader.unak fun htr => absurd (hl.symm.trans htr.2.1) (by simp)
        · rw [hsees]
          exact hg _ hhead rfl htype
        · exact of_decide_eq_true (h.app.taken hst hl) (.inr htype)
    obtain hsame | ⟨p, ps, hps, hps', hid, hsees⟩ :=
      @sees_table _ _ s.app.tx.mdl.sessionID hT
    · exact hold.mono hsame
    · have hx' := hold.push (hpush _ hps hps' hid)
      rw [← hsees] at hx'
      exact hx'
  · exact (hunak id).trans (h.sessions.others id hid)

lemma LoaderInv.accept {m : MdlState} {h : SessHist} {e : TxSarEntry} {n : TcpDatLen}
    (hl : LoaderInv m h e) (hclosed : h.closed = none) : LoaderInv m (h.accept n) e where
  unak := hl.unak
  taken := hl.taken
  held x hx := by
    refine (hl.held x hx).accept hclosed (hl.taken ?_)
    cases hst : m.fsmState with
    | processEvent => rfl
    | waitEvent =>
        rw [held_of_wait hst] at hx
        cases hx

/-- A call of `pStreamMetaLoader`. -/
lemma CloseInv.sml (h : CloseInv s) (sndRepFull : Bool) (hg : CloseGuard s (.sml sndRepFull)) :
    SessionsInv (closeNext s (.sml sndRepFull)).hist (txAppNext s.app (.sml sndRepFull)) := by
  have hunread (id : SessionId) :=
    @unread_next _ id h.app.tac h.app.tash (.sml sndRepFull)
  have hclosing (id : SessionId) (hc : (txAppNext s.app (.sml sndRepFull)).Closing id) :
      s.app.Closing id := by
    refine closing_next (fun e he htype => ?_) hc
    simp only [TxAppSystem.raised, pStreamMetaLoader_event] at he
    cases hgrant : smlGrants s.app.sml sndRepFull with
    | none =>
        rw [hgrant] at he
        cases he
    | some r =>
        rw [hgrant] at he
        rw [List.mem_singleton.mp he] at htype
        cases htype
  have hsess (id : SessionId) := (h.sessions.sess id).mono (.refl _) (List.Sublist.refl _)
    (hclosing id)
  cases hgrant : smlGrants s.app.sml sndRepFull with
  | none =>
      have hhist : closeHistory s (.sml sndRepFull) = s := by
        rw [closeHistory, hgrant]
        rfl
      simp only [TxAppSystem.granted, hgrant, Option.elim, List.append_nil] at hunread
      rw [show (closeNext s (.sml sndRepFull)).hist = (closeHistory s (.sml sndRepFull)).hist
        from rfl, hhist]
      exact h.sessions.frame (fun id => .inr ⟨rfl, hclosing id⟩) (fun _ => .refl _) hunread
        ⟨rfl, rfl, rfl, rfl⟩
  | some r =>
      obtain ⟨req, rep⟩ := r
      obtain ⟨hclosed, hmempt, hroom⟩ := hg _ hgrant
      have hhist (id : SessionId) : (closeNext s (.sml sndRepFull)).hist id =
          if req.sessId = id then (s.hist id).accept req.length else s.hist id := by
        rw [← hist_accept]
        rw [show (closeNext s (.sml sndRepFull)).hist = (closeHistory s (.sml sndRepFull)).hist
          from rfl, closeHistory, hgrant]
        rfl
      simp only [TxAppSystem.granted, hgrant, Option.elim] at hunread
      refine ⟨fun id => ?_, ?_, fun id hid => ?_⟩
      · have hle := hunread id
        rw [txPtrs_tx rfl] at hle
        rw [hhist]
        by_cases hid : req.sessId = id
        · rw [if_pos (show (smlTxEvent req rep).sessionID = id from hid)] at hle
          rw [if_pos hid]
          subst hid
          refine ((hsess _).accept hclosed hroom).mono (.refl _) ?_ fun hc => hc
          rw [show (smlTxEvent req rep).txAppPtr = rep.mempt + req.length from rfl, hmempt] at hle
          exact hle
        · rw [if_neg (show (smlTxEvent req rep).sessionID ≠ id from hid), List.append_nil] at hle
          rw [if_neg hid]
          exact (hsess id).mono (.refl _) hle fun hc => hc
      · rw [hhist]
        split
        · next hid => exact h.sessions.loader.accept (by rw [← hclosed, hid]; rfl)
        · exact h.sessions.loader
      · rw [hhist]
        split
        · exact h.sessions.others id hid
        · exact h.sessions.others id hid

/-- A step that neither sends nor accepts bytes. -/
lemma CloseInv.other {l : TxAppLabel} (h : CloseInv s) (hloader : l ≠ .tx .loader)
    (htable : l ≠ .tx .table) (hgranted : ∀ id, s.app.granted id l = [])
    (hhist : closeHistory s l = (s.app.raised l).foldl CloseSys.close s) :
    SessionsInv (closeNext s l).hist (txAppNext s.app l) := by
  obtain ⟨hsees, hmdl⟩ := sees_txAppNext s.app hloader htable
  refine h.sessions.frame (fun id => ?_) (fun id => hsees id ▸ .refl _) (fun id => ?_) hmdl
  · rw [show (closeNext s l).hist = (closeHistory s l).hist from rfl, hhist]
    exact (hist_closes (s.app.raised l) s id).imp_right fun ⟨hsame, hno⟩ =>
      ⟨hsame, closing_next hno⟩
  · have hle := @unread_next _ id h.app.tac h.app.tash l
    rw [hgranted, List.append_nil] at hle
    exact hle

/-- **Every step** that meets the guard sends safe segments only, and keeps the invariant. -/
theorem CloseInv.next (h : CloseInv s) (l : TxAppLabel) (hg : CloseGuard s l) :
    CloseSafe s l ∧ CloseInv (closeNext s l) := by
  have happ := h.app.next l
  cases l with
  | tx l =>
      cases l with
      | loader => exact ⟨(h.loader hg).1, happ, (h.loader hg).2⟩
      | table => exact ⟨trivial, happ, h.table hg⟩
      | load | transition | event | rxSarRep | push =>
          exact ⟨trivial, happ, h.other (by simp) (by simp) (fun _ => rfl) rfl⟩
  | sml sndRepFull => exact ⟨trivial, happ, h.sml sndRepFull hg⟩
  | ackPush | tat | sndReq | sessState | tac | emx | memSts | tash | eve =>
      exact ⟨trivial, happ, h.other (by simp) (by simp) (fun _ => rfl) rfl⟩

end Steps

/-! ### The runs -/

/-- Nothing is under way, and every session is as after its initialisation. -/
structure CloseStart (s : CloseSys) : Prop where
  tx : TxIdle s.app.tx
  siTAiPushCmd : s.app.tx.tst.siTAiPushCmd = []
  tash : s.app.tash.fsmState = .idle ∧ s.app.tash.siEmxEvent = []
  events : s.app.smlEvent = [] ∧ s.app.tacEvent = [] ∧ s.app.eveEvent = [] ∧
    s.app.tx.mdl.siEvent = []
  entry : ∀ id, (s.app.tx.tst.table id).appw = (s.app.tx.tst.table id).unak.setWidth 16 ∧
    (s.app.tx.tst.table id).finReady = false ∧ (s.app.tx.tst.table id).finSent = false
  hist : ∀ id, s.hist id = .opened (s.app.tx.tst.table id).unak

lemma CloseStart.inv {s : CloseSys} (h : CloseStart s) : CloseInv s := by
  obtain ⟨htash, hemx⟩ := h.tash
  obtain ⟨hsml, htac, heve, hmdl⟩ := h.events
  have hunannounced : s.app.unannounced = [] := by
    simp [TxAppSystem.unannounced, htash, hemx, hsml]
  have hevents : s.app.events = [] := by
    simp [TxAppSystem.events, hunannounced, htac, heve, hmdl]
  have hwait {P : Prop} : s.app.tx.mdl.fsmState = .processEvent → P := fun hp =>
    absurd (h.tx.fsmState.symm.trans hp) (by simp)
  have hsees (id : SessionId) : s.app.tx.sees id = s.app.tx.tst.table id :=
    sees_of_nil h.tx.siTXeTxSarQry
  have hunread (id : SessionId) : s.app.unread id = [] := by
    simp [TxAppSystem.unread, h.siTAiPushCmd, hunannounced]
  refine ⟨⟨h.tx.shape, ?_, fun hne => absurd htash hne, ?_, hwait, hwait⟩, fun id => ?_,
    loaderInv_of_wait h.tx.fsmState ?_, fun id _ => ?_⟩
  · simp [htac]
  · simp [hevents]
  · obtain ⟨happw, hready, hsent⟩ := h.entry id
    have hclosing : ¬s.app.Closing id := by
      rintro ⟨e, he, -⟩
      simp [hevents] at he
    rw [h.hist id, hunread, hsees]
    refine ⟨(fun c hc => by cases hc), (fun f hf => by cases hf), fun hc => absurd hc hclosing,
      hsent, (fun hr => absurd (hready.symm.trans hr) (by simp)), by simp [SessHist.opened], ?_⟩
    refine List.pairwise_pair.mpr ?_
    rw [happw]
    exact onArc_left _ _
  · rw [hsees, h.hist]
    rfl
  · rw [hsees, h.hist]
    rfl

/-- **The FIN of a connection is sent behind its bytes**: along every run whose steps meet the
guard, a FIN has the number behind the last byte accepted before the close, with all bytes before
it sent, and no byte is sent that was not accepted, or that lies at or beyond the FIN. -/
theorem closeOrder_safe {s : CloseSys} {ls : List TxAppLabel} (hs : CloseStart s)
    (hC : Clocked.Along closeNext CloseGuard s ls) : Clocked.Along closeNext CloseSafe s ls := by
  have hstep (s : CloseSys) (l : TxAppLabel) (hinv : CloseInv s) (hg : CloseGuard s l) :
      CloseSafe s l ∧ CloseInv (closeNext s l) := hinv.next l hg
  exact Clocked.along_of_inv hstep hs.inv hC

/-! ### A FIN that overtakes bytes -/

instance (s : CloseSys) : DecidablePred (CloseGuard s)
  | .tx .loader => inferInstanceAs (Decidable (LoaderGuard s))
  | .tx .table => inferInstanceAs (Decidable (∀ q ∈ _, _ → _ → _))
  | .sml sndRepFull =>
      inferInstanceAs (Decidable (∀ r ∈ smlGrants s.app.sml sndRepFull, GrantGuard s r.1 r.2))
  | .tx (.load _) | .tx (.transition ..) | .tx (.event _) | .tx (.rxSarRep _) | .tx (.push _)
  | .ackPush | .tat | .sndReq _ | .sessState _ | .tac .. | .emx | .memSts _ | .tash | .eve _ =>
      isTrue trivial

instance (s : CloseSys) : Decidable (CloseSafe s (.tx .loader)) :=
  inferInstanceAs (Decidable (∀ m ∈ _, SegmentSafe s s.session m))

/-- The tables are empty, and nothing is under way. -/
def closeStart : CloseSys where
  app := { tx := {
    tst := { table := fun _ => {} }
    mdl := { curEvent := ⟨{ type := .ack, sessionID := 0 }, ⟨⟨0, 0⟩, ⟨0, 0⟩⟩⟩ } } }
  accEnd _ := 0
  sent _ := 0

lemma closeStart_start : CloseStart closeStart where
  tx := ⟨rfl, rfl, rfl, rfl, rfl, rfl⟩
  siTAiPushCmd := rfl
  tash := ⟨rfl, rfl⟩
  events := ⟨rfl, rfl, rfl, rfl⟩
  entry _ := ⟨rfl, rfl, rfl⟩
  hist _ := rfl

/-- Session 0 is opened, and the SYN+ACK arrives. -/
def closeOpens : List TxAppLabel :=
  [.tac { siSLcSessLookupRep := [⟨0, true⟩] } {}, .emx, .tash, .eve ⟨⟨0, 0⟩, ⟨0, 0⟩⟩, .tx .loader,
    .tx .loader, .tx .table, .ackPush, .tat,
    .tx (.load { sessionId := 0, seqNumb := 0, length := 4, ackNumb := 100002, winSize := 0xFFFF
                 ack := true, syn := true }),
    .tx .table, .tx (.transition .synSent {} {}), .tx .table, .ackPush, .tat]

/-- The application sends 10 bytes. -/
def closeWrites : List TxAppLabel :=
  [.sndReq ⟨0, 10⟩, .sml false, .tat, .sessState .established, .sml false, .tat]

/-- The application closes the connection. -/
def closeCloses : List TxAppLabel :=
  [.tac { fsmState := .closeConn } { stateRep := some .established }]

/-- An event of the application interface goes to the Tx engine, and the loader processes it. -/
def closeServes : List TxAppLabel :=
  [.emx, .memSts ⟨0, false, false, false, true⟩, .tash, .tash, .tx .table, .eve ⟨⟨0, 0⟩, ⟨0, 0⟩⟩,
    .tx .loader, .tx (.rxSarRep {}), .tx .table, .tx .loader, .tx .table]

/-- The bytes are sent, and then the connection is closed. -/
theorem closeOrder_safe_close :
    Clocked.Along closeNext CloseSafe closeStart
      (closeOpens ++ closeWrites ++ closeServes ++ closeCloses ++ closeServes) :=
  closeOrder_safe closeStart_start (by decide +kernel)

/-- The FIN of a connection that is closed after 10 bytes were accepted overtakes them: it is sent
with the number of the first of them. -/
theorem closeOrder_fin_overtakes :
    CloseStart closeStart ∧ ¬Clocked.Along closeNext CloseSafe closeStart
      (closeOpens ++ closeWrites ++ closeCloses ++ closeServes) := by
  refine ⟨closeStart_start, fun h => ?_⟩
  rw [show closeServes = closeServes.take 9 ++ closeServes.drop 9 from rfl, ← List.append_assoc] at h
  have hsafe := ((Clocked.along_append closeNext).mp h).2.1
  revert hsafe
  decide +kernel

end CloudFpga.Toe
