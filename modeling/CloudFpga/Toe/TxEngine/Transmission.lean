import CloudFpga.Toe.TxEngine.EventRun

/-!
The segments of a `TX_EVENT`.

* `txPending`, `txTotal`: the pending data, and what of them the usable window admits.
* `txCase_cases`, `txTotal_fragment`: the cases of a call, and what a full segment leaves.
* `Transmits`: the segments cover these data, and with all data and a FIN that is ready the FIN
  follows.
* `FinLost`: the FIN is ready, and the window admits all data, which are not empty.
* `transmits_iff`: a transmission is right exactly without a `FinLost`.
-/

namespace CloudFpga.Toe

/-! ### Windows -/

/-- The pending data. -/
def txPending (x : TXeTxSarReply) : TcpDatLen := x.app - x.notAckd.setWidth 16

/-- What of the pending data the usable window admits. -/
def txTotal (x : TXeTxSarReply) : ℕ := min (txPending x).toNat (usableWindow x).toNat

/-- The entry behind a full segment. -/
def afterFragment (x : TXeTxSarReply) : TXeTxSarReply :=
  { x with notAckd := x.notAckd + mssPayload.setWidth 32 }

section Window

variable {x : TXeTxSarReply}

lemma usableWindow_toNat (x : TXeTxSarReply) :
    (usableWindow x).toNat =
      x.minWindow.toNat - (x.notAckd.setWidth 16 - x.ackd.setWidth 16 : TxBufPtr).toNat := by
  rw [usableWindow]
  split
  · next h =>
      exact BitVec.toNat_sub_of_le (BitVec.le_of_lt h)
  · next h =>
      have hle := BitVec.le_def.mp (BitVec.not_lt.mp h)
      rw [Nat.sub_eq_zero_of_le hle]
      rfl

/-- The cases of a transmission. -/
lemma txCase_cases (x : TXeTxSarReply) :
    (txCase x = .fragment ∧ zyc2Mss - tcpHeaderLen ≤ txTotal x ∧
        zyc2Mss - tcpHeaderLen < (txPending x).toNat) ∨
      (txCase x = .fin ∧ x.finReady = true ∧ txPending x ≤ usableWindow x ∧
        (x.ackd = x.notAckd ∨ txPending x = 0)) ∨
      ∃ n, txCase x = .last n ∧ n.toNat = txTotal x ∧ n.toNat ≤ zyc2Mss - tcpHeaderLen ∧
        (x.finReady = true → txPending x ≤ usableWindow x → txPending x ≠ 0) := by
  have hmss : zyc2Mss = 1352 ∧ tcpHeaderLen = 20 := ⟨rfl, rfl⟩
  have hcase : txCase x = if txPending x ≤ usableWindow x then
      if (txPending x).toNat + tcpHeaderLen > zyc2Mss then .fragment
      else if x.finReady ∧ (x.ackd = x.notAckd ∨ txPending x = 0) then .fin
      else .last (txPending x)
    else if (usableWindow x).toNat + tcpHeaderLen ≥ zyc2Mss then .fragment
    else .last (usableWindow x) := rfl
  rw [hcase, txTotal]
  by_cases hle : txPending x ≤ usableWindow x
  · have hnat := BitVec.le_def.mp hle
    rw [if_pos hle, Nat.min_eq_left hnat]
    by_cases hfrag : (txPending x).toNat + tcpHeaderLen > zyc2Mss
    · rw [if_pos hfrag]
      exact .inl ⟨rfl, by omega, by omega⟩
    · rw [if_neg hfrag]
      by_cases hfin : x.finReady ∧ (x.ackd = x.notAckd ∨ txPending x = 0)
      · rw [if_pos hfin]
        exact .inr (.inl ⟨rfl, hfin.1, hle, hfin.2⟩)
      · rw [if_neg hfin]
        exact .inr (.inr ⟨_, rfl, rfl, by omega, fun hready _ hzero => hfin ⟨hready, .inr hzero⟩⟩)
  · have hnat : ¬ (txPending x).toNat ≤ (usableWindow x).toNat := fun h => hle (BitVec.le_def.mpr h)
    rw [if_neg hle, Nat.min_eq_right (by omega)]
    by_cases hfrag : (usableWindow x).toNat + tcpHeaderLen ≥ zyc2Mss
    · rw [if_pos hfrag]
      exact .inl ⟨rfl, by omega, by omega⟩
    · rw [if_neg hfrag]
      exact .inr (.inr ⟨_, rfl, rfl, by omega, fun _ h => absurd h hle⟩)

/-- What a full segment leaves. -/
lemma txTotal_fragment (h : zyc2Mss - tcpHeaderLen ≤ txTotal x) :
    txTotal (afterFragment x) + (zyc2Mss - tcpHeaderLen) = txTotal x ∧
      (txPending (afterFragment x)).toNat + (zyc2Mss - tcpHeaderLen) = (txPending x).toNat ∧
      (afterFragment x).ackd ≠ (afterFragment x).notAckd := by
  have hmss : zyc2Mss - tcpHeaderLen = 1332 := rfl
  have hpay : mssPayload.toNat = 1332 := rfl
  have hnext : (afterFragment x).notAckd.setWidth 16 = x.notAckd.setWidth 16 + mssPayload := by
    show (x.notAckd + mssPayload.setWidth 32).setWidth 16 = _
    rw [BitVec.setWidth_add _ _ (by decide), BitVec.setWidth_setWidth_of_le _ (by decide),
      BitVec.setWidth_eq]
  have happ : (afterFragment x).app = x.app := by rw [afterFragment]
  have hackd : (afterFragment x).ackd = x.ackd := by rw [afterFragment]
  have hmin : (afterFragment x).minWindow = x.minWindow := by rw [afterFragment]
  have hsub : ∀ a b c : BitVec 16, a - (b + c) = a - b - c := by
    intro a b c
    bv_omega
  have hadd : ∀ a b c : BitVec 16, a + b - c = a - c + b := by
    intro a b c
    bv_omega
  have hw := x.minWindow.isLt
  rw [txTotal, usableWindow_toNat] at h
  have hpending : (txPending (afterFragment x)).toNat + 1332 = (txPending x).toNat := by
    have heq : txPending (afterFragment x) = txPending x - mssPayload := by
      rw [txPending, txPending, hnext, happ, hsub]
    rw [heq, BitVec.toNat_sub_of_le (BitVec.le_def.mpr (by omega))]
    omega
  have hused : (x.notAckd.setWidth 16 - x.ackd.setWidth 16 : TxBufPtr).toNat + 1332 =
      ((afterFragment x).notAckd.setWidth 16 - (afterFragment x).ackd.setWidth 16 :
        TxBufPtr).toNat := by
    have heq : ((afterFragment x).notAckd.setWidth 16 - (afterFragment x).ackd.setWidth 16 :
        TxBufPtr) = (x.notAckd.setWidth 16 - x.ackd.setWidth 16) + mssPayload := by
      rw [hnext, hackd, hadd]
    rw [heq, BitVec.toNat_add_of_lt (by omega), hpay]
  refine ⟨?_, by omega, fun heq => ?_⟩
  · rw [txTotal, txTotal, usableWindow_toNat, usableWindow_toNat, ← hused, hmin]
    omega
  · rw [heq, BitVec.sub_self] at hused
    have h0 : (0#16).toNat = 0 := rfl
    omega

/-- Behind a full segment there is no FIN yet. -/
lemma txCase_afterFragment (h : zyc2Mss - tcpHeaderLen ≤ txTotal x)
    (hlt : zyc2Mss - tcpHeaderLen < (txPending x).toNat) : txCase (afterFragment x) ≠ .fin := by
  obtain ⟨-, hpending, hne⟩ := txTotal_fragment h
  rcases txCase_cases (afterFragment x) with ⟨hcase, -⟩ | ⟨-, -, -, hor⟩ | ⟨n, hcase, -⟩
  · rw [hcase]
    nofun
  · rcases hor with heq | hzero
    · exact absurd heq hne
    · rw [hzero] at hpending
      have h0 : BitVec.toNat (0 : TcpDatLen) = 0 := rfl
      omega
  · rw [hcase]
    nofun

end Window

/-! ### Segments -/

section Segments

variable {t : MdlState} {cs : List MdlArrivals} {x : TXeTxSarReply}

lemma mdlProcessEvent_tx (h : t.curEvent.event.type = .tx) : mdlProcessEvent t =
    match mdlLoadSar t with
    | some t => mdlTxSegment t
    | none => (t, {}) := by
  rw [mdlProcessEvent, h]
  rfl

/-- The next call works with the entry that is loaded. -/
lemma mdlRun_loaded {a : MdlArrivals} (hst : t.fsmState = .processEvent)
    (htype : t.curEvent.event.type = .tx) (hl : t.sarLoaded = true) :
    mdlRun t (a :: cs) = mdlThen (mdlTxSegment (t.feed a)) cs := by
  have hload : mdlLoadSar (t.feed a) = some (t.feed a) := by
    rw [mdlLoadSar, if_pos (show (t.feed a).sarLoaded = true from hl)]
  rw [mdlRun_cons hst, mdlProcessEvent_tx (t := t.feed a) htype, hload]

/-- The last segment. -/
lemma tx_last {n : TcpDatLen} (hcase : txCase t.txSar = .last n) :
    mdlTxSegment t =
      ({ t with
          txSar := { t.txSar with notAckd := t.txSar.notAckd + n.setWidth 32 }
          sarLoaded := true
          fsmState := .waitEvent },
        { mdlSend t.sessionID (txMemSegAddr t.sessionID t.txSar.notAckd)
            (mdlMeta t.rxSar t.txSar.notAckd n) with
          txSarQry := [.wr t.sessionID (t.txSar.notAckd + n.setWidth 32)] }) := by
  rw [mdlTxSegment, mdlTxSend, hcase]
  rfl

/-- A full segment. -/
lemma tx_fragment (hcase : txCase t.txSar = .fragment) :
    mdlTxSegment t = ({ t with txSar := afterFragment t.txSar, sarLoaded := true },
      mdlSend t.sessionID (txMemSegAddr t.sessionID t.txSar.notAckd)
        (mdlMeta t.rxSar t.txSar.notAckd mssPayload)) := by
  rw [mdlTxSegment, mdlTxSend, hcase]
  rfl

/-- The pending data that the window admits are sent, read and written back. -/
structure Plain (id : SessionId) (x : TXeTxSarReply) (r : MdlState × List MdlOut) : Prop where
  fsmState : r.1.fsmState = .waitEvent
  covers : Covers x.notAckd (txTotal x) (sentMetas r.2)
  reads : readCmds r.2 =
    (sentMetas r.2).map fun m => .ofAddrLen (txMemSegAddr id m.seqNumb) m.length
  writes : writtenBack r.2 = [.wr id (x.notAckd + BitVec.ofNat 32 (txTotal x))]

/-- The last segment covers the rest. -/
lemma plain_last {n : TcpDatLen} (hcase : txCase t.txSar = .last n)
    (htotal : n.toNat = txTotal t.txSar) (hle : n.toNat ≤ zyc2Mss - tcpHeaderLen) :
    Plain t.sessionID t.txSar (mdlThen (mdlTxSegment t) cs) := by
  have hwidth : n.setWidth 32 = BitVec.ofNat 32 (txTotal t.txSar) := by
    rw [← htotal, BitVec.ofNat_toNat]
  obtain ⟨hmeta, hread, hqry⟩ := @mdlSend_out t.txSar.notAckd t.sessionID
    (txMemSegAddr t.sessionID t.txSar.notAckd) t.rxSar n
  rw [tx_last hcase, mdlThen, mdlRun_done rfl]
  refine ⟨rfl, ?_, ?_, ?_⟩
  · rw [sentMetas_cons]
    dsimp only
    rw [hmeta]
    by_cases h0 : n = 0
    · rw [if_pos h0, ← htotal, h0]
      rfl
    · rw [if_neg h0, ← htotal]
      refine Covers.cons (Nat.one_le_iff_ne_zero.mpr fun h => h0 ?_) hle le_rfl (Nat.sub_self _)
      exact BitVec.eq_of_toNat_eq h
  · rw [readCmds_cons, sentMetas_cons]
    dsimp only
    rw [hmeta, hread]
    split <;> rfl
  · rw [writtenBack_cons, ← hwidth]
    rfl

/-- **The segments without a FIN.** -/
lemma plain_of_case (hst : t.fsmState = .processEvent) (htype : t.curEvent.event.type = .tx)
    (hcase : txCase t.txSar ≠ .fin) (hcs : txTotal t.txSar / (zyc2Mss - tcpHeaderLen) ≤ cs.length) :
    Plain t.sessionID t.txSar (mdlThen (mdlTxSegment t) cs) := by
  have hmss : zyc2Mss - tcpHeaderLen = 1332 := rfl
  induction cs generalizing t with
  | nil =>
      rcases txCase_cases t.txSar with ⟨-, hle, -⟩ | ⟨hfin, -⟩ | ⟨n, hlast, htotal, hle, -⟩
      · rw [hmss, List.length_nil] at hcs
        omega
      · exact absurd hfin hcase
      · exact plain_last hlast htotal hle
  | cons a cs ih =>
      rcases txCase_cases t.txSar with ⟨hfrag, hle, hlt⟩ | ⟨hfin, -⟩ | ⟨n, hlast, htotal, hle, -⟩
      · obtain ⟨htotal, -⟩ := txTotal_fragment hle
        have hnext := txCase_afterFragment hle hlt
        obtain ⟨hmeta, hread, hqry⟩ := mdlSend_full t.sessionID
          (txMemSegAddr t.sessionID t.txSar.notAckd) t.rxSar t.txSar.notAckd
        let t' : MdlState := { t with txSar := afterFragment t.txSar, sarLoaded := true }
        have hrun : mdlThen (mdlTxSegment t) (a :: cs) =
            ((mdlThen (mdlTxSegment (t'.feed a)) cs).1,
              mdlSend t.sessionID (txMemSegAddr t.sessionID t.txSar.notAckd)
                (mdlMeta t.rxSar t.txSar.notAckd mssPayload) ::
                (mdlThen (mdlTxSegment (t'.feed a)) cs).2) := by
          rw [tx_fragment hfrag, mdlThen, mdlRun_loaded (t := t') hst htype rfl]
        obtain ⟨hwait, hcovers, hreads, hwrites⟩ : Plain t.sessionID (afterFragment t.txSar)
            (mdlThen (mdlTxSegment (t'.feed a)) cs) := by
          refine ih (t := t'.feed a) hst htype hnext ?_
          show txTotal (afterFragment t.txSar) / (zyc2Mss - tcpHeaderLen) ≤ cs.length
          rw [hmss, List.length_cons] at hcs
          rw [hmss] at htotal ⊢
          omega
        rw [hrun]
        refine ⟨hwait, ?_, ?_, ?_⟩
        · rw [sentMetas_cons, hmeta, ← htotal]
          exact hcovers.full
        · rw [readCmds_cons, sentMetas_cons, hmeta, hread, hreads]
          rfl
        · rw [writtenBack_cons, hqry, hwrites]
          have hsum : (afterFragment t.txSar).notAckd + BitVec.ofNat 32 (txTotal (afterFragment t.txSar))
              = t.txSar.notAckd + BitVec.ofNat 32 (txTotal t.txSar) := by
            rw [← htotal, Nat.add_comm, BitVec.ofNat_add, ← BitVec.add_assoc]
            rfl
          rw [hsum]
          rfl
      · exact absurd hfin hcase
      · exact plain_last hlast htotal hle

end Segments

/-! ### The FIN -/

section Fin

variable {t : MdlState} {cs : List MdlArrivals}

/-- With a FIN that is ready and nothing in flight, or nothing pending, no data are sent. -/
lemma tx_fin (hcase : txCase t.txSar = .fin) :
    mdlTxSegment t =
      (({ t with
          txSar := { t.txSar with notAckd := t.txSar.notAckd + 0 }
          sarLoaded := true } : MdlState).setFin,
        { txSarQry := [.wr t.sessionID (t.txSar.notAckd + 0)] }) := by
  rw [mdlTxSegment, mdlTxSend, hcase]
  rfl

/-- The calls with a FIN that is ready and no data. -/
lemma mdlThen_fin (hst : t.fsmState = .processEvent) (hrt : t.curEvent.event.rtCount = 0)
    (hcase : txCase t.txSar = .fin) (hcs : cs ≠ []) :
    (mdlThen (mdlTxSegment t) cs).1.fsmState = .waitEvent ∧
      sentMetas (mdlThen (mdlTxSegment t) cs).2 =
        (if t.txSar.notAckd.setWidth 16 = t.txSar.app then
          [{ mdlMeta t.rxSar t.txSar.notAckd 0 with fin := true }] else []) ∧
      readCmds (mdlThen (mdlTxSegment t) cs).2 = [] ∧
      writtenBack (mdlThen (mdlTxSegment t) cs).2 =
        [.wr t.sessionID t.txSar.notAckd, finQry t.sessionID t.txSar] := by
  obtain ⟨a, cs, rfl⟩ := List.exists_cons_of_ne_nil hcs
  have hsum : t.txSar.notAckd + 0 = t.txSar.notAckd := BitVec.add_zero _
  have hfirst := tx_fin hcase
  rw [hsum] at hfirst
  let t' : MdlState := ({ t with sarLoaded := true } : MdlState).setFin
  have hfin : mdlProcessEvent (t'.feed a) = mdlFinSegment (t'.feed a) := rfl
  have hsegment : mdlFinSegment (t'.feed a) =
      ({ t'.feed a with fsmState := .waitEvent },
        { (if t.txSar.notAckd.setWidth 16 = t.txSar.app then
            { mdlSendHeader t.sessionID { mdlMeta t.rxSar t.txSar.notAckd 0 with fin := true } with
              reTxTimerCmd := [{ sessionID := t.sessionID }] }
          else {} : MdlOut) with txSarQry := [finQry t.sessionID t.txSar] }) := by
    have hzero : decide ((t'.feed a).curEvent.event.rtCount ≠ 0) = false :=
      decide_eq_false (not_not_intro hrt)
    rw [mdlFinSegment, hzero]
    rfl
  have hrun : mdlThen (mdlTxSegment t) (a :: cs) =
      ({ t'.feed a with fsmState := .waitEvent },
        [{ txSarQry := [.wr t.sessionID t.txSar.notAckd] }, (mdlFinSegment (t'.feed a)).2]) := by
    rw [hfirst, mdlThen, mdlRun_cons (s := t') hst, hfin, mdlThen, hsegment, mdlRun_done rfl]
  rw [hrun, hsegment]
  refine ⟨rfl, ?_, ?_, ?_⟩
  · split <;> rfl
  · split <;> rfl
  · rw [writtenBack_cons, writtenBack_cons]
    dsimp only
    rw [finQry]
    split <;> rfl

end Fin

/-! ### One event -/

/-- A FIN that is ready, with pending data that the window admits. -/
def FinLost (x : TXeTxSarReply) : Prop :=
  x.finReady = true ∧ txPending x ≠ 0 ∧ txPending x ≤ usableWindow x

instance (x : TXeTxSarReply) : Decidable (FinLost x) := inferInstanceAs (Decidable (_ ∧ _))

/-- A transmission comes to its end. Its segments cover what the usable window admits of the pending
data; a FIN comes behind all data only, and comes if it is ready; and the end of what was sent is
written back. -/
structure Transmits (id : SessionId) (x : TXeTxSarReply) (r : MdlState × List MdlOut) : Prop where
  fsmState : r.1.fsmState = .waitEvent
  segments : ∃ ms fins, sentMetas r.2 = ms ++ fins ∧ Covers x.notAckd (txTotal x) ms ∧
    readCmds r.2 = ms.map (fun m => .ofAddrLen (txMemSegAddr id m.seqNumb) m.length) ∧
    fins.length ≤ 1 ∧
    (∀ m ∈ fins, m.fin = true ∧ m.length = 0 ∧ txPending x ≤ usableWindow x ∧
      m.seqNumb = x.notAckd + BitVec.ofNat 32 (txTotal x)) ∧
    (x.finReady = true → txPending x ≤ usableWindow x → fins ≠ []) ∧
    (writtenBack r.2).getLast?.map (·.notAckd) =
      some (x.notAckd + BitVec.ofNat 32 (txTotal x) + BitVec.ofNat 32 fins.length)

section Event

variable {s t : MdlState} {as bs cs : List MdlArrivals} {x : TXeTxSarReply} {id : SessionId}
  {r : MdlState × List MdlOut}

lemma txPending_eq_zero : txPending x = 0 ↔ x.notAckd.setWidth 16 = x.app := by
  rw [txPending]
  constructor
  · intro h
    bv_omega
  · intro h
    rw [h]
    exact BitVec.sub_self _

lemma txTotal_of_pending (h : txPending x = 0) : txTotal x = 0 := by
  rw [txTotal, h]
  exact Nat.zero_min _

/-- Segments without a FIN are right without a `FinLost`. -/
lemma Plain.transmits (h : Plain id x r)
    (hnone : x.finReady = true → txPending x ≤ usableWindow x → txPending x ≠ 0) :
    Transmits id x r ↔ ¬ FinLost x := by
  constructor
  · rintro ⟨-, ms, fins, hmetas, -, -, -, hfins, hready, -⟩ ⟨hfin, -, hle⟩
    obtain ⟨m, fins, rfl⟩ := List.exists_cons_of_ne_nil (hready hfin hle)
    have hnot := h.covers.not_fin m (by rw [hmetas]; simp)
    rw [(hfins m List.mem_cons_self).1] at hnot
    cases hnot
  · intro hlost
    refine ⟨h.fsmState, sentMetas r.2, [], (List.append_nil _).symm, h.covers, h.reads,
      Nat.zero_le 1, fun m hm => absurd hm List.not_mem_nil, fun hfin hle => ?_, ?_⟩
    · exact absurd ⟨hfin, hnone hfin hle, hle⟩ hlost
    · rw [h.writes]
      exact congrArg some (BitVec.add_zero _).symm

/-- The calls behind the one that has the entry. -/
lemma transmits_loaded (hst : t.fsmState = .processEvent) (htype : t.curEvent.event.type = .tx)
    (hrt : t.curEvent.event.rtCount = 0)
    (hcs : txTotal t.txSar / (zyc2Mss - tcpHeaderLen) + 1 ≤ cs.length) :
    Transmits t.sessionID t.txSar (mdlThen (mdlTxSegment t) cs) ↔ ¬ FinLost t.txSar := by
  by_cases hcase : txCase t.txSar = .fin
  · have hne : cs ≠ [] := List.ne_nil_of_length_pos (Nat.lt_of_lt_of_le (Nat.succ_pos _) hcs)
    obtain ⟨hwait, hmetas, hreads, hwrites⟩ := mdlThen_fin hst hrt hcase hne
    obtain ⟨hready, hle⟩ : t.txSar.finReady = true ∧ txPending t.txSar ≤ usableWindow t.txSar := by
      rcases txCase_cases t.txSar with ⟨h, -⟩ | ⟨-, hready, hle, -⟩ | ⟨n, h, -⟩
      · exact nomatch h.symm.trans hcase
      · exact ⟨hready, hle⟩
      · exact nomatch h.symm.trans hcase
    by_cases hzero : txPending t.txSar = 0
    · refine iff_of_true ?_ fun h => h.2.1 hzero
      have happ := txPending_eq_zero.mp hzero
      have htotal := txTotal_of_pending hzero
      rw [if_pos happ] at hmetas
      refine ⟨hwait, [], _, hmetas, htotal, hreads, le_rfl, fun m hm => ?_, fun _ _ => by simp, ?_⟩
      · rw [List.mem_singleton.mp hm, htotal]
        exact ⟨rfl, rfl, hle, (BitVec.add_zero _).symm⟩
      · rw [hwrites, finQry, if_pos happ.symm, htotal]
        exact congrArg some (congrArg (· + 1) (BitVec.add_zero _).symm)
    · refine iff_of_false ?_ (not_not_intro ⟨hready, hzero, hle⟩)
      rintro ⟨-, ms, fins, heq, -, -, -, -, hfins, -⟩
      rw [hmetas, if_neg fun happ => hzero (txPending_eq_zero.mpr happ)] at heq
      exact hfins hready hle (List.append_eq_nil_iff.mp heq.symm).2
  · refine (plain_of_case hst htype hcase (by omega)).transmits fun hready hle hzero => hcase ?_
    rcases txCase_cases t.txSar with ⟨-, -, hlt⟩ | ⟨h, -⟩ | ⟨n, -, -, -, hnot⟩
    · rw [hzero] at hlt
      exact absurd hlt (Nat.not_lt_zero _)
    · exact h
    · exact absurd hzero (hnot hready hle)

/-- The calls that wait for the tables change nothing. -/
lemma transmits_waits (n : ℕ) :
    Transmits id x (r.1, List.replicate n ({} : MdlOut) ++ r.2) ↔ Transmits id x r := by
  obtain ⟨h₁, h₂, h₃⟩ := outputs_waits n r.2
  constructor
  · rintro ⟨hst, hseg⟩
    rw [h₁, h₂, h₃] at hseg
    exact ⟨hst, hseg⟩
  · rintro ⟨hst, hseg⟩
    refine ⟨hst, ?_⟩
    rw [h₁, h₂, h₃]
    exact hseg

/-- **A transmission is right exactly without a FIN that is lost.** The calls `as` end when both
tables have replied, whatever arrives in the meantime, and the calls `bs` are enough for the data. -/
theorem transmits_iff (h : AtEvent s .tx) (hrt : s.curEvent.event.rtCount = 0)
    (hrx : s.siRxSarRep ++ as.flatMap (·.rxSarReps) ≠ [])
    (htx : (s.siTxSarRep ++ as.flatMap (·.txSarReps)).head? = some x)
    (hbs : txTotal x / (zyc2Mss - tcpHeaderLen) + 2 ≤ bs.length) :
    Transmits s.sessionID x (mdlRun s (as ++ bs)) ↔ ¬ FinLost x := by
  obtain ⟨t, n, cs, hst, hev, rfl, -, hlen, hrun⟩ :=
    mdlRun_load (fun t _ => mdlTxSegment t) (fun s hs => mdlProcessEvent_tx hs) h hrx htx
      (List.ne_nil_of_length_pos (Nat.lt_of_lt_of_le (Nat.succ_pos _) hbs))
  have hid : t.sessionID = s.sessionID := by rw [MdlState.sessionID, hev, MdlState.sessionID]
  rw [hrun, ← hid]
  refine (transmits_waits n).trans (transmits_loaded hst ?_ ?_ ?_)
  · rw [hev]
    exact h.type
  · rw [hev]
    exact hrt
  · omega

end Event

/-- A session with 10 pending bytes and nothing in flight. -/
def tenBytes (finReady : Bool) : TXeTxSarReply where
  ackd := 1000
  notAckd := 1000
  minWindow := 0x3908
  app := 1010
  finReady := finReady

/-- The loader at the event. -/
def atTxEvent : MdlState where
  fsmState := .processEvent
  curEvent := ⟨{ type := .tx, sessionID := 0 }, ⟨⟨0, 0⟩, ⟨0, 0⟩⟩⟩

/-- Ten bytes, when the replies arrive one after the other. -/
theorem transmits_tenBytes :
    Transmits 0 (tenBytes false) (mdlRun atTxEvent
      [{ rxSarReps := [{}] }, { txSarReps := [tenBytes false] }, {}, {}]) :=
  (@transmits_iff atTxEvent [{ rxSarReps := [{}] }, { txSarReps := [tenBytes false] }] [{}, {}]
    (tenBytes false) ⟨rfl, rfl, rfl, rfl⟩ rfl (by decide) rfl (by decide)).mpr (by decide)

/-- **A FIN that is ready keeps the last bytes back**, and is not sent either. -/
theorem not_transmits_tenBytes :
    ¬ Transmits 0 (tenBytes true) (mdlRun atTxEvent
      [{ rxSarReps := [{}], txSarReps := [tenBytes true] }, {}, {}]) := by
  rintro ⟨-, ms, fins, hmetas, -, -, -, -, hfins, -⟩
  have hnone : sentMetas (mdlRun atTxEvent
      [{ rxSarReps := [{}], txSarReps := [tenBytes true] }, {}, {}]).2 = [] := by decide +kernel
  rw [hnone] at hmetas
  exact hfins rfl (by decide) (List.append_eq_nil_iff.mp hmetas.symm).2

end CloudFpga.Toe
