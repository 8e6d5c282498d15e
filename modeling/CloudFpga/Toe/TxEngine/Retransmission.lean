import CloudFpga.Toe.Tables.TxSarTable
import CloudFpga.Toe.TxEngine.EventRun

/-!
The segments of an `RT_EVENT`.

* `rtInFlight`, `rtOutstanding`, `rtTotal`: the sequence numbers in flight, the bytes among them, and
  those of the first four segments.
* `Repeats`: the segments cover these bytes, and the FIN follows if it was sent and all bytes are
  among them.
* `RtLost`: the FIN was acknowledged, or is to be repeated and the event or the entry is not right for
  it.
* `repeats_iff`: a retransmission is right exactly without an `RtLost`.
-/

namespace CloudFpga.Toe

/-! ### What is outstanding -/

/-- The sequence numbers in flight. -/
def rtInFlight (x : TXeTxSarReply) : TcpDatLen := x.notAckd.setWidth 16 - x.ackd.setWidth 16

/-- The bytes in flight, without the FIN. -/
def rtOutstanding (x : TXeTxSarReply) : ℕ := (rtInFlight x).toNat - if x.finSent then 1 else 0

/-- The largest retransmission. -/
def rtLimit : ℕ := 4 * (zyc2Mss - tcpHeaderLen)

/-- The bytes that an event repeats. -/
def rtTotal (x : TXeTxSarReply) : ℕ := min (rtOutstanding x) rtLimit

/-- The entry behind a full segment. -/
def afterFull (x : TXeTxSarReply) : TXeTxSarReply := { x with ackd := x.ackd + mssPayload.setWidth 32 }

section Outstanding

variable {x : TXeTxSarReply}

/-- The length that is repeated, unless a FIN was sent and nothing is in flight. -/
lemma rtDatLen_toNat (h : x.finSent = true → rtInFlight x ≠ 0) :
    (rtDatLen x).toNat = rtOutstanding x := by
  rw [rtDatLen, rtOutstanding]
  cases hfin : x.finSent with
  | false => rfl
  | true =>
      have hpos : rtInFlight x ≠ 0 := h hfin
      have hle : 1#16 ≤ rtInFlight x := by bv_omega
      exact BitVec.toNat_sub_of_le hle

/-- Without anything in flight the length of a sent FIN is taken off all the same. -/
lemma rtDatLen_underflow (hfin : x.finSent = true) (hzero : rtInFlight x = 0) :
    (rtDatLen x).toNat = 65535 := by
  have hlen : rtDatLen x = rtInFlight x - 1 := by
    rw [rtDatLen, hfin]
    rfl
  rw [hlen, hzero]
  rfl

/-- What a full segment leaves. -/
lemma rtOutstanding_full (hlt : zyc2Mss - tcpHeaderLen < rtOutstanding x) :
    rtOutstanding (afterFull x) + (zyc2Mss - tcpHeaderLen) = rtOutstanding x ∧
      rtInFlight (afterFull x) ≠ 0 := by
  have hmss : zyc2Mss - tcpHeaderLen = 1332 := rfl
  have hpay : mssPayload.toNat = 1332 := rfl
  have hnext : (afterFull x).ackd.setWidth 16 = x.ackd.setWidth 16 + mssPayload := by
    show (x.ackd + mssPayload.setWidth 32).setWidth 16 = _
    rw [BitVec.setWidth_add _ _ (by decide), BitVec.setWidth_setWidth_of_le _ (by decide),
      BitVec.setWidth_eq]
  have hfin : (afterFull x).finSent = x.finSent := by rw [afterFull]
  have hsub : rtInFlight (afterFull x) = rtInFlight x - mssPayload := by
    have happ : (afterFull x).notAckd = x.notAckd := by rw [afterFull]
    rw [rtInFlight, hnext, happ, rtInFlight]
    generalize x.notAckd.setWidth 16 = a
    generalize x.ackd.setWidth 16 = b
    generalize mssPayload = c
    bv_omega
  rw [rtOutstanding] at hlt
  have hnat : (rtInFlight (afterFull x)).toNat + 1332 = (rtInFlight x).toNat := by
    rw [hsub, BitVec.toNat_sub_of_le (BitVec.le_def.mpr (by omega))]
    omega
  rw [rtOutstanding, rtOutstanding, hfin]
  constructor
  · split at hlt
    · rename_i hf
      rw [if_pos hf]
      omega
    · rename_i hf
      rw [if_neg hf]
      omega
  · intro hzero
    rw [hzero] at hnat
    have h0 : BitVec.toNat (0 : TcpDatLen) = 0 := rfl
    omega

end Outstanding

/-! ### Segments -/

/-- The FIN behind the data. -/
def rtFinMetas (rxSar : RxSarReply) (x : TXeTxSarReply) (rtCount : BitVec 3) : List TXeMeta :=
  let seqNumb := if rtCount ≠ 0 then x.notAckd - 1 else x.notAckd
  if seqNumb.setWidth 16 = x.app then [{ mdlMeta rxSar seqNumb 0 with fin := true }] else []

/-- What is written back for it. -/
def rtFinQrys (id : SessionId) (x : TXeTxSarReply) (rtCount : BitVec 3) : List TXeTxSarQuery :=
  if rtCount ≠ 0 then [] else [finQry id x]

/-- The data are repeated up to `limit` bytes, and the FIN behind them if it was sent and these are
all. -/
structure Again (limit : ℕ) (id : SessionId) (rxSar : RxSarReply) (x : TXeTxSarReply)
    (rtCount : BitVec 3) (r : MdlState × List MdlOut) : Prop where
  fsmState : r.1.fsmState = .waitEvent
  notAckd : r.1.txSar.notAckd = x.notAckd
  segments : ∃ ms, Covers x.ackd (min (rtOutstanding x) limit) ms ∧
    readCmds r.2 = ms.map (fun m => .ofAddrLen (rtMemSegAddr id m.seqNumb) m.length) ∧
    sentMetas r.2 = ms ++
      (if x.finSent ∧ rtOutstanding x ≤ limit then rtFinMetas rxSar x rtCount else []) ∧
    writtenBack r.2 =
      if x.finSent ∧ rtOutstanding x ≤ limit then rtFinQrys id x rtCount else []

/-- A full segment does not change what the FIN depends on. -/
lemma fin_afterFull (id : SessionId) (rxSar : RxSarReply) (x : TXeTxSarReply) (rtCount : BitVec 3) :
    (afterFull x).notAckd = x.notAckd ∧ (afterFull x).finSent = x.finSent ∧
      rtFinMetas rxSar (afterFull x) rtCount = rtFinMetas rxSar x rtCount ∧
      rtFinQrys id (afterFull x) rtCount = rtFinQrys id x rtCount := by
  rw [rtFinMetas, rtFinMetas, rtFinQrys, rtFinQrys, finQry, finQry, afterFull]
  exact ⟨rfl, rfl, rfl, rfl⟩

section Segments

variable {t : MdlState} {cs : List MdlArrivals} {n : ℕ}

lemma mdlProcessEvent_rt (h : t.curEvent.event.type = .rt) : mdlProcessEvent t =
    match mdlLoadSar t with
    | some t' => mdlRtSegment t' t.sarLoaded
    | none => (t, {}) := by
  rw [mdlProcessEvent, h]
  rfl

/-- The queries of a retransmission are about the slow-start threshold. -/
def rtQrys (t : MdlState) (loaded : Bool) : List TXeTxSarQuery :=
  if ¬loaded ∧ t.curEvent.event.rtCount = 1 then
    [.rt t.sessionID (rtThreshold (rtDatLen t.txSar))]
  else []

lemma rtQrys_filter (t : MdlState) (loaded : Bool) :
    (rtQrys t loaded).filter (fun q => q.write && !q.isRtQuery) = [] := by
  rw [rtQrys]
  split <;> rfl

/-- A full segment. -/
lemma rt_full (h : rtIsFull t.txSar = true) (loaded : Bool) :
    mdlRtSegment t loaded =
      ({ t with
          sarLoaded := true
          txSar := afterFull t.txSar
          fsmState := if t.segmentCount = 3 then .waitEvent else t.fsmState
          segmentCount := t.segmentCount + 1 },
        { mdlSend t.sessionID (rtMemSegAddr t.sessionID t.txSar.ackd)
            (mdlMeta t.rxSar t.txSar.ackd mssPayload) with txSarQry := rtQrys t loaded }) := by
  rw [mdlRtSegment, mdlRtSend]
  simp only [h, if_true]
  rfl

/-- The rest of the data. -/
lemma rt_rest (h : rtIsFull t.txSar = false) (loaded : Bool) :
    mdlRtSegment t loaded =
      (if t.txSar.finSent then ({ t with sarLoaded := true } : MdlState).setFin
        else { t with sarLoaded := true, fsmState := .waitEvent },
        { mdlSend t.sessionID (rtMemSegAddr t.sessionID t.txSar.ackd)
            (mdlMeta t.rxSar t.txSar.ackd (rtDatLen t.txSar)) with
          txSarQry := rtQrys t loaded }) := by
  rw [mdlRtSegment, mdlRtSend]
  simp only [h, Bool.false_eq_true, if_false]
  rfl

/-- What the FIN branch does. -/
lemma mdlFinSegment_out (t : MdlState) :
    (mdlFinSegment t).1 = { t with fsmState := .waitEvent } ∧
      (mdlFinSegment t).2.txeMeta = rtFinMetas t.rxSar t.txSar t.curEvent.event.rtCount ∧
      (mdlFinSegment t).2.bufferRdCmd = [] ∧
      (mdlFinSegment t).2.txSarQry = rtFinQrys t.sessionID t.txSar t.curEvent.event.rtCount := by
  rw [mdlFinSegment, rtFinMetas, rtFinQrys]
  by_cases hrt : t.curEvent.event.rtCount ≠ 0
  · simp only [decide_eq_true hrt, if_true, if_pos hrt]
    refine ⟨trivial, ?_, ?_, trivial⟩
    · split <;> rfl
    · split <;> rfl
  · simp only [decide_eq_false hrt, Bool.false_eq_true, if_false, if_neg hrt]
    refine ⟨trivial, ?_, ?_, trivial⟩
    · split <;> rfl
    · split <;> rfl

lemma rtFinQrys_filter (id : SessionId) (x : TXeTxSarReply) (rtCount : BitVec 3) :
    (rtFinQrys id x rtCount).filter (fun q => q.write && !q.isRtQuery) = rtFinQrys id x rtCount := by
  rw [rtFinQrys, finQry]
  split
  · rfl
  · split <;> rfl

/-- **The rest of the data, and the FIN.** -/
lemma again_rest (hst : t.fsmState = .processEvent)
    (hflight : t.txSar.finSent = true → rtInFlight t.txSar ≠ 0)
    (hfull : rtIsFull t.txSar = false) (loaded : Bool) {limit : ℕ}
    (hlimit : zyc2Mss - tcpHeaderLen ≤ limit) (hcs : cs ≠ []) :
    Again limit t.sessionID t.rxSar t.txSar t.curEvent.event.rtCount
      (mdlThen (mdlRtSegment t loaded) cs) := by
  have hmss : zyc2Mss = 1352 ∧ tcpHeaderLen = 20 := ⟨rfl, rfl⟩
  have hlen := rtDatLen_toNat hflight
  have hle : rtOutstanding t.txSar ≤ zyc2Mss - tcpHeaderLen := by
    rw [rtIsFull, decide_eq_false_iff_not] at hfull
    omega
  have hmin : min (rtOutstanding t.txSar) limit = (rtDatLen t.txSar).toNat := by
    rw [hlen]
    exact Nat.min_eq_left (hle.trans hlimit)
  -- the segment with the data
  have hcovers : Covers t.txSar.ackd (min (rtOutstanding t.txSar) limit)
      (if rtDatLen t.txSar = 0 then [] else
        [mdlMeta t.rxSar t.txSar.ackd (rtDatLen t.txSar)]) := by
    rw [hmin]
    by_cases h0 : rtDatLen t.txSar = 0
    · rw [if_pos h0, h0]
      rfl
    · rw [if_neg h0]
      refine Covers.cons (Nat.one_le_iff_ne_zero.mpr fun h => h0 (BitVec.eq_of_toNat_eq h))
        (hlen ▸ hle) le_rfl (Nat.sub_self _)
  obtain ⟨hmeta, hread, -⟩ := @mdlSend_out t.txSar.ackd t.sessionID
    (rtMemSegAddr t.sessionID t.txSar.ackd) t.rxSar (rtDatLen t.txSar)
  rw [rt_rest hfull]
  cases hfin : t.txSar.finSent with
  | false =>
      have hno : ¬ (t.txSar.finSent = true ∧ rtOutstanding t.txSar ≤ limit) := by
        rw [hfin]
        exact fun h => Bool.false_ne_true h.1
      rw [if_neg Bool.false_ne_true, mdlThen, mdlRun_done rfl]
      refine ⟨rfl, rfl, _, hcovers, ?_, ?_, ?_⟩
      · rw [readCmds_cons]
        dsimp only
        rw [hread]
        split <;> rfl
      · rw [sentMetas_cons, if_neg hno]
        dsimp only
        rw [hmeta]
        rfl
      · rw [writtenBack_cons, if_neg hno]
        dsimp only
        rw [rtQrys_filter]
        rfl
  | true =>
      obtain ⟨a, cs, rfl⟩ := List.exists_cons_of_ne_nil hcs
      let t' : MdlState := ({ t with sarLoaded := true } : MdlState).setFin
      obtain ⟨hstate, hmetas, hreads, hqrys⟩ := mdlFinSegment_out (t'.feed a)
      have hrun : mdlRun t' (a :: cs) =
          ({ t'.feed a with fsmState := .waitEvent }, [(mdlFinSegment (t'.feed a)).2]) := by
        have hproc : mdlProcessEvent (t'.feed a) = mdlFinSegment (t'.feed a) := rfl
        rw [mdlRun_cons (s := t') hst, hproc, mdlThen, hstate, mdlRun_done rfl]
      rw [if_pos rfl, mdlThen]
      show Again _ _ _ _ _ ((mdlRun t' (a :: cs)).1, _ :: (mdlRun t' (a :: cs)).2)
      rw [hrun]
      have hall : t.txSar.finSent = true ∧ rtOutstanding t.txSar ≤ limit := ⟨hfin, hle.trans hlimit⟩
      refine ⟨rfl, rfl, _, hcovers, ?_, ?_, ?_⟩
      · rw [readCmds_cons, readCmds_cons]
        dsimp only
        rw [hread, hreads]
        split <;> rfl
      · rw [sentMetas_cons, sentMetas_cons, if_pos hall]
        dsimp only
        rw [hmeta, hmetas]
        exact congrArg _ (List.append_nil _)
      · rw [writtenBack_cons, writtenBack_cons, if_pos hall]
        dsimp only
        rw [rtQrys_filter, hqrys, rtFinQrys_filter]
        exact List.append_nil _

/-- A full segment does not take everything. -/
lemma lt_of_rtIsFull {x : TXeTxSarReply} (hflight : x.finSent = true → rtInFlight x ≠ 0)
    (hfull : rtIsFull x = true) : zyc2Mss - tcpHeaderLen < rtOutstanding x := by
  have hlen := rtDatLen_toNat hflight
  have hzyc : zyc2Mss = 1352 ∧ tcpHeaderLen = 20 := ⟨rfl, rfl⟩
  rw [rtIsFull, decide_eq_true_eq] at hfull
  omega

/-- **The data that are repeated**, in up to `n + 1` segments. -/
lemma again_loop (hst : t.fsmState = .processEvent) (htype : t.curEvent.event.type = .rt)
    (hcount : t.segmentCount.toNat + n = 3)
    (hflight : t.txSar.finSent = true → rtInFlight t.txSar ≠ 0) (loaded : Bool)
    (hcs : n + 1 ≤ cs.length) :
    Again ((n + 1) * (zyc2Mss - tcpHeaderLen)) t.sessionID t.rxSar t.txSar
      t.curEvent.event.rtCount (mdlThen (mdlRtSegment t loaded) cs) := by
  have hmss : zyc2Mss - tcpHeaderLen = 1332 := rfl
  induction n generalizing t cs loaded with
  | zero =>
      cases hfull : rtIsFull t.txSar with
      | false =>
          exact again_rest hst hflight hfull loaded (by omega) (List.ne_nil_of_length_pos hcs)
      | true =>
          obtain ⟨hmeta, hread, -⟩ := mdlSend_full t.sessionID
            (rtMemSegAddr t.sessionID t.txSar.ackd) t.rxSar t.txSar.ackd
          have hlt := lt_of_rtIsFull hflight hfull
          have hlast : t.segmentCount = 3 := BitVec.eq_of_toNat_eq hcount
          have hno : ¬ (t.txSar.finSent = true ∧
              rtOutstanding t.txSar ≤ (0 + 1) * (zyc2Mss - tcpHeaderLen)) := by omega
          rw [rt_full hfull, mdlThen, mdlRun_done (if_pos hlast)]
          refine ⟨if_pos hlast, (fin_afterFull t.sessionID t.rxSar t.txSar 0).1,
            [mdlMeta t.rxSar t.txSar.ackd mssPayload], ?_, ?_, ?_, ?_⟩
          · have hnil : Covers (t.txSar.ackd + mssPayload.setWidth 32) 0 [] := rfl
            rw [Nat.succ_mul, Nat.zero_mul, Nat.min_eq_right (by omega)]
            exact hnil.full
          · rw [readCmds_cons]
            dsimp only
            rw [hread]
            rfl
          · rw [sentMetas_cons, if_neg hno]
            dsimp only
            rw [hmeta]
            rfl
          · rw [writtenBack_cons, if_neg hno]
            dsimp only
            rw [rtQrys_filter]
            rfl
  | succ n ih =>
      cases hfull : rtIsFull t.txSar with
      | false =>
          exact again_rest hst hflight hfull loaded (Nat.le_mul_of_pos_left _ (Nat.succ_pos _))
            (List.ne_nil_of_length_pos (Nat.lt_of_lt_of_le (Nat.succ_pos _) hcs))
      | true =>
          obtain ⟨a, cs, rfl⟩ := List.exists_cons_of_ne_nil
            (List.ne_nil_of_length_pos (Nat.lt_of_lt_of_le (Nat.succ_pos _) hcs))
          obtain ⟨hmeta, hread, -⟩ := mdlSend_full t.sessionID
            (rtMemSegAddr t.sessionID t.txSar.ackd) t.rxSar t.txSar.ackd
          have hlt := lt_of_rtIsFull hflight hfull
          obtain ⟨hrest, hflight'⟩ := rtOutstanding_full hlt
          have hgo : t.segmentCount ≠ 3 := by
            intro h3
            rw [h3] at hcount
            have : BitVec.toNat (3 : BitVec 2) = 3 := rfl
            omega
          let t' : MdlState := { t with
            sarLoaded := true
            txSar := afterFull t.txSar
            fsmState := if t.segmentCount = 3 then .waitEvent else t.fsmState
            segmentCount := t.segmentCount + 1 }
          have hst' : t'.fsmState = .processEvent := (if_neg hgo).trans hst
          have hcount' : (t'.feed a).segmentCount.toNat + n = 3 := by
            show (t.segmentCount + 1).toNat + n = 3
            rw [BitVec.toNat_add_of_lt]
            · have : BitVec.toNat (1 : BitVec 2) = 1 := rfl
              omega
            · have : BitVec.toNat (1 : BitVec 2) = 1 := rfl
              omega
          have hrun : mdlRun t' (a :: cs) = mdlThen (mdlRtSegment (t'.feed a) true) cs := by
            have hload : mdlLoadSar (t'.feed a) = some (t'.feed a) := rfl
            have hproc := mdlProcessEvent_rt (t := t'.feed a) htype
            rw [hload] at hproc
            rw [mdlRun_cons hst', hproc]
            rfl
          have hcs' : n + 1 ≤ cs.length := by
            rw [List.length_cons] at hcs
            omega
          obtain ⟨hwait, hsame, ms, hcovers, hreads, hmetas, hwrites⟩ :=
            ih (t := t'.feed a) hst' htype hcount' (fun _ => hflight') true hcs'
          have hiff : rtOutstanding (afterFull t.txSar) ≤ (n + 1) * (zyc2Mss - tcpHeaderLen) ↔
              rtOutstanding t.txSar ≤ (n + 1 + 1) * (zyc2Mss - tcpHeaderLen) := by
            rw [← hrest, Nat.succ_mul (n + 1)]
            omega
          obtain ⟨hnot, hsent, hfinMetas, hfinQrys⟩ :=
            fin_afterFull t.sessionID t.rxSar t.txSar t.curEvent.event.rtCount
          have hmetas' : sentMetas (mdlThen (mdlRtSegment (t'.feed a) true) cs).2 = ms ++
              if (afterFull t.txSar).finSent = true ∧
                rtOutstanding (afterFull t.txSar) ≤ (n + 1) * (zyc2Mss - tcpHeaderLen) then
                rtFinMetas t.rxSar (afterFull t.txSar) t.curEvent.event.rtCount else [] := hmetas
          have hwrites' : writtenBack (mdlThen (mdlRtSegment (t'.feed a) true) cs).2 =
              if (afterFull t.txSar).finSent = true ∧
                rtOutstanding (afterFull t.txSar) ≤ (n + 1) * (zyc2Mss - tcpHeaderLen) then
                rtFinQrys t.sessionID (afterFull t.txSar) t.curEvent.event.rtCount else [] := hwrites
          simp only [hsent, hiff, hfinMetas] at hmetas'
          simp only [hsent, hiff, hfinQrys] at hwrites'
          rw [rt_full hfull, mdlThen]
          show Again _ _ _ _ _ ((mdlRun t' (a :: cs)).1, _ :: (mdlRun t' (a :: cs)).2)
          rw [hrun]
          refine ⟨hwait, hsame.trans hnot, mdlMeta t.rxSar t.txSar.ackd mssPayload :: ms, ?_, ?_, ?_, ?_⟩
          · have hmin : min (rtOutstanding t.txSar) ((n + 1 + 1) * (zyc2Mss - tcpHeaderLen)) =
                min (rtOutstanding (afterFull t.txSar)) ((n + 1) * (zyc2Mss - tcpHeaderLen)) +
                  (zyc2Mss - tcpHeaderLen) := by
              rw [← hrest, Nat.succ_mul (n + 1)]
              omega
            rw [hmin]
            exact hcovers.full
          · rw [readCmds_cons, hreads]
            dsimp only
            rw [hread]
            rfl
          · rw [sentMetas_cons, hmetas']
            dsimp only
            rw [hmeta]
            rfl
          · rw [writtenBack_cons, hwrites']
            dsimp only
            rw [rtQrys_filter, List.nil_append]

end Segments

/-! ### One event -/

/-- A FIN was sent, and nothing is in flight any more; or the FIN is to be repeated, and the event is
not one of the retransmit timer, or the FIN is not behind the data of the application. -/
def RtLost (x : TXeTxSarReply) (rtCount : BitVec 3) : Prop :=
  x.finSent = true ∧ (rtInFlight x = 0 ∨
    rtOutstanding x ≤ rtLimit ∧ (rtCount = 0 ∨ (x.notAckd - 1).setWidth 16 ≠ x.app))

instance (x : TXeTxSarReply) (rtCount : BitVec 3) : Decidable (RtLost x rtCount) :=
  inferInstanceAs (Decidable (_ ∧ _))

/-- A retransmission comes to its end. Its segments cover the first of the bytes in flight, and only
these are read; the FIN follows if it was sent and all bytes were among them; and `notAckd` stays. -/
structure Repeats (id : SessionId) (x : TXeTxSarReply) (r : MdlState × List MdlOut) : Prop where
  fsmState : r.1.fsmState = .waitEvent
  notAckd : r.1.txSar.notAckd = x.notAckd ∧ ∀ q ∈ writtenBack r.2, q.notAckd = x.notAckd
  segments : ∃ ms fins, sentMetas r.2 = ms ++ fins ∧ Covers x.ackd (rtTotal x) ms ∧
    readCmds r.2 = ms.map (fun m => .ofAddrLen (rtMemSegAddr id m.seqNumb) m.length) ∧
    fins.length ≤ 1 ∧
    (∀ m ∈ fins, m.fin = true ∧ m.length = 0 ∧ m.seqNumb = x.notAckd - 1) ∧
    (fins ≠ [] ↔ x.finSent = true ∧ rtTotal x = rtOutstanding x)

section Event

variable {s t : MdlState} {as bs cs : List MdlArrivals} {x : TXeTxSarReply} {id : SessionId}
  {rxSar : RxSarReply} {rtCount : BitVec 3} {r : MdlState × List MdlOut}

/-- The FIN is the one behind the data, and has the right sequence number if the event is one of the
retransmit timer. -/
lemma seqNumb_of_mem {m : TXeMeta} (h : m ∈ rtFinMetas rxSar x rtCount) :
    m.seqNumb = (if rtCount ≠ 0 then x.notAckd - 1 else x.notAckd) ∧
      m.seqNumb.setWidth 16 = x.app := by
  rw [rtFinMetas] at h
  dsimp only at h
  by_cases happ : (if rtCount ≠ 0 then x.notAckd - 1 else x.notAckd).setWidth 16 = x.app
  · rw [if_pos happ] at h
    rw [List.mem_singleton.mp h]
    exact ⟨rfl, happ⟩
  · rw [if_neg happ] at h
    cases h

lemma rtTotal_eq_iff (x : TXeTxSarReply) : rtTotal x = rtOutstanding x ↔ rtOutstanding x ≤ rtLimit := by
  rw [rtTotal]
  omega

/-- With something in flight the FIN decides. -/
lemma Again.repeats (h : Again rtLimit id rxSar x rtCount r)
    (hflight : x.finSent = true → rtInFlight x ≠ 0) : Repeats id x r ↔ ¬ RtLost x rtCount := by
  obtain ⟨hwait, hsame, ms, hcovers, hreads, hmetas, hwrites⟩ := h
  by_cases hall : x.finSent = true ∧ rtOutstanding x ≤ rtLimit
  · rw [if_pos hall] at hmetas hwrites
    constructor
    · rintro ⟨-, -, ms', fins, heq, hcovers', -, hone, hfins, hiff⟩ ⟨-, hlost⟩
      obtain ⟨m, fins, rfl⟩ :=
        List.exists_cons_of_ne_nil (hiff.mpr ⟨hall.1, (rtTotal_eq_iff x).mpr hall.2⟩)
      obtain rfl : fins = [] := by
        rw [List.length_cons] at hone
        exact List.length_eq_zero_iff.mp (by omega)
      obtain ⟨hfin, -, hseq⟩ := hfins m List.mem_cons_self
      -- the FIN that was sent is the one of the FIN branch
      have hmem : m ∈ rtFinMetas rxSar x rtCount := by
        have hin : m ∈ ms ++ rtFinMetas rxSar x rtCount := by
          rw [← hmetas, heq]
          simp
        refine (List.mem_append.mp hin).resolve_left fun hm => ?_
        have hnot := hcovers.not_fin m hm
        rw [hfin] at hnot
        cases hnot
      obtain ⟨hnumb, happ⟩ := seqNumb_of_mem hmem
      rcases hlost with hzero | ⟨-, hrt | hne⟩
      · exact hflight hall.1 hzero
      · rw [if_neg (not_not_intro hrt), hseq] at hnumb
        bv_omega
      · rw [hseq] at happ
        exact hne happ
    · intro hlost
      obtain ⟨hrt, happ⟩ : rtCount ≠ 0 ∧ (x.notAckd - 1).setWidth 16 = x.app := by
        constructor
        · exact fun hrt => hlost ⟨hall.1, .inr ⟨hall.2, .inl hrt⟩⟩
        · by_contra happ
          exact hlost ⟨hall.1, .inr ⟨hall.2, .inr happ⟩⟩
      rw [rtFinMetas, if_pos hrt, if_pos happ] at hmetas
      rw [rtFinQrys, if_pos hrt] at hwrites
      refine ⟨hwait, ⟨hsame, fun q hq => ?_⟩, ms, _, hmetas, hcovers, hreads, le_rfl, fun m hm => ?_,
        iff_of_true (List.cons_ne_nil _ _) ⟨hall.1, (rtTotal_eq_iff x).mpr hall.2⟩⟩
      · rw [hwrites] at hq
        cases hq
      · rw [List.mem_singleton.mp hm]
        exact ⟨rfl, rfl, rfl⟩
  · rw [if_neg hall] at hmetas hwrites
    refine iff_of_true ⟨hwait, ⟨hsame, fun q hq => ?_⟩, ms, [], hmetas, hcovers, hreads, Nat.zero_le 1,
      fun m hm => absurd hm List.not_mem_nil, iff_of_false (fun h => h rfl) fun h => ?_⟩ ?_
    · rw [hwrites] at hq
      cases hq
    · exact hall ⟨h.1, (rtTotal_eq_iff x).mp h.2⟩
    · rintro ⟨hfin, hzero | ⟨hle, -⟩⟩
      · exact hflight hfin hzero
      · exact hall ⟨hfin, hle⟩

/-- The calls behind the one that has the entry. -/
lemma repeats_loaded (hst : t.fsmState = .processEvent) (htype : t.curEvent.event.type = .rt)
    (hcount : t.segmentCount = 0) (hcs : 4 ≤ cs.length) :
    Repeats t.sessionID t.txSar (mdlThen (mdlRtSegment t false) cs) ↔
      ¬ RtLost t.txSar t.curEvent.event.rtCount := by
  by_cases hflight : t.txSar.finSent = true → rtInFlight t.txSar ≠ 0
  · refine Again.repeats (again_loop (n := 3) hst htype ?_ hflight false hcs) hflight
    rw [hcount]
    rfl
  · obtain ⟨hfin, hzero⟩ : t.txSar.finSent = true ∧ rtInFlight t.txSar = 0 := by
      rw [not_forall] at hflight
      obtain ⟨hfin, hzero⟩ := hflight
      exact ⟨hfin, not_not.mp hzero⟩
    refine iff_of_false ?_ (not_not_intro ⟨hfin, .inl hzero⟩)
    rintro ⟨-, -, ms, fins, heq, hcovers, -, -, hfins, -⟩
    -- the first segment is full, but there are no data in flight
    have hfull : rtIsFull t.txSar = true := by
      rw [rtIsFull, rtDatLen_underflow hfin hzero]
      rfl
    have hnone : rtTotal t.txSar = 0 := by
      rw [rtTotal, rtOutstanding, hzero, show BitVec.toNat (0 : TcpDatLen) = 0 from rfl, Nat.zero_sub,
        Nat.zero_min]
    obtain ⟨hmeta, -⟩ := mdlSend_full t.sessionID (rtMemSegAddr t.sessionID t.txSar.ackd) t.rxSar
      t.txSar.ackd
    rw [rt_full hfull, mdlThen, sentMetas_cons] at heq
    dsimp only at heq
    rw [hmeta] at heq
    rw [hnone] at hcovers
    cases ms with
    | nil =>
        have hmem : mdlMeta t.rxSar t.txSar.ackd mssPayload ∈ fins := by
          rw [← List.nil_append fins, ← heq]
          exact List.mem_append_left _ (List.mem_singleton_self _)
        cases (hfins _ hmem).1
    | cons m ms =>
        obtain ⟨-, -, hpos, -, hle, -⟩ := hcovers
        omega

/-- The calls that wait for the tables change nothing. -/
lemma repeats_waits (n : ℕ) :
    Repeats id x (r.1, List.replicate n ({} : MdlOut) ++ r.2) ↔ Repeats id x r := by
  obtain ⟨h₁, h₂, h₃⟩ := outputs_waits n r.2
  constructor
  · rintro ⟨hst, hnot, hseg⟩
    rw [h₁, h₂] at hseg
    rw [h₃] at hnot
    exact ⟨hst, hnot, hseg⟩
  · rintro ⟨hst, hnot, hseg⟩
    refine ⟨hst, ?_, ?_⟩
    · rw [h₃]
      exact hnot
    · rw [h₁, h₂]
      exact hseg

end Event

/-- The loader at the event. -/
def atRtEvent : MdlState where
  fsmState := .processEvent
  curEvent := ⟨{ type := .rt, sessionID := 0, rtCount := 1 }, ⟨⟨0, 0⟩, ⟨0, 0⟩⟩⟩

/-- A session of which a FIN was sent, once `ackd` is acknowledged. -/
def finSession (ackd : TxAckNum) : TXeTxSarReply :=
  let opened := txSarWriteTXe {} (.wr 0 1000 true)
  let sent := txSarWriteTXe { opened with appw := 1010 } (.wr 0 1011 false true true)
  txSarReplyTXe (txSarWriteRXe sent
    { sessionID := 0, ackd := ackd, recvWindow := 0x3908, congWindow := 0x3908, write := true })

end CloudFpga.Toe
