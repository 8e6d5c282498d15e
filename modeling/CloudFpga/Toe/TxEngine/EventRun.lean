import CloudFpga.Toe.TxEngine.MetaDataLoader

/-!
The calls of `pMetaDataLoader` from the one that finds an event to the one that is done with it.

* `MdlArrivals`, `mdlRun`: between the calls, items arrive in the input streams.
* `mdlRun_load`: the first calls wait for the replies of the tables.
* `Covers`: segments that are contiguous and have some data, each byte once.
-/

namespace CloudFpga.Toe

/-! ### Calls -/

/-- What arrives between two calls. -/
structure MdlArrivals where
  events : List ExtendedEvent := []
  rxSarReps : List RxSarReply := []
  txSarReps : List TXeTxSarReply := []
  deriving DecidableEq

/-- Items arrive. -/
def MdlState.feed (s : MdlState) (a : MdlArrivals) : MdlState :=
  { s with
    siEvent := s.siEvent ++ a.events
    siRxSarRep := s.siRxSarRep ++ a.rxSarReps
    siTxSarRep := s.siTxSarRep ++ a.txSarReps }

/-- The calls until the event is done, and their outputs. -/
def mdlRun : MdlState → List MdlArrivals → MdlState × List MdlOut
  | s, [] => (s, [])
  | s, a :: as =>
      if s.fsmState = .waitEvent then (s, [])
      else
        let r := pMetaDataLoader (s.feed a)
        ((mdlRun r.1 as).1, r.2 :: (mdlRun r.1 as).2)

/-- A call that is done with the event, or leaves the rest to the other calls. -/
def mdlThen (r : MdlState × MdlOut) (as : List MdlArrivals) : MdlState × List MdlOut :=
  ((mdlRun r.1 as).1, r.2 :: (mdlRun r.1 as).2)

/-- The loader has taken an event, and has not done anything about it. -/
structure AtEvent (s : MdlState) (type : EventType) : Prop where
  fsmState : s.fsmState = .processEvent
  type : s.curEvent.event.type = type
  sarLoaded : s.sarLoaded = false
  segmentCount : s.segmentCount = 0

/-- The segments that were sent. -/
def sentMetas (os : List MdlOut) : List TXeMeta := os.flatMap (·.txeMeta)

/-- The data that were read from the memory. -/
def readCmds (os : List MdlOut) : List DmCmd := os.flatMap (·.bufferRdCmd)

/-- The write queries, except for those of the slow-start threshold. -/
def writtenBack (os : List MdlOut) : List TXeTxSarQuery :=
  (os.flatMap (·.txSarQry)).filter fun q => q.write && !q.isRtQuery

section Run

variable {s t : MdlState} {a : MdlArrivals} {as bs : List MdlArrivals} {txSar : TXeTxSarReply}

lemma mdlRun_done (h : s.fsmState = .waitEvent) (as : List MdlArrivals) :
    mdlRun s as = (s, []) := by
  cases as with
  | nil => rfl
  | cons a as => rw [mdlRun, if_pos h]

lemma mdlRun_cons (h : s.fsmState = .processEvent) (a : MdlArrivals) (as : List MdlArrivals) :
    mdlRun s (a :: as) = mdlThen (mdlProcessEvent (s.feed a)) as := by
  have hcall : pMetaDataLoader (s.feed a) = mdlProcessEvent (s.feed a) := by
    have hfeed : (s.feed a).fsmState = .processEvent := h
    rw [pMetaDataLoader, hfeed]
  rw [mdlRun, if_neg (by rw [h]; nofun), hcall]
  rfl

@[simp] lemma sentMetas_cons (o : MdlOut) (os : List MdlOut) :
    sentMetas (o :: os) = o.txeMeta ++ sentMetas os := rfl

@[simp] lemma readCmds_cons (o : MdlOut) (os : List MdlOut) :
    readCmds (o :: os) = o.bufferRdCmd ++ readCmds os := rfl

@[simp] lemma writtenBack_cons (o : MdlOut) (os : List MdlOut) :
    writtenBack (o :: os) =
      (o.txSarQry.filter fun q => q.write && !q.isRtQuery) ++ writtenBack os := by
  rw [writtenBack, List.flatMap_cons, List.filter_append, writtenBack]

/-- What the calls write that wait for the tables. -/
lemma outputs_waits (n : ℕ) (os : List MdlOut) :
    sentMetas (List.replicate n ({} : MdlOut) ++ os) = sentMetas os ∧
      readCmds (List.replicate n ({} : MdlOut) ++ os) = readCmds os ∧
      writtenBack (List.replicate n ({} : MdlOut) ++ os) = writtenBack os := by
  induction n with
  | zero => exact ⟨rfl, rfl, rfl⟩
  | succ n ih =>
      obtain ⟨h₁, h₂, h₃⟩ := ih
      refine ⟨?_, ?_, ?_⟩
      · rw [List.replicate_succ, List.cons_append, sentMetas_cons, h₁]
        rfl
      · rw [List.replicate_succ, List.cons_append, readCmds_cons, h₂]
        rfl
      · rw [List.replicate_succ, List.cons_append, writtenBack_cons, h₃]
        rfl

/-- With both replies the tables are loaded. -/
lemma exists_mdlLoadSar (hrx : s.siRxSarRep ≠ []) (htx : s.siTxSarRep ≠ []) :
    ∃ t, mdlLoadSar s = some t := by
  obtain ⟨rx, rxs, hrxs⟩ := List.exists_cons_of_ne_nil hrx
  obtain ⟨tx, txs, htxs⟩ := List.exists_cons_of_ne_nil htx
  rw [mdlLoadSar, mdlReadSar, hrxs, htxs]
  split <;> exact ⟨_, rfl⟩

/-- The entry that is loaded is the first reply. -/
lemma mdlLoadSar_head (hnot : s.sarLoaded = false) (h : mdlLoadSar s = some t) :
    s.siTxSarRep.head? = some t.txSar ∧ t.segmentCount = s.segmentCount := by
  rw [mdlLoadSar, if_neg (by rw [hnot]; exact Bool.false_ne_true), mdlReadSar] at h
  split at h
  · next htxs =>
      rw [← Option.some.inj h, htxs]
      exact ⟨rfl, rfl⟩
  · cases h

/-- The first calls wait for the replies of the tables. The first one behind them works with the
first reply of the Tx SAR table. -/
lemma mdlRun_load {type : EventType} (segment : MdlState → Bool → MdlState × MdlOut)
    (hsegment : ∀ s : MdlState, s.curEvent.event.type = type → mdlProcessEvent s =
      match mdlLoadSar s with
      | some t => segment t s.sarLoaded
      | none => (s, {}))
    (h : AtEvent s type) (hrx : s.siRxSarRep ++ as.flatMap (·.rxSarReps) ≠ [])
    (htx : (s.siTxSarRep ++ as.flatMap (·.txSarReps)).head? = some txSar) (hbs : bs ≠ []) :
    ∃ t n cs, t.fsmState = .processEvent ∧ t.curEvent = s.curEvent ∧ t.txSar = txSar ∧
      t.segmentCount = s.segmentCount ∧ bs.length ≤ cs.length + 1 ∧
      mdlRun s (as ++ bs) =
        ((mdlThen (segment t false) cs).1,
          List.replicate n ({} : MdlOut) ++ (mdlThen (segment t false) cs).2) := by
  -- the call that loads the tables
  have hload : ∀ (s : MdlState) (a : MdlArrivals) (cs : List MdlArrivals) (t : MdlState),
      AtEvent s type → mdlLoadSar (s.feed a) = some t →
      (s.siTxSarRep ++ a.txSarReps).head? = some t.txSar ∧ t.segmentCount = s.segmentCount ∧
        t.fsmState = .processEvent ∧ t.curEvent = s.curEvent ∧
        mdlRun s (a :: cs) = ((mdlThen (segment t false) cs).1, (mdlThen (segment t false) cs).2) := by
    intro s a cs t h hload
    have hnot : (s.feed a).sarLoaded = false := h.sarLoaded
    have hframe := mdlLoadSar_frame hload
    obtain ⟨hhead, hcount⟩ := mdlLoadSar_head hnot hload
    refine ⟨hhead, hcount, hframe.2.1.trans h.fsmState, hframe.1, ?_⟩
    rw [mdlRun_cons h.fsmState, hsegment (s.feed a) h.type, hload]
    dsimp only
    rw [hnot]
  induction as generalizing s with
  | nil =>
      obtain ⟨b, bs, rfl⟩ := List.exists_cons_of_ne_nil hbs
      rw [List.flatMap_nil, List.append_nil] at hrx htx
      obtain ⟨tx, txs⟩ := List.head?_eq_some_iff.mp htx
      obtain ⟨t, ht⟩ := exists_mdlLoadSar (s := s.feed b)
        (List.append_ne_nil_of_left_ne_nil hrx _)
        (List.append_ne_nil_of_left_ne_nil (by rw [txs]; exact List.cons_ne_nil _ _) _)
      obtain ⟨hhead, hcount, hst, hev, hrun⟩ := hload s b bs t h ht
      rw [txs] at hhead
      exact ⟨t, 0, bs, hst, hev, (Option.some.inj hhead).symm, hcount, le_rfl, hrun⟩
  | cons a as ih =>
      cases ht : mdlLoadSar (s.feed a) with
      | none =>
          obtain ⟨t, n, cs, hst, hev, htx', hcount, hlen, hrun⟩ :=
            ih (s := s.feed a) ⟨h.fsmState, h.type, h.sarLoaded, h.segmentCount⟩
              (by rw [MdlState.feed, List.append_assoc]; exact hrx)
              (by rw [MdlState.feed, List.append_assoc]; exact htx)
          refine ⟨t, n + 1, cs, hst, hev, htx', hcount, hlen, ?_⟩
          rw [List.cons_append, mdlRun_cons h.fsmState, hsegment (s.feed a) h.type, ht]
          dsimp only
          rw [mdlThen, hrun]
          rfl
      | some t =>
          obtain ⟨hhead, hcount, hst, hev, hrun⟩ := hload s a (as ++ bs) t h ht
          rw [List.flatMap_cons, ← List.append_assoc, List.head?_append, hhead] at htx
          refine ⟨t, 0, as ++ bs, hst, hev, Option.some.inj htx, hcount, ?_, hrun⟩
          rw [List.length_append]
          omega

end Run

/-! ### Segments -/

/-- Segments with at least one byte and at most the largest payload, from the sequence number `a` on,
with `n` bytes in all. -/
def Covers : TcpSeqNum → ℕ → List TXeMeta → Prop
  | _, n, [] => n = 0
  | a, n, m :: ms =>
      m.seqNumb = a ∧ m.fin = false ∧ 1 ≤ m.length.toNat ∧ m.length.toNat ≤ zyc2Mss - tcpHeaderLen ∧
        m.length.toNat ≤ n ∧ Covers (a + m.length.setWidth 32) (n - m.length.toNat) ms

section Segments

variable {a : TcpSeqNum} {n : ℕ} {ms : List TXeMeta}

lemma mssPayload_toNat : mssPayload.toNat = zyc2Mss - tcpHeaderLen := by decide

lemma Covers.not_fin (h : Covers a n ms) : ∀ m ∈ ms, m.fin = false := by
  induction ms generalizing a n with
  | nil => exact fun m hm => absurd hm List.not_mem_nil
  | cons m ms ih =>
      obtain ⟨-, hfin, -, -, -, hms⟩ := h
      intro m' hm'
      rcases List.mem_cons.mp hm' with rfl | hm'
      · exact hfin
      · exact ih hms m' hm'

/-- Segments that are sent one after the other. -/
lemma Covers.cons {rxSar : RxSarReply} {len : TcpSegLen} (hpos : 1 ≤ len.toNat)
    (hmss : len.toNat ≤ zyc2Mss - tcpHeaderLen) (hle : len.toNat ≤ n)
    (h : Covers (a + len.setWidth 32) (n - len.toNat) ms) :
    Covers a n (mdlMeta rxSar a len :: ms) := ⟨rfl, rfl, hpos, hmss, hle, h⟩

/-- A full segment in front. -/
lemma Covers.full {rxSar : RxSarReply} (h : Covers (a + mssPayload.setWidth 32) n ms) :
    Covers a (n + (zyc2Mss - tcpHeaderLen)) (mdlMeta rxSar a mssPayload :: ms) := by
  have hpay := mssPayload_toNat
  have hpos : 1 ≤ mssPayload.toNat := by decide
  refine Covers.cons hpos hpay.le (hpay.le.trans (Nat.le_add_left _ _)) ?_
  rw [hpay, Nat.add_sub_cancel]
  exact h

/-- What is sent and read for a full segment. -/
lemma mdlSend_full (id : SessionId) (addr : BitVec 32) (rxSar : RxSarReply) (a : TcpSeqNum) :
    (mdlSend id addr (mdlMeta rxSar a mssPayload)).txeMeta = [mdlMeta rxSar a mssPayload] ∧
      (mdlSend id addr (mdlMeta rxSar a mssPayload)).bufferRdCmd = [.ofAddrLen addr mssPayload] ∧
      (mdlSend id addr (mdlMeta rxSar a mssPayload)).txSarQry = [] := by
  have hpay : mssPayload ≠ 0 := by decide
  have hne : (mdlMeta rxSar a mssPayload).length ≠ 0 := hpay
  rw [mdlSend, if_pos hne]
  exact ⟨rfl, rfl, rfl⟩

/-- What is sent and read for a segment. -/
lemma mdlSend_out (id : SessionId) (addr : BitVec 32) (rxSar : RxSarReply) (len : TcpSegLen) :
    (mdlSend id addr (mdlMeta rxSar a len)).txeMeta =
        (if len = 0 then [] else [mdlMeta rxSar a len]) ∧
      (mdlSend id addr (mdlMeta rxSar a len)).bufferRdCmd =
        (if len = 0 then [] else [.ofAddrLen addr len]) ∧
      (mdlSend id addr (mdlMeta rxSar a len)).txSarQry = [] := by
  rw [mdlSend]
  have hlen : (mdlMeta rxSar a len).length = len := rfl
  rw [hlen]
  by_cases h : len = 0
  · rw [if_neg (not_not_intro h), if_pos h, if_pos h]
    exact ⟨rfl, rfl, rfl⟩
  · rw [if_pos h, if_neg h, if_neg h]
    exact ⟨rfl, rfl, rfl⟩

end Segments

end CloudFpga.Toe
