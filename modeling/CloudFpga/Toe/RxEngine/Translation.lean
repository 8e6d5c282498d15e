import CloudFpga.Foundation.Transducer
import CloudFpga.Foundation.Circular
import CloudFpga.Toe.Tables.RxSarTable
import CloudFpga.Toe.RxEngine.FiniteStateMachine

/-!
The reassembly of `pFiniteStateMachine` under a translation of the sequence space.

* `rxSession`: the segments of one session, processed one after the other on its entry of the
  Rx SAR table and its connection state.
* `RxSession.shift`, `RxInput.shift`: all sequence numbers moved by a base `b`.
* `OooCarries`: the addition of `b` wraps the numbers that a segment compares alike.
* `rxSession_shift_iff`: the translated run makes the same decisions and moves the pointers in
  the same way exactly when every segment is compared alike.
-/

namespace CloudFpga.Toe

open Foundation

/-! ### One session -/

/-- The connection state of a session and its entry of the Rx SAR table. -/
structure RxSession where
  tcpState : TcpState
  rxSar : RxSarEntry
  deriving DecidableEq, Repr

inductive RxInput where
  /-- a segment of the session, with the reply of the Tx SAR table -/
  | segment (m : RXeFsmMeta) (txSar : RXeTxSarReply)
  /-- another client of the state table writes the connection state -/
  | stateWrite (tcpState : TcpState)

/-- What the payload path sees of a segment: the drop or keep commands, and the lengths of the
notifications to the application. -/
structure FsmReaction where
  dropCmd : List CmdBit
  notifLen : List TcpDatLen
  deriving DecidableEq, Repr

def FsmOut.reaction (out : FsmOut) : FsmReaction :=
  ⟨out.dropCmd, out.rxNotif.map (·.tcpDatLen)⟩

/-- The connection state after the queries to the state table. -/
def FsmOut.tcpState (out : FsmOut) (tcpState : TcpState) : TcpState :=
  out.stateQry.foldl (fun st q => if q.write then q.state else st) tcpState

/-- The entry after the queries to the Rx SAR table. -/
def FsmOut.rxSar (out : FsmOut) (e : RxSarEntry) : RxSarEntry :=
  out.rxSarQry.foldl rxSarWrite e

/-- A session processes its inputs one after the other. -/
def rxSession : Transducer RxSession RxInput FsmReaction where
  step s
    | .segment m txSar =>
        let out := fsmTransition m s.tcpState s.rxSar txSar
        (out.reaction, ⟨out.tcpState s.tcpState, out.rxSar s.rxSar⟩)
    | .stateWrite tcpState => (⟨[], []⟩, { s with tcpState := tcpState })

/-! ### The translation -/

section Shift

variable (b : BitVec 32)

def RxSarEntry.shift (e : RxSarEntry) : RxSarEntry where
  appd := e.appd + b.setWidth 16
  rcvd := e.rcvd + b
  ooo := e.ooo
  oooHead := e.oooHead + b
  oooTail := e.oooTail + b

def RXeFsmMeta.shift (m : RXeFsmMeta) : RXeFsmMeta := { m with seqNumb := m.seqNumb + b }

def RxSession.shift (s : RxSession) : RxSession := { s with rxSar := s.rxSar.shift b }

def RxInput.shift : RxInput → RxInput
  | .segment m txSar => .segment (m.shift b) txSar
  | .stateWrite tcpState => .stateWrite tcpState

section Fields

variable (m : RXeFsmMeta) (e : RxSarEntry)

-- proved by rewriting, so that `simp` also rewrites under an `if` with them
@[simp] lemma RXeFsmMeta.shift_seqNumb : (m.shift b).seqNumb = m.seqNumb + b := by
  rw [RXeFsmMeta.shift]
@[simp] lemma RXeFsmMeta.shift_ackNumb : (m.shift b).ackNumb = m.ackNumb := by
  rw [RXeFsmMeta.shift]
@[simp] lemma RXeFsmMeta.shift_length : (m.shift b).length = m.length := by
  rw [RXeFsmMeta.shift]
@[simp] lemma RXeFsmMeta.shift_rst : (m.shift b).rst = m.rst := by
  rw [RXeFsmMeta.shift]
@[simp] lemma RXeFsmMeta.shift_sessionId : (m.shift b).sessionId = m.sessionId := by
  rw [RXeFsmMeta.shift]
@[simp] lemma RxSarEntry.shift_rcvd : (e.shift b).rcvd = e.rcvd + b := by
  rw [RxSarEntry.shift]

end Fields

/-- The addition of `b` wraps. -/
def Carries (x : BitVec 32) : Prop := 2 ^ 32 ≤ x.toNat + b.toNat

instance (x : BitVec 32) : Decidable (Carries b x) :=
  inferInstanceAs (Decidable (2 ^ 32 ≤ x.toNat + b.toNat))

/-- Two different numbers keep their order exactly when they wrap alike. -/
lemma add_lt_add_iff_carries {x y : BitVec 32} (h : x ≠ y) :
    (x + b < y + b ↔ x < y) ↔ (Carries b x ↔ Carries b y) := by
  have hne : x.toNat ≠ y.toNat := fun he => h (BitVec.eq_of_toNat_eq he)
  have hx := x.isLt
  have hy := y.isLt
  have hb := b.isLt
  simp only [Carries, BitVec.lt_def, BitVec.toNat_add]
  omega

/-- `x + n` compares with `y` in the same way after the translation, if both wrap alike or `n`
is longer than the way from `x` to `y`. -/
lemma add_compare_iff_carries (x y : BitVec 32) {n : ℕ} (hn : n < 2 ^ 16) :
    (((x + b).toNat + n < (y + b).toNat ↔ x.toNat + n < y.toNat) ∧
        ((x + b).toNat + n = (y + b).toNat ↔ x.toNat + n = y.toNat)) ↔
      ((Carries b x ↔ Carries b y) ∨ (y - x).toNat < n) := by
  have hx := x.isLt
  have hy := y.isLt
  have hb := b.isLt
  simp only [Carries, BitVec.toNat_add, toNat_sub_eq]
  split <;> omega

/-- The successor of `x`, computed with 33 bits, is `y` before and after the translation. -/
lemma succ_eq_iff_carries (x y : BitVec 32) :
    ((x + b).toNat + 1 = (y + b).toNat ↔ x.toNat + 1 = y.toNat) ↔
      (x + 1 = y → (Carries 1 x ↔ Carries 1 (x + b))) := by
  have hx := x.isLt
  have hy := y.isLt
  have hb := b.isLt
  simp only [Carries, BitVec.toNat_add, ← BitVec.toNat_inj, BitVec.toNat_ofNat,
    BitVec.ofNat_eq_ofNat]
  omega

/-- The numbers that the payload processing compares without regard to the wrap are wrapped
alike: `seqNumb` and `rcvd` where the segment could start an out-of-order run, `rcvd` and
`oooTail` where it could fill the gap. -/
def OooCarries (m : RXeFsmMeta) (e : RxSarEntry) : Prop :=
  (e.ooo = false → m.seqNumb ≠ e.rcvd →
    (m.seqNumb + m.length.setWidth 32 - e.oooHead).setWidth 16 < fsmFreeSpace e →
      (Carries b m.seqNumb ↔ Carries b e.rcvd)) ∧
  (e.ooo = true → m.seqNumb = e.rcvd →
    ¬(m.seqNumb = e.oooHead ∧ m.length < fsmFreeSpace e) →
      (Carries b e.rcvd ↔ Carries b e.oooTail) ∨ (e.oooTail - e.rcvd).toNat < m.length.toNat)

instance (m : RXeFsmMeta) (e : RxSarEntry) : Decidable (OooCarries b m e) :=
  inferInstanceAs (Decidable (_ ∧ _))

@[simp] lemma fsmFreeSpace_shift (e : RxSarEntry) : fsmFreeSpace (e.shift b) = fsmFreeSpace e := by
  simp only [fsmFreeSpace, RxSarEntry.shift, BitVec.setWidth_add _ _ (by decide : 16 ≤ 32)]
  ring

lemma segEnd_shift (m : RXeFsmMeta) (x : RxSeqNum) :
    (m.shift b).seqNumb + (m.shift b).length.setWidth 32 - (x + b)
      = m.seqNumb + m.length.setWidth 32 - x := by
  simp only [RXeFsmMeta.shift]
  ring

/-- The outcome of two tests that exclude each other tells both. -/
lemma gap_case_eq_iff {p q p' q' : Prop} [Decidable p] [Decidable q] [Decidable p']
    [Decidable q'] (h : ¬(p ∧ q)) (h' : ¬(p' ∧ q')) :
    ((if p' then OooCase.continueGap else if q' then .finish else .drop)
        = if p then .continueGap else if q then .finish else .drop) ↔
      (p' ↔ p) ∧ (q' ↔ q) := by
  by_cases hp : p <;> by_cases hq : q <;> by_cases hp' : p' <;> by_cases hq' : q' <;> simp_all

/-- The case of a translated segment is the same exactly when the numbers wrap alike. -/
lemma oooCase_shift_iff (m : RXeFsmMeta) (e : RxSarEntry) :
    oooCase (m.shift b) (e.shift b) = oooCase m e ↔ OooCarries b m e := by
  have hlen := m.length.isLt
  have hgap := add_compare_iff_carries b e.rcvd e.oooTail hlen
  have hlt := add_lt_add_iff_carries b (x := e.rcvd) (y := m.seqNumb)
  unfold oooCase OooCarries
  rw [fsmFreeSpace_shift, show (e.shift b).oooHead = e.oooHead + b from rfl, segEnd_shift]
  simp only [RXeFsmMeta.shift, RxSarEntry.shift, BitVec.add_left_inj, gt_iff_lt]
  cases e.ooo with
  | false =>
      by_cases hseq : m.seqNumb = e.rcvd
      · simp [hseq]
      · rw [iff_comm (a := Carries b m.seqNumb), ← hlt (Ne.symm hseq)]
        by_cases ht : (m.seqNumb + m.length.setWidth 32 - e.oooHead).setWidth 16
            < fsmFreeSpace e
        · simp only [hseq, ht, Bool.false_eq_true, not_false_eq_true, true_and, false_and,
            and_true, if_false, ne_eq, true_imp_iff, false_imp_iff]
          by_cases h : e.rcvd < m.seqNumb <;>
            by_cases h' : e.rcvd + b < m.seqNumb + b <;> simp [h, h']
        · simp [hseq, ht]
  | true =>
      by_cases hseq : m.seqNumb = e.rcvd
      · rw [hseq, ← hgap]
        by_cases hd : e.rcvd = e.oooHead ∧ m.length < fsmFreeSpace e
        · simp [hd.1, hd.2]
        · simp only [hd, if_false, true_and, not_true_eq_false, false_and, true_imp_iff,
            Bool.true_eq_false, false_imp_iff, not_false_eq_true]
          exact gap_case_eq_iff (by omega) (by omega)
      · simp [hseq]

/-! ### One segment -/

/-- What `out'` says of the payload of a translated segment is what `out` says, translated. -/
structure SameData (e : RxSarEntry) (out' out : FsmOut) : Prop where
  reaction : out'.reaction = out.reaction
  rxSar : out'.rxSar (e.shift b) = (out.rxSar e).shift b

lemma rxSarWrite_wr_shift (e : RxSarEntry) (id : SessionId) (x : RxSeqNum) :
    rxSarWrite (e.shift b) (.wr id (x + b)) = (rxSarWrite e (.wr id x)).shift b := rfl

lemma rxSarWrite_wrInit_shift (e : RxSarEntry) (id : SessionId) (x : RxSeqNum) :
    rxSarWrite (e.shift b) (.wrInit id (x + b)) = (rxSarWrite e (.wrInit id x)).shift b := by
  simp [rxSarWrite, RXeRxSarQuery.wrInit, RxSarEntry.shift,
    BitVec.setWidth_add x b (by decide : 16 ≤ 32)]

lemma rxSarWrite_wrOoo_shift (e : RxSarEntry) (id : SessionId) (x y z : RxSeqNum) (o : Bool) :
    rxSarWrite (e.shift b) (.wrOoo id (x + b) o (y + b) (z + b))
      = (rxSarWrite e (.wrOoo id x o y z)).shift b := by
  cases o <;> rfl

/-- Each case of the payload processing commutes with the translation. -/
lemma oooOut_shift (m : RXeFsmMeta) (e : RxSarEntry) (k : OooCase) :
    SameData b e (oooOut (m.shift b) (e.shift b) k) (oooOut m e k) := by
  have hend : m.seqNumb + b + m.length.setWidth 32 = m.seqNumb + m.length.setWidth 32 + b := by
    ring
  cases k with
  | default => exact ⟨rfl, by
      simp only [oooOut, RXeFsmMeta.shift, FsmOut.rxSar, List.foldl_cons, List.foldl_nil, hend,
        rxSarWrite_wr_shift]⟩
  | start => exact ⟨rfl, by
      simp only [oooOut, RXeFsmMeta.shift, FsmOut.rxSar, List.foldl_cons, List.foldl_nil, hend]
      exact rxSarWrite_wrOoo_shift ..⟩
  | continueHead => exact ⟨rfl, by
      simp only [oooOut, RXeFsmMeta.shift, FsmOut.rxSar, List.foldl_cons, List.foldl_nil, hend]
      exact rxSarWrite_wrOoo_shift ..⟩
  | continueGap => exact ⟨rfl, by
      simp only [oooOut, RXeFsmMeta.shift, FsmOut.rxSar, List.foldl_cons, List.foldl_nil, hend]
      exact rxSarWrite_wrOoo_shift ..⟩
  | finish =>
      refine ⟨?_, ?_⟩
      · have hlen : e.oooHead + b - (e.rcvd + b) = e.oooHead - e.rcvd := by ring
        simp only [oooOut, FsmOut.reaction, List.map_cons, List.map_nil, rxNotif,
          RxSarEntry.shift, hlen]
      · exact rxSarWrite_wrOoo_shift ..
  | drop => exact ⟨rfl, rfl⟩

/-- Two cases that can arise for the same segment and entry differ in their outcome: one of
them drops, or only one of them ends the out-of-order run. -/
lemma oooCase_eq_of_outcome {m : RXeFsmMeta} {e : RxSarEntry} {k k' : OooCase}
    (hr : (oooOut m e k').reaction = (oooOut m e k).reaction)
    (hooo : ((oooOut m e k').rxSar e).ooo = ((oooOut m e k).rxSar e).ooo)
    (hk : k' = .default ↔ k = .default) (hh : k' = .continueHead ↔ k = .continueHead)
    (hs : k' = .start → k = .start ∨ k = .drop) (hs' : k = .start → k' = .start ∨ k' = .drop) :
    k' = k := by
  cases k <;> cases k' <;>
    simp_all [oooOut, FsmOut.reaction, FsmOut.rxSar, rxSarWrite, RXeRxSarQuery.wrOoo, cmdKeep,
      cmdDrop]

/-- The cases before and after the translation can only differ where plain comparisons
decide. -/
lemma oooCase_shift_cases (m : RXeFsmMeta) (e : RxSarEntry) :
    (oooCase (m.shift b) (e.shift b) = .default ↔ oooCase m e = .default) ∧
    (oooCase (m.shift b) (e.shift b) = .continueHead ↔ oooCase m e = .continueHead) ∧
    (oooCase (m.shift b) (e.shift b) = .start → oooCase m e = .start ∨ oooCase m e = .drop) ∧
    (oooCase m e = .start → oooCase (m.shift b) (e.shift b) = .start ∨
      oooCase (m.shift b) (e.shift b) = .drop) := by
  unfold oooCase
  rw [fsmFreeSpace_shift, show (e.shift b).oooHead = e.oooHead + b from rfl, segEnd_shift]
  simp only [RXeFsmMeta.shift, RxSarEntry.shift, BitVec.add_left_inj]
  cases e.ooo with
  | false =>
      simp only [Bool.false_eq_true, not_false_eq_true, true_and, false_and, if_false]
      split_ifs <;> simp
  | true =>
      simp only [not_true_eq_false, false_and, if_false, true_and]
      split_ifs <;> simp

/-- The payload processing commutes with the translation exactly when the numbers wrap
alike. -/
lemma oooOut_oooCase_shift_iff (m : RXeFsmMeta) (e : RxSarEntry) :
    SameData b e (oooOut (m.shift b) (e.shift b) (oooCase (m.shift b) (e.shift b)))
        (oooOut m e (oooCase m e)) ↔ OooCarries b m e := by
  rw [← oooCase_shift_iff]
  constructor
  · rintro ⟨hr, he⟩
    obtain ⟨hr', he'⟩ := oooOut_shift b m e (oooCase (m.shift b) (e.shift b))
    obtain ⟨hk, hh, hs, hs'⟩ := oooCase_shift_cases b m e
    have hooo := congrArg RxSarEntry.ooo (he'.symm.trans he)
    exact oooCase_eq_of_outcome (hr'.symm.trans hr) hooo hk hh hs hs'
  · intro h
    rw [h]
    exact oooOut_shift b m e (oooCase m e)

/-- The outcome `out'` of a translated segment is the translated outcome `out`. -/
structure SameOutcome (tcpState : TcpState) (e : RxSarEntry) (out' out : FsmOut) : Prop
    extends SameData b e out' out where
  tcpState : out'.tcpState tcpState = out.tcpState tcpState

lemma sameOutcome_iff {tcpState : TcpState} {e : RxSarEntry} {out out' d d' : FsmOut}
    (hd : out.data = d) (hd' : out'.data = d') (hs : out'.stateQry = out.stateQry) :
    SameOutcome b tcpState e out' out ↔ SameData b e d' d := by
  subst hd hd'
  exact ⟨fun h => ⟨h.reaction, h.rxSar⟩,
    fun h => ⟨⟨h.reaction, h.rxSar⟩, by rw [FsmOut.tcpState, hs, FsmOut.tcpState]⟩⟩

section Branches

variable (m : RXeFsmMeta) (tcpState : TcpState) (e : RxSarEntry) (txSar : RXeTxSarReply)

/-- The ACK branch. -/
lemma fsmAck_shift_iff :
    SameOutcome b tcpState e (fsmAck (m.shift b) tcpState (e.shift b) txSar)
        (fsmAck m tcpState e txSar) ↔
      (ackAccepted tcpState → m.length ≠ 0 → OooCarries b m e) := by
  rw [sameOutcome_iff b (data_fsmAck m tcpState e txSar)
    (data_fsmAck (m.shift b) tcpState (e.shift b) txSar)
    (by rw [stateQry_fsmAck, stateQry_fsmAck]; rfl)]
  by_cases hacc : ackAccepted tcpState
  · rw [if_pos hacc, if_pos hacc, ← oooOut_oooCase_shift_iff]
    by_cases hlen : m.length = 0
    · refine iff_of_true ?_ (fun _ h => absurd hlen h)
      simp only [ackPayload, RXeFsmMeta.shift, hlen]
      exact ⟨rfl, rfl⟩
    · have hlen' : (m.shift b).length ≠ 0 := hlen
      rw [ackPayload, ackPayload, if_pos hlen, if_pos hlen']
      exact ⟨fun h _ _ => h, fun h => h hacc hlen⟩
  · rw [if_neg hacc, if_neg hacc]
    exact iff_of_true ⟨rfl, rfl⟩ (fun h => absurd h hacc)

/-- The SYN branch: a repeated SYN is recognised by a comparison that does not wrap. -/
lemma fsmSyn_shift_iff :
    SameOutcome b tcpState e (fsmSyn (m.shift b) tcpState (e.shift b)) (fsmSyn m tcpState e) ↔
      (tcpState = .synReceived → m.seqNumb + 1 = e.rcvd →
        (Carries 1 m.seqNumb ↔ Carries 1 (m.seqNumb + b))) := by
  have hseq : m.seqNumb + b + 1 = m.seqNumb + 1 + b := by ring
  unfold fsmSyn
  by_cases hc : tcpState = .closed ∨ tcpState = .synSent
  · rw [if_pos hc, if_pos hc]
    refine iff_of_true ⟨⟨rfl, ?_⟩, rfl⟩ (fun h => by simp [h] at hc)
    simp only [FsmOut.rxSar, List.foldl_cons, List.foldl_nil, RXeFsmMeta.shift, hseq]
    exact rxSarWrite_wrInit_shift ..
  · rw [if_neg hc, if_neg hc]
    by_cases hr : tcpState = .synReceived
    · subst hr
      have hcar : ((m.shift b).seqNumb.toNat + 1 = (e.shift b).rcvd.toNat
          ↔ m.seqNumb.toNat + 1 = e.rcvd.toNat) ↔ _ := succ_eq_iff_carries b m.seqNumb e.rcvd
      rw [if_pos rfl, if_pos rfl, ← hcar, forall_prop_of_true rfl]
      by_cases h1 : m.seqNumb.toNat + 1 = e.rcvd.toNat <;>
        by_cases h2 : (m.shift b).seqNumb.toNat + 1 = (e.shift b).rcvd.toNat
      · rw [if_pos h1, if_pos h2]
        exact iff_of_true ⟨⟨rfl, rfl⟩, rfl⟩ (iff_of_true h2 h1)
      · rw [if_pos h1, if_neg h2]
        exact iff_of_false (fun h => nomatch h.tcpState) (fun h => h2 (h.mpr h1))
      · rw [if_neg h1, if_pos h2]
        exact iff_of_false (fun h => nomatch h.tcpState) (fun h => h1 (h.mp h2))
      · rw [if_neg h1, if_neg h2]
        exact iff_of_true ⟨⟨rfl, rfl⟩, rfl⟩ (iff_of_false h2 h1)
    · rw [if_neg hr, if_neg hr]
      exact iff_of_true ⟨⟨rfl, rfl⟩, rfl⟩ (fun h => absurd h hr)

/-- The SYN+ACK branch. -/
lemma fsmSynAck_shift :
    SameOutcome b tcpState e (fsmSynAck (m.shift b) tcpState txSar)
      (fsmSynAck m tcpState txSar) := by
  have hseq : m.seqNumb + b + 1 = m.seqNumb + 1 + b := by ring
  unfold fsmSynAck
  simp only [RXeFsmMeta.shift_ackNumb, RXeFsmMeta.shift_seqNumb, RXeFsmMeta.shift_sessionId,
    RXeFsmMeta.shift_length]
  split_ifs
  · refine ⟨⟨rfl, ?_⟩, rfl⟩
    simp only [FsmOut.rxSar, FsmOut.append_rxSarQry, List.nil_append, List.foldl_cons,
      List.foldl_nil, hseq]
    exact rxSarWrite_wrInit_shift ..
  · exact ⟨⟨rfl, rfl⟩, rfl⟩
  · exact ⟨⟨rfl, rfl⟩, rfl⟩

lemma finAccepted_shift : finAccepted (m.shift b) tcpState (e.shift b)
    = finAccepted m tcpState e := by
  simp [finAccepted, RXeFsmMeta.shift, RxSarEntry.shift]

lemma finState_shift : finState (m.shift b) tcpState txSar = finState m tcpState txSar := by
  simp only [finState, RXeFsmMeta.shift_ackNumb, RXeFsmMeta.shift_sessionId]

/-- The FIN+ACK branch. -/
lemma fsmFinAck_shift :
    SameOutcome b tcpState e (fsmFinAck (m.shift b) tcpState (e.shift b) txSar)
      (fsmFinAck m tcpState e txSar) := by
  have hseq : m.seqNumb + b + m.length.setWidth 32 + 1
      = m.seqNumb + m.length.setWidth 32 + 1 + b := by ring
  rw [sameOutcome_iff b (data_fsmFinAck m tcpState e txSar)
    (data_fsmFinAck (m.shift b) tcpState (e.shift b) txSar)
    (by rw [stateQry_fsmFinAck, stateQry_fsmFinAck, finAccepted_shift, finState_shift,
      RXeFsmMeta.shift_sessionId]), finAccepted_shift]
  split
  · refine ⟨?_, ?_⟩
    · unfold finData finPayload
      simp only [RXeFsmMeta.shift_length]
      split_ifs <;>
        simp only [FsmOut.reaction, FsmOut.append_dropCmd, FsmOut.append_rxNotif, rxNotif,
          List.nil_append, List.map_cons, List.map_nil]
    · simp only [FsmOut.rxSar, rxSarQry_finData, List.foldl_cons, List.foldl_nil,
        RXeFsmMeta.shift, hseq]
      exact rxSarWrite_wr_shift ..
  · exact ⟨rfl, rfl⟩

/-- The branch of the other control bits. -/
lemma fsmDefault_shift :
    SameOutcome b tcpState e (fsmDefault (m.shift b) tcpState (e.shift b) txSar)
      (fsmDefault m tcpState e txSar) := by
  unfold fsmDefault
  simp only [RXeFsmMeta.shift_rst, RXeFsmMeta.shift_ackNumb, RXeFsmMeta.shift_seqNumb,
    RXeFsmMeta.shift_sessionId, RxSarEntry.shift_rcvd, BitVec.add_left_inj]
  split_ifs <;> exact ⟨⟨rfl, rfl⟩, rfl⟩

end Branches

/-- The numbers that a step compares are wrapped alike. -/
def StepCarries (s : RxSession) : RxInput → Prop
  | .segment m _ =>
      (ackOnly m → ackAccepted s.tcpState → m.length ≠ 0 → OooCarries b m s.rxSar) ∧
      (synOnly m → s.tcpState = .synReceived → m.seqNumb + 1 = s.rxSar.rcvd →
        (Carries 1 m.seqNumb ↔ Carries 1 (m.seqNumb + b)))
  | .stateWrite _ => True

lemma fsmTransition_shift_iff (s : RxSession) (m : RXeFsmMeta) (txSar : RXeTxSarReply) :
    SameOutcome b s.tcpState s.rxSar
        (fsmTransition (m.shift b) s.tcpState (s.rxSar.shift b) txSar)
        (fsmTransition m s.tcpState s.rxSar txSar) ↔ StepCarries b s (.segment m txSar) := by
  unfold fsmTransition
  rw [show (m.shift b).rst = m.rst from rfl, show (m.shift b).fin = m.fin from rfl,
    show (m.shift b).syn = m.syn from rfl, show (m.shift b).ack = m.ack from rfl]
  cases hrst : m.rst <;> cases hfin : m.fin <;> cases hsyn : m.syn <;> cases hack : m.ack <;>
    simp [StepCarries, ackOnly, synOnly, hrst, hfin, hsyn, hack, fsmAck_shift_iff,
      fsmSyn_shift_iff, fsmSynAck_shift, fsmFinAck_shift, fsmDefault_shift]

/-- One step commutes with the translation exactly when the numbers it compares are wrapped
alike. -/
lemma rxSession_step_shift_iff (s : RxSession) (i : RxInput) :
    rxSession.step (s.shift b) (i.shift b) = Prod.map id (·.shift b) (rxSession.step s i) ↔
      StepCarries b s i := by
  cases i with
  | stateWrite tcpState => exact iff_of_true rfl trivial
  | segment m txSar =>
      rw [← fsmTransition_shift_iff]
      simp only [rxSession, RxInput.shift, RxSession.shift, Prod.map, Prod.mk.injEq, id,
        RxSession.mk.injEq]
      exact ⟨fun ⟨hr, ht, he⟩ => ⟨⟨hr, he⟩, ht⟩, fun h => ⟨h.reaction, h.tcpState, h.rxSar⟩⟩

/-- **Translation of the sequence space**: from every state and for every sequence of segments,
the translated run makes the same drop decisions and notifications, and its pointers are the
translated pointers, exactly when every step wraps the numbers that it compares alike. -/
theorem rxSession_shift_iff (s : RxSession) (is : List RxInput) :
    rxSession.trace (s.shift b) (is.map (·.shift b))
        = (rxSession.trace s is).map (Prod.map id (·.shift b)) ↔
      Clocked.Along rxSession.next (StepCarries b) s is :=
  Transducer.trace_map_iff (rxSession_step_shift_iff b) s is

end Shift

/-- The bytes from `0x10005` to `0x1000F` came out of order, and the segment that fills the gap
of 10 bytes arrives. -/
def gapSession : RxSession where
  tcpState := .established
  rxSar := { appd := 0xFFFB, rcvd := 0xFFFB, ooo := true, oooHead := 0x1000F, oooTail := 0x10005 }

def gapSegment : RxInput :=
  .segment { seqNumb := 0xFFFB, ackNumb := 0, length := 10, ack := true, sessionId := 0 } {}

/-- The segment that fills the gap is kept, with a notification of the 20 bytes, and the run
ends; where the gap straddles `2^32`, it is dropped. -/
theorem gap_straddles_wrap :
    rxSession.trace gapSession [gapSegment]
        = [(⟨[cmdKeep], [20]⟩, ⟨.established, ⟨0xFFFB, 0x1000F, false, 0x1000F, 0x1000F⟩⟩)] ∧
    rxSession.trace (gapSession.shift 0xFFFF0000) [gapSegment.shift 0xFFFF0000]
        = [(⟨[cmdDrop], []⟩, gapSession.shift 0xFFFF0000)] ∧
    rxSession.trace (gapSession.shift 0xFFFF0000) [gapSegment.shift 0xFFFF0000]
      ≠ (rxSession.trace gapSession [gapSegment]).map
          (Prod.map id (·.shift 0xFFFF0000)) := by decide

end CloudFpga.Toe
