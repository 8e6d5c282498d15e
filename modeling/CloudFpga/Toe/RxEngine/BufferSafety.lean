import CloudFpga.Foundation.Machine
import CloudFpga.Foundation.Circular
import CloudFpga.Toe.Tables.RxSarTable
import CloudFpga.Toe.RxEngine.FiniteStateMachine

/-!
Safety of the Rx buffer: `pFiniteStateMachine` against the read pointer of the application.

* `rxMachine`: segments with the flags ACK or FIN+ACK, loaded and processed one after the other,
  interleaved with reads of the application.
* `InOrder`: `appd ≤ rcvd ≤ oooTail ≤ oooHead < appd + 65536` in the circular order;
  `WritesFree`: a write command leaves the received and unread bytes alone.
* `StepInWindow`: the segment is not one of the two kinds that the state machine accepts
  without looking far enough, a segment ahead of the expected one by 64KB or more and a FIN
  that does not fit in the free space.
* `fsm_rxBuffer_safe_iff`: along every run, all writes are safe and the order is preserved
  exactly when all steps are `StepInWindow`.
-/

namespace CloudFpga.Toe

open Foundation

/-! ### The machine -/

/-- The Rx side of the engine. `held` is the segment that the state machine has loaded, with
the reply of the Rx SAR table. `appdSeq` is a history variable: for each session the sequence
number of the next byte that the application reads, of which `appd` keeps the low 16 bits. -/
structure RxState where
  table : RxSarTable
  held : Option (RXeFsmMeta × RxSarReply) := none
  appdSeq : SessionId → RxSeqNum

inductive RxLabel where
  /-- `FSM_LOAD` of a segment -/
  | load (m : RXeFsmMeta)
  /-- `FSM_TRANSITION` of the loaded segment, with the replies of the state table and of the
  Tx SAR table -/
  | transition (tcpState : TcpState) (txSar : RXeTxSarReply)
  /-- the application reads `len` bytes of a session -/
  | appRead (id : SessionId) (len : TcpSegLen)

/-- The flags are ACK, or FIN and ACK. -/
def ackOrFinAck (m : RXeFsmMeta) : Bool := m.ack ∧ ¬m.syn ∧ ¬m.rst

/-- The number of bytes of a session that were received in order and not yet read. -/
def unread (s : RxState) (id : SessionId) : ℕ := ((s.table id).rcvd - s.appdSeq id).toNat

/-- What the state machine writes in a step. -/
def rxOut (s : RxState) : RxLabel → FsmOut
  | .transition tcpState txSar =>
      match s.held with
      | some (m, rep) => fsmTransition m tcpState rep txSar
      | none => {}
  | _ => {}

def rxStep (s : RxState) : RxLabel → Option RxState
  | .load m =>
      if s.held.isNone ∧ ackOrFinAck m then
        some { s with held := ((fsmLoad m).rxSarQry.flatMap (replyRXe s.table)).head?.map (m, ·) }
      else none
  | .transition tcpState txSar =>
      if s.held.isSome then
        some { s with
          table := (rxOut s (.transition tcpState txSar)).rxSarQry.foldl serveRXe s.table
          held := none }
      else none
  | .appRead id len =>
      if len.toNat ≤ unread s id then
        some { s with
          table := rxAppStream s.table ⟨id, len⟩
          appdSeq := Function.update s.appdSeq id (s.appdSeq id + len.setWidth 32) }
      else none

/-- The machine of the Rx side. -/
def rxMachine : Machine RxState RxLabel := ⟨rxStep⟩

/-! ### The properties of an entry -/

/-- The pointers of an entry are in the circular order
`appd ≤ rcvd ≤ oooTail ≤ oooHead < appd + 65536`. -/
structure InOrder (e : RxSarEntry) (appdSeq : RxSeqNum) : Prop where
  appd : e.appd = appdSeq.setWidth 16
  rcvd_le : (e.rcvd - appdSeq).toNat ≤ (e.oooTail - appdSeq).toNat
  tail_le : (e.oooTail - appdSeq).toNat ≤ (e.oooHead - appdSeq).toNat
  head_lt : (e.oooHead - appdSeq).toNat < toeBufferSize

/-- The buffer offset `p` holds a byte that was received in order and not yet read. -/
def Unread (e : RxSarEntry) (appdSeq : RxSeqNum) (p : RxBufPtr) : Prop :=
  (p - e.appd).toNat < (e.rcvd - appdSeq).toNat

instance (e : RxSarEntry) (a : RxSeqNum) (p : RxBufPtr) : Decidable (Unread e a p) :=
  inferInstanceAs (Decidable ((p - e.appd).toNat < (e.rcvd - a).toNat))

/-- The bytes that a write command covers in the circular buffer are all free. -/
def WritesFree (e : RxSarEntry) (appdSeq : RxSeqNum) (c : DmCmd) : Prop :=
  ∀ i < c.btt.toNat, ¬Unread e appdSeq (c.offset + BitVec.ofNat 16 i)

/-- Without out-of-order bytes the three network pointers coincide. -/
def Collapsed (e : RxSarEntry) : Prop := e.ooo = false → e.oooHead = e.rcvd ∧ e.oooTail = e.rcvd

/-- The state machine sees the network pointers of the entry, and at most its free space. -/
structure Sees (rep : RxSarReply) (e : RxSarEntry) (appdSeq : RxSeqNum) : Prop where
  rcvd : rep.rcvd = e.rcvd
  ooo : rep.ooo = e.ooo
  head : rep.oooHead = e.oooHead
  tail : rep.oooTail = e.oooTail
  space : (fsmFreeSpace rep).toNat + (e.oooHead - appdSeq).toNat < toeBufferSize

/-! ### One segment -/

lemma fsmFreeSpace_toNat {e : RxSarEntry} {a : RxSeqNum} (h : InOrder e a) :
    (fsmFreeSpace e).toNat + (e.oooHead - a).toNat + 1 = toeBufferSize := by
  have h2 := h.head_lt
  have hspace : fsmFreeSpace e = -((e.oooHead - a).setWidth 16 + 1) := by
    rw [fsmFreeSpace, h.appd, setWidth_sub (by decide)]
    ring
  rw [hspace]
  generalize e.oooHead - a = d at h2 ⊢
  unfold toeBufferSize at h2 ⊢
  simp only [BitVec.toNat_neg, BitVec.toNat_add, BitVec.toNat_setWidth, BitVec.ofNat_eq_ofNat,
    BitVec.toNat_ofNat]
  omega

lemma offset_rxMemWrCmd (m : RXeFsmMeta) : (rxMemWrCmd m).offset = m.seqNumb.setWidth 16 :=
  offset_ofAddrLen_memSegAddr _ _ _ _

lemma btt_rxMemWrCmd (m : RXeFsmMeta) : (rxMemWrCmd m).btt.toNat = m.length.toNat := by
  have h := m.length.isLt
  simp only [rxMemWrCmd, DmCmd.ofAddrLen, BitVec.toNat_setWidth]
  omega

/-- A segment that starts no earlier than `rcvd` and ends before `appd + 65536` only covers
free bytes. -/
lemma writesFree_rxMemWrCmd {e : RxSarEntry} {a : RxSeqNum} {m : RXeFsmMeta}
    (he : e.appd = a.setWidth 16) (hge : (e.rcvd - a).toNat ≤ (m.seqNumb - a).toNat)
    (hlt : (m.seqNumb - a).toNat + m.length.toNat ≤ toeBufferSize) :
    WritesFree e a (rxMemWrCmd m) := by
  intro i hi hu
  rw [btt_rxMemWrCmd] at hi
  rw [Unread, offset_rxMemWrCmd, he] at hu
  unfold toeBufferSize at hlt
  have hoff : m.seqNumb.setWidth 16 + BitVec.ofNat 16 i - a.setWidth 16
      = (m.seqNumb - a).setWidth 16 + BitVec.ofNat 16 i := by
    rw [setWidth_sub (by decide)]
    ring
  rw [hoff] at hu
  generalize m.seqNumb - a = d at hu hge hlt
  simp only [BitVec.toNat_add, BitVec.toNat_setWidth, BitVec.toNat_ofNat] at hu
  omega

/-- The end of a segment, measured from a pointer behind which the segment starts. -/
lemma toNat_segEnd_sub {a : RxSeqNum} {m : RXeFsmMeta}
    (h : (m.seqNumb - a).toNat + m.length.toNat < 2 ^ 32) :
    (m.seqNumb + m.length.setWidth 32 - a).toNat = (m.seqNumb - a).toNat + m.length.toNat := by
  have hlen : (m.length.setWidth 32).toNat = m.length.toNat :=
    BitVec.toNat_setWidth_of_le (by decide)
  rw [toNat_add_sub (by rw [hlen]; exact h), hlen]

/-- The distances of a segment that starts ahead of `rcvd`, in the order of naturals. -/
lemma toNat_sub_of_lt {r x : RxSeqNum} (h : r < x) : (x - r).toNat + r.toNat = x.toNat := by
  have hle : r.toNat ≤ x.toNat := Nat.le_of_lt h
  rw [toNat_sub_eq, if_pos hle]
  omega

/-- The start of an out-of-order run preserves the order exactly when the segment ends less
than 64KB ahead of `rcvd`; beyond that its end was only compared modulo `2^16`. -/
lemma start_safe_iff {e : RxSarEntry} {a : RxSeqNum} {m : RXeFsmMeta}
    (ho : InOrder e a) (hH : e.oooHead = e.rcvd) (hlt : e.rcvd < m.seqNumb) {fs : RxBufPtr}
    (hfs : fs.toNat + (e.oooHead - a).toNat < toeBufferSize)
    (hend : (m.seqNumb + m.length.setWidth 32 - e.oooHead).setWidth 16 < fs) :
    (WritesFree e a (rxMemWrCmd m) ∧
        InOrder { e with ooo := true, oooHead := m.seqNumb + m.length.setWidth 32,
                         oooTail := m.seqNumb } a) ↔
      m.seqNumb.toNat + m.length.toNat < e.rcvd.toNat + toeBufferSize := by
  obtain ⟨happd, hrt, hth, hh⟩ := ho
  have hD := toNat_sub_of_lt hlt
  have hseq : m.seqNumb - a = (m.seqNumb - e.rcvd) + (e.rcvd - a) := by ring
  have hl := m.length.isLt
  have hd := (m.seqNumb - e.rcvd).isLt
  unfold toeBufferSize at *
  constructor
  · rintro ⟨-, -, hr', ht', hh'⟩
    -- beyond 64KB one of the three comparisons fails, whichever sum wraps
    dsimp only at hr' ht' hh'
    unfold toeBufferSize at hh'
    have hsum : m.seqNumb + m.length.setWidth 32 - a
        = (m.seqNumb - e.rcvd) + (e.rcvd - a) + m.length.setWidth 32 := by ring
    rw [hsum] at ht' hh'
    rw [hseq] at hr' ht'
    generalize m.seqNumb - e.rcvd = d at *
    generalize e.rcvd - a = r at *
    simp only [BitVec.toNat_add, BitVec.toNat_setWidth] at hr' ht' hh'
    omega
  · intro hlt'
    have hr : (e.rcvd - a).toNat + (m.seqNumb - e.rcvd).toNat = (m.seqNumb - a).toNat := by
      rw [hseq, BitVec.toNat_add_of_lt (by omega), Nat.add_comm]
    have htr : ((m.seqNumb + m.length.setWidth 32 - e.oooHead).setWidth 16).toNat
        = (m.seqNumb - e.rcvd).toNat + m.length.toNat := by
      rw [hH, BitVec.toNat_setWidth, toNat_segEnd_sub (by omega)]
      omega
    have hfit : (m.seqNumb - e.rcvd).toNat + m.length.toNat < fs.toNat := htr ▸ hend
    have hendA := toNat_segEnd_sub (a := a) (m := m) (by omega)
    rw [hH] at hfs
    refine ⟨writesFree_rxMemWrCmd happd (by omega) (by unfold toeBufferSize; omega),
      happd, ?_, ?_, ?_⟩ <;> dsimp only <;> unfold toeBufferSize at * <;> omega

/-- The effect of one case on an entry: its writes are safe and the order is preserved, for the
start of an out-of-order run exactly when the segment ends less than 64KB ahead of `rcvd`. -/
lemma oooOut_safe_iff {e : RxSarEntry} {a : RxSeqNum} {m : RXeFsmMeta} {rep : RxSarReply}
    (ho : InOrder e a) (hc : Collapsed e) (hs : Sees rep e a) {k : OooCase}
    (hg : OooGuard m rep k) :
    ((∀ c ∈ (oooOut m rep k).memWrCmd, WritesFree e a c) ∧
        InOrder ((oooOut m rep k).rxSarQry.foldl rxSarWrite e) a) ↔
      (k = .start → m.seqNumb.toNat + m.length.toNat < rep.rcvd.toNat + toeBufferSize) := by
  have hin := ho
  obtain ⟨happd, hrt, hth, hh⟩ := ho
  obtain ⟨hr, hooo, hhd, htl, hsp⟩ := hs
  have hl := m.length.isLt
  cases k with
  | default =>
      obtain ⟨h1, h2, h3⟩ := hg
      obtain ⟨hH, hT⟩ := hc (hooo ▸ h1)
      have h3' : m.length.toNat < (fsmFreeSpace rep).toNat := h3
      have hseq : m.seqNumb = e.rcvd := h2.trans hr
      rw [hH] at hsp hh
      rw [← hseq] at hsp hh
      unfold toeBufferSize at hsp hh
      have hend := toNat_segEnd_sub (a := a) (m := m) (by omega)
      refine iff_of_true ⟨?_, happd, le_refl _, le_refl _, ?_⟩ (fun h => by simp at h)
      · simp only [oooOut, List.mem_singleton, forall_eq]
        exact writesFree_rxMemWrCmd happd (by rw [hseq]) (by unfold toeBufferSize; omega)
      · show (m.seqNumb + m.length.setWidth 32 - a).toNat < toeBufferSize
        unfold toeBufferSize
        omega
  | start =>
      obtain ⟨h1, h2, h3⟩ := hg
      obtain ⟨hH, hT⟩ := hc (hooo ▸ h1)
      rw [hr] at h2
      rw [hhd] at h3
      have key := start_safe_iff hin hH h2 hsp h3
      simp only [oooOut, List.mem_singleton, forall_eq, List.foldl_cons, List.foldl_nil,
        rxSarWrite, RXeRxSarQuery.wrOoo, if_true, hr, true_imp_iff]
      exact key
  | continueHead =>
      obtain ⟨h1, h2, h3⟩ := hg
      have h3' : m.length.toNat < (fsmFreeSpace rep).toNat := h3
      have hseq : m.seqNumb = e.oooHead := h2.trans hhd
      rw [← hseq] at hsp hh hth
      unfold toeBufferSize at hsp hh
      have hend := toNat_segEnd_sub (a := a) (m := m) (by omega)
      refine iff_of_true ⟨?_, happd, ?_, ?_, ?_⟩ (fun h => by simp at h)
      · simp only [oooOut, List.mem_singleton, forall_eq]
        exact writesFree_rxMemWrCmd happd (by omega) (by unfold toeBufferSize; omega)
      · show (rep.rcvd - a).toNat ≤ (rep.oooTail - a).toNat
        rw [hr, htl]
        exact hrt
      · show (rep.oooTail - a).toNat ≤ (m.seqNumb + m.length.setWidth 32 - a).toNat
        rw [htl]
        omega
      · show (m.seqNumb + m.length.setWidth 32 - a).toNat < toeBufferSize
        unfold toeBufferSize
        omega
  | continueGap =>
      obtain ⟨h1, h2, h3⟩ := hg
      have hseq : m.seqNumb = e.rcvd := h2.trans hr
      rw [hr, htl, ← hseq] at h3
      rw [← hseq] at hrt
      have hgap : (m.seqNumb - a).toNat + (e.oooTail - m.seqNumb).toNat
          = (e.oooTail - a).toNat := OnArc.toNat_sub_add hrt
      have hlt : (e.oooTail - m.seqNumb).toNat + m.seqNumb.toNat = e.oooTail.toNat :=
        toNat_sub_of_lt (show m.seqNumb.toNat < e.oooTail.toNat by omega)
      unfold toeBufferSize at hh
      have hend := toNat_segEnd_sub (a := a) (m := m) (by omega)
      refine iff_of_true ⟨?_, happd, ?_, ?_, ?_⟩ (fun h => by simp at h)
      · simp only [oooOut, List.mem_singleton, forall_eq]
        exact writesFree_rxMemWrCmd happd (by rw [hseq]) (by unfold toeBufferSize; omega)
      · show (m.seqNumb + m.length.setWidth 32 - a).toNat ≤ (rep.oooTail - a).toNat
        rw [htl]
        omega
      · show (rep.oooTail - a).toNat ≤ (rep.oooHead - a).toNat
        rw [htl, hhd]
        exact hth
      · show (rep.oooHead - a).toNat < toeBufferSize
        rw [hhd]
        unfold toeBufferSize
        omega
  | finish =>
      obtain ⟨h1, h2, h3⟩ := hg
      have hseq : m.seqNumb = e.rcvd := h2.trans hr
      rw [hr, htl, ← hseq] at h3
      rw [← hseq] at hrt
      have hgap : (m.seqNumb - a).toNat + (e.oooTail - m.seqNumb).toNat
          = (e.oooTail - a).toNat := OnArc.toNat_sub_add hrt
      have hle : (e.oooTail - m.seqNumb).toNat = m.length.toNat := by
        rw [toNat_sub_eq, if_pos (by omega)]
        omega
      unfold toeBufferSize at hh
      refine iff_of_true ⟨?_, happd, le_refl _, le_refl _, ?_⟩ (fun h => by simp at h)
      · simp only [oooOut, List.mem_singleton, forall_eq]
        exact writesFree_rxMemWrCmd happd (by rw [hseq]) (by unfold toeBufferSize; omega)
      · show (rep.oooHead - a).toNat < toeBufferSize
        rw [hhd]
        unfold toeBufferSize
        omega
  | drop =>
      refine iff_of_true ⟨?_, hin⟩ (fun h => by simp at h)
      simp [oooOut]

/-- The effect of an accepted FIN+ACK segment: it is safe exactly when the payload and the FIN
fit in the buffer. -/
lemma finData_safe_iff {e : RxSarEntry} {a : RxSeqNum} {m : RXeFsmMeta} {tcpState : TcpState}
    (ho : InOrder e a) (hseq : m.seqNumb = e.rcvd) :
    ((∀ c ∈ (finData m tcpState).memWrCmd, WritesFree e a c) ∧
        InOrder ((finData m tcpState).rxSarQry.foldl rxSarWrite e) a) ↔
      (e.rcvd - a).toNat + m.length.toNat + 1 < toeBufferSize := by
  obtain ⟨happd, hrt, hth, hh⟩ := ho
  have hl := m.length.isLt
  unfold toeBufferSize at hh
  rw [← hseq] at hrt ⊢
  have hend := toNat_segEnd_sub (a := a) (m := m) (by omega)
  have hfin : (m.seqNumb + m.length.setWidth 32 + 1 - a).toNat
      = (m.seqNumb - a).toNat + m.length.toNat + 1 := by
    have hone : (1 : RxSeqNum).toNat = 1 := rfl
    rw [toNat_add_sub (by rw [hend, hone]; omega), hend, hone]
  have hcmd : ∀ c ∈ (finData m tcpState).memWrCmd, c = rxMemWrCmd m := by
    unfold finData finPayload
    split_ifs <;> simp
  rw [rxSarQry_finData, ← hfin]
  constructor
  · rintro ⟨-, -, -, -, hlt⟩
    exact hlt
  · intro hlt
    refine ⟨fun c hc => ?_, happd, le_refl _, le_refl _, hlt⟩
    rw [hcmd c hc]
    rw [hfin] at hlt
    exact writesFree_rxMemWrCmd happd (by rw [hseq]) (by omega)

/-- Both kinds of segments leave an entry whose pointers coincide when there are no
out-of-order bytes. -/
lemma collapsed_rxSarWrite (e : RxSarEntry) (q : RXeRxSarQuery) : Collapsed (rxSarWrite e q) := by
  intro h
  have hq : q.ooo = false := h
  simp [rxSarWrite, hq]

lemma collapsed_foldl {qs : List RXeRxSarQuery} {e : RxSarEntry} (h : Collapsed e) :
    Collapsed (qs.foldl rxSarWrite e) := by
  induction qs generalizing e with
  | nil => exact h
  | cons q qs ih => exact ih (collapsed_rxSarWrite e q)

/-- Write queries of one session act on the entry of that session. -/
lemma foldl_serveRXe {qs : List RXeRxSarQuery} {id : SessionId}
    (h : ∀ q ∈ qs, q.sessionID = id ∧ q.write = true) (t : RxSarTable) :
    qs.foldl serveRXe t = Function.update t id (qs.foldl rxSarWrite (t id)) := by
  induction qs generalizing t with
  | nil => simp
  | cons q qs ih =>
      obtain ⟨hid, hw⟩ := h q List.mem_cons_self
      rw [List.foldl_cons, List.foldl_cons, ih (fun r hr => h r (List.mem_cons_of_mem q hr)),
        serveRXe_of_write t hw, hid, Function.update_idem, Function.update_self]

/-! ### The steps -/

/-- The state machine takes the segment as the start of an out-of-order run. -/
def startTaken (m : RXeFsmMeta) (tcpState : TcpState) (rep : RxSarReply) : Bool :=
  ackOnly m ∧ ackAccepted tcpState ∧ m.length ≠ 0 ∧ oooCase m rep = .start

/-- The state machine accepts a FIN. -/
def finTaken (m : RXeFsmMeta) (tcpState : TcpState) (rep : RxSarReply) : Bool :=
  finAckOnly m ∧ finAccepted m tcpState rep

/-- The segment that a step processes is looked at far enough: as the start of an out-of-order
run it ends less than 64KB ahead of `rcvd`, and as a FIN it leaves room in the buffer. -/
def StepInWindow (s : RxState) : RxLabel → Prop
  | .transition tcpState _ => ∀ m rep, s.held = some (m, rep) →
      (startTaken m tcpState rep →
        m.seqNumb.toNat + m.length.toNat < rep.rcvd.toNat + toeBufferSize) ∧
      (finTaken m tcpState rep → unread s m.sessionId + m.length.toNat + 1 < toeBufferSize)
  | _ => True

/-- The memory writes of a step cover free bytes only, and the pointers of every session are in
order after it. -/
structure RxSafe (s : RxState) (l : RxLabel) (s' : RxState) : Prop where
  writes : ∀ m rep, s.held = some (m, rep) → ∀ c ∈ (rxOut s l).memWrCmd,
    WritesFree (s.table m.sessionId) (s.appdSeq m.sessionId) c
  order : ∀ id, InOrder (s'.table id) (s'.appdSeq id)

/-- The invariant of the Rx side. -/
structure RxInv (s : RxState) : Prop where
  order : ∀ id, InOrder (s.table id) (s.appdSeq id)
  collapsed : ∀ id, Collapsed (s.table id)
  held : ∀ m rep, s.held = some (m, rep) →
    ackOrFinAck m ∧ Sees rep (s.table m.sessionId) (s.appdSeq m.sessionId)

/-- All sessions are established and empty: `appd = rcvd`, and no segment is loaded. -/
structure RxEstablished (s : RxState) : Prop where
  held : s.held = none
  entry : ∀ id, (s.table id).appd = (s.table id).rcvd.setWidth 16 ∧ (s.table id).ooo = false
    ∧ (s.table id).oooHead = (s.table id).rcvd ∧ (s.table id).oooTail = (s.table id).rcvd
  appdSeq : ∀ id, s.appdSeq id = (s.table id).rcvd

lemma RxEstablished.inv {s : RxState} (h : RxEstablished s) : RxInv s where
  order id := by
    obtain ⟨happd, -, hH, hT⟩ := h.entry id
    rw [h.appdSeq id]
    exact ⟨happd, by simp [hT], by simp [hT, hH], by simp [hH, toeBufferSize]⟩
  collapsed id _ := (h.entry id).2.2
  held m rep hm := by simp [h.held] at hm

/-- A reply taken from the table sees it. -/
lemma InOrder.sees {e : RxSarEntry} {a : RxSeqNum} (h : InOrder e a) : Sees e e a :=
  ⟨rfl, rfl, rfl, rfl, by have := fsmFreeSpace_toNat h; omega⟩

/-- The read pointer advances over bytes that were received. -/
lemma InOrder.advance {e : RxSarEntry} {a : RxSeqNum} {n : BitVec 16} (h : InOrder e a)
    (hn : n.toNat ≤ (e.rcvd - a).toNat) :
    InOrder { e with appd := e.appd + n } (a + n.setWidth 32) ∧
      (e.oooHead - (a + n.setWidth 32)).toNat + n.toNat = (e.oooHead - a).toNat := by
  obtain ⟨happd, hrt, hth, hh⟩ := h
  have hback : ∀ x : RxSeqNum, n.toNat ≤ (x - a).toNat →
      (x - (a + n.setWidth 32)).toNat + n.toNat = (x - a).toNat := by
    intro x hx
    have hlen : (n.setWidth 32).toNat = n.toNat := BitVec.toNat_setWidth_of_le (by decide)
    have hsub : a + n.setWidth 32 - a = n.setWidth 32 := by ring
    have harc : OnArc a (a + n.setWidth 32) x := by
      rw [OnArc, hsub, hlen]
      exact hx
    have hadd := harc.toNat_sub_add
    rw [hsub, hlen] at hadd
    omega
  have hr := hback e.rcvd hn
  have ht := hback e.oooTail (by omega)
  have hd := hback e.oooHead (by omega)
  refine ⟨⟨?_, ?_, ?_, ?_⟩, hd⟩
  · show e.appd + n = (a + n.setWidth 32).setWidth 16
    rw [happd, BitVec.setWidth_add _ _ (by decide)]
    simp
  all_goals dsimp only; omega

/-- What the state machine does with a loaded segment. -/
lemma fsmTransition_data_cases {m : RXeFsmMeta} (hm : ackOrFinAck m) (tcpState : TcpState)
    (rep : RxSarReply) (txSar : RXeTxSarReply) :
    (ackOnly m ∧ ackAccepted tcpState ∧ m.length ≠ 0 ∧ finTaken m tcpState rep = false ∧
        (fsmTransition m tcpState rep txSar).data = oooOut m rep (oooCase m rep)) ∨
    (finTaken m tcpState rep ∧ startTaken m tcpState rep = false ∧
        (fsmTransition m tcpState rep txSar).data = finData m tcpState) ∨
    (startTaken m tcpState rep = false ∧ finTaken m tcpState rep = false ∧
        (fsmTransition m tcpState rep txSar).rxSarQry = [] ∧
        (fsmTransition m tcpState rep txSar).memWrCmd = []) := by
  simp only [ackOrFinAck, decide_eq_true_eq, Bool.not_eq_true] at hm
  obtain ⟨hack, hsyn, hrst⟩ := hm
  cases hfin : m.fin with
  | false =>
      have ho : ackOnly m := by simp [ackOnly, hack, hsyn, hrst, hfin]
      have hnf : finTaken m tcpState rep = false := by simp [finTaken, finAckOnly, hfin]
      rw [fsmTransition_of_ackOnly _ _ _ ho]
      have hd := data_fsmAck m tcpState rep txSar
      by_cases hacc : ackAccepted tcpState = true ∧ m.length ≠ 0
      · rw [if_pos hacc.1, ackPayload, if_pos hacc.2] at hd
        exact .inl ⟨ho, hacc.1, hacc.2, hnf, hd⟩
      · refine .inr (.inr ⟨?_, hnf, ?_, ?_⟩)
        · simp only [startTaken, decide_eq_false_iff_not]
          tauto
        · rw [← FsmOut.data_rxSarQry, hd]
          unfold ackPayload
          split_ifs <;> first | rfl | tauto
        · rw [← FsmOut.data_memWrCmd, hd]
          unfold ackPayload
          split_ifs <;> first | rfl | tauto
  | true =>
      have ho : finAckOnly m := by simp [finAckOnly, hack, hsyn, hrst, hfin]
      have hns : startTaken m tcpState rep = false := by simp [startTaken, ackOnly, hfin]
      rw [fsmTransition_of_finAckOnly _ _ _ ho]
      have hd := data_fsmFinAck m tcpState rep txSar
      by_cases hacc : finAccepted m tcpState rep = true
      · rw [if_pos hacc] at hd
        exact .inr (.inl ⟨by simp [finTaken, ho, hacc], hns, hd⟩)
      · rw [if_neg hacc] at hd
        refine .inr (.inr ⟨hns, by simp [finTaken, hacc], ?_, ?_⟩)
        · rw [← FsmOut.data_rxSarQry, hd]
          rfl
        · rw [← FsmOut.data_memWrCmd, hd]
          rfl

/-- Both kinds of effects are writes to the entry of the segment. -/
lemma mem_rxSarQry_oooOut {m : RXeFsmMeta} {rep : RxSarReply} {k : OooCase}
    {q : RXeRxSarQuery} (h : q ∈ (oooOut m rep k).rxSarQry) :
    q.sessionID = m.sessionId ∧ q.write = true := by
  cases k <;> simp only [oooOut, List.mem_singleton, List.not_mem_nil] at h
  all_goals subst h; exact ⟨rfl, rfl⟩

lemma mem_rxSarQry_finData {m : RXeFsmMeta} {tcpState : TcpState} {q : RXeRxSarQuery}
    (h : q ∈ (finData m tcpState).rxSarQry) : q.sessionID = m.sessionId ∧ q.write = true := by
  rw [rxSarQry_finData, List.mem_singleton] at h
  subst h
  exact ⟨rfl, rfl⟩

/-- Processing one segment: the writes and the new entry of its session. -/
lemma transition_safe_iff {e : RxSarEntry} {a : RxSeqNum} {m : RXeFsmMeta} {rep : RxSarReply}
    (ho : InOrder e a) (hc : Collapsed e) (hs : Sees rep e a) (hm : ackOrFinAck m)
    (tcpState : TcpState) (txSar : RXeTxSarReply) :
    (∀ q ∈ (fsmTransition m tcpState rep txSar).rxSarQry,
        q.sessionID = m.sessionId ∧ q.write = true) ∧
    (((∀ c ∈ (fsmTransition m tcpState rep txSar).memWrCmd, WritesFree e a c) ∧
        InOrder ((fsmTransition m tcpState rep txSar).rxSarQry.foldl rxSarWrite e) a) ↔
      ((startTaken m tcpState rep →
        m.seqNumb.toNat + m.length.toNat < rep.rcvd.toNat + toeBufferSize) ∧
      (finTaken m tcpState rep → (e.rcvd - a).toNat + m.length.toNat + 1 < toeBufferSize))) := by
  rw [← FsmOut.data_rxSarQry, ← FsmOut.data_memWrCmd]
  obtain ⟨hack, hacc, hlen, hnf, hd⟩ | ⟨hf, hns, hd⟩ | ⟨hns, hnf, hq, hw⟩ :=
    fsmTransition_data_cases hm tcpState rep txSar
  · have hst : startTaken m tcpState rep = true ↔ oooCase m rep = .start := by
      simpa [startTaken, hack, hacc] using fun _ => hlen
    rw [hd, oooOut_safe_iff ho hc hs (oooGuard_oooCase m rep), hst, hnf]
    exact ⟨fun q => mem_rxSarQry_oooOut, by simp⟩
  · have hseq : m.seqNumb = e.rcvd := by
      simp only [finTaken, finAccepted, decide_eq_true_eq] at hf
      exact (hf.2.2.symm).trans hs.rcvd
    rw [hd, finData_safe_iff ho hseq, hns, hf]
    exact ⟨fun q => mem_rxSarQry_finData, by simp⟩
  · rw [FsmOut.data_rxSarQry, FsmOut.data_memWrCmd, hq, hw, hns, hnf]
    simpa using ho

/-- One step: under the invariant it is safe exactly when it is `StepInWindow`. -/
lemma rxSafe_iff {s s' : RxState} {l : RxLabel} (hi : RxInv s) (hstep : rxStep s l = some s') :
    RxSafe s l s' ↔ StepInWindow s l := by
  cases l with
  | load m =>
      obtain ⟨-, rfl⟩ := Option.ite_some_none_eq_some.mp hstep
      refine iff_of_true ⟨fun m' rep _ c hc => ?_, hi.order⟩ trivial
      simp [rxOut] at hc
  | appRead id len =>
      obtain ⟨hlen, rfl⟩ := Option.ite_some_none_eq_some.mp hstep
      refine iff_of_true ⟨fun m' rep _ c hc => ?_, fun id' => ?_⟩ trivial
      · simp [rxOut] at hc
      · by_cases h : id' = id
        · subst h
          simpa using ((hi.order id').advance hlen).1
        · simpa [Function.update_of_ne h] using hi.order id'
  | transition tcpState txSar =>
      obtain ⟨hsome, rfl⟩ := Option.ite_some_none_eq_some.mp hstep
      obtain ⟨⟨m, rep⟩, hheld⟩ := Option.isSome_iff_exists.mp hsome
      obtain ⟨hm, hsees⟩ := hi.held m rep hheld
      obtain ⟨hqry, hiff⟩ := transition_safe_iff (hi.order m.sessionId)
        (hi.collapsed m.sessionId) hsees hm tcpState txSar
      have hout : rxOut s (.transition tcpState txSar) = fsmTransition m tcpState rep txSar := by
        simp [rxOut, hheld]
      have hcond : StepInWindow s (.transition tcpState txSar) ↔ _ :=
        ⟨fun h => h m rep hheld, fun h m' rep' h' => by
          obtain ⟨rfl, rfl⟩ := Prod.mk.injEq .. ▸ Option.some.inj (hheld.symm.trans h')
          exact h⟩
      rw [hcond]
      refine Iff.trans ?_ hiff
      constructor
      · rintro ⟨hw, ho⟩
        have ho' := ho m.sessionId
        simp only [hout, foldl_serveRXe hqry, Function.update_self] at ho'
        exact ⟨hout ▸ hw m rep hheld, ho'⟩
      · rintro ⟨hw, ho⟩
        refine ⟨fun m' rep' h' => ?_, fun id => ?_⟩
        · obtain ⟨rfl, rfl⟩ := Prod.mk.injEq .. ▸ Option.some.inj (hheld.symm.trans h')
          rw [hout]
          exact hw
        · simp only [hout, foldl_serveRXe hqry]
          by_cases h : id = m.sessionId
          · subst h
            simpa using ho
          · simpa [Function.update_of_ne h] using hi.order id

/-- A safe step preserves the invariant. -/
lemma RxInv.step {s s' : RxState} {l : RxLabel} (hi : RxInv s) (hsafe : RxSafe s l s')
    (hstep : rxStep s l = some s') : RxInv s' := by
  cases l with
  | load m =>
      obtain ⟨⟨-, hm⟩, rfl⟩ := Option.ite_some_none_eq_some.mp hstep
      refine ⟨hi.order, hi.collapsed, fun m' rep h => ?_⟩
      simp only [fsmLoad, List.flatMap_cons, List.flatMap_nil, List.append_nil, replyRXe_rd,
        List.head?_cons, Option.map_some, Option.some.injEq, Prod.mk.injEq] at h
      obtain ⟨rfl, rfl⟩ := h
      exact ⟨hm, (hi.order m.sessionId).sees⟩
  | appRead id len =>
      obtain ⟨hlen, rfl⟩ := Option.ite_some_none_eq_some.mp hstep
      refine ⟨hsafe.order, fun id' => ?_, fun m rep h => ?_⟩
      · by_cases h : id' = id
        · subst h
          simpa [Collapsed] using hi.collapsed id'
        · simpa [Function.update_of_ne h] using hi.collapsed id'
      · obtain ⟨hm, hs⟩ := hi.held m rep h
        refine ⟨hm, ?_⟩
        by_cases hid : m.sessionId = id
        · subst hid
          obtain ⟨-, hhead⟩ := (hi.order m.sessionId).advance hlen
          have hspace := hs.space
          simp only [rxAppStream_eq, Function.update_self]
          exact ⟨hs.rcvd, hs.ooo, hs.head, hs.tail, by dsimp only; omega⟩
        · simpa [Function.update_of_ne hid] using hs
  | transition tcpState txSar =>
      obtain ⟨hsome, rfl⟩ := Option.ite_some_none_eq_some.mp hstep
      obtain ⟨⟨m, rep⟩, hheld⟩ := Option.isSome_iff_exists.mp hsome
      obtain ⟨hm, hsees⟩ := hi.held m rep hheld
      obtain ⟨hqry, -⟩ := transition_safe_iff (hi.order m.sessionId)
        (hi.collapsed m.sessionId) hsees hm tcpState txSar
      have hout : rxOut s (.transition tcpState txSar) = fsmTransition m tcpState rep txSar := by
        simp [rxOut, hheld]
      refine ⟨hsafe.order, fun id => ?_, fun m' rep' h => by simp at h⟩
      simp only [hout, foldl_serveRXe hqry]
      by_cases h : id = m.sessionId
      · subst h
        simpa using collapsed_foldl (hi.collapsed m.sessionId)
      · simpa [Function.update_of_ne h] using hi.collapsed id

/-! ### The runs -/

/-- **Safety of the Rx buffer**: from established sessions, along every interleaving of
segments and application reads, every write covers free bytes only and the pointers stay in
order, exactly when every processed segment is looked at far enough. -/
theorem fsm_rxBuffer_safe_iff {s : RxState} (hs : RxEstablished s) (ls : List RxLabel) :
    rxMachine.Holds RxSafe s ls ↔ rxMachine.Holds (fun s l _ => StepInWindow s l) s ls :=
  Machine.holds_iff
    (fun _ _ _ (hi : RxInv _) (hstep : rxStep _ _ = some _) => rxSafe_iff hi hstep)
    (fun _ _ _ hi hC hstep => hi.step ((rxSafe_iff hi hstep).mpr hC) hstep) hs.inv

/-- All sessions start at the sequence number 0. -/
def rxZero : RxState where
  table _ := {}
  appdSeq _ := 0

/-- A segment of the session 0 with the flag ACK. -/
def ackSeg (seqNumb : TcpSeqNum) (length : TcpSegLen) : RXeFsmMeta where
  seqNumb := seqNumb
  ackNumb := 0
  length := length
  ack := true
  sessionId := 0

/-- An expected segment of 100 bytes meets both sides. -/
theorem fsm_rxBuffer_safe_iff_zero :
    rxMachine.Holds RxSafe rxZero [.load (ackSeg 0 100), .transition .established {}] := by
  refine (fsm_rxBuffer_safe_iff (s := rxZero) ⟨rfl, fun _ => ⟨rfl, rfl, rfl, rfl⟩,
    fun _ => rfl⟩ _).mpr ?_
  rintro t ⟨⟩
  refine ⟨trivial, ?_⟩
  rintro t' ⟨⟩
  refine ⟨?_, trivial⟩
  rintro m rep ⟨⟩
  exact ⟨by decide, by decide⟩

/-- With 100 unread bytes, a segment of 60 bytes at `65536 + 60` is accepted as the start of an
out-of-order run and overwrites the unread bytes 60 to 99. -/
theorem fsm_overwrites_unread : RxEstablished rxZero ∧ ¬rxMachine.Holds RxSafe rxZero
    [.load (ackSeg 0 100), .transition .established {},
      .load (ackSeg 65596 60), .transition .established {}] := by
  refine ⟨⟨rfl, fun _ => ⟨rfl, rfl, rfl, rfl⟩, fun _ => rfl⟩, fun h => ?_⟩
  have h4 := ((((h _ rfl).2 _ rfl).2 _ rfl).2 _ rfl).1
  exact h4.writes _ _ rfl (rxMemWrCmd (ackSeg 65596 60)) (by decide) 0 (by decide) (by decide)

end CloudFpga.Toe
