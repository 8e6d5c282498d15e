import CloudFpga.Foundation.Circular
import CloudFpga.Toe.TxAppSystem

/-!
The order of the bytes and of the FIN of a connection, from the requests of the application to the
segments of the Tx engine.

* `CloseSys`, `closeNext`: the system with the bytes accepted and sent, the closes and the FINs.
* `SegmentSafe`, `CloseSafe`: what a segment has to be like; `CloseGuard`: where the system may
  fail to send such a segment.
* `SessInv`, `HeldOk`: how the history of a session is related to its entry, to the pointers on
  their way to it, and to the copy that the loader works with.
* `HeldOk.txSegment`, `HeldOk.rtSegment`, `HeldOk.finFirst`: the segments of an event.
-/

namespace CloudFpga.Toe

open Foundation

/-! ### The history of a session -/

/-- The system with the history of the sessions: `accEnd` is behind the bytes accepted from the
application, `sent` behind those put in segments without a gap; `closed` is `accEnd` at the first
close, and `fin` the number of the FIN that was sent. -/
structure CloseSys where
  app : TxAppSystem
  accEnd : SessionId → TxAckNum
  sent : SessionId → TxAckNum
  closed : SessionId → Option TxAckNum := fun _ => none
  fin : SessionId → Option TcpSeqNum := fun _ => none

namespace CloseSys

/-- An event closes its session, unless it is closed. -/
def close (s : CloseSys) (e : Event) : CloseSys :=
  if e.type = .fin ∧ s.closed e.sessionID = none then
    { s with closed := Function.update s.closed e.sessionID (some (s.accEnd e.sessionID)) }
  else s

/-- The session of the segments of a call of the loader. -/
def session (s : CloseSys) : SessionId := s.app.tx.mdl.sessionID

/-- A segment of the loader. A SYN that is sent for the first time opens the session anew. -/
def send (s : CloseSys) (m : TXeMeta) : CloseSys :=
  let id := s.session
  if m.syn then
    if s.app.tx.mdl.curEvent.event.choosesIsn then
      { s with
        accEnd := Function.update s.accEnd id (m.seqNumb + 1)
        sent := Function.update s.sent id (m.seqNumb + 1)
        closed := Function.update s.closed id none
        fin := Function.update s.fin id none }
    else s
  else
    { s with
      sent :=
        if m.seqNumb = s.sent id then
          Function.update s.sent id (s.sent id + m.length.setWidth 32)
        else s.sent
      fin := if m.fin then Function.update s.fin id (some m.seqNumb) else s.fin }

/-- The bytes of a request that is granted. -/
def accept (s : CloseSys) (req : TcpAppSndReq) : CloseSys :=
  { s with accEnd :=
      Function.update s.accEnd req.sessId (s.accEnd req.sessId + req.length.setWidth 32) }

end CloseSys

/-- What a step means for the history. -/
def closeHistory (s : CloseSys) : TxAppLabel → CloseSys
  | .tx .loader => (pMetaDataLoader s.app.tx.mdl).2.txeMeta.foldl CloseSys.send s
  | .sml sndRepFull => (smlGrants s.app.sml sndRepFull).elim s fun r => s.accept r.1
  | l => (s.app.raised l).foldl CloseSys.close s

def closeNext (s : CloseSys) (l : TxAppLabel) : CloseSys :=
  { closeHistory s l with app := txAppNext s.app l }

/-! ### Safety, and where it may fail -/

/-- The bytes of a segment lie before `stop`. -/
def EndsBefore (seqNumb : TcpSeqNum) (length : TcpSegLen) (stop : TxAckNum) : Prop :=
  length.toNat ≤ (stop - seqNumb).toNat ∧ (stop - seqNumb).toNat < 2 ^ 31

instance (seqNumb : TcpSeqNum) (length : TcpSegLen) (stop : TxAckNum) :
    Decidable (EndsBefore seqNumb length stop) := inferInstanceAs (Decidable (_ ∧ _))

/-- The segment has payload. The length of a SYN is that of its options. -/
def TXeMeta.hasPayload (m : TXeMeta) : Bool := ¬m.syn ∧ m.length ≠ 0

/-- What a segment of a session has to be like: a FIN has the number behind the last byte accepted
before the close, and all bytes up to it are in segments before; no byte is sent that was not
accepted, nor a byte at or beyond the FIN. -/
structure SegmentSafe (s : CloseSys) (id : SessionId) (m : TXeMeta) : Prop where
  fin : m.fin = true → s.closed id = some m.seqNumb ∧ s.sent id = m.seqNumb
  payload : m.hasPayload = true → EndsBefore m.seqNumb m.length (s.accEnd id)
  beyond : m.hasPayload = true → ∀ f ∈ s.fin id, EndsBefore m.seqNumb m.length f

instance (s : CloseSys) (id : SessionId) (m : TXeMeta) : Decidable (SegmentSafe s id m) :=
  decidable_of_iff
    ((m.fin = true → s.closed id = some m.seqNumb ∧ s.sent id = m.seqNumb) ∧
      (m.hasPayload = true → EndsBefore m.seqNumb m.length (s.accEnd id)) ∧
      (m.hasPayload = true → ∀ f ∈ s.fin id, EndsBefore m.seqNumb m.length f))
    ⟨fun h => ⟨h.1, h.2.1, h.2.2⟩, fun h => ⟨h.fin, h.payload, h.beyond⟩⟩

/-- Every segment of a step is safe. -/
def CloseSafe (s : CloseSys) : TxAppLabel → Prop
  | .tx .loader => ∀ m ∈ (pMetaDataLoader s.app.tx.mdl).2.txeMeta, SegmentSafe s s.session m
  | _ => True

/-- The number of the bytes in flight, less the FIN, is that of the retransmission. -/
def RtFits (txSar : TXeTxSarReply) : Prop :=
  (txSar.notAckd - txSar.ackd).toNat = (rtDatLen txSar).toNat + txSar.finSent.toNat

instance (txSar : TXeTxSarReply) : Decidable (RtFits txSar) := inferInstanceAs (Decidable (_ = _))

/-- Nothing of the session is on its way to the Tx engine. -/
def CloseSys.Quiet (s : CloseSys) (id : SessionId) : Prop :=
  s.app.unread id = [] ∧ ∀ e ∈ s.app.events, e.type = .fin → e.sessionID ≠ id

instance (s : CloseSys) (id : SessionId) : Decidable (s.Quiet id) :=
  inferInstanceAs (Decidable (_ ∧ ∀ e ∈ _, _ → _))

/-- A call of the loader that is safe. After the FIN nothing more is sent for a `TX_EVENT`, and a
retransmission is about the bytes in flight; and a session is opened when nothing of an earlier
connection is on its way. -/
def LoaderGuard (s : CloseSys) : Prop :=
  let m := s.app.tx.mdl
  m.fsmState = .processEvent →
    (m.curEvent.event.choosesIsn → s.Quiet s.session) ∧
    ∀ t ∈ mdlLoadSar m,
      (m.curEvent.event.type = .tx → t.txSar.finSent → usableWindow t.txSar = 0) ∧
      (m.curEvent.event.type = .rt → RtFits t.txSar)

instance (s : CloseSys) : Decidable (LoaderGuard s) :=
  inferInstanceAs (Decidable (_ → (_ → _) ∧ ∀ t ∈ _, (_ → _ → _) ∧ (_ → _)))

/-- A request that is safe to grant: the session is not closed, the bytes go behind those accepted
before, and the bytes that are not sent fit the buffer. -/
def GrantGuard (s : CloseSys) (req : TcpAppSndReq) (rep : TxAppTableReply) : Prop :=
  s.closed req.sessId = none ∧ rep.mempt = (s.accEnd req.sessId).setWidth 16 ∧
    (s.accEnd req.sessId - s.sent req.sessId).toNat + req.length.toNat < 2 ^ 16

instance (s : CloseSys) (req : TcpAppSndReq) (rep : TxAppTableReply) :
    Decidable (GrantGuard s req rep) := inferInstanceAs (Decidable (_ ∧ _ ∧ _))

/-- The condition on a step. When the entry is read for a `FIN_EVENT`, all accepted bytes have
been announced to it. -/
def CloseGuard (s : CloseSys) : TxAppLabel → Prop
  | .tx .loader => LoaderGuard s
  | .tx .table =>
      ∀ q ∈ s.app.tx.tst.siTXeTxSarQry.head?, q.write = false →
        s.app.tx.mdl.curEvent.event.type = .fin →
        (s.app.tx.tst.table q.sessionID).appw = (s.accEnd q.sessionID).setWidth 16
  | .sml sndRepFull => ∀ r ∈ smlGrants s.app.sml sndRepFull, GrantGuard s r.1 r.2
  | _ => True

/-! ### The pointers of a session -/

/-- The history of a session. -/
structure SessHist where
  accEnd : TxAckNum
  sent : TxAckNum
  closed : Option TxAckNum
  fin : Option TcpSeqNum

def CloseSys.hist (s : CloseSys) (id : SessionId) : SessHist where
  accEnd := s.accEnd id
  sent := s.sent id
  closed := s.closed id
  fin := s.fin id

namespace SessHist

variable (h : SessHist)

/-- The next number to send: the FIN takes one. -/
def next : TxAckNum := if h.fin.isSome then h.sent + 1 else h.sent

/-- The offset of a number in the buffer of the session. -/
def sentPtr : TxBufPtr := h.sent.setWidth 16

def accPtr : TxBufPtr := h.accEnd.setWidth 16

end SessHist

/-- How the history of a session, the entry that the Tx engine sees and the pointers on their way
to it are related. `closing` tells that a `FIN_EVENT` is on its way. -/
structure SessInv (h : SessHist) (e : TxSarEntry) (ptrs : List TxBufPtr) (closing : Prop) :
    Prop where
  closed : ∀ c ∈ h.closed, c = h.accEnd
  fin : ∀ f ∈ h.fin, h.closed = some f ∧ h.sent = f
  closing : closing → h.closed ≠ none
  finSent : e.finSent = h.fin.isSome
  finReady : e.finReady = true → h.closed ≠ none ∧ e.appw = h.accPtr
  room : (h.accEnd - h.sent).toNat < 2 ^ 16
  chain : ArcSorted h.sentPtr (e.appw :: ptrs ++ [h.accPtr])

/-- The entry that the loader works with for an event. -/
structure HeldOk (h : SessHist) (e : TxSarEntry) (ev : Event) (x : TXeTxSarReply) : Prop where
  notAckd : x.notAckd = h.next
  finSent : x.finSent = h.fin.isSome
  finReady : x.finReady = true → h.closed ≠ none ∧ x.app = h.accPtr
  app : OnArc h.sentPtr x.app e.appw
  first : ev.type = .fin → ev.rtCount = 0 → x.app = h.accPtr
  again : ev.type = .fin → ev.rtCount ≠ 0 → h.fin ≠ none

section Session

variable {h : SessHist} {e e' : TxSarEntry} {ptrs ptrs' : List TxBufPtr} {closing closing' : Prop}
  {ev : Event} {x : TXeTxSarReply}

/-- The distance in the buffer is that of the numbers. -/
lemma toNat_ptr_sub {a b : TxAckNum} (h : (b - a).toNat < 2 ^ 16) :
    (b.setWidth 16 - a.setWidth 16).toNat = (b - a).toNat := by
  rw [← setWidth_sub (by omega), BitVec.toNat_setWidth, Nat.mod_eq_of_lt h]

lemma SessInv.mono (hs : SessInv h e ptrs closing) (he : SameTx e e')
    (hp : List.Sublist ptrs' ptrs) (hc : closing' → closing) : SessInv h e' ptrs' closing' where
  closed := hs.closed
  fin := hs.fin
  closing hc' := hs.closing (hc hc')
  finSent := he.finSent.trans hs.finSent
  finReady hr := by
    rw [he.finReady] at hr
    rw [he.appw]
    exact hs.finReady hr
  room := hs.room
  chain := by
    rw [he.appw]
    exact hs.chain.sublist ((hp.cons_cons _).append_right _)

lemma HeldOk.mono (hx : HeldOk h e ev x) (he : SameTx e e') : HeldOk h e' ev x where
  notAckd := hx.notAckd
  finSent := hx.finSent
  finReady := hx.finReady
  app := by
    rw [he.appw]
    exact hx.app
  first := hx.first
  again := hx.again

/-- A pointer between the application pointer and the end of the accepted bytes. -/
lemma SessInv.onArc_head (hs : SessInv h e ptrs closing) : OnArc h.sentPtr e.appw h.accPtr :=
  (List.pairwise_cons.mp hs.chain).1 _ (by simp)

/-- Words at the same distance. -/
lemma eq_of_onArc {w : ℕ} {a b c : BitVec w} (hbc : OnArc a b c) (hcb : OnArc a c b) : b = c := by
  have hsub : b - a = c - a := BitVec.eq_of_toNat_eq (Nat.le_antisymm hbc hcb)
  rw [← BitVec.sub_add_cancel b a, hsub, BitVec.sub_add_cancel]

/-- A pointer is pushed to the table. -/
lemma SessInv.push {p : TxBufPtr} (hs : SessInv h e (p :: ptrs) closing) :
    SessInv h { e with appw := p } ptrs closing where
  closed := hs.closed
  fin := hs.fin
  closing := hs.closing
  finSent := hs.finSent
  finReady hr := by
    obtain ⟨hclosed, happ⟩ := hs.finReady hr
    refine ⟨hclosed, ?_⟩
    -- the pointer lies between the one before and the end of the accepted bytes
    have hchain := List.pairwise_cons.mp hs.chain
    have hle := hchain.1 p (by simp)
    have hge := (List.pairwise_cons.mp hchain.2).1 h.accPtr (by simp)
    rw [happ] at hle
    exact eq_of_onArc hge hle
  room := hs.room
  chain := (List.pairwise_cons.mp hs.chain).2

lemma HeldOk.push {p : TxBufPtr} (hx : HeldOk h e ev x) (hs : SessInv h e (p :: ptrs) closing) :
    HeldOk h { e with appw := p } ev x where
  notAckd := hx.notAckd
  finSent := hx.finSent
  finReady := hx.finReady
  app := hx.app.trans ((List.pairwise_cons.mp hs.chain).1 p (by simp))
  first := hx.first
  again := hx.again

/-- The session is closed, unless it was. -/
def SessHist.close (h : SessHist) : SessHist :=
  { h with closed := if h.closed = none then some h.accEnd else h.closed }

lemma SessHist.close_closed (h : SessHist) : h.close.closed ≠ none := by
  rw [SessHist.close]
  dsimp only
  split
  · simp
  · next hc => exact hc

lemma SessInv.close (hs : SessInv h e ptrs closing) : SessInv h.close e ptrs closing' where
  closed := by
    rw [SessHist.close]
    dsimp only
    split
    · exact fun c hc => (Option.some.inj hc).symm
    · exact hs.closed
  fin f hf := by
    obtain ⟨hclosed, hsent⟩ := hs.fin f hf
    refine ⟨?_, hsent⟩
    rw [SessHist.close]
    simp [hclosed]
  closing _ := h.close_closed
  finSent := hs.finSent
  finReady hr := ⟨h.close_closed, (hs.finReady hr).2⟩
  room := hs.room
  chain := hs.chain

lemma HeldOk.close (hx : HeldOk h e ev x) : HeldOk h.close e ev x where
  notAckd := hx.notAckd
  finSent := hx.finSent
  finReady hr := ⟨h.close_closed, (hx.finReady hr).2⟩
  app := hx.app
  first := hx.first
  again := hx.again

/-- More bytes are accepted. -/
def SessHist.accept (h : SessHist) (n : TcpDatLen) : SessHist :=
  { h with accEnd := h.accEnd + n.setWidth 32 }

lemma SessInv.accept {n : TcpDatLen} (hs : SessInv h e ptrs closing) (hclosed : h.closed = none)
    (hroom : (h.accEnd - h.sent).toNat + n.toNat < 2 ^ 16) :
    SessInv (h.accept n) e (ptrs ++ [h.accPtr + n]) closing := by
  have hfin : h.fin = none := by
    cases hf : h.fin with
    | none => rfl
    | some f => rw [(hs.fin f hf).1] at hclosed; cases hclosed
  have hn : (n.setWidth 32 : BitVec 32).toNat = n.toNat := by
    rw [BitVec.toNat_setWidth]
    omega
  have hptr : (h.accept n).accPtr = h.accPtr + n := by
    rw [SessHist.accPtr, SessHist.accPtr, SessHist.accept, BitVec.setWidth_add _ _ (by omega),
      BitVec.setWidth_setWidth_of_le _ (by omega), BitVec.setWidth_eq]
  have hdist : (h.accEnd + n.setWidth 32 - h.sent).toNat = (h.accEnd - h.sent).toNat + n.toNat := by
    rw [toNat_add_sub (by omega), hn]
  refine ⟨?_, ?_, hs.closing, hs.finSent, ?_, ?_, ?_⟩
  · intro c hc
    rw [show (h.accept n).closed = h.closed from rfl, hclosed] at hc
    cases hc
  · intro f hf
    rw [show (h.accept n).fin = h.fin from rfl, hfin] at hf
    cases hf
  · exact fun hr => absurd hclosed (hs.finReady hr).1
  · rw [SessHist.accept, hdist]
    exact hroom
  · have hptr' : OnArc h.sentPtr h.accPtr (h.accPtr + n) := by
      have hold : (h.accPtr - h.sentPtr).toNat = (h.accEnd - h.sent).toNat := toNat_ptr_sub hs.room
      rw [OnArc, toNat_add_sub (by omega)]
      omega
    have hchain : ArcSorted h.sentPtr (e.appw :: ptrs ++ [h.accPtr + n]) :=
      (ArcSorted.snoc hs.chain hptr').sublist
        (List.Sublist.append_left (List.sublist_cons_self ..) _)
    have hlast := hchain.snoc (Nat.le_refl _)
    rw [hptr]
    simpa [SessHist.sentPtr, SessHist.accept] using hlast

lemma HeldOk.accept {n : TcpDatLen} (hx : HeldOk h e ev x) (hclosed : h.closed = none)
    (htaken : ev.type = .fin → h.closed ≠ none) : HeldOk (h.accept n) e ev x where
  notAckd := hx.notAckd
  finSent := hx.finSent
  finReady hr := absurd hclosed (hx.finReady hr).1
  app := hx.app
  first hf := absurd hclosed (htaken hf)
  again := hx.again

/-- Bytes are sent, up to the application pointer that was read. -/
def SessHist.advance (h : SessHist) (n : TcpSegLen) : SessHist :=
  { h with sent := h.sent + n.setWidth 32 }

/-- The numbers that are behind `sent` by less than the accepted bytes. -/
lemma toNat_advance {n : TcpSegLen} (hs : SessInv h e ptrs closing)
    (hn : n.toNat ≤ (h.accEnd - h.sent).toNat) :
    (h.accEnd - (h.advance n).sent).toNat = (h.accEnd - h.sent).toNat - n.toNat := by
  have hroom := hs.room
  have hn' : (n.setWidth 32 : BitVec 32).toNat = n.toNat := by
    rw [BitVec.toNat_setWidth]
    omega
  have harc : OnArc h.sent (h.sent + n.setWidth 32) h.accEnd := by
    rw [OnArc, toNat_add_sub (by simp; omega), hn']
    simpa using hn
  have hadd := harc.toNat_sub_add
  rw [toNat_add_sub (by simp; omega), hn'] at hadd
  simp only [BitVec.sub_self, BitVec.toNat_zero, Nat.zero_add] at hadd
  rw [SessHist.advance]
  dsimp only
  omega

lemma SessInv.advance {n : TcpSegLen} {app : TxBufPtr} (hs : SessInv h e ptrs closing)
    (hfin : h.fin = none) (happ : OnArc h.sentPtr app e.appw)
    (hn : n.toNat ≤ (app - h.sentPtr).toNat) :
    SessInv (h.advance n) e ptrs closing ∧ OnArc (h.advance n).sentPtr app e.appw ∧
      n.toNat ≤ (h.accEnd - h.sent).toNat := by
  have hacc : (h.accPtr - h.sentPtr).toNat = (h.accEnd - h.sent).toNat := toNat_ptr_sub hs.room
  have hle : n.toNat ≤ (h.accEnd - h.sent).toNat := by
    have h₁ : (app - h.sentPtr).toNat ≤ (e.appw - h.sentPtr).toNat := happ
    have h₂ : (e.appw - h.sentPtr).toNat ≤ (h.accPtr - h.sentPtr).toNat := hs.onArc_head
    omega
  have hptr : (h.advance n).sentPtr = h.sentPtr + n := by
    rw [SessHist.sentPtr, SessHist.sentPtr, SessHist.advance, BitVec.setWidth_add _ _ (by omega),
      BitVec.setWidth_setWidth_of_le _ (by omega), BitVec.setWidth_eq]
  have hstart : OnArc h.sentPtr (h.sentPtr + n) app := by
    rw [OnArc, toNat_add_sub (by simp; omega)]
    simpa using hn
  have hsorted : ArcSorted h.sentPtr ((h.sentPtr + n) :: app :: e.appw :: ptrs ++ [h.accPtr]) := by
    have hchain := List.pairwise_cons.mp hs.chain
    have happ' : ∀ y ∈ e.appw :: ptrs ++ [h.accPtr], OnArc h.sentPtr app y := by
      intro y hy
      obtain rfl | hy := List.mem_cons.mp hy
      · exact happ
      · exact happ.trans (hchain.1 y hy)
    refine List.pairwise_cons.mpr ⟨fun y hy => ?_, List.pairwise_cons.mpr ⟨happ', hs.chain⟩⟩
    obtain rfl | hy := List.mem_cons.mp hy
    · exact hstart
    · exact hstart.trans (happ' y hy)
  have hrebase := hsorted.rebase
  rw [← hptr] at hrebase
  refine ⟨⟨hs.closed, ?_, hs.closing, hs.finSent, hs.finReady, ?_, ?_⟩, ?_, hle⟩
  · intro f hf
    rw [show (h.advance n).fin = h.fin from rfl, hfin] at hf
    cases hf
  · have hroom := hs.room
    rw [show (h.advance n).accEnd = h.accEnd from rfl, toNat_advance hs hle]
    omega
  · exact (List.pairwise_cons.mp hrebase).2
  · exact (List.pairwise_cons.mp hrebase).1 _ (by simp)

end Session

/-! ### The segments of a session -/

/-- The history of a session after a segment that does not open it. -/
def SessHist.send (h : SessHist) (m : TXeMeta) : SessHist :=
  { h with
    sent := if m.seqNumb = h.sent then h.sent + m.length.setWidth 32 else h.sent
    fin := if m.fin then some m.seqNumb else h.fin }

/-- The segment is safe for its session. -/
structure HistSafe (h : SessHist) (m : TXeMeta) : Prop where
  fin : m.fin = true → h.closed = some m.seqNumb ∧ h.sent = m.seqNumb
  payload : m.hasPayload = true → EndsBefore m.seqNumb m.length h.accEnd
  beyond : m.hasPayload = true → ∀ f ∈ h.fin, EndsBefore m.seqNumb m.length f

section Segment

variable {h : SessHist} {e : TxSarEntry} {ptrs : List TxBufPtr} {closing : Prop} {ev : Event}
  {x : TXeTxSarReply}

/-- A segment without payload and FIN. -/
lemma histSafe_header {m : TXeMeta} (hfin : m.fin = false) (hlen : m.syn = false → m.length = 0) :
    HistSafe h m := by
  have hpay : m.hasPayload = false := by
    simp only [TXeMeta.hasPayload, decide_eq_false_iff_not]
    exact fun hp => hp.2 (hlen (by simpa using hp.1))
  refine ⟨fun hf => ?_, fun hp => ?_, fun hp => ?_⟩
  · rw [hfin] at hf
    cases hf
  · rw [hpay] at hp
    cases hp
  · rw [hpay] at hp
    cases hp

lemma SessHist.send_header (h : SessHist) {m : TXeMeta} (hfin : m.fin = false)
    (hlen : m.length = 0) : h.send m = h := by
  rw [SessHist.send, hfin, hlen]
  simp

/-- A transmission does not send more than is pending. -/
lemma txCase_length_le (x : TXeTxSarReply) :
    (txCase x).length.toNat ≤ (x.app - x.notAckd.setWidth 16).toNat := by
  have hmss : mssPayload.toNat = zyc2Mss - tcpHeaderLen := by decide
  have hzyc : zyc2Mss = 1352 ∧ tcpHeaderLen = 20 := ⟨rfl, rfl⟩
  simp only [txCase]
  split
  · split
    · next hlen =>
        rw [TxCase.length, hmss]
        omega
    · split
      · simp [TxCase.length]
      · exact Nat.le_refl _
  · next hwin =>
      rw [BitVec.le_def] at hwin
      split
      · rw [TxCase.length, hmss]
        omega
      · rw [TxCase.length]
        omega

lemma finReady_of_txCase (h : txCase x = .fin) : x.finReady = true := by
  simp only [txCase] at h
  split at h
  · split at h
    · cases h
    · split at h
      · next hready => exact hready.1
      · cases h
  · split at h <;> cases h

/-- Without a usable window nothing is sent of what is pending. -/
lemma txCase_of_noWindow (hwin : usableWindow x = 0) (hdat : x.app ≠ x.notAckd.setWidth 16) :
    txCase x = .last 0 := by
  have hne : ¬(x.app - x.notAckd.setWidth 16 ≤ (0 : BitVec 16)) := by
    rw [BitVec.le_def]
    intro hle
    refine hdat (sub_eq_zero.mp (BitVec.eq_of_toNat_eq ?_))
    simpa using hle
  simp only [txCase, hwin, if_neg hne]
  decide

lemma SessHist.next_of_none (hfin : h.fin = none) : h.next = h.sent := by
  simp [SessHist.next, hfin]

lemma SessHist.next_of_some {f : TcpSeqNum} (hfin : h.fin = some f) : h.next = h.sent + 1 := by
  simp [SessHist.next, hfin]

/-- Once the FIN is sent, all bytes are. -/
lemma SessInv.sent_eq {f : TcpSeqNum} (hs : SessInv h e ptrs closing) (hfin : h.fin = some f) :
    h.sent = h.accEnd := by
  obtain ⟨hclosed, hsent⟩ := hs.fin f hfin
  rw [hsent, hs.closed f hclosed]

lemma setWidth_add_one_ne (a : TxAckNum) : (a + 1).setWidth 16 ≠ a.setWidth 16 := by
  rw [BitVec.setWidth_add _ _ (by omega)]
  intro heq
  have hone := congrArg (· - a.setWidth 16) heq
  simp at hone

/-- What a transmission may send: after the FIN nothing, before it no more than is pending. -/
lemma HeldOk.tx (hx : HeldOk h e ev x) (hs : SessInv h e ptrs closing)
    (hguard : x.finSent = true → usableWindow x = 0) :
    h.fin = none ∧ (txCase x).length.toNat ≤ (x.app - h.sentPtr).toNat ∨ txCase x = .last 0 := by
  cases hfin : h.fin with
  | none =>
      refine .inl ⟨rfl, ?_⟩
      have hle := txCase_length_le x
      rw [hx.notAckd, SessHist.next_of_none hfin] at hle
      exact hle
  | some f =>
      right
      refine txCase_of_noWindow (hguard (by rw [hx.finSent, hfin]; rfl)) ?_
      have happ : x.app = h.sentPtr := by
        have hle : OnArc h.sentPtr x.app h.accPtr := hx.app.trans hs.onArc_head
        have hacc : h.accPtr = h.sentPtr := by
          rw [SessHist.accPtr, SessHist.sentPtr, hs.sent_eq hfin]
        rw [hacc] at hle
        exact eq_of_onArc hle (onArc_left _ _)
      rw [happ, hx.notAckd, SessHist.next_of_some hfin]
      exact (setWidth_add_one_ne h.sent).symm

/-- A number that is behind `stop` by at least the length of the segment. -/
lemma endsBefore_of_le {seqNumb : TcpSeqNum} {length : TcpSegLen} {stop : TxAckNum} {d : ℕ}
    (hd : (stop - seqNumb).toNat = d) (hlen : length.toNat ≤ d) (hlt : d < 2 ^ 31) :
    EndsBefore seqNumb length stop := by
  rw [EndsBefore, hd]
  exact ⟨hlen, hlt⟩

/-- The segment of a transmission, and the history after it. -/
lemma HeldOk.txSegment (hx : HeldOk h e ev x) (hs : SessInv h e ptrs closing)
    (hguard : x.finSent = true → usableWindow x = 0) {rxSar : RxSarReply} {m : TXeMeta}
    (hm : m = mdlMeta rxSar x.notAckd (txCase x).length) (hlen : m.length ≠ 0) :
    HistSafe h m ∧ h.send m = h.advance (txCase x).length ∧ h.fin = none := by
  obtain ⟨hfin, hle⟩ | hlast := hx.tx hs hguard
  · have hseq : m.seqNumb = h.sent := by
      rw [hm, ← SessHist.next_of_none hfin, ← hx.notAckd]
      rfl
    have hlen' : m.length = (txCase x).length := by rw [hm]; rfl
    have hroom := hs.room
    obtain ⟨-, -, hn⟩ := hs.advance hfin hx.app hle
    refine ⟨⟨fun hf => ?_, fun _ => ?_, fun _ f hf => ?_⟩, ?_, hfin⟩
    · rw [hm] at hf
      cases hf
    · rw [hseq, hlen']
      exact endsBefore_of_le rfl hn (by omega)
    · rw [hfin] at hf
      cases hf
    · rw [SessHist.send, if_pos hseq, hlen', SessHist.advance]
      rw [hm]
      rfl
  · rw [hm, hlast] at hlen
    exact absurd rfl hlen

/-- The segment of a retransmission is about bytes in flight, and leaves the history as it is. -/
lemma HeldOk.rtSegment (hx : HeldOk h e ev x) (hs : SessInv h e ptrs closing)
    (hguard : RtFits x) {rxSar : RxSarReply} {m : TXeMeta}
    (hm : m = mdlMeta rxSar x.ackd (if rtIsFull x then mssPayload else rtDatLen x))
    (hlen : m.length ≠ 0) : HistSafe h m ∧ h.send m = h := by
  have hfull : (if rtIsFull x then mssPayload else rtDatLen x).toNat ≤ (rtDatLen x).toNat := by
    have hmss : mssPayload.toNat = zyc2Mss - tcpHeaderLen := by decide
    have hzyc : zyc2Mss = 1352 ∧ tcpHeaderLen = 20 := ⟨rfl, rfl⟩
    split
    · next hf =>
        simp only [rtIsFull, decide_eq_true_eq] at hf
        omega
    · exact Nat.le_refl _
  -- the distance from the segment to the end of the bytes sent
  have hsent : (h.sent - x.ackd).toNat = (rtDatLen x).toNat := by
    rw [RtFits, hx.notAckd, hx.finSent] at hguard
    cases hfin : h.fin with
    | none =>
        rw [SessHist.next_of_none hfin, hfin] at hguard
        simpa using hguard
    | some f =>
        rw [SessHist.next_of_some hfin, hfin] at hguard
        have hone : (h.sent + 1 - x.ackd).toNat = (rtDatLen x).toNat + 1 := hguard
        have hbound := (rtDatLen x).isLt
        have hsub : h.sent - x.ackd = (h.sent + 1 - x.ackd) - 1 := by ring
        rw [hsub, toNat_sub_eq, hone]
        simp
  have hroom := hs.room
  have hacc : (h.accEnd - x.ackd).toNat = (rtDatLen x).toNat + (h.accEnd - h.sent).toNat := by
    have hbound := (rtDatLen x).isLt
    rw [show h.accEnd - x.ackd = (h.sent - x.ackd) + (h.accEnd - h.sent) by ring,
      BitVec.toNat_add_of_lt (by omega), hsent]
  have hmlen : m.length.toNat ≤ (rtDatLen x).toNat := by
    rw [hm]
    exact hfull
  have hseq : m.seqNumb = x.ackd := by rw [hm]; rfl
  have hbound := (rtDatLen x).isLt
  refine ⟨⟨fun hf => ?_, fun _ => ?_, fun _ f hf => ?_⟩, ?_⟩
  · rw [hm] at hf
    cases hf
  · rw [hseq]
    exact endsBefore_of_le hacc (by omega) (by omega)
  · rw [hseq, ← (hs.fin f hf).2]
    exact endsBefore_of_le hsent hmlen (by omega)
  · have hne : m.seqNumb ≠ h.sent := by
      intro heq
      rw [hseq] at heq
      rw [heq] at hsent
      simp only [BitVec.sub_self, BitVec.toNat_zero] at hsent
      exact hlen (BitVec.eq_of_toNat_eq (by simp; omega))
    have hfin : m.fin = false := by rw [hm]; rfl
    rw [SessHist.send, if_neg hne, hfin]
    rfl

/-- The segment that a `FIN_EVENT` may send. -/
def finMeta (ev : Event) (rxSar : RxSarReply) (x : TXeTxSarReply) : TXeMeta :=
  { mdlMeta rxSar (if ev.rtCount ≠ 0 then x.notAckd - 1 else x.notAckd) 0 with fin := true }

/-- The segment is sent. -/
def finEmits (ev : Event) (x : TXeTxSarReply) : Bool :=
  (if ev.rtCount ≠ 0 then x.notAckd - 1 else x.notAckd).setWidth 16 = x.app

/-- The entry after a `FIN_EVENT`. -/
def finEntry (id : SessionId) (ev : Event) (e : TxSarEntry) (x : TXeTxSarReply) : TxSarEntry :=
  if ev.rtCount ≠ 0 then e else txSarWriteTXe e (finQry id x)

/-- What a `FIN_EVENT` makes of the session. -/
structure FinStep (h : SessHist) (e : TxSarEntry) (ptrs : List TxBufPtr) (closing : Prop) :
    Prop where
  inv : SessInv h e ptrs closing
  unak : e.unak = h.next

lemma histSafe_fin {m : TXeMeta} (hlen : m.length = 0)
    (hfin : h.closed = some m.seqNumb ∧ h.sent = m.seqNumb) : HistSafe h m := by
  have hpay : m.hasPayload = false := by simp [TXeMeta.hasPayload, hlen]
  refine ⟨fun _ => hfin, fun hp => ?_, fun hp => ?_⟩
  · rw [hpay] at hp
    cases hp
  · rw [hpay] at hp
    cases hp

lemma SessHist.send_fin {m : TXeMeta} (hseq : m.seqNumb = h.sent) (hfin : m.fin = true)
    (hlen : m.length = 0) : h.send m = { h with fin := some h.sent } := by
  rw [SessHist.send, if_pos hseq, hlen, if_pos hfin, hseq]
  simp

/-- The accepted bytes are pushed to the entry. -/
lemma HeldOk.appw_eq (hx : HeldOk h e ev x) (hs : SessInv h e ptrs closing)
    (happ : x.app = h.accPtr) : e.appw = h.accPtr := by
  have hle := hx.app
  rw [happ] at hle
  exact eq_of_onArc hs.onArc_head hle

/-- A `FIN_EVENT` after the FIN: the FIN is repeated for a retransmission. -/
lemma HeldOk.finAgain (hx : HeldOk h e ev x) (hs : SessInv h e ptrs closing)
    (htype : ev.type = .fin) (hrt : ev.rtCount ≠ 0) (rxSar : RxSarReply) :
    HistSafe h (finMeta ev rxSar x) ∧ h.send (finMeta ev rxSar x) = h := by
  obtain ⟨f, hfin⟩ := Option.ne_none_iff_exists'.mp (hx.again htype hrt)
  obtain ⟨hclosed, hsent⟩ := hs.fin f hfin
  have hseq : (finMeta ev rxSar x).seqNumb = h.sent := by
    simp only [finMeta, if_pos hrt]
    rw [hx.notAckd, SessHist.next_of_some hfin]
    exact add_sub_cancel_right ..
  refine ⟨histSafe_fin rfl (by rw [hseq, hsent]; exact ⟨hclosed, rfl⟩), ?_⟩
  rw [SessHist.send_fin hseq rfl rfl, show some h.sent = h.fin by rw [hsent, hfin]]

/-- A `FIN_EVENT` marks the entry. -/
lemma SessInv.ready {x : TXeTxSarReply} (hs : SessInv h e ptrs closing) (hclosed : h.closed ≠ none)
    (happw : e.appw = h.accPtr) (hunak : x.notAckd = h.next) (id : SessionId) :
    FinStep h (txSarWriteTXe e (.wr id x.notAckd false true false)) ptrs closing where
  inv := ⟨hs.closed, hs.fin, hs.closing, hs.finSent, fun _ => ⟨hclosed, happw⟩, hs.room, hs.chain⟩
  unak := hunak

/-- The FIN is sent, with all accepted bytes sent before. -/
lemma SessInv.finSends {x : TXeTxSarReply} (hs : SessInv h e ptrs closing)
    (hclosed : h.closed = some h.sent) (happw : e.appw = h.accPtr) (hunak : x.notAckd = h.sent)
    (id : SessionId) :
    FinStep { h with fin := some h.sent }
      (txSarWriteTXe e (.wr id (x.notAckd + 1) false true true)) ptrs closing where
  inv := by
    refine ⟨hs.closed, fun f hf => ?_, hs.closing, rfl, fun _ => ⟨?_, happw⟩, hs.room, hs.chain⟩
    · rw [← Option.some.inj hf]
      exact ⟨hclosed, rfl⟩
    · simp [hclosed]
  unak := by
    rw [hunak]
    rfl

/-- A `FIN_EVENT` for the first time: the FIN is sent if no byte is pending. -/
lemma HeldOk.finFirst (hx : HeldOk h e ev x) (hs : SessInv h e ptrs closing)
    (htype : ev.type = .fin) (hclosed : h.closed ≠ none) (hrt : ev.rtCount = 0) (id : SessionId)
    (rxSar : RxSarReply) :
    if finEmits ev x then
      HistSafe h (finMeta ev rxSar x) ∧
        FinStep (h.send (finMeta ev rxSar x)) (txSarWriteTXe e (finQry id x)) ptrs closing
    else FinStep h (txSarWriteTXe e (finQry id x)) ptrs closing := by
  have happ := hx.first htype hrt
  have happw := hx.appw_eq hs happ
  have hseq : (finMeta ev rxSar x).seqNumb = h.next := by
    simp only [finMeta, hrt, ne_eq, not_true, if_false]
    exact hx.notAckd
  have hemits : finEmits ev x = true ↔ x.app = x.notAckd.setWidth 16 := by
    simp [finEmits, hrt, eq_comm]
  split
  · next hem =>
      have hptr := hemits.mp hem
      rw [finQry, if_pos hptr]
      rw [happ, hx.notAckd] at hptr
      cases hfin : h.fin with
      | none =>
          have hnext := SessHist.next_of_none hfin
          rw [hnext] at hptr
          -- the pointers agree, and fewer bytes than a turn are pending
          have hsent : h.accEnd = h.sent := by
            have hdist := toNat_ptr_sub hs.room
            rw [show h.accEnd.setWidth 16 = h.sent.setWidth 16 from hptr] at hdist
            simp only [BitVec.sub_self, BitVec.toNat_zero] at hdist
            exact sub_eq_zero.mp (BitVec.eq_of_toNat_eq (by simpa using hdist.symm))
          obtain ⟨c, hc⟩ := Option.ne_none_iff_exists'.mp hclosed
          rw [hs.closed c hc, hsent] at hc
          rw [hnext] at hseq
          refine ⟨histSafe_fin rfl (by rw [hseq]; exact ⟨hc, rfl⟩), ?_⟩
          rw [SessHist.send_fin hseq rfl rfl]
          exact hs.finSends hc happw (hx.notAckd.trans hnext) id
      | some f =>
          rw [SessHist.next_of_some hfin, SessHist.accPtr, ← hs.sent_eq hfin] at hptr
          exact absurd hptr.symm (setWidth_add_one_ne _)
  · next hem =>
      rw [finQry, if_neg fun heq => hem (hemits.mpr heq)]
      exact hs.ready hclosed happw hx.notAckd id

end Segment

end CloudFpga.Toe
