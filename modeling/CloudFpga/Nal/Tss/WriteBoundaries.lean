import CloudFpga.Nal.Tss.WriteBuffer
import CloudFpga.Nal.Tss.WritePieces

/-!
The boundaries of the packets on TCP transmission: `pTcpWRp`, then `pTcpWBu` (`tss.cpp`). Lengths,
sessions and chunks are in three FIFOs between them.

* `tcpPathNext`: one step of the two processes, or of what surrounds them.
* `TxAligned`: what `pTcpWBu` sends for a session are the bytes of the packets of this session.
* `TcpStepOk`: no packet without an announced length is longer than one segment, and a reply without
  space leaves enough of the packet.
* `txAligned_of_ok`: this condition keeps the three FIFOs aligned.
-/

namespace CloudFpga.Nal

open Foundation

/-- The two processes, with the FIFOs between them at `pTcpWBu`. -/
structure TcpTxPath where
  wrp : TcpWrp := {}
  wbu : Wbu := {}

/-- A session or a chunk of the FMC, meta-data or a chunk of the ROLE, a reply to a question of
`pTcpWRp`, an invalidation of its cache, a reply of the TOE, or a call of one of the processes. -/
inductive TcpTxStep where
  | fmcSessId (id : SessionId)
  | fmcData (c : NetworkWord)
  | roleMeta (m : NetworkMeta)
  | roleData (c : NetworkWord)
  | mrtReply (ip : Ip4Addr)
  | sidReply (id : SessionId)
  | conReply (rep : NalNewTcpConRep)
  | cacheInval (sig : Bool)
  | sndRep (rep : TcpAppSndRep)
  | wrp (k : WrpCall)
  | wbu (k : WbuCall)
  deriving DecidableEq

/-- The buffer, with what a call of `pTcpWRp` has written. -/
def Wbu.receive (w : Wbu) (out : WrpOut) : Wbu :=
  { w with
    siWrpData := w.siWrpData ++ out.soTOEData
    siWrpSessId := w.siWrpSessId ++ out.soTOESessId
    siWrpLen := w.siWrpLen ++ out.soTOELen }

def tcpPathNext (s : TcpTxPath) : TcpTxStep → TcpTxPath
  | .fmcSessId id => { s with wrp := { s.wrp with siFMCSessId := s.wrp.siFMCSessId ++ [id] } }
  | .fmcData c => { s with wrp := { s.wrp with siFMCData := s.wrp.siFMCData ++ [c] } }
  | .roleMeta m => { s with wrp := { s.wrp with siTcpMeta := s.wrp.siTcpMeta ++ [m] } }
  | .roleData c => { s with wrp := { s.wrp with siTcpData := s.wrp.siTcpData ++ [c] } }
  | .mrtReply ip => { s with wrp := { s.wrp with sGetIpRep := s.wrp.sGetIpRep ++ [ip] } }
  | .sidReply id => { s with wrp := { s.wrp with sGetSidRep := s.wrp.sGetSidRep ++ [id] } }
  | .conReply rep => { s with wrp := { s.wrp with sNewTcpConRep := s.wrp.sNewTcpConRep ++ [rep] } }
  | .cacheInval sig =>
      { s with wrp := { s.wrp with cacheInvalSig := s.wrp.cacheInvalSig ++ [sig] } }
  | .sndRep rep => { s with wbu := { s.wbu with siTOESndRep := s.wbu.siTOESndRep ++ [rep] } }
  | .wrp k => { wrp := (pTcpWRp s.wrp k).1, wbu := s.wbu.receive (pTcpWRp s.wrp k).2 }
  | .wbu k => { s with wbu := pTcpWBu s.wbu k }

/-! ### The property and the condition -/

/-- A packet of `pTcpWBu`, as the pieces of `pTcpWRp` are written. -/
def WbuPacket.piece (p : WbuPacket) : WrpPiece := ⟨(p.sessId, p.len), p.body⟩

def Wbu.taken (w : Wbu) : List WrpPiece := w.packets.map WbuPacket.piece

/-- Both processes and the FIFOs between them are aligned. -/
structure TxAligned (s : TcpTxPath) : Prop where
  /-- Each packet ends where the FMC or the ROLE has ended it, also if it is dropped. -/
  delimited : ∀ p ∈ s.wrp.packets,
    Delimited p ∨ s.wrp.mode.within = true ∧ p ∈ s.wrp.packets.getLast?
  /-- The pieces are the packets that have a session, in order. -/
  pieces : s.wrp.view.cut = accepted s.wrp.packets
  /-- `pTcpWBu` takes these pieces with their sessions and lengths. -/
  taken : Frame.Follows s.wbu.taken s.wrp.pieces
  /-- What it has not taken is in the FIFOs. -/
  fifo : ∃ hs xs, Frame.Carries s.wrp.pieces s.wbu.taken hs xs ∧
    s.wbu.siWrpSessId = hs.map Prod.fst ++ s.wrp.mode.session ∧
    s.wbu.siWrpLen = hs.map Prod.snd ∧ s.wbu.siWrpData = xs ++ s.wrp.rest
  /-- It requests room for the session of the piece, and sends bytes of it. -/
  requests : s.wbu.soTOESndReq = (Frame.heads s.wbu.streams).map Prod.fst ++
    if s.wbu.wbuState = .waitRep then [s.wbu.request] else []
  data : s.wbu.soTOEData = Frame.items s.wbu.streams
  sessions : ∀ p ∈ s.wbu.packets, ∀ f ∈ p.streams, f.head.1.sessId = p.sessId
  sent : ∀ p ∈ s.wbu.packets,
    (Frame.items p.streams).map AxisRaw.lanes <+: p.body.map AxisRaw.lanes

/-- A reply without space leaves more of the requested length than is streamed before the next
request, the margin of seven and the rest of a chunk included. -/
def NoSpaceOk (w : Wbu) (rep : TcpAppSndRep) : Prop :=
  rep.error = .noSpace → 7 ≤ rep.spaceLeft.toNat ∧
    rep.spaceLeft.toNat < w.currentRequestedLength.toNat ∧ 8 < w.currentRequestedLength.toNat

/-- The condition on a call of `pTcpWBu` in each state. -/
def WbuTxCallOk (w : Wbu) (k : WbuCall) : WbuFsmStates → Prop
  | .waitMeta | .drop => True
  | .sndReq | .stream => k.up = true
  | .waitRep => k.up = true ∧ ∀ rep ∈ w.siTOESndRep.head?, NoSpaceOk w rep
  | .drain => k.up = true ∨ w.siWrpData = [] ∧ w.siWrpSessId = [] ∧ w.siWrpLen = []

/-- The condition on a step. -/
def TcpStepOk (s : TcpTxPath) : TcpTxStep → Prop
  | .wrp k => WrpCallOk s.wrp k s.wrp.wrpFsmState
  | .wbu k => WbuTxCallOk s.wbu k s.wbu.wbuState
  | _ => True

/-! ### The FIFOs -/

/-- The three FIFOs hold the pieces that were not taken, and what follows them. -/
def FifoOk (v : WrpView) (w : Wbu) : Prop :=
  ∃ hs xs, Frame.Carries v.pieces w.taken hs xs ∧
    w.siWrpSessId = hs.map Prod.fst ++ v.mode.session ∧ w.siWrpLen = hs.map Prod.snd ∧
    w.siWrpData = xs ++ v.rest

section Fifo

variable {v v' : WrpView} {w : Wbu} {out : WrpOut}

/-- What `pTcpWRp` writes keeps the FIFOs aligned. -/
lemma FifoOk.move (hv : ViewInv v) (h : FifoOk v w) (hmove : WrpMove v v' out) :
    FifoOk v' (w.receive out) := by
  obtain ⟨hs, xs, hcarries, hids, hlens, hdata⟩ := h
  cases hmove with
  | stay => exact ⟨hs, xs, hcarries, by simp [Wbu.receive, hids], by simp [Wbu.receive, hlens],
      by simp [Wbu.receive, hdata]⟩
  | ask hmode l =>
      rw [hmode] at hids
      exact ⟨hs, xs, hcarries, by simpa [Wbu.receive, WrpMode.session] using hids,
        by simp [Wbu.receive, hlens], by simp [Wbu.receive, hdata]⟩
  | refuse hmode =>
      rw [hmode] at hids
      exact ⟨hs, xs, hcarries, by simpa [Wbu.receive, WrpMode.session] using hids,
        by simp [Wbu.receive, hlens], by simp [Wbu.receive, hdata]⟩
  | refuseFirst hmode l =>
      rw [hmode] at hids
      exact ⟨hs, xs, hcarries, by simpa [Wbu.receive, WrpMode.session] using hids,
        by simp [Wbu.receive, hlens], by simp [Wbu.receive, hdata]⟩
  | stream hmode id hl =>
      have hids : w.siWrpSessId = hs.map Prod.fst := by
        rcases hmode with hmode | hmode
        · simpa [hmode, WrpMode.session] using hids
        · simpa [hmode, WrpMode.session] using hids
      exact ⟨hs, xs, hcarries, by simp [Wbu.receive, hids, WrpMode.session],
        by simp [Wbu.receive, hlens], by simp [Wbu.receive, hdata]⟩
  | announce hmode hlen id =>
      have hrest : v.rest = [] := hv.rest_eq_nil (by rw [hmode]; rfl)
      rw [hmode] at hids
      exact ⟨hs ++ [(id, v.length)], xs, hcarries.start_sender _,
        by simp [Wbu.receive, hids, WrpMode.session], by simp [Wbu.receive, hlens],
        by simp [Wbu.receive, hdata]⟩
  | streamed hmode hlast hshort =>
      exact ⟨hs, xs, hcarries, by simp [Wbu.receive, hids], by simp [Wbu.receive, hlens],
        by simp [Wbu.receive, hdata]⟩
  | streamedLast hmode hlast =>
      rw [hmode] at hids
      exact ⟨hs ++ [_], xs ++ (v.rest ++ [_]), hcarries.append_sender _,
        by simp [Wbu.receive, hids, WrpMode.session], by simp [Wbu.receive, hlens],
        by simp [Wbu.receive, hdata]⟩
  | counted hmode hsum hb =>
      have hrest : v.rest = [] := hv.rest_eq_nil (by rw [hmode]; rfl)
      have hphase := hv.phase
      rw [ViewPhase, hmode] at hphase
      obtain ⟨-, -, -, t, ht, -⟩ := hphase
      rw [hmode] at hids
      refine ⟨hs, xs ++ [_], hcarries.push_sender ht.ne_nil _, ?_, by simp [Wbu.receive, hlens],
        by simp [Wbu.receive, hdata, hrest]⟩
      simp only [Wbu.receive, hids]
      split
      · simp [WrpMode.session]
      · simp [WrpMode.session]
  | dropped hmode hb =>
      rw [hmode] at hids
      refine ⟨hs, xs, hcarries, ?_, by simp [Wbu.receive, hlens], by simp [Wbu.receive, hdata]⟩
      simp only [Wbu.receive, hids]
      split
      · simp [WrpMode.session]
      · simp [WrpMode.session]

/-- The next chunk belongs to the piece that `pTcpWBu` is taking, and it ends this piece with
`tlast` exactly where its length is reached. -/
lemma FifoOk.next (h : FifoOk v w) (hv : ViewInv v) {t : WrpPiece} (ht : PieceCurrent w.taken t)
    {c : AxisRaw} {data : List AxisRaw} (hdata : w.siWrpData = c :: data) :
    cntSum t.body + (extractByteCnt c).toNat < 2 ^ 16 ∧
      (c.tlast = true ↔ t.head.2.toNat ≤ cntSum t.body + (extractByteCnt c).toNat) ∧
      ∃ hs xs, Frame.Carries v.pieces (Frame.push w.taken c) hs xs ∧
        w.siWrpSessId = hs.map Prod.fst ++ v.mode.session ∧ w.siWrpLen = hs.map Prod.snd ∧
        data = xs ++ v.rest := by
  obtain ⟨hs, xs, hcarries, hids, hlens, hxs⟩ := h
  rw [hdata] at hxs
  cases xs with
  | nil =>
      -- all pieces were taken, although one of them is not yet complete
      rcases hv.ended_or_rest with hend | hrest
      · exact absurd rfl (hcarries.items_ne_nil hend ht)
      · rw [hrest] at hxs
        cases hxs
  | cons x xs =>
      rw [List.cons_append, List.cons.injEq] at hxs
      obtain ⟨rfl, hxs⟩ := hxs
      obtain ⟨g, hg, hhead, hbody⟩ := hcarries.next hv.framed ht
      have hok := hv.pieceOk g hg t.body c hbody
      rw [cntSum_append, cntSum_singleton, hhead] at hok
      exact ⟨hok.1, hok.2, hs, xs, hcarries.push_receiver ht.ne_nil, hids, hlens, hxs⟩

end Fifo

/-! ### The invariant of `pTcpWBu` -/

/-- What is streamed of the present packet is all that was read of it. -/
def WbuPacket.Streamed (p : WbuPacket) : Prop :=
  (Frame.items p.streams).map AxisRaw.lanes = p.body.map AxisRaw.lanes

/-- What is streamed of the packet is the beginning of it. -/
def WbuPacket.StreamedFirst (p : WbuPacket) : Prop :=
  (Frame.items p.streams).map AxisRaw.lanes <+: p.body.map AxisRaw.lanes

/-- The counters while a stream goes on, before which `n` bytes of the packet were streamed. The
stream ends with the packet, or the end of the packet is out of its reach. -/
def StreamCount (w : Wbu) (n : ℕ) : Prop :=
  n + w.currentRequestedLength.toNat = w.packet.len.toNat ∧
    n + w.dequeueCnt.toNat = cntSum w.packet.body ∧
    if w.needToRequestAgain then
      w.currentApprovedLength.toNat + 7 < w.currentRequestedLength.toNat ∧
        8 < w.currentRequestedLength.toNat ∧
        (w.dequeueCnt.toNat < w.currentApprovedLength.toNat ∨ w.dequeueCnt.toNat = 0)
    else w.currentApprovedLength = w.currentRequestedLength

def WbuTxPhase (w : Wbu) : Prop :=
  match w.wbuState with
  | .waitMeta | .drain => PiecesEnded w.taken
  | .sndReq | .waitRep => PieceCurrent w.taken w.packet.piece ∧ w.packet.Streamed ∧
      w.currentRequestedLength.toNat + cntSum w.packet.body = w.packet.len.toNat
  | .stream => PieceCurrent w.taken w.packet.piece ∧ w.packet.Streamed ∧ ∃ n, StreamCount w n
  | .drop => PieceCurrent w.taken w.packet.piece ∧ w.packet.StreamedFirst ∧
      w.dequeueCnt.toNat + cntSum w.packet.body = w.packet.len.toNat

structure WbuTxInv (w : Wbu) : Prop where
  books : WbuBooks w
  sent : ∀ p ∈ w.past, p.StreamedFirst
  phase : WbuTxPhase w

section Buffer

variable {v : WrpView} {w : Wbu}

lemma WbuPacket.Streamed.first {p : WbuPacket} (h : p.Streamed) : p.StreamedFirst := by
  rw [WbuPacket.StreamedFirst, h]

lemma streamedFirst_append {ps : List WbuPacket} (hps : ∀ p ∈ ps, p.StreamedFirst)
    {q : WbuPacket} (hq : q.StreamedFirst) : ∀ p ∈ ps ++ [q], p.StreamedFirst := by
  intro p hp
  rcases List.mem_append.mp hp with hp | hp
  · exact hps p hp
  · rw [List.mem_singleton.mp hp]
    exact hq

lemma Wbu.taken_of_busy (h : w.wbuState.busy = true) :
    w.taken = w.past.map WbuPacket.piece ++ [w.packet.piece] := by
  rw [Wbu.taken, Wbu.packets_of_busy h, List.map_append]
  rfl

lemma Wbu.taken_of_idle (h : w.wbuState.busy = false) :
    w.taken = w.past.map WbuPacket.piece := by
  rw [Wbu.taken, Wbu.packets_of_idle h]

/-- The packets after a chunk of the present one. -/
lemma Wbu.taken_push (h : w.wbuState.busy = true) {t : Wbu} {c : AxisRaw}
    {streams : List WbuStream} (ht : t.packets = w.past ++ [{ w.packet with
      body := w.packet.body ++ [c], streams := streams }]) : t.taken = Frame.push w.taken c := by
  rw [Wbu.taken_of_busy h, Frame.push_append, Wbu.taken, ht, List.map_append]
  rfl

/-- `WBU_WAIT_META`: the next session and the next length belong to the same piece. -/
lemma WbuTxInv.waitMeta (h : WbuTxInv w) (hf : FifoOk v w) (hst : w.wbuState = .waitMeta) :
    WbuTxInv (wbuWaitMeta w) ∧ FifoOk v (wbuWaitMeta w) := by
  have hbooks := h.books.waitMeta hst
  have hphase := h.phase
  have hidle : w.wbuState.busy = false := by rw [hst]; rfl
  rw [WbuTxPhase, hst] at hphase
  obtain ⟨hs, xs, hcarries, hids, hlens, hdata⟩ := hf
  rw [wbuWaitMeta] at hbooks ⊢
  split
  · rename_i id ids len lens hid hlen
    simp only [hid, hlen] at hbooks
    cases hs with
    | nil =>
        rw [hlen] at hlens
        cases hlens
    | cons a hs =>
        rw [hid, List.map_cons, List.cons_append, List.cons.injEq] at hids
        rw [hlen, List.map_cons, List.cons.injEq] at hlens
        obtain ⟨rfl, hids⟩ := hids
        obtain ⟨rfl, hlens⟩ := hlens
        have hstep {t : Wbu} (hbooks : WbuBooks t) (hst' : t.wbuState = .sndReq)
            (hpast : t.past = w.past) (hpacket : t.packet = { sessId := a.1, len := a.2 })
            (hreq : t.currentRequestedLength = a.2) (hids' : t.siWrpSessId = ids)
            (hlens' : t.siWrpLen = lens) (hdata' : t.siWrpData = w.siWrpData) :
            WbuTxInv t ∧ FifoOk v t := by
          have htaken : t.taken = Frame.start w.taken a := by
            rw [Wbu.taken_of_busy (by rw [hst']; rfl), Wbu.taken_of_idle hidle, hpast, hpacket]
            rfl
          refine ⟨⟨hbooks, hpast ▸ h.sent, ?_⟩, hs, xs, ?_, hids' ▸ hids, hlens' ▸ hlens,
            hdata' ▸ hdata⟩
          · rw [WbuTxPhase, hst', htaken, hpacket, hreq]
            exact ⟨hphase.start, rfl, Nat.add_zero _⟩
          · rw [htaken]
            exact hcarries.start_receiver
        exact hstep hbooks rfl rfl rfl rfl rfl rfl rfl
  · exact ⟨h, hs, xs, hcarries, hids, hlens, hdata⟩

/-- A step that takes nothing from the FIFOs, within a packet. -/
lemma WbuTxInv.keep (h : WbuTxInv w) (hf : FifoOk v w) {t : Wbu} (hbooks : WbuBooks t)
    (hbusy : w.wbuState.busy = true) (hbusy' : t.wbuState.busy = true) (hpast : t.past = w.past)
    (hpiece : t.packet.piece = w.packet.piece) (hids : t.siWrpSessId = w.siWrpSessId)
    (hlens : t.siWrpLen = w.siWrpLen) (hdata : t.siWrpData = w.siWrpData)
    (hphase : t.taken = w.taken → WbuTxPhase t) : WbuTxInv t ∧ FifoOk v t := by
  have htaken : t.taken = w.taken := by
    rw [Wbu.taken_of_busy hbusy', Wbu.taken_of_busy hbusy, hpast, hpiece]
  refine ⟨⟨hbooks, hpast ▸ h.sent, hphase htaken⟩, ?_⟩
  rw [FifoOk, htaken, hids, hlens, hdata]
  exact hf

lemma WbuTxInv.sndReq (h : WbuTxInv w) (hf : FifoOk v w) (hst : w.wbuState = .sndReq)
    (k : WbuCall) : WbuTxInv (wbuSndReq w k) ∧ FifoOk v (wbuSndReq w k) := by
  have hbooks := h.books.sndReq hst k
  have hphase := h.phase
  rw [WbuTxPhase, hst] at hphase
  rw [wbuSndReq] at hbooks ⊢
  split
  · rw [if_pos ‹_›] at hbooks
    exact h.keep hf hbooks (by rw [hst]; rfl) rfl rfl rfl rfl rfl rfl fun htaken => by
      rw [WbuTxPhase, htaken]
      exact hphase
  · exact ⟨h, hf⟩

/-- A reply. -/
lemma WbuTxInv.reply (h : WbuTxInv w) (hf : FifoOk v w) (hst : w.wbuState = .waitRep)
    {rep : TcpAppSndRep} (reps : List TcpAppSndRep) (hrep : NoSpaceOk w rep) :
    WbuTxInv (wbuReply w rep reps) ∧ FifoOk v (wbuReply w rep reps) := by
  have hbooks := h.books.reply hst rep reps
  have hphase := h.phase
  have hbusy : w.wbuState.busy = true := by rw [hst]; rfl
  rw [WbuTxPhase, hst] at hphase
  obtain ⟨hcurrent, hstreamed, hlen⟩ := hphase
  have hstreamed' : WbuPacket.Streamed { w.packet with
      streams := Frame.start w.packet.streams (w.request, rep) } := by
    rw [WbuPacket.Streamed, Frame.items_start]
    exact hstreamed
  rw [wbuReply] at hbooks ⊢
  cases herr : rep.error with
  | noError =>
      rw [herr] at hbooks
      refine h.keep hf hbooks hbusy rfl rfl rfl rfl rfl rfl fun htaken => ?_
      rw [WbuTxPhase, htaken]
      refine ⟨hcurrent, hstreamed', cntSum w.packet.body, ?_, rfl, rfl⟩
      rw [Nat.add_comm]
      exact hlen
  | noSpace =>
      obtain ⟨hseven, hless, height⟩ := hrep herr
      have happroved : (rep.spaceLeft - 7).toNat + 7 = rep.spaceLeft.toNat := by
        have hnat : (7 : TcpDatLen).toNat = 7 := rfl
        rw [BitVec.toNat_sub_of_le (by rw [BitVec.le_def, hnat]; exact hseven), hnat]
        omega
      rw [herr] at hbooks
      refine h.keep hf hbooks hbusy rfl rfl rfl rfl rfl rfl fun htaken => ?_
      rw [WbuTxPhase, htaken]
      refine ⟨hcurrent, hstreamed', cntSum w.packet.body, ?_, rfl, ?_, height, .inr rfl⟩
      · rw [Nat.add_comm]
        exact hlen
      · dsimp only
        omega
  | noConnection =>
      rw [herr] at hbooks
      refine h.keep hf hbooks hbusy rfl rfl rfl rfl rfl rfl fun htaken => ?_
      rw [WbuTxPhase, htaken]
      exact ⟨hcurrent, hstreamed'.first, hlen⟩

/-- A chunk is streamed. -/
lemma WbuTxInv.stream (h : WbuTxInv w) (hf : FifoOk v w) (hv : ViewInv v)
    (hst : w.wbuState = .stream) {c : AxisRaw} {data : List AxisRaw}
    (hdata : w.siWrpData = c :: data) :
    WbuTxInv (wbuStream w c data) ∧ FifoOk v (wbuStream w c data) := by
  have hbooks := h.books.stream hst c data
  have hphase := h.phase
  have hbusy : w.wbuState.busy = true := by rw [hst]; rfl
  rw [WbuTxPhase, hst] at hphase
  obtain ⟨hcurrent, hstreamed, n, hlen, hcnt, hmode⟩ := hphase
  obtain ⟨hsum, hlast, hs, xs, hcarries, hids, hlens, hrest⟩ := hf.next hv hcurrent hdata
  have hpacketLen : w.packet.piece.head.2 = w.packet.len := rfl
  have hpieceBody : w.packet.piece.body = w.packet.body := rfl
  rw [hpieceBody] at hsum hlast
  rw [hpacketLen] at hlast
  have hcount : (w.dequeueCnt + extractByteCnt c).toNat =
      w.dequeueCnt.toNat + (extractByteCnt c).toNat := toNat_add_extract (by omega)
  have hle := extractByteCnt_le c
  have hcloses : w.currentApprovedLength ≤ w.dequeueCnt + extractByteCnt c ↔
      w.currentApprovedLength.toNat ≤ w.dequeueCnt.toNat + (extractByteCnt c).toNat := by
    rw [BitVec.le_def, hcount]
  -- what holds whether or not the stream ends
  have hstreamed' (b : Bool) : WbuPacket.Streamed { w.packet with
      body := w.packet.body ++ [c]
      streams := Frame.push w.packet.streams { c with tlast := b } } := by
    rw [WbuPacket.Streamed, Frame.items_push (h.books.begun hst), List.map_append, List.map_append,
      hstreamed]
    rfl
  have hstep {t : Wbu} {b : Bool} (hbooks : WbuBooks t)
      (hpackets : t.packets = w.past ++ [{ w.packet with
        body := w.packet.body ++ [c]
        streams := Frame.push w.packet.streams { c with tlast := b } }])
      (hpast : ∀ p ∈ t.past, p.StreamedFirst) (hids' : t.siWrpSessId = w.siWrpSessId)
      (hlens' : t.siWrpLen = w.siWrpLen) (hdata' : t.siWrpData = data)
      (hphase : t.taken = Frame.push w.taken c → WbuTxPhase t) : WbuTxInv t ∧ FifoOk v t := by
    have htaken : t.taken = Frame.push w.taken c := Wbu.taken_push hbusy hpackets
    refine ⟨⟨hbooks, hpast, hphase htaken⟩, hs, xs, ?_, hids' ▸ hids, hlens' ▸ hlens,
      hdata' ▸ hrest⟩
    rw [htaken]
    exact hcarries
  rw [wbuStream] at hbooks ⊢
  dsimp only at hbooks ⊢
  split
  · have hreach := hcloses.mp (of_decide_eq_true ‹_›)
    rw [if_pos ‹_›] at hbooks
    split
    · -- a further request for the rest of the packet, which does not end with this chunk
      rw [if_pos ‹_›] at hbooks hmode
      obtain ⟨happroved, height, hbelow⟩ := hmode
      have hnot : c.tlast = false := by
        rw [Bool.eq_false_iff]
        intro hc
        have hend := hlast.mp hc
        omega
      have hrestLen : (w.currentRequestedLength - (w.dequeueCnt + extractByteCnt c)).toNat =
          w.currentRequestedLength.toNat - (w.dequeueCnt.toNat + (extractByteCnt c).toNat) := by
        rw [BitVec.toNat_sub_of_le (by rw [BitVec.le_def, hcount]; omega), hcount]
      refine hstep hbooks (Wbu.packets_of_busy rfl) h.sent rfl rfl rfl fun htaken => ?_
      rw [WbuTxPhase, htaken]
      refine ⟨hcurrent.push hnot, hstreamed' _, ?_⟩
      rw [cntSum_append, cntSum_singleton]
      dsimp only
      omega
    · -- the last chunk of the packet
      rw [if_neg ‹_›] at hbooks hmode
      have hend : c.tlast = true := by
        rw [hmode] at hreach
        exact hlast.mpr (by omega)
      refine hstep hbooks (Wbu.packets_of_idle rfl)
        (streamedFirst_append h.sent (hstreamed' _).first) rfl rfl rfl fun htaken => ?_
      rw [WbuTxPhase, htaken]
      exact hcurrent.push_last hend
  · have hbelow : ¬w.currentApprovedLength.toNat ≤
        w.dequeueCnt.toNat + (extractByteCnt c).toNat := by
      rw [← hcloses]
      exact fun hreach => ‹¬_› (decide_eq_true hreach)
    rw [if_neg ‹_›] at hbooks
    refine hstep hbooks (Wbu.packets_of_busy hbusy) h.sent rfl rfl rfl fun htaken => ?_
    have hnot : c.tlast = false := by
      rw [Bool.eq_false_iff]
      intro hc
      have hend := hlast.mp hc
      split at hmode
      · omega
      · rw [hmode] at hbelow
        omega
    rw [WbuTxPhase, htaken]
    dsimp only
    rw [hst]
    refine ⟨hcurrent.push hnot, hstreamed' _, n, hlen, ?_, ?_⟩
    · rw [cntSum_append, cntSum_singleton]
      dsimp only
      omega
    · dsimp only
      split
      · rw [if_pos ‹_›] at hmode
        exact ⟨hmode.1, hmode.2.1, .inl (by omega)⟩
      · rw [if_neg ‹_›] at hmode
        exact hmode

/-- A chunk of an abandoned packet is discarded. -/
lemma WbuTxInv.drop (h : WbuTxInv w) (hf : FifoOk v w) (hv : ViewInv v)
    (hst : w.wbuState = .drop) {c : AxisRaw} {data : List AxisRaw}
    (hdata : w.siWrpData = c :: data) :
    WbuTxInv (wbuDrop w c data) ∧ FifoOk v (wbuDrop w c data) := by
  have hbooks := h.books.drop hst c data
  have hphase := h.phase
  have hbusy : w.wbuState.busy = true := by rw [hst]; rfl
  rw [WbuTxPhase, hst] at hphase
  obtain ⟨hcurrent, hstreamed, hlen⟩ := hphase
  obtain ⟨hsum, hlast, hs, xs, hcarries, hids, hlens, hrest⟩ := hf.next hv hcurrent hdata
  have hpacketLen : w.packet.piece.head.2 = w.packet.len := rfl
  have hpieceBody : w.packet.piece.body = w.packet.body := rfl
  rw [hpieceBody] at hsum hlast
  rw [hpacketLen] at hlast
  have hstreamed' : WbuPacket.StreamedFirst { w.packet with body := w.packet.body ++ [c] } := by
    rw [WbuPacket.StreamedFirst, List.map_append]
    exact hstreamed.trans (List.prefix_append _ _)
  have hstep {t : Wbu} (hbooks : WbuBooks t)
      (hpackets : t.packets = w.past ++ [{ w.packet with body := w.packet.body ++ [c] }])
      (hpast : ∀ p ∈ t.past, p.StreamedFirst) (hids' : t.siWrpSessId = w.siWrpSessId)
      (hlens' : t.siWrpLen = w.siWrpLen) (hdata' : t.siWrpData = data)
      (hphase : t.taken = Frame.push w.taken c → WbuTxPhase t) : WbuTxInv t ∧ FifoOk v t := by
    have htaken : t.taken = Frame.push w.taken c := Wbu.taken_push hbusy hpackets
    refine ⟨⟨hbooks, hpast, hphase htaken⟩, hs, xs, ?_, hids' ▸ hids, hlens' ▸ hlens,
      hdata' ▸ hrest⟩
    rw [htaken]
    exact hcarries
  rw [wbuDrop] at hbooks ⊢
  dsimp only at hbooks ⊢
  split
  · rw [if_pos ‹_›] at hbooks
    refine hstep hbooks (Wbu.packets_of_idle rfl) (streamedFirst_append h.sent hstreamed') rfl rfl
      rfl fun htaken => ?_
    rw [WbuTxPhase, htaken]
    exact hcurrent.push_last ‹_›
  · -- before the last chunk the counter does not come down to zero
    have hnot : c.tlast = false := Bool.eq_false_iff.mpr ‹_›
    have hbelow : ¬w.packet.len.toNat ≤ cntSum w.packet.body + (extractByteCnt c).toNat := by
      rw [← hlast, hnot]
      rintro ⟨⟩
    have hcount : (w.dequeueCnt - extractByteCnt c).toNat =
        w.dequeueCnt.toNat - (extractByteCnt c).toNat :=
      BitVec.toNat_sub_of_le (by rw [BitVec.le_def]; omega)
    have hpos : w.dequeueCnt - extractByteCnt c ≠ 0 := by
      intro hzero
      have hnat : (w.dequeueCnt - extractByteCnt c).toNat = 0 := congrArg BitVec.toNat hzero
      omega
    rw [if_neg ‹_›, if_neg hpos] at hbooks
    rw [if_neg hpos]
    refine hstep hbooks (Wbu.packets_of_busy hbusy) h.sent rfl rfl rfl fun htaken => ?_
    rw [WbuTxPhase, htaken]
    dsimp only
    rw [hst]
    refine ⟨hcurrent.push hnot, hstreamed', ?_⟩
    rw [cntSum_append, cntSum_singleton]
    omega

lemma WbuTxInv.call (h : WbuTxInv w) (hf : FifoOk v w) (hv : ViewInv v) {k : WbuCall}
    (hok : WbuTxCallOk w k w.wbuState) :
    WbuTxInv (pTcpWBu w k) ∧ FifoOk v (pTcpWBu w k) := by
  have hbooks : WbuBooks (pTcpWBu w k) := by
    refine h.books.call fun hst => ?_
    rw [hst, WbuTxCallOk] at hok
    exact hok.1
  have hphase := h.phase
  rw [WbuTxPhase] at hphase
  rw [pTcpWBu] at hbooks ⊢
  -- a step between two packets that takes nothing from the FIFOs
  have hidle {t : Wbu} (hbooks : WbuBooks t) (hst : w.wbuState.busy = false)
      (hst' : t.wbuState.busy = false) (hpast : t.past = w.past)
      (hids : t.siWrpSessId = w.siWrpSessId) (hlens : t.siWrpLen = w.siWrpLen)
      (hdata : t.siWrpData = w.siWrpData) (hphase : t.taken = w.taken → WbuTxPhase t) :
      WbuTxInv t ∧ FifoOk v t := by
    have htaken : t.taken = w.taken := by
      rw [Wbu.taken_of_idle hst, Wbu.taken_of_idle hst', hpast]
    refine ⟨⟨hbooks, hpast ▸ h.sent, hphase htaken⟩, ?_⟩
    rw [FifoOk, htaken, hids, hlens, hdata]
    exact hf
  cases hst : w.wbuState with
  | waitMeta =>
      rw [hst] at hbooks hphase
      dsimp only at hbooks ⊢
      split
      · exact h.waitMeta hf hst
      · rw [if_neg ‹_›] at hbooks
        refine hidle hbooks (by rw [hst]; rfl) rfl rfl rfl rfl rfl fun htaken => ?_
        rw [WbuTxPhase, htaken]
        exact hphase
  | sndReq =>
      rw [hst, WbuTxCallOk] at hok
      dsimp only
      rw [if_pos hok]
      exact h.sndReq hf hst k
  | waitRep =>
      rw [hst, WbuTxCallOk] at hok
      dsimp only
      rw [if_pos hok.1]
      split
      · exact h.reply hf hst _ (hok.2 _ (by simp [*]))
      · exact ⟨h, hf⟩
  | stream =>
      rw [hst, WbuTxCallOk] at hok
      dsimp only
      rw [if_pos hok]
      split
      · split
        · exact h.stream hf hv hst ‹_›
        · exact ⟨h, hf⟩
      · exact ⟨h, hf⟩
  | drop =>
      dsimp only
      split
      · exact h.drop hf hv hst ‹_›
      · exact ⟨h, hf⟩
  | drain =>
      rw [hst, WbuTxCallOk] at hok
      rw [hst] at hbooks hphase
      dsimp only at hbooks ⊢
      rw [wbuDrain] at hbooks ⊢
      split
      · rw [if_pos ‹_›] at hbooks
        refine hidle hbooks (by rw [hst]; rfl) rfl rfl rfl rfl rfl fun htaken => ?_
        rw [WbuTxPhase, htaken]
        exact hphase
      · rw [if_neg ‹_›] at hbooks
        obtain ⟨hdata, hids, hlens⟩ := hok.resolve_left ‹_›
        refine hidle hbooks (by rw [hst]; rfl) (by rw [hst]; rfl) rfl ?_ ?_ ?_ fun htaken => ?_
        · rw [hids]
          rfl
        · rw [hlens]
          rfl
        · rw [hdata]
          rfl
        · rw [WbuTxPhase, htaken]
          dsimp only
          rw [hst]
          exact hphase

/-- The input streams are not part of the invariant. -/
lemma WbuTxInv.input (h : WbuTxInv w) {data : List AxisRaw} {ids : List SessionId}
    {lens : List TcpDatLen} {reps : List TcpAppSndRep} : WbuTxInv { w with
      siWrpData := data, siWrpSessId := ids, siWrpLen := lens, siTOESndRep := reps } :=
  ⟨h.books.input, h.sent, h.phase⟩

lemma WbuTxInv.sent_all (h : WbuTxInv w) : ∀ p ∈ w.packets, p.StreamedFirst := by
  by_cases hbusy : w.wbuState.busy = true
  · rw [Wbu.packets_of_busy hbusy]
    refine streamedFirst_append h.sent ?_
    have hphase := h.phase
    rw [WbuTxPhase] at hphase
    rcases Wbu.busy_cases hbusy with (hst | hst) | hst | hst
    · rw [hst] at hphase
      exact hphase.2.1.first
    · rw [hst] at hphase
      exact hphase.2.1.first
    · rw [hst] at hphase
      exact hphase.2.1.first
    · rw [hst] at hphase
      exact hphase.2.1
  · rw [Wbu.packets_of_idle (Bool.eq_false_iff.mpr hbusy)]
    exact h.sent

/-- What was taken are the first pieces. -/
lemma WbuTxInv.follows (h : WbuTxInv w) (hf : FifoOk v w) (hv : ViewInv v) :
    Frame.Follows w.taken v.pieces := by
  obtain ⟨hs, xs, hcarries, -⟩ := hf
  have hphase := h.phase
  rw [WbuTxPhase] at hphase
  cases hst : w.wbuState with
  | waitMeta =>
      rw [hst] at hphase
      exact hcarries.follows hv.framed hphase
  | drain =>
      rw [hst] at hphase
      exact hcarries.follows hv.framed hphase
  | sndReq =>
      rw [hst] at hphase
      exact hcarries.follows_current hv.framed hphase.1
  | waitRep =>
      rw [hst] at hphase
      exact hcarries.follows_current hv.framed hphase.1
  | stream =>
      rw [hst] at hphase
      exact hcarries.follows_current hv.framed hphase.1
  | drop =>
      rw [hst] at hphase
      exact hcarries.follows_current hv.framed hphase.1

end Buffer

/-! ### Runs -/

structure TcpPathInv (s : TcpTxPath) : Prop where
  view : ViewInv s.wrp.view
  fifo : FifoOk s.wrp.view s.wbu
  wbu : WbuTxInv s.wbu

namespace TcpPathInv

variable {s : TcpTxPath}

lemma aligned (h : TcpPathInv s) : TxAligned s where
  delimited p hp := h.view.delimited hp
  pieces := h.view.cut
  taken := h.wbu.follows h.fifo h.view
  fifo := h.fifo
  requests := h.wbu.books.requests
  data := h.wbu.books.data
  sessions := h.wbu.books.sessions
  sent := h.wbu.sent_all

/-- A step that meets its condition keeps the invariant. -/
lemma next (h : TcpPathInv s) {k : TcpTxStep} (hok : TcpStepOk s k) :
    TcpPathInv (tcpPathNext s k) := by
  cases k with
  | fmcSessId id => exact ⟨h.view, h.fifo, h.wbu⟩
  | fmcData c => exact ⟨h.view, h.fifo, h.wbu⟩
  | roleMeta m => exact ⟨h.view, h.fifo, h.wbu⟩
  | roleData c => exact ⟨h.view, h.fifo, h.wbu⟩
  | mrtReply ip => exact ⟨h.view, h.fifo, h.wbu⟩
  | sidReply id => exact ⟨h.view, h.fifo, h.wbu⟩
  | conReply rep => exact ⟨h.view, h.fifo, h.wbu⟩
  | cacheInval sig => exact ⟨h.view, h.fifo, h.wbu⟩
  | sndRep rep => exact ⟨h.view, h.fifo, h.wbu.input⟩
  | wrp k =>
      have hmove := wrpFsm_move s.wrp k hok
      exact ⟨h.view.move hmove, h.fifo.move h.view hmove, h.wbu.input⟩
  | wbu k =>
      have hcall := h.wbu.call h.fifo h.view hok
      exact ⟨h.view, hcall.2, hcall.1⟩

lemma initial : TcpPathInv {} where
  view := ⟨fun _ hf => absurd hf List.not_mem_nil, rfl, fun _ hf => absurd hf List.not_mem_nil, rfl,
    fun _ hp => absurd hp List.not_mem_nil⟩
  fifo := ⟨[], [], ⟨rfl, rfl⟩, rfl, rfl, rfl⟩
  wbu := ⟨.initial, fun _ hp => absurd hp List.not_mem_nil,
    fun _ hp => absurd hp List.not_mem_nil⟩

end TcpPathInv

/-- Lengths, sessions and data stay aligned in every run whose steps meet the condition. -/
theorem txAligned_of_ok {ks : List TcpTxStep} (h : Clocked.Along tcpPathNext TcpStepOk {} ks) :
    TxAligned (Clocked.run tcpPathNext {} ks) := by
  have hstep (s : TcpTxPath) (k : TcpTxStep) (hs : TcpPathInv s) (hok : TcpStepOk s k) :
      TcpPathInv (tcpPathNext s k) := hs.next hok
  exact (Clocked.run_inv hstep TcpPathInv.initial h).aligned

instance (w : Wbu) (rep : TcpAppSndRep) : Decidable (NoSpaceOk w rep) :=
  inferInstanceAs (Decidable (rep.error = .noSpace → 7 ≤ rep.spaceLeft.toNat ∧
    rep.spaceLeft.toNat < w.currentRequestedLength.toNat ∧ 8 < w.currentRequestedLength.toNat))

instance (w : Wbu) (k : WbuCall) : (st : WbuFsmStates) → Decidable (WbuTxCallOk w k st)
  | .waitMeta | .drop => isTrue trivial
  | .sndReq | .stream => inferInstanceAs (Decidable (k.up = true))
  | .waitRep => inferInstanceAs (Decidable
      (k.up = true ∧ ∀ rep ∈ w.siTOESndRep.head?, NoSpaceOk w rep))
  | .drain => inferInstanceAs (Decidable
      (k.up = true ∨ w.siWrpData = [] ∧ w.siWrpSessId = [] ∧ w.siWrpLen = []))

instance (s : TcpTxPath) : (k : TcpTxStep) → Decidable (TcpStepOk s k)
  | .wrp k => inferInstanceAs (Decidable (WrpCallOk s.wrp k s.wrp.wrpFsmState))
  | .wbu k => inferInstanceAs (Decidable (WbuTxCallOk s.wbu k s.wbu.wbuState))
  | .fmcSessId _ | .fmcData _ | .roleMeta _ | .roleData _ | .mrtReply _ | .sidReply _
  | .conReply _ | .cacheInval _ | .sndRep _ => isTrue trivial

/-- A chunk of eight bytes. -/
def fullChunk (b : Byte) (last : Bool) : AxisRaw := ⟨List.replicate 8 ⟨b, true⟩, last, by simp⟩

/-- A packet of the FMC of `n` chunks and a last one. -/
def fmcPacket (id : SessionId) (b : Byte) (n : ℕ) : List TcpTxStep :=
  .fmcSessId id :: .wrp {} ::
    ((List.replicate n false ++ [true]).flatMap fun last =>
      [.fmcData (fullChunk b last), .wrp {}])

/-- A packet of the ROLE of two chunks, with its length. -/
def rolePacket (id : SessionId) (b : Byte) : List TcpTxStep :=
  [.roleMeta ⟨1, 2718, 0, 2718, 16⟩, .wrp {}, .mrtReply 0x0A0CC801, .wrp {}, .wrp {}, .sidReply id,
    .wrp {}, .wrp {}, .roleData (fullChunk b false), .wrp {}, .roleData (fullChunk b false),
    .wrp {}]

set_option maxRecDepth 8000 in
/-- A packet of the FMC and one of the ROLE, which is streamed in two parts because at first there
is space for fifteen bytes only. -/
theorem txAligned_of_ok_two :
    let ks := .wrp {} :: fmcPacket 5 0x61 1 ++ rolePacket 7 0x62 ++
      [.sndRep ⟨5, 16, 1000, .noError⟩, .sndRep ⟨7, 16, 15, .noSpace⟩,
        .sndRep ⟨7, 8, 1000, .noError⟩] ++ List.replicate 12 (.wbu {})
    (Clocked.run tcpPathNext {} ks).wbu.soTOESndReq = [⟨5, 16⟩, ⟨7, 16⟩, ⟨7, 8⟩] ∧
      TxAligned (Clocked.run tcpPathNext {} ks) :=
  ⟨by decide +kernel, txAligned_of_ok (by decide +kernel)⟩

/-- A packet of the FMC that is longer than one segment, and another one for another session. -/
def longPacket : List TcpTxStep :=
  .wrp {} :: fmcPacket 5 0x61 169 ++ fmcPacket 7 0x62 0 ++
    [.sndRep ⟨5, 1352, 2000, .noError⟩, .sndRep ⟨7, 8, 2000, .noError⟩] ++
    List.replicate 176 (.wbu {})

set_option maxRecDepth 20000 in
/-- The end of the first packet is sent to the session of the second one. -/
theorem end_for_other_session : ¬∀ ks, TxAligned (Clocked.run tcpPathNext {} ks) := by
  intro h
  have hwrong : ∃ t ∈ (Clocked.run tcpPathNext {} longPacket).wbu.taken,
      t.body.length = 1 ∧ ∀ f ∈ (Clocked.run tcpPathNext {} longPacket).wrp.pieces,
        t.head = f.head → t.body.head? ≠ f.body.head? := by decide +kernel
  obtain ⟨t, ht, hlen, hall⟩ := hwrong
  obtain ⟨f, hf, hhead, hbody⟩ := (h longPacket).taken.mem ht
  obtain ⟨c, hc⟩ := List.length_eq_one_iff.mp hlen
  obtain ⟨rest, hrest⟩ := hbody
  refine hall f hf hhead ?_
  rw [← hrest, hc]
  rfl

end CloudFpga.Nal
