import CloudFpga.Nal.Tss.WriteBuffer

/-!
The agreement of the write buffer `pTcpWBu` with the TOE on what may be sent.

* `GrantsAgree`: what is streamed for a packet is what the TOE has granted for it.
* `WbuStepOk`: no reply says that there is no space, and the chunks hold as many bytes as announced.
* `grantsAgree_of_ok`: this condition keeps the write buffer and the TOE in agreement.
-/

namespace CloudFpga.Nal

open Foundation

/-! ### The property and the condition -/

/-- A request that was granted is followed by one stream of as many bytes, another one by none. -/
def StreamDone (f : WbuStream) : Prop :=
  if f.head.2.error = .noError then
    f.Complete AxisRaw.tlast ∧ byteSum f.body = f.head.1.length.toNat
  else f.body = []

/-- What is streamed at present was granted, and it does not end before its last byte. -/
structure StreamGoes (s : Wbu) (f : WbuStream) : Prop where
  granted : f.head.2.error = .noError
  current : f.Open AxisRaw.tlast
  approved : s.currentApprovedLength = f.head.1.length
  counted : s.dequeueCnt.toNat = byteSum f.body
  le : byteSum f.body ≤ f.head.1.length.toNat

/-- The TOE has refused the packet. -/
def WbuPacket.Abandoned (p : WbuPacket) : Prop := ∃ f ∈ p.streams, f.head.2.error = .noConnection

/-- A packet is read to its last byte, and not further. Its streams together are the packet, unless
it was abandoned. -/
structure PacketDone (p : WbuPacket) : Prop where
  streams : ∀ f ∈ p.streams, StreamDone f
  bytes : byteSum p.body = p.len.toNat
  whole : p.Abandoned ∨ (Frame.items p.streams).map AxisRaw.lanes = p.body.map AxisRaw.lanes

/-- The write buffer and the TOE agree. -/
structure GrantsAgree (s : Wbu) : Prop where
  /-- The TOE gets the streams and their requests in order, and nothing else. -/
  data : s.soTOEData = Frame.items s.streams
  requests : s.soTOESndReq = (Frame.heads s.streams).map Prod.fst ++
    if s.wbuState = .waitRep then [s.request] else []
  sessions : ∀ p ∈ s.packets, ∀ f ∈ p.streams, f.head.1.sessId = p.sessId
  granted : ∀ f ∈ s.streams, f.body ≠ [] → f.head.2.error = .noError
  past : ∀ p ∈ s.past, PacketDone p
  /-- The streams of the present packet are complete, up to the one in progress. -/
  between : s.wbuState.busy = true → s.wbuState ≠ .stream → ∀ f ∈ s.packet.streams, StreamDone f
  streaming : s.wbuState = .stream → ∃ pre f, s.packet.streams = pre ++ [f] ∧
    (∀ g ∈ pre, StreamDone g) ∧ StreamGoes s f
  whole : s.wbuState.busy = true → s.wbuState ≠ .drop →
    (Frame.items s.packet.streams).map AxisRaw.lanes = s.packet.body.map AxisRaw.lanes
  /-- The lengths that remain are exact. -/
  requested : s.wbuState = .sndReq ∨ s.wbuState = .waitRep →
    s.currentRequestedLength.toNat + byteSum s.packet.body = s.packet.len.toNat
  dropping : s.wbuState = .drop →
    s.dequeueCnt.toNat + byteSum s.packet.body = s.packet.len.toNat

/-- The chunk belongs to the present packet, and with `tlast` it is its last one. -/
def WbuChunkOk (s : Wbu) (c : AxisRaw) : Prop :=
  c.getLen ≠ 0 ∧ byteSum s.packet.body + c.getLen ≤ s.packet.len.toNat ∧
    (c.tlast = true → byteSum s.packet.body + c.getLen = s.packet.len.toNat)

/-- The condition on a call in each state: within a packet, the NTS is ready; no reply says that
there is no space; the chunks of a packet hold the announced number of bytes. -/
def WbuCallOk (s : Wbu) (k : WbuCall) : WbuFsmStates → Prop
  | .waitMeta | .drain => True
  | .sndReq => k.up = true
  | .waitRep => k.up = true ∧ ∀ rep ∈ s.siTOESndRep.head?, rep.error ≠ .noSpace
  | .stream => k.up = true ∧ ∀ c ∈ s.siWrpData.head?, WbuChunkOk s c
  | .drop => ∀ c ∈ s.siWrpData.head?, WbuChunkOk s c

def WbuStepOk (s : Wbu) : WbuStep → Prop
  | .call k => WbuCallOk s k s.wbuState
  | _ => True

/-! ### The invariant -/

lemma byteSum_congr {cs ds : List AxisRaw} (h : cs.map AxisRaw.lanes = ds.map AxisRaw.lanes) :
    byteSum cs = byteSum ds := by
  induction cs generalizing ds with
  | nil =>
      rw [List.map_nil, eq_comm, List.map_eq_nil_iff] at h
      rw [h]
  | cons c cs ih =>
      cases ds with
      | nil => cases h
      | cons d ds =>
          obtain ⟨hlanes, hrest⟩ := List.cons.inj h
          have hlen : c.getLen = d.getLen := by rw [AxisRaw.getLen, hlanes, AxisRaw.getLen]
          have hsum := ih hrest
          simp only [byteSum, List.map_cons, List.sum_cons] at hsum ⊢
          rw [hlen, hsum]

/-- The present packet has one request `f`, for its length. -/
structure OneRequest (s : Wbu) (f : WbuStream) : Prop where
  streams : s.packet.streams = [f]
  request : f.head.1 = s.request
  len : s.packet.len = s.currentRequestedLength

/-- The present packet in each state. -/
def WbuPhase (s : Wbu) : Prop :=
  match s.wbuState with
  | .waitMeta | .drain => True
  | .sndReq | .waitRep => s.packet = { sessId := s.currentSessId, len := s.currentRequestedLength }
  | .stream => ∃ f, OneRequest s f ∧ StreamGoes s f ∧ s.needToRequestAgain = false ∧
      f.body.map AxisRaw.lanes = s.packet.body.map AxisRaw.lanes
  | .drop => ∃ f, OneRequest s f ∧ f.head.2.error = .noConnection ∧ f.body = [] ∧
      s.dequeueCnt.toNat + byteSum s.packet.body = s.packet.len.toNat

structure WbuInv (s : Wbu) : Prop where
  books : WbuBooks s
  past : ∀ p ∈ s.past, PacketDone p
  phase : WbuPhase s

section Steps

variable {s : Wbu}

lemma StreamDone.granted {f : WbuStream} (h : StreamDone f) (hne : f.body ≠ []) :
    f.head.2.error = .noError := by
  by_contra herr
  rw [StreamDone, if_neg herr] at h
  exact hne h

lemma packetDone_append {ps : List WbuPacket} (hps : ∀ p ∈ ps, PacketDone p) {q : WbuPacket}
    (hq : PacketDone q) : ∀ p ∈ ps ++ [q], PacketDone p := by
  intro p hp
  rcases List.mem_append.mp hp with hp | hp
  · exact hps p hp
  · rw [List.mem_singleton.mp hp]
    exact hq

namespace WbuInv

/-- A reply: the request has been settled, and its stream begins. -/
lemma reply (h : WbuInv s) (hst : s.wbuState = .waitRep) {rep : TcpAppSndRep}
    (reps : List TcpAppSndRep) (hrep : rep.error ≠ .noSpace) : WbuInv (wbuReply s rep reps) := by
  have hbooks := h.books.reply hst rep reps
  have hpacket := h.phase
  rw [WbuPhase, hst] at hpacket
  dsimp only at hpacket
  have hone (t : Wbu) (hcur : t.packet = { s.packet with
      streams := Frame.start s.packet.streams (s.request, rep) })
      (hid : t.currentSessId = s.currentSessId)
      (hlen : t.currentRequestedLength = s.currentRequestedLength) :
      OneRequest t ⟨(s.request, rep), []⟩ := by
    refine ⟨by rw [hcur, hpacket]; rfl, ?_, ?_⟩
    · rw [Wbu.request, Wbu.request, hid, hlen]
    · rw [hcur, hpacket, hlen]
  rw [wbuReply] at hbooks ⊢
  cases herr : rep.error with
  | noError =>
      rw [herr] at hbooks
      refine ⟨hbooks, h.past, _, hone _ rfl rfl rfl, ⟨herr, by rintro c ⟨⟩, rfl, rfl, ?_⟩, rfl, ?_⟩
      · exact Nat.zero_le _
      · dsimp only
        rw [hpacket]
  | noSpace => exact absurd herr hrep
  | noConnection =>
      rw [herr] at hbooks
      refine ⟨hbooks, h.past, _, hone _ rfl rfl rfl, herr, rfl, ?_⟩
      dsimp only
      rw [hpacket]
      rfl

/-- The number of bytes of a chunk of the present packet, added to a counter. -/
lemma add_count {c : AxisRaw} (hc : WbuChunkOk s c) {cnt : BitVec 16}
    (hcnt : cnt.toNat = byteSum s.packet.body) :
    (cnt + extractByteCnt c).toNat = byteSum s.packet.body + c.getLen := by
  obtain ⟨hne, hle, -⟩ := hc
  have hlen : s.packet.len.toNat < 2 ^ 16 := s.packet.len.isLt
  rw [extractByteCnt, if_neg hne, BitVec.toNat_add, BitVec.toNat_ofNat, hcnt]
  omega

/-- A chunk is streamed. -/
lemma stream (h : WbuInv s) (hst : s.wbuState = .stream) {c : AxisRaw} (data : List AxisRaw)
    (hc : WbuChunkOk s c) : WbuInv (wbuStream s c data) := by
  have hbooks := h.books.stream hst c data
  have hphase := h.phase
  rw [WbuPhase, hst] at hphase
  obtain ⟨f, hone, hgoes, hagain, hlanes⟩ := hphase
  have hsum : byteSum f.body = byteSum s.packet.body := byteSum_congr hlanes
  have hcnt : (s.dequeueCnt + extractByteCnt c).toNat = byteSum s.packet.body + c.getLen :=
    add_count hc (hgoes.counted.trans hsum)
  have hreq : f.head.1.length = s.packet.len := by
    rw [hone.request, hone.len]
    rfl
  have hcloses : s.currentApprovedLength ≤ s.dequeueCnt + extractByteCnt c ↔
      s.packet.len.toNat ≤ byteSum s.packet.body + c.getLen := by
    rw [BitVec.le_def, hcnt, hgoes.approved, hreq]
  rw [wbuStream] at hbooks ⊢
  dsimp only at hbooks ⊢
  split
  · rw [if_pos ‹_›, if_neg (by rw [hagain]; decide)] at hbooks
    rw [if_neg (by rw [hagain]; decide)]
    have hle : s.packet.len.toNat ≤ byteSum s.packet.body + c.getLen :=
      hcloses.mp (of_decide_eq_true ‹_›)
    have heq : byteSum s.packet.body + c.getLen = s.packet.len.toNat := le_antisymm hc.2.1 hle
    refine ⟨hbooks, packetDone_append h.past ?_, trivial⟩
    dsimp only
    rw [hone.streams]
    refine ⟨fun g hg => ?_, ?_, .inr ?_⟩
    · rw [List.mem_singleton.mp hg, StreamDone, if_pos hgoes.granted]
      refine ⟨hgoes.current.complete ‹_›, ?_⟩
      rw [byteSum_append, byteSum_singleton, hsum, hreq]
      exact heq
    · rw [byteSum_append, byteSum_singleton]
      exact heq
    · simp [Frame.push, hlanes]
  · rw [if_neg ‹_›] at hbooks
    have hlast : decide (s.currentApprovedLength ≤ s.dequeueCnt + extractByteCnt c) = false :=
      Bool.eq_false_iff.mpr ‹_›
    refine ⟨hbooks, h.past, ?_⟩
    rw [WbuPhase]
    dsimp only
    rw [hst]
    refine ⟨_, ⟨congrArg (fun fs => Frame.push fs _) hone.streams, hone.request, hone.len⟩,
      ⟨hgoes.granted, hgoes.current.push hlast, hgoes.approved, ?_, ?_⟩, hagain, ?_⟩
    · rw [hcnt, byteSum_append, byteSum_singleton, hsum]
      rfl
    · rw [byteSum_append, byteSum_singleton, hsum, hreq]
      exact hc.2.1
    · simp [hlanes]

/-- A chunk of an abandoned packet is discarded. -/
lemma drop (h : WbuInv s) (hst : s.wbuState = .drop) {c : AxisRaw} (data : List AxisRaw)
    (hc : WbuChunkOk s c) : WbuInv (wbuDrop s c data) := by
  have hbooks := h.books.drop hst c data
  have hphase := h.phase
  rw [WbuPhase, hst] at hphase
  obtain ⟨f, hone, herr, hnone, hrest⟩ := hphase
  obtain ⟨hne, hle, hlast⟩ := hc
  have hcnt : (s.dequeueCnt - extractByteCnt c).toNat + (byteSum s.packet.body + c.getLen) =
      s.packet.len.toNat := by
    have hlen : s.packet.len.toNat < 2 ^ 16 := s.packet.len.isLt
    rw [extractByteCnt, if_neg hne, BitVec.toNat_sub, BitVec.toNat_ofNat]
    omega
  -- the packet is finished with this chunk
  have hfinish (hsum : byteSum s.packet.body + c.getLen = s.packet.len.toNat) :
      ∀ p ∈ s.past ++ [{ s.packet with body := s.packet.body ++ [c] }], PacketDone p := by
    refine packetDone_append h.past ⟨fun g hg => ?_, ?_, .inl ⟨f, ?_, herr⟩⟩
    · dsimp only at hg
      rw [hone.streams] at hg
      rw [List.mem_singleton.mp hg, StreamDone, if_neg (by rw [herr]; rintro ⟨⟩)]
      exact hnone
    · rw [byteSum_append, byteSum_singleton]
      exact hsum
    · dsimp only
      rw [hone.streams]
      exact List.mem_singleton_self f
  rw [wbuDrop] at hbooks ⊢
  dsimp only at hbooks ⊢
  split
  · rw [if_pos ‹_›] at hbooks
    exact ⟨hbooks, hfinish (hlast ‹_›), trivial⟩
  · rw [if_neg ‹_›] at hbooks
    split
    · rw [if_pos ‹_›] at hbooks
      have hzero : (s.dequeueCnt - extractByteCnt c).toNat = 0 :=
        congrArg BitVec.toNat ‹s.dequeueCnt - extractByteCnt c = 0›
      exact ⟨hbooks, hfinish (by omega), trivial⟩
    · rw [if_neg ‹_›] at hbooks
      refine ⟨hbooks, h.past, ?_⟩
      rw [WbuPhase]
      dsimp only
      rw [hst]
      refine ⟨f, ⟨hone.streams, hone.request, hone.len⟩, herr, hnone, ?_⟩
      rw [byteSum_append, byteSum_singleton]
      exact hcnt

lemma call (h : WbuInv s) {k : WbuCall} (hok : WbuStepOk s (.call k)) : WbuInv (pTcpWBu s k) := by
  rw [WbuStepOk] at hok
  have hbooks : WbuBooks (pTcpWBu s k) := by
    refine h.books.call fun hst => ?_
    rw [hst, WbuCallOk] at hok
    exact hok.1
  rw [pTcpWBu] at hbooks ⊢
  cases hst : s.wbuState with
  | waitMeta =>
      rw [hst] at hbooks
      dsimp only at hbooks ⊢
      split
      · rw [if_pos ‹_›, wbuWaitMeta] at hbooks
        rw [wbuWaitMeta]
        split
        · simp only [*] at hbooks
          exact ⟨hbooks, h.past, rfl⟩
        · exact h
      · rw [if_neg ‹_›] at hbooks
        exact ⟨hbooks, h.past, trivial⟩
  | sndReq =>
      rw [hst, WbuCallOk] at hok
      dsimp only
      rw [if_pos hok]
      have hphase := h.phase
      rw [WbuPhase, hst] at hphase
      rw [wbuSndReq]
      have hsent := h.books.sndReq hst k
      rw [wbuSndReq] at hsent
      split
      · rw [if_pos ‹_›] at hsent
        exact ⟨hsent, h.past, hphase⟩
      · exact h
  | waitRep =>
      rw [hst, WbuCallOk] at hok
      dsimp only
      rw [if_pos hok.1]
      split
      · exact h.reply hst _ (hok.2 _ (by simp [*]))
      · exact h
  | stream =>
      rw [hst, WbuCallOk] at hok
      dsimp only
      rw [if_pos hok.1]
      split
      · split
        · exact h.stream hst _ (hok.2 _ (by simp [*]))
        · exact h
      · exact h
  | drop =>
      rw [hst, WbuCallOk] at hok
      dsimp only
      split
      · exact h.drop hst _ (hok _ (by simp [*]))
      · exact h
  | drain =>
      rw [hst] at hbooks
      dsimp only at hbooks ⊢
      rw [wbuDrain] at hbooks ⊢
      split
      · rw [if_pos ‹_›] at hbooks
        exact ⟨hbooks, h.past, trivial⟩
      · rw [if_neg ‹_›] at hbooks
        refine ⟨hbooks, h.past, ?_⟩
        rw [WbuPhase]
        dsimp only
        rw [hst]
        trivial

/-- The input streams are not part of the invariant. -/
lemma input (h : WbuInv s) {data : List AxisRaw} {ids : List SessionId} {lens : List TcpDatLen}
    {reps : List TcpAppSndRep} : WbuInv { s with
      siWrpData := data, siWrpSessId := ids, siWrpLen := lens, siTOESndRep := reps } := by
  refine ⟨h.books.input, h.past, ?_⟩
  have hphase := h.phase
  rw [WbuPhase] at hphase ⊢
  dsimp only
  cases hst : s.wbuState with
  | waitMeta => trivial
  | drain => trivial
  | sndReq =>
      rw [hst] at hphase
      exact hphase
  | waitRep =>
      rw [hst] at hphase
      exact hphase
  | stream =>
      rw [hst] at hphase
      obtain ⟨f, ⟨h1, h2, h3⟩, ⟨g1, g2, g3, g4, g5⟩, hrest⟩ := hphase
      exact ⟨f, ⟨h1, h2, h3⟩, ⟨g1, g2, g3, g4, g5⟩, hrest⟩
  | drop =>
      rw [hst] at hphase
      obtain ⟨f, ⟨h1, h2, h3⟩, hrest⟩ := hphase
      exact ⟨f, ⟨h1, h2, h3⟩, hrest⟩

lemma next (h : WbuInv s) {k : WbuStep} (hok : WbuStepOk s k) : WbuInv (wbuNext s k) := by
  cases k with
  | data c => exact h.input
  | sessId id => exact h.input
  | len l => exact h.input
  | sndRep rep => exact h.input
  | call k => exact h.call hok

lemma initial : WbuInv {} := ⟨.initial, fun _ hp => absurd hp List.not_mem_nil, trivial⟩

/-- Before the reply, the present packet is as it was announced. -/
lemma announced (h : WbuInv s) (hst : s.wbuState = .sndReq ∨ s.wbuState = .waitRep) :
    s.packet = { sessId := s.currentSessId, len := s.currentRequestedLength } := by
  have hphase := h.phase
  rw [WbuPhase] at hphase
  rcases hst with hst | hst
  · rw [hst] at hphase
    exact hphase
  · rw [hst] at hphase
    exact hphase

lemma streaming (h : WbuInv s) (hst : s.wbuState = .stream) :
    ∃ f, OneRequest s f ∧ StreamGoes s f ∧ s.needToRequestAgain = false ∧
      f.body.map AxisRaw.lanes = s.packet.body.map AxisRaw.lanes := by
  have hphase := h.phase
  rw [WbuPhase, hst] at hphase
  exact hphase

lemma dropping (h : WbuInv s) (hst : s.wbuState = .drop) :
    ∃ f, OneRequest s f ∧ f.head.2.error = .noConnection ∧ f.body = [] ∧
      s.dequeueCnt.toNat + byteSum s.packet.body = s.packet.len.toNat := by
  have hphase := h.phase
  rw [WbuPhase, hst] at hphase
  exact hphase

/-- Outside `WBU_STREAM` the streams of the present packet are complete. -/
lemma between (h : WbuInv s) (hbusy : s.wbuState.busy = true) (hst : s.wbuState ≠ .stream) :
    ∀ f ∈ s.packet.streams, StreamDone f := by
  intro f hf
  rcases Wbu.busy_cases hbusy with hcase | hcase | hcase
  · rw [h.announced hcase] at hf
    cases hf
  · exact absurd hcase hst
  · obtain ⟨g, hone, herr, hnone, -⟩ := h.dropping hcase
    rw [hone.streams] at hf
    rw [List.mem_singleton.mp hf, StreamDone, if_neg (by rw [herr]; nofun)]
    exact hnone

lemma whole (h : WbuInv s) (hbusy : s.wbuState.busy = true) (hst : s.wbuState ≠ .drop) :
    (Frame.items s.packet.streams).map AxisRaw.lanes = s.packet.body.map AxisRaw.lanes := by
  rcases Wbu.busy_cases hbusy with hcase | hcase | hcase
  · rw [h.announced hcase]
    rfl
  · obtain ⟨f, hone, -, -, hlanes⟩ := h.streaming hcase
    rw [hone.streams, Frame.items_cons, Frame.items_nil, List.append_nil]
    exact hlanes
  · exact absurd hcase hst

lemma granted (h : WbuInv s) {p : WbuPacket} (hp : p ∈ s.packets) {f : WbuStream}
    (hf : f ∈ p.streams) (hne : f.body ≠ []) : f.head.2.error = .noError := by
  by_cases hbusy : s.wbuState.busy = true
  · rw [Wbu.packets_of_busy hbusy] at hp
    rcases List.mem_append.mp hp with hp | hp
    · exact ((h.past p hp).streams f hf).granted hne
    · rw [List.mem_singleton.mp hp] at hf
      by_cases hst : s.wbuState = .stream
      · obtain ⟨g, hone, hgoes, -⟩ := h.streaming hst
        rw [hone.streams] at hf
        rw [List.mem_singleton.mp hf]
        exact hgoes.granted
      · exact (h.between hbusy hst f hf).granted hne
  · rw [Wbu.packets_of_idle (Bool.eq_false_iff.mpr hbusy)] at hp
    exact ((h.past p hp).streams f hf).granted hne

lemma agree (h : WbuInv s) : GrantsAgree s where
  data := h.books.data
  requests := h.books.requests
  sessions := h.books.sessions
  granted f hf hne := by
    obtain ⟨p, hp, hfp⟩ := List.mem_flatMap.mp hf
    exact h.granted hp hfp hne
  past := h.past
  between := h.between
  streaming hst := by
    obtain ⟨f, hone, hgoes, -⟩ := h.streaming hst
    exact ⟨[], f, hone.streams, fun g hg => absurd hg List.not_mem_nil, hgoes⟩
  whole := h.whole
  requested hst := by
    rw [h.announced hst]
    rfl
  dropping hst := by
    obtain ⟨f, -, -, -, hrest⟩ := h.dropping hst
    exact hrest

end WbuInv

end Steps

/-- In every run in which no reply says that there is no space, the write buffer and the TOE
agree. -/
theorem grantsAgree_of_ok {ks : List WbuStep} (h : Clocked.Along wbuNext WbuStepOk {} ks) :
    GrantsAgree (Clocked.run wbuNext {} ks) := by
  have hstep (s : Wbu) (k : WbuStep) (hs : WbuInv s) (hok : WbuStepOk s k) :
      WbuInv (wbuNext s k) := hs.next hok
  exact (Clocked.run_inv hstep WbuInv.initial h).agree

instance (s : Wbu) (c : AxisRaw) : Decidable (WbuChunkOk s c) :=
  inferInstanceAs (Decidable (c.getLen ≠ 0 ∧ byteSum s.packet.body + c.getLen ≤ s.packet.len.toNat ∧
    (c.tlast = true → byteSum s.packet.body + c.getLen = s.packet.len.toNat)))

instance (s : Wbu) (k : WbuCall) : (st : WbuFsmStates) → Decidable (WbuCallOk s k st)
  | .waitMeta | .drain => isTrue trivial
  | .sndReq => inferInstanceAs (Decidable (k.up = true))
  | .waitRep => inferInstanceAs (Decidable
      (k.up = true ∧ ∀ rep ∈ s.siTOESndRep.head?, rep.error ≠ .noSpace))
  | .stream => inferInstanceAs (Decidable
      (k.up = true ∧ ∀ c ∈ s.siWrpData.head?, WbuChunkOk s c))
  | .drop => inferInstanceAs (Decidable (∀ c ∈ s.siWrpData.head?, WbuChunkOk s c))

instance (s : Wbu) : (k : WbuStep) → Decidable (WbuStepOk s k)
  | .call k => inferInstanceAs (Decidable (WbuCallOk s k s.wbuState))
  | .data _ | .sessId _ | .len _ | .sndRep _ => isTrue trivial

/-- A packet of two chunks of eight bytes for the session `id`, with the reply of the TOE. -/
def wbuPacketSteps (id : SessionId) (rep : TcpAppSndRep) : List WbuStep :=
  [.sessId id, .len 16, .data ⟨List.replicate 8 ⟨0x61, true⟩, false, by simp⟩,
    .data ⟨List.replicate 8 ⟨0x62, true⟩, true, by simp⟩, .sndRep rep] ++
    List.replicate 5 (.call {})

set_option maxRecDepth 4000 in
/-- A packet that is granted, and another one that is abandoned. -/
theorem grantsAgree_of_ok_two :
    let ks := wbuPacketSteps 3 ⟨3, 16, 1000, .noError⟩ ++
      wbuPacketSteps 4 ⟨4, 16, 0, .noConnection⟩
    (Clocked.run wbuNext {} ks).past.length = 2 ∧ GrantsAgree (Clocked.run wbuNext {} ks) :=
  ⟨by decide +kernel, grantsAgree_of_ok (by decide +kernel)⟩

set_option maxRecDepth 4000 in
/-- The TOE replies that there is space for 15 of the 16 bytes only. It has not granted anything,
but the first chunk is streamed. -/
theorem streamed_without_grant : ¬∀ ks, GrantsAgree (Clocked.run wbuNext {} ks) := by
  intro h
  have hsent : ∃ f ∈ (Clocked.run wbuNext {} (wbuPacketSteps 3 ⟨3, 16, 15, .noSpace⟩)).streams,
      f.body ≠ [] ∧ f.head.2.error = .noSpace := by decide +kernel
  obtain ⟨f, hf, hne, herr⟩ := hsent
  cases herr.symm.trans ((h _).granted f hf hne)

end CloudFpga.Nal
