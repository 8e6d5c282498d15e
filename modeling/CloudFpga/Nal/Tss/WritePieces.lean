import CloudFpga.Nal.Tss.WritePath

/-!
How `pTcpWRp` cuts packets into pieces, each with a session and a length for `pTcpWBu`.

* `WrpView`: the packets and pieces with the counters that decide about them.
* `wrpFsm_move`: under `WrpCallOk`, a call changes the view by one of the moves `WrpMove`.
* `ViewInv`: the pieces are the packets that have a session, and each of them ends where its length
  is reached.
-/

namespace CloudFpga.Nal

open Foundation

/-! ### The view of the packets -/

/-- Between two packets, or while the destination of a packet is looked up, or within a packet:
without an announced length, with one, or dropped. -/
inductive WrpMode where
  | between | asks | streams (id : SessionId) | counts | drops
  deriving DecidableEq

/-- What decides how packets are cut into pieces. -/
structure WrpView where
  mode : WrpMode
  count : NetworkDataLength
  length : NetworkDataLength
  packets : List WrpPacket
  pieces : List WrpPiece
  rest : List AxisRaw

def TcpWrp.mode (s : TcpWrp) : WrpMode :=
  match s.wrpFsmState with
  | .reset | .waitMeta => .between
  | .w8ForReqs1 | .w8ForReqs11 | .w8ForReqs2 | .w8ForReqs22 | .waitConnection => .asks
  | .streamFmc => .streams s.tcpSessId
  | .streamRole => if s.streamingMode then .streams s.sessId else .counts
  | .dropPacket => .drops

def TcpWrp.view (s : TcpWrp) : WrpView :=
  ⟨s.mode, s.tcpTXCurrentPacketLength, s.tcpTXPacketLength, s.packets, s.pieces, s.rest⟩

/-- The bytes of some chunks, as the NAL counts them. -/
def cntSum (cs : List AxisRaw) : ℕ := (cs.map fun c => (extractByteCnt c).toNat).sum

@[simp] lemma cntSum_nil : cntSum [] = 0 := rfl

@[simp] lemma cntSum_append (cs ds : List AxisRaw) :
    cntSum (cs ++ ds) = cntSum cs + cntSum ds := by
  simp [cntSum]

@[simp] lemma cntSum_singleton (c : AxisRaw) : cntSum [c] = (extractByteCnt c).toNat := by
  simp [cntSum]

/-- The packet ends where its announced length is reached, or with `tlast` if there is none. -/
def Delimited (p : WrpPacket) : Prop :=
  if p.head.2 = 0 then p.Complete AxisRaw.tlast
  else p.head.2.toNat ≤ cntSum p.body ∧ cntSum p.body.dropLast < p.head.2.toNat

/-- The lanes of some chunks, each with the session they are for. -/
def forSession (id : SessionId) (cs : List AxisRaw) : List (SessionId × List Lane) :=
  cs.map fun c => (id, c.lanes)

/-- The lanes of the packets that have a session. -/
def accepted (ps : List WrpPacket) : List (SessionId × List Lane) :=
  ps.flatMap fun p => (p.head.1.map (forSession · p.body)).getD []

/-- The session of the packet that is in progress without an announced length. -/
def WrpMode.session : WrpMode → List SessionId
  | .streams id => [id]
  | _ => []

def pieceLanes (fs : List WrpPiece) : List (SessionId × List Lane) :=
  fs.flatMap fun f => forSession f.head.1 f.body

/-- The lanes of the pieces, and of what follows the last of them. -/
def WrpView.cut (v : WrpView) : List (SessionId × List Lane) :=
  pieceLanes v.pieces ++ v.mode.session.flatMap (forSession · v.rest)

/-- `pTcpWRp` is within a packet. -/
def WrpMode.within : WrpMode → Bool
  | .between | .asks => false
  | _ => true

/-! ### The moves -/

/-- A chunk without an announced length does not make the packet too long for one segment. -/
def StreamChunkOk (s : TcpWrp) (c : NetworkWord) : Prop :=
  c.tlast = true ∨
    s.tcpTXCurrentPacketLength.toNat + (extractByteCnt c).toNat < nalStreamingSplitTcp

/-- With the chunk the counter does not overflow. -/
def CountChunkOk (s : TcpWrp) (c : NetworkWord) : Prop :=
  s.tcpTXCurrentPacketLength.toNat + (extractByteCnt c).toNat < 2 ^ 16

/-- A chunk of a packet that is dropped. If there is an announced length, a `tlast` does not come
before it is reached. -/
def DropChunkOk (s : TcpWrp) (c : NetworkWord) : Prop :=
  s.tcpTXPacketLength ≠ 0 → CountChunkOk s c ∧ (c.tlast = true → Reaches s c = true)

/-- The condition on a call in each state: the NTS is ready, unless there is nothing to lose, and
the next chunk meets its condition. -/
def WrpCallOk (s : TcpWrp) (k : WrpCall) : WrpFsmStates → Prop
  | .reset => k.up = true ∨
      s.siFMCData = [] ∧ s.siFMCSessId = [] ∧ s.siTcpData = [] ∧ s.siTcpMeta = []
  | .waitMeta | .w8ForReqs1 | .w8ForReqs11 | .w8ForReqs2 => True
  | .w8ForReqs22 | .waitConnection => k.up = true
  | .streamFmc => k.up = true ∧ ∀ c ∈ s.siFMCData.head?, StreamChunkOk s c
  | .streamRole => k.up = true ∧ ∀ c ∈ s.siTcpData.head?,
      if s.streamingMode then StreamChunkOk s c else CountChunkOk s c
  | .dropPacket => k.up = true ∧ ∀ c ∈ s.siTcpData.head?, DropChunkOk s c

instance (s : TcpWrp) (c : NetworkWord) : Decidable (StreamChunkOk s c) :=
  inferInstanceAs (Decidable (c.tlast = true ∨
    s.tcpTXCurrentPacketLength.toNat + (extractByteCnt c).toNat < nalStreamingSplitTcp))

instance (s : TcpWrp) (c : NetworkWord) : Decidable (CountChunkOk s c) :=
  inferInstanceAs (Decidable
    (s.tcpTXCurrentPacketLength.toNat + (extractByteCnt c).toNat < 2 ^ 16))

instance (s : TcpWrp) (c : NetworkWord) : Decidable (DropChunkOk s c) :=
  inferInstanceAs (Decidable
    (s.tcpTXPacketLength ≠ 0 → CountChunkOk s c ∧ (c.tlast = true → Reaches s c = true)))

instance (s : TcpWrp) (k : WrpCall) : (st : WrpFsmStates) → Decidable (WrpCallOk s k st)
  | .reset => inferInstanceAs (Decidable (k.up = true ∨
      s.siFMCData = [] ∧ s.siFMCSessId = [] ∧ s.siTcpData = [] ∧ s.siTcpMeta = []))
  | .waitMeta | .w8ForReqs1 | .w8ForReqs11 | .w8ForReqs2 => isTrue trivial
  | .w8ForReqs22 | .waitConnection => inferInstanceAs (Decidable (k.up = true))
  | .streamFmc => inferInstanceAs (Decidable
      (k.up = true ∧ ∀ c ∈ s.siFMCData.head?, StreamChunkOk s c))
  | .streamRole => inferInstanceAs (Decidable
      (k.up = true ∧ ∀ c ∈ s.siTcpData.head?,
        if s.streamingMode then StreamChunkOk s c else CountChunkOk s c))
  | .dropPacket => inferInstanceAs (Decidable
      (k.up = true ∧ ∀ c ∈ s.siTcpData.head?, DropChunkOk s c))

/-- The changes of the view under this condition, with what is written. -/
inductive WrpMove (v : WrpView) : WrpView → WrpOut → Prop
  | stay : WrpMove v v {}
  | ask (h : v.mode = .between) (l : NetworkDataLength) :
      WrpMove v { v with mode := .asks, count := 0, length := l } {}
  | refuse (h : v.mode = .asks) :
      WrpMove v { v with mode := .drops, packets := Frame.start v.packets (none, v.length) } {}
  | refuseFirst (h : v.mode = .between) (l : NetworkDataLength) :
      WrpMove v
        { v with
          mode := .drops
          count := 0
          length := l
          packets := Frame.start v.packets (none, l) } {}
  | stream (h : v.mode = .between ∨ v.mode = .asks) (id : SessionId) {l : NetworkDataLength}
      (hl : l = 0) :
      WrpMove v
        { v with
          mode := .streams id
          count := 0
          packets := Frame.start v.packets (some id, l) }
        { soTOESessId := [id] }
  | announce (h : v.mode = .asks) (hlen : v.length ≠ 0) (id : SessionId) :
      WrpMove v
        { v with
          mode := .counts
          count := 0
          packets := Frame.start v.packets (some id, v.length)
          pieces := Frame.start v.pieces (id, v.length) }
        { soTOESessId := [id], soTOELen := [v.length] }
  | streamed {id : SessionId} (h : v.mode = .streams id) {c : AxisRaw} (hlast : c.tlast = false)
      (hshort : v.count.toNat + (extractByteCnt c).toNat < nalStreamingSplitTcp) :
      WrpMove v
        { v with
          count := v.count + extractByteCnt c
          packets := Frame.push v.packets c
          rest := v.rest ++ [c] }
        { soTOEData := [c] }
  | streamedLast {id : SessionId} (h : v.mode = .streams id) {c : AxisRaw}
      (hlast : c.tlast = true) :
      WrpMove v
        { v with
          mode := .between
          count := v.count + extractByteCnt c
          packets := Frame.push v.packets c
          pieces := v.pieces ++ [⟨(id, v.count + extractByteCnt c), v.rest ++ [c]⟩]
          rest := [] }
        { soTOEData := [c], soTOELen := [v.count + extractByteCnt c] }
  | counted (h : v.mode = .counts) {c : AxisRaw}
      (hsum : v.count.toNat + (extractByteCnt c).toNat < 2 ^ 16) {b : Bool}
      (hb : b = decide (v.length ≤ v.count + extractByteCnt c)) :
      WrpMove v
        { v with
          mode := if b then .between else .counts
          count := v.count + extractByteCnt c
          packets := Frame.push v.packets c
          pieces := Frame.push v.pieces { c with tlast := b } }
        { soTOEData := [{ c with tlast := b }] }
  | dropped (h : v.mode = .drops) {c : AxisRaw} {b : Bool}
      (hb : if v.length = 0 then b = c.tlast else
        v.count.toNat + (extractByteCnt c).toNat < 2 ^ 16 ∧
          b = decide (v.length ≤ v.count + extractByteCnt c)) :
      WrpMove v
        { v with
          mode := if b then .between else .drops
          count := v.count + extractByteCnt c
          packets := Frame.push v.packets c } {}

section Cases

variable (s : TcpWrp) (k : WrpCall)

lemma view_of_mode {t : TcpWrp} {m : WrpMode} (h : t.mode = m) :
    t.view =
      ⟨m, t.tcpTXCurrentPacketLength, t.tcpTXPacketLength, t.packets, t.pieces, t.rest⟩ := by
  rw [TcpWrp.view, h]

lemma wrpRoleMeta_move (h : s.mode = .between) (m : NetworkMeta) (metas : List NetworkMeta) :
    WrpMove s.view (wrpRoleMeta s m metas).view {} := by
  rw [wrpRoleMeta]
  dsimp only
  split
  · exact .refuseFirst h m.len
  · split
    · exact .ask h m.len
    · exact .ask h m.len

lemma wrpWaitMeta_move (h : s.mode = .between) :
    WrpMove s.view (wrpWaitMeta s k).1.view (wrpWaitMeta s k).2 := by
  rw [wrpWaitMeta]
  split
  · rw [wrpInvalidate]
    dsimp only
    split
    · exact .stay
    · exact .stay
  · split
    · exact .stream (.inl h) _ rfl
    · split
      · exact wrpRoleMeta_move s h _ _
      · exact .stay

/-- A packet of the ROLE begins. -/
lemma wrpRoleSession_move (h : s.mode = .asks) (i : Fin 10) :
    WrpMove s.view (wrpRoleSession s i).1.view (wrpRoleSession s i).2 := by
  rw [wrpRoleSession]
  dsimp only
  by_cases hlen : s.tcpTXPacketLength = 0
  · rw [if_pos hlen]
    exact .stream (.inr h) s.sessId hlen
  · rw [if_neg hlen]
    exact .announce h hlen s.sessId

lemma wrpConnected_move (h : s.wrpFsmState = .waitConnection) (conRep : NalNewTcpConRep)
    (reps : List NalNewTcpConRep) :
    WrpMove s.view (wrpConnected s conRep reps).1.view (wrpConnected s conRep reps).2 := by
  have hmode : s.mode = .asks := by rw [TcpWrp.mode, h]
  rw [wrpConnected]
  dsimp only
  split
  · exact .refuse hmode
  · have hasks : ({ s with
        sNewTcpConRep := reps
        newTriple := conRep.newTriple
        sessId := conRep.newSessionId } : TcpWrp).mode = .asks := by simp only [TcpWrp.mode, h]
    have hview : ({ s with
        sNewTcpConRep := reps
        newTriple := conRep.newTriple
        sessId := conRep.newSessionId } : TcpWrp).view = s.view := by
      rw [TcpWrp.view, TcpWrp.view, hasks, hmode]
    have hmove := wrpRoleSession_move _ hasks 7
    rw [hview] at hmove
    exact hmove

/-- A chunk without an announced length. -/
lemma wrpStreams_move {id : SessionId} (h : s.mode = .streams id) {c : NetworkWord}
    (hc : StreamChunkOk s c) (split : Bool) :
    WrpMove s.view (wrpStreams s id c split).1.view (wrpStreams s id c split).2 := by
  cases hlast : c.tlast with
  | true =>
      have hword : ({ c with tlast := true } : AxisRaw) = c := by
        cases c
        cases hlast
        rfl
      have hmove := WrpMove.streamedLast (v := s.view) h hlast
      rw [wrpStreams]
      simp only [hlast, Bool.not_true, Bool.false_and, Bool.true_or, if_true, hword]
      exact hmove
  | false =>
      have hshort := hc.resolve_left (by rw [hlast]; decide)
      have hsplit : nalStreamingSplitTcp ≤ 2 ^ 16 := by decide
      have hlong :
          ¬nalStreamingSplitTcp ≤ (s.tcpTXCurrentPacketLength + extractByteCnt c).toNat := by
        rw [BitVec.toNat_add]
        omega
      have hword : ({ c with tlast := false } : AxisRaw) = c := by
        cases c
        cases hlast
        rfl
      have hmove := WrpMove.streamed (v := s.view) h hlast hshort
      rw [wrpStreams]
      simp only [hlast, decide_eq_false hlong, Bool.not_false, Bool.and_false, Bool.false_and,
        Bool.or_false, Bool.false_eq_true, if_false, hword]
      exact hmove

lemma wrpCounts_move (h : s.wrpFsmState = .streamRole) (hmode : s.streamingMode = false)
    {c : NetworkWord} (hc : CountChunkOk s c) :
    WrpMove s.view (wrpCounts s c).1.view (wrpCounts s c).2 := by
  have hcounts : s.mode = .counts := by rw [TcpWrp.mode, h, hmode, if_neg Bool.false_ne_true]
  have hmove := WrpMove.counted (v := s.view) hcounts hc (b := Reaches s c) rfl
  have hview : (wrpCounts s c).1.mode = if Reaches s c then .between else .counts := by
    rw [wrpCounts, TcpWrp.mode]
    cases Reaches s c with
    | true => rfl
    | false => simp [hmode]
  rw [view_of_mode hview]
  exact hmove

lemma wrpStreamFmc_move (h : s.wrpFsmState = .streamFmc) {c : NetworkWord}
    (hc : StreamChunkOk s c) (data : List NetworkWord) :
    WrpMove s.view (wrpStreamFmc s c data).1.view (wrpStreamFmc s c data).2 := by
  have hmode : s.mode = .streams s.tcpSessId := by rw [TcpWrp.mode, h]
  have hmode' : ({ s with siFMCData := data } : TcpWrp).mode = .streams s.tcpSessId := by
    simp only [TcpWrp.mode, h]
  have hmove := wrpStreams_move _ hmode' hc false
  rw [view_of_mode hmode'] at hmove
  rw [view_of_mode hmode]
  exact hmove

lemma wrpStreamRole_move (h : s.wrpFsmState = .streamRole) {c : NetworkWord}
    (hc : if s.streamingMode then StreamChunkOk s c else CountChunkOk s c)
    (data : List NetworkWord) :
    WrpMove s.view (wrpStreamRole s c data).1.view (wrpStreamRole s c data).2 := by
  rw [wrpStreamRole]
  dsimp only
  split
  · rw [if_pos ‹_›] at hc
    have hmode : s.mode = .streams s.sessId := by rw [TcpWrp.mode, h, if_pos ‹_›]
    have hmode' : ({ s with siTcpData := data } : TcpWrp).mode = .streams s.sessId := by
      rw [TcpWrp.mode, h, if_pos ‹_›]
    have hmove := wrpStreams_move _ hmode' hc true
    rw [view_of_mode hmode'] at hmove
    rw [view_of_mode hmode]
    exact hmove
  · rw [if_neg ‹_›] at hc
    have hcount : s.streamingMode = false := Bool.eq_false_iff.mpr ‹_›
    have hmode : s.mode = .counts := by rw [TcpWrp.mode, h, if_neg ‹_›]
    have hmode' : ({ s with siTcpData := data } : TcpWrp).mode = .counts := by
      rw [TcpWrp.mode, h, if_neg ‹_›]
    have hmove := wrpCounts_move { s with siTcpData := data } h hcount hc
    rw [view_of_mode hmode'] at hmove
    rw [view_of_mode hmode]
    exact hmove

lemma wrpDropPacket_move (h : s.wrpFsmState = .dropPacket) {c : NetworkWord}
    (hc : DropChunkOk s c) (data : List NetworkWord) :
    WrpMove s.view (wrpDropPacket s c data).view {} := by
  have hdrops : s.mode = .drops := by rw [TcpWrp.mode, h]
  have hends : if s.tcpTXPacketLength = 0 then
        ((decide (0 < s.tcpTXPacketLength) && Reaches s c) || c.tlast) = c.tlast
      else CountChunkOk s c ∧
        ((decide (0 < s.tcpTXPacketLength) && Reaches s c) || c.tlast) = Reaches s c := by
    by_cases hlen : s.tcpTXPacketLength = 0
    · rw [if_pos hlen, hlen]
      rfl
    · obtain ⟨hsum, hlast⟩ := hc hlen
      have hpos : 0 < s.tcpTXPacketLength := (BitVec.pos_iff_ne_zero _).mpr hlen
      rw [if_neg hlen, decide_eq_true hpos, Bool.true_and]
      refine ⟨hsum, ?_⟩
      cases hend : c.tlast with
      | true => rw [Bool.or_true, hlast hend]
      | false => rw [Bool.or_false]
  have hmove := WrpMove.dropped (v := s.view) hdrops hends
  have hview : (wrpDropPacket s c data).mode =
      if (decide (0 < s.tcpTXPacketLength) && Reaches s c) || c.tlast then .between
      else .drops := by
    rw [wrpDropPacket, TcpWrp.mode]
    cases (decide (0 < s.tcpTXPacketLength) && Reaches s c) || c.tlast with
    | true => rfl
    | false => rfl
  rw [view_of_mode hview]
  exact hmove

/-- Under its condition, a call changes the view by one of these moves. -/
theorem wrpFsm_move (hok : WrpCallOk s k s.wrpFsmState) :
    WrpMove s.view (wrpFsm s k).1.view (wrpFsm s k).2 := by
  -- a state with the same mode has the same view if only other registers differ
  have hstay {t : TcpWrp} (hmode : t.mode = s.mode)
      (hcount : t.tcpTXCurrentPacketLength = s.tcpTXCurrentPacketLength)
      (hlength : t.tcpTXPacketLength = s.tcpTXPacketLength) (hpackets : t.packets = s.packets)
      (hpieces : t.pieces = s.pieces) (hrest : t.rest = s.rest) : WrpMove s.view t.view {} := by
    have hview : t.view = s.view := by
      rw [TcpWrp.view, TcpWrp.view, hmode, hcount, hlength, hpackets, hpieces, hrest]
    rw [hview]
    exact .stay
  rw [wrpFsm]
  cases hst : s.wrpFsmState with
  | reset =>
      have hmode : s.mode = .between := by rw [TcpWrp.mode, hst]
      dsimp only
      rw [wrpReset]
      split
      · exact hstay hmode.symm rfl rfl rfl rfl rfl
      · exact hstay (by simp only [TcpWrp.mode]) rfl rfl rfl rfl rfl
  | waitMeta =>
      have hmode : s.mode = .between := by rw [TcpWrp.mode, hst]
      dsimp only
      split
      · exact wrpWaitMeta_move s k hmode
      · exact hstay hmode.symm rfl rfl rfl rfl rfl
  | w8ForReqs1 =>
      have hmode : s.mode = .asks := by rw [TcpWrp.mode, hst]
      dsimp only
      rw [wrpW8ForReqs1]
      split
      · exact hstay hmode.symm rfl rfl rfl rfl rfl
      · exact .stay
  | w8ForReqs11 =>
      have hmode : s.mode = .asks := by rw [TcpWrp.mode, hst]
      dsimp only
      split
      · rw [wrpW8ForReqs11]
        dsimp only
        split
        · exact .refuse hmode
        · split
          · exact hstay hmode.symm rfl rfl rfl rfl rfl
          · exact hstay hmode.symm rfl rfl rfl rfl rfl
      · exact .stay
  | w8ForReqs2 =>
      have hmode : s.mode = .asks := by rw [TcpWrp.mode, hst]
      dsimp only
      rw [wrpW8ForReqs2]
      split
      · exact hstay hmode.symm rfl rfl rfl rfl rfl
      · exact .stay
  | w8ForReqs22 =>
      have hmode : s.mode = .asks := by rw [TcpWrp.mode, hst]
      rw [hst, WrpCallOk] at hok
      dsimp only
      rw [if_pos hok]
      split
      · rw [wrpW8ForReqs22]
        split
        · exact hstay hmode.symm rfl rfl rfl rfl rfl
        · exact wrpRoleSession_move s hmode 3
      · exact .stay
  | waitConnection =>
      rw [hst, WrpCallOk] at hok
      dsimp only
      rw [if_pos hok]
      split
      · split
        · exact wrpConnected_move s hst _ _
        · exact .stay
      · exact .stay
  | streamFmc =>
      rw [hst, WrpCallOk] at hok
      dsimp only
      rw [if_pos hok.1]
      split
      · split
        · exact wrpStreamFmc_move s hst (hok.2 _ (by simp [*])) _
        · exact .stay
      · exact .stay
  | streamRole =>
      rw [hst, WrpCallOk] at hok
      dsimp only
      rw [if_pos hok.1]
      split
      · split
        · exact wrpStreamRole_move s hst (hok.2 _ (by simp [*])) _
        · exact .stay
      · exact .stay
  | dropPacket =>
      rw [hst, WrpCallOk] at hok
      dsimp only
      rw [if_pos hok.1]
      split
      · exact wrpDropPacket_move s hst (hok.2 _ (by simp [*])) _
      · exact .stay

end Cases

/-! ### The invariant of `pTcpWRp` -/

abbrev PiecesEnded (fs : List WrpPiece) : Prop := Frame.Ended AxisRaw.tlast fs

abbrev PieceCurrent (fs : List WrpPiece) (t : WrpPiece) : Prop :=
  Frame.Current AxisRaw.tlast fs t

/-- A piece ends where its length is reached, and the counters do not overflow. -/
def PieceOk (f : WrpPiece) : Prop :=
  ∀ cs c, cs ++ [c] <+: f.body → cntSum (cs ++ [c]) < 2 ^ 16 ∧
    (c.tlast = true ↔ f.head.2.toNat ≤ cntSum (cs ++ [c]))

/-- The packets and pieces in each mode. -/
def ViewPhase (v : WrpView) : Prop :=
  match v.mode with
  | .between => PiecesEnded v.pieces ∧ v.rest = [] ∧ ∀ p ∈ v.packets, Delimited p
  | .asks => v.count = 0 ∧ PiecesEnded v.pieces ∧ v.rest = [] ∧ ∀ p ∈ v.packets, Delimited p
  | .streams id => PiecesEnded v.pieces ∧ (∀ c ∈ v.rest, c.tlast = false) ∧
      cntSum v.rest = v.count.toNat ∧ v.count.toNat < nalStreamingSplitTcp ∧
      ∃ ps, v.packets = ps ++ [⟨(some id, 0), v.rest⟩] ∧ ∀ p ∈ ps, Delimited p
  | .counts => v.length ≠ 0 ∧ v.rest = [] ∧ v.count.toNat < v.length.toNat ∧
      ∃ t, PieceCurrent v.pieces t ∧ t.head.2 = v.length ∧ cntSum t.body = v.count.toNat ∧
        ∃ ps body, v.packets = ps ++ [⟨(some t.head.1, v.length), body⟩] ∧
          body.map AxisRaw.lanes = t.body.map AxisRaw.lanes ∧ ∀ p ∈ ps, Delimited p
  | .drops => PiecesEnded v.pieces ∧ v.rest = [] ∧
      ∃ ps body, v.packets = ps ++ [⟨(none, v.length), body⟩] ∧ (∀ p ∈ ps, Delimited p) ∧
        if v.length = 0 then ∀ c ∈ body, c.tlast = false
        else cntSum body = v.count.toNat ∧ v.count.toNat < v.length.toNat

structure ViewInv (v : WrpView) : Prop where
  pieceOk : ∀ f ∈ v.pieces, PieceOk f
  cut : v.cut = accepted v.packets
  phase : ViewPhase v

section View

variable {v v' : WrpView} {out : WrpOut}

lemma accepted_start (ps : List WrpPacket) (h : Option SessionId × NetworkDataLength) :
    accepted (Frame.start ps h) = accepted ps := by
  rw [accepted, Frame.start, List.flatMap_append, List.flatMap_singleton]
  cases h.1 with
  | none => exact List.append_nil _
  | some id => exact List.append_nil _

lemma accepted_push {ps : List WrpPacket} {p : WrpPacket} (c : AxisRaw) :
    accepted (Frame.push (ps ++ [p]) c) =
      accepted (ps ++ [p]) ++ (p.head.1.map fun id => [(id, c.lanes)]).getD [] := by
  rw [Frame.push_append]
  simp only [accepted, List.flatMap_append, List.flatMap_singleton, List.append_assoc]
  cases p.head.1 with
  | none => rfl
  | some id => simp [forSession]

lemma pieceLanes_push {fs : List WrpPiece} {t : WrpPiece} (ht : PieceCurrent fs t) (c : AxisRaw) :
    pieceLanes (Frame.push fs c) = pieceLanes fs ++ [(t.head.1, c.lanes)] := by
  obtain ⟨pre, rfl, -⟩ := ht
  simp [Frame.push_append, pieceLanes, forSession]

lemma toNat_add_extract {n : NetworkDataLength} {c : AxisRaw}
    (h : n.toNat + (extractByteCnt c).toNat < 2 ^ 16) :
    (n + extractByteCnt c).toNat = n.toNat + (extractByteCnt c).toNat := by
  rw [BitVec.toNat_add, Nat.mod_eq_of_lt h]

/-- The packets after a chunk of the last one. -/
lemma push_packets {ps : List WrpPacket} {h : Option SessionId × NetworkDataLength}
    {body : List AxisRaw} {packets : List WrpPacket} (hps : packets = ps ++ [⟨h, body⟩])
    (c : AxisRaw) : Frame.push packets c = ps ++ [⟨h, body ++ [c]⟩] := by
  rw [hps, Frame.push_append]

/-- All packets are delimited after the last chunk of the last one. -/
lemma delimited_append {ps : List WrpPacket} (hps : ∀ p ∈ ps, Delimited p) {q : WrpPacket}
    (hq : Delimited q) : ∀ p ∈ ps ++ [q], Delimited p := by
  intro p hp
  rcases List.mem_append.mp hp with hp | hp
  · exact hps p hp
  · rw [List.mem_singleton.mp hp]
    exact hq

/-- A packet that ends where its announced length is reached. -/
lemma delimited_of_length {h : Option SessionId × NetworkDataLength} {body : List AxisRaw}
    {c : AxisRaw} (hlen : h.2 ≠ 0) (hbefore : cntSum body < h.2.toNat)
    (hreach : h.2.toNat ≤ cntSum body + (extractByteCnt c).toNat) :
    Delimited ⟨h, body ++ [c]⟩ := by
  rw [Delimited, if_neg hlen]
  simp only [cntSum_append, cntSum_singleton, List.dropLast_concat]
  exact ⟨hreach, hbefore⟩

/-- A packet without an announced length, which ends with `tlast`. -/
lemma delimited_of_last {h : Option SessionId × NetworkDataLength} {body : List AxisRaw}
    {c : AxisRaw} (hlen : h.2 = 0) (hbody : ∀ x ∈ body, x.tlast = false) (hc : c.tlast = true) :
    Delimited ⟨h, body ++ [c]⟩ := by
  rw [Delimited, if_pos hlen]
  exact Frame.Open.complete (f := ⟨h, body⟩) hbody hc

lemma cntSum_congr {cs ds : List AxisRaw} (h : cs.map AxisRaw.lanes = ds.map AxisRaw.lanes) :
    cntSum cs = cntSum ds := by
  induction cs generalizing ds with
  | nil =>
      rw [List.map_nil, eq_comm, List.map_eq_nil_iff] at h
      rw [h]
  | cons c cs ih =>
      cases ds with
      | nil => cases h
      | cons d ds =>
          obtain ⟨hlanes, hrest⟩ := List.cons.inj h
          have hlen : c.getLen = d.getLen := by rw [AxisRaw.getLen, hlanes, AxisRaw.getLen]
          have hsum := ih hrest
          simp only [cntSum, List.map_cons, List.sum_cons] at hsum ⊢
          rw [extractByteCnt, hlen, hsum, extractByteCnt]

/-- A prefix of a list with one item more is one of the list, or it is all of it. -/
lemma prefix_concat_cases {α : Type*} {xs ys : List α} {x y : α}
    (h : xs ++ [x] <+: ys ++ [y]) : xs ++ [x] <+: ys ∨ xs = ys ∧ x = y := by
  rcases List.prefix_concat_iff.mp h with heq | hpre
  · obtain ⟨hxs, hx⟩ := List.append_inj' heq rfl
    exact .inr ⟨hxs, by simpa using hx⟩
  · exact .inl hpre

/-- A chunk is added to the current piece. -/
lemma pieceOk_push {fs : List WrpPiece} {t : WrpPiece} (ht : PieceCurrent fs t)
    (hfs : ∀ f ∈ fs, PieceOk f) {c : AxisRaw}
    (hsum : cntSum t.body + (extractByteCnt c).toNat < 2 ^ 16)
    (hc : c.tlast = true ↔ t.head.2.toNat ≤ cntSum t.body + (extractByteCnt c).toNat) :
    ∀ f ∈ Frame.push fs c, PieceOk f := by
  intro f hf
  rcases ht.mem_push hf with hf | rfl
  · exact hfs f hf
  · intro cs d hcs
    rcases prefix_concat_cases hcs with hcs | ⟨rfl, rfl⟩
    · exact hfs t ht.mem cs d hcs
    · rw [cntSum_append, cntSum_singleton]
      exact ⟨hsum, hc⟩

/-- A piece that ends with its only `tlast`, whose length is the number of its bytes. -/
lemma pieceOk_of_sum {id : SessionId} {len : TcpDatLen} {body : List AxisRaw} {c : AxisRaw}
    (hbody : ∀ x ∈ body, x.tlast = false) (hc : c.tlast = true)
    (hlen : len.toNat = cntSum body + (extractByteCnt c).toNat) :
    PieceOk ⟨(id, len), body ++ [c]⟩ := by
  have hlt : len.toNat < 2 ^ 16 := len.isLt
  intro cs d hcs
  rcases prefix_concat_cases hcs with hcs | ⟨rfl, rfl⟩
  · -- before the end the length is not reached, because the last chunk counts as well
    have hd : d.tlast = false := hbody d (hcs.subset (by simp))
    have hle : cntSum (cs ++ [d]) ≤ cntSum body := by
      obtain ⟨suf, rfl⟩ := hcs
      simp only [cntSum_append]
      omega
    have hpos := extractByteCnt_pos c
    rw [hd]
    simp only [Bool.false_eq_true, false_iff, not_le]
    omega
  · rw [cntSum_append, cntSum_singleton]
    exact ⟨by omega, iff_of_true hc hlen.le⟩

lemma ViewInv.streamed (h : ViewInv v) {id : SessionId} (hmode : v.mode = .streams id)
    {c : AxisRaw} (hlast : c.tlast = false)
    (hshort : v.count.toNat + (extractByteCnt c).toNat < nalStreamingSplitTcp) :
    ViewInv { v with
      count := v.count + extractByteCnt c
      packets := Frame.push v.packets c
      rest := v.rest ++ [c] } := by
  have hphase := h.phase
  rw [ViewPhase, hmode] at hphase
  obtain ⟨hpieces, hrest, hsum, -, ps, hps, hdel⟩ := hphase
  have hsplit : nalStreamingSplitTcp ≤ 2 ^ 16 := by decide
  have hcount := toNat_add_extract (hshort.trans_le hsplit)
  refine ⟨h.pieceOk, ?_, ?_⟩
  · have hcut := h.cut
    rw [WrpView.cut, hmode] at hcut ⊢
    dsimp only
    rw [hps, accepted_push, ← hps, ← hcut]
    simp [WrpMode.session, forSession]
  · rw [ViewPhase]
    dsimp only
    rw [hmode]
    refine ⟨hpieces, ?_, ?_, by rw [hcount]; exact hshort, ps, push_packets hps c, hdel⟩
    · intro x hx
      rcases List.mem_append.mp hx with hx | hx
      · exact hrest x hx
      · rw [List.mem_singleton.mp hx]
        exact hlast
    · rw [cntSum_append, cntSum_singleton, hsum, hcount]

lemma ViewInv.streamedLast (h : ViewInv v) {id : SessionId} (hmode : v.mode = .streams id)
    {c : AxisRaw} (hlast : c.tlast = true) :
    ViewInv { v with
      mode := .between
      count := v.count + extractByteCnt c
      packets := Frame.push v.packets c
      pieces := v.pieces ++ [⟨(id, v.count + extractByteCnt c), v.rest ++ [c]⟩]
      rest := [] } := by
  have hphase := h.phase
  rw [ViewPhase, hmode] at hphase
  obtain ⟨hpieces, hrest, hsum, hcnt, ps, hps, hdel⟩ := hphase
  have hle := extractByteCnt_le c
  have hsplit : nalStreamingSplitTcp + 8 ≤ 2 ^ 16 := by decide
  have hcount : (v.count + extractByteCnt c).toNat = v.count.toNat + (extractByteCnt c).toNat :=
    toNat_add_extract (by omega)
  refine ⟨?_, ?_, ?_, rfl, ?_⟩
  · intro f hf
    rcases List.mem_append.mp hf with hf | hf
    · exact h.pieceOk f hf
    · rw [List.mem_singleton.mp hf]
      exact pieceOk_of_sum hrest hlast (by rw [hcount, hsum])
  · have hcut := h.cut
    rw [WrpView.cut, hmode] at hcut
    rw [WrpView.cut]
    dsimp only
    rw [hps, accepted_push, ← hps, ← hcut]
    simp [WrpMode.session, forSession, pieceLanes]
  · intro f hf
    rcases List.mem_append.mp hf with hf | hf
    · exact hpieces f hf
    · rw [List.mem_singleton.mp hf]
      exact Frame.Open.complete (f := ⟨(id, v.count + extractByteCnt c), v.rest⟩) hrest hlast
  · dsimp only
    rw [push_packets hps]
    exact delimited_append hdel (delimited_of_last rfl hrest hlast)

lemma ViewInv.counted (h : ViewInv v) (hmode : v.mode = .counts) {c : AxisRaw}
    (hsum : v.count.toNat + (extractByteCnt c).toNat < 2 ^ 16) {b : Bool}
    (hb : b = decide (v.length ≤ v.count + extractByteCnt c)) :
    ViewInv { v with
      mode := if b then .between else .counts
      count := v.count + extractByteCnt c
      packets := Frame.push v.packets c
      pieces := Frame.push v.pieces { c with tlast := b } } := by
  have hphase := h.phase
  rw [ViewPhase, hmode] at hphase
  obtain ⟨hlen, hrest, hcnt, t, ht, hhead, hbody, ps, body, hps, hlanes, hdel⟩ := hphase
  have hcount := toNat_add_extract hsum
  have hreach : b = true ↔ v.length.toNat ≤ v.count.toNat + (extractByteCnt c).toNat := by
    rw [hb, decide_eq_true_iff, BitVec.le_def, hcount]
  have hbytes : cntSum body = v.count.toNat := (cntSum_congr hlanes).trans hbody
  -- the chunk counts the same with another `tlast`
  have hext : extractByteCnt { c with tlast := b } = extractByteCnt c := rfl
  have hcut : pieceLanes (Frame.push v.pieces { c with tlast := b }) =
      accepted (Frame.push v.packets c) := by
    have hcut := h.cut
    rw [WrpView.cut, hmode] at hcut
    have hold : pieceLanes v.pieces = accepted v.packets := by
      simpa [WrpMode.session] using hcut
    rw [pieceLanes_push ht, hold, hps, accepted_push]
    rfl
  refine ⟨?_, ?_, ?_⟩
  · refine pieceOk_push ht h.pieceOk ?_ ?_
    · rw [hext, hbody]
      exact hsum
    · rw [hext, hbody, hhead]
      exact hreach
  · rw [WrpView.cut]
    dsimp only
    rw [hcut]
    cases b with
    | true => exact List.append_nil _
    | false => exact List.append_nil _
  · rw [ViewPhase]
    cases b with
    | true =>
        refine ⟨ht.push_last rfl, hrest, ?_⟩
        dsimp only
        rw [push_packets hps]
        exact delimited_append hdel (delimited_of_length hlen (by rw [hbytes]; exact hcnt)
          (by rw [hbytes]; exact hreach.mp rfl))
    | false =>
        have hbelow : ¬v.length.toNat ≤ v.count.toNat + (extractByteCnt c).toNat := by
          rw [← hreach]
          nofun
        refine ⟨hlen, hrest, ?_, _, ht.push rfl, hhead, ?_, ps, _, push_packets hps c, ?_, hdel⟩
        · dsimp only
          omega
        · rw [cntSum_append, cntSum_singleton, hbody, hext, hcount]
        · simp [hlanes]

lemma ViewInv.dropped (h : ViewInv v) (hmode : v.mode = .drops) {c : AxisRaw} {b : Bool}
    (hb : if v.length = 0 then b = c.tlast else
      v.count.toNat + (extractByteCnt c).toNat < 2 ^ 16 ∧
        b = decide (v.length ≤ v.count + extractByteCnt c)) :
    ViewInv { v with
      mode := if b then .between else .drops
      count := v.count + extractByteCnt c
      packets := Frame.push v.packets c } := by
  have hphase := h.phase
  rw [ViewPhase, hmode] at hphase
  obtain ⟨hpieces, hrest, ps, body, hps, hdel, hbody⟩ := hphase
  refine ⟨h.pieceOk, ?_, ?_⟩
  · have hcut := h.cut
    rw [WrpView.cut, hmode] at hcut
    have hold : pieceLanes v.pieces = accepted v.packets := by
      simpa [WrpMode.session] using hcut
    rw [WrpView.cut]
    dsimp only
    rw [hold, hps, accepted_push]
    cases b with
    | true => rfl
    | false => rfl
  · rw [ViewPhase]
    by_cases hlen : v.length = 0
    · rw [if_pos hlen] at hb hbody
      cases hend : b with
      | true =>
          refine ⟨hpieces, hrest, ?_⟩
          dsimp only
          rw [push_packets hps]
          exact delimited_append hdel (delimited_of_last hlen hbody (hb.symm.trans hend))
      | false =>
          refine ⟨hpieces, hrest, ps, _, push_packets hps c, hdel, ?_⟩
          dsimp only
          rw [if_pos hlen]
          intro x hx
          rcases List.mem_append.mp hx with hx | hx
          · exact hbody x hx
          · rw [List.mem_singleton.mp hx]
            exact hb.symm.trans hend
    · rw [if_neg hlen] at hb hbody
      obtain ⟨hsum, hb⟩ := hb
      have hcount := toNat_add_extract hsum
      have hreach : b = true ↔ v.length.toNat ≤ v.count.toNat + (extractByteCnt c).toNat := by
        rw [hb, decide_eq_true_iff, BitVec.le_def, hcount]
      cases hend : b with
      | true =>
          refine ⟨hpieces, hrest, ?_⟩
          dsimp only
          rw [push_packets hps]
          exact delimited_append hdel (delimited_of_length hlen (by rw [hbody.1]; exact hbody.2)
            (by rw [hbody.1]; exact hreach.mp hend))
      | false =>
          have hbelow : ¬v.length.toNat ≤ v.count.toNat + (extractByteCnt c).toNat := by
            rw [← hreach, hend]
            nofun
          refine ⟨hpieces, hrest, ps, _, push_packets hps c, hdel, ?_⟩
          dsimp only
          rw [if_neg hlen, cntSum_append, cntSum_singleton, hbody.1, hcount]
          exact ⟨rfl, by omega⟩

/-- The moves of `pTcpWRp` keep its invariant. -/
lemma ViewInv.move (h : ViewInv v) (hmove : WrpMove v v' out) : ViewInv v' := by
  have hcut := h.cut
  have hphase := h.phase
  rw [WrpView.cut] at hcut
  rw [ViewPhase] at hphase
  cases hmove with
  | stay => exact h
  | ask hmode l =>
      rw [hmode] at hcut hphase
      exact ⟨h.pieceOk, hcut, rfl, hphase⟩
  | refuse hmode =>
      rw [hmode] at hcut hphase
      obtain ⟨hcount, hpieces, hrest, hdel⟩ := hphase
      refine ⟨h.pieceOk, (accepted_start _ _).symm ▸ hcut, hpieces, hrest, v.packets, [], rfl,
        hdel, ?_⟩
      dsimp only
      split
      · nofun
      · rw [hcount]
        exact ⟨rfl, Nat.pos_of_ne_zero fun h0 => ‹¬_› (BitVec.eq_of_toNat_eq h0)⟩
  | refuseFirst hmode l =>
      rw [hmode] at hcut hphase
      obtain ⟨hpieces, hrest, hdel⟩ := hphase
      refine ⟨h.pieceOk, (accepted_start _ _).symm ▸ hcut, hpieces, hrest, v.packets, [], rfl,
        hdel, ?_⟩
      dsimp only
      split
      · nofun
      · exact ⟨rfl, Nat.pos_of_ne_zero fun h0 => ‹¬_› (BitVec.eq_of_toNat_eq h0)⟩
  | stream hmode id hl =>
      have hold : pieceLanes v.pieces = accepted v.packets ∧ PiecesEnded v.pieces ∧
          v.rest = [] ∧ ∀ p ∈ v.packets, Delimited p := by
        rcases hmode with hmode | hmode
        · rw [hmode] at hcut hphase
          exact ⟨by simpa [WrpMode.session] using hcut, hphase⟩
        · rw [hmode] at hcut hphase
          exact ⟨by simpa [WrpMode.session] using hcut, hphase.2⟩
      obtain ⟨hcut, hpieces, hrest, hdel⟩ := hold
      subst hl
      have hpos : 0 < nalStreamingSplitTcp := by decide
      refine ⟨h.pieceOk, ?_, hpieces, ?_, ?_, hpos, v.packets, ?_, hdel⟩
      · rw [accepted_start, ← hcut, WrpView.cut, hrest]
        simp [WrpMode.session, forSession]
      · rw [hrest]
        nofun
      · rw [hrest]
        rfl
      · rw [hrest]
        rfl
  | announce hmode hlen id =>
      rw [hmode] at hcut hphase
      obtain ⟨hcount, hpieces, hrest, hdel⟩ := hphase
      refine ⟨?_, ?_, hlen, hrest, ?_, ⟨(id, v.length), []⟩, hpieces.start, rfl, rfl, v.packets, [],
        rfl, rfl, hdel⟩
      · intro f hf
        rcases List.mem_append.mp hf with hf | hf
        · exact h.pieceOk f hf
        · rw [List.mem_singleton.mp hf]
          intro cs c hcs
          have hlength := hcs.length_le
          simp at hlength
      · rw [accepted_start, ← hcut, WrpView.cut]
        simp [WrpMode.session, pieceLanes, Frame.start, forSession]
      · exact Nat.pos_of_ne_zero fun h0 => hlen (BitVec.eq_of_toNat_eq h0)
  | streamed hmode hlast hshort => exact h.streamed hmode hlast hshort
  | streamedLast hmode hlast => exact h.streamedLast hmode hlast
  | counted hmode hsum hb => exact h.counted hmode hsum hb
  | dropped hmode hb => exact h.dropped hmode hb

lemma ViewInv.framed (h : ViewInv v) : Frame.Framed AxisRaw.tlast v.pieces := by
  have hphase := h.phase
  rw [ViewPhase] at hphase
  cases hmode : v.mode with
  | between =>
      rw [hmode] at hphase
      exact hphase.1.framed
  | asks =>
      rw [hmode] at hphase
      exact hphase.2.1.framed
  | streams id =>
      rw [hmode] at hphase
      exact hphase.1.framed
  | counts =>
      rw [hmode] at hphase
      obtain ⟨-, -, -, t, ht, -⟩ := hphase
      exact ht.framed
  | drops =>
      rw [hmode] at hphase
      exact hphase.1.framed

/-- The last piece is open only if nothing follows the pieces. -/
lemma ViewInv.ended_or_rest (h : ViewInv v) : PiecesEnded v.pieces ∨ v.rest = [] := by
  have hphase := h.phase
  rw [ViewPhase] at hphase
  cases hmode : v.mode with
  | between =>
      rw [hmode] at hphase
      exact .inl hphase.1
  | asks =>
      rw [hmode] at hphase
      exact .inl hphase.2.1
  | streams id =>
      rw [hmode] at hphase
      exact .inl hphase.1
  | counts =>
      rw [hmode] at hphase
      exact .inr hphase.2.1
  | drops =>
      rw [hmode] at hphase
      exact .inl hphase.1

/-- Outside a packet, and where there is an announced length, nothing follows the pieces. -/
lemma ViewInv.rest_eq_nil (h : ViewInv v) (hmode : v.mode.session = []) : v.rest = [] := by
  have hphase := h.phase
  rw [ViewPhase] at hphase
  cases hcase : v.mode with
  | between =>
      rw [hcase] at hphase
      exact hphase.2.1
  | asks =>
      rw [hcase] at hphase
      exact hphase.2.2.1
  | streams id =>
      rw [hcase] at hmode
      cases hmode
  | counts =>
      rw [hcase] at hphase
      exact hphase.2.1
  | drops =>
      rw [hcase] at hphase
      exact hphase.2.1

/-- Only the packet in progress may not have its end yet. -/
lemma ViewInv.delimited (h : ViewInv v) {p : WrpPacket} (hp : p ∈ v.packets) :
    Delimited p ∨ v.mode.within = true ∧ p ∈ v.packets.getLast? := by
  have hphase := h.phase
  rw [ViewPhase] at hphase
  have hlast {ps : List WrpPacket} {q : WrpPacket} (hps : v.packets = ps ++ [q])
      (hdel : ∀ p ∈ ps, Delimited p) : Delimited p ∨ p ∈ v.packets.getLast? := by
    rw [hps] at hp ⊢
    rcases List.mem_append.mp hp with hp | hp
    · exact .inl (hdel p hp)
    · rw [List.mem_singleton.mp hp]
      exact .inr (by simp)
  cases hmode : v.mode with
  | between =>
      rw [hmode] at hphase
      exact .inl (hphase.2.2 p hp)
  | asks =>
      rw [hmode] at hphase
      exact .inl (hphase.2.2.2 p hp)
  | streams id =>
      rw [hmode] at hphase
      obtain ⟨-, -, -, -, ps, hps, hdel⟩ := hphase
      exact (hlast hps hdel).imp_right fun hmem => ⟨rfl, hmem⟩
  | counts =>
      rw [hmode] at hphase
      obtain ⟨-, -, -, t, -, -, -, ps, body, hps, -, hdel⟩ := hphase
      exact (hlast hps hdel).imp_right fun hmem => ⟨rfl, hmem⟩
  | drops =>
      rw [hmode] at hphase
      obtain ⟨-, -, ps, body, hps, hdel, -⟩ := hphase
      exact (hlast hps hdel).imp_right fun hmem => ⟨rfl, hmem⟩

end View

end CloudFpga.Nal
