import CloudFpga.Uoe.TxDelivery

/-!
The law of the Tx engine of the UOE: what IPTX gets when the application sends some messages.

* `Tai.Reading`, `Tai.Ending`: the registers of `pTxApplicationInterface` in a message.
* `pieces`: the datagrams of what is left of a message, of which some chunks are forwarded already.
* `message_delivered`, `messages_delivered`: one run of the processes, with all packets at IPTX.
* `txEngine_law`: every order of the calls.
-/

namespace CloudFpga.Uoe

open Foundation AxisRaw Toe

/-! ### `pTxApplicationInterface` -/

/-- The registers have nothing of the streams. -/
structure Tai.Bare (s : Tai) : Prop where
  soTdhData : s.soTdhData = []
  soTdhMeta : s.soTdhMeta = []
  soTdhDLen : s.soTdhDLen = []

/-- The process reads the next chunk of a datagram that has `n` chunks. -/
structure Tai.Reading (s : Tai) (m : Message) (rest : List AxisRaw) (n : ℕ) : Prop
    extends s.Bare where
  state : s.taiFsmState = if m.appDLen = 0 then .strmData else .drgmData
  appMeta : s.taiAppMeta = m.appMeta
  left : m.appDLen ≠ 0 → s.taiAppDLen = BitVec.ofNat 16 (streamBytes rest).length ∧
    (streamBytes rest).length < 2 ^ 16
  chunks : Chunks (m.appDLen = 0) rest
  room : n < mdsChunks
  splitCnt : s.taiSplitCnt = BitVec.ofNat 16 (8 * n)
  streamMode : m.appDLen = 0 → s.taiStreamMode = true

/-- The process is going to emit the meta-data of a datagram of `n` bytes. -/
structure Tai.Ending (s : Tai) (m : Message) (rest : List AxisRaw) (n : ℕ) : Prop
    extends s.Bare where
  state : s.taiFsmState = if m.appDLen = 0 then .strmMeta else .drgmMeta
  appMeta : s.taiAppMeta = m.appMeta
  left : m.appDLen ≠ 0 → s.taiAppDLen = BitVec.ofNat 16 (streamBytes rest).length ∧
    (streamBytes rest).length < 2 ^ 16
  chunks : rest ≠ [] → Chunks (m.appDLen = 0) rest
  splitCnt : s.taiSplitCnt = BitVec.ofNat 16 n
  streamMode : m.appDLen = 0 → s.taiStreamMode = decide (rest ≠ [])

section Registers

variable {s : Tai} {m : Message} {c : AxisRaw} {cs rest : List AxisRaw} {n : ℕ}

namespace Tai.Reading

lemma splitCnt_push (h : s.Reading m (c :: cs) n) :
    s.taiSplitCnt + BitVec.ofNat 16 c.getLen = BitVec.ofNat 16 (8 * n + c.bytes.length) := by
  rw [h.splitCnt, h.chunks.head.2.1, BitVec.ofNat_add]

lemma full_iff (h : s.Reading m (c :: cs) n) (hne : cs ≠ []) : Full s c ↔ n + 1 = mdsChunks := by
  have hroom := h.room
  have hmds : udpMds = 8 * mdsChunks ∧ mdsChunks = 177 := ⟨rfl, rfl⟩
  rw [Full, h.splitCnt_push, BitVec.toNat_ofNat, h.chunks.head.2.2.2.2 hne,
    Nat.mod_eq_of_lt (by omega)]
  omega

/-- What is left of a message in datagram mode. -/
lemma left_push (h : s.Reading m (c :: cs) n) (hm : m.appDLen ≠ 0) :
    s.taiAppDLen - BitVec.ofNat 16 c.getLen = BitVec.ofNat 16 (streamBytes cs).length ∧
      (streamBytes cs).length < 2 ^ 16 := by
  obtain ⟨hleft, hlt⟩ := h.left hm
  rw [streamBytes_cons, List.length_append] at hleft hlt
  refine ⟨?_, by omega⟩
  rw [hleft, h.chunks.head.2.1, Nat.add_comm, BitVec.ofNat_add, BitVec.add_sub_cancel]

/-- A datagram in datagram mode ends with the message, or when it is full. -/
lemma ends_iff (h : s.Reading m (c :: cs) n) (hm : m.appDLen ≠ 0) :
    (s.taiAppDLen - BitVec.ofNat 16 c.getLen = 0 ∨ Full s c) ↔ (cs = [] ∨ n + 1 = mdsChunks) := by
  obtain ⟨hleft, hlt⟩ := h.left_push hm
  rw [hleft, ofNat_length_eq_zero (fun hne => (chunks_cons h.chunks hne).2.2) hlt]
  by_cases hne : cs = []
  · exact iff_of_true (.inl hne) (.inl hne)
  · rw [h.full_iff hne]

/-- A datagram goes on behind the chunk. -/
lemma goesOn (h : s.Reading m (c :: cs) n) (hend : ¬(cs = [] ∨ n + 1 = mdsChunks)) :
    (taiAct s [c] [] []).1.Reading m cs (n + 1) ∧
      (taiAct s [c] [] []).2 .ssTaiToTdhData = [c] ∧
      (taiAct s [c] [] []).2 .ssTaiToTdhMeta = [] ∧
      (taiAct s [c] [] []).2 .ssTaiToTdhDLen = [] := by
  obtain ⟨hne, hn⟩ := not_or.mp hend
  obtain ⟨-, hlast, hcs⟩ := chunks_cons h.chunks hne
  have hfull := h.chunks.head.2.2.2.2 hne
  have hroom := h.room
  have hcall : pTxApplicationInterface
      { s with siUAIFData := [c], siUAIFMeta := [], siUAIFDLen := [] } {} =
        taiChunk { s with siUAIFData := [c], siUAIFMeta := [], siUAIFDLen := [] } c [] false := by
    rw [@tai_data { s with siUAIFData := [c], siUAIFMeta := [], siUAIFDLen := [] } _ _ h.state]
    by_cases hm : m.appDLen = 0
    · simp only [if_pos hm, if_true]
      rw [taiStrmData, if_neg (by rw [hlast]; exact Bool.false_ne_true)]
      exact if_neg fun hf => hn ((h.full_iff hne).mp hf)
    · simp only [if_neg hm, if_true]
      exact if_neg fun hcond => hend ((h.ends_iff hm).mp hcond)
  rw [taiAct, hcall]
  refine ⟨⟨⟨rfl, rfl, rfl⟩, h.state, h.appMeta, h.left_push, hcs, by omega, ?_, h.streamMode⟩, ?_,
    h.soTdhMeta, h.soTdhDLen⟩
  · show s.taiSplitCnt + BitVec.ofNat 16 c.getLen = _
    rw [h.splitCnt_push, hfull, Nat.mul_succ]
  · show s.soTdhData ++ [{ c with tlast := c.tlast || false }] = [c]
    rw [h.soTdhData, Bool.or_false]
    rfl

/-- A datagram ends with the chunk. -/
lemma ends (h : s.Reading m (c :: cs) n) (hend : cs = [] ∨ n + 1 = mdsChunks) :
    (taiAct s [c] [] []).1.Ending m cs (8 * n + c.bytes.length) ∧
      (taiAct s [c] [] []).2 .ssTaiToTdhData = [c.setTLast] ∧
      (taiAct s [c] [] []).2 .ssTaiToTdhMeta = [] ∧
      (taiAct s [c] [] []).2 .ssTaiToTdhDLen = [] := by
  have hcall : ∃ strm, (m.appDLen = 0 → strm = decide (cs ≠ [])) ∧ pTxApplicationInterface
      { s with siUAIFData := [c], siUAIFMeta := [], siUAIFDLen := [] } {} =
        { taiChunk { s with siUAIFData := [c], siUAIFMeta := [], siUAIFDLen := [] } c [] true with
          taiFsmState := if m.appDLen = 0 then .strmMeta else .drgmMeta
          taiStreamMode := strm } := by
    rw [@tai_data { s with siUAIFData := [c], siUAIFMeta := [], siUAIFDLen := [] } _ _ h.state]
    by_cases hm : m.appDLen = 0
    · simp only [if_pos hm, if_true]
      rw [taiStrmData]
      by_cases hne : cs = []
      · have hlast : c.tlast = true := by
          have hchunks := h.chunks
          rw [hne] at hchunks
          exact (chunks_last hchunks).2 (decide_eq_true hm)
        refine ⟨false, fun _ => (decide_eq_false (not_not.mpr hne)).symm, ?_⟩
        rw [if_pos hlast, taiChunk, taiChunk, hlast, Bool.true_or, Bool.true_or]
      · obtain ⟨-, hlast, -⟩ := chunks_cons h.chunks hne
        refine ⟨s.taiStreamMode, fun _ => ?_, ?_⟩
        · rw [h.streamMode hm, decide_eq_true hne]
        · rw [if_neg (by rw [hlast]; exact Bool.false_ne_true)]
          exact if_pos ((h.full_iff hne).mpr (hend.resolve_left hne))
    · simp only [if_neg hm, if_true]
      exact ⟨s.taiStreamMode, fun hz => absurd hz hm, if_pos ((h.ends_iff hm).mpr hend)⟩
  obtain ⟨strm, hstrm, hcall⟩ := hcall
  rw [taiAct, hcall]
  refine ⟨⟨⟨rfl, rfl, rfl⟩, rfl, h.appMeta, h.left_push, fun hne => (chunks_cons h.chunks hne).2.2,
    h.splitCnt_push, hstrm⟩, ?_, h.soTdhMeta, h.soTdhDLen⟩
  show s.soTdhData ++ [{ c with tlast := c.tlast || true }] = [c.setTLast]
  rw [h.soTdhData, Bool.or_true]
  rfl

end Tai.Reading

/-- The meta-data of a datagram. -/
lemma Tai.Ending.metas (h : s.Ending m rest n) :
    ((taiAct s [] [] []).1.Bare ∧ (rest = [] → (taiAct s [] [] []).1.taiFsmState = .idle) ∧
      (rest ≠ [] → (taiAct s [] [] []).1.Reading m rest 0)) ∧
      (taiAct s [] [] []).2 .ssTaiToTdhData = [] ∧
      (taiAct s [] [] []).2 .ssTaiToTdhMeta = [m.appMeta] ∧
      (taiAct s [] [] []).2 .ssTaiToTdhDLen = [BitVec.ofNat 16 n] := by
  have hcall : pTxApplicationInterface
      { s with siUAIFData := [], siUAIFMeta := [], siUAIFDLen := [] } {} =
        taiMeta { s with siUAIFData := [], siUAIFMeta := [], siUAIFDLen := [] } (decide (rest = []))
          (if m.appDLen = 0 then .strmData else .drgmData) := by
    rw [@tai_meta { s with siUAIFData := [], siUAIFMeta := [], siUAIFDLen := [] } _ _ h.state]
    refine (if_pos rfl).trans ?_
    by_cases hm : m.appDLen = 0
    · rw [if_pos hm, if_pos hm]
      have hstrm : (!s.taiStreamMode) = decide (rest = []) := by
        rw [h.streamMode hm, decide_not, Bool.not_not]
      exact congrArg (fun b => taiMeta _ b _) hstrm
    · obtain ⟨hleft, hlt⟩ := h.left hm
      rw [if_neg hm, if_neg hm]
      have hdone : decide (s.taiAppDLen = 0) = decide (rest = []) := by
        rw [hleft]
        exact decide_eq_decide.mpr (ofNat_length_eq_zero h.chunks hlt)
      exact congrArg (fun b => taiMeta _ b _) hdone
  rw [taiAct, hcall]
  refine ⟨⟨⟨rfl, rfl, rfl⟩, fun hrest => ?_, fun hrest => ⟨⟨rfl, rfl, rfl⟩, ?_, h.appMeta, h.left,
    h.chunks hrest, by decide, ?_, fun hz => ?_⟩⟩, h.soTdhData, ?_, ?_⟩
  · show (if decide (rest = []) then _ else _) = _
    rw [if_pos (decide_eq_true hrest)]
  · show (if decide (rest = []) then _ else _) = _
    rw [if_neg (by rw [decide_eq_false hrest]; exact Bool.false_ne_true)]
  · show (if decide (rest = []) then s.taiSplitCnt else 0) = 0
    rw [if_neg (by rw [decide_eq_false hrest]; exact Bool.false_ne_true)]
  · show s.taiStreamMode = true
    rw [h.streamMode hz, decide_eq_true hrest]
  · show s.soTdhMeta ++ [s.taiAppMeta] = _
    rw [h.soTdhMeta, h.appMeta]
    rfl
  · show s.soTdhDLen ++ [s.taiSplitCnt] = _
    rw [h.soTdhDLen, h.splitCnt]
    rfl

/-- A message is taken. -/
lemma Tai.Bare.start (h : s.Bare) (hidle : s.taiFsmState = .idle) (hm : m.Ok) :
    (taiAct s [] [m.appMeta] [m.appDLen]).1.Reading m m.data 0 ∧
      (taiAct s [] [m.appMeta] [m.appDLen]).2 .ssTaiToTdhData = [] ∧
      (taiAct s [] [m.appMeta] [m.appDLen]).2 .ssTaiToTdhMeta = [] ∧
      (taiAct s [] [m.appMeta] [m.appDLen]).2 .ssTaiToTdhDLen = [] := by
  have hcall : pTxApplicationInterface
      { s with siUAIFData := [], siUAIFMeta := [m.appMeta], siUAIFDLen := [m.appDLen] } {} =
        taiIdle { s with siUAIFData := [], siUAIFMeta := [m.appMeta], siUAIFDLen := [m.appDLen] }
          m.appMeta [] m.appDLen [] := by
    rw [pTxApplicationInterface, hidle]
    rfl
  rw [taiAct, hcall]
  refine ⟨⟨⟨rfl, rfl, rfl⟩, rfl, rfl, fun hne => ?_, hm.chunks, by decide, rfl,
    fun hz => decide_eq_true hz⟩, h.soTdhData, h.soTdhMeta, h.soTdhDLen⟩
  rw [← hm.length hne]
  refine ⟨?_, m.appDLen.isLt⟩
  rw [BitVec.ofNat_toNat, BitVec.setWidth_eq]
  rfl

end Registers

/-! ### The datagrams -/

/-- The datagrams of the chunks `rest`. The first one has the chunks `sent` in front of them. -/
def pieces (sent rest : List AxisRaw) : List (List AxisRaw) :=
  (cut sent.length rest).modifyHead (sent ++ ·)

/-- The packet of a datagram. -/
def dgrmPacket (m : UdpAppMeta) (p : List AxisRaw) : List AxisIp4 :=
  udpPacket m (BitVec.ofNat 16 (streamBytes p).length) p

/-- The packets of a message. -/
def Message.packets (m : Message) : List (List AxisIp4) := m.datagrams.map (dgrmPacket m.appMeta)

/-- Packets carry a message: their payloads partition its bytes in order. -/
def Message.Carried (m : Message) (packets : List (List AxisIp4)) : Prop :=
  ∃ payloads : List (List Byte), payloads.flatten = streamBytes m.data ∧
    (∀ p ∈ payloads, 1 ≤ p.length ∧ p.length ≤ udpMds) ∧
    List.Forall₂ (IsUdpPacket m.appMeta) payloads packets

section Pieces

variable {strm : Bool} {c : AxisRaw} {cs sent : List AxisRaw} {m : Message}

lemma pieces_nil (cs : List AxisRaw) : pieces [] cs = cut 0 cs := by
  rw [pieces, List.length_nil]
  cases cut 0 cs <;> rfl

lemma pieces_ends (hend : cs = [] ∨ sent.length + 1 = mdsChunks) :
    pieces sent (c :: cs) = (sent ++ [c.setTLast]) :: pieces [] cs := by
  rw [pieces_nil, pieces, cut, if_pos hend]
  rfl

lemma pieces_goesOn (hend : ¬(cs = [] ∨ sent.length + 1 = mdsChunks)) :
    pieces sent (c :: cs) = pieces (sent ++ [c]) cs := by
  obtain ⟨d, ds, hcut⟩ := cut_cons (not_or.mp hend).1 (sent.length + 1)
  rw [pieces, pieces, cut, if_neg hend, List.length_append, List.length_singleton, hcut, prepend,
    List.modifyHead_cons, List.modifyHead_cons, List.append_assoc, List.singleton_append]

/-- Full chunks in front of a stream. -/
lemma wellFormed_append (hsent : ∀ c ∈ sent, c.isValid ∧ c.tlast = false) (hcs : WellFormed cs) :
    WellFormed (sent ++ cs) ∧
      (streamBytes (sent ++ cs)).length = 8 * sent.length + (streamBytes cs).length := by
  induction sent with
  | nil => exact ⟨hcs, by rw [List.length_nil, Nat.mul_zero, Nat.zero_add]; rfl⟩
  | cons c sent ih =>
      obtain ⟨hc, hlast⟩ := hsent c List.mem_cons_self
      obtain ⟨hwf, hlen⟩ := ih fun c' hc' => hsent c' (List.mem_cons_of_mem c hc')
      refine ⟨.cons hc hlast hwf, ?_⟩
      rw [List.cons_append, streamBytes_cons, List.length_append, hlen, length_bytes_eq hc hlast,
        List.length_cons]
      omega

/-- The packets of a message carry it. -/
lemma Message.Ok.carried (h : m.Ok) : m.Carried m.packets := by
  have hcuts := cut_cuts h.chunks
  refine ⟨m.datagrams.map streamBytes, ?_, ?_, ?_⟩
  · rw [← hcuts.bytes]
    rfl
  · intro p hp
    obtain ⟨d, hd, rfl⟩ := List.mem_map.mp hp
    exact hcuts.length d hd
  · rw [Message.packets, List.forall₂_map_left_iff, List.forall₂_map_right_iff, List.forall₂_same]
    exact fun d hd => udpPacket_spec (hcuts.wellFormed d hd) rfl

end Pieces

/-! ### One run -/

/-- The application has still to write some items. Nothing else is on the way but the chunks of a
datagram, which are in front of `pTxDatagramHandler`. -/
structure Txe.At (t : Txe) (data : List AxisRaw) (metas : List UdpAppMeta) (dLens : List UdpAppDLen)
    (sent : List AxisRaw) (packets : List AxisIp4) : Prop extends t.Idle, t.Empty where
  uaifData : t.uaifData = data
  uaifMeta : t.uaifMeta = metas
  uaifDLen : t.uaifDLen = dLens
  siUAIFData : t.siUAIFData = []
  siUAIFMeta : t.siUAIFMeta = []
  siUAIFDLen : t.siUAIFDLen = []
  ssTaiToTdhData : t.ssTaiToTdhData = sent
  ssTaiToTdhMeta : t.ssTaiToTdhMeta = []
  ssTaiToTdhDLen : t.ssTaiToTdhDLen = []
  iptx : t.iptx = packets

/-- The streams to and from the engine have room for an item. -/
structure TxeDepths.Ok (d : TxeDepths) : Prop where
  siUAIFData : 1 ≤ d.siUAIFData
  siUAIFMeta : 1 ≤ d.siUAIFMeta
  siUAIFDLen : 1 ≤ d.siUAIFDLen
  soIPTXData : 1 ≤ d.soIPTXData

section Delivery

variable {d : TxeDepths} {t : Txe} {m : Message} {data rest sent : List AxisRaw}
  {metas : List UdpAppMeta} {dLens : List UdpAppDLen} {packets : List AxisIp4}

/-- A datagram is complete. -/
lemma piece_delivered (hd : d.Ok) (ht : t.At data metas dLens sent packets)
    (htai : t.tai.Ending m rest (streamBytes sent).length) (hsent : WellFormed sent)
    (hroom : sent.length ≤ mdsChunks) (hlen : (streamBytes sent).length ≤ udpMds) :
    ∃ u : Txe, u.At data metas dLens [] (packets ++ dgrmPacket m.appMeta sent) ∧
      TxeReaches d t u ∧ u.tai.Bare ∧ (rest = [] → u.tai.taiFsmState = .idle) ∧
      (rest ≠ [] → u.tai.Reading m rest 0) := by
  obtain ⟨hnext, hdata, hmeta, hdLen⟩ := htai.metas
  have hmds : mdsChunks = 177 ∧ udpMds = 1416 := ⟨rfl, rfl⟩
  have hfsm : t.tai.taiFsmState = .drgmMeta ∨ t.tai.taiFsmState = .strmMeta := by
    rw [htai.state]
    split
    · exact .inr rfl
    · exact .inl rfl
  have h1 := @tai_datagram d t hfsm (by rw [ht.ssTaiToTdhMeta]; decide)
    (by rw [ht.ssTaiToTdhDLen]; decide)
  rw [hdata, hmeta, hdLen, ht.ssTaiToTdhData, ht.ssTaiToTdhMeta, ht.ssTaiToTdhDLen,
    List.append_nil] at h1
  obtain ⟨u, hidle, hempty, h2, hu⟩ := @datagram_delivered d { t with
      tai := (taiAct t.tai [] [] []).1
      ssTaiToTdhData := sent
      ssTaiToTdhMeta := [m.appMeta]
      ssTaiToTdhDLen := [BitVec.ofNat 16 (streamBytes sent).length] } m.appMeta _ sent
    hd.soIPTXData ⟨ht.tdh, ht.uca, ht.sums, ht.uha, ht.iha⟩ hsent (by omega)
    (by rw [BitVec.toNat_ofNat, Nat.mod_eq_of_lt (by omega)]) rfl rfl rfl
    ⟨ht.ssTdhToUcaData, ht.ssTdhToUhaData, ht.ssTdhToUhaMeta, ht.ssTdhToUhaDLen, ht.ssUcaToUhaCsum,
      ht.ssUhaToIhaData, ht.ssUhaToIhaUdpLen, ht.ssUhaToIhaIpPair, ht.soIPTXData⟩
  have htai' : u.tai = (taiAct t.tai [] [] []).1 := congrArg Txe.tai hu
  refine ⟨u, ⟨hidle, hempty, ?_, ?_, ?_, ?_, ?_, ?_, ?_, ?_, ?_, ?_⟩, h1.trans h2, ?_⟩
  · exact (congrArg Txe.uaifData hu).trans ht.uaifData
  · exact (congrArg Txe.uaifMeta hu).trans ht.uaifMeta
  · exact (congrArg Txe.uaifDLen hu).trans ht.uaifDLen
  · exact (congrArg Txe.siUAIFData hu).trans ht.siUAIFData
  · exact (congrArg Txe.siUAIFMeta hu).trans ht.siUAIFMeta
  · exact (congrArg Txe.siUAIFDLen hu).trans ht.siUAIFDLen
  · exact congrArg Txe.ssTaiToTdhData hu
  · exact congrArg Txe.ssTaiToTdhMeta hu
  · exact congrArg Txe.ssTaiToTdhDLen hu
  · rw [congrArg Txe.iptx hu]
    exact congrArg (· ++ _) ht.iptx
  · rw [htai']
    exact hnext

/-- A message, of which the chunks `rest` have still to be written. -/
lemma message_delivered (hd : d.Ok) (ht : t.At (rest ++ data) metas dLens sent packets)
    (htai : t.tai.Reading m rest sent.length)
    (hsent : ∀ c ∈ sent, c.isValid ∧ c.tlast = false) :
    ∃ u : Txe, u.At data metas dLens []
        (packets ++ ((pieces sent rest).map (dgrmPacket m.appMeta)).flatten) ∧
      TxeReaches d t u ∧ u.tai.Bare ∧ u.tai.taiFsmState = .idle := by
  induction rest generalizing t sent packets with
  | nil => exact absurd htai.chunks id
  | cons c cs ih =>
      have hmds : udpMds = 8 * mdsChunks ∧ mdsChunks = 177 := ⟨rfl, rfl⟩
      have hroom := htai.room
      have hfsm : t.tai.taiFsmState = .drgmData ∨ t.tai.taiFsmState = .strmData := by
        rw [htai.state]
        split
        · exact .inr rfl
        · exact .inl rfl
      have h1 := @uaif_data d t c (cs ++ data) ht.uaifData (by
        rw [ht.siUAIFData]
        exact hd.siUAIFData)
      rw [ht.siUAIFData] at h1
      have h2 := h1.trans (tai_chunk hfsm rfl (by rw [ht.ssTaiToTdhData]; omega))
      by_cases hend : cs = [] ∨ sent.length + 1 = mdsChunks
      · obtain ⟨hending, hdata, hmeta, hdLen⟩ := htai.ends hend
        obtain ⟨hvalid, -, -, hle, -⟩ := htai.chunks.head
        obtain ⟨hwf, hlen⟩ := wellFormed_append hsent (WellFormed.singleton hvalid rfl)
        rw [streamBytes_cons, streamBytes_nil, List.append_nil, bytes_setTLast] at hlen
        rw [← hlen] at hending
        have h3 := h2
        dsimp only at h3
        rw [hdata, hmeta, hdLen, ht.ssTaiToTdhData, ht.ssTaiToTdhMeta, ht.ssTaiToTdhDLen] at h3
        obtain ⟨u, hu, h4, hbare, hidle, hreading⟩ := @piece_delivered d { t with
            uaifData := cs ++ data
            siUAIFData := []
            tai := (taiAct t.tai [c] [] []).1
            ssTaiToTdhData := sent ++ [c.setTLast]
            ssTaiToTdhMeta := []
            ssTaiToTdhDLen := [] } m _ _ _ _ _ packets hd
          ⟨⟨ht.tdh, ht.uca, ht.sums, ht.uha, ht.iha⟩, ⟨ht.ssTdhToUcaData, ht.ssTdhToUhaData,
            ht.ssTdhToUhaMeta, ht.ssTdhToUhaDLen, ht.ssUcaToUhaCsum, ht.ssUhaToIhaData,
            ht.ssUhaToIhaUdpLen, ht.ssUhaToIhaIpPair, ht.soIPTXData⟩, rfl, ht.uaifMeta, ht.uaifDLen,
            rfl, ht.siUAIFMeta, ht.siUAIFDLen, rfl, rfl, rfl, ht.iptx⟩ hending hwf
          (by rw [List.length_append, List.length_singleton]; omega)
          (show (streamBytes (sent ++ [c.setTLast])).length ≤ udpMds by omega)
        rw [pieces_ends hend, List.map_cons, List.flatten_cons, ← List.append_assoc]
        by_cases hne : cs = []
        · subst hne
          exact ⟨u, by simpa [pieces_nil, cut] using hu, h3.trans h4, hbare, hidle rfl⟩
        · obtain ⟨v, hv, h5, hdone⟩ := @ih u [] _ hu (hreading hne)
            (fun c' hc' => absurd hc' List.not_mem_nil)
          exact ⟨v, hv, (h3.trans h4).trans h5, hdone⟩
      · obtain ⟨hreading, hdata, hmeta, hdLen⟩ := htai.goesOn hend
        have hone : (sent ++ [c]).length = sent.length + 1 := by
          rw [List.length_append, List.length_singleton]
        rw [← hone] at hreading
        have h3 := h2
        dsimp only at h3
        rw [hdata, hmeta, hdLen, ht.ssTaiToTdhData, ht.ssTaiToTdhMeta, ht.ssTaiToTdhDLen] at h3
        obtain ⟨hc, hlast, -⟩ := chunks_cons htai.chunks (not_or.mp hend).1
        obtain ⟨u, hu, h4, hdone⟩ := @ih { t with
            uaifData := cs ++ data
            siUAIFData := []
            tai := (taiAct t.tai [c] [] []).1
            ssTaiToTdhData := sent ++ [c]
            ssTaiToTdhMeta := []
            ssTaiToTdhDLen := [] } (sent ++ [c]) packets
          ⟨⟨ht.tdh, ht.uca, ht.sums, ht.uha, ht.iha⟩, ⟨ht.ssTdhToUcaData, ht.ssTdhToUhaData,
            ht.ssTdhToUhaMeta, ht.ssTdhToUhaDLen, ht.ssUcaToUhaCsum, ht.ssUhaToIhaData,
            ht.ssUhaToIhaUdpLen, ht.ssUhaToIhaIpPair, ht.soIPTXData⟩, rfl, ht.uaifMeta, ht.uaifDLen,
            rfl, ht.siUAIFMeta, ht.siUAIFDLen, rfl, rfl, rfl, ht.iptx⟩ hreading
          (List.forall_mem_append.mpr ⟨hsent, List.forall_mem_singleton.mpr ⟨hc, hlast⟩⟩)
        rw [pieces_goesOn hend]
        exact ⟨u, hu, h3.trans h4, hdone⟩

/-- **Some messages**, one after the other. -/
theorem messages_delivered {ms : List Message} (hd : d.Ok) (hms : ∀ m ∈ ms, m.Ok)
    (ht : t.At (ms.flatMap (·.data)) (ms.map (·.appMeta)) (ms.map (·.appDLen)) [] packets)
    (hbare : t.tai.Bare) (hidle : t.tai.taiFsmState = .idle) :
    ∃ u : Txe, u.At [] [] [] [] (packets ++ (ms.map (·.packets)).flatten.flatten) ∧
      TxeReaches d t u ∧ u.tai.taiFsmState = .idle := by
  induction ms generalizing t packets with
  | nil => exact ⟨t, by simpa using ht, .refl _, hidle⟩
  | cons m ms ih =>
      have hm := hms m List.mem_cons_self
      obtain ⟨hreading, hdata, hmeta, hdLen⟩ := hbare.start hidle hm
      have h1 := @uaif_meta d t m.appMeta (ms.map Message.appMeta) ht.uaifMeta (by
        rw [ht.siUAIFMeta]
        exact hd.siUAIFMeta)
      rw [ht.siUAIFMeta] at h1
      have h2 := h1.trans (uaif_dLen ht.uaifDLen (by rw [ht.siUAIFDLen]; exact hd.siUAIFDLen))
      rw [ht.siUAIFDLen] at h2
      have h3 := h2.trans (tai_start hidle rfl rfl)
      dsimp only at h3
      rw [hdata, hmeta, hdLen, ht.ssTaiToTdhData, ht.ssTaiToTdhMeta, ht.ssTaiToTdhDLen] at h3
      obtain ⟨u, hu, h4, hbare', hidle'⟩ := @message_delivered d { t with
          uaifMeta := ms.map (·.appMeta)
          uaifDLen := ms.map (·.appDLen)
          siUAIFMeta := []
          siUAIFDLen := []
          tai := (taiAct t.tai [] [m.appMeta] [m.appDLen]).1
          ssTaiToTdhData := []
          ssTaiToTdhMeta := []
          ssTaiToTdhDLen := [] } m _ m.data [] _ _ packets hd
        ⟨⟨ht.tdh, ht.uca, ht.sums, ht.uha, ht.iha⟩, ⟨ht.ssTdhToUcaData, ht.ssTdhToUhaData,
          ht.ssTdhToUhaMeta, ht.ssTdhToUhaDLen, ht.ssUcaToUhaCsum, ht.ssUhaToIhaData,
          ht.ssUhaToIhaUdpLen, ht.ssUhaToIhaIpPair, ht.soIPTXData⟩, ht.uaifData, rfl, rfl,
          ht.siUAIFData, rfl, rfl, rfl, rfl, rfl, ht.iptx⟩ hreading
        (fun c' hc' => absurd hc' List.not_mem_nil)
      rw [pieces_nil] at hu
      obtain ⟨v, hv, h5, hdone⟩ := ih (fun m' hm' => hms m' (List.mem_cons_of_mem m hm')) hu hbare'
        hidle'
      rw [List.append_assoc] at hv
      refine ⟨v, ?_, (h3.trans h4).trans h5, hdone⟩
      rw [List.map_cons, List.flatten_cons, List.flatten_append]
      exact hv

/-- Nothing is left to do. -/
lemma Txe.At.halted (ht : t.At [] [] [] [] packets) (hidle : t.tai.taiFsmState = .idle) :
    (txEngine true d).machine.Halted t.state := by
  intro p
  cases p with
  | uaifData =>
      refine Network.step_eq_none_of_action ?_
      show txeAction true .uaifData t.uaifData = none
      rw [ht.uaifData]
      rfl
  | uaifMeta =>
      refine Network.step_eq_none_of_action ?_
      show txeAction true .uaifMeta t.uaifMeta = none
      rw [ht.uaifMeta]
      rfl
  | uaifDLen =>
      refine Network.step_eq_none_of_action ?_
      show txeAction true .uaifDLen t.uaifDLen = none
      rw [ht.uaifDLen]
      rfl
  | tai =>
      have ha : txeAction true .tai (t.state.proc .tai) = taiAction true t.tai := rfl
      rw [taiAction, hidle] at ha
      exact Network.step_eq_none_of_empty ha List.mem_cons_self ht.siUAIFMeta
  | tdh =>
      have ha : txeAction true .tdh (t.state.proc .tdh) = some (pTxDatagramHandler t.tdh) := rfl
      rw [pTxDatagramHandler, ht.tdh] at ha
      exact Network.step_eq_none_of_empty ha List.mem_cons_self ht.ssTaiToTdhMeta
  | uca =>
      have ha : txeAction true .uca (t.state.proc .uca) = some (pUdpChecksumAccumulator t.uca) := rfl
      rw [pUdpChecksumAccumulator, ht.uca] at ha
      exact Network.step_eq_none_of_empty ha List.mem_cons_self ht.ssTdhToUcaData
  | uha =>
      have ha : txeAction true .uha (t.state.proc .uha) = some (pUdpHeaderAdder t.uha) := rfl
      rw [pUdpHeaderAdder, ht.uha] at ha
      exact Network.step_eq_none_of_empty ha List.mem_cons_self ht.ssTdhToUhaDLen
  | iha =>
      have ha : txeAction true .iha (t.state.proc .iha) = some (pIp4HeaderAdder t.iha) := rfl
      rw [pIp4HeaderAdder, ht.iha] at ha
      exact Network.step_eq_none_of_empty ha List.mem_cons_self ht.ssUhaToIhaUdpLen
  | iptx => exact Network.step_eq_none_of_empty rfl List.mem_cons_self ht.soIPTXData

end Delivery

/-! ### Every run -/

/-- The engine is reset, and the application sends some messages. -/
def txeStart (ms : List Message) : Txe where
  uaifData := ms.flatMap (·.data)
  uaifMeta := ms.map (·.appMeta)
  uaifDLen := ms.map (·.appDLen)

/-- IPTX keeps what it got. -/
lemma iptx_step {mmioEn : Bool} {d : TxeDepths} {s u : Network.State TxeReg TxeItem} {p : TxeProc}
    (h : (txEngine mmioEn d).machine.step s p = some u) : s.proc .iptx <+: u.proc .iptx := by
  obtain ⟨a, ha, -, rfl⟩ := Network.step_eq_some.mp h
  rw [Network.proc_fire]
  cases p with
  | iptx =>
      obtain rfl := Option.some.inj ha
      rw [Function.update_self]
      exact List.prefix_append _ _
  | _ => exact List.prefix_rfl

/-- **The Tx engine delivers the messages.** Whatever the order in which the processes, the
application and IPTX are called, IPTX gets nothing but the packets of the messages, in order: UDP
datagrams with the right lengths and checksums, whose payloads of at most `UDP_MDS` bytes partition
the data of each message. Once all of them have been called often enough, it has got all packets. -/
theorem txEngine_law {ms : List Message} (hms : ∀ m ∈ ms, m.Ok) {d : TxeDepths} (hd : d.Ok) :
    ∃ packets : List (List (List AxisIp4)), List.Forall₂ Message.Carried ms packets ∧
      (∀ calls : List TxeProc,
        (Clocked.run (txEngine true d).machine.call (txeStart ms).state calls).proc .iptx <+:
          packets.flatten.flatten) ∧
      ∃ n, ∀ rounds : List (List TxeProc), n ≤ rounds.length → (∀ calls ∈ rounds, ∀ p, p ∈ calls) →
        (Clocked.run (txEngine true d).machine.call (txeStart ms).state rounds.flatten).proc .iptx =
          packets.flatten.flatten := by
  have hstart : (txeStart ms).At (ms.flatMap (·.data)) (ms.map (·.appMeta)) (ms.map (·.appDLen)) []
      [] := by
    refine ⟨⟨rfl, rfl, ?_, rfl, rfl⟩, ⟨rfl, rfl, rfl, rfl, rfl, rfl, rfl, rfl, rfl⟩, rfl, rfl, rfl,
      rfl, rfl, rfl, rfl, rfl, rfl, rfl⟩
    funext i
    fin_cases i <;> rfl
  obtain ⟨u, hu, hreach, hidle⟩ := messages_delivered hd hms hstart ⟨rfl, rfl, rfl⟩ rfl
  obtain ⟨hpart, n, hall⟩ := (Network.persistent (txEngine true d)).determined
    (r := (· <+: ·)) (f := fun s => s.proc .iptx) iptx_step (hu.halted hidle) hreach
  have hiptx : u.state.proc .iptx = (ms.map (·.packets)).flatten.flatten := hu.iptx
  refine ⟨ms.map (·.packets), ?_, fun calls => ?_, n, fun rounds hlen hrounds => ?_⟩
  · rw [List.forall₂_map_right_iff, List.forall₂_same]
    exact fun m hm => (hms m hm).carried
  · rw [← hiptx]
    exact hpart calls
  · rw [hall rounds hlen hrounds, hiptx]

/-- A message of 12 bytes in datagram mode and one of 3 bytes in streaming mode, through streams of
depth 1 on both sides of the engine. -/
theorem txEngine_law_twoMessages :
    ∃ packets, List.Forall₂ Message.Carried twoMessages packets ∧
      ∃ n, (Clocked.run (txEngine true ⟨1, 1, 1, 1⟩).machine.call (txeStart twoMessages).state
        (List.replicate n
          [TxeProc.uaifData, .uaifMeta, .uaifDLen, .tai, .tdh, .uca, .uha, .iha, .iptx]).flatten).proc
            .iptx = packets.flatten.flatten := by
  have hok : ∀ m ∈ twoMessages, m.Ok := by
    intro m hm
    rcases List.mem_cons.mp hm with rfl | hm
    · exact ⟨by decide, by decide⟩
    · obtain rfl := List.mem_singleton.mp hm
      exact ⟨by decide, by decide⟩
  obtain ⟨packets, hcarried, -, n, hall⟩ := txEngine_law hok
    (d := ⟨1, 1, 1, 1⟩) ⟨le_rfl, le_rfl, le_rfl, le_rfl⟩
  refine ⟨packets, hcarried, n, hall _ (List.length_replicate ..).ge fun calls hcalls p => ?_⟩
  rw [List.eq_of_mem_replicate hcalls]
  cases p <;> decide

end CloudFpga.Uoe
