import CloudFpga.Foundation.Clocked
import CloudFpga.Uoe.TxApplicationInterface

/-!
The datagrams that `pTxApplicationInterface` makes of the messages of the application.

* `Message`: the meta-data, the length and the data of a message; `Message.Ok`: what the interface
  asks for.
* `cut`: the data of a message, cut into datagrams; `cut_cuts`: the pieces partition the data, and
  each of them is a datagram.
* `TaiSystem`, `taiNext`: the arrivals in the three streams and the calls of the process.
* `TaiInv`: the process has emitted the datagrams of some messages, and goes on with the next one.
* `datagrams_of_messages`: runs.
-/

namespace CloudFpga.Uoe

open Foundation

/-! ### Messages and datagrams -/

/-- What the application sends. -/
structure Message where
  appMeta : UdpAppMeta
  appDLen : UdpAppDLen
  data : List AxisRaw
  deriving DecidableEq

/-- All chunks but the last one are full and without `tlast`. In streaming mode the last one has
`tlast`. -/
def Chunks (strm : Bool) : List AxisRaw → Prop
  | [] => False
  | c :: cs =>
      if cs = [] then c.setTLast.isValid = true ∧ (strm = true → c.tlast = true)
      else c.isValid = true ∧ c.tlast = false ∧ Chunks strm cs

instance decidableChunks (strm : Bool) : (cs : List AxisRaw) → Decidable (Chunks strm cs)
  | [] => isFalse id
  | _ :: cs =>
      have := decidableChunks strm cs
      inferInstanceAs (Decidable (if cs = [] then _ else _))

/-- A message in datagram mode has the announced number of bytes. In streaming mode it is announced
with the length 0. -/
structure Message.Ok (m : Message) : Prop where
  chunks : Chunks (m.appDLen = 0) m.data
  length : m.appDLen ≠ 0 → m.appDLen.toNat = (streamBytes m.data).length

/-- The chunks of the largest datagram. -/
def mdsChunks : ℕ := udpMds / 8

/-- A chunk in front of the first piece. -/
def prepend (c : AxisRaw) : List (List AxisRaw) → List (List AxisRaw)
  | [] => [[c]]
  | d :: ds => (c :: d) :: ds

/-- Data are cut into datagrams. The first one has `n` chunks already. -/
def cut : ℕ → List AxisRaw → List (List AxisRaw)
  | _, [] => []
  | n, c :: cs =>
      if cs = [] ∨ n + 1 = mdsChunks then [c.setTLast] :: cut 0 cs else prepend c (cut (n + 1) cs)

/-- The lengths of the datagrams. The first one has `n` chunks already. -/
def cutLens (n : ℕ) : List (List AxisRaw) → List UdpAppDLen
  | [] => []
  | d :: ds =>
      BitVec.ofNat 16 (8 * n + (streamBytes d).length) ::
        ds.map fun d => BitVec.ofNat 16 (streamBytes d).length

namespace Message

variable (m : Message)

/-- The datagrams of a message. -/
def datagrams : List (List AxisRaw) := cut 0 m.data

/-- The items of meta-data for them. -/
def metas : List UdpAppMeta := m.datagrams.map fun _ => m.appMeta

/-- The lengths of them. -/
def dLens : List UdpAppDLen := m.datagrams.map fun d => BitVec.ofNat 16 (streamBytes d).length

end Message

/-- The pieces partition the bytes in order. Each of them has between 1 and `UDP_MDS` bytes, and ends
with its only `tlast`. -/
structure Cuts (cs : List AxisRaw) (ds : List (List AxisRaw)) : Prop where
  bytes : ds.flatMap streamBytes = streamBytes cs
  wellFormed : ∀ d ∈ ds, WellFormed d
  length : ∀ d ∈ ds, 1 ≤ (streamBytes d).length ∧ (streamBytes d).length ≤ udpMds

section Cut

variable {strm : Bool} {c : AxisRaw} {cs : List AxisRaw} {n : ℕ}

lemma chunks_cons (h : Chunks strm (c :: cs)) (hne : cs ≠ []) :
    c.isValid = true ∧ c.tlast = false ∧ Chunks strm cs := by
  rw [Chunks, if_neg hne] at h
  exact h

lemma chunks_last (h : Chunks strm [c]) :
    c.setTLast.isValid = true ∧ (strm = true → c.tlast = true) := by
  rw [Chunks, if_pos rfl] at h
  exact h

lemma Chunks.ne_nil (h : Chunks strm cs) : cs ≠ [] := by
  rintro rfl
  exact h

/-- A chunk has between 1 and 8 valid bytes, and 8 of them unless it is the last one. -/
lemma Chunks.head (h : Chunks strm (c :: cs)) :
    c.setTLast.isValid = true ∧ c.getLen = c.bytes.length ∧ 1 ≤ c.bytes.length ∧ c.bytes.length ≤ 8 ∧
      (cs ≠ [] → c.bytes.length = 8) := by
  have hvalid : c.setTLast.isValid = true := by
    by_cases hne : cs = []
    · subst hne
      exact (chunks_last h).1
    · have hlen := AxisRaw.mask_of_isValid (chunks_cons h hne).1
      have hlen' : c.setTLast.getLen ≠ 0 := Nat.one_le_iff_ne_zero.mp hlen.2.1
      rw [AxisRaw.isValid, AxisRaw.tlast_setTLast, if_pos rfl]
      exact decide_eq_true hlen'
  have hlen := AxisRaw.getLen_eq hvalid
  have hpos := AxisRaw.one_le_length_bytes hvalid
  refine ⟨hvalid, hlen, hpos, c.length_bytes_le, fun hne => ?_⟩
  obtain ⟨hc, hlast, -⟩ := chunks_cons h hne
  exact AxisRaw.length_bytes_eq hc hlast

/-- The first piece and the other ones. -/
lemma cut_cons (hne : cs ≠ []) (n : ℕ) : ∃ d ds, cut n cs = d :: ds := by
  cases cs with
  | nil => exact absurd rfl hne
  | cons c cs =>
      rw [cut]
      split
      · exact ⟨_, _, rfl⟩
      · cases cut (n + 1) cs with
        | nil => exact ⟨_, _, rfl⟩
        | cons d ds => exact ⟨_, _, rfl⟩

/-- The pieces, of which the first one has `n` chunks already. -/
lemma cut_spec (h : Chunks strm cs) (hn : n < mdsChunks) :
    ∃ d ds, cut n cs = d :: ds ∧ streamBytes d ++ ds.flatMap streamBytes = streamBytes cs ∧
      WellFormed d ∧ 8 * n + (streamBytes d).length ≤ udpMds ∧
      ∀ d ∈ ds, WellFormed d ∧ (streamBytes d).length ≤ udpMds := by
  have hmds : udpMds = 8 * mdsChunks := rfl
  induction cs generalizing n with
  | nil => exact absurd h id
  | cons c cs ih =>
      obtain ⟨hvalid, -, hpos, hle, hfull⟩ := h.head
      have hwf : WellFormed [c.setTLast] := WellFormed.singleton hvalid rfl
      have hone : streamBytes [c.setTLast] = c.bytes := by
        rw [streamBytes_cons, streamBytes_nil, List.append_nil]
        rfl
      rw [cut]
      by_cases hne : cs = []
      · subst hne
        rw [if_pos (.inl rfl)]
        refine ⟨_, _, rfl, ?_, hwf, ?_, fun d hd => absurd hd List.not_mem_nil⟩
        · rw [hone]
          rfl
        · rw [hone]
          omega
      · obtain ⟨hc, hlast, hcs⟩ := chunks_cons h hne
        by_cases hend : n + 1 = mdsChunks
        · obtain ⟨d, ds, hcut, hbytes, hd, hlen, hds⟩ := ih (n := 0) hcs (by decide)
          rw [if_pos (.inr hend), hcut]
          refine ⟨_, _, rfl, ?_, hwf, ?_, ?_⟩
          · rw [hone, List.flatMap_cons, hbytes]
            rfl
          · rw [hone]
            omega
          · intro d' hd'
            rcases List.mem_cons.mp hd' with rfl | hd'
            · exact ⟨hd, by omega⟩
            · exact hds d' hd'
        · obtain ⟨d, ds, hcut, hbytes, hd, hlen, hds⟩ := ih (n := n + 1) hcs (by omega)
          rw [if_neg (not_or.mpr ⟨hne, hend⟩), hcut]
          refine ⟨_, _, rfl, ?_, hd.cons hc hlast, ?_, hds⟩
          · rw [streamBytes_cons, List.append_assoc, hbytes]
            rfl
          · rw [streamBytes_cons, List.length_append]
            have := hfull hne
            omega

/-- **The pieces of a message are datagrams.** -/
lemma cut_cuts (h : Chunks strm cs) : Cuts cs (cut 0 cs) := by
  obtain ⟨d, ds, hcut, hbytes, hd, hlen, hds⟩ := cut_spec (n := 0) h (by decide)
  have hall : ∀ d' ∈ d :: ds, WellFormed d' ∧ (streamBytes d').length ≤ udpMds := by
    intro d' hd'
    rcases List.mem_cons.mp hd' with rfl | hd'
    · exact ⟨hd, by omega⟩
    · exact hds d' hd'
  rw [hcut]
  exact ⟨hbytes, fun d' hd' => (hall d' hd').1, fun d' hd' =>
    ⟨(hall d' hd').1.length_pos, (hall d' hd').2⟩⟩

/-- A chunk that goes on with a datagram. -/
lemma flatten_prepend (hne : cs ≠ []) (hend : n + 1 ≠ mdsChunks) :
    (cut n (c :: cs)).flatten = c :: (cut (n + 1) cs).flatten ∧
      (cut n (c :: cs)).length = (cut (n + 1) cs).length := by
  obtain ⟨d, ds, hcut⟩ := cut_cons hne (n + 1)
  rw [cut, if_neg (not_or.mpr ⟨hne, hend⟩), hcut]
  exact ⟨rfl, rfl⟩

lemma cutLens_prepend (hne : cs ≠ []) (hend : n + 1 ≠ mdsChunks) (hc : c.bytes.length = 8) :
    cutLens n (cut n (c :: cs)) = cutLens (n + 1) (cut (n + 1) cs) := by
  obtain ⟨d, ds, hcut⟩ := cut_cons hne (n + 1)
  rw [cut, if_neg (not_or.mpr ⟨hne, hend⟩), hcut, prepend, cutLens, cutLens, streamBytes_cons,
    List.length_append, hc]
  congr 2
  omega

lemma cutLens_zero (ds : List (List AxisRaw)) :
    cutLens 0 ds = ds.map fun d => BitVec.ofNat 16 (streamBytes d).length := by
  cases ds with
  | nil => rfl
  | cons d ds =>
      rw [cutLens, Nat.mul_zero, Nat.zero_add]
      rfl

end Cut

/-! ### The application and the process -/

/-- The process, with what the application has still to deliver. -/
structure TaiSystem where
  tai : Tai := {}
  appMetas : List UdpAppMeta
  appDLens : List UdpAppDLen
  appData : List AxisRaw

/-- An item arrives in one of the streams, or the process is called. -/
inductive TaiEvent where
  | appMeta | appDLen | appData
  | call (k : TaiCall)
  deriving DecidableEq

/-- Nothing blocks the process. -/
def TaiEvent.ready : TaiEvent → Bool
  | .call k => k.mmioEn && k.tdhDataRoom && k.tdhMetaRoom && k.tdhDLenRoom
  | _ => false

/-- One event. -/
def taiNext (s : TaiSystem) : TaiEvent → TaiSystem
  | .appMeta =>
      match s.appMetas with
      | [] => s
      | m :: ms => { s with appMetas := ms, tai.siUAIFMeta := s.tai.siUAIFMeta ++ [m] }
  | .appDLen =>
      match s.appDLens with
      | [] => s
      | l :: ls => { s with appDLens := ls, tai.siUAIFDLen := s.tai.siUAIFDLen ++ [l] }
  | .appData =>
      match s.appData with
      | [] => s
      | c :: cs => { s with appData := cs, tai.siUAIFData := s.tai.siUAIFData ++ [c] }
  | .call k => { s with tai := pTxApplicationInterface s.tai k }

/-- The application sends some messages. -/
def sending (ms : List Message) : TaiSystem where
  appMetas := ms.map (·.appMeta)
  appDLens := ms.map (·.appDLen)
  appData := ms.flatMap (·.data)

namespace TaiSystem

variable (s : TaiSystem)

/-- The items that the process has not read. -/
def Unread (ms : List Message) (cs : List AxisRaw) : Prop :=
  s.tai.siUAIFMeta ++ s.appMetas = ms.map (·.appMeta) ∧
    s.tai.siUAIFDLen ++ s.appDLens = ms.map (·.appDLen) ∧
    s.tai.siUAIFData ++ s.appData = cs ++ ms.flatMap (·.data)

/-- Everything has arrived. -/
def Arrived : Prop := s.appMetas = [] ∧ s.appDLens = [] ∧ s.appData = []

/-- The process has emitted the datagrams of some messages and of nothing else. -/
def Emitted (ms : List Message) : Prop :=
  s.tai.soTdhData = ms.flatMap (·.datagrams.flatten) ∧
    s.tai.soTdhMeta = ms.flatMap (·.metas) ∧ s.tai.soTdhDLen = ms.flatMap (·.dLens)

/-- The process has emitted a part of the datagrams of some messages, and nothing else. -/
def Emitting (ms : List Message) : Prop :=
  s.tai.soTdhData <+: ms.flatMap (·.datagrams.flatten) ∧
    s.tai.soTdhMeta <+: ms.flatMap (·.metas) ∧ s.tai.soTdhDLen <+: ms.flatMap (·.dLens)

/-- An item of meta-data is to be emitted. -/
def pendingMeta : TaiFsmStates → ℕ
  | .drgmMeta | .strmMeta => 1
  | _ => 0

/-- The calls that are still needed. -/
def work : ℕ :=
  (s.tai.siUAIFMeta ++ s.appMetas).length + 2 * (s.tai.siUAIFData ++ s.appData).length +
    pendingMeta s.tai.taiFsmState

end TaiSystem

/-! ### The invariant -/

/-- The process is idle behind some messages. -/
structure IdleInv (ms : List Message) (s : TaiSystem) (done later : List Message) : Prop where
  eq : ms = done ++ later
  state : s.tai.taiFsmState = .idle
  unread : s.Unread later []
  emitted : s.Emitted done

/-- The process is at a message, of which it has not read the chunks `rest`. The pieces, the meta-data
and the lengths are still to be emitted. -/
structure Sending (ms : List Message) (s : TaiSystem) (done : List Message) (m : Message)
    (later : List Message) (rest : List AxisRaw) (pieces : List (List AxisRaw))
    (metas : List UdpAppMeta) (dLens : List UdpAppDLen) : Prop where
  eq : ms = done ++ m :: later
  unread : s.Unread later rest
  appMeta : s.tai.taiAppMeta = m.appMeta
  left : m.appDLen ≠ 0 → s.tai.taiAppDLen = BitVec.ofNat 16 (streamBytes rest).length ∧
    (streamBytes rest).length < 2 ^ 16
  data : s.tai.soTdhData ++ pieces.flatten = (done ++ [m]).flatMap (·.datagrams.flatten)
  metas : s.tai.soTdhMeta ++ metas = (done ++ [m]).flatMap (·.metas)
  dLens : s.tai.soTdhDLen ++ dLens = (done ++ [m]).flatMap (·.dLens)

/-- The process reads the next chunk of a datagram that has `n` chunks. -/
structure DataInv (ms : List Message) (s : TaiSystem) (done : List Message) (m : Message)
    (later : List Message) (rest : List AxisRaw) (n : ℕ) : Prop where
  sending : Sending ms s done m later rest (cut n rest) ((cut n rest).map fun _ => m.appMeta)
    (cutLens n (cut n rest))
  state : s.tai.taiFsmState = if m.appDLen = 0 then .strmData else .drgmData
  chunks : Chunks (m.appDLen = 0) rest
  room : n < mdsChunks
  splitCnt : s.tai.taiSplitCnt = BitVec.ofNat 16 (8 * n)
  streamMode : m.appDLen = 0 → s.tai.taiStreamMode = true

/-- The process is going to emit the meta-data of a datagram. -/
structure MetaInv (ms : List Message) (s : TaiSystem) (done : List Message) (m : Message)
    (later : List Message) (rest : List AxisRaw) : Prop where
  sending : Sending ms s done m later rest (cut 0 rest)
    (m.appMeta :: (cut 0 rest).map fun _ => m.appMeta) (s.tai.taiSplitCnt :: cutLens 0 (cut 0 rest))
  state : s.tai.taiFsmState = if m.appDLen = 0 then .strmMeta else .drgmMeta
  chunks : rest ≠ [] → Chunks (m.appDLen = 0) rest
  streamMode : m.appDLen = 0 → s.tai.taiStreamMode = decide (rest ≠ [])

/-- The invariant. -/
inductive TaiInv (ms : List Message) (s : TaiSystem) : Prop
  | idle (done later : List Message) (h : IdleInv ms s done later)
  | data (done : List Message) (m : Message) (later : List Message) (rest : List AxisRaw) (n : ℕ)
      (h : DataInv ms s done m later rest n)
  | metas (done : List Message) (m : Message) (later : List Message) (rest : List AxisRaw)
      (h : MetaInv ms s done m later rest)

section Steps

variable {ms done later : List Message} {m : Message} {s : TaiSystem} {rest : List AxisRaw} {n : ℕ}
  {k : TaiCall}

/-- The items that arrive were not read before either. -/
lemma arrive_frame (s : TaiSystem) {e : TaiEvent} (he : ∀ k, e ≠ .call k) :
    ∃ a b c a' b' c', taiNext s e = { s with
        tai := { s.tai with siUAIFMeta := a, siUAIFDLen := b, siUAIFData := c }
        appMetas := a', appDLens := b', appData := c' } ∧
      a ++ a' = s.tai.siUAIFMeta ++ s.appMetas ∧ b ++ b' = s.tai.siUAIFDLen ++ s.appDLens ∧
      c ++ c' = s.tai.siUAIFData ++ s.appData := by
  cases e with
  | appMeta =>
      cases h : s.appMetas with
      | nil => exact ⟨_, _, _, _, _, _, by rw [taiNext, h], by rw [h], rfl, rfl⟩
      | cons m ms =>
          exact ⟨_, _, _, _, _, _, by rw [taiNext, h], by rw [List.append_assoc]; rfl, rfl, rfl⟩
  | appDLen =>
      cases h : s.appDLens with
      | nil => exact ⟨_, _, _, _, _, _, by rw [taiNext, h], rfl, by rw [h], rfl⟩
      | cons l ls =>
          exact ⟨_, _, _, _, _, _, by rw [taiNext, h], rfl, by rw [List.append_assoc]; rfl, rfl⟩
  | appData =>
      cases h : s.appData with
      | nil => exact ⟨_, _, _, _, _, _, by rw [taiNext, h], rfl, rfl, by rw [h]⟩
      | cons c cs =>
          exact ⟨_, _, _, _, _, _, by rw [taiNext, h], rfl, rfl, by rw [List.append_assoc]; rfl⟩
  | call k => exact absurd rfl (he k)

/-- An arrival keeps the invariant. -/
lemma TaiInv.arrive (h : TaiInv ms s) {e : TaiEvent} (he : ∀ k, e ≠ .call k) :
    TaiInv ms (taiNext s e) ∧ (taiNext s e).work = s.work := by
  obtain ⟨a, b, c, a', b', c', heq, ha, hb, hc⟩ := arrive_frame s he
  have hunread : ∀ ms cs, s.Unread ms cs → (taiNext s e).Unread ms cs := by
    rintro ms cs ⟨h₁, h₂, h₃⟩
    rw [heq]
    exact ⟨ha.trans h₁, hb.trans h₂, hc.trans h₃⟩
  have hsending : ∀ done m later rest pieces metas dLens,
      Sending ms s done m later rest pieces metas dLens →
        Sending ms (taiNext s e) done m later rest pieces metas dLens := by
    intro done m later rest pieces metas dLens h
    refine ⟨h.eq, hunread _ _ h.unread, ?_, ?_, ?_, ?_, ?_⟩ <;> rw [heq]
    · exact h.appMeta
    · exact h.left
    · exact h.data
    · exact h.metas
    · exact h.dLens
  refine ⟨?_, ?_⟩
  · cases h with
    | idle done later h =>
        refine .idle done later ⟨h.eq, ?_, hunread _ _ h.unread, ?_⟩ <;> rw [heq]
        · exact h.state
        · exact h.emitted
    | data done m later rest n h =>
        refine .data done m later rest n ⟨hsending _ _ _ _ _ _ _ h.sending, ?_, h.chunks, h.room, ?_, ?_⟩
          <;> rw [heq]
        · exact h.state
        · exact h.splitCnt
        · exact h.streamMode
    | metas done m later rest h =>
        have hsplit : (taiNext s e).tai.taiSplitCnt = s.tai.taiSplitCnt := by rw [heq]
        refine .metas done m later rest ⟨?_, ?_, h.chunks, ?_⟩
        · rw [hsplit]
          exact hsending _ _ _ _ _ _ _ h.sending
        · rw [heq]
          exact h.state
        · rw [heq]
          exact h.streamMode
  · rw [TaiSystem.work, TaiSystem.work, heq]
    dsimp only
    rw [ha, hc]

/-- The next message is taken. -/
lemma IdleInv.take (h : IdleInv ms s done later) (hms : ∀ m ∈ ms, m.Ok) {appMeta : UdpAppMeta}
    {metas : List UdpAppMeta} {appDLen : UdpAppDLen} {dLens : List UdpAppDLen}
    (hmeta : s.tai.siUAIFMeta = appMeta :: metas) (hdLen : s.tai.siUAIFDLen = appDLen :: dLens) :
    TaiInv ms { s with tai := taiIdle s.tai appMeta metas appDLen dLens } := by
  obtain ⟨h₁, h₂, h₃⟩ := h.unread
  obtain ⟨hdata, hmetas, hlens⟩ := h.emitted
  rw [hmeta] at h₁
  rw [hdLen] at h₂
  cases later with
  | nil => cases h₁
  | cons m later =>
      obtain ⟨rfl, hrest₁⟩ := List.cons.inj h₁
      obtain ⟨rfl, hrest₂⟩ := List.cons.inj h₂
      have hok : m.Ok := hms m (by rw [h.eq]; simp)
      refine .data done m later m.data 0 ⟨⟨h.eq, ⟨hrest₁, hrest₂, h₃⟩, rfl, fun hne => ?_, ?_, ?_, ?_⟩,
        rfl, hok.chunks, by decide, rfl, fun hz => decide_eq_true hz⟩
      · rw [← hok.length hne]
        refine ⟨?_, m.appDLen.isLt⟩
        rw [BitVec.ofNat_toNat, BitVec.setWidth_eq]
        rfl
      · show s.tai.soTdhData ++ _ = _
        rw [hdata, List.flatMap_append, List.flatMap_singleton]
        rfl
      · show s.tai.soTdhMeta ++ _ = _
        rw [hmetas, List.flatMap_append, List.flatMap_singleton]
        rfl
      · show s.tai.soTdhDLen ++ _ = _
        rw [hlens, List.flatMap_append, List.flatMap_singleton, cutLens_zero]
        rfl

variable {c : AxisRaw} {cs data : List AxisRaw}

/-- The next chunk in the stream is the next one of the message. -/
lemma DataInv.chunk (h : DataInv ms s done m later rest n) (hdata : s.tai.siUAIFData = c :: data) :
    ∃ cs, rest = c :: cs ∧ data ++ s.appData = cs ++ later.flatMap (·.data) := by
  have hunread := h.sending.unread.2.2
  rw [hdata] at hunread
  cases rest with
  | nil => exact absurd rfl h.chunks.ne_nil
  | cons c' cs =>
      obtain ⟨rfl, hcs⟩ := List.cons.inj hunread
      exact ⟨cs, rfl, hcs⟩

lemma DataInv.splitCnt_push (h : DataInv ms s done m later (c :: cs) n) :
    s.tai.taiSplitCnt + BitVec.ofNat 16 c.getLen = BitVec.ofNat 16 (8 * n + c.bytes.length) := by
  rw [h.splitCnt, h.chunks.head.2.1, BitVec.ofNat_add]

lemma DataInv.full_iff (h : DataInv ms s done m later (c :: cs) n) (hne : cs ≠ []) :
    Full s.tai c ↔ n + 1 = mdsChunks := by
  have hroom := h.room
  have hmds : udpMds = 8 * mdsChunks ∧ mdsChunks = 177 := ⟨rfl, rfl⟩
  rw [Full, h.splitCnt_push, BitVec.toNat_ofNat, h.chunks.head.2.2.2.2 hne, Nat.mod_eq_of_lt (by omega)]
  omega

/-- What is left of a message in datagram mode. -/
lemma DataInv.left_push (h : DataInv ms s done m later (c :: cs) n) (hm : m.appDLen ≠ 0) :
    s.tai.taiAppDLen - BitVec.ofNat 16 c.getLen = BitVec.ofNat 16 (streamBytes cs).length ∧
      (streamBytes cs).length < 2 ^ 16 := by
  obtain ⟨hleft, hlt⟩ := h.sending.left hm
  rw [streamBytes_cons, List.length_append] at hleft hlt
  refine ⟨?_, by omega⟩
  rw [hleft, h.chunks.head.2.1, Nat.add_comm, BitVec.ofNat_add, BitVec.add_sub_cancel]

/-- Nothing is left of a message behind its last chunk only. -/
lemma ofNat_length_eq_zero {strm : Bool} (h : cs ≠ [] → Chunks strm cs)
    (hlt : (streamBytes cs).length < 2 ^ 16) :
    BitVec.ofNat 16 (streamBytes cs).length = 0 ↔ cs = [] := by
  constructor
  · intro h0
    cases cs with
    | nil => rfl
    | cons d ds =>
        have hpos := (h (List.cons_ne_nil d ds)).head.2.2.1
        have hzero := congrArg BitVec.toNat h0
        rw [BitVec.toNat_ofNat, Nat.mod_eq_of_lt hlt, streamBytes_cons, List.length_append,
          show BitVec.toNat (0 : UdpAppDLen) = 0 from rfl] at hzero
        omega
  · rintro rfl
    rfl

/-- A datagram in datagram mode ends with the message, or when it is full. -/
lemma DataInv.ends_iff (h : DataInv ms s done m later (c :: cs) n) (hm : m.appDLen ≠ 0) :
    (s.tai.taiAppDLen - BitVec.ofNat 16 c.getLen = 0 ∨ Full s.tai c) ↔
      (cs = [] ∨ n + 1 = mdsChunks) := by
  obtain ⟨hleft, hlt⟩ := h.left_push hm
  rw [hleft, ofNat_length_eq_zero (fun hne => (chunks_cons h.chunks hne).2.2) hlt]
  by_cases hne : cs = []
  · exact iff_of_true (.inl hne) (.inl hne)
  · rw [h.full_iff hne]

/-- A datagram ends with the chunk. -/
lemma DataInv.ends (h : DataInv ms s done m later (c :: cs) n)
    (hunread : data ++ s.appData = cs ++ later.flatMap (·.data))
    (hend : cs = [] ∨ n + 1 = mdsChunks) {strm : Bool}
    (hstrm : m.appDLen = 0 → strm = decide (cs ≠ [])) :
    MetaInv ms { s with tai := { taiChunk s.tai c data true with
        taiFsmState := if m.appDLen = 0 then .strmMeta else .drgmMeta
        taiStreamMode := strm } } done m later cs := by
  obtain ⟨hsend, -, hchunks, -, -, -⟩ := id h
  have hcut : cut n (c :: cs) = [c.setTLast] :: cut 0 cs := by rw [cut, if_pos hend]
  have hlast : ({ c with tlast := c.tlast || true } : AxisRaw) = c.setTLast := by
    rw [Bool.or_true]
    rfl
  refine ⟨⟨hsend.eq, ⟨hsend.unread.1, hsend.unread.2.1, hunread⟩, hsend.appMeta, h.left_push, ?_, ?_,
    ?_⟩, rfl, fun hne => (chunks_cons hchunks hne).2.2, hstrm⟩
  · show s.tai.soTdhData ++ [_] ++ _ = _
    rw [hlast, ← hsend.data, hcut, List.flatten_cons, List.append_assoc]
  · show s.tai.soTdhMeta ++ _ = _
    rw [← hsend.metas, hcut]
    rfl
  · show s.tai.soTdhDLen ++ (s.tai.taiSplitCnt + BitVec.ofNat 16 c.getLen) :: _ = _
    rw [← hsend.dLens, hcut, cutLens, cutLens_zero, h.splitCnt_push, streamBytes_cons,
      streamBytes_nil, List.append_nil]
    rfl

/-- A datagram goes on behind the chunk. -/
lemma DataInv.goesOn (h : DataInv ms s done m later (c :: cs) n)
    (hunread : data ++ s.appData = cs ++ later.flatMap (·.data))
    (hend : ¬ (cs = [] ∨ n + 1 = mdsChunks)) :
    DataInv ms { s with tai := taiChunk s.tai c data false } done m later cs (n + 1) := by
  obtain ⟨hsend, hstate, hchunks, hroom, hsplit, hstrm⟩ := id h
  obtain ⟨hne, hn⟩ := not_or.mp hend
  obtain ⟨-, hlast, hcs⟩ := chunks_cons hchunks hne
  have hfull := hchunks.head.2.2.2.2 hne
  obtain ⟨hdata, hlen⟩ := flatten_prepend (c := c) hne hn
  have hsame : ({ c with tlast := c.tlast || false } : AxisRaw) = c := by
    rw [Bool.or_false]
  refine ⟨⟨hsend.eq, ⟨hsend.unread.1, hsend.unread.2.1, hunread⟩, hsend.appMeta, h.left_push, ?_, ?_,
    ?_⟩, hstate, hcs, by omega, ?_, hstrm⟩
  · show s.tai.soTdhData ++ [_] ++ _ = _
    rw [hsame, ← hsend.data, hdata, List.append_assoc]
    rfl
  · show s.tai.soTdhMeta ++ _ = _
    rw [← hsend.metas, List.map_const', List.map_const', hlen]
  · show s.tai.soTdhDLen ++ _ = _
    rw [← hsend.dLens, cutLens_prepend hne hn hfull]
  · show s.tai.taiSplitCnt + BitVec.ofNat 16 c.getLen = _
    rw [h.splitCnt_push, hfull, Nat.mul_succ]

/-- What a call does: the invariant is kept, and if nothing blocks the process, it does some of the
work. -/
structure Step (ms : List Message) (s s' : TaiSystem) (r : Bool) : Prop where
  inv : TaiInv ms s'
  le : s'.work ≤ s.work
  lt : r = true → s.Arrived → s'.work ≤ s.work - 1

lemma Step.stay (h : TaiInv ms s) {r : Bool} (hr : r = true → s.Arrived → s.work = 0) :
    Step ms s s r := by
  refine ⟨h, le_rfl, fun hready harr => ?_⟩
  rw [hr hready harr]

lemma Step.move {s' : TaiSystem} (h : TaiInv ms s') (hw : s'.work + 1 ≤ s.work) {r : Bool} :
    Step ms s s' r := ⟨h, by omega, fun _ _ => by omega⟩

/-- A call in the state between two messages. -/
lemma IdleInv.call (h : IdleInv ms s done later) (hms : ∀ m ∈ ms, m.Ok) (k : TaiCall) :
    Step ms s (taiNext s (.call k)) (TaiEvent.call k).ready := by
  have hstay : taiNext s (.call k) = s →
      ((TaiEvent.call k).ready = true → s.Arrived → s.work = 0) →
      Step ms s (taiNext s (.call k)) (TaiEvent.call k).ready := by
    intro heq hr
    rw [heq]
    exact .stay (.idle done later h) hr
  have hwork : s.work = later.length + 2 * (later.flatMap (·.data)).length := by
    rw [TaiSystem.work, h.unread.1, h.unread.2.2, h.state, List.length_map, List.nil_append]
    rfl
  cases hmeta : s.tai.siUAIFMeta with
  | nil =>
      refine hstay ?_ fun _ harr => ?_
      · rw [taiNext, pTxApplicationInterface, h.state, hmeta]
      · have hnil := h.unread.1
        rw [hmeta, harr.1] at hnil
        obtain rfl : later = [] := List.map_eq_nil_iff.mp hnil.symm
        exact hwork
  | cons appMeta metas =>
      cases hdLen : s.tai.siUAIFDLen with
      | nil =>
          refine hstay ?_ fun _ harr => ?_
          · rw [taiNext, pTxApplicationInterface, h.state, hmeta, hdLen]
          · have hnil := h.unread.2.1
            rw [hdLen, harr.2.1] at hnil
            obtain rfl : later = [] := List.map_eq_nil_iff.mp hnil.symm
            exact hwork
      | cons appDLen dLens =>
          by_cases hen : k.mmioEn = true
          · have heq : taiNext s (.call k) =
                { s with tai := taiIdle s.tai appMeta metas appDLen dLens } := by
              rw [taiNext, pTxApplicationInterface, h.state, hmeta, hdLen]
              dsimp only
              rw [if_pos hen]
            rw [heq]
            refine .move (h.take hms hmeta hdLen) ?_
            have hpending : TaiSystem.pendingMeta
                (taiIdle s.tai appMeta metas appDLen dLens).taiFsmState = 0 := by
              show TaiSystem.pendingMeta (if appDLen = 0 then _ else _) = 0
              split <;> rfl
            rw [TaiSystem.work, TaiSystem.work, hmeta, hpending]
            simp only [taiIdle, List.length_append, List.length_cons]
            omega
          · refine hstay ?_ fun hr => absurd hr ?_
            · rw [taiNext, pTxApplicationInterface, h.state, hmeta, hdLen]
              dsimp only
              rw [if_neg hen]
            · rw [TaiEvent.ready, Bool.eq_false_of_not_eq_true hen]
              exact Bool.false_ne_true

/-- The two modes read the data in the same way. -/
lemma tai_data {t : Tai} {p : Prop} [Decidable p]
    (h : t.taiFsmState = if p then .strmData else .drgmData) (k : TaiCall) :
    pTxApplicationInterface t k = match t.siUAIFData with
      | c :: data =>
          if k.tdhDataRoom then if p then taiStrmData t c data else taiDrgmData t c data else t
      | [] => t := by
  rw [pTxApplicationInterface, h]
  by_cases hp : p
  · rw [if_pos hp]
    cases t.siUAIFData with
    | nil => rfl
    | cons c data =>
        dsimp only
        rw [if_pos hp]
  · rw [if_neg hp]
    cases t.siUAIFData with
    | nil => rfl
    | cons c data =>
        dsimp only
        rw [if_neg hp]

/-- The two modes emit the meta-data in the same way. -/
lemma tai_meta {t : Tai} {p : Prop} [Decidable p]
    (h : t.taiFsmState = if p then .strmMeta else .drgmMeta) (k : TaiCall) :
    pTxApplicationInterface t k = if k.tdhMetaRoom && k.tdhDLenRoom then
      if p then taiMeta t (!t.taiStreamMode) .strmData else taiMeta t (t.taiAppDLen = 0) .drgmData
      else t := by
  rw [pTxApplicationInterface, h]
  by_cases hp : p
  · simp only [if_pos hp]
  · simp only [if_neg hp]

/-- The next chunk. -/
lemma DataInv.push (h : DataInv ms s done m later (c :: cs) n)
    (hunread : data ++ s.appData = cs ++ later.flatMap (·.data)) :
    TaiInv ms { s with tai :=
      if m.appDLen = 0 then taiStrmData s.tai c data else taiDrgmData s.tai c data } := by
  by_cases hm : m.appDLen = 0
  · have hdone : ∀ ends, c.tlast = true → taiChunk s.tai c data ends = taiChunk s.tai c data true := by
      intro ends hlast
      rw [taiChunk, taiChunk, hlast, Bool.true_or, Bool.true_or]
    rw [if_pos hm, taiStrmData]
    by_cases hne : cs = []
    · subst hne
      have hlast : c.tlast = true := (chunks_last h.chunks).2 (decide_eq_true hm)
      have hends := @DataInv.ends _ _ _ _ _ _ _ _ _ h hunread (.inl rfl) false fun _ => rfl
      rw [if_pos hm] at hends
      rw [if_pos hlast, hdone false hlast]
      exact .metas done m later [] hends
    · obtain ⟨-, hlast, -⟩ := chunks_cons h.chunks hne
      rw [if_neg (by rw [hlast]; exact Bool.false_ne_true)]
      by_cases hn : n + 1 = mdsChunks
      · have hends := @DataInv.ends _ _ _ _ _ _ _ _ _ h hunread (.inr hn)
          s.tai.taiStreamMode fun hz => by
          rw [h.streamMode hz, decide_eq_true hne]
        rw [if_pos hm] at hends
        rw [if_pos ((h.full_iff hne).mpr hn)]
        exact .metas done m later cs hends
      · rw [if_neg fun hfull => hn ((h.full_iff hne).mp hfull)]
        exact .data done m later cs (n + 1) (h.goesOn hunread (not_or.mpr ⟨hne, hn⟩))
  · rw [if_neg hm, taiDrgmData]
    by_cases hend : cs = [] ∨ n + 1 = mdsChunks
    · have hends := @DataInv.ends _ _ _ _ _ _ _ _ _ h hunread hend s.tai.taiStreamMode
        fun hz => absurd hz hm
      rw [if_neg hm] at hends
      rw [if_pos ((h.ends_iff hm).mpr hend)]
      exact .metas done m later cs hends
    · rw [if_neg fun hcond => hend ((h.ends_iff hm).mp hcond)]
      exact .data done m later cs (n + 1) (h.goesOn hunread hend)

/-- A call that reads a chunk. -/
lemma DataInv.call (h : DataInv ms s done m later rest n) (k : TaiCall) :
    Step ms s (taiNext s (.call k)) (TaiEvent.call k).ready := by
  have hunread := h.sending.unread
  have hstay : taiNext s (.call k) = s →
      ((TaiEvent.call k).ready = true → s.Arrived → s.work = 0) →
      Step ms s (taiNext s (.call k)) (TaiEvent.call k).ready := by
    intro heq hr
    rw [heq]
    exact .stay (.data done m later rest n h) hr
  cases hdata : s.tai.siUAIFData with
  | nil =>
      refine hstay ?_ fun _ harr => ?_
      · rw [taiNext, tai_data h.state, hdata]
      · have hnil := hunread.2.2
        rw [hdata, harr.2.2] at hnil
        exact absurd (List.append_eq_nil_iff.mp hnil.symm).1 h.chunks.ne_nil
  | cons c data =>
      by_cases hroom : k.tdhDataRoom = true
      · obtain ⟨cs, rfl, hcs⟩ := h.chunk hdata
        have heq : taiNext s (.call k) =
            ⟨if m.appDLen = 0 then taiStrmData s.tai c data else taiDrgmData s.tai c data,
              s.appMetas, s.appDLens, s.appData⟩ := by
          rw [taiNext, tai_data h.state, hdata]
          dsimp only
          rw [if_pos hroom]
        rw [heq]
        refine .move (h.push hcs) ?_
        have hle : ∀ t : TaiFsmStates, TaiSystem.pendingMeta t ≤ 1 := by
          intro t
          cases t <;> decide
        have hdata' : ∀ p : Prop, [Decidable p] →
            (if p then taiStrmData s.tai c data else taiDrgmData s.tai c data).siUAIFData = data ∧
              (if p then taiStrmData s.tai c data else taiDrgmData s.tai c data).siUAIFMeta =
                s.tai.siUAIFMeta := by
          intro p _
          split
          · rw [taiStrmData]
            split
            · exact ⟨rfl, rfl⟩
            · split <;> exact ⟨rfl, rfl⟩
          · rw [taiDrgmData]
            split <;> exact ⟨rfl, rfl⟩
        rw [TaiSystem.work, TaiSystem.work, hdata]
        dsimp only
        rw [(hdata' _).1, (hdata' _).2]
        have := hle (if m.appDLen = 0 then taiStrmData s.tai c data
          else taiDrgmData s.tai c data).taiFsmState
        simp only [List.length_append, List.length_cons]
        omega
      · refine hstay ?_ fun hr => absurd hr ?_
        · rw [taiNext, tai_data h.state, hdata]
          dsimp only
          rw [if_neg hroom]
        · rw [TaiEvent.ready, Bool.eq_false_of_not_eq_true hroom, Bool.and_false]
          exact Bool.false_ne_true

/-- A call that emits the meta-data of a datagram. -/
lemma MetaInv.call (h : MetaInv ms s done m later rest) (k : TaiCall) :
    Step ms s (taiNext s (.call k)) (TaiEvent.call k).ready := by
  obtain ⟨hsend, hstate, hchunks, hstrm⟩ := id h
  have hunread := hsend.unread
  by_cases hroom : (k.tdhMetaRoom && k.tdhDLenRoom) = true
  · -- the message ends with the datagram
    have hends : ∀ b : Bool, b = decide (rest = []) →
        TaiInv ms { s with tai := taiMeta s.tai b (if m.appDLen = 0 then .strmData else .drgmData) } := by
      rintro b rfl
      by_cases hrest : rest = []
      · subst hrest
        have hstop : taiMeta s.tai (decide ([] = ([] : List AxisRaw)))
            (if m.appDLen = 0 then .strmData else .drgmData) = { s.tai with
              soTdhMeta := s.tai.soTdhMeta ++ [s.tai.taiAppMeta]
              soTdhDLen := s.tai.soTdhDLen ++ [s.tai.taiSplitCnt]
              taiFsmState := .idle } := rfl
        have hdata := hsend.data
        rw [cut, List.flatten_nil, List.append_nil] at hdata
        rw [hstop]
        refine .idle (done ++ [m]) later ⟨?_, rfl, hunread, hdata, ?_, ?_⟩
        · rw [hsend.eq, List.append_assoc, List.singleton_append]
        · show s.tai.soTdhMeta ++ [s.tai.taiAppMeta] = _
          rw [hsend.appMeta]
          exact hsend.metas
        · exact hsend.dLens
      · have hgo : taiMeta s.tai (decide (rest = []))
            (if m.appDLen = 0 then .strmData else .drgmData) = { s.tai with
              soTdhMeta := s.tai.soTdhMeta ++ [s.tai.taiAppMeta]
              soTdhDLen := s.tai.soTdhDLen ++ [s.tai.taiSplitCnt]
              taiFsmState := if m.appDLen = 0 then .strmData else .drgmData
              taiSplitCnt := 0 } := by
          rw [taiMeta, decide_eq_false hrest]
          rfl
        rw [hgo]
        refine .data done m later rest 0 ⟨⟨hsend.eq, hunread, hsend.appMeta, hsend.left, hsend.data, ?_,
          ?_⟩, rfl, hchunks hrest, by decide, rfl, fun hz => ?_⟩
        · show s.tai.soTdhMeta ++ [s.tai.taiAppMeta] ++ _ = _
          rw [hsend.appMeta, List.append_assoc]
          exact hsend.metas
        · show s.tai.soTdhDLen ++ [s.tai.taiSplitCnt] ++ _ = _
          rw [List.append_assoc]
          exact hsend.dLens
        · show s.tai.taiStreamMode = true
          rw [hstrm hz, decide_eq_true hrest]
    have heq : ∃ b, b = decide (rest = []) ∧ taiNext s (.call k) =
        ⟨taiMeta s.tai b (if m.appDLen = 0 then .strmData else .drgmData), s.appMetas, s.appDLens,
          s.appData⟩ := by
      rw [taiNext, tai_meta hstate, if_pos hroom]
      by_cases hm : m.appDLen = 0
      · refine ⟨!s.tai.taiStreamMode, ?_, by rw [if_pos hm, if_pos hm]⟩
        rw [hstrm hm, decide_not, Bool.not_not]
      · obtain ⟨hleft, hlt⟩ := hsend.left hm
        refine ⟨decide (s.tai.taiAppDLen = 0), ?_, by rw [if_neg hm, if_neg hm]⟩
        rw [hleft]
        exact decide_eq_decide.mpr (ofNat_length_eq_zero hchunks hlt)
    obtain ⟨b, hb, heq⟩ := heq
    rw [heq]
    refine .move (hends b hb) ?_
    have hpending : TaiSystem.pendingMeta s.tai.taiFsmState = 1 ∧ TaiSystem.pendingMeta
        (taiMeta s.tai b (if m.appDLen = 0 then .strmData else .drgmData)).taiFsmState = 0 := by
      constructor
      · rw [hstate]
        split <;> rfl
      · cases b
        · show TaiSystem.pendingMeta (if m.appDLen = 0 then _ else _) = 0
          split <;> rfl
        · rfl
    rw [TaiSystem.work, TaiSystem.work, hpending.1, hpending.2]
    exact le_rfl
  · have heq : taiNext s (.call k) = s := by
      rw [taiNext, tai_meta hstate, if_neg hroom]
    rw [heq]
    refine .stay (.metas done m later rest h) fun hr => absurd hr ?_
    rw [TaiEvent.ready, Bool.and_assoc, Bool.eq_false_of_not_eq_true hroom, Bool.and_false]
    exact Bool.false_ne_true

/-- **A step keeps the invariant**, and does some of the work. -/
lemma TaiInv.step (h : TaiInv ms s) (hms : ∀ m ∈ ms, m.Ok) (e : TaiEvent) :
    Step ms s (taiNext s e) e.ready := by
  by_cases he : ∃ k, e = .call k
  · obtain ⟨k, rfl⟩ := he
    cases h with
    | idle done later h => exact h.call hms k
    | data done m later rest n h => exact h.call k
    | metas done m later rest h => exact h.call k
  · have he' : ∀ k, e ≠ .call k := fun k hk => he ⟨k, hk⟩
    obtain ⟨hinv, hwork⟩ := h.arrive he'
    refine ⟨hinv, hwork.le, fun hr => absurd hr ?_⟩
    cases e with
    | call k => exact absurd rfl (he' k)
    | appMeta => exact Bool.false_ne_true
    | appDLen => exact Bool.false_ne_true
    | appData => exact Bool.false_ne_true

end Steps

/-! ### Runs -/

section Runs

variable {ms : List Message} {m : Message} {s : TaiSystem}

/-- The datagrams of a message carry its data, and there is one item of meta-data and one length for
each of them. -/
structure Segmented (m : Message) : Prop where
  cuts : Cuts m.data m.datagrams
  metas : m.metas = List.replicate m.datagrams.length m.appMeta
  dLens : m.dLens.map BitVec.toNat = m.datagrams.map fun d => (streamBytes d).length

lemma Message.Ok.segmented (h : m.Ok) : Segmented m := by
  have hcuts := cut_cuts h.chunks
  refine ⟨hcuts, List.map_const' .., ?_⟩
  rw [Message.dLens, List.map_map]
  refine List.map_congr_left fun d hd => ?_
  have hlen := (hcuts.length d hd).2
  have hmds : udpMds = 1416 := rfl
  rw [Function.comp_apply, BitVec.toNat_ofNat, Nat.mod_eq_of_lt (by omega)]

/-- A part of the datagrams of some messages is a part of those of more messages. -/
lemma prefix_flatMap {α : Type} {f : Message → List α} {done later : List Message} {xs ys : List α}
    (h : xs ++ ys = (done ++ [m]).flatMap f) : xs <+: (done ++ m :: later).flatMap f := by
  have hsplit : done ++ m :: later = (done ++ [m]) ++ later := by rw [List.append_assoc]; rfl
  rw [hsplit, List.flatMap_append, ← h, List.append_assoc]
  exact List.prefix_append xs _

lemma Sending.emitting {done later : List Message} {rest : List AxisRaw}
    {pieces : List (List AxisRaw)} {metas : List UdpAppMeta} {dLens : List UdpAppDLen}
    (h : Sending ms s done m later rest pieces metas dLens) : s.Emitting ms := by
  rw [h.eq]
  exact ⟨prefix_flatMap h.data, prefix_flatMap h.metas, prefix_flatMap h.dLens⟩

lemma TaiInv.emitting (h : TaiInv ms s) : s.Emitting ms := by
  cases h with
  | idle done later h =>
      obtain ⟨hdata, hmetas, hlens⟩ := h.emitted
      rw [h.eq]
      refine ⟨?_, ?_, ?_⟩
      · rw [hdata, List.flatMap_append]
        exact List.prefix_append _ _
      · rw [hmetas, List.flatMap_append]
        exact List.prefix_append _ _
      · rw [hlens, List.flatMap_append]
        exact List.prefix_append _ _
  | data done m later rest n h => exact h.sending.emitting
  | metas done m later rest h => exact h.sending.emitting

/-- The process is idle between two messages only. -/
lemma TaiInv.of_idle (h : TaiInv ms s) (hidle : s.tai.taiFsmState = .idle) :
    ∃ done later, ms = done ++ later ∧ s.Unread later [] ∧ s.Emitted done := by
  cases h with
  | idle done later h => exact ⟨done, later, h.eq, h.unread, h.emitted⟩
  | data done m later rest n h =>
      have hstate := hidle.symm.trans h.state
      split at hstate <;> cases hstate
  | metas done m later rest h =>
      have hstate := hidle.symm.trans h.state
      split at hstate <;> cases hstate

/-- Without work the process has emitted everything. -/
lemma TaiInv.of_work (h : TaiInv ms s) (hwork : s.work = 0) :
    s.tai.taiFsmState = .idle ∧ s.Unread [] [] ∧ s.Emitted ms := by
  rw [TaiSystem.work] at hwork
  cases h with
  | idle done later h =>
      obtain rfl : later = [] := by
        have hlen := congrArg List.length h.unread.1
        rw [List.length_map] at hlen
        exact List.length_eq_zero_iff.mp (by omega)
      have hms : ms = done := h.eq.trans (List.append_nil done)
      exact ⟨h.state, h.unread, hms ▸ h.emitted⟩
  | data done m later rest n h =>
      have hlen := (congrArg List.length h.sending.unread.2.2).trans List.length_append
      have hpos := List.length_pos_iff.mpr h.chunks.ne_nil
      omega
  | metas done m later rest h =>
      have hpending : TaiSystem.pendingMeta s.tai.taiFsmState = 1 := by
        rw [h.state]
        split <;> rfl
      omega

lemma taiInv_sending (ms : List Message) : TaiInv ms (sending ms) :=
  .idle [] ms ⟨rfl, rfl, ⟨rfl, rfl, rfl⟩, ⟨rfl, rfl, rfl⟩⟩

lemma arrived_next (h : s.Arrived) (e : TaiEvent) : (taiNext s e).Arrived := by
  obtain ⟨h₁, h₂, h₃⟩ := h
  cases e with
  | appMeta => rw [taiNext, h₁]; exact ⟨h₁, h₂, h₃⟩
  | appDLen => rw [taiNext, h₂]; exact ⟨h₁, h₂, h₃⟩
  | appData => rw [taiNext, h₃]; exact ⟨h₁, h₂, h₃⟩
  | call k => exact ⟨h₁, h₂, h₃⟩

/-- **The datagrams of the messages.** Whatever the order in which the items of the messages arrive
and the process is called, it emits the datagrams of the messages and nothing else; when it is idle, it
has read and emitted whole messages; and once everything has arrived, it emits everything as soon as
it is not blocked often enough. -/
theorem datagrams_of_messages (hms : ∀ m ∈ ms, m.Ok) (es : List TaiEvent) :
    let s := Clocked.run taiNext (sending ms) es
    (∀ m ∈ ms, Segmented m) ∧ s.Emitting ms ∧
      (s.tai.taiFsmState = .idle →
        ∃ done later, ms = done ++ later ∧ s.Unread later [] ∧ s.Emitted done) ∧
      (s.Arrived → ∀ es' : List TaiEvent,
        ms.length + 2 * (ms.flatMap (·.data)).length ≤ es'.countP TaiEvent.ready →
          let s' := Clocked.run taiNext s es'
          s'.tai.taiFsmState = .idle ∧ s'.Unread [] [] ∧ s'.Emitted ms) := by
  have hstep : ∀ s e, TaiInv ms s → True →
      Clocked.Progress (TaiInv ms) TaiSystem.work (fun _ => false) s e (taiNext s e) := by
    intro s e hs _
    obtain ⟨hinv, hle, -⟩ := hs.step hms e
    exact ⟨hinv, hle, nofun⟩
  have hstep' : ∀ s e, TaiInv ms s ∧ s.Arrived → True →
      Clocked.Progress (fun s => TaiInv ms s ∧ s.Arrived) TaiSystem.work TaiEvent.ready s e
        (taiNext s e) := by
    intro s e hs _
    obtain ⟨hinv, hle, hlt⟩ := hs.1.step hms e
    exact ⟨⟨hinv, arrived_next hs.2 e⟩, hle, fun hr => hlt hr hs.2⟩
  obtain ⟨hinv, hle⟩ := Clocked.run_work hstep (taiInv_sending ms) (Clocked.along_trivial taiNext _ es)
  refine ⟨fun m hm => (hms m hm).segmented, hinv.emitting, hinv.of_idle, fun harr es' hes' => ?_⟩
  obtain ⟨⟨hinv', -⟩, hwork⟩ :=
    Clocked.run_work hstep' ⟨hinv, harr⟩ (Clocked.along_trivial taiNext _ es')
  refine hinv'.of_work ?_
  have hstart : (sending ms).work = ms.length + 2 * (ms.flatMap (·.data)).length := by
    rw [TaiSystem.work, sending]
    simp only [List.nil_append, List.length_map]
    rfl
  omega

/-- A message of 12 bytes in datagram mode, without `tlast`, and one of 3 bytes in streaming mode. -/
def twoMessages : List Message :=
  [⟨{}, 12, [⟨List.replicate 8 ⟨1, true⟩, false, Eq.refl 8⟩,
      ⟨List.replicate 4 ⟨2, true⟩ ++ List.replicate 4 ⟨0, false⟩, false, rfl⟩]⟩,
    ⟨{}, 0, [⟨List.replicate 3 ⟨3, true⟩ ++ List.replicate 5 ⟨0, false⟩, true, rfl⟩]⟩]

/-- Both are emitted, although a call is blocked before the rest of the items arrives. -/
theorem datagrams_twoMessages :
    let s := Clocked.run taiNext (sending twoMessages) [.appMeta, .appDLen, .call {}, .appData,
      .call { tdhDataRoom := false }, .appMeta, .appDLen, .appData, .appData]
    (Clocked.run taiNext s (List.replicate 8 (.call {}))).Emitted twoMessages := by
  have hok : ∀ m ∈ twoMessages, m.Ok := by
    intro m hm
    rcases List.mem_cons.mp hm with rfl | hm
    · exact ⟨by decide, by decide⟩
    · obtain rfl := List.mem_singleton.mp hm
      exact ⟨by decide, by decide⟩
  exact ((datagrams_of_messages hok _).2.2.2 ⟨rfl, rfl, rfl⟩ _ (by decide)).2.2

end Runs

end CloudFpga.Uoe
