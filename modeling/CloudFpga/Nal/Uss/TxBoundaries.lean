import CloudFpga.Foundation.Clocked
import CloudFpga.Nal.Tss.RxDeq
import CloudFpga.Nal.Uss.UdpTx
import CloudFpga.Uoe.TxApplicationInterface

/-!
The boundaries of the packets between the NAL and the UOE on UDP transmission: `pUdpTX`, then
`pUoeUdpTxDeq` (`uss.cpp`), then `pTxApplicationInterface` (`uoe.cpp`).

* `udpPathNext`: one step of the three processes, or of what surrounds them.
* `InStep`: what the UOE takes for each packet are the bytes of this packet, and at most as many as
  were announced.
* `ChunkOk`: where `pUdpTX` ends a packet, the announced length is reached exactly, and not before.
* `inStep_of_ok`: this condition keeps both in step.
-/

namespace CloudFpga.Nal

open Foundation Uoe

/-- The three processes. No step reads `seen` and `passed`, the packets that `pUoeUdpTxDeq` has read
and those of them it has forwarded, nor `passing`, whether it forwards the present one. -/
structure UdpTxPath where
  tx : UdpTx := {}
  deqFsmState : DeqFsmStates := .waitMeta
  tai : Tai := {}
  seen : List UdpPacket := []
  passed : List UdpPacket := []
  passing : Bool := false

/-- Whether the UOE is disabled, and which of its streams have room. -/
structure UdpDeqCall where
  uoeDisabled : Bool := false
  dataRoom : Bool := true
  metaRoom : Bool := true
  dLenRoom : Bool := true
  deriving DecidableEq

section Process

variable (s : UdpTxPath) (k : UdpDeqCall)

/-- `DEQ_WAIT_META`: the first chunk of a packet, with its meta-data. -/
def deqFirst (curWord : AxisRaw) (data : List AxisRaw) (curMeta : UdpAppMeta)
    (metas : List UdpAppMeta) (curDLen : UdpAppDLen) (dLens : List UdpAppDLen) : UdpTxPath :=
  { tx := { s.tx with soUOEData := data, soUOEMeta := metas, soUOEDLen := dLens }
    deqFsmState := if curWord.tlast then .waitMeta else .streamData
    tai :=
      if k.uoeDisabled then s.tai
      else
        { s.tai with
          siUAIFData := s.tai.siUAIFData ++ [curWord]
          siUAIFMeta := s.tai.siUAIFMeta ++ [curMeta]
          siUAIFDLen := s.tai.siUAIFDLen ++ [curDLen] }
    seen := Frame.push (Frame.start s.seen (curMeta, curDLen)) curWord
    passed :=
      if k.uoeDisabled then s.passed
      else Frame.push (Frame.start s.passed (curMeta, curDLen)) curWord
    passing := !k.uoeDisabled }

/-- `DEQ_STREAM_DATA`: a further chunk. -/
def deqNext (curWord : AxisRaw) (data : List AxisRaw) : UdpTxPath :=
  { s with
    tx := { s.tx with soUOEData := data }
    deqFsmState := if curWord.tlast then .waitMeta else .streamData
    tai :=
      if k.uoeDisabled then s.tai
      else { s.tai with siUAIFData := s.tai.siUAIFData ++ [curWord] }
    seen := Frame.push s.seen curWord
    passed := if k.uoeDisabled then s.passed else Frame.push s.passed curWord }

/-- One call. -/
def pUoeUdpTxDeq : UdpTxPath :=
  match s.deqFsmState with
  | .streamData =>
      match s.tx.soUOEData with
      | curWord :: data =>
          if k.dataRoom || k.uoeDisabled then deqNext s k curWord data else s
      | [] => s
  | _ =>
      match s.tx.soUOEData, s.tx.soUOEMeta, s.tx.soUOEDLen with
      | curWord :: data, curMeta :: metas, curDLen :: dLens =>
          if (k.dataRoom && k.metaRoom && k.dLenRoom) || k.uoeDisabled then
            deqFirst s k curWord data curMeta metas curDLen dLens
          else s
      | _, _, _ => s

end Process

/-- Meta-data or a chunk of the ROLE, a reply of the MRT agency, an invalidation of the cache, or a
call of one of the processes. -/
inductive UdpTxStep where
  | roleMeta (m : NetworkMeta)
  | roleData (c : NetworkWord)
  | mrtReply (ip : Ip4Addr)
  | cacheInval (sig : Bool)
  | tx (k : UdpTxCall)
  | deq (k : UdpDeqCall)
  | tai (k : TaiCall)
  deriving DecidableEq

def udpPathNext (s : UdpTxPath) : UdpTxStep → UdpTxPath
  | .roleMeta m => { s with tx := { s.tx with siUdpMeta := s.tx.siUdpMeta ++ [m] } }
  | .roleData c => { s with tx := { s.tx with siUdpData := s.tx.siUdpData ++ [c] } }
  | .mrtReply ip => { s with tx := { s.tx with sGetIpRep := s.tx.sGetIpRep ++ [ip] } }
  | .cacheInval sig => { s with tx := { s.tx with cacheInvalSig := s.tx.cacheInvalSig ++ [sig] } }
  | .tx k => { s with tx := pUdpTX s.tx k }
  | .deq k => pUoeUdpTxDeq s k
  | .tai k => { s with tai := pTxApplicationInterface s.tai k }

/-! ### The property and the condition -/

/-- The announced length of a packet, zero if it ends with `tlast`. -/
def announcedLen (p : UdpPacket) : ℕ := p.head.2.toNat

abbrev PacketsEnded (ps : List UdpPacket) : Prop := Frame.Ended AxisRaw.tlast ps

abbrev PacketCurrent (ps : List UdpPacket) (t : UdpPacket) : Prop :=
  Frame.Current AxisRaw.tlast ps t

/-- The UOE is between two packets, up to the meta-data of the last datagram. -/
def BetweenPackets (t : Tai) : Prop :=
  t.taiFsmState = .idle ∨ t.taiFsmState = .drgmMeta ∧ t.taiAppDLen = 0 ∨
    t.taiFsmState = .strmMeta ∧ t.taiStreamMode = false

/-- The UOE counts the rest of an announced length. -/
def InDatagram (t : Tai) : Prop := t.taiFsmState = .drgmData ∨ t.taiFsmState = .drgmMeta

/-- The NAL and the UOE are in step. -/
structure InStep (s : UdpTxPath) : Prop where
  /-- The packets are read from the buffer in their order, and forwarded as a whole or not at all. -/
  seen : Frame.Follows s.seen s.tx.packets
  passed : s.passed.Sublist s.seen
  /-- What the UOE takes for each packet are the bytes of this packet. -/
  taken : Frame.Follows s.tai.taken s.passed
  /-- It sends these bytes, and the socket pair of the last packet with its datagrams. -/
  sent : s.tai.soTdhData.map AxisRaw.lanes = (Frame.items s.tai.taken).map AxisRaw.lanes
  appMeta : ∀ m ∈ (Frame.heads s.tai.taken).getLast?, m.1 = s.tai.taiAppMeta
  announced : ∀ p ∈ s.tai.taken, p.head.2 ≠ 0 → byteSum p.body ≤ announcedLen p
  /-- The counter holds the rest of the announced length. -/
  remaining : InDatagram s.tai → ∃ pre p, s.tai.taken = pre ++ [p] ∧
    s.tai.taiAppDLen.toNat + byteSum p.body = announcedLen p
  between : BetweenPackets s.tai ↔ PacketsEnded s.tai.taken

/-- The bytes of the present packet that were forwarded. -/
def sentBytes (s : UdpTx) : ℕ := byteSum ((s.packets.getLast?.map Frame.body).getD [])

/-- With the chunk the announced length, if there is one, is reached exactly where `pUdpTX` ends the
packet. -/
def ChunkOk (s : UdpTx) (c : NetworkWord) : Prop :=
  s.udpTXPacketLength = 0 ∨
    if Closes s c then sentBytes s + c.getLen = s.udpTXPacketLength.toNat
    else sentBytes s + c.getLen < s.udpTXPacketLength.toNat

/-- The condition on a step: the chunks of a forwarded packet meet `ChunkOk`, and the UOE is not
enabled or disabled within a packet. -/
def UdpStepOk (s : UdpTxPath) : UdpTxStep → Prop
  | .tx k => s.tx.fsmStateTXUdp = .acc → k.uoeDataRoom = true → ∀ c ∈ s.tx.siUdpData.head?,
      ChunkOk s.tx c
  | .deq k => s.deqFsmState = .streamData → s.tx.soUOEData ≠ [] →
      (k.dataRoom || k.uoeDisabled) = true → k.uoeDisabled = !s.passing
  | _ => True

/-! ### The invariant -/

/-- Where the packet ends the announced length is reached exactly, and not before. -/
def LenOk (p : UdpPacket) : Prop :=
  p.head.2 ≠ 0 → ∀ cs c, cs ++ [c] <+: p.body →
    if c.tlast then byteSum cs + c.getLen = announcedLen p else byteSum cs + c.getLen < announcedLen p

lemma LenOk.of_start {p q : UdpPacket} (h : LenOk q) (hhead : p.head = q.head)
    (hbody : p.body <+: q.body) : LenOk p := by
  intro hlen cs c hcs
  rw [announcedLen, hhead]
  exact h (hhead ▸ hlen) cs c (hcs.trans hbody)

/-- What holds of `pUdpTX`. -/
structure TxOk (s : UdpTx) : Prop where
  current : s.fsmStateTXUdp = .acc → ∃ t, PacketCurrent s.packets t ∧
    t.head.2 = s.udpTXPacketLength
  ended : s.fsmStateTXUdp ≠ .acc → PacketsEnded s.packets
  lenOk : ∀ p ∈ s.packets, LenOk p

/-- The open packet of the UOE, whose announced length is counted. -/
def DatagramOpen (t : Tai) : Prop :=
  ∃ p, PacketCurrent t.taken p ∧ p.head.2 ≠ 0 ∧ t.taiAppDLen ≠ 0 ∧
    t.taiAppDLen.toNat + byteSum p.body = announcedLen p

/-- The open packet of the UOE without an announced length. -/
def StreamOpen (t : Tai) : Prop :=
  t.taiStreamMode = true ∧ ∃ p, PacketCurrent t.taken p ∧ p.head.2 = 0

/-- What holds of `pTxApplicationInterface` in each state. -/
def TaiOk (t : Tai) : Prop :=
  match t.taiFsmState with
  | .idle => PacketsEnded t.taken
  | .drgmData => DatagramOpen t
  | .drgmMeta => DatagramOpen t ∨ t.taiAppDLen = 0 ∧ PacketsEnded t.taken ∧
      ∃ pre p, t.taken = pre ++ [p] ∧ byteSum p.body = announcedLen p
  | .strmData => StreamOpen t
  | .strmMeta => StreamOpen t ∨ t.taiStreamMode = false ∧ PacketsEnded t.taken

/-- The pairs of meta-data and length in two streams. -/
def Paired (hs : List (UdpAppMeta × UdpAppDLen)) (metas : List UdpAppMeta)
    (dLens : List UdpAppDLen) : Prop :=
  metas = hs.map Prod.fst ∧ dLens = hs.map Prod.snd

structure PathInv (s : UdpTxPath) : Prop where
  tx : TxOk s.tx
  fifo : ∃ hs, Paired hs s.tx.soUOEMeta s.tx.soUOEDLen ∧
    Frame.Carries s.tx.packets s.seen hs s.tx.soUOEData
  waiting : s.deqFsmState ≠ .streamData → PacketsEnded s.seen ∧ s.passed.Sublist s.seen
  streaming : s.deqFsmState = .streamData → ∃ pre t, s.seen = pre ++ [t] ∧ PacketsEnded pre ∧
    t.Open AxisRaw.tlast ∧ ∃ pre', pre'.Sublist pre ∧
      s.passed = if s.passing then pre' ++ [t] else pre'
  uoe : ∃ hs, Paired hs s.tai.siUAIFMeta s.tai.siUAIFDLen ∧
    Frame.Carries s.passed s.tai.taken hs s.tai.siUAIFData
  tai : TaiOk s.tai
  sent : s.tai.soTdhData.map AxisRaw.lanes = (Frame.items s.tai.taken).map AxisRaw.lanes
  appMeta : ∀ m ∈ (Frame.heads s.tai.taken).getLast?, m.1 = s.tai.taiAppMeta
  announced : ∀ p ∈ s.tai.taken, p.head.2 ≠ 0 → byteSum p.body ≤ announcedLen p

namespace PathInv

variable {s : UdpTxPath}

lemma packets_framed (h : PathInv s) : Frame.Framed AxisRaw.tlast s.tx.packets := by
  by_cases hacc : s.tx.fsmStateTXUdp = .acc
  · obtain ⟨t, ht, -⟩ := h.tx.current hacc
    exact ht.framed
  · exact (h.tx.ended hacc).framed

lemma seen_follows (h : PathInv s) : Frame.Follows s.seen s.tx.packets := by
  obtain ⟨hs, -, hcarries⟩ := h.fifo
  by_cases hst : s.deqFsmState = .streamData
  · obtain ⟨pre, t, hseen, hpre, ht, -⟩ := h.streaming hst
    exact hcarries.follows_current h.packets_framed ⟨pre, hseen, hpre, ht⟩
  · exact hcarries.follows h.packets_framed (h.waiting hst).1

lemma passed_sublist (h : PathInv s) : s.passed.Sublist s.seen := by
  by_cases hst : s.deqFsmState = .streamData
  · obtain ⟨pre, t, hseen, -, -, pre', hsub, hpassed⟩ := h.streaming hst
    rw [hpassed, hseen]
    split
    · exact hsub.append (List.Sublist.refl [t])
    · exact hsub.trans (List.sublist_append_left pre [t])
  · exact (h.waiting hst).2

lemma passed_framed (h : PathInv s) : Frame.Framed AxisRaw.tlast s.passed := by
  by_cases hst : s.deqFsmState = .streamData
  · obtain ⟨pre, t, -, hpre, ht, pre', hsub, hpassed⟩ := h.streaming hst
    rw [hpassed]
    split
    · exact Frame.framed_of_open (Frame.Ended.of_sublist hpre hsub) ht
    · exact Frame.framed_of_complete (Frame.Ended.of_sublist hpre hsub)
  · obtain ⟨hseen, hsub⟩ := h.waiting hst
    exact Frame.framed_of_complete (Frame.Ended.of_sublist hseen hsub)

lemma passed_lenOk (h : PathInv s) {p : UdpPacket} (hp : p ∈ s.passed) : LenOk p := by
  obtain ⟨q, hq, hhead, hbody⟩ := h.seen_follows.mem (h.passed_sublist.subset hp)
  exact (h.tx.lenOk q hq).of_start hhead hbody

lemma taken_follows (h : PathInv s) : Frame.Follows s.tai.taken s.passed := by
  obtain ⟨hs, -, hcarries⟩ := h.uoe
  have hended (ht : PacketsEnded s.tai.taken) := hcarries.follows h.passed_framed ht
  have hcurrent {p : UdpPacket} (ht : PacketCurrent s.tai.taken p) :=
    hcarries.follows_current h.passed_framed ht
  have htai := h.tai
  rw [TaiOk] at htai
  cases hst : s.tai.taiFsmState with
  | idle =>
      rw [hst] at htai
      exact hended htai
  | drgmData =>
      rw [hst] at htai
      obtain ⟨p, hp, -⟩ := htai
      exact hcurrent hp
  | drgmMeta =>
      rw [hst] at htai
      rcases htai with ⟨p, hp, -⟩ | ⟨-, hp, -⟩
      · exact hcurrent hp
      · exact hended hp
  | strmData =>
      rw [hst] at htai
      obtain ⟨-, p, hp, -⟩ := htai
      exact hcurrent hp
  | strmMeta =>
      rw [hst] at htai
      rcases htai with ⟨-, p, hp, -⟩ | ⟨-, hp⟩
      · exact hcurrent hp
      · exact hended hp

lemma remaining (h : PathInv s) (hin : InDatagram s.tai) : ∃ pre p, s.tai.taken = pre ++ [p] ∧
    s.tai.taiAppDLen.toNat + byteSum p.body = announcedLen p := by
  have hopen (ht : DatagramOpen s.tai) : ∃ pre p, s.tai.taken = pre ++ [p] ∧
      s.tai.taiAppDLen.toNat + byteSum p.body = announcedLen p := by
    obtain ⟨p, ⟨pre, hpre, -⟩, -, -, hlen⟩ := ht
    exact ⟨pre, p, hpre, hlen⟩
  have htai := h.tai
  rw [TaiOk] at htai
  rcases hin with hst | hst
  · rw [hst] at htai
    exact hopen htai
  · rw [hst] at htai
    rcases htai with ht | ⟨hzero, -, pre, p, hpre, hlen⟩
    · exact hopen ht
    · exact ⟨pre, p, hpre, by rw [hzero, hlen]; exact Nat.zero_add _⟩

lemma between (h : PathInv s) : BetweenPackets s.tai ↔ PacketsEnded s.tai.taken := by
  have htai := h.tai
  rw [TaiOk] at htai
  rw [BetweenPackets]
  cases hst : s.tai.taiFsmState with
  | idle =>
      rw [hst] at htai
      exact iff_of_true (.inl rfl) htai
  | drgmData =>
      rw [hst] at htai
      obtain ⟨p, hp, -⟩ := htai
      exact iff_of_false (by simp) hp.not_ended
  | drgmMeta =>
      rw [hst] at htai
      rcases htai with ⟨p, hp, -, hne, -⟩ | ⟨hzero, hp, -⟩
      · exact iff_of_false (by simpa using hne) hp.not_ended
      · exact iff_of_true (.inr (.inl ⟨rfl, hzero⟩)) hp
  | strmData =>
      rw [hst] at htai
      obtain ⟨-, p, hp, -⟩ := htai
      exact iff_of_false (by simp) hp.not_ended
  | strmMeta =>
      rw [hst] at htai
      rcases htai with ⟨hmode, p, hp, -⟩ | ⟨hmode, hp⟩
      · exact iff_of_false (by simp [hmode]) hp.not_ended
      · exact iff_of_true (.inr (.inr ⟨rfl, hmode⟩)) hp

/-- Under the invariant the NAL and the UOE are in step. -/
lemma inStep (h : PathInv s) : InStep s :=
  ⟨h.seen_follows, h.passed_sublist, h.taken_follows, h.sent, h.appMeta, h.announced, h.remaining,
    h.between⟩

end PathInv

/-! ### Steps of `pUdpTX` -/

lemma TxOk.quiet {s t : UdpTx} (h : TxOk s) (hq : UdpTxQuiet s t) : TxOk t where
  current hacc := by
    rw [hq.packets, hq.length (hq.acc.mp hacc)]
    exact h.current (hq.acc.mp hacc)
  ended hacc := by
    rw [hq.packets]
    exact h.ended fun hs => hacc (hq.acc.mpr hs)
  lenOk := by
    rw [hq.packets]
    exact h.lenOk

lemma lenOk_of_body_nil {p : UdpPacket} (h : p.body = []) : LenOk p := by
  intro _ cs c hcs
  rw [h, List.prefix_nil] at hcs
  simp at hcs

lemma TxOk.begins {s t : UdpTx} (h : TxOk s) (hb : UdpTxBegins s t) : TxOk t where
  current _ := by
    refine ⟨⟨(t.txMeta, s.udpTXPacketLength), []⟩, ?_, hb.length.symm⟩
    rw [hb.packets]
    refine (h.ended ?_).start
    rw [hb.before]
    nofun
  ended hacc := absurd hb.after hacc
  lenOk p hp := by
    rw [hb.packets, Frame.start] at hp
    rcases List.mem_append.mp hp with hp | hp
    · exact h.lenOk p hp
    · exact lenOk_of_body_nil (congrArg Frame.body (List.mem_singleton.mp hp))

/-- The length of the present packet after a chunk that meets its condition. -/
lemma LenOk.push {s : UdpTx} {c : NetworkWord} {p : UdpPacket} (h : LenOk p)
    (hp : PacketCurrent s.packets p) (hlen : p.head.2 = s.udpTXPacketLength)
    (hok : ChunkOk s c) :
    LenOk { p with body := p.body ++ [{ c with tlast := Closes s c }] } := by
  intro hne cs x hx
  rcases List.prefix_concat_iff.mp (by simpa using hx) with heq | hprefix
  · obtain ⟨rfl, hxc⟩ := List.append_inj' heq rfl
    obtain rfl := List.singleton_inj.mp hxc
    have hsent : sentBytes s = byteSum p.body := by
      obtain ⟨pre, hpackets, -⟩ := hp
      rw [sentBytes, hpackets]
      simp
    have hok' := hok.resolve_left (hlen ▸ hne)
    rw [hsent, ← hlen] at hok'
    exact hok'
  · exact h hne cs x hprefix

lemma TxOk.acc {s : UdpTx} {c : NetworkWord} {data : List NetworkWord} (h : TxOk s)
    (hacc : s.fsmStateTXUdp = .acc) (hok : ChunkOk s c) : TxOk (udpTxAcc s c data) := by
  obtain ⟨p, hp, hlen⟩ := h.current hacc
  have hpushed : ∀ q ∈ (udpTxAcc s c data).packets, LenOk q := fun q hq => by
    rcases hp.mem_push hq with hq | rfl
    · exact h.lenOk q hq
    · exact (h.lenOk p hp.mem).push hp hlen hok
  cases hc : Closes s c with
  | true =>
      refine ⟨fun hacc' => ?_, fun _ => hp.push_last hc, hpushed⟩
      rw [udpTxAcc, hc] at hacc'
      cases hacc'
  | false =>
      refine ⟨fun _ => ⟨_, hp.push hc, hlen⟩, fun hacc' => absurd ?_ hacc', hpushed⟩
      rw [udpTxAcc, hc]
      rfl

section Steps

variable {s : UdpTxPath}

lemma PathInv.txCall (h : PathInv s) {k : UdpTxCall} (hok : UdpStepOk s (.tx k)) :
    PathInv { s with tx := pUdpTX s.tx k } := by
  obtain ⟨hs, ⟨hmetas, hdLens⟩, hcarries⟩ := h.fifo
  suffices hfsm : TxOk (udpTxFsm s.tx k) ∧
      ∃ hs, Paired hs (udpTxFsm s.tx k).soUOEMeta (udpTxFsm s.tx k).soUOEDLen ∧
        Frame.Carries (udpTxFsm s.tx k).packets s.seen hs (udpTxFsm s.tx k).soUOEData by
    obtain ⟨⟨hcurrent, hended, hlenOk⟩, hfifo⟩ := hfsm
    exact ⟨⟨hcurrent, hended, hlenOk⟩, hfifo, h.waiting, h.streaming, h.uoe, h.tai, h.sent, h.appMeta,
      h.announced⟩
  rcases udpTxFsm_cases s.tx k with hq | hb | ⟨c, data, hacc, hdata, hroom, hstep⟩
  · refine ⟨h.tx.quiet hq, hs, ?_, ?_⟩
    · rw [hq.soUOEMeta, hq.soUOEDLen]
      exact ⟨hmetas, hdLens⟩
    · rw [hq.packets, hq.soUOEData]
      exact hcarries
  · refine ⟨h.tx.begins hb, hs ++ [((udpTxFsm s.tx k).txMeta, s.tx.udpTXPacketLength)], ?_, ?_⟩
    · rw [hb.soUOEMeta, hb.soUOEDLen, hmetas, hdLens]
      exact ⟨by rw [List.map_append]; rfl, by rw [List.map_append]; rfl⟩
    · rw [hb.packets, hb.soUOEData]
      exact hcarries.start_sender _
  · have hchunk : ChunkOk s.tx c := hok hacc hroom c (by rw [hdata]; rfl)
    obtain ⟨p, hp, -⟩ := h.tx.current hacc
    rw [hstep]
    exact ⟨h.tx.acc hacc hchunk, hs, ⟨hmetas, hdLens⟩, hcarries.push_sender hp.ne_nil _⟩

/-! ### Steps of `pUoeUdpTxDeq` -/

lemma Paired.of_cons {hs : List (UdpAppMeta × UdpAppDLen)} {m : UdpAppMeta} {l : UdpAppDLen}
    {metas : List UdpAppMeta} {dLens : List UdpAppDLen} (h : Paired hs (m :: metas) (l :: dLens)) :
    ∃ hs', hs = (m, l) :: hs' ∧ Paired hs' metas dLens := by
  cases hs with
  | nil => cases h.1
  | cons a hs =>
      obtain ⟨hm, hl⟩ := h
      rw [List.map_cons, List.cons.injEq] at hm hl
      exact ⟨hs, by rw [hm.1, hl.1], hm.2, hl.2⟩

lemma Paired.concat {hs : List (UdpAppMeta × UdpAppDLen)} {metas : List UdpAppMeta}
    {dLens : List UdpAppDLen} (h : Paired hs metas dLens) (m : UdpAppMeta) (l : UdpAppDLen) :
    Paired (hs ++ [(m, l)]) (metas ++ [m]) (dLens ++ [l]) :=
  ⟨by rw [h.1, List.map_append]; rfl, by rw [h.2, List.map_append]; rfl⟩

/-- The first chunk of a packet. -/
lemma PathInv.deqFirst (h : PathInv s) (k : UdpDeqCall) {c : AxisRaw} {data : List AxisRaw}
    {m : UdpAppMeta} {metas : List UdpAppMeta} {l : UdpAppDLen} {dLens : List UdpAppDLen}
    (hst : s.deqFsmState ≠ .streamData) (hdata : s.tx.soUOEData = c :: data)
    (hmeta : s.tx.soUOEMeta = m :: metas) (hlen : s.tx.soUOEDLen = l :: dLens) :
    PathInv (Nal.deqFirst s k c data m metas l dLens) := by
  obtain ⟨hs, hpaired, hcarries⟩ := h.fifo
  rw [hmeta, hlen] at hpaired
  obtain ⟨hs, rfl, hrest⟩ := hpaired.of_cons
  rw [hdata] at hcarries
  obtain ⟨hseen, hsub⟩ := h.waiting hst
  obtain ⟨hs', hpaired', hcarries'⟩ := h.uoe
  have hcur : PacketCurrent (Frame.start s.seen (m, l)) ⟨(m, l), []⟩ := hseen.start
  refine ⟨⟨h.tx.current, h.tx.ended, h.tx.lenOk⟩,
    ⟨hs, hrest, hcarries.start_receiver.push_receiver hcur.ne_nil⟩, fun hw => ?_, fun hstream => ?_,
    ?_, ?_, ?_, ?_, ?_⟩
  · have hlast : c.tlast = true := by
      by_contra hlast
      exact hw (if_neg hlast)
    refine ⟨hcur.push_last hlast, ?_⟩
    simp only [Nal.deqFirst, Frame.push_start]
    split
    · exact hsub.trans (List.sublist_append_left s.seen _)
    · exact hsub.append (List.Sublist.refl _)
  · have hlast : c.tlast = false := by
      by_contra hlast
      rw [Nal.deqFirst, if_pos (eq_true_of_ne_false hlast)] at hstream
      cases hstream
    refine ⟨s.seen, ⟨(m, l), [c]⟩, Frame.push_start .., hseen, ?_, s.passed, hsub, ?_⟩
    · intro x hx
      rw [List.mem_singleton.mp hx]
      exact hlast
    · simp only [Nal.deqFirst, Frame.push_start]
      cases k.uoeDisabled with
      | true => rfl
      | false => rfl
  · simp only [Nal.deqFirst]
    split
    · exact ⟨hs', hpaired', hcarries'⟩
    · exact ⟨hs' ++ [(m, l)], hpaired'.concat m l,
        (hcarries'.start_sender (m, l)).push_sender (by simp [Frame.start]) c⟩
  · simp only [Nal.deqFirst]
    split
    · exact h.tai
    · exact h.tai
  · simp only [Nal.deqFirst]
    split
    · exact h.sent
    · exact h.sent
  · simp only [Nal.deqFirst]
    split
    · exact h.appMeta
    · exact h.appMeta
  · simp only [Nal.deqFirst]
    split
    · exact h.announced
    · exact h.announced

/-- A further chunk, with the UOE enabled or disabled as before. -/
lemma PathInv.deqNext (h : PathInv s) {k : UdpDeqCall} {c : AxisRaw} {data : List AxisRaw}
    (hst : s.deqFsmState = .streamData) (hdata : s.tx.soUOEData = c :: data)
    (hok : k.uoeDisabled = !s.passing) : PathInv (Nal.deqNext s k c data) := by
  obtain ⟨hs, hpaired, hcarries⟩ := h.fifo
  rw [hdata] at hcarries
  obtain ⟨pre, t, hseen, hpre, ht, pre', hsub, hpassed⟩ := h.streaming hst
  obtain ⟨hs', hpaired', hcarries'⟩ := h.uoe
  have hcur : PacketCurrent s.seen t := ⟨pre, hseen, hpre, ht⟩
  have hpushed : Frame.push s.seen c = pre ++ [{ t with body := t.body ++ [c] }] := by
    rw [hseen, Frame.push_append]
  have hpassed' : (Nal.deqNext s k c data).passed =
      if s.passing then pre' ++ [{ t with body := t.body ++ [c] }] else pre' := by
    simp only [Nal.deqNext, hok, hpassed]
    cases s.passing with
    | true => exact Frame.push_append pre' t c
    | false => rfl
  refine ⟨⟨h.tx.current, h.tx.ended, h.tx.lenOk⟩,
    ⟨hs, hpaired, hcarries.push_receiver hcur.ne_nil⟩, fun hw => ?_, fun hstream => ?_, ?_, ?_, ?_, ?_,
    ?_⟩
  · have hlast : c.tlast = true := by
      by_contra hlast
      exact hw (if_neg hlast)
    refine ⟨hcur.push_last hlast, ?_⟩
    rw [hpassed']
    simp only [Nal.deqNext, hpushed]
    split
    · exact hsub.append (List.Sublist.refl _)
    · exact hsub.trans (List.sublist_append_left pre _)
  · have hlast : c.tlast = false := by
      by_contra hlast
      rw [Nal.deqNext, if_pos (eq_true_of_ne_false hlast)] at hstream
      cases hstream
    exact ⟨pre, _, hpushed, hpre, ht.push hlast, pre', hsub, hpassed'⟩
  · simp only [Nal.deqNext, hok]
    cases hpass : s.passing with
    | false => exact ⟨hs', hpaired', hcarries'⟩
    | true =>
        refine ⟨hs', hpaired', hcarries'.push_sender ?_ c⟩
        rw [hpassed, hpass]
        simp
  · simp only [Nal.deqNext]
    split
    · exact h.tai
    · exact h.tai
  · simp only [Nal.deqNext]
    split
    · exact h.sent
    · exact h.sent
  · simp only [Nal.deqNext]
    split
    · exact h.appMeta
    · exact h.appMeta
  · simp only [Nal.deqNext]
    split
    · exact h.announced
    · exact h.announced

lemma PathInv.deqCall (h : PathInv s) {k : UdpDeqCall} (hok : UdpStepOk s (.deq k)) :
    PathInv (pUoeUdpTxDeq s k) := by
  have hwait (hst : s.deqFsmState ≠ .streamData) : PathInv
      (match s.tx.soUOEData, s.tx.soUOEMeta, s.tx.soUOEDLen with
      | curWord :: data, curMeta :: metas, curDLen :: dLens =>
          if (k.dataRoom && k.metaRoom && k.dLenRoom) || k.uoeDisabled then
            Nal.deqFirst s k curWord data curMeta metas curDLen dLens
          else s
      | _, _, _ => s) := by
    split
    · split
      · exact h.deqFirst k hst ‹_› ‹_› ‹_›
      · exact h
    · exact h
  rw [pUoeUdpTxDeq]
  cases hst : s.deqFsmState with
  | streamData =>
      dsimp only
      cases hdata : s.tx.soUOEData with
      | nil => exact h
      | cons c data =>
          dsimp only
          split
          · exact h.deqNext hst hdata (hok hst (by rw [hdata]; nofun) ‹_›)
          · exact h
  | waitMeta => exact hwait (by rw [hst]; nofun)
  | sendNotif => exact hwait (by rw [hst]; nofun)

/-! ### Steps of `pTxApplicationInterface` -/

/-- A step of the UOE that keeps its streams and what it has taken. -/
lemma PathInv.taiQuiet (h : PathInv s) {t : Tai} (hok : TaiOk t) (hmeta : t.siUAIFMeta = s.tai.siUAIFMeta)
    (hlen : t.siUAIFDLen = s.tai.siUAIFDLen) (hdata : t.siUAIFData = s.tai.siUAIFData)
    (htaken : t.taken = s.tai.taken) (hsent : t.soTdhData = s.tai.soTdhData)
    (hpair : t.taiAppMeta = s.tai.taiAppMeta) : PathInv { s with tai := t } := by
  refine ⟨h.tx, h.fifo, h.waiting, h.streaming, ?_, hok, ?_, ?_, ?_⟩
  · rw [hmeta, hlen, hdata, htaken]
    exact h.uoe
  · rw [hsent, htaken]
    exact h.sent
  · rw [hpair, htaken]
    exact h.appMeta
  · rw [htaken]
    exact h.announced

/-- The UOE takes a chunk for the present packet, to which it belongs. -/
lemma PathInv.taiTake (h : PathInv s) {t : Tai} {p : UdpPacket} {c : AxisRaw}
    {data : List AxisRaw} (hp : PacketCurrent s.tai.taken p) (hdata : s.tai.siUAIFData = c :: data)
    (hok : TaiOk t) (hmeta : t.siUAIFMeta = s.tai.siUAIFMeta)
    (hlen : t.siUAIFDLen = s.tai.siUAIFDLen) (hrest : t.siUAIFData = data)
    (htaken : t.taken = Frame.push s.tai.taken c)
    (hsent : ∃ b, t.soTdhData = s.tai.soTdhData ++ [{ c with tlast := b }])
    (hpair : t.taiAppMeta = s.tai.taiAppMeta)
    (hsum : p.head.2 ≠ 0 → byteSum p.body + c.getLen ≤ announcedLen p) :
    PathInv { s with tai := t } := by
  obtain ⟨hs, hpaired, hcarries⟩ := h.uoe
  rw [hdata] at hcarries
  refine ⟨h.tx, h.fifo, h.waiting, h.streaming, ⟨hs, ?_, ?_⟩, hok, ?_, ?_,
    fun q hq hne => ?_⟩
  · rw [hmeta, hlen]
    exact hpaired
  · rw [htaken, hrest]
    exact hcarries.push_receiver hp.ne_nil
  · obtain ⟨b, hsent⟩ := hsent
    rw [hsent, htaken, Frame.items_push hp.ne_nil, List.map_append, List.map_append, h.sent]
    rfl
  · rw [hpair, htaken, Frame.heads_push]
    exact h.appMeta
  · rw [htaken] at hq
    rcases hp.mem_push hq with hq | rfl
    · exact h.announced q hq hne
    · rw [byteSum_append, byteSum_singleton]
      exact hsum hne

/-- The next chunk ends a packet with an announced length if and only if it completes it. -/
lemma PathInv.next_lenOk (h : PathInv s) {p : UdpPacket} {c : AxisRaw} {data : List AxisRaw}
    (hp : PacketCurrent s.tai.taken p) (hdata : s.tai.siUAIFData = c :: data)
    (hne : p.head.2 ≠ 0) :
    if c.tlast then byteSum p.body + c.getLen = announcedLen p
    else byteSum p.body + c.getLen < announcedLen p := by
  obtain ⟨hs, -, hcarries⟩ := h.uoe
  rw [hdata] at hcarries
  obtain ⟨q, hq, hhead, hbody⟩ := hcarries.next h.passed_framed hp
  have hlen := h.passed_lenOk hq (hhead ▸ hne) p.body c hbody
  rw [announcedLen, hhead] at hlen
  exact hlen

/-- A chunk of a packet with an announced length. -/
lemma PathInv.taiDrgmData (h : PathInv s) {c : AxisRaw} {data : List AxisRaw}
    (hst : s.tai.taiFsmState = .drgmData) (hdata : s.tai.siUAIFData = c :: data) :
    PathInv { s with tai := Uoe.taiDrgmData s.tai c data } := by
  have htai := h.tai
  rw [TaiOk, hst] at htai
  obtain ⟨p, hp, hne, -, hcount⟩ := htai
  have hnext := h.next_lenOk hp hdata hne
  have hann : announcedLen p < 2 ^ 16 := p.head.2.isLt
  have hle : byteSum p.body + c.getLen ≤ announcedLen p := by
    split at hnext
    · exact hnext.le
    · exact hnext.le
  -- the counter after the chunk
  have hrest : (s.tai.taiAppDLen - BitVec.ofNat 16 c.getLen).toNat + (byteSum p.body + c.getLen) =
      announcedLen p := by
    rw [BitVec.toNat_sub, BitVec.toNat_ofNat]
    omega
  have hzero : s.tai.taiAppDLen - BitVec.ofNat 16 c.getLen = 0 ↔ c.tlast = true := by
    have hnat : (0 : UdpAppDLen).toNat = 0 := rfl
    rw [BitVec.toNat_eq, hnat]
    cases hlast : c.tlast with
    | true =>
        rw [if_pos hlast] at hnext
        simp only [iff_true]
        omega
    | false =>
        rw [if_neg (by rw [hlast]; decide)] at hnext
        simp only [Bool.false_eq_true, iff_false]
        omega
  have hopen (hlast : c.tlast = false) {t : Tai}
      (htaken : t.taken = Frame.push s.tai.taken c)
      (hlen : t.taiAppDLen = s.tai.taiAppDLen - BitVec.ofNat 16 c.getLen) : DatagramOpen t := by
    refine ⟨{ p with body := p.body ++ [c] }, htaken ▸ hp.push hlast, hne, fun h0 => ?_, ?_⟩
    · rw [hlen, hzero, hlast] at h0
      cases h0
    · rw [hlen, byteSum_append, byteSum_singleton]
      exact hrest
  rw [Uoe.taiDrgmData]
  split
  · refine h.taiTake hp hdata ?_ rfl rfl rfl rfl ⟨_, rfl⟩ rfl fun _ => hle
    rw [TaiOk]
    dsimp only
    cases hlast : c.tlast with
    | true =>
        refine .inr ⟨hzero.mpr hlast, hp.push_last hlast, ?_⟩
        obtain ⟨pre, hpre, -⟩ := hp
        refine ⟨pre, { p with body := p.body ++ [c] }, ?_, ?_⟩
        · rw [taiChunk, hpre, Frame.push_append]
        · rw [if_pos hlast] at hnext
          rw [byteSum_append, byteSum_singleton]
          exact hnext
    | false => exact .inl (hopen hlast rfl rfl)
  · have hnot := ‹¬(_ ∨ _)›
    have hlast : c.tlast = false := by
      by_contra hlast
      exact hnot (.inl (hzero.mpr (eq_true_of_ne_false hlast)))
    refine h.taiTake hp hdata ?_ rfl rfl rfl rfl ⟨_, rfl⟩ rfl fun _ => hle
    rw [TaiOk, taiChunk, hst]
    exact hopen hlast rfl rfl

/-- A chunk of a packet without an announced length. -/
lemma PathInv.taiStrmData (h : PathInv s) {c : AxisRaw} {data : List AxisRaw}
    (hst : s.tai.taiFsmState = .strmData) (hdata : s.tai.siUAIFData = c :: data) :
    PathInv { s with tai := Uoe.taiStrmData s.tai c data } := by
  have htai := h.tai
  rw [TaiOk, hst] at htai
  obtain ⟨hmode, p, hp, hzero⟩ := htai
  have hopen (hlast : c.tlast = false) {t : Tai} (hmode : t.taiStreamMode = true)
      (htaken : t.taken = Frame.push s.tai.taken c) : StreamOpen t :=
    ⟨hmode, { p with body := p.body ++ [c] }, htaken ▸ hp.push hlast, hzero⟩
  rw [Uoe.taiStrmData]
  split
  · refine h.taiTake hp hdata ?_ rfl rfl rfl rfl ⟨_, rfl⟩ rfl fun hne => absurd hzero hne
    rw [TaiOk]
    exact .inr ⟨rfl, hp.push_last ‹_›⟩
  · have hlast : c.tlast = false := Bool.eq_false_iff.mpr ‹_›
    split
    · refine h.taiTake hp hdata ?_ rfl rfl rfl rfl ⟨_, rfl⟩ rfl fun hne => absurd hzero hne
      rw [TaiOk]
      exact .inl (hopen hlast hmode rfl)
    · refine h.taiTake hp hdata ?_ rfl rfl rfl rfl ⟨_, rfl⟩ rfl fun hne => absurd hzero hne
      rw [TaiOk, taiChunk, hst]
      exact hopen hlast hmode rfl

/-- A packet begins. -/
lemma PathInv.taiIdle (h : PathInv s) {m : UdpAppMeta} {metas : List UdpAppMeta} {l : UdpAppDLen}
    {dLens : List UdpAppDLen} (hst : s.tai.taiFsmState = .idle)
    (hmeta : s.tai.siUAIFMeta = m :: metas) (hlen : s.tai.siUAIFDLen = l :: dLens) :
    PathInv { s with tai := Uoe.taiIdle s.tai m metas l dLens } := by
  have htai := h.tai
  rw [TaiOk, hst] at htai
  obtain ⟨hs, hpaired, hcarries⟩ := h.uoe
  rw [hmeta, hlen] at hpaired
  obtain ⟨hs, rfl, hrest⟩ := hpaired.of_cons
  have hcur : PacketCurrent (Frame.start s.tai.taken (m, l)) ⟨(m, l), []⟩ := htai.start
  refine ⟨h.tx, h.fifo, h.waiting, h.streaming, ⟨hs, hrest, hcarries.start_receiver⟩, ?_,
    ?_, ?_, fun q hq hne => ?_⟩
  · rw [TaiOk, Uoe.taiIdle]
    by_cases hl : l = 0
    · rw [if_pos hl]
      exact ⟨decide_eq_true hl, _, hcur, hl⟩
    · rw [if_neg hl]
      exact ⟨_, hcur, hl, hl, Nat.add_zero _⟩
  · simp only [Uoe.taiIdle, Frame.items_start]
    exact h.sent
  · intro a ha
    simp only [Uoe.taiIdle, Frame.heads_start, List.getLast?_concat, Option.mem_def,
      Option.some.injEq] at ha
    exact ha ▸ rfl
  · rcases List.mem_append.mp hq with hq | hq
    · exact h.announced q hq hne
    · rw [List.mem_singleton.mp hq]
      exact Nat.zero_le _

lemma PathInv.taiCall (h : PathInv s) (k : TaiCall) :
    PathInv { s with tai := pTxApplicationInterface s.tai k } := by
  have htai := h.tai
  rw [TaiOk] at htai
  rw [pTxApplicationInterface]
  cases hst : s.tai.taiFsmState with
  | idle =>
      dsimp only
      split
      · split
        · exact h.taiIdle hst ‹_› ‹_›
        · exact h
      · exact h
  | drgmData =>
      dsimp only
      cases hdata : s.tai.siUAIFData with
      | nil => exact h
      | cons c data =>
          dsimp only
          split
          · exact h.taiDrgmData hst hdata
          · exact h
  | drgmMeta =>
      rw [hst] at htai
      dsimp only
      split
      · refine h.taiQuiet ?_ rfl rfl rfl rfl rfl rfl
        rw [TaiOk, taiMeta]
        rcases htai with ⟨p, hp, hne, hne0, hcount⟩ | ⟨hzero, hp, -⟩
        · rw [if_neg (by simpa using hne0)]
          exact ⟨p, hp, hne, hne0, hcount⟩
        · rw [if_pos (by simpa using hzero)]
          exact hp
      · exact h
  | strmData =>
      dsimp only
      cases hdata : s.tai.siUAIFData with
      | nil => exact h
      | cons c data =>
          dsimp only
          split
          · exact h.taiStrmData hst hdata
          · exact h
  | strmMeta =>
      rw [hst] at htai
      dsimp only
      split
      · refine h.taiQuiet ?_ rfl rfl rfl rfl rfl rfl
        rw [TaiOk, taiMeta]
        rcases htai with ⟨hmode, p, hp⟩ | ⟨hmode, hp⟩
        · rw [if_neg (by simp [hmode])]
          exact ⟨hmode, p, hp⟩
        · rw [if_pos (by simp [hmode])]
          exact hp
      · exact h

end Steps

/-! ### Runs -/

lemma PathInv.initial : PathInv {} where
  tx := ⟨nofun, fun _ p hp => absurd hp List.not_mem_nil, fun p hp => absurd hp List.not_mem_nil⟩
  fifo := ⟨[], ⟨rfl, rfl⟩, rfl, rfl⟩
  waiting _ := ⟨fun p hp => absurd hp List.not_mem_nil, List.Sublist.refl _⟩
  streaming h := by cases h
  uoe := ⟨[], ⟨rfl, rfl⟩, rfl, rfl⟩
  tai := fun p hp => absurd hp List.not_mem_nil
  sent := rfl
  appMeta := nofun
  announced p hp := absurd hp List.not_mem_nil

/-- A step that meets its condition keeps the invariant. -/
lemma PathInv.next {s : UdpTxPath} {k : UdpTxStep} (h : PathInv s) (hok : UdpStepOk s k) :
    PathInv (udpPathNext s k) := by
  have hinput {t : UdpTx} (ht : UdpTxQuiet s.tx t) (hdata : t.soUOEData = s.tx.soUOEData) :
      PathInv { s with tx := t } := by
    refine ⟨h.tx.quiet ht, ?_, h.waiting, h.streaming, h.uoe, h.tai, h.sent, h.appMeta, h.announced⟩
    rw [ht.soUOEMeta, ht.soUOEDLen, ht.packets, hdata]
    exact h.fifo
  cases k with
  | roleMeta m => exact hinput ⟨rfl, rfl, rfl, rfl, Iff.rfl, fun _ => rfl⟩ rfl
  | roleData c => exact hinput ⟨rfl, rfl, rfl, rfl, Iff.rfl, fun _ => rfl⟩ rfl
  | mrtReply ip => exact hinput ⟨rfl, rfl, rfl, rfl, Iff.rfl, fun _ => rfl⟩ rfl
  | cacheInval sig => exact hinput ⟨rfl, rfl, rfl, rfl, Iff.rfl, fun _ => rfl⟩ rfl
  | tx k => exact h.txCall hok
  | deq k => exact h.deqCall hok
  | tai k => exact h.taiCall k

/-- The NAL and the UOE stay in step in every run in which the chunks of each forwarded packet, where
`pUdpTX` ends it, hold exactly the announced number of bytes, and no packet is enabled in part. -/
theorem inStep_of_ok {ks : List UdpTxStep} (h : Clocked.Along udpPathNext UdpStepOk {} ks) :
    InStep (Clocked.run udpPathNext {} ks) := by
  have hstep (s : UdpTxPath) (k : UdpTxStep) (hs : PathInv s) (hok : UdpStepOk s k) :
      PathInv (udpPathNext s k) := hs.next hok
  exact (Clocked.run_inv hstep PathInv.initial h).inStep

instance (s : UdpTx) (c : NetworkWord) : Decidable (ChunkOk s c) :=
  inferInstanceAs (Decidable (s.udpTXPacketLength = 0 ∨
    if Closes s c then sentBytes s + c.getLen = s.udpTXPacketLength.toNat
    else sentBytes s + c.getLen < s.udpTXPacketLength.toNat))

instance (s : UdpTxPath) : (k : UdpTxStep) → Decidable (UdpStepOk s k)
  | .tx _ => inferInstanceAs (Decidable (_ → _ → ∀ c ∈ s.tx.siUdpData.head?, ChunkOk s.tx c))
  | .deq _ => inferInstanceAs (Decidable (_ → _ → _ → _))
  | .roleMeta _ | .roleData _ | .mrtReply _ | .cacheInval _ | .tai _ => isTrue trivial

lemma length_bytes_lanes (b : Byte) : (List.replicate 8 (⟨b, true⟩ : Lane)).length = 8 :=
  List.length_replicate

/-- A chunk of eight bytes with `tlast`. -/
def lastChunk (b : Byte) : AxisRaw := ⟨List.replicate 8 ⟨b, true⟩, true, length_bytes_lanes b⟩

/-- Two packets of one chunk each to the nodes 1 and 2, with the announced lengths, through all
processes. -/
def twoPackets (len len' : NetworkDataLength) : List UdpTxStep :=
  .tx {} ::
    ([(1, len), (2, len')].flatMap fun (rank, len) =>
      [.roleMeta ⟨rank, 2718, 0, 2718, len⟩, .roleData (lastChunk 0x61),
        .mrtReply (0x0A0CC800 + rank.setWidth 32), .tx {}, .tx {}, .tx {}, .tx {}, .deq {}]) ++
    List.replicate 6 (.tai {})

set_option maxRecDepth 4000 in
/-- Two packets of the announced length. -/
theorem inStep_of_ok_two :
    (Clocked.run udpPathNext {} (twoPackets 8 8)).tai.taken.length = 2 ∧
      InStep (Clocked.run udpPathNext {} (twoPackets 8 8)) :=
  ⟨by decide +kernel, inStep_of_ok (by decide +kernel)⟩

set_option maxRecDepth 4000 in
/-- The first packet is shorter than announced. The UOE sends the second one to the first address. -/
theorem short_packet_continued : ¬∀ ks, InStep (Clocked.run udpPathNext {} ks) := by
  intro h
  have hlonger : ∃ p ∈ (Clocked.run udpPathNext {} (twoPackets 16 8)).tai.taken,
      ∀ q ∈ (Clocked.run udpPathNext {} (twoPackets 16 8)).passed,
        q.body.length < p.body.length := by decide +kernel
  obtain ⟨p, hp, hall⟩ := hlonger
  obtain ⟨q, hq, -, hprefix⟩ := (h (twoPackets 16 8)).taken.mem hp
  exact absurd hprefix.length_le (not_le.mpr (hall q hq))

end CloudFpga.Nal
