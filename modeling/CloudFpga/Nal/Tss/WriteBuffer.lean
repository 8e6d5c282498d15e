import CloudFpga.Foundation.Clocked
import CloudFpga.Foundation.Frame
import CloudFpga.Nal.Types

/-!
The write buffer between `pTcpWRp` and the TOE, `pTcpWBu` of `tss.cpp`.

* `pTcpWBu`: one call. It requests the room for a packet, and then it streams as many bytes.
* `WbuBooks`: what is sent belongs to the requests and their packets.
-/

namespace CloudFpga.Nal

open Foundation

inductive WbuFsmStates where
  | waitMeta | sndReq | waitRep | stream | drop | drain
  deriving DecidableEq, Repr

/-- A request and its reply, with the chunks that were streamed after it. -/
abbrev WbuStream := Frame (TcpAppSndReq × TcpAppSndRep) AxisRaw

/-- A packet: its session and its length, the chunks that were read, and the requests for it. -/
structure WbuPacket where
  sessId : SessionId := 0
  len : TcpDatLen := 0
  body : List AxisRaw := []
  streams : List WbuStream := []
  deriving DecidableEq

/-- The registers and streams. No step reads `past` and `packet`, the packets that are finished and
the present one. -/
structure Wbu where
  wbuState : WbuFsmStates := .waitMeta
  dequeueCnt : BitVec 16 := 0
  currentSessId : SessionId := 0
  currentRequestedLength : TcpDatLen := 0
  currentApprovedLength : TcpDatLen := 0
  needToRequestAgain : Bool := false
  siWrpData : List AxisRaw := []
  siWrpSessId : List SessionId := []
  siWrpLen : List TcpDatLen := []
  soTOEData : List AxisRaw := []
  soTOESndReq : List TcpAppSndReq := []
  siTOESndRep : List TcpAppSndRep := []
  past : List WbuPacket := []
  packet : WbuPacket := {}

/-- Whether layer 4 is enabled and the NTS is ready, and which output streams have room. -/
structure WbuCall where
  up : Bool := true
  sndReqRoom : Bool := true
  dataRoom : Bool := true
  deriving DecidableEq

section Process

variable (s : Wbu) (k : WbuCall)

/-- The present packet comes to its end in the state `st`. -/
def Wbu.finish (st : WbuFsmStates) : Wbu :=
  { s with wbuState := st, past := s.past ++ [s.packet] }

/-- `WBU_WAIT_META`. -/
def wbuWaitMeta : Wbu :=
  match s.siWrpSessId, s.siWrpLen with
  | id :: ids, len :: lens =>
      { s with
        siWrpSessId := ids
        siWrpLen := lens
        currentSessId := id
        currentRequestedLength := len
        dequeueCnt := 0
        wbuState := .sndReq
        packet := { sessId := id, len := len } }
  | _, _ => s

/-- The request for the present packet. -/
def Wbu.request : TcpAppSndReq := ⟨s.currentSessId, s.currentRequestedLength⟩

/-- `WBU_SND_REQ`. -/
def wbuSndReq : Wbu :=
  if k.sndReqRoom then { s with soTOESndReq := s.soTOESndReq ++ [s.request], wbuState := .waitRep }
  else s

/-- `WBU_WAIT_REP`: without space, the free bytes up to a margin of seven are streamed, and a
further request follows. -/
def wbuReply (appSndRep : TcpAppSndRep) (reps : List TcpAppSndRep) : Wbu :=
  let s : Wbu :=
    { s with
      siTOESndRep := reps
      packet :=
        { s.packet with streams := Frame.start s.packet.streams (s.request, appSndRep) } }
  match appSndRep.error with
  | .noError =>
      { s with
        wbuState := .stream
        currentApprovedLength := s.currentRequestedLength
        needToRequestAgain := false
        dequeueCnt := 0 }
  | .noSpace =>
      { s with
        wbuState := .stream
        currentApprovedLength := appSndRep.spaceLeft - 7
        needToRequestAgain := true
        dequeueCnt := 0 }
  | .noConnection => { s with wbuState := .drop, dequeueCnt := s.currentRequestedLength }

/-- `WBU_STREAM`: one chunk, with `tlast` if the approved length is reached. -/
def wbuStream (c : AxisRaw) (data : List AxisRaw) : Wbu :=
  let cnt := s.dequeueCnt + extractByteCnt c
  let closes := decide (s.currentApprovedLength ≤ cnt)
  let tmp : AxisRaw := { c with tlast := closes }
  let s : Wbu :=
    { s with
      siWrpData := data
      dequeueCnt := cnt
      soTOEData := s.soTOEData ++ [tmp]
      packet :=
        { s.packet with
          body := s.packet.body ++ [c]
          streams := Frame.push s.packet.streams tmp } }
  if closes then
    if s.needToRequestAgain then
      { s with currentRequestedLength := s.currentRequestedLength - cnt, wbuState := .sndReq }
    else s.finish .waitMeta
  else s

/-- `WBU_DROP`. -/
def wbuDrop (c : AxisRaw) (data : List AxisRaw) : Wbu :=
  let s : Wbu :=
    { s with siWrpData := data, packet := { s.packet with body := s.packet.body ++ [c] } }
  if c.tlast then s.finish .waitMeta
  else
    let s : Wbu := { s with dequeueCnt := s.dequeueCnt - extractByteCnt c }
    if s.dequeueCnt = 0 then s.finish .waitMeta else s

/-- `WBU_DRAIN`: an item of each input stream is lost. -/
def wbuDrain : Wbu :=
  if k.up then { s with wbuState := .waitMeta }
  else
    { s with
      siWrpData := s.siWrpData.tail
      siWrpSessId := s.siWrpSessId.tail
      siWrpLen := s.siWrpLen.tail }

/-- One call. -/
def pTcpWBu : Wbu :=
  match s.wbuState with
  | .waitMeta => if k.up then wbuWaitMeta s else { s with wbuState := .drain }
  | .sndReq => if k.up then wbuSndReq s k else s.finish .drain
  | .waitRep =>
      if k.up then
        match s.siTOESndRep with
        | rep :: reps => wbuReply s rep reps
        | [] => s
      else s.finish .drain
  | .stream =>
      if k.up then
        match s.siWrpData with
        | c :: data => if k.dataRoom then wbuStream s c data else s
        | [] => s
      else s.finish .drain
  | .drop =>
      match s.siWrpData with
      | c :: data => wbuDrop s c data
      | [] => s
  | .drain => wbuDrain s k

end Process

/-- An item for one of the input streams, or a call. -/
inductive WbuStep where
  | data (c : AxisRaw)
  | sessId (id : SessionId)
  | len (l : TcpDatLen)
  | sndRep (rep : TcpAppSndRep)
  | call (k : WbuCall)
  deriving DecidableEq

def wbuNext (s : Wbu) : WbuStep → Wbu
  | .data c => { s with siWrpData := s.siWrpData ++ [c] }
  | .sessId id => { s with siWrpSessId := s.siWrpSessId ++ [id] }
  | .len l => { s with siWrpLen := s.siWrpLen ++ [l] }
  | .sndRep rep => { s with siTOESndRep := s.siTOESndRep ++ [rep] }
  | .call k => pTcpWBu s k

/-! ### The packets and their streams -/

/-- A packet is in progress. -/
def WbuFsmStates.busy : WbuFsmStates → Bool
  | .waitMeta | .drain => false
  | _ => true

/-- The packets so far, the present one included. -/
def Wbu.packets (s : Wbu) : List WbuPacket :=
  if s.wbuState.busy then s.past ++ [s.packet] else s.past

def Wbu.streams (s : Wbu) : List WbuStream := s.packets.flatMap WbuPacket.streams

/-- What is sent belongs to the streams, and the streams of a packet to its session. -/
structure WbuBooks (s : Wbu) : Prop where
  data : s.soTOEData = Frame.items s.streams
  requests : s.soTOESndReq = (Frame.heads s.streams).map Prod.fst ++
    if s.wbuState = .waitRep then [s.request] else []
  sessions : ∀ p ∈ s.packets, ∀ f ∈ p.streams, f.head.1.sessId = p.sessId
  session : s.wbuState.busy = true → s.packet.sessId = s.currentSessId
  begun : s.wbuState = .stream → s.packet.streams ≠ []

section Books

variable {s t : Wbu}

lemma Wbu.packets_of_busy (h : s.wbuState.busy = true) : s.packets = s.past ++ [s.packet] :=
  if_pos h

lemma Wbu.packets_of_idle (h : s.wbuState.busy = false) : s.packets = s.past := by
  rw [Wbu.packets, h, if_neg Bool.false_ne_true]

lemma Wbu.streams_of_busy (h : s.wbuState.busy = true) :
    s.streams = s.past.flatMap WbuPacket.streams ++ s.packet.streams := by
  rw [Wbu.streams, Wbu.packets_of_busy h, List.flatMap_append, List.flatMap_singleton]

lemma Wbu.streams_of_idle (h : s.wbuState.busy = false) :
    s.streams = s.past.flatMap WbuPacket.streams := by
  rw [Wbu.streams, Wbu.packets_of_idle h]

/-- A packet in progress is announced, or streamed, or dropped. -/
lemma Wbu.busy_cases (hbusy : s.wbuState.busy = true) :
    (s.wbuState = .sndReq ∨ s.wbuState = .waitRep) ∨ s.wbuState = .stream ∨
      s.wbuState = .drop := by
  cases hst : s.wbuState with
  | waitMeta =>
      rw [hst] at hbusy
      cases hbusy
  | drain =>
      rw [hst] at hbusy
      cases hbusy
  | sndReq => exact .inl (.inl rfl)
  | waitRep => exact .inl (.inr rfl)
  | stream => exact .inr (.inl rfl)
  | drop => exact .inr (.inr rfl)

namespace WbuBooks

/-- A step that neither sends a request or a chunk nor reads a reply. -/
lemma keep (h : WbuBooks s) (hdata : t.soTOEData = s.soTOEData)
    (hreqs : t.soTOESndReq = s.soTOESndReq) (hold : s.wbuState ≠ .waitRep)
    (hnew : t.wbuState ≠ .waitRep)
    (hpackets : t.packets.map (fun p => (p.sessId, p.streams)) =
      s.packets.map fun p => (p.sessId, p.streams))
    (hsession : t.wbuState.busy = true → t.packet.sessId = t.currentSessId)
    (hbegun : t.wbuState = .stream → t.packet.streams ≠ []) : WbuBooks t := by
  have hstreams : t.streams = s.streams := by
    have hmap := congrArg (List.flatMap fun q : SessionId × List WbuStream => q.2) hpackets
    rw [List.flatMap_map, List.flatMap_map] at hmap
    exact hmap
  refine ⟨?_, ?_, fun p hp f hf => ?_, hsession, hbegun⟩
  · rw [hdata, hstreams]
    exact h.data
  · have hreq := h.requests
    rw [if_neg hold] at hreq
    rw [hreqs, hstreams, if_neg hnew]
    exact hreq
  · have hmem : (p.sessId, p.streams) ∈ t.packets.map fun p => (p.sessId, p.streams) :=
      List.mem_map_of_mem hp
    rw [hpackets] at hmem
    obtain ⟨q, hq, heq⟩ := List.mem_map.mp hmem
    obtain ⟨hid, hst⟩ := Prod.mk.inj heq
    rw [← hid]
    exact h.sessions q hq f (hst ▸ hf)

/-- A chunk that is streamed. -/
lemma push (h : WbuBooks s) (hst : s.wbuState = .stream) {tmp : AxisRaw} {body : List AxisRaw}
    (hdata : t.soTOEData = s.soTOEData ++ [tmp]) (hreqs : t.soTOESndReq = s.soTOESndReq)
    (hnew : t.wbuState ≠ .waitRep)
    (hpackets : t.packets = s.past ++ [{ s.packet with
      body := body, streams := Frame.push s.packet.streams tmp }])
    (hpacket : t.packet = { s.packet with
      body := body, streams := Frame.push s.packet.streams tmp })
    (hid : t.currentSessId = s.currentSessId) : WbuBooks t := by
  have hbusy : s.wbuState.busy = true := by rw [hst]; rfl
  have hne := h.begun hst
  have hheads : Frame.heads (Frame.push s.packet.streams tmp) = Frame.heads s.packet.streams :=
    Frame.heads_push _ _
  have hstreams : t.streams = s.past.flatMap WbuPacket.streams ++
      Frame.push s.packet.streams tmp := by
    rw [Wbu.streams, hpackets, List.flatMap_append, List.flatMap_singleton]
  have hold := h.data
  have hreq := h.requests
  have hsess := h.sessions
  rw [Wbu.streams_of_busy hbusy] at hold hreq
  rw [Wbu.packets_of_busy hbusy] at hsess
  rw [if_neg (by rw [hst]; nofun), List.append_nil] at hreq
  refine ⟨?_, ?_, ?_, fun _ => ?_, fun _ => ?_⟩
  · rw [hdata, hstreams, Frame.items_append, Frame.items_push hne, hold, Frame.items_append,
      List.append_assoc]
  · rw [hreqs, hstreams, if_neg hnew, List.append_nil, Frame.heads_append, hheads, hreq,
      Frame.heads_append]
  · intro p hp f hf
    rw [hpackets] at hp
    rcases List.mem_append.mp hp with hp | hp
    · exact hsess p (List.mem_append_left _ hp) f hf
    · rw [List.mem_singleton.mp hp] at hf ⊢
      have hmem : f.head ∈ Frame.heads s.packet.streams := hheads ▸ List.mem_map_of_mem hf
      obtain ⟨g, hg, hhead⟩ := List.mem_map.mp hmem
      rw [← hhead]
      exact hsess s.packet (by simp) g hg
  · rw [hpacket, hid]
    exact h.session hbusy
  · rw [hpacket]
    intro hnil
    have hpush : Frame.push s.packet.streams tmp = [] := hnil
    rw [hpush] at hheads
    exact hne (List.map_eq_nil_iff.mp hheads.symm)

/-- A reply. -/
lemma reply (h : WbuBooks s) (hst : s.wbuState = .waitRep) (rep : TcpAppSndRep)
    (reps : List TcpAppSndRep) : WbuBooks (wbuReply s rep reps) := by
  have hbusy : s.wbuState.busy = true := by rw [hst]; rfl
  have hold := h.data
  have hreq := h.requests
  have hsess := h.sessions
  rw [Wbu.streams_of_busy hbusy] at hold hreq
  rw [Wbu.packets_of_busy hbusy] at hsess
  rw [if_pos hst] at hreq
  have hstep {t : Wbu} (hbusy' : t.wbuState.busy = true) (hnew : t.wbuState ≠ .waitRep)
      (hdata : t.soTOEData = s.soTOEData) (hreqs : t.soTOESndReq = s.soTOESndReq)
      (hpast : t.past = s.past) (hpacket : t.packet = { s.packet with
        streams := Frame.start s.packet.streams (s.request, rep) })
      (hid : t.currentSessId = s.currentSessId) : WbuBooks t := by
    have hstreams : t.streams = s.past.flatMap WbuPacket.streams ++
        Frame.start s.packet.streams (s.request, rep) := by
      rw [Wbu.streams_of_busy hbusy', hpast, hpacket]
    refine ⟨?_, ?_, ?_, fun _ => ?_, fun _ => ?_⟩
    · rw [hdata, hstreams, Frame.items_append, Frame.items_start, ← Frame.items_append]
      exact hold
    · rw [hreqs, hstreams, if_neg hnew, hreq]
      simp
    · intro p hp f hf
      rw [Wbu.packets_of_busy hbusy', hpast, hpacket] at hp
      rcases List.mem_append.mp hp with hp | hp
      · exact hsess p (List.mem_append_left _ hp) f hf
      · rw [List.mem_singleton.mp hp] at hf ⊢
        rcases List.mem_append.mp hf with hf | hf
        · exact hsess s.packet (by simp) f hf
        · rw [List.mem_singleton.mp hf]
          exact (h.session hbusy).symm
    · rw [hpacket, hid]
      exact h.session hbusy
    · rw [hpacket]
      simp [Frame.start]
  rw [wbuReply]
  cases rep.error with
  | noError => exact hstep rfl (by rintro ⟨⟩) rfl rfl rfl rfl rfl
  | noSpace => exact hstep rfl (by rintro ⟨⟩) rfl rfl rfl rfl rfl
  | noConnection => exact hstep rfl (by rintro ⟨⟩) rfl rfl rfl rfl rfl

/-- The present packet comes to its end in a state without packet. -/
lemma finish (h : WbuBooks s) (hbusy : s.wbuState.busy = true) (hst : s.wbuState ≠ .waitRep)
    {st : WbuFsmStates} (hidle : st.busy = false) : WbuBooks (s.finish st) := by
  have hne (st' : WbuFsmStates) (h : st'.busy = true) : st ≠ st' := by
    rintro rfl
    rw [hidle] at h
    cases h
  refine h.keep rfl rfl hst (hne _ rfl) ?_ (fun hb => absurd hb (by simp [Wbu.finish, hidle]))
    fun hb => absurd hb (hne _ rfl)
  rw [Wbu.packets_of_idle hidle, Wbu.packets_of_busy hbusy]
  rfl

lemma sndReq (h : WbuBooks s) (hst : s.wbuState = .sndReq) (k : WbuCall) :
    WbuBooks (wbuSndReq s k) := by
  have hbusy : s.wbuState.busy = true := by rw [hst]; rfl
  rw [wbuSndReq]
  split
  · refine ⟨?_, ?_, ?_, fun _ => h.session hbusy, nofun⟩
    · rw [Wbu.streams_of_busy rfl, ← Wbu.streams_of_busy hbusy]
      exact h.data
    · rw [Wbu.streams_of_busy rfl, ← Wbu.streams_of_busy hbusy, if_pos rfl]
      have hreq := h.requests
      rw [if_neg (by rw [hst]; nofun), List.append_nil] at hreq
      exact congrArg (· ++ [s.request]) hreq
    · rw [Wbu.packets_of_busy rfl, ← Wbu.packets_of_busy hbusy]
      exact h.sessions
  · exact h

lemma waitMeta (h : WbuBooks s) (hst : s.wbuState = .waitMeta) : WbuBooks (wbuWaitMeta s) := by
  have hidle : s.wbuState.busy = false := by rw [hst]; rfl
  rw [wbuWaitMeta]
  split
  · refine ⟨?_, ?_, ?_, fun _ => rfl, nofun⟩
    · rw [Wbu.streams_of_busy rfl, List.append_nil, ← Wbu.streams_of_idle hidle]
      exact h.data
    · rw [Wbu.streams_of_busy rfl, List.append_nil, ← Wbu.streams_of_idle hidle,
        if_neg (by nofun)]
      have hreq := h.requests
      rw [if_neg (by rw [hst]; nofun)] at hreq
      exact hreq
    · intro p hp f hf
      rw [Wbu.packets_of_busy rfl] at hp
      rcases List.mem_append.mp hp with hp | hp
      · exact h.sessions p (Wbu.packets_of_idle hidle ▸ hp) f hf
      · rw [List.mem_singleton.mp hp] at hf
        cases hf
  · exact h

/-- A step from a state without packet to a state without packet. -/
lemma idle (h : WbuBooks s) (hs : s.wbuState.busy = false) {st : WbuFsmStates}
    (hst : st.busy = false) {data : List AxisRaw} {ids : List SessionId} {lens : List TcpDatLen} :
    WbuBooks { s with
      wbuState := st, siWrpData := data, siWrpSessId := ids, siWrpLen := lens } := by
  have hne (st' : WbuFsmStates) (hst' : st'.busy = true) {st'' : WbuFsmStates}
      (h : st''.busy = false) : st'' ≠ st' := by
    rintro rfl
    rw [hst'] at h
    cases h
  refine h.keep rfl rfl (hne _ rfl hs) (hne _ rfl hst) ?_ (fun hb => ?_) fun hb => ?_
  · rw [Wbu.packets_of_idle hs, Wbu.packets_of_idle hst]
  · rw [hst] at hb
    cases hb
  · exact absurd hb (hne _ rfl hst)

lemma stream (h : WbuBooks s) (hst : s.wbuState = .stream) (c : AxisRaw) (data : List AxisRaw) :
    WbuBooks (wbuStream s c data) := by
  have hbusy : s.wbuState.busy = true := by rw [hst]; rfl
  rw [wbuStream]
  dsimp only
  split
  · split
    · exact h.push hst rfl rfl (by rintro ⟨⟩) (Wbu.packets_of_busy rfl) rfl rfl
    · exact h.push hst rfl rfl (by rintro ⟨⟩) (Wbu.packets_of_idle rfl) rfl rfl
  · exact h.push hst rfl rfl (by rw [hst]; rintro ⟨⟩) (Wbu.packets_of_busy hbusy) rfl rfl

lemma drop (h : WbuBooks s) (hst : s.wbuState = .drop) (c : AxisRaw) (data : List AxisRaw) :
    WbuBooks (wbuDrop s c data) := by
  have hbusy : s.wbuState.busy = true := by rw [hst]; rfl
  have hne : s.wbuState ≠ .waitRep := by rw [hst]; rintro ⟨⟩
  have hfinish {t : Wbu}
      (hpackets : t.packets = s.past ++ [{ s.packet with body := s.packet.body ++ [c] }]) :
      t.packets.map (fun p => (p.sessId, p.streams)) =
        s.packets.map fun p => (p.sessId, p.streams) := by
    rw [hpackets, Wbu.packets_of_busy hbusy, List.map_append, List.map_append]
    rfl
  rw [wbuDrop]
  dsimp only
  split
  · exact h.keep rfl rfl hne (by rintro ⟨⟩) (hfinish rfl) (by rintro ⟨⟩) (by rintro ⟨⟩)
  · split
    · exact h.keep rfl rfl hne (by rintro ⟨⟩) (hfinish rfl) (by rintro ⟨⟩) (by rintro ⟨⟩)
    · exact h.keep rfl rfl hne hne (hfinish (Wbu.packets_of_busy hbusy))
        (fun _ => h.session hbusy) (by rw [hst]; rintro ⟨⟩)

/-- A call, unless the NTS becomes unready before a reply. -/
lemma call (h : WbuBooks s) {k : WbuCall} (hok : s.wbuState = .waitRep → k.up = true) :
    WbuBooks (pTcpWBu s k) := by
  rw [pTcpWBu]
  cases hst : s.wbuState with
  | waitMeta =>
      dsimp only
      split
      · exact h.waitMeta hst
      · exact h.idle (by rw [hst]; rfl) rfl
  | sndReq =>
      dsimp only
      split
      · exact h.sndReq hst k
      · exact h.finish (by rw [hst]; rfl) (by rw [hst]; nofun) rfl
  | waitRep =>
      dsimp only
      rw [if_pos (hok hst)]
      split
      · exact h.reply hst _ _
      · exact h
  | stream =>
      dsimp only
      split
      · split
        · split
          · exact h.stream hst _ _
          · exact h
        · exact h
      · exact h.finish (by rw [hst]; rfl) (by rw [hst]; nofun) rfl
  | drop =>
      dsimp only
      split
      · exact h.drop hst _ _
      · exact h
  | drain =>
      dsimp only
      rw [wbuDrain]
      split
      · exact h.idle (by rw [hst]; rfl) rfl
      · have hidle : WbuBooks { s with
            wbuState := .drain
            siWrpData := s.siWrpData.tail
            siWrpSessId := s.siWrpSessId.tail
            siWrpLen := s.siWrpLen.tail } := h.idle (by rw [hst]; rfl) rfl
        rw [← hst] at hidle
        exact hidle

/-- The input streams are not part of it. -/
lemma input (h : WbuBooks s) {data : List AxisRaw} {ids : List SessionId} {lens : List TcpDatLen}
    {reps : List TcpAppSndRep} : WbuBooks { s with
      siWrpData := data, siWrpSessId := ids, siWrpLen := lens, siTOESndRep := reps } :=
  ⟨h.data, h.requests, h.sessions, h.session, h.begun⟩

lemma initial : WbuBooks {} where
  data := rfl
  requests := rfl
  sessions _ hp := absurd hp List.not_mem_nil
  session := nofun
  begun := nofun

end WbuBooks

end Books

end CloudFpga.Nal
