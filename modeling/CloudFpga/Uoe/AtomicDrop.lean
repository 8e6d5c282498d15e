import CloudFpga.Foundation.Clocked
import CloudFpga.Uoe.IpHeaderStripper

/-!
What `pIpHeaderStripper` leaves behind of a packet that it drops.

* `ihsNext`: one call of the process, or what surrounds it, with a record of each packet.
* `DropsAtomic`: a packet that was dropped is read to its end, it counts once, and nothing of it was
  written.
* `IhsStepOk`: no header is given up after its first chunk, and a chunk with an invalid header length
  is not the last one.
* `dropsAtomic_of_ok`: this condition keeps the drops atomic.
-/

namespace CloudFpga.Uoe

open Foundation Toe

/-- What the process did from one return to `FSM_IHS_IDLE` to the next. -/
structure IhsRecord where
  chunks : List AxisIp4 := []
  written : IhsOut := {}
  tokens : ℕ := 0
  counted : BitVec 16 := 0
  dropped : Bool := false
  deriving DecidableEq

/-- The process, and the records of the packets. -/
structure IhsSys where
  ihs : Ihs := {}
  current : IhsRecord := {}
  log : List IhsRecord := []
  deriving DecidableEq

/-- A chunk or a token arrives, or the process is called. -/
inductive IhsStep where
  | chunk (c : AxisIp4)
  | token
  | call (k : IhsCall)
  deriving DecidableEq

/-- The record after a call that leads from `s` to `s'`. -/
def IhsRecord.add (r : IhsRecord) (s s' : Ihs) (out : IhsOut) : IhsRecord where
  chunks := r.chunks ++ s.siIPRXData.take (s.siIPRXData.length - s'.siIPRXData.length)
  written := r.written.add out
  tokens := r.tokens + (s.siUccClearToSend.length - s'.siUccClearToSend.length)
  counted := r.counted + (s'.ihsDropCounter - s.ihsDropCounter)
  dropped := s.ihsFsmState = .drop

/-- After a call a packet goes on, or it ends. -/
def IhsSys.after (s : IhsSys) (r : Ihs × IhsOut) : IhsSys :=
  let current := s.current.add s.ihs r.1 r.2
  if s.ihs.ihsFsmState ≠ .idle ∧ r.1.ihsFsmState = .idle then
    { ihs := r.1, log := s.log ++ [current] }
  else { s with ihs := r.1, current := current }

def ihsNext (u : IhsUnset) (s : IhsSys) : IhsStep → IhsSys
  | .chunk c => { s with ihs := { s.ihs with siIPRXData := s.ihs.siIPRXData ++ [c] } }
  | .token => { s with ihs := { s.ihs with siUccClearToSend := s.ihs.siUccClearToSend ++ [1] } }
  | .call k => s.after (pIpHeaderStripper u s.ihs k)

/-- A packet that was dropped: exactly its chunks were read, nothing was written for it, no token was
taken, and it counts once. -/
structure IhsRecord.Atomic (r : IhsRecord) : Prop where
  chunks : IsStream r.chunks
  written : r.written = {}
  tokens : r.tokens = 0
  counted : r.counted = 1

/-- All packets that were dropped. -/
def DropsAtomic (s : IhsSys) : Prop := ∀ r ∈ s.log, r.dropped = true → r.Atomic

/-- A header whose first chunk was forwarded. -/
def IhsFsmStates.inHeader : IhsFsmStates → Bool
  | .ipw1 | .ipw2 | .opt => true
  | _ => false

/-- The condition on a call: the stream of the headers is not full behind the first chunk of one, and
a chunk with an invalid header length is not the last one of its packet. -/
def IhsCallOk (s : Ihs) (k : IhsCall) : Prop :=
  (s.ihsFsmState.inHeader = true → k.ip4HdrFull = false) ∧
    (s.ihsFsmState = .ipw0 → ∀ c ∈ s.siIPRXData.head?, getIp4HdrLen c < 5 → c.tlast = false)

instance (s : Ihs) (k : IhsCall) : Decidable (IhsCallOk s k) :=
  inferInstanceAs (Decidable ((_ → _) ∧ (s.ihsFsmState = .ipw0 → ∀ c ∈ s.siIPRXData.head?, _ → _)))

def IhsStepOk (s : IhsSys) : IhsStep → Prop
  | .call k => IhsCallOk s.ihs k
  | .chunk _ | .token => True

instance (s : IhsSys) : (x : IhsStep) → Decidable (IhsStepOk s x)
  | .call k => inferInstanceAs (Decidable (IhsCallOk s.ihs k))
  | .chunk _ | .token => isTrue trivial

/-! ### The invariant -/

/-- Of a packet that is dropped, or that has not begun, nothing was written, and it has not ended. -/
structure IhsRecord.Clean (r : IhsRecord) : Prop where
  chunks : ∀ c ∈ r.chunks, c.tlast = false
  written : r.written = {}
  tokens : r.tokens = 0
  counted : r.counted = 0

/-- The process has not begun with a packet, or it drops one. -/
def IhsFsmStates.unwritten : IhsFsmStates → Bool
  | .idle | .ipw0 | .drop => true
  | _ => false

structure DropInv (s : IhsSys) : Prop where
  log : DropsAtomic s
  clean : s.ihs.ihsFsmState.unwritten = true → s.current.Clean

section Add

variable {r : IhsRecord} {s s' : Ihs} {out : IhsOut} {c : AxisIp4} {cs : List AxisIp4}

/-- A call that writes nothing. -/
structure IhsOut.Silent (out : IhsOut) : Prop where
  dgrm : out.soUccUdpDgrm = []
  sum : out.soUccPsdHdrSum = []
  hdr : out.soRphIp4Hdr = []

lemma written_add (h : r.written = {}) (hout : out.Silent) : (r.add s s' out).written = {} := by
  rw [IhsRecord.add]
  dsimp only
  rw [h, IhsOut.add, hout.dgrm, hout.sum, hout.hdr]
  rfl

lemma tokens_add (h : r.tokens = 0) (htokens : s'.siUccClearToSend = s.siUccClearToSend) :
    (r.add s s' out).tokens = 0 := by
  rw [IhsRecord.add]
  dsimp only
  rw [h, htokens, Nat.sub_self]

lemma chunks_add_read (hdata : s.siIPRXData = c :: cs) (hrest : s'.siIPRXData = cs) :
    (r.add s s' out).chunks = r.chunks ++ [c] := by
  rw [IhsRecord.add]
  dsimp only
  have hone : s.siIPRXData.length - s'.siIPRXData.length = 1 := by
    rw [hdata, hrest, List.length_cons]
    omega
  rw [hone, hdata]
  rfl

/-- Without a chunk a packet stays as it is. -/
lemma IhsRecord.Clean.add (h : r.Clean) (hdata : s'.siIPRXData = s.siIPRXData)
    (htokens : s'.siUccClearToSend = s.siUccClearToSend)
    (hcount : s'.ihsDropCounter = s.ihsDropCounter) (hout : out.Silent) :
    (r.add s s' out).Clean := by
  refine ⟨?_, written_add h.written hout, tokens_add h.tokens htokens, ?_⟩
  · rw [IhsRecord.add]
    dsimp only
    rw [hdata, Nat.sub_self, List.take_zero, List.append_nil]
    exact h.chunks
  · rw [IhsRecord.add]
    dsimp only
    rw [hcount, h.counted, BitVec.sub_self]
    rfl

/-- So it does with a chunk that is not the last one. -/
lemma IhsRecord.Clean.add_read (h : r.Clean) (hdata : s.siIPRXData = c :: cs)
    (hrest : s'.siIPRXData = cs) (hlast : c.tlast = false)
    (htokens : s'.siUccClearToSend = s.siUccClearToSend)
    (hcount : s'.ihsDropCounter = s.ihsDropCounter) (hout : out.Silent) :
    (r.add s s' out).Clean := by
  refine ⟨fun d hd => ?_, written_add h.written hout, tokens_add h.tokens htokens, ?_⟩
  · rw [chunks_add_read hdata hrest] at hd
    rcases List.mem_append.mp hd with hd | hd
    · exact h.chunks d hd
    · rw [List.mem_singleton.mp hd]
      exact hlast
  · rw [IhsRecord.add]
    dsimp only
    rw [hcount, h.counted, BitVec.sub_self]
    rfl

/-- With its last chunk a packet is dropped. -/
lemma IhsRecord.Clean.add_last (h : r.Clean) (hdata : s.siIPRXData = c :: cs)
    (hrest : s'.siIPRXData = cs) (hlast : c.tlast = true)
    (htokens : s'.siUccClearToSend = s.siUccClearToSend)
    (hcount : s'.ihsDropCounter = s.ihsDropCounter + 1) (hout : out.Silent) :
    (r.add s s' out).Atomic := by
  refine ⟨?_, written_add h.written hout, tokens_add h.tokens htokens, ?_⟩
  · rw [chunks_add_read hdata hrest]
    exact IsPacket.append h.chunks ((isPacket_cons_of_last hlast).mpr rfl)
  · rw [IhsRecord.add]
    dsimp only
    rw [hcount, h.counted]
    bv_omega

lemma silent_empty : IhsOut.Silent {} := ⟨rfl, rfl, rfl⟩

end Add

/-- Only a drop ends in `FSM_IHS_IDLE` with a chunk, and only `FSM_IHS_IPW0` begins one. -/
lemma unwritten_of_leads {a t : IhsFsmStates} (h : a.leads t = true) (hipw0 : a ≠ .ipw0)
    (hdrop : a ≠ .drop) (hst : a ≠ .idle ∧ a ≠ .done ∧ a ≠ .residue) : t.unwritten = false := by
  cases a with
  | ipw0 => exact absurd rfl hipw0
  | drop => exact absurd rfl hdrop
  | idle => exact absurd rfl hst.1
  | done => exact absurd rfl hst.2.1
  | residue => exact absurd rfl hst.2.2
  | ipw1 =>
      rw [of_decide_eq_true h]
      rfl
  | udpHeaderAligned =>
      rcases of_decide_eq_true h with h | h
      · rw [h]
        rfl
      · rw [h]
        rfl
  | forwardAligned =>
      rcases of_decide_eq_true h with h | h
      · rw [h]
        rfl
      · rw [h]
        rfl
  | _ =>
      rcases of_decide_eq_true h with h | h | h
      · rw [h]
        rfl
      · rw [h]
        rfl
      · rw [h]
        rfl

section Steps

variable {u : IhsUnset} {s : IhsSys}

lemma dropInv_init : DropInv {} :=
  ⟨nofun, fun _ => ⟨nofun, rfl, rfl, rfl⟩⟩

namespace DropInv

/-- A call that goes on. -/
lemma goes (h : DropInv s) {s' : Ihs} {out : IhsOut}
    (hclean : s'.ihsFsmState.unwritten = true → (s.current.add s.ihs s' out).Clean) :
    DropInv { s with ihs := s', current := s.current.add s.ihs s' out } :=
  ⟨h.log, hclean⟩

/-- A call that ends a packet. -/
lemma ends (h : DropInv s) {s' : Ihs} {out : IhsOut}
    (hatomic : s.ihs.ihsFsmState = .drop → (s.current.add s.ihs s' out).Atomic) :
    DropInv { ihs := s', log := s.log ++ [s.current.add s.ihs s' out] } := by
  refine ⟨fun r hr hdropped => ?_, fun _ => ⟨nofun, rfl, rfl, rfl⟩⟩
  rcases List.mem_append.mp hr with hr | hr
  · exact h.log r hr hdropped
  · rw [List.mem_singleton.mp hr] at hdropped ⊢
    exact hatomic (of_decide_eq_true hdropped)

/-- A call that reads a chunk, if one has arrived. -/
lemma reads (h : DropInv s) {k : IhsCall}
    (hdrop : s.ihs.ihsFsmState = .ipw0 →
      ∀ c ∈ s.ihs.siIPRXData.head?, getIp4HdrLen c < 5 → c.tlast = false)
    (hst : s.ihs.ihsFsmState ≠ .idle ∧ s.ihs.ihsFsmState ≠ .done ∧
      s.ihs.ihsFsmState ≠ .residue) : DropInv (s.after (ihsRead u s.ihs k)) := by
  rw [IhsSys.after]
  rcases ihsRead_cases (u := u) (s := s.ihs) (k := k) with ⟨hread, -⟩ | ⟨c, cs, hdata, -, hread⟩
  · rw [hread]
    dsimp only
    rw [if_neg fun hidle => hst.1 hidle.2]
    exact h.goes fun hunwritten => (h.clean hunwritten).add rfl rfl rfl silent_empty
  · obtain ⟨hrest, htokens, hcount⟩ :=
      ihsChunk_streams (u := u) (s := { s.ihs with siIPRXData := cs }) (c := c)
    have hleads := ihsChunk_leads (u := u) (s := { s.ihs with siIPRXData := cs }) (c := c)
    rw [hread]
    dsimp only
    by_cases hipw0 : s.ihs.ihsFsmState = .ipw0
    · have hchunk : ihsChunk u { s.ihs with siIPRXData := cs } c =
          ihsIpw0 { s.ihs with siIPRXData := cs } c := by
        rw [ihsChunk, hipw0]
      rw [hchunk, ihsIpw0]
      split
      · -- an invalid header length
        rename_i hlen
        have hlast : c.tlast = false := hdrop hipw0 c (by rw [hdata]; exact Option.mem_some_self c) hlen
        rw [if_neg fun hidle => by cases hidle.2]
        exact h.goes fun _ =>
          (h.clean (by rw [hipw0]; rfl)).add_read hdata rfl hlast rfl rfl silent_empty
      · rw [if_neg fun hidle => by cases hidle.2]
        exact h.goes (by rintro ⟨⟩)
    · by_cases hfsm : s.ihs.ihsFsmState = .drop
      · have hchunk : ihsChunk u { s.ihs with siIPRXData := cs } c =
            ihsDrop { s.ihs with siIPRXData := cs } c := by
          rw [ihsChunk, hfsm]
        have hclean : s.current.Clean := h.clean (by rw [hfsm]; rfl)
        rw [hchunk, ihsDrop]
        cases hlast : c.tlast with
        | true =>
            rw [if_pos rfl, if_pos ⟨hst.1, rfl⟩]
            exact h.ends fun _ => hclean.add_last hdata rfl hlast rfl rfl silent_empty
        | false =>
            rw [if_neg Bool.false_ne_true, if_neg fun hidle => hst.1 hidle.2]
            exact h.goes fun _ => hclean.add_read hdata rfl hlast rfl rfl silent_empty
      · have hunwritten := unwritten_of_leads hleads hipw0 hfsm hst
        have hnidle : (ihsChunk u { s.ihs with siIPRXData := cs } c).1.ihsFsmState ≠ .idle := by
          intro hidle
          rw [hidle] at hunwritten
          cases hunwritten
        rw [if_neg fun hidle => hnidle hidle.2]
        refine h.goes fun hclean => ?_
        rw [hunwritten] at hclean
        cases hclean

/-- A call that reads nothing. -/
lemma noReads (h : DropInv s) {state : IhsFsmStates} {out : IhsOut}
    (hidle : ¬(s.ihs.ihsFsmState ≠ .idle ∧ state = .idle))
    (hst : state.unwritten = true → s.ihs.ihsFsmState.unwritten = true ∧ out.Silent) :
    DropInv (s.after (ihsNoRead u s.ihs state, out)) := by
  rw [IhsSys.after]
  have hgoes : ¬(s.ihs.ihsFsmState ≠ .idle ∧ (ihsNoRead u s.ihs state).ihsFsmState = .idle) :=
    hidle
  dsimp only
  rw [if_neg hgoes]
  refine h.goes fun hunwritten => ?_
  obtain ⟨hold, hout⟩ := hst hunwritten
  exact (h.clean hold).add rfl rfl rfl hout

/-- A call of the process. -/
lemma call (h : DropInv s) {k : IhsCall} (hok : IhsCallOk s.ihs k) :
    DropInv (ihsNext u s (.call k)) := by
  show DropInv (s.after (ihsCase u s.ihs k))
  have hcase := ihsCase.eq_def u s.ihs k
  have hheader (hst : s.ihs.ihsFsmState.inHeader = true)
      (hcase : ihsCase u s.ihs k =
        if k.ip4HdrFull then (ihsNoRead u s.ihs .drop, {}) else ihsRead u s.ihs k) :
      DropInv (s.after (ihsCase u s.ihs k)) := by
    have hroom : ¬k.ip4HdrFull = true := by
      rw [hok.1 hst]
      exact Bool.false_ne_true
    rw [hcase, if_neg hroom]
    refine h.reads hok.2 ⟨?_, ?_, ?_⟩
    · intro heq
      rw [heq] at hst
      cases hst
    · intro heq
      rw [heq] at hst
      cases hst
    · intro heq
      rw [heq] at hst
      cases hst
  cases hst : s.ihs.ihsFsmState with
  | idle =>
      rw [hst] at hcase
      rw [hcase]
      exact h.noReads (fun hidle => hidle.1 hst) fun _ => ⟨by rw [hst]; rfl, silent_empty⟩
  | ipw0 =>
      rw [hst] at hcase
      dsimp only at hcase
      rw [hcase]
      split
      · exact h.noReads (fun hidle => by cases hidle.2) fun _ => ⟨by rw [hst]; rfl, silent_empty⟩
      · exact h.reads hok.2 (by rw [hst]; exact ⟨nofun, nofun, nofun⟩)
  | residue =>
      rw [hst] at hcase
      rw [hcase]
      exact h.noReads (fun hidle => by cases hidle.2) nofun
  | done =>
      rw [hst] at hcase
      rw [hcase, IhsSys.after]
      dsimp only
      rw [if_pos ⟨by rw [hst]; nofun, rfl⟩]
      exact h.ends fun hdrop => by rw [hst] at hdrop; cases hdrop
  | ipw1 =>
      rw [hst] at hcase
      exact hheader (by rw [hst]; rfl) hcase
  | ipw2 =>
      rw [hst] at hcase
      exact hheader (by rw [hst]; rfl) hcase
  | opt =>
      rw [hst] at hcase
      exact hheader (by rw [hst]; rfl) hcase
  | udpHeader =>
      rw [hst] at hcase
      rw [hcase]
      exact h.reads hok.2 (by rw [hst]; exact ⟨nofun, nofun, nofun⟩)
  | udpHeaderAligned =>
      rw [hst] at hcase
      rw [hcase]
      exact h.reads hok.2 (by rw [hst]; exact ⟨nofun, nofun, nofun⟩)
  | forward =>
      rw [hst] at hcase
      rw [hcase]
      exact h.reads hok.2 (by rw [hst]; exact ⟨nofun, nofun, nofun⟩)
  | forwardAligned =>
      rw [hst] at hcase
      rw [hcase]
      exact h.reads hok.2 (by rw [hst]; exact ⟨nofun, nofun, nofun⟩)
  | drop =>
      rw [hst] at hcase
      rw [hcase]
      exact h.reads hok.2 (by rw [hst]; exact ⟨nofun, nofun, nofun⟩)

lemma next (h : DropInv s) (x : IhsStep) (hok : IhsStepOk s x) : DropInv (ihsNext u s x) := by
  cases x with
  | chunk c => exact ⟨h.log, h.clean⟩
  | token => exact ⟨h.log, h.clean⟩
  | call k => exact h.call hok

end DropInv

end Steps

/-! ### The property -/

/-- If no header is given up after its first chunk, and no packet with an invalid header length has one
chunk only, every packet that is dropped is dropped as a whole. -/
theorem dropsAtomic_of_ok (u : IhsUnset) (xs : List IhsStep)
    (hok : Clocked.Along (ihsNext u) IhsStepOk {} xs) :
    DropsAtomic (Clocked.run (ihsNext u) {} xs) := by
  have hstep (s : IhsSys) (x : IhsStep) (h : DropInv s) (hx : IhsStepOk s x) :
      DropInv (ihsNext u s x) := h.next x hx
  exact (Clocked.run_inv hstep dropInv_init hok).log

/-- The first chunk of a header of `ihl` words. -/
def firstHdrChunk (ihl : Byte) : AxisIp4 :=
  AxisRaw.ofBytes [0x40 ||| ihl, 0, 0, 28, 0, 0, 0, 0] false rfl

def lastHdrChunk : AxisIp4 := AxisRaw.ofBytes [10, 0, 0, 1, 0, 0, 0, 0] true rfl

/-- A packet with an invalid header length is dropped. -/
theorem dropsAtomic_of_ok_ihl :
    DropsAtomic (Clocked.run (ihsNext noUnset) {} [.token, .call {}, .chunk (firstHdrChunk 4),
      .call {}, .chunk lastHdrChunk, .call {}]) :=
  dropsAtomic_of_ok noUnset _ (by decide)

/-- The stream of the headers is full when the second chunk of one comes. -/
def fullHeaderStream : List IhsStep :=
  [.token, .call {}, .chunk (firstHdrChunk 5), .call {}, .chunk lastHdrChunk,
    .call { ip4HdrFull := true }, .call {}]

/-- The first chunk of a header that is dropped is left in the stream of the headers. -/
theorem header_left_behind :
    ¬DropsAtomic (Clocked.run (ihsNext noUnset) {} fullHeaderStream) := by
  intro hatomic
  have hleft : ∃ r ∈ (Clocked.run (ihsNext noUnset) {} fullHeaderStream).log,
      r.dropped = true ∧ r.written.soRphIp4Hdr = [firstHdrChunk 5] := by decide
  obtain ⟨r, hr, hdropped, hhdr⟩ := hleft
  rw [(hatomic r hr hdropped).written] at hhdr
  cases hhdr

end CloudFpga.Uoe
