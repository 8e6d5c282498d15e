import CloudFpga.Foundation.Clocked
import CloudFpga.Nal.Tss.ReadRequestHandler

/-!
The credits of the TCP receive path of the NAL: `pTcpRRh`, `pTcpRDp`, `pRoleTcpRxDeq` and
`pFmcTcpRxDeq` with the TOE, in any order of their calls.

* `NalStep`, `nalNext`: a notification arrives, the TOE answers a request, or a process is called.
* `CreditsKept`: what the credits, the requests and the sessions have to meet in every state.
* `NalOk`: the steps that keep it. Above all no packet may be dropped, because nothing is returned
  for it.
* `credits_kept`: in a run whose steps all meet `NalOk`, every state does.
-/

namespace CloudFpga.Nal

open Foundation AxisRaw

inductive NalStep where
  | notify (n : TcpAppNotif)
  | rrh (k : RrhCall)
  | toe (st : List NetworkWord)
  | rdp (k : RdpCall)
  | deqFmc (k : DeqCall)
  | deqRole (layer7Enabled roleDecoupled : Bool) (k : DeqCall)

def nalNext (s : NalState) : NalStep → NalState
  | .notify n =>
      { s with sTcpNotifBuffer := s.sTcpNotifBuffer ++ [n], arrived := s.arrived ++ [n] }
  | .rrh k => pTcpRRh s k
  | .toe st => { s with path := toeAnswer s.path st }
  | .rdp k => { s with path := pTcpRDp s.path k }
  | .deqFmc k => { s with path := s.path.deqFmc k }
  | .deqRole l7 dec k => { s with path := s.path.deqRole l7 dec k }

/-- The state before the first call. The register for a notification holds anything. -/
def nalStart (notif : TcpAppNotif) : NalState where
  rrh := { sessionLength := ⟨List.replicate 8 ⟨0, 0, false⟩, rfl⟩, notif := notif }

/-- The bytes that were requested for a FIFO. -/
def fifoRequested (fmc : Bool) (rs : List RrhRequest) : ℕ :=
  (rs.map fun r => if r.fmc = fmc then r.req.length.toNat else 0).sum

/-- The bytes that were returned for a FIFO. -/
def fifoReturned (fmc : Bool) (rs : List (Bool × PacketLen)) : ℕ :=
  (rs.map fun r => if r.1 = fmc then r.2.toNat else 0).sum

/-- The queues do not block the process. -/
def TakesUp (r : RrhState) : Prop :=
  match r.fsmState with
  | .processNotif => r.waitingSessions.length < waitingDepth
  | .startRequest => r.waitingSessions ≠ [] ∧ r.sessionReinsert.length < waitingDepth
  | .processRequest => r.sessionReinsert.length < waitingDepth
  | _ => True

/-- The free bytes of a FIFO and those requested, on their way, in it, or about to be returned are
its capacity; they are what was requested and not returned. A request is for at least one byte, and
for no more than were free. The bytes that were notified of a session are requested, recorded or
not read yet, and a session with recorded bytes waits once. The process waits for a FIFO only
while bytes are to be returned for it, and its queues do not block it. -/
structure CreditsKept (s : NalState) : Prop where
  credits : ∀ fmc, (s.rrh.free fmc).toNat + s.path.bytes s.rrh.foundFmcSess fmc
    = nalMaxFifoDepthsBytes
  unacked : ∀ fmc, fifoRequested fmc s.requested
    = fifoReturned fmc s.returned + s.path.bytes s.rrh.foundFmcSess fmc
  bounds : ∀ r ∈ s.requested, 1 ≤ r.req.length.toNat ∧ r.req.length.toNat ≤ r.free.toNat
  sums : ∀ id, notifBytes id s.arrived
    = requestBytes id s.requested + s.rrh.recorded id + s.unread id
  queued : ∀ id, s.rrh.recorded id ≠ 0 → s.rrh.known.count id = 1
  waits : ∀ fmc, s.rrh.fsmState = RrhState.waits fmc ∨ s.rrh.goBack fmc = true →
    1 ≤ s.path.bytes s.rrh.foundFmcSess fmc
  takesUp : TakesUp s.rrh

/-- The condition of a step. -/
def NalOk (s : NalState) : NalStep → Prop
  | .rrh k => RrhOk s k
  | .toe st => ToeAnswers s.path st
  | .rdp k => RdpOk s.rrh.foundFmcSess s.path k
  | _ => True

instance (s : NalState) : (k : NalStep) → Decidable (NalOk s k)
  | .notify _ => isTrue trivial
  | .rrh k => inferInstanceAs (Decidable (RrhOk s k))
  | .toe st => inferInstanceAs (Decidable (ToeAnswers s.path st))
  | .rdp k => inferInstanceAs (Decidable (RdpOk s.rrh.foundFmcSess s.path k))
  | .deqFmc _ => isTrue trivial
  | .deqRole _ _ _ => isTrue trivial

/-- Nothing is requested and all bytes are free, or the process waits for the packet that was
requested last. -/
inductive CreditPhase (s : NalState) : Prop
  | quiet (hpath : PathQuiet s.path) (hst : ∀ fmc, s.rrh.fsmState ≠ RrhState.waits fmc)
      (hdrain : s.rrh.fsmState ≠ .drain) (hback : ∀ fmc, s.rrh.goBack fmc = false)
      (hfree : ∀ fmc, (s.rrh.free fmc).toNat = nalMaxFifoDepthsBytes) : CreditPhase s
  | waits (hpath : PathPhase s.rrh.foundFmcSess s.path)
      (hst : s.rrh.fsmState = RrhState.waits s.rrh.foundFmcSess ∨
        s.rrh.goBack s.rrh.foundFmcSess = true ∧
          (s.rrh.fsmState = .waitNotif ∨ s.rrh.fsmState = .processNotif))
      (hback : s.rrh.goBack (!s.rrh.foundFmcSess) = false)
      (hpos : 1 ≤ s.path.bytes s.rrh.foundFmcSess s.rrh.foundFmcSess)
      (hfree : (s.rrh.free s.rrh.foundFmcSess).toNat
        + s.path.bytes s.rrh.foundFmcSess s.rrh.foundFmcSess = nalMaxFifoDepthsBytes)
      (hother : (s.rrh.free !s.rrh.foundFmcSess).toNat = nalMaxFifoDepthsBytes) : CreditPhase s

structure NalInv (s : NalState) : Prop where
  sessions : RrhSessions s
  phase : CreditPhase s
  unacked : ∀ fmc, fifoRequested fmc s.requested
    = fifoReturned fmc s.returned + s.path.bytes s.rrh.foundFmcSess fmc
  bounds : ∀ r ∈ s.requested, 1 ≤ r.req.length.toNat ∧ r.req.length.toNat ≤ r.free.toNat

section Invariant

variable {s s' : NalState} {k : RrhCall} {p' : RxPath}

lemma waits_ne (fmc : Bool) : RrhState.waits fmc ≠ .drain ∧ RrhState.waits fmc ≠ .waitNotif ∧
    RrhState.waits fmc ≠ .processNotif ∧ RrhState.waits fmc ≠ .processRequest ∧
    RrhState.waits fmc ≠ .startRequest ∧ RrhState.waits fmc ≠ .reset := by
  cases fmc <;> simp [RrhState.waits]

lemma waits_inj {fmc d : Bool} (h : RrhState.waits fmc = RrhState.waits d) : fmc = d := by
  cases fmc <;> cases d <;> simp [RrhState.waits] at h ⊢

/-- A packet that is on its way to one FIFO is not on its way to the other one. -/
lemma bytes_other {fmc : Bool} {p : RxPath} (h : PathPhase fmc p) : p.bytes fmc (!fmc) = 0 := by
  have hempty : p.FifoEmpty !fmc := by
    cases h with
    | asked _ _ hfifos => exact hfifos _
    | flows _ _ _ _ _ hother => exact hother
  cases fmc with
  | true =>
      have hrole : p.role.bytes = 0 := RxFifo.Empty.bytes hempty
      simpa [RxPath.bytes, RxPath.fifoBytes] using hrole
  | false =>
      have hfmc : p.fmc.bytes = 0 := RxFifo.Empty.bytes hempty
      simpa [RxPath.bytes, RxPath.fifoBytes] using hfmc

/-- **The property from the invariant.** -/
theorem NalInv.kept (h : NalInv s) : CreditsKept s := by
  refine ⟨?_, h.unacked, h.bounds, h.sessions.sums, ?_, ?_, ?_⟩
  · intro fmc
    cases h.phase with
    | quiet hpath _ _ _ hfree => rw [hfree fmc, hpath.bytes, Nat.add_zero]
    | waits hpath _ _ _ hfree hother =>
        by_cases heq : fmc = s.rrh.foundFmcSess
        · rw [heq]
          exact hfree
        · obtain rfl : fmc = !s.rrh.foundFmcSess := by
            cases fmc <;> cases hfound : s.rrh.foundFmcSess <;> simp_all
          rw [hother, bytes_other hpath, Nat.add_zero]
  · intro id hrec
    have hmem : id ∈ s.rrh.known := by
      rw [h.sessions.mem id]
      by_contra hnone
      have hlookup : s.rrh.sessionLength.lookup id = none := by simpa using hnone
      exact hrec (recorded_eq hlookup)
    exact List.count_eq_one_of_mem h.sessions.nodup hmem
  · intro fmc hwaits
    cases h.phase with
    | quiet _ hst _ hback _ =>
        obtain hwaits | hwaits := hwaits
        · exact absurd hwaits (hst fmc)
        · rw [hback fmc] at hwaits
          cases hwaits
    | waits _ hst hback hpos _ _ =>
        have heq : fmc = s.rrh.foundFmcSess := by
          obtain hwaits | hwaits := hwaits
          · obtain hst | ⟨-, hst | hst⟩ := hst
            · exact waits_inj (hwaits.symm.trans hst)
            · exact absurd (hwaits.symm.trans hst) (waits_ne fmc).2.1
            · exact absurd (hwaits.symm.trans hst) (waits_ne fmc).2.2.1
          · by_contra hne
            obtain rfl : fmc = !s.rrh.foundFmcSess := by
              cases fmc <;> cases hfound : s.rrh.foundFmcSess <;> simp_all
            rw [hback] at hwaits
            cases hwaits
        rw [heq]
        exact hpos
  · rw [TakesUp]
    have hlen : s.rrh.known.length ≤ 8 := by
      have hle := SlotArray.length_le_of_lookup h.sessions.nodup
        fun id hid => (h.sessions.mem id).mp hid
      rw [s.rrh.sessionLength.size] at hle
      exact hle
    split
    · next hst => exact (h.sessions.notif hst).room
    · next hst =>
        have hwait := h.sessions.takeUp hst
        rw [known_of_ne (by simp [hst]), RrhState.queued, List.length_map, List.length_append]
          at hlen
        have hpos := List.length_pos_iff.mpr hwait
        refine ⟨hwait, ?_⟩
        rw [waitingDepth]
        omega
    · next hst =>
        rw [RrhState.known, if_pos hst, List.length_cons, RrhState.queued, List.length_map,
          List.length_append] at hlen
        rw [waitingDepth]
        omega
    · trivial

lemma RrhSessions.of_path (h : RrhSessions s) : RrhSessions { s with path := p' } :=
  ⟨h.distinct, h.start, h.nodup, h.mem, h.pos, h.sums, h.notif, h.takeUp, h.request⟩

/-- A step behind the process that keeps a quiet path quiet, and the bytes of a packet. -/
lemma NalInv.of_path (h : NalInv s) (hquiet : PathQuiet s.path → PathQuiet p')
    (hmoves : PathPhase s.rrh.foundFmcSess s.path →
      s.path.bytes s.rrh.foundFmcSess s.rrh.foundFmcSess < 65536 →
        PathPhase s.rrh.foundFmcSess p' ∧
          ∀ d, p'.bytes s.rrh.foundFmcSess d = s.path.bytes s.rrh.foundFmcSess d) :
    NalInv { s with path := p' } := by
  cases h.phase with
  | quiet hpath hst hdrain hback hfree =>
      refine ⟨h.sessions.of_path, .quiet (hquiet hpath) hst hdrain hback hfree, ?_, h.bounds⟩
      intro fmc
      have hun := h.unacked fmc
      rw [hpath.bytes] at hun
      rw [(hquiet hpath).bytes]
      exact hun
  | waits hpath hst hback hpos hfree hother =>
      have hlt : s.path.bytes s.rrh.foundFmcSess s.rrh.foundFmcSess < 65536 := by
        rw [nalMaxFifoDepthsBytes] at hfree
        omega
      obtain ⟨hpath', hbytes⟩ := hmoves hpath hlt
      refine ⟨h.sessions.of_path, .waits hpath' hst hback ?_ ?_ hother, ?_, h.bounds⟩
      · rw [hbytes]
        exact hpos
      · rw [hbytes]
        exact hfree
      · intro fmc
        rw [hbytes]
        exact h.unacked fmc

/-- A notification arrives. -/
lemma NalInv.notify (h : NalInv s) (n : TcpAppNotif) : NalInv (nalNext s (.notify n)) := by
  obtain ⟨⟨hdistinct, hstart, hnodup, hmem, hpos, hsums, hnotif, htake, hreq⟩, hphase, hun, hbounds⟩
    := h
  refine ⟨⟨hdistinct, hstart, hnodup, hmem, hpos, ?_, hnotif, htake, hreq⟩, ?_, hun, hbounds⟩
  · intro id
    have hid := hsums id
    have harr : notifBytes id (s.arrived ++ [n]) = notifBytes id s.arrived + notifBytes id [n] :=
      notifBytes_append _ _
    have hunread : (nalNext s (.notify n)).unread id = s.unread id + notifBytes id [n] := by
      rw [NalState.unread, NalState.unread, add_right_comm, ← notifBytes_append]
      rfl
    rw [hunread, ← add_assoc]
    exact harr.trans (congrArg (· + notifBytes id [n]) hid)
  · cases hphase with
    | quiet hpath hst hdrain hback hfree => exact .quiet hpath hst hdrain hback hfree
    | waits hpath hst hback hpos hfree hother => exact .waits hpath hst hback hpos hfree hother

/-- A call that reads or processes a notification, or takes up a session while nothing is
requested. A wait that it interrupts goes on. -/
structure SameCredits (s s' : NalState) : Prop where
  path : s'.path = s.path
  requested : s'.requested = s.requested
  returned : s'.returned = s.returned
  free : ∀ fmc, s'.rrh.free fmc = s.rrh.free fmc
  goBack : ∀ fmc, s'.rrh.goBack fmc = s.rrh.goBack fmc
  found : s'.rrh.foundFmcSess = s.rrh.foundFmcSess
  fsmState : s'.rrh.fsmState = .waitNotif ∨ s'.rrh.fsmState = .processNotif ∨
    (s'.rrh.fsmState = .startRequest ∧ ∀ fmc, s.rrh.goBack fmc = false) ∨
      ∃ next, (next = .waitNotif ∨ next = .startRequest) ∧
        s'.rrh.fsmState = s.rrh.afterNotif next

lemma afterNotif_quiet {r : RrhState} {next : RrhFsmStates} (h : ∀ fmc, r.goBack fmc = false) :
    r.afterNotif next = next := by
  have hfmc : r.goBackToAckWaitFmc = false := h true
  have hrole : r.goBackToAckWaitRole = false := h false
  simp [RrhState.afterNotif, hfmc, hrole]

lemma afterNotif_back {r : RrhState} {next : RrhFsmStates} {fmc : Bool}
    (h : r.goBack fmc = true) (hother : r.goBack (!fmc) = false) :
    r.afterNotif next = RrhState.waits fmc := by
  cases fmc with
  | true =>
      have hfmc : r.goBackToAckWaitFmc = true := h
      simp [RrhState.afterNotif, RrhState.waits, hfmc]
  | false =>
      have hrole : r.goBackToAckWaitRole = true := h
      have hfmc : r.goBackToAckWaitFmc = false := hother
      simp [RrhState.afterNotif, RrhState.waits, hfmc, hrole]

/-- The invariant of a state in which nothing is requested. -/
lemma NalInv.quiet (hs : RrhSessions s) (hpath : PathQuiet s.path)
    (hst : ∀ fmc, s.rrh.fsmState ≠ RrhState.waits fmc) (hdrain : s.rrh.fsmState ≠ .drain)
    (hback : ∀ fmc, s.rrh.goBack fmc = false)
    (hfree : ∀ fmc, (s.rrh.free fmc).toNat = nalMaxFifoDepthsBytes)
    (hun : ∀ fmc, fifoRequested fmc s.requested = fifoReturned fmc s.returned)
    (hbounds : ∀ r ∈ s.requested, 1 ≤ r.req.length.toNat ∧ r.req.length.toNat ≤ r.free.toNat) :
    NalInv s := by
  refine ⟨hs, .quiet hpath hst hdrain hback hfree, ?_, hbounds⟩
  intro fmc
  rw [hpath.bytes, Nat.add_zero]
  exact hun fmc

/-- While nothing is requested, what was requested was returned. -/
lemma NalInv.returned (h : NalInv s) (hpath : PathQuiet s.path) (fmc : Bool) :
    fifoRequested fmc s.requested = fifoReturned fmc s.returned := by
  have hun := h.unacked fmc
  rw [hpath.bytes, Nat.add_zero] at hun
  exact hun

lemma SameCredits.quiet (h : SameCredits s s') (hback : ∀ fmc, s.rrh.goBack fmc = false) :
    s'.rrh.fsmState = .waitNotif ∨ s'.rrh.fsmState = .processNotif ∨
      s'.rrh.fsmState = .startRequest := by
  obtain hst | hst | ⟨hst, -⟩ | ⟨next, hnext, hst⟩ := h.fsmState
  · exact .inl hst
  · exact .inr (.inl hst)
  · exact .inr (.inr hst)
  · rw [afterNotif_quiet hback] at hst
    rw [hst]
    exact hnext.imp_right .inr

lemma SameCredits.waits {fmc : Bool} (h : SameCredits s s') (hback : s.rrh.goBack fmc = true)
    (hother : s.rrh.goBack (!fmc) = false) :
    s'.rrh.fsmState = RrhState.waits fmc ∨ s'.rrh.fsmState = .waitNotif ∨
      s'.rrh.fsmState = .processNotif := by
  obtain hst | hst | ⟨-, hno⟩ | ⟨next, -, hst⟩ := h.fsmState
  · exact .inr (.inl hst)
  · exact .inr (.inr hst)
  · rw [hno fmc] at hback
    cases hback
  · exact .inl (hst.trans (afterNotif_back hback hother))

lemma NalInv.of_same (h : NalInv s) (hs : RrhSessions s') (hsame : SameCredits s s')
    (hfsm : s.rrh.fsmState = .waitNotif ∨ s.rrh.fsmState = .processNotif) : NalInv s' := by
  refine ⟨hs, ?_, ?_, ?_⟩
  · cases h.phase with
    | quiet hpath hst hdrain hback hfree =>
        have hst' := hsame.quiet hback
        refine .quiet (hsame.path ▸ hpath) ?_ ?_ (fun fmc => ?_) (fun fmc => ?_)
        · intro fmc hw
          rw [hw] at hst'
          obtain ⟨-, h1, h2, -, h3, -⟩ := waits_ne fmc
          exact hst'.elim h1 fun h => h.elim h2 h3
        · intro hd
          rw [hd] at hst'
          simp at hst'
        · rw [hsame.goBack]
          exact hback fmc
        · rw [hsame.free]
          exact hfree fmc
    | waits hpath hst hback hpos hfree hother =>
        have hgo : s.rrh.goBack s.rrh.foundFmcSess = true := by
          obtain hst | ⟨hgo, -⟩ := hst
          · rw [hst] at hfsm
            obtain ⟨-, h1, h2, -⟩ := waits_ne s.rrh.foundFmcSess
            exact absurd hfsm (by simp [h1, h2])
          · exact hgo
        have hst' := hsame.waits hgo hback
        refine .waits ?_ ?_ ?_ ?_ ?_ ?_
        · rw [hsame.found, hsame.path]
          exact hpath
        · rw [hsame.found, hsame.goBack]
          exact hst'.imp_right fun h => ⟨hgo, h⟩
        · rw [hsame.found, hsame.goBack]
          exact hback
        · rw [hsame.found, hsame.path]
          exact hpos
        · rw [hsame.found, hsame.path, hsame.free]
          exact hfree
        · rw [hsame.found, hsame.free]
          exact hother
  · intro fmc
    rw [hsame.requested, hsame.returned, hsame.path, hsame.found]
    exact h.unacked fmc
  · rw [hsame.requested]
    exact h.bounds

lemma rrhTakeUp_same (hst : s.rrh.fsmState = .waitNotif) : SameCredits s (rrhTakeUp s) := by
  have hstay : SameCredits s s :=
    ⟨rfl, rfl, rfl, fun _ => rfl, fun _ => rfl, rfl, .inl hst⟩
  rw [rrhTakeUp]
  split
  · exact hstay
  · next hgo =>
      have hback (fmc : Bool) : s.rrh.goBack fmc = false := by
        rw [not_or] at hgo
        cases fmc with
        | true => simpa [RrhState.goBack] using hgo.1
        | false => simpa [RrhState.goBack] using hgo.2
      split
      · split
        · exact ⟨rfl, rfl, rfl, fun _ => rfl, fun _ => rfl, rfl, .inr (.inr (.inl ⟨rfl, hback⟩))⟩
        · exact ⟨rfl, rfl, rfl, fun _ => rfl, fun _ => rfl, rfl, .inr (.inr (.inl ⟨rfl, hback⟩))⟩
      · split
        · exact ⟨rfl, rfl, rfl, fun _ => rfl, fun _ => rfl, rfl, .inr (.inr (.inl ⟨rfl, hback⟩))⟩
        · exact hstay

lemma rrhWaitNotif_same (hup : k.up = true) (hst : s.rrh.fsmState = .waitNotif) :
    SameCredits s (rrhWaitNotif s k) := by
  rw [rrhWaitNotif, if_neg (by simp [hup])]
  split
  · split
    · split
      · exact ⟨rfl, rfl, rfl, fun _ => rfl, fun _ => rfl, rfl, .inr (.inl rfl)⟩
      · split
        · exact ⟨rfl, rfl, rfl, fun _ => rfl, fun _ => rfl, rfl,
            .inr (.inr (.inr ⟨.waitNotif, .inl rfl, rfl⟩))⟩
        · exact ⟨rfl, rfl, rfl, fun _ => rfl, fun _ => rfl, rfl, .inl hst⟩
    · exact rrhTakeUp_same hst
  · exact rrhTakeUp_same hst

lemma rrhProcessNotif_same (hst : s.rrh.fsmState = .processNotif) :
    SameCredits s (rrhProcessNotif s k) := by
  rw [rrhProcessNotif]
  split
  · split
    · exact ⟨rfl, rfl, rfl, fun _ => rfl, fun _ => rfl, rfl,
        .inr (.inr (.inr ⟨.startRequest, .inr rfl, rfl⟩))⟩
    · exact ⟨rfl, rfl, rfl, fun _ => rfl, fun _ => rfl, rfl,
        .inr (.inr (.inr ⟨.startRequest, .inr rfl, rfl⟩))⟩
  · exact ⟨rfl, rfl, rfl, fun _ => rfl, fun _ => rfl, rfl, .inr (.inl hst)⟩

/-- Before a request is made, nothing is requested and all bytes are free. -/
lemma NalInv.idle (h : NalInv s) (hst : s.rrh.fsmState = .reset ∨ s.rrh.fsmState = .startRequest ∨
      s.rrh.fsmState = .processRequest) :
    PathQuiet s.path ∧ (∀ fmc, s.rrh.goBack fmc = false) ∧
      ∀ fmc, (s.rrh.free fmc).toNat = nalMaxFifoDepthsBytes := by
  cases h.phase with
  | quiet hpath _ _ hback hfree => exact ⟨hpath, hback, hfree⟩
  | waits _ hw _ _ _ _ =>
      obtain ⟨-, -, -, h1, h2, h3⟩ := waits_ne s.rrh.foundFmcSess
      obtain hw | ⟨-, hw | hw⟩ := hw
      · rw [hw] at hst
        exact absurd hst (by simp [h1, h2, h3])
      · rw [hw] at hst
        simp at hst
      · rw [hw] at hst
        simp at hst

lemma NalInv.reset (h : NalInv s) (hs : RrhSessions (rrhReset s))
    (hst : s.rrh.fsmState = .reset) : NalInv (rrhReset s) := by
  obtain ⟨hpath, -, -⟩ := h.idle (.inl hst)
  refine .quiet hs hpath (fun fmc hw => (waits_ne fmc).2.1 hw.symm) (fun h => by cases h) ?_ ?_
    (h.returned hpath) h.bounds
  · intro fmc
    cases fmc <;> rfl
  · intro fmc
    cases fmc <;> rfl

lemma NalInv.startRequest (h : NalInv s) (hs : RrhSessions (rrhStartRequest s))
    (hst : s.rrh.fsmState = .startRequest) : NalInv (rrhStartRequest s) := by
  obtain ⟨hpath, hback, hfree⟩ := h.idle (.inr (.inl hst))
  have hne (fmc : Bool) : RrhFsmStates.processRequest ≠ RrhState.waits fmc :=
    (waits_ne fmc).2.2.2.1.symm
  rw [rrhStartRequest] at hs ⊢
  split at hs
  · split at hs
    · next hroom =>
        rw [if_pos hroom]
        dsimp only at hs ⊢
        split at hs
        · next hle =>
            rw [if_pos hle]
            exact .quiet hs hpath hne (fun h => by cases h) hback hfree (h.returned hpath) h.bounds
        · next hlt =>
            rw [if_neg hlt]
            exact .quiet hs hpath hne (fun h => by cases h) hback hfree (h.returned hpath) h.bounds
    · next hroom =>
        rw [if_neg hroom]
        exact h
  · exact h

@[simp] lemma free_setFree (r : RrhState) (fmc d : Bool) (n : PacketLen) :
    (r.setFree fmc n).free d = if d = fmc then n else r.free d := by
  cases fmc <;> cases d <;> rfl

@[simp] lemma goBack_setGoBack (r : RrhState) (fmc d b : Bool) :
    (r.setGoBack fmc b).goBack d = if d = fmc then b else r.goBack d := by
  cases fmc <;> cases d <;> rfl

@[simp] lemma free_setGoBack (r : RrhState) (fmc d b : Bool) :
    (r.setGoBack fmc b).free d = r.free d := by
  cases fmc <;> rfl

@[simp] lemma goBack_setFree (r : RrhState) (fmc d : Bool) (n : PacketLen) :
    (r.setFree fmc n).goBack d = r.goBack d := by
  cases fmc <;> rfl

@[simp] lemma foundFmcSess_setFree (r : RrhState) (fmc : Bool) (n : PacketLen) :
    (r.setFree fmc n).foundFmcSess = r.foundFmcSess := by
  cases fmc <;> rfl

@[simp] lemma foundFmcSess_setGoBack (r : RrhState) (fmc b : Bool) :
    (r.setGoBack fmc b).foundFmcSess = r.foundFmcSess := by
  cases fmc <;> rfl

/-- A call that makes the request. -/
structure Requests (s s' : NalState) : Prop where
  path : s'.path = { s.path with
    soTOEDReq := s.path.soTOEDReq ++ [⟨s.rrh.foundID, s.rrh.requestedLength⟩]
    sRDpReqNotif := s.path.sRDpReqNotif ++ [⟨s.rrh.foundID, s.rrh.requestedLength⟩] }
  requested : s'.requested = s.requested ++
    [⟨⟨s.rrh.foundID, s.rrh.requestedLength⟩, s.rrh.foundFmcSess, s.rrh.free s.rrh.foundFmcSess⟩]
  returned : s'.returned = s.returned
  found : s'.rrh.foundFmcSess = s.rrh.foundFmcSess
  fsmState : s'.rrh.fsmState = RrhState.waits s.rrh.foundFmcSess
  goBack : ∀ fmc, s'.rrh.goBack fmc = false
  free : ∀ fmc, (s'.rrh.free fmc).toNat
    = if fmc = s.rrh.foundFmcSess then (s.rrh.free fmc).toNat - s.rrh.requestedLength.toNat
      else (s.rrh.free fmc).toNat

lemma rrhProcessRequest_cases (hr : RequestOk s.rrh) (hup : k.up = true) :
    rrhProcessRequest s k = s ∨ Requests s (rrhProcessRequest s k) := by
  rw [rrhProcessRequest, if_neg (by simp [hup])]
  split
  · right
    have hsub : (s.rrh.free s.rrh.foundFmcSess - s.rrh.requestedLength).toNat
        = (s.rrh.free s.rrh.foundFmcSess).toNat - s.rrh.requestedLength.toNat :=
      BitVec.toNat_sub_of_le hr.le
    cases hcut : s.rrh.needCamUpdate with
    | true =>
        obtain ⟨hall, -, -⟩ := hr.cut hcut
        refine ⟨rfl, rfl, rfl, ?_, rfl, ?_, ?_⟩
        · simp
        · intro fmc
          cases fmc <;> rfl
        · intro fmc
          have hfree : RrhState.free (s.rrh.setFree s.rrh.foundFmcSess 0) fmc
              = if fmc = s.rrh.foundFmcSess then 0 else s.rrh.free fmc := free_setFree _ _ _ _
          refine (congrArg BitVec.toNat hfree).trans ?_
          split
          · next heq =>
              rw [heq, hall, Nat.sub_self]
              rfl
          · rfl
    | false =>
        refine ⟨rfl, rfl, rfl, ?_, rfl, ?_, ?_⟩
        · simp
        · intro fmc
          cases fmc <;> rfl
        · intro fmc
          have hfree : RrhState.free (s.rrh.setFree s.rrh.foundFmcSess
                (s.rrh.free s.rrh.foundFmcSess - s.rrh.requestedLength)) fmc
              = if fmc = s.rrh.foundFmcSess
                then s.rrh.free s.rrh.foundFmcSess - s.rrh.requestedLength
                else s.rrh.free fmc := free_setFree _ _ _ _
          refine (congrArg BitVec.toNat hfree).trans ?_
          split
          · next heq =>
              rw [hsub, heq]
          · rfl
  · exact .inl rfl

lemma fifoRequested_append (fmc : Bool) (rs qs : List RrhRequest) :
    fifoRequested fmc (rs ++ qs) = fifoRequested fmc rs + fifoRequested fmc qs := by
  rw [fifoRequested, List.map_append, List.sum_append]
  rfl

lemma fifoReturned_append (fmc : Bool) (rs qs : List (Bool × PacketLen)) :
    fifoReturned fmc (rs ++ qs) = fifoReturned fmc rs + fifoReturned fmc qs := by
  rw [fifoReturned, List.map_append, List.sum_append]
  rfl

lemma NalInv.request (h : NalInv s) (hs : RrhSessions s') (hreq : Requests s s')
    (hst : s.rrh.fsmState = .processRequest) : NalInv s' := by
  have hr := h.sessions.request hst
  obtain ⟨hquiet, -, hfree⟩ := h.idle (.inr (.inr hst))
  obtain ⟨hpath, hbytes⟩ :=
    hquiet.ask s.rrh.foundFmcSess ⟨s.rrh.foundID, s.rrh.requestedLength⟩
  rw [← hreq.path] at hpath
  simp only [← hreq.path] at hbytes
  have hpos : 1 ≤ s.rrh.requestedLength.toNat := by
    by_contra hzero
    exact hr.pos (BitVec.eq_of_toNat_eq (Nat.lt_one_iff.mp (Nat.not_le.mp hzero)))
  have hle := hr.le
  refine ⟨hs, .waits ?_ (.inl ?_) (hreq.goBack _) ?_ ?_ ?_, ?_, ?_⟩
  · rw [hreq.found]
    exact hpath
  · rw [hreq.found]
    exact hreq.fsmState
  · rw [hreq.found, hbytes, if_pos rfl]
    exact hpos
  · rw [hreq.found, hbytes, if_pos rfl, hreq.free, if_pos rfl]
    rw [hfree] at hle ⊢
    exact Nat.sub_add_cancel hle
  · rw [hreq.found, hreq.free, if_neg (by simp)]
    exact hfree _
  · intro fmc
    rw [hreq.requested, hreq.returned, fifoRequested_append, h.returned hquiet, hreq.found, hbytes]
    have hone : fifoRequested fmc [⟨⟨s.rrh.foundID, s.rrh.requestedLength⟩, s.rrh.foundFmcSess,
        s.rrh.free s.rrh.foundFmcSess⟩]
        = if s.rrh.foundFmcSess = fmc then s.rrh.requestedLength.toNat else 0 := rfl
    rw [hone]
    simp only [eq_comm]
  · rw [hreq.requested]
    intro r hmem
    obtain hmem | hmem := List.mem_append.mp hmem
    · exact h.bounds r hmem
    · rw [List.mem_singleton.mp hmem]
      exact ⟨hpos, hle⟩

/-- A wait goes on, it is interrupted, or a length that was returned is taken. -/
lemma rrhWaitAck_cases (fmc sigHere : Bool) (hup : k.up = true) :
    rrhWaitAck s k fmc sigHere = s ∨
      rrhWaitAck s k fmc sigHere
        = { s with rrh := { s.rrh.setGoBack fmc true with fsmState := .waitNotif } } ∨
      ∃ n ns, s.path.sig fmc = n :: ns ∧
        rrhWaitAck s k fmc sigHere
          = { s with
              path := s.path.takeSig fmc
              rrh := {
                (s.rrh.setFree fmc
                  (if s.rrh.free fmc + n > BitVec.ofNat 16 nalMaxFifoDepthsBytes
                    then BitVec.ofNat 16 nalMaxFifoDepthsBytes
                    else s.rrh.free fmc + n)).setGoBack fmc false with fsmState := .waitNotif }
              returned := s.returned ++ [(fmc, n)] } := by
  rw [rrhWaitAck, if_neg (by simp [hup])]
  split
  · next n ns hsig =>
      split
      · exact .inr (.inr ⟨n, ns, hsig, rfl⟩)
      · split
        · exact .inr (.inl rfl)
        · exact .inl rfl
  · split
    · exact .inr (.inl rfl)
    · exact .inl rfl

lemma NalInv.waitAck {fmc sigHere : Bool} (h : NalInv s)
    (hs : RrhSessions (rrhWaitAck s k fmc sigHere)) (hup : k.up = true)
    (hst : s.rrh.fsmState = RrhState.waits fmc) : NalInv (rrhWaitAck s k fmc sigHere) := by
  cases h.phase with
  | quiet _ hno _ _ _ => exact absurd hst (hno fmc)
  | waits hpath hw hback hpos hfree hother =>
      obtain rfl : fmc = s.rrh.foundFmcSess := by
        obtain hw | ⟨-, hw | hw⟩ := hw
        · exact waits_inj (hst.symm.trans hw)
        · exact absurd (hst.symm.trans hw) (waits_ne fmc).2.1
        · exact absurd (hst.symm.trans hw) (waits_ne fmc).2.2.1
      obtain heq | heq | ⟨n, ns, hsig, heq⟩ := rrhWaitAck_cases s.rrh.foundFmcSess sigHere hup
      · rw [heq]
        exact h
      · rw [heq] at hs ⊢
        have hfound : (s.rrh.setGoBack s.rrh.foundFmcSess true).foundFmcSess
            = s.rrh.foundFmcSess := foundFmcSess_setGoBack _ _ _
        refine ⟨hs, .waits ?_ (.inr ⟨?_, .inl rfl⟩) ?_ ?_ ?_ ?_, ?_, h.bounds⟩
        · rw [hfound]
          exact hpath
        · rw [hfound]
          exact (goBack_setGoBack _ _ _ _).trans (if_pos rfl)
        · rw [hfound]
          exact (goBack_setGoBack _ _ _ _).trans ((if_neg (by simp)).trans hback)
        · rw [hfound]
          exact hpos
        · rw [hfound]
          refine (congrArg (fun f : PacketLen => f.toNat + _) ?_).trans hfree
          exact free_setGoBack _ _ _ _
        · rw [hfound]
          refine (congrArg BitVec.toNat ?_).trans hother
          exact free_setGoBack _ _ _ _
        · intro d
          rw [hfound]
          exact h.unacked d
      · rw [heq] at hs ⊢
        obtain ⟨hn, hquiet⟩ := hpath.take hsig
        have hsum : (s.rrh.free s.rrh.foundFmcSess + n).toNat = nalMaxFifoDepthsBytes := by
          rw [BitVec.toNat_add, hn, hfree, nalMaxFifoDepthsBytes]
        have hcap : ¬s.rrh.free s.rrh.foundFmcSess + n > BitVec.ofNat 16 nalMaxFifoDepthsBytes := by
          intro hgt
          have hgt' : (BitVec.ofNat 16 nalMaxFifoDepthsBytes).toNat
              < (s.rrh.free s.rrh.foundFmcSess + n).toNat := hgt
          rw [hsum] at hgt'
          exact absurd hgt' (by decide)
        rw [if_neg hcap] at hs ⊢
        refine .quiet hs hquiet (fun d hw => (waits_ne d).2.1 hw.symm) (fun h => by cases h)
          ?_ ?_ ?_ h.bounds
        · intro d
          refine (goBack_setGoBack _ _ _ _).trans ?_
          rw [goBack_setFree]
          split
          · rfl
          · next hne =>
              obtain rfl : d = !s.rrh.foundFmcSess := Bool.eq_not_of_ne hne
              exact hback
        · intro d
          refine (congrArg BitVec.toNat
            ((free_setGoBack _ _ _ _).trans (free_setFree _ _ _ _))).trans ?_
          split
          · exact hsum
          · next hne =>
              obtain rfl : d = !s.rrh.foundFmcSess := Bool.eq_not_of_ne hne
              exact hother
        · intro d
          have hone : fifoReturned d [(s.rrh.foundFmcSess, n)]
              = if s.rrh.foundFmcSess = d then n.toNat else 0 := rfl
          rw [h.unacked d, fifoReturned_append, hone]
          split
          · next heq =>
              rw [← heq, hn]
          · next hne =>
              obtain rfl : d = !s.rrh.foundFmcSess := Bool.eq_not_of_ne fun h => hne h.symm
              rw [bytes_other hpath]

/-- One call of the process. -/
theorem NalInv.rrh (h : NalInv s) (hok : RrhOk s k) : NalInv (pTcpRRh s k) := by
  have hdrain : s.rrh.fsmState ≠ .drain := by
    cases h.phase with
    | quiet _ _ hdrain _ _ => exact hdrain
    | waits _ hst _ _ _ _ =>
        intro hd
        rw [hd] at hst
        obtain hst | ⟨-, hst | hst⟩ := hst
        · exact (waits_ne _).1 hst.symm
        · cases hst
        · cases hst
  have hfree (hst : s.rrh.fsmState = .startRequest) (fmc : Bool) : s.rrh.free fmc ≠ 0 := by
    intro hzero
    have hall := (h.idle (.inr (.inl hst))).2.2 fmc
    rw [hzero] at hall
    exact absurd hall (by decide)
  have hs := pTcpRRh_sessions h.sessions hok hdrain hfree
  rw [pTcpRRh] at hs ⊢
  cases hst : s.rrh.fsmState with
  | reset =>
      rw [hst] at hs
      exact h.reset hs hst
  | waitNotif =>
      rw [hst] at hs
      exact h.of_same hs (rrhWaitNotif_same hok.1 hst) (.inl hst)
  | processNotif =>
      rw [hst] at hs
      exact h.of_same hs (rrhProcessNotif_same hst) (.inr hst)
  | startRequest =>
      rw [hst] at hs
      exact h.startRequest hs hst
  | processRequest =>
      rw [hst] at hs
      dsimp only at hs ⊢
      obtain heq | hreq := rrhProcessRequest_cases (h.sessions.request hst) hok.1
      · rw [heq]
        exact h
      · exact h.request hs hreq hst
  | waitFmc =>
      rw [hst] at hs
      exact h.waitAck hs hok.1 hst
  | waitRole =>
      rw [hst] at hs
      exact h.waitAck hs hok.1 hst
  | drain => exact absurd hst hdrain

/-- One step. -/
theorem NalInv.step (h : NalInv s) (k : NalStep) (hok : NalOk s k) : NalInv (nalNext s k) := by
  cases k with
  | notify n => exact h.notify n
  | rrh k => exact h.rrh hok
  | toe st =>
      refine h.of_path (fun hq => ?_) fun hp _ => toeAnswer_phase hp hok
      rw [toeAnswer_quiet hq]
      exact hq
  | rdp k => exact h.of_path (fun hq => pTcpRDp_quiet hq hok.1) fun hp _ => pTcpRDp_phase hp hok
  | deqFmc k =>
      refine h.of_path (fun hq => ?_) deqFmc_phase
      rw [deqFmc_of_empty (hq.fifos true)]
      exact hq
  | deqRole l7 dec k =>
      refine h.of_path (fun hq => ?_) deqRole_phase
      rw [deqRole_of_empty (hq.fifos false)]
      exact hq

/-- The memory is empty before the first call. -/
lemma lookup_nalStart (notif : TcpAppNotif) (id : SessionId) :
    (nalStart notif).rrh.sessionLength.lookup id = none := rfl

lemma nalStart_sessions (notif : TcpAppNotif) : RrhSessions (nalStart notif) := by
  refine ⟨?_, fun _ => lookup_nalStart notif, List.nodup_nil, ?_, ?_, fun id => rfl,
    fun h => (by cases h), fun h => (by cases h), fun h => (by cases h)⟩
  · exact List.pairwise_replicate.mpr (.inr fun h => by cases h)
  · intro id
    exact iff_of_false List.not_mem_nil (by rw [lookup_nalStart]; simp)
  · intro id v hv
    rw [lookup_nalStart] at hv
    cases hv

lemma nalStart_inv (notif : TcpAppNotif) : NalInv (nalStart notif) := by
  refine .quiet (nalStart_sessions notif) ⟨rfl, rfl, rfl, rfl, .inl rfl, ?_⟩
    (fun fmc hw => (waits_ne fmc).2.2.2.2.2 hw.symm) (fun h => by cases h) ?_ ?_ (fun fmc => rfl)
    (fun r hr => by cases hr)
  · intro fmc
    cases fmc <;> exact ⟨rfl, rfl, rfl, rfl, rfl⟩
  · intro fmc
    cases fmc <;> rfl
  · intro fmc
    cases fmc <;> rfl

end Invariant

/-- In a run whose steps all meet the condition, the credits are kept in every state. -/
theorem credits_kept (notif : TcpAppNotif) (ks : List NalStep)
    (hok : Clocked.Along nalNext NalOk (nalStart notif) ks) :
    CreditsKept (Clocked.run nalNext (nalStart notif) ks) := by
  have hstep (s : NalState) (k : NalStep) (hs : NalInv s) (hk : NalOk s k) :
      NalInv (nalNext s k) := hs.step k hk
  exact (Clocked.run_inv hstep (nalStart_inv notif) hok).kept

/-- Eight bytes for a ROLE. -/
def eightForRole : TcpAppNotif := ⟨1, 8, 0x0A000001, 5000, 80, .established⟩

/-- The run in which the eight bytes are notified, requested and answered, and the session is read
while the ROLE is decoupled or not. -/
def readEightForRole (roleDecoupled : Bool) : List NalStep :=
  let rrh := NalStep.rrh { cfrmIp4Addr := 0x0A000002, fmcLsnPort := 8803 }
  let rdp : RdpCall := { cfrmIp4Addr := 0x0A000002, fmcLsnPort := 8803 }
  .notify eightForRole :: List.replicate 5 rrh ++
    [.rdp rdp, .rdp rdp, .toe [⟨List.replicate 8 ⟨7, true⟩, true, rfl⟩],
      .rdp { rdp with tripleRep := some (newTriple 0x0A000001 5000 80) },
      .rdp { rdp with nidRep := some 4 },
      .rdp { rdp with roleDecoupled := roleDecoupled }, .rdp rdp]

/-- The ROLE reads the bytes, and they are free again. -/
def returnEight : List NalStep :=
  [.deqRole true false ⟨true, true, false, false, false⟩,
    .deqRole true false ⟨true, true, false, false, false⟩,
    .rrh { cfrmIp4Addr := 0x0A000002, fmcLsnPort := 8803 }]

theorem credits_kept_eight :
    CreditsKept (Clocked.run nalNext (nalStart eightForRole)
      (readEightForRole false ++ returnEight)) :=
  credits_kept eightForRole _ (by decide +kernel)

/-- The TOE answers what was requested. -/
def ToeKeeps (s : NalState) : NalStep → Prop
  | .toe st => ToeAnswers s.path st
  | _ => True

instance (s : NalState) : (k : NalStep) → Decidable (ToeKeeps s k)
  | .toe st => inferInstanceAs (Decidable (ToeAnswers s.path st))
  | .notify _ | .rrh _ | .rdp _ | .deqFmc _ | .deqRole _ _ _ => isTrue trivial

/-- While the ROLE is decoupled its packet is dropped. The eight bytes are neither free nor on
their way, and the process waits for them. -/
theorem credits_lost :
    ¬∀ ks, Clocked.Along nalNext ToeKeeps (nalStart eightForRole) ks →
      CreditsKept (Clocked.run nalNext (nalStart eightForRole) ks) := by
  intro h
  have hkept := h (readEightForRole true) (by decide +kernel)
  have hbytes := hkept.waits false (by decide +kernel)
  exact absurd hbytes (by decide +kernel)

end CloudFpga.Nal
