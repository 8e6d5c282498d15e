import CloudFpga.Foundation.Clocked
import CloudFpga.Nal.Types

/-!
The active connections of the NAL, `pTcpCOn` of `tss.cpp`, with the TOE that opens them.

* `pTcpCOn`: takes a triple from `pTcpWRp`, asks the TOE for a connection and waits for the reply,
  as long as its watchdog does not expire.
* `conNext`: a triple arrives, the TOE replies to one of the requests that it has, or the process
  is called. The requests are numbered, and so are the replies; the process does not see the
  numbers.
* `OpenBound`: a triple is bound to a session that was opened for it, and every request is answered.
* `ConOk`: no request is sent to the TOE while the reply to an earlier one is still to come.
* `open_bound`: in a run whose steps all meet `ConOk`, every state is `OpenBound`, and every request
  is answered after a bounded number of calls.
-/

namespace CloudFpga.Nal

open Foundation

inductive OpnFsmStates where
  | idle | req | rep | done
  deriving DecidableEq, Repr

/-- `NAL_CONNECTION_TIMEOUT`, and what the simulation has in its place. -/
def nalConnectionTimeout : Build → BitVec 32
  | .simulation => 10
  | .synthesis => 160000000

/-- The reply of `pTcpCOn`. -/
structure NalNewTcpConRep where
  newTriple : NalTriple
  newSessionId : SessionId
  failure : Bool
  deriving DecidableEq, Repr

/-- A request of `pTcpCOn` to the TOE, with its number. -/
structure OpnRequest where
  number : ℕ
  hostSockAddr : SockAddr
  deriving DecidableEq, Repr

/-- A reply of the TOE, with the number of the request. -/
structure OpnReply where
  number : ℕ
  rep : TcpAppOpnRep
  deriving DecidableEq, Repr

/-- The registers of the process, the streams that it reads and what it wrote to the others. The
last four fields are a history that no step reads. -/
structure ConState where
  opnFsmState : OpnFsmStates := .idle
  startupDelay : BitVec 16 := 30
  watchDogTimerPcon : BitVec 32 := 0
  tripleForNewConnection : NalTriple := 0
  sNewTcpConReq : List NalTriple := []
  soTOEOpnReq : List OpnRequest := []
  siTOEOpnRep : List OpnReply := []
  sAddNewTripleTcpCon : List NalNewTableEntry := []
  sNewTcpConRep : List NalNewTcpConRep := []
  /-- The triples of the requests, by their numbers. -/
  taken : List NalTriple := []
  /-- What the TOE replied. -/
  replied : List OpnReply := []
  /-- The number of a request and of the reply that was taken for it. -/
  consumed : List (ℕ × ℕ) := []
  deriving DecidableEq, Repr

/-- Which of the streams that the process writes to have room. -/
structure ConCall where
  opnReqRoom : Bool := true
  addRoom : Bool := true
  conRepRoom : Bool := true
  deriving DecidableEq, Repr

section Process

variable (b : Build) (s : ConState)

/-- `OPN_REQ`. -/
def conReq (k : ConCall) : ConState :=
  match s.sNewTcpConReq with
  | triple :: triples =>
      if k.opnReqRoom then
        { s with
          sNewTcpConReq := triples
          tripleForNewConnection := triple
          soTOEOpnReq := s.soTOEOpnReq ++ [⟨s.taken.length,
            ⟨getRemoteIpAddrFromTriple triple, getRemotePortFromTriple triple⟩⟩]
          watchDogTimerPcon := nalConnectionTimeout b
          opnFsmState := .rep
          taken := s.taken ++ [triple] }
      else s
  | [] => s

/-- The attempt to open a connection has failed. -/
def conFailure : NalNewTcpConRep := ⟨s.tripleForNewConnection, unusedSessionEntryValue, true⟩

/-- `OPN_REP`. -/
def conRep (k : ConCall) : ConState :=
  if k.addRoom && k.conRepRoom then
    let watchDog := s.watchDogTimerPcon - 1
    match s.siTOEOpnRep with
    | newConn :: reps =>
        let s' := { s with
          watchDogTimerPcon := watchDog
          siTOEOpnRep := reps
          opnFsmState := .done
          consumed := s.consumed ++ [(s.taken.length - 1, newConn.number)] }
        if newConn.rep.tcpState = .established then
          { s' with
            sAddNewTripleTcpCon := s.sAddNewTripleTcpCon ++
              [⟨s.tripleForNewConnection, newConn.rep.sessId⟩]
            sNewTcpConRep := s.sNewTcpConRep ++
              [⟨s.tripleForNewConnection, newConn.rep.sessId, false⟩] }
        else { s' with sNewTcpConRep := s.sNewTcpConRep ++ [conFailure s] }
    | [] =>
        if watchDog = 0 then
          { s with
            watchDogTimerPcon := watchDog
            opnFsmState := .done
            sNewTcpConRep := s.sNewTcpConRep ++ [conFailure s] }
        else { s with watchDogTimerPcon := watchDog }
  else s

/-- One call. -/
def pTcpCOn (k : ConCall) : ConState :=
  match s.opnFsmState with
  | .idle =>
      if s.startupDelay > 0 then { s with startupDelay := s.startupDelay - 1 }
      else { s with opnFsmState := .req }
  | .req => conReq b s k
  | .rep => conRep s k
  | .done => { s with opnFsmState := .req }

/-- The TOE replies to the `n`-th of the requests that it has. -/
def toeOpnReply (n : ℕ) (rep : TcpAppOpnRep) : ConState :=
  match s.soTOEOpnReq[n]? with
  | some req =>
      { s with
        soTOEOpnReq := s.soTOEOpnReq.eraseIdx n
        siTOEOpnRep := s.siTOEOpnRep ++ [⟨req.number, rep⟩]
        replied := s.replied ++ [⟨req.number, rep⟩] }
  | none => s

end Process

inductive ConStep where
  | request (triple : NalTriple)
  | toe (n : ℕ) (rep : TcpAppOpnRep)
  | call (k : ConCall)
  deriving DecidableEq, Repr

def conNext (b : Build) (s : ConState) : ConStep → ConState
  | .request triple => { s with sNewTcpConReq := s.sNewTcpConReq ++ [triple] }
  | .toe n rep => toeOpnReply s n rep
  | .call k => pTcpCOn b s k

/-- The TOE opened the session for the triple. -/
def ConState.Opened (s : ConState) (triple : NalTriple) (id : SessionId) : Prop :=
  ∃ r ∈ s.replied, r.rep = ⟨id, .established⟩ ∧ s.taken[r.number]? = some triple

/-- The triple of the request that is not answered yet, if there is one. -/
def ConState.current (s : ConState) : List NalTriple :=
  if s.opnFsmState = .rep then [s.tripleForNewConnection] else []

/-- A triple is added to the table, and `pTcpWRp` is told of success, only with a session that the
TOE opened for it. The requests are answered in their order, each once. A reply is taken only for
the request that it is the reply to. -/
structure OpenBound (s : ConState) : Prop where
  added : ∀ e ∈ s.sAddNewTripleTcpCon, s.Opened e.newTriple e.sessId
  told : ∀ r ∈ s.sNewTcpConRep, r.failure = false → s.Opened r.newTriple r.newSessionId
  answered : s.taken = s.sNewTcpConRep.map NalNewTcpConRep.newTriple ++ s.current
  own : ∀ p ∈ s.consumed, p.1 = p.2

/-- The condition of a step: when a request is sent to the TOE, it has replied to all the others,
and the replies are taken. -/
def ConOk (s : ConState) : ConStep → Prop
  | .call k => s.opnFsmState = .req → s.sNewTcpConReq ≠ [] → k.opnReqRoom = true →
      s.soTOEOpnReq = [] ∧ s.siTOEOpnRep = []
  | _ => True

instance (s : ConState) : (k : ConStep) → Decidable (ConOk s k)
  | .request _ | .toe _ _ => isTrue trivial
  | .call k => inferInstanceAs (Decidable (s.opnFsmState = .req → s.sNewTcpConReq ≠ [] →
      k.opnReqRoom = true → s.soTOEOpnReq = [] ∧ s.siTOEOpnRep = []))

/-- The requests are answered in their order, and the watchdog of the current one is running. -/
structure ConAnswers (s : ConState) : Prop where
  answered : s.taken = s.sNewTcpConRep.map NalNewTcpConRep.newTriple ++ s.current
  watchDog : s.opnFsmState = .rep → 1 ≤ s.watchDogTimerPcon.toNat

/-- The bindings, with what the requests and replies on their way are. -/
structure ConInv (s : ConState) : Prop where
  added : ∀ e ∈ s.sAddNewTripleTcpCon, s.Opened e.newTriple e.sessId
  told : ∀ r ∈ s.sNewTcpConRep, r.failure = false → s.Opened r.newTriple r.newSessionId
  own : ∀ p ∈ s.consumed, p.1 = p.2
  asked : ∀ r ∈ s.soTOEOpnReq, r.number + 1 = s.taken.length
  due : ∀ r ∈ s.siTOEOpnRep, r.number + 1 = s.taken.length ∧ r ∈ s.replied

section Invariant

variable {b : Build} {s s' : ConState} {k : ConCall}

lemma ConState.current_of_ne (h : s.opnFsmState ≠ .rep) : s.current = [] := if_neg h

lemma nalConnectionTimeout_pos (b : Build) : 1 ≤ (nalConnectionTimeout b).toNat := by
  cases b <;> decide

/-- A call that does not wait for the TOE and answers nothing. -/
lemma ConAnswers.of_ne (h : ConAnswers s) (hst : s.opnFsmState ≠ .rep)
    (hst' : s'.opnFsmState ≠ .rep) (htaken : s'.taken = s.taken)
    (hrep : s'.sNewTcpConRep = s.sNewTcpConRep) : ConAnswers s' := by
  refine ⟨?_, fun hrep' => absurd hrep' hst'⟩
  rw [ConState.current_of_ne hst', htaken, hrep, h.answered, ConState.current_of_ne hst]

/-- The current request is answered. -/
lemma ConAnswers.answer (h : ConAnswers s) (hst : s.opnFsmState = .rep)
    (hst' : s'.opnFsmState ≠ .rep) (htaken : s'.taken = s.taken) {r : NalNewTcpConRep}
    (hr : r.newTriple = s.tripleForNewConnection)
    (hrep : s'.sNewTcpConRep = s.sNewTcpConRep ++ [r]) : ConAnswers s' := by
  refine ⟨?_, fun hrep' => absurd hrep' hst'⟩
  rw [ConState.current_of_ne hst', htaken, hrep, h.answered, ConState.current, if_pos hst]
  simp [hr]

lemma ConAnswers.conReq (h : ConAnswers s) (hst : s.opnFsmState = .req) :
    ConAnswers (conReq b s k) := by
  have hne : s.opnFsmState ≠ .rep := by simp [hst]
  have hanswered := h.answered
  rw [ConState.current_of_ne hne, List.append_nil] at hanswered
  rw [Nal.conReq]
  split
  · split
    · refine ⟨?_, fun _ => nalConnectionTimeout_pos b⟩
      simp [ConState.current, hanswered]
    · exact h
  · exact h

lemma ConAnswers.conRep (h : ConAnswers s) (hst : s.opnFsmState = .rep) :
    ConAnswers (conRep s k) := by
  have hdone : OpnFsmStates.done ≠ .rep := by decide
  rw [Nal.conRep]
  split
  · dsimp only
    split
    · split
      · exact h.answer hst hdone rfl rfl rfl
      · exact h.answer hst hdone rfl rfl rfl
    · split
      · exact h.answer hst hdone rfl rfl rfl
      · next hne =>
          refine ⟨h.answered, fun _ => ?_⟩
          have hpos := h.watchDog hst
          by_contra hzero
          exact hne (BitVec.eq_of_toNat_eq (Nat.lt_one_iff.mp (Nat.not_le.mp hzero)))
  · exact h

/-- One step. -/
lemma ConAnswers.step (h : ConAnswers s) (k : ConStep) : ConAnswers (conNext b s k) := by
  cases k with
  | request triple => exact ⟨h.answered, h.watchDog⟩
  | toe n rep =>
      have hstep : conNext b s (.toe n rep) = toeOpnReply s n rep := rfl
      rw [hstep, toeOpnReply]
      split
      · exact ⟨h.answered, h.watchDog⟩
      · exact h
  | call k =>
      have hstep : conNext b s (.call k) = pTcpCOn b s k := rfl
      rw [hstep, pTcpCOn]
      cases hst : s.opnFsmState with
      | idle =>
          have hne : s.opnFsmState ≠ .rep := by simp [hst]
          dsimp only
          split
          · exact h.of_ne hne (by simp) rfl rfl
          · exact h.of_ne hne (by simp) rfl rfl
      | req => exact h.conReq hst
      | rep => exact h.conRep hst
      | done => exact h.of_ne (by simp [hst]) (by simp) rfl rfl

/-- The current request is the one that was taken last. -/
lemma ConAnswers.last (h : ConAnswers s) (hst : s.opnFsmState = .rep) :
    s.taken[s.taken.length - 1]? = some s.tripleForNewConnection := by
  have hanswered := h.answered
  rw [ConState.current, if_pos hst] at hanswered
  rw [hanswered]
  simp

lemma ConState.Opened.mono {triple : NalTriple} {id : SessionId} (h : s.Opened triple id)
    (hreplied : s.replied ⊆ s'.replied) (htaken : s.taken <+: s'.taken) :
    s'.Opened triple id := by
  obtain ⟨r, hr, hrep, hget⟩ := h
  obtain ⟨ts, hts⟩ := htaken
  obtain ⟨hlt, -⟩ := List.getElem?_eq_some_iff.mp hget
  refine ⟨r, hreplied hr, hrep, ?_⟩
  rw [← hts, List.getElem?_append_left hlt]
  exact hget

/-- The TOE replies. -/
lemma ConInv.toe (h : ConInv s) (n : ℕ) (rep : TcpAppOpnRep) : ConInv (toeOpnReply s n rep) := by
  rw [toeOpnReply]
  split
  · next req hreq =>
      have hmem : req ∈ s.soTOEOpnReq := List.mem_of_getElem? hreq
      have hsub : s.replied ⊆ s.replied ++ [⟨req.number, rep⟩] := List.subset_append_left _ _
      refine ⟨?_, ?_, h.own, ?_, ?_⟩
      · intro e he
        exact (h.added e he).mono hsub List.prefix_rfl
      · intro r hr hok
        exact (h.told r hr hok).mono hsub List.prefix_rfl
      · intro r hr
        exact h.asked r (List.mem_of_mem_eraseIdx hr)
      · intro r hr
        obtain hr | hr := List.mem_append.mp hr
        · exact ⟨(h.due r hr).1, hsub (h.due r hr).2⟩
        · rw [List.mem_singleton.mp hr]
          exact ⟨h.asked req hmem, List.mem_append_right _ List.mem_cons_self⟩
  · exact h

/-- A request is sent while no other one is under way. -/
lemma ConInv.conReq (h : ConInv s) (hok : s.sNewTcpConReq ≠ [] → k.opnReqRoom = true →
      s.soTOEOpnReq = [] ∧ s.siTOEOpnRep = []) : ConInv (conReq b s k) := by
  rw [Nal.conReq]
  split
  · next triple triples hreq =>
      split
      · next hroom =>
          obtain ⟨hasked, hdue⟩ := hok (by rw [hreq]; exact List.cons_ne_nil _ _) hroom
          have htaken : s.taken <+: s.taken ++ [triple] := List.prefix_append _ _
          refine ⟨?_, ?_, h.own, ?_, ?_⟩
          · intro e he
            exact (h.added e he).mono (List.Subset.refl _) htaken
          · intro r hr hfail
            exact (h.told r hr hfail).mono (List.Subset.refl _) htaken
          · intro r hr
            rw [hasked, List.nil_append, List.mem_singleton] at hr
            simp [hr]
          · intro r hr
            rw [hdue] at hr
            cases hr
      · exact h
  · exact h

/-- A reply is taken, for the request that was sent last. -/
lemma ConInv.conRep (h : ConInv s) (hans : ConAnswers s) (hst : s.opnFsmState = .rep) :
    ConInv (conRep s k) := by
  have hlast := hans.last hst
  have hfailed : ∀ r ∈ s.sNewTcpConRep ++ [conFailure s], r.failure = false →
      s.Opened r.newTriple r.newSessionId := by
    intro r hr hfail
    obtain hr | hr := List.mem_append.mp hr
    · exact h.told r hr hfail
    · rw [List.mem_singleton.mp hr] at hfail
      cases hfail
  rw [Nal.conRep]
  split
  · dsimp only
    split
    · next newConn reps hrep =>
        have hmem : newConn ∈ s.siTOEOpnRep := by
          rw [hrep]
          exact List.mem_cons_self
        obtain ⟨hnumber, hreplied⟩ := h.due newConn hmem
        have hcurrent : s.taken.length - 1 = newConn.number := by omega
        have hown : ∀ p ∈ s.consumed ++ [(s.taken.length - 1, newConn.number)], p.1 = p.2 := by
          intro p hp
          obtain hp | hp := List.mem_append.mp hp
          · exact h.own p hp
          · rw [List.mem_singleton.mp hp]
            exact hcurrent
        have hdue : ∀ r ∈ reps, r.number + 1 = s.taken.length ∧ r ∈ s.replied := by
          intro r hr
          exact h.due r (by rw [hrep]; exact List.mem_cons_of_mem _ hr)
        split
        · next hest =>
            have hopened : s.Opened s.tripleForNewConnection newConn.rep.sessId := by
              refine ⟨newConn, hreplied, ?_, hcurrent ▸ hlast⟩
              rw [← hest]
            refine ⟨?_, ?_, hown, h.asked, hdue⟩
            · intro e he
              obtain he | he := List.mem_append.mp he
              · exact h.added e he
              · rw [List.mem_singleton.mp he]
                exact hopened
            · intro r hr hfail
              obtain hr | hr := List.mem_append.mp hr
              · exact h.told r hr hfail
              · rw [List.mem_singleton.mp hr]
                exact hopened
        · exact ⟨h.added, hfailed, hown, h.asked, hdue⟩
    · split
      · exact ⟨h.added, hfailed, h.own, h.asked, h.due⟩
      · exact ⟨h.added, h.told, h.own, h.asked, h.due⟩
  · exact h

/-- One step. -/
lemma ConInv.step (h : ConInv s) (hans : ConAnswers s) (k : ConStep) (hok : ConOk s k) :
    ConInv (conNext b s k) := by
  cases k with
  | request triple => exact ⟨h.added, h.told, h.own, h.asked, h.due⟩
  | toe n rep => exact h.toe n rep
  | call k =>
      have hstep : conNext b s (.call k) = pTcpCOn b s k := rfl
      rw [hstep, pTcpCOn]
      cases hst : s.opnFsmState with
      | idle =>
          dsimp only
          split
          · exact ⟨h.added, h.told, h.own, h.asked, h.due⟩
          · exact ⟨h.added, h.told, h.own, h.asked, h.due⟩
      | req => exact h.conReq (hok hst)
      | rep => exact h.conRep hans hst
      | done => exact ⟨h.added, h.told, h.own, h.asked, h.due⟩

/-- **The property from the invariants.** -/
lemma ConInv.bound (h : ConInv s) (hans : ConAnswers s) : OpenBound s :=
  ⟨h.added, h.told, hans.answered, h.own⟩

lemma conStart_answers : ConAnswers {} := ⟨rfl, fun h => by cases h⟩

lemma conStart_inv : ConInv {} := by
  refine ⟨?_, ?_, ?_, ?_, ?_⟩
  · intro e he
    cases he
  · intro r hr
    cases hr
  · intro p hp
    cases hp
  · intro r hr
    cases hr
  · intro r hr
    cases hr

end Invariant

/-! ### Every request is answered -/

section Progress

variable {b : Build} {s s' : ConState}

/-- A call that no stream blocks. -/
def ConStep.ready : ConStep → Bool
  | .call k => k.opnReqRoom && k.addRoom && k.conRepRoom
  | _ => false

/-- How many calls the current state takes at most. -/
def ConState.left (s : ConState) : ℕ :=
  match s.opnFsmState with
  | .idle => s.startupDelay.toNat + 1
  | .req => 0
  | .rep => s.watchDogTimerPcon.toNat + 1
  | .done => 1

/-- How many calls it takes at most to answer all requests. -/
def conWork (b : Build) (s : ConState) : ℕ :=
  s.sNewTcpConReq.length * ((nalConnectionTimeout b).toNat + 2) + s.left

/-- All requests that were ever made, and the watchdog. -/
structure ConTotal (total : List NalTriple) (s : ConState) : Prop where
  total : s.taken ++ s.sNewTcpConReq = total
  answers : ConAnswers s

/-- A step that makes no request takes a waiting one, or leaves them all as they are. -/
lemma conNext_total {k : ConStep} (hk : ∀ triple, k ≠ .request triple) :
    (conNext b s k).taken ++ (conNext b s k).sNewTcpConReq = s.taken ++ s.sNewTcpConReq := by
  cases k with
  | request triple => exact absurd rfl (hk triple)
  | toe n rep =>
      have hstep : conNext b s (.toe n rep) = toeOpnReply s n rep := rfl
      rw [hstep, toeOpnReply]
      split
      · rfl
      · rfl
  | call k =>
      have hstep : conNext b s (.call k) = pTcpCOn b s k := rfl
      rw [hstep, pTcpCOn]
      cases s.opnFsmState with
      | idle =>
          dsimp only
          split
          · rfl
          · rfl
      | req =>
          dsimp only
          rw [conReq]
          split
          · next triple triples hreq =>
              split
              · simp [hreq]
              · rfl
          · rfl
      | rep =>
          dsimp only
          rw [conRep]
          split
          · dsimp only
            split
            · split
              · rfl
              · rfl
            · split
              · rfl
              · rfl
          · rfl
      | done => rfl

/-- Either nothing waits or the stream is full, or the call is one of those that are left. -/
lemma conReq_work (hst : s.opnFsmState = .req) (k : ConCall) :
    conReq b s k = s ∧ (k.opnReqRoom = false ∨ conWork b s = 0) ∨
      conWork b (conReq b s k) + 1 ≤ conWork b s := by
  have hleft : s.left = 0 := by
    rw [ConState.left, hst]
  rw [conReq]
  split
  · next triple triples hreq =>
      split
      · right
        have hwork : conWork b s = (triples.length + 1) * ((nalConnectionTimeout b).toNat + 2) := by
          rw [conWork, hreq, hleft, List.length_cons, Nat.add_zero]
        rw [hwork, Nat.succ_mul]
        simp only [conWork, ConState.left]
        omega
      · next hroom => exact .inl ⟨rfl, .inl (by simpa using hroom)⟩
  · next hreq =>
      have hwork : conWork b s = 0 := by
        rw [conWork, hreq, hleft, List.length_nil, Nat.zero_mul]
      exact .inl ⟨rfl, .inr hwork⟩

lemma conRep_work (h : ConAnswers s) (hst : s.opnFsmState = .rep) (k : ConCall) :
    conRep s k = s ∧ (k.addRoom && k.conRepRoom) = false ∨
      conWork b (conRep s k) + 1 ≤ conWork b s := by
  have hpos := h.watchDog hst
  have hwork : conWork b s = s.sNewTcpConReq.length * ((nalConnectionTimeout b).toNat + 2)
      + (s.watchDogTimerPcon.toNat + 1) := by
    rw [conWork, ConState.left, hst]
  have hone : (1 : BitVec 32) ≤ s.watchDogTimerPcon := BitVec.le_def.mpr hpos
  have hdog : (s.watchDogTimerPcon - 1).toNat = s.watchDogTimerPcon.toNat - 1 :=
    BitVec.toNat_sub_of_le hone
  -- the connection is answered, or the watchdog counts down
  have hdone (s' : ConState) (hs' : s'.opnFsmState = .done)
      (hreq : s'.sNewTcpConReq = s.sNewTcpConReq) : conWork b s' + 1 ≤ conWork b s := by
    rw [hwork, conWork, hreq, ConState.left, hs']
    dsimp only
    omega
  rw [conRep]
  split
  · right
    dsimp only
    split
    · split
      · exact hdone _ rfl rfl
      · exact hdone _ rfl rfl
    · split
      · exact hdone _ rfl rfl
      · rw [hwork, conWork, ConState.left]
        dsimp only
        rw [hst, hdog]
        dsimp only
        omega
  · next hroom => exact .inl ⟨rfl, by simpa using hroom⟩

/-- A step that makes no request does not add to the work, and a call that nothing blocks does a
part of it. -/
lemma conNext_progress {total : List NalTriple} (h : ConTotal total s) {k : ConStep}
    (hk : ∀ triple, k ≠ .request triple) :
    Clocked.Progress (ConTotal total) (conWork b) ConStep.ready s k (conNext b s k) := by
  have hinv : ConTotal total (conNext b s k) :=
    ⟨(conNext_total hk).trans h.total, h.answers.step k⟩
  cases k with
  | request triple => exact absurd rfl (hk triple)
  | toe n rep =>
      have hwork : conWork b (conNext b s (.toe n rep)) = conWork b s := by
        have hstep : conNext b s (.toe n rep) = toeOpnReply s n rep := rfl
        rw [hstep, toeOpnReply]
        split
        · rfl
        · rfl
      exact ⟨hinv, hwork.le, fun h => by cases h⟩
  | call k =>
      have hstep : conNext b s (.call k) = pTcpCOn b s k := rfl
      rw [hstep] at hinv ⊢
      rw [pTcpCOn] at hinv ⊢
      cases hst : s.opnFsmState with
      | idle =>
          rw [hst] at hinv
          refine .move hinv ?_
          have hwork : conWork b s = s.sNewTcpConReq.length * ((nalConnectionTimeout b).toNat + 2)
              + (s.startupDelay.toNat + 1) := by
            rw [conWork, ConState.left, hst]
          dsimp only
          rw [hwork]
          split
          · next hpos =>
              have hone : (1 : BitVec 16) ≤ s.startupDelay := by
                simpa [BitVec.le_def, BitVec.lt_def, Nat.one_le_iff_ne_zero, Nat.pos_iff_ne_zero]
                  using hpos
              have hdelay : (s.startupDelay - 1).toNat = s.startupDelay.toNat - 1 :=
                BitVec.toNat_sub_of_le hone
              have hle : 1 ≤ s.startupDelay.toNat := hone
              simp only [conWork, ConState.left, hdelay]
              omega
          · simp only [conWork, ConState.left]
            omega
      | req =>
          rw [hst] at hinv
          obtain ⟨heq, hblocked⟩ | hwork := conReq_work (b := b) hst k
          · refine .stay h heq (hblocked.imp_left fun hroom => ?_)
            simp [ConStep.ready, hroom]
          · exact .move hinv hwork
      | rep =>
          rw [hst] at hinv
          obtain ⟨heq, hblocked⟩ | hwork := conRep_work (b := b) h.answers hst k
          · refine .stay h heq (.inl ?_)
            rw [ConStep.ready, Bool.and_assoc, hblocked, Bool.and_false]
          · exact .move hinv hwork
      | done =>
          rw [hst] at hinv
          refine .move hinv ?_
          simp only [conWork, ConState.left, hst]
          omega

/-- After as many unblocked calls as there is work, all requests are answered. -/
lemma con_answers (h : ConAnswers s) {ls : List ConStep} (hls : ∀ triple, .request triple ∉ ls)
    (hwork : conWork b s ≤ ls.countP ConStep.ready) :
    (Clocked.run (conNext b) s ls).sNewTcpConRep.map NalNewTcpConRep.newTriple
      = s.taken ++ s.sNewTcpConReq := by
  have hstep (s' : ConState) (k : ConStep) (hs' : ConTotal (s.taken ++ s.sNewTcpConReq) s')
      (hk : ∀ triple, k ≠ .request triple) :
      Clocked.Progress (ConTotal (s.taken ++ s.sNewTcpConReq)) (conWork b) ConStep.ready s' k
        (conNext b s' k) := conNext_progress hs' hk
  have halong : Clocked.Along (conNext b) (fun _ k => ∀ triple, k ≠ .request triple) s ls := by
    refine Clocked.along_of_forall (conNext b) ?_
    intro k hk _ triple heq
    rw [heq] at hk
    exact hls triple hk
  obtain ⟨⟨htotal, hans⟩, hle⟩ := Clocked.run_work hstep ⟨rfl, h⟩ halong
  have hzero : conWork b (Clocked.run (conNext b) s ls) = 0 := by omega
  rw [conWork, Nat.add_eq_zero_iff, Nat.mul_eq_zero] at hzero
  obtain ⟨hreqs, hleft⟩ := hzero
  have hempty : (Clocked.run (conNext b) s ls).sNewTcpConReq = [] :=
    List.length_eq_zero_iff.mp (hreqs.resolve_right (by omega))
  have hne : (Clocked.run (conNext b) s ls).opnFsmState ≠ .rep := by
    intro hst
    rw [ConState.left, hst] at hleft
    cases hleft
  rw [← htotal, hempty, List.append_nil, hans.answered, ConState.current_of_ne hne,
    List.append_nil]

end Progress

/-- In a run whose steps all meet the condition, triples are bound to the sessions that were opened
for them only, and every request is answered once, after a bounded number of calls. -/
theorem open_bound (b : Build) (ks : List ConStep) (hok : Clocked.Along (conNext b) ConOk {} ks) :
    OpenBound (Clocked.run (conNext b) {} ks) ∧
      ∀ ls : List ConStep, (∀ triple, .request triple ∉ ls) →
        conWork b (Clocked.run (conNext b) {} ks) ≤ ls.countP ConStep.ready →
          (Clocked.run (conNext b) {} (ks ++ ls)).sNewTcpConRep.map NalNewTcpConRep.newTriple
            = (Clocked.run (conNext b) {} ks).taken ++
              (Clocked.run (conNext b) {} ks).sNewTcpConReq := by
  have hstep (s : ConState) (k : ConStep) (hs : ConInv s ∧ ConAnswers s) (hk : ConOk s k) :
      ConInv (conNext b s k) ∧ ConAnswers (conNext b s k) :=
    ⟨hs.1.step hs.2 k hk, hs.2.step k⟩
  obtain ⟨hinv, hans⟩ := Clocked.run_inv hstep ⟨conStart_inv, conStart_answers⟩ hok
  refine ⟨hinv.bound hans, fun ls hls hwork => ?_⟩
  rw [Clocked.run_append]
  exact con_answers hans hls hwork

/-- The triples of two hosts. -/
def firstHost : NalTriple := newTriple 0x0A000005 2718 2718

def secondHost : NalTriple := newTriple 0x0A000006 2718 2718

/-- The start-up, after which a request to the first host is sent. -/
def openFirst : List ConStep := .request firstHost :: List.replicate 32 (.call {})

theorem open_bound_two :
    OpenBound (Clocked.run (conNext .synthesis) {}
      (openFirst ++ [.toe 0 ⟨3, .established⟩, .call {}, .call {}, .request secondHost, .call {},
        .toe 0 ⟨4, .closed⟩, .call {}])) :=
  (open_bound .synthesis _ (by decide +kernel)).1

/-- A call without a reply counts the watchdog down, and gives up when it is zero. -/
lemma conNext_waits (b : Build) {s : ConState} (hst : s.opnFsmState = .rep)
    (hrep : s.siTOEOpnRep = []) :
    conNext b s (.call {}) =
      if s.watchDogTimerPcon - 1 = 0 then
        { s with
          watchDogTimerPcon := s.watchDogTimerPcon - 1
          opnFsmState := .done
          sNewTcpConRep := s.sNewTcpConRep ++ [conFailure s] }
      else { s with watchDogTimerPcon := s.watchDogTimerPcon - 1 } := by
  have hcall : conNext b s (.call {}) = conRep s {} := by
    have hstep : conNext b s (.call {}) = pTcpCOn b s {} := rfl
    rw [hstep, pTcpCOn, hst]
  have hroom : (({} : ConCall).addRoom && ({} : ConCall).conRepRoom) = true := rfl
  rw [hcall, conRep, hrep, if_pos hroom]

/-- Without a reply the process gives up when the watchdog has expired. -/
lemma run_waits (b : Build) {s : ConState} (hst : s.opnFsmState = .rep)
    (hrep : s.siTOEOpnRep = []) {n : ℕ} (hn : s.watchDogTimerPcon.toNat = n + 1) :
    Clocked.run (conNext b) s (List.replicate (n + 1) (.call {}))
      = { s with
          watchDogTimerPcon := 0
          opnFsmState := .done
          sNewTcpConRep := s.sNewTcpConRep ++ [conFailure s] } := by
  induction n generalizing s with
  | zero =>
      have hone : s.watchDogTimerPcon = 1 := BitVec.eq_of_toNat_eq hn
      have hzero : s.watchDogTimerPcon - 1 = 0 := by
        rw [hone]
        rfl
      rw [List.replicate_one, Clocked.run_cons, conNext_waits b hst hrep, if_pos hzero, hzero]
      rfl
  | succ n ih =>
      have hone : (1 : BitVec 32) ≤ s.watchDogTimerPcon := by
        rw [BitVec.le_def, hn]
        exact Nat.le_add_left 1 (n + 1)
      have hdog : (s.watchDogTimerPcon - 1).toNat = n + 1 := by
        rw [BitVec.toNat_sub_of_le hone, hn]
        rfl
      have hne : s.watchDogTimerPcon - 1 ≠ 0 := by
        intro hzero
        rw [hzero] at hdog
        cases hdog
      rw [List.replicate_succ, Clocked.run_cons, conNext_waits b hst hrep, if_neg hne]
      exact @ih { s with watchDogTimerPcon := s.watchDogTimerPcon - 1 } hst hrep hdog

/-- The first host does not reply in time. When it does, the second one is asked already. -/
def replyLate (b : Build) : List ConStep :=
  openFirst ++ List.replicate (nalConnectionTimeout b).toNat (.call {}) ++
    [.request secondHost, .call {}, .call {}, .toe 0 ⟨3, .established⟩, .call {}]

lemma run_openFirst (b : Build) :
    Clocked.run (conNext b) {} openFirst =
      { opnFsmState := .rep
        startupDelay := 0
        watchDogTimerPcon := nalConnectionTimeout b
        tripleForNewConnection := firstHost
        soTOEOpnReq := [⟨0, ⟨0x0A000005, 2718⟩⟩]
        taken := [firstHost] } := by
  cases b <;> decide +kernel

/-- The session of the first host is bound to the triple of the second one. -/
lemma not_openBound_late (b : Build) : ¬∀ ks, OpenBound (Clocked.run (conNext b) {} ks) := by
  intro h
  have hbound := h (replyLate b)
  have hpos := nalConnectionTimeout_pos b
  obtain ⟨n, hn⟩ := Nat.exists_eq_add_of_le' hpos
  rw [replyLate, hn, Clocked.run_append, Clocked.run_append, run_openFirst,
    run_waits b rfl rfl hn] at hbound
  have hown := hbound.own (1, 0) List.mem_cons_self
  cases hown

/-- So it is in both builds. -/
theorem reply_confused :
    (¬∀ ks, OpenBound (Clocked.run (conNext .simulation) {} ks)) ∧
      ¬∀ ks, OpenBound (Clocked.run (conNext .synthesis) {} ks) :=
  ⟨not_openBound_late .simulation, not_openBound_late .synthesis⟩

end CloudFpga.Nal
