import CloudFpga.Toe.AckDelay

/-!
The event engine, `event_engine.cpp`, with `ack_delay` and the events that the Tx engine reads.

The engine counts the events that it writes and the signals that come back, in counters of 8 bits,
to find out whether an event is in flight.

* `event_engine`: one call of the process.
* `EveSys`, `eveNext`: the processes with the FIFOs between them. A signal takes an arbitrary time
  on its way. The events that each process has passed on are recorded.
* `Conserved`: no event is lost, doubled or overtaken by another one of its source.
* `eventEngine_conserves_iff`: events of the application and of the timers are taken only when
  nothing is in flight, exactly when as many signals of written as of read events are under way.
-/

namespace CloudFpga.Toe

open Foundation

/-! ### The state -/

/-- `cDepth_EVeToAKd_Event` and the other depths of the FIFOs. -/
def cDepthEVeToAKdEvent : ℕ := 8
def cDepthAKdToEVeEvent : ℕ := 8
def cDepthAKdToTXeEvent : ℕ := 16
def cDepthTXeToEVeEvent : ℕ := 8

/-- A FIFO of signals: those on their way, and those that can be read. -/
structure SigFifo where
  hidden : ℕ := 0
  ready : ℕ := 0
  deriving DecidableEq

namespace SigFifo

variable (f : SigFifo)

def total : ℕ := f.hidden + f.ready

def write : SigFifo := { f with hidden := f.hidden + 1 }

/-- A signal arrives. -/
def arrive : SigFifo :=
  if 0 < f.hidden then { hidden := f.hidden - 1, ready := f.ready + 1 } else f

/-- A signal that can be read is counted. -/
def read (cnt : BitVec 8) : SigFifo × BitVec 8 :=
  if 0 < f.ready then ({ f with ready := f.ready - 1 }, cnt + 1) else (f, cnt)

end SigFifo

/-- The registers of the process. -/
structure EveState where
  eve2akdWrCnt : BitVec 8 := 0
  eve2akdRdCnt : BitVec 8 := 0
  akd2txeWrCnt : BitVec 8 := 0
  akd2txeRdCnt : BitVec 8 := 0
  deriving DecidableEq

inductive EveSource where
  | txAppInterface | rxEngine | timers
  deriving DecidableEq, Repr

/-- The processes with their streams. Recorded are the events that arrived from each source
(`came…`), that the event engine has `taken`, that the delayer has `accepted` and `forwarded`, and
that the Tx engine has `read`, all in order; and whether the delayer owes an acknowledgment. -/
structure EveSys where
  eve : EveState := {}
  siTAiEvent : List Event := []
  siRXeEvent : List ExtendedEvent := []
  siTImEvent : List Event := []
  soAKdEvent : List ExtendedEvent := []
  akd : AkdState := {}
  soTXeEvent : List ExtendedEvent := []
  akdRxEventSig : SigFifo := {}
  akdTxEventSig : SigFifo := {}
  txeRxEventSig : SigFifo := {}
  cameTAi : List Event := []
  cameRXe : List ExtendedEvent := []
  cameTIm : List Event := []
  taken : List (EveSource × ExtendedEvent) := []
  accepted : List ExtendedEvent := []
  forwarded : List ExtendedEvent := []
  read : List ExtendedEvent := []
  owed : SessionId → Bool := fun _ => false

/-! ### The calls -/

section Calls

variable (s : EveSys)

/-- An event of the Rx engine is taken. -/
def eveTakesRXe : Bool := s.siRXeEvent ≠ [] ∧ s.soAKdEvent.length < cDepthEVeToAKdEvent

/-- As the counters tell, nothing is in flight. -/
def eveIsIdle : Bool :=
  s.eve.eve2akdWrCnt = s.eve.eve2akdRdCnt ∧ s.eve.akd2txeWrCnt = s.eve.akd2txeRdCnt

/-- An event of the timers or of the application is taken. -/
def eveTakesOther : Bool :=
  ¬eveTakesRXe s ∧ eveIsIdle s ∧ (s.siTImEvent ≠ [] ∨ s.siTAiEvent ≠ [])

/-- An event is forwarded to the delayer. -/
def eveForward (source : EveSource) (ev : ExtendedEvent) : EveSys :=
  { s with
    soAKdEvent := s.soAKdEvent ++ [ev]
    taken := s.taken ++ [(source, ev)]
    eve := { s.eve with eve2akdWrCnt := s.eve.eve2akdWrCnt + 1 } }

/-- The inputs: the Rx engine goes first, and the others have to wait while an event is in flight.
The socket pair of their events is the one that the variable happens to hold. -/
def eveInputs (unread : SocketPair) : EveSys :=
  if eveTakesRXe s then
    match s.siRXeEvent with
    | ev :: es => eveForward { s with siRXeEvent := es } .rxEngine ev
    | [] => s
  else if eveIsIdle s then
    match s.siTImEvent, s.siTAiEvent with
    | ev :: es, _ => eveForward { s with siTImEvent := es } .timers ⟨ev, unread⟩
    | [], ev :: es => eveForward { s with siTAiEvent := es } .txAppInterface ⟨ev, unread⟩
    | [], [] => s
  else s

/-- The signals of the delayer and of the Tx engine. -/
def eveSignals : EveSys :=
  let r := s.akdRxEventSig.read s.eve.eve2akdRdCnt
  let w := s.akdTxEventSig.read s.eve.akd2txeWrCnt
  let t := s.txeRxEventSig.read s.eve.akd2txeRdCnt
  { s with
    akdRxEventSig := r.1
    akdTxEventSig := w.1
    txeRxEventSig := t.1
    eve := { s.eve with eve2akdRdCnt := r.2, akd2txeWrCnt := w.2, akd2txeRdCnt := t.2 } }

/-- One call of the process. The writes that are not guarded block while the FIFO is full. -/
def eventEngine (unread : SocketPair) : EveSys :=
  if eveTakesOther s ∧ ¬s.soAKdEvent.length < cDepthEVeToAKdEvent then s
  else eveSignals (eveInputs s unread)

/-- What a call of the delayer writes. -/
def akdWrites (akd : AkdState) (out : AkdOut) : EveSys :=
  { s with
    akd := akd
    akdRxEventSig := if out.rxEventSig = [] then s.akdRxEventSig else s.akdRxEventSig.write
    akdTxEventSig := if out.txEventSig = [] then s.akdTxEventSig else s.akdTxEventSig.write
    soTXeEvent := s.soTXeEvent ++ out.event
    forwarded := s.forwarded ++ out.event }

/-- The FIFOs have room for what a call of the delayer writes. -/
def akdFits (out : AkdOut) : Bool :=
  (out.rxEventSig = [] ∨ s.akdRxEventSig.total < cDepthAKdToEVeEvent) ∧
    (out.txEventSig = [] ∨ s.akdTxEventSig.total < cDepthAKdToEVeEvent) ∧
    (out.event = [] ∨ s.soTXeEvent.length < cDepthAKdToTXeEvent)

/-- One call of `ack_delay`. -/
def ackDelayCall : EveSys :=
  match s.soAKdEvent with
  | ev :: es =>
      let r := akdEvent s.akd ev
      if akdFits s r.2 then
        { akdWrites s r.1 r.2 with
          soAKdEvent := es
          accepted := s.accepted ++ [ev]
          owed := Function.update s.owed ev.event.sessionID (ev.event.type = .ack) }
      else s
  | [] =>
      let r := akdTick s.akd ¬s.soTXeEvent.length < cDepthAKdToTXeEvent
      if akdFits s r.2 then
        { akdWrites s r.1 r.2 with
          owed := if r.2.event = [] then s.owed else Function.update s.owed s.akd.akdPtr false }
      else s

/-- The Tx engine reads an event. -/
def txEngineRead : EveSys :=
  match s.soTXeEvent with
  | ev :: es =>
      if s.txeRxEventSig.total < cDepthTXeToEVeEvent then
        { s with
          soTXeEvent := es
          read := s.read ++ [ev]
          txeRxEventSig := s.txeRxEventSig.write }
      else s
  | [] => s

end Calls

/-- Who takes the next step. -/
inductive EveLabel where
  | tai (ev : Event)
  | rxe (ev : ExtendedEvent)
  | tim (ev : Event)
  | eventEngine (unread : SocketPair)
  | ackDelay
  | txEngine
  | akdRxEventSig
  | akdTxEventSig
  | txeRxEventSig

def eveNext (s : EveSys) : EveLabel → EveSys
  | .tai ev => { s with siTAiEvent := s.siTAiEvent ++ [ev], cameTAi := s.cameTAi ++ [ev] }
  | .rxe ev => { s with siRXeEvent := s.siRXeEvent ++ [ev], cameRXe := s.cameRXe ++ [ev] }
  | .tim ev => { s with siTImEvent := s.siTImEvent ++ [ev], cameTIm := s.cameTIm ++ [ev] }
  | .eventEngine unread => eventEngine s unread
  | .ackDelay => ackDelayCall s
  | .txEngine => txEngineRead s
  | .akdRxEventSig => { s with akdRxEventSig := s.akdRxEventSig.arrive }
  | .akdTxEventSig => { s with akdTxEventSig := s.akdTxEventSig.arrive }
  | .txeRxEventSig => { s with txeRxEventSig := s.txeRxEventSig.arrive }

/-! ### What the processes have to do -/

/-- The events that were taken from a source. -/
def EveSys.takenFrom (s : EveSys) (source : EveSource) : List ExtendedEvent :=
  (s.taken.filter (·.1 = source)).map (·.2)

/-- The events that are not acknowledgments. -/
def nonAck (es : List ExtendedEvent) : List ExtendedEvent := es.filter (·.event.type ≠ .ack)

/-- Every event is passed on once, and in the order of its source, up to the FIFO in which it
waits; the delayer adds and removes acknowledgments only, and its delay runs for exactly those
sessions to which one is owed. -/
structure Conserved (s : EveSys) : Prop where
  txAppInterface : (s.takenFrom .txAppInterface).map (·.event) ++ s.siTAiEvent = s.cameTAi
  rxEngine : s.takenFrom .rxEngine ++ s.siRXeEvent = s.cameRXe
  timers : (s.takenFrom .timers).map (·.event) ++ s.siTImEvent = s.cameTIm
  accepted : s.accepted ++ s.soAKdEvent = s.taken.map (·.2)
  forwarded : nonAck s.forwarded = nonAck s.accepted
  read : s.read ++ s.soTXeEvent = s.forwarded
  owed : ∀ id, s.owed id = true ↔ (s.akd.ackTable id).delay ≠ 0

/-- A call of the event engine takes an event of the timers or of the application only when nothing
is in flight. -/
def TakesWhenEmpty (s : EveSys) : EveLabel → Prop
  | .eventEngine _ => eveTakesOther s = true → s.soAKdEvent = [] ∧ s.soTXeEvent = []
  | _ => True

/-- What a step has to do. -/
def EveCorrect (s : EveSys) (l : EveLabel) : Prop := Conserved (eveNext s l) ∧ TakesWhenEmpty s l

/-- When an event of the timers or of the application is taken, as many signals of events that were
written to the Tx engine are under way as of events that it has read. -/
def SignalsAgree (s : EveSys) : EveLabel → Prop
  | .eventEngine _ => eveTakesOther s = true → s.akdTxEventSig.total = s.txeRxEventSig.total
  | _ => True

/-! ### The counters -/

/-- The counter has counted all but `pending` of `n` events, modulo its range. -/
def Counts (cnt : BitVec 8) (pending n : ℕ) : Prop := (cnt.toNat + pending) % 256 = n % 256

section Counts

variable {cnt : BitVec 8} {f : SigFifo} {n : ℕ}

lemma toNat_cnt_succ (cnt : BitVec 8) : (cnt + 1).toNat = (cnt.toNat + 1) % 256 := by
  rw [BitVec.toNat_add]
  rfl

lemma Counts.succ (h : Counts cnt 0 n) : Counts (cnt + 1) 0 (n + 1) := by
  rw [Counts] at h ⊢
  rw [toNat_cnt_succ]
  omega

lemma Counts.write (h : Counts cnt f.total n) : Counts cnt f.write.total (n + 1) := by
  rw [Counts, SigFifo.total] at h ⊢
  simp only [SigFifo.write]
  omega

lemma SigFifo.total_arrive (f : SigFifo) : f.arrive.total = f.total := by
  rw [SigFifo.arrive]
  split
  · simp only [SigFifo.total]
    omega
  · rfl

lemma Counts.read (h : Counts cnt f.total n) : Counts (f.read cnt).2 (f.read cnt).1.total n := by
  rw [SigFifo.read]
  split
  · next hready =>
      rw [Counts, SigFifo.total] at h ⊢
      dsimp only
      rw [toNat_cnt_succ]
      omega
  · exact h

lemma SigFifo.total_read_le (f : SigFifo) (cnt : BitVec 8) : (f.read cnt).1.total ≤ f.total := by
  rw [SigFifo.read]
  split
  · simp only [SigFifo.total]
    omega
  · exact le_refl _

end Counts

/-- The counters count what the processes have passed on, and the FIFOs are not overfull. -/
structure EveCounts (s : EveSys) : Prop where
  taken : Counts s.eve.eve2akdWrCnt 0 s.taken.length
  accepted : Counts s.eve.eve2akdRdCnt s.akdRxEventSig.total s.accepted.length
  forwarded : Counts s.eve.akd2txeWrCnt s.akdTxEventSig.total s.forwarded.length
  read : Counts s.eve.akd2txeRdCnt s.txeRxEventSig.total s.read.length
  soAKdEvent : s.soAKdEvent.length ≤ cDepthEVeToAKdEvent
  soTXeEvent : s.soTXeEvent.length ≤ cDepthAKdToTXeEvent
  akdRxEventSig : s.akdRxEventSig.total ≤ cDepthAKdToEVeEvent
  akdTxEventSig : s.akdTxEventSig.total ≤ cDepthAKdToEVeEvent
  txeRxEventSig : s.txeRxEventSig.total ≤ cDepthTXeToEVeEvent

structure EveInv (s : EveSys) : Prop where
  conserved : Conserved s
  counts : EveCounts s

section Steps

variable {s : EveSys}

/-- When the counters agree, nothing is on its way to the delayer, and what is on its way to the
Tx engine are the events for which more signals are under way that they were written than that they
were read. -/
lemma EveInv.inFlight (h : EveInv s) (hidle : eveIsIdle s = true) :
    s.soAKdEvent = [] ∧ s.soTXeEvent.length + s.txeRxEventSig.total = s.akdTxEventSig.total := by
  obtain ⟨hwr, hrd⟩ := of_decide_eq_true hidle
  have htaken := h.counts.taken
  have haccepted := h.counts.accepted
  have hforwarded := h.counts.forwarded
  have hread := h.counts.read
  have hlen₁ := congrArg List.length h.conserved.accepted
  have hlen₂ := congrArg List.length h.conserved.read
  rw [List.length_append, List.length_map] at hlen₁
  rw [List.length_append] at hlen₂
  have hb₁ := h.counts.soAKdEvent
  have hb₂ := h.counts.soTXeEvent
  have hb₃ := h.counts.akdRxEventSig
  have hb₄ := h.counts.akdTxEventSig
  have hb₅ := h.counts.txeRxEventSig
  rw [hwr] at htaken
  rw [hrd] at hforwarded
  simp only [Counts, cDepthEVeToAKdEvent, cDepthAKdToTXeEvent, cDepthAKdToEVeEvent,
    cDepthTXeToEVeEvent] at *
  -- fewer than 256 events and signals are in the FIFOs
  refine ⟨List.eq_nil_of_length_eq_zero ?_, ?_⟩
  · omega
  · omega

/-- Events of the timers and of the application are taken when nothing is in flight if and only if
the signals agree. -/
lemma EveInv.takes_iff (h : EveInv s) (l : EveLabel) : TakesWhenEmpty s l ↔ SignalsAgree s l := by
  cases l with
  | eventEngine unread =>
      refine forall_congr' fun htakes => ?_
      obtain ⟨-, hidle, -⟩ := of_decide_eq_true htakes
      obtain ⟨hakd, hlen⟩ := h.inFlight hidle
      constructor
      · rintro ⟨-, htxe⟩
        rw [htxe, List.length_nil] at hlen
        omega
      · intro hsig
        exact ⟨hakd, List.eq_nil_of_length_eq_zero (by omega)⟩
  | tai | rxe | tim | ackDelay | txEngine | akdRxEventSig | akdTxEventSig | txeRxEventSig =>
      exact Iff.rfl

lemma takenFrom_append (s : EveSys) (source : EveSource) (x : EveSource × ExtendedEvent) :
    ((s.taken ++ [x]).filter (·.1 = source)).map (·.2) =
      s.takenFrom source ++ if x.1 = source then [x.2] else [] := by
  rw [List.filter_append, List.map_append, EveSys.takenFrom]
  by_cases h : x.1 = source <;> simp [h]

/-- The event engine takes an event. -/
lemma EveInv.forward {s' : EveSys} {source : EveSource} {ev : ExtendedEvent} (h : EveInv s)
    (hroom : s.soAKdEvent.length < cDepthEVeToAKdEvent)
    (hs' : s' = { s with
      siTAiEvent := s'.siTAiEvent, siRXeEvent := s'.siRXeEvent, siTImEvent := s'.siTImEvent })
    (htai : (if source = .txAppInterface then [ev.event] else []) ++ s'.siTAiEvent = s.siTAiEvent)
    (hrxe : (if source = .rxEngine then [ev] else []) ++ s'.siRXeEvent = s.siRXeEvent)
    (htim : (if source = .timers then [ev.event] else []) ++ s'.siTImEvent = s.siTImEvent) :
    EveInv (eveForward s' source ev) := by
  obtain ⟨hc, hn⟩ := h
  rw [hs']
  refine ⟨⟨?_, ?_, ?_, ?_, hc.forwarded, hc.read, hc.owed⟩,
    ⟨?_, hn.accepted, hn.forwarded, hn.read, ?_, hn.soTXeEvent, hn.akdRxEventSig, hn.akdTxEventSig,
      hn.txeRxEventSig⟩⟩
  · rw [← hc.txAppInterface, ← htai, EveSys.takenFrom]
    simp only [eveForward, takenFrom_append]
    split <;> simp
  · rw [← hc.rxEngine, ← hrxe, EveSys.takenFrom]
    simp only [eveForward, takenFrom_append]
    split <;> simp
  · rw [← hc.timers, ← htim, EveSys.takenFrom]
    simp only [eveForward, takenFrom_append]
    split <;> simp
  · simp only [eveForward, List.map_append, ← hc.accepted, List.map_singleton, List.append_assoc]
  · simp only [eveForward, List.length_append, List.length_singleton]
    exact hn.taken.succ
  · simp only [eveForward, List.length_append, List.length_singleton]
    omega

lemma EveInv.signals (h : EveInv s) : EveInv (eveSignals s) where
  conserved := ⟨h.conserved.txAppInterface, h.conserved.rxEngine, h.conserved.timers,
    h.conserved.accepted, h.conserved.forwarded, h.conserved.read, h.conserved.owed⟩
  counts :=
    { taken := h.counts.taken
      accepted := h.counts.accepted.read
      forwarded := h.counts.forwarded.read
      read := h.counts.read.read
      soAKdEvent := h.counts.soAKdEvent
      soTXeEvent := h.counts.soTXeEvent
      akdRxEventSig := (SigFifo.total_read_le _ _).trans h.counts.akdRxEventSig
      akdTxEventSig := (SigFifo.total_read_le _ _).trans h.counts.akdTxEventSig
      txeRxEventSig := (SigFifo.total_read_le _ _).trans h.counts.txeRxEventSig }

/-- A call of the event engine. -/
lemma EveInv.eventEngine (h : EveInv s) (unread : SocketPair) :
    EveInv (eventEngine s unread) := by
  rw [Toe.eventEngine]
  split
  · exact h
  · next hblock =>
      refine EveInv.signals ?_
      rw [eveInputs]
      split
      · next hrxe =>
          obtain ⟨-, hroom⟩ := of_decide_eq_true hrxe
          split
          · next ev es hev => exact h.forward hroom rfl rfl hev.symm rfl
          · exact h
      · next hrxe =>
          split
          · next hidle =>
              have hroom (hsome : s.siTImEvent ≠ [] ∨ s.siTAiEvent ≠ []) :
                  s.soAKdEvent.length < cDepthEVeToAKdEvent := by
                by_contra hfull
                exact hblock ⟨decide_eq_true ⟨hrxe, hidle, hsome⟩, hfull⟩
              split
              · next ev es hev => exact h.forward (hroom (.inl (by simp [hev]))) rfl rfl rfl hev.symm
              · next ev es _ hev =>
                  exact h.forward (hroom (.inr (by simp [hev]))) rfl hev.symm rfl rfl
              · exact h
          · exact h

lemma nonAck_append (es fs : List ExtendedEvent) : nonAck (es ++ fs) = nonAck es ++ nonAck fs :=
  List.filter_append ..

/-- A call of the delayer writes one event with one signal, or none. -/
def AkdOut.Paired (out : AkdOut) : Prop :=
  out.txEventSig = [] ∧ out.event = [] ∨ out.txEventSig ≠ [] ∧ ∃ ev, out.event = [ev]

/-- What the delayer writes is counted, and fits the FIFOs. -/
lemma EveCounts.writes (hn : EveCounts s) {akd : AkdState} {out : AkdOut} (hfits : akdFits s out)
    (hpair : out.Paired) :
    Counts s.eve.akd2txeWrCnt (akdWrites s akd out).akdTxEventSig.total
        (akdWrites s akd out).forwarded.length ∧
      (akdWrites s akd out).soTXeEvent.length ≤ cDepthAKdToTXeEvent ∧
      (akdWrites s akd out).akdRxEventSig.total ≤ cDepthAKdToEVeEvent ∧
      (akdWrites s akd out).akdTxEventSig.total ≤ cDepthAKdToEVeEvent := by
  obtain ⟨hrx, htx, hroom⟩ := of_decide_eq_true hfits
  have hwrite (f : SigFifo) : f.write.total = f.total + 1 := by
    simp only [SigFifo.total, SigFifo.write]
    omega
  have hrx' : (akdWrites s akd out).akdRxEventSig.total ≤ cDepthAKdToEVeEvent := by
    simp only [akdWrites]
    split
    · exact hn.akdRxEventSig
    · next hne =>
        have hlt := hrx.resolve_left hne
        rw [hwrite]
        omega
  obtain ⟨hsig, hev⟩ | ⟨hsig, ev, hev⟩ := hpair
  · simp only [akdWrites, hsig, hev, if_true, List.append_nil] at hrx' ⊢
    exact ⟨hn.forwarded, hn.soTXeEvent, hrx', hn.akdTxEventSig⟩
  · have hlt₁ := htx.resolve_left hsig
    have hlt₂ := hroom.resolve_left (by simp [hev])
    simp only [akdWrites, hev, if_neg hsig, List.length_append, List.length_singleton] at hrx' ⊢
    refine ⟨hn.forwarded.write, by omega, hrx', ?_⟩
    rw [hwrite]
    omega

lemma akdEvent_paired (akd : AkdState) (ev : ExtendedEvent) : (akdEvent akd ev).2.Paired := by
  simp only [akdEvent]
  split
  · exact .inl ⟨rfl, rfl⟩
  · exact .inr ⟨by simp, ev, rfl⟩

lemma akdTick_paired (akd : AkdState) (full : Bool) : (akdTick akd full).2.Paired := by
  by_cases hdelay : (akd.ackTable akd.akdPtr).delay > 0 ∧ ¬full
  · by_cases hone : (akd.ackTable akd.akdPtr).delay = 1
    · simp only [akdTick, if_pos hdelay, if_pos hone]
      exact .inr ⟨by simp, _, rfl⟩
    · simp only [akdTick, if_pos hdelay, if_neg hone]
      exact .inl ⟨rfl, rfl⟩
  · simp only [akdTick, if_neg hdelay]
    exact .inl ⟨rfl, rfl⟩

/-- What the delayer makes of an event, but for the acknowledgments, and of its table. -/
lemma akdEvent_spec (akd : AkdState) (ev : ExtendedEvent) :
    (akdEvent akd ev).2.rxEventSig = [true] ∧ nonAck (akdEvent akd ev).2.event = nonAck [ev] ∧
      (((akdEvent akd ev).1.ackTable ev.event.sessionID).delay ≠ 0 ↔ ev.event.type = .ack) ∧
      ∀ id, id ≠ ev.event.sessionID → (akdEvent akd ev).1.ackTable id = akd.ackTable id := by
  by_cases htype : ev.event.type = .ack
  · simp only [akdEvent, if_pos htype]
    refine ⟨trivial, by simp [nonAck, htype], ?_, fun id hid => Function.update_of_ne hid _ _⟩
    simpa [htype] using AckEntry.ack_delay_ne_zero _
  · simp only [akdEvent, if_neg htype]
    exact ⟨trivial, trivial, by simp [htype], fun id hid => Function.update_of_ne hid _ _⟩

/-- A call without an event: the acknowledgment is asked for when its delay ends. -/
lemma akdTick_spec (akd : AkdState) (full : Bool) :
    (akdTick akd full).2.rxEventSig = [] ∧ nonAck (akdTick akd full).2.event = [] ∧
      (((akdTick akd full).1.ackTable akd.akdPtr).delay ≠ 0 ↔
        (akdTick akd full).2.event = [] ∧ (akd.ackTable akd.akdPtr).delay ≠ 0) ∧
      ∀ id, id ≠ akd.akdPtr → (akdTick akd full).1.ackTable id = akd.ackTable id := by
  by_cases hdelay : (akd.ackTable akd.akdPtr).delay > 0 ∧ ¬full
  · have hne : (akd.ackTable akd.akdPtr).delay ≠ 0 := by
      intro h
      rw [h] at hdelay
      exact absurd hdelay.1 (by decide)
    by_cases hone : (akd.ackTable akd.akdPtr).delay = 1
    · simp only [akdTick, if_pos hdelay, if_pos hone]
      refine ⟨trivial, rfl, ?_, fun id hid => Function.update_of_ne hid _ _⟩
      simp [hone]
    · have hsub : (akd.ackTable akd.akdPtr).delay - 1 ≠ 0 := by
        intro h
        exact hone (by bv_omega)
      simp only [akdTick, if_pos hdelay, if_neg hone]
      refine ⟨trivial, rfl, ?_, fun id hid => Function.update_of_ne hid _ _⟩
      simp only [Function.update_self]
      exact iff_of_true hsub ⟨trivial, hne⟩
  · simp only [akdTick, if_neg hdelay]
    exact ⟨trivial, rfl, by simp, fun _ _ => trivial⟩

/-- A call of the delayer. -/
lemma EveInv.ackDelay (h : EveInv s) : EveInv (ackDelayCall s) := by
  obtain ⟨hc, hn⟩ := h
  rw [ackDelayCall]
  split
  · next ev es hev =>
      obtain ⟨hrx, hnon, hdelay, hother⟩ := akdEvent_spec s.akd ev
      dsimp only
      split
      · next hfits =>
          obtain ⟨hforwarded, htxe, hrxSig, htxSig⟩ :=
            @EveCounts.writes s hn (akdEvent s.akd ev).1 _ hfits (akdEvent_paired s.akd ev)
          have hcount : Counts s.eve.eve2akdRdCnt
              (akdWrites s (akdEvent s.akd ev).1 (akdEvent s.akd ev).2).akdRxEventSig.total
              (s.accepted ++ [ev]).length := by
            simp only [akdWrites, hrx, List.cons_ne_nil, if_false, List.length_append]
            exact hn.accepted.write
          have hroom := hn.soAKdEvent
          rw [hev, List.length_cons] at hroom
          have hlen : es.length ≤ cDepthEVeToAKdEvent := by omega
          have haccepted : s.accepted ++ [ev] ++ es = s.taken.map (·.2) := by
            rw [← hc.accepted, hev]
            simp
          refine ⟨⟨hc.txAppInterface, hc.rxEngine, hc.timers, haccepted, ?_, ?_, fun id => ?_⟩,
            ⟨hn.taken, hcount, hforwarded, hn.read, hlen, htxe, hrxSig, htxSig,
              hn.txeRxEventSig⟩⟩
          · simp only [akdWrites, nonAck_append, hc.forwarded, hnon]
          · simp only [akdWrites, ← List.append_assoc, hc.read]
          · by_cases hid : id = ev.event.sessionID
            · subst hid
              simp only [akdWrites, Function.update_self, decide_eq_true_eq, hdelay]
            · simp only [akdWrites, Function.update_of_ne hid, hother id hid]
              exact hc.owed id
      · exact ⟨hc, hn⟩
  · next hev =>
      have hspec := akdTick_spec s.akd ¬s.soTXeEvent.length < cDepthAKdToTXeEvent
      have hpair := akdTick_paired s.akd ¬s.soTXeEvent.length < cDepthAKdToTXeEvent
      dsimp only
      generalize akdTick s.akd _ = r at hspec hpair ⊢
      obtain ⟨hrx, hnon, hdelay, hother⟩ := hspec
      split
      · next hfits =>
          obtain ⟨hforwarded, htxe, hrxSig, htxSig⟩ := @EveCounts.writes s hn r.1 r.2 hfits hpair
          refine ⟨⟨hc.txAppInterface, hc.rxEngine, hc.timers, hc.accepted, ?_, ?_, fun id => ?_⟩,
            ⟨hn.taken, ?_, hforwarded, hn.read, hn.soAKdEvent, htxe, hrxSig, htxSig,
              hn.txeRxEventSig⟩⟩
          · simp only [akdWrites, nonAck_append, hc.forwarded, hnon, List.append_nil]
          · simp only [akdWrites, ← List.append_assoc, hc.read]
          · by_cases hid : id = s.akd.akdPtr
            · subst hid
              simp only [akdWrites, hdelay]
              split
              · next hnil => simp [hnil, hc.owed]
              · next hsome => simp [hsome]
            · simp only [akdWrites, hother id hid]
              split
              · exact hc.owed id
              · rw [Function.update_of_ne hid]
                exact hc.owed id
          · simp only [akdWrites, hrx, if_true]
            exact hn.accepted
      · exact ⟨hc, hn⟩

/-- The Tx engine reads an event. -/
lemma EveInv.txEngine (h : EveInv s) : EveInv (txEngineRead s) := by
  obtain ⟨hc, hn⟩ := h
  rw [txEngineRead]
  split
  · next ev es hev =>
      split
      · next hroom =>
          have hlen := hn.soTXeEvent
          rw [hev, List.length_cons] at hlen
          have hle : es.length ≤ cDepthAKdToTXeEvent := by omega
          have hread : s.read ++ [ev] ++ es = s.forwarded := by
            rw [← hc.read, hev]
            simp
          refine ⟨⟨hc.txAppInterface, hc.rxEngine, hc.timers, hc.accepted, hc.forwarded, hread,
            hc.owed⟩, ⟨hn.taken, hn.accepted, hn.forwarded, ?_, hn.soAKdEvent, hle,
              hn.akdRxEventSig, hn.akdTxEventSig, ?_⟩⟩
          · rw [List.length_append]
            exact hn.read.write
          · simp only [SigFifo.total, SigFifo.write] at hroom ⊢
            omega
      · exact ⟨hc, hn⟩
  · exact ⟨hc, hn⟩

/-- **Every step** keeps the invariant. -/
theorem EveInv.next (h : EveInv s) (l : EveLabel) : EveInv (eveNext s l) := by
  obtain ⟨hc, hn⟩ := h
  cases l with
  | tai ev =>
      refine ⟨⟨?_, hc.rxEngine, hc.timers, hc.accepted, hc.forwarded, hc.read, hc.owed⟩,
        ⟨hn.1, hn.2, hn.3, hn.4, hn.5, hn.6, hn.7, hn.8, hn.9⟩⟩
      simp only [eveNext, ← hc.txAppInterface, ← List.append_assoc]
      rfl
  | rxe ev =>
      refine ⟨⟨hc.txAppInterface, ?_, hc.timers, hc.accepted, hc.forwarded, hc.read, hc.owed⟩,
        ⟨hn.1, hn.2, hn.3, hn.4, hn.5, hn.6, hn.7, hn.8, hn.9⟩⟩
      simp only [eveNext, ← hc.rxEngine, ← List.append_assoc]
      rfl
  | tim ev =>
      refine ⟨⟨hc.txAppInterface, hc.rxEngine, ?_, hc.accepted, hc.forwarded, hc.read, hc.owed⟩,
        ⟨hn.1, hn.2, hn.3, hn.4, hn.5, hn.6, hn.7, hn.8, hn.9⟩⟩
      simp only [eveNext, ← hc.timers, ← List.append_assoc]
      rfl
  | eventEngine unread => exact EveInv.eventEngine ⟨hc, hn⟩ unread
  | ackDelay => exact EveInv.ackDelay ⟨hc, hn⟩
  | txEngine => exact EveInv.txEngine ⟨hc, hn⟩
  | akdRxEventSig =>
      refine ⟨⟨hc.1, hc.2, hc.3, hc.4, hc.5, hc.6, hc.7⟩,
        ⟨hn.1, ?_, hn.3, hn.4, hn.5, hn.6, ?_, hn.8, hn.9⟩⟩
      · simp only [eveNext, SigFifo.total_arrive]
        exact hn.accepted
      · simp only [eveNext, SigFifo.total_arrive]
        exact hn.akdRxEventSig
  | akdTxEventSig =>
      refine ⟨⟨hc.1, hc.2, hc.3, hc.4, hc.5, hc.6, hc.7⟩,
        ⟨hn.1, hn.2, ?_, hn.4, hn.5, hn.6, hn.7, ?_, hn.9⟩⟩
      · simp only [eveNext, SigFifo.total_arrive]
        exact hn.forwarded
      · simp only [eveNext, SigFifo.total_arrive]
        exact hn.akdTxEventSig
  | txeRxEventSig =>
      refine ⟨⟨hc.1, hc.2, hc.3, hc.4, hc.5, hc.6, hc.7⟩,
        ⟨hn.1, hn.2, hn.3, ?_, hn.5, hn.6, hn.7, hn.8, ?_⟩⟩
      · simp only [eveNext, SigFifo.total_arrive]
        exact hn.read
      · simp only [eveNext, SigFifo.total_arrive]
        exact hn.txeRxEventSig

end Steps

lemma eveInv_reset : EveInv {} where
  conserved := ⟨rfl, rfl, rfl, rfl, rfl, rfl, fun id => by simp⟩
  counts := ⟨rfl, rfl, rfl, rfl, by simp, by simp, by simp [SigFifo.total],
    by simp [SigFifo.total], by simp [SigFifo.total]⟩

/-- **The event engine** keeps every event and the order of each source along every run from the
reset; and it takes events of the timers and of the application only when nothing is in flight if
and only if, whenever it takes one, the signals under way agree. -/
theorem eventEngine_conserves_iff (ls : List EveLabel) :
    Clocked.Along eveNext EveCorrect {} ls ↔ Clocked.Along eveNext SignalsAgree {} ls :=
  Clocked.along_iff
    (fun _ l h => ⟨fun hc => (h.takes_iff l).mp hc.2,
      fun hs => ⟨(h.next l).conserved, (h.takes_iff l).mpr hs⟩⟩)
    (fun _ l h _ => h.next l) eveInv_reset

/-! ### An event that is taken too early -/

/-- The delayer gets eight acknowledgments of session 0, so that the next call without an event
asks for one on its own initiative; and the event engine has counted them. -/
def eveDelayedAck : List EveLabel :=
  (List.replicate 8 [.rxe (ackTimeEvent 0), .eventEngine ⟨⟨0, 0⟩, ⟨0, 0⟩⟩, .ackDelay, .akdRxEventSig,
    .eventEngine ⟨⟨0, 0⟩, ⟨0, 0⟩⟩]).flatten

/-- The application raises an event right after the delayer has written the delayed acknowledgment:
the signal has not come yet, and the event is taken while the acknowledgment is in flight. -/
theorem eventEngine_takes_early :
    ¬Clocked.Along eveNext EveCorrect {}
      (eveDelayedAck ++ [.ackDelay, .tai { type := .tx, sessionID := 1 }] ++
        [.eventEngine ⟨⟨0, 0⟩, ⟨0, 0⟩⟩]) := by
  intro h
  have htakes := ((Clocked.along_append eveNext).mp h).2.1.2
  exact absurd (htakes (by decide +kernel)).2 (by decide +kernel)

end CloudFpga.Toe
