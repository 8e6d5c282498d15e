import CloudFpga.Foundation.Clocked
import CloudFpga.Foundation.Frame

/-!
Relays: processes that read frames from two streams, and send them on or drop them.

* `Relay`, `Lawful`: such a process, whose consumer may be off in a call, and what a call does.
* `next`: one step, with the frames that were read so far and whether the consumer was off when they
  began.
* `Whole`: what was sent are the frames whose consumer was on when they began, as far as they were
  read.
* `whole_of_steady`: this holds as long as the process does not change its mind within a frame.
* `drains_of_ok`: a chunk that is there is read while the consumer is off.
-/

namespace Foundation

/-- Two input streams, and two output streams. -/
structure Port (η α : Type*) where
  heads : List η
  items : List α
  outHeads : List η
  outItems : List α

/-- A process with the state `σ`, calls `κ` and arrivals `ι`. -/
structure Relay (σ ι κ η α : Type*) where
  put : σ → ι → σ
  call : σ → κ → σ
  port : σ → Port η α
  last : α → Bool
  /-- A frame has begun. -/
  inside : σ → Bool
  /-- There is something to read. -/
  ready : σ → κ → Bool
  /-- Something is read. -/
  takes : σ → κ → Bool
  /-- What is read is sent. -/
  sends : κ → Bool
  /-- The consumer is off. -/
  off : κ → Bool

namespace Relay

variable {σ ι κ η α : Type*} (r : Relay σ ι κ η α)

/-- What a process does that meets the invariant `Inv`. -/
structure Lawful (Inv : σ → Prop) : Prop where
  put_inv : ∀ {s} (i : ι), Inv s → Inv (r.put s i)
  put_inside : ∀ {s} (i : ι), Inv s → r.inside (r.put s i) = r.inside s
  put_port : ∀ {s} (i : ι), Inv s → ∃ hs xs, r.port (r.put s i) =
    { r.port s with heads := (r.port s).heads ++ hs, items := (r.port s).items ++ xs }
  call_inv : ∀ {s} (k : κ), Inv s → Inv (r.call s k)
  stay : ∀ {s k}, Inv s → r.takes s k = false →
    r.port (r.call s k) = r.port s ∧ r.inside (r.call s k) = r.inside s
  first : ∀ {s k}, Inv s → r.takes s k = true → r.inside s = false →
    ∃ m ms c cs, (r.port s).heads = m :: ms ∧ (r.port s).items = c :: cs ∧
      r.port (r.call s k) =
        { heads := ms
          items := cs
          outHeads := (r.port s).outHeads ++ if r.sends k then [m] else []
          outItems := (r.port s).outItems ++ if r.sends k then [c] else [] } ∧
      r.inside (r.call s k) = !r.last c
  more : ∀ {s k}, Inv s → r.takes s k = true → r.inside s = true →
    ∃ c cs, (r.port s).items = c :: cs ∧
      r.port (r.call s k) =
        { r.port s with
          items := cs
          outItems := (r.port s).outItems ++ if r.sends k then [c] else [] } ∧
      r.inside (r.call s k) = !r.last c

/-- The process, the frames that it has read, each with whether the consumer was off when it began,
and what has arrived. -/
structure Run (σ η α : Type*) where
  proc : σ
  log : List (Frame (η × Bool) α) := []
  inHeads : List η := []
  inItems : List α := []

inductive Step (ι κ : Type*) where
  | put (i : ι)
  | call (k : κ)
  deriving DecidableEq

/-- What was read between two states of the streams. -/
def observe (p p' : Port η α) (off : Bool) (log : List (Frame (η × Bool) α)) :
    List (Frame (η × Bool) α) :=
  let hs := p.heads.take (p.heads.length - p'.heads.length)
  let xs := p.items.take (p.items.length - p'.items.length)
  xs.foldl Frame.push (hs.foldl (fun fs h => Frame.start fs (h, off)) log)

def next (s : Run σ η α) : Step ι κ → Run σ η α
  | .put i =>
      let proc := r.put s.proc i
      { s with
        proc := proc
        inHeads := s.inHeads ++ (r.port proc).heads.drop (r.port s.proc).heads.length
        inItems := s.inItems ++ (r.port proc).items.drop (r.port s.proc).items.length }
  | .call k =>
      let proc := r.call s.proc k
      { s with
        proc := proc
        log := observe (r.port s.proc) (r.port proc) (r.off k) s.log }

/-- The consumer was on when the frame began. -/
def on (f : Frame (η × Bool) α) : Bool := !f.head.2

/-- What was sent are the frames whose consumer was on when they began. -/
structure Whole (s : Run σ η α) : Prop where
  /-- The frames that were read, and what is still to be read, are what arrived. -/
  inHeads : s.inHeads = (Frame.heads s.log).map Prod.fst ++ (r.port s.proc).heads
  inItems : s.inItems = Frame.items s.log ++ (r.port s.proc).items
  /-- A frame ends with its last item. -/
  ended : r.inside s.proc = false → Frame.Ended r.last s.log
  current : r.inside s.proc = true → ∃ t, Frame.Current r.last s.log t
  outHeads : (r.port s.proc).outHeads = (Frame.heads (s.log.filter on)).map Prod.fst
  outItems : (r.port s.proc).outItems = Frame.items (s.log.filter on)

/-- The consumer is off, or it was off when the present frame began. -/
def offNow (s : Run σ η α) (k : κ) : Bool :=
  if r.inside s.proc then (s.log.getLast?.map fun f => f.head.2).getD (r.off k) else r.off k

/-- What is read is sent if the consumer was on when the frame began. -/
def Steady (s : Run σ η α) : Step ι κ → Prop
  | .put _ => True
  | .call k => r.takes s.proc k = true → r.sends k = !r.offNow s k

/-- What is there is read while the consumer is off. -/
def DrainOk (s : Run σ η α) : Step ι κ → Prop
  | .put _ => True
  | .call k => r.off k = true → r.ready s.proc k = true → r.takes s.proc k = true

/-- While the consumer is off, the next item leaves the stream if there is one. -/
def Drains (s : Run σ η α) : Step ι κ → Prop
  | .put _ => True
  | .call k => r.off k = true → r.ready s.proc k = true →
      ∃ c, (r.port s.proc).items = c :: (r.port (r.call s.proc k)).items

instance (s : Run σ η α) : DecidablePred (r.Steady s)
  | .put _ => isTrue trivial
  | .call k => inferInstanceAs (Decidable (r.takes s.proc k = true → r.sends k = !r.offNow s k))

instance (s : Run σ η α) : DecidablePred (r.DrainOk s)
  | .put _ => isTrue trivial
  | .call k => inferInstanceAs
      (Decidable (r.off k = true → r.ready s.proc k = true → r.takes s.proc k = true))

section Laws

variable {r} {Inv : σ → Prop} {s : Run σ η α} {p p' : Port η α} {off : Bool}
  {log : List (Frame (η × Bool) α)}

lemma observe_stay : observe p p off log = log := by
  rw [observe, Nat.sub_self, Nat.sub_self, List.take_zero, List.take_zero]
  rfl

lemma observe_first {m : η} {ms : List η} {c : α} {cs : List α} (hheads : p.heads = m :: ms)
    (hitems : p.items = c :: cs) (hms : p'.heads = ms) (hcs : p'.items = cs) :
    observe p p' off log = Frame.push (Frame.start log (m, off)) c := by
  rw [observe, hheads, hitems, hms, hcs, List.length_cons, List.length_cons,
    Nat.add_sub_cancel_left, Nat.add_sub_cancel_left]
  rfl

lemma observe_more {c : α} {cs : List α} (hheads : p'.heads = p.heads)
    (hitems : p.items = c :: cs) (hcs : p'.items = cs) :
    observe p p' off log = Frame.push log c := by
  rw [observe, hheads, hitems, hcs, List.length_cons, Nat.sub_self, Nat.add_sub_cancel_left]
  rfl

lemma filter_on (f : Frame (η × Bool) α) : [f].filter on = if on f then [f] else [] := by
  rw [List.filter_cons, List.filter_nil]

lemma heads_filter_push (log : List (Frame (η × Bool) α)) (x : α) :
    Frame.heads ((Frame.push log x).filter on) = Frame.heads (log.filter on) := by
  cases log using List.reverseRecOn with
  | nil => rfl
  | append_singleton log f _ =>
      have hon : on { f with body := f.body ++ [x] } = on f := rfl
      rw [Frame.push_append, List.filter_append, List.filter_append, Frame.heads_append,
        Frame.heads_append, filter_on, filter_on, hon]
      cases on f with
      | true => rfl
      | false => rfl

/-- An item of a frame is sent with the frame. -/
lemma items_filter_push (log : List (Frame (η × Bool) α)) (f : Frame (η × Bool) α) (x : α) :
    Frame.items ((Frame.push (log ++ [f]) x).filter on) =
      Frame.items ((log ++ [f]).filter on) ++ if on f then [x] else [] := by
  have hon : on { f with body := f.body ++ [x] } = on f := rfl
  rw [Frame.push_append, List.filter_append, List.filter_append, Frame.items_append,
    Frame.items_append, List.append_assoc, filter_on, filter_on, hon]
  cases on f with
  | true => simp
  | false => rfl

lemma filter_start (log : List (Frame (η × Bool) α)) (m : η) (off : Bool) :
    (Frame.heads ((Frame.start log (m, off)).filter on)).map Prod.fst =
        (Frame.heads (log.filter on)).map Prod.fst ++ (if off then [] else [m]) ∧
      Frame.items ((Frame.start log (m, off)).filter on) = Frame.items (log.filter on) := by
  rw [Frame.start, List.filter_append, Frame.heads_append, Frame.items_append, List.map_append]
  cases off with
  | true => exact ⟨rfl, List.append_nil _⟩
  | false => exact ⟨rfl, List.append_nil _⟩

/-- Nothing has arrived. -/
lemma whole_init {proc : σ} (hport : r.port proc = ⟨[], [], [], []⟩)
    (hinside : r.inside proc = false) : r.Whole ({ proc := proc } : Run σ η α) := by
  refine ⟨?_, ?_, ?_, ?_, ?_, ?_⟩
  · rw [hport]
    rfl
  · rw [hport]
    rfl
  · intro _ f hf
    cases hf
  · intro hin
    rw [hinside] at hin
    cases hin
  · rw [hport]
    rfl
  · rw [hport]
    rfl

/-- Something arrives. -/
lemma Whole.put (hl : r.Lawful Inv) (hinv : Inv s.proc) (h : r.Whole s) (i : ι) :
    r.Whole (r.next s (.put i) : Run σ η α) := by
  obtain ⟨hs, xs, hport⟩ := hl.put_port i hinv
  refine ⟨?_, ?_, ?_, ?_, ?_, ?_⟩ <;> dsimp only [next]
  · rw [h.inHeads, hport, List.drop_left, List.append_assoc]
  · rw [h.inItems, hport, List.drop_left, List.append_assoc]
  · rw [hl.put_inside i hinv]
    exact h.ended
  · rw [hl.put_inside i hinv]
    exact h.current
  · rw [hport]
    exact h.outHeads
  · rw [hport]
    exact h.outItems

/-- The first item of a frame is read. -/
lemma Whole.first (hl : r.Lawful Inv) (hinv : Inv s.proc) (h : r.Whole s) {k : κ}
    (htakes : r.takes s.proc k = true) (hinside : r.inside s.proc = false)
    (hsends : r.sends k = !r.off k) : r.Whole (r.next s (.call k) : Run σ η α) := by
  obtain ⟨m, ms, c, cs, hheads, hitems, hport, hin⟩ := hl.first hinv htakes hinside
  have hlog : observe (r.port s.proc) (r.port (r.call s.proc k)) (r.off k) s.log =
      Frame.push (Frame.start s.log (m, r.off k)) c :=
    observe_first hheads hitems (by rw [hport]) (by rw [hport])
  have hcur : Frame.Current r.last (Frame.start s.log (m, r.off k)) ⟨(m, r.off k), []⟩ :=
    (h.ended hinside).start
  refine ⟨?_, ?_, ?_, ?_, ?_, ?_⟩ <;> dsimp only [next]
  · rw [hlog, h.inHeads, hport, hheads, Frame.heads_push, Frame.heads_start, List.map_append,
      List.append_assoc]
    rfl
  · rw [hlog, h.inItems, hport, hitems, Frame.items_push hcur.ne_nil, Frame.items_start,
      List.append_assoc]
    rfl
  · rw [hlog, hin, Bool.not_eq_false']
    exact hcur.push_last
  · rw [hlog, hin, Bool.not_eq_true']
    exact fun hlast => ⟨_, hcur.push hlast⟩
  · rw [hlog, hport, h.outHeads, heads_filter_push, (filter_start s.log m (r.off k)).1, hsends]
    cases r.off k with
    | true => rfl
    | false => rfl
  · rw [hlog, hport, h.outItems, Frame.start, items_filter_push, ← Frame.start,
      (filter_start s.log m (r.off k)).2, hsends]
    rfl

/-- Another item of a frame is read. -/
lemma Whole.more (hl : r.Lawful Inv) (hinv : Inv s.proc) (h : r.Whole s) {k : κ}
    (htakes : r.takes s.proc k = true) (hinside : r.inside s.proc = true)
    (hsends : r.sends k = !r.offNow s k) : r.Whole (r.next s (.call k) : Run σ η α) := by
  obtain ⟨c, cs, hitems, hport, hin⟩ := hl.more hinv htakes hinside
  obtain ⟨t, hcur⟩ := h.current hinside
  have hlog : observe (r.port s.proc) (r.port (r.call s.proc k)) (r.off k) s.log =
      Frame.push s.log c :=
    observe_more (by rw [hport]) hitems (by rw [hport])
  obtain ⟨pre, hpre, -, -⟩ := id hcur
  have hon : r.sends k = on t := by
    rw [hsends, offNow, if_pos hinside, hpre, List.getLast?_append]
    rfl
  refine ⟨?_, ?_, ?_, ?_, ?_, ?_⟩ <;> dsimp only [next]
  · rw [hlog, h.inHeads, hport, Frame.heads_push]
  · rw [hlog, h.inItems, hport, hitems, Frame.items_push hcur.ne_nil, List.append_assoc]
    rfl
  · rw [hlog, hin, Bool.not_eq_false']
    exact hcur.push_last
  · rw [hlog, hin, Bool.not_eq_true']
    exact fun hlast => ⟨_, hcur.push hlast⟩
  · rw [hlog, hport, h.outHeads, heads_filter_push]
  · rw [hlog, hport, h.outItems, hpre, items_filter_push, hon]

lemma Whole.call (hl : r.Lawful Inv) (hinv : Inv s.proc) (h : r.Whole s) {k : κ}
    (hok : r.Steady s (.call k : Step ι κ)) : r.Whole (r.next s (.call k) : Run σ η α) := by
  cases htakes : r.takes s.proc k with
  | false =>
      obtain ⟨hport, hin⟩ := hl.stay hinv htakes
      refine ⟨?_, ?_, ?_, ?_, ?_, ?_⟩ <;> dsimp only [next]
      · rw [hport, observe_stay]
        exact h.inHeads
      · rw [hport, observe_stay]
        exact h.inItems
      · rw [hport, observe_stay, hin]
        exact h.ended
      · rw [hport, observe_stay, hin]
        exact h.current
      · rw [hport, observe_stay]
        exact h.outHeads
      · rw [hport, observe_stay]
        exact h.outItems
  | true =>
      have hsends := hok htakes
      cases hinside : r.inside s.proc with
      | false =>
          rw [offNow, if_neg (by rw [hinside]; exact Bool.false_ne_true)] at hsends
          exact h.first hl hinv htakes hinside hsends
      | true => exact h.more hl hinv htakes hinside hsends

/-- A process that does not change its mind within a frame sends whole frames. -/
theorem whole_of_steady (hl : r.Lawful Inv) (hinv : Inv s.proc) (h : r.Whole s)
    {xs : List (Step ι κ)} (hok : Clocked.Along r.next r.Steady s xs) :
    r.Whole (Clocked.run r.next s xs) := by
  have hstep (s : Run σ η α) (x : Step ι κ) (hs : Inv s.proc ∧ r.Whole s) (hx : r.Steady s x) :
      Inv (r.next s x).proc ∧ r.Whole (r.next s x) := by
    obtain ⟨hinv, hs⟩ := hs
    cases x with
    | put i => exact ⟨hl.put_inv i hinv, hs.put hl hinv i⟩
    | call k => exact ⟨hl.call_inv k hinv, hs.call hl hinv hx⟩
  exact (Clocked.run_inv hstep ⟨hinv, h⟩ hok).2

/-- What is read leaves the stream. -/
lemma drains_of_drainOk (hl : r.Lawful Inv) (hinv : Inv s.proc) {x : Step ι κ}
    (hok : r.DrainOk s x) : r.Drains s x := by
  cases x with
  | put i => trivial
  | call k =>
      intro hoff hready
      have htakes := hok hoff hready
      cases hinside : r.inside s.proc with
      | false =>
          obtain ⟨m, ms, c, cs, -, hitems, hport, -⟩ := hl.first hinv htakes hinside
          exact ⟨c, by rw [hport]; exact hitems⟩
      | true =>
          obtain ⟨c, cs, hitems, hport, -⟩ := hl.more hinv htakes hinside
          exact ⟨c, by rw [hport]; exact hitems⟩

theorem drains_of_ok (hl : r.Lawful Inv) (hinv : Inv s.proc) {xs : List (Step ι κ)}
    (hok : Clocked.Along r.next r.DrainOk s xs) : Clocked.Along r.next r.Drains s xs := by
  have hstep (s : Run σ η α) (x : Step ι κ) (hs : Inv s.proc) (hx : r.DrainOk s x) :
      r.Drains s x ∧ Inv (r.next s x).proc := by
    refine ⟨drains_of_drainOk hl hs hx, ?_⟩
    cases x with
    | put i => exact hl.put_inv i hs
    | call k => exact hl.call_inv k hs
  exact Clocked.along_of_inv hstep hinv hok

end Laws

end Relay

end Foundation
