import CloudFpga.Foundation.Clocked

/-!
Pools of resources that are handed out and released one at a time.

* `PoolEvent`, `PoolLog`: what happens to the resources, in order.
* `Held`: a resource is handed out by a log and not released since.
* `Exclusive`: no resource is handed out twice without a release in between.
* `Tracks`: a step moves the table of the resources in use along with its event.
* `exclusive_log`: the log of a process whose steps all track their events is exclusive.
-/

namespace Foundation

/-- A resource is handed out, or released. -/
inductive PoolEvent (α : Type*) where
  | take (a : α)
  | give (a : α)
  deriving DecidableEq, Repr

abbrev PoolLog (α : Type*) := List (PoolEvent α)

variable {α : Type*}

/-- The log hands out the resource, and does not release it afterwards. -/
def Held (a : α) (log : PoolLog α) : Prop :=
  ∃ xs ys, log = xs ++ .take a :: ys ∧ .give a ∉ ys

/-- Between two events that hand out the same resource, one releases it. -/
def Exclusive (log : PoolLog α) : Prop :=
  ∀ a xs ys zs, log = xs ++ .take a :: (ys ++ .take a :: zs) → .give a ∈ ys

lemma Exclusive.nil : Exclusive ([] : PoolLog α) := by
  intro a xs ys zs h
  simp at h

lemma not_held_nil (a : α) : ¬Held a ([] : PoolLog α) := by
  rintro ⟨xs, ys, h, -⟩
  simp at h

/-- What a log holds after one more event. -/
lemma held_snoc {a : α} {log : PoolLog α} {e : PoolEvent α} :
    Held a (log ++ [e]) ↔ e = .take a ∨ (e ≠ .give a ∧ Held a log) := by
  constructor
  · rintro ⟨xs, ys, h, hys⟩
    rcases List.eq_nil_or_concat ys with rfl | ⟨ys, y, rfl⟩
    · obtain ⟨-, he⟩ := List.append_inj' h rfl
      exact .inl (List.singleton_inj.mp he)
    · rw [List.concat_eq_append, ← List.cons_append, ← List.append_assoc] at h
      obtain ⟨rfl, he⟩ := List.append_inj' h rfl
      obtain rfl := List.singleton_inj.mp he
      rw [List.concat_eq_append, List.mem_append, not_or, List.mem_singleton] at hys
      exact .inr ⟨fun hg => hys.2 hg.symm, xs, ys, rfl, hys.1⟩
  · rintro (rfl | ⟨hne, xs, ys, rfl, hys⟩)
    · exact ⟨log, [], rfl, List.not_mem_nil⟩
    · refine ⟨xs, ys ++ [e], by simp, ?_⟩
      rw [List.mem_append, List.mem_singleton, not_or]
      exact ⟨hys, fun hg => hne hg.symm⟩

/-- An exclusive log stays so with a release, and with a resource that it does not hold. -/
lemma Exclusive.snoc {log : PoolLog α} {e : PoolEvent α} (h : Exclusive log)
    (he : ∀ a, e = .take a → ¬Held a log) : Exclusive (log ++ [e]) := by
  intro a xs ys zs heq
  rcases List.eq_nil_or_concat zs with rfl | ⟨zs, z, rfl⟩
  · rw [← List.cons_append, ← List.append_assoc] at heq
    obtain ⟨rfl, hlast⟩ := List.append_inj' heq rfl
    by_contra hys
    exact he a (List.singleton_inj.mp hlast) ⟨xs, ys, rfl, hys⟩
  · rw [List.concat_eq_append, ← List.cons_append, ← List.append_assoc, ← List.cons_append,
      ← List.append_assoc] at heq
    have hlog := (List.append_inj' heq rfl).1
    exact h a xs ys zs (by rw [hlog, List.append_assoc, List.cons_append])

/-! ### Processes that manage a pool -/

/-- What the table of the resources in use has to do when an event happens: a resource that is
handed out was not in use and is from then on, and no resource that is not released falls out of
use. -/
structure Tracks (used used' : α → Prop) (e : Option (PoolEvent α)) : Prop where
  fresh : ∀ a, e = some (.take a) → ¬used a ∧ used' a
  keep : ∀ a, used a → e ≠ some (.give a) → used' a

/-- A step without an event. -/
lemma Tracks.of_none {used used' : α → Prop} (h : ∀ a, used a → used' a) :
    Tracks used used' none :=
  ⟨fun _ ha => (Option.some_ne_none _ ha.symm).elim, fun a ha _ => h a ha⟩

/-- A step that hands out a resource which was not in use. -/
lemma Tracks.of_take {used used' : α → Prop} {a : α} (ha : ¬used a) (ha' : used' a)
    (h : ∀ b, used b → used' b) : Tracks used used' (some (.take a)) := by
  refine ⟨fun b hb => ?_, fun b hb _ => h b hb⟩
  obtain rfl := PoolEvent.take.inj (Option.some.inj hb)
  exact ⟨ha, ha'⟩

/-- A step that releases a resource. -/
lemma Tracks.of_give {used used' : α → Prop} {a : α} (h : ∀ b, used b → b ≠ a → used' b) :
    Tracks used used' (some (.give a)) := by
  refine ⟨fun b hb => ?_, fun b hb hne => h b hb fun heq => hne (by rw [heq])⟩
  cases hb

/-- Every resource that is still held is in use, and the log is exclusive: both pass over a step
that tracks its event. -/
lemma Tracks.append {hist : PoolLog α} {u u' : α → Prop} {e : Option (PoolEvent α)}
    (h : Tracks u u' e) (hexcl : Exclusive hist) (hheld : ∀ a, Held a hist → u a) :
    Exclusive (hist ++ e.toList) ∧ ∀ a, Held a (hist ++ e.toList) → u' a := by
  cases e with
  | none =>
      rw [Option.toList_none, List.append_nil]
      exact ⟨hexcl, fun a ha => h.keep a (hheld a ha) (by simp)⟩
  | some e =>
      rw [Option.toList_some]
      refine ⟨hexcl.snoc fun a ha hh => (h.fresh a (by rw [ha])).1 (hheld a hh), ?_⟩
      intro a ha
      obtain rfl | ⟨hne, ha⟩ := held_snoc.mp ha
      · exact (h.fresh a rfl).2
      · exact h.keep a (hheld a ha) fun hg => hne (Option.some.inj hg)

namespace Clocked

variable {σ κ : Type*} (next : σ → κ → σ)

/-- The events of a schedule. -/
def log (event : σ → κ → Option (PoolEvent α)) : σ → List κ → PoolLog α
  | _, [] => []
  | s, k :: ks => (event s k).toList ++ log event (next s k) ks

lemma log_append (event : σ → κ → Option (PoolEvent α)) (s : σ) (ks ls : List κ) :
    log next event s (ks ++ ls) = log next event s ks ++ log next event (run next s ks) ls := by
  induction ks generalizing s with
  | nil => rfl
  | cons k ks ih => rw [List.cons_append, log, ih, log, run_cons, List.append_assoc]

variable {next} {event : σ → κ → Option (PoolEvent α)} {used : σ → α → Prop} {Inv : σ → Prop}
  {C : σ → κ → Prop}

/-- **The log of a pool**: if every step under the condition tracks its event, no resource is
handed out twice without a release in between. -/
theorem exclusive_log
    (hstep : ∀ s k, Inv s → C s k →
      Inv (next s k) ∧ Tracks (used s) (used (next s k)) (event s k))
    {s : σ} {ks : List κ} (hs : Inv s) (hC : Along next C s ks) :
    Exclusive (log next event s ks) := by
  suffices h : ∀ hist : PoolLog α, Exclusive hist → (∀ a, Held a hist → used s a) →
      Exclusive (hist ++ log next event s ks) by
    simpa using h [] Exclusive.nil fun a ha => absurd ha (not_held_nil a)
  induction ks generalizing s with
  | nil =>
      intro hist hexcl _
      rw [log, List.append_nil]
      exact hexcl
  | cons k ks ih =>
      intro hist hexcl hheld
      obtain ⟨hinv, htr⟩ := hstep s k hs hC.1
      obtain ⟨hexcl', hheld'⟩ := htr.append hexcl hheld
      rw [log, ← List.append_assoc]
      exact ih hinv hC.2 _ hexcl' hheld'

end Clocked

end Foundation
