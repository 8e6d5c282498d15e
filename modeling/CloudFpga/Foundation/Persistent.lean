import CloudFpga.Foundation.Clocked
import CloudFpga.Foundation.Machine

/-!
Persistent machines: a label that is enabled stays enabled until it is taken, and the order of two
enabled labels does not matter.

* `Machine.call`: a label that is called and not enabled changes nothing.
* `Machine.Persistent`: the diamond property.
* `Persistent.residual`: a run to a halted state can start with any enabled label, and gets no
  longer.
* `Persistent.reaches_calls`, `Persistent.rounds_eq`: if one run comes to a halted state, every
  sequence of calls leads towards it, and rounds of calls lead to it.
* `Persistent.determined`: what an observer of the calls sees.
-/

namespace Foundation.Machine

variable {σ κ : Type*} (M : Machine σ κ)

/-- A label is called. It is taken if it is enabled. -/
def call (s : σ) (k : κ) : σ := (M.step s k).getD s

/-- No label is enabled. -/
def Halted (s : σ) : Prop := ∀ k, M.step s k = none

/-- There is a run from `s` to `t`. -/
def Reaches (s t : σ) : Prop := ∃ ks, M.run s ks = some t

/-- Two labels that are both enabled can be taken in any order, with the same effect. -/
structure Persistent : Prop where
  diamond : ∀ {s a b k l}, k ≠ l → M.step s k = some a → M.step s l = some b →
    ∃ c, M.step a l = some c ∧ M.step b k = some c

variable {M} {s t u a : σ} {k : κ} {ks ls : List κ}

lemma call_of_step (h : M.step s k = some a) : M.call s k = a := by
  rw [call, h, Option.getD_some]

lemma call_of_none (h : M.step s k = none) : M.call s k = s := by
  rw [call, h, Option.getD_none]

namespace Reaches

lemma refl (s : σ) : M.Reaches s s := ⟨[], rfl⟩

lemma trans (h : M.Reaches s t) (h' : M.Reaches t u) : M.Reaches s u := by
  obtain ⟨ks, hks⟩ := h
  obtain ⟨ls, hls⟩ := h'
  refine ⟨ks ++ ls, ?_⟩
  rw [run_append, hks, Option.bind_some, hls]

lemma single (h : M.step s k = some t) : M.Reaches s t := ⟨[k], by rw [run_cons, h]; rfl⟩

lemma head (h : M.step s k = some t) (h' : M.Reaches t u) : M.Reaches s u := (single h).trans h'

/-- What grows with every step has grown at the end of a run. -/
theorem mono {α : Type*} {r : α → α → Prop} [IsPreorder α r] {f : σ → α}
    (hf : ∀ {s k t}, M.step s k = some t → r (f s) (f t)) (h : M.Reaches s t) : r (f s) (f t) := by
  obtain ⟨ks, hks⟩ := h
  induction ks generalizing s with
  | nil =>
      rw [run_nil, Option.some.injEq] at hks
      exact hks ▸ refl_of r _
  | cons k ks ih =>
      obtain ⟨a, ha, hrun⟩ := M.run_cons_eq_some.mp hks
      exact trans_of r (hf ha) (ih hrun)

end Reaches

namespace Persistent

variable (hM : M.Persistent)
include hM

/-- A run to a halted state can start with any label that is enabled. -/
theorem residual (ht : M.Halted t) (hrun : M.run s ks = some t) (hk : M.step s k = some a) :
    ∃ ls, M.run a ls = some t ∧ ls.length + 1 = ks.length := by
  induction ks generalizing s a with
  | nil =>
      rw [run_nil, Option.some.injEq] at hrun
      rw [hrun, ht k] at hk
      cases hk
  | cons l ks ih =>
      obtain ⟨b, hb, hrest⟩ := M.run_cons_eq_some.mp hrun
      by_cases heq : k = l
      · subst heq
        rw [hk, Option.some.injEq] at hb
        exact ⟨ks, hb ▸ hrest, rfl⟩
      · obtain ⟨c, hc, hc'⟩ := hM.diamond heq hk hb
        obtain ⟨ls, hls, hlen⟩ := ih hrest hc'
        refine ⟨l :: ls, M.run_cons_eq_some.mpr ⟨c, hc, hls⟩, ?_⟩
        rw [List.length_cons, List.length_cons, hlen]

/-- A call leaves the halted state within reach, and brings it no further away. If the label is
enabled the state is closer. -/
lemma call_closer (ht : M.Halted t) (hrun : M.run s ks = some t) (k : κ) :
    ∃ ls, M.run (M.call s k) ls = some t ∧ ls.length ≤ ks.length ∧
      ((M.step s k).isSome → ls.length < ks.length) := by
  cases hk : M.step s k with
  | none =>
      rw [call_of_none hk]
      exact ⟨ks, hrun, le_refl _, fun h => absurd h Bool.false_ne_true⟩
  | some a =>
      obtain ⟨ls, hls, hlen⟩ := hM.residual ht hrun hk
      rw [call_of_step hk]
      exact ⟨ls, hls, by omega, fun _ => by omega⟩

lemma calls_closer (ht : M.Halted t) (hrun : M.run s ks = some t) (cs : List κ) :
    ∃ ls, M.run (Clocked.run M.call s cs) ls = some t ∧ ls.length ≤ ks.length := by
  induction cs generalizing s ks with
  | nil => exact ⟨ks, hrun, le_refl _⟩
  | cons c cs ih =>
      obtain ⟨ls, hls, hle, -⟩ := hM.call_closer ht hrun c
      obtain ⟨ms, hms, hle'⟩ := ih hls
      exact ⟨ms, hms, hle'.trans hle⟩

/-- Every sequence of calls leads towards the halted state. -/
theorem reaches_calls (ht : M.Halted t) (h : M.Reaches s t) (cs : List κ) :
    M.Reaches (Clocked.run M.call s cs) t := by
  obtain ⟨ks, hks⟩ := h
  obtain ⟨ls, hls, -⟩ := hM.calls_closer ht hks cs
  exact ⟨ls, hls⟩

/-- Calls among which there is one of an enabled label bring the halted state closer. -/
lemma calls_closer_of_mem (ht : M.Halted t) (hrun : M.run s ks = some t) {cs : List κ}
    (hk : (M.step s k).isSome) (hmem : k ∈ cs) :
    ∃ ls, M.run (Clocked.run M.call s cs) ls = some t ∧ ls.length < ks.length := by
  induction cs with
  | nil => cases hmem
  | cons c cs ih =>
      cases hc : M.step s c with
      | none =>
          have hne : k ≠ c := by
            rintro rfl
            rw [hc] at hk
            cases hk
          rw [Clocked.run_cons, call_of_none hc]
          exact ih ((List.mem_cons.mp hmem).resolve_left hne)
      | some a =>
          obtain ⟨ls, hls, -, hlt⟩ := hM.call_closer ht hrun c
          obtain ⟨ms, hms, hle⟩ := hM.calls_closer ht hls cs
          rw [hc] at hlt
          exact ⟨ms, hms, hle.trans_lt (hlt rfl)⟩

/-- As many rounds, in each of which every label is called, as some run is long lead to the halted
state at its end. -/
theorem rounds_eq (ht : M.Halted t) (hrun : M.run s ks = some t) {rounds : List (List κ)}
    (hlen : ks.length ≤ rounds.length) (hall : ∀ cs ∈ rounds, ∀ k, k ∈ cs) :
    Clocked.run M.call s rounds.flatten = t := by
  induction rounds generalizing s ks with
  | nil =>
      obtain rfl := List.eq_nil_of_length_eq_zero (Nat.le_zero.mp hlen)
      exact Option.some.inj hrun
  | cons cs rounds ih =>
      have hrest : ∀ ds ∈ rounds, ∀ k, k ∈ ds := fun ds hds => hall ds (List.mem_cons_of_mem cs hds)
      rw [List.flatten_cons, Clocked.run_append]
      rw [List.length_cons] at hlen
      cases ks with
      | nil =>
          obtain ⟨ls, hls, hle⟩ := hM.calls_closer ht hrun cs
          rw [List.length_nil] at hle
          exact ih hls (by omega) hrest
      | cons k ks =>
          obtain ⟨a, ha, -⟩ := M.run_cons_eq_some.mp hrun
          have hk : (M.step s k).isSome := by
            rw [ha]
            rfl
          obtain ⟨ls, hls, hlt⟩ :=
            hM.calls_closer_of_mem ht hrun hk (hall cs List.mem_cons_self k)
          rw [List.length_cons] at hlt hlen
          exact ih hls (by omega) hrest

/-- **One run determines all of them.** What an observer sees to grow is never more than it is in the
halted state, and rounds of calls lead to that state. -/
theorem determined {α : Type*} {r : α → α → Prop} [IsPreorder α r] {f : σ → α}
    (hf : ∀ {s k t}, M.step s k = some t → r (f s) (f t)) (ht : M.Halted t) (h : M.Reaches s t) :
    (∀ cs, r (f (Clocked.run M.call s cs)) (f t)) ∧
      ∃ n, ∀ rounds : List (List κ), n ≤ rounds.length → (∀ cs ∈ rounds, ∀ k, k ∈ cs) →
        Clocked.run M.call s rounds.flatten = t := by
  refine ⟨fun cs => (hM.reaches_calls ht h cs).mono hf, ?_⟩
  obtain ⟨ks, hks⟩ := h
  exact ⟨ks.length, fun _ hlen hall => hM.rounds_eq ht hks hlen hall⟩

end Persistent

end Foundation.Machine
