import Mathlib.Tactic

/-!
Machines with labelled steps, and the rules that carry a fact about one step to whole runs.

* `Machine`: in a state, a label is either disabled or leads to one next state; `run` takes a
  list of labels.
* `Holds Q`: every step of a run satisfies `Q` (a predicate of the state before, the label and
  the state after).
* `run_inv`, `run_inv_of_holds`: an invariant preserved by the steps (by the steps that satisfy
  a condition) holds at the end of the run.
* `holds_of_inv`, `holds_iff`: a condition on the steps that, under an invariant, implies (is
  equivalent to) a property of the steps, does so for whole runs.
-/

namespace Foundation

/-- A machine with labelled steps: in the state `s` the label `i` is disabled or leads to one
next state. -/
structure Machine (σ ι : Type*) where
  step : σ → ι → Option σ

namespace Machine

variable {σ ι : Type*} (M : Machine σ ι)

/-- The state after the labels, if each of them is enabled in turn. -/
def run : σ → List ι → Option σ
  | s, [] => some s
  | s, i :: is => (M.step s i).bind fun s' => run s' is

@[simp] lemma run_nil (s : σ) : M.run s [] = some s := rfl

lemma run_cons (s : σ) (i : ι) (is : List ι) :
    M.run s (i :: is) = (M.step s i).bind fun s' => M.run s' is := rfl

/-- A run that takes a label first takes an enabled step, then the rest. -/
lemma run_cons_eq_some {s s' : σ} {i : ι} {is : List ι} :
    M.run s (i :: is) = some s' ↔ ∃ t, M.step s i = some t ∧ M.run t is = some s' := by
  rw [run_cons, Option.bind_eq_some_iff]

lemma run_append (s : σ) (is js : List ι) :
    M.run s (is ++ js) = (M.run s is).bind fun s' => M.run s' js := by
  induction is generalizing s with
  | nil => rfl
  | cons i is ih =>
      rw [List.cons_append, run_cons, run_cons, Option.bind_assoc]
      exact congrArg _ (funext fun t => ih t)

/-- Every step of the run satisfies `Q`. -/
def Holds (Q : σ → ι → σ → Prop) : σ → List ι → Prop
  | _, [] => True
  | s, i :: is => ∀ s', M.step s i = some s' → Q s i s' ∧ Holds Q s' is

/-- A run has the property of the steps if both its parts have it. -/
lemma holds_append {Q : σ → ι → σ → Prop} {s : σ} {is js : List ι} :
    M.Holds Q s (is ++ js) ↔
      M.Holds Q s is ∧ ∀ t, M.run s is = some t → M.Holds Q t js := by
  induction is generalizing s with
  | nil => simp [Holds]
  | cons i is ih =>
      rw [List.cons_append, Holds, Holds]
      constructor
      · intro h
        refine ⟨fun t ht => ⟨(h t ht).1, (ih.mp (h t ht).2).1⟩, fun u hu => ?_⟩
        obtain ⟨t, ht, hrun⟩ := M.run_cons_eq_some.mp hu
        exact (ih.mp (h t ht).2).2 u hrun
      · intro h t ht
        exact ⟨(h.1 t ht).1, ih.mpr ⟨(h.1 t ht).2, fun u hu =>
          h.2 u (M.run_cons_eq_some.mpr ⟨t, ht, hu⟩)⟩⟩

/-- A property that the labels alone ensure. -/
lemma holds_of_forall {Q : σ → ι → σ → Prop} {s : σ} {is : List ι}
    (h : ∀ i ∈ is, ∀ s t, Q s i t) : M.Holds Q s is := by
  induction is generalizing s with
  | nil => trivial
  | cons i is ih =>
      exact fun t _ => ⟨h i List.mem_cons_self s t,
        ih fun j hj => h j (List.mem_cons_of_mem i hj)⟩

instance decidableHolds {Q : σ → ι → σ → Prop} [∀ s i t, Decidable (Q s i t)] :
    (s : σ) → (is : List ι) → Decidable (M.Holds Q s is)
  | _, [] => isTrue trivial
  | s, i :: is =>
      match h : M.step s i with
      | none => isTrue fun t ht => by
          rw [h] at ht
          cases ht
      | some t =>
          have := decidableHolds (Q := Q) t is
          decidable_of_iff (Q s i t ∧ M.Holds Q t is)
            ⟨fun hQ u hu => Option.some.inj (h.symm.trans hu) ▸ hQ, fun hQ => hQ t h⟩

variable {M} {Inv : σ → Prop} {C Q : σ → ι → σ → Prop}

/-- An invariant of the steps is an invariant of the runs. -/
theorem run_inv (hstep : ∀ s i s', Inv s → M.step s i = some s' → Inv s') {s s' : σ}
    {is : List ι} (hs : Inv s) (hrun : M.run s is = some s') : Inv s' := by
  induction is generalizing s with
  | nil =>
      rw [run_nil, Option.some.injEq] at hrun
      exact hrun ▸ hs
  | cons i is ih =>
      obtain ⟨t, ht, hrun'⟩ := M.run_cons_eq_some.mp hrun
      exact ih (hstep s i t hs ht) hrun'

/-- An invariant preserved by the steps that meet `C` holds after every run whose steps all
meet `C`. -/
theorem run_inv_of_holds (hstep : ∀ s i s', Inv s → C s i s' → M.step s i = some s' → Inv s')
    {s s' : σ} {is : List ι} (hs : Inv s) (hC : M.Holds C s is)
    (hrun : M.run s is = some s') : Inv s' := by
  induction is generalizing s with
  | nil =>
      rw [run_nil, Option.some.injEq] at hrun
      exact hrun ▸ hs
  | cons i is ih =>
      obtain ⟨t, ht, hrun'⟩ := M.run_cons_eq_some.mp hrun
      obtain ⟨hCt, hCs⟩ := hC t ht
      exact ih (hstep s i t hs hCt ht) hCs hrun'

/-- A property that, under the invariant, every step meeting `C` has, holds of every step of a
run whose steps all meet `C`. -/
theorem holds_of_inv
    (hstep : ∀ s i s', Inv s → C s i s' → M.step s i = some s' → Q s i s' ∧ Inv s')
    {s : σ} {is : List ι} (hs : Inv s) (hC : M.Holds C s is) : M.Holds Q s is := by
  induction is generalizing s with
  | nil => trivial
  | cons i is ih =>
      intro t ht
      obtain ⟨hCt, hCs⟩ := hC t ht
      obtain ⟨hQ, hInv⟩ := hstep s i t hs hCt ht
      exact ⟨hQ, ih hInv hCs⟩

/-- A step condition that is exact under an invariant, and sufficient to preserve it, is exact
for whole runs. -/
theorem holds_iff (hiff : ∀ s i s', Inv s → M.step s i = some s' → (Q s i s' ↔ C s i s'))
    (hinv : ∀ s i s', Inv s → C s i s' → M.step s i = some s' → Inv s')
    {s : σ} {is : List ι} (hs : Inv s) : M.Holds Q s is ↔ M.Holds C s is := by
  induction is generalizing s with
  | nil => exact Iff.rfl
  | cons i is ih =>
      refine ⟨fun h t ht => ?_, fun h t ht => ?_⟩
      · obtain ⟨hQ, hrest⟩ := h t ht
        have hCt := (hiff s i t hs ht).mp hQ
        exact ⟨hCt, (ih (hinv s i t hs hCt ht)).mp hrest⟩
      · obtain ⟨hCt, hrest⟩ := h t ht
        exact ⟨(hiff s i t hs ht).mpr hCt, (ih (hinv s i t hs hCt ht)).mpr hrest⟩

end Machine

end Foundation
