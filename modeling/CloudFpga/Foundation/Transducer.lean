import CloudFpga.Foundation.Clocked

/-!
Transducers: clocked processes that write an output at every step.

* `trace`: the outputs of a run with the states reached.
* `trace_map_iff`: a map of states and inputs that commutes with exactly the steps that meet a
  condition commutes with exactly the runs whose steps all meet it.
* `emits`: what a machine writes while it reads a list; `emits_items`: a list that is made of items
  gives a list that is made of their results; `emits_flatten`: the items are treated alone;
  `emits_balance`, `emits_conserve`: nothing that arrives is lost; `emits_part`: what a part of the
  machine writes.
-/

namespace Foundation

/-- A transducer reads an input, writes an output and moves to the next state. -/
structure Transducer (σ ι ω : Type*) where
  step : σ → ι → ω × σ

namespace Transducer

variable {σ ι ω : Type*} (T : Transducer σ ι ω)

/-- The next state. -/
def next (s : σ) (i : ι) : σ := (T.step s i).2

/-- The outputs of a run, each with the state after it. -/
def trace : σ → List ι → List (ω × σ)
  | _, [] => []
  | s, i :: is => T.step s i :: trace (T.next s i) is

variable {T} {f : σ → σ} {g : ι → ι} {C : σ → ι → Prop}

/-- The runs that a map of states and inputs commutes with are those whose steps it commutes
with. -/
theorem trace_map_iff
    (h : ∀ s i, T.step (f s) (g i) = Prod.map id f (T.step s i) ↔ C s i) (s : σ)
    (is : List ι) :
    T.trace (f s) (is.map g) = (T.trace s is).map (Prod.map id f) ↔
      Clocked.Along T.next C s is := by
  induction is generalizing s with
  | nil => exact iff_of_true rfl trivial
  | cons i is ih =>
      rw [List.map_cons, trace, trace, List.map_cons, List.cons.injEq, Clocked.Along, h]
      refine and_congr_right fun hC => ?_
      have hnext : T.next (f s) (g i) = f (T.next s i) := by
        rw [next, (h s i).mpr hC]
        rfl
      rw [hnext, ih]

end Transducer

section Emits

variable {σ ι β γ : Type*} (next : σ → ι → σ) (out : σ → ι → List β)

/-- What a machine writes while it reads a list. -/
def emits : σ → List ι → List β
  | _, [] => []
  | s, i :: is => out s i ++ emits (next s i) is

@[simp] lemma emits_nil (s : σ) : emits next out s [] = [] := rfl

@[simp] lemma emits_cons (s : σ) (i : ι) (is : List ι) :
    emits next out s (i :: is) = out s i ++ emits next out (next s i) is := rfl

lemma emits_append (s : σ) (is js : List ι) :
    emits next out s (is ++ js)
      = emits next out s is ++ emits next out (Clocked.run next s is) js := by
  induction is generalizing s with
  | nil => rfl
  | cons i is ih =>
      rw [List.cons_append, emits_cons, emits_cons, ih, List.append_assoc, Clocked.run_cons]

variable {next out}

/-- A machine that in each step writes what it has kept longest, and keeps behind it what is given
to it, has written or kept all that it was given. -/
theorem emits_balance {Inv : σ → Prop} {given : σ → ι → List β} {pending : σ → List β}
    (step : ∀ s i, Inv s →
      pending s ++ given s i = out s i ++ pending (next s i) ∧ Inv (next s i))
    {s : σ} (hs : Inv s) (is : List ι) :
    pending s ++ emits next given s is = emits next out s is ++ pending (Clocked.run next s is) := by
  induction is generalizing s with
  | nil => simp
  | cons i is ih =>
      obtain ⟨hstep, hinv⟩ := step s i hs
      rw [emits_cons, ← List.append_assoc, hstep, List.append_assoc, ih hinv, emits_cons,
        Clocked.run_cons, List.append_assoc]

lemma emits_flatMap (arrive : ι → List β) (s : σ) (is : List ι) :
    emits next (fun _ => arrive) s is = is.flatMap arrive := by
  induction is generalizing s with
  | nil => rfl
  | cons i is ih => rw [emits_cons, List.flatMap_cons, ih]

/-- The same where what arrives does not depend on the state. -/
theorem emits_conserve {arrive : ι → List β} {pending : σ → List β}
    (step : ∀ s i, pending s ++ arrive i = out s i ++ pending (next s i)) (s : σ) (is : List ι) :
    pending s ++ is.flatMap arrive = emits next out s is ++ pending (Clocked.run next s is) := by
  rw [← @emits_flatMap _ _ _ next arrive s]
  exact @emits_balance _ _ _ _ _ (fun _ => True) _ _ (fun s i _ => ⟨step s i, trivial⟩) _ trivial
    is

lemma emits_bind (f : β → List γ) (s : σ) (is : List ι) :
    emits next (fun s i => (out s i).flatMap f) s is = (emits next out s is).flatMap f := by
  induction is generalizing s with
  | nil => rfl
  | cons i is ih => rw [emits_cons, emits_cons, List.flatMap_append, ih]

/-- A machine that neither moves nor writes. -/
lemma emits_fixed {s : σ} {is : List ι} (h : ∀ i ∈ is, next s i = s ∧ out s i = []) :
    emits next out s is = [] := by
  induction is with
  | nil => rfl
  | cons i is ih =>
      obtain ⟨hnext, hout⟩ := h i List.mem_cons_self
      rw [emits_cons, hout, hnext, List.nil_append]
      exact ih fun j hj => h j (List.mem_cons_of_mem i hj)

/-- What a part of a machine writes, if it steps only when it reads. -/
theorem emits_part {τ κ : Type*} {nextPart : τ → κ → τ} {outPart : τ → κ → List β} {part : σ → τ}
    {read : σ → ι → List κ}
    (step : ∀ s i, Clocked.run nextPart (part s) (read s i) = part (next s i) ∧
      out s i = emits nextPart outPart (part s) (read s i)) (s : σ) (is : List ι) :
    Clocked.run nextPart (part s) (emits next read s is) = part (Clocked.run next s is) ∧
      emits next out s is = emits nextPart outPart (part s) (emits next read s is) := by
  induction is generalizing s with
  | nil => exact ⟨rfl, rfl⟩
  | cons i is ih =>
      obtain ⟨hrun, hout⟩ := step s i
      obtain ⟨hruns, houts⟩ := ih (next s i)
      rw [← hrun] at hruns houts
      refine ⟨?_, ?_⟩
      · rw [emits_cons, Clocked.run_append, hruns, Clocked.run_cons]
      · rw [emits_cons, emits_cons, emits_append, hout, houts]

variable {input : γ → List ι} {R : γ → List β → Prop} {Ready : List γ → σ → Prop}

/-- If a machine that is ready for a list of items writes a result of the first one while it reads
it, and is ready for the others then, it writes a result of each. -/
theorem emits_items
    (step : ∀ q qs s, Ready (q :: qs) s →
      R q (emits next out s (input q)) ∧ Ready qs (Clocked.run next s (input q)))
    (qs : List γ) (s : σ) (hs : Ready qs s) :
    ∃ ds, emits next out s (qs.flatMap input) = ds.flatten ∧ List.Forall₂ R qs ds := by
  induction qs generalizing s with
  | nil => exact ⟨[], rfl, .nil⟩
  | cons q qs ih =>
      obtain ⟨hq, hnext⟩ := step q qs s hs
      obtain ⟨ds, hds, hall⟩ := ih _ hnext
      refine ⟨emits next out s (input q) :: ds, ?_, .cons hq hall⟩
      rw [List.flatMap_cons, emits_append, hds, List.flatten_cons]

variable {Idle : σ → Prop} {Item : List ι → Prop} {result : List ι → List β}

/-- If an idle machine is idle again behind an item, and what it writes for it does not depend on
its state, then items that come one after the other are treated alone. -/
theorem emits_flatten
    (step : ∀ s is, Idle s → Item is →
      emits next out s is = result is ∧ Idle (Clocked.run next s is))
    (items : List (List ι)) (s : σ) (hs : Idle s) (hitems : ∀ is ∈ items, Item is) :
    emits next out s items.flatten = items.flatMap result ∧
      Idle (Clocked.run next s items.flatten) := by
  induction items generalizing s with
  | nil => exact ⟨rfl, hs⟩
  | cons is items ih =>
      obtain ⟨hout, hidle⟩ := step s is hs (hitems is List.mem_cons_self)
      obtain ⟨hrest, hidle'⟩ := ih _ hidle fun js hjs => hitems js (List.mem_cons_of_mem is hjs)
      rw [List.flatten_cons, emits_append, Clocked.run_append, hout, hrest]
      exact ⟨rfl, hidle'⟩

end Emits

end Foundation
