import Mathlib.Tactic

/-!
Clocked processes: a process takes one step in every cycle, whatever the cycle offers it.

* `run`: the state after a schedule of cycles; `Along C`: every step of it meets `C`.
* `run_inv`: an invariant of the steps that meet `C`.
* `Progress`: a step loses work in a ready cycle and never gains any; `run_work`: a process whose
  steps make progress has done the work after as many ready cycles.
* `Moves`: what one of several processes that share a state does towards that.
* `rounds_settle`: rounds of calls that do some of the work or change nothing come to a round that
  changes nothing.
-/

namespace Foundation.Clocked

variable {σ κ : Type*} (next : σ → κ → σ)

/-- The state after a schedule. -/
def run (s : σ) (ks : List κ) : σ := ks.foldl next s

/-- Every step of the schedule is taken under the condition `C`. -/
def Along (C : σ → κ → Prop) : σ → List κ → Prop
  | _, [] => True
  | s, k :: ks => C s k ∧ Along C (next s k) ks

instance decidableAlong {C : σ → κ → Prop} [∀ s k, Decidable (C s k)] :
    (s : σ) → (ks : List κ) → Decidable (Along next C s ks)
  | _, [] => isTrue trivial
  | s, k :: ks =>
      have := decidableAlong (C := C) (next s k) ks
      inferInstanceAs (Decidable (C s k ∧ Along next C (next s k) ks))

@[simp] lemma run_nil (s : σ) : run next s [] = s := rfl

@[simp] lemma run_cons (s : σ) (k : κ) (ks : List κ) :
    run next s (k :: ks) = run next (next s k) ks := rfl

lemma run_append (s : σ) (ks ls : List κ) :
    run next s (ks ++ ls) = run next (run next s ks) ls :=
  List.foldl_append

lemma along_append {C : σ → κ → Prop} {s : σ} {ks ls : List κ} :
    Along next C s (ks ++ ls) ↔ Along next C s ks ∧ Along next C (run next s ks) ls := by
  induction ks generalizing s with
  | nil => simp [Along]
  | cons k ks ih => simp only [List.cons_append, Along, ih, run_cons, and_assoc]

lemma along_trivial (s : σ) (ks : List κ) : Along next (fun _ _ => True) s ks := by
  induction ks generalizing s with
  | nil => trivial
  | cons k ks ih => exact ⟨trivial, ih (next s k)⟩

/-- A condition that the inputs alone ensure. -/
lemma along_of_forall {C : σ → κ → Prop} {s : σ} {ks : List κ} (h : ∀ k ∈ ks, ∀ s, C s k) :
    Along next C s ks := by
  induction ks generalizing s with
  | nil => trivial
  | cons k ks ih =>
      exact ⟨h k List.mem_cons_self s, ih fun l hl => h l (List.mem_cons_of_mem k hl)⟩

variable {next} {C : σ → κ → Prop} {Inv : σ → Prop}

/-- An invariant of the steps that meet `C` is an invariant of the schedules. -/
theorem run_inv (hinv : ∀ s k, Inv s → C s k → Inv (next s k)) {s : σ} {ks : List κ}
    (hs : Inv s) (hC : Along next C s ks) : Inv (run next s ks) := by
  induction ks generalizing s with
  | nil => exact hs
  | cons k ks ih => exact ih (hinv s k hs hC.1) hC.2

/-- A property that, under an invariant, every step meeting `C` has, holds along every schedule
whose steps all meet `C`. -/
theorem along_of_inv {Q : σ → κ → Prop}
    (hstep : ∀ s k, Inv s → C s k → Q s k ∧ Inv (next s k)) {s : σ} {ks : List κ} (hs : Inv s)
    (hC : Along next C s ks) : Along next Q s ks := by
  induction ks generalizing s with
  | nil => trivial
  | cons k ks ih =>
      obtain ⟨hQ, hInv⟩ := hstep s k hs hC.1
      exact ⟨hQ, ih hInv hC.2⟩

/-- Two properties of the steps that agree under an invariant, which the steps with both of them
keep, agree along every schedule. -/
theorem along_iff {Q : σ → κ → Prop} (hiff : ∀ s k, Inv s → (Q s k ↔ C s k))
    (hinv : ∀ s k, Inv s → C s k → Inv (next s k)) {s : σ} {ks : List κ} (hs : Inv s) :
    Along next Q s ks ↔ Along next C s ks := by
  induction ks generalizing s with
  | nil => exact Iff.rfl
  | cons k ks ih =>
      rw [Along, Along, hiff s k hs]
      exact and_congr_right fun hC => ih (hinv s k hs hC)

/-- Where a condition is broken, there is a first step that breaks it. -/
theorem exists_first_break {s : σ} {ks : List κ} (h : ¬Along next C s ks) :
    ∃ ls k ms, ks = ls ++ k :: ms ∧ Along next C s ls ∧ ¬C (run next s ls) k := by
  induction ks generalizing s with
  | nil => exact absurd trivial h
  | cons k ks ih =>
      by_cases hk : C s k
      · obtain ⟨ls, k', ms, rfl, hls, hbreak⟩ := ih (fun hks => h ⟨hk, hks⟩)
        exact ⟨k :: ls, k', ms, rfl, ⟨hk, hls⟩, hbreak⟩
      · exact ⟨[], k, ks, rfl, trivial, hk⟩

/-- What a step from `s` to `s'` has to do: keep the invariant, gain no work, and lose some when
the cycle is ready. -/
structure Progress (Inv : σ → Prop) (work : σ → ℕ) (ready : κ → Bool) (s : σ) (k : κ) (s' : σ) :
    Prop where
  inv : Inv s'
  le : work s' ≤ work s
  lt : ready k → work s' ≤ work s - 1

section Progress

variable {work : σ → ℕ} {ready : κ → Bool} {s s' : σ} {k : κ}

/-- A blocked step changes nothing. -/
lemma Progress.stay (hs : Inv s) (heq : s' = s) (hk : ready k = false ∨ work s = 0) :
    Progress Inv work ready s k s' := by
  subst heq
  refine ⟨hs, le_refl _, fun hr => ?_⟩
  obtain hk | hk := hk
  · rw [hr] at hk
    cases hk
  · omega

lemma Progress.move (hs : Inv s') (hw : work s' + 1 ≤ work s) :
    Progress Inv work ready s k s' :=
  ⟨hs, by omega, fun _ => by omega⟩

/-- A process whose steps make progress has lost as much work after a schedule as there were
ready cycles. -/
theorem run_work (hstep : ∀ s k, Inv s → C s k → Progress Inv work ready s k (next s k)) {s : σ}
    {ks : List κ} (hs : Inv s) (hC : Along next C s ks) :
    Inv (run next s ks) ∧ work (run next s ks) ≤ work s - ks.countP ready := by
  induction ks generalizing s with
  | nil => exact ⟨hs, by simp⟩
  | cons k ks ih =>
      obtain ⟨hinv, hle, hlt⟩ := hstep s k hs hC.1
      obtain ⟨hrun, hwork⟩ := ih hinv hC.2
      refine ⟨hrun, ?_⟩
      rw [run_cons, List.countP_cons]
      split
      · have hk := hlt ‹_›
        omega
      · omega

/-- A process that is called in a cycle does some of the work, or it leaves the state as it is. If
nothing blocks it, it does so only because it has nothing to do. -/
inductive Moves (work : σ → ℕ) (r : Bool) (s : σ) : Prop → σ → Prop
  | stay {idle : Prop} (h : r = true → idle) : Moves work r s idle s
  | work {idle : Prop} {s' : σ} (h : work s' + 1 ≤ work s) : Moves work r s idle s'

lemma Moves.trans {r : Bool} {s'' : σ} {P Q : Prop} (h : Moves work r s P s')
    (h' : Moves work r s' Q s'') : Moves work r s (P ∧ s' = s ∧ Q) s'' := by
  cases h with
  | stay hP =>
      cases h' with
      | stay hQ => exact .stay fun hr => ⟨hP hr, rfl, hQ hr⟩
      | work hw => exact .work hw
  | work hw =>
      cases h' with
      | stay hQ => exact .work hw
      | work hw' => exact .work (by omega)

/-- Several processes that are called in a cycle make progress, if none of them has nothing to do
as long as there is work. -/
lemma Progress.of_moves {idle : Prop} (hs : Inv s') (h : Moves work (ready k) s idle s')
    (hidle : idle → work s = 0) : Progress Inv work ready s k s' := by
  cases h with
  | stay hi =>
      refine .stay hs rfl ?_
      cases hr : ready k with
      | false => exact .inl rfl
      | true => exact .inr (hidle (hi hr))
  | work hw => exact .move hs hw

end Progress

section Settle

variable {Call : κ → Prop} {work : σ → ℕ}

/-- A schedule of calls each of which does some of the work or changes nothing. -/
lemma run_calls (hstep : ∀ s k, Inv s → Call k →
      Inv (next s k) ∧ (next s k = s ∨ work (next s k) < work s)) {s : σ} {ks : List κ}
    (hs : Inv s) (hks : ∀ k ∈ ks, Call k) :
    Inv (run next s ks) ∧
      ((∀ k ∈ ks, next s k = s) ∧ run next s ks = s ∨ work (run next s ks) < work s) := by
  induction ks generalizing s with
  | nil => exact ⟨hs, .inl ⟨fun k hk => absurd hk List.not_mem_nil, rfl⟩⟩
  | cons k ks ih =>
      obtain ⟨hinv, hmove⟩ := hstep s k hs (hks k List.mem_cons_self)
      obtain ⟨hrun, hrest⟩ := ih hinv fun l hl => hks l (List.mem_cons_of_mem k hl)
      refine ⟨hrun, ?_⟩
      rcases hmove with hstay | hless
      · rw [hstay] at hrest
        rw [run_cons, hstay]
        rcases hrest with ⟨hstays, hsame⟩ | hless
        · refine .inl ⟨fun l hl => ?_, hsame⟩
          rcases List.mem_cons.mp hl with rfl | hl
          · exact hstay
          · exact hstays l hl
        · exact .inr hless
      · rcases hrest with ⟨-, hsame⟩ | hless'
        · right
          rw [run_cons, hsame]
          exact hless
        · exact .inr (hless'.trans hless)

/-- Rounds of calls, more than there is work, come to a round whose calls change nothing. -/
theorem rounds_settle (hstep : ∀ s k, Inv s → Call k →
      Inv (next s k) ∧ (next s k = s ∨ work (next s k) < work s)) {s : σ}
    {rounds : List (List κ)} (hs : Inv s) (hrounds : ∀ ks ∈ rounds, ∀ k ∈ ks, Call k)
    (hwork : work s < rounds.length) :
    ∃ pre ks post, rounds = pre ++ ks :: post ∧ Inv (run next s pre.flatten) ∧
      ∀ k ∈ ks, next (run next s pre.flatten) k = run next s pre.flatten := by
  induction rounds generalizing s with
  | nil => cases hwork
  | cons ks rounds ih =>
      obtain ⟨hinv, hmove⟩ := run_calls hstep hs (hrounds ks List.mem_cons_self)
      rcases hmove with ⟨hstay, -⟩ | hless
      · exact ⟨[], ks, rounds, rfl, hs, hstay⟩
      · rw [List.length_cons] at hwork
        obtain ⟨pre, ls, post, rfl, hpre, hls⟩ :=
          ih hinv (fun r hr => hrounds r (List.mem_cons_of_mem ks hr)) (by omega)
        refine ⟨ks :: pre, ls, post, rfl, ?_, ?_⟩
        · rw [List.flatten_cons, run_append]
          exact hpre
        · rw [List.flatten_cons, run_append]
          exact hls

/-- Calls that change nothing change nothing together. -/
lemma run_fixed {s : σ} {ks : List κ} (h : ∀ k ∈ ks, next s k = s) : run next s ks = s := by
  induction ks with
  | nil => rfl
  | cons k ks ih =>
      rw [run_cons, h k List.mem_cons_self]
      exact ih fun l hl => h l (List.mem_cons_of_mem k hl)

end Settle

end Foundation.Clocked
