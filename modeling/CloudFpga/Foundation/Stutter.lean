import CloudFpga.Foundation.Clocked

/-!
Clocked processes that wait: in a cycle that is not ready they do nothing, or what they would do in a
ready one.

* `Stutters`: this property of a step.
* `Stutters.run_eq`: after any schedule the process is where ready cycles alone lead it, and no more
  of them.
-/

namespace Foundation.Clocked

variable {σ : Type*} {next : σ → Bool → σ}

def Stutters (next : σ → Bool → σ) : Prop := ∀ s, next s false = s ∨ next s false = next s true

theorem Stutters.run_eq (h : Stutters next) (s : σ) (ks : List Bool) :
    ∃ m ≤ ks.length, run next s ks = run next s (List.replicate m true) := by
  induction ks generalizing s with
  | nil => exact ⟨0, le_refl 0, rfl⟩
  | cons k ks ih =>
      obtain ⟨m, hm, hrun⟩ := ih (next s k)
      have hready (heq : next s k = next s true) :
          ∃ m ≤ (k :: ks).length, run next s (k :: ks) = run next s (List.replicate m true) := by
        refine ⟨m + 1, Nat.succ_le_succ hm, ?_⟩
        rw [run_cons, List.replicate_succ, run_cons, hrun, heq]
      cases k with
      | true => exact hready rfl
      | false =>
          rcases h s with hstay | hmove
          · refine ⟨m, hm.trans (Nat.le_succ _), ?_⟩
            rw [run_cons, hrun, hstay]
          · exact hready hmove

end Foundation.Clocked
