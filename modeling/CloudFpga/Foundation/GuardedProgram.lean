import Mathlib.Data.List.Basic

/-!
Straight-line programs of guarded instructions.

* `GuardedMachine`: which instruction is enabled in a state, what it does, what a skip does, and which
  instruction ends the program.
* `GuardedMachine.run`: a program; `run_invariant`, `run_append`.
-/

namespace Foundation

/-- A machine for guarded instructions. -/
structure GuardedMachine (I S : Type*) where
  enabled : I → S → Bool
  exits : I → Bool
  step : I → S → S
  skip : S → S

namespace GuardedMachine

variable {I S : Type*} (m : GuardedMachine I S)

/-- The run of a program. -/
def run : List I → S → S
  | [], s => s
  | i :: p, s =>
      if m.enabled i s then if m.exits i then s else run p (m.step i s) else run p (m.skip s)

variable {m} {i : I} {p q : List I} {s : S}

lemma run_exit (h : m.enabled i s) (hexit : m.exits i) : m.run (i :: p) s = s := by
  rw [run, if_pos h, if_pos hexit]

lemma run_step (h : m.enabled i s) (hexit : m.exits i = false) :
    m.run (i :: p) s = m.run p (m.step i s) := by
  rw [run, if_pos h, hexit, if_neg Bool.false_ne_true]

lemma run_skip (h : m.enabled i s = false) : m.run (i :: p) s = m.run p (m.skip s) := by
  rw [run, h, if_neg Bool.false_ne_true]

/-- **The invariant rule**: what every skip and every enabled instruction keeps, the program keeps. -/
theorem run_invariant {P : S → Prop} (hskip : ∀ s, P s → P (m.skip s))
    (hstep : ∀ i ∈ p, ∀ s, m.enabled i s → P s → P (m.step i s)) (hs : P s) : P (m.run p s) := by
  induction p generalizing s with
  | nil => exact hs
  | cons i p ih =>
      have htail := fun j hj => hstep j (List.mem_cons_of_mem i hj)
      rw [run]
      split_ifs with henabled hexit
      · exact hs
      · exact ih htail (hstep i List.mem_cons_self s henabled hs)
      · exact ih htail (hskip s hs)

/-- A program without an exit goes on. -/
theorem run_append (hp : ∀ i ∈ p, m.exits i = false) :
    m.run (p ++ q) s = m.run q (m.run p s) := by
  induction p generalizing s with
  | nil => rfl
  | cons i p ih =>
      have htail := fun j hj => hp j (List.mem_cons_of_mem i hj)
      have hexit := hp i List.mem_cons_self
      rw [List.cons_append]
      cases henabled : m.enabled i s with
      | true =>
          rw [run_step henabled hexit, run_step henabled hexit]
          exact ih htail
      | false =>
          rw [run_skip henabled, run_skip henabled]
          exact ih htail

end GuardedMachine

end Foundation
