import Mathlib.Logic.Function.Basic
import Mathlib.Data.List.Basic

/-!
Memories with natural numbers as addresses.

* `store`: cells are written one after the other; `window`: the cells from an address on.
* `window_store`, `window_store_before`, `window_store_behind`: what was written is read, and the
  other cells stay.
* `window_add`, `drop_window`: the parts of a window.
-/

namespace Foundation

variable {α : Type*}

/-- The cells `l` are written from the address `i` on. -/
def store (m : ℕ → α) (i : ℕ) : List α → ℕ → α
  | [] => m
  | x :: l => store (Function.update m i x) (i + 1) l

/-- The `n` cells from the address `i` on. -/
def window (m : ℕ → α) (i n : ℕ) : List α := (List.range n).map fun j => m (i + j)

variable {m m' : ℕ → α} {i j k n : ℕ} {l : List α}

@[simp] lemma window_length (m : ℕ → α) (i n : ℕ) : (window m i n).length = n := by simp [window]

@[simp] lemma window_zero (m : ℕ → α) (i : ℕ) : window m i 0 = [] := rfl

lemma window_succ (m : ℕ → α) (i n : ℕ) : window m i (n + 1) = m i :: window m (i + 1) n := by
  rw [window, List.range_succ_eq_map, List.map_cons, List.map_map, Nat.add_zero, window]
  congr 1
  exact List.map_congr_left fun j _ => congrArg m (by simp only [Nat.succ_eq_add_one]; omega)

lemma window_add (m : ℕ → α) (i n k : ℕ) :
    window m i (n + k) = window m i n ++ window m (i + n) k := by
  induction n generalizing i with
  | zero => rw [Nat.zero_add, window_zero, List.nil_append, Nat.add_zero]
  | succ n ih =>
      rw [show n + 1 + k = n + k + 1 by omega, window_succ, window_succ, ih, List.cons_append,
        show i + 1 + n = i + (n + 1) by omega]

lemma drop_window (m : ℕ → α) (i : ℕ) (h : k ≤ n) :
    (window m i n).drop k = window m (i + k) (n - k) := by
  obtain ⟨d, rfl⟩ := Nat.exists_eq_add_of_le h
  rw [window_add, Nat.add_sub_cancel_left]
  exact List.drop_left' (window_length m i k)

lemma take_window (m : ℕ → α) (i : ℕ) (h : k ≤ n) : (window m i n).take k = window m i k := by
  obtain ⟨d, rfl⟩ := Nat.exists_eq_add_of_le h
  rw [window_add]
  exact List.take_left' (window_length m i k)

lemma window_congr (h : ∀ k, i ≤ k → k < i + n → m k = m' k) : window m i n = window m' i n :=
  List.map_congr_left fun j hj => h (i + j) (by omega) (by have := List.mem_range.mp hj; omega)

lemma store_of_lt (h : k < i) : store m i l k = m k := by
  induction l generalizing m i with
  | nil => rfl
  | cons x l ih =>
      rw [store, ih (Nat.lt_succ_of_lt h)]
      exact Function.update_of_ne (Nat.ne_of_lt h) x m

lemma store_of_le (h : i + l.length ≤ k) : store m i l k = m k := by
  induction l generalizing m i with
  | nil => rfl
  | cons x l ih =>
      rw [List.length_cons] at h
      have hne : k ≠ i := by omega
      rw [store, ih (by rw [Nat.add_assoc, Nat.add_comm 1]; exact h)]
      exact Function.update_of_ne hne x m

/-- What is in front of the written cells stays. -/
lemma window_store_before (h : j + n ≤ i) : window (store m i l) j n = window m j n :=
  window_congr fun _ _ hk => store_of_lt (Nat.lt_of_lt_of_le hk h)

/-- What is behind the written cells stays. -/
lemma window_store_behind (h : i + l.length ≤ j) : window (store m i l) j n = window m j n :=
  window_congr fun _ hk _ => store_of_le (Nat.le_trans h hk)

/-- What was written is read. -/
lemma window_store (m : ℕ → α) (i : ℕ) (l : List α) : window (store m i l) i l.length = l := by
  induction l generalizing m i with
  | nil => rfl
  | cons x l ih =>
      rw [List.length_cons, window_succ, store, ih, store_of_lt (Nat.lt_succ_self i),
        Function.update_self]

/-- The cells in front of the written ones and the first of them. -/
lemma window_store_add (h : k ≤ l.length) :
    window (store m (i + n) l) i (n + k) = window m i n ++ l.take k := by
  rw [window_add, window_store_before (Nat.le_refl _), ← take_window _ _ h, window_store]

end Foundation
