import Mathlib.Tactic

/-!
Streams of items in which a mark ends a packet.

* `IsPacket`: a list of items of which exactly the last one is marked.
* `IsPacket.append_inj`: a stream is cut into packets in one way only.
* `IsPacket.bound`: a prefix of a stream with no mark before its end lies in the first packet.
* `openFrom`: how many items a part of a stream has behind its last mark.
-/

namespace Foundation

variable {α : Type*} {last : α → Bool}

/-- Exactly the last item is marked. -/
def IsPacket (last : α → Bool) : List α → Prop
  | [] => False
  | x :: xs => if last x then xs = [] else IsPacket last xs

instance decidableIsPacket (last : α → Bool) :
    (xs : List α) → Decidable (IsPacket last xs)
  | [] => isFalse id
  | x :: xs =>
      have := decidableIsPacket last xs
      inferInstanceAs (Decidable (if last x then xs = [] else IsPacket last xs))

lemma IsPacket.ne_nil {xs : List α} (h : IsPacket last xs) : xs ≠ [] := by
  rintro rfl
  exact h

lemma isPacket_cons_of_last {x : α} {xs : List α} (hx : last x = true) :
    IsPacket last (x :: xs) ↔ xs = [] := by
  rw [IsPacket, if_pos hx]

lemma isPacket_cons_of_not_last {x : α} {xs : List α} (hx : last x = false) :
    IsPacket last (x :: xs) ↔ IsPacket last xs := by
  rw [IsPacket, if_neg (by simp [hx])]

/-- Items without a mark, in front of a packet. -/
lemma IsPacket.append {xs ys : List α} (hxs : ∀ x ∈ xs, last x = false) (hys : IsPacket last ys) :
    IsPacket last (xs ++ ys) := by
  induction xs with
  | nil => exact hys
  | cons x xs ih =>
      rw [List.cons_append, isPacket_cons_of_not_last (hxs x List.mem_cons_self)]
      exact ih fun y hy => hxs y (List.mem_cons_of_mem x hy)

/-- A second part of a packet. -/
lemma IsPacket.of_append {xs ys : List α} (h : IsPacket last (xs ++ ys)) (hys : ys ≠ []) :
    IsPacket last ys := by
  induction xs with
  | nil => exact h
  | cons x xs ih =>
      cases hx : last x with
      | true =>
          rw [List.cons_append, isPacket_cons_of_last hx] at h
          exact absurd (List.append_eq_nil_iff.mp h).2 hys
      | false =>
          rw [List.cons_append, isPacket_cons_of_not_last hx] at h
          exact ih h

/-- A stream is cut into packets in one way only. -/
theorem IsPacket.append_inj {p q r r' : List α} (hp : IsPacket last p) (hq : IsPacket last q)
    (h : p ++ r = q ++ r') : p = q ∧ r = r' := by
  induction p generalizing q with
  | nil => exact absurd hp id
  | cons x xs ih =>
      cases q with
      | nil => exact absurd hq id
      | cons y ys =>
          rw [List.cons_append, List.cons_append, List.cons.injEq] at h
          obtain ⟨rfl, hrest⟩ := h
          cases hx : last x with
          | true =>
              rw [isPacket_cons_of_last hx] at hp hq
              subst hp hq
              exact ⟨rfl, hrest⟩
          | false =>
              rw [isPacket_cons_of_not_last hx] at hp hq
              obtain ⟨rfl, hr⟩ := ih hp hq hrest
              exact ⟨rfl, hr⟩

/-- A prefix of a stream with no mark before its end lies in the first packet. -/
theorem IsPacket.bound {p r pre suf : List α} (hp : IsPacket last p)
    (hpre : ∀ x ∈ pre.dropLast, last x = false) (h : p ++ r = pre ++ suf) : pre <+: p := by
  induction pre generalizing p with
  | nil => exact List.nil_prefix
  | cons x xs ih =>
      cases p with
      | nil => exact absurd hp id
      | cons y ys =>
          rw [List.cons_append, List.cons_append, List.cons.injEq] at h
          obtain ⟨rfl, hrest⟩ := h
          cases xs with
          | nil => exact ⟨ys, rfl⟩
          | cons z zs =>
              have hy : last y = false := hpre y (by simp)
              rw [isPacket_cons_of_not_last hy] at hp
              have hpre' : ∀ x ∈ (z :: zs).dropLast, last x = false := fun x hx =>
                hpre x (by rw [List.dropLast_cons_cons]; exact List.mem_cons_of_mem y hx)
              exact (List.prefix_cons_inj y).mpr (ih hp hpre' hrest)

/-! ### The items behind the last mark -/

section Open

/-- The number of items behind the last mark, with `n` items in front. -/
def openFrom (last : α → Bool) (n : ℕ) (xs : List α) : ℕ :=
  xs.foldl (fun n x => if last x then 0 else n + 1) n

variable {n m : ℕ} {xs : List α} {x : α}

@[simp] lemma openFrom_nil : openFrom last n [] = n := rfl

lemma openFrom_cons :
    openFrom last n (x :: xs) = openFrom last (if last x then 0 else n + 1) xs := rfl

lemma openFrom_snoc :
    openFrom last n (xs ++ [x]) = if last x then 0 else openFrom last n xs + 1 := by
  rw [openFrom, List.foldl_append]
  rfl

lemma openFrom_mono (h : n ≤ m) : openFrom last n xs ≤ openFrom last m xs := by
  induction xs generalizing n m with
  | nil => exact h
  | cons x xs ih =>
      rw [openFrom_cons, openFrom_cons]
      refine ih ?_
      split_ifs <;> omega

lemma openFrom_tail : openFrom last 0 xs ≤ openFrom last 0 (x :: xs) :=
  openFrom_mono (Nat.zero_le _)

/-- Without a mark all items count. -/
lemma openFrom_of_none (h : xs.countP last = 0) : openFrom last n xs = n + xs.length := by
  induction xs generalizing n with
  | nil => rfl
  | cons x xs ih =>
      rw [List.countP_cons] at h
      have hx : last x = false := by
        by_contra hx
        rw [if_pos (by simpa using hx)] at h
        omega
      rw [openFrom_cons, hx, if_neg Bool.false_ne_true, ih (by omega), List.length_cons]
      omega

/-- Whether an item is open depends on whether one is open in front. -/
lemma openFrom_pos_congr (h : 0 < n ↔ 0 < m) :
    0 < openFrom last n xs ↔ 0 < openFrom last m xs := by
  induction xs generalizing n m with
  | nil => exact h
  | cons x xs ih =>
      rw [openFrom_cons, openFrom_cons]
      refine ih ?_
      split_ifs <;> omega

end Open

end Foundation
