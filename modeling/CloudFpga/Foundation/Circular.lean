import Mathlib.Tactic
import Mathlib.Data.BitVec

/-!
Circular order on machine words of any width.

* `OnArc a x b`: going forward from `a`, the word `x` is met no later than `b`.
* `onArc_iff_unsigned`: the usual test with three unsigned comparisons decides it.
* `OnArc.toNat_sub_add`: forward distances add up along an arc.
* `ArcSorted a xs`: going forward from `a`, the words `xs` are met in this order.
* `toNat_add_sub`, `setWidth_sub`: forward distances under a translation and under truncation.
-/

namespace Foundation

variable {w : ℕ}

/-- Going forward from `a`, the word `x` is met no later than `b`. -/
def OnArc (a x b : BitVec w) : Prop := (x - a).toNat ≤ (b - a).toNat

instance (a x b : BitVec w) : Decidable (OnArc a x b) :=
  inferInstanceAs (Decidable ((x - a).toNat ≤ (b - a).toNat))

lemma onArc_left (a b : BitVec w) : OnArc a a b := by simp [OnArc]

lemma onArc_right (a b : BitVec w) : OnArc a b b := Nat.le_refl _

/-- The forward distance, written without the wrap. -/
lemma toNat_sub_eq (a x : BitVec w) :
    (x - a).toNat = if a.toNat ≤ x.toNat then x.toNat - a.toNat
      else 2 ^ w + x.toNat - a.toNat := by
  have ha := a.isLt
  have hx := x.isLt
  rw [BitVec.toNat_sub]
  split
  · rw [show 2 ^ w - a.toNat + x.toNat = x.toNat - a.toNat + 2 ^ w by omega,
      Nat.add_mod_right, Nat.mod_eq_of_lt (by omega)]
  · rw [Nat.mod_eq_of_lt (by omega)]
    omega

/-- The unsigned in-window test is membership of the arc: plain when the window does not wrap,
the two half-lines when it does. -/
theorem onArc_iff_unsigned (a x b : BitVec w) :
    OnArc a x b ↔ (a ≤ x ∧ x ≤ b) ∨ ((a ≤ x ∨ x ≤ b) ∧ b < a) := by
  have ha := a.isLt
  have hx := x.isLt
  have hb := b.isLt
  simp only [OnArc, toNat_sub_eq, BitVec.le_def, BitVec.lt_def]
  split <;> split <;> omega

/-- Forward distances add up along an arc. -/
lemma OnArc.toNat_sub_add {a x b : BitVec w} (h : OnArc a x b) :
    (x - a).toNat + (b - x).toNat = (b - a).toNat := by
  have ha := a.isLt
  have hx := x.isLt
  have hb := b.isLt
  simp only [OnArc, toNat_sub_eq] at h ⊢
  split_ifs at h ⊢ <;> omega

/-- Further along an arc, distances are those of the arc less the part left behind. -/
lemma OnArc.rebase {a b x y : BitVec w} (hx : OnArc a b x) (hy : OnArc a b y)
    (hxy : OnArc a x y) : OnArc b x y := by
  have hbx := hx.toNat_sub_add
  have hby := hy.toNat_sub_add
  unfold OnArc at hxy ⊢
  omega

/-- An arc can be extended at its start. -/
lemma OnArc.extend_left {a b x y : BitVec w} (hx : OnArc a b x) (hy : OnArc a b y)
    (hxy : OnArc b x y) : OnArc a x y := by
  have hbx := hx.toNat_sub_add
  have hby := hy.toNat_sub_add
  unfold OnArc at hxy ⊢
  omega

lemma OnArc.trans {a x y z : BitVec w} (hxy : OnArc a x y) (hyz : OnArc a y z) : OnArc a x z :=
  Nat.le_trans hxy hyz

/-- Going forward from `a`, the words `xs` are met in this order. -/
def ArcSorted (a : BitVec w) (xs : List (BitVec w)) : Prop := xs.Pairwise (OnArc a)

/-- From the first word on, the others are met in the same order. -/
lemma ArcSorted.rebase {a b : BitVec w} {xs : List (BitVec w)} (h : ArcSorted a (b :: xs)) :
    ArcSorted b xs := by
  obtain ⟨hb, hxs⟩ := List.pairwise_cons.mp h
  exact hxs.imp_of_mem fun hx hy hxy => (hb _ hx).rebase (hb _ hy) hxy

/-- A word that is met after the last one can be appended. -/
lemma ArcSorted.snoc {a x y : BitVec w} {xs : List (BitVec w)} (h : ArcSorted a (xs ++ [x]))
    (hy : OnArc a x y) : ArcSorted a (xs ++ [x, y]) := by
  rw [show xs ++ [x, y] = (xs ++ [x]) ++ [y] by simp]
  refine List.pairwise_append.mpr ⟨h, List.pairwise_singleton .., ?_⟩
  intro z hz y' hy'
  obtain rfl := List.mem_singleton.mp hy'
  obtain hz | hz := List.mem_append.mp hz
  · exact ((List.pairwise_append.mp h).2.2 z hz x (List.mem_singleton_self x)).trans hy
  · rw [List.mem_singleton.mp hz]
    exact hy

/-- Moving `x` forward by `n` adds `n` to its distance from `a`, short of a full turn. -/
lemma toNat_add_sub {a x n : BitVec w} (h : (x - a).toNat + n.toNat < 2 ^ w) :
    (x + n - a).toNat = (x - a).toNat + n.toNat := by
  rw [show x + n - a = x - a + n by ring, BitVec.toNat_add_of_lt h]

/-- Truncation commutes with subtraction. -/
lemma setWidth_sub {v : ℕ} (hv : v ≤ w) (x y : BitVec w) :
    (x - y).setWidth v = x.setWidth v - y.setWidth v := by
  have h := BitVec.setWidth_add (x - y) y hv
  rw [BitVec.sub_add_cancel] at h
  rw [h]
  ring

end Foundation
