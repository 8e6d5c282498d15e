import Mathlib.Tactic

/-!
One's complement sums of 16-bit words, in any order and any grouping.

* `onesAdd`, `onesSum`: the addition with an end-around carry, and the sum of a list.
* `ones`: the value of such a sum by the sum of its terms; `ones_add_ones`, `toNat_onesSum`.
* `words`: the big-endian words of bytes, the last one filled up with a zero.
* `carryAdd`: the addition in an accumulator with one more bit, as hardware does it.
-/

namespace Foundation

/-- The addition of two words, with the carry added to the low end. -/
def onesAdd (a b : BitVec 16) : BitVec 16 :=
  let t := a.setWidth 17 + b.setWidth 17
  (t + t >>> 16).setWidth 16

/-- The sum of words. -/
def onesSum (ws : List (BitVec 16)) : BitVec 16 := ws.foldl onesAdd 0

/-- The value of a one's complement sum of terms with the sum `n`. Only no terms, or zeros, have
the sum zero. -/
def ones (n : ℕ) : ℕ := if n = 0 then 0 else (n - 1) % 65535 + 1

/-- The carry of an accumulator with one more bit is added to its low end. -/
def carryFold (t : BitVec 17) : BitVec 17 := (t + t >>> 16) &&& 0xFFFF

/-- The addition of a word to an accumulator with one more bit. -/
def carryAdd (s : BitVec 17) (w : BitVec 16) : BitVec 17 := carryFold (s + w.setWidth 17)

/-- The big-endian words of bytes. -/
def words : List (BitVec 8) → List (BitVec 16)
  | [] => []
  | [x] => [x ++ (0 : BitVec 8)]
  | x :: y :: bs => (x ++ y) :: words bs

/-- The sum of the words of bytes. -/
def wordSum (bs : List (BitVec 8)) : ℕ := ((words bs).map BitVec.toNat).sum

section Ones

variable {a b n : ℕ}

lemma ones_le (n : ℕ) : ones n ≤ 65535 := by
  rw [ones]
  split <;> omega

lemma ones_of_le (h : n ≤ 65535) : ones n = n := by
  rw [ones]
  split
  · omega
  · rw [Nat.mod_eq_of_lt (by omega)]
    omega

/-- The end-around carry. -/
lemma ones_eq_of_lt (h : n < 131071) : ones n = (n + n / 65536) % 65536 := by
  by_cases hn : n ≤ 65535
  · rw [ones_of_le hn]
    omega
  · have hdiv : n / 65536 = 1 := by omega
    have hmod : (n - 1) % 65535 = n - 65536 := by
      rw [Nat.mod_eq_sub_mod (by omega), Nat.mod_eq_of_lt (by omega)]
      omega
    rw [ones, if_neg (by omega), hdiv, hmod]
    omega

lemma ones_add_ones (a b : ℕ) : ones (ones a + b) = ones (a + b) := by
  by_cases hzero : a = 0
  · subst hzero
    rfl
  · have ha : ones a + 65535 * ((a - 1) / 65535) = a ∧ 1 ≤ ones a := by
      rw [ones, if_neg hzero]
      omega
    obtain ⟨ha, hpos⟩ := ha
    have hsum : a + b - 1 = ones a + b - 1 + 65535 * ((a - 1) / 65535) := by omega
    have hright : ones (a + b) = (a + b - 1) % 65535 + 1 := if_neg (by omega)
    rw [hright, hsum, Nat.add_mul_mod_self_left, ones, if_neg (by omega)]

lemma ones_add_ones_right (a b : ℕ) : ones (a + ones b) = ones (a + b) := by
  rw [add_comm, ones_add_ones, add_comm]

lemma ones_add_four (a b c d : ℕ) :
    ones (ones a + ones b + ones c + ones d) = ones (a + b + c + d) := by
  rw [ones_add_ones_right, add_right_comm, ones_add_ones_right, add_assoc (ones a + ones b) d c,
    add_right_comm, ones_add_ones_right, add_assoc (ones a), ones_add_ones]
  congr 1
  omega

/-- All bits of a sum are set exactly when its terms sum up to a positive multiple of `2 ^ 16 - 1`. -/
lemma ones_eq_max_iff : ones n = 65535 ↔ n ≠ 0 ∧ n % 65535 = 0 := by
  rw [ones]
  split <;> omega

/-- A sum and its complement. -/
lemma ones_add_compl (n : ℕ) : ones (n + (65535 - ones n)) = 65535 := by
  have hle := ones_le n
  rw [ones_eq_max_iff]
  by_cases hn : n = 0
  · subst hn
    decide
  · have hones : ones n = (n - 1) % 65535 + 1 := if_neg hn
    omega

lemma toNat_onesAdd (a b : BitVec 16) : (onesAdd a b).toNat = ones (a.toNat + b.toNat) := by
  have ha := a.isLt
  have hb := b.isLt
  have ht : (a.setWidth 17 + b.setWidth 17).toNat = a.toNat + b.toNat := by
    rw [BitVec.toNat_add, BitVec.toNat_setWidth, BitVec.toNat_setWidth]
    omega
  rw [onesAdd, BitVec.toNat_setWidth, BitVec.toNat_add, BitVec.toNat_ushiftRight, ht,
    Nat.shiftRight_eq_div_pow, ones_eq_of_lt (by omega)]
  omega

lemma toNat_foldl_onesAdd (s : BitVec 16) (ws : List (BitVec 16)) :
    (ws.foldl onesAdd s).toNat = ones (s.toNat + (ws.map BitVec.toNat).sum) := by
  induction ws generalizing s with
  | nil =>
      have hs := s.isLt
      simp [ones_of_le (show s.toNat ≤ 65535 by omega)]
  | cons w ws ih =>
      rw [List.foldl_cons, ih, toNat_onesAdd, ones_add_ones, List.map_cons, List.sum_cons,
        add_assoc]

/-- The sum of words depends on their sum alone. -/
theorem toNat_onesSum (ws : List (BitVec 16)) :
    (onesSum ws).toNat = ones (ws.map BitVec.toNat).sum := by
  rw [onesSum, toNat_foldl_onesAdd]
  simp

lemma toNat_onesSum_words (bs : List (BitVec 8)) : (onesSum (words bs)).toNat = ones (wordSum bs) :=
  toNat_onesSum _

lemma toNat_carryFold {t : BitVec 17} (ht : t.toNat < 131071) :
    (carryFold t).toNat = ones t.toNat := by
  have hmask : (0xFFFF : BitVec 17).toNat = 2 ^ 16 - 1 := rfl
  rw [carryFold, BitVec.toNat_and, hmask, Nat.and_two_pow_sub_one_eq_mod, BitVec.toNat_add,
    BitVec.toNat_ushiftRight, Nat.shiftRight_eq_div_pow, ones_eq_of_lt ht]
  omega

lemma toNat_carryFold_add {s t : BitVec 17} (hs : s.toNat ≤ 65535) (ht : t.toNat ≤ 65535) :
    (carryFold (s + t)).toNat = ones (s.toNat + t.toNat) := by
  have hsum : (s + t).toNat = s.toNat + t.toNat := by
    rw [BitVec.toNat_add]
    omega
  rw [toNat_carryFold (by omega), hsum]

/-- The accumulator holds the sum of what was added. -/
theorem toNat_carryAdd {s : BitVec 17} (hs : s.toNat ≤ 65535) (w : BitVec 16) :
    (carryAdd s w).toNat = ones (s.toNat + w.toNat) := by
  have hw : (w.setWidth 17).toNat = w.toNat := by
    have hlt := w.isLt
    rw [BitVec.toNat_setWidth]
    omega
  have hlt := w.isLt
  rw [carryAdd, toNat_carryFold_add hs (by omega), hw]

end Ones

section Words

variable {x y : BitVec 8} {as bs : List (BitVec 8)}

@[simp] lemma wordSum_nil : wordSum [] = 0 := rfl

lemma toNat_byte_append (x y : BitVec 8) : (x ++ y).toNat = x.toNat * 256 + y.toNat := by
  have hy := y.isLt
  rw [BitVec.toNat_append, ← Nat.shiftLeft_add_eq_or_of_lt hy, Nat.shiftLeft_eq]

lemma wordSum_singleton : wordSum [x] = x.toNat * 256 := by
  have hzero : (0 : BitVec 8).toNat = 0 := rfl
  rw [wordSum, words, List.map_singleton, List.sum_singleton, toNat_byte_append, hzero, add_zero]

lemma wordSum_cons_cons : wordSum (x :: y :: bs) = x.toNat * 256 + y.toNat + wordSum bs := by
  rw [wordSum, words, List.map_cons, List.sum_cons, toNat_byte_append]
  rfl

/-- The words of an even number of bytes, and those behind them. -/
lemma wordSum_append (h : as.length % 2 = 0) : wordSum (as ++ bs) = wordSum as + wordSum bs := by
  induction as using List.twoStepInduction with
  | nil => simp
  | singleton x => simp at h
  | cons_cons x y as ih _ =>
      have heven : as.length % 2 = 0 := by
        rw [List.length_cons, List.length_cons] at h
        omega
      rw [List.cons_append, List.cons_append, wordSum_cons_cons, wordSum_cons_cons, ih heven,
        ← add_assoc]

end Words

end Foundation
