import CloudFpga.Foundation.Clocked

/-!
Round-robin publishers: an array of words is copied over a queue of bounded depth. Each call looks
at one index, and sends its word if it is not the one that was sent last and the queue has room.

* `stepsTo`: how far it is to the next index with a property, going round.
* `Publisher`, `publish`, `serve`: the publisher with the queue and the copy.
* `Publisher.Synced`: the copy is what was sent, as soon as the queue is served.
* `copy_of_served`: while the words do not change, the copy has all of them after a number of
  served calls that depends on the size of the array and the depth of the queue only.
-/

namespace Foundation

section Round

variable {n : ℕ} [NeZero n] {p : Fin n → Prop} {i j : Fin n}

open Classical in
/-- How many steps it is from the index to the next one with the property, going round. -/
noncomputable def stepsTo (p : Fin n → Prop) (i : Fin n) : ℕ :=
  if h : ∃ m : ℕ, p (i + Fin.ofNat n m) then Nat.find h else 0

lemma exists_steps (hj : p j) (i : Fin n) : ∃ m : ℕ, p (i + Fin.ofNat n m) := by
  refine ⟨(j - i).val, ?_⟩
  have hval : Fin.ofNat n (j - i).val = j - i := Fin.ofNat_val_eq_self (j - i)
  rw [hval, add_sub_cancel]
  exact hj

lemma stepsTo_lt : stepsTo p i < n := by
  classical
  rw [stepsTo]
  split
  · next h =>
      have hmod : Fin.ofNat n (Nat.find h % n) = Fin.ofNat n (Nat.find h) := by
        apply Fin.ext
        simp
      have hle : Nat.find h ≤ Nat.find h % n := Nat.find_min' h (hmod ▸ Nat.find_spec h)
      exact lt_of_le_of_lt hle (Nat.mod_lt _ (NeZero.pos n))
  · exact NeZero.pos n

/-- From an index without the property, the next index is one step closer. -/
lemma stepsTo_succ (hj : p j) (hi : ¬p i) : stepsTo p (i + 1) + 1 ≤ stepsTo p i := by
  classical
  have h := exists_steps hj i
  have h' := exists_steps hj (i + 1)
  rw [stepsTo, stepsTo, dif_pos h, dif_pos h']
  have hpos : 1 ≤ Nat.find h := by
    by_contra hzero
    have hspec := Nat.find_spec h
    rw [Nat.lt_one_iff.mp (Nat.not_le.mp hzero)] at hspec
    exact hi (by simpa using hspec)
  have hnext : p (i + 1 + Fin.ofNat n (Nat.find h - 1)) := by
    have heq : i + 1 + Fin.ofNat n (Nat.find h - 1) = i + Fin.ofNat n (Nat.find h) := by
      obtain ⟨m, hm⟩ := Nat.exists_eq_add_of_le' hpos
      rw [hm, Nat.add_sub_cancel, add_assoc]
      congr 1
      apply Fin.ext
      simp [Fin.val_add, Nat.add_comm]
    rw [heq]
    exact Nat.find_spec h
  have hle := Nat.find_min' h' hnext
  omega

end Round

/-- The next index, what was sent last for each index, the queue, and the copy. -/
structure Publisher (n : ℕ) (ω : Type*) where
  index : Fin n
  sent : Fin n → ω
  queue : List (Fin n × ω)
  copy : Fin n → ω

namespace Publisher

variable {n : ℕ} [NeZero n] {ω : Type*} [DecidableEq ω] {depth : ℕ} {words : Fin n → ω}
  (P : Publisher n ω)

/-- The copy after the updates. -/
def applyAll (copy : Fin n → ω) (us : List (Fin n × ω)) : Fin n → ω :=
  us.foldl (fun c u => Function.update c u.1 u.2) copy

/-- One call of the publisher. -/
def publish (depth : ℕ) (words : Fin n → ω) : Publisher n ω :=
  if P.queue.length < depth ∧ P.sent P.index ≠ words P.index then
    { P with
      queue := P.queue ++ [(P.index, words P.index)]
      sent := Function.update P.sent P.index (words P.index)
      index := P.index + 1 }
  else { P with index := P.index + 1 }

/-- The first update of the queue is applied, if there is one. -/
def serve : Publisher n ω :=
  match P.queue with
  | u :: us => { P with copy := Function.update P.copy u.1 u.2, queue := us }
  | [] => P

/-- A call, after which the queue may be served. -/
def cycle (depth : ℕ) (words : Fin n → ω) (served : Bool) : Publisher n ω :=
  if served then (P.publish depth words).serve else P.publish depth words

/-- The queue respects its depth, and the copy is what was sent, as soon as the queue is served. -/
structure Synced (depth : ℕ) : Prop where
  room : P.queue.length ≤ depth
  sent : applyAll P.copy P.queue = P.sent

variable {P}

omit [NeZero n] [DecidableEq ω] in
lemma applyAll_append (c : Fin n → ω) (us vs : List (Fin n × ω)) :
    applyAll c (us ++ vs) = applyAll (applyAll c us) vs :=
  List.foldl_append

lemma Synced.publish (h : P.Synced depth) : (P.publish depth words).Synced depth := by
  rw [Publisher.publish]
  split
  · next hnew =>
      refine ⟨?_, ?_⟩
      · rw [List.length_append]
        exact hnew.1
      · dsimp only
        rw [applyAll_append, h.sent]
        rfl
  · exact ⟨h.room, h.sent⟩

omit [NeZero n] [DecidableEq ω] in
lemma Synced.serve (h : P.Synced depth) : P.serve.Synced depth := by
  obtain ⟨hroom, hsent⟩ := h
  rw [Publisher.serve]
  split
  · next u us hus =>
      rw [hus] at hroom hsent
      exact ⟨Nat.le_of_succ_le hroom, hsent⟩
  · exact ⟨hroom, hsent⟩

lemma Synced.cycle (h : P.Synced depth) (served : Bool) :
    (P.cycle depth words served).Synced depth := by
  rw [Publisher.cycle]
  split
  · exact h.publish.serve
  · exact h.publish

section Work

variable (words P)

/-- The indices whose word is still to be sent. -/
def unsent : Finset (Fin n) := Finset.univ.filter fun j => P.sent j ≠ words j

/-- What is left to do: a word that is still to be sent counts twice, one in the queue once, each
for more than one round of the index; with an empty queue the index has to get to such a word. -/
noncomputable def work : ℕ :=
  (n + 1) * (2 * (P.unsent words).card + P.queue.length) +
    if P.queue = [] then stepsTo (fun j => P.sent j ≠ words j) P.index else n

/-- The number of served calls that is enough from every state. -/
def bound (n depth : ℕ) : ℕ := (n + 1) * (2 * n + depth) + n

variable {words P}

omit [NeZero n] in
@[simp] lemma mem_unsent {j : Fin n} : j ∈ P.unsent words ↔ P.sent j ≠ words j := by
  simp [unsent]

lemma work_le (h : P.Synced depth) : P.work words ≤ bound n depth := by
  have hcard : (P.unsent words).card ≤ n := by
    simpa using Finset.card_le_univ (P.unsent words)
  have hmul : (n + 1) * (2 * (P.unsent words).card + P.queue.length)
      ≤ (n + 1) * (2 * n + depth) := Nat.mul_le_mul_left _ (by have := h.room; omega)
  have hsteps : (if P.queue = [] then stepsTo (fun j => P.sent j ≠ words j) P.index else n) ≤ n := by
    split
    · exact stepsTo_lt.le
    · exact le_refl n
  rw [work, bound]
  omega

/-- A word is sent. -/
lemma work_sent (hnew : P.sent P.index ≠ words P.index) :
    work words { P with
      queue := P.queue ++ [(P.index, words P.index)]
      sent := Function.update P.sent P.index (words P.index)
      index := P.index + 1 } + 1 ≤ P.work words := by
  have hunsent : unsent words { P with
      queue := P.queue ++ [(P.index, words P.index)]
      sent := Function.update P.sent P.index (words P.index)
      index := P.index + 1 } = (P.unsent words).erase P.index := by
    ext j
    rw [mem_unsent, Finset.mem_erase, mem_unsent]
    dsimp only
    rw [Function.update_apply]
    split
    · next hj => simp [hj]
    · next hj => simp [hj]
  have hmem : P.index ∈ P.unsent words := mem_unsent.mpr hnew
  have hcard := Finset.card_erase_add_one hmem
  rw [work, work, hunsent, if_neg (by simp)]
  dsimp only
  rw [List.length_append, List.length_singleton, ← hcard]
  generalize ((P.unsent words).erase P.index).card = u
  have hexp : (n + 1) * (2 * (u + 1) + P.queue.length)
      = (n + 1) * (2 * u + (P.queue.length + 1)) + (n + 1) := by ring
  omega

/-- A call adds no work, and with an empty queue it does some. -/
lemma work_publish (hdepth : 0 < depth) :
    (P.publish depth words).work words ≤ P.work words ∧
      ((P.publish depth words).queue = [] →
        (P.publish depth words).work words ≤ P.work words - 1) := by
  rw [publish]
  split
  · next hnew =>
      have hsent := work_sent hnew.2
      refine ⟨by omega, fun hq => ?_⟩
      simp at hq
  · next hold =>
      have hsame : unsent words { P with index := P.index + 1 } = P.unsent words := rfl
      rw [work, work, hsame]
      dsimp only
      by_cases hq : P.queue = []
      · have hroom : P.queue.length < depth := by
          rw [hq]
          exact hdepth
        have hi : ¬P.sent P.index ≠ words P.index := fun hne => hold ⟨hroom, hne⟩
        rw [if_pos hq, if_pos hq]
        by_cases hany : ∃ j, P.sent j ≠ words j
        · obtain ⟨j, hj⟩ := hany
          have hsteps := stepsTo_succ (p := fun j => P.sent j ≠ words j) hj hi
          exact ⟨by omega, fun _ => by omega⟩
        · have hnone (i : Fin n) : stepsTo (fun j => P.sent j ≠ words j) i = 0 := by
            rw [stepsTo, dif_neg]
            rintro ⟨m, hm⟩
            exact hany ⟨_, hm⟩
          have hempty : P.unsent words = ∅ := by
            rw [Finset.eq_empty_iff_forall_notMem]
            intro j hj
            exact hany ⟨j, mem_unsent.mp hj⟩
          rw [hnone, hnone, hempty, hq]
          simp
      · rw [if_neg hq, if_neg hq]
        exact ⟨le_refl _, fun h => absurd h hq⟩

/-- Serving does some of the work, if there is something in the queue. -/
lemma work_serve : P.serve.work words ≤ P.work words ∧
    (P.queue ≠ [] → P.serve.work words + 1 ≤ P.work words) := by
  rw [serve]
  split
  · next u us hus =>
      have hsame : unsent words
          { P with copy := Function.update P.copy u.1 u.2, queue := us } = P.unsent words := rfl
      have hlt : P.work words = (n + 1) * (2 * (P.unsent words).card + us.length) + (n + 1) + n := by
        rw [work, hus, if_neg (List.cons_ne_nil u us), List.length_cons]
        ring
      have hle : (if us = [] then stepsTo (fun j => P.sent j ≠ words j) P.index else n) ≤ n := by
        split
        · exact stepsTo_lt.le
        · exact le_refl n
      rw [hlt, work, hsame]
      dsimp only
      exact ⟨by omega, fun _ => by omega⟩
  · next hq => exact ⟨le_refl _, fun h => absurd hq h⟩

/-- A call does some of the work when it is served. -/
lemma cycle_progress (hdepth : 0 < depth) (h : P.Synced depth) (served : Bool) :
    Clocked.Progress (fun P => P.Synced depth) (fun P => P.work words) id P served
      (P.cycle depth words served) := by
  have hpub : (P.publish depth words).work words ≤ P.work words ∧
      ((P.publish depth words).queue = [] →
        (P.publish depth words).work words ≤ P.work words - 1) := work_publish hdepth
  have hserve : (P.publish depth words).serve.work words ≤ (P.publish depth words).work words ∧
      ((P.publish depth words).queue ≠ [] →
        (P.publish depth words).serve.work words + 1 ≤ (P.publish depth words).work words) :=
    work_serve
  have hinv : (P.cycle depth words served).Synced depth := h.cycle served
  cases served with
  | true =>
      have hcycle : P.cycle depth words true = (P.publish depth words).serve := rfl
      rw [hcycle] at hinv ⊢
      refine ⟨hinv, hserve.1.trans hpub.1, fun _ => ?_⟩
      by_cases hq : (P.publish depth words).queue = []
      · exact hserve.1.trans (hpub.2 hq)
      · have hlt := hserve.2 hq
        have hle := hpub.1
        omega
  | false =>
      have hcycle : P.cycle depth words false = P.publish depth words := rfl
      rw [hcycle] at hinv ⊢
      exact ⟨hinv, hpub.1, fun hfalse => by cases hfalse⟩

/-- Without work the copy has all words. -/
lemma copy_of_work (h : P.Synced depth) (hwork : P.work words = 0) : P.copy = words := by
  rw [work, Nat.add_eq_zero_iff, Nat.mul_eq_zero] at hwork
  have hzero := hwork.1.resolve_left (Nat.succ_ne_zero n)
  have hq : P.queue = [] := List.length_eq_zero_iff.mp (by omega)
  have hunsent : P.unsent words = ∅ := Finset.card_eq_zero.mp (by omega)
  have hsent := h.sent
  rw [hq] at hsent
  have hcopy : P.copy = P.sent := hsent
  rw [hcopy]
  funext j
  by_contra hj
  have hmem : j ∈ P.unsent words := mem_unsent.mpr hj
  rw [hunsent] at hmem
  cases hmem

/-- After enough served calls with the same words, the copy has all of them. -/
theorem copy_of_served (hdepth : 0 < depth) (h : P.Synced depth) {ms : List Bool}
    (hms : bound n depth ≤ ms.count true) :
    (Clocked.run (fun P served => P.cycle depth words served) P ms).copy = words := by
  have hstep (P : Publisher n ω) (served : Bool) (hP : P.Synced depth) (_ : True) :
      Clocked.Progress (fun P => P.Synced depth) (fun P => P.work words) id P served
        (P.cycle depth words served) := cycle_progress hdepth hP served
  obtain ⟨hinv, hwork⟩ := Clocked.run_work hstep h (Clocked.along_trivial _ P ms)
  refine copy_of_work hinv ?_
  have hcount : ms.countP id = ms.count true := by
    rw [List.count]
    exact List.countP_congr fun b _ => by cases b <;> simp
  have hle : P.work words ≤ bound n depth := work_le h
  rw [hcount] at hwork
  exact Nat.le_zero.mp (hwork.trans (by omega))

end Work

end Publisher

end Foundation
