import Mathlib.Data.List.Lookmap
import Mathlib.Tactic

/-!
Lists of rows that are searched and updated from the front.

* `updateFirst p f`: the first element with `p` is updated by `f`.
* `find?_key_eq_some_iff`: if the keys are distinct, the element with a key is the only one.
* `find?_perm`: then the order of the elements does not matter.
-/

namespace Foundation

variable {α κ : Type*} {p : α → Bool} {f : α → α} {l l' : List α} {a : α}

def updateFirst (p : α → Bool) (f : α → α) (l : List α) : List α :=
  l.lookmap fun a => if p a then some (f a) else none

@[simp] lemma length_updateFirst : (updateFirst p f l).length = l.length :=
  List.length_lookmap _ _

lemma updateFirst_cons (a : α) (l : List α) :
    updateFirst p f (a :: l) = if p a then f a :: l else a :: updateFirst p f l := by
  split
  · next h => exact List.lookmap_cons_some _ _ (if_pos h)
  · next h => exact List.lookmap_cons_none _ _ (if_neg h)

/-- Without such an element nothing changes. -/
lemma updateFirst_of_find?_eq_none (h : l.find? p = none) : updateFirst p f l = l := by
  refine List.lookmap_of_forall_not _ fun a ha => if_neg ?_
  exact List.find?_eq_none.mp h a ha

/-- The parts of the list around the element that is updated. -/
lemma updateFirst_of_find? (h : l.find? p = some a) :
    ∃ l₁ l₂, l = l₁ ++ a :: l₂ ∧ p a = true ∧ (∀ b ∈ l₁, p b = false) ∧
      ∀ f : α → α, updateFirst p f l = l₁ ++ f a :: l₂ := by
  induction l with
  | nil => cases h
  | cons b l ih =>
      rw [List.find?_cons] at h
      cases hb : p b with
      | true =>
          rw [hb] at h
          obtain rfl : b = a := Option.some.inj h
          refine ⟨[], l, rfl, hb, fun c hc => (by cases hc), fun f => ?_⟩
          rw [updateFirst_cons, if_pos hb]
          rfl
      | false =>
          rw [hb] at h
          obtain ⟨l₁, l₂, rfl, ha, hl₁, hf⟩ := ih h
          refine ⟨b :: l₁, l₂, rfl, ha, ?_, fun f => ?_⟩
          · intro c hc
            obtain rfl | hc := List.mem_cons.mp hc
            · exact hb
            · exact hl₁ c hc
          · rw [updateFirst_cons, if_neg (by simp [hb]), hf]
            rfl

section Keys

variable [DecidableEq κ] {key : α → κ} {k : κ}

/-- Among distinct keys, the element with a key is the only one. -/
lemma find?_key_eq_some_iff (h : (l.map key).Nodup) :
    l.find? (key · = k) = some a ↔ a ∈ l ∧ key a = k := by
  constructor
  · intro hfind
    exact ⟨List.mem_of_find?_eq_some hfind, by simpa using List.find?_some hfind⟩
  · rintro ⟨ha, rfl⟩
    have hsome : (l.find? (key · = key a)).isSome :=
      List.find?_isSome.mpr ⟨a, ha, by simp⟩
    obtain ⟨b, hb⟩ := Option.isSome_iff_exists.mp hsome
    have hkey : key b = key a := by simpa using List.find?_some hb
    exact hb.trans (congrArg some (List.inj_on_of_nodup_map h (List.mem_of_find?_eq_some hb) ha hkey))

/-- Among distinct keys, the order does not matter. -/
lemma find?_perm (hperm : l.Perm l') (h : (l.map key).Nodup) :
    l.find? (key · = k) = l'.find? (key · = k) := by
  have h' : (l'.map key).Nodup := (hperm.map key).nodup_iff.mp h
  ext a
  rw [find?_key_eq_some_iff h, find?_key_eq_some_iff h', hperm.mem_iff]

end Keys

end Foundation
