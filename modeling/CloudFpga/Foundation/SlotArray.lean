import Mathlib.Data.List.Lookmap
import Mathlib.Tactic

/-!
Arrays of slots, each of which holds a key and a value or is free.

* `lookup`: the value of the first slot with the key; `store`: the first free slot is filled;
  `discard`: the first slot with the key is freed; `assign`: its value is replaced.
* `Distinct`: no two slots hold the same key.
* `lookup_store`, `lookup_discard`, `lookup_assign`: on such an array the operations are those of a
  map, as long as a new key is stored and a slot is free; `distinct_store_iff`.
* `length_le_of_lookup`: distinct keys that are held are no more than the slots.
-/

namespace Foundation

variable {κ ν : Type*}

/-- A slot of the array; it is free unless it is valid. -/
structure Slot (κ ν : Type*) where
  key : κ
  value : ν
  valid : Bool
  deriving DecidableEq

namespace Slot

/-- The slot holds the key. -/
def Holds (e : Slot κ ν) (k : κ) : Prop := e.valid = true ∧ e.key = k

instance [DecidableEq κ] (e : Slot κ ν) (k : κ) : Decidable (e.Holds k) :=
  inferInstanceAs (Decidable (_ ∧ _))

end Slot

namespace SlotArray

def lookup [DecidableEq κ] (k : κ) (es : List (Slot κ ν)) : Option ν :=
  (es.find? (·.Holds k)).map (·.value)

/-- A slot is free. -/
def HasFree (es : List (Slot κ ν)) : Prop := ∃ e ∈ es, e.valid = false

instance (es : List (Slot κ ν)) : Decidable (HasFree es) :=
  inferInstanceAs (Decidable (∃ e ∈ es, _))

def store (k : κ) (v : ν) (es : List (Slot κ ν)) : List (Slot κ ν) :=
  es.lookmap fun e => if e.valid then none else some ⟨k, v, true⟩

def discard [DecidableEq κ] (k : κ) (es : List (Slot κ ν)) : List (Slot κ ν) :=
  es.lookmap fun e => if e.Holds k then some { e with valid := false } else none

def assign [DecidableEq κ] (k : κ) (v : ν) (es : List (Slot κ ν)) : List (Slot κ ν) :=
  es.lookmap fun e => if e.Holds k then some { e with value := v } else none

/-- No two slots hold the same key. -/
def Distinct (es : List (Slot κ ν)) : Prop :=
  es.Pairwise fun e f => e.valid = true → f.valid = true → e.key ≠ f.key

instance [DecidableEq κ] (es : List (Slot κ ν)) : Decidable (Distinct es) :=
  inferInstanceAs (Decidable (es.Pairwise _))

section Store

variable {k : κ} {v : ν} {e : Slot κ ν} {es : List (Slot κ ν)}

lemma store_cons (e : Slot κ ν) (es : List (Slot κ ν)) :
    store k v (e :: es) = if e.valid then e :: store k v es else ⟨k, v, true⟩ :: es := by
  split
  · next h => exact List.lookmap_cons_none _ _ (by rw [if_pos h])
  · next h => exact List.lookmap_cons_some _ _ (by rw [if_neg h])

@[simp] lemma length_store : (store k v es).length = es.length := List.length_lookmap _ _

/-- A full array stays as it is. -/
lemma store_of_full (h : ¬HasFree es) : store k v es = es := by
  refine List.lookmap_of_forall_not _ fun e he => if_pos ?_
  by_contra hv
  exact h ⟨e, he, by simpa using hv⟩

/-- A free slot behind a valid one. -/
lemma HasFree.tail {f : Slot κ ν} {fs : List (Slot κ ν)} (h : HasFree (f :: fs))
    (hf : f.valid = true) : HasFree fs := by
  obtain ⟨g, hg, hgv⟩ := h
  obtain rfl | hg := List.mem_cons.mp hg
  · rw [hf] at hgv
    cases hgv
  · exact ⟨g, hg, hgv⟩

/-- The slots after a store: the new one, and those that were valid. -/
lemma mem_store (h : HasFree es) (hv : e.valid = true) :
    e ∈ store k v es ↔ e = ⟨k, v, true⟩ ∨ e ∈ es := by
  induction es with
  | nil =>
      obtain ⟨f, hf, -⟩ := h
      cases hf
  | cons f fs ih =>
      rw [store_cons]
      split
      · next hf =>
          have hfs := h.tail hf
          rw [List.mem_cons, List.mem_cons, ih hfs]
          tauto
      · next hf =>
          have hne : e ≠ f := by
            rintro rfl
            exact hf hv
          rw [List.mem_cons, List.mem_cons]
          tauto

end Store

variable [DecidableEq κ] {k k' : κ} {v : ν} {e : Slot κ ν} {es : List (Slot κ ν)}

lemma lookup_cons (e : Slot κ ν) (es : List (Slot κ ν)) :
    lookup k (e :: es) = if e.Holds k then some e.value else lookup k es := by
  rw [lookup, List.find?_cons]
  by_cases h : e.Holds k <;> simp [h, lookup]

lemma lookup_eq_none_iff : lookup k es = none ↔ ∀ e ∈ es, ¬e.Holds k := by
  simp [lookup]

lemma discard_cons (e : Slot κ ν) (es : List (Slot κ ν)) :
    discard k (e :: es) =
      if e.Holds k then { e with valid := false } :: es else e :: discard k es := by
  split
  · next h => exact List.lookmap_cons_some _ _ (by rw [if_pos h])
  · next h => exact List.lookmap_cons_none _ _ (by rw [if_neg h])

@[simp] lemma length_discard : (discard k es).length = es.length := List.length_lookmap _ _

/-- A new key leaves the keys distinct, and no other does. -/
theorem distinct_store_iff (hd : Distinct es) (h : HasFree es) :
    Distinct (store k v es) ↔ lookup k es = none := by
  induction es with
  | nil =>
      obtain ⟨f, hf, -⟩ := h
      cases hf
  | cons f fs ih =>
      obtain ⟨hfirst, hrest⟩ := List.pairwise_cons.mp hd
      rw [store_cons, lookup_cons]
      split
      · next hf =>
          have hfs := h.tail hf
          have hhead : (∀ g ∈ store k v fs, f.valid = true → g.valid = true → f.key ≠ g.key) ↔
              ¬f.Holds k := by
            constructor
            · intro hg hk
              exact hg ⟨k, v, true⟩ ((mem_store hfs rfl).mpr (.inl rfl)) hf rfl hk.2
            · intro hk g hg _ hgv
              obtain rfl | hg := (mem_store hfs hgv).mp hg
              · exact fun heq => hk ⟨hf, heq⟩
              · exact hfirst g hg hf hgv
          rw [Distinct, List.pairwise_cons, hhead, ← Distinct, ih hrest hfs]
          by_cases hk : f.Holds k <;> simp [hk]
      · next hf =>
          have hk : ¬f.Holds k := fun hk => hf hk.1
          rw [if_neg hk, lookup_eq_none_iff, Distinct, List.pairwise_cons]
          constructor
          · intro hnew g hg hgk
            exact hnew.1 g hg rfl hgk.1 hgk.2.symm
          · intro hnone
            exact ⟨fun g hg _ hgv heq => hnone g hg ⟨hgv, heq.symm⟩, hrest⟩

/-- A store of a new key. -/
theorem lookup_store (h : HasFree es) (hnew : lookup k es = none) :
    lookup k' (store k v es) = if k' = k then some v else lookup k' es := by
  induction es with
  | nil =>
      obtain ⟨f, hf, -⟩ := h
      cases hf
  | cons f fs ih =>
      rw [lookup_cons] at hnew
      have hk : ¬f.Holds k := fun hk => by simp [hk] at hnew
      rw [if_neg hk] at hnew
      rw [store_cons]
      split
      · next hf =>
          have hfs := h.tail hf
          rw [lookup_cons, lookup_cons, ih hfs hnew]
          by_cases hk' : f.Holds k'
          · have hne : k' ≠ k := by
              rintro rfl
              exact hk hk'
            simp [hk', hne]
          · simp [hk']
      · next hf =>
          have hk' : ¬f.Holds k' := fun hk' => hf hk'.1
          rw [lookup_cons, lookup_cons, if_neg hk']
          by_cases heq : k' = k
          · simp [heq, Slot.Holds]
          · simp [heq, Slot.Holds, Ne.symm heq]

lemma valid_discard (he : e ∈ discard k es) (hv : e.valid = true) : e ∈ es := by
  induction es with
  | nil => exact he
  | cons f fs ih =>
      rw [discard_cons] at he
      split at he
      · obtain rfl | he := List.mem_cons.mp he
        · cases hv
        · exact List.mem_cons_of_mem f he
      · obtain rfl | he := List.mem_cons.mp he
        · exact List.mem_cons_self
        · exact List.mem_cons_of_mem f (ih he)

theorem distinct_discard (hd : Distinct es) : Distinct (discard k es) := by
  induction es with
  | nil => exact hd
  | cons f fs ih =>
      obtain ⟨hfirst, hrest⟩ := List.pairwise_cons.mp hd
      rw [discard_cons]
      split
      · exact List.pairwise_cons.mpr ⟨(fun g _ hf => by cases hf), hrest⟩
      · refine List.pairwise_cons.mpr ⟨fun g hg hf hgv => ?_, ih hrest⟩
        exact hfirst g (valid_discard hg hgv) hf hgv

/-- The key is gone, if it was held once. -/
theorem lookup_discard (hd : Distinct es) :
    lookup k' (discard k es) = if k' = k then none else lookup k' es := by
  induction es with
  | nil => simp [lookup, discard]
  | cons f fs ih =>
      obtain ⟨hfirst, hrest⟩ := List.pairwise_cons.mp hd
      rw [discard_cons]
      split
      · next hk =>
          have hfree : ¬Slot.Holds { f with valid := false } k' := fun h => by cases h.1
          rw [lookup_cons, if_neg hfree, lookup_cons]
          by_cases heq : k' = k
          · subst heq
            rw [if_pos rfl, lookup_eq_none_iff]
            exact fun g hg hgk => hfirst g hg hk.1 hgk.1 (hk.2.trans hgk.2.symm)
          · have hne : ¬f.Holds k' := fun h => heq (h.2.symm.trans hk.2)
            rw [if_neg heq, if_neg hne]
      · next hk =>
          rw [lookup_cons, lookup_cons, ih hrest]
          by_cases heq : k' = k
          · subst heq
            simp [hk]
          · simp [heq]

lemma assign_cons (e : Slot κ ν) (es : List (Slot κ ν)) :
    assign k v (e :: es) = if e.Holds k then { e with value := v } :: es else e :: assign k v es := by
  split
  · next h => exact List.lookmap_cons_some _ _ (by rw [if_pos h])
  · next h => exact List.lookmap_cons_none _ _ (by rw [if_neg h])

@[simp] lemma length_assign : (assign k v es).length = es.length := List.length_lookmap _ _

/-- The slots keep their keys. -/
lemma exists_of_mem_assign (he : e ∈ assign k v es) :
    ∃ f ∈ es, f.key = e.key ∧ f.valid = e.valid := by
  induction es with
  | nil => cases he
  | cons f fs ih =>
      rw [assign_cons] at he
      split at he
      · obtain rfl | he := List.mem_cons.mp he
        · exact ⟨f, List.mem_cons_self, rfl, rfl⟩
        · exact ⟨e, List.mem_cons_of_mem f he, rfl, rfl⟩
      · obtain rfl | he := List.mem_cons.mp he
        · exact ⟨e, List.mem_cons_self, rfl, rfl⟩
        · obtain ⟨g, hg, hkey, hvalid⟩ := ih he
          exact ⟨g, List.mem_cons_of_mem f hg, hkey, hvalid⟩

theorem distinct_assign (hd : Distinct es) : Distinct (assign k v es) := by
  induction es with
  | nil => exact hd
  | cons f fs ih =>
      obtain ⟨hfirst, hrest⟩ := List.pairwise_cons.mp hd
      rw [assign_cons]
      split
      · exact List.pairwise_cons.mpr ⟨hfirst, hrest⟩
      · refine List.pairwise_cons.mpr ⟨fun g hg hf hgv => ?_, ih hrest⟩
        obtain ⟨g', hg', hkey, hvalid⟩ := exists_of_mem_assign hg
        rw [← hkey]
        exact hfirst g' hg' hf (hvalid.trans hgv)

/-- The key gets the value, if it is held. -/
theorem lookup_assign :
    lookup k' (assign k v es)
      = if k' = k then (lookup k es).map fun _ => v else lookup k' es := by
  induction es with
  | nil => simp [lookup, assign]
  | cons f fs ih =>
      rw [assign_cons]
      split
      · next hk =>
          rw [lookup_cons, lookup_cons, lookup_cons, if_pos hk]
          by_cases heq : k' = k
          · subst heq
            have hk' : Slot.Holds { f with value := v } k' := hk
            rw [if_pos hk', if_pos rfl]
            rfl
          · have hne : ¬f.Holds k' := fun h => heq (h.2.symm.trans hk.2)
            have hne' : ¬Slot.Holds { f with value := v } k' := hne
            rw [if_neg heq, if_neg hne, if_neg hne']
      · next hk =>
          rw [lookup_cons, ih, lookup_cons, lookup_cons, if_neg hk]
          by_cases heq : k' = k
          · subst heq
            rw [if_neg hk, if_pos rfl, if_pos rfl]
          · rw [if_neg heq, if_neg heq]

lemma exists_of_lookup (h : lookup k es = some v) : ∃ e ∈ es, e.Holds k ∧ e.value = v := by
  rw [lookup, Option.map_eq_some_iff] at h
  obtain ⟨e, he, hv⟩ := h
  exact ⟨e, List.mem_of_find?_eq_some he, by simpa using List.find?_some he, hv⟩

/-- Distinct keys that are held are no more than the slots. -/
theorem length_le_of_lookup {ks : List κ} (hks : ks.Nodup)
    (h : ∀ k ∈ ks, (lookup k es).isSome = true) : ks.length ≤ es.length := by
  have hsub : ks ⊆ es.map (·.key) := by
    intro k hk
    obtain ⟨v, hv⟩ := Option.isSome_iff_exists.mp (h k hk)
    obtain ⟨e, he, hkey, -⟩ := exists_of_lookup hv
    exact List.mem_map.mpr ⟨e, he, hkey.2⟩
  have hle := (hks.subperm hsub).length_le
  rwa [List.length_map] at hle

/-- An array that holds fewer distinct keys than it has slots has a free slot. -/
theorem hasFree_of_lookup {ks : List κ} (hd : Distinct es)
    (h : ∀ k, (lookup k es).isSome = true → k ∈ ks) (hlt : ks.length < es.length) :
    HasFree es := by
  by_contra hfull
  have hvalid : ∀ e ∈ es, e.valid = true := by
    intro e he
    by_contra hv
    exact hfull ⟨e, he, by simpa using hv⟩
  have hnodup : (es.map (·.key)).Nodup := by
    rw [List.nodup_iff_pairwise_ne, List.pairwise_map]
    refine hd.imp_of_mem fun he hf hne => hne (hvalid _ he) (hvalid _ hf)
  have hsub : es.map (·.key) ⊆ ks := by
    intro k hk
    obtain ⟨e, he, rfl⟩ := List.mem_map.mp hk
    refine h e.key ?_
    by_contra hnone
    rw [Bool.not_eq_true, Option.isSome_eq_false_iff, Option.isNone_iff_eq_none,
      lookup_eq_none_iff] at hnone
    exact hnone e he ⟨hvalid e he, rfl⟩
  have hle := (hnodup.subperm hsub).length_le
  rw [List.length_map] at hle
  omega

end SlotArray

end Foundation
