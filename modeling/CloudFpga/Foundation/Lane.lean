import Mathlib.Tactic

/-!
Items that are served one after the other, behind two queues: the requests of the items that are
not served yet, and the results of those that are.

* `Lane`: the queues agree with the items that are under way.
* `Lane.push`, `Lane.serve`, `Lane.pop`: an item comes in, is served, leaves.
-/

namespace Foundation

variable {α β γ : Type*}

/-- The items under way: the first ones have a result, that `R` relates to them, the others a
request. -/
def Lane (R : α → β → Prop) (request : α → γ) (items : List α) (results : List β)
    (requests : List γ) : Prop :=
  ∃ served waiting, items = served ++ waiting ∧ List.Forall₂ R served results ∧
    waiting.map request = requests

variable {R S : α → β → Prop} {request : α → γ} {items : List α} {results : List β}
  {requests : List γ} {a : α} {b : β} {c : γ}

namespace Lane

lemma nil : Lane R request [] [] [] := ⟨[], [], rfl, .nil, rfl⟩

lemma mono (hRS : ∀ a b, R a b → S a b) (h : Lane R request items results requests) :
    Lane S request items results requests := by
  obtain ⟨served, waiting, rfl, hserved, rfl⟩ := h
  exact ⟨served, waiting, rfl, hserved.imp hRS, rfl⟩

/-- An item that comes in puts its request behind the others. -/
lemma push (h : Lane R request items results requests) (a : α) :
    Lane R request (items ++ [a]) results (requests ++ [request a]) := by
  obtain ⟨served, waiting, rfl, hserved, rfl⟩ := h
  exact ⟨served, waiting ++ [a], by simp, hserved, by simp⟩

/-- The first request is served. -/
lemma serve (h : Lane R request items results (c :: requests))
    (hR : ∀ a ∈ items, request a = c → R a b) :
    Lane R request items (results ++ [b]) requests := by
  obtain ⟨served, waiting, rfl, hserved, hwaiting⟩ := h
  cases waiting with
  | nil => cases hwaiting
  | cons a waiting =>
      rw [List.map_cons, List.cons.injEq] at hwaiting
      refine ⟨served ++ [a], waiting, by simp, ?_, hwaiting.2⟩
      have ha : R a b := hR a (by simp) hwaiting.1
      exact List.rel_append hserved (.cons ha .nil)

/-- The item of the first result leaves. -/
lemma pop (h : Lane R request (a :: items) (b :: results) requests) :
    R a b ∧ Lane R request items results requests := by
  obtain ⟨served, waiting, heq, hserved, hwaiting⟩ := h
  cases hserved with
  | cons hR hserved =>
      rw [List.cons_append, List.cons.injEq] at heq
      obtain ⟨rfl, rfl⟩ := heq
      exact ⟨hR, _, waiting, rfl, hserved, hwaiting⟩

/-- Every item under way has a result or a request. -/
lemma length (h : Lane R request items results requests) :
    items.length = results.length + requests.length := by
  obtain ⟨served, waiting, rfl, hserved, rfl⟩ := h
  rw [List.length_append, hserved.length_eq, List.length_map]

end Lane

end Foundation
