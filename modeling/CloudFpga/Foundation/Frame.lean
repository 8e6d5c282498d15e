import CloudFpga.Foundation.Packet

/-!
Frames: a head, with the items up to the next marked one. Heads and items travel in two streams.

* `heads`, `items`: the two streams of some frames.
* `Framed`: all frames but the last one are complete.
* `start`, `push`: a frame begins, and the last frame goes on.
* `Carries`: what was sent and is not received yet is in the two streams.
* `Carries.follows`: frames that were put together again from a part of the two streams are the
  first ones that were sent, the last of them possibly not to its end.
-/

namespace Foundation

/-- A head and the items that belong to it. -/
structure Frame (η α : Type*) where
  head : η
  body : List α
  deriving DecidableEq

namespace Frame

variable {η α : Type*} (last : α → Bool)

/-- The last item is marked, and no other one. -/
def Complete (f : Frame η α) : Prop := IsPacket last f.body

/-- No item is marked yet. -/
def Open (f : Frame η α) : Prop := ∀ x ∈ f.body, last x = false

def heads (fs : List (Frame η α)) : List η := fs.map head

def items (fs : List (Frame η α)) : List α := fs.flatMap body

/-- All frames but the last one are complete, which is complete or open. -/
def Framed : List (Frame η α) → Prop
  | [] => True
  | f :: fs => f.Complete last ∧ Framed fs ∨ f.Open last ∧ fs = []

/-- A frame begins. -/
def start (fs : List (Frame η α)) (h : η) : List (Frame η α) := fs ++ [⟨h, []⟩]

/-- The last frame gets an item. -/
def push : List (Frame η α) → α → List (Frame η α)
  | [], _ => []
  | [f], x => [{ f with body := f.body ++ [x] }]
  | f :: g :: fs, x => f :: push (g :: fs) x

@[simp] lemma heads_append (fs gs : List (Frame η α)) : heads (fs ++ gs) = heads fs ++ heads gs :=
  List.map_append

@[simp] lemma items_append (fs gs : List (Frame η α)) : items (fs ++ gs) = items fs ++ items gs :=
  List.flatMap_append

@[simp] lemma heads_nil : heads ([] : List (Frame η α)) = [] := rfl

@[simp] lemma items_nil : items ([] : List (Frame η α)) = [] := rfl

@[simp] lemma heads_cons (f : Frame η α) (fs : List (Frame η α)) :
    heads (f :: fs) = f.head :: heads fs := rfl

@[simp] lemma items_cons (f : Frame η α) (fs : List (Frame η α)) :
    items (f :: fs) = f.body ++ items fs := rfl

@[simp] lemma heads_start (fs : List (Frame η α)) (h : η) :
    heads (start fs h) = heads fs ++ [h] := by
  simp [start]

@[simp] lemma items_start (fs : List (Frame η α)) (h : η) : items (start fs h) = items fs := by
  simp [start]

lemma push_append (fs : List (Frame η α)) (f : Frame η α) (x : α) :
    push (fs ++ [f]) x = fs ++ [{ f with body := f.body ++ [x] }] := by
  induction fs with
  | nil => rfl
  | cons g fs ih =>
      cases fs with
      | nil => rfl
      | cons g' fs => exact congrArg (List.cons g) ih

lemma push_start (fs : List (Frame η α)) (h : η) (x : α) :
    push (start fs h) x = fs ++ [⟨h, [x]⟩] := push_append fs ⟨h, []⟩ x

@[simp] lemma heads_push (fs : List (Frame η α)) (x : α) : heads (push fs x) = heads fs := by
  cases fs using List.reverseRecOn with
  | nil => rfl
  | append_singleton fs f _ => simp [push_append]

lemma items_push {fs : List (Frame η α)} (h : fs ≠ []) (x : α) :
    items (push fs x) = items fs ++ [x] := by
  cases fs using List.reverseRecOn with
  | nil => exact absurd rfl h
  | append_singleton fs f _ => simp [push_append]

variable {last} {fs pre : List (Frame η α)} {f : Frame η α}

lemma Open.not_complete (h : f.Open last) : ¬f.Complete last := by
  rintro hc
  obtain ⟨body, x, hbody⟩ := (List.eq_nil_or_concat f.body).resolve_left hc.ne_nil
  rw [List.concat_eq_append] at hbody
  have hpacket : IsPacket last (body ++ [x]) := hbody ▸ hc
  have hnone : ∀ y ∈ body ++ [x], last y = false := hbody ▸ h
  clear hc h hbody
  induction body with
  | nil =>
      rw [List.nil_append, isPacket_cons_of_not_last (hnone x (by simp))] at hpacket
      exact hpacket
  | cons y body ih =>
      rw [List.cons_append, isPacket_cons_of_not_last (hnone y (by simp))] at hpacket
      exact ih hpacket fun z hz => hnone z (List.mem_cons_of_mem y hz)

/-- A marked item completes an open frame. -/
lemma Open.complete (h : f.Open last) {x : α} (hx : last x = true) :
    Complete last { f with body := f.body ++ [x] } :=
  IsPacket.append h ((isPacket_cons_of_last hx).mpr rfl)

/-- Another one leaves it open. -/
lemma Open.push (h : f.Open last) {x : α} (hx : last x = false) :
    Open last { f with body := f.body ++ [x] } := by
  intro y hy
  rcases List.mem_append.mp hy with hy | hy
  · exact h y hy
  · rw [List.mem_singleton.mp hy]
    exact hx

lemma framed_of_complete (h : ∀ f ∈ fs, f.Complete last) : Framed last fs := by
  induction fs with
  | nil => trivial
  | cons f fs ih =>
      exact .inl ⟨h f List.mem_cons_self, ih fun g hg => h g (List.mem_cons_of_mem f hg)⟩

lemma framed_of_open (h : ∀ f ∈ pre, f.Complete last) (hf : f.Open last) :
    Framed last (pre ++ [f]) := by
  induction pre with
  | nil => exact .inr ⟨hf, rfl⟩
  | cons g pre ih =>
      exact .inl ⟨h g List.mem_cons_self, ih fun g' hg => h g' (List.mem_cons_of_mem g hg)⟩

/-- Complete frames that agree with the beginning of the two streams are the first ones. -/
theorem Framed.aligned (hfs : Framed last fs) (hpre : ∀ f ∈ pre, f.Complete last) {hs : List η}
    {xs : List α} (hheads : heads fs = heads pre ++ hs) (hitems : items fs = items pre ++ xs) :
    ∃ post, fs = pre ++ post ∧ Framed last post ∧ heads post = hs ∧ items post = xs := by
  induction pre generalizing fs with
  | nil => exact ⟨fs, rfl, hfs, hheads, hitems⟩
  | cons p pre ih =>
      have hp := hpre p List.mem_cons_self
      cases fs with
      | nil => cases hheads
      | cons f fs =>
          rw [heads_cons, heads_cons, List.cons_append, List.cons.injEq] at hheads
          rw [items_cons, items_cons, List.append_assoc] at hitems
          rcases hfs with ⟨hf, hfs⟩ | ⟨hf, rfl⟩
          · obtain ⟨hbody, hrest⟩ := IsPacket.append_inj hf hp hitems
            obtain ⟨post, rfl, hpost⟩ := ih hfs (fun g hg => hpre g (List.mem_cons_of_mem p hg))
              hheads.2 hrest
            have hfp : f = p := by
              cases f
              cases p
              cases hheads.1
              cases hbody
              rfl
            exact ⟨post, by rw [hfp, List.cons_append], hpost⟩
          · -- the frame `p` would hold a marked item of an open frame
            rw [items_nil, List.append_nil] at hitems
            have hopen : p.Open last := fun x hx => hf x (hitems ▸ List.mem_append_left _ hx)
            exact absurd hp hopen.not_complete

/-- The same with an open frame behind them, which is the beginning of the frame that was sent. -/
theorem Framed.aligned_open (hfs : Framed last fs) (hpre : ∀ f ∈ pre, f.Complete last)
    (hf : f.Open last) {hs : List η} {xs : List α} (hheads : heads fs = heads (pre ++ [f]) ++ hs)
    (hitems : items fs = items (pre ++ [f]) ++ xs) :
    ∃ g rest post, fs = pre ++ g :: post ∧ Framed last (g :: post) ∧ g.head = f.head ∧
      g.body = f.body ++ rest ∧ xs = rest ++ items post ∧ hs = heads post := by
  rw [heads_append, List.append_assoc] at hheads
  rw [items_append, List.append_assoc] at hitems
  obtain ⟨post, rfl, hpost, hheads, hitems⟩ := hfs.aligned hpre hheads hitems
  cases post with
  | nil => cases hheads
  | cons g post =>
      rw [heads_cons, heads_cons, heads_nil, List.cons_append, List.nil_append,
        List.cons.injEq] at hheads
      rw [items_cons, items_cons, items_nil, List.append_nil] at hitems
      rcases hpost with ⟨hg, hpost⟩ | ⟨hg, rfl⟩
      · obtain ⟨rest, hrest⟩ := hg.bound (fun x hx => hf x (List.dropLast_subset _ hx)) hitems
        refine ⟨g, rest, post, rfl, .inl ⟨hg, hpost⟩, hheads.1, hrest.symm, ?_, hheads.2.symm⟩
        rw [← hrest, List.append_assoc] at hitems
        exact (List.append_cancel_left hitems).symm
      · rw [items_nil, List.append_nil] at hitems
        exact ⟨g, xs, [], rfl, .inr ⟨hg, rfl⟩, hheads.1, hitems, by simp, hheads.2.symm⟩

/-! ### Ended and current frames -/

/-- All frames are complete. -/
def Ended (last : α → Bool) (fs : List (Frame η α)) : Prop := ∀ f ∈ fs, f.Complete last

/-- The last frame is `t`, which is open, and the others are complete. -/
def Current (last : α → Bool) (fs : List (Frame η α)) (t : Frame η α) : Prop :=
  ∃ pre, fs = pre ++ [t] ∧ Ended last pre ∧ t.Open last

variable {t : Frame η α} {h : η} {x : α}

lemma Ended.framed (hfs : Ended last fs) : Framed last fs := framed_of_complete hfs

lemma Ended.of_sublist {gs : List (Frame η α)} (hgs : Ended last gs) (hsub : fs.Sublist gs) :
    Ended last fs := fun f hf => hgs f (hsub.subset hf)

lemma Current.framed (hfs : Current last fs t) : Framed last fs := by
  obtain ⟨pre, rfl, hpre, ht⟩ := hfs
  exact framed_of_open hpre ht

lemma Current.ne_nil (hfs : Current last fs t) : fs ≠ [] := by
  obtain ⟨pre, rfl, -⟩ := hfs
  simp

lemma Current.mem (hfs : Current last fs t) : t ∈ fs := by
  obtain ⟨pre, rfl, -⟩ := hfs
  simp

lemma Current.not_ended (hfs : Current last fs t) : ¬Ended last fs := by
  intro hend
  obtain ⟨pre, -, -, ht⟩ := id hfs
  exact ht.not_complete (hend t hfs.mem)

lemma Ended.start (hfs : Ended last fs) : Current last (start fs h) ⟨h, []⟩ :=
  ⟨fs, rfl, hfs, fun _ hx => absurd hx List.not_mem_nil⟩

lemma Current.push (hfs : Current last fs t) (hx : last x = false) :
    Current last (push fs x) { t with body := t.body ++ [x] } := by
  obtain ⟨pre, rfl, hpre, ht⟩ := hfs
  exact ⟨pre, push_append pre t x, hpre, ht.push hx⟩

lemma Current.push_last (hfs : Current last fs t) (hx : last x = true) :
    Ended last (Frame.push fs x) := by
  obtain ⟨pre, rfl, hpre, ht⟩ := hfs
  rw [push_append]
  intro f hf
  rcases List.mem_append.mp hf with hf | hf
  · exact hpre f hf
  · rw [List.mem_singleton.mp hf]
    exact ht.complete hx

/-- A frame after an item: an old one, or the current one with the item. -/
lemma Current.mem_push (hfs : Current last fs t) (hf : f ∈ Frame.push fs x) :
    f ∈ fs ∨ f = { t with body := t.body ++ [x] } := by
  obtain ⟨pre, rfl, -⟩ := hfs
  rw [push_append] at hf
  exact (List.mem_append.mp hf).imp (List.mem_append_left _) List.mem_singleton.mp

/-! ### Two streams between a sender and a receiver -/

/-- Of the frames `fs` that were sent the receiver has `ts`. The heads `hs` and the items `xs` are
in the streams. -/
structure Carries (fs ts : List (Frame η α)) (hs : List η) (xs : List α) : Prop where
  heads : heads fs = Frame.heads ts ++ hs
  items : items fs = Frame.items ts ++ xs

/-- `ts` are the first of `fs`, the last of them possibly not to its end. -/
def Follows : List (Frame η α) → List (Frame η α) → Prop
  | [], _ => True
  | _ :: _, [] => False
  | t :: ts, f :: fs =>
      t.head = f.head ∧ (t.body = f.body ∧ Follows ts fs ∨ t.body <+: f.body ∧ ts = [])

variable {ts : List (Frame η α)} {hs : List η} {xs : List α}

lemma follows_append (pre fs : List (Frame η α)) : Follows pre (pre ++ fs) := by
  induction pre with
  | nil => trivial
  | cons p pre ih => exact ⟨rfl, .inl ⟨rfl, ih⟩⟩

lemma follows_append_open (pre fs : List (Frame η α)) (hhead : f.head = t.head)
    (hbody : t.body <+: f.body) : Follows (pre ++ [t]) (pre ++ f :: fs) := by
  induction pre with
  | nil => exact ⟨hhead.symm, .inr ⟨hbody, rfl⟩⟩
  | cons p pre ih => exact ⟨rfl, .inl ⟨rfl, ih⟩⟩

lemma Follows.mem (h : Follows ts fs) (ht : t ∈ ts) :
    ∃ f ∈ fs, t.head = f.head ∧ t.body <+: f.body := by
  induction ts generalizing fs with
  | nil => cases ht
  | cons u ts ih =>
      cases fs with
      | nil => exact h.elim
      | cons f fs =>
          obtain ⟨hhead, ⟨hbody, hrest⟩ | ⟨hbody, rfl⟩⟩ := h
          · rcases List.mem_cons.mp ht with rfl | ht
            · exact ⟨f, List.mem_cons_self, hhead, hbody ▸ List.prefix_rfl⟩
            · obtain ⟨g, hg, hgt⟩ := ih hrest ht
              exact ⟨g, List.mem_cons_of_mem f hg, hgt⟩
          · rw [List.mem_singleton.mp ht]
            exact ⟨f, List.mem_cons_self, hhead, hbody⟩

namespace Carries

lemma start_sender (h : Carries fs ts hs xs) (a : η) : Carries (start fs a) ts (hs ++ [a]) xs :=
  ⟨by rw [heads_start, h.heads, List.append_assoc], by rw [items_start, h.items]⟩

lemma push_sender (h : Carries fs ts hs xs) (hfs : fs ≠ []) (x : α) :
    Carries (push fs x) ts hs (xs ++ [x]) :=
  ⟨by rw [heads_push, h.heads], by rw [items_push hfs, h.items, List.append_assoc]⟩

lemma start_receiver {a : η} (h : Carries fs ts (a :: hs) xs) : Carries fs (start ts a) hs xs :=
  ⟨by rw [heads_start, h.heads, List.append_assoc, List.singleton_append],
    by rw [items_start, h.items]⟩

lemma push_receiver {x : α} (h : Carries fs ts hs (x :: xs)) (hts : ts ≠ []) :
    Carries fs (push ts x) hs xs :=
  ⟨by rw [heads_push, h.heads],
    by rw [items_push hts, h.items, List.append_assoc, List.singleton_append]⟩

/-- A whole frame is sent. -/
lemma append_sender (h : Carries fs ts hs xs) (f : Frame η α) :
    Carries (fs ++ [f]) ts (hs ++ [f.head]) (xs ++ f.body) :=
  ⟨by rw [heads_append, h.heads, List.append_assoc]; rfl,
    by rw [items_append, h.items, List.append_assoc, items_cons, items_nil, List.append_nil]⟩

/-- What was received complete is the beginning of what was sent. -/
theorem follows (h : Carries fs ts hs xs) (hfs : Framed last fs) (hts : Ended last ts) :
    Follows ts fs := by
  obtain ⟨post, rfl, -⟩ := hfs.aligned hts h.heads h.items
  exact follows_append ts post

/-- The same while a frame is received. -/
theorem follows_current (h : Carries fs ts hs xs) (hfs : Framed last fs)
    (hts : Current last ts t) : Follows ts fs := by
  obtain ⟨pre, rfl, hpre, ht⟩ := hts
  obtain ⟨g, rest, post, rfl, -, hhead, hbody, -⟩ := hfs.aligned_open hpre ht h.heads h.items
  exact follows_append_open pre post hhead ⟨rest, hbody.symm⟩

/-- While a frame is received, an item of it is in the stream, if all frames were sent to their
end. -/
theorem items_ne_nil (h : Carries fs ts hs xs) (hfs : Ended last fs) (hts : Current last ts t) :
    xs ≠ [] := by
  rintro rfl
  obtain ⟨pre, rfl, hpre, ht⟩ := hts
  obtain ⟨g, rest, post, rfl, -, -, hbody, hnil, -⟩ :=
    hfs.framed.aligned_open hpre ht h.heads h.items
  obtain ⟨rfl, -⟩ := List.append_eq_nil_iff.mp hnil.symm
  rw [List.append_nil] at hbody
  have hopen : g.Open last := by
    rw [Frame.Open, hbody]
    exact ht
  exact hopen.not_complete (hfs g (by simp))

/-- The next item belongs to the frame that is received. -/
theorem next (h : Carries fs ts hs (x :: xs)) (hfs : Framed last fs) (hts : Current last ts t) :
    ∃ g ∈ fs, g.head = t.head ∧ t.body ++ [x] <+: g.body := by
  obtain ⟨pre, rfl, hpre, ht⟩ := hts
  obtain ⟨g, rest, post, rfl, hg, hhead, hbody, hxs, -⟩ := hfs.aligned_open hpre ht h.heads h.items
  refine ⟨g, by simp, hhead, ?_⟩
  cases rest with
  | nil =>
      -- the frame that was sent is open as well, so that nothing is behind it
      have hopen : g.Open last := by
        rw [Frame.Open, hbody, List.append_nil]
        exact ht
      rcases hg with ⟨hcomplete, -⟩ | ⟨-, rfl⟩
      · exact absurd hcomplete hopen.not_complete
      · cases hxs
  | cons y rest =>
      obtain ⟨rfl, -⟩ := List.cons.inj hxs
      exact ⟨rest, by rw [hbody, List.append_assoc, List.singleton_append]⟩

end Carries

end Frame

end Foundation
