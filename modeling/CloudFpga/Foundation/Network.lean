import CloudFpga.Foundation.Persistent

/-!
Networks of processes that communicate over queues of bounded depth. Every queue has one writer and
one reader. In its state a process waits for items in some queues and for room in others, and then
takes one step.

* `Action`: what a process waits for, what it reads, and what it does with that; `Action.Proper`: it
  keeps to the queues of the process.
* `Network`: the processes and the queues between them; `Network.machine`: the processes as labels.
* `persistent`: networks are persistent machines, so the order of the calls does not matter.
* `Action.source`, `Action.sink`: the environment, which gives and takes items when it likes.
-/

namespace Foundation

variable {P C : Type*} {σ : P → Type*} {α : C → Type*} {τ : Type*}

/-- An action of a process with the states `τ`. It waits until the queues in `nonempty` have an item
and those in `notFull` have room. Then it reads the queues in `reads`; it sees the first item of
those in `nonempty`. -/
structure Action (C : Type*) (α : C → Type*) (τ : Type*) where
  nonempty : List C := []
  notFull : List C := []
  reads : List C := []
  act : ((c : C) → α c) → τ × ((c : C) → List (α c))

/-- An action of the process `p` tests and reads queues that `p` reads, and tests queues that `p`
writes for room. -/
structure Action.Proper (reader writer : C → P) (p : P) (a : Action C α τ) : Prop where
  reads : ∀ c ∈ a.reads, c ∈ a.nonempty
  nonempty : ∀ c ∈ a.nonempty, reader c = p
  notFull : ∀ c ∈ a.notFull, writer c = p

/-- The processes, and the queues between them. -/
structure Network (P C : Type*) (σ : P → Type*) (α : C → Type*) where
  reader : C → P
  writer : C → P
  depth : C → ℕ
  action : (p : P) → σ p → Option (Action C α (σ p))
  proper : ∀ {p s a}, action p s = some a → a.Proper reader writer p

namespace Network

/-- The states of the processes, and the queues. -/
@[ext]
structure State (σ : P → Type*) (α : C → Type*) where
  proc : (p : P) → σ p
  chan : (c : C) → List (α c)

variable (N : Network P C σ α)

/-- The action does not have to wait. -/
def Ready (s : State σ α) (a : Action C α τ) : Prop :=
  (∀ c ∈ a.nonempty, 0 < (s.chan c).length) ∧ ∀ c ∈ a.notFull, (s.chan c).length < N.depth c

instance (s : State σ α) (a : Action C α τ) : Decidable (N.Ready s a) :=
  inferInstanceAs (Decidable (_ ∧ _))

/-- A process reads no queue of another one. -/
lemma not_mem_reads {N : Network P C σ α} {p q : P} {t : σ q} {b : Action C α (σ q)} {c : C}
    (hb : N.action q t = some b) (hc : N.reader c = p) (hne : p ≠ q) : c ∉ b.reads :=
  fun h => hne (hc.symm.trans ((N.proper hb).nonempty c ((N.proper hb).reads c h)))

variable [DecidableEq P] [DecidableEq C] [∀ c, Inhabited (α c)]

/-- The first items of the queues that were tested. -/
def heads (chan : (c : C) → List (α c)) (a : Action C α τ) (c : C) : α c :=
  if c ∈ a.nonempty then (chan c).headD default else default

/-- The action of a process. -/
def fire (s : State σ α) (p : P) (a : Action C α (σ p)) : State σ α where
  proc := Function.update s.proc p (a.act (heads s.chan a)).1
  chan c :=
    let rest := if c ∈ a.reads then (s.chan c).tail else s.chan c
    if N.writer c = p then rest ++ (a.act (heads s.chan a)).2 c else rest

/-- The network as a machine. A process that is called takes one step, or it waits. -/
def machine : Machine (State σ α) P where
  step s p := (N.action p (s.proc p)).bind fun a => if N.Ready s a then some (N.fire s p a) else none

variable {N} {s t : State σ α} {p q : P} {c : C}

lemma proc_fire (s : State σ α) (p : P) (a : Action C α (σ p)) :
    (N.fire s p a).proc = Function.update s.proc p (a.act (heads s.chan a)).1 := rfl

lemma chan_fire (s : State σ α) (p : P) (a : Action C α (σ p)) (c : C) :
    (N.fire s p a).chan c =
      if N.writer c = p then
        (if c ∈ a.reads then (s.chan c).tail else s.chan c) ++ (a.act (heads s.chan a)).2 c
      else if c ∈ a.reads then (s.chan c).tail else s.chan c := rfl

lemma machine_step (s : State σ α) (p : P) : N.machine.step s p =
    (N.action p (s.proc p)).bind fun a => if N.Ready s a then some (N.fire s p a) else none := rfl

lemma step_of_ready {a : Action C α (σ p)} (ha : N.action p (s.proc p) = some a)
    (hready : N.Ready s a) : N.machine.step s p = some (N.fire s p a) := by
  rw [machine_step, ha, Option.bind_some, if_pos hready]

/-- A step of a process, by what it does with the states and the queues. -/
lemma reaches_of_fire {a : Action C α (σ p)} (ha : N.action p (s.proc p) = some a)
    (hready : N.Ready s a) (hproc : ∀ q, (N.fire s p a).proc q = t.proc q)
    (hchan : ∀ c, (N.fire s p a).chan c = t.chan c) : N.machine.Reaches s t :=
  .single (k := p) <| by
    rw [step_of_ready ha hready]
    exact congrArg some (State.ext (funext hproc) (funext hchan))

lemma step_eq_some : N.machine.step s p = some t ↔
    ∃ a, N.action p (s.proc p) = some a ∧ N.Ready s a ∧ t = N.fire s p a := by
  rw [machine_step, Option.bind_eq_some_iff]
  refine exists_congr fun a => and_congr_right fun _ => ?_
  rw [Option.ite_none_right_eq_some, Option.some.injEq, eq_comm (b := t)]

lemma step_eq_none_of_action (h : N.action p (s.proc p) = none) : N.machine.step s p = none := by
  rw [machine_step, h, Option.bind_none]

/-- A process that waits for an item. -/
lemma step_eq_none_of_empty {a : Action C α (σ p)} (ha : N.action p (s.proc p) = some a)
    (hc : c ∈ a.nonempty) (hempty : s.chan c = []) : N.machine.step s p = none := by
  rw [machine_step, ha, Option.bind_some, if_neg]
  intro hready
  have hpos := hready.1 c hc
  rw [hempty] at hpos
  exact absurd hpos (Nat.lt_irrefl 0)

/-! ### The order of the steps -/

section Order

variable {a : Action C α (σ p)} {b : Action C α (σ q)}

/-- The queues that a process tests keep their first item, and get no longer than they were where it
needs room. -/
lemma fire_keeps (hne : p ≠ q)
    (hb : N.action q (s.proc q) = some b) :
    (∀ c, N.reader c = p → ∃ items, (N.fire s q b).chan c = s.chan c ++ items) ∧
      ∀ c, N.writer c = p → ((N.fire s q b).chan c).length ≤ (s.chan c).length := by
  refine ⟨fun c hc => ?_, fun c hc => ?_⟩
  · rw [chan_fire, if_neg (not_mem_reads hb hc hne)]
    split
    · exact ⟨_, rfl⟩
    · exact ⟨[], (List.append_nil _).symm⟩
  · rw [chan_fire, if_neg (fun h => hne (hc.symm.trans h))]
    split
    · rw [List.length_tail]
      exact Nat.sub_le _ _
    · exact le_refl _

/-- Another process does not disturb an action that is ready. -/
lemma ready_fire (hne : p ≠ q) (ha : N.action p (s.proc p) = some a) (hready : N.Ready s a)
    (hb : N.action q (s.proc q) = some b) :
    N.action p ((N.fire s q b).proc p) = some a ∧ N.Ready (N.fire s q b) a ∧
      heads (N.fire s q b).chan a = heads s.chan a := by
  obtain ⟨hitems, hroom⟩ := fire_keeps hne hb
  refine ⟨?_, ⟨fun c hc => ?_, fun c hc => ?_⟩, ?_⟩
  · rw [proc_fire, Function.update_of_ne hne]
    exact ha
  · obtain ⟨items, heq⟩ := hitems c ((N.proper ha).nonempty c hc)
    have hpos := hready.1 c hc
    rw [heq, List.length_append]
    omega
  · exact (hroom c ((N.proper ha).notFull c hc)).trans_lt (hready.2 c hc)
  · funext c
    rw [heads, heads]
    split
    · next hc =>
        obtain ⟨items, heq⟩ := hitems c ((N.proper ha).nonempty c hc)
        have hpos := hready.1 c hc
        rw [heq]
        cases hchan : s.chan c with
        | nil => rw [hchan] at hpos; exact absurd hpos (Nat.lt_irrefl 0)
        | cons x xs => rfl
    · rfl

/-- Two actions that are ready can be taken in any order. -/
lemma fire_comm (hne : p ≠ q) (ha : N.action p (s.proc p) = some a) (hready : N.Ready s a)
    (hb : N.action q (s.proc q) = some b) (hready' : N.Ready s b) :
    N.fire (N.fire s q b) p a = N.fire (N.fire s p a) q b := by
  obtain ⟨-, -, hheads⟩ := ready_fire hne ha hready hb
  obtain ⟨-, -, hheads'⟩ := ready_fire hne.symm hb hready' ha
  refine State.ext ?_ (funext fun c => ?_)
  · rw [proc_fire, proc_fire, hheads, proc_fire, proc_fire, hheads']
    exact Function.update_comm hne.symm _ _ _
  · rw [chan_fire, hheads, chan_fire, chan_fire, hheads', chan_fire]
    generalize (a.act (heads s.chan a)).2 c = out, (b.act (heads s.chan b)).2 c = out'
    have hwriter : N.writer c = p → N.writer c ≠ q := fun h h' => hne (h.symm.trans h')
    have hreader : c ∈ a.reads → c ∉ b.reads := fun h =>
      not_mem_reads hb ((N.proper ha).nonempty c ((N.proper ha).reads c h)) hne
    have hpos : c ∈ a.reads ∨ c ∈ b.reads → s.chan c ≠ [] := by
      rintro (h | h)
      · exact List.ne_nil_of_length_pos (hready.1 c ((N.proper ha).reads c h))
      · exact List.ne_nil_of_length_pos (hready'.1 c ((N.proper hb).reads c h))
    by_cases hp : N.writer c = p <;> by_cases hq : N.writer c = q <;>
      by_cases hra : c ∈ a.reads <;> by_cases hrb : c ∈ b.reads <;>
      simp_all [List.tail_append_of_ne_nil]

end Order

variable (N) in
/-- Networks are persistent. -/
theorem persistent : N.machine.Persistent where
  diamond {s a b p q} hne ha hb := by
    obtain ⟨act, hact, hready, rfl⟩ := step_eq_some.mp ha
    obtain ⟨act', hact', hready', rfl⟩ := step_eq_some.mp hb
    obtain ⟨hp, hreadyp, -⟩ := ready_fire hne hact hready hact'
    obtain ⟨hq, hreadyq, -⟩ := ready_fire hne.symm hact' hready' hact
    refine ⟨N.fire (N.fire s p act) q act', step_of_ready hq hreadyq, ?_⟩
    rw [step_of_ready hp hreadyp, fire_comm hne hact hready hact' hready']

end Network

/-! ### The environment -/

namespace Action

variable [DecidableEq C] {c : C}

/-- Only one queue is written, with one item. -/
def write (c : C) (x : α c) : (c : C) → List (α c) := Function.update (fun _ => []) c [x]

/-- The environment writes the items that are left to a queue, one at a time. -/
def source (c : C) : List (α c) → Option (Action C α (List (α c)))
  | [] => none
  | x :: xs => some { notFull := [c], act := fun _ => (xs, write c x) }

/-- The environment takes the items of a queue. -/
def sink (c : C) (taken : List (α c)) : Action C α (List (α c)) where
  nonempty := [c]
  reads := [c]
  act read := (taken ++ [read c], fun _ => [])

end Action

end Foundation
