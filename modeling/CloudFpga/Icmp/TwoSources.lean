import CloudFpga.Foundation.Transducer
import CloudFpga.Icmp.Inserter

/-!
The checksum inserter between its two sources: the echo replies and the control messages share
`soIPTX_Data`.

* `iciNext`: a call of `pIcmpChecksumInserter`, or a source that writes a chunk or a checksum.
* `inserter_shares`: in every run what is sent is made of whole packets, each with its own checksum
  and those of a source in their order; and none is missing when everybody goes on.
-/

namespace CloudFpga.Icmp

open Foundation AxisRaw Toe Uoe

/-- The inserter with its input streams, and what the sources still have to write to them. -/
structure SharedInserter where
  ici : IciState := {}
  ssXYzToICiData : Bool → List AxisIp4 := fun _ => []
  ssUVwToICiCsum : Bool → List IcmpCsum := fun _ => []
  dataToCome : Bool → List AxisIp4
  csumToCome : Bool → List IcmpCsum

/-- Who takes the next step. -/
inductive SharedLabel where
  /-- `pIcmpChecksumInserter` -/
  | ici
  /-- A source writes a chunk. -/
  | data (source : Bool)
  /-- A source writes a checksum. -/
  | csum (source : Bool)

/-- A source writes a chunk, if there is room for it. -/
def dataCall (s : SharedInserter) (source : Bool) : SharedInserter :=
  match s.dataToCome source with
  | [] => s
  | c :: cs =>
      if 16 ≤ (s.ssXYzToICiData source).length then s
      else
        { s with
          ssXYzToICiData :=
            Function.update s.ssXYzToICiData source (s.ssXYzToICiData source ++ [c])
          dataToCome := Function.update s.dataToCome source cs }

/-- A source writes a checksum, if there is room for it. -/
def csumCall (s : SharedInserter) (source : Bool) : SharedInserter :=
  match s.csumToCome source with
  | [] => s
  | csum :: csums =>
      if 16 ≤ (s.ssUVwToICiCsum source).length then s
      else
        { s with
          ssUVwToICiCsum :=
            Function.update s.ssUVwToICiCsum source (s.ssUVwToICiCsum source ++ [csum])
          csumToCome := Function.update s.csumToCome source csums }

/-- The call of the inserter. -/
def SharedInserter.call (s : SharedInserter) : IciCall :=
  pIcmpChecksumInserter s.ici s.ssXYzToICiData s.ssUVwToICiCsum

/-- A step, and what it writes on `soIPTX_Data`. -/
def sharedStep (s : SharedInserter) : SharedLabel → SharedInserter × List AxisIp4
  | .ici =>
      ({ s with
          ici := s.call.state
          ssXYzToICiData := s.call.siXYzData
          ssUVwToICiCsum := s.call.siUVwCsum }, s.call.soIPTXData)
  | .data source => (dataCall s source, [])
  | .csum source => (csumCall s source, [])

def sharedNext (s : SharedInserter) (l : SharedLabel) : SharedInserter := (sharedStep s l).1

/-- The state at power-up, with the packets of the two sources to come. -/
def sharedStart (total : Bool → List CsumPacket) : SharedInserter where
  dataToCome := fun i => (total i).flatMap Prod.fst
  csumToCome := fun i => (total i).map Prod.snd

/-- The state after a run. -/
def sharedRun (total : Bool → List CsumPacket) (ls : List SharedLabel) : SharedInserter :=
  Clocked.run sharedNext (sharedStart total) ls

/-- What a run writes on `soIPTX_Data`. -/
def sharedSent (total : Bool → List CsumPacket) (ls : List SharedLabel) : List AxisIp4 :=
  emits sharedNext (fun s l => (sharedStep s l).2) (sharedStart total) ls

/-- A round: everybody is called. -/
def SharedRound (round : List SharedLabel) : Prop :=
  .ici ∈ round ∧ ∀ i, .data i ∈ round ∧ .csum i ∈ round

/-- What is left to do: a chunk counts twice as long as it is to come, and a checksum once. -/
def SharedInserter.work (s : SharedInserter) : ℕ :=
  2 * ((s.dataToCome fromEcho).length + (s.dataToCome fromMessage).length) +
    (s.ssXYzToICiData fromEcho).length + (s.ssXYzToICiData fromMessage).length +
    (s.csumToCome fromEcho).length + (s.csumToCome fromMessage).length

/-- The invariant of the runs. -/
def SharedInv (total : Bool → List CsumPacket) (s : SharedInserter) (out : List AxisIp4) : Prop :=
  IciInv total s.ici (fun i => s.ssXYzToICiData i ++ s.dataToCome i)
    (fun i => s.ssUVwToICiCsum i ++ s.csumToCome i) out

/-- Why somebody has to wait. -/
def SharedStuck (s : SharedInserter) : SharedLabel → Prop
  | .ici => (s.ici.chunkCount = 0 → ∀ i, s.ssXYzToICiData i = []) ∧
      (s.ici.chunkCount ≠ 0 → s.ssXYzToICiData s.ici.dataStreamSource = [] ∨
        s.ici.chunkCount = 2 ∧ s.ssUVwToICiCsum s.ici.dataStreamSource = [])
  | .data i => s.dataToCome i = [] ∨ s.ssXYzToICiData i ≠ []
  | .csum i => s.csumToCome i = [] ∨ s.ssUVwToICiCsum i ≠ []

section Steps

variable {total : Bool → List CsumPacket} {s : SharedInserter} {out : List AxisIp4}

/-- An item that moves from what is to come into a stream. -/
lemma update_move {α : Type} (X F : Bool → List α) {i : Bool} {x : α} {xs : List α}
    (h : F i = x :: xs) :
    (fun j => Function.update X i (X i ++ [x]) j ++ Function.update F i xs j) =
      fun j => X j ++ F j := by
  funext j
  by_cases hj : j = i
  · subst hj
    rw [Function.update_self, Function.update_self, h, List.append_assoc]
    rfl
  · rw [Function.update_of_ne hj, Function.update_of_ne hj]

/-- The sum over the two sources, when one of them changes. -/
lemma length_update {α : Type} (X : Bool → List α) (i : Bool) (xs : List α) :
    (Function.update X i xs fromEcho).length + (Function.update X i xs fromMessage).length +
        (X i).length =
      (X fromEcho).length + (X fromMessage).length + xs.length := by
  cases i with
  | false =>
      have hother : Function.update X false xs fromMessage = X fromMessage :=
        Function.update_of_ne (by decide) ..
      rw [hother, show Function.update X false xs fromEcho = xs from Function.update_self ..]
      have hsame : (X false).length = (X fromEcho).length := rfl
      omega
  | true =>
      have hother : Function.update X true xs fromEcho = X fromEcho :=
        Function.update_of_ne (by decide) ..
      rw [hother, show Function.update X true xs fromMessage = xs from Function.update_self ..]
      have hsame : (X true).length = (X fromMessage).length := rfl
      omega

/-- A source writes a chunk. -/
lemma SharedInv.dataCall (h : SharedInv total s out) (i : Bool) :
    SharedInv total (dataCall s i) out ∧
      (dataCall s i = s ∧ SharedStuck s (.data i) ∨ (dataCall s i).work < s.work) := by
  rw [Icmp.dataCall]
  split
  · next hnil => exact ⟨h, .inl ⟨rfl, .inl hnil⟩⟩
  · next c cs hcs =>
      split_ifs with hfull
      · refine ⟨h, .inl ⟨rfl, .inr fun hnil => ?_⟩⟩
        rw [hnil] at hfull
        exact absurd hfull (by decide)
      · refine ⟨?_, .inr ?_⟩
        · rw [SharedInv]
          dsimp only
          rw [update_move _ _ hcs]
          exact h
        · have hcome := length_update s.dataToCome i cs
          have hdata := length_update s.ssXYzToICiData i (s.ssXYzToICiData i ++ [c])
          rw [hcs, List.length_cons] at hcome
          rw [List.length_append, List.length_singleton] at hdata
          simp only [SharedInserter.work]
          omega

/-- A source writes a checksum. -/
lemma SharedInv.csumCall (h : SharedInv total s out) (i : Bool) :
    SharedInv total (csumCall s i) out ∧
      (csumCall s i = s ∧ SharedStuck s (.csum i) ∨ (csumCall s i).work < s.work) := by
  rw [Icmp.csumCall]
  split
  · next hnil => exact ⟨h, .inl ⟨rfl, .inl hnil⟩⟩
  · next csum csums hcsums =>
      split_ifs with hfull
      · refine ⟨h, .inl ⟨rfl, .inr fun hnil => ?_⟩⟩
        rw [hnil] at hfull
        exact absurd hfull (by decide)
      · refine ⟨?_, .inr ?_⟩
        · rw [SharedInv]
          dsimp only
          rw [update_move _ _ hcsums]
          exact h
        · have hcome := length_update s.csumToCome i csums
          rw [hcsums, List.length_cons] at hcome
          simp only [SharedInserter.work]
          omega

/-- The inserter sends a chunk, or it waits. -/
lemma SharedInv.iciCall (hall : ∀ i, ∀ p ∈ total i, Countable p) (h : SharedInv total s out) :
    SharedInv total (sharedNext s .ici) (out ++ (sharedStep s .ici).2) ∧
      (sharedNext s .ici = s ∧ (sharedStep s .ici).2 = [] ∧ SharedStuck s .ici ∨
        (sharedNext s .ici).work < s.work) := by
  refine ⟨IciInv.step hall h, ?_⟩
  have hcall := pIcmpChecksumInserter_cases s.ici s.ssXYzToICiData s.ssUVwToICiCsum
  have hwork (i : Bool) (c : AxisIp4) (cs : List AxisIp4) (hxyz : s.ssXYzToICiData i = c :: cs)
      (hdata : s.call.siXYzData = Function.update s.ssXYzToICiData i cs) :
      (sharedNext s .ici).work < s.work := by
    have hlen := length_update s.ssXYzToICiData i cs
    rw [hxyz, List.length_cons] at hlen
    simp only [SharedInserter.work, sharedNext, sharedStep, hdata]
    omega
  rw [show pIcmpChecksumInserter s.ici s.ssXYzToICiData s.ssUVwToICiCsum = s.call from rfl] at hcall
  generalize hr : s.call = r at hcall hwork
  cases hcall with
  | wait hfirst hinsert hforward =>
      refine .inl ⟨?_, ?_, hfirst, fun hne => ?_⟩
      · simp only [sharedNext, sharedStep, hr]
      · simp only [sharedStep, hr]
      · by_cases h2 : s.ici.chunkCount = 2
        · exact (hinsert h2).imp_right fun hnil => ⟨h2, hnil⟩
        · exact .inl (hforward hne h2)
  | first hs hxyz => exact .inr (hwork _ _ _ hxyz rfl)
  | insert hs hxyz huvw => exact .inr (hwork _ _ _ hxyz rfl)
  | forward hne hne' hxyz => exact .inr (hwork _ _ _ hxyz rfl)

/-- **A step** keeps the invariant, and it does some of the work or has to wait. -/
lemma SharedInv.next (hall : ∀ i, ∀ p ∈ total i, Countable p) (h : SharedInv total s out)
    (l : SharedLabel) :
    SharedInv total (sharedNext s l) (out ++ (sharedStep s l).2) ∧
      (sharedNext s l = s ∧ (sharedStep s l).2 = [] ∧ SharedStuck s l ∨
        (sharedNext s l).work < s.work) := by
  cases l with
  | ici => exact h.iciCall hall
  | data i =>
      obtain ⟨hinv, hmove⟩ := h.dataCall i
      exact ⟨(List.append_nil out).symm ▸ hinv, hmove.imp_left fun h => ⟨h.1, rfl, h.2⟩⟩
  | csum i =>
      obtain ⟨hinv, hmove⟩ := h.csumCall i
      exact ⟨(List.append_nil out).symm ▸ hinv, hmove.imp_left fun h => ⟨h.1, rfl, h.2⟩⟩

/-- A run keeps the invariant. -/
lemma SharedInv.run (hall : ∀ i, ∀ p ∈ total i, Countable p) (h : SharedInv total s out)
    (ls : List SharedLabel) :
    SharedInv total (Clocked.run sharedNext s ls)
      (out ++ emits sharedNext (fun s l => (sharedStep s l).2) s ls) := by
  induction ls generalizing s out with
  | nil =>
      rw [emits_nil, List.append_nil]
      exact h
  | cons l ls ih =>
      rw [emits_cons, ← List.append_assoc]
      exact ih (h.next hall l).1

lemma sharedInv_run (hall : ∀ i, ∀ p ∈ total i, Countable p) (ls : List SharedLabel) :
    SharedInv total (sharedRun total ls) (sharedSent total ls) := by
  have hstart : SharedInv total (sharedStart total) [] :=
    @IciInv.idle _ _ _ _ _ [] total rfl (fun _ => rfl) (fun _ => rfl) (fun _ => rfl) rfl
  have hrun := hstart.run hall ls
  rwa [List.nil_append] at hrun

/-- **If everybody has to wait**, all packets of both sources have been sent. -/
lemma SharedInv.drained (hall : ∀ i, ∀ p ∈ total i, Countable p) (h : SharedInv total s out)
    (hstuck : ∀ l, SharedStuck s l) :
    ∃ blocks : List (Bool × CsumPacket), (∀ i, ofSource i blocks = total i) ∧
      out = blocks.flatMap fun b => inserted b.2 := by
  have hdata (i : Bool) (hnil : s.ssXYzToICiData i = []) : s.dataToCome i = [] :=
    (hstuck (.data i)).resolve_right fun hne => hne hnil
  have hcsum (i : Bool) (hnil : s.ssUVwToICiCsum i = []) : s.csumToCome i = [] :=
    (hstuck (.csum i)).resolve_right fun hne => hne hnil
  obtain ⟨hfirst, hnext⟩ := hstuck .ici
  cases h with
  | @idle blocks rest hs htotal hX hC hout =>
      refine ⟨blocks, fun i => ?_, hout⟩
      have hnil := hX i
      rw [hfirst hs i, hdata i (hfirst hs i)] at hnil
      cases hrest : rest i with
      | nil => rw [htotal i, hrest, List.append_nil]
      | cons p ps =>
          have hp : Countable p := hall i p (by rw [htotal i, hrest]; simp)
          rw [hrest, List.flatMap_cons] at hnil
          exact absurd (List.append_eq_nil_iff.mp hnil.symm).1 hp.isStream.ne_nil
  | @mid blocks rest cur hs hpos hlen htotal hX hC hout =>
      obtain ⟨source, packet, n⟩ := cur
      dsimp only at hs hpos hlen htotal hX hC hout
      have hmax := (hall source packet (by rw [htotal source]; simp)).length
      have hcount : s.ici.chunkCount.toNat = n := by
        rw [hs, BitVec.toNat_ofNat]
        omega
      have hne : s.ici.chunkCount ≠ 0 := by
        intro hzero
        rw [hzero] at hcount
        have hnil : (0 : BitVec 7).toNat = 0 := rfl
        omega
      have hXs := hX source
      have hCs := hC source
      rw [if_pos rfl] at hXs
      rw [hs] at hnext
      rcases hnext (hs ▸ hne) with hnil | ⟨htwo, hnil⟩
      · rw [hnil, hdata source hnil] at hXs
        have hdrop := (List.append_eq_nil_iff.mp hXs.symm).1
        rw [List.drop_eq_nil_iff] at hdrop
        omega
      · have hn : n = 2 := by
          rw [← hcount, hs, htwo]
          rfl
        rw [hnil, hcsum source hnil, if_pos ⟨rfl, hn.le⟩] at hCs
        exact absurd (List.append_eq_nil_iff.mp hCs.symm).1 (List.cons_ne_nil _ _)

end Steps

/-- **The inserter shares the output.** In every run, what has been sent is a first part of whole
packets, each with its own checksum, those of a source in their order; and after enough rounds all
packets of both sources have been sent. -/
theorem inserter_shares {total : Bool → List CsumPacket}
    (hall : ∀ i, ∀ p ∈ total i, Countable p) (ls : List SharedLabel) :
    (∃ blocks : List (Bool × CsumPacket), (∀ i, ofSource i blocks <+: total i) ∧
        sharedSent total ls <+: blocks.flatMap fun b => inserted b.2) ∧
      ∃ n, ∀ rounds : List (List SharedLabel), (∀ round ∈ rounds, SharedRound round) →
        n ≤ rounds.length →
          ∃ blocks : List (Bool × CsumPacket), (∀ i, ofSource i blocks = total i) ∧
            sharedSent total (ls ++ rounds.flatten) = blocks.flatMap fun b => inserted b.2 := by
  refine ⟨(sharedInv_run hall ls).blocks, (sharedRun total ls).work + 1,
    fun rounds hrounds hlen => ?_⟩
  obtain ⟨before, round, after, rfl, -, hfix⟩ :=
    @Clocked.rounds_settle _ _ sharedNext (fun s => ∃ out, SharedInv total s out) (fun _ => True)
      SharedInserter.work
      (fun s l ⟨out, hs⟩ _ => ⟨⟨_, (hs.next hall l).1⟩, (hs.next hall l).2.imp_left And.left⟩)
      _ rounds ⟨_, sharedInv_run hall ls⟩ (fun _ _ _ _ => trivial) hlen
  have hround := hrounds round (by simp)
  have hcalls (l : SharedLabel) : l ∈ round := by
    cases l with
    | ici => exact hround.1
    | data i => exact (hround.2 i).1
    | csum i => exact (hround.2 i).2
  have hstate : Clocked.run sharedNext (sharedRun total ls) before.flatten =
      sharedRun total (ls ++ before.flatten) := (Clocked.run_append ..).symm
  rw [hstate] at hfix
  have hinv := sharedInv_run hall (ls ++ before.flatten)
  have hwait (l : SharedLabel) : (sharedStep (sharedRun total (ls ++ before.flatten)) l).2 = [] ∧
      SharedStuck (sharedRun total (ls ++ before.flatten)) l := by
    rcases (hinv.next hall l).2 with ⟨-, hwait⟩ | hless
    · exact hwait
    · rw [hfix l (hcalls l)] at hless
      exact absurd hless (lt_irrefl _)
  have hsent : sharedSent total (ls ++ (before ++ round :: after).flatten) =
      sharedSent total (ls ++ before.flatten) := by
    have hrest := @emits_fixed _ _ _ sharedNext (fun s l => (sharedStep s l).2)
      (sharedRun total (ls ++ before.flatten)) (round :: after).flatten
      fun l _ => ⟨hfix l (hcalls l), (hwait l).1⟩
    rw [List.flatten_append, ← List.append_assoc]
    refine (emits_append ..).trans ?_
    rw [show Clocked.run sharedNext (sharedStart total) (ls ++ before.flatten) =
      sharedRun total (ls ++ before.flatten) from rfl, hrest, List.append_nil]
    rfl
  rw [hsent]
  exact hinv.drained hall fun l => (hwait l).2

/-- A packet of four chunks with its checksum, from each of the sources. -/
def bothSources (i : Bool) : List CsumPacket :=
  [([AxisRaw.ofBytes (List.replicate 8 i.toNat) false rfl,
    AxisRaw.ofBytes (List.replicate 8 1) false rfl,
    AxisRaw.ofBytes (List.replicate 8 2) false rfl,
    AxisRaw.ofBytes (List.replicate 8 3) true rfl], 0x1234)]

theorem inserter_shares_bothSources :
    (∃ blocks : List (Bool × CsumPacket), (∀ i, ofSource i blocks <+: bothSources i) ∧
        sharedSent bothSources [.data true, .ici, .data false] <+:
          blocks.flatMap fun b => inserted b.2) ∧
      ∃ n, ∀ rounds : List (List SharedLabel), (∀ round ∈ rounds, SharedRound round) →
        n ≤ rounds.length →
          ∃ blocks : List (Bool × CsumPacket), (∀ i, ofSource i blocks = bothSources i) ∧
            sharedSent bothSources ([.data true, .ici, .data false] ++ rounds.flatten) =
              blocks.flatMap fun b => inserted b.2 := by
  refine inserter_shares (fun i p hp => ?_) _
  rw [List.mem_singleton.mp hp]
  cases i <;> exact ⟨by decide, by decide, by decide⟩

end CloudFpga.Icmp
