import CloudFpga.Toe.RxAppInterface.Stitch

/-!
A stitcher that reads the chunks of its segments one by one, and what it is still to write for
the chunks that it has not read.

* `StitchRegs.read`: what is written for a chunk that is read. `pAppSegmentStitcher` and
  `pTcpSegStitcher` join the two parts of a segment in this way.
* `AssAhead`: in a state, the chunks of the segment still to be read, and those to be written.
* `read_idle`, `read_ahead`: what is written for a chunk is the first part of what was ahead.
-/

namespace CloudFpga.Toe

open Foundation AxisRaw

inductive AssFsmState where
  | idle | fwd1stBuf | fwd2ndBuf | join2ndBuf | residue
  deriving DecidableEq, Repr

/-- The first segment that is made of streams, and the streams of the other ones. The flag tells
whether it comes as two streams. -/
def takeSegment : Bool → List (List AxisApp) → List AxisApp × List (List AxisApp)
  | false, st :: sts => (st, sts)
  | true, st :: st' :: sts => (stitch st st', sts)
  | _, _ => ([], [])

/-- The segments that are made of streams, one for each flag that is off and two for each flag
that is on. -/
def stitchAll : List Bool → List (List AxisApp) → List AxisApp
  | false :: fs, st :: sts => st ++ stitchAll fs sts
  | true :: fs, st :: st' :: sts => stitch st st' ++ stitchAll fs sts
  | _, _ => []

/-- As many streams as the flags tell. -/
inductive SplitStreams : List Bool → List (List AxisApp) → Prop
  | nil : SplitStreams [] []
  | one {fs : List Bool} {st : List AxisApp} {sts : List (List AxisApp)} (hst : WellFormed st)
      (h : SplitStreams fs sts) : SplitStreams (false :: fs) (st :: sts)
  | two {fs : List Bool} {st st' : List AxisApp} {sts : List (List AxisApp)} (hst : WellFormed st)
      (hst' : WellFormed st') (h : SplitStreams fs sts) :
      SplitStreams (true :: fs) (st :: st' :: sts)

/-- In a state of the stitcher, the chunks of the current segment that it has still to read, and
those that it will write for them. -/
inductive AssAhead (off : ℕ) (prev : AxisApp) :
    AssFsmState → Bool → List AxisApp → List AxisApp → Prop
  | idle {j : Bool} : AssAhead off prev .idle j [] []
  | fwd1stBuf {cs : List AxisApp} (hcs : WellFormed cs) : AssAhead off prev .fwd1stBuf false cs cs
  | fwd1stBufJoin {cs st : List AxisApp} (hcs : WellFormed cs) (hst : WellFormed st) :
      AssAhead off prev .fwd1stBuf true (cs ++ st) (stitchTail cs st)
  | fwd2ndBuf {j : Bool} {cs : List AxisApp} (hcs : WellFormed cs) :
      AssAhead off prev .fwd2ndBuf j cs cs
  | join2ndBuf {j : Bool} {cs : List AxisApp} (hcs : WellFormed cs) (hoff : 1 ≤ off) :
      AssAhead off prev .join2ndBuf j cs (joinStream off prev cs)
  | residue {j : Bool} : AssAhead off prev .residue j [] [lastChunk off prev]

/-- The registers of a stitcher. -/
structure StitchRegs where
  fsmState : AssFsmState
  memRdOffset : ℕ
  prevChunk : AxisApp
  mustJoin : Bool

/-- What is written for a chunk that is read, and the registers afterwards. No chunk is read for
the residue. -/
def StitchRegs.read (r : StitchRegs) (c : AxisApp) : List AxisApp × StitchRegs :=
  match r.fsmState with
  | .idle =>
      if c.tlast then
        if r.mustJoin = false then ([c], { r with fsmState := .idle })
        else if c.getLen ≠ 8 then
          ([], { r with memRdOffset := c.getLen, prevChunk := c, fsmState := .join2ndBuf })
        else ([c], { r with memRdOffset := c.getLen, fsmState := .fwd2ndBuf })
      else ([c], { r with fsmState := .fwd1stBuf })
  | .fwd1stBuf =>
      if c.tlast then
        if r.mustJoin = false then ([c], { r with fsmState := .idle })
        else if c.getLen ≠ 8 then
          ([], { r with
            memRdOffset := c.getLen
            prevChunk := clearTLast c
            fsmState := .join2ndBuf })
        else ([clearTLast c], { r with memRdOffset := c.getLen, fsmState := .fwd2ndBuf })
      else ([c], r)
  | .fwd2ndBuf => ([c], if c.tlast then { r with fsmState := .idle } else r)
  | .join2ndBuf =>
      let joinedChunk := joinHead r.memRdOffset r.prevChunk c
      let r := { r with prevChunk := carry r.memRdOffset r.prevChunk c }
      if fits r.memRdOffset c then ([joinedChunk.setTLast], { r with fsmState := .idle })
      else if c.tlast then ([joinedChunk], { r with fsmState := .residue })
      else ([joinedChunk], r)
  | .residue => ([], r)

/-- What the registers have ahead. -/
def StitchRegs.Ahead (r : StitchRegs) : List AxisApp → List AxisApp → Prop :=
  AssAhead r.memRdOffset r.prevChunk r.fsmState r.mustJoin

variable {c : AxisApp} {cs rest ahead data : List AxisApp} {sts : List (List AxisApp)}
  {fs : List Bool} {j : Bool} {r : StitchRegs}

lemma stitchAll_nil (fs : List Bool) : stitchAll fs [] = [] := by
  cases fs with
  | nil => rfl
  | cons f fs => cases f <;> rfl

lemma stitchAll_cons (j : Bool) (fs : List Bool) (sts : List (List AxisApp)) :
    stitchAll (j :: fs) sts = (takeSegment j sts).1 ++ stitchAll fs (takeSegment j sts).2 := by
  cases j with
  | false =>
      cases sts with
      | nil => exact (stitchAll_nil fs).symm
      | cons st sts => rfl
  | true =>
      cases sts with
      | nil => exact (stitchAll_nil fs).symm
      | cons st sts =>
          cases sts with
          | nil => exact (stitchAll_nil fs).symm
          | cons st' sts => rfl

/-- The first chunk of the data is the first chunk of the next stream. -/
lemma head_of_wellFormed {st tail : List AxisApp} (h : c :: cs ++ rest = st ++ tail)
    (hst : WellFormed st) : ∃ xs, st = c :: xs ∧ cs ++ rest = xs ++ tail := by
  cases st with
  | nil => exact absurd hst.isStream id
  | cons x xs =>
      rw [List.cons_append, List.cons_append, List.cons.injEq] at h
      obtain ⟨rfl, hrest⟩ := h
      exact ⟨xs, rfl, hrest⟩

/-- As many streams as flags, none of which is empty. -/
lemma SplitStreams.of_flatten_eq_nil (h : SplitStreams fs sts) (hnil : sts.flatten = []) :
    sts = [] := by
  cases h with
  | nil => rfl
  | one hst _ =>
      rw [List.flatten_cons, List.append_eq_nil_iff] at hnil
      exact absurd hnil.1 hst.isStream.ne_nil
  | two hst _ _ =>
      rw [List.flatten_cons, List.append_eq_nil_iff] at hnil
      exact absurd hnil.1 hst.isStream.ne_nil

/-- Nothing is ahead when no chunk is left to be read. -/
lemma AssAhead.eq_nil {off : ℕ} {prev : AxisApp} {state : AssFsmState}
    (h : AssAhead off prev state j [] ahead) (hst : state ≠ .residue) : ahead = [] := by
  generalize hrest : ([] : List AxisApp) = rest at h
  cases h with
  | idle => rfl
  | fwd1stBuf hcs => exact absurd hrest.symm hcs.isStream.ne_nil
  | fwd1stBufJoin hcs _ =>
      exact absurd (List.append_eq_nil_iff.mp hrest.symm).1 hcs.isStream.ne_nil
  | fwd2ndBuf hcs => exact absurd hrest.symm hcs.isStream.ne_nil
  | join2ndBuf hcs _ => exact absurd hrest.symm hcs.isStream.ne_nil
  | residue => exact absurd rfl hst

/-- A state that forwards or joins has a chunk to read. -/
lemma AssAhead.ne_nil {off : ℕ} {prev : AxisApp} {state : AssFsmState}
    (h : AssAhead off prev state j rest ahead) (hidle : state ≠ .idle) (hres : state ≠ .residue) :
    rest ≠ [] := by
  cases h with
  | idle => exact absurd rfl hidle
  | fwd1stBuf hcs => exact hcs.isStream.ne_nil
  | fwd1stBufJoin hcs _ => exact List.append_ne_nil_of_left_ne_nil hcs.isStream.ne_nil _
  | fwd2ndBuf hcs => exact hcs.isStream.ne_nil
  | join2ndBuf hcs _ => exact hcs.isStream.ne_nil
  | residue => exact absurd rfl hres

/-- The first chunk of a segment. -/
lemma read_idle (hst : r.fsmState = .idle) (hS : SplitStreams (r.mustJoin :: fs) sts)
    (hD : c :: data = sts.flatten) :
    ∃ rest ahead, SplitStreams fs (takeSegment r.mustJoin sts).2 ∧
      data = rest ++ (takeSegment r.mustJoin sts).2.flatten ∧
      (r.read c).2.Ahead rest ahead ∧
      (takeSegment r.mustJoin sts).1 = (r.read c).1 ++ ahead := by
  obtain ⟨state, off, prev, j⟩ := r
  obtain rfl : state = .idle := hst
  dsimp only at hS
  cases hS with
  | one hst1 hS =>
      rename_i st sts
      obtain ⟨xs, rfl, hrest⟩ := @head_of_wellFormed c data [] _ _ (by simpa using hD) hst1
      rw [List.append_nil] at hrest
      dsimp only [takeSegment, StitchRegs.read]
      split
      · next hlast =>
          obtain rfl := hst1.tail_eq_nil hlast
          exact ⟨[], [], hS, hrest, .idle, rfl⟩
      · next hlast =>
          exact ⟨xs, xs, hS, hrest, .fwd1stBuf (hst1.tail (by simpa using hlast)), rfl⟩
  | two hst1 hst2 hS =>
      rename_i st st' sts
      rw [List.flatten_cons, List.flatten_cons] at hD
      obtain ⟨xs, rfl, hrest⟩ := @head_of_wellFormed c data [] _ _ (by simpa using hD) hst1
      rw [List.append_nil] at hrest
      dsimp only [takeSegment, StitchRegs.read]
      rw [stitch]
      split
      · next hlast =>
          obtain rfl := hst1.tail_eq_nil hlast
          rw [if_neg (by simp)]
          split
          · exact ⟨st', _, hS, hrest, .join2ndBuf hst2 (mask_of_isValid hst1.head).2.1, rfl⟩
          · exact ⟨st', st', hS, hrest, .fwd2ndBuf hst2, rfl⟩
      · next hlast =>
          exact ⟨xs ++ st', _, hS, by rw [hrest, List.append_assoc],
            .fwd1stBufJoin (hst1.tail (by simpa using hlast)) hst2, rfl⟩

/-- A further chunk of a segment. -/
lemma read_ahead (hA : r.Ahead (c :: cs) ahead) :
    ∃ ahead', (r.read c).2.Ahead cs ahead' ∧ ahead = (r.read c).1 ++ ahead' := by
  obtain ⟨state, off, prev, j⟩ := r
  rw [StitchRegs.Ahead] at hA
  dsimp only at hA
  generalize hchunks : c :: cs = chunks at hA
  cases hA with
  | idle => cases hchunks
  | residue => cases hchunks
  | fwd1stBuf hcs =>
      subst hchunks
      dsimp only [StitchRegs.read]
      split
      · next hlast =>
          obtain rfl := hcs.tail_eq_nil hlast
          exact ⟨[], .idle, rfl⟩
      · next hlast => exact ⟨cs, .fwd1stBuf (hcs.tail (by simpa using hlast)), rfl⟩
  | fwd1stBufJoin hcs hst2 =>
      rename_i ys st'
      obtain ⟨xs, rfl, hrest⟩ := @head_of_wellFormed c cs [] _ _ (by simpa using hchunks) hcs
      rw [List.append_nil] at hrest
      subst hrest
      dsimp only [StitchRegs.read]
      rw [stitchTail]
      split
      · next hlast =>
          obtain rfl := hcs.tail_eq_nil hlast
          rw [if_neg (by simp)]
          split
          · exact ⟨_, .join2ndBuf hst2 (mask_of_isValid hcs.head).2.1, rfl⟩
          · exact ⟨st', .fwd2ndBuf hst2, rfl⟩
      · next hlast =>
          exact ⟨_, .fwd1stBufJoin (hcs.tail (by simpa using hlast)) hst2, rfl⟩
  | fwd2ndBuf hcs =>
      subst hchunks
      dsimp only [StitchRegs.read]
      split
      · next hlast =>
          obtain rfl := hcs.tail_eq_nil hlast
          exact ⟨[], .idle, rfl⟩
      · next hlast => exact ⟨cs, .fwd2ndBuf (hcs.tail (by simpa using hlast)), rfl⟩
  | join2ndBuf hcs hoff =>
      subst hchunks
      dsimp only [StitchRegs.read]
      rw [joinStream]
      split
      · next hfit =>
          -- a chunk that fits is not full, so it is the last one
          have hlast : c.tlast = true := by
            by_contra hl
            have hfull := (mask_of_isValid hcs.head).2.2 (by simpa using hl)
            rw [fits_iff hcs.head] at hfit
            omega
          obtain rfl := hcs.tail_eq_nil hlast
          exact ⟨[], .idle, rfl⟩
      · split
        · next hlast =>
            obtain rfl := hcs.tail_eq_nil hlast
            exact ⟨_, .residue, rfl⟩
        · next hlast =>
            exact ⟨_, .join2ndBuf (hcs.tail (by simpa using hlast)) hoff, rfl⟩

end CloudFpga.Toe
