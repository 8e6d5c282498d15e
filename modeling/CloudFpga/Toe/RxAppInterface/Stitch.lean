import CloudFpga.Nts.DataMover

/-!
The two parts of a segment that was cut at the end of the Rx buffer, joined as `pAppSegmentStitcher`
joins them.

* `joinHead`, `carry`, `lastChunk`: the operations on chunks. The first lanes of a chunk are kept,
  and filled up with the first lanes of the next one.
* `joinStream`: the second part, shifted behind the last chunk of the first part.
* `stitch`: the whole segment. A first part of one full chunk keeps its `tlast`.
* `stitch_spec`: every other segment is one well-formed stream with the bytes of both parts.
-/

namespace CloudFpga.Toe

open Foundation AxisRaw

/-- The lower lanes are the first `off` lanes of `prev`, the higher ones the first lanes of
`cur`. -/
def joinHead (off : ℕ) (prev cur : AxisRaw) : AxisRaw where
  lanes := prev.lanes.take off ++ cur.lanes.take (8 - off)
  tlast := false
  length_lanes := by
    rw [List.length_append, List.length_take, List.length_take, prev.length_lanes,
      cur.length_lanes]
    omega

/-- The remainder of `cur`, moved to the first lanes of `prev`. -/
def carry (off : ℕ) (prev cur : AxisRaw) : AxisRaw where
  lanes := cur.lanes.drop (8 - off) ++ prev.lanes.drop off
  tlast := prev.tlast
  length_lanes := by
    rw [List.length_append, List.length_drop, List.length_drop, prev.length_lanes,
      cur.length_lanes]
    omega

/-- The very last unaligned chunk: the first `off` lanes of `prev`. -/
def lastChunk (off : ℕ) (prev : AxisRaw) : AxisRaw where
  lanes := prev.lanes.take off ++ List.replicate (8 - off) ⟨0, false⟩
  tlast := true
  length_lanes := by
    rw [List.length_append, List.length_take, List.length_replicate, prev.length_lanes]
    omega

/-- `getLE_TKeep()[8 - off] == 0`. -/
def fits (off : ℕ) (cur : AxisRaw) : Bool := ((cur.lanes.drop (8 - off)).head?.all fun l => !l.keep)

/-- The second part, shifted behind the first `off` lanes of `prev`. -/
def joinStream (off : ℕ) : AxisRaw → List AxisRaw → List AxisRaw
  | _, [] => []
  | prev, cur :: cs =>
      if fits off cur then [(joinHead off prev cur).setTLast]
      else if cur.tlast then [joinHead off prev cur, lastChunk off (carry off prev cur)]
      else joinHead off prev cur :: joinStream off (carry off prev cur) cs

/-- `setTLast(0)`. -/
def clearTLast (c : AxisRaw) : AxisRaw := { c with tlast := false }

/-- What follows the first chunk of a first part with several chunks. -/
def stitchTail : List AxisRaw → List AxisRaw → List AxisRaw
  | [], _ => []
  | c :: cs, snd =>
      if c.tlast then
        if c.getLen ≠ 8 then joinStream c.getLen (clearTLast c) snd else clearTLast c :: snd
      else c :: stitchTail cs snd

/-- The two parts of a segment, joined. -/
def stitch : List AxisRaw → List AxisRaw → List AxisRaw
  | [], _ => []
  | c :: cs, snd =>
      if c.tlast then if c.getLen ≠ 8 then joinStream c.getLen c snd else c :: snd
      else c :: stitchTail cs snd

/-! ### Masks -/

/-- The `n` first lanes are kept. -/
def Mask (ls : List Lane) (n : ℕ) : Prop :=
  ls.map (·.keep) = List.replicate n true ++ List.replicate (ls.length - n) false ∧ n ≤ ls.length

section Mask

variable {c : AxisRaw} {ls ms : List Lane} {n m : ℕ}

lemma Mask.length_keptBytes (h : Mask ls n) : (keptBytes ls).length = n := by
  rw [(keptFirst_of_mask h.1).2, List.length_take, List.length_map]
  exact Nat.min_eq_left h.2

lemma mask_getLen (h : c.isValid) : Mask c.lanes c.getLen := by
  have hlen := AxisRaw.length_bytes_le c
  rw [Mask, c.length_lanes]
  exact ⟨(mask_of_isValid h).1, by rw [getLen_eq h]; exact hlen⟩

lemma getLen_of_mask (h : Mask c.lanes n) : c.getLen = n := by
  have hmask := h.1
  have hn := h.2
  rw [c.length_lanes] at hmask hn
  have htake : (List.replicate n true ++ List.replicate (8 - n) false).takeWhile id
      = List.replicate n true := by
    rw [List.takeWhile_append_of_pos (by simp)]
    cases 8 - n <;> simp [List.replicate_succ]
  simp only [getLen, hmask, htake, List.length_replicate, if_true]

/-- A chunk with a mask is valid if it ends a stream, or is full. -/
lemma isValid_of_mask (h : Mask c.lanes n) (hn : 1 ≤ n) (hlast : c.tlast = false → n = 8) :
    c.isValid := by
  unfold isValid
  split
  · rw [getLen_of_mask h]
    simpa using Nat.one_le_iff_ne_zero.mp hn
  · next hl =>
      obtain rfl := hlast (by simpa using hl)
      have hmask := h.1
      rw [c.length_lanes] at hmask
      simpa using hmask

lemma Mask.take (h : Mask ls n) (k : ℕ) : Mask (ls.take k) (min k n) := by
  obtain ⟨hmask, hn⟩ := h
  refine ⟨?_, ?_⟩
  · rw [List.map_take, hmask, List.take_append, List.take_replicate, List.take_replicate,
      List.length_replicate, List.length_take]
    congr 2
    omega
  · rw [List.length_take]
    omega

lemma Mask.drop (h : Mask ls n) (k : ℕ) : Mask (ls.drop k) (n - k) := by
  obtain ⟨hmask, hn⟩ := h
  refine ⟨?_, ?_⟩
  · rw [List.map_drop, hmask, List.drop_append, List.drop_replicate, List.drop_replicate,
      List.length_replicate, List.length_drop]
    congr 2
    omega
  · rw [List.length_drop]
    omega

/-- Full lanes in front of a mask. -/
lemma Mask.append (h : Mask ls ls.length) (h' : Mask ms m) : Mask (ls ++ ms) (ls.length + m) := by
  have hfull := h.1
  rw [Nat.sub_self, List.replicate_zero, List.append_nil] at hfull
  refine ⟨?_, ?_⟩
  · rw [List.map_append, hfull, h'.1, ← List.append_assoc, List.replicate_append_replicate,
      List.length_append]
    congr 2
    omega
  · rw [List.length_append]
    exact Nat.add_le_add_left h'.2 _

/-- Empty lanes behind a mask. -/
lemma Mask.append_empty (h : Mask ls n) (k : ℕ) :
    Mask (ls ++ List.replicate k ⟨0, false⟩) n := by
  refine ⟨?_, ?_⟩
  · rw [List.map_append, h.1, List.map_replicate, List.append_assoc,
      List.replicate_append_replicate, List.length_append, List.length_replicate]
    congr 2
    have hn := h.2
    omega
  · rw [List.length_append]
    exact h.2.trans (Nat.le_add_right _ _)

lemma Mask.head (h : Mask ls n) : (ls.head?.all fun l => !l.keep) = decide (n = 0) := by
  cases ls with
  | nil => simpa using Nat.le_zero.mp h.2
  | cons l ls =>
      have hmask := h.1
      cases n with
      | zero =>
          rw [List.map_cons, List.replicate_zero, List.nil_append, List.length_cons,
            Nat.sub_zero, List.replicate_succ, List.cons.injEq] at hmask
          simp [hmask.1]
      | succ n =>
          rw [List.map_cons, List.replicate_succ, List.cons_append, List.cons.injEq] at hmask
          simp [hmask.1]

end Mask

/-! ### The joined stream -/

section Join

variable {off : ℕ} {prev cur : AxisRaw} {fst snd cs : List AxisRaw}

/-- The first lanes of the chunk that carries the remainder. -/
lemma take_lanes_carry (hoff : off ≤ 8) :
    (carry off prev cur).lanes.take off = cur.lanes.drop (8 - off) := by
  have hlen : (cur.lanes.drop (8 - off)).length = off := by
    rw [List.length_drop, cur.length_lanes]
    omega
  rw [carry, List.take_append_of_le_length hlen.ge, List.take_of_length_le hlen.le]

/-- A joined chunk keeps the lanes of the first chunk and as many of the next one as fit. -/
lemma mask_joinHead {n : ℕ} (hoff : off ≤ 8) (hprev : Mask (prev.lanes.take off) off)
    (hcur : Mask cur.lanes n) : Mask (joinHead off prev cur).lanes (off + min (8 - off) n) := by
  have hlen : (prev.lanes.take off).length = off := by
    rw [List.length_take, prev.length_lanes]
    omega
  have hfull : Mask (prev.lanes.take off) (prev.lanes.take off).length := by
    rw [hlen]
    exact hprev
  have happ := hfull.append (hcur.take (8 - off))
  rw [hlen] at happ
  exact happ

lemma bytes_joinHead (hcur : cur.isValid) :
    (joinHead off prev cur).bytes
      = keptBytes (prev.lanes.take off) ++ cur.bytes.take (8 - off) := by
  rw [bytes, joinHead, keptBytes_append, ((keptFirst_of_isValid hcur).cut _).1]
  rfl

lemma lanes_lastChunk :
    (lastChunk off prev).lanes = prev.lanes.take off ++ List.replicate (8 - off) ⟨0, false⟩ := rfl

lemma bytes_lastChunk (hoff : off ≤ 8) (hcur : cur.isValid) :
    (lastChunk off (carry off prev cur)).bytes = cur.bytes.drop (8 - off) := by
  have hempty : keptBytes (List.replicate (8 - off) (⟨0, false⟩ : Lane)) = [] :=
    keptBytes_eq_nil fun l hl => by rw [List.eq_of_mem_replicate hl]
  rw [bytes, lanes_lastChunk, keptBytes_append, take_lanes_carry hoff,
    ((keptFirst_of_isValid hcur).cut _).2, hempty, List.append_nil]
  rfl

lemma fits_iff (hcur : cur.isValid) : fits off cur = true ↔ cur.getLen ≤ 8 - off := by
  rw [fits, ((mask_getLen hcur).drop _).head, decide_eq_true_eq, Nat.sub_eq_zero_iff_le]

/-- Behind full lanes, the second part gives one well-formed stream with its bytes. -/
theorem joinStream_spec (h1 : 1 ≤ off) (h8 : off ≤ 8) (hprev : Mask (prev.lanes.take off) off)
    (hcs : WellFormed cs) :
    WellFormed (joinStream off prev cs) ∧
      streamBytes (joinStream off prev cs)
        = keptBytes (prev.lanes.take off) ++ streamBytes cs := by
  induction cs generalizing prev with
  | nil => exact absurd hcs.isStream id
  | cons cur cs ih =>
      have hcur := hcs.head
      have hmask := mask_getLen hcur
      have hjoin := mask_joinHead h8 hprev hmask
      have hn8 := hmask.2
      rw [cur.length_lanes] at hn8
      rw [joinStream]
      split
      · next hfit =>
          -- the whole chunk fits behind the previous one, so it is the last one
          rw [fits_iff hcur] at hfit
          have hlast : cur.tlast = true := by
            by_contra hl
            have hfull := (mask_of_isValid hcur).2.2 (by simpa using hl)
            omega
          obtain rfl := hcs.tail_eq_nil hlast
          have hvalid : (joinHead off prev cur).setTLast.isValid :=
            isValid_of_mask (c := (joinHead off prev cur).setTLast) hjoin (by omega)
              fun hl => by cases hl
          have hlen : cur.bytes.length ≤ 8 - off := by
            rw [← getLen_eq hcur]
            exact hfit
          refine ⟨.singleton hvalid rfl, ?_⟩
          rw [streamBytes_cons, bytes_setTLast, bytes_joinHead hcur, List.take_of_length_le hlen]
          simp
      · next hfit =>
          rw [fits_iff hcur, not_le] at hfit
          have hvalid : (joinHead off prev cur).isValid :=
            isValid_of_mask hjoin (by omega) fun _ => by omega
          split
          · next hlast =>
              obtain rfl := hcs.tail_eq_nil hlast
              have hrest : Mask (lastChunk off (carry off prev cur)).lanes
                  (cur.getLen - (8 - off)) := by
                rw [lanes_lastChunk, take_lanes_carry h8]
                exact (hmask.drop _).append_empty _
              refine ⟨.cons hvalid rfl (.singleton (isValid_of_mask hrest (by omega)
                fun hl => by cases hl) rfl), ?_⟩
              rw [streamBytes_cons, streamBytes_cons, streamBytes_cons, bytes_joinHead hcur,
                bytes_lastChunk h8 hcur, streamBytes_nil, List.append_nil, List.append_nil,
                List.append_assoc, List.take_append_drop]
          · next hlast =>
              have hlast' : cur.tlast = false := by simpa using hlast
              have hfull := (mask_of_isValid hcur).2.2 hlast'
              have hcarry : Mask ((carry off prev cur).lanes.take off) off := by
                have hdrop := hmask.drop (8 - off)
                rw [hfull, Nat.sub_sub_self h8] at hdrop
                rw [take_lanes_carry h8]
                exact hdrop
              obtain ⟨hwf, hbytes⟩ := ih hcarry (hcs.tail hlast')
              refine ⟨.cons hvalid rfl hwf, ?_⟩
              rw [streamBytes_cons, hbytes, bytes_joinHead hcur, take_lanes_carry h8,
                ((keptFirst_of_isValid hcur).cut _).2, streamBytes_cons]
              have hcut : cur.bytes.take (8 - off) ++ (keptBytes cur.lanes).drop (8 - off)
                  = cur.bytes := List.take_append_drop ..
              rw [List.append_assoc, ← List.append_assoc (cur.bytes.take _), hcut]

/-- The second part behind the last chunk of the first part. -/
lemma joinStream_last {c : AxisRaw} (hc : c.isValid) (hsnd : WellFormed snd) {prev : AxisRaw}
    (hprev : prev.lanes = c.lanes) :
    WellFormed (joinStream c.getLen prev snd) ∧
      streamBytes (joinStream c.getLen prev snd) = c.bytes ++ streamBytes snd := by
  have hmask := mask_getLen hc
  have hn8 := hmask.2
  rw [c.length_lanes] at hn8
  have hfst : Mask (prev.lanes.take c.getLen) c.getLen := by
    have htake := hmask.take c.getLen
    rw [min_self] at htake
    rw [hprev]
    exact htake
  obtain ⟨hwf, hbytes⟩ := joinStream_spec (mask_of_isValid hc).2.1 hn8 hfst hsnd
  refine ⟨hwf, ?_⟩
  have htake : keptBytes (c.lanes.take c.getLen) = c.bytes := by
    rw [((keptFirst_of_isValid hc).cut _).1, getLen_eq hc]
    exact List.take_length
  rw [hbytes, hprev, htake]

/-- A full chunk whose `tlast` is cleared. -/
lemma isValid_clearTLast {c : AxisRaw} (hc : c.isValid) (h8 : c.getLen = 8) :
    (clearTLast c).isValid := by
  have hmask := mask_getLen hc
  exact isValid_of_mask (c := clearTLast c) hmask (mask_of_isValid hc).2.1 fun _ => h8

/-- The rest of a first part with several chunks, and the second part. -/
lemma stitchTail_spec (hfst : WellFormed fst) (hsnd : WellFormed snd) :
    WellFormed (stitchTail fst snd) ∧
      streamBytes (stitchTail fst snd) = streamBytes fst ++ streamBytes snd := by
  induction fst with
  | nil => exact absurd hfst.isStream id
  | cons c cs ih =>
      rw [stitchTail]
      split
      · next hlast =>
          obtain rfl := hfst.tail_eq_nil hlast
          rw [streamBytes_cons, streamBytes_nil, List.append_nil]
          split
          · exact joinStream_last hfst.head hsnd rfl
          · next h8 =>
              exact ⟨.cons (isValid_clearTLast hfst.head (by simpa using h8)) rfl hsnd, rfl⟩
      · next hlast =>
          have hlast' : c.tlast = false := by simpa using hlast
          obtain ⟨hwf, hbytes⟩ := ih (hfst.tail hlast')
          refine ⟨.cons hfst.head hlast' hwf, ?_⟩
          rw [streamBytes_cons, hbytes, streamBytes_cons, List.append_assoc]

/-- **Stitching**: unless the first part is one full chunk, the two parts give one well-formed
stream with the bytes of both. -/
theorem stitch_spec (hfst : WellFormed fst) (hsnd : WellFormed snd)
    (h8 : (streamBytes fst).length ≠ 8) :
    WellFormed (stitch fst snd) ∧
      streamBytes (stitch fst snd) = streamBytes fst ++ streamBytes snd := by
  cases fst with
  | nil => exact absurd hfst.isStream id
  | cons c cs =>
      rw [stitch]
      split
      · next hlast =>
          obtain rfl := hfst.tail_eq_nil hlast
          rw [streamBytes_cons, streamBytes_nil, List.append_nil] at h8 ⊢
          rw [← getLen_eq hfst.head] at h8
          rw [if_pos h8]
          exact joinStream_last hfst.head hsnd rfl
      · next hlast =>
          have hlast' : c.tlast = false := by simpa using hlast
          obtain ⟨hwf, hbytes⟩ := stitchTail_spec (hfst.tail hlast') hsnd
          refine ⟨.cons hfst.head hlast' hwf, ?_⟩
          rw [streamBytes_cons, hbytes, streamBytes_cons, List.append_assoc]

/-- A first part of eight bytes is one full chunk, and its `tlast` stays. -/
theorem stitch_of_eight (hfst : WellFormed fst) (h8 : (streamBytes fst).length = 8) :
    ∃ c, c.tlast = true ∧ stitch fst snd = c :: snd ∧ c.bytes.length = 8 := by
  cases fst with
  | nil => exact absurd hfst.isStream id
  | cons c cs =>
      have hlast : c.tlast = true := by
        by_contra hl
        have hlast' : c.tlast = false := by simpa using hl
        have hc := length_bytes_eq hfst.head hlast'
        have hcs := (hfst.tail hlast').length_pos
        rw [streamBytes_cons, List.length_append] at h8
        omega
      obtain rfl := hfst.tail_eq_nil hlast
      rw [streamBytes_cons, streamBytes_nil, List.append_nil] at h8
      refine ⟨c, hlast, ?_, h8⟩
      rw [stitch, if_pos hlast, getLen_eq hfst.head, if_neg (by simpa using h8)]

end Join

end CloudFpga.Toe
