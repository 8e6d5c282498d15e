import CloudFpga.Toe.RxAppInterface.Stitch

/-!
Streams that are shifted by some bytes, as the processes shift them that cut off a header or put one
in front.

* `joinRest`, `restChunk`: the last lanes of a chunk in front of the first ones of the next chunk,
  and in the very last chunk.
* `shiftStream`: a stream behind the last lanes of a chunk.
* `shiftStream_spec`: it is well-formed, and its bytes are those of the lanes and of the stream.
* `Framed`: streams that may end with an empty chunk; `shiftStream_framed`.
-/

namespace CloudFpga

open Foundation AxisRaw Toe

/-- The last `off` lanes of `prev` and the first lanes of `cur`: the last chunk if nothing is left
of `cur`, `getLE_TKeep()[8 - off] == 0`. -/
def joinRest (off : ℕ) (prev cur : AxisRaw) : AxisRaw :=
  { join off prev cur with tlast := fits off cur }

/-- The last `off` lanes of `prev`, in the last chunk. -/
def restChunk (off : ℕ) (prev : AxisRaw) : AxisRaw := { join off prev zero with tlast := true }

/-- A stream behind the last `off` lanes of `prev`. -/
def shiftStream (off : ℕ) : AxisRaw → List AxisRaw → List AxisRaw
  | _, [] => []
  | prev, cur :: cs =>
      joinRest off prev cur ::
        if cur.tlast then if fits off cur then [] else [restChunk off cur]
        else shiftStream off cur cs

section Shift

variable {off : ℕ} {prev cur c : AxisRaw} {cs : List AxisRaw}

lemma lanes_joinRest (hoff : off ≤ 8) (x : AxisRaw) :
    (joinRest off prev cur).lanes = (joinHead off (carry off x prev) cur).lanes := by
  have hrest : (carry off x prev).lanes.take off = prev.lanes.drop (8 - off) :=
    take_lanes_carry hoff
  exact congrArg (· ++ cur.lanes.take (8 - off)) hrest.symm

lemma restChunk_eq (hoff : off ≤ 8) (x : AxisRaw) :
    restChunk off prev = lastChunk off (carry off x prev) := by
  have hlanes : (restChunk off prev).lanes = (lastChunk off (carry off x prev)).lanes := by
    have hzero : zero.lanes.take (8 - off) = List.replicate (8 - off) ⟨0, false⟩ := by
      rw [zero, List.take_replicate, Nat.min_eq_left (Nat.sub_le 8 off)]
    rw [lanes_lastChunk, take_lanes_carry hoff, ← hzero]
    rfl
  exact AxisRaw.ext hlanes rfl

/-- A chunk of which nothing is left is the last one. -/
lemma tlast_of_fits (hoff : 1 ≤ off) (hc : c.isValid) (hfit : fits off c = true) :
    c.tlast = true := by
  rw [fits_iff hc] at hfit
  by_contra hl
  have hfull := (mask_of_isValid hc).2.2 (by simpa using hl)
  omega

/-- On a well-formed stream this is a second part of a segment behind `off` lanes. -/
lemma shiftStream_eq (h1 : 1 ≤ off) (h8 : off ≤ 8) (hcs : WellFormed cs) (x : AxisRaw) :
    shiftStream off prev cs = joinStream off (carry off x prev) cs := by
  induction cs generalizing prev x with
  | nil => rfl
  | cons cur cs ih =>
      rw [shiftStream, joinStream]
      cases hfit : fits off cur with
      | true =>
          have hlast := tlast_of_fits h1 hcs.head hfit
          rw [if_pos hlast, if_pos rfl, if_pos rfl]
          exact congrArg (· :: []) (AxisRaw.ext (lanes_joinRest h8 x) hfit)
      | false =>
          have hjoin : joinRest off prev cur = joinHead off (carry off x prev) cur :=
            AxisRaw.ext (lanes_joinRest h8 x) hfit
          rw [hjoin, if_neg Bool.false_ne_true, if_neg Bool.false_ne_true]
          cases hlast : cur.tlast with
          | true => rw [if_pos rfl, if_pos rfl, restChunk_eq h8]
          | false =>
              rw [if_neg Bool.false_ne_true, if_neg Bool.false_ne_true,
                ih (hcs.tail hlast) (carry off x prev)]

/-- The last lanes of a chunk that is not the last one are kept. -/
lemma mask_rest (h8 : off ≤ 8) (hc : c.isValid) (hlast : c.tlast = false) (x : AxisRaw) :
    Mask ((carry off x c).lanes.take off) off := by
  have hdrop := (mask_getLen hc).drop (8 - off)
  rw [(mask_of_isValid hc).2.2 hlast, Nat.sub_sub_self h8] at hdrop
  rw [take_lanes_carry h8]
  exact hdrop

lemma bytes_rest (hc : c.isValid) :
    keptBytes (c.lanes.drop (8 - off)) = c.bytes.drop (8 - off) :=
  ((keptFirst_of_isValid hc).cut (8 - off)).2

/-- A stream behind the last bytes of a full chunk. -/
theorem shiftStream_spec (h1 : 1 ≤ off) (h8 : off ≤ 8) (hprev : prev.isValid)
    (hlast : prev.tlast = false) (hcs : WellFormed cs) :
    WellFormed (shiftStream off prev cs) ∧
      streamBytes (shiftStream off prev cs) = prev.bytes.drop (8 - off) ++ streamBytes cs := by
  obtain ⟨hwf, hbytes⟩ := joinStream_spec h1 h8 (mask_rest h8 hprev hlast zero) hcs
  rw [shiftStream_eq h1 h8 hcs zero]
  refine ⟨hwf, ?_⟩
  rw [hbytes, take_lanes_carry h8, ← bytes_rest hprev]

/-- The last lanes of a full chunk in front of some lanes. -/
lemma joinRest_mask {n : ℕ} (h8 : off ≤ 8) (hprev : prev.isValid) (hlast : prev.tlast = false)
    (hc : Mask c.lanes n) :
    Mask (joinRest off prev c).lanes (off + min (8 - off) n) ∧
      (joinRest off prev c).tlast = decide (n - (8 - off) = 0) ∧
      (joinRest off prev c).bytes = prev.bytes.drop (8 - off) ++ c.bytes.take (8 - off) := by
  refine ⟨?_, (hc.drop (8 - off)).head, ?_⟩
  · rw [lanes_joinRest h8 zero]
    exact mask_joinHead h8 (mask_rest h8 hprev hlast zero) hc
  · exact bytes_join (keptFirst_of_isValid hprev) (keptFirst_of_mask hc.1).1 off

/-- Two full chunks. -/
lemma joinRest_full (h1 : 1 ≤ off) (h8 : off ≤ 8) (hprev : prev.isValid)
    (hplast : prev.tlast = false) (hc : c.isValid) (hlast : c.tlast = false) :
    (joinRest off prev c).isValid ∧ (joinRest off prev c).tlast = false ∧
      (joinRest off prev c).bytes = prev.bytes.drop (8 - off) ++ c.bytes.take (8 - off) := by
  have hlen := (mask_of_isValid hc).2.2 hlast
  obtain ⟨hmask, htlast, hbytes⟩ := joinRest_mask h8 hprev hplast (mask_getLen hc)
  rw [hlen] at hmask htlast
  refine ⟨isValid_of_mask hmask (by omega) fun _ => by omega, ?_, hbytes⟩
  rw [htlast, decide_eq_false_iff_not]
  omega

/-- A stream of valid chunks that may end with an empty one. -/
structure Framed (cs : List AxisRaw) : Prop where
  isStream : IsStream cs
  isValid : ∀ c ∈ cs, c.isValid ∨ c.tlast = true ∧ Mask c.lanes 0

/-- After a chunk that is not the last one the stream goes on. -/
lemma Framed.tail (h : Framed (c :: cs)) (hlast : c.tlast = false) : c.isValid ∧ Framed cs := by
  refine ⟨?_, (isPacket_cons_of_not_last hlast).mp h.isStream,
    fun d hd => h.isValid d (List.mem_cons_of_mem c hd)⟩
  rcases h.isValid c List.mem_cons_self with hc | ⟨hc, -⟩
  · exact hc
  · exact absurd hc (by rw [hlast]; exact Bool.false_ne_true)

lemma Framed.peel (h : Framed cs) (hlen : 8 < (streamBytes cs).length) :
    ∃ c ds, cs = c :: ds ∧ c.isValid ∧ c.tlast = false ∧ c.bytes.length = 8 ∧ Framed ds ∧
      (streamBytes cs).length = 8 + (streamBytes ds).length := by
  cases cs with
  | nil => exact absurd h.isStream id
  | cons c ds =>
      have hle := length_bytes_le c
      cases hlast : c.tlast with
      | true =>
          obtain rfl := (isPacket_cons_of_last hlast).mp h.isStream
          rw [streamBytes_cons, streamBytes_nil, List.append_nil] at hlen
          omega
      | false =>
          obtain ⟨hc, hds⟩ := h.tail hlast
          have h8 := length_bytes_eq hc hlast
          exact ⟨c, ds, rfl, hc, hlast, h8, hds, by rw [streamBytes_cons, List.length_append, h8]⟩

/-- Shifted, a stream that may end with an empty chunk is well-formed. -/
theorem shiftStream_framed (h1 : 1 ≤ off) (h8 : off ≤ 8) (hprev : prev.isValid)
    (hlast : prev.tlast = false) (hcs : Framed cs) :
    WellFormed (shiftStream off prev cs) ∧
      streamBytes (shiftStream off prev cs) = prev.bytes.drop (8 - off) ++ streamBytes cs := by
  induction cs generalizing prev with
  | nil => exact absurd hcs.isStream id
  | cons c cs ih =>
      cases hclast : c.tlast with
      | false =>
          obtain ⟨hc, hcs'⟩ := hcs.tail hclast
          obtain ⟨hvalid, htlast, hbytes⟩ := joinRest_full h1 h8 hprev hlast hc hclast
          obtain ⟨hwf, hrest⟩ := ih hc hclast hcs'
          rw [shiftStream, hclast, if_neg Bool.false_ne_true]
          refine ⟨.cons hvalid htlast hwf, ?_⟩
          rw [streamBytes_cons, hbytes, hrest, List.append_assoc, ← List.append_assoc (c.bytes.take _),
            List.take_append_drop, streamBytes_cons]
      | true =>
          obtain rfl := (isPacket_cons_of_last hclast).mp hcs.isStream
          rcases hcs.isValid c List.mem_cons_self with hc | ⟨-, hempty⟩
          · exact shiftStream_spec h1 h8 hprev hlast (.singleton hc hclast)
          · obtain ⟨hmask, htlast, hbytes⟩ := joinRest_mask h8 hprev hlast hempty
            have hfits : fits off c = true := htlast.trans (decide_eq_true (Nat.zero_sub _))
            have hnone : c.bytes = [] := List.eq_nil_of_length_eq_zero hempty.length_keptBytes
            rw [shiftStream, hclast, if_pos rfl, hfits, if_pos rfl]
            refine ⟨.singleton (isValid_of_mask hmask (by omega) fun h => ?_) hfits, ?_⟩
            · exact Bool.noConfusion (hfits.symm.trans h)
            · rw [streamBytes_cons, hbytes, streamBytes_cons, hnone, List.take_nil, List.append_assoc]

end Shift

end CloudFpga
