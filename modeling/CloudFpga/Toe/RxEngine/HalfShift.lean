import CloudFpga.Nts.Shift

/-!
Streams that are shifted by half a chunk, as `pTcpLengthExtractor`, `pInsertPseudoHeader` and
`pCheckSumAccumulator` of `rx_engine.cpp` shift them.

* `joinHalves`, `restHalf`: the higher half of a chunk in front of the lower half of the next one,
  and in the last chunk.
* `halfShift`: a stream behind the higher half of a chunk.
* `halfShift_spec`: it is well-formed, and its bytes are those of the half and of the stream.
-/

namespace CloudFpga.Toe

open Foundation AxisRaw

/-- The higher half of `prev` and the lower half of `cur`: the last chunk if `cur` has no higher
half, `getLE_TKeep()[4] == 0`. -/
def joinHalves (prev cur : AxisRaw) : AxisRaw := { join 4 prev cur with tlast := fits 4 cur }

/-- The higher half of `prev`, in the last chunk. -/
def restHalf (prev : AxisRaw) : AxisRaw := { join 4 prev zero with tlast := true }

/-- A stream behind the higher half of `prev`. -/
def halfShift : AxisRaw → List AxisRaw → List AxisRaw
  | _, [] => []
  | prev, cur :: cs =>
      joinHalves prev cur ::
        if cur.tlast then if fits 4 cur then [] else [restHalf cur] else halfShift cur cs

section Shift

variable {prev cur c : AxisRaw} {cs : List AxisRaw}

lemma halfShift_eq (prev : AxisRaw) (cs : List AxisRaw) :
    halfShift prev cs = shiftStream 4 prev cs := by
  induction cs generalizing prev with
  | nil => rfl
  | cons cur cs ih =>
      rw [halfShift, shiftStream, ih]
      rfl

/-- A stream behind the higher half of a full chunk. -/
theorem halfShift_spec (hprev : prev.isValid) (hlast : prev.tlast = false) (hcs : WellFormed cs) :
    WellFormed (halfShift prev cs) ∧
      streamBytes (halfShift prev cs) = prev.bytes.drop 4 ++ streamBytes cs := by
  rw [halfShift_eq]
  exact shiftStream_spec (by decide) (by decide) hprev hlast hcs

/-- Two halves of full chunks. -/
lemma joinHalves_full (hprev : prev.isValid) (hplast : prev.tlast = false) (hc : c.isValid)
    (hlast : c.tlast = false) :
    (joinHalves prev c).isValid ∧ (joinHalves prev c).tlast = false ∧
      (joinHalves prev c).bytes = prev.bytes.drop 4 ++ c.bytes.take 4 :=
  joinRest_full (by decide) (by decide) hprev hplast hc hlast

/-- The higher half of the last chunk of a stream. -/
lemma restHalf_spec (hc : c.isValid) (h4 : 4 < c.bytes.length) :
    WellFormed [restHalf c] ∧ (restHalf c).bytes = c.bytes.drop 4 := by
  have hrest : restHalf c = lastChunk 4 (carry 4 zero c) := restChunk_eq (by decide) zero
  have hmask : Mask (restHalf c).lanes (c.getLen - 4) := by
    rw [hrest, lanes_lastChunk, take_lanes_carry (by decide)]
    exact ((mask_getLen hc).drop 4).append_empty 4
  have hlen := getLen_eq hc
  refine ⟨.singleton (isValid_of_mask hmask (by omega) fun h => by cases h) rfl, ?_⟩
  rw [hrest]
  exact bytes_lastChunk (by decide) hc

end Shift

end CloudFpga.Toe
