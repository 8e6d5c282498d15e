import CloudFpga.Foundation.OnesComplement
import CloudFpga.Toe.AxisFields

/-!
The four partial checksums of a pseudo packet, one for each pair of lanes, as
`pCheckSumAccumulator` and `pSubChecksumAccumulators` accumulate them.

* `csumChunk`: the sums after a chunk.
* `SumsHold`: the sums together make up a one's complement sum.
* `SumsHold.stream`: the sums behind a stream.
-/

namespace CloudFpga.Toe

open Foundation AxisRaw

/-- There are four sums. -/
instance neZero_four : NeZero 4 := ⟨by decide⟩

/-- The word of a pair of lanes, if the first one is kept. -/
def csumWord (c : AxisPsd4) (i : ℕ) : Option (BitVec 16) :=
  let hi := c.lanes.getD (2 * i) ⟨0, false⟩
  let lo := c.lanes.getD (2 * i + 1) ⟨0, false⟩
  if hi.keep ∧ lo.keep then some (hi.data ++ lo.data)
  else if hi.keep then some (hi.data ++ (0 : Byte))
  else none

/-- The sums after a chunk. -/
def csumChunk (sums : Fin 4 → BitVec 17) (c : AxisPsd4) : Fin 4 → BitVec 17 := fun i =>
  match csumWord c i with
  | some w => carryAdd (sums i) w
  | none => sums i

/-- The sums do not carry, and together they are a sum of terms with the sum `n`. -/
structure SumsHold (sums : Fin 4 → BitVec 17) (n : ℕ) : Prop where
  le : ∀ i, (sums i).toNat ≤ 65535
  total : ones ((sums 0).toNat + (sums 1).toNat + (sums 2).toNat + (sums 3).toNat) = ones n

/-- The four words of a chunk are added, valid or not. -/
def addWords (sums : Fin 4 → BitVec 17) (c : AxisRaw) : Fin 4 → BitVec 17 := fun i =>
  carryAdd (sums i) (be16 c.data (2 * i))

section Sums

variable {sums : Fin 4 → BitVec 17} {c : AxisPsd4} {cs : List AxisPsd4} {n : ℕ}

/-- The value of a word, if there is one. -/
def wordVal (w : Option (BitVec 16)) : ℕ := (w.map BitVec.toNat).getD 0

lemma toNat_csumChunk (h : (sums i).toNat ≤ 65535) :
    (csumChunk sums c i).toNat = ones ((sums i).toNat + wordVal (csumWord c i)) := by
  rw [csumChunk]
  cases csumWord c i with
  | none => exact (ones_of_le h).symm
  | some w => exact toNat_carryAdd h w

lemma exists_lanes {lanes : List Lane} (hlen : lanes.length = 8) :
    ∃ l0 l1 l2 l3 l4 l5 l6 l7, lanes = [l0, l1, l2, l3, l4, l5, l6, l7] :=
  match lanes, hlen with
  | [l0, l1, l2, l3, l4, l5, l6, l7], _ => ⟨l0, l1, l2, l3, l4, l5, l6, l7, rfl⟩

/-- The words of a valid chunk. -/
lemma wordSum_bytes (hc : c.isValid) :
    wordVal (csumWord c 0) + wordVal (csumWord c 1) + wordVal (csumWord c 2)
      + wordVal (csumWord c 3) = wordSum c.bytes := by
  have hmask := (mask_of_isValid hc).1
  have h1 := one_le_length_bytes hc
  have h8 := length_bytes_le c
  rw [← getLen_eq hc] at h1 h8
  have hbytes := (keptFirst_of_mask hmask).2
  rw [bytes, hbytes]
  generalize c.getLen = n at hmask h1 h8
  obtain ⟨lanes, tlast, hlen⟩ := c
  obtain ⟨l0, l1, l2, l3, l4, l5, l6, l7, rfl⟩ := exists_lanes hlen
  simp only [List.map_cons, List.map_nil] at hmask ⊢
  interval_cases n <;>
    simp_all [csumWord, wordVal, wordSum_cons_cons, wordSum_singleton, toNat_byte_append,
      add_assoc]

lemma SumsHold.chunk (h : SumsHold sums n) (hc : c.isValid) :
    SumsHold (csumChunk sums c) (n + wordSum c.bytes) := by
  refine ⟨fun i => ?_, ?_⟩
  · rw [toNat_csumChunk (h.le i)]
    exact ones_le _
  · rw [toNat_csumChunk (h.le 0), toNat_csumChunk (h.le 1), toNat_csumChunk (h.le 2),
      toNat_csumChunk (h.le 3), ones_add_four, ← wordSum_bytes hc,
      show ((0 : Fin 4) : ℕ) = 0 from rfl, show ((1 : Fin 4) : ℕ) = 1 from rfl,
      show ((2 : Fin 4) : ℕ) = 2 from rfl, show ((3 : Fin 4) : ℕ) = 3 from rfl]
    generalize wordVal (csumWord c 0) = w0, wordVal (csumWord c 1) = w1,
      wordVal (csumWord c 2) = w2, wordVal (csumWord c 3) = w3
    calc ones ((sums 0).toNat + w0 + ((sums 1).toNat + w1) + ((sums 2).toNat + w2)
          + ((sums 3).toNat + w3))
        = ones ((sums 0).toNat + (sums 1).toNat + (sums 2).toNat + (sums 3).toNat
          + (w0 + w1 + w2 + w3)) := by
          congr 1
          omega
      _ = ones (n + (w0 + w1 + w2 + w3)) := by
          rw [← ones_add_ones, h.total, ones_add_ones]

/-- The sums behind a stream. -/
theorem SumsHold.stream (h : SumsHold sums n) (hcs : WellFormed cs) :
    SumsHold (cs.foldl csumChunk sums) (n + wordSum (streamBytes cs)) := by
  induction cs generalizing sums n with
  | nil => exact absurd hcs.isStream id
  | cons c cs ih =>
      rw [List.foldl_cons, streamBytes_cons]
      cases hlast : c.tlast with
      | true =>
          obtain rfl := hcs.tail_eq_nil hlast
          rw [List.foldl_nil, streamBytes_nil, List.append_nil]
          exact h.chunk hcs.head
      | false =>
          have heven : c.bytes.length % 2 = 0 := by
            rw [length_bytes_eq hcs.head hlast]
          rw [wordSum_append heven, ← add_assoc]
          exact ih (h.chunk hcs.head) (hcs.tail hlast)

lemma addWords_eq (sums : Fin 4 → BitVec 17) (c : AxisRaw) :
    addWords sums c = csumChunk sums (ofBytes c.data true c.length_data) := by
  obtain ⟨lanes, tlast, hlen⟩ := c
  obtain ⟨l0, l1, l2, l3, l4, l5, l6, l7, rfl⟩ := exists_lanes hlen
  funext i
  fin_cases i <;> rfl

/-- The words of a chunk. -/
lemma sumsHold_addWords (h : SumsHold sums n) (c : AxisRaw) :
    SumsHold (addWords sums c) (n + wordSum c.data) := by
  have hchunk := h.chunk (c := ofBytes c.data true c.length_data) isValid_ofBytes
  rw [bytes_ofBytes] at hchunk
  rw [addWords_eq]
  exact hchunk

/-- One word. -/
lemma sumsHold_addWord (h : SumsHold sums n) (i : Fin 4) (w : BitVec 16) :
    SumsHold (Function.update sums i (carryAdd (sums i) w)) (n + w.toNat) := by
  have hadd := toNat_carryAdd (h.le i) w
  refine ⟨fun j => ?_, ?_⟩
  · by_cases hj : j = i
    · rw [hj, Function.update_self, hadd]
      exact ones_le _
    · rw [Function.update_of_ne hj]
      exact h.le j
  · have hsum (f : Fin 4 → BitVec 17) :
        (f 0).toNat + (f 1).toNat + (f 2).toNat + (f 3).toNat = ∑ j, (f j).toNat := by
      rw [Fin.sum_univ_four]
    have hsplit (f : Fin 4 → BitVec 17) : ∑ j, (f j).toNat =
        (f i).toNat + ∑ j ∈ Finset.univ.erase i, (f j).toNat :=
      (Finset.add_sum_erase _ _ (Finset.mem_univ i)).symm
    have hrest : ∑ j ∈ Finset.univ.erase i,
        (Function.update sums i (carryAdd (sums i) w) j).toNat =
          ∑ j ∈ Finset.univ.erase i, (sums j).toNat :=
      Finset.sum_congr rfl fun j hj => by rw [Function.update_of_ne (Finset.ne_of_mem_erase hj)]
    have htotal := h.total
    rw [hsum, hsplit] at htotal
    rw [hsum, hsplit, hrest, Function.update_self, hadd, ones_add_ones, add_right_comm,
      ← ones_add_ones, htotal, ones_add_ones]

lemma wordSum_two {bs : List Byte} (h : 2 ≤ bs.length) :
    wordSum (bs.take 2) = (be16 bs 0).toNat := by
  match bs, h with
  | x :: y :: bs, _ =>
      have h0 : byteAt (x :: y :: bs) 0 = x := rfl
      have h1 : byteAt (x :: y :: bs) (0 + 1) = y := rfl
      rw [List.take_succ_cons, List.take_succ_cons, List.take_zero, wordSum_cons_cons,
        wordSum_nil, be16, h0, h1, toNat_byte_append, add_zero]

lemma wordSum_four {bs : List Byte} (h : 4 ≤ bs.length) :
    wordSum (bs.take 4) = (be16 bs 0).toNat + (be16 bs 2).toNat := by
  have hsplit : bs.take 4 = bs.take 2 ++ (bs.drop 2).take 2 := by rw [← List.take_add]
  have hrest : wordSum ((bs.drop 2).take 2) = (be16 bs 2).toNat := by
    rw [wordSum_two (by rw [List.length_drop]; omega), be16_drop]
  rw [hsplit, wordSum_append (by rw [List.length_take]; omega), wordSum_two (by omega), hrest]

lemma sumsHold_zero : SumsHold (fun _ => 0) 0 := ⟨fun _ => Nat.zero_le _, rfl⟩

/-- The sum of the sums. -/
def csumTotal (sums : Fin 4 → BitVec 17) : BitVec 17 :=
  carryFold (carryFold (sums 0 + sums 2) + carryFold (sums 1 + sums 3))

lemma SumsHold.toNat_csumTotal (h : SumsHold sums n) : (csumTotal sums).toNat = ones n := by
  have h02 := toNat_carryFold_add (h.le 0) (h.le 2)
  have h13 := toNat_carryFold_add (h.le 1) (h.le 3)
  rw [csumTotal, toNat_carryFold_add (by rw [h02]; exact ones_le _) (by rw [h13]; exact ones_le _),
    h02, h13, ones_add_ones, ones_add_ones_right, ← h.total]
  congr 1
  omega

end Sums

end CloudFpga.Toe
