import CloudFpga.Nts.AxisHalves
import CloudFpga.Toe.RxEngine.HalfShift
import CloudFpga.Toe.SubChecksums

/-!
The setters of half chunks (`AxisRaw.hpp`), and those of the fields of IPv4 packets, of pseudo packets
and of UDP datagrams (`AxisIp4.hpp`, `AxisPsd4.hpp`, `AxisUdp.hpp`).

* `getTDataHi`, .., `setTKeepLo`: the higher half of a chunk are its first four lanes.
* `setIp4HdrLen`, ..: the setters.
* `data_clearUnusedBytes`, `bytes_clearUnusedBytes`: what `clearUnusedBytes` leaves of a chunk.
* `halfStream`: a stream behind the second half of a chunk, as it is put together of halves;
  `halfStream_spec`: it is well-formed, and its bytes are those of the half and of the stream.
-/

namespace CloudFpga

open Foundation Toe Uoe

namespace AxisRaw

/-! ### Half chunks -/

section Halves

variable (c : AxisRaw)

/-- `getTData(31, 0)`. -/
def getTDataHi : List Byte := c.data.take 4

/-- `getTData(63, 32)`. -/
def getTDataLo : List Byte := c.data.drop 4

/-- `getTKeep(3, 0)`. -/
def getTKeepHi : List Bool := (c.lanes.map (·.keep)).take 4

/-- `getTKeep(7, 4)`. -/
def getTKeepLo : List Bool := (c.lanes.map (·.keep)).drop 4

/-- `tdata.range(31, 0) = byteSwap32(half)`. -/
def setTDataHi (half : List Byte) : AxisRaw := setBytes c 0 half

/-- `tdata.range(63, 32) = byteSwap32(half)`. -/
def setTDataLo (half : List Byte) : AxisRaw := setBytes c 4 half

/-- `setTKeepX` of a range of `tkeep` that starts at the lane `i`. -/
def setKeeps (i : ℕ) (keep : List Bool) : AxisRaw where
  lanes := c.lanes.mapIdx fun j l =>
    if i ≤ j ∧ j < i + keep.length then { l with keep := keep.getD (j - i) false } else l
  tlast := c.tlast
  length_lanes := by rw [List.length_mapIdx, c.length_lanes]

/-- `tkeep.range(3, 0) = bitSwap4(half)`. -/
def setTKeepHi (half : List Bool) : AxisRaw := setKeeps c 0 half

/-- `tkeep.range(7, 4) = bitSwap4(half)`. -/
def setTKeepLo (half : List Bool) : AxisRaw := setKeeps c 4 half

/-- `getTKeepLo() == 0`. -/
def NoLowerHalf : Prop := c.getTKeepLo = List.replicate 4 false

instance : Decidable c.NoLowerHalf := inferInstanceAs (Decidable (_ = _))

end Halves

/-- `AxisRaw(0, 0xFF, 0)`. -/
def blank : AxisRaw := .ofBytes (List.replicate 8 0) false length_zeros

/-- `AxisRaw(0, 0x00, TLAST)`. -/
def emptyLast : AxisRaw := { zero with tlast := true }

/-- The second half of a chunk and the first half of the next one, in a new chunk. -/
def nextHalves (prev cur : AxisRaw) : AxisRaw :=
  (blank.setTDataHi prev.getTDataLo).setTDataLo cur.getTDataHi

end AxisRaw

/-! ### Fields -/

namespace AxisIp4

section Setters

variable (c : AxisIp4)

/-- `tdata.range(3, 0) = ihl`. -/
def setIp4HdrLen (ihl : Ip4HdrLen) : AxisIp4 :=
  AxisRaw.setBytes c 0 [(byteAt c.data 0).extractLsb' 4 4 ++ ihl]

/-- `tdata.range(7, 4) = ver`. -/
def setIp4Version (ver : BitVec 4) : AxisIp4 :=
  AxisRaw.setBytes c 0 [ver ++ (byteAt c.data 0).extractLsb' 0 4]

/-- `tdata.range(15, 8) = tos`. -/
def setIp4ToS (tos : Byte) : AxisIp4 := AxisRaw.setBytes c 1 [tos]

/-- `tdata.range(31, 16) = swapWord(len)`. -/
def setIp4TotalLen (len : Ip4TotalLen) : AxisIp4 := AxisRaw.setBytes c 2 (bytes16 len)

/-- `tdata.range(47, 32) = swapWord(id)`. -/
def setIp4Ident (id : BitVec 16) : AxisIp4 := AxisRaw.setBytes c 4 (bytes16 id)

/-- `tdata.range(55, 53) = flags`. -/
def setIp4Flags (flags : BitVec 3) : AxisIp4 :=
  AxisRaw.setBytes c 6 [flags ++ (byteAt c.data 6).extractLsb' 0 5]

/-- `tdata.range(63, 56) = offset(7, 0)` and `tdata.range(52, 48) = offset(12, 8)`. -/
def setIp4FragOff (offset : BitVec 13) : AxisIp4 :=
  AxisRaw.setBytes c 6
    [(byteAt c.data 6).extractLsb' 5 3 ++ offset.extractLsb' 8 5, offset.extractLsb' 0 8]

/-- `tdata.range(47, 32) = swapWord(port)`. -/
def setUdpSrcPort (port : BitVec 16) : AxisIp4 := AxisRaw.setBytes c 4 (bytes16 port)

/-- `tdata.range(63, 48) = swapWord(port)`. -/
def setUdpDstPort (port : BitVec 16) : AxisIp4 := AxisRaw.setBytes c 6 (bytes16 port)

end Setters

end AxisIp4

namespace AxisPsd4

section Setters

variable (c : AxisPsd4)

/-- `tdata.range(31, 0) = swapDWord(addr)`. -/
def setPsd4SrcAddr (addr : Ip4Addr) : AxisPsd4 := AxisRaw.setBytes c 0 (bytes32 addr)

/-- `tdata.range(63, 32) = swapDWord(addr)`. -/
def setPsd4DstAddr (addr : Ip4Addr) : AxisPsd4 := AxisRaw.setBytes c 4 (bytes32 addr)

/-- `tdata.range(15, 8) = prot`. -/
def setPsd4Prot (prot : Ip4Prot) : AxisPsd4 := AxisRaw.setBytes c 1 [prot]

/-- `tdata.range(31, 16) = swapWord(len)`. -/
def setPsd4Len (len : BitVec 16) : AxisPsd4 := AxisRaw.setBytes c 2 (bytes16 len)

/-- `tdata.range(47, 32) = swapWord(port)`. -/
def setUdpSrcPort (port : BitVec 16) : AxisPsd4 := AxisRaw.setBytes c 4 (bytes16 port)

/-- `tdata.range(63, 48) = swapWord(port)`. -/
def setUdpDstPort (port : BitVec 16) : AxisPsd4 := AxisRaw.setBytes c 6 (bytes16 port)

/-- `tdata.range(15, 0) = swapWord(len)`. -/
def setUdpLen (len : UdpLen) : AxisPsd4 := AxisRaw.setBytes c 0 (bytes16 len)

/-- `tdata.range(31, 16) = swapWord(csum)`. -/
def setUdpCsum (csum : UdpCsum) : AxisPsd4 := AxisRaw.setBytes c 2 (bytes16 csum)

end Setters

end AxisPsd4

namespace AxisUdp

section Setters

variable (c : AxisUdp)

/-- `tdata.range(15, 0) = swapWord(port)`. -/
def setUdpSrcPort (port : BitVec 16) : AxisUdp := AxisRaw.setBytes c 0 (bytes16 port)

/-- `tdata.range(31, 16) = swapWord(port)`. -/
def setUdpDstPort (port : BitVec 16) : AxisUdp := AxisRaw.setBytes c 2 (bytes16 port)

/-- `tdata.range(47, 32) = swapWord(length)`. -/
def setUdpLen (length : UdpLen) : AxisUdp := AxisRaw.setBytes c 4 (bytes16 length)

/-- `tdata.range(63, 48) = swapWord(csum)`. -/
def setUdpCsum (csum : UdpCsum) : AxisUdp := AxisRaw.setBytes c 6 (bytes16 csum)

end Setters

end AxisUdp

/-! ### What the setters do -/

namespace AxisRaw

variable {c prev cur : AxisRaw} {cs : List AxisRaw} {n : ℕ}

/-- The eight lanes of a chunk. -/
lemma exists_lanes (c : AxisRaw) : ∃ l0 l1 l2 l3 l4 l5 l6 l7,
    c.lanes = [l0, l1, l2, l3, l4, l5, l6, l7] :=
  Toe.exists_lanes c.length_lanes

lemma mask_bytes (hc : c.isValid) : Mask c.lanes c.bytes.length := by
  rw [← getLen_eq hc]
  exact mask_getLen hc

lemma keep_clearUnusedBytes (c : AxisRaw) :
    c.clearUnusedBytes.lanes.map (·.keep) = c.lanes.map (·.keep) := by
  rw [clearUnusedBytes]
  dsimp only
  split
  · refine List.ext_getElem? fun j => ?_
    simp only [List.getElem?_map, List.getElem?_mapIdx, Option.map_map]
    cases c.lanes[j]? with
    | none => rfl
    | some l =>
        simp only [Option.map_some, Function.comp_apply]
        split <;> rfl
  · rfl

/-- Unused bytes are zero. -/
lemma data_clearUnusedBytes (h : Mask c.lanes n) :
    c.clearUnusedBytes.data = c.data.take n ++ List.replicate (8 - n) 0 := by
  have hn := h.2
  rw [c.length_lanes] at hn
  have hkeep : c.lanes.map (·.keep) = List.replicate n true ++ List.replicate (8 - n) false := by
    have hmask := h.1
    rwa [c.length_lanes] at hmask
  have htake : ((c.lanes.map (·.keep)).takeWhile id).length = n := by
    rw [hkeep, List.takeWhile_append_of_pos (by simp)]
    cases 8 - n <;> simp [List.replicate_succ]
  rw [data, clearUnusedBytes, data]
  dsimp only
  rw [htake, if_pos hkeep]
  refine List.ext_getElem? fun j => ?_
  rw [List.getElem?_map, List.getElem?_mapIdx]
  by_cases hj : j < n
  · rw [List.getElem?_append_left (by simp [c.length_lanes]; omega), List.getElem?_take_of_lt hj,
      List.getElem?_map]
    cases c.lanes[j]? with
    | none => rfl
    | some l => simp [hj]
  · have hlen : ((c.lanes.map (·.data)).take n).length = n := by
      rw [List.length_take, List.length_map, c.length_lanes]
      omega
    rw [List.getElem?_append_right (by omega), hlen, List.getElem?_replicate]
    cases hl : c.lanes[j]? with
    | none =>
        rw [List.getElem?_eq_none_iff, c.length_lanes] at hl
        rw [if_neg (by omega)]
        rfl
    | some l =>
        have hlt := (List.getElem?_eq_some_iff.mp hl).1
        rw [c.length_lanes] at hlt
        rw [if_pos (by omega), Option.map_some, Option.map_some, if_neg hj]

lemma isValid_clearUnusedBytes (hc : c.isValid) : c.clearUnusedBytes.isValid := by
  have hkeep := keep_clearUnusedBytes c
  rw [isValid, getLen, hkeep] at *
  exact hc

lemma bytes_clearUnusedBytes (hc : c.isValid) : c.clearUnusedBytes.bytes = c.bytes := by
  have hmask := mask_bytes hc
  have hclear : Mask c.clearUnusedBytes.lanes c.bytes.length := by
    rw [Mask, keep_clearUnusedBytes, c.clearUnusedBytes.length_lanes, ← c.length_lanes]
    exact hmask
  have hle := hmask.2
  rw [c.length_lanes] at hle
  have htake : c.clearUnusedBytes.bytes = c.clearUnusedBytes.data.take c.bytes.length :=
    (keptFirst_of_mask hclear.1).2
  rw [htake, data_clearUnusedBytes hmask, List.take_append_of_le_length, List.take_take,
    Nat.min_self, ← bytes_eq_take hc]
  rw [List.length_take, length_data]
  omega

lemma wordSum_zeros (k : ℕ) : wordSum (List.replicate k (0 : Byte)) = 0 := by
  induction k using Nat.twoStepInduction with
  | zero => rfl
  | one => rfl
  | more k ih _ => rw [List.replicate_succ, List.replicate_succ, wordSum_cons_cons, ih]; rfl

/-- Zeros add nothing to the words. -/
lemma wordSum_append_zeros (bs : List Byte) (k : ℕ) :
    wordSum (bs ++ List.replicate k 0) = wordSum bs := by
  induction bs using List.twoStepInduction with
  | nil => exact wordSum_zeros k
  | singleton x =>
      cases k with
      | zero => rfl
      | succ k =>
          have hzero : (0 : Byte).toNat = 0 := rfl
          rw [List.replicate_succ, List.singleton_append, wordSum_cons_cons, wordSum_zeros,
            wordSum_singleton, hzero, add_zero, add_zero]
  | cons_cons x y bs ih _ =>
      rw [List.cons_append, List.cons_append, wordSum_cons_cons, wordSum_cons_cons, ih]

lemma wordSum_bytes16_append (w : BitVec 16) (bs : List Byte) :
    wordSum (bytes16 w ++ bs) = w.toNat + wordSum bs := by
  have hw := @wordSum_two (bytes16 w) le_rfl
  rw [be16_bytes16, List.take_of_length_le (by rfl)] at hw
  rw [wordSum_append (by simp [bytes16]), hw]

/-- The words of a chunk whose unused bytes are zero. -/
lemma wordSum_clearUnusedBytes (hc : c.isValid) :
    wordSum c.clearUnusedBytes.data = wordSum c.bytes := by
  rw [data_clearUnusedBytes (mask_bytes hc), wordSum_append_zeros, ← bytes_eq_take hc]

/-- A full chunk in front of a stream. -/
lemma wellFormed_cons_data {bs : List Byte} (hc : c.isValid) (hlast : c.tlast = false)
    (hdata : c.data = bs) (hcs : WellFormed cs) :
    WellFormed (c :: cs) ∧ streamBytes (c :: cs) = bs ++ streamBytes cs := by
  refine ⟨.cons hc hlast hcs, ?_⟩
  rw [streamBytes_cons, ← data_eq_bytes hc (length_bytes_eq hc hlast), hdata]

lemma isValid_blank : blank.isValid := isValid_ofBytes

lemma data_blank : blank.data = List.replicate 8 0 := data_ofBytes

/-! ### Chunks that are put together of halves -/

/-- All lanes are kept. -/
def keepAll (ls : List Lane) : List Lane := ls.map fun l => { l with keep := true }

lemma keepAll_of_mask {ls : List Lane} (h : Mask ls ls.length) : keepAll ls = ls := by
  have hmask := h.1
  rw [Nat.sub_self, List.replicate_zero, List.append_nil] at hmask
  refine (List.map_congr_left fun l hl => ?_).trans (List.map_id ls)
  have hkeep : l.keep ∈ ls.map (·.keep) := List.mem_map_of_mem hl
  rw [hmask] at hkeep
  rw [← List.eq_of_mem_replicate hkeep]
  rfl

lemma lanes_nextHalves (prev cur : AxisRaw) :
    (nextHalves prev cur).lanes = keepAll (prev.lanes.drop 4) ++ keepAll (cur.lanes.take 4) := by
  obtain ⟨p0, p1, p2, p3, p4, p5, p6, p7, hprev⟩ := prev.exists_lanes
  obtain ⟨c0, c1, c2, c3, c4, c5, c6, c7, hcur⟩ := cur.exists_lanes
  simp [nextHalves, setTDataHi, setTDataLo, setBytes, getTDataLo, getTDataHi, data, blank, ofBytes,
    keepAll, hprev, hcur, List.replicate]

lemma lanes_setKeeps (c : AxisRaw) (i : ℕ) (keep : List Bool) :
    (c.setKeeps i keep).lanes = c.lanes.mapIdx fun j l =>
      if i ≤ j ∧ j < i + keep.length then { l with keep := keep.getD (j - i) false } else l := rfl

lemma lanes_setTKeepLo (prev cur : AxisRaw) :
    ((nextHalves prev cur).setTKeepLo cur.getTKeepHi).lanes =
      keepAll (prev.lanes.drop 4) ++ cur.lanes.take 4 := by
  obtain ⟨c0, c1, c2, c3, c4, c5, c6, c7, hcur⟩ := cur.exists_lanes
  obtain ⟨p0, p1, p2, p3, p4, p5, p6, p7, hprev⟩ := prev.exists_lanes
  rw [setTKeepLo, lanes_setKeeps, lanes_nextHalves]
  simp [getTKeepHi, keepAll, hcur, hprev]

lemma lanes_setTKeeps (prev cur : AxisRaw) :
    (((nextHalves prev cur).setTKeepHi prev.getTKeepLo).setTKeepLo cur.getTKeepHi).lanes =
      prev.lanes.drop 4 ++ cur.lanes.take 4 := by
  obtain ⟨c0, c1, c2, c3, c4, c5, c6, c7, hcur⟩ := cur.exists_lanes
  obtain ⟨p0, p1, p2, p3, p4, p5, p6, p7, hprev⟩ := prev.exists_lanes
  rw [setTKeepLo, lanes_setKeeps, setTKeepHi, lanes_setKeeps, lanes_nextHalves]
  simp [getTKeepHi, getTKeepLo, keepAll, hcur, hprev]

lemma lanes_setTKeepHi (c d : AxisRaw) :
    ((d.setTDataHi c.getTDataLo).setTKeepHi c.getTKeepLo).lanes =
      c.lanes.drop 4 ++ d.lanes.drop 4 := by
  obtain ⟨c0, c1, c2, c3, c4, c5, c6, c7, hc⟩ := c.exists_lanes
  obtain ⟨d0, d1, d2, d3, d4, d5, d6, d7, hd⟩ := d.exists_lanes
  simp [setTKeepHi, setKeeps, setTDataHi, setBytes, getTDataLo, getTKeepLo, data, hc, hd]

/-- The second half of a full chunk. -/
lemma keepAll_drop (hc : c.isValid) (hlast : c.tlast = false) :
    keepAll (c.lanes.drop 4) = c.lanes.drop 4 := by
  refine keepAll_of_mask ?_
  have hmask := (mask_bytes hc).drop 4
  rw [length_bytes_eq hc hlast] at hmask
  rw [List.length_drop, c.length_lanes]
  exact hmask

/-- The first half of a chunk that has at least four bytes. -/
lemma keepAll_take (hc : c.isValid) (h4 : 4 ≤ c.bytes.length) :
    keepAll (c.lanes.take 4) = c.lanes.take 4 := by
  refine keepAll_of_mask ?_
  have hmask := (mask_bytes hc).take 4
  rw [Nat.min_eq_left h4] at hmask
  rw [List.length_take, c.length_lanes]
  exact hmask

lemma noLowerHalf_iff (hc : c.isValid) : c.NoLowerHalf ↔ c.bytes.length ≤ 4 := by
  have hmask := (mask_bytes hc).drop 4
  have hkeep := hmask.1
  rw [List.length_drop, c.length_lanes] at hkeep
  rw [NoLowerHalf, getTKeepLo, ← List.map_drop, hkeep]
  constructor
  · intro h
    by_contra hlt
    obtain ⟨k, hk⟩ : ∃ k, c.bytes.length - 4 = k + 1 := ⟨c.bytes.length - 5, by omega⟩
    rw [hk, List.replicate_succ, List.cons_append] at h
    simp [List.replicate] at h
  · intro h
    rw [Nat.sub_eq_zero_of_le h, List.replicate_zero, List.nil_append]

/-- What is written for a stream behind the second half of `prev`. The chunk `rest` of the second half
of the last chunk, and the last chunk `fit` of two halves, are written in different ways. -/
def halfStream (fit : AxisRaw → AxisRaw → AxisRaw) (rest : AxisRaw → AxisRaw) :
    AxisRaw → List AxisRaw → List AxisRaw
  | _, [] => []
  | prev, cur :: cs =>
      if cur.tlast then
        if cur.NoLowerHalf then [fit prev cur] else [nextHalves prev cur, rest cur]
      else nextHalves prev cur :: halfStream fit rest cur cs

/-- The last chunks have the bytes that they are written for. -/
structure HalfEnd (fit : AxisRaw → AxisRaw → AxisRaw) (rest : AxisRaw → AxisRaw) : Prop where
  fit : ∀ prev cur, prev.isValid → prev.tlast = false → cur.isValid → cur.NoLowerHalf →
    WellFormed [fit prev cur] ∧ (fit prev cur).bytes = prev.bytes.drop 4 ++ cur.bytes
  rest : ∀ cur, cur.isValid → ¬cur.NoLowerHalf →
    WellFormed [rest cur] ∧ (rest cur).bytes = cur.bytes.drop 4

lemma fits_eq (hc : c.isValid) : fits 4 c = decide c.NoLowerHalf := by
  rw [Bool.eq_iff_iff, decide_eq_true_iff, noLowerHalf_iff hc, fits_iff hc, getLen_eq hc]

/-- A chunk of two halves, in front of a stream that goes on. -/
lemma nextHalves_eq (hprev : prev.isValid) (hplast : prev.tlast = false) (hcur : cur.isValid)
    (hno : ¬cur.NoLowerHalf) : nextHalves prev cur = joinRest 4 prev cur := by
  have hfits : fits 4 cur = false := by rw [fits_eq hcur, decide_eq_false hno]
  rw [noLowerHalf_iff hcur] at hno
  refine AxisRaw.ext ?_ hfits.symm
  rw [lanes_nextHalves, keepAll_drop hprev hplast, keepAll_take hcur (by omega)]
  rfl

/-- A last chunk whose unused bytes are zero. -/
lemma wellFormed_clear (h : WellFormed [c]) :
    WellFormed [c.clearUnusedBytes] ∧ c.clearUnusedBytes.bytes = c.bytes := by
  have hlast : c.tlast = true := by
    by_contra hlast
    exact (h.tail (by simpa using hlast)).isStream
  exact ⟨.singleton (isValid_clearUnusedBytes h.head) hlast, bytes_clearUnusedBytes h.head⟩

lemma noLowerHalf_clear (c : AxisRaw) : c.clearUnusedBytes.NoLowerHalf ↔ c.NoLowerHalf := by
  rw [NoLowerHalf, NoLowerHalf, getTKeepLo, getTKeepLo, keep_clearUnusedBytes]

/-- The second half of a chunk, in the last one. -/
lemma restChunk_spec (hcur : cur.isValid) (hno : ¬cur.NoLowerHalf) :
    WellFormed [restChunk 4 cur] ∧ (restChunk 4 cur).bytes = cur.bytes.drop 4 := by
  rw [noLowerHalf_iff hcur] at hno
  exact restHalf_spec hcur (by omega)

/-- The second half of a full chunk and a last chunk of at most four bytes. -/
lemma fitChunk_spec (hprev : prev.isValid) (hplast : prev.tlast = false) (hcur : cur.isValid)
    (hno : cur.NoLowerHalf) :
    WellFormed [{ join 4 prev cur with tlast := true }.clearUnusedBytes] ∧
      { join 4 prev cur with tlast := true }.clearUnusedBytes.bytes =
        prev.bytes.drop 4 ++ cur.bytes := by
  have hfits : joinRest 4 prev cur = { join 4 prev cur with tlast := true } := by
    rw [joinRest, fits_eq hcur, decide_eq_true hno]
  obtain ⟨hmask, -, hbytes⟩ := joinRest_mask (show 4 ≤ 8 by decide) hprev hplast (mask_bytes hcur)
  rw [noLowerHalf_iff hcur] at hno
  rw [hfits] at hmask hbytes
  have hvalid := isValid_of_mask hmask (by omega) fun h => by cases h
  obtain ⟨hwf, hclear⟩ := wellFormed_clear (.singleton hvalid rfl)
  refine ⟨hwf, ?_⟩
  rw [hclear, hbytes, List.take_of_length_le (by omega)]

/-- **A stream behind the second half of a chunk.** -/
theorem halfStream_spec {fit : AxisRaw → AxisRaw → AxisRaw} {rest : AxisRaw → AxisRaw}
    (h : HalfEnd fit rest) (hprev : prev.isValid) (hplast : prev.tlast = false)
    (hcs : WellFormed cs) :
    WellFormed (halfStream fit rest prev cs) ∧
      streamBytes (halfStream fit rest prev cs) = prev.bytes.drop 4 ++ streamBytes cs := by
  induction cs generalizing prev with
  | nil => exact absurd hcs.isStream id
  | cons cur cs ih =>
      have hcur := hcs.head
      rw [halfStream]
      cases hlast : cur.tlast with
      | false =>
          have h8 := length_bytes_eq hcur hlast
          have hno : ¬cur.NoLowerHalf := by
            rw [noLowerHalf_iff hcur]
            omega
          obtain ⟨hvalid, htlast, hbytes⟩ :=
            joinRest_full (show 1 ≤ 4 by decide) (by decide) hprev hplast hcur hlast
          obtain ⟨hwf, hrest⟩ := ih hcur hlast (hcs.tail hlast)
          rw [if_neg Bool.false_ne_true, nextHalves_eq hprev hplast hcur hno]
          refine ⟨.cons hvalid htlast hwf, ?_⟩
          rw [streamBytes_cons, hbytes, hrest, streamBytes_cons, List.append_assoc,
            ← List.append_assoc (cur.bytes.take _), List.take_append_drop]
      | true =>
          obtain rfl := hcs.tail_eq_nil hlast
          rw [if_pos rfl, streamBytes_cons, streamBytes_nil, List.append_nil]
          by_cases hno : cur.NoLowerHalf
          · obtain ⟨hwf, hbytes⟩ := h.fit prev cur hprev hplast hcur hno
            rw [if_pos hno, streamBytes_cons, streamBytes_nil, List.append_nil]
            exact ⟨hwf, hbytes⟩
          · obtain ⟨hwf, hbytes⟩ := h.rest cur hcur hno
            obtain ⟨hmask, htlast, hhalves⟩ :=
              joinRest_mask (show 4 ≤ 8 by decide) hprev hplast (mask_bytes hcur)
            have hlong : 4 < cur.bytes.length := by
              rw [noLowerHalf_iff hcur] at hno
              omega
            have hlast' : (joinRest 4 prev cur).tlast = false := by
              rw [htlast, decide_eq_false_iff_not]
              omega
            rw [if_neg hno, nextHalves_eq hprev hplast hcur hno]
            refine ⟨.cons (isValid_of_mask hmask (by omega) fun _ => by omega) hlast' hwf, ?_⟩
            rw [streamBytes_cons, hhalves, streamBytes_cons, hbytes, streamBytes_nil,
              List.append_nil, List.append_assoc, List.take_append_drop]

end AxisRaw

end CloudFpga
