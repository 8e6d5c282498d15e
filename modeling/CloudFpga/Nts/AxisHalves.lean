import CloudFpga.Toe.AxisFields

/-!
More of the setters and getters of `AxisRaw.hpp`, and of the fields of UDP datagrams in their chunks
(`AxisIp4.hpp`, `AxisUdp.hpp`).

* `getTKeep`: the mask in big-endian order, by which it is compared.
* `clearUnusedBytes`: the bytes that are not kept are zero, as `setTLast` leaves them.
* `setBytes`: the setters of a range of bytes.
* `getIp4Prot`, .., `getUdpCsum`: the getters.
-/

namespace CloudFpga

namespace AxisRaw

/-- `getTKeep`: the bit of lane 0 is the highest one. -/
def getTKeep (c : AxisRaw) : ℕ := (c.lanes.map fun l => l.keep.toNat).foldl (fun n k => 2 * n + k) 0

/-- `clearUnusedBytes`: only the masks of the low bits are matched. -/
def clearUnusedBytes (c : AxisRaw) : AxisRaw where
  lanes :=
    let keep := c.lanes.map (·.keep)
    let n := (keep.takeWhile id).length
    if keep = List.replicate n true ++ List.replicate (8 - n) false then
      c.lanes.mapIdx fun i l => if i < n then l else { l with data := 0 }
    else c.lanes
  tlast := c.tlast
  length_lanes := by
    dsimp only
    split
    · rw [List.length_mapIdx, c.length_lanes]
    · exact c.length_lanes

/-- `setTLast(TLAST)`, which also clears. -/
def setTLastAndClear (c : AxisRaw) : AxisRaw := { c with tlast := true }.clearUnusedBytes

/-- All lanes are kept. -/
def setTKeepAll (c : AxisRaw) : AxisRaw where
  lanes := c.lanes.map fun l => { l with keep := true }
  tlast := c.tlast
  length_lanes := by rw [List.length_map, c.length_lanes]

/-- `AxisIp4(data, 0x0F, TLAST)` with the first four bytes of a chunk. -/
def firstHalf (c : AxisRaw) : AxisRaw where
  lanes := (c.lanes.take 4).map (fun l => { l with keep := true }) ++ List.replicate 4 ⟨0, false⟩
  tlast := true
  length_lanes := by
    rw [List.length_append, List.length_map, List.length_take, c.length_lanes,
      List.length_replicate]
    rfl

/-- `setX` of a range of `tdata` that starts at the lane `i`. -/
def setBytes (c : AxisRaw) (i : ℕ) (bs : List Byte) : AxisRaw where
  lanes := c.lanes.mapIdx fun j l =>
    if i ≤ j ∧ j < i + bs.length then { l with data := bs.getD (j - i) 0 } else l
  tlast := c.tlast
  length_lanes := by rw [List.length_mapIdx, c.length_lanes]

/-- A setter leaves `tkeep` alone. -/
lemma keep_setBytes (c : AxisRaw) (i : ℕ) (bs : List Byte) :
    (setBytes c i bs).lanes.map (·.keep) = c.lanes.map (·.keep) := by
  refine List.ext_getElem? fun j => ?_
  simp only [setBytes, List.getElem?_map, List.getElem?_mapIdx, Option.map_map]
  cases c.lanes[j]? with
  | none => rfl
  | some l =>
      simp only [Option.map_some, Function.comp_apply]
      split <;> rfl

lemma isValid_setBytes {c : AxisRaw} (hc : c.isValid) (i : ℕ) (bs : List Byte) :
    (setBytes c i bs).isValid := by
  have hkeep := keep_setBytes c i bs
  rw [AxisRaw.isValid, AxisRaw.getLen, hkeep] at *
  exact hc

/-- A setter replaces a range of the bytes. -/
lemma data_setBytes (c : AxisRaw) {i : ℕ} {bs : List Byte} (h : i + bs.length ≤ 8) :
    (setBytes c i bs).data = c.data.take i ++ (bs ++ c.data.drop (i + bs.length)) := by
  have hlen := c.length_lanes
  refine List.ext_getElem? fun j => ?_
  simp only [AxisRaw.data, setBytes, List.getElem?_map, List.getElem?_mapIdx]
  by_cases hlo : j < i
  · rw [List.getElem?_append_left (by simp; omega), List.getElem?_take_of_lt hlo,
      List.getElem?_map]
    cases c.lanes[j]? with
    | none => rfl
    | some l => simp [show ¬i ≤ j by omega]
  · rw [List.getElem?_append_right (by simp; omega)]
    simp only [List.length_take, List.length_map, hlen, show min i 8 = i by omega]
    by_cases hhi : j < i + bs.length
    · rw [List.getElem?_append_left (by omega), List.getElem?_eq_getElem (by omega : j < _),
        List.getElem?_eq_getElem (by omega : j - i < bs.length)]
      simp [show i ≤ j by omega, hhi, List.getD_eq_getElem?_getD, show j - i < bs.length by omega]
    · rw [List.getElem?_append_right (by omega), List.getElem?_drop, List.getElem?_map]
      rw [show i + bs.length + (j - i - bs.length) = j by omega]
      cases c.lanes[j]? with
      | none => rfl
      | some l => simp [hhi]

end AxisRaw

namespace Uoe

open Toe

abbrev AxisUdp := AxisRaw
abbrev UdpLen := BitVec 16
abbrev UdpCsum := BitVec 16
abbrev Ip4Prot := BitVec 8

/-! ### IPv4 headers -/

/-- `tdata.range(15, 8)`. -/
def getIp4Prot (c : AxisIp4) : Ip4Prot := byteAt c.data 1

/-- `swapDWord(tdata.range(63, 32))`. -/
def getIp4SrcAddr (c : AxisIp4) : Ip4Addr := be32 c.data 4

/-- `swapDWord(tdata.range(31, 0))`. -/
def getIp4DstAddr (c : AxisIp4) : Ip4Addr := be32 c.data 0

/-- `getUdpLen` of an IPv4 packet: `swapWord(tdata.range(15, 0))`. -/
def getIp4UdpLen (c : AxisIp4) : UdpLen := be16 c.data 0

/-! ### UDP headers -/

/-- `swapWord(tdata.range(15, 0))`. -/
def getUdpSrcPort (c : AxisUdp) : BitVec 16 := be16 c.data 0

/-- `swapWord(tdata.range(31, 16))`. -/
def getUdpDstPort (c : AxisUdp) : BitVec 16 := be16 c.data 2

/-- `swapWord(tdata.range(47, 32))`. -/
def getUdpLen (c : AxisUdp) : UdpLen := be16 c.data 4

/-- `swapWord(tdata.range(63, 48))`. -/
def getUdpCsum (c : AxisUdp) : UdpCsum := be16 c.data 6

end Uoe

end CloudFpga
