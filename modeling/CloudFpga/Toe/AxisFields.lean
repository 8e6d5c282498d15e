import CloudFpga.Nts.AxisRaw

/-!
The fields of IPv4 packets and of pseudo packets in their chunks, `AxisIp4.hpp` and `AxisPsd4.hpp`.

A chunk holds a packet in the order of its bytes, lane 0 first. `swapWord` and `swapDWord` of a
range of `tdata` are the big-endian words of its bytes.

* `be16`, `be32`: the big-endian words of bytes; `bytes16`, `bytes32`: the bytes of words.
* `getIp4HdrLen`, ..: the getters.
* `byteAt_data`: the bytes of a chunk that are valid are those of its lanes.
-/

namespace CloudFpga

open Foundation

/-! ### Words of bytes -/

def byteAt (bs : List Byte) (i : ℕ) : Byte := bs.getD i 0

/-- The big-endian word of two bytes. -/
def be16 (bs : List Byte) (i : ℕ) : BitVec 16 := byteAt bs i ++ byteAt bs (i + 1)

/-- The big-endian word of four bytes. -/
def be32 (bs : List Byte) (i : ℕ) : BitVec 32 :=
  byteAt bs i ++ byteAt bs (i + 1) ++ byteAt bs (i + 2) ++ byteAt bs (i + 3)

/-- The bytes of a word, the high one first. -/
def bytes16 (w : BitVec 16) : List Byte := [w.extractLsb' 8 8, w.extractLsb' 0 8]

def bytes32 (w : BitVec 32) : List Byte :=
  [w.extractLsb' 24 8, w.extractLsb' 16 8, w.extractLsb' 8 8, w.extractLsb' 0 8]

section Words

variable {as bs : List Byte} {i : ℕ}

lemma byteAt_append (h : i < as.length) : byteAt (as ++ bs) i = byteAt as i := by
  rw [byteAt, byteAt, List.getD_eq_getElem?_getD, List.getElem?_append_left h,
    List.getD_eq_getElem?_getD]

lemma byteAt_append_right (h : as.length ≤ i) :
    byteAt (as ++ bs) i = byteAt bs (i - as.length) := by
  rw [byteAt, byteAt, List.getD_eq_getElem?_getD, List.getElem?_append_right h,
    List.getD_eq_getElem?_getD]

lemma byteAt_drop (n i : ℕ) : byteAt (bs.drop n) i = byteAt bs (n + i) := by
  simp [byteAt, List.getD_eq_getElem?_getD]

lemma byteAt_take {n : ℕ} (h : i < n) : byteAt (bs.take n) i = byteAt bs i := by
  simp [byteAt, List.getD_eq_getElem?_getD, h]

lemma be16_append (h : i + 2 ≤ as.length) : be16 (as ++ bs) i = be16 as i := by
  rw [be16, be16, byteAt_append (by omega), byteAt_append (by omega)]

lemma be32_append (h : i + 4 ≤ as.length) : be32 (as ++ bs) i = be32 as i := by
  rw [be32, be32, byteAt_append (by omega), byteAt_append (by omega), byteAt_append (by omega),
    byteAt_append (by omega)]

lemma be16_drop (n i : ℕ) : be16 (bs.drop n) i = be16 bs (n + i) := by
  rw [be16, be16, byteAt_drop, byteAt_drop]
  rfl

lemma be32_drop (n i : ℕ) : be32 (bs.drop n) i = be32 bs (n + i) := by
  rw [be32, be32, byteAt_drop, byteAt_drop, byteAt_drop, byteAt_drop]
  rfl

lemma be16_bytes16 (w : BitVec 16) : be16 (bytes16 w) 0 = w := by
  simp only [be16, bytes16, byteAt, List.getD_cons_zero, List.getD_cons_succ]
  ext i hi
  simp only [BitVec.getElem_append, BitVec.getElem_extractLsb']
  split
  · simp [BitVec.getLsbD_eq_getElem hi]
  · rw [show 8 + (i - 8) = i by omega, BitVec.getLsbD_eq_getElem hi]

lemma be32_bytes32 (w : BitVec 32) : be32 (bytes32 w) 0 = w := by
  simp only [be32, bytes32, byteAt, List.getD_cons_zero, List.getD_cons_succ]
  ext i hi
  simp only [BitVec.getElem_append, BitVec.getElem_extractLsb']
  split
  · simp [BitVec.getLsbD_eq_getElem hi]
  · split
    · rw [show 8 + (i - 8) = i by omega, BitVec.getLsbD_eq_getElem hi]
    · split
      · rw [show 16 + (i - 8 - 8) = i by omega, BitVec.getLsbD_eq_getElem hi]
      · rw [show 24 + (i - 8 - 8 - 8) = i by omega, BitVec.getLsbD_eq_getElem hi]

end Words

namespace AxisRaw

/-- `tdata`, by bytes. -/
def data (c : AxisRaw) : List Byte := c.lanes.map (·.data)

lemma length_data (c : AxisRaw) : c.data.length = 8 := by
  rw [data, List.length_map, c.length_lanes]

/-- The valid bytes of a chunk are those of its first lanes. -/
lemma bytes_eq_take {c : AxisRaw} (h : c.isValid) : c.bytes = c.data.take c.bytes.length := by
  have hmask := (keptFirst_of_mask (mask_of_isValid h).1).2
  rw [getLen_eq h] at hmask
  exact hmask

lemma byteAt_data {c : AxisRaw} (h : c.isValid) {i : ℕ} (hi : i < c.bytes.length) :
    byteAt c.data i = byteAt c.bytes i := by
  rw [bytes_eq_take h, byteAt_take hi]

lemma be16_data {c : AxisRaw} (h : c.isValid) {i : ℕ} (hi : i + 2 ≤ c.bytes.length) :
    be16 c.data i = be16 c.bytes i := by
  rw [be16, be16, byteAt_data h (by omega), byteAt_data h (by omega)]

lemma be32_data {c : AxisRaw} (h : c.isValid) {i : ℕ} (hi : i + 4 ≤ c.bytes.length) :
    be32 c.data i = be32 c.bytes i := by
  rw [be32, be32, byteAt_data h (by omega), byteAt_data h (by omega), byteAt_data h (by omega),
    byteAt_data h (by omega)]

/-- A chunk of eight valid bytes. -/
def ofBytes (bs : List Byte) (tlast : Bool) (h : bs.length = 8) : AxisRaw where
  lanes := bs.map fun b => ⟨b, true⟩
  tlast := tlast
  length_lanes := by rw [List.length_map, h]

lemma length_zeros : (List.replicate 8 (0 : Byte)).length = 8 := rfl

section OfBytes

variable {bs : List Byte} {tlast : Bool} {h : bs.length = 8}

lemma keep_ofBytes : (ofBytes bs tlast h).lanes.map (·.keep) = List.replicate 8 true := by
  rw [ofBytes, List.map_map, ← h]
  exact List.map_eq_replicate_iff.mpr fun b _ => rfl

lemma isValid_ofBytes : (ofBytes bs tlast h).isValid := by
  cases tlast <;> simp [isValid, getLen, keep_ofBytes]

lemma data_ofBytes : (ofBytes bs tlast h).data = bs := by
  rw [data, ofBytes, List.map_map]
  exact List.map_id bs

lemma bytes_ofBytes : (ofBytes bs tlast h).bytes = bs := by
  have hlen : (ofBytes bs tlast h).getLen = 8 := by simp [getLen, keep_ofBytes]
  rw [getLen_eq isValid_ofBytes] at hlen
  rw [bytes_eq_take isValid_ofBytes, hlen, data_ofBytes, List.take_of_length_le h.le]

end OfBytes

/-- A full chunk has no other bytes. -/
lemma data_eq_bytes {c : AxisRaw} (hc : c.isValid) (h8 : c.bytes.length = 8) :
    c.data = c.bytes := by
  rw [bytes_eq_take hc, h8, List.take_of_length_le c.length_data.le]

end AxisRaw

/-- Behind the first chunk of a stream of more than eight bytes comes a stream. -/
lemma WellFormed.peel {cs : List AxisRaw} (h : WellFormed cs) (hlen : 8 < (streamBytes cs).length) :
    ∃ c ds, cs = c :: ds ∧ c.isValid ∧ c.tlast = false ∧ c.bytes.length = 8 ∧ WellFormed ds ∧
      (streamBytes cs).length = 8 + (streamBytes ds).length := by
  cases cs with
  | nil => exact absurd h.isStream id
  | cons c ds =>
      have hle := AxisRaw.length_bytes_le c
      cases hlast : c.tlast with
      | true =>
          obtain rfl := h.tail_eq_nil hlast
          rw [streamBytes_cons, streamBytes_nil, List.append_nil] at hlen
          omega
      | false =>
          have h8 := AxisRaw.length_bytes_eq h.head hlast
          refine ⟨c, ds, rfl, h.head, hlast, h8, h.tail hlast, ?_⟩
          rw [streamBytes_cons, List.length_append, h8]

namespace Toe

abbrev AxisIp4 := AxisRaw
abbrev AxisPsd4 := AxisRaw
abbrev Ip4HdrLen := BitVec 4
abbrev Ip4TotalLen := BitVec 16
abbrev Ip4DatLen := BitVec 16
abbrev TcpDataOff := BitVec 4

/-- `tdata.range(3, 0)`. -/
def getIp4HdrLen (c : AxisIp4) : Ip4HdrLen := (byteAt c.data 0).setWidth 4

/-- `swapWord(tdata.range(31, 16))`. -/
def getIp4TotalLen (c : AxisIp4) : Ip4TotalLen := be16 c.data 2

/-- `swapDWord(tdata.range(31, 0))`. -/
def getPsd4SrcAddr (c : AxisPsd4) : Ip4Addr := be32 c.data 0

/-- `swapDWord(tdata.range(63, 32))`. -/
def getPsd4DstAddr (c : AxisPsd4) : Ip4Addr := be32 c.data 4

/-- `swapWord(tdata.range(31, 16))`. -/
def getPsd4Len (c : AxisPsd4) : TcpSegLen := be16 c.data 2

/-- `swapWord(tdata.range(47, 32))`. -/
def getTcpSrcPort (c : AxisPsd4) : TcpPort := be16 c.data 4

/-- `swapWord(tdata.range(63, 48))`. -/
def getTcpDstPort (c : AxisPsd4) : TcpPort := be16 c.data 6

/-- `swapDWord(tdata.range(31, 0))`. -/
def getTcpSeqNum (c : AxisPsd4) : TcpSeqNum := be32 c.data 0

/-- `swapDWord(tdata.range(63, 32))`. -/
def getTcpAckNum (c : AxisPsd4) : TcpAckNum := be32 c.data 4

/-- `tdata.range(7, 4)`. -/
def getTcpDataOff (c : AxisPsd4) : TcpDataOff := (byteAt c.data 0).extractLsb' 4 4

/-- `getTcpCtrlFin`: `tdata.bit(8)`. -/
def getTcpCtrlFin (c : AxisPsd4) : Bool := (byteAt c.data 1).getLsbD 0

/-- `getTcpCtrlSyn`: `tdata.bit(9)`. -/
def getTcpCtrlSyn (c : AxisPsd4) : Bool := (c.lanes.getD 1 ⟨0, false⟩).data.getLsbD 1

/-- `getTcpCtrlRst`: `tdata.bit(10)`. -/
def getTcpCtrlRst (c : AxisPsd4) : Bool := (byteAt c.data 1).getLsbD 2

/-- `getTcpCtrlAck`: `tdata.bit(12)`. -/
def getTcpCtrlAck (c : AxisPsd4) : Bool := (byteAt c.data 1).getLsbD 4

/-- `swapWord(tdata.range(31, 16))`. -/
def getTcpWindow (c : AxisPsd4) : TcpWindow := be16 c.data 2

lemma getTcpCtrlSyn_eq (c : AxisPsd4) : getTcpCtrlSyn c = (byteAt c.data 1).getLsbD 1 := by
  simp only [getTcpCtrlSyn, byteAt, AxisRaw.data, List.getD_eq_getElem?_getD, List.getElem?_map]
  cases c.lanes[1]? <;> rfl

end Toe

end CloudFpga
