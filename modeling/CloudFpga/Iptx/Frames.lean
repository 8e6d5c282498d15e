import CloudFpga.Iptx.Engine

/-!
The frame that the IP transmitter makes of a packet.

* `IpPacket`: the packets, with or without options; `withHdrCsum`: a packet with the checksum of its
  header.
* `HcaHeader`, `HcaEnd`: the registers of `pHeaderChecksumAccumulator` in a header and behind it.
* `ipFrame`: the chunks that go to the L2 multiplexer; `ipFrame_spec`: they are the Ethernet frame with
  the packet.
-/

namespace CloudFpga.Iptx

open Foundation AxisRaw Toe
open Arp (AxisEth ArpLkpReply setEthDstAddr setEthSrcAddrHi setEthSrcAddrLo setEthertType)
open Icmp (setIp4HdrCsum)

/-! ### The bytes -/

/-- The length of the header. -/
def hdrLen (bs : List Byte) : ℕ := 4 * ((byteAt bs 0).setWidth 4 : Ip4HdrLen).toNat

/-- The words of the header without its checksum. -/
def hdrWords (bs : List Byte) : List Byte := bs.take 10 ++ (bs.take (hdrLen bs)).drop 12

def hdrCsum (bs : List Byte) : Ip4HdrCsum := ~~~onesSum (words (hdrWords bs))

/-- The packet with the checksum of its header. -/
def withHdrCsum (bs : List Byte) : List Byte := bs.take 10 ++ (bytes16 (hdrCsum bs) ++ bs.drop 12)

/-- A packet of more than three chunks, with its header. -/
structure IpPacket (cs : List AxisIp4) : Prop where
  wellFormed : WellFormed cs
  long : 24 < (streamBytes cs).length
  minHdr : 20 ≤ hdrLen (streamBytes cs)
  hdrLe : hdrLen (streamBytes cs) ≤ (streamBytes cs).length

/-- The Ethernet frame with a packet, to the address that was looked up. A packet is dropped if its
address is not known. -/
def IsIpFrame (macAddress : EthAddr) (r : ArpLkpReply) (p : List Byte) (f : List AxisEth) : Prop :=
  if r.hit then
    WellFormed f ∧
      streamBytes f =
        bytes48 r.macAddress ++ bytes48 macAddress ++ bytes16 0x0800 ++ withHdrCsum p ∧
      onesSum (words ((withHdrCsum p).take (hdrLen p))) = 0xFFFF
  else f = []

/-- The checksum of a header is in its second chunk. -/
lemma split_hdr {as bs : List Byte} (ha : as.length = 8) (hb : bs.length = 8) (rest : List Byte) :
    (as ++ (bs ++ rest)).take 10 = as ++ bs.take 2 ∧
      (as ++ (bs ++ rest)).drop 12 = bs.drop 4 ++ rest := by
  constructor
  · rw [List.take_append, @List.take_of_length_le _ 10 as (by omega), ha,
      List.take_append_of_le_length (by omega)]
  · rw [List.drop_append, @List.drop_eq_nil_of_le _ as 12 (by omega), ha, List.nil_append,
      List.drop_append_of_le_length (by omega)]

/-- A header with its checksum sums up to ones. -/
lemma hdrCsum_ok {bs : List Byte} (h20 : 20 ≤ hdrLen bs) (hle : hdrLen bs ≤ bs.length) :
    onesSum (words ((withHdrCsum bs).take (hdrLen bs))) = 0xFFFF := by
  have h10 : (bs.take 10).length = 10 := by
    rw [List.length_take]
    omega
  have htake : (withHdrCsum bs).take (hdrLen bs) =
      bs.take 10 ++ (bytes16 (hdrCsum bs) ++ (bs.take (hdrLen bs)).drop 12) := by
    have h2 : (bytes16 (hdrCsum bs)).length = 2 := rfl
    rw [withHdrCsum, List.take_append, @List.take_of_length_le _ (hdrLen bs) (bs.take 10) (by omega),
      List.take_append, h10, @List.take_of_length_le _ _ (bytes16 (hdrCsum bs)) (by omega),
      List.drop_take, h2, Nat.sub_sub]
  have hsum : wordSum ((withHdrCsum bs).take (hdrLen bs)) =
      wordSum (hdrWords bs) + (hdrCsum bs).toNat := by
    have heven : (bs.take 10).length % 2 = 0 := by rw [h10]
    rw [htake, hdrWords, wordSum_append heven, wordSum_append heven, wordSum_bytes16_append]
    omega
  have hones := toNat_onesSum_words (hdrWords bs)
  apply BitVec.eq_of_toNat_eq
  rw [toNat_onesSum_words, hsum, hdrCsum, BitVec.toNat_not, hones]
  exact ones_add_compl _

/-! ### The checksum -/

/-- `pHeaderChecksumAccumulator` has read two chunks of a header, of which `k` words of four bytes are
left. What it has read has the sum `n`. -/
structure HcaHeader (s : Hca) (k n : ℕ) : Prop where
  hcaCsumWritten : s.hcaCsumWritten = true
  hcaFsmState : s.hcaFsmState = .s0
  hcaChunkCount : s.hcaChunkCount = 2
  hcaIpHdrLen : s.hcaIpHdrLen = BitVec.ofNat 4 k
  small : k ≤ 11
  sums : SumsHold s.hcaIpHdrCsum n

/-- It has read the header. -/
structure HcaEnd (s : Hca) (n : ℕ) (last : Bool) : Prop where
  hcaCsumWritten : s.hcaCsumWritten = false
  hcaFsmState : s.hcaFsmState = .s0
  hcaChunkCount : s.hcaChunkCount = if last then 0 else 2
  hcaIpHdrLen : s.hcaIpHdrLen = 0
  sums : SumsHold s.hcaIpHdrCsum n

/-- It has written the checksum, and reads what is behind the header, or it is between two
packets. -/
structure HcaBehind (s : Hca) (last : Bool) : Prop where
  hcaCsumWritten : s.hcaCsumWritten = true
  hcaFsmState : s.hcaFsmState = .s0
  hcaChunkCount : s.hcaChunkCount = if last then 0 else 2
  hcaIpHdrLen : last = false → s.hcaIpHdrLen = 0
  sums : s.hcaIpHdrCsum = fun _ => 0

section Checksum

variable {s : Hca} {c : AxisIp4} {k n : ℕ}

/-- All words of a chunk but the second one. -/
lemma sumsHold_skip {sums : Fin 4 → BitVec 17} (h : SumsHold sums n) (c : AxisIp4) :
    SumsHold (addWordsAt sums (· ≠ 1) c)
      (n + (be16 c.data 0).toNat + (be16 c.data 4).toNat + (be16 c.data 6).toNat) := by
  have hadd := sumsHold_addWord (sumsHold_addWord (sumsHold_addWord h 0 (be16 c.data 0)) 2
    (be16 c.data 4)) 3 (be16 c.data 6)
  convert hadd using 1
  funext i
  fin_cases i <;> rfl

/-- The first two words of a chunk. -/
lemma sumsHold_half {sums : Fin 4 → BitVec 17} (h : SumsHold sums n) (c : AxisIp4) :
    SumsHold (addWordsAt sums (· < 2) c)
      (n + (be16 c.data 0).toNat + (be16 c.data 2).toNat) := by
  have hadd := sumsHold_addWord (sumsHold_addWord h 0 (be16 c.data 0)) 1 (be16 c.data 2)
  convert hadd using 1
  funext i
  fin_cases i <;> rfl

/-- The sum that is inverted. -/
lemma not_csumTotal {sums : Fin 4 → BitVec 17} {bs : List Byte} (h : SumsHold sums (wordSum bs)) :
    (~~~csumTotal sums).setWidth 16 = ~~~onesSum (words bs) := by
  have htotal := h.toNat_csumTotal
  have hones := toNat_onesSum_words bs
  have hle := ones_le (wordSum bs)
  apply BitVec.eq_of_toNat_eq
  rw [BitVec.toNat_setWidth, BitVec.toNat_not, BitVec.toNat_not, htotal, hones]
  omega

lemma HcaHeader.hdrLen_eq (h : HcaHeader s k n) : s.hcaIpHdrLen.toNat = k := by
  have hk := h.small
  rw [h.hcaIpHdrLen, BitVec.toNat_ofNat, Nat.mod_eq_of_lt (by omega)]

/-- The header goes on behind the chunk. -/
lemma HcaHeader.goesOn (h : HcaHeader s k n) (hk : 3 ≤ k) (hc : c.isValid) (hlast : c.tlast = false) :
    HcaHeader (hcaChunk s c) (k - 2) (n + wordSum c.bytes) := by
  have hlen := h.hdrLen_eq
  have hsmall := h.small
  have hsub : s.hcaIpHdrLen - 2 = BitVec.ofNat 4 (k - 2) := by
    apply BitVec.eq_of_toNat_eq
    rw [BitVec.toNat_sub, hlen, BitVec.toNat_ofNat, show (2 : Ip4HdrLen).toNat = 2 from rfl]
    omega
  have h0 : s.hcaIpHdrLen ≠ 0 := fun h0 => by
    rw [h0, show (0 : Ip4HdrLen).toNat = 0 from rfl] at hlen
    omega
  have h1 : s.hcaIpHdrLen ≠ 1 := fun h1 => by
    rw [h1, show (1 : Ip4HdrLen).toNat = 1 from rfl] at hlen
    omega
  have hmore : s.hcaIpHdrLen - 2 ≠ 0 := fun hz => by
    have hzero := congrArg BitVec.toNat (hsub.symm.trans hz)
    rw [BitVec.toNat_ofNat, Nat.mod_eq_of_lt (by omega), show (0 : Ip4HdrLen).toNat = 0 from rfl]
      at hzero
    omega
  have hchunk : hcaChunk s c =
      { s with
        hcaIpHdrLen := s.hcaIpHdrLen - 2
        hcaIpHdrCsum := addWords s.hcaIpHdrCsum c
        hcaChunkCount := 2 } := by
    rw [hcaChunk, h.hcaChunkCount]
    simp only [if_neg h0, if_neg h1, if_neg hmore, hlast, Bool.false_eq_true, if_false]
  have hsum := sumsHold_addWords h.sums c
  rw [data_eq_bytes hc (length_bytes_eq hc hlast)] at hsum
  rw [hchunk]
  exact ⟨h.hcaCsumWritten, h.hcaFsmState, rfl, hsub, by omega, hsum⟩

/-- The header ends in the chunk. -/
lemma HcaHeader.ends (h : HcaHeader s k n) (h1 : 1 ≤ k) (h2 : k ≤ 2) (hc : c.isValid)
    (hlen : 4 * k ≤ c.bytes.length) :
    HcaEnd (hcaChunk s c) (n + wordSum (c.bytes.take (4 * k))) c.tlast := by
  have heq := h.hcaIpHdrLen
  obtain rfl | rfl : k = 1 ∨ k = 2 := by omega
  · have hchunk : hcaChunk s c =
        { s with
          hcaIpHdrLen := 0
          hcaIpHdrCsum := addWordsAt s.hcaIpHdrCsum (· < 2) c
          hcaCsumWritten := false
          hcaChunkCount := if c.tlast then 0 else 2 } := by
      rw [hcaChunk, h.hcaChunkCount]
      simp only [heq]
      rfl
    have hsum := sumsHold_half h.sums c
    rw [be16_data hc (by omega), be16_data hc (by omega), add_assoc, ← wordSum_four hlen] at hsum
    rw [hchunk]
    exact ⟨rfl, h.hcaFsmState, rfl, rfl, hsum⟩
  · have hle := length_bytes_le c
    have h8 : c.bytes.length = 8 := by omega
    have hchunk : hcaChunk s c =
        { s with
          hcaIpHdrLen := 0
          hcaIpHdrCsum := addWords s.hcaIpHdrCsum c
          hcaCsumWritten := false
          hcaChunkCount := if c.tlast then 0 else 2 } := by
      rw [hcaChunk, h.hcaChunkCount]
      simp only [heq]
      rfl
    have hsum := sumsHold_addWords h.sums c
    rw [data_eq_bytes hc h8] at hsum
    rw [hchunk, List.take_of_length_le (by omega)]
    exact ⟨rfl, h.hcaFsmState, rfl, rfl, hsum⟩

/-- The first chunk. -/
lemma HcaBehind.first (h : HcaBehind s true) : (hcaChunk s c).hcaCsumWritten = true := by
  have hcount : s.hcaChunkCount = 0 := h.hcaChunkCount
  rw [hcaChunk, hcount]
  exact h.hcaCsumWritten

/-- The first two chunks. -/
lemma HcaBehind.header {c0 c1 : AxisIp4} (h : HcaBehind s true) (h0 : c0.tlast = false)
    (h1 : c1.tlast = false) (hlen : 5 ≤ (getIp4HdrLen c0).toNat) :
    HcaHeader (hcaChunk (hcaChunk s c0) c1) ((getIp4HdrLen c0).toNat - 4)
      (wordSum (c0.data ++ c1.data.take 2 ++ c1.data.drop 4)) := by
  have hcount : s.hcaChunkCount = 0 := h.hcaChunkCount
  have hfirst : hcaChunk s c0 =
      { s with
        hcaIpHdrLen := getIp4HdrLen c0 - 2
        hcaIpHdrCsum := addWords s.hcaIpHdrCsum c0
        hcaChunkCount := 1 } := by
    rw [hcaChunk, hcount]
    simp only [h0, Bool.false_eq_true, if_false]
  have hsecond : hcaChunk (hcaChunk s c0) c1 =
      { s with
        hcaIpHdrLen := getIp4HdrLen c0 - 2 - 2
        hcaIpHdrCsum := addWordsAt (addWords s.hcaIpHdrCsum c0) (· ≠ 1) c1
        hcaChunkCount := 2 } := by
    rw [hfirst, hcaChunk]
    simp only [h1, Bool.false_eq_true, if_false]
  have hlt := (getIp4HdrLen c0).isLt
  have hsums : SumsHold s.hcaIpHdrCsum 0 := by
    rw [h.sums]
    exact sumsHold_zero
  have hsum := sumsHold_skip (sumsHold_addWords hsums c0) c1
  have hrest : wordSum (c1.data.drop 4) = (be16 c1.data 4).toNat + (be16 c1.data 6).toNat := by
    have hfour : (c1.data.drop 4).length = 4 := by rw [List.length_drop, length_data]
    have hw := wordSum_four hfour.ge
    rw [List.take_of_length_le hfour.le, be16_drop, be16_drop] at hw
    exact hw
  have hn : wordSum (c0.data ++ c1.data.take 2 ++ c1.data.drop 4) =
      0 + wordSum c0.data + (be16 c1.data 0).toNat + (be16 c1.data 4).toNat +
        (be16 c1.data 6).toNat := by
    rw [List.append_assoc, wordSum_append (by simp [length_data]),
      wordSum_append (by simp [length_data]), hrest, wordSum_two (by simp [length_data])]
    omega
  rw [hsecond, hn]
  refine ⟨h.hcaCsumWritten, h.hcaFsmState, rfl, ?_, by omega, hsum⟩
  apply BitVec.eq_of_toNat_eq
  rw [BitVec.toNat_sub, BitVec.toNat_sub, BitVec.toNat_ofNat,
    show (2 : Ip4HdrLen).toNat = 2 from rfl]
  omega

/-- Behind the header nothing is added. -/
lemma HcaBehind.chunk (h : HcaBehind s false) : HcaBehind (hcaChunk s c) c.tlast := by
  have hcount : s.hcaChunkCount = 2 := h.hcaChunkCount
  have hchunk : hcaChunk s c = { s with hcaChunkCount := if c.tlast then 0 else 2 } := by
    rw [hcaChunk, hcount]
    simp only [h.hcaIpHdrLen rfl, if_true, hcount]
  rw [hchunk]
  exact ⟨h.hcaCsumWritten, h.hcaFsmState, rfl, fun _ => h.hcaIpHdrLen rfl, h.sums⟩

end Checksum

/-! ### The frame -/

/-- What `pIpChecksumInsert` makes of a packet. -/
def insertCsum (csum : Ip4HdrCsum) : List AxisIp4 → List AxisIp4
  | c0 :: c1 :: cs => c0 :: setIp4HdrCsum c1 csum :: cs
  | cs => cs

/-- What `pMacAddressInserter` makes of a packet. -/
def ipFrame (macAddress : EthAddr) (r : ArpLkpReply) : List AxisIp4 → List AxisEth
  | [] => []
  | c :: cs =>
      if r.hit then
        firstEthChunk macAddress r.macAddress :: secondEthChunk macAddress c :: shiftStream 6 c cs
      else []

section Frame

variable {macAddress : EthAddr} {r : ArpLkpReply} {cs : List AxisIp4}

/-- The first chunks of a packet. -/
lemma IpPacket.chunks (h : IpPacket cs) : ∃ c0 c1 c2 rest, cs = c0 :: c1 :: c2 :: rest ∧
    c0.isValid ∧ c0.tlast = false ∧ c1.isValid ∧ c1.tlast = false ∧ c2.isValid ∧ c2.tlast = false ∧
      WellFormed rest := by
  have hlong := h.long
  obtain ⟨c0, d1, rfl, hc0, hl0, -, hd1, hn0⟩ := h.wellFormed.peel (by omega)
  obtain ⟨c1, d2, rfl, hc1, hl1, -, hd2, hn1⟩ := hd1.peel (by omega)
  obtain ⟨c2, d3, rfl, hc2, hl2, -, hd3, -⟩ := hd2.peel (by omega)
  exact ⟨c0, c1, c2, d3, rfl, hc0, hl0, hc1, hl1, hc2, hl2, hd3⟩

/-- The header in the chunks. -/
lemma hdr_chunks {c0 c1 : AxisIp4} {rest : List AxisIp4} (hc0 : c0.isValid) (hl0 : c0.tlast = false)
    (hc1 : c1.isValid) (hl1 : c1.tlast = false) :
    hdrLen (streamBytes (c0 :: c1 :: rest)) = 4 * (getIp4HdrLen c0).toNat ∧
      (16 ≤ hdrLen (streamBytes (c0 :: c1 :: rest)) →
        hdrWords (streamBytes (c0 :: c1 :: rest)) = c0.data ++ c1.data.take 2 ++ c1.data.drop 4 ++
          (streamBytes rest).take (4 * ((getIp4HdrLen c0).toNat - 4))) := by
  have h8 := length_bytes_eq hc0 hl0
  have h8' := length_bytes_eq hc1 hl1
  have hlen : hdrLen (streamBytes (c0 :: c1 :: rest)) = 4 * (getIp4HdrLen c0).toNat := by
    rw [hdrLen, getIp4HdrLen, streamBytes_cons, byteAt_append (by omega), byteAt_data hc0 (by omega)]
  refine ⟨hlen, fun h16 => ?_⟩
  rw [hlen] at h16
  obtain ⟨htake, hdrop⟩ := split_hdr h8 h8' (streamBytes rest)
  have h4 : (c1.bytes.drop 4).length = 4 := by rw [List.length_drop, h8']
  rw [hdrWords, hlen, streamBytes_cons, streamBytes_cons, htake, List.drop_take, hdrop,
    List.take_append, @List.take_of_length_le _ _ (c1.bytes.drop 4) (by omega), h4,
    ← data_eq_bytes hc0 h8, ← data_eq_bytes hc1 h8', ← List.append_assoc]
  congr 2
  omega

/-- The packet with its checksum. -/
lemma insertCsum_spec {c0 c1 : AxisIp4} {rest : List AxisIp4} (csum : Ip4HdrCsum)
    (hc0 : c0.isValid) (hl0 : c0.tlast = false) (hc1 : c1.isValid) (hl1 : c1.tlast = false)
    (hrest : WellFormed rest) :
    WellFormed (setIp4HdrCsum c1 csum :: rest) ∧
      c0.bytes ++ streamBytes (setIp4HdrCsum c1 csum :: rest) =
        (streamBytes (c0 :: c1 :: rest)).take 10 ++
          (bytes16 csum ++ (streamBytes (c0 :: c1 :: rest)).drop 12) := by
  have hvalid : (setIp4HdrCsum c1 csum).isValid := isValid_setBytes hc1 ..
  have hdata : (setIp4HdrCsum c1 csum).data =
      c1.data.take 2 ++ (bytes16 csum ++ c1.data.drop 4) := data_setBytes c1 (by simp [bytes16])
  obtain ⟨hwf, hbytes⟩ := wellFormed_cons_data hvalid hl1 hdata hrest
  have h8 := length_bytes_eq hc0 hl0
  have h8' := length_bytes_eq hc1 hl1
  refine ⟨hwf, ?_⟩
  obtain ⟨htake, hdrop⟩ := split_hdr h8 h8' (streamBytes rest)
  rw [hbytes, streamBytes_cons, streamBytes_cons, data_eq_bytes hc1 h8', htake, hdrop]
  simp only [List.append_assoc]

/-- **The frame of a packet.** -/
theorem ipFrame_spec (h : IpPacket cs) :
    IsIpFrame macAddress r (streamBytes cs)
      (ipFrame macAddress r (insertCsum (hdrCsum (streamBytes cs)) cs)) := by
  obtain ⟨c0, c1, c2, rest, rfl, hc0, hl0, hc1, hl1, hc2, hl2, hrest⟩ := h.chunks
  rw [insertCsum, ipFrame, IsIpFrame]
  cases r.hit with
  | false => exact rfl
  | true =>
      obtain ⟨hwf, hbytes⟩ := insertCsum_spec (hdrCsum (streamBytes (c0 :: c1 :: c2 :: rest))) hc0 hl0
        hc1 hl1 (.cons hc2 hl2 hrest)
      obtain ⟨hshift, hframe⟩ := @shiftStream_spec 6 c0 _ (by decide) (by decide) hc0 hl0 hwf
      have h8 := length_bytes_eq hc0 hl0
      have hfirst : (firstEthChunk macAddress r.macAddress).data =
          bytes48 r.macAddress ++ (bytes48 macAddress).take 2 := by
        simp [firstEthChunk, setEthSrcAddrHi, setEthDstAddr, data_setBytes, data_blank, bytes48, bytes32,
          bytes16]
      have hbyte (b : Byte) : b.extractLsb' 4 4 ++ b.extractLsb' 0 4 = b := by
        ext i hi
        simp only [BitVec.getElem_append, BitVec.getElem_extractLsb']
        split
        · rw [Nat.zero_add, BitVec.getLsbD_eq_getElem hi]
        · rw [show 4 + (i - 4) = i by omega, BitVec.getLsbD_eq_getElem hi]
      have hsecond : (secondEthChunk macAddress c0).data =
          (bytes48 macAddress).drop 2 ++ bytes16 0x0800 ++ c0.bytes.take 2 := by
        have htake : c0.bytes.take 2 = [byteAt c0.data 0, byteAt c0.data 1] := by
          rw [← data_eq_bytes hc0 h8]
          obtain ⟨l0, l1, l2, l3, l4, l5, l6, l7, hl⟩ := c0.exists_lanes
          simp [data, hl, byteAt]
        rw [htake, secondEthChunk, setIp4Start, hbyte]
        simp [setEthertType, setEthSrcAddrLo, data_setBytes, data_blank, bytes48, bytes32, bytes16]
      have hvalid1 : (firstEthChunk macAddress r.macAddress).isValid :=
        isValid_setBytes (isValid_setBytes isValid_blank ..) ..
      have hvalid2 : (secondEthChunk macAddress c0).isValid :=
        isValid_setBytes (isValid_setBytes (isValid_setBytes (isValid_setBytes isValid_blank ..) ..)
          ..) ..
      obtain ⟨hwf2, hbytes2⟩ := wellFormed_cons_data hvalid2 rfl hsecond hshift
      obtain ⟨hwf1, hbytes1⟩ := wellFormed_cons_data hvalid1 rfl hfirst hwf2
      rw [if_pos rfl, if_pos rfl]
      refine ⟨hwf1, ?_, hdrCsum_ok h.minHdr h.hdrLe⟩
      rw [hbytes1, hbytes2, hframe, withHdrCsum, ← hbytes]
      simp only [List.append_assoc]
      rw [← List.append_assoc (c0.bytes.take 2), List.take_append_drop,
        ← List.append_assoc ((bytes48 macAddress).take 2), List.take_append_drop]

end Frame

end CloudFpga.Iptx
