import CloudFpga.Uoe.TxSteps

/-!
The packet that the Tx engine of the UOE makes of a datagram.

* `psdPacket`: the chunks of which the checksum is computed; `psdPacket_spec`: they are the pseudo
  header, the UDP header and the payload.
* `ucaReads`: what `pUdpChecksumAccumulator` makes of them; `ucaReads_spec`.
* `udpPacket`: the chunks that go to IPTX; `IsUdpPacket`, `udpPacket_spec`: they are an IPv4 packet
  with the payload, the right lengths and a correct checksum.
-/

namespace CloudFpga.Uoe

open Foundation AxisRaw Toe
open Icmp (setIp4TtL setIp4Prot setIp4HdrCsum setIp4SrcAddr setIp4DstAddr)

/-! ### The chunks -/

/-- The last chunk of a pseudo packet, of two halves. -/
def fitPseudoChunk (prev cur : AxisRaw) : AxisPsd4 := endPseudoChunk (currPseudoChunk prev cur) cur

/-- The chunks behind the second one. The payload of a single chunk is cleared before its second half
is taken. -/
def psdData (udpLen : UdpLen) : List AxisRaw → List AxisPsd4
  | [] => []
  | c :: cs =>
      if c.tlast then
        if c.clearUnusedBytes.NoLowerHalf then
          [endPseudoChunk (thirdPseudoPktChunk udpLen c) c.clearUnusedBytes]
        else [thirdPseudoPktChunk udpLen c, restPseudoChunk c.clearUnusedBytes]
      else thirdPseudoPktChunk udpLen c :: halfStream fitPseudoChunk restPseudoChunk c cs

/-- The pseudo packet of a datagram. -/
def psdPacket (m : UdpAppMeta) (udpLen : UdpLen) (cs : List AxisRaw) : List AxisPsd4 :=
  firstPseudoPktChunk m :: secondPseudoPktChunk m udpLen :: psdData udpLen cs

/-- The payload that goes to `pUdpHeaderAdder`. -/
def uhaPayload : List AxisRaw → List AxisRaw
  | [] => []
  | c :: cs => if c.tlast then [c.clearUnusedBytes] else c :: cs

/-! ### The bytes -/

/-- The pseudo header, of which the checksum is computed, too. -/
def psdHeader (m : UdpAppMeta) (udpLen : UdpLen) : List Byte :=
  bytes32 m.ip4SrcAddr ++ bytes32 m.ip4DstAddr ++ [0, ip4ProtUdp] ++ bytes16 udpLen

def udpHeader (m : UdpAppMeta) (udpLen : UdpLen) (csum : UdpCsum) : List Byte :=
  bytes16 m.udpSrcPort ++ bytes16 m.udpDstPort ++ bytes16 udpLen ++ bytes16 csum

/-- The IPv4 header, without its checksum. -/
def ip4Header (m : UdpAppMeta) (ip4Len : Ip4TotalLen) : List Byte :=
  [0x45, 0] ++ bytes16 ip4Len ++ [0, 0, 0, 0] ++ [0xFF, ip4ProtUdp, 0, 0] ++ bytes32 m.ip4SrcAddr ++
    bytes32 m.ip4DstAddr

/-- The checksum of a datagram. -/
def udpCsum (m : UdpAppMeta) (udpLen : UdpLen) (payload : List Byte) : UdpCsum :=
  ~~~onesSum (words (psdHeader m udpLen ++ udpHeader m udpLen 0 ++ payload))

section Pseudo

variable {prev cur c : AxisRaw} {cs : List AxisRaw} {m : UdpAppMeta} {udpLen : UdpLen}

lemma fitPseudoChunk_eq (hprev : prev.isValid) (hlast : prev.tlast = false) :
    fitPseudoChunk prev cur = { join 4 prev cur with tlast := true }.clearUnusedBytes := by
  refine congrArg AxisRaw.clearUnusedBytes (AxisRaw.ext ?_ rfl)
  exact (lanes_setTKeepLo prev cur).trans (by rw [keepAll_drop hprev hlast]; rfl)

lemma restPseudoChunk_eq (c : AxisRaw) : restPseudoChunk c = restChunk 4 c := by
  refine AxisRaw.ext ?_ rfl
  rw [restPseudoChunk, lanes_setTKeepHi]
  rfl

lemma halfEnd_pseudo : HalfEnd fitPseudoChunk restPseudoChunk where
  fit prev cur hprev hlast hcur hno := by
    rw [fitPseudoChunk_eq hprev hlast]
    exact fitChunk_spec hprev hlast hcur hno
  rest cur hcur hno := by
    rw [restPseudoChunk_eq]
    exact restChunk_spec hcur hno

/-- The length and the empty checksum, in front of the payload. -/
def lenChunk (udpLen : UdpLen) : AxisRaw :=
  .ofBytes ([0, 0, 0, 0] ++ bytes16 udpLen ++ [0, 0]) false rfl

lemma thirdPseudoPktChunk_eq (udpLen : UdpLen) (c : AxisRaw) :
    thirdPseudoPktChunk udpLen c = nextHalves (lenChunk udpLen) c := by
  obtain ⟨c0, c1, c2, c3, c4, c5, c6, c7, hc⟩ := c.exists_lanes
  refine AxisRaw.ext ?_ rfl
  rw [lanes_nextHalves]
  simp [thirdPseudoPktChunk, AxisPsd4.setUdpCsum, AxisPsd4.setUdpLen, setTDataLo, setBytes,
    getTDataHi, data, blank, ofBytes, keepAll, lenChunk, hc, bytes16, List.replicate]

/-- The length, the empty checksum and the payload. -/
lemma psdData_spec (hcs : WellFormed cs) :
    WellFormed (psdData udpLen cs) ∧
      streamBytes (psdData udpLen cs) = bytes16 udpLen ++ [0, 0] ++ streamBytes cs := by
  have hlen : (lenChunk udpLen).isValid := isValid_ofBytes
  have hbytes : (lenChunk udpLen).bytes.drop 4 = bytes16 udpLen ++ [0, 0] := by
    have hall : (lenChunk udpLen).bytes = [0, 0, 0, 0] ++ bytes16 udpLen ++ [0, 0] := bytes_ofBytes
    rw [hall]
    rfl
  cases cs with
  | nil => exact absurd hcs.isStream id
  | cons c cs =>
      rw [psdData, thirdPseudoPktChunk_eq]
      cases hlast : c.tlast with
      | false =>
          have hspec := halfStream_spec halfEnd_pseudo hlen rfl hcs
          rw [halfStream, hlast, if_neg Bool.false_ne_true, hbytes] at hspec
          rw [if_neg Bool.false_ne_true]
          exact hspec
      | true =>
          obtain rfl := hcs.tail_eq_nil hlast
          -- the payload is cleared, which changes its unused bytes only
          have hclear : HalfEnd fitPseudoChunk fun c => restPseudoChunk c.clearUnusedBytes := by
            refine ⟨halfEnd_pseudo.fit, fun cur hcur hno => ?_⟩
            obtain ⟨hwf, hrest⟩ := halfEnd_pseudo.rest _ (isValid_clearUnusedBytes hcur)
              (fun h => hno ((noLowerHalf_clear cur).mp h))
            rw [bytes_clearUnusedBytes hcur] at hrest
            exact ⟨hwf, hrest⟩
          have hend : endPseudoChunk (nextHalves (lenChunk udpLen) c) c.clearUnusedBytes =
              fitPseudoChunk (lenChunk udpLen) c := by
            rw [fitPseudoChunk, endPseudoChunk, endPseudoChunk, getTKeepHi, keep_clearUnusedBytes]
            rfl
          have hspec := halfStream_spec hclear hlen rfl hcs
          rw [halfStream, hlast, if_pos rfl, hbytes] at hspec
          rw [if_pos rfl, hend]
          simp only [noLowerHalf_clear]
          exact hspec

/-- **The pseudo packet**: the pseudo header, the UDP header without checksum and the payload. -/
theorem psdPacket_spec (hcs : WellFormed cs) :
    WellFormed (psdPacket m udpLen cs) ∧ streamBytes (psdPacket m udpLen cs) =
      psdHeader m udpLen ++ udpHeader m udpLen 0 ++ streamBytes cs := by
  obtain ⟨hwf, hdata⟩ := @psdData_spec cs udpLen hcs
  have hsecond : (secondPseudoPktChunk m udpLen).data =
      [0, ip4ProtUdp] ++ bytes16 udpLen ++ bytes16 m.udpSrcPort ++ bytes16 m.udpDstPort := by
    simp [secondPseudoPktChunk, AxisPsd4.setUdpDstPort, AxisPsd4.setUdpSrcPort, AxisPsd4.setPsd4Len,
      AxisPsd4.setPsd4Prot, data_setBytes, data_blank, bytes16]
  have hfirst : (firstPseudoPktChunk m).data = bytes32 m.ip4SrcAddr ++ bytes32 m.ip4DstAddr := by
    simp [firstPseudoPktChunk, AxisPsd4.setPsd4SrcAddr, AxisPsd4.setPsd4DstAddr, data_setBytes,
      data_blank, bytes32]
  obtain ⟨hwf, hports⟩ := wellFormed_cons_data (isValid_setBytes (isValid_setBytes (isValid_setBytes
    (isValid_setBytes isValid_blank ..) ..) ..) ..) rfl hsecond hwf
  obtain ⟨hwf, haddrs⟩ := wellFormed_cons_data (isValid_setBytes (isValid_setBytes isValid_blank ..)
    ..) rfl hfirst hwf
  have hzero : bytes16 0 = [0, 0] := rfl
  refine ⟨hwf, haddrs.trans ?_⟩
  rw [hports, hdata, psdHeader, udpHeader, hzero]
  simp only [List.append_assoc]

end Pseudo

/-! ### The checksum -/

/-- What `pUdpChecksumAccumulator` does with a chunk. -/
def ucaRead (s : Uca) (c : AxisPsd4) : Uca :=
  if c.tlast then { s with ucaLastChunk := c.clearUnusedBytes, ucaFsmState := .last } else ucaAdd s c

def ucaReads (s : Uca) (cs : List AxisPsd4) : Uca := cs.foldl ucaRead s

/-- The sums, by the words of a chunk that they are of. -/
def ucaSums (s : Uca) : Fin 4 → BitVec 17 := ![s.ucaCsum3, s.ucaCsum2, s.ucaCsum1, s.ucaCsum0]

section Sums

variable {s : Uca} {n : ℕ} {c : AxisPsd4} {cs : List AxisPsd4}

/-- The two ways to add a carry to the low end agree. -/
lemma foldCsum_eq {x : BitVec 17} (hx : x.toNat < 131071) : foldCsum x = carryFold x := by
  have hmask : ((0xFFFF : ℕ) : BitVec 17).toNat = 2 ^ 16 - 1 := rfl
  apply BitVec.eq_of_toNat_eq
  rw [toNat_carryFold hx, ones_eq_of_lt hx, foldCsum, BitVec.toNat_add, BitVec.toNat_and, hmask,
    Nat.and_two_pow_sub_one_eq_mod, BitVec.toNat_ushiftRight, Nat.shiftRight_eq_div_pow]
  rcases Nat.lt_or_ge x.toNat 65536 with hlt | hge
  · rw [Nat.div_eq_of_lt hlt]
    omega
  · have hdiv : x.toNat / 65536 = 1 := by omega
    rw [hdiv]
    omega

lemma psdAdd_eq {x : BitVec 17} (hx : x.toNat ≤ 65535) (w : BitVec 16) :
    psdAdd x w = carryAdd x w := by
  have hw := w.isLt
  refine foldCsum_eq ?_
  rw [BitVec.toNat_add, BitVec.toNat_setWidth]
  omega

lemma ucaSums_add (h : SumsHold (ucaSums s) n) (c : AxisPsd4) :
    SumsHold (ucaSums (ucaAdd s c)) (n + wordSum c.data) := by
  have hadd : ucaSums (ucaAdd s c) = addWords (ucaSums s) c := by
    funext i
    fin_cases i
    · exact psdAdd_eq (h.le 0) _
    · exact psdAdd_eq (h.le 1) _
    · exact psdAdd_eq (h.le 2) _
    · exact psdAdd_eq (h.le 3) _
  rw [hadd]
  exact sumsHold_addWords h c

/-- The sum of the sums. -/
lemma ucaCsum_eq {bs : List Byte} (h : SumsHold (ucaSums s) (wordSum bs)) :
    ucaCsum s = ~~~onesSum (words bs) := by
  have h0 : s.ucaCsum3.toNat ≤ 65535 := h.le 0
  have h1 : s.ucaCsum2.toNat ≤ 65535 := h.le 1
  have h2 : s.ucaCsum1.toNat ≤ 65535 := h.le 2
  have h3 : s.ucaCsum0.toNat ≤ 65535 := h.le 3
  have hfold {x y : BitVec 17} (hx : x.toNat ≤ 65535) (hy : y.toNat ≤ 65535) :
      (foldCsum (x + y)).toNat = ones (x.toNat + y.toNat) := by
    rw [foldCsum_eq, toNat_carryFold_add hx hy]
    rw [BitVec.toNat_add]
    omega
  have h01 := hfold h3 h2
  have h23 := hfold h1 h0
  have hall : (foldCsum (foldCsum (s.ucaCsum0 + s.ucaCsum1) +
      foldCsum (s.ucaCsum2 + s.ucaCsum3))).toNat = ones (wordSum bs) := by
    rw [hfold (by rw [h01]; exact ones_le _) (by rw [h23]; exact ones_le _), h01, h23, ones_add_ones,
      ones_add_ones_right, ← h.total]
    congr 1
    show _ = s.ucaCsum3.toNat + s.ucaCsum2.toNat + s.ucaCsum1.toNat + s.ucaCsum0.toNat
    omega
  have hones := toNat_onesSum_words bs
  have hle := ones_le (wordSum bs)
  apply BitVec.eq_of_toNat_eq
  rw [ucaCsum, BitVec.toNat_setWidth, BitVec.toNat_not, BitVec.toNat_not, hall, hones]
  omega

/-- **A packet** that is read: when its last chunk is added, the sums are those of its words. -/
theorem ucaReads_spec (hcs : WellFormed cs) (hs : s.ucaFsmState = .accumulate)
    (h : SumsHold (ucaSums s) n) :
    (ucaReads s cs).ucaFsmState = .last ∧
      SumsHold (ucaSums (ucaAdd (ucaReads s cs) (ucaReads s cs).ucaLastChunk))
        (n + wordSum (streamBytes cs)) := by
  induction cs generalizing s n with
  | nil => exact absurd hcs.isStream id
  | cons c cs ih =>
      have hstep : ucaReads s (c :: cs) = ucaReads (ucaRead s c) cs := rfl
      rw [hstep, ucaRead, streamBytes_cons]
      cases hlast : c.tlast with
      | true =>
          obtain rfl := hcs.tail_eq_nil hlast
          rw [if_pos rfl, streamBytes_nil, List.append_nil, ← wordSum_clearUnusedBytes hcs.head]
          exact ⟨rfl, ucaSums_add h c.clearUnusedBytes⟩
      | false =>
          have h8 := length_bytes_eq hcs.head hlast
          rw [if_neg Bool.false_ne_true, wordSum_append (by omega), ← add_assoc,
            ← data_eq_bytes hcs.head h8]
          exact ih (hcs.tail hlast) hs (ucaSums_add h c)

end Sums

/-- **The checksum** of a datagram. -/
theorem ucaReads_csum {s : Uca} {m : UdpAppMeta} {udpLen : UdpLen} {cs : List AxisRaw}
    (hcs : WellFormed cs) (hs : s.ucaFsmState = .accumulate) (hsums : ucaSums s = fun _ => 0) :
    (ucaReads s (psdPacket m udpLen cs)).ucaFsmState = .last ∧
      ucaCsum (ucaAdd (ucaReads s (psdPacket m udpLen cs))
        (ucaReads s (psdPacket m udpLen cs)).ucaLastChunk) = udpCsum m udpLen (streamBytes cs) := by
  obtain ⟨hwf, hbytes⟩ := @psdPacket_spec cs m udpLen hcs
  obtain ⟨hlast, hsum⟩ := ucaReads_spec hwf hs (by rw [hsums]; exact sumsHold_zero)
  refine ⟨hlast, ?_⟩
  rw [udpCsum, ← hbytes]
  exact ucaCsum_eq (by rwa [Nat.zero_add] at hsum)

/-! ### The packet -/

/-- The chunks that go to IPTX. -/
def udpPacket (m : UdpAppMeta) (l : UdpAppDLen) (cs : List AxisRaw) : List AxisIp4 :=
  let udpLen := l + udpHeaderLen
  let ipPair : IpAddrPair := ⟨m.ip4SrcAddr, m.ip4DstAddr⟩
  let header := udpHdrChunk m udpLen (udpCsum m udpLen (streamBytes cs))
  firstIp4Chunk (udpLen + ip4HeaderLen) :: secondIp4Chunk ipPair :: thirdIp4Chunk ipPair header ::
    halfStream lastIp4Chunk restIp4Chunk header (uhaPayload cs)

/-- An IPv4 packet with a UDP datagram. The IPv4 header has no checksum yet. -/
structure IsUdpPacket (m : UdpAppMeta) (payload : List Byte) (p : List AxisIp4) : Prop where
  wellFormed : WellFormed p
  bytes : ∃ csum, let udpLen := BitVec.ofNat 16 (8 + payload.length)
    streamBytes p = ip4Header m (BitVec.ofNat 16 (28 + payload.length)) ++
      udpHeader m udpLen csum ++ payload ∧
    onesSum (words (psdHeader m udpLen ++ udpHeader m udpLen csum ++ payload)) = 0xFFFF

section Packet

variable {prev cur c : AxisRaw} {cs : List AxisRaw} {m : UdpAppMeta}

lemma lastIp4Chunk_eq (prev cur : AxisUdp) :
    lastIp4Chunk prev cur = { join 4 prev cur with tlast := true }.clearUnusedBytes :=
  congrArg AxisRaw.clearUnusedBytes (AxisRaw.ext (lanes_setTKeeps prev cur) rfl)

lemma restIp4Chunk_eq (c : AxisUdp) : restIp4Chunk c = (restChunk 4 c).clearUnusedBytes :=
  congrArg AxisRaw.clearUnusedBytes (AxisRaw.ext (lanes_setTKeepHi c zero) rfl)

lemma halfEnd_ip4 : HalfEnd lastIp4Chunk restIp4Chunk where
  fit prev cur hprev hlast hcur hno := by
    rw [lastIp4Chunk_eq]
    exact fitChunk_spec hprev hlast hcur hno
  rest cur hcur hno := by
    obtain ⟨hwf, hbytes⟩ := restChunk_spec hcur hno
    obtain ⟨hwf, hclear⟩ := wellFormed_clear hwf
    rw [restIp4Chunk_eq]
    exact ⟨hwf, hclear.trans hbytes⟩

lemma uhaPayload_spec (hcs : WellFormed cs) :
    WellFormed (uhaPayload cs) ∧ streamBytes (uhaPayload cs) = streamBytes cs := by
  cases cs with
  | nil => exact absurd hcs.isStream id
  | cons c cs =>
      rw [uhaPayload]
      cases hlast : c.tlast with
      | false => exact ⟨hcs, rfl⟩
      | true =>
          obtain rfl := hcs.tail_eq_nil hlast
          obtain ⟨hwf, hbytes⟩ := wellFormed_clear hcs
          rw [if_pos rfl]
          exact ⟨hwf, by rw [streamBytes_cons, hbytes]; rfl⟩

/-- With its checksum a datagram sums up to ones. -/
lemma udpCsum_ok (m : UdpAppMeta) (udpLen : UdpLen) (payload : List Byte) :
    onesSum (words (psdHeader m udpLen ++ udpHeader m udpLen (udpCsum m udpLen payload) ++
      payload)) = 0xFFFF := by
  have hsplit (csum : UdpCsum) :
      wordSum (psdHeader m udpLen ++ udpHeader m udpLen csum ++ payload) =
        wordSum (psdHeader m udpLen ++ udpHeader m udpLen 0 ++ payload) + csum.toNat := by
    have heven : (psdHeader m udpLen).length % 2 = 0 := by simp [psdHeader, bytes16, bytes32]
    have hzero : (0 : UdpCsum).toNat = 0 := rfl
    simp only [udpHeader, List.append_assoc]
    rw [wordSum_append heven, wordSum_append heven]
    simp only [wordSum_bytes16_append, hzero]
    omega
  have hones := toNat_onesSum_words (psdHeader m udpLen ++ udpHeader m udpLen 0 ++ payload)
  apply BitVec.eq_of_toNat_eq
  rw [toNat_onesSum_words, hsplit, udpCsum, BitVec.toNat_not, hones]
  exact ones_add_compl _

/-- **The packet of a datagram.** -/
theorem udpPacket_spec {l : UdpAppDLen} (hcs : WellFormed cs)
    (hl : l = BitVec.ofNat 16 (streamBytes cs).length) :
    IsUdpPacket m (streamBytes cs) (udpPacket m l cs) := by
  obtain ⟨hwf, hpay⟩ := uhaPayload_spec hcs
  have hudp : l + udpHeaderLen = BitVec.ofNat 16 (8 + (streamBytes cs).length) := by
    rw [hl, udpHeaderLen, add_comm, BitVec.ofNat_add]
    rfl
  have hip : l + udpHeaderLen + ip4HeaderLen = BitVec.ofNat 16 (28 + (streamBytes cs).length) := by
    rw [hudp, ip4HeaderLen, show 28 + (streamBytes cs).length = 8 + (streamBytes cs).length + 20 by
      omega, BitVec.ofNat_add _ 20]
    rfl
  generalize hcsum : udpCsum m (l + udpHeaderLen) (streamBytes cs) = csum
  have hok := udpCsum_ok m (l + udpHeaderLen) (streamBytes cs)
  rw [hcsum, hudp] at hok
  have hheader : (udpHdrChunk m (l + udpHeaderLen) csum).data =
      udpHeader m (l + udpHeaderLen) csum := by
    simp [udpHdrChunk, AxisUdp.setUdpCsum, AxisUdp.setUdpLen, AxisUdp.setUdpDstPort,
      AxisUdp.setUdpSrcPort, data_setBytes, data_blank, bytes16, udpHeader]
  have hvalid : (udpHdrChunk m (l + udpHeaderLen) csum).isValid :=
    isValid_setBytes (isValid_setBytes (isValid_setBytes (isValid_setBytes isValid_blank ..) ..) ..) ..
  have hfull := data_eq_bytes hvalid (length_bytes_eq hvalid rfl)
  obtain ⟨hwf, hrest⟩ := halfStream_spec halfEnd_ip4 hvalid rfl hwf
  have hports : getUdpSrcPort (udpHdrChunk m (l + udpHeaderLen) csum) = m.udpSrcPort ∧
      getUdpDstPort (udpHdrChunk m (l + udpHeaderLen) csum) = m.udpDstPort := by
    rw [getUdpSrcPort, getUdpDstPort, hheader]
    exact ⟨be16_bytes16 m.udpSrcPort, be16_bytes16 m.udpDstPort⟩
  have hthird : (thirdIp4Chunk ⟨m.ip4SrcAddr, m.ip4DstAddr⟩
      (udpHdrChunk m (l + udpHeaderLen) csum)).data =
        bytes32 m.ip4DstAddr ++ bytes16 m.udpSrcPort ++ bytes16 m.udpDstPort := by
    rw [thirdIp4Chunk, hports.1, hports.2]
    simp [AxisIp4.setUdpDstPort, AxisIp4.setUdpSrcPort, setIp4DstAddr, data_setBytes, data_blank,
      bytes16, bytes32]
  have hsecond : (secondIp4Chunk ⟨m.ip4SrcAddr, m.ip4DstAddr⟩).data =
      [0xFF, ip4ProtUdp, 0, 0] ++ bytes32 m.ip4SrcAddr := by
    simp [secondIp4Chunk, setIp4SrcAddr, setIp4HdrCsum, setIp4Prot, setIp4TtL, data_setBytes,
      data_blank, bytes16, bytes32]
  have hfirst (len : Ip4TotalLen) : (firstIp4Chunk len).data =
      [0x45, 0] ++ bytes16 len ++ [0, 0, 0, 0] := by
    simp [firstIp4Chunk, AxisIp4.setIp4FragOff, AxisIp4.setIp4Flags, AxisIp4.setIp4Ident,
      AxisIp4.setIp4TotalLen, AxisIp4.setIp4ToS, AxisIp4.setIp4Version, AxisIp4.setIp4HdrLen,
      data_setBytes, data_blank, bytes16, byteAt]
  have hvalid1 : (firstIp4Chunk (l + udpHeaderLen + ip4HeaderLen)).isValid :=
    isValid_setBytes (isValid_setBytes (isValid_setBytes (isValid_setBytes (isValid_setBytes
      (isValid_setBytes (isValid_setBytes isValid_blank ..) ..) ..) ..) ..) ..) ..
  have hvalid2 : (secondIp4Chunk ⟨m.ip4SrcAddr, m.ip4DstAddr⟩).isValid :=
    isValid_setBytes (isValid_setBytes (isValid_setBytes (isValid_setBytes isValid_blank ..) ..) ..) ..
  have hvalid3 : (thirdIp4Chunk ⟨m.ip4SrcAddr, m.ip4DstAddr⟩
      (udpHdrChunk m (l + udpHeaderLen) csum)).isValid :=
    isValid_setBytes (isValid_setBytes (isValid_setBytes isValid_blank ..) ..) ..
  obtain ⟨hwf, hdst⟩ := wellFormed_cons_data hvalid3 rfl hthird hwf
  obtain ⟨hwf, hsrc⟩ := wellFormed_cons_data hvalid2 rfl hsecond hwf
  obtain ⟨hwf, hall⟩ := wellFormed_cons_data hvalid1 rfl (hfirst _) hwf
  have hpacket : udpPacket m l cs = firstIp4Chunk (l + udpHeaderLen + ip4HeaderLen) ::
      secondIp4Chunk ⟨m.ip4SrcAddr, m.ip4DstAddr⟩ ::
        thirdIp4Chunk ⟨m.ip4SrcAddr, m.ip4DstAddr⟩ (udpHdrChunk m (l + udpHeaderLen) csum) ::
          halfStream lastIp4Chunk restIp4Chunk (udpHdrChunk m (l + udpHeaderLen) csum)
            (uhaPayload cs) := by
    rw [udpPacket, ← hcsum]
  rw [hpacket]
  refine ⟨hwf, csum, ?_, hok⟩
  rw [hall, hsrc, hdst, hrest, hpay, ← hfull, hheader, hip, hudp, ip4Header, udpHeader]
  simp [bytes16]

end Packet

end CloudFpga.Uoe
