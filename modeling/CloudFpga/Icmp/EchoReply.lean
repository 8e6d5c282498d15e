import CloudFpga.Icmp.ChecksumChecker

/-!
The reply to a request for an echo, in bytes.

* `IsEcho`, `IsReply`: a request for an echo with a correct checksum, and its reply.
* `withCsum`: a packet with a new ICMP checksum, as `pIcmpChecksumInserter` writes it.
* `passes_iff`: a complete packet passes the checker if and only if it is such a request.
* `reply_spec`: what is written for it is its reply, unless all is zero behind the checksum.
-/

namespace CloudFpga.Icmp

open Foundation AxisRaw Toe Uoe

/-! ### Requests and replies -/

/-- The checksum of an ICMP message is correct. -/
def CsumOk (message : List Byte) : Prop := onesSum (words message) = 0xFFFF

instance : DecidablePred CsumOk := fun _ => inferInstanceAs (Decidable (_ = _))

/-- A request for an echo in an IPv4 packet without options. -/
structure IsEcho (b : List Byte) : Prop where
  length : 28 ≤ b.length
  type : byteAt b 20 = icmpEchoRequest
  code : byteAt b 21 = 0
  csum : CsumOk (b.drop 20)

/-- The reply: the addresses are swapped, the type is that of a reply, and the checksum is correct. -/
def IsReply (b r : List Byte) : Prop :=
  ∃ csum : IcmpCsum,
    r = b.take 12 ++ (b.drop 16).take 4 ++ (b.drop 12).take 4 ++ [icmpEchoReply, byteAt b 21] ++
      bytes16 csum ++ b.drop 24 ∧
    CsumOk (r.drop 20)

/-- A packet with a new ICMP checksum. -/
def withCsum (cs : List AxisIp4) (csum : IcmpCsum) : List AxisIp4 :=
  cs.mapIdx fun i c => if i = 2 then setIcmpCsum c csum else c

/-! ### Sums of words -/

section Sums

lemma csumOk_iff {message : List Byte} : CsumOk message ↔ ones (wordSum message) = 65535 := by
  rw [CsumOk, ← BitVec.toNat_inj, toNat_onesSum_words]
  rfl

/-- Only zeros have the sum zero. -/
lemma wordSum_pos {bs : List Byte} (h : ∃ x ∈ bs, x ≠ 0) : 0 < wordSum bs := by
  induction bs using List.twoStepInduction with
  | nil =>
      obtain ⟨x, hx, -⟩ := h
      cases hx
  | singleton x =>
      obtain ⟨y, hy, hne⟩ := h
      rw [List.mem_singleton.mp hy] at hne
      rw [wordSum_singleton]
      have hpos : x.toNat ≠ 0 := fun hx => hne (BitVec.eq_of_toNat_eq hx)
      omega
  | cons_cons x y bs ih _ =>
      rw [wordSum_cons_cons]
      obtain ⟨z, hz, hne⟩ := h
      have hpos : z.toNat ≠ 0 := fun hx => hne (BitVec.eq_of_toNat_eq hx)
      rcases List.mem_cons.mp hz with rfl | hz
      · omega
      · rcases List.mem_cons.mp hz with rfl | hz
        · omega
        · have hrest := ih ⟨z, hz, hne⟩
          omega

lemma toNat_replyCsum (old : IcmpCsum) :
    (replyCsum old).toNat = 65535 - ones (65535 - old.toNat + 63487) := by
  have hlt := old.isLt
  have hnot : ((~~~old).setWidth 17).toNat = 65535 - old.toNat := by
    rw [BitVec.toNat_setWidth, BitVec.toNat_not]
    omega
  have hadd : (0xF7FF : BitVec 17).toNat = 63487 := rfl
  have hfold : (carryFold ((~~~old).setWidth 17 + 0xF7FF)).toNat =
      ones (65535 - old.toNat + 63487) := by
    rw [toNat_carryFold_add (by rw [hnot]; omega) (by decide), hnot, hadd]
  have hle := ones_le (65535 - old.toNat + 63487)
  have hmask : (0xFFFF : BitVec 17).toNat = 2 ^ 16 - 1 := rfl
  rw [replyCsum, BitVec.toNat_setWidth, BitVec.toNat_and, hmask, Nat.and_two_pow_sub_one_eq_mod,
    BitVec.toNat_not, hfold]
  omega

/-- The checksum of the reply is correct again, if not all of the message is zero. -/
lemma ones_replyCsum {old : IcmpCsum} {rest : ℕ} (h : ones (0x0800 + old.toNat + rest) = 65535)
    (hrest : 0 < rest) : ones ((replyCsum old).toNat + rest) = 65535 := by
  have hlt := old.isLt
  rw [ones_eq_max_iff] at h ⊢
  have hy : ones (65535 - old.toNat + 63487) =
      (65535 - old.toNat + 63487 - 1) % 65535 + 1 := if_neg (by omega)
  rw [toNat_replyCsum, hy]
  omega

end Sums

/-! ### Words of bytes -/

section Bytes

lemma bytes16_be16 (bs : List Byte) (i : ℕ) :
    bytes16 (be16 bs i) = [byteAt bs i, byteAt bs (i + 1)] := by
  rw [be16, bytes16]
  generalize byteAt bs i = x, byteAt bs (i + 1) = y
  congr 1
  · ext j hj
    simp only [BitVec.getElem_extractLsb', BitVec.getLsbD_append]
    grind
  · congr 1
    ext j hj
    simp only [BitVec.getElem_extractLsb', BitVec.getLsbD_append]
    grind

lemma bytes32_be32 (bs : List Byte) (i : ℕ) :
    bytes32 (be32 bs i) =
      [byteAt bs i, byteAt bs (i + 1), byteAt bs (i + 2), byteAt bs (i + 3)] := by
  rw [be32, bytes32]
  generalize byteAt bs i = x, byteAt bs (i + 1) = y, byteAt bs (i + 2) = z, byteAt bs (i + 3) = w
  have h (k : ℕ) (v : Byte) (hv : ∀ j < 8, (x ++ y ++ z ++ w).getLsbD (k + j) = v.getLsbD j) :
      (x ++ y ++ z ++ w).extractLsb' k 8 = v := by
    ext j hj
    rw [BitVec.getElem_extractLsb', hv j hj, BitVec.getLsbD_eq_getElem hj]
  rw [h 24 x, h 16 y, h 8 z, h 0 w] <;>
  · intro j hj
    simp only [BitVec.getLsbD_append]
    grind

lemma wordSum_bytes16 (w : BitVec 16) (bs : List Byte) :
    wordSum (bytes16 w ++ bs) = w.toNat + wordSum bs := by
  have hw : w.extractLsb' 8 8 ++ w.extractLsb' 0 8 = w := be16_bytes16 w
  have hnat := toNat_byte_append (w.extractLsb' 8 8) (w.extractLsb' 0 8)
  rw [hw] at hnat
  rw [bytes16, List.cons_append, List.cons_append, List.nil_append, wordSum_cons_cons, ← hnat]

/-- Eight bytes. -/
lemma exists_eight {bs : List Byte} (h : bs.length = 8) :
    ∃ x₀ x₁ x₂ x₃ x₄ x₅ x₆ x₇, bs = [x₀, x₁, x₂, x₃, x₄, x₅, x₆, x₇] :=
  match bs, h with
  | [x₀, x₁, x₂, x₃, x₄, x₅, x₆, x₇], _ => ⟨x₀, x₁, x₂, x₃, x₄, x₅, x₆, x₇, rfl⟩

end Bytes

/-! ### The reply -/

section Reply

variable {c₀ c₁ c₂ : AxisIp4} {ds : List AxisIp4} {csum : IcmpCsum}

lemma data_blankChunk : blankChunk.data = List.replicate 8 0 := data_ofBytes

lemma data_iccSend : (iccSend c₁ c₂).data = c₁.data.take 4 ++ c₂.data.take 4 := by
  obtain ⟨x₀, x₁, x₂, x₃, x₄, x₅, x₆, x₇, hx⟩ := exists_eight c₁.length_data
  obtain ⟨y₀, y₁, y₂, y₃, y₄, y₅, y₆, y₇, hy⟩ := exists_eight c₂.length_data
  simp [iccSend, setIp4SrcAddr, setIp4HdrCsum, setIp4Prot, setIp4TtL, getIp4TtL, getIp4Prot,
    getIp4HdrCsum, getIp4DstAddr, data_setBytes, bytes16_be16, bytes32_be32, data_blankChunk, hx,
    hy, byteAt]

lemma data_iccReply :
    (iccReply c₁ c₂).data = c₁.data.drop 4 ++ [icmpEchoReply] ++ c₂.data.drop 5 := by
  obtain ⟨x₀, x₁, x₂, x₃, x₄, x₅, x₆, x₇, hx⟩ := exists_eight c₁.length_data
  obtain ⟨y₀, y₁, y₂, y₃, y₄, y₅, y₆, y₇, hy⟩ := exists_eight c₂.length_data
  simp [iccReply, setIcmpType, setIp4DstAddr, getIp4SrcAddr, data_setBytes, bytes32_be32, hx, hy,
    byteAt]

lemma isValid_iccSend : (iccSend c₁ c₂).isValid :=
  isValid_setBytes (isValid_setBytes (isValid_setBytes (isValid_setBytes isValid_ofBytes ..) ..) ..)
    ..

lemma isValid_iccReply (h : c₂.isValid) : (iccReply c₁ c₂).isValid :=
  isValid_setBytes (isValid_setBytes h ..) ..

/-- A packet with a new checksum, by its first three chunks. -/
lemma withCsum_cons : withCsum (c₀ :: c₁ :: c₂ :: ds) csum = c₀ :: c₁ :: setIcmpCsum c₂ csum :: ds := by
  have hrest : ds.mapIdx (fun _ c => c) = ds := by
    refine List.ext_getElem? fun j => ?_
    rw [List.getElem?_mapIdx]
    simp
  simp [withCsum, List.mapIdx_cons, hrest]

/-- What is written for a complete packet. -/
lemma reply_bytes (hcs : WellFormed (c₀ :: c₁ :: c₂ :: ds))
    (h₀ : c₀.tlast = false) (h₁ : c₁.tlast = false) (h₂ : c₂.tlast = false) (csum : IcmpCsum) :
    let b := streamBytes (c₀ :: c₁ :: c₂ :: ds)
    WellFormed (withCsum (echoData (c₀ :: c₁ :: c₂ :: ds)) csum) ∧
      streamBytes (withCsum (echoData (c₀ :: c₁ :: c₂ :: ds)) csum) =
        b.take 12 ++ (b.drop 16).take 4 ++ (b.drop 12).take 4 ++ [icmpEchoReply, byteAt b 21] ++
          bytes16 csum ++ b.drop 24 := by
  have hv₀ := hcs.head
  have hw₁ := hcs.tail h₀
  have hv₁ := hw₁.head
  have hw₂ := hw₁.tail h₁
  have hv₂ := hw₂.head
  have hds := hw₂.tail h₂
  have hvr : (setIcmpCsum (iccReply c₁ c₂) csum).isValid := isValid_setBytes (isValid_iccReply hv₂) ..
  have hb₀ := data_eq_bytes hv₀ (length_bytes_eq hv₀ h₀)
  have hb₁ := data_eq_bytes hv₁ (length_bytes_eq hv₁ h₁)
  have hb₂ := data_eq_bytes hv₂ (length_bytes_eq hv₂ h₂)
  have hbs := data_eq_bytes (@isValid_iccSend c₁ c₂)
    (length_bytes_eq isValid_iccSend rfl)
  have hbr := data_eq_bytes hvr (length_bytes_eq hvr h₂)
  refine ⟨?_, ?_⟩
  · rw [echoData, withCsum_cons]
    exact .cons hv₀ h₀ (.cons isValid_iccSend rfl (.cons hvr h₂ hds))
  · obtain ⟨x₀, x₁, x₂, x₃, x₄, x₅, x₆, x₇, hx⟩ := exists_eight c₀.length_data
    obtain ⟨y₀, y₁, y₂, y₃, y₄, y₅, y₆, y₇, hy⟩ := exists_eight c₁.length_data
    obtain ⟨z₀, z₁, z₂, z₃, z₄, z₅, z₆, z₇, hz⟩ := exists_eight c₂.length_data
    rw [echoData, withCsum_cons]
    simp only [streamBytes_cons, ← hb₀, ← hb₁, ← hb₂, ← hbs, ← hbr, data_iccSend]
    have hreply : (setIcmpCsum (iccReply c₁ c₂) csum).data =
        c₁.data.drop 4 ++ [icmpEchoReply] ++ (c₂.data.drop 5).take 1 ++ bytes16 csum := by
      rw [setIcmpCsum, data_setBytes _ (by simp [bytes16]), data_iccReply]
      simp [hy, hz, bytes16]
    rw [hreply]
    simp [hx, hy, hz, byteAt]

/-- A complete packet has three full chunks at least. -/
lemma exists_complete {cs : List AxisIp4} (hcs : WellFormed cs)
    (hlen : 28 ≤ (streamBytes cs).length) :
    ∃ c₀ c₁ c₂ ds, cs = c₀ :: c₁ :: c₂ :: ds ∧ c₀.tlast = false ∧ c₁.tlast = false ∧
      c₂.tlast = false := by
  obtain ⟨c₀, c₁, c₂, ds, rfl, h₀, h₁, -, -, hds, -, -, hn⟩ := exists_header hcs (by omega)
  obtain ⟨c, es, heq, -, h₂, -⟩ := hds.peel (by omega)
  obtain ⟨rfl, rfl⟩ := List.cons.inj heq
  exact ⟨c₀, c₁, c₂, ds, rfl, h₀, h₁, h₂⟩

/-- The message behind the header, by the chunks. -/
lemma complete_bytes (hcs : WellFormed (c₀ :: c₁ :: c₂ :: ds))
    (h₀ : c₀.tlast = false) (h₁ : c₁.tlast = false) (h₂ : c₂.tlast = false) :
    let b := streamBytes (c₀ :: c₁ :: c₂ :: ds)
    getIcmpType c₂ = byteAt b 20 ∧ getIcmpCode c₂ = byteAt b 21 ∧ getIcmpCsum c₂ = be16 b 22 ∧
      be16 c₂.data 4 = byteAt b 20 ++ byteAt b 21 ∧ b.drop 24 = streamBytes ds ∧
      b.drop 20 = [byteAt b 20, byteAt b 21] ++ bytes16 (be16 b 22) ++ b.drop 24 := by
  have hw₁ := hcs.tail h₀
  have hw₂ := hw₁.tail h₁
  have hb₀ := data_eq_bytes hcs.head (length_bytes_eq hcs.head h₀)
  have hb₁ := data_eq_bytes hw₁.head (length_bytes_eq hw₁.head h₁)
  have hb₂ := data_eq_bytes hw₂.head (length_bytes_eq hw₂.head h₂)
  obtain ⟨x₀, x₁, x₂, x₃, x₄, x₅, x₆, x₇, hx⟩ := exists_eight c₀.length_data
  obtain ⟨y₀, y₁, y₂, y₃, y₄, y₅, y₆, y₇, hy⟩ := exists_eight c₁.length_data
  obtain ⟨z₀, z₁, z₂, z₃, z₄, z₅, z₆, z₇, hz⟩ := exists_eight c₂.length_data
  simp only [streamBytes_cons, ← hb₀, ← hb₁, ← hb₂, getIcmpType, getIcmpCode, getIcmpCsum,
    bytes16_be16]
  simp [hx, hy, hz, byteAt, be16]

/-- A complete packet passes if and only if it is a request for an echo with a correct checksum. -/
lemma passes_iff {cs : List AxisIp4} (hcs : WellFormed cs) (hlen : 28 ≤ (streamBytes cs).length) :
    Passes cs ↔ IsEcho (streamBytes cs) := by
  obtain ⟨c₀, c₁, c₂, ds, rfl, h₀, h₁, h₂⟩ := exists_complete hcs hlen
  obtain ⟨htype, hcode, hcsum, hword, hrest, hmessage⟩ := complete_bytes hcs h₀ h₁ h₂
  have hsum : laneSum (c₀ :: c₁ :: c₂ :: ds) =
      wordSum ((streamBytes (c₀ :: c₁ :: c₂ :: ds)).drop 20) := by
    have h6 : be16 c₂.data 6 = be16 (streamBytes (c₀ :: c₁ :: c₂ :: ds)) 22 := hcsum
    rw [hmessage, List.append_assoc, List.cons_append, List.cons_append, List.nil_append,
      wordSum_cons_cons, wordSum_bytes16, hrest, laneSum, h6, hword, toNat_byte_append, add_assoc]
  have hpass : Passes (c₀ :: c₁ :: c₂ :: ds) ↔
      isPing (getIcmpType c₂) (getIcmpCode c₂) ∧
        ones (laneSum (c₀ :: c₁ :: c₂ :: ds)) = 65535 := Iff.rfl
  rw [hpass, hsum, ← csumOk_iff, isPing, htype, hcode]
  exact ⟨fun h => ⟨hlen, h.1.1, h.1.2, h.2⟩, fun h => ⟨⟨h.type, h.code⟩, h.csum⟩⟩

/-- **What is written for a request** is its reply, if not all is zero behind the checksum. -/
theorem reply_spec {cs : List AxisIp4} (hcs : WellFormed cs)
    (hlen : 28 ≤ (streamBytes cs).length) (hpass : Passes cs)
    (hrest : ∃ x ∈ (streamBytes cs).drop 24, x ≠ 0) :
    WellFormed (withCsum (echoData cs) (echoCsum cs)) ∧
      IsReply (streamBytes cs) (streamBytes (withCsum (echoData cs) (echoCsum cs))) := by
  have hecho := (passes_iff hcs hlen).mp hpass
  obtain ⟨c₀, c₁, c₂, ds, rfl, h₀, h₁, h₂⟩ := exists_complete hcs hlen
  obtain ⟨hwf, hbytes⟩ := reply_bytes hcs h₀ h₁ h₂ (echoCsum (c₀ :: c₁ :: c₂ :: ds))
  obtain ⟨-, -, hcsum, -, -, hmessage⟩ := complete_bytes hcs h₀ h₁ h₂
  refine ⟨hwf, echoCsum (c₀ :: c₁ :: c₂ :: ds), hbytes, ?_⟩
  have hold : echoCsum (c₀ :: c₁ :: c₂ :: ds) =
      replyCsum (be16 (streamBytes (c₀ :: c₁ :: c₂ :: ds)) 22) := congrArg replyCsum hcsum
  have hok := hecho.csum
  have hcode := hecho.code
  have htype := hecho.type
  rw [hbytes, hold]
  generalize streamBytes (c₀ :: c₁ :: c₂ :: ds) = b at *
  rw [csumOk_iff, hmessage, htype, hcode, List.append_assoc, List.cons_append, List.cons_append,
    List.nil_append, wordSum_cons_cons, wordSum_bytes16, ← Nat.add_assoc] at hok
  have hdrop : (b.take 12 ++ (b.drop 16).take 4 ++ (b.drop 12).take 4 ++
      [icmpEchoReply, byteAt b 21] ++ bytes16 (replyCsum (be16 b 22)) ++ b.drop 24).drop 20 =
        [icmpEchoReply, byteAt b 21] ++ (bytes16 (replyCsum (be16 b 22)) ++ b.drop 24) := by
    have hlen20 : (b.take 12 ++ (b.drop 16).take 4 ++ (b.drop 12).take 4).length = 20 := by
      simp only [List.length_append, List.length_take, List.length_drop]
      omega
    rw [List.append_assoc, List.append_assoc, List.drop_left' hlen20]
  rw [csumOk_iff, hdrop, hcode, List.cons_append, List.cons_append, List.nil_append,
    wordSum_cons_cons, wordSum_bytes16]
  have hzero : icmpEchoReply.toNat * 256 + (0 : Byte).toNat = 0 := rfl
  rw [hzero, Nat.zero_add]
  exact ones_replyCsum hok (wordSum_pos hrest)

end Reply

end CloudFpga.Icmp
