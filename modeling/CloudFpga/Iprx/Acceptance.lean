import CloudFpga.Iprx.ChecksumAccumulator

/-!
Which IP packets are accepted: `pIpChecksumChecker` and `pIpInvalidDropper` of `iprx.cpp`, behind
`pIpChecksumAccumulator`.

* `iidChunk`, `iidOut`: what the dropper does with a chunk, and what it forwards. It waits at the
  first chunk of a packet until all of the verdicts on it have come.
* `iidOut_packet`: a packet is forwarded or dropped as a whole.
* `Acceptable`: which packets are to be accepted.
* `forwarded_iff`: exactly these are, unless the bytes that are added or compared in place of others
  make a difference.
-/

namespace CloudFpga.Iprx

open Foundation Toe AxisRaw

/-- `pIpChecksumChecker`: the four sums are added up. -/
def pIpChecksumChecker (ipHdrSums : SubSums) : Bool :=
  let sum0 := carryFold (ipHdrSums.sums 0 + ipHdrSums.sums 2)
  let sum1 := carryFold (ipHdrSums.sums 1 + ipHdrSums.sums 3)
  (~~~carryFold (sum0 + sum1)).setWidth 16 = (0 : BitVec 16) && ipHdrSums.ipMatch

inductive IidFsmStates where
  | idle | fwd | drop
  deriving DecidableEq, Repr

/-- The state of the dropper, and the streams of verdicts. -/
structure Iid where
  iidFsmState : IidFsmStates := .idle
  siICaIpVer : List Ip4Version := []
  siICaDropFrag : List CmdBit := []
  siICcCsumValid : List Bool := []
  deriving DecidableEq

/-- What the dropper does with a chunk, if it does not wait. -/
def iidChunk (s : Iid) (currChunk : AxisIp4) : Option (Iid × List AxisIp4) :=
  match s.iidFsmState with
  | .idle =>
      match s.siICcCsumValid, s.siICaIpVer, s.siICaDropFrag with
      | csumValid :: bs, ipVer :: vs, dropFrag :: ds =>
          let valid := csumValid ∧ ipVer = 4 ∧ dropFrag = .keep
          some (⟨if valid then .fwd else .drop, vs, ds, bs⟩, if valid then [currChunk] else [])
      | _, _, _ => none
  | .fwd =>
      some ({ s with iidFsmState := if currChunk.tlast then .idle else .fwd }, [currChunk])
  | .drop => some ({ s with iidFsmState := if currChunk.tlast then .idle else .drop }, [])

/-- What `pIpInvalidDropper` forwards of some chunks. -/
def iidOut : Iid → List AxisIp4 → List AxisIp4
  | _, [] => []
  | s, c :: cs =>
      match iidChunk s c with
      | some (s', out) => out ++ iidOut s' cs
      | none => []

section Dropper

variable {s : Iid} {c : AxisIp4} {cs ds : List AxisIp4} {csumValid : Bool} {bs : List Bool}
  {ipVer : Ip4Version} {vs : List Ip4Version} {dropFrag : CmdBit} {fs : List CmdBit}

/-- The rest of a packet is forwarded. -/
lemma iidOut_fwd (hcs : IsStream cs) (hst : s.iidFsmState = .fwd) :
    iidOut s (cs ++ ds) = cs ++ iidOut { s with iidFsmState := .idle } ds := by
  induction cs generalizing s with
  | nil => exact absurd hcs id
  | cons c cs ih =>
      rw [List.cons_append, iidOut, iidChunk, hst]
      dsimp only
      cases hlast : c.tlast with
      | true =>
          obtain rfl := (isPacket_cons_of_last hlast).mp hcs
          rfl
      | false =>
          rw [if_neg Bool.false_ne_true, ih ((isPacket_cons_of_not_last hlast).mp hcs) rfl]
          rfl

/-- The rest of a packet is dropped. -/
lemma iidOut_drop (hcs : IsStream cs) (hst : s.iidFsmState = .drop) :
    iidOut s (cs ++ ds) = iidOut { s with iidFsmState := .idle } ds := by
  induction cs generalizing s with
  | nil => exact absurd hcs id
  | cons c cs ih =>
      rw [List.cons_append, iidOut, iidChunk, hst]
      dsimp only
      cases hlast : c.tlast with
      | true =>
          obtain rfl := (isPacket_cons_of_last hlast).mp hcs
          rfl
      | false =>
          rw [if_neg Bool.false_ne_true, ih ((isPacket_cons_of_not_last hlast).mp hcs) rfl]
          rfl

/-- A packet of more than one chunk is forwarded or dropped as a whole. -/
theorem iidOut_packet (hcs : IsStream (c :: cs)) (hc : c.tlast = false) :
    iidOut ⟨.idle, ipVer :: vs, dropFrag :: fs, csumValid :: bs⟩ (c :: cs ++ ds) =
      (if csumValid = true ∧ ipVer = 4 ∧ dropFrag = .keep then c :: cs else []) ++
        iidOut ⟨.idle, vs, fs, bs⟩ ds := by
  have hrest := (isPacket_cons_of_not_last hc).mp hcs
  rw [List.cons_append, iidOut, iidChunk]
  dsimp only
  split
  · rw [iidOut_fwd hrest rfl]
    rfl
  · rw [iidOut_drop hrest rfl]

end Dropper

/-! ### The three processes -/

/-- What is forwarded of a frame. -/
def forwarded (a : Ip4Addr) (u : Bool) (r : IcaRegs) (cs : List AxisEth) : List AxisIp4 :=
  let out := icaOut a u r cs
  iidOut
    { siICaIpVer := out.ipVer
      siICaDropFrag := out.dropCmd
      siICcCsumValid := out.subSums.map pIpChecksumChecker } out.data

/-- The one's complement sum of a header with its checksum has all bits set. -/
def CsumOk (bs : List Byte) : Prop := onesSum (words bs) = 0xFFFF

instance (bs : List Byte) : Decidable (CsumOk bs) := inferInstanceAs (Decidable (_ = _))

/-- What the verdicts of the code say about the packet of a frame. -/
structure CodeValid (a : Ip4Addr) (cs : List AxisEth) : Prop where
  version : (byteAt (rawPacket cs) 0).extractLsb' 4 4 = (4 : Ip4Version)
  whole : isFragment (be16 (rawPacket cs) 6) = false
  dstAddr : be16 (rawPacket cs) 16 ++ be16 (rawPacket cs) (lastHdrChunkAt (rawHdrLen cs)) = a
  csum : CsumOk ((rawPacket cs).take (summedBytes (rawHdrLen cs)))

section Chain

variable {a : Ip4Addr} {u : Bool} {r : IcaRegs} {cs : List AxisEth}

lemma checker_eq {sums : Fin 4 → BitVec 17} {bs : List Byte} (h : SumsHold sums (wordSum bs))
    (ipMatch : Bool) :
    pIpChecksumChecker ⟨sums, ipMatch⟩ = true ↔ CsumOk bs ∧ ipMatch = true := by
  have htotal := h.toNat_csumTotal
  have hones := toNat_onesSum_words bs
  have hle := ones_le (wordSum bs)
  have hzero : (~~~csumTotal sums).setWidth 16 = (0 : BitVec 16) ↔ ones (wordSum bs) = 65535 := by
    rw [← BitVec.toNat_inj, BitVec.toNat_setWidth, BitVec.toNat_not, htotal]
    show (2 ^ 17 - 1 - ones (wordSum bs)) % 2 ^ 16 = 0 ↔ _
    omega
  have hok : CsumOk bs ↔ ones (wordSum bs) = 65535 := by
    rw [CsumOk, ← BitVec.toNat_inj, hones]
    exact Iff.rfl
  rw [hok, ← hzero]
  exact Bool.and_eq_true_iff.trans (and_congr_left' decide_eq_true_iff)

lemma isFragment_keep {w : BitVec 16} :
    (if isFragment w then CmdBit.drop else CmdBit.keep) = .keep ↔ isFragment w = false := by
  cases isFragment w with
  | true => simp
  | false => simp

/-- What the verdicts on a frame say. -/
lemma codeValid_iff {sums : Fin 4 → BitVec 17}
    (h : SumsHold sums (wordSum ((rawPacket cs).take (summedBytes (rawHdrLen cs))))) :
    (pIpChecksumChecker ⟨sums, be16 (rawPacket cs) 16 ++
        be16 (rawPacket cs) (lastHdrChunkAt (rawHdrLen cs)) = a⟩ = true ∧
      (byteAt (rawPacket cs) 0).extractLsb' 4 4 = (4 : Ip4Version) ∧
      (if isFragment (be16 (rawPacket cs) 6) then CmdBit.drop else CmdBit.keep) = .keep) ↔
    CodeValid a cs := by
  rw [checker_eq h, decide_eq_true_eq, isFragment_keep]
  exact ⟨fun ⟨⟨hcsum, hdst⟩, hver, hfrag⟩ => ⟨hver, hfrag, hdst, hcsum⟩,
    fun ⟨hver, hfrag, hdst, hcsum⟩ => ⟨⟨hcsum, hdst⟩, hver, hfrag⟩⟩

instance : Decidable (CodeValid a cs) :=
  decidable_of_iff ((byteAt (rawPacket cs) 0).extractLsb' 4 4 = (4 : Ip4Version) ∧
      isFragment (be16 (rawPacket cs) 6) = false ∧
      be16 (rawPacket cs) 16 ++ be16 (rawPacket cs) (lastHdrChunkAt (rawHdrLen cs)) = a ∧
      CsumOk ((rawPacket cs).take (summedBytes (rawHdrLen cs))))
    ⟨fun ⟨h1, h2, h3, h4⟩ => ⟨h1, h2, h3, h4⟩, fun ⟨h1, h2, h3, h4⟩ => ⟨h1, h2, h3, h4⟩⟩

/-- All chunks but the last one are full. -/
def Full (cs : List AxisRaw) : Prop := ∀ c ∈ cs, c.tlast = false → c.isValid

lemma fits_of_valid {off : ℕ} {c : AxisRaw} (h1 : 1 ≤ off) (hc : c.isValid)
    (hlast : c.tlast = false) : fits off c = false := by
  rw [Bool.eq_false_iff, ne_eq, fits_iff hc, (mask_of_isValid hc).2.2 hlast]
  omega

/-- A shifted stream is a stream. -/
lemma isStream_shiftStream {off : ℕ} (h1 : 1 ≤ off) (hfull : Full cs) (hcs : IsStream cs)
    (prev : AxisRaw) : IsStream (shiftStream off prev cs) := by
  induction cs generalizing prev with
  | nil => exact absurd hcs id
  | cons c cs ih =>
      have hjoin : (joinRest off prev c).tlast = fits off c := rfl
      rw [shiftStream]
      cases hlast : c.tlast with
      | true =>
          rw [if_pos rfl]
          cases hfit : fits off c with
          | true => exact (isPacket_cons_of_last (hjoin.trans hfit)).mpr rfl
          | false =>
              exact (isPacket_cons_of_not_last (hjoin.trans hfit)).mpr
                ((isPacket_cons_of_last rfl).mpr rfl)
      | false =>
          rw [if_neg Bool.false_ne_true]
          have hfit := fits_of_valid h1 (hfull c List.mem_cons_self hlast) hlast
          exact (isPacket_cons_of_not_last (hjoin.trans hfit)).mpr
            (ih (fun d hd => hfull d (List.mem_cons_of_mem c hd))
              ((isPacket_cons_of_not_last hlast).mp hcs) c)

/-- The packet of a frame has more than one chunk. -/
lemma icaReport_packet (hstream : IsStream cs) (hlen : 4 ≤ cs.length) (hfull : Full cs) :
    ∃ d ds, shiftStream 2 (cs.getD 1 zero) (cs.drop 2) = d :: ds ∧ d.tlast = false ∧
      IsStream (d :: ds) := by
  obtain ⟨c0, c1, c2, c3, rest, rfl⟩ := exists_four hlen
  obtain ⟨-, hs1⟩ := isStream_not_last hstream
  obtain ⟨-, hs2⟩ := isStream_not_last hs1
  obtain ⟨hl2, -⟩ := isStream_not_last hs2
  have hfull2 : Full (c2 :: c3 :: rest) := fun d hd =>
    hfull d (List.mem_cons_of_mem c0 (List.mem_cons_of_mem c1 hd))
  have hfit := fits_of_valid (by decide : 1 ≤ 2) (hfull2 c2 List.mem_cons_self hl2) hl2
  have hpacket := isStream_shiftStream (by decide : 1 ≤ 2) hfull2 hs2 c1
  exact ⟨joinRest 2 c1 c2, shiftStream 2 c2 (c3 :: rest), by simp [shiftStream, hl2], hfit,
    by simpa [shiftStream, hl2] using hpacket⟩

/-- **What is forwarded of a frame** is its packet if the verdicts of the code say so. -/
theorem forwarded_eq (hr : IcaIdle r) (hcs : HeaderInside cs) (hfull : Full cs) :
    forwarded a u r cs = if CodeValid a cs then (icaOut a u r cs).data else [] := by
  obtain ⟨hdata, hver, hdrop, sums, hsums, hsub⟩ := icaReport (a := a) (u := u) hr hcs
  obtain ⟨d, ds, hpacket, hlast, hstream⟩ :=
    icaReport_packet hcs.isStream (Nat.le_of_add_right_le hcs.length) hfull
  rw [forwarded, hdata, hver, hdrop, hsub, hpacket, List.map_singleton]
  conv_lhs => rw [← List.append_nil (d :: ds)]
  rw [iidOut_packet hstream hlast, iidOut, List.append_nil, if_congr (codeValid_iff hsums) rfl rfl]

end Chain

/-! ### The property -/

/-- The IP packet of a frame. -/
def ipPacket (cs : List AxisEth) : List Byte := (streamBytes cs).drop 14

/-- The header length of a packet, in words of 32 bits. -/
def ihl (p : List Byte) : ℕ := ((byteAt p 0).setWidth 4 : Ip4HdrLen).toNat

/-- A packet for the address `a` that is to be accepted. -/
structure Acceptable (a : Ip4Addr) (p : List Byte) : Prop where
  version : (byteAt p 0).extractLsb' 4 4 = (4 : Ip4Version)
  dstAddr : be16 p 16 ++ be16 p 18 = a
  csum : CsumOk (p.take (4 * ihl p))
  moreFragments : (be16 p 6).getLsbD 13 = false
  fragOffset : (be16 p 6).setWidth 13 = (0 : BitVec 13)

/-- An acceptable packet is forwarded, and no other one. -/
structure AcceptsRight (a : Ip4Addr) (u : Bool) (r : IcaRegs) (cs : List AxisEth) : Prop where
  accepts : Acceptable a (ipPacket cs) →
    WellFormed (forwarded a u r cs) ∧ streamBytes (forwarded a u r cs) = ipPacket cs
  rejects : ¬Acceptable a (ipPacket cs) → forwarded a u r cs = []

/-- The packet is rejected for another reason, or it makes no difference that the lower half of the
address is taken from the last chunk of the header, and that two bytes too many are added if the
header has an even number of words. -/
def Harmless (a : Ip4Addr) (cs : List AxisEth) : Prop :=
  let p := rawPacket cs
  (byteAt p 0).extractLsb' 4 4 ≠ (4 : Ip4Version) ∨ isFragment (be16 p 6) = true ∨
    be16 p 16 ≠ a.extractLsb' 16 16 ∨
    (be16 p 18 = a.extractLsb' 0 16 ∧ CsumOk (p.take (4 * ihl p)) ↔
      be16 p (lastHdrChunkAt (ihl p)) = a.extractLsb' 0 16 ∧ CsumOk (p.take (summedBytes (ihl p))))

section Property

variable {a : Ip4Addr} {u : Bool} {r : IcaRegs} {cs : List AxisEth} {p q : List Byte}

/-- On `tdata` there are the bytes of a stream, and what is not valid of its last chunk. -/
lemma rawBytes_eq (hcs : WellFormed cs) : ∃ pad, rawBytes cs = streamBytes cs ++ pad := by
  induction cs with
  | nil => exact absurd hcs.isStream id
  | cons c cs ih =>
      rw [rawBytes_cons, streamBytes_cons]
      cases hlast : c.tlast with
      | true =>
          obtain rfl := hcs.tail_eq_nil hlast
          refine ⟨c.data.drop c.bytes.length, ?_⟩
          have hsplit := List.take_append_drop c.bytes.length c.data
          rw [← bytes_eq_take hcs.head] at hsplit
          rw [streamBytes_nil, List.append_nil]
          exact (List.append_nil _).trans hsplit.symm
      | false =>
          obtain ⟨pad, hpad⟩ := ih (hcs.tail hlast)
          exact ⟨pad, by
            rw [hpad, data_eq_bytes hcs.head (length_bytes_eq hcs.head hlast), List.append_assoc]⟩

lemma append_eq_iff {x y : BitVec 16} {a : BitVec 32} :
    x ++ y = a ↔ x = a.extractLsb' 16 16 ∧ y = a.extractLsb' 0 16 := by
  have hlow : (x ++ y).extractLsb' 0 16 = y := by
    ext i hi
    simp only [BitVec.getElem_extractLsb', BitVec.getLsbD_append]
    rw [if_pos (by omega), Nat.zero_add]
    exact BitVec.getLsbD_eq_getElem hi
  have hboth : a.extractLsb' 16 16 ++ a.extractLsb' 0 16 = a := by
    ext i hi
    simp only [BitVec.getElem_append, BitVec.getElem_extractLsb']
    split
    · rw [Nat.zero_add]
      exact BitVec.getLsbD_eq_getElem hi
    · rw [show 16 + (i - 16) = i by omega]
      exact BitVec.getLsbD_eq_getElem hi
  constructor
  · rintro rfl
    exact ⟨(extract_append x y).symm, hlow.symm⟩
  · rintro ⟨rfl, rfl⟩
    exact hboth

lemma isFragment_iff {w : BitVec 16} :
    isFragment w = false ↔ w.getLsbD 13 = false ∧ w.setWidth 13 = (0 : BitVec 13) := by
  simp [isFragment, and_comm]

/-- A frame with its header in its bytes. -/
structure HeaderHere (cs : List AxisEth) : Prop where
  wellFormed : WellFormed cs
  five : 5 ≤ ihl (ipPacket cs)
  length : 14 + 4 * ihl (ipPacket cs) ≤ (streamBytes cs).length

/-- The fields of the header are on `tdata`. -/
lemma HeaderHere.fields (h : HeaderHere cs) :
    (∀ i < 20, byteAt (rawPacket cs) i = byteAt (ipPacket cs) i) ∧
      ihl (rawPacket cs) = ihl (ipPacket cs) ∧
      (rawPacket cs).take (4 * ihl (ipPacket cs)) = (ipPacket cs).take (4 * ihl (ipPacket cs)) := by
  obtain ⟨hwf, hfive, hlen⟩ := h
  obtain ⟨pad, hpad⟩ := rawBytes_eq hwf
  have hraw : rawPacket cs = ipPacket cs ++ pad := by
    rw [rawPacket, hpad, List.drop_append_of_le_length (by omega)]
    rfl
  have hplen : 4 * ihl (ipPacket cs) ≤ (ipPacket cs).length := by
    rw [ipPacket, List.length_drop]
    exact Nat.le_sub_of_add_le' hlen
  have hbyte (i : ℕ) (hi : i < 20) : byteAt (rawPacket cs) i = byteAt (ipPacket cs) i := by
    rw [hraw, byteAt_append (by omega)]
  refine ⟨hbyte, ?_, ?_⟩
  · rw [ihl, hbyte 0 (by decide)]
    rfl
  · rw [hraw, List.take_append_of_le_length hplen]

lemma HeaderHere.headerInside (h : HeaderHere cs) : HeaderInside cs := by
  have hihl : rawHdrLen cs = ihl (ipPacket cs) := h.fields.2.1
  obtain ⟨pad, hpad⟩ := rawBytes_eq h.wellFormed
  have hraw : (rawBytes cs).length = 8 * cs.length := by
    rw [rawBytes, List.length_flatMap]
    simp [length_data, Nat.mul_comm]
  have hle := congrArg List.length hpad
  rw [List.length_append, hraw] at hle
  have hlen := h.length
  have hfive := h.five
  refine ⟨h.wellFormed.isStream, ?_, ?_⟩
  · rw [hihl]
    exact hfive
  · rw [hihl]
    omega

lemma full_of_wellFormed (h : WellFormed cs) : Full cs := fun c hc _ => h.isValid c hc

/-- The packet of a frame. -/
lemma HeaderHere.packet (h : HeaderHere cs) :
    WellFormed (shiftStream 2 (cs.getD 1 zero) (cs.drop 2)) ∧
      streamBytes (shiftStream 2 (cs.getD 1 zero) (cs.drop 2)) = ipPacket cs := by
  have hlen := h.length
  have hfive := h.five
  obtain ⟨c0, ds, rfl, hc0, -, h80, hds, hs0⟩ := h.wellFormed.peel (by omega)
  obtain ⟨c1, es, rfl, hc1, hl1, h81, hes, hs1⟩ := hds.peel (by omega)
  obtain ⟨hwf, hbytes⟩ := shiftStream_spec (by decide : 1 ≤ 2) (by decide) hc1 hl1 hes
  refine ⟨hwf, hbytes.trans ?_⟩
  rw [ipPacket, streamBytes_cons, streamBytes_cons, show 14 = 8 + 6 by rfl, ← List.drop_drop,
    List.drop_left' h80, List.drop_append_of_le_length (by omega)]

/-- The code is right about a frame exactly if its verdicts are. -/
lemma acceptsRight_iff (hr : IcaIdle r) (h : HeaderHere cs) :
    AcceptsRight a u r cs ↔ (CodeValid a cs ↔ Acceptable a (ipPacket cs)) := by
  have hdata := (icaReport (a := a) (u := u) hr h.headerInside).data
  have hforwarded := forwarded_eq (a := a) (u := u) hr h.headerInside (full_of_wellFormed h.wellFormed)
  obtain ⟨hwf, hbytes⟩ := h.packet
  rw [hdata] at hforwarded
  constructor
  · rintro ⟨haccepts, hrejects⟩
    constructor
    · intro hvalid
      by_contra hacc
      rw [if_pos hvalid] at hforwarded
      rw [hforwarded] at hrejects
      exact hwf.isStream.ne_nil (hrejects hacc)
    · intro hacc
      by_contra hvalid
      rw [if_neg hvalid] at hforwarded
      rw [hforwarded] at haccepts
      exact (haccepts hacc).1.isStream
  · intro hiff
    refine ⟨fun hacc => ?_, fun hacc => ?_⟩
    · rw [hforwarded, if_pos (hiff.mpr hacc)]
      exact ⟨hwf, hbytes⟩
    · rw [hforwarded, if_neg (mt hiff.mp hacc)]

/-- Two conditions behind the same guards. -/
lemma guarded_iff {P Q R X Y : Prop} :
    ((P ∧ Q ∧ R ∧ X) ↔ (P ∧ Q ∧ R ∧ Y)) ↔ ¬P ∨ ¬Q ∨ ¬R ∨ (Y ↔ X) := by
  by_cases hguards : P ∧ Q ∧ R
  · obtain ⟨hP, hQ, hR⟩ := hguards
    simp only [hP, hQ, hR, true_and, not_true_eq_false, false_or]
    exact iff_comm
  · refine iff_of_true ⟨fun h => ?_, fun h => ?_⟩ ?_
    · exact absurd ⟨h.1, h.2.1, h.2.2.1⟩ hguards
    · exact absurd ⟨h.1, h.2.1, h.2.2.1⟩ hguards
    · rw [not_and_or, not_and_or] at hguards
      rcases hguards with hP | hQ | hR
      · exact .inl hP
      · exact .inr (.inl hQ)
      · exact .inr (.inr (.inl hR))

/-- **Acceptance**: exactly the acceptable packets are forwarded if and only if the bytes that the
code takes in place of others make no difference. -/
theorem forwarded_iff (a : Ip4Addr) (u : Bool) (r : IcaRegs) (cs : List AxisEth) (hr : IcaIdle r)
    (h : HeaderHere cs) : AcceptsRight a u r cs ↔ Harmless a cs := by
  obtain ⟨hbyte, hihl, htake⟩ := h.fields
  have hbe (i : ℕ) (hi : i < 19) : be16 (rawPacket cs) i = be16 (ipPacket cs) i := by
    rw [be16, be16, hbyte i (by omega), hbyte (i + 1) (by omega)]
  have hacc : Acceptable a (ipPacket cs) ↔
      (byteAt (rawPacket cs) 0).extractLsb' 4 4 = (4 : Ip4Version) ∧
        isFragment (be16 (rawPacket cs) 6) = false ∧
        be16 (rawPacket cs) 16 = a.extractLsb' 16 16 ∧
        be16 (rawPacket cs) 18 = a.extractLsb' 0 16 ∧
        CsumOk ((rawPacket cs).take (4 * ihl (rawPacket cs))) := by
    rw [hihl, htake, hbyte 0 (by decide), hbe 6 (by decide), hbe 16 (by decide),
      hbe 18 (by decide), isFragment_iff]
    constructor
    · rintro ⟨hver, hdst, hcsum, hmf, hoff⟩
      obtain ⟨hhi, hlo⟩ := append_eq_iff.mp hdst
      exact ⟨hver, ⟨hmf, hoff⟩, hhi, hlo, hcsum⟩
    · rintro ⟨hver, ⟨hmf, hoff⟩, hhi, hlo, hcsum⟩
      exact ⟨hver, append_eq_iff.mpr ⟨hhi, hlo⟩, hcsum, hmf, hoff⟩
  have hcode : CodeValid a cs ↔
      (byteAt (rawPacket cs) 0).extractLsb' 4 4 = (4 : Ip4Version) ∧
        isFragment (be16 (rawPacket cs) 6) = false ∧
        be16 (rawPacket cs) 16 = a.extractLsb' 16 16 ∧
        be16 (rawPacket cs) (lastHdrChunkAt (ihl (rawPacket cs))) = a.extractLsb' 0 16 ∧
        CsumOk ((rawPacket cs).take (summedBytes (ihl (rawPacket cs)))) := by
    constructor
    · rintro ⟨hver, hwhole, hdst, hcsum⟩
      obtain ⟨hhi, hlo⟩ := append_eq_iff.mp hdst
      exact ⟨hver, hwhole, hhi, hlo, hcsum⟩
    · rintro ⟨hver, hwhole, hhi, hlo, hcsum⟩
      exact ⟨hver, hwhole, append_eq_iff.mpr ⟨hhi, hlo⟩, hcsum⟩
  rw [acceptsRight_iff hr h, hacc, hcode, Harmless, ← Bool.not_eq_false]
  exact guarded_iff

instance : Decidable (Harmless a cs) :=
  inferInstanceAs (Decidable (_ ∨ _ ∨ _ ∨ (_ ↔ _)))

end Property

/-- The registers of the accumulator, before the first frame. -/
def icaReset : IcaRegs :=
  { ipHdrSums := fun _ => 0, ipHdrLen := 0, dstIpAddress := 0, prevChunk := zero }

/-- A frame of five full chunks: the Ethernet header, the words at the beginning of the header, its
checksum, and what comes behind the destination address. -/
def frameOf (hdrLen totalLen csumHi csumLo : Byte) (o0 o1 o2 o3 o4 o5 : Byte) : List AxisEth :=
  [ AxisRaw.ofBytes [2, 0, 0, 0, 0, 2, 2, 0] false rfl,
    AxisRaw.ofBytes [0, 0, 0, 1, 8, 0, 0x40 ||| hdrLen, 0] false rfl,
    AxisRaw.ofBytes [0, totalLen, 0, 0, 0, 0, 64, 17] false rfl,
    AxisRaw.ofBytes [csumHi, csumLo, 10, 0, 0, 1, 10, 0] false rfl,
    AxisRaw.ofBytes [0, 2, o0, o1, o2, o3, o4, o5] true rfl ]

/-- A packet without options is accepted. -/
theorem forwarded_iff_plain :
    AcceptsRight 0x0A000002 true icaReset (frameOf 5 26 102 209 1 2 3 4 5 6) :=
  (forwarded_iff 0x0A000002 true icaReset _ ⟨rfl, rfl⟩
    ⟨by decide +kernel, by decide +kernel, by decide +kernel⟩).mpr (by decide +kernel)

/-- The word behind a header of six words is added to its sum: the packet is dropped. -/
theorem word_behind_header :
    ¬AcceptsRight 0x0A000002 true icaReset (frameOf 6 26 99 207 1 1 1 1 0x12 0x34) := by
  intro h
  have hacc : Acceptable 0x0A000002 (ipPacket (frameOf 6 26 99 207 1 1 1 1 0x12 0x34)) :=
    ⟨by decide +kernel, by decide +kernel, by decide +kernel, by decide +kernel,
      by decide +kernel⟩
  have hforwarded := (h.accepts hacc).2
  revert hforwarded
  decide +kernel

end CloudFpga.Iprx
