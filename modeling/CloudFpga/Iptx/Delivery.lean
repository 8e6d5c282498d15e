import CloudFpga.Iptx.Frames
import CloudFpga.Iptx.Steps
import CloudFpga.Uoe.TxPackets

/-!
The law of the IP transmitter: what the L2 multiplexer gets when the L3 multiplexer has some packets.

* `header_read`, `csum_written`: `pHeaderChecksumAccumulator` in the header of a packet.
* `Ipt.Passing`: what is behind the third chunk passes all processes; `stream_passed`.
* `packet_delivered`, `packets_delivered`: one run of the processes with all frames at its end.
* `iptx_law`: every order of the calls.
-/

namespace CloudFpga.Iptx

open Foundation AxisRaw Toe
open Arp (AxisEth ArpLkpReply)
open Icmp (setIp4HdrCsum)
open Uoe (getIp4DstAddr)

/-- The streams to and from `iptx` have room for an item. -/
structure IptxEnv.Ok (e : IptxEnv) : Prop where
  siL3MUXData : 1 ≤ e.siL3MUXData
  soARPLookupReq : 1 ≤ e.soARPLookupReq
  siARPLookupRep : 1 ≤ e.siARPLookupRep
  soL2MUXData : 1 ≤ e.soL2MUXData

/-- Between two packets: some are still to come, and `n` addresses were looked up. -/
structure Ipt.At (t : Ipt) (packets : List AxisIp4) (n : ℕ) (frames : List AxisEth) : Prop where
  hca : HcaBehind t.hca true
  ici : t.ici = .s0
  iae : t.iae = 0
  mai : t.mai.maiFsmState = .waitLookup
  arp : t.arp = n
  l3mux : t.l3mux = packets
  l2mux : t.l2mux = frames
  siL3MUXData : t.siL3MUXData = []
  ssHCaToICiData : t.ssHCaToICiData = []
  ssHCaToICiCsum : t.ssHCaToICiCsum = []
  ssICiToIAeData : t.ssICiToIAeData = []
  ssIAeToMAiData : t.ssIAeToMAiData = []
  soARPLookupReq : t.soARPLookupReq = []
  siARPLookupRep : t.siARPLookupRep = []
  soL2MUXData : t.soL2MUXData = []

section Delivery

variable {e : IptxEnv} {t : Ipt} {c : AxisIp4} {cs later : List AxisIp4}

/-! ### The header -/

/-- `pHeaderChecksumAccumulator` reads the next chunk. -/
lemma chunk_read (he : e.Ok) (hcsum : t.hca.hcaCsumWritten = true) (hc : t.l3mux = c :: cs)
    (hnone : t.siL3MUXData = []) (hroom : t.ssHCaToICiData.length < 1024) :
    IptxReaches e t
      { t with
        l3mux := cs
        siL3MUXData := []
        hca := hcaChunk t.hca c
        ssHCaToICiData := t.ssHCaToICiData ++ [c] } := by
  have h1 := @l3mux_chunk e t c cs hc (by
    rw [hnone]
    exact he.siL3MUXData)
  rw [hnone] at h1
  exact h1.trans (hca_chunk hcsum rfl hroom)

/-- The rest of a header, of `k` words of four bytes. -/
lemma header_read {k n : ℕ} (he : e.Ok) (hhca : HcaHeader t.hca k n) (hcs : WellFormed cs)
    (h1 : 1 ≤ k) (hlen : 4 * k ≤ (streamBytes cs).length) (hl3 : t.l3mux = cs ++ later)
    (hnone : t.siL3MUXData = []) (hroom : t.ssHCaToICiData.length + k ≤ 1024) :
    ∃ header rest hca', cs = header ++ rest ∧ header ≠ [] ∧
      HcaEnd hca' (n + wordSum ((streamBytes cs).take (4 * k))) (decide (rest = [])) ∧
      IptxReaches e t
        { t with
          l3mux := rest ++ later
          siL3MUXData := []
          hca := hca'
          ssHCaToICiData := t.ssHCaToICiData ++ header } := by
  induction cs generalizing t k n with
  | nil => exact absurd hcs.isStream id
  | cons c cs ih =>
      have hread := @chunk_read e t c (cs ++ later) he hhca.hcaCsumWritten hl3 hnone (by omega)
      have hle := length_bytes_le c
      rw [streamBytes_cons, List.length_append] at hlen
      have hlast : decide (cs = []) = c.tlast := by
        cases hc : c.tlast with
        | true => exact decide_eq_true (hcs.tail_eq_nil hc)
        | false => exact decide_eq_false (hcs.tail hc).isStream.ne_nil
      by_cases h2 : k ≤ 2
      · have hfour : 4 * k ≤ c.bytes.length := by
          cases hc : c.tlast with
          | true =>
              rw [hcs.tail_eq_nil hc, streamBytes_nil, List.length_nil] at hlen
              omega
          | false =>
              rw [length_bytes_eq hcs.head hc]
              omega
        have hend := hhca.ends h1 h2 hcs.head hfour
        rw [← hlast] at hend
        refine ⟨[c], cs, _, rfl, List.cons_ne_nil _ _, ?_, hread⟩
        rw [streamBytes_cons, List.take_append_of_le_length hfour]
        exact hend
      · have hc : c.tlast = false := by
          by_contra hc
          rw [hcs.tail_eq_nil (by simpa using hc), streamBytes_nil, List.length_nil] at hlen
          omega
        have h8 := length_bytes_eq hcs.head hc
        obtain ⟨header, rest, hca', hsplit, hne, hend, hrest⟩ := @ih { t with
            l3mux := cs ++ later
            siL3MUXData := []
            hca := hcaChunk t.hca c
            ssHCaToICiData := t.ssHCaToICiData ++ [c] } (k - 2) _
          (hhca.goesOn (by omega) hcs.head hc) (hcs.tail hc) (by omega) (by omega) rfl rfl (by
            show (t.ssHCaToICiData ++ [c]).length + (k - 2) ≤ 1024
            rw [List.length_append, List.length_singleton]
            omega)
        have hall := hread.trans hrest
        rw [List.append_assoc, List.singleton_append] at hall
        refine ⟨c :: header, rest, hca', by rw [hsplit]; rfl, List.cons_ne_nil _ _, ?_, hall⟩
        have htake : (streamBytes (c :: cs)).take (4 * k) =
            c.bytes ++ (streamBytes cs).take (4 * (k - 2)) := by
          rw [streamBytes_cons, List.take_append, @List.take_of_length_le _ (4 * k) c.bytes (by omega),
            h8, show 4 * k - 8 = 4 * (k - 2) by omega]
        rw [htake, wordSum_append (by rw [h8]), ← add_assoc]
        exact hend

/-- The checksum of what was read. -/
lemma csum_written {bs : List Byte} {last : Bool} (hhca : HcaEnd t.hca (wordSum bs) last)
    (hnone : t.ssHCaToICiCsum = []) :
    ∃ hca', HcaBehind hca' last ∧
      IptxReaches e t { t with hca := hca', ssHCaToICiCsum := [~~~onesSum (words bs)] } := by
  have hcsum := not_csumTotal hhca.sums
  have hroom : t.ssHCaToICiCsum.length < 16 := by
    rw [hnone]
    decide
  have h1 := @hca_sum e t hhca.hcaCsumWritten hroom
  rw [hcaSum, hhca.hcaFsmState, List.append_nil] at h1
  have h2 := h1.trans (hca_sum hhca.hcaCsumWritten hroom)
  simp only [hcaSum, List.append_nil] at h2
  have h3 := h2.trans (hca_sum hhca.hcaCsumWritten hroom)
  simp only [hcaSum] at h3
  have h4 := h3.trans (hca_sum hhca.hcaCsumWritten (by rw [hnone]; exact Nat.one_lt_succ_succ 14))
  simp only [hcaSum, hnone, List.append_nil, List.nil_append] at h4
  rw [← hcsum]
  exact ⟨{ hcaChunkCount := t.hca.hcaChunkCount, hcaIpHdrLen := t.hca.hcaIpHdrLen },
    ⟨rfl, rfl, hhca.hcaChunkCount, fun _ => hhca.hcaIpHdrLen, rfl⟩, h4⟩

/-! ### The chunks behind the third one -/

/-- The chunks `buf` and `rest` of a packet have still to pass. -/
structure Ipt.Passing (t : Ipt) (buf rest later : List AxisIp4) : Prop where
  hca : HcaBehind t.hca (decide (rest = []))
  ici : t.ici = .s2
  iae : t.iae = 3
  mai : t.mai.maiFsmState = .write ∨ t.mai.maiFsmState = .drop
  l3mux : t.l3mux = rest ++ later
  siL3MUXData : t.siL3MUXData = []
  ssHCaToICiData : t.ssHCaToICiData = buf
  ssHCaToICiCsum : t.ssHCaToICiCsum = []
  ssICiToIAeData : t.ssICiToIAeData = []
  ssIAeToMAiData : t.ssIAeToMAiData = []
  soARPLookupReq : t.soARPLookupReq = []
  siARPLookupRep : t.siARPLookupRep = []
  soL2MUXData : t.soL2MUXData = []

/-- What `pMacAddressInserter` writes for the rest of a packet. -/
def maiRest (s : Mai) (cs : List AxisIp4) : List AxisEth :=
  if s.maiFsmState = .write then shiftStream 6 s.maiPrevChunk cs else []

variable {buf rest : List AxisIp4}

/-- A chunk comes to `pMacAddressInserter`. -/
lemma Ipt.Passing.arrive (ht : t.Passing (c :: buf) rest later) :
    IptxReaches e t
      { t with
        ici := if c.tlast then .s0 else .s2
        iae := if c.tlast then 0 else 3
        ssHCaToICiData := buf
        ssICiToIAeData := []
        ssIAeToMAiData := [c] } := by
  have h1 := @ici_chunk e t c buf (by rw [ht.ici]; exact IciFsmStates.noConfusion) ht.ssHCaToICiData
    (by rw [ht.ssICiToIAeData]; exact Nat.zero_lt_succ 15)
  rw [ht.ssICiToIAeData, ht.ici, if_neg (show IciFsmStates.s2 ≠ .s0 from nofun)] at h1
  have h2 := h1.trans (iae_chunk (by rw [ht.iae]; decide) rfl
    (by rw [ht.ssIAeToMAiData]; exact Nat.zero_lt_succ 15))
  rw [ht.iae, ht.ssIAeToMAiData] at h2
  exact h2

/-- A chunk that is not the last one. -/
lemma Ipt.Passing.chunk (he : e.Ok) (ht : t.Passing (c :: buf) rest later)
    (hlast : c.tlast = false) :
    ∃ u : Ipt, IptxReaches e t u ∧ u.Passing buf rest later ∧ u.arp = t.arp ∧
      ∀ cs, u.l2mux ++ maiRest u.mai cs = t.l2mux ++ maiRest t.mai (c :: cs) := by
  have h1 := @Ipt.Passing.arrive e t c later buf rest ht
  rw [hlast, if_neg Bool.false_ne_true, if_neg Bool.false_ne_true] at h1
  have hroom : t.soL2MUXData.length < e.soL2MUXData := by
    rw [ht.soL2MUXData]
    exact he.soL2MUXData
  rcases ht.mai with hmai | hmai
  · have h2 := h1.trans (mai_write hmai rfl hroom)
    rw [hlast, ht.soL2MUXData] at h2
    have h3 := h2.trans (l2mux_chunk rfl)
    refine ⟨_, h3, ⟨ht.hca, rfl, rfl, .inl rfl, ht.l3mux, ht.siL3MUXData, rfl, ht.ssHCaToICiCsum, rfl,
      rfl, ht.soARPLookupReq, ht.siARPLookupRep, rfl⟩, rfl, fun cs => ?_⟩
    rw [maiRest, maiRest, if_pos hmai, shiftStream, hlast, if_neg Bool.false_ne_true,
      List.append_assoc]
    rfl
  · have h2 := h1.trans (mai_drop hmai rfl hroom)
    rw [hlast] at h2
    refine ⟨_, h2, ⟨ht.hca, rfl, rfl, .inr rfl, ht.l3mux, ht.siL3MUXData, rfl, ht.ssHCaToICiCsum, rfl,
      rfl, ht.soARPLookupReq, ht.siARPLookupRep, ht.soL2MUXData⟩, rfl, fun cs => ?_⟩
    rw [maiRest, maiRest, hmai]
    rfl

/-- The last chunk. -/
lemma Ipt.Passing.last (he : e.Ok) (ht : t.Passing [c] [] later) (hlast : c.tlast = true) :
    ∃ u : Ipt, IptxReaches e t u ∧ u.At later t.arp (t.l2mux ++ maiRest t.mai [c]) := by
  have h1 := @Ipt.Passing.arrive e t c later [] [] ht
  rw [hlast, if_pos rfl, if_pos rfl] at h1
  have hroom : t.soL2MUXData.length < e.soL2MUXData := by
    rw [ht.soL2MUXData]
    exact he.soL2MUXData
  rcases ht.mai with hmai | hmai
  · have h2 := h1.trans (mai_write hmai rfl hroom)
    rw [hlast, if_pos rfl, ht.soL2MUXData] at h2
    have h3 := h2.trans (l2mux_chunk rfl)
    rw [maiRest, if_pos hmai, shiftStream, hlast, if_pos rfl]
    by_cases hfits : fits 6 c = true
    · rw [if_pos hfits] at h3 ⊢
      exact ⟨_, h3, ⟨ht.hca, rfl, rfl, rfl, rfl, ht.l3mux, rfl, ht.siL3MUXData, rfl,
        ht.ssHCaToICiCsum, rfl, rfl, ht.soARPLookupReq, ht.siARPLookupRep, rfl⟩⟩
    · rw [if_neg hfits] at h3 ⊢
      have h4 := (h3.trans (mai_last rfl he.soL2MUXData)).trans (l2mux_chunk rfl)
      rw [List.append_assoc] at h4
      exact ⟨_, h4, ⟨ht.hca, rfl, rfl, rfl, rfl, ht.l3mux, rfl, ht.siL3MUXData, rfl,
        ht.ssHCaToICiCsum, rfl, rfl, ht.soARPLookupReq, ht.siARPLookupRep, rfl⟩⟩
  · have h2 := h1.trans (mai_drop hmai rfl hroom)
    rw [hlast, if_pos rfl] at h2
    rw [maiRest, hmai, if_neg (by rintro ⟨⟩), List.append_nil]
    exact ⟨_, h2, ⟨ht.hca, rfl, rfl, rfl, rfl, ht.l3mux, rfl, ht.siL3MUXData, rfl, ht.ssHCaToICiCsum,
      rfl, rfl, ht.soARPLookupReq, ht.siARPLookupRep, ht.soL2MUXData⟩⟩

/-- **The rest of a packet.** -/
lemma stream_passed (he : e.Ok) (hcs : IsStream cs) (hsplit : cs = buf ++ rest)
    (ht : t.Passing buf rest later) :
    ∃ u : Ipt, IptxReaches e t u ∧ u.At later t.arp (t.l2mux ++ maiRest t.mai cs) := by
  induction cs generalizing t buf rest with
  | nil => exact absurd hcs id
  | cons c cs ih =>
      -- the chunk is read first if it is not in front of `pIpChecksumInsert` yet
      have hread : ∃ (buf' rest' : List AxisIp4) (u : Ipt), cs = buf' ++ rest' ∧
          IptxReaches e t u ∧ u.Passing (c :: buf') rest' later ∧ u.arp = t.arp ∧
          u.l2mux = t.l2mux ∧ u.mai = t.mai := by
        cases buf with
        | cons b buf =>
            obtain ⟨rfl, hcs'⟩ := List.cons.inj hsplit
            exact ⟨buf, rest, t, hcs', .refl _, ht, rfl, rfl, rfl⟩
        | nil =>
            rw [List.nil_append] at hsplit
            subst hsplit
            have h1 := @chunk_read e t c (cs ++ later) he ht.hca.hcaCsumWritten ht.l3mux
              ht.siL3MUXData (by rw [ht.ssHCaToICiData]; exact Nat.zero_lt_succ _)
            rw [ht.ssHCaToICiData] at h1
            have hbehind := ht.hca
            rw [decide_eq_false (List.cons_ne_nil c cs)] at hbehind
            have hlast : c.tlast = decide (cs = []) := by
              cases hc : c.tlast with
              | true => exact (decide_eq_true ((isPacket_cons_of_last hc).mp hcs)).symm
              | false =>
                  exact (decide_eq_false ((isPacket_cons_of_not_last hc).mp hcs).ne_nil).symm
            have hnext := @HcaBehind.chunk t.hca c hbehind
            rw [hlast] at hnext
            exact ⟨[], cs, _, rfl, h1, ⟨hnext, ht.ici, ht.iae, ht.mai, rfl, rfl, rfl,
              ht.ssHCaToICiCsum, ht.ssICiToIAeData, ht.ssIAeToMAiData, ht.soARPLookupReq,
              ht.siARPLookupRep, ht.soL2MUXData⟩, rfl, rfl, rfl⟩
      obtain ⟨buf', rest', u, hsplit', h1, hu, harp, hl2, hmai⟩ := hread
      rw [← harp, ← hl2, ← hmai]
      cases hlast : c.tlast with
      | true =>
          obtain rfl := (isPacket_cons_of_last hlast).mp hcs
          obtain ⟨rfl, rfl⟩ := List.append_eq_nil_iff.mp hsplit'.symm
          obtain ⟨v, h2, hv⟩ := hu.last he hlast
          exact ⟨v, h1.trans h2, hv⟩
      | false =>
          obtain ⟨v, h2, hv, harp', hframe⟩ := hu.chunk he hlast
          obtain ⟨w, h3, hw⟩ := ih ((isPacket_cons_of_not_last hlast).mp hcs) hsplit' hv
          rw [hframe, harp'] at hw
          exact ⟨w, (h1.trans h2).trans h3, hw⟩

/-! ### The first three chunks -/

variable {c0 c1 c2 : AxisIp4}

lemma first_passed (hlast : c.tlast = false) (hici : t.ici = .s0) (hiae : t.iae = 0)
    (hdata : t.ssHCaToICiData = c :: buf) (hiaeData : t.ssICiToIAeData = [])
    (hmaiData : t.ssIAeToMAiData = []) :
    IptxReaches e t
      { t with
        ici := .s1
        iae := 1
        ssHCaToICiData := buf
        ssICiToIAeData := []
        ssIAeToMAiData := [c] } := by
  have h1 := @ici_chunk e t c buf (by rw [hici]; exact IciFsmStates.noConfusion) hdata
    (by rw [hiaeData]; exact Nat.zero_lt_succ 15)
  rw [hiaeData, hici, hlast, if_neg Bool.false_ne_true, if_pos rfl] at h1
  have h2 := h1.trans (iae_chunk (by rw [hiae]; decide) rfl
    (by rw [hmaiData]; exact Nat.zero_lt_succ 15))
  rw [hiae, hmaiData, iaeNext, hlast] at h2
  exact h2

/-- The checksum is inserted. -/
lemma second_passed {csum : Ip4HdrCsum} (hlast : c.tlast = false) (hici : t.ici = .s1)
    (hiae : t.iae = 1) (hdata : t.ssHCaToICiData = c :: buf) (hcsum : t.ssHCaToICiCsum = [csum])
    (hiaeData : t.ssICiToIAeData = []) (hmaiData : t.ssIAeToMAiData = [c0]) :
    IptxReaches e t
      { t with
        ici := .s2
        iae := 2
        ssHCaToICiData := buf
        ssHCaToICiCsum := []
        ssICiToIAeData := []
        ssIAeToMAiData := [c0, setIp4HdrCsum c csum] } := by
  have h1 := @ici_csum e t c buf csum [] hici hdata hcsum
    (by rw [hiaeData]; exact Nat.zero_lt_succ 15)
  rw [hiaeData, hlast, if_neg Bool.false_ne_true] at h1
  have h2 := h1.trans (iae_chunk (by rw [hiae]; decide) rfl
    (by rw [hmaiData]; exact Nat.one_lt_succ_succ 14))
  have hlast' : (setIp4HdrCsum c csum).tlast = false := hlast
  rw [hiae, hmaiData, iaeNext, hlast'] at h2
  exact h2

/-- The address is looked up. -/
lemma third_passed (he : e.Ok) (hlast : c.tlast = false) (hici : t.ici = .s2) (hiae : t.iae = 2)
    (hdata : t.ssHCaToICiData = c :: buf) (hiaeData : t.ssICiToIAeData = [])
    (hmaiData : t.ssIAeToMAiData = [c0, c1]) (hreq : t.soARPLookupReq = [])
    (hrep : t.siARPLookupRep = []) :
    IptxReaches e t
      { t with
        ici := .s2
        iae := 3
        arp := t.arp + 1
        ssHCaToICiData := buf
        ssICiToIAeData := []
        ssIAeToMAiData := [c0, c1, c]
        soARPLookupReq := []
        siARPLookupRep :=
          [e.lookup t.arp (lookupAddr e.subNetMask e.gatewayAddr (getIp4DstAddr c))] } := by
  have h1 := @ici_chunk e t c buf (by rw [hici]; exact IciFsmStates.noConfusion) hdata
    (by rw [hiaeData]; exact Nat.zero_lt_succ 15)
  rw [hiaeData, hici, hlast, if_neg Bool.false_ne_true, if_neg nofun] at h1
  have h2 := h1.trans (iae_lookup hiae rfl
    (by rw [hmaiData]; exact Nat.lt_of_sub_eq_succ (rfl : 16 - 2 = 13 + 1))
    (by rw [hreq]; exact he.soARPLookupReq))
  rw [hreq, hmaiData] at h2
  have h3 := h2.trans (arp_reply rfl (by rw [hrep]; exact he.siARPLookupRep))
  rw [hrep] at h3
  exact h3

/-- A chunk of a frame. -/
lemma chunk_framed (he : e.Ok) (hlast : c.tlast = false) (hmai : t.mai.maiFsmState = .write)
    (hdata : t.ssIAeToMAiData = c :: cs) (hnone : t.soL2MUXData = []) :
    IptxReaches e t
      { t with
        mai := { maiPrevChunk := c, maiFsmState := .write }
        ssIAeToMAiData := cs
        soL2MUXData := []
        l2mux := t.l2mux ++ [joinRest 6 t.mai.maiPrevChunk c] } := by
  have h1 := @mai_write e t c cs hmai hdata (by rw [hnone]; exact he.soL2MUXData)
  rw [hnone, hlast, if_neg Bool.false_ne_true] at h1
  exact h1.trans (l2mux_chunk rfl)

/-- A chunk is dropped. -/
lemma chunk_dropped (he : e.Ok) (hlast : c.tlast = false) (hmai : t.mai.maiFsmState = .drop)
    (hdata : t.ssIAeToMAiData = c :: cs) (hnone : t.soL2MUXData = []) :
    IptxReaches e t
      { t with mai := { t.mai with maiFsmState := .drop }, ssIAeToMAiData := cs } := by
  have h1 := @mai_drop e t c cs hmai hdata (by rw [hnone]; exact he.soL2MUXData)
  rw [hlast, if_neg Bool.false_ne_true] at h1
  exact h1

/-- The address is known. -/
lemma lookup_framed (he : e.Ok) {r : ArpLkpReply} (hhit : r.hit = true)
    (hmai : t.mai.maiFsmState = .waitLookup) (hrep : t.siARPLookupRep = [r])
    (hdata : t.ssIAeToMAiData = c :: cs) (hnone : t.soL2MUXData = []) :
    IptxReaches e t
      { t with
        mai := { maiPrevChunk := c, maiFsmState := .write }
        siARPLookupRep := []
        ssIAeToMAiData := cs
        soL2MUXData := []
        l2mux := t.l2mux ++
          [firstEthChunk e.macAddress r.macAddress, secondEthChunk e.macAddress c] } := by
  have h1 := @mai_lookup e t r [] hmai hrep (by rw [hnone]; exact he.soL2MUXData)
  rw [hnone, hhit, if_pos rfl, if_pos rfl] at h1
  have h2 := ((h1.trans (l2mux_chunk rfl)).trans (mai_first rfl hdata he.soL2MUXData)).trans
    (l2mux_chunk rfl)
  rw [List.append_assoc] at h2
  exact h2

/-- The first three chunks of a packet are framed or dropped. -/
lemma header_framed (he : e.Ok) {r : ArpLkpReply} (hl0 : c0.tlast = false) (hl1 : c1.tlast = false)
    (hl2 : c2.tlast = false) (hmai : t.mai.maiFsmState = .waitLookup) (hrep : t.siARPLookupRep = [r])
    (hdata : t.ssIAeToMAiData = [c0, c1, c2]) (hnone : t.soL2MUXData = []) :
    ∃ mai' frame, (mai'.maiFsmState = .write ∨ mai'.maiFsmState = .drop) ∧
      (∀ rest, frame ++ maiRest mai' rest = ipFrame e.macAddress r (c0 :: c1 :: c2 :: rest)) ∧
      IptxReaches e t
        { t with
          mai := mai'
          siARPLookupRep := []
          ssIAeToMAiData := []
          soL2MUXData := []
          l2mux := t.l2mux ++ frame } := by
  cases hhit : r.hit with
  | true =>
      have h1 := @lookup_framed e t c0 [c1, c2] he r hhit hmai hrep hdata hnone
      have h2 := h1.trans (chunk_framed he hl1 rfl rfl rfl)
      rw [List.append_assoc] at h2
      have h3 := h2.trans (chunk_framed he hl2 rfl rfl rfl)
      rw [List.append_assoc] at h3
      refine ⟨{ maiPrevChunk := c2, maiFsmState := .write }, _, .inl rfl, fun rest => ?_, h3⟩
      rw [maiRest, if_pos rfl, ipFrame, hhit, if_pos rfl, shiftStream, hl1,
        if_neg Bool.false_ne_true, shiftStream, hl2, if_neg Bool.false_ne_true]
      rfl
  | false =>
      have h1 := @mai_lookup e t r [] hmai hrep (by rw [hnone]; exact he.soL2MUXData)
      rw [hnone, hhit, if_neg Bool.false_ne_true, if_neg Bool.false_ne_true] at h1
      have h2 := h1.trans (chunk_dropped he hl0 rfl hdata rfl)
      have h3 := (h2.trans (chunk_dropped he hl1 rfl rfl rfl)).trans (chunk_dropped he hl2 rfl rfl rfl)
      refine ⟨{ t.mai with maiFsmState := .drop }, [], .inr rfl, fun rest => ?_, ?_⟩
      · rw [ipFrame, hhit]
        rfl
      · rw [List.append_nil]
        exact h3

/-! ### The packets -/

/-- The first two chunks of a header are read. -/
lemma start_read (he : e.Ok) (hhca : HcaBehind t.hca true) (hl3 : t.l3mux = c0 :: c1 :: cs)
    (hnone : t.siL3MUXData = []) (hdata : t.ssHCaToICiData = []) :
    IptxReaches e t
      { t with
        l3mux := cs
        siL3MUXData := []
        hca := hcaChunk (hcaChunk t.hca c0) c1
        ssHCaToICiData := [c0, c1] } := by
  have h1 := @chunk_read e t c0 (c1 :: cs) he hhca.hcaCsumWritten hl3 hnone
    (by rw [hdata]; exact Nat.zero_lt_succ _)
  rw [hdata] at h1
  exact h1.trans (chunk_read he hhca.first rfl rfl (Nat.one_lt_succ_succ _))

/-- The header of a packet is read, and its checksum is written. -/
lemma header_summed (he : e.Ok) {rest : List AxisIp4} (hp : IpPacket (c0 :: c1 :: c2 :: rest))
    (hc0 : c0.isValid) (hl0 : c0.tlast = false) (hc1 : c1.isValid) (hl1 : c1.tlast = false)
    (hrest : WellFormed (c2 :: rest)) (hhca : HcaBehind t.hca true)
    (hl3 : t.l3mux = c0 :: c1 :: c2 :: rest ++ later) (hnone : t.siL3MUXData = [])
    (hdata : t.ssHCaToICiData = []) (hcsum : t.ssHCaToICiCsum = []) :
    ∃ buf more hca', rest = buf ++ more ∧ HcaBehind hca' (decide (more = [])) ∧
      IptxReaches e t
        { t with
          l3mux := more ++ later
          siL3MUXData := []
          hca := hca'
          ssHCaToICiData := c0 :: c1 :: c2 :: buf
          ssHCaToICiCsum := [hdrCsum (streamBytes (c0 :: c1 :: c2 :: rest))] } := by
  obtain ⟨hlen, hwords⟩ := @hdr_chunks c0 c1 (c2 :: rest) hc0 hl0 hc1 hl1
  have hmin := hp.minHdr
  have hle := hp.hdrLe
  have hsmall := (getIp4HdrLen c0).isLt
  have htotal : (streamBytes (c0 :: c1 :: c2 :: rest)).length =
      8 + (8 + (streamBytes (c2 :: rest)).length) := by
    rw [streamBytes_cons, streamBytes_cons, List.length_append, List.length_append,
      length_bytes_eq hc0 hl0, length_bytes_eq hc1 hl1]
  have h1 := @start_read e t (c2 :: rest ++ later) c0 c1 he hhca hl3 hnone hdata
  obtain ⟨header, more, hca', hsplit, hne, hend, h2⟩ := @header_read e { t with
      l3mux := c2 :: rest ++ later
      siL3MUXData := []
      hca := hcaChunk (hcaChunk t.hca c0) c1
      ssHCaToICiData := [c0, c1] } (c2 :: rest) later _ _ he (hhca.header hl0 hl1 (by omega)) hrest
    (by omega) (by omega) rfl rfl (by
      show [c0, c1].length + _ ≤ 1024
      rw [List.length_cons, List.length_singleton]
      omega)
  have heven : (c0.data ++ c1.data.take 2 ++ c1.data.drop 4).length % 2 = 0 := by
    simp [length_data]
  rw [← wordSum_append heven, ← hwords (by omega)] at hend
  obtain ⟨hca'', hbehind, h3⟩ := @csum_written e { t with
      l3mux := more ++ later
      siL3MUXData := []
      hca := hca'
      ssHCaToICiData := [c0, c1] ++ header } _ _ hend hcsum
  cases header with
  | nil => exact absurd rfl hne
  | cons c header =>
      obtain ⟨rfl, hrest'⟩ := List.cons.inj hsplit
      exact ⟨header, more, hca'', hrest', hbehind, (h1.trans h2).trans h3⟩

/-- **A packet** is framed, or it is dropped. -/
theorem packet_delivered (he : e.Ok) {n : ℕ} {frames : List AxisEth} (hp : IpPacket cs)
    (ht : t.At (cs ++ later) n frames) :
    ∃ u : Ipt, IptxReaches e t u ∧ u.At later (n + 1) (frames ++ ipFrame e.macAddress
      (e.lookup n (lookupAddr e.subNetMask e.gatewayAddr (be32 (streamBytes cs) 16)))
      (insertCsum (hdrCsum (streamBytes cs)) cs)) := by
  obtain ⟨c0, c1, c2, rest, rfl, hc0, hl0, hc1, hl1, hc2, hl2, hrest⟩ := hp.chunks
  obtain ⟨buf, more, hca', hsplit, hhca, h1⟩ := @header_summed e t later c0 c1 c2 he rest hp hc0 hl0
    hc1 hl1 (.cons hc2 hl2 hrest) ht.hca ht.l3mux ht.siL3MUXData ht.ssHCaToICiData ht.ssHCaToICiCsum
  have hdst : getIp4DstAddr c2 = be32 (streamBytes (c0 :: c1 :: c2 :: rest)) 16 := by
    have h8 := length_bytes_eq hc0 hl0
    have h8' := length_bytes_eq hc1 hl1
    have h8'' := length_bytes_eq hc2 hl2
    have hdrop : (streamBytes (c0 :: c1 :: c2 :: rest)).drop 16 = c2.bytes ++ streamBytes rest := by
      rw [streamBytes_cons, streamBytes_cons, ← List.append_assoc, List.drop_append_of_le_length
        (by rw [List.length_append]; omega), List.drop_eq_nil_of_le
        (by rw [List.length_append]; omega), List.nil_append, streamBytes_cons]
    rw [getIp4DstAddr, be32_data hc2 (by omega), ← @be32_append c2.bytes (streamBytes rest) 0 (by omega),
      ← hdrop, be32_drop]
  have h2 := h1.trans (first_passed hl0 ht.ici ht.iae rfl ht.ssICiToIAeData ht.ssIAeToMAiData)
  have h3 := h2.trans (second_passed hl1 rfl rfl rfl rfl rfl rfl)
  have h4 := h3.trans (third_passed he hl2 rfl rfl rfl rfl rfl ht.soARPLookupReq ht.siARPLookupRep)
  rw [ht.arp, hdst] at h4
  obtain ⟨mai', frame, hmai, hframe, h5⟩ := @header_framed e { t with
      l3mux := more ++ later
      siL3MUXData := []
      hca := hca'
      ici := .s2
      iae := 3
      arp := n + 1
      ssHCaToICiData := buf
      ssHCaToICiCsum := []
      ssICiToIAeData := []
      ssIAeToMAiData :=
        [c0, setIp4HdrCsum c1 (hdrCsum (streamBytes (c0 :: c1 :: c2 :: rest))), c2]
      soARPLookupReq := []
      siARPLookupRep := [e.lookup n (lookupAddr e.subNetMask e.gatewayAddr
        (be32 (streamBytes (c0 :: c1 :: c2 :: rest)) 16))] } c0
    (setIp4HdrCsum c1 (hdrCsum (streamBytes (c0 :: c1 :: c2 :: rest)))) c2 he _ hl0 hl1 hl2 ht.mai
    rfl rfl ht.soL2MUXData
  obtain ⟨u, h6, hu⟩ := @stream_passed e { t with
      l3mux := more ++ later
      siL3MUXData := []
      hca := hca'
      ici := .s2
      iae := 3
      mai := mai'
      arp := n + 1
      l2mux := t.l2mux ++ frame
      ssHCaToICiData := buf
      ssHCaToICiCsum := []
      ssICiToIAeData := []
      ssIAeToMAiData := []
      soARPLookupReq := []
      siARPLookupRep := []
      soL2MUXData := [] } rest later buf more he hrest.isStream hsplit
    ⟨hhca, rfl, rfl, hmai, rfl, rfl, rfl, rfl, rfl, rfl, rfl, rfl, rfl⟩
  refine ⟨u, (h4.trans h5).trans h6, ?_⟩
  rw [insertCsum, ← hframe, ← List.append_assoc, ← ht.l2mux]
  exact hu

/-- **Some packets**, one after the other. -/
theorem packets_delivered (he : e.Ok) {ps : List (List AxisIp4)} {n : ℕ} {frames : List AxisEth}
    (hps : ∀ p ∈ ps, IpPacket p) (ht : t.At ps.flatten n frames) :
    ∃ (u : Ipt) (fs : List (List AxisEth)), IptxReaches e t u ∧
      u.At [] (n + ps.length) (frames ++ fs.flatten) ∧
      List.Forall₂ (fun p f => IsIpFrame e.macAddress
        (e.lookup p.2 (lookupAddr e.subNetMask e.gatewayAddr (be32 (streamBytes p.1) 16)))
        (streamBytes p.1) f) (ps.zipIdx n) fs := by
  induction ps generalizing t n frames with
  | nil => exact ⟨t, [], .refl _, by simpa using ht, .nil⟩
  | cons p ps ih =>
      have hp := hps p List.mem_cons_self
      rw [List.flatten_cons] at ht
      obtain ⟨u, h1, hu⟩ := packet_delivered he hp ht
      obtain ⟨v, fs, h2, hv, hall⟩ := ih (fun p' hp' => hps p' (List.mem_cons_of_mem p hp')) hu
      rw [List.append_assoc, Nat.add_right_comm] at hv
      exact ⟨v, _ :: fs, h1.trans h2, hv, .cons (ipFrame_spec hp) hall⟩

/-- Nothing is left to do. -/
lemma Ipt.At.halted {n : ℕ} {frames : List AxisEth} (ht : t.At [] n frames) :
    (iptx e).machine.Halted t.state := by
  intro p
  cases p with
  | l3mux =>
      refine Network.step_eq_none_of_action ?_
      show iptxAction e .l3mux t.l3mux = none
      rw [ht.l3mux]
      rfl
  | hca =>
      have ha : iptxAction e .hca (t.state.proc .hca) = some (pHeaderChecksumAccumulator t.hca) := rfl
      rw [pHeaderChecksumAccumulator, ht.hca.hcaCsumWritten, if_pos rfl] at ha
      exact Network.step_eq_none_of_empty ha List.mem_cons_self ht.siL3MUXData
  | ici =>
      have ha : iptxAction e .ici (t.state.proc .ici) = some (pIpChecksumInsert t.ici) := rfl
      rw [ht.ici, pIpChecksumInsert] at ha
      exact Network.step_eq_none_of_empty ha List.mem_cons_self ht.ssHCaToICiData
  | iae => exact Network.step_eq_none_of_empty rfl List.mem_cons_self ht.ssICiToIAeData
  | mai =>
      have ha : iptxAction e .mai (t.state.proc .mai) =
          some (pMacAddressInserter e.macAddress t.mai) := rfl
      rw [pMacAddressInserter, ht.mai] at ha
      exact Network.step_eq_none_of_empty ha List.mem_cons_self ht.siARPLookupRep
  | arp => exact Network.step_eq_none_of_empty rfl List.mem_cons_self ht.soARPLookupReq
  | l2mux => exact Network.step_eq_none_of_empty rfl List.mem_cons_self ht.soL2MUXData

end Delivery

/-! ### Every run -/

/-- The transmitter is reset, and the L3 multiplexer has some packets. -/
def iptxStart (ps : List (List AxisIp4)) : Ipt where
  l3mux := ps.flatten

/-- The L2 multiplexer keeps what it got. -/
lemma l2mux_step {e : IptxEnv} {s u : Network.State IptxReg IptxItem} {p : IptxProc}
    (h : (iptx e).machine.step s p = some u) : s.proc .l2mux <+: u.proc .l2mux := by
  obtain ⟨a, ha, -, rfl⟩ := Network.step_eq_some.mp h
  rw [Network.proc_fire]
  cases p with
  | l2mux =>
      obtain rfl := Option.some.inj ha
      rw [Function.update_self]
      exact List.prefix_append _ _
  | _ => exact List.prefix_rfl

/-- The packets of the UDP offload engine are packets with a header of 20 bytes. -/
lemma ipPacket_of_udp {m : UdpAppMeta} {payload : List Byte} {p : List AxisIp4}
    (hp : Uoe.IsUdpPacket m payload p) : IpPacket p := by
  obtain ⟨csum, hbytes, -⟩ := hp.bytes
  have hlen : (streamBytes p).length = 28 + payload.length := by
    rw [hbytes]
    simp [Uoe.ip4Header, Uoe.udpHeader, bytes16, bytes32]
    omega
  have hhdr : hdrLen (streamBytes p) = 20 := by
    rw [hbytes]
    simp [hdrLen, Uoe.ip4Header, byteAt]
  exact ⟨hp.wellFormed, by omega, hhdr.ge, by omega⟩

/-- **The IP transmitter frames the packets.** Whatever the order in which the processes, the
multiplexers and the ARP server are called, the L2 multiplexer gets nothing but the frames of the
packets, in order: each packet with the checksum of its header and the MAC address that was looked up
for it, except for those whose address is not known. Once all of them have been called often enough,
it has got all frames. -/
theorem iptx_law (e : IptxEnv) (he : e.Ok) {ps : List (List AxisIp4)} (hps : ∀ p ∈ ps, IpPacket p) :
    ∃ frames : List (List AxisEth),
      List.Forall₂ (fun p f => IsIpFrame e.macAddress
        (e.lookup p.2 (lookupAddr e.subNetMask e.gatewayAddr (be32 (streamBytes p.1) 16)))
        (streamBytes p.1) f) ps.zipIdx frames ∧
      (∀ calls : List IptxProc,
        (Clocked.run (iptx e).machine.call (iptxStart ps).state calls).proc .l2mux <+:
          frames.flatten) ∧
      ∃ n, ∀ rounds : List (List IptxProc), n ≤ rounds.length →
        (∀ calls ∈ rounds, ∀ p, p ∈ calls) →
        (Clocked.run (iptx e).machine.call (iptxStart ps).state rounds.flatten).proc .l2mux =
          frames.flatten := by
  have hstart : (iptxStart ps).At ps.flatten 0 [] :=
    ⟨⟨rfl, rfl, rfl, fun _ => rfl, rfl⟩, rfl, rfl, rfl, rfl, rfl, rfl, rfl, rfl, rfl, rfl, rfl, rfl,
      rfl, rfl⟩
  obtain ⟨u, frames, hreach, hu, hall⟩ := packets_delivered he hps hstart
  obtain ⟨hpart, n, hrounds⟩ := (Network.persistent (iptx e)).determined
    (r := (· <+: ·)) (f := fun s => s.proc .l2mux) l2mux_step hu.halted hreach
  have hl2mux : u.state.proc .l2mux = frames.flatten := hu.l2mux
  refine ⟨frames, hall, fun calls => ?_, n, fun rounds hlen hcalls => ?_⟩
  · rw [← hl2mux]
    exact hpart calls
  · rw [hrounds rounds hlen hcalls, hl2mux]

/-- A packet of the UDP offload engine with one byte. -/
def oneBytePacket : List AxisIp4 :=
  Uoe.udpPacket { ip4SrcAddr := 0x0A0CC821, ip4DstAddr := 0x0A0CC832 } 1
    [⟨⟨7, true⟩ :: List.replicate 7 ⟨0, false⟩, true, rfl⟩]

/-- The packet is sent twice, and the ARP server knows its address only the second time. -/
theorem iptx_law_twoPackets :
    let e : IptxEnv := ⟨0x60506EABCDEF, 0xFFFF0000, 0x0A0C0001,
      fun n _ => ⟨0xF8BC12345678, n == 1⟩, 1, 1, 1, 1⟩
    ∃ f n, WellFormed f ∧ (Clocked.run (iptx e).machine.call
      (iptxStart [oneBytePacket, oneBytePacket]).state (List.replicate n
        [IptxProc.l3mux, .hca, .ici, .iae, .mai, .arp, .l2mux]).flatten).proc .l2mux = f := by
  intro e
  have hpacket : IpPacket oneBytePacket := ipPacket_of_udp (Uoe.udpPacket_spec (by decide) rfl)
  obtain ⟨frames, hall, -, n, hrounds⟩ := @iptx_law e ⟨le_rfl, le_rfl, le_rfl, le_rfl⟩
    [oneBytePacket, oneBytePacket] (List.forall_mem_cons.mpr
      ⟨hpacket, List.forall_mem_cons.mpr ⟨hpacket, List.forall_mem_nil _⟩⟩)
  obtain ⟨f, frames, hmiss, hrest, rfl⟩ := List.forall₂_cons_left_iff.mp hall
  obtain ⟨g, frames, hhit, hnil, rfl⟩ := List.forall₂_cons_left_iff.mp hrest
  obtain rfl := List.forall₂_nil_left_iff.mp hnil
  obtain rfl : f = [] := hmiss
  refine ⟨g, n, hhit.1, ?_⟩
  rw [hrounds _ (List.length_replicate ..).ge fun calls hcalls p => ?_]
  · simp
  · rw [List.eq_of_mem_replicate hcalls]
    cases p <;> decide

end CloudFpga.Iptx
