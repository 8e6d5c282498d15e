import CloudFpga.Uoe.TxPackets

/-!
The way of a datagram through the Tx engine of the UOE: one run of its processes that brings it to
IPTX.

* `Txe.Idle`: the processes behind `pTxApplicationInterface` are between two datagrams.
* `psd_delivered`: `pTxDatagramHandler` with `pUdpChecksumAccumulator`, chunk by chunk.
* `uha_delivered`, `iha_delivered`: `pUdpHeaderAdder`, then `pIp4HeaderAdder` with IPTX.
* `datagram_delivered`: all of them.
-/

namespace CloudFpga.Uoe

open Foundation AxisRaw Toe

/-- Between two datagrams. -/
structure Txe.Idle (t : Txe) : Prop where
  tdh : t.tdh.tdhFsmState = .psdPkt1
  uca : t.uca.ucaFsmState = .accumulate
  sums : ucaSums t.uca = fun _ => 0
  uha : t.uha.uhaFsmState = .idle
  iha : t.iha.ihaFsmState = .ip1

/-- What the application and `pTxApplicationInterface` have, and nothing else. -/
def Txe.front (t : Txe) : Txe where
  uaifData := t.uaifData
  uaifMeta := t.uaifMeta
  uaifDLen := t.uaifDLen
  tai := t.tai
  siUAIFData := t.siUAIFData
  siUAIFMeta := t.siUAIFMeta
  siUAIFDLen := t.siUAIFDLen

/-- Nothing is in the streams behind `pTxDatagramHandler`. -/
structure Txe.Empty (t : Txe) : Prop where
  ssTdhToUcaData : t.ssTdhToUcaData = []
  ssTdhToUhaData : t.ssTdhToUhaData = []
  ssTdhToUhaMeta : t.ssTdhToUhaMeta = []
  ssTdhToUhaDLen : t.ssTdhToUhaDLen = []
  ssUcaToUhaCsum : t.ssUcaToUhaCsum = []
  ssUhaToIhaData : t.ssUhaToIhaData = []
  ssUhaToIhaUdpLen : t.ssUhaToIhaUdpLen = []
  ssUhaToIhaIpPair : t.ssUhaToIhaIpPair = []
  soIPTXData : t.soIPTXData = []

variable {d : TxeDepths} {t : Txe}

/-! ### The pseudo packet -/

/-- `pUdpChecksumAccumulator` reads a chunk. -/
lemma uca_read {c : AxisPsd4} {cs : List AxisPsd4} (hfsm : t.uca.ucaFsmState = .accumulate)
    (hc : t.ssTdhToUcaData = c :: cs) :
    TxeReaches d t { t with uca := ucaRead t.uca c, ssTdhToUcaData := cs } := by
  rw [ucaRead]
  cases hlast : c.tlast with
  | true => exact uca_end hfsm hc hlast
  | false => exact uca_chunk hfsm hc hlast

lemma uca_accumulate {s : Uca} {c : AxisPsd4} (hs : s.ucaFsmState = .accumulate)
    (hlast : c.tlast = false) : (ucaRead s c).ucaFsmState = .accumulate := by
  rw [ucaRead, hlast, if_neg Bool.false_ne_true]
  exact hs

/-- The chunks behind the first one of a payload. -/
lemma stream_delivered {cs : List AxisRaw} (htdh : t.tdh.tdhFsmState = .stream)
    (huca : t.uca.ucaFsmState = .accumulate) (hcs : IsStream cs) (hdata : t.ssTaiToTdhData = cs)
    (hnone : t.ssTdhToUcaData = []) (hroom : t.ssTdhToUhaData.length + cs.length < 1024) :
    ∃ tdh', tdh'.tdhFsmState = .psdPkt1 ∧ TxeReaches d t
      { t with
        tdh := tdh'
        uca := ucaReads t.uca (halfStream fitPseudoChunk restPseudoChunk t.tdh.tdhCurrChunk cs)
        ssTaiToTdhData := []
        ssTdhToUcaData := []
        ssTdhToUhaData := t.ssTdhToUhaData ++ t.tdh.tdhCurrChunk :: cs } := by
  induction cs generalizing t with
  | nil => exact absurd hcs id
  | cons c cs ih =>
      rw [List.length_cons] at hroom
      have hempty : t.ssTdhToUcaData.length < 8 := by
        rw [hnone]
        decide
      rw [halfStream]
      cases hlast : c.tlast with
      | false =>
          rw [if_neg Bool.false_ne_true]
          have hcs' := (isPacket_cons_of_not_last hlast).mp hcs
          have hstep := @tdh_stream d t c cs htdh hdata hlast (by omega) hempty
          rw [hnone] at hstep
          have hread := hstep.trans (uca_read huca rfl)
          obtain ⟨tdh', hidle, hrest⟩ := @ih { t with
              tdh := { t.tdh with tdhCurrChunk := c }
              uca := ucaRead t.uca (currPseudoChunk t.tdh.tdhCurrChunk c)
              ssTaiToTdhData := cs
              ssTdhToUhaData := t.ssTdhToUhaData ++ [t.tdh.tdhCurrChunk]
              ssTdhToUcaData := [] } htdh (uca_accumulate huca rfl) hcs' rfl rfl (by
            show (t.ssTdhToUhaData ++ [t.tdh.tdhCurrChunk]).length + cs.length < 1024
            rw [List.length_append, List.length_singleton]
            omega)
          rw [List.append_assoc, List.singleton_append] at hrest
          exact ⟨tdh', hidle, hread.trans hrest⟩
      | true =>
          obtain rfl := (isPacket_cons_of_last hlast).mp hcs
          have hroom' : (t.ssTdhToUhaData ++ [t.tdh.tdhCurrChunk]).length < 1024 := by
            rw [List.length_append, List.length_singleton]
            omega
          rw [if_pos rfl]
          by_cases hno : c.NoLowerHalf
          · have hstep := @tdh_stream_fits d t c [] htdh hdata hlast hno (by omega) hempty
            rw [hnone] at hstep
            have hlaststep := (hstep.trans (uca_read huca rfl)).trans (tdh_last rfl hroom')
            rw [List.append_assoc] at hlaststep
            rw [if_pos hno]
            exact ⟨_, rfl, hlaststep⟩
          · have hstep := @tdh_stream_rest d t c [] htdh hdata hlast hno (by omega) hempty
            rw [hnone] at hstep
            have hread := hstep.trans (uca_read huca rfl)
            have hlaststep := (hread.trans (tdh_residue rfl hroom' (Nat.zero_lt_succ 7))).trans
              (uca_read (uca_accumulate huca rfl) rfl)
            rw [List.append_assoc] at hlaststep
            rw [if_neg hno]
            exact ⟨_, rfl, hlaststep⟩

/-- The payload of a datagram. -/
lemma payload_delivered {cs : List AxisRaw} (htdh : t.tdh.tdhFsmState = .psdPkt3)
    (huca : t.uca.ucaFsmState = .accumulate) (hcs : IsStream cs) (hdata : t.ssTaiToTdhData = cs)
    (hnone : t.ssTdhToUcaData = []) (hroom : t.ssTdhToUhaData.length + cs.length < 1024) :
    ∃ tdh', tdh'.tdhFsmState = .psdPkt1 ∧ TxeReaches d t
      { t with
        tdh := tdh'
        uca := ucaReads t.uca (psdData t.tdh.tdhUdpLen cs)
        ssTaiToTdhData := []
        ssTdhToUcaData := []
        ssTdhToUhaData := t.ssTdhToUhaData ++ uhaPayload cs } := by
  cases cs with
  | nil => exact absurd hcs id
  | cons c cs =>
      rw [List.length_cons] at hroom
      have hempty : t.ssTdhToUcaData.length < 8 := by
        rw [hnone]
        decide
      rw [psdData, uhaPayload]
      cases hlast : c.tlast with
      | false =>
          have hcs' := (isPacket_cons_of_not_last hlast).mp hcs
          have hstep := @tdh_pkt3 d t c cs htdh hdata hlast (by omega) hempty
          rw [hnone] at hstep
          have hread := hstep.trans (uca_read huca rfl)
          obtain ⟨tdh', hidle, hrest⟩ := @stream_delivered d { t with
              tdh := { t.tdh with tdhCurrChunk := c, tdhFsmState := .stream }
              uca := ucaRead t.uca (thirdPseudoPktChunk t.tdh.tdhUdpLen c)
              ssTaiToTdhData := cs
              ssTdhToUcaData := [] } cs rfl (uca_accumulate huca rfl) hcs' rfl rfl
            (Nat.lt_of_succ_lt hroom)
          rw [if_neg Bool.false_ne_true, if_neg Bool.false_ne_true]
          exact ⟨tdh', hidle, hread.trans hrest⟩
      | true =>
          obtain rfl := (isPacket_cons_of_last hlast).mp hcs
          rw [if_pos rfl, if_pos rfl]
          by_cases hno : c.clearUnusedBytes.NoLowerHalf
          · have hstep := @tdh_pkt3_fits d t c [] htdh hdata hlast hno (by omega) hempty
            rw [hnone] at hstep
            have hread := hstep.trans (uca_read huca rfl)
            rw [if_pos hno]
            exact ⟨_, rfl, hread⟩
          · have hstep := @tdh_pkt3_rest d t c [] htdh hdata hlast hno (by omega) hempty
            rw [hnone] at hstep
            have hread := hstep.trans (uca_read huca rfl)
            have hrest := (hread.trans (tdh_pkt4 rfl (Nat.zero_lt_succ 7))).trans
              (uca_read (uca_accumulate huca rfl) rfl)
            rw [if_neg hno]
            exact ⟨_, rfl, hrest⟩

/-- **The pseudo packet** of a datagram, and its checksum. -/
theorem psd_delivered {m : UdpAppMeta} {l : UdpAppDLen} {cs : List AxisRaw} (ht : t.Idle)
    (hm : t.ssTaiToTdhMeta = [m]) (hl : t.ssTaiToTdhDLen = [l]) (hdata : t.ssTaiToTdhData = cs)
    (hcs : WellFormed cs) (hlen : cs.length < 1024) (hnone : t.ssTdhToUcaData = [])
    (hmeta : t.ssTdhToUhaMeta = []) (hdLen : t.ssTdhToUhaDLen = []) (huha : t.ssTdhToUhaData = [])
    (hcsum : t.ssUcaToUhaCsum = []) :
    ∃ tdh' uca', tdh'.tdhFsmState = .psdPkt1 ∧ uca'.ucaFsmState = .accumulate ∧
      (ucaSums uca' = fun _ => 0) ∧ TxeReaches d t
      { t with
        tdh := tdh'
        uca := uca'
        ssTaiToTdhData := []
        ssTaiToTdhMeta := []
        ssTaiToTdhDLen := []
        ssTdhToUcaData := []
        ssTdhToUhaData := uhaPayload cs
        ssTdhToUhaMeta := [m]
        ssTdhToUhaDLen := [l]
        ssUcaToUhaCsum := [udpCsum m (l + udpHeaderLen) (streamBytes cs)] } := by
  have hmeta32 : t.ssTdhToUhaMeta.length < 32 := by rw [hmeta]; decide
  have hdLen32 : t.ssTdhToUhaDLen.length < 32 := by rw [hdLen]; decide
  have hnone8 : t.ssTdhToUcaData.length < 8 := by rw [hnone]; decide
  have h1 := @tdh_pkt1 d t m [] ht.tdh hm hmeta32 hnone8
  rw [hnone, hmeta] at h1
  have h2 := (h1.trans (uca_read ht.uca rfl)).trans (tdh_pkt2 rfl hl hdLen32 (Nat.zero_lt_succ 7))
  rw [hdLen] at h2
  have h3 := h2.trans (uca_read (uca_accumulate ht.uca rfl) rfl)
  have hacc : (ucaReads t.uca
      [firstPseudoPktChunk m, secondPseudoPktChunk m (l + udpHeaderLen)]).ucaFsmState =
        .accumulate := ht.uca
  obtain ⟨tdh', hidle, h4⟩ := @payload_delivered d { t with
      tdh := { t.tdh with
        tdhUdpMeta := m, tdhAppLen := l, tdhUdpLen := l + udpHeaderLen, tdhFsmState := .psdPkt3 }
      uca := ucaReads t.uca
        [firstPseudoPktChunk m, secondPseudoPktChunk m (l + udpHeaderLen)]
      ssTaiToTdhMeta := []
      ssTaiToTdhDLen := []
      ssTdhToUhaMeta := [m]
      ssTdhToUhaDLen := [l]
      ssTdhToUcaData := [] } cs rfl hacc hcs.isStream
    hdata rfl (by rw [huha]; simpa using hlen)
  rw [huha] at h3 h4
  obtain ⟨hlast, hsum⟩ := @ucaReads_csum t.uca m (l + udpHeaderLen) cs hcs ht.uca ht.sums
  have h5 := (h3.trans h4).trans (uca_last hlast)
  have h6 := h5.trans (uca_done rfl (by rw [hcsum]; decide))
  rw [hcsum, List.nil_append] at h6
  have hsum' : ucaCsum { ucaAdd (ucaReads t.uca (psdPacket m (l + udpHeaderLen) cs))
      (ucaReads t.uca (psdPacket m (l + udpHeaderLen) cs)).ucaLastChunk with ucaFsmState := .done } =
        udpCsum m (l + udpHeaderLen) (streamBytes cs) := hsum
  rw [← hsum']
  refine ⟨tdh', _, hidle, rfl, ?_, h6⟩
  funext i
  fin_cases i <;> rfl

/-! ### The UDP header -/

/-- The payload of a datagram of the announced length. -/
lemma uha_stream_delivered {ps : List AxisRaw} (huha : t.uha.uhaFsmState = .stream)
    (hps : WellFormed ps) (hdata : t.ssTdhToUhaData = ps)
    (hlen : t.uha.uhaAppDLen.toNat = (streamBytes ps).length)
    (hroom : t.ssUhaToIhaData.length + ps.length ≤ 1024) :
    TxeReaches d t
      { t with
        uha := { uhaFsmState := .idle, uhaAppDLen := 0 }
        ssTdhToUhaData := []
        ssUhaToIhaData := t.ssUhaToIhaData ++ ps } := by
  induction ps generalizing t with
  | nil => exact absurd hps.isStream id
  | cons c cs ih =>
      rw [List.length_cons] at hroom
      rw [streamBytes_cons, List.length_append] at hlen
      cases hlast : c.tlast with
      | false =>
          have h8 := length_bytes_eq hps.head hlast
          have hcs := hps.tail hlast
          have hpos := hcs.length_pos
          have hlong : 8 < t.uha.uhaAppDLen := by
            have h8' : (8 : UdpAppDLen).toNat = 8 := rfl
            rw [BitVec.lt_def, h8']
            omega
          have hsub : (t.uha.uhaAppDLen - 8).toNat = (streamBytes cs).length := by
            rw [BitVec.toNat_sub_of_le (BitVec.le_of_lt hlong), hlen]
            exact Nat.sub_eq_of_eq_add (by rw [h8]; exact add_comm _ _)
          have hstep := @uha_chunk d t c cs huha hdata hlong hlast (by omega)
          have hrest := @ih { t with
              uha := { uhaAppDLen := t.uha.uhaAppDLen - 8, uhaFsmState := .stream }
              ssTdhToUhaData := cs
              ssUhaToIhaData := t.ssUhaToIhaData ++ [c] } rfl hcs rfl hsub (by
            show (t.ssUhaToIhaData ++ [c]).length + cs.length ≤ 1024
            rw [List.length_append, List.length_singleton]
            omega)
          rw [List.append_assoc, List.singleton_append] at hrest
          exact hstep.trans hrest
      | true =>
          obtain rfl := hps.tail_eq_nil hlast
          have hle := length_bytes_le c
          rw [streamBytes_nil, List.length_nil, add_zero] at hlen
          have hshort : ¬8 < t.uha.uhaAppDLen := by
            have h8' : (8 : UdpAppDLen).toNat = 8 := rfl
            rw [BitVec.lt_def, h8']
            omega
          exact uha_last huha hdata hshort hlast (by omega)

/-- **The UDP datagram.** -/
theorem uha_delivered {m : UdpAppMeta} {l : UdpAppDLen} {csum : UdpCsum} {ps : List AxisRaw}
    (huha : t.uha.uhaFsmState = .idle) (hm : t.ssTdhToUhaMeta = [m]) (hl : t.ssTdhToUhaDLen = [l])
    (hcsum : t.ssUcaToUhaCsum = [csum]) (hdata : t.ssTdhToUhaData = ps) (hps : WellFormed ps)
    (hlen : l.toNat = (streamBytes ps).length) (hroom : ps.length < 1024)
    (hudp : t.ssUhaToIhaUdpLen = []) (hpair : t.ssUhaToIhaIpPair = [])
    (hiha : t.ssUhaToIhaData = []) :
    TxeReaches d t
      { t with
        uha := { uhaFsmState := .idle, uhaAppDLen := 0 }
        ssTdhToUhaData := []
        ssTdhToUhaMeta := []
        ssTdhToUhaDLen := []
        ssUcaToUhaCsum := []
        ssUhaToIhaUdpLen := [l + udpHeaderLen]
        ssUhaToIhaIpPair := [⟨m.ip4SrcAddr, m.ip4DstAddr⟩]
        ssUhaToIhaData := udpHdrChunk m (l + udpHeaderLen) csum :: ps } := by
  have hstep := @uha_header d t l [] m [] csum [] huha hl hm hcsum (by rw [hudp]; decide)
    (by rw [hiha]; decide) (by rw [hpair]; decide)
  rw [hudp, hpair, hiha] at hstep
  exact hstep.trans (uha_stream_delivered rfl hps hdata hlen (by
    rw [List.nil_append, List.length_singleton]
    omega))

/-! ### The IPv4 header -/

/-- The chunks behind the UDP header. -/
lemma iha_stream_delivered {cs : List AxisUdp} (hd : 1 ≤ d.soIPTXData)
    (hiha : t.iha.ihaFsmState = .forward) (hcs : IsStream cs) (hdata : t.ssUhaToIhaData = cs)
    (hnone : t.soIPTXData = []) :
    ∃ iha', iha'.ihaFsmState = .ip1 ∧ TxeReaches d t
      { t with
        iha := iha'
        ssUhaToIhaData := []
        soIPTXData := []
        iptx := t.iptx ++ halfStream lastIp4Chunk restIp4Chunk t.iha.ihaPrevUdpChunk cs } := by
  have hroom : t.soIPTXData.length < d.soIPTXData := by
    rw [hnone]
    exact hd
  induction cs generalizing t with
  | nil => exact absurd hcs id
  | cons c cs ih =>
      rw [halfStream]
      cases hlast : c.tlast with
      | false =>
          have hcs' := (isPacket_cons_of_not_last hlast).mp hcs
          have hstep := @iha_forward d t c cs hiha hdata hlast hroom
          rw [hnone] at hstep
          have htaken := hstep.trans (iptx_chunk rfl)
          obtain ⟨iha', hidle, hrest⟩ := @ih { t with
              iha := { t.iha with ihaPrevUdpChunk := c }
              ssUhaToIhaData := cs
              soIPTXData := []
              iptx := t.iptx ++ [forwardIp4Chunk t.iha.ihaPrevUdpChunk c] } hiha hcs' rfl rfl hd
          rw [List.append_assoc, List.singleton_append] at hrest
          rw [if_neg Bool.false_ne_true]
          exact ⟨iha', hidle, htaken.trans hrest⟩
      | true =>
          obtain rfl := (isPacket_cons_of_last hlast).mp hcs
          rw [if_pos rfl]
          by_cases hno : c.NoLowerHalf
          · have hstep := @iha_forward_fits d t c [] hiha hdata hlast hno hroom
            rw [hnone] at hstep
            have htaken := hstep.trans (iptx_chunk rfl)
            rw [if_pos hno]
            exact ⟨_, rfl, htaken⟩
          · have hstep := @iha_forward_rest d t c [] hiha hdata hlast hno hroom
            rw [hnone] at hstep
            have htaken := ((hstep.trans (iptx_chunk rfl)).trans (iha_residue rfl hd)).trans
              (iptx_chunk rfl)
            rw [List.append_assoc] at htaken
            rw [if_neg hno]
            exact ⟨_, rfl, htaken⟩

/-- **The IPv4 packet.** -/
theorem iha_delivered {l : UdpLen} {ip : IpAddrPair} {header : AxisUdp} {cs : List AxisUdp}
    (hd : 1 ≤ d.soIPTXData) (hiha : t.iha.ihaFsmState = .ip1) (hl : t.ssUhaToIhaUdpLen = [l])
    (hip : t.ssUhaToIhaIpPair = [ip]) (hdata : t.ssUhaToIhaData = header :: cs) (hcs : IsStream cs)
    (hnone : t.soIPTXData = []) :
    ∃ iha', iha'.ihaFsmState = .ip1 ∧ TxeReaches d t
      { t with
        iha := iha'
        ssUhaToIhaUdpLen := []
        ssUhaToIhaIpPair := []
        ssUhaToIhaData := []
        soIPTXData := []
        iptx := t.iptx ++ firstIp4Chunk (l + ip4HeaderLen) :: secondIp4Chunk ip ::
          thirdIp4Chunk ip header :: halfStream lastIp4Chunk restIp4Chunk header cs } := by
  have hroom : t.soIPTXData.length < d.soIPTXData := by
    rw [hnone]
    exact hd
  have hne : t.ssUhaToIhaData ≠ [] := by
    rw [hdata]
    exact List.cons_ne_nil _ _
  have hpair : t.ssUhaToIhaIpPair ≠ [] := by
    rw [hip]
    exact List.cons_ne_nil _ _
  have h1 := @iha_ip1 d t l [] hiha hl hne hpair hroom
  rw [hnone] at h1
  have h2 := (h1.trans (iptx_chunk rfl)).trans (iha_ip2 rfl hip hne hd)
  have h3 := (h2.trans (iptx_chunk rfl)).trans (iha_ip3 rfl hdata hd)
  have h4 := h3.trans (iptx_chunk rfl)
  obtain ⟨iha', hidle, hrest⟩ := @iha_stream_delivered d { t with
      iha := { ihaFsmState := .forward, ihaIpPair := ip, ihaPrevUdpChunk := header }
      ssUhaToIhaUdpLen := []
      ssUhaToIhaIpPair := []
      ssUhaToIhaData := cs
      soIPTXData := []
      iptx := t.iptx ++ [firstIp4Chunk (l + ip4HeaderLen)] ++ [secondIp4Chunk ip] ++
        [thirdIp4Chunk ip header] } cs hd rfl hcs rfl rfl
  have hall := h4.trans hrest
  simp only [List.append_assoc, List.cons_append, List.nil_append] at hall
  exact ⟨iha', hidle, hall⟩

/-! ### The datagram -/

/-- **A datagram comes to IPTX.** -/
theorem datagram_delivered {m : UdpAppMeta} {l : UdpAppDLen} {cs : List AxisRaw}
    (hd : 1 ≤ d.soIPTXData) (ht : t.Idle) (hcs : WellFormed cs) (hroom : cs.length < 1024)
    (hlen : l.toNat = (streamBytes cs).length) (hm : t.ssTaiToTdhMeta = [m])
    (hl : t.ssTaiToTdhDLen = [l]) (hdata : t.ssTaiToTdhData = cs) (hempty : t.Empty) :
    ∃ u : Txe, u.Idle ∧ u.Empty ∧ TxeReaches d t u ∧
      u = { t.front with
        tdh := u.tdh, uca := u.uca, uha := u.uha, iha := u.iha
        iptx := t.iptx ++ udpPacket m l cs } := by
  obtain ⟨hwf, hpay⟩ := uhaPayload_spec hcs
  have hroom' : (uhaPayload cs).length < 1024 := by
    refine lt_of_le_of_lt ?_ hroom
    cases cs with
    | nil => exact le_rfl
    | cons c cs =>
        rw [uhaPayload]
        split
        · exact Nat.succ_le_succ (Nat.zero_le _)
        · exact le_rfl
  obtain ⟨tdh', uca', htdh, huca, hsums, h1⟩ := @psd_delivered d t m l cs ht hm hl hdata hcs hroom
    hempty.ssTdhToUcaData hempty.ssTdhToUhaMeta hempty.ssTdhToUhaDLen hempty.ssTdhToUhaData
    hempty.ssUcaToUhaCsum
  have h2 := h1.trans (uha_delivered ht.uha rfl rfl rfl rfl hwf (by rw [hpay]; exact hlen) hroom'
    hempty.ssUhaToIhaUdpLen hempty.ssUhaToIhaIpPair hempty.ssUhaToIhaData)
  obtain ⟨iha', hiha, h3⟩ := @iha_delivered d { t with
      tdh := tdh'
      uca := uca'
      uha := { uhaFsmState := .idle, uhaAppDLen := 0 }
      ssTaiToTdhData := []
      ssTaiToTdhMeta := []
      ssTaiToTdhDLen := []
      ssTdhToUcaData := []
      ssTdhToUhaData := []
      ssTdhToUhaMeta := []
      ssTdhToUhaDLen := []
      ssUcaToUhaCsum := []
      ssUhaToIhaUdpLen := [l + udpHeaderLen]
      ssUhaToIhaIpPair := [⟨m.ip4SrcAddr, m.ip4DstAddr⟩]
      ssUhaToIhaData := udpHdrChunk m (l + udpHeaderLen)
        (udpCsum m (l + udpHeaderLen) (streamBytes cs)) :: uhaPayload cs } _ _ _ _ hd ht.iha rfl rfl
    rfl hwf.isStream hempty.soIPTXData
  have h4 := h2.trans h3
  exact ⟨_, ⟨htdh, huca, hsums, rfl, hiha⟩, ⟨rfl, rfl, rfl, rfl, rfl, rfl, rfl, rfl, rfl⟩, h4, rfl⟩

end CloudFpga.Uoe
