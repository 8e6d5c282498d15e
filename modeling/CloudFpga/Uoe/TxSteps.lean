import CloudFpga.Uoe.TxEngine

/-!
The steps of the Tx engine of the UOE, one for each state of each process.

* `Txe`: the registers and the streams by name; `Txe.state`: the state of the network.
* `uaif_data`, .., `iptx_chunk`: the application and IPTX.
* `tai_start`, .., `iha_residue`: the processes.
-/

namespace CloudFpga.Uoe

open Foundation AxisRaw Toe

/-- The registers and the streams. -/
structure Txe where
  uaifData : List AxisRaw := []
  uaifMeta : List UdpAppMeta := []
  uaifDLen : List UdpAppDLen := []
  tai : Tai := {}
  tdh : Tdh := {}
  uca : Uca := {}
  uha : Uha := {}
  iha : Iha := {}
  iptx : List AxisIp4 := []
  siUAIFData : List AxisRaw := []
  siUAIFMeta : List UdpAppMeta := []
  siUAIFDLen : List UdpAppDLen := []
  ssTaiToTdhData : List AxisRaw := []
  ssTaiToTdhMeta : List UdpAppMeta := []
  ssTaiToTdhDLen : List UdpAppDLen := []
  ssTdhToUhaData : List AxisRaw := []
  ssTdhToUhaMeta : List UdpAppMeta := []
  ssTdhToUhaDLen : List UdpAppDLen := []
  ssTdhToUcaData : List AxisPsd4 := []
  ssUcaToUhaCsum : List UdpCsum := []
  ssUhaToIhaData : List AxisUdp := []
  ssUhaToIhaUdpLen : List UdpLen := []
  ssUhaToIhaIpPair : List IpAddrPair := []
  soIPTXData : List AxisIp4 := []

/-- The state of the network. -/
def Txe.state (t : Txe) : Network.State TxeReg TxeItem where
  proc
    | .uaifData => t.uaifData
    | .uaifMeta => t.uaifMeta
    | .uaifDLen => t.uaifDLen
    | .tai => t.tai
    | .tdh => t.tdh
    | .uca => t.uca
    | .uha => t.uha
    | .iha => t.iha
    | .iptx => t.iptx
  chan
    | .siUAIFData => t.siUAIFData
    | .siUAIFMeta => t.siUAIFMeta
    | .siUAIFDLen => t.siUAIFDLen
    | .ssTaiToTdhData => t.ssTaiToTdhData
    | .ssTaiToTdhMeta => t.ssTaiToTdhMeta
    | .ssTaiToTdhDLen => t.ssTaiToTdhDLen
    | .ssTdhToUhaData => t.ssTdhToUhaData
    | .ssTdhToUhaMeta => t.ssTdhToUhaMeta
    | .ssTdhToUhaDLen => t.ssTdhToUhaDLen
    | .ssTdhToUcaData => t.ssTdhToUcaData
    | .ssUcaToUhaCsum => t.ssUcaToUhaCsum
    | .ssUhaToIhaData => t.ssUhaToIhaData
    | .ssUhaToIhaUdpLen => t.ssUhaToIhaUdpLen
    | .ssUhaToIhaIpPair => t.ssUhaToIhaIpPair
    | .soIPTXData => t.soIPTXData

/-- There is a run from one state to another. -/
@[reducible] def TxeReaches (d : TxeDepths) (t u : Txe) : Prop :=
  (txEngine true d).machine.Reaches t.state u.state

variable {d : TxeDepths} {t u : Txe}

/-- A step of a process, by what it does with the registers and the streams. -/
lemma txe_step (p : TxeProc) {a : Action TxeChan TxeItem (TxeReg p)}
    (ha : txeAction true p (t.state.proc p) = some a) (hready : (txEngine true d).Ready t.state a)
    (hproc : ∀ q, ((txEngine true d).fire t.state p a).proc q = u.state.proc q)
    (hchan : ∀ c, ((txEngine true d).fire t.state p a).chan c = u.state.chan c) :
    TxeReaches d t u := Network.reaches_of_fire ha hready hproc hchan

/-! ### The environment -/

lemma uaif_data {c : AxisRaw} {cs : List AxisRaw} (hc : t.uaifData = c :: cs)
    (hroom : t.siUAIFData.length < d.siUAIFData) :
    TxeReaches d t { t with uaifData := cs, siUAIFData := t.siUAIFData ++ [c] } := by
  have ha : txeAction true .uaifData (t.state.proc .uaifData) =
      Action.source TxeChan.siUAIFData t.uaifData := rfl
  rw [hc, Action.source] at ha
  refine txe_step .uaifData ha ⟨by simp, by simp [Txe.state, txEngine, TxeDepths.depth, hroom]⟩
    (fun q => ?_) (fun c => ?_)
  · cases q <;> rfl
  · cases c <;> simp [Network.chan_fire, Txe.state, txEngine, txeWriter, Action.write]

lemma uaif_meta {m : UdpAppMeta} {ms : List UdpAppMeta} (hm : t.uaifMeta = m :: ms)
    (hroom : t.siUAIFMeta.length < d.siUAIFMeta) :
    TxeReaches d t { t with uaifMeta := ms, siUAIFMeta := t.siUAIFMeta ++ [m] } := by
  have ha : txeAction true .uaifMeta (t.state.proc .uaifMeta) =
      Action.source TxeChan.siUAIFMeta t.uaifMeta := rfl
  rw [hm, Action.source] at ha
  refine txe_step .uaifMeta ha ⟨by simp, by simp [Txe.state, txEngine, TxeDepths.depth, hroom]⟩
    (fun q => ?_) (fun c => ?_)
  · cases q <;> rfl
  · cases c <;> simp [Network.chan_fire, Txe.state, txEngine, txeWriter, Action.write]

lemma uaif_dLen {l : UdpAppDLen} {ls : List UdpAppDLen} (hl : t.uaifDLen = l :: ls)
    (hroom : t.siUAIFDLen.length < d.siUAIFDLen) :
    TxeReaches d t { t with uaifDLen := ls, siUAIFDLen := t.siUAIFDLen ++ [l] } := by
  have ha : txeAction true .uaifDLen (t.state.proc .uaifDLen) =
      Action.source TxeChan.siUAIFDLen t.uaifDLen := rfl
  rw [hl, Action.source] at ha
  refine txe_step .uaifDLen ha ⟨by simp, by simp [Txe.state, txEngine, TxeDepths.depth, hroom]⟩
    (fun q => ?_) (fun c => ?_)
  · cases q <;> rfl
  · cases c <;> simp [Network.chan_fire, Txe.state, txEngine, txeWriter, Action.write]

lemma iptx_chunk {c : AxisIp4} {cs : List AxisIp4} (hc : t.soIPTXData = c :: cs) :
    TxeReaches d t { t with iptx := t.iptx ++ [c], soIPTXData := cs } := by
  refine txe_step .iptx rfl ⟨by simp [Txe.state, Action.sink, hc], by simp [Action.sink]⟩
    (fun q => ?_) (fun c => ?_)
  · cases q with
    | iptx => simp [Network.proc_fire, Network.heads, Txe.state, Action.sink, hc]
    | _ => rfl
  · cases c <;>
      simp [Network.chan_fire, Txe.state, txEngine, txeWriter, Action.sink, hc]

/-! ### `pTxApplicationInterface` -/

/-- The meta-data and the length of a message. -/
lemma tai_start {m : UdpAppMeta} {ms : List UdpAppMeta} {l : UdpAppDLen} {ls : List UdpAppDLen}
    (hfsm : t.tai.taiFsmState = .idle) (hm : t.siUAIFMeta = m :: ms) (hl : t.siUAIFDLen = l :: ls) :
    TxeReaches d t
      { t with
        siUAIFMeta := ms
        siUAIFDLen := ls
        tai := (taiAct t.tai [] [m] [l]).1
        ssTaiToTdhData := t.ssTaiToTdhData ++ (taiAct t.tai [] [m] [l]).2 .ssTaiToTdhData
        ssTaiToTdhMeta := t.ssTaiToTdhMeta ++ (taiAct t.tai [] [m] [l]).2 .ssTaiToTdhMeta
        ssTaiToTdhDLen := t.ssTaiToTdhDLen ++ (taiAct t.tai [] [m] [l]).2 .ssTaiToTdhDLen } := by
  have ha : txeAction true .tai (t.state.proc .tai) = taiAction true t.tai := rfl
  rw [taiAction, hfsm] at ha
  refine txe_step .tai ha ⟨by simp [Txe.state, hm, hl], by simp⟩ (fun q => ?_) (fun c => ?_)
  · cases q with
    | tai => simp [Network.proc_fire, Network.heads, Txe.state, hm, hl]
    | _ => rfl
  · cases c <;> simp [Network.chan_fire, Network.heads, Txe.state, txEngine, txeWriter, hm, hl]

/-- A chunk of a message. -/
lemma tai_chunk {c : AxisRaw} {cs : List AxisRaw}
    (hfsm : t.tai.taiFsmState = .drgmData ∨ t.tai.taiFsmState = .strmData)
    (hc : t.siUAIFData = c :: cs) (hroom : t.ssTaiToTdhData.length < 1024) :
    TxeReaches d t
      { t with
        siUAIFData := cs
        tai := (taiAct t.tai [c] [] []).1
        ssTaiToTdhData := t.ssTaiToTdhData ++ (taiAct t.tai [c] [] []).2 .ssTaiToTdhData
        ssTaiToTdhMeta := t.ssTaiToTdhMeta ++ (taiAct t.tai [c] [] []).2 .ssTaiToTdhMeta
        ssTaiToTdhDLen := t.ssTaiToTdhDLen ++ (taiAct t.tai [c] [] []).2 .ssTaiToTdhDLen } := by
  have ha : txeAction true .tai (t.state.proc .tai) = taiAction true t.tai := rfl
  rcases hfsm with hfsm | hfsm
  all_goals
    rw [taiAction, hfsm] at ha
    refine txe_step .tai ha
      ⟨by simp [Txe.state, hc], by simp [Txe.state, txEngine, TxeDepths.depth, hroom]⟩
      (fun q => ?_) (fun c => ?_)
    · cases q with
      | tai => simp [Network.proc_fire, Network.heads, Txe.state, hc]
      | _ => rfl
    · cases c <;> simp [Network.chan_fire, Network.heads, Txe.state, txEngine, txeWriter, hc]

/-- The meta-data of a datagram. -/
lemma tai_datagram (hfsm : t.tai.taiFsmState = .drgmMeta ∨ t.tai.taiFsmState = .strmMeta)
    (hmeta : t.ssTaiToTdhMeta.length < 32) (hdLen : t.ssTaiToTdhDLen.length < 32) :
    TxeReaches d t
      { t with
        tai := (taiAct t.tai [] [] []).1
        ssTaiToTdhData := t.ssTaiToTdhData ++ (taiAct t.tai [] [] []).2 .ssTaiToTdhData
        ssTaiToTdhMeta := t.ssTaiToTdhMeta ++ (taiAct t.tai [] [] []).2 .ssTaiToTdhMeta
        ssTaiToTdhDLen := t.ssTaiToTdhDLen ++ (taiAct t.tai [] [] []).2 .ssTaiToTdhDLen } := by
  have ha : txeAction true .tai (t.state.proc .tai) = taiAction true t.tai := rfl
  rcases hfsm with hfsm | hfsm
  all_goals
    rw [taiAction, hfsm] at ha
    refine txe_step .tai ha
      ⟨by simp, by simp [Txe.state, txEngine, TxeDepths.depth, hmeta, hdLen]⟩
      (fun q => ?_) (fun c => ?_)
    · cases q with
      | tai => simp [Network.proc_fire, Txe.state]
      | _ => rfl
    · cases c <;> simp [Network.chan_fire, Txe.state, txEngine, txeWriter]

/-! ### `pTxDatagramHandler` -/

/-- The meta-data of a datagram, and the addresses of its pseudo packet. -/
lemma tdh_pkt1 {m : UdpAppMeta} {ms : List UdpAppMeta}
    (hfsm : t.tdh.tdhFsmState = .psdPkt1) (hm : t.ssTaiToTdhMeta = m :: ms)
    (hmeta : t.ssTdhToUhaMeta.length < 32) (huca : t.ssTdhToUcaData.length < 8) :
    TxeReaches d t
      { t with
        tdh := { t.tdh with tdhUdpMeta := m, tdhFsmState := .psdPkt2 }
        ssTaiToTdhMeta := ms
        ssTdhToUhaMeta := t.ssTdhToUhaMeta ++ [m]
        ssTdhToUcaData := t.ssTdhToUcaData ++ [firstPseudoPktChunk m] } := by
  have ha : txeAction true .tdh (t.state.proc .tdh) = some (pTxDatagramHandler t.tdh) := rfl
  rw [pTxDatagramHandler, hfsm] at ha
  refine txe_step .tdh ha ⟨by simp [Txe.state, hm],
    by simp [Txe.state, txEngine, TxeDepths.depth, hmeta, huca]⟩ (fun q => ?_) (fun c => ?_)
  · cases q with
    | tdh => simp [Network.proc_fire, Network.heads, Txe.state, hm]
    | _ => rfl
  · cases c <;> simp [Network.chan_fire, Network.heads, Txe.state, txEngine, txeWriter, hm]

/-- The length of a datagram, and the ports of its pseudo packet. -/
lemma tdh_pkt2 {l : UdpAppDLen} {ls : List UdpAppDLen}
    (hfsm : t.tdh.tdhFsmState = .psdPkt2) (hl : t.ssTaiToTdhDLen = l :: ls)
    (hdLen : t.ssTdhToUhaDLen.length < 32) (huca : t.ssTdhToUcaData.length < 8) :
    TxeReaches d t
      { t with
        tdh := { t.tdh with
          tdhAppLen := l, tdhUdpLen := l + udpHeaderLen, tdhFsmState := .psdPkt3 }
        ssTaiToTdhDLen := ls
        ssTdhToUhaDLen := t.ssTdhToUhaDLen ++ [l]
        ssTdhToUcaData := t.ssTdhToUcaData ++
          [secondPseudoPktChunk t.tdh.tdhUdpMeta (l + udpHeaderLen)] } := by
  have ha : txeAction true .tdh (t.state.proc .tdh) = some (pTxDatagramHandler t.tdh) := rfl
  rw [pTxDatagramHandler, hfsm] at ha
  refine txe_step .tdh ha ⟨by simp [Txe.state, hl],
    by simp [Txe.state, txEngine, TxeDepths.depth, hdLen, huca]⟩ (fun q => ?_) (fun c => ?_)
  · cases q with
    | tdh => simp [Network.proc_fire, Network.heads, Txe.state, hl]
    | _ => rfl
  · cases c <;> simp [Network.chan_fire, Network.heads, Txe.state, txEngine, txeWriter, hl]

/-- A first chunk that is not the last one. -/
lemma tdh_pkt3 {c : AxisRaw} {cs : List AxisRaw}
    (hfsm : t.tdh.tdhFsmState = .psdPkt3) (hc : t.ssTaiToTdhData = c :: cs)
    (hlast : c.tlast = false) (huha : t.ssTdhToUhaData.length < 1024)
    (huca : t.ssTdhToUcaData.length < 8) :
    TxeReaches d t
      { t with
        tdh := { t.tdh with tdhCurrChunk := c, tdhFsmState := .stream }
        ssTaiToTdhData := cs
        ssTdhToUcaData := t.ssTdhToUcaData ++ [thirdPseudoPktChunk t.tdh.tdhUdpLen c] } := by
  have ha : txeAction true .tdh (t.state.proc .tdh) = some (pTxDatagramHandler t.tdh) := rfl
  rw [pTxDatagramHandler, hfsm] at ha
  refine txe_step .tdh ha ⟨by simp [Txe.state, hc],
    by simp [Txe.state, txEngine, TxeDepths.depth, huha, huca]⟩ (fun q => ?_) (fun c => ?_)
  · cases q with
    | tdh => simp [Network.proc_fire, Network.heads, Txe.state, hc, hlast]
    | _ => rfl
  · cases c <;>
      simp [Network.chan_fire, Network.heads, Txe.state, txEngine, txeWriter, tdhWrites, hc, hlast]

/-- A payload of at most four bytes. -/
lemma tdh_pkt3_fits {c : AxisRaw} {cs : List AxisRaw}
    (hfsm : t.tdh.tdhFsmState = .psdPkt3) (hc : t.ssTaiToTdhData = c :: cs)
    (hlast : c.tlast = true) (hno : c.clearUnusedBytes.NoLowerHalf)
    (huha : t.ssTdhToUhaData.length < 1024) (huca : t.ssTdhToUcaData.length < 8) :
    TxeReaches d t
      { t with
        tdh := { t.tdh with tdhCurrChunk := c.clearUnusedBytes, tdhFsmState := .psdPkt1 }
        ssTaiToTdhData := cs
        ssTdhToUhaData := t.ssTdhToUhaData ++ [c.clearUnusedBytes]
        ssTdhToUcaData := t.ssTdhToUcaData ++
          [endPseudoChunk (thirdPseudoPktChunk t.tdh.tdhUdpLen c) c.clearUnusedBytes] } := by
  have ha : txeAction true .tdh (t.state.proc .tdh) = some (pTxDatagramHandler t.tdh) := rfl
  rw [pTxDatagramHandler, hfsm] at ha
  refine txe_step .tdh ha ⟨by simp [Txe.state, hc],
    by simp [Txe.state, txEngine, TxeDepths.depth, huha, huca]⟩ (fun q => ?_) (fun c => ?_)
  · cases q with
    | tdh => simp [Network.proc_fire, Network.heads, Txe.state, hc, hlast, hno]
    | _ => rfl
  · cases c <;>
      simp [Network.chan_fire, Network.heads, Txe.state, txEngine, txeWriter, tdhWrites, hc, hlast,
        hno]

/-- A payload of five to eight bytes. -/
lemma tdh_pkt3_rest {c : AxisRaw} {cs : List AxisRaw}
    (hfsm : t.tdh.tdhFsmState = .psdPkt3) (hc : t.ssTaiToTdhData = c :: cs)
    (hlast : c.tlast = true) (hno : ¬c.clearUnusedBytes.NoLowerHalf)
    (huha : t.ssTdhToUhaData.length < 1024) (huca : t.ssTdhToUcaData.length < 8) :
    TxeReaches d t
      { t with
        tdh := { t.tdh with tdhCurrChunk := c.clearUnusedBytes, tdhFsmState := .psdPkt4 }
        ssTaiToTdhData := cs
        ssTdhToUhaData := t.ssTdhToUhaData ++ [c.clearUnusedBytes]
        ssTdhToUcaData := t.ssTdhToUcaData ++ [thirdPseudoPktChunk t.tdh.tdhUdpLen c] } := by
  have ha : txeAction true .tdh (t.state.proc .tdh) = some (pTxDatagramHandler t.tdh) := rfl
  rw [pTxDatagramHandler, hfsm] at ha
  refine txe_step .tdh ha ⟨by simp [Txe.state, hc],
    by simp [Txe.state, txEngine, TxeDepths.depth, huha, huca]⟩ (fun q => ?_) (fun c => ?_)
  · cases q with
    | tdh => simp [Network.proc_fire, Network.heads, Txe.state, hc, hlast, hno]
    | _ => rfl
  · cases c <;>
      simp [Network.chan_fire, Network.heads, Txe.state, txEngine, txeWriter, tdhWrites, hc, hlast,
        hno]

lemma tdh_pkt4 (hfsm : t.tdh.tdhFsmState = .psdPkt4)
    (huca : t.ssTdhToUcaData.length < 8) :
    TxeReaches d t
      { t with
        tdh := { t.tdh with tdhFsmState := .psdPkt1 }
        ssTdhToUcaData := t.ssTdhToUcaData ++ [restPseudoChunk t.tdh.tdhCurrChunk] } := by
  have ha : txeAction true .tdh (t.state.proc .tdh) = some (pTxDatagramHandler t.tdh) := rfl
  rw [pTxDatagramHandler, hfsm] at ha
  refine txe_step .tdh ha ⟨by simp,
    by simp [Txe.state, txEngine, TxeDepths.depth, huca]⟩ (fun q => ?_) (fun c => ?_)
  · cases q with
    | tdh => simp [Network.proc_fire, Txe.state]
    | _ => rfl
  · cases c <;> simp [Network.chan_fire, Txe.state, txEngine, txeWriter, tdhWrites]

/-- A chunk that is not the last one. -/
lemma tdh_stream {c : AxisRaw} {cs : List AxisRaw}
    (hfsm : t.tdh.tdhFsmState = .stream) (hc : t.ssTaiToTdhData = c :: cs)
    (hlast : c.tlast = false) (huha : t.ssTdhToUhaData.length < 1024)
    (huca : t.ssTdhToUcaData.length < 8) :
    TxeReaches d t
      { t with
        tdh := { t.tdh with tdhCurrChunk := c }
        ssTaiToTdhData := cs
        ssTdhToUhaData := t.ssTdhToUhaData ++ [t.tdh.tdhCurrChunk]
        ssTdhToUcaData := t.ssTdhToUcaData ++ [currPseudoChunk t.tdh.tdhCurrChunk c] } := by
  have ha : txeAction true .tdh (t.state.proc .tdh) = some (pTxDatagramHandler t.tdh) := rfl
  rw [pTxDatagramHandler, hfsm] at ha
  refine txe_step .tdh ha ⟨by simp [Txe.state, hc],
    by simp [Txe.state, txEngine, TxeDepths.depth, huha, huca]⟩ (fun q => ?_) (fun c => ?_)
  · cases q with
    | tdh => simp [Network.proc_fire, Network.heads, Txe.state, hc, hlast, hfsm]
    | _ => rfl
  · cases c <;>
      simp [Network.chan_fire, Network.heads, Txe.state, txEngine, txeWriter, tdhWrites, hc, hlast]

/-- A last chunk of at most four bytes. -/
lemma tdh_stream_fits {c : AxisRaw} {cs : List AxisRaw}
    (hfsm : t.tdh.tdhFsmState = .stream) (hc : t.ssTaiToTdhData = c :: cs)
    (hlast : c.tlast = true) (hno : c.NoLowerHalf) (huha : t.ssTdhToUhaData.length < 1024)
    (huca : t.ssTdhToUcaData.length < 8) :
    TxeReaches d t
      { t with
        tdh := { t.tdh with tdhCurrChunk := c, tdhFsmState := .last }
        ssTaiToTdhData := cs
        ssTdhToUhaData := t.ssTdhToUhaData ++ [t.tdh.tdhCurrChunk]
        ssTdhToUcaData := t.ssTdhToUcaData ++
          [endPseudoChunk (currPseudoChunk t.tdh.tdhCurrChunk c) c] } := by
  have ha : txeAction true .tdh (t.state.proc .tdh) = some (pTxDatagramHandler t.tdh) := rfl
  rw [pTxDatagramHandler, hfsm] at ha
  refine txe_step .tdh ha ⟨by simp [Txe.state, hc],
    by simp [Txe.state, txEngine, TxeDepths.depth, huha, huca]⟩ (fun q => ?_) (fun c => ?_)
  · cases q with
    | tdh => simp [Network.proc_fire, Network.heads, Txe.state, hc, hlast, hno]
    | _ => rfl
  · cases c <;>
      simp [Network.chan_fire, Network.heads, Txe.state, txEngine, txeWriter, tdhWrites, hc, hlast,
        hno]

/-- A last chunk of five to eight bytes. -/
lemma tdh_stream_rest {c : AxisRaw} {cs : List AxisRaw}
    (hfsm : t.tdh.tdhFsmState = .stream) (hc : t.ssTaiToTdhData = c :: cs)
    (hlast : c.tlast = true) (hno : ¬c.NoLowerHalf)
    (huha : t.ssTdhToUhaData.length < 1024) (huca : t.ssTdhToUcaData.length < 8) :
    TxeReaches d t
      { t with
        tdh := { t.tdh with tdhCurrChunk := c, tdhFsmState := .psdResidue }
        ssTaiToTdhData := cs
        ssTdhToUhaData := t.ssTdhToUhaData ++ [t.tdh.tdhCurrChunk]
        ssTdhToUcaData := t.ssTdhToUcaData ++ [currPseudoChunk t.tdh.tdhCurrChunk c] } := by
  have ha : txeAction true .tdh (t.state.proc .tdh) = some (pTxDatagramHandler t.tdh) := rfl
  rw [pTxDatagramHandler, hfsm] at ha
  refine txe_step .tdh ha ⟨by simp [Txe.state, hc],
    by simp [Txe.state, txEngine, TxeDepths.depth, huha, huca]⟩ (fun q => ?_) (fun c => ?_)
  · cases q with
    | tdh => simp [Network.proc_fire, Network.heads, Txe.state, hc, hlast, hno]
    | _ => rfl
  · cases c <;>
      simp [Network.chan_fire, Network.heads, Txe.state, txEngine, txeWriter, tdhWrites, hc, hlast,
        hno]

lemma tdh_last (hfsm : t.tdh.tdhFsmState = .last)
    (huha : t.ssTdhToUhaData.length < 1024) :
    TxeReaches d t
      { t with
        tdh := { t.tdh with tdhFsmState := .psdPkt1 }
        ssTdhToUhaData := t.ssTdhToUhaData ++ [t.tdh.tdhCurrChunk] } := by
  have ha : txeAction true .tdh (t.state.proc .tdh) = some (pTxDatagramHandler t.tdh) := rfl
  rw [pTxDatagramHandler, hfsm] at ha
  refine txe_step .tdh ha ⟨by simp,
    by simp [Txe.state, txEngine, TxeDepths.depth, huha]⟩ (fun q => ?_) (fun c => ?_)
  · cases q with
    | tdh => simp [Network.proc_fire, Txe.state]
    | _ => rfl
  · cases c <;> simp [Network.chan_fire, Txe.state, txEngine, txeWriter, tdhWrites]

lemma tdh_residue (hfsm : t.tdh.tdhFsmState = .psdResidue)
    (huha : t.ssTdhToUhaData.length < 1024) (huca : t.ssTdhToUcaData.length < 8) :
    TxeReaches d t
      { t with
        tdh := { t.tdh with tdhFsmState := .psdPkt1 }
        ssTdhToUhaData := t.ssTdhToUhaData ++ [t.tdh.tdhCurrChunk]
        ssTdhToUcaData := t.ssTdhToUcaData ++ [restPseudoChunk t.tdh.tdhCurrChunk] } := by
  have ha : txeAction true .tdh (t.state.proc .tdh) = some (pTxDatagramHandler t.tdh) := rfl
  rw [pTxDatagramHandler, hfsm] at ha
  refine txe_step .tdh ha ⟨by simp,
    by simp [Txe.state, txEngine, TxeDepths.depth, huha, huca]⟩ (fun q => ?_) (fun c => ?_)
  · cases q with
    | tdh => simp [Network.proc_fire, Txe.state]
    | _ => rfl
  · cases c <;> simp [Network.chan_fire, Txe.state, txEngine, txeWriter, tdhWrites]

/-! ### `pUdpChecksumAccumulator` -/

lemma uca_chunk {c : AxisPsd4} {cs : List AxisPsd4}
    (hfsm : t.uca.ucaFsmState = .accumulate) (hc : t.ssTdhToUcaData = c :: cs)
    (hlast : c.tlast = false) :
    TxeReaches d t
      { t with
        uca := ucaAdd t.uca c
        ssTdhToUcaData := cs } := by
  have ha : txeAction true .uca (t.state.proc .uca) = some (pUdpChecksumAccumulator t.uca) := rfl
  rw [pUdpChecksumAccumulator, hfsm] at ha
  refine txe_step .uca ha ⟨by simp [Txe.state, hc],
    by simp⟩ (fun q => ?_) (fun c => ?_)
  · cases q with
    | uca => simp [Network.proc_fire, Network.heads, Txe.state, hc, hlast]
    | _ => rfl
  · cases c <;> simp [Network.chan_fire, Network.heads, Txe.state, txEngine, txeWriter, hc, hlast]

lemma uca_end {c : AxisPsd4} {cs : List AxisPsd4}
    (hfsm : t.uca.ucaFsmState = .accumulate) (hc : t.ssTdhToUcaData = c :: cs)
    (hlast : c.tlast = true) :
    TxeReaches d t
      { t with
        uca := { t.uca with ucaLastChunk := c.clearUnusedBytes, ucaFsmState := .last }
        ssTdhToUcaData := cs } := by
  have ha : txeAction true .uca (t.state.proc .uca) = some (pUdpChecksumAccumulator t.uca) := rfl
  rw [pUdpChecksumAccumulator, hfsm] at ha
  refine txe_step .uca ha ⟨by simp [Txe.state, hc],
    by simp⟩ (fun q => ?_) (fun c => ?_)
  · cases q with
    | uca => simp [Network.proc_fire, Network.heads, Txe.state, hc, hlast]
    | _ => rfl
  · cases c <;> simp [Network.chan_fire, Network.heads, Txe.state, txEngine, txeWriter, hc, hlast]

lemma uca_last (hfsm : t.uca.ucaFsmState = .last) :
    TxeReaches d t
      { t with
        uca := { ucaAdd t.uca t.uca.ucaLastChunk with ucaFsmState := .done } } := by
  have ha : txeAction true .uca (t.state.proc .uca) = some (pUdpChecksumAccumulator t.uca) := rfl
  rw [pUdpChecksumAccumulator, hfsm] at ha
  refine txe_step .uca ha ⟨by simp,
    by simp⟩ (fun q => ?_) (fun c => ?_)
  · cases q with
    | uca => simp [Network.proc_fire, Txe.state]
    | _ => rfl
  · cases c <;> simp [Network.chan_fire, Txe.state, txEngine, txeWriter]

lemma uca_done (hfsm : t.uca.ucaFsmState = .done)
    (hroom : t.ssUcaToUhaCsum.length < 32) :
    TxeReaches d t
      { t with
        uca := { t.uca with
          ucaCsum0 := 0, ucaCsum1 := 0, ucaCsum2 := 0, ucaCsum3 := 0
          ucaFsmState := .accumulate }
        ssUcaToUhaCsum := t.ssUcaToUhaCsum ++ [ucaCsum t.uca] } := by
  have ha : txeAction true .uca (t.state.proc .uca) = some (pUdpChecksumAccumulator t.uca) := rfl
  rw [pUdpChecksumAccumulator, hfsm] at ha
  refine txe_step .uca ha ⟨by simp,
    by simp [Txe.state, txEngine, TxeDepths.depth, hroom]⟩ (fun q => ?_) (fun c => ?_)
  · cases q with
    | uca => simp [Network.proc_fire, Txe.state]
    | _ => rfl
  · cases c <;> simp [Network.chan_fire, Txe.state, txEngine, txeWriter, Action.write]

/-! ### `pUdpHeaderAdder` -/

/-- The header of a datagram. -/
lemma uha_header {l : UdpAppDLen} {ls : List UdpAppDLen} {m : UdpAppMeta} {ms : List UdpAppMeta}
    {csum : UdpCsum} {csums : List UdpCsum}
    (hfsm : t.uha.uhaFsmState = .idle) (hl : t.ssTdhToUhaDLen = l :: ls)
    (hm : t.ssTdhToUhaMeta = m :: ms) (hcsum : t.ssUcaToUhaCsum = csum :: csums)
    (hlen : t.ssUhaToIhaUdpLen.length < 32) (hdata : t.ssUhaToIhaData.length < 1024)
    (hpair : t.ssUhaToIhaIpPair.length < 32) :
    TxeReaches d t
      { t with
        uha := { uhaAppDLen := l, uhaFsmState := .stream }
        ssTdhToUhaDLen := ls
        ssTdhToUhaMeta := ms
        ssUcaToUhaCsum := csums
        ssUhaToIhaUdpLen := t.ssUhaToIhaUdpLen ++ [l + udpHeaderLen]
        ssUhaToIhaData := t.ssUhaToIhaData ++ [udpHdrChunk m (l + udpHeaderLen) csum]
        ssUhaToIhaIpPair := t.ssUhaToIhaIpPair ++ [⟨m.ip4SrcAddr, m.ip4DstAddr⟩] } := by
  have ha : txeAction true .uha (t.state.proc .uha) = some (pUdpHeaderAdder t.uha) := rfl
  rw [pUdpHeaderAdder, hfsm] at ha
  refine txe_step .uha ha ⟨by simp [Txe.state, hl, hm, hcsum],
    by simp [Txe.state, txEngine, TxeDepths.depth, hlen, hdata, hpair]⟩ (fun q => ?_) (fun c => ?_)
  · cases q with
    | uha => simp [Network.proc_fire, Network.heads, Txe.state, hl, hm, hcsum]
    | _ => rfl
  · cases c <;>
      simp [Network.chan_fire, Network.heads, Txe.state, txEngine, txeWriter, hl, hm, hcsum]

/-- A chunk behind which more than the last one comes. -/
lemma uha_chunk {c : AxisRaw} {cs : List AxisRaw}
    (hfsm : t.uha.uhaFsmState = .stream) (hc : t.ssTdhToUhaData = c :: cs)
    (hlen : 8 < t.uha.uhaAppDLen) (hlast : c.tlast = false)
    (hdata : t.ssUhaToIhaData.length < 1024) :
    TxeReaches d t
      { t with
        uha := { uhaAppDLen := t.uha.uhaAppDLen - 8, uhaFsmState := .stream }
        ssTdhToUhaData := cs
        ssUhaToIhaData := t.ssUhaToIhaData ++ [c] } := by
  have ha : txeAction true .uha (t.state.proc .uha) = some (pUdpHeaderAdder t.uha) := rfl
  simp only [pUdpHeaderAdder, hfsm, if_pos hlen] at ha
  refine txe_step .uha ha ⟨by simp [Txe.state, hc],
    by simp [Txe.state, txEngine, TxeDepths.depth, hdata]⟩ (fun q => ?_) (fun c => ?_)
  · cases q with
    | uha => simp [Network.proc_fire, Network.heads, Txe.state, hc, hlast]
    | _ => rfl
  · cases c <;>
      simp [Network.chan_fire, Network.heads, Txe.state, txEngine, txeWriter, Action.write, hc]

/-- The last chunk. -/
lemma uha_last {c : AxisRaw} {cs : List AxisRaw}
    (hfsm : t.uha.uhaFsmState = .stream) (hc : t.ssTdhToUhaData = c :: cs)
    (hlen : ¬8 < t.uha.uhaAppDLen) (hlast : c.tlast = true)
    (hdata : t.ssUhaToIhaData.length < 1024) :
    TxeReaches d t
      { t with
        uha := { uhaAppDLen := 0, uhaFsmState := .idle }
        ssTdhToUhaData := cs
        ssUhaToIhaData := t.ssUhaToIhaData ++ [c] } := by
  have ha : txeAction true .uha (t.state.proc .uha) = some (pUdpHeaderAdder t.uha) := rfl
  simp only [pUdpHeaderAdder, hfsm, if_neg hlen] at ha
  refine txe_step .uha ha ⟨by simp [Txe.state, hc],
    by simp [Txe.state, txEngine, TxeDepths.depth, hdata]⟩ (fun q => ?_) (fun c => ?_)
  · cases q with
    | uha => simp [Network.proc_fire, Txe.state, hc]
    | _ => rfl
  · cases c <;>
      simp [Network.chan_fire, Network.heads, Txe.state, txEngine, txeWriter, Action.write, hc,
        hlast]

/-! ### `pIp4HeaderAdder` -/

lemma iha_ip1 {l : UdpLen} {ls : List UdpLen}
    (hfsm : t.iha.ihaFsmState = .ip1) (hl : t.ssUhaToIhaUdpLen = l :: ls)
    (hdata : t.ssUhaToIhaData ≠ []) (hpair : t.ssUhaToIhaIpPair ≠ [])
    (hroom : t.soIPTXData.length < d.soIPTXData) :
    TxeReaches d t
      { t with
        iha := { t.iha with ihaFsmState := .ip2 }
        ssUhaToIhaUdpLen := ls
        soIPTXData := t.soIPTXData ++ [firstIp4Chunk (l + ip4HeaderLen)] } := by
  have ha : txeAction true .iha (t.state.proc .iha) = some (pIp4HeaderAdder t.iha) := rfl
  rw [pIp4HeaderAdder, hfsm] at ha
  refine txe_step .iha ha ⟨by simp [Txe.state, hl, List.length_pos_iff, hdata, hpair],
    by simp [Txe.state, txEngine, TxeDepths.depth, hroom]⟩ (fun q => ?_) (fun c => ?_)
  · cases q with
    | iha => simp [Network.proc_fire, Txe.state]
    | _ => rfl
  · cases c <;>
      simp [Network.chan_fire, Network.heads, Txe.state, txEngine, txeWriter, Action.write, hl]

lemma iha_ip2 {ip : IpAddrPair} {ips : List IpAddrPair}
    (hfsm : t.iha.ihaFsmState = .ip2) (hip : t.ssUhaToIhaIpPair = ip :: ips)
    (hdata : t.ssUhaToIhaData ≠ []) (hroom : t.soIPTXData.length < d.soIPTXData) :
    TxeReaches d t
      { t with
        iha := { t.iha with ihaIpPair := ip, ihaFsmState := .ip3 }
        ssUhaToIhaIpPair := ips
        soIPTXData := t.soIPTXData ++ [secondIp4Chunk ip] } := by
  have ha : txeAction true .iha (t.state.proc .iha) = some (pIp4HeaderAdder t.iha) := rfl
  rw [pIp4HeaderAdder, hfsm] at ha
  refine txe_step .iha ha ⟨by simp [Txe.state, hip, List.length_pos_iff, hdata],
    by simp [Txe.state, txEngine, TxeDepths.depth, hroom]⟩ (fun q => ?_) (fun c => ?_)
  · cases q with
    | iha => simp [Network.proc_fire, Network.heads, Txe.state, hip]
    | _ => rfl
  · cases c <;>
      simp [Network.chan_fire, Network.heads, Txe.state, txEngine, txeWriter, Action.write, hip]

lemma iha_ip3 {c : AxisUdp} {cs : List AxisUdp}
    (hfsm : t.iha.ihaFsmState = .ip3) (hc : t.ssUhaToIhaData = c :: cs)
    (hroom : t.soIPTXData.length < d.soIPTXData) :
    TxeReaches d t
      { t with
        iha := { t.iha with ihaPrevUdpChunk := c, ihaFsmState := .forward }
        ssUhaToIhaData := cs
        soIPTXData := t.soIPTXData ++ [thirdIp4Chunk t.iha.ihaIpPair c] } := by
  have ha : txeAction true .iha (t.state.proc .iha) = some (pIp4HeaderAdder t.iha) := rfl
  rw [pIp4HeaderAdder, hfsm] at ha
  refine txe_step .iha ha ⟨by simp [Txe.state, hc],
    by simp [Txe.state, txEngine, TxeDepths.depth, hroom]⟩ (fun q => ?_) (fun c => ?_)
  · cases q with
    | iha => simp [Network.proc_fire, Network.heads, Txe.state, hc]
    | _ => rfl
  · cases c <;>
      simp [Network.chan_fire, Network.heads, Txe.state, txEngine, txeWriter, Action.write, hc]

/-- A chunk that is not the last one. -/
lemma iha_forward {c : AxisUdp} {cs : List AxisUdp}
    (hfsm : t.iha.ihaFsmState = .forward) (hc : t.ssUhaToIhaData = c :: cs)
    (hlast : c.tlast = false) (hroom : t.soIPTXData.length < d.soIPTXData) :
    TxeReaches d t
      { t with
        iha := { t.iha with ihaPrevUdpChunk := c }
        ssUhaToIhaData := cs
        soIPTXData := t.soIPTXData ++ [forwardIp4Chunk t.iha.ihaPrevUdpChunk c] } := by
  have ha : txeAction true .iha (t.state.proc .iha) = some (pIp4HeaderAdder t.iha) := rfl
  rw [pIp4HeaderAdder, hfsm] at ha
  refine txe_step .iha ha ⟨by simp [Txe.state, hc],
    by simp [Txe.state, txEngine, TxeDepths.depth, hroom]⟩ (fun q => ?_) (fun c => ?_)
  · cases q with
    | iha => simp [Network.proc_fire, Network.heads, Txe.state, hc, hlast, hfsm]
    | _ => rfl
  · cases c <;>
      simp [Network.chan_fire, Network.heads, Txe.state, txEngine, txeWriter, Action.write, hc,
        hlast]

/-- A last chunk of at most four bytes. -/
lemma iha_forward_fits {c : AxisUdp} {cs : List AxisUdp}
    (hfsm : t.iha.ihaFsmState = .forward) (hc : t.ssUhaToIhaData = c :: cs)
    (hlast : c.tlast = true) (hno : c.NoLowerHalf)
    (hroom : t.soIPTXData.length < d.soIPTXData) :
    TxeReaches d t
      { t with
        iha := { t.iha with ihaPrevUdpChunk := c, ihaFsmState := .ip1 }
        ssUhaToIhaData := cs
        soIPTXData := t.soIPTXData ++ [lastIp4Chunk t.iha.ihaPrevUdpChunk c] } := by
  have ha : txeAction true .iha (t.state.proc .iha) = some (pIp4HeaderAdder t.iha) := rfl
  rw [pIp4HeaderAdder, hfsm] at ha
  refine txe_step .iha ha ⟨by simp [Txe.state, hc],
    by simp [Txe.state, txEngine, TxeDepths.depth, hroom]⟩ (fun q => ?_) (fun c => ?_)
  · cases q with
    | iha => simp [Network.proc_fire, Network.heads, Txe.state, hc, hlast, hno]
    | _ => rfl
  · cases c <;>
      simp [Network.chan_fire, Network.heads, Txe.state, txEngine, txeWriter, Action.write,
        lastIp4Chunk, hc, hlast, hno]

/-- A last chunk of five to eight bytes. -/
lemma iha_forward_rest {c : AxisUdp} {cs : List AxisUdp}
    (hfsm : t.iha.ihaFsmState = .forward) (hc : t.ssUhaToIhaData = c :: cs)
    (hlast : c.tlast = true) (hno : ¬c.NoLowerHalf)
    (hroom : t.soIPTXData.length < d.soIPTXData) :
    TxeReaches d t
      { t with
        iha := { t.iha with ihaPrevUdpChunk := c, ihaFsmState := .residue }
        ssUhaToIhaData := cs
        soIPTXData := t.soIPTXData ++ [forwardIp4Chunk t.iha.ihaPrevUdpChunk c] } := by
  have ha : txeAction true .iha (t.state.proc .iha) = some (pIp4HeaderAdder t.iha) := rfl
  rw [pIp4HeaderAdder, hfsm] at ha
  refine txe_step .iha ha ⟨by simp [Txe.state, hc],
    by simp [Txe.state, txEngine, TxeDepths.depth, hroom]⟩ (fun q => ?_) (fun c => ?_)
  · cases q with
    | iha => simp [Network.proc_fire, Network.heads, Txe.state, hc, hlast, hno]
    | _ => rfl
  · cases c <;>
      simp [Network.chan_fire, Network.heads, Txe.state, txEngine, txeWriter, Action.write, hc,
        hlast, hno]

lemma iha_residue (hfsm : t.iha.ihaFsmState = .residue)
    (hroom : t.soIPTXData.length < d.soIPTXData) :
    TxeReaches d t
      { t with
        iha := { t.iha with ihaFsmState := .ip1 }
        soIPTXData := t.soIPTXData ++ [restIp4Chunk t.iha.ihaPrevUdpChunk] } := by
  have ha : txeAction true .iha (t.state.proc .iha) = some (pIp4HeaderAdder t.iha) := rfl
  rw [pIp4HeaderAdder, hfsm] at ha
  refine txe_step .iha ha ⟨by simp,
    by simp [Txe.state, txEngine, TxeDepths.depth, hroom]⟩ (fun q => ?_) (fun c => ?_)
  · cases q with
    | iha => simp [Network.proc_fire, Txe.state]
    | _ => rfl
  · cases c <;> simp [Network.chan_fire, Txe.state, txEngine, txeWriter, Action.write, restIp4Chunk]

end CloudFpga.Uoe
