import CloudFpga.Iptx.Engine

/-!
The steps of the IP transmitter.

* `Ipt`: the registers and the streams by name; `Ipt.state`: the state of the network.
* `l3mux_chunk`, .., `l2mux_chunk`: what each process does when it is called.
-/

namespace CloudFpga.Iptx

open Foundation AxisRaw Toe
open Arp (AxisEth ArpLkpReply)
open Icmp (setIp4HdrCsum)
open Uoe (getIp4DstAddr)

/-- The registers and the streams. -/
structure Ipt where
  l3mux : List AxisIp4 := []
  hca : Hca := {}
  ici : IciFsmStates := .s0
  iae : ℕ := 0
  mai : Mai := {}
  arp : ℕ := 0
  l2mux : List AxisEth := []
  siL3MUXData : List AxisIp4 := []
  ssHCaToICiData : List AxisIp4 := []
  ssHCaToICiCsum : List Ip4HdrCsum := []
  ssICiToIAeData : List AxisIp4 := []
  ssIAeToMAiData : List AxisIp4 := []
  soARPLookupReq : List Ip4Addr := []
  siARPLookupRep : List ArpLkpReply := []
  soL2MUXData : List AxisEth := []

/-- The state of the network. -/
def Ipt.state (t : Ipt) : Network.State IptxReg IptxItem where
  proc
    | .l3mux => t.l3mux
    | .hca => t.hca
    | .ici => t.ici
    | .iae => t.iae
    | .mai => t.mai
    | .arp => t.arp
    | .l2mux => t.l2mux
  chan
    | .siL3MUXData => t.siL3MUXData
    | .ssHCaToICiData => t.ssHCaToICiData
    | .ssHCaToICiCsum => t.ssHCaToICiCsum
    | .ssICiToIAeData => t.ssICiToIAeData
    | .ssIAeToMAiData => t.ssIAeToMAiData
    | .soARPLookupReq => t.soARPLookupReq
    | .siARPLookupRep => t.siARPLookupRep
    | .soL2MUXData => t.soL2MUXData

/-- There is a run from one state to another. -/
@[reducible] def IptxReaches (e : IptxEnv) (t u : Ipt) : Prop :=
  (iptx e).machine.Reaches t.state u.state

variable {e : IptxEnv} {t u : Ipt} {c : AxisRaw} {cs : List AxisRaw}

/-- A step of a process, by what it does with the registers and the streams. -/
lemma iptx_step (p : IptxProc) {a : Action IptxChan IptxItem (IptxReg p)}
    (ha : iptxAction e p (t.state.proc p) = some a) (hready : (iptx e).Ready t.state a)
    (hproc : ∀ q, ((iptx e).fire t.state p a).proc q = u.state.proc q)
    (hchan : ∀ c, ((iptx e).fire t.state p a).chan c = u.state.chan c) : IptxReaches e t u :=
  Network.reaches_of_fire ha hready hproc hchan

/-! ### The environment -/

lemma l3mux_chunk (hc : t.l3mux = c :: cs) (hroom : t.siL3MUXData.length < e.siL3MUXData) :
    IptxReaches e t { t with l3mux := cs, siL3MUXData := t.siL3MUXData ++ [c] } := by
  have ha : iptxAction e .l3mux (t.state.proc .l3mux) =
      Action.source IptxChan.siL3MUXData t.l3mux := rfl
  rw [hc, Action.source] at ha
  refine iptx_step .l3mux ha ⟨by simp, by simp [Ipt.state, iptx, IptxEnv.depth, hroom]⟩
    (fun q => ?_) (fun c => ?_)
  · cases q <;> rfl
  · cases c <;> simp [Network.chan_fire, Ipt.state, iptx, iptxWriter, Action.write]

lemma arp_reply {a : Ip4Addr} {as : List Ip4Addr} (ha : t.soARPLookupReq = a :: as)
    (hroom : t.siARPLookupRep.length < e.siARPLookupRep) :
    IptxReaches e t
      { t with
        arp := t.arp + 1
        soARPLookupReq := as
        siARPLookupRep := t.siARPLookupRep ++ [e.lookup t.arp a] } := by
  refine iptx_step .arp rfl ⟨by simp [Ipt.state, arpAnswer, ha],
    by simp [Ipt.state, iptx, IptxEnv.depth, arpAnswer, hroom]⟩ (fun q => ?_) (fun c => ?_)
  · cases q with
    | arp => simp [Network.proc_fire, Ipt.state, arpAnswer]
    | _ => rfl
  · cases c <;>
      simp [Network.chan_fire, Network.heads, Ipt.state, iptx, iptxWriter, arpAnswer, Action.write,
        ha]

lemma l2mux_chunk (hc : t.soL2MUXData = c :: cs) :
    IptxReaches e t { t with l2mux := t.l2mux ++ [c], soL2MUXData := cs } := by
  refine iptx_step .l2mux rfl ⟨by simp [Ipt.state, Action.sink, hc], by simp [Action.sink]⟩
    (fun q => ?_) (fun c => ?_)
  · cases q with
    | l2mux => simp [Network.proc_fire, Network.heads, Ipt.state, Action.sink, hc]
    | _ => rfl
  · cases c <;> simp [Network.chan_fire, Ipt.state, iptx, iptxWriter, Action.sink, hc]

/-! ### `pHeaderChecksumAccumulator` -/

lemma hca_chunk (hcsum : t.hca.hcaCsumWritten = true) (hc : t.siL3MUXData = c :: cs)
    (hroom : t.ssHCaToICiData.length < 1024) :
    IptxReaches e t
      { t with
        hca := hcaChunk t.hca c
        siL3MUXData := cs
        ssHCaToICiData := t.ssHCaToICiData ++ [c] } := by
  have ha : iptxAction e .hca (t.state.proc .hca) = some (pHeaderChecksumAccumulator t.hca) := rfl
  rw [pHeaderChecksumAccumulator, hcsum, if_pos rfl] at ha
  refine iptx_step .hca ha ⟨by simp [Ipt.state, hc],
    by simp [Ipt.state, iptx, IptxEnv.depth, hroom]⟩ (fun q => ?_) (fun c => ?_)
  · cases q with
    | hca => simp [Network.proc_fire, Network.heads, Ipt.state, hc]
    | _ => rfl
  · cases c <;>
      simp [Network.chan_fire, Network.heads, Ipt.state, iptx, iptxWriter, Action.write, hc]

/-- A step of the last additions. -/
lemma hca_sum (hcsum : t.hca.hcaCsumWritten = false) (hroom : t.ssHCaToICiCsum.length < 16) :
    IptxReaches e t
      { t with
        hca := (hcaSum t.hca).1
        ssHCaToICiCsum := t.ssHCaToICiCsum ++ (hcaSum t.hca).2 } := by
  have ha : iptxAction e .hca (t.state.proc .hca) = some (pHeaderChecksumAccumulator t.hca) := rfl
  rw [pHeaderChecksumAccumulator, hcsum, if_neg Bool.false_ne_true] at ha
  refine iptx_step .hca ha ⟨by simp, ?_⟩ (fun q => ?_) (fun c => ?_)
  · dsimp only
    split <;> simp [Ipt.state, iptx, IptxEnv.depth, hroom]
  · cases q with
    | hca => simp [Network.proc_fire, Ipt.state]
    | _ => rfl
  · cases c <;> simp [Network.chan_fire, Ipt.state, iptx, iptxWriter]

/-! ### `pIpChecksumInsert` -/

/-- The chunk before the checksum, and the ones behind it. -/
lemma ici_chunk (hfsm : t.ici ≠ .s1) (hc : t.ssHCaToICiData = c :: cs)
    (hroom : t.ssICiToIAeData.length < 16) :
    IptxReaches e t
      { t with
        ici := if c.tlast then .s0 else if t.ici = .s0 then .s1 else .s2
        ssHCaToICiData := cs
        ssICiToIAeData := t.ssICiToIAeData ++ [c] } := by
  have ha : iptxAction e .ici (t.state.proc .ici) = some (pIpChecksumInsert t.ici) := rfl
  cases hici : t.ici with
  | s1 => exact absurd hici hfsm
  | s0 | s2 =>
      rw [hici, pIpChecksumInsert] at ha
      refine iptx_step .ici ha ⟨by simp [Ipt.state, hc],
        by simp [Ipt.state, iptx, IptxEnv.depth, hroom]⟩ (fun q => ?_) (fun c => ?_)
      · cases q with
        | ici => simp [Network.proc_fire, Network.heads, Ipt.state, hc]
        | _ => rfl
      · cases c <;>
          simp [Network.chan_fire, Network.heads, Ipt.state, iptx, iptxWriter, Action.write, hc]

/-- The chunk with the checksum. -/
lemma ici_csum {csum : Ip4HdrCsum} {csums : List Ip4HdrCsum} (hfsm : t.ici = .s1)
    (hc : t.ssHCaToICiData = c :: cs) (hcsum : t.ssHCaToICiCsum = csum :: csums)
    (hroom : t.ssICiToIAeData.length < 16) :
    IptxReaches e t
      { t with
        ici := if c.tlast then .s0 else .s2
        ssHCaToICiData := cs
        ssHCaToICiCsum := csums
        ssICiToIAeData := t.ssICiToIAeData ++ [setIp4HdrCsum c csum] } := by
  have ha : iptxAction e .ici (t.state.proc .ici) = some (pIpChecksumInsert t.ici) := rfl
  rw [hfsm, pIpChecksumInsert] at ha
  refine iptx_step .ici ha ⟨by simp [Ipt.state, hc, hcsum],
    by simp [Ipt.state, iptx, IptxEnv.depth, hroom]⟩ (fun q => ?_) (fun c => ?_)
  · cases q with
    | ici => simp [Network.proc_fire, Network.heads, Ipt.state, hc]
    | _ => rfl
  · cases c <;>
      simp [Network.chan_fire, Network.heads, Ipt.state, iptx, iptxWriter, Action.write, hc, hcsum]

/-! ### `pIp4AddressExtractor` -/

lemma iae_chunk (hcount : t.iae ≠ 2) (hc : t.ssICiToIAeData = c :: cs)
    (hroom : t.ssIAeToMAiData.length < 16) :
    IptxReaches e t
      { t with
        iae := iaeNext t.iae c
        ssICiToIAeData := cs
        ssIAeToMAiData := t.ssIAeToMAiData ++ [c] } := by
  have ha : iptxAction e .iae (t.state.proc .iae) =
      some (pIp4AddressExtractor e.subNetMask e.gatewayAddr t.iae) := rfl
  rw [pIp4AddressExtractor, if_neg hcount] at ha
  refine iptx_step .iae ha ⟨by simp [Ipt.state, hc],
    by simp [Ipt.state, iptx, IptxEnv.depth, hroom]⟩ (fun q => ?_) (fun c => ?_)
  · cases q with
    | iae => simp [Network.proc_fire, Network.heads, Ipt.state, hc]
    | _ => rfl
  · cases c <;>
      simp [Network.chan_fire, Network.heads, Ipt.state, iptx, iptxWriter, hc, hcount]

/-- The chunk with the destination. -/
lemma iae_lookup (hcount : t.iae = 2) (hc : t.ssICiToIAeData = c :: cs)
    (hroom : t.ssIAeToMAiData.length < 16) (hreq : t.soARPLookupReq.length < e.soARPLookupReq) :
    IptxReaches e t
      { t with
        iae := 3
        ssICiToIAeData := cs
        ssIAeToMAiData := t.ssIAeToMAiData ++ [c]
        soARPLookupReq := t.soARPLookupReq ++
          [lookupAddr e.subNetMask e.gatewayAddr (getIp4DstAddr c)] } := by
  have ha : iptxAction e .iae (t.state.proc .iae) =
      some (pIp4AddressExtractor e.subNetMask e.gatewayAddr t.iae) := rfl
  rw [pIp4AddressExtractor, hcount] at ha
  refine iptx_step .iae ha ⟨by simp [Ipt.state, hc],
    by simp [Ipt.state, iptx, IptxEnv.depth, hroom, hreq]⟩ (fun q => ?_) (fun c => ?_)
  · cases q with
    | iae => simp [Network.proc_fire, Ipt.state, iaeNext]
    | _ => rfl
  · cases c <;> simp [Network.chan_fire, Network.heads, Ipt.state, iptx, iptxWriter, hc]

/-! ### `pMacAddressInserter` -/

/-- A reply. -/
lemma mai_lookup {r : ArpLkpReply} {rs : List ArpLkpReply} (hfsm : t.mai.maiFsmState = .waitLookup)
    (hr : t.siARPLookupRep = r :: rs) (hroom : t.soL2MUXData.length < e.soL2MUXData) :
    IptxReaches e t
      { t with
        mai := { t.mai with maiFsmState := if r.hit then .writeFirst else .drop }
        siARPLookupRep := rs
        soL2MUXData := t.soL2MUXData ++
          if r.hit then [firstEthChunk e.macAddress r.macAddress] else [] } := by
  have ha : iptxAction e .mai (t.state.proc .mai) =
      some (pMacAddressInserter e.macAddress t.mai) := rfl
  rw [pMacAddressInserter, hfsm] at ha
  refine iptx_step .mai ha ⟨by simp [Ipt.state, hr],
    by simp [Ipt.state, iptx, IptxEnv.depth, hroom]⟩ (fun q => ?_) (fun c => ?_)
  · cases q with
    | mai => cases hhit : r.hit <;> simp [Network.proc_fire, Network.heads, Ipt.state, hr, hhit]
    | _ => rfl
  · cases c <;> cases hhit : r.hit <;>
      simp [Network.chan_fire, Network.heads, Ipt.state, iptx, iptxWriter, Action.write, hr, hhit]

/-- The first chunk of a packet. -/
lemma mai_first (hfsm : t.mai.maiFsmState = .writeFirst) (hc : t.ssIAeToMAiData = c :: cs)
    (hroom : t.soL2MUXData.length < e.soL2MUXData) :
    IptxReaches e t
      { t with
        mai := { maiPrevChunk := c, maiFsmState := .write }
        ssIAeToMAiData := cs
        soL2MUXData := t.soL2MUXData ++ [secondEthChunk e.macAddress c] } := by
  have ha : iptxAction e .mai (t.state.proc .mai) =
      some (pMacAddressInserter e.macAddress t.mai) := rfl
  rw [pMacAddressInserter, hfsm] at ha
  refine iptx_step .mai ha ⟨by simp [Ipt.state, hc],
    by simp [Ipt.state, iptx, IptxEnv.depth, hroom]⟩ (fun q => ?_) (fun c => ?_)
  · cases q with
    | mai => simp [Network.proc_fire, Network.heads, Ipt.state, hc]
    | _ => rfl
  · cases c <;>
      simp [Network.chan_fire, Network.heads, Ipt.state, iptx, iptxWriter, Action.write, hc]

/-- The next chunk of a packet. -/
lemma mai_write (hfsm : t.mai.maiFsmState = .write) (hc : t.ssIAeToMAiData = c :: cs)
    (hroom : t.soL2MUXData.length < e.soL2MUXData) :
    IptxReaches e t
      { t with
        mai :=
          { maiPrevChunk := c
            maiFsmState :=
              if c.tlast then if fits 6 c then .waitLookup else .writeLast else .write }
        ssIAeToMAiData := cs
        soL2MUXData := t.soL2MUXData ++ [joinRest 6 t.mai.maiPrevChunk c] } := by
  have ha : iptxAction e .mai (t.state.proc .mai) =
      some (pMacAddressInserter e.macAddress t.mai) := rfl
  rw [pMacAddressInserter, hfsm] at ha
  refine iptx_step .mai ha ⟨by simp [Ipt.state, hc],
    by simp [Ipt.state, iptx, IptxEnv.depth, hroom]⟩ (fun q => ?_) (fun c => ?_)
  · cases q with
    | mai => simp [Network.proc_fire, Network.heads, Ipt.state, hc]
    | _ => rfl
  · cases c <;>
      simp [Network.chan_fire, Network.heads, Ipt.state, iptx, iptxWriter, Action.write, hc]

lemma mai_last (hfsm : t.mai.maiFsmState = .writeLast)
    (hroom : t.soL2MUXData.length < e.soL2MUXData) :
    IptxReaches e t
      { t with
        mai := { t.mai with maiFsmState := .waitLookup }
        soL2MUXData := t.soL2MUXData ++ [restChunk 6 t.mai.maiPrevChunk] } := by
  have ha : iptxAction e .mai (t.state.proc .mai) =
      some (pMacAddressInserter e.macAddress t.mai) := rfl
  rw [pMacAddressInserter, hfsm] at ha
  refine iptx_step .mai ha ⟨by simp, by simp [Ipt.state, iptx, IptxEnv.depth, hroom]⟩
    (fun q => ?_) (fun c => ?_)
  · cases q with
    | mai => simp [Network.proc_fire, Ipt.state]
    | _ => rfl
  · cases c <;> simp [Network.chan_fire, Ipt.state, iptx, iptxWriter, Action.write]

/-- A chunk is dropped. -/
lemma mai_drop (hfsm : t.mai.maiFsmState = .drop) (hc : t.ssIAeToMAiData = c :: cs)
    (hroom : t.soL2MUXData.length < e.soL2MUXData) :
    IptxReaches e t
      { t with
        mai := { t.mai with maiFsmState := if c.tlast then .waitLookup else .drop }
        ssIAeToMAiData := cs } := by
  have ha : iptxAction e .mai (t.state.proc .mai) =
      some (pMacAddressInserter e.macAddress t.mai) := rfl
  rw [pMacAddressInserter, hfsm] at ha
  refine iptx_step .mai ha ⟨by simp [Ipt.state, hc],
    by simp [Ipt.state, iptx, IptxEnv.depth, hroom]⟩ (fun q => ?_) (fun c => ?_)
  · cases q with
    | mai => simp [Network.proc_fire, Network.heads, Ipt.state, hc]
    | _ => rfl
  · cases c <;> simp [Network.chan_fire, Ipt.state, iptx, iptxWriter, hc]

end CloudFpga.Iptx
