import CloudFpga.Foundation.Frame
import CloudFpga.Nal.Types

/-!
The packets that the ROLE sends over UDP, `pUdpTX` of `uss.cpp`.

* `UdpTx`: the registers and the streams of the process.
* `pUdpTX`: one call.
* `Closes`: with which chunk the process ends a packet.
-/

namespace CloudFpga.Nal

open Foundation

/-- The states of `pUdpTX` and `pUdpRx`. -/
inductive FsmStateUdp where
  | reset | w8ForMeta | w8ForReqs | firstAcc | acc | dropPacket
  deriving DecidableEq, Repr

/-- A packet with its socket pair and its announced length. -/
abbrev UdpPacket := Frame (UdpAppMeta × UdpAppDLen) AxisRaw

/-- The registers and streams. No step reads `packets`, the packets that were forwarded. -/
structure UdpTx where
  fsmStateTXUdp : FsmStateUdp := .reset
  cachedNodeidUdpTx : NodeId := unusedSessionEntryValue.setWidth 8
  cachedIp4addrUdpTx : Ip4Addr := 0
  cacheInit : Bool := false
  udpTXPacketLength : UdpAppDLen := 0
  udpTXCurrentPacketLength : UdpAppDLen := 0
  dstIpAddr : Ip4Addr := 0
  dstRank : NodeId := 0
  txMeta : UdpAppMeta := {}
  events : EventPorts 6 := {}
  siUdpData : List NetworkWord := []
  siUdpMeta : List NetworkMeta := []
  soUOEData : List AxisRaw := []
  soUOEMeta : List UdpAppMeta := []
  soUOEDLen : List UdpAppDLen := []
  sGetIpReq : List NodeId := []
  sGetIpRep : List Ip4Addr := []
  cacheInvalSig : List Bool := []
  packets : List UdpPacket := []

/-- The inputs of a call, and which of the output streams have room. -/
structure UdpTxCall where
  ipAddrBE : Ip4Addr := 0
  getIpReqRoom : Bool := true
  uoeDataRoom : Bool := true
  uoeMetaRoom : Bool := true
  uoeDLenRoom : Bool := true
  eventRoom : Bool := true
  deriving DecidableEq

section Process

variable (s : UdpTx) (k : UdpTxCall)

/-- The port that is used for port zero. -/
def portOrDefault (port : TcpPort) : TcpPort := if port = 0 then defaultRxPort else port

/-- `FSM_W8FORMETA`: the meta-data of a packet. -/
def udpTxMeta (udpMetaIn : NetworkMeta) (metas : List NetworkMeta) : UdpTx :=
  let s : UdpTx :=
    { s with
      siUdpMeta := metas
      udpTXPacketLength := udpMetaIn.len
      udpTXCurrentPacketLength := 0
      dstRank := udpMetaIn.dstRank }
  if maxCfNodeId < udpMetaIn.dstRank.toNat then
    { s with events := s.events.notify 0 .nidMissTx 1, fsmStateTXUdp := .dropPacket }
  else
    let s : UdpTx :=
      { s with
        events := if udpMetaIn.dstPort = 0 then s.events.notify 3 .pcorTx 1 else s.events
        txMeta :=
          { ip4SrcAddr := k.ipAddrBE
            udpSrcPort := portOrDefault udpMetaIn.srcPort
            ip4DstAddr := 0
            udpDstPort := portOrDefault udpMetaIn.dstPort } }
    if s.cacheInit = true ∧ s.cachedNodeidUdpTx = s.dstRank then
      { s with dstIpAddr := s.cachedIp4addrUdpTx, fsmStateTXUdp := .firstAcc }
    else { s with sGetIpReq := s.sGetIpReq ++ [s.dstRank], fsmStateTXUdp := .w8ForReqs }

/-- `FSM_W8FORMETA`: an invalidation of the cache comes first. -/
def udpTxW8ForMeta : UdpTx :=
  match s.cacheInvalSig with
  | sig :: sigs =>
      if sig then
        { s with
          cacheInvalSig := sigs
          cacheInit := false
          cachedNodeidUdpTx := unusedSessionEntryValue.setWidth 8
          cachedIp4addrUdpTx := 0 }
      else { s with cacheInvalSig := sigs }
  | [] =>
      match s.siUdpMeta with
      | udpMetaIn :: metas => if k.getIpReqRoom then udpTxMeta s k udpMetaIn metas else s
      | [] => s

/-- `FSM_W8FORREQS`. -/
def udpTxW8ForReqs : UdpTx :=
  match s.sGetIpRep with
  | ip :: reps =>
      { s with
        sGetIpRep := reps
        dstIpAddr := ip
        cachedNodeidUdpTx := s.dstRank
        cachedIp4addrUdpTx := ip
        cacheInit := true
        fsmStateTXUdp := .firstAcc }
  | [] => s

/-- `FSM_FIRST_ACC`: a packet to an unknown address is dropped; otherwise its socket pair and its
length are forwarded. -/
def udpTxFirstAcc : UdpTx :=
  if s.dstIpAddr = 0 then
    { s with events := s.events.notify 1 .nidMissTx 1, fsmStateTXUdp := .dropPacket }
  else
    let txMeta := { s.txMeta with ip4DstAddr := s.dstIpAddr }
    { s with
      events := ((s.events.notify 2 .lastTxNid (s.dstRank.setWidth 32)).notify 4 .lastTxPort
        (s.txMeta.udpDstPort.setWidth 32)).notify 5 .packetTx 1
      txMeta := txMeta
      soUOEMeta := s.soUOEMeta ++ [txMeta]
      soUOEDLen := s.soUOEDLen ++ [s.udpTXPacketLength]
      packets := Frame.start s.packets (txMeta, s.udpTXPacketLength)
      fsmStateTXUdp := .acc }

/-- The chunk ends the packet: by `tlast`, or because the announced length is reached. -/
def Closes (c : NetworkWord) : Bool :=
  decide (0 < s.udpTXPacketLength.toNat ∧
    s.udpTXPacketLength.toNat ≤ (s.udpTXCurrentPacketLength + extractByteCnt c).toNat) || c.tlast

/-- `FSM_ACC`: one chunk is forwarded, with `tlast` if it ends the packet. -/
def udpTxAcc (c : NetworkWord) (data : List NetworkWord) : UdpTx :=
  let aWord : AxisRaw := { c with tlast := Closes s c }
  { s with
    siUdpData := data
    udpTXCurrentPacketLength := s.udpTXCurrentPacketLength + extractByteCnt c
    soUOEData := s.soUOEData ++ [aWord]
    packets := Frame.push s.packets aWord
    fsmStateTXUdp := if Closes s c then .w8ForMeta else .acc }

/-- `FSM_DROP_PACKET`. -/
def udpTxDropPacket (c : NetworkWord) (data : List NetworkWord) : UdpTx :=
  { s with
    siUdpData := data
    udpTXCurrentPacketLength := s.udpTXCurrentPacketLength + extractByteCnt c
    fsmStateTXUdp := if Closes s c then .w8ForMeta else .dropPacket }

def udpTxFsm : UdpTx :=
  match s.fsmStateTXUdp with
  | .reset =>
      { s with
        fsmStateTXUdp := .w8ForMeta
        udpTXPacketLength := 0
        udpTXCurrentPacketLength := 0
        cacheInit := false }
  | .w8ForMeta => udpTxW8ForMeta s k
  | .w8ForReqs => udpTxW8ForReqs s
  | .firstAcc => if k.uoeMetaRoom && k.uoeDLenRoom then udpTxFirstAcc s else s
  | .acc =>
      match s.siUdpData with
      | c :: data => if k.uoeDataRoom then udpTxAcc s c data else s
      | [] => s
  | .dropPacket =>
      match s.siUdpData with
      | c :: data => udpTxDropPacket s c data
      | [] => s

/-- One call. -/
def pUdpTX : UdpTx :=
  let s := udpTxFsm s k
  { s with events := s.events.forward k.eventRoom }

end Process

/-! ### What a call does to the packets -/

/-- A call that neither begins a packet nor forwards a chunk. -/
structure UdpTxQuiet (s t : UdpTx) : Prop where
  soUOEData : t.soUOEData = s.soUOEData
  soUOEMeta : t.soUOEMeta = s.soUOEMeta
  soUOEDLen : t.soUOEDLen = s.soUOEDLen
  packets : t.packets = s.packets
  acc : t.fsmStateTXUdp = .acc ↔ s.fsmStateTXUdp = .acc
  length : s.fsmStateTXUdp = .acc → t.udpTXPacketLength = s.udpTXPacketLength

lemma UdpTxQuiet.refl (s : UdpTx) : UdpTxQuiet s s := ⟨rfl, rfl, rfl, rfl, Iff.rfl, fun _ => rfl⟩

/-- A step from a state other than `FSM_ACC` to such a state, without output. -/
lemma UdpTxQuiet.of_ne {s t : UdpTx} (hs : s.fsmStateTXUdp ≠ .acc) (ht : t.fsmStateTXUdp ≠ .acc)
    (hdata : t.soUOEData = s.soUOEData) (hmeta : t.soUOEMeta = s.soUOEMeta)
    (hlen : t.soUOEDLen = s.soUOEDLen) (hpackets : t.packets = s.packets) : UdpTxQuiet s t :=
  ⟨hdata, hmeta, hlen, hpackets, iff_of_false ht hs, fun h => absurd h hs⟩

/-- A packet begins. -/
structure UdpTxBegins (s t : UdpTx) : Prop where
  before : s.fsmStateTXUdp = .firstAcc
  soUOEData : t.soUOEData = s.soUOEData
  soUOEMeta : t.soUOEMeta = s.soUOEMeta ++ [t.txMeta]
  soUOEDLen : t.soUOEDLen = s.soUOEDLen ++ [s.udpTXPacketLength]
  packets : t.packets = Frame.start s.packets (t.txMeta, s.udpTXPacketLength)
  after : t.fsmStateTXUdp = .acc
  length : t.udpTXPacketLength = s.udpTXPacketLength

section Cases

variable (s : UdpTx) (k : UdpTxCall)

lemma udpTxMeta_quiet (h : s.fsmStateTXUdp = .w8ForMeta) (m : NetworkMeta)
    (ms : List NetworkMeta) : UdpTxQuiet s (udpTxMeta s k m ms) := by
  have hs : s.fsmStateTXUdp ≠ .acc := by
    rw [h]
    nofun
  rw [udpTxMeta]
  dsimp only
  split
  · exact .of_ne hs nofun rfl rfl rfl rfl
  · split
    · exact .of_ne hs nofun rfl rfl rfl rfl
    · exact .of_ne hs nofun rfl rfl rfl rfl

lemma udpTxW8ForMeta_quiet (h : s.fsmStateTXUdp = .w8ForMeta) :
    UdpTxQuiet s (udpTxW8ForMeta s k) := by
  rw [udpTxW8ForMeta]
  cases hsig : s.cacheInvalSig with
  | cons sig sigs =>
      dsimp only
      split
      · exact ⟨rfl, rfl, rfl, rfl, Iff.rfl, fun _ => rfl⟩
      · exact ⟨rfl, rfl, rfl, rfl, Iff.rfl, fun _ => rfl⟩
  | nil =>
      dsimp only
      cases hmeta : s.siUdpMeta with
      | cons m ms =>
          dsimp only
          split
          · exact udpTxMeta_quiet s k h m ms
          · exact .refl s
      | nil => exact .refl s

/-- A call begins a packet, forwards a chunk, or does neither. -/
lemma udpTxFsm_cases :
    UdpTxQuiet s (udpTxFsm s k) ∨ UdpTxBegins s (udpTxFsm s k) ∨
      ∃ c data, s.fsmStateTXUdp = .acc ∧ s.siUdpData = c :: data ∧ k.uoeDataRoom = true ∧
        udpTxFsm s k = udpTxAcc s c data := by
  rw [udpTxFsm]
  cases hst : s.fsmStateTXUdp with
  | reset => exact .inl (.of_ne (by rw [hst]; nofun) nofun rfl rfl rfl rfl)
  | w8ForMeta => exact .inl (udpTxW8ForMeta_quiet s k hst)
  | w8ForReqs =>
      refine .inl ?_
      dsimp only
      rw [udpTxW8ForReqs]
      split
      · exact .of_ne (by rw [hst]; nofun) nofun rfl rfl rfl rfl
      · exact .refl s
  | firstAcc =>
      dsimp only
      split
      · rw [udpTxFirstAcc]
        split
        · exact .inl (.of_ne (by rw [hst]; nofun) nofun rfl rfl rfl rfl)
        · exact .inr (.inl ⟨hst, rfl, rfl, rfl, rfl, rfl, rfl⟩)
      · exact .inl (.refl s)
  | acc =>
      dsimp only
      cases hdata : s.siUdpData with
      | cons c data =>
          dsimp only
          split
          · exact .inr (.inr ⟨c, data, rfl, rfl, ‹_›, rfl⟩)
          · exact .inl (.refl s)
      | nil => exact .inl (.refl s)
  | dropPacket =>
      refine .inl ?_
      dsimp only
      cases hdata : s.siUdpData with
      | cons c data =>
          refine .of_ne (by rw [hst]; nofun) ?_ rfl rfl rfl rfl
          simp only [udpTxDropPacket]
          split
          · nofun
          · nofun
      | nil => exact .refl s

end Cases

end CloudFpga.Nal
