import CloudFpga.Foundation.Frame
import CloudFpga.Nal.Tss.Connect

/-!
The packets that the FMC and the ROLE send over TCP, `pTcpWRp` of `tss.cpp`.

* `TcpWrp`: the registers and the streams of the process, with the packets that were read and the
  pieces they were cut into.
* `pTcpWRp`: one call.
-/

namespace CloudFpga.Nal

open Foundation

inductive WrpFsmStates where
  | reset | waitMeta | w8ForReqs1 | w8ForReqs11 | w8ForReqs2 | w8ForReqs22 | waitConnection
  | streamFmc | streamRole | dropPacket
  deriving DecidableEq, Repr

/-- `NAL_STREAMING_SPLIT_TCP`. -/
def nalStreamingSplitTcp : ℕ := zyc2Mss

/-- A packet with its session, if it has one, and its announced length, zero if it ends with
`tlast`. -/
abbrev WrpPacket := Frame (Option SessionId × NetworkDataLength) AxisRaw

/-- A piece of a packet, with the session of the packet and the length that was written for it. -/
abbrev WrpPiece := Frame (SessionId × TcpDatLen) AxisRaw

/-- The registers and streams. No step reads `packets`, the packets that were read, nor `pieces` and
`rest`, the pieces they were cut into and what follows the last one. -/
structure TcpWrp where
  wrpFsmState : WrpFsmStates := .reset
  cachedTcpTxSessionId : SessionId := unusedSessionEntryValue
  cachedTcpTxTriple : NalTriple := unusedTableEntryValue
  cachedDstRank : NodeId := invalidMrtValue.setWidth 8
  cachedDstIpAddr : Ip4Addr := 0
  cacheInit : Bool := false
  tcpTXPacketLength : NetworkDataLength := 0
  tcpTXCurrentPacketLength : NetworkDataLength := 0
  tcpSessId : SessionId := 0
  dstRank : NodeId := invalidMrtValue.setWidth 8
  dstIpAddr : Ip4Addr := 0
  srcPort : TcpPort := 0
  dstPort : TcpPort := 0
  newTriple : NalTriple := unusedTableEntryValue
  sessId : SessionId := unusedSessionEntryValue
  streamingMode : Bool := false
  events : EventPorts 10 := {}
  siFMCData : List NetworkWord := []
  siFMCSessId : List SessionId := []
  siTcpData : List NetworkWord := []
  siTcpMeta : List NetworkMeta := []
  sGetIpReq : List NodeId := []
  sGetIpRep : List Ip4Addr := []
  sGetSidReq : List NalTriple := []
  sGetSidRep : List SessionId := []
  sNewTcpConReq : List NalTriple := []
  sNewTcpConRep : List NalNewTcpConRep := []
  cacheInvalSig : List Bool := []
  packets : List WrpPacket := []
  pieces : List WrpPiece := []
  rest : List AxisRaw := []

/-- What a call writes for `pTcpWBu`. -/
structure WrpOut where
  soTOEData : List AxisRaw := []
  soTOESessId : List SessionId := []
  soTOELen : List TcpDatLen := []
  deriving DecidableEq

/-- Whether layer 4 is enabled and the NTS is ready, and which output streams have room. -/
structure WrpCall where
  up : Bool := true
  toeDataRoom : Bool := true
  toeSessIdRoom : Bool := true
  toeLenRoom : Bool := true
  getIpReqRoom : Bool := true
  getSidReqRoom : Bool := true
  newTcpConReqRoom : Bool := true
  eventRoom : Bool := true
  deriving DecidableEq

section Process

variable (s : TcpWrp) (k : WrpCall)

/-- `WRP_RESET`: an item of each input stream is lost as long as the NTS is not ready. -/
def wrpReset : TcpWrp :=
  if k.up then { s with cacheInit := false, wrpFsmState := .waitMeta }
  else
    { s with
      siFMCData := s.siFMCData.tail
      siFMCSessId := s.siFMCSessId.tail
      siTcpData := s.siTcpData.tail
      siTcpMeta := s.siTcpMeta.tail }

/-- The present packet is dropped, with an event. -/
def wrpDrops (i : Fin 10) (type : NalCntIncType) : TcpWrp :=
  { s with
    events := s.events.notify i type 1
    packets := Frame.start s.packets (none, s.tcpTXPacketLength)
    wrpFsmState := .dropPacket }

/-- `WRP_WAIT_META`: a session of the FMC. Its data are sent until `tlast`. -/
def wrpFmcSession (id : SessionId) (ids : List SessionId) : TcpWrp × WrpOut :=
  ({ s with
      siFMCSessId := ids
      tcpSessId := id
      streamingMode := true
      tcpTXCurrentPacketLength := 0
      packets := Frame.start s.packets (some id, 0)
      wrpFsmState := .streamFmc },
    { soTOESessId := [id] })

/-- `WRP_WAIT_META`: the meta-data of a packet of the ROLE. -/
def wrpRoleMeta (outMetaTcp : NetworkMeta) (metas : List NetworkMeta) : TcpWrp :=
  let s : TcpWrp :=
    { s with
      siTcpMeta := metas
      tcpTXPacketLength := outMetaTcp.len
      tcpTXCurrentPacketLength := 0
      dstRank := outMetaTcp.dstRank }
  if maxCfNodeId < s.dstRank.toNat then wrpDrops s 0 .nidMissTx
  else
    let s : TcpWrp :=
      { s with
        srcPort := if outMetaTcp.srcPort = 0 then defaultRxPort else outMetaTcp.srcPort
        dstPort := if outMetaTcp.dstPort = 0 then defaultRxPort else outMetaTcp.dstPort
        events := if outMetaTcp.dstPort = 0 then s.events.notify 2 .pcorTx 1 else s.events }
    if s.cacheInit = true ∧ s.dstRank = s.cachedDstRank then
      { s with dstIpAddr := s.cachedDstIpAddr, wrpFsmState := .w8ForReqs11 }
    else
      { s with
        sGetIpReq := s.sGetIpReq ++ [s.dstRank]
        cacheInit := false
        wrpFsmState := .w8ForReqs1 }

/-- An invalidation of the cache. -/
def wrpInvalidate (sig : Bool) (sigs : List Bool) : TcpWrp :=
  if sig then
    { s with
      cacheInvalSig := sigs
      cachedTcpTxSessionId := unusedSessionEntryValue
      cachedTcpTxTriple := unusedTableEntryValue
      cachedDstRank := invalidMrtValue.setWidth 8
      cachedDstIpAddr := 0
      cacheInit := false }
  else { s with cacheInvalSig := sigs }

/-- `WRP_WAIT_META`: an invalidation comes before the FMC, and the FMC before the ROLE. -/
def wrpWaitMeta : TcpWrp × WrpOut :=
  match s.cacheInvalSig with
  | sig :: sigs => (wrpInvalidate s sig sigs, {})
  | [] =>
      match s.siFMCSessId, k.toeSessIdRoom with
      | id :: ids, true => wrpFmcSession s id ids
      | _, _ =>
          match s.siTcpMeta, k.getIpReqRoom with
          | m :: metas, true => (wrpRoleMeta s m metas, {})
          | _, _ => (s, {})

/-- `WRP_W8FORREQS_1`: the address of the node. -/
def wrpW8ForReqs1 : TcpWrp :=
  match s.sGetIpRep with
  | ip :: reps => { s with sGetIpRep := reps, dstIpAddr := ip, wrpFsmState := .w8ForReqs11 }
  | [] => s

/-- `WRP_W8FORREQS_11`: is there a session? -/
def wrpW8ForReqs11 : TcpWrp :=
  if s.dstIpAddr = 0 then wrpDrops s 1 .nidMissTx
  else
    let s : TcpWrp :=
      { s with
        newTriple := newTriple s.dstIpAddr s.dstPort s.srcPort
        sessId := unusedSessionEntryValue }
    if s.cacheInit = true ∧ s.newTriple = s.cachedTcpTxTriple then
      { s with sessId := s.cachedTcpTxSessionId, wrpFsmState := .w8ForReqs22 }
    else
      { s with
        sGetSidReq := s.sGetSidReq ++ [s.newTriple]
        cacheInit := false
        wrpFsmState := .w8ForReqs2 }

/-- The cache is filled. -/
def wrpFillCache : TcpWrp :=
  { s with
    cachedTcpTxTriple := s.newTriple
    cachedTcpTxSessionId := s.sessId
    cachedDstIpAddr := s.dstIpAddr
    cachedDstRank := s.dstRank
    cacheInit := true }

/-- `WRP_W8FORREQS_2`. -/
def wrpW8ForReqs2 : TcpWrp :=
  match s.sGetSidRep with
  | id :: reps =>
      wrpFillCache { s with sGetSidRep := reps, sessId := id, wrpFsmState := .w8ForReqs22 }
  | [] => s

/-- A packet of the ROLE begins, with the events `i`, `i + 1` and `i + 2`. Without an announced
length the packet is streamed. -/
def wrpRoleSession (i : Fin 10) : TcpWrp × WrpOut :=
  let s : TcpWrp :=
    { s with
      events := ((s.events.notify i .lastTxNid (s.dstRank.setWidth 32)).notify (i + 1) .lastTxPort
        (s.dstPort.setWidth 32)).notify (i + 2) .packetTx 1
      tcpTXCurrentPacketLength := 0
      packets := Frame.start s.packets (some s.sessId, s.tcpTXPacketLength)
      wrpFsmState := .streamRole }
  if s.tcpTXPacketLength = 0 then
    ({ s with streamingMode := true }, { soTOESessId := [s.sessId] })
  else
    ({ s with
        streamingMode := false
        pieces := Frame.start s.pieces (s.sessId, s.tcpTXPacketLength) },
      { soTOESessId := [s.sessId], soTOELen := [s.tcpTXPacketLength] })

/-- `WRP_W8FORREQS_22`: without a session, a connection is requested. -/
def wrpW8ForReqs22 : TcpWrp × WrpOut :=
  if s.sessId = unusedSessionEntryValue then
    ({ s with
        sNewTcpConReq := s.sNewTcpConReq ++ [s.newTriple]
        cacheInit := false
        wrpFsmState := .waitConnection }, {})
  else wrpRoleSession s 3

/-- `WRP_WAIT_CONNECTION`. -/
def wrpConnected (conRep : NalNewTcpConRep) (reps : List NalNewTcpConRep) : TcpWrp × WrpOut :=
  let s : TcpWrp := { s with sNewTcpConRep := reps }
  if conRep.failure then (wrpDrops s 6 .tcpConFail, {})
  else
    let s : TcpWrp := { s with newTriple := conRep.newTriple, sessId := conRep.newSessionId }
    ((wrpFillCache (wrpRoleSession s 7).1), (wrpRoleSession s 7).2)

/-- A chunk without an announced length: where the packet ends, or has become too long for one
segment, its length so far is written. A chunk is forwarded with `tlast` if it ends the packet, or if
`split` says so for what has become too long. -/
def wrpStreams (id : SessionId) (c : NetworkWord) (split : Bool) : TcpWrp × WrpOut :=
  let cnt := s.tcpTXCurrentPacketLength + extractByteCnt c
  let long := !c.tlast && decide (nalStreamingSplitTcp ≤ cnt.toNat)
  let word : AxisRaw := { c with tlast := c.tlast || (long && split) }
  let s : TcpWrp :=
    { s with
      tcpTXCurrentPacketLength := cnt
      packets := Frame.push s.packets c
      wrpFsmState := if c.tlast then .waitMeta else s.wrpFsmState }
  if c.tlast || long then
    ({ s with
        tcpTXCurrentPacketLength := if long then 0 else cnt
        pieces := s.pieces ++ [⟨(id, cnt), s.rest ++ [word]⟩]
        rest := [] },
      { soTOEData := [word], soTOELen := [cnt] })
  else ({ s with rest := s.rest ++ [word] }, { soTOEData := [word] })

/-- The announced length is reached with the chunk. -/
def Reaches (c : NetworkWord) : Bool :=
  decide (s.tcpTXPacketLength ≤ s.tcpTXCurrentPacketLength + extractByteCnt c)

/-- A chunk with an announced length, where the `tlast` of the ROLE is ignored. -/
def wrpCounts (c : NetworkWord) : TcpWrp × WrpOut :=
  let word : AxisRaw := { c with tlast := Reaches s c }
  ({ s with
      tcpTXCurrentPacketLength := s.tcpTXCurrentPacketLength + extractByteCnt c
      packets := Frame.push s.packets c
      pieces := Frame.push s.pieces word
      wrpFsmState := if Reaches s c then .waitMeta else .streamRole },
    { soTOEData := [word] })

/-- `WRP_STREAM_FMC`. -/
def wrpStreamFmc (c : NetworkWord) (data : List NetworkWord) : TcpWrp × WrpOut :=
  wrpStreams { s with siFMCData := data } s.tcpSessId c false

/-- `WRP_STREAM_ROLE`. -/
def wrpStreamRole (c : NetworkWord) (data : List NetworkWord) : TcpWrp × WrpOut :=
  let s : TcpWrp := { s with siTcpData := data }
  if s.streamingMode then wrpStreams s s.sessId c true else wrpCounts s c

/-- `WRP_DROP_PACKET`. -/
def wrpDropPacket (c : NetworkWord) (data : List NetworkWord) : TcpWrp :=
  { s with
    siTcpData := data
    tcpTXCurrentPacketLength := s.tcpTXCurrentPacketLength + extractByteCnt c
    packets := Frame.push s.packets c
    wrpFsmState :=
      if (decide (0 < s.tcpTXPacketLength) && Reaches s c) || c.tlast then .waitMeta
      else .dropPacket }

def wrpFsm : TcpWrp × WrpOut :=
  match s.wrpFsmState with
  | .reset => (wrpReset s k, {})
  | .waitMeta => if k.up then wrpWaitMeta s k else ({ s with wrpFsmState := .reset }, {})
  | .w8ForReqs1 => (wrpW8ForReqs1 s, {})
  | .w8ForReqs11 => (if k.getSidReqRoom then wrpW8ForReqs11 s else s, {})
  | .w8ForReqs2 => (wrpW8ForReqs2 s, {})
  | .w8ForReqs22 =>
      if k.up then
        if k.toeSessIdRoom && k.newTcpConReqRoom && k.toeLenRoom then wrpW8ForReqs22 s else (s, {})
      else ({ s with wrpFsmState := .reset }, {})
  | .waitConnection =>
      if k.up then
        match s.sNewTcpConRep with
        | conRep :: reps =>
            if k.toeSessIdRoom && k.toeLenRoom then wrpConnected s conRep reps else (s, {})
        | [] => (s, {})
      else ({ s with wrpFsmState := .reset }, {})
  | .streamFmc =>
      if k.up then
        match s.siFMCData with
        | c :: data => if k.toeDataRoom && k.toeLenRoom then wrpStreamFmc s c data else (s, {})
        | [] => (s, {})
      else ({ s with wrpFsmState := .reset }, {})
  | .streamRole =>
      if k.up then
        match s.siTcpData with
        | c :: data => if k.toeDataRoom && k.toeLenRoom then wrpStreamRole s c data else (s, {})
        | [] => (s, {})
      else ({ s with wrpFsmState := .reset }, {})
  | .dropPacket =>
      if k.up then
        match s.siTcpData with
        | c :: data => (wrpDropPacket s c data, {})
        | [] => (s, {})
      else ({ s with wrpFsmState := .reset }, {})

/-- One call. -/
def pTcpWRp : TcpWrp × WrpOut :=
  let r := wrpFsm s k
  ({ r.1 with events := r.1.events.forward k.eventRoom }, r.2)

end Process

end CloudFpga.Nal
