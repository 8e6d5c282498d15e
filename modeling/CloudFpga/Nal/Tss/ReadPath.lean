import CloudFpga.Nal.Tss.RxDeq

/-!
The read path from the TOE to the FMC or the ROLE, `tss.cpp`: `pTcpRDp`.

* `RxPath`: the read requests, what the TOE answers, and the FIFOs; the way of a packet from its
  request to the bytes that are returned for it.
* `pTcpRDp`: one call of the process. `rdpRoute` decides where a packet goes.
* `PathPhase`: where the one packet that was requested is on this way.
* `pTcpRDp_phase`: a call that does not drop the packet, nor sends it the wrong way, moves it on.
-/

namespace CloudFpga.Nal

open Foundation AxisRaw

inductive RdpFsmStates where
  | reset | waitMeta | w8ForReqs1 | w8ForReqs2 | filterMeta | streamRole | streamFmc | dropPacket
  deriving DecidableEq, Repr

/-- The registers of the process. -/
structure RdpState where
  fsmState : RdpFsmStates := .reset
  cachedTcpRxTriple : NalTriple := unusedTableEntryValue
  cachedTcpRxSessionId : SessionId := unusedSessionEntryValue
  ownRank : NodeId := 0
  cachedSrcId : NodeId := invalidMrtValue.setWidth 8
  cacheInit : Bool := false
  sessionToFMC : SessionId := 0
  srcId : NodeId := invalidMrtValue.setWidth 8
  tripleIn : NalTriple := unusedTableEntryValue
  remoteAddr : Ip4Addr := 0
  dstPort : TcpPort := 0
  srcPort : TcpPort := 0
  foundInCache : Bool := false
  sessId : SessionId := 0
  currentLength : NetworkDataLength := 0
  fmcTcpBytesCnt : BitVec 32 := 0
  deriving DecidableEq

/-- The process and the streams around it, from the read requests to the TOE on. -/
structure RxPath where
  soTOEDReq : List TcpAppRdReq := []
  sRDpReqNotif : List TcpAppRdReq := []
  siTOESessId : List SessionId := []
  siTOEData : List NetworkWord := []
  rdp : RdpState := {}
  fmc : RxFifo TcpSessId := {}
  role : RxFifo NetworkMeta := {}
  sGetTripleFromSidReq : List SessionId := []
  sGetNidReqTcpRx : List Ip4Addr := []
  deriving DecidableEq

/-- What a call is offered: the levels of the signals, what has arrived, and which outputs are
full. -/
structure RdpCall where
  layer4Enabled : Bool := true
  ntsReady : Bool := true
  layer7Enabled : Bool := true
  roleDecoupled : Bool := false
  cfrmIp4Addr : Ip4Addr
  fmcLsnPort : TcpPort
  cacheInval : Option Bool := none
  configUpdate : Option NalConfigUpdate := none
  reqNotifHere : Bool := true
  tripleRep : Option NalTriple := none
  nidRep : Option NodeId := none
  sessIdHere : Bool := true
  dataHere : Bool := true
  getTripleReqFull : Bool := false
  getNidReqFull : Bool := false
  roleMetaFull : Bool := false
  fmcSessIdFull : Bool := false
  roleDataFull : Bool := false
  fmcDataFull : Bool := false
  deriving DecidableEq, Repr

/-- The transport layer is up. -/
def RdpCall.up (k : RdpCall) : Bool := k.layer4Enabled && k.ntsReady

/-- Where a packet goes. -/
inductive RdpRoute where
  | fmc | role | drop
  deriving DecidableEq, Repr

section Calls

variable (p : RxPath) (k : RdpCall)

/-- The route of the packet of session `controllId`: data that were not expected are dropped, and
so are data for the FMC from another address than that of the CFRM, and data for a ROLE that is
unknown, disabled or decoupled. -/
def rdpRoute (controllId : SessionId) : RdpRoute :=
  if controllId ≠ p.rdp.sessId then .drop
  else if getLocalPortFromTriple p.rdp.tripleIn = k.fmcLsnPort then
    if getRemoteIpAddrFromTriple p.rdp.tripleIn = k.cfrmIp4Addr then .fmc else .drop
  else if p.rdp.srcId.setWidth 32 = invalidMrtValue ∨ ¬k.layer7Enabled ∨ k.roleDecoupled then .drop
  else .role

/-- `RDP_RESET`: as long as the transport layer is down, everything that arrives is dropped. -/
def rdpReset : RxPath :=
  if k.up then
    { p with
      rdp := { p.rdp with
        cacheInit := false
        fmcTcpBytesCnt := 0
        currentLength := 0
        fsmState := .waitMeta } }
  else
    { p with
      sRDpReqNotif := if k.reqNotifHere then p.sRDpReqNotif.tail else p.sRDpReqNotif
      siTOESessId := if k.sessIdHere then p.siTOESessId.tail else p.siTOESessId
      siTOEData := if k.dataHere then p.siTOEData.tail else p.siTOEData }

/-- `RDP_WAIT_META`: changes of the configuration go before requests. -/
def rdpWaitMeta : RxPath :=
  if ¬k.up then { p with rdp := { p.rdp with fsmState := .reset } }
  else
    match k.cacheInval, k.configUpdate, p.sRDpReqNotif with
    | some inval, _, _ =>
        if inval then
          { p with
            rdp := { p.rdp with
              cachedTcpRxSessionId := unusedSessionEntryValue
              cachedTcpRxTriple := unusedTableEntryValue
              cachedSrcId := invalidMrtValue.setWidth 8
              cacheInit := false } }
        else p
    | none, some ca, _ =>
        if ca.configAddr = nalConfigOwnRank then
          { p with
            rdp := { p.rdp with ownRank := ca.updateValue.setWidth 8, cacheInit := false } }
        else p
    | none, none, newReq :: rs =>
        if k.reqNotifHere ∧ ¬k.getTripleReqFull then
          let rdp := { p.rdp with
            sessId := newReq.sessionID
            currentLength := newReq.length
            tripleIn := unusedTableEntryValue
            foundInCache := false }
          if p.rdp.cacheInit ∧ newReq.sessionID = p.rdp.cachedTcpRxSessionId then
            { p with
              sRDpReqNotif := rs
              rdp := { rdp with
                tripleIn := p.rdp.cachedTcpRxTriple
                srcId := p.rdp.cachedSrcId
                foundInCache := true
                fsmState := .filterMeta } }
          else
            { p with
              sRDpReqNotif := rs
              sGetTripleFromSidReq := p.sGetTripleFromSidReq ++ [newReq.sessionID]
              rdp := { rdp with cacheInit := false, fsmState := .w8ForReqs1 } }
        else p
    | none, none, [] => p

/-- `RDP_W8FORREQS_1`. -/
def rdpW8ForReqs1 : RxPath :=
  match k.tripleRep with
  | some triple =>
      if ¬k.getNidReqFull then
        let rdp := { p.rdp with
          tripleIn := triple
          remoteAddr := getRemoteIpAddrFromTriple triple
          dstPort := getLocalPortFromTriple triple }
        if rdp.dstPort ≠ k.fmcLsnPort then
          { p with
            sGetNidReqTcpRx := p.sGetNidReqTcpRx ++ [rdp.remoteAddr]
            rdp := { rdp with fsmState := .w8ForReqs2 } }
        else
          { p with
            rdp := { rdp with
              cacheInit := true
              cachedSrcId := invalidMrtValue.setWidth 8
              cachedTcpRxSessionId := p.rdp.sessId
              cachedTcpRxTriple := triple
              fsmState := .filterMeta } }
      else p
  | none => p

/-- `RDP_W8FORREQS_2`. -/
def rdpW8ForReqs2 : RxPath :=
  match k.nidRep with
  | some nid =>
      { p with
        rdp := { p.rdp with
          srcId := nid
          cacheInit := true
          cachedSrcId := nid
          cachedTcpRxSessionId := p.rdp.sessId
          cachedTcpRxTriple := p.rdp.tripleIn
          fsmState := .filterMeta } }
  | none => p

/-- `RDP_FILTER_META`. -/
def rdpFilterMeta : RxPath :=
  if ¬k.up then { p with rdp := { p.rdp with fsmState := .reset } }
  else
    match p.siTOESessId with
    | controllId :: ids =>
        if k.sessIdHere ∧ ¬k.roleMetaFull ∧ ¬k.fmcSessIdFull then
          let rdp :=
            if controllId ≠ p.rdp.sessId then p.rdp
            else
              { p.rdp with
                dstPort := getLocalPortFromTriple p.rdp.tripleIn
                srcPort := getRemotePortFromTriple p.rdp.tripleIn
                remoteAddr := getRemoteIpAddrFromTriple p.rdp.tripleIn }
          match rdpRoute p k controllId with
          | .fmc =>
              { p with
                siTOESessId := ids
                fmc := { p.fmc with metaBuffer := p.fmc.metaBuffer ++ [p.rdp.sessId] }
                rdp := { rdp with
                  sessionToFMC := p.rdp.sessId
                  fmcTcpBytesCnt := 0
                  fsmState := .streamFmc } }
          | .role =>
              { p with
                siTOESessId := ids
                role := { p.role with
                  metaBuffer := p.role.metaBuffer ++
                    [⟨p.rdp.ownRank, rdp.dstPort, p.rdp.srcId, rdp.srcPort,
                      p.rdp.currentLength⟩] }
                rdp := { rdp with fsmState := .streamRole } }
          | .drop =>
              { p with
                siTOESessId := ids
                rdp := { rdp with cacheInit := false, fsmState := .dropPacket } }
        else p
    | [] => p

/-- `RDP_STREAM_ROLE`. -/
def rdpStreamRole : RxPath :=
  if ¬k.up then { p with rdp := { p.rdp with fsmState := .reset } }
  else
    match p.siTOEData with
    | currWord :: ds =>
        if k.dataHere ∧ ¬k.roleDataFull then
          { p with
            siTOEData := ds
            role := { p.role with dataBuffer := p.role.dataBuffer ++ [currWord] }
            rdp := { p.rdp with
              fsmState := if currWord.tlast then .waitMeta else .streamRole } }
        else p
    | [] => p

/-- `RDP_STREAM_FMC`. -/
def rdpStreamFmc : RxPath :=
  if ¬k.up then { p with rdp := { p.rdp with fsmState := .reset } }
  else
    match p.siTOEData with
    | currWord :: ds =>
        if k.dataHere ∧ ¬k.fmcDataFull then
          { p with
            siTOEData := ds
            fmc := { p.fmc with dataBuffer := p.fmc.dataBuffer ++ [currWord] }
            rdp := { p.rdp with
              fmcTcpBytesCnt := p.rdp.fmcTcpBytesCnt + (extractByteCnt currWord).setWidth 32
              fsmState := if currWord.tlast then .waitMeta else .streamFmc } }
        else p
    | [] => p

/-- `RDP_DROP_PACKET`: nothing is returned for the packet. -/
def rdpDropPacket : RxPath :=
  if ¬k.up then { p with rdp := { p.rdp with fsmState := .reset } }
  else
    match p.siTOEData with
    | currWord :: ds =>
        if k.dataHere then
          if currWord.tlast then
            { p with
              siTOEData := ds
              rdp := { p.rdp with cacheInit := false, fsmState := .waitMeta } }
          else { p with siTOEData := ds }
        else p
    | [] => p

/-- One call of `pTcpRDp`. -/
def pTcpRDp : RxPath :=
  match p.rdp.fsmState with
  | .reset => rdpReset p k
  | .waitMeta => rdpWaitMeta p k
  | .w8ForReqs1 => rdpW8ForReqs1 p k
  | .w8ForReqs2 => rdpW8ForReqs2 p k
  | .filterMeta => rdpFilterMeta p k
  | .streamRole => rdpStreamRole p k
  | .streamFmc => rdpStreamFmc p k
  | .dropPacket => rdpDropPacket p k

/-- The TOE answers a read request with the session and a stream. -/
def toeAnswer (st : List NetworkWord) : RxPath :=
  match p.soTOEDReq with
  | req :: rs =>
      { p with
        soTOEDReq := rs
        siTOESessId := p.siTOESessId ++ [req.sessionID]
        siTOEData := p.siTOEData ++ st }
  | [] => p

end Calls

/-! ### The way of a packet -/

/-- The stream is what was requested. -/
def ToeAnswers (p : RxPath) (st : List NetworkWord) : Prop :=
  ∀ req ∈ p.soTOEDReq.head?, WellFormed st ∧ (streamBytes st).length = req.length.toNat

instance (p : RxPath) (st : List NetworkWord) : Decidable (ToeAnswers p st) :=
  inferInstanceAs (Decidable (∀ req ∈ p.soTOEDReq.head?, _))

/-- The route to the FIFO whose credits were taken. -/
def routeOf (fmc : Bool) : RdpRoute := if fmc then .fmc else .role

/-- The transport layer is up, and a packet whose session is read goes to the FIFO whose credits
were taken. -/
def RdpOk (fmc : Bool) (p : RxPath) (k : RdpCall) : Prop :=
  k.up = true ∧ (p.rdp.fsmState = .filterMeta → ∀ controllId ∈ p.siTOESessId.head?,
    k.sessIdHere ∧ ¬k.roleMetaFull ∧ ¬k.fmcSessIdFull → rdpRoute p k controllId = routeOf fmc)

instance (fmc : Bool) (p : RxPath) (k : RdpCall) : Decidable (RdpOk fmc p k) :=
  decidable_of_iff (k.up = true ∧ (p.rdp.fsmState = .filterMeta →
    p.siTOESessId.head?.all fun controllId =>
      k.sessIdHere ∧ ¬k.roleMetaFull ∧ ¬k.fmcSessIdFull → rdpRoute p k controllId = routeOf fmc))
    (by
      rw [RdpOk]
      cases p.siTOESessId.head? with
      | none => simp
      | some c => simp only [Option.all_some, decide_eq_true_eq, Option.mem_some_iff, forall_eq'])

namespace RxPath

/-- The bytes of packets in a FIFO. -/
def fifoBytes (p : RxPath) (fmc : Bool) : ℕ := if fmc then p.fmc.bytes else p.role.bytes

def FifoEmpty (p : RxPath) (fmc : Bool) : Prop := if fmc then p.fmc.Empty else p.role.Empty

def FifoHas (p : RxPath) (fmc : Bool) (rest : List NetworkWord) : Prop :=
  if fmc then FifoPhase p.fmc rest else FifoPhase p.role rest

/-- The bytes that are requested or on their way to a FIFO, if it is the one for which the last
request was made, and those in it. -/
def bytes (p : RxPath) (last fmc : Bool) : ℕ :=
  (if fmc = last then (p.soTOEDReq.map (·.length.toNat)).sum + (streamBytes p.siTOEData).length
    else 0) + p.fifoBytes fmc

end RxPath

/-- Nothing is requested, and no packet is on its way. -/
structure PathQuiet (p : RxPath) : Prop where
  dReq : p.soTOEDReq = []
  reqNotif : p.sRDpReqNotif = []
  sessId : p.siTOESessId = []
  data : p.siTOEData = []
  rdp : p.rdp.fsmState = .reset ∨ p.rdp.fsmState = .waitMeta
  fifos : ∀ fmc, p.FifoEmpty fmc

/-- The process has not read the request, or has read it and waits for the session. -/
def RdpAsked (p : RxPath) (req : TcpAppRdReq) : Prop :=
  (p.sRDpReqNotif = [req] ∧ (p.rdp.fsmState = .reset ∨ p.rdp.fsmState = .waitMeta)) ∨
    (p.sRDpReqNotif = [] ∧ p.rdp.sessId = req.sessionID ∧
      (p.rdp.fsmState = .w8ForReqs1 ∨ p.rdp.fsmState = .w8ForReqs2 ∨
        p.rdp.fsmState = .filterMeta))

/-- The TOE has not answered the request, or has answered it. -/
def ToeAsked (p : RxPath) (req : TcpAppRdReq) : Prop :=
  (p.soTOEDReq = [req] ∧ p.siTOESessId = [] ∧ p.siTOEData = []) ∨
    (p.soTOEDReq = [] ∧ p.siTOESessId = [req.sessionID] ∧ WellFormed p.siTOEData ∧
      (streamBytes p.siTOEData).length = req.length.toNat)

/-- Where the packet of the one request for a FIFO is: it is requested, or it flows. -/
inductive PathPhase (fmc : Bool) (p : RxPath) : Prop
  | asked {req : TcpAppRdReq} (hrdp : RdpAsked p req) (htoe : ToeAsked p req)
      (hfifos : ∀ d, p.FifoEmpty d) : PathPhase fmc p
  | flows (hdreq : p.soTOEDReq = []) (hnotif : p.sRDpReqNotif = []) (hids : p.siTOESessId = [])
      (hrdp : p.siTOEData = [] ∧ p.rdp.fsmState = .waitMeta ∨
        WellFormed p.siTOEData ∧
          p.rdp.fsmState = if fmc then .streamFmc else .streamRole)
      (hfifo : p.FifoHas fmc p.siTOEData) (hother : p.FifoEmpty !fmc) : PathPhase fmc p

section Steps

variable {p p' : RxPath} {k : RdpCall} {fmc : Bool} {req : TcpAppRdReq} {st : List NetworkWord}

lemma PathQuiet.bytes (h : PathQuiet p) (last d : Bool) : p.bytes last d = 0 := by
  have hd := h.fifos d
  have hfifo : p.fifoBytes d = 0 := by
    cases d with
    | false => exact RxFifo.Empty.bytes hd
    | true => exact RxFifo.Empty.bytes hd
  simp [RxPath.bytes, h.dReq, h.data, hfifo]

/-- What a call keeps as long as it does not read the session. -/
structure SameStreams (p p' : RxPath) : Prop where
  dReq : p'.soTOEDReq = p.soTOEDReq
  sessId : p'.siTOESessId = p.siTOESessId
  data : p'.siTOEData = p.siTOEData
  fmc : p'.fmc = p.fmc
  role : p'.role = p.role

lemma SameStreams.bytes (h : SameStreams p p') (last d : Bool) :
    p'.bytes last d = p.bytes last d := by
  rw [RxPath.bytes, RxPath.bytes, h.dReq, h.data, RxPath.fifoBytes, RxPath.fifoBytes, h.fmc,
    h.role]

/-- While nothing is requested, the process only follows changes of the configuration. -/
lemma rdpWaitMeta_of_nil (hnotif : p.sRDpReqNotif = []) (hst : p.rdp.fsmState = .waitMeta)
    (hup : k.up = true) :
    SameStreams p (rdpWaitMeta p k) ∧ (rdpWaitMeta p k).sRDpReqNotif = [] ∧
      (rdpWaitMeta p k).rdp.fsmState = .waitMeta := by
  rw [rdpWaitMeta, if_neg (by simp [hup])]
  split
  · split
    · exact ⟨⟨rfl, rfl, rfl, rfl, rfl⟩, hnotif, hst⟩
    · exact ⟨⟨rfl, rfl, rfl, rfl, rfl⟩, hnotif, hst⟩
  · split
    · exact ⟨⟨rfl, rfl, rfl, rfl, rfl⟩, hnotif, hst⟩
    · exact ⟨⟨rfl, rfl, rfl, rfl, rfl⟩, hnotif, hst⟩
  · next r rs heq =>
      rw [hnotif] at heq
      cases heq
  · exact ⟨⟨rfl, rfl, rfl, rfl, rfl⟩, hnotif, hst⟩

lemma pTcpRDp_quiet (h : PathQuiet p) (hup : k.up = true) : PathQuiet (pTcpRDp p k) := by
  obtain ⟨hdreq, hnotif, hids, hdata, hrdp, hfifos⟩ := h
  obtain hst | hst := hrdp
  · simp only [pTcpRDp, hst, rdpReset, if_pos hup]
    exact ⟨hdreq, hnotif, hids, hdata, .inr rfl, hfifos⟩
  · simp only [pTcpRDp, hst]
    obtain ⟨⟨hdreq', hids', hdata', hfmc, hrole⟩, hnotif', hst'⟩ :=
      rdpWaitMeta_of_nil hnotif hst hup
    refine ⟨hdreq'.trans hdreq, hnotif', hids'.trans hids, hdata'.trans hdata, .inr hst', ?_⟩
    intro d
    rw [RxPath.FifoEmpty, hfmc, hrole]
    exact hfifos d

lemma SameStreams.asked (h : SameStreams p p') (hrdp : RdpAsked p' req) (htoe : ToeAsked p req)
    (hfifos : ∀ d, p.FifoEmpty d) :
    PathPhase fmc p' ∧ ∀ d, p'.bytes fmc d = p.bytes fmc d := by
  obtain ⟨hdreq, hids, hdata, hfmc, hrole⟩ := h
  refine ⟨.asked hrdp ?_ ?_, ?_⟩
  · rw [ToeAsked, hdreq, hids, hdata]
    exact htoe
  · intro d
    rw [RxPath.FifoEmpty, hfmc, hrole]
    exact hfifos d
  · exact SameStreams.bytes ⟨hdreq, hids, hdata, hfmc, hrole⟩ fmc

/-- The request is read, and the session of its connection is looked up. -/
lemma pTcpRDp_asked (hrdp : RdpAsked p req) (hup : k.up = true)
    (hst : p.rdp.fsmState ≠ .filterMeta) :
    SameStreams p (pTcpRDp p k) ∧ RdpAsked (pTcpRDp p k) req := by
  obtain ⟨hnotif, hfsm | hfsm⟩ | ⟨hnotif, hsess, hfsm | hfsm | hfsm⟩ := hrdp
  · simp only [pTcpRDp, hfsm, rdpReset, if_pos hup]
    exact ⟨⟨rfl, rfl, rfl, rfl, rfl⟩, .inl ⟨hnotif, .inr rfl⟩⟩
  · simp only [pTcpRDp, hfsm]
    rw [rdpWaitMeta, if_neg (by simp [hup])]
    split
    · split
      · exact ⟨⟨rfl, rfl, rfl, rfl, rfl⟩, .inl ⟨hnotif, .inr hfsm⟩⟩
      · exact ⟨⟨rfl, rfl, rfl, rfl, rfl⟩, .inl ⟨hnotif, .inr hfsm⟩⟩
    · split
      · exact ⟨⟨rfl, rfl, rfl, rfl, rfl⟩, .inl ⟨hnotif, .inr hfsm⟩⟩
      · exact ⟨⟨rfl, rfl, rfl, rfl, rfl⟩, .inl ⟨hnotif, .inr hfsm⟩⟩
    · next r rs heq =>
        rw [hnotif] at heq
        cases heq
        split
        · split
          · exact ⟨⟨rfl, rfl, rfl, rfl, rfl⟩, .inr ⟨rfl, rfl, .inr (.inr rfl)⟩⟩
          · exact ⟨⟨rfl, rfl, rfl, rfl, rfl⟩, .inr ⟨rfl, rfl, .inl rfl⟩⟩
        · exact ⟨⟨rfl, rfl, rfl, rfl, rfl⟩, .inl ⟨hnotif, .inr hfsm⟩⟩
    · next heq =>
        rw [hnotif] at heq
        cases heq
  · simp only [pTcpRDp, hfsm, rdpW8ForReqs1]
    split
    · split
      · split
        · exact ⟨⟨rfl, rfl, rfl, rfl, rfl⟩, .inr ⟨hnotif, hsess, .inr (.inl rfl)⟩⟩
        · exact ⟨⟨rfl, rfl, rfl, rfl, rfl⟩, .inr ⟨hnotif, hsess, .inr (.inr rfl)⟩⟩
      · exact ⟨⟨rfl, rfl, rfl, rfl, rfl⟩, .inr ⟨hnotif, hsess, .inl hfsm⟩⟩
    · exact ⟨⟨rfl, rfl, rfl, rfl, rfl⟩, .inr ⟨hnotif, hsess, .inl hfsm⟩⟩
  · simp only [pTcpRDp, hfsm, rdpW8ForReqs2]
    split
    · exact ⟨⟨rfl, rfl, rfl, rfl, rfl⟩, .inr ⟨hnotif, hsess, .inr (.inr rfl)⟩⟩
    · exact ⟨⟨rfl, rfl, rfl, rfl, rfl⟩, .inr ⟨hnotif, hsess, .inr (.inl hfsm)⟩⟩
  · exact absurd hfsm hst

/-- The session is read, and the packet starts to flow. -/
lemma pTcpRDp_filterMeta (hrdp : RdpAsked p req) (htoe : ToeAsked p req)
    (hfifos : ∀ d, p.FifoEmpty d) (hok : RdpOk fmc p k) (hst : p.rdp.fsmState = .filterMeta) :
    PathPhase fmc (pTcpRDp p k) ∧ ∀ d, (pTcpRDp p k).bytes fmc d = p.bytes fmc d := by
  have hsame : SameStreams p p := ⟨rfl, rfl, rfl, rfl, rfl⟩
  have hnotif : p.sRDpReqNotif = [] := by
    obtain ⟨-, hfsm | hfsm⟩ | ⟨hnotif, -, -⟩ := hrdp
    · cases hfsm.symm.trans hst
    · cases hfsm.symm.trans hst
    · exact hnotif
  simp only [pTcpRDp, hst, rdpFilterMeta, hok.1, not_true_eq_false, if_false]
  obtain ⟨hdreq, hids, hdata⟩ | ⟨hdreq, hids, hwf, hlen⟩ := htoe
  · rw [hids]
    exact hsame.asked hrdp (.inl ⟨hdreq, hids, hdata⟩) hfifos
  · rw [hids]
    dsimp only
    split
    · next hk =>
        have hroute := hok.2 hst req.sessionID (by rw [hids]; rfl) hk
        rw [hroute]
        have hfmc : p.fmc.Empty := hfifos true
        have hrole : p.role.Empty := hfifos false
        cases fmc with
        | true =>
            refine ⟨.flows hdreq hnotif rfl (.inr ⟨hwf, rfl⟩) (hfmc.start hwf) hrole, ?_⟩
            intro d
            cases d <;> rfl
        | false =>
            refine ⟨.flows hdreq hnotif rfl (.inr ⟨hwf, rfl⟩) (hrole.start hwf) hfmc, ?_⟩
            intro d
            cases d <;> rfl
    · exact hsame.asked hrdp (.inr ⟨hdreq, hids, hwf, hlen⟩) hfifos

/-- The next chunk of the packet is written into the FIFO. -/
lemma pTcpRDp_stream (hdreq : p.soTOEDReq = []) (hnotif : p.sRDpReqNotif = [])
    (hids : p.siTOESessId = []) (hwf : WellFormed p.siTOEData)
    (hst : p.rdp.fsmState = if fmc then .streamFmc else .streamRole)
    (hfifo : p.FifoHas fmc p.siTOEData) (hother : p.FifoEmpty !fmc) (hup : k.up = true) :
    PathPhase fmc (pTcpRDp p k) ∧ ∀ d, (pTcpRDp p k).bytes fmc d = p.bytes fmc d := by
  cases hdata : p.siTOEData with
  | nil =>
      rw [hdata] at hwf
      exact absurd hwf.isStream id
  | cons c cs =>
      rw [hdata] at hwf hfifo
      have hrest : cs = [] ∧ c.tlast = true ∨ WellFormed cs ∧ c.tlast = false := by
        cases hlast : c.tlast with
        | true => exact .inl ⟨hwf.tail_eq_nil hlast, rfl⟩
        | false => exact .inr ⟨hwf.tail hlast, rfl⟩
      cases fmc with
      | true =>
          have hst' : p.rdp.fsmState = .streamFmc := hst
          simp only [pTcpRDp, hst', rdpStreamFmc, hup, hdata, not_true_eq_false, if_false]
          split
          · have hwrite : FifoPhase { p.fmc with dataBuffer := p.fmc.dataBuffer ++ [c] } cs :=
              FifoPhase.write hfifo
            refine ⟨.flows hdreq hnotif hids ?_ hwrite hother, ?_⟩
            · obtain ⟨rfl, hlast⟩ | ⟨hcs, hlast⟩ := hrest
              · exact .inl ⟨rfl, by simp [hlast]⟩
              · exact .inr ⟨hcs, by simp [hlast]⟩
            · intro d
              cases d with
              | false => rfl
              | true =>
                  simp only [RxPath.bytes, RxPath.fifoBytes, hdata, if_true, bytes_write,
                    streamBytes_cons, List.length_append]
                  omega
          · exact ⟨.flows hdreq hnotif hids (.inr ⟨by rw [hdata]; exact hwf, hst⟩)
              (by rw [hdata]; exact hfifo) hother, fun d => rfl⟩
      | false =>
          have hst' : p.rdp.fsmState = .streamRole := hst
          simp only [pTcpRDp, hst', rdpStreamRole, hup, hdata, not_true_eq_false, if_false]
          split
          · have hwrite : FifoPhase { p.role with dataBuffer := p.role.dataBuffer ++ [c] } cs :=
              FifoPhase.write hfifo
            refine ⟨.flows hdreq hnotif hids ?_ hwrite hother, ?_⟩
            · obtain ⟨rfl, hlast⟩ | ⟨hcs, hlast⟩ := hrest
              · exact .inl ⟨rfl, by simp [hlast]⟩
              · exact .inr ⟨hcs, by simp [hlast]⟩
            · intro d
              cases d with
              | true => rfl
              | false =>
                  simp only [RxPath.bytes, RxPath.fifoBytes, hdata, if_true, bytes_write,
                    streamBytes_cons, List.length_append, Bool.false_eq_true, if_false]
                  omega
          · exact ⟨.flows hdreq hnotif hids (.inr ⟨by rw [hdata]; exact hwf, hst⟩)
              (by rw [hdata]; exact hfifo) hother, fun d => rfl⟩

/-- A call that does not drop the packet, nor sends it the wrong way, moves it on. -/
theorem pTcpRDp_phase (h : PathPhase fmc p) (hok : RdpOk fmc p k) :
    PathPhase fmc (pTcpRDp p k) ∧ ∀ d, (pTcpRDp p k).bytes fmc d = p.bytes fmc d := by
  have hup := hok.1
  cases h with
  | asked hrdp htoe hfifos =>
      by_cases hst : p.rdp.fsmState = .filterMeta
      · exact pTcpRDp_filterMeta hrdp htoe hfifos hok hst
      · obtain ⟨hsame, hrdp'⟩ := pTcpRDp_asked hrdp hup hst
        exact hsame.asked hrdp' htoe hfifos
  | flows hdreq hnotif hids hrdp hfifo hother =>
      obtain ⟨hdata, hst⟩ | ⟨hwf, hst⟩ := hrdp
      · simp only [pTcpRDp, hst]
        obtain ⟨hsame, hnotif', hst'⟩ := rdpWaitMeta_of_nil hnotif hst hup
        refine ⟨.flows (hsame.dReq.trans hdreq) hnotif' (hsame.sessId.trans hids)
          (.inl ⟨hsame.data.trans hdata, hst'⟩) ?_ ?_, hsame.bytes fmc⟩
        · rw [RxPath.FifoHas, hsame.fmc, hsame.role, hsame.data]
          exact hfifo
        · rw [RxPath.FifoEmpty, hsame.fmc, hsame.role]
          exact hother
      · exact pTcpRDp_stream hdreq hnotif hids hwf hst hfifo hother hup

lemma toeAnswer_quiet (h : PathQuiet p) : toeAnswer p st = p := by
  simp only [toeAnswer, h.dReq]

/-- The TOE answers the request. -/
lemma toeAnswer_phase (h : PathPhase fmc p) (hans : ToeAnswers p st) :
    PathPhase fmc (toeAnswer p st) ∧ ∀ d, (toeAnswer p st).bytes fmc d = p.bytes fmc d := by
  have hstay (hdreq : p.soTOEDReq = []) : toeAnswer p st = p := by
    simp only [toeAnswer, hdreq]
  cases h with
  | flows hdreq hnotif hids hrdp hfifo hother =>
      rw [hstay hdreq]
      exact ⟨.flows hdreq hnotif hids hrdp hfifo hother, fun d => rfl⟩
  | asked hrdp htoe hfifos =>
      rename_i req
      obtain ⟨hdreq, hids, hdata⟩ | hdone := htoe
      · obtain ⟨hwf, hlen⟩ := hans req (by rw [hdreq]; rfl)
        have hanswer : toeAnswer p st
            = { p with soTOEDReq := [], siTOESessId := [req.sessionID], siTOEData := st } := by
          simp only [toeAnswer, hdreq, hids, hdata, List.nil_append]
        rw [hanswer]
        refine ⟨.asked hrdp (.inr ⟨rfl, rfl, hwf, hlen⟩) hfifos, ?_⟩
        intro d
        have hold : p.bytes fmc d
            = (if d = fmc then req.length.toNat else 0) + p.fifoBytes d := by
          simp [RxPath.bytes, hdreq, hdata]
        rw [hold, RxPath.bytes]
        simp only [List.map_nil, List.sum_nil, Nat.zero_add, hlen]
        rfl
      · rw [hstay hdone.1]
        exact ⟨.asked hrdp (.inr hdone) hfifos, fun d => rfl⟩

/-- A request is written. -/
lemma PathQuiet.ask (h : PathQuiet p) (fmc : Bool) (req : TcpAppRdReq) :
    PathPhase fmc { p with
        soTOEDReq := p.soTOEDReq ++ [req]
        sRDpReqNotif := p.sRDpReqNotif ++ [req] } ∧
      ∀ d, RxPath.bytes { p with
          soTOEDReq := p.soTOEDReq ++ [req]
          sRDpReqNotif := p.sRDpReqNotif ++ [req] } fmc d
        = if d = fmc then req.length.toNat else 0 := by
  obtain ⟨hdreq, hnotif, hids, hdata, hrdp, hfifos⟩ := h
  refine ⟨.asked (.inl ⟨by rw [hnotif]; rfl, hrdp⟩) (.inl ⟨by rw [hdreq]; rfl, hids, hdata⟩) hfifos,
    fun d => ?_⟩
  have hzero : p.fifoBytes d = 0 := by
    have hd := hfifos d
    cases d with
    | false => exact RxFifo.Empty.bytes hd
    | true => exact RxFifo.Empty.bytes hd
  have hsame : RxPath.fifoBytes { p with
      soTOEDReq := p.soTOEDReq ++ [req]
      sRDpReqNotif := p.sRDpReqNotif ++ [req] } d = p.fifoBytes d := rfl
  rw [RxPath.bytes, hsame, hzero]
  simp [hdreq, hdata]

/-- One call of the process that reads a FIFO. -/
def RxPath.deqFmc (p : RxPath) (k : DeqCall) : RxPath := { p with fmc := pFmcTcpRxDeq p.fmc k }

def RxPath.deqRole (p : RxPath) (layer7Enabled roleDecoupled : Bool) (k : DeqCall) : RxPath :=
  { p with role := pRoleTcpRxDeq layer7Enabled roleDecoupled p.role k }

variable {kd : DeqCall} {l7 dec : Bool}

lemma deqFmc_of_empty (h : p.FifoEmpty true) : p.deqFmc kd = p := by
  have hstay : pFmcTcpRxDeq p.fmc kd = p.fmc := rxDeq_of_empty h
  rw [RxPath.deqFmc, hstay]

lemma deqRole_of_empty (h : p.FifoEmpty false) : p.deqRole l7 dec kd = p := by
  have hstay : pRoleTcpRxDeq l7 dec p.role kd = p.role := rxDeq_of_empty h
  rw [RxPath.deqRole, hstay]

/-- The FMC reads its FIFO. -/
lemma deqFmc_phase (h : PathPhase fmc p) (hlt : p.bytes fmc fmc < 65536) :
    PathPhase fmc (p.deqFmc kd) ∧ ∀ d, (p.deqFmc kd).bytes fmc d = p.bytes fmc d := by
  cases h with
  | asked hrdp htoe hfifos =>
      rw [deqFmc_of_empty (hfifos true)]
      exact ⟨.asked hrdp htoe hfifos, fun d => rfl⟩
  | flows hdreq hnotif hids hrdp hfifo hother =>
      cases fmc with
      | false =>
          rw [deqFmc_of_empty hother]
          exact ⟨.flows hdreq hnotif hids hrdp hfifo hother, fun d => rfl⟩
      | true =>
          have hfmc : p.fmc.bytes < 65536 := by
            rw [RxPath.bytes] at hlt
            have heq : p.fifoBytes true = p.fmc.bytes := rfl
            omega
          obtain ⟨hphase, hbytes⟩ := @rxDeq_phase _ _ _ false kd hfifo hfmc
          refine ⟨.flows hdreq hnotif hids hrdp hphase hother, ?_⟩
          intro d
          cases d with
          | false => rfl
          | true =>
              have heq : (p.deqFmc kd).fifoBytes true = p.fifoBytes true := hbytes
              rw [RxPath.bytes, RxPath.bytes, heq]
              rfl

/-- The ROLE reads its FIFO. -/
lemma deqRole_phase (h : PathPhase fmc p) (hlt : p.bytes fmc fmc < 65536) :
    PathPhase fmc (p.deqRole l7 dec kd) ∧ ∀ d, (p.deqRole l7 dec kd).bytes fmc d = p.bytes fmc d := by
  cases h with
  | asked hrdp htoe hfifos =>
      rw [deqRole_of_empty (hfifos false)]
      exact ⟨.asked hrdp htoe hfifos, fun d => rfl⟩
  | flows hdreq hnotif hids hrdp hfifo hother =>
      cases fmc with
      | true =>
          rw [deqRole_of_empty hother]
          exact ⟨.flows hdreq hnotif hids hrdp hfifo hother, fun d => rfl⟩
      | false =>
          have hrole : p.role.bytes < 65536 := by
            rw [RxPath.bytes] at hlt
            have heq : p.fifoBytes false = p.role.bytes := rfl
            omega
          obtain ⟨hphase, hbytes⟩ := @rxDeq_phase _ _ _ (!l7 && dec) kd hfifo hrole
          refine ⟨.flows hdreq hnotif hids hrdp hphase hother, ?_⟩
          intro d
          cases d with
          | true => rfl
          | false =>
              have heq : (p.deqRole l7 dec kd).fifoBytes false = p.fifoBytes false := hbytes
              rw [RxPath.bytes, RxPath.bytes, heq]
              rfl

/-- The bytes that the reader of a FIFO has returned. -/
def RxPath.sig (p : RxPath) (fmc : Bool) : List PacketLen :=
  if fmc then p.fmc.writeCntSig else p.role.writeCntSig

/-- The first length that was returned is taken. -/
def RxPath.takeSig (p : RxPath) (fmc : Bool) : RxPath :=
  if fmc then { p with fmc := { p.fmc with writeCntSig := p.fmc.writeCntSig.tail } }
  else { p with role := { p.role with writeCntSig := p.role.writeCntSig.tail } }

lemma PathQuiet.sig (h : PathQuiet p) (d : Bool) : p.sig d = [] := by
  have hd := h.fifos d
  cases d with
  | false => exact RxFifo.Empty.sig hd
  | true => exact RxFifo.Empty.sig hd

/-- The length of the packet is taken: it is what was requested, and nothing is on its way. -/
lemma PathPhase.take {n : PacketLen} {ns : List PacketLen} (h : PathPhase fmc p)
    (hsig : p.sig fmc = n :: ns) : n.toNat = p.bytes fmc fmc ∧ PathQuiet (p.takeSig fmc) := by
  cases h with
  | asked hrdp htoe hfifos =>
      have hd := hfifos fmc
      cases fmc with
      | false => cases (RxFifo.Empty.sig hd).symm.trans hsig
      | true => cases (RxFifo.Empty.sig hd).symm.trans hsig
  | flows hdreq hnotif hids hrdp hfifo hother =>
      cases fmc with
      | true =>
          obtain ⟨hdata, hn, hempty⟩ := FifoPhase.take hfifo hsig
          have hst : p.rdp.fsmState = .waitMeta := by
            obtain ⟨-, hst⟩ | ⟨hwf, -⟩ := hrdp
            · exact hst
            · rw [hdata] at hwf
              exact absurd hwf.isStream id
          refine ⟨?_, hdreq, hnotif, hids, hdata, .inr hst, ?_⟩
          · simp [RxPath.bytes, hdreq, hdata, RxPath.fifoBytes, hn]
          · intro d
            cases d with
            | false => exact hother
            | true =>
                have htail : p.fmc.writeCntSig.tail = ns := by
                  rw [show p.fmc.writeCntSig = n :: ns from hsig]
                  rfl
                rw [RxPath.takeSig, if_pos rfl, htail]
                exact hempty
      | false =>
          obtain ⟨hdata, hn, hempty⟩ := FifoPhase.take hfifo hsig
          have hst : p.rdp.fsmState = .waitMeta := by
            obtain ⟨-, hst⟩ | ⟨hwf, -⟩ := hrdp
            · exact hst
            · rw [hdata] at hwf
              exact absurd hwf.isStream id
          refine ⟨?_, hdreq, hnotif, hids, hdata, .inr hst, ?_⟩
          · simp [RxPath.bytes, hdreq, hdata, RxPath.fifoBytes, hn]
          · intro d
            cases d with
            | true => exact hother
            | false =>
                have htail : p.role.writeCntSig.tail = ns := by
                  rw [show p.role.writeCntSig = n :: ns from hsig]
                  rfl
                rw [RxPath.takeSig, if_neg Bool.false_ne_true, htail]
                exact hempty

end Steps

end CloudFpga.Nal
