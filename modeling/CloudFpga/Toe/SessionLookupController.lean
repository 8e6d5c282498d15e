import CloudFpga.Foundation.Clocked
import CloudFpga.Toe.RxEngine.MetaDataHandler

/-!
The session lookup controller, `session_lookup_controller.cpp`, with the content-addressable memory
that holds the sessions (CAM).

* `pSessionIdManager`, `pLookupReplyHandler`, `pUpdateRequestSender`, `pUpdateReplyHandler`,
  `pReverseLookupTable`: one call of each process.
* `camLookup`, `camUpdate`: the CAM is a map that serves the requests of each stream in order.
* `slcNext`: a step of the controller with its surroundings.
* `SLcTagged`: along every run, each tuple that is under way or stored is the one of the connection
  for which it was requested.

A call finds on a stream what the cycle offers of it. The debug counters are left out.
-/

namespace CloudFpga.Toe

open Foundation

/-! ### Types -/

/-- The identifiers that the CAM uses. -/
abbrev RtlSessId := BitVec 14

/-- A socket pair from the view of this node, in little-endian order. -/
structure FourTuple where
  myIp : Ip4Addr
  theirIp : Ip4Addr
  myPort : TcpPort
  theirPort : TcpPort
  deriving DecidableEq, Repr

abbrev SLcFourTuple := FourTuple

inductive LkpSrc where
  | fromRXe | fromTAi
  deriving DecidableEq, Repr

inductive LkpOp where
  | insert | delete
  deriving DecidableEq, Repr

structure CamSessionLookupRequest where
  key : FourTuple
  source : LkpSrc
  deriving DecidableEq, Repr

structure CamSessionLookupReply where
  sessionID : RtlSessId
  source : LkpSrc
  hit : Bool
  deriving DecidableEq, Repr

structure CamSessionUpdateRequest where
  key : FourTuple
  value : RtlSessId
  source : LkpSrc
  op : LkpOp
  deriving DecidableEq, Repr

structure CamSessionUpdateReply where
  sessionID : RtlSessId
  source : LkpSrc
  op : LkpOp
  deriving DecidableEq, Repr

structure SLcQuery where
  tuple : SLcFourTuple
  allowCreation : Bool
  source : LkpSrc
  deriving DecidableEq, Repr

structure SLcReverseLkp where
  key : SessionId
  value : SLcFourTuple
  deriving DecidableEq, Repr

/-- A connection, in network order: the application opens it, or a received segment. -/
structure Connection where
  active : Bool
  my : SockAddr
  their : SockAddr
  deriving DecidableEq, Repr

/-- The tuple of a connection. -/
def Connection.tuple (c : Connection) : SLcFourTuple where
  myIp := byteSwap32 c.my.addr
  theirIp := byteSwap32 c.their.addr
  myPort := byteSwap16 c.my.port
  theirPort := byteSwap16 c.their.port

inductive LrhFsmState where
  | waitForSessLkpReq | waitForCamLkpRep | waitForCamUpdRep
  deriving DecidableEq, Repr

/-- An entry of the arrays of `TOE_MAX_SESSIONS` entries. The index uses the low bits of an
identifier. -/
abbrev SessIdx := Fin toeMaxSessions

def sessIdx {w : ℕ} (id : BitVec w) : SessIdx := ⟨id.toNat % toeMaxSessions, Nat.mod_lt _ (by decide)⟩

/-- The registers of the processes, the streams between them and the CAM. The connection beside a
message or an entry is a history variable: the one for which the message was sent, or the entry
written. -/
structure SLcState where
  simCounter : RtlSessId := 0
  siUrsFreeId : List RtlSessId := []
  siSimFreeList : List RtlSessId := []
  lrhFsmState : LrhFsmState := .waitForSessLkpReq
  ssInsertPipe : List (SLcFourTuple × Connection) := []
  ssLookupPipe : List (SLcQuery × Connection) := []
  siRXeSessLookupReq : List (SessionLookupQuery × Connection) := []
  siTAiSessLookupReq : List SocketPair := []
  soRXeSessLookupRep : List SessionLookupReply := []
  soTAiSessLookupRep : List SessionLookupReply := []
  soCamSessLookupReq : List CamSessionLookupRequest := []
  siCamSessLookupRep : List CamSessionLookupReply := []
  soCamSessUpdateReq : List CamSessionUpdateRequest := []
  siCamSessUpdateRep : List CamSessionUpdateReply := []
  cam : FourTuple → Option RtlSessId
  siLrhInsertSessReq : List CamSessionUpdateRequest := []
  siRltSessDeleteReq : List CamSessionUpdateRequest := []
  siUrhSessUpdateRsp : List CamSessionUpdateReply := []
  rltIsInit : Bool := false
  rltCounter : RtlSessId := 0
  reverseLookupTable : SessIdx → SLcFourTuple × Connection
  tupleValidTable : SessIdx → Bool
  siLrhReverseLkpRsp : List (SLcReverseLkp × Connection) := []
  siSTtSessReleaseCmd : List SessionId := []
  siTXeReverseLkpReq : List SessionId := []
  soTXeReverseLkpRep : List SocketPair := []
  soPRtClosePortCmd : List (TcpPort × Connection) := []

/-- What a cycle offers of a stream. -/
def offered {α : Type*} (b : Bool) (q : List α) : List α := if b then q else []

lemma of_offered_eq_cons {α : Type*} {b : Bool} {q qs : List α} {x : α}
    (h : offered b q = x :: qs) : q = x :: qs := by
  rw [offered] at h
  split at h
  · exact h
  · cases h

/-! ### The processes -/

/-- What the lookup reply handler finds on its streams. -/
structure LrhCycle where
  tai : Bool
  rxe : Bool
  camRep : Bool
  freeList : Bool
  updRsp : Bool
  deriving DecidableEq, Repr

def LrhCycle.free : LrhCycle := ⟨true, true, true, true, true⟩

section Calls

variable (s : SLcState)

/-- One call of `pSessionIdManager`: after a reset the free list is filled. -/
def pSessionIdManager (freeId : Bool) : SLcState :=
  if s.simCounter.toNat < toeMaxSessions then
    { s with
      siSimFreeList := s.siSimFreeList ++ [s.simCounter]
      simCounter := s.simCounter + 1 }
  else
    match offered freeId s.siUrsFreeId with
    | id :: ids => { s with siUrsFreeId := ids, siSimFreeList := s.siSimFreeList ++ [id] }
    | [] => s

/-- A query goes to the CAM. -/
def lrhQuery (q : SLcQuery) (c : Connection) : SLcState :=
  { s with
    soCamSessLookupReq := s.soCamSessLookupReq ++ [⟨q.tuple, q.source⟩]
    ssLookupPipe := s.ssLookupPipe ++ [(q, c)]
    lrhFsmState := .waitForCamLkpRep }

/-- `WAIT_FOR_SESS_LKP_REQ`. -/
def lrhRequest (k : LrhCycle) : SLcState :=
  match offered k.tai s.siTAiSessLookupReq, offered k.rxe s.siRXeSessLookupReq with
  | sockPair :: ps, _ =>
      let toeTuple := leSocketPair sockPair
      lrhQuery { s with siTAiSessLookupReq := ps }
        ⟨⟨toeTuple.src.addr, toeTuple.dst.addr, toeTuple.src.port, toeTuple.dst.port⟩, true, .fromTAi⟩
        ⟨true, sockPair.src, sockPair.dst⟩
  | [], (query, c) :: qs =>
      lrhQuery { s with siRXeSessLookupReq := qs }
        ⟨⟨query.tuple.dst.addr, query.tuple.src.addr, query.tuple.dst.port, query.tuple.src.port⟩,
          query.allowCreation, .fromRXe⟩ c
  | [], [] => s

/-- A reply to the process that asked. -/
def lrhAnswer (source : LkpSrc) (rep : SessionLookupReply) : SLcState :=
  match source with
  | .fromRXe => { s with soRXeSessLookupRep := s.soRXeSessLookupRep ++ [rep] }
  | .fromTAi => { s with soTAiSessLookupRep := s.soTAiSessLookupRep ++ [rep] }

/-- `WAIT_FOR_CAM_LKP_REP`. -/
def lrhLookupReply (k : LrhCycle) : SLcState :=
  match offered k.camRep s.siCamSessLookupRep, s.ssLookupPipe with
  | lupReply :: rs, (slcQuery, c) :: qs =>
      let s := { s with siCamSessLookupRep := rs, ssLookupPipe := qs }
      match offered k.freeList s.siSimFreeList with
      | freeID :: ids =>
          if ¬lupReply.hit ∧ slcQuery.allowCreation then
            { s with
              siSimFreeList := ids
              siLrhInsertSessReq := s.siLrhInsertSessReq ++
                [⟨slcQuery.tuple, freeID, lupReply.source, .insert⟩]
              ssInsertPipe := s.ssInsertPipe ++ [(slcQuery.tuple, c)]
              lrhFsmState := .waitForCamUpdRep }
          else
            { lrhAnswer s lupReply.source ⟨lupReply.sessionID.setWidth 16, lupReply.hit⟩ with
              lrhFsmState := .waitForSessLkpReq }
      | [] =>
          { lrhAnswer s lupReply.source ⟨lupReply.sessionID.setWidth 16, lupReply.hit⟩ with
            lrhFsmState := .waitForSessLkpReq }
  | _, _ => s

/-- `WAIT_FOR_CAM_UPD_REP`. -/
def lrhUpdateReply (k : LrhCycle) : SLcState :=
  match offered k.updRsp s.siUrhSessUpdateRsp, s.ssInsertPipe with
  | insertReply :: rs, (tuple, c) :: ts =>
      let s := { s with siUrhSessUpdateRsp := rs, ssInsertPipe := ts }
      let s := lrhAnswer s insertReply.source ⟨insertReply.sessionID.setWidth 16, true⟩
      { s with
        siLrhReverseLkpRsp := s.siLrhReverseLkpRsp ++ [(⟨insertReply.sessionID.setWidth 16, tuple⟩, c)]
        lrhFsmState := .waitForSessLkpReq }
  | _, _ => s

/-- One call of `pLookupReplyHandler`. -/
def pLookupReplyHandler (k : LrhCycle) : SLcState :=
  match s.lrhFsmState with
  | .waitForSessLkpReq => lrhRequest s k
  | .waitForCamLkpRep => lrhLookupReply s k
  | .waitForCamUpdRep => lrhUpdateReply s k

/-- One call of `pUpdateRequestSender`: a deletion also recycles the identifier. -/
def pUpdateRequestSender (insert delete : Bool) : SLcState :=
  match offered insert s.siLrhInsertSessReq, offered delete s.siRltSessDeleteReq with
  | r :: rs, _ =>
      { s with siLrhInsertSessReq := rs, soCamSessUpdateReq := s.soCamSessUpdateReq ++ [r] }
  | [], r :: rs =>
      { s with
        siRltSessDeleteReq := rs
        soCamSessUpdateReq := s.soCamSessUpdateReq ++ [r]
        siUrsFreeId := s.siUrsFreeId ++ [r.value] }
  | [], [] => s

/-- One call of `pUpdateReplyHandler`. -/
def pUpdateReplyHandler : SLcState :=
  match s.siCamSessUpdateRep with
  | upReply :: rs =>
      let s := { s with siCamSessUpdateRep := rs }
      if upReply.op = .insert then { s with siUrhSessUpdateRsp := s.siUrhSessUpdateRsp ++ [upReply] }
      else s
  | [] => s

/-- The initialisation of the reverse lookup table. -/
def rltInit : SLcState :=
  let s := { s with
    tupleValidTable := Function.update s.tupleValidTable (sessIdx s.rltCounter) false }
  if s.rltCounter.toNat < toeMaxSessions then { s with rltCounter := s.rltCounter + 1 }
  else { s with rltIsInit := true }

/-- The release of a session: the port is given back as the tuple has it, in little-endian
order. -/
def rltRelease (sessionId : SessionId) : SLcState :=
  let i := sessIdx sessionId
  let releaseTuple := s.reverseLookupTable i
  let s' := if s.tupleValidTable i then
      { s with
        soPRtClosePortCmd := s.soPRtClosePortCmd ++ [(releaseTuple.1.myPort, releaseTuple.2)]
        siRltSessDeleteReq := s.siRltSessDeleteReq ++
          [⟨releaseTuple.1, sessionId.setWidth 14, .fromRXe, .delete⟩] }
    else s
  { s' with tupleValidTable := Function.update s'.tupleValidTable i false }

/-- The normal operation of the reverse lookup table. -/
def rltServe (rsp release txe : Bool) : SLcState :=
  match offered rsp s.siLrhReverseLkpRsp, offered release s.siSTtSessReleaseCmd,
      offered txe s.siTXeReverseLkpReq with
  | (insert, c) :: rs, _, _ =>
      { s with
        siLrhReverseLkpRsp := rs
        reverseLookupTable :=
          Function.update s.reverseLookupTable (sessIdx insert.key) (insert.value, c)
        tupleValidTable := Function.update s.tupleValidTable (sessIdx insert.key) true }
  | [], sessionId :: cs, _ => rltRelease { s with siSTtSessReleaseCmd := cs } sessionId
  | [], [], sessionId :: qs =>
      let t := (s.reverseLookupTable (sessIdx sessionId)).1
      { s with
        siTXeReverseLkpReq := qs
        soTXeReverseLkpRep := s.soTXeReverseLkpRep ++
          [⟨⟨t.myIp, t.myPort⟩, ⟨t.theirIp, t.theirPort⟩⟩] }
  | [], [], [] => s

/-- One call of `pReverseLookupTable`. -/
def pReverseLookupTable (rsp release txe : Bool) : SLcState :=
  if ¬s.rltIsInit then rltInit s else rltServe s rsp release txe

/-- The CAM answers a lookup. Without a hit the identifier is anything. -/
def camLookup (miss : RtlSessId) : SLcState :=
  match s.soCamSessLookupReq with
  | r :: rs =>
      { s with
        soCamSessLookupReq := rs
        siCamSessLookupRep := s.siCamSessLookupRep ++
          [⟨(s.cam r.key).getD miss, r.source, (s.cam r.key).isSome⟩] }
  | [] => s

/-- The CAM answers an update. -/
def camUpdate : SLcState :=
  match s.soCamSessUpdateReq with
  | r :: rs =>
      { s with
        soCamSessUpdateReq := rs
        siCamSessUpdateRep := s.siCamSessUpdateRep ++ [⟨r.value, r.source, r.op⟩]
        cam := Function.update s.cam r.key (if r.op = .insert then some r.value else none) }
  | [] => s

end Calls

/-- A step of the controller, of the CAM, or of the processes around them. -/
inductive SLcLabel where
  | sessionIdManager (freeId : Bool)
  | lookupReplyHandler (k : LrhCycle)
  | updateRequestSender (insert delete : Bool)
  | updateReplyHandler
  | reverseLookupTable (rsp release txe : Bool)
  | camLookup (miss : RtlSessId)
  | camUpdate
  /-- the Rx engine looks up the session of a segment that came to an open port -/
  | rxeLookup (m : RXeMeta) (p : SocketPair)
  /-- the application opens a connection -/
  | taiLookup (sockPair : SocketPair)
  /-- the state table releases a session -/
  | release (sessionId : SessionId)
  /-- the Tx engine asks for the socket pair of a session -/
  | txeLookup (sessionId : SessionId)

def slcNext (s : SLcState) : SLcLabel → SLcState
  | .sessionIdManager freeId => pSessionIdManager s freeId
  | .lookupReplyHandler k => pLookupReplyHandler s k
  | .updateRequestSender insert delete => pUpdateRequestSender s insert delete
  | .updateReplyHandler => pUpdateReplyHandler s
  | .reverseLookupTable rsp release txe => pReverseLookupTable s rsp release txe
  | .camLookup miss => camLookup s miss
  | .camUpdate => camUpdate s
  | .rxeLookup m p =>
      { s with siRXeSessLookupReq := s.siRXeSessLookupReq ++
          (mdhOpenPort m p).sessLkpReq.map fun q => (q, ⟨false, p.dst, p.src⟩) }
  | .taiLookup sockPair => { s with siTAiSessLookupReq := s.siTAiSessLookupReq ++ [sockPair] }
  | .release sessionId => { s with siSTtSessReleaseCmd := s.siSTtSessReleaseCmd ++ [sessionId] }
  | .txeLookup sessionId => { s with siTXeReverseLkpReq := s.siTXeReverseLkpReq ++ [sessionId] }

/-- The controller after a reset. The arrays hold anything. -/
structure SLcReset (s : SLcState) : Prop where
  ssInsertPipe : s.ssInsertPipe = []
  ssLookupPipe : s.ssLookupPipe = []
  siRXeSessLookupReq : s.siRXeSessLookupReq = []
  siLrhReverseLkpRsp : s.siLrhReverseLkpRsp = []
  soPRtClosePortCmd : s.soPRtClosePortCmd = []
  rltIsInit : s.rltIsInit = false
  rltCounter : s.rltCounter = 0

/-! ### Tuples and connections -/

/-- The tuples that are under way or stored are those of their connections. -/
structure SLcTagged (s : SLcState) : Prop where
  rxe : ∀ x ∈ s.siRXeSessLookupReq, x.1.tuple = leSocketPair ⟨x.2.their, x.2.my⟩
  lookup : ∀ x ∈ s.ssLookupPipe, x.1.tuple = x.2.tuple
  insert : ∀ x ∈ s.ssInsertPipe, x.1 = x.2.tuple
  reverse : ∀ x ∈ s.siLrhReverseLkpRsp, x.1.value = x.2.tuple
  counter : s.rltIsInit = false → s.rltCounter.toNat ≤ toeMaxSessions
  table : ∀ i : SessIdx, s.rltIsInit = true ∨ i.val < s.rltCounter.toNat →
    s.tupleValidTable i = true → (s.reverseLookupTable i).1 = (s.reverseLookupTable i).2.tuple
  port : ∀ x ∈ s.soPRtClosePortCmd, x.1 = byteSwap16 x.2.my.port

lemma SLcReset.tagged {s : SLcState} (h : SLcReset s) : SLcTagged s where
  rxe := by simp [h.siRXeSessLookupReq]
  lookup := by simp [h.ssLookupPipe]
  insert := by simp [h.ssInsertPipe]
  reverse := by simp [h.siLrhReverseLkpRsp]
  counter _ := by simp [h.rltCounter]
  table i hi := by simp [h.rltIsInit, h.rltCounter] at hi
  port := by simp [h.soPRtClosePortCmd]

section Tagged

variable {s : SLcState}

/-- One more item with a property. -/
lemma forall_mem_snoc {α : Type*} {P : α → Prop} {xs : List α} {x : α} (h : ∀ y ∈ xs, P y)
    (hx : P x) : ∀ y ∈ xs ++ [x], P y := by
  intro y hy
  obtain hy | hy := List.mem_append.mp hy
  · exact h y hy
  · rw [List.mem_singleton.mp hy]
    exact hx

lemma pSessionIdManager_tagged (h : SLcTagged s) (freeId : Bool) :
    SLcTagged (pSessionIdManager s freeId) := by
  obtain ⟨h1, h2, h3, h4, h5, h6, h7⟩ := h
  rw [pSessionIdManager]
  split
  · exact ⟨h1, h2, h3, h4, h5, h6, h7⟩
  · split
    · exact ⟨h1, h2, h3, h4, h5, h6, h7⟩
    · exact ⟨h1, h2, h3, h4, h5, h6, h7⟩

lemma lrhRequest_tagged (h : SLcTagged s) (k : LrhCycle) : SLcTagged (lrhRequest s k) := by
  obtain ⟨h1, h2, h3, h4, h5, h6, h7⟩ := h
  rw [lrhRequest]
  split
  · exact ⟨h1, forall_mem_snoc h2 rfl, h3, h4, h5, h6, h7⟩
  · next query c qs _ hq =>
      have hqs := of_offered_eq_cons hq
      rw [hqs, List.forall_mem_cons] at h1
      have hquery : query.tuple = leSocketPair ⟨c.their, c.my⟩ := h1.1
      refine ⟨h1.2, forall_mem_snoc h2 ?_, h3, h4, h5, h6, h7⟩
      rw [hquery]
      rfl
  · exact ⟨h1, h2, h3, h4, h5, h6, h7⟩

lemma lrhAnswer_tagged (h : SLcTagged s) (source : LkpSrc) (rep : SessionLookupReply) :
    SLcTagged (lrhAnswer s source rep) := by
  obtain ⟨h1, h2, h3, h4, h5, h6, h7⟩ := h
  cases source with
  | fromRXe => exact ⟨h1, h2, h3, h4, h5, h6, h7⟩
  | fromTAi => exact ⟨h1, h2, h3, h4, h5, h6, h7⟩

lemma lrhLookupReply_tagged (h : SLcTagged s) (k : LrhCycle) :
    SLcTagged (lrhLookupReply s k) := by
  rw [lrhLookupReply]
  split
  · next lupReply rs slcQuery c qs _ hq =>
      obtain ⟨h1, h2, h3, h4, h5, h6, h7⟩ := h
      rw [hq, List.forall_mem_cons] at h2
      have hread : SLcTagged { s with siCamSessLookupRep := rs, ssLookupPipe := qs } :=
        ⟨h1, h2.2, h3, h4, h5, h6, h7⟩
      have hanswer : SLcTagged { lrhAnswer { s with siCamSessLookupRep := rs, ssLookupPipe := qs }
          lupReply.source ⟨lupReply.sessionID.setWidth 16, lupReply.hit⟩ with
          lrhFsmState := .waitForSessLkpReq } := by
        obtain ⟨h1, h2, h3, h4, h5, h6, h7⟩ := lrhAnswer_tagged hread lupReply.source
          ⟨lupReply.sessionID.setWidth 16, lupReply.hit⟩
        exact ⟨h1, h2, h3, h4, h5, h6, h7⟩
      dsimp only
      split
      · split
        · exact ⟨h1, h2.2, forall_mem_snoc h3 h2.1, h4, h5, h6, h7⟩
        · exact hanswer
      · exact hanswer
  · exact h

lemma lrhUpdateReply_tagged (h : SLcTagged s) (k : LrhCycle) :
    SLcTagged (lrhUpdateReply s k) := by
  rw [lrhUpdateReply]
  split
  · next insertReply rs tuple c ts _ ht =>
      obtain ⟨h1, h2, h3, h4, h5, h6, h7⟩ := h
      rw [ht, List.forall_mem_cons] at h3
      have hread : SLcTagged { s with siUrhSessUpdateRsp := rs, ssInsertPipe := ts } :=
        ⟨h1, h2, h3.2, h4, h5, h6, h7⟩
      have hvalue := h3.1
      obtain ⟨h1, h2, h3, h4, h5, h6, h7⟩ := lrhAnswer_tagged hread insertReply.source
        ⟨insertReply.sessionID.setWidth 16, true⟩
      exact ⟨h1, h2, h3, forall_mem_snoc h4 hvalue, h5, h6, h7⟩
  · exact h

lemma pLookupReplyHandler_tagged (h : SLcTagged s) (k : LrhCycle) :
    SLcTagged (pLookupReplyHandler s k) := by
  rw [pLookupReplyHandler]
  split
  · exact lrhRequest_tagged h k
  · exact lrhLookupReply_tagged h k
  · exact lrhUpdateReply_tagged h k

lemma pUpdateRequestSender_tagged (h : SLcTagged s) (insert delete : Bool) :
    SLcTagged (pUpdateRequestSender s insert delete) := by
  obtain ⟨h1, h2, h3, h4, h5, h6, h7⟩ := h
  rw [pUpdateRequestSender]
  split
  · exact ⟨h1, h2, h3, h4, h5, h6, h7⟩
  · exact ⟨h1, h2, h3, h4, h5, h6, h7⟩
  · exact ⟨h1, h2, h3, h4, h5, h6, h7⟩

/-- During the initialisation the entries below the counter are cleared. -/
lemma rltInit_tagged (h : SLcTagged s) (hinit : s.rltIsInit = false) :
    SLcTagged (rltInit s) := by
  obtain ⟨h1, h2, h3, h4, h5, h6, h7⟩ := h
  have hcount := h5 hinit
  have hcleared (i : SessIdx) (hi : i.val ≤ s.rltCounter.toNat)
      (hv : Function.update s.tupleValidTable (sessIdx s.rltCounter) false i = true) :
      (s.reverseLookupTable i).1 = (s.reverseLookupTable i).2.tuple := by
    by_cases heq : i = sessIdx s.rltCounter
    · rw [heq, Function.update_self] at hv
      cases hv
    · rw [Function.update_of_ne heq] at hv
      refine h6 i (.inr (lt_of_le_of_ne hi fun hval => heq ?_)) hv
      apply Fin.ext
      calc i.val = i.val % toeMaxSessions := (Nat.mod_eq_of_lt i.isLt).symm
        _ = s.rltCounter.toNat % toeMaxSessions := by rw [hval]
  rw [rltInit]
  dsimp only
  split
  · next hlt =>
      have hnext : (s.rltCounter + 1).toNat = s.rltCounter.toNat + 1 := by
        rw [toeMaxSessions] at hlt
        rw [BitVec.toNat_add, show (1 : RtlSessId).toNat = 1 from rfl]
        omega
      refine ⟨h1, h2, h3, h4, fun _ => ?_, fun i hi hv => hcleared i ?_ hv, h7⟩
      · rw [hnext]
        exact hlt
      · obtain hi | hi := hi
        · exact absurd (hinit.symm.trans hi) Bool.false_ne_true
        · rw [hnext] at hi
          exact Nat.le_of_lt_succ hi
  · next hge =>
      refine ⟨h1, h2, h3, h4, (fun hf => by cases hf), fun i _ hv => hcleared i ?_ hv, h7⟩
      have hi := i.isLt
      omega

lemma rltRelease_tagged (h : SLcTagged s) (hinit : s.rltIsInit = true) (sessionId : SessionId) :
    SLcTagged (rltRelease s sessionId) := by
  obtain ⟨h1, h2, h3, h4, h5, h6, h7⟩ := h
  have htable (i : SessIdx) (hi : s.rltIsInit = true ∨ i.val < s.rltCounter.toNat)
      (hv : Function.update s.tupleValidTable (sessIdx sessionId) false i = true) :
      (s.reverseLookupTable i).1 = (s.reverseLookupTable i).2.tuple := by
    by_cases heq : i = sessIdx sessionId
    · rw [heq, Function.update_self] at hv
      cases hv
    · rw [Function.update_of_ne heq] at hv
      exact h6 i hi hv
  rw [rltRelease]
  split
  · next hvalid =>
      refine ⟨h1, h2, h3, h4, h5, htable, forall_mem_snoc h7 ?_⟩
      rw [h6 _ (.inl hinit) hvalid]
      rfl
  · exact ⟨h1, h2, h3, h4, h5, htable, h7⟩

lemma pReverseLookupTable_tagged (h : SLcTagged s) (rsp release txe : Bool) :
    SLcTagged (pReverseLookupTable s rsp release txe) := by
  rw [pReverseLookupTable]
  split
  · next hinit => exact rltInit_tagged h (by simpa using hinit)
  · next hinit =>
      have hinit' : s.rltIsInit = true := by simpa using hinit
      obtain ⟨h1, h2, h3, h4, h5, h6, h7⟩ := h
      rw [rltServe]
      split
      · next _ _ _ insert c rs hr =>
          have hrs := of_offered_eq_cons hr
          rw [hrs, List.forall_mem_cons] at h4
          refine ⟨h1, h2, h3, h4.2, h5, fun i hi hv => ?_, h7⟩
          dsimp only at hv ⊢
          by_cases heq : i = sessIdx insert.key
          · rw [heq, Function.update_self]
            exact h4.1
          · rw [Function.update_of_ne heq] at hv ⊢
            exact h6 i hi hv
      · next _ _ _ sessionId cs _ _ =>
          have hread : SLcTagged { s with siSTtSessReleaseCmd := cs } :=
            ⟨h1, h2, h3, h4, h5, h6, h7⟩
          exact rltRelease_tagged hread hinit' sessionId
      · exact ⟨h1, h2, h3, h4, h5, h6, h7⟩
      · exact ⟨h1, h2, h3, h4, h5, h6, h7⟩

/-- Every step keeps the tuples those of their connections. -/
theorem slcNext_tagged (h : SLcTagged s) (l : SLcLabel) : SLcTagged (slcNext s l) := by
  cases l with
  | sessionIdManager freeId => exact pSessionIdManager_tagged h freeId
  | lookupReplyHandler k => exact pLookupReplyHandler_tagged h k
  | updateRequestSender insert delete => exact pUpdateRequestSender_tagged h insert delete
  | reverseLookupTable rsp release txe => exact pReverseLookupTable_tagged h rsp release txe
  | updateReplyHandler =>
      obtain ⟨h1, h2, h3, h4, h5, h6, h7⟩ := h
      rw [slcNext, pUpdateReplyHandler]
      split
      · dsimp only
        split
        · exact ⟨h1, h2, h3, h4, h5, h6, h7⟩
        · exact ⟨h1, h2, h3, h4, h5, h6, h7⟩
      · exact ⟨h1, h2, h3, h4, h5, h6, h7⟩
  | camLookup miss =>
      obtain ⟨h1, h2, h3, h4, h5, h6, h7⟩ := h
      rw [slcNext, camLookup]
      split
      · exact ⟨h1, h2, h3, h4, h5, h6, h7⟩
      · exact ⟨h1, h2, h3, h4, h5, h6, h7⟩
  | camUpdate =>
      obtain ⟨h1, h2, h3, h4, h5, h6, h7⟩ := h
      rw [slcNext, camUpdate]
      split
      · exact ⟨h1, h2, h3, h4, h5, h6, h7⟩
      · exact ⟨h1, h2, h3, h4, h5, h6, h7⟩
  | rxeLookup m p =>
      obtain ⟨h1, h2, h3, h4, h5, h6, h7⟩ := h
      exact ⟨forall_mem_snoc h1 rfl, h2, h3, h4, h5, h6, h7⟩
  | taiLookup sockPair =>
      obtain ⟨h1, h2, h3, h4, h5, h6, h7⟩ := h
      exact ⟨h1, h2, h3, h4, h5, h6, h7⟩
  | release sessionId =>
      obtain ⟨h1, h2, h3, h4, h5, h6, h7⟩ := h
      exact ⟨h1, h2, h3, h4, h5, h6, h7⟩
  | txeLookup sessionId =>
      obtain ⟨h1, h2, h3, h4, h5, h6, h7⟩ := h
      exact ⟨h1, h2, h3, h4, h5, h6, h7⟩

end Tagged

end CloudFpga.Toe
