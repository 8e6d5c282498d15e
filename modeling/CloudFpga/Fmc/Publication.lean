import CloudFpga.Foundation.Machine
import CloudFpga.Fmc.RoutingTable

/-!
The publication of the routing table: the link of the FMC to the NAL (`fmc.cpp`), which copies the
table row by row and writes its version last, with `axi4liteProcessing` and `pMrtAgency`.

* `linkCtrl`: one call of the link. `pubNext`: one step of the three.
* `Settled`: no update is pending, the current version is acknowledged, and no change waits.
* `PubInv`: what holds as long as each operation on the table meets `StepOk`.
* `settled_agrees`: under that condition the table of the agency is that of the FMC in every settled
  state, and empty after a clear operation.
-/

namespace CloudFpga.Fmc

open Foundation Nal

/-- The inputs of a call of the link. -/
structure LinkCall where
  fpgaTimeSeconds : Word := 0
  disableCtrlLink : Bool := false
  layer4Enabled : Bool := true
  layer6Enabled : Bool := true
  fifoOperationInProgress : Bool := false
  deriving DecidableEq

section Link

variable (f : FmcState) (nalCtrl : CtrlLink) (k : LinkCall)

/-- `LINKFSM_IDLE`: the time of the next check. -/
def nextCheckSeconds : Word :=
  if 60 ≤ (k.fpgaTimeSeconds + 2).toNat then 0 else k.fpgaTimeSeconds + 2

/-- `LINKFSM_UPDATE_MRT`: one row. -/
def linkUpdateMrt (mrtCopyIndex : Fin maxMrtSize) : FmcState × CtrlLink :=
  ({ f with
      linkCtrlFSM :=
        if h : maxMrtSize < mrtCopyIndex.val + 1 ∨
            f.maxDiscoveredNodeId.val < mrtCopyIndex.val + 1 then .updateVersion
        else .updateMrt ⟨mrtCopyIndex.val + 1, by omega⟩ },
    { nalCtrl with
      mrt := Function.update nalCtrl.mrt mrtCopyIndex (f.currentMRT mrtCopyIndex) })

/-- The version is written. -/
def linkUpdateVersion : FmcState × CtrlLink :=
  ({ f with needToUpdateNrcMrt := false, linkCtrlFSM := .idle },
    { nalCtrl with
      config := Function.update nalCtrl.config nalConfigMrtVersion f.currentNrcMrtVersion })

/-- `LINKFSM_UPDATE_CONFIG`: own rank and saved ports. -/
def linkUpdateConfig : FmcState × CtrlLink :=
  ({ f with needToUpdateNrcConfig := false, linkCtrlFSM := .idle },
    { nalCtrl with
      config := fun i =>
        if i = 0 then f.nodeRank
        else if i = 2 ∨ i = 3 ∨ i = 4 then f.currentNrcConfig i
        else nalCtrl.config i })

/-- `LINKFSM_UPDATE_STATE`: one status word, and after the last one the comparison. -/
def linkUpdateState (cnt : Fin numberStatusWords) : FmcState × CtrlLink :=
  let nalStatus := Function.update f.nalStatus cnt (nalCtrl.status cnt)
  if h : cnt.val + 1 < numberStatusWords then
    ({ f with nalStatus := nalStatus, linkCtrlFSM := .updateState ⟨cnt.val + 1, h⟩ }, nalCtrl)
  else if nalStatus 0 ≠ f.currentNrcMrtVersion then
    ({ f with
        nalStatus := nalStatus
        needToUpdateNrcMrt := true
        needToUpdateNrcConfig := true
        linkCtrlFSM := .wait }, nalCtrl)
  else if nalStatus 13 ≠ f.nodeRank then
    ({ f with nalStatus := nalStatus, needToUpdateNrcConfig := true, linkCtrlFSM := .wait }, nalCtrl)
  else ({ f with nalStatus := nalStatus, linkCtrlFSM := .updateSavedState }, nalCtrl)

/-- `LINKFSM_UPDATE_SAVED_STATE`: the ports that are open. -/
def linkUpdateSavedState : FmcState × CtrlLink :=
  ({ f with
      currentNrcConfig := fun i =>
        if i = 2 then f.nalStatus 1
        else if i = 3 then f.nalStatus 2
        else if i = 4 then f.nalStatus 3
        else f.currentNrcConfig i
      linkCtrlFSM := .idle }, nalCtrl)

def linkStep : FmcState × CtrlLink :=
  match f.linkCtrlFSM with
  | .idle =>
      ({ f with ctrlLinkNextCheckSeconds := nextCheckSeconds k, linkCtrlFSM := .wait }, nalCtrl)
  | .wait =>
      if f.needToUpdateNrcConfig then ({ f with linkCtrlFSM := .updateConfig }, nalCtrl)
      else if f.needToUpdateNrcMrt then ({ f with linkCtrlFSM := .updateMrt 0 }, nalCtrl)
      else if f.ctrlLinkNextCheckSeconds.toNat ≤ k.fpgaTimeSeconds.toNat then
        ({ f with linkCtrlFSM := .updateState 0 }, nalCtrl)
      else (f, nalCtrl)
  | .updateMrt i => linkUpdateMrt f nalCtrl i
  | .updateVersion => linkUpdateVersion f nalCtrl
  | .updateConfig => linkUpdateConfig f nalCtrl
  | .updateState i => linkUpdateState f nalCtrl i
  | .updateSavedState => linkUpdateSavedState f nalCtrl

/-- Without layer 4 the saved ports are closed. -/
def resetPorts : FmcState :=
  if k.disableCtrlLink = false ∧ k.layer4Enabled = false then
    { f with
      currentNrcConfig := fun i => if i = 2 ∨ i = 3 ∨ i = 4 then 0 else f.currentNrcConfig i
      needToUpdateNrcConfig := false }
  else f

/-- One call, or the rest of the last call of `LINKFSM_UPDATE_MRT`. -/
def linkCtrl : FmcState × CtrlLink :=
  if f.linkCtrlFSM = .updateVersion then linkUpdateVersion f nalCtrl
  else if k.disableCtrlLink = false ∧ k.layer6Enabled = true ∧ k.fifoOperationInProgress = false then
    linkStep { resetPorts f k with nalStatusDisabled := false } nalCtrl k
  else
    ({ resetPorts f k with
        nalStatusDisabled := true
        nalStatus := Function.update (Function.update f.nalStatus 0 0x44495341) 1 0x424c4544 },
      nalCtrl)

end Link

/-! ### The system -/

structure Publication where
  fmc : FmcState := {}
  nal : AxiLite := {}
  agency : MrtAgency := {}

/-- A lookup that another process asks for. -/
inductive MrtRequest where
  | ipUdpTx (rank : NodeId) | ipTcpTx (rank : NodeId)
  | nidUdpRx (ipAddr : Ip4Addr) | nidTcpRx (ipAddr : Ip4Addr)
  deriving DecidableEq

def MrtRequest.push (a : MrtAgency) : MrtRequest → MrtAgency
  | .ipUdpTx rank => { a with sGetIpReqUdpTx := a.sGetIpReqUdpTx ++ [rank] }
  | .ipTcpTx rank => { a with sGetIpReqTcpTx := a.sGetIpReqTcpTx ++ [rank] }
  | .nidUdpRx ipAddr => { a with sGetNidReqUdpRx := a.sGetNidReqUdpRx ++ [ipAddr] }
  | .nidTcpRx ipAddr => { a with sGetNidReqTcpRx := a.sGetNidReqTcpRx ++ [ipAddr] }

/-- An operation on the table or a call of the link in the FMC, a call of a process of the NAL, a
status word, or a request for a lookup. -/
inductive PubStep where
  | post (b : HttpBuffer) (disableCtrlLink : Bool)
  | clear
  | setRank (newRank : Word)
  | link (k : LinkCall)
  | axi (k : AxiCall)
  | agency (k : MrtCall)
  | status (su : NalStatusUpdate)
  | request (r : MrtRequest)
  deriving DecidableEq

/-- An operation of the FMC, which cannot come between two writes of one call of the link. -/
def fmcOp (s : Publication) (op : FmcState → FmcState) : Option Publication :=
  if s.fmc.linkCtrlFSM = .updateVersion then none else some { s with fmc := op s.fmc }

def pubNext (s : Publication) : PubStep → Option Publication
  | .post b d => fmcOp s (opBufferToRouting b d)
  | .clear => fmcOp s opClearRoutingTable
  | .setRank newRank =>
      fmcOp s fun f => { f with nodeRank := newRank, needToUpdateNrcConfig := true }
  | .link k =>
      some { s with
        fmc := (linkCtrl s.fmc s.nal.ctrlLink k).1
        nal := { s.nal with ctrlLink := (linkCtrl s.fmc s.nal.ctrlLink k).2 } }
  | .axi k => some { s with nal := axi4liteProcessing s.nal k }
  | .agency k =>
      some { s with
        nal := { s.nal with sMrtUpdate := (pMrtAgency s.agency k s.nal.sMrtUpdate).1 }
        agency := (pMrtAgency s.agency k s.nal.sMrtUpdate).2 }
  | .status su => some { s with nal := { s.nal with sStatusUpdate := s.nal.sStatusUpdate ++ [su] } }
  | .request r => some { s with agency := r.push s.agency }

/-- The FMC and the NAL, with any interleaving of their processes. -/
def pubMachine : Machine Publication PubStep := ⟨pubNext⟩

namespace Publication

variable (s : Publication)

/-- The table that the agency has once the changes that wait are applied. -/
def newest : Mrt := newestMRT s.nal.sMrtUpdate s.agency.localMRT

/-- A table update is pending. -/
def Pending : Prop :=
  s.fmc.needToUpdateNrcMrt = true ∨ s.fmc.linkCtrlFSM = .updateVersion ∨
    ∃ i, s.fmc.linkCtrlFSM = .updateMrt i

/-- No table update is pending, the NAL has acknowledged the current version, and its queue of
changes is empty. -/
def Settled : Prop :=
  ¬s.Pending ∧ s.nal.processedMrtVersion = s.fmc.currentNrcMrtVersion ∧ s.nal.sMrtUpdate = []

/-- The tables agree. -/
def Agrees : Prop := s.agency.localMRT = s.fmc.currentMRT

/-- The NAL has a version, or is about to have it. -/
def Held (v : Word) : Prop :=
  s.nal.ctrlLink.config nalConfigMrtVersion = v ∨ s.nal.config nalConfigMrtVersion = v ∨
    s.nal.processedMrtVersion = v ∨
    (s.nal.a4lFsm = .copyConfig2 nalConfigMrtVersion ∧ s.nal.newWord = v)

/-- The NAL has not handed on a row since its reset, where its copy of the rows starts with ones and
the table of the agency with zeros. -/
def Unread (r : Fin maxMrtSize) : Prop :=
  s.nal.tablesInitialized = false ∨ (s.nal.localMRT r = 1 ∧ s.newest r = 0)

/-- The rows that the copy in progress has written. -/
def copyIndex : ℕ :=
  match s.fmc.linkCtrlFSM with
  | .updateMrt i => i.val
  | _ => 0

/-- A line sets no row that is copied already, unless to what it holds, and sets no row to one that
was not read. -/
def LineOk (l : RoutingLine) : Prop :=
  (l.rankID.toNat < s.copyIndex → l.Repeats s.fmc.currentMRT) ∧
    (l.address = 1 → ∀ h : l.rankID.toNat < maxMrtSize, ¬s.Unread ⟨l.rankID.toNat, h⟩)

/-- The link is disabled; or the table is complete, all ranks are valid, the next version is a new
one and every line can be set; or the version stays and the lines repeat the table. -/
def PostOk (b : HttpBuffer) (disableCtrlLink : Bool) : Prop :=
  disableCtrlLink = true ∨
    (0 < b.bodyLen ∧ (∀ l ∈ b.routingLines, l.Valid) ∧ ¬s.Held (s.fmc.currentNrcMrtVersion + 1) ∧
      ∀ l ∈ b.routingLines, s.LineOk l) ∨
    ((0 < b.bodyLen ↔ ¬∀ l ∈ b.routingLines, l.Valid) ∧
      ∀ l ∈ b.routingLines.takeWhile (·.Valid), l.Repeats s.fmc.currentMRT)

/-- The last row, which is not cleared, and the rows that the copy in progress has written are empty
already, and the next version is a new one. -/
def ClearOk : Prop :=
  ¬s.Held (s.fmc.currentNrcMrtVersion + 1) ∧ s.fmc.currentMRT s.fmc.maxDiscoveredNodeId = 0 ∧
    ∀ r, r.val < s.copyIndex → s.fmc.currentMRT r = 0

/-- The condition on a step. -/
def StepOk : PubStep → Prop
  | .post b d => s.PostOk b d
  | .clear => s.ClearOk
  | _ => True

end Publication

/-! ### One call of the link -/

section LinkCall

variable (f : FmcState) (nalCtrl : CtrlLink) (k : LinkCall)

@[simp] lemma resetPorts_linkCtrlFSM : (resetPorts f k).linkCtrlFSM = f.linkCtrlFSM := by
  rw [resetPorts]
  split <;> rfl

@[simp] lemma resetPorts_currentMRT : (resetPorts f k).currentMRT = f.currentMRT := by
  rw [resetPorts]
  split <;> rfl

@[simp] lemma resetPorts_maxDiscoveredNodeId :
    (resetPorts f k).maxDiscoveredNodeId = f.maxDiscoveredNodeId := by
  rw [resetPorts]
  split <;> rfl

@[simp] lemma resetPorts_currentNrcMrtVersion :
    (resetPorts f k).currentNrcMrtVersion = f.currentNrcMrtVersion := by
  rw [resetPorts]
  split <;> rfl

/-- The table and its version in two states of the FMC. -/
structure SameTable (f g : FmcState) : Prop where
  currentMRT : g.currentMRT = f.currentMRT
  max : g.maxDiscoveredNodeId = f.maxDiscoveredNodeId
  version : g.currentNrcMrtVersion = f.currentNrcMrtVersion

/-- A call that writes neither a row nor the version. -/
structure LinkQuiet (f g : FmcState) (c d : CtrlLink) : Prop where
  mrt : d.mrt = c.mrt
  version : d.config nalConfigMrtVersion = c.config nalConfigMrtVersion
  version_state : g.linkCtrlFSM = .updateVersion → f.linkCtrlFSM = .updateVersion
  mrt_state : ∀ i, g.linkCtrlFSM = .updateMrt i → i = 0 ∨ f.linkCtrlFSM = .updateMrt i

lemma linkUpdateState_quiet (cnt : Fin numberStatusWords) :
    SameTable f (linkUpdateState f nalCtrl cnt).1 ∧
      LinkQuiet f (linkUpdateState f nalCtrl cnt).1 nalCtrl (linkUpdateState f nalCtrl cnt).2 := by
  rw [linkUpdateState]
  split
  · exact ⟨⟨rfl, rfl, rfl⟩, ⟨rfl, rfl, nofun, nofun⟩⟩
  · split
    · exact ⟨⟨rfl, rfl, rfl⟩, ⟨rfl, rfl, nofun, nofun⟩⟩
    · split
      · exact ⟨⟨rfl, rfl, rfl⟩, ⟨rfl, rfl, nofun, nofun⟩⟩
      · exact ⟨⟨rfl, rfl, rfl⟩, ⟨rfl, rfl, nofun, nofun⟩⟩

/-- What one call does: it writes the row of the index, or the version, or neither. -/
lemma linkStep_cases (hver : f.linkCtrlFSM ≠ .updateVersion) :
    (∃ i, f.linkCtrlFSM = .updateMrt i ∧ linkStep f nalCtrl k = linkUpdateMrt f nalCtrl i) ∨
    (SameTable f (linkStep f nalCtrl k).1 ∧
      LinkQuiet f (linkStep f nalCtrl k).1 nalCtrl (linkStep f nalCtrl k).2) := by
  cases hst : f.linkCtrlFSM with
  | updateMrt i => exact .inl ⟨i, rfl, by rw [linkStep, hst]⟩
  | updateVersion => exact absurd hst hver
  | idle =>
      rw [linkStep, hst]
      exact .inr ⟨⟨rfl, rfl, rfl⟩, ⟨rfl, rfl, by rintro ⟨⟩, by rintro i ⟨⟩⟩⟩
  | wait =>
      rw [linkStep, hst]
      dsimp only
      refine .inr ?_
      split
      · exact ⟨⟨rfl, rfl, rfl⟩, ⟨rfl, rfl, by rintro ⟨⟩, by rintro i ⟨⟩⟩⟩
      · split
        · refine ⟨⟨rfl, rfl, rfl⟩, ⟨rfl, rfl, by rintro ⟨⟩, fun i hi => ?_⟩⟩
          cases hi
          exact .inl rfl
        · split
          · exact ⟨⟨rfl, rfl, rfl⟩, ⟨rfl, rfl, by rintro ⟨⟩, by rintro i ⟨⟩⟩⟩
          · exact ⟨⟨rfl, rfl, rfl⟩, ⟨rfl, rfl, id, fun i hi => .inr hi⟩⟩
  | updateConfig =>
      rw [linkStep, hst]
      exact .inr ⟨⟨rfl, rfl, rfl⟩, ⟨rfl, rfl, by rintro ⟨⟩, by rintro i ⟨⟩⟩⟩
  | updateState i =>
      rw [linkStep, hst]
      exact .inr (linkUpdateState_quiet f nalCtrl i)
  | updateSavedState =>
      rw [linkStep, hst]
      exact .inr ⟨⟨rfl, rfl, rfl⟩, ⟨rfl, rfl, by rintro ⟨⟩, by rintro i ⟨⟩⟩⟩

/-- The same of the whole call. A row is written with what the table holds. -/
lemma linkCtrl_cases :
    SameTable f (linkCtrl f nalCtrl k).1 ∧
    ((f.linkCtrlFSM = .updateVersion ∧ (linkCtrl f nalCtrl k).1.linkCtrlFSM = .idle ∧
        (linkCtrl f nalCtrl k).2.mrt = nalCtrl.mrt ∧
        (linkCtrl f nalCtrl k).2.config nalConfigMrtVersion = f.currentNrcMrtVersion) ∨
      (∃ i, f.linkCtrlFSM = .updateMrt i ∧
        (linkCtrl f nalCtrl k).2.config = nalCtrl.config ∧
        (∀ r, (linkCtrl f nalCtrl k).2.mrt r = if r = i then f.currentMRT r else nalCtrl.mrt r) ∧
        ((linkCtrl f nalCtrl k).1.linkCtrlFSM = .updateVersion ∧ f.maxDiscoveredNodeId ≤ i ∨
          ∃ j, (linkCtrl f nalCtrl k).1.linkCtrlFSM = .updateMrt j ∧ j.val = i.val + 1)) ∨
      LinkQuiet f (linkCtrl f nalCtrl k).1 nalCtrl (linkCtrl f nalCtrl k).2) := by
  rw [linkCtrl]
  split_ifs with hver hup
  · refine ⟨⟨rfl, rfl, rfl⟩, .inl ⟨hver, rfl, rfl, ?_⟩⟩
    simp [linkUpdateVersion]
  · have hcases := linkStep_cases { resetPorts f k with nalStatusDisabled := false } nalCtrl k
      (by simpa using hver)
    rcases hcases with ⟨i, hi, hstep⟩ | ⟨hsame, hquiet⟩
    · rw [hstep, linkUpdateMrt]
      refine ⟨⟨by simp, by simp, by simp⟩,
        .inr (.inl ⟨i, by simpa using hi, rfl, fun r => ?_, ?_⟩)⟩
      · by_cases hri : r = i
        · simp [hri]
        · simp [hri]
      dsimp only
      split
      · refine .inl ⟨rfl, ?_⟩
        have hor := ‹_ ∨ _›
        simp only [resetPorts_maxDiscoveredNodeId] at hor
        have hi64 := i.isLt
        exact Fin.le_def.mpr (by omega)
      · exact .inr ⟨_, rfl, rfl⟩
    · refine ⟨⟨by simpa using hsame.currentMRT, by simpa using hsame.max,
        by simpa using hsame.version⟩, .inr (.inr ⟨hquiet.mrt, hquiet.version,
          by simpa using hquiet.version_state, by simpa using hquiet.mrt_state⟩)⟩
  · exact ⟨⟨by simp, by simp, by simp⟩, .inr (.inr ⟨rfl, rfl, by simp,
      fun i hi => .inr (by simpa using hi)⟩)⟩

end LinkCall

/-! ### The invariant -/

/-- The rows that the copy in progress has written. -/
def LinkFsmState.Copied : LinkFsmState → Fin maxMrtSize → Prop
  | .updateMrt i, r => r < i
  | .updateVersion, _ => True
  | _, _ => False

/-- The rows that the NAL has read in its present round. -/
def Scanned : AxiLiteFsmStates → Fin maxMrtSize → Prop
  | .copyMrt i, r => r < i
  | .copyStatus _, _ => True
  | .copyFinish, _ => True
  | _, _ => False

lemma not_scanned_nextConfig (i : Fin numberConfigWords) (r : Fin maxMrtSize) :
    ¬Scanned (nextConfig i) r := by
  rw [nextConfig]
  split
  · exact id
  · exact Fin.not_lt_zero r

lemma scanned_nextMrt {i r : Fin maxMrtSize} (h : Scanned (nextMrt i) r) : r ≤ i := by
  rw [nextMrt] at h
  split at h
  · exact Fin.le_def.mpr (Nat.lt_succ_iff.mp (Fin.lt_def.mp h))
  · exact Fin.le_def.mpr (by omega)

lemma scanned_nextStatus (i : Fin numberStatusWords) (r : Fin maxMrtSize) :
    Scanned (nextStatus i) r := by
  rw [nextStatus]
  split
  · trivial
  · trivial

lemma nextConfig_ne (i j : Fin numberConfigWords) : nextConfig i ≠ .copyConfig2 j := by
  rw [nextConfig]
  split
  · nofun
  · nofun

lemma nextMrt_ne (i : Fin maxMrtSize) (j : Fin numberConfigWords) :
    nextMrt i ≠ .copyConfig2 j := by
  rw [nextMrt]
  split
  · nofun
  · nofun

lemma nextStatus_ne (i : Fin numberStatusWords) (j : Fin numberConfigWords) :
    nextStatus i ≠ .copyConfig2 j := by
  rw [nextStatus]
  split
  · nofun
  · nofun

/-- Wherever the NAL holds the current version, it is on the bus, with the rows of the table; and
behind it the rows are read. -/
structure PubInv (s : Publication) : Prop where
  above : ∀ r, s.fmc.maxDiscoveredNodeId < r →
    s.fmc.currentMRT r = 0 ∧ s.nal.ctrlLink.mrt r = 0
  copied : ∀ r, s.fmc.linkCtrlFSM.Copied r → s.nal.ctrlLink.mrt r = s.fmc.currentMRT r
  linkVersion : s.nal.ctrlLink.config nalConfigMrtVersion = s.fmc.currentNrcMrtVersion →
    s.nal.ctrlLink.mrt = s.fmc.currentMRT
  configVersion : s.nal.config nalConfigMrtVersion = s.fmc.currentNrcMrtVersion →
    s.nal.ctrlLink.config nalConfigMrtVersion = s.fmc.currentNrcMrtVersion
  readVersion : s.nal.a4lFsm = .copyConfig2 nalConfigMrtVersion →
    s.nal.newWord = s.fmc.currentNrcMrtVersion →
    s.nal.ctrlLink.config nalConfigMrtVersion = s.fmc.currentNrcMrtVersion
  processed : s.nal.processedMrtVersion = s.fmc.currentNrcMrtVersion →
    s.nal.ctrlLink.config nalConfigMrtVersion = s.fmc.currentNrcMrtVersion ∧
      s.newest = s.fmc.currentMRT
  scanned : s.nal.config nalConfigMrtVersion = s.fmc.currentNrcMrtVersion →
    ∀ r, Scanned s.nal.a4lFsm r → s.newest r = s.fmc.currentMRT r
  row : ∀ r, s.nal.localMRT r = s.newest r ∨ s.Unread r
  unread : ∀ r, s.Unread r →
    s.newest r = 0 ∧ s.fmc.currentMRT r ≠ 1 ∧ s.nal.ctrlLink.mrt r ≠ 1
  start : s.nal.tablesInitialized = false →
    s.nal.config = (fun _ => 0) ∧ s.nal.a4lFsm = .copyConfig 0

lemma PubInv.initial : PubInv {} where
  above r _ := ⟨rfl, rfl⟩
  copied r _ := rfl
  linkVersion _ := rfl
  configVersion _ := rfl
  readVersion h := by cases h
  processed _ := ⟨rfl, rfl⟩
  scanned _ r h := h.elim
  row r := .inl rfl
  unread r _ := by
    have hne : (0 : Word) ≠ 1 := by decide
    exact ⟨rfl, hne, hne⟩
  start _ := ⟨rfl, rfl⟩

/-- In a settled state the tables agree. -/
lemma PubInv.agrees {s : Publication} (h : PubInv s) (hs : s.Settled) : s.Agrees := by
  obtain ⟨-, hver, hmus⟩ := hs
  have hnew := (h.processed hver).2
  rw [Publication.newest, hmus, newestMRT_nil] at hnew
  exact hnew

section Link

variable {s : Publication}

/-- A call of the link keeps the invariant. -/
lemma PubInv.link (h : PubInv s) (k : LinkCall) : PubInv
    { s with
      fmc := (linkCtrl s.fmc s.nal.ctrlLink k).1
      nal := { s.nal with ctrlLink := (linkCtrl s.fmc s.nal.ctrlLink k).2 } } := by
  obtain ⟨⟨hcur, hmax, hvers⟩, hcases⟩ := linkCtrl_cases s.fmc s.nal.ctrlLink k
  set f := (linkCtrl s.fmc s.nal.ctrlLink k).1 with hf
  set c := (linkCtrl s.fmc s.nal.ctrlLink k).2 with hc
  clear_value f c
  -- the facts that every kind of call shares, from the rows and the version on the bus
  have hmake (habove : ∀ r, s.fmc.maxDiscoveredNodeId < r → c.mrt r = 0)
      (hcopied : ∀ r, f.linkCtrlFSM.Copied r → c.mrt r = s.fmc.currentMRT r)
      (hlink : c.config nalConfigMrtVersion = s.fmc.currentNrcMrtVersion →
        c.mrt = s.fmc.currentMRT)
      (hkeep : s.nal.ctrlLink.config nalConfigMrtVersion = s.fmc.currentNrcMrtVersion →
        c.config nalConfigMrtVersion = s.fmc.currentNrcMrtVersion)
      (hone : ∀ r, s.fmc.currentMRT r ≠ 1 → s.nal.ctrlLink.mrt r ≠ 1 → c.mrt r ≠ 1) :
      PubInv { s with fmc := f, nal := { s.nal with ctrlLink := c } } := by
    refine ⟨fun r hr => ?_, fun r hr => ?_, fun hv => ?_, fun hv => ?_, fun hst hv => ?_,
      fun hv => ?_, fun hv r hr => ?_, h.row, fun r hr => ?_, h.start⟩
    · exact ⟨hcur ▸ (h.above r (hmax ▸ hr)).1, habove r (hmax ▸ hr)⟩
    · exact (hcopied r hr).trans (hcur ▸ rfl)
    · exact (hlink (hv.trans hvers)).trans hcur.symm
    · exact (hkeep (h.configVersion (hv.trans hvers))).trans hvers.symm
    · exact (hkeep (h.readVersion hst (hv.trans hvers))).trans hvers.symm
    · obtain ⟨hlv, hnew⟩ := h.processed (hv.trans hvers)
      exact ⟨(hkeep hlv).trans hvers.symm, hnew.trans hcur.symm⟩
    · exact (h.scanned (hv.trans hvers) r hr).trans (hcur ▸ rfl)
    · obtain ⟨hnew, hcur1, hlink1⟩ := h.unread r hr
      exact ⟨hnew, hcur ▸ hcur1, hone r hcur1 hlink1⟩
  rcases hcases with ⟨hst, hidle, hmrt, hwrote⟩ | ⟨i, hst, hconfig, hrow, hnext⟩ | hquiet
  · -- the version
    have hall : s.nal.ctrlLink.mrt = s.fmc.currentMRT :=
      funext fun r => h.copied r (by rw [hst]; trivial)
    refine hmake (fun r hr => hmrt ▸ (h.above r hr).2) (fun r hr => ?_) (fun _ => hmrt.trans hall)
      (fun _ => hwrote) fun r _ hr => hmrt ▸ hr
    rw [hidle] at hr
    exact hr.elim
  · -- a row
    refine hmake (fun r hr => ?_) (fun r hr => ?_) (fun hv => ?_) (fun hv => hconfig ▸ hv)
      fun r hcur1 hlink1 => ?_
    · have habove := h.above r hr
      rw [hrow]
      split
      · exact habove.1
      · exact habove.2
    · rw [hrow]
      split
      · rfl
      · have hne := ‹¬r = i›
        rcases hnext with ⟨hend, hmaxi⟩ | ⟨j, hj, hij⟩
        · by_cases hri : r < i
          · exact h.copied r (by rw [hst]; exact hri)
          · have hmr : s.fmc.maxDiscoveredNodeId < r :=
              lt_of_le_of_lt hmaxi (lt_of_le_of_ne (not_lt.mp hri) (Ne.symm hne))
            exact (h.above r hmr).2.trans (h.above r hmr).1.symm
        · rw [hj] at hr
          have hri : r < i := by
            have hrj : r.val < j.val := hr
            have hval : r.val ≠ i.val := fun hv => hne (Fin.ext hv)
            exact Fin.lt_def.mpr (by omega)
          exact h.copied r (by rw [hst]; exact hri)
    · funext r
      rw [hrow, h.linkVersion (hconfig ▸ hv)]
      split
      · rfl
      · rfl
    · rw [hrow]
      split
      · exact hcur1
      · exact hlink1
  · -- neither
    refine hmake (fun r hr => hquiet.mrt ▸ (h.above r hr).2) (fun r hr => ?_)
      (fun hv => hquiet.mrt.trans (h.linkVersion (hquiet.version ▸ hv)))
      (fun hv => hquiet.version.trans hv) fun r _ hr => hquiet.mrt ▸ hr
    rw [hquiet.mrt]
    cases hst : f.linkCtrlFSM with
    | updateVersion => exact h.copied r (by rw [hquiet.version_state hst]; trivial)
    | updateMrt j =>
        rw [hst] at hr
        rcases hquiet.mrt_state j hst with rfl | hj
        · exact absurd hr (Fin.not_lt_zero r)
        · exact h.copied r (by rw [hj]; exact hr)
    | idle =>
        rw [hst] at hr
        exact hr.elim
    | wait =>
        rw [hst] at hr
        exact hr.elim
    | updateConfig =>
        rw [hst] at hr
        exact hr.elim
    | updateState i =>
        rw [hst] at hr
        exact hr.elim
    | updateSavedState =>
        rw [hst] at hr
        exact hr.elim

end Link

/-! ### One call in the NAL -/

section Axi

variable {s : Publication}

/-- A step of the copies that reads no row, acknowledges no version and writes no row or version on
the bus keeps the invariant, if what it knows of the version and of the rows read is true. -/
lemma PubInv.axi {n : AxiLite} (h : PubInv s)
    (hinit : n.tablesInitialized = s.nal.tablesInitialized)
    (hstart : s.nal.tablesInitialized = true)
    (hmrt : n.ctrlLink.mrt = s.nal.ctrlLink.mrt)
    (hlink : n.ctrlLink.config = s.nal.ctrlLink.config)
    (hlocal : n.localMRT = s.nal.localMRT) (hmus : n.sMrtUpdate = s.nal.sMrtUpdate)
    (hconfig : n.config nalConfigMrtVersion = s.fmc.currentNrcMrtVersion →
      s.nal.ctrlLink.config nalConfigMrtVersion = s.fmc.currentNrcMrtVersion)
    (hread : n.a4lFsm = .copyConfig2 nalConfigMrtVersion →
      n.newWord = s.fmc.currentNrcMrtVersion →
      s.nal.ctrlLink.config nalConfigMrtVersion = s.fmc.currentNrcMrtVersion)
    (hprocessed : n.processedMrtVersion = s.fmc.currentNrcMrtVersion →
      s.nal.ctrlLink.config nalConfigMrtVersion = s.fmc.currentNrcMrtVersion ∧
        s.newest = s.fmc.currentMRT)
    (hscanned : n.config nalConfigMrtVersion = s.fmc.currentNrcMrtVersion →
      ∀ r, Scanned n.a4lFsm r → s.newest r = s.fmc.currentMRT r) :
    PubInv { s with nal := n } := by
  have hnew : Publication.newest { s with nal := n } = s.newest :=
    congrArg (newestMRT · s.agency.localMRT) hmus
  have hunread (r : Fin maxMrtSize) : Publication.Unread { s with nal := n } r ↔ s.Unread r := by
    rw [Publication.Unread, hinit, hlocal, hnew]
    rfl
  refine ⟨fun r hr => ?_, fun r hr => ?_, fun hv => ?_, fun hv => ?_, fun hst hv => ?_,
    fun hv => ?_, fun hv r hr => ?_, fun r => ?_, fun r hr => ?_, fun hi => ?_⟩
  · exact hmrt ▸ h.above r hr
  · exact hmrt ▸ h.copied r hr
  · exact hmrt ▸ h.linkVersion (hlink ▸ hv)
  · exact hlink ▸ hconfig hv
  · exact hlink ▸ hread hst hv
  · obtain ⟨hlv, hcur⟩ := hprocessed hv
    exact ⟨hlink ▸ hlv, hnew.trans hcur⟩
  · exact (congrFun hnew r).trans (hscanned hv r hr)
  · rw [hunread, hnew, hlocal]
    exact h.row r
  · rw [hnew, hmrt]
    exact h.unread r ((hunread r).mp hr)
  · rw [hinit, hstart] at hi
    cases hi

/-- The invariant reads what the copies of the NAL write, and nothing else of it. -/
lemma PubInv.of_sameCopy {n : AxiLite} (h : PubInv s) (hstart : s.nal.tablesInitialized = true)
    (hn : SameCopy s.nal n) : PubInv { s with nal := n } := by
  refine h.axi hn.tablesInitialized hstart (congrArg _ hn.ctrlLink) (congrArg _ hn.ctrlLink)
    hn.localMRT hn.sMrtUpdate (fun hv => ?_) (fun hst hv => ?_) (fun hv => ?_) fun hv r hr => ?_
  · exact h.configVersion (hn.config ▸ hv)
  · exact h.readVersion (hn.a4lFsm ▸ hst) (hn.newWord ▸ hv)
  · exact h.processed (hn.processedMrtVersion ▸ hv)
  · exact h.scanned (hn.config ▸ hv) r (hn.a4lFsm ▸ hr)

/-- A row is read. -/
lemma PubInv.copyMrt {i : Fin maxMrtSize} (h : PubInv s) (hstart : s.nal.tablesInitialized = true)
    (hst : s.nal.a4lFsm = .copyMrt i) : PubInv { s with nal := a4lCopyMrt s.nal i } := by
  rw [a4lCopyMrt]
  split_ifs with hrow
  · -- the row is new
    let w := s.nal.ctrlLink.mrt i
    let n : AxiLite :=
      { s.nal with
        sMrtUpdate := s.nal.sMrtUpdate ++ [⟨i, w⟩, ⟨i, w⟩]
        localMRT := Function.update s.nal.localMRT i w
        a4lFsm := nextMrt i }
    have hnew : Publication.newest { s with nal := n } = Function.update s.newest i w := by
      simp only [Publication.newest, n, newestMRT_append, newestMRT_twice]
    have hunread (r : Fin maxMrtSize) (hr : Publication.Unread { s with nal := n } r) :
        r ≠ i ∧ s.Unread r := by
      rw [Publication.Unread, hnew] at hr
      rcases hr with hr | ⟨hone, hzero⟩
      · exact absurd (hstart.symm.trans hr) (by decide)
      · by_cases hri : r = i
        · simp only [n, hri, Function.update_self] at hone hzero
          exact absurd (hone.symm.trans hzero) (by decide)
        · simp only [n, Function.update_of_ne hri] at hone hzero
          exact ⟨hri, .inr ⟨hone, hzero⟩⟩
    have hset (hv : s.nal.ctrlLink.config nalConfigMrtVersion = s.fmc.currentNrcMrtVersion)
        {r : Fin maxMrtSize} (hr : r = i ∨ s.newest r = s.fmc.currentMRT r) :
        Function.update s.newest i w r = s.fmc.currentMRT r := by
      by_cases hri : r = i
      · rw [hri, Function.update_self]
        exact congrFun (h.linkVersion hv) i
      · rw [Function.update_of_ne hri]
        exact hr.resolve_left hri
    refine ⟨h.above, h.copied, h.linkVersion, h.configVersion,
      fun hread => absurd hread (nextMrt_ne _ _), fun hv => ?_, fun hv r hr => ?_, fun r => ?_,
      fun r hr => ?_, fun hi => absurd (hstart.symm.trans hi) (by decide)⟩
    · obtain ⟨hlv, hcur⟩ := h.processed hv
      exact ⟨hlv, hnew.trans (funext fun r => hset hlv (.inr (congrFun hcur r)))⟩
    · refine (congrFun hnew r).trans (hset (h.configVersion hv) ?_)
      rcases (scanned_nextMrt hr).eq_or_lt with hri | hri
      · exact .inl hri
      · exact .inr (h.scanned hv r (by rw [hst]; exact hri))
    · rw [hnew]
      by_cases hri : r = i
      · exact .inl (by simp [hri, w])
      · simp only [Function.update_of_ne hri]
        rcases h.row r with heq | hr
        · exact .inl heq
        · rcases hr with hr | hr
          · exact absurd (hstart.symm.trans hr) (by decide)
          · refine .inr (.inr ⟨?_, ?_⟩)
            · simpa only [n, Function.update_of_ne hri] using hr.1
            · rw [hnew, Function.update_of_ne hri]
              exact hr.2
    · obtain ⟨hri, hr⟩ := hunread r hr
      rw [hnew, Function.update_of_ne hri]
      exact h.unread r hr
  · -- the row is known
    refine h.axi rfl hstart rfl rfl rfl rfl h.configVersion
      (fun hread => absurd hread (nextMrt_ne _ _)) h.processed fun hv r hr => ?_
    rcases (scanned_nextMrt hr).eq_or_lt with rfl | hri
    · have hlink : s.nal.ctrlLink.mrt r = s.fmc.currentMRT r :=
        congrFun (h.linkVersion (h.configVersion hv)) r
      rcases h.row r with heq | hr
      · rw [← heq, ← not_ne_iff.mp hrow, hlink]
      · obtain ⟨-, -, hone⟩ := h.unread r hr
        rcases hr with hr | hr
        · exact absurd (hstart.symm.trans hr) (by decide)
        · exact absurd ((not_ne_iff.mp hrow).trans hr.1) hone
    · exact h.scanned hv r (by rw [hst]; exact hri)

/-- One step of the copies keeps the invariant. -/
lemma PubInv.a4lStep (h : PubInv s) (hstart : s.nal.tablesInitialized = true) :
    PubInv { s with nal := Nal.a4lStep s.nal } := by
  rw [Nal.a4lStep]
  cases hst : s.nal.a4lFsm with
  | statusUpdate =>
      dsimp only
      split
      · exact h.axi rfl hstart rfl rfl rfl rfl h.configVersion (by rintro ⟨⟩) h.processed
          fun _ _ hr => hr.elim
      · exact h.axi rfl hstart rfl rfl rfl rfl h.configVersion (by rintro ⟨⟩) h.processed
          fun _ _ hr => hr.elim
  | copyConfig i =>
      dsimp only
      rw [a4lCopyConfig]
      split
      · refine h.axi rfl hstart rfl rfl rfl rfl h.configVersion (fun hread hv => ?_) h.processed
          fun _ _ hr => hr.elim
        cases hread
        exact hv
      · exact h.axi rfl hstart rfl rfl rfl rfl h.configVersion
          (fun hread => absurd hread (nextConfig_ne _ _)) h.processed
          fun _ r hr => absurd hr (not_scanned_nextConfig i r)
  | copyConfig2 i =>
      dsimp only
      split
      · refine h.axi rfl hstart rfl rfl rfl rfl (fun hv => ?_)
          (fun hread => absurd hread (nextConfig_ne _ _)) h.processed
          fun _ r hr => absurd hr (not_scanned_nextConfig i r)
        have hv' : Function.update s.nal.config i s.nal.newWord nalConfigMrtVersion =
          s.fmc.currentNrcMrtVersion := hv
        by_cases hi : i = nalConfigMrtVersion
        · rw [hi, Function.update_self] at hv'
          exact h.readVersion (hi ▸ hst) hv'
        · rw [Function.update_of_ne (Ne.symm hi)] at hv'
          exact h.configVersion hv'
      · exact h
  | copyMrt i => exact h.copyMrt hstart hst
  | copyStatus i =>
      exact h.axi rfl hstart rfl rfl rfl rfl h.configVersion
        (fun hread => absurd hread (nextStatus_ne _ _)) h.processed
        fun hv r _ => h.scanned hv r (by rw [hst]; trivial)
  | copyFinish =>
      dsimp only
      rw [a4lCopyFinish]
      have hall (hv : s.nal.config nalConfigMrtVersion = s.fmc.currentNrcMrtVersion) :
          s.newest = s.fmc.currentMRT :=
        funext fun r => h.scanned hv r (by rw [hst]; trivial)
      split
      · exact h.axi rfl hstart rfl rfl rfl rfl h.configVersion (by rintro ⟨⟩)
          (fun hv => ⟨h.configVersion hv, hall hv⟩) fun _ _ hr => hr.elim
      · exact h.axi rfl hstart rfl rfl rfl rfl h.configVersion (by rintro ⟨⟩) h.processed
          fun _ _ hr => hr.elim
  | waitForSubFsms =>
      dsimp only
      split
      · exact h.axi rfl hstart rfl rfl rfl rfl h.configVersion (by rintro ⟨⟩) h.processed
          fun _ _ hr => hr.elim
      · exact h

/-- A call of `axi4liteProcessing` keeps the invariant. -/
lemma PubInv.axi4liteProcessing (h : PubInv s) (k : AxiCall) :
    PubInv { s with nal := Nal.axi4liteProcessing s.nal k } := by
  cases hstart : s.nal.tablesInitialized with
  | true =>
      have hsame := axi4liteProcessing_sameCopy s.nal k hstart
      exact (h.a4lStep hstart).of_sameCopy ((a4lStep_tablesInitialized s.nal).trans hstart) hsame
  | false =>
      obtain ⟨hconfig, hst⟩ := h.start hstart
      have hzero (r : Fin maxMrtSize) := h.unread r (.inl hstart)
      rw [Nal.axi4liteProcessing, if_neg (by rw [hstart]; decide)]
      refine ⟨h.above, h.copied, h.linkVersion, fun hv => h.configVersion (hconfig ▸ hv),
        fun hread => absurd (hst ▸ hread) (by rintro ⟨⟩), h.processed, fun hv r hr => ?_,
        fun r => .inr (.inr ⟨rfl, (hzero r).1⟩), fun r _ => hzero r, by rintro ⟨⟩⟩
      exact (hst ▸ hr : Scanned (.copyConfig 0) r).elim

/-- The invariant reads the queue of changes and the table of the agency together. -/
lemma PubInv.of_newest {mus : List NalMrtUpdate} {sus : List NalStatusUpdate} {a : MrtAgency}
    (h : PubInv s) (hnew : newestMRT mus a.localMRT = s.newest) : PubInv
    { s with nal := { s.nal with sMrtUpdate := mus, sStatusUpdate := sus }, agency := a } := by
  let t : Publication :=
    { s with nal := { s.nal with sMrtUpdate := mus, sStatusUpdate := sus }, agency := a }
  have hnewest : t.newest = s.newest := hnew
  have hunread (r : Fin maxMrtSize) : t.Unread r ↔ s.Unread r := by
    rw [Publication.Unread, hnewest]
    rfl
  refine ⟨h.above, h.copied, h.linkVersion, h.configVersion, h.readVersion, fun hv => ?_,
    fun hv r hr => ?_, fun r => ?_, fun r hr => ?_, h.start⟩
  · obtain ⟨hlv, hcur⟩ := h.processed hv
    exact ⟨hlv, hnewest.trans hcur⟩
  · exact (congrFun hnewest r).trans (h.scanned hv r hr)
  · rw [hnewest, hunread]
    exact h.row r
  · rw [hnewest]
    exact h.unread r ((hunread r).mp hr)

end Axi

/-! ### One operation on the table -/

section Operation

variable {s : Publication} {f : FmcState}

/-- An operation that leaves the table and its version as they are keeps the invariant. -/
lemma PubInv.same (h : PubInv s) (hcur : f.currentMRT = s.fmc.currentMRT)
    (hmax : s.fmc.maxDiscoveredNodeId ≤ f.maxDiscoveredNodeId)
    (hver : f.currentNrcMrtVersion = s.fmc.currentNrcMrtVersion)
    (hlink : f.linkCtrlFSM = s.fmc.linkCtrlFSM) : PubInv { s with fmc := f } := by
  refine ⟨fun r hr => ?_, fun r hr => ?_, fun hv => ?_, fun hv => ?_, fun hst hv => ?_,
    fun hv => ?_, fun hv r hr => ?_, h.row, fun r hr => ?_, h.start⟩
  · exact hcur ▸ h.above r (lt_of_le_of_lt hmax hr)
  · exact hcur ▸ h.copied r (hlink ▸ hr)
  · exact hcur ▸ h.linkVersion (hver ▸ hv)
  · exact hver ▸ h.configVersion (hver ▸ hv)
  · exact hver ▸ h.readVersion hst (hver ▸ hv)
  · obtain ⟨hlv, hnew⟩ := h.processed (hver ▸ hv)
    exact ⟨hver ▸ hlv, hcur ▸ hnew⟩
  · exact hcur ▸ h.scanned (hver ▸ hv) r hr
  · exact hcur ▸ h.unread r hr

/-- An operation that sets rows and takes a new version keeps the invariant, if the rows that are
copied keep what they hold and no row that was not read is set to one. -/
lemma PubInv.fresh (h : PubInv s)
    (hcopied : ∀ r, r.val < s.copyIndex → f.currentMRT r = s.fmc.currentMRT r)
    (hunset : ∀ r, f.maxDiscoveredNodeId < r → f.currentMRT r = s.fmc.currentMRT r)
    (hone : ∀ r, f.currentMRT r = 1 → s.fmc.currentMRT r = 1 ∨ ¬s.Unread r)
    (hmax : s.fmc.maxDiscoveredNodeId ≤ f.maxDiscoveredNodeId)
    (hver : ¬s.Held f.currentNrcMrtVersion) (hlink : f.linkCtrlFSM = s.fmc.linkCtrlFSM)
    (hop : s.fmc.linkCtrlFSM ≠ .updateVersion) : PubInv { s with fmc := f } := by
  rw [Publication.Held] at hver
  push Not at hver
  obtain ⟨hlv, hcv, hpv, hrv⟩ := hver
  refine ⟨fun r hr => ?_, fun r hr => ?_, fun hv => absurd hv hlv, fun hv => absurd hv hcv,
    fun hst hv => absurd hv (hrv hst), fun hv => absurd hv hpv, fun hv => absurd hv hcv, h.row,
    fun r hr => ?_, h.start⟩
  · have habove := h.above r (lt_of_le_of_lt hmax hr)
    exact ⟨(hunset r hr).trans habove.1, habove.2⟩
  · have hr' : s.fmc.linkCtrlFSM.Copied r := hlink ▸ hr
    refine (h.copied r hr').trans (hcopied r ?_).symm
    cases hst : s.fmc.linkCtrlFSM with
    | updateMrt i =>
        rw [hst] at hr'
        rw [Publication.copyIndex, hst]
        exact hr'
    | updateVersion => exact absurd hst hop
    | idle =>
        rw [hst] at hr'
        exact hr'.elim
    | wait =>
        rw [hst] at hr'
        exact hr'.elim
    | updateConfig =>
        rw [hst] at hr'
        exact hr'.elim
    | updateState i =>
        rw [hst] at hr'
        exact hr'.elim
    | updateSavedState =>
        rw [hst] at hr'
        exact hr'.elim
  · obtain ⟨hnew, hcur1, hlink1⟩ := h.unread r hr
    refine ⟨hnew, fun hf => ?_, hlink1⟩
    rcases hone r hf with hcur | hread
    · exact hcur1 hcur
    · exact hread hr

/-- A request that meets its condition keeps the invariant. -/
lemma PubInv.post (h : PubInv s) {b : HttpBuffer} {d : Bool} (hok : s.PostOk b d)
    (hop : s.fmc.linkCtrlFSM ≠ .updateVersion) :
    PubInv { s with fmc := opBufferToRouting b d s.fmc } := by
  cases d with
  | true => exact h.same rfl le_rfl rfl rfl
  | false =>
      have hdone := opBufferToRouting_spec b s.fmc
      have hver := hdone.version
      have hzero (v : Word) : v - 0 = v := BitVec.sub_zero v
      rcases hok with hd | ⟨hlen, hvalid, hheld, hlines⟩ | ⟨hiff, hrep⟩
      · cases hd
      · -- a complete table
        rw [if_pos hlen, if_pos hvalid, hzero] at hver
        have hrow (r : Fin maxMrtSize) {w : Word}
            (hw : (opBufferToRouting b false s.fmc).currentMRT r = w) :
            s.fmc.currentMRT r = w ∨ ∃ l ∈ b.routingLines, ∃ hl : l.rankID.toNat < maxMrtSize,
              r = ⟨l.rankID.toNat, hl⟩ ∧ l.address = w := by
          rcases hdone.row r with hsame | ⟨l, hl, hlr, hset⟩
          · exact .inl (hsame ▸ hw)
          · have hval : l.rankID.toNat < maxMrtSize := hlr ▸ r.isLt
            exact .inr ⟨l, (List.takeWhile_sublist _).subset hl, hval, Fin.ext hlr.symm, hset ▸ hw⟩
        refine h.fresh (fun r hr => ?_) hdone.unset (fun r hr => ?_) hdone.max (hver ▸ hheld)
          hdone.link hop
        · rcases hrow r rfl with hsame | ⟨l, hl, hval, rfl, hset⟩
          · exact hsame.symm
          · exact hset.symm.trans ((hlines l hl).1 hr hval).symm
        · rcases hrow r hr with hsame | ⟨l, hl, hval, rfl, hset⟩
          · exact .inl hsame
          · exact .inr ((hlines l hl).2 hset hval)
      · -- the version stays
        refine h.same (hdone.same hrep) hdone.max (hver.trans ?_) hdone.link
        by_cases hlen : 0 < b.bodyLen
        · rw [if_pos hlen, if_neg (hiff.mp hlen)]
          exact BitVec.add_sub_cancel _ _
        · rw [if_neg hlen, if_pos (not_not.mp fun hall => hlen (hiff.mpr hall)), hzero]

/-- A clear operation that meets its condition empties the table. -/
lemma PubInv.clear_row (h : PubInv s) (hok : s.ClearOk) (r : Fin maxMrtSize) :
    (opClearRoutingTable s.fmc).currentMRT r = 0 := by
  rw [opClearRoutingTable]
  dsimp only
  split_ifs with hr
  · rfl
  · rcases (not_lt.mp hr).eq_or_lt with heq | hlt
    · exact heq ▸ hok.2.1
    · exact (h.above r hlt).1

/-- A clear operation that meets its condition keeps the invariant. -/
lemma PubInv.clear (h : PubInv s) (hok : s.ClearOk)
    (hop : s.fmc.linkCtrlFSM ≠ .updateVersion) :
    PubInv { s with fmc := opClearRoutingTable s.fmc } := by
  refine h.fresh (fun r hr => ?_) (fun r hr => ?_) (fun r hr => ?_) le_rfl hok.1 rfl hop
  · exact (h.clear_row hok r).trans (hok.2.2 r hr).symm
  · exact (h.clear_row hok r).trans (h.above r hr).1.symm
  · rw [h.clear_row hok r] at hr
    exact absurd hr (by decide)

end Operation

/-! ### Runs -/

/-- A step that meets its condition keeps the invariant. -/
lemma PubInv.next {s t : Publication} {k : PubStep} (h : PubInv s) (hok : s.StepOk k)
    (hstep : pubNext s k = some t) : PubInv t := by
  have hop {op : FmcState → FmcState} (hstep : fmcOp s op = some t) :
      s.fmc.linkCtrlFSM ≠ .updateVersion ∧ t = { s with fmc := op s.fmc } := by
    rw [fmcOp] at hstep
    split_ifs at hstep with hver
    exact ⟨hver, (Option.some.inj hstep).symm⟩
  cases k with
  | post b d =>
      obtain ⟨hver, rfl⟩ := hop hstep
      exact h.post hok hver
  | clear =>
      obtain ⟨hver, rfl⟩ := hop hstep
      exact h.clear hok hver
  | setRank newRank =>
      have hrank : fmcOp s (fun f => { f with nodeRank := newRank, needToUpdateNrcConfig := true }) =
        some t := hstep
      obtain ⟨-, rfl⟩ := hop hrank
      exact h.same rfl le_rfl rfl rfl
  | link k =>
      cases hstep
      exact h.link k
  | axi k =>
      cases hstep
      exact h.axi4liteProcessing k
  | agency k =>
      cases hstep
      exact h.of_newest (newestMRT_pMrtAgency s.agency k s.nal.sMrtUpdate)
  | status su =>
      cases hstep
      exact h.of_newest rfl
  | request r =>
      cases hstep
      have hmrt : (r.push s.agency).localMRT = s.agency.localMRT := by
        cases r <;> rfl
      exact h.of_newest (congrArg (newestMRT s.nal.sMrtUpdate) hmrt)

/-- After a clear operation and without a request the table stays empty. -/
lemma currentMRT_next {s t : Publication} {k : PubStep} (hk : ∀ b d, k ≠ .post b d)
    (h : s.fmc.currentMRT = fun _ => 0) (hstep : pubNext s k = some t) :
    t.fmc.currentMRT = fun _ => 0 := by
  have hop {op : FmcState → FmcState} (hstep : fmcOp s op = some t) :
      t = { s with fmc := op s.fmc } := by
    rw [fmcOp] at hstep
    split_ifs at hstep
    exact (Option.some.inj hstep).symm
  cases k with
  | post b d => exact absurd rfl (hk b d)
  | clear =>
      obtain rfl := @hop opClearRoutingTable hstep
      funext r
      rw [opClearRoutingTable, h]
      exact ite_self _
  | setRank newRank =>
      have hrank : fmcOp s (fun f => { f with nodeRank := newRank, needToUpdateNrcConfig := true }) =
        some t := hstep
      obtain rfl := hop hrank
      exact h
  | link k =>
      cases hstep
      exact (linkCtrl_cases s.fmc s.nal.ctrlLink k).1.currentMRT.trans h
  | axi k =>
      cases hstep
      exact h
  | agency k =>
      cases hstep
      exact h
  | status su =>
      cases hstep
      exact h
  | request r =>
      cases hstep
      exact h

/-- The condition along a run. -/
def RunOk (ks : List PubStep) : Prop :=
  pubMachine.Holds (fun s k _ => s.StepOk k) {} ks

/-- A clear operation of the run that no request follows. -/
def EndsCleared (ks : List PubStep) : Prop :=
  ∃ pre post, ks = pre ++ .clear :: post ∧ ∀ b d, .post b d ∉ post

instance (s : Publication) : Decidable s.Pending :=
  match h : s.fmc.linkCtrlFSM with
  | .updateVersion => isTrue (.inr (.inl h))
  | .updateMrt i => isTrue (.inr (.inr ⟨i, h⟩))
  | .idle | .wait | .updateConfig | .updateState _ | .updateSavedState =>
      decidable_of_iff (s.fmc.needToUpdateNrcMrt = true) (by simp [Publication.Pending, h])

instance (s : Publication) : Decidable s.Settled := inferInstanceAs (Decidable (_ ∧ _ ∧ _))

instance (s : Publication) (v : Word) : Decidable (s.Held v) :=
  inferInstanceAs (Decidable (_ ∨ _ ∨ _ ∨ _ ∧ _))

instance (s : Publication) (r : Fin maxMrtSize) : Decidable (s.Unread r) :=
  inferInstanceAs (Decidable (_ ∨ _ ∧ _))

instance (s : Publication) (l : RoutingLine) : Decidable (s.LineOk l) :=
  inferInstanceAs (Decidable ((_ → _) ∧ (_ → _)))

instance (s : Publication) : (k : PubStep) → Decidable (s.StepOk k)
  | .post _ _ => inferInstanceAs (Decidable (_ ∨ _ ∧ _ ∧ _ ∧ _ ∨ (_ ↔ _) ∧ _))
  | .clear => inferInstanceAs (Decidable (_ ∧ _ ∧ _))
  | .setRank _ | .link _ | .axi _ | .agency _ | .status _ | .request _ => isTrue trivial

instance (ks : List PubStep) : Decidable (RunOk ks) := Machine.decidableHolds _ _ _

/-- In every settled state of a run whose operations all meet their condition, the table of the
agency is the one of the FMC; and no node has an address if no request came after a clear
operation. -/
theorem settled_agrees {ks : List PubStep} {s : Publication} (hok : RunOk ks)
    (hrun : pubMachine.run {} ks = some s) (hs : s.Settled) :
    s.Agrees ∧ (EndsCleared ks → ∀ r, s.agency.localMRT r = 0) := by
  have hstep (s : Publication) (k : PubStep) (t : Publication) (h : PubInv s) (hok : s.StepOk k)
      (hst : pubMachine.step s k = some t) : PubInv t := h.next hok hst
  have hagrees := (Machine.run_inv_of_holds hstep PubInv.initial hok hrun).agrees hs
  refine ⟨hagrees, fun ⟨pre, post, hks, hpost⟩ r => ?_⟩
  rw [hks, Machine.run_append, Option.bind_eq_some_iff] at hrun
  obtain ⟨u, hu, hrun⟩ := hrun
  obtain ⟨v, hclear, hrun⟩ := (Machine.run_cons_eq_some _).mp hrun
  rw [RunOk, hks, Machine.holds_append] at hok
  have hinv := Machine.run_inv_of_holds hstep PubInv.initial hok.1 hu
  have hclearOk : u.ClearOk := (hok.2 u hu v hclear).1
  have hempty : v.fmc.currentMRT = fun _ => 0 := by
    have hop : fmcOp u opClearRoutingTable = some v := hclear
    rw [fmcOp] at hop
    split_ifs at hop
    rw [← Option.some.inj hop]
    exact funext (hinv.clear_row hclearOk)
  have hkept (s : Publication) (k : PubStep) (t : Publication)
      (h : s.fmc.currentMRT = fun _ => 0) (hk : ∀ b d, k ≠ .post b d)
      (hst : pubMachine.step s k = some t) : t.fmc.currentMRT = fun _ => 0 :=
    currentMRT_next hk h hst
  have hnone : pubMachine.Holds (fun _ k _ => ∀ b d, k ≠ .post b d) v post :=
    pubMachine.holds_of_forall fun k hk _ _ b d hkp => hpost b d (hkp ▸ hk)
  exact congrFun (hagrees.trans (Machine.run_inv_of_holds hkept hempty hnone hrun)) r

/-- A request with the lines of the given nodes and addresses. -/
def requestOf (lines : List (Byte × Ip4Addr)) : HttpBuffer :=
  let body := lines.flatMap fun (digit, address) =>
    [digit, 0x20, address.extractLsb' 24 8, address.extractLsb' 16 8, address.extractLsb' 8 8,
      address.extractLsb' 0 8, 0x0A]
  { bufferIn := body ++ [0x0D, 0x0A, 0x0D, 0x0A]
    bufferInPtrNextRead := 0
    bufferInPtrMaxWrite := body.length + 3 }

/-- One request, its copy, a clear operation, its copy, one round of the NAL, and all changes. -/
def setAndClear (lines : List (Byte × Ip4Addr)) : List PubStep :=
  (.post (requestOf lines) false :: List.replicate 6 (.link {})) ++
    .clear :: (List.replicate 6 (.link {}) ++ List.replicate 102 (.axi {}) ++
      List.replicate 128 (.agency {}))

lemma endsCleared_setAndClear (lines : List (Byte × Ip4Addr)) :
    EndsCleared (setAndClear lines) := by
  refine ⟨_, _, rfl, fun b d h => ?_⟩
  rw [List.mem_append, List.mem_append] at h
  rcases h with (h | h) | h
  · cases List.eq_of_mem_replicate h
  · cases List.eq_of_mem_replicate h
  · cases List.eq_of_mem_replicate h

set_option maxRecDepth 10000 in
/-- A node is set and cleared, and the last row is empty. -/
theorem settled_agrees_cleared :
    ∃ s ∈ pubMachine.run {} (setAndClear [(0x31, 0x0A0CC805), (0x32, 0)]),
      s.Settled ∧ s.Agrees ∧ ∀ r, s.agency.localMRT r = 0 := by
  have hrun : ∃ s ∈ pubMachine.run {} (setAndClear [(0x31, 0x0A0CC805), (0x32, 0)]),
      s.Settled := by decide +kernel
  obtain ⟨s, hs, hsettled⟩ := hrun
  obtain ⟨hagrees, hzero⟩ := settled_agrees (by decide +kernel) hs hsettled
  exact ⟨s, hs, hsettled, hagrees, hzero (endsCleared_setAndClear _)⟩

set_option maxRecDepth 10000 in
/-- A node is set and cleared, and keeps its address, because its row is the last one. -/
theorem last_row_kept :
    ¬∀ ks s, pubMachine.run {} ks = some s → s.Settled →
      s.Agrees ∧ (EndsCleared ks → ∀ r, s.agency.localMRT r = 0) := by
  intro h
  have hrun : ∃ s ∈ pubMachine.run {} (setAndClear [(0x31, 0x0A0CC805)]),
      s.Settled ∧ s.agency.localMRT 1 = 0x0A0CC805 := by decide +kernel
  obtain ⟨s, hs, hsettled, hrow⟩ := hrun
  have hzero := (h _ s hs hsettled).2 (endsCleared_setAndClear _) 1
  exact absurd (hrow.symm.trans hzero) (by decide)

end CloudFpga.Fmc
