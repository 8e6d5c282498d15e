import CloudFpga.Nal.Types

/-!
The AXI4-Lite endpoint of the NAL, `axi4liteProcessing` of `hss.cpp`. It copies the configuration
and the MRT (message routing table) that the FMC writes, hands their changes on, and writes the
status words back.

* `CtrlLink`: the words of the bus. `AxiLite`: the state of the process.
* `a4lStep`, `cbStep`, `mbStep`: the copies, the broadcast of a configuration word, and the broadcast
  of an MRT version; `axi4liteProcessing` takes one step of each.
-/

namespace CloudFpga.Nal

/-- `NUMBER_CONFIG_WORDS`. -/
abbrev numberConfigWords : ℕ := 16

/-- `NUMBER_STATUS_WORDS`. -/
abbrev numberStatusWords : ℕ := 16

/-- `MAX_MRT_SIZE`. -/
abbrev maxMrtSize : ℕ := 64

instance : NeZero numberConfigWords := ⟨by decide⟩

instance : NeZero maxMrtSize := ⟨by decide⟩

/-- The words of `ctrlLink`: configuration, status and MRT. -/
structure CtrlLink where
  config : Fin numberConfigWords → Word := fun _ => 0
  status : Fin numberStatusWords → Word := fun _ => 0
  mrt : Fin maxMrtSize → Word := fun _ => 0
  deriving DecidableEq

/-- `NAL_CONFIG_MRT_VERSION`. -/
def nalConfigMrtVersion : Fin numberConfigWords := 1

/-- A new value of a status word. -/
structure NalStatusUpdate where
  statusAddr : Fin numberStatusWords
  newValue : Word
  deriving DecidableEq

/-- An address for a node. -/
structure NalMrtUpdate where
  nid : Fin maxMrtSize
  ip4a : Ip4Addr
  deriving DecidableEq

/-- The states of the copies. Those that use `tableCopyVariable` have it as an argument. -/
inductive AxiLiteFsmStates where
  | statusUpdate
  | copyConfig (tableCopyVariable : Fin numberConfigWords)
  | copyConfig2 (tableCopyVariable : Fin numberConfigWords)
  | copyMrt (tableCopyVariable : Fin maxMrtSize)
  | copyStatus (tableCopyVariable : Fin numberStatusWords)
  | copyFinish
  | waitForSubFsms
  deriving DecidableEq

inductive ConfigBcastStates where
  | wait | start | cb1 | cb2 | cb30 | cb31 | cb32
  deriving DecidableEq

/-- To whom a word of the configuration is handed on: nobody, the TCP tables, the port logic, or
those that need the own rank. -/
def selectConfigUpdatePropagation (configAddr : Fin numberConfigWords) : ConfigBcastStates :=
  if configAddr = 0 then .cb30
  else if configAddr = 2 ∨ configAddr = 3 ∨ configAddr = 4 then .cb2
  else .wait

/-- The registers, the bus, the stream of the status updates, and what was written to the other
streams. -/
structure AxiLite where
  tablesInitialized : Bool := false
  a4lFsm : AxiLiteFsmStates := .copyConfig 0
  cbFsm : ConfigBcastStates := .wait
  mbFsm : ConfigBcastStates := .wait
  processedMrtVersion : Word := 0
  config : Fin numberConfigWords → Word := fun _ => 0
  status : Fin numberStatusWords → Word := fun _ => 0
  configProp : ConfigBcastStates := .wait
  cuToCB : NalConfigUpdate := ⟨0, 0⟩
  newWord : Word := 0
  localMRT : Fin maxMrtSize → Word := fun _ => 0
  ctrlLink : CtrlLink := {}
  sStatusUpdate : List NalStatusUpdate := []
  sToPortLogic : List NalConfigUpdate := []
  sToUdpRx : List NalConfigUpdate := []
  sToTcpRx : List NalConfigUpdate := []
  sToStatusProc : List NalConfigUpdate := []
  sMrtUpdate : List NalMrtUpdate := []
  mrtVersionUpdate0 : List Word := []
  mrtVersionUpdate1 : List Word := []
  deriving DecidableEq

/-- Which of the streams that are asked for room have it. -/
structure AxiCall where
  portLogicRoom : Bool := true
  udpRxRoom : Bool := true
  tcpRxRoom : Bool := true
  statusProcRoom : Bool := true
  version0Room : Bool := true
  version1Room : Bool := true
  deriving DecidableEq

/-- `A4L_STATUS_UPDATE`: a status word is updated, if there is an update. -/
def a4lStatusUpdate (status : Fin numberStatusWords → Word) :
    List NalStatusUpdate → (Fin numberStatusWords → Word) × List NalStatusUpdate
  | su :: sus => (Function.update status su.statusAddr su.newValue, sus)
  | [] => (status, [])

/-- The state of the copies after a word of the configuration. -/
def nextConfig (i : Fin numberConfigWords) : AxiLiteFsmStates :=
  if h : i.val + 1 < numberConfigWords then .copyConfig ⟨i.val + 1, h⟩ else .copyMrt 0

def nextMrt (i : Fin maxMrtSize) : AxiLiteFsmStates :=
  if h : i.val + 1 < maxMrtSize then .copyMrt ⟨i.val + 1, h⟩ else .copyStatus 0

def nextStatus (i : Fin numberStatusWords) : AxiLiteFsmStates :=
  if h : i.val + 1 < numberStatusWords then .copyStatus ⟨i.val + 1, h⟩ else .copyFinish

section Process

variable (s : AxiLite)

/-- One word of the configuration is compared. A new one starts its broadcast. -/
def a4lCopyConfig (i : Fin numberConfigWords) : AxiLite :=
  if s.ctrlLink.config i ≠ s.config i then
    { s with
      newWord := s.ctrlLink.config i
      configProp := selectConfigUpdatePropagation i
      cuToCB := ⟨BitVec.ofNat 16 i.val, s.ctrlLink.config i⟩
      cbFsm := .start
      a4lFsm := .copyConfig2 i }
  else { s with newWord := s.ctrlLink.config i, a4lFsm := nextConfig i }

/-- One row of the MRT is copied. A new address is handed on, twice. -/
def a4lCopyMrt (i : Fin maxMrtSize) : AxiLite :=
  if s.ctrlLink.mrt i ≠ s.localMRT i then
    { s with
      sMrtUpdate := s.sMrtUpdate ++ [⟨i, s.ctrlLink.mrt i⟩, ⟨i, s.ctrlLink.mrt i⟩]
      localMRT := Function.update s.localMRT i (s.ctrlLink.mrt i)
      a4lFsm := nextMrt i }
  else { s with a4lFsm := nextMrt i }

/-- A new MRT version is acknowledged. -/
def a4lCopyFinish : AxiLite :=
  if s.config nalConfigMrtVersion ≠ s.processedMrtVersion then
    { s with
      mbFsm := .start
      processedMrtVersion := s.config nalConfigMrtVersion
      a4lFsm := .waitForSubFsms }
  else { s with a4lFsm := .waitForSubFsms }

def a4lStep : AxiLite :=
  match s.a4lFsm with
  | .statusUpdate =>
      if s.sStatusUpdate.isEmpty then { s with a4lFsm := .copyConfig 0 }
      else
        { s with
          status := (a4lStatusUpdate s.status s.sStatusUpdate).1
          sStatusUpdate := (a4lStatusUpdate s.status s.sStatusUpdate).2 }
  | .copyConfig i => a4lCopyConfig s i
  | .copyConfig2 i =>
      if s.cbFsm = .wait then
        { s with config := Function.update s.config i s.newWord, a4lFsm := nextConfig i }
      else s
  | .copyMrt i => a4lCopyMrt s i
  | .copyStatus i =>
      { s with
        ctrlLink := { s.ctrlLink with
          status := Function.update s.ctrlLink.status i (s.status i) }
        a4lFsm := nextStatus i }
  | .copyFinish => a4lCopyFinish s
  | .waitForSubFsms =>
      if s.mbFsm = .wait ∧ s.cbFsm = .wait then { s with a4lFsm := .statusUpdate } else s

/-- The broadcast of a word of the configuration. -/
def cbStep (k : AxiCall) : AxiLite :=
  match s.cbFsm with
  | .wait => s
  | .start => { s with cbFsm := s.configProp }
  | .cb1 => { s with cbFsm := .wait }
  | .cb2 =>
      if k.portLogicRoom then { s with sToPortLogic := s.sToPortLogic ++ [s.cuToCB], cbFsm := .wait }
      else s
  | .cb30 =>
      if k.udpRxRoom then { s with sToUdpRx := s.sToUdpRx ++ [s.cuToCB], cbFsm := .cb31 } else s
  | .cb31 =>
      if k.tcpRxRoom then { s with sToTcpRx := s.sToTcpRx ++ [s.cuToCB], cbFsm := .cb32 } else s
  | .cb32 =>
      if k.statusProcRoom then
        { s with sToStatusProc := s.sToStatusProc ++ [s.cuToCB], cbFsm := .wait }
      else s

/-- The broadcast of an MRT version. -/
def mbStep (k : AxiCall) : AxiLite :=
  match s.mbFsm with
  | .start => { s with mbFsm := .cb1 }
  | .cb1 =>
      if k.version0Room then
        { s with mrtVersionUpdate0 := s.mrtVersionUpdate0 ++ [s.processedMrtVersion], mbFsm := .cb2 }
      else s
  | .cb2 =>
      if k.version1Room then
        { s with mrtVersionUpdate1 := s.mrtVersionUpdate1 ++ [s.processedMrtVersion], mbFsm := .wait }
      else s
  | _ => s

/-- One call. The first one initialises the tables. -/
def axi4liteProcessing (k : AxiCall) : AxiLite :=
  if s.tablesInitialized then mbStep (cbStep (a4lStep s) k) k
  else
    { s with
      tablesInitialized := true
      localMRT := fun _ => 1
      config := fun _ => 0
      status := fun _ => 0 }

/-- The status words and their updates change in `A4L_STATUS_UPDATE` only. -/
lemma axi4liteProcessing_status (k : AxiCall) (h : s.tablesInitialized = true) :
    (axi4liteProcessing s k).status = (if s.a4lFsm = .statusUpdate
      then (a4lStatusUpdate s.status s.sStatusUpdate).1 else s.status) ∧
    (axi4liteProcessing s k).sStatusUpdate = (if s.a4lFsm = .statusUpdate
      then (a4lStatusUpdate s.status s.sStatusUpdate).2 else s.sStatusUpdate) := by
  have hmb (s : AxiLite) : (mbStep s k).status = s.status ∧
      (mbStep s k).sStatusUpdate = s.sStatusUpdate := by
    rw [mbStep]
    repeat' split
    all_goals exact ⟨rfl, rfl⟩
  have hcb (s : AxiLite) : (cbStep s k).status = s.status ∧
      (cbStep s k).sStatusUpdate = s.sStatusUpdate := by
    rw [cbStep]
    repeat' split
    all_goals exact ⟨rfl, rfl⟩
  rw [axi4liteProcessing, if_pos h, (hmb _).1, (hmb _).2, (hcb _).1, (hcb _).2, a4lStep]
  cases hst : s.a4lFsm with
  | statusUpdate =>
      dsimp only
      cases hsu : s.sStatusUpdate with
      | nil => exact ⟨rfl, rfl⟩
      | cons su sus => exact ⟨rfl, rfl⟩
  | copyConfig i =>
      dsimp only
      rw [a4lCopyConfig]
      split
      · exact ⟨rfl, rfl⟩
      · exact ⟨rfl, rfl⟩
  | copyConfig2 i =>
      dsimp only
      split
      · exact ⟨rfl, rfl⟩
      · exact ⟨rfl, rfl⟩
  | copyMrt i =>
      dsimp only
      rw [a4lCopyMrt]
      split
      · exact ⟨rfl, rfl⟩
      · exact ⟨rfl, rfl⟩
  | copyStatus i => exact ⟨rfl, rfl⟩
  | copyFinish =>
      dsimp only
      rw [a4lCopyFinish]
      split
      · exact ⟨rfl, rfl⟩
      · exact ⟨rfl, rfl⟩
  | waitForSubFsms =>
      dsimp only
      split
      · exact ⟨rfl, rfl⟩
      · exact ⟨rfl, rfl⟩

end Process

/-- The broadcasts write to their streams, and nothing of the copies. -/
structure SameCopy (s t : AxiLite) : Prop where
  tablesInitialized : t.tablesInitialized = s.tablesInitialized
  a4lFsm : t.a4lFsm = s.a4lFsm
  processedMrtVersion : t.processedMrtVersion = s.processedMrtVersion
  config : t.config = s.config
  newWord : t.newWord = s.newWord
  localMRT : t.localMRT = s.localMRT
  ctrlLink : t.ctrlLink = s.ctrlLink
  sMrtUpdate : t.sMrtUpdate = s.sMrtUpdate

@[simp] lemma a4lStep_tablesInitialized (s : AxiLite) :
    (a4lStep s).tablesInitialized = s.tablesInitialized := by
  rw [a4lStep]
  split
  · split <;> rfl
  · rw [a4lCopyConfig]
    split <;> rfl
  · split <;> rfl
  · rw [a4lCopyMrt]
    split <;> rfl
  · rfl
  · rw [a4lCopyFinish]
    split <;> rfl
  · split <;> rfl

lemma cbStep_sameCopy (s : AxiLite) (k : AxiCall) : SameCopy s (cbStep s k) := by
  rw [cbStep]
  split
  · constructor <;> rfl
  · constructor <;> rfl
  · constructor <;> rfl
  all_goals split <;> constructor <;> rfl

lemma mbStep_sameCopy (s : AxiLite) (k : AxiCall) : SameCopy s (mbStep s k) := by
  rw [mbStep]
  split
  · constructor <;> rfl
  · split <;> constructor <;> rfl
  · split <;> constructor <;> rfl
  · constructor <;> rfl

/-- A call copies, up to what the broadcasts write. -/
lemma axi4liteProcessing_sameCopy (s : AxiLite) (k : AxiCall) (h : s.tablesInitialized = true) :
    SameCopy (a4lStep s) (axi4liteProcessing s k) := by
  rw [axi4liteProcessing, if_pos h]
  have hcb := cbStep_sameCopy (a4lStep s) k
  have hmb := mbStep_sameCopy (cbStep (a4lStep s) k) k
  constructor
  · exact hmb.tablesInitialized.trans hcb.tablesInitialized
  · exact hmb.a4lFsm.trans hcb.a4lFsm
  · exact hmb.processedMrtVersion.trans hcb.processedMrtVersion
  · exact hmb.config.trans hcb.config
  · exact hmb.newWord.trans hcb.newWord
  · exact hmb.localMRT.trans hcb.localMRT
  · exact hmb.ctrlLink.trans hcb.ctrlLink
  · exact hmb.sMrtUpdate.trans hcb.sMrtUpdate

end CloudFpga.Nal
