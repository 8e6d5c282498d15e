import CloudFpga.Nal.Types

/-!
The ports that the FMC and the ROLE want to listen on, `pPortLogic` of `hss.cpp`.

* `getRightmostBitPos`: the lowest bit of a vector.
* `pPortLogic`: one call. It compares the vectors of the ROLE with the vectors of the ports that are
  processed, and has one port opened or closed after the other.
-/

namespace CloudFpga.Nal

/-- `NAL_RX_MIN_PORT`: the port of bit zero. -/
def nalRxMinPort : BitVec 16 := 2718

/-! ### Bits -/

/-- The loop of `getRightmostBitPos`. -/
def rightmostLoop : ℕ → Word → Word → Word
  | 0, _, pos => pos
  | n + 1, oneHot, pos =>
      if oneHot ≤ 1 then pos else rightmostLoop n (oneHot >>> 1) (pos + 1)

def getRightmostBitPos (num : Word) : Word := rightmostLoop 32 (num &&& -num) 0

/-- A single bit `i` is left of `num`. -/
lemma and_neg_eq_twoPow {num : Word} {i : ℕ} (hi : num.getLsbD i = true)
    (hlow : ∀ j < i, num.getLsbD j = false) : num &&& -num = BitVec.twoPow 32 i := by
  have hlt : i < 32 := BitVec.lt_of_getLsbD hi
  have hnone : ¬∃ j < i, num.getLsbD j = true := by
    rintro ⟨j, hj, hset⟩
    rw [hlow j hj] at hset
    cases hset
  apply BitVec.eq_of_getLsbD_eq
  intro j hj
  rw [BitVec.getLsbD_and, BitVec.getLsbD_neg, BitVec.getLsbD_twoPow, decide_eq_true hj,
    decide_eq_true hlt, Bool.true_and, Bool.true_and]
  rcases lt_trichotomy j i with hji | rfl | hji
  · rw [hlow j hji, Bool.false_and, decide_eq_false (by omega)]
  · rw [hi, decide_eq_false hnone, decide_eq_true rfl]
    rfl
  · have hsome : ∃ l < j, num.getLsbD l = true := ⟨i, hji, hi⟩
    rw [decide_eq_true hsome, decide_eq_false (by omega)]
    cases num.getLsbD j with
    | true => rfl
    | false => rfl

lemma twoPow_succ_shift (i : ℕ) (hi : i + 1 < 32) :
    BitVec.twoPow 32 (i + 1) >>> 1 = BitVec.twoPow 32 i := by
  apply BitVec.eq_of_getLsbD_eq
  intro j hj
  rw [BitVec.getLsbD_ushiftRight, BitVec.getLsbD_twoPow, BitVec.getLsbD_twoPow,
    decide_eq_true hi, decide_eq_true (Nat.lt_of_succ_lt hi), Bool.true_and, Bool.true_and]
  congr 1
  exact propext (by omega)

lemma rightmostLoop_twoPow {n i : ℕ} (hi : i < 32) (hn : i ≤ n) (pos : Word) :
    rightmostLoop n (BitVec.twoPow 32 i) pos = pos + BitVec.ofNat 32 i := by
  induction i generalizing n pos with
  | zero =>
      cases n with
      | zero => exact (BitVec.add_zero pos).symm
      | succ n =>
          rw [rightmostLoop, if_pos (by decide)]
          exact (BitVec.add_zero pos).symm
  | succ i ih =>
      obtain ⟨n, rfl⟩ : ∃ m, n = m + 1 := ⟨n - 1, by omega⟩
      have hbig : ¬BitVec.twoPow 32 (i + 1) ≤ 1 := by
        have hone : (1 : Word).toNat = 1 := rfl
        have hpow : 1 < 2 ^ (i + 1) := Nat.one_lt_two_pow (Nat.succ_ne_zero i)
        rw [BitVec.le_def, hone, BitVec.toNat_twoPow_of_lt hi]
        omega
      rw [rightmostLoop, if_neg hbig, twoPow_succ_shift i hi, ih (by omega) (by omega)]
      rw [BitVec.add_assoc]
      congr 1
      apply BitVec.eq_of_toNat_eq
      rw [BitVec.toNat_add, BitVec.toNat_ofNat, BitVec.toNat_ofNat]
      have hnat : (1 : Word).toNat = 1 := rfl
      rw [hnat]
      omega

/-- The position of the lowest bit of a vector that is not zero. -/
theorem getRightmostBitPos_spec {num : Word} (h : num ≠ 0) :
    ∃ i, getRightmostBitPos num = BitVec.ofNat 32 i ∧ num.getLsbD i = true ∧
      ∀ j < i, num.getLsbD j = false := by
  have hsome : ∃ i, num.getLsbD i = true := by
    by_contra hnone
    refine h (BitVec.eq_of_getLsbD_eq fun i _ => ?_)
    have hzero : (0 : Word).getLsbD i = false := BitVec.getLsbD_zero
    rw [hzero]
    exact Bool.eq_false_iff.mpr fun hset => hnone ⟨i, hset⟩
  have hspec := Nat.find_spec hsome
  have hlow (j : ℕ) (hj : j < Nat.find hsome) : num.getLsbD j = false :=
    Bool.eq_false_iff.mpr (Nat.find_min hsome hj)
  refine ⟨Nat.find hsome, ?_, hspec, hlow⟩
  have hlt : Nat.find hsome < 32 := BitVec.lt_of_getLsbD hspec
  rw [getRightmostBitPos, and_neg_eq_twoPow hspec hlow, rightmostLoop_twoPow hlt (by omega)]
  exact BitVec.zero_add _

/-! ### The process -/

inductive PortFsmStates where
  | reset | idle | l4Reset | newUdpReq | newUdpRep | newFmcReq | newFmcRep | newTcpReq | newTcpRep
  | l7Reset | waitPr | startTcpCls1 | startTcpCls2 | startUdpCls | sendUpdate
  deriving DecidableEq, Repr

/-- `NAL_CONFIG_SAVED_UDP_PORTS`, `NAL_CONFIG_SAVED_TCP_PORTS` and `NAL_CONFIG_SAVED_FMC_PORTS`. -/
def nalConfigSavedUdpPorts : BitVec 16 := 2

def nalConfigSavedTcpPorts : BitVec 16 := 3

def nalConfigSavedFmcPorts : BitVec 16 := 4

/-- The registers and input streams. -/
structure PortLogic where
  processedFMCListenPort : BitVec 16 := 0
  tcpRxPortsProcessed : Word := 0
  udpRxPortsProcessed : Word := 0
  portFsm : PortFsmStates := .reset
  mmioStabilizeCounter : BitVec 16
  newRelativePortToReqUdp : BitVec 16 := 0
  newRelativePortToReqTcp : BitVec 16 := 0
  currentRequestedPort : BitVec 16 := 0
  currentPortUpdate : NalPortUpdate := ⟨.fmc, 0⟩
  sConfigUpdate : List NalConfigUpdate := []
  sUdpPortsOpenFeedback : List Bool := []
  sTcpPortsOpenFeedback : List Bool := []
  deriving DecidableEq

/-- `NAL_MMIO_STABILIZE_TIME`, and what the simulation has in its place. -/
def nalMmioStabilizeTime : Build → BitVec 16
  | .simulation => 1
  | .synthesis => 150

/-- The signals at a call, and which output streams have room. -/
structure PortCall where
  layer4Enabled : Bool := true
  layer7Enabled : Bool := true
  roleDecoupled : Bool := false
  ntsReady : Bool := true
  fmcLsnPort : BitVec 16 := 0
  udpRxPorts : Word := 0
  tcpRxPorts : Word := 0
  udpOpenRoom : Bool := true
  udpCloseRoom : Bool := true
  tcpOpenRoom : Bool := true
  markToDelRoom : Bool := true
  portUpdateRoom : Bool := true
  startTclClsRoom : Bool := true
  deriving DecidableEq

/-- What a call writes. -/
structure PortOut where
  sUdpPortsToOpen : List (BitVec 16) := []
  sUdpPortsToClose : List (BitVec 16) := []
  sTcpPortsToOpen : List (BitVec 16) := []
  sMarkToDelUnpriv : List Bool := []
  sPortUpdate : List NalPortUpdate := []
  sStartTclCls : List Bool := []
  deriving DecidableEq

section Process

variable (s : PortLogic) (k : PortCall)

/-- Layer 4 is enabled and the NTS is ready. -/
def PortCall.up : Bool := k.layer4Enabled && k.ntsReady

/-- The ports of the ROLE can be processed. -/
def PortCall.coupled : Bool := k.layer7Enabled && !k.roleDecoupled

/-- The bits of `ports` that are not yet processed. -/
def portDiff (processed ports : Word) : Word := processed ^^^ (processed ||| ports)

/-- `PORT_IDLE`: a state that was saved before a reset. -/
def portRestore (ca : NalConfigUpdate) (cas : List NalConfigUpdate) : PortLogic :=
  let s : PortLogic := { s with sConfigUpdate := cas }
  if ca.configAddr = nalConfigSavedFmcPorts then
    if s.processedFMCListenPort = 0 then
      { s with processedFMCListenPort := ca.updateValue.setWidth 16 }
    else s
  else if ca.configAddr = nalConfigSavedUdpPorts then
    if s.udpRxPortsProcessed = 0 then { s with udpRxPortsProcessed := ca.updateValue } else s
  else if ca.configAddr = nalConfigSavedTcpPorts then
    if s.tcpRxPortsProcessed = 0 then { s with tcpRxPortsProcessed := ca.updateValue } else s
  else s

/-- `PORT_IDLE`. -/
def portIdle : PortLogic :=
  match s.sConfigUpdate with
  | ca :: cas => portRestore s ca cas
  | [] =>
      if ¬k.up then { s with portFsm := .l4Reset }
      else if s.processedFMCListenPort ≠ k.fmcLsnPort then { s with portFsm := .newFmcReq }
      else if ¬k.coupled then { s with portFsm := .l7Reset }
      else if s.udpRxPortsProcessed ≠ k.udpRxPorts then { s with portFsm := .newUdpReq }
      else if s.tcpRxPortsProcessed ≠ k.tcpRxPorts then { s with portFsm := .newTcpReq }
      else s

/-- `PORT_L4_RESET`. -/
def portL4Reset : PortLogic × PortOut :=
  if k.portUpdateRoom = true ∧ (s.processedFMCListenPort ≠ 0 ∨ s.udpRxPortsProcessed ≠ 0 ∨
      s.tcpRxPortsProcessed ≠ 0) then
    if s.processedFMCListenPort ≠ 0 then
      ({ s with processedFMCListenPort := 0 }, { sPortUpdate := [⟨.fmc, 0⟩] })
    else if s.udpRxPortsProcessed ≠ 0 then
      ({ s with udpRxPortsProcessed := 0 }, { sPortUpdate := [⟨.udp, 0⟩] })
    else ({ s with tcpRxPortsProcessed := 0 }, { sPortUpdate := [⟨.tcp, 0⟩] })
  else if k.up then
    ({ s with
        processedFMCListenPort := 0
        udpRxPortsProcessed := 0
        tcpRxPortsProcessed := 0
        portFsm := .idle }, {})
  else (s, {})

/-- `PORT_L7_RESET`. -/
def portL7Reset : PortLogic :=
  if k.up then
    if s.udpRxPortsProcessed ≠ 0 then { s with portFsm := .startUdpCls }
    else if s.tcpRxPortsProcessed ≠ 0 then { s with portFsm := .startTcpCls1 }
    else { s with portFsm := .idle }
  else { s with portFsm := .l4Reset }

/-- `PORT_START_UDP_CLS`: one port after the other is closed. -/
def portStartUdpCls : PortLogic × PortOut :=
  if s.udpRxPortsProcessed ≠ 0 then
    let newRelativePortToClose : BitVec 16 := (getRightmostBitPos s.udpRxPortsProcessed).setWidth 16
    let rest : Word := s.udpRxPortsProcessed &&& ~~~((1 : Word) <<< newRelativePortToClose)
    (if rest = 0 then
        { s with
          udpRxPortsProcessed := rest
          currentPortUpdate := ⟨.udp, 0⟩
          portFsm := .sendUpdate }
      else { s with udpRxPortsProcessed := rest },
      { sUdpPortsToClose := [nalRxMinPort + newRelativePortToClose] })
  else ({ s with currentPortUpdate := ⟨.udp, 0⟩, portFsm := .sendUpdate }, {})

/-- `PORT_NEW_UDP_REQ`: one of the ports that are not yet processed is opened. Without such a port
what the ROLE requests counts as processed. -/
def portNewUdpReq : PortLogic × PortOut :=
  let diff := portDiff s.udpRxPortsProcessed k.udpRxPorts
  if diff ≠ 0 then
    let newRelativePort : BitVec 16 := (getRightmostBitPos diff).setWidth 16
    ({ s with newRelativePortToReqUdp := newRelativePort, portFsm := .newUdpRep },
      { sUdpPortsToOpen := [nalRxMinPort + newRelativePort] })
  else ({ s with udpRxPortsProcessed := k.udpRxPorts, portFsm := .idle }, {})

/-- `PORT_NEW_UDP_REP`. -/
def portNewUdpRep (fed : Bool) (feds : List Bool) : PortLogic :=
  let processed : Word :=
    if fed then s.udpRxPortsProcessed ||| (1 : Word) <<< s.newRelativePortToReqUdp
    else s.udpRxPortsProcessed
  { s with
    sUdpPortsOpenFeedback := feds
    udpRxPortsProcessed := processed
    currentPortUpdate := ⟨.udp, processed⟩
    portFsm := .sendUpdate }

/-- `PORT_NEW_TCP_REQ`. -/
def portNewTcpReq : PortLogic × PortOut :=
  let diff := portDiff s.tcpRxPortsProcessed k.tcpRxPorts
  if diff ≠ 0 then
    let newRelativePort : BitVec 16 := (getRightmostBitPos diff).setWidth 16
    ({ s with newRelativePortToReqTcp := newRelativePort, portFsm := .newTcpRep },
      { sTcpPortsToOpen := [nalRxMinPort + newRelativePort] })
  else ({ s with tcpRxPortsProcessed := k.tcpRxPorts, portFsm := .idle }, {})

/-- `PORT_NEW_TCP_REP`. -/
def portNewTcpRep (fed : Bool) (feds : List Bool) : PortLogic :=
  let processed : Word :=
    if fed then s.tcpRxPortsProcessed ||| (1 : Word) <<< s.newRelativePortToReqTcp
    else s.tcpRxPortsProcessed
  { s with
    sTcpPortsOpenFeedback := feds
    tcpRxPortsProcessed := processed
    currentPortUpdate := ⟨.tcp, processed⟩
    portFsm := .sendUpdate }

/-- `PORT_NEW_FMC_REP`. -/
def portNewFmcRep (fed : Bool) (feds : List Bool) : PortLogic :=
  let processed : BitVec 16 := if fed then s.currentRequestedPort else s.processedFMCListenPort
  { s with
    sTcpPortsOpenFeedback := feds
    processedFMCListenPort := processed
    currentPortUpdate := ⟨.fmc, processed.setWidth 32⟩
    portFsm := .sendUpdate }

/-- One call. -/
def pPortLogic : PortLogic × PortOut :=
  match s.portFsm with
  | .reset =>
      if 0 < s.mmioStabilizeCounter then
        ({ s with mmioStabilizeCounter := s.mmioStabilizeCounter - 1 }, {})
      else ({ s with portFsm := .idle }, {})
  | .idle => (portIdle s k, {})
  | .l4Reset => portL4Reset s k
  | .l7Reset => (portL7Reset s k, {})
  | .startUdpCls => if k.udpCloseRoom then portStartUdpCls s else (s, {})
  | .startTcpCls1 =>
      if k.markToDelRoom then
        ({ s with portFsm := if k.roleDecoupled then .waitPr else .startTcpCls2 },
          { sMarkToDelUnpriv := [true] })
      else (s, {})
  | .waitPr => (if k.roleDecoupled then s else { s with portFsm := .startTcpCls2 }, {})
  | .startTcpCls2 =>
      if k.startTclClsRoom then
        ({ s with
            tcpRxPortsProcessed := 0
            currentPortUpdate := ⟨.tcp, 0⟩
            portFsm := .sendUpdate },
          { sStartTclCls := [true] })
      else (s, {})
  | .newFmcReq =>
      if k.tcpOpenRoom then
        ({ s with currentRequestedPort := k.fmcLsnPort, portFsm := .newFmcRep },
          { sTcpPortsToOpen := [k.fmcLsnPort] })
      else (s, {})
  | .newFmcRep =>
      match s.sTcpPortsOpenFeedback with
      | fed :: feds => (portNewFmcRep s fed feds, {})
      | [] => (s, {})
  | .newUdpReq => if k.udpOpenRoom then portNewUdpReq s k else (s, {})
  | .newUdpRep =>
      match s.sUdpPortsOpenFeedback with
      | fed :: feds => (portNewUdpRep s fed feds, {})
      | [] => (s, {})
  | .newTcpReq => if k.tcpOpenRoom then portNewTcpReq s k else (s, {})
  | .newTcpRep =>
      match s.sTcpPortsOpenFeedback with
      | fed :: feds => (portNewTcpRep s fed feds, {})
      | [] => (s, {})
  | .sendUpdate =>
      if k.portUpdateRoom then
        ({ s with portFsm := .idle }, { sPortUpdate := [s.currentPortUpdate] })
      else (s, {})

end Process

end CloudFpga.Nal
