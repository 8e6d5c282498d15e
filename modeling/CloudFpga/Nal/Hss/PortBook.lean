import CloudFpga.Foundation.Clocked
import CloudFpga.Nal.Hss.PortLogic
import CloudFpga.Nal.PortRequests

/-!
The books of the NAL about the open ports: `pPortLogic`, `pUdpLsn`, `pUdpCls` and `pTcpLsn`, with
`pUdpPortTable` of the UOE.

* `portNext`: one step of the processes, or of what surrounds them.
* `PortsAgree`: at rest, the open ports are the processed ones, and these are the requested ones; each
  difference is settled with one request; no acknowledgment counts for another port.
* `PortStepOk`: no port is taken back while the ROLE is coupled, no acknowledgment is late, and no
  port is opened again before it is closed.
* `portsAgree_of_ok`: this condition keeps the books right.
-/

namespace CloudFpga.Nal

open Foundation Uoe

/-- The processes. No step reads `opens` and `closes`, the requests of `pPortLogic` for UDP ports. -/
structure PortSys where
  logic : PortLogic
  udpLsn : Lsn := udpLsnInit
  tcpLsn : Lsn := tcpLsnInit
  cls : UdpCls := {}
  upt : UdpPortTable := {}
  soTOELsnReq : List TcpPort := []
  opens : List UdpPort := []
  closes : List UdpPort := []

def portSysInit (b : Build) : PortSys :=
  { logic := { mmioStabilizeCounter := nalMmioStabilizeTime b } }

/-- A configuration update, a lookup of a port in the UOE, the answer of the TOE to a request to
listen, or a call of one of the processes. -/
inductive PortStep where
  | config (ca : NalConfigUpdate)
  | lookup (port : UdpPort)
  | toeListen (ok : Bool)
  | logic (k : PortCall)
  | udpLsn (k : LsnCall)
  | tcpLsn (k : LsnCall)
  | cls (clsReqRoom : Bool)
  | upt (k : UptCall)
  deriving DecidableEq

def portNext (b : Build) (s : PortSys) : PortStep → PortSys
  | .config ca =>
      { s with logic := { s.logic with sConfigUpdate := s.logic.sConfigUpdate ++ [ca] } }
  | .lookup port =>
      { s with upt := { s.upt with siRphPortStateReq := s.upt.siRphPortStateReq ++ [port] } }
  | .toeListen ok =>
      match s.soTOELsnReq with
      | port :: ports =>
          { s with
            soTOELsnReq := ports
            tcpLsn := { s.tcpLsn with siLsnRep := s.tcpLsn.siLsnRep ++ [(port, ok)] } }
      | [] => s
  | .logic k =>
      let r := pPortLogic s.logic k
      { s with
        logic := r.1
        udpLsn := { s.udpLsn with sPortsToOpen := s.udpLsn.sPortsToOpen ++ r.2.sUdpPortsToOpen }
        tcpLsn := { s.tcpLsn with sPortsToOpen := s.tcpLsn.sPortsToOpen ++ r.2.sTcpPortsToOpen }
        cls := { s.cls with sUdpPortsToClose := s.cls.sUdpPortsToClose ++ r.2.sUdpPortsToClose }
        opens := s.opens ++ r.2.sUdpPortsToOpen
        closes := s.closes ++ r.2.sUdpPortsToClose }
  | .udpLsn k =>
      let r := pUdpLsn b s.udpLsn k
      { s with
        udpLsn := r.1
        upt := { s.upt with siUAIFLsnReq := s.upt.siUAIFLsnReq ++ r.2.soLsnReq }
        logic := { s.logic with
          sUdpPortsOpenFeedback := s.logic.sUdpPortsOpenFeedback ++ r.2.sPortsOpenFeedback } }
  | .tcpLsn k =>
      let r := pTcpLsn b s.tcpLsn k
      { s with
        tcpLsn := r.1
        soTOELsnReq := s.soTOELsnReq ++ r.2.soLsnReq
        logic := { s.logic with
          sTcpPortsOpenFeedback := s.logic.sTcpPortsOpenFeedback ++ r.2.sPortsOpenFeedback } }
  | .cls clsReqRoom =>
      let r := pUdpCls s.cls clsReqRoom
      { s with
        cls := r.1
        upt := { s.upt with siUAIFClsReq := s.upt.siUAIFClsReq ++ r.2 } }
  | .upt k =>
      let r := pUdpPortTable s.upt k
      { s with
        upt := r.1
        udpLsn := { s.udpLsn with siLsnRep := s.udpLsn.siLsnRep ++ r.2.soUAIFLsnRep }
        cls := { s.cls with siUOEClsRep := s.cls.siUOEClsRep ++ r.2.soUAIFClsRep } }

/-! ### The property and the condition -/

/-- The port of a bit. -/
def portOf (i : ℕ) : UdpPort := nalRxMinPort + BitVec.ofNat 16 i

/-- The port of a bit that is set. -/
def HasPort (ports : Word) (p : UdpPort) : Prop :=
  ∃ i < 32, ports.getLsbD i = true ∧ p = portOf i

/-- The answer for the port is waited for. -/
def Opening (l : PortLogic) (p : UdpPort) : Prop :=
  l.portFsm = .newUdpRep ∧ p = nalRxMinPort + l.newRelativePortToReqUdp

/-- What the ROLE requests, nothing if it is decoupled. -/
def PortCall.wanted (k : PortCall) : Word := if k.coupled then k.udpRxPorts else 0

/-- The same signals, with room in all output streams. -/
def PortCall.roomy (k : PortCall) : PortCall :=
  { k with
    udpOpenRoom := true
    udpCloseRoom := true
    tcpOpenRoom := true
    markToDelRoom := true
    portUpdateRoom := true
    startTclClsRoom := true }

def Lsn.Silent (c : Lsn) : Prop :=
  c.sPortsToOpen = [] ∧ c.siLsnRep = [] ∧ c.lsnFsmState ≠ .waitAck

/-- The requests to close a port that the UOE has not yet served. -/
def PortSys.closing (s : PortSys) : List UdpPort :=
  (if s.upt.uptFsmState = .clsRep then [s.upt.uptPortNum] else []) ++ s.upt.siUAIFClsReq ++
    s.cls.sUdpPortsToClose

/-- No request is under way, and with the signals `k` the logic has nothing to do: two calls later it
is where it is now. -/
structure Quiescent (s : PortSys) (k : PortCall) : Prop where
  udp : s.udpLsn.Silent ∧ s.upt.siUAIFLsnReq = [] ∧ s.upt.uptFsmState ≠ .lsnRep ∧
    s.logic.sUdpPortsOpenFeedback = []
  tcp : s.tcpLsn.Silent ∧ s.soTOELsnReq = [] ∧ s.logic.sTcpPortsOpenFeedback = []
  closing : s.closing = []
  rest : (pPortLogic (pPortLogic s.logic k.roomy).1 k.roomy).1 = s.logic

/-- The books are right. -/
structure PortsAgree (s : PortSys) : Prop where
  /-- At rest the open ports are the processed ones, and these the requested ones. -/
  quiet : ∀ k, k.up = true → Quiescent s k →
    (∀ p, s.upt.portTable p = true ↔ HasPort s.logic.udpRxPortsProcessed p) ∧
      s.logic.udpRxPortsProcessed = k.wanted
  /-- Each port was opened as often as it was closed, and once more if it is processed. -/
  once : ∀ p, HasPort s.logic.udpRxPortsProcessed p ∨ Opening s.logic p →
    s.opens.count p = s.closes.count p + 1
  settled : ∀ p, ¬(HasPort s.logic.udpRxPortsProcessed p ∨ Opening s.logic p) →
    s.opens.count p = s.closes.count p
  /-- An acknowledgment is for the port for which it is waited. -/
  attributed : ∀ a ∈ s.udpLsn.acks ++ s.tcpLsn.acks, a.1 = a.2

/-- If the logic opens a port, no request to close it is under way. If it does not, what is processed
is what is requested. -/
def NewUdpOk (s : PortSys) (k : PortCall) : Prop :=
  if portDiff s.logic.udpRxPortsProcessed k.udpRxPorts = 0 then
    s.logic.udpRxPortsProcessed = k.udpRxPorts
  else ∀ p ∈ (portNewUdpReq s.logic k).2.sUdpPortsToOpen, p ∉ s.closing

/-- The acknowledgment does not come too late. -/
def InTime (c : Lsn) : Prop :=
  c.lsnFsmState = .waitAck → c.siLsnRep = [] → c.watchDogTimerPlisten ≠ 0

/-- The condition on a call of `pPortLogic` in each state: no saved vector of UDP ports is restored. -/
def LogicOk (s : PortSys) (k : PortCall) : PortFsmStates → Prop
  | .idle => ∀ ca ∈ s.logic.sConfigUpdate.head?, ca.configAddr ≠ nalConfigSavedUdpPorts
  | .newUdpReq => k.udpOpenRoom = true → NewUdpOk s k
  | _ => True

/-- The condition on a step: layer 4 stays enabled, and the others. -/
def PortStepOk (s : PortSys) : PortStep → Prop
  | .logic k => k.up = true ∧ LogicOk s k s.logic.portFsm
  | .udpLsn _ => InTime s.udpLsn
  | .tcpLsn _ => InTime s.tcpLsn
  | _ => True

instance (s : PortSys) (k : PortCall) : Decidable (NewUdpOk s k) :=
  -- the list is searched, not all the ports
  have : Decidable (∀ p ∈ (portNewUdpReq s.logic k).2.sUdpPortsToOpen, p ∉ s.closing) :=
    List.decidableBAll _ _
  inferInstanceAs
    (Decidable (if portDiff s.logic.udpRxPortsProcessed k.udpRxPorts = 0 then
      s.logic.udpRxPortsProcessed = k.udpRxPorts
    else ∀ p ∈ (portNewUdpReq s.logic k).2.sUdpPortsToOpen, p ∉ s.closing))

instance (c : Lsn) : Decidable (InTime c) :=
  inferInstanceAs
    (Decidable (c.lsnFsmState = .waitAck → c.siLsnRep = [] → c.watchDogTimerPlisten ≠ 0))

instance (s : PortSys) (k : PortCall) : (f : PortFsmStates) → Decidable (LogicOk s k f)
  | .idle =>
      inferInstanceAs
        (Decidable (∀ ca ∈ s.logic.sConfigUpdate.head?, ca.configAddr ≠ nalConfigSavedUdpPorts))
  | .newUdpReq => inferInstanceAs (Decidable (k.udpOpenRoom = true → NewUdpOk s k))
  | .reset | .l4Reset | .newUdpRep | .newFmcReq | .newFmcRep | .newTcpReq | .newTcpRep | .l7Reset
  | .waitPr | .startTcpCls1 | .startTcpCls2 | .startUdpCls | .sendUpdate => isTrue trivial

instance (s : PortSys) : (x : PortStep) → Decidable (PortStepOk s x)
  | .logic k => inferInstanceAs (Decidable (k.up = true ∧ LogicOk s k s.logic.portFsm))
  | .udpLsn _ => inferInstanceAs (Decidable (InTime s.udpLsn))
  | .tcpLsn _ => inferInstanceAs (Decidable (InTime s.tcpLsn))
  | .config _ | .lookup _ | .toeListen _ | .cls _ | .upt _ => isTrue trivial

/-! ### The way of a request to listen -/

/-- Where a request to listen is: with `pUdpLsn` or `pTcpLsn`, on the way to the UOE or the TOE, there,
or on the way back. -/
inductive Stage where
  | asked | sent | held | answered (ok : Bool) | fed (ok : Bool)
  deriving DecidableEq

/-- At most one request to listen is under way. -/
def Listening (c : Lsn) (reqs : List (BitVec 16)) (feds : List Bool) :
    Option (BitVec 16 × Stage) → Prop
  | none => c.sPortsToOpen = [] ∧ reqs = [] ∧ c.siLsnRep = [] ∧ feds = [] ∧
      c.lsnFsmState ≠ .waitAck
  | some (p, .asked) => c.sPortsToOpen = [p] ∧ reqs = [] ∧ c.siLsnRep = [] ∧ feds = [] ∧
      c.lsnFsmState ≠ .waitAck
  | some (p, .sent) => c.sPortsToOpen = [] ∧ reqs = [p] ∧ c.siLsnRep = [] ∧ feds = [] ∧
      c.lsnFsmState = .waitAck ∧ c.newAbsolutePort = p
  | some (p, .held) => c.sPortsToOpen = [] ∧ reqs = [] ∧ c.siLsnRep = [] ∧ feds = [] ∧
      c.lsnFsmState = .waitAck ∧ c.newAbsolutePort = p
  | some (p, .answered ok) => c.sPortsToOpen = [] ∧ reqs = [] ∧ c.siLsnRep = [(p, ok)] ∧
      feds = [] ∧ c.lsnFsmState = .waitAck ∧ c.newAbsolutePort = p
  | some (_, .fed ok) => c.sPortsToOpen = [] ∧ reqs = [] ∧ c.siLsnRep = [] ∧ feds = [ok] ∧
      c.lsnFsmState ≠ .waitAck

/-- What `pUdpLsn` and `pTcpLsn` do for a request. -/
inductive Advance : Option (BitVec 16 × Stage) → Option (BitVec 16 × Stage) → Prop
  | stay (tok : Option (BitVec 16 × Stage)) : Advance tok tok
  | send (p : BitVec 16) : Advance (some (p, .asked)) (some (p, .sent))
  | feed (p : BitVec 16) (ok : Bool) : Advance (some (p, .answered ok)) (some (p, .fed ok))

section Listen

variable {b : Build} {c : Lsn} {reqs : List (BitVec 16)} {feds : List Bool}
  {tok : Option (BitVec 16 × Stage)}

/-- Without a port to open, a call outside `LSN_WAIT_ACK` does nothing but wait. -/
lemma lsnCall_no_port (hst : c.lsnFsmState ≠ .waitAck) (hports : c.sPortsToOpen = [])
    (k : LsnCall) :
    (lsnCall b c k).2 = {} ∧ (lsnCall b c k).1.sPortsToOpen = [] ∧
      (lsnCall b c k).1.siLsnRep = c.siLsnRep ∧ (lsnCall b c k).1.lsnFsmState ≠ .waitAck ∧
      (lsnCall b c k).1.acks = c.acks := by
  rw [lsnCall]
  cases hcase : c.lsnFsmState with
  | idle =>
      dsimp only
      rw [lsnIdle]
      split
      · exact ⟨rfl, hports, rfl, hst, rfl⟩
      · exact ⟨rfl, hports, rfl, nofun, rfl⟩
  | sendReq =>
      dsimp only
      rw [lsnSendReq, hports]
      exact ⟨rfl, hports, rfl, hst, rfl⟩
  | waitAck => exact absurd hcase hst

/-- While there is still time, a call without an acknowledgment does nothing but wait. -/
lemma lsnCall_no_ack (hst : c.lsnFsmState = .waitAck) (hrep : c.siLsnRep = []) (htime : InTime c)
    (k : LsnCall) :
    lsnCall b c k = ({ c with watchDogTimerPlisten := c.watchDogTimerPlisten - 1 }, {}) := by
  rw [lsnCall, hst]
  dsimp only
  rw [lsnWaitAck, hrep]
  dsimp only
  rw [if_neg fun htimeout => htime hst hrep htimeout.1, hst]

lemma Listening.call (h : Listening c reqs feds tok) (htime : InTime c) (k : LsnCall) :
    ∃ tok', Advance tok tok' ∧
      Listening (lsnCall b c k).1 (reqs ++ (lsnCall b c k).2.soLsnReq)
        (feds ++ (lsnCall b c k).2.sPortsOpenFeedback) tok' ∧
      ∀ a ∈ (lsnCall b c k).1.acks, a ∈ c.acks ∨ a.1 = a.2 := by
  rcases tok with _ | ⟨p, _ | _ | _ | ok | ok⟩
  · obtain ⟨hports, hreqs, hrep, hfeds, hst⟩ := h
    obtain ⟨hout, hports', hrep', hst', hacks⟩ := lsnCall_no_port (b := b) hst hports k
    rw [hout, hacks]
    exact ⟨none, .stay _, ⟨hports', by rw [hreqs]; rfl, hrep'.trans hrep, by rw [hfeds]; rfl, hst'⟩,
      fun a ha => .inl ha⟩
  · -- the request is sent, or it waits for room
    obtain ⟨hports, hreqs, hrep, hfeds, hst⟩ := h
    rw [lsnCall]
    cases hcase : c.lsnFsmState with
    | idle =>
        refine ⟨some (p, .asked), .stay _, ?_, fun a ha => .inl ?_⟩
        · dsimp only
          rw [List.append_nil, List.append_nil, lsnIdle]
          split
          · exact ⟨hports, hreqs, hrep, hfeds, hst⟩
          · exact ⟨hports, hreqs, hrep, hfeds, nofun⟩
        · dsimp only at ha
          rw [lsnIdle] at ha
          split at ha
          · exact ha
          · exact ha
    | sendReq =>
        dsimp only
        rw [lsnSendReq, hports]
        dsimp only
        split
        · exact ⟨some (p, .sent), .send p, ⟨rfl, by rw [hreqs]; rfl, hrep, by rw [hfeds]; rfl, rfl,
            rfl⟩, fun a ha => .inl ha⟩
        · exact ⟨some (p, .asked), .stay _, ⟨hports, by rw [hreqs]; rfl, hrep, by rw [hfeds]; rfl,
            hst⟩, fun a ha => .inl ha⟩
    | waitAck => exact absurd hcase hst
  · obtain ⟨hports, hreqs, hrep, hfeds, hst, hport⟩ := h
    rw [lsnCall_no_ack hst hrep htime]
    exact ⟨some (p, .sent), .stay _, ⟨hports, by rw [hreqs]; rfl, hrep, by rw [hfeds]; rfl, hst,
      hport⟩, fun a ha => .inl ha⟩
  · obtain ⟨hports, hreqs, hrep, hfeds, hst, hport⟩ := h
    rw [lsnCall_no_ack hst hrep htime]
    exact ⟨some (p, .held), .stay _, ⟨hports, by rw [hreqs]; rfl, hrep, by rw [hfeds]; rfl, hst,
      hport⟩, fun a ha => .inl ha⟩
  · -- the acknowledgment is fed back, or it waits for room
    obtain ⟨hports, hreqs, hrep, hfeds, hst, hport⟩ := h
    rw [lsnCall, hst]
    dsimp only
    rw [lsnWaitAck, hrep]
    cases hroom : k.feedbackRoom with
    | true =>
        refine ⟨some (p, .fed ok), .feed p ok, ⟨hports, by rw [hreqs]; rfl, rfl, by rw [hfeds]; rfl,
          nofun⟩, fun a ha => ?_⟩
        rcases List.mem_append.mp ha with ha | ha
        · exact .inl ha
        · rw [List.mem_singleton.mp ha]
          exact .inr hport
    | false =>
        dsimp only
        rw [if_neg (by simp)]
        exact ⟨some (p, .answered ok), .stay _, ⟨hports, by rw [hreqs]; rfl, rfl,
          by rw [hfeds]; rfl, hst, hport⟩, fun a ha => .inl ha⟩
  · obtain ⟨hports, hreqs, hrep, hfeds, hst⟩ := h
    obtain ⟨hout, hports', hrep', hst', hacks⟩ := lsnCall_no_port (b := b) hst hports k
    rw [hout, hacks]
    exact ⟨some (p, .fed ok), .stay _, ⟨hports', by rw [hreqs]; rfl, hrep'.trans hrep,
      by rw [hfeds]; rfl, hst'⟩, fun a ha => .inl ha⟩

/-- A request that is under way shows. -/
lemma Listening.none_of_silent (h : Listening c reqs feds tok) (hc : c.Silent) (hfeds : feds = []) :
    tok = none := by
  obtain ⟨hports, hrep, hst⟩ := hc
  rcases tok with _ | ⟨p, _ | _ | _ | ok | ok⟩
  · rfl
  · rw [Listening, hports] at h
    cases h.1
  · exact absurd h.2.2.2.2.1 hst
  · exact absurd h.2.2.2.2.1 hst
  · exact absurd h.2.2.2.2.1 hst
  · rw [Listening, hfeds] at h
    cases h.2.2.2.1

end Listen

/-! ### Bits and ports -/

lemma portOf_injective {i j : ℕ} (hi : i < 32) (hj : j < 32) (h : portOf i = portOf j) : i = j := by
  have hnat := congrArg BitVec.toNat (BitVec.add_right_inj _ |>.mp h)
  rw [BitVec.toNat_ofNat, BitVec.toNat_ofNat] at hnat
  omega

lemma getLsbD_bit {i : ℕ} (hi : i < 32) (j : ℕ) :
    ((1 : Word) <<< BitVec.ofNat 16 i).getLsbD j = decide (i = j) := by
  have hnat : (BitVec.ofNat 16 i).toNat = i := by
    rw [BitVec.toNat_ofNat]
    omega
  have hpow : (1 : Word) <<< BitVec.ofNat 16 i = BitVec.twoPow 32 i := by
    rw [BitVec.shiftLeft_eq', hnat]
    rfl
  rw [hpow, BitVec.getLsbD_twoPow, decide_eq_true hi, Bool.true_and]

/-- The ports of a vector with one bit more. -/
lemma hasPort_or {ports : Word} {i : ℕ} (hi : i < 32) (p : UdpPort) :
    HasPort (ports ||| (1 : Word) <<< BitVec.ofNat 16 i) p ↔ HasPort ports p ∨ p = portOf i := by
  constructor
  · rintro ⟨j, hj, hset, rfl⟩
    rw [BitVec.getLsbD_or, getLsbD_bit hi, Bool.or_eq_true, decide_eq_true_iff] at hset
    rcases hset with hset | rfl
    · exact .inl ⟨j, hj, hset, rfl⟩
    · exact .inr rfl
  · rintro (⟨j, hj, hset, rfl⟩ | rfl)
    · exact ⟨j, hj, by rw [BitVec.getLsbD_or, hset, Bool.true_or], rfl⟩
    · exact ⟨i, hi, by rw [BitVec.getLsbD_or, getLsbD_bit hi, decide_eq_true rfl, Bool.or_true],
        rfl⟩

/-- The ports of a vector with one bit less. -/
lemma hasPort_and {ports : Word} {i : ℕ} (hi : i < 32) (p : UdpPort) :
    HasPort (ports &&& ~~~((1 : Word) <<< BitVec.ofNat 16 i)) p ↔
      HasPort ports p ∧ p ≠ portOf i := by
  have hbit (j : ℕ) (hj : j < 32) :
      (ports &&& ~~~((1 : Word) <<< BitVec.ofNat 16 i)).getLsbD j =
        (ports.getLsbD j && !decide (i = j)) := by
    rw [BitVec.getLsbD_and, BitVec.getLsbD_not, getLsbD_bit hi, decide_eq_true hj, Bool.true_and]
  constructor
  · rintro ⟨j, hj, hset, rfl⟩
    rw [hbit j hj, Bool.and_eq_true, Bool.not_eq_true', decide_eq_false_iff_not] at hset
    exact ⟨⟨j, hj, hset.1, rfl⟩, fun heq => hset.2 (portOf_injective hj hi heq).symm⟩
  · rintro ⟨⟨j, hj, hset, rfl⟩, hne⟩
    refine ⟨j, hj, ?_, rfl⟩
    have hij : i ≠ j := fun heq => hne (heq ▸ rfl)
    rw [hbit j hj, hset, decide_eq_false hij]
    rfl

lemma not_hasPort_zero (p : UdpPort) : ¬HasPort 0 p := by
  rintro ⟨i, -, hset, -⟩
  have hzero : (0 : Word).getLsbD i = false := BitVec.getLsbD_zero
  rw [hzero] at hset
  cases hset

/-- The lowest bit of a vector, as it is used in a port. -/
lemma lowest_port {num : Word} (h : num ≠ 0) :
    ∃ i < 32, (getRightmostBitPos num).setWidth 16 = BitVec.ofNat 16 i ∧
      num.getLsbD i = true := by
  obtain ⟨i, hpos, hset, -⟩ := getRightmostBitPos_spec h
  have hi : i < 32 := BitVec.lt_of_getLsbD hset
  refine ⟨i, hi, ?_, hset⟩
  rw [hpos]
  apply BitVec.eq_of_toNat_eq
  rw [BitVec.toNat_setWidth, BitVec.toNat_ofNat, BitVec.toNat_ofNat]
  omega

/-- A bit that is to be processed is not processed. -/
lemma getLsbD_portDiff {processed ports : Word} {i : ℕ}
    (h : (portDiff processed ports).getLsbD i = true) : processed.getLsbD i = false := by
  rw [portDiff, BitVec.getLsbD_xor, BitVec.getLsbD_or] at h
  cases hp : processed.getLsbD i with
  | false => rfl
  | true =>
      rw [hp] at h
      cases h

lemma count_push (ps : List UdpPort) (p q : UdpPort) :
    (ps ++ [p]).count q = ps.count q + if q = p then 1 else 0 := by
  rw [List.count_append]
  by_cases hqp : q = p
  · rw [hqp, if_pos rfl, List.count_singleton_self]
  · rw [if_neg hqp, List.count_eq_zero.mpr fun hmem => hqp (List.mem_singleton.mp hmem)]

/-! ### The invariant -/

/-- The logic waits for the TOE to listen on a port. -/
def PortFsmStates.asksTOE : PortFsmStates → Bool
  | .newFmcRep | .newTcpRep => true
  | _ => false

/-- The logic closes TCP connections. -/
def PortFsmStates.closesTcp : PortFsmStates → Bool
  | .startTcpCls1 | .waitPr | .startTcpCls2 => true
  | _ => false

/-- The UOE has opened the port, and the logic does not yet know. -/
def Opened (tok : Option (UdpPort × Stage)) (p : UdpPort) : Prop :=
  tok = some (p, .answered true) ∨ tok = some (p, .fed true)

/-- `ut` and `tt` are the requests to listen that are under way. -/
structure PortInv (s : PortSys) (ut tt : Option (UdpPort × Stage)) : Prop where
  udp : Listening s.udpLsn s.upt.siUAIFLsnReq s.logic.sUdpPortsOpenFeedback ut
  tcp : Listening s.tcpLsn s.soTOELsnReq s.logic.sTcpPortsOpenFeedback tt
  udpRep : s.logic.portFsm = .newUdpRep ↔ ut ≠ none
  tcpRep : s.logic.portFsm.asksTOE = true ↔ tt ≠ none
  /-- A UDP port that is to be opened is neither processed nor about to be closed. -/
  asked : ∀ p st, ut = some (p, st) →
    (∃ i < 32, s.logic.newRelativePortToReqUdp = BitVec.ofNat 16 i ∧ p = portOf i) ∧
      ¬HasPort s.logic.udpRxPortsProcessed p ∧ p ∉ s.closing
  held : s.upt.uptFsmState = .lsnRep ↔ ∃ p, ut = some (p, .held)
  heldPort : ∀ p, ut = some (p, .held) → s.upt.uptPortNum = p
  opened : ∀ p ok, ut = some (p, .answered ok) ∨ ut = some (p, .fed ok) → ok = true
  /-- The open ports are the processed ones, those about to be closed, and the one that was opened
  last. -/
  table : ∀ p, s.upt.portTable p = true ↔
    HasPort s.logic.udpRxPortsProcessed p ∨ p ∈ s.closing ∨ Opened ut p
  closing : s.closing.Nodup ∧ ∀ p ∈ s.closing, ¬HasPort s.logic.udpRxPortsProcessed p
  starting : s.upt.uptIsInit = false →
    s.upt.uptFsmState = .wait4Req ∧ ∀ p, s.upt.portTable p = false
  once : ∀ p, HasPort s.logic.udpRxPortsProcessed p ∨ (∃ st, ut = some (p, st)) →
    s.opens.count p = s.closes.count p + 1
  settled : ∀ p, ¬(HasPort s.logic.udpRxPortsProcessed p ∨ ∃ st, ut = some (p, st)) →
    s.opens.count p = s.closes.count p
  closesTcp : s.logic.portFsm.closesTcp = true → s.logic.udpRxPortsProcessed = 0
  acks : ∀ a ∈ s.udpLsn.acks ++ s.tcpLsn.acks, a.1 = a.2
  up : s.logic.portFsm ≠ .l4Reset

namespace Advance

variable {tok tok' : Option (UdpPort × Stage)}

lemma ne_none (h : Advance tok tok') : tok' ≠ none ↔ tok ≠ none := by
  cases h with
  | stay tok => exact Iff.rfl
  | send p => exact iff_of_true nofun nofun
  | feed p ok => exact iff_of_true nofun nofun

lemma held (h : Advance tok tok') (p : UdpPort) :
    tok' = some (p, .held) ↔ tok = some (p, .held) := by
  cases h with
  | stay tok => exact Iff.rfl
  | send q => simp
  | feed q ok => simp

lemma port (h : Advance tok tok') (p : UdpPort) :
    (∃ st, tok' = some (p, st)) ↔ ∃ st, tok = some (p, st) := by
  cases h with
  | stay tok => exact Iff.rfl
  | send q => simp
  | feed q ok => simp

lemma answer (h : Advance tok tok') (p : UdpPort) (ok : Bool) :
    tok' = some (p, .answered ok) ∨ tok' = some (p, .fed ok) ↔
      tok = some (p, .answered ok) ∨ tok = some (p, .fed ok) := by
  cases h with
  | stay tok => exact Iff.rfl
  | send q => simp
  | feed q ok' => simp

end Advance

section Steps

variable {b : Build} {s : PortSys} {ut tt : Option (UdpPort × Stage)}

/-- A port that is to be closed stays so, or it is sent to the UOE. -/
lemma pUdpCls_ports (s : UdpCls) (room : Bool) :
    (pUdpCls s room).2 ++ (pUdpCls s room).1.sUdpPortsToClose = s.sUdpPortsToClose := by
  rw [pUdpCls.eq_def]
  split
  · split
    · rename_i port ports hports
      rw [hports]
      rfl
    · rfl
  · split
    · rename_i port ports hports
      rw [hports]
      rfl
    · rfl
  · split
    · rfl
    · rfl

namespace PortInv

/-- A call of `pUdpLsn`. -/
lemma udpLsnCall (h : PortInv s ut tt) (htime : InTime s.udpLsn) (k : LsnCall) :
    ∃ ut', PortInv (portNext b s (.udpLsn k)) ut' tt := by
  obtain ⟨ut', hadv, hudp, hacks⟩ := h.udp.call (b := b) htime k
  refine ⟨ut', hudp, h.tcp, h.udpRep.trans hadv.ne_none.symm, h.tcpRep, fun p st hp => ?_, ?_,
    fun p hp => h.heldPort p ((hadv.held p).mp hp),
    fun p ok hp => h.opened p ok ((hadv.answer p ok).mp hp), fun p => ?_, h.closing, h.starting,
    fun p hp => ?_, fun p hp => ?_, h.closesTcp, fun a ha => ?_, h.up⟩
  · obtain ⟨st', hst'⟩ := (hadv.port p).mp ⟨st, hp⟩
    exact h.asked p st' hst'
  · rw [exists_congr hadv.held]
    exact h.held
  · rw [Opened, hadv.answer p true]
    exact h.table p
  · rw [hadv.port] at hp
    exact h.once p hp
  · rw [hadv.port] at hp
    exact h.settled p hp
  · rcases List.mem_append.mp ha with ha | ha
    · rcases hacks a ha with ha | ha
      · exact h.acks a (List.mem_append_left _ ha)
      · exact ha
    · exact h.acks a (List.mem_append_right _ ha)

/-- A call of `pTcpLsn`. -/
lemma tcpLsnCall (h : PortInv s ut tt) (htime : InTime s.tcpLsn) (k : LsnCall) :
    ∃ tt', PortInv (portNext b s (.tcpLsn k)) ut tt' := by
  obtain ⟨tt', hadv, htcp, hacks⟩ := h.tcp.call (b := b) htime k
  refine ⟨tt', h.udp, htcp, h.udpRep, h.tcpRep.trans hadv.ne_none.symm, h.asked, h.held,
    h.heldPort, h.opened, h.table, h.closing, h.starting, h.once, h.settled, h.closesTcp,
    fun a ha => ?_, h.up⟩
  rcases List.mem_append.mp ha with ha | ha
  · exact h.acks a (List.mem_append_left _ ha)
  · rcases hacks a ha with ha | ha
    · exact h.acks a (List.mem_append_right _ ha)
    · exact ha

/-- The TOE answers a request to listen. -/
lemma toeListen (h : PortInv s ut tt) (ok : Bool) :
    ∃ tt', PortInv (portNext b s (.toeListen ok)) ut tt' := by
  have htcp := h.tcp
  rw [portNext]
  split
  · rename_i port ports hreqs
    have hanswer : ∃ tt', Listening
        { s.tcpLsn with siLsnRep := s.tcpLsn.siLsnRep ++ [(port, ok)] } ports
        s.logic.sTcpPortsOpenFeedback tt' ∧ (tt' ≠ none ↔ tt ≠ none) := by
      rw [hreqs] at htcp
      rcases tt with _ | ⟨p, _ | _ | _ | ok' | ok'⟩
      · cases htcp.2.1
      · cases htcp.2.1
      · obtain ⟨hports, hone, hrep, hrest⟩ := htcp
        rw [List.cons.injEq] at hone
        obtain ⟨rfl, rfl⟩ := hone
        exact ⟨some (port, .answered ok), ⟨hports, rfl, by rw [hrep]; rfl, hrest⟩,
          iff_of_true nofun nofun⟩
      · cases htcp.2.1
      · cases htcp.2.1
      · cases htcp.2.1
    obtain ⟨tt', htcp', hne⟩ := hanswer
    exact ⟨tt', h.udp, htcp', h.udpRep, h.tcpRep.trans hne.symm, h.asked, h.held, h.heldPort,
      h.opened, h.table, h.closing, h.starting, h.once, h.settled, h.closesTcp, h.acks, h.up⟩
  · exact ⟨tt, h⟩

/-- A call of `pUdpCls`: the requests to close a port stay in order. -/
lemma clsCall (h : PortInv s ut tt) (room : Bool) : PortInv (portNext b s (.cls room)) ut tt := by
  have hclosing : (portNext b s (.cls room)).closing = s.closing := by
    have hmove {cls : UdpCls} {reqs : List UdpPort}
        (hcls : reqs ++ cls.sUdpPortsToClose = s.cls.sUdpPortsToClose) :
        PortSys.closing { s with
          cls := cls
          upt := { s.upt with siUAIFClsReq := s.upt.siUAIFClsReq ++ reqs } } = s.closing := by
      rw [PortSys.closing, PortSys.closing, ← hcls, List.append_assoc, List.append_assoc,
        List.append_assoc]
    exact hmove (pUdpCls_ports s.cls room)
  refine ⟨h.udp, h.tcp, h.udpRep, h.tcpRep, ?_, h.held, h.heldPort, h.opened, ?_, ?_, h.starting,
    h.once, h.settled, h.closesTcp, h.acks, h.up⟩
  · rw [hclosing]
    exact h.asked
  · rw [hclosing]
    exact h.table
  · rw [hclosing]
    exact h.closing

/-- The UOE opens the port that was requested. -/
lemma uptOpens (h : PortInv s ut tt) (hst : s.upt.uptFsmState = .lsnRep) :
    ∃ ut', PortInv { s with
      upt := (uptLsnRep s.upt).1
      udpLsn := { s.udpLsn with
        siLsnRep := s.udpLsn.siLsnRep ++ [(s.upt.uptPortNum, true)] } } ut' tt := by
  obtain ⟨p, rfl⟩ := h.held.mp hst
  have hport := h.heldPort p rfl
  obtain ⟨hports, hreqs, hrep, hfeds, hwait, hnew⟩ := h.udp
  have hinit : s.upt.uptIsInit = true := by
    by_contra hinit
    have hstart := (h.starting (Bool.eq_false_iff.mpr hinit)).1
    rw [hst] at hstart
    cases hstart
  have hsome (q : UdpPort) : (∃ st, some (p, Stage.answered true) = some (q, st)) ↔
      ∃ st, some (p, Stage.held) = some (q, st) := by simp
  have hclosing : PortSys.closing { s with
      upt := (uptLsnRep s.upt).1
      udpLsn := { s.udpLsn with
        siLsnRep := s.udpLsn.siLsnRep ++ [(s.upt.uptPortNum, true)] } } = s.closing := by
    rw [PortSys.closing, PortSys.closing, hst]
    rfl
  refine ⟨some (p, .answered true), ⟨hports, hreqs, by rw [hrep, hport]; rfl, hfeds, hwait, hnew⟩,
    h.tcp, h.udpRep.trans (iff_of_true nofun nofun), h.tcpRep, fun q st hq => ?_,
    iff_of_false nofun (by simp), nofun, fun q ok hq => ?_, fun q => ?_, ?_, fun hno => ?_,
    fun q hq => ?_, fun q hq => ?_, h.closesTcp, h.acks, h.up⟩
  · obtain ⟨st', hst'⟩ := (hsome q).mp ⟨st, hq⟩
    rw [hclosing]
    exact h.asked q st' hst'
  · have hok : ok = true := by
      rcases hq with hq | hq
      · cases hq
        rfl
      · cases hq
    exact hok
  · rw [hclosing, uptLsnRep]
    dsimp only
    rw [hport, Function.update_apply]
    by_cases hqp : q = p
    · rw [if_pos hqp, hqp]
      exact iff_of_true rfl (.inr (.inr (.inl rfl)))
    · rw [if_neg hqp, h.table q]
      have hold : ¬Opened (some (p, Stage.held)) q := by simp [Opened]
      have hnot : ¬Opened (some (p, Stage.answered true)) q := by
        rintro (heq | heq)
        · cases heq
          exact hqp rfl
        · cases heq
      simp only [hold, hnot]
  · rw [hclosing]
    exact h.closing
  · rw [uptLsnRep] at hno
    dsimp only at hno
    rw [hinit] at hno
    cases hno
  · rw [hsome] at hq
    exact h.once q hq
  · rw [hsome] at hq
    exact h.settled q hq

/-- The UOE closes the port that was requested. -/
lemma uptCloses (h : PortInv s ut tt) (hst : s.upt.uptFsmState = .clsRep) :
    PortInv { s with
      upt := (uptClsRep s.upt).1
      cls := { s.cls with siUOEClsRep := s.cls.siUOEClsRep ++ [false] } } ut tt := by
  have hinit : s.upt.uptIsInit = true := by
    by_contra hinit
    have hstart := (h.starting (Bool.eq_false_iff.mpr hinit)).1
    rw [hst] at hstart
    cases hstart
  have hold : s.closing = s.upt.uptPortNum :: (s.upt.siUAIFClsReq ++ s.cls.sUdpPortsToClose) := by
    rw [PortSys.closing, if_pos hst]
    rfl
  have hnodup := h.closing.1
  have hdisjoint := h.closing.2
  rw [hold] at hnodup hdisjoint
  obtain ⟨hnot, hnodup⟩ := List.nodup_cons.mp hnodup
  have hclosing : PortSys.closing { s with
      upt := (uptClsRep s.upt).1
      cls := { s.cls with siUOEClsRep := s.cls.siUOEClsRep ++ [false] } } =
      s.upt.siUAIFClsReq ++ s.cls.sUdpPortsToClose := rfl
  refine ⟨h.udp, h.tcp, h.udpRep, h.tcpRep, fun q st hq => ?_, ?_, fun q hq => ?_, h.opened,
    fun q => ?_, ?_, fun hno => ?_, h.once, h.settled, h.closesTcp, h.acks, h.up⟩
  · obtain ⟨hbit, hproc, hout⟩ := h.asked q st hq
    rw [hclosing]
    rw [hold] at hout
    exact ⟨hbit, hproc, fun hmem => hout (List.mem_cons_of_mem _ hmem)⟩
  · refine iff_of_false nofun fun hheld => ?_
    have hlsn := h.held.mpr hheld
    rw [hst] at hlsn
    cases hlsn
  · have hlsn := h.held.mpr ⟨q, hq⟩
    rw [hst] at hlsn
    cases hlsn
  · rw [hclosing, uptClsRep]
    dsimp only
    rw [Function.update_apply]
    by_cases hqp : q = s.upt.uptPortNum
    · rw [if_pos hqp, hqp]
      refine iff_of_false nofun ?_
      rintro (hproc | hmem | hopen)
      · exact hdisjoint _ List.mem_cons_self hproc
      · exact hnot hmem
      · have hask : ∃ st, ut = some (s.upt.uptPortNum, st) := by
          rcases hopen with hopen | hopen
          · exact ⟨_, hopen⟩
          · exact ⟨_, hopen⟩
        obtain ⟨st, hst'⟩ := hask
        have hout := (h.asked _ st hst').2.2
        rw [hold] at hout
        exact hout List.mem_cons_self
    · rw [if_neg hqp, h.table q, hold, List.mem_cons]
      simp only [hqp, false_or]
  · rw [hclosing]
    exact ⟨hnodup, fun q hq => hdisjoint q (List.mem_cons_of_mem _ hq)⟩
  · rw [uptClsRep] at hno
    dsimp only at hno
    rw [hinit] at hno
    cases hno

/-- A call of `pUdpPortTable` that neither opens nor closes a port, nor takes a request to open one. -/
lemma uptKeeps (h : PortInv s ut tt) {t : UdpPortTable}
    (hreqs : t.siUAIFLsnReq = s.upt.siUAIFLsnReq) (htable : t.portTable = s.upt.portTable)
    (hlsn : t.uptFsmState ≠ .lsnRep) (hst : s.upt.uptFsmState ≠ .lsnRep)
    (hclosing : PortSys.closing { s with upt := t } = s.closing)
    (hstart : t.uptIsInit = false →
      t.uptFsmState = .wait4Req ∧ ∀ p, s.upt.portTable p = false) :
    PortInv { s with upt := t } ut tt := by
  have hnone : ¬∃ p, ut = some (p, Stage.held) := fun hheld => hst (h.held.mpr hheld)
  refine ⟨?_, h.tcp, h.udpRep, h.tcpRep, ?_, iff_of_false hlsn hnone,
    fun p hp => absurd ⟨p, hp⟩ hnone, h.opened, ?_, ?_, ?_, h.once, h.settled, h.closesTcp, h.acks,
    h.up⟩
  · show Listening s.udpLsn t.siUAIFLsnReq s.logic.sUdpPortsOpenFeedback ut
    rw [hreqs]
    exact h.udp
  · rw [hclosing]
    exact h.asked
  · intro p
    show t.portTable p = true ↔ _
    rw [hclosing, htable]
    exact h.table p
  · rw [hclosing]
    exact h.closing
  · intro hno
    show t.uptFsmState = .wait4Req ∧ ∀ p, t.portTable p = false
    rw [htable]
    exact hstart hno

/-- The UOE takes a request to open a port. -/
lemma uptTakes (h : PortInv s ut tt) (hst : s.upt.uptFsmState = .wait4Req)
    (hinit : s.upt.uptIsInit = true) {port : UdpPort} {reqs : List UdpPort}
    (hreqs : s.upt.siUAIFLsnReq = port :: reqs) :
    ∃ ut', PortInv { s with
      upt := { s.upt with
        siUAIFLsnReq := reqs
        uptPortNum := port
        uptFsmState := .lsnRep } } ut' tt := by
  have hsent : ut = some (port, .sent) ∧ reqs = [] := by
    have hudp := h.udp
    rw [hreqs] at hudp
    rcases ut with _ | ⟨p, _ | _ | _ | ok | ok⟩
    · cases hudp.2.1
    · cases hudp.2.1
    · have hone := hudp.2.1
      rw [List.cons.injEq] at hone
      rw [hone.1]
      exact ⟨rfl, hone.2⟩
    · cases hudp.2.1
    · cases hudp.2.1
    · cases hudp.2.1
  obtain ⟨rfl, rfl⟩ := hsent
  obtain ⟨hports, -, hrep, hfeds, hwait, hnew⟩ := h.udp
  have hsome (q : UdpPort) : (∃ st, some (port, Stage.held) = some (q, st)) ↔
      ∃ st, some (port, Stage.sent) = some (q, st) := by simp
  have hclosing : PortSys.closing { s with
      upt := { s.upt with
        siUAIFLsnReq := []
        uptPortNum := port
        uptFsmState := .lsnRep } } = s.closing := by
    rw [PortSys.closing, PortSys.closing, hst]
    rfl
  refine ⟨some (port, .held), ⟨hports, rfl, hrep, hfeds, hwait, hnew⟩, h.tcp,
    h.udpRep.trans (iff_of_true nofun nofun), h.tcpRep, fun q st hq => ?_,
    iff_of_true rfl ⟨port, rfl⟩, fun q hq => ?_, nofun, fun q => ?_, ?_, fun hno => ?_,
    fun q hq => ?_, fun q hq => ?_, h.closesTcp, h.acks, h.up⟩
  · obtain ⟨st', hst'⟩ := (hsome q).mp ⟨st, hq⟩
    rw [hclosing]
    exact h.asked q st' hst'
  · cases hq
    rfl
  · have hold : ¬Opened (some (port, Stage.sent)) q := by simp [Opened]
    have hnot : ¬Opened (some (port, Stage.held)) q := by simp [Opened]
    rw [hclosing, h.table q]
    simp only [hold, hnot]
  · rw [hclosing]
    exact h.closing
  · rw [hinit] at hno
    cases hno
  · rw [hsome] at hq
    exact h.once q hq
  · rw [hsome] at hq
    exact h.settled q hq

/-- A call of `pUdpPortTable`. -/
lemma uptCall (h : PortInv s ut tt) (k : UptCall) :
    ∃ ut', PortInv (portNext b s (.upt k)) ut' tt := by
  have hsilent {t : UdpPortTable} {out : UptOut} (hpair : pUdpPortTable s.upt k = (t, out))
      (hlsn : out.soUAIFLsnRep = []) (hcls : out.soUAIFClsRep = []) :
      portNext b s (.upt k) = { s with upt := t } := by
    rw [portNext, hpair]
    dsimp only
    rw [hlsn, hcls, List.append_nil, List.append_nil]
  cases hinit : s.upt.uptIsInit with
  | false =>
      -- a port is closed that is closed already
      obtain ⟨hst, htable⟩ := h.starting hinit
      have hclose : Function.update s.upt.portTable s.upt.uptInitPtr false = s.upt.portTable := by
        rw [← htable s.upt.uptInitPtr, Function.update_eq_self]
      have hpair : pUdpPortTable s.upt k = uptInit s.upt k := by
        rw [pUdpPortTable, if_neg (by rw [hinit]; decide)]
      have hlsn : s.upt.uptFsmState ≠ .lsnRep := by
        rw [hst]
        rintro ⟨⟩
      rw [uptInit] at hpair
      dsimp only at hpair
      rw [hclose] at hpair
      refine ⟨ut, ?_⟩
      split at hpair
      · split at hpair
        · rw [hsilent hpair rfl rfl]
          exact h.uptKeeps rfl rfl hlsn hlsn rfl (by rintro ⟨⟩)
        · rw [hsilent hpair rfl rfl]
          exact h.uptKeeps rfl rfl hlsn hlsn rfl fun _ => ⟨hst, htable⟩
      · rw [hsilent hpair rfl rfl]
        exact h.uptKeeps rfl rfl hlsn hlsn rfl fun _ => ⟨hst, htable⟩
  | true =>
      have hno (t : UdpPortTable) (ht : t.uptIsInit = s.upt.uptIsInit) : t.uptIsInit = false →
          t.uptFsmState = .wait4Req ∧ ∀ p, s.upt.portTable p = false := by
        intro hfalse
        rw [ht, hinit] at hfalse
        cases hfalse
      cases hst : s.upt.uptFsmState with
      | wait4Req =>
          have hpair : pUdpPortTable s.upt k = (uptWait4Req s.upt, {}) := by
            rw [pUdpPortTable, if_pos hinit, hst]
          have hlsn : s.upt.uptFsmState ≠ .lsnRep := by
            rw [hst]
            rintro ⟨⟩
          rw [hsilent hpair rfl rfl, uptWait4Req]
          split
          · refine ⟨ut, h.uptKeeps rfl rfl (by rintro ⟨⟩) hlsn ?_ (hno _ rfl)⟩
            rw [PortSys.closing, PortSys.closing, hst]
            rfl
          · exact h.uptTakes hst hinit ‹_›
          · rename_i hcls
            refine ⟨ut, h.uptKeeps rfl rfl (by rintro ⟨⟩) hlsn ?_ (hno _ rfl)⟩
            rw [PortSys.closing, PortSys.closing, hst, hcls]
            rfl
          · exact ⟨ut, h⟩
      | rphLkp =>
          rw [portNext, pUdpPortTable, if_pos hinit, hst]
          dsimp only
          have hlsn : s.upt.uptFsmState ≠ .lsnRep := by
            rw [hst]
            rintro ⟨⟩
          split
          · dsimp only
            rw [List.append_nil, List.append_nil]
            refine ⟨ut, h.uptKeeps rfl rfl (by rintro ⟨⟩) hlsn ?_ (hno _ rfl)⟩
            rw [PortSys.closing, PortSys.closing, hst]
            rfl
          · dsimp only
            rw [List.append_nil, List.append_nil]
            exact ⟨ut, h⟩
      | lsnRep =>
          cases hroom : k.lsnRepRoom with
          | true =>
              have hpair : pUdpPortTable s.upt k = uptLsnRep s.upt := by
                rw [pUdpPortTable, if_pos hinit, hst]
                dsimp only
                rw [if_pos hroom]
              obtain ⟨ut', hopens⟩ := h.uptOpens hst
              refine ⟨ut', ?_⟩
              rw [portNext, hpair]
              dsimp only
              rw [uptLsnRep]
              dsimp only
              rw [List.append_nil]
              exact hopens
          | false =>
              have hpair : pUdpPortTable s.upt k = (s.upt, {}) := by
                rw [pUdpPortTable, if_pos hinit, hst]
                dsimp only
                rw [if_neg (by rw [hroom]; decide)]
              rw [hsilent hpair rfl rfl]
              exact ⟨ut, h⟩
      | clsRep =>
          cases hroom : k.clsRepRoom with
          | true =>
              have hpair : pUdpPortTable s.upt k = uptClsRep s.upt := by
                rw [pUdpPortTable, if_pos hinit, hst]
                dsimp only
                rw [if_pos hroom]
              refine ⟨ut, ?_⟩
              rw [portNext, hpair]
              dsimp only
              rw [uptClsRep]
              dsimp only
              rw [List.append_nil]
              exact h.uptCloses hst
          | false =>
              have hpair : pUdpPortTable s.upt k = (s.upt, {}) := by
                rw [pUdpPortTable, if_pos hinit, hst]
                dsimp only
                rw [if_neg (by rw [hroom]; decide)]
              rw [hsilent hpair rfl rfl]
              exact ⟨ut, h⟩

/-- A call of `pPortLogic` that concerns no UDP port. -/
lemma logicKeeps (h : PortInv s ut tt) {l : PortLogic} {tcp : Lsn}
    {tt' : Option (UdpPort × Stage)}
    (hproc : l.udpRxPortsProcessed = s.logic.udpRxPortsProcessed)
    (hnew : l.newRelativePortToReqUdp = s.logic.newRelativePortToReqUdp)
    (hfeed : l.sUdpPortsOpenFeedback = s.logic.sUdpPortsOpenFeedback)
    (hrep : l.portFsm = .newUdpRep ↔ s.logic.portFsm = .newUdpRep)
    (htcp : Listening tcp s.soTOELsnReq l.sTcpPortsOpenFeedback tt')
    (hask : l.portFsm.asksTOE = true ↔ tt' ≠ none) (hacks : tcp.acks = s.tcpLsn.acks)
    (hcloses : l.portFsm.closesTcp = true → s.logic.udpRxPortsProcessed = 0)
    (hup : l.portFsm ≠ .l4Reset) : PortInv { s with logic := l, tcpLsn := tcp } ut tt' := by
  have hclosing : PortSys.closing { s with logic := l, tcpLsn := tcp } = s.closing := rfl
  refine ⟨?_, htcp, hrep.trans h.udpRep, hask, ?_, h.held, h.heldPort, h.opened, ?_, ?_, h.starting,
    ?_, ?_, ?_, ?_, hup⟩
  · show Listening s.udpLsn s.upt.siUAIFLsnReq l.sUdpPortsOpenFeedback ut
    rw [hfeed]
    exact h.udp
  · intro p st hp
    show (∃ i < 32, l.newRelativePortToReqUdp = BitVec.ofNat 16 i ∧ p = portOf i) ∧
      ¬HasPort l.udpRxPortsProcessed p ∧ _
    rw [hnew, hproc]
    exact h.asked p st hp
  · intro p
    show _ ↔ HasPort l.udpRxPortsProcessed p ∨ _
    rw [hproc]
    exact h.table p
  · refine ⟨h.closing.1, fun p hp => ?_⟩
    show ¬HasPort l.udpRxPortsProcessed p
    rw [hproc]
    exact h.closing.2 p hp
  · intro p hp
    refine h.once p ?_
    rw [← hproc]
    exact hp
  · intro p hp
    refine h.settled p ?_
    rw [← hproc]
    exact hp
  · intro hfsm
    exact hproc.trans (hcloses hfsm)
  · intro a ha
    refine h.acks a ?_
    rw [← hacks]
    exact ha

/-- A call that concerns no port at all. -/
lemma logicStays (h : PortInv s ut tt) {l : PortLogic}
    (hproc : l.udpRxPortsProcessed = s.logic.udpRxPortsProcessed)
    (hnew : l.newRelativePortToReqUdp = s.logic.newRelativePortToReqUdp)
    (hfeed : l.sUdpPortsOpenFeedback = s.logic.sUdpPortsOpenFeedback)
    (htfeed : l.sTcpPortsOpenFeedback = s.logic.sTcpPortsOpenFeedback)
    (hrep : l.portFsm = .newUdpRep ↔ s.logic.portFsm = .newUdpRep)
    (hask : l.portFsm.asksTOE = s.logic.portFsm.asksTOE)
    (hcloses : l.portFsm.closesTcp = true → s.logic.udpRxPortsProcessed = 0)
    (hup : l.portFsm ≠ .l4Reset) : PortInv { s with logic := l } ut tt := by
  refine h.logicKeeps hproc hnew hfeed hrep ?_ ?_ rfl hcloses hup
  · rw [htfeed]
    exact h.tcp
  · rw [hask]
    exact h.tcpRep

/-- The logic asks the TOE to listen. -/
lemma logicAsksTOE (h : PortInv s ut tt) {l : PortLogic} (port : BitVec 16)
    (hproc : l.udpRxPortsProcessed = s.logic.udpRxPortsProcessed)
    (hnew : l.newRelativePortToReqUdp = s.logic.newRelativePortToReqUdp)
    (hfeed : l.sUdpPortsOpenFeedback = s.logic.sUdpPortsOpenFeedback)
    (htfeed : l.sTcpPortsOpenFeedback = s.logic.sTcpPortsOpenFeedback)
    (hrep : s.logic.portFsm ≠ .newUdpRep) (hst : s.logic.portFsm.asksTOE = false)
    (hask : l.portFsm.asksTOE = true) :
    PortInv { s with
      logic := l
      tcpLsn := { s.tcpLsn with sPortsToOpen := s.tcpLsn.sPortsToOpen ++ [port] } } ut
      (some (port, .asked)) := by
  have hnone : tt = none := by
    by_contra htt
    have hasks := h.tcpRep.mpr htt
    rw [hst] at hasks
    cases hasks
  have hother : l.portFsm ≠ .newUdpRep ∧ l.portFsm.closesTcp = false ∧ l.portFsm ≠ .l4Reset := by
    cases hfsm : l.portFsm with
    | newFmcRep => exact ⟨nofun, rfl, nofun⟩
    | newTcpRep => exact ⟨nofun, rfl, nofun⟩
    | _ =>
        rw [hfsm] at hask
        cases hask
  have htcp := h.tcp
  rw [hnone] at htcp
  obtain ⟨hports, hreqs, hans, hfeds, hwait⟩ := htcp
  refine h.logicKeeps hproc hnew hfeed (iff_of_false hother.1 hrep) ?_
    (iff_of_true hask nofun) rfl ?_ hother.2.2
  · exact ⟨by rw [hports]; rfl, hreqs, hans, htfeed.trans hfeds, hwait⟩
  · intro hcloses
    rw [hother.2.1] at hcloses
    cases hcloses

/-- The logic gets the answer of the TOE. -/
lemma logicHearsTOE (h : PortInv s ut tt) {l : PortLogic} {fed : Bool} {feds : List Bool}
    (hproc : l.udpRxPortsProcessed = s.logic.udpRxPortsProcessed)
    (hnew : l.newRelativePortToReqUdp = s.logic.newRelativePortToReqUdp)
    (hfeed : l.sUdpPortsOpenFeedback = s.logic.sUdpPortsOpenFeedback)
    (htfeed : s.logic.sTcpPortsOpenFeedback = fed :: feds)
    (htfeed' : l.sTcpPortsOpenFeedback = feds) (hrep : s.logic.portFsm ≠ .newUdpRep)
    (hfsm : l.portFsm = .sendUpdate) : PortInv { s with logic := l } ut none := by
  have hlisten : Listening s.tcpLsn s.soTOELsnReq l.sTcpPortsOpenFeedback none := by
    have htcp := h.tcp
    rw [htfeed] at htcp
    rw [htfeed']
    rcases tt with _ | ⟨p, _ | _ | _ | ok | ok⟩
    · cases htcp.2.2.2.1
    · cases htcp.2.2.2.1
    · cases htcp.2.2.2.1
    · cases htcp.2.2.2.1
    · cases htcp.2.2.2.1
    · obtain ⟨hports, hreqs, hans, hone, hwait⟩ := htcp
      rw [List.cons.injEq] at hone
      exact ⟨hports, hreqs, hans, hone.2, hwait⟩
  refine h.logicKeeps hproc hnew hfeed (iff_of_false ?_ hrep) hlisten (iff_of_false ?_ ?_) rfl ?_ ?_
  · rw [hfsm]
    nofun
  · rw [hfsm]
    nofun
  · exact fun hne => hne rfl
  · rw [hfsm]
    nofun
  · rw [hfsm]
    nofun

/-- Outside of `PORT_NEW_UDP_REP` no UDP port is being opened. -/
lemma none_of_fsm (h : PortInv s ut tt) (hst : s.logic.portFsm ≠ .newUdpRep) : ut = none := by
  by_contra hut
  exact hst (h.udpRep.mpr hut)

/-- The logic asks for a UDP port to be opened. -/
lemma logicOpens (h : PortInv s ut tt) (hst : s.logic.portFsm = .newUdpReq) {i : ℕ} (hi : i < 32)
    (hbit : s.logic.udpRxPortsProcessed.getLsbD i = false) (hclear : portOf i ∉ s.closing) :
    PortInv { s with
      logic := { s.logic with
        newRelativePortToReqUdp := BitVec.ofNat 16 i
        portFsm := .newUdpRep }
      udpLsn := { s.udpLsn with sPortsToOpen := s.udpLsn.sPortsToOpen ++ [portOf i] }
      opens := s.opens ++ [portOf i] } (some (portOf i, .asked)) tt := by
  have hnone : ut = none := h.none_of_fsm (by rw [hst]; nofun)
  subst hnone
  obtain ⟨hports, hreqs, hans, hfeds, hwait⟩ := h.udp
  have hproc : ¬HasPort s.logic.udpRxPortsProcessed (portOf i) := by
    rintro ⟨j, hj, hset, heq⟩
    rw [← portOf_injective hi hj heq, hbit] at hset
    cases hset
  have hsome (q : UdpPort) :
      (∃ st, some (portOf i, Stage.asked) = some (q, st)) ↔ q = portOf i := by
    simp [eq_comm]
  have hopened (q : UdpPort) : ¬Opened none q ∧ ¬Opened (some (portOf i, .asked)) q := by
    constructor
    · rintro (hq | hq)
      · cases hq
      · cases hq
    · rintro (hq | hq)
      · cases hq
      · cases hq
  refine ⟨⟨by rw [hports]; rfl, hreqs, hans, hfeds, hwait⟩, h.tcp, iff_of_true rfl nofun, ?_,
    fun q st hq => ?_, ?_, nofun, nofun, fun q => ?_, h.closing, h.starting, fun q hq => ?_,
    fun q hq => ?_, nofun, h.acks, nofun⟩
  · have htcp := h.tcpRep
    rw [hst] at htcp
    exact htcp
  · have hqp := (hsome q).mp ⟨st, hq⟩
    rw [hqp]
    exact ⟨⟨i, hi, rfl, rfl⟩, hproc, hclear⟩
  · refine iff_of_false (fun hlsn => ?_) (by simp)
    obtain ⟨p, hp⟩ := h.held.mp hlsn
    cases hp
  · have htable := h.table q
    simp only [(hopened q).1, (hopened q).2] at htable ⊢
    exact htable
  · show (s.opens ++ [portOf i]).count q = s.closes.count q + 1
    rw [hsome] at hq
    rw [count_push]
    by_cases hqp : q = portOf i
    · have hold := h.settled q (by rw [hqp]; simpa using hproc)
      rw [if_pos hqp, hold]
    · have hold := h.once q (.inl (hq.resolve_right hqp))
      rw [if_neg hqp, hold]
  · show (s.opens ++ [portOf i]).count q = s.closes.count q
    rw [hsome, not_or] at hq
    rw [count_push, if_neg hq.2]
    exact h.settled q (by simpa using hq.1)

/-- The logic gets the answer of the UOE. -/
lemma logicHears (h : PortInv s ut tt) (hst : s.logic.portFsm = .newUdpRep) {fed : Bool}
    {feds : List Bool} (hfeed : s.logic.sUdpPortsOpenFeedback = fed :: feds) :
    PortInv { s with logic := portNewUdpRep s.logic fed feds } none tt := by
  have hfed : ∃ p, ut = some (p, .fed fed) ∧ feds = [] := by
    have hudp := h.udp
    rw [hfeed] at hudp
    rcases ut with _ | ⟨p, _ | _ | _ | ok | ok⟩
    · cases hudp.2.2.2.1
    · cases hudp.2.2.2.1
    · cases hudp.2.2.2.1
    · cases hudp.2.2.2.1
    · cases hudp.2.2.2.1
    · have hone := hudp.2.2.2.1
      rw [List.cons.injEq] at hone
      rw [hone.1]
      exact ⟨p, rfl, hone.2⟩
  obtain ⟨p, rfl, rfl⟩ := hfed
  have hok : fed = true := h.opened p fed (.inr rfl)
  subst hok
  obtain ⟨⟨i, hi, hrel, rfl⟩, hproc, hclear⟩ := h.asked _ _ rfl
  obtain ⟨hports, hreqs, hans, -, hwait⟩ := h.udp
  have hhas (q : UdpPort) :
      HasPort (portNewUdpRep s.logic true []).udpRxPortsProcessed q ↔
        HasPort s.logic.udpRxPortsProcessed q ∨ q = portOf i := by
    rw [portNewUdpRep]
    dsimp only
    rw [if_pos rfl, hrel]
    exact hasPort_or hi q
  have hsome (q : UdpPort) :
      (∃ st, some (portOf i, Stage.fed true) = some (q, st)) ↔ q = portOf i := by
    simp [eq_comm]
  have hopened (q : UdpPort) : Opened (some (portOf i, .fed true)) q ↔ q = portOf i := by
    simp [Opened, eq_comm]
  have hnot (q : UdpPort) : ¬Opened none q := by
    rintro (hq | hq)
    · cases hq
    · cases hq
  refine ⟨⟨hports, hreqs, hans, rfl, hwait⟩, h.tcp, iff_of_false nofun fun hne => hne rfl, ?_, nofun,
    ?_, nofun, nofun, fun q => ?_, ⟨h.closing.1, fun q hq => ?_⟩, h.starting, fun q hq => ?_,
    fun q hq => ?_, nofun, h.acks, nofun⟩
  · have htcp := h.tcpRep
    rw [hst] at htcp
    exact htcp
  · refine iff_of_false (fun hlsn => ?_) (by simp)
    obtain ⟨q, hq⟩ := h.held.mp hlsn
    cases hq
  · show s.upt.portTable q = true ↔
      HasPort (portNewUdpRep s.logic true []).udpRxPortsProcessed q ∨ q ∈ s.closing ∨ Opened none q
    rw [h.table q, hhas, hopened]
    simp only [hnot]
    tauto
  · show ¬HasPort (portNewUdpRep s.logic true []).udpRxPortsProcessed q
    rw [hhas]
    rintro (hq' | rfl)
    · exact h.closing.2 q hq hq'
    · exact hclear hq
  · refine h.once q ?_
    rw [hsome, ← hhas]
    exact hq.resolve_right fun hnone => by simp at hnone
  · refine h.settled q ?_
    rw [hsome, ← hhas]
    exact fun hold => hq (.inl hold)

/-- The logic asks for a UDP port to be closed. -/
lemma logicCloses (h : PortInv s ut tt) (hst : s.logic.portFsm = .startUdpCls) {i : ℕ}
    (hi : i < 32) (hbit : s.logic.udpRxPortsProcessed.getLsbD i = true) {l : PortLogic}
    (hproc : l.udpRxPortsProcessed =
      s.logic.udpRxPortsProcessed &&& ~~~((1 : Word) <<< BitVec.ofNat 16 i))
    (hfeed : l.sUdpPortsOpenFeedback = s.logic.sUdpPortsOpenFeedback)
    (htfeed : l.sTcpPortsOpenFeedback = s.logic.sTcpPortsOpenFeedback)
    (hfsm : l.portFsm = .startUdpCls ∨ l.portFsm = .sendUpdate) :
    PortInv { s with
      logic := l
      cls := { s.cls with sUdpPortsToClose := s.cls.sUdpPortsToClose ++ [portOf i] }
      closes := s.closes ++ [portOf i] } ut tt := by
  have hnone : ut = none := h.none_of_fsm (by rw [hst]; nofun)
  subst hnone
  have hother : l.portFsm ≠ .newUdpRep ∧ l.portFsm.asksTOE = false ∧ l.portFsm.closesTcp = false ∧
      l.portFsm ≠ .l4Reset := by
    rcases hfsm with hfsm | hfsm
    · rw [hfsm]
      exact ⟨nofun, rfl, rfl, nofun⟩
    · rw [hfsm]
      exact ⟨nofun, rfl, rfl, nofun⟩
  have hhas (q : UdpPort) : HasPort l.udpRxPortsProcessed q ↔
      HasPort s.logic.udpRxPortsProcessed q ∧ q ≠ portOf i := by
    rw [hproc]
    exact hasPort_and hi q
  have hold : HasPort s.logic.udpRxPortsProcessed (portOf i) := ⟨i, hi, hbit, rfl⟩
  have hclosing : PortSys.closing { s with
      logic := l
      cls := { s.cls with sUdpPortsToClose := s.cls.sUdpPortsToClose ++ [portOf i] }
      closes := s.closes ++ [portOf i] } = s.closing ++ [portOf i] := by
    rw [PortSys.closing, PortSys.closing]
    exact (List.append_assoc _ _ _).symm
  have hclear : portOf i ∉ s.closing := fun hmem => h.closing.2 _ hmem hold
  have hnot (q : UdpPort) : ¬∃ st, none = some (q, (st : Stage)) := by simp
  refine ⟨?_, ?_, iff_of_false hother.1 fun hne => hne rfl, ?_, nofun, h.held, h.heldPort, h.opened,
    fun q => ?_, ?_, h.starting, fun q hq => ?_, fun q hq => ?_, fun hcloses => ?_, h.acks,
    hother.2.2.2⟩
  · show Listening s.udpLsn s.upt.siUAIFLsnReq l.sUdpPortsOpenFeedback none
    rw [hfeed]
    exact h.udp
  · show Listening s.tcpLsn s.soTOELsnReq l.sTcpPortsOpenFeedback tt
    rw [htfeed]
    exact h.tcp
  · show l.portFsm.asksTOE = true ↔ tt ≠ none
    rw [hother.2.1]
    have htcp := h.tcpRep
    rw [hst] at htcp
    exact htcp
  · show s.upt.portTable q = true ↔ HasPort l.udpRxPortsProcessed q ∨ _
    rw [hclosing, h.table q, hhas, List.mem_append, List.mem_singleton]
    by_cases hqp : q = portOf i
    · rw [hqp]
      exact iff_of_true (.inl hold) (.inr (.inl (.inr rfl)))
    · simp only [hqp, not_false_eq_true, and_true, or_false, ne_eq]
  · rw [hclosing]
    refine ⟨List.nodup_append.mpr ⟨h.closing.1, List.nodup_singleton _, ?_⟩, fun q hq => ?_⟩
    · intro q hq p hp
      rw [List.mem_singleton.mp hp]
      exact fun heq => hclear (heq ▸ hq)
    · show ¬HasPort l.udpRxPortsProcessed q
      rw [hhas]
      rcases List.mem_append.mp hq with hq | hq
      · exact fun hand => h.closing.2 q hq hand.1
      · exact fun hand => hand.2 (List.mem_singleton.mp hq)
  · show s.opens.count q = (s.closes ++ [portOf i]).count q + 1
    have hq' := (hhas q).mp (hq.resolve_right (hnot q))
    rw [count_push, if_neg hq'.2]
    exact h.once q (.inl hq'.1)
  · show s.opens.count q = (s.closes ++ [portOf i]).count q
    have hq' : ¬HasPort l.udpRxPortsProcessed q := fun hhave => hq (.inl hhave)
    rw [hhas] at hq'
    rw [count_push]
    by_cases hqp : q = portOf i
    · rw [if_pos hqp]
      exact h.once q (.inl (hqp ▸ hold))
    · rw [if_neg hqp]
      exact h.settled q fun hhave =>
        hq' ⟨hhave.resolve_right (hnot q), hqp⟩
  · rw [hother.2.2.1] at hcloses
    cases hcloses

/-- A call of `pPortLogic` in `PORT_IDLE`. -/
lemma logicIdle (h : PortInv s ut tt) (hst : s.logic.portFsm = .idle) {k : PortCall}
    (hup : k.up = true)
    (hsaved : ∀ ca ∈ s.logic.sConfigUpdate.head?, ca.configAddr ≠ nalConfigSavedUdpPorts) :
    PortInv { s with logic := portIdle s.logic k } ut tt := by
  have hidle {l : PortLogic} (hproc : l.udpRxPortsProcessed = s.logic.udpRxPortsProcessed)
      (hnew : l.newRelativePortToReqUdp = s.logic.newRelativePortToReqUdp)
      (hfeed : l.sUdpPortsOpenFeedback = s.logic.sUdpPortsOpenFeedback)
      (htfeed : l.sTcpPortsOpenFeedback = s.logic.sTcpPortsOpenFeedback)
      (hrep : l.portFsm ≠ .newUdpRep) (hask : l.portFsm.asksTOE = false)
      (hcloses : l.portFsm.closesTcp = false) (hl4 : l.portFsm ≠ .l4Reset) :
      PortInv { s with logic := l } ut tt := by
    refine h.logicStays hproc hnew hfeed htfeed (iff_of_false hrep (by rw [hst]; nofun))
      (by rw [hask, hst]; rfl) (fun hfsm => ?_) hl4
    rw [hcloses] at hfsm
    cases hfsm
  have hstay : s.logic.portFsm ≠ .newUdpRep ∧ s.logic.portFsm.asksTOE = false ∧
      s.logic.portFsm.closesTcp = false ∧ s.logic.portFsm ≠ .l4Reset := by
    rw [hst]
    exact ⟨nofun, rfl, rfl, nofun⟩
  obtain ⟨hrep, hask, hcloses, hl4⟩ := hstay
  rw [portIdle]
  split
  · rename_i ca cas hconfig
    have hca : ca.configAddr ≠ nalConfigSavedUdpPorts :=
      hsaved ca (by rw [hconfig]; exact Option.mem_some_self ca)
    rw [portRestore]
    dsimp only
    rw [if_neg hca]
    split
    · split
      · exact hidle rfl rfl rfl rfl hrep hask hcloses hl4
      · exact hidle rfl rfl rfl rfl hrep hask hcloses hl4
    · split
      · split
        · exact hidle rfl rfl rfl rfl hrep hask hcloses hl4
        · exact hidle rfl rfl rfl rfl hrep hask hcloses hl4
      · exact hidle rfl rfl rfl rfl hrep hask hcloses hl4
  · rw [if_neg (not_not_intro hup)]
    split
    · exact hidle rfl rfl rfl rfl nofun rfl rfl nofun
    · split
      · exact hidle rfl rfl rfl rfl nofun rfl rfl nofun
      · split
        · exact hidle rfl rfl rfl rfl nofun rfl rfl nofun
        · split
          · exact hidle rfl rfl rfl rfl nofun rfl rfl nofun
          · exact h

/-- A call of `pPortLogic`. -/
lemma logicCall (h : PortInv s ut tt) {k : PortCall} (hup : k.up = true)
    (hok : LogicOk s k s.logic.portFsm) :
    ∃ ut' tt', PortInv (portNext b s (.logic k)) ut' tt' := by
  have hsilent {l : PortLogic} {out : PortOut} (hpair : pPortLogic s.logic k = (l, out))
      (hopen : out.sUdpPortsToOpen = []) (hclose : out.sUdpPortsToClose = [])
      (htcp : out.sTcpPortsToOpen = []) : portNext b s (.logic k) = { s with logic := l } := by
    rw [portNext, hpair]
    dsimp only
    rw [hopen, hclose, htcp, List.append_nil, List.append_nil, List.append_nil, List.append_nil,
      List.append_nil]
  have htoe {l : PortLogic} {out : PortOut} {port : BitVec 16}
      (hpair : pPortLogic s.logic k = (l, out)) (hopen : out.sUdpPortsToOpen = [])
      (hclose : out.sUdpPortsToClose = []) (htcp : out.sTcpPortsToOpen = [port]) :
      portNext b s (.logic k) = { s with
        logic := l
        tcpLsn := { s.tcpLsn with sPortsToOpen := s.tcpLsn.sPortsToOpen ++ [port] } } := by
    rw [portNext, hpair]
    dsimp only
    rw [hopen, hclose, htcp, List.append_nil, List.append_nil, List.append_nil, List.append_nil]
  have hcall := pPortLogic.eq_def s.logic k
  cases hst : s.logic.portFsm with
  | reset =>
      rw [hst] at hcall
      dsimp only at hcall
      refine ⟨ut, tt, ?_⟩
      split at hcall
      · rw [hsilent hcall rfl rfl rfl]
        exact h.logicStays rfl rfl rfl rfl (iff_of_false nofun (by rw [hst]; nofun))
          (by rw [hst]) nofun nofun
      · rw [hsilent hcall rfl rfl rfl]
        exact h.logicStays rfl rfl rfl rfl (iff_of_false nofun (by rw [hst]; nofun))
          (by rw [hst]; rfl) nofun nofun
  | idle =>
      rw [hst] at hcall hok
      rw [hsilent hcall rfl rfl rfl]
      exact ⟨ut, tt, h.logicIdle hst hup hok⟩
  | l4Reset => exact absurd hst h.up
  | l7Reset =>
      rw [hst] at hcall
      dsimp only at hcall
      refine ⟨ut, tt, ?_⟩
      rw [hsilent hcall rfl rfl rfl, portL7Reset, if_pos hup]
      have hrep : s.logic.portFsm ≠ .newUdpRep := by
        rw [hst]
        nofun
      split
      · exact h.logicStays rfl rfl rfl rfl (iff_of_false nofun hrep) (by rw [hst]; rfl) nofun nofun
      · rename_i hzero
        split
        · exact h.logicStays rfl rfl rfl rfl (iff_of_false nofun hrep) (by rw [hst]; rfl)
            (fun _ => not_not.mp hzero) nofun
        · exact h.logicStays rfl rfl rfl rfl (iff_of_false nofun hrep) (by rw [hst]; rfl) nofun
            nofun
  | startUdpCls =>
      rw [hst] at hcall
      dsimp only at hcall
      refine ⟨ut, tt, ?_⟩
      split at hcall
      · rw [portStartUdpCls] at hcall
        split at hcall
        · rename_i hproc
          obtain ⟨i, hi, hpos, hbit⟩ := lowest_port hproc
          rw [hpos] at hcall
          rw [portNext, hcall]
          dsimp only
          rw [List.append_nil, List.append_nil, List.append_nil]
          refine h.logicCloses hst hi hbit ?_ ?_ ?_ ?_
          · split
            · rfl
            · rfl
          · split
            · rfl
            · rfl
          · split
            · rfl
            · rfl
          · split
            · exact .inr rfl
            · exact .inl hst
        · rw [hsilent hcall rfl rfl rfl]
          exact h.logicStays rfl rfl rfl rfl (iff_of_false nofun (by rw [hst]; nofun))
            (by rw [hst]; rfl) nofun nofun
      · rw [hsilent hcall rfl rfl rfl]
        exact h
  | startTcpCls1 =>
      rw [hst] at hcall
      dsimp only at hcall
      refine ⟨ut, tt, ?_⟩
      have hzero : s.logic.udpRxPortsProcessed = 0 := h.closesTcp (by rw [hst]; rfl)
      have hrep : s.logic.portFsm ≠ .newUdpRep := by
        rw [hst]
        nofun
      split at hcall
      · rw [hsilent hcall rfl rfl rfl]
        split
        · exact h.logicStays rfl rfl rfl rfl (iff_of_false nofun hrep) (by rw [hst]; rfl)
            (fun _ => hzero) nofun
        · exact h.logicStays rfl rfl rfl rfl (iff_of_false nofun hrep) (by rw [hst]; rfl)
            (fun _ => hzero) nofun
      · rw [hsilent hcall rfl rfl rfl]
        exact h
  | waitPr =>
      rw [hst] at hcall
      dsimp only at hcall
      refine ⟨ut, tt, ?_⟩
      have hzero : s.logic.udpRxPortsProcessed = 0 := h.closesTcp (by rw [hst]; rfl)
      rw [hsilent hcall rfl rfl rfl]
      split
      · exact h
      · exact h.logicStays rfl rfl rfl rfl (iff_of_false nofun (by rw [hst]; nofun))
          (by rw [hst]; rfl) (fun _ => hzero) nofun
  | startTcpCls2 =>
      rw [hst] at hcall
      dsimp only at hcall
      refine ⟨ut, tt, ?_⟩
      split at hcall
      · rw [hsilent hcall rfl rfl rfl]
        exact h.logicStays rfl rfl rfl rfl (iff_of_false nofun (by rw [hst]; nofun))
          (by rw [hst]; rfl) nofun nofun
      · rw [hsilent hcall rfl rfl rfl]
        exact h
  | newFmcReq =>
      rw [hst] at hcall
      dsimp only at hcall
      split at hcall
      · rw [htoe hcall rfl rfl rfl]
        exact ⟨ut, _, h.logicAsksTOE _ rfl rfl rfl rfl (by rw [hst]; nofun) (by rw [hst]; rfl) rfl⟩
      · rw [hsilent hcall rfl rfl rfl]
        exact ⟨ut, tt, h⟩
  | newFmcRep =>
      rw [hst] at hcall
      dsimp only at hcall
      split at hcall
      · rename_i fed feds hfeed
        rw [hsilent hcall rfl rfl rfl]
        exact ⟨ut, none, h.logicHearsTOE rfl rfl rfl hfeed rfl (by rw [hst]; nofun) rfl⟩
      · rw [hsilent hcall rfl rfl rfl]
        exact ⟨ut, tt, h⟩
  | newUdpReq =>
      rw [hst] at hcall hok
      dsimp only at hcall
      split at hcall
      · rename_i hroom
        have hnew : NewUdpOk s k := hok hroom
        rw [NewUdpOk] at hnew
        rw [portNewUdpReq] at hcall hnew
        dsimp only at hcall hnew
        split at hcall
        · rename_i hdiff
          rw [if_neg hdiff, if_pos hdiff] at hnew
          obtain ⟨i, hi, hpos, hbit⟩ := lowest_port hdiff
          rw [hpos] at hcall hnew
          have hclear : portOf i ∉ s.closing := hnew _ List.mem_cons_self
          refine ⟨some (portOf i, .asked), tt, ?_⟩
          rw [portNext, hcall]
          dsimp only
          rw [List.append_nil, List.append_nil, List.append_nil]
          exact h.logicOpens hst hi (getLsbD_portDiff hbit) hclear
        · rename_i hdiff
          rw [if_pos (not_not.mp hdiff)] at hnew
          rw [hsilent hcall rfl rfl rfl]
          exact ⟨ut, tt, h.logicStays hnew.symm rfl rfl rfl
            (iff_of_false nofun (by rw [hst]; nofun)) (by rw [hst]; rfl) nofun nofun⟩
      · rw [hsilent hcall rfl rfl rfl]
        exact ⟨ut, tt, h⟩
  | newUdpRep =>
      rw [hst] at hcall
      dsimp only at hcall
      split at hcall
      · rename_i fed feds hfeed
        rw [hsilent hcall rfl rfl rfl]
        exact ⟨none, tt, h.logicHears hst hfeed⟩
      · rw [hsilent hcall rfl rfl rfl]
        exact ⟨ut, tt, h⟩
  | newTcpReq =>
      rw [hst] at hcall
      dsimp only at hcall
      split at hcall
      · rw [portNewTcpReq] at hcall
        dsimp only at hcall
        split at hcall
        · rw [htoe hcall rfl rfl rfl]
          exact ⟨ut, _, h.logicAsksTOE _ rfl rfl rfl rfl (by rw [hst]; nofun) (by rw [hst]; rfl)
            rfl⟩
        · rw [hsilent hcall rfl rfl rfl]
          exact ⟨ut, tt, h.logicStays rfl rfl rfl rfl (iff_of_false nofun (by rw [hst]; nofun))
            (by rw [hst]; rfl) nofun nofun⟩
      · rw [hsilent hcall rfl rfl rfl]
        exact ⟨ut, tt, h⟩
  | newTcpRep =>
      rw [hst] at hcall
      dsimp only at hcall
      split at hcall
      · rename_i fed feds hfeed
        rw [hsilent hcall rfl rfl rfl]
        exact ⟨ut, none, h.logicHearsTOE rfl rfl rfl hfeed rfl (by rw [hst]; nofun) rfl⟩
      · rw [hsilent hcall rfl rfl rfl]
        exact ⟨ut, tt, h⟩
  | sendUpdate =>
      rw [hst] at hcall
      dsimp only at hcall
      refine ⟨ut, tt, ?_⟩
      split at hcall
      · rw [hsilent hcall rfl rfl rfl]
        exact h.logicStays rfl rfl rfl rfl (iff_of_false nofun (by rw [hst]; nofun))
          (by rw [hst]; rfl) nofun nofun
      · rw [hsilent hcall rfl rfl rfl]
        exact h

/-- A step. -/
lemma next (h : PortInv s ut tt) (x : PortStep) (hok : PortStepOk s x) :
    ∃ ut' tt', PortInv (portNext b s x) ut' tt' := by
  cases x with
  | config ca =>
      exact ⟨ut, tt, h.logicStays rfl rfl rfl rfl Iff.rfl rfl h.closesTcp h.up⟩
  | lookup port =>
      exact ⟨ut, tt, h.udp, h.tcp, h.udpRep, h.tcpRep, h.asked, h.held, h.heldPort, h.opened,
        h.table, h.closing, h.starting, h.once, h.settled, h.closesTcp, h.acks, h.up⟩
  | toeListen ok =>
      obtain ⟨tt', hinv⟩ := h.toeListen (b := b) ok
      exact ⟨ut, tt', hinv⟩
  | logic k => exact h.logicCall hok.1 hok.2
  | udpLsn k =>
      obtain ⟨ut', hinv⟩ := h.udpLsnCall (b := b) hok k
      exact ⟨ut', tt, hinv⟩
  | tcpLsn k =>
      obtain ⟨tt', hinv⟩ := h.tcpLsnCall (b := b) hok k
      exact ⟨ut, tt', hinv⟩
  | cls room => exact ⟨ut, tt, h.clsCall room⟩
  | upt k =>
      obtain ⟨ut', hinv⟩ := h.uptCall (b := b) k
      exact ⟨ut', tt, hinv⟩

end PortInv

lemma portInv_init (b : Build) : PortInv (portSysInit b) none none := by
  have hproc (p : UdpPort) :
      ¬(HasPort (portSysInit b).logic.udpRxPortsProcessed p ∨ ∃ st, none = some (p, (st : Stage))) := by
    rintro (hp | ⟨st, hst⟩)
    · exact not_hasPort_zero p hp
    · cases hst
  have hclosing : (portSysInit b).closing = [] := rfl
  refine ⟨⟨rfl, rfl, rfl, rfl, nofun⟩, ⟨rfl, rfl, rfl, rfl, nofun⟩,
    iff_of_false nofun fun hne => hne rfl, iff_of_false nofun fun hne => hne rfl, nofun,
    iff_of_false nofun (by simp), nofun, nofun, fun p => iff_of_false nofun ?_, ?_,
    fun _ => ⟨rfl, fun _ => rfl⟩, fun p hp => absurd hp (hproc p), fun p _ => rfl, nofun, nofun,
    nofun⟩
  · rintro (hp | hp | hp | hp)
    · exact not_hasPort_zero p hp
    · rw [hclosing] at hp
      cases hp
    · cases hp
    · cases hp
  · rw [hclosing]
    exact ⟨List.nodup_nil, nofun⟩

end Steps

/-! ### The logic at rest -/

section Rest

variable {l : PortLogic} {k : PortCall}

/-- When `PORT_IDLE` is followed by a state. -/
def IdleLeads (l : PortLogic) (k : PortCall) : PortFsmStates → Prop
  | .l7Reset => k.coupled = false
  | .newUdpReq => l.udpRxPortsProcessed ≠ k.udpRxPorts
  | .newTcpReq => l.tcpRxPortsProcessed ≠ k.tcpRxPorts
  | .idle | .l4Reset | .newFmcReq => True
  | _ => False

lemma portRestore_fsm (ca : NalConfigUpdate) (cas : List NalConfigUpdate) :
    (portRestore l ca cas).portFsm = l.portFsm ∧ (portRestore l ca cas).sConfigUpdate = cas := by
  rw [portRestore]
  dsimp only
  split
  · split
    · exact ⟨rfl, rfl⟩
    · exact ⟨rfl, rfl⟩
  · split
    · split
      · exact ⟨rfl, rfl⟩
      · exact ⟨rfl, rfl⟩
    · split
      · split
        · exact ⟨rfl, rfl⟩
        · exact ⟨rfl, rfl⟩
      · exact ⟨rfl, rfl⟩

lemma portIdle_leads (hst : l.portFsm = .idle) : IdleLeads l k (portIdle l k).portFsm := by
  rw [portIdle]
  split
  · rw [(portRestore_fsm _ _).1, hst]
    trivial
  · split
    · trivial
    · split
      · trivial
      · split
        · rename_i hcoupled
          exact Bool.eq_false_iff.mpr hcoupled
        · split
          · assumption
          · split
            · assumption
            · rw [hst]
              trivial

lemma portIdle_config : (portIdle l k).sConfigUpdate = l.sConfigUpdate.tail := by
  rw [portIdle]
  split
  · rename_i ca cas hconfig
    rw [(portRestore_fsm ca cas).2, hconfig]
    rfl
  · rename_i hnil
    have hstay : l.sConfigUpdate = l.sConfigUpdate.tail := by
      rw [hnil]
      rfl
    split
    · exact hstay
    · split
      · exact hstay
      · split
        · exact hstay
        · split
          · exact hstay
          · split
            · exact hstay
            · exact hstay

lemma pPortLogic_idle (hst : l.portFsm = .idle) : (pPortLogic l k).1 = portIdle l k := by
  rw [pPortLogic, hst]

/-- A state that leads to `PORT_IDLE`, and to which two calls lead back, follows it. -/
lemma idleLeads_of_rest {m : PortLogic} (hfirst : (pPortLogic l k).1 = m) (hm : m.portFsm = .idle)
    (hrest : (pPortLogic (pPortLogic l k).1 k).1 = l) : IdleLeads m k l.portFsm := by
  have hleads := portIdle_leads (k := k) hm
  rw [hfirst, pPortLogic_idle hm] at hrest
  rw [hrest] at hleads
  exact hleads

/-- A decoupled ROLE requests nothing. -/
lemma wanted_of_decoupled (hk : k.coupled = false) : k.wanted = 0 := by
  rw [PortCall.wanted, if_neg (by rw [hk]; decide)]

/-- At rest in `PORT_IDLE` all ports are processed, or the ROLE is decoupled and none is. -/
lemma wanted_of_idle (hst : l.portFsm = .idle) (hup : k.up = true)
    (hrest : (pPortLogic (pPortLogic l k.roomy).1 k.roomy).1 = l) :
    l.udpRxPortsProcessed = k.wanted := by
  have hup' : k.roomy.up = true := hup
  rw [pPortLogic_idle hst] at hrest
  rw [portIdle] at hrest
  split at hrest
  · -- a configuration update would be gone
    rename_i ca cas hconfig
    obtain ⟨hfsm, hcas⟩ := portRestore_fsm (l := l) ca cas
    have hlen := congrArg (fun l => l.sConfigUpdate.length) hrest
    rw [pPortLogic_idle (hfsm.trans hst), portIdle_config, hcas, hconfig, List.length_tail,
      List.length_cons] at hlen
    omega
  · rw [if_neg (not_not_intro hup')] at hrest
    split at hrest
    · -- the port of the FMC would be requested
      rw [pPortLogic] at hrest
      have hfsm := congrArg PortLogic.portFsm hrest
      rw [hst] at hfsm
      cases hfsm
    · split at hrest
      · rename_i hcoupled
        have hk : k.coupled = false := Bool.eq_false_iff.mpr hcoupled
        rw [wanted_of_decoupled hk]
        rw [pPortLogic] at hrest
        dsimp only at hrest
        rw [portL7Reset, if_pos hup'] at hrest
        split at hrest
        · have hfsm := congrArg PortLogic.portFsm hrest
          rw [hst] at hfsm
          cases hfsm
        · rename_i hzero
          exact not_not.mp hzero
      · rename_i hcoupled
        have hk : k.wanted = k.udpRxPorts := by
          exact if_pos (not_not.mp hcoupled)
        rw [hk]
        split at hrest
        · -- the ports that are requested are processed after that
          rw [pPortLogic] at hrest
          dsimp only at hrest
          rw [if_pos (show k.roomy.udpOpenRoom = true from rfl), portNewUdpReq] at hrest
          dsimp only at hrest
          split at hrest
          · have hfsm := congrArg PortLogic.portFsm hrest
            rw [hst] at hfsm
            cases hfsm
          · exact (congrArg PortLogic.udpRxPortsProcessed hrest).symm
        · rename_i heq
          exact not_not.mp heq

/-- A port that is closed changes the vector of the processed ones, in one call or in two. -/
lemma not_rest_of_closing (hst : l.portFsm = .startUdpCls) (hproc : l.udpRxPortsProcessed ≠ 0) :
    (pPortLogic (pPortLogic l k.roomy).1 k.roomy).1 ≠ l := by
  intro hrest
  obtain ⟨i, hi, hpos, hbit⟩ := lowest_port hproc
  -- the bit is gone after the first call, and no call of this state sets a bit
  have hgone {l' : PortLogic} (hst' : l'.portFsm = .startUdpCls ∨ l'.portFsm = .sendUpdate)
      (hbit' : l'.udpRxPortsProcessed.getLsbD i = false) :
      (pPortLogic l' k.roomy).1.udpRxPortsProcessed.getLsbD i = false := by
    rcases hst' with hst' | hst'
    · rw [pPortLogic, hst']
      dsimp only
      rw [if_pos (show k.roomy.udpCloseRoom = true from rfl), portStartUdpCls]
      have hand (w : Word) : (l'.udpRxPortsProcessed &&& w).getLsbD i = false := by
        rw [BitVec.getLsbD_and, hbit', Bool.false_and]
      split
      · dsimp only
        split
        · exact hand _
        · exact hand _
      · exact hbit'
    · rw [pPortLogic, hst']
      dsimp only
      split
      · exact hbit'
      · exact hbit'
  have hclear : (l.udpRxPortsProcessed &&& ~~~((1 : Word) <<< BitVec.ofNat 16 i)).getLsbD i =
      false := by
    rw [BitVec.getLsbD_and, BitVec.getLsbD_not, getLsbD_bit hi, decide_eq_true rfl]
    rw [Bool.not_true, Bool.and_false, Bool.and_false]
  have hfirst := pPortLogic.eq_def l k.roomy
  rw [hst] at hfirst
  dsimp only at hfirst
  rw [if_pos (show k.roomy.udpCloseRoom = true from rfl), portStartUdpCls, if_pos hproc, hpos]
    at hfirst
  have hsecond := congrArg (fun l => l.udpRxPortsProcessed.getLsbD i) hrest
  rw [hbit, hfirst] at hsecond
  dsimp only at hsecond
  split at hsecond
  · rw [hgone (.inr rfl) hclear] at hsecond
    cases hsecond
  · rw [hgone] at hsecond
    · cases hsecond
    · exact .inl hst
    · exact hclear

/-- At rest, if no answer is waited for, what is requested is processed. -/
lemma wanted_of_rest (hup : k.up = true) (hrep : l.portFsm ≠ .newUdpRep)
    (hask : l.portFsm.asksTOE = false) (hl4 : l.portFsm ≠ .l4Reset)
    (hcloses : l.portFsm.closesTcp = true → l.udpRxPortsProcessed = 0)
    (hrest : (pPortLogic (pPortLogic l k.roomy).1 k.roomy).1 = l) :
    l.udpRxPortsProcessed = k.wanted := by
  have hup' : k.roomy.up = true := hup
  have hfirst := pPortLogic.eq_def l k.roomy
  cases hst : l.portFsm with
  | reset =>
      rw [hst] at hfirst
      dsimp only at hfirst
      split at hfirst
      · rename_i hpos
        have hcount := congrArg PortLogic.mmioStabilizeCounter hrest
        have hfsm := congrArg PortLogic.portFsm hrest
        rw [hfirst, pPortLogic] at hcount hfsm
        dsimp only at hcount hfsm
        split at hcount
        · dsimp only at hcount
          bv_omega
        · rename_i hzero
          rw [if_neg hzero, hst] at hfsm
          cases hfsm
      · have hleads := idleLeads_of_rest (congrArg Prod.fst hfirst) rfl hrest
        rw [hst] at hleads
        exact hleads.elim
  | idle => exact wanted_of_idle hst hup hrest
  | l4Reset => exact absurd hst hl4
  | l7Reset =>
      rw [hst] at hfirst
      dsimp only at hfirst
      rw [portL7Reset, if_pos hup'] at hfirst
      split at hfirst
      · rename_i hproc
        have hfsm := congrArg PortLogic.portFsm hrest
        rw [hfirst, pPortLogic] at hfsm
        dsimp only at hfsm
        rw [if_pos (show k.roomy.udpCloseRoom = true from rfl), portStartUdpCls, if_pos hproc, hst]
          at hfsm
        dsimp only at hfsm
        split at hfsm
        · cases hfsm
        · cases hfsm
      · rename_i hzero
        split at hfirst
        · have hfsm := congrArg PortLogic.portFsm hrest
          rw [hfirst, pPortLogic] at hfsm
          dsimp only at hfsm
          rw [if_pos (show k.roomy.markToDelRoom = true from rfl), hst] at hfsm
          dsimp only at hfsm
          split at hfsm
          · cases hfsm
          · cases hfsm
        · have hleads := idleLeads_of_rest (congrArg Prod.fst hfirst) rfl hrest
          rw [hst] at hleads
          have hk : k.coupled = false := hleads
          rw [not_not.mp hzero, wanted_of_decoupled hk]
  | startUdpCls =>
      by_cases hproc : l.udpRxPortsProcessed = 0
      · have hfsm := congrArg PortLogic.portFsm hrest
        rw [hst] at hfirst
        dsimp only at hfirst
        rw [if_pos (show k.roomy.udpCloseRoom = true from rfl), portStartUdpCls,
          if_neg (not_not_intro hproc)] at hfirst
        rw [hfirst, pPortLogic] at hfsm
        dsimp only at hfsm
        rw [if_pos (show k.roomy.portUpdateRoom = true from rfl), hst] at hfsm
        cases hfsm
      · exact absurd hrest (not_rest_of_closing hst hproc)
  | startTcpCls1 =>
      have hzero : l.udpRxPortsProcessed = 0 := hcloses (by rw [hst]; rfl)
      have hfsm := congrArg PortLogic.portFsm hrest
      rw [hst] at hfirst
      dsimp only at hfirst
      rw [if_pos (show k.roomy.markToDelRoom = true from rfl)] at hfirst
      rw [hfirst] at hfsm
      cases hdec : k.roomy.roleDecoupled with
      | true =>
          rw [if_pos hdec, pPortLogic] at hfsm
          dsimp only at hfsm
          rw [if_pos hdec, hst] at hfsm
          cases hfsm
      | false =>
          rw [if_neg (by rw [hdec]; decide), pPortLogic] at hfsm
          dsimp only at hfsm
          rw [if_pos (show k.roomy.startTclClsRoom = true from rfl), hst] at hfsm
          cases hfsm
  | waitPr =>
      have hzero : l.udpRxPortsProcessed = 0 := hcloses (by rw [hst]; rfl)
      cases hdec : k.roleDecoupled with
      | true =>
          have hk : k.coupled = false := by
            rw [PortCall.coupled, hdec, Bool.not_true, Bool.and_false]
          rw [hzero, wanted_of_decoupled hk]
      | false =>
          have hfsm := congrArg PortLogic.portFsm hrest
          rw [hst] at hfirst
          dsimp only at hfirst
          have hdec' : ¬k.roomy.roleDecoupled = true := by
            show ¬k.roleDecoupled = true
            rw [hdec]
            decide
          rw [if_neg hdec'] at hfirst
          rw [hfirst, pPortLogic] at hfsm
          dsimp only at hfsm
          rw [if_pos (show k.roomy.startTclClsRoom = true from rfl), hst] at hfsm
          cases hfsm
  | startTcpCls2 =>
      have hfsm := congrArg PortLogic.portFsm hrest
      rw [hst] at hfirst
      dsimp only at hfirst
      rw [if_pos (show k.roomy.startTclClsRoom = true from rfl)] at hfirst
      rw [hfirst, pPortLogic] at hfsm
      dsimp only at hfsm
      rw [if_pos (show k.roomy.portUpdateRoom = true from rfl), hst] at hfsm
      cases hfsm
  | newFmcReq =>
      have hfsm := congrArg PortLogic.portFsm hrest
      rw [hst] at hfirst
      dsimp only at hfirst
      rw [if_pos (show k.roomy.tcpOpenRoom = true from rfl)] at hfirst
      rw [hfirst, pPortLogic] at hfsm
      dsimp only at hfsm
      split at hfsm
      · rw [hst] at hfsm
        cases hfsm
      · rw [hst] at hfsm
        cases hfsm
  | newFmcRep =>
      rw [hst] at hask
      cases hask
  | newUdpReq =>
      rw [hst] at hfirst
      dsimp only at hfirst
      rw [if_pos (show k.roomy.udpOpenRoom = true from rfl), portNewUdpReq] at hfirst
      dsimp only at hfirst
      split at hfirst
      · have hfsm := congrArg PortLogic.portFsm hrest
        rw [hfirst, pPortLogic] at hfsm
        dsimp only at hfsm
        split at hfsm
        · rw [hst] at hfsm
          cases hfsm
        · rw [hst] at hfsm
          cases hfsm
      · have hleads := idleLeads_of_rest (congrArg Prod.fst hfirst) rfl hrest
        rw [hst] at hleads
        exact absurd rfl hleads
  | newUdpRep => exact absurd hst hrep
  | newTcpReq =>
      rw [hst] at hfirst
      dsimp only at hfirst
      rw [if_pos (show k.roomy.tcpOpenRoom = true from rfl), portNewTcpReq] at hfirst
      dsimp only at hfirst
      split at hfirst
      · have hfsm := congrArg PortLogic.portFsm hrest
        rw [hfirst, pPortLogic] at hfsm
        dsimp only at hfsm
        split at hfsm
        · rw [hst] at hfsm
          cases hfsm
        · rw [hst] at hfsm
          cases hfsm
      · have hleads := idleLeads_of_rest (congrArg Prod.fst hfirst) rfl hrest
        rw [hst] at hleads
        exact absurd rfl hleads
  | newTcpRep =>
      rw [hst] at hask
      cases hask
  | sendUpdate =>
      rw [hst] at hfirst
      dsimp only at hfirst
      rw [if_pos (show k.roomy.portUpdateRoom = true from rfl)] at hfirst
      have hleads := idleLeads_of_rest (congrArg Prod.fst hfirst) rfl hrest
      rw [hst] at hleads
      exact hleads.elim

end Rest

/-! ### The property -/

lemma PortInv.portsAgree {s : PortSys} {ut tt : Option (UdpPort × Stage)} (h : PortInv s ut tt) :
    PortsAgree s := by
  have hopening (p : UdpPort) : Opening s.logic p ↔ ∃ st, ut = some (p, st) := by
    constructor
    · rintro ⟨hfsm, hp⟩
      have hut := h.udpRep.mp hfsm
      obtain ⟨⟨q, st⟩, hq⟩ := Option.ne_none_iff_exists'.mp hut
      obtain ⟨⟨i, hi, hrel, hport⟩, -⟩ := h.asked q st hq
      rw [hp, hrel]
      rw [hport] at hq
      exact ⟨st, hq⟩
    · rintro ⟨st, hst⟩
      obtain ⟨⟨i, hi, hrel, hport⟩, -⟩ := h.asked p st hst
      refine ⟨h.udpRep.mpr (by rw [hst]; nofun), ?_⟩
      rw [hport, hrel]
      rfl
  refine ⟨fun k hup hquiet => ?_, fun p hp => ?_, fun p hp => ?_, h.acks⟩
  · obtain ⟨hsilent, hreqs, hlsn, hfeds⟩ := hquiet.udp
    have hut : ut = none := h.udp.none_of_silent hsilent hfeds
    have htt : tt = none := h.tcp.none_of_silent hquiet.tcp.1 hquiet.tcp.2.2
    subst hut htt
    have hrep : s.logic.portFsm ≠ .newUdpRep := fun hfsm => h.udpRep.mp hfsm rfl
    have hask : s.logic.portFsm.asksTOE = false :=
      Bool.eq_false_iff.mpr fun hasks => h.tcpRep.mp hasks rfl
    refine ⟨fun p => ?_, wanted_of_rest hup hrep hask h.up h.closesTcp hquiet.rest⟩
    have hnot : ¬Opened none p := by
      rintro (hp | hp)
      · cases hp
      · cases hp
    rw [h.table p, hquiet.closing]
    simp only [hnot, List.not_mem_nil, or_false]
  · rw [hopening] at hp
    exact h.once p hp
  · rw [hopening] at hp
    exact h.settled p hp

/-- A call of `pUdpPortTable` at the start. -/
lemma portNext_start (b : Build) {s : PortSys} (hinit : s.upt.uptIsInit = false)
    (hclosed : ∀ p, s.upt.portTable p = false) :
    portNext b s (.upt {}) = { s with
      upt := if s.upt.uptInitPtr = 0 then { s.upt with uptIsInit := true }
        else { s.upt with uptInitPtr := s.upt.uptInitPtr - 1 } } := by
  obtain ⟨hupt, hlsn, hcls⟩ := uptInit_closed hinit hclosed {} rfl
  rw [portNext]
  dsimp only
  rw [hlsn, hcls, hupt, List.append_nil, List.append_nil]

/-- The start of the UOE takes as many calls as there are ports. -/
lemma run_start (b : Build) {s : PortSys} (hinit : s.upt.uptIsInit = false)
    (hclosed : ∀ p, s.upt.portTable p = false) {n : ℕ} (hn : s.upt.uptInitPtr.toNat = n) :
    Clocked.run (portNext b) s (List.replicate (n + 1) (.upt {})) =
      { s with upt := { s.upt with uptIsInit := true, uptInitPtr := 0 } } := by
  induction n generalizing s with
  | zero =>
      have hzero : s.upt.uptInitPtr = 0 := BitVec.eq_of_toNat_eq hn
      rw [List.replicate_one, Clocked.run_cons, Clocked.run_nil, portNext_start b hinit hclosed,
        if_pos hzero, ← hzero]
  | succ n ih =>
      have hne : s.upt.uptInitPtr ≠ 0 := by
        intro hzero
        rw [hzero] at hn
        cases hn
      rw [List.replicate_succ, Clocked.run_cons, portNext_start b hinit hclosed, if_neg hne]
      exact ih hinit hclosed (by dsimp only; bv_omega)

/-- The UOE is started, and the delays are over. -/
def portStart : List PortStep :=
  List.replicate 65536 (.upt {}) ++ List.replicate 2 (.logic {}) ++ List.replicate 11 (.udpLsn {})

/-- The ROLE requests a port, and it is opened. -/
def openPort (ports : Word) : List PortStep :=
  [.logic { udpRxPorts := ports }, .logic { udpRxPorts := ports }, .udpLsn {}, .upt {}, .upt {},
    .udpLsn {}, .logic { udpRxPorts := ports }, .logic { udpRxPorts := ports }]

/-- The state at the end of `portStart`. -/
def portStarted : PortSys :=
  { logic := { mmioStabilizeCounter := 0, portFsm := .idle }
    udpLsn := { startupDelay := 0, lsnFsmState := .sendReq }
    upt := { uptIsInit := true, uptInitPtr := 0 } }

lemma run_portStart :
    Clocked.run (portNext .simulation) (portSysInit .simulation) portStart = portStarted := by
  rw [portStart, Clocked.run_append, Clocked.run_append,
    run_start .simulation rfl (fun _ => rfl) (n := 65535) rfl]
  rfl

/-- The ROLE takes back the port that was opened. -/
def withdrawal : List PortStep := portStart ++ (openPort 1 ++ [.logic {}, .logic {}])

/-- Layer 4 is enabled. -/
def PortStep.up : PortStep → Bool
  | .logic k => k.up
  | _ => true

/-- After that no request is under way. -/
lemma quiescent_withdrawn : Quiescent (Clocked.run (portNext .simulation) portStarted
    (openPort 1 ++ [.logic {}, .logic {}])) {} :=
  ⟨⟨⟨rfl, rfl, nofun⟩, rfl, nofun, rfl⟩, ⟨⟨rfl, rfl, nofun⟩, rfl, rfl⟩, rfl, by decide +kernel⟩

lemma not_portsAgree_withdrawn : ¬PortsAgree (Clocked.run (portNext .simulation) portStarted
    (openPort 1 ++ [.logic {}, .logic {}])) := by
  intro hagree
  have hopen : (Clocked.run (portNext .simulation) portStarted
      (openPort 1 ++ [.logic {}, .logic {}])).upt.portTable nalRxMinPort = true := by
    decide +kernel
  have hproc : (Clocked.run (portNext .simulation) portStarted
      (openPort 1 ++ [.logic {}, .logic {}])).logic.udpRxPortsProcessed = 0 := by
    decide +kernel
  have hport := ((hagree.quiet {} rfl quiescent_withdrawn).1 nalRxMinPort).mp hopen
  rw [hproc] at hport
  exact not_hasPort_zero _ hport

end CloudFpga.Nal
