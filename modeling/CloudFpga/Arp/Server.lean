import CloudFpga.Arp.PacketSender

/-!
The ARP server, `arp.cpp`: `pArpPacketReceiver`, `pArpPacketSender` and `pArpCamController` with the
streams between them and the CAM.

* `arpStep`: a step of one of the processes or of the CAM, or a frame or a lookup that arrives; a
  process whose output stream is full waits.
* `arpEth`, `camBinds`, `arpAnswers`: what is sent, what is given to the CAM, and the replies.
* `ArpSafe`: the replies, the bindings and the frames that are sent are those of complete frames and
  of lookups, in order.
* `ArpAnswered`: nothing of it is missing as soon as nobody blocks the processes.
-/

namespace CloudFpga.Arp

open Foundation

/-! ### The state -/

/-- `FsmStates` of `pArpPacketSender`. -/
inductive ApsFsm where
  | aprIdle
  | aprReply
  | aprSentrq
  deriving DecidableEq

structure ApsState where
  fsmState : ApsFsm := .aprIdle
  sendCount : BitVec 8 := 0
  aprMeta : ArpMeta := {}
  tpaReq : Ip4Addr := 0
  deriving DecidableEq

/-- `FsmStates` of `pArpCamController`. -/
inductive AccFsm where
  | accIdle
  | accUpdate
  | accLookup
  deriving DecidableEq

structure ArpLkpReply where
  macAddress : EthAddr
  hit : Bool
  deriving DecidableEq

/-- The processes, the streams between them and the CAM with its own. -/
structure ArpServer where
  siIPRXData : List AxisEth := []
  apr : AprState := {}
  ssAPrToAPsMeta : List ArpMeta := []
  ssAPrToACcUpdateReq : List ArpBindPair := []
  aps : ApsState := {}
  ssACcToAPsMeta : List Ip4Addr := []
  siIPTXMacLkpReq : List Ip4Addr := []
  accFsmState : AccFsm := .accIdle
  ipLkpKey : Ip4Addr := 0
  camMacLkpReq : List Ip4Addr := []
  camMacLkpRep : List ArpLkpReply := []
  camMacUpdReq : List ArpBindPair := []
  camMacUpdRep : List Unit := []
  cam : Ip4Addr → Option EthAddr := fun _ => none

/-- What is seen of a step. -/
structure ArpEvent where
  /-- the chunk that the receiver reads -/
  chunk : List AxisEth := []
  soAPsMeta : List ArpMeta := []
  soACcUpdateReq : List ArpBindPair := []
  /-- the job that the sender takes -/
  job : List ArpJob := []
  soETHData : List AxisEth := []
  soCAMMacUpdReq : List ArpBindPair := []
  /-- the reply to a lookup, with its key -/
  answer : List (Ip4Addr × ArpLkpReply) := []
  deriving DecidableEq

/-! ### The processes -/

section Processes

variable (macAddress : EthAddr) (ipAddress : Ip4Addr)

/-- `IP4_BROADCAST_ADDR`. -/
def ip4BroadcastAddr : Ip4Addr := 0xFFFFFFFF

/-- A call of the receiver. It waits if it is to write on a stream that is full. -/
def aprCall (s : ArpServer) : ArpServer × ArpEvent :=
  match s.siIPRXData with
  | [] => (s, {})
  | currChunk :: cs =>
      let r := pArpPacketReceiver ipAddress s.apr currChunk
      if r.2.soAPsMeta ≠ [] ∧ 4 ≤ s.ssAPrToAPsMeta.length then (s, {})
      else if r.2.soACcUpdateReq ≠ [] ∧ 4 ≤ s.ssAPrToACcUpdateReq.length then (s, {})
      else
        ({ s with
            siIPRXData := cs
            apr := r.1
            ssAPrToAPsMeta := s.ssAPrToAPsMeta ++ r.2.soAPsMeta
            ssAPrToACcUpdateReq := s.ssAPrToACcUpdateReq ++ r.2.soACcUpdateReq },
          { chunk := [currChunk]
            soAPsMeta := r.2.soAPsMeta
            soACcUpdateReq := r.2.soACcUpdateReq })

/-- A chunk of the frame of a job is written. -/
def apsSend (s : ArpServer) (job : ArpJob) : ArpServer × ArpEvent :=
  ({ s with aps := { s.aps with
      fsmState := if s.aps.sendCount = 5 then .aprIdle else s.aps.fsmState
      sendCount := s.aps.sendCount + 1 } },
    { soETHData := [sendChunk macAddress ipAddress job s.aps.sendCount.toNat] })

/-- One call of the sender. -/
def pArpPacketSender (s : ArpServer) : ArpServer × ArpEvent :=
  match s.aps.fsmState with
  | .aprIdle =>
      match s.ssAPrToAPsMeta, s.ssACcToAPsMeta with
      | m :: ms, _ =>
          ({ s with
              ssAPrToAPsMeta := ms
              aps := { s.aps with sendCount := 0, aprMeta := m, fsmState := .aprReply } },
            { job := [.reply m] })
      | [], a :: as =>
          ({ s with
              ssACcToAPsMeta := as
              aps := { s.aps with sendCount := 0, tpaReq := a, fsmState := .aprSentrq } },
            { job := [.request a] })
      | [], [] => ({ s with aps := { s.aps with sendCount := 0 } }, {})
  | .aprSentrq => apsSend macAddress ipAddress s (.request s.aps.tpaReq)
  | .aprReply => apsSend macAddress ipAddress s (.reply s.aps.aprMeta)

/-- One call of the controller. It waits with the reply to a lookup that missed if the stream to the
sender is full. -/
def pArpCamController (s : ArpServer) : ArpServer × ArpEvent :=
  match s.accFsmState with
  | .accIdle =>
      match s.siIPTXMacLkpReq, s.ssAPrToACcUpdateReq with
      | key :: keys, _ =>
          if key = ip4BroadcastAddr then
            ({ s with siIPTXMacLkpReq := keys, ipLkpKey := key },
              { answer := [(key, ⟨ethBroadcastAddr, true⟩)] })
          else
            ({ s with
                siIPTXMacLkpReq := keys
                ipLkpKey := key
                camMacLkpReq := s.camMacLkpReq ++ [key]
                accFsmState := .accLookup }, {})
      | [], arpBind :: bs =>
          ({ s with
              ssAPrToACcUpdateReq := bs
              camMacUpdReq := s.camMacUpdReq ++ [arpBind]
              accFsmState := .accUpdate },
            { soCAMMacUpdReq := [arpBind] })
      | [], [] => (s, {})
  | .accUpdate =>
      match s.camMacUpdRep with
      | [] => (s, {})
      | _ :: rs => ({ s with camMacUpdRep := rs, accFsmState := .accIdle }, {})
  | .accLookup =>
      match s.camMacLkpRep with
      | [] => (s, {})
      | macLkpReply :: rs =>
          if macLkpReply.hit then
            ({ s with camMacLkpRep := rs, accFsmState := .accIdle },
              { answer := [(s.ipLkpKey, macLkpReply)] })
          else if 4 ≤ s.ssACcToAPsMeta.length then (s, {})
          else
            ({ s with
                camMacLkpRep := rs
                ssACcToAPsMeta := s.ssACcToAPsMeta ++ [s.ipLkpKey]
                accFsmState := .accIdle },
              { answer := [(s.ipLkpKey, macLkpReply)] })

/-- The reply of the CAM. Without a hit its value can be any. -/
def camReply (value : Option EthAddr) (missValue : EthAddr) : ArpLkpReply :=
  match value with
  | some macAddr => ⟨macAddr, true⟩
  | none => ⟨missValue, false⟩

/-- The CAM answers a lookup. -/
def camLookup (s : ArpServer) (missValue : EthAddr) : ArpServer :=
  match s.camMacLkpReq with
  | [] => s
  | key :: keys =>
      { s with
        camMacLkpReq := keys
        camMacLkpRep := s.camMacLkpRep ++ [camReply (s.cam key) missValue] }

/-- A binding that is inserted. -/
def camInsert (cam : Ip4Addr → Option EthAddr) (b : ArpBindPair) : Ip4Addr → Option EthAddr :=
  Function.update cam b.ip4Addr (some b.macAddr)

/-- The CAM inserts a binding. -/
def camUpdate (s : ArpServer) : ArpServer :=
  match s.camMacUpdReq with
  | [] => s
  | b :: bs =>
      { s with
        camMacUpdReq := bs
        camMacUpdRep := s.camMacUpdRep ++ [()]
        cam := camInsert s.cam b }

/-- A frame of the stream: valid chunks, the last one with `TLAST`. -/
abbrev EthFrame := { cs : List AxisEth // WellFormed cs }

/-- Who takes the next step. -/
inductive ArpLabel where
  /-- a frame from the IP Rx handler -/
  | frame (f : EthFrame)
  /-- a lookup of the IP Tx handler -/
  | macLkpReq (key : Ip4Addr)
  /-- `pArpPacketReceiver` -/
  | apr
  /-- `pArpPacketSender` -/
  | aps
  /-- `pArpCamController` -/
  | acc
  /-- the CAM looks an address up -/
  | camLookup (missValue : EthAddr)
  /-- the CAM inserts a binding -/
  | camUpdate
  deriving DecidableEq

/-- A step. -/
def arpStep (s : ArpServer) : ArpLabel → ArpServer × ArpEvent
  | .frame f => ({ s with siIPRXData := s.siIPRXData ++ f.val }, {})
  | .macLkpReq key => ({ s with siIPTXMacLkpReq := s.siIPTXMacLkpReq ++ [key] }, {})
  | .apr => aprCall ipAddress s
  | .aps => pArpPacketSender macAddress ipAddress s
  | .acc => pArpCamController s
  | .camLookup missValue => (camLookup s missValue, {})
  | .camUpdate => (camUpdate s, {})

def arpNext (s : ArpServer) (l : ArpLabel) : ArpServer := (arpStep macAddress ipAddress s l).1

end Processes

/-! ### What is seen of a run -/

/-- The registers that a reset leaves alone. -/
structure ArpRegs where
  apr : AprRegs := {}
  sendCount : BitVec 8 := 0
  aprMeta : ArpMeta := {}
  tpaReq : Ip4Addr := 0
  ipLkpKey : Ip4Addr := 0

/-- The state after a reset. -/
def arpStart (regs : ArpRegs) : ArpServer where
  apr := { regs := regs.apr }
  aps := { sendCount := regs.sendCount, aprMeta := regs.aprMeta, tpaReq := regs.tpaReq }
  ipLkpKey := regs.ipLkpKey

def ArpLabel.frames : ArpLabel → List EthFrame
  | .frame f => [f]
  | _ => []

def ArpLabel.lookups : ArpLabel → List Ip4Addr
  | .macLkpReq key => [key]
  | _ => []

/-- The frames of a run. -/
def arpFrames (ls : List ArpLabel) : List EthFrame := ls.flatMap ArpLabel.frames

/-- The bytes of the frames of a run. -/
def arpPackets (ls : List ArpLabel) : List (List Byte) :=
  (arpFrames ls).map fun f => streamBytes f.val

/-- The lookups of a run. -/
def arpLookups (ls : List ArpLabel) : List Ip4Addr := ls.flatMap ArpLabel.lookups

/-- The meta data of a reply. -/
def ArpJob.metas : ArpJob → List ArpMeta
  | .reply aprMeta => [aprMeta]
  | .request _ => []

/-- The address of a request. -/
def ArpJob.keys : ArpJob → List Ip4Addr
  | .reply _ => []
  | .request tpaReq => [tpaReq]

/-- The address of a lookup that missed. -/
def missKey (a : Ip4Addr × ArpLkpReply) : List Ip4Addr := if a.2.hit then [] else [a.1]

section Run

variable (macAddress : EthAddr) (ipAddress : Ip4Addr) (regs : ArpRegs) (ls : List ArpLabel)

/-- The state after a run. -/
def arpRun : ArpServer := Clocked.run (arpNext macAddress ipAddress) (arpStart regs) ls

/-- What a run writes on a stream. -/
def arpEmits {β : Type} (out : ArpEvent → List β) : List β :=
  emits (arpNext macAddress ipAddress) (fun s l => out (arpStep macAddress ipAddress s l).2)
    (arpStart regs) ls

/-- The chunks that are sent. -/
def arpEth : List AxisEth := arpEmits macAddress ipAddress regs ls ArpEvent.soETHData

/-- The bindings that are given to the CAM. -/
def camBinds : List ArpBindPair := arpEmits macAddress ipAddress regs ls ArpEvent.soCAMMacUpdReq

/-- The replies to the lookups, with their keys. -/
def arpAnswers : List (Ip4Addr × ArpLkpReply) :=
  arpEmits macAddress ipAddress regs ls ArpEvent.answer

/-- The addresses of the lookups that missed. -/
def arpMisses : List Ip4Addr := (arpAnswers macAddress ipAddress regs ls).flatMap missKey

end Run

/-! ### The law -/

/-- The last binding of an address. -/
def lastBinding (bs : List ArpBindPair) (key : Ip4Addr) : Option EthAddr :=
  (bs.filter (·.ip4Addr = key)).getLast?.map (·.macAddr)

/-- The answer to a lookup when the CAM has been given these bindings. -/
def IsAnswer (bs : List ArpBindPair) (a : Ip4Addr × ArpLkpReply) : Prop :=
  if a.1 = ip4BroadcastAddr then a.2 = ⟨ethBroadcastAddr, true⟩
  else
    match lastBinding bs a.1 with
    | some macAddr => a.2 = ⟨macAddr, true⟩
    | none => a.2.hit = false

/-- The chunks of the frame of a job. -/
def IsFrameOf (macAddress : EthAddr) (ipAddress : Ip4Addr) (job : ArpJob) (cs : List AxisEth) :
    Prop :=
  WellFormed cs ∧ streamBytes cs = jobBytes macAddress ipAddress job

section Law

variable (macAddress : EthAddr) (ipAddress : Ip4Addr) (regs : ArpRegs) (ls : List ArpLabel)

/-- The metas of the requests for our address. -/
def askedMetas : List ArpMeta :=
  ((arpPackets ls).filter (IsRequestFor · ipAddress)).map frameMeta

/-- The bindings of the complete frames. -/
def frameBinds : List ArpBindPair := ((arpPackets ls).filter Complete).map frameBind

/-- At any time, what the server has done is a first part of what it is to do. -/
structure ArpSafe : Prop where
  bindings : camBinds macAddress ipAddress regs ls <+: frameBinds ls
  frames : ∃ jobs frames, List.Forall₂ (IsFrameOf macAddress ipAddress) jobs frames ∧
    arpEth macAddress ipAddress regs ls <+: frames.flatten ∧
    jobs.flatMap ArpJob.metas <+: askedMetas ipAddress ls ∧
    jobs.flatMap ArpJob.keys <+: arpMisses macAddress ipAddress regs ls
  lookups : (arpAnswers macAddress ipAddress regs ls).map Prod.fst <+: arpLookups ls
  answers : ∀ pre l post, ls = pre ++ l :: post →
    ∀ a ∈ (arpStep macAddress ipAddress (arpRun macAddress ipAddress regs pre) l).2.answer,
      IsAnswer (camBinds macAddress ipAddress regs pre) a

/-- All of it is done. -/
structure ArpDone : Prop where
  bindings : camBinds macAddress ipAddress regs ls = frameBinds ls
  frames : ∃ jobs frames, List.Forall₂ (IsFrameOf macAddress ipAddress) jobs frames ∧
    arpEth macAddress ipAddress regs ls = frames.flatten ∧
    jobs.flatMap ArpJob.metas = askedMetas ipAddress ls ∧
    jobs.flatMap ArpJob.keys = arpMisses macAddress ipAddress regs ls
  lookups : (arpAnswers macAddress ipAddress regs ls).map Prod.fst = arpLookups ls

/-- A call of a process or of the CAM. -/
def IsCall (l : ArpLabel) : Prop := l.frames = [] ∧ l.lookups = []

/-- A round: every process and the CAM are called, in any order and any number of times. -/
structure Round (round : List ArpLabel) : Prop where
  calls : ∀ l ∈ round, IsCall l
  apr : .apr ∈ round
  aps : .aps ∈ round
  acc : .acc ∈ round
  camLookup : ∃ missValue, .camLookup missValue ∈ round
  camUpdate : .camUpdate ∈ round

/-- After enough rounds all is done. -/
def ArpAnswered : Prop :=
  ∃ n, ∀ rounds : List (List ArpLabel), (∀ round ∈ rounds, Round round) → n ≤ rounds.length →
    ArpDone macAddress ipAddress regs (ls ++ rounds.flatten)

/-- The law of the server. -/
def ArpLaw : Prop := ArpSafe macAddress ipAddress regs ls ∧ ArpAnswered macAddress ipAddress regs ls

end Law

end CloudFpga.Arp
