import CloudFpga.Foundation.Transducer
import CloudFpga.Icmp.Inserter

/-!
The echo service of the ICMP server: `pIcmpChecksumChecker`, `pInvalidPacketDropper` and
`pIcmpChecksumInserter` with the streams between them, as `icmp.cpp` declares them.

* `echoStep`: a call of one of the processes; a process whose output stream is full waits.
* `EchoSafe`, `EchoAnswered`: the replies are those of the requests, in their order, and none is
  missing as soon as nobody blocks the processes.
-/

namespace CloudFpga.Icmp

open Foundation AxisRaw Toe Uoe

/-- The processes and the streams between them. The chunks of all packets wait in `siIPRX_Data`; a
chunk that has not arrived yet is one for which the checker is not called. -/
structure EchoServer where
  siIPRXData : List AxisIp4
  icc : IccState := {}
  ssICcToIPdData : List AxisIp4 := []
  ssICcToIPdDropCmd : List CmdBit := []
  ipd : IpdState := {}
  ssXYzToICiData : Bool → List AxisIp4 := fun _ => []
  ssUVwToICiCsum : Bool → List IcmpCsum := fun _ => []
  ici : IciState := {}

/-- Who takes the next step. -/
inductive EchoLabel where
  /-- `pIcmpChecksumChecker` -/
  | icc
  /-- `pInvalidPacketDropper` -/
  | ipd
  /-- `pIcmpChecksumInserter` -/
  | ici
  deriving DecidableEq

/-- A call of the checker. -/
def iccCall (s : EchoServer) : EchoServer :=
  let r := pIcmpChecksumChecker s.icc s.siIPRXData
  if r.2.2.soIPdData ≠ [] ∧ 64 ≤ s.ssICcToIPdData.length then s
  else if r.2.2.soIPdDropCmd ≠ [] ∧ 8 ≤ s.ssICcToIPdDropCmd.length then s
  else if r.2.2.soICiCsum ≠ [] ∧ 16 ≤ (s.ssUVwToICiCsum fromEcho).length then s
  else
    { s with
      icc := r.1
      siIPRXData := r.2.1
      ssICcToIPdData := s.ssICcToIPdData ++ r.2.2.soIPdData
      ssICcToIPdDropCmd := s.ssICcToIPdDropCmd ++ r.2.2.soIPdDropCmd
      ssUVwToICiCsum := Function.update s.ssUVwToICiCsum fromEcho
        (s.ssUVwToICiCsum fromEcho ++ r.2.2.soICiCsum) }

/-- A call of the dropper. -/
def ipdCall (s : EchoServer) : EchoServer :=
  let r := pInvalidPacketDropper s.ipd s.ssICcToIPdData s.ssICcToIPdDropCmd
  if r.2.2.2 ≠ [] ∧ 16 ≤ (s.ssXYzToICiData fromEcho).length then s
  else
    { s with
      ipd := r.1
      ssICcToIPdData := r.2.1
      ssICcToIPdDropCmd := r.2.2.1
      ssXYzToICiData := Function.update s.ssXYzToICiData fromEcho
        (s.ssXYzToICiData fromEcho ++ r.2.2.2) }

/-- A step, and what it writes on `soIPTX_Data`. -/
def echoStep (s : EchoServer) : EchoLabel → EchoServer × List AxisIp4
  | .icc => (iccCall s, [])
  | .ipd => (ipdCall s, [])
  | .ici =>
      let r := pIcmpChecksumInserter s.ici s.ssXYzToICiData s.ssUVwToICiCsum
      ({ s with
          ici := r.state
          ssXYzToICiData := r.siXYzData
          ssUVwToICiCsum := r.siUVwCsum }, r.soIPTXData)

def echoNext (s : EchoServer) (l : EchoLabel) : EchoServer := (echoStep s l).1

/-! ### Runs -/

/-- A packet: valid chunks, the last one with `TLAST`, and an IPv4 header without options. -/
abbrev EchoPacket := { cs : List AxisIp4 // WellFormed cs ∧ 20 ≤ (streamBytes cs).length }

/-- The bytes of a packet. -/
def EchoPacket.bytes (p : EchoPacket) : List Byte := streamBytes p.val

instance (b : List Byte) : Decidable (IsEcho b) :=
  decidable_of_iff
    (28 ≤ b.length ∧ byteAt b 20 = icmpEchoRequest ∧ byteAt b 21 = 0 ∧ CsumOk (b.drop 20))
    ⟨fun h => ⟨h.1, h.2.1, h.2.2.1, h.2.2.2⟩, fun h => ⟨h.length, h.type, h.code, h.csum⟩⟩

section Run

variable (ps : List EchoPacket) (ls : List EchoLabel)

/-- The state at power-up, with the packets to come. -/
def echoStart : EchoServer where
  siIPRXData := ps.flatMap Subtype.val

/-- The state after a run. -/
def echoRun : EchoServer := Clocked.run echoNext (echoStart ps) ls

/-- What a run writes on `soIPTX_Data`. -/
def echoSent : List AxisIp4 := emits echoNext (fun s l => (echoStep s l).2) (echoStart ps) ls

/-! ### The law -/

/-- The requests for an echo with a correct checksum. -/
def echoRequests : List EchoPacket := ps.filter fun p => IsEcho p.bytes

/-- A packet that is the reply to a request. -/
def Replies (p : EchoPacket) (cs : List AxisIp4) : Prop :=
  WellFormed cs ∧ IsReply p.bytes (streamBytes cs)

/-- What is sent is a first part of the replies to the requests, one for each, in their order. -/
def EchoSafe : Prop :=
  ∃ replies, List.Forall₂ Replies (echoRequests ps) replies ∧ echoSent ps ls <+: replies.flatten

/-- A round: every process is called, in any order and any number of times. -/
def Round (round : List EchoLabel) : Prop := .icc ∈ round ∧ .ipd ∈ round ∧ .ici ∈ round

/-- After enough rounds every request has its reply. -/
def EchoAnswered : Prop :=
  ∃ n, ∀ rounds : List (List EchoLabel), (∀ round ∈ rounds, Round round) → n ≤ rounds.length →
    ∃ replies, List.Forall₂ Replies (echoRequests ps) replies ∧
      echoSent ps (ls ++ rounds.flatten) = replies.flatten

/-- The law of the echo service. -/
def EchoLaw : Prop := EchoSafe ps ls ∧ EchoAnswered ps ls

end Run

end CloudFpga.Icmp
