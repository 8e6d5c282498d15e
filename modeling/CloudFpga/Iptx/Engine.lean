import CloudFpga.Arp.Server
import CloudFpga.Foundation.Network
import CloudFpga.Icmp.ChecksumChecker
import CloudFpga.Nts.AxisSetters
import CloudFpga.Nts.Shift

/-!
The IP transmitter, `iptx` of `iptx.cpp`, as a network of its processes.

* `pHeaderChecksumAccumulator`, `pIpChecksumInsert`, `pIp4AddressExtractor`, `pMacAddressInserter`:
  what each process waits for in its state, and what it does then.
* `IptxProc`, `IptxChan`: the processes and the streams between them, with the L3 multiplexer, the
  ARP server and the L2 multiplexer.
* `iptx`: the network, with the depths of `iptx`.
-/

namespace CloudFpga.Iptx

open Foundation AxisRaw Toe
open Arp (AxisEth ArpLkpReply setEthDstAddr setEthSrcAddrHi setEthSrcAddrLo setEthertType)
open Icmp (setIp4HdrCsum)
open Uoe (getIp4DstAddr)

abbrev Ip4HdrCsum := BitVec 16

/-! ### Processes and streams -/

inductive IptxProc where
  | l3mux | hca | ici | iae | mai | arp | l2mux
  deriving DecidableEq, Repr

inductive IptxChan where
  | siL3MUXData
  | ssHCaToICiData | ssHCaToICiCsum
  | ssICiToIAeData | ssIAeToMAiData
  | soARPLookupReq | siARPLookupRep
  | soL2MUXData
  deriving DecidableEq, Repr

/-- What the streams carry. -/
abbrev IptxItem : IptxChan → Type
  | .siL3MUXData | .ssHCaToICiData | .ssICiToIAeData | .ssIAeToMAiData | .soL2MUXData => AxisRaw
  | .ssHCaToICiCsum => Ip4HdrCsum
  | .soARPLookupReq => Ip4Addr
  | .siARPLookupRep => ArpLkpReply

instance : (c : IptxChan) → Inhabited (IptxItem c)
  | .siL3MUXData | .ssHCaToICiData | .ssICiToIAeData | .ssIAeToMAiData | .soL2MUXData =>
      ⟨AxisRaw.zero⟩
  | .ssHCaToICiCsum => ⟨(0 : Ip4HdrCsum)⟩
  | .soARPLookupReq => ⟨(0 : Ip4Addr)⟩
  | .siARPLookupRep => ⟨⟨0, false⟩⟩

/-! ### `pHeaderChecksumAccumulator` -/

/-- The steps of the last additions. -/
inductive HcaFsmState where
  | s0 | s1 | s2 | s3
  deriving DecidableEq, Repr

structure Hca where
  hcaCsumWritten : Bool := true
  hcaFsmState : HcaFsmState := .s0
  hcaIpHdrCsum : Fin 4 → BitVec 17 := fun _ => 0
  hcaChunkCount : ℕ := 0
  hcaIpHdrLen : Ip4HdrLen := 0
  deriving DecidableEq

/-- Some of the words of a chunk are added. -/
def addWordsAt (sums : Fin 4 → BitVec 17) (which : Fin 4 → Prop) [DecidablePred which]
    (c : AxisIp4) : Fin 4 → BitVec 17 := fun i =>
  if which i then carryAdd (sums i) (be16 c.data (2 * i)) else sums i

/-- A chunk is read. The length that is left of the header is counted in words of four bytes. -/
def hcaChunk (s : Hca) (currChunk : AxisIp4) : Hca :=
  let s' : Hca := match s.hcaChunkCount with
    | 0 =>
        { s with
          hcaIpHdrLen := getIp4HdrLen currChunk - 2
          hcaIpHdrCsum := addWords s.hcaIpHdrCsum currChunk
          hcaChunkCount := 1 }
    | 1 =>
        -- the second word is the checksum
        { s with
          hcaIpHdrLen := s.hcaIpHdrLen - 2
          hcaIpHdrCsum := addWordsAt s.hcaIpHdrCsum (· ≠ 1) currChunk
          hcaChunkCount := 2 }
    | _ =>
        if s.hcaIpHdrLen = 0 then s
        else if s.hcaIpHdrLen = 1 then
          { s with
            hcaIpHdrLen := 0
            hcaIpHdrCsum := addWordsAt s.hcaIpHdrCsum (· < 2) currChunk
            hcaCsumWritten := false }
        else
          { s with
            hcaIpHdrLen := s.hcaIpHdrLen - 2
            hcaIpHdrCsum := addWords s.hcaIpHdrCsum currChunk
            hcaCsumWritten := if s.hcaIpHdrLen - 2 = 0 then false else s.hcaCsumWritten }
  { s' with hcaChunkCount := if currChunk.tlast then 0 else s'.hcaChunkCount }

/-- The partial sums are added, and what is written then. -/
def hcaSum (s : Hca) : Hca × List Ip4HdrCsum :=
  let csum := s.hcaIpHdrCsum
  match s.hcaFsmState with
  | .s0 =>
      ({ s with
          hcaIpHdrCsum := ![carryFold (csum 0 + csum 2), carryFold (csum 1 + csum 3), csum 2, csum 3]
          hcaFsmState := .s1 }, [])
  | .s1 =>
      ({ s with
          hcaIpHdrCsum := ![carryFold (csum 0 + csum 1), csum 1, csum 2, csum 3]
          hcaFsmState := .s2 }, [])
  | .s2 =>
      ({ s with hcaIpHdrCsum := ![~~~csum 0, csum 1, csum 2, csum 3], hcaFsmState := .s3 },
        [(~~~csum 0).setWidth 16])
  | .s3 =>
      ({ s with hcaIpHdrCsum := fun _ => 0, hcaCsumWritten := true, hcaFsmState := .s0 }, [])

/-- The write of the checksum is a blocking one. -/
def pHeaderChecksumAccumulator (s : Hca) : Action IptxChan IptxItem Hca :=
  if s.hcaCsumWritten then
    { nonempty := [.siL3MUXData]
      notFull := [.ssHCaToICiData]
      reads := [.siL3MUXData]
      act := fun read =>
        let currChunk := read .siL3MUXData
        (hcaChunk s currChunk, Action.write .ssHCaToICiData currChunk) }
  else
    { notFull := if s.hcaFsmState = .s2 then [.ssHCaToICiCsum] else []
      act := fun _ =>
        ((hcaSum s).1, fun
          | .ssHCaToICiCsum => (hcaSum s).2
          | _ => []) }

/-! ### `pIpChecksumInsert` -/

inductive IciFsmStates where
  | s0 | s1 | s2
  deriving DecidableEq, Repr

def pIpChecksumInsert (s : IciFsmStates) : Action IptxChan IptxItem IciFsmStates :=
  match s with
  | .s0 =>
      { nonempty := [.ssHCaToICiData]
        notFull := [.ssICiToIAeData]
        reads := [.ssHCaToICiData]
        act := fun read =>
          let currChunk := read .ssHCaToICiData
          (if currChunk.tlast then .s0 else .s1, Action.write .ssICiToIAeData currChunk) }
  | .s1 =>
      { nonempty := [.ssHCaToICiData, .ssHCaToICiCsum]
        notFull := [.ssICiToIAeData]
        reads := [.ssHCaToICiData, .ssHCaToICiCsum]
        act := fun read =>
          let currChunk := read .ssHCaToICiData
          (if currChunk.tlast then .s0 else .s2,
            Action.write .ssICiToIAeData (setIp4HdrCsum currChunk (read .ssHCaToICiCsum))) }
  | .s2 =>
      { nonempty := [.ssHCaToICiData]
        notFull := [.ssICiToIAeData]
        reads := [.ssHCaToICiData]
        act := fun read =>
          let currChunk := read .ssHCaToICiData
          (if currChunk.tlast then .s0 else .s2, Action.write .ssICiToIAeData currChunk) }

/-! ### `pIp4AddressExtractor` -/

/-- The address that is looked up: the destination, if it is in the subnet or the broadcast address,
or that of the gateway. -/
def lookupAddr (subNetMask gatewayAddr ipDestAddr : Ip4Addr) : Ip4Addr :=
  if ipDestAddr &&& subNetMask = gatewayAddr &&& subNetMask ∨ ipDestAddr = 0xFFFFFFFF then ipDestAddr
  else gatewayAddr

/-- `iae_chunkCount` behind a chunk. The third one does not look at `tlast`. -/
def iaeNext (iaeChunkCount : ℕ) (currChunk : AxisIp4) : ℕ :=
  if iaeChunkCount = 2 then 3
  else if currChunk.tlast then 0
  else if iaeChunkCount < 3 then iaeChunkCount + 1
  else iaeChunkCount

/-- The write of the request is a blocking one. -/
def pIp4AddressExtractor (subNetMask gatewayAddr : Ip4Addr) (iaeChunkCount : ℕ) :
    Action IptxChan IptxItem ℕ where
  nonempty := [.ssICiToIAeData]
  notFull := .ssIAeToMAiData :: if iaeChunkCount = 2 then [.soARPLookupReq] else []
  reads := [.ssICiToIAeData]
  act read :=
    let currChunk := read .ssICiToIAeData
    (iaeNext iaeChunkCount currChunk, fun
      | .ssIAeToMAiData => [currChunk]
      | .soARPLookupReq =>
          if iaeChunkCount = 2 then [lookupAddr subNetMask gatewayAddr (getIp4DstAddr currChunk)]
          else []
      | _ => [])

/-! ### `pMacAddressInserter` -/

inductive MaiFsmStates where
  | waitLookup | drop | write | writeFirst | writeLast
  deriving DecidableEq, Repr

structure Mai where
  maiFsmState : MaiFsmStates := .waitLookup
  maiPrevChunk : AxisIp4 := .zero
  deriving DecidableEq

/-- `setIp4HdrLen`, `setIp4Version` and `setIp4ToS` of `AxisEth.hpp`, with the fields of `c`. -/
def setIp4Start (chunk : AxisEth) (c : AxisIp4) : AxisEth :=
  setBytes (setBytes chunk 6
    [(byteAt c.data 0).extractLsb' 4 4 ++ (byteAt c.data 0).extractLsb' 0 4]) 7 [byteAt c.data 1]

/-- The first chunk of a frame. -/
def firstEthChunk (macAddress macDstAddr : EthAddr) : AxisEth :=
  setEthSrcAddrHi (setEthDstAddr blank macDstAddr) macAddress

/-- The second chunk of a frame. -/
def secondEthChunk (macAddress : EthAddr) (currChunk : AxisIp4) : AxisEth :=
  setIp4Start (setEthertType (setEthSrcAddrLo blank macAddress) 0x0800) currChunk

def pMacAddressInserter (macAddress : EthAddr) (s : Mai) : Action IptxChan IptxItem Mai :=
  match s.maiFsmState with
  | .waitLookup =>
      { nonempty := [.siARPLookupRep]
        notFull := [.soL2MUXData]
        reads := [.siARPLookupRep]
        act := fun read =>
          let arpResponse := read .siARPLookupRep
          if arpResponse.hit then
            ({ s with maiFsmState := .writeFirst },
              Action.write .soL2MUXData (firstEthChunk macAddress arpResponse.macAddress))
          else ({ s with maiFsmState := .drop }, fun _ => []) }
  | .writeFirst =>
      { nonempty := [.ssIAeToMAiData]
        notFull := [.soL2MUXData]
        reads := [.ssIAeToMAiData]
        act := fun read =>
          let currChunk := read .ssIAeToMAiData
          ({ maiPrevChunk := currChunk, maiFsmState := .write },
            Action.write .soL2MUXData (secondEthChunk macAddress currChunk)) }
  | .write =>
      { nonempty := [.ssIAeToMAiData]
        notFull := [.soL2MUXData]
        reads := [.ssIAeToMAiData]
        act := fun read =>
          let currChunk := read .ssIAeToMAiData
          ({ maiPrevChunk := currChunk
             maiFsmState :=
              if currChunk.tlast then if fits 6 currChunk then .waitLookup else .writeLast
              else .write },
            Action.write .soL2MUXData (joinRest 6 s.maiPrevChunk currChunk)) }
  | .writeLast =>
      { notFull := [.soL2MUXData]
        act := fun _ =>
          ({ s with maiFsmState := .waitLookup },
            Action.write .soL2MUXData (restChunk 6 s.maiPrevChunk)) }
  | .drop =>
      { nonempty := [.ssIAeToMAiData]
        notFull := [.soL2MUXData]
        reads := [.ssIAeToMAiData]
        act := fun read =>
          ({ s with maiFsmState := if (read .ssIAeToMAiData).tlast then .waitLookup else .drop },
            fun _ => []) }

/-! ### The network -/

/-- What the environment is: the addresses from MMIO, the answers of the ARP server, by their number
and the address that is looked up, and the depths of the streams to and from `iptx`. -/
structure IptxEnv where
  macAddress : EthAddr
  subNetMask : Ip4Addr
  gatewayAddr : Ip4Addr
  lookup : ℕ → Ip4Addr → ArpLkpReply
  siL3MUXData : ℕ
  soARPLookupReq : ℕ
  siARPLookupRep : ℕ
  soL2MUXData : ℕ

/-- The states of the processes. That of the L3 multiplexer is what it has still to write, that of the
ARP server the number of its replies, and that of the L2 multiplexer what it has read. -/
abbrev IptxReg : IptxProc → Type
  | .l3mux => List AxisIp4
  | .hca => Hca
  | .ici => IciFsmStates
  | .iae => ℕ
  | .mai => Mai
  | .arp => ℕ
  | .l2mux => List AxisEth

/-- The ARP server answers a request. -/
def arpAnswer (lookup : ℕ → Ip4Addr → ArpLkpReply) (n : ℕ) : Action IptxChan IptxItem ℕ where
  nonempty := [.soARPLookupReq]
  notFull := [.siARPLookupRep]
  reads := [.soARPLookupReq]
  act read := (n + 1, Action.write .siARPLookupRep (lookup n (read .soARPLookupReq)))

/-- What a process does next. -/
def iptxAction (e : IptxEnv) :
    (p : IptxProc) → IptxReg p → Option (Action IptxChan IptxItem (IptxReg p))
  | .l3mux, s => Action.source IptxChan.siL3MUXData s
  | .hca, s => some (pHeaderChecksumAccumulator s)
  | .ici, s => some (pIpChecksumInsert s)
  | .iae, s => some (pIp4AddressExtractor e.subNetMask e.gatewayAddr s)
  | .mai, s => some (pMacAddressInserter e.macAddress s)
  | .arp, s => some (arpAnswer e.lookup s)
  | .l2mux, s => some (Action.sink IptxChan.soL2MUXData s)

def iptxReader : IptxChan → IptxProc
  | .siL3MUXData => .hca
  | .ssHCaToICiData | .ssHCaToICiCsum => .ici
  | .ssICiToIAeData => .iae
  | .ssIAeToMAiData | .siARPLookupRep => .mai
  | .soARPLookupReq => .arp
  | .soL2MUXData => .l2mux

def iptxWriter : IptxChan → IptxProc
  | .siL3MUXData => .l3mux
  | .ssHCaToICiData | .ssHCaToICiCsum => .hca
  | .ssICiToIAeData => .ici
  | .ssIAeToMAiData | .soARPLookupReq => .iae
  | .siARPLookupRep => .arp
  | .soL2MUXData => .mai

def IptxEnv.depth (e : IptxEnv) : IptxChan → ℕ
  | .siL3MUXData => e.siL3MUXData
  | .ssHCaToICiData => 1024
  | .ssHCaToICiCsum | .ssICiToIAeData | .ssIAeToMAiData => 16
  | .soARPLookupReq => e.soARPLookupReq
  | .siARPLookupRep => e.siARPLookupRep
  | .soL2MUXData => e.soL2MUXData

lemma iptxAction_proper {e : IptxEnv} {p : IptxProc} {s : IptxReg p}
    {a : Action IptxChan IptxItem (IptxReg p)} (h : iptxAction e p s = some a) :
    a.Proper iptxReader iptxWriter p := by
  cases p with
  | l3mux =>
      cases s with
      | nil => cases h
      | cons x xs => cases h; exact ⟨by simp, by simp, by simp [iptxWriter]⟩
  | hca =>
      cases h
      rw [pHeaderChecksumAccumulator]
      split
      · exact ⟨by simp, by simp [iptxReader], by simp [iptxWriter]⟩
      · refine ⟨by simp, by simp, ?_⟩
        dsimp only
        split <;> simp [iptxWriter]
  | ici =>
      cases h
      cases s <;> exact ⟨by simp [pIpChecksumInsert], by simp [pIpChecksumInsert, iptxReader],
        by simp [pIpChecksumInsert, iptxWriter]⟩
  | iae =>
      cases h
      refine ⟨by simp [pIp4AddressExtractor], by simp [pIp4AddressExtractor, iptxReader], ?_⟩
      rw [pIp4AddressExtractor]
      dsimp only
      split <;> simp [iptxWriter]
  | mai =>
      cases h
      rw [pMacAddressInserter]
      split <;> exact ⟨by simp, by simp [iptxReader], by simp [iptxWriter]⟩
  | arp =>
      cases h
      exact ⟨by simp [arpAnswer], by simp [arpAnswer, iptxReader], by simp [arpAnswer, iptxWriter]⟩
  | l2mux =>
      cases h
      exact ⟨by simp [Action.sink], by simp [Action.sink, iptxReader], by simp [Action.sink]⟩

/-- `iptx`. -/
def iptx (e : IptxEnv) : Network IptxProc IptxChan IptxReg IptxItem where
  reader := iptxReader
  writer := iptxWriter
  depth := e.depth
  action := iptxAction e
  proper := iptxAction_proper

end CloudFpga.Iptx
