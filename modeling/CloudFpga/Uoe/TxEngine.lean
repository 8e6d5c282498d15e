import CloudFpga.Foundation.Network
import CloudFpga.Icmp.ChecksumChecker
import CloudFpga.Nts.AxisSetters
import CloudFpga.Uoe.IpHeaderStripper
import CloudFpga.Uoe.TxDatagrams

/-!
The Tx engine of the UOE, `pTxEngine` of `uoe.cpp`, as a network of its processes.

* `TxeProc`, `TxeChan`: the processes and the streams between them, with the application that writes
  `siUAIF_Data`, `siUAIF_Meta` and `siUAIF_DLen`, and IPTX that reads `soIPTX_Data`.
* `taiAction`, `pTxDatagramHandler`, `pUdpChecksumAccumulator`, `pUdpHeaderAdder`, `pIp4HeaderAdder`:
  what each process waits for in its state, and what it does then.
* `txEngine`: the network, with the depths of `pTxEngine`.
-/

namespace CloudFpga.Uoe

open Foundation AxisRaw Toe
open Icmp (setIp4TtL setIp4Prot setIp4HdrCsum setIp4SrcAddr setIp4DstAddr)

/-- `IpAddrPair`. -/
structure IpAddrPair where
  ipSa : Ip4Addr := 0
  ipDa : Ip4Addr := 0
  deriving DecidableEq

/-- `IP4_PROT_UDP`. -/
def ip4ProtUdp : Ip4Prot := 0x11

/-- `UDP_HEADER_LEN`. -/
def udpHeaderLen : UdpLen := 8

/-- `IP4_HEADER_LEN`. -/
def ip4HeaderLen : Ip4TotalLen := 20

/-! ### Processes and streams -/

/-- The processes: those of `pTxEngine`, the application, once for each of the streams that it
writes, and IPTX. -/
inductive TxeProc where
  | uaifData | uaifMeta | uaifDLen | tai | tdh | uca | uha | iha | iptx
  deriving DecidableEq, Repr

/-- The streams. -/
inductive TxeChan where
  | siUAIFData | siUAIFMeta | siUAIFDLen
  | ssTaiToTdhData | ssTaiToTdhMeta | ssTaiToTdhDLen
  | ssTdhToUhaData | ssTdhToUhaMeta | ssTdhToUhaDLen | ssTdhToUcaData
  | ssUcaToUhaCsum
  | ssUhaToIhaData | ssUhaToIhaUdpLen | ssUhaToIhaIpPair
  | soIPTXData
  deriving DecidableEq, Repr

/-- What the streams carry. -/
abbrev TxeItem : TxeChan → Type
  | .siUAIFData | .ssTaiToTdhData | .ssTdhToUhaData | .ssTdhToUcaData | .ssUhaToIhaData
  | .soIPTXData => AxisRaw
  | .siUAIFMeta | .ssTaiToTdhMeta | .ssTdhToUhaMeta => UdpAppMeta
  | .siUAIFDLen | .ssTaiToTdhDLen | .ssTdhToUhaDLen | .ssUcaToUhaCsum | .ssUhaToIhaUdpLen =>
      BitVec 16
  | .ssUhaToIhaIpPair => IpAddrPair

instance : (c : TxeChan) → Inhabited (TxeItem c)
  | .siUAIFData | .ssTaiToTdhData | .ssTdhToUhaData | .ssTdhToUcaData | .ssUhaToIhaData
  | .soIPTXData => ⟨AxisRaw.zero⟩
  | .siUAIFMeta | .ssTaiToTdhMeta | .ssTdhToUhaMeta => ⟨({} : UdpAppMeta)⟩
  | .siUAIFDLen | .ssTaiToTdhDLen | .ssTdhToUhaDLen | .ssUcaToUhaCsum | .ssUhaToIhaUdpLen =>
      ⟨(0 : BitVec 16)⟩
  | .ssUhaToIhaIpPair => ⟨({} : IpAddrPair)⟩

/-! ### `pTxApplicationInterface` -/

/-- What `pTxApplicationInterface` does with one item of each stream that it waits for, by a call of
it. The registers alone are its state here. -/
def taiAct (s : Tai) (datas : List AxisRaw) (metas : List UdpAppMeta) (dLens : List UdpAppDLen) :
    Tai × ((c : TxeChan) → List (TxeItem c)) :=
  let r := pTxApplicationInterface
    { s with siUAIFData := datas, siUAIFMeta := metas, siUAIFDLen := dLens } {}
  ({ r with soTdhData := [], soTdhMeta := [], soTdhDLen := [], taken := [] },
    fun
      | .ssTaiToTdhData => r.soTdhData
      | .ssTaiToTdhMeta => r.soTdhMeta
      | .ssTaiToTdhDLen => r.soTdhDLen
      | _ => [])

/-- What `pTxApplicationInterface` waits for. -/
def taiAction (mmioEn : Bool) (s : Tai) : Option (Action TxeChan TxeItem Tai) :=
  match s.taiFsmState with
  | .idle =>
      if mmioEn then
        some
          { nonempty := [.siUAIFMeta, .siUAIFDLen]
            reads := [.siUAIFMeta, .siUAIFDLen]
            act := fun read => taiAct s [] [read .siUAIFMeta] [read .siUAIFDLen] }
      else none
  | .drgmData | .strmData =>
      some
        { nonempty := [.siUAIFData]
          notFull := [.ssTaiToTdhData]
          reads := [.siUAIFData]
          act := fun read => taiAct s [read .siUAIFData] [] [] }
  | .drgmMeta | .strmMeta =>
      some
        { notFull := [.ssTaiToTdhMeta, .ssTaiToTdhDLen]
          act := fun _ => taiAct s [] [] [] }

/-! ### `pTxDatagramHandler` -/

inductive TdhFsmStates where
  | psdPkt1 | psdPkt2 | psdPkt3 | psdPkt4 | stream | psdResidue | last
  deriving DecidableEq, Repr

structure Tdh where
  tdhFsmState : TdhFsmStates := .psdPkt1
  tdhCurrChunk : AxisRaw := .zero
  tdhUdpMeta : UdpAppMeta := {}
  tdhAppLen : UdpAppDLen := 0
  tdhUdpLen : UdpLen := 0
  deriving DecidableEq

/-- `[DA|SA]`. -/
def firstPseudoPktChunk (udpMeta : UdpAppMeta) : AxisPsd4 :=
  AxisPsd4.setPsd4DstAddr (AxisPsd4.setPsd4SrcAddr blank udpMeta.ip4SrcAddr)
    udpMeta.ip4DstAddr

/-- `[DP|SP|Len|Prot|0x00]`. -/
def secondPseudoPktChunk (udpMeta : UdpAppMeta) (udpLen : UdpLen) : AxisPsd4 :=
  AxisPsd4.setUdpDstPort (AxisPsd4.setUdpSrcPort (AxisPsd4.setPsd4Len (AxisPsd4.setPsd4Prot
    blank ip4ProtUdp) udpLen) udpMeta.udpSrcPort) udpMeta.udpDstPort

/-- `[Data|Csum|Len]`. -/
def thirdPseudoPktChunk (udpLen : UdpLen) (currChunk : AxisRaw) : AxisPsd4 :=
  (AxisPsd4.setUdpCsum (AxisPsd4.setUdpLen blank udpLen) 0).setTDataLo currChunk.getTDataHi

/-- The second half of a chunk, as the last chunk of a pseudo packet. -/
def restPseudoChunk (currChunk : AxisRaw) : AxisPsd4 :=
  (emptyLast.setTDataHi currChunk.getTDataLo).setTKeepHi currChunk.getTKeepLo

/-- The second half of a chunk and the first half of the next one. -/
def currPseudoChunk (prevAppDataChunk currChunk : AxisRaw) : AxisPsd4 :=
  nextHalves prevAppDataChunk currChunk

/-- A pseudo chunk whose second half is the end of the packet. -/
def endPseudoChunk (pseudoChunk : AxisPsd4) (currChunk : AxisRaw) : AxisPsd4 :=
  (pseudoChunk.setTKeepLo currChunk.getTKeepHi).setTLastAndClear

/-- The writes to `ssTdhToUhaData` and `ssTdhToUcaData`. -/
def tdhWrites (uhaData : List AxisRaw) (ucaData : List AxisPsd4) :
    (c : TxeChan) → List (TxeItem c)
  | .ssTdhToUhaData => uhaData
  | .ssTdhToUcaData => ucaData
  | _ => []

def pTxDatagramHandler (s : Tdh) : Action TxeChan TxeItem Tdh :=
  match s.tdhFsmState with
  | .psdPkt1 =>
      { nonempty := [.ssTaiToTdhMeta]
        notFull := [.ssTdhToUhaMeta, .ssTdhToUcaData]
        reads := [.ssTaiToTdhMeta]
        act := fun read =>
          let udpMeta := read .ssTaiToTdhMeta
          ({ s with tdhUdpMeta := udpMeta, tdhFsmState := .psdPkt2 }, fun
            | .ssTdhToUcaData => [firstPseudoPktChunk udpMeta]
            | .ssTdhToUhaMeta => [udpMeta]
            | _ => []) }
  | .psdPkt2 =>
      { nonempty := [.ssTaiToTdhDLen]
        notFull := [.ssTdhToUhaDLen, .ssTdhToUcaData]
        reads := [.ssTaiToTdhDLen]
        act := fun read =>
          let appLen := read .ssTaiToTdhDLen
          let udpLen := appLen + udpHeaderLen
          ({ s with tdhAppLen := appLen, tdhUdpLen := udpLen, tdhFsmState := .psdPkt3 }, fun
            | .ssTdhToUhaDLen => [appLen]
            | .ssTdhToUcaData => [secondPseudoPktChunk s.tdhUdpMeta udpLen]
            | _ => []) }
  | .psdPkt3 =>
      { nonempty := [.ssTaiToTdhData]
        notFull := [.ssTdhToUcaData, .ssTdhToUhaData]
        reads := [.ssTaiToTdhData]
        act := fun read =>
          let currChunk := read .ssTaiToTdhData
          let pseudoChunk := thirdPseudoPktChunk s.tdhUdpLen currChunk
          if currChunk.tlast then
            let cleared := currChunk.clearUnusedBytes
            -- the payload was taken over before its unused bytes were cleared
            if cleared.NoLowerHalf then
              ({ s with tdhCurrChunk := cleared, tdhFsmState := .psdPkt1 },
                tdhWrites [cleared] [endPseudoChunk pseudoChunk cleared])
            else
              ({ s with tdhCurrChunk := cleared, tdhFsmState := .psdPkt4 },
                tdhWrites [cleared] [pseudoChunk])
          else
            ({ s with tdhCurrChunk := currChunk, tdhFsmState := .stream },
              tdhWrites [] [pseudoChunk]) }
  | .psdPkt4 =>
      { notFull := [.ssTdhToUcaData]
        act := fun _ =>
          ({ s with tdhFsmState := .psdPkt1 }, tdhWrites [] [restPseudoChunk s.tdhCurrChunk]) }
  | .stream =>
      { nonempty := [.ssTaiToTdhData]
        notFull := [.ssTdhToUhaData, .ssTdhToUcaData]
        reads := [.ssTaiToTdhData]
        act := fun read =>
          let currChunk := read .ssTaiToTdhData
          let pseudoChunk := currPseudoChunk s.tdhCurrChunk currChunk
          if currChunk.tlast then
            if ¬currChunk.NoLowerHalf then
              ({ s with tdhCurrChunk := currChunk, tdhFsmState := .psdResidue },
                tdhWrites [s.tdhCurrChunk] [pseudoChunk])
            else
              ({ s with tdhCurrChunk := currChunk, tdhFsmState := .last },
                tdhWrites [s.tdhCurrChunk] [endPseudoChunk pseudoChunk currChunk])
          else
            ({ s with tdhCurrChunk := currChunk }, tdhWrites [s.tdhCurrChunk] [pseudoChunk]) }
  | .last =>
      { notFull := [.ssTdhToUhaData]
        act := fun _ => ({ s with tdhFsmState := .psdPkt1 }, tdhWrites [s.tdhCurrChunk] []) }
  | .psdResidue =>
      { notFull := [.ssTdhToUhaData, .ssTdhToUcaData]
        act := fun _ =>
          ({ s with tdhFsmState := .psdPkt1 },
            tdhWrites [s.tdhCurrChunk] [restPseudoChunk s.tdhCurrChunk]) }

/-! ### `pUdpChecksumAccumulator` -/

inductive UcaFsmStates where
  | accumulate | last | done
  deriving DecidableEq, Repr

structure Uca where
  ucaFsmState : UcaFsmStates := .accumulate
  ucaCsum0 : BitVec 17 := 0
  ucaCsum1 : BitVec 17 := 0
  ucaCsum2 : BitVec 17 := 0
  ucaCsum3 : BitVec 17 := 0
  ucaLastChunk : AxisPsd4 := .zero
  deriving DecidableEq

/-- `(csum & 0xFFFF) + (csum >> 16)`. -/
def foldCsum (csum : BitVec 17) : BitVec 17 := (csum &&& 0xFFFF) + csum >>> 16

/-- The words of a chunk are added. -/
def ucaAdd (s : Uca) (chunk : AxisPsd4) : Uca :=
  { s with
    ucaCsum0 := psdAdd s.ucaCsum0 (be16 chunk.data 6)
    ucaCsum1 := psdAdd s.ucaCsum1 (be16 chunk.data 4)
    ucaCsum2 := psdAdd s.ucaCsum2 (be16 chunk.data 2)
    ucaCsum3 := psdAdd s.ucaCsum3 (be16 chunk.data 0) }

/-- The inverted sum. -/
def ucaCsum (s : Uca) : UdpCsum :=
  let csum01 := foldCsum (s.ucaCsum0 + s.ucaCsum1)
  let csum23 := foldCsum (s.ucaCsum2 + s.ucaCsum3)
  (~~~foldCsum (csum01 + csum23)).setWidth 16

def pUdpChecksumAccumulator (s : Uca) : Action TxeChan TxeItem Uca :=
  match s.ucaFsmState with
  | .accumulate =>
      { nonempty := [.ssTdhToUcaData]
        reads := [.ssTdhToUcaData]
        act := fun read =>
          let currChunk := read .ssTdhToUcaData
          if currChunk.tlast then
            ({ s with ucaLastChunk := currChunk.clearUnusedBytes, ucaFsmState := .last },
              fun _ => [])
          else (ucaAdd s currChunk, fun _ => []) }
  | .last =>
      { act := fun _ => ({ ucaAdd s s.ucaLastChunk with ucaFsmState := .done }, fun _ => []) }
  | .done =>
      { notFull := [.ssUcaToUhaCsum]
        act := fun _ =>
          ({ s with
              ucaCsum0 := 0
              ucaCsum1 := 0
              ucaCsum2 := 0
              ucaCsum3 := 0
              ucaFsmState := .accumulate },
            Action.write .ssUcaToUhaCsum (ucaCsum s)) }

/-! ### `pUdpHeaderAdder` -/

inductive UhaFsmStates where
  | idle | stream
  deriving DecidableEq, Repr

structure Uha where
  uhaFsmState : UhaFsmStates := .idle
  uhaAppDLen : UdpAppDLen := 0
  deriving DecidableEq

/-- The UDP header. -/
def udpHdrChunk (udpAppMeta : UdpAppMeta) (udpLen : UdpLen) (csum : UdpCsum) : AxisUdp :=
  AxisUdp.setUdpCsum (AxisUdp.setUdpLen (AxisUdp.setUdpDstPort (AxisUdp.setUdpSrcPort blank
    udpAppMeta.udpSrcPort) udpAppMeta.udpDstPort) udpLen) csum

def pUdpHeaderAdder (s : Uha) : Action TxeChan TxeItem Uha :=
  match s.uhaFsmState with
  | .idle =>
      { nonempty := [.ssTdhToUhaDLen, .ssTdhToUhaMeta, .ssUcaToUhaCsum]
        notFull := [.ssUhaToIhaUdpLen, .ssUhaToIhaData, .ssUhaToIhaIpPair]
        reads := [.ssTdhToUhaDLen, .ssTdhToUhaMeta, .ssUcaToUhaCsum]
        act := fun read =>
          let appDLen := read .ssTdhToUhaDLen
          let udpLen := appDLen + udpHeaderLen
          let udpAppMeta := read .ssTdhToUhaMeta
          ({ uhaAppDLen := appDLen, uhaFsmState := .stream }, fun
            | .ssUhaToIhaUdpLen => [udpLen]
            | .ssUhaToIhaData => [udpHdrChunk udpAppMeta udpLen (read .ssUcaToUhaCsum)]
            | .ssUhaToIhaIpPair => [⟨udpAppMeta.ip4SrcAddr, udpAppMeta.ip4DstAddr⟩]
            | _ => []) }
  | .stream =>
      { nonempty := [.ssTdhToUhaData]
        notFull := [.ssUhaToIhaData]
        reads := [.ssTdhToUhaData]
        act := fun read =>
          let currAppData := read .ssTdhToUhaData
          if 8 < s.uhaAppDLen then
            ({ uhaAppDLen := s.uhaAppDLen - 8,
               uhaFsmState := if currAppData.tlast then .idle else .stream },
              Action.write .ssUhaToIhaData currAppData)
          else
            ({ uhaAppDLen := 0, uhaFsmState := .idle },
              Action.write .ssUhaToIhaData
                (if currAppData.tlast then currAppData else currAppData.setTLastAndClear)) }

/-! ### `pIp4HeaderAdder` -/

inductive IhaFsmStates where
  | ip1 | ip2 | ip3 | forward | residue
  deriving DecidableEq, Repr

/-- The register `iha_prevUdpChunk` is `currUdpChunk` after every call, and `currUdpChunk` is static:
this is the chunk that was read last. -/
structure Iha where
  ihaFsmState : IhaFsmStates := .ip1
  ihaIpPair : IpAddrPair := {}
  ihaPrevUdpChunk : AxisUdp := .zero
  deriving DecidableEq

/-- Version, lengths and identification. -/
def firstIp4Chunk (ip4Len : Ip4TotalLen) : AxisIp4 :=
  AxisIp4.setIp4FragOff (AxisIp4.setIp4Flags (AxisIp4.setIp4Ident (AxisIp4.setIp4TotalLen
    (AxisIp4.setIp4ToS (AxisIp4.setIp4Version (AxisIp4.setIp4HdrLen blank 5) 4) 0) ip4Len) 0)
      0) 0

/-- Time to live, protocol and source. -/
def secondIp4Chunk (ipPair : IpAddrPair) : AxisIp4 :=
  setIp4SrcAddr (setIp4HdrCsum (setIp4Prot (setIp4TtL blank 0xFF) ip4ProtUdp) 0) ipPair.ipSa

/-- Destination and ports. -/
def thirdIp4Chunk (ipPair : IpAddrPair) (currUdpChunk : AxisUdp) : AxisIp4 :=
  AxisIp4.setUdpDstPort (AxisIp4.setUdpSrcPort (setIp4DstAddr blank ipPair.ipDa)
    (getUdpSrcPort currUdpChunk)) (getUdpDstPort currUdpChunk)

/-- The second half of a chunk and the first half of the next one. -/
def forwardIp4Chunk (prevUdpChunk currUdpChunk : AxisUdp) : AxisIp4 :=
  nextHalves prevUdpChunk currUdpChunk

/-- The last chunk, of two halves. -/
def lastIp4Chunk (prevUdpChunk currUdpChunk : AxisUdp) : AxisIp4 :=
  (((forwardIp4Chunk prevUdpChunk currUdpChunk).setTKeepHi prevUdpChunk.getTKeepLo).setTKeepLo
    currUdpChunk.getTKeepHi).setTLastAndClear

/-- The second half of a chunk, as the last chunk. -/
def restIp4Chunk (prevUdpChunk : AxisUdp) : AxisIp4 :=
  ((zero.setTDataHi prevUdpChunk.getTDataLo).setTKeepHi prevUdpChunk.getTKeepLo).setTLastAndClear

def pIp4HeaderAdder (s : Iha) : Action TxeChan TxeItem Iha :=
  match s.ihaFsmState with
  | .ip1 =>
      { nonempty := [.ssUhaToIhaUdpLen, .ssUhaToIhaData, .ssUhaToIhaIpPair]
        notFull := [.soIPTXData]
        reads := [.ssUhaToIhaUdpLen]
        act := fun read =>
          ({ s with ihaFsmState := .ip2 },
            Action.write .soIPTXData (firstIp4Chunk (read .ssUhaToIhaUdpLen + ip4HeaderLen))) }
  | .ip2 =>
      { nonempty := [.ssUhaToIhaIpPair, .ssUhaToIhaData]
        notFull := [.soIPTXData]
        reads := [.ssUhaToIhaIpPair]
        act := fun read =>
          let ipPair := read .ssUhaToIhaIpPair
          ({ s with ihaIpPair := ipPair, ihaFsmState := .ip3 },
            Action.write .soIPTXData (secondIp4Chunk ipPair)) }
  | .ip3 =>
      { nonempty := [.ssUhaToIhaData]
        notFull := [.soIPTXData]
        reads := [.ssUhaToIhaData]
        act := fun read =>
          let currUdpChunk := read .ssUhaToIhaData
          ({ s with ihaPrevUdpChunk := currUdpChunk, ihaFsmState := .forward },
            Action.write .soIPTXData (thirdIp4Chunk s.ihaIpPair currUdpChunk)) }
  | .forward =>
      { nonempty := [.ssUhaToIhaData]
        notFull := [.soIPTXData]
        reads := [.ssUhaToIhaData]
        act := fun read =>
          let currUdpChunk := read .ssUhaToIhaData
          let ip4Chunk := forwardIp4Chunk s.ihaPrevUdpChunk currUdpChunk
          if currUdpChunk.tlast then
            if ¬currUdpChunk.NoLowerHalf then
              ({ s with ihaPrevUdpChunk := currUdpChunk, ihaFsmState := .residue },
                Action.write .soIPTXData ip4Chunk)
            else
              ({ s with ihaPrevUdpChunk := currUdpChunk, ihaFsmState := .ip1 },
                Action.write .soIPTXData (lastIp4Chunk s.ihaPrevUdpChunk currUdpChunk))
          else
            ({ s with ihaPrevUdpChunk := currUdpChunk }, Action.write .soIPTXData ip4Chunk) }
  | .residue =>
      { notFull := [.soIPTXData]
        act := fun _ =>
          ({ s with ihaFsmState := .ip1 },
            Action.write .soIPTXData (restIp4Chunk s.ihaPrevUdpChunk)) }

/-! ### The network -/

/-- The states of the processes. That of the application is what it has still to write, and that of
IPTX is what it has read. -/
abbrev TxeReg : TxeProc → Type
  | .uaifData => List AxisRaw
  | .uaifMeta => List UdpAppMeta
  | .uaifDLen => List UdpAppDLen
  | .tai => Tai
  | .tdh => Tdh
  | .uca => Uca
  | .uha => Uha
  | .iha => Iha
  | .iptx => List AxisIp4

/-- What a process does next. -/
def txeAction (mmioEn : Bool) : (p : TxeProc) → TxeReg p → Option (Action TxeChan TxeItem (TxeReg p))
  | .uaifData, s => Action.source TxeChan.siUAIFData s
  | .uaifMeta, s => Action.source TxeChan.siUAIFMeta s
  | .uaifDLen, s => Action.source TxeChan.siUAIFDLen s
  | .tai, s => taiAction mmioEn s
  | .tdh, s => some (pTxDatagramHandler s)
  | .uca, s => some (pUdpChecksumAccumulator s)
  | .uha, s => some (pUdpHeaderAdder s)
  | .iha, s => some (pIp4HeaderAdder s)
  | .iptx, s => some (Action.sink TxeChan.soIPTXData s)

def txeReader : TxeChan → TxeProc
  | .siUAIFData | .siUAIFMeta | .siUAIFDLen => .tai
  | .ssTaiToTdhData | .ssTaiToTdhMeta | .ssTaiToTdhDLen => .tdh
  | .ssTdhToUcaData => .uca
  | .ssTdhToUhaData | .ssTdhToUhaMeta | .ssTdhToUhaDLen | .ssUcaToUhaCsum => .uha
  | .ssUhaToIhaData | .ssUhaToIhaUdpLen | .ssUhaToIhaIpPair => .iha
  | .soIPTXData => .iptx

def txeWriter : TxeChan → TxeProc
  | .siUAIFData => .uaifData
  | .siUAIFMeta => .uaifMeta
  | .siUAIFDLen => .uaifDLen
  | .ssTaiToTdhData | .ssTaiToTdhMeta | .ssTaiToTdhDLen => .tai
  | .ssTdhToUcaData | .ssTdhToUhaData | .ssTdhToUhaMeta | .ssTdhToUhaDLen => .tdh
  | .ssUcaToUhaCsum => .uca
  | .ssUhaToIhaData | .ssUhaToIhaUdpLen | .ssUhaToIhaIpPair => .uha
  | .soIPTXData => .iha

/-- The depths of the streams to and from the engine, which its environment chooses. -/
structure TxeDepths where
  siUAIFData : ℕ
  siUAIFMeta : ℕ
  siUAIFDLen : ℕ
  soIPTXData : ℕ
  deriving DecidableEq

def TxeDepths.depth (d : TxeDepths) : TxeChan → ℕ
  | .siUAIFData => d.siUAIFData
  | .siUAIFMeta => d.siUAIFMeta
  | .siUAIFDLen => d.siUAIFDLen
  | .soIPTXData => d.soIPTXData
  | .ssTaiToTdhData | .ssTdhToUhaData | .ssUhaToIhaData => 1024
  | .ssTdhToUcaData => 8
  | _ => 32

lemma txeAction_proper {mmioEn : Bool} {p : TxeProc} {s : TxeReg p}
    {a : Action TxeChan TxeItem (TxeReg p)} (h : txeAction mmioEn p s = some a) :
    a.Proper txeReader txeWriter p := by
  cases p with
  | uaifData | uaifMeta | uaifDLen =>
      cases s with
      | nil => cases h
      | cons x xs => cases h; exact ⟨by simp, by simp, by simp [txeWriter]⟩
  | tai =>
      rw [txeAction, taiAction] at h
      split at h
      · split at h
        · cases h; exact ⟨by simp, by simp [txeReader], by simp⟩
        · cases h
      all_goals cases h; exact ⟨by simp, by simp [txeReader], by simp [txeWriter]⟩
  | tdh =>
      cases h
      rw [pTxDatagramHandler]
      split <;> exact ⟨by simp, by simp [txeReader], by simp [txeWriter]⟩
  | uca =>
      cases h
      rw [pUdpChecksumAccumulator]
      split <;> exact ⟨by simp, by simp [txeReader], by simp [txeWriter]⟩
  | uha =>
      cases h
      rw [pUdpHeaderAdder]
      split <;> exact ⟨by simp, by simp [txeReader], by simp [txeWriter]⟩
  | iha =>
      cases h
      rw [pIp4HeaderAdder]
      split <;> exact ⟨by simp, by simp [txeReader], by simp [txeWriter]⟩
  | iptx =>
      cases h
      exact ⟨by simp [Action.sink], by simp [Action.sink, txeReader], by simp [Action.sink]⟩

/-- `pTxEngine`. -/
def txEngine (mmioEn : Bool) (d : TxeDepths) : Network TxeProc TxeChan TxeReg TxeItem where
  reader := txeReader
  writer := txeWriter
  depth := d.depth
  action := txeAction mmioEn
  proper := txeAction_proper

end CloudFpga.Uoe
