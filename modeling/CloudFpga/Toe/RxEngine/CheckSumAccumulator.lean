import CloudFpga.Toe.RxEngine.InsertPseudoHeader
import CloudFpga.Toe.SubChecksums

/-!
The third process of the Rx engine, `pCheckSumAccumulator` of `rx_engine.cpp`: the fields of a
pseudo packet are extracted, its payload is forwarded, and its checksum is verified.

* `csaChunk`: what a chunk does to the registers, and what is forwarded for it; `csaVerify`: a step
  of the verification.
* `pCheckSumAccumulator`: one call of the process.
* `csaNext`, `csaData`: the chunks as the input of a machine. The residue of the payload and the
  result of the verification are written together with the last chunk of a packet.
* `csa_options`, `csa_last`: the payload of a packet, and the registers behind it.
-/

namespace CloudFpga.Toe

open Foundation AxisRaw

/-- `OK` or `KO`. -/
abbrev ValBit := Bool

/-- The registers of the process. `csa_half_tdata` and `csa_half_tkeep` are the higher half of
`half`. -/
structure CsaRegs where
  chunkCount : ℕ := 0
  doCSumVerif : Bool := false
  residue : Bool := false
  ccState : ℕ := 0
  tcpSums : Fin 4 → BitVec 17 := fun _ => 0
  dataOffset : TcpDataOff
  doShift : Bool
  socketPair : SocketPair
  info : RXeMeta
  tcpDstPort : TcpPort
  half : AxisRaw
  deriving DecidableEq

/-- The registers after a chunk, what is forwarded for it, and the `tlast` of `sendChunk`. -/
structure CsaOut where
  regs : CsaRegs
  data : List AxisApp := []
  sendLast : Bool := false

/-- What the process does with a chunk. Options are skipped by their length. -/
def csaChunk (r : CsaRegs) (currChunk : AxisPsd4) : CsaOut :=
  let out : CsaOut :=
    match r.chunkCount with
    | 0 =>
        { regs := { r with
            doShift := false
            socketPair := ⟨⟨getPsd4SrcAddr currChunk, r.socketPair.src.port⟩,
              ⟨getPsd4DstAddr currChunk, r.socketPair.dst.port⟩⟩
            chunkCount := 1 }
          sendLast := currChunk.tlast }
    | 1 =>
        { regs := { r with
            info := { r.info with length := getPsd4Len currChunk }
            socketPair := ⟨⟨r.socketPair.src.addr, getTcpSrcPort currChunk⟩,
              ⟨r.socketPair.dst.addr, getTcpDstPort currChunk⟩⟩
            tcpDstPort := getTcpDstPort currChunk
            chunkCount := 2 }
          sendLast := currChunk.tlast }
    | 2 =>
        { regs := { r with
            info := { r.info with
              seqNumb := getTcpSeqNum currChunk
              ackNumb := getTcpAckNum currChunk }
            chunkCount := 3 }
          sendLast := currChunk.tlast }
    | 3 =>
        { regs := { r with
            dataOffset := getTcpDataOff currChunk
            info := { r.info with
              length := r.info.length - (getTcpDataOff currChunk).setWidth 16 * 4
              ack := getTcpCtrlAck currChunk
              rst := getTcpCtrlRst currChunk
              syn := getTcpCtrlSyn currChunk
              fin := getTcpCtrlFin currChunk
              winSize := getTcpWindow currChunk }
            chunkCount := 4 }
          sendLast := currChunk.tlast }
    | _ =>
        if 6 ≤ r.dataOffset then
          if r.dataOffset = 6 then
            { regs := { r with
                dataOffset := r.dataOffset - 1
                doShift := true
                half := currChunk } }
          else { regs := { r with dataOffset := r.dataOffset - 2 } }
        else if ¬r.doShift then
          { regs := r, data := [currChunk], sendLast := currChunk.tlast }
        else
          { regs := { r with half := currChunk }
            data := [joinHalves r.half currChunk]
            sendLast := fits 4 currChunk }
  let regs := { out.regs with tcpSums := csumChunk r.tcpSums currChunk }
  { out with
    regs :=
      if currChunk.tlast then
        { regs with chunkCount := 0, residue := !out.sendLast, doCSumVerif := true }
      else regs }

/-- A step of the verification but for the last one. -/
def csaVerify (r : CsaRegs) : CsaRegs :=
  let sums := r.tcpSums
  match r.ccState with
  | 0 => { r with tcpSums := fun i => carryFold (sums i), ccState := 1 }
  | 1 =>
      { r with
        tcpSums := fun i =>
          if i = 0 then carryFold (sums 0 + sums 2)
          else if i = 1 then carryFold (sums 1 + sums 3)
          else sums i
        ccState := 2 }
  | 2 =>
      { r with
        tcpSums := fun i => if i = 0 then carryFold (sums 0 + sums 1) else sums i
        ccState := 3 }
  | 3 => { r with tcpSums := fun i => if i = 0 then ~~~sums 0 else sums i, ccState := 4 }
  | _ => r

/-- The process with its streams, and the processes in front of it. -/
structure CsaState where
  iph : IphState
  regs : CsaRegs
  soTidData : List AxisApp := []
  soTidDataVal : List ValBit := []
  soMdhMeta : List RXeMeta := []
  soMdhSockPair : List SocketPair := []
  soPRtGetState : List TcpPort := []
  deriving DecidableEq

/-- What a cycle offers. -/
structure CsaCycle where
  iph : IphCycle
  pseudoPkt : Bool
  tidDataFull : Bool
  deriving DecidableEq

/-- The last step of the verification: the result is reported. -/
def csaReport (s : CsaState) : CsaState :=
  let ok : Bool := (s.regs.tcpSums 0).setWidth 16 = (0 : BitVec 16)
  { s with
    regs := { s.regs with doCSumVerif := false, tcpSums := fun _ => 0, ccState := 0 }
    soTidDataVal := if s.regs.info.length ≠ 0 then s.soTidDataVal ++ [ok] else s.soTidDataVal
    soMdhMeta := if ok then s.soMdhMeta ++ [s.regs.info] else s.soMdhMeta
    soMdhSockPair := if ok then s.soMdhSockPair ++ [s.regs.socketPair] else s.soMdhSockPair
    soPRtGetState := if ok then s.soPRtGetState ++ [s.regs.tcpDstPort] else s.soPRtGetState }

/-- No chunk is read: the residue is forwarded, or the checksum is verified. -/
def csaFinish (s : CsaState) (k : CsaCycle) : CsaState :=
  if s.regs.residue ∧ ¬k.tidDataFull then
    { s with
      regs := { s.regs with residue := false }
      soTidData :=
        if s.regs.info.length ≠ 0 then s.soTidData ++ [restHalf s.regs.half] else s.soTidData }
  else if s.regs.doCSumVerif then
    if s.regs.ccState = 4 then csaReport s else { s with regs := csaVerify s.regs }
  else s

/-- One call of the process. -/
def pCheckSumAccumulator (s : CsaState) (k : CsaCycle) : CsaState :=
  match s.iph.soCsaPseudoPkt with
  | currChunk :: cs =>
      if k.pseudoPkt ∧ ¬k.tidDataFull ∧ ¬s.regs.doCSumVerif then
        let out := csaChunk s.regs currChunk
        { s with
          iph := { s.iph with soCsaPseudoPkt := cs }
          regs := out.regs
          soTidData := s.soTidData ++ out.data }
      else csaFinish s k
  | [] => csaFinish s k

/-- A cycle of the three processes. -/
def csaCycle (s : CsaState) (k : CsaCycle) : CsaState :=
  pCheckSumAccumulator { s with iph := iphCycle s.iph k.iph } k

/-! ### The result of the verification -/

/-- The sums are verified: the remaining steps lead to zero. -/
def csaValid (r : CsaRegs) : Bool :=
  ((csaVerify^[4 - r.ccState] r).tcpSums 0).setWidth 16 = (0 : BitVec 16)

section Report

variable (r : CsaRegs)

/-- The residue that is still to be forwarded. -/
def csaResidue : List AxisApp :=
  if r.residue ∧ r.info.length ≠ 0 then [restHalf r.half] else []

/-- What is still to be reported. -/
def csaDataVal : List ValBit :=
  if r.doCSumVerif ∧ r.info.length ≠ 0 then [csaValid r] else []

def csaMeta : List RXeMeta := if r.doCSumVerif ∧ csaValid r then [r.info] else []

def csaSockPair : List SocketPair := if r.doCSumVerif ∧ csaValid r then [r.socketPair] else []

def csaGetState : List TcpPort := if r.doCSumVerif ∧ csaValid r then [r.tcpDstPort] else []

/-- The registers when the residue is forwarded and the result is reported. -/
def csaClear : CsaRegs :=
  if r.doCSumVerif then
    { r with residue := false, doCSumVerif := false, ccState := 0, tcpSums := fun _ => 0 }
  else { r with residue := false }

end Report

/-- The registers after a chunk. -/
def csaRead (r : CsaRegs) (c : AxisPsd4) : CsaRegs := (csaChunk r c).regs

def csaNext (r : CsaRegs) (c : AxisPsd4) : CsaRegs := csaClear (csaRead r c)

def csaData (r : CsaRegs) (c : AxisPsd4) : List AxisApp :=
  (csaChunk r c).data ++ csaResidue (csaRead r c)

/-- Between two packets. -/
structure CsaIdle (r : CsaRegs) : Prop where
  chunkCount : r.chunkCount = 0
  doCSumVerif : r.doCSumVerif = false
  residue : r.residue = false
  ccState : r.ccState = 0
  tcpSums : SumsHold r.tcpSums 0

end CloudFpga.Toe
