import CloudFpga.Nts.AxisHalves

/-!
The first process of the Rx engine of the UOE, `pIpHeaderStripper` of `uoe.cpp`: it cuts a packet
into its IP header and its datagram, and adds up the pseudo header.

* `ihsChunk`: what the process does with a chunk.
* `pIpHeaderStripper`: one call. The last chunk is kept for the next call, also when there was none:
  then a local variable is kept that is not set.
-/

namespace CloudFpga.Uoe

open Toe AxisRaw

inductive IhsFsmStates where
  | idle | ipw0 | ipw1 | ipw2 | opt | udpHeader | udpHeaderAligned | forward | forwardAligned
  | residue | done | drop
  deriving DecidableEq, Repr

/-- The registers and the input streams. -/
structure Ihs where
  ihsFsmState : IhsFsmStates := .idle
  ihsDropCounter : BitVec 16 := 0
  ihsPrevChunk : AxisIp4 := zero
  ihsIp4HdrLen : Ip4HdrLen := 0
  ihsPsdHdrSum : BitVec 17 := 0
  siIPRXData : List AxisIp4 := []
  siUccClearToSend : List (BitVec 1) := []
  deriving DecidableEq

/-- What a call writes. -/
structure IhsOut where
  soUccUdpDgrm : List AxisUdp := []
  soUccPsdHdrSum : List UdpCsum := []
  soRphIp4Hdr : List AxisIp4 := []
  soMMIODropCnt : List (BitVec 16) := []
  deriving DecidableEq

/-- What is written to the Rx engine, one after the other. -/
def IhsOut.add (out out' : IhsOut) : IhsOut :=
  { out with
    soUccUdpDgrm := out.soUccUdpDgrm ++ out'.soUccUdpDgrm
    soUccPsdHdrSum := out.soUccPsdHdrSum ++ out'.soUccPsdHdrSum
    soRphIp4Hdr := out.soRphIp4Hdr ++ out'.soRphIp4Hdr }

/-- What a call offers: whether the next chunk has arrived, and which output streams are full. The
stream of the datagrams is never full. -/
structure IhsCall where
  piMMIOEn : CmdBit := true
  data : Bool := true
  psdHdrSumFull : Bool := false
  ip4HdrFull : Bool := false
  dropCntFull : Bool := false
  deriving DecidableEq

/-- What the local variables hold that are not set. -/
structure IhsUnset where
  currIp4Chunk : AxisIp4
  sendChunk : AxisUdp
  deriving DecidableEq

def noUnset : IhsUnset := ⟨zero, zero⟩

/-- A word is added to the sum of the pseudo header. -/
def psdAdd (sum : BitVec 17) (w : BitVec 16) : BitVec 17 :=
  let t := sum + w.setWidth 17
  (t &&& 0xFFFF) + t >>> 16

section Chunks

variable (u : IhsUnset) (s : Ihs) (c : AxisIp4)

/-- `FSM_IHS_IPW0`. -/
def ihsIpw0 : Ihs × IhsOut :=
  if getIp4HdrLen c < 5 then
    ({ s with ihsIp4HdrLen := getIp4HdrLen c, ihsFsmState := .drop }, {})
  else
    ({ s with ihsIp4HdrLen := getIp4HdrLen c - 2, ihsFsmState := .ipw1 }, { soRphIp4Hdr := [c] })

/-- `FSM_IHS_IPW1`: the protocol and the source address are added. -/
def ihsIpw1 : Ihs × IhsOut :=
  let sum := psdAdd ((getIp4Prot c).setWidth 17) ((getIp4SrcAddr c).extractLsb' 16 16)
  ({ s with
      ihsPsdHdrSum := psdAdd sum ((getIp4SrcAddr c).setWidth 16)
      ihsIp4HdrLen := s.ihsIp4HdrLen - 2
      ihsFsmState := .ipw2 }, { soRphIp4Hdr := [c] })

/-- The end of the header, or more options. -/
def ihsHeader : Ihs × IhsOut :=
  if s.ihsIp4HdrLen = 1 then
    ({ s with ihsFsmState := .udpHeader }, { soRphIp4Hdr := [firstHalf c] })
  else if s.ihsIp4HdrLen = 2 then
    ({ s with ihsFsmState := .udpHeaderAligned }, { soRphIp4Hdr := [{ c with tlast := true }] })
  else
    ({ s with ihsIp4HdrLen := s.ihsIp4HdrLen - 2, ihsFsmState := .opt },
      { soRphIp4Hdr := [{ c with tlast := false }] })

/-- `FSM_IHS_IPW2`: the destination address is added. -/
def ihsIpw2 : Ihs × IhsOut :=
  let sum := psdAdd s.ihsPsdHdrSum ((getIp4DstAddr c).extractLsb' 16 16)
  ihsHeader { s with ihsPsdHdrSum := psdAdd sum ((getIp4DstAddr c).setWidth 16) } c

/-- The chunk of a header that is not aligned. Its `tlast` is not set. -/
def udpHeaderChunk : AxisUdp :=
  let joined := join 4 s.ihsPrevChunk c
  { (if c.tlast ∧ getTKeep c ≠ 0xF0 then joined else joined.setTKeepAll) with
    tlast := u.sendChunk.tlast }

/-- `FSM_IHS_UDP_HEADER`: the length of the datagram is added. -/
def ihsUdpHeader : Ihs × IhsOut :=
  let sum := psdAdd s.ihsPsdHdrSum (getIp4UdpLen c)
  ({ s with
      ihsPsdHdrSum := sum
      ihsFsmState :=
        if c.tlast then if getTKeep c = 0xF0 then .done else .residue else .forward },
    { soUccPsdHdrSum := [sum.setWidth 16], soUccUdpDgrm := [udpHeaderChunk u s c] })

/-- `FSM_IHS_UDP_HEADER_ALIGNED`. -/
def ihsUdpHeaderAligned : Ihs × IhsOut :=
  let sum := psdAdd s.ihsPsdHdrSum (getUdpLen c)
  ({ s with
      ihsPsdHdrSum := sum
      ihsFsmState := if c.tlast then .done else .forwardAligned },
    { soUccPsdHdrSum := [sum.setWidth 16], soUccUdpDgrm := [c] })

/-- `FSM_IHS_FORWARD`: half of the last chunk, and half of this one. -/
def ihsForward : Ihs × IhsOut :=
  let sendChunk := join 4 s.ihsPrevChunk c
  if c.tlast then
    if getTKeep c ≤ 0xF0 then
      ({ s with ihsFsmState := .done }, { soUccUdpDgrm := [sendChunk.setTLastAndClear] })
    else ({ s with ihsFsmState := .residue }, { soUccUdpDgrm := [sendChunk] })
  else (s, { soUccUdpDgrm := [sendChunk] })

/-- `FSM_IHS_FORWARD_ALIGNED`. -/
def ihsForwardAligned : Ihs × IhsOut :=
  ({ s with ihsFsmState := if c.tlast then .done else .forwardAligned }, { soUccUdpDgrm := [c] })

/-- `FSM_IHS_DROP`. -/
def ihsDrop : Ihs × IhsOut :=
  (if c.tlast then { s with ihsDropCounter := s.ihsDropCounter + 1, ihsFsmState := .idle } else s,
    {})

/-- What the process does with a chunk that it reads. -/
def ihsChunk : Ihs × IhsOut :=
  match s.ihsFsmState with
  | .ipw0 => ihsIpw0 s c
  | .ipw1 => ihsIpw1 s c
  | .ipw2 => ihsIpw2 s c
  | .opt => ihsHeader s c
  | .udpHeader => ihsUdpHeader u s c
  | .udpHeaderAligned => ihsUdpHeaderAligned s c
  | .forward => ihsForward s c
  | .forwardAligned => ihsForwardAligned s c
  | .drop => ihsDrop s c
  | .idle | .residue | .done => (s, {})

end Chunks

section Process

variable (u : IhsUnset) (s : Ihs) (k : IhsCall)

/-- The next chunk has arrived. -/
def Ihs.arrived : Bool := k.data && !s.siIPRXData.isEmpty

/-- A chunk is read, if one has arrived. -/
def ihsRead : Ihs × IhsOut :=
  match s.siIPRXData, k.data with
  | c :: cs, true =>
      let r := ihsChunk u { s with siIPRXData := cs } c
      ({ r.1 with ihsPrevChunk := c }, r.2)
  | _, _ => ({ s with ihsPrevChunk := u.currIp4Chunk }, {})

/-- A state that reads no chunk. -/
def ihsNoRead (state : IhsFsmStates) : Ihs :=
  { s with ihsFsmState := state, ihsPrevChunk := u.currIp4Chunk }

/-- `FSM_IHS_IDLE`. -/
def ihsIdle : IhsFsmStates :=
  if ¬k.piMMIOEn ∧ s.arrived k then .drop
  else if s.siUccClearToSend = [] ∧ s.arrived k then .drop
  else if s.siUccClearToSend ≠ [] then .ipw0
  else .idle

/-- `FSM_IHS_RESIDUE`: the last bytes of the last chunk. -/
def residueChunk : AxisUdp := (join 4 s.ihsPrevChunk zero).setTLastAndClear

/-- The states of the process. -/
def ihsCase : Ihs × IhsOut :=
  match s.ihsFsmState with
  | .idle => (ihsNoRead u s (ihsIdle s k), {})
  | .ipw0 =>
      if s.arrived k ∧ (k.psdHdrSumFull ∨ k.ip4HdrFull) then (ihsNoRead u s .drop, {})
      else ihsRead u s k
  | .ipw1 | .ipw2 | .opt => if k.ip4HdrFull then (ihsNoRead u s .drop, {}) else ihsRead u s k
  | .residue => (ihsNoRead u s .done, { soUccUdpDgrm := [residueChunk s] })
  | .done =>
      ({ ihsNoRead u s .idle with siUccClearToSend := s.siUccClearToSend.tail }, {})
  | .udpHeader | .udpHeaderAligned | .forward | .forwardAligned | .drop => ihsRead u s k

/-- One call. -/
def pIpHeaderStripper : Ihs × IhsOut :=
  let r := ihsCase u s k
  (r.1, { r.2 with soMMIODropCnt := if k.dropCntFull then [] else [r.1.ihsDropCounter] })

end Process

/-! ### What a call can do -/

section Calls

variable {u : IhsUnset} {s : Ihs} {k : IhsCall} {c : AxisIp4}

/-- No chunk is read, or the next one is. -/
lemma ihsRead_cases :
    ihsRead u s k = (ihsNoRead u s s.ihsFsmState, {}) ∧ (k.data = true → s.siIPRXData = []) ∨
      ∃ c cs, s.siIPRXData = c :: cs ∧ k.data = true ∧
        ihsRead u s k =
          ({ (ihsChunk u { s with siIPRXData := cs } c).1 with ihsPrevChunk := c },
            (ihsChunk u { s with siIPRXData := cs } c).2) := by
  rw [ihsRead]
  split
  · rename_i c cs hdata hk
    exact .inr ⟨c, cs, hdata, hk, rfl⟩
  · rename_i hno
    refine .inl ⟨rfl, fun hk => ?_⟩
    cases hdata : s.siIPRXData with
    | nil => rfl
    | cons c cs => exact absurd hk (hno c cs hdata)

/-- Where the process goes from a state that reads a chunk. -/
def IhsFsmStates.leads : IhsFsmStates → IhsFsmStates → Bool
  | .ipw0, t => t = .drop ∨ t = .ipw1
  | .ipw1, t => t = .ipw2
  | .ipw2, t | .opt, t => t = .udpHeader ∨ t = .udpHeaderAligned ∨ t = .opt
  | .udpHeader, t => t = .done ∨ t = .residue ∨ t = .forward
  | .udpHeaderAligned, t | .forwardAligned, t => t = .done ∨ t = .forwardAligned
  | .forward, t => t = .done ∨ t = .residue ∨ t = .forward
  | .drop, t => t = .idle ∨ t = .drop
  | .idle, _ | .residue, _ | .done, _ => true

lemma ihsHeader_fsm : (ihsHeader s c).1.ihsFsmState = .udpHeader ∨
    (ihsHeader s c).1.ihsFsmState = .udpHeaderAligned ∨
    (ihsHeader s c).1.ihsFsmState = .opt := by
  rw [ihsHeader]
  split
  · exact .inl rfl
  · split
    · exact .inr (.inl rfl)
    · exact .inr (.inr rfl)

/-- A chunk leads on. -/
lemma ihsChunk_leads : s.ihsFsmState.leads (ihsChunk u s c).1.ihsFsmState = true := by
  rw [ihsChunk]
  cases hst : s.ihsFsmState with
  | ipw0 =>
      dsimp only
      rw [ihsIpw0]
      split
      · rfl
      · rfl
  | ipw1 => rfl
  | ipw2 => exact decide_eq_true ihsHeader_fsm
  | opt => exact decide_eq_true ihsHeader_fsm
  | udpHeader =>
      dsimp only
      rw [ihsUdpHeader]
      dsimp only
      split
      · split
        · rfl
        · rfl
      · rfl
  | udpHeaderAligned =>
      dsimp only
      rw [ihsUdpHeaderAligned]
      dsimp only
      split
      · rfl
      · rfl
  | forward =>
      dsimp only
      rw [ihsForward]
      split
      · split
        · rfl
        · rfl
      · rw [hst]
        rfl
  | forwardAligned =>
      dsimp only
      rw [ihsForwardAligned]
      dsimp only
      split
      · rfl
      · rfl
  | drop =>
      dsimp only
      rw [ihsDrop]
      split
      · rfl
      · dsimp only
        rw [hst]
        rfl
  | idle => rfl
  | residue => rfl
  | done => rfl

lemma ihsHeader_streams : (ihsHeader s c).1.siIPRXData = s.siIPRXData ∧
    (ihsHeader s c).1.siUccClearToSend = s.siUccClearToSend ∧
    (ihsHeader s c).1.ihsDropCounter = s.ihsDropCounter := by
  rw [ihsHeader]
  split
  · exact ⟨rfl, rfl, rfl⟩
  · split
    · exact ⟨rfl, rfl, rfl⟩
    · exact ⟨rfl, rfl, rfl⟩

/-- A chunk takes no token, and only the end of a drop is counted. -/
lemma ihsChunk_streams : (ihsChunk u s c).1.siIPRXData = s.siIPRXData ∧
    (ihsChunk u s c).1.siUccClearToSend = s.siUccClearToSend ∧
    (ihsChunk u s c).1.ihsDropCounter =
      if s.ihsFsmState = .drop ∧ c.tlast = true then s.ihsDropCounter + 1
      else s.ihsDropCounter := by
  rw [ihsChunk]
  cases hst : s.ihsFsmState with
  | ipw0 =>
      dsimp only
      rw [ihsIpw0]
      split
      · exact ⟨rfl, rfl, rfl⟩
      · exact ⟨rfl, rfl, rfl⟩
  | ipw2 => exact ihsHeader_streams
  | opt => exact ihsHeader_streams
  | forward =>
      dsimp only
      rw [ihsForward]
      split
      · split
        · exact ⟨rfl, rfl, rfl⟩
        · exact ⟨rfl, rfl, rfl⟩
      · exact ⟨rfl, rfl, rfl⟩
  | drop =>
      dsimp only
      rw [ihsDrop]
      cases hlast : c.tlast with
      | true => exact ⟨rfl, rfl, rfl⟩
      | false => exact ⟨rfl, rfl, rfl⟩
  | _ => exact ⟨rfl, rfl, rfl⟩

end Calls

end CloudFpga.Uoe
