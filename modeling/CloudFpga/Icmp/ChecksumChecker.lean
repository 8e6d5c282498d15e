import CloudFpga.Nts.AxisHalves
import CloudFpga.Toe.SubChecksums

/-!
The checksum checker of the ICMP server, `pIcmpChecksumChecker` of `icmp.cpp`.

* `iccRead`, `iccWrite`, `iccCompute`: the calls that read a chunk, that write the last one, and
  that compute the checksum.
* `iccDrain`: all that the process will write for the rest of a packet.
* `iccDrain_packet`: what it writes for a packet, of its chunks alone.
-/

namespace CloudFpga.Icmp

open Foundation AxisRaw Toe Uoe

abbrev IcmpCsum := BitVec 16
abbrev IcmpType := BitVec 8
abbrev IcmpCode := BitVec 8

/-! ### Fields -/

section Fields

variable (c : AxisIp4)

/-- `tdata.range(7, 0)`. -/
def getIp4TtL : Byte := byteAt c.data 0

/-- `swapWord(tdata.range(31, 16))`. -/
def getIp4HdrCsum : BitVec 16 := be16 c.data 2

/-- `tdata.range(39, 32)`. -/
def getIcmpType : IcmpType := byteAt c.data 4

/-- `tdata.range(47, 40)`. -/
def getIcmpCode : IcmpCode := byteAt c.data 5

/-- `swapWord(tdata.range(63, 48))`. -/
def getIcmpCsum : IcmpCsum := be16 c.data 6

/-- `tdata.range(7, 0) = ttl`. -/
def setIp4TtL (ttl : Byte) : AxisIp4 := setBytes c 0 [ttl]

/-- `tdata.range(15, 8) = prot`. -/
def setIp4Prot (prot : Ip4Prot) : AxisIp4 := setBytes c 1 [prot]

/-- `tdata.range(31, 16) = swapWord(csum)`. -/
def setIp4HdrCsum (csum : BitVec 16) : AxisIp4 := setBytes c 2 (bytes16 csum)

/-- `tdata.range(63, 32) = swapDWord(addr)`. -/
def setIp4SrcAddr (addr : Ip4Addr) : AxisIp4 := setBytes c 4 (bytes32 addr)

/-- `tdata.range(31, 0) = swapDWord(addr)`. -/
def setIp4DstAddr (addr : Ip4Addr) : AxisIp4 := setBytes c 0 (bytes32 addr)

/-- `tdata.range(39, 32) = type`. -/
def setIcmpType (type : IcmpType) : AxisIp4 := setBytes c 4 [type]

/-- `tdata.range(63, 48) = swapWord(csum)`. -/
def setIcmpCsum (csum : IcmpCsum) : AxisIp4 := setBytes c 6 (bytes16 csum)

end Fields

/-- `ICMP_ECHO_REPLY`. -/
def icmpEchoReply : IcmpType := 0

/-- `ICMP_ECHO_REQUEST`. -/
def icmpEchoRequest : IcmpType := 8

/-- `AxisIp4(0, 0xFF, 0)`. -/
def blankChunk : AxisIp4 := .ofBytes (List.replicate 8 0) false length_zeros

/-! ### The process -/

/-- `FsmStates` of `pIcmpChecksumChecker`. -/
inductive IccFsm where
  | s0
  | s1
  | s2
  | s3
  deriving DecidableEq

structure IccState where
  writeLastOne : Bool := false
  computeCs : Bool := false
  chunkCount : BitVec 7 := 0
  csumState : IccFsm := .s0
  prevChunk : AxisIp4 := zero
  subSums : Fin 4 → BitVec 17 := fun _ => 0
  oldHCsum : IcmpCsum := 0
  newHCsum : BitVec 17 := 0
  icmpType : IcmpType := 0
  icmpCode : IcmpCode := 0

@[ext]
structure IccOut where
  soIPdData : List AxisIp4 := []
  soIPdDropCmd : List CmdBit := []
  soICiCsum : List IcmpCsum := []
  deriving DecidableEq

/-- What is written later, behind what is written first. -/
instance : Append IccOut where
  append a b :=
    { soIPdData := a.soIPdData ++ b.soIPdData
      soIPdDropCmd := a.soIPdDropCmd ++ b.soIPdDropCmd
      soICiCsum := a.soICiCsum ++ b.soICiCsum }

/-- The second chunk of a packet, with the destination of the packet as its source. -/
def iccSend (prevChunk currChunk : AxisIp4) : AxisIp4 :=
  setIp4SrcAddr (setIp4HdrCsum (setIp4Prot (setIp4TtL blankChunk (getIp4TtL prevChunk))
    (getIp4Prot prevChunk)) (getIp4HdrCsum prevChunk)) (getIp4DstAddr currChunk)

/-- The third chunk of a packet, with the source of the packet as its destination, as an echo
reply. -/
def iccReply (prevChunk currChunk : AxisIp4) : AxisIp4 :=
  setIcmpType (setIp4DstAddr currChunk (getIp4SrcAddr prevChunk)) icmpEchoReply

/-- The state behind a chunk: `icc_prevChunk` and the counter, and the flags at the last one. -/
def iccNext (s : IccState) (prevChunk : AxisIp4) : IccState :=
  if prevChunk.tlast then
    { s with prevChunk := prevChunk, chunkCount := 0, writeLastOne := true, computeCs := true }
  else { s with prevChunk := prevChunk, chunkCount := s.chunkCount + 1 }

/-- A call that reads a chunk. -/
def iccRead (s : IccState) (currChunk : AxisIp4) : IccState × IccOut :=
  match s.chunkCount.toNat with
  | 0 => (iccNext { s with subSums := fun _ => 0 } currChunk, {})
  | 1 => (iccNext s currChunk, { soIPdData := [s.prevChunk] })
  | 2 =>
      (iccNext
        { s with
          icmpType := getIcmpType currChunk
          icmpCode := getIcmpCode currChunk
          oldHCsum := getIcmpCsum currChunk
          -- the two last words of the chunk, whether its lanes are kept or not
          subSums := fun i =>
            if 2 ≤ i then carryAdd (s.subSums i) (be16 currChunk.data (2 * i)) else s.subSums i }
        (iccReply s.prevChunk currChunk), { soIPdData := [iccSend s.prevChunk currChunk] })
  | _ =>
      (iccNext { s with subSums := csumChunk s.subSums currChunk } currChunk,
        { soIPdData := [s.prevChunk] })

/-- A call that writes the last chunk. -/
def iccWrite (s : IccState) : IccState × IccOut :=
  ({ s with writeLastOne := false }, { soIPdData := [s.prevChunk] })

/-- The message is a request for an echo. -/
def isPing (icmpType : IcmpType) (icmpCode : IcmpCode) : Prop :=
  icmpType = icmpEchoRequest ∧ icmpCode = 0

instance (icmpType : IcmpType) (icmpCode : IcmpCode) : Decidable (isPing icmpType icmpCode) :=
  inferInstanceAs (Decidable (_ ∧ _))

/-- A call that computes the checksum. -/
def iccCompute (s : IccState) : IccState × IccOut :=
  match s.csumState with
  | .s0 =>
      ({ s with
          subSums := fun i =>
            if i = 0 then carryFold (s.subSums 0 + s.subSums 2)
            else if i = 1 then carryFold (s.subSums 1 + s.subSums 3)
            else s.subSums i
          newHCsum := (~~~s.oldHCsum).setWidth 17
          csumState := .s1 }, {})
  | .s1 =>
      ({ s with
          subSums := Function.update s.subSums 0 (carryFold (s.subSums 0 + s.subSums 1))
          newHCsum :=
            if isPing s.icmpType s.icmpCode then carryFold (s.newHCsum + 0xF7FF) else s.newHCsum
          csumState := .s2 }, {})
  | .s2 =>
      ({ s with
          subSums := Function.update s.subSums 0 (~~~s.subSums 0)
          newHCsum := ~~~s.newHCsum &&& 0xFFFF
          csumState := .s3 }, {})
  | .s3 =>
      ({ s with csumState := .s0, computeCs := false },
        if (s.subSums 0).setWidth 16 = 0 then
          if isPing s.icmpType s.icmpCode then
            { soICiCsum := [s.newHCsum.setWidth 16], soIPdDropCmd := [cmdKeep] }
          else { soIPdDropCmd := [cmdDrop] }
        else { soIPdDropCmd := [cmdDrop] })

/-- One call of the process, on its input stream. -/
def pIcmpChecksumChecker (s : IccState) (siIPRXData : List AxisIp4) :
    IccState × List AxisIp4 × IccOut :=
  if s.writeLastOne then ((iccWrite s).1, siIPRXData, (iccWrite s).2)
  else if s.computeCs then ((iccCompute s).1, siIPRXData, (iccCompute s).2)
  else
    match siIPRXData with
    | [] => (s, [], {})
    | currChunk :: cs => ((iccRead s currChunk).1, cs, (iccRead s currChunk).2)

/-! ### All that is written for a packet -/

/-- What is written once the checksum is computed. -/
def iccVerdict (s : IccState) : IccOut :=
  match s.csumState with
  | .s0 => (iccCompute (iccCompute (iccCompute (iccCompute s).1).1).1).2
  | .s1 => (iccCompute (iccCompute (iccCompute s).1).1).2
  | .s2 => (iccCompute (iccCompute s).1).2
  | .s3 => (iccCompute s).2

/-- What is written before the next chunk is read. -/
def iccFlush (s : IccState) : IccOut :=
  { soIPdData := if s.writeLastOne then [s.prevChunk] else [] } ++
    if s.computeCs then iccVerdict s else {}

/-- All that is written for the rest of a packet. -/
def iccDrain : IccState → List AxisIp4 → IccOut
  | s, [] => iccFlush s
  | s, c :: cs => (iccRead s c).2 ++ iccDrain (iccRead s c).1 cs

/-- The new checksum of a reply, by the old one of the request. -/
def replyCsum (oldHCsum : IcmpCsum) : IcmpCsum :=
  (~~~(carryFold ((~~~oldHCsum).setWidth 17 + 0xF7FF)) &&& 0xFFFF).setWidth 16

/-- The verdict by the sums, the old checksum, the type and the code. -/
def verdict (sums : Fin 4 → BitVec 17) (oldHCsum : IcmpCsum) (icmpType : IcmpType)
    (icmpCode : IcmpCode) : IccOut :=
  if (~~~(csumTotal sums)).setWidth 16 = 0 then
    if isPing icmpType icmpCode then
      { soICiCsum := [replyCsum oldHCsum], soIPdDropCmd := [cmdKeep] }
    else { soIPdDropCmd := [cmdDrop] }
  else { soIPdDropCmd := [cmdDrop] }

/-- The chunks of a packet as they are forwarded. -/
def echoData : List AxisIp4 → List AxisIp4
  | c₀ :: c₁ :: c₂ :: cs => c₀ :: iccSend c₁ c₂ :: iccReply c₁ c₂ :: cs
  | cs => cs

/-- The sum over the words of the message, of which the first two are taken from the lanes of the
third chunk whether they are kept or not. -/
def laneSum : List AxisIp4 → ℕ
  | _ :: _ :: c₂ :: cs =>
      (be16 c₂.data 4).toNat + (be16 c₂.data 6).toNat + wordSum (streamBytes cs)
  | _ => 0

/-- The packet passes as a request for an echo with a correct checksum. -/
def Passes : List AxisIp4 → Prop
  | c₀ :: c₁ :: c₂ :: cs =>
      isPing (getIcmpType c₂) (getIcmpCode c₂) ∧ ones (laneSum (c₀ :: c₁ :: c₂ :: cs)) = 65535
  | _ => False

instance : DecidablePred Passes := fun cs =>
  match cs with
  | [] | [_] | [_, _] => isFalse id
  | _ :: _ :: _ :: _ => inferInstanceAs (Decidable (_ ∧ _))

/-- The checksum of the reply to a packet. -/
def echoCsum : List AxisIp4 → IcmpCsum
  | _ :: _ :: c₂ :: _ => replyCsum (getIcmpCsum c₂)
  | _ => 0

/-- All that is written for a packet. -/
def echoOut (cs : List AxisIp4) : IccOut where
  soIPdData := echoData cs
  soIPdDropCmd := if Passes cs then [cmdKeep] else [cmdDrop]
  soICiCsum := if Passes cs then [echoCsum cs] else []

section Out

variable (a b c : IccOut)

@[simp] lemma IccOut.append_data : (a ++ b).soIPdData = a.soIPdData ++ b.soIPdData := rfl

@[simp] lemma IccOut.append_cmd : (a ++ b).soIPdDropCmd = a.soIPdDropCmd ++ b.soIPdDropCmd := rfl

@[simp] lemma IccOut.append_csum : (a ++ b).soICiCsum = a.soICiCsum ++ b.soICiCsum := rfl

lemma IccOut.nil_append : ({} : IccOut) ++ a = a := rfl

lemma IccOut.append_nil : a ++ ({} : IccOut) = a :=
  IccOut.ext (List.append_nil _) (List.append_nil _) (List.append_nil _)

lemma IccOut.append_assoc : a ++ b ++ c = a ++ (b ++ c) :=
  IccOut.ext (List.append_assoc ..) (List.append_assoc ..) (List.append_assoc ..)

end Out

section Drain

variable {s : IccState}

/-- The last chunk comes first. -/
lemma iccFlush_write (h : s.writeLastOne = true) :
    iccFlush s = (iccWrite s).2 ++ iccFlush (iccWrite s).1 := by
  have hverdict : iccVerdict { s with writeLastOne := false } = iccVerdict s := by
    cases hs : s.csumState <;> simp [iccVerdict, iccCompute, hs]
  simp only [iccFlush, iccWrite, h, if_true, hverdict]
  rfl

/-- A call that computes brings the verdict closer. -/
lemma iccFlush_compute (hw : s.writeLastOne = false) (h : s.computeCs = true) :
    iccFlush s = (iccCompute s).2 ++ iccFlush (iccCompute s).1 := by
  cases hs : s.csumState with
  | s0 | s1 | s2 =>
      simp only [iccFlush, iccVerdict, iccCompute, hs, hw, h, if_true, Bool.false_eq_true, if_false]
      rfl
  | s3 =>
      simp only [iccFlush, iccVerdict, hs, hw, h, if_true, Bool.false_eq_true, if_false]
      simp only [iccCompute, hs, hw, Bool.false_eq_true, if_false]
      exact (IccOut.append_nil _).symm

lemma iccVerdict_s0 (hs : s.csumState = .s0) :
    iccVerdict s = verdict s.subSums s.oldHCsum s.icmpType s.icmpCode := by
  by_cases hp : isPing s.icmpType s.icmpCode
  · simp [iccVerdict, iccCompute, hs, hp, verdict, csumTotal, replyCsum]
  · simp [iccVerdict, iccCompute, hs, hp, verdict, csumTotal]

/-- The verdict on sums that hold. -/
lemma verdict_of_sums {sums : Fin 4 → BitVec 17} {n : ℕ} (h : SumsHold sums n)
    (oldHCsum : IcmpCsum) (icmpType : IcmpType) (icmpCode : IcmpCode) :
    verdict sums oldHCsum icmpType icmpCode =
      if isPing icmpType icmpCode ∧ ones n = 65535 then
        { soICiCsum := [replyCsum oldHCsum], soIPdDropCmd := [cmdKeep] }
      else { soIPdDropCmd := [cmdDrop] } := by
  have htotal := h.toNat_csumTotal
  have hle := ones_le n
  have hzero : (~~~(csumTotal sums)).setWidth 16 = 0 ↔ ones n = 65535 := by
    rw [← htotal]
    rw [← htotal] at hle
    generalize csumTotal sums = t at *
    rw [← BitVec.toNat_inj, BitVec.toNat_setWidth, BitVec.toNat_not]
    have hnil : (0 : BitVec 16).toNat = 0 := rfl
    rw [hnil]
    omega
  rw [verdict]
  by_cases hsum : ones n = 65535
  · rw [if_pos (hzero.mpr hsum)]
    by_cases hp : isPing icmpType icmpCode
    · rw [if_pos hp, if_pos ⟨hp, hsum⟩]
    · rw [if_neg hp, if_neg fun h => hp h.1]
  · rw [if_neg fun h => hsum (hzero.mp h), if_neg fun h => hsum h.2]

/-- The rest of a packet behind its first three chunks. -/
lemma iccDrain_rest {cs : List AxisIp4} (hcs : IsStream cs) (hw : s.writeLastOne = false)
    (hs : s.csumState = .s0) {k : ℕ} (hk : s.chunkCount = BitVec.ofNat 7 k) (hk3 : 3 ≤ k)
    (hlen : k + cs.length ≤ 128) :
    iccDrain s cs =
      { soIPdData := s.prevChunk :: cs } ++
        verdict (cs.foldl csumChunk s.subSums) s.oldHCsum s.icmpType s.icmpCode := by
  induction cs generalizing s k with
  | nil => exact absurd hcs id
  | cons c cs ih =>
      rw [List.length_cons] at hlen
      have hcount : s.chunkCount.toNat = k := by
        rw [hk, BitVec.toNat_ofNat]
        omega
      have hread : iccRead s c = (iccNext { s with subSums := csumChunk s.subSums c } c,
          { soIPdData := [s.prevChunk] }) := by
        obtain ⟨j, rfl⟩ := Nat.exists_eq_add_of_le' hk3
        rw [iccRead, hcount]
        rfl
      rw [iccDrain, hread, List.foldl_cons]
      cases hlast : c.tlast with
      | true =>
          rw [(isPacket_cons_of_last hlast).mp hcs, iccNext, if_pos hlast, iccDrain, iccFlush,
            if_pos rfl, if_pos rfl, iccVerdict_s0]
          · rfl
          · exact hs
      | false =>
          have hsucc : s.chunkCount + 1 = BitVec.ofNat 7 (k + 1) := by
            rw [hk]
            exact (BitVec.ofNat_add ..).symm
          have hrest := @ih
            { s with
              subSums := csumChunk s.subSums c
              prevChunk := c
              chunkCount := s.chunkCount + 1 }
            ((isPacket_cons_of_not_last hlast).mp hcs) hw hs (k + 1) hsucc (by omega) (by omega)
          rw [iccNext, if_neg (by simp [hlast])]
          exact congrArg (fun o => { soIPdData := [s.prevChunk] } ++ o) hrest

/-- The first word of a message that is summed up, and the second one. -/
lemma sumsHold_third (c : AxisIp4) :
    SumsHold (fun i => if 2 ≤ i then carryAdd 0 (be16 c.data (2 * i)) else 0)
      ((be16 c.data 4).toNat + (be16 c.data 6).toNat) := by
  have hword (w : BitVec 16) : (carryAdd 0 w).toNat = w.toNat := by
    have hlt := w.isLt
    have hzero : (0 : BitVec 17).toNat = 0 := rfl
    rw [toNat_carryAdd (Nat.zero_le _), hzero, Nat.zero_add, ones_of_le (by omega)]
  refine ⟨fun i => ?_, ?_⟩
  · split_ifs
    · rw [toNat_carryAdd (Nat.zero_le _)]
      exact ones_le _
    · exact Nat.zero_le _
  · have h₂ : (2 : Fin 4) ≤ 2 := le_refl 2
    have h₃ : (2 : Fin 4) ≤ 3 := by decide
    have h₀ : ¬(2 : Fin 4) ≤ 0 := by decide
    have h₁ : ¬(2 : Fin 4) ≤ 1 := by decide
    rw [if_neg h₀, if_neg h₁, if_pos h₂, if_pos h₃, hword, hword]
    exact congrArg ones (by simp)

/-- The state between two packets. -/
structure IccIdle (s : IccState) : Prop where
  writeLastOne : s.writeLastOne = false
  computeCs : s.computeCs = false
  csumState : s.csumState = .s0
  chunkCount : s.chunkCount = 0

/-- The first three chunks of a packet with an IP header. -/
lemma exists_header {cs : List AxisIp4} (hcs : WellFormed cs) (hlen : 20 ≤ (streamBytes cs).length) :
    ∃ c₀ c₁ c₂ ds, cs = c₀ :: c₁ :: c₂ :: ds ∧ c₀.tlast = false ∧ c₁.tlast = false ∧
      c₀.bytes.length = 8 ∧ c₁.bytes.length = 8 ∧ WellFormed (c₂ :: ds) ∧ c₀.isValid ∧
      c₁.isValid ∧ (streamBytes cs).length = 16 + (streamBytes (c₂ :: ds)).length := by
  obtain ⟨c₀, ds₀, rfl, hv₀, hl₀, hb₀, hw₀, hn₀⟩ := hcs.peel (by omega)
  obtain ⟨c₁, ds₁, rfl, hv₁, hl₁, hb₁, hw₁, hn₁⟩ := hw₀.peel (by omega)
  cases ds₁ with
  | nil => exact absurd hw₁.isStream id
  | cons c₂ ds =>
      exact ⟨c₀, c₁, c₂, ds, rfl, hl₀, hl₁, hb₀, hb₁, hw₁, hv₀, hv₁, by omega⟩

/-- **A packet** that is not too long leads to what its chunks alone tell. -/
theorem iccDrain_packet {cs : List AxisIp4} (hcs : WellFormed cs)
    (hmin : 20 ≤ (streamBytes cs).length) (hmax : cs.length ≤ 128) (hs : IccIdle s) :
    iccDrain s cs = echoOut cs := by
  obtain ⟨c₀, c₁, c₂, ds, rfl, hl₀, hl₁, -, -, hds, -⟩ := exists_header hcs hmin
  obtain ⟨writeLastOne, computeCs, chunkCount, csumState, prevChunk, subSums, oldHCsum, newHCsum,
    icmpType, icmpCode⟩ := s
  obtain ⟨rfl, rfl, rfl, rfl⟩ := hs
  simp only [List.length_cons] at hmax
  have hout (sums : Fin 4 → BitVec 17)
      (h : SumsHold sums (laneSum (c₀ :: c₁ :: c₂ :: ds))) :
      ({ soIPdData := echoData (c₀ :: c₁ :: c₂ :: ds) } : IccOut) ++
          verdict sums (getIcmpCsum c₂) (getIcmpType c₂) (getIcmpCode c₂) =
        echoOut (c₀ :: c₁ :: c₂ :: ds) := by
    have hpass : Passes (c₀ :: c₁ :: c₂ :: ds) ↔
        isPing (getIcmpType c₂) (getIcmpCode c₂) ∧
          ones (laneSum (c₀ :: c₁ :: c₂ :: ds)) = 65535 := Iff.rfl
    rw [verdict_of_sums h, echoOut]
    simp only [hpass]
    split_ifs
    · exact IccOut.ext (List.append_nil _) rfl rfl
    · exact IccOut.ext (List.append_nil _) rfl rfl
  have h₀ : iccRead { prevChunk, subSums, oldHCsum, newHCsum, icmpType, icmpCode } c₀ =
      ({ chunkCount := 1, prevChunk := c₀, oldHCsum, newHCsum, icmpType, icmpCode }, {}) :=
    Prod.ext (if_neg (Bool.eq_false_iff.mp hl₀)) rfl
  have h₁ : iccRead { chunkCount := 1, prevChunk := c₀, oldHCsum, newHCsum, icmpType, icmpCode }
      c₁ =
      ({ chunkCount := 2, prevChunk := c₁, oldHCsum, newHCsum, icmpType, icmpCode },
        { soIPdData := [c₀] }) :=
    Prod.ext (if_neg (Bool.eq_false_iff.mp hl₁)) rfl
  have h₂ : iccRead { chunkCount := 2, prevChunk := c₁, oldHCsum, newHCsum, icmpType, icmpCode }
      c₂ =
      (iccNext
        { chunkCount := 2
          prevChunk := c₁
          subSums := fun i => if 2 ≤ i then carryAdd 0 (be16 c₂.data (2 * i)) else 0
          oldHCsum := getIcmpCsum c₂
          newHCsum
          icmpType := getIcmpType c₂
          icmpCode := getIcmpCode c₂ }
        (iccReply c₁ c₂), { soIPdData := [iccSend c₁ c₂] }) := rfl
  have hthird := sumsHold_third c₂
  have hlast₂ : (iccReply c₁ c₂).tlast = c₂.tlast := rfl
  rw [iccDrain, h₀, iccDrain, h₁, iccDrain, h₂, iccNext, hlast₂]
  cases hlast : c₂.tlast with
  | true =>
      obtain rfl := hds.tail_eq_nil hlast
      rw [← hout _ hthird, if_pos rfl, iccDrain, iccFlush, if_pos rfl, if_pos rfl, iccVerdict_s0]
      · rfl
      · rfl
  | false =>
      have hrest := hds.tail hlast
      have hdrain := @iccDrain_rest
        { chunkCount := 3
          prevChunk := iccReply c₁ c₂
          subSums := fun i => if 2 ≤ i then carryAdd 0 (be16 c₂.data (2 * i)) else 0
          oldHCsum := getIcmpCsum c₂
          newHCsum
          icmpType := getIcmpType c₂
          icmpCode := getIcmpCode c₂ }
        _ hrest.isStream rfl rfl 3 rfl (le_refl 3) (by omega)
      rw [← hout _ (hthird.stream hrest), if_neg Bool.false_ne_true]
      exact congrArg (fun o => { soIPdData := [c₀, iccSend c₁ c₂] } ++ o) hdrain

end Drain

end CloudFpga.Icmp
