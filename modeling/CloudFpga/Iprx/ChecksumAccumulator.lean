import CloudFpga.Foundation.Clocked
import CloudFpga.Nts.Shift
import CloudFpga.Toe.SubChecksums

/-!
The third process of the IP Rx engine, `pIpChecksumAccumulator` of `iprx.cpp`: it cuts off the
Ethernet header of a frame, and adds up the IPv4 header.

* `getEthDstAddr`, ..: the fields of a frame in its chunks, `AxisEth.hpp`.
* `icaChunk`, `icaResidue`: what the process does with a chunk, and with what is left of the last
  one. A call that finds no chunk, or a full stream, does nothing.
* `icaNext`, `icaOut`: the chunks as the input of a machine. A residue is written together with the
  last chunk of its frame.
* `icaOut_data`: the IP packet of a frame is written.
* `icaOut_header`: the version, the verdict on fragments and the sums of a frame.
-/

namespace CloudFpga.Iprx

open Foundation Toe AxisRaw

abbrev AxisEth := AxisRaw
abbrev EthAddr := BitVec 48
abbrev EtherType := BitVec 16
abbrev Ip4Version := BitVec 4

/-- `CMD_KEEP` or `CMD_DROP`. -/
inductive CmdBit where
  | keep | drop
  deriving DecidableEq, Repr

/-! ### Fields of a frame -/

/-- `swapMacAddr(tdata.range(47, 0))`. -/
def getEthDstAddr (c : AxisEth) : EthAddr := be32 c.data 0 ++ be16 c.data 4

/-- `swapWord(tdata.range(47, 32))`. -/
def getEtherType (c : AxisEth) : EtherType := be16 c.data 4

/-- `tdata.range(55, 52)`. -/
def getIp4Version (c : AxisEth) : Ip4Version := (byteAt c.data 6).extractLsb' 4 4

/-- `tdata.range(51, 48)`. -/
def getIp4HdrLen (c : AxisEth) : Ip4HdrLen := (byteAt c.data 6).setWidth 4

/-- `tdata.range(63, 56)`. -/
def getIp4ToS (c : AxisEth) : Byte := byteAt c.data 7

/-- `swapWord(tdata.range(15, 0))`. -/
def getIp4TotalLen (c : AxisEth) : Ip4TotalLen := be16 c.data 0

/-- `swapWord(tdata.range(63, 48))`. -/
def getIp4DstAddrHi (c : AxisEth) : BitVec 16 := be16 c.data 6

/-- `swapWord(tdata.range(15, 0))`. -/
def getIp4DstAddrLo (c : AxisEth) : BitVec 16 := be16 c.data 0

/-! ### The process -/

structure SubSums where
  sums : Fin 4 → BitVec 17
  ipMatch : Bool
  deriving DecidableEq

structure IcaRegs where
  wasLastChunk : Bool := false
  chunkCount : ℕ := 0
  ipHdrSums : Fin 4 → BitVec 17
  ipHdrLen : BitVec 8
  dstIpAddress : Ip4Addr
  prevChunk : AxisEth
  deriving DecidableEq

/-- What is written. -/
structure IcaOut where
  data : List AxisIp4 := []
  ipVer : List Ip4Version := []
  dropCmd : List CmdBit := []
  subSums : List SubSums := []
  deriving DecidableEq

/-- What is written, one after the other. -/
def IcaOut.add (out out' : IcaOut) : IcaOut where
  data := out.data ++ out'.data
  ipVer := out.ipVer ++ out'.ipVer
  dropCmd := out.dropCmd ++ out'.dropCmd
  subSums := out.subSums ++ out'.subSums

section Process

variable (ip4Address : Ip4Addr) (r : IcaRegs) (currChunk : AxisEth)

/-- The first two bytes of the header: `ica_ipHdrSums[3].range(15, 0)`. -/
def firstWord : Fin 4 → BitVec 17 :=
  let word := getIp4Version currChunk ++ getIp4HdrLen currChunk ++ getIp4ToS currChunk
  Function.update r.ipHdrSums 3 ((r.ipHdrSums 3).extractLsb' 16 1 ++ word)

/-- `ip4FlagsAndFragOff`: more fragments, or an offset. -/
def isFragment (flagsAndFragOff : BitVec 16) : Bool :=
  flagsAndFragOff.setWidth 13 ≠ 0 || flagsAndFragOff.getLsbD 13

/-- The last words of the header, or more options. The lower half of the address is read from every
chunk. -/
def icaHeader : IcaRegs × List SubSums :=
  let dstIpAddress : Ip4Addr := r.dstIpAddress.extractLsb' 16 16 ++ getIp4DstAddrLo currChunk
  let r := { r with dstIpAddress := dstIpAddress }
  if r.ipHdrLen = 0 then (r, [])
  else if r.ipHdrLen = 1 then
    let sums := Function.update r.ipHdrSums 0
      (carryAdd (r.ipHdrSums 0) (getIp4DstAddrLo currChunk))
    ({ r with ipHdrSums := sums, ipHdrLen := 0 }, [⟨sums, dstIpAddress = ip4Address⟩])
  else if r.ipHdrLen = 2 then
    let sums := addWords r.ipHdrSums currChunk
    ({ r with ipHdrSums := sums, ipHdrLen := 0 }, [⟨sums, dstIpAddress = ip4Address⟩])
  else
    ({ r with ipHdrSums := addWords r.ipHdrSums currChunk, ipHdrLen := r.ipHdrLen - 2 }, [])

/-- The `switch` on `ica_chunkCount`. -/
def icaSwitch : IcaRegs × IcaOut :=
  match r.chunkCount with
  | 0 => ({ r with ipHdrSums := fun _ => 0, chunkCount := 1 }, {})
  | 1 =>
      ({ r with
          ipHdrLen := (getIp4HdrLen currChunk).setWidth 8
          ipHdrSums := firstWord r currChunk
          chunkCount := 2 }, { ipVer := [getIp4Version currChunk] })
  | 2 =>
      ({ r with
          ipHdrSums := addWords r.ipHdrSums currChunk
          ipHdrLen := r.ipHdrLen - 2
          chunkCount := 3 },
        { dropCmd := [if isFragment (be16 currChunk.data 4) then .drop else .keep] })
  | 3 =>
      ({ r with
          dstIpAddress := getIp4DstAddrHi currChunk ++ r.dstIpAddress.extractLsb' 0 16
          ipHdrSums := addWords r.ipHdrSums currChunk
          ipHdrLen := r.ipHdrLen - 2
          chunkCount := 4 }, {})
  | _ =>
      let out := icaHeader ip4Address r currChunk
      (out.1, { subSums := out.2 })

/-- What the process does with a chunk. The local `sendChunk` is not set before the third chunk;
`unsetTLast` is its `tlast` then. -/
def icaChunk (unsetTLast : Bool) : IcaRegs × IcaOut :=
  let out := icaSwitch ip4Address r currChunk
  let sends := out.1.chunkCount > 2
  let sendChunk := joinRest 2 r.prevChunk currChunk
  ({ out.1 with
      prevChunk := currChunk
      chunkCount := if currChunk.tlast then 0 else out.1.chunkCount
      wasLastChunk :=
        if currChunk.tlast then !(if sends then sendChunk.tlast else unsetTLast)
        else out.1.wasLastChunk },
    { out.2 with data := if sends then [sendChunk] else [] })

/-- What is left of the last chunk. -/
def icaResidue : List AxisIp4 := if r.wasLastChunk then [restChunk 2 r.prevChunk] else []

end Process

section Machine

variable (ip4Address : Ip4Addr) (unsetTLast : Bool)

def icaNext (r : IcaRegs) (c : AxisEth) : IcaRegs :=
  { (icaChunk ip4Address r c unsetTLast).1 with wasLastChunk := false }

def icaEmit (r : IcaRegs) (c : AxisEth) : IcaOut :=
  (icaChunk ip4Address r c unsetTLast).2.add
    { data := icaResidue (icaChunk ip4Address r c unsetTLast).1 }

/-- What `pIpChecksumAccumulator` writes for some chunks. -/
def icaOut : IcaRegs → List AxisEth → IcaOut
  | _, [] => {}
  | r, c :: cs =>
      (icaEmit ip4Address unsetTLast r c).add (icaOut (icaNext ip4Address unsetTLast r c) cs)

end Machine

/-! ### The sums -/

/-- `tdata` of some chunks, by bytes. -/
def rawBytes (cs : List AxisRaw) : List Byte := cs.flatMap data

lemma rawBytes_cons (c : AxisRaw) (cs : List AxisRaw) :
    rawBytes (c :: cs) = c.data ++ rawBytes cs := rfl

section Sums

variable {sums : Fin 4 → BitVec 17} {n : ℕ}

/-- The word of the first two bytes of the header. -/
lemma firstWord_eq (r : IcaRegs) (c : AxisEth) (hzero : r.ipHdrSums = fun _ => 0) :
    firstWord r c = Function.update (fun _ => 0) 3 ((be16 c.data 6).setWidth 17) := by
  have hbits (b b' : Byte) : ((0 : BitVec 17).extractLsb' 16 1) ++
      (b.extractLsb' 4 4 ++ b.setWidth 4 ++ b') = (b ++ b').setWidth 17 := by
    have hnibbles : b.extractLsb' 4 4 ++ b.setWidth 4 = b := by
      ext i hi
      simp only [BitVec.getElem_append, BitVec.getElem_setWidth, BitVec.getElem_extractLsb']
      split
      · exact BitVec.getLsbD_eq_getElem hi
      · rw [show 4 + (i - 4) = i by omega]
        exact BitVec.getLsbD_eq_getElem hi
    rw [hnibbles]
    ext i hi
    simp only [BitVec.getElem_append, BitVec.getElem_setWidth, BitVec.getLsbD_append]
    split
    · split
      · rw [BitVec.getLsbD_eq_getElem]
      · rw [BitVec.getLsbD_eq_getElem]
    · have h16 : i = 16 := by omega
      subst h16
      simp
  rw [firstWord, hzero]
  exact congrArg (Function.update (fun _ => 0) 3) (hbits _ _)

lemma sumsHold_firstWord (c : AxisEth) :
    SumsHold (Function.update (fun _ => 0) 3 ((be16 c.data 6).setWidth 17))
      (be16 c.data 6).toNat := by
  have hw := (be16 c.data 6).isLt
  have hval : ((be16 c.data 6).setWidth 17).toNat = (be16 c.data 6).toNat := by
    rw [BitVec.toNat_setWidth]
    omega
  refine ⟨fun i => ?_, ?_⟩
  · by_cases hi : i = 3
    · rw [hi, Function.update_self, hval]
      omega
    · rw [Function.update_of_ne hi]
      exact Nat.zero_le _
  · rw [Function.update_self, Function.update_of_ne (by decide), Function.update_of_ne (by decide),
      Function.update_of_ne (by decide), hval]
    simp

end Sums

/-! ### A step -/

section Step

variable {a : Ip4Addr} {u : Bool} {r : IcaRegs} {c : AxisEth} {cs ds : List AxisEth}

lemma icaHeader_regs : (icaHeader a r c).1.wasLastChunk = r.wasLastChunk ∧
    (icaHeader a r c).1.chunkCount = r.chunkCount := by
  rw [icaHeader]
  dsimp only
  split
  · exact ⟨rfl, rfl⟩
  · split
    · exact ⟨rfl, rfl⟩
    · split
      · exact ⟨rfl, rfl⟩
      · exact ⟨rfl, rfl⟩

lemma icaSwitch_of_four (hcount : 4 ≤ r.chunkCount) :
    icaSwitch a r c = ((icaHeader a r c).1, { subSums := (icaHeader a r c).2 }) := by
  obtain ⟨n, hn⟩ := Nat.exists_eq_add_of_le' hcount
  rw [icaSwitch, hn]
  rfl

lemma icaSwitch_wasLast : (icaSwitch a r c).1.wasLastChunk = r.wasLastChunk := by
  by_cases hcount : 4 ≤ r.chunkCount
  · rw [icaSwitch_of_four hcount]
    exact icaHeader_regs.1
  · rw [icaSwitch]
    split
    · rfl
    · rfl
    · rfl
    · rfl
    · exact icaHeader_regs.1

/-- From the third chunk on, chunks are written. -/
lemma icaSwitch_count (hcount : 2 ≤ r.chunkCount) : 3 ≤ (icaSwitch a r c).1.chunkCount := by
  by_cases hfour : 4 ≤ r.chunkCount
  · rw [icaSwitch_of_four hfour, icaHeader_regs.2]
    omega
  · have hcase : r.chunkCount = 2 ∨ r.chunkCount = 3 := by omega
    rcases hcase with h2 | h3
    · rw [icaSwitch, h2]
      exact le_refl 3
    · rw [icaSwitch, h3]
      exact Nat.le_succ 3

lemma icaOut_append : icaOut a u r (cs ++ ds) =
    (icaOut a u r cs).add (icaOut a u (Clocked.run (icaNext a u) r cs) ds) := by
  induction cs generalizing r with
  | nil => rfl
  | cons c cs ih =>
      rw [List.cons_append, icaOut, ih, icaOut, Clocked.run_cons]
      simp [IcaOut.add, List.append_assoc]

/-- Between two frames. -/
structure IcaIdle (r : IcaRegs) : Prop where
  chunkCount : r.chunkCount = 0
  wasLastChunk : r.wasLastChunk = false

/-- Behind the last chunk of a frame the process is idle. -/
lemma icaIdle_run (hcs : IsStream cs) : IcaIdle (Clocked.run (icaNext a u) r cs) := by
  induction cs generalizing r with
  | nil => exact absurd hcs id
  | cons c cs ih =>
      cases hlast : c.tlast with
      | true =>
          obtain rfl := (isPacket_cons_of_last hlast).mp hcs
          exact ⟨if_pos hlast, rfl⟩
      | false => exact ih ((isPacket_cons_of_not_last hlast).mp hcs)

/-- From the third chunk on, the IP packet is written. -/
theorem icaOut_data (hcs : IsStream cs) (hcount : 2 ≤ r.chunkCount)
    (hwas : r.wasLastChunk = false) :
    (icaOut a u r cs).data = shiftStream 2 r.prevChunk cs := by
  induction cs generalizing r with
  | nil => exact absurd hcs id
  | cons c cs ih =>
      have hsends : (icaSwitch a r c).1.chunkCount > 2 := icaSwitch_count hcount
      have hemit : (icaEmit a u r c).data =
          joinRest 2 r.prevChunk c ::
            if c.tlast then if fits 2 c then [] else [restChunk 2 c] else [] := by
        simp only [icaEmit, IcaOut.add, icaChunk, icaResidue, hsends, if_true,
          icaSwitch_wasLast, hwas]
        cases c.tlast with
        | true =>
            have hjoin : (joinRest 2 r.prevChunk c).tlast = fits 2 c := rfl
            rw [if_pos rfl, hjoin]
            cases fits 2 c with
            | true => rfl
            | false => rfl
        | false => rfl
      have hout : (icaOut a u r (c :: cs)).data =
          (icaEmit a u r c).data ++ (icaOut a u (icaNext a u r c) cs).data := rfl
      rw [hout, hemit, shiftStream, List.cons_append]
      cases hlast : c.tlast with
      | true =>
          obtain rfl := (isPacket_cons_of_last hlast).mp hcs
          rw [if_pos rfl, if_pos rfl]
          exact congrArg _ (List.append_nil _)
      | false =>
          rw [if_neg Bool.false_ne_true, if_neg Bool.false_ne_true, List.nil_append]
          have hcount' : (icaNext a u r c).chunkCount = (icaSwitch a r c).1.chunkCount :=
            if_neg (by rw [hlast]; exact Bool.false_ne_true)
          rw [ih ((isPacket_cons_of_not_last hlast).mp hcs) (by omega) rfl]
          rfl

/-! ### The header of a frame -/

/-- The bytes that are added of what is left of a header of `m` words of 32 bits, and of its last
half word. -/
def summedRest (m : ℕ) : ℕ := if m % 2 = 1 then 4 * m - 2 else 4 * m

lemma icaHeader_one (h : r.ipHdrLen = 1) : (icaHeader a r c).1.ipHdrLen = 0 ∧
    (icaHeader a r c).2 =
      [⟨Function.update r.ipHdrSums 0 (carryAdd (r.ipHdrSums 0) (getIp4DstAddrLo c)),
        r.dstIpAddress.extractLsb' 16 16 ++ getIp4DstAddrLo c = a⟩] := by
  simp only [icaHeader, h]
  exact ⟨rfl, rfl⟩

lemma icaHeader_two (h : r.ipHdrLen = 2) : (icaHeader a r c).1.ipHdrLen = 0 ∧
    (icaHeader a r c).2 = [⟨addWords r.ipHdrSums c,
      r.dstIpAddress.extractLsb' 16 16 ++ getIp4DstAddrLo c = a⟩] := by
  simp only [icaHeader, h]
  exact ⟨rfl, rfl⟩

lemma icaHeader_more (h0 : r.ipHdrLen ≠ 0) (h1 : r.ipHdrLen ≠ 1) (h2 : r.ipHdrLen ≠ 2) :
    icaHeader a r c = ({ r with
      dstIpAddress := r.dstIpAddress.extractLsb' 16 16 ++ getIp4DstAddrLo c
      ipHdrSums := addWords r.ipHdrSums c
      ipHdrLen := r.ipHdrLen - 2 }, []) := by
  rw [icaHeader]
  dsimp only
  rw [if_neg h0, if_neg h1, if_neg h2]

/-- What a chunk behind the fourth one gives, with the registers after it. -/
lemma icaEmit_tail (hcount : r.chunkCount = 4) :
    (icaEmit a u r c).subSums = (icaHeader a r c).2 ∧ (icaEmit a u r c).ipVer = [] ∧
      (icaEmit a u r c).dropCmd = [] := by
  simp only [icaEmit, IcaOut.add, icaChunk, icaSwitch_of_four hcount.ge, List.append_nil]
  exact ⟨trivial, trivial, trivial⟩

lemma icaNext_tail (hcount : r.chunkCount = 4) (hlast : c.tlast = false) :
    icaNext a u r c =
      { (icaHeader a r c).1 with chunkCount := 4, prevChunk := c, wasLastChunk := false } := by
  have hheader : (icaHeader a r c).1.chunkCount = 4 := icaHeader_regs.2.trans hcount
  simp only [icaNext, icaChunk, icaSwitch_of_four hcount.ge, hlast, hheader]
  rfl

/-- Behind the header nothing more is reported. -/
lemma icaOut_behind (hcs : IsStream cs) (hcount : r.chunkCount = 4) (hlen : r.ipHdrLen = 0) :
    (icaOut a u r cs).subSums = [] ∧ (icaOut a u r cs).ipVer = [] ∧
      (icaOut a u r cs).dropCmd = [] := by
  induction cs generalizing r with
  | nil => exact absurd hcs id
  | cons c cs ih =>
      obtain ⟨hsums, hver, hdrop⟩ := icaEmit_tail (a := a) (u := u) (c := c) hcount
      have hheader : icaHeader a r c =
          ({ r with dstIpAddress := r.dstIpAddress.extractLsb' 16 16 ++ getIp4DstAddrLo c }, []) := by
        rw [icaHeader]
        exact if_pos hlen
      rw [hheader] at hsums
      cases hlast : c.tlast with
      | true =>
          obtain rfl := (isPacket_cons_of_last hlast).mp hcs
          exact ⟨congrArg (· ++ []) hsums, congrArg (· ++ []) hver, congrArg (· ++ []) hdrop⟩
      | false =>
          have hnext := icaNext_tail (a := a) (u := u) hcount hlast
          rw [hheader] at hnext
          obtain ⟨hsums', hver', hdrop'⟩ := ih (r := icaNext a u r c)
            ((isPacket_cons_of_not_last hlast).mp hcs) (by rw [hnext]) (by rw [hnext]; exact hlen)
          refine ⟨?_, ?_, ?_⟩
          · rw [icaOut, IcaOut.add, hsums, hsums']
            rfl
          · rw [icaOut, IcaOut.add, hver, hver']
            rfl
          · rw [icaOut, IcaOut.add, hdrop, hdrop']
            rfl

lemma extract_append (x y : BitVec 16) : (x ++ y).extractLsb' 16 16 = x := by
  ext i hi
  simp only [BitVec.getElem_extractLsb', BitVec.getLsbD_append]
  rw [if_neg (by omega), show 16 + i - 16 = i by omega]
  exact BitVec.getLsbD_eq_getElem hi

lemma summedRest_add_two (m : ℕ) (h : 1 ≤ m) : summedRest (m + 2) = 8 + summedRest m := by
  rw [summedRest, summedRest, Nat.add_mod_right]
  split
  · omega
  · omega

/-- The rest of a header is added, and reported with its last word. -/
lemma icaOut_header (m : ℕ) (hm : r.ipHdrLen.toNat = m) (hpos : 1 ≤ m) (hcs : IsStream cs)
    (hcount : r.chunkCount = 4) (hlen : (m + 1) / 2 ≤ cs.length) {n : ℕ}
    (hsums : SumsHold r.ipHdrSums n) :
    (∃ sums, SumsHold sums (n + wordSum ((rawBytes cs).take (summedRest m))) ∧
      (icaOut a u r cs).subSums = [⟨sums, r.dstIpAddress.extractLsb' 16 16 ++
        be16 (rawBytes cs) (8 * ((m - 1) / 2)) = a⟩]) ∧
      (icaOut a u r cs).ipVer = [] ∧ (icaOut a u r cs).dropCmd = [] := by
  induction m using Nat.strong_induction_on generalizing r cs n with
  | _ m ih =>
      cases cs with
      | nil => exact absurd hcs id
      | cons c cs =>
          obtain ⟨hemit, hver, hdrop⟩ := icaEmit_tail (a := a) (u := u) (c := c) hcount
          have hout : icaOut a u r (c :: cs) =
            (icaEmit a u r c).add (icaOut a u (icaNext a u r c) cs) := rfl
          have hdst : be16 (rawBytes (c :: cs)) 0 = getIp4DstAddrLo c := by
            rw [rawBytes_cons, be16_append (by rw [length_data]; decide)]
            rfl
          -- what comes behind the end of the header
          have hend {x : SubSums} (hheader : (icaHeader a r c).1.ipHdrLen = 0)
              (hx : (icaHeader a r c).2 = [x]) :
              (icaOut a u r (c :: cs)).subSums = [x] ∧ (icaOut a u r (c :: cs)).ipVer = [] ∧
                (icaOut a u r (c :: cs)).dropCmd = [] := by
            have hbehind : (icaOut a u (icaNext a u r c) cs).subSums = [] ∧
                (icaOut a u (icaNext a u r c) cs).ipVer = [] ∧
                (icaOut a u (icaNext a u r c) cs).dropCmd = [] := by
              cases hlast : c.tlast with
              | true =>
                  obtain rfl := (isPacket_cons_of_last hlast).mp hcs
                  exact ⟨rfl, rfl, rfl⟩
              | false =>
                  have hnext := icaNext_tail (a := a) (u := u) hcount hlast
                  exact icaOut_behind ((isPacket_cons_of_not_last hlast).mp hcs) (by rw [hnext])
                    (by rw [hnext]; exact hheader)
            rw [hout, IcaOut.add, hemit, hver, hdrop, hbehind.1, hbehind.2.1, hbehind.2.2, hx]
            exact ⟨rfl, rfl, rfl⟩
          have hzero : r.ipHdrLen ≠ 0 := by
            rintro h
            rw [h] at hm
            exact absurd hpos (by rw [← hm]; decide)
          obtain rfl | rfl | ⟨m, rfl, hm1⟩ : m = 1 ∨ m = 2 ∨ ∃ m', m = m' + 2 ∧ 1 ≤ m' := by
            rcases Nat.lt_or_ge m 3 with hlt | hge
            · omega
            · exact .inr (.inr ⟨m - 2, by omega, by omega⟩)
          · obtain ⟨hheader, hx⟩ :=
              icaHeader_one (a := a) (c := c) (r := r) (BitVec.eq_of_toNat_eq hm)
            obtain ⟨hsub, hrest⟩ := hend hheader hx
            have hlo : 8 * ((1 - 1) / 2) = 0 := rfl
            have htake : (rawBytes (c :: cs)).take (summedRest 1) = c.data.take 2 :=
              List.take_append_of_le_length (by rw [length_data]; decide)
            rw [hlo, hdst, htake, wordSum_two (by rw [length_data]; decide)]
            exact ⟨⟨_, sumsHold_addWord hsums 0 _, hsub⟩, hrest⟩
          · obtain ⟨hheader, hx⟩ :=
              icaHeader_two (a := a) (c := c) (r := r) (BitVec.eq_of_toNat_eq hm)
            obtain ⟨hsub, hrest⟩ := hend hheader hx
            have hlo : 8 * ((2 - 1) / 2) = 0 := rfl
            have htake : (rawBytes (c :: cs)).take (summedRest 2) = c.data :=
              List.take_left' (length_data c)
            rw [hlo, hdst, htake]
            exact ⟨⟨_, sumsHold_addWords hsums c, hsub⟩, hrest⟩
          · have hcs' : c.tlast = false := by
              by_contra hlast
              rw [Bool.not_eq_false] at hlast
              obtain rfl := (isPacket_cons_of_last hlast).mp hcs
              rw [List.length_singleton] at hlen
              omega
            have hne (k : BitVec 8) (hk : k.toNat < 3) : r.ipHdrLen ≠ k := by
              rintro rfl
              omega
            have hheader := icaHeader_more (a := a) (c := c) (hne 0 (by decide))
              (hne 1 (by decide)) (hne 2 (by decide))
            have hnext := icaNext_tail (a := a) (u := u) hcount hcs'
            have hsub : (r.ipHdrLen - 2).toNat = m := by
              rw [BitVec.toNat_sub_of_le, hm]
              · rfl
              · rw [BitVec.le_def, hm]
                exact Nat.le_add_left _ _
            rw [hheader] at hemit hnext
            rw [List.length_cons] at hlen
            obtain ⟨⟨sums, hhold, hreport⟩, hver', hdrop'⟩ := ih m (by omega)
              (r := icaNext a u r c) (n := n + wordSum c.data)
              (by rw [hnext]; exact hsub) hm1 ((isPacket_cons_of_not_last hcs').mp hcs)
              (by rw [hnext]) (by omega) (by rw [hnext]; exact sumsHold_addWords hsums c)
            refine ⟨⟨sums, ?_, ?_⟩, ?_, ?_⟩
            · have htake : (rawBytes (c :: cs)).take (summedRest (m + 2)) =
                  c.data ++ (rawBytes cs).take (summedRest m) := by
                rw [rawBytes_cons, summedRest_add_two m hm1, List.take_append, length_data,
                  Nat.add_sub_cancel_left, List.take_of_length_le (by rw [length_data]; omega)]
              rw [htake, wordSum_append (by rw [length_data]), ← add_assoc]
              exact hhold
            · have hlo : be16 (rawBytes (c :: cs)) (8 * ((m + 2 - 1) / 2)) =
                  be16 (rawBytes cs) (8 * ((m - 1) / 2)) := by
                have hdrop8 : (rawBytes (c :: cs)).drop 8 = rawBytes cs :=
                  List.drop_left' (length_data c)
                rw [← hdrop8, be16_drop]
                congr 1
                omega
              rw [hout, IcaOut.add, hemit, hreport, hlo, hnext]
              dsimp only
              rw [extract_append]
              rfl
            · rw [hout, IcaOut.add, hver, hver']
              rfl
            · rw [hout, IcaOut.add, hdrop, hdrop']
              rfl

/-! ### Frames -/

/-- The IP packet of a frame, as it is on `tdata`. -/
def rawPacket (cs : List AxisEth) : List Byte := (rawBytes cs).drop 14

def rawHdrLen (cs : List AxisEth) : ℕ := ((byteAt (rawPacket cs) 0).setWidth 4 : Ip4HdrLen).toNat

/-- The last chunk of the header is in the frame. -/
structure HeaderInside (cs : List AxisEth) : Prop where
  isStream : IsStream cs
  five : 5 ≤ rawHdrLen cs
  length : 4 + (rawHdrLen cs - 3) / 2 ≤ cs.length

/-- The bytes that are added of a header of `ihl` words: if `ihl` is even, two more bytes than
there are. -/
def summedBytes (ihl : ℕ) : ℕ := if ihl % 2 = 1 then 4 * ihl else 4 * ihl + 2

/-- The lower half of the destination address is compared where the last chunk of the header
begins. -/
def lastHdrChunkAt (ihl : ℕ) : ℕ := 18 + 8 * ((ihl - 5) / 2)

/-- What is reported of a frame, and its IP packet. -/
structure IcaReport (a : Ip4Addr) (cs : List AxisEth) (out : IcaOut) : Prop where
  data : out.data = shiftStream 2 (cs.getD 1 zero) (cs.drop 2)
  ipVer : out.ipVer = [(byteAt (rawPacket cs) 0).extractLsb' 4 4]
  dropCmd : out.dropCmd = [if isFragment (be16 (rawPacket cs) 6) then .drop else .keep]
  subSums : ∃ sums,
    SumsHold sums (wordSum ((rawPacket cs).take (summedBytes (rawHdrLen cs)))) ∧
      out.subSums = [⟨sums, be16 (rawPacket cs) 16 ++
        be16 (rawPacket cs) (lastHdrChunkAt (rawHdrLen cs)) = a⟩]

lemma isStream_not_last {c d : AxisRaw} {cs : List AxisRaw} (h : IsStream (c :: d :: cs)) :
    c.tlast = false ∧ IsStream (d :: cs) := by
  cases hlast : c.tlast with
  | true => cases (isPacket_cons_of_last hlast).mp h
  | false => exact ⟨rfl, (isPacket_cons_of_not_last hlast).mp h⟩

lemma exists_four {α : Type} {xs : List α} (h : 4 ≤ xs.length) :
    ∃ x0 x1 x2 x3 rest, xs = x0 :: x1 :: x2 :: x3 :: rest :=
  match xs, h with
  | x0 :: x1 :: x2 :: x3 :: rest, _ => ⟨x0, x1, x2, x3, rest, rfl⟩

/-- The IP packet of a frame of three chunks or more. -/
lemma icaOut_packet (hr : IcaIdle r) (hcs : IsStream cs) (hlen : 3 ≤ cs.length) :
    (icaOut a u r cs).data = shiftStream 2 (cs.getD 1 zero) (cs.drop 2) := by
  obtain ⟨c0, c1, c2, rest, rfl⟩ : ∃ c0 c1 c2 rest, cs = c0 :: c1 :: c2 :: rest :=
    match cs, hlen with
    | c0 :: c1 :: c2 :: rest, _ => ⟨c0, c1, c2, rest, rfl⟩
  obtain ⟨hl0, hs1⟩ := isStream_not_last hcs
  obtain ⟨hl1, hs2⟩ := isStream_not_last hs1
  have h0 : (icaEmit a u r c0).data = [] ∧ (icaNext a u r c0).chunkCount = 1 ∧
      (icaNext a u r c0).wasLastChunk = false := by
    simp [icaEmit, icaNext, icaChunk, icaSwitch, icaResidue, IcaOut.add, hr.chunkCount, hl0,
      hr.wasLastChunk]
  have h1 : (icaEmit a u (icaNext a u r c0) c1).data = [] ∧
      (icaNext a u (icaNext a u r c0) c1).chunkCount = 2 ∧
      (icaNext a u (icaNext a u r c0) c1).wasLastChunk = false ∧
      (icaNext a u (icaNext a u r c0) c1).prevChunk = c1 := by
    refine ⟨?_, ?_, rfl, rfl⟩
    · simp [icaEmit, icaChunk, icaSwitch, icaResidue, IcaOut.add, h0.2.1, h0.2.2, hl1]
    · rw [icaNext]
      simp [icaChunk, icaSwitch, h0.2.1, hl1]
  have hdata := icaOut_data (a := a) (u := u) hs2 h1.2.1.ge h1.2.2.1
  rw [icaOut, icaOut, IcaOut.add, IcaOut.add, h0.1, h1.1, hdata, h1.2.2.2]
  rfl

/-- The registers behind the first four chunks of a frame. -/
def icaFour (r : IcaRegs) (c1 c2 c3 : AxisEth) : IcaRegs where
  wasLastChunk := false
  chunkCount := 4
  ipHdrSums :=
    addWords (addWords (Function.update (fun _ => 0) 3 ((be16 c1.data 6).setWidth 17)) c2) c3
  ipHdrLen := (getIp4HdrLen c1).setWidth 8 - 2 - 2
  dstIpAddress := getIp4DstAddrHi c3 ++ r.dstIpAddress.extractLsb' 0 16
  prevChunk := c3

/-- The first four chunks of a frame. -/
lemma icaOut_four {c0 c1 c2 c3 : AxisEth} (hr : IcaIdle r) (hl0 : c0.tlast = false)
    (hl1 : c1.tlast = false) (hl2 : c2.tlast = false) (hl3 : c3.tlast = false) :
    icaOut a u r (c0 :: c1 :: c2 :: c3 :: cs) =
      IcaOut.add
        { data := [joinRest 2 c1 c2, joinRest 2 c2 c3]
          ipVer := [getIp4Version c1]
          dropCmd := [if isFragment (be16 c2.data 4) then .drop else .keep] }
        (icaOut a u (icaFour r c1 c2 c3) cs) := by
  have hfirst : firstWord { r with ipHdrSums := fun _ => 0 } c1 =
      Function.update (fun _ => 0) 3 ((be16 c1.data 6).setWidth 17) := firstWord_eq _ c1 rfl
  have h1 : icaNext a u r c0 =
      { r with
        wasLastChunk := false, chunkCount := 1, ipHdrSums := fun _ => 0, prevChunk := c0 } := by
    simp [icaNext, icaChunk, icaSwitch, hr.chunkCount, hl0]
  have h2 : icaNext a u (icaNext a u r c0) c1 =
      { r with
        wasLastChunk := false, chunkCount := 2
        ipHdrSums := firstWord { r with ipHdrSums := fun _ => 0 } c1
        ipHdrLen := (getIp4HdrLen c1).setWidth 8, prevChunk := c1 } := by
    rw [h1]
    simp [icaNext, icaChunk, icaSwitch, hl1, firstWord]
  have h3 : icaNext a u (icaNext a u (icaNext a u r c0) c1) c2 =
      { r with
        wasLastChunk := false, chunkCount := 3
        ipHdrSums := addWords (firstWord { r with ipHdrSums := fun _ => 0 } c1) c2
        ipHdrLen := (getIp4HdrLen c1).setWidth 8 - 2, prevChunk := c2 } := by
    rw [h2]
    simp [icaNext, icaChunk, icaSwitch, hl2]
  have h4 : icaNext a u (icaNext a u (icaNext a u (icaNext a u r c0) c1) c2) c3 =
      icaFour r c1 c2 c3 := by
    rw [h3, icaFour, ← hfirst]
    simp [icaNext, icaChunk, icaSwitch, hl3]
  -- what is written for them
  have e0 : icaEmit a u r c0 = {} := by
    simp [icaEmit, icaChunk, icaSwitch, icaResidue, IcaOut.add, hr.chunkCount, hl0,
      hr.wasLastChunk]
  have e1 : icaEmit a u (icaNext a u r c0) c1 = { ipVer := [getIp4Version c1] } := by
    rw [h1]
    simp [icaEmit, icaChunk, icaSwitch, icaResidue, IcaOut.add, hl1]
  have e2 : icaEmit a u (icaNext a u (icaNext a u r c0) c1) c2 =
      { data := [joinRest 2 c1 c2]
        dropCmd := [if isFragment (be16 c2.data 4) then .drop else .keep] } := by
    rw [h2]
    simp [icaEmit, icaChunk, icaSwitch, icaResidue, IcaOut.add, hl2]
  have e3 : icaEmit a u (icaNext a u (icaNext a u (icaNext a u r c0) c1) c2) c3 =
      { data := [joinRest 2 c2 c3] } := by
    rw [h3]
    simp [icaEmit, icaChunk, icaSwitch, icaResidue, IcaOut.add, hl3]
  rw [icaOut, icaOut, icaOut, icaOut, e0, e1, e2, e3, h4]
  rfl

/-- **A frame** that holds its header. -/
theorem icaReport (hr : IcaIdle r) (hcs : HeaderInside cs) : IcaReport a cs (icaOut a u r cs) := by
  obtain ⟨hstream, hfive, hlen⟩ := hcs
  have hlt : rawHdrLen cs < 16 := BitVec.isLt _
  obtain ⟨c0, c1, c2, c3, rest, rfl⟩ := exists_four (by omega : 4 ≤ cs.length)
  obtain ⟨hl0, hs1⟩ := isStream_not_last hstream
  obtain ⟨hl1, hs2⟩ := isStream_not_last hs1
  obtain ⟨hl2, hs3⟩ := isStream_not_last hs2
  obtain ⟨d, rest, rfl⟩ : ∃ d rest', rest = d :: rest' := by
    cases rest with
    | nil =>
        simp only [List.length_cons, List.length_nil] at hlen
        omega
    | cons d rest => exact ⟨d, rest, rfl⟩
  obtain ⟨hl3, hs4⟩ := isStream_not_last hs3
  -- the IP packet on `tdata`
  have hpacket : rawPacket (c0 :: c1 :: c2 :: c3 :: d :: rest) =
      c1.data.drop 6 ++ (c2.data ++ (c3.data ++ rawBytes (d :: rest))) := by
    rw [rawPacket, rawBytes_cons, rawBytes_cons, rawBytes_cons, rawBytes_cons,
      show 14 = 8 + 6 by rfl, ← List.drop_drop, List.drop_left' (length_data c0),
      List.drop_append_of_le_length (by rw [length_data]; decide)]
  have hlen2 : (c1.data.drop 6).length = 2 := by rw [List.length_drop, length_data]
  have hbyte : byteAt (rawPacket (c0 :: c1 :: c2 :: c3 :: d :: rest)) 0 = byteAt c1.data 6 := by
    rw [hpacket, byteAt_append (by omega), byteAt_drop]
  have hihl : rawHdrLen (c0 :: c1 :: c2 :: c3 :: d :: rest) = (getIp4HdrLen c1).toNat := by
    rw [rawHdrLen, hbyte]
    rfl
  rw [hihl] at hfive hlen hlt
  have hdrLen : ((getIp4HdrLen c1).setWidth 8 - 2 - 2).toNat = (getIp4HdrLen c1).toNat - 4 := by
    have h2 : (2 : BitVec 8).toNat = 2 := rfl
    rw [BitVec.toNat_sub, BitVec.toNat_sub, BitVec.toNat_setWidth, h2]
    omega
  -- the words in front of the fifth chunk
  have hfirst : wordSum (c1.data.drop 6) = (be16 c1.data 6).toNat := by
    have htwo : wordSum ((c1.data.drop 6).take 2) = _ := wordSum_two hlen2.ge
    rw [List.take_of_length_le hlen2.le, be16_drop] at htwo
    exact htwo
  have hsums : SumsHold (icaFour r c1 c2 c3).ipHdrSums
      (wordSum (c1.data.drop 6) + wordSum c2.data + wordSum c3.data) := by
    rw [hfirst]
    exact sumsHold_addWords (sumsHold_addWords (sumsHold_firstWord c1) c2) c3
  have htake : (rawPacket (c0 :: c1 :: c2 :: c3 :: d :: rest)).take
      (summedBytes (getIp4HdrLen c1).toNat) = c1.data.drop 6 ++ (c2.data ++ (c3.data ++
        (rawBytes (d :: rest)).take (summedRest ((getIp4HdrLen c1).toNat - 4)))) := by
    have hsummed : summedBytes (getIp4HdrLen c1).toNat =
        2 + (8 + (8 + summedRest ((getIp4HdrLen c1).toNat - 4))) := by
      rw [summedBytes, summedRest]
      split
      · rw [if_pos (by omega)]
        omega
      · rw [if_neg (by omega)]
        omega
    rw [hpacket, hsummed, List.take_append, List.take_append, List.take_append, hlen2,
      length_data, length_data, Nat.add_sub_cancel_left, Nat.add_sub_cancel_left,
      Nat.add_sub_cancel_left, List.take_of_length_le (by omega),
      List.take_of_length_le (by rw [length_data]; omega),
      List.take_of_length_le (by rw [length_data]; omega)]
  have hdrop2 : (rawPacket (c0 :: c1 :: c2 :: c3 :: d :: rest)).drop 2 =
      c2.data ++ (c3.data ++ rawBytes (d :: rest)) := by
    rw [hpacket, List.drop_left' hlen2]
  have hdrop10 : (rawPacket (c0 :: c1 :: c2 :: c3 :: d :: rest)).drop 10 =
      c3.data ++ rawBytes (d :: rest) := by
    rw [show 10 = 2 + 8 by rfl, ← List.drop_drop, hdrop2, List.drop_left' (length_data c2)]
  have hdrop18 : (rawPacket (c0 :: c1 :: c2 :: c3 :: d :: rest)).drop 18 =
      rawBytes (d :: rest) := by
    rw [show 18 = 10 + 8 by rfl, ← List.drop_drop, hdrop10, List.drop_left' (length_data c3)]
  obtain ⟨⟨sums, hhold, hreport⟩, hver, hdrop⟩ := icaOut_header (a := a) (u := u)
    (r := icaFour r c1 c2 c3) ((getIp4HdrLen c1).toNat - 4) hdrLen (by omega) hs4 rfl
    (by simp only [List.length_cons] at hlen ⊢; omega) hsums
  have hout : icaOut a u r (c0 :: c1 :: c2 :: c3 :: d :: rest) = _ :=
    icaOut_four hr hl0 hl1 hl2 hl3
  refine ⟨icaOut_packet hr hstream (Nat.le_add_left 3 _), ?_, ?_, sums, ?_, ?_⟩
  · rw [hout, IcaOut.add, hver, hbyte]
    rfl
  · have hfrag : be16 (rawPacket (c0 :: c1 :: c2 :: c3 :: d :: rest)) 6 = be16 c2.data 4 := by
      have hat := @be16_drop (rawPacket (c0 :: c1 :: c2 :: c3 :: d :: rest)) 2 4
      rw [hdrop2, be16_append (by rw [length_data]; decide)] at hat
      exact hat.symm
    rw [hout, IcaOut.add, hdrop, hfrag]
    rfl
  · rw [hihl, htake, wordSum_append (by rw [hlen2]), wordSum_append (by rw [length_data]),
      wordSum_append (by rw [length_data]), ← add_assoc, ← add_assoc]
    exact hhold
  · have hhi : be16 (rawPacket (c0 :: c1 :: c2 :: c3 :: d :: rest)) 16 = getIp4DstAddrHi c3 := by
      have hat := @be16_drop (rawPacket (c0 :: c1 :: c2 :: c3 :: d :: rest)) 10 6
      rw [hdrop10, be16_append (by rw [length_data])] at hat
      exact hat.symm
    have hlo : be16 (rawPacket (c0 :: c1 :: c2 :: c3 :: d :: rest))
        (lastHdrChunkAt (getIp4HdrLen c1).toNat) =
          be16 (rawBytes (d :: rest)) (8 * (((getIp4HdrLen c1).toNat - 4 - 1) / 2)) := by
      rw [← hdrop18, be16_drop, Nat.sub_sub]
      rfl
    have hdst : (icaFour r c1 c2 c3).dstIpAddress =
        getIp4DstAddrHi c3 ++ r.dstIpAddress.extractLsb' 0 16 := rfl
    rw [hdst, extract_append] at hreport
    rw [hout, IcaOut.add, hreport, hihl, hhi, hlo]
    rfl

end Step

end CloudFpga.Iprx
