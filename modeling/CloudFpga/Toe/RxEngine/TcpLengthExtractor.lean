import CloudFpga.Foundation.Transducer
import CloudFpga.Toe.RxEngine.HalfShift
import CloudFpga.Toe.RxEngine.TcpPacket

/-!
The first process of the Rx engine, `pTcpLengthExtractor` of `rx_engine.cpp`: the IP header of a
packet is removed but for the addresses, and the length of the segment is computed.

* `tleChunk`: what a chunk does to the registers, and what is written for it.
* `pTcpLengthExtractor`: one call of the process.
* `tleNext`, `tleData`, `tleSegLen`: the chunks as the input of a machine. A residue is written
  together with the last chunk of its packet.
* `tle_packet`: the addresses and the segment of a packet are written, and the length of the
  segment.
-/

namespace CloudFpga.Toe

open Foundation AxisRaw

structure TleRegs where
  chunkCount : ℕ := 0
  residue : Bool := false
  shift : Bool
  hdrLen : Ip4HdrLen
  totLen : Ip4TotalLen
  ipDataLen : Ip4DatLen
  prevChunk : AxisIp4
  deriving DecidableEq

/-- The registers after a chunk, and what is written for it. -/
structure TleOut where
  regs : TleRegs
  data : List AxisRaw := []
  segLen : List TcpSegLen := []

/-- What the process does with a chunk. -/
def tleChunk (r : TleRegs) (currChunk : AxisIp4) : TleOut :=
  let sendChunk := joinHalves r.prevChunk currChunk
  let out : TleOut :=
    match r.chunkCount with
    | 0 =>
        { regs := { r with
            hdrLen := getIp4HdrLen currChunk - 2
            totLen := getIp4TotalLen currChunk
            ipDataLen := getIp4TotalLen currChunk - (getIp4HdrLen currChunk).setWidth 16 * 4
            chunkCount := 1 } }
    | 1 =>
        { regs := { r with hdrLen := r.hdrLen - 2, chunkCount := 2 }, segLen := [r.ipDataLen] }
    | 2 =>
        { regs := { r with hdrLen := r.hdrLen - 1, chunkCount := 3 }, data := [sendChunk] }
    | 3 =>
        if r.hdrLen = 0 then
          { regs := { r with shift := true, chunkCount := 4 }, data := [sendChunk] }
        else if r.hdrLen = 1 then
          { regs := { r with shift := false, hdrLen := 0, chunkCount := 4 }, data := [currChunk] }
        else { regs := { r with hdrLen := r.hdrLen - 2 } }
    | _ =>
        if r.shift then
          { regs :=
              if currChunk.tlast then { r with chunkCount := 0, residue := !fits 4 currChunk }
              else r
            data := [sendChunk] }
        else
          { regs := if currChunk.tlast then { r with chunkCount := 0 } else r
            data := [currChunk] }
  { out with regs := { out.regs with prevChunk := currChunk } }

/-- The process with its streams. -/
structure TleState where
  regs : TleRegs
  siIPRXData : List AxisIp4
  soIphData : List AxisRaw := []
  soIphTcpSegLen : List TcpSegLen := []
  deriving DecidableEq

/-- What a call is offered. -/
structure TleCycle where
  iprxData : Bool
  iphDataFull : Bool
  deriving DecidableEq, Repr

/-- The residue is written. -/
def tleResidue (s : TleState) : TleState :=
  if s.regs.residue then
    { s with
      regs := { s.regs with residue := false }
      soIphData := s.soIphData ++ [restHalf s.regs.prevChunk] }
  else s

/-- One call of the process. -/
def pTcpLengthExtractor (s : TleState) (k : TleCycle) : TleState :=
  match s.siIPRXData with
  | currChunk :: cs =>
      if k.iprxData ∧ ¬k.iphDataFull ∧ ¬s.regs.residue then
        let out := tleChunk s.regs currChunk
        { s with
          regs := out.regs
          siIPRXData := cs
          soIphData := s.soIphData ++ out.data
          soIphTcpSegLen := s.soIphTcpSegLen ++ out.segLen }
      else tleResidue s
  | [] => tleResidue s

/-! ### Packets -/

/-- The residue that is still to be written. -/
def tlePending (r : TleRegs) : List AxisRaw :=
  if r.residue then [restHalf r.prevChunk] else []

def tleNext (r : TleRegs) (c : AxisIp4) : TleRegs := { (tleChunk r c).regs with residue := false }

def tleData (r : TleRegs) (c : AxisIp4) : List AxisRaw :=
  (tleChunk r c).data ++ tlePending (tleChunk r c).regs

def tleSegLen (r : TleRegs) (c : AxisIp4) : List TcpSegLen := (tleChunk r c).segLen

/-- Between two packets. -/
structure TleIdle (r : TleRegs) : Prop where
  chunkCount : r.chunkCount = 0
  residue : r.residue = false

section Packet

variable {r : TleRegs} {c : AxisIp4} {cs : List AxisIp4} {b : List Byte}

/-- The packet behind its headers, shifted by half a chunk. -/
lemma tle_shift (hcs : IsStream cs) (hcount : r.chunkCount = 4) (hres : r.residue = false)
    (hshift : r.shift = true) :
    emits tleNext tleData r cs = halfShift r.prevChunk cs ∧ emits tleNext tleSegLen r cs = [] ∧
      TleIdle (Clocked.run tleNext r cs) := by
  induction cs generalizing r with
  | nil => exact absurd hcs id
  | cons c cs ih =>
      cases hlast : c.tlast with
      | true =>
          obtain rfl := (isPacket_cons_of_last hlast).mp hcs
          refine ⟨?_, ?_, ?_⟩
          · cases hfit : fits 4 c <;>
              simp [tleData, tleChunk, hcount, hshift, hlast, tlePending, halfShift, hfit]
          · simp [tleSegLen, tleChunk, hcount, hshift]
          · constructor <;> simp [tleNext, tleChunk, hcount, hshift, hlast]
      | false =>
          have hnext : tleNext r c = { r with prevChunk := c } := by
            simp [tleNext, tleChunk, hcount, hshift, hlast, hres]
          have hdata : tleData r c = [joinHalves r.prevChunk c] := by
            simp [tleData, tleChunk, hcount, hshift, hlast, tlePending, hres]
          have hlen : tleSegLen r c = [] := by simp [tleSegLen, tleChunk, hcount, hshift]
          have hrest := @ih { r with prevChunk := c } ((isPacket_cons_of_not_last hlast).mp hcs)
            hcount hres hshift
          rw [emits_cons, emits_cons, Clocked.run_cons, hnext, hdata, hlen, hrest.1, hrest.2.1,
            halfShift, hlast]
          exact ⟨rfl, rfl, hrest.2.2⟩

/-- The packet behind its headers, as it comes. -/
lemma tle_forward (hcs : IsStream cs) (hcount : r.chunkCount = 4) (hres : r.residue = false)
    (hshift : r.shift = false) :
    emits tleNext tleData r cs = cs ∧ emits tleNext tleSegLen r cs = [] ∧
      TleIdle (Clocked.run tleNext r cs) := by
  induction cs generalizing r with
  | nil => exact absurd hcs id
  | cons c cs ih =>
      have hlen : tleSegLen r c = [] := by simp [tleSegLen, tleChunk, hcount, hshift]
      cases hlast : c.tlast with
      | true =>
          obtain rfl := (isPacket_cons_of_last hlast).mp hcs
          refine ⟨?_, ?_, ?_⟩
          · simp [tleData, tleChunk, hcount, hshift, hlast, tlePending, hres]
          · rw [emits_cons, hlen]
            rfl
          · constructor <;> simp [tleNext, tleChunk, hcount, hshift, hlast]
      | false =>
          have hnext : tleNext r c = { r with prevChunk := c } := by
            simp [tleNext, tleChunk, hcount, hshift, hlast, hres]
          have hdata : tleData r c = [c] := by
            simp [tleData, tleChunk, hcount, hshift, hlast, tlePending, hres]
          have hrest := @ih { r with prevChunk := c } ((isPacket_cons_of_not_last hlast).mp hcs)
            hcount hres hshift
          rw [emits_cons, emits_cons, Clocked.run_cons, hnext, hdata, hlen, hrest.1, hrest.2.1]
          exact ⟨rfl, rfl, hrest.2.2⟩

/-- What is left of the IP header is skipped. `prevChunk` holds its next word, or the first one of
the segment. -/
lemma tle_options (n : ℕ) (hn : r.hdrLen.toNat = n) (hcs : WellFormed cs)
    (hcount : r.chunkCount = 3) (hres : r.residue = false) (hprev : r.prevChunk.isValid)
    (hplast : r.prevChunk.tlast = false) (hlen : 4 * n + 9 ≤ (streamBytes cs).length) :
    (WellFormed (emits tleNext tleData r cs) ∧
      streamBytes (emits tleNext tleData r cs)
        = (r.prevChunk.bytes.drop 4 ++ streamBytes cs).drop (4 * n)) ∧
      emits tleNext tleSegLen r cs = [] ∧ TleIdle (Clocked.run tleNext r cs) := by
  induction n using Nat.strong_induction_on generalizing r cs with
  | _ n ih =>
      obtain ⟨c, ds, rfl, hc, hlast, h8, hds, hsum⟩ := hcs.peel (by omega)
      have hhigh : (r.prevChunk.bytes.drop 4).length = 4 := by
        rw [List.length_drop, length_bytes_eq hprev hplast]
      rw [emits_cons, emits_cons, Clocked.run_cons]
      obtain rfl | rfl | hbig : n = 0 ∨ n = 1 ∨ 2 ≤ n := by omega
      · have hzero : r.hdrLen = 0 := BitVec.eq_of_toNat_eq hn
        have hnext : tleNext r c = { r with shift := true, chunkCount := 4, prevChunk := c } := by
          simp [tleNext, tleChunk, hcount, hzero, hres]
        have hdata : tleData r c = [joinHalves r.prevChunk c] := by
          simp [tleData, tleChunk, hcount, hzero, tlePending, hres]
        have hseg : tleSegLen r c = [] := by simp [tleSegLen, tleChunk, hcount, hzero]
        obtain ⟨hout, hseg', hidle⟩ := @tle_shift
          { r with shift := true, chunkCount := 4, prevChunk := c } ds hds.isStream rfl hres rfl
        have hshift : halfShift r.prevChunk (c :: ds)
            = joinHalves r.prevChunk c :: halfShift c ds := by
          rw [halfShift, hlast, if_neg Bool.false_ne_true]
        rw [hnext, hdata, hseg, hout, hseg', List.singleton_append, ← hshift]
        have hspec := halfShift_spec hprev hplast hcs
        exact ⟨⟨hspec.1, by rw [hspec.2, Nat.mul_zero, List.drop_zero]⟩, rfl, hidle⟩
      · have hone : r.hdrLen = 1 := BitVec.eq_of_toNat_eq hn
        have hnext : tleNext r c
            = { r with shift := false, hdrLen := 0, chunkCount := 4, prevChunk := c } := by
          simp [tleNext, tleChunk, hcount, hone, hres]
        have hdata : tleData r c = [c] := by
          simp [tleData, tleChunk, hcount, hone, tlePending, hres]
        have hseg : tleSegLen r c = [] := by simp [tleSegLen, tleChunk, hcount, hone]
        obtain ⟨hout, hseg', hidle⟩ := @tle_forward
          { r with shift := false, hdrLen := 0, chunkCount := 4, prevChunk := c } ds hds.isStream
          rfl hres rfl
        rw [hnext, hdata, hseg, hout, hseg']
        refine ⟨⟨hcs, ?_⟩, rfl, hidle⟩
        rw [List.drop_left' hhigh]
        rfl
      · have hge : 2 ≤ r.hdrLen := by
          rw [BitVec.le_def, hn]
          exact hbig
        have hne0 : r.hdrLen ≠ 0#4 := by
          rintro h
          rw [h] at hn
          exact absurd hbig (by rw [← hn]; decide)
        have hne1 : r.hdrLen ≠ 1#4 := by
          rintro h
          rw [h] at hn
          exact absurd hbig (by rw [← hn]; decide)
        have hnext : tleNext r c = { r with hdrLen := r.hdrLen - 2, prevChunk := c } := by
          simp [tleNext, tleChunk, hcount, hne0, hne1, hres]
        have hdata : tleData r c = [] := by
          simp [tleData, tleChunk, hcount, hne0, hne1, tlePending, hres]
        have hseg : tleSegLen r c = [] := by simp [tleSegLen, tleChunk, hcount, hne0, hne1]
        have hsub : (r.hdrLen - 2).toNat = n - 2 := by
          rw [BitVec.toNat_sub_of_le hge, hn]
          rfl
        obtain ⟨⟨hwf, hbytes⟩, hseg', hidle⟩ := @ih (n - 2) (by omega)
          { r with hdrLen := r.hdrLen - 2, prevChunk := c } ds hsub hds hcount hres hc hlast
          (by omega)
        rw [hnext, hdata, hseg, List.nil_append]
        refine ⟨⟨hwf, ?_⟩, hseg', hidle⟩
        have h4 : (c.bytes ++ streamBytes ds).drop 4 = c.bytes.drop 4 ++ streamBytes ds :=
          List.drop_append_of_le_length (by omega)
        rw [hbytes, streamBytes_cons, show 4 * n = 4 + (4 + 4 * (n - 2)) by omega,
          ← List.drop_drop, List.drop_left' hhigh, ← List.drop_drop, h4]

/-- **A packet**: its addresses and its segment are written, and the length of the segment. -/
theorem tle_packet (hcs : WellFormed cs) (hb : streamBytes cs = b)
    (hihl : 5 ≤ (ip4HdrLen b).toNat) (hlen : 4 * (ip4HdrLen b).toNat + 13 ≤ b.length)
    (hr : TleIdle r) :
    (WellFormed (emits tleNext tleData r cs) ∧
      streamBytes (emits tleNext tleData r cs) = ip4Addrs b ++ tcpSegment b) ∧
      emits tleNext tleSegLen r cs = [tcpSegLen b] ∧ TleIdle (Clocked.run tleNext r cs) := by
  subst hb
  obtain ⟨c0, cs, rfl, hc0, hl0, h80, hcs, hs0⟩ := hcs.peel (by omega)
  obtain ⟨c1, cs, rfl, hc1, hl1, h81, hcs, hs1⟩ := hcs.peel (by omega)
  obtain ⟨c2, cs, rfl, hc2, hl2, h82, hcs, hs2⟩ := hcs.peel (by omega)
  obtain ⟨hcount, hres⟩ := hr
  -- the fields of the first chunk
  have hdr : getIp4HdrLen c0 = ip4HdrLen (streamBytes (c0 :: c1 :: c2 :: cs)) := by
    rw [getIp4HdrLen, ip4HdrLen, byteAt_data hc0 (by omega), streamBytes_cons,
      byteAt_append (by omega)]
  have htotal : getIp4TotalLen c0 = ip4TotalLen (streamBytes (c0 :: c1 :: c2 :: cs)) := by
    rw [getIp4TotalLen, ip4TotalLen, be16_data hc0 (by omega), streamBytes_cons,
      be16_append (by omega)]
  generalize hihl' : ip4HdrLen (streamBytes (c0 :: c1 :: c2 :: cs)) = ihl at *
  generalize htot' : ip4TotalLen (streamBytes (c0 :: c1 :: c2 :: cs)) = tot at *
  -- the registers behind the third chunk
  have h3 : Clocked.run tleNext r [c0, c1, c2]
      = { r with
          hdrLen := ihl - 2 - 2 - 1
          totLen := tot
          ipDataLen := tot - ihl.setWidth 16 * 4
          chunkCount := 3
          prevChunk := c2 } := by
    simp [tleNext, tleChunk, hcount, hres, hdr, htotal]
  have hdata3 : emits tleNext tleData r [c0, c1, c2] = [joinHalves c1 c2] := by
    simp [tleNext, tleData, tleChunk, hcount, hres, tlePending]
  have hseg3 : emits tleNext tleSegLen r [c0, c1, c2] = [tot - ihl.setWidth 16 * 4] := by
    simp [tleNext, tleSegLen, tleChunk, hcount, hdr, htotal]
  have hihl5 : (ihl - 2 - 2 - 1).toNat = ihl.toNat - 5 := by
    have hlt := ihl.isLt
    have h2 : (2 : BitVec 4).toNat = 2 := rfl
    have h1 : (1 : BitVec 4).toNat = 1 := rfl
    rw [BitVec.toNat_sub, BitVec.toNat_sub, BitVec.toNat_sub, h2, h1]
    omega
  obtain ⟨⟨hwf, hbytes⟩, hseg, hidle⟩ := @tle_options
    { r with
      hdrLen := ihl - 2 - 2 - 1
      totLen := tot
      ipDataLen := tot - ihl.setWidth 16 * 4
      chunkCount := 3
      prevChunk := c2 } cs (ihl.toNat - 5) hihl5 hcs rfl hres hc2 hl2 (by omega)
  have hsplit : c0 :: c1 :: c2 :: cs = [c0, c1, c2] ++ cs := rfl
  rw [hsplit, emits_append, emits_append, Clocked.run_append, h3, hdata3, hseg3, hseg]
  obtain ⟨hvalid, hjlast, hjoin⟩ := joinHalves_full hc1 hl1 hc2 hl2
  refine ⟨⟨hwf.cons hvalid hjlast, ?_⟩, ?_, hidle⟩
  · rw [List.singleton_append, streamBytes_cons, hbytes, hjoin, ip4Addrs, tcpSegment, ← hsplit,
      hihl']
    have hd12 : (streamBytes (c0 :: c1 :: c2 :: cs)).drop 12
        = c1.bytes.drop 4 ++ (c2.bytes ++ streamBytes cs) := by
      rw [streamBytes_cons, streamBytes_cons, streamBytes_cons, show 12 = 8 + 4 by rfl,
        ← List.drop_drop, List.drop_left' h80, List.drop_append_of_le_length (by omega)]
    have hd20 : (streamBytes (c0 :: c1 :: c2 :: cs)).drop 20
        = c2.bytes.drop 4 ++ streamBytes cs := by
      rw [streamBytes_cons, streamBytes_cons, streamBytes_cons, show 20 = 8 + 8 + 4 by rfl,
        ← List.drop_drop, ← List.drop_drop, List.drop_left' h80, List.drop_left' h81,
        List.drop_append_of_le_length (by omega)]
    have hseg20 : 4 * ihl.toNat = 20 + 4 * (ihl.toNat - 5) := by omega
    rw [hd12, hseg20, ← List.drop_drop, hd20, List.take_append, List.take_append]
    simp [h81, h82]
  · rw [tcpSegLen, ← hsplit, hihl', htot']
    rfl

end Packet

end CloudFpga.Toe
