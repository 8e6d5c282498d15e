import CloudFpga.Toe.RxEngine.TcpLengthExtractor

/-!
The second process of the Rx engine, `pInsertPseudoHeader` of `rx_engine.cpp`: the rest of the
pseudo header is inserted between the addresses and the segment.

* `iphChunk`: what a chunk does to the registers, and what is written for it.
* `pInsertPseudoHeader`: one call of the process, `iphCycle`: a cycle of both processes.
* `iphNext`, `iphData`: the chunks as the input of a machine, which holds the lengths that are
  still to be read.
* `iph_packet`: the pseudo packet is written.
-/

namespace CloudFpga.Toe

open Foundation AxisRaw

structure IphRegs where
  residue : Bool := false
  chunkCount : ℕ := 0
  prevChunk : AxisRaw
  deriving DecidableEq

/-- `[ DP | SP | Segment Len | 0x06 | 0x00 ]`, with the ports of the chunk. -/
def psdChunk (tcpSegLen : TcpSegLen) (currChunk : AxisRaw) : AxisPsd4 :=
  ofBytes ([0x00, 0x06] ++ bytes16 tcpSegLen ++ currChunk.data.take 4) false
    (by simp [bytes16, currChunk.length_data])

/-- The registers when a chunk was read. -/
def iphRead (r : IphRegs) (currChunk : AxisRaw) : IphRegs :=
  if currChunk.tlast then
    { prevChunk := currChunk, chunkCount := 0, residue := !fits 4 currChunk }
  else { r with prevChunk := currChunk }

/-- What the process does with a chunk. -/
def iphChunk (r : IphRegs) (tcpSegLen : TcpSegLen) (currChunk : AxisRaw) :
    IphRegs × List AxisPsd4 :=
  match r.chunkCount with
  | 0 => (iphRead { r with chunkCount := 1 } currChunk, [currChunk])
  | 1 => (iphRead { r with chunkCount := 2 } currChunk, [psdChunk tcpSegLen currChunk])
  | _ => (iphRead r currChunk, [joinHalves r.prevChunk currChunk])

/-- The process with its streams, and the process in front of it. -/
structure IphState where
  tle : TleState
  regs : IphRegs
  soCsaPseudoPkt : List AxisPsd4 := []
  deriving DecidableEq

/-- What a cycle offers: what has arrived, which outputs are full, and what a local variable holds
that is not set. -/
structure IphCycle where
  tle : TleCycle
  tleData : Bool
  pseudoPktFull : Bool
  unset : AxisRaw
  deriving DecidableEq

/-- One call of the process. A length was written before the chunk with which it is read, and has
arrived if the chunk has; without it the chunk is not read, and a local variable is taken for it. -/
def pInsertPseudoHeader (s : IphState) (k : IphCycle) : IphState :=
  if s.regs.residue then
    { s with
      regs := { s.regs with residue := false }
      soCsaPseudoPkt := s.soCsaPseudoPkt ++ [restHalf s.regs.prevChunk] }
  else
    match s.tle.soIphData with
    | currChunk :: cs =>
        if k.tleData ∧ ¬k.pseudoPktFull then
          if s.regs.chunkCount = 1 then
            match s.tle.soIphTcpSegLen with
            | tcpSegLen :: ls =>
                let out := iphChunk s.regs tcpSegLen currChunk
                { s with
                  tle := { s.tle with soIphData := cs, soIphTcpSegLen := ls }
                  regs := out.1
                  soCsaPseudoPkt := s.soCsaPseudoPkt ++ out.2 }
            | [] => { s with regs := iphRead s.regs k.unset }
          else
            let out := iphChunk s.regs 0 currChunk
            { s with
              tle := { s.tle with soIphData := cs }
              regs := out.1
              soCsaPseudoPkt := s.soCsaPseudoPkt ++ out.2 }
        else s
    | [] => s

/-- A cycle of both processes. -/
def iphCycle (s : IphState) (k : IphCycle) : IphState :=
  pInsertPseudoHeader { s with tle := pTcpLengthExtractor s.tle k.tle } k

/-! ### Packets -/

/-- The residue that is still to be written. -/
def iphPending (r : IphRegs) : List AxisPsd4 :=
  if r.residue then [restHalf r.prevChunk] else []

def iphNext (r : IphRegs × List TcpSegLen) (c : AxisRaw) : IphRegs × List TcpSegLen :=
  ({ (iphChunk r.1 (r.2.headD 0) c).1 with residue := false },
    if r.1.chunkCount = 1 then r.2.tail else r.2)

def iphData (r : IphRegs × List TcpSegLen) (c : AxisRaw) : List AxisPsd4 :=
  (iphChunk r.1 (r.2.headD 0) c).2 ++ iphPending (iphChunk r.1 (r.2.headD 0) c).1

/-- Between two packets. -/
structure IphIdle (r : IphRegs) : Prop where
  chunkCount : r.chunkCount = 0
  residue : r.residue = false

section Packet

variable {r : IphRegs} {l : TcpSegLen} {ls : List TcpSegLen} {c : AxisRaw} {cs : List AxisRaw}

/-- The segment behind its ports, shifted by half a chunk. -/
lemma iph_shift (hcs : IsStream cs) (hcount : r.chunkCount = 2) (hres : r.residue = false) :
    emits iphNext iphData (r, ls) cs = halfShift r.prevChunk cs ∧
      IphIdle (Clocked.run iphNext (r, ls) cs).1 ∧ (Clocked.run iphNext (r, ls) cs).2 = ls := by
  induction cs generalizing r with
  | nil => exact absurd hcs id
  | cons c cs ih =>
      cases hlast : c.tlast with
      | true =>
          obtain rfl := (isPacket_cons_of_last hlast).mp hcs
          refine ⟨?_, ?_, ?_⟩
          · cases hfit : fits 4 c <;>
              simp [iphData, iphChunk, hcount, iphRead, hlast, iphPending, halfShift, hfit]
          · constructor <;> simp [iphNext, iphChunk, hcount, iphRead, hlast]
          · simp [iphNext, hcount]
      | false =>
          have hnext : iphNext (r, ls) c = ({ r with prevChunk := c }, ls) := by
            simp [iphNext, iphChunk, hcount, iphRead, hlast, hres]
          have hdata : iphData (r, ls) c = [joinHalves r.prevChunk c] := by
            simp [iphData, iphChunk, hcount, iphRead, hlast, iphPending, hres]
          have hrest := @ih { r with prevChunk := c } ((isPacket_cons_of_not_last hlast).mp hcs)
            hcount hres
          rw [emits_cons, Clocked.run_cons, hnext, hdata, hrest.1, halfShift, hlast]
          exact ⟨rfl, hrest.2⟩

lemma psdChunk_spec (hc : c.isValid) (h8 : c.bytes.length = 8) :
    (psdChunk l c).isValid ∧ (psdChunk l c).tlast = false ∧
      (psdChunk l c).bytes = [0x00, 0x06] ++ bytes16 l ++ c.bytes.take 4 := by
  refine ⟨isValid_ofBytes, rfl, ?_⟩
  rw [psdChunk, bytes_ofBytes, data_eq_bytes hc h8]

/-- **A packet**: the pseudo packet is written. -/
theorem iph_packet (hcs : WellFormed cs) (hlen : 16 < (streamBytes cs).length) (hr : IphIdle r) :
    (WellFormed (emits iphNext iphData (r, l :: ls) cs) ∧
      streamBytes (emits iphNext iphData (r, l :: ls) cs)
        = (streamBytes cs).take 8 ++ ([0x00, 0x06] ++ bytes16 l ++ (streamBytes cs).drop 8)) ∧
      IphIdle (Clocked.run iphNext (r, l :: ls) cs).1 ∧
      (Clocked.run iphNext (r, l :: ls) cs).2 = ls := by
  obtain ⟨c0, cs, rfl, hc0, hl0, h80, hcs, hs0⟩ := hcs.peel (by omega)
  obtain ⟨c1, cs, rfl, hc1, hl1, h81, hcs, hs1⟩ := hcs.peel (by omega)
  obtain ⟨hcount, hres⟩ := hr
  have h2 : Clocked.run iphNext (r, l :: ls) [c0, c1]
      = ({ r with chunkCount := 2, prevChunk := c1 }, ls) := by
    simp [iphNext, iphChunk, hcount, iphRead, hl0, hl1, hres]
  have hdata2 : emits iphNext iphData (r, l :: ls) [c0, c1] = [c0, psdChunk l c1] := by
    simp [iphNext, iphData, iphChunk, hcount, iphRead, hl0, hl1, hres, iphPending]
  obtain ⟨hout, hidle, hls⟩ :=
    @iph_shift { r with chunkCount := 2, prevChunk := c1 } ls cs hcs.isStream rfl hres
  obtain ⟨hwf, hbytes⟩ := halfShift_spec hc1 hl1 hcs
  obtain ⟨hvalid, hplast, hpsd⟩ := @psdChunk_spec l c1 hc1 h81
  have hsplit : c0 :: c1 :: cs = [c0, c1] ++ cs := rfl
  rw [hsplit, emits_append, Clocked.run_append, h2, hdata2, hout]
  refine ⟨⟨(hwf.cons hvalid hplast).cons hc0 hl0, ?_⟩, hidle, hls⟩
  have hcut : c1.bytes.take 4 ++ c1.bytes.drop 4 = c1.bytes := List.take_append_drop 4 _
  rw [← hsplit, streamBytes_cons c0 (c1 :: cs), streamBytes_cons c1 cs, List.take_left' h80,
    List.drop_left' h80, List.cons_append, List.singleton_append, streamBytes_cons,
    streamBytes_cons, hpsd, hbytes]
  conv_rhs => rw [← hcut]
  simp only [List.append_assoc]

end Packet

end CloudFpga.Toe
