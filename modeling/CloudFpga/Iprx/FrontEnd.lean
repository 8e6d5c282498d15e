import CloudFpga.Iprx.ChecksumAccumulator
import CloudFpga.Nts.LateRouter

/-!
The first processes of the IP Rx engine: `pInputBuffer`, `pMacProtocolDetector` and
`pIpLengthChecker` of `iprx.cpp`.

A call that finds no chunk, or a full stream, does nothing. What a process writes without reading,
behind the last chunk of a frame, is written together with this chunk.

* `pInputBuffer`: a chunk that is not consistent ends its frame.
* `pMacProtocolDetector`: the frames for ARP and for IPv4 are told apart; `mpd_frame`.
* `ilcNext`, `ilcEmit`: packets that are too long are dropped; `ilc_frame`.
-/

namespace CloudFpga.Iprx

open Foundation Toe AxisRaw

/-- A chunk without a valid byte, which ends the frame. -/
def abortChunk (c : AxisEth) : AxisEth where
  lanes := c.lanes.map fun l => { l with keep := false }
  tlast := true
  length_lanes := by rw [List.length_map, c.length_lanes]

/-- `pInputBuffer`. -/
def pInputBuffer (c : AxisEth) : AxisEth := if c.isValid then c else abortChunk c

/-- The input buffer gives frames of valid chunks that may end with an empty one. -/
lemma framed_pInputBuffer {cs : List AxisEth} (h : IsStream (cs.map pInputBuffer)) :
    Framed (cs.map pInputBuffer) := by
  refine ⟨h, fun c hc => ?_⟩
  obtain ⟨d, -, rfl⟩ := List.mem_map.mp hc
  rw [pInputBuffer]
  split
  · next hvalid => exact .inl hvalid
  · refine .inr ⟨rfl, ?_, Nat.zero_le _⟩
    have hlen : (abortChunk d).lanes.length = 8 := length_lanes _
    rw [hlen, abortChunk, List.map_map]
    exact (List.map_const' ..).trans (by rw [d.length_lanes]; rfl)

/-- `ETH_ETHERTYPE_IP4`. -/
def ethertypeIp4 : EtherType := 0x0800

/-- `ETH_ETHERTYPE_ARP`. -/
def ethertypeArp : EtherType := 0x0806

/-! ### `pMacProtocolDetector` -/

inductive MpdPort where
  | arp | ilc
  deriving DecidableEq, Repr

/-- The frame is for another station. -/
def isForeign (macAddr : EthAddr) (currChunk : AxisEth) : Bool :=
  getEthDstAddr currChunk ≠ macAddr && getEthDstAddr currChunk ≠ 0xFFFFFFFFFFFF

/-- A chunk is forwarded by the type of its frame. -/
def mpdRoute (etherType : EtherType) (c : AxisEth) : List (MpdPort × AxisEth) :=
  if etherType = ethertypeArp then [(.arp, c)]
  else if etherType = ethertypeIp4 then [(.ilc, c)]
  else []

/-- `pMacProtocolDetector`. `CMD_DROP` and `CMD_KEEP` are stored as EtherTypes 1 and 0. -/
def pMacProtocolDetector (macAddr : EthAddr) : LateRouter EtherType (MpdPort × AxisEth) where
  first currChunk _ := if isForeign macAddr currChunk then 1 else 0
  second currChunk etherType := if etherType ≠ 1 then getEtherType currChunk else etherType
  route := mpdRoute
  last := id

/-- The type of a frame for this station: a frame of one chunk has none. -/
def frameType (macAddr : EthAddr) : List AxisEth → EtherType
  | c0 :: c1 :: _ => if isForeign macAddr c0 then 1 else getEtherType c1
  | _ => 0

/-- A frame is forwarded by its type. -/
theorem mpd_frame {macAddr : EthAddr} {r : LateRegs EtherType} {cs : List AxisEth}
    (hcs : IsStream cs) (hcount : r.chunkCount = 0) :
    emits (pMacProtocolDetector macAddr).next (pMacProtocolDetector macAddr).emit r cs =
        cs.flatMap (mpdRoute (frameType macAddr cs)) ∧
      (Clocked.run (pMacProtocolDetector macAddr).next r cs).chunkCount = 0 := by
  have hfinish : cs.map (pMacProtocolDetector macAddr).finish = cs :=
    (List.map_congr_left fun _ _ => ite_self _).trans (List.map_id cs)
  obtain ⟨hout, hidle⟩ := LateRouter.packet (L := pMacProtocolDetector macAddr) hcs hcount
  refine ⟨?_, hidle⟩
  rw [hout, LateRouter.routed, hfinish]
  cases cs with
  | nil => rfl
  | cons c0 cs =>
      cases cs with
      | nil =>
          -- neither 0 nor 1 is a type that is forwarded
          have hnone : mpdRoute (if isForeign macAddr c0 then 1 else 0) c0 = [] := by
            cases isForeign macAddr c0 with
            | true => rfl
            | false => rfl
          exact congrArg (· ++ []) hnone
      | cons c1 cs =>
          cases hforeign : isForeign macAddr c0 with
          | true => simp [LateRouter.packetKey, pMacProtocolDetector, hforeign, frameType]
          | false => simp [LateRouter.packetKey, pMacProtocolDetector, hforeign, frameType]

/-! ### `pIpLengthChecker` -/

/-- `MaxDatagramSize`. -/
def maxDatagramSize : Ip4TotalLen := 32768

inductive IlcFsmStates where
  | idle | sizecheck | stream
  deriving DecidableEq, Repr

/-- The registers. `chunk0` and `chunk1` are the shift register, `chunk1` the older chunk. -/
structure IlcRegs where
  ilcFsmState : IlcFsmStates := .idle
  chunkCount : ℕ := 0
  filterPacket : Bool := false
  chunk0 : AxisEth := zero
  chunk1 : AxisEth := zero
  deriving DecidableEq

section Ilc

variable (r : IlcRegs) (currChunk : AxisEth)

/-- `chunkBuffer.shift`. -/
def IlcRegs.shift : IlcRegs := { r with chunk0 := currChunk, chunk1 := r.chunk0 }

/-- The chunk that leaves the shift register. -/
def ilcWrite (r : IlcRegs) : List AxisEth := if r.filterPacket then [] else [r.chunk1]

/-- The `switch` on `ilc_fsmState`. -/
def ilcSwitch : IlcRegs × List AxisEth :=
  match r.ilcFsmState with
  | .idle =>
      ({ r.shift currChunk with
          ilcFsmState := if r.chunkCount = 1 then .sizecheck else .idle
          chunkCount := r.chunkCount + 1 }, [])
  | .sizecheck =>
      let r := { r with filterPacket := getIp4TotalLen currChunk > maxDatagramSize }
      ({ r.shift currChunk with ilcFsmState := .stream }, ilcWrite r)
  | .stream => (r.shift currChunk, ilcWrite r)

/-- Behind the last chunk the shift register is emptied, `ilc_leftToWrite`. -/
def ilcNext : IlcRegs :=
  let r := (ilcSwitch r currChunk).1
  if currChunk.tlast then
    (({ r with chunkCount := 0, ilcFsmState := .idle } : IlcRegs).shift zero).shift zero
  else r

def ilcEmit : List AxisEth :=
  (ilcSwitch r currChunk).2 ++
    if currChunk.tlast then
      ilcWrite (ilcSwitch r currChunk).1 ++ ilcWrite ((ilcSwitch r currChunk).1.shift zero)
    else []

end Ilc

/-- Between two frames. -/
structure IlcIdle (r : IlcRegs) : Prop where
  ilcFsmState : r.ilcFsmState = .idle
  chunkCount : r.chunkCount = 0

/-- The packet of a frame is too long. -/
def TooLong (cs : List AxisEth) : Prop := getIp4TotalLen (cs.getD 2 zero) > maxDatagramSize

instance (cs : List AxisEth) : Decidable (TooLong cs) := inferInstanceAs (Decidable (_ < _))

/-- A frame is dropped: for one of two chunks, what the frame before it has left decides. -/
def filtered (filterPacket : Bool) (cs : List AxisEth) : Bool :=
  if 3 ≤ cs.length then TooLong cs else filterPacket

section IlcFrame

variable {r : IlcRegs} {c : AxisEth} {cs : List AxisEth}

/-- With the last chunk of a frame the shift register is emptied. -/
lemma ilc_last (hlast : c.tlast = true) :
    ilcEmit r c = (ilcSwitch r c).2 ++ (if (ilcSwitch r c).1.filterPacket then []
        else [(ilcSwitch r c).1.chunk1, (ilcSwitch r c).1.chunk0]) ∧
      IlcIdle (ilcNext r c) ∧ (ilcNext r c).filterPacket = (ilcSwitch r c).1.filterPacket := by
  refine ⟨?_, ?_, ?_⟩
  · rw [ilcEmit, if_pos hlast, ilcWrite, ilcWrite]
    cases hfilter : (ilcSwitch r c).1.filterPacket with
    | true => simp [IlcRegs.shift, hfilter]
    | false => simp [IlcRegs.shift, hfilter]
  · rw [ilcNext, if_pos hlast]
    exact ⟨rfl, rfl⟩
  · rw [ilcNext, if_pos hlast]
    rfl

lemma ilc_next (hlast : c.tlast = false) :
    ilcNext r c = (ilcSwitch r c).1 ∧ ilcEmit r c = (ilcSwitch r c).2 := by
  rw [ilcNext, ilcEmit, hlast]
  exact ⟨rfl, List.append_nil _⟩

/-- The rest of a frame, with what is in the shift register. -/
lemma ilc_stream (hcs : IsStream cs) (hst : r.ilcFsmState = .stream) :
    emits ilcNext ilcEmit r cs = (if r.filterPacket then [] else r.chunk1 :: r.chunk0 :: cs) ∧
      IlcIdle (Clocked.run ilcNext r cs) ∧
      (Clocked.run ilcNext r cs).filterPacket = r.filterPacket := by
  induction cs generalizing r with
  | nil => exact absurd hcs id
  | cons c cs ih =>
      have hswitch : ilcSwitch r c = (r.shift c, ilcWrite r) := by rw [ilcSwitch, hst]
      cases hlast : c.tlast with
      | true =>
          obtain rfl := (isPacket_cons_of_last hlast).mp hcs
          obtain ⟨hemit, hidle, hfilter⟩ := ilc_last (r := r) hlast
          rw [hswitch] at hemit hfilter
          refine ⟨?_, hidle, hfilter⟩
          rw [emits_cons, emits_nil, hemit]
          cases hf : r.filterPacket with
          | true => simp [ilcWrite, IlcRegs.shift, hf]
          | false => simp [ilcWrite, IlcRegs.shift, hf]
      | false =>
          obtain ⟨hnext, hemit⟩ := ilc_next (r := r) hlast
          rw [hswitch] at hnext hemit
          obtain ⟨hout, hidle, hfilter⟩ := ih (r := ilcNext r c)
            ((isPacket_cons_of_not_last hlast).mp hcs) (by rw [hnext]; exact hst)
          refine ⟨?_, hidle, ?_⟩
          · rw [emits_cons, hout, hemit, hnext]
            cases hf : r.filterPacket with
            | true => simp [ilcWrite, IlcRegs.shift, hf]
            | false => simp [ilcWrite, IlcRegs.shift, hf]
          · rw [Clocked.run_cons, hfilter, hnext]
            rfl

/-- A frame of two chunks or more. -/
theorem ilc_frame (hcs : IsStream cs) (hr : IlcIdle r) (hlen : 2 ≤ cs.length) :
    emits ilcNext ilcEmit r cs = (if filtered r.filterPacket cs then [] else cs) ∧
      IlcIdle (Clocked.run ilcNext r cs) ∧
      (Clocked.run ilcNext r cs).filterPacket = filtered r.filterPacket cs := by
  obtain ⟨c0, c1, rest, rfl⟩ : ∃ c0 c1 rest, cs = c0 :: c1 :: rest :=
    match cs, hlen with
    | c0 :: c1 :: rest, _ => ⟨c0, c1, rest, rfl⟩
  obtain ⟨hl0, hs1⟩ := isStream_not_last hcs
  have hswitch0 : ilcSwitch r c0 =
      ({ r with ilcFsmState := .idle, chunkCount := 1, chunk0 := c0, chunk1 := r.chunk0 }, []) := by
    simp [ilcSwitch, hr.ilcFsmState, hr.chunkCount, IlcRegs.shift]
  obtain ⟨hnext0, hemit0⟩ := ilc_next (r := r) hl0
  rw [hswitch0] at hnext0 hemit0
  have hswitch1 : ilcSwitch (ilcNext r c0) c1 =
      ({ r with ilcFsmState := .sizecheck, chunkCount := 2, chunk0 := c1, chunk1 := c0 }, []) := by
    rw [hnext0]
    simp [ilcSwitch, IlcRegs.shift]
  rw [emits_cons, hemit0, List.nil_append, emits_cons, Clocked.run_cons, Clocked.run_cons]
  cases hl1 : c1.tlast with
  | true =>
      -- the length is not checked
      obtain rfl := (isPacket_cons_of_last hl1).mp hs1
      obtain ⟨hemit1, hidle, hfilter⟩ := ilc_last (r := ilcNext r c0) hl1
      rw [hswitch1] at hemit1 hfilter
      exact ⟨by rw [hemit1]; exact List.append_nil _, hidle, hfilter⟩
  | false =>
      obtain ⟨hnext1, hemit1⟩ := ilc_next (r := ilcNext r c0) hl1
      rw [hswitch1] at hnext1 hemit1
      have hs2 := (isPacket_cons_of_not_last hl1).mp hs1
      cases rest with
      | nil => exact absurd hs2 id
      | cons c2 rest =>
          have hfiltered : filtered r.filterPacket (c0 :: c1 :: c2 :: rest) =
              decide (getIp4TotalLen c2 > maxDatagramSize) := if_pos (Nat.le_add_left 3 _)
          have hswitch2 : ilcSwitch (ilcNext (ilcNext r c0) c1) c2 =
              ({ r with
                  ilcFsmState := .stream, chunkCount := 2
                  filterPacket := getIp4TotalLen c2 > maxDatagramSize
                  chunk0 := c2, chunk1 := c1 },
                if getIp4TotalLen c2 > maxDatagramSize then [] else [c0]) := by
            rw [hnext1]
            simp [ilcSwitch, IlcRegs.shift, ilcWrite]
          rw [hemit1, List.nil_append, emits_cons, Clocked.run_cons, hfiltered]
          cases hl2 : c2.tlast with
          | true =>
              obtain rfl := (isPacket_cons_of_last hl2).mp hs2
              obtain ⟨hemit2, hidle, hfilter⟩ := ilc_last (r := ilcNext (ilcNext r c0) c1) hl2
              rw [hswitch2] at hemit2 hfilter
              refine ⟨?_, hidle, hfilter⟩
              rw [hemit2]
              by_cases hlong : getIp4TotalLen c2 > maxDatagramSize
              · simp [hlong]
              · simp [hlong]
          | false =>
              obtain ⟨hnext2, hemit2⟩ := ilc_next (r := ilcNext (ilcNext r c0) c1) hl2
              rw [hswitch2] at hnext2 hemit2
              obtain ⟨hout, hidle, hfilter⟩ := ilc_stream
                (r := ilcNext (ilcNext (ilcNext r c0) c1) c2)
                ((isPacket_cons_of_not_last hl2).mp hs2) (by rw [hnext2])
              rw [hnext2] at hout hfilter
              refine ⟨?_, hidle, ?_⟩
              · rw [hemit2, hnext2, hout]
                by_cases hlong : getIp4TotalLen c2 > maxDatagramSize
                · simp [hlong]
                · simp [hlong]
              · rw [hnext2]
                exact hfilter

end IlcFrame

end CloudFpga.Iprx
