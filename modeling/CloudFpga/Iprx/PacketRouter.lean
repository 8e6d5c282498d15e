import CloudFpga.Iprx.FrontEnd
import CloudFpga.Nts.AxisHalves

/-!
The last processes of the IP Rx engine: `pIpCutLength` and `pIpPacketRouter` of `iprx.cpp`.

* `iclNext`, `iclEmit`: a packet is cut at its total length; `icl_packet`, `cut_spec`.
* `pIpPacketRouter`: a packet goes to an engine by its TTL and its protocol; `ipr_packet`.
-/

namespace CloudFpga.Iprx

open Foundation Toe AxisRaw Uoe

/-! ### `pIpCutLength` -/

/-- `lenToLE_tKeep`: the number of the low bits that are set. -/
def lenToKeep (noValidBytes : BitVec 4) : ℕ :=
  if noValidBytes.toNat ≤ 8 then noValidBytes.toNat else 0

inductive IclFsmStates where
  | fwd | drop
  deriving DecidableEq, Repr

structure IclRegs where
  iclFsmState : IclFsmStates := .fwd
  chunkCount : ℕ := 0
  ip4TotalLength : Ip4TotalLen
  deriving DecidableEq

/-- The last chunk of a packet of `totLen` bytes, behind `count` chunks. -/
def cutChunk (totLen : Ip4TotalLen) (count : ℕ) (c : AxisIp4) : AxisIp4 :=
  let leftLength : BitVec 4 := (totLen - BitVec.ofNat 16 (count * 8)).setWidth 4
  c.setTLast.setTKeepLen (lenToKeep leftLength)

section Icl

variable (r : IclRegs) (currChunk : AxisIp4)

/-- `FSM_FWD`: the registers without the count, and the chunk that is written. -/
def iclFwd : IclRegs × AxisIp4 :=
  match r.chunkCount with
  | 0 => ({ r with ip4TotalLength := Toe.getIp4TotalLen currChunk }, currChunk)
  | n + 1 =>
      if (n + 1 + 1) * 8 ≥ r.ip4TotalLength.toNat then
        ({ r with iclFsmState := if currChunk.tlast then .fwd else .drop },
          cutChunk r.ip4TotalLength (n + 1) currChunk)
      else (r, currChunk)

def iclNext : IclRegs :=
  match r.iclFsmState with
  | .fwd =>
      let out := iclFwd r currChunk
      { out.1 with chunkCount := if out.2.tlast then 0 else r.chunkCount + 1 }
  | .drop => { r with iclFsmState := if currChunk.tlast then .fwd else .drop }

def iclEmit : List AxisIp4 :=
  match r.iclFsmState with
  | .fwd => [(iclFwd r currChunk).2]
  | .drop => []

end Icl

/-- Between two packets. -/
structure IclIdle (r : IclRegs) : Prop where
  iclFsmState : r.iclFsmState = .fwd
  chunkCount : r.chunkCount = 0

/-- What is left of a packet of `totLen` bytes behind `count` chunks. -/
def cut (totLen : Ip4TotalLen) : ℕ → List AxisIp4 → List AxisIp4
  | _, [] => []
  | count, c :: cs =>
      if (count + 1) * 8 ≥ totLen.toNat then [cutChunk totLen count c]
      else c :: cut totLen (count + 1) cs

section IclPacket

variable {r : IclRegs} {c : AxisIp4} {cs : List AxisIp4} {totLen : Ip4TotalLen} {count : ℕ}

/-- What is behind the total length is dropped. -/
lemma icl_drop (hcs : IsStream cs) (hst : r.iclFsmState = .drop) (hcount : r.chunkCount = 0) :
    emits iclNext iclEmit r cs = [] ∧ IclIdle (Clocked.run iclNext r cs) := by
  induction cs generalizing r with
  | nil => exact absurd hcs id
  | cons c cs ih =>
      have hemit : iclEmit r c = [] := by rw [iclEmit, hst]
      have hnext : iclNext r c = { r with iclFsmState := if c.tlast then .fwd else .drop } := by
        rw [iclNext, hst]
      cases hlast : c.tlast with
      | true =>
          obtain rfl := (isPacket_cons_of_last hlast).mp hcs
          rw [hlast, if_pos rfl] at hnext
          rw [emits_cons, emits_nil, hemit, Clocked.run_cons, Clocked.run_nil, hnext]
          exact ⟨rfl, rfl, hcount⟩
      | false =>
          rw [hlast, if_neg Bool.false_ne_true] at hnext
          obtain ⟨hout, hidle⟩ := ih (r := iclNext r c) ((isPacket_cons_of_not_last hlast).mp hcs)
            (by rw [hnext]) (by rw [hnext]; exact hcount)
          exact ⟨by rw [emits_cons, hemit, hout]; rfl, hidle⟩

/-- The rest of a packet is cut. -/
lemma icl_rest (hcs : IsStream cs) (hst : r.iclFsmState = .fwd) (hcount : 1 ≤ r.chunkCount) :
    emits iclNext iclEmit r cs = cut r.ip4TotalLength r.chunkCount cs ∧
      IclIdle (Clocked.run iclNext r cs) := by
  induction cs generalizing r with
  | nil => exact absurd hcs id
  | cons c cs ih =>
      obtain ⟨n, hn⟩ := Nat.exists_eq_add_of_le' hcount
      rw [emits_cons, Clocked.run_cons, cut]
      by_cases hcut : (r.chunkCount + 1) * 8 ≥ r.ip4TotalLength.toNat
      · have hfwd : iclFwd r c =
            ({ r with iclFsmState := if c.tlast then .fwd else .drop },
              cutChunk r.ip4TotalLength r.chunkCount c) := by
          rw [iclFwd.eq_def, hn]
          rw [hn] at hcut
          exact if_pos hcut
        have hnext : iclNext r c =
            { r with iclFsmState := if c.tlast then .fwd else .drop, chunkCount := 0 } := by
          rw [iclNext, hst]
          dsimp only
          rw [hfwd]
          rfl
        have hemit : iclEmit r c = [cutChunk r.ip4TotalLength r.chunkCount c] := by
          rw [iclEmit, hst]
          dsimp only
          rw [hfwd]
        rw [if_pos hcut, hemit]
        cases hlast : c.tlast with
        | true =>
            obtain rfl := (isPacket_cons_of_last hlast).mp hcs
            rw [hlast, if_pos rfl] at hnext
            rw [emits_nil, Clocked.run_nil, hnext]
            exact ⟨rfl, rfl, rfl⟩
        | false =>
            rw [hlast, if_neg Bool.false_ne_true] at hnext
            obtain ⟨hout, hidle⟩ := icl_drop (r := iclNext r c)
              ((isPacket_cons_of_not_last hlast).mp hcs) (by rw [hnext]) (by rw [hnext])
            exact ⟨by rw [hout]; rfl, hidle⟩
      · have hfwd : iclFwd r c = (r, c) := by
          rw [iclFwd.eq_def, hn]
          rw [hn] at hcut
          exact if_neg hcut
        have hnext :
            iclNext r c = { r with chunkCount := if c.tlast then 0 else r.chunkCount + 1 } := by
          rw [iclNext, hst]
          dsimp only
          rw [hfwd, hst]
        have hemit : iclEmit r c = [c] := by
          rw [iclEmit, hst]
          dsimp only
          rw [hfwd]
        rw [if_neg hcut, hemit]
        cases hlast : c.tlast with
        | true =>
            obtain rfl := (isPacket_cons_of_last hlast).mp hcs
            rw [hlast, if_pos rfl] at hnext
            rw [emits_nil, Clocked.run_nil, hnext]
            exact ⟨rfl, hst, rfl⟩
        | false =>
            rw [hlast, if_neg Bool.false_ne_true] at hnext
            obtain ⟨hout, hidle⟩ := ih (r := iclNext r c)
              ((isPacket_cons_of_not_last hlast).mp hcs) (by rw [hnext]; exact hst)
              (by rw [hnext]; exact Nat.le_add_left 1 _)
            refine ⟨?_, hidle⟩
            rw [hout, hnext]
            rfl

/-- **A packet** of more than one chunk is cut at its total length. -/
theorem icl_packet (hcs : IsStream (c :: cs)) (hc : c.tlast = false) (hr : IclIdle r) :
    emits iclNext iclEmit r (c :: cs) = c :: cut (Toe.getIp4TotalLen c) 1 cs ∧
      IclIdle (Clocked.run iclNext r (c :: cs)) := by
  have hfwd : iclFwd r c = ({ r with ip4TotalLength := Toe.getIp4TotalLen c }, c) := by
    rw [iclFwd.eq_def, hr.chunkCount]
  have hnext : iclNext r c =
      { r with ip4TotalLength := Toe.getIp4TotalLen c, chunkCount := 1 } := by
    rw [iclNext, hr.iclFsmState]
    dsimp only
    rw [hfwd, hc, hr.chunkCount, hr.iclFsmState]
    rfl
  have hemit : iclEmit r c = [c] := by
    rw [iclEmit, hr.iclFsmState]
    dsimp only
    rw [hfwd]
  obtain ⟨hout, hidle⟩ := icl_rest (r := iclNext r c) ((isPacket_cons_of_not_last hc).mp hcs)
    (by rw [hnext]; exact hr.iclFsmState) (by rw [hnext])
  refine ⟨?_, hidle⟩
  rw [emits_cons, hemit, hout, hnext]
  rfl

/-- A cut stream is a stream. -/
lemma isStream_cut (hcs : IsStream cs) : IsStream (cut totLen count cs) := by
  induction cs generalizing count with
  | nil => exact absurd hcs id
  | cons c cs ih =>
      rw [cut]
      split
      · exact (isPacket_cons_of_last rfl).mpr rfl
      · cases hlast : c.tlast with
        | true =>
            obtain rfl := (isPacket_cons_of_last hlast).mp hcs
            exact (isPacket_cons_of_last hlast).mpr rfl
        | false =>
            exact (isPacket_cons_of_not_last hlast).mpr
              (ih ((isPacket_cons_of_not_last hlast).mp hcs))

/-- The last chunk of a packet is cut to the bytes that are left. -/
lemma cutChunk_spec {n : ℕ} (hc : c.isValid) (hlen : totLen.toNat = count * 8 + n) (h1 : 1 ≤ n)
    (h8 : n ≤ 8) (hn : n ≤ c.bytes.length) :
    (cutChunk totLen count c).isValid ∧ (cutChunk totLen count c).bytes = c.bytes.take n := by
  have hlt := totLen.isLt
  have hleft : ((totLen - BitVec.ofNat 16 (count * 8)).setWidth 4 : BitVec 4).toNat = n := by
    have hle : BitVec.ofNat 16 (count * 8) ≤ totLen := by
      rw [BitVec.le_def, BitVec.toNat_ofNat]
      omega
    rw [BitVec.toNat_setWidth, BitVec.toNat_sub_of_le hle, BitVec.toNat_ofNat]
    omega
  have hkeep : cutChunk totLen count c = c.setTLast.setTKeepLen n := by
    rw [cutChunk, lenToKeep, hleft, if_pos h8]
  have hmask : Mask (c.setTLast.setTKeepLen n).lanes n := by
    rw [Mask, length_lanes]
    exact ⟨mask_setTKeepLen h8, h8⟩
  rw [hkeep]
  exact ⟨isValid_of_mask hmask h1 fun h => Bool.noConfusion h, bytes_setTKeepLen (c := c) hc hn⟩

/-- **A cut** of a well-formed stream keeps its first bytes. -/
theorem cut_spec (hcs : WellFormed cs) (hlen : count * 8 < totLen.toNat)
    (hle : totLen.toNat ≤ count * 8 + (streamBytes cs).length) :
    WellFormed (cut totLen count cs) ∧
      streamBytes (cut totLen count cs) = (streamBytes cs).take (totLen.toNat - count * 8) := by
  induction cs generalizing count with
  | nil => exact absurd hcs.isStream id
  | cons c cs ih =>
      have hc8 := c.length_bytes_le
      rw [streamBytes_cons, List.length_append] at hle
      rw [cut]
      split
      · next hcut =>
          -- the total length is in this chunk
          have hn : totLen.toNat - count * 8 ≤ c.bytes.length := by
            cases hlast : c.tlast with
            | true =>
                obtain rfl := hcs.tail_eq_nil hlast
                rw [streamBytes_nil, List.length_nil] at hle
                omega
            | false =>
                have h8 := length_bytes_eq hcs.head hlast
                omega
          obtain ⟨hvalid, hbytes⟩ : (cutChunk totLen count c).isValid ∧ _ :=
            cutChunk_spec hcs.head (by omega) (by omega) (by omega) hn
          refine ⟨.singleton hvalid rfl, ?_⟩
          rw [streamBytes_cons, streamBytes_nil, List.append_nil, hbytes, streamBytes_cons,
            List.take_append_of_le_length hn]
      · next hcut =>
          have hlast : c.tlast = false := by
            by_contra hlast
            rw [Bool.not_eq_false] at hlast
            obtain rfl := hcs.tail_eq_nil hlast
            rw [streamBytes_nil, List.length_nil] at hle
            rw [Nat.add_mul, Nat.one_mul] at hcut
            omega
          have h8 := length_bytes_eq hcs.head hlast
          obtain ⟨hwf, hbytes⟩ : WellFormed (cut totLen (count + 1) cs) ∧ _ :=
            ih (hcs.tail hlast) (by omega) (by omega)
          have hleft : totLen.toNat - (count + 1) * 8 = totLen.toNat - count * 8 - 8 := by
            rw [Nat.add_mul, Nat.one_mul, Nat.sub_add_eq]
          refine ⟨.cons hcs.head hlast hwf, ?_⟩
          rw [streamBytes_cons, hbytes, streamBytes_cons, List.take_append, h8, hleft,
            List.take_of_length_le (l := c.bytes) (by omega)]

end IclPacket

/-! ### `pIpPacketRouter` -/

inductive IprPort where
  | icmpDerr | icmp | uoe | toe
  deriving DecidableEq, Repr

/-- What the router keeps of a header. -/
structure IprKey where
  ttlExpired : Bool
  ipProtocol : Ip4Prot
  deriving DecidableEq

/-- `tdata.range(7, 0)`. -/
def getIp4TtL (c : AxisIp4) : Byte := byteAt c.data 0

/-- The port of a packet, none if its protocol is not known. -/
def iprPort (key : IprKey) : Option IprPort :=
  if key.ttlExpired then some .icmpDerr
  else if key.ipProtocol = 1 then some .icmp
  else if key.ipProtocol = 17 then some .uoe
  else if key.ipProtocol = 6 then some .toe
  else none

/-- The bytes of a last chunk behind its length are set to zero. -/
def clearBehind (c : AxisIp4) : AxisIp4 where
  lanes :=
    if c.lanes.map (·.keep) ≠ List.replicate 8 true then
      c.lanes.mapIdx fun i l => if i < c.getLen then l else { l with data := 0 }
    else c.lanes
  tlast := c.tlast
  length_lanes := by
    split
    · rw [List.length_mapIdx, c.length_lanes]
    · exact c.length_lanes

/-- `pIpPacketRouter`. -/
def pIpPacketRouter : LateRouter IprKey (IprPort × AxisIp4) where
  first _ key := key
  second currChunk _ := ⟨getIp4TtL currChunk = 1, getIp4Prot currChunk⟩
  route key c := (iprPort key).toList.map fun p => (p, c)
  last := clearBehind

/-- What is sent to a port. -/
def sentTo (p : IprPort) (out : List (IprPort × AxisIp4)) : List AxisIp4 :=
  out.filterMap fun x => if x.1 = p then some x.2 else none

section Ipr

variable {c : AxisIp4} {cs : List AxisIp4}

lemma keep_clearBehind : (clearBehind c).lanes.map (·.keep) = c.lanes.map (·.keep) := by
  simp only [clearBehind]
  split
  · apply List.ext_getElem
    · simp
    · intro i _ _
      simp only [List.getElem_map, List.getElem_mapIdx]
      split
      · rfl
      · rfl
  · rfl

lemma data_clearBehind :
    ((clearBehind c).lanes.map (·.data)).take c.getLen = (c.lanes.map (·.data)).take c.getLen := by
  simp only [clearBehind]
  split
  · apply List.ext_getElem
    · simp
    · intro i hi _
      have hlt : i < c.getLen := (List.length_take ▸ hi).trans_le (Nat.min_le_left _ _)
      simp only [List.getElem_take, List.getElem_map, List.getElem_mapIdx, if_pos hlt]
  · rfl

/-- The valid bytes of a chunk stay. -/
lemma clearBehind_spec (hc : c.isValid) :
    (clearBehind c).isValid ∧ (clearBehind c).bytes = c.bytes := by
  have hlen : (clearBehind c).getLen = c.getLen := by rw [getLen, getLen, keep_clearBehind]
  have hvalid : (clearBehind c).isValid := by
    rw [isValid, hlen, keep_clearBehind]
    exact hc
  refine ⟨hvalid, ?_⟩
  rw [bytes, bytes, (keptFirst_of_mask (mask_of_isValid hvalid).1).2,
    (keptFirst_of_mask (mask_of_isValid hc).1).2, hlen, data_clearBehind]

/-- What the last process does with the chunks of a packet. -/
lemma finish_spec (hcs : WellFormed cs) :
    WellFormed (cs.map pIpPacketRouter.finish) ∧
      streamBytes (cs.map pIpPacketRouter.finish) = streamBytes cs := by
  induction cs with
  | nil => exact absurd hcs.isStream id
  | cons c cs ih =>
      rw [List.map_cons, LateRouter.finish]
      cases hlast : c.tlast with
      | true =>
          obtain rfl := hcs.tail_eq_nil hlast
          obtain ⟨hvalid, hbytes⟩ := clearBehind_spec hcs.head
          refine ⟨.singleton hvalid hlast, ?_⟩
          exact congrArg (· ++ []) hbytes
      | false =>
          obtain ⟨hwf, hbytes⟩ := ih (hcs.tail hlast)
          exact ⟨.cons hcs.head hlast hwf, congrArg (c.bytes ++ ·) hbytes⟩

/-- A packet is sent to its port. -/
lemma sentTo_routed (p : IprPort) (key : IprKey) :
    sentTo p (pIpPacketRouter.routed key cs) =
      if iprPort (pIpPacketRouter.packetKey key cs) = some p then cs.map pIpPacketRouter.finish
      else [] := by
  rw [LateRouter.routed]
  generalize cs.map pIpPacketRouter.finish = ds
  generalize pIpPacketRouter.packetKey key cs = key'
  induction ds with
  | nil => simp [sentTo]
  | cons d ds ih =>
      rw [List.flatMap_cons, sentTo, List.filterMap_append]
      have hroute : pIpPacketRouter.route key' d = (iprPort key').toList.map fun p => (p, d) := rfl
      rw [sentTo] at ih
      rw [ih, hroute]
      cases hport : iprPort key' with
      | none => simp
      | some q =>
          by_cases hq : q = p
          · simp [hq]
          · simp [hq]

end Ipr

end CloudFpga.Iprx
