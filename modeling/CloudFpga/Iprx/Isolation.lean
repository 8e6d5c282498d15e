import CloudFpga.Iprx.Payload

/-!
The frames that come in one after the other, and what the IP Rx engine delivers of each.

* `SumsInside`: the checksum accumulator reports the sums of a frame before its end.
* `icaOut_frames`, `iidOut_frames`: then there is exactly one verdict of each kind for each packet.
* `isolation`: the fate of each frame is the same as on an idle engine.
* `sums_missing`: a header that is longer than its frame.
-/

namespace CloudFpga.Iprx

open Foundation Toe AxisRaw Uoe

/-- The words of a header that are not added yet behind the first four chunks, by the register. -/
def restLen (cs : List AxisEth) : ℕ :=
  ((getIp4HdrLen (cs.getD 1 zero)).setWidth 8 - 2 - 2 : BitVec 8).toNat

/-- The chunk with which the sums are reported is in the frame. -/
structure SumsInside (cs : List AxisEth) : Prop where
  isStream : IsStream cs
  pos : 1 ≤ restLen cs
  length : 4 + (restLen cs + 1) / 2 ≤ cs.length

instance (cs : List AxisEth) : Decidable (SumsInside cs) :=
  decidable_of_iff (IsStream cs ∧ 1 ≤ restLen cs ∧ 4 + (restLen cs + 1) / 2 ≤ cs.length)
    ⟨fun ⟨h1, h2, h3⟩ => ⟨h1, h2, h3⟩, fun ⟨h1, h2, h3⟩ => ⟨h1, h2, h3⟩⟩

section Accumulator

variable {a : Ip4Addr} {u : Bool} {r r' : IcaRegs} {cs : List AxisEth}

/-- The lower half of the address is read anew. -/
lemma icaHeader_indep (r r' : IcaRegs) (c1 c2 c3 d : AxisEth) :
    icaHeader a (icaFour r c1 c2 c3) d = icaHeader a (icaFour r' c1 c2 c3) d := by
  simp only [icaHeader, icaFour, extract_append]

/-- The chunks of a frame with its sums. -/
lemma SumsInside.chunks (h : SumsInside cs) : ∃ c0 c1 c2 c3 d rest,
    cs = c0 :: c1 :: c2 :: c3 :: d :: rest ∧ c0.tlast = false ∧ c1.tlast = false ∧
      c2.tlast = false ∧ c3.tlast = false ∧ IsStream (d :: rest) := by
  obtain ⟨hstream, hpos, hlen⟩ := h
  obtain ⟨c0, c1, c2, c3, rest, rfl⟩ := exists_four (by omega : 4 ≤ cs.length)
  obtain ⟨hl0, hs1⟩ := isStream_not_last hstream
  obtain ⟨hl1, hs2⟩ := isStream_not_last hs1
  obtain ⟨hl2, hs3⟩ := isStream_not_last hs2
  cases rest with
  | nil =>
      simp only [List.length_cons, List.length_nil] at hlen
      omega
  | cons d rest =>
      obtain ⟨hl3, hs4⟩ := isStream_not_last hs3
      exact ⟨c0, c1, c2, c3, d, rest, rfl, hl0, hl1, hl2, hl3, hs4⟩

lemma icaIdle_reset : IcaIdle icaReset := ⟨rfl, rfl⟩

/-- What is written for a frame does not depend on the frames before it. -/
lemma icaOut_indep (hr : IcaIdle r) (hr' : IcaIdle r') (hcs : SumsInside cs) :
    icaOut a u r cs = icaOut a u r' cs := by
  obtain ⟨c0, c1, c2, c3, d, rest, rfl, hl0, hl1, hl2, hl3, -⟩ := hcs.chunks
  have hswitch : icaSwitch a (icaFour r c1 c2 c3) d = icaSwitch a (icaFour r' c1 c2 c3) d := by
    rw [icaSwitch_of_four (le_refl 4), icaSwitch_of_four (le_refl 4), icaHeader_indep r r']
  have hchunk : icaChunk a (icaFour r c1 c2 c3) d u = icaChunk a (icaFour r' c1 c2 c3) d u := by
    rw [icaChunk, icaChunk, hswitch]
    rfl
  rw [icaOut_four hr hl0 hl1 hl2 hl3, icaOut_four hr' hl0 hl1 hl2 hl3, icaOut, icaOut, icaEmit,
    icaEmit, icaNext, icaNext, hchunk]

/-- There is one verdict of each kind for a frame. -/
lemma icaOut_one (hr : IcaIdle r) (hcs : SumsInside cs) :
    ∃ v d x, (icaOut a u r cs).ipVer = [v] ∧ (icaOut a u r cs).dropCmd = [d] ∧
      (icaOut a u r cs).subSums = [x] := by
  have hpos := hcs.pos
  have hlen := hcs.length
  obtain ⟨c0, c1, c2, c3, d, rest, rfl, hl0, hl1, hl2, hl3, hs4⟩ := hcs.chunks
  have hsums := sumsHold_addWords (sumsHold_addWords (sumsHold_firstWord c1) c2) c3
  have hrest : restLen (c0 :: c1 :: c2 :: c3 :: d :: rest) =
      (icaFour r c1 c2 c3).ipHdrLen.toNat := rfl
  rw [hrest] at hpos hlen
  simp only [List.length_cons] at hlen
  obtain ⟨⟨sums, -, hreport⟩, hver, hdrop⟩ := icaOut_header (a := a) (u := u)
    (r := icaFour r c1 c2 c3) _ rfl hpos hs4 rfl (by rw [List.length_cons]; omega) hsums
  rw [icaOut_four hr hl0 hl1 hl2 hl3, IcaOut.add, hreport, hver, hdrop]
  exact ⟨_, _, _, rfl, rfl, rfl⟩

end Accumulator

/-! ### The dropper -/

/-- The state of the dropper behind some chunks, and the chunks at which it waits. -/
def iidEnd : Iid → List AxisIp4 → Iid × List AxisIp4
  | s, [] => (s, [])
  | s, c :: cs =>
      match iidChunk s c with
      | some (s', _) => iidEnd s' cs
      | none => (s, c :: cs)

/-- The streams of several frames, one after the other. -/
def IcaOut.all (outs : List IcaOut) : IcaOut := outs.foldr IcaOut.add {}

/-- One packet, and one verdict of each kind. -/
structure Aligned (out : IcaOut) : Prop where
  ipVer : ∃ v, out.ipVer = [v]
  dropCmd : ∃ d, out.dropCmd = [d]
  subSums : ∃ x, out.subSums = [x]
  data : ∃ c ds, out.data = c :: ds ∧ c.tlast = false ∧ IsStream (c :: ds)

section Dropper

variable {s : Iid} {c : AxisIp4} {cs ds : List AxisIp4} {csumValid : Bool} {bs : List Bool}
  {ipVer : Ip4Version} {vs : List Ip4Version} {dropFrag : CmdBit} {fs : List CmdBit}

/-- The rest of a packet is read. -/
lemma iidEnd_rest (hcs : IsStream cs) (hst : s.iidFsmState ≠ .idle) :
    iidEnd s (cs ++ ds) = iidEnd { s with iidFsmState := .idle } ds := by
  induction cs generalizing s with
  | nil => exact absurd hcs id
  | cons c cs ih =>
      obtain ⟨out, hchunk⟩ : ∃ out, iidChunk s c =
          some ({ s with iidFsmState := if c.tlast then .idle else s.iidFsmState }, out) := by
        rw [iidChunk]
        cases hfsm : s.iidFsmState with
        | idle => exact absurd hfsm hst
        | fwd => exact ⟨[c], rfl⟩
        | drop => exact ⟨[], rfl⟩
      rw [List.cons_append, iidEnd, hchunk]
      dsimp only
      cases hlast : c.tlast with
      | true =>
          obtain rfl := (isPacket_cons_of_last hlast).mp hcs
          rfl
      | false => exact ih ((isPacket_cons_of_not_last hlast).mp hcs) hst

/-- With a packet one verdict of each kind is read. -/
lemma iidEnd_packet (hcs : IsStream (c :: cs)) (hc : c.tlast = false) :
    iidEnd ⟨.idle, ipVer :: vs, dropFrag :: fs, csumValid :: bs⟩ (c :: cs ++ ds) =
      iidEnd ⟨.idle, vs, fs, bs⟩ ds := by
  rw [List.cons_append, iidEnd, iidChunk]
  dsimp only
  rw [iidEnd_rest ((isPacket_cons_of_not_last hc).mp hcs)]
  dsimp only
  split
  · exact fun h => by cases h
  · exact fun h => by cases h

/-- Packets with their verdicts are treated one after the other. -/
lemma iid_all {outs : List IcaOut} (h : ∀ out ∈ outs, Aligned out) :
    iidOut (({} : Iid).queue (IcaOut.all outs)) (IcaOut.all outs).data =
        outs.flatMap (fun out => iidOut (({} : Iid).queue out) out.data) ∧
      iidEnd (({} : Iid).queue (IcaOut.all outs)) (IcaOut.all outs).data = ({}, []) := by
  induction outs with
  | nil => exact ⟨rfl, rfl⟩
  | cons out outs ih =>
      obtain ⟨hall, hend⟩ := ih fun o ho => h o (List.mem_cons_of_mem out ho)
      obtain ⟨⟨v, hv⟩, ⟨d, hd⟩, ⟨x, hx⟩, c, ds, hdata, hc, hstream⟩ := h out List.mem_cons_self
      obtain ⟨data, ipVer, dropCmd, subSums⟩ := out
      subst hv hd hx hdata
      have hone : iidOut ⟨.idle, [v], [d], [pIpChecksumChecker x]⟩ (c :: ds ++ []) = _ :=
        iidOut_packet hstream hc
      rw [List.append_nil, iidOut, List.append_nil] at hone
      refine ⟨?_, (iidEnd_packet hstream hc).trans hend⟩
      refine (iidOut_packet hstream hc).trans ?_
      rw [List.flatMap_cons, ← hall]
      exact congrArg (· ++ _) hone.symm

end Dropper

/-! ### The stages -/

/-- The frames that `pIpLengthChecker` lets through, for what it has decided before. -/
def keptFrames (macAddr : EthAddr) : Bool → List (List AxisEth) → List (List AxisEth)
  | _, [] => []
  | filterPacket, f :: fs =>
      if frameType macAddr f = ethertypeIp4 then
        (if filtered filterPacket f then [] else [f]) ++
          keptFrames macAddr (filtered filterPacket f) fs
      else keptFrames macAddr filterPacket fs

section Stages

variable {g : IprxConfig} {s : IprxRegs} {cs : List AxisEth} {fs hs : List (List AxisEth)}

/-- The frames are told apart. -/
lemma mpd_frames (hmpd : s.mpd.chunkCount = 0) (hcs : cs.map pInputBuffer = fs.flatten)
    (hfs : ∀ f ∈ fs, IsStream f) :
    mpdOut g s cs = fs.flatMap fun f => f.flatMap (mpdRoute (frameType g.piMMIO_MacAddress f)) := by
  rw [mpdOut, hcs]
  exact (emits_flatten (fun r f hr hf => mpd_frame hf hr) fs s.mpd hmpd hfs).1

/-- The frames for a port. -/
lemma toPort_frames (p : MpdPort) :
    toPort p (fs.flatMap fun f => f.flatMap (mpdRoute (frameType g.piMMIO_MacAddress f))) =
      fs.flatMap fun f => toPort p (f.flatMap (mpdRoute (frameType g.piMMIO_MacAddress f))) := by
  induction fs with
  | nil => rfl
  | cons f fs ih =>
      rw [List.flatMap_cons, List.flatMap_cons, ← ih]
      exact List.filterMap_append

/-- The frames that are too long are dropped. -/
lemma ilc_frames {r : IlcRegs} (hr : IlcIdle r) (hfs : ∀ f ∈ fs, IsStream f) :
    emits ilcNext ilcEmit r
        (fs.flatMap fun f => if frameType g.piMMIO_MacAddress f = ethertypeIp4 then f else []) =
      (keptFrames g.piMMIO_MacAddress r.filterPacket fs).flatten := by
  induction fs generalizing r with
  | nil => rfl
  | cons f fs ih =>
      have hfs' := fun f' hf' => hfs f' (List.mem_cons_of_mem f hf')
      rw [List.flatMap_cons, keptFrames]
      split
      · next htype =>
          have hlen : 2 ≤ f.length := by
            cases f with
            | nil => exact absurd (hfs [] List.mem_cons_self) id
            | cons c0 f =>
                cases f with
                | nil => cases htype
                | cons c1 f => exact Nat.le_add_left 2 _
          obtain ⟨hout, hidle, hfilter⟩ := ilc_frame (hfs f List.mem_cons_self) hr hlen
          rw [emits_append, hout, ih hidle hfs', hfilter, List.flatten_append]
          cases filtered r.filterPacket f with
          | true => rfl
          | false => simp
      · exact ih hr hfs'

/-- The frames with their sums are treated alone. -/
lemma icaOut_frames {r : IcaRegs} (hr : IcaIdle r) (hhs : ∀ h ∈ hs, SumsInside h) :
    icaOut g.piMMIO_Ip4Address g.unsetTLast r hs.flatten =
      IcaOut.all (hs.map (icaOut g.piMMIO_Ip4Address g.unsetTLast icaReset)) := by
  induction hs generalizing r with
  | nil => rfl
  | cons h hs ih =>
      have hh := hhs h List.mem_cons_self
      rw [List.flatten_cons, icaOut_append, ih (icaIdle_run hh.isStream) fun h' hh' =>
        hhs h' (List.mem_cons_of_mem h hh'), icaOut_indep hr icaIdle_reset hh]
      rfl

/-- Nothing, or a packet of two chunks or more. -/
def Forwardable (p : List AxisIp4) : Prop :=
  p = [] ∨ ∃ c d ds, p = c :: d :: ds ∧ IsStream (c :: d :: ds)

/-- What the last two processes do with a packet alone. -/
def deliver (p : List AxisIp4) : List (IprPort × AxisIp4) :=
  emits pIpPacketRouter.next pIpPacketRouter.emit iprxReset.ipr
    (emits iclNext iclEmit iprxReset.icl p)

/-- A packet is cut as it would be alone. -/
lemma icl_alone {r : IclRegs} {p : List AxisIp4} (hr : IclIdle r) (hp : Forwardable p) :
    emits iclNext iclEmit r p = emits iclNext iclEmit iprxReset.icl p ∧
      IclIdle (Clocked.run iclNext r p) ∧ Forwardable (emits iclNext iclEmit iprxReset.icl p) := by
  rcases hp with rfl | ⟨c, d, ds, rfl, hstream⟩
  · exact ⟨rfl, hr, .inl rfl⟩
  · obtain ⟨hc, hrest⟩ := isStream_not_last hstream
    obtain ⟨hout, hidle⟩ := icl_packet hstream hc hr
    have hcut : IsStream (cut (Toe.getIp4TotalLen c) 1 (d :: ds)) := isStream_cut hrest
    rw [hout, (icl_packet hstream hc iprxIdle_reset.icl).1]
    refine ⟨rfl, hidle, .inr ?_⟩
    obtain ⟨e, es, heq⟩ := List.exists_cons_of_ne_nil (IsPacket.ne_nil hcut)
    rw [heq] at hcut ⊢
    exact ⟨c, e, es, rfl, (isPacket_cons_of_not_last hc).mpr hcut⟩

/-- A packet is routed as it would be alone. -/
lemma ipr_alone {r : LateRegs IprKey} {p : List AxisIp4} (hr : r.chunkCount = 0)
    (hp : Forwardable p) :
    emits pIpPacketRouter.next pIpPacketRouter.emit r p =
        emits pIpPacketRouter.next pIpPacketRouter.emit iprxReset.ipr p ∧
      (Clocked.run pIpPacketRouter.next r p).chunkCount = 0 := by
  rcases hp with rfl | ⟨c, d, ds, rfl, hstream⟩
  · exact ⟨rfl, hr⟩
  · obtain ⟨hout, hidle⟩ := LateRouter.packet (L := pIpPacketRouter) hstream hr
    refine ⟨?_, hidle⟩
    rw [hout, (LateRouter.packet (L := pIpPacketRouter) hstream iprxIdle_reset.ipr).1]
    rfl

/-- Packets are delivered one after the other. -/
lemma deliver_packets {icl : IclRegs} {ipr : LateRegs IprKey} (hicl : IclIdle icl)
    (hipr : ipr.chunkCount = 0) {ps : List (List AxisIp4)} (hps : ∀ p ∈ ps, Forwardable p) :
    emits pIpPacketRouter.next pIpPacketRouter.emit ipr (emits iclNext iclEmit icl ps.flatten) =
      ps.flatMap deliver := by
  have hcut := (emits_flatten (fun r p hr hp => ⟨(icl_alone hr hp).1, (icl_alone hr hp).2.1⟩) ps icl
    hicl hps).1
  have hcuts : ∀ q ∈ ps.map (emits iclNext iclEmit iprxReset.icl), Forwardable q := by
    intro q hq
    obtain ⟨p, hp, rfl⟩ := List.mem_map.mp hq
    exact (icl_alone hicl (hps p hp)).2.2
  rw [hcut, List.flatMap_def,
    (emits_flatten (fun r p hr hp => ipr_alone hr hp) _ ipr hipr hcuts).1, List.flatMap_map]
  rfl

/-- What is forwarded of a frame with its sums. -/
lemma forwarded_alone {f : List AxisEth} (hf : SumsInside f) (hfull : Full f) :
    Aligned (icaOut g.piMMIO_Ip4Address g.unsetTLast icaReset f) ∧
      Forwardable (forwarded g.piMMIO_Ip4Address g.unsetTLast icaReset f) := by
  have hlen : 4 ≤ f.length := Nat.le_of_add_right_le hf.length
  obtain ⟨v, d, x, hv, hd, hx⟩ := icaOut_one (a := g.piMMIO_Ip4Address) (u := g.unsetTLast)
    icaIdle_reset hf
  obtain ⟨c, ds, hpacket, hc, hstream⟩ := icaReport_packet hf.isStream hlen hfull
  have hdata := icaOut_packet (a := g.piMMIO_Ip4Address) (u := g.unsetTLast) icaIdle_reset
    hf.isStream (by omega)
  rw [hpacket] at hdata
  refine ⟨⟨⟨v, hv⟩, ⟨d, hd⟩, ⟨x, hx⟩, c, ds, hdata, hc, hstream⟩, ?_⟩
  have hforwarded : forwarded g.piMMIO_Ip4Address g.unsetTLast icaReset f =
      iidOut (({} : Iid).queue (icaOut g.piMMIO_Ip4Address g.unsetTLast icaReset f)) (c :: ds) := by
    rw [forwarded, hdata]
    rfl
  rw [hforwarded]
  rcases iidOut_whole (t := ({} : Iid).queue _) hstream hc rfl with hall | hnone
  · obtain ⟨e, es, rfl⟩ := List.exists_cons_of_ne_nil
      (IsPacket.ne_nil ((isPacket_cons_of_not_last hc).mp hstream))
    exact .inr ⟨c, e, es, hall, hstream⟩
  · exact .inl hnone

lemma mem_keptFrames {macAddr : EthAddr} {b : Bool} {h : List AxisEth}
    (hh : h ∈ keptFrames macAddr b fs) : h ∈ fs := by
  induction fs generalizing b with
  | nil => exact hh
  | cons f fs ih =>
      rw [keptFrames] at hh
      split at hh
      · rcases List.mem_append.mp hh with hf | hrest
        · split at hf
          · cases hf
          · rw [List.mem_singleton.mp hf]
            exact List.mem_cons_self
        · exact List.mem_cons_of_mem f (ih hrest)
      · exact List.mem_cons_of_mem f (ih hh)

/-- Behind the input buffer all chunks but the last ones are full. -/
lemma full_of_buffered (hcs : cs.map pInputBuffer = fs.flatten) : ∀ f ∈ fs, Full f := by
  intro f hf c hc hlast
  have hmem : c ∈ cs.map pInputBuffer := hcs ▸ List.mem_flatten_of_mem hf hc
  obtain ⟨d, -, rfl⟩ := List.mem_map.mp hmem
  rw [pInputBuffer] at hlast ⊢
  split at hlast
  · next hvalid => rw [if_pos hvalid]; exact hvalid
  · cases hlast

/-- **The whole engine**, on frames whose sums are reported. -/
lemma iprxOut_frames (hs : IprxIdle s) (hiid : s.iid = {}) (hcs : cs.map pInputBuffer = fs.flatten)
    (hfs : ∀ f ∈ fs, IsStream f)
    (hsums : ∀ h ∈ keptFrames g.piMMIO_MacAddress s.ilc.filterPacket fs, SumsInside h) :
    icaStreams g s cs = IcaOut.all ((keptFrames g.piMMIO_MacAddress s.ilc.filterPacket fs).map
        (icaOut g.piMMIO_Ip4Address g.unsetTLast icaReset)) ∧
      iprxOut g s cs = (keptFrames g.piMMIO_MacAddress s.ilc.filterPacket fs).flatMap fun h =>
        deliver (forwarded g.piMMIO_Ip4Address g.unsetTLast icaReset h) := by
  have hfull (h : List AxisEth) (hh : h ∈ keptFrames g.piMMIO_MacAddress s.ilc.filterPacket fs) :
      Full h := full_of_buffered hcs h (mem_keptFrames hh)
  have hilc : toIlc g s cs =
      fs.flatMap fun f => if frameType g.piMMIO_MacAddress f = ethertypeIp4 then f else [] := by
    rw [toIlc, mpd_frames hs.mpd hcs hfs, toPort_frames]
    simp only [toPort_routed]
  have hica : icaStreams g s cs =
      IcaOut.all ((keptFrames g.piMMIO_MacAddress s.ilc.filterPacket fs).map
        (icaOut g.piMMIO_Ip4Address g.unsetTLast icaReset)) := by
    rw [icaStreams, toIca, hilc, ilc_frames hs.ilc hfs]
    exact icaOut_frames hs.ica hsums
  have haligned : ∀ out ∈ (keptFrames g.piMMIO_MacAddress s.ilc.filterPacket fs).map
      (icaOut g.piMMIO_Ip4Address g.unsetTLast icaReset), Aligned out := by
    intro out hout
    obtain ⟨h, hh, rfl⟩ := List.mem_map.mp hout
    exact (forwarded_alone (hsums h hh) (hfull h hh)).1
  refine ⟨hica, ?_⟩
  have hicl : toIcl g s cs = ((keptFrames g.piMMIO_MacAddress s.ilc.filterPacket fs).map
      (forwarded g.piMMIO_Ip4Address g.unsetTLast icaReset)).flatten := by
    rw [toIcl, hica, hiid, (iid_all haligned).1, List.flatMap_map, List.flatMap_def]
    rfl
  rw [iprxOut, toIpr, hicl, deliver_packets hs.icl hs.ipr, List.flatMap_map]
  intro p hp
  obtain ⟨h, hh, rfl⟩ := List.mem_map.mp hp
  exact (forwarded_alone (hsums h hh) (hfull h hh)).2

end Stages

/-! ### Isolation -/

/-- Each frame is treated as on an idle engine, and what is reported of the packets stays in step
with them. -/
structure Isolated (g : IprxConfig) (s : IprxRegs) (cs : List AxisEth)
    (frames : List (List AxisEth)) : Prop where
  delivered : iprxOut g s cs = frames.flatMap (iprxOut g iprxReset)
  arp : soArpData g s cs = frames.flatMap (soArpData g iprxReset)
  produced : ∃ outs, icaStreams g s cs = IcaOut.all outs ∧ ∀ out ∈ outs, Aligned out
  consumed : iidEnd (s.iid.queue (icaStreams g s cs)) (icaStreams g s cs).data = ({}, [])

section Isolation

variable {g : IprxConfig} {s : IprxRegs} {cs f : List AxisEth} {fs : List (List AxisEth)}

/-- The input buffer does nothing twice. -/
lemma pInputBuffer_twice (c : AxisEth) : pInputBuffer (pInputBuffer c) = pInputBuffer c := by
  by_cases hvalid : c.isValid
  · have hsame : pInputBuffer c = c := if_pos hvalid
    rw [hsame, hsame]
  · have habort : pInputBuffer c = abortChunk c := if_neg hvalid
    have htwice : abortChunk (abortChunk c) = abortChunk c := by
      refine AxisRaw.ext ?_ rfl
      simp [abortChunk]
    rw [habort, pInputBuffer]
    split
    · rfl
    · exact htwice

/-- Without sums the dropper waits. -/
lemma iidOut_waits {t : Iid} (ht : t.iidFsmState = .idle) (hsums : t.siICcCsumValid = [])
    (ds : List AxisIp4) : iidOut t ds = [] := by
  cases ds with
  | nil => rfl
  | cons d ds => rw [iidOut, iidChunk, ht, hsums]

/-- A frame of two chunks is not delivered. -/
lemma iprxOut_two (hf : IsStream f) (hlen : f.length = 2) (hbuffered : f.map pInputBuffer = f) :
    iprxOut g iprxReset f = [] := by
  have hsums : (icaStreams g iprxReset f).subSums = [] := by
    have hilc := toIlc_frame (g := g) (s := iprxReset) rfl (hbuffered.symm ▸ hf)
    rw [hbuffered] at hilc
    rw [icaStreams, toIca, hilc]
    split
    · have hfiltered : filtered iprxReset.ilc.filterPacket f = false := if_neg (by omega)
      rw [(ilc_frame hf iprxIdle_reset.ilc hlen.ge).1, hfiltered]
      obtain ⟨c0, c1, rfl⟩ : ∃ c0 c1, f = [c0, c1] := List.length_eq_two.mp hlen
      obtain ⟨hl0, -⟩ := isStream_not_last hf
      simp [icaOut, icaEmit, icaNext, icaChunk, icaSwitch, IcaOut.add, iprxReset, icaReset, hl0]
    · rfl
  have hicl : toIcl g iprxReset f = [] := by
    refine iidOut_waits rfl ?_ _
    rw [Iid.queue, hsums]
    rfl
  rw [iprxOut, toIpr, hicl]
  rfl

/-- What is delivered of a frame alone. -/
lemma iprxOut_alone (b : Bool) (hfs : ∀ f ∈ fs, IsStream f ∧ f.map pInputBuffer = f)
    (hsums : ∀ h ∈ keptFrames g.piMMIO_MacAddress b fs, SumsInside h) :
    fs.flatMap (iprxOut g iprxReset) = (keptFrames g.piMMIO_MacAddress b fs).flatMap fun h =>
      deliver (forwarded g.piMMIO_Ip4Address g.unsetTLast icaReset h) := by
  induction fs generalizing b with
  | nil => rfl
  | cons f fs ih =>
      obtain ⟨hf, hbuffered⟩ := hfs f List.mem_cons_self
      have hfs' := fun f' hf' => hfs f' (List.mem_cons_of_mem f hf')
      have halone (hkept : ∀ h ∈ keptFrames g.piMMIO_MacAddress false [f], SumsInside h) :
          iprxOut g iprxReset f = (keptFrames g.piMMIO_MacAddress false [f]).flatMap fun h =>
            deliver (forwarded g.piMMIO_Ip4Address g.unsetTLast icaReset h) :=
        (iprxOut_frames iprxIdle_reset rfl (by rw [hbuffered, List.flatten_singleton])
          (fun f' hf' => by rw [List.mem_singleton.mp hf']; exact hf) hkept).2
      rw [List.flatMap_cons]
      rw [keptFrames] at hsums ⊢
      split at hsums
      · next htype =>
          rw [if_pos htype, List.flatMap_append, ih (filtered b f) hfs' fun h hh =>
            hsums h (List.mem_append_right _ hh)]
          refine congrArg (· ++ _) ?_
          have hkept : keptFrames g.piMMIO_MacAddress false [f] =
              if filtered false f then [] else [f] := (if_pos htype).trans (List.append_nil _)
          rw [hkept] at halone
          by_cases hlen : 3 ≤ f.length
          · have hsame : filtered b f = filtered false f := by
              rw [filtered, filtered, if_pos hlen, if_pos hlen]
            rw [hsame] at hsums ⊢
            exact halone fun h hh => hsums h (List.mem_append_left _ hh)
          · have hlen2 : f.length = 2 := by
              match f, htype, hlen with
              | c0 :: c1 :: [], _, _ => rfl
              | c0 :: c1 :: c2 :: rest, _, hlen => exact absurd (Nat.le_add_left 3 _) hlen
            have hfiltered : filtered b f = b := if_neg hlen
            rw [iprxOut_two hf hlen2 hbuffered, hfiltered]
            rw [hfiltered] at hsums
            cases b with
            | true => rfl
            | false =>
                have h5 := (hsums f (List.mem_append_left _ (List.mem_singleton_self f))).length
                omega
      · next htype =>
          rw [if_neg htype, ih b hfs' hsums]
          have hnone : keptFrames g.piMMIO_MacAddress false [f] = [] := if_neg htype
          rw [hnone] at halone
          rw [halone fun h hh => absurd hh List.not_mem_nil]
          rfl

/-- **Isolation**: if the sums of each packet that is let through are reported, the fate of each
frame is the same as on an idle engine. -/
theorem isolation (g : IprxConfig) (s : IprxRegs) (cs : List AxisEth) (fs : List (List AxisEth))
    (hs : IprxIdle s) (hiid : s.iid = {}) (hcs : cs.map pInputBuffer = fs.flatten)
    (hfs : ∀ f ∈ fs, IsStream f)
    (hsums : ∀ h ∈ keptFrames g.piMMIO_MacAddress s.ilc.filterPacket fs, SumsInside h) :
    Isolated g s cs fs := by
  have hbuffered (f : List AxisEth) (hf : f ∈ fs) : f.map pInputBuffer = f := by
    refine (List.map_congr_left fun c hc => ?_).trans (List.map_id f)
    have hmem : c ∈ cs.map pInputBuffer := hcs ▸ List.mem_flatten_of_mem hf hc
    obtain ⟨d, -, rfl⟩ := List.mem_map.mp hmem
    exact pInputBuffer_twice d
  obtain ⟨hica, hout⟩ := iprxOut_frames hs hiid hcs hfs hsums
  have haligned : ∀ out ∈ (keptFrames g.piMMIO_MacAddress s.ilc.filterPacket fs).map
      (icaOut g.piMMIO_Ip4Address g.unsetTLast icaReset), Aligned out := by
    intro out hout
    obtain ⟨h, hh, rfl⟩ := List.mem_map.mp hout
    exact (forwarded_alone (hsums h hh) (full_of_buffered hcs h (mem_keptFrames hh))).1
  refine ⟨?_, ?_, ⟨_, hica, haligned⟩, ?_⟩
  · rw [hout, ← iprxOut_alone _ (fun f hf => ⟨hfs f hf, hbuffered f hf⟩) hsums]
  · rw [soArpData, mpd_frames hs.mpd hcs hfs, toPort_frames]
    refine List.flatMap_congr fun f hf => ?_
    rw [soArpData, mpdOut, hbuffered f hf, (mpd_frame (hfs f hf) rfl).1]
  · rw [hica, hiid]
    exact (iid_all haligned).2

end Isolation

/-- A station. -/
def stationConfig : IprxConfig := ⟨0x020000000002, 0x0A000002, true⟩

/-- A frame for ARP that ends behind its type. -/
def arpRunt : List AxisEth :=
  [ AxisRaw.ofBytes [255, 255, 255, 255, 255, 255, 2, 0] false rfl,
    AxisRaw.ofBytes [0, 0, 0, 1, 8, 6, 0, 1] true rfl ]

/-- A frame of 60 bytes with a packet whose header of 60 bytes does not end in it. -/
def longHeader : List AxisEth :=
  [ AxisRaw.ofBytes [2, 0, 0, 0, 0, 2, 2, 0] false (by decide),
    AxisRaw.ofBytes [0, 0, 0, 1, 8, 0, 0x4F, 0] false rfl,
    AxisRaw.ofBytes [0, 46, 0, 0, 0, 0, 64, 17] false rfl,
    AxisRaw.ofBytes [0, 0, 10, 0, 0, 1, 10, 0] false rfl,
    AxisRaw.ofBytes [0, 2, 0, 0, 0, 0, 0, 0] false rfl,
    AxisRaw.ofBytes [0, 0, 0, 0, 0, 0, 0, 0] false rfl,
    AxisRaw.ofBytes [0, 0, 0, 0, 0, 0, 0, 0] false rfl,
    (AxisRaw.ofBytes [0, 0, 0, 0, 0, 0, 0, 0] true rfl).setTKeepLen 4 ]

/-- A frame for ARP in front of a packet. -/
theorem isolation_arp :
    Isolated stationConfig iprxReset (arpRunt ++ frameOf 5 26 102 209 1 2 3 4 5 6)
      [arpRunt, frameOf 5 26 102 209 1 2 3 4 5 6] :=
  isolation stationConfig iprxReset _ _ iprxIdle_reset rfl (by decide +kernel) (by decide +kernel)
    (by decide +kernel)

/-- **A missing item**: behind a frame without sums the next frame is not delivered. -/
theorem sums_missing :
    ¬Isolated stationConfig iprxReset (longHeader ++ frameOf 5 26 102 209 1 2 3 4 5 6)
      [longHeader, frameOf 5 26 102 209 1 2 3 4 5 6] := by
  intro h
  have hdelivered := h.delivered
  revert hdelivered
  decide +kernel

end CloudFpga.Iprx
