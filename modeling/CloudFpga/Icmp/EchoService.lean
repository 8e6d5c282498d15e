import CloudFpga.Icmp.EchoFlow

/-!
The law of the echo service.

* `EchoRegular`: a packet that fits into `ssICcToIPd_Data` and, if the checker takes it for a
  request, has a complete header and is not zero everywhere behind the checksum.
* `EchoInv`: the three processes in line, each with what the one before it will write;
  `EchoInv.next`: a step keeps it, and does some of the work or has to wait.
* `EchoInv.drained`: if every process has to wait, everything has been sent.
* `echo_law`: the law of the runs on regular packets.
-/

namespace CloudFpga.Icmp

open Foundation AxisRaw Toe Uoe

/-- A packet that fits into `ssICcToIPd_Data` and, if the checker takes it for a request, has a
complete header and is not zero everywhere behind the checksum. -/
structure EchoRegular (p : EchoPacket) : Prop where
  depth : p.val.length ≤ 64
  complete : Passes p.val → 28 ≤ p.bytes.length
  nonzero : Passes p.val → ∃ x ∈ p.bytes.drop 24, x ≠ 0

instance : DecidablePred EchoRegular := fun p =>
  decidable_of_iff
    (p.val.length ≤ 64 ∧ (Passes p.val → 28 ≤ p.bytes.length) ∧
      (Passes p.val → ∃ x ∈ p.bytes.drop 24, x ≠ 0))
    ⟨fun h => ⟨h.1, h.2.1, h.2.2⟩, fun h => ⟨h.depth, h.complete, h.nonzero⟩⟩

/-- The packets that the inserter gets from its two sources. -/
def echoTotal (ps : List EchoPacket) (i : Bool) : List CsumPacket :=
  if i = fromEcho then
    (ps.filter fun p => Passes p.val).map fun p => (echoData p.val, echoCsum p.val)
  else []

/-- The three processes in line, each with what the one before it will write. -/
structure EchoInv (ps : List EchoPacket) (s : EchoServer) (out : List AxisIp4) : Prop where
  counts : EchoCounts s
  flow : ∃ fut O, IccInv s.icc s.siIPRXData fut ∧
    IpdInv s.ipd (s.ssICcToIPdData ++ fut.soIPdData) (s.ssICcToIPdDropCmd ++ fut.soIPdDropCmd) O ∧
    IciInv (echoTotal ps) s.ici
      (fun i => s.ssXYzToICiData i ++ if i = fromEcho then O else [])
      (fun i => s.ssUVwToICiCsum i ++ if i = fromEcho then fut.soICiCsum else []) out

/-- Why a process has to wait. -/
def EchoStuck (s : EchoServer) : EchoLabel → Prop
  | .icc => (s.icc.writeLastOne = false ∧ s.icc.computeCs = false ∧ s.siIPRXData = []) ∨
      (iccBusy s.icc = false ∧ 64 ≤ s.ssICcToIPdData.length) ∨
      8 ≤ s.ssICcToIPdDropCmd.length ∨ 16 ≤ (s.ssUVwToICiCsum fromEcho).length
  | .ipd => s.ssICcToIPdData = [] ∨ (s.ipd.isFirstChunk = true ∧ s.ssICcToIPdDropCmd = []) ∨
      16 ≤ (s.ssXYzToICiData fromEcho).length
  | .ici => s.ssXYzToICiData fromEcho = [] ∨
      (s.ici.chunkCount = 2 ∧ s.ssUVwToICiCsum fromEcho = [])

/-! ### The packets -/

section Packets

variable {cs : List AxisIp4} {p : EchoPacket} {ps : List EchoPacket}

lemma length_echoData : (echoData cs).length = cs.length := by
  rw [echoData.eq_def]
  split <;> rfl

/-- A packet is forwarded as a packet. -/
lemma isStream_echoData (hcs : WellFormed cs) (hmin : 20 ≤ (streamBytes cs).length) :
    IsStream (echoData cs) := by
  obtain ⟨c₀, c₁, c₂, ds, rfl, h₀, -, -, -, hds, -⟩ := exists_header hcs hmin
  rw [echoData, IsStream, isPacket_cons_of_not_last h₀,
    isPacket_cons_of_not_last (show (iccSend c₁ c₂).tlast = false from rfl)]
  have hlast : (iccReply c₁ c₂).tlast = c₂.tlast := rfl
  have hstream := hds.isStream
  cases h : c₂.tlast with
  | true =>
      rw [isPacket_cons_of_last (hlast.trans h)]
      exact (isPacket_cons_of_last h).mp hstream
  | false =>
      rw [isPacket_cons_of_not_last (hlast.trans h)]
      exact (isPacket_cons_of_not_last h).mp hstream

lemma EchoRegular.fits (h : EchoRegular p) : Fits p.val := ⟨p.property.1, p.property.2, h.depth⟩

lemma EchoRegular.countable (h : EchoRegular p) (hpass : Passes p.val) :
    Countable (echoData p.val, echoCsum p.val) := by
  have hdepth := h.depth
  refine ⟨isStream_echoData p.property.1 p.property.2, ?_, ?_⟩
  · obtain ⟨c₀, c₁, c₂, ds, hcs, h₀, h₁, h₂⟩ := exists_complete p.property.1 (h.complete hpass)
    have hwf := p.property.1
    rw [hcs] at hwf
    have hpos := List.length_pos_of_ne_nil (((hwf.tail h₀).tail h₁).tail h₂).isStream.ne_nil
    rw [length_echoData, hcs]
    simp only [List.length_cons]
    omega
  · rw [length_echoData]
    omega

lemma echoTotal_countable (hps : ∀ p ∈ ps, EchoRegular p) (i : Bool) :
    ∀ q ∈ echoTotal ps i, Countable q := by
  intro q hq
  rw [echoTotal] at hq
  split_ifs at hq
  · obtain ⟨p, hp, rfl⟩ := List.mem_map.mp hq
    obtain ⟨hmem, hpass⟩ := List.mem_filter.mp hp
    exact (hps p hmem).countable (of_decide_eq_true hpass)
  · cases hq

/-- The requests are the packets that pass, and what is sent for them are their replies. -/
lemma replies_echoTotal (hps : ∀ p ∈ ps, EchoRegular p) :
    List.Forall₂ Replies (echoRequests ps) ((echoTotal ps fromEcho).map inserted) := by
  rw [echoTotal, if_pos rfl, List.map_map]
  induction ps with
  | nil => exact .nil
  | cons p ps ih =>
      obtain ⟨hp, hrest⟩ := List.forall_mem_cons.mp hps
      have hiff : Passes p.val ↔ IsEcho p.bytes :=
        ⟨fun h => (passes_iff p.property.1 (hp.complete h)).mp h,
          fun h => (passes_iff p.property.1 h.length).mpr h⟩
      rw [echoRequests, List.filter_cons, List.filter_cons]
      by_cases hpass : Passes p.val
      · rw [if_pos (decide_eq_true (hiff.mp hpass)), if_pos (decide_eq_true hpass)]
        exact .cons (reply_spec p.property.1 (hp.complete hpass) hpass (hp.nonzero hpass)) (ih hrest)
      · rw [if_neg (by simpa using fun h => hpass (hiff.mpr h)), if_neg (by simpa using hpass)]
        exact ih hrest

end Packets

/-! ### Steps -/

section Steps

variable {ps : List EchoPacket} {s : EchoServer} {out : List AxisIp4}

/-- What is written to a stream of the first source is no longer to come. -/
lemma update_fromEcho {α : Type} (X : Bool → List α) (o rest : List α) :
    (fun i => Function.update X fromEcho (X fromEcho ++ o) i ++ if i = fromEcho then rest else []) =
      fun i => X i ++ if i = fromEcho then o ++ rest else [] := by
  funext i
  by_cases h : i = fromEcho
  · subst h
    rw [Function.update_self, if_pos rfl, if_pos rfl, List.append_assoc]
  · rw [Function.update_of_ne h, if_neg h, if_neg h]

lemma withIcc_self : s.withIcc (s.icc, s.siIPRXData, {}) = s := by
  simp [EchoServer.withIcc]

lemma withIpd_self :
    s.withIpd (s.ipd, s.ssICcToIPdData, s.ssICcToIPdDropCmd, []) = s := by
  simp [EchoServer.withIpd]

lemma iccCall_cases (s : EchoServer) :
    (iccCall s = s ∧
      (((pIcmpChecksumChecker s.icc s.siIPRXData).2.2.soIPdData ≠ [] ∧
          64 ≤ s.ssICcToIPdData.length) ∨
        8 ≤ s.ssICcToIPdDropCmd.length ∨ 16 ≤ (s.ssUVwToICiCsum fromEcho).length)) ∨
      iccCall s = s.withIcc (pIcmpChecksumChecker s.icc s.siIPRXData) ∧
        ((pIcmpChecksumChecker s.icc s.siIPRXData).2.2.soIPdData = [] ∨
          s.ssICcToIPdData.length < 64) := by
  simp only [iccCall]
  split_ifs with h₁ h₂ h₃
  · exact .inl ⟨rfl, .inl h₁⟩
  · exact .inl ⟨rfl, .inr (.inl h₂.2)⟩
  · exact .inl ⟨rfl, .inr (.inr h₃.2)⟩
  · exact .inr ⟨rfl, (not_and_or.mp h₁).imp not_not.mp not_le.mp⟩

lemma ipdCall_cases (s : EchoServer) :
    (ipdCall s = s ∧ 16 ≤ (s.ssXYzToICiData fromEcho).length) ∨
      ipdCall s =
        s.withIpd (pInvalidPacketDropper s.ipd s.ssICcToIPdData s.ssICcToIPdDropCmd) := by
  simp only [ipdCall]
  split_ifs with h
  · exact .inl ⟨rfl, h.2⟩
  · exact .inr rfl

/-- A call of the checker that does not wait does some of the work. -/
lemma withIcc_work {r : IccState × List AxisIp4 × IccOut}
    (hmove : IccMove s.icc s.siIPRXData r.1 r.2.1 r.2.2) :
    s.withIcc r = s ∧ s.icc.writeLastOne = false ∧ s.icc.computeCs = false ∧ s.siIPRXData = [] ∨
      (s.withIcc r).work < s.work := by
  obtain ⟨icc, input, o⟩ := r
  dsimp only at hmove
  generalize hbefore : s.siIPRXData = before at hmove
  cases hmove with
  | wait hw hc =>
      refine .inl ⟨?_, hw, hc, rfl⟩
      have hself := withIcc_self (s := s)
      rwa [hbefore] at hself
  | read hc hd hlen hbusy hwritten hpending =>
      right
      simp only [EchoServer.work, EchoServer.withIcc, hbefore, List.length_append, List.length_cons]
      omega
  | write hw hc hbusy hpending =>
      right
      simp only [EchoServer.work, EchoServer.withIcc, hbefore, List.length_append,
        List.length_singleton]
      omega
  | compute hbusy hbusy' hwritten hpending =>
      right
      simp only [EchoServer.work, EchoServer.withIcc, hbefore, List.append_nil]
      omega
  | verdict keep hbusy hbusy' hwritten hpending =>
      right
      simp only [EchoServer.work, EchoServer.withIcc, hbefore, List.append_nil]
      omega

/-- A call of the dropper that does not wait does some of the work. -/
lemma withIpd_work {r : IpdState × List AxisIp4 × List CmdBit × List AxisIp4}
    (hmove : IpdMove s.ipd s.ssICcToIPdData s.ssICcToIPdDropCmd r) :
    s.withIpd r = s ∧
        (s.ssICcToIPdData = [] ∨ s.ipd.isFirstChunk = true ∧ s.ssICcToIPdDropCmd = []) ∨
      (s.withIpd r).work < s.work := by
  have hone (keep : Bool) (c : AxisIp4) : (if keep then [c] else []).length ≤ 1 := by
    cases keep <;> simp
  generalize hdata : s.ssICcToIPdData = data at hmove
  generalize hcmds : s.ssICcToIPdDropCmd = cmds at hmove
  cases hmove with
  | wait h =>
      refine .inl ⟨?_, h⟩
      have hself := withIpd_self (s := s)
      rwa [hdata, hcmds] at hself
  | @first c data cmds keep hs =>
      right
      have hle := hone keep c
      simp only [EchoServer.work, EchoServer.withIpd, hdata, Function.update_self,
        List.length_append, List.length_cons]
      omega
  | @next c data _ keep hs =>
      right
      have hle := hone keep c
      simp only [EchoServer.work, EchoServer.withIpd, hdata, Function.update_self,
        List.length_append, List.length_cons]
      omega

/-- A step of the checker. -/
lemma EchoInv.iccCall (h : EchoInv ps s out) :
    EchoInv ps (iccCall s) out ∧
      (iccCall s = s ∧ EchoStuck s .icc ∨ (iccCall s).work < s.work) := by
  obtain ⟨fut, O, hicc, hipd, hici⟩ := h.flow
  obtain ⟨fut', rfl, hinv, hmove⟩ := hicc.call
  rcases iccCall_cases s with ⟨hstay, hfull⟩ | ⟨hnext, -⟩
  · rw [hstay]
    refine ⟨h, .inl ⟨rfl, ?_⟩⟩
    rcases hfull with ⟨hdata, hfull⟩ | hcmd | hcsum
    · refine .inr (.inl ⟨?_, hfull⟩)
      generalize s.siIPRXData = input at hmove hdata
      generalize pIcmpChecksumChecker s.icc input = r at hmove hdata
      obtain ⟨icc, input', o⟩ := r
      cases hmove with
      | wait | compute | verdict => exact absurd rfl hdata
      | read hc => rw [iccBusy, hc]; rfl
      | write hw => rw [iccBusy, hw]; exact Bool.and_false _
    · exact .inr (.inr (.inl hcmd))
    · exact .inr (.inr (.inr hcsum))
  · rw [hnext]
    refine ⟨⟨h.counts.withIcc hmove, fut', O, hinv, ?_, ?_⟩, ?_⟩
    · rw [IccOut.append_data, IccOut.append_cmd, ← List.append_assoc, ← List.append_assoc] at hipd
      exact hipd
    · have hC := update_fromEcho s.ssUVwToICiCsum
        (pIcmpChecksumChecker s.icc s.siIPRXData).2.2.soICiCsum fut'.soICiCsum
      simp only [EchoServer.withIcc]
      rw [hC]
      exact hici
    · exact (withIcc_work hmove).imp_left fun hwait => ⟨hwait.1, .inl hwait.2⟩

/-- A step of the dropper. -/
lemma EchoInv.ipdCall (h : EchoInv ps s out) :
    EchoInv ps (ipdCall s) out ∧
      (ipdCall s = s ∧ EchoStuck s .ipd ∨ (ipdCall s).work < s.work) := by
  obtain ⟨fut, O, hicc, hipd, hici⟩ := h.flow
  obtain ⟨O', rfl, hinv⟩ := hipd.step
  have hmove := pInvalidPacketDropper_cases h.counts.drop s.ssICcToIPdData s.ssICcToIPdDropCmd
  rcases ipdCall_cases s with ⟨hstay, hfull⟩ | hnext
  · rw [hstay]
    exact ⟨h, .inl ⟨rfl, .inr (.inr hfull)⟩⟩
  · rw [hnext]
    refine ⟨⟨h.counts.withIpd hmove, fut, O', hicc, hinv, ?_⟩, ?_⟩
    · have hX := update_fromEcho s.ssXYzToICiData
        (pInvalidPacketDropper s.ipd s.ssICcToIPdData s.ssICcToIPdDropCmd).2.2.2 O'
      simp only [EchoServer.withIpd]
      rw [hX]
      exact hici
    · refine (withIpd_work hmove).imp_left fun hwait => ⟨hwait.1, ?_⟩
      exact hwait.2.imp_right .inl

/-- A step of the inserter. -/
lemma EchoInv.iciCall (hps : ∀ p ∈ ps, EchoRegular p) (h : EchoInv ps s out) :
    EchoInv ps (echoNext s .ici) (out ++ (echoStep s .ici).2) ∧
      (echoNext s .ici = s ∧ EchoStuck s .ici ∨ (echoNext s .ici).work < s.work) := by
  obtain ⟨fut, O, hicc, hipd, hici⟩ := h.flow
  have hall := echoTotal_countable hps
  have hstep := hici.step hall
  have hnext : echoNext s .ici =
      s.withIci (pIcmpChecksumInserter s.ici s.ssXYzToICiData s.ssUVwToICiCsum) := rfl
  have hout : (echoStep s .ici).2 =
      (pIcmpChecksumInserter s.ici s.ssXYzToICiData s.ssUVwToICiCsum).soIPTXData := rfl
  rw [hnext, hout]
  rcases hici.moves hall rfl with ⟨hcall, hwait⟩ | ⟨c, cs, csums, hxyz, hX, hC, hcount, hlen⟩
  · rw [hcall]
    refine ⟨?_, .inl ⟨rfl, hwait⟩⟩
    rw [List.append_nil]
    exact h
  · refine ⟨⟨h.counts.withIci hxyz hX hC hcount hlen, fut, O, hicc, hipd, hstep⟩, .inr ?_⟩
    simp only [EchoServer.work, EchoServer.withIci, hX, Function.update_self, hxyz,
      List.length_cons]
    omega

/-- **A step** keeps the invariant, and it does some of the work or has to wait. -/
lemma EchoInv.next (hps : ∀ p ∈ ps, EchoRegular p) (h : EchoInv ps s out) (l : EchoLabel) :
    EchoInv ps (echoNext s l) (out ++ (echoStep s l).2) ∧
      (echoNext s l = s ∧ EchoStuck s l ∨ (echoNext s l).work < s.work) := by
  cases l with
  | icc =>
      obtain ⟨hinv, hmove⟩ := h.iccCall
      exact ⟨(List.append_nil out).symm ▸ hinv, hmove⟩
  | ipd =>
      obtain ⟨hinv, hmove⟩ := h.ipdCall
      exact ⟨(List.append_nil out).symm ▸ hinv, hmove⟩
  | ici => exact h.iciCall hps

/-- A run keeps the invariant. -/
lemma EchoInv.run (hps : ∀ p ∈ ps, EchoRegular p) (h : EchoInv ps s out) (ls : List EchoLabel) :
    EchoInv ps (Clocked.run echoNext s ls)
      (out ++ emits echoNext (fun s l => (echoStep s l).2) s ls) := by
  induction ls generalizing s out with
  | nil =>
      rw [emits_nil, List.append_nil]
      exact h
  | cons l ls ih =>
      rw [emits_cons, ← List.append_assoc]
      exact ih (h.next hps l).1

end Steps

/-! ### The end of the work -/

section Drained

variable {ps : List EchoPacket} {s : EchoServer} {out : List AxisIp4}

/-- The FIFO has room for one more chunk of the packet that is being read. -/
lemma IccInv.written {s : IccState} {input : List AxisIp4} {fut : IccOut}
    (h : IccInv s input fut) : iccWritten s ≤ 63 := by
  rw [iccWritten]
  cases h with
  | idle hqs hs =>
      rw [hs.writeLastOne, hs.chunkCount]
      decide
  | @mid cs qs hqs hw hc hs hprev hcs hlen =>
      rw [hw, if_neg Bool.false_ne_true]
      omega
  | last hqs hc hk hprev =>
      rw [hk]
      split_ifs <;> decide

/-- Without anything to read the checker has nothing more to write. -/
lemma IccInv.done {s : IccState} {fut : IccOut} (h : IccInv s [] fut) (hc : s.computeCs = false) :
    fut = {} ∧ s.chunkCount = 0 := by
  generalize hinput : ([] : List AxisIp4) = input at h
  cases h with
  | @idle qs hqs hs =>
      refine ⟨?_, hs.chunkCount⟩
      cases qs with
      | nil => rfl
      | cons cs qs =>
          have hne := (hqs cs List.mem_cons_self).wellFormed.isStream.ne_nil
          rw [List.flatten_cons] at hinput
          exact absurd (List.append_eq_nil_iff.mp hinput.symm).1 hne
  | @mid cs qs hqs hw hc hs hprev hcs hlen =>
      exact absurd (List.append_eq_nil_iff.mp hinput.symm).1 hcs.ne_nil
  | last hqs hc' =>
      rw [hc] at hc'
      cases hc'

/-- Without chunks the dropper has nothing more to write. -/
lemma IpdInv.done {s : IpdState} {O : List AxisIp4} (h : IpdInv s [] [] O) : O = [] := by
  generalize hdata : ([] : List AxisIp4) = data at h
  generalize hcmds : ([] : List CmdBit) = cmds at h
  cases h with
  | idle hitems =>
      obtain rfl := List.map_eq_nil_iff.mp hcmds.symm
      rfl
  | mid hcs hitems => exact absurd (List.append_eq_nil_iff.mp hdata.symm).1 hcs.ne_nil

/-- The packets of the only source. -/
lemma ofSource_fromEcho {blocks : List (Bool × CsumPacket)}
    (h : ofSource fromMessage blocks = []) : ofSource fromEcho blocks = blocks.map Prod.snd := by
  induction blocks with
  | nil => rfl
  | cons b blocks ih =>
      obtain ⟨i, p⟩ := b
      cases i with
      | true => cases h
      | false =>
          have hrest := ih h
          rw [List.map_cons, ← hrest]
          rfl

lemma echoTotal_fromMessage (ps : List EchoPacket) : echoTotal ps fromMessage = [] := rfl

/-- What has been sent is a first part of the replies. -/
lemma EchoInv.sent (h : EchoInv ps s out) :
    out <+: ((echoTotal ps fromEcho).map inserted).flatten := by
  obtain ⟨fut, O, hicc, hipd, hici⟩ := h.flow
  obtain ⟨blocks, hblocks, hout⟩ := hici.blocks
  have hmessage := List.prefix_nil.mp (echoTotal_fromMessage ps ▸ hblocks fromMessage)
  have hecho := hblocks fromEcho
  rw [ofSource_fromEcho hmessage] at hecho
  obtain ⟨rest, hrest⟩ := hecho
  refine hout.trans ?_
  rw [← hrest, List.map_append, List.map_map, List.flatten_append]
  exact ⟨(rest.map inserted).flatten, by rw [List.flatMap_def]; rfl⟩

/-- **If every process has to wait**, all replies have been sent. -/
lemma EchoInv.drained (hps : ∀ p ∈ ps, EchoRegular p) (h : EchoInv ps s out)
    (hstuck : ∀ l, EchoStuck s l) : out = ((echoTotal ps fromEcho).map inserted).flatten := by
  obtain ⟨fut, O, hicc, hipd, hici⟩ := h.flow
  have hwritten := hicc.written
  have hverdicts := h.counts.verdicts
  have hcsums := h.counts.csums
  have hdepth := h.counts.depth
  have hlink := h.counts.link
  -- a chunk for the inserter would be one of a packet whose checksum has been written
  have hxyz : s.ssXYzToICiData fromEcho = [] := by
    rcases hstuck .ici with hnil | ⟨h2, hcsum⟩
    · exact hnil
    · have hzero : s.ici.inserted = 0 := by rw [IciState.inserted, h2]; rfl
      rw [hcsum, hzero, List.length_nil] at hcsums
      rw [openFrom_of_none (by omega), h2] at hlink
      have hkeeps := hlink.mp (Nat.add_pos_left (by decide) _)
      rw [hkeeps] at hcsums
      simp only [Bool.toNat_true] at hcsums
      omega
  rw [hxyz, List.countP_nil] at hcsums
  rw [hxyz, openFrom_nil] at hlink
  have hquiet (hfirst : s.ipd.isFirstChunk = true) (hcmd : s.ssICcToIPdDropCmd = []) :
      s.ici.chunkCount = 0 ∧ s.ssUVwToICiCsum fromEcho = [] := by
    have hkeeps : s.ipd.keeps = false := by rw [IpdState.keeps, hfirst]; rfl
    rw [hkeeps] at hlink hcsums
    rw [hcmd] at hcsums
    have hzero : s.ici.chunkCount.toNat = 0 := by
      by_contra hne
      exact Bool.false_ne_true (hlink.mp (Nat.pos_of_ne_zero hne))
    refine ⟨BitVec.eq_of_toNat_eq hzero, List.eq_nil_of_length_eq_zero ?_⟩
    simp only [List.countP_nil, Bool.toNat_false] at hcsums
    omega
  -- a packet that waits for its verdict leaves room in the FIFO
  have hidle (hfirst : s.ipd.isFirstChunk = true) (hcmd : s.ssICcToIPdDropCmd = []) :
      s.icc.computeCs = false ∧ s.siIPRXData = [] := by
    obtain ⟨-, hcsum⟩ := hquiet hfirst hcmd
    rcases hstuck .icc with ⟨-, hc, hinput⟩ | ⟨hbusy, hfull⟩ | hfull | hfull
    · exact ⟨hc, hinput⟩
    · rw [hcmd, hfirst, hbusy] at hverdicts
      rw [openFrom_of_none hverdicts.symm] at hdepth
      omega
    · rw [hcmd] at hfull
      exact absurd hfull (by decide)
    · rw [hcsum] at hfull
      exact absurd hfull (by decide)
  have hempty : s.ssICcToIPdData = [] ∧ s.ipd.isFirstChunk = true ∧ s.ssICcToIPdDropCmd = [] := by
    rcases hstuck .ipd with hdata | ⟨hfirst, hcmd⟩ | hfull
    · rw [hdata, List.countP_nil] at hverdicts
      refine ⟨hdata, ?_, List.eq_nil_of_length_eq_zero (by omega)⟩
      cases hfirst : s.ipd.isFirstChunk with
      | true => rfl
      | false =>
          rw [hfirst] at hverdicts
          simp only [Bool.not_false, Bool.toNat_true] at hverdicts
          omega
    · obtain ⟨hc, hinput⟩ := hidle hfirst hcmd
      rw [hinput] at hicc
      have hcount := (hicc.done hc).2
      have hbusy : iccBusy s.icc = false := by rw [iccBusy, hc]; rfl
      rw [hcmd, hfirst, hbusy] at hverdicts
      refine ⟨List.eq_nil_of_length_eq_zero ?_, hfirst, hcmd⟩
      rw [openFrom_of_none hverdicts.symm] at hdepth
      have hroom := hdepth.trans hwritten
      rw [iccWritten, hcount] at hdepth
      rcases hstuck .icc with ⟨hw, -⟩ | ⟨-, hfull⟩ | hfull | hfull
      · rw [hw, if_neg Bool.false_ne_true] at hdepth
        exact Nat.le_zero.mp ((Nat.le_add_left _ _).trans hdepth)
      · omega
      · rw [hcmd] at hfull
        exact absurd hfull (by decide)
      · rw [(hquiet hfirst hcmd).2] at hfull
        exact absurd hfull (by decide)
    · rw [hxyz] at hfull
      exact absurd hfull (by decide)
  obtain ⟨hdata, hfirst, hcmd⟩ := hempty
  obtain ⟨hcount, -⟩ := hquiet hfirst hcmd
  obtain ⟨hc, hinput⟩ := hidle hfirst hcmd
  rw [hinput] at hicc
  obtain ⟨rfl, -⟩ := hicc.done hc
  rw [hdata, hcmd] at hipd
  obtain rfl := hipd.done
  have hall := echoTotal_countable hps
  cases hici with
  | @idle blocks rest hs htotal hX hC hout =>
      have hmessage : ofSource fromMessage blocks = [] :=
        (List.append_eq_nil_iff.mp (htotal fromMessage).symm).1
      have hrest : rest fromEcho = [] := by
        cases hrest : rest fromEcho with
        | nil => rfl
        | cons q qs =>
            have hq : Countable q := hall fromEcho q (by rw [htotal fromEcho, hrest]; simp)
            have hnil := hX fromEcho
            rw [hxyz, hrest, List.flatMap_cons] at hnil
            exact absurd (List.append_eq_nil_iff.mp hnil.symm).1 hq.isStream.ne_nil
      rw [htotal fromEcho, hrest, List.append_nil, ofSource_fromEcho hmessage, List.map_map,
        hout, List.flatMap_def]
      rfl
  | @mid blocks rest cur hs hpos hlen htotal hX hC hout =>
      have hq : Countable cur.packet := hall cur.source cur.packet (by rw [htotal cur.source]; simp)
      have hmax := hq.length
      have hzero := congrArg BitVec.toNat hcount
      rw [hs, BitVec.toNat_ofNat] at hzero
      change cur.sent % 128 = 0 at hzero
      omega

end Drained

/-! ### The law -/

/-- The state at power-up. -/
lemma echoInv_start {ps : List EchoPacket} (hps : ∀ p ∈ ps, EchoRegular p) :
    EchoInv ps (echoStart ps) [] := by
  have hflatten : ps.flatMap Subtype.val = (ps.map Subtype.val).flatten := List.flatMap_def ..
  have hqs : ∀ cs ∈ ps.map Subtype.val, Fits cs := by
    intro cs hcs
    obtain ⟨p, hp, rfl⟩ := List.mem_map.mp hcs
    exact (hps p hp).fits
  refine ⟨⟨fun _ => rfl, rfl, rfl, Nat.zero_le _, iff_of_false (lt_irrefl 0) Bool.false_ne_true⟩,
    echoOuts (ps.map Subtype.val),
    keptChunks (ps.map fun p => (echoData p.val, decide (Passes p.val))), ?_, ?_, ?_⟩
  · rw [echoStart, hflatten]
    exact .idle hqs ⟨rfl, rfl, rfl, rfl⟩
  · rw [echoOuts_data, echoOuts_cmd]
    have hidle := @IpdInv.idle (ps.map fun p => (echoData p.val, decide (Passes p.val)))
      fun q hq => by
        obtain ⟨p, hp, rfl⟩ := List.mem_map.mp hq
        exact isStream_echoData p.property.1 p.property.2
    rw [List.flatMap_map, List.map_map] at hidle
    rw [List.flatMap_map, List.map_map]
    exact hidle
  · refine @IciInv.idle _ _ _ _ _ [] (echoTotal ps) rfl (fun i => rfl) (fun i => ?_) (fun i => ?_)
      rfl
    · cases i with
      | true => rfl
      | false =>
          have hfilter : keptChunks (ps.map fun p => (echoData p.val, decide (Passes p.val))) =
              ((ps.filter fun p => Passes p.val).map fun p => echoData p.val).flatten := by
            rw [keptChunks, List.filter_map, List.flatMap_map, List.flatMap_def]
            rfl
          have hecho : false = fromEcho := rfl
          rw [if_pos hecho, hfilter, echoTotal, if_pos hecho, List.flatMap_map, List.flatMap_def]
          rfl
    · cases i with
      | true => rfl
      | false =>
          have hecho : false = fromEcho := rfl
          rw [if_pos hecho, echoOuts_csum, echoTotal, if_pos hecho, List.filter_map, List.map_map,
            List.map_map]
          rfl

section Law

variable {ps : List EchoPacket}

lemma echoInv_run (hps : ∀ p ∈ ps, EchoRegular p) (ls : List EchoLabel) :
    EchoInv ps (echoRun ps ls) (echoSent ps ls) := by
  have h := (echoInv_start hps).run hps ls
  rwa [List.nil_append] at h

/-- After more rounds than there is work, everything has been sent. -/
lemma echo_settles (hps : ∀ p ∈ ps, EchoRegular p) (ls : List EchoLabel)
    {rounds : List (List EchoLabel)} (hrounds : ∀ round ∈ rounds, Round round)
    (hwork : (echoRun ps ls).work < rounds.length) :
    echoSent ps (ls ++ rounds.flatten) = ((echoTotal ps fromEcho).map inserted).flatten := by
  obtain ⟨before, round, after, rfl, ⟨out, hinv⟩, hfix⟩ :=
    @Clocked.rounds_settle _ _ echoNext (fun s => ∃ out, EchoInv ps s out) (fun _ => True)
      EchoServer.work
      (fun s l ⟨out, hs⟩ _ =>
        ⟨⟨_, (hs.next hps l).1⟩, (hs.next hps l).2.imp_left And.left⟩)
      _ rounds ⟨_, echoInv_run hps ls⟩ (fun _ _ _ _ => trivial) hwork
  have hround := hrounds round (by simp)
  have hcalls (l : EchoLabel) : l ∈ round := by
    cases l with
    | icc => exact hround.1
    | ipd => exact hround.2.1
    | ici => exact hround.2.2
  have hstate : Clocked.run echoNext (echoRun ps ls) before.flatten =
      echoRun ps (ls ++ before.flatten) := (Clocked.run_append ..).symm
  rw [hstate] at hfix hinv
  have hrun := echoInv_run hps (ls ++ before.flatten)
  have hall := hrun.drained hps fun l => by
    rcases (hrun.next hps l).2 with ⟨-, hstuck⟩ | hless
    · exact hstuck
    · rw [hfix l (hcalls l)] at hless
      exact absurd hless (lt_irrefl _)
  have hsent := (echoInv_run hps (ls ++ (before ++ round :: after).flatten)).sent
  have hmore : echoSent ps (ls ++ before.flatten) <+:
      echoSent ps (ls ++ (before ++ round :: after).flatten) := by
    rw [List.flatten_append, ← List.append_assoc]
    exact ⟨_, (emits_append ..).symm⟩
  rw [hall] at hmore
  exact hsent.eq_of_length_le hmore.length_le

/-- **The echo service.** On regular packets, in every run: what is sent is a first part of the
replies to the requests, one for each, in their order; and when the processes go on being called,
every request has its reply. -/
theorem echo_law (hps : ∀ p ∈ ps, EchoRegular p) (ls : List EchoLabel) : EchoLaw ps ls := by
  refine ⟨⟨_, replies_echoTotal hps, (echoInv_run hps ls).sent⟩,
    (echoRun ps ls).work + 1, fun rounds hrounds hlen => ?_⟩
  exact ⟨_, replies_echoTotal hps, echo_settles hps ls hrounds hlen⟩

end Law

/-- A packet with the message of four words behind the header: a request for an echo, if the
checksum is right. -/
def pingPacket (csum : IcmpCsum) : List AxisIp4 :=
  [ AxisRaw.ofBytes [0x45, 0, 0, 32, 0, 0, 0, 0] false (by decide),
    AxisRaw.ofBytes [64, 1, 0, 0, 10, 0, 0, 1] false rfl,
    AxisRaw.ofBytes ([10, 0, 0, 2, 8, 0] ++ bytes16 csum) false rfl,
    AxisRaw.ofBytes [0, 1, 0, 1, 0xAB, 0xCD, 0x12, 0x34] true rfl ]

/-- A request, a packet with a wrong checksum, and the request again. -/
def twoPings : List EchoPacket :=
  [ ⟨pingPacket 0x39FC, by decide +kernel⟩, ⟨pingPacket 0x39FD, by decide +kernel⟩,
    ⟨pingPacket 0x39FC, by decide +kernel⟩ ]

theorem echo_law_twoPings : EchoLaw twoPings [.icc, .icc, .ipd, .ici] :=
  echo_law (by decide +kernel) _

end CloudFpga.Icmp
