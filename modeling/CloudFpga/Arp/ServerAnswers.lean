import CloudFpga.Arp.ServerFlow

/-!
What the ARP server owes its partners.

* `ArpServer.work`: how many calls the processes may still take.
* `arp_moves`: a call does some of the work, or its process has nothing to do.
* `arp_law`: as long as every frame is complete and not too long, the run is safe and everything is
  answered.
* `truncated`: a complete frame, and one of a single chunk behind it; `not_arp_law_truncated`: the
  binding of the first one is given to the CAM twice.
-/

namespace CloudFpga.Arp

open Foundation

/-! ### The work -/

/-- The calls that the sender may still take. -/
def ApsState.work (s : ApsState) : ℕ :=
  if s.fsmState = .aprIdle then if s.sendCount = 0 then 0 else 1 else 8 - s.sendCount.toNat

/-- The calls that the processes may still take. -/
def ArpServer.work (s : ArpServer) : ℕ :=
  13 * s.siIPRXData.length + 9 * s.ssAPrToAPsMeta.length + 3 * s.ssAPrToACcUpdateReq.length +
    s.aps.work + 9 * s.ssACcToAPsMeta.length + 12 * s.siIPTXMacLkpReq.length +
    11 * s.camMacLkpReq.length + 10 * s.camMacLkpRep.length + 2 * s.camMacUpdReq.length +
    s.camMacUpdRep.length

/-- The process that is called has nothing to do. -/
def Rests (s : ArpServer) : ArpLabel → Prop
  | .apr =>
      s.siIPRXData = [] ∨ 4 ≤ s.ssAPrToAPsMeta.length ∨ 4 ≤ s.ssAPrToACcUpdateReq.length
  | .aps => s.aps.fsmState = .aprIdle ∧ s.ssAPrToAPsMeta = [] ∧ s.ssACcToAPsMeta = []
  | .acc =>
      s.accFsmState = .accIdle ∧ s.siIPTXMacLkpReq = [] ∧ s.ssAPrToACcUpdateReq = [] ∨
        s.accFsmState ≠ .accIdle ∧ (s.accFsmState = .accUpdate → s.camMacUpdRep = []) ∧
          (s.accFsmState = .accLookup → s.camMacLkpRep ≠ [] → 4 ≤ s.ssACcToAPsMeta.length)
  | .camLookup _ => s.camMacLkpReq = []
  | .camUpdate => s.camMacUpdReq = []
  | .frame _ | .macLkpReq _ => False

section Moves

variable {macAddress : EthAddr} {ipAddress : Ip4Addr} {s : ArpServer} {r : ArpServer × ArpEvent}

lemma receiver_length (s : AprState) (c : AxisEth) :
    (pArpPacketReceiver ipAddress s c).2.soAPsMeta.length ≤ 1 ∧
      (pArpPacketReceiver ipAddress s c).2.soACcUpdateReq.length ≤ 1 := by
  rw [pArpPacketReceiver]
  by_cases hlast : c.tlast
  · rw [if_pos hlast]
    refine ⟨?_, le_refl 1⟩
    dsimp only
    split_ifs <;> simp
  · rw [if_neg hlast]
    exact ⟨Nat.zero_le 1, Nat.zero_le 1⟩

lemma missKey_length (a : Ip4Addr × ArpLkpReply) : (missKey a).length ≤ 1 := by
  rw [missKey]
  split_ifs
  · exact Nat.zero_le 1
  · exact le_refl 1

lemma apr_moves (h : AprCall ipAddress s r) :
    r.1 = s ∧ Rests s .apr ∨ r.1.work < s.work := by
  cases h with
  | idle hq => exact .inl ⟨rfl, .inl hq⟩
  | full hq hfull => exact .inl ⟨rfl, .inr hfull⟩
  | @read c _ _ _ hq hc =>
      right
      obtain ⟨hmeta, hbind⟩ := @receiver_length ipAddress s.apr c
      simp only [hc] at hmeta hbind
      simp only [ArpServer.work, hq, List.length_append, List.length_cons]
      omega

lemma aps_moves (hs : ApsInv s) (h : ApsCall macAddress ipAddress s r) :
    r.1 = s ∧ Rests s .aps ∨ r.1.work < s.work := by
  cases h with
  | idle hidle hm ha =>
      by_cases hcount : s.aps.sendCount = 0
      · refine .inl ⟨?_, hidle, hm, ha⟩
        dsimp only
        rw [← hcount]
      · right
        have hwork : s.aps.work = 1 := by rw [ApsState.work, if_pos hidle, if_neg hcount]
        have hwork' : ({ s.aps with sendCount := 0 } : ApsState).work = 0 := by
          rw [ApsState.work, if_pos hidle, if_pos rfl]
        simp only [ArpServer.work, hwork, hwork']
        omega
  | @reply m _ hidle hm =>
      right
      have hwork : ({ s.aps with sendCount := 0, aprMeta := m, fsmState := .aprReply } :
          ApsState).work = 8 := rfl
      simp only [ArpServer.work, hwork, hm, List.length_cons]
      omega
  | @request a _ hidle ha =>
      right
      have hwork : ({ s.aps with sendCount := 0, tpaReq := a, fsmState := .aprSentrq } :
          ApsState).work = 8 := rfl
      simp only [ArpServer.work, hwork, ha, List.length_cons]
      omega
  | @send job hjob =>
      right
      have hbusy : s.aps.fsmState ≠ .aprIdle := by
        rcases hjob with ⟨h, -⟩ | ⟨h, -⟩ <;> simp [h]
      have hlt := hs hbusy
      have hwork : s.aps.work = 8 - s.aps.sendCount.toNat := by rw [ApsState.work, if_neg hbusy]
      have hless : (apsSend macAddress ipAddress s job).1.aps.work < s.aps.work := by
        rw [hwork]
        by_cases hlast : s.aps.sendCount = 5
        · have hone : (apsSend macAddress ipAddress s job).1.aps.work = 1 := by
            rw [ApsState.work, apsSend, if_pos (if_pos hlast), hlast]
            rfl
          rw [hone, hlast]
          decide
        · have hcount : (s.aps.sendCount + 1).toNat = s.aps.sendCount.toNat + 1 := by bv_omega
          rw [ApsState.work, apsSend, if_neg hlast, if_neg hbusy, hcount]
          omega
      have hrest : (apsSend macAddress ipAddress s job).1.work + s.aps.work =
          s.work + (apsSend macAddress ipAddress s job).1.aps.work := by
        simp only [ArpServer.work, apsSend]
        omega
      omega

lemma acc_moves (h : AccCall s r) : r.1 = s ∧ Rests s .acc ∨ r.1.work < s.work := by
  cases h with
  | idle hs hk hb => exact .inl ⟨rfl, .inl ⟨hs, hk, hb⟩⟩
  | wait hu hl hi => exact .inl ⟨rfl, .inr ⟨hi, hu, hl⟩⟩
  | broadcast hs hk | lookup hs hk =>
      right
      simp only [ArpServer.work, hk, List.length_append, List.length_cons, List.length_nil]
      omega
  | update hs hb =>
      right
      simp only [ArpServer.work, hb, List.length_append, List.length_cons, List.length_nil]
      omega
  | updated hs hr =>
      right
      simp only [ArpServer.work, hr, List.length_cons]
      omega
  | @answer rep _ hs hr =>
      right
      have hlen := missKey_length (s.ipLkpKey, rep)
      simp only [ArpServer.work, hr, List.length_append, List.length_cons]
      omega

/-- A call does some of the work, or its process has nothing to do. -/
lemma arp_moves (hs : ApsInv s) {l : ArpLabel} (hl : IsCall l) :
    arpNext macAddress ipAddress s l = s ∧ Rests s l ∨
      (arpNext macAddress ipAddress s l).work < s.work := by
  rw [arpNext]
  cases l with
  | frame f => cases hl.1
  | macLkpReq key => cases hl.2
  | apr => exact apr_moves (aprCall_cases s)
  | aps => exact aps_moves hs (pArpPacketSender_cases s)
  | acc => exact acc_moves (pArpCamController_cases s)
  | camLookup missValue =>
      rw [arpStep, camLookup]
      split
      · next hk => exact .inl ⟨rfl, hk⟩
      · next hk =>
          right
          simp only [ArpServer.work, hk, List.length_append, List.length_cons, List.length_nil]
          omega
  | camUpdate =>
      rw [arpStep, camUpdate]
      split
      · next hb => exact .inl ⟨rfl, hb⟩
      · next hb =>
          right
          simp only [ArpServer.work, hb, List.length_append, List.length_cons, List.length_nil]
          omega

end Moves

/-! ### All is done -/

/-- Nothing is left to do. -/
structure Drained (s : ArpServer) : Prop where
  rx : s.siIPRXData = []
  metas : s.ssAPrToAPsMeta = []
  binds : s.ssAPrToACcUpdateReq = []
  aps : s.aps.fsmState = .aprIdle
  keys : s.ssACcToAPsMeta = []
  acc : s.accFsmState = .accIdle
  lookups : s.siIPTXMacLkpReq = []

/-- If no process has anything to do, nothing is left. -/
lemma drained_of_rests {s : ArpServer} (hcam : CamAsked s) (hapr : Rests s .apr)
    (haps : Rests s .aps) (hacc : Rests s .acc) (hlkp : s.camMacLkpReq = [])
    (hupd : Rests s .camUpdate) : Drained s := by
  obtain ⟨hidle, hmetas, hkeys⟩ := haps
  have hacc' : s.accFsmState = .accIdle ∧ s.siIPTXMacLkpReq = [] ∧ s.ssAPrToACcUpdateReq = [] := by
    rcases hacc with h | ⟨hbusy, hwait, hfull⟩
    · exact h
    · exfalso
      cases hcam with
      | idle hs => exact hbusy hs
      | update hs _ _ hureq =>
          rw [Rests, hureq] at hupd
          cases hupd
      | updated hs _ _ _ hurep =>
          have hnone := hwait hs
          rw [hurep] at hnone
          cases hnone
      | lookup hs _ hlreq =>
          rw [hlreq] at hlkp
          cases hlkp
      | found hs _ _ hlrep =>
          have hlen := hfull hs (by rw [hlrep]; exact List.cons_ne_nil _ _)
          rw [hkeys] at hlen
          exact absurd hlen (by decide)
  obtain ⟨hs, hlookups, hbinds⟩ := hacc'
  refine ⟨?_, hmetas, hbinds, hidle, hkeys, hs, hlookups⟩
  rcases hapr with h | h | h
  · exact h
  · rw [hmetas] at h
    exact absurd h (by decide)
  · rw [hbinds] at h
    exact absurd h (by decide)

section Rounds

variable {macAddress : EthAddr} {ipAddress : Ip4Addr} {regs : ArpRegs} {ls : List ArpLabel}

/-- Once nothing is left, all is done. -/
lemma done_of_drained (hfs : ∀ f ∈ arpFrames ls, Regular f)
    (h : Drained (arpRun macAddress ipAddress regs ls)) :
    ArpDone macAddress ipAddress regs ls := by
  obtain ⟨-, hmeta, hbind⟩ := @arp_receiver macAddress ipAddress regs ls
  obtain ⟨hmetas, hbinds⟩ := @receiver_frames ipAddress _ hfs regs.apr
  rw [@arp_chunks macAddress ipAddress regs ls, h.rx,
    List.append_nil] at hmetas hbinds
  rw [← hmeta, arp_metas, h.metas, List.append_nil] at hmetas
  rw [← hbind, arp_binds, h.binds, List.append_nil] at hbinds
  refine ⟨hbinds, ?_, ?_⟩
  · refine ⟨_, _, frames_of_jobs (arpEmits macAddress ipAddress regs ls ArpEvent.job), ?_, hmetas, ?_⟩
    · rw [← List.flatMap_def, arp_frames, apsRest, apsJob, h.aps]
      exact (List.append_nil _).symm
    · rw [arp_keys, h.keys, List.append_nil]
  · have hkeys := @arp_lookups macAddress ipAddress regs ls
    rw [accKey, h.acc, if_neg (by decide), h.lookups, List.append_nil, List.append_nil] at hkeys
    exact hkeys.symm

/-- The invariant of the runs. -/
def ArpInv (s : ArpServer) : Prop := ApsInv s ∧ ∃ bs, CamInv bs s

lemma ArpInv.next {s : ArpServer} (h : ArpInv s) (l : ArpLabel) :
    ArpInv (arpNext macAddress ipAddress s l) := by
  obtain ⟨haps, bs, hcam⟩ := h
  have hmove := @arpStep_cases macAddress ipAddress s l
  exact ⟨(apsRest_step haps hmove).2, _, (hcam.step hmove).1⟩

/-- If a round changes nothing, nothing is left to do, and no call changes anything. -/
lemma drained_of_round {s : ArpServer} (hs : ArpInv s) {round : List ArpLabel}
    (hround : Round round) (hfix : ∀ l ∈ round, arpNext macAddress ipAddress s l = s) :
    Drained s ∧ ∀ l, IsCall l → arpNext macAddress ipAddress s l = s := by
  have hrests : ∀ l ∈ round, Rests s l := by
    intro l hl
    rcases @arp_moves macAddress ipAddress _ hs.1 _ (hround.calls l hl) with h | h
    · exact h.2
    · rw [hfix l hl] at h
      exact absurd h (lt_irrefl _)
  obtain ⟨missValue, hmem⟩ := hround.camLookup
  obtain ⟨bs, hcam⟩ := hs.2
  have hlkp : s.camMacLkpReq = [] := hrests _ hmem
  refine ⟨drained_of_rests hcam.asked (hrests _ hround.apr) (hrests _ hround.aps)
    (hrests _ hround.acc) hlkp (hrests _ hround.camUpdate), fun l hl => ?_⟩
  cases l with
  | frame f => cases hl.1
  | macLkpReq key => cases hl.2
  | apr => exact hfix _ hround.apr
  | aps => exact hfix _ hround.aps
  | acc => exact hfix _ hround.acc
  | camLookup v => rw [arpNext, arpStep, camLookup, hlkp]
  | camUpdate => exact hfix _ hround.camUpdate

/-- **The ARP server**: as long as every frame has 42 bytes and no more than 256 chunks, the run is
safe, and after enough rounds everything is answered. -/
theorem arp_law (hfs : ∀ f ∈ arpFrames ls, Regular f) : ArpLaw macAddress ipAddress regs ls := by
  refine ⟨arpSafe hfs, (arpRun macAddress ipAddress regs ls).work + 1, fun rounds hrounds hlen => ?_⟩
  have hinv (ls : List ArpLabel) : ArpInv (arpRun macAddress ipAddress regs ls) := by
    have hstart : ArpInv (arpStart regs) :=
      ⟨fun h => absurd rfl h, [], .idle rfl rfl rfl rfl rfl, rfl⟩
    exact Clocked.run_inv (C := fun _ _ => True) (fun s l hs _ => hs.next l) hstart
      (Clocked.along_trivial _ _ _)
  have hframes : arpFrames (ls ++ rounds.flatten) = arpFrames ls := by
    have hnone : rounds.flatten.flatMap ArpLabel.frames = [] := by
      refine List.flatMap_eq_nil_iff.mpr fun l hl => ?_
      obtain ⟨round, hround, hl⟩ := List.mem_flatten.mp hl
      exact ((hrounds round hround).calls l hl).1
    rw [arpFrames, List.flatMap_append, hnone, List.append_nil, arpFrames]
  obtain ⟨pre, round, post, rfl, hpre, hfix⟩ := @Clocked.rounds_settle _ _
    (arpNext macAddress ipAddress) ArpInv IsCall ArpServer.work
    (fun s l hs hl => ⟨hs.next l, (arp_moves hs.1 hl).imp_left And.left⟩) _ _ (hinv ls)
    (fun r hr => (hrounds r hr).calls) hlen
  have hmid : round ∈ pre ++ round :: post := List.mem_append_right _ List.mem_cons_self
  obtain ⟨hdrained, hstill⟩ := drained_of_round hpre (hrounds round hmid) hfix
  refine done_of_drained (by rwa [hframes]) ?_
  rw [arpRun, Clocked.run_append, List.flatten_append, Clocked.run_append, ← arpRun,
    Clocked.run_fixed fun l hl => hstill l ?_]
  · exact hdrained
  · obtain ⟨r, hr, hl⟩ := List.mem_flatten.mp hl
    exact (hrounds r (List.mem_append_right _ hr)).calls l hl

/-! ### Frames that are not complete -/

/-- A request for 10.0.0.1 from 10.0.0.2, as the sender writes it. -/
def request : EthFrame :=
  ⟨arpFrame 0x020000000002 0x0A000002 (.request 0x0A000001),
    (arpFrame_bytes 0x020000000002 0x0A000002 (.request 0x0A000001)).1⟩

/-- A request and a lookup of its sender. -/
def resolved : List ArpLabel :=
  [.frame request] ++ List.replicate 6 .apr ++ [.acc, .camUpdate, .acc, .macLkpReq 0x0A000002,
    .acc, .camLookup 0, .acc]

lemma request_length : (streamBytes request.val).length = 42 := by
  rw [request, (arpFrame_bytes _ _ _).2]
  rfl

theorem arp_law_resolved :
    (∀ f ∈ arpFrames resolved, Regular f) ∧ ArpLaw 0x020000000001 0x0A000001 {} resolved := by
  have hfs : ∀ f ∈ arpFrames resolved, Regular f := by
    intro f hf
    have hone : arpFrames resolved = [request] := rfl
    rw [hone] at hf
    rw [List.mem_singleton.mp hf]
    exact ⟨request_length.ge, by decide⟩
  exact ⟨hfs, arp_law hfs⟩

/-- A frame of a single chunk. -/
def runt : EthFrame :=
  ⟨[{ sendCunk with tlast := true }], rfl, by decide⟩

/-- A request, and a runt behind it. -/
def truncated : List ArpLabel :=
  [.frame request, .frame runt] ++ List.replicate 7 .apr ++ [.acc, .camUpdate, .acc, .acc]

/-- At the end of the runt the binding of the frame before it is given to the CAM again. -/
theorem not_arp_law_truncated : ¬ArpLaw 0x020000000001 0x0A000001 {} truncated := by
  rintro ⟨hsafe, -⟩
  have hbinds := hsafe.bindings.length_le
  have hgiven : (camBinds 0x020000000001 0x0A000001 {} truncated).length = 2 := by decide +kernel
  have hdue : (frameBinds truncated).length = 1 := by
    have hpackets : arpPackets truncated = [streamBytes request.val, streamBytes runt.val] := rfl
    have hrunt : ¬Complete (streamBytes runt.val) := by decide
    rw [frameBinds, hpackets, List.filter_cons_of_pos (by simp [Complete, request_length]),
      List.filter_cons_of_neg (by simpa using hrunt)]
    rfl
  rw [hgiven, hdue] at hbinds
  exact absurd hbinds (by decide)

end Rounds

end CloudFpga.Arp
