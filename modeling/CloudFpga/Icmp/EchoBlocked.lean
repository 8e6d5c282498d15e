import CloudFpga.Icmp.EchoService

/-!
A packet that is too long for `ssICcToIPd_Data` blocks the echo service for good: the dropper waits
for the verdict on it, and the checker for room in the FIFO.

* `EchoBlocked`: the state while such a packet is being read.
* `echo_blocked`: nothing is sent any more, whatever comes behind it.
-/

namespace CloudFpga.Icmp

open Foundation AxisRaw Toe Uoe

/-- The state while a packet is being read that is too long for the FIFO. -/
structure EchoBlocked (s : EchoServer) : Prop where
  cmds : s.ssICcToIPdDropCmd = []
  ipd : s.ipd.isFirstChunk = true
  xyz : ∀ i, s.ssXYzToICiData i = []
  ici : s.ici.chunkCount = 0
  icc : (s.icc.writeLastOne = true ∧ 64 ≤ s.ssICcToIPdData.length) ∨
    (s.icc.writeLastOne = false ∧ s.icc.computeCs = false ∧
      (s.icc.chunkCount ≠ 0 → s.icc.prevChunk.tlast = false) ∧
      s.ssICcToIPdData.length = s.icc.chunkCount.toNat - 1 ∧ s.icc.chunkCount.toNat ≤ 65 ∧
      ∃ cs rest, s.siIPRXData = cs ++ rest ∧ IsStream cs ∧
        64 < s.icc.chunkCount.toNat + cs.length)

section Blocked

variable {s : EchoServer}

/-- The checker reads on until the FIFO is full. -/
lemma EchoBlocked.icc_step (h : EchoBlocked s) : EchoBlocked (iccCall s) := by
  rcases iccCall_cases s with ⟨hstay, -⟩ | ⟨hnext, hroom⟩
  · rw [hstay]
    exact h
  rw [hnext]
  rcases h.icc with ⟨hw, hfull⟩ | ⟨hw, hc, hprev, hlen, hmax, cs, rest, hinput, hcs, hlong⟩
  · have hcall : pIcmpChecksumChecker s.icc s.siIPRXData =
        ((iccWrite s.icc).1, s.siIPRXData, (iccWrite s.icc).2) := if_pos hw
    rw [hcall] at hroom
    rcases hroom with hnil | hlt
    · cases hnil
    · omega
  · cases cs with
    | nil => exact absurd hcs id
    | cons c cs =>
        obtain ⟨s', c', d, hread, hlast, hw', hc', -, hk', -, hone⟩ := iccRead_spec s.icc c hprev
        have hcall : pIcmpChecksumChecker s.icc s.siIPRXData =
            (iccNext s' c', cs ++ rest, { soIPdData := d }) := by
          rw [hinput, List.cons_append, pIcmpChecksumChecker, hw, hc, if_neg Bool.false_ne_true,
            if_neg Bool.false_ne_true, hread]
        rw [hcall] at hroom ⊢
        rw [List.length_cons] at hlong
        -- a chunk is forwarded only into a FIFO with room
        have hk : s.icc.chunkCount.toNat ≤ 64 ∧
            (s.ssICcToIPdData ++ d).length = s.icc.chunkCount.toNat := by
          rw [List.length_append, hlen, hone]
          split_ifs with h0
          · rw [h0]
            decide
          · have hne : s.icc.chunkCount.toNat ≠ 0 := fun hz => h0 (BitVec.eq_of_toNat_eq hz)
            rcases hroom with hnil | hlt
            · rw [if_neg h0, show d = [] from hnil] at hone
              cases hone
            · omega
        have hsucc : (s.icc.chunkCount + 1).toNat = s.icc.chunkCount.toNat + 1 := by
          rw [BitVec.toNat_add]
          exact Nat.mod_eq_of_lt (by change s.icc.chunkCount.toNat + 1 < 128; omega)
        refine ⟨?_, h.ipd, h.xyz, h.ici, ?_⟩
        · simp only [EchoServer.withIcc, List.append_nil]
          exact h.cmds
        · simp only [EchoServer.withIcc]
          cases htlast : c.tlast with
          | true =>
              obtain rfl := (isPacket_cons_of_last htlast).mp hcs
              rw [iccNext, if_pos (hlast.trans htlast)]
              rw [List.length_nil] at hlong
              exact .inl ⟨rfl, by omega⟩
          | false =>
              rw [iccNext, if_neg (by simp [hlast, htlast])]
              refine .inr ⟨hw'.trans hw, hc'.trans hc, fun _ => hlast.trans htlast, ?_, ?_, cs,
                rest, rfl, (isPacket_cons_of_not_last htlast).mp hcs, ?_⟩
              · rw [hk', hsucc]
                exact hk.2
              · rw [hk', hsucc]
                omega
              · rw [hk', hsucc]
                omega

/-- Without a command the dropper waits. -/
lemma EchoBlocked.ipd_step (h : EchoBlocked s) : ipdCall s = s := by
  rcases ipdCall_cases s with ⟨hstay, -⟩ | hnext
  · exact hstay
  · have hself : pInvalidPacketDropper s.ipd s.ssICcToIPdData s.ssICcToIPdDropCmd =
        (s.ipd, s.ssICcToIPdData, s.ssICcToIPdDropCmd, []) := by
      rw [h.cmds, pInvalidPacketDropper.eq_def]
      cases s.ssICcToIPdData with
      | nil => rfl
      | cons c data =>
          dsimp only
          rw [if_pos h.ipd]
    rw [hnext, hself, withIpd_self]

/-- Without a chunk the inserter waits. -/
lemma EchoBlocked.ici_step (h : EchoBlocked s) : echoStep s .ici = (s, []) := by
  have hcall : pIcmpChecksumInserter s.ici s.ssXYzToICiData s.ssUVwToICiCsum =
      ⟨s.ici, s.ssXYzToICiData, s.ssUVwToICiCsum, []⟩ := by
    have hzero : s.ici.chunkCount.toNat = 0 := by rw [h.ici]; rfl
    rw [pIcmpChecksumInserter.eq_def, hzero]
    simp only [h.xyz]
  rw [echoStep]
  simp only [hcall]

/-- A step sends nothing. -/
lemma EchoBlocked.next (h : EchoBlocked s) (l : EchoLabel) :
    EchoBlocked (echoNext s l) ∧ (echoStep s l).2 = [] := by
  cases l with
  | icc => exact ⟨h.icc_step, rfl⟩
  | ipd =>
      have hnext : echoNext s .ipd = s := h.ipd_step
      exact ⟨hnext.symm ▸ h, rfl⟩
  | ici =>
      rw [echoNext, h.ici_step]
      exact ⟨h, rfl⟩

lemma EchoBlocked.run (h : EchoBlocked s) (ls : List EchoLabel) :
    emits echoNext (fun s l => (echoStep s l).2) s ls = [] := by
  induction ls generalizing s with
  | nil => rfl
  | cons l ls ih =>
      obtain ⟨hnext, hnone⟩ := h.next l
      rw [emits_cons, hnone, ih hnext]
      rfl

end Blocked

/-- **A packet of more than 64 chunks** blocks the echo service: nothing is sent in any run, not
even for the requests behind it. -/
theorem echo_blocked {p : EchoPacket} (hp : 64 < p.val.length) (ps : List EchoPacket)
    (ls : List EchoLabel) : echoSent (p :: ps) ls = [] := by
  have hstart : EchoBlocked (echoStart (p :: ps)) := by
    refine ⟨rfl, rfl, fun i => rfl, rfl, .inr ⟨rfl, rfl, fun h => absurd rfl h, rfl, Nat.zero_le _, ?_⟩⟩
    exact ⟨p.val, ps.flatMap Subtype.val, rfl, p.property.1.isStream, hp.trans_le (Nat.le_add_left ..)⟩
  exact hstart.run ls

/-- A request with 516 bytes of data, of which one is not zero. -/
def longPing : EchoPacket where
  val :=
    [ AxisRaw.ofBytes [0x45, 0, 2, 32, 0, 0, 0, 0] false (by decide),
      AxisRaw.ofBytes [64, 1, 0, 0, 10, 0, 0, 1] false (by decide),
      AxisRaw.ofBytes [10, 0, 0, 2, 8, 0, 0xF7, 0xFE] false (by decide),
      AxisRaw.ofBytes [0, 0, 0, 1, 0, 0, 0, 0] false (by decide) ] ++
    List.replicate 63 (AxisRaw.ofBytes [0, 0, 0, 0, 0, 0, 0, 0] false (by decide)) ++
    [AxisRaw.ofBytes [0, 0, 0, 0, 0, 0, 0, 0] true (by decide)]
  property := by decide +kernel

example : IsEcho longPing.bytes := by decide +kernel

theorem echo_blocked_longPing : echoSent (longPing :: twoPings) [.icc, .icc, .ipd, .ici] = [] :=
  echo_blocked (by decide) twoPings _

end CloudFpga.Icmp
