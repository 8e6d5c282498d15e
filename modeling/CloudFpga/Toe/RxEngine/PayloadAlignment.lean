import CloudFpga.Toe.RxEngine.FiniteStateMachine
import CloudFpga.Toe.RxEngine.MetaDataHandler
import CloudFpga.Toe.RxEngine.TcpSegmentDropper

/-!
The commands that accompany the payloads through the Rx engine.

The payload of a segment and the commands about it travel through separate streams: the first
command comes from the meta-data handler, and where it keeps the payload a second one from the
state machine, together with a memory write command.

* `RxSegment`: a received segment with all replies to it.
* `OneCommand`: each of the two processes writes exactly one command for a payload, and the
  state machine keeps the payload exactly when it writes a memory write command for it.
* `Aligned`: in a sequence of segments, each kept payload meets its own memory write command.
* `aligned_iff`: this is so exactly when every payload that reaches the state machine comes with
  the flags ACK or FIN+ACK.
-/

namespace CloudFpga.Toe

open Foundation DropJob

/-- A received segment: its meta-data and payload, and the replies of the port table, the session
lookup, the state table, the Rx and the Tx SAR table. -/
structure RxSegment where
  m : RXeMeta
  sockPair : SocketPair
  portOpen : Bool
  lkpRep : SessionLookupReply
  tcpState : TcpState
  rxSar : RxSarReply
  txSar : RXeTxSarReply
  payload : List AxisApp
  payload_wf : if m.length ≠ 0 then IsStream payload else payload = []

namespace RxSegment

variable (g : RxSegment)

/-- The output of the meta-data handler. -/
def mdhOut : MdhOut := pMetaDataHandler g.portOpen g.m g.sockPair g.lkpRep

/-- The port is open and the lookup hits. -/
def hit : Bool := g.portOpen && g.lkpRep.hit

/-- The meta-data that the state machine reads on a hit. -/
def fsmMeta : RXeFsmMeta :=
  { g.m with
    sessionId := g.lkpRep.sessionID
    ip4SrcAddr := g.sockPair.src.addr
    tcpSrcPort := g.sockPair.src.port
    tcpDstPort := g.sockPair.dst.port }

/-- The outputs of the state machine. -/
def fsmOut : List FsmOut := g.mdhOut.fsmMeta.map (fsmTransition · g.tcpState g.rxSar g.txSar)

/-- The commands of the state machine to the dropper and to the memory writer. -/
def fsmDropCmd : List CmdBit := g.fsmOut.flatMap (·.dropCmd)

def memWrCmd : List DmCmd := g.fsmOut.flatMap (·.memWrCmd)

/-- The payload with the memory write command for it. -/
def writes : List (List AxisApp × DmCmd) := g.memWrCmd.map (g.payload, ·)

/-- A payload that reaches the state machine comes with the flags ACK or FIN+ACK. -/
def PayloadFlags : Prop := g.m.length ≠ 0 → g.hit → ackOnly g.fsmMeta ∨ finAckOnly g.fsmMeta

/-- Each process writes exactly one command for a payload, the state machine on a hit only, and
keeps the payload exactly when it writes exactly one memory write command. -/
structure OneCommand : Prop where
  mdh : g.mdhOut.tsdDropCmd.length = if g.m.length ≠ 0 then 1 else 0
  fsm : g.fsmDropCmd.length = if g.m.length ≠ 0 ∧ g.hit then 1 else 0
  keep : g.fsmDropCmd = [cmdKeep] ↔ g.memWrCmd.length = 1

end RxSegment

open RxSegment

/-- The dropper before a sequence of segments. -/
def dropperInit (gs : List RxSegment) : TsdState where
  siMdhDropCmd := gs.flatMap (·.mdhOut.tsdDropCmd)
  siFsmDropCmd := gs.flatMap (·.fsmDropCmd)
  siTidData := gs.flatMap (·.payload)

/-- Every segment has its one command; and whatever the schedule of the dropper, it forwards the
payloads that have a memory write command, in the order of these commands, all of them once
enough cycles did not block it. -/
structure Aligned (gs : List RxSegment) : Prop where
  oneCommand : ∀ g ∈ gs, g.OneCommand
  forwarded : ∀ ks : List TsdCycle,
    (Clocked.run pTcpSegmentDropper (dropperInit gs) ks).soMwrData
      <+: (gs.flatMap writes).flatMap (·.1)
  done : ∀ ks : List TsdCycle,
    2 * gs.length + (gs.flatMap (·.payload)).length ≤ ks.countP TsdCycle.ready →
      Clocked.run pTcpSegmentDropper (dropperInit gs) ks =
        { siMdhDropCmd := [], siFsmDropCmd := [], siTidData := []
          soMwrData := (gs.flatMap writes).flatMap (·.1) }

/-! ### One segment -/

/-- The two branches that look at the payload write one command for it, and a memory write
command exactly when they keep it; the other branches ignore the payload. -/
lemma fsmTransition_commands (m : RXeFsmMeta) (tcpState : TcpState) (rxSar : RxSarReply)
    (txSar : RXeTxSarReply) :
    if m.length ≠ 0 ∧ (ackOnly m ∨ finAckOnly m) then
      ∃ cmd, (fsmTransition m tcpState rxSar txSar).dropCmd = [cmd] ∧
        (fsmTransition m tcpState rxSar txSar).memWrCmd
          = if cmd = cmdKeep then [rxMemWrCmd m] else []
    else (fsmTransition m tcpState rxSar txSar).dropCmd = [] ∧
      (fsmTransition m tcpState rxSar txSar).memWrCmd = [] := by
  rw [← FsmOut.data_dropCmd, ← FsmOut.data_memWrCmd]
  by_cases hack : ackOnly m
  · rw [fsmTransition_of_ackOnly _ _ _ hack, data_fsmAck]
    by_cases hlen : m.length = 0
    · rw [if_neg (by simp [hlen])]
      split <;> simp [ackPayload, dropPayload, hlen]
    · rw [if_pos ⟨hlen, .inl hack⟩]
      split
      · rw [ackPayload, if_pos hlen]
        cases oooCase m rxSar <;> exact ⟨_, rfl, rfl⟩
      · exact ⟨cmdDrop, if_pos hlen, rfl⟩
  · by_cases hfin : finAckOnly m
    · rw [fsmTransition_of_finAckOnly _ _ _ hfin, data_fsmFinAck]
      by_cases hlen : m.length = 0
      · rw [if_neg (by simp [hlen])]
        split
        · unfold finData finPayload
          simp only [hlen, ne_eq, not_true_eq_false, if_false]
          split_ifs <;> exact ⟨rfl, rfl⟩
        · simp [dropPayload, hlen]
      · rw [if_pos ⟨hlen, .inr hfin⟩]
        split
        · rw [finData, finPayload, if_pos hlen]
          exact ⟨cmdKeep, rfl, rfl⟩
        · exact ⟨cmdDrop, if_pos hlen, rfl⟩
    · rw [if_neg (by simp [hack, hfin])]
      obtain h | h | h := fsmTransition_of_other tcpState rxSar txSar hack hfin <;> rw [h]
      · unfold fsmSyn
        split_ifs <;> exact ⟨rfl, rfl⟩
      · unfold fsmSynAck
        split_ifs <;> exact ⟨rfl, rfl⟩
      · unfold fsmDefault
        split_ifs <;> exact ⟨rfl, rfl⟩

namespace RxSegment

variable (g : RxSegment)

lemma mdhOut_tsdDropCmd : g.mdhOut.tsdDropCmd = if g.m.length ≠ 0 then [!g.hit] else [] :=
  tsdDropCmd_pMetaDataHandler ..

lemma fsmOut_eq : g.fsmOut
    = if g.hit then [fsmTransition g.fsmMeta g.tcpState g.rxSar g.txSar] else [] := by
  unfold fsmOut mdhOut hit
  rw [fsmMeta_pMetaDataHandler]
  split <;> rfl

/-- The second command that the payload of the segment waits for. -/
def verdict : CmdBit := g.fsmDropCmd.headD cmdDrop

/-- On a hit, the commands of a segment with payload and the right flags. -/
lemma commands_of_hit (hhit : g.hit) (hlen : g.m.length ≠ 0)
    (hflags : ackOnly g.fsmMeta ∨ finAckOnly g.fsmMeta) :
    g.fsmDropCmd = [g.verdict] ∧
      g.memWrCmd = if g.verdict = cmdKeep then [rxMemWrCmd g.fsmMeta] else [] := by
  have h := fsmTransition_commands g.fsmMeta g.tcpState g.rxSar g.txSar
  have hlen' : g.fsmMeta.length ≠ 0 := hlen
  rw [if_pos ⟨hlen', hflags⟩] at h
  obtain ⟨cmd, hdrop, hmem⟩ := h
  have hcmd : g.fsmDropCmd = [cmd] := by simp [fsmDropCmd, fsmOut_eq, hhit, hdrop]
  have hv : g.verdict = cmd := by simp [verdict, hcmd]
  rw [hv]
  exact ⟨hcmd, by simp [memWrCmd, fsmOut_eq, hhit, hmem]⟩

/-- In all other cases the state machine writes no command at all. -/
lemma commands_of_other (h : g.hit → g.m.length ≠ 0 →
      ¬(ackOnly g.fsmMeta ∨ finAckOnly g.fsmMeta)) :
    g.fsmDropCmd = [] ∧ g.memWrCmd = [] := by
  unfold fsmDropCmd memWrCmd
  rw [fsmOut_eq]
  split
  · next hhit =>
      have hcmd := fsmTransition_commands g.fsmMeta g.tcpState g.rxSar g.txSar
      rw [if_neg fun ⟨hlen, hf⟩ => h hhit hlen hf] at hcmd
      simp [hcmd.1, hcmd.2]
  · exact ⟨rfl, rfl⟩

/-- A segment has its one command exactly when a payload of it that reaches the state machine
comes with the right flags. -/
lemma oneCommand_iff : g.OneCommand ↔ g.PayloadFlags := by
  have hmdh : g.mdhOut.tsdDropCmd.length = if g.m.length ≠ 0 then 1 else 0 := by
    rw [mdhOut_tsdDropCmd]
    split <;> rfl
  constructor
  · rintro ⟨-, hfsm, -⟩ hlen hhit
    rw [if_pos ⟨hlen, hhit⟩] at hfsm
    by_contra hflags
    rw [(g.commands_of_other fun _ _ => hflags).1] at hfsm
    cases hfsm
  · intro hflags
    by_cases h : g.m.length ≠ 0 ∧ g.hit
    · obtain ⟨hdrop, hmem⟩ := g.commands_of_hit h.2 h.1 (hflags h.1 h.2)
      refine ⟨hmdh, by rw [hdrop, if_pos h]; rfl, ?_⟩
      rw [hdrop, hmem]
      split <;> simp_all
    · obtain ⟨hdrop, hmem⟩ := g.commands_of_other fun hhit hlen => absurd ⟨hlen, hhit⟩ h
      refine ⟨hmdh, by rw [hdrop, if_neg h]; rfl, ?_⟩
      rw [hdrop, hmem]
      simp

/-- The segment as the dropper sees it, if it has a payload. -/
def jobs : List DropJob := if g.m.length ≠ 0 then [⟨!g.hit, g.verdict, g.payload⟩] else []

lemma payload_of_jobs : (g.jobs.flatMap (·.payload)) = g.payload := by
  have hwf := g.payload_wf
  unfold jobs
  split
  · simp
  · next hlen => rw [if_neg hlen] at hwf; simp [hwf]

/-- With the right flags, the streams that the dropper reads are those of the jobs. -/
lemma streams_of_jobs (h : g.PayloadFlags) :
    g.mdhOut.tsdDropCmd = g.jobs.map (·.mdhCmd) ∧ g.fsmDropCmd = fsmCmds g.jobs ∧
      g.writes.flatMap (·.1) = keptChunks g.jobs := by
  unfold jobs
  rw [mdhOut_tsdDropCmd]
  by_cases hlen : g.m.length ≠ 0
  · rw [if_pos hlen, if_pos hlen]
    cases hhit : g.hit with
    | false =>
        obtain ⟨hdrop, hmem⟩ := g.commands_of_other fun hh _ => by simp [hhit] at hh
        simp [hdrop, writes, hmem, fsmCmds, keptChunks, chunks, kept, cmdKeep]
    | true =>
        obtain ⟨hdrop, hmem⟩ := g.commands_of_hit hhit hlen (h hlen hhit)
        cases hv : g.verdict <;> rw [hv] at hdrop hmem <;>
          simp [hdrop, writes, hmem, fsmCmds, keptChunks, chunks, kept, cmdKeep]
  · rw [if_neg hlen, if_neg hlen]
    obtain ⟨hdrop, hmem⟩ := g.commands_of_other fun _ hl => absurd hl hlen
    simp [hdrop, writes, hmem, fsmCmds, keptChunks, chunks]

end RxSegment

/-! ### Sequences of segments -/

lemma fsmCmds_append (js js' : List DropJob) :
    fsmCmds (js ++ js') = fsmCmds js ++ fsmCmds js' := by
  simp [fsmCmds]

lemma keptChunks_append (js js' : List DropJob) :
    keptChunks (js ++ js') = keptChunks js ++ keptChunks js' := by
  simp [keptChunks, chunks]

/-- The dropper before a sequence of segments is the dropper before their jobs. -/
lemma dropperInit_eq {gs : List RxSegment} (h : ∀ g ∈ gs, g.PayloadFlags) :
    dropperInit gs = tsdInit (gs.flatMap jobs) ∧
      (gs.flatMap writes).flatMap (·.1) = keptChunks (gs.flatMap jobs) := by
  induction gs with
  | nil => exact ⟨rfl, rfl⟩
  | cons g gs ih =>
      obtain ⟨hinit, hkept⟩ := ih fun g' hg' => h g' (List.mem_cons_of_mem g hg')
      obtain ⟨hmdh, hfsm, hwr⟩ := g.streams_of_jobs (h g List.mem_cons_self)
      unfold dropperInit tsdInit at hinit ⊢
      rw [TsdState.mk.injEq] at hinit
      obtain ⟨-, h1, h2, h3, -⟩ := hinit
      simp only [List.flatMap_cons, List.flatMap_append, h1, h2, hmdh, hfsm, hwr, hkept,
        List.map_append, fsmCmds_append, keptChunks_append, chunks, h3, payload_of_jobs]
      exact ⟨trivial, trivial⟩

lemma isStream_of_mem_jobs {gs : List RxSegment} : ∀ j ∈ gs.flatMap jobs, IsStream j.payload := by
  intro j hj
  obtain ⟨g, -, hg⟩ := List.mem_flatMap.mp hj
  have hwf := g.payload_wf
  unfold jobs at hg
  split at hg
  · next hlen =>
      rw [List.mem_singleton] at hg
      rw [if_pos hlen] at hwf
      rw [hg]
      exact hwf
  · simp at hg

lemma length_jobs_le (gs : List RxSegment) : (gs.flatMap jobs).length ≤ gs.length := by
  induction gs with
  | nil => exact le_refl _
  | cons g gs ih =>
      have hg : g.jobs.length ≤ 1 := by
        unfold jobs
        split <;> simp
      rw [List.flatMap_cons, List.length_append, List.length_cons]
      omega

/-- **Alignment of payloads and commands**: in a sequence of segments, every payload has its one
command and every kept payload meets its own memory write command, exactly when all payloads
that reach the state machine come with the flags ACK or FIN+ACK. -/
theorem aligned_iff (gs : List RxSegment) : Aligned gs ↔ ∀ g ∈ gs, g.PayloadFlags := by
  constructor
  · intro h g hg
    exact g.oneCommand_iff.mp (h.oneCommand g hg)
  · intro h
    obtain ⟨hinit, hkept⟩ := dropperInit_eq h
    have hrun := @tsd_run (gs.flatMap jobs) isStream_of_mem_jobs
    refine ⟨fun g hg => g.oneCommand_iff.mpr (h g hg), fun ks => ?_, fun ks hks => ?_⟩
    · rw [hinit, hkept]
      exact (hrun ks).1
    · rw [hinit, hkept]
      refine (hrun ks).2 (le_trans (Nat.add_le_add ?_ (le_of_eq ?_)) hks)
      · exact Nat.mul_le_mul_left 2 (length_jobs_le gs)
      · rw [chunks, List.flatMap_assoc]
        simp only [payload_of_jobs]

/-- A segment of eight equal bytes for a session with an open port. -/
def eightBytes (b : Byte) (seqNumb : TcpSeqNum) (syn ack : Bool) (tcpState : TcpState)
    (rxSar : RxSarReply) : RxSegment where
  m := { seqNumb := seqNumb, ackNumb := 0, length := 8, syn := syn, ack := ack }
  sockPair := ⟨⟨0, 0⟩, ⟨0, 0⟩⟩
  portOpen := true
  lkpRep := ⟨0, true⟩
  tcpState := tcpState
  rxSar := rxSar
  txSar := {}
  payload := [⟨List.replicate 8 ⟨b, true⟩, true, rfl⟩]
  payload_wf := by simp [IsStream, IsPacket]

/-- A SYN with eight bytes of data, and the first data segment after it. -/
def synData : RxSegment := eightBytes 1 0 true false .closed {}
def firstData : RxSegment :=
  eightBytes 2 1 false true .synReceived { appd := 1, rcvd := 1, oooHead := 1, oooTail := 1 }

/-- The state machine writes no command for the data of the SYN. The command of the next segment
is taken for it, and the memory write command of the next segment meets the data of the SYN. -/
theorem synData_misaligned : ¬Aligned [synData, firstData] ∧
    synData.mdhOut.tsdDropCmd = [cmdKeep] ∧ synData.fsmDropCmd = [] ∧ synData.memWrCmd = [] ∧
    [synData, firstData].flatMap memWrCmd = [rxMemWrCmd firstData.fsmMeta] ∧
    (Clocked.run pTcpSegmentDropper (dropperInit [synData, firstData])
      (List.replicate 8 ⟨true, true, true, false⟩)).soMwrData = synData.payload := by
  refine ⟨fun h => ?_, by decide, by decide, by decide, by decide, by decide⟩
  have hfsm := (h.oneCommand synData List.mem_cons_self).fsm
  revert hfsm
  decide

end CloudFpga.Toe
