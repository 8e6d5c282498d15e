import CloudFpga.Toe.RxAppInterface.AppStream
import CloudFpga.Toe.RxEngine.FiniteStateMachine
import CloudFpga.Toe.RxEngine.MemoryWriter
import CloudFpga.Toe.TxAppSystem
import CloudFpga.Toe.TxEngine.MemoryAddress
import CloudFpga.Toe.TxEngine.MemoryReader

/-!
The commands that the four memory front ends of the TOE issue to the AXI4 Data Mover, and the
processes that make the requests for them: `pFiniteStateMachine`, `pStreamMetaLoader`,
`pRxAppStream` and `pMetaDataLoader`.

* `InWindow`, `InHalf`: a command is for at least one byte, inside the 64KB window of its session,
  and in the given half of the memory.
* `PartOf`: the parts into which a front end splits a request.
* `DmSystem`, `dmNext`: the processes and the streams between them.
* `rxCmds_next`, `txCmds_next`: the commands that a step adds.
* `dmCommands_wellFormed_iff`: along a run all commands are well formed if and only if no data is
  sent; and apart from the half of the memory, if and only if no empty segment is granted.
-/

namespace CloudFpga.Toe

open Foundation

/-! ### Well-formed commands -/

/-- The command is for at least one byte, and does not leave the 64KB window that it starts in. -/
structure InWindow (c : DmCmd) : Prop where
  btt : 1 ≤ c.btt.toNat
  window : c.offset.toNat + c.btt.toNat ≤ toeBufferSize

/-- The command starts in the half of the memory that begins at `base`. -/
def InHalf (base : ℕ) (c : DmCmd) : Prop :=
  base ≤ c.saddr.toNat ∧ c.saddr.toNat < base + toeRxMemorySize

/-- The base address of the Tx half, which follows the Rx half. -/
def txHalfBase : ℕ := toeRxMemoryBase + toeRxMemorySize

/-- What a front end makes of a request: the whole access, or the part up to the end of the buffer
and the part from its start on. -/
inductive PartOf (c : DmCmd) : DmCmd → Prop
  | whole (hw : ¬c.wraps) : PartOf c c
  | first (hw : c.wraps) : PartOf c c.first
  | second {d : DmCmd} (hw : c.wraps) (hsaddr : d.saddr = setRange c.saddr 15 0 (0 : BitVec 16))
      (hbtt : d.btt = c.btt - c.firstAccLen.setWidth 23) : PartOf c d

section Parts

variable {c d : DmCmd}

lemma partOf_mwrCmds (h : d ∈ mwrCmds c) : PartOf c d := by
  rw [mwrCmds] at h
  split at h
  · next hw =>
      rcases List.mem_pair.mp h with rfl | rfl
      · exact .first hw
      · exact .second hw rfl rfl
  · next hw =>
      rw [List.mem_singleton.mp h]
      exact .whole hw

lemma partOf_dmReads (h : d ∈ dmReads c) : PartOf c d := by
  rw [dmReads] at h
  split at h
  · next hw =>
      rcases List.mem_pair.mp h with rfl | rfl
      · exact .first hw
      · exact .second hw (saddr_mrdSecond _) (btt_mrdSecond _)
  · next hw =>
      rw [List.mem_singleton.mp h]
      exact .whole hw

lemma toNat_setRange_zero (a : BitVec 40) :
    (setRange a 15 0 (0 : BitVec 16)).toNat = a.toNat / 65536 * 65536 := by
  have ha := a.isLt
  have hz : (0 : BitVec 16).toNat = 0 := rfl
  simp only [setRange, BitVec.toNat_ofNat, hz]
  omega

/-- The parts of a request for some bytes are for some bytes, inside the window. -/
lemma PartOf.inWindow (h : PartOf c d) (hpos : 1 ≤ c.btt.toNat)
    (hlt : c.btt.toNat < toeBufferSize) : InWindow d := by
  cases h with
  | whole hw =>
      refine ⟨hpos, ?_⟩
      simpa [DmCmd.wraps] using hw
  | first hw =>
      have hf := c.toNat_firstAccLen (c.offset_ne_zero_of_wraps hw hlt)
      have hoff := c.offset.isLt
      have hoff' : c.first.offset = c.offset := by simp [DmCmd.offset]
      have hsize : toeBufferSize = 65536 := rfl
      refine ⟨?_, ?_⟩
      · rw [c.toNat_btt_first]
        omega
      · rw [c.toNat_btt_first, hoff']
        omega
  | second hw hsaddr hbtt =>
      have hf := c.toNat_firstAccLen (c.offset_ne_zero_of_wraps hw hlt)
      have hlen := firstAccLen_lt hw hlt
      have hoff : d.offset.toNat = 0 := by
        rw [DmCmd.toNat_offset, hsaddr, toNat_setRange_zero]
        omega
      have hnat : d.btt.toNat = c.btt.toNat - c.firstAccLen.toNat := by
        rw [hbtt]
        exact c.toNat_btt_second hlen.le
      refine ⟨?_, ?_⟩
      · omega
      · rw [hoff, hnat]
        omega

/-- The parts of a request stay in its half of the memory. -/
lemma PartOf.inHalf_iff {base : ℕ} (h : PartOf c d) (hbase : 65536 ∣ base) :
    InHalf base d ↔ InHalf base c := by
  cases h with
  | whole hw => exact Iff.rfl
  | first hw => rw [InHalf, InHalf, DmCmd.saddr_first]
  | second hw hsaddr hbtt =>
      obtain ⟨b, rfl⟩ := hbase
      have hsize : toeRxMemorySize = 65536 * 16384 := rfl
      rw [InHalf, InHalf, hsaddr, toNat_setRange_zero, hsize]
      omega

/-- A command to the buffer of a session is in the half that begins at the base address. -/
lemma inHalf_memSegAddr {m : ℕ} {base : ℕ} (id : SessionId) (addr : BitVec 16) (len : BitVec m) :
    InHalf (base % 2 ^ 32 / 2 ^ 30 * 2 ^ 30) (.ofAddrLen (memSegAddr base id addr) len) := by
  have ha := addr.isLt
  have hsize : toeRxMemorySize = 2 ^ 30 := rfl
  rw [InHalf, DmCmd.ofAddrLen, BitVec.toNat_setWidth, toNat_memSegAddr, hsize]
  omega

end Parts

/-! ### The requests -/

/-- The loader processes a `TX_EVENT` of which there are bytes to send. -/
def MdlState.txSends (m : MdlState) : Bool :=
  m.fsmState = .processEvent ∧ m.curEvent.event.type = .tx ∧
    (mdlLoadSar m).any fun t => (txCase t.txSar).length ≠ 0

/-- The read commands of a call of the loader: for the bytes of a transmission, or of a
retransmission. -/
inductive MdlReads (m : MdlState) : List DmCmd → Prop
  | none (h : m.txSends = false) : MdlReads m []
  | tx (h : m.txSends = true) (id : SessionId) (n : TxAckNum) {len : TcpSegLen} (hlen : len ≠ 0) :
      MdlReads m [.ofAddrLen (txMemSegAddr id n) len]
  | rt (h : m.txSends = false) (id : SessionId) (n : TxAckNum) {len : TcpSegLen} (hlen : len ≠ 0) :
      MdlReads m [.ofAddrLen (rtMemSegAddr id n) len]

section Requests

variable {m : MdlState}

lemma mdlSend_bufferRdCmd (id : SessionId) (addr : BitVec 32) (txeMeta : TXeMeta) :
    (mdlSend id addr txeMeta).bufferRdCmd =
      if txeMeta.length ≠ 0 then [.ofAddrLen addr txeMeta.length] else [] := by
  rw [mdlSend]
  split <;> rfl

/-- A segment without data is not read from the memory. -/
lemma bufferRdCmd_of_ne (htx : m.curEvent.event.type ≠ .tx) (hrt : m.curEvent.event.type ≠ .rt) :
    (mdlProcessEvent m).2.bufferRdCmd = [] := by
  rw [mdlProcessEvent]
  cases htype : m.curEvent.event.type with
  | tx => exact absurd htype htx
  | rt => exact absurd htype hrt
  | ack | ackNodelay =>
      dsimp only
      rw [mdlAck]
      split <;> rfl
  | syn =>
      dsimp only
      rw [mdlSyn]
      split
      · split <;> rfl
      · rfl
  | synAck =>
      dsimp only
      rw [mdlSynAck]
      split
      · split <;> rfl
      · rfl
  | fin =>
      dsimp only
      rw [mdlFin]
      split
      · simp only [mdlFinSegment]
        split_ifs <;> rfl
      · rfl
  | rst =>
      dsimp only
      rw [mdlRst]
      split
      · rfl
      · split <;> rfl

/-- **The read commands of the loader**. -/
theorem pMetaDataLoader_reads (m : MdlState) : MdlReads m (pMetaDataLoader m).2.bufferRdCmd := by
  cases hst : m.fsmState with
  | waitEvent =>
      have hcmds : (pMetaDataLoader m).2.bufferRdCmd = [] := by
        simp only [pMetaDataLoader, hst, mdlWaitEvent, mdlQueries]
        split
        · split <;> rfl
        · rfl
      rw [hcmds]
      exact .none (by simp [MdlState.txSends, hst])
  | processEvent =>
      have hcall : pMetaDataLoader m = mdlProcessEvent m := pMetaDataLoader_processEvent hst
      rw [hcall]
      by_cases htx : m.curEvent.event.type = .tx
      · have htype : mdlProcessEvent m = mdlTx m := by simp only [mdlProcessEvent, htx]
        rw [htype]
        cases hload : mdlLoadSar m with
        | none =>
            rw [mdlTx_of_none hload]
            exact .none (by simp [MdlState.txSends, hload])
        | some t =>
            have hlength (n : TcpSegLen) : (mdlMeta t.rxSar t.txSar.notAckd n).length = n := rfl
            rw [mdlTx_of_some hload, mdlTxSegment_send.2, mdlTxSend, mdlSend_bufferRdCmd, hlength]
            split
            · next hlen =>
                refine .tx ?_ _ _ hlen
                simpa [MdlState.txSends, hst, htx, hload] using hlen
            · next hlen =>
                refine .none ?_
                simpa [MdlState.txSends, hst, htx, hload] using hlen
      · have hsends : m.txSends = false := by simp [MdlState.txSends, htx]
        by_cases hrt : m.curEvent.event.type = .rt
        · have htype : mdlProcessEvent m = mdlRt m := by simp only [mdlProcessEvent, hrt]
          rw [htype]
          cases hload : mdlLoadSar m with
          | none =>
              rw [mdlRt_of_none hload]
              exact .none hsends
          | some t =>
              have hsend : (mdlRtSegment t m.sarLoaded).2.bufferRdCmd =
                  (mdlRtSend t).bufferRdCmd := rfl
              rw [mdlRt_of_some hload, hsend, mdlRtSend, mdlSend_bufferRdCmd]
              by_cases hlen : (mdlMeta t.rxSar t.txSar.ackd
                  (if rtIsFull t.txSar then mssPayload else rtDatLen t.txSar)).length ≠ 0
              · rw [if_pos hlen]
                exact .rt hsends _ _ hlen
              · rw [if_neg hlen]
                exact .none hsends
        · rw [bufferRdCmd_of_ne htx hrt]
          exact .none hsends

/-- **The write commands of the state machine** are for the payload of a segment. -/
theorem fsmTransition_memWrCmd (m : RXeFsmMeta) (tcpState : TcpState) (rxSar : RxSarReply)
    (txSar : RXeTxSarReply) : ∀ c ∈ (fsmTransition m tcpState rxSar txSar).memWrCmd,
      c = rxMemWrCmd m ∧ m.length ≠ 0 := by
  have hpayload : ∀ c ∈ (ackPayload m rxSar).memWrCmd, c = rxMemWrCmd m ∧ m.length ≠ 0 := by
    intro c hc
    rw [ackPayload] at hc
    split at hc
    · next hlen =>
        refine ⟨?_, hlen⟩
        cases hcase : oooCase m rxSar with
        | drop => simp [hcase, oooOut] at hc
        | default | start | continueHead | continueGap | finish =>
            simpa [hcase, oooOut] using hc
    · cases hc
  have hfin : ∀ c ∈ (finPayload m tcpState).memWrCmd, c = rxMemWrCmd m ∧ m.length ≠ 0 := by
    intro c hc
    rw [finPayload] at hc
    split at hc
    · next hlen => exact ⟨List.mem_singleton.mp hc, hlen⟩
    · split at hc <;> cases hc
  have hack : ∀ c ∈ (fsmAck m tcpState rxSar txSar).memWrCmd,
      c = rxMemWrCmd m ∧ m.length ≠ 0 := by
    intro c hc
    rw [← FsmOut.data_memWrCmd, data_fsmAck] at hc
    split at hc
    · exact hpayload c hc
    · cases hc
  have hfinAck : ∀ c ∈ (fsmFinAck m tcpState rxSar txSar).memWrCmd,
      c = rxMemWrCmd m ∧ m.length ≠ 0 := by
    intro c hc
    rw [← FsmOut.data_memWrCmd, data_fsmFinAck] at hc
    split at hc
    · exact hfin c hc
    · cases hc
  rw [fsmTransition]
  split
  · exact hack
  · rw [fsmSyn]
    split_ifs <;> simp
  · rw [fsmSynAck]
    split_ifs <;> simp
  · exact hfinAck
  · rw [fsmDefault]
    split_ifs <;> simp

end Requests

/-! ### The system -/

/-- The four front ends and the processes that make their requests, except the state machine of the
Rx engine, which keeps nothing between two segments. -/
structure DmSystem where
  rxWr : MwrState DmCmd
  sml : SmlState := {}
  txWr : MwrState AppMemMeta
  ras : RasState := {}
  rxRd : RaiState
  mdl : MdlState
  txRd : MrdState

/-- Who takes the next step. What arrives from the network, the application and the tables is
arbitrary. -/
inductive DmLabel where
  /-- the state machine of the Rx engine processes a segment -/
  | fsm (m : RXeFsmMeta) (tcpState : TcpState) (rxSar : RxSarReply) (txSar : RXeTxSarReply)
  | rxWrData (c : AxisApp)
  /-- `pRxMemoryWriter` -/
  | rxWr (k : MwrCycle)
  | sndReq (req : TcpAppSndReq)
  | sessState (sessState : TcpState)
  | tatRep (rep : TxAppTableReply)
  /-- `pStreamMetaLoader` -/
  | sml (sndRepFull : Bool)
  | txWrData (c : AxisApp)
  /-- `pTxMemoryWriter` -/
  | txWr (k : MwrCycle)
  | dataReq (req : TcpAppRdReq)
  | rasRxSarRep (rep : RAiRxSarReply)
  /-- `pRxAppStream` -/
  | ras (k : RasCycle)
  /-- `pRxMemoryReader` -/
  | rxRd (k : RaiCycle)
  | event (e : ExtendedEvent)
  | mdlRxSarRep (rep : RxSarReply)
  | mdlTxSarRep (rep : TXeTxSarReply)
  /-- `pMetaDataLoader` -/
  | mdl
  /-- `pTxMemoryReader` -/
  | txRd (k : MrdCycle)

def dmNext (s : DmSystem) : DmLabel → DmSystem
  | .fsm m tcpState rxSar txSar =>
      { s with rxWr := { s.rxWr with
          siCmd := s.rxWr.siCmd ++ (fsmTransition m tcpState rxSar txSar).memWrCmd } }
  | .rxWrData c => { s with rxWr := { s.rxWr with siData := s.rxWr.siData ++ [c] } }
  | .rxWr k => { s with rxWr := pRxMemoryWriter s.rxWr k }
  | .sndReq req => { s with sml := { s.sml with siTAIFSndReq := s.sml.siTAIFSndReq ++ [req] } }
  | .sessState sessState =>
      { s with sml := { s.sml with siSTtSessStateRep := s.sml.siSTtSessStateRep ++ [sessState] } }
  | .tatRep rep => { s with sml := { s.sml with siTatAccessRep := s.sml.siTatAccessRep ++ [rep] } }
  | .sml sndRepFull =>
      let r := pStreamMetaLoader s.sml sndRepFull
      { s with sml := r.1, txWr := { s.txWr with siCmd := s.txWr.siCmd ++ r.2.soMwrAppMeta } }
  | .txWrData c => { s with txWr := { s.txWr with siData := s.txWr.siData ++ [c] } }
  | .txWr k => { s with txWr := pTxMemoryWriter s.txWr k }
  | .dataReq req => { s with ras := { s.ras with siTAIFDataReq := s.ras.siTAIFDataReq ++ [req] } }
  | .rasRxSarRep rep =>
      { s with ras := { s.ras with siRStRxSarRep := s.ras.siRStRxSarRep ++ [rep] } }
  | .ras k =>
      let r := pRxAppStream s.ras k
      { s with
        ras := r.1
        rxRd := { s.rxRd with siRasMemRdCmd := s.rxRd.siRasMemRdCmd ++ r.2.soMrdMemRdCmd } }
  | .rxRd k => { s with rxRd := pRxMemoryReader s.rxRd k }
  | .event e => { s with mdl := { s.mdl with siEvent := s.mdl.siEvent ++ [e] } }
  | .mdlRxSarRep rep => { s with mdl := { s.mdl with siRxSarRep := s.mdl.siRxSarRep ++ [rep] } }
  | .mdlTxSarRep rep => { s with mdl := { s.mdl with siTxSarRep := s.mdl.siTxSarRep ++ [rep] } }
  | .mdl =>
      let r := pMetaDataLoader s.mdl
      { s with
        mdl := r.1
        txRd := { s.txRd with siMdlBufferRdCmd := s.txRd.siMdlBufferRdCmd ++ r.2.bufferRdCmd } }
  | .txRd k => { s with txRd := pTxMemoryReader s.txRd k }

/-- The reset: the control variables are initialised and the streams are empty. The other registers
keep what they hold. -/
def DmSystem.reset (s : DmSystem) : DmSystem where
  rxWr := { memWrCmd := s.rxWr.memWrCmd, currChunk := s.rxWr.currChunk, siCmd := [], siData := [] }
  txWr := { memWrCmd := s.txWr.memWrCmd, currChunk := s.txWr.currChunk, siCmd := [], siData := [] }
  rxRd :=
    { memRdCmd := s.rxRd.memRdCmd, siRasMemRdCmd := [], answers := [],
      prevChunk := s.rxRd.prevChunk }
  mdl := { curEvent := s.mdl.curEvent, rxSar := s.mdl.rxSar, txSar := s.mdl.txSar }
  txRd := { memRdCmd := s.txRd.memRdCmd }

/-- The commands that `pRxMemoryReader` is still to issue. -/
def RaiState.ahead (s : RaiState) : List DmCmd :=
  (match s.mrdFsmState with
    | .access1st => []
    | .access2nd => [mrdSecond s.memRdCmd s.firstAccLen]) ++
  s.siRasMemRdCmd.flatMap dmReads

/-- The commands to the Rx half of the memory that the front ends have issued, or are still to issue
for the requests they have. -/
def DmSystem.rxCmds (s : DmSystem) : List DmCmd :=
  s.rxWr.soMemWrCmd ++ s.rxWr.ahead id ++ (s.rxRd.soMemRxpRdCmd ++ s.rxRd.ahead)

/-- The commands to the Tx half of the memory. -/
def DmSystem.txCmds (s : DmSystem) : List DmCmd :=
  s.txWr.soMemWrCmd ++ s.txWr.ahead txMemWrCmd ++ (s.txRd.soMEMTxpRdCmd ++ s.txRd.ahead)

/-- All commands are for at least one byte, inside the window of their session. -/
def CmdsInWindow (s : DmSystem) : Prop := ∀ c ∈ s.rxCmds ++ s.txCmds, InWindow c

/-- All commands are well formed. -/
structure CmdsWellFormed (s : DmSystem) : Prop where
  window : CmdsInWindow s
  rx : ∀ c ∈ s.rxCmds, InHalf toeRxMemoryBase c
  tx : ∀ c ∈ s.txCmds, InHalf txHalfBase c

/-- The request of the application that is granted in a step. -/
def DmSystem.granted (s : DmSystem) : DmLabel → Option (TcpAppSndReq × TxAppTableReply)
  | .sml sndRepFull => smlGrants s.sml sndRepFull
  | _ => none

/-- No request for no bytes is granted. -/
def NoEmptyGrant (s : DmSystem) (l : DmLabel) : Prop := ∀ r ∈ s.granted l, r.1.length ≠ 0

/-- No request to send is granted, and no bytes are transmitted for the first time. -/
def NoTxData (s : DmSystem) (l : DmLabel) : Prop :=
  s.granted l = none ∧ (l = .mdl → s.mdl.txSends = false)

/-! ### The commands of a step -/

/-- The commands to the Rx half that a step adds. -/
def DmSystem.newRxCmds (s : DmSystem) : DmLabel → List DmCmd
  | .fsm m tcpState rxSar txSar => (fsmTransition m tcpState rxSar txSar).memWrCmd.flatMap mwrCmds
  | .ras k => (pRxAppStream s.ras k).2.soMrdMemRdCmd.flatMap dmReads
  | _ => []

/-- The commands to the Tx half that a step adds. -/
def DmSystem.newTxCmds (s : DmSystem) : DmLabel → List DmCmd
  | .sml sndRepFull =>
      (pStreamMetaLoader s.sml sndRepFull).2.soMwrAppMeta.flatMap fun m => mwrCmds (txMemWrCmd m)
  | .mdl => (pMetaDataLoader s.mdl).2.bufferRdCmd.flatMap dmReads
  | _ => []

section Steps

variable {s : DmSystem} {c : DmCmd}

lemma pRxMemoryReader_issues (s : RaiState) (k : RaiCycle) :
    (pRxMemoryReader s k).soMemRxpRdCmd ++ (pRxMemoryReader s k).ahead =
      s.soMemRxpRdCmd ++ s.ahead := by
  rw [pRxMemoryReader]
  cases hst : s.mrdFsmState with
  | access1st =>
      cases hcmd : s.siRasMemRdCmd with
      | nil => rfl
      | cons c cs =>
          dsimp only
          split
          · split
            · next hw => simp [RaiState.ahead, hst, hcmd, dmReads, hw, DmCmd.first]
            · next hw => simp [RaiState.ahead, hst, hcmd, dmReads, hw]
          · rfl
  | access2nd =>
      dsimp only
      split
      · simp [RaiState.ahead, hst]
      · rfl

/-- The commands to the Rx half after a step. -/
lemma rxCmds_next (l : DmLabel) :
    c ∈ (dmNext s l).rxCmds ↔ c ∈ s.rxCmds ∨ c ∈ s.newRxCmds l := by
  cases l with
  | fsm m tcpState rxSar txSar =>
      simp only [dmNext, DmSystem.rxCmds, DmSystem.newRxCmds, MwrState.ahead_append, List.mem_append,
        id]
      tauto
  | ras k =>
      simp only [dmNext, DmSystem.rxCmds, DmSystem.newRxCmds, RaiState.ahead, List.flatMap_append,
        List.mem_append]
      tauto
  | rxWr k =>
      have heq := (pRxMemoryWriter_issues s.rxWr k).append_eq
      simp only [dmNext, DmSystem.rxCmds, DmSystem.newRxCmds, heq, List.not_mem_nil, or_false]
  | rxRd k =>
      have heq := pRxMemoryReader_issues s.rxRd k
      simp only [dmNext, DmSystem.rxCmds, DmSystem.newRxCmds, heq, List.not_mem_nil, or_false]
  | rxWrData | sndReq | sessState | tatRep | sml | txWrData | txWr | dataReq | rasRxSarRep | event
  | mdlRxSarRep | mdlTxSarRep | mdl | txRd =>
      exact (or_iff_left (List.not_mem_nil)).symm

/-- The commands to the Tx half after a step. -/
lemma txCmds_next (l : DmLabel) :
    c ∈ (dmNext s l).txCmds ↔ c ∈ s.txCmds ∨ c ∈ s.newTxCmds l := by
  cases l with
  | sml sndRepFull =>
      simp only [dmNext, DmSystem.txCmds, DmSystem.newTxCmds, MwrState.ahead_append, List.mem_append]
      tauto
  | mdl =>
      simp only [dmNext, DmSystem.txCmds, DmSystem.newTxCmds, MrdState.ahead, List.flatMap_append,
        List.mem_append]
      tauto
  | txWr k =>
      have heq := (pTxMemoryWriter_issues s.txWr k).append_eq
      simp only [dmNext, DmSystem.txCmds, DmSystem.newTxCmds, heq, List.not_mem_nil, or_false]
  | txRd k =>
      have heq := pTxMemoryReader_issues s.txRd k
      simp only [dmNext, DmSystem.txCmds, DmSystem.newTxCmds, heq, List.not_mem_nil, or_false]
  | rxWrData | sndReq | sessState | tatRep | fsm | txWrData | rxWr | dataReq | rasRxSarRep | event
  | mdlRxSarRep | mdlTxSarRep | ras | rxRd =>
      exact (or_iff_left (List.not_mem_nil)).symm

/-! ### Which commands are well formed -/

/-- The parts of a request for some bytes of a session. -/
lemma PartOf.of_session {base : ℕ} {id : SessionId} {addr len : BitVec 16} (hlen : len ≠ 0)
    (h : PartOf (.ofAddrLen (memSegAddr base id addr) len) c) :
    InWindow c ∧ InHalf (base % 2 ^ 32 / 2 ^ 30 * 2 ^ 30) c := by
  have hnat : (DmCmd.ofAddrLen (memSegAddr base id addr) len).btt.toNat = len.toNat :=
    toNat_btt_ofAddrLen _ _
  have hpos : 1 ≤ len.toNat := by
    refine Nat.one_le_iff_ne_zero.mpr fun h0 => hlen (BitVec.eq_of_toNat_eq ?_)
    rw [h0]
    rfl
  have hdvd : 65536 ∣ base % 2 ^ 32 / 2 ^ 30 * 2 ^ 30 := Dvd.dvd.mul_left (by decide) _
  refine ⟨h.inWindow ?_ ?_, (h.inHalf_iff hdvd).mpr (inHalf_memSegAddr id addr len)⟩
  · rw [hnat]
    exact hpos
  · rw [hnat]
    exact len.isLt

/-- A command to an address composed from `TOE_TX_MEMORY_BASE` is not in the Tx half. -/
lemma PartOf.not_inHalf {id : SessionId} {addr len : BitVec 16}
    (h : PartOf (.ofAddrLen (memSegAddr toeTxMemoryBase id addr) len) c) :
    ¬InHalf txHalfBase c := by
  rw [h.inHalf_iff (by decide)]
  intro hhalf
  have hbase := @inHalf_memSegAddr 16 toeTxMemoryBase id addr len
  have hval : toeTxMemoryBase % 2 ^ 32 / 2 ^ 30 * 2 ^ 30 = 3 * 2 ^ 30 := by decide
  have hhalfBase : txHalfBase = 2 ^ 30 := by decide
  have hsize : toeRxMemorySize = 2 ^ 30 := by decide
  rw [InHalf, hval, hsize] at hbase
  rw [InHalf, hhalfBase, hsize] at hhalf
  omega

/-- The commands to the Rx half are well formed. -/
lemma newRxCmds_ok (hras : RasInv s.ras) (l : DmLabel) :
    ∀ c ∈ s.newRxCmds l, InWindow c ∧ InHalf toeRxMemoryBase c := by
  intro c hc
  cases l with
  | fsm m tcpState rxSar txSar =>
      obtain ⟨r, hr, hc⟩ := List.mem_flatMap.mp hc
      obtain ⟨rfl, hlen⟩ := fsmTransition_memWrCmd m tcpState rxSar txSar r hr
      exact PartOf.of_session hlen (partOf_mwrCmds hc)
  | ras k =>
      obtain ⟨r, hr, hc⟩ := List.mem_flatMap.mp hc
      obtain ⟨rep, readLength, rfl, hlen⟩ := (pRxAppStream_cmd hras k).2 r hr
      exact PartOf.of_session hlen (partOf_dmReads hc)
  | rxWr | rxRd | rxWrData | sndReq | sessState | tatRep | sml | txWrData | txWr | dataReq
  | rasRxSarRep | event | mdlRxSarRep | mdlTxSarRep | mdl | txRd => cases hc

lemma exists_mem_mwrCmds (c : DmCmd) : ∃ d, d ∈ mwrCmds c := by
  rw [mwrCmds]
  split <;> exact ⟨_, List.mem_cons_self⟩

lemma exists_mem_dmReads (c : DmCmd) : ∃ d, d ∈ dmReads c := by
  rw [dmReads]
  split <;> exact ⟨_, List.mem_cons_self⟩

/-- The command for a segment without bytes is for no bytes. -/
lemma not_inWindow_of_empty {m : AppMemMeta} (hlen : m.len = 0) :
    ∃ c ∈ mwrCmds (txMemWrCmd m), ¬InWindow c := by
  have hbtt : (txMemWrCmd m).btt.toNat = 0 := by
    rw [toNat_btt_txMemWrCmd, hlen]
    rfl
  have hoff := (txMemWrCmd m).offset.isLt
  have hw : ¬(txMemWrCmd m).wraps := by
    rw [DmCmd.wraps, hbtt, toeBufferSize]
    simpa using hoff.le
  refine ⟨txMemWrCmd m, by simp [mwrCmds, hw], fun h => ?_⟩
  have hpos := h.btt
  omega

/-- The commands to the Tx half of a step are inside their windows, unless a segment without bytes
is granted. -/
lemma newTxCmds_inWindow_iff (l : DmLabel) :
    (∀ c ∈ s.newTxCmds l, InWindow c) ↔ NoEmptyGrant s l := by
  cases l with
  | sml sndRepFull =>
      simp only [DmSystem.newTxCmds, NoEmptyGrant, DmSystem.granted, pStreamMetaLoader_meta]
      cases hgrant : smlGrants s.sml sndRepFull with
      | none => simp
      | some r =>
          simp only [Option.elim_some, List.flatMap_singleton, Option.mem_some, forall_eq']
          constructor
          · intro h hlen
            obtain ⟨c, hc, hnot⟩ := @not_inWindow_of_empty ⟨r.1.sessId, r.2.mempt, r.1.length⟩ hlen
            exact hnot (h c hc)
          · exact fun hlen c hc => (PartOf.of_session hlen (partOf_mwrCmds hc)).1
  | mdl =>
      refine iff_of_true ?_ fun r hr => by cases hr
      have hreads := pMetaDataLoader_reads s.mdl
      simp only [DmSystem.newTxCmds]
      generalize (pMetaDataLoader s.mdl).2.bufferRdCmd = cmds at hreads ⊢
      cases hreads with
      | none => simp
      | tx _ id n hlen =>
          rw [List.flatMap_singleton]
          exact fun c hc => (PartOf.of_session hlen (partOf_dmReads hc)).1
      | rt _ id n hlen =>
          rw [List.flatMap_singleton, rtMemSegAddr_eq]
          exact fun c hc => (PartOf.of_session hlen (partOf_dmReads hc)).1
  | rxWr | rxRd | rxWrData | sndReq | sessState | tatRep | ras | txWrData | txWr | dataReq
  | rasRxSarRep | event | mdlRxSarRep | mdlTxSarRep | fsm | txRd =>
      exact iff_of_true (fun c hc => by cases hc) fun r hr => by cases hr

/-- The commands to the Tx half of a step are in that half, unless data is sent. -/
lemma newTxCmds_inHalf_iff (l : DmLabel) :
    (∀ c ∈ s.newTxCmds l, InHalf txHalfBase c) ↔ NoTxData s l := by
  cases l with
  | sml sndRepFull =>
      simp only [DmSystem.newTxCmds, NoTxData, DmSystem.granted, pStreamMetaLoader_meta]
      cases hgrant : smlGrants s.sml sndRepFull with
      | none => simp
      | some r =>
          simp only [Option.elim_some, List.flatMap_singleton, reduceCtorEq, false_and, iff_false]
          intro h
          obtain ⟨c, hc⟩ := exists_mem_mwrCmds (txMemWrCmd ⟨r.1.sessId, r.2.mempt, r.1.length⟩)
          exact (partOf_mwrCmds hc).not_inHalf (h c hc)
  | mdl =>
      have hreads := pMetaDataLoader_reads s.mdl
      simp only [DmSystem.newTxCmds, NoTxData, DmSystem.granted, true_and, forall_const]
      generalize (pMetaDataLoader s.mdl).2.bufferRdCmd = cmds at hreads ⊢
      cases hreads with
      | none h => simp [h]
      | @tx h id n len hlen =>
          rw [List.flatMap_singleton, h]
          refine iff_of_false (fun hall => ?_) (by simp)
          obtain ⟨c, hc⟩ := exists_mem_dmReads (.ofAddrLen (txMemSegAddr id n) len)
          exact (partOf_dmReads hc).not_inHalf (hall c hc)
      | rt h id n hlen =>
          rw [List.flatMap_singleton, rtMemSegAddr_eq]
          exact iff_of_true (fun c hc => (PartOf.of_session hlen (partOf_dmReads hc)).2) h
  | rxWr | rxRd | rxWrData | sndReq | sessState | tatRep | ras | txWrData | txWr | dataReq
  | rasRxSarRep | event | mdlRxSarRep | mdlTxSarRep | fsm | txRd =>
      exact iff_of_true (fun c hc => by cases hc) ⟨rfl, fun h => by cases h⟩

/-- A grant that is refused is no empty grant. -/
lemma NoTxData.noEmptyGrant {l : DmLabel} (h : NoTxData s l) : NoEmptyGrant s l := by
  intro r hr
  rw [h.1] at hr
  cases hr

lemma RasInv.next (h : RasInv s.ras) (l : DmLabel) : RasInv (dmNext s l).ras := by
  cases l with
  | ras k => exact (pRxAppStream_cmd h k).1
  | rxWr | rxRd | rxWrData | sndReq | sessState | tatRep | sml | txWrData | txWr | dataReq
  | rasRxSarRep | event | mdlRxSarRep | mdlTxSarRep | mdl | fsm | txRd => exact h

/-- A step keeps the commands inside their windows, unless a segment without bytes is granted. -/
lemma CmdsInWindow.next_iff (h : CmdsInWindow s) (hras : RasInv s.ras) (l : DmLabel) :
    CmdsInWindow (dmNext s l) ↔ NoEmptyGrant s l := by
  rw [← newTxCmds_inWindow_iff]
  constructor
  · exact fun hnext c hc => hnext c (List.mem_append_right _ ((txCmds_next l).mpr (.inr hc)))
  · intro hnew c hc
    rcases List.mem_append.mp hc with hc | hc
    · rcases (rxCmds_next l).mp hc with hc | hc
      · exact h c (List.mem_append_left _ hc)
      · exact (newRxCmds_ok hras l c hc).1
    · rcases (txCmds_next l).mp hc with hc | hc
      · exact h c (List.mem_append_right _ hc)
      · exact hnew c hc

/-- A step keeps the commands well formed, unless data is sent. -/
lemma CmdsWellFormed.next_iff (h : CmdsWellFormed s) (hras : RasInv s.ras) (l : DmLabel) :
    CmdsWellFormed (dmNext s l) ↔ NoTxData s l := by
  rw [← newTxCmds_inHalf_iff]
  constructor
  · exact fun hnext c hc => hnext.tx c ((txCmds_next l).mpr (.inr hc))
  · intro hnew
    have hempty := ((newTxCmds_inHalf_iff l).mp hnew).noEmptyGrant
    refine ⟨(h.window.next_iff hras l).mpr hempty, fun c hc => ?_, fun c hc => ?_⟩
    · rcases (rxCmds_next l).mp hc with hc | hc
      · exact h.rx c hc
      · exact (newRxCmds_ok hras l c hc).2
    · rcases (txCmds_next l).mp hc with hc | hc
      · exact h.tx c hc
      · exact hnew c hc

end Steps

lemma cmdsWellFormed_reset (s : DmSystem) : CmdsWellFormed s.reset := by
  have hrx : s.reset.rxCmds = [] := rfl
  have htx : s.reset.txCmds = [] := rfl
  refine ⟨fun c hc => ?_, fun c hc => ?_, fun c hc => ?_⟩
  · rw [hrx, htx] at hc
    cases hc
  · rw [hrx] at hc
    cases hc
  · rw [htx] at hc
    cases hc

lemma rasInv_reset (s : DmSystem) : RasInv s.reset.ras := fun h => by cases h

/-- **Well-formed commands**: along every run from the reset, all commands to the Data Mover are for
at least one byte and inside the window of their session if and only if no request for no bytes is
granted; and they are also in the right half of the memory if and only if no data is sent. -/
theorem dmCommands_wellFormed_iff (s : DmSystem) (ls : List DmLabel) :
    (Clocked.Along dmNext (fun s l => CmdsInWindow (dmNext s l)) s.reset ls ↔
      Clocked.Along dmNext NoEmptyGrant s.reset ls) ∧
    (Clocked.Along dmNext (fun s l => CmdsWellFormed (dmNext s l)) s.reset ls ↔
      Clocked.Along dmNext NoTxData s.reset ls) := by
  have hreset := cmdsWellFormed_reset s
  have hras := rasInv_reset s
  constructor
  · have hnext (s : DmSystem) (l : DmLabel) (h : CmdsInWindow s ∧ RasInv s.ras)
        (hgrant : NoEmptyGrant s l) : CmdsInWindow (dmNext s l) ∧ RasInv (dmNext s l).ras :=
      ⟨(h.1.next_iff h.2 l).mpr hgrant, h.2.next l⟩
    exact Clocked.along_iff (fun _ l h => h.1.next_iff h.2 l) hnext ⟨hreset.window, hras⟩
  · have hnext (s : DmSystem) (l : DmLabel) (h : CmdsWellFormed s ∧ RasInv s.ras)
        (hdata : NoTxData s l) : CmdsWellFormed (dmNext s l) ∧ RasInv (dmNext s l).ras :=
      ⟨(h.1.next_iff h.2 l).mpr hdata, h.2.next l⟩
    exact Clocked.along_iff (fun _ l h => h.1.next_iff h.2 l) hnext ⟨hreset, hras⟩

/-! ### A request for no bytes, and a request for one byte -/

/-- Any registers before the reset. -/
def dmRegisters : DmSystem where
  rxWr := { memWrCmd := txMemWrCmd ⟨0, 0, 0⟩, currChunk := AxisRaw.zero, siCmd := [], siData := [] }
  txWr := { memWrCmd := txMemWrCmd ⟨0, 0, 0⟩, currChunk := AxisRaw.zero, siCmd := [], siData := [] }
  rxRd :=
    { memRdCmd := txMemWrCmd ⟨0, 0, 0⟩, siRasMemRdCmd := [], answers := [],
      prevChunk := AxisRaw.zero }
  mdl := { curEvent := ⟨{ type := .tx, sessionID := 0 }, ⟨⟨0, 0⟩, ⟨0, 0⟩⟩⟩ }
  txRd := { memRdCmd := txMemWrCmd ⟨0, 0, 0⟩ }

/-- The application asks to send `length` bytes on the established session 0, whose Tx buffer is
empty, and the memory writer takes up the segment. -/
def dmSend (length : TcpDatLen) : List DmLabel :=
  [.sndReq ⟨0, length⟩, .sml false, .tatRep ⟨0, 0, 0⟩, .sessState .established, .sml false,
    .txWr .free]

/-- For no bytes the writer issues a command with `BTT` 0, which hangs the Data Mover; and for one
byte it issues a command to the address `0xC0000000`, outside the 2GB of the memory. -/
theorem dmCommands_malformed :
    (Clocked.run dmNext dmRegisters.reset (dmSend 0)).txWr.soMemWrCmd =
        [{ btt := 0, saddr := 0xC0000000 }] ∧
      ¬Clocked.Along dmNext (fun s l => CmdsInWindow (dmNext s l)) dmRegisters.reset (dmSend 0) ∧
    (Clocked.run dmNext dmRegisters.reset (dmSend 1)).txWr.soMemWrCmd =
        [{ btt := 1, saddr := 0xC0000000 }] ∧
      ¬Clocked.Along dmNext (fun s l => CmdsWellFormed (dmNext s l)) dmRegisters.reset (dmSend 1) := by
  refine ⟨by decide +kernel, fun h => ?_, by decide +kernel, fun h => ?_⟩
  · have hlast := h.2.2.2.2.1 { btt := 0, saddr := 0xC0000000 } (by decide +kernel)
    exact absurd hlast.btt (by decide)
  · have hlast := h.2.2.2.2.1.tx { btt := 1, saddr := 0xC0000000 } (by decide +kernel)
    exact absurd hlast.2 (by decide)

end CloudFpga.Toe
