import CloudFpga.Toe.RxEngine.FiniteStateMachine
import CloudFpga.Toe.RxEngine.MemoryWriter
import CloudFpga.Toe.Tables.RxSarTable

/-!
Notifications of the Rx engine, `rx_engine.cpp`: `pRxAppNotifier`, with the processes before it.

* `ranNext`: the steps of `pFiniteStateMachine`, `pRxMemoryWriter`, the memory, the application and
  `pRxAppNotifier`, in any order.
* `RanAligned`: a notification is forwarded after the statuses of its own write commands, and what
  is under way stays in line.
* `RanLined`: the invariant behind it, in which each pending segment has its notification, its split
  flag and its write commands.
* `pRxAppNotifier_aligned`: the alignment holds along the runs in which no segment is accepted out
  of order.
-/

namespace CloudFpga.Toe

open Foundation

/-! ### What a segment makes the state machine write -/

/-- The cases in which a segment is accepted and not notified, because bytes before it are
missing: its notification has the length 0. -/
def OooCase.hidden (rxSar : RxSarReply) : OooCase → Bool
  | .start | .continueHead => true
  | .finish => (rxSar.oooHead - rxSar.rcvd).setWidth 16 = (0 : BitVec 16)
  | .default | .continueGap | .drop => false

/-- The segment is accepted, and not notified. -/
def acceptsOutOfOrder (m : RXeFsmMeta) (tcpState : TcpState) (rxSar : RxSarReply) : Bool :=
  ackOnly m && ackAccepted tcpState && m.length ≠ 0 && (oooCase m rxSar).hidden rxSar

/-- The segment closes the connection, and it has no payload that is notified. -/
def closesWithoutPayload (m : RXeFsmMeta) (tcpState : TcpState) (rxSar : RxSarReply) : Bool :=
  (finAckOnly m ∧ rxSar.rcvd = m.seqNumb ∧ m.length = 0 ∧ tcpState = .established)
    ∨ (m.rst ∧ tcpState ≠ .synSent ∧ m.seqNumb = rxSar.rcvd)

/-- The write commands and the notifications for a segment. -/
inductive RxEmits (m : RXeFsmMeta) (tcpState : TcpState) (rxSar : RxSarReply) :
    List DmCmd → List TcpAppNotif → Prop
  | nothing : RxEmits m tcpState rxSar [] []
  | segment {c : DmCmd} {n : TcpAppNotif} (hn : n.tcpDatLen ≠ 0)
      (h : acceptsOutOfOrder m tcpState rxSar = false) : RxEmits m tcpState rxSar [c] [n]
  | outOfOrder {c : DmCmd} {n : TcpAppNotif} (hn : n.tcpDatLen = 0)
      (h : acceptsOutOfOrder m tcpState rxSar = true) : RxEmits m tcpState rxSar [c] [n]
  | close {n : TcpAppNotif} (hn : n.tcpDatLen = 0)
      (h : closesWithoutPayload m tcpState rxSar = true) : RxEmits m tcpState rxSar [] [n]

section Emits

variable (m : RXeFsmMeta) (tcpState : TcpState) (rxSar : RxSarReply) (txSar : RXeTxSarReply)

lemma RxEmits.of_data {m : RXeFsmMeta} {tcpState : TcpState} {rxSar : RxSarReply} {a b : FsmOut}
    (h : a.data = b) (hb : RxEmits m tcpState rxSar b.memWrCmd b.rxNotif) :
    RxEmits m tcpState rxSar a.memWrCmd a.rxNotif := by
  rw [← h] at hb
  exact hb

/-- The payload of an accepted segment. -/
lemma rxEmits_ackPayload (hack : ackOnly m) (hacc : ackAccepted tcpState) :
    RxEmits m tcpState rxSar (ackPayload m rxSar).memWrCmd (ackPayload m rxSar).rxNotif := by
  rw [ackPayload]
  split
  · next hlen =>
      have hooo : acceptsOutOfOrder m tcpState rxSar = (oooCase m rxSar).hidden rxSar := by
        rw [acceptsOutOfOrder, hack, hacc, decide_eq_true hlen, Bool.true_and, Bool.true_and,
          Bool.true_and]
      cases hcase : oooCase m rxSar with
      | default =>
          rw [hcase] at hooo
          exact .segment hlen hooo
      | start =>
          rw [hcase] at hooo
          exact .outOfOrder rfl hooo
      | continueHead =>
          rw [hcase] at hooo
          exact .outOfOrder rfl hooo
      | continueGap =>
          rw [hcase] at hooo
          exact .segment hlen hooo
      | finish =>
          rw [hcase] at hooo
          by_cases h0 : (rxSar.oooHead - rxSar.rcvd).setWidth 16 = (0 : BitVec 16)
          · exact .outOfOrder h0 (hooo.trans (decide_eq_true h0))
          · exact .segment h0 (hooo.trans (decide_eq_false h0))
      | drop => exact .nothing
  · exact .nothing

/-- The payload of an accepted FIN+ACK segment. -/
lemma rxEmits_finPayload (hfin : finAckOnly m) (hacc : finAccepted m tcpState rxSar) :
    RxEmits m tcpState rxSar (finPayload m tcpState).memWrCmd (finPayload m tcpState).rxNotif := by
  have hnot : acceptsOutOfOrder m tcpState rxSar = false := by
    have hack : ackOnly m = false := by
      simp only [finAckOnly, decide_eq_true_eq] at hfin
      simp [ackOnly, hfin.2.2.1]
    rw [acceptsOutOfOrder, hack, Bool.false_and, Bool.false_and, Bool.false_and]
  rw [finPayload]
  split
  · next hlen => exact .segment hlen hnot
  · next hlen =>
      split
      · next hst =>
          simp only [finAccepted, decide_eq_true_eq] at hacc
          exact .close rfl (decide_eq_true (.inl ⟨hfin, hacc.2, not_not.mp hlen, hst⟩))
      · exact .nothing

/-- What a segment makes the state machine write to the memory and to the application. -/
theorem fsmTransition_emits :
    RxEmits m tcpState rxSar (fsmTransition m tcpState rxSar txSar).memWrCmd
      (fsmTransition m tcpState rxSar txSar).rxNotif := by
  by_cases hack : ackOnly m
  · rw [fsmTransition_of_ackOnly tcpState rxSar txSar hack]
    refine .of_data (data_fsmAck m tcpState rxSar txSar) ?_
    split
    · next hacc => exact rxEmits_ackPayload m tcpState rxSar hack hacc
    · exact .nothing
  · by_cases hfin : finAckOnly m
    · rw [fsmTransition_of_finAckOnly tcpState rxSar txSar hfin]
      refine .of_data (data_fsmFinAck m tcpState rxSar txSar) ?_
      split
      · next hacc => exact rxEmits_finPayload m tcpState rxSar hfin hacc
      · exact .nothing
    · obtain h | h | h := fsmTransition_of_other tcpState rxSar txSar hack hfin
      · rw [h, fsmSyn]
        split_ifs <;> exact .nothing
      · rw [h, fsmSynAck]
        split_ifs <;> exact .nothing
      · rw [h, fsmDefault]
        split
        · next hrst =>
            split
            · split_ifs <;> exact .nothing
            · next hst =>
                split
                · next hseq => exact .close rfl (decide_eq_true (.inr ⟨hrst, hst, hseq⟩))
                · exact .nothing
        · exact .nothing

end Emits

/-! ### The processes -/

/-- An accepted segment: its write command and its notification. -/
structure RanJob where
  cmd : DmCmd
  notif : TcpAppNotif
  deriving DecidableEq, Repr

/-- The processes and the streams between them. `held` is the segment that the state machine has
loaded. A status of the memory comes with the command that it answers. The last three fields are
history variables: the accepted segments, the notifications that are due, and the statuses that
the notifier has read. -/
structure RanState where
  table : RxSarTable
  held : Option (RXeFsmMeta × RxSarReply) := none
  mwr : MwrState DmCmd
  siFsmNotif : List TcpAppNotif := []
  siMemWrSts : List (DmCmd × DmSts) := []
  ssRxNotifFifo : List TcpAppNotif := []
  doubleAccessFlag : Bool := false
  dataMoverError : Bool := false
  dmStatus1 : DmSts
  dmStatus2 : DmSts
  appNotification : TcpAppNotif
  soRAiRxNotif : List TcpAppNotif := []
  soMMIOMemWrErr : List Bool := []
  jobs : List RanJob := []
  due : List TcpAppNotif := []
  received : List (DmCmd × DmSts) := []

/-- What a call of the notifier finds: what has arrived, and whether the error port is full. -/
structure RanCycle where
  memWrSts : Bool
  splitSeg : Bool
  notifFifo : Bool
  fsmNotif : Bool
  memWrErrFull : Bool
  deriving DecidableEq, Repr

/-- The call that finds everything. -/
def RanCycle.free : RanCycle := ⟨true, true, true, true, false⟩

/-- The depth of `ssRxNotifFifo`. -/
def ranFifoDepth : ℕ := 32

/-- An error bit is set. -/
def dmError (sts : DmSts) : Bool := sts.slverr || sts.decerr || sts.interr

section Calls

variable (s : RanState) (k : RanCycle)

/-- A split segment: the notification goes out with the second status. -/
def ranSecond : RanState :=
  match s.siMemWrSts with
  | sts :: stss =>
      if k.memWrSts then
        let s := { s with
          siMemWrSts := stss
          dmStatus2 := sts.2
          received := s.received ++ [sts]
          doubleAccessFlag := false }
        if s.dmStatus1.okay ∧ sts.2.okay then
          { s with soRAiRxNotif := s.soRAiRxNotif ++ [s.appNotification] }
        else { s with dataMoverError := dmError s.dmStatus1 || dmError sts.2 }
      else s
  | [] => s

/-- A notification of length 0 is not sent forward. -/
def ranEnqueue : RanState :=
  match s.siFsmNotif with
  | n :: ns =>
      if k.fsmNotif ∧ s.ssRxNotifFifo.length < ranFifoDepth then
        let s := { s with siFsmNotif := ns, appNotification := n }
        if n.tcpDatLen ≠ 0 then { s with ssRxNotifFifo := s.ssRxNotifFifo ++ [n] } else s
      else s
  | [] => s

/-- The first or only status of a segment. -/
def ranFirst : RanState :=
  match s.siMemWrSts, s.mwr.soSplitSeg, s.ssRxNotifFifo with
  | sts :: stss, double :: fs, n :: ns =>
      if k.memWrSts ∧ k.splitSeg ∧ k.notifFifo then
        let s := { s with
          siMemWrSts := stss
          dmStatus1 := sts.2
          received := s.received ++ [sts]
          mwr := { s.mwr with soSplitSeg := fs }
          doubleAccessFlag := double
          ssRxNotifFifo := ns
          appNotification := n }
        if double then s
        else if sts.2.okay then { s with soRAiRxNotif := s.soRAiRxNotif ++ [n] }
        else { s with dataMoverError := dmError sts.2 }
      else ranEnqueue s k
  | _, _, _ => ranEnqueue s k

/-- One call of `pRxAppNotifier`. The error is reported in every call. -/
def pRxAppNotifier : RanState :=
  let s := if s.doubleAccessFlag then ranSecond s k else ranFirst s k
  if ¬k.memWrErrFull then { s with soMMIOMemWrErr := s.soMMIOMemWrErr ++ [s.dataMoverError] }
  else s

end Calls

/-- A step of the processes. -/
inductive RanLabel where
  /-- `FSM_LOAD` of a segment -/
  | load (m : RXeFsmMeta)
  /-- `FSM_TRANSITION` of the loaded segment, with the replies of the state table and of the
  Tx SAR table -/
  | transition (tcpState : TcpState) (txSar : RXeTxSarReply)
  /-- the application reads bytes of a session -/
  | appRead (req : TcpAppRdReq)
  /-- a chunk of a payload arrives at the memory writer -/
  | data (c : AxisApp)
  | memoryWriter (k : MwrCycle)
  /-- the memory answers the first command -/
  | memory (sts : DmSts)
  | notifier (k : RanCycle)

/-- What the state machine writes for the loaded segment. -/
def ranTransition (s : RanState) (m : RXeFsmMeta) (rxSar : RxSarReply) (tcpState : TcpState)
    (txSar : RXeTxSarReply) : RanState :=
  let out := fsmTransition m tcpState rxSar txSar
  { s with
    table := out.rxSarQry.foldl serveRXe s.table
    held := none
    mwr := { s.mwr with siCmd := s.mwr.siCmd ++ out.memWrCmd }
    siFsmNotif := s.siFsmNotif ++ out.rxNotif
    jobs := s.jobs ++ List.zipWith RanJob.mk out.memWrCmd out.rxNotif
    due := s.due ++ if acceptsOutOfOrder m tcpState rxSar then [] else out.rxNotif }

/-- A step that is not possible changes nothing. -/
def ranNext (s : RanState) : RanLabel → RanState
  | .load m =>
      if s.held.isNone then
        { s with held := ((fsmLoad m).rxSarQry.flatMap (replyRXe s.table)).head?.map (m, ·) }
      else s
  | .transition tcpState txSar =>
      match s.held with
      | some (m, rxSar) => ranTransition s m rxSar tcpState txSar
      | none => s
  | .appRead req => { s with table := rxAppStream s.table req }
  | .data c => { s with mwr := { s.mwr with siData := s.mwr.siData ++ [c] } }
  | .memoryWriter k => { s with mwr := pRxMemoryWriter s.mwr k }
  | .memory sts =>
      match s.mwr.soMemWrCmd with
      | c :: cs =>
          { s with
            mwr := { s.mwr with soMemWrCmd := cs }
            siMemWrSts := s.siMemWrSts ++ [(c, sts)] }
      | [] => s
  | .notifier k => pRxAppNotifier s k

/-- The processes after the reset: the streams are empty, and the registers that are not reset
hold anything. -/
structure RanReset (s : RanState) : Prop where
  held : s.held = none
  fsmState : s.mwr.fsmState = .idle
  siCmd : s.mwr.siCmd = []
  soMemWrCmd : s.mwr.soMemWrCmd = []
  soSplitSeg : s.mwr.soSplitSeg = []
  siFsmNotif : s.siFsmNotif = []
  siMemWrSts : s.siMemWrSts = []
  ssRxNotifFifo : s.ssRxNotifFifo = []
  doubleAccessFlag : s.doubleAccessFlag = false
  soRAiRxNotif : s.soRAiRxNotif = []
  jobs : s.jobs = []
  due : s.due = []
  received : s.received = []

/-! ### The properties -/

/-- The notifications for segments whose statuses were received: a segment is notified once all
its own statuses are there, if they are OKAY. -/
def notified : List RanJob → List DmSts → List TcpAppNotif
  | [], _ => []
  | j :: js, stss =>
      let own := stss.take (mwrCmds j.cmd).length
      if own.length = (mwrCmds j.cmd).length then
        (if own.all (·.okay) ∧ j.notif.tcpDatLen ≠ 0 then [j.notif] else [])
          ++ notified js (stss.drop (mwrCmds j.cmd).length)
      else []

/-- The write commands that the memory writer has read and not yet written. -/
def mwrOwed (s : MwrState DmCmd) : List DmCmd :=
  match s.fsmState with
  | .split1stCmd => [s.memWrCmd.first, s.memWrCmd.second s.memWrCmd.firstAccLen]
  | .fwd1stBuf => [s.memWrCmd.second s.firstAccLen]
  | _ => []

/-- The notifications with a length. -/
def nonzero (ns : List TcpAppNotif) : List TcpAppNotif := ns.filter (·.tcpDatLen ≠ 0)

lemma nonzero_cons_of_ne {n : TcpAppNotif} (h : n.tcpDatLen ≠ 0) (ns : List TcpAppNotif) :
    nonzero (n :: ns) = n :: nonzero ns := List.filter_cons_of_pos (by simpa using h)

lemma nonzero_cons_of_eq {n : TcpAppNotif} (h : n.tcpDatLen = 0) (ns : List TcpAppNotif) :
    nonzero (n :: ns) = nonzero ns := List.filter_cons_of_neg (by simpa using h)

lemma nonzero_append (ns ns' : List TcpAppNotif) :
    nonzero (ns ++ ns') = nonzero ns ++ nonzero ns' := List.filter_append ..

/-- The notifications, the split flags and the statuses that are under way are those of the same
pending segments; of a split segment the second status may be left. -/
structure RanPending (s : RanState) (pending : List RanJob) : Prop where
  suffix : pending <:+ s.jobs
  notifs : nonzero (s.ssRxNotifFifo ++ s.siFsmNotif) = nonzero (pending.map (·.notif))
  flags : s.mwr.soSplitSeg ++ s.mwr.siCmd.map DmCmd.wraps = pending.map (·.cmd.wraps)
  cmds : ∃ second : List DmCmd, second.length = (if s.doubleAccessFlag then 1 else 0) ∧
    s.siMemWrSts.map Prod.fst ++ (s.mwr.soMemWrCmd ++ (mwrOwed s.mwr ++ s.mwr.siCmd.flatMap mwrCmds))
      = second ++ pending.flatMap fun j => mwrCmds j.cmd

/-- The application is notified of the segments whose own write commands were all answered with
OKAY, and of no others; and what is under way stays in line. -/
structure RanAligned (s : RanState) : Prop where
  own : s.received.map Prod.fst <+: s.jobs.flatMap fun j => mwrCmds j.cmd
  out : s.soRAiRxNotif = notified s.jobs (s.received.map Prod.snd)
  pending : ∃ pending, RanPending s pending

/-- A segment is accepted out of order. -/
def RanOutOfOrder (s : RanState) : RanLabel → Prop
  | .transition tcpState _ => s.held.any fun h => acceptsOutOfOrder h.1 tcpState h.2
  | _ => False

instance (s : RanState) : (l : RanLabel) → Decidable (RanOutOfOrder s l)
  | .transition _ _ => inferInstanceAs (Decidable (_ = true))
  | .load _ | .appRead _ | .data _ | .memoryWriter _ | .memory _ | .notifier _ => isFalse id

/-! ### The memory writer -/

section MemoryWriter

variable {s s' : MwrState DmCmd} {k : MwrCycle}

/-- What the memory writer passes on: the split flags and the commands of the segments that it
has read, in order. -/
structure MwrPasses (s s' : MwrState DmCmd) : Prop where
  flags : s'.soSplitSeg ++ s'.siCmd.map DmCmd.wraps = s.soSplitSeg ++ s.siCmd.map DmCmd.wraps
  cmds : s'.soMemWrCmd ++ (mwrOwed s' ++ s'.siCmd.flatMap mwrCmds)
    = s.soMemWrCmd ++ (mwrOwed s ++ s.siCmd.flatMap mwrCmds)

lemma MwrPasses.refl : MwrPasses s s := ⟨rfl, rfl⟩

lemma rxMwrIdle_passes (hst : s.fsmState = .idle) : MwrPasses s (rxMwrIdle s k) := by
  have howed : mwrOwed s = [] := by rw [mwrOwed, hst]
  rw [rxMwrIdle]
  split
  · next c cs hcmd =>
      split
      · split
        · next hw =>
            refine ⟨by simp [hcmd, hw], ?_⟩
            rw [howed, hcmd, List.flatMap_cons, mwrCmds, if_pos hw]
            simp [mwrOwed]
        · next hw =>
            refine ⟨by simp [hcmd, hw], ?_⟩
            rw [howed, hcmd, List.flatMap_cons, mwrCmds, if_neg hw]
            simp [mwrOwed]
      · exact .refl
  · exact .refl

/-- One call of the memory writer, whatever it finds. -/
lemma pRxMemoryWriter_passes : MwrPasses s (pRxMemoryWriter s k) := by
  rw [pRxMemoryWriter, mwrStep]
  split
  · next hst => exact rxMwrIdle_passes hst
  · next hst =>
      rw [mwrSplit1stCmd]
      split
      · exact ⟨rfl, by simp [mwrOwed, hst, DmCmd.first]⟩
      · exact .refl
  · next hst =>
      rw [mwrFwdAligned]
      split
      · split
        · refine ⟨rfl, ?_⟩
          split <;> simp [mwrOwed, hst]
        · exact .refl
      · exact .refl
  · next hst =>
      rw [mwrFwd1stBuf]
      split
      · next c cs hdata =>
        split
        · dsimp only
          split
          · exact ⟨rfl, by simp [mwrOwed, hst]⟩
          · split
            · rw [mwrCut]
              split
              · exact ⟨rfl, by simp [mwrOwed, hst]⟩
              · refine ⟨rfl, ?_⟩
                cases c.tlast with
                | false => simp [mwrOwed, hst]
                | true => simp [mwrOwed, hst]
            · exact ⟨rfl, by simp [mwrOwed, hst]⟩
        · exact .refl
      · exact .refl
  · next hst =>
      rw [mwrFwd2ndBuf]
      split
      · split
        · dsimp only
          split
          · split
            · exact ⟨rfl, by simp [mwrOwed, hst]⟩
            · exact ⟨rfl, by simp [mwrOwed, hst]⟩
          · exact ⟨rfl, by simp [mwrOwed, hst]⟩
        · exact .refl
      · exact .refl
  · next hst =>
      rw [mwrResidue]
      split
      · exact ⟨rfl, by simp [mwrOwed, hst]⟩
      · exact .refl

end MemoryWriter

/-! ### Alignment -/

lemma notified_append {done rest : List RanJob} {sts sts' : List DmSts}
    (h : sts.length = (done.flatMap fun j => mwrCmds j.cmd).length) :
    notified (done ++ rest) (sts ++ sts') = notified done sts ++ notified rest sts' := by
  induction done generalizing sts with
  | nil =>
      obtain rfl := List.eq_nil_of_length_eq_zero h
      rfl
  | cons j js ih =>
      rw [List.flatMap_cons, List.length_append] at h
      have hle : (mwrCmds j.cmd).length ≤ sts.length := by omega
      have hdrop : (sts.drop (mwrCmds j.cmd).length).length
          = (js.flatMap fun j => mwrCmds j.cmd).length := by
        rw [List.length_drop]
        omega
      rw [List.cons_append, notified, notified, List.take_append_of_le_length hle,
        List.drop_append_of_le_length hle, ih hdrop, List.length_take, Nat.min_eq_left hle,
        if_pos rfl, if_pos rfl, List.append_assoc]

/-- The segment that the notifier is at, by its registers: none, or a split segment whose first
status was read. -/
inductive RanOpen : Bool → TcpAppNotif → DmSts →
    List RanJob → List DmCmd → List (DmCmd × DmSts) → Prop
  | none {n : TcpAppNotif} {sts : DmSts} : RanOpen false n sts [] [] []
  | second {j : RanJob} {sts : DmSts} (hw : j.cmd.wraps) :
      RanOpen true j.notif sts [j] [j.cmd.second j.cmd.firstAccLen] [(j.cmd.first, sts)]

/-- The segments up to the current one are done, the later ones are pending. -/
structure RanLine (s : RanState) (done cur pending : List RanJob) (second : List DmCmd)
    (answered first : List (DmCmd × DmSts)) : Prop where
  isOpen : RanOpen s.doubleAccessFlag s.appNotification s.dmStatus1 cur second first
  jobs : s.jobs = done ++ (cur ++ pending)
  received : s.received = answered ++ first
  own : answered.map Prod.fst = done.flatMap fun j => mwrCmds j.cmd
  out : s.soRAiRxNotif = notified done (answered.map Prod.snd)
  notifs : s.ssRxNotifFifo ++ nonzero s.siFsmNotif = pending.map (·.notif)
  flags : s.mwr.soSplitSeg ++ s.mwr.siCmd.map DmCmd.wraps = pending.map (·.cmd.wraps)
  cmds : s.siMemWrSts.map Prod.fst ++
      (s.mwr.soMemWrCmd ++ (mwrOwed s.mwr ++ s.mwr.siCmd.flatMap mwrCmds))
    = second ++ pending.flatMap fun j => mwrCmds j.cmd
  lens : ∀ j ∈ s.jobs, j.notif.tcpDatLen ≠ 0

def RanLined (s : RanState) : Prop :=
  ∃ done cur pending second answered first, RanLine s done cur pending second answered first

lemma RanReset.lined {s : RanState} (h : RanReset s) : RanLined s := by
  refine ⟨[], [], [], [], [], [], by rw [h.doubleAccessFlag]; exact .none, h.jobs, h.received, rfl,
    h.soRAiRxNotif, ?_, ?_, ?_, ?_⟩
  · rw [h.ssRxNotifFifo, h.siFsmNotif]
    rfl
  · rw [h.soSplitSeg, h.siCmd]
    rfl
  · rw [h.siMemWrSts, h.soMemWrCmd, h.siCmd, mwrOwed, h.fsmState]
    rfl
  · rw [h.jobs]
    simp

section Aligned

variable {s : RanState} {k : RanCycle}

/-- One more segment is done. -/
lemma notified_snoc {done : List RanJob} {j : RanJob} {answered own : List (DmCmd × DmSts)}
    (hans : answered.map Prod.fst = done.flatMap fun j => mwrCmds j.cmd)
    (hown : own.map Prod.fst = mwrCmds j.cmd) (hj : j.notif.tcpDatLen ≠ 0) :
    notified (done ++ [j]) ((answered ++ own).map Prod.snd)
      = notified done (answered.map Prod.snd)
        ++ if own.all (·.2.okay) then [j.notif] else [] := by
  have hlen : (answered.map Prod.snd).length = (done.flatMap fun j => mwrCmds j.cmd).length := by
    rw [← hans, List.length_map, List.length_map]
  have hlen' : (own.map Prod.snd).length = (mwrCmds j.cmd).length := by
    rw [← hown, List.length_map, List.length_map]
  rw [List.map_append, notified_append hlen, notified, ← hlen', List.take_length, if_pos rfl,
    List.drop_length, notified, List.append_nil, List.all_map]
  simp only [and_iff_left hj]
  rfl

lemma ranEnqueue_lined (h : RanLined s) (hdouble : s.doubleAccessFlag = false) :
    RanLined (ranEnqueue s k) := by
  rw [ranEnqueue]
  split
  · next n ns hns =>
      split
      · obtain ⟨done, cur, pending, second, answered, first, h⟩ := h
        obtain ⟨hcur, hjobs, hrec, hans, hout, hnotifs, hflags, hcmds, hlens⟩ := h
        rw [hdouble] at hcur
        cases hcur with
        | none =>
            rw [hns] at hnotifs
            dsimp only
            split
            · next hn =>
                refine ⟨done, [], pending, [], answered, [], by rw [hdouble]; exact .none, hjobs, hrec, hans, hout, ?_,
                  hflags, hcmds, hlens⟩
                rw [nonzero_cons_of_ne hn] at hnotifs
                rw [List.append_assoc]
                exact hnotifs
            · next hn =>
                refine ⟨done, [], pending, [], answered, [], by rw [hdouble]; exact .none, hjobs, hrec, hans, hout, ?_,
                  hflags, hcmds, hlens⟩
                rw [nonzero_cons_of_eq (not_not.mp hn)] at hnotifs
                exact hnotifs
      · exact h
  · exact h

/-- The second status of a split segment. -/
lemma ranSecond_lined (h : RanLined s) (hdouble : s.doubleAccessFlag = true) :
    RanLined (ranSecond s k) := by
  rw [ranSecond]
  split
  · next sts stss hsts =>
      split
      · obtain ⟨done, cur, pending, second, answered, first, h⟩ := h
        obtain ⟨hcur, hjobs, hrec, hans, hout, hnotifs, hflags, hcmds, hlens⟩ := h
        generalize s.appNotification = app at hcur ⊢
        rw [hdouble] at hcur
        cases hcur with
        | @second j _ hw =>
            rw [hsts, List.map_cons, List.cons_append, List.singleton_append, List.cons.injEq]
              at hcmds
            obtain ⟨hfst, hcmds⟩ := hcmds
            have hown : ([(j.cmd.first, s.dmStatus1), sts].map Prod.fst) = mwrCmds j.cmd := by
              rw [mwrCmds, if_pos hw, ← hfst]
              rfl
            have hj : j.notif.tcpDatLen ≠ 0 := hlens j (by simp [hjobs])
            have hjobs' : s.jobs = done ++ [j] ++ ([] ++ pending) := by
              rw [hjobs, List.append_assoc]
              rfl
            have hrec' : s.received ++ [sts] = answered ++ [(j.cmd.first, s.dmStatus1), sts] := by
              rw [hrec, List.append_assoc]
              rfl
            have hans' : (answered ++ [(j.cmd.first, s.dmStatus1), sts]).map Prod.fst
                = (done ++ [j]).flatMap fun j => mwrCmds j.cmd := by
              rw [List.map_append, hans, hown, List.flatMap_append, List.flatMap_singleton]
            have hnext := notified_snoc hans hown hj
            dsimp only
            split
            · next hok =>
                rw [if_pos (by simpa using hok), ← hout] at hnext
                exact ⟨_, _, _, _, _, _, .none, hjobs', by simpa using hrec', hans',
                  hnext.symm, hnotifs, hflags, hcmds, hlens⟩
            · next hok =>
                rw [if_neg (by simpa using hok), ← hout, List.append_nil] at hnext
                exact ⟨_, _, _, _, _, _, .none, hjobs', by simpa using hrec', hans',
                  hnext.symm, hnotifs, hflags, hcmds, hlens⟩
      · exact h
  · exact h

/-- The first or only status of a segment. -/
lemma ranFirst_lined (h : RanLined s) (hdouble : s.doubleAccessFlag = false) :
    RanLined (ranFirst s k) := by
  rw [ranFirst]
  split
  · next sts stss double fs n ns hsts hsplit hfifo =>
      split
      · obtain ⟨done, cur, pending, second, answered, first, h⟩ := h
        obtain ⟨hcur, hjobs, hrec, hans, hout, hnotifs, hflags, hcmds, hlens⟩ := h
        rw [hdouble] at hcur
        cases hcur with
        | none =>
            -- the status, the flag and the notification are those of the first pending segment
            cases pending with
            | nil => rw [hfifo] at hnotifs; cases hnotifs
            | cons j pending =>
                rw [hfifo, List.cons_append, List.map_cons, List.cons.injEq] at hnotifs
                rw [hsplit, List.cons_append, List.map_cons, List.cons.injEq] at hflags
                obtain ⟨hn, hnotifs⟩ := hnotifs
                obtain ⟨hw, hflags⟩ := hflags
                have hj : j.notif.tcpDatLen ≠ 0 := hlens j (by simp [hjobs])
                rw [List.append_nil] at hrec
                rw [hsts, List.map_cons, List.cons_append, List.nil_append, List.flatMap_cons,
                  mwrCmds] at hcmds
                have hjobs' : s.jobs = done ++ [j] ++ ([] ++ pending) := by
                  rw [hjobs, List.append_assoc]
                  rfl
                dsimp only
                split
                · next hdbl =>
                    rw [← hw, if_pos hdbl, List.cons_append, List.cons.injEq] at hcmds
                    refine ⟨done, [j], pending, _, answered, [(j.cmd.first, sts.2)], ?_, hjobs, ?_, hans, hout, hnotifs,
                      hflags, hcmds.2, hlens⟩
                    · rw [hdbl, hn]
                      exact .second (hw.symm.trans hdbl)
                    · rw [hrec, ← hcmds.1]
                · next hdbl =>
                    rw [← hw, if_neg hdbl, List.singleton_append, List.cons.injEq] at hcmds
                    have hown : [sts].map Prod.fst = mwrCmds j.cmd := by
                      rw [mwrCmds, ← hw, if_neg hdbl, ← hcmds.1]
                      rfl
                    have hans' : (answered ++ [sts]).map Prod.fst
                        = (done ++ [j]).flatMap fun j => mwrCmds j.cmd := by
                      rw [List.map_append, hans, hown, List.flatMap_append, List.flatMap_singleton]
                    have hrec' : s.received ++ [sts] = answered ++ [sts] ++ [] := by
                      rw [hrec, List.append_nil]
                    have hnext := notified_snoc hans hown hj
                    have hdbl' : double = false := by simpa using hdbl
                    split
                    · next hok =>
                        rw [if_pos (by simpa using hok), ← hout, ← hn] at hnext
                        exact ⟨_, [], pending, [], _, [], by rw [hdbl']; exact .none, hjobs', hrec', hans', hnext.symm,
                          hnotifs, hflags, hcmds.2, hlens⟩
                    · next hok =>
                        rw [if_neg (by simpa using hok), ← hout, List.append_nil] at hnext
                        exact ⟨_, [], pending, [], _, [], by rw [hdbl']; exact .none, hjobs', hrec', hans', hnext.symm,
                          hnotifs, hflags, hcmds.2, hlens⟩
      · exact ranEnqueue_lined h hdouble
  · exact ranEnqueue_lined h hdouble

/-- One call of the notifier. -/
lemma pRxAppNotifier_lined (h : RanLined s) : RanLined (pRxAppNotifier s k) := by
  have hcall : RanLined (if s.doubleAccessFlag then ranSecond s k else ranFirst s k) := by
    split
    · next hd => exact ranSecond_lined h hd
    · next hd => exact ranFirst_lined h (by simpa using hd)
  rw [pRxAppNotifier]
  split
  · obtain ⟨_, _, _, _, _, _, h1, h2, h3, h4, h5, h6, h7, h8, h9⟩ := hcall
    exact ⟨_, _, _, _, _, _, h1, h2, h3, h4, h5, h6, h7, h8, h9⟩
  · exact hcall

/-- The state machine processes a segment that it does not accept out of order. -/
lemma ranTransition_lined {m : RXeFsmMeta} {rxSar : RxSarReply} {tcpState : TcpState}
    {txSar : RXeTxSarReply} (h : RanLined s)
    (hooo : acceptsOutOfOrder m tcpState rxSar = false) :
    RanLined (ranTransition s m rxSar tcpState txSar) := by
  obtain ⟨done, cur, pending, second, answered, first, h⟩ := h
  obtain ⟨hcur, hjobs, hrec, hans, hout, hnotifs, hflags, hcmds, hlens⟩ := h
  have hemits := fsmTransition_emits m tcpState rxSar txSar
  rw [ranTransition]
  generalize fsmTransition m tcpState rxSar txSar = out at hemits ⊢
  generalize out.memWrCmd = cmds at hemits ⊢
  generalize out.rxNotif = ns at hemits ⊢
  cases hemits with
  | nothing =>
      refine ⟨done, cur, pending, second, answered, first, hcur, ?_, hrec, hans, hout, ?_, ?_, ?_,
        ?_⟩ <;> simpa
  | @segment c n hn =>
      have hjobs' : s.jobs ++ [⟨c, n⟩] = done ++ (cur ++ (pending ++ [⟨c, n⟩])) := by
        simp only [hjobs, List.append_assoc]
      have hnotifs' : s.ssRxNotifFifo ++ nonzero (s.siFsmNotif ++ [n])
          = (pending ++ [RanJob.mk c n]).map (·.notif) := by
        rw [nonzero_append, nonzero_cons_of_ne hn, ← List.append_assoc, hnotifs, List.map_append]
        rfl
      have hflags' : s.mwr.soSplitSeg ++ (s.mwr.siCmd ++ [c]).map DmCmd.wraps
          = (pending ++ [RanJob.mk c n]).map (·.cmd.wraps) := by
        rw [List.map_append, ← List.append_assoc, hflags, List.map_append]
        rfl
      have hcmds' : s.siMemWrSts.map Prod.fst ++
          (s.mwr.soMemWrCmd ++ (mwrOwed s.mwr ++ (s.mwr.siCmd ++ [c]).flatMap mwrCmds))
          = second ++ (pending ++ [RanJob.mk c n]).flatMap fun j => mwrCmds j.cmd := by
        simp only [List.flatMap_append, List.flatMap_singleton, ← List.append_assoc] at hcmds ⊢
        rw [hcmds]
      refine ⟨done, cur, pending ++ [RanJob.mk c n], second, answered, first, hcur, hjobs', hrec, hans,
        hout, hnotifs', hflags', hcmds', ?_⟩
      intro j hj
      obtain hj | hj := List.mem_append.mp hj
      · exact hlens j hj
      · rw [List.mem_singleton.mp hj]
        exact hn
  | outOfOrder _ h => rw [hooo] at h; cases h
  | @close n hn =>
      have hnotifs' : s.ssRxNotifFifo ++ nonzero (s.siFsmNotif ++ [n])
          = pending.map (·.notif) := by
        rw [nonzero_append, nonzero_cons_of_eq hn, ← hnotifs]
        simp [nonzero]
      refine ⟨done, cur, pending, second, answered, first, hcur, ?_, hrec, hans, hout, hnotifs', ?_,
        ?_, ?_⟩ <;> simpa

/-- A step in which no segment is accepted out of order. -/
lemma ranNext_lined {l : RanLabel} (h : RanLined s) (hl : ¬RanOutOfOrder s l) :
    RanLined (ranNext s l) := by
  cases l with
  | load m =>
      rw [ranNext]
      split
      · obtain ⟨_, _, _, _, _, _, h1, h2, h3, h4, h5, h6, h7, h8, h9⟩ := h
        exact ⟨_, _, _, _, _, _, h1, h2, h3, h4, h5, h6, h7, h8, h9⟩
      · exact h
  | transition tcpState txSar =>
      rw [ranNext]
      split
      · next m rxSar hheld =>
          refine ranTransition_lined h ?_
          simpa [RanOutOfOrder, hheld] using hl
      · exact h
  | appRead req =>
      obtain ⟨_, _, _, _, _, _, h1, h2, h3, h4, h5, h6, h7, h8, h9⟩ := h
      exact ⟨_, _, _, _, _, _, h1, h2, h3, h4, h5, h6, h7, h8, h9⟩
  | data c =>
      obtain ⟨_, _, _, _, _, _, h1, h2, h3, h4, h5, h6, h7, h8, h9⟩ := h
      exact ⟨_, _, _, _, _, _, h1, h2, h3, h4, h5, h6, h7, h8, h9⟩
  | memoryWriter k =>
      obtain ⟨hf, hc⟩ := @pRxMemoryWriter_passes s.mwr k
      obtain ⟨_, _, _, _, _, _, h1, h2, h3, h4, h5, h6, h7, h8, h9⟩ := h
      rw [← hf] at h7
      rw [← hc] at h8
      exact ⟨_, _, _, _, _, _, h1, h2, h3, h4, h5, h6, h7, h8, h9⟩
  | memory sts =>
      rw [ranNext]
      split
      · next c cs hcmd =>
          obtain ⟨_, _, _, _, _, _, h1, h2, h3, h4, h5, h6, h7, h8, h9⟩ := h
          rw [hcmd] at h8
          refine ⟨_, _, _, _, _, _, h1, h2, h3, h4, h5, h6, h7, ?_, h9⟩
          rw [← h8, List.map_append, List.append_assoc]
          rfl
      · exact h
  | notifier k => exact pRxAppNotifier_lined h

lemma one_le_length_mwrCmds (c : DmCmd) : 1 ≤ (mwrCmds c).length := by
  rw [mwrCmds]
  split
  · exact one_le_two
  · exact le_refl 1

/-- Without statuses nothing is notified. -/
lemma notified_nil_right (js : List RanJob) : notified js [] = [] := by
  cases js with
  | nil => rfl
  | cons j js =>
      have hpos := one_le_length_mwrCmds j.cmd
      rw [notified, List.take_nil, if_neg]
      rw [List.length_nil]
      omega

/-- The segments are in line. -/
theorem RanLined.aligned (h : RanLined s) : RanAligned s := by
  obtain ⟨done, cur, pending, second, answered, first, h⟩ := h
  have hlen : (answered.map Prod.snd).length = (done.flatMap fun j => mwrCmds j.cmd).length := by
    rw [← h.own, List.length_map, List.length_map]
  -- the segment that the notifier is at has one status, and needs two
  have hopen : first.map Prod.fst <+: cur.flatMap (fun j => mwrCmds j.cmd) ∧
      notified (cur ++ pending) (first.map Prod.snd) = [] ∧
      second.length = if s.doubleAccessFlag then 1 else 0 := by
    have hcur := h.isOpen
    generalize s.doubleAccessFlag = double at hcur ⊢
    generalize s.appNotification = n at hcur
    generalize s.dmStatus1 = sts at hcur
    cases hcur with
    | none => exact ⟨List.nil_prefix, notified_nil_right pending, rfl⟩
    | @second j _ hw =>
        have hown : mwrCmds j.cmd = [j.cmd.first, j.cmd.second j.cmd.firstAccLen] := if_pos hw
        refine ⟨?_, ?_, rfl⟩
        · rw [List.flatMap_singleton, hown]
          exact ⟨[_], rfl⟩
        · rw [List.singleton_append, notified, hown]
          rfl
  refine ⟨?_, ?_, pending, ?_, ?_, h.flags, second, hopen.2.2, h.cmds⟩
  · rw [h.received, h.jobs, List.map_append, h.own, List.flatMap_append, List.flatMap_append]
    exact (List.prefix_append_right_inj _).mpr (hopen.1.trans (List.prefix_append ..))
  · rw [h.received, h.jobs, List.map_append, notified_append hlen, hopen.2.1, List.append_nil]
    exact h.out
  · rw [h.jobs, ← List.append_assoc]
    exact List.suffix_append ..
  · rw [← h.notifs, nonzero_append, nonzero_append]
    simp [nonzero]

end Aligned

/-- **Availability of notified data**: after every run from the reset, with any segments, calls
of the processes and statuses of the memory in any order, in which no segment is accepted out of
order, the application is notified of exactly the segments whose own write commands were all
answered with OKAY, and the statuses, split flags and notifications under way are in line. -/
theorem pRxAppNotifier_aligned {s : RanState} (hs : RanReset s) {ls : List RanLabel}
    (hls : Clocked.Along ranNext (fun s l => ¬RanOutOfOrder s l) s ls) :
    RanAligned (Clocked.run ranNext s ls) :=
  (Clocked.run_inv (fun _ _ h hl => ranNext_lined h hl) hs.lined hls).aligned

/-- The session 0 expects the sequence number 0. -/
def ranStart : RanState where
  table _ := {}
  mwr := { memWrCmd := .ofAddrLen (0 : BitVec 32) (0 : BitVec 16), currChunk := AxisRaw.zero,
           siCmd := [], siData := [] }
  dmStatus1 := ⟨0, false, false, false, false⟩
  dmStatus2 := ⟨0, false, false, false, false⟩
  appNotification := ⟨0, 0, 0, 0, 0, .closed⟩

lemma ranStart_reset : RanReset ranStart :=
  ⟨rfl, rfl, rfl, rfl, rfl, rfl, rfl, rfl, rfl, rfl, rfl, rfl, rfl⟩

/-- A segment of the session 0 with the given flags. -/
def ranSeg (seqNumb : TcpSeqNum) (length : TcpSegLen) (fin : Bool := false) : RXeFsmMeta where
  seqNumb := seqNumb
  ackNumb := 0
  length := length
  ack := true
  fin := fin
  sessionId := 0

def dmOkay : DmSts := ⟨0, false, false, false, true⟩

/-- A segment is processed in an established session, and the notifier and the memory writer
take over what is for them. -/
def ranAccept (m : RXeFsmMeta) : List RanLabel :=
  [.load m, .transition .established {}, .notifier .free, .memoryWriter .free]

/-- The expected segment is written and notified. -/
theorem pRxAppNotifier_aligned_expected :
    RanAligned (Clocked.run ranNext ranStart
      (ranAccept (ranSeg 0 4) ++ [.memory dmOkay, .notifier .free])) :=
  pRxAppNotifier_aligned ranStart_reset (by decide)

/-- Four bytes, the last chunk of a payload. -/
def fourBytes : AxisApp := ⟨List.replicate 4 ⟨1, true⟩ ++ List.replicate 4 ⟨0, false⟩, true, rfl⟩

/-- The bytes 4 to 7 come before the bytes 0 to 3. The status for the former goes with the
notification of all eight bytes, although the latter are not yet written. -/
theorem pRxAppNotifier_early_notification :
    RanReset ranStart ∧ ¬RanAligned (Clocked.run ranNext ranStart
      (ranAccept (ranSeg 4 4) ++ [.data fourBytes, .memoryWriter .free] ++ ranAccept (ranSeg 0 4)
        ++ [.memory dmOkay, .notifier .free])) := by
  refine ⟨ranStart_reset, fun h => ?_⟩
  have hout := h.out
  revert hout
  decide

end CloudFpga.Toe
