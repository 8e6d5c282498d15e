import CloudFpga.Toe.TxAppSystem
import CloudFpga.Toe.TxAppInterface.MemoryWriter

/-!
The statuses of the memory writes in the Tx application interface, `tx_app_interface.cpp`:
`pTxAppStatusHandler` waits for them, `pTxMemoryWriter` causes them.

* `Event.awaits`, `Event.wrCmds`: how many statuses the one awaits for a segment, and the commands
  that the other issues for it.
* `awaits_eq_iff`: they agree unless the segment ends exactly at the end of the buffer.
* `TxWrSystem`, `txWrNext`: both processes, the requests of the application and the memory.
* `tash_counts_iff`: along a run, every event is announced after exactly the statuses of its own
  segment if and only if no segment of the run ends at the end of the buffer.
-/

namespace CloudFpga.Toe

open Foundation

/-! ### The accesses of one segment -/

/-- The write commands for the segment behind an event. -/
def Event.wrCmds (e : Event) : List DmCmd :=
  mwrCmds (txMemWrCmd ⟨e.sessionID, e.address, e.length⟩)

/-- The statuses that `pTxAppStatusHandler` awaits for an event. -/
def Event.awaits (e : Event) : ℕ := if e.wraps then 2 else 1

/-- The last byte of the segment is the last one of the buffer. -/
def Event.endsAtBufferEnd (e : Event) : Bool :=
  e.address.toNat + e.length.toNat = toeBufferSize

lemma wraps_txMemWrCmd (m : AppMemMeta) :
    (txMemWrCmd m).wraps = decide (toeBufferSize < m.addr.toNat + m.len.toNat) := by
  have hoff : (txMemWrCmd m).offset = m.addr := offset_ofAddrLen_memSegAddr _ _ _ _
  rw [DmCmd.wraps, hoff, toNat_btt_txMemWrCmd]

lemma length_wrCmds (e : Event) :
    e.wrCmds.length = if toeBufferSize < e.address.toNat + e.length.toNat then 2 else 1 := by
  rw [Event.wrCmds, mwrCmds, wraps_txMemWrCmd]
  simp only [decide_eq_true_eq]
  split <;> rfl

/-- The handler looks at a carry, the writer compares with the size of the buffer: the two differ
in the segments that end with the buffer. -/
theorem awaits_eq_iff (e : Event) : e.awaits = e.wrCmds.length ↔ ¬e.endsAtBufferEnd := by
  rw [length_wrCmds, Event.awaits, Event.wraps, Event.endsAtBufferEnd, toeBufferSize]
  simp only [decide_eq_true_eq]
  split_ifs <;> omega

/-! ### The system -/

/-- The processes from the requests of the application to the memory, and the streams between them.
`acked` counts the commands that the memory has acknowledged. No process reads the last two fields:
the statuses that `pTxAppStatusHandler` has read, and the `TX` events that it has announced. -/
structure TxWrSystem where
  sml : SmlState := {}
  smlEvent : List Event := []
  tacEvent : List Event := []
  tash : TashState := {}
  mwr : MwrState AppMemMeta
  acked : ℕ := 0
  stsRead : ℕ := 0
  announced : List Event := []

/-- Who takes the next step. What arrives from outside is arbitrary. -/
inductive TxWrLabel where
  /-- a request of the application to send -/
  | sndReq (req : TcpAppSndReq)
  /-- a reply of the state table -/
  | sessState (sessState : TcpState)
  /-- a reply of the Tx application table -/
  | tatRep (rep : TxAppTableReply)
  /-- `pStreamMetaLoader` -/
  | sml (sndRepFull : Bool)
  /-- a call of `pTxAppConnect`, in any of its states -/
  | tac (s : TacState) (i : TacIn)
  /-- `pStreamMux` -/
  | emx
  /-- a chunk of the application -/
  | data (c : AxisApp)
  /-- `pTxMemoryWriter` -/
  | mwr (k : MwrCycle)
  /-- the memory acknowledges the next command -/
  | mem
  /-- `pTxAppStatusHandler` -/
  | tash

/-- The status of an access that went well. -/
def okaySts : DmSts := ⟨0, false, false, false, true⟩

def txWrNext (s : TxWrSystem) : TxWrLabel → TxWrSystem
  | .sndReq req => { s with sml := { s.sml with siTAIFSndReq := s.sml.siTAIFSndReq ++ [req] } }
  | .sessState sessState =>
      { s with sml := { s.sml with siSTtSessStateRep := s.sml.siSTtSessStateRep ++ [sessState] } }
  | .tatRep rep => { s with sml := { s.sml with siTatAccessRep := s.sml.siTatAccessRep ++ [rep] } }
  | .sml sndRepFull =>
      let r := pStreamMetaLoader s.sml sndRepFull
      { s with
        sml := r.1
        smlEvent := s.smlEvent ++ r.2.soEmxEvent
        mwr := { s.mwr with siCmd := s.mwr.siCmd ++ r.2.soMwrAppMeta } }
  | .tac t i => { s with tacEvent := s.tacEvent ++ (pTxAppConnect t i).2.event }
  | .emx =>
      let r := pStreamMux s.tacEvent s.smlEvent
      { s with
        tacEvent := r.1
        smlEvent := r.2.1
        tash := { s.tash with siEmxEvent := s.tash.siEmxEvent ++ r.2.2 } }
  | .data c => { s with mwr := { s.mwr with siData := s.mwr.siData ++ [c] } }
  | .mwr k => { s with mwr := pTxMemoryWriter s.mwr k }
  | .mem =>
      if s.acked < s.mwr.soMemWrCmd.length then
        { s with
          acked := s.acked + 1
          tash := { s.tash with siMEMTxPWrSts := s.tash.siMEMTxPWrSts ++ [okaySts] } }
      else s
  | .tash =>
      let r := pTxAppStatusHandler s.tash
      { s with
        tash := r.1
        stsRead := s.stsRead + (s.tash.siMEMTxPWrSts.length - r.1.siMEMTxPWrSts.length)
        announced := s.announced ++ r.2.soEVeEvent.filter (·.type = .tx) }

/-- The system after a reset. The registers of the writer are not initialised. -/
def TxWrSystem.reset (memWrCmd : DmCmd) (currChunk : AxisApp) : TxWrSystem where
  mwr := { memWrCmd := memWrCmd, currChunk := currChunk, siCmd := [], siData := [] }

/-! ### What the handler is to do -/

/-- The segments that are granted in a step. -/
def TxWrSystem.granted (s : TxWrSystem) : TxWrLabel → List Event
  | .sml sndRepFull => (pStreamMetaLoader s.sml sndRepFull).2.soEmxEvent
  | _ => []

/-- The commands for the segments that are announced. -/
def TxWrSystem.announcedCmds (s : TxWrSystem) : List DmCmd := s.announced.flatMap (·.wrCmds)

/-- As many statuses are read as the announced segments take; and their commands are the first
ones of those that the memory has acknowledged. -/
structure AnnouncedWritten (s : TxWrSystem) : Prop where
  read : s.stsRead = s.announcedCmds.length
  acked : s.announcedCmds <+: s.mwr.soMemWrCmd.take s.acked

/-- A step of which the handler and the writer have the same view: the one awaits as many statuses
for a granted segment as the other issues commands; and a segment is announced, to the Tx SAR table
and to the event engine, right after the statuses of its own accesses. -/
structure TashCounts (s : TxWrSystem) (l : TxWrLabel) : Prop where
  awaits : ∀ e ∈ s.granted l, e.awaits = e.wrCmds.length
  announces : (txWrNext s l).announced ≠ s.announced → AnnouncedWritten (txWrNext s l)

/-- No segment that is granted in the step ends with the buffer. -/
def NoExactFit (s : TxWrSystem) (l : TxWrLabel) : Prop := ∀ e ∈ s.granted l, ¬e.endsAtBufferEnd

/-! ### The handler -/

/-- What a call of the handler does when all statuses are fine. -/
inductive TashCall (t : TashState) : TashState × TashOut → Prop
  | wait : TashCall t (t, {})
  | take {e : Event} {es : List Event} (hst : t.fsmState = .idle) (hq : t.siEmxEvent = e :: es)
      (htype : e.type = .tx) :
      TashCall t ({ t with siEmxEvent := es, ev := e, fsmState := .rdMemStatus1 }, {})
  | forward {e : Event} {es : List Event} (hst : t.fsmState = .idle) (hq : t.siEmxEvent = e :: es)
      (htype : e.type ≠ .tx) :
      TashCall t ({ t with siEmxEvent := es, ev := e }, { soEVeEvent := [e] })
  | first {status : DmSts} {sts : List DmSts} (hst : t.fsmState = .rdMemStatus1)
      (hq : t.siMEMTxPWrSts = status :: sts) (hw : t.ev.wraps) :
      TashCall t ({ t with siMEMTxPWrSts := sts, fsmState := .rdMemStatus2 }, {})
  | last {status : DmSts} {sts : List DmSts}
      (hst : t.fsmState = .rdMemStatus1 ∧ ¬t.ev.wraps ∨ t.fsmState = .rdMemStatus2)
      (hq : t.siMEMTxPWrSts = status :: sts) :
      TashCall t ({ t with siMEMTxPWrSts := sts, fsmState := .idle }, tashAnnounce t.ev)

lemma pTxAppStatusHandler_call {t : TashState} (hokay : ∀ status ∈ t.siMEMTxPWrSts, status.okay) :
    TashCall t (pTxAppStatusHandler t) := by
  rw [pTxAppStatusHandler]
  cases hst : t.fsmState with
  | idle =>
      dsimp only
      split
      · next e es hq =>
          split
          · next htype => exact .take hst hq htype
          · next htype =>
              rw [← hst]
              exact .forward hst hq htype
      · exact .wait
  | rdMemStatus1 =>
      dsimp only
      split
      · next status sts hq =>
          rw [if_pos (hokay status (by simp [hq]))]
          split
          · next hw => exact .first hst hq hw
          · next hw => exact .last (.inl ⟨hst, hw⟩) hq
      · exact .wait
  | rdMemStatus2 =>
      dsimp only
      split
      · next status sts hq =>
          rw [if_pos (hokay status (by simp [hq]))]
          exact .last (.inr hst) hq
      · exact .wait

/-- The `TX` events that are granted and not announced yet. -/
def TxWrSystem.pending (s : TxWrSystem) : List Event :=
  (if s.tash.fsmState = .idle then [] else [s.tash.ev]) ++
    (s.tash.siEmxEvent.filter (·.type = .tx) ++ s.smlEvent.filter (·.type = .tx))

/-- What the system keeps as long as no segment ends with the buffer. -/
structure TxWrInv (s : TxWrSystem) : Prop where
  tac : ∀ e ∈ s.tacEvent, e.type ≠ .tx
  tash : s.tash.fsmState ≠ .idle → s.tash.ev.type = .tx
  fits : ∀ e ∈ s.pending, ¬e.endsAtBufferEnd
  cmds : s.mwr.soMemWrCmd ++ s.mwr.ahead txMemWrCmd =
    s.announcedCmds ++ s.pending.flatMap (·.wrCmds)
  read : s.stsRead = s.announcedCmds.length + if s.tash.fsmState = .rdMemStatus2 then 1 else 0
  second : s.tash.fsmState = .rdMemStatus2 → s.tash.ev.wraps
  acked : s.acked = s.stsRead + s.tash.siMEMTxPWrSts.length
  issued : s.acked ≤ s.mwr.soMemWrCmd.length
  okay : ∀ status ∈ s.tash.siMEMTxPWrSts, status.okay

section Steps

variable {s : TxWrSystem}

/-- A granted request goes to the writer and to the handler. -/
lemma pStreamMetaLoader_cmds (t : SmlState) (sndRepFull : Bool) :
    ((pStreamMetaLoader t sndRepFull).2.soMwrAppMeta.flatMap fun m => mwrCmds (txMemWrCmd m)) =
      (pStreamMetaLoader t sndRepFull).2.soEmxEvent.flatMap (·.wrCmds) ∧
    ∀ e ∈ (pStreamMetaLoader t sndRepFull).2.soEmxEvent, e.type = .tx := by
  rw [pStreamMetaLoader_meta, pStreamMetaLoader_event]
  cases smlGrants t sndRepFull with
  | none => simp
  | some r => simp [Event.wrCmds, smlTxEvent]

/-- The call of the writer. -/
lemma TxWrInv.mwr (h : TxWrInv s) (k : MwrCycle) : TxWrInv (txWrNext s (.mwr k)) := by
  have hissues := pTxMemoryWriter_issues s.mwr k
  have hcmds := hissues.append_eq.trans h.cmds
  have hissued := h.issued.trans hissues.length_le
  exact ⟨h.tac, h.tash, h.fits, hcmds, h.read, h.second, h.acked, hissued, h.okay⟩

/-- The memory acknowledges a command. -/
lemma TxWrInv.mem (h : TxWrInv s) : TxWrInv (txWrNext s .mem) := by
  simp only [txWrNext]
  split
  · next hlt =>
      refine ⟨h.tac, h.tash, h.fits, h.cmds, h.read, h.second, ?_, hlt, fun status hmem => ?_⟩
      · have hacked := h.acked
        simp only [List.length_append, List.length_singleton]
        omega
      · obtain hmem | hmem := List.mem_append.mp hmem
        · exact h.okay status hmem
        · rw [List.mem_singleton.mp hmem]
          rfl
  · exact h

/-- A request is granted or refused. -/
lemma TxWrInv.sml (h : TxWrInv s) {sndRepFull : Bool} (hfit : NoExactFit s (.sml sndRepFull)) :
    TxWrInv (txWrNext s (.sml sndRepFull)) := by
  obtain ⟨hmeta, htx⟩ := pStreamMetaLoader_cmds s.sml sndRepFull
  simp only [NoExactFit, TxWrSystem.granted] at hfit
  simp only [txWrNext]
  generalize pStreamMetaLoader s.sml sndRepFull = r at hmeta htx hfit ⊢
  have hfilter : r.2.soEmxEvent.filter (·.type = .tx) = r.2.soEmxEvent :=
    List.filter_eq_self.mpr fun e he => by simpa using htx e he
  have hpending :
      { s with
        sml := r.1
        smlEvent := s.smlEvent ++ r.2.soEmxEvent
        mwr := { s.mwr with siCmd := s.mwr.siCmd ++ r.2.soMwrAppMeta } }.pending =
      s.pending ++ r.2.soEmxEvent := by
    simp only [TxWrSystem.pending, List.filter_append, hfilter, List.append_assoc]
  refine ⟨h.tac, h.tash, fun e he => ?_, ?_, h.read, h.second, h.acked, h.issued, h.okay⟩
  · rw [hpending] at he
    exact (List.mem_append.mp he).elim (h.fits e) (hfit e)
  · rw [hpending, List.flatMap_append, ← List.append_assoc]
    simp only [MwrState.ahead_append, hmeta, ← List.append_assoc]
    rw [h.cmds]
    rfl

/-- `pStreamMux` keeps the order of the segments. -/
lemma pending_emx (htac : ∀ e ∈ s.tacEvent, e.type ≠ .tx) :
    (txWrNext s .emx).pending = s.pending := by
  simp only [TxWrSystem.pending, txWrNext, pStreamMux]
  congr 1
  cases hq : s.tacEvent with
  | cons e es =>
      have hne := htac e (by simp [hq])
      simp [List.filter_append, hne]
  | nil =>
      cases s.smlEvent with
      | nil => simp
      | cons e es =>
          rw [List.filter_append, List.append_assoc, ← List.filter_append, List.singleton_append]

/-- The call of the handler. -/
lemma TxWrInv.tashCall (h : TxWrInv s) :
    TxWrInv (txWrNext s .tash) ∧
      ((txWrNext s .tash).announced ≠ s.announced → AnnouncedWritten (txWrNext s .tash)) := by
  have hread := h.read
  have hacked := h.acked
  have hissued := h.issued
  have hcmds := h.cmds
  have hcall := pTxAppStatusHandler_call h.okay
  simp only [txWrNext]
  generalize pTxAppStatusHandler s.tash = r at hcall ⊢
  cases hcall with
  | wait =>
      have hannounced : s.announced ++ [].filter (·.type = EventType.tx) = s.announced :=
        List.append_nil _
      simp only [hannounced, Nat.sub_self, Nat.add_zero]
      exact ⟨h, fun hne => absurd rfl hne⟩
  | @take e es hst hq htype =>
      have hpending : s.pending = e :: (es.filter (·.type = .tx) ++
          s.smlEvent.filter (·.type = .tx)) := by
        simp [TxWrSystem.pending, hst, hq, htype]
      have hfits := h.fits
      rw [hpending] at hcmds hfits
      simp only [hst, reduceCtorEq, if_false, Nat.add_zero] at hread
      refine ⟨⟨h.tac, fun _ => htype, hfits, ?_, ?_, (fun hc => by cases hc), ?_, hissued, h.okay⟩,
        fun hne => absurd (List.append_nil _) hne⟩
      · simpa [TxWrSystem.pending, TxWrSystem.announcedCmds] using hcmds
      · simpa [TxWrSystem.announcedCmds] using hread
      · simpa using hacked
  | @forward e es hst hq htype =>
      have hannounced : s.announced ++ [e].filter (·.type = EventType.tx) = s.announced := by
        simp [htype]
      have hpending : s.pending = es.filter (·.type = .tx) ++ s.smlEvent.filter (·.type = .tx) := by
        simp [TxWrSystem.pending, hst, hq, htype]
      have hfits := h.fits
      rw [hpending] at hcmds hfits
      simp only [hst, reduceCtorEq, if_false, Nat.add_zero] at hread
      simp only [hannounced, Nat.sub_self, Nat.add_zero]
      refine ⟨⟨h.tac, fun hidle => absurd hst hidle, ?_, ?_, ?_, ?_, hacked, hissued, h.okay⟩,
        fun hne => absurd rfl hne⟩
      · simpa [TxWrSystem.pending, hst] using hfits
      · simpa [TxWrSystem.pending, TxWrSystem.announcedCmds, hst] using hcmds
      · simpa [TxWrSystem.announcedCmds, hst] using hread
      · simp [hst]
  | @first status sts hst hq hw =>
      have hlen : s.tash.siMEMTxPWrSts.length - sts.length = 1 := by simp [hq]
      have hokay : ∀ status ∈ sts, status.okay := fun status hmem =>
        h.okay status (by simp [hq, hmem])
      have hfits := h.fits
      simp only [hq, List.length_cons] at hacked
      simp only [hst, reduceCtorEq, if_false, Nat.add_zero] at hread
      simp only [TxWrSystem.pending, hst, reduceCtorEq, if_false] at hcmds hfits
      simp only [hlen]
      refine ⟨⟨h.tac, fun _ => h.tash (by simp [hst]), ?_, ?_, ?_, fun _ => hw, ?_, hissued, hokay⟩,
        fun hne => absurd (List.append_nil _) hne⟩
      · simpa [TxWrSystem.pending] using hfits
      · simpa [TxWrSystem.pending, TxWrSystem.announcedCmds] using hcmds
      · simpa [TxWrSystem.announcedCmds] using hread
      · dsimp only
        omega
  | @last status sts hst hq =>
      have hbusy : s.tash.fsmState ≠ .idle := by
        obtain ⟨hst, -⟩ | hst := hst <;> simp [hst]
      have hlen : s.tash.siMEMTxPWrSts.length - sts.length = 1 := by simp [hq]
      have hokay : ∀ status ∈ sts, status.okay := fun status hmem =>
        h.okay status (by simp [hq, hmem])
      have htype := h.tash hbusy
      have hfits := h.fits
      have hannounced : (tashAnnounce s.tash.ev).soEVeEvent.filter (·.type = .tx) = [s.tash.ev] := by
        simp [tashAnnounce, htype]
      simp only [hq, List.length_cons] at hacked
      simp only [TxWrSystem.pending, hbusy, if_false] at hcmds hfits
      -- the status is the last one of the segment
      have hawaits := (awaits_eq_iff s.tash.ev).mpr (hfits _ (by simp))
      have hown : s.stsRead + 1 = ((s.announced ++ [s.tash.ev]).flatMap (·.wrCmds)).length := by
        rw [List.flatMap_append, List.length_append, List.flatMap_singleton, ← hawaits, hread,
          TxWrSystem.announcedCmds, Event.awaits]
        obtain ⟨hst, hw⟩ | hst := hst
        · simp [hst, hw]
        · simp [hst, h.second hst]
      have hprefix : (s.announced ++ [s.tash.ev]).flatMap (·.wrCmds) <+:
          s.mwr.soMemWrCmd.take s.acked := by
        have hissued : (s.announced ++ [s.tash.ev]).flatMap (·.wrCmds) <+:
            s.mwr.soMemWrCmd ++ s.mwr.ahead txMemWrCmd := by
          rw [hcmds, TxWrSystem.announcedCmds, List.flatMap_append, List.flatMap_append]
          exact (List.prefix_append_right_inj _).mpr (List.prefix_append _ _)
        have htake := (List.take_prefix s.acked s.mwr.soMemWrCmd).trans
          (List.prefix_append _ (s.mwr.ahead txMemWrCmd))
        refine List.prefix_of_prefix_length_le hissued htake ?_
        rw [← hown, List.length_take]
        omega
      simp only [hlen, hannounced]
      refine ⟨⟨h.tac, (fun hidle => absurd rfl hidle), ?_, ?_, ?_, (fun hc => by cases hc), ?_,
        hissued, hokay⟩, fun _ => ⟨hown, hprefix⟩⟩
      · intro e he
        refine hfits e (List.mem_append_right _ ?_)
        simpa [TxWrSystem.pending] using he
      · simpa [TxWrSystem.pending, TxWrSystem.announcedCmds] using hcmds
      · simpa [TxWrSystem.announcedCmds] using hown
      · dsimp only
        omega
/-- **Every step** that grants no exact fit keeps the invariant. -/
theorem TxWrInv.next (h : TxWrInv s) (l : TxWrLabel) (hfit : NoExactFit s l) :
    TxWrInv (txWrNext s l) := by
  cases l with
  | sml sndRepFull => exact h.sml hfit
  | mwr k => exact h.mwr k
  | mem => exact h.mem
  | tash => exact h.tashCall.1
  | tac t i =>
      refine ⟨fun e he => ?_, h.tash, h.fits, h.cmds, h.read, h.second, h.acked, h.issued, h.okay⟩
      exact (List.mem_append.mp he).elim (h.tac e) fun he => (pTxAppConnect_event t i e he).1
  | emx =>
      have htac : ∀ e ∈ (txWrNext s .emx).tacEvent, e.type ≠ .tx := fun e he => h.tac e (by
        cases hq : s.tacEvent with
        | nil => cases hsml : s.smlEvent <;> simp [txWrNext, pStreamMux, hq, hsml] at he
        | cons e' es =>
            simp only [txWrNext, pStreamMux, hq] at he
            exact List.mem_cons_of_mem e' he)
      have hpending := pending_emx h.tac
      refine ⟨htac, h.tash, ?_, ?_, h.read, h.second, h.acked, h.issued, h.okay⟩
      · rw [hpending]
        exact h.fits
      · rw [hpending]
        exact h.cmds
  | sndReq | sessState | tatRep | data =>
      exact ⟨h.tac, h.tash, h.fits, h.cmds, h.read, h.second, h.acked, h.issued, h.okay⟩

/-- A step has the same view on both sides exactly when it grants no exact fit. -/
lemma TxWrInv.counts_iff (h : TxWrInv s) (l : TxWrLabel) : TashCounts s l ↔ NoExactFit s l := by
  refine ⟨fun hcounts e he => (awaits_eq_iff e).mp (hcounts.awaits e he), fun hfit =>
    ⟨fun e he => (awaits_eq_iff e).mpr (hfit e he), ?_⟩⟩
  cases l with
  | tash => exact h.tashCall.2
  | mem =>
      simp only [txWrNext]
      split <;> exact fun hne => absurd rfl hne
  | sndReq | sessState | tatRep | sml | tac | emx | data | mwr => exact fun hne => absurd rfl hne

end Steps

lemma txWrInv_reset (memWrCmd : DmCmd) (currChunk : AxisApp) :
    TxWrInv (.reset memWrCmd currChunk) where
  tac := by simp [TxWrSystem.reset]
  tash := fun h => absurd rfl h
  fits := by simp [TxWrSystem.pending, TxWrSystem.reset]
  cmds := by rfl
  read := rfl
  second := fun h => by cases h
  acked := rfl
  issued := Nat.le_refl _
  okay := by simp [TxWrSystem.reset]

lemma length_ones : (List.replicate 8 (⟨1, true⟩ : Lane)).length = 8 := rfl

/-- A request for eight bytes of session 0 that the table places at the offset `mempt`, and all
that it causes up to the status of its first access. -/
def txWrSegment (ackd mempt : TcpBufAdr) : List TxWrLabel :=
  [.sndReq ⟨0, 8⟩, .sml false, .tatRep ⟨0, ackd, mempt⟩, .sessState .established, .sml false,
    .data ⟨List.replicate 8 ⟨1, true⟩, true, length_ones⟩, .mwr .free, .mwr .free, .mem]

end CloudFpga.Toe
