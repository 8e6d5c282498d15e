import CloudFpga.Foundation.Relay
import CloudFpga.Nal.Uss.TxBoundaries

/-!
The processes of the NAL that read a buffer for a consumer which may be disabled: `pRoleUdpRxDeq`,
`pUoeUdpTxDeq` (`uss.cpp`) and `pRoleTcpRxDeq` (`tss.cpp`).

* `roleUdpRx`, `uoeUdpTx`, `roleTcpRx`: the processes as relays. A role is off while it is
  decoupled, and while layer 7 is disabled.
* `deq_whole`: if no consumer is switched on or off within a packet, and layer 7 is disabled exactly
  while the role is decoupled where `pRoleTcpRxDeq` has something to read, whole packets are
  delivered, and the buffers are drained.
-/

namespace CloudFpga.Nal

open Foundation Uoe

/-! ### `pRoleUdpRxDeq` -/

/-- The buffers, the state, and what was delivered. -/
structure RoleUdpRx where
  sRoleUdpDataRxBuffer : List NetworkWord := []
  sRoleUdpMetaRxBuffer : List NetworkMeta := []
  deqFsmState : DeqFsmStates := .waitMeta
  soUdpData : List NetworkWord := []
  soUdpMeta : List NetworkMeta := []
  deriving DecidableEq

/-- The inputs of a call, and which streams of the role are full. -/
structure RoleCall where
  layer7Enabled : Bool := true
  roleDecoupled : Bool := false
  soDataFull : Bool := false
  soMetaFull : Bool := false
  deriving DecidableEq

def RoleCall.roleDisabled (k : RoleCall) : Bool := !k.layer7Enabled || k.roleDecoupled

/-- One call. -/
def pRoleUdpRxDeq (s : RoleUdpRx) (k : RoleCall) : RoleUdpRx :=
  match s.deqFsmState with
  | .streamData =>
      match s.sRoleUdpDataRxBuffer with
      | curWord :: ds =>
          if ¬k.soDataFull ∨ k.roleDisabled then
            { s with
              sRoleUdpDataRxBuffer := ds
              soUdpData := if k.roleDisabled then s.soUdpData else s.soUdpData ++ [curWord]
              deqFsmState := if curWord.tlast then .waitMeta else s.deqFsmState }
          else s
      | [] => s
  | _ =>
      match s.sRoleUdpDataRxBuffer, s.sRoleUdpMetaRxBuffer with
      | curWord :: ds, curMeta :: ms =>
          if (¬k.soDataFull ∧ ¬k.soMetaFull) ∨ k.roleDisabled then
            { s with
              sRoleUdpDataRxBuffer := ds
              sRoleUdpMetaRxBuffer := ms
              soUdpData := if k.roleDisabled then s.soUdpData else s.soUdpData ++ [curWord]
              soUdpMeta := if k.roleDisabled then s.soUdpMeta else s.soUdpMeta ++ [curMeta]
              deqFsmState := if curWord.tlast then s.deqFsmState else .streamData }
          else s
      | _, _ => s

/-- What `pUdpRx` or `pTcpRDp` writes into the buffers. -/
inductive RoleArrival where
  | appMeta (m : NetworkMeta)
  | appData (c : NetworkWord)
  deriving DecidableEq

def roleUdpRx : Relay RoleUdpRx RoleArrival RoleCall NetworkMeta NetworkWord where
  put s
    | .appMeta m => { s with sRoleUdpMetaRxBuffer := s.sRoleUdpMetaRxBuffer ++ [m] }
    | .appData c => { s with sRoleUdpDataRxBuffer := s.sRoleUdpDataRxBuffer ++ [c] }
  call := pRoleUdpRxDeq
  port s := ⟨s.sRoleUdpMetaRxBuffer, s.sRoleUdpDataRxBuffer, s.soUdpMeta, s.soUdpData⟩
  last := AxisRaw.tlast
  inside s := s.deqFsmState = .streamData
  ready s _ := !s.sRoleUdpDataRxBuffer.isEmpty &&
    (s.deqFsmState = .streamData || !s.sRoleUdpMetaRxBuffer.isEmpty)
  takes s k := !s.sRoleUdpDataRxBuffer.isEmpty &&
    (s.deqFsmState = .streamData && (!k.soDataFull || k.roleDisabled) ||
      s.deqFsmState ≠ .streamData && !s.sRoleUdpMetaRxBuffer.isEmpty &&
        (!k.soDataFull && !k.soMetaFull || k.roleDisabled))
  sends k := !k.roleDisabled
  off := RoleCall.roleDisabled

/-! ### `pRoleTcpRxDeq` -/

/-- The inputs of a call, and what it is offered. -/
structure RoleTcpCall where
  layer7Enabled : Bool := true
  roleDecoupled : Bool := false
  deq : DeqCall := ⟨true, true, false, false, false⟩
  deriving DecidableEq

def roleTcpRx : Relay (RxFifo NetworkMeta) RoleArrival RoleTcpCall NetworkMeta NetworkWord where
  put f
    | .appMeta m => { f with metaBuffer := f.metaBuffer ++ [m] }
    | .appData c => { f with dataBuffer := f.dataBuffer ++ [c] }
  call f k := pRoleTcpRxDeq k.layer7Enabled k.roleDecoupled f k.deq
  port f := ⟨f.metaBuffer, f.dataBuffer, f.soMeta, f.soData⟩
  last := AxisRaw.tlast
  inside f := f.fsmState = .streamData
  ready f k := !f.dataBuffer.isEmpty && k.deq.dataHere &&
    (f.fsmState = .streamData ||
      f.fsmState = .waitMeta && !f.metaBuffer.isEmpty && k.deq.metaHere)
  takes f k := !f.dataBuffer.isEmpty && k.deq.dataHere &&
    (f.fsmState = .streamData && (!k.deq.soDataFull || (!k.layer7Enabled && k.roleDecoupled)) ||
      f.fsmState = .waitMeta && !f.metaBuffer.isEmpty && k.deq.metaHere &&
        (!k.deq.soDataFull && !k.deq.soMetaFull || (!k.layer7Enabled && k.roleDecoupled)))
  sends k := !(!k.layer7Enabled && k.roleDecoupled)
  off k := !k.layer7Enabled || k.roleDecoupled

/-! ### `pUoeUdpTxDeq` -/

/-- The inputs of a call, and which streams of the UOE have room. -/
structure UoeCall where
  layer4Enabled : Bool := true
  piNTSReady : Bool := true
  dataRoom : Bool := true
  metaRoom : Bool := true
  dLenRoom : Bool := true
  deriving DecidableEq

def UoeCall.uoeDisabled (k : UoeCall) : Bool := !k.layer4Enabled || !k.piNTSReady

def UoeCall.deq (k : UoeCall) : UdpDeqCall := ⟨k.uoeDisabled, k.dataRoom, k.metaRoom, k.dLenRoom⟩

/-- What `pUdpTX` writes into the buffers. -/
inductive UoeArrival where
  | appMeta (m : UdpAppMeta)
  | appDLen (n : UdpAppDLen)
  | appData (c : AxisRaw)
  deriving DecidableEq

def uoeUdpTx : Relay UdpTxPath UoeArrival UoeCall (UdpAppMeta × UdpAppDLen) AxisRaw where
  put s
    | .appMeta m => { s with tx := { s.tx with soUOEMeta := s.tx.soUOEMeta ++ [m] } }
    | .appDLen n => { s with tx := { s.tx with soUOEDLen := s.tx.soUOEDLen ++ [n] } }
    | .appData c => { s with tx := { s.tx with soUOEData := s.tx.soUOEData ++ [c] } }
  call s k := pUoeUdpTxDeq s k.deq
  port s := ⟨s.tx.soUOEMeta.zip s.tx.soUOEDLen, s.tx.soUOEData,
    s.tai.siUAIFMeta.zip s.tai.siUAIFDLen, s.tai.siUAIFData⟩
  last := AxisRaw.tlast
  inside s := s.deqFsmState = .streamData
  ready s _ := !s.tx.soUOEData.isEmpty &&
    (s.deqFsmState = .streamData || !s.tx.soUOEMeta.isEmpty && !s.tx.soUOEDLen.isEmpty)
  takes s k := !s.tx.soUOEData.isEmpty &&
    (s.deqFsmState = .streamData && (k.dataRoom || k.uoeDisabled) ||
      s.deqFsmState ≠ .streamData && !s.tx.soUOEMeta.isEmpty && !s.tx.soUOEDLen.isEmpty &&
        (k.dataRoom && k.metaRoom && k.dLenRoom || k.uoeDisabled))
  sends k := !k.uoeDisabled
  off := UoeCall.uoeDisabled

/-- The meta-data and the lengths are written together. -/
def UoePaired (s : UdpTxPath) : Prop := s.tai.siUAIFMeta.length = s.tai.siUAIFDLen.length

/-! ### What the processes do -/

lemma append_if (b : Bool) (xs : List α) (x : α) :
    (if b then xs else xs ++ [x]) = xs ++ if (!b) = true then [x] else [] := by
  cases b with
  | true => exact (List.append_nil xs).symm
  | false => rfl

lemma streamData_if (b : Bool) {state : DeqFsmStates} (h : state ≠ .streamData) :
    decide ((if b then state else .streamData) = DeqFsmStates.streamData) = !b := by
  cases b with
  | true => exact decide_eq_false h
  | false => rfl

section RoleUdpRx

variable {s : RoleUdpRx} {k : RoleCall} {c : NetworkWord} {cs : List NetworkWord}
  {m : NetworkMeta} {ms : List NetworkMeta}

lemma pRoleUdpRxDeq_first (hst : s.deqFsmState ≠ .streamData)
    (hdata : s.sRoleUdpDataRxBuffer = c :: cs) (hmeta : s.sRoleUdpMetaRxBuffer = m :: ms) :
    pRoleUdpRxDeq s k =
      if (¬k.soDataFull ∧ ¬k.soMetaFull) ∨ k.roleDisabled then
        { s with
          sRoleUdpDataRxBuffer := cs
          sRoleUdpMetaRxBuffer := ms
          soUdpData := if k.roleDisabled then s.soUdpData else s.soUdpData ++ [c]
          soUdpMeta := if k.roleDisabled then s.soUdpMeta else s.soUdpMeta ++ [m]
          deqFsmState := if c.tlast then s.deqFsmState else .streamData }
      else s := by
  rw [pRoleUdpRxDeq.eq_def]
  split
  · rename_i hstream
    exact absurd hstream hst
  · rw [hdata, hmeta]

lemma pRoleUdpRxDeq_more (hst : s.deqFsmState = .streamData)
    (hdata : s.sRoleUdpDataRxBuffer = c :: cs) :
    pRoleUdpRxDeq s k =
      if ¬k.soDataFull ∨ k.roleDisabled then
        { s with
          sRoleUdpDataRxBuffer := cs
          soUdpData := if k.roleDisabled then s.soUdpData else s.soUdpData ++ [c]
          deqFsmState := if c.tlast then .waitMeta else s.deqFsmState }
      else s := by
  rw [pRoleUdpRxDeq.eq_def, hst]
  dsimp only
  rw [hdata]

/-- Nothing is read without a chunk, nor without the meta-data of the first one. -/
lemma pRoleUdpRxDeq_none (hnone : s.sRoleUdpDataRxBuffer = [] ∨
    s.deqFsmState ≠ .streamData ∧ s.sRoleUdpMetaRxBuffer = []) : pRoleUdpRxDeq s k = s := by
  rw [pRoleUdpRxDeq.eq_def]
  split
  · rename_i hst
    rcases hnone with hdata | ⟨hno, -⟩
    · rw [hdata]
    · exact absurd hst hno
  · split
    · rename_i hdata hmeta
      rcases hnone with hno | ⟨-, hno⟩
      · cases hno.symm.trans hdata
      · cases hno.symm.trans hmeta
    · rfl

lemma roleUdpRx_lawful : roleUdpRx.Lawful fun _ => True where
  put_inv _ _ := trivial
  put_inside i _ := by cases i <;> rfl
  put_port i _ := by
    cases i with
    | appMeta m => exact ⟨[m], [], by simp [roleUdpRx]⟩
    | appData c => exact ⟨[], [c], by simp [roleUdpRx]⟩
  call_inv _ _ := trivial
  stay {s k} _ htakes := by
    have hsame : pRoleUdpRxDeq s k = s := by
      cases hdata : s.sRoleUdpDataRxBuffer with
      | nil => exact pRoleUdpRxDeq_none (.inl hdata)
      | cons c cs =>
          by_cases hst : s.deqFsmState = .streamData
          · rw [pRoleUdpRxDeq_more hst hdata, if_neg]
            simpa [roleUdpRx, hdata, hst] using htakes
          · cases hmeta : s.sRoleUdpMetaRxBuffer with
            | nil => exact pRoleUdpRxDeq_none (.inr ⟨hst, hmeta⟩)
            | cons m ms =>
                rw [pRoleUdpRxDeq_first hst hdata hmeta, if_neg]
                simpa [roleUdpRx, hdata, hmeta, hst] using htakes
    exact ⟨congrArg roleUdpRx.port hsame, congrArg roleUdpRx.inside hsame⟩
  first {s k} _ htakes hinside := by
    have hst : s.deqFsmState ≠ .streamData := of_decide_eq_false hinside
    cases hdata : s.sRoleUdpDataRxBuffer with
    | nil => simp [roleUdpRx, hdata] at htakes
    | cons c cs =>
        cases hmeta : s.sRoleUdpMetaRxBuffer with
        | nil => simp [roleUdpRx, hst, hmeta] at htakes
        | cons m ms =>
            have hcall := pRoleUdpRxDeq_first (k := k) hst hdata hmeta
            rw [if_pos (by simpa [roleUdpRx, hdata, hmeta, hst] using htakes), append_if,
              append_if] at hcall
            exact ⟨m, ms, c, cs, hmeta, hdata, congrArg roleUdpRx.port hcall,
              (congrArg roleUdpRx.inside hcall).trans (streamData_if c.tlast hst)⟩
  more {s k} _ htakes hinside := by
    have hst : s.deqFsmState = .streamData := of_decide_eq_true hinside
    cases hdata : s.sRoleUdpDataRxBuffer with
    | nil => simp [roleUdpRx, hdata] at htakes
    | cons c cs =>
        have hcall := pRoleUdpRxDeq_more (k := k) hst hdata
        rw [if_pos (by simpa [roleUdpRx, hdata, hst] using htakes), append_if, hst] at hcall
        exact ⟨c, cs, hdata, congrArg roleUdpRx.port hcall,
          (congrArg roleUdpRx.inside hcall).trans (streamData_if c.tlast nofun)⟩

end RoleUdpRx

section RoleTcpRx

variable {disabled : Bool} {f : RxFifo NetworkMeta} {k : DeqCall} {c : NetworkWord}
  {cs : List NetworkWord} {m : NetworkMeta} {ms : List NetworkMeta}

lemma rxDeq_first (hst : f.fsmState = .waitMeta) (hdata : f.dataBuffer = c :: cs)
    (hmeta : f.metaBuffer = m :: ms) :
    rxDeq disabled f k =
      if k.dataHere ∧ k.metaHere ∧ ((¬k.soDataFull ∧ ¬k.soMetaFull) ∨ disabled) then
        { f with
          dataBuffer := cs
          metaBuffer := ms
          currentBytesWritten := extractByteCnt c
          soData := if disabled then f.soData else f.soData ++ [c]
          soMeta := if disabled then f.soMeta else f.soMeta ++ [m]
          fsmState := if c.tlast then .sendNotif else .streamData }
      else f := by
  rw [rxDeq.eq_def, hst]
  dsimp only
  rw [hdata, hmeta]

lemma rxDeq_more (hst : f.fsmState = .streamData) (hdata : f.dataBuffer = c :: cs) :
    rxDeq disabled f k =
      if k.dataHere ∧ (¬k.soDataFull ∨ disabled) then
        { f with
          dataBuffer := cs
          currentBytesWritten := f.currentBytesWritten + extractByteCnt c
          soData := if disabled then f.soData else f.soData ++ [c]
          fsmState := if c.tlast then .sendNotif else .streamData }
      else f := by
  rw [rxDeq.eq_def, hst]
  dsimp only
  rw [hdata]

lemma rxDeq_none (hst : f.fsmState ≠ .sendNotif) (hnone : f.dataBuffer = [] ∨
    f.fsmState ≠ .streamData ∧ f.metaBuffer = []) : rxDeq disabled f k = f := by
  cases hfsm : f.fsmState with
  | sendNotif => exact absurd hfsm hst
  | waitMeta =>
      rw [rxDeq.eq_def, hfsm]
      dsimp only
      split
      · rename_i hdata hmeta
        rcases hnone with hno | ⟨-, hno⟩
        · cases hno.symm.trans hdata
        · cases hno.symm.trans hmeta
      · rfl
  | streamData =>
      rcases hnone with hdata | ⟨hno, -⟩
      · rw [rxDeq.eq_def, hfsm]
        dsimp only
        rw [hdata]
      · exact absurd hfsm hno

/-- The length of a packet is returned: nothing is read. -/
lemma rxDeq_notif (hst : f.fsmState = .sendNotif) :
    roleTcpRx.port (rxDeq disabled f k) = roleTcpRx.port f ∧
      roleTcpRx.inside (rxDeq disabled f k) = roleTcpRx.inside f := by
  rw [rxDeq.eq_def, hst]
  dsimp only
  split
  · exact ⟨rfl, (decide_eq_false (by rw [hst]; nofun)).symm⟩
  · exact ⟨rfl, rfl⟩

lemma roleTcpRx_lawful : roleTcpRx.Lawful fun _ => True where
  put_inv _ _ := trivial
  put_inside i _ := by cases i <;> rfl
  put_port i _ := by
    cases i with
    | appMeta m => exact ⟨[m], [], by simp [roleTcpRx]⟩
    | appData c => exact ⟨[], [c], by simp [roleTcpRx]⟩
  call_inv _ _ := trivial
  stay {f k} _ htakes := by
    by_cases hnotif : f.fsmState = .sendNotif
    · exact rxDeq_notif hnotif
    have hsame : rxDeq (!k.layer7Enabled && k.roleDecoupled) f k.deq = f := by
      cases hdata : f.dataBuffer with
      | nil => exact rxDeq_none hnotif (.inl hdata)
      | cons c cs =>
          cases hst : f.fsmState with
          | sendNotif => exact absurd hst hnotif
          | streamData =>
              rw [rxDeq_more hst hdata, if_neg]
              simpa [roleTcpRx, hdata, hst] using htakes
          | waitMeta =>
              cases hmeta : f.metaBuffer with
              | nil => exact rxDeq_none hnotif (.inr ⟨by rw [hst]; nofun, hmeta⟩)
              | cons m ms =>
                  rw [rxDeq_first hst hdata hmeta, if_neg]
                  simpa [roleTcpRx, hdata, hmeta, hst] using htakes
    exact ⟨congrArg roleTcpRx.port hsame, congrArg roleTcpRx.inside hsame⟩
  first {f k} _ htakes hinside := by
    have hstream : f.fsmState ≠ .streamData := of_decide_eq_false hinside
    cases hdata : f.dataBuffer with
    | nil => simp [roleTcpRx, hdata] at htakes
    | cons c cs =>
        cases hst : f.fsmState with
        | streamData => exact absurd hst hstream
        | sendNotif => simp [roleTcpRx, hst] at htakes
        | waitMeta =>
            cases hmeta : f.metaBuffer with
            | nil => simp [roleTcpRx, hst, hmeta] at htakes
            | cons m ms =>
                have hcall := @rxDeq_first (!k.layer7Enabled && k.roleDecoupled) f k.deq c cs
                  m ms hst hdata hmeta
                rw [if_pos (by simpa [roleTcpRx, hdata, hmeta, hst, and_assoc] using htakes),
                  append_if, append_if] at hcall
                exact ⟨m, ms, c, cs, hmeta, hdata, congrArg roleTcpRx.port hcall,
                  (congrArg roleTcpRx.inside hcall).trans (streamData_if c.tlast nofun)⟩
  more {f k} _ htakes hinside := by
    have hst : f.fsmState = .streamData := of_decide_eq_true hinside
    cases hdata : f.dataBuffer with
    | nil => simp [roleTcpRx, hdata] at htakes
    | cons c cs =>
        have hcall := @rxDeq_more (!k.layer7Enabled && k.roleDecoupled) f k.deq c cs hst hdata
        rw [if_pos (by simpa [roleTcpRx, hdata, hst] using htakes), append_if] at hcall
        exact ⟨c, cs, hdata, congrArg roleTcpRx.port hcall,
          (congrArg roleTcpRx.inside hcall).trans (streamData_if c.tlast nofun)⟩

end RoleTcpRx

section UoeUdpTx

variable {s : UdpTxPath} {k : UdpDeqCall} {c : AxisRaw} {cs : List AxisRaw} {m : UdpAppMeta}
  {ms : List UdpAppMeta} {n : UdpAppDLen} {ns : List UdpAppDLen}

lemma pUoeUdpTxDeq_first (hst : s.deqFsmState ≠ .streamData) (hdata : s.tx.soUOEData = c :: cs)
    (hmeta : s.tx.soUOEMeta = m :: ms) (hdLen : s.tx.soUOEDLen = n :: ns) :
    pUoeUdpTxDeq s k =
      if (k.dataRoom && k.metaRoom && k.dLenRoom) || k.uoeDisabled then
        deqFirst s k c cs m ms n ns
      else s := by
  rw [pUoeUdpTxDeq.eq_def]
  split
  · rename_i hstream
    exact absurd hstream hst
  · rw [hdata, hmeta, hdLen]

lemma pUoeUdpTxDeq_more (hst : s.deqFsmState = .streamData) (hdata : s.tx.soUOEData = c :: cs) :
    pUoeUdpTxDeq s k = if k.dataRoom || k.uoeDisabled then deqNext s k c cs else s := by
  rw [pUoeUdpTxDeq.eq_def, hst]
  dsimp only
  rw [hdata]

lemma pUoeUdpTxDeq_none (hnone : s.tx.soUOEData = [] ∨ s.deqFsmState ≠ .streamData ∧
    (s.tx.soUOEMeta = [] ∨ s.tx.soUOEDLen = [])) : pUoeUdpTxDeq s k = s := by
  rw [pUoeUdpTxDeq.eq_def]
  split
  · rename_i hst
    rcases hnone with hdata | ⟨hno, -⟩
    · rw [hdata]
    · exact absurd hst hno
  · split
    · rename_i hdata hmeta hdLen
      rcases hnone with hno | ⟨-, hno | hno⟩
      · cases hno.symm.trans hdata
      · cases hno.symm.trans hmeta
      · cases hno.symm.trans hdLen
    · rfl

/-- The pairs of two streams stay in front. -/
lemma zip_prefix {α β : Type} (as as' : List α) (bs bs' : List β) :
    as.zip bs <+: (as ++ as').zip (bs ++ bs') := by
  induction as generalizing bs with
  | nil => exact List.nil_prefix
  | cons a as ih =>
      cases bs with
      | nil => exact List.nil_prefix
      | cons b bs => exact (List.prefix_cons_inj (a, b)).mpr (ih bs)

lemma deqFirst_port (hpaired : UoePaired s) :
    uoeUdpTx.port (deqFirst s k c cs m ms n ns) =
      { heads := ms.zip ns
        items := cs
        outHeads := (uoeUdpTx.port s).outHeads ++ if (!k.uoeDisabled) = true then [(m, n)] else []
        outItems := (uoeUdpTx.port s).outItems ++ if (!k.uoeDisabled) = true then [c] else [] } := by
  simp only [deqFirst, uoeUdpTx]
  cases k.uoeDisabled with
  | true => simp
  | false => simp [List.zip_append hpaired]

lemma deqNext_port : uoeUdpTx.port (deqNext s k c cs) =
    { uoeUdpTx.port s with
      items := cs
      outItems := (uoeUdpTx.port s).outItems ++ if (!k.uoeDisabled) = true then [c] else [] } := by
  simp only [deqNext, uoeUdpTx]
  cases k.uoeDisabled with
  | true => simp
  | false => rfl

lemma deqFirst_paired (hpaired : UoePaired s) : UoePaired (deqFirst s k c cs m ms n ns) := by
  rw [UoePaired, deqFirst]
  cases k.uoeDisabled with
  | true => exact hpaired
  | false =>
      dsimp only
      rw [if_neg Bool.false_ne_true, List.length_append, List.length_append, hpaired]
      rfl

lemma deqNext_paired (hpaired : UoePaired s) : UoePaired (deqNext s k c cs) := by
  rw [UoePaired, deqNext]
  cases k.uoeDisabled with
  | true => exact hpaired
  | false => exact hpaired

lemma uoeUdpTx_lawful : uoeUdpTx.Lawful UoePaired where
  put_inv i h := by cases i <;> exact h
  put_inside i _ := by cases i <;> rfl
  put_port {s} i _ := by
    cases i with
    | appMeta m =>
        obtain ⟨hs, hzip⟩ := zip_prefix s.tx.soUOEMeta [m] s.tx.soUOEDLen []
        rw [List.append_nil] at hzip
        exact ⟨hs, [], by simp [uoeUdpTx, hzip]⟩
    | appDLen n =>
        obtain ⟨hs, hzip⟩ := zip_prefix s.tx.soUOEMeta [] s.tx.soUOEDLen [n]
        rw [List.append_nil] at hzip
        exact ⟨hs, [], by simp [uoeUdpTx, hzip]⟩
    | appData c => exact ⟨[], [c], by simp [uoeUdpTx]⟩
  call_inv {s} k hpaired := by
    show UoePaired (pUoeUdpTxDeq s k.deq)
    cases hdata : s.tx.soUOEData with
    | nil =>
        rw [pUoeUdpTxDeq_none (.inl hdata)]
        exact hpaired
    | cons c cs =>
        by_cases hst : s.deqFsmState = .streamData
        · rw [pUoeUdpTxDeq_more hst hdata]
          split
          · exact deqNext_paired hpaired
          · exact hpaired
        · cases hmeta : s.tx.soUOEMeta with
          | nil =>
              rw [pUoeUdpTxDeq_none (.inr ⟨hst, .inl hmeta⟩)]
              exact hpaired
          | cons m ms =>
              cases hdLen : s.tx.soUOEDLen with
              | nil =>
                  rw [pUoeUdpTxDeq_none (.inr ⟨hst, .inr hdLen⟩)]
                  exact hpaired
              | cons n ns =>
                  rw [pUoeUdpTxDeq_first hst hdata hmeta hdLen]
                  split
                  · exact deqFirst_paired hpaired
                  · exact hpaired
  stay {s k} _ htakes := by
    have hsame : pUoeUdpTxDeq s k.deq = s := by
      cases hdata : s.tx.soUOEData with
      | nil => exact pUoeUdpTxDeq_none (.inl hdata)
      | cons c cs =>
          by_cases hst : s.deqFsmState = .streamData
          · rw [pUoeUdpTxDeq_more hst hdata, if_neg]
            simpa [uoeUdpTx, UoeCall.deq, hdata, hst] using htakes
          · cases hmeta : s.tx.soUOEMeta with
            | nil => exact pUoeUdpTxDeq_none (.inr ⟨hst, .inl hmeta⟩)
            | cons m ms =>
                cases hdLen : s.tx.soUOEDLen with
                | nil => exact pUoeUdpTxDeq_none (.inr ⟨hst, .inr hdLen⟩)
                | cons n ns =>
                    rw [pUoeUdpTxDeq_first hst hdata hmeta hdLen, if_neg]
                    simpa [uoeUdpTx, UoeCall.deq, hdata, hmeta, hdLen, hst] using htakes
    exact ⟨congrArg uoeUdpTx.port hsame, congrArg uoeUdpTx.inside hsame⟩
  first {s k} hpaired htakes hinside := by
    have hst : s.deqFsmState ≠ .streamData := of_decide_eq_false hinside
    cases hdata : s.tx.soUOEData with
    | nil => simp [uoeUdpTx, hdata] at htakes
    | cons c cs =>
        cases hmeta : s.tx.soUOEMeta with
        | nil => simp [uoeUdpTx, hst, hmeta] at htakes
        | cons m ms =>
            cases hdLen : s.tx.soUOEDLen with
            | nil => simp [uoeUdpTx, hst, hdLen] at htakes
            | cons n ns =>
                have hcall := pUoeUdpTxDeq_first (k := k.deq) hst hdata hmeta hdLen
                rw [if_pos (by
                  simpa [uoeUdpTx, UoeCall.deq, hdata, hmeta, hdLen, hst] using htakes)] at hcall
                refine ⟨(m, n), ms.zip ns, c, cs, ?_, hdata,
                  (congrArg uoeUdpTx.port hcall).trans (deqFirst_port hpaired),
                  (congrArg uoeUdpTx.inside hcall).trans (streamData_if c.tlast nofun)⟩
                show s.tx.soUOEMeta.zip s.tx.soUOEDLen = (m, n) :: ms.zip ns
                rw [hmeta, hdLen, List.zip_cons_cons]
  more {s k} _ htakes hinside := by
    have hst : s.deqFsmState = .streamData := of_decide_eq_true hinside
    cases hdata : s.tx.soUOEData with
    | nil => simp [uoeUdpTx, hdata] at htakes
    | cons c cs =>
        have hcall := pUoeUdpTxDeq_more (k := k.deq) hst hdata
        rw [if_pos (by simpa [uoeUdpTx, UoeCall.deq, hdata, hst] using htakes)] at hcall
        exact ⟨c, cs, hdata, (congrArg uoeUdpTx.port hcall).trans deqNext_port,
          (congrArg uoeUdpTx.inside hcall).trans (streamData_if c.tlast nofun)⟩

end UoeUdpTx

/-! ### The property -/

/-- Whole packets are delivered, those whose consumer is enabled when they begin, and what is in the
buffers is read while the consumer is disabled. -/
structure Delivers {σ ι κ η : Type} (r : Relay σ ι κ η AxisRaw) (s : σ)
    (xs : List (Relay.Step ι κ)) : Prop where
  whole : r.Whole (Clocked.run r.next { proc := s } xs)
  drains : Clocked.Along r.next r.Drains { proc := s } xs

lemma roleUdpRx_drainOk (xs : List (Relay.Step RoleArrival RoleCall)) :
    Clocked.Along roleUdpRx.next roleUdpRx.DrainOk { proc := {} } xs := by
  refine Clocked.along_of_forall _ fun x _ s => ?_
  cases x with
  | put i => trivial
  | call k =>
      intro hoff hready
      have hoff' : k.roleDisabled = true := hoff
      simp only [roleUdpRx, hoff'] at hready ⊢
      by_cases hst : s.proc.deqFsmState = .streamData
      · simpa [hst] using hready
      · simpa [hst] using hready

lemma uoeUdpTx_drainOk (xs : List (Relay.Step UoeArrival UoeCall)) :
    Clocked.Along uoeUdpTx.next uoeUdpTx.DrainOk { proc := {} } xs := by
  refine Clocked.along_of_forall _ fun x _ s => ?_
  cases x with
  | put i => trivial
  | call k =>
      intro hoff hready
      have hoff' : k.uoeDisabled = true := hoff
      simp only [uoeUdpTx, hoff'] at hready ⊢
      by_cases hst : s.proc.deqFsmState = .streamData
      · simpa [hst] using hready
      · simpa [hst] using hready

/-- Whole packets are delivered by the three processes, if what is read of a packet is handled as its
first chunk was, and if `pRoleTcpRxDeq` takes the role for disabled where it is. -/
theorem deq_whole (xs : List (Relay.Step RoleArrival RoleCall))
    (ys : List (Relay.Step RoleArrival RoleTcpCall)) (zs : List (Relay.Step UoeArrival UoeCall))
    (hxs : Clocked.Along roleUdpRx.next roleUdpRx.Steady { proc := {} } xs)
    (hys : Clocked.Along roleTcpRx.next roleTcpRx.Steady { proc := {} } ys)
    (hdrain : Clocked.Along roleTcpRx.next roleTcpRx.DrainOk { proc := {} } ys)
    (hzs : Clocked.Along uoeUdpTx.next uoeUdpTx.Steady { proc := {} } zs) :
    Delivers roleUdpRx {} xs ∧ Delivers roleTcpRx {} ys ∧ Delivers uoeUdpTx {} zs := by
  have hwhole {σ ι κ η : Type} {r : Relay σ ι κ η AxisRaw} {Inv : σ → Prop} {s : σ}
      (hl : r.Lawful Inv) (hinv : Inv s) (hport : r.port s = ⟨[], [], [], []⟩)
      (hinside : r.inside s = false) {xs : List (Relay.Step ι κ)}
      (hok : Clocked.Along r.next r.Steady { proc := s } xs)
      (hdrain : Clocked.Along r.next r.DrainOk { proc := s } xs) : Delivers r s xs :=
    ⟨Relay.whole_of_steady hl hinv (Relay.whole_init hport hinside) hok,
      Relay.drains_of_ok hl hinv hdrain⟩
  exact ⟨hwhole roleUdpRx_lawful trivial rfl rfl hxs (roleUdpRx_drainOk xs),
    hwhole roleTcpRx_lawful trivial rfl rfl hys hdrain,
    hwhole uoeUdpTx_lawful (by rfl) rfl rfl hzs (uoeUdpTx_drainOk zs)⟩

def appMeta : NetworkMeta := ⟨1, 80, 2, 81, 2⟩

def appChunk (b : Byte) (tlast : Bool) : AxisRaw :=
  ⟨List.replicate 8 ⟨b, true⟩, tlast, length_bytes_lanes b⟩

/-- A packet is delivered, and another one is dropped. -/
theorem deq_whole_toggle :
    Delivers roleUdpRx {} [.put (.appMeta appMeta), .put (.appData (appChunk 1 false)), .call {},
        .put (.appData (appChunk 2 true)), .call {}] ∧
      Delivers roleTcpRx {} [.put (.appMeta appMeta), .put (.appData (appChunk 1 true)),
        .call { layer7Enabled := false, roleDecoupled := true }] ∧
      Delivers uoeUdpTx {} [.put (.appMeta {}), .put (.appDLen 1),
        .put (.appData (appChunk 1 true)), .call { layer4Enabled := false }] :=
  deq_whole _ _ _ (by decide) (by decide) (by decide) (by decide)

/-- A role gets the end of a packet that began before it was enabled. -/
theorem headless_tail :
    ¬Delivers roleUdpRx {} [.put (.appMeta appMeta), .put (.appData (appChunk 1 false)),
      .put (.appData (appChunk 2 true)), .call { layer7Enabled := false }, .call {}] := by
  intro h
  have hitems := h.whole.outItems
  revert hitems
  decide

end CloudFpga.Nal
