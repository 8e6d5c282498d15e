import CloudFpga.Toe.Tables.RxSarTable

/-!
The read requests of the application, `rx_app_interface.cpp`: `pRxAppStream`.

* `pRxAppStream`: one call of the process. A request for no bytes is answered at once; any other
  request leads to a read command from the read pointer of the session on.
-/

namespace CloudFpga.Toe

inductive RasFsmState where
  | s0 | s1
  deriving DecidableEq, Repr

/-- The registers of the process and its input streams. -/
structure RasState where
  fsmState : RasFsmState := .s0
  metaDropCounter : BitVec 8 := 0
  readLength : TcpSegLen := 0
  siTAIFDataReq : List TcpAppRdReq := []
  siRStRxSarRep : List RAiRxSarReply := []
  deriving DecidableEq

/-- What a call writes on the output streams. -/
structure RasOut where
  soTAIFMeta : List SessionId := []
  soRStRxSarQry : List RAiRxSarQuery := []
  soMrdMemRdCmd : List DmCmd := []
  soMMIOMetaDropCnt : List (BitVec 8) := []
  deriving DecidableEq

/-- Which outputs are full in a cycle. -/
structure RasCycle where
  metaFull : Bool
  rxSarQryFull : Bool
  memRdCmdFull : Bool
  metaDropCntFull : Bool
  deriving DecidableEq, Repr

/-- The read command of a request, from the read pointer on. -/
def rasMemRdCmd (rep : RAiRxSarReply) (readLength : TcpSegLen) : DmCmd :=
  .ofAddrLen (memSegAddr toeRxMemoryBase rep.sessionID rep.appd) readLength

/-- The answer to the application. It is dropped and counted if the stream is full. -/
def rasMeta (s : RasState) (k : RasCycle) (id : SessionId) : RasState × List SessionId :=
  if ¬k.metaFull then (s, [id]) else ({ s with metaDropCounter := s.metaDropCounter + 1 }, [])

/-- The state machine. -/
def rasFsm (s : RasState) (k : RasCycle) : RasState × RasOut :=
  match s.fsmState with
  | .s0 =>
      match s.siTAIFDataReq with
      | req :: reqs =>
          if ¬k.rxSarQryFull then
            let s := { s with siTAIFDataReq := reqs }
            -- a read of no bytes would hang the Data Mover
            if req.length ≠ 0 then
              ({ s with readLength := req.length, fsmState := .s1 },
                { soRStRxSarQry := [.rd req.sessionID] })
            else
              let r := rasMeta s k req.sessionID
              (r.1, { soTAIFMeta := r.2 })
          else (s, {})
      | [] => (s, {})
  | .s1 =>
      match s.siRStRxSarRep with
      | rep :: reps =>
          if ¬k.memRdCmdFull ∧ ¬k.rxSarQryFull then
            let r := rasMeta { s with siRStRxSarRep := reps } k rep.sessionID
            ({ r.1 with fsmState := .s0 },
              { soTAIFMeta := r.2
                soMrdMemRdCmd := [rasMemRdCmd rep s.readLength]
                soRStRxSarQry := [rasUpdate rep s.readLength] })
          else (s, {})
      | [] => (s, {})

/-- One call of the process. The drop counter is shown in every call. -/
def pRxAppStream (s : RasState) (k : RasCycle) : RasState × RasOut :=
  let r := rasFsm s k
  (r.1, if ¬k.metaDropCntFull then { r.2 with soMMIOMetaDropCnt := [r.1.metaDropCounter] } else r.2)

/-- A request that waits for its read pointer is for some bytes. -/
def RasInv (s : RasState) : Prop := s.fsmState = .s1 → s.readLength ≠ 0

section Calls

variable {s : RasState}

lemma RasInv.rasMeta (h : RasInv s) (k : RasCycle) (id : SessionId) :
    RasInv (rasMeta s k id).1 := by
  rw [Toe.rasMeta]
  split <;> exact h

/-- **The read commands** are for some bytes of a session. -/
theorem pRxAppStream_cmd (h : RasInv s) (k : RasCycle) : RasInv (pRxAppStream s k).1 ∧
    ∀ c ∈ (pRxAppStream s k).2.soMrdMemRdCmd, ∃ rep readLength,
      c = rasMemRdCmd rep readLength ∧ readLength ≠ 0 := by
  have hout : (pRxAppStream s k).2.soMrdMemRdCmd = (rasFsm s k).2.soMrdMemRdCmd := by
    rw [pRxAppStream]
    dsimp only
    split <;> rfl
  have hstate : (pRxAppStream s k).1 = (rasFsm s k).1 := rfl
  rw [hout, hstate, rasFsm]
  cases hst : s.fsmState with
  | s0 =>
      cases s.siTAIFDataReq with
      | nil => exact ⟨h, by simp⟩
      | cons req reqs =>
          dsimp only
          split
          · split
            · next hlen => exact ⟨fun _ => hlen, by simp⟩
            · exact ⟨RasInv.rasMeta (fun hs1 => by cases hs1) k req.sessionID, by simp⟩
          · exact ⟨h, by simp⟩
  | s1 =>
      cases s.siRStRxSarRep with
      | nil => exact ⟨h, by simp⟩
      | cons rep reps =>
          dsimp only
          split
          · refine ⟨(fun hs1 => by cases hs1), fun c hc => ?_⟩
            exact ⟨rep, s.readLength, List.mem_singleton.mp hc, h hst⟩
          · exact ⟨h, by simp⟩

end Calls

end CloudFpga.Toe
