import CloudFpga.Foundation.Clocked
import CloudFpga.Nts.AxisRaw

/-!
The segment dropper of the Rx engine, `pTcpSegmentDropper` of `rx_engine.cpp`.

The process reads a first command for each payload from the meta-data handler, and a second one
from the state machine when the first one keeps the payload. The input streams of the model hold
what arrives in the whole run; a cycle says what of it has arrived and whether the output is
full.

* `pTcpSegmentDropper`: one call.
* `DropJob`: a payload with its commands; `TsdInv`: what was forwarded and what is still to be
  forwarded are the kept payloads.
* `tsd_run`: whatever the schedule, the kept payloads are forwarded in order.
-/

namespace CloudFpga.Toe

open Foundation

inductive TsdFsmState where
  | rdDropCmd1 | rdDropCmd2 | fwd | drop
  deriving DecidableEq, Repr

/-- The state of the process and its streams. -/
structure TsdState where
  fsmState : TsdFsmState := .rdDropCmd1
  siMdhDropCmd : List CmdBit
  siFsmDropCmd : List CmdBit
  siTidData : List AxisApp
  soMwrData : List AxisApp := []
  deriving DecidableEq

/-- What a cycle offers: which inputs are not empty, and whether the output is full. -/
structure TsdCycle where
  mdhDropCmd : Bool
  fsmDropCmd : Bool
  tidData : Bool
  mwrDataFull : Bool
  deriving DecidableEq, Repr

/-- Nothing blocks the process in the cycle. -/
def TsdCycle.ready (k : TsdCycle) : Bool := k.mdhDropCmd && k.fsmDropCmd && k.tidData && !k.mwrDataFull

/-- One call of the process. -/
def pTcpSegmentDropper (s : TsdState) (k : TsdCycle) : TsdState :=
  match s.fsmState with
  | .rdDropCmd1 =>
      match s.siMdhDropCmd with
      | dropCmd :: cmds =>
          if k.mdhDropCmd then
            { s with
              siMdhDropCmd := cmds
              fsmState := if dropCmd = cmdDrop then .drop else .rdDropCmd2 }
          else s
      | [] => s
  | .rdDropCmd2 =>
      match s.siFsmDropCmd with
      | dropCmd :: cmds =>
          if k.fsmDropCmd then
            { s with
              siFsmDropCmd := cmds
              fsmState := if dropCmd = cmdDrop then .drop else .fwd }
          else s
      | [] => s
  | .fwd =>
      match s.siTidData with
      | currChunk :: cs =>
          if k.tidData ∧ ¬k.mwrDataFull then
            { s with
              siTidData := cs
              soMwrData := s.soMwrData ++ [currChunk]
              fsmState := if currChunk.tlast then .rdDropCmd1 else .fwd }
          else s
      | [] => s
  | .drop =>
      match s.siTidData with
      | currChunk :: cs =>
          if k.tidData then
            { s with
              siTidData := cs
              fsmState := if currChunk.tlast then .rdDropCmd1 else .drop }
          else s
      | [] => s

/-! ### The payloads and their commands -/

/-- A payload with the commands that belong to it. The second one is only there when the first
one keeps the payload. -/
structure DropJob where
  mdhCmd : CmdBit
  fsmCmd : CmdBit
  payload : List AxisApp

namespace DropJob

/-- Both commands keep the payload. -/
def kept (j : DropJob) : Bool := j.mdhCmd = cmdKeep ∧ j.fsmCmd = cmdKeep

/-- The commands of the state machine for a list of payloads. -/
def fsmCmds (js : List DropJob) : List CmdBit :=
  (js.filter fun j => j.mdhCmd = cmdKeep).map (·.fsmCmd)

/-- The chunks of all payloads. -/
def chunks (js : List DropJob) : List AxisApp := js.flatMap (·.payload)

/-- The chunks of the kept payloads. -/
def keptChunks (js : List DropJob) : List AxisApp := chunks (js.filter kept)

end DropJob

open DropJob

/-- The process before a list of payloads. -/
def tsdInit (js : List DropJob) : TsdState where
  siMdhDropCmd := js.map (·.mdhCmd)
  siFsmDropCmd := fsmCmds js
  siTidData := chunks js

/-- The state of the process with the payloads `js` before it, after the rest `cs` of the
current one. `pending` are the chunks that it will forward. -/
inductive TsdAhead (js : List DropJob) (s : TsdState) : (pending : List AxisApp) → Prop
  | idle (hst : s.fsmState = .rdDropCmd1) (hmdh : s.siMdhDropCmd = js.map (·.mdhCmd))
      (hfsm : s.siFsmDropCmd = fsmCmds js) (hdata : s.siTidData = chunks js) :
      TsdAhead js s (keptChunks js)
  | asked (j : DropJob) (hst : s.fsmState = .rdDropCmd2)
      (hmdh : s.siMdhDropCmd = js.map (·.mdhCmd)) (hfsm : s.siFsmDropCmd = j.fsmCmd :: fsmCmds js)
      (hdata : s.siTidData = j.payload ++ chunks js) (hp : IsStream j.payload) :
      TsdAhead js s ((if j.fsmCmd = cmdKeep then j.payload else []) ++ keptChunks js)
  | fwd (cs : List AxisApp) (hst : s.fsmState = .fwd) (hmdh : s.siMdhDropCmd = js.map (·.mdhCmd))
      (hfsm : s.siFsmDropCmd = fsmCmds js) (hdata : s.siTidData = cs ++ chunks js)
      (hp : IsStream cs) : TsdAhead js s (cs ++ keptChunks js)
  | drop (cs : List AxisApp) (hst : s.fsmState = .drop)
      (hmdh : s.siMdhDropCmd = js.map (·.mdhCmd)) (hfsm : s.siFsmDropCmd = fsmCmds js)
      (hdata : s.siTidData = cs ++ chunks js) (hp : IsStream cs) :
      TsdAhead js s (keptChunks js)

/-- The invariant of the process: what was forwarded and what is pending make up `total`. -/
def TsdInv (total : List AxisApp) (s : TsdState) : Prop :=
  ∃ js pending, (∀ j ∈ js, IsStream j.payload) ∧ TsdAhead js s pending ∧
    s.soMwrData ++ pending = total

/-- The cycles that the process still needs. -/
def tsdWork (s : TsdState) : ℕ :=
  2 * s.siMdhDropCmd.length + s.siTidData.length + if s.fsmState = .rdDropCmd2 then 1 else 0

lemma tsdInv_init {js : List DropJob} (h : ∀ j ∈ js, IsStream j.payload) :
    TsdInv (keptChunks js) (tsdInit js) :=
  ⟨js, keptChunks js, h, .idle rfl rfl rfl rfl, rfl⟩

section Jobs

variable (j : DropJob) (js : List DropJob)

lemma chunks_cons : chunks (j :: js) = j.payload ++ chunks js := rfl

lemma fsmCmds_cons : fsmCmds (j :: js)
    = if j.mdhCmd = cmdKeep then j.fsmCmd :: fsmCmds js else fsmCmds js := by
  unfold fsmCmds
  by_cases h : j.mdhCmd = cmdKeep <;> simp [h]

lemma keptChunks_cons : keptChunks (j :: js)
    = (if j.kept then j.payload else []) ++ keptChunks js := by
  unfold keptChunks
  by_cases h : j.kept <;> simp [h, chunks_cons]

end Jobs

/-- One call keeps the invariant, and makes progress when nothing blocks it. -/
lemma tsd_step {total : List AxisApp} {s : TsdState} (k : TsdCycle) (hs : TsdInv total s) :
    Clocked.Progress (TsdInv total) tsdWork TsdCycle.ready s k (pTcpSegmentDropper s k) := by
  have hinv := hs
  obtain ⟨js, pending, hjs, ha, htotal⟩ := hs
  cases ha with
  | idle hst hmdh hfsm hdata =>
      cases js with
      | nil =>
          refine .stay hinv (by simp [pTcpSegmentDropper, hst, hmdh]) (.inr ?_)
          simp [tsdWork, hst, hmdh, hdata, chunks]
      | cons j js =>
          rw [List.map_cons] at hmdh
          rw [fsmCmds_cons] at hfsm
          rw [chunks_cons] at hdata
          rw [keptChunks_cons] at htotal
          have hp : IsStream j.payload := hjs j List.mem_cons_self
          have hjs' : ∀ j' ∈ js, IsStream j'.payload := fun j' h =>
            hjs j' (List.mem_cons_of_mem j h)
          simp only [pTcpSegmentDropper, hst, hmdh]
          split
          · refine .move ?_ (by simp [tsdWork, hst, hmdh]; split <;> omega)
            by_cases hj : j.mdhCmd = cmdKeep
            · rw [if_pos hj] at hfsm
              have hdrop : j.mdhCmd ≠ cmdDrop := by simp [hj, cmdKeep, cmdDrop]
              refine ⟨js, _, hjs', .asked j (if_neg hdrop) rfl hfsm hdata hp, ?_⟩
              simpa [kept, hj] using htotal
            · rw [if_neg hj] at hfsm
              have hdrop : j.mdhCmd = cmdDrop := by simpa [cmdKeep, cmdDrop] using hj
              refine ⟨js, _, hjs', .drop j.payload (if_pos hdrop) rfl hfsm hdata hp, ?_⟩
              simpa [kept, hj] using htotal
          · next hk => exact .stay hinv rfl (.inl (by simp [TsdCycle.ready, hk]))
  | asked j hst hmdh hfsm hdata hp =>
      simp only [pTcpSegmentDropper, hst, hfsm]
      split
      · refine .move ?_ (by simp [tsdWork, hst]; split <;> simp)
        by_cases hj : j.fsmCmd = cmdKeep
        · have hdrop : j.fsmCmd ≠ cmdDrop := by simp [hj, cmdKeep, cmdDrop]
          rw [if_pos hj] at htotal
          exact ⟨js, _, hjs, .fwd j.payload (if_neg hdrop) hmdh rfl hdata hp, htotal⟩
        · have hdrop : j.fsmCmd = cmdDrop := by simpa [cmdKeep, cmdDrop] using hj
          rw [if_neg hj] at htotal
          exact ⟨js, _, hjs, .drop j.payload (if_pos hdrop) hmdh rfl hdata hp, htotal⟩
      · next hk => exact .stay hinv rfl (.inl (by simp [TsdCycle.ready, hk]))
  | fwd cs hst hmdh hfsm hdata hp =>
      cases cs with
      | nil => exact absurd hp id
      | cons c cs =>
          rw [List.cons_append] at hdata
          simp only [pTcpSegmentDropper, hst, hdata]
          split
          · refine .move ?_ (by simp [tsdWork, hst, hdata]; split <;> simp_all)
            have htotal' : s.soMwrData ++ [c] ++ (cs ++ keptChunks js) = total := by
              simpa using htotal
            cases hlast : c.tlast with
            | true =>
                have hnil : cs = [] := (isPacket_cons_of_last hlast).mp hp
                subst hnil
                exact ⟨js, _, hjs, .idle rfl hmdh hfsm rfl, htotal'⟩
            | false =>
                have hp' : IsStream cs := (isPacket_cons_of_not_last hlast).mp hp
                exact ⟨js, _, hjs, .fwd cs rfl hmdh hfsm rfl hp', htotal'⟩
          · next hk =>
              refine .stay hinv rfl (.inl ?_)
              simp only [TsdCycle.ready]
              grind
  | drop cs hst hmdh hfsm hdata hp =>
      cases cs with
      | nil => exact absurd hp id
      | cons c cs =>
          rw [List.cons_append] at hdata
          simp only [pTcpSegmentDropper, hst, hdata]
          split
          · refine .move ?_ (by simp [tsdWork, hst, hdata]; split <;> simp_all)
            cases hlast : c.tlast with
            | true =>
                have hnil : cs = [] := (isPacket_cons_of_last hlast).mp hp
                subst hnil
                exact ⟨js, _, hjs, .idle rfl hmdh hfsm rfl, htotal⟩
            | false =>
                have hp' : IsStream cs := (isPacket_cons_of_not_last hlast).mp hp
                exact ⟨js, _, hjs, .drop cs rfl hmdh hfsm rfl hp', htotal⟩
          · next hk => exact .stay hinv rfl (.inl (by simp [TsdCycle.ready, hk]))

/-- Without work left, everything was consumed and all kept payloads were forwarded. -/
lemma tsd_done {total : List AxisApp} {s : TsdState} (hs : TsdInv total s) (hw : tsdWork s = 0) :
    s = { siMdhDropCmd := [], siFsmDropCmd := [], siTidData := [], soMwrData := total } := by
  obtain ⟨js, pending, hjs, ha, rfl⟩ := hs
  unfold tsdWork at hw
  have hmdh0 : s.siMdhDropCmd = [] := List.eq_nil_of_length_eq_zero (by omega)
  have hdata0 : s.siTidData = [] := List.eq_nil_of_length_eq_zero (by omega)
  cases ha with
  | idle hst hmdh hfsm hdata =>
      have hnil : js = [] := List.map_eq_nil_iff.mp (hmdh.symm.trans hmdh0)
      subst hnil
      cases s
      simp_all [fsmCmds, keptChunks, chunks]
  | asked j hst hmdh hfsm hdata hp => simp [hst] at hw
  | fwd cs hst hmdh hfsm hdata hp =>
      exact absurd (List.append_eq_nil_iff.mp (hdata.symm.trans hdata0)).1 hp.ne_nil
  | drop cs hst hmdh hfsm hdata hp =>
      exact absurd (List.append_eq_nil_iff.mp (hdata.symm.trans hdata0)).1 hp.ne_nil

/-- Whatever the schedule, the process forwards chunks of the kept payloads in order; and once
enough cycles did not block it, it has consumed all payloads with their commands and forwarded
the kept ones. -/
theorem tsd_run {js : List DropJob} (hjs : ∀ j ∈ js, IsStream j.payload) (ks : List TsdCycle) :
    (Clocked.run pTcpSegmentDropper (tsdInit js) ks).soMwrData <+: keptChunks js ∧
    (2 * js.length + (chunks js).length ≤ ks.countP TsdCycle.ready →
      Clocked.run pTcpSegmentDropper (tsdInit js) ks =
        { siMdhDropCmd := [], siFsmDropCmd := [], siTidData := []
          soMwrData := keptChunks js }) := by
  obtain ⟨hinv, hwork⟩ := Clocked.run_work (fun _ k hs _ => tsd_step k hs) (tsdInv_init hjs)
    (Clocked.along_trivial pTcpSegmentDropper (tsdInit js) ks)
  refine ⟨?_, fun hready => tsd_done hinv ?_⟩
  · obtain ⟨js', pending, -, -, htotal⟩ := hinv
    exact ⟨pending, htotal⟩
  · have hinit : tsdWork (tsdInit js) = 2 * js.length + (chunks js).length := by
      simp [tsdWork, tsdInit]
    omega

end CloudFpga.Toe
