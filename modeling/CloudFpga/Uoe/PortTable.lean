import Mathlib.Tactic

/-!
The table of open ports of the UOE, `pUdpPortTable` of `uoe.cpp`. All ports are closed at the start,
which takes one call for each of them. Then a port is looked up, opened or closed in two calls.
-/

namespace CloudFpga.Uoe

abbrev UdpPort := BitVec 16

inductive UptFsmStates where
  | wait4Req | rphLkp | lsnRep | clsRep
  deriving DecidableEq, Repr

/-- `PORT_TABLE`, the registers and the input streams. -/
structure UdpPortTable where
  portTable : UdpPort → Bool := fun _ => false
  uptFsmState : UptFsmStates := .wait4Req
  uptIsInit : Bool := false
  uptInitPtr : UdpPort := 0xFFFF
  uptPortNum : UdpPort := 0
  siRphPortStateReq : List UdpPort := []
  siUAIFLsnReq : List UdpPort := []
  siUAIFClsReq : List UdpPort := []

/-- What a call writes. An acknowledgment comes with its port, which no process reads. -/
structure UptOut where
  soMMIOReady : List Bool := []
  soRphPortStateRep : List Bool := []
  soUAIFLsnRep : List (UdpPort × Bool) := []
  soUAIFClsRep : List Bool := []

/-- Which output streams have room. -/
structure UptCall where
  readyRoom : Bool := true
  rphRepRoom : Bool := true
  lsnRepRoom : Bool := true
  clsRepRoom : Bool := true
  deriving DecidableEq

section Process

variable (t : UdpPortTable) (k : UptCall)

/-- The next port of the table is closed at the start. -/
def uptInit : UdpPortTable × UptOut :=
  let t : UdpPortTable := { t with portTable := Function.update t.portTable t.uptInitPtr false }
  if t.uptInitPtr = 0 then
    if k.readyRoom then ({ t with uptIsInit := true }, { soMMIOReady := [true] }) else (t, {})
  else ({ t with uptInitPtr := t.uptInitPtr - 1 }, {})

/-- `UPT_WAIT4REQ`: a lookup goes before a request to open a port, and that before one to close. -/
def uptWait4Req : UdpPortTable :=
  match t.siRphPortStateReq, t.siUAIFLsnReq, t.siUAIFClsReq with
  | port :: reqs, _, _ =>
      { t with siRphPortStateReq := reqs, uptPortNum := port, uptFsmState := .rphLkp }
  | [], port :: reqs, _ =>
      { t with siUAIFLsnReq := reqs, uptPortNum := port, uptFsmState := .lsnRep }
  | [], [], port :: reqs =>
      { t with siUAIFClsReq := reqs, uptPortNum := port, uptFsmState := .clsRep }
  | [], [], [] => t

/-- `UPT_LSN_REP`. -/
def uptLsnRep : UdpPortTable × UptOut :=
  ({ t with
      portTable := Function.update t.portTable t.uptPortNum true
      uptFsmState := .wait4Req },
    { soUAIFLsnRep := [(t.uptPortNum, true)] })

/-- `UPT_CLS_REP`. -/
def uptClsRep : UdpPortTable × UptOut :=
  ({ t with
      portTable := Function.update t.portTable t.uptPortNum false
      uptFsmState := .wait4Req },
    { soUAIFClsRep := [false] })

/-- One call. -/
def pUdpPortTable : UdpPortTable × UptOut :=
  if t.uptIsInit then
    match t.uptFsmState with
    | .wait4Req => (uptWait4Req t, {})
    | .rphLkp =>
        if k.rphRepRoom then
          ({ t with uptFsmState := .wait4Req },
            { soRphPortStateRep := [t.portTable t.uptPortNum] })
        else (t, {})
    | .lsnRep => if k.lsnRepRoom then uptLsnRep t else (t, {})
    | .clsRep => if k.clsRepRoom then uptClsRep t else (t, {})
  else uptInit t k

end Process

/-! ### The start -/

/-- The table while it is closed, with what is left of it. -/
lemma uptInit_closed {t : UdpPortTable} (hinit : t.uptIsInit = false)
    (hclosed : ∀ p, t.portTable p = false) (k : UptCall) (hroom : k.readyRoom = true) :
    (pUdpPortTable t k).1 =
        (if t.uptInitPtr = 0 then { t with uptIsInit := true }
        else { t with uptInitPtr := t.uptInitPtr - 1 }) ∧
      (pUdpPortTable t k).2.soUAIFLsnRep = [] ∧ (pUdpPortTable t k).2.soUAIFClsRep = [] := by
  have htable : Function.update t.portTable t.uptInitPtr false = t.portTable := by
    rw [← hclosed t.uptInitPtr, Function.update_eq_self]
  rw [pUdpPortTable, if_neg (by rw [hinit]; decide), uptInit]
  dsimp only
  rw [htable, if_pos hroom]
  split
  · exact ⟨rfl, rfl, rfl⟩
  · exact ⟨rfl, rfl, rfl⟩

end CloudFpga.Uoe
