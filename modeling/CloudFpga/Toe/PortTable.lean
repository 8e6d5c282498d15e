import CloudFpga.Foundation.Pool
import CloudFpga.Toe.Types

/-!
The table of the ephemeral ports, `port_table.cpp`: `pFreePortTable`.

* `pFreePortTable`: one call of the process.
* `fptNext`: a step of the process with the requests that arrive on its streams.
* `FptSlip`: the reply stream is full while a free port is to be answered; the search then goes on
  to the next port without looking at its state.
* `pFreePortTable_unique`: without such a step every port that is handed out was free, and none is
  handed out twice without a release in between.
-/

namespace CloudFpga.Toe

open Foundation

/-- The lower fifteen bits of a port from 32768 on. -/
abbrev TcpDynPort := BitVec 15

/-- `ACT_FREE_PORT`. -/
def actFreePort : Bool := false

/-- `ACT_USED_PORT`. -/
def actUsedPort : Bool := true

/-- The registers of the process and its input streams. -/
structure FptState where
  table : TcpDynPort → Bool
  isFPtInit : Bool := false
  searching : Bool := false
  eval : Bool := false
  dynPortNum : TcpDynPort := 0x7FFF
  portState : Bool := actUsedPort
  siSLcCloseActPortCmd : List TcpPort := []
  siIrrGetPortStateCmd : List TcpDynPort := []
  siTAiGetFreePortReq : List Bool := []

/-- What a call writes on its output streams. `freed` is the port that the call releases, and
`exit` the `exit(1)` of a build without `__SYNTHESIS__`. -/
structure FptOut where
  soOrmGetPortStateRsp : List Bool := []
  soTAiGetFreePortRep : List TcpPort := []
  freed : Option TcpDynPort := none
  exit : Bool := false
  deriving DecidableEq

/-- `0x8000 + fpt_dynPortNum`. -/
def dynPort (d : TcpDynPort) : TcpPort := 0x8000 + d.setWidth 16

/-- `tcpPort.range(14, 0)`. -/
def dynPortNum (p : TcpPort) : TcpDynPort := p.setWidth 15

section Calls

variable (synthesis : Bool) (s : FptState)

/-- The initialisation: the table is cleared from its last entry down to the entry 1. -/
def fptInit : FptState :=
  { s with
    table := Function.update s.table s.dynPortNum actFreePort
    dynPortNum := s.dynPortNum - 1
    isFPtInit := s.dynPortNum - 1 = 0 }

/-- The evaluation of the port state that was read. The port number moves on in every case, also
when the reply stream is full and the process stays in the evaluation. -/
def fptEval (repFull : Bool) : FptState × FptOut :=
  if s.portState = actFreePort then
    if ¬repFull then
      ({ s with
          eval := false
          table := Function.update s.table s.dynPortNum actUsedPort
          dynPortNum := s.dynPortNum + 1 },
        { soTAiGetFreePortRep := [dynPort s.dynPortNum] })
    else ({ s with dynPortNum := s.dynPortNum + 1 }, {})
  else ({ s with searching := true, dynPortNum := s.dynPortNum + 1 }, {})

/-- A command to release a port. -/
def fptClose (tcpPort : TcpPort) (ps : List TcpPort) : FptState × FptOut :=
  if tcpPort.getLsbD 15 then
    ({ s with
        siSLcCloseActPortCmd := ps
        table := Function.update s.table (dynPortNum tcpPort) actFreePort },
      { freed := some (dynPortNum tcpPort) })
  else ({ s with siSLcCloseActPortCmd := ps }, { exit := !synthesis })

/-- One call of the process. -/
def pFreePortTable (repFull : Bool) : FptState × FptOut :=
  if ¬s.isFPtInit then (fptInit s, {})
  else if s.searching then
    ({ s with portState := s.table s.dynPortNum, searching := false, eval := true }, {})
  else if s.eval then fptEval s repFull
  else
    match s.siIrrGetPortStateCmd, s.siTAiGetFreePortReq, s.siSLcCloseActPortCmd with
    | portNum :: ps, _, _ =>
        ({ s with siIrrGetPortStateCmd := ps }, { soOrmGetPortStateRsp := [s.table portNum] })
    | [], _ :: rs, _ => ({ s with siTAiGetFreePortReq := rs, searching := true }, {})
    | [], [], tcpPort :: ps => fptClose synthesis s tcpPort ps
    | [], [], [] => (s, {})

end Calls

/-- Who takes the next step. -/
inductive FptLabel where
  /-- a request for a free port -/
  | getFreePortReq
  /-- a command to release a port -/
  | closeActPortCmd (tcpPort : TcpPort)
  /-- a query for the state of a port -/
  | getPortStateCmd (portNum : TcpDynPort)
  /-- a call of the process, while the reply stream is full or not -/
  | call (repFull : Bool)
  deriving DecidableEq

/-- A step. -/
def fptNext (synthesis : Bool) (s : FptState) : FptLabel → FptState
  | .getFreePortReq => { s with siTAiGetFreePortReq := s.siTAiGetFreePortReq ++ [true] }
  | .closeActPortCmd p => { s with siSLcCloseActPortCmd := s.siSLcCloseActPortCmd ++ [p] }
  | .getPortStateCmd d => { s with siIrrGetPortStateCmd := s.siIrrGetPortStateCmd ++ [d] }
  | .call repFull => (pFreePortTable synthesis s repFull).1

/-- The port that a step hands out or releases. -/
def fptEvent (synthesis : Bool) (s : FptState) : FptLabel → Option (PoolEvent TcpDynPort)
  | .call repFull =>
      let r := (pFreePortTable synthesis s repFull).2
      match r.soTAiGetFreePortRep with
      | p :: _ => some (.take (dynPortNum p))
      | [] => r.freed.map .give
  | _ => none

/-- After a reset. The table and the register `portState` may hold anything, and requests may
wait. -/
structure FptReset (s : FptState) : Prop where
  isFPtInit : s.isFPtInit = false
  searching : s.searching = false
  eval : s.eval = false
  dynPortNum : s.dynPortNum = 0x7FFF

/-- A free port is to be answered while the reply stream is full. -/
def FptSlip (s : FptState) : FptLabel → Prop
  | .call repFull =>
      s.isFPtInit ∧ ¬s.searching ∧ s.eval ∧ s.portState = actFreePort ∧ repFull
  | _ => False

instance (s : FptState) : (k : FptLabel) → Decidable (FptSlip s k)
  | .call _ => inferInstanceAs (Decidable (_ ∧ _))
  | .getFreePortReq | .closeActPortCmd _ | .getPortStateCmd _ => inferInstanceAs (Decidable False)

/-- A port that the step hands out was free, and is active from then on. -/
def FptTakesFree (synthesis : Bool) (s : FptState) (k : FptLabel) : Prop :=
  ∀ d, fptEvent synthesis s k = some (.take d) →
    s.table d = actFreePort ∧ (fptNext synthesis s k).table d = actUsedPort

/-! ### The search -/

/-- While the state of a port is to be evaluated, it is the one in the table. -/
structure FptInv (s : FptState) : Prop where
  init : s.isFPtInit = false → s.searching = false ∧ s.eval = false
  portState : s.eval = true → s.searching = false → s.portState = s.table s.dynPortNum

/-- The port is active, in a table that is initialised. -/
def FptState.used (s : FptState) (d : TcpDynPort) : Prop :=
  s.isFPtInit = true ∧ s.table d = actUsedPort

lemma FptReset.inv {s : FptState} (h : FptReset s) : FptInv s where
  init _ := ⟨h.searching, h.eval⟩
  portState he := by rw [h.eval] at he; cases he

@[simp] lemma dynPortNum_dynPort (d : TcpDynPort) : dynPortNum (dynPort d) = d := by
  have hd := d.isLt
  have h0 : (0x8000 : BitVec 16).toNat = 32768 := rfl
  apply BitVec.eq_of_toNat_eq
  simp only [dynPortNum, dynPort, BitVec.toNat_setWidth, BitVec.toNat_add]
  omega

/-- What a call does. -/
inductive FptCall (synthesis : Bool) (s : FptState) : Bool → FptState × FptOut → Prop
  | init {repFull : Bool} (hi : s.isFPtInit = false) :
      FptCall synthesis s repFull (fptInit s, {})
  | search {repFull : Bool} (hi : s.isFPtInit = true) (hs : s.searching = true) :
      FptCall synthesis s repFull
        ({ s with portState := s.table s.dynPortNum, searching := false, eval := true }, {})
  | found (hi : s.isFPtInit = true) (hs : s.searching = false) (he : s.eval = true)
      (hp : s.portState = actFreePort) :
      FptCall synthesis s false
        ({ s with
            eval := false
            table := Function.update s.table s.dynPortNum actUsedPort
            dynPortNum := s.dynPortNum + 1 },
          { soTAiGetFreePortRep := [dynPort s.dynPortNum] })
  | blocked (hi : s.isFPtInit = true) (hs : s.searching = false) (he : s.eval = true)
      (hp : s.portState = actFreePort) :
      FptCall synthesis s true ({ s with dynPortNum := s.dynPortNum + 1 }, {})
  | skip {repFull : Bool} (hi : s.isFPtInit = true) (hs : s.searching = false)
      (he : s.eval = true) (hp : s.portState = actUsedPort) :
      FptCall synthesis s repFull ({ s with searching := true, dynPortNum := s.dynPortNum + 1 }, {})
  | query {repFull : Bool} {d : TcpDynPort} {ds : List TcpDynPort} (hi : s.isFPtInit = true)
      (hs : s.searching = false) (he : s.eval = false) (hq : s.siIrrGetPortStateCmd = d :: ds) :
      FptCall synthesis s repFull
        ({ s with siIrrGetPortStateCmd := ds }, { soOrmGetPortStateRsp := [s.table d] })
  | request {repFull : Bool} {r : Bool} {rs : List Bool} (hi : s.isFPtInit = true)
      (hs : s.searching = false) (he : s.eval = false) (hr : s.siTAiGetFreePortReq = r :: rs) :
      FptCall synthesis s repFull ({ s with siTAiGetFreePortReq := rs, searching := true }, {})
  | close {repFull : Bool} {p : TcpPort} {ps : List TcpPort} (hi : s.isFPtInit = true)
      (hs : s.searching = false) (he : s.eval = false) (hq : s.siIrrGetPortStateCmd = [])
      (hr : s.siTAiGetFreePortReq = []) (hc : s.siSLcCloseActPortCmd = p :: ps) :
      FptCall synthesis s repFull (fptClose synthesis s p ps)
  | idle {repFull : Bool} (hi : s.isFPtInit = true) : FptCall synthesis s repFull (s, {})

section Steps

variable {synthesis : Bool} {s : FptState}

lemma pFreePortTable_cases (synthesis : Bool) (s : FptState) (repFull : Bool) :
    FptCall synthesis s repFull (pFreePortTable synthesis s repFull) := by
  cases hi : s.isFPtInit with
  | false =>
      rw [pFreePortTable, if_pos (by simp [hi])]
      exact .init hi
  | true =>
      rw [pFreePortTable, if_neg (by simp [hi])]
      split_ifs with hs he
      · exact .search hi hs
      · have hs' : s.searching = false := by simpa using hs
        cases hp : s.portState with
        | false =>
            cases repFull with
            | false => simpa [fptEval, hp, actFreePort] using FptCall.found hi hs' he hp
            | true => simpa [fptEval, hp, actFreePort] using FptCall.blocked hi hs' he hp
        | true => simpa [fptEval, hp, actFreePort] using FptCall.skip hi hs' he hp
      · have hs' : s.searching = false := by simpa using hs
        have he' : s.eval = false := by simpa using he
        split
        · next hq => exact .query hi hs' he' hq
        · next hr => exact .request hi hs' he' hr
        · next hq hr hc => exact .close hi hs' he' hq hr hc
        · exact .idle hi

lemma FptInv.of_init {s : FptState} (hi : s.isFPtInit = true)
    (h : s.eval = true → s.searching = false → s.portState = s.table s.dynPortNum) : FptInv s :=
  ⟨fun hi' => absurd (hi.symm.trans hi') Bool.true_eq_false.mp, h⟩

/-- A call keeps the invariant, unless it slips. -/
lemma FptInv.call (h : FptInv s) (repFull : Bool) (hslip : ¬FptSlip s (.call repFull)) :
    FptInv (pFreePortTable synthesis s repFull).1 := by
  have hcall := pFreePortTable_cases synthesis s repFull
  generalize pFreePortTable synthesis s repFull = r at hcall ⊢
  cases hcall with
  | init hi =>
      obtain ⟨hs, he⟩ := h.init hi
      exact ⟨fun _ => ⟨hs, he⟩, fun he' => absurd (he.symm.trans he') Bool.false_ne_true⟩
  | search hi hs => exact .of_init hi fun _ _ => rfl
  | found hi => exact .of_init hi fun he' => absurd he' Bool.false_ne_true
  | blocked hi hs he hp => exact absurd ⟨hi, by simp [hs], he, hp, rfl⟩ hslip
  | skip hi => exact .of_init hi fun _ hs' => absurd hs'.symm Bool.false_ne_true
  | query hi hs he => exact ⟨h.init, h.portState⟩
  | request hi => exact .of_init hi fun _ hs' => absurd hs'.symm Bool.false_ne_true
  | close hi hs he =>
      have hno (he' : s.eval = true) : False := absurd (he.symm.trans he') Bool.false_ne_true
      rw [fptClose]
      split <;> exact .of_init hi fun he' => (hno he').elim
  | idle hi => exact h

/-- The requests that arrive leave the registers alone. -/
lemma FptInv.next (h : FptInv s) {k : FptLabel} (hslip : ¬FptSlip s k) :
    FptInv (fptNext synthesis s k) := by
  cases k with
  | call repFull => exact h.call repFull hslip
  | getFreePortReq => exact ⟨h.init, h.portState⟩
  | closeActPortCmd p => exact ⟨h.init, h.portState⟩
  | getPortStateCmd d => exact ⟨h.init, h.portState⟩

/-- The table follows the events of a call. -/
lemma tracks_call (h : FptInv s) (repFull : Bool) :
    Tracks s.used (pFreePortTable synthesis s repFull).1.used
      (fptEvent synthesis s (.call repFull)) := by
  have hcall := pFreePortTable_cases synthesis s repFull
  rw [fptEvent]
  generalize pFreePortTable synthesis s repFull = r at hcall ⊢
  cases hcall with
  | init hi => exact .of_none fun d hd => absurd (hi.symm.trans hd.1) Bool.false_ne_true
  | search => exact .of_none fun d hd => hd
  | blocked => exact .of_none fun d hd => hd
  | skip => exact .of_none fun d hd => hd
  | query => exact .of_none fun d hd => hd
  | request => exact .of_none fun d hd => hd
  | idle => exact .of_none fun d hd => hd
  | found hi hs he hp =>
      have hfree : s.table s.dynPortNum = actFreePort := (h.portState he hs).symm.trans hp
      simp only [dynPortNum_dynPort]
      refine .of_take (fun hu => absurd (hfree.symm.trans hu.2) Bool.false_ne_true)
        ⟨hi, Function.update_self ..⟩ fun d hd => ⟨hi, ?_⟩
      by_cases hne : d = s.dynPortNum
      · rw [hne]
        exact Function.update_self ..
      · exact (Function.update_of_ne hne ..).trans hd.2
  | close hi hs he _ _ hc =>
      rw [fptClose]
      split
      · exact .of_give fun d hd hne => ⟨hi, (Function.update_of_ne hne ..).trans hd.2⟩
      · exact .of_none fun d hd => hd

lemma tracks_next (h : FptInv s) (k : FptLabel) :
    Tracks s.used (fptNext synthesis s k).used (fptEvent synthesis s k) := by
  cases k with
  | call repFull => exact tracks_call h repFull
  | getFreePortReq => exact .of_none fun d hd => hd
  | closeActPortCmd p => exact .of_none fun d hd => hd
  | getPortStateCmd d => exact .of_none fun d hd => hd

/-- A port that is handed out was free. -/
lemma takesFree_next (h : FptInv s) (k : FptLabel) : FptTakesFree synthesis s k := by
  intro d hd
  have htr := (tracks_next h k).fresh d hd
  cases k with
  | call repFull =>
      refine ⟨?_, htr.2.2⟩
      cases hi : s.isFPtInit with
      | false => simp [fptEvent, pFreePortTable, hi] at hd
      | true =>
          have hused : ¬s.table d = actUsedPort := fun hu => htr.1 ⟨hi, hu⟩
          simpa [actUsedPort, actFreePort] using hused
  | _ => cases hd

end Steps

/-- **Uniqueness of the ephemeral ports**: from a reset on, whatever arrives on the streams and
whenever the reply stream is full, unless it is full in a call that is to answer a free port: every
port that is handed out was free and becomes active, and between two answers with the same port
that port is released. -/
theorem pFreePortTable_unique {synthesis : Bool} {s : FptState} {ks : List FptLabel}
    (hs : FptReset s)
    (hC : Clocked.Along (fptNext synthesis) (fun s k => ¬FptSlip s k) s ks) :
    Clocked.Along (fptNext synthesis) (FptTakesFree synthesis) s ks ∧
      Exclusive (Clocked.log (fptNext synthesis) (fptEvent synthesis) s ks) := by
  constructor
  · exact Clocked.along_of_inv (fun s k h hk => ⟨takesFree_next h k, h.next hk⟩) hs.inv hC
  · exact @Clocked.exclusive_log _ _ _ _ _ FptState.used _ _
      (fun s k h hk => ⟨h.next hk, tracks_next h k⟩) _ _ hs.inv hC

/-! ### A full reply stream -/

/-- The process after power-up. -/
def fptStart : FptState where
  table _ := actFreePort

lemma fptStart_reset : FptReset fptStart := ⟨rfl, rfl, rfl, rfl⟩

/-- A call of the initialisation, in a table that is clear. -/
lemma fptNext_init (synthesis : Bool) (d : TcpDynPort) :
    fptNext synthesis { fptStart with dynPortNum := d } (.call false)
      = { fptStart with dynPortNum := d - 1, isFPtInit := d - 1 = 0 } := by
  have htable : Function.update (fun _ : TcpDynPort => actFreePort) d actFreePort
      = fun _ => actFreePort := Function.update_eq_self d _
  simp only [fptNext, pFreePortTable, fptInit, fptStart, htable]
  rfl

/-- The initialisation of a table that is clear. -/
lemma run_init (synthesis : Bool) {m : ℕ} {d : TcpDynPort} (hm : m = d.toNat) (hd : 0 < m) :
    Clocked.run (fptNext synthesis) { fptStart with dynPortNum := d }
        (List.replicate m (.call false))
      = { fptStart with isFPtInit := true, dynPortNum := 0 } := by
  induction m generalizing d with
  | zero => exact absurd hd (Nat.lt_irrefl 0)
  | succ m ih =>
      have hlt := d.isLt
      have hone : (1 : BitVec 15).toNat = 1 := rfl
      have hsub : (d - 1).toNat = m := by
        rw [BitVec.toNat_sub]
        omega
      rw [List.replicate_succ, Clocked.run_cons, fptNext_init]
      cases m with
      | zero =>
          have hz : d - 1 = 0 := BitVec.eq_of_toNat_eq hsub
          rw [hz]
          rfl
      | succ m =>
          have hne : d - 1 ≠ 0 := by
            intro hz
            rw [hz] at hsub
            cases hsub
          rw [decide_eq_false hne]
          exact ih hsub.symm (Nat.succ_pos m)

/-- The evaluation of a free port while the reply stream is full. -/
lemma run_blocked {synthesis : Bool} (n : ℕ) {s : FptState} (hi : s.isFPtInit = true)
    (hs : s.searching = false) (he : s.eval = true) (hp : s.portState = actFreePort) :
    Clocked.run (fptNext synthesis) s (List.replicate n (.call true))
      = { s with dynPortNum := s.dynPortNum + BitVec.ofNat 15 n } := by
  induction n generalizing s with
  | zero => simp
  | succ n ih =>
      have hcall : fptNext synthesis s (.call true)
          = { s with dynPortNum := s.dynPortNum + 1 } := by
        simp [fptNext, pFreePortTable, fptEval, hi, hs, he, hp]
      have hadd : s.dynPortNum + 1 + BitVec.ofNat 15 n = s.dynPortNum + BitVec.ofNat 15 (n + 1) := by
        rw [BitVec.add_assoc, Nat.add_comm n, BitVec.ofNat_add]
        rfl
      have hrest := @ih { s with dynPortNum := s.dynPortNum + 1 } hi hs he hp
      rw [List.replicate_succ, Clocked.run_cons, hcall, hrest, hadd]

/-- Two requests for a port. The first one is answered. -/
def fptTwoReqs : List FptLabel :=
  [.getFreePortReq, .call false, .call false, .call false, .getFreePortReq, .call false,
    .call false]

/-- The initialisation and two requests, with a reply stream that is never full. -/
theorem pFreePortTable_unique_twoReqs :
    Clocked.Along (fptNext true) (FptTakesFree true) fptStart
        (List.replicate 0x7FFF (.call false) ++ fptTwoReqs) ∧
      Exclusive (Clocked.log (fptNext true) (fptEvent true) fptStart
        (List.replicate 0x7FFF (.call false) ++ fptTwoReqs)) := by
  refine pFreePortTable_unique fptStart_reset (Clocked.along_of_forall _ fun k hk s => ?_)
  rw [List.mem_append, List.mem_replicate] at hk
  obtain ⟨-, rfl⟩ | hk := hk
  · simp [FptSlip]
  · simp only [fptTwoReqs, List.mem_cons, List.not_mem_nil, or_false] at hk
    rcases hk with rfl | rfl | rfl | rfl | rfl | rfl | rfl <;> simp [FptSlip]

/-- The state in which the second request is to be answered with the port of the number `d`. -/
def fptSecond (d : TcpDynPort) : FptState where
  table := Function.update (fun _ => actFreePort) 0 actUsedPort
  isFPtInit := true
  eval := true
  dynPortNum := d
  portState := actFreePort

/-- After the initialisation the port 32768 is handed out; the reply stream is then full while the
second request goes once around the table. -/
def fptWrap : List FptLabel :=
  List.replicate 0x7FFF (.call false) ++ (fptTwoReqs ++ List.replicate 0x7FFF (.call true))

lemma run_fptWrap : Clocked.run (fptNext true) fptStart fptWrap = fptSecond 0 := by
  have hinit : Clocked.run (fptNext true) fptStart (List.replicate 0x7FFF (.call false))
      = { fptStart with isFPtInit := true, dynPortNum := 0 } :=
    @run_init true _ fptStart.dynPortNum rfl (by decide)
  have hreqs : Clocked.run (fptNext true) { fptStart with isFPtInit := true, dynPortNum := 0 }
      fptTwoReqs = fptSecond 1 := rfl
  have hfull : Clocked.run (fptNext true) (fptSecond 1) (List.replicate 0x7FFF (.call true))
      = fptSecond 0 := run_blocked _ rfl rfl rfl rfl
  rw [fptWrap, Clocked.run_append, Clocked.run_append, hinit, hreqs, hfull]

/-- The port 32768 is handed out a second time, while it is active. -/
theorem pFreePortTable_wrap_reuses :
    FptReset fptStart ∧
      ¬(Clocked.Along (fptNext true) (FptTakesFree true) fptStart (fptWrap ++ [.call false]) ∧
        Exclusive (Clocked.log (fptNext true) (fptEvent true) fptStart
          (fptWrap ++ [.call false]))) := by
  refine ⟨fptStart_reset, fun h => ?_⟩
  have hlast := (Clocked.along_append _).mp h.1
  rw [run_fptWrap] at hlast
  have hfree : actUsedPort = actFreePort := (hlast.2.1 0 rfl).1
  cases hfree

end CloudFpga.Toe
