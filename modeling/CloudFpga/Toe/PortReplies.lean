import CloudFpga.Toe.PortStates

/-!
Whether the queries for the state of a port get their replies.

* `freeDist`, `PortTables.work`: how many calls the search for a free port, and all the processes,
  may still take.
* `prt_moves`: a call does some of the work, or its process has nothing to do.
* `portStates_answered`: the replies are in order, and every query gets its own as long as the ports
  suffice.
* `exhausted`: all ports are handed out; `not_replies_exhausted`: there is no reply any more.
-/

namespace CloudFpga.Toe

open Foundation

section Demand

variable {table : TcpDynPort → Bool}

/-- A port that is handed out. -/
lemma usedPorts_take (table : TcpDynPort → Bool) (d : TcpDynPort) :
    usedPorts (Function.update table d actUsedPort) ≤ usedPorts table + 1 := by
  refine le_trans (Finset.card_le_card fun k hk => ?_) (Finset.card_insert_le d.toNat _)
  rw [Finset.mem_filter] at hk
  rw [Finset.mem_insert, Finset.mem_filter]
  by_cases hd : BitVec.ofNat 15 k = d
  · left
    have hlt := Finset.mem_range.mp hk.1
    rw [← hd, BitVec.toNat_ofNat]
    omega
  · rw [Function.update_of_ne hd] at hk
    exact .inr hk

/-- A port that is released. -/
lemma usedPorts_give (table : TcpDynPort → Bool) (d : TcpDynPort) :
    usedPorts (Function.update table d actFreePort) ≤ usedPorts table := by
  refine Finset.card_le_card fun k hk => ?_
  rw [Finset.mem_filter] at hk ⊢
  by_cases hd : BitVec.ofNat 15 k = d
  · rw [hd, Function.update_self] at hk
    cases hk.2
  · rwa [Function.update_of_ne hd] at hk

/-- If not all ports are active, one is free. -/
lemma exists_free (h : usedPorts table < 0x8000) : ∃ d, table d = actFreePort := by
  by_contra hno
  have hall : ∀ k ∈ Finset.range 0x8000, table (BitVec.ofNat 15 k) = actUsedPort := by
    intro k _
    have hk := not_exists.mp hno (BitVec.ofNat 15 k)
    simpa [actFreePort, actUsedPort] using hk
  rw [usedPorts, Finset.filter_true_of_mem hall, Finset.card_range] at h
  exact absurd h (lt_irrefl _)

/-- How far the search is from a free port. -/
noncomputable def freeDist (table : TcpDynPort → Bool) (d : TcpDynPort) : ℕ :=
  sInf { k | table (d + BitVec.ofNat 15 k) = actFreePort }

lemma freeDist_lt (h : ∃ e, table e = actFreePort) (d : TcpDynPort) :
    freeDist table d < 0x8000 := by
  obtain ⟨e, he⟩ := h
  refine lt_of_le_of_lt (Nat.sInf_le (m := (e - d).toNat) ?_) (e - d).isLt
  have hadd : d + BitVec.ofNat 15 (e - d).toNat = e := by
    rw [BitVec.ofNat_toNat, BitVec.setWidth_eq]
    bv_omega
  exact (congrArg (table · = actFreePort) hadd).mpr he

/-- A port that is not free brings the search closer. -/
lemma freeDist_succ (h : ∃ e, table e = actFreePort) {d : TcpDynPort}
    (hd : table d = actUsedPort) : freeDist table (d + 1) + 1 ≤ freeDist table d := by
  obtain ⟨e, he⟩ := h
  have hne : { k | table (d + BitVec.ofNat 15 k) = actFreePort }.Nonempty := by
    refine ⟨(e - d).toNat, ?_⟩
    have hadd : d + BitVec.ofNat 15 (e - d).toNat = e := by
      rw [BitVec.ofNat_toNat, BitVec.setWidth_eq]
      bv_omega
    exact (congrArg (table · = actFreePort) hadd).mpr he
  have hmem : table (d + BitVec.ofNat 15 (freeDist table d)) = actFreePort := Nat.sInf_mem hne
  obtain ⟨k, hk⟩ : ∃ k, freeDist table d = k + 1 := by
    cases hk : freeDist table d with
    | zero =>
        rw [hk, BitVec.add_zero, hd] at hmem
        cases hmem
    | succ k => exact ⟨k, rfl⟩
  rw [hk] at hmem ⊢
  refine Nat.succ_le_succ (Nat.sInf_le ?_)
  have hadd : d + 1 + BitVec.ofNat 15 k = d + BitVec.ofNat 15 (k + 1) := by
    rw [BitVec.add_assoc, Nat.add_comm k, BitVec.ofNat_add]
    rfl
  exact (congrArg (table · = actFreePort) hadd).mpr hmem

end Demand

/-- The calls that the search may still take. -/
noncomputable def FptState.searchWork (s : FptState) : ℕ :=
  if s.searching then 2 * freeDist s.table s.dynPortNum + 2
  else if s.eval then
    if s.portState = actFreePort then 1 else 2 * freeDist s.table (s.dynPortNum + 1) + 3
  else 0

/-- The calls that the free port table may still take. -/
noncomputable def FptState.work (s : FptState) : ℕ :=
  s.siIrrGetPortStateCmd.length + 65540 * s.siTAiGetFreePortReq.length +
    s.siSLcCloseActPortCmd.length + s.searchWork + if s.isFPtInit then 0 else s.dynPortNum.toNat

/-- The calls that the listening port table may still take. -/
def LptState.work (s : LptState) : ℕ :=
  s.siIrrGetPortStateCmd.length + s.siRAiOpenLsnPortReq.length +
    if s.isLPtInit then 0 else 0x8000 - s.lsnPortNum.toNat

/-- The calls that the processes may still take. -/
noncomputable def PortTables.work (s : PortTables) : ℕ :=
  4 * s.siRXeGetPortStateCmd.length + s.lpt.work + s.fpt.work + 2 * s.ssIrrToOrmQueryRange.length +
    s.orm.range.length

/-- The registers while the tables are initialised. -/
structure PrtRegs (s : PortTables) : Prop where
  lpt : s.lpt.isLPtInit = false → s.lpt.lsnPortNum.toNat < 0x8000
  fpt : s.fpt.isFPtInit = false →
    s.fpt.searching = false ∧ s.fpt.eval = false ∧ s.fpt.dynPortNum ≠ 0

/-- An idle free port table has no query to answer. -/
lemma pFreePortTable_idle {s : FptState} (hi : s.isFPtInit = true)
    (h : pFreePortTable true s false = (s, {})) : s.siIrrGetPortStateCmd = [] := by
  cases hs : s.searching with
  | true =>
      have hsearching := congrArg (fun r => r.1.searching) h
      simp [pFreePortTable, hi, hs] at hsearching
  | false =>
      cases he : s.eval with
      | true =>
          have heval := congrArg (fun r => (r.1.searching, r.2.soTAiGetFreePortRep)) h
          cases hp : s.portState <;> simp [pFreePortTable, fptEval, hi, hs, he, hp, actFreePort]
            at heval
      | false =>
          cases hq : s.siIrrGetPortStateCmd with
          | nil => rfl
          | cons d ds =>
              have hlen := congrArg (fun r => r.1.siIrrGetPortStateCmd.length) h
              simp [pFreePortTable, hi, hs, he, hq] at hlen

/-- A call of the free port table has nothing to do, or does some of its work; and it takes no more
ports than it was asked for. -/
lemma FptState.work_call {s : FptState}
    (hreg : s.isFPtInit = false → s.searching = false ∧ s.eval = false ∧ s.dynPortNum ≠ 0)
    (hports : s.demand ≤ 0x8000) :
    (pFreePortTable true s false = (s, {}) ∧ s.siIrrGetPortStateCmd = [] ∨
        (pFreePortTable true s false).1.work + 1 ≤ s.work) ∧
      (pFreePortTable true s false).1.demand ≤ s.demand := by
  have hcall := pFreePortTable_cases true s false
  have hfree (h : s.searching = true ∨ s.eval = true) : ∃ d, s.table d = actFreePort := by
    refine exists_free ?_
    rw [FptState.demand, if_pos h] at hports
    omega
  generalize hr : pFreePortTable true s false = r at *
  cases hcall with
  | init hi =>
      obtain ⟨hs, he, hd⟩ := hreg hi
      refine ⟨.inr ?_, ?_⟩
      · have hsub : (s.dynPortNum - 1).toNat + 1 = s.dynPortNum.toNat := by
          generalize s.dynPortNum = d at *
          bv_omega
        simp only [FptState.work, FptState.searchWork, fptInit, hs, he, hi, Bool.false_eq_true,
          if_false]
        split <;> omega
      · have hgive := usedPorts_give s.table s.dynPortNum
        simp only [FptState.demand, fptInit, hs, he, Bool.false_eq_true, or_self, if_false]
        omega
  | search hi hs =>
      have hd := hfree (.inl hs)
      refine ⟨.inr ?_, ?_⟩
      · have hstep : (if s.table s.dynPortNum = actFreePort then 1
            else 2 * freeDist s.table (s.dynPortNum + 1) + 3) + 1 ≤
              2 * freeDist s.table s.dynPortNum + 2 := by
          split
          · omega
          · next hused =>
              have hsucc := freeDist_succ hd (d := s.dynPortNum)
                (by simpa [actFreePort, actUsedPort] using hused)
              omega
        simp only [FptState.work, FptState.searchWork, hs, hi, Bool.false_eq_true, if_false,
          if_true]
        omega
      · simp [FptState.demand, hs]
  | found hi hs he hp =>
      refine ⟨.inr ?_, ?_⟩
      · simp only [FptState.work, FptState.searchWork, hs, he, hp, hi, Bool.false_eq_true,
          if_false, if_true]
        omega
      · have htake := usedPorts_take s.table s.dynPortNum
        simp only [FptState.demand, hs, he, Bool.false_eq_true, or_self, if_false, or_true,
          if_true]
        omega
  | skip hi hs he hp =>
      refine ⟨.inr ?_, ?_⟩
      · simp only [FptState.work, FptState.searchWork, hs, he, hp, hi, Bool.false_eq_true,
          if_false, if_true, actUsedPort, actFreePort, Bool.true_eq_false]
        omega
      · simp [FptState.demand, he]
  | @query _ d ds hi hs he hq =>
      refine ⟨.inr ?_, le_refl _⟩
      simp only [FptState.work, FptState.searchWork, hs, he, hq, Bool.false_eq_true, if_false,
        List.length_cons]
      omega
  | @request _ q rs hi hs he hq =>
      refine ⟨.inr ?_, ?_⟩
      · have hdist : freeDist s.table s.dynPortNum < 0x8000 := by
          refine freeDist_lt (exists_free ?_) _
          rw [FptState.demand, hq, List.length_cons] at hports
          omega
        simp only [FptState.work, FptState.searchWork, hs, he, hq, hi, Bool.false_eq_true,
          if_false, if_true, List.length_cons]
        omega
      · simp only [FptState.demand, hs, he, hq, Bool.false_eq_true, or_self, or_false, if_false,
          if_true, List.length_cons]
        omega
  | @close _ p ps hi hs he hq hreq hc =>
      rw [fptClose]
      split
      · refine ⟨.inr ?_, ?_⟩
        · simp only [FptState.work, FptState.searchWork, hs, he, hc, hi, Bool.false_eq_true,
            if_false, if_true, List.length_cons]
          omega
        · have hgive := usedPorts_give s.table (CloudFpga.Toe.dynPortNum p)
          simp only [FptState.demand, hs, he, Bool.false_eq_true, or_self, if_false]
          omega
      · refine ⟨.inr ?_, le_refl _⟩
        simp only [FptState.work, FptState.searchWork, hs, he, hc, hi, Bool.false_eq_true,
          if_false, if_true, List.length_cons]
        omega
  | idle hi => exact ⟨.inl ⟨rfl, pFreePortTable_idle hi hr⟩, le_refl _⟩

/-- A call of the listening port table has nothing to do, or does some of its work. -/
lemma LptState.work_call {s : LptState}
    (hreg : s.isLPtInit = false → s.lsnPortNum.toNat < 0x8000) :
    pListeningPortTable s false = (s, {}) ∧ s.siIrrGetPortStateCmd = [] ∨
      (pListeningPortTable s false).1.work + 1 ≤ s.work := by
  have hcall := pListeningPortTable_cases s false
  generalize pListeningPortTable s false = r at *
  cases hcall with
  | init hi =>
      right
      have hlt := hreg hi
      have hsucc : (s.lsnPortNum + 1).toNat = s.lsnPortNum.toNat + 1 := by
        generalize s.lsnPortNum = n at *
        bv_omega
      by_cases hend : s.lsnPortNum + 1 = 0x8000
      · have hi' : (lptInit s).isLPtInit = true := decide_eq_true hend
        rw [LptState.work, LptState.work, hi', hi]
        simp only [lptInit, Bool.false_eq_true, if_false, if_true]
        omega
      · have hi' : (lptInit s).isLPtInit = false := decide_eq_false hend
        rw [LptState.work, LptState.work, hi', hi]
        simp only [lptInit, Bool.false_eq_true, if_false]
        omega
  | @opened p ps hi hq =>
      right
      rw [lptOpen]
      split <;> simp only [LptState.work, hi, hq, if_true, List.length_cons] <;> omega
  | @query _ d ds hi hq =>
      right
      simp only [LptState.work, hi, hq, if_true, List.length_cons]
      omega
  | idle hi hq hr => exact .inl ⟨rfl, hq⟩

/-- The registers after every run. -/
lemma prtRegs (ls : List PrtLabel) : PrtRegs (prtRun ls) := by
  induction ls using List.reverseRecOn with
  | nil => exact ⟨fun _ => by decide, fun _ => ⟨rfl, rfl, by decide⟩⟩
  | append_singleton ls l ih =>
      rw [prtRun_snoc]
      have hno {i : Bool} (hi : i = true) {P : Prop} (hi' : i = false) : P :=
        absurd (hi.symm.trans hi') Bool.true_eq_false.mp
      cases l with
      | getPortStateCmd p => exact ⟨ih.lpt, ih.fpt⟩
      | openLsnPortReq p => exact ⟨ih.lpt, ih.fpt⟩
      | getFreePortReq => exact ⟨ih.lpt, ih.fpt⟩
      | closeActPortCmd p => exact ⟨ih.lpt, ih.fpt⟩
      | irr =>
          have hcall := pInputRequestRouter_cases (prtRun ls)
          rw [prtNext]
          generalize pInputRequestRouter (prtRun ls) = s' at *
          cases hcall <;> exact ⟨ih.lpt, ih.fpt⟩
      | orm rspFull =>
          have hcall := pOutputReplyMultiplexer_cases (prtRun ls) rspFull
          rw [prtNext]
          generalize pOutputReplyMultiplexer (prtRun ls) rspFull = r at *
          cases hcall <;> exact ⟨ih.lpt, ih.fpt⟩
      | lpt repFull =>
          rcases prtLpt_cases (prtRun ls) repFull with ⟨hs, -⟩ | hs
          · rw [prtNext, hs]
            exact ih
          · rw [prtNext, hs]
            have hcall := pListeningPortTable_cases (prtRun ls).lpt repFull
            generalize pListeningPortTable (prtRun ls).lpt repFull = r at *
            refine ⟨?_, ih.fpt⟩
            cases hcall with
            | init hi =>
                intro hend
                have hlt := ih.lpt hi
                have hne := of_decide_eq_false hend
                simp only [lptInit]
                generalize (prtRun ls).lpt.lsnPortNum = n at *
                bv_omega
            | opened hi hq =>
                rw [lptOpen]
                split <;> exact hno hi
            | query hi hq => exact hno hi
            | idle hi hq hr => exact hno hi
      | fpt repFull =>
          rcases prtFpt_cases (prtRun ls) repFull with ⟨hs, -⟩ | hs
          · rw [prtNext, hs]
            exact ih
          · rw [prtNext, hs]
            have hcall := pFreePortTable_cases true (prtRun ls).fpt repFull
            generalize pFreePortTable true (prtRun ls).fpt repFull = r at *
            refine ⟨ih.lpt, ?_⟩
            cases hcall with
            | init hi =>
                intro hend
                obtain ⟨hs, he, -⟩ := ih.fpt hi
                exact ⟨hs, he, of_decide_eq_false hend⟩
            | close hi hs he hq hr hc =>
                rw [fptClose]
                split <;> exact hno hi
            | search hi | found hi | blocked hi | skip hi | query hi | request hi =>
                exact hno hi
            | idle hi => exact ih.fpt

/-- A process cannot do anything about the queries. -/
def PrtIdle (s : PortTables) : PrtLabel → Prop
  | .irr =>
      s.siRXeGetPortStateCmd = [] ∨ 4 ≤ s.ssIrrToOrmQueryRange.length ∨
        2 ≤ s.lpt.siIrrGetPortStateCmd.length ∨ 2 ≤ s.fpt.siIrrGetPortStateCmd.length
  | .lpt _ => s.lpt.siIrrGetPortStateCmd = [] ∨ 2 ≤ s.ssLptToOrmGetLsnPortStateRsp.length
  | .fpt _ => s.fpt.siIrrGetPortStateCmd = [] ∨ 2 ≤ s.ssFptToOrmGetActPortStateRsp.length
  | .orm _ =>
      (s.orm = .waitForQueryFromIrr → s.ssIrrToOrmQueryRange = []) ∧
        (s.orm = .forwardLsnPortStateRsp → s.ssLptToOrmGetLsnPortStateRsp = []) ∧
        (s.orm = .forwardActPortStateRsp → s.ssFptToOrmGetActPortStateRsp = [])
  | _ => True

/-- **A call** of a process changes nothing because there is nothing to do about the queries, or it
does some of the work; and the ports still suffice. -/
lemma prt_moves {s : PortTables} (hreg : PrtRegs s) (hports : PortsSuffice s) {l : PrtLabel}
    (hl : l ∈ prtCalls) :
    (prtNext s l = s ∧ PrtIdle s l ∨ (prtNext s l).work + 1 ≤ s.work) ∧
      PortsSuffice (prtNext s l) := by
  simp only [prtCalls, List.mem_cons, List.not_mem_nil, or_false] at hl
  rcases hl with rfl | rfl | rfl | rfl
  · have hcall := pInputRequestRouter_cases s
    rw [prtNext]
    generalize pInputRequestRouter s = s' at *
    cases hcall with
    | idle hq => exact ⟨.inl ⟨rfl, .inl hq⟩, hports⟩
    | full hq hfull =>
        refine ⟨.inl ⟨rfl, .inr ?_⟩, hports⟩
        rcases hfull with h | ⟨-, h⟩ | ⟨-, h⟩
        · exact .inl h
        · exact .inr (.inl h)
        · exact .inr (.inr h)
    | lsn hq hp =>
        refine ⟨.inr ?_, hports⟩
        simp only [PortTables.work, LptState.work, hq, List.length_append, List.length_cons,
          List.length_nil]
        omega
    | act hq hp =>
        refine ⟨.inr ?_, hports⟩
        simp only [PortTables.work, FptState.work, FptState.searchWork, hq, List.length_append,
          List.length_cons, List.length_nil]
        omega
  · have hwork := LptState.work_call hreg.lpt
    rw [prtNext, prtLpt]
    split
    · next hblocked => exact ⟨.inl ⟨rfl, .inr hblocked.2⟩, hports⟩
    · refine ⟨?_, hports⟩
      rcases hwork with ⟨hs, hq⟩ | hwork
      · rw [hs]
        refine .inl ⟨?_, .inl hq⟩
        rw [List.append_nil]
      · right
        simp only [PortTables.work]
        omega
  · obtain ⟨hwork, hdemand⟩ := FptState.work_call hreg.fpt hports
    rw [prtNext, prtFpt]
    split
    · next hblocked => exact ⟨.inl ⟨rfl, .inr hblocked.2⟩, hports⟩
    · refine ⟨?_, hdemand.trans hports⟩
      rcases hwork with ⟨hs, hq⟩ | hwork
      · rw [hs]
        refine .inl ⟨?_, .inl hq⟩
        rw [List.append_nil]
      · right
        simp only [PortTables.work]
        omega
  · have hcall := pOutputReplyMultiplexer_cases s false
    rw [prtNext]
    generalize pOutputReplyMultiplexer s false = r at *
    cases hcall with
    | idle hq hl ha =>
        exact ⟨.inl ⟨rfl, hq, fun h => hl h rfl, fun h => ha h rfl⟩, hports⟩
    | @query _ q qs ho hq =>
        refine ⟨.inr ?_, hports⟩
        have hone : (if q = listenPort then OrmState.forwardLsnPortStateRsp
            else .forwardActPortStateRsp).range.length = 1 := by
          split <;> rfl
        simp only [PortTables.work, ho, hq, hone, List.length_cons]
        simp only [OrmState.range, List.length_nil]
        omega
    | lsn ho hq =>
        refine ⟨.inr ?_, hports⟩
        simp only [PortTables.work, ho, OrmState.range, List.length_nil, List.length_singleton]
        omega
    | act ho hq =>
        refine ⟨.inr ?_, hports⟩
        simp only [PortTables.work, ho, OrmState.range, List.length_nil, List.length_singleton]
        omega

/-- If no process can do anything about the queries, all have their replies. -/
lemma PrtFlow.all_done {ls : List PrtLabel} {s : PortTables}
    {done out waiting : List (TcpPort × ℕ)} (h : PrtFlow ls s done out waiting)
    (hidle : ∀ l ∈ prtCalls, PrtIdle s l) :
    (prtReplies ls).length = (prtQueries ls).length := by
  have hirr := hidle .irr (by simp [prtCalls])
  have hlpt := hidle (.lpt false) (by simp [prtCalls])
  have hfpt := hidle (.fpt false) (by simp [prtCalls])
  obtain ⟨hq, hl, ha⟩ := hidle (.orm false) (by simp [prtCalls])
  have hlsnLen := h.lsn.length
  have hactLen := h.act.length
  have hranges := h.ranges
  -- the first query under way has its response, or a table can answer one
  have hout : out = [] := by
    cases out with
    | nil => rfl
    | cons q out =>
        exfalso
        cases ho : s.orm with
        | waitForQueryFromIrr =>
            rw [ho, hq ho] at hranges
            cases hranges
        | forwardLsnPortStateRsp =>
            rw [ho] at hranges
            have hlsn : isLsn q = true := (List.cons.inj hranges).1.symm
            rw [hl ho, List.filter_cons, hlsn, if_pos rfl] at hlsnLen
            rw [PrtIdle, hl ho] at hlpt
            rcases hlpt with hlpt | hlpt
            · rw [hlpt] at hlsnLen
              cases hlsnLen
            · cases hlpt
        | forwardActPortStateRsp =>
            rw [ho] at hranges
            have hact : isLsn q = false := (List.cons.inj hranges).1.symm
            rw [ha ho, List.filter_cons, hact, Bool.not_false, if_pos rfl] at hactLen
            rw [PrtIdle, ha ho] at hfpt
            rcases hfpt with hfpt | hfpt
            · rw [hfpt] at hactLen
              cases hactLen
            · cases hfpt
  subst hout
  have hrange : s.ssIrrToOrmQueryRange = [] := (List.append_eq_nil_iff.mp hranges).2
  simp only [List.filter_nil, List.length_nil] at hlsnLen hactLen
  have hwaiting : waiting = [] := by
    rw [PrtIdle, hrange, ← h.waiting] at hirr
    rcases hirr with hirr | hirr | hirr | hirr
    · exact List.map_eq_nil_iff.mp hirr
    · cases hirr
    · omega
    · omega
  subst hwaiting
  have hlen := congrArg List.length h.queries
  rw [List.length_zipIdx, List.append_nil, List.append_nil, h.replies.length_eq] at hlen
  exact hlen.symm

/-- A round changes nothing because there is nothing to do about the queries, or it does some of the
work. -/
lemma prt_round {ls round : List PrtLabel} (hports : PortsSuffice (prtRun ls))
    (hround : ∀ l ∈ round, l ∈ prtCalls) :
    (prtRun (ls ++ round) = prtRun ls ∧ (∀ l ∈ round, PrtIdle (prtRun ls) l) ∨
        (prtRun (ls ++ round)).work + 1 ≤ (prtRun ls).work) ∧
      PortsSuffice (prtRun (ls ++ round)) := by
  induction round generalizing ls with
  | nil => simpa using hports
  | cons l round ih =>
      obtain ⟨hmove, hports'⟩ := prt_moves (prtRegs ls) hports (hround l List.mem_cons_self)
      rw [← prtRun_snoc] at hmove hports'
      obtain ⟨hrest, hports''⟩ := ih hports' fun m hm => hround m (List.mem_cons_of_mem l hm)
      rw [List.append_assoc, List.singleton_append] at hrest hports''
      refine ⟨?_, hports''⟩
      rcases hmove with ⟨hs, hidle⟩ | hwork
      · rw [hs] at hrest
        rcases hrest with ⟨hs', hidles⟩ | hwork'
        · refine .inl ⟨hs', fun m hm => ?_⟩
          rcases List.mem_cons.mp hm with rfl | hm
          · exact hidle
          · exact hidles m hm
        · exact .inr hwork'
      · rcases hrest with ⟨hs', -⟩ | hwork'
        · rw [hs']
          exact .inr hwork
        · exact .inr (by omega)

/-- The calls of the processes make no queries. -/
lemma prtQueries_calls (ls : List PrtLabel) {calls : List PrtLabel}
    (h : ∀ l ∈ calls, l ∈ prtCalls) : prtQueries (ls ++ calls) = prtQueries ls := by
  have hnone : prtQueries calls = [] := by
    refine List.flatMap_eq_nil_iff.mpr fun l hl => ?_
    have hmem := h l hl
    simp only [prtCalls, List.mem_cons, List.not_mem_nil, or_false] at hmem
    rcases hmem with rfl | rfl | rfl | rfl <;> rfl
  rw [prtQueries, List.flatMap_append, ← prtQueries, ← prtQueries, hnone, List.append_nil]

/-- As long as the ports suffice, every query has its reply after enough rounds. -/
lemma prt_rounds {ls : List PrtLabel} {rounds : List (List PrtLabel)}
    (hports : PortsSuffice (prtRun ls)) (hrounds : ∀ round ∈ rounds, Round round)
    (hwork : (prtRun ls).work < rounds.length) :
    (prtReplies (ls ++ rounds.flatten)).length = (prtQueries ls).length := by
  induction rounds generalizing ls with
  | nil => cases hwork
  | cons round rounds ih =>
      have hround := hrounds round List.mem_cons_self
      have hcalls : ∀ l ∈ (round :: rounds).flatten, l ∈ prtCalls := by
        intro l hl
        obtain ⟨r, hr, hl⟩ := List.mem_flatten.mp hl
        exact (hrounds r hr).1 l hl
      obtain ⟨hmove, hports'⟩ := prt_round hports hround.1
      rcases hmove with ⟨-, hidle⟩ | hless
      · obtain ⟨done, out, waiting, h⟩ := prtFlow ls
        have hdone := h.all_done fun l hl => hidle l (hround.2 l hl)
        have hle := (repliesInOrder (ls ++ (round :: rounds).flatten)).1
        rw [prtQueries_calls ls hcalls] at hle
        refine le_antisymm hle ?_
        rw [← hdone, prtReplies, prtReplies, emits_append, List.length_append]
        exact Nat.le_add_right _ _
      · rw [List.length_cons] at hwork
        have hrest := ih hports' (fun r hr => hrounds r (List.mem_cons_of_mem round hr)) (by omega)
        rwa [prtQueries_calls ls hround.1, List.append_assoc, ← List.flatten_cons] at hrest

/-- **Port-state queries**: the replies of every run are in the order of the queries, and each is
the state of its port at a moment between the query and the reply; and as long as there are no more
active ports and requests for one than there are ephemeral ports, every query gets its reply. -/
theorem portStates_answered (ls : List PrtLabel) :
    RepliesInOrder ls ∧ (PortsSuffice (prtRun ls) → Replies ls) := by
  refine ⟨repliesInOrder ls, fun hports => ⟨(prtRun ls).work + 1, fun rounds hrounds hlen => ?_⟩⟩
  exact prt_rounds hports hrounds hlen

/-! ### The ports run out -/

/-- The process with the first ports handed out. -/
def fptTaken (n : ℕ) (portState : Bool) : FptState where
  table d := d.toNat < n
  isFPtInit := true
  dynPortNum := BitVec.ofNat 15 n
  portState := portState

/-- A request for a port, and the calls that answer it. -/
def fptAllocate : List FptLabel := [.getFreePortReq, .call false, .call false, .call false]

lemma run_allocate (n : ℕ) (hn : n < 0x8000) (portState : Bool) :
    Clocked.run (fptNext true) (fptTaken n portState) fptAllocate =
      fptTaken (n + 1) actFreePort := by
  have hfree : (fptTaken n portState).table (BitVec.ofNat 15 n) = false := by
    have hlt : ¬(BitVec.ofNat 15 n).toNat < n := by
      rw [BitVec.toNat_ofNat]
      omega
    exact decide_eq_false hlt
  have htable : Function.update (fptTaken n portState).table (BitVec.ofNat 15 n) actUsedPort =
      (fptTaken (n + 1) actFreePort).table := by
    funext d
    have hd := d.isLt
    by_cases heq : d = BitVec.ofNat 15 n
    · subst heq
      rw [Function.update_self]
      refine (decide_eq_true ?_).symm
      rw [BitVec.toNat_ofNat]
      omega
    · rw [Function.update_of_ne heq]
      have hne : d.toNat ≠ n := fun h => heq (by rw [← h, BitVec.ofNat_toNat, BitVec.setWidth_eq])
      exact decide_eq_decide.mpr (by omega)
  have hnum : BitVec.ofNat 15 n + 1 = BitVec.ofNat 15 (n + 1) := (BitVec.ofNat_add ..).symm
  have hsearch : Clocked.run (fptNext true) (fptTaken n portState)
      [.getFreePortReq, .call false, .call false] =
        { fptTaken n portState with
          eval := true
          portState := (fptTaken n portState).table (BitVec.ofNat 15 n) } := rfl
  have hfound : fptNext true { fptTaken n portState with eval := true, portState := actFreePort }
      (.call false) =
        { fptTaken n portState with
          table := Function.update (fptTaken n portState).table (BitVec.ofNat 15 n) actUsedPort
          dynPortNum := BitVec.ofNat 15 n + 1
          portState := actFreePort } := rfl
  have hlast : Clocked.run (fptNext true) (fptTaken n portState) fptAllocate =
      fptNext true (Clocked.run (fptNext true) (fptTaken n portState)
        [.getFreePortReq, .call false, .call false]) (.call false) := rfl
  rw [hlast, hsearch, hfree]
  refine hfound.trans ?_
  rw [htable, hnum]
  rfl

/-- Every port is handed out. -/
lemma run_exhaust (n : ℕ) (hn : n ≤ 0x8000) :
    ∃ portState, Clocked.run (fptNext true) (fptTaken 0 actUsedPort)
      (List.replicate n fptAllocate).flatten = fptTaken n portState := by
  induction n with
  | zero => exact ⟨actUsedPort, rfl⟩
  | succ n ih =>
      obtain ⟨portState, h⟩ := ih (by omega)
      refine ⟨actFreePort, ?_⟩
      rw [List.replicate_succ', List.flatten_append, Clocked.run_append, h]
      simpa using run_allocate n (by omega) portState

/-- The steps of the free port table without the queries. -/
def fptLift : FptLabel → PrtLabel
  | .call repFull => .fpt repFull
  | .closeActPortCmd p => .closeActPortCmd p
  | .getFreePortReq => .getFreePortReq
  | .getPortStateCmd d => .getPortStateCmd (dynPort d)

/-- The other processes are not concerned by them. -/
lemma run_fptLift {s : PortTables} {ks : List FptLabel}
    (hks : ∀ k ∈ ks, k = .getFreePortReq ∨ k = .call false)
    (hq : s.fpt.siIrrGetPortStateCmd = []) :
    Clocked.run prtNext s (ks.map fptLift) =
      { s with fpt := Clocked.run (fptNext true) s.fpt ks } := by
  induction ks generalizing s with
  | nil => rfl
  | cons k ks ih =>
      have hstep : prtNext s (fptLift k) = { s with fpt := fptNext true s.fpt k } ∧
          (fptNext true s.fpt k).siIrrGetPortStateCmd = [] := by
        rcases hks k List.mem_cons_self with rfl | rfl
        · exact ⟨rfl, hq⟩
        · have hcall := pFreePortTable_cases true s.fpt false
          rw [fptLift, prtNext, prtFpt, fptNext]
          generalize pFreePortTable true s.fpt false = r at *
          have hnone : r.2.soOrmGetPortStateRsp = [] ∧ r.1.siIrrGetPortStateCmd = [] := by
            cases hcall with
            | query hi hs he hq' =>
                rw [hq] at hq'
                cases hq'
            | close hi hs he hq' hr hc =>
                rw [fptClose]
                split <;> exact ⟨rfl, hq⟩
            | init | search | found | skip | request | idle => exact ⟨rfl, hq⟩
          rw [hnone.1, if_neg (by simp), List.append_nil]
          exact ⟨rfl, hnone.2⟩
      rw [List.map_cons, Clocked.run_cons, hstep.1,
        ih (fun m hm => hks m (List.mem_cons_of_mem k hm)) hstep.2]
      rfl

/-- All ephemeral ports are handed out, and one more is asked for. -/
def exhaust : List FptLabel :=
  List.replicate 0x7FFF (.call false) ++ (List.replicate 0x8000 fptAllocate).flatten ++
    [.getFreePortReq, .call false]

/-- Then comes a query. -/
def exhausted : List PrtLabel := exhaust.map fptLift ++ [.getPortStateCmd 0xFFFF]

/-- The search for a free port never ends, and no query for an ephemeral port is answered. -/
structure Searching (s : PortTables) : Prop where
  init : s.fpt.isFPtInit = true
  used : ∀ d, s.fpt.table d = actUsedPort
  search : s.fpt.searching = true ∨ s.fpt.eval = true ∧ s.fpt.portState = actUsedPort
  lsn : s.lpt.siIrrGetPortStateCmd = []
  lsnRsp : s.ssLptToOrmGetLsnPortStateRsp = []
  actRsp : s.ssFptToOrmGetActPortStateRsp = []
  queries : ∀ p ∈ s.siRXeGetPortStateCmd, ¬p < 0x8000

/-- It goes on whoever is called, and there is no reply. -/
lemma Searching.next {s : PortTables} (h : Searching s) {l : PrtLabel} (hl : l ∈ prtCalls) :
    Searching (prtNext s l) ∧ prtReply s l = [] := by
  simp only [prtCalls, List.mem_cons, List.not_mem_nil, or_false] at hl
  rcases hl with rfl | rfl | rfl | rfl
  · refine ⟨?_, rfl⟩
    have hcall := pInputRequestRouter_cases s
    rw [prtNext]
    generalize pInputRequestRouter s = s' at *
    cases hcall with
    | idle hq => exact h
    | full hq hfull => exact h
    | @lsn p ps hq hp => exact absurd hp (h.queries p (by simp [hq]))
    | @act p ps hq hp =>
        exact ⟨h.init, h.used, h.search, h.lsn, h.lsnRsp, h.actRsp,
          fun p' hp' => h.queries p' (by simp [hq, hp'])⟩
  · refine ⟨?_, rfl⟩
    rcases prtLpt_cases s false with ⟨hs, -⟩ | hs
    · rw [prtNext, hs]
      exact h
    · rw [prtNext, hs]
      have hcall := pListeningPortTable_cases s.lpt false
      generalize pListeningPortTable s.lpt false = r at *
      cases hcall with
      | query hi hq =>
          rw [h.lsn] at hq
          cases hq
      | opened hi hq =>
          rw [lptOpen]
          split <;> exact ⟨h.init, h.used, h.search, h.lsn, by simp [h.lsnRsp], h.actRsp,
            h.queries⟩
      | init hi =>
          exact ⟨h.init, h.used, h.search, h.lsn, by simp [h.lsnRsp], h.actRsp, h.queries⟩
      | idle hi hq hr =>
          exact ⟨h.init, h.used, h.search, h.lsn, by simp [h.lsnRsp], h.actRsp, h.queries⟩
  · refine ⟨?_, rfl⟩
    have hcall : pFreePortTable true s.fpt false =
        ({ s.fpt with portState := s.fpt.table s.fpt.dynPortNum, searching := false,
                      eval := true }, {}) ∨
        pFreePortTable true s.fpt false =
          ({ s.fpt with searching := true, dynPortNum := s.fpt.dynPortNum + 1 }, {}) := by
      cases hs : s.fpt.searching with
      | true =>
          left
          simp [pFreePortTable, h.init, hs]
      | false =>
          right
          obtain ⟨he, hp⟩ := h.search.resolve_left (by simp [hs])
          simp [pFreePortTable, fptEval, h.init, hs, he, hp, actUsedPort, actFreePort]
    rw [prtNext, prtFpt]
    rcases hcall with hcall | hcall
    · rw [hcall, if_neg (by simp)]
      exact ⟨h.init, h.used, .inr ⟨rfl, h.used _⟩, h.lsn, h.lsnRsp, by simp [h.actRsp], h.queries⟩
    · rw [hcall, if_neg (by simp)]
      exact ⟨h.init, h.used, .inl rfl, h.lsn, h.lsnRsp, by simp [h.actRsp], h.queries⟩
  · have hcall := pOutputReplyMultiplexer_cases s false
    rw [prtNext, prtReply]
    generalize pOutputReplyMultiplexer s false = r at *
    cases hcall with
    | idle hq hl ha => exact ⟨h, rfl⟩
    | query ho hq =>
        exact ⟨⟨h.init, h.used, h.search, h.lsn, h.lsnRsp, h.actRsp, h.queries⟩, rfl⟩
    | lsn ho hq =>
        rw [h.lsnRsp] at hq
        cases hq
    | act ho hq =>
        rw [h.actRsp] at hq
        cases hq

/-- No reply is given while the search goes on. -/
lemma Searching.no_reply {s : PortTables} (h : Searching s) {calls : List PrtLabel}
    (hcalls : ∀ l ∈ calls, l ∈ prtCalls) : emits prtNext prtReply s calls = [] := by
  induction calls generalizing s with
  | nil => rfl
  | cons l calls ih =>
      obtain ⟨hnext, hreply⟩ := h.next (hcalls l List.mem_cons_self)
      rw [emits_cons, hreply, List.nil_append]
      exact ih hnext fun m hm => hcalls m (List.mem_cons_of_mem l hm)

/-- The free port table once all ports are handed out. -/
lemma run_exhausted :
    ∃ portState, Clocked.run (fptNext true) fptStart exhaust =
      { fptTaken 0x8000 portState with searching := true } := by
  obtain ⟨portState, hall⟩ := run_exhaust 0x8000 (le_refl _)
  have hinit : Clocked.run (fptNext true) fptStart (List.replicate 0x7FFF (.call false)) =
      { fptStart with isFPtInit := true, dynPortNum := 0 } :=
    @run_init true _ fptStart.dynPortNum rfl (by decide)
  have hstart : ({ fptStart with isFPtInit := true, dynPortNum := 0 } : FptState) =
      fptTaken 0 actUsedPort := by
    have htable : fptStart.table = (fptTaken 0 actUsedPort).table := by
      funext d
      exact (decide_eq_false (Nat.not_lt_zero d.toNat)).symm
    exact congrArg (fun table => { fptTaken 0 actUsedPort with table := table }) htable
  refine ⟨portState, ?_⟩
  rw [exhaust, Clocked.run_append, Clocked.run_append, hinit, hstart, hall]
  rfl

lemma exhaust_labels : ∀ k ∈ exhaust, k = .getFreePortReq ∨ k = .call false := by
  intro k hk
  simp only [exhaust, List.mem_append, List.mem_cons, List.not_mem_nil, or_false] at hk
  rcases hk with (hk | hk) | rfl | rfl
  · exact .inr (List.eq_of_mem_replicate hk)
  · obtain ⟨ks, hks, hk⟩ := List.mem_flatten.mp hk
    rw [List.eq_of_mem_replicate hks] at hk
    simp only [fptAllocate, List.mem_cons, List.not_mem_nil, or_false] at hk
    rcases hk with rfl | rfl | rfl | rfl <;> simp
  · exact .inl rfl
  · exact .inr rfl

lemma searching_exhausted : Searching (prtRun exhausted) := by
  obtain ⟨portState, hrun⟩ := run_exhausted
  have hstate : prtRun exhausted =
      { fpt := { fptTaken 0x8000 portState with searching := true }
        siRXeGetPortStateCmd := [0xFFFF] } := by
    rw [exhausted, prtRun_snoc, prtRun, run_fptLift exhaust_labels rfl, hrun]
    rfl
  rw [hstate]
  refine ⟨rfl, fun d => decide_eq_true d.isLt, .inl rfl, rfl, rfl, rfl, fun p hp => ?_⟩
  rw [List.mem_singleton.mp hp]
  decide

lemma replies_exhausted : prtReplies exhausted = [] := by
  have hnone (ks : List FptLabel) (s : PortTables) :
      emits prtNext prtReply s (ks.map fptLift) = [] := by
    induction ks generalizing s with
    | nil => rfl
    | cons k ks ih =>
        have hk : prtReply s (fptLift k) = [] := by cases k <;> rfl
        rw [List.map_cons, emits_cons, hk, ih, List.append_nil]
  rw [exhausted, prtReplies_snoc, prtReplies, hnone]
  rfl

/-- When all ephemeral ports are handed out, the search for one more never ends, and a query for the
port 65535 never gets its reply. -/
theorem not_replies_exhausted : ¬(RepliesInOrder exhausted ∧ Replies exhausted) := by
  rintro ⟨-, n, h⟩
  have hquery : (0xFFFF : TcpPort) ∈ prtQueries exhausted := by
    rw [exhausted, prtQueries_snoc]
    exact List.mem_append_right _ (List.mem_singleton.mpr rfl)
  have hround : Round prtCalls := ⟨fun _ hl => hl, fun _ hl => hl⟩
  have hcalls : ∀ l ∈ (List.replicate n prtCalls).flatten, l ∈ prtCalls := by
    intro l hl
    obtain ⟨r, hr, hl⟩ := List.mem_flatten.mp hl
    rwa [List.eq_of_mem_replicate hr] at hl
  have hlen := h (List.replicate n prtCalls)
    (fun r hr => List.eq_of_mem_replicate hr ▸ hround) (by simp)
  have hnone := searching_exhausted.no_reply hcalls
  rw [prtReplies, emits_append, ← prtReplies, replies_exhausted, List.nil_append, ← prtRun,
    hnone] at hlen
  exact absurd hlen.symm (List.length_pos_of_mem hquery).ne'

end CloudFpga.Toe
