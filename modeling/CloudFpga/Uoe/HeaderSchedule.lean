import CloudFpga.Foundation.Stutter
import CloudFpga.Uoe.IpHeaderStripper

/-!
What `pIpHeaderStripper` writes while the chunks arrive in any schedule.

* `schedNext`: one call, in a cycle in which the next chunk has arrived or not.
* `Gapless`: no call is idle where a chunk is joined with the last one.
* `out_eq_iff`: exactly then the process writes what it writes without any idle call, whatever the
  local variable holds that is not set.
-/

namespace CloudFpga.Uoe

open Foundation Toe AxisRaw

/-- The process, and what it has written. -/
structure IhsRun where
  ihs : Ihs
  out : IhsOut := {}
  deriving DecidableEq

/-- One call: the process is enabled, and there is room in all streams. -/
def schedNext (u : IhsUnset) (s : IhsRun) (data : Bool) : IhsRun :=
  let r := pIpHeaderStripper u s.ihs { data := data }
  { ihs := r.1, out := s.out.add r.2 }

/-- All chunks are read, and the last packet is done. -/
structure Finished (s : IhsRun) : Prop where
  data : s.ihs.siIPRXData = []
  state : s.ihs.ihsFsmState = .idle ∨ s.ihs.ihsFsmState = .ipw0

/-- A chunk that is read here is joined with the last one. -/
def IhsFsmStates.joins : IhsFsmStates → Bool
  | .udpHeader | .forward => true
  | _ => false

/-- No call is idle where a chunk is joined with the last one. -/
def Gapless (s : IhsRun) (data : Bool) : Prop := s.ihs.ihsFsmState.joins = true → data = true

instance (s : IhsRun) (data : Bool) : Decidable (Gapless s data) :=
  inferInstanceAs (Decidable (_ → _))

/-- The last chunk still matters. -/
def Ihs.keeps (s : Ihs) : Prop :=
  s.ihsFsmState = .residue ∨ s.ihsFsmState.joins = true ∧ s.siIPRXData ≠ []

section Run

variable {u u' : IhsUnset} {s t : IhsRun} {c : AxisIp4}

lemma schedNext_eq (data : Bool) : schedNext u s data =
    { ihs := (ihsCase u s.ihs { data := data }).1
      out := s.out.add (ihsCase u s.ihs { data := data }).2 } := rfl

lemma add_empty (out : IhsOut) : out.add {} = out := by
  rw [IhsOut.add, List.append_nil, List.append_nil, List.append_nil]

/-! ### The path of the process -/

/-- The registers but for the last chunk. -/
def Ihs.path (s : Ihs) : Ihs := { s with ihsPrevChunk := zero }

/-- Where a chunk leads depends neither on the last chunk nor on what is not set. -/
lemma ihsChunk_prev (s : Ihs) (p c : AxisIp4) :
    (ihsChunk u' { s with ihsPrevChunk := p } c).1 =
        { (ihsChunk u s c).1 with ihsPrevChunk := p } ∧
      (s.ihsFsmState.joins = false →
        (ihsChunk u' { s with ihsPrevChunk := p } c).2 = (ihsChunk u s c).2) := by
  have hheader (s : Ihs) :
      (ihsHeader { s with ihsPrevChunk := p } c).1 =
          { (ihsHeader s c).1 with ihsPrevChunk := p } ∧
        (ihsHeader { s with ihsPrevChunk := p } c).2 = (ihsHeader s c).2 := by
    rw [ihsHeader, ihsHeader]
    dsimp only
    split
    · exact ⟨rfl, rfl⟩
    · split
      · exact ⟨rfl, rfl⟩
      · exact ⟨rfl, rfl⟩
  obtain ⟨state, count, prev, len, sum, data, tokens⟩ := s
  rw [ihsChunk, ihsChunk]
  cases state with
  | ipw0 =>
      dsimp only
      rw [ihsIpw0, ihsIpw0]
      split
      · exact ⟨rfl, fun _ => rfl⟩
      · exact ⟨rfl, fun _ => rfl⟩
  | ipw1 => exact ⟨rfl, fun _ => rfl⟩
  | ipw2 =>
      have hipw2 := hheader { (⟨.ipw2, count, prev, len, sum, data, tokens⟩ : Ihs) with
        ihsPsdHdrSum := psdAdd (psdAdd sum ((getIp4DstAddr c).extractLsb' 16 16))
          ((getIp4DstAddr c).setWidth 16) }
      exact ⟨hipw2.1, fun _ => hipw2.2⟩
  | opt =>
      have hopt := hheader ⟨.opt, count, prev, len, sum, data, tokens⟩
      exact ⟨hopt.1, fun _ => hopt.2⟩
  | udpHeader => exact ⟨rfl, by rintro ⟨⟩⟩
  | udpHeaderAligned => exact ⟨rfl, fun _ => rfl⟩
  | forward =>
      refine ⟨?_, by rintro ⟨⟩⟩
      dsimp only
      rw [ihsForward, ihsForward]
      split
      · split
        · rfl
        · rfl
      · rfl
  | forwardAligned => exact ⟨rfl, fun _ => rfl⟩
  | drop =>
      dsimp only
      rw [ihsDrop, ihsDrop]
      split
      · exact ⟨rfl, fun _ => rfl⟩
      · exact ⟨rfl, fun _ => rfl⟩
  | idle => exact ⟨rfl, fun _ => rfl⟩
  | residue => exact ⟨rfl, fun _ => rfl⟩
  | done => exact ⟨rfl, fun _ => rfl⟩

/-- So does a call. -/
lemma ihsCase_path (s : Ihs) (p : AxisIp4) (k : IhsCall) :
    (ihsCase u' { s with ihsPrevChunk := p } k).1.path = (ihsCase u s k).1.path := by
  have hread : (ihsRead u' { s with ihsPrevChunk := p } k).1.path = (ihsRead u s k).1.path := by
    rw [ihsRead, ihsRead]
    dsimp only
    split
    · rename_i c cs hdata hk
      have hchunk := (@ihsChunk_prev u u' { s with siIPRXData := cs } p c).1
      dsimp only at hchunk ⊢
      rw [hchunk]
    · rfl
  have harrived : Ihs.arrived { s with ihsPrevChunk := p } k = s.arrived k := rfl
  have hidle : ihsIdle { s with ihsPrevChunk := p } k = ihsIdle s k := rfl
  rw [ihsCase.eq_def, ihsCase.eq_def]
  dsimp only
  rw [harrived, hidle]
  obtain ⟨state, count, prev, len, sum, data, tokens⟩ := s
  cases state with
  | idle => rfl
  | ipw0 =>
      dsimp only
      split
      · rfl
      · exact hread
  | ipw1 =>
      dsimp only
      split
      · rfl
      · exact hread
  | ipw2 =>
      dsimp only
      split
      · rfl
      · exact hread
  | opt =>
      dsimp only
      split
      · rfl
      · exact hread
  | residue => rfl
  | done => rfl
  | _ => exact hread

/-- What a call writes depends on the last chunk only where that matters. -/
lemma ihsCase_out (hu : u'.sendChunk = u.sendChunk) (s : Ihs) {p : AxisIp4}
    (hprev : s.keeps → p = s.ihsPrevChunk) (k : IhsCall) :
    (ihsCase u' { s with ihsPrevChunk := p } k).2 = (ihsCase u s k).2 := by
  have hread : s.ihsFsmState ≠ .residue →
      (ihsRead u' { s with ihsPrevChunk := p } k).2 = (ihsRead u s k).2 := by
    intro hst
    rw [ihsRead, ihsRead]
    dsimp only
    split
    · rename_i c cs hdata hk
      cases hjoins : s.ihsFsmState.joins with
      | false => exact (ihsChunk_prev { s with siIPRXData := cs } p c).2 hjoins
      | true =>
          rw [hprev (.inr ⟨hjoins, by rw [hdata]; exact List.cons_ne_nil _ _⟩)]
          dsimp only
          rw [ihsChunk.eq_def, ihsChunk.eq_def]
          dsimp only
          rw [ihsUdpHeader, ihsUdpHeader, udpHeaderChunk, udpHeaderChunk, hu]
    · rfl
  have harrived : Ihs.arrived { s with ihsPrevChunk := p } k = s.arrived k := rfl
  rw [ihsCase.eq_def, ihsCase.eq_def]
  dsimp only
  rw [harrived]
  obtain ⟨state, count, prev, len, sum, data, tokens⟩ := s
  cases state with
  | idle => rfl
  | ipw0 =>
      dsimp only
      split
      · rfl
      · exact hread (by rintro ⟨⟩)
  | ipw1 =>
      dsimp only
      split
      · rfl
      · exact hread (by rintro ⟨⟩)
  | ipw2 =>
      dsimp only
      split
      · rfl
      · exact hread (by rintro ⟨⟩)
  | opt =>
      dsimp only
      split
      · rfl
      · exact hread (by rintro ⟨⟩)
  | residue =>
      rw [hprev (.inl rfl)]
  | done => rfl
  | _ =>
      exact hread (by rintro ⟨⟩)

/-- Where the last chunk matters, it was read in the last call. -/
lemma ihsCase_keeps {s : Ihs} {k : IhsCall} (hok : s.ihsFsmState.joins = true → k.data = true)
    (hkeeps : (ihsCase u s k).1.keeps) :
    ∃ c cs, s.siIPRXData = c :: cs ∧ (ihsCase u s k).1.ihsPrevChunk = c := by
  have hread (hst : s.ihsFsmState ≠ .residue) (hcase : ihsCase u s k = ihsRead u s k) :
      ∃ c cs, s.siIPRXData = c :: cs ∧ (ihsCase u s k).1.ihsPrevChunk = c := by
    rw [hcase] at hkeeps ⊢
    rcases ihsRead_cases (u := u) (s := s) (k := k) with
      ⟨hread, hnone⟩ | ⟨c, cs, hdata, -, hread⟩
    · rw [hread] at hkeeps
      rcases hkeeps with hresidue | ⟨hjoins, hne⟩
      · exact absurd hresidue hst
      · exact absurd (hnone (hok hjoins)) hne
    · rw [hread]
      exact ⟨c, cs, hdata, rfl⟩
  have hnot {state : IhsFsmStates} {out : IhsOut}
      (hcase : ihsCase u s k = (ihsNoRead u s state, out))
      (hresidue : state ≠ .residue) (hjoins : state.joins = false) : False := by
    rw [hcase] at hkeeps
    rcases hkeeps with hkeeps | ⟨hkeeps, -⟩
    · exact hresidue hkeeps
    · have hkeeps' : state.joins = true := hkeeps
      rw [hjoins] at hkeeps'
      cases hkeeps'
  have hcase := ihsCase.eq_def u s k
  have hheader (hst : s.ihsFsmState ≠ .residue)
      (hcase : ihsCase u s k =
        if k.ip4HdrFull then (ihsNoRead u s .drop, {}) else ihsRead u s k) :
      ∃ c cs, s.siIPRXData = c :: cs ∧ (ihsCase u s k).1.ihsPrevChunk = c := by
    split at hcase
    · exact (hnot hcase nofun rfl).elim
    · exact hread hst hcase
  cases hst : s.ihsFsmState with
  | idle =>
      rw [hst] at hcase
      have hidle : ihsIdle s k ≠ .residue ∧ (ihsIdle s k).joins = false := by
        rw [ihsIdle]
        split
        · exact ⟨nofun, rfl⟩
        · split
          · exact ⟨nofun, rfl⟩
          · split
            · exact ⟨nofun, rfl⟩
            · exact ⟨nofun, rfl⟩
      exact (hnot hcase hidle.1 hidle.2).elim
  | ipw0 =>
      rw [hst] at hcase
      dsimp only at hcase
      split at hcase
      · exact (hnot hcase nofun rfl).elim
      · exact hread (by rw [hst]; nofun) hcase
  | residue =>
      rw [hst] at hcase
      exact (hnot hcase nofun rfl).elim
  | done =>
      rw [hst] at hcase
      rw [hcase] at hkeeps
      rcases hkeeps with hkeeps | ⟨hkeeps, -⟩
      · cases hkeeps
      · cases hkeeps
  | ipw1 =>
      rw [hst] at hcase
      exact hheader (by rw [hst]; nofun) hcase
  | ipw2 =>
      rw [hst] at hcase
      exact hheader (by rw [hst]; nofun) hcase
  | opt =>
      rw [hst] at hcase
      exact hheader (by rw [hst]; nofun) hcase
  | _ =>
      rw [hst] at hcase
      exact hread (by rw [hst]; nofun) hcase

/-! ### Two runs -/

/-- Two runs that have written the same, and go on alike. -/
structure Alike (s t : IhsRun) : Prop where
  out : t.out = s.out
  path : t.ihs.path = s.ihs.path
  prev : s.ihs.keeps → t.ihs.ihsPrevChunk = s.ihs.ihsPrevChunk

lemma eq_of_path {s t : Ihs} (h : t.path = s.path) :
    t = { s with ihsPrevChunk := t.ihsPrevChunk } := by
  obtain ⟨state, count, prev, len, sum, data, tokens⟩ := s
  obtain ⟨state', count', prev', len', sum', data', tokens'⟩ := t
  cases h
  rfl

lemma path_streams {s t : Ihs} (h : t.path = s.path) :
    t.ihsFsmState = s.ihsFsmState ∧ t.siIPRXData = s.siIPRXData := by
  have hstate := congrArg Ihs.ihsFsmState h
  have hdata := congrArg Ihs.siIPRXData h
  exact ⟨hstate, hdata⟩

lemma path_next (h : t.ihs.path = s.ihs.path) (data : Bool) :
    (schedNext u' t data).ihs.path = (schedNext u s data).ihs.path := by
  rw [schedNext_eq, schedNext_eq]
  dsimp only
  rw [eq_of_path h]
  exact ihsCase_path s.ihs _ _

lemma Alike.next (h : Alike s t) (hu : u'.sendChunk = u.sendChunk) {data : Bool}
    (hok : Gapless s data) : Alike (schedNext u s data) (schedNext u' t data) := by
  have ht := eq_of_path h.path
  refine ⟨?_, path_next h.path data, fun hkeeps => ?_⟩
  · rw [schedNext_eq, schedNext_eq]
    dsimp only
    rw [h.out, ht, ihsCase_out hu s.ihs h.prev]
  · obtain ⟨hstate, hdata⟩ := path_streams h.path
    have hkeeps' : (schedNext u' t data).ihs.keeps := by
      obtain ⟨hstate', hdata'⟩ := path_streams (@path_next u u' s t h.path data)
      rw [Ihs.keeps, hstate', hdata']
      exact hkeeps
    have hok' : t.ihs.ihsFsmState.joins = true → data = true := by
      rw [hstate]
      exact hok
    obtain ⟨c, cs, hs, hprev⟩ := ihsCase_keeps (u := u) (k := { data := data }) hok hkeeps
    obtain ⟨c', cs', ht', hprev'⟩ :=
      ihsCase_keeps (u := u') (k := { data := data }) hok' hkeeps'
    rw [hdata, hs, List.cons.injEq] at ht'
    exact hprev'.trans (ht'.1.symm.trans hprev.symm)

/-- The process that keeps the last chunk in an idle call. -/
def keepNext (v : AxisUdp) (s : IhsRun) (data : Bool) : IhsRun :=
  schedNext ⟨s.ihs.ihsPrevChunk, v⟩ s data

lemma Alike.run (h : Alike s t) {ks : List Bool}
    (hok : Clocked.Along (schedNext u) Gapless s ks) :
    Alike (Clocked.run (schedNext u) s ks) (Clocked.run (keepNext u.sendChunk) t ks) := by
  induction ks generalizing s t with
  | nil => exact h
  | cons k ks ih =>
      have hnext : Alike (schedNext u s k) (keepNext u.sendChunk t k) := h.next (by rfl) hok.1
      exact ih hnext hok.2

lemma alike_refl (s : IhsRun) : Alike s s := ⟨rfl, rfl, fun _ => rfl⟩

/-- It waits in an idle call. -/
lemma keepNext_stutters (v : AxisUdp) : Clocked.Stutters (keepNext v) := by
  intro s
  have hstay : ihsCase ⟨s.ihs.ihsPrevChunk, v⟩ s.ihs { data := false } = (s.ihs, {}) →
      keepNext v s false = s := by
    intro hcase
    rw [keepNext, schedNext_eq, hcase]
    dsimp only
    rw [add_empty]
  have hmove : ihsCase ⟨s.ihs.ihsPrevChunk, v⟩ s.ihs { data := false } =
        ihsCase ⟨s.ihs.ihsPrevChunk, v⟩ s.ihs { data := true } →
      keepNext v s false = keepNext v s true := by
    intro hcase
    rw [keepNext, keepNext, schedNext_eq, schedNext_eq, hcase]
  have hread : ihsRead ⟨s.ihs.ihsPrevChunk, v⟩ s.ihs { data := false } = (s.ihs, {}) := by
    rw [ihsRead]
    split
    · rename_i hk
      cases hk
    · rfl
  have hcase := ihsCase.eq_def ⟨s.ihs.ihsPrevChunk, v⟩ s.ihs { data := false }
  have harrived : s.ihs.arrived { data := false } = false := rfl
  cases hst : s.ihs.ihsFsmState with
  | idle =>
      rw [hst] at hcase
      by_cases htokens : s.ihs.siUccClearToSend = []
      · left
        refine hstay (hcase.trans ?_)
        have hidle : ihsIdle s.ihs { data := false } = s.ihs.ihsFsmState := by
          rw [ihsIdle, harrived, if_neg (by simp), if_neg (by simp), if_neg (not_not_intro htokens),
            hst]
        dsimp only
        rw [hidle]
        rfl
      · right
        have hidle (data : Bool) : ihsIdle s.ihs { data := data } = .ipw0 := by
          rw [ihsIdle, if_neg (by simp), if_neg fun hnone => htokens hnone.1, if_pos htokens]
        refine hmove ?_
        rw [ihsCase.eq_def, ihsCase.eq_def, hst]
        dsimp only
        rw [hidle, hidle]
  | residue =>
      right
      refine hmove ?_
      rw [ihsCase.eq_def, ihsCase.eq_def, hst]
  | done =>
      right
      refine hmove ?_
      rw [ihsCase.eq_def, ihsCase.eq_def, hst]
  | ipw0 =>
      left
      rw [hst, harrived] at hcase
      dsimp only at hcase
      rw [if_neg (by simp)] at hcase
      exact hstay (hcase.trans hread)
  | _ =>
      left
      rw [hst] at hcase
      exact hstay (hcase.trans hread)

/-! ### The end of a run -/

/-- A finished run writes no more. -/
lemma Finished.next (h : Finished s) (data : Bool) :
    Finished (schedNext u s data) ∧ (schedNext u s data).out = s.out := by
  have harrived : s.ihs.arrived { data := data } = false := by
    rw [Ihs.arrived, h.data]
    exact Bool.and_false _
  have hread : ihsRead u s.ihs { data := data } = (ihsNoRead u s.ihs s.ihs.ihsFsmState, {}) := by
    rcases ihsRead_cases (u := u) (s := s.ihs) (k := { data := data }) with
      ⟨hread, -⟩ | ⟨c, cs, hdata, -⟩
    · exact hread
    · rw [h.data] at hdata
      cases hdata
  have hcase := ihsCase.eq_def u s.ihs { data := data }
  rw [schedNext_eq]
  rcases h.state with hst | hst
  · rw [hst] at hcase
    rw [hcase]
    refine ⟨⟨h.data, ?_⟩, add_empty _⟩
    show ihsIdle s.ihs { data := data } = .idle ∨ ihsIdle s.ihs { data := data } = .ipw0
    rw [ihsIdle, harrived, if_neg (by simp), if_neg (by simp)]
    split
    · exact .inr rfl
    · exact .inl rfl
  · rw [hst, harrived] at hcase
    dsimp only at hcase
    rw [if_neg (by simp), hread] at hcase
    rw [hcase]
    exact ⟨⟨h.data, .inr hst⟩, add_empty _⟩

lemma Finished.keep_run {v : AxisUdp} (h : Finished s) (m : ℕ) :
    (Clocked.run (keepNext v) s (List.replicate m true)).out = s.out := by
  induction m generalizing s with
  | zero => rfl
  | succ m ih =>
      obtain ⟨hfin, hout⟩ := h.next (u := ⟨s.ihs.ihsPrevChunk, v⟩) true
      rw [List.replicate_succ, Clocked.run_cons]
      exact (ih hfin).trans hout

lemma Finished.of_path (h : Finished s) (hpath : t.ihs.path = s.ihs.path) : Finished t := by
  obtain ⟨hstate, hdata⟩ := path_streams hpath
  refine ⟨hdata.trans h.data, ?_⟩
  rw [hstate]
  exact h.state

/-- Without an idle call a run never misses the last chunk. -/
lemma gapless_ready (u : IhsUnset) (s : IhsRun) (m : ℕ) :
    Clocked.Along (schedNext u) Gapless s (List.replicate m true) :=
  Clocked.along_of_forall _ fun _ hk _ _ => List.eq_of_mem_replicate hk

/-- A run that misses nothing writes what the process writes that keeps the last chunk. -/
lemma out_of_gapless {bs : List Bool} (hfin : Finished (Clocked.run (schedNext u) s bs))
    (hok : Clocked.Along (schedNext u) Gapless s bs) :
    (Clocked.run (schedNext u) s bs).out =
      (Clocked.run (schedNext u) s (List.replicate bs.length true)).out := by
  have hgaps := (alike_refl s).run hok
  have hready := (alike_refl s).run (gapless_ready u s bs.length)
  obtain ⟨m, hm, hrun⟩ := (keepNext_stutters u.sendChunk).run_eq s bs
  have hfin' : Finished (Clocked.run (keepNext u.sendChunk) s (List.replicate m true)) := by
    rw [← hrun]
    exact hfin.of_path hgaps.path
  have hsplit : List.replicate bs.length true =
      List.replicate m true ++ List.replicate (bs.length - m) true := by
    rw [List.replicate_append_replicate, Nat.add_sub_cancel' hm]
  rw [← hgaps.out, hrun, ← hready.out, hsplit, Clocked.run_append, hfin'.keep_run]

/-! ### A missed chunk -/

lemma data_join_take (prev c : AxisRaw) : (join 4 prev c).data.take 4 = prev.data.drop 4 := by
  rw [data, join, data, List.map_append, ← List.map_drop]
  refine List.take_left' ?_
  rw [List.length_map, List.length_drop, prev.length_lanes]

lemma data_setTKeepAll (c : AxisRaw) : c.setTKeepAll.data = c.data := by
  rw [data, setTKeepAll, List.map_map]
  rfl

/-- The bytes of the lanes that are kept are not cleared. -/
lemma data_clear_take {c : AxisRaw} (h : ∀ l ∈ c.lanes.take 4, l.keep = true) :
    c.clearUnusedBytes.data.take 4 = c.data.take 4 := by
  have hn : 4 ≤ ((c.lanes.map (·.keep)).takeWhile id).length := by
    have hfour : ∀ k ∈ (c.lanes.take 4).map (·.keep), id k = true := by
      intro k hk
      obtain ⟨l, hl, rfl⟩ := List.mem_map.mp hk
      exact h l hl
    have hlen : ((c.lanes.take 4).map (·.keep)).length = 4 := by
      rw [List.length_map, List.length_take, c.length_lanes]
      rfl
    conv_rhs => rw [← List.take_append_drop 4 c.lanes]
    rw [List.map_append, List.takeWhile_append_of_pos hfour, List.length_append, hlen]
    omega
  apply List.ext_getElem
  · rw [List.length_take, List.length_take, length_data, length_data]
  · intro i hi _
    have hi4 : i < 4 := by
      rw [List.length_take] at hi
      omega
    simp only [data, clearUnusedBytes, List.getElem_take, List.getElem_map]
    split
    · rw [List.getElem_mapIdx, if_pos (by omega)]
    · rfl

/-- A run only adds to what it has written. -/
lemma run_dgrm (s : IhsRun) (ks : List Bool) :
    ∃ rest, (Clocked.run (schedNext u) s ks).out.soUccUdpDgrm = s.out.soUccUdpDgrm ++ rest := by
  induction ks generalizing s with
  | nil => exact ⟨[], (List.append_nil _).symm⟩
  | cons k ks ih =>
      obtain ⟨rest, hrest⟩ := ih (schedNext u s k)
      refine ⟨(ihsCase u s.ihs { data := k }).2.soUccUdpDgrm ++ rest, ?_⟩
      rw [Clocked.run_cons, hrest, ← List.append_assoc]
      rfl

/-- The chunk that is written where two are joined. -/
lemma joined_chunk (hu : ∀ l ∈ u.currIp4Chunk.lanes, l.keep = true) {s : Ihs} (c : AxisIp4)
    (hjoins : s.ihsFsmState.joins = true) (hprev : s.ihsPrevChunk = u.currIp4Chunk) :
    ∃ x, (ihsChunk u s c).2.soUccUdpDgrm = [x] ∧
      x.data.take 4 = u.currIp4Chunk.data.drop 4 := by
  have hjoin : (join 4 s.ihsPrevChunk c).data.take 4 = u.currIp4Chunk.data.drop 4 := by
    rw [data_join_take, hprev]
  cases hst : s.ihsFsmState with
  | udpHeader =>
      refine ⟨udpHeaderChunk u s c, ?_, ?_⟩
      · rw [ihsChunk, hst]
        rfl
      · have hdata : (udpHeaderChunk u s c).data = (join 4 s.ihsPrevChunk c).data := by
          rw [udpHeaderChunk]
          split
          · rfl
          · exact data_setTKeepAll _
        rw [hdata, hjoin]
  | forward =>
      rw [ihsChunk, hst]
      dsimp only
      rw [ihsForward]
      split
      · split
        · refine ⟨_, rfl, ?_⟩
          rw [setTLastAndClear, data_clear_take]
          · exact hjoin
          · intro l hl
            have hmem : l ∈ u.currIp4Chunk.lanes := by
              rw [← hprev]
              have hleft :
                  (join 4 s.ihsPrevChunk c).lanes.take 4 = s.ihsPrevChunk.lanes.drop 4 := by
                refine List.take_left' ?_
                rw [List.length_drop, s.ihsPrevChunk.length_lanes]
              have hl' : l ∈ (join 4 s.ihsPrevChunk c).lanes.take 4 := hl
              rw [hleft] at hl'
              exact List.mem_of_mem_drop hl'
            exact hu l hmem
        · exact ⟨_, rfl, hjoin⟩
      · exact ⟨_, rfl, hjoin⟩
  | _ =>
      rw [hst] at hjoins
      cases hjoins

/-- The state is one that always reads. -/
lemma ihsCase_joins {s : Ihs} (hjoins : s.ihsFsmState.joins = true) (k : IhsCall) :
    ihsCase u s k = ihsRead u s k := by
  have hcase := ihsCase.eq_def u s k
  cases hst : s.ihsFsmState with
  | udpHeader =>
      rw [hst] at hcase
      exact hcase
  | forward =>
      rw [hst] at hcase
      exact hcase
  | _ =>
      rw [hst] at hjoins
      cases hjoins

/-- It waits in an idle call, but for the last chunk. -/
lemma schedNext_gap (hjoins : s.ihs.ihsFsmState.joins = true) : schedNext u s false =
    { ihs := ihsNoRead u s.ihs s.ihs.ihsFsmState, out := s.out } := by
  have hread : ihsRead u s.ihs { data := false } = (ihsNoRead u s.ihs s.ihs.ihsFsmState, {}) := by
    rcases ihsRead_cases (u := u) (s := s.ihs) (k := { data := false }) with
      ⟨hread, -⟩ | ⟨c, cs, -, hk, -⟩
    · exact hread
    · cases hk
  rw [schedNext_eq, ihsCase_joins hjoins, hread]
  dsimp only
  rw [add_empty]

/-- After an idle call the next chunk is joined with what is not set. -/
lemma gap_shows (hu : ∀ l ∈ u.currIp4Chunk.lanes, l.keep = true)
    (hjoins : t.ihs.ihsFsmState.joins = true) (hprev : t.ihs.ihsPrevChunk = u.currIp4Chunk)
    {ks : List Bool} (hfin : Finished (Clocked.run (schedNext u) t ks)) :
    ∃ x rest, (Clocked.run (schedNext u) t ks).out.soUccUdpDgrm =
      t.out.soUccUdpDgrm ++ x :: rest ∧ x.data.take 4 = u.currIp4Chunk.data.drop 4 := by
  induction ks generalizing t with
  | nil =>
      rcases hfin.state with hst | hst
      · rw [Clocked.run_nil] at hst
        rw [hst] at hjoins
        cases hjoins
      · rw [Clocked.run_nil] at hst
        rw [hst] at hjoins
        cases hjoins
  | cons k ks ih =>
      have hcase : ihsCase u t.ihs { data := k } = ihsRead u t.ihs { data := k } :=
        ihsCase_joins hjoins _
      rcases ihsRead_cases (u := u) (s := t.ihs) (k := { data := k }) with
        ⟨hread, -⟩ | ⟨c, cs, -, -, hread⟩
      · have hnext : schedNext u t k =
            { ihs := ihsNoRead u t.ihs t.ihs.ihsFsmState, out := t.out } := by
          rw [schedNext_eq, hcase, hread]
          dsimp only
          rw [add_empty]
        rw [Clocked.run_cons, hnext] at hfin ⊢
        exact ih hjoins rfl hfin
      · obtain ⟨x, hx, hdata⟩ :=
          joined_chunk (s := { t.ihs with siIPRXData := cs }) hu c hjoins hprev
        obtain ⟨rest, hrest⟩ := run_dgrm (u := u) (schedNext u t k) ks
        refine ⟨x, rest, ?_, hdata⟩
        rw [Clocked.run_cons, hrest, schedNext_eq, hcase, hread, IhsOut.add]
        dsimp only
        rw [hx, List.append_assoc]
        rfl

/-- The path of a run does not depend on what is not set. -/
lemma path_run (h : t.ihs.path = s.ihs.path) (ks : List Bool) :
    (Clocked.run (schedNext u') t ks).ihs.path = (Clocked.run (schedNext u) s ks).ihs.path := by
  induction ks generalizing s t with
  | nil => exact h
  | cons k ks ih => exact ih (path_next h k)

/-- Whether a call misses the last chunk depends on the path alone. -/
lemma gapless_of_path (h : t.ihs.path = s.ihs.path) {data : Bool} (hok : Gapless s data) :
    Gapless t data := by
  intro hjoins
  rw [(path_streams h).1] at hjoins
  exact hok hjoins

lemma along_of_path (h : t.ihs.path = s.ihs.path) {ks : List Bool}
    (hok : Clocked.Along (schedNext u) Gapless s ks) :
    Clocked.Along (schedNext u') Gapless t ks := by
  induction ks generalizing s t with
  | nil => trivial
  | cons k ks ih => exact ⟨gapless_of_path h hok.1, ih (path_next h k) hok.2⟩

/-- As long as nothing is missed, only the chunk that is sent can hold what is not set. -/
lemma gapless_out (hu : u'.sendChunk = u.sendChunk) {ks : List Bool}
    (hok : Clocked.Along (schedNext u) Gapless s ks) :
    (Clocked.run (schedNext u') s ks).out = (Clocked.run (schedNext u) s ks).out := by
  have hok' : Clocked.Along (schedNext u') Gapless s ks := along_of_path rfl hok
  have halike := (alike_refl s).run hok
  have halike' := (alike_refl s).run hok'
  rw [hu] at halike'
  exact halike'.out.symm.trans halike.out

end Run

/-! ### The property -/

/-- What the process writes in a schedule is what it writes without an idle call. -/
def ScheduleFree (s : Ihs) (bs : List Bool) : Prop :=
  ∀ u, (Clocked.run (schedNext u) ⟨s, {}⟩ bs).out =
    (Clocked.run (schedNext u) ⟨s, {}⟩ (List.replicate bs.length true)).out

def unsetOf (b : Byte) : IhsUnset :=
  ⟨AxisRaw.ofBytes (List.replicate 8 b) false rfl, AxisRaw.zero⟩

lemma unsetOf_keep (b : Byte) : ∀ l ∈ (unsetOf b).currIp4Chunk.lanes, l.keep = true := by
  intro l hl
  obtain ⟨b', -, rfl⟩ := List.mem_map.mp hl
  rfl

lemma not_scheduleFree {s : IhsRun} {ls ms : List Bool} {u₀ : IhsUnset}
    (hfin : Finished (Clocked.run (schedNext u₀) s (ls ++ false :: ms)))
    (hls : Clocked.Along (schedNext u₀) Gapless s ls)
    (hbreak : (Clocked.run (schedNext u₀) s ls).ihs.ihsFsmState.joins = true) :
    ∃ u, (Clocked.run (schedNext u) s (ls ++ false :: ms)).out ≠
      (Clocked.run (schedNext u) s (List.replicate (ls ++ false :: ms).length true)).out := by
  -- two values of the local variable give two values of the chunk that is written after the gap
  have hshow (b : Byte) : ∃ x rest,
      (Clocked.run (schedNext (unsetOf b)) s (ls ++ false :: ms)).out.soUccUdpDgrm =
        (Clocked.run (schedNext (unsetOf b)) s ls).out.soUccUdpDgrm ++ x :: rest ∧
      x.data.take 4 = List.replicate 4 b := by
    have hpath := @path_run u₀ (unsetOf b) s s rfl ls
    have hjoins : (Clocked.run (schedNext (unsetOf b)) s ls).ihs.ihsFsmState.joins = true := by
      rw [(path_streams hpath).1]
      exact hbreak
    have hgap := schedNext_gap (u := unsetOf b) hjoins
    have hfin' : Finished (Clocked.run (schedNext (unsetOf b)) s (ls ++ false :: ms)) :=
      hfin.of_path (path_run rfl _)
    rw [Clocked.run_append, Clocked.run_cons, hgap] at hfin' ⊢
    obtain ⟨x, rest, hout, hdata⟩ := gap_shows (unsetOf_keep b) (by exact hjoins) rfl hfin'
    refine ⟨x, rest, hout, hdata.trans ?_⟩
    rw [unsetOf, AxisRaw.data_ofBytes]
    rfl
  by_contra hall
  push Not at hall
  obtain ⟨x, rest, hx, hxdata⟩ := hshow 0
  obtain ⟨y, rest', hy, hydata⟩ := hshow 1
  have hls0 : Clocked.Along (schedNext (unsetOf 0)) Gapless s ls := along_of_path rfl hls
  have hprefix := @gapless_out (unsetOf 0) (unsetOf 1) s (by rfl) ls hls0
  have hready := @gapless_out (unsetOf 0) (unsetOf 1) s (by rfl) _
    (gapless_ready (unsetOf 0) s (ls ++ false :: ms).length)
  rw [hall, hprefix, hready, ← hall, hx] at hy
  obtain ⟨hxy, -⟩ := List.cons.inj (List.append_cancel_left hy)
  rw [hxy, hydata] at hxdata
  revert hxdata
  decide

/-- A schedule does not matter exactly if no call is idle where a chunk is joined with the last
one. -/
theorem out_eq_iff (s : Ihs) (bs : List Bool) (u₀ : IhsUnset)
    (hfin : Finished (Clocked.run (schedNext u₀) ⟨s, {}⟩ bs)) :
    ScheduleFree s bs ↔ Clocked.Along (schedNext u₀) Gapless ⟨s, {}⟩ bs := by
  refine ⟨fun hfree => ?_, fun hok u => ?_⟩
  · by_contra hgap
    obtain ⟨ls, k, ms, rfl, hls, hbreak⟩ := Clocked.exists_first_break hgap
    rw [Gapless, Classical.not_imp] at hbreak
    obtain ⟨hjoins, hk⟩ := hbreak
    rw [Bool.not_eq_true] at hk
    subst hk
    obtain ⟨u, hne⟩ := not_scheduleFree hfin hls hjoins
    exact hne (hfree u)
  · have hpath := @path_run u₀ u ⟨s, {}⟩ ⟨s, {}⟩ rfl bs
    exact out_of_gapless (hfin.of_path hpath) (along_of_path rfl hok)

/-- A packet without options, with four bytes of data. -/
def smallPacket : Ihs where
  siIPRXData :=
    [ AxisRaw.ofBytes [0x45, 0, 0, 32, 0, 0, 0, 0] false rfl,
      AxisRaw.ofBytes [64, 17, 0, 0, 10, 0, 0, 1] false rfl,
      AxisRaw.ofBytes [10, 0, 0, 2, 0x20, 0, 0x20, 1] false rfl,
      AxisRaw.ofBytes [0, 12, 0, 0, 1, 2, 3, 4] true rfl ]
  siUccClearToSend := [1]

/-- A gap in the header does not matter. -/
theorem out_eq_iff_smallPacket :
    ScheduleFree smallPacket [true, true, false, true, true, true, true, true] :=
  (out_eq_iff smallPacket _ noUnset ⟨by decide +kernel, by decide +kernel⟩).mpr
    (by decide +kernel)

/-- A gap in front of the last chunk does. -/
theorem gap_in_packet :
    ¬ScheduleFree smallPacket [true, true, true, true, false, true, true, true] := by
  intro hfree
  have hout := hfree noUnset
  revert hout
  decide +kernel

end CloudFpga.Uoe
