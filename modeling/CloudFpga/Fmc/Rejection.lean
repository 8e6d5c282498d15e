import CloudFpga.Fmc.RoutingTable
import Mathlib.Data.List.TakeWhile

/-!
The routing tables that the FMC refuses: `OP_BUFFER_TO_ROUTING` over the calls of one request.

* `storeLine`, `storeLines`: rows that are set.
* `routingLoop_eq`, `opBufferToRouting_eq`: what one call does, exactly.
* `postRouting`: the calls of a request, up to the one that ends it; `postRouting_eq`.
* `Unchanged`, `RejectsCleanly`: a refused request leaves the table alone; `unchanged_iff`.
-/

namespace CloudFpga.Fmc

open Nal

/-! ### Rows -/

/-- The row of a line is set if its rank is valid. -/
def storeLine (f : FmcState) (l : RoutingLine) : FmcState :=
  if h : l.rankID.toNat < maxMrtSize then f.setRow ⟨l.rankID.toNat, h⟩ l.address else f

def storeLines (f : FmcState) (ls : List RoutingLine) : FmcState := ls.foldl storeLine f

@[simp] lemma storeLines_nil (f : FmcState) : storeLines f [] = f := rfl

@[simp] lemma storeLines_cons (f : FmcState) (l : RoutingLine) (ls : List RoutingLine) :
    storeLines f (l :: ls) = storeLines (storeLine f l) ls := rfl

lemma storeLines_append (f : FmcState) (ls ms : List RoutingLine) :
    storeLines f (ls ++ ms) = storeLines (storeLines f ls) ms := List.foldl_append

/-- The fields that a row does not belong to. -/
structure SameRest (f g : FmcState) : Prop where
  version : g.currentNrcMrtVersion = f.currentNrcMrtVersion
  needToUpdateNrcMrt : g.needToUpdateNrcMrt = f.needToUpdateNrcMrt
  lastReturnValue : g.lastReturnValue = f.lastReturnValue
  invalidPayload : g.invalidPayload = f.invalidPayload
  transferError : g.transferError = f.transferError

lemma storeLine_rest (f : FmcState) (l : RoutingLine) : SameRest f (storeLine f l) := by
  rw [storeLine]
  split <;> exact ⟨rfl, rfl, rfl, rfl, rfl⟩

lemma storeLines_rest (f : FmcState) (ls : List RoutingLine) : SameRest f (storeLines f ls) := by
  induction ls generalizing f with
  | nil => exact ⟨rfl, rfl, rfl, rfl, rfl⟩
  | cons l ls ih =>
      have hl := storeLine_rest f l
      have hls := ih (storeLine f l)
      exact ⟨hls.version.trans hl.version, hls.needToUpdateNrcMrt.trans hl.needToUpdateNrcMrt,
        hls.lastReturnValue.trans hl.lastReturnValue, hls.invalidPayload.trans hl.invalidPayload,
        hls.transferError.trans hl.transferError⟩

/-- Two states with the same rows. -/
structure SameRows (f g : FmcState) : Prop where
  currentMRT : g.currentMRT = f.currentMRT
  maxDiscoveredNodeId : g.maxDiscoveredNodeId = f.maxDiscoveredNodeId

lemma SameRows.refl (f : FmcState) : SameRows f f := ⟨rfl, rfl⟩

lemma SameRows.trans {f g h : FmcState} (hfg : SameRows f g) (hgh : SameRows g h) :
    SameRows f h :=
  ⟨hgh.currentMRT.trans hfg.currentMRT, hgh.maxDiscoveredNodeId.trans hfg.maxDiscoveredNodeId⟩

lemma SameRows.symm {f g : FmcState} (h : SameRows f g) : SameRows g f :=
  ⟨h.currentMRT.symm, h.maxDiscoveredNodeId.symm⟩

/-- The rows that some lines set depend on the rows only. -/
lemma SameRows.storeLines {f g : FmcState} (h : SameRows f g) (ls : List RoutingLine) :
    SameRows (storeLines f ls) (storeLines g ls) := by
  induction ls generalizing f g with
  | nil => exact h
  | cons l ls ih =>
      refine ih ?_
      rw [storeLine, storeLine]
      split
      · exact ⟨by rw [FmcState.setRow, FmcState.setRow, h.currentMRT],
          by rw [FmcState.setRow, FmcState.setRow, h.maxDiscoveredNodeId]⟩
      · exact h

/-! ### One call -/

/-- The lines in front of the first one with an invalid rank. -/
def validLines (ls : List RoutingLine) : List RoutingLine := ls.takeWhile (·.Valid)

/-- What a loop over some lines does. -/
structure LoopDone (ls : List RoutingLine) (f g : FmcState) : Prop where
  rows : SameRows (storeLines f (validLines ls)) g
  valid : (∀ l ∈ ls, l.Valid) → SameRest f g
  invalid : (¬∀ l ∈ ls, l.Valid) →
    g.invalidPayload = true ∧ g.lastReturnValue = .done ∧ g.needToUpdateNrcMrt = false ∧
      g.currentNrcMrtVersion = f.currentNrcMrtVersion - 1 ∧ g.transferError = f.transferError

lemma routingLoop_done (b : HttpBuffer) (n i : ℕ) (f : FmcState) :
    LoopDone (b.linesFrom n i) f (routingLoop b n i f) := by
  induction n generalizing i f with
  | zero =>
      exact ⟨⟨rfl, rfl⟩, fun _ => ⟨rfl, rfl, rfl, rfl, rfl⟩, fun h => absurd (by rintro l ⟨⟩) h⟩
  | succ n ih =>
      rw [HttpBuffer.linesFrom, routingLoop]
      cases hl : b.readLine i with
      | none => exact ⟨⟨rfl, rfl⟩, fun _ => ⟨rfl, rfl, rfl, rfl, rfl⟩, fun h => absurd (by rintro l ⟨⟩) h⟩
      | some lj =>
          obtain ⟨l, j⟩ := lj
          dsimp only
          by_cases hv : l.rankID.toNat < maxMrtSize
          · rw [dif_pos hv]
            have hstore : storeLine f l = f.setRow ⟨l.rankID.toNat, hv⟩ l.address := dif_pos hv
            obtain ⟨hrows, hvalid, hinvalid⟩ := ih j (storeLine f l)
            have hrest := storeLine_rest f l
            have htake : validLines (l :: b.linesFrom n j) = l :: validLines (b.linesFrom n j) :=
              List.takeWhile_cons_of_pos (by exact decide_eq_true hv)
            have hall : (∀ m ∈ l :: b.linesFrom n j, m.Valid) ↔ ∀ m ∈ b.linesFrom n j, m.Valid := by
              rw [List.forall_mem_cons]
              exact and_iff_right hv
            rw [← hstore]
            refine ⟨by rw [htake]; exact hrows, fun h => ?_, fun h => ?_⟩
            · have hsame := hvalid (hall.mp h)
              exact ⟨hsame.version.trans hrest.version,
                hsame.needToUpdateNrcMrt.trans hrest.needToUpdateNrcMrt,
                hsame.lastReturnValue.trans hrest.lastReturnValue,
                hsame.invalidPayload.trans hrest.invalidPayload,
                hsame.transferError.trans hrest.transferError⟩
            · obtain ⟨h₁, h₂, h₃, h₄, h₅⟩ := hinvalid fun h' => h (hall.mpr h')
              rw [hrest.version] at h₄
              exact ⟨h₁, h₂, h₃, h₄, h₅.trans hrest.transferError⟩
          · rw [dif_neg hv]
            have htake : validLines (l :: b.linesFrom n j) = [] :=
              List.takeWhile_cons_of_neg (by exact fun h => hv (of_decide_eq_true h))
            refine ⟨by rw [htake]; exact ⟨rfl, rfl⟩, fun h => ?_, fun _ => ⟨rfl, rfl, rfl, rfl, rfl⟩⟩
            exact absurd (h l List.mem_cons_self) hv

lemma version_add_zero (v : Word) : v + 0 = v := BitVec.add_zero v

lemma version_sub_zero (v : Word) : v - 0 = v := BitVec.sub_zero v

lemma version_sub_ne (v : Word) : v - 1 ≠ v := by
  intro h
  have hnat := congrArg BitVec.toNat h
  have hlt := v.isLt
  rw [BitVec.toNat_sub, show (1 : Word).toNat = 1 from rfl] at hnat
  omega

/-- Some line of a call has an invalid rank. -/
def HttpBuffer.Bad (b : HttpBuffer) : Prop := ¬∀ l ∈ b.routingLines, l.Valid

instance (b : HttpBuffer) : Decidable b.Bad := inferInstanceAs (Decidable (¬_))

/-- What one call does. -/
structure CallDone (b : HttpBuffer) (f g : FmcState) : Prop where
  rows : SameRows (storeLines f (validLines b.routingLines)) g
  needToUpdateNrcMrt : g.needToUpdateNrcMrt = !decide b.Bad
  version : g.currentNrcMrtVersion =
    f.currentNrcMrtVersion + (if 0 < b.bodyLen then 1 else 0) - if b.Bad then 1 else 0
  lastReturnValue : g.lastReturnValue = if 0 < b.bodyLen ∨ b.Bad then .done else .notComplete
  invalidPayload : g.invalidPayload = (f.invalidPayload || decide b.Bad)
  transferError : g.transferError = f.transferError

lemma opBufferToRouting_done (b : HttpBuffer) (f : FmcState) :
    CallDone b f (opBufferToRouting b false f) := by
  rw [opBufferToRouting, if_neg Bool.false_ne_true]
  by_cases hbody : 0 < b.bodyLen
  · rw [if_pos hbody]
    have hloop := routingLoop_done b b.maxWhile.toNat b.bufferInPtrNextRead
      { f with
        needToUpdateNrcMrt := true
        lastReturnValue := .done
        currentNrcMrtVersion := f.currentNrcMrtVersion + 1 }
    have hrows : SameRows f
        { f with
          needToUpdateNrcMrt := true
          lastReturnValue := .done
          currentNrcMrtVersion := f.currentNrcMrtVersion + 1 } := ⟨rfl, rfl⟩
    have hset := (hrows.storeLines (validLines b.routingLines)).trans hloop.rows
    by_cases hbad : b.Bad
    · obtain ⟨h₁, h₂, h₃, h₄, h₅⟩ := hloop.invalid hbad
      refine ⟨hset, ?_, ?_, ?_, ?_, h₅⟩
      · rw [h₃, decide_eq_true hbad]; rfl
      · rw [h₄, if_pos hbody, if_pos hbad]
      · rw [h₂, if_pos (.inl hbody)]
      · rw [h₁, decide_eq_true hbad, Bool.or_true]
    · have hsame := hloop.valid (not_not.mp hbad)
      refine ⟨hset, ?_, ?_, ?_, ?_, hsame.transferError⟩
      · rw [hsame.needToUpdateNrcMrt, decide_eq_false hbad]; rfl
      · rw [hsame.version, if_pos hbody, if_neg hbad, version_sub_zero]
      · rw [hsame.lastReturnValue, if_pos (.inl hbody)]
      · rw [hsame.invalidPayload, decide_eq_false hbad, Bool.or_false]
  · rw [if_neg hbody]
    have hloop := routingLoop_done b b.maxWhile.toNat b.bufferInPtrNextRead
      { f with needToUpdateNrcMrt := true, lastReturnValue := .notComplete }
    have hrows : SameRows f
        { f with needToUpdateNrcMrt := true, lastReturnValue := .notComplete } := ⟨rfl, rfl⟩
    have hset := (hrows.storeLines (validLines b.routingLines)).trans hloop.rows
    by_cases hbad : b.Bad
    · obtain ⟨h₁, h₂, h₃, h₄, h₅⟩ := hloop.invalid hbad
      refine ⟨hset, ?_, ?_, ?_, ?_, h₅⟩
      · rw [h₃, decide_eq_true hbad]; rfl
      · rw [h₄, if_neg hbody, if_pos hbad, version_add_zero]
      · rw [h₂, if_pos (.inr hbad)]
      · rw [h₁, decide_eq_true hbad, Bool.or_true]
    · have hsame := hloop.valid (not_not.mp hbad)
      refine ⟨hset, ?_, ?_, ?_, ?_, hsame.transferError⟩
      · rw [hsame.needToUpdateNrcMrt, decide_eq_false hbad]; rfl
      · rw [hsame.version, if_neg hbody, if_neg hbad, version_add_zero, version_sub_zero]
      · rw [hsame.lastReturnValue, if_neg (not_or.mpr ⟨hbody, hbad⟩)]
      · rw [hsame.invalidPayload, decide_eq_false hbad, Bool.or_false]

/-! ### The calls of a request -/

/-- A call of the operation: the buffer with its pointers, and the input `disable_ctrl_link`. The read
pointer of a buffer is the one that the call before has left; nothing here depends on it. -/
abbrev RoutingCall := HttpBuffer × Bool

/-- The calls of a request. The first one that does not return `OPRV_NOT_COMPLETE` ends it. -/
def postRouting : FmcState → List RoutingCall → FmcState
  | f, [] => f
  | f, (b, disableCtrlLink) :: calls =>
      let g := opBufferToRouting b disableCtrlLink f
      if g.lastReturnValue = .notComplete then postRouting g calls else g

/-- The call ends the request: the link is disabled, the body is complete, or a rank is invalid. -/
def Ends (c : RoutingCall) : Prop := c.2 = true ∨ 0 < c.1.bodyLen ∨ c.1.Bad

/-- The call ends the request with an error. -/
def Refuses (c : RoutingCall) : Prop := c.2 = true ∨ c.1.Bad

/-- The lines that calls without an invalid rank store. -/
def linesOf (calls : List RoutingCall) : List RoutingLine := calls.flatMap (·.1.routingLines)

/-- The FMC answers 422. -/
def Answers422 (f : FmcState) : Prop := f.invalidPayload = true ∨ f.transferError = true

instance (f : FmcState) : Decidable (Answers422 f) := inferInstanceAs (Decidable (_ ∨ _))

/-- A call that does not end the request. -/
lemma postRouting_cons {f : FmcState} {c : RoutingCall} (hc : ¬Ends c) (calls : List RoutingCall) :
    postRouting f (c :: calls) = postRouting (opBufferToRouting c.1 false f) calls := by
  obtain ⟨b, d⟩ := c
  obtain ⟨hd, hends⟩ := not_or.mp hc
  obtain rfl : d = false := Bool.eq_false_of_not_eq_true hd
  have hret := (opBufferToRouting_done b f).lastReturnValue
  rw [if_neg hends] at hret
  rw [postRouting]
  exact if_pos hret

/-- A call that ends it. -/
lemma postRouting_end {f : FmcState} {c : RoutingCall} (hc : Ends c) (calls : List RoutingCall) :
    postRouting f (c :: calls) = opBufferToRouting c.1 c.2 f := by
  obtain ⟨b, d⟩ := c
  rw [postRouting]
  dsimp only
  refine if_neg ?_
  cases d with
  | true =>
      rw [opBufferToRouting, if_pos rfl]
      rintro ⟨⟩
  | false =>
      rw [(opBufferToRouting_done b f).lastReturnValue,
        if_pos (hc.resolve_left Bool.false_ne_true)]
      rintro ⟨⟩

/-- A valid line is stored. -/
lemma validLines_of_not_bad {b : HttpBuffer} (h : ¬b.Bad) :
    validLines b.routingLines = b.routingLines :=
  List.takeWhile_eq_self_iff.mpr fun l hl => decide_eq_true (not_not.mp h l hl)

/-- What the calls in front of the one that ends the request do. -/
structure EarlyDone (early : List RoutingCall) (f g : FmcState) : Prop where
  rows : SameRows (storeLines f (linesOf early)) g
  needToUpdateNrcMrt : g.needToUpdateNrcMrt = (f.needToUpdateNrcMrt || !early.isEmpty)
  version : g.currentNrcMrtVersion = f.currentNrcMrtVersion
  linkCtrlFSM : g.linkCtrlFSM = f.linkCtrlFSM

/-- **The calls in front** set the rows of their lines and leave the version alone. -/
lemma postRouting_early {early : List RoutingCall} (hearly : ∀ c ∈ early, ¬Ends c) (f : FmcState)
    (calls : List RoutingCall) :
    ∃ g, postRouting f (early ++ calls) = postRouting g calls ∧ EarlyDone early f g := by
  induction early generalizing f with
  | nil => exact ⟨f, rfl, ⟨rfl, rfl⟩, by simp, rfl, rfl⟩
  | cons c early ih =>
      have hc := hearly c List.mem_cons_self
      obtain ⟨hd, hends⟩ := not_or.mp hc
      obtain ⟨hbody, hbad⟩ := not_or.mp hends
      have hcall := opBufferToRouting_done c.1 f
      obtain ⟨g, hg, hdone⟩ := ih (fun c' hc' => hearly c' (List.mem_cons_of_mem c hc'))
        (opBufferToRouting c.1 false f)
      refine ⟨g, by rw [List.cons_append, postRouting_cons hc, hg], ?_, ?_, ?_, ?_⟩
      · have hrows := hcall.rows
        rw [validLines_of_not_bad hbad] at hrows
        have hlines : linesOf (c :: early) = c.1.routingLines ++ linesOf early := rfl
        rw [hlines, storeLines_append]
        exact (hrows.storeLines _).trans hdone.rows
      · rw [hdone.needToUpdateNrcMrt, hcall.needToUpdateNrcMrt, decide_eq_false hbad]
        simp
      · rw [hdone.version, hcall.version, if_neg hbody, if_neg hbad, version_add_zero,
          version_sub_zero]
      · rw [hdone.linkCtrlFSM, (opBufferToRouting_spec c.1 f).link]

/-! ### Refused requests -/

/-- The table, its largest rank and its version are as before, and an update is pending if and only if
one was. -/
structure Unchanged (f g : FmcState) : Prop where
  rows : SameRows f g
  version : g.currentNrcMrtVersion = f.currentNrcMrtVersion
  needToUpdateNrcMrt : g.needToUpdateNrcMrt = f.needToUpdateNrcMrt
  linkCtrlFSM : g.linkCtrlFSM = f.linkCtrlFSM

/-- The lines that were stored repeat the table. If the link was disabled, this was so in the first
call, or an update was pending. If a rank was invalid, no update was pending, and the body was
complete in the call that found it. -/
def RefusesCleanly (f : FmcState) (early : List RoutingCall) (last : RoutingCall) : Prop :=
  if last.2 then
    SameRows f (storeLines f (linesOf early)) ∧ (early = [] ∨ f.needToUpdateNrcMrt = true)
  else
    SameRows f (storeLines f (linesOf early ++ validLines last.1.routingLines)) ∧
      f.needToUpdateNrcMrt = false ∧ 0 < last.1.bodyLen

/-- The calls of a request that is answered with 422: the ones in front and the one that refuses
it. -/
lemma exists_refuses {f : FmcState} {calls : List RoutingCall} (hfresh : ¬Answers422 f)
    (h : Answers422 (postRouting f calls)) :
    ∃ early last rest, calls = early ++ last :: rest ∧ (∀ c ∈ early, ¬Ends c) ∧ Refuses last := by
  induction calls generalizing f with
  | nil => exact absurd h hfresh
  | cons c calls ih =>
      by_cases hc : Ends c
      · refine ⟨[], c, calls, rfl, nofun, ?_⟩
        by_contra href
        obtain ⟨hd, hbad⟩ := not_or.mp href
        rw [postRouting_end hc, Bool.eq_false_of_not_eq_true hd] at h
        have hcall := opBufferToRouting_done c.1 f
        refine hfresh (h.imp (fun hi => ?_) fun ht => hcall.transferError ▸ ht)
        rw [hcall.invalidPayload, decide_eq_false hbad, Bool.or_false] at hi
        exact hi
      · rw [postRouting_cons hc] at h
        have hcall := opBufferToRouting_done c.1 f
        have hbad : ¬c.1.Bad := fun hb => hc (.inr (.inr hb))
        have hfresh' : ¬Answers422 (opBufferToRouting c.1 false f) := by
          intro h'
          refine hfresh (h'.imp (fun hi => ?_) fun ht => hcall.transferError ▸ ht)
          rw [hcall.invalidPayload, decide_eq_false hbad, Bool.or_false] at hi
          exact hi
        obtain ⟨early, last, rest, rfl, hearly, href⟩ := ih hfresh' h
        exact ⟨c :: early, last, rest, rfl, List.forall_mem_cons.mpr ⟨hc, hearly⟩, href⟩

/-- A cut of the calls is unique. -/
lemma refuses_unique {early early' rest rest' : List RoutingCall} {last last' : RoutingCall}
    (hearly : ∀ c ∈ early, ¬Ends c) (hlast : Refuses last) (hearly' : ∀ c ∈ early', ¬Ends c)
    (hlast' : Refuses last') (h : early ++ last :: rest = early' ++ last' :: rest') :
    early = early' ∧ last = last' := by
  have hends : ∀ c, Refuses c → Ends c := fun c hc => hc.imp_right .inr
  induction early generalizing early' with
  | nil =>
      cases early' with
      | nil => exact ⟨rfl, (List.cons.inj h).1⟩
      | cons c early' =>
          obtain rfl : last = c := (List.cons.inj h).1
          exact absurd (hends last hlast) (hearly' last List.mem_cons_self)
  | cons c early ih =>
      cases early' with
      | nil =>
          obtain rfl : c = last' := (List.cons.inj h).1
          exact absurd (hends c hlast') (hearly c List.mem_cons_self)
      | cons c' early' =>
          obtain ⟨rfl, htail⟩ := List.cons.inj h
          obtain ⟨rfl, hl⟩ := ih (fun d hd => hearly d (List.mem_cons_of_mem c hd))
            (fun d hd => hearly' d (List.mem_cons_of_mem c hd)) htail
          exact ⟨rfl, hl⟩

/-- The calls in front and the one that refuses the request. -/
lemma unchanged_refuses {f : FmcState} {early rest : List RoutingCall} {last : RoutingCall}
    (hearly : ∀ c ∈ early, ¬Ends c) (hlast : Refuses last) :
    Unchanged f (postRouting f (early ++ last :: rest)) ↔ RefusesCleanly f early last := by
  obtain ⟨g, hg, hdone⟩ := postRouting_early hearly f (last :: rest)
  rw [hg, postRouting_end (hlast.imp_right .inr)]
  obtain ⟨b, d⟩ := last
  cases d with
  | true =>
      rw [RefusesCleanly, if_pos rfl, opBufferToRouting, if_pos rfl]
      constructor
      · intro h
        refine ⟨⟨hdone.rows.symm.currentMRT.trans h.rows.currentMRT,
          hdone.rows.symm.maxDiscoveredNodeId.trans h.rows.maxDiscoveredNodeId⟩, ?_⟩
        have hneed : g.needToUpdateNrcMrt = f.needToUpdateNrcMrt := h.needToUpdateNrcMrt
        rw [hdone.needToUpdateNrcMrt] at hneed
        cases early with
        | nil => exact .inl rfl
        | cons c early =>
            rw [List.isEmpty_cons, Bool.not_false, Bool.or_true] at hneed
            exact .inr hneed.symm
      · rintro ⟨hrows, hneed⟩
        refine ⟨hrows.trans (hdone.rows.trans ⟨rfl, rfl⟩), hdone.version, ?_, hdone.linkCtrlFSM⟩
        have hg' := hdone.needToUpdateNrcMrt
        dsimp only
        rw [hg']
        rcases hneed with rfl | hneed
        · simp
        · simp [hneed]
  | false =>
      have hbad : b.Bad := hlast.resolve_left Bool.false_ne_true
      have hcall := opBufferToRouting_done b g
      have hrows : SameRows (storeLines f (linesOf early ++ validLines b.routingLines))
          (opBufferToRouting b false g) := by
        rw [storeLines_append]
        exact (hdone.rows.storeLines _).trans hcall.rows
      have hneed := hcall.needToUpdateNrcMrt
      have hversion := hcall.version
      rw [decide_eq_true hbad] at hneed
      rw [if_pos hbad, hdone.version] at hversion
      rw [RefusesCleanly, if_neg Bool.false_ne_true]
      constructor
      · intro h
        refine ⟨h.rows.trans hrows.symm, h.needToUpdateNrcMrt.symm.trans hneed, ?_⟩
        by_contra hbody
        have hv := h.version
        rw [hversion, if_neg hbody, version_add_zero] at hv
        exact absurd hv (version_sub_ne _)
      · rintro ⟨hsame, hpending, hbody⟩
        refine ⟨hsame.trans hrows, ?_, hneed.trans hpending.symm, ?_⟩
        · rw [hversion, if_pos hbody]
          exact BitVec.add_sub_cancel _ _
        · rw [(opBufferToRouting_spec b g).link, hdone.linkCtrlFSM]

/-- **A request that is answered with 422** leaves the table alone if and only if it is refused
cleanly. -/
theorem unchanged_iff {f : FmcState} {calls : List RoutingCall} (hfresh : ¬Answers422 f)
    (h : Answers422 (postRouting f calls)) :
    Unchanged f (postRouting f calls) ↔
      ∃ early last rest, calls = early ++ last :: rest ∧ (∀ c ∈ early, ¬Ends c) ∧ Refuses last ∧
        RefusesCleanly f early last := by
  obtain ⟨early, last, rest, rfl, hearly, hlast⟩ := exists_refuses hfresh h
  rw [unchanged_refuses hearly hlast]
  constructor
  · intro hclean
    exact ⟨early, last, rest, rfl, hearly, hlast, hclean⟩
  · rintro ⟨early', last', rest', heq, hearly', hlast', hclean⟩
    obtain ⟨rfl, rfl⟩ := refuses_unique hearly hlast hearly' hlast' heq
    exact hclean

/-- The body of a request with one line, in the buffer of one call. -/
def oneLine (rank : List Byte) : HttpBuffer :=
  ⟨rank ++ [0x20, 10, 0, 0, 1, 0x0A, 0x0D, 0x0A, 0x0D, 0x0A], 0, rank.length + 9, false⟩

/-- The rank 99 comes first. -/
theorem unchanged_first : Unchanged {} (postRouting {} [(oneLine [0x39, 0x39], false)]) :=
  (@unchanged_iff {} [(oneLine [0x39, 0x39], false)] (by decide) (by decide +kernel)).mpr
    ⟨[], (oneLine [0x39, 0x39], false), [], rfl, nofun, .inr (by decide +kernel),
      ⟨⟨by decide +kernel, by decide +kernel⟩, rfl, by decide +kernel⟩⟩

/-- The row 1 is set in front of the rank 99. -/
def twoLines : HttpBuffer :=
  ⟨[0x31, 0x20, 10, 0, 0, 1, 0x0A, 0x39, 0x39, 0x20, 10, 0, 0, 2, 0x0A, 0x0D, 0x0A, 0x0D, 0x0A], 0,
    18, false⟩

/-- It keeps its new address. -/
theorem changed_second : Answers422 (postRouting {} [(twoLines, false)]) ∧
    ¬Unchanged {} (postRouting {} [(twoLines, false)]) := by
  refine ⟨by decide +kernel, fun h => ?_⟩
  have hrow := congrFun h.rows.currentMRT 1
  revert hrow
  decide +kernel

end CloudFpga.Fmc
