import CloudFpga.Foundation.SlotArray
import CloudFpga.Toe.SessionLookupController

/-!
The content-addressable memory of the TOE, `toecam.cpp`.

* `camLookup`, `camInsert`, `camDelete`: the operations on the eight entries.
* `toecam`: one call of the process.
* `CamSys`, `camNext`: the process with its requests; the updates that arrived, and those that were
  acknowledged, are recorded.
* `CamCorrect`: what a call has to do; `CamGuard`: where it does so.
* `toecam_refines_iff`: the memory is a map from tuples to session identifiers along exactly the
  runs whose steps all meet the guard.
-/

namespace CloudFpga.ToeCam

open Foundation Toe

/-! ### The entries -/

abbrev KeyValuePair := Slot FourTuple RtlSessId

/-- `CamArray0` to `CamArray7`. -/
structure CamArray where
  entries : List KeyValuePair
  size : entries.length = 8

namespace CamArray

variable (a : CamArray)

/-- The arrays after a reset. -/
def reset : CamArray := ⟨List.replicate 8 ⟨⟨0, 0, 0, 0⟩, 0, false⟩, rfl⟩

/-- The value of the first valid entry with the key. -/
def camLookup (key : FourTuple) : Option RtlSessId := SlotArray.lookup key a.entries

/-- The first entry that is not valid is overwritten. The result tells whether there was one. -/
def camInsert (key : FourTuple) (value : RtlSessId) : CamArray × Bool :=
  (⟨SlotArray.store key value a.entries, by rw [SlotArray.length_store, a.size]⟩,
    decide (SlotArray.HasFree a.entries))

/-- The first valid entry with the key is invalidated. The result tells whether there was one. -/
def camDelete (key : FourTuple) : CamArray × Bool :=
  (⟨SlotArray.discard key a.entries, by rw [SlotArray.length_discard, a.size]⟩,
    (SlotArray.lookup key a.entries).isSome)

end CamArray

/-! ### The process -/

inductive CamFsmState where
  | wait4Req | lookupRep | updateRep
  deriving DecidableEq, Repr

/-- `MAX_CAM_LATENCY`. -/
def maxCamLatency : ℕ := 0

/-- The registers of the process and its input streams. -/
structure CamState where
  startupDelay : ℕ := 100
  fsmState : CamFsmState := .wait4Req
  idleCnt : ℕ := 0
  camArray : CamArray := .reset
  request : CamSessionLookupRequest
  update : CamSessionUpdateRequest
  siSssLkpReq : List CamSessionLookupRequest := []
  siSssUpdReq : List CamSessionUpdateRequest := []

/-- What a call writes on the output streams, and the ready signal. -/
structure CamOut where
  camReady : Bool := true
  soSssLkpRep : List CamSessionLookupReply := []
  soSssUpdRep : List CamSessionUpdateReply := []
  deriving DecidableEq

/-- The reply to a lookup that found `value`. -/
def camLkpReply (r : CamSessionLookupRequest) : Option RtlSessId → CamSessionLookupReply
  | some value => ⟨value, r.source, true⟩
  | none => ⟨0, r.source, false⟩

/-- The reply to an update, whatever became of it. -/
def camUpdReply (u : CamSessionUpdateRequest) : CamSessionUpdateReply := ⟨u.value, u.source, u.op⟩

section Process

variable (s : CamState)

/-- `CAM_WAIT_4_REQ`: lookups go before updates. -/
def camWait4Req : CamState :=
  match s.siSssLkpReq, s.siSssUpdReq with
  | r :: rs, _ =>
      { s with siSssLkpReq := rs, request := r, idleCnt := maxCamLatency, fsmState := .lookupRep }
  | [], u :: us =>
      { s with siSssUpdReq := us, update := u, idleCnt := maxCamLatency, fsmState := .updateRep }
  | [], [] => s

/-- `CAM_LOOKUP_REP`. -/
def camLookupRep : CamState × CamOut :=
  if s.idleCnt > 0 then ({ s with idleCnt := s.idleCnt - 1 }, {})
  else
    ({ s with fsmState := .wait4Req },
      { soSssLkpRep := [camLkpReply s.request (s.camArray.camLookup s.request.key)] })

/-- `CAM_UPDATE_REP`: the results of the operations are ignored. -/
def camUpdateRep : CamState × CamOut :=
  if s.idleCnt > 0 then ({ s with idleCnt := s.idleCnt - 1 }, {})
  else
    ({ s with
      camArray :=
        if s.update.op = .insert then (s.camArray.camInsert s.update.key s.update.value).1
        else (s.camArray.camDelete s.update.key).1
      fsmState := .wait4Req },
      { soSssUpdRep := [camUpdReply s.update] })

/-- One call of the process. -/
def toecam : CamState × CamOut :=
  if s.startupDelay > 0 then ({ s with startupDelay := s.startupDelay - 1 }, { camReady := false })
  else
    match s.fsmState with
    | .wait4Req => (camWait4Req s, {})
    | .lookupRep => camLookupRep s
    | .updateRep => camUpdateRep s

end Process

/-! ### The process with its requests -/

/-- The process, the updates that arrived, those that were acknowledged, and the replies to
updates, all in order. -/
structure CamSys where
  cam : CamState
  requested : List CamSessionUpdateRequest := []
  acked : List CamSessionUpdateRequest := []
  replied : List CamSessionUpdateReply := []

inductive CamLabel where
  | lookup (r : CamSessionLookupRequest)
  | update (u : CamSessionUpdateRequest)
  | call

def camNext (s : CamSys) : CamLabel → CamSys
  | .lookup r => { s with cam := { s.cam with siSssLkpReq := s.cam.siSssLkpReq ++ [r] } }
  | .update u =>
      { s with
        cam := { s.cam with siSssUpdReq := s.cam.siSssUpdReq ++ [u] }
        requested := s.requested ++ [u] }
  | .call =>
      let r := toecam s.cam
      { s with
        cam := r.1
        acked := if r.2.soSssUpdRep = [] then s.acked else s.acked ++ [s.cam.update]
        replied := s.replied ++ r.2.soSssUpdRep }

/-- The memory after a reset; the registers of the requests are not reset. -/
def camStart (request : CamSessionLookupRequest) (update : CamSessionUpdateRequest) : CamSys where
  cam := { request := request, update := update }

/-- The map that a list of updates makes: the last one on a key tells what it is mapped to. -/
def camMap (us : List CamSessionUpdateRequest) (key : FourTuple) : Option RtlSessId :=
  (us.reverse.find? (·.key = key)).bind fun u => if u.op = .insert then some u.value else none

/-- An update is about to be executed. -/
def CamState.Executes (s : CamState) : Prop :=
  s.startupDelay = 0 ∧ s.fsmState = .updateRep ∧ s.idleCnt = 0

instance (s : CamState) : Decidable s.Executes := inferInstanceAs (Decidable (_ ∧ _))

/-- What a call has to do: a lookup is answered as the map says that the acknowledged updates make;
an insertion that is acknowledged was stored; no two valid entries hold the same key; and the
updates are answered in the order in which they arrived. -/
structure CallCorrect (s : CamSys) (out : CamOut) (s' : CamSys) : Prop where
  lookup : ∀ rep ∈ out.soSssLkpRep,
    rep = camLkpReply s.cam.request (camMap s.acked s.cam.request.key)
  stored : ∀ rep ∈ out.soSssUpdRep, rep.op = .insert →
    (s.cam.camArray.camInsert s.cam.update.key s.cam.update.value).2 = true ∧
      s'.cam.camArray.camLookup s.cam.update.key = some s.cam.update.value
  distinct : SlotArray.Distinct s'.cam.camArray.entries
  order : s'.acked.IsPrefix s'.requested ∧ s'.replied = s'.acked.map camUpdReply

def CamCorrect (s : CamSys) : CamLabel → Prop
  | .call => CallCorrect s (toecam s.cam).2 (camNext s .call)
  | _ => True

/-- An insertion is executed only for a key that is not held, while an entry is free. -/
def CamGuard (s : CamSys) : CamLabel → Prop
  | .call => s.cam.Executes → s.cam.update.op = .insert →
      s.cam.camArray.camLookup s.cam.update.key = none ∧
        SlotArray.HasFree s.cam.camArray.entries
  | _ => True

/-! ### The memory is a map -/

/-- The update that is being processed. -/
def CamState.inProgress (s : CamState) : List CamSessionUpdateRequest :=
  if s.fsmState = .updateRep then [s.update] else []

/-- The entries are those of the map, with distinct keys; and the updates are answered in order. -/
structure CamInv (s : CamSys) : Prop where
  map : ∀ key, s.cam.camArray.camLookup key = camMap s.acked key
  distinct : SlotArray.Distinct s.cam.camArray.entries
  requested : s.acked ++ s.cam.inProgress ++ s.cam.siSssUpdReq = s.requested
  replied : s.replied = s.acked.map camUpdReply

lemma camMap_append (us : List CamSessionUpdateRequest) (u : CamSessionUpdateRequest)
    (key : FourTuple) :
    camMap (us ++ [u]) key =
      if key = u.key then (if u.op = .insert then some u.value else none) else camMap us key := by
  rw [camMap, List.reverse_append, List.reverse_singleton, List.singleton_append, List.find?_cons]
  by_cases h : key = u.key
  · simp [h]
  · simp [h, Ne.symm h, camMap]

/-- What a call does. -/
inductive CamStep (s : CamState) : CamState × CamOut → Prop
  /-- nothing is read, or a lookup is read -/
  | waits {s' : CamState} {ready : Bool} (harray : s'.camArray = s.camArray)
      (hprog : s'.inProgress ++ s'.siSssUpdReq = s.inProgress ++ s.siSssUpdReq)
      (hexec : ¬s.Executes) : CamStep s (s', { camReady := ready })
  | answers {s' : CamState} (harray : s'.camArray = s.camArray)
      (hprog : s'.inProgress ++ s'.siSssUpdReq = s.inProgress ++ s.siSssUpdReq)
      (hexec : ¬s.Executes) :
      CamStep s (s',
        { soSssLkpRep := [camLkpReply s.request (s.camArray.camLookup s.request.key)] })
  | executes {s' : CamState} (hexec : s.Executes)
      (harray : s'.camArray =
        if s.update.op = .insert then (s.camArray.camInsert s.update.key s.update.value).1
        else (s.camArray.camDelete s.update.key).1)
      (hprog : s'.inProgress = []) (hqueue : s'.siSssUpdReq = s.siSssUpdReq) :
      CamStep s (s', { soSssUpdRep := [camUpdReply s.update] })

lemma toecam_step (s : CamState) : CamStep s (toecam s) := by
  rw [toecam]
  split
  · next hdelay => exact .waits rfl rfl fun h => by rw [h.1] at hdelay; cases hdelay
  · next hdelay =>
      cases hst : s.fsmState with
      | wait4Req =>
          have hexec : ¬s.Executes := fun h => absurd (hst.symm.trans h.2.1) (by simp)
          have hprog : s.inProgress = [] := by rw [CamState.inProgress, hst]; rfl
          dsimp only [camWait4Req]
          split
          · exact .waits rfl (by rw [hprog]; rfl) hexec
          · next hu => exact .waits rfl (by rw [hprog, hu]; rfl) hexec
          · exact .waits rfl rfl hexec
      | lookupRep =>
          have hexec : ¬s.Executes := fun h => absurd (hst.symm.trans h.2.1) (by simp)
          have hprog : s.inProgress = [] := by rw [CamState.inProgress, hst]; rfl
          dsimp only [camLookupRep]
          split
          · exact .waits rfl rfl hexec
          · exact .answers rfl (by rw [hprog]; rfl) hexec
      | updateRep =>
          dsimp only [camUpdateRep]
          split
          · next hidle => exact .waits rfl rfl fun h => by rw [h.2.2] at hidle; cases hidle
          · next hidle => exact .executes ⟨by omega, hst, by omega⟩ rfl rfl rfl

lemma camStart_inv (request : CamSessionLookupRequest) (update : CamSessionUpdateRequest) :
    CamInv (camStart request update) where
  map key := by
    have hnone : SlotArray.lookup key CamArray.reset.entries = none :=
      SlotArray.lookup_eq_none_iff.mpr fun e he h => by
        rw [List.eq_of_mem_replicate he] at h
        cases h.1
    exact hnone
  distinct := by
    refine List.pairwise_replicate.mpr (.inr fun h => ?_)
    cases h
  requested := rfl
  replied := rfl

section Steps

variable {s : CamSys}

/-- A call that leaves the entries alone. -/
lemma CamInv.keep {s' : CamState} (h : CamInv s) (harray : s'.camArray = s.cam.camArray)
    (hprog : s'.inProgress ++ s'.siSssUpdReq = s.cam.inProgress ++ s.cam.siSssUpdReq) :
    CamInv { s with cam := s' } where
  map key := by rw [harray]; exact h.map key
  distinct := by rw [harray]; exact h.distinct
  requested := by
    rw [List.append_assoc, hprog, ← List.append_assoc]
    exact h.requested
  replied := h.replied

lemma CamInv.prefix (h : CamInv s) : s.acked.IsPrefix s.requested :=
  ⟨s.cam.inProgress ++ s.cam.siSssUpdReq, by rw [← List.append_assoc, h.requested]⟩

/-- The update that is executed is the next one. -/
lemma CamInv.ack (h : CamInv s) (hexec : s.cam.Executes) :
    s.acked ++ [s.cam.update] ++ s.cam.siSssUpdReq = s.requested := by
  have hreq := h.requested
  rw [CamState.inProgress, if_pos hexec.2.1] at hreq
  exact hreq

/-- An execution that meets the guard does what the map says. -/
lemma CamInv.map_update (h : CamInv s) (hguard : s.cam.update.op = .insert →
      s.cam.camArray.camLookup s.cam.update.key = none ∧
        SlotArray.HasFree s.cam.camArray.entries) (key : FourTuple) :
    (if s.cam.update.op = .insert
      then (s.cam.camArray.camInsert s.cam.update.key s.cam.update.value).1
      else (s.cam.camArray.camDelete s.cam.update.key).1).camLookup key =
      camMap (s.acked ++ [s.cam.update]) key := by
  rw [camMap_append, ← h.map]
  split
  · next hop =>
      obtain ⟨hnew, hfree⟩ := hguard hop
      exact SlotArray.lookup_store hfree hnew
  · exact SlotArray.lookup_discard h.distinct

lemma CamInv.distinct_update (h : CamInv s) (hguard : s.cam.update.op = .insert →
      s.cam.camArray.camLookup s.cam.update.key = none ∧
        SlotArray.HasFree s.cam.camArray.entries) :
    SlotArray.Distinct (if s.cam.update.op = .insert
      then (s.cam.camArray.camInsert s.cam.update.key s.cam.update.value).1
      else (s.cam.camArray.camDelete s.cam.update.key).1).entries := by
  split
  · next hop =>
      obtain ⟨hnew, hfree⟩ := hguard hop
      exact (SlotArray.distinct_store_iff h.distinct hfree).mpr hnew
  · exact SlotArray.distinct_discard h.distinct

/-- **Every step** is correct if and only if it meets the guard, and then keeps the invariant. -/
theorem camNext_correct_iff (h : CamInv s) (l : CamLabel) :
    (CamCorrect s l ↔ CamGuard s l) ∧ (CamGuard s l → CamInv (camNext s l)) := by
  cases l with
  | lookup r => exact ⟨Iff.rfl, fun _ => ⟨h.map, h.distinct, h.requested, h.replied⟩⟩
  | update u =>
      refine ⟨Iff.rfl, fun _ => ⟨h.map, h.distinct, ?_, h.replied⟩⟩
      rw [camNext, ← h.requested]
      simp [CamState.inProgress]
  | call =>
      simp only [CamCorrect, CamGuard, camNext]
      have hstep := toecam_step s.cam
      generalize toecam s.cam = r at hstep
      cases hstep with
      | @waits s' ready harray hprog hexec =>
          have hinv := h.keep harray hprog
          simp only [if_true, List.append_nil]
          refine ⟨iff_of_true ⟨by simp, by simp, hinv.distinct, hinv.prefix, hinv.replied⟩
            fun he => absurd he hexec, fun _ => hinv⟩
      | @answers s' harray hprog hexec =>
          have hinv := h.keep harray hprog
          simp only [if_true, List.append_nil]
          refine ⟨iff_of_true ⟨fun rep hrep => ?_, by simp, hinv.distinct, hinv.prefix,
            hinv.replied⟩ fun he => absurd he hexec, fun _ => hinv⟩
          rw [List.mem_singleton.mp hrep, h.map]
      | @executes s' hexec harray hprog hqueue =>
          simp only [List.cons_ne_nil, if_false]
          have hack := h.ack hexec
          have hreplied : s.replied ++ [camUpdReply s.cam.update] =
              (s.acked ++ [s.cam.update]).map camUpdReply := by
            rw [List.map_append, h.replied]
            rfl
          refine ⟨⟨fun hc _ hop => ?_, fun hg => ⟨by simp, fun rep hrep hop => ?_, ?_, ?_⟩⟩,
            fun hg => ⟨fun key => ?_, ?_, ?_, hreplied⟩⟩
          · obtain ⟨hfree, -⟩ := hc.stored _ (List.mem_singleton_self _) hop
            have hfree' : SlotArray.HasFree s.cam.camArray.entries := of_decide_eq_true hfree
            have hd := hc.distinct
            rw [harray, if_pos hop] at hd
            exact ⟨(SlotArray.distinct_store_iff h.distinct hfree').mp hd, hfree'⟩
          · rw [List.mem_singleton.mp hrep] at hop
            have hop' : s.cam.update.op = .insert := hop
            obtain ⟨-, hfree⟩ := hg hexec hop'
            refine ⟨decide_eq_true hfree, ?_⟩
            rw [harray, h.map_update (hg hexec), camMap_append, if_pos rfl, if_pos hop']
          · rw [harray]
            exact h.distinct_update (hg hexec)
          · exact ⟨⟨s.cam.siSssUpdReq, hack⟩, hreplied⟩
          · rw [harray]
            exact h.map_update (hg hexec) key
          · rw [harray]
            exact h.distinct_update (hg hexec)
          · rw [hprog, List.append_nil, hqueue]
            exact hack

end Steps

/-- **The memory refines a map**: along a run every call answers as the map of the acknowledged
updates, and acknowledges what it has stored, if and only if in every step an insertion is executed
for a key that is not held, while an entry is free. -/
theorem toecam_refines_iff (request : CamSessionLookupRequest) (update : CamSessionUpdateRequest)
    (ls : List CamLabel) :
    Clocked.Along camNext CamCorrect (camStart request update) ls ↔
      Clocked.Along camNext CamGuard (camStart request update) ls :=
  Clocked.along_iff (fun _ l h => (camNext_correct_iff h l).1)
    (fun _ l h hg => (camNext_correct_iff h l).2 hg) (camStart_inv request update)

/-! ### Sequences of requests that fail -/

def camKey (n : TcpPort) : FourTuple := ⟨0, 0, n, 0⟩

def camStart0 : CamSys := camStart ⟨camKey 0, .fromRXe⟩ ⟨camKey 0, 0, .fromRXe, .insert⟩

/-- The updates arrive and are executed. -/
def camUpdates (us : List CamSessionUpdateRequest) : List CamLabel :=
  us.flatMap fun u => [.update u, .call, .call]

def camIns (n : TcpPort) (value : RtlSessId) : CamSessionUpdateRequest :=
  ⟨camKey n, value, .fromRXe, .insert⟩

/-- A key that is inserted twice and deleted is still found. And when nine keys are inserted, the
last insertion is acknowledged although it was not stored. -/
theorem toecam_not_a_map :
    ¬Clocked.Along camNext CamCorrect camStart0
      (List.replicate 100 .call ++
        camUpdates [camIns 7 1, camIns 7 2, { camIns 7 2 with op := .delete }] ++
        [.lookup ⟨camKey 7, .fromRXe⟩, .call, .call]) ∧
    ¬Clocked.Along camNext CamCorrect camStart0
      (List.replicate 100 .call ++
        camUpdates ((List.range 9).map fun n => camIns (BitVec.ofNat 16 n) 0)) := by
  constructor
  · intro h
    have hcall := ((Clocked.along_append camNext).mp h).2.2.2.1
    exact absurd (hcall.lookup ⟨2, .fromRXe, true⟩ (by decide +kernel)) (by decide +kernel)
  · intro h
    rw [show camUpdates ((List.range 9).map fun n => camIns (BitVec.ofNat 16 n) 0) =
      camUpdates ((List.range 8).map fun n => camIns (BitVec.ofNat 16 n) 0) ++
        camUpdates [camIns 8 0] from rfl, ← List.append_assoc] at h
    have hcall := ((Clocked.along_append camNext).mp h).2.2.2.1
    exact absurd (hcall.stored ⟨0, .fromRXe, .insert⟩ (by decide +kernel) rfl).1
      (by decide +kernel)

end CloudFpga.ToeCam
