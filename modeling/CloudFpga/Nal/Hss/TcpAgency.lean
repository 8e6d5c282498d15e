import CloudFpga.Foundation.Clocked
import CloudFpga.Foundation.FirstMatch
import CloudFpga.Nal.Types

/-!
The table of the TCP sessions of the NAL, `pTcpAgency` of `hss.cpp`.

* `nextRequest`, `agencyServe`, `pTcpAgency`: the request that a call reads, by the priorities of
  the streams, and what it does to the rows.
* `AgencyEvent`, `liveAfter`, `EventOk`: the same as a list of the sessions that were added and not
  deleted since, the last one first.
* `AgencyKept`: the rows hold this list, the marks and the replies are those of it.
* `AgencyOk`: the condition of a call.
* `agency_kept`: in a run whose steps all meet the condition, every state is `AgencyKept`.
-/

namespace CloudFpga.Nal

open Foundation

/-- `MAX_NAL_SESSIONS`. -/
def maxNalSessions : ℕ := toeMaxSessions

/-- A session with its mark and its privilege. -/
structure NalSession where
  sessionId : SessionId
  triple : NalTriple
  toDelete : Bool
  privileged : Bool
  deriving DecidableEq, Repr

/-- What `sessionIdList`, `tripleList`, `rowsToDelete`, `privilegedRows` and `usedRows` have at one
index. -/
structure AgencyRow extends NalSession where
  used : Bool
  deriving DecidableEq, Repr

/-- The row after the initialisation of the tables. -/
def initRow : AgencyRow := ⟨⟨0, 0, false, false⟩, false⟩

/-- What a call served, with its reply, if there is one. -/
inductive AgencyEvent where
  | getTriple (id : SessionId) (rep : NalTriple)
  | getSid (triple : NalTriple) (rep : SessionId)
  | add (e : NalNewTableEntry)
  | delete (id : SessionId)
  | markAsPriv (id : SessionId)
  | markToDel (all : Bool)
  | nextDelRow (rep : Option SessionId)
  deriving DecidableEq, Repr

/-- The tables, the streams of the requests and what was written to the other streams. No step reads
`served`, which has the last event first. -/
structure AgencyState where
  tablesInitialized : Bool := false
  rows : List AgencyRow := List.replicate maxNalSessions initRow
  sGetTripleFromSidReq : List SessionId := []
  sGetSidFromTripleReq : List NalTriple := []
  sAddNewTripleTcpRrh : List NalNewTableEntry := []
  sAddNewTripleTcpCon : List NalNewTableEntry := []
  sDeleteEntryBySid : List SessionId := []
  sMarkAsPriv : List SessionId := []
  sMarkToDelUnpriv : List Bool := []
  sGetNextDelRowReq : List Bool := []
  sGetTripleFromSidRep : List NalTriple := []
  sGetSidFromTripleRep : List SessionId := []
  invalDelSig : List Bool := []
  sGetNextDelRowRep : List SessionId := []
  served : List AgencyEvent := []
  deriving DecidableEq, Repr

/-- Which of the streams that the process writes to have room. -/
structure AgencyCall where
  tripleRepRoom : Bool := true
  sidRepRoom : Bool := true
  invalRoom : Bool := true
  rowRepRoom : Bool := true
  deriving DecidableEq, Repr

inductive AgencyRequest where
  | getTriple (id : SessionId)
  | getSid (triple : NalTriple)
  | add (e : NalNewTableEntry)
  | delete (id : SessionId)
  | markAsPriv (id : SessionId)
  | markToDel (all : Bool)
  | nextDelRow (next : Bool)
  deriving DecidableEq, Repr

/-- The request that a call serves, and the streams after it was read. -/
def nextRequest (s : AgencyState) (k : AgencyCall) : Option (AgencyRequest × AgencyState) :=
  match s.sGetTripleFromSidReq, k.tripleRepRoom with
  | id :: ids, true => some (.getTriple id, { s with sGetTripleFromSidReq := ids })
  | _, _ =>
  match s.sGetSidFromTripleReq, k.sidRepRoom with
  | triple :: triples, true => some (.getSid triple, { s with sGetSidFromTripleReq := triples })
  | _, _ =>
  match s.sAddNewTripleTcpRrh with
  | e :: es => some (.add e, { s with sAddNewTripleTcpRrh := es })
  | [] =>
  match s.sAddNewTripleTcpCon with
  | e :: es => some (.add e, { s with sAddNewTripleTcpCon := es })
  | [] =>
  match s.sDeleteEntryBySid, k.invalRoom with
  | id :: ids, true => some (.delete id, { s with sDeleteEntryBySid := ids })
  | _, _ =>
  match s.sMarkAsPriv with
  | id :: ids => some (.markAsPriv id, { s with sMarkAsPriv := ids })
  | [] =>
  match s.sMarkToDelUnpriv with
  | all :: alls => some (.markToDel all, { s with sMarkToDelUnpriv := alls })
  | [] =>
  match s.sGetNextDelRowReq, k.rowRepRoom with
  | next :: nexts, true => some (.nextDelRow next, { s with sGetNextDelRowReq := nexts })
  | _, _ => none

/-- The row has the session, and it is not marked. -/
def AgencyRow.finds (id : SessionId) (r : AgencyRow) : Bool :=
  r.sessionId = id ∧ r.used = true ∧ r.toDelete = false

/-- The row has the session. -/
def AgencyRow.has (id : SessionId) (r : AgencyRow) : Bool := r.sessionId = id ∧ r.used = true

section Rows

variable (rows : List AgencyRow)

def agencyGetTriple (id : SessionId) : NalTriple :=
  match rows.find? (·.finds id) with
  | some r => r.triple
  | none => unusedTableEntryValue

def agencyGetSid (triple : NalTriple) : SessionId :=
  match rows.find? (fun r => r.triple = triple ∧ r.used = true ∧ r.toDelete = false) with
  | some r => r.sessionId
  | none => unusedSessionEntryValue

/-- A session that is known is skipped. A new one goes to the first free row, whose mark is not
touched. -/
def agencyAdd (e : NalNewTableEntry) : List AgencyRow :=
  match rows.find? (·.finds e.sessId) with
  | some _ => rows
  | none =>
      updateFirst (fun r => !r.used)
        (fun r => { r with
          sessionId := e.sessId, triple := e.newTriple, used := true, privileged := false }) rows

/-- Nor is the mark of a row that becomes free. -/
def agencyDelete (id : SessionId) : List AgencyRow :=
  updateFirst (·.has id) (fun r => { r with used := false, privileged := false }) rows

def agencyMarkAsPriv (id : SessionId) : List AgencyRow :=
  updateFirst (·.has id) (fun r => { r with privileged := true, toDelete := false }) rows

def agencyMarkToDel : List AgencyRow :=
  rows.map fun r => if r.privileged then r else { r with toDelete := r.used }

def agencyNextDelRow : SessionId × List AgencyRow :=
  match rows.find? (·.toDelete) with
  | some r =>
      (r.sessionId, updateFirst (·.toDelete) (fun r => { r with used := false, toDelete := false })
        rows)
  | none => (unusedSessionEntryValue, rows)

end Rows

/-- A request is served. -/
def agencyServe (s : AgencyState) : AgencyRequest → AgencyState
  | .getTriple id =>
      { s with
        sGetTripleFromSidRep := s.sGetTripleFromSidRep ++ [agencyGetTriple s.rows id]
        served := .getTriple id (agencyGetTriple s.rows id) :: s.served }
  | .getSid triple =>
      { s with
        sGetSidFromTripleRep := s.sGetSidFromTripleRep ++ [agencyGetSid s.rows triple]
        served := .getSid triple (agencyGetSid s.rows triple) :: s.served }
  | .add e => { s with rows := agencyAdd s.rows e, served := .add e :: s.served }
  | .delete id =>
      { s with
        rows := agencyDelete s.rows id
        invalDelSig := s.invalDelSig ++ if s.rows.any (·.has id) then [true] else []
        served := .delete id :: s.served }
  | .markAsPriv id =>
      { s with rows := agencyMarkAsPriv s.rows id, served := .markAsPriv id :: s.served }
  | .markToDel all =>
      { s with
        rows := if all then agencyMarkToDel s.rows else s.rows
        served := .markToDel all :: s.served }
  | .nextDelRow next =>
      if next then
        { s with
          rows := (agencyNextDelRow s.rows).2
          sGetNextDelRowRep := s.sGetNextDelRowRep ++ [(agencyNextDelRow s.rows).1]
          served := .nextDelRow (some (agencyNextDelRow s.rows).1) :: s.served }
      else { s with served := .nextDelRow none :: s.served }

/-- One call. The first one initialises the tables. -/
def pTcpAgency (s : AgencyState) (k : AgencyCall) : AgencyState :=
  if s.tablesInitialized then
    match nextRequest s k with
    | some (req, s') => agencyServe s' req
    | none => s
  else { s with tablesInitialized := true, rows := s.rows.map fun _ => initRow }

/-- A request arrives in one of the streams, or the process is called. -/
inductive AgencyStep where
  | getTriple (id : SessionId)
  | getSid (triple : NalTriple)
  | addRrh (e : NalNewTableEntry)
  | addCon (e : NalNewTableEntry)
  | delete (id : SessionId)
  | markAsPriv (id : SessionId)
  | markToDel (all : Bool)
  | nextDelRow (next : Bool)
  | call (k : AgencyCall)
  deriving DecidableEq, Repr

def agencyNext (s : AgencyState) : AgencyStep → AgencyState
  | .getTriple id => { s with sGetTripleFromSidReq := s.sGetTripleFromSidReq ++ [id] }
  | .getSid triple => { s with sGetSidFromTripleReq := s.sGetSidFromTripleReq ++ [triple] }
  | .addRrh e => { s with sAddNewTripleTcpRrh := s.sAddNewTripleTcpRrh ++ [e] }
  | .addCon e => { s with sAddNewTripleTcpCon := s.sAddNewTripleTcpCon ++ [e] }
  | .delete id => { s with sDeleteEntryBySid := s.sDeleteEntryBySid ++ [id] }
  | .markAsPriv id => { s with sMarkAsPriv := s.sMarkAsPriv ++ [id] }
  | .markToDel all => { s with sMarkToDelUnpriv := s.sMarkToDelUnpriv ++ [all] }
  | .nextDelRow next => { s with sGetNextDelRowReq := s.sGetNextDelRowReq ++ [next] }
  | .call k => pTcpAgency s k

/-! ### The sessions that were added and not deleted since -/

/-- What an event does to the list of sessions, which has the last one first. -/
def liveAfter (l : List NalSession) : AgencyEvent → List NalSession
  | .add e =>
      if l.any (fun x => x.sessionId = e.sessId ∧ x.triple = e.newTriple) then l
      else ⟨e.sessId, e.newTriple, false, false⟩ :: l
  | .delete id => l.filter (·.sessionId ≠ id)
  | .markAsPriv id =>
      l.map fun x => if x.sessionId = id then { x with privileged := true, toDelete := false } else x
  | .markToDel all =>
      if all then l.map fun x => if x.privileged then x else { x with toDelete := true } else l
  | .nextDelRow (some rep) =>
      if l.any (·.toDelete) then l.filter (·.sessionId ≠ rep) else l
  | .nextDelRow none => l
  | .getTriple _ _ => l
  | .getSid _ _ => l

/-- The sessions after the events. -/
def liveSessions : List AgencyEvent → List NalSession
  | [] => []
  | e :: es => liveAfter (liveSessions es) e

/-- A lookup returns what was added last with the key, and the iterator a session that is marked. -/
def EventOk (l : List NalSession) : AgencyEvent → Prop
  | .getTriple id rep =>
      rep = ((l.find? (·.sessionId = id)).map (·.triple)).getD unusedTableEntryValue
  | .getSid triple rep =>
      rep = ((l.find? (·.triple = triple)).map (·.sessionId)).getD unusedSessionEntryValue
  | .nextDelRow (some rep) =>
      (∃ x ∈ l, x.toDelete = true ∧ x.sessionId = rep) ∨
        (∀ x ∈ l, x.toDelete = false) ∧ rep = unusedSessionEntryValue
  | _ => True

instance (l : List NalSession) : (e : AgencyEvent) → Decidable (EventOk l e)
  | .getTriple _ _ | .getSid _ _ => inferInstanceAs (Decidable (_ = _))
  | .nextDelRow (some _) => inferInstanceAs (Decidable (_ ∨ _))
  | .nextDelRow none | .add _ | .delete _ | .markAsPriv _ | .markToDel _ => isTrue trivial

/-- All events are as they have to be. -/
def EventsOk : List AgencyEvent → Prop
  | [] => True
  | e :: es => EventOk (liveSessions es) e ∧ EventsOk es

/-- The sessions of the table. -/
def tableOf (rows : List AgencyRow) : List NalSession :=
  (rows.filter (·.used)).map AgencyRow.toNalSession

/-- What the iterator returns for `n` requests in a row. -/
def iterateRows : ℕ → List AgencyRow → List SessionId
  | 0, _ => []
  | n + 1, rows => (agencyNextDelRow rows).1 :: iterateRows n (agencyNextDelRow rows).2

/-- No two used rows have the same session. A marked row is used and not privileged. The table has
the sessions that were added and not deleted since, with their marks; a session that is new has
none. The replies are those of this list. The iterator returns the marked rows, each once. -/
structure AgencyKept (s : AgencyState) : Prop where
  ids : s.rows.Pairwise fun r q => r.used = true → q.used = true → r.sessionId ≠ q.sessionId
  marks : ∀ r ∈ s.rows, r.toDelete = true → r.used = true ∧ r.privileged = false
  table : (tableOf s.rows).Perm (liveSessions s.served)
  replies : EventsOk s.served
  iterates : iterateRows ((s.rows.filter (·.toDelete)).length + 1) s.rows
    = (s.rows.filter (·.toDelete)).map (·.sessionId) ++ [unusedSessionEntryValue]

/-- The condition of a request. No lookup is for a session that is marked. A session that is added
is new and so is its triple, and there is a row for it; or the same entry is there and is not
marked. No session is deleted while it is marked. -/
def AgencyRequestOk (rows : List AgencyRow) : AgencyRequest → Prop
  | .getTriple id => ∀ r ∈ rows, r.used = true → r.toDelete = true → r.sessionId ≠ id
  | .getSid triple => ∀ r ∈ rows, r.used = true → r.toDelete = true → r.triple ≠ triple
  | .add e =>
      (∃ r ∈ rows, r.finds e.sessId = true ∧ r.triple = e.newTriple) ∨
        (∃ r ∈ rows, r.used = false) ∧
          ∀ r ∈ rows, r.used = true → r.sessionId ≠ e.sessId ∧ r.triple ≠ e.newTriple
  | .delete id => ∀ r ∈ rows, r.used = true → r.toDelete = true → r.sessionId ≠ id
  | _ => True

instance (rows : List AgencyRow) : (req : AgencyRequest) → Decidable (AgencyRequestOk rows req)
  | .getTriple id => inferInstanceAs (Decidable (∀ r ∈ rows, _ → _ → r.sessionId ≠ id))
  | .getSid triple => inferInstanceAs (Decidable (∀ r ∈ rows, _ → _ → r.triple ≠ triple))
  | .add _ => inferInstanceAs (Decidable (_ ∨ _))
  | .delete id => inferInstanceAs (Decidable (∀ r ∈ rows, _ → _ → r.sessionId ≠ id))
  | .markAsPriv _ | .markToDel _ | .nextDelRow _ => isTrue trivial

/-- The condition of a step. -/
def AgencyOk (s : AgencyState) : AgencyStep → Prop
  | .call k => s.tablesInitialized = true →
      ((nextRequest s k).map fun q => AgencyRequestOk s.rows q.1).getD True
  | _ => True

/-! ### The table and the list -/

section Table

variable {rows l₁ l₂ : List AgencyRow} {L : List NalSession} {a : AgencyRow}

lemma mem_tableOf {x : NalSession} :
    x ∈ tableOf rows ↔ ∃ r ∈ rows, r.used = true ∧ r.toNalSession = x := by
  simp only [tableOf, List.mem_map, List.mem_filter, and_assoc]

lemma tableOf_append : tableOf (l₁ ++ l₂) = tableOf l₁ ++ tableOf l₂ := by
  rw [tableOf, List.filter_append, List.map_append]
  rfl

lemma tableOf_cons_of_used (h : a.used = true) :
    tableOf (a :: l₂) = a.toNalSession :: tableOf l₂ := by
  rw [tableOf, List.filter_cons_of_pos (by simpa using h)]
  rfl

lemma tableOf_cons_of_free (h : a.used = false) : tableOf (a :: l₂) = tableOf l₂ := by
  rw [tableOf, List.filter_cons_of_neg (by simp [h])]
  rfl

/-- The rows hold the list. -/
structure RowsInv (rows : List AgencyRow) (L : List NalSession) : Prop where
  table : (tableOf rows).Perm L
  ids : (L.map (·.sessionId)).Nodup
  triples : (L.map (·.triple)).Nodup
  marks : ∀ r ∈ rows, r.toDelete = true → r.used = true ∧ r.privileged = false

lemma RowsInv.mem (h : RowsInv rows L) {x : NalSession} :
    x ∈ L ↔ ∃ r ∈ rows, r.used = true ∧ r.toNalSession = x := by
  rw [← h.table.mem_iff, mem_tableOf]

/-- The list has a used row. -/
lemma RowsInv.mem_of_used (h : RowsInv rows L) (ha : a ∈ rows) (hused : a.used = true) :
    a.toNalSession ∈ L :=
  h.mem.mpr ⟨a, ha, hused, rfl⟩

/-- No two used rows have the same session. -/
lemma RowsInv.pairwise (h : RowsInv rows L) :
    rows.Pairwise fun r q => r.used = true → q.used = true → r.sessionId ≠ q.sessionId := by
  have hnodup : ((tableOf rows).map (·.sessionId)).Nodup :=
    (h.table.map _).nodup_iff.mpr h.ids
  rw [tableOf, List.map_map, List.Nodup, List.pairwise_map, List.pairwise_filter] at hnodup
  exact hnodup

/-- The first row with a key that is not marked holds the session of the list that has this key,
if none with the key is marked. -/
lemma find_row {κ : Type*} [DecidableEq κ] {key : NalSession → κ} {k : κ} (h : RowsInv rows L)
    (hkeys : (L.map key).Nodup)
    (hok : ∀ r ∈ rows, r.used = true → r.toDelete = true → key r.toNalSession ≠ k) :
    (rows.find? fun r => key r.toNalSession = k ∧ r.used = true ∧ r.toDelete = false).map
      AgencyRow.toNalSession = L.find? (key · = k) := by
  cases hfind : rows.find? fun r => key r.toNalSession = k ∧ r.used = true ∧ r.toDelete = false with
  | some r =>
      have hr := List.mem_of_find?_eq_some hfind
      obtain ⟨hkey, hused, -⟩ : key r.toNalSession = k ∧ r.used = true ∧ r.toDelete = false := by
        simpa using List.find?_some hfind
      exact ((find?_key_eq_some_iff hkeys).mpr ⟨h.mem_of_used hr hused, hkey⟩).symm
  | none =>
      symm
      rw [Option.map_none, List.find?_eq_none]
      intro x hx hkey
      obtain ⟨r, hr, hused, rfl⟩ := h.mem.mp hx
      have hkey' : key r.toNalSession = k := by simpa using hkey
      have hmark : r.toDelete = false := by
        by_contra hmark
        exact hok r hr hused (by simpa using hmark) hkey'
      exact List.find?_eq_none.mp hfind r hr (by simp [hkey', hused, hmark])

lemma agencyGetTriple_eq {id : SessionId} (h : RowsInv rows L)
    (hok : AgencyRequestOk rows (.getTriple id)) :
    agencyGetTriple rows id
      = ((L.find? (·.sessionId = id)).map (·.triple)).getD unusedTableEntryValue := by
  have hfind : (rows.find? (·.finds id)).map AgencyRow.toNalSession = L.find? (·.sessionId = id) :=
    find_row h h.ids hok
  rw [← hfind, agencyGetTriple]
  cases rows.find? (·.finds id) <;> rfl

lemma agencyGetSid_eq {triple : NalTriple} (h : RowsInv rows L)
    (hok : AgencyRequestOk rows (.getSid triple)) :
    agencyGetSid rows triple
      = ((L.find? (·.triple = triple)).map (·.sessionId)).getD unusedSessionEntryValue := by
  rw [← find_row h h.triples hok, agencyGetSid]
  cases rows.find? fun r => r.triple = triple ∧ r.used = true ∧ r.toDelete = false <;> rfl

/-- The marks after an update. -/
lemma marks_update (hmarks : ∀ r ∈ l₁ ++ a :: l₂, r.toDelete = true →
      r.used = true ∧ r.privileged = false) {b : AgencyRow}
    (hb : b.toDelete = true → b.used = true ∧ b.privileged = false) :
    ∀ r ∈ l₁ ++ b :: l₂, r.toDelete = true → r.used = true ∧ r.privileged = false := by
  intro r hr
  obtain hr | hr := List.mem_append.mp hr
  · exact hmarks r (List.mem_append_left _ hr)
  · obtain rfl | hr := List.mem_cons.mp hr
    · exact hb
    · exact hmarks r (List.mem_append_right _ (List.mem_cons_of_mem _ hr))

/-- A new session is in the table, without a mark. -/
lemma RowsInv.add (h : RowsInv rows L) {e : NalNewTableEntry} (hok : AgencyRequestOk rows (.add e)) :
    RowsInv (agencyAdd rows e) (liveAfter L (.add e)) := by
  rw [agencyAdd, liveAfter]
  rcases hok with ⟨r, hr, hfinds, htriple⟩ | ⟨hfree, hnew⟩
  · -- the entry is known
    obtain ⟨q, hq⟩ := Option.isSome_iff_exists.mp
      (List.find?_isSome (p := (·.finds e.sessId)).mpr ⟨r, hr, hfinds⟩)
    have hfinds' : r.sessionId = e.sessId ∧ r.used = true ∧ r.toDelete = false := by
      simpa [AgencyRow.finds] using hfinds
    have hany : L.any (fun x => x.sessionId = e.sessId ∧ x.triple = e.newTriple) = true :=
      List.any_eq_true.mpr ⟨r.toNalSession, h.mem_of_used hr hfinds'.2.1,
        by simp [hfinds'.1, htriple]⟩
    rw [hq, if_pos hany]
    exact h
  · have hnone : rows.find? (·.finds e.sessId) = none := by
      rw [List.find?_eq_none]
      intro r hr hfinds
      have hfinds' : r.sessionId = e.sessId ∧ r.used = true ∧ r.toDelete = false := by
        simpa [AgencyRow.finds] using hfinds
      exact (hnew r hr hfinds'.2.1).1 hfinds'.1
    have hnew' : ∀ x ∈ L, x.sessionId ≠ e.sessId ∧ x.triple ≠ e.newTriple := by
      intro x hx
      obtain ⟨r, hr, hused, rfl⟩ := h.mem.mp hx
      exact hnew r hr hused
    have hany : ¬L.any (fun x => x.sessionId = e.sessId ∧ x.triple = e.newTriple) = true := by
      rw [List.any_eq_true]
      rintro ⟨x, hx, heq⟩
      have heq' : x.sessionId = e.sessId ∧ x.triple = e.newTriple := by simpa using heq
      exact (hnew' x hx).1 heq'.1
    obtain ⟨r, hr, hunused⟩ := hfree
    obtain ⟨a, ha⟩ := Option.isSome_iff_exists.mp
      (List.find?_isSome (p := fun r : AgencyRow => !r.used).mpr ⟨r, hr, by simp [hunused]⟩)
    have hafree : a.used = false := by simpa using List.find?_some ha
    have hamark : a.toDelete = false := by
      by_contra hmark
      have hused := (h.marks a (List.mem_of_find?_eq_some ha) (by simpa using hmark)).1
      rw [hafree] at hused
      cases hused
    rw [hnone, if_neg hany]
    dsimp only
    have htable := h.table
    obtain ⟨l₁, l₂, rfl, -, -, hupd⟩ := updateFirst_of_find? ha
    rw [hupd]
    refine ⟨?_, ?_, ?_, ?_⟩
    · rw [tableOf_append, tableOf_cons_of_used rfl]
      rw [tableOf_append, tableOf_cons_of_free hafree] at htable
      rw [hamark]
      exact List.perm_middle.trans (htable.cons _)
    · refine List.nodup_cons.mpr ⟨?_, h.ids⟩
      rw [List.mem_map]
      rintro ⟨x, hx, heq⟩
      exact (hnew' x hx).1 heq
    · refine List.nodup_cons.mpr ⟨?_, h.triples⟩
      rw [List.mem_map]
      rintro ⟨x, hx, heq⟩
      exact (hnew' x hx).2 heq
    · refine marks_update h.marks fun hmark => ?_
      rw [hamark] at hmark
      cases hmark

/-- The other rows have other sessions. -/
lemma RowsInv.others (h : RowsInv (l₁ ++ a :: l₂) L) (ha : a.used = true) :
    (a.toNalSession :: (tableOf l₁ ++ tableOf l₂)).Perm L ∧
      ∀ x ∈ tableOf l₁ ++ tableOf l₂, x.sessionId ≠ a.sessionId := by
  have hperm : (a.toNalSession :: (tableOf l₁ ++ tableOf l₂)).Perm L := by
    have htable := h.table
    rw [tableOf_append, tableOf_cons_of_used ha] at htable
    exact List.perm_middle.symm.trans htable
  have hnodup := (hperm.map (·.sessionId)).nodup_iff.mpr h.ids
  rw [List.map_cons, List.nodup_cons] at hnodup
  refine ⟨hperm, fun x hx heq => hnodup.1 ?_⟩
  rw [← heq]
  exact List.mem_map_of_mem hx

lemma nodup_filter {κ : Type*} {key : NalSession → κ} {p : NalSession → Bool}
    (h : (L.map key).Nodup) : ((L.filter p).map key).Nodup :=
  (List.filter_sublist.map key).nodup h

lemma map_eq_self {g : NalSession → NalSession} (h : ∀ x ∈ L, g x = x) : L.map g = L :=
  (List.map_congr_left h).trans (List.map_id L)

/-- A row becomes free. -/
lemma RowsInv.remove (h : RowsInv (l₁ ++ a :: l₂) L) (ha : a.used = true) {b : AgencyRow}
    (hb : b.used = false) (hmark : b.toDelete = false) :
    RowsInv (l₁ ++ b :: l₂) (L.filter (·.sessionId ≠ a.sessionId)) := by
  obtain ⟨hperm, hothers⟩ := h.others ha
  refine ⟨?_, nodup_filter h.ids, nodup_filter h.triples, ?_⟩
  · have hfilter := hperm.filter (·.sessionId ≠ a.sessionId)
    rw [List.filter_cons_of_neg (by simp), List.filter_eq_self.mpr fun x hx => by
      simpa using hothers x hx] at hfilter
    rw [tableOf_append, tableOf_cons_of_free hb]
    exact hfilter
  · refine marks_update h.marks fun hb' => ?_
    rw [hmark] at hb'
    cases hb'

/-- The session of a used row is updated. -/
lemma RowsInv.change (h : RowsInv (l₁ ++ a :: l₂) L) (ha : a.used = true)
    {g : NalSession → NalSession} (hid : ∀ x, (g x).sessionId = x.sessionId)
    (htriple : ∀ x, (g x).triple = x.triple) {b : AgencyRow} (hb : b.used = true)
    (hg : b.toNalSession = g a.toNalSession) (hmark : b.toDelete = true → b.privileged = false) :
    RowsInv (l₁ ++ b :: l₂)
      (L.map fun x => if x.sessionId = a.sessionId then g x else x) := by
  obtain ⟨hperm, hothers⟩ := h.others ha
  have hkeys {κ : Type} {key : NalSession → κ} (hkey : ∀ x, key (g x) = key x) :
      (L.map fun x => if x.sessionId = a.sessionId then g x else x).map key = L.map key := by
    rw [List.map_map]
    refine List.map_congr_left fun x _ => ?_
    rw [Function.comp_apply]
    split
    · exact hkey x
    · rfl
  refine ⟨?_, ?_, ?_, ?_⟩
  · have hmap := hperm.map fun x : NalSession => if x.sessionId = a.sessionId then g x else x
    rw [List.map_cons, if_pos rfl, map_eq_self fun x hx => if_neg (hothers x hx)] at hmap
    rw [tableOf_append, tableOf_cons_of_used hb, hg]
    exact List.perm_middle.trans hmap
  · rw [hkeys hid]
    exact h.ids
  · rw [hkeys htriple]
    exact h.triples
  · exact marks_update h.marks fun hb' => ⟨hb, hmark hb'⟩

/-- A row that is found by its session. -/
lemma RowsInv.find_has {id : SessionId} (h : RowsInv rows L) :
    match rows.find? (·.has id) with
    | some r => r.used = true ∧ r.sessionId = id
    | none => ∀ x ∈ L, x.sessionId ≠ id := by
  split
  · next r hr =>
      have hhas : r.sessionId = id ∧ r.used = true := by
        simpa [AgencyRow.has] using List.find?_some hr
      exact hhas.symm
  · next hnone =>
      intro x hx heq
      obtain ⟨r, hr, hused, rfl⟩ := h.mem.mp hx
      exact List.find?_eq_none.mp hnone r hr (by simp [AgencyRow.has, heq, hused])

lemma RowsInv.delete {id : SessionId} (h : RowsInv rows L) (hok : AgencyRequestOk rows (.delete id)) :
    RowsInv (agencyDelete rows id) (liveAfter L (.delete id)) := by
  have hhas := @RowsInv.find_has _ _ id h
  rw [agencyDelete, liveAfter]
  cases hfind : rows.find? (·.has id) with
  | some r =>
      rw [hfind] at hhas
      obtain ⟨hused, rfl⟩ := hhas
      have hmark : r.toDelete = false := by
        by_contra hmark
        exact hok r (List.mem_of_find?_eq_some hfind) hused (by simpa using hmark) rfl
      obtain ⟨l₁, l₂, rfl, -, -, hupd⟩ := updateFirst_of_find? hfind
      rw [hupd]
      exact h.remove hused rfl hmark
  | none =>
      rw [hfind] at hhas
      rw [updateFirst_of_find?_eq_none hfind, List.filter_eq_self.mpr fun x hx => by
        simpa using hhas x hx]
      exact h

lemma RowsInv.markAsPriv {id : SessionId} (h : RowsInv rows L) :
    RowsInv (agencyMarkAsPriv rows id) (liveAfter L (.markAsPriv id)) := by
  have hhas := @RowsInv.find_has _ _ id h
  rw [agencyMarkAsPriv, liveAfter]
  cases hfind : rows.find? (·.has id) with
  | some r =>
      rw [hfind] at hhas
      obtain ⟨hused, rfl⟩ := hhas
      obtain ⟨l₁, l₂, rfl, -, -, hupd⟩ := updateFirst_of_find? hfind
      rw [hupd]
      refine h.change (g := fun x => { x with privileged := true, toDelete := false }) hused
        (fun _ => rfl) (fun _ => rfl) hused rfl ?_
      intro hmark
      cases hmark
  | none =>
      rw [hfind] at hhas
      rw [updateFirst_of_find?_eq_none hfind, map_eq_self fun x hx => if_neg (hhas x hx)]
      exact h

lemma RowsInv.markToDel (h : RowsInv rows L) :
    RowsInv (agencyMarkToDel rows) (liveAfter L (.markToDel true)) := by
  have hlive : liveAfter L (.markToDel true)
      = L.map fun x => if x.privileged then x else { x with toDelete := true } := rfl
  have hkeys {κ : Type} {key : NalSession → κ}
      (hkey : ∀ x : NalSession, key { x with toDelete := true } = key x) :
      (L.map fun x => if x.privileged then x else { x with toDelete := true }).map key
        = L.map key := by
    rw [List.map_map]
    refine List.map_congr_left fun x _ => ?_
    rw [Function.comp_apply]
    split
    · rfl
    · exact hkey x
  have htable (rows : List AgencyRow) : tableOf (agencyMarkToDel rows)
      = (tableOf rows).map fun x => if x.privileged then x else { x with toDelete := true } := by
    induction rows with
    | nil => rfl
    | cons r rows ih =>
        rw [agencyMarkToDel] at ih ⊢
        rw [List.map_cons]
        by_cases hused : r.used = true
        · rw [tableOf_cons_of_used hused, tableOf_cons_of_used, ih, List.map_cons]
          · congr 1
            split
            · rfl
            · rw [hused]
          · split
            · exact hused
            · exact hused
        · have hfree : r.used = false := by simpa using hused
          rw [tableOf_cons_of_free hfree, tableOf_cons_of_free, ih]
          split
          · exact hfree
          · exact hfree
  rw [hlive]
  refine ⟨?_, ?_, ?_, ?_⟩
  · rw [htable]
    exact h.table.map _
  · rw [hkeys fun _ => rfl]
    exact h.ids
  · rw [hkeys fun _ => rfl]
    exact h.triples
  · intro r hr hmark
    obtain ⟨q, hq, rfl⟩ := List.mem_map.mp hr
    split at hmark
    · next hpriv =>
        rw [if_pos hpriv]
        exact h.marks q hq hmark
    · next hpriv =>
        rw [if_neg hpriv]
        exact ⟨hmark, by simpa using hpriv⟩

/-- The iterator returns a marked session and removes it, or there is none. -/
lemma RowsInv.nextDelRow (h : RowsInv rows L) :
    EventOk L (.nextDelRow (some (agencyNextDelRow rows).1)) ∧
      RowsInv (agencyNextDelRow rows).2
        (liveAfter L (.nextDelRow (some (agencyNextDelRow rows).1))) := by
  rw [agencyNextDelRow, liveAfter]
  cases hfind : rows.find? (·.toDelete) with
  | some r =>
      have hr := List.mem_of_find?_eq_some hfind
      have hmark : r.toDelete = true := by simpa using List.find?_some hfind
      have hused := (h.marks r hr hmark).1
      have hmem := h.mem_of_used hr hused
      have hany : L.any (·.toDelete) = true := List.any_eq_true.mpr ⟨_, hmem, hmark⟩
      rw [if_pos hany]
      refine ⟨.inl ⟨_, hmem, hmark, rfl⟩, ?_⟩
      obtain ⟨l₁, l₂, rfl, -, -, hupd⟩ := updateFirst_of_find? hfind
      dsimp only
      rw [hupd]
      exact h.remove hused rfl rfl
  | none =>
      have hnone : ∀ x ∈ L, x.toDelete = false := by
        intro x hx
        obtain ⟨r, hr, -, rfl⟩ := h.mem.mp hx
        simpa using List.find?_eq_none.mp hfind r hr
      have hany : ¬L.any (·.toDelete) = true := by
        rw [List.any_eq_true]
        rintro ⟨x, hx, hmark⟩
        rw [hnone x hx] at hmark
        cases hmark
      rw [if_neg hany]
      exact ⟨.inr ⟨hnone, rfl⟩, h⟩

end Table

/-- The iterator returns the marked rows in their order, each once, and then none. -/
lemma iterateRows_eq (rows : List AgencyRow) :
    iterateRows ((rows.filter (·.toDelete)).length + 1) rows
      = (rows.filter (·.toDelete)).map (·.sessionId) ++ [unusedSessionEntryValue] := by
  generalize hn : (rows.filter (·.toDelete)).length = n
  induction n generalizing rows with
  | zero =>
      have hempty := List.length_eq_zero_iff.mp hn
      have hfind : rows.find? (·.toDelete) = none := by
        rw [List.find?_eq_none]
        exact List.filter_eq_nil_iff.mp hempty
      rw [hempty, iterateRows, iterateRows, agencyNextDelRow, hfind]
      rfl
  | succ n ih =>
      cases hfind : rows.find? (·.toDelete) with
      | none =>
          have hempty := List.filter_eq_nil_iff.mpr (List.find?_eq_none.mp hfind)
          rw [hempty] at hn
          cases hn
      | some r =>
          obtain ⟨l₁, l₂, rfl, hmark, hl₁, hupd⟩ := updateFirst_of_find? hfind
          have hl₁' : l₁.filter (·.toDelete) = [] :=
            List.filter_eq_nil_iff.mpr fun b hb => by simp [hl₁ b hb]
          have hrest (b : AgencyRow) (hb : b.toDelete = false) :
              (l₁ ++ b :: l₂).filter (·.toDelete) = l₂.filter (·.toDelete) := by
            rw [List.filter_append, hl₁', List.filter_cons_of_neg (by simp [hb])]
            rfl
          have hall : (l₁ ++ r :: l₂).filter (·.toDelete) = r :: l₂.filter (·.toDelete) := by
            rw [List.filter_append, hl₁', List.nil_append]
            exact List.filter_cons_of_pos hmark
          rw [hall, List.length_cons, Nat.add_right_cancel_iff] at hn
          have hnext := ih (l₁ ++ { r with used := false, toDelete := false } :: l₂)
            (by rw [hrest _ rfl, hn])
          rw [hrest _ rfl] at hnext
          rw [iterateRows, agencyNextDelRow, hfind, hall]
          dsimp only
          rw [hupd, hnext]
          rfl

/-! ### The steps -/

/-- The rows hold the sessions, and all replies were right. Before the tables are initialised
nothing is served. -/
structure AgencyInv (s : AgencyState) : Prop where
  rows : RowsInv s.rows (liveSessions s.served)
  replies : EventsOk s.served
  start : s.tablesInitialized = false → s.served = []

/-- **The property from the invariant.** -/
lemma AgencyInv.kept {s : AgencyState} (h : AgencyInv s) : AgencyKept s :=
  ⟨h.rows.pairwise, h.rows.marks, h.rows.table, h.replies, iterateRows_eq s.rows⟩

section Steps

variable {s s' : AgencyState} {k : AgencyCall}

/-- Reading a request changes a stream only. -/
lemma nextRequest_same {req : AgencyRequest} (h : nextRequest s k = some (req, s')) :
    s'.rows = s.rows ∧ s'.served = s.served ∧ s'.tablesInitialized = s.tablesInitialized := by
  rw [nextRequest] at h
  repeat' split at h
  all_goals
    cases h
    try exact ⟨rfl, rfl, rfl⟩

/-- A request is served. -/
lemma AgencyInv.serve (h : AgencyInv s) (hinit : s.tablesInitialized = true) {req : AgencyRequest}
    (hok : AgencyRequestOk s.rows req) : AgencyInv (agencyServe s req) := by
  have hstart {s'' : AgencyState} (hs : s''.tablesInitialized = s.tablesInitialized) :
      s''.tablesInitialized = false → s''.served = [] := by
    intro hfalse
    rw [hs, hinit] at hfalse
    cases hfalse
  cases req with
  | getTriple id => exact ⟨h.rows, ⟨agencyGetTriple_eq h.rows hok, h.replies⟩, hstart rfl⟩
  | getSid triple => exact ⟨h.rows, ⟨agencyGetSid_eq h.rows hok, h.replies⟩, hstart rfl⟩
  | add e => exact ⟨h.rows.add hok, ⟨trivial, h.replies⟩, hstart rfl⟩
  | delete id => exact ⟨h.rows.delete hok, ⟨trivial, h.replies⟩, hstart rfl⟩
  | markAsPriv id => exact ⟨h.rows.markAsPriv, ⟨trivial, h.replies⟩, hstart rfl⟩
  | markToDel all =>
      refine ⟨?_, ⟨trivial, h.replies⟩, hstart rfl⟩
      cases all with
      | true => exact h.rows.markToDel
      | false => exact h.rows
  | nextDelRow next =>
      cases next with
      | true =>
          obtain ⟨hreply, hrows⟩ := h.rows.nextDelRow
          exact ⟨hrows, ⟨hreply, h.replies⟩, hstart rfl⟩
      | false => exact ⟨h.rows, ⟨trivial, h.replies⟩, hstart rfl⟩

lemma rowsInv_init (rows : List AgencyRow) : RowsInv (rows.map fun _ => initRow) [] := by
  refine ⟨?_, List.nodup_nil, List.nodup_nil, ?_⟩
  · have hempty : tableOf (rows.map fun _ => initRow) = [] := by
      rw [tableOf, List.map_eq_nil_iff, List.filter_eq_nil_iff]
      intro r hr
      obtain ⟨q, -, rfl⟩ := List.mem_map.mp hr
      decide
    rw [hempty]
  · intro r hr hmark
    obtain ⟨q, -, rfl⟩ := List.mem_map.mp hr
    cases hmark

/-- One call. -/
lemma AgencyInv.call (h : AgencyInv s) (hok : AgencyOk s (.call k)) : AgencyInv (pTcpAgency s k) := by
  rw [pTcpAgency]
  split
  · next hinit =>
      cases hreq : nextRequest s k with
      | none => exact h
      | some q =>
          obtain ⟨req, s'⟩ := q
          have hreqok := hok hinit
          rw [hreq] at hreqok
          obtain ⟨hrows, hserved, hinit'⟩ := nextRequest_same hreq
          refine AgencyInv.serve ⟨?_, ?_, ?_⟩ (hinit'.trans hinit) ?_
          · rw [hrows, hserved]
            exact h.rows
          · rw [hserved]
            exact h.replies
          · rw [hserved, hinit']
            exact h.start
          · rw [hrows]
            exact hreqok
  · next hinit =>
      have hserved : s.served = [] := h.start (by simpa using hinit)
      refine ⟨?_, h.replies, fun hfalse => by cases hfalse⟩
      dsimp only
      rw [hserved]
      exact rowsInv_init s.rows

/-- One step. -/
lemma AgencyInv.step (h : AgencyInv s) (i : AgencyStep) (hok : AgencyOk s i) :
    AgencyInv (agencyNext s i) := by
  cases i with
  | call k => exact h.call hok
  | getTriple _ | getSid _ | addRrh _ | addCon _ | delete _ | markAsPriv _ | markToDel _
  | nextDelRow _ => exact ⟨h.rows, h.replies, h.start⟩

lemma agencyStart_inv : AgencyInv {} :=
  ⟨rowsInv_init (List.replicate maxNalSessions initRow), trivial, fun _ => rfl⟩

end Steps

/-- In a run whose steps all meet the condition, the table holds the sessions that were added and
not deleted since, with their marks, in every state, and the replies were those of this table. -/
theorem agency_kept (ks : List AgencyStep) (hok : Clocked.Along agencyNext AgencyOk {} ks) :
    AgencyKept (Clocked.run agencyNext {} ks) := by
  have hstep (s : AgencyState) (k : AgencyStep) (hs : AgencyInv s) (hk : AgencyOk s k) :
      AgencyInv (agencyNext s k) := hs.step k hk
  exact (Clocked.run_inv hstep agencyStart_inv hok).kept

instance (s : AgencyState) : (k : AgencyStep) → Decidable (AgencyOk s k)
  | .call k =>
      match h : s.tablesInitialized, hq : nextRequest s k with
      | false, _ => isTrue fun hinit => by rw [h] at hinit; cases hinit
      | true, none => isTrue fun _ => by rw [hq]; trivial
      | true, some (req, s') => decidable_of_iff (AgencyRequestOk s.rows req) (by
          rw [AgencyOk, h, hq]
          exact ⟨fun hr _ => hr, fun hr => hr rfl⟩)
  | .getTriple _ | .getSid _ | .addRrh _ | .addCon _ | .delete _ | .markAsPriv _ | .markToDel _
  | .nextDelRow _ => isTrue trivial

/-- The entries of two sessions. -/
def firstEntry : NalNewTableEntry := ⟨newTriple 0x0A000005 2718 2718, 5⟩

def secondEntry : NalNewTableEntry := ⟨newTriple 0x0A000006 2718 2718, 7⟩

theorem agency_kept_two :
    AgencyKept (Clocked.run agencyNext {}
      [.call {}, .addCon firstEntry, .call {}, .addRrh secondEntry, .call {}, .markAsPriv 7, .call {},
        .getTriple 7, .call {}, .markToDel true, .call {}, .nextDelRow true, .call {},
        .nextDelRow true, .call {}, .getSid secondEntry.newTriple, .call {}, .delete 7, .call {}]) :=
  agency_kept _ (by decide +kernel)

/-- The session 5 is marked, and the TOE closes it before the iterator runs. The session 7, which is
added then, gets its row with the mark. -/
theorem mark_inherited : ¬∀ ks, AgencyKept (Clocked.run agencyNext {} ks) := by
  intro h
  have hkept := h [.call {}, .addCon firstEntry, .call {}, .markToDel true, .call {}, .delete 5,
    .call {}, .addCon secondEntry, .call {}, .nextDelRow true, .call {}]
  exact absurd hkept.replies.1 (by decide +kernel)

end CloudFpga.Nal
