import CloudFpga.Fmc.RoutingTable

/-!
The parser of the requests to the FMC: `my_strlen`, `my_wordlen`, `my_strcmp`, `request_len` and
`extract_path` of `http.cpp`.

The scans have no bound of their own. Here a function that reads behind the last byte of the buffer
has no result.

* `extractPath`: the result of a request and its effect.
* `StaysInside`: the buffers that the parser does not leave; `extractPath_isSome`.
* `requestOf`: the request that a buffer holds, as the grammar has it.
* `Classified`: what `extract_path` does on it.
-/

namespace CloudFpga.Fmc.Http

open Nal

/-- The bytes of a string. -/
def text (s : String) : List Byte := s.toList.map fun c => BitVec.ofNat 8 c.toNat

/-- `IN_BUFFER_SIZE`. -/
def inBufferSize : ℕ := 4096

/-- `bufferIn`, which was emptied before it received these bytes. -/
def inBuffer (received : List Byte) : List Byte :=
  received ++ List.replicate (inBufferSize - received.length) 0

/-- `PAYLOAD_BYTES_PER_PAGE`. -/
def payloadBytesPerPage : ℕ := 126

def statusPath : List Byte := text "GET /status "

def configurePath : List Byte := text "POST /configure "

def putRank : List Byte := text "PUT /rank/"

def putSize : List Byte := text "PUT /size/"

def postRouting : List Byte := text "POST /routing "

/-- Two line breaks. -/
def httpNL : List Byte := text "\r\n\r\n"

/-- `RequestType`. -/
inductive ReqType where
  | invalid | postConfig | getStatus | putRank | putSize | postRouting
  deriving DecidableEq, Repr

/-- The registers that `extract_path` writes. -/
structure PathRegs where
  reqType : ReqType := .invalid
  bufferInPtrNextRead : ℕ := 0
  nodeRank : Word := 0
  clusterSize : Word := 0
  needToUpdateNrcConfig : Bool := false
  deriving DecidableEq

/-! ### The scans -/

/-- `my_strlen`: the bytes in front of the first zero. -/
def myStrlen (s : List Byte) : Option ℕ := s.findIdx? fun c => c = 0

/-- `my_wordlen`: the bytes in front of the next space. -/
def myWordlen (s : List Byte) : Option ℕ := s.findIdx? fun c => c = 0x20

/-- The loop of `my_strcmp`, which compares up to `max_length` bytes. It ends with "equal" at the end
of either string. -/
def myStrcmpLoop (maxLength : ℕ) : ℕ → List Byte → List Byte → Option ℤ
  | _, [], _ => some 0
  | _, _ :: _, [] => none
  | cnt, a :: tmp1, b :: tmp2 =>
      if b = 0 then some 0
      else if a = b then
        if cnt + 1 = maxLength then some 0 else myStrcmpLoop maxLength (cnt + 1) tmp1 tmp2
      else if a < b then some (-1)
      else some 1

/-- `my_strcmp`, with the length of the first string. -/
def myStrcmp (tmp1 tmp2 : List Byte) : Option ℤ := myStrcmpLoop tmp1.length 0 tmp1 tmp2

/-- Two line breaks at an index. -/
def IsHttpNL (b : List Byte) (i : ℕ) : Prop := (b.drop i).take 4 = httpNL

instance (b : List Byte) (i : ℕ) : Decidable (IsHttpNL b i) := inferInstanceAs (Decidable (_ = _))

/-- The loop of `request_len`. The first argument is what `sum` lacks to the maximal length; the four
bytes at `sum` are read before anything is compared. -/
def requestLenLoop (b : List Byte) : ℕ → ℕ → Option ℤ
  | rem, sum =>
      if b.length < sum + 4 then none
      else
        match rem with
        | 0 => some (-1)
        | n + 1 => if IsHttpNL b sum then some sum else requestLenLoop b n (sum + 1)

/-- `request_len`. -/
def requestLen (bufferIn : List Byte) (offset : ℕ) (maxLength : ℤ) : Option ℤ :=
  match bufferIn[offset]? with
  | none => none
  | some c => if c = 0 then some 0 else requestLenLoop (bufferIn.drop offset) maxLength.toNat 0

/-! ### `extract_path` -/

/-- The number behind the path of a `PUT` request. -/
def putParameter (path bufferIn : List Byte) : Option Word :=
  (myWordlen (bufferIn.drop path.length)).map fun intLen =>
    myAtoi (bufferIn.drop path.length) intLen

/-- The paths, which are compared one after the other. `len` is the length of the header. -/
def matchPath (bufferIn : List Byte) (len : ℕ) (r : PathRegs) : Option (ℤ × PathRegs) := do
  let status ← myStrcmp statusPath bufferIn
  if status = 0 then return (1, { r with reqType := .getStatus })
  let configure ← myStrcmp configurePath bufferIn
  if configure = 0 then
    return (2, { r with bufferInPtrNextRead := len + 4, reqType := .postConfig })
  let rank ← myStrcmp putRank bufferIn
  if rank = 0 then
    let newRank ← putParameter putRank bufferIn
    if maxMrtSize ≤ newRank.toNat then return (-2, { r with reqType := .putRank })
    return (3, { r with reqType := .putRank, nodeRank := newRank, needToUpdateNrcConfig := true })
  let size ← myStrcmp putSize bufferIn
  if size = 0 then
    let newSize ← putParameter putSize bufferIn
    if maxMrtSize ≤ newSize.toNat then return (-2, { r with reqType := .putSize })
    return (4, { r with reqType := .putSize, clusterSize := newSize })
  let routing ← myStrcmp postRouting bufferIn
  if routing = 0 then
    return (5, { r with bufferInPtrNextRead := len + 4, reqType := .postRouting })
  return (-3, r)

/-- `extract_path`. -/
def extractPath (bufferIn : List Byte) (rxDone : Bool) (r : PathRegs) :
    Option (ℤ × PathRegs) := do
  let stringlen ← myStrlen bufferIn
  if stringlen = 0 then return (0, r)
  let len ← requestLen bufferIn 0 stringlen
  if len ≤ 0 then
    return (if stringlen = payloadBytesPerPage ∨ rxDone = false then -1 else -2,
      { r with reqType := .invalid })
  matchPath bufferIn len.toNat { r with reqType := .invalid }


/-! ### The scans on a text -/

/-- The text of a buffer: the bytes in front of its first zero. -/
def textLen (b : List Byte) : ℕ := b.findIdx fun c => c = 0

/-- The index of the first two line breaks. -/
def headerEnd (b : List Byte) : Option ℕ := (List.range b.length).find? fun i => IsHttpNL b i

lemma IsHttpNL.length {b : List Byte} {i : ℕ} (h : IsHttpNL b i) : i + 4 ≤ b.length := by
  have hlen := congrArg List.length h
  rw [List.length_take, List.length_drop, show httpNL.length = 4 by decide] at hlen
  omega

lemma httpNL_eq : httpNL = [0x0D, 0x0A, 0x0D, 0x0A] := by decide +kernel

/-- Four bytes, one by one. -/
lemma take_four_eq (s : List Byte) :
    s.take 4 = httpNL ↔ s.getD 0 0 = 0x0D ∧ s.getD 1 0 = 0x0A ∧ s.getD 2 0 = 0x0D ∧
      s.getD 3 0 = 0x0A := by
  rw [httpNL_eq]
  match s with
  | [] => simp
  | [_] => simp
  | [_, _] => simp
  | [_, _, _] => simp
  | _ :: _ :: _ :: _ :: _ => simp

lemma headerEnd_eq_some {b : List Byte} {k : ℕ} :
    headerEnd b = some k ↔ IsHttpNL b k ∧ ∀ j < k, ¬IsHttpNL b j := by
  rw [headerEnd, List.find?_range_eq_some]
  simp only [decide_eq_true_eq, List.mem_range, Bool.not_eq_true', decide_eq_false_iff_not]
  constructor
  · rintro ⟨h, -, hmin⟩
    exact ⟨h, hmin⟩
  · rintro ⟨h, hmin⟩
    exact ⟨h, by have := h.length; omega, hmin⟩

lemma headerEnd_eq_none {b : List Byte} : headerEnd b = none ↔ ∀ i, ¬IsHttpNL b i := by
  rw [headerEnd, List.find?_range_eq_none]
  simp only [Bool.not_eq_true', decide_eq_false_iff_not]
  constructor
  · intro h i hi
    exact h i (by have := hi.length; omega) hi
  · intro h i _
    exact h i

lemma myStrlen_eq_some {b : List Byte} {n : ℕ} :
    myStrlen b = some n ↔ (0 : Byte) ∈ b ∧ textLen b = n := by
  rw [myStrlen, List.findIdx?_eq_some_iff_findIdx_eq, textLen]
  constructor
  · rintro ⟨hlt, rfl⟩
    obtain ⟨x, hx, h0⟩ := List.findIdx_lt_length.mp hlt
    obtain rfl := of_decide_eq_true h0
    exact ⟨hx, rfl⟩
  · rintro ⟨h0, rfl⟩
    exact ⟨List.findIdx_lt_length.mpr ⟨0, h0, by decide⟩, rfl⟩

lemma myStrlen_eq_none {b : List Byte} : myStrlen b = none ↔ (0 : Byte) ∉ b := by
  rw [myStrlen, List.findIdx?_eq_none_iff]
  simp only [decide_eq_false_iff_not]
  exact ⟨fun h h0 => h 0 h0 rfl, fun h x hx h0 => h (h0 ▸ hx)⟩

/-- The loop stops at the first line breaks that are in reach. -/
lemma requestLenLoop_found {b : List Byte} {n sum k : ℕ} (hk : IsHttpNL b k)
    (hmin : ∀ j < k, ¬IsHttpNL b j) (hle : sum ≤ k) (hlt : k < sum + n) :
    requestLenLoop b n sum = some (k : ℤ) := by
  induction n generalizing sum with
  | zero => omega
  | succ n ih =>
      rw [requestLenLoop, if_neg (by have := hk.length; omega)]
      by_cases hs : sum = k
      · subst hs
        exact if_pos hk
      · rw [if_neg (hmin sum (by omega))]
        exact ih (by omega) (by omega)

/-- Without line breaks in reach it reads four bytes more than it may advance. -/
lemma requestLenLoop_missing {b : List Byte} {n sum : ℕ}
    (hmiss : ∀ j < sum + n, ¬IsHttpNL b j) :
    requestLenLoop b n sum = if b.length < sum + n + 4 then none else some (-1) := by
  induction n generalizing sum with
  | zero => rw [requestLenLoop]
  | succ n ih =>
      rw [requestLenLoop]
      by_cases hlen : b.length < sum + 4
      · rw [if_pos hlen, if_pos (by omega)]
      · rw [if_neg hlen, if_neg (hmiss sum (by omega)), ih fun j hj => hmiss j (by omega)]
        exact if_congr (by omega) rfl rfl

/-- The length of the header, if it is complete in the text. -/
def headerLen (b : List Byte) : Option ℕ := (headerEnd b).filter fun k => k < textLen b

lemma headerLen_eq_some {b : List Byte} {k : ℕ} :
    headerLen b = some k ↔ headerEnd b = some k ∧ k < textLen b := by
  rw [headerLen, Option.filter_eq_some_iff, decide_eq_true_eq]

lemma headerLen_eq_none {b : List Byte} :
    headerLen b = none ↔ ∀ i < textLen b, ¬IsHttpNL b i := by
  rw [headerLen, Option.filter_eq_none_iff]
  simp only [decide_eq_true_eq]
  constructor
  · intro h i hi hnl
    cases hend : headerEnd b with
    | none => exact headerEnd_eq_none.mp hend i hnl
    | some k =>
        refine h k hend (lt_of_le_of_lt ?_ hi)
        by_contra hik
        exact (headerEnd_eq_some.mp hend).2 i (by omega) hnl
  · intro h k hk hlt
    exact h k hlt (headerEnd_eq_some.mp hk).1

/-- A text that is not empty starts with a byte that is not zero. -/
lemma head_of_textLen {b : List Byte} (hz : (0 : Byte) ∈ b) (h0 : textLen b ≠ 0) :
    ∃ c, b[0]? = some c ∧ c ≠ 0 := by
  cases b with
  | nil => exact absurd hz List.not_mem_nil
  | cons c b =>
      refine ⟨c, rfl, ?_⟩
      rintro rfl
      exact h0 (by rw [textLen, List.findIdx_cons]; rfl)

/-- The result of `request_len` on a text that is not empty. -/
lemma requestLen_text {b : List Byte} (hz : (0 : Byte) ∈ b) (h0 : textLen b ≠ 0) :
    requestLen b 0 (textLen b) =
      match headerLen b with
      | some k => some (k : ℤ)
      | none => if b.length < textLen b + 4 then none else some (-1) := by
  obtain ⟨c, hc, hc0⟩ := head_of_textLen hz h0
  rw [requestLen, hc]
  dsimp only
  rw [if_neg hc0, List.drop_zero, Int.toNat_natCast]
  cases hlen : headerLen b with
  | some k =>
      obtain ⟨hend, hlt⟩ := headerLen_eq_some.mp hlen
      obtain ⟨hnl, hmin⟩ := headerEnd_eq_some.mp hend
      exact requestLenLoop_found hnl hmin (Nat.zero_le k) (by omega)
  | none =>
      rw [requestLenLoop_missing fun j hj => headerLen_eq_none.mp hlen j (by omega)]
      exact if_congr (by omega) rfl rfl

/-- In front of the line breaks the comparison with a path ends before the text does. -/
lemma myStrcmpLoop_spec {path s : List Byte} {m cnt k : ℕ} (hm : cnt + path.length = m)
    (hpath : (0x0D : Byte) ∉ path) (hk : s[k]? = some 0x0D) (hz : ∀ j < k, s[j]? ≠ some 0) :
    ∃ v, myStrcmpLoop m cnt path s = some v ∧ (v = 0 ↔ path <+: s) := by
  induction path generalizing s cnt k with
  | nil => exact ⟨0, by rw [myStrcmpLoop], by simp⟩
  | cons a path ih =>
      cases s with
      | nil => exact absurd hk (by simp)
      | cons b s =>
          have hb0 : b ≠ 0 := by
            rintro rfl
            cases k with
            | zero => exact absurd (Option.some.inj hk) (by decide)
            | succ k => exact hz 0 (by omega) rfl
          rw [myStrcmpLoop, if_neg hb0]
          by_cases hab : a = b
          · subst hab
            rw [if_pos rfl]
            split_ifs with hlast
            · have hnil : path = [] := by
                rw [List.length_cons] at hm
                exact List.eq_nil_of_length_eq_zero (by omega)
              exact ⟨0, rfl, by simp [hnil]⟩
            · cases k with
              | zero =>
                  have ha : a = 0x0D := by simpa using hk
                  exact absurd (ha ▸ List.mem_cons_self) hpath
              | succ k =>
                  obtain ⟨v, hv, hiff⟩ := @ih s (cnt + 1) k
                    (by rw [List.length_cons] at hm; omega)
                    (fun h => hpath (List.mem_cons_of_mem _ h)) (by simpa using hk)
                    (fun j hj => by simpa using hz (j + 1) (by omega))
                  exact ⟨v, hv, hiff.trans (by simp)⟩
          · rw [if_neg hab]
            have hno : ¬(a :: path) <+: (b :: s) := fun h => hab (List.cons_prefix_cons.mp h).1
            split_ifs
            · exact ⟨-1, rfl, by simp [hno]⟩
            · exact ⟨1, rfl, by simp [hno]⟩

/-! ### The result of `extract_path` -/

/-- The path that a buffer starts with. -/
def reqTypeOf (b : List Byte) : ReqType :=
  if statusPath <+: b then .getStatus
  else if configurePath <+: b then .postConfig
  else if putRank <+: b then .putRank
  else if putSize <+: b then .putSize
  else if postRouting <+: b then .postRouting
  else .invalid

/-- The rank is set, or refused. -/
def storeRank (r : PathRegs) (n : Word) : ℤ × PathRegs :=
  if maxMrtSize ≤ n.toNat then (-2, { r with reqType := .putRank })
  else (3, { r with reqType := .putRank, nodeRank := n, needToUpdateNrcConfig := true })

/-- The size is set, or refused. -/
def storeSize (r : PathRegs) (n : Word) : ℤ × PathRegs :=
  if maxMrtSize ≤ n.toNat then (-2, { r with reqType := .putSize })
  else (4, { r with reqType := .putSize, clusterSize := n })

/-- The result of `matchPath` behind a complete header. -/
def matchedPath (b : List Byte) (len : ℕ) (r : PathRegs) : Option (ℤ × PathRegs) :=
  match reqTypeOf b with
  | .getStatus => some (1, { r with reqType := .getStatus })
  | .postConfig => some (2, { r with bufferInPtrNextRead := len + 4, reqType := .postConfig })
  | .putRank => (putParameter putRank b).map (storeRank r)
  | .putSize => (putParameter putSize b).map (storeSize r)
  | .postRouting => some (5, { r with bufferInPtrNextRead := len + 4, reqType := .postRouting })
  | .invalid => some (-3, r)

/-- The carriage return behind the header. -/
lemma headerLen_cr {b : List Byte} {k : ℕ} (h : headerLen b = some k) : b[k]? = some 0x0D := by
  have hnl := (headerEnd_eq_some.mp (headerLen_eq_some.mp h).1).1
  have h0 : ((b.drop k).take 4)[0]? = httpNL[0]? := congrArg (fun l => l[0]?) hnl
  rw [List.getElem?_take_of_lt (by decide), List.getElem?_drop, Nat.add_zero] at h0
  exact h0.trans (by decide)

lemma headerLen_ne_zero {b : List Byte} {k j : ℕ} (h : headerLen b = some k) (hj : j < k) :
    b[j]? ≠ some 0 := by
  intro hz
  have hlt : j < textLen b := hj.trans (headerLen_eq_some.mp h).2
  obtain ⟨hjl, hget⟩ := List.getElem?_eq_some_iff.mp hz
  exact of_decide_eq_false (List.not_of_lt_findIdx hlt) hget

lemma myStrcmp_spec {path b : List Byte} {k : ℕ} (h : headerLen b = some k)
    (hpath : (0x0D : Byte) ∉ path) :
    ∃ v, myStrcmp path b = some v ∧ (v = 0 ↔ path <+: b) :=
  myStrcmpLoop_spec (Nat.zero_add _) hpath (headerLen_cr h) fun _ hj => headerLen_ne_zero h hj

/-- Behind a complete header the comparisons find the path of the request. -/
lemma matchPath_eq {b : List Byte} {k : ℕ} (h : headerLen b = some k) (len : ℕ) (r : PathRegs) :
    matchPath b len r = matchedPath b len r := by
  obtain ⟨v₁, h₁, i₁⟩ := @myStrcmp_spec statusPath _ _ h (by decide)
  obtain ⟨v₂, h₂, i₂⟩ := @myStrcmp_spec configurePath _ _ h (by decide)
  obtain ⟨v₃, h₃, i₃⟩ := @myStrcmp_spec putRank _ _ h (by decide)
  obtain ⟨v₄, h₄, i₄⟩ := @myStrcmp_spec putSize _ _ h (by decide)
  obtain ⟨v₅, h₅, i₅⟩ := @myStrcmp_spec postRouting _ _ h (by decide)
  rw [matchPath, matchedPath, reqTypeOf, h₁, h₂, h₃, h₄, h₅]
  simp only [Option.bind_eq_bind, Option.bind_some, i₁, i₂, i₃, i₄, i₅]
  split_ifs with c₁ c₂ c₃ c₄ c₅
  · rfl
  · rfl
  · cases putParameter putRank b with
    | none => rfl
    | some n =>
        dsimp only [Option.bind_some, Option.map_some, storeRank]
        split_ifs <;> rfl
  · cases putParameter putSize b with
    | none => rfl
    | some n =>
        dsimp only [Option.bind_some, Option.map_some, storeSize]
        split_ifs <;> rfl
  · rfl
  · rfl

/-- The result of a request without a complete header. -/
def incomplete (b : List Byte) (rxDone : Bool) : ℤ :=
  if textLen b = payloadBytesPerPage ∨ rxDone = false then -1 else -2

/-- `extract_path` in terms of the text and its header. -/
lemma extractPath_eq (b : List Byte) (rxDone : Bool) (r : PathRegs) :
    extractPath b rxDone r =
      if (0 : Byte) ∉ b then none
      else if textLen b = 0 then some (0, r)
      else
        match headerLen b with
        | some (k + 1) => matchedPath b (k + 1) { r with reqType := .invalid }
        | some 0 => some (incomplete b rxDone, { r with reqType := .invalid })
        | none =>
            if b.length < textLen b + 4 then none
            else some (incomplete b rxDone, { r with reqType := .invalid }) := by
  rw [extractPath]
  by_cases hz : (0 : Byte) ∈ b
  · rw [myStrlen_eq_some.mpr ⟨hz, rfl⟩, if_neg (not_not_intro hz)]
    simp only [Option.bind_eq_bind, Option.bind_some]
    by_cases h0 : textLen b = 0
    · rw [if_pos h0, if_pos h0]
      rfl
    · rw [if_neg h0, if_neg h0, requestLen_text hz h0]
      cases hlen : headerLen b with
      | none =>
          dsimp only
          rw [incomplete]
          split_ifs
          · rfl
          · rfl
          · rfl
          · rfl
      | some k =>
          cases k with
          | zero => rfl
          | succ k => exact matchPath_eq hlen (k + 1) _
  · rw [myStrlen_eq_none.mpr hz, if_pos hz]
    rfl

/-! ### Paths -/

def ReqType.path : ReqType → List Byte
  | .getStatus => statusPath
  | .postConfig => configurePath
  | .putRank => Http.putRank
  | .putSize => Http.putSize
  | .postRouting => Http.postRouting
  | .invalid => []

/-- No path is the start of another one. -/
lemma ReqType.path_injective {t u : ReqType} (ht : t ≠ .invalid) (hu : u ≠ .invalid)
    (h : t.path <+: u.path) : t = u := by
  revert h
  cases t <;> cases u <;> first | exact fun _ => rfl | exact absurd rfl ‹_› | decide +kernel

lemma reqTypeOf_path (b : List Byte) : (reqTypeOf b).path <+: b := by
  rw [reqTypeOf]
  split_ifs
  · assumption
  · assumption
  · assumption
  · assumption
  · assumption
  · exact List.nil_prefix

/-- The type of a request is the one whose path it starts with. -/
lemma reqTypeOf_eq {b : List Byte} {t : ReqType} (ht : t ≠ .invalid) :
    reqTypeOf b = t ↔ t.path <+: b := by
  constructor
  · rintro rfl
    exact reqTypeOf_path b
  · intro h
    have hvalid : reqTypeOf b ≠ .invalid := by
      intro hinv
      rw [reqTypeOf] at hinv
      split_ifs at hinv with c₁ c₂ c₃ c₄ c₅
      cases t with
      | invalid => exact absurd rfl ht
      | postConfig => exact absurd h c₂
      | getStatus => exact absurd h c₁
      | putRank => exact absurd h c₃
      | putSize => exact absurd h c₄
      | postRouting => exact absurd h c₅
    rcases List.prefix_or_prefix_of_prefix h (reqTypeOf_path b) with hp | hp
    · exact (ReqType.path_injective ht hvalid hp).symm
    · exact ReqType.path_injective hvalid ht hp

/-! ### The parser inside the buffer -/

/-- The buffers that the parser does not leave: a zero ends the text, the header ends or four bytes
are left behind the text, and a space ends the parameter of a `PUT` request. -/
structure StaysInside (b : List Byte) : Prop where
  zero : (0 : Byte) ∈ b
  terminator : textLen b = 0 ∨ (∃ i < textLen b, IsHttpNL b i) ∨ textLen b + 4 ≤ b.length
  rank : (∃ i < textLen b, IsHttpNL b i) → putRank <+: b → (0x20 : Byte) ∈ b.drop putRank.length
  size : (∃ i < textLen b, IsHttpNL b i) → putSize <+: b → (0x20 : Byte) ∈ b.drop putSize.length

lemma exists_headerLen {b : List Byte} :
    (∃ i < textLen b, IsHttpNL b i) ↔ ∃ k, headerLen b = some k := by
  rw [← Option.isSome_iff_exists, ← not_iff_not, Option.not_isSome_iff_eq_none,
    headerLen_eq_none]
  push Not
  exact Iff.rfl

lemma putParameter_isSome {path b : List Byte} :
    (putParameter path b).isSome ↔ (0x20 : Byte) ∈ b.drop path.length := by
  rw [putParameter, Option.isSome_map, myWordlen, ← not_iff_not, Option.not_isSome_iff_eq_none,
    List.findIdx?_eq_none_iff]
  simp only [decide_eq_false_iff_not]
  exact ⟨fun h h0 => h _ h0 rfl, fun h x hx h0 => h (h0 ▸ hx)⟩

/-- A text that starts with a path does not start with two line breaks. -/
lemma headerLen_pos {b : List Byte} {t : ReqType} (ht : t ≠ .invalid) (h : t.path <+: b) :
    headerLen b ≠ some 0 := by
  intro h0
  have hcr := headerLen_cr h0
  obtain ⟨s, rfl⟩ := h
  cases t with
  | invalid => exact ht rfl
  | _ =>
      rw [List.getElem?_append_left (by decide +kernel)] at hcr
      exact absurd hcr (by decide +kernel)

/-- `matchPath` stays in the buffer if it finds the end of a parameter. -/
lemma matchedPath_isSome {b : List Byte} (len : ℕ) (r : PathRegs) :
    (matchedPath b len r).isSome ↔
      (putRank <+: b → (0x20 : Byte) ∈ b.drop putRank.length) ∧
        (putSize <+: b → (0x20 : Byte) ∈ b.drop putSize.length) := by
  have hrank := reqTypeOf_eq (b := b) (t := .putRank) (by decide)
  have hsize := reqTypeOf_eq (b := b) (t := .putSize) (by decide)
  dsimp only [ReqType.path] at hrank hsize
  rw [← hrank, ← hsize, matchedPath]
  cases reqTypeOf b with
  | putRank => simp [putParameter_isSome]
  | putSize => simp [putParameter_isSome]
  | _ => simp

/-- **The parser stays in the buffer** if and only if the buffer is one of these. -/
lemma extractPath_isSome {b : List Byte} (rxDone : Bool) (r : PathRegs) :
    (extractPath b rxDone r).isSome ↔ StaysInside b := by
  rw [extractPath_eq]
  by_cases hz : (0 : Byte) ∈ b
  · rw [if_neg (not_not_intro hz)]
    by_cases h0 : textLen b = 0
    · rw [if_pos h0]
      have hno : ¬∃ i < textLen b, IsHttpNL b i := fun ⟨i, hi, _⟩ => by omega
      exact iff_of_true rfl ⟨hz, .inl h0, fun h => absurd h hno, fun h => absurd h hno⟩
    · rw [if_neg h0]
      cases hlen : headerLen b with
      | none =>
          have hno : ¬∃ i < textLen b, IsHttpNL b i := by
            rw [exists_headerLen, hlen]
            nofun
          dsimp only
          by_cases hroom : b.length < textLen b + 4
          · rw [if_pos hroom]
            refine iff_of_false nofun fun h => ?_
            rcases h.terminator with h | h | h
            · exact h0 h
            · exact hno h
            · omega
          · rw [if_neg hroom]
            exact iff_of_true rfl
              ⟨hz, .inr (.inr (by omega)), fun h => absurd h hno, fun h => absurd h hno⟩
      | some k =>
          have hex : ∃ i < textLen b, IsHttpNL b i := exists_headerLen.mpr ⟨k, hlen⟩
          cases k with
          | zero =>
              refine iff_of_true rfl ⟨hz, .inr (.inl hex), fun _ h => ?_, fun _ h => ?_⟩
              · exact absurd hlen (headerLen_pos (t := .putRank) (by decide) h)
              · exact absurd hlen (headerLen_pos (t := .putSize) (by decide) h)
          | succ k =>
              dsimp only
              rw [matchedPath_isSome]
              exact ⟨fun h => ⟨hz, .inr (.inl hex), fun _ => h.1, fun _ => h.2⟩,
                fun h => ⟨h.rank hex, h.size hex⟩⟩
  · rw [if_pos hz]
    exact iff_of_false nofun fun h => hz h.zero

end CloudFpga.Fmc.Http
