import CloudFpga.Fmc.Response

/-!
The classification of the requests to the FMC.

* `Request`, `requestOf`: the five operations and the grammar of their requests.
* `Classified`: the parser agrees with the grammar on a buffer. `ReadsRight`: the buffers on which it
  does; `classified_iff`.
* `parseHttpInput_inside`: the calls that do not leave the buffer.
-/

namespace CloudFpga.Fmc.Http

open Nal

/-! ### The grammar -/

/-- An operation. Ranks and sizes are below `MAX_CLUSTER_SIZE`. -/
inductive Request where
  | getStatus | postConfig
  | putRank (rank : Fin maxMrtSize)
  | putSize (size : Fin maxMrtSize)
  | postRouting
  deriving DecidableEq

/-- The result of `extract_path`. -/
def Request.code : Request → ℤ
  | .getStatus => 1
  | .postConfig => 2
  | .putRank _ => 3
  | .putSize _ => 4
  | .postRouting => 5

/-- The registers behind a request with a header of length `k`. -/
def Request.apply (k : ℕ) (r : PathRegs) : Request → PathRegs
  | .getStatus => { r with reqType := .getStatus }
  | .postConfig => { r with reqType := .postConfig, bufferInPtrNextRead := k + 4 }
  | .putRank n =>
      { r with
        reqType := .putRank
        nodeRank := BitVec.ofNat 32 n
        needToUpdateNrcConfig := true }
  | .putSize n => { r with reqType := .putSize, clusterSize := BitVec.ofNat 32 n }
  | .postRouting => { r with reqType := .postRouting, bufferInPtrNextRead := k + 4 }

def IsDigit (c : Byte) : Prop := 0x30 ≤ c.toNat ∧ c.toNat ≤ 0x39

instance (c : Byte) : Decidable (IsDigit c) := inferInstanceAs (Decidable (_ ∧ _))

/-- The value of a decimal number. -/
def decimalValue (ds : List Byte) : ℕ := ds.foldl (fun n c => n * 10 + (c.toNat - 0x30)) 0

/-- The word behind a path, up to the next space. -/
def wordBehind (path b : List Byte) : List Byte := (b.drop path.length).takeWhile fun c => c ≠ 0x20

/-- A word is a parameter: a space ends it, it has digits only, and at least one, and its value is in
range. -/
structure IsParameter (path b : List Byte) : Prop where
  space : (0x20 : Byte) ∈ b.drop path.length
  nonempty : wordBehind path b ≠ []
  digits : ∀ c ∈ wordBehind path b, IsDigit c
  range : decimalValue (wordBehind path b) < maxMrtSize

instance (path b : List Byte) : Decidable (IsParameter path b) :=
  decidable_of_iff
    ((0x20 : Byte) ∈ b.drop path.length ∧ wordBehind path b ≠ [] ∧
      (∀ c ∈ wordBehind path b, IsDigit c) ∧ decimalValue (wordBehind path b) < maxMrtSize)
    ⟨fun ⟨h₁, h₂, h₃, h₄⟩ => ⟨h₁, h₂, h₃, h₄⟩, fun ⟨h₁, h₂, h₃, h₄⟩ => ⟨h₁, h₂, h₃, h₄⟩⟩

/-- The parameter of a `PUT` request. -/
def parameterOf (path b : List Byte) : Option (Fin maxMrtSize) :=
  if h : IsParameter path b then some ⟨decimalValue (wordBehind path b), h.range⟩ else none

/-- The request of a buffer: it starts with the text of a path, has a valid parameter if the path
wants one, and its header is complete. -/
def requestOf (b : List Byte) : Option Request :=
  if headerEnd b = none then none
  else
    match reqTypeOf b with
    | .getStatus => some .getStatus
    | .postConfig => some .postConfig
    | .putRank => (parameterOf putRank b).map .putRank
    | .putSize => (parameterOf putSize b).map .putSize
    | .postRouting => some .postRouting
    | .invalid => none

/-- The request is refused, and the rank, the size and the read pointer are left alone. -/
structure Refused (r : PathRegs) (res : ℤ × PathRegs) : Prop where
  code : res.1 = -1 ∨ res.1 = -2 ∨ res.1 = -3
  nodeRank : res.2.nodeRank = r.nodeRank
  clusterSize : res.2.clusterSize = r.clusterSize
  bufferInPtrNextRead : res.2.bufferInPtrNextRead = r.bufferInPtrNextRead

/-- The parser agrees with the grammar: a request has its own code and effect, and anything else is
refused. -/
def Classified (b : List Byte) (rxDone : Bool) (r : PathRegs) : Prop :=
  ∃ res, extractPath b rxDone r = some res ∧
    match requestOf b with
    | some q => ∃ k, headerEnd b = some k ∧ res = (q.code, q.apply k r)
    | none => Refused r res

/-- The number that `my_atoi` makes of the word behind a path. -/
def atoiBehind (path b : List Byte) : Word :=
  myAtoi (wordBehind path b) (wordBehind path b).length

/-- The buffers on which the parser agrees with the grammar: it stays inside them, they are not empty,
no zero comes in front of the end of the header of a request, and the word of a `PUT` request is a
parameter or `my_atoi` makes a number of it that is out of range. -/
structure ReadsRight (b : List Byte) : Prop where
  inside : StaysInside b
  text : textLen b ≠ 0
  header : requestOf b ≠ none → ∃ i < textLen b, IsHttpNL b i
  rank : putRank <+: b → (∃ i < textLen b, IsHttpNL b i) →
    IsParameter putRank b ∨ maxMrtSize ≤ (atoiBehind putRank b).toNat
  size : putSize <+: b → (∃ i < textLen b, IsHttpNL b i) →
    IsParameter putSize b ∨ maxMrtSize ≤ (atoiBehind putSize b).toNat

/-! ### Numbers -/

/-- One digit. -/
lemma digit_toNat {c : Byte} (h : IsDigit c) :
    c.signExtend 32 - 0x30 = BitVec.ofNat 32 (c.toNat - 0x30) := by
  obtain ⟨hlo, hhi⟩ := h
  have hmsb : c.msb = false := BitVec.msb_eq_false_iff_two_mul_lt.mpr (by omega)
  rw [BitVec.signExtend_eq_setWidth_of_msb_false hmsb]
  apply BitVec.eq_of_toNat_eq
  rw [BitVec.toNat_sub, BitVec.toNat_setWidth, BitVec.toNat_ofNat]
  have h30 : (0x30 : BitVec 32).toNat = 48 := rfl
  rw [h30]
  omega

/-- A decimal number modulo `2 ^ 32`. -/
lemma myAtoi_digits {ds : List Byte} (h : ∀ c ∈ ds, IsDigit c) :
    myAtoi ds ds.length = BitVec.ofNat 32 (decimalValue ds) := by
  rw [myAtoi, List.take_length, decimalValue]
  have hfold : ∀ n : ℕ, ds.foldl (fun res c => res * 10 + (c.signExtend 32 - 0x30))
      (BitVec.ofNat 32 n) =
        BitVec.ofNat 32 (ds.foldl (fun n c => n * 10 + (c.toNat - 0x30)) n) := by
    induction ds with
    | nil => exact fun n => rfl
    | cons c ds ih =>
        intro n
        rw [List.foldl_cons, List.foldl_cons, digit_toNat (h c List.mem_cons_self),
          show BitVec.ofNat 32 n * 10 + BitVec.ofNat 32 (c.toNat - 0x30) =
            BitVec.ofNat 32 (n * 10 + (c.toNat - 0x30)) by
              rw [BitVec.ofNat_add, BitVec.ofNat_mul]; rfl]
        exact ih (fun d hd => h d (List.mem_cons_of_mem _ hd)) _
  exact hfold 0

/-- The word behind a path is what `my_wordlen` measures. -/
lemma putParameter_eq {path b : List Byte} (h : (0x20 : Byte) ∈ b.drop path.length) :
    putParameter path b = some (atoiBehind path b) := by
  have hlen : myWordlen (b.drop path.length) =
      some ((b.drop path.length).findIdx fun c => c = 0x20) :=
    List.findIdx?_eq_some_of_exists ⟨0x20, h, by decide⟩
  have hword : wordBehind path b =
      (b.drop path.length).take ((b.drop path.length).findIdx fun c => c = 0x20) := by
    rw [wordBehind, List.takeWhile_eq_take_findIdx_not]
    congr 2
    funext c
    simp
  rw [putParameter, hlen, Option.map_some, atoiBehind, myAtoi, myAtoi, List.take_length, hword]

lemma atoiBehind_parameter {path b : List Byte} (h : IsParameter path b) :
    atoiBehind path b = BitVec.ofNat 32 (decimalValue (wordBehind path b)) ∧
      (atoiBehind path b).toNat < maxMrtSize := by
  have hatoi : atoiBehind path b = _ := myAtoi_digits h.digits
  refine ⟨hatoi, ?_⟩
  rw [hatoi, BitVec.toNat_ofNat]
  exact lt_of_le_of_lt (Nat.mod_le _ _) h.range

/-! ### The parser and the grammar -/

section Agreement

variable {b : List Byte} {k : ℕ}

lemma headerEnd_of_headerLen (h : headerLen b = some k) : headerEnd b = some k :=
  (headerLen_eq_some.mp h).1

/-- A buffer that starts with a zero holds no request. -/
lemma requestOf_empty (hz : (0 : Byte) ∈ b) (h : textLen b = 0) : requestOf b = none := by
  have hzero : b[0]? = some 0 := by
    cases b with
    | nil => exact absurd hz List.not_mem_nil
    | cons c b =>
        rw [textLen, List.findIdx_cons] at h
        by_cases hc : c = 0
        · rw [hc]; rfl
        · rw [decide_eq_false hc] at h
          exact absurd h (by simp)
  have hinv : reqTypeOf b = .invalid := by
    by_contra hne
    obtain ⟨s, hs⟩ := reqTypeOf_path b
    rw [← hs] at hzero
    cases ht : reqTypeOf b with
    | invalid => exact hne ht
    | _ =>
        rw [ht, List.getElem?_append_left (by decide +kernel)] at hzero
        exact absurd hzero (by decide +kernel)
  rw [requestOf, hinv]
  exact ite_self _

lemma classified_some {rxDone : Bool} {r : PathRegs} {q : Request} (hq : requestOf b = some q)
    (hend : headerEnd b = some k) :
    Classified b rxDone r ↔ extractPath b rxDone r = some (q.code, q.apply k r) := by
  rw [Classified, hq]
  constructor
  · rintro ⟨res, hx, k', hk, hres⟩
    obtain rfl : k = k' := Option.some.inj (hend.symm.trans hk)
    rw [hx, hres]
  · intro h
    exact ⟨_, h, k, hend, rfl⟩

lemma classified_none {rxDone : Bool} {r : PathRegs} (hq : requestOf b = none) :
    Classified b rxDone r ↔ ∃ res, extractPath b rxDone r = some res ∧ Refused r res := by
  rw [Classified, hq]

/-- A `PUT` request with a complete header: the word ends, and it is a parameter or `my_atoi` makes a
number of it that is out of range. -/
lemma classified_put {rxDone : Bool} {r : PathRegs} {path : List Byte}
    {mk : Fin maxMrtSize → Request} {store : Word → ℤ × PathRegs}
    (hx : extractPath b rxDone r = (putParameter path b).map store)
    (hq : requestOf b = (parameterOf path b).map mk) (hend : headerEnd b = some k)
    (hset : ∀ n, ∀ h : n < maxMrtSize,
      store (BitVec.ofNat 32 n) = ((mk ⟨n, h⟩).code, (mk ⟨n, h⟩).apply k r))
    (hbig : ∀ n : Word, Refused r (store n) ↔ maxMrtSize ≤ n.toNat) :
    Classified b rxDone r ↔
      (0x20 : Byte) ∈ b.drop path.length ∧
        (IsParameter path b ∨ maxMrtSize ≤ (atoiBehind path b).toNat) := by
  by_cases hspace : (0x20 : Byte) ∈ b.drop path.length
  · rw [putParameter_eq hspace, Option.map_some] at hx
    by_cases hpar : IsParameter path b
    · rw [parameterOf, dif_pos hpar] at hq
      refine iff_of_true ((classified_some hq hend).mpr ?_) ⟨hspace, .inl hpar⟩
      rw [hx, (atoiBehind_parameter hpar).1, hset]
    · rw [parameterOf, dif_neg hpar] at hq
      rw [classified_none hq, hx]
      constructor
      · rintro ⟨res, hres, href⟩
        obtain rfl := Option.some.inj hres
        exact ⟨hspace, .inr ((hbig _).mp href)⟩
      · rintro ⟨-, h | h⟩
        · exact absurd h hpar
        · exact ⟨_, rfl, (hbig _).mpr h⟩
  · have hnone : putParameter path b = none := by
      rw [← Option.not_isSome_iff_eq_none, putParameter_isSome]
      exact hspace
    rw [hnone, Option.map_none] at hx
    refine iff_of_false ?_ fun h => hspace h.1
    rintro ⟨res, hres, -⟩
    exact Option.some_ne_none res (hres.symm.trans hx)

lemma storeRank_refused (r : PathRegs) (n : Word) :
    Refused r (storeRank r n) ↔ maxMrtSize ≤ n.toNat := by
  rw [storeRank]
  split_ifs with h
  · exact iff_of_true ⟨.inr (.inl rfl), rfl, rfl, rfl⟩ h
  · refine iff_of_false (fun href => ?_) h
    have hcode : (3 : ℤ) = -1 ∨ (3 : ℤ) = -2 ∨ (3 : ℤ) = -3 := href.code
    omega

lemma storeSize_refused (r : PathRegs) (n : Word) :
    Refused r (storeSize r n) ↔ maxMrtSize ≤ n.toNat := by
  rw [storeSize]
  split_ifs with h
  · exact iff_of_true ⟨.inr (.inl rfl), rfl, rfl, rfl⟩ h
  · refine iff_of_false (fun href => ?_) h
    have hcode : (4 : ℤ) = -1 ∨ (4 : ℤ) = -2 ∨ (4 : ℤ) = -3 := href.code
    omega

/-- With a complete header only the parameter of a `PUT` request can be misread. -/
lemma classified_complete (hz : (0 : Byte) ∈ b) (h0 : textLen b ≠ 0) (rxDone : Bool) (r : PathRegs)
    (hlen : headerLen b = some (k + 1)) :
    Classified b rxDone r ↔
      (putRank <+: b → (0x20 : Byte) ∈ b.drop putRank.length ∧
        (IsParameter putRank b ∨ maxMrtSize ≤ (atoiBehind putRank b).toNat)) ∧
      (putSize <+: b → (0x20 : Byte) ∈ b.drop putSize.length ∧
        (IsParameter putSize b ∨ maxMrtSize ≤ (atoiBehind putSize b).toNat)) := by
  have hend := headerEnd_of_headerLen hlen
  have hx : extractPath b rxDone r = matchedPath b (k + 1) { r with reqType := .invalid } := by
    rw [extractPath_eq, if_neg (not_not_intro hz), if_neg h0, hlen]
  have hrank := reqTypeOf_eq (b := b) (t := .putRank) (by decide)
  have hsize := reqTypeOf_eq (b := b) (t := .putSize) (by decide)
  dsimp only [ReqType.path] at hrank hsize
  rw [← hrank, ← hsize]
  have hq : requestOf b = match reqTypeOf b with
      | .getStatus => some .getStatus
      | .postConfig => some .postConfig
      | .putRank => (parameterOf putRank b).map .putRank
      | .putSize => (parameterOf putSize b).map .putSize
      | .postRouting => some .postRouting
      | .invalid => none := by
    rw [requestOf, hend, if_neg (Option.some_ne_none _)]
  rw [matchedPath] at hx
  cases ht : reqTypeOf b with
  | putRank =>
      rw [ht] at hx hq
      rw [classified_put hx hq hend (fun n h => ?_) fun n => storeRank_refused r n]
      · exact ⟨fun h => ⟨fun _ => h, by rintro ⟨⟩⟩, fun h => h.1 rfl⟩
      · rw [storeRank, if_neg (by rw [BitVec.toNat_ofNat]; omega)]
        rfl
  | putSize =>
      rw [ht] at hx hq
      rw [classified_put hx hq hend (fun n h => ?_) fun n => storeSize_refused r n]
      · exact ⟨fun h => ⟨by rintro ⟨⟩, fun _ => h⟩, fun h => h.2 rfl⟩
      · rw [storeSize, if_neg (by rw [BitVec.toNat_ofNat]; omega)]
        rfl
  | invalid =>
      rw [ht] at hx hq
      refine iff_of_true ((classified_none hq).mpr ⟨_, hx, ?_⟩) ⟨by rintro ⟨⟩, by rintro ⟨⟩⟩
      exact ⟨.inr (.inr rfl), rfl, rfl, rfl⟩
  | _ =>
      rw [ht] at hx hq
      exact iff_of_true ((classified_some hq hend).mpr hx) ⟨by rintro ⟨⟩, by rintro ⟨⟩⟩

/-- Without a complete header anything is refused. -/
lemma refused_incomplete (b : List Byte) (rxDone : Bool) (r : PathRegs) :
    Refused r (incomplete b rxDone, { r with reqType := .invalid }) := by
  refine ⟨?_, rfl, rfl, rfl⟩
  dsimp only
  rw [incomplete]
  split_ifs
  · exact .inl rfl
  · exact .inr (.inl rfl)

/-- A request is not refused. -/
lemma not_refused (q : Request) (r : PathRegs) : ¬Refused r (q.code, q.apply k r) := by
  intro h
  have hcode := h.code
  cases q <;> simp [Request.code] at hcode

/-- A request whose header is not complete in the text is refused. -/
lemma classified_incomplete {rxDone : Bool} {r : PathRegs}
    (hx : extractPath b rxDone r = some (incomplete b rxDone, { r with reqType := .invalid })) :
    Classified b rxDone r ↔ requestOf b = none := by
  have href := refused_incomplete b rxDone r
  cases hq : requestOf b with
  | none => exact iff_of_true ((classified_none hq).mpr ⟨_, hx, href⟩) rfl
  | some q =>
      refine iff_of_false ?_ nofun
      cases hend : headerEnd b with
      | none =>
          rw [requestOf, if_pos hend] at hq
          cases hq
      | some k =>
          rw [classified_some hq hend, hx]
          intro h
          exact not_refused q r (Option.some.inj h ▸ href)

/-- A text that starts with two line breaks is no request. -/
lemma requestOf_no_path (h : headerLen b = some 0) : requestOf b = none := by
  have hinv : reqTypeOf b = .invalid := by
    by_contra hne
    exact headerLen_pos hne (reqTypeOf_path b) h
  rw [requestOf, hinv]
  exact ite_self _

end Agreement

/-- **The parser agrees with the grammar** on exactly these buffers. -/
theorem classified_iff (b : List Byte) (rxDone : Bool) (r : PathRegs) :
    Classified b rxDone r ↔ ReadsRight b := by
  by_cases hin : StaysInside b
  swap
  · have hnone : extractPath b rxDone r = none := by
      rw [← Option.not_isSome_iff_eq_none, extractPath_isSome]
      exact hin
    refine iff_of_false ?_ fun h => hin h.inside
    rintro ⟨res, hres, -⟩
    exact Option.some_ne_none res (hres.symm.trans hnone)
  have hz := hin.zero
  have hx := extractPath_eq b rxDone r
  rw [if_neg (not_not_intro hz)] at hx
  by_cases h0 : textLen b = 0
  · rw [if_pos h0] at hx
    refine iff_of_false ?_ fun h => h.text h0
    rw [classified_none (requestOf_empty hz h0), hx]
    rintro ⟨res, hres, href⟩
    obtain rfl := Option.some.inj hres
    have hcode : (0 : ℤ) = -1 ∨ (0 : ℤ) = -2 ∨ (0 : ℤ) = -3 := href.code
    omega
  rw [if_neg h0] at hx
  cases hlen : headerLen b with
  | none =>
      have hno : ¬∃ i < textLen b, IsHttpNL b i := by
        rw [exists_headerLen, hlen]
        nofun
      have hroom : ¬b.length < textLen b + 4 := by
        rcases hin.terminator with h | h | h
        · exact absurd h h0
        · exact absurd h hno
        · omega
      rw [hlen] at hx
      dsimp only at hx
      rw [if_neg hroom] at hx
      rw [classified_incomplete hx]
      exact ⟨fun h => ⟨hin, h0, fun hq => absurd h hq, fun _ h => absurd h hno,
        fun _ h => absurd h hno⟩, fun h => by_contra fun hq => hno (h.header hq)⟩
  | some k =>
      have hex : ∃ i < textLen b, IsHttpNL b i := exists_headerLen.mpr ⟨k, hlen⟩
      cases k with
      | zero =>
          rw [hlen] at hx
          rw [classified_incomplete hx]
          refine iff_of_true (requestOf_no_path hlen)
            ⟨hin, h0, fun _ => hex, fun h => ?_, fun h => ?_⟩
          · exact absurd hlen (headerLen_pos (t := .putRank) (by decide) h)
          · exact absurd hlen (headerLen_pos (t := .putSize) (by decide) h)
      | succ k =>
          rw [classified_complete hz h0 rxDone r hlen]
          exact ⟨fun h => ⟨hin, h0, fun _ => hex, fun hp _ => (h.1 hp).2, fun hp _ => (h.2 hp).2⟩,
            fun h => ⟨fun hp => ⟨hin.rank hex hp, h.rank hp hex⟩,
              fun hp => ⟨hin.size hex hp, h.size hp hex⟩⟩⟩

/-- The rank `2 ^ 32 + 3`. -/
def wrappedRank : List Byte := inBuffer (text "PUT /rank/4294967299 HTTP/1.1\r\n\r\n")

/-- It is out of range, but it is stored as 3. -/
theorem not_classified_wrappedRank : ¬Classified wrappedRank true {} := by
  have hq : requestOf wrappedRank = none := by decide +kernel
  have hx : extractPath wrappedRank true {} =
      some (3, { reqType := .putRank, nodeRank := 3, needToUpdateNrcConfig := true }) := by
    decide +kernel
  rw [classified_none hq, hx]
  rintro ⟨res, hres, href⟩
  obtain rfl := Option.some.inj hres
  have hcode : (3 : ℤ) = -1 ∨ (3 : ℤ) = -2 ∨ (3 : ℤ) = -3 := href.code
  omega

/-! ### Reads -/

/-- **A call of `parseHttpInput`** reads no byte behind the buffer if and only if it does not look for
a header or the buffer is one of these. -/
theorem parseHttpInput_inside (d : StatusData) (s : HttpRegs) (k : HttpCall)
    (bufferIn : List Byte) :
    (parseHttpInput d s k bufferIn).isSome ↔
      (s.httpState = .idle ∨ s.httpState = .parseHeader → StaysInside bufferIn) := by
  rw [parseHttpInput]
  cases hs : s.httpState with
  | idle =>
      dsimp only
      rw [Option.isSome_map, extractPath_isSome]
      exact ⟨fun h _ => h, fun h => h (.inl rfl)⟩
  | parseHeader =>
      dsimp only
      rw [Option.isSome_map, extractPath_isSome]
      exact ⟨fun h _ => h, fun h => h (.inr rfl)⟩
  | _ => exact iff_of_true rfl fun h => absurd h (by decide)

/-- A rank without a space behind it. -/
def openRank : List Byte := inBuffer (text "PUT /rank/1\r\n\r\n")

/-- The search for the space leaves the buffer. -/
theorem openRank_leaves :
    ¬(parseHttpInput { version := text "1.20" } {} { rxDone := true } openRank).isSome := by
  decide +kernel

end CloudFpga.Fmc.Http
