import CloudFpga.Fmc.Classification
import CloudFpga.Fmc.Rejection

/-!
The upload of a routing table: `OP_BUFFER_TO_ROUTING` on the bodies of the format, which arrive in
parts.

* `TableLine`: a line of the format; `bodyText`: a body.
* `opBufferToRoutingIn`: the operation where it reads no byte that was not received.
* `upload`: the calls of one request.
* `seenLines`: the lines that a call sees; `linesFrom_call`: it reads them and no other byte.
* `tableOf`, `Uploaded`: the request stores its lines; `uploaded_iff`.
-/

namespace CloudFpga.Fmc

open Nal Http

/-! ### The format -/

/-- A line: a decimal rank of the table, a space, four bytes and a newline. -/
structure TableLine where
  digits : List Byte
  addr : List Byte
  nonempty : digits ≠ []
  isDigit : ∀ c ∈ digits, IsDigit c
  range : decimalValue digits < maxMrtSize
  length_addr : addr.length = 4

namespace TableLine

variable (l : TableLine)

def text : List Byte := l.digits ++ 0x20 :: l.addr ++ [0x0A]

def rank : Fin maxMrtSize := ⟨decimalValue l.digits, l.range⟩

/-- The line of the routing table, with the order of the bytes. -/
def line (notToSwap : Bool) : RoutingLine :=
  ⟨BitVec.ofNat 32 (decimalValue l.digits), HttpBuffer.address ⟨l.addr, 0, 0, notToSwap⟩ 0⟩

end TableLine

/-- A body: lines and two line breaks. -/
def bodyText (ls : List TableLine) : List Byte := ls.flatMap TableLine.text ++ httpNL

/-! ### The operation inside the received bytes -/

section Inside

variable (b : HttpBuffer)

/-- The length of the body, if `request_len` reads received bytes only. -/
def bodyLenIn : Option ℤ :=
  requestLen b.bufferIn (b.bufferInPtrNextRead % 2 ^ 16)
    (b.bufferInPtrMaxWrite - b.bufferInPtrNextRead)

/-- The same of `readLine`. -/
def readLineIn (i : ℕ) : Option (Option (RoutingLine × ℕ)) :=
  if (i : ℤ) < b.maxWhile then
    match Http.myWordlen (b.bufferIn.drop i) with
    | none => none
    | some intLen =>
        if b.bufferInPtrMaxWrite < i + intLen + 1 + 4 + 1 then some none
        else if b.bufferIn.length < i + intLen + 1 + 4 then none
        else some (some (⟨myAtoi (b.bufferIn.drop i) intLen, b.address (i + intLen + 1)⟩,
          i + intLen + 1 + 4 + 1))
  else some none

/-- The loop reads received bytes only. -/
def loopInside : ℕ → ℕ → Bool
  | 0, _ => true
  | n + 1, i =>
      match readLineIn b i with
      | none => false
      | some none => true
      | some (some (l, j)) => !decide l.Valid || loopInside n j

/-- The operation, if it reads received bytes only. -/
def opBufferToRoutingIn (disableCtrlLink : Bool) (f : FmcState) : Option FmcState :=
  if disableCtrlLink then some (opBufferToRouting b true f)
  else if (bodyLenIn b).isSome ∧ loopInside b b.maxWhile.toNat b.bufferInPtrNextRead then
    some (opBufferToRouting b false f)
  else none

end Inside

/-- The calls of a request: its header and the number of bytes of its body that are received before
each call. -/
def upload (disableCtrlLink notToSwap : Bool) (pre body : List Byte) :
    FmcState → List ℕ → Option FmcState
  | f, [] => some f
  | f, n :: ns =>
      let received := pre ++ body.take n
      (opBufferToRoutingIn ⟨received, f.bufferInPtrNextRead, received.length - 1, notToSwap⟩
        disableCtrlLink f).bind fun g =>
          if g.lastReturnValue = .notComplete then upload disableCtrlLink notToSwap pre body g ns
          else some g

/-! ### The body length -/

section BodyLength

variable {b : HttpBuffer} {off : ℕ}

/-- Line breaks in the bytes behind an offset. Bytes that were not received are none. -/
lemma isHttpNL_drop (i : ℕ) : b.IsHttpNL (off + i) ↔ Http.IsHttpNL (b.bufferIn.drop off) i := by
  have hbyte : ∀ k, b.byte (off + i + k) = ((b.bufferIn.drop off).drop i).getD k 0 := by
    intro k
    rw [HttpBuffer.byte, List.getD_eq_getElem?_getD, List.getD_eq_getElem?_getD, List.drop_drop,
      List.getElem?_drop]
  rw [Http.IsHttpNL, take_four_eq, ← hbyte 0, ← hbyte 1, ← hbyte 2, ← hbyte 3, Nat.add_zero]
  exact Iff.rfl

/-- The checked length is the length. -/
lemma requestLen_eq {n v : ℤ} (h : Http.requestLen b.bufferIn off n = some v) :
    b.requestLen off n = v := by
  rw [Http.requestLen] at h
  rw [HttpBuffer.requestLen]
  cases hc : b.bufferIn[off]? with
  | none => rw [hc] at h; cases h
  | some c =>
      have hbyte : b.byte off = c := by
        rw [HttpBuffer.byte, List.getD_eq_getElem?_getD, hc, Option.getD_some]
      rw [hc] at h
      dsimp only at h
      rw [hbyte]
      by_cases hc0 : c = 0
      · rw [if_pos hc0] at h ⊢
        exact Option.some.inj h
      · rw [if_neg hc0] at h ⊢
        cases hfind : (List.range n.toNat).find? fun sum => b.IsHttpNL (off + sum) with
        | some k =>
            rw [List.find?_range_eq_some] at hfind
            simp only [decide_eq_true_eq, List.mem_range, Bool.not_eq_true',
              decide_eq_false_iff_not, isHttpNL_drop] at hfind
            obtain ⟨hk, hlt, hmin⟩ := hfind
            rw [requestLenLoop_found hk hmin (Nat.zero_le k) (by omega)] at h
            exact Option.some.inj h
        | none =>
            rw [List.find?_range_eq_none] at hfind
            simp only [Bool.not_eq_true', decide_eq_false_iff_not, isHttpNL_drop] at hfind
            rw [requestLenLoop_missing fun j hj => hfind j (by omega)] at h
            split at h
            · cases h
            · exact Option.some.inj h

end BodyLength

/-! ### The checked line -/

lemma myWordlen_checked {s : List Byte} {k : ℕ} (h : Http.myWordlen s = some k) :
    Fmc.myWordlen s = k := by
  obtain ⟨hlt, rfl⟩ := List.findIdx?_eq_some_iff_findIdx_eq.mp h
  rw [Fmc.myWordlen, List.takeWhile_eq_take_findIdx_not, List.length_take]
  simp only [Bool.not_not, decide_not]
  exact Nat.min_eq_left hlt.le

/-- A line that is read inside the received bytes is the line. -/
lemma readLineIn_eq {b : HttpBuffer} {i : ℕ} {r : Option (RoutingLine × ℕ)}
    (h : readLineIn b i = some r) : b.readLine i = r := by
  rw [readLineIn] at h
  rw [HttpBuffer.readLine]
  by_cases hi : (i : ℤ) < b.maxWhile
  · rw [if_pos hi] at h ⊢
    cases hword : Http.myWordlen (b.bufferIn.drop i) with
    | none => rw [hword] at h; cases h
    | some intLen =>
        rw [hword] at h
        rw [myWordlen_checked hword]
        dsimp only at h
        by_cases hmax : b.bufferInPtrMaxWrite < i + intLen + 1 + 4 + 1
        · rw [if_pos hmax] at h ⊢
          exact Option.some.inj h
        · rw [if_neg hmax] at h ⊢
          split at h
          · cases h
          · exact Option.some.inj h
  · rw [if_neg hi] at h ⊢
    exact Option.some.inj h

/-! ### The first call -/

/-- The buffer of a call. -/
def callBuffer (notToSwap : Bool) (pre received : List Byte) : HttpBuffer :=
  ⟨pre ++ received, pre.length, (pre ++ received).length - 1, notToSwap⟩

section FirstCall

variable {pre received : List Byte} {notToSwap : Bool}

/-- `request_len` finds line breaks that were received, or reads a byte that was not. -/
lemma bodyLenIn_call (hsize : pre.length < inBufferSize) (hbody : ∀ c ∈ received.head?, c ≠ 0) :
    bodyLenIn (callBuffer notToSwap pre received) =
      (headerEnd received).map fun k : ℕ => (k : ℤ) := by
  have hoff : pre.length % 2 ^ 16 = pre.length := Nat.mod_eq_of_lt (by rw [inBufferSize] at hsize; omega)
  rw [bodyLenIn, callBuffer, Http.requestLen]
  dsimp only
  rw [hoff, List.getElem?_append_right le_rfl, Nat.sub_self, List.drop_left]
  cases received with
  | nil => rfl
  | cons c t =>
      have hc : c ≠ 0 := hbody c rfl
      rw [List.getElem?_cons_zero]
      dsimp only
      rw [if_neg hc, List.length_append]
      have hlim : (((pre.length + (c :: t).length - 1 : ℕ) : ℤ) - (pre.length : ℤ)).toNat =
          t.length := by rw [List.length_cons]; omega
      rw [hlim]
      cases hend : headerEnd (c :: t) with
      | some k =>
          obtain ⟨hk, hmin⟩ := headerEnd_eq_some.mp hend
          have hlen := hk.length
          rw [List.length_cons] at hlen
          exact requestLenLoop_found hk hmin (Nat.zero_le k) (by omega)
      | none =>
          rw [requestLenLoop_missing fun j _ => headerEnd_eq_none.mp hend j]
          exact if_pos (by rw [List.length_cons]; omega)

/-- What was received of a line. -/
lemma received_line {front rest : List Byte} {l : TableLine}
    (hr : received <+: front ++ (l.text ++ rest)) {j : ℕ} (hj : j < l.text.length)
    (hlt : front.length + j < received.length) :
    received[front.length + j]? = l.text[j]? := by
  obtain ⟨u, hu⟩ := hr
  rw [← @List.getElem?_append_left _ _ u _ hlt, hu,
    List.getElem?_append_right (Nat.le_add_right ..), Nat.add_sub_cancel_left,
    List.getElem?_append_left hj]

lemma byte_call (j : ℕ) : (callBuffer notToSwap pre received).byte (pre.length + j) =
    received.getD j 0 := by
  rw [HttpBuffer.byte, callBuffer, List.getD_eq_getElem?_getD, List.getD_eq_getElem?_getD,
    List.getElem?_append_right (Nat.le_add_right ..), Nat.add_sub_cancel_left]

lemma length_text (l : TableLine) : l.text.length = l.digits.length + 6 := by
  rw [TableLine.text, List.length_append, List.length_append, List.length_cons, l.length_addr]
  rfl

/-- The head of a line has no line break. -/
lemma text_head (l : TableLine) {j : ℕ} (hj : j ≤ l.digits.length) : l.text[j]? ≠ some 0x0D := by
  rw [TableLine.text, List.append_assoc]
  rcases Nat.lt_or_eq_of_le hj with hlt | rfl
  · rw [List.getElem?_append_left hlt, List.getElem?_eq_getElem hlt]
    intro h
    have hdigit := l.isDigit _ (List.getElem_mem hlt)
    rw [Option.some.inj h] at hdigit
    exact absurd hdigit (by decide)
  · rw [List.getElem?_append_right le_rfl, Nat.sub_self]
    nofun

/-- Line breaks are not among the digits of a line, nor at its space. -/
lemma digits_lt {front rest : List Byte} {l : TableLine}
    (hr : received <+: front ++ (l.text ++ rest)) {p : ℕ} (hp : Http.IsHttpNL received p)
    (hs : front.length ≤ p) : front.length + l.digits.length < p := by
  by_contra hle
  have hlen := hp.length
  have hcr : received[p]? = some 0x0D := by
    have h0 := ((take_four_eq _).mp hp).1
    rw [List.getD_eq_getElem?_getD, List.getElem?_drop, Nat.add_zero,
      List.getElem?_eq_getElem (by omega), Option.getD_some] at h0
    rw [List.getElem?_eq_getElem (by omega), h0]
  obtain ⟨j, rfl⟩ := Nat.exists_eq_add_of_le hs
  rw [received_line hr (by rw [length_text]; omega) (by omega)] at hcr
  exact text_head l (by omega) hcr

/-- The rank of a line and its space were received. -/
lemma drop_line {front rest : List Byte} {l : TableLine}
    (hr : received <+: front ++ (l.text ++ rest))
    (hlt : front.length + l.digits.length < received.length) :
    ∃ t, received.drop front.length = l.digits ++ 0x20 :: t := by
  have hpre : l.digits ++ [0x20] <+: received.drop front.length := by
    refine @List.prefix_of_prefix_length_le _ _ _ (l.text ++ rest) ?_ ?_ ?_
    · exact ⟨l.addr ++ 0x0A :: rest, by simp [TableLine.text]⟩
    · obtain ⟨u, hu⟩ := hr
      refine ⟨u, ?_⟩
      rw [← List.drop_append_of_le_length (by omega), hu, List.drop_left]
    · rw [List.length_append, List.length_drop, List.length_singleton]
      omega
  obtain ⟨t, ht⟩ := hpre
  exact ⟨t, by rw [← ht, List.append_assoc]; rfl⟩

lemma wordlen_digits (l : TableLine) (t : List Byte) :
    Http.myWordlen (l.digits ++ 0x20 :: t) = some l.digits.length := by
  refine List.findIdx?_eq_some_iff_getElem.mpr ⟨?_, ?_, ?_⟩
  · rw [List.length_append, List.length_cons]
    omega
  · rw [List.getElem_append_right le_rfl]
    simp
  · intro j hj hspace
    rw [List.getElem_append_left hj] at hspace
    have hdigit := l.isDigit _ (List.getElem_mem hj)
    rw [of_decide_eq_true hspace] at hdigit
    exact absurd hdigit (by decide)

/-- The bytes of an address. -/
lemma address_line {front rest : List Byte} {l : TableLine}
    (hr : received <+: front ++ (l.text ++ rest))
    (hlt : front.length + l.text.length < received.length) :
    (callBuffer notToSwap pre received).address
      (pre.length + front.length + l.digits.length + 1) =
      (l.line notToSwap).address := by
  have hbyte : ∀ k < 4, (callBuffer notToSwap pre received).byte
      (pre.length + front.length + l.digits.length + 1 + k) = l.addr.getD k 0 := by
    intro k hk
    rw [length_text] at hlt
    rw [show pre.length + front.length + l.digits.length + 1 + k =
        pre.length + (front.length + (l.digits.length + (1 + k))) by omega, byte_call,
      List.getD_eq_getElem?_getD, received_line hr (by rw [length_text]; omega) (by omega),
      TableLine.text, List.append_assoc, List.getElem?_append_right (by omega),
      Nat.add_sub_cancel_left, Nat.add_comm 1 k, List.cons_append, List.getElem?_cons_succ,
      List.getElem?_append_left (by rw [l.length_addr]; exact hk), List.getD_eq_getElem?_getD]
  have h0 := hbyte 0 (by omega)
  rw [Nat.add_zero] at h0
  rw [HttpBuffer.address, h0, hbyte 1 (by omega), hbyte 2 (by omega), hbyte 3 (by omega)]
  rfl

/-- **A line of the body** is read if it starts before the end of the loop and if one byte behind it
was received. -/
lemma readLineIn_line {front rest : List Byte} {l : TableLine} {p : ℕ}
    (hr : received <+: front ++ (l.text ++ rest)) (hp : Http.IsHttpNL received p)
    (hmax : (callBuffer notToSwap pre received).maxWhile = ((pre.length + p : ℕ) : ℤ)) :
    readLineIn (callBuffer notToSwap pre received) (pre.length + front.length) =
      some (if front.length < p ∧ front.length + l.text.length < received.length then
        some (l.line notToSwap, pre.length + (front.length + l.text.length)) else none) := by
  rw [readLineIn, hmax]
  by_cases hs : front.length < p
  · have hlen := hp.length
    have hdig := digits_lt hr hp hs.le
    obtain ⟨t, ht⟩ := drop_line hr (by omega)
    have hdrop : (callBuffer notToSwap pre received).bufferIn.drop (pre.length + front.length) =
        l.digits ++ 0x20 :: t := by
      rw [← ht, callBuffer, ← List.drop_drop, List.drop_left]
    have hwrite : (callBuffer notToSwap pre received).bufferInPtrMaxWrite =
        pre.length + received.length - 1 := by
      rw [callBuffer, List.length_append]
    have hlength : (callBuffer notToSwap pre received).bufferIn.length =
        pre.length + received.length := by
      rw [callBuffer, List.length_append]
    rw [if_pos (by omega), hdrop, wordlen_digits]
    dsimp only
    rw [hwrite, hlength]
    have htext := length_text l
    by_cases hcomplete : front.length + l.text.length < received.length
    · rw [if_neg (by omega), if_neg (by omega), if_pos ⟨hs, hcomplete⟩,
        address_line hr hcomplete]
      have hatoi : Fmc.myAtoi (l.digits ++ 0x20 :: t) l.digits.length =
          (l.line notToSwap).rankID := by
        rw [Fmc.myAtoi, List.take_left, TableLine.line, ← myAtoi_digits l.isDigit, Fmc.myAtoi,
          List.take_length]
      have hnext : pre.length + front.length + l.digits.length + 1 + 4 + 1 =
          pre.length + (front.length + (l.digits.length + 6)) := by omega
      rw [hatoi, htext, hnext]
    · rw [if_pos (by omega), if_neg fun h => hcomplete h.2]
  · rw [if_neg (by omega), if_neg fun h => hs h.1]

/-- The lines that a call sees: they start in front of the first line breaks at `p`, and one byte
behind them is among the `m` bytes received. `s` is the start of the first one. -/
def seenLines (p m : ℕ) : ℕ → List TableLine → List TableLine
  | _, [] => []
  | s, l :: ls =>
      if s < p ∧ s + l.text.length < m then l :: seenLines p m (s + l.text.length) ls else []

/-- A call sees every line of a body that ends at its first line breaks. -/
lemma seenLines_all {ls : List TableLine} {p m s : ℕ}
    (hp : s + (ls.flatMap TableLine.text).length ≤ p)
    (hm : s + (ls.flatMap TableLine.text).length < m) : seenLines p m s ls = ls := by
  induction ls generalizing s with
  | nil => rfl
  | cons l ls ih =>
      rw [List.flatMap_cons, List.length_append] at hp hm
      have htext := length_text l
      rw [seenLines, if_pos ⟨by omega, by omega⟩, ih (by omega) (by omega)]

lemma line_valid (l : TableLine) (notToSwap : Bool) : (l.line notToSwap).Valid := by
  rw [RoutingLine.Valid, TableLine.line, BitVec.toNat_ofNat]
  exact lt_of_le_of_lt (Nat.mod_le _ _) l.range

/-- **The loop** stays inside the received bytes and reads the lines that the call sees. -/
lemma linesFrom_call {ls : List TableLine} {front : List Byte} {p k : ℕ}
    (hr : received <+: front ++ bodyText ls) (hp : Http.IsHttpNL received p)
    (hmax : (callBuffer notToSwap pre received).maxWhile = ((pre.length + p : ℕ) : ℤ))
    (hk : p ≤ k + front.length) :
    loopInside (callBuffer notToSwap pre received) k (pre.length + front.length) = true ∧
      (callBuffer notToSwap pre received).linesFrom k (pre.length + front.length) =
        (seenLines p received.length front.length ls).map (·.line notToSwap) := by
  have hlen := hp.length
  induction ls generalizing front k with
  | nil =>
      have hle := hr.length_le
      rw [bodyText, httpNL_eq, List.length_append] at hle
      have hend : readLineIn (callBuffer notToSwap pre received) (pre.length + front.length) =
          some none := by
        rw [readLineIn, hmax]
        exact if_neg (by simp at hle; omega)
      cases k with
      | zero => exact ⟨rfl, rfl⟩
      | succ k =>
          rw [loopInside, HttpBuffer.linesFrom, hend, readLineIn_eq hend]
          exact ⟨rfl, rfl⟩
  | cons l ls ih =>
      have hbody : bodyText (l :: ls) = l.text ++ bodyText ls := by
        rw [bodyText, List.flatMap_cons, List.append_assoc]
        rfl
      rw [hbody] at hr
      rw [seenLines]
      cases k with
      | zero =>
          rw [if_neg fun h => by omega]
          exact ⟨rfl, rfl⟩
      | succ k =>
          have hline := @readLineIn_line _ _ notToSwap _ _ _ _ hr hp hmax
          rw [loopInside, HttpBuffer.linesFrom, hline, readLineIn_eq hline]
          by_cases hseen : front.length < p ∧ front.length + l.text.length < received.length
          · rw [if_pos hseen, if_pos hseen]
            have htext := length_text l
            have hrest := @ih (front ++ l.text) k
              (by rw [List.append_assoc]; exact hr) (by rw [List.length_append]; omega)
            rw [List.length_append] at hrest
            dsimp only
            rw [hrest.1, hrest.2, Bool.or_true]
            exact ⟨rfl, rfl⟩
          · rw [if_neg hseen, if_neg hseen]
            exact ⟨rfl, rfl⟩

end FirstCall

/-! ### The table of a body -/

/-- The fold of the lines over a table. Later lines win. -/
def tableOf (notToSwap : Bool) (t : Mrt) (ls : List TableLine) : Mrt :=
  ls.foldl (fun t l => Function.update t l.rank (l.line notToSwap).address) t

lemma storeLines_currentMRT (notToSwap : Bool) (f : FmcState) (ls : List TableLine) :
    (storeLines f (ls.map (·.line notToSwap))).currentMRT = tableOf notToSwap f.currentMRT ls := by
  induction ls generalizing f with
  | nil => rfl
  | cons l ls ih =>
      rw [List.map_cons, storeLines_cons, ih]
      have hv := line_valid l notToSwap
      have hrow : storeLine f (l.line notToSwap) =
          f.setRow ⟨(l.line notToSwap).rankID.toNat, hv⟩ (l.line notToSwap).address := dif_pos hv
      have hidx : (⟨(l.line notToSwap).rankID.toNat, hv⟩ : Fin maxMrtSize) = l.rank := by
        refine Fin.ext ?_
        have hlt : decimalValue l.digits < 2 ^ 32 := lt_of_lt_of_le l.range (by decide)
        exact (BitVec.toNat_ofNat _ _).trans (Nat.mod_eq_of_lt hlt)
      rw [hrow, hidx]
      rfl

/-- The request stores its lines and increments the version once. -/
structure Stored (notToSwap : Bool) (ls : List TableLine) (f g : FmcState) : Prop where
  currentMRT : g.currentMRT = tableOf notToSwap f.currentMRT ls
  version : g.currentNrcMrtVersion = f.currentNrcMrtVersion + 1

/-- The upload of a body reads received bytes only and stores its lines. The counts are the bytes of
the body that are received before the calls. -/
def Uploaded (disableCtrlLink notToSwap : Bool) (pre : List Byte) (ls : List TableLine)
    (f : FmcState) (counts : List ℕ) : Prop :=
  ∃ g, upload disableCtrlLink notToSwap pre (bodyText ls) f counts = some g ∧
    Stored notToSwap ls f g

/-- The first call finds line breaks behind at least one byte, and the lines that it sees give the
table of all lines. -/
def SeesTable (notToSwap : Bool) (t : Mrt) (ls : List TableLine) (received : List Byte) : Prop :=
  ∃ p, headerEnd received = some p ∧ 0 < p ∧
    tableOf notToSwap t (seenLines p received.length 0 ls) = tableOf notToSwap t ls

section Calls

variable {pre : List Byte} {ls : List TableLine} {notToSwap : Bool} {f : FmcState}

lemma body_head (ls : List TableLine) (n : ℕ) : ∀ c ∈ ((bodyText ls).take n).head?, c ≠ 0 := by
  have hhead : ∀ c ∈ (bodyText ls).head?, c ≠ 0 := by
    intro c hc
    cases ls with
    | nil =>
        rw [bodyText, List.flatMap_nil, httpNL_eq] at hc
        obtain rfl := Option.some.inj hc
        decide
    | cons l ls =>
        obtain ⟨d, ds, hds⟩ := List.exists_cons_of_ne_nil l.nonempty
        rw [bodyText, List.flatMap_cons, TableLine.text, hds] at hc
        obtain rfl := Option.some.inj hc
        rintro rfl
        exact absurd (l.isDigit 0 (by rw [hds]; exact List.mem_cons_self)) (by decide)
  intro c hc
  rw [List.head?_take] at hc
  split at hc
  · cases hc
  · exact hhead c hc

/-- **A complete call** stores the lines that it sees. -/
lemma opBufferToRoutingIn_call {received : List Byte} {p : ℕ} (hsize : pre.length < inBufferSize)
    (hr : received <+: bodyText ls) (hhead : ∀ c ∈ received.head?, c ≠ 0)
    (hp : headerEnd received = some p) (hpos : 0 < p) :
    ∃ g, opBufferToRoutingIn (callBuffer notToSwap pre received) false f = some g ∧
      g.lastReturnValue = .done ∧
      g.currentMRT =
        tableOf notToSwap f.currentMRT (seenLines p received.length 0 ls) ∧
      g.currentNrcMrtVersion = f.currentNrcMrtVersion + 1 := by
  have hin := @bodyLenIn_call _ _ notToSwap hsize hhead
  rw [hp, Option.map_some] at hin
  have hbody : (callBuffer notToSwap pre received).bodyLen = (p : ℤ) := requestLen_eq hin
  have hmax : (callBuffer notToSwap pre received).maxWhile = ((pre.length + p : ℕ) : ℤ) := by
    rw [HttpBuffer.maxWhile, hbody, if_pos (by omega), callBuffer]
    push_cast
    rfl
  obtain ⟨hinside, hlines⟩ := @linesFrom_call pre _ notToSwap _ [] _ (pre.length + p) hr
    (headerEnd_eq_some.mp hp).1 hmax (by omega)
  have hrouting : (callBuffer notToSwap pre received).routingLines =
      (seenLines p received.length 0 ls).map (·.line notToSwap) := by
    rw [HttpBuffer.routingLines, hmax]
    exact hlines
  have hgood : ∀ l ∈ (callBuffer notToSwap pre received).routingLines, l.Valid := by
    rw [hrouting]
    intro l hl
    obtain ⟨t, -, rfl⟩ := List.mem_map.mp hl
    exact line_valid t notToSwap
  have hnot : ¬(callBuffer notToSwap pre received).Bad := not_not.mpr hgood
  have hdone := opBufferToRouting_done (callBuffer notToSwap pre received) f
  have hbl : 0 < (callBuffer notToSwap pre received).bodyLen := by rw [hbody]; omega
  refine ⟨opBufferToRouting (callBuffer notToSwap pre received) false f, ?_, ?_, ?_, ?_⟩
  · rw [opBufferToRoutingIn, if_neg Bool.false_ne_true, if_pos]
    refine ⟨by rw [hin]; rfl, ?_⟩
    rw [hmax]
    exact hinside
  · rw [hdone.lastReturnValue, if_pos (.inl hbl)]
  · rw [hdone.rows.currentMRT, validLines_of_not_bad hnot, hrouting, storeLines_currentMRT]
  · rw [hdone.version, if_pos hbl, if_neg hnot, version_sub_zero]

/-- Behind the end of the loop nothing is read. -/
lemma routingLoop_end {b : HttpBuffer} {i : ℕ} (h : b.maxWhile ≤ i) (n : ℕ) (f : FmcState) :
    routingLoop b n i f = { f with bufferInPtrNextRead := i } := by
  cases n with
  | zero => rfl
  | succ n =>
      have hnone : b.readLine i = none := by
        rw [HttpBuffer.readLine]
        exact if_neg (by omega)
      rw [routingLoop, hnone]

/-- A body without lines has the length zero, so that a call leaves the version alone. -/
lemma opBufferToRoutingIn_empty {d : Bool} {received : List Byte} {g : FmcState}
    (hsize : pre.length < inBufferSize) (hr : received <+: bodyText [])
    (hhead : ∀ c ∈ received.head?, c ≠ 0) (hf : f.bufferInPtrNextRead = pre.length)
    (h : opBufferToRoutingIn (callBuffer notToSwap pre received) d f = some g) :
    g.currentNrcMrtVersion = f.currentNrcMrtVersion ∧ g.bufferInPtrNextRead = pre.length := by
  rw [opBufferToRoutingIn] at h
  cases d with
  | true =>
      rw [if_pos rfl, opBufferToRouting, if_pos rfl] at h
      obtain rfl := Option.some.inj h
      exact ⟨rfl, hf⟩
  | false =>
      rw [if_neg Bool.false_ne_true] at h
      split at h
      · rename_i hsome
        obtain rfl := Option.some.inj h
        have hin := @bodyLenIn_call _ _ notToSwap hsize hhead
        cases hp : headerEnd received with
        | none =>
            rw [hin, hp] at hsome
            exact absurd hsome.1 Bool.false_ne_true
        | some p =>
            have hlen := (headerEnd_eq_some.mp hp).1.length
            have hle : received.length ≤ 4 := hr.length_le
            obtain rfl : p = 0 := by omega
            rw [hp] at hin
            have hbody : (callBuffer notToSwap pre received).bodyLen = 0 := requestLen_eq hin
            have hmax : (callBuffer notToSwap pre received).maxWhile ≤ (pre.length : ℤ) := by
              rw [HttpBuffer.maxWhile, hbody, if_neg (lt_irrefl 0), callBuffer, List.length_append,
                minRoutingTableLine]
              dsimp only
              omega
            rw [opBufferToRouting, if_neg Bool.false_ne_true, hbody, if_neg (lt_irrefl 0)]
            rw [callBuffer] at hmax
            rw [callBuffer, routingLoop_end hmax]
            exact ⟨rfl, rfl⟩
      · cases h

/-- The request of an empty body never increments the version. -/
lemma upload_empty {d : Bool} {counts : List ℕ} {g : FmcState} (hsize : pre.length < inBufferSize)
    (hf : f.bufferInPtrNextRead = pre.length)
    (h : upload d notToSwap pre (bodyText []) f counts = some g) :
    g.currentNrcMrtVersion = f.currentNrcMrtVersion := by
  induction counts generalizing f with
  | nil =>
      obtain rfl := Option.some.inj h
      rfl
  | cons n counts ih =>
      rw [upload, hf] at h
      obtain ⟨g', hcall, hrest⟩ := Option.bind_eq_some_iff.mp h
      obtain ⟨hversion, hnext⟩ := opBufferToRoutingIn_empty hsize (List.take_prefix n _)
        (body_head [] n) hf hcall
      split at hrest
      · exact (ih hnext hrest).trans hversion
      · obtain rfl := Option.some.inj hrest
        exact hversion

/-- **The upload of a body** whose header is `pre`: it stores its lines, reading received bytes only,
if and only if the link is enabled and the first call sees the table. -/
theorem uploaded_iff {d : Bool} {n : ℕ} {counts : List ℕ}
    (hf : f.bufferInPtrNextRead = pre.length) (hsize : pre.length < inBufferSize) :
    Uploaded d notToSwap pre ls f (n :: counts) ↔
      d = false ∧ SeesTable notToSwap f.currentMRT ls ((bodyText ls).take n) := by
  have hcall : ∀ g, upload d notToSwap pre (bodyText ls) f (n :: counts) = some g ↔
      ∃ g', opBufferToRoutingIn (callBuffer notToSwap pre ((bodyText ls).take n)) d f = some g' ∧
        (if g'.lastReturnValue = .notComplete then
          upload d notToSwap pre (bodyText ls) g' counts else some g') = some g := by
    intro g
    rw [upload, hf]
    exact Option.bind_eq_some_iff
  constructor
  · rintro ⟨g, hg, hrows, hversion⟩
    have hne : g.currentNrcMrtVersion ≠ f.currentNrcMrtVersion := by
      rw [hversion]
      exact fun h => version_sub_ne (f.currentNrcMrtVersion + 1)
        ((BitVec.add_sub_cancel _ _).trans h.symm)
    obtain ⟨g', hg', hrest⟩ := (hcall g).mp hg
    cases d with
    | true =>
        rw [opBufferToRoutingIn, if_pos rfl, opBufferToRouting, if_pos rfl] at hg'
        obtain rfl := Option.some.inj hg'
        rw [if_neg (by rintro ⟨⟩)] at hrest
        obtain rfl := Option.some.inj hrest
        exact absurd rfl hne
    | false =>
        refine ⟨rfl, ?_⟩
        have hin := @bodyLenIn_call _ _ notToSwap hsize (body_head ls n)
        cases hp : headerEnd ((bodyText ls).take n) with
        | none =>
            rw [hp] at hin
            rw [opBufferToRoutingIn, if_neg Bool.false_ne_true, hin, if_neg (by rintro ⟨⟨⟩, -⟩)] at hg'
            cases hg'
        | some p =>
            rcases Nat.eq_zero_or_pos p with rfl | hpos
            · -- Only a body without lines begins with line breaks.
              cases ls with
              | nil => exact absurd (upload_empty hsize hf hg) hne
              | cons l ls =>
                  have hr : (bodyText (l :: ls)).take n <+: [] ++ (l.text ++ bodyText ls) := by
                    rw [bodyText, List.flatMap_cons, List.append_assoc]
                    exact List.take_prefix ..
                  exact absurd (digits_lt hr (headerEnd_eq_some.mp hp).1 le_rfl)
                    (Nat.not_lt_zero _)
            · obtain ⟨g'', hg'', hdone, hmrt, -⟩ := @opBufferToRoutingIn_call _ ls notToSwap f _ _
                hsize (List.take_prefix n _) (body_head ls n) hp hpos
              obtain rfl := Option.some.inj (hg''.symm.trans hg')
              rw [hdone, if_neg (by rintro ⟨⟩)] at hrest
              obtain rfl := Option.some.inj hrest
              exact ⟨p, hp, hpos, hmrt.symm.trans hrows⟩
  · rintro ⟨rfl, p, hp, hpos, htable⟩
    obtain ⟨g, hg, hdone, hmrt, hversion⟩ := @opBufferToRoutingIn_call _ ls notToSwap f _ _ hsize
      (List.take_prefix n _) (body_head ls n) hp hpos
    refine ⟨g, (hcall g).mpr ⟨g, hg, ?_⟩, hmrt.trans htable, hversion⟩
    rw [hdone]
    exact if_neg (by rintro ⟨⟩)

end Calls

/-- The header of a request. -/
def routingHeader : List Byte := text "POST /routing HTTP/1.1\r\n\r\n"

/-- The rank 1 at 10.0.0.1. -/
def firstLine : TableLine := ⟨[0x31], [10, 0, 0, 1], by simp, by decide, by decide, rfl⟩

/-- A body with one line comes in one part. -/
theorem uploaded_firstLine : Uploaded false false routingHeader [firstLine]
    { bufferInPtrNextRead := routingHeader.length } [12] :=
  (@uploaded_iff routingHeader [firstLine] false { bufferInPtrNextRead := routingHeader.length }
    false 12 [] rfl (by decide +kernel)).mpr ⟨rfl, 7, by decide +kernel, by decide,
      congrArg _ (seenLines_all (by decide) (by decide +kernel))⟩

/-- The rank 2 at 13.10.13.10, whose bytes are two line breaks. -/
def breakLine : TableLine := ⟨[0x32], [13, 10, 13, 10], by simp, by decide, by decide, rfl⟩

/-- The line behind it is lost. -/
theorem not_uploaded_breakLine : ¬Uploaded false false routingHeader [breakLine, firstLine]
    { bufferInPtrNextRead := routingHeader.length } [18] := by
  rintro ⟨g, hg, hrows, -⟩
  have hrow : (upload false false routingHeader (bodyText [breakLine, firstLine])
      { bufferInPtrNextRead := routingHeader.length } [18]).map (·.currentMRT 1) = some 0 := by
    decide +kernel
  rw [hg, Option.map_some, hrows] at hrow
  revert hrow
  decide +kernel

end CloudFpga.Fmc
