import CloudFpga.Fmc.XmemPages

/-!
The pages of a transfer as one stream: what is accepted is in counter order, and it is what HWICAP
gets.

* `hwicapLoop_eq`, `bufferToHwicap_words`: the words that one execution of `OP_BUFFER_TO_HWICAP`
  writes are the data in the buffer, up to less than four bytes.
* `Exact`: what a step does to the stream; `Regular`: the calls in which nothing is lost.
* `TransferInv`: the buffer holds the part of the stream that is not written yet.
* `exact_of_regular`: runs.
-/

namespace CloudFpga.Fmc.Xmem

open Nal Http
open Plan (CopyRet)
open Foundation

/-! ### Words and bytes -/

/-- The bytes of a word in the order of the buffer. -/
def wordBytes (w : Bool × Word) : List Byte :=
  if w.1 then
    [w.2.extractLsb' 0 8, w.2.extractLsb' 8 8, w.2.extractLsb' 16 8, w.2.extractLsb' 24 8]
  else [w.2.extractLsb' 24 8, w.2.extractLsb' 16 8, w.2.extractLsb' 8 8, w.2.extractLsb' 0 8]

section Words

variable {c : XmemCall} {b : ℕ → Byte} {ns : Bool} {i n m T fuel maxPayloadWrite : ℕ}

lemma extract_append (a b c d : Byte) :
    (a ++ b ++ c ++ d : Word).extractLsb' 24 8 = a ∧
      (a ++ b ++ c ++ d : Word).extractLsb' 16 8 = b ∧
      (a ++ b ++ c ++ d : Word).extractLsb' 8 8 = c ∧
      (a ++ b ++ c ++ d : Word).extractLsb' 0 8 = d := by
  refine ⟨?_, ?_, ?_, ?_⟩ <;> ext k hk <;>
    simp only [BitVec.getElem_extractLsb', BitVec.getLsbD_append] <;> grind

lemma window_four (b : ℕ → Byte) (i : ℕ) :
    window b i 4 = [b i, b (i + 1), b (i + 2), b (i + 3)] := rfl

/-- A word has the bytes that it was read from. -/
lemma wordBytes_bufferWord (ns : Bool) (b : ℕ → Byte) (i : ℕ) :
    wordBytes (ns, bufferWord ns b i) = window b i 4 := by
  rw [window_four]
  cases ns with
  | true =>
      obtain ⟨h₁, h₂, h₃, h₄⟩ := extract_append (b (i + 3)) (b (i + 2)) (b (i + 1)) (b i)
      simp only [wordBytes, bufferWord, if_true, h₁, h₂, h₃, h₄]
  | false =>
      obtain ⟨h₁, h₂, h₃, h₄⟩ := extract_append (b i) (b (i + 1)) (b (i + 2)) (b (i + 3))
      simp only [wordBytes, bufferWord, Bool.false_eq_true, if_false, h₁, h₂, h₃, h₄]

/-- The words from an index on. -/
def bufferWords (ns : Bool) (b : ℕ → Byte) (i m : ℕ) : List Word :=
  (List.range m).map fun j => bufferWord ns b (i + 4 * j)

lemma bufferWords_succ (ns : Bool) (b : ℕ → Byte) (i m : ℕ) :
    bufferWords ns b i (m + 1) = bufferWord ns b i :: bufferWords ns b (i + 4) m := by
  rw [bufferWords, List.range_succ_eq_map, List.map_cons, List.map_map, Nat.mul_zero, Nat.add_zero,
    bufferWords]
  congr 1
  refine List.map_congr_left fun j _ => congrArg (bufferWord ns b) ?_
  simp only [Nat.succ_eq_add_one]
  omega

lemma bytes_bufferWords (ns : Bool) (b : ℕ → Byte) (i m : ℕ) :
    ((bufferWords ns b i m).map fun w => (ns, w)).flatMap wordBytes = window b i (4 * m) := by
  induction m generalizing i with
  | zero => rfl
  | succ m ih =>
      rw [bufferWords_succ, List.map_cons, List.flatMap_cons, ih, wordBytes_bufferWord,
        show 4 * (m + 1) = 4 + 4 * m by omega, window_add]

/-- Four bytes that `OP_BUFFER_TO_HWICAP` takes for line breaks of HTTP. -/
def isHttpNL (l : List Byte) : Prop :=
  l = [0x0D, 0x0A, 0x0D, 0x0A] ∨ l = [0x0A, 0x0D, 0x0A, 0x0D]

/-- One of the words in the data is taken for line breaks of HTTP. -/
def HasHttpNL (l : List Byte) : Prop := ∃ j < l.length, isHttpNL ((l.drop (4 * j)).take 4)

lemma isHttpNLWord_bufferWord (ns : Bool) (b : ℕ → Byte) (i : ℕ)
    (h : ¬ isHttpNL (window b i 4)) : isHttpNLWord (bufferWord ns b i) = false := by
  by_contra hw
  rw [Bool.not_eq_false, isHttpNLWord, decide_eq_true_eq] at hw
  have hbytes := wordBytes_bufferWord ns b i
  refine h ?_
  rw [← hbytes]
  cases ns with
  | true =>
      rcases hw with hw | hw
      · rw [hw]
        exact .inr (by decide)
      · rw [hw]
        exact .inl (by decide)
  | false =>
      rcases hw with hw | hw
      · rw [hw]
        exact .inl (by decide)
      · rw [hw]
        exact .inr (by decide)

/-- The loop writes the words up to its end. -/
lemma hwicapLoop_eq {l : HwicapLoop} (hin : ∀ j < m, l.i + 4 * j ≤ maxPayloadWrite)
    (hend : maxPayloadWrite < l.i + 4 * m ∨ maxPayloadWrite = 0) (hpos : 0 < maxPayloadWrite ∨ m = 0)
    (hfuel : m ≤ fuel) (hok : ∀ j < m, isHttpNLWord (bufferWord ns b (l.i + 4 * j)) = false) :
    hwicapLoop ns b maxPayloadWrite fuel l =
      { l with i := l.i + 4 * m, words := l.words ++ bufferWords ns b l.i m } := by
  induction m generalizing l fuel with
  | zero =>
      have hstop : ¬ (l.i ≤ maxPayloadWrite ∧ 0 < maxPayloadWrite) := by omega
      have hsame : { l with i := l.i + 4 * 0, words := l.words ++ bufferWords ns b l.i 0 } = l := by
        obtain ⟨i, words, err⟩ := l
        simp [bufferWords]
      rw [hsame]
      cases fuel with
      | zero => rfl
      | succ fuel => rw [hwicapLoop, if_neg hstop]
  | succ m ih =>
      obtain ⟨fuel, rfl⟩ : ∃ f, fuel = f + 1 := ⟨fuel - 1, by omega⟩
      have hgo : l.i ≤ maxPayloadWrite ∧ 0 < maxPayloadWrite := by
        have := hin 0 (Nat.succ_pos m)
        omega
      have hword := hok 0 (Nat.succ_pos m)
      rw [Nat.mul_zero, Nat.add_zero] at hword
      rw [hwicapLoop, if_pos hgo]
      simp only [hword, Bool.false_eq_true, if_false]
      rw [ih (fun j hj => ?_) (by dsimp only; omega) (.inl hgo.2) (by omega) (fun j hj => ?_)]
      · rw [bufferWords_succ]
        simp only [List.append_assoc, List.singleton_append, HwicapLoop.mk.injEq, and_true]
        omega
      · have := hin (j + 1) (by omega)
        dsimp only
        omega
      · have := hok (j + 1) (by omega)
        rw [← this]
        congr 2
        dsimp only
        omega

/-- The loop on the data up to the index `T`: it leaves less than four bytes. -/
lemma hwicapLoop_data {l : HwicapLoop} (hi : l.i ≤ T) (hT : 1 ≤ T) (hfour : T ≠ 4)
    (hok : ¬ HasHttpNL (window b l.i (T - l.i))) :
    hwicapLoop ns b (if 4 ≤ T - 1 then T - 1 - 3 else 0) ((if 4 ≤ T - 1 then T - 1 - 3 else 0) + 1) l =
      { l with
        i := l.i + 4 * ((T - l.i) / 4)
        words := l.words ++ bufferWords ns b l.i ((T - l.i) / 4) } := by
  have hdiv : 4 * ((T - l.i) / 4) ≤ T - l.i ∧ T - l.i < 4 * ((T - l.i) / 4) + 4 := by omega
  refine hwicapLoop_eq (fun j hj => ?_) ?_ ?_ ?_ fun j hj => ?_
  · split <;> omega
  · split <;> omega
  · split <;> omega
  · split <;> omega
  · refine isHttpNLWord_bufferWord ns b _ fun hnl => hok ⟨j, ?_, ?_⟩
    · rw [window_length]
      omega
    · rw [drop_window b l.i (by omega), take_window b _ (by omega)]
      exact hnl

end Words

/-! ### One execution of `OP_BUFFER_TO_HWICAP` -/

section Read

variable {c : XmemCall} {r : BufferRegs} {T : ℕ}

/-- `OP_BUFFER_TO_HWICAP` on the data up to the index `T`. -/
lemma bufferToHwicap_eq (hmax : r.bufferInPtrMaxWrite = T - 1) (hT : 1 ≤ T) (hfour : T ≠ 4)
    (hread : r.bufferInPtrNextRead ≤ T)
    (hok : ¬ HasHttpNL (window r.bufferIn r.bufferInPtrNextRead (T - r.bufferInPtrNextRead))) :
    bufferToHwicap c r =
      (bufferWords c.notToSwap r.bufferIn r.bufferInPtrNextRead ((T - r.bufferInPtrNextRead) / 4),
        wrapRead c { r with bufferInPtrNextRead :=
          r.bufferInPtrNextRead + 4 * ((T - r.bufferInPtrNextRead) / 4) }) := by
  have hloop := @hwicapLoop_data _ c.notToSwap _
    ({ i := r.bufferInPtrNextRead, writeErrCnt := r.writeErrCnt }) hread hT hfour hok
  rw [bufferToHwicap, hmax]
  simp only [hloop, List.nil_append]

/-- Without a wrap the registers stay. -/
lemma wrapRead_of_lt (h : r.bufferInPtrNextRead < 3970) : wrapRead c r = r := by
  rw [wrapRead, if_neg]
  exact Nat.not_le.mpr h

/-- With a wrap the bytes that are left move to the front. -/
lemma wrapRead_of_le {n : ℕ} (h : 3970 ≤ r.bufferInPtrNextRead)
    (hmax : r.bufferInPtrMaxWrite + 1 = r.bufferInPtrNextRead + n) (hn : n < 4)
    (hwrite : r.bufferInPtrWrite = 0) (hparse : n = 0 ∨ c.parseHTTP = true) :
    wrapRead c r = { r with
      bufferIn := store r.bufferIn 0 (window r.bufferIn r.bufferInPtrNextRead n)
      bufferInPtrWrite := n
      bufferInPtrNextRead := 0 } := by
  have hdiff : (r.bufferInPtrMaxWrite - r.bufferInPtrNextRead + 1 : ℤ) = n := by omega
  have hle : inBufferSize - payloadBytesPerPage ≤ r.bufferInPtrNextRead := h
  rw [wrapRead, if_pos hle, hdiff]
  rcases Nat.eq_zero_or_pos n with rfl | hpos
  · have hzero : ¬ (c.parseHTTP = true ∧ BitVec.ofInt 5 ((0 : ℕ) : ℤ) ≠ 0) := fun h => h.2 rfl
    simp only [if_neg hzero]
    rw [window_zero, store, ← hwrite]
  · have hparse := hparse.resolve_left (by omega)
    have htelomere : BitVec.ofInt 5 (n : ℤ) ≠ 0 ∧ (BitVec.ofInt 5 (n : ℤ)).toInt = n := by
      obtain rfl | rfl | rfl : n = 1 ∨ n = 2 ∨ n = 3 := by omega
      · decide
      · decide
      · decide
    have hmod : ((n : ℤ) % 2 ^ 32).toNat = n := by omega
    simp only [hparse, htelomere.1, htelomere.2, ne_eq, not_false_eq_true, and_self, if_true,
      Int.toNat_natCast, hmod, show ¬ ((n : ℤ) < 0) by omega, if_false]

/-- A wrap changes the front of the buffer, and the pointers. -/
lemma wrapRead_frame (c : XmemCall) (r : BufferRegs) :
    ∃ b w n e, wrapRead c r = { r with
        bufferIn := b, bufferInPtrWrite := w, bufferInPtrNextRead := n, writeErrCnt := e } ∧
      ∀ k, 16 ≤ k → b k = r.bufferIn k := by
  rw [wrapRead]
  split
  · dsimp only
    split
    · refine ⟨_, _, _, _, rfl, fun k hk => store_of_le ?_⟩
      have hlt := (BitVec.ofInt 5
        (r.bufferInPtrMaxWrite - r.bufferInPtrNextRead + 1 : ℤ)).toInt_lt
      rw [window_length, Nat.zero_add]
      omega
    · exact ⟨_, _, _, _, rfl, fun _ _ => rfl⟩
  · exact ⟨_, _, _, _, rfl, fun _ _ => rfl⟩

end Read

/-! ### What a step does to the stream -/

namespace Transfer

variable (t : Transfer) (c : XmemCall)

/-- The payloads of the accepted pages. -/
def stream : List Byte := t.pages.flatMap Prod.snd

/-- The bytes that HWICAP got. -/
def writtenBytes : List Byte := t.written.flatMap wordBytes

/-- The data still to be read from `bufferIn`. -/
def unread : List Byte :=
  window t.regs.bufferIn t.regs.bufferInPtrNextRead
    (t.regs.bufferInPtrWrite - t.regs.bufferInPtrNextRead)

/-- The payload of the page in XMEM. -/
def payload : List Byte := (burst t.xmem).take (t.payloadLen c)

/-- The page in XMEM is complete, and it is the one that is expected. -/
def Accepts : Prop := curHeader t.xmem = curFooter t.xmem ∧ curCnt t.xmem = t.regs.expCnt

/-- The index behind the data, when the page is accepted. -/
def dataEnd : ℕ := t.regs.bufferInPtrWrite + t.payloadLen c

/-- The header of the request is complete with the page in XMEM. -/
def headerLen? : Option ℕ :=
  headerLen (window (store t.regs.bufferIn t.regs.bufferInPtrWrite (burst t.xmem)) 0 inBufferSize)

end Transfer

/-- Pointers, counter, data and words stay. -/
def Kept (t t' : Transfer) : Prop :=
  t'.regs.bufferInPtrWrite = t.regs.bufferInPtrWrite ∧
    t'.regs.bufferInPtrMaxWrite = t.regs.bufferInPtrMaxWrite ∧
    t'.regs.bufferInPtrNextRead = t.regs.bufferInPtrNextRead ∧
    t'.regs.xmemPageTransCnt = t.regs.xmemPageTransCnt ∧ t'.unread = t.unread ∧
    t'.written = t.written

/-- The payload of the page in XMEM is appended to the buffer and to the stream. -/
def Appends (c : XmemCall) (t t' : Transfer) : Prop :=
  t'.pages = t.pages ++ [(curCnt t.xmem, t.payload c)] ∧
    window t'.regs.bufferIn t.regs.bufferInPtrWrite (t.payload c).length = t.payload c

/-- The words for HWICAP are the stream behind the header, up to less than four bytes, and these are
still in the buffer while the transfer goes on. -/
def Written (t : Transfer) : Prop :=
  ∃ rest, t.writtenBytes ++ rest = t.stream.drop t.header ∧ rest.length < 4 ∧
    (t.ended = false → t.unread = rest)

/-- The header of the stream. -/
def HeaderRead (t : Transfer) : Prop :=
  ∃ k, headerEnd t.stream = some k ∧ t.header = k + 4

/-- A step of a transfer. The pages are in counter order; a page is appended, or all is kept; and
HWICAP has got the stream behind the header. -/
structure Exact (t : Transfer) (e : XmemEvent) (t' : Transfer) : Prop where
  counters : t'.pages.map Prod.fst = (List.range t'.pages.length).map (BitVec.ofNat 4)
  appends : Kept t t' ∧ t'.pages = t.pages ∨ ∃ c, e = .call c ∧ Appends c t t'
  header : t'.mode = .httpHeader → t'.written = [] ∧ (t'.ended = false → t'.unread = t'.stream)
  toHwicap : t'.mode = .toHwicap → t'.header = 0 ∧ Written t'
  httpPayload : t'.mode = .httpPayload → HeaderRead t' ∧ Written t'
  whole : t'.mode = .toHwicap ∨ t'.mode = .httpPayload →
    4 ∣ (t'.stream.drop t'.header).length → t'.writtenBytes = t'.stream.drop t'.header

/-- The calls in which nothing is lost, if a page is accepted. -/
structure Careful (c : XmemCall) (t : Transfer) : Prop where
  -- the last page has a byte, and no more than a page has
  count : lastPage t.xmem = true → 1 ≤ c.lastPageCntIn.toNat ∧ c.lastPageCntIn.toNat ≤ 126
  -- the pattern that is checked is right
  pattern : t.mode = .checkPattern →
    patternRight (store t.regs.bufferIn t.regs.bufferInPtrWrite (burst t.xmem))
      t.regs.bufferInPtrNextRead (t.regs.expCnt ++ t.regs.expCnt) = true
  -- HWICAP is accessible
  eos : t.mode ≠ .checkPattern → c.eos = true
  -- the data do not end behind the first word of the buffer
  four : t.mode ≠ .checkPattern → t.dataEnd c ≠ 4
  -- no word is taken for line breaks of HTTP
  words : t.mode = .toHwicap ∨ t.mode = .httpPayload → ¬ HasHttpNL (t.unread ++ t.payload c)
  wordsHeader : t.mode = .httpHeader → ∀ k, t.headerLen? = some k →
    ¬ HasHttpNL ((t.stream ++ t.payload c).drop (k + 4))
  -- the header ends in the accepted pages; it fits in the buffer, and the last page does not end in
  -- it or with the first byte behind it
  header : t.mode = .httpHeader → ∀ k, t.headerLen? = some k → k + 4 ≤ t.dataEnd c
  room : t.mode = .httpHeader →
    (t.headerLen? = none ∨ t.headerLen? = some 0 ∨ t.headerLen? = some (t.dataEnd c - 5)) →
    t.dataEnd c < 3970 ∧ lastPage t.xmem = false
  -- the host still asks for HTTP when the buffer is full
  parseHTTP : t.mode = .httpPayload ∨ t.mode = .httpHeader → 3970 ≤ t.dataEnd c →
    lastPage t.xmem = false → c.parseHTTP = true

/-- A step in which nothing is lost. -/
def Regular (t : Transfer) : XmemEvent → Prop
  | .host _ => True
  | .call c => t.ended = false → t.Accepts → Careful c t

/-! ### The invariant -/

/-- The buffer holds the part of the stream that is not written. Its write pointer is behind some full
pages and less than four bytes. -/
structure PayloadInv (t : Transfer) : Prop where
  written : Written t
  read : t.ended = false → t.regs.bufferInPtrNextRead ≤ t.regs.bufferInPtrWrite
  write : t.ended = false → ∃ k n, t.regs.bufferInPtrWrite = 126 * k + n ∧ n < 4 ∧
    (t.mode = .toHwicap → n = 0 ∧ t.regs.bufferInPtrNextRead % 4 = 0)

/-- The buffer holds the stream. -/
structure HeaderInv (t : Transfer) : Prop where
  written : t.written = []
  read : t.ended = false → t.regs.bufferInPtrNextRead = 0
  stream : t.ended = false → window t.regs.bufferIn 0 t.regs.bufferInPtrWrite = t.stream
  write : t.ended = false → ∃ k, t.regs.bufferInPtrWrite = 126 * k

/-- The invariant of the transfers. -/
structure TransferInv (t : Transfer) : Prop where
  expCnt : t.regs.expCnt = BitVec.ofNat 4 t.pages.length
  counters : t.pages.map Prod.fst = (List.range t.pages.length).map (BitVec.ofNat 4)
  write : t.ended = false → t.regs.bufferInPtrWrite < 3970
  header : t.mode = .httpHeader → HeaderInv t
  toHwicap : t.mode = .toHwicap → t.header = 0 ∧ PayloadInv t
  httpPayload : t.mode = .httpPayload → HeaderRead t ∧ PayloadInv t

section Copy

variable {t : Transfer} {c : XmemCall}

lemma expCnt_eq (r : BufferRegs) : r.expCnt = r.xmemPageTransCnt + 1 := by
  rw [BufferRegs.expCnt]
  split
  · rename_i h
    rw [h]
    rfl
  · rfl

lemma lineBytes_length (i : ℕ) (w : Word) :
    (lineBytes i w).length = (if i = 0 then 0 else 1) + 2 + (if i = linesPerPage - 1 then 0 else 1) := by
  rw [lineBytes, List.length_append, List.length_append]
  split <;> split <;> rfl

@[simp] lemma burst_length (xmem : ℕ → Word) : (burst xmem).length = 126 := by
  rw [burst, List.length_flatMap, List.map_congr_left fun i _ => lineBytes_length i (xmem i)]
  rfl

/-- The pages that are not accepted. -/
def Rejected (ret : CopyRet) : Prop := ret = .invalid ∨ ret = .upToDate ∨ ret = .counterMismatch

/-- A page that is not accepted is only copied behind the data. -/
lemma xmemCopyData_rejects (h : ¬ t.Accepts) (flag : Bool) (cnt : BitVec 7) :
    Rejected (xmemCopyData t.xmem flag cnt t.regs).1 ∧
      (xmemCopyData t.xmem flag cnt t.regs).2 = { t.regs with
        bufferIn := store t.regs.bufferIn t.regs.bufferInPtrWrite (burst t.xmem)
        lastXmemPageReceived := false } := by
  rw [xmemCopyData, copyAndCheckBurst]
  by_cases hhead : curHeader t.xmem = curFooter t.xmem
  · rw [if_neg (not_not_intro hhead)]
    by_cases hcnt : curCnt t.xmem = t.regs.xmemPageTransCnt
    · rw [if_pos hcnt]
      exact ⟨.inr (.inl rfl), rfl⟩
    · have hne : curCnt t.xmem ≠ t.regs.expCnt := fun heq => h ⟨hhead, heq⟩
      rw [if_neg hcnt, if_pos hne]
      exact ⟨.inr (.inr rfl), rfl⟩
  · rw [if_pos hhead]
    exact ⟨.inl rfl, rfl⟩

/-- The registers behind a page that is accepted. -/
def acceptedRegs (c : XmemCall) (t : Transfer) : BufferRegs :=
  let write := if 3970 ≤ t.dataEnd c then 0 else t.dataEnd c
  { t.regs with
    bufferIn := store t.regs.bufferIn t.regs.bufferInPtrWrite (burst t.xmem)
    bufferInPtrMaxWrite := t.dataEnd c - 1
    bufferInPtrWrite := write
    bufferInPtrNextRead :=
      if t.mode = .checkPattern then write else t.regs.bufferInPtrNextRead
    xmemPageTransCnt := t.regs.expCnt
    lastXmemPageReceived := lastPage t.xmem }

lemma payloadLen_le (hc : Careful c t) : 1 ≤ t.payloadLen c ∧ t.payloadLen c ≤ 126 := by
  rw [Transfer.payloadLen]
  split
  · rename_i h
    exact hc.count h.1
  · exact ⟨by decide, by decide⟩

/-- A page that is accepted. -/
lemma xmemCopyData_accepts (h : t.Accepts) (hc : Careful c t) (hw : t.regs.bufferInPtrWrite < 3970) :
    xmemCopyData t.xmem (t.mode = .checkPattern) c.lastPageCntIn t.regs =
      (if lastPage t.xmem then .lastPage else .page, acceptedRegs c t) := by
  obtain ⟨hhead, hcnt⟩ := h
  obtain ⟨hlen, hlen'⟩ := payloadLen_le hc
  have hne : curCnt t.xmem ≠ t.regs.xmemPageTransCnt := by
    rw [hcnt, expCnt_eq]
    generalize t.regs.xmemPageTransCnt = x
    revert x
    decide
  have hmax : (if lastPage t.xmem && !decide (t.mode = .checkPattern) then
      (t.regs.bufferInPtrWrite + c.lastPageCntIn.toNat + (2 ^ 32 - 1)) % 2 ^ 32
      else (t.regs.bufferInPtrWrite + (payloadBytesPerPage - 1)) % 2 ^ 32) = t.dataEnd c - 1 := by
    rw [Transfer.dataEnd, Transfer.payloadLen] at *
    by_cases hlast : lastPage t.xmem = true ∧ t.mode ≠ .checkPattern
    · have hcond : (lastPage t.xmem && !decide (t.mode = .checkPattern)) = true := by
        rw [hlast.1, decide_eq_false hlast.2]
        rfl
      rw [if_pos hlast] at hlen hlen' ⊢
      rw [if_pos hcond]
      omega
    · have hcond : (lastPage t.xmem && !decide (t.mode = .checkPattern)) = false := by
        by_contra hne
        rw [Bool.not_eq_false, Bool.and_eq_true, Bool.not_eq_true', decide_eq_false_iff_not] at hne
        exact hlast hne
      rw [if_neg hlast] at hlen hlen' ⊢
      rw [hcond, if_neg Bool.false_ne_true]
      simp only [payloadBytesPerPage] at hlen ⊢
      omega
  have hend : 1 ≤ t.dataEnd c ∧ t.dataEnd c ≤ 4096 := by
    rw [Transfer.dataEnd]
    omega
  have hwrite : (t.dataEnd c - 1 + 1) % 2 ^ 32 = t.dataEnd c := by omega
  rw [xmemCopyData, copyAndCheckBurst]
  simp only [if_neg (not_not_intro hhead), if_neg hne, if_neg (not_not_intro hcnt), hmax, hwrite]
  by_cases hmode : t.mode = .checkPattern
  · have hright := hc.pattern hmode
    simp only [hmode, decide_true, if_true, hright, acceptedRegs]
    cases lastPage t.xmem <;> rfl
  · simp only [hmode, decide_false, Bool.false_eq_true, if_false, acceptedRegs]
    cases lastPage t.xmem <;> rfl

end Copy

/-! ### A page is written to HWICAP -/

section Follow

variable {t : Transfer} {c : XmemCall} {T : ℕ}

lemma dvd_writtenBytes (t : Transfer) : 4 ∣ t.writtenBytes.length := by
  rw [Transfer.writtenBytes, List.length_flatMap]
  induction t.written with
  | nil => exact Nat.dvd_zero 4
  | cons w l ih =>
      rw [List.map_cons, List.sum_cons]
      have hfour : (wordBytes w).length = 4 := by
        rw [wordBytes]
        split <;> rfl
      rw [hfour]
      exact Nat.dvd_add (Nat.dvd_refl 4) ih

/-- Whole words are written whole. -/
lemma Written.whole (h : Written t) (hdvd : 4 ∣ (t.stream.drop t.header).length) :
    t.writtenBytes = t.stream.drop t.header := by
  obtain ⟨rest, heq, hlen, -⟩ := h
  have hw := dvd_writtenBytes t
  rw [← heq, List.length_append] at hdvd
  have hrest : rest = [] := by
    refine List.eq_nil_of_length_eq_zero ?_
    have := (Nat.dvd_add_right hw).mp hdvd
    omega
  rw [hrest, List.append_nil] at heq
  exact heq

/-- The data up to the index `T` are written, and less than four bytes are left. -/
structure DataReady (c : XmemCall) (t : Transfer) (T : ℕ) : Prop where
  mode : t.mode = .toHwicap ∨ t.mode = .httpPayload
  ended : t.ended = false
  eos : c.eos = true
  maxWrite : t.regs.bufferInPtrMaxWrite = T - 1
  pos : 1 ≤ T
  four : T ≠ 4
  read : t.regs.bufferInPtrNextRead ≤ T
  write : t.regs.bufferInPtrWrite = if 3970 ≤ T then 0 else T
  data : t.writtenBytes ++ window t.regs.bufferIn t.regs.bufferInPtrNextRead
    (T - t.regs.bufferInPtrNextRead) = t.stream.drop t.header
  noHttpNL : ¬ HasHttpNL (window t.regs.bufferIn t.regs.bufferInPtrNextRead
    (T - t.regs.bufferInPtrNextRead))
  full : t.regs.lastXmemPageReceived = false →
    (∃ k n, T = 126 * k + n ∧ n < 4 ∧
      (t.mode = .toHwicap → n = 0 ∧ t.regs.bufferInPtrNextRead % 4 = 0)) ∧
    T < 4096 ∧ (3970 ≤ T → t.mode = .httpPayload → c.parseHTTP = true)

/-- What `OP_BUFFER_TO_HWICAP` leaves as it is. -/
lemma toHwicap_frame (h : DataReady c t T) :
    (t.toHwicap c).pages = t.pages ∧ (t.toHwicap c).mode = t.mode ∧
      (t.toHwicap c).header = t.header ∧ (t.toHwicap c).ended = t.regs.lastXmemPageReceived ∧
      (t.toHwicap c).regs.xmemPageTransCnt = t.regs.xmemPageTransCnt ∧
      ∀ k, 16 ≤ k ∨ T < 3970 → (t.toHwicap c).regs.bufferIn k = t.regs.bufferIn k := by
  have hout := bufferToHwicap_eq (c := c) h.maxWrite h.pos h.four h.read h.noHttpNL
  have hdiv : t.regs.bufferInPtrNextRead + 4 * ((T - t.regs.bufferInPtrNextRead) / 4) ≤ T := by
    have := h.read
    omega
  obtain ⟨b, w, n, e, heq, hb⟩ := wrapRead_frame c { t.regs with
    bufferInPtrNextRead := t.regs.bufferInPtrNextRead + 4 * ((T - t.regs.bufferInPtrNextRead) / 4) }
  rw [Transfer.toHwicap, if_pos h.eos]
  simp only [hout]
  refine ⟨trivial, trivial, trivial, trivial, by rw [heq], fun k hk => ?_⟩
  rcases hk with hk | hk
  · rw [heq]
    exact hb k hk
  · rw [wrapRead_of_lt (by dsimp only; omega)]

/-- **The data are written** up to less than four bytes, which stay in the buffer. -/
lemma toHwicap_payload (h : DataReady c t T) :
    PayloadInv (t.toHwicap c) ∧
      ((t.toHwicap c).ended = false → (t.toHwicap c).regs.bufferInPtrWrite < 3970) := by
  have hout := bufferToHwicap_eq (c := c) h.maxWrite h.pos h.four h.read h.noHttpNL
  have hread := h.read
  set n := t.regs.bufferInPtrNextRead with hn
  set m := (T - n) / 4 with hm
  have hdiv : 4 * m ≤ T - n ∧ T - n < 4 * m + 4 := by omega
  -- the rest of the data
  set rest := window t.regs.bufferIn (n + 4 * m) (T - (n + 4 * m)) with hrest
  have hlen : rest.length < 4 := by
    rw [hrest, window_length]
    omega
  have hbytes : (t.toHwicap c).writtenBytes ++ rest = t.stream.drop t.header := by
    have hsplit : window t.regs.bufferIn n (T - n) =
        window t.regs.bufferIn n (4 * m) ++ rest := by
      rw [hrest, ← window_add]
      congr 1
      omega
    rw [← h.data, hsplit, Transfer.toHwicap, if_pos h.eos, Transfer.writtenBytes]
    simp only [hout]
    rw [List.flatMap_append, bytes_bufferWords, List.append_assoc, Transfer.writtenBytes]
  obtain ⟨hpages, hmode, hheader, hended, -, -⟩ := toHwicap_frame h
  have hstream : (t.toHwicap c).stream = t.stream := by rw [Transfer.stream, hpages]; rfl
  rw [← hstream, ← hheader] at hbytes
  by_cases hlast : t.regs.lastXmemPageReceived = true
  · have hend : (t.toHwicap c).ended = true := hended.trans hlast
    have absurd' {p : Prop} (hno : (t.toHwicap c).ended = false) : p :=
      absurd (hend.symm.trans hno) (by decide)
    exact ⟨⟨⟨rest, hbytes, hlen, absurd'⟩, absurd', absurd'⟩, absurd'⟩
  · obtain ⟨⟨k, j, hT, hj, hto⟩, hlt, hparse⟩ := h.full (Bool.eq_false_of_not_eq_true hlast)
    have hregs : (t.toHwicap c).regs = wrapRead c { t.regs with bufferInPtrNextRead := n + 4 * m } := by
      rw [Transfer.toHwicap, if_pos h.eos]
      simp only [hout]
    have hwrite := h.write
    by_cases hwrap : T < 3970
    · rw [wrapRead_of_lt (by dsimp only; omega)] at hregs
      rw [if_neg (by omega)] at hwrite
      refine ⟨⟨⟨rest, hbytes, hlen, fun _ => ?_⟩, fun _ => ?_, fun _ => ⟨k, j, ?_, hj, fun hm' => ?_⟩⟩,
        fun _ => ?_⟩
      · rw [Transfer.unread, hregs]
        show window t.regs.bufferIn (n + 4 * m) (t.regs.bufferInPtrWrite - (n + 4 * m)) = rest
        rw [hwrite]
      · rw [hregs]
        show n + 4 * m ≤ t.regs.bufferInPtrWrite
        omega
      · rw [hregs]
        exact hwrite.trans hT
      · obtain ⟨hj0, hn4⟩ := hto (hmode.symm.trans hm')
        rw [hregs]
        exact ⟨hj0, by show (n + 4 * m) % 4 = 0; omega⟩
      · rw [hregs]
        show t.regs.bufferInPtrWrite < 3970
        omega
    · -- the buffer is full: 32 pages and the bytes that were moved before
      have hfull : T = 4032 + j := by omega
      rw [if_pos (by omega)] at hwrite
      have hleft : T - (n + 4 * m) = 0 ∨ c.parseHTTP = true := by
        rcases h.mode with hmode | hmode
        · obtain ⟨hj0, hn4⟩ := hto hmode
          left
          omega
        · exact .inr (hparse (by omega) hmode)
      have hmax : t.regs.bufferInPtrMaxWrite + 1 = n + 4 * m + (T - (n + 4 * m)) := by
        have := h.maxWrite
        omega
      have hge : 3970 ≤ n + 4 * m := by omega
      rw [wrapRead_of_le (r := { t.regs with bufferInPtrNextRead := n + 4 * m }) hge hmax (by omega)
        hwrite hleft] at hregs
      refine ⟨⟨⟨rest, hbytes, hlen, fun _ => ?_⟩, fun _ => ?_,
        fun _ => ⟨0, T - (n + 4 * m), ?_, by omega, fun hm' => ?_⟩⟩, fun _ => ?_⟩
      · rw [Transfer.unread, hregs]
        have hst := window_store t.regs.bufferIn 0
          (window t.regs.bufferIn (n + 4 * m) (T - (n + 4 * m)))
        rw [window_length] at hst
        exact hst
      · rw [hregs]
        exact Nat.zero_le _
      · rw [hregs]
        exact (Nat.zero_add _).symm
      · obtain ⟨hj0, hn4⟩ := hto (hmode.symm.trans hm')
        rw [hregs]
        exact ⟨by omega, rfl⟩
      · rw [hregs]
        show T - (n + 4 * m) < 3970
        omega

end Follow

/-! ### Steps -/

section Steps

variable {t t' : Transfer} {c : XmemCall} {e : XmemEvent}

lemma unread_of_agree (hw : t'.regs.bufferInPtrWrite = t.regs.bufferInPtrWrite)
    (hn : t'.regs.bufferInPtrNextRead = t.regs.bufferInPtrNextRead)
    (hbuf : ∀ k < t.regs.bufferInPtrWrite, t'.regs.bufferIn k = t.regs.bufferIn k) :
    t'.unread = t.unread := by
  rw [Transfer.unread, Transfer.unread, hw, hn]
  exact window_congr fun k hk hlt => hbuf k (by omega)

/-- What does not touch the data keeps the invariant. -/
lemma TransferInv.keep (h : TransferInv t) (hmode : t'.mode = t.mode)
    (hended : t'.ended = false → t.ended = false) (hpages : t'.pages = t.pages)
    (hwritten : t'.written = t.written) (hheader : t'.header = t.header)
    (hw : t'.regs.bufferInPtrWrite = t.regs.bufferInPtrWrite)
    (hn : t'.regs.bufferInPtrNextRead = t.regs.bufferInPtrNextRead)
    (hcnt : t'.regs.xmemPageTransCnt = t.regs.xmemPageTransCnt)
    (hbuf : ∀ k < t.regs.bufferInPtrWrite, t'.regs.bufferIn k = t.regs.bufferIn k) :
    TransferInv t' := by
  have hunread := unread_of_agree hw hn hbuf
  have hstream : t'.stream = t.stream := by rw [Transfer.stream, Transfer.stream, hpages]
  have hbytes : t'.writtenBytes = t.writtenBytes := by
    rw [Transfer.writtenBytes, Transfer.writtenBytes, hwritten]
  have payload (hp : PayloadInv t) : PayloadInv t' := by
    obtain ⟨⟨rest, heq, hlen, hrest⟩, hread, hwrite⟩ := hp
    refine ⟨⟨rest, ?_, hlen, fun hnot => hunread.trans (hrest (hended hnot))⟩, fun hnot => ?_,
      fun hnot => ?_⟩
    · rw [hbytes, hstream, hheader]
      exact heq
    · rw [hn, hw]
      exact hread (hended hnot)
    · rw [hn, hw, hmode]
      exact hwrite (hended hnot)
  refine ⟨?_, ?_, fun hnot => hw ▸ h.write (hended hnot), fun hm => ?_, fun hm => ?_, fun hm => ?_⟩
  · rw [expCnt_eq, hcnt, ← expCnt_eq, hpages]
    exact h.expCnt
  · rw [hpages]
    exact h.counters
  · obtain ⟨hnil, hread, hst, hwrite⟩ := h.header (hmode.symm.trans hm)
    refine ⟨hwritten.trans hnil, fun hnot => hn.trans (hread (hended hnot)), fun hnot => ?_,
      fun hnot => hw ▸ hwrite (hended hnot)⟩
    rw [hw, hstream, ← hst (hended hnot)]
    exact window_congr fun k _ hk => hbuf k (by omega)
  · obtain ⟨hzero, hp⟩ := h.toHwicap (hmode.symm.trans hm)
    exact ⟨hheader.trans hzero, payload hp⟩
  · obtain ⟨⟨k, hk, hh⟩, hp⟩ := h.httpPayload (hmode.symm.trans hm)
    exact ⟨⟨k, by rw [hstream]; exact hk, hheader.trans hh⟩, payload hp⟩

/-- What the invariant says about a step. -/
lemma TransferInv.exact (h : TransferInv t')
    (happ : Kept t t' ∧ t'.pages = t.pages ∨ ∃ c, e = .call c ∧ Appends c t t') : Exact t e t' := by
  refine ⟨h.counters, happ, fun hm => ?_, fun hm => ?_, fun hm => ?_, fun hm hdvd => ?_⟩
  · obtain ⟨hnil, hread, hst, -⟩ := h.header hm
    refine ⟨hnil, fun hnot => ?_⟩
    rw [Transfer.unread, hread hnot, Nat.sub_zero]
    exact hst hnot
  · exact ⟨(h.toHwicap hm).1, (h.toHwicap hm).2.written⟩
  · exact ⟨(h.httpPayload hm).1, (h.httpPayload hm).2.written⟩
  · rcases hm with hm | hm
    · exact (h.toHwicap hm).2.written.whole hdvd
    · exact (h.httpPayload hm).2.written.whole hdvd

/-- A page that is not accepted. -/
lemma TransferInv.rejects (h : TransferInv t) (hnot : t.ended = false) (hno : ¬ t.Accepts) :
    Exact t (.call c) (t.call c) ∧ TransferInv (t.call c) := by
  obtain ⟨hret, hregs⟩ := xmemCopyData_rejects hno (decide (t.mode = .checkPattern)) c.lastPageCntIn
  have hcall : ∃ b, t.call c = { t with
      regs := { t.regs with
        bufferIn := store t.regs.bufferIn t.regs.bufferInPtrWrite (burst t.xmem)
        lastXmemPageReceived := false }
      ended := b } := by
    rw [Transfer.call, hnot, if_neg Bool.false_ne_true]
    rcases hret with hret | hret | hret
    · simp only [hret, hregs]
      exact ⟨false, rfl⟩
    · simp only [hret, hregs]
      exact ⟨false, rfl⟩
    · simp only [hret, hregs]
      exact ⟨true, rfl⟩
  obtain ⟨b, hcall⟩ := hcall
  have hbuf : ∀ k < t.regs.bufferInPtrWrite,
      store t.regs.bufferIn t.regs.bufferInPtrWrite (burst t.xmem) k = t.regs.bufferIn k :=
    fun k hk => store_of_lt hk
  rw [hcall]
  have hinv : TransferInv { t with
      regs := { t.regs with
        bufferIn := store t.regs.bufferIn t.regs.bufferInPtrWrite (burst t.xmem)
        lastXmemPageReceived := false }
      ended := b } := h.keep rfl (fun _ => hnot) rfl rfl rfl rfl rfl rfl hbuf
  exact ⟨hinv.exact (.inl ⟨⟨rfl, rfl, rfl, rfl, unread_of_agree rfl rfl hbuf, rfl⟩, rfl⟩), hinv⟩

/-- The transfer behind a page that was accepted. -/
def acceptedTransfer (c : XmemCall) (t : Transfer) : Transfer :=
  { t with
    regs := acceptedRegs c t
    pages := t.pages ++ [(curCnt t.xmem, t.payload c)] }

lemma call_accepts (h : TransferInv t) (hnot : t.ended = false) (ha : t.Accepts) (hc : Careful c t) :
    t.call c = (acceptedTransfer c t).follow c := by
  have hcopy := xmemCopyData_accepts ha hc (h.write hnot)
  have haccept : ({ t with regs := acceptedRegs c t }.accept c) = acceptedTransfer c t := rfl
  rw [Transfer.call, if_neg (by rw [hnot]; exact Bool.false_ne_true)]
  simp only [hcopy]
  cases lastPage t.xmem with
  | true =>
      rw [if_pos rfl]
      exact congrArg (fun x : Transfer => x.follow c) haccept
  | false =>
      rw [if_neg Bool.false_ne_true]
      exact congrArg (fun x : Transfer => x.follow c) haccept

lemma payload_length (hc : Careful c t) : (t.payload c).length = t.payloadLen c := by
  have hle := (payloadLen_le hc).2
  rw [Transfer.payload, List.length_take, burst_length]
  omega

lemma stream_accepted : (acceptedTransfer c t).stream = t.stream ++ t.payload c := by
  show (t.pages ++ [(curCnt t.xmem, t.payload c)]).flatMap Prod.snd = _
  rw [List.flatMap_append, Transfer.stream]
  simp

/-- The data in the buffer, and the payload behind them. -/
lemma window_accepted (hc : Careful c t) {n : ℕ} (hn : n ≤ t.regs.bufferInPtrWrite) :
    window (acceptedTransfer c t).regs.bufferIn n (t.dataEnd c - n) =
      window t.regs.bufferIn n (t.regs.bufferInPtrWrite - n) ++ t.payload c := by
  have hle := (payloadLen_le hc).2
  have hstore := window_store_add (m := t.regs.bufferIn) (i := n)
    (n := t.regs.bufferInPtrWrite - n) (l := burst t.xmem) (k := t.payloadLen c)
    (by rw [burst_length]; exact hle)
  rw [Nat.add_sub_cancel' hn] at hstore
  have hlen : t.dataEnd c - n = t.regs.bufferInPtrWrite - n + t.payloadLen c := by
    rw [Transfer.dataEnd]
    omega
  rw [hlen]
  exact hstore

/-- The payload in the buffer. -/
lemma payload_accepted (hc : Careful c t) :
    window (acceptedTransfer c t).regs.bufferIn t.regs.bufferInPtrWrite (t.payload c).length =
      t.payload c := by
  have h := window_accepted hc (Nat.le_refl t.regs.bufferInPtrWrite)
  rw [Nat.sub_self, window_zero, List.nil_append, Transfer.dataEnd, Nat.add_sub_cancel_left] at h
  rw [payload_length hc]
  exact h

/-- The counters stay in order. -/
lemma counters_accepted (h : TransferInv t) (ha : t.Accepts) :
    (acceptedTransfer c t).regs.expCnt = BitVec.ofNat 4 (acceptedTransfer c t).pages.length ∧
      (acceptedTransfer c t).pages.map Prod.fst =
        (List.range (acceptedTransfer c t).pages.length).map (BitVec.ofNat 4) := by
  have hlen : (acceptedTransfer c t).pages.length = t.pages.length + 1 := by
    show (t.pages ++ [(curCnt t.xmem, t.payload c)]).length = _
    rw [List.length_append]
    rfl
  rw [hlen]
  constructor
  · rw [expCnt_eq]
    show t.regs.expCnt + 1 = _
    rw [h.expCnt, BitVec.ofNat_add]
    rfl
  · show (t.pages ++ [(curCnt t.xmem, t.payload c)]).map Prod.fst = _
    rw [List.map_append, h.counters, List.range_succ, List.map_append, ha.2, h.expCnt]
    rfl

/-! ### The header -/

lemma isHttpNL_append {l r : List Byte} {j : ℕ} (hj : j + 4 ≤ l.length) :
    IsHttpNL (l ++ r) j ↔ IsHttpNL l j := by
  rw [IsHttpNL, IsHttpNL, List.drop_append_of_le_length (by omega),
    List.take_append_of_le_length (by rw [List.length_drop]; omega)]

/-- A header that ends in the first part of some data. -/
lemma headerEnd_append {l r : List Byte} {k : ℕ} (hk : k + 4 ≤ l.length) :
    headerEnd (l ++ r) = some k ↔ headerEnd l = some k := by
  rw [headerEnd_eq_some, headerEnd_eq_some, isHttpNL_append hk]
  refine and_congr_right fun _ => forall₂_congr fun j hj => ?_
  rw [isHttpNL_append (by omega)]

lemma HeaderRead.le (h : HeaderRead t) : t.header ≤ t.stream.length := by
  obtain ⟨k, hk, hh⟩ := h
  have := (headerEnd_eq_some.mp hk).1.length
  omega

/-- The results behind a complete header. -/
lemma matchedPath_code {b : List Byte} {len : ℕ} {r path : PathRegs} {v : ℤ}
    (h : matchedPath b len r = some (v, path)) :
    v ≠ -1 ∧ v ≠ 0 ∧ (v = 2 → path.bufferInPtrNextRead = len + 4) := by
  rw [matchedPath] at h
  cases hreq : reqTypeOf b with
  | postConfig =>
      rw [hreq] at h
      obtain ⟨rfl, rfl⟩ := Prod.mk.inj (Option.some.inj h)
      exact ⟨by decide, by decide, fun _ => rfl⟩
  | getStatus | postRouting | invalid =>
      rw [hreq] at h
      obtain ⟨rfl, rfl⟩ := Prod.mk.inj (Option.some.inj h)
      exact ⟨by decide, by decide, fun h => absurd h (by decide)⟩
  | putRank =>
      rw [hreq] at h
      obtain ⟨n, -, hn⟩ := Option.map_eq_some_iff.mp h
      rw [storeRank] at hn
      split at hn <;> obtain ⟨rfl, rfl⟩ := Prod.mk.inj hn <;>
        exact ⟨by decide, by decide, fun h => absurd h (by decide)⟩
  | putSize =>
      rw [hreq] at h
      obtain ⟨n, -, hn⟩ := Option.map_eq_some_iff.mp h
      rw [storeSize] at hn
      split at hn <;> obtain ⟨rfl, rfl⟩ := Prod.mk.inj hn <;>
        exact ⟨by decide, by decide, fun h => absurd h (by decide)⟩

/-- `extract_path` finds a configuration behind a complete header, and waits without one. -/
lemma extractPath_code {b : List Byte} {rx : Bool} {r path : PathRegs} {v : ℤ}
    (h : extractPath b rx r = some (v, path)) :
    (v = 2 → ∃ k, headerLen b = some k ∧ path.bufferInPtrNextRead = k + 4) ∧
      (v = -1 ∨ v = 0 → headerLen b = none ∨ headerLen b = some 0) := by
  have hinc : incomplete b rx ≠ 2 := by
    rw [incomplete]
    split <;> decide
  rw [extractPath_eq] at h
  cases hlen : headerLen b with
  | none =>
      rw [hlen] at h
      refine ⟨fun hv => ?_, fun _ => .inl rfl⟩
      split_ifs at h
      · obtain ⟨rfl, -⟩ := Prod.mk.inj (Option.some.inj h)
        exact absurd hv (by decide)
      · obtain ⟨rfl, -⟩ := Prod.mk.inj (Option.some.inj h)
        exact absurd hv hinc
  | some n =>
      have htext := (headerLen_eq_some.mp hlen).2
      rw [hlen] at h
      cases n with
      | zero =>
          refine ⟨fun hv => ?_, fun _ => .inr rfl⟩
          dsimp only at h
          split_ifs at h
          · obtain ⟨rfl, -⟩ := Prod.mk.inj (Option.some.inj h)
            exact absurd hv (by decide)
          · obtain ⟨rfl, -⟩ := Prod.mk.inj (Option.some.inj h)
            exact absurd hv hinc
      | succ k =>
          dsimp only at h
          split_ifs at h
          · omega
          · obtain ⟨h₁, h₂, h₃⟩ := matchedPath_code h
            refine ⟨fun hv => ⟨k + 1, rfl, h₃ hv⟩, fun hv => ?_⟩
            rcases hv with hv | hv
            · exact absurd hv h₁
            · exact absurd hv h₂

/-! ### Accepted pages -/

/-- The data in front of HWICAP, when a page is accepted in the payload. -/
lemma dataReady_payload (h : TransferInv t) (hnot : t.ended = false) (hc : Careful c t)
    (hm : t.mode = .toHwicap ∨ t.mode = .httpPayload) :
    DataReady c (acceptedTransfer c t) (t.dataEnd c) := by
  have hcheck : t.mode ≠ .checkPattern := by rcases hm with hm | hm <;> rw [hm] <;> nofun
  have hp : PayloadInv t := by
    rcases hm with hm | hm
    · exact (h.toHwicap hm).2
    · exact (h.httpPayload hm).2
  have hheader : t.header ≤ t.stream.length := by
    rcases hm with hm | hm
    · rw [(h.toHwicap hm).1]
      exact Nat.zero_le _
    · exact (h.httpPayload hm).1.le
  obtain ⟨⟨rest, hbytes, -, hrest⟩, hread, hwrite⟩ := hp
  have hread := hread hnot
  have hlen := payloadLen_le hc
  have hnext : (acceptedTransfer c t).regs.bufferInPtrNextRead = t.regs.bufferInPtrNextRead :=
    if_neg hcheck
  have hwin := window_accepted hc hread
  refine ⟨hm, hnot, hc.eos hcheck, rfl, ?_, hc.four hcheck, ?_, rfl, ?_, ?_, fun hlast => ?_⟩
  · rw [Transfer.dataEnd]
    omega
  · rw [hnext, Transfer.dataEnd]
    omega
  · rw [hnext, hwin, stream_accepted]
    show t.writtenBytes ++ (t.unread ++ t.payload c) = (t.stream ++ t.payload c).drop t.header
    rw [hrest hnot, ← List.append_assoc, hbytes, List.drop_append_of_le_length hheader]
  · rw [hnext, hwin]
    exact hc.words hm
  · have hlast : lastPage t.xmem = false := hlast
    have hpay : t.payloadLen c = 126 := by
      rw [Transfer.payloadLen, if_neg fun h => absurd (hlast.symm.trans h.1) Bool.false_ne_true]
      rfl
    obtain ⟨k, n, hk, hn, hto⟩ := hwrite hnot
    have hlt := h.write hnot
    refine ⟨⟨k + 1, n, ?_, hn, fun hm' => ?_⟩, ?_, fun hfull hm' => ?_⟩
    · rw [Transfer.dataEnd, hpay]
      omega
    · rw [hnext]
      exact hto hm'
    · rw [Transfer.dataEnd]
      omega
    · exact hc.parseHTTP (.inl hm') hfull hlast

/-- The invariant behind `OP_BUFFER_TO_HWICAP`. -/
lemma toHwicap_inv {T : ℕ} (hd : DataReady c t T)
    (hcnt : t.regs.expCnt = BitVec.ofNat 4 t.pages.length)
    (hcounters : t.pages.map Prod.fst = (List.range t.pages.length).map (BitVec.ofNat 4))
    (hzero : t.mode = .toHwicap → t.header = 0) (hread : t.mode = .httpPayload → HeaderRead t) :
    TransferInv (t.toHwicap c) := by
  obtain ⟨hpages, hmode, hheader, -, htrans, -⟩ := toHwicap_frame hd
  obtain ⟨hpayload, hwrite⟩ := toHwicap_payload hd
  have hstream : (t.toHwicap c).stream = t.stream := by
    rw [Transfer.stream, hpages]
    rfl
  refine ⟨?_, ?_, hwrite, fun hm => ?_, fun hm => ?_, fun hm => ?_⟩
  · rw [expCnt_eq, htrans, ← expCnt_eq, hpages]
    exact hcnt
  · rw [hpages]
    exact hcounters
  · rw [hmode] at hm
    rcases hd.mode with h | h <;> exact nomatch h.symm.trans hm
  · rw [hmode] at hm
    exact ⟨hheader.trans (hzero hm), hpayload⟩
  · rw [hmode] at hm
    obtain ⟨k, hk, hh⟩ := hread hm
    exact ⟨⟨k, by rw [hstream]; exact hk, hheader.trans hh⟩, hpayload⟩

/-- The payload stays in the buffer when the words are written. -/
lemma appends_toHwicap (hd : DataReady c t' (t.dataEnd c)) (hc : Careful c t)
    (hpages : t'.pages = (acceptedTransfer c t).pages)
    (hbuf : t'.regs.bufferIn = (acceptedTransfer c t).regs.bufferIn) :
    Appends c t (t'.toHwicap c) := by
  obtain ⟨hpages', -, -, -, -, hkeep⟩ := toHwicap_frame hd
  have hlen := payload_length hc
  have hle := payloadLen_le hc
  refine ⟨hpages'.trans hpages, Eq.trans (window_congr fun k hk hlt => ?_) (payload_accepted hc)⟩
  rw [← hbuf]
  refine hkeep k ?_
  rw [Transfer.dataEnd]
  omega

/-- **A page of the payload is accepted.** -/
lemma TransferInv.payloadPage (h : TransferInv t) (hnot : t.ended = false) (ha : t.Accepts)
    (hc : Careful c t) (hm : t.mode = .toHwicap ∨ t.mode = .httpPayload) :
    Exact t (.call c) (t.call c) ∧ TransferInv (t.call c) := by
  have hd := dataReady_payload h hnot hc hm
  obtain ⟨hcnt, hcounters⟩ := counters_accepted (c := c) h ha
  have hcall : t.call c = (acceptedTransfer c t).toHwicap c := by
    rw [call_accepts h hnot ha hc, Transfer.follow]
    rcases hm with hm | hm
    · have hm' : (acceptedTransfer c t).mode = .toHwicap := hm
      rw [hm']
    · have hm' : (acceptedTransfer c t).mode = .httpPayload := hm
      rw [hm']
  have hinv : TransferInv (t.call c) := by
    rw [hcall]
    refine toHwicap_inv hd hcnt hcounters (fun hm' => (h.toHwicap hm').1) fun hm' => ?_
    obtain ⟨k, hk, hh⟩ := (h.httpPayload hm').1
    refine ⟨k, ?_, hh⟩
    rw [stream_accepted]
    exact (headerEnd_append (headerEnd_eq_some.mp hk).1.length).mpr hk
  refine ⟨hinv.exact (.inr ⟨c, rfl, ?_⟩), hinv⟩
  rw [hcall]
  exact appends_toHwicap hd hc rfl rfl

/-- **A page of a pattern is accepted.** -/
lemma TransferInv.check (h : TransferInv t) (hnot : t.ended = false) (ha : t.Accepts)
    (hc : Careful c t) (hm : t.mode = .checkPattern) :
    Exact t (.call c) (t.call c) ∧ TransferInv (t.call c) := by
  obtain ⟨hcnt, hcounters⟩ := counters_accepted (c := c) h ha
  have hcall : t.call c =
      { acceptedTransfer c t with mode := .checkPattern, ended := lastPage t.xmem } := by
    have hm' : (acceptedTransfer c t).mode = .checkPattern := hm
    rw [call_accepts h hnot ha hc, Transfer.follow, hm']
    rfl
  have hinv : TransferInv (t.call c) := by
    rw [hcall]
    refine ⟨hcnt, hcounters, fun _ => ?_, fun hm' => ?_, fun hm' => ?_, fun hm' => ?_⟩
    · show (if 3970 ≤ t.dataEnd c then 0 else t.dataEnd c) < 3970
      split <;> omega
    · cases hm'
    · cases hm'
    · cases hm'
  refine ⟨hinv.exact (.inr ⟨c, rfl, ?_⟩), hinv⟩
  rw [hcall]
  exact ⟨rfl, payload_accepted hc⟩

/-! ### A page of the header -/

/-- The transfer behind the page that completes the header. -/
def headerTransfer (c : XmemCall) (t : Transfer) (k : ℕ) : Transfer :=
  { acceptedTransfer c t with
    mode := .httpPayload
    header := k + 4
    regs.bufferInPtrNextRead := k + 4 }

/-- The stream is in the buffer. -/
lemma window_header (hh : HeaderInv t) (hnot : t.ended = false) (hc : Careful c t) :
    window (acceptedTransfer c t).regs.bufferIn 0 (t.dataEnd c) = (acceptedTransfer c t).stream := by
  have hwin := window_accepted hc (Nat.zero_le t.regs.bufferInPtrWrite)
  rw [Nat.sub_zero, Nat.sub_zero, hh.stream hnot] at hwin
  rw [stream_accepted]
  exact hwin

/-- The header of the stream is the one that `extract_path` finds. -/
lemma headerRead (hh : HeaderInv t) (hnot : t.ended = false) (hc : Careful c t)
    (hm : t.mode = .httpHeader) (hlt : t.dataEnd c ≤ inBufferSize) {k : ℕ}
    (hk : t.headerLen? = some k) : HeaderRead (headerTransfer c t k) := by
  have hend := hc.header hm k hk
  have hwin := window_header hh hnot hc
  refine ⟨k, ?_, rfl⟩
  show headerEnd (acceptedTransfer c t).stream = some k
  have hsplit : window (store t.regs.bufferIn t.regs.bufferInPtrWrite (burst t.xmem)) 0 inBufferSize =
      (acceptedTransfer c t).stream ++ window (acceptedTransfer c t).regs.bufferIn (t.dataEnd c)
        (inBufferSize - t.dataEnd c) := by
    rw [← hwin]
    have hadd := window_add (acceptedTransfer c t).regs.bufferIn 0 (t.dataEnd c)
      (inBufferSize - t.dataEnd c)
    rw [Nat.add_sub_cancel' hlt, Nat.zero_add] at hadd
    exact hadd
  rw [Transfer.headerLen?, hsplit] at hk
  refine (headerEnd_append ?_).mp (headerLen_eq_some.mp hk).1
  rw [← hwin, window_length]
  exact hend

/-- The data in front of HWICAP, when the header is complete. -/
lemma dataReady_header (hh : HeaderInv t) (hnot : t.ended = false) (hc : Careful c t)
    (hm : t.mode = .httpHeader) (hw : t.regs.bufferInPtrWrite < 3970) {k : ℕ}
    (hk : t.headerLen? = some k) : DataReady c (headerTransfer c t k) (t.dataEnd c) := by
  have hcheck : t.mode ≠ .checkPattern := by rw [hm]; nofun
  have hend := hc.header hm k hk
  have hlen := payloadLen_le hc
  have hwin := window_header hh hnot hc
  have hdata : window (acceptedTransfer c t).regs.bufferIn (k + 4) (t.dataEnd c - (k + 4)) =
      (acceptedTransfer c t).stream.drop (k + 4) := by
    rw [← hwin, drop_window _ _ hend, Nat.zero_add]
  refine ⟨.inr rfl, hnot, hc.eos hcheck, rfl, ?_, hc.four hcheck, hend, rfl, ?_, ?_,
    fun hlast => ?_⟩
  · rw [Transfer.dataEnd]
    omega
  · have hnil : (headerTransfer c t k).writtenBytes = [] := by
      show t.written.flatMap wordBytes = []
      rw [hh.written]
      rfl
    rw [hnil, List.nil_append]
    exact hdata
  · show ¬ HasHttpNL (window (acceptedTransfer c t).regs.bufferIn (k + 4) (t.dataEnd c - (k + 4)))
    rw [hdata, stream_accepted]
    exact hc.wordsHeader hm k hk
  · have hlast : lastPage t.xmem = false := hlast
    have hpay : t.payloadLen c = 126 := by
      rw [Transfer.payloadLen, if_neg fun h => absurd (hlast.symm.trans h.1) Bool.false_ne_true]
      rfl
    obtain ⟨j, hj⟩ := hh.write hnot
    refine ⟨⟨j + 1, 0, ?_, by decide, nofun⟩, ?_, fun hfull _ => hc.parseHTTP (.inr hm) hfull hlast⟩
    · rw [Transfer.dataEnd, hpay]
      omega
    · rw [Transfer.dataEnd]
      omega

/-- The header is complete with exactly one byte behind it. -/
lemma headerTransfer_inv (h : TransferInv t) (hnot : t.ended = false) (ha : t.Accepts)
    (hc : Careful c t) (hm : t.mode = .httpHeader) {k : ℕ} (hk : t.headerLen? = some k)
    (hone : t.dataEnd c = k + 5) : TransferInv (headerTransfer c t k) := by
  have hh := h.header hm
  obtain ⟨hcnt, hcounters⟩ := counters_accepted (c := c) h ha
  have hroom : t.dataEnd c < 3970 ∧ lastPage t.xmem = false := by
    refine hc.room hm (.inr (.inr ?_))
    rw [hk, hone]
    rfl
  have hd := dataReady_header hh hnot hc hm (h.write hnot) hk
  have hwrite : (headerTransfer c t k).regs.bufferInPtrWrite = t.dataEnd c := by
    rw [hd.write, if_neg (Nat.not_le.mpr hroom.1)]
  have hfull := (hd.full hroom.2).1
  have hnil : (headerTransfer c t k).writtenBytes = [] := by
    show t.written.flatMap wordBytes = []
    rw [hh.written]
    rfl
  have hunread : (headerTransfer c t k).unread =
      (headerTransfer c t k).stream.drop (headerTransfer c t k).header := by
    have hdata := hd.data
    rw [hnil, List.nil_append] at hdata
    rw [← hdata, Transfer.unread, hwrite]
  refine ⟨hcnt, hcounters, fun _ => hwrite ▸ hroom.1, nofun, nofun, fun _ =>
    ⟨headerRead hh hnot hc hm (Nat.le_of_lt (Nat.lt_trans hroom.1 (by decide))) hk, ?_⟩⟩
  refine ⟨⟨(headerTransfer c t k).unread, ?_, ?_, fun _ => rfl⟩, fun _ => ?_, fun _ => ?_⟩
  · rw [hnil, List.nil_append]
    exact hunread
  · rw [Transfer.unread, window_length, hwrite, hone]
    show k + 5 - (k + 4) < 4
    omega
  · rw [hwrite, hone]
    show k + 4 ≤ k + 5
    omega
  · rw [hwrite]
    exact hfull

/-- **A page of the header is accepted.** -/
lemma TransferInv.headerPage (h : TransferInv t) (hnot : t.ended = false) (ha : t.Accepts)
    (hc : Careful c t) (hm : t.mode = .httpHeader) :
    Exact t (.call c) (t.call c) ∧ TransferInv (t.call c) := by
  have hh := h.header hm
  have hlen := payloadLen_le hc
  have hlt := h.write hnot
  obtain ⟨hcnt, hcounters⟩ := counters_accepted (c := c) h ha
  have happ : Appends c t (acceptedTransfer c t) := ⟨rfl, payload_accepted hc⟩
  have hm' : (acceptedTransfer c t).mode = .httpHeader := hm
  have hcall : t.call c = (acceptedTransfer c t).handleHttp c := by
    rw [call_accepts h hnot ha hc, Transfer.follow, hm']
  -- the request is no configuration
  have ends : TransferInv { acceptedTransfer c t with ended := true } := by
    refine ⟨hcnt, hcounters, nofun, fun _ => ⟨hh.written, nofun, nofun, nofun⟩, fun h' => ?_,
      fun h' => ?_⟩
    · exact nomatch hm.symm.trans h'
    · exact nomatch hm.symm.trans h'
  have endsStep : Exact t (.call c) { acceptedTransfer c t with ended := true } :=
    ends.exact (.inr ⟨c, rfl, rfl, payload_accepted hc⟩)
  -- the header goes on
  have waits (hno : t.headerLen? = none ∨ t.headerLen? = some 0) :
      Exact t (.call c) (acceptedTransfer c t) ∧ TransferInv (acceptedTransfer c t) := by
    obtain ⟨hroom, hlast⟩ := hc.room hm (hno.elim .inl fun h' => .inr (.inl h'))
    have hwrite : (acceptedTransfer c t).regs.bufferInPtrWrite = t.dataEnd c :=
      if_neg (Nat.not_le.mpr hroom)
    have hnext : (acceptedTransfer c t).regs.bufferInPtrNextRead = 0 := by
      have hne : t.mode ≠ .checkPattern := by rw [hm]; nofun
      exact (if_neg hne).trans (hh.read hnot)
    have hpay : t.payloadLen c = 126 := by
      rw [Transfer.payloadLen, if_neg fun h' => absurd (hlast.symm.trans h'.1) Bool.false_ne_true]
      rfl
    have hinv : TransferInv (acceptedTransfer c t) := by
      refine ⟨hcnt, hcounters, fun _ => hwrite ▸ hroom, fun _ => ⟨hh.written, fun _ => hnext,
        fun _ => ?_, fun _ => ?_⟩, fun h' => ?_, fun h' => ?_⟩
      · rw [hwrite]
        exact window_header hh hnot hc
      · obtain ⟨j, hj⟩ := hh.write hnot
        refine ⟨j + 1, ?_⟩
        rw [hwrite, Transfer.dataEnd, hpay]
        omega
      · exact nomatch hm.symm.trans h'
      · exact nomatch hm.symm.trans h'
    exact ⟨hinv.exact (.inr ⟨c, rfl, happ⟩), hinv⟩
  rw [hcall, Transfer.handleHttp]
  have hlen? : headerLen (window (acceptedTransfer c t).regs.bufferIn 0 inBufferSize) =
      t.headerLen? := by
    rw [Transfer.headerLen?]
    generalize inBufferSize = n
    rfl
  cases hpath : extractPath (window (acceptedTransfer c t).regs.bufferIn 0 inBufferSize)
      (acceptedTransfer c t).regs.lastXmemPageReceived
      { bufferInPtrNextRead := (acceptedTransfer c t).regs.bufferInPtrNextRead } with
  | none => exact ⟨endsStep, ends⟩
  | some result =>
      obtain ⟨v, path⟩ := result
      obtain ⟨hconfig, hwait⟩ := extractPath_code hpath
      rw [hlen?] at hconfig hwait
      by_cases hv : v = 2
      · obtain ⟨k, hk, hnext⟩ := hconfig hv
        have hread := headerRead hh hnot hc hm (by rw [Transfer.dataEnd, inBufferSize]; omega) hk
        have hd := dataReady_header hh hnot hc hm hlt hk
        subst hv
        rw [Transfer.handlePath]
        dsimp only
        rw [hnext]
        have hend := hc.header hm k hk
        show Exact t (.call c) (if t.dataEnd c - 1 = k + 4 then headerTransfer c t k
          else (headerTransfer c t k).toHwicap c) ∧ TransferInv (if t.dataEnd c - 1 = k + 4 then
            headerTransfer c t k else (headerTransfer c t k).toHwicap c)
        split
        · have hone : t.dataEnd c = k + 5 := by omega
          have hinv := headerTransfer_inv h hnot ha hc hm hk hone
          exact ⟨hinv.exact (.inr ⟨c, rfl, rfl, payload_accepted hc⟩), hinv⟩
        · have hinv := toHwicap_inv hd hcnt hcounters nofun fun _ => hread
          exact ⟨hinv.exact (.inr ⟨c, rfl, appends_toHwicap hd hc rfl rfl⟩), hinv⟩
      · by_cases hv' : v = -1 ∨ v = 0
        · have hwaits := waits (hwait hv')
          rcases hv' with rfl | rfl
          · rw [Transfer.handlePath]
            exact hwaits
          · rw [Transfer.handlePath]
            exact hwaits
        · rw [Transfer.handlePath.eq_def]
          split
          · rename_i heq
            exact absurd (congrArg Prod.fst (Option.some.inj heq)) hv
          · rename_i heq
            exact absurd (.inl (congrArg Prod.fst (Option.some.inj heq))) hv'
          · rename_i heq
            exact absurd (.inr (congrArg Prod.fst (Option.some.inj heq))) hv'
          · exact ⟨endsStep, ends⟩

/-- **A step keeps the invariant**, and loses nothing. -/
theorem TransferInv.step (h : TransferInv t) (hr : Regular t e) :
    Exact t e (t.step e) ∧ TransferInv (t.step e) := by
  cases e with
  | host page =>
      have hinv : TransferInv { t with xmem := page } :=
        h.keep rfl id rfl rfl rfl rfl rfl rfl fun _ _ => rfl
      exact ⟨hinv.exact (.inl ⟨⟨rfl, rfl, rfl, rfl, rfl, rfl⟩, rfl⟩), hinv⟩
  | call c =>
      show Exact t (.call c) (t.call c) ∧ TransferInv (t.call c)
      cases hnot : t.ended with
      | true =>
          have hcall : t.call c = t := by rw [Transfer.call, hnot, if_pos rfl]
          rw [hcall]
          exact ⟨h.exact (.inl ⟨⟨rfl, rfl, rfl, rfl, rfl, rfl⟩, rfl⟩), h⟩
      | false =>
          by_cases ha : t.Accepts
          · have hc := hr hnot ha
            cases hm : t.mode with
            | checkPattern => exact h.check hnot ha hc hm
            | toHwicap => exact h.payloadPage hnot ha hc (.inl hm)
            | httpPayload => exact h.payloadPage hnot ha hc (.inr hm)
            | httpHeader => exact h.headerPage hnot ha hc hm
          · exact h.rejects hnot ha

end Steps

/-! ### Runs -/

/-- The state in which an operation starts. -/
lemma transferInv_start {m : Mode} (hm : m ≠ .httpPayload) : TransferInv { mode := m } := by
  refine ⟨rfl, rfl, fun _ => Nat.zero_lt_succ _, fun _ => ⟨rfl, fun _ => rfl, fun _ => rfl, fun _ => ⟨0, rfl⟩⟩,
    fun _ => ⟨rfl, ⟨[], rfl, by decide, fun _ => rfl⟩, fun _ => le_rfl, fun _ => ⟨0, 0, rfl, by decide,
      fun _ => ⟨rfl, rfl⟩⟩⟩, fun h => absurd h hm⟩

/-- A page with a header, the same footer, and some data. -/
def somePage (header : Byte) (i : ℕ) : Word :=
  if i = 0 then (0x030201 : BitVec 24) ++ header
  else if i = linesPerPage - 1 then header ++ (0x0C0B0A : BitVec 24)
  else BitVec.ofNat 32 i

/-- Every event is enabled. -/
lemma holds_step {Q : Transfer → XmemEvent → Transfer → Prop} {t : Transfer} {e : XmemEvent}
    {es : List XmemEvent} (hstep : Q t e (t.step e)) (hes : xmemMachine.Holds Q (t.step e) es) :
    xmemMachine.Holds Q t (e :: es) := by
  intro t' ht
  obtain rfl : t.step e = t' := Option.some.inj ht
  exact ⟨hstep, hes⟩

instance (l : List Byte) : Decidable (isHttpNL l) := inferInstanceAs (Decidable (_ ∨ _))

instance (l : List Byte) : Decidable (HasHttpNL l) :=
  inferInstanceAs (Decidable (∃ j < l.length, isHttpNL ((l.drop (4 * j)).take 4)))

/-- The calls of a configuration without HTTP. -/
lemma careful_toHwicap {t : Transfer} {c : XmemCall} (hm : t.mode = .toHwicap)
    (hcount : lastPage t.xmem = true → 1 ≤ c.lastPageCntIn.toNat ∧ c.lastPageCntIn.toNat ≤ 126)
    (heos : c.eos = true) (hfour : t.dataEnd c ≠ 4) (hwords : ¬ HasHttpNL (t.unread ++ t.payload c)) :
    Careful c t := by
  refine ⟨hcount, fun h => ?_, fun _ => heos, fun _ => hfour, fun _ => hwords, fun h => ?_,
    fun h => ?_, fun h => ?_, fun h => ?_⟩
  · exact nomatch hm.symm.trans h
  · exact nomatch hm.symm.trans h
  · exact nomatch hm.symm.trans h
  · exact nomatch hm.symm.trans h
  · rw [hm] at h
    exact h.elim nofun nofun

end CloudFpga.Fmc.Xmem
