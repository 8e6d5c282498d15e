import CloudFpga.Fmc.RequestParser
import CloudFpga.Nts.AxisRaw

/-!
The end of a request, as `fsmTcpData_RX` detects it in the network words that it stores.

* `RxRegs`, `rxByte`, `rxWord`: the words that `TCP_FSM_PROCESS_DATA` reads, from the state behind
  `OP_CLEAR_IN_BUFFER` and `OP_TCP_CNT_RESET`; a write outside `bufferIn` has no result.
* `storedBytes`: the bytes that a cut of the stream stores; `rxRun_spec`.
* `Independent`: every cut detects what is stored; `independent_iff`.
-/

namespace CloudFpga.Fmc.Rx

open Nal Http

/-! ### The words of the stream -/

/-- `NETWORK_WORD_BYTE_WIDTH`. -/
def networkWordByteWidth : ℕ := 8

/-- The registers that the detection reads and writes. -/
structure RxRegs where
  bufferIn : ℕ → Byte := fun _ => 0
  bufferInPtrWrite : ℕ := 0
  bufferInPtrMaxWrite : ℕ := 0
  tcpWriteOnlyFifo : Bool := false
  detectedHttpNlCnt : BitVec 2 := 0
  positionsOfDetectedHttpNl : BitVec 2 → ℕ := fun _ => 0
  last3Chars : Fin 3 → Byte := fun _ => 0

namespace RxRegs

variable (s : RxRegs)

/-- A position is saved. The counter has two bits. -/
def detected (position : ℕ) : RxRegs :=
  { s with
    positionsOfDetectedHttpNl :=
      Function.update s.positionsOfDetectedHttpNl s.detectedHttpNlCnt position
    detectedHttpNlCnt := s.detectedHttpNlCnt + 1 }

/-- `chars_to_compare`: the last four characters, over the wrap of the buffer. -/
def charsToCompare : List Byte :=
  (List.finRange 4).map fun i : Fin 4 =>
    if h : s.bufferInPtrWrite < 3 - i.val then s.last3Chars ⟨i.val, by omega⟩
    else s.bufferIn (s.bufferInPtrWrite - (3 - i.val))

/-- The comparison behind a byte that was stored. The position over the wrap is the one of the last
character. -/
def detect : RxRegs :=
  if 3 ≤ s.bufferInPtrWrite then
    if s.bufferIn s.bufferInPtrWrite = 0x0A ∧ s.bufferIn (s.bufferInPtrWrite - 1) = 0x0D ∧
        s.bufferIn (s.bufferInPtrWrite - 2) = 0x0A ∧ s.bufferIn (s.bufferInPtrWrite - 3) = 0x0D then
      s.detected (s.bufferInPtrWrite - 3)
    else s
  else if 3 ≤ s.bufferInPtrMaxWrite then
    if s.charsToCompare = httpNL then s.detected (inBufferSize + 1) else s
  else s

end RxRegs

/-- A byte. In the FIFO-only mode nothing is stored. -/
def rxByte (s : RxRegs) (currentByte : Byte) : Option RxRegs :=
  if s.tcpWriteOnlyFifo then some s
  else if s.bufferInPtrWrite < inBufferSize then
    let s := { s with bufferIn := Function.update s.bufferIn s.bufferInPtrWrite currentByte }
    some { s.detect with bufferInPtrWrite := s.bufferInPtrWrite + 1 }
  else none

def rxBytes : RxRegs → List Byte → Option RxRegs
  | s, [] => some s
  | s, c :: cs => (rxByte s c).bind fun s => rxBytes s cs

/-- The lanes that are not skipped: `tkeep >> i` is not zero. -/
def takenBytes : List Lane → List Byte
  | [] => []
  | l :: ls => if (l :: ls).any (·.keep) then l.data :: takenBytes ls else []

/-- A word. The wrap is tested behind its last byte. -/
def rxWord (s : RxRegs) (big : NetworkWord) : Option RxRegs :=
  (rxBytes s (takenBytes big.lanes)).map fun s =>
    if s.tcpWriteOnlyFifo then s
    else
      let maxWrite := (s.bufferInPtrWrite + (2 ^ 32 - 1)) % 2 ^ 32
      let s := { s with bufferInPtrMaxWrite := maxWrite }
      if inBufferSize - networkWordByteWidth ≤ s.bufferInPtrWrite then
        { s with
          last3Chars := fun i => s.bufferIn (maxWrite - 2 + i)
          bufferInPtrWrite := 0
          tcpWriteOnlyFifo := true }
      else s

/-- The words of a request. -/
def rxRun : RxRegs → List NetworkWord → Option RxRegs
  | s, [] => some s
  | s, c :: cs => (rxWord s c).bind fun s => rxRun s cs

/-- The positions that were saved. -/
def RxRegs.positions (s : RxRegs) : List ℕ :=
  (List.range s.detectedHttpNlCnt.toNat).map fun i => s.positionsOfDetectedHttpNl (BitVec.ofNat 2 i)

/-! ### The occurrences in a text -/

/-- The positions of two line breaks. -/
def occurrences (bs : List Byte) : List ℕ :=
  (List.range (bs.length - 3)).filter fun p => IsHttpNL bs p

lemma mem_occurrences {bs : List Byte} {p : ℕ} : p ∈ occurrences bs ↔ IsHttpNL bs p := by
  rw [occurrences, List.mem_filter, List.mem_range, decide_eq_true_eq]
  refine and_iff_right_of_imp fun h => ?_
  have hlen := h.length
  omega

/-- Bytes behind an occurrence do not matter. -/
lemma isHttpNL_append {bs cs : List Byte} {p : ℕ} (h : p + 4 ≤ bs.length) :
    IsHttpNL (bs ++ cs) p ↔ IsHttpNL bs p := by
  rw [IsHttpNL, IsHttpNL, List.drop_append_of_le_length (by omega),
    List.take_append_of_le_length (by rw [List.length_drop]; omega)]

/-- The bound of the search does not matter. -/
lemma occurrences_eq {bs : List Byte} {n : ℕ} (h : bs.length ≤ n + 3) :
    occurrences bs = (List.range n).filter fun p => IsHttpNL bs p := by
  obtain ⟨m, rfl⟩ := Nat.exists_eq_add_of_le (show bs.length - 3 ≤ n by omega)
  rw [List.range_add, List.filter_append, occurrences]
  rw [List.self_eq_append_right, List.filter_eq_nil_iff]
  intro p hp hnl
  obtain ⟨k, -, rfl⟩ := List.mem_map.mp hp
  have hlen := (of_decide_eq_true hnl).length
  omega

/-- The occurrences in a prefix are those that end in it. -/
lemma occurrences_prefix {bs cs : List Byte} (h : bs <+: cs) :
    occurrences bs = (occurrences cs).filter fun p => p + 3 < bs.length := by
  obtain ⟨t, rfl⟩ := h
  rw [@occurrences_eq bs ((bs ++ t).length - 3) (by rw [List.length_append]; omega),
    occurrences, List.filter_filter]
  refine List.filter_congr fun p _ => ?_
  rw [← Bool.decide_and]
  refine decide_eq_decide.mpr ?_
  constructor
  · intro hp
    exact ⟨hp.length, (isHttpNL_append hp.length).mpr hp⟩
  · rintro ⟨hlen, hp⟩
    exact (isHttpNL_append hlen).mp hp

/-- One byte more. -/
lemma occurrences_snoc (bs : List Byte) (c : Byte) :
    occurrences (bs ++ [c]) = occurrences bs ++
      if IsHttpNL (bs ++ [c]) (bs.length - 3) then [bs.length - 3] else [] := by
  rw [@occurrences_eq (bs ++ [c]) (bs.length - 3 + 1)
    (by rw [List.length_append, List.length_singleton]; omega),
    List.range_succ, List.filter_append, List.filter_singleton, occurrences]
  congr 1
  · refine List.filter_congr fun p hp => decide_eq_decide.mpr (isHttpNL_append ?_)
    have hlt := List.mem_range.mp hp
    omega
  · simp

/-! ### The stored part -/

/-- These positions are saved, modulo the width of the counter. -/
structure Saved (s : RxRegs) (ps : List ℕ) : Prop where
  count : s.detectedHttpNlCnt = BitVec.ofNat 2 ps.length
  position : ps.length ≤ 3 → ∀ i p, ps[i]? = some p →
    s.positionsOfDetectedHttpNl (BitVec.ofNat 2 i) = p

/-- The bytes `bs` are stored and their line breaks are saved. -/
structure Stored (s : RxRegs) (bs : List Byte) : Prop where
  buffer : ∀ j < bs.length, s.bufferIn j = bs.getD j 0
  saved : Saved s (occurrences bs)

/-- The buffer has not wrapped. -/
structure Storing (s : RxRegs) (bs : List Byte) : Prop where
  stored : Stored s bs
  write : s.bufferInPtrWrite = bs.length
  tcpWriteOnlyFifo : s.tcpWriteOnlyFifo = false
  maxWrite : s.bufferInPtrMaxWrite ≤ bs.length

/-- Line breaks, in the bytes of a text. -/
lemma isHttpNL_iff {bs : List Byte} {p : ℕ} :
    IsHttpNL bs p ↔ bs.getD p 0 = 0x0D ∧ bs.getD (p + 1) 0 = 0x0A ∧ bs.getD (p + 2) 0 = 0x0D ∧
      bs.getD (p + 3) 0 = 0x0A := by
  have hbyte : ∀ k, (bs.drop p).getD k 0 = bs.getD (p + k) 0 := by
    intro k
    rw [List.getD_eq_getElem?_getD, List.getElem?_drop, List.getD_eq_getElem?_getD]
  rw [IsHttpNL, take_four_eq, hbyte, hbyte, hbyte, hbyte, Nat.add_zero]

section Storing

variable {s : RxRegs} {bs : List Byte} {ps : List ℕ}

/-- A position more. -/
lemma Saved.detected (h : Saved s ps) (p : ℕ) : Saved (s.detected p) (ps ++ [p]) := by
  refine ⟨?_, fun hlen i q hq => ?_⟩
  · rw [RxRegs.detected, List.length_append, BitVec.ofNat_add, ← h.count]
    rfl
  · rw [List.length_append, List.length_singleton] at hlen
    have hi : i < ps.length + 1 := by
      have hlt := (List.getElem?_eq_some_iff.mp hq).1
      rwa [List.length_append, List.length_singleton] at hlt
    rw [RxRegs.detected]
    dsimp only
    rcases Nat.lt_or_eq_of_le (Nat.lt_succ_iff.mp hi) with hlt | rfl
    · have hne : BitVec.ofNat 2 i ≠ s.detectedHttpNlCnt := by
        rw [h.count]
        intro heq
        have hnat := congrArg BitVec.toNat heq
        rw [BitVec.toNat_ofNat, BitVec.toNat_ofNat] at hnat
        omega
      rw [Function.update_of_ne hne]
      exact h.position (by omega) i q (by rwa [List.getElem?_append_left hlt] at hq)
    · rw [← h.count, Function.update_self]
      rw [List.getElem?_append_right le_rfl, Nat.sub_self] at hq
      exact Option.some.inj hq

/-- The comparison behind a byte. -/
lemma detect_stored {c : Byte} (hbuf : ∀ j < (bs ++ [c]).length, s.bufferIn j = (bs ++ [c]).getD j 0)
    (hwrite : s.bufferInPtrWrite = bs.length) (hmax : s.bufferInPtrMaxWrite ≤ bs.length) :
    s.detect = if IsHttpNL (bs ++ [c]) (bs.length - 3) then s.detected (bs.length - 3) else s := by
  have hlen : (bs ++ [c]).length = bs.length + 1 := by
    rw [List.length_append, List.length_singleton]
  rw [RxRegs.detect, hwrite]
  by_cases h3 : 3 ≤ bs.length
  · rw [if_pos h3, hbuf _ (by omega), hbuf _ (by omega), hbuf _ (by omega), hbuf _ (by omega)]
    refine if_congr ?_ rfl rfl
    rw [isHttpNL_iff, show bs.length - 3 + 1 = bs.length - 2 by omega,
      show bs.length - 3 + 2 = bs.length - 1 by omega,
      show bs.length - 3 + 3 = bs.length by omega]
    tauto
  · rw [if_neg h3, if_neg (by omega), if_neg]
    intro hnl
    have h4 := hnl.length
    omega

/-- A byte that is stored. -/
lemma rxByte_storing (h : Storing s bs) (hlen : bs.length < inBufferSize) (c : Byte) :
    ∃ s', rxByte s c = some s' ∧ Storing s' (bs ++ [c]) ∧
      s'.bufferInPtrMaxWrite = s.bufferInPtrMaxWrite := by
  have hlen' : (bs ++ [c]).length = bs.length + 1 := by
    rw [List.length_append, List.length_singleton]
  have hwrite := h.write
  have hbuf : ∀ j < (bs ++ [c]).length,
      Function.update s.bufferIn s.bufferInPtrWrite c j = (bs ++ [c]).getD j 0 := by
    intro j hj
    rw [hwrite, List.getD_eq_getElem?_getD]
    rcases Nat.lt_or_eq_of_le (Nat.lt_succ_iff.mp (hlen' ▸ hj)) with hlt | rfl
    · rw [Function.update_of_ne hlt.ne, h.stored.buffer j hlt, List.getElem?_append_left hlt,
        List.getD_eq_getElem?_getD]
    · rw [Function.update_self, List.getElem?_append_right le_rfl, Nat.sub_self]
      rfl
  have hdetect := detect_stored
    (s := { s with bufferIn := Function.update s.bufferIn s.bufferInPtrWrite c })
    hbuf hwrite h.maxWrite
  have hmode : ¬s.tcpWriteOnlyFifo = true := by
    rw [h.tcpWriteOnlyFifo]
    exact Bool.false_ne_true
  rw [rxByte, if_neg hmode, if_pos (hwrite ▸ hlen)]
  refine ⟨_, rfl, ?_, ?_⟩
  · dsimp only
    rw [hdetect]
    have hsaved : Saved { s with bufferIn := Function.update s.bufferIn s.bufferInPtrWrite c }
        (occurrences bs) := ⟨h.stored.saved.count, h.stored.saved.position⟩
    split
    · rename_i hnl
      have hsnoc := hsaved.detected (bs.length - 3)
      refine ⟨⟨hbuf, ?_⟩, ?_, h.tcpWriteOnlyFifo, ?_⟩
      · rw [occurrences_snoc, if_pos hnl]
        exact ⟨hsnoc.count, hsnoc.position⟩
      · rw [hlen', hwrite]
      · exact h.maxWrite.trans (by omega)
    · rename_i hnl
      refine ⟨⟨hbuf, ?_⟩, ?_, h.tcpWriteOnlyFifo, ?_⟩
      · rw [occurrences_snoc, if_neg hnl, List.append_nil]
        exact ⟨hsaved.count, hsaved.position⟩
      · rw [hlen', hwrite]
      · exact h.maxWrite.trans (by omega)
  · dsimp only
    rw [hdetect]
    split <;> rfl

lemma rxBytes_storing (h : Storing s bs) {cs : List Byte}
    (hlen : bs.length + cs.length ≤ inBufferSize) :
    ∃ s', rxBytes s cs = some s' ∧ Storing s' (bs ++ cs) ∧
      s'.bufferInPtrMaxWrite = s.bufferInPtrMaxWrite := by
  induction cs generalizing s bs with
  | nil => exact ⟨s, rfl, by rwa [List.append_nil], rfl⟩
  | cons c cs ih =>
      rw [List.length_cons] at hlen
      obtain ⟨s', hs', hstoring, hmax⟩ := rxByte_storing h (by omega) c
      obtain ⟨t, ht, hfinal, hmax'⟩ := ih hstoring
        (by rw [List.length_append, List.length_singleton]; omega)
      rw [List.append_assoc] at hfinal
      exact ⟨t, by rw [rxBytes, hs']; exact ht, hfinal, hmax'.trans hmax⟩

/-- In a word of a packet the kept lanes come first. -/
lemma takenBytes_eq {ls : List Lane} {n m : ℕ}
    (h : ls.map (·.keep) = List.replicate n true ++ List.replicate m false) :
    takenBytes ls = keptBytes ls := by
  induction ls generalizing n with
  | nil => rfl
  | cons l ls ih =>
      rw [takenBytes]
      cases n with
      | zero =>
          have hnone : ∀ l' ∈ l :: ls, l'.keep = false := by
            intro l' hl'
            have hmem : l'.keep ∈ (l :: ls).map (·.keep) := List.mem_map_of_mem hl'
            rw [h, List.replicate_zero, List.nil_append] at hmem
            exact List.eq_of_mem_replicate hmem
          rw [keptBytes_eq_nil hnone, if_neg]
          intro hany
          obtain ⟨l', hl', hkeep⟩ := List.any_eq_true.mp hany
          exact Bool.false_ne_true ((hnone l' hl').symm.trans hkeep)
      | succ n =>
          rw [List.map_cons, List.replicate_succ, List.cons_append, List.cons.injEq] at h
          rw [if_pos (List.any_eq_true.mpr ⟨l, List.mem_cons_self, h.1⟩),
            keptBytes_cons_of_keep h.1, ih h.2]

/-- A word of a packet: it is stored, and the buffer wraps if it is nearly full. -/
lemma rxWord_storing (h : Storing s bs) {big : NetworkWord} (hbig : big.isValid)
    (hlen : bs.length < inBufferSize - networkWordByteWidth) :
    ∃ s', rxWord s big = some s' ∧ Stored s' (bs ++ big.bytes) ∧
      s'.bufferInPtrMaxWrite = (bs ++ big.bytes).length - 1 ∧
      if (bs ++ big.bytes).length < inBufferSize - networkWordByteWidth then
        Storing s' (bs ++ big.bytes) else s'.tcpWriteOnlyFifo = true := by
  have hle := big.length_bytes_le
  have hpos := AxisRaw.one_le_length_bytes hbig
  have hlen' : (bs ++ big.bytes).length = bs.length + big.bytes.length := List.length_append
  rw [inBufferSize, networkWordByteWidth] at hlen ⊢
  obtain ⟨t, ht, hstoring, -⟩ := @rxBytes_storing _ _ h big.bytes (by rw [inBufferSize]; omega)
  have htaken : takenBytes big.lanes = big.bytes := takenBytes_eq (AxisRaw.mask_of_isValid hbig).1
  have hmode : ¬t.tcpWriteOnlyFifo = true := by
    rw [hstoring.tcpWriteOnlyFifo]
    exact Bool.false_ne_true
  have hwrite := hstoring.write
  have hmax : (t.bufferInPtrWrite + (2 ^ 32 - 1)) % 2 ^ 32 = (bs ++ big.bytes).length - 1 := by
    rw [hwrite, hlen']
    omega
  rw [rxWord, htaken, ht, Option.map_some, if_neg hmode]
  refine ⟨_, rfl, ?_⟩
  dsimp only
  rw [hmax, inBufferSize, networkWordByteWidth]
  by_cases hwrap : (bs ++ big.bytes).length < 4096 - 8
  · rw [if_neg (by rw [hwrite]; omega), if_pos hwrap]
    have hst : Stored { t with bufferInPtrMaxWrite := (bs ++ big.bytes).length - 1 }
        (bs ++ big.bytes) :=
      ⟨hstoring.stored.buffer, hstoring.stored.saved.count, hstoring.stored.saved.position⟩
    exact ⟨hst, rfl, hst, hwrite, hstoring.tcpWriteOnlyFifo, Nat.sub_le ..⟩
  · rw [if_pos (by rw [hwrite]; omega), if_neg hwrap]
    exact ⟨⟨hstoring.stored.buffer, hstoring.stored.saved.count, hstoring.stored.saved.position⟩,
      rfl, rfl⟩

/-- In the FIFO-only mode the registers do not change. -/
lemma rxRun_fifo (h : s.tcpWriteOnlyFifo = true) (cs : List NetworkWord) :
    rxRun s cs = some s := by
  have hbytes : ∀ bs, rxBytes s bs = some s := by
    intro bs
    induction bs with
    | nil => rfl
    | cons c bs ih =>
        rw [rxBytes, rxByte, if_pos h]
        exact ih
  induction cs with
  | nil => rfl
  | cons c cs ih =>
      rw [rxRun, rxWord, hbytes, Option.map_some, if_pos h]
      exact ih

/-- The bytes that a cut of the stream stores, behind those of `bs`. -/
def storedBytes : List Byte → List NetworkWord → List Byte
  | bs, [] => bs
  | bs, c :: cs =>
      if (bs ++ c.bytes).length < inBufferSize - networkWordByteWidth then
        storedBytes (bs ++ c.bytes) cs else bs ++ c.bytes

/-- **The run over a cut** stays inside the buffer and saves the line breaks of what it stores. -/
lemma rxRun_spec {cs : List NetworkWord} (h : Storing s bs)
    (hlen : bs.length < inBufferSize - networkWordByteWidth)
    (hmax : s.bufferInPtrMaxWrite = bs.length - 1) (hcs : ∀ c ∈ cs, c.isValid) :
    ∃ s', rxRun s cs = some s' ∧ Stored s' (storedBytes bs cs) ∧
      s'.bufferInPtrMaxWrite = (storedBytes bs cs).length - 1 := by
  induction cs generalizing s bs with
  | nil => exact ⟨s, rfl, h.stored, hmax⟩
  | cons c cs ih =>
      obtain ⟨t, ht, hstored, hmax', hnext⟩ := rxWord_storing h (hcs c List.mem_cons_self) hlen
      rw [rxRun, ht, storedBytes]
      by_cases hwrap : (bs ++ c.bytes).length < inBufferSize - networkWordByteWidth
      · rw [if_pos hwrap] at hnext ⊢
        exact ih hnext hwrap hmax' fun d hd => hcs d (List.mem_cons_of_mem c hd)
      · rw [if_neg hwrap] at hnext ⊢
        exact ⟨t, rxRun_fifo hnext cs, hstored, hmax'⟩

end Storing

/-! ### Cuts -/

/-- A cut of a text: words of packets that carry it. -/
structure Cut (bs : List Byte) (cs : List NetworkWord) : Prop where
  isValid : ∀ c ∈ cs, c.isValid
  streamBytes : streamBytes cs = bs

/-- The run saves the positions of the line breaks that begin in the stored part. -/
def DetectsStored (cs : List NetworkWord) : Prop :=
  ∃ s, rxRun {} cs = some s ∧
    s.positions = (occurrences (streamBytes cs)).filter fun p => p ≤ s.bufferInPtrMaxWrite

/-- The detection does not depend on the cut. -/
structure Independent (bs : List Byte) : Prop where
  detects : ∀ cs, Cut bs cs → DetectsStored cs
  same : ∀ cs cs', Cut bs cs → Cut bs cs' →
    (rxRun {} cs).map RxRegs.positions = (rxRun {} cs').map RxRegs.positions

/-- No line breaks begin or end where a cut can wrap the buffer, and the counter suffices for those in
front of it. -/
def Detectable (bs : List Byte) : Prop :=
  (∀ p ∈ occurrences bs, p + 11 < inBufferSize ∨ inBufferSize ≤ p + 1) ∧
    ((occurrences bs).filter fun p => p + 11 < inBufferSize).length ≤ 3

section Cuts

variable {bs : List Byte} {cs : List NetworkWord}

lemma storedBytes_prefix (bs : List Byte) (cs : List NetworkWord) :
    storedBytes bs cs <+: bs ++ streamBytes cs := by
  induction cs generalizing bs with
  | nil => exact List.prefix_append ..
  | cons c cs ih =>
      rw [storedBytes, streamBytes_cons, ← List.append_assoc]
      split
      · exact ih _
      · exact List.prefix_append ..

lemma length_storedBytes_lt (hlen : bs.length < inBufferSize - networkWordByteWidth)
    (cs : List NetworkWord) : (storedBytes bs cs).length < inBufferSize := by
  induction cs generalizing bs with
  | nil => exact lt_of_lt_of_le hlen (Nat.sub_le ..)
  | cons c cs ih =>
      rw [storedBytes]
      split
      · rename_i hwrap
        exact ih hwrap
      · have hle := c.length_bytes_le
        rw [inBufferSize, networkWordByteWidth] at hlen
        rw [List.length_append, inBufferSize]
        omega

/-- Without a wrap everything is stored. -/
lemma storedBytes_all (h : (storedBytes bs cs).length < inBufferSize - networkWordByteWidth) :
    storedBytes bs cs = bs ++ streamBytes cs := by
  induction cs generalizing bs with
  | nil => exact (List.append_nil bs).symm
  | cons c cs ih =>
      rw [storedBytes] at h ⊢
      rw [streamBytes_cons, ← List.append_assoc]
      by_cases hwrap : (bs ++ c.bytes).length < inBufferSize - networkWordByteWidth
      · rw [if_pos hwrap] at h ⊢
        exact ih h
      · rw [if_neg hwrap] at h
        exact absurd h hwrap

/-- Few positions are read back. -/
lemma Saved.positions_eq {s : RxRegs} {ps : List ℕ} (h : Saved s ps) (hlen : ps.length ≤ 3) :
    s.positions = ps := by
  have hcount : s.detectedHttpNlCnt.toNat = ps.length := by
    rw [h.count, BitVec.toNat_ofNat]
    omega
  refine List.ext_getElem ?_ fun i hi hi' => ?_
  · rw [RxRegs.positions, List.length_map, List.length_range, hcount]
  · simp only [RxRegs.positions, List.getElem_map, List.getElem_range]
    exact h.position hlen i _ (List.getElem?_eq_getElem hi')

lemma RxRegs.length_positions_le (s : RxRegs) : s.positions.length ≤ 3 := by
  have hlt := s.detectedHttpNlCnt.isLt
  rw [RxRegs.positions, List.length_map, List.length_range]
  omega

/-- The line breaks that end in the stored part are saved. -/
lemma rxRun_cut (h : Cut bs cs) :
    ∃ s, rxRun {} cs = some s ∧ s.bufferInPtrMaxWrite = (storedBytes [] cs).length - 1 ∧
      Saved s ((occurrences bs).filter fun p => p + 3 < (storedBytes [] cs).length) := by
  have hinit : Storing {} [] := ⟨⟨nofun, rfl, fun _ i p hp => by cases hp⟩, rfl, rfl, le_rfl⟩
  obtain ⟨s, hs, hstored, hmax⟩ := rxRun_spec hinit (by decide) rfl h.isValid
  refine ⟨s, hs, hmax, ?_⟩
  have hpre := storedBytes_prefix [] cs
  rw [List.nil_append, h.streamBytes] at hpre
  rw [← occurrences_prefix hpre]
  exact hstored.saved

/-- A cut detects what it stores if every occurrence that begins in the stored part ends there, and if
there are few of them. -/
lemma detectsStored_iff (h : Cut bs cs) :
    DetectsStored cs ↔
      ((occurrences bs).filter fun p => p + 3 < (storedBytes [] cs).length) =
        ((occurrences bs).filter fun p => p ≤ (storedBytes [] cs).length - 1) ∧
      ((occurrences bs).filter fun p => p + 3 < (storedBytes [] cs).length).length ≤ 3 := by
  obtain ⟨s, hs, hmax, hsaved⟩ := rxRun_cut h
  rw [DetectsStored, h.streamBytes]
  constructor
  · rintro ⟨s', hs', hpos⟩
    obtain rfl := Option.some.inj (hs.symm.trans hs')
    rw [hmax] at hpos
    have hsub : ((occurrences bs).filter fun p => p + 3 < (storedBytes [] cs).length) =
        (((occurrences bs).filter fun p => p ≤ (storedBytes [] cs).length - 1).filter
          fun p => p + 3 < (storedBytes [] cs).length) := by
      rw [List.filter_filter]
      refine List.filter_congr fun p _ => ?_
      rw [← Bool.decide_and]
      exact decide_eq_decide.mpr (by omega)
    have hle : ((occurrences bs).filter fun p => p + 3 < (storedBytes [] cs).length).length ≤ 3 := by
      rw [hsub, ← hpos]
      exact (List.length_filter_le ..).trans s.length_positions_le
    exact ⟨(hsaved.positions_eq hle).symm.trans hpos, hle⟩
  · rintro ⟨heq, hle⟩
    exact ⟨s, hs, by rw [hmax, ← heq, hsaved.positions_eq hle]⟩

/-- What a cut detects where no occurrence is near the wrap. -/
lemma filter_stored (h : Cut bs cs)
    (hp : ∀ p ∈ occurrences bs, p + 11 < inBufferSize ∨ inBufferSize ≤ p + 1) :
    ((occurrences bs).filter fun p => p + 3 < (storedBytes [] cs).length) =
        ((occurrences bs).filter fun p => p + 11 < inBufferSize) ∧
      ((occurrences bs).filter fun p => p ≤ (storedBytes [] cs).length - 1) =
        (occurrences bs).filter fun p => p + 11 < inBufferSize := by
  have hlt := @length_storedBytes_lt [] (by decide) cs
  have hall := @storedBytes_all [] cs
  rw [List.nil_append, h.streamBytes] at hall
  have hkey : ∀ p ∈ occurrences bs,
      (p + 3 < (storedBytes [] cs).length ↔ p + 11 < inBufferSize) ∧
        (p ≤ (storedBytes [] cs).length - 1 ↔ p + 11 < inBufferSize) := by
    intro p hmem
    have hend := (mem_occurrences.mp hmem).length
    have hnear := hp p hmem
    have hsize : inBufferSize = 4096 := rfl
    have hwidth : networkWordByteWidth = 8 := rfl
    by_cases hwrap : (storedBytes [] cs).length < inBufferSize - networkWordByteWidth
    · have hlen := congrArg List.length (hall hwrap)
      rw [networkWordByteWidth] at hwrap
      omega
    · rw [networkWordByteWidth] at hwrap
      omega
  exact ⟨List.filter_congr fun p hmem => decide_eq_decide.mpr (hkey p hmem).1,
    List.filter_congr fun p hmem => decide_eq_decide.mpr (hkey p hmem).2⟩

end Cuts

/-! ### Cuts of every text -/

/-- The last word of a packet, with at most eight bytes. -/
def lastWord (bs : List Byte) : NetworkWord where
  lanes := (bs.map (fun c => (⟨c, true⟩ : Lane)) ++ List.replicate 8 (⟨0, false⟩ : Lane)).take 8
  tlast := true
  length_lanes := by
    rw [List.length_take, List.length_append, List.length_replicate]
    omega

section Words

variable {bs : List Byte}

lemma lastWord_keep (h : bs.length ≤ 8) : (lastWord bs).lanes.map (·.keep) =
    List.replicate bs.length true ++ List.replicate (8 - bs.length) false := by
  rw [lastWord, List.map_take, List.map_append, List.map_replicate, List.map_map, List.take_append,
    List.length_map, List.take_replicate, List.take_of_length_le (by rw [List.length_map]; exact h),
    Nat.min_eq_left (Nat.sub_le ..)]
  congr 1
  exact List.map_const' ..

lemma lastWord_bytes (h : bs.length ≤ 8) : (lastWord bs).bytes = bs := by
  rw [AxisRaw.bytes, (keptFirst_of_mask (lastWord_keep h)).2, lastWord, List.map_take,
    List.take_take, Nat.min_eq_left h, List.map_append, List.map_map]
  exact (List.take_left' (by rw [List.length_map])).trans (List.map_id' bs)

lemma lastWord_isValid (hpos : 0 < bs.length) (h : bs.length ≤ 8) : (lastWord bs).isValid := by
  have hlen : (lastWord bs).getLen = bs.length := by
    have htake : ((List.replicate bs.length true ++ List.replicate (8 - bs.length) false).takeWhile
        id).length = bs.length := by
      rw [List.takeWhile_append_of_pos (p := id) fun b hb => List.eq_of_mem_replicate hb]
      cases 8 - bs.length with
      | zero => simp
      | succ n => simp [List.replicate_succ]
    rw [AxisRaw.getLen, lastWord_keep h, htake, if_pos rfl]
  rw [AxisRaw.isValid]
  exact decide_eq_true (by omega)

/-- Packets of one byte. -/
def singles (bs : List Byte) : List NetworkWord := bs.map fun c => lastWord [c]

lemma singles_isValid : ∀ c ∈ singles bs, c.isValid := by
  intro c hc
  obtain ⟨b, -, rfl⟩ := List.mem_map.mp hc
  exact lastWord_isValid (by simp) (by simp)

lemma singles_bytes (bs : List Byte) : streamBytes (singles bs) = bs := by
  induction bs with
  | nil => rfl
  | cons c bs ih =>
      have hc : (lastWord [c]).bytes = [c] := lastWord_bytes (by simp)
      rw [singles, List.map_cons, streamBytes_cons, hc]
      exact congrArg (c :: ·) ih

/-- Bytes that do not fill the buffer. -/
lemma storedBytes_singles {as : List Byte} (cs : List NetworkWord)
    (h : as.length + bs.length < inBufferSize - networkWordByteWidth) :
    storedBytes as (singles bs ++ cs) = storedBytes (as ++ bs) cs := by
  induction bs generalizing as with
  | nil => rw [List.append_nil]; rfl
  | cons c bs ih =>
      have hc : (lastWord [c]).bytes = [c] := lastWord_bytes (by simp)
      rw [List.length_cons] at h
      rw [singles, List.map_cons, List.cons_append, storedBytes, hc, if_pos]
      · rw [List.append_cons as c bs]
        exact ih (by rw [List.length_append, List.length_singleton]; omega)
      · have hsize : inBufferSize = 4096 := rfl
        have hwidth : networkWordByteWidth = 8 := rfl
        rw [List.length_append, List.length_singleton]
        omega

lemma singles_cut (bs : List Byte) : Cut bs (singles bs) := ⟨singles_isValid, singles_bytes bs⟩

/-- A cut that wraps at a given length: the word of eight bytes in front of the wrap follows packets
of one byte. -/
lemma exists_cut {n : ℕ} (hn : inBufferSize ≤ n + 8) (hlt : n < inBufferSize)
    (hbs : n ≤ bs.length) : ∃ cs, Cut bs cs ∧ (storedBytes [] cs).length = n := by
  have hsize : inBufferSize = 4096 := rfl
  have hwidth : networkWordByteWidth = 8 := rfl
  have hword : ((bs.drop (n - 8)).take 8).length = 8 := by
    rw [List.length_take, List.length_drop]
    omega
  refine ⟨singles (bs.take (n - 8)) ++ lastWord ((bs.drop (n - 8)).take 8) :: singles (bs.drop n),
    ⟨?_, ?_⟩, ?_⟩
  · intro c hc
    rcases List.mem_append.mp hc with hc | hc
    · exact singles_isValid c hc
    · rcases List.mem_cons.mp hc with rfl | hc
      · exact lastWord_isValid (by omega) hword.le
      · exact singles_isValid c hc
  · rw [streamBytes_append, singles_bytes, streamBytes_cons, singles_bytes,
      lastWord_bytes hword.le, ← List.append_assoc]
    calc bs.take (n - 8) ++ (bs.drop (n - 8)).take 8 ++ bs.drop n
        = bs.take n ++ bs.drop n := by
          rw [← List.take_add, Nat.sub_add_cancel (by omega)]
      _ = bs := List.take_append_drop n bs
  · rw [storedBytes_singles _ (by rw [List.length_nil, List.length_take]; omega), List.nil_append,
      storedBytes, lastWord_bytes hword.le, List.length_append, hword, List.length_take, if_neg]
    · rw [List.length_append, hword, List.length_take]
      omega
    · omega

/-- **The detection is independent of the cut** if and only if no occurrence is near the wrap and
there are at most three in front of it. -/
theorem independent_iff (bs : List Byte) : Independent bs ↔ Detectable bs := by
  have hsize : inBufferSize = 4096 := rfl
  constructor
  · intro h
    have hnear : ∀ p ∈ occurrences bs, p + 11 < inBufferSize ∨ inBufferSize ≤ p + 1 := by
      intro p hp
      by_contra hbad
      have hend := (mem_occurrences.mp hp).length
      -- The buffer wraps inside the occurrence.
      obtain ⟨cs, hcut, hlen⟩ := @exists_cut bs (max (inBufferSize - 8) (p + 1)) (by omega)
        (by omega) (by omega)
      obtain ⟨heq, -⟩ := (detectsStored_iff hcut).mp (h.detects cs hcut)
      have hin : p ∈ (occurrences bs).filter fun p => p ≤ (storedBytes [] cs).length - 1 :=
        List.mem_filter.mpr ⟨hp, decide_eq_true (by omega)⟩
      rw [← heq] at hin
      have hlt := of_decide_eq_true (List.mem_filter.mp hin).2
      omega
    obtain ⟨-, hle⟩ := (detectsStored_iff (singles_cut bs)).mp (h.detects _ (singles_cut bs))
    rw [(filter_stored (singles_cut bs) hnear).1] at hle
    exact ⟨hnear, hle⟩
  · rintro ⟨hnear, hle⟩
    have hpositions : ∀ cs, Cut bs cs → (rxRun {} cs).map RxRegs.positions =
        some ((occurrences bs).filter fun p => p + 11 < inBufferSize) := by
      intro cs hcut
      obtain ⟨s, hs, -, hsaved⟩ := rxRun_cut hcut
      rw [(filter_stored hcut hnear).1] at hsaved
      rw [hs, Option.map_some, hsaved.positions_eq hle]
    refine ⟨fun cs hcut => ?_, fun cs cs' hcut hcut' => ?_⟩
    · obtain ⟨hends, hbegins⟩ := filter_stored hcut hnear
      exact (detectsStored_iff hcut).mpr ⟨hends.trans hbegins.symm, hends ▸ hle⟩
    · rw [hpositions cs hcut, hpositions cs' hcut']

end Words

/-- Five line breaks, which are four occurrences. -/
def fiveBreaks : List Byte := text "\r\n\r\n\r\n\r\n\r\n"

/-- The counter is back at zero. -/
theorem not_independent_fiveBreaks : ¬Independent fiveBreaks := by
  intro h
  obtain ⟨s, hs, hpos⟩ := h.detects (singles fiveBreaks) (singles_cut fiveBreaks)
  have hnone : (rxRun {} (singles fiveBreaks)).map RxRegs.positions = some [] := by decide +kernel
  have hmax : (rxRun {} (singles fiveBreaks)).map RxRegs.bufferInPtrMaxWrite = some 9 := by
    decide +kernel
  rw [hs] at hnone hmax
  rw [Option.some.inj hnone, Option.some.inj hmax] at hpos
  revert hpos
  decide +kernel

end CloudFpga.Fmc.Rx
