import CloudFpga.Fmc.Response
import CloudFpga.Foundation.Transducer
import CloudFpga.Toe.RxAppInterface.Stitch

/-!
The responses of the FMC are complete: their length is that of their bytes, and the sender sends
exactly these.

* `txLoop_take`, `txLoop_words`: the words that the sender writes in one call, and all of them.
* `sent_rooms`: what it has written after some calls, whatever room there was in each.
* `Complete`, `complete_iff`: the responses that are complete.
-/

namespace CloudFpga.Fmc.Http

open Foundation Nal Toe AxisRaw

/-! ### The lengths -/

/-- Writes that return the number of their bytes. -/
def Exact (w : Written) : Prop := w.len = w.bytes.length

lemma exact_writeString (s : List Byte) : Exact (writeString s) := rfl

lemma exact_writeUnsignedLong (num base : ℕ) : Exact (writeUnsignedLong num base) := rfl

lemma exact_crlf : Exact crlf := rfl

lemma all_append (ws vs : List Written) :
    (Written.all (ws ++ vs)).len = (Written.all ws).len + (Written.all vs).len ∧
      (Written.all (ws ++ vs)).bytes = (Written.all ws).bytes ++ (Written.all vs).bytes := by
  refine ⟨?_, List.flatMap_append⟩
  have hsum : ((ws ++ vs).map (·.len)).sum = (ws.map (·.len)).sum + (vs.map (·.len)).sum := by
    rw [List.map_append, List.sum_append]
  exact hsum

lemma exact_all {ws : List Written} (h : ∀ w ∈ ws, Exact w) : Exact (Written.all ws) := by
  induction ws with
  | nil => rfl
  | cons w ws ih =>
      have hw := h w List.mem_cons_self
      have hws := ih fun v hv => h v (List.mem_cons_of_mem w hv)
      have hsum : (ws.map (·.len)).sum = (ws.flatMap (·.bytes)).length := hws
      rw [Exact, Written.all]
      dsimp only
      rw [List.map_cons, List.sum_cons, List.flatMap_cons, List.length_append, hsum, hw]

lemma exact_displayLine (label : String) (num base : ℕ) :
    ∀ w ∈ displayLine label num base, Exact w := by
  intro w hw
  rw [displayLine] at hw
  simp only [List.mem_cons, List.not_mem_nil, or_false] at hw
  rcases hw with rfl | rfl | rfl
  · exact exact_writeString _
  · exact exact_writeUnsignedLong _ _
  · exact exact_crlf

lemma len_displayLine (label : String) (num base : ℕ) :
    (Written.all (displayLine label num base)).bytes.length =
      (Written.all (displayLine label num base)).len :=
  (exact_all (exact_displayLine label num base)).symm

lemma exact_lineIndex (i : ℕ) : Exact (lineIndex i) := by
  rw [lineIndex]
  split <;> rfl

lemma exact_nalStatusLine (disabled : Bool) (i : ℕ) (w : Word) :
    ∀ v ∈ nalStatusLine disabled i w, Exact v := by
  intro v hv
  rw [nalStatusLine] at hv
  rcases List.mem_append.mp hv with hv | hv
  · simp only [List.mem_cons, List.not_mem_nil, or_false] at hv
    rcases hv with rfl | rfl
    · exact exact_lineIndex i
    · exact exact_writeString _
  · split at hv
    · rw [List.mem_singleton] at hv
      exact hv ▸ rfl
    · simp only [List.mem_cons, List.not_mem_nil, or_false] at hv
      rcases hv with rfl | rfl
      · exact exact_writeUnsignedLong _ _
      · exact exact_crlf

lemma exact_fpgaStatusLine (i : ℕ) (val : BitVec 8) : ∀ v ∈ fpgaStatusLine i val, Exact v := by
  intro v hv
  rw [fpgaStatusLine] at hv
  simp only [List.mem_cons, List.not_mem_nil, or_false] at hv
  rcases hv with rfl | rfl | rfl
  · exact exact_lineIndex i
  · exact exact_writeString _
  · rfl

/-- The uptime is counted one byte short. -/
lemma len_uptimeLine (d : StatusData) :
    (Written.all (uptimeLine d)).bytes.length = (Written.all (uptimeLine d)).len + 1 := by
  rfl

/-- The lines of a table. -/
lemma exact_lines {α : Type*} {line : ℕ → α → List Written}
    (h : ∀ i x, ∀ w ∈ line i x, Exact w) (xs : List α) :
    (Written.all (xs.mapIdx line).flatten).bytes.length =
      (Written.all (xs.mapIdx line).flatten).len := by
  refine (exact_all fun w hw => ?_).symm
  obtain ⟨l, hl, hwl⟩ := List.mem_flatten.mp hw
  obtain ⟨i, hi, rfl⟩ := List.mem_mapIdx.mp hl
  exact h i _ w hwl

/-- **The status page** is counted one byte short, whatever it shows. -/
lemma len_writeDisplays (d : StatusData) (nodeRank clusterSize : Word) :
    (writeDisplaysToOutBuffer d nodeRank clusterSize).bytes.length =
      (writeDisplaysToOutBuffer d nodeRank clusterSize).len + 1 := by
  have hnal := exact_lines (exact_nalStatusLine d.nalStatusDisabled) d.nalStatus
  have hfpga := exact_lines exact_fpgaStatusLine d.fpgaStatus
  have hone : ∀ s, (Written.all [writeString s]).bytes.length = (Written.all [writeString s]).len :=
    fun s => (exact_all fun w hw => List.mem_singleton.mp hw ▸ exact_writeString s).symm
  have hversion : (Written.all [writeString (text "cFDK/FMC version: "), writeString d.version,
      crlf]).bytes.length = (Written.all [writeString (text "cFDK/FMC version: "),
        writeString d.version, crlf]).len := by
    refine (exact_all fun w hw => ?_).symm
    simp only [List.mem_cons, List.not_mem_nil, or_false] at hw
    rcases hw with rfl | rfl | rfl
    · exact exact_writeString _
    · exact exact_writeString _
    · exact exact_crlf
  rw [writeDisplaysToOutBuffer]
  simp only [(all_append _ _).1, (all_append _ _).2, List.length_append, len_displayLine, hnal,
    hfpga, hone, hversion, len_uptimeLine]
  omega

/-- A header. -/
lemma exact_httpStatus (version : List Byte) (status : ℕ) : Exact (httpStatus version status) := by
  refine exact_all fun w hw => ?_
  simp only [List.mem_cons, List.not_mem_nil, or_false] at hw
  rcases hw with rfl | rfl | rfl | rfl | rfl | rfl | rfl
  all_goals exact exact_writeString _

/-- The length of a header. -/
def headerLength (version : List Byte) (status : ℕ) : ℕ :=
  98 + (statusText status).length + (cString version).length

lemma cString_statusText (status : ℕ) : cString (statusText status) = statusText status := by
  rw [statusText.eq_def]
  split <;> decide +kernel

lemma len_httpStatus (version : List Byte) (status : ℕ) :
    (httpStatus version status).len = headerLength version status := by
  have h₁ : (cString (text "HTTP/1.1 ")).length = 9 := by decide +kernel
  have h₂ : (cString (text "\r\n")).length = 2 := by decide +kernel
  have h₃ : (cString generalHeaderBegin).length = 83 := by decide +kernel
  rw [httpStatus, Written.all]
  simp only [List.map_cons, List.map_nil, List.sum_cons, List.sum_nil, writeString, h₁, h₂, h₃,
    cString_statusText]
  rw [headerLength]
  omega

lemma headerLength_lt (version : List Byte) (status : ℕ) : headerLength version status < 2048 := by
  have htext : (statusText status).length ≤ 25 := by
    rw [statusText.eq_def]
    split <;> decide +kernel
  have hversion : (cString version).length ≤ 1024 := List.length_take_le ..
  rw [headerLength]
  omega

/-- An `int8_t` keeps lengths up to 127. -/
lemma int8Length_eq {len : ℕ} (h : len ≤ 127) : int8Length len = BitVec.ofNat 16 len := by
  have hnat : (BitVec.ofNat 8 len).toNat = len := by
    rw [BitVec.toNat_ofNat]
    omega
  have hmsb : (BitVec.ofNat 8 len).msb = false :=
    BitVec.msb_eq_false_iff_two_mul_lt.mpr (by omega)
  rw [int8Length, BitVec.signExtend_eq_setWidth_of_msb_false hmsb]
  apply BitVec.eq_of_toNat_eq
  rw [BitVec.toNat_setWidth, hnat, BitVec.toNat_ofNat]

/-- Otherwise a multiple of 256 is lost. -/
lemma int8Length_toNat {len : ℕ} (h : 127 < len) (hlt : len < 2048) :
    ∃ j, 0 < j ∧ j ≤ 8 ∧ (int8Length len).toNat = (len + 65536 - 256 * j) % 65536 := by
  have hnat : (BitVec.ofNat 8 len).toNat = len % 256 := BitVec.toNat_ofNat ..
  have hval : (int8Length len).toNat =
      len % 256 + if (BitVec.ofNat 8 len).msb then 2 ^ 16 - 2 ^ 8 else 0 := by
    rw [int8Length, BitVec.toNat_signExtend, BitVec.toNat_setWidth, hnat]
    omega
  have hmsb : (BitVec.ofNat 8 len).msb = decide (128 ≤ len % 256) := by
    rw [BitVec.msb_eq_decide, hnat]
  rw [hval, hmsb]
  by_cases hbit : 128 ≤ len % 256
  · refine ⟨len / 256 + 1, by omega, by omega, ?_⟩
    rw [decide_eq_true hbit, if_pos rfl]
    omega
  · refine ⟨len / 256, by omega, by omega, ?_⟩
    rw [decide_eq_false hbit, if_neg Bool.false_ne_true]
    omega

/-! ### The sender -/

section Sender

variable (o : OutBuffer)

/-- What is not sent yet. -/
def OutBuffer.rest : List Byte := (o.bytes.take o.contentLength.toNat).drop o.ptrNextRead.toNat

/-- The bytes are there, the pointer has not passed them, and it does not overflow. -/
structure OutBuffer.Ready : Prop where
  length : o.contentLength.toNat ≤ o.bytes.length
  ptr : o.ptrNextRead.toNat < o.contentLength.toNat
  bound : o.contentLength.toNat + 8 < 2 ^ 16

variable {o}

lemma OutBuffer.Ready.length_rest (h : o.Ready) :
    o.rest.length = o.contentLength.toNat - o.ptrNextRead.toNat := by
  rw [OutBuffer.rest, List.length_drop, List.length_take, Nat.min_eq_left h.length]

lemma OutBuffer.Ready.endsAt (h : o.Ready) (i : ℕ) : o.endsAt i ↔ o.rest.length ≤ i + 1 := by
  have hptr := h.ptr
  rw [OutBuffer.endsAt, h.length_rest]
  omega

/-- The last lane of the next word. -/
lemma OutBuffer.Ready.lastLane (h : o.Ready) : o.lastLane = min 8 (o.rest.length - 1) := by
  have hpos : 0 < o.rest.length := by
    have hptr := h.ptr
    rw [h.length_rest]
    omega
  rw [OutBuffer.lastLane]
  by_cases hlast : o.rest.length ≤ 8
  · rw [Nat.min_eq_right (by omega),
      List.findIdx_eq (by rw [List.length_range]; omega)]
    simp only [List.getElem_range, decide_eq_true_eq, h.endsAt, decide_eq_false_iff_not]
    exact ⟨by omega, fun j hj => by omega⟩
  · rw [Nat.min_eq_left (by omega)]
    have hnone : (List.range 8).findIdx (fun i => decide (o.endsAt i)) = (List.range 8).length := by
      rw [List.findIdx_eq_length]
      intro i hi
      rw [List.mem_range] at hi
      rw [decide_eq_false_iff_not, h.endsAt]
      omega
    exact hnone.trans List.length_range

lemma OutBuffer.Ready.mask (h : o.Ready) : Mask o.nextWord.lanes (min 8 o.rest.length) := by
  have hpos : 0 < o.rest.length := by
    have hptr := h.ptr
    rw [h.length_rest]
    omega
  refine ⟨?_, by rw [o.nextWord.length_lanes]; exact Nat.min_le_left ..⟩
  rw [o.nextWord.length_lanes]
  apply List.ext_getElem
  · simp [OutBuffer.nextWord]
  · intro i hi _
    have hi8 : i < 8 := by simpa [OutBuffer.nextWord] using hi
    simp only [OutBuffer.nextWord, List.map_map, List.getElem_map, List.getElem_range,
      Function.comp_apply, List.getElem_append, List.length_replicate, List.getElem_replicate,
      h.lastLane]
    by_cases hlt : i < min 8 o.rest.length
    · rw [if_pos (by omega), dif_pos hlt]
    · rw [if_neg (by omega), dif_neg hlt]

lemma OutBuffer.Ready.tlast (h : o.Ready) : o.nextWord.tlast = decide (o.rest.length ≤ 8) := by
  rw [OutBuffer.nextWord, h.lastLane]
  exact decide_eq_decide.mpr (by omega)

lemma OutBuffer.Ready.isValid (h : o.Ready) : o.nextWord.isValid := by
  have hptr := h.ptr
  have hlen := h.length_rest
  refine isValid_of_mask h.mask (by omega) fun hlast => ?_
  rw [h.tlast, decide_eq_false_iff_not] at hlast
  omega

/-- The next word holds the next eight bytes. -/
lemma OutBuffer.Ready.bytes_nextWord (h : o.Ready) : o.nextWord.bytes = o.rest.take 8 := by
  have hmask := h.mask.1
  rw [AxisRaw.bytes, (keptFirst_of_mask hmask).2]
  apply List.ext_getElem
  · simp [OutBuffer.nextWord]
  · intro i hi hi'
    have hlt : i < 8 ∧ i < o.rest.length := by
      rw [List.length_take] at hi'
      omega
    have hptr := h.length_rest
    have hlen := h.length
    simp only [OutBuffer.nextWord, List.getElem_take, List.map_map, List.getElem_map,
      List.getElem_range, Function.comp_apply, h.lastLane]
    have hget : o.rest[i] = o.bytes[o.ptrNextRead.toNat + i] := by
      simp only [OutBuffer.rest, List.getElem_drop, List.getElem_take]
    rw [if_pos (by omega), hget, OutBuffer.byte, List.getD_eq_getElem?_getD,
      List.getElem?_eq_getElem (by omega), Option.getD_some]

/-- The buffer behind a word that is not the last one. -/
lemma OutBuffer.Ready.next (h : o.Ready) (hlast : 8 < o.rest.length) :
    OutBuffer.Ready { o with ptrNextRead := o.ptrNextRead + 8 } ∧
      OutBuffer.rest { o with ptrNextRead := o.ptrNextRead + 8 } = o.rest.drop 8 := by
  have hlen := h.length_rest
  have hbound := h.bound
  have hptr : (o.ptrNextRead + 8).toNat = o.ptrNextRead.toNat + 8 := by
    rw [BitVec.toNat_add, show (8 : BitVec 16).toNat = 8 from rfl]
    omega
  refine ⟨⟨h.length, ?_, h.bound⟩, ?_⟩
  · dsimp only
    omega
  · rw [OutBuffer.rest, OutBuffer.rest, hptr, List.drop_drop]

/-- **Enough room for the rest**: the words are a stream of exactly these bytes. -/
lemma txLoop_words {n : ℕ} (h : o.Ready) (hn : o.rest.length ≤ 8 * n) :
    WellFormed (txLoop n o).1 ∧ streamBytes (txLoop n o).1 = o.rest ∧
      (txLoop n o).2.2 = .done := by
  induction n generalizing o with
  | zero =>
      have hptr := h.ptr
      have hlen := h.length_rest
      omega
  | succ n ih =>
      have hlane := h.lastLane
      have hptr := h.ptr
      have hlen := h.length_rest
      rw [txLoop]
      dsimp only
      by_cases hlast : o.rest.length ≤ 8
      · rw [if_pos (by omega)]
        refine ⟨⟨(isPacket_cons_of_last ?_).mpr rfl, fun c hc => ?_⟩, ?_, rfl⟩
        · rw [h.tlast, decide_eq_true hlast]
        · exact List.mem_singleton.mp hc ▸ h.isValid
        · rw [streamBytes_cons, streamBytes_nil, List.append_nil, h.bytes_nextWord,
            List.take_of_length_le hlast]
      · rw [if_neg (by omega)]
        obtain ⟨hready, hrest⟩ := h.next (by omega)
        obtain ⟨hwf, hbytes, hdone⟩ := ih hready (by rw [hrest, List.length_drop]; omega)
        refine ⟨⟨(isPacket_cons_of_not_last ?_).mpr hwf.isStream, fun c hc => ?_⟩, ?_, hdone⟩
        · rw [h.tlast, decide_eq_false hlast]
        · rcases List.mem_cons.mp hc with rfl | hc
          · exact h.isValid
          · exact hwf.isValid c hc
        · rw [streamBytes_cons, hbytes, hrest, h.bytes_nextWord, List.take_append_drop]

/-- Room for `n` words and then for `m` more. -/
lemma txLoop_add (n m : ℕ) (o : OutBuffer) :
    txLoop (n + m) o =
      if (txLoop n o).2.2 = .done then txLoop n o
      else ((txLoop n o).1 ++ (txLoop m (txLoop n o).2.1).1, (txLoop m (txLoop n o).2.1).2) := by
  induction n generalizing o with
  | zero =>
      rw [Nat.zero_add, txLoop, if_neg nofun]
      rfl
  | succ n ih =>
      rw [Nat.succ_add, txLoop, txLoop]
      dsimp only
      by_cases hlast : o.lastLane < 8
      · rw [if_pos hlast, if_pos hlast, if_pos rfl]
      · rw [if_neg hlast, if_neg hlast, ih]
        split_ifs <;> rfl

/-- Without the last word all room is used, and the buffer is ready for more. -/
lemma txLoop_processing {n : ℕ} (h : o.Ready) (hst : (txLoop n o).2.2 ≠ .done) :
    (txLoop n o).1.length = n ∧ (txLoop n o).2.2 = .processData ∧ (txLoop n o).2.1.Ready ∧
      (txLoop n o).2.1.rest.length ≤ o.rest.length := by
  induction n generalizing o with
  | zero => exact ⟨rfl, rfl, h, le_rfl⟩
  | succ n ih =>
      rw [txLoop] at hst ⊢
      dsimp only at hst ⊢
      have hlane := h.lastLane
      by_cases hlast : o.lastLane < 8
      · rw [if_pos hlast] at hst
        exact absurd rfl hst
      · rw [if_neg hlast] at hst ⊢
        obtain ⟨hready, hrest⟩ := h.next (by omega)
        obtain ⟨hlen, hproc, hready', hle⟩ := ih hready hst
        refine ⟨by rw [List.length_cons, hlen], hproc, hready', hle.trans ?_⟩
        rw [hrest, List.length_drop]
        exact Nat.sub_le ..

lemma txLoop_length_le (n : ℕ) (o : OutBuffer) : (txLoop n o).1.length ≤ n := by
  induction n generalizing o with
  | zero => exact le_rfl
  | succ n ih =>
      rw [txLoop]
      dsimp only
      split_ifs
      · exact Nat.succ_le_succ (Nat.zero_le n)
      · exact Nat.succ_le_succ (ih _)

end Sender

/-- What the sender writes in a call with room for some words. -/
def txEmit (s : OutBuffer × TxState) (room : ℕ) : List NetworkWord := (fsmTcpDataTX s room).1

def txNext (s : OutBuffer × TxState) (room : ℕ) : OutBuffer × TxState := (fsmTcpDataTX s room).2

/-- Behind the last word nothing is written. -/
lemma emits_done (o : OutBuffer) (rooms : List ℕ) : emits txNext txEmit (o, .done) rooms = [] := by
  induction rooms with
  | nil => rfl
  | cons room rooms ih =>
      rw [emits_cons]
      exact ih

/-- **Any schedule of back-pressure**: what is written so far are the first words of the whole
stream. -/
lemma sent_rooms {o : OutBuffer} {n : ℕ} (h : o.Ready) (hn : o.rest.length ≤ 8 * n)
    (rooms : List ℕ) :
    emits txNext txEmit (o, .processData) rooms = (txLoop n o).1.take rooms.sum := by
  induction rooms generalizing o with
  | nil => rfl
  | cons room rooms ih =>
      have hdone := (txLoop_words h hn).2.2
      have hall : txLoop (room + n) o = txLoop n o := by
        rw [Nat.add_comm, txLoop_add, if_pos hdone]
      rw [emits_cons, List.sum_cons]
      have hemit : txEmit (o, .processData) room = (txLoop room o).1 := rfl
      have hnext : txNext (o, .processData) room = (txLoop room o).2 := rfl
      rw [txLoop_add] at hall
      rw [hemit, hnext, ← hall]
      by_cases hst : (txLoop room o).2.2 = .done
      · have hpair : (txLoop room o).2 = ((txLoop room o).2.1, .done) := by rw [← hst]
        rw [if_pos hst, hpair, emits_done, List.append_nil, List.take_of_length_le]
        exact (txLoop_length_le room o).trans (Nat.le_add_right ..)
      · obtain ⟨hlen, hproc, hready, hle⟩ := txLoop_processing h hst
        have hpair : (txLoop room o).2 = ((txLoop room o).2.1, .processData) := by rw [← hproc]
        rw [if_neg hst, hpair, ih hready (hle.trans hn)]
        dsimp only
        have hfirst : (txLoop room o).1.take (room + rooms.sum) = (txLoop room o).1 :=
          List.take_of_length_le (by omega)
        rw [List.take_append, hlen, hfirst, Nat.add_sub_cancel_left]

/-! ### Complete responses -/

/-- A response is written behind what the buffer holds. Its length is that of its bytes, and for every
schedule of back-pressure the sender writes the first words of one stream, which has exactly these
bytes. -/
def Complete (before after : OutBuffer) : Prop :=
  ∃ r, after.bytes = before.bytes ++ r ∧ after.contentLength.toNat = r.length ∧
    ∃ ws, WellFormed ws ∧ streamBytes ws = r ∧
      ∀ rooms, emits txNext txEmit (after, .processData) rooms = ws.take rooms.sum

/-- A response whose length is right is sent if the buffer starts with it. -/
lemma complete_of_length {o₀ o : OutBuffer} {r : List Byte} (hbytes : o.bytes = o₀.bytes ++ r)
    (h : o.contentLength.toNat = r.length) (hptr : o.ptrNextRead = 0) (hpos : 0 < r.length)
    (hbound : r.length + 8 < 2 ^ 16) : Complete o₀ o ↔ r <+: o₀.bytes ++ r := by
  have hzero : o.ptrNextRead.toNat = 0 := by rw [hptr]; rfl
  have hready : o.Ready := by
    refine ⟨?_, by omega, by omega⟩
    rw [hbytes, List.length_append]
    omega
  have hn : o.rest.length ≤ 8 * r.length := by
    rw [hready.length_rest]
    omega
  obtain ⟨hwf, hwords, -⟩ := txLoop_words hready hn
  have hrest : o.rest = (o₀.bytes ++ r).take r.length := by
    rw [OutBuffer.rest, hzero, List.drop_zero, hbytes, h]
  rw [List.prefix_iff_eq_take]
  constructor
  · rintro ⟨r', hbytes', -, ws, -, hws, hsent⟩
    obtain rfl : r = r' := List.append_cancel_left (hbytes.symm.trans hbytes')
    have hall := hsent [r.length + ws.length]
    rw [sent_rooms hready hn, List.sum_singleton,
      List.take_of_length_le ((txLoop_length_le _ o).trans (Nat.le_add_right ..)),
      List.take_of_length_le (Nat.le_add_left ..)] at hall
    rw [← hrest, ← hwords, hall]
    exact hws.symm
  · intro heq
    exact ⟨r, hbytes, h, _, hwf, by rw [hwords, hrest, ← heq],
      fun rooms => sent_rooms hready hn rooms⟩

/-- A response whose length is wrong is not complete. -/
lemma not_complete_of_length {o₀ o : OutBuffer} {r : List Byte} (hbytes : o.bytes = o₀.bytes ++ r)
    (h : o.contentLength.toNat ≠ r.length) : ¬Complete o₀ o := by
  rintro ⟨r', hbytes', hlen, -⟩
  obtain rfl : r = r' := List.append_cancel_left (hbytes.symm.trans hbytes')
  exact h hlen

/-- The status of the response that a call generates. -/
def answerStatus (k : HttpCall) (bufferIn : List Byte) (s : HttpRegs) : Option ℕ :=
  match s.httpState with
  | .idle | .parseHeader =>
      (extractPath bufferIn k.rxDone s.path).bind fun res =>
        if res.1 = -2 then some 400
        else if -1 ≤ res.1 ∧ res.1 ≤ 5 then none
        else some 404
  | .requestComplete | .sendResponse =>
      some (if k.wasAbort then 500 else if k.transferErr ∨ k.invalidPayload then 422 else 200)
  | _ => none

/-- The response is a status page. -/
def IsStatusPage (k : HttpCall) (s : HttpRegs) : Prop :=
  (s.httpState = .requestComplete ∨ s.httpState = .sendResponse) ∧ k.wasAbort = false ∧
    k.transferErr = false ∧ k.invalidPayload = false ∧ s.path.reqType = .getStatus

/-- The bytes of a response that is not a status page. -/
def responseText (version : List Byte) (status : ℕ) (s : HttpRegs) : List Byte :=
  (httpStatus version status).bytes ++
    if status = 200 ∧ s.path.reqType = .postConfig then successMessage else []

/-- The buffer is empty, or starts with the response that is written into it. -/
def InFront (version : List Byte) (status : ℕ) (s : HttpRegs) : Prop :=
  responseText version status s <+: s.out.bytes ++ responseText version status s

section Answer

variable {d : StatusData} {s : HttpRegs}

lemma length_httpStatus (version : List Byte) (status : ℕ) :
    (httpStatus version status).bytes.length = headerLength version status :=
  (exact_httpStatus version status).symm.trans (len_httpStatus version status)

/-- A header whose length does not fit into an `int8_t`, and `n` more bytes. -/
lemma int8Length_add_ne {len n : ℕ} (h : 127 < len) (hlt : len < 2048) :
    (int8Length len + BitVec.ofNat 16 n).toNat ≠ len + n := by
  obtain ⟨j, hj, hj8, hval⟩ := int8Length_toNat h hlt
  rw [BitVec.toNat_add, BitVec.toNat_ofNat, hval]
  omega

lemma int8Length_add {len n : ℕ} (h : len ≤ 127) (hn : n < 2048) :
    (int8Length len + BitVec.ofNat 16 n).toNat = len + n := by
  rw [int8Length_eq h, BitVec.toNat_add, BitVec.toNat_ofNat, BitVec.toNat_ofNat]
  omega

/-- **A response** that is not a status page is complete if the length of its header fits into an
`int8_t` and it comes first in the buffer. -/
lemma complete_answer {o : OutBuffer} {extra : List Byte} {status : ℕ}
    (hbytes : o.bytes = s.out.bytes ++ ((httpStatus d.version status).bytes ++ extra))
    (hcount : o.contentLength =
      int8Length (headerLength d.version status) + BitVec.ofNat 16 extra.length)
    (hptr : o.ptrNextRead = 0) (hextra : extra.length < 2048) :
    Complete s.out o ↔ headerLength d.version status ≤ 127 ∧
      (httpStatus d.version status).bytes ++ extra <+:
        s.out.bytes ++ ((httpStatus d.version status).bytes ++ extra) := by
  have hlt := headerLength_lt d.version status
  have hpos : 0 < headerLength d.version status := by
    rw [headerLength]
    omega
  have hlen : ((httpStatus d.version status).bytes ++ extra).length =
      headerLength d.version status + extra.length := by
    rw [List.length_append, length_httpStatus]
  by_cases hfit : headerLength d.version status ≤ 127
  · rw [and_iff_right hfit]
    refine complete_of_length hbytes ?_ hptr (by omega) (by omega)
    rw [hcount, hlen, int8Length_add hfit hextra]
  · refine iff_of_false (not_complete_of_length hbytes ?_) fun h => hfit h.1
    rw [hcount, hlen]
    exact int8Length_add_ne (by omega) hlt

/-- A response with a header only. -/
lemma complete_header (hptr : s.out.ptrNextRead = 0) {status : ℕ}
    (hno : ¬(status = 200 ∧ s.path.reqType = .postConfig)) :
    Complete s.out (s.answer d status).out ↔
      headerLength d.version status ≤ 127 ∧ InFront d.version status s := by
  rw [InFront, responseText, if_neg hno]
  refine complete_answer ?_ ?_ hptr (by decide)
  · rw [List.append_nil]
    rfl
  · rw [HttpRegs.answer, OutBuffer.writeHttpStatus, len_httpStatus]
    exact (BitVec.add_zero _).symm

/-- The response to a reconfiguration. -/
lemma complete_answerConfig (hptr : s.out.ptrNextRead = 0) (htype : s.path.reqType = .postConfig) :
    Complete s.out (s.answerConfig d).out ↔
      headerLength d.version 200 ≤ 127 ∧ InFront d.version 200 s := by
  have hmsg : (writeString successMessage).bytes = successMessage := by decide +kernel
  rw [InFront, responseText, if_pos ⟨rfl, htype⟩]
  refine complete_answer ?_ ?_ hptr (by decide +kernel)
  · rw [← hmsg, HttpRegs.answerConfig, OutBuffer.writeHttpStatus]
    dsimp only [OutBuffer.write]
    rw [List.append_assoc]
  · rw [← hmsg, HttpRegs.answerConfig, OutBuffer.writeHttpStatus, len_httpStatus]
    rfl

/-- **The status page** is never complete: three bytes of it are not counted. -/
lemma not_complete_answerStatusPage : ¬Complete s.out (s.answerStatusPage d).out := by
  have hlt := headerLength_lt d.version 200
  have hpage := len_writeDisplays d s.path.nodeRank s.path.clusterSize
  have hnl : (writeString (text "\r\n")).bytes.length = 2 := by decide +kernel
  refine not_complete_of_length (r := (httpStatus d.version 200).bytes ++
    ((writeDisplaysToOutBuffer d s.path.nodeRank s.path.clusterSize).bytes ++
      (writeString (text "\r\n")).bytes)) ?_ ?_
  · rw [HttpRegs.answerStatusPage, OutBuffer.writeHttpStatus]
    dsimp only [OutBuffer.write]
    rw [List.append_assoc, List.append_assoc]
  · have hcount : (s.answerStatusPage d).out.contentLength =
        int8Length (headerLength d.version 200) +
          BitVec.ofNat 16 (writeDisplaysToOutBuffer d s.path.nodeRank s.path.clusterSize).len := by
      rw [HttpRegs.answerStatusPage, OutBuffer.writeHttpStatus, len_httpStatus]
      rfl
    rw [hcount, List.length_append, List.length_append, length_httpStatus, hnl, hpage,
      BitVec.toNat_add, BitVec.toNat_ofNat]
    by_cases hfit : headerLength d.version 200 ≤ 127
    · rw [int8Length_eq hfit, BitVec.toNat_ofNat]
      omega
    · obtain ⟨j, hj, hj8, hval⟩ := int8Length_toNat (by omega) hlt
      omega

/-- A call that answers an invalid request. -/
lemma parseHeader_out {status : ℕ} {code : ℤ}
    (h : (if code = -2 then some 400 else if -1 ≤ code ∧ code ≤ 5 then none else some 404) =
      some status) :
    (parseHeader d s code).out = (s.answer d status).out := by
  split_ifs at h with h₁ h₂
  · obtain rfl := Option.some.inj h
    rw [h₁]
    rfl
  · obtain rfl := Option.some.inj h
    rw [parseHeader.eq_def]
    split <;> first | omega | rfl

end Answer

/-- A call that looks for a header. -/
lemma parseHttpInput_header {d : StatusData} {s : HttpRegs} {k : HttpCall} {bufferIn : List Byte}
    (h : s.httpState = .idle ∨ s.httpState = .parseHeader) :
    parseHttpInput d s k bufferIn = (extractPath bufferIn k.rxDone s.path).map fun res =>
      parseHeader d { s with path := res.2 } res.1 := by
  rw [parseHttpInput]
  rcases h with h | h <;> simp only [h]

/-- A call that answers. -/
lemma parseHttpInput_send {d : StatusData} {s : HttpRegs} {k : HttpCall} {bufferIn : List Byte}
    (h : s.httpState = .requestComplete ∨ s.httpState = .sendResponse) :
    parseHttpInput d s k bufferIn = some { sendResponse d s k with httpState := .done } := by
  rw [parseHttpInput]
  rcases h with h | h <;> simp only [h]

/-- The answer to a request that was carried out, or failed. -/
lemma complete_sendResponse {d : StatusData} {s : HttpRegs} {k : HttpCall} {status : ℕ}
    (hptr : s.out.ptrNextRead = 0)
    (hready : s.httpState = .requestComplete ∨ s.httpState = .sendResponse)
    (hst : status =
      if k.wasAbort then 500 else if k.transferErr ∨ k.invalidPayload then 422 else 200) :
    Complete s.out (sendResponse d s k).out ↔ ¬IsStatusPage k s ∧
      headerLength d.version status ≤ 127 ∧ InFront d.version status s := by
  rw [sendResponse]
  by_cases habort : k.wasAbort = true
  · rw [if_pos habort] at hst
    have hno : ¬IsStatusPage k s := fun h => by
      rw [h.2.1] at habort
      cases habort
    rw [if_pos habort, and_iff_right hno, hst]
    exact complete_header hptr (by omega)
  · rw [if_neg habort] at hst
    rw [if_neg habort]
    by_cases herr : k.transferErr = true ∨ k.invalidPayload = true
    · rw [if_pos herr] at hst
      have hno : ¬IsStatusPage k s := fun h => by
        rcases herr with herr | herr
        · rw [h.2.2.1] at herr
          cases herr
        · rw [h.2.2.2.1] at herr
          cases herr
      rw [if_pos herr, and_iff_right hno, hst]
      exact complete_header hptr (by omega)
    · rw [if_neg herr] at hst
      rw [if_neg herr, hst]
      by_cases hpage : s.path.reqType = .getStatus
      · rw [if_pos hpage]
        refine iff_of_false not_complete_answerStatusPage fun h => h.1 ⟨hready, ?_, ?_, ?_, hpage⟩
        · exact Bool.eq_false_of_not_eq_true habort
        · exact Bool.eq_false_of_not_eq_true fun h => herr (.inl h)
        · exact Bool.eq_false_of_not_eq_true fun h => herr (.inr h)
      · have hno : ¬IsStatusPage k s := fun h => hpage h.2.2.2.2
        rw [if_neg hpage, and_iff_right hno]
        by_cases hconfig : s.path.reqType = .postConfig
        · rw [if_pos hconfig]
          exact complete_answerConfig hptr hconfig
        · rw [if_neg hconfig]
          exact complete_header hptr fun h => hconfig h.2

/-- **A response is complete** if and only if it is not a status page, its header is not longer than
127 bytes, and it comes first in the buffer. -/
theorem complete_iff {d : StatusData} {s s' : HttpRegs} {k : HttpCall} {bufferIn : List Byte}
    {status : ℕ} (h : parseHttpInput d s k bufferIn = some s')
    (hst : answerStatus k bufferIn s = some status) (hptr : s.out.ptrNextRead = 0) :
    Complete s.out s'.out ↔ ¬IsStatusPage k s ∧ headerLength d.version status ≤ 127 ∧
      InFront d.version status s := by
  have hheader : s.httpState = .idle ∨ s.httpState = .parseHeader →
      (Complete s.out s'.out ↔ ¬IsStatusPage k s ∧ headerLength d.version status ≤ 127 ∧
        InFront d.version status s) := by
    intro hidle
    have hx := (parseHttpInput_header hidle).symm.trans h
    have hcode : ((extractPath bufferIn k.rxDone s.path).bind fun res =>
        if res.1 = -2 then some 400 else if -1 ≤ res.1 ∧ res.1 ≤ 5 then none else some 404) =
          some status := by
      rw [answerStatus] at hst
      rcases hidle with hidle | hidle <;> rw [hidle] at hst <;> exact hst
    obtain ⟨res, hres, rfl⟩ := Option.map_eq_some_iff.mp hx
    rw [hres, Option.bind_some] at hcode
    have hno : ¬IsStatusPage k s := by
      rintro ⟨hsend | hsend, -⟩ <;> rcases hidle with hidle | hidle <;> rw [hidle] at hsend <;>
        cases hsend
    have hstatus : status ≠ 200 := by
      rintro rfl
      split_ifs at hcode <;> cases hcode
    have hcomplete := @complete_header d { s with path := res.2 } hptr status
      fun h => hstatus h.1
    have hfront : InFront d.version status { s with path := res.2 } ↔ InFront d.version status s := by
      rw [InFront, InFront, responseText, responseText, if_neg fun h => hstatus h.1,
        if_neg fun h => hstatus h.1]
    rw [parseHeader_out hcode, and_iff_right hno, ← hfront]
    exact hcomplete
  have hsend : s.httpState = .requestComplete ∨ s.httpState = .sendResponse →
      (Complete s.out s'.out ↔ ¬IsStatusPage k s ∧ headerLength d.version status ≤ 127 ∧
        InFront d.version status s) := by
    intro hready
    have hx := (parseHttpInput_send hready).symm.trans h
    have hcode : some (if k.wasAbort then 500
        else if k.transferErr ∨ k.invalidPayload then 422 else 200) = some status := by
      rw [answerStatus] at hst
      rcases hready with hready | hready <;> rw [hready] at hst <;> exact hst
    obtain rfl := Option.some.inj hx
    exact complete_sendResponse hptr hready (Option.some.inj hcode).symm
  cases hs : s.httpState with
  | idle => exact hheader (.inl hs)
  | parseHeader => exact hheader (.inr hs)
  | requestComplete => exact hsend (.inl hs)
  | sendResponse => exact hsend (.inr hs)
  | headerParsed => rw [answerStatus, hs] at hst; cases hst
  | readPayload => rw [answerStatus, hs] at hst; cases hst
  | invalidRequest => rw [answerStatus, hs] at hst; cases hst
  | done => rw [answerStatus, hs] at hst; cases hst

/-- A rank was stored. -/
def rankRegs : HttpRegs := { httpState := .sendResponse, path := { reqType := .putRank } }

/-- With a version of four characters its response is complete. -/
theorem complete_rank : Complete {} (sendResponse { version := text "1.20" } rankRegs {}).out :=
  (@complete_iff { version := text "1.20" } rankRegs
    { sendResponse { version := text "1.20" } rankRegs {} with httpState := .done } {} [] 200 rfl rfl
    rfl).mpr ⟨fun h => (nomatch h.2.2.2.2), by decide +kernel, List.prefix_refl _⟩

/-- A request for the status page. -/
def statusRegs : HttpRegs := { httpState := .sendResponse, path := { reqType := .getStatus } }

/-- The answer to it misses its last three bytes. -/
theorem status_page_short :
    ¬Complete {} (sendResponse { version := text "1.20" } statusRegs {}).out := by
  rintro ⟨r, hbytes, hlen, -⟩
  obtain rfl : _ = r := hbytes
  revert hlen
  decide +kernel

end CloudFpga.Fmc.Http
