import CloudFpga.Nts.AxisRaw

/-!
What the Data Mover does with write commands and their data streams.

* `dmWrites`: the bytes of a stream go to consecutive physical addresses.
* `circularWrites`: the bytes go to consecutive addresses of the 64KB circular buffer.
* `dmAddrs`: the addresses of an access, which an access cut at the end of the buffer shares with
  the circular buffer.
* `Delivers`: the commands and streams of a writer, taken together, write given bytes into the
  circular buffer.
* `delivers_one`, `delivers_two`: a segment that does not wrap takes one command, a segment that
  wraps takes two, cut at the end of the buffer.
-/

namespace CloudFpga

open Foundation

/-- The writes of a command: consecutive physical addresses from its start address on. -/
def dmWrites (c : DmCmd) (bytes : List Byte) : List (BitVec 40 × Byte) :=
  bytes.mapIdx fun i b => (c.saddr + BitVec.ofNat 40 i, b)

/-- The address `i` bytes after `saddr` in its 64KB circular buffer. -/
def circularAddr (saddr : BitVec 40) (i : ℕ) : BitVec 40 :=
  setRange saddr 15 0 (saddr.setWidth 16 + BitVec.ofNat 16 i)

/-- The writes of bytes that go around the circular buffer. -/
def circularWrites (saddr : BitVec 40) (bytes : List Byte) : List (BitVec 40 × Byte) :=
  bytes.mapIdx fun i b => (circularAddr saddr i, b)

/-- The commands and the chunks of a writer deliver `bytes` from `saddr` on: the chunks are one
stream for each command, with one `tlast` at its end and as many valid bytes as the command
says, and the writes of all commands are those of the circular buffer. -/
def Delivers (saddr : BitVec 40) (bytes : List Byte) (cmds : List DmCmd) (data : List AxisRaw) :
    Prop :=
  ∃ streams : List (List AxisRaw), data = streams.flatten ∧ (∀ st ∈ streams, IsStream st) ∧
    List.Forall₂ (fun c st => c.btt.toNat = (streamBytes st).length) cmds streams ∧
    (List.zipWith (fun c st => dmWrites c (streamBytes st)) cmds streams).flatten
      = circularWrites saddr bytes

/-- Chunks with too many bytes for the first command before any `tlast` cannot be part of a
delivery. -/
lemma not_delivers_of_overlong {saddr : BitVec 40} {bytes : List Byte} {c : DmCmd}
    {cmds : List DmCmd} {pre suf : List AxisRaw} (hpre : ∀ d ∈ pre.dropLast, d.tlast = false)
    (hlong : c.btt.toNat < (streamBytes pre).length) :
    ¬Delivers saddr bytes (c :: cmds) (pre ++ suf) := by
  rintro ⟨streams, hdata, hstreams, hbtt, -⟩
  obtain ⟨st, sts, hc, -, rfl⟩ := List.forall₂_cons_left_iff.mp hbtt
  rw [List.flatten_cons] at hdata
  obtain ⟨rest, hst⟩ := (hstreams st List.mem_cons_self).bound hpre hdata.symm
  have hle : (streamBytes pre).length ≤ (streamBytes st).length := by
    rw [← hst, streamBytes, streamBytes, List.flatMap_append, List.length_append]
    exact Nat.le_add_right _ _
  omega

/-! ### Commands -/

namespace DmCmd

variable (c : DmCmd)

/-- The access wraps around the end of the buffer. -/
def wraps : Bool := c.offset.toNat + c.btt.toNat > toeBufferSize

/-- The number of bytes up to the end of the buffer. -/
def firstAccLen : BitVec 16 := (BitVec.ofNat 40 toeBufferSize - c.saddr).setWidth 16

/-- The access up to the end of the buffer. -/
def first : DmCmd := .ofAddrLen c.saddr c.firstAccLen

/-- The access from the start of the buffer on. -/
def second (firstAccLen : BitVec 16) : DmCmd :=
  { c with saddr := setRange c.saddr 15 0 (0 : BitVec 16), btt := c.btt - firstAccLen.setWidth 23 }

lemma toNat_offset : c.offset.toNat = c.saddr.toNat % 65536 := by
  simp [offset]

/-- The first access ends at the end of the buffer. -/
lemma toNat_firstAccLen (h : c.offset ≠ 0) :
    c.firstAccLen.toNat + c.offset.toNat = toeBufferSize := by
  have hne : c.offset.toNat ≠ 0 := fun h0 => h (BitVec.eq_of_toNat_eq h0)
  have hs := c.saddr.isLt
  rw [toNat_offset] at hne ⊢
  rw [firstAccLen, BitVec.toNat_setWidth, BitVec.toNat_sub, BitVec.toNat_ofNat, toeBufferSize]
  omega

lemma offset_ne_zero_of_wraps (h : c.wraps) (hbtt : c.btt.toNat < toeBufferSize) :
    c.offset ≠ 0 := by
  intro h0
  simp only [wraps, h0, decide_eq_true_eq, gt_iff_lt] at h
  have hz : (0 : BitVec 16).toNat = 0 := rfl
  omega

lemma toNat_btt_first : c.first.btt.toNat = c.firstAccLen.toNat := by
  have hf := c.firstAccLen.isLt
  rw [first, ofAddrLen, BitVec.toNat_setWidth]
  omega

@[simp] lemma saddr_first : c.first.saddr = c.saddr := by simp [first, ofAddrLen]

lemma toNat_btt_second (h : c.firstAccLen.toNat ≤ c.btt.toNat) :
    (c.second c.firstAccLen).btt.toNat = c.btt.toNat - c.firstAccLen.toNat := by
  have hb := c.btt.isLt
  rw [second, BitVec.toNat_sub, BitVec.toNat_setWidth]
  omega

end DmCmd

lemma toNat_circularAddr (saddr : BitVec 40) (i : ℕ) :
    (circularAddr saddr i).toNat
      = saddr.toNat / 65536 * 65536 + (saddr.toNat % 65536 + i) % 65536 := by
  have hs := saddr.isLt
  simp only [circularAddr, setRange, BitVec.toNat_ofNat, BitVec.toNat_add, BitVec.toNat_setWidth]
  omega

/-- Up to the end of the buffer the circular address is the linear one. -/
lemma circularAddr_of_lt {c : DmCmd} {i : ℕ} (h : c.offset.toNat + i < toeBufferSize) :
    circularAddr c.saddr i = c.saddr + BitVec.ofNat 40 i := by
  have hs := c.saddr.isLt
  rw [DmCmd.toNat_offset] at h
  unfold toeBufferSize at h
  apply BitVec.eq_of_toNat_eq
  rw [toNat_circularAddr]
  simp only [BitVec.toNat_add, BitVec.toNat_ofNat]
  omega

/-- Behind the end of the buffer it starts again at the bottom. -/
lemma circularAddr_of_ge {c : DmCmd} {f i : ℕ} (hf : f + c.offset.toNat = toeBufferSize)
    (hi : i < toeBufferSize) :
    circularAddr c.saddr (i + f) = setRange c.saddr 15 0 (0 : BitVec 16) + BitVec.ofNat 40 i := by
  have hs := c.saddr.isLt
  rw [DmCmd.toNat_offset] at hf
  have hz : (0 : BitVec 16).toNat = 0 := rfl
  unfold toeBufferSize at hf hi
  apply BitVec.eq_of_toNat_eq
  rw [toNat_circularAddr, setRange, BitVec.toNat_add, BitVec.toNat_ofNat, BitVec.toNat_ofNat, hz]
  omega

/-! ### Accesses -/

/-- The addresses of an access. -/
def dmAddrs (c : DmCmd) : List (BitVec 40) :=
  (List.range c.btt.toNat).map fun i => c.saddr + BitVec.ofNat 40 i

/-- An access that does not wrap goes around the circular buffer. -/
lemma dmAddrs_of_not_wraps {c : DmCmd} (hw : ¬c.wraps) :
    dmAddrs c = (List.range c.btt.toNat).map (circularAddr c.saddr) := by
  simp only [DmCmd.wraps, decide_eq_true_eq, not_lt, gt_iff_lt] at hw
  refine List.map_congr_left fun i hi => (circularAddr_of_lt ?_).symm
  rw [List.mem_range] at hi
  omega

/-- The two parts of an access that wraps go around the circular buffer. -/
lemma dmAddrs_of_wraps {c d : DmCmd} (hw : c.wraps) (hbtt : c.btt.toNat < toeBufferSize)
    (hsaddr : d.saddr = (c.second c.firstAccLen).saddr)
    (hd : d.btt = (c.second c.firstAccLen).btt) :
    dmAddrs c.first ++ dmAddrs d = (List.range c.btt.toNat).map (circularAddr c.saddr) := by
  have hf := c.toNat_firstAccLen (c.offset_ne_zero_of_wraps hw hbtt)
  simp only [DmCmd.wraps, decide_eq_true_eq, gt_iff_lt] at hw
  have hle : c.firstAccLen.toNat ≤ c.btt.toNat := by omega
  have hsum : c.btt.toNat = c.firstAccLen.toNat + (c.btt.toNat - c.firstAccLen.toNat) := by omega
  rw [dmAddrs, dmAddrs, hd, c.toNat_btt_first, c.toNat_btt_second hle, c.saddr_first, hsaddr]
  conv_rhs => rw [hsum, List.range_add, List.map_append, List.map_map]
  refine congrArg₂ _ ?_ ?_
  · refine List.map_congr_left fun i hi => (circularAddr_of_lt ?_).symm
    rw [List.mem_range] at hi
    omega
  · refine List.map_congr_left fun i hi => ?_
    rw [List.mem_range] at hi
    rw [Function.comp_apply, Nat.add_comm, circularAddr_of_ge hf (by omega)]
    rfl

/-- In the buffer of a session the circular address advances with the offset. -/
lemma circularAddr_memSegAddr (base : ℕ) (id : SessionId) (addr : BitVec 16) (i : ℕ) :
    circularAddr ((memSegAddr base id addr).setWidth 40) i
      = (memSegAddr base id (addr + BitVec.ofNat 16 i)).setWidth 40 := by
  have ha := addr.isLt
  have hid := id.isLt
  apply BitVec.eq_of_toNat_eq
  rw [toNat_circularAddr, BitVec.toNat_setWidth, BitVec.toNat_setWidth, toNat_memSegAddr,
    toNat_memSegAddr, BitVec.toNat_add, BitVec.toNat_ofNat]
  omega

/-! ### Deliveries -/

/-- A command whose addresses are circular ones writes a part of the circular buffer. -/
lemma dmWrites_eq {saddr : BitVec 40} {c : DmCmd} {bytes : List Byte} {f : ℕ}
    (h : ∀ i < bytes.length, circularAddr saddr (i + f) = c.saddr + BitVec.ofNat 40 i) :
    dmWrites c bytes = bytes.mapIdx fun i b => (circularAddr saddr (i + f), b) := by
  apply List.ext_getElem
  · simp [dmWrites]
  · intro i hi _
    rw [dmWrites, List.length_mapIdx] at hi
    simp only [dmWrites, List.getElem_mapIdx]
    rw [h i hi]

/-- One command delivers a segment that does not wrap. -/
theorem delivers_one {c : DmCmd} {data : List AxisRaw} (hw : ¬c.wraps) (hs : IsStream data)
    (hlen : c.btt.toNat = (streamBytes data).length) :
    Delivers c.saddr (streamBytes data) [c] data := by
  simp only [DmCmd.wraps, decide_eq_true_eq, not_lt, gt_iff_lt] at hw
  refine ⟨[data], by simp, by simpa using hs, by simpa using hlen, ?_⟩
  have hwr : dmWrites c (streamBytes data) = circularWrites c.saddr (streamBytes data) :=
    dmWrites_eq (f := 0) fun i hi => circularAddr_of_lt (by omega)
  simpa using hwr

/-- Two commands deliver a segment that wraps, cut at the end of the buffer. -/
theorem delivers_two {c : DmCmd} {bytes : List Byte} {fst snd : List AxisRaw} (hw : c.wraps)
    (hbtt : c.btt.toNat < toeBufferSize) (hlen : c.btt.toNat = bytes.length)
    (hfst : IsStream fst) (hsnd : IsStream snd)
    (hfstB : streamBytes fst = bytes.take c.firstAccLen.toNat)
    (hsndB : streamBytes snd = bytes.drop c.firstAccLen.toNat) :
    Delivers c.saddr bytes [c.first, c.second c.firstAccLen] (fst ++ snd) := by
  have hf := c.toNat_firstAccLen (c.offset_ne_zero_of_wraps hw hbtt)
  simp only [DmCmd.wraps, decide_eq_true_eq, gt_iff_lt] at hw
  have hlt : c.firstAccLen.toNat < bytes.length := by omega
  refine ⟨[fst, snd], by simp, by simp [hfst, hsnd], ?_, ?_⟩
  · rw [List.forall₂_cons, List.forall₂_cons]
    refine ⟨?_, ?_, List.Forall₂.nil⟩
    · rw [c.toNat_btt_first, hfstB, List.length_take]
      omega
    · rw [c.toNat_btt_second (by omega), hsndB, List.length_drop]
      omega
  · have h1 : dmWrites c.first (bytes.take c.firstAccLen.toNat)
        = circularWrites c.saddr (bytes.take c.firstAccLen.toNat) :=
      dmWrites_eq (f := 0) fun i hi => by
        rw [List.length_take] at hi
        rw [c.saddr_first]
        exact circularAddr_of_lt (by omega)
    have h2 : dmWrites (c.second c.firstAccLen) (bytes.drop c.firstAccLen.toNat)
        = (bytes.drop c.firstAccLen.toNat).mapIdx fun i b =>
          (circularAddr c.saddr (i + c.firstAccLen.toNat), b) :=
      dmWrites_eq fun i hi => circularAddr_of_ge hf (by rw [List.length_drop] at hi; omega)
    have hsplit : circularWrites c.saddr bytes
        = circularWrites c.saddr (bytes.take c.firstAccLen.toNat)
          ++ (bytes.drop c.firstAccLen.toNat).mapIdx fun i b =>
            (circularAddr c.saddr (i + c.firstAccLen.toNat), b) := by
      conv_lhs => rw [← List.take_append_drop c.firstAccLen.toNat bytes]
      rw [circularWrites, List.mapIdx_append, List.length_take, Nat.min_eq_left hlt.le]
      rfl
    simp only [List.zipWith_cons_cons, List.zipWith_nil_right, List.flatten_cons,
      List.flatten_nil, List.append_nil, hfstB, hsndB, h1, h2, hsplit]

end CloudFpga
