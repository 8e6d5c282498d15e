import CloudFpga.Foundation.Packet
import CloudFpga.Nts.Types

/-!
The chunks of an AXI4 stream, `AxisRaw.hpp`.

* `AxisRaw`: eight byte lanes, each with its `tkeep` bit, and `tlast`.
* `AxisRaw.bytes`, `streamBytes`: the valid bytes of a chunk and of a stream.
* `WellFormed`: a stream that ends with its only `tlast` and whose chunks are consistent.
-/

namespace CloudFpga

open Foundation

abbrev Byte := BitVec 8

/-- A byte lane: `tdata.range(8i+7, 8i)` and `tkeep[i]`, in little-endian order. -/
structure Lane where
  data : Byte
  keep : Bool
  deriving DecidableEq, Repr

/-- A chunk of eight lanes. -/
@[ext]
structure AxisRaw where
  lanes : List Lane
  tlast : Bool
  length_lanes : lanes.length = 8
  deriving DecidableEq

abbrev AxisApp := AxisRaw

/-- The bytes of the lanes that are kept. -/
def keptBytes (ls : List Lane) : List Byte :=
  ls.filterMap fun l => if l.keep then some l.data else none

/-- The kept lanes come first. -/
def KeptFirst (ls : List Lane) : Prop := ls.Pairwise fun a b => b.keep = true → a.keep = true

namespace AxisRaw

/-- The valid bytes, in the order of the stream. -/
def bytes (c : AxisRaw) : List Byte := keptBytes c.lanes

/-- `getLen`: `tkeep` is matched against the masks of 1 to 8 low bits. -/
def getLen (c : AxisRaw) : ℕ :=
  let keep := c.lanes.map (·.keep)
  let n := (keep.takeWhile id).length
  if keep = List.replicate n true ++ List.replicate (8 - n) false then n else 0

/-- `isValid`: the consistency of `tkeep` and `tlast`. -/
def isValid (c : AxisRaw) : Bool :=
  if c.tlast then c.getLen ≠ 0 else c.lanes.map (·.keep) = List.replicate 8 true

/-- `setLE_TLast(TLAST)`. -/
def setTLast (c : AxisRaw) : AxisRaw := { c with tlast := true }

/-- `setLE_TKeep(lenToLE_tKeep(n))`. -/
def setTKeepLen (c : AxisRaw) (n : ℕ) : AxisRaw where
  lanes := c.lanes.mapIdx fun i l => { l with keep := i < n }
  tlast := c.tlast
  length_lanes := by rw [List.length_mapIdx, c.length_lanes]

/-- The lower lanes are the last `off` lanes of `prev`, the higher ones the first lanes of
`cur`. -/
def join (off : ℕ) (prev cur : AxisRaw) : AxisRaw where
  lanes := prev.lanes.drop (8 - off) ++ cur.lanes.take (8 - off)
  tlast := false
  length_lanes := by
    rw [List.length_append, List.length_drop, List.length_take, prev.length_lanes,
      cur.length_lanes]
    omega

/-- `AxisApp(0,0,0)`. -/
def zero : AxisRaw := ⟨List.replicate 8 ⟨0, false⟩, false, by simp⟩

end AxisRaw

/-- The valid bytes of a stream. -/
def streamBytes (cs : List AxisRaw) : List Byte := cs.flatMap AxisRaw.bytes

/-- A stream with exactly one `tlast`, on its last chunk. -/
@[reducible] def IsStream (cs : List AxisRaw) : Prop := IsPacket AxisRaw.tlast cs

/-- A well-formed stream: it is a packet, and its chunks are valid. -/
structure WellFormed (cs : List AxisRaw) : Prop where
  isStream : IsStream cs
  isValid : ∀ c ∈ cs, c.isValid

instance (cs : List AxisRaw) : Decidable (WellFormed cs) :=
  decidable_of_iff (IsStream cs ∧ ∀ c ∈ cs, c.isValid) ⟨fun h => ⟨h.1, h.2⟩, fun h => ⟨h.1, h.2⟩⟩

/-! ### Kept lanes -/

@[simp] lemma keptBytes_nil : keptBytes [] = [] := rfl

@[simp] lemma keptBytes_append (ls ls' : List Lane) :
    keptBytes (ls ++ ls') = keptBytes ls ++ keptBytes ls' := List.filterMap_append

lemma keptBytes_cons_of_keep {l : Lane} (h : l.keep = true) (ls : List Lane) :
    keptBytes (l :: ls) = l.data :: keptBytes ls := by simp [keptBytes, h]

lemma keptBytes_eq_nil {ls : List Lane} (h : ∀ l ∈ ls, l.keep = false) : keptBytes ls = [] := by
  rw [keptBytes, List.filterMap_eq_nil_iff]
  intro l hl
  simp [h l hl]

lemma length_keptBytes_le (ls : List Lane) : (keptBytes ls).length ≤ ls.length :=
  List.length_filterMap_le ..

/-- Where the kept lanes come first, a cut of the lanes cuts the bytes. -/
lemma KeptFirst.cut {ls : List Lane} (h : KeptFirst ls) (k : ℕ) :
    keptBytes (ls.take k) = (keptBytes ls).take k ∧
      keptBytes (ls.drop k) = (keptBytes ls).drop k := by
  induction ls generalizing k with
  | nil => simp
  | cons l ls ih =>
      obtain ⟨hl, hls⟩ := List.pairwise_cons.mp h
      cases hk : l.keep with
      | false =>
          have hnone : ∀ l' ∈ l :: ls, l'.keep = false := by
            rintro l' (_ | ⟨_, hl'⟩)
            · exact hk
            · exact Bool.eq_false_iff.mpr fun ht => by simp [hl l' hl' ht] at hk
          rw [keptBytes_eq_nil hnone,
            keptBytes_eq_nil fun l' hl' => hnone l' (List.mem_of_mem_take hl'),
            keptBytes_eq_nil fun l' hl' => hnone l' (List.mem_of_mem_drop hl')]
          simp
      | true =>
          cases k with
          | zero => simp
          | succ k =>
              rw [List.take_succ_cons, List.drop_succ_cons, keptBytes_cons_of_keep hk,
                keptBytes_cons_of_keep hk, (ih hls k).1, (ih hls k).2]
              simp

/-- The masks of the low bits keep the first lanes. -/
lemma keptFirst_of_mask {ls : List Lane} {n m : ℕ}
    (h : ls.map (·.keep) = List.replicate n true ++ List.replicate m false) :
    KeptFirst ls ∧ keptBytes ls = (ls.map (·.data)).take n := by
  induction ls generalizing n with
  | nil => exact ⟨List.Pairwise.nil, by simp⟩
  | cons l ls ih =>
      cases n with
      | zero =>
          have hnone : ∀ l' ∈ l :: ls, l'.keep = false := by
            intro l' hl'
            have hmem : l'.keep ∈ (l :: ls).map (·.keep) := List.mem_map_of_mem hl'
            rw [h] at hmem
            simpa using List.eq_of_mem_replicate (by simpa using hmem)
          refine ⟨List.pairwise_of_forall_mem_list fun a _ b hb ht => ?_, ?_⟩
          · simp [hnone b hb] at ht
          · simpa using keptBytes_eq_nil hnone
      | succ n =>
          rw [List.map_cons, List.replicate_succ, List.cons_append, List.cons.injEq] at h
          obtain ⟨hfirst, hbytes⟩ := ih h.2
          refine ⟨List.pairwise_cons.mpr ⟨fun _ _ _ => h.1, hfirst⟩, ?_⟩
          rw [keptBytes_cons_of_keep h.1, hbytes]
          rfl

namespace AxisRaw

variable {c : AxisRaw}

@[simp] lemma bytes_setTLast : c.setTLast.bytes = c.bytes := rfl

@[simp] lemma tlast_setTLast : c.setTLast.tlast = true := rfl

@[simp] lemma tlast_setTKeepLen (n : ℕ) : (c.setTKeepLen n).tlast = c.tlast := rfl

@[simp] lemma tlast_join (off : ℕ) (prev cur : AxisRaw) : (join off prev cur).tlast = false := rfl

/-- A valid chunk keeps its first `getLen` lanes, all eight unless it is the last one. -/
lemma mask_of_isValid (h : c.isValid) :
    c.lanes.map (·.keep) = List.replicate c.getLen true ++ List.replicate (8 - c.getLen) false ∧
      1 ≤ c.getLen ∧ (c.tlast = false → c.getLen = 8) := by
  have hfull : c.lanes.map (·.keep) = List.replicate 8 true → c.getLen = 8 := by
    intro hk
    simp [getLen, hk]
  unfold isValid at h
  split at h
  · next hlast =>
      have hne : c.getLen ≠ 0 := by simpa using h
      refine ⟨?_, by omega, by simp [hlast]⟩
      unfold getLen at hne ⊢
      dsimp only at hne ⊢
      split at hne
      · next hmask => rw [if_pos hmask]; exact hmask
      · exact absurd rfl hne
  · have hk : c.lanes.map (·.keep) = List.replicate 8 true := by simpa using h
    rw [hfull hk]
    exact ⟨by simpa using hk, by omega, fun _ => rfl⟩

lemma keptFirst_of_isValid (h : c.isValid) : KeptFirst c.lanes := (keptFirst_of_mask (mask_of_isValid h).1).1

/-- `getLen` is the number of valid bytes. -/
lemma getLen_eq (h : c.isValid) : c.getLen = c.bytes.length := by
  have hlen := congrArg List.length (mask_of_isValid h).1
  simp only [List.length_map, c.length_lanes, List.length_append, List.length_replicate] at hlen
  rw [bytes, (keptFirst_of_mask (mask_of_isValid h).1).2, List.length_take, List.length_map, c.length_lanes]
  omega

lemma one_le_length_bytes (h : c.isValid) : 1 ≤ c.bytes.length :=
  getLen_eq h ▸ (mask_of_isValid h).2.1

lemma getLen_le (c : AxisRaw) : c.getLen ≤ 8 := by
  rw [getLen]
  split
  · refine (List.takeWhile_prefix _).length_le.trans ?_
    rw [List.length_map, c.length_lanes]
  · exact Nat.zero_le 8

lemma length_bytes_le (c : AxisRaw) : c.bytes.length ≤ 8 :=
  c.length_lanes ▸ length_keptBytes_le c.lanes

lemma length_bytes_eq (h : c.isValid) (hlast : c.tlast = false) : c.bytes.length = 8 :=
  getLen_eq h ▸ (mask_of_isValid h).2.2 hlast

lemma mask_setTKeepLen {n : ℕ} (hn : n ≤ 8) :
    (c.setTKeepLen n).lanes.map (·.keep)
      = List.replicate n true ++ List.replicate (8 - n) false := by
  apply List.ext_getElem
  · simp [setTKeepLen, c.length_lanes]
    omega
  · intro i hi _
    simp only [setTKeepLen, List.getElem_map, List.getElem_mapIdx, List.getElem_append,
      List.length_replicate, List.getElem_replicate]
    split <;> simp_all

lemma length_bytes_setTKeepLen {n : ℕ} (hn : n ≤ 8) : (c.setTKeepLen n).bytes.length = n := by
  rw [bytes, (keptFirst_of_mask (mask_setTKeepLen hn)).2, List.length_take, List.length_map,
    (c.setTKeepLen n).length_lanes]
  omega

/-- Keeping the first `n` of the valid bytes. -/
lemma bytes_setTKeepLen (h : c.isValid) {n : ℕ} (hn : n ≤ c.bytes.length) :
    (c.setTKeepLen n).bytes = c.bytes.take n := by
  have hlen := c.length_bytes_le
  have hdata : (c.setTKeepLen n).lanes.map (·.data) = c.lanes.map (·.data) := by
    apply List.ext_getElem
    · simp [setTKeepLen]
    · intro i _ _
      simp [setTKeepLen]
  rw [bytes, (keptFirst_of_mask (mask_setTKeepLen (by omega))).2, hdata, bytes,
    (keptFirst_of_mask (mask_of_isValid h).1).2, List.take_take, getLen_eq h, Nat.min_eq_left hn]

/-- The valid bytes of a joined chunk: the tail of one chunk and the head of the other. -/
lemma bytes_join {prev cur : AxisRaw} (hp : KeptFirst prev.lanes) (hc : KeptFirst cur.lanes)
    (off : ℕ) :
    (join off prev cur).bytes = prev.bytes.drop (8 - off) ++ cur.bytes.take (8 - off) := by
  rw [bytes, join, keptBytes_append, (hp.cut _).2, (hc.cut _).1]
  rfl

lemma bytes_zero : zero.bytes = [] := rfl

lemma keptFirst_zero : KeptFirst zero.lanes :=
  (keptFirst_of_mask (n := 0) (m := 8) rfl).1

end AxisRaw

/-! ### Streams -/

@[simp] lemma streamBytes_nil : streamBytes [] = [] := rfl

@[simp] lemma streamBytes_cons (c : AxisRaw) (cs : List AxisRaw) :
    streamBytes (c :: cs) = c.bytes ++ streamBytes cs := rfl

lemma streamBytes_append (cs ds : List AxisRaw) :
    streamBytes (cs ++ ds) = streamBytes cs ++ streamBytes ds := List.flatMap_append

namespace WellFormed

variable {c : AxisRaw} {cs : List AxisRaw}

lemma head (h : WellFormed (c :: cs)) : c.isValid := h.isValid c List.mem_cons_self

/-- After a chunk that is not the last one a well-formed stream goes on. -/
lemma tail (h : WellFormed (c :: cs)) (hlast : c.tlast = false) : WellFormed cs :=
  ⟨(isPacket_cons_of_not_last hlast).mp h.isStream,
    fun d hd => h.isValid d (List.mem_cons_of_mem c hd)⟩

lemma tail_eq_nil (h : WellFormed (c :: cs)) (hlast : c.tlast = true) : cs = [] :=
  (isPacket_cons_of_last hlast).mp h.isStream

lemma length_pos (h : WellFormed cs) : 1 ≤ (streamBytes cs).length := by
  cases cs with
  | nil => exact absurd h.isStream id
  | cons c cs =>
      have hc := AxisRaw.one_le_length_bytes h.head
      rw [streamBytes_cons, List.length_append]
      omega

/-- One more chunk in front of a well-formed stream. -/
lemma cons (hc : c.isValid) (hlast : c.tlast = false) (h : WellFormed cs) :
    WellFormed (c :: cs) := by
  refine ⟨(isPacket_cons_of_not_last hlast).mpr h.isStream, fun d hd => ?_⟩
  obtain rfl | hd := List.mem_cons.mp hd
  · exact hc
  · exact h.isValid d hd

lemma singleton (hc : c.isValid) (hlast : c.tlast = true) : WellFormed [c] := by
  refine ⟨(isPacket_cons_of_last hlast).mpr rfl, fun d hd => ?_⟩
  rw [List.mem_singleton.mp hd]
  exact hc

end WellFormed

end CloudFpga
