import CloudFpga.Foundation.Transducer
import CloudFpga.Nts.AxisRaw

/-!
Processes that forward a packet one chunk late, since its first two chunks decide where it goes.

* `LateRouter`: what the two chunks decide, and where a chunk goes then.
* `LateRouter.next`, `LateRouter.emit`: the process as a machine. The last chunk, which is written
  without a read, is written together with the one in front of it.
* `LateRouter.packet`: all of the chunks of a packet go where its first two chunks say.
-/

namespace CloudFpga

open Foundation

/-- `first` and `second` decide by the first chunks, with what is left in the register; `last` is
what is done to a last chunk. -/
structure LateRouter (κ β : Type*) where
  first : AxisRaw → κ → κ
  second : AxisRaw → κ → κ
  route : κ → AxisRaw → List β
  last : AxisRaw → AxisRaw

/-- The registers: `key` is the decision. -/
structure LateRegs (κ : Type*) where
  chunkCount : ℕ := 0
  key : κ
  prevChunk : AxisRaw := AxisRaw.zero
  deriving DecidableEq

namespace LateRouter

variable {κ β : Type*} (L : LateRouter κ β) (r : LateRegs κ) (currChunk : AxisRaw)

/-- What is done with a chunk. -/
def chunk : LateRegs κ × List β :=
  match r.chunkCount with
  | 0 => (⟨if currChunk.tlast then 0 else 1, L.first currChunk r.key, currChunk⟩, [])
  | n + 1 =>
      let key := if n = 0 then L.second currChunk r.key else r.key
      (⟨if currChunk.tlast then 0 else 2, key, currChunk⟩, L.route key r.prevChunk)

def next : LateRegs κ := (L.chunk r currChunk).1

def emit : List β :=
  (L.chunk r currChunk).2 ++
    if currChunk.tlast then L.route (L.chunk r currChunk).1.key (L.last currChunk) else []

/-- What is written of a chunk. -/
def finish : AxisRaw := if currChunk.tlast then L.last currChunk else currChunk

/-- What the first chunks of a packet decide. -/
def packetKey (key : κ) : List AxisRaw → κ
  | [] => key
  | [c0] => L.first c0 key
  | c0 :: c1 :: _ => L.second c1 (L.first c0 key)

/-- The chunks of a packet, where its first chunks say. -/
def routed (key : κ) (cs : List AxisRaw) : List β :=
  (cs.map L.finish).flatMap (L.route (L.packetKey key cs))

variable {L r} {cs : List AxisRaw}

/-- The rest of a packet. -/
lemma rest (hcs : IsStream cs) (hcount : r.chunkCount = 2) :
    emits L.next L.emit r cs =
        L.route r.key r.prevChunk ++ (cs.map L.finish).flatMap (L.route r.key) ∧
      (Clocked.run L.next r cs).chunkCount = 0 := by
  induction cs generalizing r with
  | nil => exact absurd hcs id
  | cons c cs ih =>
      have hchunk : L.chunk r c =
          (⟨if c.tlast then 0 else 2, r.key, c⟩, L.route r.key r.prevChunk) := by
        rw [chunk, hcount]
        rfl
      cases hlast : c.tlast with
      | true =>
          obtain rfl := (isPacket_cons_of_last hlast).mp hcs
          simp [emit, next, hchunk, hlast, finish]
      | false =>
          rw [hlast] at hchunk
          obtain ⟨hout, hcount'⟩ := ih (r := L.next r c)
            ((isPacket_cons_of_not_last hlast).mp hcs) (by rw [next, hchunk]; rfl)
          refine ⟨?_, hcount'⟩
          rw [emits_cons, hout, emit, next, hchunk, List.map_cons, finish, hlast]
          simp

/-- **A packet** goes where its first chunks say. -/
theorem packet (hcs : IsStream cs) (hcount : r.chunkCount = 0) :
    emits L.next L.emit r cs = L.routed r.key cs ∧
      (Clocked.run L.next r cs).chunkCount = 0 := by
  cases cs with
  | nil => exact absurd hcs id
  | cons c0 cs =>
      have hchunk : L.chunk r c0 = (⟨if c0.tlast then 0 else 1, L.first c0 r.key, c0⟩, []) := by
        rw [chunk, hcount]
      cases hlast : c0.tlast with
      | true =>
          -- the only chunk is written behind it
          obtain rfl := (isPacket_cons_of_last hlast).mp hcs
          simp [emit, next, hchunk, hlast, routed, packetKey, finish]
      | false =>
          rw [hlast] at hchunk
          have hcs' := (isPacket_cons_of_not_last hlast).mp hcs
          cases cs with
          | nil => exact absurd hcs' id
          | cons c1 cs =>
              have hemit : L.emit r c0 = [] := by simp [emit, hchunk, hlast]
              have hchunk1 : L.chunk (L.next r c0) c1 =
                  (⟨if c1.tlast then 0 else 2, L.packetKey r.key (c0 :: c1 :: cs), c1⟩,
                    L.route (L.packetKey r.key (c0 :: c1 :: cs)) c0) := by
                rw [next, hchunk]
                rfl
              rw [emits_cons, Clocked.run_cons, hemit, List.nil_append, routed, List.map_cons,
                finish, hlast]
              cases hlast1 : c1.tlast with
              | true =>
                  obtain rfl := (isPacket_cons_of_last hlast1).mp hcs'
                  refine ⟨?_, ?_⟩
                  · rw [emits_cons, emits_nil, emit, hchunk1]
                    simp [finish, hlast1]
                  · rw [Clocked.run_cons, Clocked.run_nil, next, hchunk1]
                    exact if_pos hlast1
              | false =>
                  rw [hlast1] at hchunk1
                  have hnext : L.next (L.next r c0) c1 =
                      ⟨2, L.packetKey r.key (c0 :: c1 :: cs), c1⟩ := by
                    rw [next, hchunk1]
                    rfl
                  obtain ⟨hout, hidle⟩ := rest (L := L) (r := L.next (L.next r c0) c1)
                    ((isPacket_cons_of_not_last hlast1).mp hcs') (by rw [hnext])
                  refine ⟨?_, hidle⟩
                  rw [emits_cons, hout, emit, hchunk1, hnext, List.map_cons, finish, hlast1]
                  simp

end LateRouter

end CloudFpga
