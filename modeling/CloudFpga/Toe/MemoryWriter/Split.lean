import CloudFpga.Nts.DataMover

/-!
The cut of a stream at a byte offset, as the two memory writers perform it.

* `residue`, `realign`: the second stream, when the cut falls inside a chunk and all following
  chunks have to be realigned.
* `splitData`: the two streams for a cut after `n` bytes.
* `splitData_spec`: both are streams, of the first `n` bytes and of the others.
-/

namespace CloudFpga.Toe

open Foundation AxisRaw

/-- The very last unaligned chunk: the last `off` lanes of `prev`. -/
def residue (off : ℕ) (prev : AxisRaw) : AxisRaw := (join off prev zero).setTLast

/-- The realigned chunks: each one joins the last `off` lanes of a chunk with the first lanes of
the next one. -/
def realign (off : ℕ) : AxisRaw → List AxisRaw → List AxisRaw
  | _, [] => []
  | prev, cur :: cs =>
      if cur.tlast then
        if cur.getLen > 8 - off then [join off prev cur, residue off cur]
        else [(join off prev cur).setTLast]
      else join off prev cur :: realign off cur cs

/-- The two streams for a cut after `n` bytes. -/
def splitData : ℕ → List AxisRaw → List AxisRaw × List AxisRaw
  | _, [] => ([], [])
  | n, c :: cs =>
      if n > 8 then (c :: (splitData (n - 8) cs).1, (splitData (n - 8) cs).2)
      else if n = 8 then ([c.setTLast], cs)
      else ([c.setTLast.setTKeepLen n],
        if c.tlast then [residue (8 - n) c] else realign (8 - n) c cs)

lemma bytes_residue {prev : AxisRaw} (hp : KeptFirst prev.lanes) (off : ℕ) :
    (residue off prev).bytes = prev.bytes.drop (8 - off) := by
  rw [residue, bytes_setTLast, bytes_join hp keptFirst_zero, bytes_zero]
  simp

/-- The realigned stream: the tail of the chunk that was cut, and all bytes after it. -/
theorem realign_spec {off : ℕ} {prev : AxisRaw} {cs : List AxisRaw} (hp : KeptFirst prev.lanes)
    (hcs : WellFormed cs) :
    IsStream (realign off prev cs) ∧
      streamBytes (realign off prev cs) = prev.bytes.drop (8 - off) ++ streamBytes cs := by
  induction cs generalizing prev with
  | nil => exact absurd hcs.isStream id
  | cons cur cs ih =>
      have hcur := keptFirst_of_isValid hcs.head
      cases hlast : cur.tlast with
      | true =>
          have hnil := hcs.tail_eq_nil hlast
          subst hnil
          rw [realign, if_pos hlast, getLen_eq hcs.head]
          split
          · next hlen =>
              refine ⟨?_, ?_⟩
              · rw [IsStream, isPacket_cons_of_not_last (tlast_join ..),
                  isPacket_cons_of_last rfl]
              · rw [streamBytes_cons, streamBytes_cons, bytes_join hp hcur, bytes_residue hcur]
                simp [List.append_assoc]
          · next hlen =>
              refine ⟨(isPacket_cons_of_last rfl).mpr rfl, ?_⟩
              rw [streamBytes_cons, bytes_setTLast, bytes_join hp hcur,
                List.take_of_length_le (by omega)]
              simp
      | false =>
          obtain ⟨hstream, hbytes⟩ := ih hcur (hcs.tail hlast)
          have hnot : ¬cur.tlast := by simp [hlast]
          rw [realign, if_neg hnot]
          refine ⟨(isPacket_cons_of_not_last (tlast_join ..)).mpr hstream, ?_⟩
          rw [streamBytes_cons, bytes_join hp hcur, hbytes, streamBytes_cons, List.append_assoc,
            ← List.append_assoc (cur.bytes.take _), List.take_append_drop]

/-- A cut inside a well-formed stream gives two streams, of the bytes before the cut and of the
bytes behind it. -/
theorem splitData_spec {n : ℕ} {cs : List AxisRaw} (hcs : WellFormed cs) (hn : 1 ≤ n)
    (hlt : n < (streamBytes cs).length) :
    IsStream (splitData n cs).1 ∧ IsStream (splitData n cs).2 ∧
      streamBytes (splitData n cs).1 = (streamBytes cs).take n ∧
      streamBytes (splitData n cs).2 = (streamBytes cs).drop n := by
  induction cs generalizing n with
  | nil => exact absurd hcs.isStream id
  | cons c cs ih =>
      have hle := c.length_bytes_le
      rw [streamBytes_cons, List.length_append] at hlt
      unfold splitData
      split
      · next h8 =>
          have hlast : c.tlast = false := by
            by_contra hl
            have hnil := hcs.tail_eq_nil (by simpa using hl)
            subst hnil
            rw [streamBytes_nil, List.length_nil] at hlt
            omega
          have hlen := length_bytes_eq hcs.head hlast
          obtain ⟨h1, h2, hb1, hb2⟩ := ih (hcs.tail hlast) (n := n - 8) (by omega) (by omega)
          have htake : c.bytes.take n = c.bytes := List.take_of_length_le (by omega)
          have hdrop : c.bytes.drop n = [] := List.drop_of_length_le (by omega)
          refine ⟨(isPacket_cons_of_not_last hlast).mpr h1, h2, ?_, ?_⟩
          · rw [streamBytes_cons, hb1, streamBytes_cons, List.take_append, hlen, htake]
          · rw [hb2, streamBytes_cons, List.drop_append, hlen, hdrop, List.nil_append]
      · next h8 =>
          have hlen : n ≤ c.bytes.length := by
            cases hlast : c.tlast with
            | true =>
                have hnil := hcs.tail_eq_nil hlast
                subst hnil
                rw [streamBytes_nil, List.length_nil] at hlt
                omega
            | false =>
                rw [length_bytes_eq hcs.head hlast]
                omega
          rw [streamBytes_cons, List.take_append_of_le_length hlen,
            List.drop_append_of_le_length hlen]
          split
          · next heq =>
              -- the cut falls between two chunks
              subst heq
              have hfull : c.bytes.length = 8 := by omega
              have hlast : c.tlast = false := by
                by_contra hl
                have hnil := hcs.tail_eq_nil (by simpa using hl)
                subst hnil
                rw [streamBytes_nil, List.length_nil] at hlt
                omega
              refine ⟨(isPacket_cons_of_last rfl).mpr rfl, (hcs.tail hlast).isStream, ?_, ?_⟩
              · simp [← hfull]
              · simp [← hfull]
          · next hne =>
              have hcur := keptFirst_of_isValid hcs.head
              have h8n : 8 - (8 - n) = n := by omega
              have hfst : (c.setTLast.setTKeepLen n).bytes = c.bytes.take n :=
                bytes_setTKeepLen (c := c) hcs.head hlen
              have hsnd : IsStream (if c.tlast then [residue (8 - n) c]
                    else realign (8 - n) c cs) ∧
                  streamBytes (if c.tlast then [residue (8 - n) c] else realign (8 - n) c cs)
                    = c.bytes.drop n ++ streamBytes cs := by
                cases hlast : c.tlast with
                | true =>
                    have hnil := hcs.tail_eq_nil hlast
                    subst hnil
                    refine ⟨(isPacket_cons_of_last rfl).mpr rfl, ?_⟩
                    rw [if_pos rfl, streamBytes_cons, bytes_residue hcur, h8n]
                | false =>
                    obtain ⟨h1, h2⟩ := @realign_spec (8 - n) _ _ hcur (hcs.tail hlast)
                    rw [h8n] at h2
                    exact ⟨h1, h2⟩
              refine ⟨(isPacket_cons_of_last rfl).mpr rfl, hsnd.1, ?_, hsnd.2⟩
              rw [streamBytes_cons, hfst, streamBytes_nil, List.append_nil]

end CloudFpga.Toe
