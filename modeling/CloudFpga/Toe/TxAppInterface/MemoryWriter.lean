import CloudFpga.Toe.MemoryWriter.Commands
import CloudFpga.Toe.Types

/-!
Memory writer of the Tx application interface, `tx_app_interface.cpp`: `pTxMemoryWriter`.

* `pTxMemoryWriter`: one call of the process.
* `pTxMemoryWriter_delivers_iff`: a segment is delivered exactly when the process does not cut a
  chunk while the command stream is full, and does not cut the last chunk of a segment unaligned.
-/

namespace CloudFpga.Toe

open Foundation AxisRaw

/-- The memory write command of a segment of the application. -/
def txMemWrCmd (m : AppMemMeta) : DmCmd :=
  .ofAddrLen (memSegAddr toeTxMemoryBase m.sessId m.addr) m.len

/-- `MWR_IDLE` of the Tx memory writer: the command is built from the address in the buffer. -/
def txMwrIdle (s : MwrState AppMemMeta) (k : MwrCycle) : MwrState AppMemMeta :=
  match s.siCmd with
  | appMemMeta :: ms =>
      if k.cmd ∧ ¬k.memWrCmdFull then
        let memWrCmd := txMemWrCmd appMemMeta
        let s := { s with siCmd := ms, memWrCmd := memWrCmd }
        if memWrCmd.wraps then { s with fsmState := .split1stCmd }
        else
          { s with
            soMemWrCmd := s.soMemWrCmd ++ [memWrCmd]
            firstAccLen := memWrCmd.btt.setWidth 16
            nrBytesToWr := memWrCmd.btt.setWidth 16
            fsmState := .fwdAligned }
      else s
  | [] => s

/-- One call of the process. -/
def pTxMemoryWriter : MwrState AppMemMeta → MwrCycle → MwrState AppMemMeta := mwrStep txMwrIdle false

lemma txMwrIdle_spec (m : AppMemMeta) : MwrIdleSpec txMwrIdle m (txMemWrCmd m) [] where
  wait s k h := by rw [txMwrIdle, h]
  start s k h := by
    simp only [txMwrIdle, h]
    split
    · split
      · next hw => exact .inr (by constructor <;> simp [hw])
      · next hw => exact .inr (by constructor <;> simp [hw])
    · next hk =>
        refine .inl ⟨rfl, ?_⟩
        unfold MwrCycle.ready
        grind

lemma pTxMemoryWriter_issues (s : MwrState AppMemMeta) (k : MwrCycle) :
    MwrIssues txMemWrCmd s (pTxMemoryWriter s k) := by
  refine mwrStep_issues (fun s k hst => ?_) false s k
  rw [txMwrIdle]
  split
  · next m ms hcmd =>
      split
      · refine .start hst hcmd ?_ ?_
        · dsimp only
          split <;> rfl
        · split <;> simp_all
      · exact .refl s
  · exact .refl s

lemma toNat_btt_txMemWrCmd (m : AppMemMeta) : (txMemWrCmd m).btt.toNat = m.len.toNat := by
  have hlen := m.len.isLt
  rw [txMemWrCmd, DmCmd.ofAddrLen, BitVec.toNat_setWidth]
  omega

/-- **Delivery of the Tx write path**: from every idle state, for every address and every stream
of as many bytes as announced, and after every schedule with enough cycles that do not block the
process, the segment is delivered if and only if the process neither read the chunk at the end of
the buffer while the command stream was full, nor cut the last chunk of the segment unaligned. -/
theorem pTxMemoryWriter_delivers_iff {m : AppMemMeta} {s : MwrState AppMemMeta}
    {ks : List MwrCycle} (hs : MwrReady m s) (hwf : WellFormed s.siData)
    (hlen : m.len.toNat = (streamBytes s.siData).length)
    (hready : s.siData.length + 3 ≤ ks.countP MwrCycle.ready) :
    MwrDelivered (txMemWrCmd m).saddr s.siData (Clocked.run pTxMemoryWriter s ks) ↔
      Clocked.Along pTxMemoryWriter (fun s k => ¬MwrSlip false s k) s ks := by
  have hbtt := toNat_btt_txMemWrCmd m
  have hlt : (txMemWrCmd m).btt.toNat < toeBufferSize := by
    rw [hbtt]
    exact m.len.isLt
  exact mwr_delivers_iff (txMwrIdle_spec m) hs ⟨hwf, hlt, hbtt.trans hlen⟩ hready

/-- A segment from a few bytes before the end of the first buffer on. -/
def txCrossing (addr : TcpBufAdr) (len : TcpDatLen) : AppMemMeta := ⟨0, addr, len⟩
def txCrossingState (addr : TcpBufAdr) (len : TcpDatLen) (cs : List AxisApp) :
    MwrState AppMemMeta where
  memWrCmd := txMemWrCmd (txCrossing addr len)
  currChunk := zero
  siCmd := [txCrossing addr len]
  siData := cs

/-- Sixteen and four bytes. -/
def txLongData : List AxisApp :=
  [⟨List.replicate 8 ⟨1, true⟩, false, by decide⟩, ⟨List.replicate 8 ⟨2, true⟩, true, by decide⟩]
def txShortData : List AxisApp :=
  [⟨List.replicate 4 ⟨1, true⟩ ++ List.replicate 4 ⟨0, false⟩, true, by decide⟩]

theorem pTxMemoryWriter_delivers_crossing :
    MwrDelivered (txMemWrCmd (txCrossing 0xFFFC 16)).saddr txLongData
      (Clocked.run pTxMemoryWriter (txCrossingState 0xFFFC 16 txLongData)
        (List.replicate 5 .free)) :=
  (pTxMemoryWriter_delivers_iff (m := txCrossing 0xFFFC 16)
    (s := txCrossingState 0xFFFC 16 txLongData) ⟨rfl, rfl, rfl, rfl, rfl⟩ ⟨by decide, by decide⟩
    (by decide) (by decide)).mpr (by decide)

/-- The command stream is full in the one cycle in which the first chunk is to be cut: all eight
bytes of the chunk go out under the command for the four bytes up to the end of the buffer. And
without any back-pressure, a single chunk that is cut after its second byte leaves the process
waiting for a chunk that does not exist. -/
theorem pTxMemoryWriter_fails_crossing :
    ¬MwrDelivered (txMemWrCmd (txCrossing 0xFFFC 16)).saddr txLongData
      (Clocked.run pTxMemoryWriter (txCrossingState 0xFFFC 16 txLongData)
        ([.free, .free, { MwrCycle.free with memWrCmdFull := true }] ++
          List.replicate 5 .free)) ∧
    ¬MwrDelivered (txMemWrCmd (txCrossing 0xFFFE 4)).saddr txShortData
      (Clocked.run pTxMemoryWriter (txCrossingState 0xFFFE 4 txShortData)
        (List.replicate 8 .free)) := by
  constructor
  · rintro ⟨-, -, -, hdel⟩
    exact @not_delivers_of_overlong _ _ (txMemWrCmd (txCrossing 0xFFFC 16)).first _
      (txLongData.take 1) _ (by decide) (by decide) hdel
  · intro h
    exact absurd h.fsmState (by decide)

end CloudFpga.Toe
