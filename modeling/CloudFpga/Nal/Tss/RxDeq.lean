import CloudFpga.Nal.Types

/-!
The FIFOs in front of the ROLE and of the FMC, and the processes that read them, `tss.cpp`:
`pRoleTcpRxDeq` and `pFmcTcpRxDeq`.

* `rxDeq`: one call of either process. Behind the last chunk of a packet it returns the number of
  bytes of the packet.
* `FifoPhase`: where a packet is between the writer of the FIFO and the bytes that are returned;
  otherwise the FIFO is `Empty`.
* `rxDeq_phase`: a call keeps the bytes of a packet, and moves the packet on.
-/

namespace CloudFpga.Nal

open Foundation AxisRaw

inductive DeqFsmStates where
  | waitMeta | streamData | sendNotif
  deriving DecidableEq, Repr

/-- A FIFO with its data and its meta-data, the registers of the process that reads it, the bytes
that were returned, and what the process forwarded. -/
structure RxFifo (μ : Type) where
  dataBuffer : List NetworkWord := []
  metaBuffer : List μ := []
  fsmState : DeqFsmStates := .waitMeta
  currentBytesWritten : PacketLen := 0
  writeCntSig : List PacketLen := []
  soData : List NetworkWord := []
  soMeta : List μ := []
  deriving DecidableEq

/-- What a call is offered: which inputs have arrived, and which outputs are full. -/
structure DeqCall where
  dataHere : Bool
  metaHere : Bool
  soDataFull : Bool
  soMetaFull : Bool
  writeCntSigFull : Bool
  deriving DecidableEq, Repr

section Calls

variable {μ : Type} (disabled : Bool) (f : RxFifo μ) (k : DeqCall)

/-- One call. A reader that is disabled gets nothing, but the FIFO is drained. -/
def rxDeq : RxFifo μ :=
  match f.fsmState with
  | .sendNotif =>
      if ¬k.writeCntSigFull then
        { f with
          writeCntSig := f.writeCntSig ++ [f.currentBytesWritten]
          currentBytesWritten := 0
          fsmState := .waitMeta }
      else f
  | .waitMeta =>
      match f.dataBuffer, f.metaBuffer with
      | curWord :: ds, curMeta :: ms =>
          if k.dataHere ∧ k.metaHere ∧ ((¬k.soDataFull ∧ ¬k.soMetaFull) ∨ disabled) then
            { f with
              dataBuffer := ds
              metaBuffer := ms
              currentBytesWritten := extractByteCnt curWord
              soData := if disabled then f.soData else f.soData ++ [curWord]
              soMeta := if disabled then f.soMeta else f.soMeta ++ [curMeta]
              fsmState := if curWord.tlast then .sendNotif else .streamData }
          else f
      | _, _ => f
  | .streamData =>
      match f.dataBuffer with
      | curWord :: ds =>
          if k.dataHere ∧ (¬k.soDataFull ∨ disabled) then
            { f with
              dataBuffer := ds
              currentBytesWritten := f.currentBytesWritten + extractByteCnt curWord
              soData := if disabled then f.soData else f.soData ++ [curWord]
              fsmState := if curWord.tlast then .sendNotif else .streamData }
          else f
      | [] => f

end Calls

/-- One call of `pRoleTcpRxDeq`. The ROLE is disabled while it is decoupled and layer 7 is off. -/
def pRoleTcpRxDeq (layer7Enabled roleDecoupled : Bool) (f : RxFifo NetworkMeta) (k : DeqCall) :
    RxFifo NetworkMeta :=
  rxDeq (!layer7Enabled && roleDecoupled) f k

/-- One call of `pFmcTcpRxDeq`. -/
def pFmcTcpRxDeq (f : RxFifo TcpSessId) (k : DeqCall) : RxFifo TcpSessId := rxDeq false f k

/-! ### The way of a packet -/

/-- The bytes of a packet that are in the FIFO, counted, or returned. -/
def RxFifo.bytes {μ : Type} (f : RxFifo μ) : ℕ :=
  (streamBytes f.dataBuffer).length + f.currentBytesWritten.toNat
    + (f.writeCntSig.map BitVec.toNat).sum

/-- No packet is on its way. -/
structure RxFifo.Empty {μ : Type} (f : RxFifo μ) : Prop where
  data : f.dataBuffer = []
  metas : f.metaBuffer = []
  fsmState : f.fsmState = .waitMeta
  current : f.currentBytesWritten = 0
  sig : f.writeCntSig = []

/-- Where a packet is, of which the chunks `rest` are still to be written into the FIFO: it is
written, it is read, its length is about to be returned, or it is returned. -/
inductive FifoPhase {μ : Type} (f : RxFifo μ) : List NetworkWord → Prop
  | written {rest : List NetworkWord} {m : μ} (hwf : WellFormed (f.dataBuffer ++ rest))
      (hmeta : f.metaBuffer = [m]) (hst : f.fsmState = .waitMeta)
      (hcur : f.currentBytesWritten = 0) (hsig : f.writeCntSig = []) : FifoPhase f rest
  | read {rest : List NetworkWord} (hwf : WellFormed (f.dataBuffer ++ rest))
      (hmeta : f.metaBuffer = []) (hst : f.fsmState = .streamData) (hsig : f.writeCntSig = []) :
      FifoPhase f rest
  | done (hdata : f.dataBuffer = []) (hmeta : f.metaBuffer = []) (hst : f.fsmState = .sendNotif)
      (hsig : f.writeCntSig = []) : FifoPhase f []
  | returned {n : PacketLen} (hdata : f.dataBuffer = []) (hmeta : f.metaBuffer = [])
      (hst : f.fsmState = .waitMeta) (hcur : f.currentBytesWritten = 0)
      (hsig : f.writeCntSig = [n]) : FifoPhase f []

section Phase

variable {μ : Type} {f : RxFifo μ} {rest : List NetworkWord} {c : NetworkWord} {m : μ}
  {disabled : Bool} {k : DeqCall}

lemma RxFifo.Empty.bytes (h : f.Empty) : f.bytes = 0 := by
  simp [RxFifo.bytes, h.data, h.current, h.sig]

/-- There is nothing to read in an empty FIFO. -/
lemma rxDeq_of_empty (h : f.Empty) : rxDeq disabled f k = f := by
  simp only [rxDeq, h.fsmState, h.data]

/-- The meta-data of a packet are written into an empty FIFO. -/
lemma RxFifo.Empty.start (h : f.Empty) (hrest : WellFormed rest) :
    FifoPhase { f with metaBuffer := f.metaBuffer ++ [m] } rest :=
  .written (by rw [h.data]; exact hrest) (by rw [h.metas]; rfl) h.fsmState h.current h.sig

/-- The length of a packet is taken. -/
lemma FifoPhase.take {n : PacketLen} {ns : List PacketLen} (h : FifoPhase f rest)
    (hsig : f.writeCntSig = n :: ns) :
    rest = [] ∧ n.toNat = f.bytes ∧ RxFifo.Empty { f with writeCntSig := ns } := by
  cases h with
  | written _ _ _ _ hno => cases hno.symm.trans hsig
  | read _ _ _ hno => cases hno.symm.trans hsig
  | done _ _ _ hno => cases hno.symm.trans hsig
  | returned hdata hmeta hst hcur hone =>
      cases hone.symm.trans hsig
      refine ⟨rfl, ?_, hdata, hmeta, hst, hcur, rfl⟩
      simp [RxFifo.bytes, hdata, hcur, hone]

/-- The next chunk of a packet is written. -/
lemma FifoPhase.write (h : FifoPhase f (c :: rest)) :
    FifoPhase { f with dataBuffer := f.dataBuffer ++ [c] } rest := by
  generalize hcs : c :: rest = cs at h
  cases h with
  | done => cases hcs
  | returned => cases hcs
  | written hwf hmeta hst hcur hsig =>
      subst hcs
      exact .written (by simpa using hwf) hmeta hst hcur hsig
  | read hwf hmeta hst hsig =>
      subst hcs
      exact .read (by simpa using hwf) hmeta hst hsig

lemma bytes_write : RxFifo.bytes { f with dataBuffer := f.dataBuffer ++ [c] }
    = f.bytes + c.bytes.length := by
  simp only [RxFifo.bytes, streamBytes_append, streamBytes_cons, streamBytes_nil,
    List.append_nil, List.length_append]
  omega

/-- One call moves a packet on, and keeps its bytes. -/
theorem rxDeq_phase (h : FifoPhase f rest) (hlt : f.bytes < 65536) :
    FifoPhase (rxDeq disabled f k) rest ∧ (rxDeq disabled f k).bytes = f.bytes := by
  cases h with
  | returned hdata hmeta hst hcur hsig =>
      have hstay : rxDeq disabled f k = f := by
        simp only [rxDeq, hst, hdata]
      rw [hstay]
      exact ⟨.returned hdata hmeta hst hcur hsig, rfl⟩
  | done hdata hmeta hst hsig =>
      simp only [rxDeq, hst]
      split
      · refine ⟨.returned hdata hmeta rfl rfl (by rw [hsig]; rfl), ?_⟩
        simp [RxFifo.bytes, hsig]
      · exact ⟨.done hdata hmeta hst hsig, rfl⟩
  | written hwf hmeta hst hcur hsig =>
      simp only [rxDeq, hst, hmeta]
      cases hdata : f.dataBuffer with
      | nil => exact ⟨.written hwf hmeta hst hcur hsig, rfl⟩
      | cons x xs =>
          rw [hdata, List.cons_append] at hwf
          have hx := toNat_extractByteCnt hwf.head
          dsimp only
          split
          · cases hlast : x.tlast with
            | true =>
                have hnil := hwf.tail_eq_nil hlast
                rw [List.append_eq_nil_iff] at hnil
                obtain ⟨rfl, rfl⟩ := hnil
                refine ⟨.done rfl rfl rfl hsig, ?_⟩
                simp [RxFifo.bytes, hdata, hcur, hx]
            | false =>
                refine ⟨.read (hwf.tail hlast) rfl rfl hsig, ?_⟩
                have hz : (0 : PacketLen).toNat = 0 := rfl
                simp only [RxFifo.bytes, hdata, hcur, hx, streamBytes_cons, List.length_append]
                omega
          · exact ⟨.written (by rw [hdata]; exact hwf) hmeta hst hcur hsig, rfl⟩
  | read hwf hmeta hst hsig =>
      simp only [rxDeq, hst]
      cases hdata : f.dataBuffer with
      | nil => exact ⟨.read hwf hmeta hst hsig, rfl⟩
      | cons x xs =>
          rw [hdata, List.cons_append] at hwf
          have hx := toNat_extractByteCnt hwf.head
          rw [RxFifo.bytes, hdata, streamBytes_cons, List.length_append] at hlt
          have hadd : (f.currentBytesWritten + extractByteCnt x).toNat
              = f.currentBytesWritten.toNat + x.bytes.length := by
            rw [BitVec.toNat_add, hx]
            omega
          dsimp only
          split
          · cases hlast : x.tlast with
            | true =>
                have hnil := hwf.tail_eq_nil hlast
                rw [List.append_eq_nil_iff] at hnil
                obtain ⟨rfl, rfl⟩ := hnil
                refine ⟨.done rfl hmeta rfl hsig, ?_⟩
                simp only [RxFifo.bytes, hdata, hadd, streamBytes_cons, streamBytes_nil,
                  List.append_nil, List.length_nil]
                omega
            | false =>
                refine ⟨.read (hwf.tail hlast) hmeta rfl hsig, ?_⟩
                simp only [RxFifo.bytes, hdata, hadd, streamBytes_cons, List.length_append]
                omega
          · exact ⟨.read (by rw [hdata]; exact hwf) hmeta hst hsig, rfl⟩

end Phase

end CloudFpga.Nal
