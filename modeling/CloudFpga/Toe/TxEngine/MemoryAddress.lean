import CloudFpga.Toe.TxAppInterface.MemoryWriter
import CloudFpga.Toe.TxEngine.MetaDataLoader

/-!
The Tx buffer of a session in memory: where the bytes of the application are written, and where
the Tx engine reads them.

* `mrdCmds`: the commands of `pTxMemoryReader` for a read command.
* `WritesAt`, `ReadsAt`: the memory address of the byte with a given sequence number, for the
  memory writer and for the segments of the meta-data loader.
* `writesAt_iff`, `ReadsAt.eq_of_tx`: a first transmission reads the byte where it was written.
* `ReadsAt.not_written_of_rt`: a retransmission reads an address that is never written.
-/

namespace CloudFpga.Toe

/-! ### The memory reader -/

/-- The commands of `pTxMemoryReader` for a read command of the meta-data loader. -/
def mrdCmds (c : DmCmd) : List DmCmd :=
  if c.wraps then
    [.ofAddrLen c.saddr c.firstAccLen,
      .ofAddrLen (setRange c.saddr 15 0 (0 : BitVec 16)) (c.btt - c.firstAccLen.setWidth 23)]
  else [c]

/-- The memory reader goes around the circular buffer. -/
theorem dmAddrs_mrdCmds {c : DmCmd} (hbtt : c.btt.toNat < toeBufferSize) :
    (mrdCmds c).flatMap dmAddrs = (List.range c.btt.toNat).map (circularAddr c.saddr) := by
  unfold mrdCmds
  split
  · next hw =>
      rw [List.flatMap_cons, List.flatMap_cons, List.flatMap_nil, List.append_nil]
      exact dmAddrs_of_wraps hw hbtt (by simp [DmCmd.ofAddrLen, DmCmd.second])
        (by simp [DmCmd.ofAddrLen, DmCmd.second])
  · next hw => simpa using dmAddrs_of_not_wraps hw

/-- The memory writer goes around the circular buffer. -/
theorem dmAddrs_mwrCmds {c : DmCmd} (hbtt : c.btt.toNat < toeBufferSize) :
    (mwrCmds c).flatMap dmAddrs = (List.range c.btt.toNat).map (circularAddr c.saddr) := by
  unfold mwrCmds
  split
  · next hw => simpa using dmAddrs_of_wraps hw hbtt rfl rfl
  · next hw => simpa using dmAddrs_of_not_wraps hw

/-! ### The addresses of a byte -/

/-- The memory writer writes the byte that will get the sequence number `n` to the address `a`:
the byte `i` of a segment of the application. Buffer pointers are the low halves of sequence
numbers. -/
def WritesAt (id : SessionId) (n : TcpSeqNum) (a : BitVec 40) : Prop :=
  ∃ (m : AppMemMeta) (i : ℕ), m.sessId = id ∧ m.addr + BitVec.ofNat 16 i = n.setWidth 16 ∧
    ((mwrCmds (txMemWrCmd m)).flatMap dmAddrs)[i]? = some a

/-- In some call that processes an event of the given type, the meta-data loader sends a segment
whose byte `i` has the sequence number `n` and is read from the address `a`. -/
def ReadsAt (type : EventType) (id : SessionId) (n : TcpSeqNum) (a : BitVec 40) : Prop :=
  ∃ (s : MdlState) (txeMeta : TXeMeta) (c : DmCmd) (i : ℕ),
    s.fsmState = .processEvent ∧ s.curEvent.event.type = type ∧ s.sessionID = id ∧
    (pMetaDataLoader s).2.txeMeta = [txeMeta] ∧ (pMetaDataLoader s).2.bufferRdCmd = [c] ∧
    txeMeta.seqNumb + BitVec.ofNat 32 i = n ∧ ((mrdCmds c).flatMap dmAddrs)[i]? = some a

/-- The byte with the sequence number `n` has one address: where it is written, where its first
transmission reads it, and where its retransmissions read it. -/
def TxAddressesAgree (id : SessionId) (n : TcpSeqNum) : Prop :=
  ∀ a b c, WritesAt id n a → ReadsAt .tx id n b → ReadsAt .rt id n c → b = a ∧ c = a

/-! ### Writing -/

section Address

variable {id : SessionId} {n : TcpSeqNum} {a : BitVec 40}

lemma toNat_btt_ofAddrLen {w : ℕ} (addr : BitVec w) (len : BitVec 16) :
    (DmCmd.ofAddrLen addr len).btt.toNat = len.toNat := by
  have hlen := len.isLt
  rw [DmCmd.ofAddrLen, BitVec.toNat_setWidth]
  omega

/-- An access to the buffer of a session that goes around the circular buffer. -/
lemma circular_getElem {base : ℕ} {addr len : BitVec 16} {as : List (BitVec 40)} {i : ℕ}
    (has : as = (List.range (DmCmd.ofAddrLen (memSegAddr base id addr) len).btt.toNat).map
      (circularAddr (DmCmd.ofAddrLen (memSegAddr base id addr) len).saddr)) :
    as[i]? = some a ↔ i < len.toNat ∧
      a = (memSegAddr base id (addr + BitVec.ofNat 16 i)).setWidth 40 := by
  rw [has, toNat_btt_ofAddrLen, List.getElem?_map, DmCmd.ofAddrLen]
  by_cases hi : i < len.toNat
  · rw [List.getElem?_range hi, Option.map_some, circularAddr_memSegAddr, Option.some.injEq]
    simp [hi, eq_comm]
  · rw [List.getElem?_eq_none (by simpa using hi)]
    simp [hi]

/-- The offset of the byte with the sequence number `n` advances with the byte. -/
lemma setWidth_add_ofNat {q : TcpSeqNum} {i : ℕ} (h : q + BitVec.ofNat 32 i = n) :
    q.setWidth 16 + BitVec.ofNat 16 i = n.setWidth 16 := by
  rw [← h, BitVec.setWidth_add q _ (by omega)]
  simp

/-- The address that the memory writer uses, in the upper 1GB. -/
theorem writesAt_iff : WritesAt id n a ↔
    a = (memSegAddr toeTxMemoryBase id (n.setWidth 16)).setWidth 40 := by
  have hiff (m : AppMemMeta) (i : ℕ) := circular_getElem (a := a) (i := i)
    (dmAddrs_mwrCmds (c := txMemWrCmd m) (by rw [toNat_btt_txMemWrCmd]; exact m.len.isLt))
  constructor
  · rintro ⟨m, i, rfl, hn, ha⟩
    rw [← hn]
    exact ((hiff m i).mp ha).2
  · rintro rfl
    exact ⟨⟨id, n.setWidth 16, 1⟩, 0, rfl, by simp, (hiff _ 0).mpr ⟨Nat.one_pos, by simp⟩⟩

/-! ### Reading -/

/-- The address of a retransmission is the one of a buffer in the second 1GB. -/
lemma rtMemSegAddr_eq (id : SessionId) (ackd : TxAckNum) :
    rtMemSegAddr id ackd = memSegAddr 0x40000000 id (ackd.setWidth 16) := by
  have h : setRange (0 : BitVec 32) 31 30 (0x01 : BitVec 2) = BitVec.ofNat 32 0x40000000 := by
    decide
  rw [rtMemSegAddr, memSegAddr, h]

/-- A first transmission reads the byte where it was written. -/
theorem ReadsAt.eq_of_tx (h : ReadsAt .tx id n a) :
    a = (memSegAddr toeTxMemoryBase id (n.setWidth 16)).setWidth 40 := by
  obtain ⟨s, m, c, i, hst, htype, rfl, hmeta, hcmd, hn, ha⟩ := h
  have hstep : pMetaDataLoader s = mdlTx s := by
    simp only [pMetaDataLoader, hst, mdlProcessEvent, htype]
  rw [hstep] at hmeta hcmd
  obtain rfl := mdlTx_spec hmeta hcmd
  rw [← setWidth_add_ofNat hn]
  refine ((circular_getElem (dmAddrs_mrdCmds ?_)).mp ha).2
  rw [toNat_btt_ofAddrLen]
  exact m.length.isLt

/-- A retransmission reads the byte in the second 1GB. -/
theorem ReadsAt.eq_of_rt (h : ReadsAt .rt id n a) :
    a = (memSegAddr 0x40000000 id (n.setWidth 16)).setWidth 40 := by
  obtain ⟨s, m, c, i, hst, htype, rfl, hmeta, hcmd, hn, ha⟩ := h
  have hstep : pMetaDataLoader s = mdlRt s := by
    simp only [pMetaDataLoader, hst, mdlProcessEvent, htype]
  rw [hstep] at hmeta hcmd
  obtain rfl := mdlRt_spec hmeta hcmd
  rw [rtMemSegAddr_eq] at ha
  rw [← setWidth_add_ofNat hn]
  refine ((circular_getElem (dmAddrs_mrdCmds ?_)).mp ha).2
  rw [toNat_btt_ofAddrLen]
  exact m.length.isLt

/-- The address that a retransmission reads is not written for any byte of any session. -/
theorem ReadsAt.not_written_of_rt (h : ReadsAt .rt id n a) (id' : SessionId) (n' : TcpSeqNum) :
    ¬WritesAt id' n' a := by
  rw [writesAt_iff, h.eq_of_rt]
  intro heq
  have hid := id.isLt
  have hn := (n.setWidth 16).isLt
  have hnat := congrArg BitVec.toNat heq
  rw [BitVec.toNat_setWidth, BitVec.toNat_setWidth, toNat_memSegAddr, toNat_memSegAddr] at hnat
  unfold toeTxMemoryBase toeRxMemorySize toeMemorySize at hnat
  omega

/-! ### One byte in flight -/

/-- A session with one byte that is written and not sent. -/
def txOneByte (id : SessionId) (n : TcpSeqNum) : MdlState where
  fsmState := .processEvent
  sarLoaded := true
  curEvent := ⟨{ type := .tx, sessionID := id }, ⟨⟨0, 0⟩, ⟨0, 0⟩⟩⟩
  txSar := { ackd := n, notAckd := n, minWindow := 1, app := n.setWidth 16 + 1 }

/-- A session with one byte that is sent and not acknowledged. -/
def rtOneByte (id : SessionId) (n : TcpSeqNum) : MdlState where
  fsmState := .processEvent
  sarLoaded := true
  curEvent := ⟨{ type := .rt, sessionID := id }, ⟨⟨0, 0⟩, ⟨0, 0⟩⟩⟩
  txSar := { ackd := n, notAckd := n + 1 }

lemma txCase_txOneByte (id : SessionId) (n : TcpSeqNum) :
    txCase (txOneByte id n).txSar = .last 1 := by
  have hpending : n.setWidth 16 + 1#16 - n.setWidth 16 = 1#16 := by
    rw [BitVec.add_comm, BitVec.add_sub_cancel]
  simp [txCase, usableWindow, txOneByte, hpending, tcpHeaderLen, zyc2Mss]

lemma rtDatLen_rtOneByte (id : SessionId) (n : TcpSeqNum) :
    rtDatLen (rtOneByte id n).txSar = 1 := by
  have hflight : n.setWidth 16 + 1#16 - n.setWidth 16 = 1#16 := by
    rw [BitVec.add_comm, BitVec.add_sub_cancel]
  simp [rtDatLen, rtOneByte, BitVec.setWidth_add n 1#32 (by omega : 16 ≤ 32), hflight]

/-- Every byte can be sent. -/
theorem readsAt_tx (id : SessionId) (n : TcpSeqNum) :
    ReadsAt .tx id n ((memSegAddr toeTxMemoryBase id (n.setWidth 16)).setWidth 40) := by
  have hstep : pMetaDataLoader (txOneByte id n) = mdlTxSegment (txOneByte id n) := rfl
  refine ⟨txOneByte id n, mdlMeta {} n 1, .ofAddrLen (txMemSegAddr id n) (1 : BitVec 16), 0, rfl,
    rfl, rfl, ?_, ?_, by simp [mdlMeta], ?_⟩
  · rw [hstep, mdlTxSegment_send.1, mdlTxSend, txCase_txOneByte]
    rfl
  · rw [hstep, mdlTxSegment_send.2, mdlTxSend, txCase_txOneByte]
    rfl
  · refine (circular_getElem (dmAddrs_mrdCmds ?_)).mpr ⟨Nat.one_pos, by simp⟩
    rw [toNat_btt_ofAddrLen]
    decide

/-- Every byte can be sent again. -/
theorem readsAt_rt (id : SessionId) (n : TcpSeqNum) :
    ReadsAt .rt id n ((memSegAddr 0x40000000 id (n.setWidth 16)).setWidth 40) := by
  have hfull : rtIsFull (rtOneByte id n).txSar = false := by
    rw [rtIsFull, rtDatLen_rtOneByte]
    rfl
  have hstep : pMetaDataLoader (rtOneByte id n) = mdlRtSegment (rtOneByte id n) true := rfl
  have hsend : mdlRtSend (rtOneByte id n) = mdlSend id (rtMemSegAddr id n) (mdlMeta {} n 1) := by
    rw [mdlRtSend, hfull, rtDatLen_rtOneByte]
    rfl
  refine ⟨rtOneByte id n, mdlMeta {} n 1, .ofAddrLen (rtMemSegAddr id n) (1 : BitVec 16), 0, rfl,
    rfl, rfl, ?_, ?_, by simp [mdlMeta], ?_⟩
  · rw [hstep, mdlRtSegment, hsend]
    rfl
  · rw [hstep, mdlRtSegment, hsend]
    rfl
  · rw [rtMemSegAddr_eq]
    refine (circular_getElem (dmAddrs_mrdCmds ?_)).mpr ⟨Nat.one_pos, by simp⟩
    rw [toNat_btt_ofAddrLen]
    decide

/-- **The addresses of a byte never agree**: whatever the session and the sequence number, a
retransmission does not read the byte where it was written. -/
theorem not_txAddressesAgree (id : SessionId) (n : TcpSeqNum) : ¬TxAddressesAgree id n := by
  intro h
  have hw := (@writesAt_iff id n _).mpr rfl
  obtain ⟨-, hrt⟩ := h _ _ _ hw (readsAt_tx id n) (readsAt_rt id n)
  refine (readsAt_rt id n).not_written_of_rt id n ?_
  rw [hrt]
  exact hw

/-- The byte 0 of the session 0 is retransmitted from `0x40000000`, and was written to
`0xC0000000`. -/
theorem retransmission_address_differs : WritesAt 0 0 0xC0000000 ∧ ReadsAt .tx 0 0 0xC0000000 ∧
    ReadsAt .rt 0 0 0x40000000 ∧ ¬TxAddressesAgree 0 0 := by
  have htx : (memSegAddr toeTxMemoryBase 0 ((0 : TcpSeqNum).setWidth 16)).setWidth 40
      = (0xC0000000 : BitVec 40) := by decide
  have hrt : (memSegAddr 0x40000000 0 ((0 : TcpSeqNum).setWidth 16)).setWidth 40
      = (0x40000000 : BitVec 40) := by decide
  have hw : WritesAt 0 0 0xC0000000 := writesAt_iff.mpr htx.symm
  have ht := readsAt_tx 0 0
  have hr := readsAt_rt 0 0
  rw [htx] at ht
  rw [hrt] at hr
  exact ⟨hw, ht, hr, fun h => absurd (h _ _ _ hw ht hr).2 (by decide)⟩

end Address

end CloudFpga.Toe
