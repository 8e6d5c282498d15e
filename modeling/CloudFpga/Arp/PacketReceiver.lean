import CloudFpga.Foundation.Transducer
import CloudFpga.Toe.AxisFields

/-!
The receiver of the ARP server, `pArpPacketReceiver` of `arp.cpp`.

* `pArpPacketReceiver`: one call of the process that reads a chunk.
* `frameMeta`, `frameOper`, `frameTpa`, `frameBind`: the fields of a frame in its bytes.
* `receiver_frame`: a frame of at least 42 bytes and at most 256 chunks is treated alone, whatever
  the registers hold from the frame before.
-/

namespace CloudFpga

/-! ### Ethernet addresses -/

abbrev EthAddr := BitVec 48

/-- The big-endian word of six bytes. -/
def be48 (bs : List Byte) (i : ℕ) : EthAddr := be16 bs i ++ be32 bs (i + 2)

/-- The bytes of an address, the high one first. -/
def bytes48 (a : EthAddr) : List Byte :=
  bytes16 (a.extractLsb' 32 16) ++ bytes32 (a.extractLsb' 0 32)

namespace Arp

open Foundation

/-- `x(47, 32) = hi`. -/
def setHi48 (x : EthAddr) (hi : BitVec 16) : EthAddr := hi ++ x.extractLsb' 0 32

/-- `x(31, 0) = lo`. -/
def setLo48 (x : EthAddr) (lo : BitVec 32) : EthAddr := x.extractLsb' 32 16 ++ lo

/-- `x(31, 16) = hi`. -/
def setHi32 (x : Ip4Addr) (hi : BitVec 16) : Ip4Addr := hi ++ x.extractLsb' 0 16

/-- `x(15, 0) = lo`. -/
def setLo32 (x : Ip4Addr) (lo : BitVec 16) : Ip4Addr := x.extractLsb' 16 16 ++ lo

lemma setLo48_setHi48 (x : EthAddr) (hi : BitVec 16) (lo : BitVec 32) :
    setLo48 (setHi48 x hi) lo = hi ++ lo := by
  rw [setLo48, setHi48]
  ext i h
  simp only [BitVec.getElem_append, BitVec.getElem_extractLsb', BitVec.getLsbD_append]
  grind

lemma setLo32_setHi32 (x : Ip4Addr) (hi lo : BitVec 16) :
    setLo32 (setHi32 x hi) lo = hi ++ lo := by
  rw [setLo32, setHi32]
  ext i h
  simp only [BitVec.getElem_append, BitVec.getElem_extractLsb', BitVec.getLsbD_append]
  grind

lemma be32_eq_be16 (bs : List Byte) (i : ℕ) : be32 bs i = be16 bs i ++ be16 bs (i + 2) := by
  rw [be32, be16, be16, BitVec.append_assoc]
  rfl

/-! ### The process -/

abbrev AxisEth := AxisRaw

/-- `swapWord(tdata.range(63, 48))`. -/
def getEthSrcAddrHi (c : AxisEth) : BitVec 16 := be16 c.data 6

/-- `swapDWord(tdata.range(31, 0))`. -/
def getEthSrcAddrLo (c : AxisEth) : BitVec 32 := be32 c.data 0

/-- `swapWord(tdata.range(47, 32))`. -/
def getEtherType (c : AxisEth) : BitVec 16 := be16 c.data 4

/-- `swapWord(tdata.range(63, 48))`. -/
def getArpHwType (c : AxisEth) : BitVec 16 := be16 c.data 6

/-- `swapWord(tdata.range(15, 0))`. -/
def getArpProtType (c : AxisEth) : BitVec 16 := be16 c.data 0

/-- `tdata.range(23, 16)`. -/
def getArpHwLen (c : AxisEth) : Byte := byteAt c.data 2

/-- `tdata.range(31, 24)`. -/
def getArpProtLen (c : AxisEth) : Byte := byteAt c.data 3

/-- `swapWord(tdata.range(47, 32))`. -/
def getArpOper (c : AxisEth) : BitVec 16 := be16 c.data 4

/-- `swapWord(tdata.range(63, 48))`. -/
def getArpShaHi (c : AxisEth) : BitVec 16 := be16 c.data 6

/-- `swapDWord(tdata.range(31, 0))`. -/
def getArpShaLo (c : AxisEth) : BitVec 32 := be32 c.data 0

/-- `swapDWord(tdata.range(63, 32))`. -/
def getArpSpa (c : AxisEth) : Ip4Addr := be32 c.data 4

/-- `swapWord(tdata.range(63, 48))`. -/
def getArpTpaHi (c : AxisEth) : BitVec 16 := be16 c.data 6

/-- `swapWord(tdata.range(15, 0))`. -/
def getArpTpaLo (c : AxisEth) : BitVec 16 := be16 c.data 0

/-- `ARP_OPER_REQUEST`. -/
def arpOperRequest : BitVec 16 := 1

structure ArpMeta where
  remoteMacAddr : EthAddr := 0
  etherType : BitVec 16 := 0
  arpHwType : BitVec 16 := 0
  arpProtType : BitVec 16 := 0
  arpHwLen : Byte := 0
  arpProtLen : Byte := 0
  arpSendHwAddr : EthAddr := 0
  arpSendProtAddr : Ip4Addr := 0
  deriving DecidableEq

structure ArpBindPair where
  macAddr : EthAddr
  ip4Addr : Ip4Addr
  deriving DecidableEq

/-- The registers without reset: they keep the fields of the last frame. -/
structure AprRegs where
  aprMeta : ArpMeta := {}
  opCode : BitVec 16 := 0
  targProtAddr : Ip4Addr := 0
  deriving DecidableEq

structure AprState where
  chunkCount : BitVec 8 := 0
  regs : AprRegs := {}
  deriving DecidableEq

/-- The fields of the chunk with the given number. -/
def aprExtract (r : AprRegs) (chunkCount : ℕ) (currChunk : AxisEth) : AprRegs :=
  match chunkCount with
  | 0 =>
      { r with aprMeta := { r.aprMeta with
          remoteMacAddr := setHi48 r.aprMeta.remoteMacAddr (getEthSrcAddrHi currChunk) } }
  | 1 =>
      { r with aprMeta := { r.aprMeta with
          remoteMacAddr := setLo48 r.aprMeta.remoteMacAddr (getEthSrcAddrLo currChunk)
          etherType := getEtherType currChunk
          arpHwType := getArpHwType currChunk } }
  | 2 =>
      { r with
        opCode := getArpOper currChunk
        aprMeta := { r.aprMeta with
          arpProtType := getArpProtType currChunk
          arpHwLen := getArpHwLen currChunk
          arpProtLen := getArpProtLen currChunk
          arpSendHwAddr := setHi48 r.aprMeta.arpSendHwAddr (getArpShaHi currChunk) } }
  | 3 =>
      { r with aprMeta := { r.aprMeta with
          arpSendHwAddr := setLo48 r.aprMeta.arpSendHwAddr (getArpShaLo currChunk)
          arpSendProtAddr := getArpSpa currChunk } }
  | 4 => { r with targProtAddr := setHi32 r.targProtAddr (getArpTpaHi currChunk) }
  | 5 => { r with targProtAddr := setLo32 r.targProtAddr (getArpTpaLo currChunk) }
  | _ => r

/-- What a call writes: a request to reply, and a binding. -/
structure AprOut where
  soAPsMeta : List ArpMeta := []
  soACcUpdateReq : List ArpBindPair := []
  deriving DecidableEq

/-- One call of the process that reads a chunk. -/
def pArpPacketReceiver (ipAddress : Ip4Addr) (s : AprState) (currChunk : AxisEth) :
    AprState × AprOut :=
  let r := aprExtract s.regs s.chunkCount.toNat currChunk
  if currChunk.tlast then
    ({ chunkCount := 0, regs := r },
      { soAPsMeta :=
          if r.opCode = arpOperRequest then
            if r.targProtAddr = ipAddress then [r.aprMeta] else []
          else []
        soACcUpdateReq := [⟨r.aprMeta.arpSendHwAddr, r.aprMeta.arpSendProtAddr⟩] })
  else ({ chunkCount := s.chunkCount + 1, regs := r }, {})

def aprNext (ipAddress : Ip4Addr) (s : AprState) (c : AxisEth) : AprState :=
  (pArpPacketReceiver ipAddress s c).1

/-- The requests to reply that a stream of chunks leads to. -/
def aprMetas (ipAddress : Ip4Addr) : AprState → List AxisEth → List ArpMeta :=
  emits (aprNext ipAddress) fun s c => (pArpPacketReceiver ipAddress s c).2.soAPsMeta

/-- The bindings that a stream of chunks leads to. -/
def aprBinds (ipAddress : Ip4Addr) : AprState → List AxisEth → List ArpBindPair :=
  emits (aprNext ipAddress) fun s c => (pArpPacketReceiver ipAddress s c).2.soACcUpdateReq

/-! ### Frames -/

section Fields

variable (b : List Byte)

/-- What a reply needs of a frame. -/
def frameMeta : ArpMeta where
  remoteMacAddr := be48 b 6
  etherType := be16 b 12
  arpHwType := be16 b 14
  arpProtType := be16 b 16
  arpHwLen := byteAt b 18
  arpProtLen := byteAt b 19
  arpSendHwAddr := be48 b 22
  arpSendProtAddr := be32 b 28

def frameOper : BitVec 16 := be16 b 20

def frameTpa : Ip4Addr := be32 b 38

/-- The binding of the sender of a frame. -/
def frameBind : ArpBindPair := ⟨be48 b 22, be32 b 28⟩

/-- An ARP packet in an Ethernet frame has 14 + 28 bytes. -/
def Complete : Prop := 42 ≤ b.length

/-- A complete request for the address. -/
def IsRequestFor (ipAddress : Ip4Addr) : Prop :=
  Complete b ∧ frameOper b = arpOperRequest ∧ frameTpa b = ipAddress

instance : Decidable (Complete b) := inferInstanceAs (Decidable (_ ≤ _))

instance (ipAddress : Ip4Addr) : Decidable (IsRequestFor b ipAddress) :=
  inferInstanceAs (Decidable (_ ∧ _))

end Fields

/-! ### A frame is treated alone -/

section Frame

variable {ipAddress : Ip4Addr}

/-- What the last chunk of a frame leads to. -/
def aprResult (ipAddress : Ip4Addr) (r : AprRegs) : AprOut where
  soAPsMeta :=
    if r.opCode = arpOperRequest then if r.targProtAddr = ipAddress then [r.aprMeta] else []
    else []
  soACcUpdateReq := [⟨r.aprMeta.arpSendHwAddr, r.aprMeta.arpSendProtAddr⟩]

/-- The chunks lead to these requests and bindings, and the next frame starts afresh. -/
structure Leads (ipAddress : Ip4Addr) (s : AprState) (cs : List AxisEth) (o : AprOut) : Prop where
  chunkCount : (Clocked.run (aprNext ipAddress) s cs).chunkCount = 0
  metas : aprMetas ipAddress s cs = o.soAPsMeta
  binds : aprBinds ipAddress s cs = o.soACcUpdateReq

/-- A chunk that is not the last one. -/
lemma Leads.cons {r : AprRegs} {k : ℕ} {c : AxisEth} {cs : List AxisEth} {o : AprOut}
    (hk : k < 255) (hc : c.tlast = false)
    (h : Leads ipAddress ⟨BitVec.ofNat 8 (k + 1), aprExtract r k c⟩ cs o) :
    Leads ipAddress ⟨BitVec.ofNat 8 k, r⟩ (c :: cs) o := by
  have hcount : (BitVec.ofNat 8 k).toNat = k := by
    rw [BitVec.toNat_ofNat]
    omega
  have hsucc : BitVec.ofNat 8 k + 1 = BitVec.ofNat 8 (k + 1) := (BitVec.ofNat_add ..).symm
  have hcall : pArpPacketReceiver ipAddress ⟨BitVec.ofNat 8 k, r⟩ c =
      (⟨BitVec.ofNat 8 (k + 1), aprExtract r k c⟩, {}) := by
    rw [pArpPacketReceiver, if_neg (by simp [hc]), hcount, hsucc]
  have hnext : aprNext ipAddress ⟨BitVec.ofNat 8 k, r⟩ c =
      ⟨BitVec.ofNat 8 (k + 1), aprExtract r k c⟩ := congrArg Prod.fst hcall
  refine ⟨?_, ?_, ?_⟩
  · rw [Clocked.run_cons, hnext]
    exact h.chunkCount
  · rw [aprMetas, emits_cons, hcall, List.nil_append, hnext]
    exact h.metas
  · rw [aprBinds, emits_cons, hcall, List.nil_append, hnext]
    exact h.binds

/-- The last chunk. -/
lemma Leads.last {r : AprRegs} {k : ℕ} {c : AxisEth} (hk : k < 256) (hc : c.tlast = true) :
    Leads ipAddress ⟨BitVec.ofNat 8 k, r⟩ [c] (aprResult ipAddress (aprExtract r k c)) := by
  have hcount : (BitVec.ofNat 8 k).toNat = k := by
    rw [BitVec.toNat_ofNat]
    omega
  have hcall : pArpPacketReceiver ipAddress ⟨BitVec.ofNat 8 k, r⟩ c =
      (⟨0, aprExtract r k c⟩, aprResult ipAddress (aprExtract r k c)) := by
    rw [pArpPacketReceiver, if_pos hc, hcount]
    rfl
  refine ⟨congrArg (fun r => r.1.chunkCount) hcall, ?_, ?_⟩
  · rw [aprMetas, emits_cons, emits_nil, hcall, List.append_nil]
  · rw [aprBinds, emits_cons, emits_nil, hcall, List.append_nil]

/-- Behind the first six chunks nothing is extracted, as long as the counter does not start
again. -/
lemma Leads.rest {r : AprRegs} {k : ℕ} {cs : List AxisEth} (hcs : IsStream cs) (hk : 6 ≤ k)
    (hlen : k + cs.length ≤ 256) :
    Leads ipAddress ⟨BitVec.ofNat 8 k, r⟩ cs (aprResult ipAddress r) := by
  induction cs generalizing k with
  | nil => exact absurd hcs id
  | cons c cs ih =>
      have hkeep : aprExtract r k c = r := by
        obtain ⟨j, rfl⟩ := Nat.exists_eq_add_of_le' hk
        rfl
      rw [List.length_cons] at hlen
      cases hlast : c.tlast with
      | true =>
          have h := @Leads.last ipAddress r k c (by omega) hlast
          rw [(isPacket_cons_of_last hlast).mp hcs]
          rwa [hkeep] at h
      | false =>
          have hrest := (isPacket_cons_of_not_last hlast).mp hcs
          have hpos := List.length_pos_of_ne_nil hrest.ne_nil
          refine Leads.cons (by omega) hlast ?_
          rw [hkeep]
          exact ih hrest (by omega) (by omega)

/-- The fields of a frame lie in its first six chunks. -/
lemma extract_fields (r : AprRegs) {c₀ c₁ c₂ c₃ c₄ c₅ : AxisEth} {t : List Byte}
    (ht : be16 c₅.data 0 = be16 t 0) :
    let b := c₀.data ++ (c₁.data ++ (c₂.data ++ (c₃.data ++ (c₄.data ++ t))))
    aprExtract (aprExtract (aprExtract (aprExtract (aprExtract (aprExtract r 0 c₀) 1 c₁) 2 c₂) 3 c₃)
        4 c₄) 5 c₅ =
      { aprMeta := frameMeta b, opCode := frameOper b, targProtAddr := frameTpa b } := by
  have h₀ := c₀.length_data
  have h₁ := c₁.length_data
  have h₂ := c₂.length_data
  have h₃ := c₃.length_data
  have h₄ := c₄.length_data
  simp only [aprExtract, setLo48_setHi48, setLo32_setHi32, getEthSrcAddrHi, getEthSrcAddrLo,
    getEtherType, getArpHwType, getArpProtType, getArpHwLen, getArpProtLen, getArpOper,
    getArpShaHi, getArpShaLo, getArpSpa, getArpTpaHi, getArpTpaLo, ht]
  simp only [frameMeta, frameOper, frameTpa, be48, be32_eq_be16 _ 38]
  generalize c₀.data = d₀, c₁.data = d₁, c₂.data = d₂, c₃.data = d₃, c₄.data = d₄ at *
  simp (disch := omega) only [be32, be16, byteAt_append, byteAt_append_right, h₀, h₁, h₂, h₃, h₄]

/-- **A complete frame** that is not too long is treated alone, whatever the registers hold: it
leads to a request to reply if and only if it is a request for the address, and to its binding. -/
theorem receiver_frame {cs : List AxisEth} (hcs : WellFormed cs) (hmin : Complete (streamBytes cs))
    (hmax : cs.length ≤ 256) {s : AprState} (hs : s.chunkCount = 0) :
    Leads ipAddress s cs
      { soAPsMeta :=
          if IsRequestFor (streamBytes cs) ipAddress then [frameMeta (streamBytes cs)] else []
        soACcUpdateReq := [frameBind (streamBytes cs)] } := by
  obtain ⟨n, r⟩ := s
  subst hs
  rw [Complete] at hmin
  have hresult : ∀ b : List Byte, 42 ≤ b.length →
      aprResult ipAddress ⟨frameMeta b, frameOper b, frameTpa b⟩ =
        { soAPsMeta := if IsRequestFor b ipAddress then [frameMeta b] else []
          soACcUpdateReq := [frameBind b] } := by
    intro b hb
    rw [aprResult]
    by_cases hop : frameOper b = arpOperRequest
    · by_cases htpa : frameTpa b = ipAddress
      · rw [if_pos hop, if_pos htpa, if_pos ⟨hb, hop, htpa⟩]
        rfl
      · rw [if_pos hop, if_neg htpa, if_neg fun h => htpa h.2.2]
        rfl
    · rw [if_neg hop, if_neg fun h => hop h.2.1]
      rfl
  rw [← hresult _ hmin]
  -- five full chunks come first
  obtain ⟨c₀, ds₀, rfl, hv₀, hl₀, hb₀, hw₀, hn₀⟩ := hcs.peel (by omega)
  obtain ⟨c₁, ds₁, rfl, hv₁, hl₁, hb₁, hw₁, hn₁⟩ := hw₀.peel (by omega)
  obtain ⟨c₂, ds₂, rfl, hv₂, hl₂, hb₂, hw₂, hn₂⟩ := hw₁.peel (by omega)
  obtain ⟨c₃, ds₃, rfl, hv₃, hl₃, hb₃, hw₃, hn₃⟩ := hw₂.peel (by omega)
  obtain ⟨c₄, ds₄, rfl, hv₄, hl₄, hb₄, hw₄, hn₄⟩ := hw₃.peel (by omega)
  cases ds₄ with
  | nil => exact absurd hw₄.isStream id
  | cons c₅ ds =>
      have ht : be16 c₅.data 0 = be16 (streamBytes (c₅ :: ds)) 0 := by
        have h2 : 2 ≤ c₅.bytes.length := by
          cases hlast : c₅.tlast with
          | true =>
              obtain rfl := hw₄.tail_eq_nil hlast
              have hone : streamBytes [c₅] = c₅.bytes := by
                rw [streamBytes_cons, streamBytes_nil, List.append_nil]
              rw [hone] at hn₄
              omega
          | false =>
              rw [AxisRaw.length_bytes_eq hw₄.head hlast]
              decide
        rw [streamBytes_cons, be16_append h2, AxisRaw.be16_data hw₄.head h2]
      have hfields := @extract_fields r c₀ c₁ c₂ c₃ c₄ c₅ _ ht
      rw [AxisRaw.data_eq_bytes hv₀ hb₀, AxisRaw.data_eq_bytes hv₁ hb₁,
        AxisRaw.data_eq_bytes hv₂ hb₂, AxisRaw.data_eq_bytes hv₃ hb₃,
        AxisRaw.data_eq_bytes hv₄ hb₄] at hfields
      simp only [← streamBytes_cons] at hfields
      refine Leads.cons (k := 0) (by omega) hl₀ (Leads.cons (by omega) hl₁
        (Leads.cons (by omega) hl₂ (Leads.cons (by omega) hl₃ (Leads.cons (by omega) hl₄ ?_))))
      simp only [List.length_cons] at hmax
      rw [← hfields]
      cases hlast : c₅.tlast with
      | true =>
          rw [hw₄.tail_eq_nil hlast]
          exact .last (by omega) hlast
      | false =>
          have hrest := (hw₄.tail hlast).isStream
          exact .cons (by omega) hlast (.rest hrest (by omega) (by omega))

end Frame

end Arp

end CloudFpga
