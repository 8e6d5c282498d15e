import CloudFpga.Arp.PacketReceiver
import CloudFpga.Nts.AxisHalves

/-!
The sender of the ARP server, `pArpPacketSender` of `arp.cpp`.

* `ArpJob`: what the sender is asked for, a reply or a request.
* `sendChunk`: the chunk that it writes in a call.
* `jobBytes`: the bytes of the frame; `arpFrame_bytes`: the chunks are this frame.
-/

namespace CloudFpga.Arp

open Foundation AxisRaw

section Setters

variable (c : AxisEth)

/-- `tdata.range(47, 0) = swapMacAddr(addr)`. -/
def setEthDstAddr (addr : EthAddr) : AxisEth := setBytes c 0 (bytes48 addr)

/-- `tdata.range(63, 48) = swapMacAddr(addr).range(15, 0)`. -/
def setEthSrcAddrHi (addr : EthAddr) : AxisEth := setBytes c 6 ((bytes48 addr).take 2)

/-- `tdata.range(31, 0) = swapMacAddr(addr).range(47, 16)`. -/
def setEthSrcAddrLo (addr : EthAddr) : AxisEth := setBytes c 0 ((bytes48 addr).drop 2)

/-- `tdata.range(47, 32) = swapWord(eType)`. -/
def setEthertType (eType : BitVec 16) : AxisEth := setBytes c 4 (bytes16 eType)

/-- `tdata.range(63, 48) = swapWord(htype)`. -/
def setArpHwType (htype : BitVec 16) : AxisEth := setBytes c 6 (bytes16 htype)

/-- `tdata.range(15, 0) = swapWord(ptype)`. -/
def setArpProtType (ptype : BitVec 16) : AxisEth := setBytes c 0 (bytes16 ptype)

/-- `tdata.range(23, 16) = hlen`. -/
def setArpHwLen (hlen : Byte) : AxisEth := setBytes c 2 [hlen]

/-- `tdata.range(31, 24) = plen`. -/
def setArpProtLen (plen : Byte) : AxisEth := setBytes c 3 [plen]

/-- `tdata.range(47, 32) = swapWord(oper)`. -/
def setArpOper (oper : BitVec 16) : AxisEth := setBytes c 4 (bytes16 oper)

/-- `tdata.range(63, 48) = swapMacAddr(sha).range(15, 0)`. -/
def setArpShaHi (sha : EthAddr) : AxisEth := setBytes c 6 ((bytes48 sha).take 2)

/-- `tdata.range(31, 0) = swapMacAddr(sha).range(47, 16)`. -/
def setArpShaLo (sha : EthAddr) : AxisEth := setBytes c 0 ((bytes48 sha).drop 2)

/-- `tdata.range(63, 32) = swapDWord(spa)`. -/
def setArpSpa (spa : Ip4Addr) : AxisEth := setBytes c 4 (bytes32 spa)

/-- `tdata.range(47, 0) = swapMacAddr(tha)`. -/
def setArpTha (tha : EthAddr) : AxisEth := setBytes c 0 (bytes48 tha)

/-- `tdata.range(63, 48) = swapDWord(tpa).range(15, 0)`. -/
def setArpTpaHi (tpa : Ip4Addr) : AxisEth := setBytes c 6 ((bytes32 tpa).take 2)

/-- `tdata.range(15, 0) = swapDWord(tpa).range(31, 16)`. -/
def setArpTpaLo (tpa : Ip4Addr) : AxisEth := setBytes c 0 ((bytes32 tpa).drop 2)

end Setters

/-- `ETH_BROADCAST_ADDR`. -/
def ethBroadcastAddr : EthAddr := 0xFFFFFFFFFFFF

/-- `ETH_ETHERTYPE_ARP`. -/
def ethEthertypeArp : BitVec 16 := 0x0806

/-- `ARP_HTYPE_ETHERNET`. -/
def arpHtypeEthernet : BitVec 16 := 0x0001

/-- `ARP_PTYPE_IPV4`. -/
def arpPtypeIpv4 : BitVec 16 := 0x0800

/-- `ARP_HLEN_ETHERNET`. -/
def arpHlenEthernet : Byte := 6

/-- `ARP_PLEN_IPV4`. -/
def arpPlenIpv4 : Byte := 4

/-- `ARP_OPER_REPLY`. -/
def arpOperReply : BitVec 16 := 2

/-- What the sender is asked for. -/
inductive ArpJob where
  /-- a reply to a request -/
  | reply (aprMeta : ArpMeta)
  /-- a request for the MAC address of an IPv4 address -/
  | request (tpaReq : Ip4Addr)
  deriving DecidableEq

/-- `AxisEth sendCunk(0, 0xFF, 0)`. -/
def sendCunk : AxisEth := .ofBytes (List.replicate 8 0) false rfl

section Chunks

variable (macAddress : EthAddr) (ipAddress : Ip4Addr)

/-- The chunk that is written for `aps_sendCount`. -/
def sendChunk : ArpJob → ℕ → AxisEth
  | .request _, 0 => setEthSrcAddrHi (setEthDstAddr sendCunk ethBroadcastAddr) macAddress
  | .request _, 1 =>
      setArpHwType (setEthertType (setEthSrcAddrLo sendCunk macAddress) ethEthertypeArp)
        arpHtypeEthernet
  | .request _, 2 =>
      setArpShaHi (setArpOper (setArpProtLen (setArpHwLen (setArpProtType sendCunk arpPtypeIpv4)
        arpHlenEthernet) arpPlenIpv4) arpOperRequest) macAddress
  | .request _, 3 => setArpSpa (setArpShaLo sendCunk macAddress) ipAddress
  | .request tpaReq, 4 => setArpTpaHi sendCunk tpaReq
  | .request tpaReq, 5 => ((setArpTpaLo sendCunk tpaReq).setTKeepLen 2).setTLast
  | .reply m, 0 => setEthSrcAddrHi (setEthDstAddr sendCunk m.remoteMacAddr) macAddress
  | .reply m, 1 =>
      setArpHwType (setEthertType (setEthSrcAddrLo sendCunk macAddress) m.etherType) m.arpHwType
  | .reply m, 2 =>
      setArpShaHi (setArpOper (setArpProtLen (setArpHwLen (setArpProtType sendCunk m.arpProtType)
        m.arpHwLen) m.arpProtLen) arpOperReply) macAddress
  | .reply _, 3 => setArpSpa (setArpShaLo sendCunk macAddress) ipAddress
  | .reply m, 4 => setArpTpaHi (setArpTha sendCunk m.arpSendHwAddr) m.arpSendProtAddr
  | .reply m, 5 => ((setArpTpaLo sendCunk m.arpSendProtAddr).setTKeepLen 2).setTLast
  | _, _ => sendCunk

/-- The chunks of a job. -/
def arpFrame (job : ArpJob) : List AxisEth :=
  (List.range 6).map (sendChunk macAddress ipAddress job)

/-- The bytes of an ARP request or reply in an Ethernet frame. -/
def jobBytes : ArpJob → List Byte
  | .request tpaReq =>
      bytes48 ethBroadcastAddr ++ bytes48 macAddress ++ bytes16 ethEthertypeArp ++
        bytes16 arpHtypeEthernet ++ bytes16 arpPtypeIpv4 ++ [arpHlenEthernet, arpPlenIpv4] ++
        bytes16 arpOperRequest ++ bytes48 macAddress ++ bytes32 ipAddress ++ List.replicate 6 0 ++
        bytes32 tpaReq
  | .reply m =>
      bytes48 m.remoteMacAddr ++ bytes48 macAddress ++ bytes16 m.etherType ++
        bytes16 m.arpHwType ++ bytes16 m.arpProtType ++ [m.arpHwLen, m.arpProtLen] ++
        bytes16 arpOperReply ++ bytes48 macAddress ++ bytes32 ipAddress ++
        bytes48 m.arpSendHwAddr ++ bytes32 m.arpSendProtAddr

/-- The last chunk has two bytes. -/
lemma isValid_lastChunk (i : ℕ) (bs : List Byte) :
    (((setBytes sendCunk i bs).setTKeepLen 2).setTLast).isValid := by
  have hkeep : ((((setBytes sendCunk i bs).setTKeepLen 2).setTLast).lanes.map (·.keep)) =
      [true, true, false, false, false, false, false, false] := by
    simp only [AxisRaw.setTLast, AxisRaw.setTKeepLen, setBytes, sendCunk, AxisRaw.ofBytes]
    simp
  rw [AxisRaw.isValid, AxisRaw.getLen, hkeep]
  rfl

lemma isValid_sendCunk : sendCunk.isValid := AxisRaw.isValid_ofBytes

/-- Every chunk is valid. -/
lemma isValid_sendChunk (job : ArpJob) {n : ℕ} (hn : n < 6) :
    (sendChunk macAddress ipAddress job n).isValid := by
  have h0 := isValid_sendCunk
  cases job with
  | reply m =>
      match n with
      | 0 => exact isValid_setBytes (isValid_setBytes h0 ..) ..
      | 1 => exact isValid_setBytes (isValid_setBytes (isValid_setBytes h0 ..) ..) ..
      | 2 =>
          exact isValid_setBytes (isValid_setBytes (isValid_setBytes (isValid_setBytes
            (isValid_setBytes h0 ..) ..) ..) ..) ..
      | 3 => exact isValid_setBytes (isValid_setBytes h0 ..) ..
      | 4 => exact isValid_setBytes (isValid_setBytes h0 ..) ..
      | 5 => exact isValid_lastChunk ..
  | request tpaReq =>
      match n with
      | 0 => exact isValid_setBytes (isValid_setBytes h0 ..) ..
      | 1 => exact isValid_setBytes (isValid_setBytes (isValid_setBytes h0 ..) ..) ..
      | 2 =>
          exact isValid_setBytes (isValid_setBytes (isValid_setBytes (isValid_setBytes
            (isValid_setBytes h0 ..) ..) ..) ..) ..
      | 3 => exact isValid_setBytes (isValid_setBytes h0 ..) ..
      | 4 => exact isValid_setBytes h0 ..
      | 5 => exact isValid_lastChunk ..

lemma data_sendCunk : sendCunk.data = List.replicate 8 0 := AxisRaw.data_ofBytes

/-- The bytes of the chunks before the last one. -/
lemma bytes_sendChunk (job : ArpJob) {n : ℕ} (hn : n < 5) :
    (sendChunk macAddress ipAddress job n).bytes = (sendChunk macAddress ipAddress job n).data := by
  have hvalid := isValid_sendChunk macAddress ipAddress job (show n < 6 by omega)
  have hlast : (sendChunk macAddress ipAddress job n).tlast = false := by
    cases job with
    | reply m => match n with | 0 | 1 | 2 | 3 | 4 => rfl
    | request tpaReq => match n with | 0 | 1 | 2 | 3 | 4 => rfl
  exact (AxisRaw.data_eq_bytes hvalid (AxisRaw.length_bytes_eq hvalid hlast)).symm

/-- The bytes of the last chunk. -/
lemma bytes_lastChunk (bs : List Byte) (hbs : bs.length = 2) :
    (((setBytes sendCunk 0 bs).setTKeepLen 2).setTLast).bytes = bs := by
  have hvalid := isValid_lastChunk 0 bs
  have hlen : (((setBytes sendCunk 0 bs).setTKeepLen 2).setTLast).bytes.length = 2 :=
    AxisRaw.length_bytes_setTKeepLen (by decide)
  have hdata : (((setBytes sendCunk 0 bs).setTKeepLen 2).setTLast).data =
      (setBytes sendCunk 0 bs).data := by
    refine List.ext_getElem? fun j => ?_
    simp only [AxisRaw.setTLast, AxisRaw.setTKeepLen, AxisRaw.data, List.getElem?_map,
      List.getElem?_mapIdx, Option.map_map]
    cases (setBytes sendCunk 0 bs).lanes[j]? <;> rfl
  rw [AxisRaw.bytes_eq_take hvalid, hlen, hdata, data_setBytes _ (by omega), List.take_zero,
    List.nil_append, List.take_append_of_le_length (by omega), List.take_of_length_le (by omega)]

/-- **The chunks of a job** are its frame. -/
theorem arpFrame_bytes (job : ArpJob) :
    WellFormed (arpFrame macAddress ipAddress job) ∧
      streamBytes (arpFrame macAddress ipAddress job) = jobBytes macAddress ipAddress job := by
  have hvalid : ∀ c ∈ arpFrame macAddress ipAddress job, c.isValid := by
    intro c hc
    obtain ⟨n, hn, rfl⟩ := List.mem_map.mp hc
    exact isValid_sendChunk macAddress ipAddress job (List.mem_range.mp hn)
  have hbytes : streamBytes (arpFrame macAddress ipAddress job) =
      (sendChunk macAddress ipAddress job 0).data ++ (sendChunk macAddress ipAddress job 1).data ++
        (sendChunk macAddress ipAddress job 2).data ++
        (sendChunk macAddress ipAddress job 3).data ++
        (sendChunk macAddress ipAddress job 4).data ++
        (sendChunk macAddress ipAddress job 5).bytes := by
    rw [← bytes_sendChunk macAddress ipAddress job (show 0 < 5 by decide),
      ← bytes_sendChunk macAddress ipAddress job (show 1 < 5 by decide),
      ← bytes_sendChunk macAddress ipAddress job (show 2 < 5 by decide),
      ← bytes_sendChunk macAddress ipAddress job (show 3 < 5 by decide),
      ← bytes_sendChunk macAddress ipAddress job (show 4 < 5 by decide)]
    simp [arpFrame, streamBytes, List.range_succ_eq_map]
  cases job with
  | reply m =>
      refine ⟨⟨rfl, hvalid⟩, ?_⟩
      rw [hbytes]
      simp only [sendChunk, setEthDstAddr, setEthSrcAddrHi, setEthSrcAddrLo, setEthertType,
        setArpHwType, setArpProtType, setArpHwLen, setArpProtLen, setArpOper, setArpShaHi,
        setArpShaLo, setArpSpa, setArpTha, setArpTpaHi, setArpTpaLo]
      rw [bytes_lastChunk _ rfl]
      simp [data_setBytes, data_sendCunk, bytes48, bytes32, bytes16, jobBytes]
  | request tpaReq =>
      refine ⟨⟨rfl, hvalid⟩, ?_⟩
      rw [hbytes]
      simp only [sendChunk, setEthDstAddr, setEthSrcAddrHi, setEthSrcAddrLo, setEthertType,
        setArpHwType, setArpProtType, setArpHwLen, setArpProtLen, setArpOper, setArpShaHi,
        setArpShaLo, setArpSpa, setArpTpaHi, setArpTpaLo]
      rw [bytes_lastChunk _ rfl]
      simp [data_setBytes, data_sendCunk, bytes48, bytes32, bytes16, jobBytes]

end Chunks

end CloudFpga.Arp
