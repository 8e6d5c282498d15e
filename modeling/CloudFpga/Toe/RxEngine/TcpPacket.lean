import CloudFpga.Foundation.OnesComplement
import CloudFpga.Toe.AxisFields
import CloudFpga.Toe.Types

/-!
IPv4 packets with a TCP segment, as lists of bytes.

* `ip4HdrLen`, `tcpSegment`, ..: the fields and the parts of a packet.
* `ChecksumOk`: the one's complement sum over the pseudo header and the segment has all bits set.
* `rxMeta`, `rxSocketPair`: what the Rx engine has to know of a segment.
* `TcpPacket`: the packets whose headers and payload fit into their length.
-/

namespace CloudFpga.Toe

open Foundation

section Fields

variable (b : List Byte)

/-- The number of words of the IP header. -/
def ip4HdrLen : Ip4HdrLen := (byteAt b 0).setWidth 4

def ip4TotalLen : Ip4TotalLen := be16 b 2

/-- The bytes of the source and of the destination address. -/
def ip4Addrs : List Byte := (b.drop 12).take 8

def tcpSegment : List Byte := b.drop (4 * (ip4HdrLen b).toNat)

/-- The length of the segment by the fields of the IP header. -/
def tcpSegLen : TcpSegLen := ip4TotalLen b - (ip4HdrLen b).setWidth 16 * 4

/-- The segment with the pseudo header of RFC-793 in front. -/
def pseudoPacket : List Byte :=
  ip4Addrs b ++ ([0x00, 0x06] ++ bytes16 (tcpSegLen b) ++ tcpSegment b)

/-- The number of words of the TCP header. -/
def tcpDataOff : TcpDataOff := (byteAt (tcpSegment b) 12).extractLsb' 4 4

def tcpPayload : List Byte := (tcpSegment b).drop (4 * (tcpDataOff b).toNat)

/-- The checksum is correct. -/
def ChecksumOk : Prop := onesSum (words (pseudoPacket b)) = 0xFFFF

instance : Decidable (ChecksumOk b) := inferInstanceAs (Decidable (_ = _))

def rxSocketPair : SocketPair :=
  ⟨⟨be32 b 12, be16 (tcpSegment b) 0⟩, ⟨be32 b 16, be16 (tcpSegment b) 2⟩⟩

/-- The fields of the TCP header, and the length of the payload by the fields of the headers. -/
def rxMeta : RXeMeta where
  seqNumb := be32 (tcpSegment b) 4
  ackNumb := be32 (tcpSegment b) 8
  winSize := be16 (tcpSegment b) 14
  length := tcpSegLen b - (tcpDataOff b).setWidth 16 * 4
  ack := (byteAt (tcpSegment b) 13).getLsbD 4
  rst := (byteAt (tcpSegment b) 13).getLsbD 2
  syn := (byteAt (tcpSegment b) 13).getLsbD 1
  fin := (byteAt (tcpSegment b) 13).getLsbD 0

end Fields

/-- The header lengths are at least five words, the headers fit into the packet, and its total
length is the number of its bytes. -/
structure TcpPacket (b : List Byte) : Prop where
  hdrLen : 5 ≤ (ip4HdrLen b).toNat
  dataOff : 5 ≤ (tcpDataOff b).toNat
  fits : 4 * (ip4HdrLen b).toNat + 4 * (tcpDataOff b).toNat ≤ b.length
  totalLen : (ip4TotalLen b).toNat = b.length

section Lengths

variable {b : List Byte}

lemma length_tcpSegment : (tcpSegment b).length = b.length - 4 * (ip4HdrLen b).toNat := by
  rw [tcpSegment, List.length_drop]

/-- The length that is computed is that of the segment. -/
lemma toNat_tcpSegLen (htotal : (ip4TotalLen b).toNat = b.length)
    (hfits : 4 * (ip4HdrLen b).toNat ≤ b.length) :
    (tcpSegLen b).toNat = (tcpSegment b).length := by
  have hihl := (ip4HdrLen b).isLt
  have hmul : ((ip4HdrLen b).setWidth 16 * 4).toNat = 4 * (ip4HdrLen b).toNat := by
    rw [BitVec.toNat_mul, BitVec.toNat_setWidth]
    have h4 : (4 : BitVec 16).toNat = 4 := rfl
    rw [h4]
    omega
  have hle : (ip4HdrLen b).setWidth 16 * 4 ≤ ip4TotalLen b := by
    rw [BitVec.le_def, hmul, htotal]
    exact hfits
  rw [tcpSegLen, BitVec.toNat_sub_of_le hle, hmul, htotal, length_tcpSegment]

/-- So is the length of the payload. -/
lemma toNat_length_rxMeta (hlen : (tcpSegLen b).toNat = (tcpSegment b).length)
    (hfits : 4 * (tcpDataOff b).toNat ≤ (tcpSegment b).length) :
    (rxMeta b).length.toNat = (tcpPayload b).length := by
  have hoff := (tcpDataOff b).isLt
  have hmul : ((tcpDataOff b).setWidth 16 * 4).toNat = 4 * (tcpDataOff b).toNat := by
    rw [BitVec.toNat_mul, BitVec.toNat_setWidth]
    have h4 : (4 : BitVec 16).toNat = 4 := rfl
    rw [h4]
    omega
  have hle : (tcpDataOff b).setWidth 16 * 4 ≤ tcpSegLen b := by
    rw [BitVec.le_def, hmul, hlen]
    exact hfits
  rw [rxMeta, BitVec.toNat_sub_of_le hle, hmul, hlen, tcpPayload, List.length_drop]

end Lengths

end CloudFpga.Toe
