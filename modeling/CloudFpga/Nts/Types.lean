import Mathlib.Tactic

/-!
The types and constants of the network transport stack that the TCP offload engine (TOE)
shares (`nts_types.hpp`, `nts_config.hpp`, `nts.hpp`, `mem.hpp`).

An `ap_uint<n>` is a `BitVec n`. A field assignment `x(hi, lo) = v` is `setRange x hi lo v`,
and a range read `x(hi, 0)` is `x.setWidth (hi + 1)`.
-/

namespace CloudFpga

/-! ### Fields of words -/

/-- The word `x` after `x(hi, lo) = v`. -/
def setRange {w m : ℕ} (x : BitVec w) (hi lo : ℕ) (v : BitVec m) : BitVec w :=
  BitVec.ofNat w (x.toNat / 2 ^ (hi + 1) * 2 ^ (hi + 1)
    + v.toNat % 2 ^ (hi + 1 - lo) * 2 ^ lo + x.toNat % 2 ^ lo)

/-! ### Commands and sessions -/

/-- A one-bit command. -/
abbrev CmdBit := Bool

/-- `CMD_DROP`. -/
def cmdDrop : CmdBit := true

/-- `CMD_KEEP`. -/
def cmdKeep : CmdBit := false

abbrev SessionId := BitVec 16
abbrev TcpSessId := SessionId
abbrev TcpSeqNum := BitVec 32
abbrev TcpAckNum := BitVec 32
abbrev TcpWindow := BitVec 16
abbrev TcpSegLen := BitVec 16
abbrev TcpDatLen := BitVec 16
abbrev TcpPort := BitVec 16
abbrev Ip4Addr := BitVec 32

/-- A socket address, in network or in little-endian byte order. -/
structure SockAddr where
  addr : Ip4Addr
  port : TcpPort
  deriving DecidableEq, Repr

/-- The source and the destination of a connection. -/
structure SocketPair where
  src : SockAddr
  dst : SockAddr
  deriving DecidableEq, Repr

/-- The two bytes of a word, swapped. -/
def byteSwap16 (x : BitVec 16) : BitVec 16 := x.extractLsb' 0 8 ++ x.extractLsb' 8 8

/-- The four bytes of a word, in the opposite order. -/
def byteSwap32 (x : BitVec 32) : BitVec 32 :=
  x.extractLsb' 0 8 ++ x.extractLsb' 8 8 ++ x.extractLsb' 16 8 ++ x.extractLsb' 24 8

/-- The connection states of the TOE, the subset of RFC-793 that it uses. -/
inductive TcpState where
  | closed | synSent | synReceived | established | finWait1 | finWait2 | closing | timeWait
  | lastAck
  deriving DecidableEq, Repr, Inhabited

/-- The error codes of a send request. -/
inductive TcpAppSndErr where
  | noError | noSpace | noConnection
  deriving DecidableEq, Repr

/-- A notification to the application: `tcpDatLen` new bytes, or a change of `tcpState`. -/
structure TcpAppNotif where
  sessionID : SessionId
  tcpDatLen : TcpDatLen
  ip4SrcAddr : Ip4Addr
  tcpSrcPort : TcpPort
  tcpDstPort : TcpPort
  tcpState : TcpState := .closed
  deriving DecidableEq, Repr

/-- A request of the application to send `length` bytes. -/
structure TcpAppSndReq where
  sessId : SessionId
  length : TcpDatLen
  deriving DecidableEq, Repr

/-- The reply to a send request. -/
structure TcpAppSndRep where
  sessId : SessionId
  length : TcpDatLen
  spaceLeft : TcpDatLen
  error : TcpAppSndErr
  deriving DecidableEq, Repr

/-- The reply to an open request, and the state of a session. -/
structure TcpAppOpnRep where
  sessId : SessionId
  tcpState : TcpState
  deriving DecidableEq, Repr

/-- A request of the application to read `length` bytes. -/
structure TcpAppRdReq where
  sessionID : SessionId
  length : TcpDatLen
  deriving DecidableEq, Repr

/-- `UdpAppMeta`: the socket pair of a datagram. -/
structure UdpAppMeta where
  ip4SrcAddr : Ip4Addr := 0
  udpSrcPort : TcpPort := 0
  ip4DstAddr : Ip4Addr := 0
  udpDstPort : TcpPort := 0
  deriving DecidableEq, Repr

/-- `UdpAppDLen`: the length of a datagram. -/
abbrev UdpAppDLen := BitVec 16

/-! ### Configuration -/

/-- `ZYC2_MSS`: the maximum segment size of a transmitted segment, TCP header included. -/
def zyc2Mss : ℕ := 1352

/-- `TCP_HEADER_LEN`. -/
def tcpHeaderLen : ℕ := 20

/-- `MY_MSS`: the maximum segment size that the TOE advertises. -/
def myMss : ℕ := 1456

/-- `TOE_MAX_SESSIONS`. -/
def toeMaxSessions : ℕ := 8

/-- `TOE_BUFFER_SIZE`, also the size of the Rx and of the Tx buffer of a session. -/
def toeBufferSize : ℕ := 65536

/-- `TOE_MAX_CONGESTION_WINDOW`. -/
def toeMaxCongestionWindow : ℕ := toeBufferSize - 2048

/-- `TOE_MEMORY_BASE`. -/
def toeMemoryBase : ℕ := 0x00000000

/-- `TOE_MEMORY_SIZE`. -/
def toeMemorySize : ℕ := 0x80000000

/-- `TOE_RX_MEMORY_SIZE`. -/
def toeRxMemorySize : ℕ := toeMemorySize / 2

/-- `TOE_RX_MEMORY_BASE`. -/
def toeRxMemoryBase : ℕ := toeMemoryBase

/-- `TOE_TX_MEMORY_BASE`, as the header computes it. -/
def toeTxMemoryBase : ℕ := toeMemorySize + toeRxMemorySize

/-! ### The Data Mover -/

/-- A command to the AXI4 Data Mover: `btt` bytes from the address `saddr` on. -/
structure DmCmd where
  btt : BitVec 23
  type : BitVec 1 := 1
  dsa : BitVec 6 := 0
  eof : BitVec 1 := 1
  drr : BitVec 1 := 1
  saddr : BitVec 40
  tag : BitVec 4 := 0
  rsvd : BitVec 4 := 0
  deriving DecidableEq, Repr

/-- The constructor `DmCmd(addr, len)`. -/
def DmCmd.ofAddrLen {w m : ℕ} (addr : BitVec w) (len : BitVec m) : DmCmd where
  btt := len.setWidth 23
  saddr := addr.setWidth 40

/-- The start offset of a command inside the 64KB buffer of its session. -/
def DmCmd.offset (c : DmCmd) : BitVec 16 := c.saddr.setWidth 16

/-- The status that the Data Mover returns for a write command. -/
structure DmSts where
  tag : BitVec 4
  interr : Bool
  decerr : Bool
  slverr : Bool
  okay : Bool
  deriving DecidableEq, Repr

/-- The address of an offset in the buffer of a session, for the 1GB half at `base`: the
session number goes to the bits 29 to 16, the offset to the bits 15 to 0. -/
def memSegAddr (base : ℕ) (sessId : SessionId) (addr : BitVec 16) : BitVec 32 :=
  setRange (setRange (BitVec.ofNat 32 base) 29 16 (sessId.setWidth 14)) 15 0 addr

lemma toNat_memSegAddr (base : ℕ) (sessId : SessionId) (addr : BitVec 16) :
    (memSegAddr base sessId addr).toNat
      = base % 2 ^ 32 / 2 ^ 30 * 2 ^ 30 + sessId.toNat % 2 ^ 14 * 2 ^ 16 + addr.toNat := by
  have ha := addr.isLt
  simp only [memSegAddr, setRange, BitVec.toNat_ofNat, BitVec.toNat_setWidth]
  omega

/-- The offset of a command built from a session address is the address given. -/
@[simp] lemma offset_ofAddrLen_memSegAddr {m : ℕ} (base : ℕ) (sessId : SessionId)
    (addr : BitVec 16) (len : BitVec m) :
    (DmCmd.ofAddrLen (memSegAddr base sessId addr) len).offset = addr := by
  have ha := addr.isLt
  apply BitVec.eq_of_toNat_eq
  simp only [DmCmd.offset, DmCmd.ofAddrLen, BitVec.toNat_setWidth, toNat_memSegAddr]
  omega

end CloudFpga
