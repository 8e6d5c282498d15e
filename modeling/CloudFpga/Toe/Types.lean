import CloudFpga.Nts.Types

/-!
The internal types of the TCP offload engine (`toe.hpp`, `rx_engine.hpp`, `tx_engine.hpp`,
`rx_sar_table.hpp`, `tx_sar_table.hpp`, `tx_app_interface.hpp`).

A class with several constructors is one structure with default values; the constructors keep
their role as functions (`StateQuery.read`, `RXeRxSarQuery.init`, ...).
-/

namespace CloudFpga.Toe

abbrev RxSeqNum := TcpSeqNum
abbrev TxAckNum := TcpAckNum
abbrev RemotWinSize := TcpWindow
abbrev LocalWinSize := TcpWindow

/-- An offset in a 64KB session buffer. -/
abbrev TcpBufAdr := BitVec 16
abbrev RxBufPtr := TcpBufAdr
abbrev TxBufPtr := TcpBufAdr

abbrev SessState := TcpAppOpnRep

/-! ### Events -/

inductive EventType where
  | tx | rt | ack | syn | synAck | fin | rst | ackNodelay
  deriving DecidableEq, Repr

/-- An event for the Tx engine. -/
structure Event where
  type : EventType
  sessionID : SessionId
  address : TcpBufAdr := 0
  length : TcpSegLen := 0
  rtCount : BitVec 3 := 0
  deriving DecidableEq, Repr

/-- `rstEvent(id, seq)`: the sequence number travels in the address and length fields. -/
def rstEvent (id : SessionId) (seq : RxSeqNum) : Event where
  type := .rst
  sessionID := id
  address := seq.extractLsb' 16 16
  length := seq.setWidth 16
  rtCount := 1

/-- `rstEvent(seq)`: a reset for a segment without a session. -/
def rstEventNoSession (seq : RxSeqNum) : Event := { rstEvent 0 seq with rtCount := 0 }

/-- `getAckNumb` of a reset event. -/
def Event.getAckNumb (e : Event) : TxAckNum := e.address ++ e.length

/-- `hasSessionID` of a reset event. -/
def Event.hasSessionID (e : Event) : Bool := e.rtCount != 0

/-- The event lets the Tx engine choose an initial sequence number. -/
def Event.choosesIsn (e : Event) : Bool := (e.type = .syn ∨ e.type = .synAck) ∧ e.rtCount = 0

/-- An event with the socket pair of a connection. -/
structure ExtendedEvent where
  event : Event
  tuple : SocketPair
  deriving DecidableEq, Repr

/-! ### Session lookup -/

structure SessionLookupQuery where
  tuple : SocketPair
  allowCreation : Bool
  deriving DecidableEq, Repr

structure SessionLookupReply where
  sessionID : SessionId
  hit : Bool
  deriving DecidableEq, Repr

/-! ### The state table -/

/-- A query to the state table. -/
structure StateQuery where
  sessionID : SessionId
  state : TcpState := .closed
  write : Bool
  deriving DecidableEq, Repr

def StateQuery.rd (id : SessionId) : StateQuery := { sessionID := id, write := false }

def StateQuery.wr (id : SessionId) (state : TcpState) : StateQuery :=
  { sessionID := id, state := state, write := true }

/-! ### The Rx SAR table -/

/-- An entry of the Rx SAR table. `appd` is the next byte that the application reads, `rcvd`
the next byte expected from the network, and `oooTail`, `oooHead` bound the out-of-order bytes
when `ooo` is set. -/
structure RxSarEntry where
  appd : RxBufPtr := 0
  rcvd : RxSeqNum := 0
  ooo : Bool := false
  oooHead : RxSeqNum := 0
  oooTail : RxSeqNum := 0
  deriving DecidableEq, Repr

abbrev RxSarReply := RxSarEntry

/-- A query of the Rx engine to the Rx SAR table. -/
structure RXeRxSarQuery where
  sessionID : SessionId
  rcvd : RxSeqNum := 0
  oooHead : RxSeqNum := 0
  oooTail : RxSeqNum := 0
  ooo : Bool := false
  write : Bool
  init : Bool := false
  deriving DecidableEq, Repr

/-- The read query. -/
def RXeRxSarQuery.rd (id : SessionId) : RXeRxSarQuery := { sessionID := id, write := false }

/-- The write query of the in-order processing. -/
def RXeRxSarQuery.wr (id : SessionId) (rcvd : RxSeqNum) : RXeRxSarQuery :=
  { sessionID := id, rcvd := rcvd, write := true }

/-- The write query that also initialises the application pointer. -/
def RXeRxSarQuery.wrInit (id : SessionId) (rcvd : RxSeqNum) : RXeRxSarQuery :=
  { sessionID := id, rcvd := rcvd, write := true, init := true }

/-- The write query of the out-of-order processing. -/
def RXeRxSarQuery.wrOoo (id : SessionId) (rcvd : RxSeqNum) (ooo : Bool)
    (oooHead oooTail : RxSeqNum) : RXeRxSarQuery :=
  { sessionID := id, rcvd := rcvd, ooo := ooo, oooHead := oooHead, oooTail := oooTail,
    write := true }

/-- A query of the Rx application interface to the Rx SAR table. -/
structure RAiRxSarQuery where
  sessionID : SessionId
  appd : RxBufPtr := 0
  write : Bool
  deriving DecidableEq, Repr

/-- The read query. -/
def RAiRxSarQuery.rd (id : SessionId) : RAiRxSarQuery := { sessionID := id, write := false }

structure RAiRxSarReply where
  sessionID : SessionId
  appd : RxBufPtr
  deriving DecidableEq, Repr

/-! ### The Tx SAR table -/

/-- An entry of the Tx SAR table. `ackd` is the last acknowledged pointer, `unak` the next byte
to transmit, and `appw` points behind the last byte that the application wrote. -/
structure TxSarEntry where
  appw : TxBufPtr := 0
  unak : TxAckNum := 0
  ackd : TxAckNum := 0
  recvWindow : RemotWinSize := 0
  congWindow : LocalWinSize := 0
  slowstartThreshold : TcpWindow := 0
  count : BitVec 2 := 0
  fastRetransmitted : Bool := false
  finReady : Bool := false
  finSent : Bool := false
  deriving DecidableEq, Repr

/-- A query of the Rx engine to the Tx SAR table. -/
structure RXeTxSarQuery where
  sessionID : SessionId
  ackd : TxAckNum := 0
  recvWindow : RemotWinSize := 0
  congWindow : LocalWinSize := 0
  count : BitVec 2 := 0
  fastRetransmitted : Bool := false
  write : Bool
  deriving DecidableEq, Repr

/-- The read query. -/
def RXeTxSarQuery.rd (id : SessionId) : RXeTxSarQuery := { sessionID := id, write := false }

/-- The write query. -/
def RXeTxSarQuery.wr (id : SessionId) (ackd : TxAckNum) (recvWin : RemotWinSize)
    (congWin : LocalWinSize) (count : BitVec 2) (fastRetransmitted : Bool) : RXeTxSarQuery :=
  { sessionID := id, ackd := ackd, recvWindow := recvWin, congWindow := congWin, count := count,
    fastRetransmitted := fastRetransmitted, write := true }

/-- The reply of the Tx SAR table to the Rx engine. -/
structure RXeTxSarReply where
  prevAckd : TxAckNum := 0
  prevUnak : TxAckNum := 0
  congWindow : TcpWindow := 0
  slowstartThreshold : TcpWindow := 0
  count : BitVec 2 := 0
  fastRetransmitted : Bool := false
  deriving DecidableEq, Repr

/-- A query of the Tx engine to the Tx SAR table. -/
structure TXeTxSarQuery where
  sessionID : SessionId
  notAckd : TxAckNum := 0
  write : Bool
  init : Bool := false
  finReady : Bool := false
  finSent : Bool := false
  isRtQuery : Bool := false
  deriving DecidableEq, Repr

/-- The read query. -/
def TXeTxSarQuery.rd (id : SessionId) : TXeTxSarQuery := { sessionID := id, write := false }

/-- The write query. -/
def TXeTxSarQuery.wr (id : SessionId) (notAckd : TxAckNum) (init : Bool := false)
    (finReady : Bool := false) (finSent : Bool := false) : TXeTxSarQuery :=
  { sessionID := id, notAckd := notAckd, write := true, init := init, finReady := finReady,
    finSent := finSent }

/-- `TXeTxSarRtQuery(id, ssthresh)`: the slow-start threshold travels in `notAckd`. -/
def TXeTxSarQuery.rt (id : SessionId) (ssthresh : TcpWindow) : TXeTxSarQuery :=
  { sessionID := id, notAckd := ssthresh.setWidth 32, write := true, isRtQuery := true }

/-- `getThreshold` of a retransmission query. -/
def TXeTxSarQuery.getThreshold (q : TXeTxSarQuery) : TcpWindow := q.notAckd.setWidth 16

/-- The reply of the Tx SAR table to the Tx engine. -/
structure TXeTxSarReply where
  ackd : TxAckNum := 0
  notAckd : TxAckNum := 0
  minWindow : TcpWindow := 0
  app : TxBufPtr := 0
  finReady : Bool := false
  finSent : Bool := false
  deriving DecidableEq, Repr

/-- The application write pointer that the Tx application interface pushes. -/
structure TAiTxSarPush where
  sessionID : SessionId
  app : TxBufPtr
  deriving DecidableEq, Repr

/-- The acknowledgment pointer that the Tx SAR table pushes to the Tx application interface. -/
structure TStTxSarPush where
  sessionID : SessionId
  ackd : BitVec 16
  init : Bool := false
  deriving DecidableEq, Repr

/-! ### Timers -/

inductive TimerCmd where
  | loadTimer | stopTimer
  deriving DecidableEq, Repr

structure RXeReTransTimerCmd where
  sessionID : SessionId
  command : TimerCmd
  deriving DecidableEq, Repr

structure TXeReTransTimerCmd where
  sessionID : SessionId
  type : EventType := .rt
  deriving DecidableEq, Repr

/-! ### Meta-data of a segment -/

/-- The TCP header fields of a received segment, and the length of its payload. -/
structure RXeMeta where
  seqNumb : TcpSeqNum
  ackNumb : TcpAckNum
  winSize : TcpWindow := 0
  length : TcpSegLen
  ack : Bool := false
  rst : Bool := false
  syn : Bool := false
  fin : Bool := false
  deriving DecidableEq, Repr

/-- A received segment whose session is known. -/
structure RXeFsmMeta extends RXeMeta where
  sessionId : SessionId
  ip4SrcAddr : Ip4Addr := 0
  tcpSrcPort : TcpPort := 0
  tcpDstPort : TcpPort := 0
  deriving DecidableEq, Repr

/-- The TCP header fields of a segment to transmit, and the length of its payload. -/
structure TXeMeta where
  seqNumb : TcpSeqNum := 0
  ackNumb : TcpAckNum := 0
  winSize : TcpWindow := 0
  length : TcpSegLen := 0
  ack : Bool := false
  rst : Bool := false
  syn : Bool := false
  fin : Bool := false
  deriving DecidableEq, Repr

/-! ### The Tx application interface -/

/-- An entry of the Tx application table. -/
structure TxAppTableEntry where
  ackd : TcpAckNum := 0
  mempt : TxBufPtr := 0
  deriving DecidableEq, Repr

structure TxAppTableQuery where
  sessId : SessionId
  mempt : TxBufPtr := 0
  write : Bool
  deriving DecidableEq, Repr

structure TxAppTableReply where
  sessId : SessionId
  ackd : BitVec 16
  mempt : TxBufPtr
  deriving DecidableEq, Repr

/-- Where a granted segment of the application goes in its session buffer. -/
structure AppMemMeta where
  sessId : TcpSessId
  addr : TcpBufAdr
  len : TcpDatLen
  deriving DecidableEq, Repr

end CloudFpga.Toe
