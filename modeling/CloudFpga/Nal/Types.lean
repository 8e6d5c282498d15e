import CloudFpga.Foundation.SlotArray
import CloudFpga.Nts.AxisRaw

/-!
The types and constants of the network abstraction layer (NAL), `nal.hpp`, `nal.cpp`, `cam8.hpp`
and `network.hpp`.

* `NalTriple`: remote address, remote port and local port of a connection in one word.
* `Cam8`: the content-addressable memory with eight entries.
* `extractByteCnt`: the number of bytes of a chunk.
-/

namespace CloudFpga.Nal

open Foundation AxisRaw

/-- The NAL is built for the simulation or, with `__SYNTHESIS__`, for the device. -/
inductive Build where
  | simulation | synthesis
  deriving DecidableEq, Repr

abbrev PacketLen := BitVec 16
abbrev NodeId := BitVec 8
abbrev NetworkDataLength := BitVec 16
abbrev NetworkWord := AxisRaw
abbrev Word := BitVec 32

/-- `NAL_MAX_FIFO_DEPTHS_BYTES`: the capacity of the FIFO to the FMC and of the one to the ROLE. -/
def nalMaxFifoDepthsBytes : ℕ := 2000

/-- The depth of the queues of waiting sessions. -/
def waitingDepth : ℕ := 8

/-- `UNUSED_TABLE_ENTRY_VALUE`. -/
def unusedTableEntryValue : BitVec 64 := 0x111000

/-- `UNUSED_SESSION_ENTRY_VALUE`. -/
def unusedSessionEntryValue : SessionId := 0xFFFE

/-- `INVALID_MRT_VALUE`, which does not fit into a `NodeId`. -/
def invalidMrtValue : BitVec 32 := 0xFFFFF

/-! ### Triples -/

abbrev NalTriple := BitVec 64

def newTriple (ipRemoteAddres : Ip4Addr) (tcpRemotePort tcpLocalPort : TcpPort) : NalTriple :=
  ipRemoteAddres.setWidth 64 <<< 32 ||| (tcpRemotePort.setWidth 32 <<< 16).setWidth 64 |||
    tcpLocalPort.setWidth 64

def getRemoteIpAddrFromTriple (triple : NalTriple) : Ip4Addr := (triple >>> 32).setWidth 32

def getRemotePortFromTriple (triple : NalTriple) : TcpPort := (triple >>> 16).setWidth 16

def getLocalPortFromTriple (triple : NalTriple) : TcpPort := triple.setWidth 16

/-! ### Messages -/

structure NalNewTableEntry where
  newTriple : NalTriple
  sessId : SessionId
  deriving DecidableEq, Repr

structure NalWaitingData where
  sessId : SessionId
  fmcCon : Bool
  deriving DecidableEq, Repr

/-- An update of the configuration. Address `NAL_CONFIG_OWN_RANK` holds the rank of the node. -/
structure NalConfigUpdate where
  configAddr : BitVec 16
  updateValue : BitVec 32
  deriving DecidableEq, Repr

def nalConfigOwnRank : BitVec 16 := 0

inductive PortType where
  | fmc | udp | tcp
  deriving DecidableEq, Repr

structure NalPortUpdate where
  portType : PortType
  newValue : Word
  deriving DecidableEq, Repr

/-- `NetworkMeta`, with which `NetworkMetaStream` is filled. -/
structure NetworkMeta where
  dstRank : NodeId
  dstPort : TcpPort
  srcRank : NodeId
  srcPort : TcpPort
  len : NetworkDataLength
  deriving DecidableEq, Repr

inductive NalCntIncType where
  | nidMissRx | nidMissTx | pcorTx | tcpConFail | lastRxPort | lastRxNid | lastTxPort | lastTxNid
  | packetRx | packetTx | unauthAccess | authAccess | fmcTcpBytes
  deriving DecidableEq, Repr

/-- An event: a new value, or an increment. -/
structure NalEventNotif where
  type : NalCntIncType
  updateValue : Word
  deriving DecidableEq, Repr

/-- The depth of the internal streams of events. -/
def evsDepth : ℕ := 2

/-- The internal streams of events of a process, which it forwards one after the other. -/
structure EventPorts (n : ℕ) [NeZero n] where
  evsStreams : Fin n → List NalEventNotif := fun _ => []
  evsLoopI : Fin n := 0
  internalEventFifo : List NalEventNotif := []

section EventPorts

variable {n : ℕ} [NeZero n] (e : EventPorts n)

/-- `write_nb`: the event is lost if there is no room. -/
def EventPorts.notify (i : Fin n) (type : NalCntIncType) (updateValue : Word) : EventPorts n :=
  if (e.evsStreams i).length < evsDepth then
    { e with
      evsStreams := Function.update e.evsStreams i (e.evsStreams i ++ [⟨type, updateValue⟩]) }
  else e

/-- At the end of each call. -/
def EventPorts.forward (room : Bool) : EventPorts n :=
  if room then
    match e.evsStreams e.evsLoopI with
    | ev :: evs =>
        { evsStreams := Function.update e.evsStreams e.evsLoopI evs
          evsLoopI := e.evsLoopI + 1
          internalEventFifo := e.internalEventFifo ++ [ev] }
    | [] => { e with evsLoopI := e.evsLoopI + 1 }
  else e

end EventPorts

/-- `MAX_CF_NODE_ID`. -/
def maxCfNodeId : ℕ := 63

/-- `DEFAULT_RX_PORT`. -/
def defaultRxPort : TcpPort := 2718

/-! ### The memory -/

/-- The number of bytes of a chunk by its `tkeep`. A mask that is not one of low bits counts as one
byte. -/
def extractByteCnt (c : AxisRaw) : PacketLen :=
  if c.getLen = 0 then 1 else BitVec.ofNat 16 c.getLen

/-- The bytes of some chunks, by their `tkeep`. -/
def byteSum (cs : List AxisRaw) : ℕ := (cs.map AxisRaw.getLen).sum

@[simp] lemma byteSum_nil : byteSum [] = 0 := rfl

@[simp] lemma byteSum_append (cs ds : List AxisRaw) :
    byteSum (cs ++ ds) = byteSum cs + byteSum ds := by
  simp [byteSum]

@[simp] lemma byteSum_singleton (c : AxisRaw) : byteSum [c] = c.getLen := by
  simp [byteSum]

/-- A chunk counts as at least one byte. -/
lemma extractByteCnt_pos (c : AxisRaw) : 0 < (extractByteCnt c).toNat := by
  have hle := getLen_le c
  rw [extractByteCnt]
  split
  · decide
  · rw [BitVec.toNat_ofNat]
    omega

lemma extractByteCnt_le (c : AxisRaw) : (extractByteCnt c).toNat ≤ 8 := by
  have hle := getLen_le c
  rw [extractByteCnt]
  split
  · decide
  · rw [BitVec.toNat_ofNat]
    omega

lemma toNat_extractByteCnt {c : AxisRaw} (h : c.isValid) :
    (extractByteCnt c).toNat = c.bytes.length := by
  have hpos := one_le_length_bytes h
  have hle := length_bytes_le c
  rw [extractByteCnt, getLen_eq h, if_neg (by omega), BitVec.toNat_ofNat]
  omega

/-- `CamArray0` to `CamArray7`. -/
structure Cam8 (κ ν : Type*) where
  entries : List (Slot κ ν)
  size : entries.length = 8

namespace Cam8

variable {κ ν : Type*}

/-- All entries are invalidated. -/
def reset (c : Cam8 κ ν) : Cam8 κ ν :=
  ⟨c.entries.map fun e => { e with valid := false }, by rw [List.length_map, c.size]⟩

variable [DecidableEq κ] (c : Cam8 κ ν)

def lookup (key : κ) : Option ν := SlotArray.lookup key c.entries

/-- The first entry that is not valid is overwritten, if there is one. -/
def insert (key : κ) (value : ν) : Cam8 κ ν :=
  ⟨SlotArray.store key value c.entries, by rw [SlotArray.length_store, c.size]⟩

/-- The first valid entry with the key gets the value, if there is one. -/
def update (key : κ) (value : ν) : Cam8 κ ν :=
  ⟨SlotArray.assign key value c.entries, by rw [SlotArray.length_assign, c.size]⟩

/-- The first valid entry with the key is invalidated, if there is one. -/
def deleteEntry (key : κ) : Cam8 κ ν :=
  ⟨SlotArray.discard key c.entries, by rw [SlotArray.length_discard, c.size]⟩

end Cam8

lemma Cam8.lookup_reset {κ ν : Type*} [DecidableEq κ] (c : Cam8 κ ν) (key : κ) :
    c.reset.lookup key = none := by
  rw [Cam8.lookup, SlotArray.lookup_eq_none_iff]
  intro e he hk
  obtain ⟨f, -, rfl⟩ := List.mem_map.mp he
  cases hk.1

lemma Cam8.distinct_reset {κ ν : Type*} (c : Cam8 κ ν) : SlotArray.Distinct c.reset.entries := by
  rw [Cam8.reset, SlotArray.Distinct, List.pairwise_map]
  exact List.pairwise_of_forall_mem_list fun e _ f _ he => by cases he

end CloudFpga.Nal
