import CloudFpga.Foundation.Frame
import CloudFpga.Nts.AxisRaw

/-!
The Tx application interface of the UOE (UDP offload engine), `pTxApplicationInterface` of `uoe.cpp`.
It cuts the data of the application into datagrams: by the announced length, or by `tlast` if no
length is announced.
-/

namespace CloudFpga.Uoe

open Foundation

/-- `UDP_MDS`: the payload of the largest datagram. -/
def udpMds : ℕ := (1450 - 20 - 8) / 8 * 8

inductive TaiFsmStates where
  | idle | drgmData | drgmMeta | strmData | strmMeta
  deriving DecidableEq, Repr

/-- The registers and streams. No step reads `taken`, the data that was taken for each item of
meta-data. -/
structure Tai where
  taiFsmState : TaiFsmStates := .idle
  taiStreamMode : Bool := false
  taiAppMeta : UdpAppMeta := {}
  taiAppDLen : UdpAppDLen := 0
  taiSplitCnt : UdpAppDLen := 0
  siUAIFData : List AxisRaw := []
  siUAIFMeta : List UdpAppMeta := []
  siUAIFDLen : List UdpAppDLen := []
  soTdhData : List AxisRaw := []
  soTdhMeta : List UdpAppMeta := []
  soTdhDLen : List UdpAppDLen := []
  taken : List (Frame (UdpAppMeta × UdpAppDLen) AxisRaw) := []

/-- `piMMIO_En`, and which of the output streams have room. -/
structure TaiCall where
  mmioEn : Bool := true
  tdhDataRoom : Bool := true
  tdhMetaRoom : Bool := true
  tdhDLenRoom : Bool := true
  deriving DecidableEq

section Process

variable (s : Tai)

/-- `FSM_TAI_IDLE`. -/
def taiIdle (appMeta : UdpAppMeta) (metas : List UdpAppMeta) (appDLen : UdpAppDLen)
    (dLens : List UdpAppDLen) : Tai :=
  { s with
    siUAIFMeta := metas
    siUAIFDLen := dLens
    taiAppMeta := appMeta
    taiAppDLen := appDLen
    taiStreamMode := appDLen = 0
    taiFsmState := if appDLen = 0 then .strmData else .drgmData
    taiSplitCnt := 0
    taken := Frame.start s.taken (appMeta, appDLen) }

/-- The chunk of a packet is taken, and forwarded with `tlast` if a datagram ends with it. -/
def taiChunk (currChunk : AxisRaw) (data : List AxisRaw) (ends : Bool) : Tai :=
  { s with
    siUAIFData := data
    taiAppDLen := s.taiAppDLen - BitVec.ofNat 16 currChunk.getLen
    taiSplitCnt := s.taiSplitCnt + BitVec.ofNat 16 currChunk.getLen
    soTdhData := s.soTdhData ++ [{ currChunk with tlast := currChunk.tlast || ends }]
    taken := Frame.push s.taken currChunk }

/-- The largest datagram is full with the chunk. -/
def Full (currChunk : AxisRaw) : Prop :=
  (s.taiSplitCnt + BitVec.ofNat 16 currChunk.getLen).toNat = udpMds

instance (currChunk : AxisRaw) : Decidable (Full s currChunk) := inferInstanceAs (Decidable (_ = _))

/-- `FSM_TAI_DRGM_DATA`. -/
def taiDrgmData (currChunk : AxisRaw) (data : List AxisRaw) : Tai :=
  if s.taiAppDLen - BitVec.ofNat 16 currChunk.getLen = 0 ∨ Full s currChunk then
    { taiChunk s currChunk data true with taiFsmState := .drgmMeta }
  else taiChunk s currChunk data false

/-- `FSM_TAI_STRM_DATA`. -/
def taiStrmData (currChunk : AxisRaw) (data : List AxisRaw) : Tai :=
  if currChunk.tlast then
    { taiChunk s currChunk data false with taiStreamMode := false, taiFsmState := .strmMeta }
  else if Full s currChunk then
    { taiChunk s currChunk data true with taiFsmState := .strmMeta }
  else taiChunk s currChunk data false

/-- The meta-data of a datagram. The packet goes on unless this was its last one. -/
def taiMeta (ends : Bool) (next : TaiFsmStates) : Tai :=
  { s with
    soTdhMeta := s.soTdhMeta ++ [s.taiAppMeta]
    soTdhDLen := s.soTdhDLen ++ [s.taiSplitCnt]
    taiFsmState := if ends then .idle else next
    taiSplitCnt := if ends then s.taiSplitCnt else 0 }

/-- One call. -/
def pTxApplicationInterface (k : TaiCall) : Tai :=
  match s.taiFsmState with
  | .idle =>
      match s.siUAIFMeta, s.siUAIFDLen with
      | appMeta :: metas, appDLen :: dLens =>
          if k.mmioEn then taiIdle s appMeta metas appDLen dLens else s
      | _, _ => s
  | .drgmData =>
      match s.siUAIFData with
      | currChunk :: data => if k.tdhDataRoom then taiDrgmData s currChunk data else s
      | [] => s
  | .drgmMeta =>
      if k.tdhMetaRoom && k.tdhDLenRoom then taiMeta s (s.taiAppDLen = 0) .drgmData else s
  | .strmData =>
      match s.siUAIFData with
      | currChunk :: data => if k.tdhDataRoom then taiStrmData s currChunk data else s
      | [] => s
  | .strmMeta =>
      if k.tdhMetaRoom && k.tdhDLenRoom then taiMeta s (!s.taiStreamMode) .strmData else s

end Process

end CloudFpga.Uoe
