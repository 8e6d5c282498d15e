import CloudFpga.Toe.Types

/-!
The meta-data handler of the Rx engine, `pMetaDataHandler` of `rx_engine.cpp`.

The process has two states. In `MDH_META` it reads the meta-data of a segment with the status of
its destination port; when the port is open it requests a session lookup and in `MDH_LOOKUP`
waits for the reply. `pMetaDataHandler` is what it writes for one segment.
-/

namespace CloudFpga.Toe

/-- What the process writes on its output streams. -/
structure MdhOut where
  sessLkpReq : List SessionLookupQuery := []
  event : List ExtendedEvent := []
  tsdDropCmd : List CmdBit := []
  fsmMeta : List RXeFsmMeta := []
  deriving DecidableEq, Repr

/-- The socket pair with the bytes of each field swapped. -/
def leSocketPair (p : SocketPair) : SocketPair :=
  ⟨⟨byteSwap32 p.src.addr, byteSwap16 p.src.port⟩, ⟨byteSwap32 p.dst.addr, byteSwap16 p.dst.port⟩⟩

/-- `MDH_META` with a closed port: unless the segment is a reset, a RST+ACK is sent back to its
source. -/
def mdhClosedPort (m : RXeMeta) (p : SocketPair) : MdhOut where
  event :=
    if ¬m.rst then
      let switchedTuple := leSocketPair ⟨p.dst, p.src⟩
      if m.syn ∨ m.fin then
        [⟨rstEventNoSession (m.seqNumb + m.length.setWidth 32 + 1), switchedTuple⟩]
      else [⟨rstEventNoSession (m.seqNumb + m.length.setWidth 32), switchedTuple⟩]
    else []
  tsdDropCmd := if m.length ≠ 0 then [cmdDrop] else []

/-- `MDH_META` with an open port: a SYN or SYN+ACK may create the session. -/
def mdhOpenPort (m : RXeMeta) (p : SocketPair) : MdhOut where
  sessLkpReq := [⟨leSocketPair p, m.syn && !m.rst && !m.fin⟩]

/-- `MDH_LOOKUP`. -/
def mdhLookup (m : RXeMeta) (p : SocketPair) (rep : SessionLookupReply) : MdhOut where
  fsmMeta :=
    if rep.hit then
      [{ m with
          sessionId := rep.sessionID
          ip4SrcAddr := p.src.addr
          tcpSrcPort := p.src.port
          tcpDstPort := p.dst.port }]
    else []
  tsdDropCmd := if m.length ≠ 0 then [!rep.hit] else []

/-- What the process writes for one segment. `rep` is the reply to the lookup, which is only
read when the port is open. -/
def pMetaDataHandler (portOpen : Bool) (m : RXeMeta) (p : SocketPair)
    (rep : SessionLookupReply) : MdhOut :=
  if portOpen then
    { mdhLookup m p rep with sessLkpReq := (mdhOpenPort m p).sessLkpReq }
  else mdhClosedPort m p

section Facts

variable (portOpen : Bool) (m : RXeMeta) (p : SocketPair) (rep : SessionLookupReply)

/-- The handler writes one command for a segment with payload and none for any other; it keeps
the payload exactly when it hands the segment to the state machine. -/
lemma tsdDropCmd_pMetaDataHandler : (pMetaDataHandler portOpen m p rep).tsdDropCmd
    = if m.length ≠ 0 then [!(portOpen && rep.hit)] else [] := by
  cases portOpen <;> rfl

lemma fsmMeta_pMetaDataHandler : (pMetaDataHandler portOpen m p rep).fsmMeta
    = if portOpen && rep.hit then
        [{ m with
            sessionId := rep.sessionID
            ip4SrcAddr := p.src.addr
            tcpSrcPort := p.src.port
            tcpDstPort := p.dst.port }]
      else [] := by
  cases portOpen <;> rfl

end Facts

end CloudFpga.Toe
