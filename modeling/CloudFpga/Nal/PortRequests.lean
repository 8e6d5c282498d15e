import CloudFpga.Nal.Types
import CloudFpga.Uoe.PortTable

/-!
The processes that ask the UOE and the TOE to open and close ports.

* `pUdpLsn` (`uss.cpp`) and `pTcpLsn` (`tss.cpp`): they differ in the delay at the start only.
* `pUdpCls` (`uss.cpp`).
-/

namespace CloudFpga.Nal

open Uoe

inductive LsnFsmStates where
  | idle | sendReq | waitAck
  deriving DecidableEq, Repr

/-- The registers and input streams of `pUdpLsn` or `pTcpLsn`. No step reads the port that comes with
an acknowledgment, for which it is, nor `acks`: the port that was waited for and this one. -/
structure Lsn where
  lsnFsmState : LsnFsmStates := .idle
  startupDelay : BitVec 16
  watchDogTimerPlisten : BitVec 8 := 0
  newAbsolutePort : BitVec 16 := 0
  sPortsToOpen : List (BitVec 16) := []
  siLsnRep : List (BitVec 16 × Bool) := []
  acks : List (BitVec 16 × BitVec 16) := []
  deriving DecidableEq

/-- What a call writes. -/
structure LsnOut where
  soLsnReq : List (BitVec 16) := []
  sPortsOpenFeedback : List Bool := []
  deriving DecidableEq

/-- Which output streams have room. -/
structure LsnCall where
  lsnReqRoom : Bool := true
  feedbackRoom : Bool := true
  deriving DecidableEq

/-- The time for which an acknowledgment is waited for. -/
def watchDogStart : Build → BitVec 8
  | .simulation => 10
  | .synthesis => 100

section Listen

variable (b : Build) (s : Lsn) (k : LsnCall)

/-- `LSN_IDLE`. -/
def lsnIdle : Lsn :=
  if 0 < s.startupDelay then { s with startupDelay := s.startupDelay - 1 }
  else { s with lsnFsmState := .sendReq }

/-- `LSN_SEND_REQ`. -/
def lsnSendReq : Lsn × LsnOut :=
  match s.sPortsToOpen with
  | port :: ports =>
      if k.lsnReqRoom then
        ({ s with
            sPortsToOpen := ports
            newAbsolutePort := port
            watchDogTimerPlisten := watchDogStart b
            lsnFsmState := .waitAck },
          { soLsnReq := [port] })
      else (s, {})
  | [] => (s, {})

/-- `LSN_WAIT_ACK`: when the time is over, the port counts as not opened. -/
def lsnWaitAck : Lsn × LsnOut :=
  match s.siLsnRep, k.feedbackRoom with
  | (port, listenDone) :: reps, true =>
      ({ s with
          siLsnRep := reps
          acks := s.acks ++ [(s.newAbsolutePort, port)]
          lsnFsmState := .sendReq },
        { sPortsOpenFeedback := [listenDone] })
  | _, _ =>
      if s.watchDogTimerPlisten = 0 ∧ k.feedbackRoom = true then
        ({ s with lsnFsmState := .sendReq }, { sPortsOpenFeedback := [false] })
      else ({ s with watchDogTimerPlisten := s.watchDogTimerPlisten - 1 }, {})

/-- One call of either process. -/
def lsnCall : Lsn × LsnOut :=
  match s.lsnFsmState with
  | .idle => (lsnIdle s, {})
  | .sendReq => lsnSendReq b s k
  | .waitAck => lsnWaitAck s k

end Listen

/-- `pUdpLsn` at the start. The guard for the device is misspelt there, so that it has the same delay
as the simulation. -/
def udpLsnInit : Lsn := { startupDelay := 10 }

def pUdpLsn (b : Build) (s : Lsn) (k : LsnCall) : Lsn × LsnOut := lsnCall b s k

/-- `pTcpLsn` at the start. -/
def tcpLsnInit : Lsn := { startupDelay := 5 }

def pTcpLsn (b : Build) (s : Lsn) (k : LsnCall) : Lsn × LsnOut := lsnCall b s k

/-! ### Closing -/

inductive ClsFsmStates where
  | idle | next | wait4Resp
  deriving DecidableEq, Repr

/-- The registers and input streams of `pUdpCls`. -/
structure UdpCls where
  clsFsmStateUdp : ClsFsmStates := .idle
  newAbsolutePortToClose : UdpPort := 0
  sUdpPortsToClose : List UdpPort := []
  siUOEClsRep : List Bool := []
  deriving DecidableEq

/-- One call of `pUdpCls`, with what it writes to the UOE. -/
def pUdpCls (s : UdpCls) (clsReqRoom : Bool) : UdpCls × List UdpPort :=
  match s.clsFsmStateUdp with
  | .idle | .next =>
      match s.sUdpPortsToClose, clsReqRoom with
      | port :: ports, true =>
          ({ s with
              sUdpPortsToClose := ports
              newAbsolutePortToClose := port
              clsFsmStateUdp := .wait4Resp }, [port])
      | _, _ => ({ s with clsFsmStateUdp := .next }, [])
  | .wait4Resp =>
      match s.siUOEClsRep with
      | _ :: reps => ({ s with siUOEClsRep := reps, clsFsmStateUdp := .next }, [])
      | [] => (s, [])

end CloudFpga.Nal
