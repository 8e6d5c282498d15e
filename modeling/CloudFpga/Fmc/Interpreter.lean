import CloudFpga.Fmc.Response
import CloudFpga.Fmc.RoutingTable
import CloudFpga.Foundation.GuardedProgram

/-!
The plan interpreter of the FMC: its global operations, their programs and the execution of a plan.

* `FmcCall`: what one call of the FMC reads, and the outcomes of the parts that the programs only
  look at (`copyAndCheckBurst`, `extract_path`, the state machines of the TCP streams).
* `FmcRegs`: the registers of the global operations, with a history of the current one.
* `Opcode`, `Instr`, `interpreter`: the instructions with their masks.
* `firstRunXmem`, `configXmem`, ...: the programs; `makePlan`, `fmc`: one call.
-/

namespace CloudFpga.Fmc.Plan

open Nal Http
open Foundation

/-! ### Registers -/

/-- `GlobalState`, without the operations of the Pyrolink, which is not included. -/
inductive GlobalState where
  | idle | xmemCheckPattern | xmemToHwicap | xmemHttp | tcpHttp | manualDecoupling
  deriving DecidableEq, Repr

/-- `IcapFsmState`. `ICAP_FSM_RESET` goes on to `ICAP_FSM_IDLE` in the same call. -/
inductive IcapFsmState where
  | idle | write | done | error | drain
  deriving DecidableEq, Repr

/-- The results of `copyAndCheckBurst`: `UTD`, `INV`, `CMM`, `COR`, `SUC` and ` OK`. -/
inductive CopyRet where
  | upToDate | invalid | counterMismatch | corrupt | lastPage | page
  deriving DecidableEq, Repr

/-- The results of `extract_path`, with the type of the request that goes with them. -/
inductive PathResult where
  | nothing | notComplete | malformed | invalidRank | invalidSize | notFound
  | getStatus | postConfig | putRank | putSize | postRouting
  deriving DecidableEq, Repr

/-- How `OP_BUFFER_TO_ROUTING` ends. -/
inductive RoutingRet where
  | stored | invalid | notComplete | disabled
  deriving DecidableEq, Repr

/-- How `OP_FILL_BUFFER_TCP` and `OP_SEND_BUFFER_TCP` end. -/
inductive TcpRet where
  | notComplete | ok | done
  deriving DecidableEq, Repr

/-- The return value. -/
@[simp] def TcpRet.oprv : TcpRet → Oprv
  | .notComplete => .notComplete
  | .ok => .ok
  | .done => .done

/-- What a call reads. -/
structure FmcCall where
  -- the command word
  resetFromPsoc : Bool := false
  tcpModeStart : Bool := false
  parseHTTP : Bool := false
  startXmemTrans : Bool := false
  checkPattern : Bool := false
  manuallyToDecoup : Bool := false
  -- the registers of HWICAP
  wasAbort : Bool := false
  eos : Bool := true
  icapReady : Bool := true
  -- the state machine behind the FIFO: it writes a word, it finds the end of the data
  fifoWord : Bool := false
  fifoEnd : Bool := false
  -- `OP_BUFFER_TO_HWICAP`: it writes a word, it moves the read pointer
  bufferWord : Bool := false
  bufferMoves : Bool := false
  copyRet : List CopyRet := []
  path : PathResult := .nothing
  onePayloadByte : Bool := false
  routing : RoutingRet := .notComplete
  -- the state machines of the TCP streams: a session has arrived, data have arrived, the session and
  -- the data of the response are sent, and one of the two is under way
  session : Bool := false
  fillTcp : TcpRet := .notComplete
  sessionSent : Bool := false
  sendTcp : TcpRet := .notComplete
  txBusy : Bool := false
  deriving DecidableEq

/-- What the current operation has done: it has changed something, it has carried its request out, its
payload or its transfer has failed, and it has written a word of a configuration. `unfinished` spans
operations: words of a configuration were written that was not written up to its end. -/
structure History where
  changed : Bool := false
  carriedOut : Bool := false
  failed : Bool := false
  wrote : Bool := false
  unfinished : Bool := false
  deriving DecidableEq

structure FmcRegs where
  currentGlobalOperation : GlobalState := .idle
  globalOperationDone : Bool := false
  transferError : Bool := false
  invalidPayload : Bool := false
  lastXmemPageReceived : Bool := false
  toDecoup : Bool := false
  setDecoup : Bool := false
  httpState : HttpState := .idle
  reqType : ReqType := .invalid
  fsmHwicap : IcapFsmState := .idle
  tcpSessIdUpdated : Bool := false
  /-- The status codes of the responses in `bufferOut`. -/
  responses : List ℕ := []
  history : History := {}
  deriving DecidableEq

/-- A plan in execution. `wasAbort` is a variable of the call, and `copyRet` holds the results of the
next bursts. -/
structure Exec where
  regs : FmcRegs
  lastReturnValue : Oprv := .ok
  silentSkip : Bool := false
  wasAbort : Bool := false
  copyRet : List CopyRet := []
  deriving DecidableEq

/-! ### Return values -/

/-- The bit of a return value. -/
def oprvCode : Oprv → BitVec 8
  | .ok => 0x1
  | .fail => 0x2
  | .skipped => 0x4
  | .notComplete => 0x8
  | .partialComplete => 0x10
  | .done => 0x20
  | .user => 0x40

/-- The bit of a request type. -/
def reqTypeCode : ReqType → BitVec 8
  | .invalid => 0x01
  | .postConfig => 0x02
  | .getStatus => 0x40
  | .putRank => 0x08
  | .putSize => 0x10
  | .postRouting => 0x20

/-- `OP_COPY_REQTYPE_TO_RETURN`: every request type has the bit of a return value. -/
@[simp] def reqTypeToReturn : ReqType → Oprv
  | .invalid => .ok
  | .postConfig => .fail
  | .getStatus => .user
  | .putRank => .notComplete
  | .putSize => .partialComplete
  | .postRouting => .done

lemma oprvCode_reqTypeToReturn (t : ReqType) : oprvCode (reqTypeToReturn t) = reqTypeCode t := by
  cases t <;> rfl

/-- A mask, as the return values whose bits are set. -/
abbrev Mask := List Oprv

/-- `MASK_ALWAYS`. -/
def maskAlways : Mask := [.ok, .fail, .skipped, .notComplete, .partialComplete, .done, .user]

/-- The mask of a request type. -/
@[simp] def maskOf (t : ReqType) : Mask := [reqTypeToReturn t]

/-- The bits of a mask. -/
def maskCode (mask : Mask) : BitVec 8 := mask.foldr (fun v c => oprvCode v ||| c) 0

/-- The test of the interpreter: `currentMask & lastReturnValue` is not zero. -/
lemma maskCode_and (mask : Mask) (v : Oprv) : maskCode mask &&& oprvCode v ≠ 0 ↔ v ∈ mask := by
  induction mask with
  | nil => simp [maskCode]
  | cons w mask ih =>
      have hbit : oprvCode w &&& oprvCode v ≠ 0 ↔ v = w := by cases w <;> cases v <;> decide
      have hor : maskCode (w :: mask) &&& oprvCode v =
          oprvCode w &&& oprvCode v ||| maskCode mask &&& oprvCode v :=
        BitVec.and_or_distrib_right
      rw [hor, List.mem_cons, ← hbit, ← ih, ← not_and_or]
      exact not_congr BitVec.or_eq_zero_iff

/-! ### Instructions -/

/-- The opcodes of the programs. -/
inductive Opcode where
  | enableXmemCheckPattern | xmemCopyData | fillBufferTcp | waitForTcpSess | handleHttp
  | updateHttpState | copyReqtypeToReturn | bufferToHwicap | fifoToHwicap
  | bufferToRouting | clearRoutingTable | sendBufferXmem | sendTcpSess | sendBufferTcp
  | clearInBuffer | clearOutBuffer | tcpCntReset | activateContTcp
  | deactivateContTcp | tcpRxStopOnEop | activateDecoup | deactivateDecoup | abortHwicap
  | enableSilentSkip | disableSilentSkip | fail | done | ok | exit
  deriving DecidableEq, Repr

/-- An entry of `opcodeProgram` and the one of `programMask`. -/
structure Instr where
  opcode : Opcode
  mask : Mask
  deriving DecidableEq

namespace Exec

variable (c : FmcCall) (e : Exec)

/-- The return value of an instruction. -/
@[simp] def returns (v : Oprv) : Exec := { e with lastReturnValue := v }

/-- Something other than the response was changed. -/
@[simp] def changes : Exec := { e with regs.history.changed := true }

/-- The payload or the transfer has failed. -/
@[simp] def fails : Exec := { e with regs.history.failed := true }

/-- A response is written to `bufferOut`. -/
@[simp] def answers (status : ℕ) : Exec := { e with regs.responses := e.regs.responses ++ [status] }

/-- `OP_XMEM_COPY_DATA`. -/
@[simp] def xmemCopyData : Exec :=
  let ret := e.copyRet.head?.getD .upToDate
  let e' := { e with
    copyRet := e.copyRet.tail
    regs.lastXmemPageReceived := decide (ret = CopyRet.lastPage) }
  match ret with
  | .upToDate => e'.returns .notComplete
  | .invalid => e'.returns .partialComplete
  | .counterMismatch => e'.fails.returns .fail
  | .corrupt => e'.fails.returns .fail
  | .lastPage => e'.returns .done
  | .page => e'.returns .ok

/-- `OP_WAIT_FOR_TCP_SESS`. -/
@[simp] def waitForTcpSess : Exec :=
  if e.regs.tcpSessIdUpdated then e.returns .ok
  else if c.session then { e with regs.tcpSessIdUpdated := true }.returns .ok
  else e.returns .notComplete

/-- `OP_FILL_BUFFER_TCP`. -/
@[simp] def fillBufferTcp : Exec := e.returns c.fillTcp.oprv

/-- The header, as `extract_path` finds it. A rank and a size are stored at once, and for a status
there is nothing to do. -/
@[simp] def parseHeader : Exec :=
  match c.path with
  | .nothing => e
  | .notComplete => { e with regs.reqType := .invalid, regs.httpState := .parseHeader }
  | .malformed => { e with regs.reqType := .invalid, regs.httpState := .invalidRequest }.answers 400
  | .invalidRank => { e with regs.reqType := .putRank, regs.httpState := .invalidRequest }.answers 400
  | .invalidSize => { e with regs.reqType := .putSize, regs.httpState := .invalidRequest }.answers 400
  | .notFound => { e with regs.reqType := .invalid, regs.httpState := .invalidRequest }.answers 404
  | .getStatus =>
      { e with
        regs.reqType := .getStatus
        regs.httpState := .sendResponse
        regs.history.carriedOut := true }
  | .postConfig => { e with regs.reqType := .postConfig, regs.httpState := .headerParsed }
  | .putRank =>
      { e with
        regs.reqType := .putRank
        regs.httpState := .sendResponse
        regs.history.changed := true
        regs.history.carriedOut := true }
  | .putSize =>
      { e with
        regs.reqType := .putSize
        regs.httpState := .sendResponse
        regs.history.changed := true
        regs.history.carriedOut := true }
  | .postRouting => { e with regs.reqType := .postRouting, regs.httpState := .headerParsed }

/-- The status of a response, without the requests that were refused before. -/
@[simp] def responseStatus : ℕ :=
  if e.wasAbort then 500 else if e.regs.transferError ∨ e.regs.invalidPayload then 422 else 200

/-- `HTTP_SEND_RESPONSE`. -/
@[simp] def sendResponse : Exec := e.answers e.responseStatus

/-- `parseHttpInput`. -/
@[simp] def parseHttpInput : Exec :=
  match e.regs.httpState with
  | .idle | .parseHeader => e.parseHeader c
  | .headerParsed => { e with regs.httpState := .readPayload }
  | .requestComplete | .sendResponse => { e.sendResponse with regs.httpState := .done }
  | .readPayload | .invalidRequest | .done => e

/-- `OP_HANDLE_HTTP`. -/
@[simp] def handleHttp : Exec :=
  let e := e.parseHttpInput c
  match e.regs.httpState with
  | .idle => e.returns .ok
  | .parseHeader => e.returns .ok
  | .headerParsed =>
      -- the corner case `bufferInPtrMaxWrite == bufferInPtrNextRead`
      if c.onePayloadByte then { e with regs.httpState := .readPayload }.returns .notComplete
      else e.returns .partialComplete
  | .readPayload => e.returns .partialComplete
  | .requestComplete => { e with regs.httpState := .sendResponse }.returns .user
  | .sendResponse => e.returns .user
  | .invalidRequest => e.returns .done
  | .done => e.returns .done

/-- `OP_UPDATE_HTTP_STATE`. -/
@[simp] def updateHttpState : Exec :=
  let invalidPayload := e.regs.invalidPayload || decide (e.lastReturnValue = .fail)
  let error := e.wasAbort || e.regs.transferError || invalidPayload
  let httpState := if error then .sendResponse else e.regs.httpState
  { e with
    regs.invalidPayload := invalidPayload
    regs.httpState := if e.lastReturnValue = .done then .requestComplete else httpState
    lastReturnValue := .ok }

/-- A configuration was written up to its end. One without a word does not finish another one. -/
@[simp] def completes : Exec :=
  { e with
    regs.history.carriedOut := true
    regs.history.unfinished := e.regs.history.unfinished && !e.regs.history.wrote }

/-- A word of a configuration. -/
@[simp] def writesWord (b : Bool) : Exec :=
  { e with
    regs.history.changed := e.regs.history.changed || b
    regs.history.wrote := e.regs.history.wrote || b
    regs.history.unfinished := e.regs.history.unfinished || b }

/-- `OP_BUFFER_TO_HWICAP`, outside `GLOBAL_TCP_HTTP`. -/
@[simp] def bufferToHwicap : Exec :=
  if c.eos then
    let e' := e.writesWord c.bufferWord
    if e.lastReturnValue = .done ∨ e.regs.lastXmemPageReceived then e'.completes.returns .done
    else if c.bufferMoves then e'.returns .ok
    else e'.returns .notComplete
  else e.fails.returns .fail

/-- `OP_FIFO_TO_HWICAP`. -/
@[simp] def fifoToHwicap : Exec :=
  match e.regs.fsmHwicap with
  | .idle => { e with regs.fsmHwicap := .write }.returns .notComplete
  | .done =>
      if c.icapReady then { e with regs.fsmHwicap := .idle }.completes.returns .done
      else e.returns .notComplete
  | .error => { e with regs.fsmHwicap := .drain }.fails.returns .fail
  | .drain => e.fails.returns .fail
  | .write => e.returns .ok

/-- `OP_BUFFER_TO_ROUTING`. -/
@[simp] def bufferToRouting : Exec :=
  match c.routing with
  | .stored => { e.changes with regs.history.carriedOut := true }.returns .done
  | .invalid => { e.changes.fails with regs.invalidPayload := true }.returns .done
  | .notComplete => e.changes.returns .notComplete
  | .disabled => { e.fails with regs.transferError := true }.returns .fail

/-- The instructions that pass `OPRV_DONE` on. -/
@[simp] def passesDone (v : Oprv) : Exec := if e.lastReturnValue = .done then e else e.returns v

/-- `OP_SEND_TCP_SESS`. -/
@[simp] def sendTcpSess : Exec :=
  if e.regs.tcpSessIdUpdated then
    if c.sessionSent then { e with regs.tcpSessIdUpdated := false }.passesDone .ok
    else e.passesDone .notComplete
  else e.passesDone .ok

/-- `OP_CLEAR_IN_BUFFER`: the FIFO is emptied and its state machine stopped. An operation starts with
it. -/
@[simp] def clearInBuffer : Exec :=
  { e with
    regs.fsmHwicap := .idle
    regs.history.changed := false
    regs.history.wrote := false }.returns .ok

/-- The effect of an opcode. -/
@[simp] def step : Opcode → Exec
  | .enableXmemCheckPattern => e.returns .ok
  | .xmemCopyData => e.xmemCopyData
  | .fillBufferTcp => e.fillBufferTcp c
  | .waitForTcpSess => e.waitForTcpSess c
  | .handleHttp => e.handleHttp c
  | .updateHttpState => e.updateHttpState
  | .copyReqtypeToReturn => e.returns (reqTypeToReturn e.regs.reqType)
  | .bufferToHwicap => e.bufferToHwicap c
  | .fifoToHwicap => e.fifoToHwicap c
  | .bufferToRouting => e.bufferToRouting c
  | .clearRoutingTable => e.changes
  | .sendBufferXmem => e.passesDone .ok
  | .sendTcpSess => e.sendTcpSess c
  | .sendBufferTcp => e.passesDone c.sendTcp.oprv
  | .clearInBuffer => e.clearInBuffer
  | .clearOutBuffer => { e with regs.responses := [] }.returns .ok
  | .tcpCntReset => e
  | .activateContTcp => e
  | .deactivateContTcp => e
  | .tcpRxStopOnEop => e
  | .activateDecoup => { e with regs.toDecoup := true }.returns .ok
  | .deactivateDecoup => { e with regs.toDecoup := false }.passesDone .ok
  | .abortHwicap => { e with regs.transferError := true, wasAbort := true }.returns .ok
  | .enableSilentSkip => { e with silentSkip := true }
  | .disableSilentSkip => { e with silentSkip := false }
  | .fail => e.returns .fail
  | .done => e.returns .done
  | .ok => e.returns .ok
  | .exit => e

end Exec

/-- The interpreter in a call. -/
def interpreter (c : FmcCall) : GuardedMachine Instr Exec where
  enabled i e := i.mask.contains e.lastReturnValue
  exits i := i.opcode = .exit
  step i e := e.step c i.opcode
  skip e := if e.silentSkip then e else e.returns .skipped

section Run

variable {c : FmcCall} {e : Exec}

@[simp] lemma mem_maskAlways (v : Oprv) : v ∈ maskAlways := by
  cases v <;> decide

@[simp] lemma run_nil : (interpreter c).run [] e = e := rfl

@[simp] lemma run_cons (op : Opcode) (mask : Mask) (p : List Instr) :
    (interpreter c).run (⟨op, mask⟩ :: p) e =
      if mask.contains e.lastReturnValue then
        if op = .exit then e else (interpreter c).run p (e.step c op)
      else (interpreter c).run p (if e.silentSkip then e else e.returns .skipped) := by
  rw [GuardedMachine.run]
  simp only [interpreter, decide_eq_true_eq]

end Run

/-! ### Programs -/

/-- `GLOBAL_XMEM_CHECK_PATTERN`. -/
def xmemCheckPatternProgram : List Instr :=
  [⟨.enableXmemCheckPattern, maskAlways⟩, ⟨.xmemCopyData, maskAlways⟩] ++
    List.replicate 15 ⟨.xmemCopyData, [.ok, .partialComplete, .notComplete]⟩ ++
    [⟨.done, [.skipped]⟩]

/-- `GLOBAL_XMEM_TO_HWICAP`. -/
def xmemToHwicapProgram : List Instr :=
  [⟨.activateDecoup, maskAlways⟩, ⟨.xmemCopyData, maskAlways⟩, ⟨.enableSilentSkip, maskAlways⟩,
   ⟨.bufferToHwicap, [.done, .ok]⟩, ⟨.exit, [.ok, .notComplete]⟩, ⟨.deactivateDecoup, [.done]⟩,
   ⟨.clearRoutingTable, [.done]⟩, ⟨.exit, [.done]⟩, ⟨.disableSilentSkip, maskAlways⟩,
   ⟨.abortHwicap, [.fail]⟩, ⟨.fail, [.ok]⟩, ⟨.exit, [.fail]⟩]

/-- `GLOBAL_XMEM_HTTP`, a routing table goes on. -/
def xmemRoutingProgram : List Instr :=
  [⟨.enableSilentSkip, maskAlways⟩, ⟨.xmemCopyData, maskAlways⟩,
   ⟨.exit, [.notComplete, .partialComplete, .fail]⟩, ⟨.bufferToRouting, [.done, .ok]⟩,
   ⟨.exit, [.notComplete]⟩, ⟨.updateHttpState, [.done, .fail]⟩, ⟨.disableSilentSkip, maskAlways⟩,
   ⟨.handleHttp, [.ok]⟩, ⟨.sendBufferXmem, [.done]⟩]

/-- `GLOBAL_XMEM_HTTP`, a configuration goes on. -/
def xmemConfigProgram : List Instr :=
  [⟨.enableSilentSkip, maskAlways⟩, ⟨.xmemCopyData, maskAlways⟩,
   ⟨.exit, [.notComplete, .partialComplete, .fail]⟩, ⟨.bufferToHwicap, [.done, .ok]⟩,
   ⟨.exit, [.ok, .notComplete]⟩, ⟨.disableSilentSkip, maskAlways⟩, ⟨.abortHwicap, [.fail]⟩,
   ⟨.updateHttpState, [.ok]⟩, ⟨.handleHttp, [.ok]⟩, ⟨.sendBufferXmem, [.done]⟩, ⟨.fail, [.ok]⟩,
   ⟨.exit, [.fail]⟩, ⟨.deactivateDecoup, [.skipped]⟩, ⟨.clearRoutingTable, [.ok]⟩, ⟨.done, [.ok]⟩,
   ⟨.updateHttpState, [.done]⟩, ⟨.handleHttp, [.ok]⟩, ⟨.sendBufferXmem, [.done]⟩]

/-- `GLOBAL_XMEM_HTTP`, the first run. -/
def xmemFirstProgram : List Instr :=
  [⟨.xmemCopyData, maskAlways⟩, ⟨.enableSilentSkip, maskAlways⟩,
   ⟨.exit, [.notComplete, .partialComplete, .fail]⟩, ⟨.handleHttp, [.done, .ok]⟩,
   ⟨.handleHttp, [.user]⟩, ⟨.sendBufferXmem, [.done]⟩, ⟨.exit, [.done]⟩,
   ⟨.disableSilentSkip, maskAlways⟩, ⟨.copyReqtypeToReturn, [.partialComplete]⟩,
   ⟨.enableSilentSkip, maskAlways⟩, ⟨.exit, [.skipped]⟩, ⟨.disableSilentSkip, maskAlways⟩,
   ⟨.bufferToRouting, maskOf .postRouting⟩, ⟨.updateHttpState, [.done, .fail]⟩,
   ⟨.handleHttp, [.ok]⟩, ⟨.sendBufferXmem, [.done]⟩, ⟨.exit, [.done]⟩,
   ⟨.copyReqtypeToReturn, [.skipped]⟩, ⟨.ok, maskOf .postRouting⟩, ⟨.exit, [.ok]⟩,
   ⟨.activateDecoup, [.skipped]⟩, ⟨.bufferToHwicap, [.ok]⟩, ⟨.enableSilentSkip, maskAlways⟩,
   ⟨.exit, [.ok, .notComplete]⟩, ⟨.deactivateDecoup, [.done]⟩, ⟨.clearRoutingTable, [.done]⟩,
   ⟨.updateHttpState, [.done]⟩, ⟨.handleHttp, [.ok]⟩, ⟨.sendBufferXmem, [.done]⟩, ⟨.exit, [.done]⟩,
   ⟨.disableSilentSkip, maskAlways⟩, ⟨.abortHwicap, [.fail]⟩, ⟨.updateHttpState, [.ok]⟩,
   ⟨.handleHttp, [.ok]⟩, ⟨.sendBufferXmem, [.done]⟩, ⟨.fail, [.done]⟩, ⟨.exit, [.fail]⟩,
   ⟨.ok, [.skipped]⟩]

/-- `GLOBAL_TCP_HTTP`, a routing table goes on. -/
def tcpRoutingProgram : List Instr :=
  [⟨.enableSilentSkip, maskAlways⟩, ⟨.fillBufferTcp, maskAlways⟩,
   ⟨.exit, [.notComplete, .partialComplete, .fail]⟩, ⟨.bufferToRouting, [.done, .ok]⟩,
   ⟨.exit, [.notComplete]⟩, ⟨.updateHttpState, [.done, .fail]⟩, ⟨.disableSilentSkip, maskAlways⟩,
   ⟨.handleHttp, [.ok]⟩, ⟨.sendTcpSess, [.done]⟩, ⟨.deactivateContTcp, [.done]⟩,
   ⟨.sendBufferTcp, [.done]⟩]

/-- `GLOBAL_TCP_HTTP`, a configuration goes on. -/
def tcpConfigProgram : List Instr :=
  [⟨.enableSilentSkip, maskAlways⟩, ⟨.fifoToHwicap, maskAlways⟩, ⟨.exit, [.ok, .notComplete]⟩,
   ⟨.disableSilentSkip, maskAlways⟩, ⟨.abortHwicap, [.fail]⟩, ⟨.updateHttpState, [.ok]⟩,
   ⟨.handleHttp, [.ok]⟩, ⟨.sendTcpSess, [.done]⟩, ⟨.sendBufferTcp, [.done]⟩, ⟨.fail, [.ok]⟩,
   ⟨.exit, [.fail]⟩, ⟨.deactivateDecoup, [.skipped]⟩, ⟨.clearRoutingTable, [.ok]⟩, ⟨.done, [.ok]⟩,
   ⟨.updateHttpState, [.done]⟩, ⟨.handleHttp, [.ok]⟩, ⟨.sendTcpSess, [.done]⟩,
   ⟨.deactivateContTcp, [.done]⟩, ⟨.sendBufferTcp, [.done]⟩, ⟨.exit, [.done]⟩]

/-- `GLOBAL_TCP_HTTP`, the first run. -/
def tcpFirstProgram : List Instr :=
  [⟨.fillBufferTcp, maskAlways⟩, ⟨.enableSilentSkip, maskAlways⟩,
   ⟨.exit, [.notComplete, .partialComplete, .fail]⟩, ⟨.handleHttp, [.done, .ok]⟩,
   ⟨.handleHttp, [.user]⟩, ⟨.sendTcpSess, [.done]⟩, ⟨.sendBufferTcp, [.done]⟩, ⟨.exit, [.done]⟩,
   ⟨.disableSilentSkip, maskAlways⟩, ⟨.copyReqtypeToReturn, [.partialComplete]⟩,
   ⟨.enableSilentSkip, maskAlways⟩, ⟨.exit, [.skipped]⟩, ⟨.disableSilentSkip, maskAlways⟩,
   ⟨.bufferToRouting, maskOf .postRouting⟩, ⟨.updateHttpState, [.done, .fail]⟩,
   ⟨.handleHttp, [.ok]⟩, ⟨.sendTcpSess, [.done]⟩, ⟨.sendBufferTcp, [.done]⟩, ⟨.exit, [.done]⟩,
   ⟨.activateContTcp, maskAlways⟩, ⟨.tcpRxStopOnEop, maskAlways⟩,
   ⟨.copyReqtypeToReturn, [.skipped]⟩, ⟨.ok, maskOf .postRouting⟩, ⟨.exit, [.ok]⟩,
   ⟨.activateDecoup, [.skipped]⟩, ⟨.fifoToHwicap, [.ok]⟩, ⟨.enableSilentSkip, maskAlways⟩,
   ⟨.exit, [.ok, .notComplete]⟩, ⟨.deactivateDecoup, [.done]⟩, ⟨.clearRoutingTable, [.done]⟩,
   ⟨.updateHttpState, [.done]⟩, ⟨.handleHttp, [.ok]⟩, ⟨.sendTcpSess, [.done]⟩,
   ⟨.sendBufferTcp, [.done]⟩, ⟨.deactivateContTcp, [.done]⟩, ⟨.disableSilentSkip, [.done]⟩,
   ⟨.exit, [.done]⟩, ⟨.disableSilentSkip, maskAlways⟩, ⟨.abortHwicap, [.fail]⟩,
   ⟨.updateHttpState, [.ok]⟩, ⟨.handleHttp, [.ok]⟩, ⟨.sendTcpSess, [.done]⟩,
   ⟨.sendBufferTcp, [.done]⟩, ⟨.deactivateContTcp, [.done]⟩, ⟨.fail, [.done]⟩, ⟨.exit, [.fail]⟩,
   ⟨.ok, [.skipped]⟩]

/-- `GLOBAL_TCP_HTTP`, the session of the request is awaited. -/
def tcpSessionProgram : List Instr :=
  [⟨.waitForTcpSess, maskAlways⟩, ⟨.exit, [.notComplete]⟩]

/-- `GLOBAL_TCP_HTTP`, the response is under way. -/
def tcpSendProgram : List Instr := [⟨.sendTcpSess, maskAlways⟩, ⟨.sendBufferTcp, maskAlways⟩]

/-- The programs of an HTTP request. -/
def xmemHttpProgram : ReqType → List Instr
  | .postRouting => xmemRoutingProgram
  | .postConfig => xmemConfigProgram
  | _ => xmemFirstProgram

def tcpHttpProgram : ReqType → List Instr
  | .postRouting => tcpRoutingProgram
  | .postConfig => tcpConfigProgram
  | _ => tcpFirstProgram

/-! ### A call -/

namespace FmcRegs

/-- `GLOBAL_IDLE` forgets the operation before. -/
def toIdle (s : FmcRegs) : FmcRegs :=
  { s with
    currentGlobalOperation := .idle
    globalOperationDone := false
    transferError := false
    invalidPayload := false
    lastXmemPageReceived := false }

/-- An operation starts. -/
def start (s : FmcRegs) (op : GlobalState) : FmcRegs :=
  { s with
    currentGlobalOperation := op
    history := { unfinished := s.history.unfinished } }

/-- An HTTP operation starts. -/
def startHttp (s : FmcRegs) (op : GlobalState) : FmcRegs :=
  { s.start op with httpState := .idle, reqType := .invalid, tcpSessIdUpdated := false }

end FmcRegs

section Call

variable (c : FmcCall)

/-- The plan of an operation that is neither reset nor done. The instructions `clear` start it. -/
def opPlan (clear : List Instr) (s : FmcRegs) : FmcRegs × List Instr :=
  match s.currentGlobalOperation with
  | .idle => (s, [])
  | .xmemCheckPattern => (s, if s.transferError then [] else clear ++ xmemCheckPatternProgram)
  | .xmemToHwicap =>
      (s, if c.wasAbort ∨ s.transferError then [] else clear ++ xmemToHwicapProgram)
  | .xmemHttp =>
      (s, if c.wasAbort ∨ s.transferError then [] else clear ++ xmemHttpProgram s.reqType)
  | .tcpHttp =>
      (s, if c.wasAbort ∨ s.transferError then []
        else clear ++ (if s.tcpSessIdUpdated then [] else tcpSessionProgram) ++
          tcpHttpProgram s.reqType)
  | .manualDecoupling =>
      if c.manuallyToDecoup then (s, [⟨.activateDecoup, maskAlways⟩])
      else ({ s with currentGlobalOperation := .idle }, [⟨.deactivateDecoup, maskAlways⟩])

/-- `GLOBAL_IDLE`: the next operation, by priority. -/
def idlePlan (s : FmcRegs) : FmcRegs × List Instr :=
  let s := s.toIdle
  if c.resetFromPsoc then (s, [])
  else if c.tcpModeStart then
    if c.parseHTTP then
      opPlan c [⟨.clearInBuffer, maskAlways⟩, ⟨.clearOutBuffer, maskAlways⟩,
        ⟨.tcpCntReset, maskAlways⟩] (s.startHttp .tcpHttp)
    else (s, [])
  else if c.startXmemTrans then
    if c.parseHTTP then
      opPlan c [⟨.clearInBuffer, maskAlways⟩, ⟨.clearOutBuffer, maskAlways⟩] (s.startHttp .xmemHttp)
    else if c.checkPattern then
      opPlan c [⟨.clearInBuffer, maskAlways⟩] (s.start .xmemCheckPattern)
    else opPlan c [⟨.clearInBuffer, maskAlways⟩] (s.start .xmemToHwicap)
  else if c.manuallyToDecoup then opPlan c [] (s.start .manualDecoupling)
  else (s, [])

/-- The plan of a call. -/
def makePlan (s : FmcRegs) : FmcRegs × List Instr :=
  match s.currentGlobalOperation with
  | .idle => idlePlan c s
  | .manualDecoupling => opPlan c [] s
  | .xmemCheckPattern | .xmemToHwicap | .xmemHttp =>
      if c.resetFromPsoc then idlePlan c s
      else if s.globalOperationDone then
        (if c.startXmemTrans then s else { s with currentGlobalOperation := .idle }, [])
      else opPlan c [] s
  | .tcpHttp =>
      if c.resetFromPsoc then idlePlan c s
      else if s.globalOperationDone then if c.txBusy then (s, tcpSendProgram) else idlePlan c s
      else opPlan c [] s

/-- The state machine behind the FIFO. -/
def icapFsm (s : FmcRegs) : FmcRegs :=
  match s.fsmHwicap with
  | .idle => s
  | .write =>
      if c.eos then
        { s with
          history.changed := s.history.changed || c.fifoWord
          history.wrote := s.history.wrote || c.fifoWord
          history.unfinished := s.history.unfinished || c.fifoWord
          fsmHwicap := if c.fifoEnd then .done else .write }
      else { s with fsmHwicap := .error }
  | .done => s
  | .error => s
  | .drain => { s with fsmHwicap := .idle }

/-- The operations whose return value is recorded. -/
@[simp] def GlobalState.recorded : GlobalState → Bool
  | .idle | .manualDecoupling => false
  | .xmemCheckPattern | .xmemToHwicap | .xmemHttp | .tcpHttp => true

/-- Behind the plan: the return value is recorded, and the decoupling is driven. -/
def finish (e : Exec) : FmcRegs :=
  let recorded := e.regs.currentGlobalOperation.recorded
  { e.regs with
    globalOperationDone :=
      e.regs.globalOperationDone || recorded && decide (e.lastReturnValue = .done)
    transferError := e.regs.transferError || recorded && decide (e.lastReturnValue = .fail)
    setDecoup := e.regs.toDecoup || e.wasAbort }

/-- A call of the FMC. -/
def fmc (s : FmcRegs) : FmcRegs :=
  let plan := makePlan c s
  finish ((interpreter c).run plan.2
    { regs := icapFsm c plan.1, wasAbort := c.wasAbort, copyRet := c.copyRet })

end Call

/-- The calls of a run. -/
def fmcRun (s : FmcRegs) (cs : List FmcCall) : FmcRegs := cs.foldl (fun s c => fmc c s) s

end CloudFpga.Fmc.Plan
