import CloudFpga.Fmc.RequestParser
import CloudFpga.Nal.Types

/-!
The responses of the FMC: `writeString`, `writeUnsignedLong`, `writeHttpStatus` and
`parseHttpInput` of `http.cpp`, `writeDisplaysToOutBuffer` and the FSM that sends a response over TCP
of `fmc.cpp`.

* `OutBuffer`: the bytes written into `bufferOut` and the length that is counted beside them.
* `parseHttpInput`: one call of the HTTP state machine.
* `fsmTcpDataTX`: one call of the sender.
-/

namespace CloudFpga.Fmc.Http

open Nal

/-- `OUT_BUFFER_SIZE`. -/
def outBufferSize : ℕ := 1024

/-- `bufferOut` up to `bufferOutPtrWrite`, and its registers. -/
structure OutBuffer where
  bytes : List Byte := []
  contentLength : BitVec 16 := 0
  ptrNextRead : BitVec 16 := 0
  deriving DecidableEq

/-- Some bytes that are written, and the length that is returned for them. -/
structure Written where
  bytes : List Byte
  len : ℕ
  deriving DecidableEq

/-- Writes one after the other. -/
def Written.all (ws : List Written) : Written := ⟨ws.flatMap (·.bytes), (ws.map (·.len)).sum⟩

def OutBuffer.write (o : OutBuffer) (w : Written) : OutBuffer := { o with bytes := o.bytes ++ w.bytes }

/-! ### Texts and numbers -/

/-- The characters that `writeString` copies. -/
def cString (s : List Byte) : List Byte := (s.takeWhile fun c => c ≠ 0).take outBufferSize

/-- `writeString`. -/
def writeString (s : List Byte) : Written := ⟨cString s, (cString s).length⟩

/-- A digit of `writeUnsignedLong`. -/
def digitChar (rem : ℕ) : Byte :=
  if 9 < rem then BitVec.ofNat 8 (rem - 10 + 0x41) else BitVec.ofNat 8 (rem + 0x30)

/-- The loop of `writeUnsignedLong`, which ends after 65 digits. -/
def digitLoop (base : ℕ) : ℕ → ℕ → List Byte
  | 0, _ => []
  | n + 1, num => if num = 0 then [] else digitChar (num % base) :: digitLoop base n (num / base)

/-- The digits of a number, with the first one in front. -/
def unsignedLong (num base : ℕ) : List Byte :=
  if num = 0 then [digitChar 0] else (digitLoop base 65 num).reverse

/-- `writeUnsignedLong`. -/
def writeUnsignedLong (num base : ℕ) : Written :=
  ⟨unsignedLong num base, (unsignedLong num base).length⟩

/-- A line break that is written without a call. -/
def crlf : Written := ⟨[0x0D, 0x0A], 2⟩

/-! ### `writeHttpStatus` -/

def statusText (status : ℕ) : List Byte :=
  match status with
  | 200 => text "200 OK"
  | 400 => text "400 Bad Request"
  | 403 => text "403 Forbidden"
  | 404 => text "404 Not Found"
  | 422 => text "422 Unprocessable Entity"
  | _ => text "500 Internal Server Error"

def generalHeaderBegin : List Byte :=
  text "Cache-Control: private\r\nContent-Type: text/plain; charset=utf-8\r\nServer: cloudFPGA/"

/-- The header of a response. `version` is `CFDK_VERSION_STRING`. -/
def httpStatus (version : List Byte) (status : ℕ) : Written :=
  Written.all
    [writeString (text "HTTP/1.1 "), writeString (statusText status), writeString (text "\r\n"),
      writeString generalHeaderBegin, writeString version, writeString (text "\r\n"),
      writeString (text "\r\n")]

/-- The value of `writeHttpStatus`, an `int8_t`, as it is stored in `bufferOutContentLength`. -/
def int8Length (len : ℕ) : BitVec 16 := (BitVec.ofNat 8 len).signExtend 16

/-- `bufferOutContentLength = writeHttpStatus(status, 0)`. -/
def OutBuffer.writeHttpStatus (o : OutBuffer) (version : List Byte) (status : ℕ) : OutBuffer :=
  { o.write (httpStatus version status) with
    contentLength := int8Length (httpStatus version status).len }

/-! ### `writeDisplaysToOutBuffer` -/

/-- What the status page shows. -/
structure StatusData where
  display1 : Word := 0
  display2 : Word := 0
  nalStatusDisabled : Bool := false
  nalStatus : List Word := List.replicate 16 0
  fpgaStatus : List (BitVec 8) := List.replicate 8 0
  hours : Word := 0
  minutes : Word := 0
  seconds : Word := 0
  version : List Byte
  currentRoleMmio : BitVec 16 := 0
  ntsUdpDropCnt : BitVec 16 := 0
  ntsTcpNotifDropCnt : BitVec 8 := 0
  ntsTcpMetaDropCnt : BitVec 8 := 0
  ntsTcpDataDropCnt : BitVec 8 := 0
  ntsTcpCrcDropCnt : BitVec 8 := 0
  ntsTcpSessDropCnt : BitVec 8 := 0
  ntsTcpOooDropCnt : BitVec 8 := 0
  deriving DecidableEq

/-- A line with a number. -/
def displayLine (label : String) (num base : ℕ) : List Written :=
  [writeString (text label), writeUnsignedLong num base, crlf]

/-- The index of a line, of one or two digits. -/
def lineIndex (i : ℕ) : Written :=
  if i ≤ 9 then ⟨[BitVec.ofNat 8 (0x30 + i)], 1⟩
  else ⟨[0x31, BitVec.ofNat 8 (0x30 + (i - 10))], 2⟩

/-- A status word of the NAL, as four raw bytes if the NAL is disabled. -/
def nalStatusLine (disabled : Bool) (i : ℕ) (w : Word) : List Written :=
  [lineIndex i, writeString (text ": ")] ++
    if disabled then
      [⟨[(w >>> 24).setWidth 8, (w >>> 16).setWidth 8, (w >>> 8).setWidth 8, w.setWidth 8, 0x0D,
        0x0A], 6⟩]
    else [writeUnsignedLong w.toNat 16, crlf]

def fpgaStatusLine (i : ℕ) (val : BitVec 8) : List Written :=
  [lineIndex i, writeString (text ": "), ⟨[digitChar val.toNat, 0x0D, 0x0A], 3⟩]

/-- The two digits of a part of the uptime. -/
def timeDigits (n : Word) : List Byte :=
  [BitVec.ofNat 8 (0x30 + n.toNat / 10), BitVec.ofNat 8 (0x30 + n.toNat % 10)]

/-- The uptime. The seconds are counted like the other parts, but their line has one character
more. -/
def uptimeLine (d : StatusData) : List Written :=
  [writeString (text "FPGA uptime: "), ⟨timeDigits d.hours ++ text ":", 3⟩,
    ⟨timeDigits d.minutes ++ text ":", 3⟩, ⟨timeDigits d.seconds ++ text "\r\n", 3⟩]

/-- `writeDisplaysToOutBuffer`. -/
def writeDisplaysToOutBuffer (d : StatusData) (nodeRank clusterSize : Word) : Written :=
  Written.all
    (displayLine "Status Display 1: " d.display1.toNat 16 ++
      displayLine "Status Display 2: " d.display2.toNat 16 ++
      displayLine "Rank: " nodeRank.toNat 10 ++
      displayLine "Size: " clusterSize.toNat 10 ++
      [writeString (text "NAL Status (16 lines): \r\n")] ++
      (d.nalStatus.mapIdx (nalStatusLine d.nalStatusDisabled)).flatten ++
      [writeString (text "FPGA Status (8 lines): \r\n")] ++
      (d.fpgaStatus.mapIdx fpgaStatusLine).flatten ++
      uptimeLine d ++
      [writeString (text "cFDK/FMC version: "), writeString d.version, crlf] ++
      displayLine "current ROLE version: " d.currentRoleMmio.toNat 16 ++
      displayLine "UDP RX drop count: " d.ntsUdpDropCnt.toNat 16 ++
      displayLine "TCP RX notif drop count: " d.ntsTcpNotifDropCnt.toNat 16 ++
      displayLine "TCP RX meta drop count: " d.ntsTcpMetaDropCnt.toNat 16 ++
      displayLine "TCP RX data drop count: " d.ntsTcpDataDropCnt.toNat 16 ++
      displayLine "TCP RX CRC drop count: " d.ntsTcpCrcDropCnt.toNat 16 ++
      displayLine "TCP RX Session drop count: " d.ntsTcpSessDropCnt.toNat 16 ++
      displayLine "TCP RX Out-of-Order drop count: " d.ntsTcpOooDropCnt.toNat 16 ++
      [writeString (text "\r\n")])

/-! ### `parseHttpInput` -/

/-- `HttpState`. -/
inductive HttpState where
  | idle | parseHeader | headerParsed | readPayload | requestComplete | sendResponse
  | invalidRequest | done
  deriving DecidableEq, Repr

structure HttpRegs where
  httpState : HttpState := .idle
  path : PathRegs := {}
  out : OutBuffer := {}
  deriving DecidableEq

/-- The arguments of `parseHttpInput`. -/
structure HttpCall where
  transferErr : Bool := false
  wasAbort : Bool := false
  invalidPayload : Bool := false
  rxDone : Bool := false
  deriving DecidableEq

/-- The message behind a reconfiguration. -/
def successMessage : List Byte := text "Partial reconfiguration finished successfully!\r\n\r\n"

section Parse

variable (d : StatusData) (s : HttpRegs)

/-- A response with a header only. -/
def HttpRegs.answer (status : ℕ) : HttpRegs :=
  { s with out := s.out.writeHttpStatus d.version status }

/-- The status page. The line break behind it is not counted. -/
def HttpRegs.answerStatusPage : HttpRegs :=
  let page := writeDisplaysToOutBuffer d s.path.nodeRank s.path.clusterSize
  let o := ((s.out.writeHttpStatus d.version 200).write page).write (writeString (text "\r\n"))
  { s with out := { o with contentLength := o.contentLength + BitVec.ofNat 16 page.len } }

/-- The response to a reconfiguration. -/
def HttpRegs.answerConfig : HttpRegs :=
  let o := (s.out.writeHttpStatus d.version 200).write (writeString successMessage)
  { s with
    out := { o with
      contentLength := o.contentLength + BitVec.ofNat 16 (writeString successMessage).len } }

/-- `HTTP_IDLE` and `HTTP_PARSE_HEADER`, with the result of `extract_path`. -/
def parseHeader (code : ℤ) : HttpRegs :=
  match code with
  | -2 => { s.answer d 400 with httpState := .invalidRequest }
  | -1 => { s with httpState := .parseHeader }
  | 0 => s
  | 1 => { s with httpState := .sendResponse }
  | 2 => { s with httpState := .headerParsed }
  | 3 => { s with httpState := .sendResponse }
  | 4 => { s with httpState := .sendResponse }
  | 5 => { s with httpState := .headerParsed }
  | _ => { s.answer d 404 with httpState := .invalidRequest }

/-- `HTTP_SEND_RESPONSE`. -/
def sendResponse (k : HttpCall) : HttpRegs :=
  if k.wasAbort then s.answer d 500
  else if k.transferErr ∨ k.invalidPayload then s.answer d 422
  else if s.path.reqType = .getStatus then s.answerStatusPage d
  else if s.path.reqType = .postConfig then s.answerConfig d
  else s.answer d 200

/-- `parseHttpInput`. -/
def parseHttpInput (k : HttpCall) (bufferIn : List Byte) : Option HttpRegs :=
  match s.httpState with
  | .idle | .parseHeader =>
      (extractPath bufferIn k.rxDone s.path).map fun res =>
        parseHeader d { s with path := res.2 } res.1
  | .headerParsed => some { s with httpState := .readPayload }
  | .requestComplete | .sendResponse => some { sendResponse d s k with httpState := .done }
  | .readPayload | .invalidRequest | .done => some s

end Parse

/-! ### The sender -/

section Sender

variable (o : OutBuffer)

/-- `bufferOut[i]`. Behind the bytes that are written it is zero. -/
def OutBuffer.byte (i : ℕ) : Byte := o.bytes.getD i 0

/-- The lane `i` of a word is the last one. -/
def OutBuffer.endsAt (i : ℕ) : Prop := (o.contentLength.toNat : ℤ) - 1 ≤ o.ptrNextRead.toNat + i

instance (i : ℕ) : Decidable (o.endsAt i) := inferInstanceAs (Decidable (_ ≤ _))

/-- The first lane that ends the response, or 8. -/
def OutBuffer.lastLane : ℕ := (List.range 8).findIdx fun i => o.endsAt i

/-- The next word. -/
def OutBuffer.nextWord : NetworkWord where
  lanes := (List.range 8).map fun i => if i ≤ o.lastLane then ⟨o.byte (o.ptrNextRead.toNat + i), true⟩
    else ⟨0, false⟩
  tlast := o.lastLane < 8
  length_lanes := by rw [List.length_map, List.length_range]

/-- `TcpFsmState`, as far as the sender has it. -/
inductive TxState where
  | reset | idle | w84Start | processData | done
  deriving DecidableEq, Repr

/-- The `while` of `TCP_FSM_PROCESS_DATA`, with the number of words that there is room for. -/
def txLoop : ℕ → OutBuffer → List NetworkWord × OutBuffer × TxState
  | 0, o => ([], o, .processData)
  | room + 1, o =>
      let o' := { o with ptrNextRead := o.ptrNextRead + 8 }
      if o.lastLane < 8 then ([o.nextWord], o', .done)
      else
        let rest := txLoop room o'
        (o.nextWord :: rest.1, rest.2)

/-- One call of `fsmTcpData_TX`. -/
def fsmTcpDataTX (s : OutBuffer × TxState) (room : ℕ) : List NetworkWord × OutBuffer × TxState :=
  match s.2 with
  | .reset => ([], s.1, .idle)
  | .idle => ([], s)
  | .w84Start | .processData => txLoop room s.1
  | .done => ([], s)

end Sender

end CloudFpga.Fmc.Http
