import CloudFpga.Fmc.RequestParser
import CloudFpga.Fmc.Interpreter
import CloudFpga.Foundation.Machine
import CloudFpga.Foundation.Memory

/-!
The transfer of pages from XMEM to HWICAP: `copyAndCheckBurst`, `OP_XMEM_COPY_DATA` and
`OP_BUFFER_TO_HWICAP`, in the order in which the programs of the XMEM operations execute them.

* `copyAndCheckBurst`, `xmemCopyData`: a page is copied to `bufferIn`, and accepted or not.
* `bufferToHwicap`: the words in `bufferIn` are written to HWICAP.
* `Transfer`, `XmemEvent`, `xmemMachine`: the writes of the host and the calls of the FMC, with a
  history of the pages and of the words.
-/

namespace CloudFpga.Fmc.Xmem

open Nal Http
open Plan (CopyRet)
open Foundation

/-! ### A page is copied -/

/-- `LINES_PER_PAGE`. -/
def linesPerPage : ℕ := 32

/-- The bytes of a line that are copied: the first byte of a page is its header, and the last one its
footer. -/
def lineBytes (i : ℕ) (tmp : Word) : List Byte :=
  (if i = 0 then [] else [tmp.extractLsb' 0 8]) ++ [tmp.extractLsb' 8 8, tmp.extractLsb' 16 8] ++
    (if i = linesPerPage - 1 then [] else [tmp.extractLsb' 24 8])

/-- The bytes that are copied, in their order. -/
def burst (xmem : ℕ → Word) : List Byte :=
  (List.range linesPerPage).flatMap fun i => lineBytes i (xmem i)

def curHeader (xmem : ℕ → Word) : Byte := (xmem 0).extractLsb' 0 8

def curFooter (xmem : ℕ → Word) : Byte := (xmem (linesPerPage - 1)).extractLsb' 24 8

/-- The counter of a page. -/
def curCnt (xmem : ℕ → Word) : BitVec 4 := (curHeader xmem).extractLsb' 0 4

def lastPage (xmem : ℕ → Word) : Bool := decide (curHeader xmem &&& 0xF0 = 0xF0)

/-- The registers of the input buffer. -/
structure BufferRegs where
  bufferIn : ℕ → Byte := fun _ => 0
  bufferInPtrWrite : ℕ := 0
  bufferInPtrMaxWrite : ℕ := 0
  bufferInPtrNextRead : ℕ := 0
  xmemPageTransCnt : BitVec 4 := 0xF
  lastXmemPageReceived : Bool := false
  writeErrCnt : ℕ := 0

/-- The check of a pattern, without a hangover at either end. -/
def patternRight (bufferIn : ℕ → Byte) (nextRead : ℕ) (ctrlByte : Byte) : Bool :=
  (List.range (payloadBytesPerPage - 6)).all fun i => bufferIn (nextRead + (3 + i)) = ctrlByte

/-- `copyAndCheckBurst`. The pointers are `uint32_t`. -/
def copyAndCheckBurst (xmem : ℕ → Word) (flagCheckXmemPattern : Bool) (expCnt : BitVec 4)
    (lastPageCntIn : BitVec 7) (r : BufferRegs) : CopyRet × BufferRegs :=
  let r := { r with bufferIn := store r.bufferIn r.bufferInPtrWrite (burst xmem) }
  if curHeader xmem ≠ curFooter xmem then (.invalid, r)
  else if curCnt xmem = r.xmemPageTransCnt then (.upToDate, r)
  else if curCnt xmem ≠ expCnt then (.counterMismatch, r)
  else
    let maxWrite :=
      if lastPage xmem && !flagCheckXmemPattern then
        (r.bufferInPtrWrite + lastPageCntIn.toNat + (2 ^ 32 - 1)) % 2 ^ 32
      else (r.bufferInPtrWrite + (payloadBytesPerPage - 1)) % 2 ^ 32
    let write := (maxWrite + 1) % 2 ^ 32
    let r := { r with
      bufferInPtrMaxWrite := maxWrite
      bufferInPtrWrite := if inBufferSize - payloadBytesPerPage ≤ write then 0 else write }
    let ret := if lastPage xmem then CopyRet.lastPage else .page
    if flagCheckXmemPattern then
      if patternRight r.bufferIn r.bufferInPtrNextRead (expCnt ++ expCnt) then
        (ret, { r with bufferInPtrNextRead := r.bufferInPtrWrite })
      else (.corrupt, r)
    else (ret, r)

/-- The counter that is expected next. -/
def BufferRegs.expCnt (r : BufferRegs) : BitVec 4 :=
  if r.xmemPageTransCnt = 0xF then 0 else r.xmemPageTransCnt + 1

/-- `OP_XMEM_COPY_DATA`. -/
def xmemCopyData (xmem : ℕ → Word) (flagCheckXmemPattern : Bool) (lastPageCntIn : BitVec 7)
    (r : BufferRegs) : CopyRet × BufferRegs :=
  let copied := copyAndCheckBurst xmem flagCheckXmemPattern r.expCnt lastPageCntIn
    { r with lastXmemPageReceived := false }
  match copied.1 with
  | .lastPage =>
      (.lastPage, { copied.2 with xmemPageTransCnt := r.expCnt, lastXmemPageReceived := true })
  | .page => (.page, { copied.2 with xmemPageTransCnt := r.expCnt })
  | ret => (ret, copied.2)

/-! ### The words are written -/

/-- The word at an index of the buffer. -/
def bufferWord (notToSwap : Bool) (b : ℕ → Byte) (i : ℕ) : Word :=
  if notToSwap then b (i + 3) ++ b (i + 2) ++ b (i + 1) ++ b i
  else b i ++ b (i + 1) ++ b (i + 2) ++ b (i + 3)

/-- The words that are not written. -/
def isHttpNLWord (tmp : Word) : Bool := decide (tmp = 0x0D0A0D0A ∨ tmp = 0x0A0D0A0D)

/-- The variables of the loop: the index, the words for HWICAP and the errors. -/
structure HwicapLoop where
  i : ℕ
  words : List Word := []
  writeErrCnt : ℕ := 0
  deriving DecidableEq

/-- The loop, which goes through a buffer up to `maxPayloadWrite`. -/
def hwicapLoop (notToSwap : Bool) (b : ℕ → Byte) (maxPayloadWrite : ℕ) :
    ℕ → HwicapLoop → HwicapLoop
  | 0, l => l
  | fuel + 1, l =>
      if l.i ≤ maxPayloadWrite ∧ 0 < maxPayloadWrite then
        let tmp := bufferWord notToSwap b l.i
        hwicapLoop notToSwap b maxPayloadWrite fuel
          (if isHttpNLWord tmp then { l with i := l.i + 4, writeErrCnt := l.writeErrCnt + 1 }
          else { l with i := l.i + 4, words := l.words ++ [tmp] })
      else l

/-- The registers of a call of the FMC. -/
structure XmemCall where
  lastPageCntIn : BitVec 7 := 0
  parseHTTP : Bool := false
  notToSwap : Bool := false
  eos : Bool := true

/-- The bytes behind the words move to the front of the buffer, when the read pointer leaves it. -/
def wrapRead (c : XmemCall) (r : BufferRegs) : BufferRegs :=
  if inBufferSize - payloadBytesPerPage ≤ r.bufferInPtrNextRead then
    let telomere : BitVec 5 :=
      BitVec.ofInt 5 (r.bufferInPtrMaxWrite - r.bufferInPtrNextRead + 1 : ℤ)
    let moved :=
      if c.parseHTTP ∧ telomere ≠ 0 then
        { r with
          bufferIn := store r.bufferIn 0 (window r.bufferIn r.bufferInPtrNextRead telomere.toInt.toNat)
          bufferInPtrWrite := (telomere.toInt % 2 ^ 32).toNat
          writeErrCnt := if telomere.toInt < 0 then r.writeErrCnt + 1 else r.writeErrCnt }
      else r
    { moved with bufferInPtrNextRead := 0 }
  else r

/-- `OP_BUFFER_TO_HWICAP`, with HWICAP accessible: the words, and the registers behind it. -/
def bufferToHwicap (c : XmemCall) (r : BufferRegs) : List Word × BufferRegs :=
  let maxPayloadWrite := if 4 ≤ r.bufferInPtrMaxWrite then r.bufferInPtrMaxWrite - 3 else 0
  let l := hwicapLoop c.notToSwap r.bufferIn maxPayloadWrite (maxPayloadWrite + 1)
    { i := r.bufferInPtrNextRead, writeErrCnt := r.writeErrCnt }
  (l.words, wrapRead c { r with bufferInPtrNextRead := l.i, writeErrCnt := l.writeErrCnt })

/-! ### Transfers -/

/-- The operations with pages: the check of the pattern, a configuration without HTTP, and one with
HTTP, of which the header or the payload is read. -/
inductive Mode where
  | checkPattern | toHwicap | httpHeader | httpPayload
  deriving DecidableEq, Repr

/-- A transfer: the page in XMEM, the registers, and what was accepted and written. The operation may
be over, with success or with an error. -/
structure Transfer where
  mode : Mode
  ended : Bool := false
  xmem : ℕ → Word := fun _ => 0
  regs : BufferRegs := {}
  /-- The accepted pages, with their counters and payloads. -/
  pages : List (BitVec 4 × List Byte) := []
  /-- The words for HWICAP, each with the setting of `notToSwap`. -/
  written : List (Bool × Word) := []
  /-- The length of the HTTP header. -/
  header : ℕ := 0

/-- The host writes to XMEM, or the FMC is called. -/
inductive XmemEvent where
  | host (page : ℕ → Word)
  | call (c : XmemCall)

namespace Transfer

variable (t : Transfer) (c : XmemCall)

/-- The length of the payload in XMEM. -/
def payloadLen : ℕ :=
  if lastPage t.xmem ∧ t.mode ≠ .checkPattern then c.lastPageCntIn.toNat else payloadBytesPerPage

/-- A page is accepted. -/
def accept : Transfer :=
  { t with pages := t.pages ++ [(curCnt t.xmem, (burst t.xmem).take (t.payloadLen c))] }

/-- `OP_BUFFER_TO_HWICAP` and the instructions behind it. Without HWICAP the operation fails, and with
the last page it is done. -/
def toHwicap : Transfer :=
  if c.eos then
    let out := bufferToHwicap c t.regs
    { t with
      regs := out.2
      written := t.written ++ out.1.map fun w => (c.notToSwap, w)
      ended := t.regs.lastXmemPageReceived }
  else { t with ended := true }

/-- What follows `extract_path`. With exactly one byte behind the header nothing is written in this
call. -/
def handlePath : Option (ℤ × PathRegs) → Transfer
  | some (2, path) =>
      let t' := { t with
        mode := .httpPayload
        header := path.bufferInPtrNextRead
        regs.bufferInPtrNextRead := path.bufferInPtrNextRead }
      if t'.regs.bufferInPtrMaxWrite = t'.regs.bufferInPtrNextRead then t' else t'.toHwicap c
  | some (-1, _) => t
  | some (0, _) => t
  -- a request that is no configuration, or none at all
  | _ => { t with ended := true }

/-- The header is read, when it is complete. -/
def handleHttp : Transfer :=
  t.handlePath c (extractPath (window t.regs.bufferIn 0 inBufferSize) t.regs.lastXmemPageReceived
    { bufferInPtrNextRead := t.regs.bufferInPtrNextRead })

/-- What follows a page that was accepted. -/
def follow : Transfer :=
  match t.mode with
  | .checkPattern => { t with ended := t.regs.lastXmemPageReceived }
  | .toHwicap | .httpPayload => t.toHwicap c
  | .httpHeader => t.handleHttp c

/-- A call of the FMC. -/
def call : Transfer :=
  if t.ended then t
  else
    let copied := xmemCopyData t.xmem (t.mode = .checkPattern) c.lastPageCntIn t.regs
    let t' := { t with regs := copied.2 }
    match copied.1 with
    | .upToDate => t'
    | .invalid => t'
    | .counterMismatch => { t' with ended := true }
    | .corrupt => { t' with ended := true }
    | .lastPage => (t'.accept c).follow c
    | .page => (t'.accept c).follow c

def step : XmemEvent → Transfer
  | .host page => { t with xmem := page }
  | .call c => t.call c

end Transfer

/-- The events of a transfer. -/
def xmemMachine : Machine Transfer XmemEvent := ⟨fun t e => some (t.step e)⟩

end CloudFpga.Fmc.Xmem
