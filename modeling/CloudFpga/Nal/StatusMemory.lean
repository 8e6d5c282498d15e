import CloudFpga.Foundation.Publisher
import CloudFpga.Nal.Hss.AxiLite
import Mathlib.Data.BitVec

/-!
The status memory of the NAL, `pStatusMemory` of `nal.cpp`, with the status words of
`axi4liteProcessing`.

* `pStatusMemory`: resets counters, reads one item, or publishes one status word.
* `statusWords`: the words that belong to the items that were read.
* `Settles`: with constant control inputs all items are read after finitely many calls, and after
  a bounded number of further ones the words of `axi4liteProcessing` are those of all items.
* `settles_iff`: so it is if and only if layer 7 is enabled, or nothing waits and all words are
  published.
-/

namespace CloudFpga.Nal

open Foundation

abbrev NrcPort := BitVec 16

/-- The counters and the last values. -/
@[ext]
structure StatusRegs where
  nodeIdMissmatchRXCnt : Word := 0
  lastRxNodeId : NodeId := 0
  lastRxPort : NrcPort := 0
  nodeIdMissmatchTXCnt : Word := 0
  lastTxNodeId : NodeId := 0
  lastTxPort : NrcPort := 0
  portCorrectionsTXCnt : BitVec 16 := 0
  unauthorizedAccessCnt : Word := 0
  authorizedAccessCnt : Word := 0
  fmcTcpBytesCnt : Word := 0
  packetCountRX : Word := 0
  packetCountTX : Word := 0
  ownRank : NodeId := 0
  tcpNewConnectionFailureCnt : BitVec 16 := 0
  deriving DecidableEq, Repr

/-- An item that was read, or a reset of the counters. -/
inductive StatusItem where
  | config (ca : NalConfigUpdate)
  | version (v : Word)
  | port (update : NalPortUpdate)
  | event (e : NalEventNotif)
  | reset
  deriving DecidableEq, Repr

/-- The registers and streams of the process, and the status words of `axi4liteProcessing`. No step
reads `consumed`, which has the last item first. -/
structure StatusMemory where
  tablesInitialized : Bool := false
  regs : StatusRegs := {}
  statusUpdateI : Fin numberStatusWords := 0
  status : Fin numberStatusWords → Word := fun _ => 0
  oldStatus : Fin numberStatusWords → Word := fun _ => 0
  sConfigUpdate : List NalConfigUpdate := []
  mrtVersionUpdate : List Word := []
  sNalPortUpdate : List NalPortUpdate := []
  internalEventFifo : List NalEventNotif := []
  sStatusUpdate : List NalStatusUpdate := []
  axiStatus : Fin numberStatusWords → Word := fun _ => 0
  consumed : List StatusItem := []

/-- The depth of `sStatusUpdate`. -/
def statusUpdateDepth : ℕ := 128

def applyEvent (r : StatusRegs) (nevs : NalEventNotif) : StatusRegs :=
  match nevs.type with
  | .nidMissRx => { r with nodeIdMissmatchRXCnt := r.nodeIdMissmatchRXCnt + nevs.updateValue }
  | .nidMissTx => { r with nodeIdMissmatchTXCnt := r.nodeIdMissmatchTXCnt + nevs.updateValue }
  | .pcorTx =>
      { r with portCorrectionsTXCnt := r.portCorrectionsTXCnt + nevs.updateValue.setWidth 16 }
  | .tcpConFail =>
      { r with
        tcpNewConnectionFailureCnt := r.tcpNewConnectionFailureCnt + nevs.updateValue.setWidth 16 }
  | .lastRxPort => { r with lastRxPort := nevs.updateValue.setWidth 16 }
  | .lastRxNid => { r with lastRxNodeId := nevs.updateValue.setWidth 8 }
  | .lastTxPort => { r with lastTxPort := nevs.updateValue.setWidth 16 }
  | .lastTxNid => { r with lastTxNodeId := nevs.updateValue.setWidth 8 }
  | .packetRx => { r with packetCountRX := r.packetCountRX + nevs.updateValue }
  | .packetTx => { r with packetCountTX := r.packetCountTX + nevs.updateValue }
  | .unauthAccess => { r with unauthorizedAccessCnt := r.unauthorizedAccessCnt + nevs.updateValue }
  | .authAccess => { r with authorizedAccessCnt := r.authorizedAccessCnt + nevs.updateValue }
  | .fmcTcpBytes => { r with fmcTcpBytesCnt := r.fmcTcpBytesCnt + nevs.updateValue }

def resetCounters (r : StatusRegs) : StatusRegs :=
  { r with
    packetCountTX := 0
    packetCountRX := 0
    lastRxPort := 0
    lastRxNodeId := 0
    lastTxPort := 0
    lastTxNodeId := 0 }

/-- A word with two halves. -/
def halves (hi lo : BitVec 16) : Word := hi.setWidth 32 <<< 16 ||| lo.setWidth 32

/-- The status entries that are computed before a word is published. -/
def computedEntry (r : StatusRegs) (i : Fin numberStatusWords) : Option Word :=
  match i.val with
  | 4 => some r.unauthorizedAccessCnt
  | 5 => some r.authorizedAccessCnt
  | 8 => some r.fmcTcpBytesCnt
  | 9 => some (halves r.lastRxPort (r.lastRxNodeId.setWidth 16))
  | 10 => some (halves r.portCorrectionsTXCnt (r.nodeIdMissmatchRXCnt.setWidth 16))
  | 11 => some (halves r.lastTxPort (r.lastTxNodeId.setWidth 16))
  | 12 => some (halves r.tcpNewConnectionFailureCnt (r.nodeIdMissmatchTXCnt.setWidth 16))
  | 14 => some r.packetCountRX
  | 15 => some r.packetCountTX
  | _ => none

/-- The other entries stay as they are. -/
def updateEntries (r : StatusRegs) (status : Fin numberStatusWords → Word)
    (i : Fin numberStatusWords) : Word :=
  (computedEntry r i).getD (status i)

/-- `NAL_STATUS_FMC_PORT_PROCESSED`, `NAL_STATUS_OPEN_UDP_PORTS` and `NAL_STATUS_OPEN_TCP_PORTS`. -/
def portWord : PortType → Fin numberStatusWords
  | .fmc => 3
  | .udp => 1
  | .tcp => 2

section Process

variable (s : StatusMemory)

/-- A packet was counted since the last reset. -/
def StatusMemory.counted : Bool := s.regs.packetCountTX > 0 ∨ s.regs.packetCountRX > 0

/-- One word is compared with what was published, and published if it is new and there is room. -/
def publishWord : StatusMemory :=
  let status := updateEntries s.regs s.status
  let i := s.statusUpdateI
  if s.sStatusUpdate.length < statusUpdateDepth ∧ s.oldStatus i ≠ status i then
    { s with
      status := status
      sStatusUpdate := s.sStatusUpdate ++ [⟨i, status i⟩]
      oldStatus := Function.update s.oldStatus i (status i)
      statusUpdateI := i + 1 }
  else { s with status := status, statusUpdateI := i + 1 }

/-- The first stream that has an item is read, or a word is published. -/
def readItem : StatusMemory :=
  match s.sConfigUpdate with
  | ca :: cas =>
      if ca.configAddr = nalConfigOwnRank then
        { s with
          sConfigUpdate := cas
          regs := { s.regs with ownRank := ca.updateValue.setWidth 8 }
          status := Function.update s.status 13 ((ca.updateValue.setWidth 8).setWidth 32)
          consumed := .config ca :: s.consumed }
      else { s with sConfigUpdate := cas, consumed := .config ca :: s.consumed }
  | [] =>
  match s.mrtVersionUpdate with
  | v :: vs =>
      { s with
        mrtVersionUpdate := vs
        status := Function.update s.status 0 v
        consumed := .version v :: s.consumed }
  | [] =>
  match s.sNalPortUpdate with
  | update :: updates =>
      { s with
        sNalPortUpdate := updates
        status := Function.update s.status (portWord update.portType) update.newValue
        consumed := .port update :: s.consumed }
  | [] =>
  match s.internalEventFifo with
  | nevs :: events =>
      { s with
        internalEventFifo := events
        regs := applyEvent s.regs nevs
        consumed := .event nevs :: s.consumed }
  | [] => publishWord s

/-- One call. Without layer 7 the counters are reset, whatever they are. -/
def pStatusMemory (layer7Enabled roleDecoupled : Bool) : StatusMemory :=
  if s.tablesInitialized = false then
    { s with tablesInitialized := true, status := fun _ => 0, oldStatus := fun _ => 0 }
  else if layer7Enabled = false ∨ roleDecoupled = true ∧ s.counted = true then
    { s with regs := resetCounters s.regs, consumed := .reset :: s.consumed }
  else readItem s

/-- `axi4liteProcessing` is called in `A4L_STATUS_UPDATE`. -/
def serveStatus : StatusMemory :=
  { s with
    axiStatus := (a4lStatusUpdate s.axiStatus s.sStatusUpdate).1
    sStatusUpdate := (a4lStatusUpdate s.axiStatus s.sStatusUpdate).2 }

end Process

inductive StatusStep where
  | config (ca : NalConfigUpdate)
  | version (v : Word)
  | port (update : NalPortUpdate)
  | event (e : NalEventNotif)
  | call (layer7Enabled roleDecoupled : Bool)
  | serve

def statusNext (s : StatusMemory) : StatusStep → StatusMemory
  | .config ca => { s with sConfigUpdate := s.sConfigUpdate ++ [ca] }
  | .version v => { s with mrtVersionUpdate := s.mrtVersionUpdate ++ [v] }
  | .port update => { s with sNalPortUpdate := s.sNalPortUpdate ++ [update] }
  | .event e => { s with internalEventFifo := s.internalEventFifo ++ [e] }
  | .call l7 dec => pStatusMemory s l7 dec
  | .serve => serveStatus s

/-- A call with constant control inputs, after which the status updates may be served. -/
def statusCycle (l7 dec : Bool) (s : StatusMemory) (served : Bool) : StatusMemory :=
  if served then serveStatus (pStatusMemory s l7 dec) else pStatusMemory s l7 dec

/-- How many items wait. -/
def StatusMemory.waiting (s : StatusMemory) : ℕ :=
  s.sConfigUpdate.length + s.mrtVersionUpdate.length + s.sNalPortUpdate.length
    + s.internalEventFifo.length

/-! ### The words of the items -/

section Words

variable (h : List StatusItem)

/-- The value of an event of a type. -/
def eventValue (t : NalCntIncType) : StatusItem → Option Word
  | .event e => if e.type = t then some e.updateValue else none
  | _ => none

def versionValue : StatusItem → Option Word
  | .version v => some v
  | _ => none

def portValue (t : PortType) : StatusItem → Option Word
  | .port u => if u.portType = t then some u.newValue else none
  | _ => none

def rankValue : StatusItem → Option Word
  | .config ca => if ca.configAddr = nalConfigOwnRank then some ca.updateValue else none
  | _ => none

/-- The sum of all increments. -/
def total (t : NalCntIncType) : Word := (h.filterMap (eventValue t)).sum

/-- The value that came last. -/
def latest (value : StatusItem → Option Word) : Word := (h.filterMap value).head?.getD 0

/-- The items since the last reset. -/
def sinceReset : List StatusItem := h.takeWhile (· ≠ .reset)

/-- The registers that belong to the items. -/
def regsOf : StatusRegs where
  nodeIdMissmatchRXCnt := total h .nidMissRx
  lastRxNodeId := (latest (sinceReset h) (eventValue .lastRxNid)).setWidth 8
  lastRxPort := (latest (sinceReset h) (eventValue .lastRxPort)).setWidth 16
  nodeIdMissmatchTXCnt := total h .nidMissTx
  lastTxNodeId := (latest (sinceReset h) (eventValue .lastTxNid)).setWidth 8
  lastTxPort := (latest (sinceReset h) (eventValue .lastTxPort)).setWidth 16
  portCorrectionsTXCnt := (total h .pcorTx).setWidth 16
  unauthorizedAccessCnt := total h .unauthAccess
  authorizedAccessCnt := total h .authAccess
  fmcTcpBytesCnt := total h .fmcTcpBytes
  packetCountRX := total (sinceReset h) .packetRx
  packetCountTX := total (sinceReset h) .packetTx
  ownRank := (latest h rankValue).setWidth 8
  tcpNewConnectionFailureCnt := (total h .tcpConFail).setWidth 16

/-- The words that are written when an item is read. -/
def readWords (i : Fin numberStatusWords) : Word :=
  if i = 0 then latest h versionValue
  else if i = portWord .udp then latest h (portValue .udp)
  else if i = portWord .tcp then latest h (portValue .tcp)
  else if i = portWord .fmc then latest h (portValue .fmc)
  else if i = 13 then ((latest h rankValue).setWidth 8).setWidth 32
  else 0

/-- The status words that belong to the items. -/
def statusWords : Fin numberStatusWords → Word := updateEntries (regsOf h) (readWords h)

end Words

/-- The number of served calls after which all words are published. -/
def statusBound : ℕ := Publisher.bound numberStatusWords statusUpdateDepth

/-- With constant control inputs, all items are read after finitely many calls. When as many calls
as `statusBound` were served after that, the words of `axi4liteProcessing` are those of the items
that were read. -/
def Settles (l7 dec : Bool) (s : StatusMemory) : Prop :=
  ∃ n, ∀ ls ms : List Bool, n ≤ ls.length → statusBound ≤ ms.count true →
    (Clocked.run (statusCycle l7 dec) s ls).waiting = 0 ∧
      (Clocked.run (statusCycle l7 dec) s (ls ++ ms)).axiStatus
        = statusWords (Clocked.run (statusCycle l7 dec) s (ls ++ ms)).consumed

section RegsOf

variable {h : List StatusItem} {t : NalCntIncType} {v : StatusItem → Option Word} {x : StatusItem}
  {w : Word}

lemma total_cons_some (hx : eventValue t x = some w) : total (x :: h) t = w + total h t := by
  rw [total, List.filterMap_cons_some hx, List.sum_cons]
  rfl

lemma total_cons_none (hx : eventValue t x = none) : total (x :: h) t = total h t := by
  rw [total, List.filterMap_cons_none hx]
  rfl

lemma latest_cons_some (hx : v x = some w) : latest (x :: h) v = w := by
  rw [latest, List.filterMap_cons_some hx]
  rfl

lemma latest_cons_none (hx : v x = none) : latest (x :: h) v = latest h v := by
  rw [latest, List.filterMap_cons_none hx]
  rfl

lemma sinceReset_cons (hx : x ≠ .reset) : sinceReset (x :: h) = x :: sinceReset h :=
  List.takeWhile_cons_of_pos (by simpa using hx)

lemma sinceReset_reset : sinceReset (.reset :: h) = [] :=
  List.takeWhile_cons_of_neg (by simp)

/-- An event does to the registers what the process does. -/
lemma regsOf_event (e : NalEventNotif) : regsOf (.event e :: h) = applyEvent (regsOf h) e := by
  obtain ⟨t, w⟩ := e
  have hrank : latest (.event ⟨t, w⟩ :: h) rankValue = latest h rankValue := latest_cons_none rfl
  rw [regsOf, hrank, sinceReset_cons (by simp)]
  cases t <;>
    simp [applyEvent, regsOf, total, latest, eventValue, BitVec.setWidth_add, BitVec.add_comm]

lemma regsOf_config (ca : NalConfigUpdate) :
    regsOf (.config ca :: h) = if ca.configAddr = nalConfigOwnRank
      then { regsOf h with ownRank := ca.updateValue.setWidth 8 } else regsOf h := by
  rw [regsOf, sinceReset_cons (by simp)]
  split
  · next hrank =>
      have hlast : latest (.config ca :: h) rankValue = ca.updateValue := by
        refine latest_cons_some ?_
        rw [rankValue, if_pos hrank]
      rw [hlast]
      rfl
  · next hrank =>
      have hlast : latest (.config ca :: h) rankValue = latest h rankValue := by
        refine latest_cons_none ?_
        rw [rankValue, if_neg hrank]
      rw [hlast]
      rfl

lemma regsOf_version (n : Word) : regsOf (.version n :: h) = regsOf h := by
  rw [regsOf, sinceReset_cons (by simp)]
  rfl

lemma regsOf_port (u : NalPortUpdate) : regsOf (.port u :: h) = regsOf h := by
  rw [regsOf, sinceReset_cons (by simp)]
  rfl

lemma regsOf_reset : regsOf (.reset :: h) = resetCounters (regsOf h) := by
  rw [regsOf, sinceReset_reset]
  rfl

lemma readWords_event (e : NalEventNotif) : readWords (.event e :: h) = readWords h := rfl

lemma readWords_reset : readWords (.reset :: h) = readWords h := rfl

lemma readWords_version (n : Word) :
    readWords (.version n :: h) = Function.update (readWords h) 0 n := by
  funext i
  rw [Function.update_apply]
  split
  · next hi =>
      rw [hi]
      rfl
  · next hi =>
      rw [readWords, if_neg hi, readWords, if_neg hi]
      rfl

lemma readWords_port (u : NalPortUpdate) :
    readWords (.port u :: h) = Function.update (readWords h) (portWord u.portType) u.newValue := by
  obtain ⟨t, w⟩ := u
  funext i
  rw [Function.update_apply]
  split
  · next hi =>
      rw [hi]
      cases t <;> rfl
  · next hi =>
      cases t with
      | fmc =>
          simp only [readWords, if_neg hi]
          rfl
      | udp =>
          simp only [readWords, if_neg hi]
          rfl
      | tcp =>
          simp only [readWords, if_neg hi]
          rfl

lemma readWords_config (ca : NalConfigUpdate) :
    readWords (.config ca :: h) = if ca.configAddr = nalConfigOwnRank
      then Function.update (readWords h) 13 ((ca.updateValue.setWidth 8).setWidth 32)
      else readWords h := by
  split
  · next hrank =>
      have hlast : latest (.config ca :: h) rankValue = ca.updateValue := by
        refine latest_cons_some ?_
        rw [rankValue, if_pos hrank]
      funext i
      rw [Function.update_apply]
      split
      · next hi =>
          rw [readWords, hlast, hi]
          rfl
      · next hi =>
          simp only [readWords, if_neg hi]
          rfl
  · next hrank =>
      have hlast : latest (.config ca :: h) rankValue = latest h rankValue := by
        refine latest_cons_none ?_
        rw [rankValue, if_neg hrank]
      funext i
      rw [readWords, hlast]
      rfl

/-- The entries of the status memory are the words of the items. -/
lemma updateEntries_eq {status : Fin numberStatusWords → Word}
    (hread : ∀ r i, computedEntry r i = none → status i = readWords h i) :
    updateEntries (regsOf h) status = statusWords h := by
  funext i
  rw [statusWords, updateEntries, updateEntries]
  cases hi : computedEntry (regsOf h) i with
  | some w => rfl
  | none => exact hread _ i hi

end RegsOf

/-! ### The invariant -/

/-- The process as the publisher of the status words. -/
def StatusMemory.publisher (s : StatusMemory) : Publisher numberStatusWords Word where
  index := s.statusUpdateI
  sent := s.oldStatus
  queue := s.sStatusUpdate.map fun su => (su.statusAddr, su.newValue)
  copy := s.axiStatus

/-- The registers and the entries are those of the items that were read, and the words of
`axi4liteProcessing` are those that were published, as soon as the updates are served. -/
structure StatusInv (s : StatusMemory) : Prop where
  regs : s.regs = regsOf s.consumed
  read : ∀ r i, computedEntry r i = none → s.status i = readWords s.consumed i
  synced : s.publisher.Synced statusUpdateDepth
  start : s.tablesInitialized = false → s.consumed = [] ∧ s.oldStatus = fun _ => 0

section Invariant

variable {s : StatusMemory} {l7 dec : Bool}

lemma readWords_nil : readWords [] = fun _ => 0 := by
  funext i
  rw [readWords]
  repeat' split
  all_goals rfl

/-- An item changes the entry that it is written to, and no other one. -/
lemma StatusInv.readWords_update (h : StatusInv s) {i : Fin numberStatusWords} {w : Word}
    {c : List StatusItem} (hc : readWords c = Function.update (readWords s.consumed) i w) :
    ∀ r j, computedEntry r j = none → Function.update s.status i w j = readWords c j := by
  intro r j hj
  rw [hc, Function.update_apply, Function.update_apply, h.read r j hj]

/-- Publishing a word is what the publisher does with the words of the items. -/
lemma StatusInv.publisher (h : StatusInv s) :
    (publishWord s).publisher
      = s.publisher.publish statusUpdateDepth (statusWords s.consumed) := by
  have hwords : updateEntries s.regs s.status = statusWords s.consumed := by
    rw [h.regs]
    exact updateEntries_eq h.read
  have hlen : s.publisher.queue.length = s.sStatusUpdate.length := List.length_map _
  rw [Publisher.publish, ← hwords, hlen, publishWord]
  split
  · next hnew =>
      have hnew' : s.sStatusUpdate.length < statusUpdateDepth ∧
          s.publisher.sent s.publisher.index
            ≠ updateEntries s.regs s.status s.publisher.index := hnew
      rw [if_pos hnew']
      simp [StatusMemory.publisher]
  · next hold =>
      have hold' : ¬(s.sStatusUpdate.length < statusUpdateDepth ∧
          s.publisher.sent s.publisher.index
            ≠ updateEntries s.regs s.status s.publisher.index) := hold
      rw [if_neg hold']
      rfl

lemma serveStatus_publisher (s : StatusMemory) :
    (serveStatus s).publisher = s.publisher.serve := by
  rw [serveStatus, Publisher.serve]
  cases hsus : s.sStatusUpdate with
  | nil => simp [StatusMemory.publisher, a4lStatusUpdate, hsus]
  | cons su sus => simp [StatusMemory.publisher, a4lStatusUpdate, hsus]

lemma publishWord_same (s : StatusMemory) : (publishWord s).regs = s.regs ∧
    (publishWord s).consumed = s.consumed ∧
      (publishWord s).tablesInitialized = s.tablesInitialized ∧
        (publishWord s).status = updateEntries s.regs s.status ∧
          (publishWord s).waiting = s.waiting := by
  rw [publishWord]
  split
  · exact ⟨rfl, rfl, rfl, rfl, rfl⟩
  · exact ⟨rfl, rfl, rfl, rfl, rfl⟩

lemma StatusInv.publishWord (h : StatusInv s) (hinit : s.tablesInitialized = true) :
    StatusInv (publishWord s) := by
  obtain ⟨hregs, hconsumed, hinit', hstatus, -⟩ := publishWord_same s
  refine ⟨?_, fun r i hi => ?_, ?_, fun hfalse => ?_⟩
  · rw [hregs, hconsumed]
    exact h.regs
  · have hnone : computedEntry s.regs i = none := by
      revert hi
      simp only [computedEntry]
      split <;> simp
    rw [hstatus, hconsumed, updateEntries, hnone]
    exact h.read r i hi
  · rw [h.publisher]
    exact h.synced.publish
  · rw [hinit', hinit] at hfalse
    cases hfalse

lemma StatusInv.readItem (h : StatusInv s) (hinit : s.tablesInitialized = true) :
    StatusInv (readItem s) := by
  have hstart {c : List StatusItem} :
      s.tablesInitialized = false → c = [] ∧ s.oldStatus = fun _ => 0 := by
    intro hfalse
    rw [hinit] at hfalse
    cases hfalse
  rw [Nal.readItem]
  split
  · next ca cas hcas =>
      have hregs := regsOf_config (h := s.consumed) ca
      have hread := readWords_config (h := s.consumed) ca
      split
      · next hrank =>
          rw [if_pos hrank] at hregs hread
          refine ⟨?_, h.readWords_update hread, h.synced, hstart⟩
          dsimp only
          rw [hregs, h.regs]
      · next hrank =>
          rw [if_neg hrank] at hregs hread
          refine ⟨h.regs.trans hregs.symm, fun r i hi => ?_, h.synced, hstart⟩
          dsimp only
          rw [hread]
          exact h.read r i hi
  · split
    · next v vs hvs =>
        exact ⟨h.regs.trans (regsOf_version v).symm, h.readWords_update (readWords_version v),
          h.synced, hstart⟩
    · split
      · next update updates hupdates =>
          exact ⟨h.regs.trans (regsOf_port update).symm, h.readWords_update (readWords_port update),
            h.synced, hstart⟩
      · split
        · next nevs events hevents =>
            refine ⟨?_, fun r i hi => ?_, h.synced, hstart⟩
            · dsimp only
              rw [regsOf_event, h.regs]
            · dsimp only
              rw [readWords_event]
              exact h.read r i hi
        · exact h.publishWord hinit

lemma StatusInv.call (h : StatusInv s) : StatusInv (pStatusMemory s l7 dec) := by
  rw [pStatusMemory]
  split
  · next hinit =>
      obtain ⟨hconsumed, hold⟩ := h.start hinit
      refine ⟨h.regs, fun r i _ => ?_, ⟨h.synced.room, ?_⟩, fun hfalse => by cases hfalse⟩
      · dsimp only
        rw [hconsumed, readWords_nil]
      · exact h.synced.sent.trans hold
  · next hinit =>
      split
      · refine ⟨?_, fun r i hi => ?_, h.synced, fun hfalse => absurd hfalse hinit⟩
        · dsimp only
          rw [regsOf_reset, h.regs]
        · dsimp only
          rw [readWords_reset]
          exact h.read r i hi
      · exact h.readItem (by simpa using hinit)

lemma StatusInv.serve (h : StatusInv s) : StatusInv (serveStatus s) := by
  refine ⟨h.regs, h.read, ?_, h.start⟩
  rw [serveStatus_publisher]
  exact h.synced.serve

lemma StatusInv.step (h : StatusInv s) (k : StatusStep) : StatusInv (statusNext s k) := by
  cases k with
  | call l7 dec => exact h.call
  | serve => exact h.serve
  | config _ | version _ | port _ | event _ => exact ⟨h.regs, h.read, h.synced, h.start⟩

lemma StatusInv.cycle (h : StatusInv s) (served : Bool) :
    StatusInv (statusCycle l7 dec s served) := by
  rw [statusCycle]
  split
  · exact h.call.serve
  · exact h.call

lemma statusStart_inv : StatusInv {} :=
  ⟨rfl, fun _ _ _ => by rw [readWords_nil], ⟨Nat.zero_le _, rfl⟩, fun _ => ⟨rfl, rfl⟩⟩

/-- Every state that is reached has the invariant. -/
lemma StatusInv.reached (ks : List StatusStep) : StatusInv (Clocked.run statusNext {} ks) := by
  have hstep (s : StatusMemory) (k : StatusStep) (hs : StatusInv s) (_ : True) :
      StatusInv (statusNext s k) := hs.step k
  exact Clocked.run_inv hstep statusStart_inv (Clocked.along_trivial statusNext {} ks)

end Invariant

/-! ### With layer 7 enabled everything is read and published -/

section Enabled

variable {s : StatusMemory} {dec : Bool}

/-- A reset of the counters is due. -/
def resetDue (dec : Bool) (s : StatusMemory) : ℕ := if dec = true ∧ s.counted = true then 1 else 0

/-- How many calls it takes at most until all items are read and no counter is to be reset. -/
def drainWork (dec : Bool) (s : StatusMemory) : ℕ :=
  2 * s.waiting + resetDue dec s + if s.tablesInitialized then 0 else 1

lemma resetDue_le (dec : Bool) (s : StatusMemory) : resetDue dec s ≤ 1 := by
  rw [resetDue]
  split <;> omega

/-- An item is read, or there is none. -/
lemma readItem_waiting (s : StatusMemory) :
    (readItem s).tablesInitialized = s.tablesInitialized ∧
      ((readItem s).waiting + 1 = s.waiting ∨
        s.waiting = 0 ∧ readItem s = publishWord s) := by
  rw [readItem]
  split
  · next ca cas hcas =>
      have hlen : s.waiting = cas.length + 1 + s.mrtVersionUpdate.length + s.sNalPortUpdate.length
          + s.internalEventFifo.length := by
        rw [StatusMemory.waiting, hcas]
        rfl
      split
      · exact ⟨rfl, .inl (by rw [hlen, StatusMemory.waiting]; dsimp only; omega)⟩
      · exact ⟨rfl, .inl (by rw [hlen, StatusMemory.waiting]; dsimp only; omega)⟩
  · next hcas =>
      split
      · next v vs hvs =>
          have hlen : s.waiting = 0 + (vs.length + 1) + s.sNalPortUpdate.length
              + s.internalEventFifo.length := by
            rw [StatusMemory.waiting, hcas, hvs]
            rfl
          refine ⟨rfl, .inl ?_⟩
          rw [hlen, StatusMemory.waiting, hcas]
          dsimp only [List.length_nil]
          omega
      · next hvs =>
          split
          · next update updates hupdates =>
              have hlen : s.waiting = 0 + 0 + (updates.length + 1)
                  + s.internalEventFifo.length := by
                rw [StatusMemory.waiting, hcas, hvs, hupdates]
                rfl
              refine ⟨rfl, .inl ?_⟩
              rw [hlen, StatusMemory.waiting, hcas, hvs]
              dsimp only [List.length_nil]
              omega
          · next hupdates =>
              split
              · next nevs events hevents =>
                  have hlen : s.waiting = 0 + 0 + 0 + (events.length + 1) := by
                    rw [StatusMemory.waiting, hcas, hvs, hupdates, hevents]
                    rfl
                  refine ⟨rfl, .inl ?_⟩
                  rw [hlen, StatusMemory.waiting, hcas, hvs, hupdates]
                  dsimp only [List.length_nil]
                  omega
              · next hevents =>
                  refine ⟨(publishWord_same s).2.2.1, .inr ⟨?_, rfl⟩⟩
                  rw [StatusMemory.waiting, hcas, hvs, hupdates, hevents]
                  rfl

/-- Each call brings the end of the items closer. -/
lemma drainWork_call (dec : Bool) (s : StatusMemory) :
    drainWork dec (pStatusMemory s true dec) ≤ drainWork dec s - 1 := by
  rw [pStatusMemory]
  split
  · next hinit =>
      have hwork : drainWork dec s = 2 * s.waiting + resetDue dec s + 1 := by
        rw [drainWork, hinit]
        rfl
      rw [hwork]
      exact le_refl _
  · next hinit =>
      have hinit' : s.tablesInitialized = true := by simpa using hinit
      have hwork : drainWork dec s = 2 * s.waiting + resetDue dec s := by
        rw [drainWork, hinit']
        rfl
      split
      · next hreset =>
          have hdue : resetDue dec s = 1 := if_pos (hreset.resolve_left (by simp))
          rw [hwork, hdue, drainWork]
          dsimp only
          rw [hinit', resetDue]
          simp [StatusMemory.counted, resetCounters, StatusMemory.waiting]
      · next hreset =>
          rw [not_or] at hreset
          have hdue : resetDue dec s = 0 := if_neg hreset.2
          obtain ⟨hinit'', hread | ⟨hzero, hpub⟩⟩ := readItem_waiting s
          · have hle := resetDue_le dec (readItem s)
            rw [hwork, drainWork, hinit'', hinit']
            rw [if_pos rfl]
            omega
          · obtain ⟨hregs, -, -, -, hwaiting⟩ := publishWord_same s
            have hdue' : resetDue dec (publishWord s) = resetDue dec s := by
              rw [resetDue, resetDue, StatusMemory.counted, StatusMemory.counted, hregs]
            rw [hpub] at hinit'' ⊢
            rw [hwork, drainWork, hinit'', hinit', hdue', hdue, hwaiting, hzero]
            rfl

lemma drainWork_cycle (dec : Bool) (s : StatusMemory) (served : Bool) :
    drainWork dec (statusCycle true dec s served) ≤ drainWork dec s - 1 := by
  cases served with
  | true => exact drainWork_call dec s
  | false => exact drainWork_call dec s

/-- After as many calls, everything is read and nothing is to be reset. -/
lemma drain_run (dec : Bool) {s : StatusMemory} {ls : List Bool}
    (hls : drainWork dec s ≤ ls.length) :
    drainWork dec (Clocked.run (statusCycle true dec) s ls) = 0 := by
  induction ls generalizing s with
  | nil => exact Nat.le_zero.mp hls
  | cons served ls ih =>
      rw [Clocked.run_cons]
      refine ih ?_
      have hle := drainWork_cycle dec s served
      rw [List.length_cons] at hls
      omega

lemma waiting_of_drained (h : drainWork dec s = 0) : s.waiting = 0 := by
  rw [drainWork] at h
  omega

/-- From then on every call publishes. -/
lemma cycle_of_drained (h : StatusInv s) (hdrained : drainWork dec s = 0) (served : Bool) :
    (statusCycle true dec s served).publisher
        = s.publisher.cycle statusUpdateDepth (statusWords s.consumed) served ∧
      (statusCycle true dec s served).consumed = s.consumed := by
  have hwaiting := waiting_of_drained hdrained
  have hinit : s.tablesInitialized = true := by
    by_contra hinit
    rw [drainWork, if_neg hinit] at hdrained
    omega
  have hdue : ¬(dec = true ∧ s.counted = true) := by
    intro hdue
    rw [drainWork, resetDue, if_pos hdue] at hdrained
    omega
  have hcall : pStatusMemory s true dec = publishWord s := by
    rw [pStatusMemory, if_neg (by simp [hinit]), if_neg (by simpa using hdue)]
    obtain ⟨-, hread | ⟨-, hpub⟩⟩ := readItem_waiting s
    · omega
    · exact hpub
  have hconsumed := (publishWord_same s).2.1
  cases served with
  | true =>
      have hcycle : statusCycle true dec s true = serveStatus (publishWord s) := by
        rw [statusCycle, if_pos rfl, hcall]
      rw [hcycle, serveStatus_publisher, h.publisher]
      exact ⟨rfl, hconsumed⟩
  | false =>
      have hcycle : statusCycle true dec s false = publishWord s := by
        rw [statusCycle, if_neg (by decide), hcall]
      rw [hcycle, h.publisher]
      exact ⟨rfl, hconsumed⟩

lemma run_of_drained (h : StatusInv s) (hdrained : drainWork dec s = 0) (ms : List Bool) :
    (Clocked.run (statusCycle true dec) s ms).publisher
        = Clocked.run (fun P served => P.cycle statusUpdateDepth (statusWords s.consumed) served)
          s.publisher ms ∧
      (Clocked.run (statusCycle true dec) s ms).consumed = s.consumed := by
  induction ms generalizing s with
  | nil => exact ⟨rfl, rfl⟩
  | cons served ms ih =>
      obtain ⟨hpub, hconsumed⟩ := cycle_of_drained h hdrained served
      have hdrained' : drainWork dec (statusCycle true dec s served) = 0 := by
        have hle := drainWork_cycle dec s served
        omega
      obtain ⟨hrun, hrun'⟩ := ih (h.cycle served) hdrained'
      rw [Clocked.run_cons, Clocked.run_cons, hrun, hrun', hpub, hconsumed]
      exact ⟨rfl, rfl⟩

/-- With layer 7 enabled everything is read, then published. -/
lemma settles_of_enabled (h : StatusInv s) (dec : Bool) : Settles true dec s := by
  refine ⟨drainWork dec s, fun ls ms hls hms => ?_⟩
  have hdrained := drain_run dec hls
  have hinv : StatusInv (Clocked.run (statusCycle true dec) s ls) := by
    have hstep (s : StatusMemory) (k : Bool) (hs : StatusInv s) (_ : True) :
        StatusInv (statusCycle true dec s k) := hs.cycle k
    exact Clocked.run_inv hstep h (Clocked.along_trivial _ s ls)
  obtain ⟨hpub, hconsumed⟩ := run_of_drained hinv hdrained ms
  have hcopy : _ = statusWords (Clocked.run (statusCycle true dec) s ls).consumed :=
    Publisher.copy_of_served (by decide) hinv.synced hms
  refine ⟨waiting_of_drained hdrained, ?_⟩
  rw [Clocked.run_append, hconsumed, ← hcopy, ← hpub]
  rfl

end Enabled

/-! ### Without layer 7 nothing is -/

section Disabled

variable {s : StatusMemory} {dec : Bool}

/-- Nothing waits, and the words that belong to the items are published. -/
def Published (s : StatusMemory) : Prop :=
  s.waiting = 0 ∧ s.oldStatus = statusWords (.reset :: s.consumed)

lemma statusWords_reset (c : List StatusItem) :
    statusWords (.reset :: .reset :: c) = statusWords (.reset :: c) := by
  rw [statusWords, statusWords, regsOf_reset, regsOf_reset, readWords_reset]
  rfl

lemma statusWords_reset_nil : statusWords [.reset] = statusWords [] := by
  rw [statusWords, statusWords, regsOf_reset, readWords_reset]
  rfl

/-- A call without layer 7 resets the counters and does nothing else. -/
lemma call_disabled (h : StatusInv s) :
    (pStatusMemory s false dec).waiting = s.waiting ∧
      (pStatusMemory s false dec).oldStatus = s.oldStatus ∧
        (pStatusMemory s false dec).sStatusUpdate = s.sStatusUpdate ∧
          statusWords (pStatusMemory s false dec).consumed = statusWords (.reset :: s.consumed) ∧
            statusWords (.reset :: (pStatusMemory s false dec).consumed)
              = statusWords (.reset :: s.consumed) := by
  rw [pStatusMemory]
  split
  · next hinit =>
      obtain ⟨hconsumed, hold⟩ := h.start hinit
      refine ⟨rfl, hold.symm, rfl, ?_, rfl⟩
      dsimp only
      rw [hconsumed, statusWords_reset_nil]
  · rw [if_pos (.inl rfl)]
    exact ⟨rfl, rfl, rfl, rfl, statusWords_reset s.consumed⟩

lemma cycle_disabled (h : StatusInv s) (served : Bool) :
    (statusCycle false dec s served).waiting = s.waiting ∧
      (statusCycle false dec s served).oldStatus = s.oldStatus ∧
        (statusCycle false dec s served).sStatusUpdate
          = (if served then s.sStatusUpdate.tail else s.sStatusUpdate) ∧
          statusWords (statusCycle false dec s served).consumed
              = statusWords (.reset :: s.consumed) ∧
            statusWords (.reset :: (statusCycle false dec s served).consumed)
              = statusWords (.reset :: s.consumed) := by
  obtain ⟨hwaiting, hold, hqueue, hwords, hwords'⟩ := @call_disabled _ dec h
  cases served with
  | true =>
      have hcycle : statusCycle false dec s true = serveStatus (pStatusMemory s false dec) := rfl
      rw [hcycle]
      refine ⟨hwaiting, hold, ?_, hwords, hwords'⟩
      rw [serveStatus, hqueue, if_pos rfl]
      cases s.sStatusUpdate <;> rfl
  | false => exact ⟨hwaiting, hold, hqueue, hwords, hwords'⟩

lemma run_disabled (h : StatusInv s) (ls : List Bool) :
    StatusInv (Clocked.run (statusCycle false dec) s ls) ∧
      (Clocked.run (statusCycle false dec) s ls).waiting = s.waiting ∧
        (Clocked.run (statusCycle false dec) s ls).oldStatus = s.oldStatus ∧
          (Clocked.run (statusCycle false dec) s ls).sStatusUpdate.length
            ≤ s.sStatusUpdate.length - ls.count true ∧
            (ls ≠ [] → statusWords (Clocked.run (statusCycle false dec) s ls).consumed
              = statusWords (.reset :: s.consumed)) := by
  induction ls generalizing s with
  | nil => exact ⟨h, rfl, rfl, le_refl _, fun hne => absurd rfl hne⟩
  | cons served ls ih =>
      obtain ⟨hwaiting, hold, hqueue, hwords, hwords'⟩ := @cycle_disabled _ dec h served
      obtain ⟨hinv, hwaiting', hold', hlen, hrest⟩ := @ih (statusCycle false dec s served) (h.cycle served)
      rw [Clocked.run_cons]
      refine ⟨hinv, hwaiting'.trans hwaiting, hold'.trans hold, ?_, fun _ => ?_⟩
      · rw [hqueue] at hlen
        rw [List.count_cons]
        cases served with
        | true =>
            rw [if_pos rfl, List.length_tail] at hlen
            simp only [beq_self_eq_true, if_true]
            omega
        | false =>
            rw [if_neg (by decide)] at hlen
            exact hlen
      · cases ls with
        | nil => exact hwords
        | cons served' ls => rw [hrest (List.cons_ne_nil _ _), hwords']

/-- Without layer 7 everything is read and published only if it is so already. -/
lemma settles_disabled_iff (h : StatusInv s) (dec : Bool) : Settles false dec s ↔ Published s := by
  have hserved {ls : List Bool} (hls : statusBound ≤ ls.count true) :
      (Clocked.run (statusCycle false dec) s ls).waiting = s.waiting ∧
        (Clocked.run (statusCycle false dec) s ls).axiStatus = s.oldStatus ∧
          statusWords (Clocked.run (statusCycle false dec) s ls).consumed
            = statusWords (.reset :: s.consumed) := by
    have hne : ls ≠ [] := by
      rintro rfl
      exact absurd hls (by decide)
    obtain ⟨hinv, hwaiting, hold, hlen, hwords⟩ := @run_disabled _ dec h ls
    have hroom := h.synced.room
    have hqueue : s.publisher.queue.length = s.sStatusUpdate.length := List.length_map _
    have hbound : statusUpdateDepth ≤ statusBound := by decide
    have hempty : (Clocked.run (statusCycle false dec) s ls).sStatusUpdate = [] :=
      List.length_eq_zero_iff.mp (by omega)
    have hsent := hinv.synced.sent
    rw [StatusMemory.publisher, hempty] at hsent
    exact ⟨hwaiting, hsent.trans hold, hwords hne⟩
  constructor
  · rintro ⟨n, hn⟩
    have hms : statusBound ≤ (List.replicate statusBound true).count true := by
      rw [List.count_replicate_self]
    obtain ⟨hzero, hcopy⟩ := hn (List.replicate n true) (List.replicate statusBound true)
      (by rw [List.length_replicate]) hms
    obtain ⟨-, haxi, hwords⟩ := @hserved
      (List.replicate n true ++ List.replicate statusBound true)
      (by rw [List.count_append]; omega)
    refine ⟨?_, ?_⟩
    · rw [← (@run_disabled _ dec h (List.replicate n true)).2.1]
      exact hzero
    · rw [← haxi, hcopy, hwords]
  · rintro ⟨hzero, hold⟩
    refine ⟨0, fun ls ms _ hms => ?_⟩
    obtain ⟨-, haxi, hwords⟩ := @hserved (ls ++ ms) (by rw [List.count_append]; omega)
    refine ⟨?_, ?_⟩
    · rw [(@run_disabled _ dec h ls).2.1]
      exact hzero
    · rw [haxi, hwords, hold]

end Disabled

/-- From every state that is reached, everything is read and published if and only if layer 7 is
enabled, or nothing waits and everything is published already. -/
theorem settles_iff (ks : List StatusStep) (l7 dec : Bool) :
    Settles l7 dec (Clocked.run statusNext {} ks) ↔
      l7 = true ∨ Published (Clocked.run statusNext {} ks) := by
  have hinv := StatusInv.reached ks
  cases l7 with
  | true => exact iff_of_true (settles_of_enabled hinv dec) (.inl rfl)
  | false => exact (settles_disabled_iff hinv dec).trans (by simp)

/-- Without layer 7 the own rank is never read. -/
theorem rank_starved :
    ¬∀ ks l7 dec, Settles l7 dec (Clocked.run statusNext {} ks) := by
  intro h
  have hsettles := h [.config ⟨nalConfigOwnRank, 5⟩] false false
  have hwaiting := ((settles_disabled_iff (StatusInv.reached _) false).mp hsettles).1
  exact absurd hwaiting (by decide)

end CloudFpga.Nal
