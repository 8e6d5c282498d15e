import CloudFpga.Nal.Hss.MrtAgency

/-!
The routing table of the FMC (FPGA management core), `fmc.cpp` and `http.cpp`: the operations that
change it, `OP_BUFFER_TO_ROUTING` and `OP_CLEAR_ROUTING_TABLE`.

* `HttpBuffer`: the bytes of a request. `readLine`: the line of a routing table at an index of it.
* `opBufferToRouting`, `opClearRoutingTable`: the operations.
* `routingLines`: the lines that a request holds; `routingLoop_spec`: the table after the loop is
  the one before with these lines, up to the first one with an invalid rank.
-/

namespace CloudFpga.Fmc

open Nal

abbrev Byte := BitVec 8

/-- `OprvType`, the results of the operations. -/
inductive Oprv where
  | ok | fail | skipped | notComplete | partialComplete | done | user
  deriving DecidableEq, Repr

/-- The states of the link to the NAL. `LINKFSM_UPDATE_MRT` has the index of the next row as an
argument. In its last call it writes a row and then the version; `updateVersion` lies between. -/
inductive LinkFsmState where
  | idle | wait
  | updateMrt (mrtCopyIndex : Fin maxMrtSize)
  | updateVersion
  | updateConfig
  | updateState (nalStatusRequestCnt : Fin numberStatusWords)
  | updateSavedState
  deriving DecidableEq, Repr

structure FmcState where
  currentMRT : Mrt := fun _ => 0
  maxDiscoveredNodeId : Fin maxMrtSize := 0
  currentNrcMrtVersion : Word := 0
  currentNrcConfig : Fin numberConfigWords → Word := fun _ => 0
  needToUpdateNrcMrt : Bool := false
  needToUpdateNrcConfig : Bool := false
  linkCtrlFSM : LinkFsmState := .wait
  ctrlLinkNextCheckSeconds : Word := 0
  nalStatus : Fin numberStatusWords → Word := fun _ => 0
  nalStatusDisabled : Bool := false
  nodeRank : Word := 0
  bufferInPtrNextRead : ℕ := 0
  lastReturnValue : Oprv := .ok
  invalidPayload : Bool := false
  transferError : Bool := false

/-- The buffer of a request, with the pointers to it and the order of the bytes of an address. -/
structure HttpBuffer where
  bufferIn : List Byte
  bufferInPtrNextRead : ℕ
  bufferInPtrMaxWrite : ℕ
  notToSwap : Bool := false
  deriving DecidableEq

/-- A line of a routing table. -/
structure RoutingLine where
  rankID : Word
  address : Ip4Addr
  deriving DecidableEq

/-- `MIN_ROUTING_TABLE_LINE`: rank, space, address and newline. -/
def minRoutingTableLine : ℕ := 1 + 1 + 4 + 1

/-! ### The text of a request -/

/-- `my_wordlen`: the characters before the next space. -/
def myWordlen (s : List Byte) : ℕ := (s.takeWhile fun c => c ≠ 0x20).length

/-- `my_atoi`. The digits are not checked. -/
def myAtoi (str : List Byte) (strlen : ℕ) : Word :=
  (str.take strlen).foldl (fun res c => res * 10 + (c.signExtend 32 - 0x30)) 0

namespace HttpBuffer

variable (b : HttpBuffer)

def byte (i : ℕ) : Byte := b.bufferIn.getD i 0

/-- The end of a header, two line breaks. -/
def IsHttpNL (i : ℕ) : Prop :=
  b.byte i = 0x0D ∧ b.byte (i + 1) = 0x0A ∧ b.byte (i + 2) = 0x0D ∧ b.byte (i + 3) = 0x0A

instance (i : ℕ) : Decidable (b.IsHttpNL i) := inferInstanceAs (Decidable (_ ∧ _))

/-- `request_len`: the bytes before two line breaks, or `-1` if they are not among the first
`maxLength` bytes. -/
def requestLen (offset : ℕ) (maxLength : ℤ) : ℤ :=
  if b.byte offset = 0 then 0
  else
    match (List.range maxLength.toNat).find? fun sum => b.IsHttpNL (offset + sum) with
    | some sum => sum
    | none => -1

/-- The length of the body, which is positive if the body is complete. -/
def bodyLen : ℤ :=
  b.requestLen (b.bufferInPtrNextRead % 2 ^ 16) (b.bufferInPtrMaxWrite - b.bufferInPtrNextRead)

/-- The end of the loop over the lines. -/
def maxWhile : ℤ :=
  if 0 < b.bodyLen then b.bufferInPtrNextRead + b.bodyLen
  else b.bufferInPtrMaxWrite - minRoutingTableLine

/-- The four bytes of an address. -/
def address (i : ℕ) : Ip4Addr :=
  if b.notToSwap then b.byte (i + 3) ++ b.byte (i + 2) ++ b.byte (i + 1) ++ b.byte i
  else b.byte i ++ b.byte (i + 1) ++ b.byte (i + 2) ++ b.byte (i + 3)

/-- The line at `i` and the index behind it, if the loop goes on and the line is there. -/
def readLine (i : ℕ) : Option (RoutingLine × ℕ) :=
  let intStart := b.bufferIn.drop i
  let intLen := myWordlen intStart
  if (i : ℤ) < b.maxWhile then
    if b.bufferInPtrMaxWrite < i + intLen + 1 + 4 + 1 then none
    else some (⟨myAtoi intStart intLen, b.address (i + intLen + 1)⟩, i + intLen + 1 + 4 + 1)
  else none

/-- A line is read only before the end of the loop, and the index moves on. -/
lemma readLine_lt {i j : ℕ} {l : RoutingLine} (h : b.readLine i = some (l, j)) :
    (i : ℤ) < b.maxWhile ∧ i < j := by
  rw [readLine] at h
  split at h
  · split at h
    · cases h
    · cases h
      exact ⟨‹_›, by omega⟩
  · cases h

/-- The lines from `i` on. The first argument bounds their number. -/
def linesFrom : ℕ → ℕ → List RoutingLine
  | 0, _ => []
  | n + 1, i =>
      match b.readLine i with
      | some (l, j) => l :: linesFrom n j
      | none => []

/-- The lines of the request. -/
def routingLines : List RoutingLine := b.linesFrom b.maxWhile.toNat b.bufferInPtrNextRead

end HttpBuffer

/-! ### The operations -/

/-- A row is set. -/
def FmcState.setRow (f : FmcState) (rankID : Fin maxMrtSize) (address : Ip4Addr) : FmcState :=
  { f with
    currentMRT := Function.update f.currentMRT rankID address
    maxDiscoveredNodeId := max f.maxDiscoveredNodeId rankID }

/-- The loop over the lines. Every line is longer than zero bytes, so that the first argument is
never used up before the end. -/
def routingLoop (b : HttpBuffer) : ℕ → ℕ → FmcState → FmcState
  | 0, i, f => { f with bufferInPtrNextRead := i }
  | n + 1, i, f =>
      match b.readLine i with
      | none => { f with bufferInPtrNextRead := i }
      | some (l, j) =>
          if h : l.rankID.toNat < maxMrtSize then
            routingLoop b n j (f.setRow ⟨l.rankID.toNat, h⟩ l.address)
          else
            { f with
              invalidPayload := true
              lastReturnValue := .done
              needToUpdateNrcMrt := false
              currentNrcMrtVersion := f.currentNrcMrtVersion - 1
              bufferInPtrNextRead := j }

/-- `OP_BUFFER_TO_ROUTING`. -/
def opBufferToRouting (b : HttpBuffer) (disableCtrlLink : Bool) (f : FmcState) : FmcState :=
  if disableCtrlLink then { f with lastReturnValue := .fail, transferError := true }
  else
    routingLoop b b.maxWhile.toNat b.bufferInPtrNextRead
      (if 0 < b.bodyLen then
        { f with
          needToUpdateNrcMrt := true
          lastReturnValue := .done
          currentNrcMrtVersion := f.currentNrcMrtVersion + 1 }
      else { f with needToUpdateNrcMrt := true, lastReturnValue := .notComplete })

/-- `OP_CLEAR_ROUTING_TABLE`. The loop ends before `max_discovered_node_id`. -/
def opClearRoutingTable (f : FmcState) : FmcState :=
  { f with
    needToUpdateNrcMrt := true
    currentNrcMrtVersion := f.currentNrcMrtVersion + 1
    currentMRT := fun i => if i < f.maxDiscoveredNodeId then 0 else f.currentMRT i }

/-! ### What the loop does -/

/-- The rank is one of the table. -/
def RoutingLine.Valid (l : RoutingLine) : Prop := l.rankID.toNat < maxMrtSize

instance (l : RoutingLine) : Decidable l.Valid := inferInstanceAs (Decidable (_ < _))

/-- The table holds the address of the line already. -/
def RoutingLine.Repeats (l : RoutingLine) (t : Mrt) : Prop :=
  ∀ h : l.rankID.toNat < maxMrtSize, t ⟨l.rankID.toNat, h⟩ = l.address

instance (l : RoutingLine) (t : Mrt) : Decidable (l.Repeats t) :=
  inferInstanceAs (Decidable (∀ _ : l.rankID.toNat < maxMrtSize, _))

/-- What the loop over some lines does to the FMC, which has the version `v` before it. -/
structure RoutingDone (ls : List RoutingLine) (v : Word) (f g : FmcState) : Prop where
  row : ∀ r, g.currentMRT r = f.currentMRT r ∨
    ∃ l ∈ ls.takeWhile (·.Valid), l.rankID.toNat = r.val ∧ g.currentMRT r = l.address
  unset : ∀ r, g.maxDiscoveredNodeId < r → g.currentMRT r = f.currentMRT r
  max : f.maxDiscoveredNodeId ≤ g.maxDiscoveredNodeId
  version : g.currentNrcMrtVersion = v - if ∀ l ∈ ls, l.Valid then 0 else 1
  link : g.linkCtrlFSM = f.linkCtrlFSM

/-- The loop sets the rows of the lines before the first one with an invalid rank. -/
lemma routingLoop_spec (b : HttpBuffer) (n i : ℕ) (f : FmcState) :
    RoutingDone (b.linesFrom n i) f.currentNrcMrtVersion f (routingLoop b n i f) := by
  induction n generalizing i f with
  | zero => exact ⟨fun r => .inl rfl, fun r _ => rfl, le_rfl, by simp [HttpBuffer.linesFrom,
      routingLoop], rfl⟩
  | succ n ih =>
      rw [HttpBuffer.linesFrom, routingLoop]
      cases hl : b.readLine i with
      | none => exact ⟨fun r => .inl rfl, fun r _ => rfl, le_rfl, by simp, rfl⟩
      | some lj =>
          obtain ⟨l, j⟩ := lj
          dsimp only
          by_cases hv : l.rankID.toNat < maxMrtSize
          · rw [dif_pos hv]
            have hloop := ih j (f.setRow ⟨l.rankID.toNat, hv⟩ l.address)
            have htake : (l :: b.linesFrom n j).takeWhile (·.Valid) =
                l :: (b.linesFrom n j).takeWhile (·.Valid) :=
              List.takeWhile_cons_of_pos (by exact decide_eq_true hv)
            refine ⟨fun r => ?_, fun r hr => ?_, ?_, ?_, hloop.link⟩
            · rcases hloop.row r with hr | ⟨l', hl', hr⟩
              · by_cases hrow : l.rankID.toNat = r.val
                · refine .inr ⟨l, htake ▸ List.mem_cons_self, hrow, hr.trans ?_⟩
                  have hidx : (⟨l.rankID.toNat, hv⟩ : Fin maxMrtSize) = r := Fin.ext hrow
                  exact hidx ▸ Function.update_self ..
                · refine .inl (hr.trans (Function.update_of_ne ?_ ..))
                  exact fun h => hrow (congrArg Fin.val h).symm
              · exact .inr ⟨l', htake ▸ List.mem_cons_of_mem _ hl', hr⟩
            · refine (hloop.unset r hr).trans (Function.update_of_ne ?_ ..)
              have hmax : (⟨l.rankID.toNat, hv⟩ : Fin maxMrtSize) ≤ _ :=
                (le_max_right _ _).trans hloop.max
              exact (lt_of_le_of_lt hmax hr).ne'
            · exact (le_max_left _ _).trans hloop.max
            · rw [hloop.version]
              congr 1
              exact if_congr (by simp [RoutingLine.Valid, hv]) rfl rfl
          · rw [dif_neg hv]
            refine ⟨fun r => .inl rfl, fun r _ => rfl, le_rfl, ?_, rfl⟩
            rw [if_neg fun h => hv (h l List.mem_cons_self)]

/-- A request sets the rows of its lines before the first one with an invalid rank. -/
lemma opBufferToRouting_spec (b : HttpBuffer) (f : FmcState) :
    RoutingDone b.routingLines
      (if 0 < b.bodyLen then f.currentNrcMrtVersion + 1 else f.currentNrcMrtVersion) f
      (opBufferToRouting b false f) := by
  rw [opBufferToRouting, if_neg Bool.false_ne_true]
  split_ifs
  · have hloop := routingLoop_spec b b.maxWhile.toNat b.bufferInPtrNextRead
      { f with
        needToUpdateNrcMrt := true
        lastReturnValue := .done
        currentNrcMrtVersion := f.currentNrcMrtVersion + 1 }
    exact ⟨hloop.row, hloop.unset, hloop.max, hloop.version, hloop.link⟩
  · have hloop := routingLoop_spec b b.maxWhile.toNat b.bufferInPtrNextRead
      { f with needToUpdateNrcMrt := true, lastReturnValue := .notComplete }
    exact ⟨hloop.row, hloop.unset, hloop.max, hloop.version, hloop.link⟩

/-- Lines that repeat the table do not change it. -/
lemma RoutingDone.same {ls : List RoutingLine} {v : Word} {f g : FmcState}
    (h : RoutingDone ls v f g)
    (hrep : ∀ l ∈ ls.takeWhile (·.Valid), l.Repeats f.currentMRT) :
    g.currentMRT = f.currentMRT := by
  funext r
  rcases h.row r with hr | ⟨l, hl, hrow, hr⟩
  · exact hr
  · have hval : l.rankID.toNat < maxMrtSize := hrow ▸ r.isLt
    have hidx : (⟨l.rankID.toNat, hval⟩ : Fin maxMrtSize) = r := Fin.ext hrow
    exact hr.trans (hidx ▸ (hrep l hl hval).symm)

end CloudFpga.Fmc
