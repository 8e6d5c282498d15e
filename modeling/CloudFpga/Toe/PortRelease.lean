import CloudFpga.Toe.PortTable
import CloudFpga.Toe.SessionLookupController

/-!
The release of the local port of a closed connection: from `pReverseLookupTable` of
`session_lookup_controller.cpp` to `pFreePortTable` of `port_table.cpp`.

The controller sends the port as its tables have it, in little-endian order, and the port table
takes it for one in network order.

* `releaseNext`: a step of the controller and of the port table.
* `ReleasesPort`: what the port table has to do for a closed connection; `PortReadable`: its port
  reads the same in both orders, or the wrong one does no harm.
* `portRelease_iff`: along every run the one holds of every release exactly when the other does.
-/

namespace CloudFpga.Toe

open Foundation

/-- The controller and the port table. `closing` is a history variable: the connections for which
the commands were sent that the port table has not yet read. -/
structure PrtState where
  slc : SLcState
  fpt : FptState
  closing : List Connection := []

inductive ReleaseLabel where
  /-- a step of the session lookup controller -/
  | slc (l : SLcLabel)
  /-- a command arrives at the port table -/
  | closeActPortCmd
  /-- a request for a free port -/
  | getFreePortReq
  /-- a query for the state of a port -/
  | getPortStateCmd (portNum : TcpDynPort)
  /-- a call of the port table, while its reply stream is full or not -/
  | fpt (repFull : Bool)

/-- A call takes the next command to release a port. -/
def fptTakesClose (s : FptState) : Bool :=
  s.isFPtInit && !s.searching && !s.eval && s.siIrrGetPortStateCmd.isEmpty &&
    s.siTAiGetFreePortReq.isEmpty

def releaseNext (synthesis : Bool) (s : PrtState) : ReleaseLabel → PrtState
  | .slc l => { s with slc := slcNext s.slc l }
  | .closeActPortCmd =>
      match s.slc.soPRtClosePortCmd with
      | (tcpPort, c) :: cs =>
          { slc := { s.slc with soPRtClosePortCmd := cs }
            fpt := fptNext synthesis s.fpt (.closeActPortCmd tcpPort)
            closing := s.closing ++ [c] }
      | [] => s
  | .getFreePortReq => { s with fpt := fptNext synthesis s.fpt .getFreePortReq }
  | .getPortStateCmd portNum => { s with fpt := fptNext synthesis s.fpt (.getPortStateCmd portNum) }
  | .fpt repFull =>
      { s with
        fpt := fptNext synthesis s.fpt (.call repFull)
        closing := if fptTakesClose s.fpt then s.closing.tail else s.closing }

/-- The port is an ephemeral one, from 32768 on. -/
def ephemeral (p : TcpPort) : Bool := p.getLsbD 15

/-- What a call of the port table that takes the command for a connection has to do: the command
for an actively opened connection names its ephemeral port, which becomes free, and no other; the
one for a passively opened connection on a listening port changes nothing. -/
def ReleasesPort (synthesis : Bool) (s : FptState) (repFull : Bool) (c : Connection) : Prop :=
  let r := pFreePortTable synthesis s repFull
  (c.active → ephemeral c.my.port →
    s.siSLcCloseActPortCmd.head? = some c.my.port ∧ r.2.freed = some (dynPortNum c.my.port) ∧
      r.1.table = Function.update s.table (dynPortNum c.my.port) actFreePort) ∧
  (¬c.active → ¬ephemeral c.my.port → r.1.table = s.table ∧ r.2.exit = false)

/-- The port of a connection is the same with its bytes swapped; or the connection is a passive
one, and the swapped port is an ephemeral one that is free, or is ignored in a build with
`__SYNTHESIS__`. -/
def PortReadable (synthesis : Bool) (s : FptState) (c : Connection) : Prop :=
  (c.active → ephemeral c.my.port → byteSwap16 c.my.port = c.my.port) ∧
  (¬c.active → ¬ephemeral c.my.port →
    if ephemeral (byteSwap16 c.my.port) then
      s.table (dynPortNum (byteSwap16 c.my.port)) = actFreePort
    else synthesis)

instance (synthesis : Bool) (s : FptState) (c : Connection) :
    Decidable (PortReadable synthesis s c) :=
  inferInstanceAs (Decidable ((_ → _ → _) ∧ (_ → _ → _)))

/-- Every command that the port table takes is handled as it has to be. -/
def ReleaseRight (synthesis : Bool) (s : PrtState) : ReleaseLabel → Prop
  | .fpt repFull =>
      fptTakesClose s.fpt → ∀ c ∈ s.closing.head?, ReleasesPort synthesis s.fpt repFull c
  | _ => True

/-- The connection of every command that the port table takes has a readable port. -/
def ReleaseReadable (synthesis : Bool) (s : PrtState) : ReleaseLabel → Prop
  | .fpt _ => fptTakesClose s.fpt → ∀ c ∈ s.closing.head?, PortReadable synthesis s.fpt c
  | _ => True

instance (synthesis : Bool) (s : PrtState) :
    (l : ReleaseLabel) → Decidable (ReleaseReadable synthesis s l)
  | .fpt _ => inferInstanceAs (Decidable (_ → ∀ c ∈ _, _))
  | .slc _ | .closeActPortCmd | .getFreePortReq | .getPortStateCmd _ => isTrue trivial

/-- After a reset of the controller. The port table holds anything, but no command to release a
port. -/
structure PrtReset (s : PrtState) : Prop where
  slc : SLcReset s.slc
  siSLcCloseActPortCmd : s.fpt.siSLcCloseActPortCmd = []
  closing : s.closing = []

/-- The commands name the ports of the connections with their bytes swapped. -/
structure PrtInv (s : PrtState) : Prop where
  slc : SLcTagged s.slc
  cmds : s.fpt.siSLcCloseActPortCmd = s.closing.map fun c => byteSwap16 c.my.port

lemma PrtReset.inv {s : PrtState} (h : PrtReset s) : PrtInv s :=
  ⟨h.slc.tagged, by rw [h.siSLcCloseActPortCmd, h.closing, List.map_nil]⟩

section Steps

variable {synthesis : Bool} {s : PrtState}

/-- A call that takes the next command. -/
lemma pFreePortTable_of_takesClose {f : FptState} (h : fptTakesClose f) (repFull : Bool)
    {p : TcpPort} {ps : List TcpPort} (hp : f.siSLcCloseActPortCmd = p :: ps) :
    pFreePortTable synthesis f repFull = fptClose synthesis f p ps := by
  simp only [fptTakesClose, Bool.and_eq_true, Bool.not_eq_true', List.isEmpty_iff] at h
  obtain ⟨⟨⟨⟨hi, hs⟩, he⟩, hq⟩, hr⟩ := h
  simp only [pFreePortTable, hi, hs, he, hq, hr, hp]
  rfl

/-- The commands that are left after a call. -/
lemma siSLcCloseActPortCmd_call (f : FptState) (repFull : Bool) :
    (pFreePortTable synthesis f repFull).1.siSLcCloseActPortCmd
      = if fptTakesClose f then f.siSLcCloseActPortCmd.tail else f.siSLcCloseActPortCmd := by
  split
  · next h =>
      cases hp : f.siSLcCloseActPortCmd with
      | cons p ps =>
          rw [pFreePortTable_of_takesClose h repFull hp, fptClose]
          split <;> rfl
      | nil =>
          simp only [fptTakesClose, Bool.and_eq_true, Bool.not_eq_true', List.isEmpty_iff] at h
          obtain ⟨⟨⟨⟨hi, hs⟩, he⟩, hq⟩, hr⟩ := h
          simp [pFreePortTable, hi, hs, he, hq, hr, hp]
  · next h =>
      have hcall := pFreePortTable_cases synthesis f repFull
      generalize pFreePortTable synthesis f repFull = r at hcall ⊢
      cases hcall with
      | close hi hs he hq hr hc => simp [fptTakesClose, hi, hs, he, hq, hr] at h
      | _ => rfl

lemma PrtInv.next (h : PrtInv s) (l : ReleaseLabel) : PrtInv (releaseNext synthesis s l) := by
  obtain ⟨hslc, hcmds⟩ := h
  cases l with
  | slc l => exact ⟨slcNext_tagged hslc l, hcmds⟩
  | closeActPortCmd =>
      rw [releaseNext]
      split
      · next tcpPort c cs hport =>
          obtain ⟨h1, h2, h3, h4, h5, h6, h7⟩ := hslc
          rw [hport, List.forall_mem_cons] at h7
          refine ⟨⟨h1, h2, h3, h4, h5, h6, h7.2⟩, ?_⟩
          rw [List.map_append, ← hcmds, fptNext]
          exact congrArg _ (congrArg (fun p => [p]) h7.1)
      · exact ⟨hslc, hcmds⟩
  | getFreePortReq => exact ⟨hslc, hcmds⟩
  | getPortStateCmd portNum => exact ⟨hslc, hcmds⟩
  | fpt repFull =>
      refine ⟨hslc, ?_⟩
      rw [releaseNext, fptNext, siSLcCloseActPortCmd_call, hcmds]
      split
      · rw [List.map_tail]
      · rfl

/-- The port table handles a command as it has to exactly when the port is readable. -/
lemma releasesPort_iff {f : FptState} (h : fptTakesClose f) (repFull : Bool) {c : Connection}
    {ps : List TcpPort} (hp : f.siSLcCloseActPortCmd = byteSwap16 c.my.port :: ps) :
    ReleasesPort synthesis f repFull c ↔ PortReadable synthesis f c := by
  rw [ReleasesPort, PortReadable, pFreePortTable_of_takesClose h repFull hp, hp, List.head?_cons,
    Option.some.injEq]
  refine and_congr (forall_congr' fun _ => forall_congr' fun heph => ?_)
    (forall_congr' fun _ => forall_congr' fun _ => ?_)
  · constructor
    · exact fun hr => hr.1
    · intro heq
      have hbit : c.my.port.getLsbD 15 = true := heph
      rw [heq, fptClose, if_pos hbit]
      exact ⟨rfl, rfl, rfl⟩
  · rw [fptClose, ephemeral]
    split
    · exact (and_iff_left rfl).trans (Function.update_eq_self_iff.trans eq_comm)
    · simp

/-- A step handles a command as it has to exactly when the port is readable. -/
lemma releaseRight_iff (h : PrtInv s) (l : ReleaseLabel) :
    ReleaseRight synthesis s l ↔ ReleaseReadable synthesis s l := by
  cases l with
  | fpt repFull =>
      refine forall_congr' fun htake => forall_congr' fun c => forall_congr' fun hc => ?_
      obtain ⟨cs, hcs⟩ := List.head?_eq_some_iff.mp hc
      exact releasesPort_iff htake repFull (by rw [h.cmds, hcs, List.map_cons])
  | _ => exact Iff.rfl

end Steps

/-- **Release of the ports**: from every reset, along every interleaving of the session lookups,
insertions, releases and port requests, every command for a closed connection is handled as it has
to be exactly when every one is for a connection with a readable port. -/
theorem portRelease_iff {synthesis : Bool} {s : PrtState} (hs : PrtReset s) (ls : List ReleaseLabel) :
    Clocked.Along (releaseNext synthesis) (ReleaseRight synthesis) s ls ↔
      Clocked.Along (releaseNext synthesis) (ReleaseReadable synthesis) s ls :=
  Clocked.along_iff (fun _ l h => releaseRight_iff h l) (fun _ l h _ => h.next l) hs.inv

/-- The controller after power-up. -/
def slcStart : SLcState where
  cam _ := none
  reverseLookupTable _ := (⟨0, 0, 0, 0⟩, ⟨false, ⟨0, 0⟩, ⟨0, 0⟩⟩)
  tupleValidTable _ := false

lemma slcStart_reset : SLcReset slcStart := ⟨rfl, rfl, rfl, rfl, rfl, rfl, rfl⟩

/-- The controller takes a lookup, creates the session 0 for it, and releases it. -/
def openAndRelease (lookup : SLcLabel) : List ReleaseLabel :=
  (List.replicate 9 (SLcLabel.reverseLookupTable true true true) ++
    [SLcLabel.sessionIdManager true, lookup, .lookupReplyHandler .free, .camLookup 0,
      .lookupReplyHandler .free, .updateRequestSender true true, .camUpdate, .updateReplyHandler,
      .lookupReplyHandler .free, .reverseLookupTable true true true, .release 0,
      .reverseLookupTable true true true]).map .slc

/-- The port table is initialised. -/
def prtReady : PrtState where
  slc := slcStart
  fpt := { fptStart with isFPtInit := true, dynPortNum := 0 }

/-- A SYN for the port 80. -/
def synTo80 : SLcLabel :=
  .rxeLookup ⟨1000, 0, 0, 0, false, false, true, false⟩ ⟨⟨0x0A000002, 4000⟩, ⟨0x0A000001, 80⟩⟩

/-- The release of a connection on the port 80 is ignored in a build with `__SYNTHESIS__`. -/
theorem portRelease_iff_port80 :
    Clocked.Along (releaseNext true) (ReleaseRight true) prtReady
      (openAndRelease synTo80 ++ [.closeActPortCmd, .fpt false]) :=
  (portRelease_iff ⟨slcStart_reset, rfl, rfl⟩ _).mpr (by decide)

/-- After power-up. -/
def prtStart : PrtState where
  slc := slcStart
  fpt := fptStart

/-- The port table is initialised before anything else. -/
lemma run_fpt {synthesis : Bool} (n : ℕ) (f : FptState) :
    Clocked.run (releaseNext synthesis) { slc := slcStart, fpt := f } (List.replicate n (.fpt false))
      = { slc := slcStart
          fpt := Clocked.run (fptNext synthesis) f (List.replicate n (.call false)) } := by
  induction n generalizing f with
  | zero => rfl
  | succ n ih =>
      have hstep : releaseNext synthesis { slc := slcStart, fpt := f } (.fpt false)
          = { slc := slcStart, fpt := fptNext synthesis f (.call false) } := by
        rw [releaseNext]
        split <;> rfl
      rw [List.replicate_succ, Clocked.run_cons, hstep, ih, List.replicate_succ, Clocked.run_cons]

/-- The application gets the port 32768 and opens a connection from it, which is closed. -/
def openClose32768 : List ReleaseLabel :=
  [.getFreePortReq, .fpt false, .fpt false, .fpt false] ++
    (openAndRelease (.taiLookup ⟨⟨0x0A000001, 0x8000⟩, ⟨0x0A000002, 80⟩⟩) ++ [.closeActPortCmd])

/-- The very first ephemeral port is never given back: the command names the port 128. -/
theorem portRelease_keeps_32768 :
    PrtReset prtStart ∧ ¬Clocked.Along (releaseNext true) (ReleaseRight true) prtStart
      (List.replicate 0x7FFF (.fpt false) ++ (openClose32768 ++ [.fpt false])) := by
  refine ⟨⟨slcStart_reset, rfl, rfl⟩, fun h => ?_⟩
  have hinit : Clocked.run (releaseNext true) prtStart (List.replicate 0x7FFF (.fpt false))
      = prtReady := by
    rw [prtStart, run_fpt, prtReady]
    exact congrArg (PrtState.mk slcStart · []) (@run_init true _ fptStart.dynPortNum rfl (by decide))
  rw [Clocked.along_append, hinit, Clocked.along_append] at h
  have hlast := h.2.2.1
  have hnames := ((hlast (by decide) ⟨true, ⟨0x0A000001, 0x8000⟩, ⟨0x0A000002, 80⟩⟩ (by decide)).1
    (by decide) (by decide)).1
  revert hnames
  decide

end CloudFpga.Toe
