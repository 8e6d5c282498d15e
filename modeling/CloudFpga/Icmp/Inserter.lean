import CloudFpga.Icmp.EchoReply

/-!
The dropper and the checksum inserter of the ICMP server, `pInvalidPacketDropper` and
`pIcmpChecksumInserter` of `icmp.cpp`.

* `IpdInv`: what the dropper will write, by the packets and commands that are still to come;
  `IpdInv.step`.
* `IciInv`: what the inserter has written, by the packets and checksums of its two sources that are
  still to come; `IciInv.step`.
* `IciInv.blocks`: what it has written is made of whole packets, of each source in its order.
-/

namespace CloudFpga.Icmp

open Foundation AxisRaw Toe Uoe

/-! ### The dropper -/

structure IpdState where
  isFirstChunk : Bool := true
  drop : Bool := false
  deriving DecidableEq

/-- The state behind a chunk. -/
def ipdNext (s : IpdState) (currChunk : AxisIp4) : IpdState :=
  if currChunk.tlast then { isFirstChunk := true, drop := false } else s

/-- One call of the dropper, on its input streams: its state, the streams, and what it writes. -/
def pInvalidPacketDropper (s : IpdState) (siICcData : List AxisIp4) (siICcDropCmd : List CmdBit) :
    IpdState × List AxisIp4 × List CmdBit × List AxisIp4 :=
  match siICcData with
  | [] => (s, [], siICcDropCmd, [])
  | currChunk :: cs =>
      if s.isFirstChunk then
        match siICcDropCmd with
        | [] => (s, currChunk :: cs, [], [])
        | dropCmd :: ks =>
            if dropCmd = cmdKeep then
              (ipdNext { s with isFirstChunk := false } currChunk, cs, ks, [currChunk])
            else (ipdNext { isFirstChunk := false, drop := true } currChunk, cs, ks, [])
      else if s.drop then (ipdNext s currChunk, cs, siICcDropCmd, [])
      else (ipdNext s currChunk, cs, siICcDropCmd, [currChunk])

/-- The command for a packet. -/
def dropCmd (keep : Bool) : CmdBit := if keep then cmdKeep else cmdDrop

/-- The packets that are kept. -/
def keptChunks (items : List (List AxisIp4 × Bool)) : List AxisIp4 :=
  (items.filter Prod.snd).flatMap Prod.fst

/-- What the dropper will write for the chunks and the commands that are still to come. -/
inductive IpdInv : IpdState → List AxisIp4 → List CmdBit → List AxisIp4 → Prop
  | idle {items : List (List AxisIp4 × Bool)} (hitems : ∀ p ∈ items, IsStream p.1) :
      IpdInv {} (items.flatMap Prod.fst) (items.map fun p => dropCmd p.2) (keptChunks items)
  | mid {cs : List AxisIp4} {keep : Bool} {items : List (List AxisIp4 × Bool)} (hcs : IsStream cs)
      (hitems : ∀ p ∈ items, IsStream p.1) :
      IpdInv { isFirstChunk := false, drop := !keep } (cs ++ items.flatMap Prod.fst)
        (items.map fun p => dropCmd p.2) ((if keep then cs else []) ++ keptChunks items)

lemma keptChunks_cons (p : List AxisIp4 × Bool) (items : List (List AxisIp4 × Bool)) :
    keptChunks (p :: items) = (if p.2 then p.1 else []) ++ keptChunks items := by
  rw [keptChunks, List.filter_cons]
  split_ifs <;> rfl

/-- Behind a chunk of a packet. -/
lemma IpdInv.chunk {c : AxisIp4} {cs : List AxisIp4} {keep : Bool}
    {items : List (List AxisIp4 × Bool)} (hcs : IsStream (c :: cs))
    (hitems : ∀ p ∈ items, IsStream p.1) :
    IpdInv (ipdNext { isFirstChunk := false, drop := !keep } c) (cs ++ items.flatMap Prod.fst)
      (items.map fun p => dropCmd p.2) ((if keep then cs else []) ++ keptChunks items) := by
  rw [ipdNext]
  cases hlast : c.tlast with
  | true =>
      rw [(isPacket_cons_of_last hlast).mp hcs, if_pos rfl, List.nil_append, ite_self,
        List.nil_append]
      exact .idle hitems
  | false =>
      rw [if_neg Bool.false_ne_true]
      exact .mid ((isPacket_cons_of_not_last hlast).mp hcs) hitems

/-- A call writes the first part of what will be written. -/
lemma IpdInv.step {s : IpdState} {data D : List AxisIp4} {cmds K : List CmdBit} {O : List AxisIp4}
    (h : IpdInv s (data ++ D) (cmds ++ K) O) :
    ∃ O', O = (pInvalidPacketDropper s data cmds).2.2.2 ++ O' ∧
      IpdInv (pInvalidPacketDropper s data cmds).1
        ((pInvalidPacketDropper s data cmds).2.1 ++ D)
        ((pInvalidPacketDropper s data cmds).2.2.1 ++ K) O' := by
  cases data with
  | nil => exact ⟨O, rfl, h⟩
  | cons c data =>
      generalize hY : (c :: data) ++ D = Y at h
      generalize hK : cmds ++ K = Ks at h
      rw [List.cons_append] at hY
      cases h with
      | @idle items hitems =>
          cases cmds with
          | nil =>
              refine ⟨_, rfl, ?_⟩
              have hsame : pInvalidPacketDropper {} (c :: data) [] = ({}, c :: data, [], []) := rfl
              rw [hsame, List.cons_append, hY, hK]
              exact .idle hitems
          | cons k cmds =>
              cases items with
              | nil => cases hK
              | cons p items =>
                  obtain ⟨hp, hrest⟩ := List.forall_mem_cons.mp hitems
                  obtain ⟨cs, keep⟩ := p
                  rw [List.map_cons, List.cons_append, List.cons.injEq] at hK
                  obtain ⟨rfl, hK⟩ := hK
                  cases cs with
                  | nil => exact absurd hp id
                  | cons c' cs =>
                      rw [List.flatMap_cons, List.cons_append, List.cons.injEq] at hY
                      obtain ⟨rfl, hY⟩ := hY
                      refine ⟨(if keep then cs else []) ++ keptChunks items, ?_, ?_⟩
                      · rw [keptChunks_cons]
                        cases keep <;> rfl
                      · have hnext := @IpdInv.chunk _ _ keep _ hp hrest
                        rw [← hY, ← hK] at hnext
                        cases keep <;> exact hnext
      | @mid cs keep items hcs hitems =>
          cases cs with
          | nil => exact absurd hcs id
          | cons c' cs =>
              rw [List.cons_append, List.cons.injEq] at hY
              obtain ⟨rfl, hY⟩ := hY
              have hnext := @IpdInv.chunk _ _ keep _ hcs hitems
              rw [← hY, ← hK] at hnext
              refine ⟨(if keep then cs else []) ++ keptChunks items, ?_, ?_⟩
              · cases keep <;> rfl
              · cases keep <;> exact hnext

/-! ### The inserter -/

/-- `siXYz_Data[0]` and `siUVw_Csum[0]`, from the dropper and the checker. -/
def fromEcho : Bool := false

/-- `siXYz_Data[1]` and `siUVw_Csum[1]`, of the control messages. -/
def fromMessage : Bool := true

structure IciState where
  chunkCount : BitVec 7 := 0
  dataStreamSource : Bool := fromEcho
  deriving DecidableEq

/-- The state of the inserter, its input streams by their source, and what it writes. -/
structure IciCall where
  state : IciState
  siXYzData : Bool → List AxisIp4
  siUVwCsum : Bool → List IcmpCsum
  soIPTXData : List AxisIp4

section Call

variable (s : IciState) (xyz : Bool → List AxisIp4) (uvw : Bool → List IcmpCsum)

/-- The first chunk of a packet is forwarded. -/
def iciFirst (source : Bool) (inputChunk : AxisIp4) (cs : List AxisIp4) : IciCall where
  state := { chunkCount := s.chunkCount + 1, dataStreamSource := source }
  siXYzData := Function.update xyz source cs
  siUVwCsum := uvw
  soIPTXData := [inputChunk]

/-- One call of the inserter. -/
def pIcmpChecksumInserter : IciCall :=
  match s.chunkCount.toNat with
  | 0 =>
      match xyz fromEcho, xyz fromMessage with
      | inputChunk :: cs, _ => iciFirst s xyz uvw fromEcho inputChunk cs
      | [], inputChunk :: cs => iciFirst s xyz uvw fromMessage inputChunk cs
      | [], [] => ⟨s, xyz, uvw, []⟩
  | 2 =>
      match xyz s.dataStreamSource, uvw s.dataStreamSource with
      | inputChunk :: cs, icmpChecksum :: csums =>
          { state := { s with chunkCount := s.chunkCount + 1 }
            siXYzData := Function.update xyz s.dataStreamSource cs
            siUVwCsum := Function.update uvw s.dataStreamSource csums
            soIPTXData := [setIcmpCsum inputChunk icmpChecksum] }
      | _, _ => ⟨s, xyz, uvw, []⟩
  | _ =>
      match xyz s.dataStreamSource with
      | inputChunk :: cs =>
          { state :=
              { s with chunkCount := if inputChunk.tlast then 0 else s.chunkCount + 1 }
            siXYzData := Function.update xyz s.dataStreamSource cs
            siUVwCsum := uvw
            soIPTXData := [inputChunk] }
      | [] => ⟨s, xyz, uvw, []⟩

end Call

/-- What a call of the inserter does. -/
inductive IciStep (s : IciState) (xyz : Bool → List AxisIp4) (uvw : Bool → List IcmpCsum) :
    IciCall → Prop
  | wait (hfirst : s.chunkCount = 0 → ∀ i, xyz i = [])
      (hinsert : s.chunkCount = 2 → xyz s.dataStreamSource = [] ∨ uvw s.dataStreamSource = [])
      (hnext : s.chunkCount ≠ 0 → s.chunkCount ≠ 2 → xyz s.dataStreamSource = []) :
      IciStep s xyz uvw ⟨s, xyz, uvw, []⟩
  | first {i : Bool} {c : AxisIp4} {cs : List AxisIp4} (hs : s.chunkCount = 0)
      (hxyz : xyz i = c :: cs) : IciStep s xyz uvw (iciFirst s xyz uvw i c cs)
  | insert {c : AxisIp4} {cs : List AxisIp4} {csum : IcmpCsum} {csums : List IcmpCsum}
      (hs : s.chunkCount = 2) (hxyz : xyz s.dataStreamSource = c :: cs)
      (huvw : uvw s.dataStreamSource = csum :: csums) :
      IciStep s xyz uvw
        { state := { s with chunkCount := s.chunkCount + 1 }
          siXYzData := Function.update xyz s.dataStreamSource cs
          siUVwCsum := Function.update uvw s.dataStreamSource csums
          soIPTXData := [setIcmpCsum c csum] }
  | forward {c : AxisIp4} {cs : List AxisIp4} (hne : s.chunkCount ≠ 0) (hne' : s.chunkCount ≠ 2)
      (hxyz : xyz s.dataStreamSource = c :: cs) :
      IciStep s xyz uvw
        { state := { s with chunkCount := if c.tlast then 0 else s.chunkCount + 1 }
          siXYzData := Function.update xyz s.dataStreamSource cs
          siUVwCsum := uvw
          soIPTXData := [c] }

lemma pIcmpChecksumInserter_cases (s : IciState) (xyz : Bool → List AxisIp4)
    (uvw : Bool → List IcmpCsum) : IciStep s xyz uvw (pIcmpChecksumInserter s xyz uvw) := by
  rw [pIcmpChecksumInserter]
  split
  · next h =>
      have hs : s.chunkCount = 0 := BitVec.eq_of_toNat_eq h
      have hne : s.chunkCount ≠ 2 := by rw [hs]; decide
      split
      · next hxyz => exact .first hs hxyz
      · next hxyz => exact .first hs hxyz
      · next hecho hmessage =>
          refine .wait (fun _ i => ?_) (fun h2 => absurd h2 hne) (fun h0 => absurd hs h0)
          cases i with
          | false => exact hecho
          | true => exact hmessage
  · next h =>
      have hs : s.chunkCount = 2 := BitVec.eq_of_toNat_eq h
      have hne : s.chunkCount ≠ 0 := by rw [hs]; decide
      split
      · next hxyz huvw => exact .insert hs hxyz huvw
      · next hno =>
          refine .wait (fun h0 => absurd h0 hne) (fun _ => ?_) (fun _ h2 => absurd hs h2)
          cases hxyz : xyz s.dataStreamSource with
          | nil => exact .inl rfl
          | cons c cs =>
              cases huvw : uvw s.dataStreamSource with
              | nil => exact .inr rfl
              | cons csum csums => exact absurd huvw (hno c cs csum csums hxyz)
  · next h0 h2 =>
      have hne : s.chunkCount ≠ 0 := fun h => h0 (by rw [h]; rfl)
      have hne' : s.chunkCount ≠ 2 := fun h => h2 (by rw [h]; rfl)
      split
      · next hxyz => exact .forward hne hne' hxyz
      · next hxyz => exact .wait (fun h => absurd h hne) (fun h => absurd h hne') fun _ _ => hxyz

/-- A packet with its checksum. -/
abbrev CsumPacket := List AxisIp4 × IcmpCsum

/-- The packets that the counter of the inserter can follow. -/
structure Countable (p : CsumPacket) : Prop where
  isStream : IsStream p.1
  four : 4 ≤ p.1.length
  length : p.1.length ≤ 128

/-- The first three chunks are not the last one. -/
lemma Countable.not_last {p : CsumPacket} (h : Countable p) {n : ℕ} {x : AxisIp4}
    {xs : List AxisIp4} (hx : p.1.drop n = x :: xs) (hn : n < 3) : x.tlast = false := by
  have hlen := congrArg List.length hx
  have hfour := h.four
  rw [List.length_drop, List.length_cons] at hlen
  have hstream : IsPacket AxisRaw.tlast (p.1.take n ++ (x :: xs)) := by
    rw [← hx, List.take_append_drop]
    exact h.isStream
  by_contra hlast
  have hnil := (isPacket_cons_of_last (by simpa using hlast)).mp
    (hstream.of_append (List.cons_ne_nil _ _))
  rw [hnil, List.length_nil] at hlen
  omega

/-- A packet as it is sent. -/
def inserted (p : CsumPacket) : List AxisIp4 := withCsum p.1 p.2

/-- The packets of a source. -/
def ofSource (source : Bool) (blocks : List (Bool × CsumPacket)) : List CsumPacket :=
  (blocks.filter fun b => b.1 = source).map Prod.snd

/-- The packet that the inserter is at, how many of its chunks it has sent, and its source. -/
structure IciCurrent where
  source : Bool
  packet : CsumPacket
  sent : ℕ

/-- What the inserter has written for the packets that the two sources have to send, of which the
chunks in `X` and the checksums in `C` are still to come. -/
inductive IciInv (total : Bool → List CsumPacket) (s : IciState) (X : Bool → List AxisIp4)
    (C : Bool → List IcmpCsum) (out : List AxisIp4) : Prop
  | idle {blocks : List (Bool × CsumPacket)} {rest : Bool → List CsumPacket}
      (hs : s.chunkCount = 0) (htotal : ∀ i, total i = ofSource i blocks ++ rest i)
      (hX : ∀ i, X i = (rest i).flatMap Prod.fst) (hC : ∀ i, C i = (rest i).map Prod.snd)
      (hout : out = blocks.flatMap fun b => inserted b.2)
  | mid {blocks : List (Bool × CsumPacket)} {rest : Bool → List CsumPacket} {cur : IciCurrent}
      (hs : s = ⟨BitVec.ofNat 7 cur.sent, cur.source⟩) (hpos : 1 ≤ cur.sent)
      (hlen : cur.sent < cur.packet.1.length)
      (htotal : ∀ i, total i =
        ofSource i blocks ++ (if i = cur.source then [cur.packet] else []) ++ rest i)
      (hX : ∀ i, X i =
        (if i = cur.source then cur.packet.1.drop cur.sent else []) ++ (rest i).flatMap Prod.fst)
      (hC : ∀ i, C i =
        (if i = cur.source ∧ cur.sent ≤ 2 then [cur.packet.2] else []) ++ (rest i).map Prod.snd)
      (hout : out =
        (blocks.flatMap fun b => inserted b.2) ++ (inserted cur.packet).take cur.sent)

lemma ofSource_snoc (i : Bool) (blocks : List (Bool × CsumPacket)) (j : Bool) (p : CsumPacket) :
    ofSource i (blocks ++ [(j, p)]) = ofSource i blocks ++ if i = j then [p] else [] := by
  rw [ofSource, List.filter_append, List.map_append, ← ofSource]
  by_cases h : i = j
  · subst h
    simp
  · simp [h, Ne.symm h]

/-- What has been written is made of whole packets, of each source in its order, up to the one that
is being sent. -/
lemma IciInv.blocks {total : Bool → List CsumPacket} {s : IciState} {X : Bool → List AxisIp4}
    {C : Bool → List IcmpCsum} {out : List AxisIp4} (h : IciInv total s X C out) :
    ∃ blocks : List (Bool × CsumPacket), (∀ i, ofSource i blocks <+: total i) ∧
      out <+: blocks.flatMap fun b => inserted b.2 := by
  cases h with
  | @idle blocks rest hs htotal hX hC hout =>
      exact ⟨blocks, fun i => ⟨rest i, (htotal i).symm⟩, ⟨[], by rw [hout, List.append_nil]⟩⟩
  | @mid blocks rest cur hs hpos hlen htotal hX hC hout =>
      refine ⟨blocks ++ [(cur.source, cur.packet)], fun i => ?_, ?_⟩
      · rw [ofSource_snoc, htotal i]
        exact List.prefix_append _ _
      · rw [hout, List.flatMap_append, List.flatMap_singleton]
        exact (List.prefix_append_right_inj _).mpr (List.take_prefix _ _)

lemma inserted_take_succ {p : CsumPacket} {n : ℕ} {x : AxisIp4} {xs : List AxisIp4}
    (h : p.1.drop n = x :: xs) :
    (inserted p).take (n + 1) =
      (inserted p).take n ++ [if n = 2 then setIcmpCsum x p.2 else x] := by
  have hget : p.1[n]? = some x := by
    have hhead := congrArg List.head? h
    rwa [List.head?_drop] at hhead
  rw [List.take_add_one, inserted, withCsum, List.getElem?_mapIdx, hget]
  rfl

section Step

variable {total : Bool → List CsumPacket} {xyz FX : Bool → List AxisIp4}
  {uvw FC : Bool → List IcmpCsum} {out : List AxisIp4}

/-- One more chunk of a packet is sent. -/
lemma IciInv.advance {blocks : List (Bool × CsumPacket)} {rest : Bool → List CsumPacket}
    {cur : IciCurrent} {x : AxisIp4} {xs : List AxisIp4} {X : Bool → List AxisIp4}
    {C : Bool → List IcmpCsum} (hcount : Countable cur.packet)
    (hx : cur.packet.1.drop cur.sent = x :: xs)
    (htotal : ∀ i, total i =
      ofSource i blocks ++ (if i = cur.source then [cur.packet] else []) ++ rest i)
    (hX : ∀ i, X i = (if i = cur.source then xs else []) ++ (rest i).flatMap Prod.fst)
    (hC : ∀ i, C i =
      (if i = cur.source ∧ cur.sent + 1 ≤ 2 then [cur.packet.2] else []) ++
        (rest i).map Prod.snd)
    (hout : out = (blocks.flatMap fun b => inserted b.2) ++ (inserted cur.packet).take cur.sent) :
    IciInv total ⟨if x.tlast then 0 else BitVec.ofNat 7 (cur.sent + 1), cur.source⟩ X C
      (out ++ [if cur.sent = 2 then setIcmpCsum x cur.packet.2 else x]) := by
  have hlen : cur.sent + (xs.length + 1) = cur.packet.1.length := by
    have h := congrArg List.length hx
    rw [List.length_drop, List.length_cons] at h
    omega
  have hstream : IsStream (x :: xs) := by
    have hsplit : IsPacket AxisRaw.tlast (cur.packet.1.take cur.sent ++ (x :: xs)) := by
      rw [← hx, List.take_append_drop]
      exact hcount.isStream
    exact hsplit.of_append (List.cons_ne_nil _ _)
  cases hlast : x.tlast with
  | true =>
      obtain rfl := (isPacket_cons_of_last hlast).mp hstream
      have hfour := hcount.four
      rw [if_pos rfl]
      rw [List.length_nil] at hlen
      refine @IciInv.idle _ _ _ _ _ (blocks ++ [(cur.source, cur.packet)]) rest rfl
        (fun i => ?_) (fun i => ?_) (fun i => ?_) ?_
      · rw [ofSource_snoc, htotal i]
      · rw [hX i, ite_self, List.nil_append]
      · rw [hC i, if_neg (by omega), List.nil_append]
      · have hall : (inserted cur.packet).take (cur.sent + 1) = inserted cur.packet := by
          refine List.take_of_length_le ?_
          rw [inserted, withCsum, List.length_mapIdx]
          omega
        rw [hout, List.append_assoc, ← inserted_take_succ hx, hall, List.flatMap_append,
          List.flatMap_singleton]
  | false =>
      have hxs := ((isPacket_cons_of_not_last hlast).mp hstream).ne_nil
      have hpos := List.length_pos_of_ne_nil hxs
      rw [if_neg Bool.false_ne_true]
      refine @IciInv.mid _ _ _ _ _ _ _ ({ cur with sent := cur.sent + 1 }) rfl
        (Nat.succ_pos _) ?_ htotal (fun i => ?_) hC ?_
      · dsimp only
        omega
      · have hdrop : cur.packet.1.drop (cur.sent + 1) = xs := by
          rw [← List.drop_drop, hx]
          rfl
        rw [hX i, ← hdrop]
      · rw [hout, List.append_assoc, ← inserted_take_succ hx]

/-- The first chunk of a packet. -/
lemma IciInv.first {s : IciState} {blocks : List (Bool × CsumPacket)}
    {rest : Bool → List CsumPacket} {i : Bool} {x : AxisIp4} {xs : List AxisIp4}
    (hall : ∀ i, ∀ p ∈ total i, Countable p) (hs : s.chunkCount = 0)
    (htotal : ∀ j, total j = ofSource j blocks ++ rest j)
    (hX : ∀ j, xyz j ++ FX j = (rest j).flatMap Prod.fst)
    (hC : ∀ j, uvw j ++ FC j = (rest j).map Prod.snd)
    (hout : out = blocks.flatMap fun b => inserted b.2) (hxyz : xyz i = x :: xs) :
    IciInv total (iciFirst s xyz uvw i x xs).state
      (fun j => (iciFirst s xyz uvw i x xs).siXYzData j ++ FX j)
      (fun j => (iciFirst s xyz uvw i x xs).siUVwCsum j ++ FC j)
      (out ++ (iciFirst s xyz uvw i x xs).soIPTXData) := by
  have hXi := hX i
  have hCi := hC i
  cases hrest : rest i with
  | nil =>
      rw [hxyz, hrest] at hXi
      cases hXi
  | cons p ps =>
      have hp : Countable p := hall i p (by rw [htotal i, hrest]; simp)
      obtain ⟨cs, csum⟩ := p
      rw [hxyz, hrest, List.cons_append, List.flatMap_cons] at hXi
      cases cs with
      | nil => exact absurd hp.isStream id
      | cons c cs =>
          rw [List.cons_append, List.cons.injEq] at hXi
          obtain ⟨rfl, hxs⟩ := hXi
          have hlast : x.tlast = false := hp.not_last (n := 0) rfl (by omega)
          have hstep := @IciInv.advance total out blocks (Function.update rest i ps)
            ⟨i, (x :: cs, csum), 0⟩ x cs (fun j => Function.update xyz i xs j ++ FX j)
            (fun j => uvw j ++ FC j) hp rfl (fun j => ?_) (fun j => ?_) (fun j => ?_) ?_
          · rw [hlast, if_neg Bool.false_ne_true, if_neg (by simp)] at hstep
            rw [iciFirst, hs]
            exact hstep
          · by_cases hj : j = i
            · subst hj
              simp [htotal j, hrest]
            · simp [hj, htotal j]
          · by_cases hj : j = i
            · subst hj
              simpa using hxs
            · simp [hj, hX j]
          · by_cases hj : j = i
            · subst hj
              simp [hCi, hrest]
            · simp [hj, hC j]
          · simp [hout]

/-- A call of the inserter. -/
lemma IciInv.step {s : IciState} (hall : ∀ i, ∀ p ∈ total i, Countable p)
    (h : IciInv total s (fun i => xyz i ++ FX i) (fun i => uvw i ++ FC i) out) :
    IciInv total (pIcmpChecksumInserter s xyz uvw).state
      (fun i => (pIcmpChecksumInserter s xyz uvw).siXYzData i ++ FX i)
      (fun i => (pIcmpChecksumInserter s xyz uvw).siUVwCsum i ++ FC i)
      (out ++ (pIcmpChecksumInserter s xyz uvw).soIPTXData) := by
  have hstay : IciInv total s (fun i => xyz i ++ FX i) (fun i => uvw i ++ FC i) (out ++ []) := by
    rw [List.append_nil]
    exact h
  have hcall := pIcmpChecksumInserter_cases s xyz uvw
  generalize pIcmpChecksumInserter s xyz uvw = r at *
  cases h with
  | @idle blocks rest hs htotal hX hC hout =>
      cases hcall with
      | wait => exact hstay
      | first _ hxyz => exact IciInv.first hall hs htotal hX hC hout hxyz
      | insert hs' =>
          rw [hs] at hs'
          exact absurd hs' (by decide)
      | forward hne => exact absurd hs hne
  | @mid blocks rest cur hs hpos hlen htotal hX hC hout =>
      obtain ⟨source, packet, n⟩ := cur
      dsimp only at hs hpos hlen htotal hX hC hout
      subst hs
      have hp : Countable packet := hall source packet (by rw [htotal source]; simp)
      have hmax := hp.length
      have hn : ∀ k < 128, BitVec.ofNat 7 n = BitVec.ofNat 7 k ↔ n = k := by
        intro k hk
        rw [← BitVec.toNat_inj, BitVec.toNat_ofNat, BitVec.toNat_ofNat]
        omega
      have hsucc : BitVec.ofNat 7 n + 1 = BitVec.ofNat 7 (n + 1) := (BitVec.ofNat_add ..).symm
      have hXi := hX source
      have hCi := hC source
      rw [if_pos rfl] at hXi
      obtain ⟨x, xs, hx⟩ : ∃ x xs, packet.1.drop n = x :: xs :=
        List.exists_cons_of_ne_nil (List.ne_nil_of_length_pos (by rw [List.length_drop]; omega))
      rw [hx, List.cons_append] at hXi
      cases hcall with
      | wait => exact hstay
      | first hs =>
          have hzero := (hn 0 (by omega)).mp hs
          omega
      | @insert y ys csum csums hs hxyz huvw =>
          obtain rfl := (hn 2 (by omega)).mp hs
          dsimp only at hxyz huvw
          rw [hxyz, List.cons_append, List.cons.injEq] at hXi
          rw [huvw, List.cons_append, if_pos ⟨rfl, le_refl 2⟩, List.singleton_append,
            List.cons.injEq] at hCi
          obtain ⟨rfl, hxs⟩ := hXi
          obtain ⟨rfl, hcs⟩ := hCi
          have hlast : y.tlast = false := hp.not_last hx (by omega)
          have hstep := @IciInv.advance total out blocks rest ⟨source, packet, 2⟩ y xs
            (fun j => Function.update xyz source ys j ++ FX j)
            (fun j => Function.update uvw source csums j ++ FC j) hp hx htotal (fun j => ?_)
            (fun j => ?_) hout
          · rw [hlast, if_neg Bool.false_ne_true, if_pos rfl] at hstep
            rw [hsucc]
            exact hstep
          · by_cases hj : j = source
            · subst hj
              simpa using hxs
            · simp [hj, hX j]
          · by_cases hj : j = source
            · subst hj
              simpa using hcs
            · simp [hj, hC j]
      | @forward y ys hne hne' hxyz =>
          have hn0 : n ≠ 0 := by omega
          have hn2 : n ≠ 2 := fun h => hne' ((hn 2 (by omega)).mpr h)
          dsimp only at hxyz
          rw [hxyz, List.cons_append, List.cons.injEq] at hXi
          obtain ⟨rfl, hxs⟩ := hXi
          have hstep := @IciInv.advance total out blocks rest ⟨source, packet, n⟩ y xs
            (fun j => Function.update xyz source ys j ++ FX j)
            (fun j => uvw j ++ FC j) hp hx htotal (fun j => ?_) (fun j => ?_) hout
          · rw [if_neg hn2] at hstep
            rw [hsucc]
            exact hstep
          · by_cases hj : j = source
            · subst hj
              simpa using hxs
            · simp [hj, hX j]
          · have hiff : (j = source ∧ n ≤ 2) ↔ (j = source ∧ n + 1 ≤ 2) :=
              and_congr_right fun _ => by omega
            rw [hC j]
            simp only [hiff]

/-- A source that has nothing to send is not the one that is served. -/
lemma IciInv.eq_nil {s : IciState} {X : Bool → List AxisIp4} {C : Bool → List IcmpCsum}
    (h : IciInv total s X C out) {i : Bool} (hi : total i = []) :
    X i = [] ∧ (s.chunkCount ≠ 0 → s.dataStreamSource ≠ i) := by
  cases h with
  | @idle blocks rest hs htotal hX hC hout =>
      have hrest := htotal i
      rw [hi] at hrest
      refine ⟨?_, fun h => absurd hs h⟩
      rw [hX i, (List.append_eq_nil_iff.mp hrest.symm).2]
      rfl
  | @mid blocks rest cur hs hpos hlen htotal hX hC hout =>
      have hrest := htotal i
      rw [hi] at hrest
      obtain ⟨hcur, hrest⟩ := List.append_eq_nil_iff.mp hrest.symm
      have hne : i ≠ cur.source := by
        rintro rfl
        rw [if_pos rfl] at hcur
        exact absurd (List.append_eq_nil_iff.mp hcur).2 (List.cons_ne_nil _ _)
      refine ⟨?_, fun _ => ?_⟩
      · rw [hX i, if_neg hne, hrest]
        rfl
      · rw [hs]
        exact hne.symm

/-- The first three chunks of a packet are not the last one, and the counter does not wrap. -/
lemma IciInv.next_chunk {s : IciState} {X : Bool → List AxisIp4} {C : Bool → List IcmpCsum}
    (hall : ∀ i, ∀ p ∈ total i, Countable p) (h : IciInv total s X C out) {i : Bool}
    {c : AxisIp4} {cs : List AxisIp4} (hX : X i = c :: cs)
    (hi : s.chunkCount ≠ 0 → s.dataStreamSource = i) :
    if c.tlast then 3 ≤ s.chunkCount.toNat else s.chunkCount.toNat + 1 < 128 := by
  cases h with
  | @idle blocks rest hs htotal hX' hC hout =>
      rw [hX'] at hX
      cases hrest : rest i with
      | nil =>
          rw [hrest] at hX
          cases hX
      | cons p ps =>
          have hp : Countable p := hall i p (by rw [htotal i, hrest]; simp)
          rw [hrest, List.flatMap_cons] at hX
          cases hcs : p.1 with
          | nil =>
              have hstream := hp.isStream
              rw [hcs] at hstream
              exact absurd hstream id
          | cons x xs =>
              rw [hcs, List.cons_append, List.cons.injEq] at hX
              have hlast : c.tlast = false := hX.1 ▸ @Countable.not_last p hp 0 x xs hcs (by omega)
              rw [hlast, hs, if_neg Bool.false_ne_true]
              decide
  | @mid blocks rest cur hs hpos hlen htotal hX' hC hout =>
      obtain ⟨source, packet, n⟩ := cur
      dsimp only at hs hpos hlen htotal hX' hC hout
      have hp : Countable packet := hall source packet (by rw [htotal source]; simp)
      have hmax := hp.length
      have hcount : s.chunkCount.toNat = n := by
        rw [hs, BitVec.toNat_ofNat]
        omega
      have hsource : i = source := by
        rw [← hi (fun h => by rw [h] at hcount; exact absurd hcount (by change ¬0 = n; omega)), hs]
      rw [hX' i, if_pos hsource] at hX
      obtain ⟨x, xs, hx⟩ : ∃ x xs, packet.1.drop n = x :: xs :=
        List.exists_cons_of_ne_nil (List.ne_nil_of_length_pos (by rw [List.length_drop]; omega))
      rw [hx, List.cons_append, List.cons.injEq] at hX
      obtain ⟨rfl, -⟩ := hX
      rw [hcount]
      cases hlast : x.tlast with
      | true =>
          rw [if_pos rfl]
          by_contra hn
          exact absurd (hlast.symm.trans (hp.not_last hx (by omega))) (by decide)
      | false =>
          have hstream : IsPacket AxisRaw.tlast (packet.1.take n ++ (x :: xs)) := by
            rw [← hx, List.take_append_drop]
            exact hp.isStream
          have hxs := ((isPacket_cons_of_not_last hlast).mp
            (hstream.of_append (List.cons_ne_nil _ _))).ne_nil
          have hlen' := congrArg List.length hx
          have hpos' := List.length_pos_of_ne_nil hxs
          rw [List.length_drop, List.length_cons] at hlen'
          rw [if_neg Bool.false_ne_true]
          omega

/-- The checksum of the packet that is being sent has been read. -/
def IciState.inserted (s : IciState) : ℕ := if 3 ≤ s.chunkCount.toNat then 1 else 0

/-- A call of the inserter with one source only: it waits, or it sends a chunk. -/
lemma IciInv.moves {s : IciState} (hall : ∀ i, ∀ p ∈ total i, Countable p)
    (hnone : total fromMessage = [])
    (h : IciInv total s (fun i => xyz i ++ FX i) (fun i => uvw i ++ FC i) out) :
    pIcmpChecksumInserter s xyz uvw = ⟨s, xyz, uvw, []⟩ ∧
        (xyz fromEcho = [] ∨ s.chunkCount = 2 ∧ uvw fromEcho = []) ∨
      ∃ c cs csums, xyz fromEcho = c :: cs ∧
        (pIcmpChecksumInserter s xyz uvw).siXYzData = Function.update xyz fromEcho cs ∧
        (pIcmpChecksumInserter s xyz uvw).siUVwCsum = Function.update uvw fromEcho csums ∧
        (pIcmpChecksumInserter s xyz uvw).state.chunkCount.toNat =
          (if c.tlast then 0 else s.chunkCount.toNat + 1) ∧
        csums.length + (pIcmpChecksumInserter s xyz uvw).state.inserted + c.tlast.toNat =
          (uvw fromEcho).length + s.inserted := by
  obtain ⟨hX, hsource⟩ := h.eq_nil hnone
  have hecho (hne : s.chunkCount ≠ 0) : s.dataStreamSource = fromEcho := by
    have hne' := hsource hne
    cases hs : s.dataStreamSource with
    | false => rfl
    | true => exact absurd hs hne'
  have hnext {c : AxisIp4} {cs : List AxisIp4} (hxyz : xyz fromEcho = c :: cs) :
      if c.tlast then 3 ≤ s.chunkCount.toNat else s.chunkCount.toNat + 1 < 128 :=
    h.next_chunk hall (i := fromEcho) (by rw [hxyz, List.cons_append]) hecho
  have hsame : uvw = Function.update uvw fromEcho (uvw fromEcho) :=
    (Function.update_eq_self fromEcho uvw).symm
  have hsucc (hlt : s.chunkCount.toNat + 1 < 128) :
      (s.chunkCount + 1).toNat = s.chunkCount.toNat + 1 := by
    rw [BitVec.toNat_add]
    exact Nat.mod_eq_of_lt hlt
  have hcall := pIcmpChecksumInserter_cases s xyz uvw
  generalize pIcmpChecksumInserter s xyz uvw = r at *
  cases hcall with
  | wait hfirst hinsert hforward =>
      refine .inl ⟨rfl, ?_⟩
      by_cases h0 : s.chunkCount = 0
      · exact .inl (hfirst h0 fromEcho)
      · rw [hecho h0] at hinsert hforward
        by_cases h2 : s.chunkCount = 2
        · exact (hinsert h2).imp_right fun hnil => ⟨h2, hnil⟩
        · exact .inl (hforward h0 h2)
  | @first i c cs hs hxyz =>
      cases i with
      | true =>
          rw [show xyz fromMessage = c :: cs from hxyz] at hX
          cases hX
      | false =>
          have hc := hnext hxyz
          rw [hs] at hc
          cases hlast : c.tlast with
          | true =>
              rw [hlast, if_pos rfl] at hc
              exact absurd hc (by decide)
          | false =>
              refine .inr ⟨c, cs, uvw fromEcho, hxyz, rfl, hsame, ?_, ?_⟩
              · rw [iciFirst, hs, hlast]
                rfl
              · rw [IciState.inserted, IciState.inserted, iciFirst, hs, hlast]
                rfl
  | @insert c cs csum csums hs hxyz huvw =>
      have hne : s.chunkCount ≠ 0 := by rw [hs]; decide
      rw [hecho hne] at hxyz huvw ⊢
      have hc := hnext hxyz
      rw [hs] at hc
      cases hlast : c.tlast with
      | true =>
          rw [hlast, if_pos rfl] at hc
          exact absurd hc (by decide)
      | false =>
          refine .inr ⟨c, cs, csums, hxyz, rfl, rfl, ?_, ?_⟩
          · rw [hs, hlast]
            rfl
          · rw [IciState.inserted, IciState.inserted, hs, hlast, huvw]
            rfl
  | @forward c cs hne hne' hxyz =>
      rw [hecho hne] at hxyz ⊢
      have hc := hnext hxyz
      have hn2 : s.chunkCount.toNat ≠ 2 := fun h => hne' (BitVec.eq_of_toNat_eq h)
      cases hlast : c.tlast with
      | true =>
          rw [hlast, if_pos rfl] at hc
          refine .inr ⟨c, cs, uvw fromEcho, hxyz, rfl, hsame, ?_, ?_⟩
          · rw [hlast]
            rfl
          · rw [IciState.inserted, IciState.inserted, hlast, if_pos hc]
            rfl
      | false =>
          rw [hlast, if_neg Bool.false_ne_true] at hc
          have hcount := hsucc hc
          refine .inr ⟨c, cs, uvw fromEcho, hxyz, rfl, hsame, ?_, ?_⟩
          · rw [hlast, if_neg Bool.false_ne_true, if_neg Bool.false_ne_true]
            exact hcount
          · rw [IciState.inserted, IciState.inserted, hlast]
            simp only [Bool.false_eq_true, if_false, Bool.toNat_false, hcount]
            split_ifs <;> omega

end Step

end CloudFpga.Icmp
