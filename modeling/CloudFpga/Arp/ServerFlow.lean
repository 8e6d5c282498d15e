import CloudFpga.Arp.Server

/-!
What the ARP server does with its streams, over every run.

* `AprCall`, `ApsCall`, `AccCall`: what a call of each process does.
* `arp_chunks`, `arp_metas`, `arp_binds`, `arp_keys`, `arp_frames`, `arp_lookups`: nothing on a stream
  is lost, doubled or passed by.
* `arp_cam`: the CAM holds the last bindings.
* `arpSafe`: as long as every frame is complete and not too long, the run is safe.
-/

namespace CloudFpga.Arp

open Foundation

section Calls

variable {macAddress : EthAddr} {ipAddress : Ip4Addr}

/-- What a call of the receiver does. -/
inductive AprCall (ipAddress : Ip4Addr) (s : ArpServer) : ArpServer × ArpEvent → Prop
  | idle (hq : s.siIPRXData = []) : AprCall ipAddress s (s, {})
  | full {c : AxisEth} {cs : List AxisEth} (hq : s.siIPRXData = c :: cs)
      (hfull : 4 ≤ s.ssAPrToAPsMeta.length ∨ 4 ≤ s.ssAPrToACcUpdateReq.length) :
      AprCall ipAddress s (s, {})
  | read {c : AxisEth} {cs : List AxisEth} {apr : AprState} {out : AprOut}
      (hq : s.siIPRXData = c :: cs) (hc : pArpPacketReceiver ipAddress s.apr c = (apr, out)) :
      AprCall ipAddress s
        ({ s with
            siIPRXData := cs
            apr := apr
            ssAPrToAPsMeta := s.ssAPrToAPsMeta ++ out.soAPsMeta
            ssAPrToACcUpdateReq := s.ssAPrToACcUpdateReq ++ out.soACcUpdateReq },
          { chunk := [c]
            soAPsMeta := out.soAPsMeta
            soACcUpdateReq := out.soACcUpdateReq })

lemma aprCall_cases (s : ArpServer) : AprCall ipAddress s (aprCall ipAddress s) := by
  rw [aprCall]
  split
  · next hq => exact .idle hq
  · next c cs hq =>
      dsimp only
      split_ifs with hmeta hreq
      · exact .full hq (.inl hmeta.2)
      · exact .full hq (.inr hreq.2)
      · exact .read hq rfl

/-- What a call of the sender does. -/
inductive ApsCall (macAddress : EthAddr) (ipAddress : Ip4Addr) (s : ArpServer) :
    ArpServer × ArpEvent → Prop
  | idle (hs : s.aps.fsmState = .aprIdle) (hm : s.ssAPrToAPsMeta = [])
      (ha : s.ssACcToAPsMeta = []) :
      ApsCall macAddress ipAddress s ({ s with aps := { s.aps with sendCount := 0 } }, {})
  | reply {m : ArpMeta} {ms : List ArpMeta} (hs : s.aps.fsmState = .aprIdle)
      (hm : s.ssAPrToAPsMeta = m :: ms) :
      ApsCall macAddress ipAddress s
        ({ s with
            ssAPrToAPsMeta := ms
            aps := { s.aps with sendCount := 0, aprMeta := m, fsmState := .aprReply } },
          { job := [.reply m] })
  | request {a : Ip4Addr} {as : List Ip4Addr} (hs : s.aps.fsmState = .aprIdle)
      (ha : s.ssACcToAPsMeta = a :: as) :
      ApsCall macAddress ipAddress s
        ({ s with
            ssACcToAPsMeta := as
            aps := { s.aps with sendCount := 0, tpaReq := a, fsmState := .aprSentrq } },
          { job := [.request a] })
  | send {job : ArpJob}
      (hs : s.aps.fsmState = .aprReply ∧ job = .reply s.aps.aprMeta ∨
        s.aps.fsmState = .aprSentrq ∧ job = .request s.aps.tpaReq) :
      ApsCall macAddress ipAddress s (apsSend macAddress ipAddress s job)

lemma pArpPacketSender_cases (s : ArpServer) :
    ApsCall macAddress ipAddress s (pArpPacketSender macAddress ipAddress s) := by
  rw [pArpPacketSender]
  split
  · next hs =>
      split
      · next hm => exact .reply hs hm
      · next ha => exact .request hs ha
      · next hm ha => exact .idle hs hm ha
  · next hs => exact .send (.inr ⟨hs, rfl⟩)
  · next hs => exact .send (.inl ⟨hs, rfl⟩)

/-- What a call of the controller does. -/
inductive AccCall (s : ArpServer) : ArpServer × ArpEvent → Prop
  | idle (hs : s.accFsmState = .accIdle) (hk : s.siIPTXMacLkpReq = [])
      (hb : s.ssAPrToACcUpdateReq = []) : AccCall s (s, {})
  | wait (hu : s.accFsmState = .accUpdate → s.camMacUpdRep = [])
      (hl : s.accFsmState = .accLookup → s.camMacLkpRep ≠ [] → 4 ≤ s.ssACcToAPsMeta.length)
      (hi : s.accFsmState ≠ .accIdle) : AccCall s (s, {})
  | broadcast {keys : List Ip4Addr} (hs : s.accFsmState = .accIdle)
      (hk : s.siIPTXMacLkpReq = ip4BroadcastAddr :: keys) :
      AccCall s
        ({ s with siIPTXMacLkpReq := keys, ipLkpKey := ip4BroadcastAddr },
          { answer := [(ip4BroadcastAddr, ⟨ethBroadcastAddr, true⟩)] })
  | lookup {key : Ip4Addr} {keys : List Ip4Addr} (hs : s.accFsmState = .accIdle)
      (hk : s.siIPTXMacLkpReq = key :: keys) (hne : key ≠ ip4BroadcastAddr) :
      AccCall s
        ({ s with
            siIPTXMacLkpReq := keys
            ipLkpKey := key
            camMacLkpReq := s.camMacLkpReq ++ [key]
            accFsmState := .accLookup }, {})
  | update {b : ArpBindPair} {bs : List ArpBindPair} (hs : s.accFsmState = .accIdle)
      (hb : s.ssAPrToACcUpdateReq = b :: bs) :
      AccCall s
        ({ s with
            ssAPrToACcUpdateReq := bs
            camMacUpdReq := s.camMacUpdReq ++ [b]
            accFsmState := .accUpdate },
          { soCAMMacUpdReq := [b] })
  | updated {u : Unit} {us : List Unit} (hs : s.accFsmState = .accUpdate)
      (hr : s.camMacUpdRep = u :: us) :
      AccCall s ({ s with camMacUpdRep := us, accFsmState := .accIdle }, {})
  | answer {r : ArpLkpReply} {rs : List ArpLkpReply} (hs : s.accFsmState = .accLookup)
      (hr : s.camMacLkpRep = r :: rs) :
      AccCall s
        ({ s with
            camMacLkpRep := rs
            ssACcToAPsMeta := s.ssACcToAPsMeta ++ missKey (s.ipLkpKey, r)
            accFsmState := .accIdle },
          { answer := [(s.ipLkpKey, r)] })

lemma pArpCamController_cases (s : ArpServer) : AccCall s (pArpCamController s) := by
  rw [pArpCamController]
  split
  · next hs =>
      split
      · next key keys hk =>
          split_ifs with hkey
          · subst hkey
            exact .broadcast hs hk
          · exact .lookup hs hk hkey
      · next hb => exact .update hs hb
      · next hk hb => exact .idle hs hk hb
  · next hs =>
      split
      · next hr => exact .wait (fun _ => hr) (by simp [hs]) (by simp [hs])
      · next hr => exact .updated hs hr
  · next hs =>
      split
      · next hr => exact .wait (by simp [hs]) (fun _ h => absurd hr h) (by simp [hs])
      · next r rs hr =>
          split_ifs with hit hfull
          · have h := AccCall.answer hs hr
            rwa [missKey, if_pos hit, List.append_nil] at h
          · exact .wait (by simp [hs]) (fun _ _ => hfull) (by simp [hs])
          · have h := AccCall.answer hs hr
            rwa [missKey, if_neg hit] at h

/-- What a step does, without the reasons of a call that does nothing. -/
inductive ArpMove (macAddress : EthAddr) (ipAddress : Ip4Addr) (s : ArpServer) :
    ArpLabel → ArpServer × ArpEvent → Prop
  | frame (f : EthFrame) :
      ArpMove macAddress ipAddress s (.frame f)
        ({ s with siIPRXData := s.siIPRXData ++ f.val }, {})
  | macLkpReq (key : Ip4Addr) :
      ArpMove macAddress ipAddress s (.macLkpReq key)
        ({ s with siIPTXMacLkpReq := s.siIPTXMacLkpReq ++ [key] }, {})
  | stay {l : ArpLabel} (hl : IsCall l) : ArpMove macAddress ipAddress s l (s, {})
  | apr {r : ArpServer × ArpEvent} (h : AprCall ipAddress s r) :
      ArpMove macAddress ipAddress s .apr r
  | aps {r : ArpServer × ArpEvent} (h : ApsCall macAddress ipAddress s r) :
      ArpMove macAddress ipAddress s .aps r
  | acc {r : ArpServer × ArpEvent} (h : AccCall s r) : ArpMove macAddress ipAddress s .acc r
  | camLookup {missValue : EthAddr} {key : Ip4Addr} {keys : List Ip4Addr}
      (hk : s.camMacLkpReq = key :: keys) :
      ArpMove macAddress ipAddress s (.camLookup missValue)
        ({ s with
            camMacLkpReq := keys
            camMacLkpRep := s.camMacLkpRep ++ [camReply (s.cam key) missValue] }, {})
  | camUpdate {b : ArpBindPair} {bs : List ArpBindPair} (hb : s.camMacUpdReq = b :: bs) :
      ArpMove macAddress ipAddress s .camUpdate
        ({ s with
            camMacUpdReq := bs
            camMacUpdRep := s.camMacUpdRep ++ [()]
            cam := camInsert s.cam b }, {})

lemma arpStep_cases (s : ArpServer) (l : ArpLabel) :
    ArpMove macAddress ipAddress s l (arpStep macAddress ipAddress s l) := by
  cases l with
  | frame f => exact .frame f
  | macLkpReq key => exact .macLkpReq key
  | apr => exact .apr (aprCall_cases s)
  | aps => exact .aps (pArpPacketSender_cases s)
  | acc => exact .acc (pArpCamController_cases s)
  | camLookup missValue =>
      rw [arpStep, camLookup]
      split
      · exact .stay ⟨rfl, rfl⟩
      · next hk => exact .camLookup hk
  | camUpdate =>
      rw [arpStep, camUpdate]
      split
      · exact .stay ⟨rfl, rfl⟩
      · next hb => exact .camUpdate hb

end Calls

/-! ### The streams -/

section Streams

variable {macAddress : EthAddr} {ipAddress : Ip4Addr}

/-- A stream into which what `arrive` tells is put, and from which what `out` tells is taken. -/
lemma arpEmits_conserve {β : Type} {arrive : ArpLabel → List β} {out : ArpEvent → List β}
    {pending : ArpServer → List β}
    (step : ∀ s l r, ArpMove macAddress ipAddress s l r →
      pending s ++ arrive l = out r.2 ++ pending r.1) (regs : ArpRegs) (ls : List ArpLabel) :
    pending (arpStart regs) ++ ls.flatMap arrive =
      arpEmits macAddress ipAddress regs ls out ++ pending (arpRun macAddress ipAddress regs ls) :=
  emits_conserve (fun s l => step s l _ (arpStep_cases s l)) (arpStart regs) ls

/-- The same for a stream between two processes. -/
lemma arpEmits_balance {β : Type} {Inv : ArpServer → Prop} {given out : ArpEvent → List β}
    {pending : ArpServer → List β}
    (step : ∀ s l r, Inv s → ArpMove macAddress ipAddress s l r →
      pending s ++ given r.2 = out r.2 ++ pending r.1 ∧ Inv r.1) (regs : ArpRegs)
    (hstart : Inv (arpStart regs)) (ls : List ArpLabel) :
    pending (arpStart regs) ++ arpEmits macAddress ipAddress regs ls given =
      arpEmits macAddress ipAddress regs ls out ++ pending (arpRun macAddress ipAddress regs ls) :=
  emits_balance (fun s l hs => step s l _ hs (arpStep_cases s l)) hstart ls

/-- The chunks wait for the receiver in their order. -/
lemma arp_chunks (regs : ArpRegs) (ls : List ArpLabel) :
    (arpFrames ls).flatMap Subtype.val =
      arpEmits macAddress ipAddress regs ls ArpEvent.chunk ++
        (arpRun macAddress ipAddress regs ls).siIPRXData := by
  have h := @arpEmits_conserve macAddress ipAddress _ (fun l => l.frames.flatMap Subtype.val)
    ArpEvent.chunk ArpServer.siIPRXData (fun s l r h => ?_) regs ls
  · rw [arpFrames, List.flatMap_assoc]
    exact h
  · cases h with
    | frame | macLkpReq | camLookup | camUpdate => simp [ArpLabel.frames]
    | stay hl => simp [hl.1]
    | apr h => 
        cases h with
        | idle | full => simp [ArpLabel.frames]
        | read hq => simp [ArpLabel.frames, hq]
    | aps h => cases h <;> simp [ArpLabel.frames, apsSend]
    | acc h => cases h <;> simp [ArpLabel.frames]

/-- The lookup that the CAM is asked for. -/
def accKey (s : ArpServer) : List Ip4Addr :=
  if s.accFsmState = .accLookup then [s.ipLkpKey] else []

/-- The lookups are answered in their order. -/
lemma arp_lookups (regs : ArpRegs) (ls : List ArpLabel) :
    arpLookups ls =
      (arpAnswers macAddress ipAddress regs ls).map Prod.fst ++
        (accKey (arpRun macAddress ipAddress regs ls) ++
          (arpRun macAddress ipAddress regs ls).siIPTXMacLkpReq) := by
  have h := @arpEmits_conserve macAddress ipAddress _ ArpLabel.lookups
    (fun e => e.answer.flatMap fun a => [a.1]) (fun s => accKey s ++ s.siIPTXMacLkpReq)
    (fun s l r h => ?_) regs ls
  · rw [arpEmits, emits_bind, ← List.map_eq_flatMap] at h
    exact h
  · cases h with
    | frame | macLkpReq | camLookup | camUpdate => simp [ArpLabel.lookups, accKey]
    | stay hl => simp [hl.2]
    | apr h => cases h <;> simp [ArpLabel.lookups, accKey]
    | aps h =>
        cases h with
        | idle | reply | request => simp [ArpLabel.lookups, accKey]
        | send => exact List.append_nil _
    | acc h =>
        cases h with
        | idle | wait => simp [ArpLabel.lookups]
        | broadcast hs hk | lookup hs hk => simp [ArpLabel.lookups, accKey, hs, hk]
        | update hs | updated hs | answer hs => simp [ArpLabel.lookups, accKey, hs]

/-- The metas wait for the sender in their order. -/
lemma arp_metas (regs : ArpRegs) (ls : List ArpLabel) :
    arpEmits macAddress ipAddress regs ls ArpEvent.soAPsMeta =
      (arpEmits macAddress ipAddress regs ls ArpEvent.job).flatMap ArpJob.metas ++
        (arpRun macAddress ipAddress regs ls).ssAPrToAPsMeta := by
  have h := @arpEmits_balance macAddress ipAddress _ (fun _ => True) ArpEvent.soAPsMeta
    (fun e => e.job.flatMap ArpJob.metas) ArpServer.ssAPrToAPsMeta (fun s l r _ h => ?_) regs
    trivial ls
  · rw [arpEmits, arpEmits, emits_bind] at h
    exact h
  · refine ⟨?_, trivial⟩
    cases h with
    | frame | macLkpReq | camLookup | camUpdate | stay => simp
    | apr h => cases h <;> simp
    | aps h =>
        cases h with
        | idle | request | send => simp [ArpJob.metas, apsSend]
        | reply hs hm => simp [ArpJob.metas, hm]
    | acc h => cases h <;> simp

/-- The bindings wait for the CAM in their order. -/
lemma arp_binds (regs : ArpRegs) (ls : List ArpLabel) :
    arpEmits macAddress ipAddress regs ls ArpEvent.soACcUpdateReq =
      camBinds macAddress ipAddress regs ls ++
        (arpRun macAddress ipAddress regs ls).ssAPrToACcUpdateReq := by
  refine @arpEmits_balance _ _ _ (fun _ => True) _ _ ArpServer.ssAPrToACcUpdateReq
    (fun s l r _ h => ⟨?_, trivial⟩) regs trivial ls
  cases h with
  | frame | macLkpReq | camLookup | camUpdate | stay => simp
  | apr h => cases h <;> simp
  | aps h => cases h <;> simp [apsSend]
  | acc h =>
      cases h with
      | idle | wait | broadcast | lookup | updated | answer => simp
      | update hs hb => simp [hb]

/-- The addresses that missed wait for the sender in their order. -/
lemma arp_keys (regs : ArpRegs) (ls : List ArpLabel) :
    arpMisses macAddress ipAddress regs ls =
      (arpEmits macAddress ipAddress regs ls ArpEvent.job).flatMap ArpJob.keys ++
        (arpRun macAddress ipAddress regs ls).ssACcToAPsMeta := by
  have h := @arpEmits_balance macAddress ipAddress _ (fun _ => True)
    (fun e => e.answer.flatMap missKey) (fun e => e.job.flatMap ArpJob.keys)
    ArpServer.ssACcToAPsMeta (fun s l r _ h => ?_) regs trivial ls
  · rw [arpEmits, arpEmits, emits_bind, emits_bind] at h
    exact h
  · refine ⟨?_, trivial⟩
    cases h with
    | frame | macLkpReq | camLookup | camUpdate | stay => simp
    | apr h => cases h <;> simp
    | aps h =>
        cases h with
        | idle | reply | send => simp [ArpJob.keys, apsSend]
        | request hs ha => simp [ArpJob.keys, ha]
    | acc h =>
        cases h with
        | idle | wait | lookup | update | updated | answer => simp
        | broadcast => simp [missKey]

/-- The job of the sender. -/
def apsJob (s : ArpServer) : List ArpJob :=
  match s.aps.fsmState with
  | .aprIdle => []
  | .aprReply => [.reply s.aps.aprMeta]
  | .aprSentrq => [.request s.aps.tpaReq]

/-- The chunks of its frame that are not sent yet. -/
def apsRest (macAddress : EthAddr) (ipAddress : Ip4Addr) (s : ArpServer) : List AxisEth :=
  (apsJob s).flatMap fun job => (arpFrame macAddress ipAddress job).drop s.aps.sendCount.toNat

/-- While the sender has a job, it has chunks to send. -/
def ApsInv (s : ArpServer) : Prop := s.aps.fsmState ≠ .aprIdle → s.aps.sendCount.toNat < 6

lemma arpFrame_drop (macAddress : EthAddr) (ipAddress : Ip4Addr) (job : ArpJob) {n : ℕ}
    (hn : n < 6) :
    (arpFrame macAddress ipAddress job).drop n =
      sendChunk macAddress ipAddress job n :: (arpFrame macAddress ipAddress job).drop (n + 1) := by
  have hlen : n < (arpFrame macAddress ipAddress job).length := by simpa [arpFrame] using hn
  rw [List.drop_eq_getElem_cons hlen]
  simp [arpFrame]

/-- The sender writes the chunk that is due, and keeps the others. -/
lemma apsRest_send {s : ArpServer} (hs : ApsInv s) {job : ArpJob} (hjob : apsJob s = [job]) :
    apsRest macAddress ipAddress s =
      sendChunk macAddress ipAddress job s.aps.sendCount.toNat ::
        apsRest macAddress ipAddress (apsSend macAddress ipAddress s job).1 ∧
    ApsInv (apsSend macAddress ipAddress s job).1 := by
  have hbusy : s.aps.fsmState ≠ .aprIdle := by
    intro hidle
    rw [apsJob, hidle] at hjob
    cases hjob
  have hlt := hs hbusy
  have hrest : apsRest macAddress ipAddress s =
      (arpFrame macAddress ipAddress job).drop s.aps.sendCount.toNat := by
    rw [apsRest, hjob, List.flatMap_singleton]
  rw [hrest, arpFrame_drop _ _ _ hlt]
  by_cases hlast : s.aps.sendCount = 5
  · have hdrop : (arpFrame macAddress ipAddress job).drop (s.aps.sendCount.toNat + 1) = [] := by
      rw [hlast]
      rfl
    rw [hdrop]
    simp [apsRest, apsJob, apsSend, hlast, ApsInv]
  · have hcount : (s.aps.sendCount + 1).toNat = s.aps.sendCount.toNat + 1 := by bv_omega
    have hlt' : s.aps.sendCount.toNat + 1 < 6 := by bv_omega
    have haps : (apsSend macAddress ipAddress s job).1.aps =
        { s.aps with sendCount := s.aps.sendCount + 1 } := by
      rw [apsSend, if_neg hlast]
    have hjob' : apsJob (apsSend macAddress ipAddress s job).1 = [job] := by
      rw [← hjob, apsJob, haps, apsJob]
    refine ⟨?_, fun _ => ?_⟩
    · rw [apsRest, hjob', List.flatMap_singleton, haps, hcount]
    · rw [haps, hcount]
      exact hlt'

/-- A step of the sender. -/
lemma apsRest_step {s : ArpServer} {l : ArpLabel} {r : ArpServer × ArpEvent} (hs : ApsInv s)
    (h : ArpMove macAddress ipAddress s l r) :
    apsRest macAddress ipAddress s ++ r.2.job.flatMap (arpFrame macAddress ipAddress) =
      r.2.soETHData ++ apsRest macAddress ipAddress r.1 ∧ ApsInv r.1 := by
  cases h with
  | frame | macLkpReq | camLookup | camUpdate | stay => exact ⟨List.append_nil _, hs⟩
  | apr h => cases h <;> exact ⟨List.append_nil _, hs⟩
  | acc h => cases h <;> exact ⟨List.append_nil _, hs⟩
  | aps h =>
      cases h with
      | idle hidle =>
          refine ⟨?_, fun hne => absurd hidle hne⟩
          simp [apsRest, apsJob, hidle]
      | reply hidle =>
          refine ⟨?_, fun _ => Nat.zero_lt_succ 5⟩
          simp [apsRest, apsJob, hidle]
      | request hidle =>
          refine ⟨?_, fun _ => Nat.zero_lt_succ 5⟩
          simp [apsRest, apsJob, hidle]
      | @send job hjob =>
          have hjob' : apsJob s = [job] := by
            rcases hjob with ⟨hs, rfl⟩ | ⟨hs, rfl⟩ <;> rw [apsJob, hs]
          obtain ⟨hrest, hinv⟩ := @apsRest_send macAddress ipAddress _ hs _ hjob'
          refine ⟨?_, hinv⟩
          rw [hrest]
          simp [apsSend]

/-- The frames of the jobs are sent in their order. -/
lemma arp_frames (regs : ArpRegs) (ls : List ArpLabel) :
    (arpEmits macAddress ipAddress regs ls ArpEvent.job).flatMap (arpFrame macAddress ipAddress) =
      arpEth macAddress ipAddress regs ls ++
        apsRest macAddress ipAddress (arpRun macAddress ipAddress regs ls) := by
  have hstart : ApsInv (arpStart regs) := fun h => absurd rfl h
  have h := @arpEmits_balance macAddress ipAddress _ ApsInv
    (fun e => e.job.flatMap (arpFrame macAddress ipAddress)) ArpEvent.soETHData
    (apsRest macAddress ipAddress) (fun s l r hs h => apsRest_step hs h) regs hstart ls
  rw [arpEmits, emits_bind] at h
  exact h

/-- The receiver of the server is the receiver. -/
lemma arp_receiver (regs : ArpRegs) (ls : List ArpLabel) :
    Clocked.run (aprNext ipAddress) { regs := regs.apr }
        (arpEmits macAddress ipAddress regs ls ArpEvent.chunk) =
      (arpRun macAddress ipAddress regs ls).apr ∧
    arpEmits macAddress ipAddress regs ls ArpEvent.soAPsMeta =
      aprMetas ipAddress { regs := regs.apr }
        (arpEmits macAddress ipAddress regs ls ArpEvent.chunk) ∧
    arpEmits macAddress ipAddress regs ls ArpEvent.soACcUpdateReq =
      aprBinds ipAddress { regs := regs.apr }
        (arpEmits macAddress ipAddress regs ls ArpEvent.chunk) := by
  have hstep : ∀ s l r, ArpMove macAddress ipAddress s l r →
      Clocked.run (aprNext ipAddress) s.apr r.2.chunk = r.1.apr ∧
        r.2.soAPsMeta = aprMetas ipAddress s.apr r.2.chunk ∧
        r.2.soACcUpdateReq = aprBinds ipAddress s.apr r.2.chunk := by
    intro s l r h
    cases h with
    | frame | macLkpReq | camLookup | camUpdate | stay => exact ⟨rfl, rfl, rfl⟩
    | apr h =>
        cases h with
        | idle | full => exact ⟨rfl, rfl, rfl⟩
        | read hq hc => simp [aprMetas, aprBinds, aprNext, hc]
    | aps h => cases h <;> exact ⟨rfl, rfl, rfl⟩
    | acc h => cases h <;> exact ⟨rfl, rfl, rfl⟩
  have hmeta := @emits_part _ _ _ (arpNext macAddress ipAddress)
    (fun s l => (arpStep macAddress ipAddress s l).2.soAPsMeta) _ _ (aprNext ipAddress)
    (fun s c => (pArpPacketReceiver ipAddress s c).2.soAPsMeta) ArpServer.apr
    (fun s l => (arpStep macAddress ipAddress s l).2.chunk)
    (fun s l => ⟨(hstep s l _ (arpStep_cases s l)).1, (hstep s l _ (arpStep_cases s l)).2.1⟩)
    (arpStart regs) ls
  have hbind := @emits_part _ _ _ (arpNext macAddress ipAddress)
    (fun s l => (arpStep macAddress ipAddress s l).2.soACcUpdateReq) _ _ (aprNext ipAddress)
    (fun s c => (pArpPacketReceiver ipAddress s c).2.soACcUpdateReq) ArpServer.apr
    (fun s l => (arpStep macAddress ipAddress s l).2.chunk)
    (fun s l => ⟨(hstep s l _ (arpStep_cases s l)).1, (hstep s l _ (arpStep_cases s l)).2.2⟩)
    (arpStart regs) ls
  exact ⟨hmeta.1, hmeta.2, hbind.2⟩

end Streams

/-! ### The CAM -/

section Cam

variable {macAddress : EthAddr} {ipAddress : Ip4Addr}

lemma lastBinding_snoc (bs : List ArpBindPair) (b : ArpBindPair) :
    lastBinding (bs ++ [b]) = camInsert (lastBinding bs) b := by
  funext key
  rw [lastBinding, List.filter_append, camInsert]
  by_cases hkey : key = b.ip4Addr
  · subst hkey
    simp
  · rw [Function.update_of_ne hkey]
    simp [Ne.symm hkey, lastBinding]

/-- What the CAM is asked for by the controller. -/
inductive CamAsked (s : ArpServer) : Prop
  | idle (hs : s.accFsmState = .accIdle) (hlreq : s.camMacLkpReq = []) (hlrep : s.camMacLkpRep = [])
      (hureq : s.camMacUpdReq = []) (hurep : s.camMacUpdRep = [])
  | update (hs : s.accFsmState = .accUpdate) (hlreq : s.camMacLkpReq = [])
      (hlrep : s.camMacLkpRep = []) {b : ArpBindPair} (hureq : s.camMacUpdReq = [b])
      (hurep : s.camMacUpdRep = [])
  | updated (hs : s.accFsmState = .accUpdate) (hlreq : s.camMacLkpReq = [])
      (hlrep : s.camMacLkpRep = []) (hureq : s.camMacUpdReq = []) (hurep : s.camMacUpdRep = [()])
  | lookup (hs : s.accFsmState = .accLookup) (hkey : s.ipLkpKey ≠ ip4BroadcastAddr)
      (hlreq : s.camMacLkpReq = [s.ipLkpKey]) (hlrep : s.camMacLkpRep = [])
      (hureq : s.camMacUpdReq = []) (hurep : s.camMacUpdRep = [])
  | found (hs : s.accFsmState = .accLookup) (hkey : s.ipLkpKey ≠ ip4BroadcastAddr)
      (hlreq : s.camMacLkpReq = []) {missValue : EthAddr}
      (hlrep : s.camMacLkpRep = [camReply (s.cam s.ipLkpKey) missValue])
      (hureq : s.camMacUpdReq = []) (hurep : s.camMacUpdRep = [])

/-- The CAM holds the last of the bindings that it has been given and has inserted. -/
structure CamInv (bs : List ArpBindPair) (s : ArpServer) : Prop where
  asked : CamAsked s
  cam : s.camMacUpdReq.foldl camInsert s.cam = lastBinding bs

/-- Steps of the others leave the CAM alone. -/
lemma CamInv.frame {bs : List ArpBindPair} {s s' : ArpServer} (h : CamInv bs s)
    (hfsm : s'.accFsmState = s.accFsmState) (hkey : s'.ipLkpKey = s.ipLkpKey)
    (hlreq : s'.camMacLkpReq = s.camMacLkpReq) (hlrep : s'.camMacLkpRep = s.camMacLkpRep)
    (hureq : s'.camMacUpdReq = s.camMacUpdReq) (hurep : s'.camMacUpdRep = s.camMacUpdRep)
    (hcam : s'.cam = s.cam) : CamInv bs s' := by
  obtain ⟨hasked, hbs⟩ := h
  refine ⟨?_, by rw [hureq, hcam, hbs]⟩
  cases hasked with
  | idle h₁ h₂ h₃ h₄ h₅ =>
      exact .idle (hfsm.trans h₁) (hlreq.trans h₂) (hlrep.trans h₃) (hureq.trans h₄)
        (hurep.trans h₅)
  | update h₁ h₂ h₃ h₄ h₅ =>
      exact .update (hfsm.trans h₁) (hlreq.trans h₂) (hlrep.trans h₃) (hureq.trans h₄)
        (hurep.trans h₅)
  | updated h₁ h₂ h₃ h₄ h₅ =>
      exact .updated (hfsm.trans h₁) (hlreq.trans h₂) (hlrep.trans h₃) (hureq.trans h₄)
        (hurep.trans h₅)
  | lookup h₁ h₂ h₃ h₄ h₅ h₆ =>
      rw [← hkey] at h₂ h₃
      exact .lookup (hfsm.trans h₁) h₂ (hlreq.trans h₃) (hlrep.trans h₄) (hureq.trans h₅)
        (hurep.trans h₆)
  | found h₁ h₂ h₃ h₄ h₅ h₆ =>
      rw [← hkey, ← hcam] at h₄
      rw [← hkey] at h₂
      exact .found (hfsm.trans h₁) h₂ (hlreq.trans h₃) (hlrep.trans h₄) (hureq.trans h₅)
        (hurep.trans h₆)

/-- A step of the controller or the CAM keeps the requests to the CAM in order, and a reply is that
of the bindings. -/
lemma CamInv.step {bs : List ArpBindPair} {s : ArpServer} {l : ArpLabel}
    {r : ArpServer × ArpEvent} (h : CamInv bs s) (hr : ArpMove macAddress ipAddress s l r) :
    CamInv (bs ++ r.2.soCAMMacUpdReq) r.1 ∧ ∀ a ∈ r.2.answer, IsAnswer bs a := by
  have hnone (s' : ArpServer) (hs' : CamInv bs s') :
      CamInv (bs ++ ([] : List ArpBindPair)) s' ∧
        ∀ a ∈ ([] : List (Ip4Addr × ArpLkpReply)), IsAnswer bs a := by
    rw [List.append_nil]
    exact ⟨hs', fun a ha => absurd ha List.not_mem_nil⟩
  have hcam := h.cam
  cases hr with
  | frame | macLkpReq | stay => exact hnone _ (h.frame rfl rfl rfl rfl rfl rfl rfl)
  | apr hr => cases hr <;> exact hnone _ (h.frame rfl rfl rfl rfl rfl rfl rfl)
  | aps hr => cases hr <;> exact hnone _ (h.frame rfl rfl rfl rfl rfl rfl rfl)
  | camLookup hk =>
      refine hnone _ ⟨?_, hcam⟩
      cases h.asked with
      | lookup hs hkey hlreq hlrep hureq hurep =>
          rw [hlreq] at hk
          obtain ⟨rfl, rfl⟩ := List.cons.inj hk
          exact .found hs hkey rfl (by rw [hlrep]; rfl) hureq hurep
      | idle hs hlreq | update hs hlreq | updated hs hlreq | found hs hkey hlreq =>
          rw [hlreq] at hk
          cases hk
  | camUpdate hb =>
      rw [hb] at hcam
      refine hnone _ ⟨?_, hcam⟩
      cases h.asked with
      | update hs hlreq hlrep hureq hurep =>
          rw [hureq] at hb
          obtain ⟨rfl, rfl⟩ := List.cons.inj hb
          exact .updated hs hlreq hlrep rfl (by rw [hurep]; rfl)
      | idle hs hlreq hlrep hureq | updated hs hlreq hlrep hureq
      | lookup hs hkey hlreq hlrep hureq | found hs hkey hlreq hlrep hureq =>
          rw [hureq] at hb
          cases hb
  | acc hr =>
      cases hr with
      | idle | wait => exact hnone _ h
      | broadcast hs =>
          refine ⟨?_, fun a ha => ?_⟩
          · rw [List.append_nil]
            refine ⟨?_, hcam⟩
            cases h.asked with
            | idle _ hlreq hlrep hureq hurep => exact .idle hs hlreq hlrep hureq hurep
            | update hs' | updated hs' | lookup hs' | found hs' =>
                rw [hs] at hs'
                cases hs'
          · rw [List.mem_singleton.mp ha, IsAnswer, if_pos rfl]
      | lookup hs hk hne =>
          refine hnone _ ⟨?_, hcam⟩
          cases h.asked with
          | idle _ hlreq hlrep hureq hurep =>
              exact .lookup rfl hne (by rw [hlreq]; rfl) hlrep hureq hurep
          | update hs' | updated hs' | lookup hs' | found hs' =>
              rw [hs] at hs'
              cases hs'
      | @update b _ hs hb =>
          refine ⟨?_, fun a ha => absurd ha List.not_mem_nil⟩
          cases h.asked with
          | idle _ hlreq hlrep hureq hurep =>
              refine ⟨.update rfl hlreq hlrep (by rw [hureq]; rfl) hurep, ?_⟩
              rw [lastBinding_snoc, List.foldl_append, hcam]
              rfl
          | update hs' | updated hs' | lookup hs' | found hs' =>
              rw [hs] at hs'
              cases hs'
      | updated hs hr =>
          refine hnone _ ⟨?_, hcam⟩
          cases h.asked with
          | updated _ hlreq hlrep hureq hurep =>
              rw [hurep] at hr
              obtain ⟨-, rfl⟩ := List.cons.inj hr
              exact .idle rfl hlreq hlrep hureq rfl
          | update _ _ _ _ hurep =>
              rw [hurep] at hr
              cases hr
          | idle hs' | lookup hs' | found hs' =>
              rw [hs] at hs'
              cases hs'
      | @answer r' _ hs hr =>
          cases h.asked with
          | @found _ hkey hlreq missValue hlrep hureq hurep =>
              rw [hlrep] at hr
              obtain ⟨rfl, rfl⟩ := List.cons.inj hr
              refine ⟨?_, fun a ha => ?_⟩
              · rw [List.append_nil]
                exact ⟨.idle rfl hlreq rfl hureq hurep, hcam⟩
              · rw [List.mem_singleton.mp ha, IsAnswer, if_neg hkey, ← hcam, hureq,
                  List.foldl_nil]
                cases s.cam s.ipLkpKey <;> rfl
          | lookup _ _ _ hlrep =>
              rw [hlrep] at hr
              cases hr
          | idle hs' | update hs' | updated hs' =>
              rw [hs] at hs'
              cases hs'

variable {regs : ArpRegs}

lemma arpEmits_snoc {β : Type} (out : ArpEvent → List β) (ls : List ArpLabel) (l : ArpLabel) :
    arpEmits macAddress ipAddress regs (ls ++ [l]) out =
      arpEmits macAddress ipAddress regs ls out ++
        out (arpStep macAddress ipAddress (arpRun macAddress ipAddress regs ls) l).2 := by
  rw [arpEmits, emits_append, emits_cons, emits_nil, List.append_nil, arpEmits, arpRun]

/-- **The CAM** always holds the last of the bindings that it has been given. -/
lemma arp_cam (ls : List ArpLabel) :
    CamInv (camBinds macAddress ipAddress regs ls) (arpRun macAddress ipAddress regs ls) := by
  induction ls using List.reverseRecOn with
  | nil => exact ⟨.idle rfl rfl rfl rfl rfl, rfl⟩
  | append_singleton ls l ih =>
      have hrun : arpRun macAddress ipAddress regs (ls ++ [l]) =
          (arpStep macAddress ipAddress (arpRun macAddress ipAddress regs ls) l).1 := by
        rw [arpRun, Clocked.run_append]
        rfl
      rw [hrun, camBinds, arpEmits_snoc]
      exact (ih.step (arpStep_cases _ l)).1

end Cam

/-! ### Safety -/

section Safe

variable {macAddress : EthAddr} {ipAddress : Ip4Addr}

/-- A frame that the receiver treats alone. -/
def Regular (f : EthFrame) : Prop := Complete (streamBytes f.val) ∧ f.val.length ≤ 256

instance : DecidablePred Regular := fun _ => inferInstanceAs (Decidable (_ ∧ _))

lemma flatMap_ite {β γ : Type} (p : β → Prop) [DecidablePred p] (f : β → γ) (bs : List β) :
    (bs.flatMap fun b => if p b then [f b] else []) = (bs.filter p).map f := by
  induction bs with
  | nil => rfl
  | cons b bs ih =>
      rw [List.flatMap_cons, ih, List.filter_cons]
      by_cases hb : p b <;> simp [hb]

/-- Regular frames are treated one by one. -/
lemma receiver_frames {fs : List EthFrame} (hfs : ∀ f ∈ fs, Regular f) (r : AprRegs) :
    aprMetas ipAddress { regs := r } (fs.flatMap Subtype.val) =
      ((fs.map fun f => streamBytes f.val).filter (IsRequestFor · ipAddress)).map frameMeta ∧
    aprBinds ipAddress { regs := r } (fs.flatMap Subtype.val) =
      ((fs.map fun f => streamBytes f.val).filter Complete).map frameBind := by
  have hframe : ∀ cs ∈ fs.map Subtype.val,
      WellFormed cs ∧ Complete (streamBytes cs) ∧ cs.length ≤ 256 := by
    intro cs hcs
    obtain ⟨f, hf, rfl⟩ := List.mem_map.mp hcs
    exact ⟨f.property, hfs f hf⟩
  have hmeta := (@emits_flatten _ _ _ (aprNext ipAddress)
    (fun s c => (pArpPacketReceiver ipAddress s c).2.soAPsMeta) (fun s => s.chunkCount = 0) _
    (fun cs => if IsRequestFor (streamBytes cs) ipAddress then [frameMeta (streamBytes cs)] else [])
    (fun s cs hs h =>
      ⟨(receiver_frame h.1 h.2.1 h.2.2 hs).metas, (receiver_frame h.1 h.2.1 h.2.2 hs).chunkCount⟩)
    (fs.map Subtype.val) { regs := r } rfl hframe).1
  have hbind := (@emits_flatten _ _ _ (aprNext ipAddress)
    (fun s c => (pArpPacketReceiver ipAddress s c).2.soACcUpdateReq) (fun s => s.chunkCount = 0) _
    (fun cs => [frameBind (streamBytes cs)])
    (fun s cs hs h =>
      ⟨(receiver_frame h.1 h.2.1 h.2.2 hs).binds, (receiver_frame h.1 h.2.1 h.2.2 hs).chunkCount⟩)
    (fs.map Subtype.val) { regs := r } rfl hframe).1
  have hall : (fs.map fun f => streamBytes f.val).filter Complete =
      fs.map fun f => streamBytes f.val := by
    refine List.filter_eq_self.mpr fun b hb => ?_
    obtain ⟨f, hf, rfl⟩ := List.mem_map.mp hb
    exact decide_eq_true (hfs f hf).1
  refine ⟨?_, ?_⟩
  · rw [aprMetas, List.flatMap_def, hmeta, List.flatMap_map, ← flatMap_ite,
      List.flatMap_map]
  · rw [aprBinds, List.flatMap_def, hbind, hall, List.flatMap_map, List.map_map,
      List.map_eq_flatMap]
    rfl

variable {regs : ArpRegs} {ls : List ArpLabel}

/-- What the receiver has written so far. -/
lemma arp_received (hfs : ∀ f ∈ arpFrames ls, Regular f) :
    arpEmits macAddress ipAddress regs ls ArpEvent.soAPsMeta <+: askedMetas ipAddress ls ∧
      arpEmits macAddress ipAddress regs ls ArpEvent.soACcUpdateReq <+: frameBinds ls := by
  obtain ⟨-, hmeta, hbind⟩ := @arp_receiver macAddress ipAddress regs ls
  obtain ⟨hmetas, hbinds⟩ := @receiver_frames ipAddress _ hfs regs.apr
  rw [@arp_chunks macAddress ipAddress regs ls] at hmetas hbinds
  rw [aprMetas, emits_append, ← aprMetas, ← hmeta] at hmetas
  rw [aprBinds, emits_append, ← aprBinds, ← hbind] at hbinds
  exact ⟨⟨_, hmetas⟩, ⟨_, hbinds⟩⟩

/-- The frames of the jobs. -/
lemma frames_of_jobs (jobs : List ArpJob) :
    List.Forall₂ (IsFrameOf macAddress ipAddress) jobs
      (jobs.map (arpFrame macAddress ipAddress)) := by
  rw [List.forall₂_map_right_iff]
  exact List.forall₂_same.mpr fun job _ => arpFrame_bytes macAddress ipAddress job

/-- As long as every frame is regular, the run is safe. -/
theorem arpSafe (hfs : ∀ f ∈ arpFrames ls, Regular f) :
    ArpSafe macAddress ipAddress regs ls := by
  obtain ⟨hmetas, hbinds⟩ := @arp_received macAddress ipAddress regs ls hfs
  refine ⟨?_, ?_, ?_, ?_⟩
  · rw [arp_binds] at hbinds
    exact (List.prefix_append _ _).trans hbinds
  · refine ⟨_, _, frames_of_jobs (arpEmits macAddress ipAddress regs ls ArpEvent.job), ?_, ?_, ?_⟩
    · rw [← List.flatMap_def, arp_frames]
      exact List.prefix_append _ _
    · rw [arp_metas] at hmetas
      exact (List.prefix_append _ _).trans hmetas
    · rw [arp_keys]
      exact List.prefix_append _ _
  · rw [@arp_lookups macAddress ipAddress regs ls]
    exact List.prefix_append _ _
  · rintro pre l post - a ha
    exact ((arp_cam pre).step (arpStep_cases _ l)).2 a ha

end Safe

end CloudFpga.Arp
