import CloudFpga.Nal.Hss.AxiLite

/-!
The MRT agency of the NAL, `pMrtAgency` of `hss.cpp`. It keeps the addresses of the nodes, applies
their changes, and answers the lookups in both directions.

* `lookupIp`, `lookupNid`: the two lookups.
* `pMrtAgency`: one change, or one lookup.
* `newestMRT`: the addresses once the changes that wait are applied.
-/

namespace CloudFpga.Nal

/-- The addresses of the nodes. -/
abbrev Mrt := Fin maxMrtSize → Word

/-- The address of a node, zero if the rank is beyond the limit. -/
def lookupIp (localMRT : Mrt) (rank : NodeId) : Ip4Addr :=
  if h : rank.toNat < maxMrtSize then localMRT ⟨rank.toNat, h⟩ else 0

/-- The first node with the address. -/
def lookupNid (localMRT : Mrt) (ipAddr : Ip4Addr) : NodeId :=
  match (List.finRange maxMrtSize).find? fun i => localMRT i = ipAddr with
  | some i => BitVec.ofNat 8 i.val
  | none => invalidMrtValue.setWidth 8

/-- The table, and the streams of requests and replies. -/
structure MrtAgency where
  localMRT : Mrt := fun _ => 0
  sGetIpReqUdpTx : List NodeId := []
  sGetIpRepUdpTx : List Ip4Addr := []
  sGetIpReqTcpTx : List NodeId := []
  sGetIpRepTcpTx : List Ip4Addr := []
  sGetNidReqUdpRx : List Ip4Addr := []
  sGetNidRepUdpRx : List NodeId := []
  sGetNidReqTcpRx : List Ip4Addr := []
  sGetNidRepTcpRx : List NodeId := []

/-- Which of the streams of replies have room. -/
structure MrtCall where
  ipUdpTxRoom : Bool := true
  ipTcpTxRoom : Bool := true
  nidUdpRxRoom : Bool := true
  nidTcpRxRoom : Bool := true
  deriving DecidableEq

section Process

variable (a : MrtAgency) (k : MrtCall)

def serveIpUdpTx : Option MrtAgency :=
  match a.sGetIpReqUdpTx with
  | rank :: reqs =>
      if k.ipUdpTxRoom then
        some { a with
          sGetIpReqUdpTx := reqs
          sGetIpRepUdpTx := a.sGetIpRepUdpTx ++ [lookupIp a.localMRT rank] }
      else none
  | [] => none

def serveIpTcpTx : Option MrtAgency :=
  match a.sGetIpReqTcpTx with
  | rank :: reqs =>
      if k.ipTcpTxRoom then
        some { a with
          sGetIpReqTcpTx := reqs
          sGetIpRepTcpTx := a.sGetIpRepTcpTx ++ [lookupIp a.localMRT rank] }
      else none
  | [] => none

def serveNidUdpRx : Option MrtAgency :=
  match a.sGetNidReqUdpRx with
  | ipAddr :: reqs =>
      if k.nidUdpRxRoom then
        some { a with
          sGetNidReqUdpRx := reqs
          sGetNidRepUdpRx := a.sGetNidRepUdpRx ++ [lookupNid a.localMRT ipAddr] }
      else none
  | [] => none

def serveNidTcpRx : Option MrtAgency :=
  match a.sGetNidReqTcpRx with
  | ipAddr :: reqs =>
      if k.nidTcpRxRoom then
        some { a with
          sGetNidReqTcpRx := reqs
          sGetNidRepTcpRx := a.sGetNidRepTcpRx ++ [lookupNid a.localMRT ipAddr] }
      else none
  | [] => none

/-- The first lookup that can be answered. -/
def serveLookup : MrtAgency :=
  ((((serveIpUdpTx a k).or (serveIpTcpTx a k)).or (serveNidUdpRx a k)).or
    (serveNidTcpRx a k)).getD a

/-- One call, with the changes that are left. -/
def pMrtAgency (sMrtUpdate : List NalMrtUpdate) : List NalMrtUpdate × MrtAgency :=
  match sMrtUpdate with
  | mu :: mus => (mus, { a with localMRT := Function.update a.localMRT mu.nid mu.ip4a })
  | [] => ([], serveLookup a k)

end Process

/-- The lookups do not change the table. -/
lemma serveLookup_localMRT (a : MrtAgency) (k : MrtCall) :
    (serveLookup a k).localMRT = a.localMRT := by
  have hany (b : MrtAgency) (h : b ∈ (((serveIpUdpTx a k).or (serveIpTcpTx a k)).or
      (serveNidUdpRx a k)).or (serveNidTcpRx a k)) : b.localMRT = a.localMRT := by
    rw [Option.mem_def, Option.or_eq_some_iff, Option.or_eq_some_iff, Option.or_eq_some_iff] at h
    rcases h with ((h | ⟨-, h⟩) | ⟨-, h⟩) | ⟨-, h⟩
    · rw [serveIpUdpTx] at h
      grind
    · rw [serveIpTcpTx] at h
      grind
    · rw [serveNidUdpRx] at h
      grind
    · rw [serveNidTcpRx] at h
      grind
  rw [serveLookup]
  cases h : (((serveIpUdpTx a k).or (serveIpTcpTx a k)).or (serveNidUdpRx a k)).or
      (serveNidTcpRx a k) with
  | none => rfl
  | some b => exact hany b h

/-! ### Changes that wait -/

/-- The addresses once the changes are applied. -/
def newestMRT (mus : List NalMrtUpdate) (localMRT : Mrt) : Mrt :=
  mus.foldl (fun t mu => Function.update t mu.nid mu.ip4a) localMRT

@[simp] lemma newestMRT_nil (t : Mrt) : newestMRT [] t = t := rfl

@[simp] lemma newestMRT_append (mus nus : List NalMrtUpdate) (t : Mrt) :
    newestMRT (mus ++ nus) t = newestMRT nus (newestMRT mus t) :=
  List.foldl_append

/-- A change is announced twice, which has no effect. -/
lemma newestMRT_twice (i : Fin maxMrtSize) (ip : Ip4Addr) (t : Mrt) :
    newestMRT [⟨i, ip⟩, ⟨i, ip⟩] t = Function.update t i ip := by
  simp [newestMRT]

/-- A call changes the table only by a change that waits. -/
lemma newestMRT_pMrtAgency (a : MrtAgency) (k : MrtCall) (mus : List NalMrtUpdate) :
    newestMRT (pMrtAgency a k mus).1 (pMrtAgency a k mus).2.localMRT =
      newestMRT mus a.localMRT := by
  cases mus with
  | nil => exact serveLookup_localMRT a k
  | cons mu mus => rfl

end CloudFpga.Nal
