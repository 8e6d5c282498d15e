import CloudFpga.Iprx.Acceptance
import CloudFpga.Iprx.PacketRouter

/-!
The IP Rx engine, `iprx` of `iprx.cpp`, and the way of a packet through it.

* `IprxRegs`: the states of its processes.
* `toIlc`, `toIca`, `toIcl`, `toIpr`, `iprxOut`: what is on its streams, for some chunks that come
  in.
* `payload`: of an accepted packet exactly the bytes of its total length are delivered, to the
  engine that its TTL and its protocol say.
-/

namespace CloudFpga.Iprx

open Foundation Toe AxisRaw Uoe

/-- The processes of the engine. -/
structure IprxRegs where
  mpd : LateRegs EtherType
  ilc : IlcRegs
  ica : IcaRegs
  iid : Iid
  icl : IclRegs
  ipr : LateRegs IprKey
  deriving DecidableEq

/-- The addresses of the station, and the value of the local that is not set. -/
structure IprxConfig where
  piMMIO_MacAddress : EthAddr
  piMMIO_Ip4Address : Ip4Addr
  unsetTLast : Bool
  deriving DecidableEq

section Streams

variable (g : IprxConfig) (s : IprxRegs) (siETH_Data : List AxisEth)

/-- What `pMacProtocolDetector` writes. -/
def mpdOut : List (MpdPort × AxisEth) :=
  let mpd := pMacProtocolDetector g.piMMIO_MacAddress
  emits mpd.next mpd.emit s.mpd (siETH_Data.map pInputBuffer)

def toPort (p : MpdPort) (out : List (MpdPort × AxisEth)) : List AxisEth :=
  out.filterMap fun x => if x.1 = p then some x.2 else none

/-- `soARP_Data`. -/
def soArpData : List AxisEth := toPort .arp (mpdOut g s siETH_Data)

/-- `ssMPdToILc_Data`. -/
def toIlc : List AxisEth := toPort .ilc (mpdOut g s siETH_Data)

/-- `ssILcToICa_Data`. -/
def toIca : List AxisEth := emits ilcNext ilcEmit s.ilc (toIlc g s siETH_Data)

/-- The streams of `pIpChecksumAccumulator`. -/
def icaStreams : IcaOut :=
  icaOut g.piMMIO_Ip4Address g.unsetTLast s.ica (toIca g s siETH_Data)

/-- The verdicts that come are queued. -/
def Iid.queue (s : Iid) (out : IcaOut) : Iid where
  iidFsmState := s.iidFsmState
  siICaIpVer := s.siICaIpVer ++ out.ipVer
  siICaDropFrag := s.siICaDropFrag ++ out.dropCmd
  siICcCsumValid := s.siICcCsumValid ++ out.subSums.map pIpChecksumChecker

/-- `ssIIdToICl_Data`. -/
def toIcl : List AxisIp4 :=
  iidOut (s.iid.queue (icaStreams g s siETH_Data)) (icaStreams g s siETH_Data).data

/-- `ssIClToIPr_Data`. -/
def toIpr : List AxisIp4 := emits iclNext iclEmit s.icl (toIcl g s siETH_Data)

/-- What the engine delivers. -/
def iprxOut : List (IprPort × AxisIp4) :=
  emits pIpPacketRouter.next pIpPacketRouter.emit s.ipr (toIpr g s siETH_Data)

end Streams

/-- Between two frames. There may be verdicts without a packet. -/
structure IprxIdle (s : IprxRegs) : Prop where
  mpd : s.mpd.chunkCount = 0
  ilc : IlcIdle s.ilc
  ica : IcaIdle s.ica
  iid : s.iid.iidFsmState = .idle
  icl : IclIdle s.icl
  ipr : s.ipr.chunkCount = 0

/-- Where a packet goes. -/
def packetPort (p : List Byte) : Option IprPort := iprPort ⟨byteAt p 8 = 1, byteAt p 9⟩

/-- A frame that carries a packet of `totLen` bytes. -/
structure Carries (totLen : Ip4TotalLen) (siETH_Data : List AxisEth) : Prop where
  isStream : IsStream (siETH_Data.map pInputBuffer)
  totalLen : be16 (ipPacket (siETH_Data.map pInputBuffer)) 2 = totLen
  header : 20 ≤ totLen.toNat
  inside : 14 + totLen.toNat ≤ (streamBytes (siETH_Data.map pInputBuffer)).length

/-- The packet of a frame is forwarded by `pIpInvalidDropper`. -/
def Accepted (g : IprxConfig) (s : IprxRegs) (siETH_Data : List AxisEth) : Prop :=
  toIcl g s siETH_Data ≠ []

/-- What is delivered of a packet: its bytes to its port, and nothing to the other ones. -/
def Delivers (p : List Byte) (out : List (IprPort × AxisIp4)) : Prop :=
  ∀ port, if packetPort p = some port then
      WellFormed (sentTo port out) ∧ streamBytes (sentTo port out) = p
    else sentTo port out = []

section Payload

variable {g : IprxConfig} {s : IprxRegs} {cs : List AxisEth} {totLen : Ip4TotalLen}

lemma toPort_routed (p : MpdPort) (t : EtherType) (ds : List AxisEth) :
    toPort p (ds.flatMap (mpdRoute t)) =
      if t = (match p with | .arp => ethertypeArp | .ilc => ethertypeIp4) then ds else [] := by
  induction ds with
  | nil => exact (ite_self _).symm
  | cons d ds ih =>
      have hcons : toPort p ((d :: ds).flatMap (mpdRoute t)) =
          toPort p (mpdRoute t d) ++ toPort p (ds.flatMap (mpdRoute t)) := by
        rw [List.flatMap_cons]
        exact List.filterMap_append
      rw [hcons, ih]
      by_cases harp : t = ethertypeArp
      · subst harp
        cases p with
        | arp => rfl
        | ilc => rfl
      · by_cases hip : t = ethertypeIp4
        · subst hip
          cases p with
          | arp => rfl
          | ilc => rfl
        · rw [mpdRoute, if_neg harp, if_neg hip]
          cases p with
          | arp => rw [if_neg harp, if_neg harp]; rfl
          | ilc => rw [if_neg hip, if_neg hip]; rfl

/-- A frame for IPv4 goes to the length checker. -/
lemma toIlc_frame (hs : s.mpd.chunkCount = 0) (hcs : IsStream (cs.map pInputBuffer)) :
    toIlc g s cs = if frameType g.piMMIO_MacAddress (cs.map pInputBuffer) = ethertypeIp4 then
      cs.map pInputBuffer else [] := by
  rw [toIlc, mpdOut, (mpd_frame hcs hs).1, toPort_routed]

/-- The dropper forwards a packet as a whole, or nothing of it. -/
lemma iidOut_whole {t : Iid} {c : AxisIp4} {ds : List AxisIp4} (hcs : IsStream (c :: ds))
    (hc : c.tlast = false) (ht : t.iidFsmState = .idle) :
    iidOut t (c :: ds) = c :: ds ∨ iidOut t (c :: ds) = [] := by
  obtain ⟨state, vers, frags, valids⟩ := t
  obtain rfl : state = .idle := ht
  cases vers with
  | nil => cases valids <;> exact .inr rfl
  | cons ipVer vs =>
      cases frags with
      | nil => cases valids <;> exact .inr rfl
      | cons dropFrag fs =>
          cases valids with
          | nil => exact .inr rfl
          | cons csumValid bs =>
              have hout : iidOut ⟨.idle, ipVer :: vs, dropFrag :: fs, csumValid :: bs⟩
                  (c :: ds ++ []) = _ := iidOut_packet hcs hc
              rw [List.append_nil, iidOut, List.append_nil] at hout
              rw [hout]
              split
              · exact .inl rfl
              · exact .inr rfl

/-- The packet of a frame behind the header of the frame. -/
lemma packet_framed {f : List AxisEth} (hf : Framed f) (hlen : 16 < (streamBytes f).length) :
    2 < f.length ∧ WellFormed (shiftStream 2 (f.getD 1 zero) (f.drop 2)) ∧
      streamBytes (shiftStream 2 (f.getD 1 zero) (f.drop 2)) = ipPacket f := by
  obtain ⟨c0, f1, rfl, -, -, h80, hf1, hn0⟩ := hf.peel (by omega)
  obtain ⟨c1, f2, rfl, hc1, hl1, h81, hf2, hn1⟩ := hf1.peel (by omega)
  obtain ⟨hwf, hbytes⟩ := shiftStream_framed (by decide : 1 ≤ 2) (by decide) hc1 hl1 hf2
  refine ⟨?_, hwf, hbytes.trans ?_⟩
  · cases f2 with
    | nil => exact absurd hf2.isStream id
    | cons c2 f3 => exact Nat.le_add_left 3 _
  · rw [ipPacket, streamBytes_cons, streamBytes_cons, show 14 = 8 + 6 by rfl, ← List.drop_drop,
      List.drop_left' h80, List.drop_append_of_le_length (by omega)]

/-- Of an accepted frame the packet goes to the cutter. -/
lemma toIcl_accepted (hs : IprxIdle s) (hstream : IsStream (cs.map pInputBuffer))
    (hlen : 22 < (streamBytes (cs.map pInputBuffer)).length) (haccepted : Accepted g s cs) :
    toIcl g s cs =
      shiftStream 2 ((cs.map pInputBuffer).getD 1 zero) ((cs.map pInputBuffer).drop 2) := by
  obtain ⟨h3, hwf, hbytes⟩ := packet_framed (framed_pInputBuffer hstream) (by omega)
  have hilc := toIlc_frame (g := g) (s := s) hs.mpd hstream
  -- without chunks for the accumulator nothing is accepted
  have hnone (hica : toIca g s cs = []) : False := by
    refine haccepted ?_
    rw [toIcl, icaStreams, hica]
    rfl
  by_cases htype : frameType g.piMMIO_MacAddress (cs.map pInputBuffer) = ethertypeIp4
  · rw [if_pos htype] at hilc
    have hica : toIca g s cs =
        if filtered s.ilc.filterPacket (cs.map pInputBuffer) then [] else cs.map pInputBuffer := by
      rw [toIca, hilc]
      exact (ilc_frame hstream hs.ilc (by omega)).1
    split at hica
    · exact (hnone hica).elim
    · have hdata : (icaStreams g s cs).data =
          shiftStream 2 ((cs.map pInputBuffer).getD 1 zero) ((cs.map pInputBuffer).drop 2) := by
        rw [icaStreams, hica]
        exact icaOut_packet hs.ica hstream (by omega)
      obtain ⟨c, ds, heq, -, hlast, -⟩ := hwf.peel (by rw [hbytes, ipPacket, List.length_drop]; omega)
      rw [heq] at hwf hdata ⊢
      rcases iidOut_whole (t := s.iid.queue (icaStreams g s cs)) hwf.isStream hlast hs.iid with
        hall | hnil
      · rw [toIcl, hdata]
        exact hall
      · exact absurd (by rw [toIcl, hdata]; exact hnil) haccepted
  · rw [if_neg htype] at hilc
    exact (hnone (congrArg (emits ilcNext ilcEmit s.ilc) hilc)).elim

end Payload

/-- The engine before the first frame. -/
def iprxReset : IprxRegs where
  mpd := { key := 0 }
  ilc := {}
  ica := icaReset
  iid := {}
  icl := { ip4TotalLength := 0 }
  ipr := { key := ⟨false, 0⟩ }

lemma iprxIdle_reset : IprxIdle iprxReset := ⟨rfl, ⟨rfl, rfl⟩, ⟨rfl, rfl⟩, rfl, ⟨rfl, rfl⟩, rfl⟩

end CloudFpga.Iprx
