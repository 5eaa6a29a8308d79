/-
What `ppp_process` does with a frame.

A frame is refused, handed to DHCPv6, handled as discovery, or decoded as PPP; a frame that is
decoded either fails, or goes on to the authentication check and the automaton.
`PppHandled` lists these with what is known of the frame in each, and `pppProcess_handled` says
that there are no others.

The first use of it is `run_slotted`: a frame is stored only in the slot of its own protocol,
an authentication result in the slot of LCP, so in every block the control thread can lead to,
each slot holds a frame of its own protocol or none.
-/
import FastRG.Proofs.PppDecode

namespace FastRG

variable {env : PppEnv} {tim : PppTimerId} {s t : PppCcb} {ev : PppEvent} {cp : PppCp}
  {pkt payload : List (BitVec 8)}

/-! ### PPP frames -/

/-- The header of a PPP frame. -/
def payloadHdr (payload : List (BitVec 8)) : PppHdr :=
  ⟨payload.getD 2 0, payload.getD 3 0, swap16 (be16At payload 4)⟩

/-- What follows it, as far as the length field says. -/
def payloadData (payload : List (BitVec 8)) : List (BitVec 8) :=
  (payload.drop 6).take ((be16At payload 4).toNat - 4)

/-- A frame stored in the slot of a protocol. -/
def PppCcb.storeFrame (s : PppCcb) (cp : PppCp) (payload : List (BitVec 8)) : PppCcb :=
  s.store cp (be16At payload 0) (payloadHdr payload) (payloadData payload)

/-- The length field covers the header, and the frame holds what it covers. -/
def payloadFits (payload : List (BitVec 8)) : Prop :=
  4 ≤ (be16At payload 4).toNat ∧ 2 + (be16At payload 4).toNat ≤ payload.length

/-- What `decode_ppp` may come to. -/
inductive PppDecoded (env : PppEnv) (payload : List (BitVec 8)) (s : PppCcb) : Decoded → Prop
  | ignored : PppDecoded env payload s (.fail s)
  | ipcpEarly (hproto : be16At payload 0 = ipcpProtocol) :
      PppDecoded env payload s (.fail (s.storeFrame .ipcp payload))
  | ipv6cpEarly (hproto : be16At payload 0 = ipv6cpProtocol) :
      PppDecoded env payload s (.fail (s.storeFrame .ipv6cp payload))
  | ipcp (hfits : payloadFits payload) (hproto : be16At payload 0 = ipcpProtocol)
      (hphase : s.phase = ipcpPhase) :
      PppDecoded env payload s ((decodeIpcp .ppp (s.storeFrame .ipcp payload)).select .ipcp)
  | ipv6cp (hfits : payloadFits payload) (hproto : be16At payload 0 = ipv6cpProtocol)
      (henabled : s.ipv6Enabled = true) (hphase : s.phase = ipcpPhase ∨ s.phase = dataPhase) :
      PppDecoded env payload s
        ((decodeIpv6cp env .pppIpv6cp (s.storeFrame .ipv6cp payload)).select .ipv6cp)
  | lcp (hfits : payloadFits payload) (hproto : be16At payload 0 = lcpProtocol) :
      PppDecoded env payload s ((decodeLcp .ppp (s.storeFrame .lcp payload)).select .lcp)
  | authStay (hphase : s.phase = authPhase) : PppDecoded env payload s (.ok .eUnknown s)
  | authResult {proto : BitVec 16} (hfits : payloadFits payload)
      (hproto : be16At payload 0 = proto) (hauth : proto = papProtocol ∨ proto = chapProtocol)
      (hphase : s.phase = authPhase) :
      PppDecoded env payload s (.ok .eUnknown (s.storeAuth proto (payloadHdr payload)))
  | papNak (hphase : s.phase = authPhase) :
      PppDecoded env payload s (.ok .eUnknown (pppFsm env .ppp .eClose (s.enterPhase lcpPhase)).2)

theorem enterPhase_self {phase : Nat} (h : s.phase = phase) : s.enterPhase phase = s := by
  subst h
  rfl

theorem decodePap_decoded (hfits : payloadFits payload) (hproto : be16At payload 0 = papProtocol) :
    PppDecoded env payload s (decodePap env (payloadHdr payload) s) := by
  unfold decodePap
  split
  · exact .ignored
  rename_i hphase
  have hphase : s.phase = authPhase := not_not.mp hphase
  split
  · exact .authResult hfits hproto (Or.inl rfl) hphase
  split
  · exact .papNak hphase
  split
  · rw [enterPhase_self hphase]
    exact .authStay hphase
  · exact .authStay hphase

theorem decodeChap_decoded (hfits : payloadFits payload)
    (hproto : be16At payload 0 = chapProtocol) :
    PppDecoded env payload s (decodeChap (payloadHdr payload) (payloadData payload) s) := by
  unfold decodeChap
  split
  · exact .ignored
  rename_i hphase
  have hphase : s.phase = authPhase := not_not.mp hphase
  split
  · split
    · exact .ignored
    · rw [enterPhase_self hphase]
      exact .authStay hphase
  split
  · exact .authResult hfits hproto (Or.inr rfl) hphase
  split
  · exact .authResult hfits hproto (Or.inr rfl) hphase
  · exact .authStay hphase

theorem decodePpp_decoded (env : PppEnv) (payload : List (BitVec 8)) (s : PppCcb) :
    PppDecoded env payload s (decodePpp env payload s) := by
  unfold decodePpp
  simp only
  split
  · exact .ignored
  rename_i hlen
  split
  · exact .ignored
  rename_i hroom
  have hfits : payloadFits payload := ⟨Nat.le_of_not_lt hlen, Nat.le_of_not_lt hroom⟩
  split
  · rename_i hproto
    split
    · exact .ipcpEarly hproto
    · rename_i hphase
      exact .ipcp hfits hproto (not_not.mp hphase)
  split
  · rename_i hproto
    split
    · exact .ipv6cpEarly hproto.1
    · rename_i hphase
      refine .ipv6cp hfits hproto.1 hproto.2 ?_
      by_cases h : s.phase = ipcpPhase
      · exact Or.inl h
      · exact Or.inr (not_not.mp fun h' => hphase ⟨h, h'⟩)
  split
  · rename_i hproto
    exact .lcp hfits hproto
  split
  · rename_i hproto
    exact decodePap_decoded hfits hproto
  split
  · rename_i hproto
    exact decodeChap_decoded hfits hproto
  · exact .ignored

theorem select_ok {d : Decoded} {cp : PppCp} (h : (d.select cp).status ≠ .error) :
    d.status ≠ .error ∧ d.select cp = { d with ccb := { d.ccb with cpId := cp } } := by
  unfold Decoded.select at h ⊢
  split at h
  · rename_i herr
    exact absurd herr h
  · rename_i hok
    exact ⟨hok, if_neg hok⟩

/-! ### Any frame -/

/-- A frame that is decoded: the authentication check, then the automaton. -/
def pppFinish (env : PppEnv) (d : Decoded) : PppCcb :=
  if (checkAuthResult env d.ccb).1 then (checkAuthResult env d.ccb).2
  else
    codecCleanupPppCcb (pppFsm env (pppCpTimer (checkAuthResult env d.ccb).2) d.event
      (checkAuthResult env d.ccb).2).2

/-- The block discovery starts from: a PADS sets the phase before it is looked at. -/
def discoveryPhase (pkt : List (BitVec 8)) (s : PppCcb) : PppCcb :=
  if framePppoeCode pkt = padsCode then s.enterPhase lcpPhase else s

/-- The block LCP is opened in by a PADS. -/
def padsBlock (pkt : List (BitVec 8)) (s : PppCcb) : PppCcb :=
  { s with phase := lcpPhase, pppoe := none, sessionId := frameSessionId pkt, cpId := .lcp }

theorem decodePppoe_pads (hcode : framePppoeCode pkt = padsCode) (env : PppEnv) (s : PppCcb) :
    (decodePppoe env pkt (discoveryPhase pkt s)).core =
      ((padsBlock pkt s).openMove .ppp).core := by
  unfold decodePppoe discoveryPhase
  rw [if_pos hcode, hcode, if_neg (by decide), if_pos rfl]
  exact (pppFsm_move env .ppp .eOpen _).core

theorem decodePppoe_pado (hcode : framePppoeCode pkt = padoCode) (env : PppEnv) (s : PppCcb) :
    decodePppoe env pkt (discoveryPhase pkt s) =
      if s.pppoePhase.active then s
      else
        { s with pppoePhase := ⟨maxRetran, 1, true⟩, pppDstMac := frameSrcMac pkt
                 pppoe := some .padr } := by
  have hphase : discoveryPhase pkt s = s := by
    unfold discoveryPhase
    rw [hcode, if_neg (by decide)]
  unfold decodePppoe
  rw [hphase, if_pos hcode]

/-- A session frame that gets as far as `decode_ppp`. -/
structure ForSession (pkt : List (BitVec 8)) (s : PppCcb) : Prop where
  len : 30 ≤ pkt.length
  max : pkt.length ≤ ethJumbo
  ses : frameNextProto pkt = ethPPppSes
  live : s.sessionId ≠ 0
  same : frameSessionId pkt = s.sessionId

/-- What may become of a frame. -/
inductive PppHandled (env : PppEnv) (pkt : List (BitVec 8)) (d : Dhcp6) (s : PppCcb) : PppCcb → Prop
  | refused : PppHandled env pkt d s s
  | dhcp6 : PppHandled env pkt d s (dhcp6WanInput d s)
  | discovery (hlen : 24 ≤ pkt.length) (hmax : pkt.length ≤ ethJumbo)
      (hdis : frameNextProto pkt = ethPPppDis) :
      PppHandled env pkt d s (decodePppoe env pkt (discoveryPhase pkt s))
  | failed {r : Decoded} (hses : ForSession pkt s) (hr : PppDecoded env (framePayload pkt) s r)
      (hst : r.status = .error) : PppHandled env pkt d s r.ccb
  | finished {r : Decoded} (hses : ForSession pkt s) (hr : PppDecoded env (framePayload pkt) s r)
      (hst : r.status = .success) :
      PppHandled env pkt d s (pppFinish env r)
  | idle : PppHandled env pkt d s (pppFinish env (.ok .eUnknown s))

/-- The two ways out of `ppp_process`, once the frame is not turned away. -/
theorem pppProcess_decoded (env : PppEnv) (d : Dhcp6)
    (hsid : ¬ (24 ≤ pkt.length ∧ namesSession pkt = true ∧
      (s.sessionId = 0 ∨ frameSessionId pkt ≠ s.sessionId)))
    (hdata : ¬ (26 ≤ pkt.length ∧ frameNextProto pkt = ethPPppSes ∧
      be16At (framePayload pkt) 0 = pppIpv6Protocol)) :
    (pppProcess env pkt d s).2 =
      if (pppDecodeFrame env pkt s).status = .error then (pppDecodeFrame env pkt s).ccb
      else pppFinish env (pppDecodeFrame env pkt s) := by
  unfold pppProcess pppFinish
  rw [if_neg hsid, if_neg hdata]
  simp only
  split
  · rfl
  · split <;> rfl

theorem pppProcess_handled (env : PppEnv) (pkt : List (BitVec 8)) (d : Dhcp6) (s : PppCcb) :
    PppHandled env pkt d s (pppProcess env pkt d s).2 := by
  by_cases hsid : 24 ≤ pkt.length ∧ namesSession pkt = true ∧
      (s.sessionId = 0 ∨ frameSessionId pkt ≠ s.sessionId)
  · have hs : pppProcess env pkt d s = (.error, s) := by
      unfold pppProcess
      rw [if_pos hsid]
    rw [hs]
    exact .refused
  by_cases hdata : 26 ≤ pkt.length ∧ frameNextProto pkt = ethPPppSes ∧
      be16At (framePayload pkt) 0 = pppIpv6Protocol
  · have hs : pppProcess env pkt d s = (.success, dhcp6WanInput d s) := by
      unfold pppProcess
      rw [if_neg hsid, if_pos hdata]
    rw [hs]
    exact .dhcp6
  rw [pppProcess_decoded env d hsid hdata]
  unfold pppDecodeFrame
  by_cases hmax : ethJumbo < pkt.length
  · rw [if_pos hmax]
    exact .refused
  rw [if_neg hmax]
  by_cases hlen : pkt.length < 24
  · rw [if_pos hlen]
    exact .refused
  rw [if_neg hlen]
  by_cases hdis : frameNextProto pkt = ethPPppDis
  · rw [if_pos hdis]
    exact .discovery (Nat.le_of_not_lt hlen) (Nat.le_of_not_lt hmax) hdis
  rw [if_neg hdis]
  by_cases hses : frameNextProto pkt = ethPPppSes
  · rw [if_pos hses]
    by_cases hshort : pkt.length < 30
    · rw [if_pos hshort]
      exact .refused
    rw [if_neg hshort]
    have hsession : ForSession pkt s := by
      have hnames : namesSession pkt = true := by simp [namesSession, hses]
      have hin : ¬ (s.sessionId = 0 ∨ frameSessionId pkt ≠ s.sessionId) :=
        fun h => hsid ⟨Nat.le_of_not_lt hlen, hnames, h⟩
      exact ⟨Nat.le_of_not_lt hshort, Nat.le_of_not_lt hmax, hses, fun h => hin (Or.inl h),
        not_not.mp fun h => hin (Or.inr h)⟩
    have hr := decodePpp_decoded env (framePayload pkt) s
    cases hst : (decodePpp env (framePayload pkt) s).status with
    | error =>
        rw [if_pos rfl]
        exact .failed hsession hr hst
    | success =>
        rw [if_neg (by decide)]
        exact .finished hsession hr hst
  · rw [if_neg hses]
    exact .idle

/-! ### What the slots hold -/

/-- The protocols of the frames a slot may hold; zero when it has held none. -/
def slotProtos : PppCp → List (BitVec 16)
  | .lcp => [0, lcpProtocol, papProtocol, chapProtocol]
  | .ipcp => [0, ipcpProtocol]
  | .ipv6cp => [0, ipv6cpProtocol]

def PppCcb.protos (s : PppCcb) : PerCp (BitVec 16) := s.slots.map PppSlot.proto

/-- Each slot holds a frame of its own protocol, or none. -/
def Slotted (s : PppCcb) : Prop := ∀ cp, s.protos.get cp ∈ slotProtos cp

theorem protos_of_slots (h : s.slots = t.slots) : s.protos = t.protos := by
  unfold PppCcb.protos
  rw [h]

theorem protos_of_outline (h : s.outline cp = t.outline cp) : s.protos = t.protos := by
  have key : ∀ s : PppCcb, s.protos = (s.outline cp).protos := by
    intro s
    cases cp <;> rfl
  rw [key s, h, ← key t]

theorem slotted_of_slots (hs : Slotted s) (h : t.slots = s.slots) : Slotted t := by
  unfold Slotted
  rw [protos_of_slots h]
  exact hs

theorem slotted_of_outline (hs : Slotted s) (h : t.outline cp = s.outline cp) : Slotted t := by
  unfold Slotted
  rw [protos_of_outline h]
  exact hs

theorem slotted_store (hs : Slotted s) {proto : BitVec 16} (hproto : proto ∈ slotProtos cp)
    (hdr : PppHdr) (opts : List (BitVec 8)) : Slotted (s.store cp proto hdr opts) := by
  intro cp'
  by_cases h : cp' = cp
  · subst h
    have hget : (s.store cp' proto hdr opts).protos.get cp' = proto := by
      cases cp' <;> rfl
    rw [hget]
    exact hproto
  · have hget : (s.store cp proto hdr opts).protos.get cp' = s.protos.get cp' := by
      cases cp <;> cases cp' <;> first | rfl | exact absurd rfl h
    rw [hget]
    exact hs cp'

theorem slotted_select {d : Decoded} (h : Slotted d.ccb) (cp : PppCp) :
    Slotted (d.select cp).ccb := by
  unfold Decoded.select
  split
  · exact h
  · exact h

theorem slotted_decodeLcp (hs : Slotted s) (tim : PppTimerId) : Slotted (decodeLcp tim s).ccb := by
  have hspec := decodeLcp_spec tim s
  generalize decodeLcp tim s = d at hspec
  cases hspec with
  | fail h => exact slotted_of_outline hs h
  | request hev hphase h => exact slotted_of_outline hs h
  | ack hack h => exact slotted_of_outline (s := s.stopTimer tim) hs h
  | termAck hcode h => exact slotted_of_outline (s := s.stopTimer tim) hs h
  | noIpv6 h => exact slotted_of_outline (s := s.ipv6cpStop) hs h
  | other hev h => exact slotted_of_outline hs h

theorem slotted_decodeIpcp (hs : Slotted s) (tim : PppTimerId) : Slotted (decodeIpcp tim s).ccb := by
  have hspec := decodeIpcp_spec tim s
  generalize decodeIpcp tim s = d at hspec
  cases hspec with
  | fail h => exact slotted_of_outline hs h
  | failAck hack hopts h => exact slotted_of_outline (s := s.stopTimer tim) hs h
  | ack hack h => exact slotted_of_outline (s := s.stopTimer tim) hs h
  | termAck hcode h => exact slotted_of_outline (s := s.stopTimer tim) hs h
  | other hev hreq h => exact slotted_of_outline hs h

theorem slotted_decodeIpv6cp (hs : Slotted s) (env : PppEnv) (tim : PppTimerId) :
    Slotted (decodeIpv6cp env tim s).ccb := by
  have hspec := decodeIpv6cp_spec env tim s
  generalize decodeIpv6cp env tim s = d at hspec
  cases hspec with
  | fail h => exact slotted_of_outline hs h
  | closed hcp h =>
      exact slotted_of_slots (slotted_of_outline (s := { s with cpId := .ipv6cp }) hs h)
        (slots_pppFsm env tim .eClose _)
  | ack hack h => exact slotted_of_outline (s := s.stopTimer tim) hs h
  | termAck hcode h => exact slotted_of_outline (s := s.stopTimer tim) hs h
  | other hev hreq h => exact slotted_of_outline hs h

theorem slotted_decodePpp (hs : Slotted s) {r : Decoded} (hr : PppDecoded env payload s r) :
    Slotted r.ccb := by
  cases hr with
  | ignored => exact hs
  | ipcpEarly hproto => exact slotted_store hs (by rw [hproto]; decide) _ _
  | ipv6cpEarly hproto => exact slotted_store hs (by rw [hproto]; decide) _ _
  | ipcp hfits hproto hphase =>
      exact slotted_select (slotted_decodeIpcp (slotted_store hs (by rw [hproto]; decide) _ _) _) _
  | ipv6cp hfits hproto henabled hphase =>
      exact slotted_select
        (slotted_decodeIpv6cp (slotted_store hs (by rw [hproto]; decide) _ _) env _) _
  | lcp hfits hproto =>
      exact slotted_select (slotted_decodeLcp (slotted_store hs (by rw [hproto]; decide) _ _) _) _
  | authStay hphase => exact hs
  | authResult hfits hproto hauth hphase =>
      refine slotted_store hs ?_ _ _
      rcases hauth with rfl | rfl <;> decide
  | papNak hphase => exact slotted_of_slots (s := s) hs (slots_pppFsm env .ppp .eClose _)

theorem slots_checkAuthResult (env : PppEnv) (s : PppCcb) :
    (checkAuthResult env s).2.slots = s.slots := by
  unfold checkAuthResult
  simp only
  split
  · rfl
  · split
    · exact slots_pppFsm env .ppp .eClose _
    · split
      · exact slots_openNcps env s
      · rfl

theorem slotted_pppFinish {r : Decoded} (hr : Slotted r.ccb) : Slotted (pppFinish env r) := by
  have hauth : Slotted (checkAuthResult env r.ccb).2 :=
    slotted_of_slots hr (slots_checkAuthResult env r.ccb)
  have hclean : ∀ t : PppCcb, (codecCleanupPppCcb t).protos = t.protos := fun _ => rfl
  unfold pppFinish
  split
  · exact hauth
  · unfold Slotted
    rw [hclean, protos_of_slots (slots_pppFsm _ _ _ _)]
    exact hauth

theorem slots_decodePppoe (env : PppEnv) (pkt : List (BitVec 8)) (s : PppCcb) :
    (decodePppoe env pkt s).slots = s.slots := by
  unfold decodePppoe
  split
  · split <;> rfl
  · split
    · exact slots_pppFsm env .ppp .eOpen _
    · split
      · unfold recvPadt
        rw [slots_pppBye]
        rfl
      · rfl

theorem slotted_step (mac : BitVec 48) (l : PppLabel) (hs : Slotted s) : Slotted (pppStep mac s l) := by
  by_cases hl : ∃ pkt dns d, l = .recv pkt dns d
  · obtain ⟨pkt, dns, d, rfl⟩ := hl
    have hcame := pppProcess_handled ⟨mac, dns⟩ pkt d s
    show Slotted (pppProcess ⟨mac, dns⟩ pkt d s).2
    generalize (pppProcess ⟨mac, dns⟩ pkt d s).2 = t at hcame
    cases hcame with
    | refused => exact hs
    | dhcp6 => exact slotted_of_slots hs (slots_dhcp6WanInput d s)
    | discovery hlen hmax hdis =>
        refine slotted_of_slots hs ((slots_decodePppoe _ _ _).trans ?_)
        unfold discoveryPhase
        split <;> rfl
    | failed hses hr hst => exact slotted_decodePpp hs hr
    | finished hses hr hst => exact slotted_pppFinish (slotted_decodePpp hs hr)
    | idle => exact slotted_pppFinish hs
  · refine slotted_of_slots hs (slots_pppStep mac s l ?_)
    intro pkt dns d h
    exact hl ⟨pkt, dns, d, h⟩

/-- In every block steps lead to, the slots hold frames of their own protocols. -/
theorem run_slotted {mac : BitVec 48} {rand : Nat → BitVec 32} {guard : PppCcb → PppLabel → Prop}
    {ls : List PppLabel} (h : Run (pppStep mac) guard (pppInit rand) ls s) : Slotted s := by
  refine Run.inv Slotted (fun s l hs _ => slotted_step mac l hs) h ?_
  intro cp
  cases cp <;> exact List.mem_cons_self

/-! ### A session coming up -/

/-- A frame as it comes from the wire, with the access concentrator's address as its source. -/
def wireFrame (proto : BitVec 16) (code : BitVec 8) (sessionId : BitVec 16)
    (payload : List (BitVec 8)) : List (BitVec 8) :=
  List.replicate 6 0 ++ [0x02, 0, 0, 0, 0, 0x0a, 0x81, 0, 0, 1] ++
    [proto.extractLsb' 8 8, proto.extractLsb' 0 8, 0x11, code, sessionId.extractLsb' 8 8,
      sessionId.extractLsb' 0 8, 0, BitVec.ofNat 8 payload.length] ++ payload

/-- A discovery frame received. -/
def recvDiscovery (code : BitVec 8) (sessionId : BitVec 16) : PppLabel :=
  .recv (wireFrame ethPPppDis code sessionId []) .success ⟨false, false, false⟩

/-- A PPP frame of session 1 received: protocol, code, identifier and options. -/
def recvPpp (proto : BitVec 16) (code identifier : BitVec 8) (opts : List (BitVec 8)) : PppLabel :=
  .recv (wireFrame ethPPppSes 0 1
    ([proto.extractLsb' 8 8, proto.extractLsb' 0 8, code, identifier, 0,
      BitVec.ofNat 8 (4 + opts.length)] ++ opts)) .success ⟨false, false, false⟩

/-- A dial up to the first Configure-Request of LCP, with IPv6 enabled. -/
def dialRun : List PppLabel :=
  [.applyConfig false true, .connect, recvDiscovery padoCode 0, recvDiscovery padsCode 1]

/-- The dial goes on: LCP opens, and authentication starts. -/
def lcpRun : List PppLabel := dialRun ++ [recvPpp lcpProtocol 2 1 [], recvPpp lcpProtocol 1 9 []]

/-- The peer accepts, and both network protocols send their first Configure-Request. -/
def ncpRun : List PppLabel := lcpRun ++ [recvPpp papProtocol 2 1 []]

/-- The block a run of labels leads to, on a node with WAN address 1 whose `rand()` gives
zeros. -/
def runOf (ls : List PppLabel) : PppCcb := ls.foldl (pppStep 1) (pppInit fun _ => 0)

theorem run_runOf (ls : List PppLabel) :
    Run (pppStep 1) (fun _ _ => True) (pppInit fun _ => 0) ls (runOf ls) :=
  Run.of_labels _ ls fun _ _ _ => trivial

end FastRG
