/-
Distributor mode refines RSS mode, on the LAN port.

Whatever `lan_dist_rx` and its workers do with the frames of the LAN, in whatever order the workers
take them up and whatever else goes on in between, `lan_ctrl_rx` and `lan_data_rx` do with the same
frames when each comes as late as it was handled.  `LanFrames` says so frame by frame; what is left
is that nothing but a gate or a table changes, and the rule for work put off.
-/
import FastRG.Proofs.LanFrames

namespace FastRG

/-! ### Nodes -/

theorem setCcb_self (node : DpNode) (ccbId : Nat) : node.setCcb ccbId (node.ccb ccbId) = node := by
  unfold DpNode.setCcb
  rw [Function.update_eq_self]

/-- What is read of the subscribers one by one. -/
theorem setCcb_each {α : Type} (f : DpCcb → α) (node : DpNode) (ccbId : Nat) (ccb : DpCcb) :
    (fun i => f ((node.setCcb ccbId ccb).ccb i)) =
      Function.update (fun i => f (node.ccb i)) ccbId (f ccb) := by
  funext i
  exact Function.apply_update (fun _ => f) node.ccb ccbId ccb i

theorem setCcb_same {α : Type} {f : DpCcb → α} {node : DpNode} {ccbId : Nat} {ccb : DpCcb}
    (h : f ccb = f (node.ccb ccbId)) :
    (fun i => f ((node.setCcb ccbId ccb).ccb i)) = fun i => f (node.ccb i) := by
  rw [setCcb_each, h]
  exact Function.update_eq_self ccbId _

theorem forgetMacs_setCcb (node : DpNode) (ccbId : Nat) (ccb : DpCcb) :
    (node.setCcb ccbId ccb).forgetMacs = node.forgetMacs.setCcb ccbId ccb.forgetMacs := by
  unfold DpNode.forgetMacs
  rw [setCcb_each]
  rfl

theorem lanConf_setCcb {node : DpNode} {ccbId : Nat} {ccb : DpCcb}
    (h : ccb.lanSettings = (node.ccb ccbId).lanSettings) :
    (node.setCcb ccbId ccb).lanConf = node.lanConf := by
  unfold DpNode.lanConf
  rw [setCcb_same h]
  rfl

theorem forgetMacs_twice (node : DpNode) : node.forgetMacs.forgetMacs = node.forgetMacs := rfl

theorem forgetMacs_ccb {node : DpNode} (h : node.forgetMacs = node) (ccbId : Nat) :
    (node.ccb ccbId).forgetMacs = node.ccb ccbId :=
  congrFun (congrArg DpNode.ccb h) ccbId

/-! ### One packet -/

/-- What `distFront` makes of an answer. -/
def DpFate.sorted (ccbId : Nat) : DpFate → DpFate ⊕ Mbuf × Nat
  | .worker _ pkt => .inr (pkt, ccbId)
  | fate => .inl fate

theorem DpFate.Settled.sorted {fate : DpFate} (h : fate.Settled) (ccbId : Nat) :
    fate.sorted ccbId = .inl fate := by
  cases fate with
  | worker tag pkt => exact False.elim h
  | _ => rfl

section rx

variable {frame data ctrl : DpEnv → DpNode → DpCcb → Mbuf → DpFate × DpCcb} {port : Port}
  {steered : Mbuf → Bool} {env : DpEnv} {node : DpNode} {pkt found : Mbuf} {ccbId : Nat}

theorem distFront_none (hparse : parseL2Hdr node pkt = none) :
    distFront (rxPkt port frame) env pkt node = (.inl (.drop port), node) := by
  unfold distFront rxPkt
  rw [hparse]

theorem distFront_some (hparse : parseL2Hdr node pkt = some (found, ccbId)) :
    distFront (rxPkt port frame) env pkt node =
      ((frame env node (node.ccb ccbId) found).1.sorted ccbId,
        node.setCcb ccbId (frame env node (node.ccb ccbId) found).2) := by
  unfold distFront rxPkt
  simp only [hparse]
  rcases frame env node (node.ccb ccbId) found with ⟨fate, ccb⟩
  cases fate with
  | _ => rfl

theorem rssRx_none (hparse : parseL2Hdr node pkt = none) :
    rssRx steered (rxPkt port data) (rxPkt port ctrl) env pkt node = (.drop port, node) := by
  unfold rssRx rxPkt
  rw [hparse]
  simp only [ite_self]

theorem rssRx_some (hparse : parseL2Hdr node pkt = some (found, ccbId)) :
    rssRx steered (rxPkt port data) (rxPkt port ctrl) env pkt node =
      (((if steered pkt then data else ctrl) env node (node.ccb ccbId) found).1,
        node.setCcb ccbId
          ((if steered pkt then data else ctrl) env node (node.ccb ccbId) found).2) := by
  unfold rssRx rxPkt
  rw [hparse]
  cases steered pkt with
  | false => rfl
  | true => rfl

end rx

/-- What is blind for a subscriber is blind for the node. -/
structure NodeBlind {α : Type} (g : DpNode → α × DpNode) : Prop where
  blind : ∀ node, g node.forgetMacs = ((g node).1, (g node).2.forgetMacs)
  keeps : ∀ node, (g node).2.lanConf = node.lanConf

theorem nodeBlind_frame {α : Type} {g : DpNode → α × DpNode} {pkt : Mbuf} {drop : α}
    (out : Nat → DpFate → α) (act : DpNode → DpCcb → Mbuf → DpFate × DpCcb)
    (hnone : ∀ node, parseL2Hdr node pkt = none → g node = (drop, node))
    (hsome : ∀ node found ccbId, parseL2Hdr node pkt = some (found, ccbId) →
      g node = (out ccbId (act node (node.ccb ccbId) found).1,
        node.setCcb ccbId (act node (node.ccb ccbId) found).2))
    (hshell : ∀ node : DpNode, act node.forgetMacs = act node)
    (hblind : ∀ node pkt, MacBlind fun ccb => act node ccb pkt) : NodeBlind g := by
  suffices hboth : ∀ node : DpNode, g node.forgetMacs = ((g node).1, (g node).2.forgetMacs) ∧
      (g node).2.lanConf = node.lanConf from
    ⟨fun node => (hboth node).1, fun node => (hboth node).2⟩
  intro node
  rcases hparse : parseL2Hdr node pkt with _ | ⟨found, ccbId⟩
  · rw [hnone node hparse, hnone node.forgetMacs hparse]
    exact ⟨rfl, rfl⟩
  · have hact : act node.forgetMacs (node.forgetMacs.ccb ccbId) found =
        ((act node (node.ccb ccbId) found).1, (act node (node.ccb ccbId) found).2.forgetMacs) := by
      rw [hshell]
      exact (hblind node found).blind (node.ccb ccbId)
    rw [hsome node found ccbId hparse, hsome node.forgetMacs found ccbId hparse, hact,
      ← forgetMacs_setCcb]
    exact ⟨rfl, lanConf_setCcb ((hblind node found).keeps (node.ccb ccbId))⟩

theorem nodeBlind_lanRss (steered : Mbuf → Bool) (env : DpEnv) (pkt : Mbuf) :
    NodeBlind ((lanModes steered).direct env pkt) := by
  have hframe : (∀ node : DpNode, lanRssFrame (steered pkt) env node.forgetMacs =
        lanRssFrame (steered pkt) env node) ∧
      ∀ node found, MacBlind fun ccb => lanRssFrame (steered pkt) env node ccb found := by
    cases steered pkt with
    | false => exact ⟨fun _ => rfl, fun _ _ => macBlind_lanCtrlFrame⟩
    | true => exact ⟨fun _ => rfl, fun _ _ => macBlind_lanDataFrame⟩
  exact nodeBlind_frame (fun _ fate => fate) (lanRssFrame (steered pkt) env)
    (fun _ => rssRx_none) (fun _ _ _ => rssRx_some) hframe.1 hframe.2

theorem nodeBlind_lanDist (steered : Mbuf → Bool) (env : DpEnv) (pkt : Mbuf) :
    NodeBlind ((lanModes steered).front env pkt) :=
  nodeBlind_frame DpFate.sorted (lanDistFrame env) (fun _ => distFront_none)
    (fun _ _ _ => distFront_some) (fun _ => rfl) fun _ _ => macBlind_lanDistFrame

theorem nodeBlind_worker (steered : Mbuf → Bool) (env : DpEnv) (job : Mbuf × Nat) :
    NodeBlind ((lanModes steered).back env job) := by
  refine ⟨fun node => ?_, fun node => ?_⟩
  · show ((dpLanDistWorkerProcessPkt env node.forgetMacs (node.ccb job.2).forgetMacs job.1).1,
      node.forgetMacs.setCcb job.2
        (dpLanDistWorkerProcessPkt env node.forgetMacs (node.ccb job.2).forgetMacs job.1).2) =
      ((dpLanDistWorkerProcessPkt env node (node.ccb job.2) job.1).1,
        (node.setCcb job.2
          (dpLanDistWorkerProcessPkt env node (node.ccb job.2) job.1).2).forgetMacs)
    have hblind : dpLanDistWorkerProcessPkt env node.forgetMacs (node.ccb job.2).forgetMacs job.1 =
        ((dpLanDistWorkerProcessPkt env node (node.ccb job.2) job.1).1,
          (dpLanDistWorkerProcessPkt env node (node.ccb job.2) job.1).2.forgetMacs) :=
      macBlind_worker.blind (node.ccb job.2)
    rw [hblind, forgetMacs_setCcb]
  · exact lanConf_setCcb (macBlind_worker.keeps (node.ccb job.2))

/-! ### Parsing -/

theorem parseL2Hdr_some {node : DpNode} {pkt found : Mbuf} {ccbId : Nat}
    (h : parseL2Hdr node pkt = some (found, ccbId)) :
    found = pkt.parsed ∧ pkt.buf.be16 (pkt.dataOff.toNat + 12) = vlanProto := by
  unfold parseL2Hdr at h
  simp only at h
  split at h
  · cases h
  rename_i htag
  split at h
  · cases h
  split at h
  · cases h
  cases h
  exact ⟨rfl, not_not.mp htag⟩

theorem parseL2Hdr_congr {node node' : DpNode} (hcount : node.userCount = node'.userCount)
    (hmap : node.vlanUseridMap = node'.vlanUseridMap) (pkt : Mbuf) :
    parseL2Hdr node pkt = parseL2Hdr node' pkt := by
  unfold parseL2Hdr
  rw [hcount, hmap]

theorem parsed_received (pkt : Mbuf) : pkt.parsed.Received := ⟨rfl, rfl⟩

theorem parsed_roomy {pkt : Mbuf} (h : pkt.Roomy) : pkt.parsed.Roomy :=
  ⟨h.front, h.back, h.oneSegment⟩

/-! ### One step -/

variable {steered : Mbuf → Bool} {env : DpEnv} {node : DpNode} {pkt : Mbuf} {job : Mbuf × Nat}

/-- A job put by for a frame. -/
structure LanStands (conf : LanConf) (pkt : Mbuf) (job : Mbuf × Nat) : Prop where
  packet : job.1 = pkt.parsed
  subscriber : ∀ node : DpNode, node.lanConf = conf →
    parseL2Hdr node pkt = some (pkt.parsed, job.2)
  fanned : LanFanned conf job.2 pkt.parsed

theorem LanSteering.frame (h : LanSteering steered) (pkt : Mbuf) :
    LanSteered pkt.parsed (steered pkt) :=
  ⟨h.only pkt, h.all pkt⟩

/-- RSS on a frame whose subscriber is known. -/
theorem lanRss_eq {ccbId : Nat} (hparse : parseL2Hdr node pkt = some (pkt.parsed, ccbId)) :
    (lanModes steered).direct env pkt node =
      ((lanRssFrame (steered pkt) env node (node.ccb ccbId) pkt.parsed).1,
        node.setCcb ccbId (lanRssFrame (steered pkt) env node (node.ccb ccbId) pkt.parsed).2) :=
  rssRx_some hparse

/-- Nodes without the table: `lan_dist_rx` answers as RSS does, or puts the frame by. -/
theorem front_agrees (env : DpEnv) (hcard : LanSteering steered) (hnode : node.forgetMacs = node)
    (hroom : pkt.Roomy) :
    (∃ job, (lanModes steered).front env pkt node = (.inr job, node) ∧
      LanStands node.lanConf pkt job) ∨
    (∃ fate, (lanModes steered).front env pkt node =
        (.inl fate, ((lanModes steered).direct env pkt node).2) ∧
      fate.plain = ((lanModes steered).direct env pkt node).1.plain) := by
  rcases hparse : parseL2Hdr node pkt with _ | ⟨found, ccbId⟩
  · have hrss : (lanModes steered).direct env pkt node = (.drop .lan, node) := rssRx_none hparse
    rw [hrss]
    exact .inr ⟨.drop .lan, distFront_none hparse, rfl⟩
  obtain ⟨rfl, htag⟩ := parseL2Hdr_some hparse
  have hfront : (lanModes steered).front env pkt node =
      ((lanDistFrame env node (node.ccb ccbId) pkt.parsed).1.sorted ccbId,
        node.setCcb ccbId (lanDistFrame env node (node.ccb ccbId) pkt.parsed).2) :=
    distFront_some hparse
  rw [lanRss_eq hparse]
  rcases lanDistFrame_agrees env (parsed_received pkt) (parsed_roomy hroom) htag
    (forgetMacs_ccb hnode ccbId) (hcard.frame pkt) with
    ⟨tag, hdist, hfanned⟩ | ⟨hsettled, hplain, hccb⟩
  · refine .inl ⟨(pkt.parsed, ccbId), ?_, rfl, ?_, hfanned⟩
    · rw [hfront, hdist]
      exact congrArg (Prod.mk _) (setCcb_self node ccbId)
    · intro node' hconf
      rw [parseL2Hdr_congr (congrArg LanConf.userCount hconf)
        (congrArg LanConf.vlanUseridMap hconf), hparse]
  · refine .inr ⟨(lanDistFrame env node (node.ccb ccbId) pkt.parsed).1, ?_, hplain⟩
    rw [hfront, ← hccb, hsettled.sorted]

/-- A worker answers as RSS does. -/
theorem back_agrees (env : DpEnv) (hcard : LanSteering steered) (hnode : node.forgetMacs = node)
    (hjob : LanStands node.lanConf pkt job) :
    ((lanModes steered).back env job node).1.plain =
        ((lanModes steered).direct env pkt node).1.plain ∧
      ((lanModes steered).back env job node).2 = ((lanModes steered).direct env pkt node).2 := by
  rw [lanRss_eq (hjob.subscriber node rfl)]
  obtain ⟨hplain, hccb⟩ := worker_agrees env (forgetMacs_ccb hnode job.2)
    (hcard.frame pkt) hjob.fanned
  show (dpLanDistWorkerProcessPkt env node (node.ccb job.2) job.1).1.plain = _ ∧
    node.setCcb job.2 (dpLanDistWorkerProcessPkt env node (node.ccb job.2) job.1).2 = _
  rw [hjob.packet, hplain, hccb]
  exact ⟨rfl, rfl⟩

/-! ### Runs -/

/-- The two modes match, step by step, as long as the settings stay. -/
theorem lanModes_match (hcard : LanSteering steered) (conf : LanConf) :
    (lanModes steered).Matches (fun s t => s.forgetMacs = t.forgetMacs)
      (fun s => s.lanConf = conf) Mbuf.Roomy (LanStands conf)
      (fun fate fate' => fate.plain = fate'.plain) where
  early := by
    intro env pkt s t fate s' hrel hconf hroom hfront
    have hdist := (nodeBlind_lanDist steered env pkt).blind s
    have hrss := (nodeBlind_lanRss steered env pkt).blind t
    rw [hfront] at hdist
    have hkept := (nodeBlind_lanDist steered env pkt).keeps s
    rw [hfront] at hkept
    rcases front_agrees env hcard (forgetMacs_twice s) hroom with
      ⟨job, hjob, -⟩ | ⟨fate', hfate, hplain⟩
    · rw [hdist] at hjob
      cases congrArg Prod.fst hjob
    rw [hdist] at hfate
    obtain rfl : fate = fate' := Sum.inl.inj (congrArg Prod.fst hfate)
    have hafter := congrArg Prod.snd hfate
    rw [hrel, hrss] at hafter hplain
    exact ⟨hplain, hafter, hkept.trans hconf⟩
  putBy := by
    intro env pkt s t job s' hrel hconf hroom hfront
    have hdist := (nodeBlind_lanDist steered env pkt).blind s
    rw [hfront] at hdist
    have hkept := (nodeBlind_lanDist steered env pkt).keeps s
    rw [hfront] at hkept
    rcases front_agrees env hcard (forgetMacs_twice s) hroom with
      ⟨job', hjob, hstands⟩ | ⟨fate', hfate, -⟩
    · rw [hdist] at hjob
      obtain rfl : job = job' := Sum.inr.inj (congrArg Prod.fst hjob)
      have hafter : s'.forgetMacs = s.forgetMacs := congrArg Prod.snd hjob
      have hconf' : s.forgetMacs.lanConf = conf := hconf
      rw [hconf'] at hstands
      exact ⟨hstands, hafter.trans hrel, hkept.trans hconf⟩
    · rw [hdist] at hfate
      cases congrArg Prod.fst hfate
  late := by
    intro env pkt job s t hrel hconf _ hstands
    have hwork := (nodeBlind_worker steered env job).blind s
    have hrss := (nodeBlind_lanRss steered env pkt).blind t
    have hkept := (nodeBlind_worker steered env job).keeps s
    have hconf' : s.forgetMacs.lanConf = conf := hconf
    obtain ⟨hplain, hafter⟩ := back_agrees env hcard (forgetMacs_twice s)
      (hconf'.symm ▸ hstands)
    rw [hwork, hrel, hrss] at hplain hafter
    exact ⟨hplain, hafter, hkept.trans hconf⟩
  refl := fun _ => rfl

/-- A card that knows the rules for IPv6 too. -/
def steerAll (pkt : Mbuf) : Bool :=
  decide (pkt.parsed.nextProto = frameTypeIp ∧ isL4 pkt.parsed.ip) ||
    decide (pkt.parsed.nextProto = frameTypeIpv6)

theorem steerAll_lan : LanSteering steerAll where
  only := fun pkt h => by simpa [steerAll] using h
  all := fun pkt hip hl4 => by simp [steerAll, hip, hl4]

/-- A subscriber online. -/
def onlineCcb : DpCcb where
  nat := natTableInit natBlank
  firewall := ipv6FirewallTableInit ipv6FirewallBlank
  macTable := some ⟨∅, 0⟩
  nd6Table := Nd6Table.alloc 16
  nd6MissLastCycles := 0
  pppBool := true
  dpStartBool := true
  ipv6DpBool := true
  ipv6Enabled := true
  vlanId := 3
  hsiIpv4 := 0x0a64a8c0
  hsiIpv6LanPrefix := 0x20010db800010000
  pppDstMac := 0x0e0d0c0b0a08
  sessionId := 0x0100
  dhcpBool := true
  dhcpServerIp := 0x0101a8c0
  subnetMask := 0x00ffffff
  dnsProxyEnabled := true

/-- A node with one subscriber, on VLAN 3. -/
def onlineNode : DpNode where
  hsiLanMac := 0x060504030201
  hsiWanSrcMac := 0x0c0b0a090807
  i40e := false
  userCount := 1
  vlanUseridMap := fun i => if i = 2 then 0 else 1
  ccb := fun _ => onlineCcb

/-- UDP from 192.168.1.5 to 8.8.8.8, on VLAN 3, to the node. -/
def udpFrame : Mbuf where
  buf := fun i => (List.replicate 128 0 ++
    [1, 2, 3, 4, 5, 6, 2, 0, 0, 0, 0, 5, 0x81, 0, 0, 3, 0x08, 0,
      0x45, 0, 0, 36, 0, 0, 0, 0, 64, 17, 0, 0, 192, 168, 1, 5, 8, 8, 8, 8,
      0x30, 0x39, 0x01, 0xbb, 0, 16, 0, 0, 1, 2, 3, 4, 5, 6, 7, 8]).getD i 0
  dataOff := 128
  pktLen := 54
  dataLen := 54
  ethHdr := 0
  vlanHdr := 0

/-- Checksums and chances of no consequence. -/
def quietEnv : DpEnv where
  hz := 1000
  now := 5
  crc := fun _ h => h
  crc1byte := fun _ h => h
  rte := ⟨fun _ => 0, fun _ _ => 0⟩
  rteRawCksum := fun _ _ => 0
  icmp6Cksum := fun _ _ _ => 0
  natChances := fun _ => ⟨⟨0, 0, 0⟩, true, true⟩
  firewallChance := ⟨0, 0, true⟩
  macRoom := true
  alloc := none
  exchanged := true

/-- A frame goes to a worker, the gate closes, and the worker takes it up. -/
def gateCloses : List (PutOff DpNode DpEnv Mbuf) :=
  [.input quietEnv udpFrame,
    .other { onlineNode with ccb := fun _ => { onlineCcb with dpStartBool := false } },
    .work quietEnv 0]

end FastRG
