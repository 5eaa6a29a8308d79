/-
Distributor mode refines RSS mode, on the WAN port.

As on the LAN port (`LanModes`), the rule for work put off makes of what `WanFrames` says about one
frame a statement about runs.  Here the tables are the same at the end, and nothing is put out of
sight.
-/
import FastRG.Proofs.LanModes
import FastRG.Proofs.WanFrames

namespace FastRG

/-! ### Runs -/

variable {steered : Mbuf → Bool} {env : DpEnv} {node : DpNode} {pkt : Mbuf} {job : Mbuf × Nat}

theorem wanConf_setCcb {ccbId : Nat} {ccb : DpCcb}
    (h : ccb.wanSettings = (node.ccb ccbId).wanSettings) :
    (node.setCcb ccbId ccb).wanConf = node.wanConf := by
  unfold DpNode.wanConf
  rw [setCcb_same h]
  rfl

/-- A job put by for a frame. -/
structure WanStands (conf : WanConf) (pkt : Mbuf) (job : Mbuf × Nat) : Prop where
  subscriber : ∀ node : DpNode, node.wanConf = conf →
    parseL2Hdr node pkt = some (pkt.parsed, job.2)
  fanned : WanFanned conf job.2 pkt.parsed job.1

theorem WanSteering.frame {i40e : Bool} (h : WanSteering i40e steered) (pkt : Mbuf) :
    WanSteered i40e pkt.parsed (steered pkt) :=
  ⟨h.only pkt, h.all pkt⟩

/-- RSS on a frame whose subscriber is known. -/
theorem wanRss_eq {ccbId : Nat} (hparse : parseL2Hdr node pkt = some (pkt.parsed, ccbId)) :
    (wanModes steered).direct env pkt node =
      ((wanRssFrame (steered pkt) env node (node.ccb ccbId) pkt.parsed).1,
        node.setCcb ccbId (wanRssFrame (steered pkt) env node (node.ccb ccbId) pkt.parsed).2) :=
  rssRx_some hparse

/-- `wan_dist_rx` answers as RSS does, or puts the frame by. -/
theorem wanFront_agrees (env : DpEnv) (hcard : WanSteering node.i40e steered)
    (hspeaks : pkt.parsed.SpeaksPpp) :
    (∃ job, (wanModes steered).front env pkt node = (.inr job, node) ∧
      WanStands node.wanConf pkt job) ∨
    (∃ fate, (wanModes steered).front env pkt node =
        (.inl fate, ((wanModes steered).direct env pkt node).2) ∧
      fate.plain = ((wanModes steered).direct env pkt node).1.plain ∧
      ((wanModes steered).direct env pkt node).2.wanConf = node.wanConf) := by
  rcases hparse : parseL2Hdr node pkt with _ | ⟨found, ccbId⟩
  · have hrss : (wanModes steered).direct env pkt node = (.drop .wan, node) := rssRx_none hparse
    rw [hrss]
    exact .inr ⟨.drop .wan, distFront_none hparse, rfl, rfl⟩
  obtain ⟨rfl, -⟩ := parseL2Hdr_some hparse
  have hagree : WanAgrees (steered pkt) env node ccbId pkt.parsed _ :=
    wanDistFrame_agrees env (parsed_received pkt) hspeaks (hcard.frame pkt)
  have hsettings := wanSettings_dist env node (node.ccb ccbId) pkt.parsed
  have hfront : (wanModes steered).front env pkt node =
      ((wanDistFrame env node (node.ccb ccbId) pkt.parsed).1.sorted ccbId,
        node.setCcb ccbId (wanDistFrame env node (node.ccb ccbId) pkt.parsed).2) :=
    distFront_some hparse
  rw [wanRss_eq hparse]
  rcases hagree with ⟨tag, given, hdist, hfanned⟩ | ⟨hsettled, hplain, hccb⟩
  · refine .inl ⟨(given, ccbId), ?_, ?_, hfanned⟩
    · rw [hfront, hdist]
      exact congrArg (Prod.mk _) (setCcb_self node ccbId)
    · intro node' hconf
      rw [parseL2Hdr_congr (congrArg WanConf.userCount hconf)
        (congrArg WanConf.vlanUseridMap hconf), hparse]
  · rw [← hccb]
    refine .inr ⟨(wanDistFrame env node (node.ccb ccbId) pkt.parsed).1, ?_, hplain,
      wanConf_setCcb hsettings⟩
    rw [hfront, hsettled.sorted]

/-- A worker answers as RSS does. -/
theorem wanBack_agrees (env : DpEnv) (hcard : WanSteering node.i40e steered)
    (hjob : WanStands node.wanConf pkt job) :
    (wanModes steered).back env job node = (wanModes steered).direct env pkt node := by
  rw [wanRss_eq (hjob.subscriber node rfl)]
  have hwork := wanWorker_agrees env (parsed_received pkt) (hcard.frame pkt) hjob.fanned
  show ((dpWanDistWorkerProcessPkt env node (node.ccb job.2) job.1).1,
    node.setCcb job.2 (dpWanDistWorkerProcessPkt env node (node.ccb job.2) job.1).2) = _
  rw [hwork]

/-- The two modes match, step by step, as long as the settings stay. -/
theorem wanModes_match (conf : WanConf) (hcard : WanSteering conf.i40e steered) :
    (wanModes steered).Matches Eq (fun s => s.wanConf = conf) (fun pkt => pkt.parsed.SpeaksPpp)
      (WanStands conf) (fun fate fate' => fate.plain = fate'.plain) where
  early := by
    intro env pkt s t fate s' hrel hconf hspeaks hfront
    subst hrel
    subst hconf
    rcases wanFront_agrees env hcard hspeaks with ⟨job, hjob, -⟩ | ⟨fate', hfate, hplain, hkeeps⟩
    · rw [hfront] at hjob
      cases congrArg Prod.fst hjob
    rw [hfront] at hfate
    obtain rfl : fate = fate' := Sum.inl.inj (congrArg Prod.fst hfate)
    have hafter : s' = ((wanModes steered).direct env pkt s).2 := congrArg Prod.snd hfate
    exact ⟨hplain, hafter, hafter ▸ hkeeps⟩
  putBy := by
    intro env pkt s t job s' hrel hconf hspeaks hfront
    subst hrel
    subst hconf
    rcases wanFront_agrees env hcard hspeaks with ⟨job', hjob, hstands⟩ | ⟨fate', hfate, -⟩
    · rw [hfront] at hjob
      obtain rfl : job = job' := Sum.inr.inj (congrArg Prod.fst hjob)
      have hafter : s' = s := congrArg Prod.snd hjob
      exact ⟨hstands, hafter, by rw [hafter]⟩
    · rw [hfront] at hfate
      cases congrArg Prod.fst hfate
  late := by
    intro env pkt job s t hrel hconf _ hstands
    subst hrel
    subst hconf
    have hwork := wanBack_agrees env hcard hstands
    rw [hwork]
    refine ⟨rfl, rfl, ?_⟩
    rw [← hwork]
    exact wanConf_setCcb (wanSettings_worker env s (s.ccb job.2) job.1)
  refl := fun _ => rfl

/-- A card that knows the rules of port 1. -/
def steerSession (pkt : Mbuf) : Bool :=
  decide (pkt.parsed.nextProto = ethPPppSes ∧
    ((pkt.parsed.pppProtocol = pppIpProtocol ∧ isL4 pkt.parsed.sessionIp) ∨
      pkt.parsed.pppProtocol = pppIpv6Protocol))

theorem steerSession_wan : WanSteering false steerSession where
  only := fun pkt h => by
    obtain ⟨hsession, hdata⟩ := of_decide_eq_true h
    exact ⟨hsession, hdata.imp (fun h => ⟨h.1, .inl h.2⟩) id⟩
  all := fun pkt hsession hproto hl4 => decide_eq_true ⟨hsession, .inl ⟨hproto, hl4⟩⟩

/-- UDP from 8.8.8.8, port 443, in a session on VLAN 3. -/
def sessionFrame : Mbuf where
  buf := fun i => (List.replicate 128 0 ++
    [7, 8, 9, 10, 11, 12, 8, 10, 11, 12, 13, 14, 0x81, 0, 0, 3, 0x88, 0x64,
      0x11, 0, 0, 1, 0, 38, 0, 0x21,
      0x45, 0, 0, 36, 0, 0, 0, 0, 64, 17, 0, 0, 8, 8, 8, 8, 192, 168, 100, 10,
      0x01, 0xbb, 3, 232, 0, 16, 0, 0, 1, 2, 3, 4, 5, 6, 7, 8]).getD i 0
  dataOff := 128
  pktLen := 62
  dataLen := 62
  ethHdr := 0
  vlanHdr := 0

/-- Two frames wait, and the worker takes up the second first. -/
def secondFirst : List (PutOff DpNode DpEnv Mbuf) :=
  [.input quietEnv sessionFrame, .input quietEnv sessionFrame, .work quietEnv 1]

end FastRG
