/-
The gates of every session of a node.

Configurations come and go while sessions run, and `apply_hsi_config` shuts both gates of a slot
while it works on it and puts back what it found.  A new configuration finds a slot at rest, since
one in progress is turned away, so what it puts back is shut; an update leaves the session alone.
-/
import FastRG.Proofs.PppGateFrames
import FastRG.Proofs.VlanMap

namespace FastRG

/-- What the gates of a session promise: data flows only in `DATA_PHASE` over an LCP and an IPCP
that are open, with a session number and an address, and a session that has come anywhere was
asked for and has not ended. -/
structure GatesSound (s : PppCcb) : Prop where
  data : s.dpStartBool = true → s.phase = dataPhase ∧ s.state .lcp = .sOpened ∧
    s.state .ipcp = .sOpened ∧ s.sessionId ≠ 0 ∧ s.params.hsiIpv4 ≠ 0
  dialed : endPhase < s.phase → s.phase ≤ dataPhase → s.pppBool = true

/-- The gates are sound, and the slots hold frames of their own protocols. -/
structure GatesInv (s : PppCcb) : Prop where
  slotted : Slotted s
  sound : s.gates.Sound

theorem GatesInv.gatesSound {s : PppCcb} (h : GatesInv s) : GatesSound s := by
  rcases h.sound with hrest | hlive
  · refine ⟨fun ho => ?_, fun hpast hdata => ?_⟩
    · have hshut := hrest.dpStartBool
      rw [show s.gates.dpStartBool = true from ho] at hshut
      cases hshut
    · have hphase : s.phase = endPhase ∨ s.phase = notConfigured := idlePhase_cases hrest.phase
      rcases hphase with hp | hp
      · rw [hp] at hpast
        exact absurd hpast (Nat.lt_irrefl _)
      · rw [hp] at hdata
        exact absurd hdata (by decide)
  · refine ⟨fun ho => ?_, fun _ _ => hlive.pppBool⟩
    obtain ⟨hphase, hlcp, hipcp, hsid⟩ := hlive.opened ho
    refine ⟨hphase, hlcp, hipcp, hsid, hlive.addressed ?_⟩
    unfold PppGates.acked
    rw [hipcp]

theorem gatesInv_pppStep (mac : BitVec 48) {s : PppCcb} (h : GatesInv s) {l : PppLabel}
    (hl : l.ofSession = true) (hsafe : l.gateSafe s) : GatesInv (pppStep mac s l) :=
  ⟨slotted_step mac l h.slotted, sound_pppStep mac h.sound h.slotted hl hsafe⟩

namespace Node

variable {mac : BitVec 48} {s : Node} {c : Nat}

/-- The sessions of all slots. -/
def AllGates (s : Node) : Prop := ∀ c, GatesInv (s.subs c).ppp

theorem allGates_update {t : Node} {u : Subscriber} (h : AllGates s)
    (hsubs : t.subs = Function.update s.subs c u) (hu : GatesInv u.ppp) : AllGates t := by
  intro d
  rw [hsubs]
  by_cases hd : d = c
  · rw [hd, Function.update_self]
    exact hu
  · rw [Function.update_of_ne hd]
    exact h d

theorem allGates_of_subs {t : Node} (h : AllGates s) (hsubs : t.subs = s.subs) : AllGates t := by
  intro d
  rw [hsubs]
  exact h d

/-! ### Configurations -/

/-- A slot at rest that is set up, or cleaned up, is at rest. -/
theorem gatesInv_init {u : PppCcb} (h : Slotted u) (hrest : u.gates.AtRest) (hasVlan : Bool) :
    GatesInv (pppInitConfigByUser hasVlan u) := by
  refine ⟨h, Or.inl ⟨rfl, rfl, hrest.sessionId, rfl, rfl, ?_⟩⟩
  cases hasVlan <;> rfl

/-- The session's part of a configuration, with the gates put back. -/
theorem gatesInv_sessionSub (h : GatesInv (s.subs c).ppp) (config : HsiConfig) (p : HsiParsed)
    {isUpdate : Bool} (hact : alreadyActive (s.subs c) isUpdate = false) (dhcpBool : Bool) :
    GatesInv ((s.sessionSub c config p isUpdate).setGates (s.subs c).ppp.pppBool
      (s.subs c).ppp.dpStartBool dhcpBool).ppp := by
  have hshut : ((s.shut c).subs c).ppp =
      { (s.subs c).ppp with pppBool := false, dpStartBool := false } := by
    simp [shut, Subscriber.setGates]
  unfold sessionSub
  by_cases hnew : appliedAsNew (s.subs c) isUpdate
  · rw [if_pos hnew]
    -- a session in progress is no new one, and it is configured
    have hrest : (s.subs c).ppp.gates.AtRest := by
      rcases h.sound with hrest | hlive
      · exact hrest
      · rcases hnew with hup | hphase
        · rw [hup] at hact
          have hon : (s.subs c).ppp.pppBool = true := hlive.pppBool
          simp [alreadyActive, hon] at hact
        · have hle : (s.subs c).ppp.phase ≤ dataPhase := hlive.phase
          rw [hphase] at hle
          exact absurd hle (by decide)
    have hoff : (s.subs c).ppp.pppBool = false := hrest.pppBool
    have hdp : (s.subs c).ppp.dpStartBool = false := hrest.dpStartBool
    rw [hoff, hdp]
    have hinit := gatesInv_init (u := ((s.shut c).subs c).ppp) (by rw [hshut]; exact h.slotted)
      (by rw [hshut]; exact ⟨rfl, rfl, hrest.sessionId, hrest.lcp, hrest.ipcp, hrest.phase⟩)
      (decide (p.vlanId ≠ 0))
    exact ⟨hinit.slotted, hinit.sound⟩
  · rw [if_neg hnew]
    show GatesInv { ((s.shut c).subs c).ppp with
      pppBool := (s.subs c).ppp.pppBool, dpStartBool := (s.subs c).ppp.dpStartBool }
    rw [hshut]
    exact h

theorem allGates_apply (h : AllGates s) (env : ApplyEnv) (c : Nat) (config : HsiConfig)
    (isUpdate : Bool) : AllGates (s.applyHsiConfig env c config isUpdate).2 := by
  by_cases happ : ∃ p, Applies env s c config isUpdate p
  · obtain ⟨p, hp⟩ := happ
    rcases hp.cases with ⟨hsubs, _⟩ | ⟨_, _, hsubs⟩
    · exact allGates_of_subs h hsubs
    · have hses := gatesInv_sessionSub (h c) config p hp.inactive (s.subs c).dhcp.dhcpBool
      rcases hsubs with hsubs | hsubs
      · exact allGates_update h hsubs hses
      · exact allGates_update h hsubs ⟨hses.slotted, hses.sound⟩
  · rw [applyHsiConfig_not_applies fun p hp => happ ⟨p, hp⟩]
    exact h

/-- A slot at rest that is cleaned up, whether or not there was room for the defaults. -/
theorem gatesInv_cleanup {u : Subscriber} (h : GatesInv u.ppp) (hrest : u.ppp.gates.AtRest)
    (alloc : Bool) : GatesInv (u.cleanupConfig alloc).ppp := by
  cases alloc with
  | false => exact h
  | true => exact gatesInv_init h.slotted hrest false

theorem allGates_remove (h : AllGates s) (alloc : Bool) (c : Nat) :
    AllGates (s.removeHsiConfig alloc c).2 := by
  unfold removeHsiConfig
  simp only
  split
  · exact h
  · split
    · exact h
    · split
      · exact h
      · rename_i hppp
        split
        · exact h
        · have hrest : (s.subs c).ppp.gates.AtRest := by
            rcases (h c).sound with hrest | hlive
            · exact hrest
            · exact absurd hlive.pppBool hppp
          rw [resetVlanMapCcbId_eq]
          exact allGates_update h rfl (gatesInv_cleanup (h c) hrest alloc)

theorem allGates_pppdDisable (h : AllGates s) (alloc : Bool) (c : Nat) :
    AllGates (s.pppdDisable alloc c) := by
  have hexit : GatesInv (s.subs c).ppp.exitPpp :=
    ⟨(h c).slotted, Or.inl PppGates.atRest_finished⟩
  have hclean := gatesInv_cleanup (u := { s.subs c with ppp := (s.subs c).ppp.exitPpp }) hexit
    PppGates.atRest_finished alloc
  have hsubs : (s.pppdDisable alloc c).subs = Function.update s.subs c
      (({ s.subs c with ppp := (s.subs c).ppp.exitPpp } : Subscriber).cleanupConfig alloc) := by
    unfold pppdDisable
    simp only [resetVlanMapCcbId_eq]
    simp [modSub]
  exact allGates_update h hsubs hclean

theorem allGates_userCount (h : AllGates s) (alloc : Nat → Bool) (userCount : Int) :
    AllGates (s.userCountChangedCallback alloc userCount .update).2 := by
  have hppp : ∀ (l : List Nat) (t : Node), AllGates t →
      AllGates (l.foldl (fun t c => t.pppdDisable (alloc c) c) t) := by
    intro l
    induction l with
    | nil => exact fun t ht => ht
    | cons c rest ih => exact fun t ht => ih _ (allGates_pppdDisable ht (alloc c) c)
  have hdhcp : ∀ (l : List Nat) (t : Node), AllGates t → AllGates (l.foldl dhcpdDisable t) := by
    intro l
    induction l with
    | nil => exact fun t ht => ht
    | cons c rest ih =>
        intro t ht
        refine ih _ (allGates_update ht rfl ?_)
        exact ht c
  unfold userCountChangedCallback
  simp only
  split
  · exact h
  · split
    · exact h
    · exact hdhcp _ _ (hppp _ _ (allGates_of_subs h rfl))

/-! ### Sessions -/

theorem allGates_sessionStep (h : AllGates s) (mac : BitVec 48) {l : PppLabel}
    (hl : l.ofSession = true) (hsafe : l.gateSafe (s.subs c).ppp) :
    AllGates (s.sessionStep mac c l) :=
  allGates_update h rfl (gatesInv_pppStep mac (h c) hl hsafe)

theorem allGates_command (h : AllGates s) (mac : BitVec 48) (c : Nat) (cmd : NorthboundCmd) :
    AllGates (s.execute mac c cmd) := by
  have hstep : ∀ l : PppLabel, l.ofSession = true → l.gateSafe (s.subs c).ppp →
      AllGates (s.sessionStep mac c l) := fun l hl hsafe => allGates_sessionStep h mac hl hsafe
  unfold execute
  by_cases hcount : s.userCount ≤ c
  · rw [if_pos hcount]
    exact h
  · rw [if_neg hcount]
    cases cmd with
    | pppoeEnable => exact hstep .connect rfl trivial
    | pppoeDisable => exact hstep .disconnect rfl trivial
    | pppoeForceDisable => exact hstep .forceDisable rfl trivial
    | ipv6Changed => exact hstep .ipv6Changed rfl trivial
    | dhcpEnable => exact allGates_update h rfl (h c)
    | dhcpDisable => exact allGates_update h rfl (h c)

/-- What a step is asked for: a frame is one the gates of its session can bear. -/
def GateSafe (s : Node) : NodeLabel → Prop
  | .frame vlanId pkt _ _ => ∀ c, s.ccbOfVlan vlanId = some c → FrameSafe pkt (s.subs c).ppp
  | _ => True

instance (s : Node) (l : NodeLabel) : Decidable (GateSafe s l) :=
  match l with
  | .frame vlanId pkt _ _ =>
      match h : s.ccbOfVlan vlanId with
      | none => isTrue fun c hc => by rw [h] at hc; cases hc
      | some c => decidable_of_iff (FrameSafe pkt (s.subs c).ppp)
          ⟨fun hs d hd => by rw [h] at hd; cases hd; exact hs, fun hs => hs c h⟩
  | .apply _ _ _ _ | .remove _ _ | .userCount _ _ | .command _ _ | .timer _ _ => isTrue trivial

theorem allGates_step (h : AllGates s) (mac : BitVec 48) {l : NodeLabel} (hl : GateSafe s l) :
    AllGates (s.nodeStep mac l) := by
  cases l with
  | apply env c config isUpdate => exact allGates_apply h env c config isUpdate
  | remove alloc c => exact allGates_remove h alloc c
  | userCount alloc userCount => exact allGates_userCount h alloc userCount
  | command c cmd => exact allGates_command h mac c cmd
  | timer c tim =>
      refine allGates_sessionStep h mac ?_ ?_
      · cases tim <;> rfl
      · cases tim <;> exact trivial
  | frame vlanId pkt dns d =>
      unfold nodeStep
      simp only
      cases hccb : s.ccbOfVlan vlanId with
      | none => exact h
      | some c => exact allGates_sessionStep h mac rfl (hl c hccb)

theorem allGates_startUp (maxUserCount : Nat) (rand : Nat → Nat → BitVec 32) :
    AllGates (startUp maxUserCount rand) := by
  intro c
  refine ⟨?_, Or.inl ⟨rfl, rfl, rfl, rfl, rfl, rfl⟩⟩
  intro cp
  cases cp <;> exact List.mem_cons_self

/--
**Sound gates.** In every run from start-up, in any order of configurations, commands, timers and
frames, in which no frame is a PADS for a session nobody asked for, the success of an
authentication over an LCP that is not open, or an answer that leaves IPCP without an address, the
data plane of every session is open only in `DATA_PHASE`, with LCP and IPCP open, a session number
and an address, and a session in any phase past `END_PHASE` has `ppp_bool` set.
-/
theorem run_gates_sound (mac : BitVec 48) (maxUserCount : Nat) (rand : Nat → Nat → BitVec 32)
    (ls : List NodeLabel) (s : Node)
    (h : Run (nodeStep mac) GateSafe (startUp maxUserCount rand) ls s) (c : Nat) :
    GatesSound (s.subs c).ppp := by
  have hinv : AllGates s :=
    h.inv AllGates (fun _ _ hs hl => allGates_step hs mac hl) (allGates_startUp maxUserCount rand)
  exact (hinv c).gatesSound

/-! ### A session coming up on a node -/

/-- The node gets its first subscriber, who gets a configuration. -/
def configureLabels : List NodeLabel :=
  [.userCount (fun _ => true) 1, .apply ⟨true, true⟩ 0 plainConfig false]

/-- The node that leads to. -/
def configuredNode : Node :=
  oneSubscriber.withSub 0 (oneSubscriber.appliedSub 0 plainConfig plainParsed false)
    (oneSubscriber.appliedMap 0 plainParsed false)

theorem foldl_configureLabels :
    configureLabels.foldl (nodeStep 0) (startUp 1 fun _ _ => 0) = configuredNode := by
  have hfirst : (startUp 1 fun _ _ => 0).nodeStep 0 (.userCount (fun _ => true) 1) = oneSubscriber :=
    rfl
  have hsecond := plainConfig_applies.eq_of_success plainConfig_applied
  show nodeStep 0 (nodeStep 0 (startUp 1 fun _ _ => 0) (.userCount (fun _ => true) 1))
    (.apply ⟨true, true⟩ 0 plainConfig false) = configuredNode
  rw [hfirst]
  exact hsecond

theorem run_configureLabels {guard : Node → NodeLabel → Prop}
    (hg : ∀ s, ∀ l ∈ configureLabels, guard s l) :
    Run (nodeStep 0) guard (startUp 1 fun _ _ => 0) configureLabels configuredNode := by
  rw [← foldl_configureLabels]
  exact Run.of_labels _ _ hg

/-- A frame on the VLAN of the subscriber. -/
def onVlan (pkt : List (BitVec 8)) : NodeLabel := .frame 100 pkt .success ⟨false, false, false⟩

/-- A PPP frame of session 1 on the VLAN of the subscriber. -/
def pppOnVlan (proto : BitVec 16) (code identifier : BitVec 8) (opts : List (BitVec 8)) : NodeLabel :=
  onVlan (wireFrame ethPPppSes 0 1 ([proto.extractLsb' 8 8, proto.extractLsb' 0 8, code, identifier, 0,
    BitVec.ofNat 8 (4 + opts.length)] ++ opts))

/-- The subscriber dials, and the session comes up with the address 10.0.0.5. -/
def dialLabels : List NodeLabel :=
  [.command 0 .pppoeEnable, onVlan (wireFrame ethPPppDis padoCode 0 []),
    onVlan (wireFrame ethPPppDis padsCode 1 []), pppOnVlan lcpProtocol 2 1 [],
    pppOnVlan lcpProtocol 1 9 [], pppOnVlan papProtocol 2 1 [],
    pppOnVlan ipcpProtocol 3 1 [3, 6, 10, 0, 0, 5], pppOnVlan ipcpProtocol 2 2 [3, 6, 10, 0, 0, 5],
    pppOnVlan ipcpProtocol 1 7 [3, 6, 10, 0, 0, 1]]

set_option maxRecDepth 20000 in
/-- A session that came up has its gate open, and all that goes with it. -/
theorem run_gates_sound_dial :
    ∃ s, Run (nodeStep 0) GateSafe (startUp 1 fun _ _ => 0) (configureLabels ++ dialLabels) s ∧
      (s.subs 0).ppp.dpStartBool = true ∧ GatesSound (s.subs 0).ppp := by
  have hsafe : Run.checks (nodeStep 0) GateSafe configuredNode dialLabels = true := by decide
  have hconf : Run (nodeStep 0) GateSafe (startUp 1 fun _ _ => 0) configureLabels configuredNode := by
    refine run_configureLabels fun s l hl => ?_
    rcases List.mem_cons.mp hl with h | h
    · rw [h]
      exact trivial
    · rw [List.mem_singleton.mp h]
      exact trivial
  have hrun := hconf.append (Run.of_checks _ _ hsafe)
  exact ⟨_, hrun, rfl, run_gates_sound 0 1 (fun _ _ => 0) _ _ hrun 0⟩

/-- A PADS for a subscriber who has not dialed: the session is in `LCP_PHASE`, and `ppp_bool` is
not set. -/
theorem unasked_pads_enters_lcp :
    ¬ ∀ (mac : BitVec 48) (maxUserCount : Nat) (rand : Nat → Nat → BitVec 32) (ls : List NodeLabel)
      (s : Node), Run (nodeStep mac) (fun _ _ => True) (startUp maxUserCount rand) ls s →
        ∀ c, GatesSound (s.subs c).ppp := by
  intro h
  have hrun : Run (nodeStep 0) (fun _ _ => True) (startUp 1 fun _ _ => 0)
      (configureLabels ++ [onVlan (wireFrame ethPPppDis padsCode 1 [])])
      (configuredNode.nodeStep 0 (onVlan (wireFrame ethPPppDis padsCode 1 []))) :=
    (run_configureLabels fun _ _ _ => trivial).append (Run.single _ trivial)
  have hsound := h 0 1 (fun _ _ => 0) _ _ hrun 0
  have hphase : ((configuredNode.nodeStep 0 (onVlan (wireFrame ethPPppDis padsCode 1 []))).subs
      0).ppp.phase = lcpPhase := rfl
  have hdial : ((configuredNode.nodeStep 0 (onVlan (wireFrame ethPPppDis padsCode 1 []))).subs
      0).ppp.pppBool = false := rfl
  have hset := hsound.dialed (by rw [hphase]; decide) (by rw [hphase]; decide)
  rw [hdial] at hset
  cases hset

end Node

end FastRG
