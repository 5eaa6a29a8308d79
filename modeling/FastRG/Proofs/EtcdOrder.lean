/-
Which revision is in force.

The node records the revision a subscriber's configuration and its DNS records were applied at.
For the number of subscribers it records none, so a run carries it along.

Reconcile events and sweeps look at what is recorded and give way to what is newer.  Live events,
a republish and every change of the count do not look: a run keeps the revisions in order as long
as these are not older than what is in force (`run_revisions_ordered`).
-/
import FastRG.EtcdIntegration
import FastRG.Proofs.ApplyAtomic

namespace FastRG

namespace Node

variable {s t : Node} {env : EtcdEnv} {c : Nat}

/-! ### What leaves the revisions alone -/

/-- The recorded revisions and the size of the node are the same. -/
structure SameRevisions (s t : Node) : Prop where
  hsi : t.hsiSubscriberLastRevision = s.hsiSubscriberLastRevision
  dns : t.dnsSubscriberLastRevision = s.dnsSubscriberLastRevision
  size : t.maxUserCount = s.maxUserCount

theorem SameRevisions.refl (s : Node) : SameRevisions s s := ⟨rfl, rfl, rfl⟩

theorem SameRevisions.trans {u : Node} (h : SameRevisions s t) (h' : SameRevisions t u) :
    SameRevisions s u :=
  ⟨h'.hsi.trans h.hsi, h'.dns.trans h.dns, h'.size.trans h.size⟩

theorem same_modSub (s : Node) (c : Nat) (f : Subscriber → Subscriber) :
    SameRevisions s (s.modSub c f) := ⟨rfl, rfl, rfl⟩

theorem same_foldl {α : Type} {f : Node → α → Node} (hf : ∀ t a, SameRevisions t (f t a))
    (l : List α) (s : Node) : SameRevisions s (l.foldl f s) := by
  induction l generalizing s with
  | nil => exact SameRevisions.refl s
  | cons a rest ih => exact (hf s a).trans (ih (f s a))

theorem same_apply (env : ApplyEnv) (s : Node) (c : Nat) (config : HsiConfig) (isUpdate : Bool) :
    SameRevisions s (s.applyHsiConfig env c config isUpdate).2 := by
  by_cases happ : ∃ p, Applies env s c config isUpdate p
  · obtain ⟨p, hp⟩ := happ
    have hclosed : SameRevisions s
        (reopened s c ((s.shut c).applyClosed env.alloc c config p isUpdate).2) := by
      by_cases hok : s.vlanOk c p isUpdate ∧ env.alloc = true
      · rw [hok.2, applyClosed_of_success (sessionPart_of_ok config hok.1)]
        split
        · exact ⟨rfl, rfl, rfl⟩
        · exact ⟨rfl, rfl, rfl⟩
      · obtain ⟨map, -, hpart⟩ := sessionPart_refused config hok
        rw [applyClosed_of_error hpart]
        exact ⟨rfl, rfl, rfl⟩
    rw [hp.eq]
    simp only
    split
    · exact ⟨hclosed.hsi, hclosed.dns, hclosed.size⟩
    · exact hclosed
  · rw [applyHsiConfig_not_applies fun p hp => happ ⟨p, hp⟩]
    exact SameRevisions.refl s

theorem same_remove (alloc : Bool) (s : Node) (c : Nat) :
    SameRevisions s (s.removeHsiConfig alloc c).2 := by
  unfold removeHsiConfig
  simp only [resetVlanMapCcbId_eq]
  split
  · exact SameRevisions.refl s
  · split
    · exact SameRevisions.refl s
    · split
      · exact SameRevisions.refl s
      · split
        · exact SameRevisions.refl s
        · exact ⟨rfl, rfl, rfl⟩

theorem same_reconcilePppoeDesire (s : Node) (c : Nat) (desire : List (BitVec 8)) :
    SameRevisions s (s.reconcilePppoeDesire c desire) := by
  have hdial : ∀ t : Node, SameRevisions t (t.executePppoeDial c) := by
    intro t
    unfold executePppoeDial
    simp only
    split
    · exact SameRevisions.refl t
    · split
      · split
        · exact ⟨rfl, rfl, rfl⟩
        · exact ⟨rfl, rfl, rfl⟩
      · split
        · exact ⟨rfl, rfl, rfl⟩
        · exact ⟨rfl, rfl, rfl⟩
  have hhangup : ∀ t : Node, SameRevisions t (t.executePppoeHangup c) := by
    intro t
    unfold executePppoeHangup
    split
    · exact SameRevisions.refl t
    · exact ⟨rfl, rfl, rfl⟩
  have hpending : ∀ b, SameRevisions s (s.setRedialPending c b) := fun b => same_modSub s c _
  unfold reconcilePppoeDesire
  simp only
  split
  · exact (hpending false).trans (hdial _)
  · split
    · exact (hpending false).trans (hhangup _)
    · exact hpending _

theorem same_reconcilePortMapping (s : Node) (c : Nat) (mappings : List PortMapping) :
    SameRevisions s (s.reconcilePortMapping c mappings).2 := by
  unfold reconcilePortMapping
  split
  · exact SameRevisions.refl s
  · exact ⟨rfl, rfl, rfl⟩

theorem same_applyDnsRecordSet (s : Node) (c : Nat) (records : List DnsRecordConfig) :
    SameRevisions s (s.applyDnsRecordSet c records).2 := by
  have hremove : ∀ (r : Status × Node) (d : List (BitVec 8)),
      SameRevisions r.2 (removeStaleDomain c r d).2 := by
    intro r d
    have hrec : SameRevisions r.2 (r.2.removeDnsRecord c d).2 := by
      unfold removeDnsRecord
      split
      · exact SameRevisions.refl _
      · exact ⟨rfl, rfl, rfl⟩
    unfold removeStaleDomain
    split
    · rename_i t heq
      rw [heq] at hrec
      exact hrec
    · rename_i t heq
      rw [heq] at hrec
      exact hrec
  have hset : ∀ (r : Status × Node) (w : DnsRecordConfig),
      SameRevisions r.2 (setDnsRecord c r w).2 := by
    intro r w
    have hrec : SameRevisions r.2 (r.2.applyDnsRecord c w).2 := by
      unfold applyDnsRecord
      split
      · exact SameRevisions.refl _
      · split
        · exact SameRevisions.refl _
        · exact ⟨rfl, rfl, rfl⟩
    unfold setDnsRecord
    generalize (if w.ttl = 0 then 3600 else w.ttl) = ttl
    simp only
    split
    · exact SameRevisions.refl _
    · split
      · rename_i t heq
        rw [heq] at hrec
        exact hrec
      · rename_i t heq
        rw [heq] at hrec
        exact hrec
  have hfold : ∀ {α : Type} (f : Status × Node → α → Status × Node),
      (∀ r a, SameRevisions r.2 (f r a).2) → ∀ (l : List α) (r : Status × Node),
      SameRevisions r.2 (l.foldl f r).2 := by
    intro α f hf l
    induction l with
    | nil => exact fun r => SameRevisions.refl r.2
    | cons a rest ih => exact fun r => (hf r a).trans (ih (f r a))
  unfold applyDnsRecordSet
  simp only
  split
  · exact SameRevisions.refl s
  · split
    · exact SameRevisions.refl s
    · exact (hfold _ hremove _ (.success, s)).trans (hfold _ hset _ _)

theorem same_userCount (alloc : Nat → Bool) (s : Node) (userCount : Int) (action : HsiAction) :
    SameRevisions s (s.userCountChangedCallback alloc userCount action).2 := by
  have hppp : ∀ (t : Node) (c : Nat), SameRevisions t (t.pppdDisable (alloc c) c) := by
    intro t c
    unfold pppdDisable
    simp only [resetVlanMapCcbId_eq]
    exact ⟨rfl, rfl, rfl⟩
  have hchange : SameRevisions s (s.userCountChangedCallback alloc userCount .update).2 := by
    unfold userCountChangedCallback
    simp only
    split
    · exact SameRevisions.refl s
    · split
      · exact SameRevisions.refl s
      · refine SameRevisions.trans ?_ (same_foldl (fun t c => same_modSub t c _) _ _)
        refine SameRevisions.trans ?_ (same_foldl hppp _ _)
        exact ⟨rfl, rfl, rfl⟩
  cases action with
  | create => exact hchange
  | update => exact hchange
  | delete => exact SameRevisions.refl s

/-! ### What an event may record -/

/-- Recorded revisions that have not gone back. -/
structure RevisionsLe (s t : Node) : Prop where
  hsi : ∀ c, s.hsiSubscriberLastRevision c ≤ t.hsiSubscriberLastRevision c
  dns : ∀ c, s.dnsSubscriberLastRevision c ≤ t.dnsSubscriberLastRevision c

theorem SameRevisions.le (h : SameRevisions s t) : RevisionsLe s t :=
  ⟨fun c => by rw [h.hsi], fun c => by rw [h.dns]⟩

theorem RevisionsLe.refl (s : Node) : RevisionsLe s s := (SameRevisions.refl s).le

theorem RevisionsLe.trans {u : Node} (h : RevisionsLe s t) (h' : RevisionsLe t u) :
    RevisionsLe s u :=
  ⟨fun c => Int.le_trans (h.hsi c) (h'.hsi c), fun c => Int.le_trans (h.dns c) (h'.dns c)⟩

theorem le_setHsi {revision : Int}
    (h : c < s.maxUserCount → s.hsiSubscriberLastRevision c ≤ revision) :
    RevisionsLe s (s.hsiSetSubscriberLastRevision c revision) := by
  unfold hsiSetSubscriberLastRevision
  split
  · rename_i hc
    refine ⟨fun d => ?_, fun d => Int.le_refl _⟩
    by_cases hd : d = c
    · rw [hd]
      simpa using h hc
    · simp [hd]
  · exact RevisionsLe.refl s

theorem le_setDns {revision : Int}
    (h : c < s.maxUserCount → s.dnsSubscriberLastRevision c ≤ revision) :
    RevisionsLe s (s.etcdSetDnsSubscriberLastRevision c revision) := by
  unfold etcdSetDnsSubscriberLastRevision
  split
  · rename_i hc
    refine ⟨fun d => Int.le_refl _, fun d => ?_⟩
    by_cases hd : d = c
    · rw [hd]
      simpa using h hc
    · simp [hd]
  · exact RevisionsLe.refl s

/-- What was applied is taken over. -/
theorem le_hsiApplied {t : Node} {revision : Int} (hsame : SameRevisions s t)
    (h : c < s.maxUserCount → s.hsiSubscriberLastRevision c ≤ revision) (config : HsiConfig)
    (isUpdate : Bool) : RevisionsLe s (t.hsiApplied c config isUpdate revision).2 := by
  have hmap : SameRevisions t (if config.portMappings ≠ [] ∨ isUpdate = true then
      t.reconcilePortMapping c config.portMappings else (.success, t)).2 := by
    split
    · exact same_reconcilePortMapping t c _
    · exact SameRevisions.refl t
  have hall := (hsame.trans hmap).trans
    (same_reconcilePppoeDesire _ c config.desireStatus)
  refine hall.le.trans (le_setHsi ?_)
  rw [hall.hsi, hall.size]
  exact h

/-- A configuration that comes at a revision no older than the recorded one. -/
theorem le_hsiConfigChanged {revision : Int}
    (h : c < s.maxUserCount → s.hsiSubscriberLastRevision c ≤ revision)
    (env : ApplyEnv) (config : HsiConfig) (action : HsiAction) :
    RevisionsLe s (s.hsiConfigChanged env c config action revision).2 := by
  cases action with
  | create =>
      unfold hsiConfigChanged
      simp only
      generalize decide (HsiAction.create = HsiAction.update) = isUpdate
      have hsame := same_apply env s c config isUpdate
      generalize s.applyHsiConfig env c config isUpdate = r at hsame
      obtain ⟨st, t⟩ := r
      cases st with
      | error => exact hsame.le
      | success => exact le_hsiApplied hsame h config isUpdate
  | update =>
      unfold hsiConfigChanged
      simp only
      generalize decide (True) = isUpdate
      have hsame := same_apply env s c config isUpdate
      generalize s.applyHsiConfig env c config isUpdate = r at hsame
      obtain ⟨st, t⟩ := r
      cases st with
      | error => exact hsame.le
      | success => exact le_hsiApplied hsame h config isUpdate
  | delete =>
      unfold hsiConfigChanged
      simp only
      have hsame := same_remove env.alloc s c
      generalize s.removeHsiConfig env.alloc c = r at hsame
      obtain ⟨st, t⟩ := r
      cases st with
      | error => exact hsame.le
      | success =>
          refine hsame.le.trans (le_setHsi ?_)
          rw [hsame.hsi, hsame.size]
          exact h

/-- A recorded revision that is not newer than an event's. -/
theorem recorded_le {revision : Int}
    (h : ¬ revision < s.hsiGetSubscriberLastRevision c) (hc : c < s.maxUserCount) :
    s.hsiSubscriberLastRevision c ≤ revision := by
  unfold hsiGetSubscriberLastRevision at h
  rw [if_pos hc] at h
  omega

/-- A reconcile event gives way to what is newer, a live one is asked not to be older, and a
republish of what is there already changes nothing. -/
theorem le_dispatchHsi (env : ApplyEnv) (ev : HsiEvent)
    (h : ev.fromReconcile = true ∨
      (ev.fromRepublish = true ∧ ev.action ≠ .delete ∧
        slotMatches (s.subs c) ev.config = true) ∨
      s.hsiSubscriberLastRevision c ≤ ev.revision) :
    RevisionsLe s (s.dispatchHsi env ev c) := by
  unfold dispatchHsi
  by_cases hnew : isHsiEtcdRevisionNewest (s.hsiGetSubscriberLastRevision c) ev = false
  · rw [if_pos hnew]
    exact RevisionsLe.refl s
  · rw [if_neg hnew]
    by_cases hpub : ev.fromRepublish = true ∧ ev.action ≠ .delete ∧
        slotMatches (s.subs c) ev.config = true
    · rw [if_pos hpub]
      exact RevisionsLe.refl s
    · rw [if_neg hpub]
      split
      · exact (same_reconcilePppoeDesire s c _).le
      · refine le_hsiConfigChanged (fun hc => ?_) env ev.config ev.action
        rcases h with h | h | h
        · refine recorded_le (fun hlt => hnew ?_) hc
          simp [isHsiEtcdRevisionNewest, h, hlt]
        · exact absurd h hpub
        · exact h

theorem le_sweepSlot (alloc : Nat → Bool) (present : List Nat) {revision : Int}
    (hpos : 0 < revision) (s : Node) (c : Nat) :
    RevisionsLe s (sweepSlot alloc present revision s c) := by
  unfold sweepSlot
  split
  · exact RevisionsLe.refl s
  · split
    · exact RevisionsLe.refl s
    · by_cases hmay : isSweepMayRemove (s.hsiGetSubscriberLastRevision c) revision = false
      · rw [if_pos hmay]
        exact RevisionsLe.refl s
      · rw [if_neg hmay]
        have hle : c < s.maxUserCount → s.hsiSubscriberLastRevision c ≤ revision := by
          intro hc
          unfold isSweepMayRemove hsiGetSubscriberLastRevision at hmay
          rw [if_pos hc] at hmay
          simp only [Bool.or_eq_false_iff, decide_eq_false_iff_not, not_and, not_not] at hmay
          omega
        have hsame := same_remove (alloc c) s c
        generalize s.removeHsiConfig (alloc c) c = r at hsame
        obtain ⟨st, t⟩ := r
        cases st with
        | error => exact hsame.le
        | success =>
            refine hsame.le.trans (le_setHsi ?_)
            rw [hsame.hsi, hsame.size]
            exact hle

theorem le_sweep (alloc : Nat → Bool) (s : Node) (present : List Nat) {revision : Int}
    (hpos : 0 < revision) : RevisionsLe s (s.etcdReconcileSweep alloc present revision) := by
  unfold etcdReconcileSweep
  generalize List.range s.userCount = slots
  induction slots generalizing s with
  | nil => exact RevisionsLe.refl s
  | cons c rest ih => exact (le_sweepSlot alloc present hpos s c).trans (ih _)

theorem le_dispatchDnsSet (records : List DnsRecordConfig) {revision : Int} {fromReconcile : Bool}
    (h : fromReconcile = true ∨ s.dnsSubscriberLastRevision c ≤ revision) :
    RevisionsLe s (s.dispatchDnsSet c records revision fromReconcile) := by
  unfold dispatchDnsSet
  by_cases hold : fromReconcile = true ∧ revision < s.etcdGetDnsSubscriberLastRevision c
  · rw [if_pos hold]
    exact RevisionsLe.refl s
  · rw [if_neg hold]
    have hle : c < s.maxUserCount → s.dnsSubscriberLastRevision c ≤ revision := by
      intro hc
      rcases h with h | h
      · by_contra hlt
        refine hold ⟨h, ?_⟩
        unfold etcdGetDnsSubscriberLastRevision
        rw [if_pos hc]
        omega
      · exact h
    have hsame := same_applyDnsRecordSet s c records
    generalize s.applyDnsRecordSet c records = r at hsame
    obtain ⟨st, t⟩ := r
    cases st with
    | error => exact hsame.le
    | success =>
        refine hsame.le.trans (le_setDns ?_)
        rw [hsame.dns, hsame.size]
        exact hle

/-! ### Runs -/

/-- A node, and the revision of the count it serves. -/
structure Counted where
  node : Node
  countRevision : Int

/-- An event, or anything else that happens on the node. -/
inductive EtcdLabel
  | dispatch (env : EtcdEnv) (ev : EtcdEvent)
  | other (t : Node)

/-- A count is accepted. -/
def countAccepted (s : Node) (action : HsiAction) (userCount : Int) : Prop :=
  action ≠ .delete ∧ 0 < userCount ∧ userCount ≤ s.maxUserCount

instance (s : Node) (action : HsiAction) (userCount : Int) :
    Decidable (s.countAccepted action userCount) := inferInstanceAs (Decidable (_ ∧ _ ∧ _))

/-- The revision of the count after an event.  A count that is in force already is confirmed. -/
def countRevisionAfter (p : Counted) : EtcdEvent → Int
  | .userCount action userCount revision =>
      if p.node.countAccepted action userCount then
        if userCount = p.node.userCount then max p.countRevision revision else revision
      else p.countRevision
  | _ => p.countRevision

def etcdStep (p : Counted) : EtcdLabel → Counted
  | .dispatch env ev => ⟨p.node.etcdEventDispatch env ev, countRevisionAfter p ev⟩
  | .other t => ⟨t, p.countRevision⟩

/-- What no code checks: a live event or a republish is not older than what was applied last, a
republish of what is there already apart; neither is a count that changes the one in force.
Revisions of the store are positive.  What else happens records no revision. -/
def InOrder (p : Counted) : EtcdLabel → Prop
  | .dispatch _ (.hsi ev) =>
      ∀ c, parseUserId ev.userId p.node.userCount = some c →
        ev.fromReconcile = true ∨
        (ev.fromRepublish = true ∧ ev.action ≠ .delete ∧
          slotMatches (p.node.subs c) ev.config = true) ∨
        p.node.hsiSubscriberLastRevision c ≤ ev.revision
  | .dispatch _ (.userCount action userCount revision) =>
      p.node.countAccepted action userCount → userCount ≠ p.node.userCount →
        p.countRevision ≤ revision
  | .dispatch _ (.dnsSet userId _ revision fromReconcile) =>
      ∀ c, parseUserId userId p.node.userCount = some c →
        fromReconcile = true ∨ p.node.dnsSubscriberLastRevision c ≤ revision
  | .dispatch _ (.hsiSweep _ reconcileRevision) => 0 < reconcileRevision
  | .other t => SameRevisions p.node t ∧ t.userCount = p.node.userCount

theorem le_step (p : Counted) (l : EtcdLabel) (hl : InOrder p l) :
    RevisionsLe p.node (etcdStep p l).node ∧ p.countRevision ≤ (etcdStep p l).countRevision := by
  cases l with
  | other t => exact ⟨hl.1.le, Int.le_refl _⟩
  | dispatch env ev =>
      cases ev with
      | hsi ev =>
          refine ⟨?_, Int.le_refl _⟩
          show RevisionsLe p.node (p.node.etcdEventDispatch env (.hsi ev))
          unfold etcdEventDispatch
          simp only
          cases hparse : parseUserId ev.userId p.node.userCount with
          | none => exact RevisionsLe.refl _
          | some c => exact le_dispatchHsi env.apply ev (hl c hparse)
      | userCount action userCount revision =>
          refine ⟨(same_userCount env.alloc p.node userCount action).le, ?_⟩
          show p.countRevision ≤ countRevisionAfter p (.userCount action userCount revision)
          unfold countRevisionAfter
          simp only
          split
          · rename_i hacc
            split
            · exact Int.le_max_left _ _
            · rename_i hne
              exact hl hacc hne
          · exact Int.le_refl _
      | dnsSet userId records revision fromReconcile =>
          refine ⟨?_, Int.le_refl _⟩
          show RevisionsLe p.node
            (p.node.etcdEventDispatch env (.dnsSet userId records revision fromReconcile))
          unfold etcdEventDispatch
          simp only
          cases hparse : parseUserId userId p.node.userCount with
          | none => exact RevisionsLe.refl _
          | some c => exact le_dispatchDnsSet records (hl c hparse)
      | hsiSweep present revision => exact ⟨le_sweep env.alloc p.node present hl, Int.le_refl _⟩

/--
**Revisions in order.** In every run in which no live event, republish or count is older than what
it replaces, the revision of the configuration and of the DNS records in force for each
subscriber, and of the count, never go back.
-/
theorem run_revisions_ordered (p q : Counted) (ls : List EtcdLabel)
    (h : Run etcdStep InOrder p ls q) :
    (∀ c, p.node.hsiSubscriberLastRevision c ≤ q.node.hsiSubscriberLastRevision c) ∧
      (∀ c, p.node.dnsSubscriberLastRevision c ≤ q.node.dnsSubscriberLastRevision c) ∧
      p.countRevision ≤ q.countRevision := by
  have hle : RevisionsLe p.node q.node ∧ p.countRevision ≤ q.countRevision := by
    refine h.inv (fun q => RevisionsLe p.node q.node ∧ p.countRevision ≤ q.countRevision) ?_
      ⟨RevisionsLe.refl _, Int.le_refl _⟩
    intro t l ht hl
    have hstep := le_step t l hl
    exact ⟨ht.1.trans hstep.1, Int.le_trans ht.2 hstep.2⟩
  exact ⟨hle.1.hsi, hle.1.dns, hle.2⟩

/-- A configuration on another VLAN. -/
def movedConfig : HsiConfig := { plainConfig with vlanId := asciiBytes "200" }

/-- A live event for the first subscriber. -/
def liveEvent (action : HsiAction) (config : HsiConfig) (revision : Int) : EtcdEvent :=
  .hsi ⟨asciiBytes "1", action, config, revision, false, false⟩

/-- The first subscriber gets a configuration at revision 10 and another at revision 12. -/
def configuredTwice : Node :=
  (oneSubscriber.etcdEventDispatch ⟨⟨true, true⟩, fun _ => true⟩
    (liveEvent .create plainConfig 10)).etcdEventDispatch ⟨⟨true, true⟩, fun _ => true⟩
      (liveEvent .update movedConfig 12)

/-- A republish that read the store at revision 10 and comes after revision 12. -/
def staleRepublish : EtcdEvent := .hsi ⟨asciiBytes "1", .update, plainConfig, 10, false, true⟩

set_option maxRecDepth 8000 in
/-- The republish puts the old configuration back in force. -/
theorem stale_republish_applied :
    configuredTwice.hsiSubscriberLastRevision 0 = 12 ∧ (configuredTwice.subs 0).vlanId = 200 ∧
      (configuredTwice.etcdEventDispatch ⟨⟨true, true⟩, fun _ => true⟩
        staleRepublish).hsiSubscriberLastRevision 0 = 10 ∧
      ((configuredTwice.etcdEventDispatch ⟨⟨true, true⟩, fun _ => true⟩
        staleRepublish).subs 0).vlanId = 100 := by
  refine ⟨?_, ?_, ?_, ?_⟩
  · decide
  · decide
  · decide
  · decide

/-- A count at revision 5, and a sweep that read the store before it. -/
theorem run_revisions_ordered_live :
    let ls := [EtcdLabel.dispatch ⟨⟨true, true⟩, fun _ => true⟩ (.userCount .create 1 5),
      .dispatch ⟨⟨true, true⟩, fun _ => true⟩ (.hsiSweep [0] 4)]
    let p : Counted := ⟨startUp 1 fun _ _ => 0, 0⟩
    let q := ls.foldl etcdStep p
    (∀ c, p.node.hsiSubscriberLastRevision c ≤ q.node.hsiSubscriberLastRevision c) ∧
      (∀ c, p.node.dnsSubscriberLastRevision c ≤ q.node.dnsSubscriberLastRevision c) ∧
      p.countRevision ≤ q.countRevision := by
  intro ls p q
  refine run_revisions_ordered p q ls ?_
  refine Run.append (Run.single _ ?_) (Run.single _ ?_)
  · intro _ _
    decide
  · show (0 : Int) < 4
    decide

end Node

end FastRG
