/-
Offline edits and the events that report them.

The event of an offline edit is handed over before its sequence is bound to the edit, so the broker
may confirm it, or another call evict it, in between.  Where neither happens, a confirmed edit is
clean and its binding is gone: an edit on its way is with the call that reports it, in the bindings,
with the callback that has taken the binding, or clean.
-/
import FastRG.Proofs.KafkaBuffer
import FastRG.Proofs.SnapshotEdits

namespace FastRG

/-! ### Entries that are clean -/

namespace ConfigSnapshot

variable {s : ConfigSnapshot} {item : DirtyItem}

/-- The entry has been edited since the copy, or it is clean. -/
def Clean (s : ConfigSnapshot) (item : DirtyItem) : Prop :=
  ∀ e, s.entries.lookup item.key = some e → e.editSeq = item.editSeq → e.dirty = false

/-- The entry is clean after its own clear. -/
theorem clean_clearDirty (s : ConfigSnapshot) (item : DirtyItem) :
    (s.clearDirty item.key item.editSeq).Clean item := by
  intro e he hseq
  unfold ConfigSnapshot.clearDirty at he
  cases hlook : s.entries.lookup item.key with
  | none =>
      rw [hlook] at he
      dsimp only at he
      rw [hlook] at he
      cases he
  | some e₀ =>
      rw [hlook] at he
      dsimp only at he
      by_cases heq : e₀.editSeq = item.editSeq
      · rw [if_neg (fun hne => hne heq), lookup_put, if_pos rfl] at he
        rw [← Option.some.inj he]
      · rw [if_pos heq, hlook] at he
        rw [← Option.some.inj he] at hseq
        exact absurd hseq heq

/-- An entry that is dirty was so before, or was just edited. -/
theorem dirty_step {key : SnapshotKey} {l : SnapshotOp} {e : SnapshotEntry}
    (he : (s.step l).entries.lookup key = some e) (hdirty : e.dirty = true) :
    s.entries.lookup key = some e ∨
      e.editSeq = ((s.entries.lookup key).getD .zero).editSeq + 1 := by
  cases entryMove s key l with
  | kept _ h => exact Or.inl (h ▸ he)
  | edited e' _ h _ _ hseq =>
      have heq : e = e' := Option.some.inj (he.symm.trans h)
      exact Or.inr (heq ▸ hseq)
  | mirrored _ hl _ _ _ =>
      obtain ⟨value, rfl⟩ := hl
      have he' : (s.watchUpdate key value).entries.lookup key = some e := he
      unfold watchUpdate at he'
      split at he'
      · exact Or.inl he'
      · cases hlook : s.entries.lookup key with
        | none =>
            rw [hlook] at he'
            dsimp only at he'
            rw [lookup_put, if_pos rfl] at he'
            rw [← Option.some.inj he'] at hdirty
            cases hdirty
        | some e₀ =>
            rw [hlook] at he'
            dsimp only at he'
            split at he'
            · exact Or.inl (hlook ▸ he')
            · split at he'
              · exact Or.inl (hlook ▸ he')
              · rw [lookup_put, if_pos rfl] at he'
                rw [← Option.some.inj he'] at hdirty
                cases hdirty
  | cleared n item' e₀ e' hl hitem hkey _ heq h hseq =>
      subst hl hkey
      have hstep : s.step (.clearCopied n) = s.clearDirty item'.key item'.editSeq := by
        simp only [step, hitem]
      have hsame : e = e' := Option.some.inj (he.symm.trans h)
      rw [hstep] at he
      have hclean := clean_clearDirty s item' e he (by rw [hsame, hseq, heq])
      rw [hclean] at hdirty
      cases hdirty

theorem Clean.step (h : s.Clean item) {e : SnapshotEntry}
    (he : s.entries.lookup item.key = some e) (hle : item.editSeq ≤ e.editSeq) (l : SnapshotOp) :
    (s.step l).Clean item := by
  intro e' he' hseq
  by_cases hdirty : e'.dirty = true
  · rcases dirty_step he' hdirty with hkept | hnext
    · exact h e' hkept hseq
    · rw [he, Option.getD_some] at hnext
      omega
  · exact Bool.eq_false_iff.mpr hdirty

/-- What a clear leaves of any entry. -/
theorem lookup_clearDirty (s : ConfigSnapshot) (key : SnapshotKey) (n : Nat) (k : SnapshotKey) :
    (s.clearDirty key n).entries.lookup k = s.entries.lookup k ∨
      ∃ e, k = key ∧ s.entries.lookup k = some e ∧ e.editSeq = n ∧
        (s.clearDirty key n).entries.lookup k = some { e with dirty := false, summary := [] } := by
  unfold clearDirty
  cases hlook : s.entries.lookup key with
  | none => exact Or.inl rfl
  | some e =>
      dsimp only
      by_cases hseq : e.editSeq = n
      · rw [if_neg (fun hne => hne hseq), lookup_put]
        by_cases hk : k = key
        · subst hk
          rw [if_pos rfl]
          exact Or.inr ⟨e, rfl, hlook, hseq, rfl⟩
        · rw [if_neg hk]
          exact Or.inl rfl
      · rw [if_pos hseq]
        exact Or.inl rfl

theorem Clean.clearDirty (h : s.Clean item) (key : SnapshotKey) (n : Nat) :
    (s.clearDirty key n).Clean item := by
  intro e he hseq
  rcases lookup_clearDirty s key n item.key with heq | ⟨e₀, -, -, -, heq⟩
  · rw [heq] at he
    exact h e he hseq
  · rw [heq] at he
    rw [← Option.some.inj he]

theorem CopiesBehind.clearDirty (h : s.CopiesBehind) (key : SnapshotKey) (n : Nat) :
    (s.clearDirty key n).CopiesBehind := by
  intro item hitem
  rw [clearDirty_copied] at hitem
  obtain ⟨e, he, hle⟩ := h item hitem
  rcases lookup_clearDirty s key n item.key with heq | ⟨e₀, -, he₀, -, heq⟩
  · exact ⟨e, heq.trans he, hle⟩
  · have hsame : e = e₀ := Option.some.inj (he.symm.trans he₀)
    exact ⟨_, heq, hsame ▸ hle⟩

end ConfigSnapshot

namespace Kafka

variable {s t : Kafka} {σ : Int}

/-! ### Sequences are new -/

/-- No sequence is ahead of `g_seq`. -/
structure Below (s : Kafka) : Prop where
  pending : ∀ σ ∈ eventSeqs s.pending, σ ≤ s.seq
  inFlight : ∀ σ ∈ s.inFlight, σ ≤ s.seq
  calls : ∀ c ∈ s.calls, c.event.seq ≤ s.seq
  replay : ∀ σ ∈ s.replay.seqs, σ ≤ s.seq
  retry : ∀ σ ∈ s.retry.seqs, σ ≤ s.seq
  delivered : ∀ σ ∈ s.delivered, σ ≤ s.seq
  offline : ∀ p ∈ s.offline, p.1 ≤ s.seq

theorem eventSeqs_modifyFirst (σ : Int) (events : List KafkaWalEvent) :
    eventSeqs (modifyFirst σ (fun e => { e with deliveryFailed := true }) events) =
      eventSeqs events := by
  induction events with
  | nil => rfl
  | cons e rest ih =>
      unfold modifyFirst
      split
      · rfl
      · unfold eventSeqs at ih ⊢
        rw [List.map_cons, ih, List.map_cons]

/-- What is in flight and in the batches may pass from one to the other. -/
theorem Below.handed (h : Below s) (hseq : t.seq = s.seq)
    (hpending : eventSeqs t.pending ⊆ eventSeqs s.pending)
    (hflight : ∀ σ ∈ t.inFlight, σ ≤ s.seq) (hreplay : ∀ σ ∈ t.replay.seqs, σ ≤ s.seq)
    (hretry : ∀ σ ∈ t.retry.seqs, σ ≤ s.seq) (hcalls : t.calls = s.calls)
    (hdelivered : t.delivered = s.delivered) (hoffline : t.offline = s.offline) : Below t := by
  refine ⟨?_, ?_, ?_, ?_, ?_, ?_, ?_⟩
  · rw [hseq]
    exact fun σ hσ => h.pending σ (hpending hσ)
  · rw [hseq]
    exact hflight
  · rw [hseq, hcalls]
    exact h.calls
  · rw [hseq]
    exact hreplay
  · rw [hseq]
    exact hretry
  · rw [hseq, hdelivered]
    exact h.delivered
  · rw [hseq, hoffline]
    exact h.offline

/-- A call goes on. -/
theorem Below.setCall (h : Below s) {i : Nat} {c : ProduceCall} {stage : ProduceStage}
    (hc : s.calls[i]? = some c) (hcalls : t.calls = s.calls.set i { c with stage := stage })
    (hseq : t.seq = s.seq) (hpending : ∀ σ ∈ eventSeqs t.pending, σ ≤ s.seq)
    (hflight : ∀ σ ∈ t.inFlight, σ ≤ s.seq) (hreplay : t.replay = s.replay)
    (hretry : t.retry = s.retry) (hdelivered : t.delivered = s.delivered)
    (hoffline : t.offline = s.offline) : Below t := by
  refine ⟨?_, ?_, ?_, ?_, ?_, ?_, ?_⟩
  · rw [hseq]
    exact hpending
  · rw [hseq]
    exact hflight
  · intro c' hc'
    rw [hcalls] at hc'
    rw [hseq]
    rcases of_mem_set hc hc' with rfl | hc'
    · exact h.calls c (List.mem_of_getElem? hc)
    · exact h.calls c' hc'
  · rw [hseq, hreplay]
    exact h.replay
  · rw [hseq, hretry]
    exact h.retry
  · rw [hseq, hdelivered]
    exact h.delivered
  · rw [hseq, hoffline]
    exact h.offline

theorem Below.buffer (h : Below s) {e : KafkaWalEvent} (he : e.seq ≤ s.seq) :
    ∀ σ ∈ eventSeqs (s.buffer e).2.pending, σ ≤ s.seq := by
  have hstored : ∀ σ ∈ eventSeqs (s.pending ++ [e]), σ ≤ s.seq := by
    intro σ hσ
    rw [eventSeqs, List.map_append] at hσ
    rcases List.mem_append.mp hσ with hσ | hσ
    · exact h.pending σ hσ
    · rw [List.mem_singleton.mp hσ]
      exact he
  rcases buffer_cases s e with ⟨hbuf, -⟩ | ⟨k, old, -, hbuf⟩
  · rw [hbuf]
    exact hstored
  · rw [hbuf]
    intro σ hσ
    exact hstored σ (((List.eraseIdx_sublist _ _).map _).subset hσ)

theorem Below.callStep (h : Below s) (i : Nat) (ok : Bool) : Below (s.callStep i ok) := by
  unfold Kafka.callStep
  cases hc : s.calls[i]? with
  | none => exact h
  | some c =>
      have hle := h.calls c (List.mem_of_getElem? hc)
      dsimp only
      cases c.stage with
      | numbered =>
          have hb := h.buffer hle
          rcases buffer_cases s c.event with ⟨hbuf, -⟩ | ⟨k, old, -, hbuf⟩
          · rw [hbuf] at hb ⊢
            exact h.setCall hc rfl rfl hb h.inFlight rfl rfl rfl rfl
          · rw [hbuf] at hb ⊢
            exact h.setCall hc rfl rfl hb h.inFlight rfl rfl rfl rfl
      | buffered old persist =>
          cases old with
          | none => exact h.setCall hc rfl rfl h.pending h.inFlight rfl rfl rfl rfl
          | some old => exact h.setCall hc rfl rfl h.pending h.inFlight rfl rfl rfl rfl
      | forgot persist =>
          cases persist with
          | false => exact h.setCall hc rfl rfl h.pending h.inFlight rfl rfl rfl rfl
          | true =>
              cases ok with
              | false => exact h.setCall hc rfl rfl h.pending h.inFlight rfl rfl rfl rfl
              | true => exact h.setCall hc rfl rfl h.pending h.inFlight rfl rfl rfl rfl
      | persisted =>
          cases ok with
          | false => exact h.setCall hc rfl rfl h.pending h.inFlight rfl rfl rfl rfl
          | true =>
              refine h.setCall hc rfl rfl h.pending ?_ rfl rfl rfl rfl
              intro σ hσ
              rcases List.mem_append.mp hσ with hσ | hσ
              · exact h.inFlight σ hσ
              · rw [List.mem_singleton.mp hσ]
                exact hle
      | refused =>
          refine h.setCall hc rfl rfl ?_ h.inFlight rfl rfl rfl rfl
          intro σ hσ
          exact h.pending σ (eventSeqs_modifyFirst c.event.seq s.pending ▸ hσ)
      | returning =>
          have hrest : ∀ acks : Int → Option OfflineEditAck,
              Below { s with calls := s.calls.eraseIdx i, returned := s.returned ++ [c.event.seq],
                             acks := acks } := fun acks =>
            ⟨h.pending, h.inFlight, fun c' hc' => h.calls c' (List.mem_of_mem_eraseIdx hc'),
              h.replay, h.retry, h.delivered, h.offline⟩
          cases c.item with
          | none => exact hrest s.acks
          | some item => exact hrest _

theorem Below.produce (h : Below s) (payload : List (BitVec 8)) (durable : Bool)
    (item : Option DirtyItem) : Below (s.produce payload durable item) := by
  unfold Kafka.produce
  split
  · exact h
  · have hstep : ∀ {σ : Int}, σ ≤ s.seq → σ ≤ s.seq + 1 := fun hσ => by omega
    refine ⟨fun σ hσ => hstep (h.pending σ hσ), fun σ hσ => hstep (h.inFlight σ hσ), ?_,
      fun σ hσ => hstep (h.replay σ hσ), fun σ hσ => hstep (h.retry σ hσ),
      fun σ hσ => hstep (h.delivered σ hσ), ?_⟩
    · intro c hc
      rcases List.mem_append.mp hc with hc | hc
      · exact hstep (h.calls c hc)
      · obtain rfl := List.mem_singleton.mp hc
        exact Int.le_refl _
    · intro p hp
      rcases List.mem_append.mp hp with hp | hp
      · exact hstep (h.offline p hp)
      · cases item with
        | none => cases hp
        | some item =>
            obtain rfl := List.mem_singleton.mp hp
            exact Int.le_refl _

theorem Below.reportStep (h : Below s) (i : Nat) (ok : Bool) : Below (s.reportStep i ok) := by
  have hquiet : ∀ t : Kafka, t.seq = s.seq → eventSeqs t.pending ⊆ eventSeqs s.pending →
      t.inFlight = s.inFlight → t.replay = s.replay → t.retry = s.retry → t.calls = s.calls →
      t.delivered = s.delivered → t.offline = s.offline → Below t := by
    intro t hseq hpending hflight hreplay hretry hcalls hdelivered hoffline
    exact h.handed hseq hpending (hflight ▸ h.inFlight) (hreplay ▸ h.replay) (hretry ▸ h.retry)
      hcalls hdelivered hoffline
  have hsame := List.Subset.refl (eventSeqs s.pending)
  unfold Kafka.reportStep
  cases s.reports[i]? with
  | none => exact h
  | some r =>
      obtain ⟨seq, stage⟩ := r
      cases stage with
      | failed =>
          refine hquiet _ rfl ?_ rfl rfl rfl rfl rfl rfl
          show eventSeqs (modifyFirst _ _ s.pending) ⊆ _
          rw [eventSeqs_modifyFirst]
          exact hsame
      | delivered =>
          unfold Kafka.takeDelivered
          dsimp only
          cases s.pending.find? fun e => e.seq = seq with
          | none => exact hquiet _ rfl hsame rfl rfl rfl rfl rfl rfl
          | some e =>
              refine hquiet _ rfl ?_ rfl rfl rfl rfl rfl rfl
              exact (List.eraseP_sublist.map KafkaWalEvent.seq).subset
      | taken persist =>
          cases persist with
          | false => exact hquiet _ rfl hsame rfl rfl rfl rfl rfl rfl
          | true =>
              cases ok with
              | false => exact hquiet _ rfl hsame rfl rfl rfl rfl rfl rfl
              | true => exact hquiet _ rfl hsame rfl rfl rfl rfl rfl rfl
      | persisted =>
          dsimp only
          cases s.acks seq with
          | none => exact hquiet _ rfl hsame rfl rfl rfl rfl rfl rfl
          | some ack => exact hquiet _ rfl hsame rfl rfl rfl rfl rfl rfl
      | acked key editSeq => exact hquiet _ rfl hsame rfl rfl rfl rfl rfl rfl

theorem Below.report (h : Below s) (seq : Int) (err : Bool) : Below (s.report seq err) := by
  unfold Kafka.report
  by_cases hin : seq ∈ s.inFlight
  · rw [if_pos hin]
    refine ⟨h.pending, fun σ hσ => h.inFlight σ (List.mem_of_mem_erase hσ), h.calls, h.replay,
      h.retry, ?_, h.offline⟩
    intro σ hσ
    cases err with
    | true => exact h.delivered σ hσ
    | false =>
        rcases List.mem_append.mp hσ with hσ | hσ
        · exact h.delivered σ hσ
        · rw [List.mem_singleton.mp hσ]
          exact h.inFlight seq hin
  · rw [if_neg hin]
    exact h

theorem Below.retryBegin (h : Below s) : Below s.retryBegin := by
  unfold Kafka.retryBegin
  split
  · refine h.handed rfl ?_ h.inFlight h.replay ?_ rfl rfl rfl
    · show eventSeqs (s.pending.map KafkaWalEvent.unflagged) ⊆ _
      unfold eventSeqs
      rw [List.map_map]
      exact List.Subset.refl _
    · intro σ hσ
      exact h.pending σ ((List.filter_sublist.map KafkaWalEvent.seq).subset hσ)
  · exact h

theorem Below.retryStep (h : Below s) (ok : Bool) : Below (s.retryStep ok) := by
  unfold Kafka.retryStep
  rcases handOver_cases s ok s.retry with ⟨flight, b, heq, -, -, hflight, hb⟩ | ⟨seq, b, heq, -, hb⟩
  · rw [heq]
    refine h.handed rfl (List.Subset.refl _) ?_ h.replay (fun σ hσ => h.retry σ (hb hσ)) rfl rfl rfl
    intro σ hσ
    rcases hflight σ hσ with hσ | hσ
    · exact h.inFlight σ hσ
    · exact h.retry σ hσ
  · rw [heq]
    refine h.handed rfl ?_ h.inFlight h.replay (fun σ hσ => h.retry σ (hb hσ)) rfl rfl rfl
    exact fun σ hσ => eventSeqs_modifyFirst seq s.pending ▸ hσ

theorem Below.replayStep (h : Below s) (ok : Bool) : Below (s.replayStep ok) := by
  unfold Kafka.replayStep
  rcases handOver_cases s ok s.replay with ⟨flight, b, heq, -, -, hflight, hb⟩ | ⟨seq, b, heq, -, hb⟩
  · rw [heq]
    refine h.handed rfl (List.Subset.refl _) ?_ (fun σ hσ => h.replay σ (hb hσ)) h.retry rfl rfl rfl
    intro σ hσ
    rcases hflight σ hσ with hσ | hσ
    · exact h.inFlight σ hσ
    · exact h.replay σ hσ
  · rw [heq]
    refine h.handed rfl ?_ h.inFlight (fun σ hσ => h.replay σ (hb hσ)) h.retry rfl rfl rfl
    exact fun σ hσ => eventSeqs_modifyFirst seq s.pending ▸ hσ

theorem Below.initStep (h : Below s) (hblank : s.init = .off ∨ s.init = .ready → Blank s) :
    Below s.initStep := by
  have hsame := List.Subset.refl (eventSeqs s.pending)
  unfold Kafka.initStep
  cases hinit : s.init with
  | off => exact h.handed rfl hsame h.inFlight h.replay h.retry rfl rfl rfl
  | ready =>
      -- nothing but the events of the file is in the buffer
      have hb := hblank (Or.inr hinit)
      refine ⟨(le_foldl_max _ 0).2, ?_, ?_, ?_, ?_, ?_, ?_⟩
      · exact fun σ hσ => absurd (hb.inFlight ▸ hσ) List.not_mem_nil
      · exact fun c hc => absurd (hb.calls ▸ hc) List.not_mem_nil
      · exact fun σ hσ => absurd (show σ ∈ (HandOver.next []).seqs from hb.replay ▸ hσ)
          List.not_mem_nil
      · exact fun σ hσ => absurd (show σ ∈ (HandOver.next []).seqs from hb.retry ▸ hσ)
          List.not_mem_nil
      · exact fun σ hσ => absurd (hb.delivered ▸ hσ) List.not_mem_nil
      · exact fun p hp => absurd (hb.offline ▸ hp) List.not_mem_nil
  | loaded => exact h.handed rfl hsame h.inFlight h.pending h.retry rfl rfl rfl
  | replaying =>
      dsimp only
      split
      · exact h.handed rfl hsame h.inFlight h.replay h.retry rfl rfl rfl
      · exact h
  | running => exact h

theorem Below.step (h : Below s) (hblank : s.init = .off ∨ s.init = .ready → Blank s)
    (l : KafkaLabel) : Below (kafkaStep s l) := by
  cases l with
  | init => exact h.initStep hblank
  | replay ok => exact h.replayStep ok
  | produce payload durable => exact h.produce payload durable none
  | offline n payload =>
      unfold kafkaStep
      dsimp only
      cases s.snapshot.copied[n]? with
      | none => exact h
      | some item => exact h.produce payload false (some item)
  | call i ok => exact h.callStep i ok
  | report seq err => exact h.report seq err
  | callback i ok => exact h.reportStep i ok
  | retryBegin => exact h.retryBegin
  | retry ok => exact h.retryStep ok
  | snapshot op =>
      exact h.handed rfl (List.Subset.refl _) h.inFlight h.replay h.retry rfl rfl rfl

/-! ### Where an offline edit is -/

/-- A call that reports an offline edit under this sequence has not bound it yet. -/
def OfflineCall (calls : List ProduceCall) (σ : Int) : Prop :=
  ∃ c ∈ calls, c.event.seq = σ ∧ c.item ≠ none

/-- The edit is with its call, bound, with a callback, clean, or its event was evicted. -/
def Settled (s : Kafka) (σ : Int) (item : DirtyItem) : Prop :=
  OfflineCall s.calls σ ∨ s.acks σ = some ⟨item.key, item.editSeq⟩ ∨
    ⟨σ, .acked item.key item.editSeq⟩ ∈ s.reports ∨ s.snapshot.Clean item ∨ σ ∈ s.evicted

/-- The bindings are as they should be. -/
structure AckOk (s : Kafka) : Prop where
  settled : ∀ p ∈ s.offline, s.Settled p.1 p.2
  delivered_bound : ∀ σ ∈ s.delivered, ¬ OfflineCall s.calls σ
  delivered_kept : ∀ p ∈ s.offline, p.1 ∈ s.delivered → p.1 ∉ s.evicted
  forgets : ∀ c ∈ s.calls, ∀ old persist, c.stage = .buffered (some old) persist → old ∈ s.evicted
  calls_offline : ∀ c ∈ s.calls, ∀ item, c.item = some item → (c.event.seq, item) ∈ s.offline
  once : ∀ p ∈ s.offline, ∀ q ∈ s.offline, p.1 = q.1 → p = q
  copied : ∀ p ∈ s.offline, p.2 ∈ s.snapshot.copied
  behind : s.snapshot.CopiesBehind
  reports_delivered : ∀ r ∈ s.reports, r.stage ≠ .failed → r.seq ∈ s.delivered
  confirmed_free : ∀ σ ∈ s.confirmed, σ ∈ s.delivered ∧ s.acks σ = none
  acked_free : ∀ r ∈ s.reports, ∀ key n, r.stage = .acked key n → s.acks r.seq = none

/-- What the bindings are about, other than the calls and the callbacks. -/
structure SameAcks (s t : Kafka) : Prop where
  offline : t.offline = s.offline
  evicted : t.evicted = s.evicted
  delivered : t.delivered = s.delivered
  acks : t.acks = s.acks
  snapshot : t.snapshot = s.snapshot
  confirmed : t.confirmed = s.confirmed

/-- Calls and callbacks go on without touching a binding. -/
theorem AckOk.quiet (h : AckOk s) (hsame : SameAcks s t)
    (hcalls : ∀ σ, OfflineCall t.calls σ ↔ OfflineCall s.calls σ)
    (hforgets : ∀ c ∈ t.calls, ∀ old persist, c.stage = .buffered (some old) persist →
      old ∈ s.evicted)
    (hitems : ∀ c ∈ t.calls, ∀ item, c.item = some item → (c.event.seq, item) ∈ s.offline)
    (hacked : ∀ r ∈ s.reports, ∀ key n, r.stage = .acked key n → r ∈ t.reports)
    (hreports : ∀ r ∈ t.reports, r ∈ s.reports ∨
      (r.stage ≠ .failed → r.seq ∈ s.delivered) ∧ ∀ key n, r.stage ≠ .acked key n) : AckOk t := by
  obtain ⟨hoff, hev, hdel, hacks, hsnap, hconf⟩ := hsame
  refine ⟨?_, ?_, ?_, ?_, ?_, ?_, ?_, ?_, ?_, ?_, ?_⟩
  · intro p hp
    rw [hoff] at hp
    unfold Settled
    rw [hcalls, hacks, hsnap, hev]
    rcases h.settled p hp with hc | hb | hr | hrest
    · exact Or.inl hc
    · exact Or.inr (Or.inl hb)
    · exact Or.inr (Or.inr (Or.inl (hacked _ hr _ _ rfl)))
    · exact Or.inr (Or.inr (Or.inr hrest))
  · intro σ hσ
    rw [hdel] at hσ
    rw [hcalls]
    exact h.delivered_bound σ hσ
  · rw [hoff, hdel, hev]
    exact h.delivered_kept
  · rw [hev]
    exact hforgets
  · rw [hoff]
    exact hitems
  · rw [hoff]
    exact h.once
  · rw [hoff, hsnap]
    exact h.copied
  · rw [hsnap]
    exact h.behind
  · intro r hr hst
    rw [hdel]
    rcases hreports r hr with hr | hr
    · exact h.reports_delivered r hr hst
    · exact hr.1 hst
  · rw [hconf, hdel, hacks]
    exact h.confirmed_free
  · intro r hr key n hst
    rw [hacks]
    rcases hreports r hr with hr | hr
    · exact h.acked_free r hr key n hst
    · exact absurd hst (hr.2 key n)

/-- The calls stay as they are, and the callbacks too. -/
theorem AckOk.idle (h : AckOk s) (hsame : SameAcks s t) (hcalls : t.calls = s.calls)
    (hreports : t.reports = s.reports) : AckOk t := by
  refine h.quiet hsame (fun σ => by rw [hcalls]) ?_ ?_ ?_ ?_
  · rw [hcalls]
    exact h.forgets
  · rw [hcalls]
    exact h.calls_offline
  · rw [hreports]
    exact fun r hr _ _ _ => hr
  · rw [hreports]
    exact fun r hr => Or.inl hr

theorem offlineCall_set {calls : List ProduceCall} {i : Nat} {c : ProduceCall}
    {stage : ProduceStage} (hc : calls[i]? = some c) :
    OfflineCall (calls.set i { c with stage := stage }) σ ↔ OfflineCall calls σ := by
  refine ⟨?_, ?_⟩
  · intro h
    obtain ⟨c', hc', hrest⟩ := h
    rcases of_mem_set hc hc' with rfl | hc'
    · exact ⟨c, List.mem_of_getElem? hc, hrest⟩
    · exact ⟨c', hc', hrest⟩
  · intro h
    obtain ⟨c', hc', hrest⟩ := h
    rcases mem_set_of_mem (b := { c with stage := stage }) hc hc' with rfl | hmem
    · exact ⟨_, self_mem_set hc, hrest⟩
    · exact ⟨c', hmem, hrest⟩

/-- The item of a call is not changed by the stage it is at. -/
theorem AckOk.items_set (h : AckOk s) {i : Nat} {c : ProduceCall} {stage : ProduceStage}
    (hc : s.calls[i]? = some c) :
    ∀ c' ∈ s.calls.set i { c with stage := stage }, ∀ item, c'.item = some item →
      (c'.event.seq, item) ∈ s.offline := by
  intro c' hc' item hitem
  rcases of_mem_set hc hc' with rfl | hc'
  · exact h.calls_offline c (List.mem_of_getElem? hc) item hitem
  · exact h.calls_offline c' hc' item hitem

/-- A call goes on to a stage that has nothing to forget. -/
theorem AckOk.setCall (h : AckOk s) {i : Nat} {c : ProduceCall} {stage : ProduceStage}
    (hc : s.calls[i]? = some c) (hcalls : t.calls = s.calls.set i { c with stage := stage })
    (hstage : ∀ old persist, stage ≠ .buffered (some old) persist) (hsame : SameAcks s t)
    (hreports : t.reports = s.reports) : AckOk t := by
  refine h.quiet hsame ?_ ?_ ?_ ?_ ?_
  · intro σ
    rw [hcalls]
    exact offlineCall_set hc
  · intro c' hc' old persist hst
    rw [hcalls] at hc'
    rcases of_mem_set hc hc' with rfl | hc'
    · exact absurd hst (hstage old persist)
    · exact h.forgets c' hc' old persist hst
  · rw [hcalls]
    exact h.items_set hc
  · rw [hreports]
    exact fun r hr _ _ _ => hr
  · rw [hreports]
    exact fun r hr => Or.inl hr

/-! ### Calls -/

/-- An event goes into the buffer, and none that was delivered is evicted for it. -/
theorem AckOk.numbered (h : AckOk s) {i : Nat} {c : ProduceCall} (hc : s.calls[i]? = some c)
    {persist : Bool}
    (hevict : ∀ old, (s.buffer c.event).1 = some old → ∀ p ∈ s.offline, p.1 = old.seq →
      old.seq ∉ s.delivered) :
    AckOk ((s.buffer c.event).2.setCall i c
      (.buffered ((s.buffer c.event).1.map (·.seq)) persist)) := by
  rcases buffer_cases s c.event with ⟨hbuf, -⟩ | ⟨k, old, -, hbuf⟩
  · rw [hbuf]
    exact h.setCall hc rfl (by simp) ⟨rfl, rfl, rfl, rfl, rfl, rfl⟩ rfl
  · rw [hbuf] at hevict ⊢
    have hold := hevict old rfl
    refine ⟨?_, ?_, ?_, ?_, ?_, h.once, h.copied, h.behind, h.reports_delivered, h.confirmed_free,
      h.acked_free⟩
    · intro p hp
      rcases h.settled p hp with hcall | hb | hr | hclean | hev
      · exact Or.inl ((offlineCall_set hc).mpr hcall)
      · exact Or.inr (Or.inl hb)
      · exact Or.inr (Or.inr (Or.inl hr))
      · exact Or.inr (Or.inr (Or.inr (Or.inl hclean)))
      · exact Or.inr (Or.inr (Or.inr (Or.inr (List.mem_append_left _ hev))))
    · intro σ hσ hcall
      exact h.delivered_bound σ hσ ((offlineCall_set hc).mp hcall)
    · intro p hp hdel hev
      rcases List.mem_append.mp hev with hev | hev
      · exact h.delivered_kept p hp hdel hev
      · have heq := List.mem_singleton.mp hev
        exact hold p hp heq (heq ▸ hdel)
    · intro c' hc' old' persist' hst
      rcases of_mem_set hc hc' with rfl | hc'
      · simp only [Option.map_some, ProduceStage.buffered.injEq, Option.some.injEq] at hst
        rw [← hst.1]
        exact List.mem_append_right _ (List.mem_singleton.mpr rfl)
      · exact List.mem_append_left _ (h.forgets c' hc' old' persist' hst)
    · exact h.items_set hc

/-- The binding of an evicted event goes. -/
theorem AckOk.forget (h : AckOk s) {i : Nat} {c : ProduceCall} {old : Int} {persist : Bool}
    (hc : s.calls[i]? = some c) (hstage : c.stage = .buffered (some old) persist) :
    AckOk ((s.forgetOfflineAck old).setCall i c (.forgot persist)) := by
  have hev := h.forgets c (List.mem_of_getElem? hc) old persist hstage
  have hnone : ∀ σ, s.acks σ = none → Function.update s.acks old none σ = none := by
    intro σ hσ
    by_cases heq : σ = old
    · rw [heq, Function.update_self]
    · rw [Function.update_of_ne heq, hσ]
  refine ⟨?_, ?_, h.delivered_kept, ?_, h.items_set hc, h.once, h.copied, h.behind,
    h.reports_delivered, ?_, ?_⟩
  · intro p hp
    by_cases heq : p.1 = old
    · exact Or.inr (Or.inr (Or.inr (Or.inr (heq.symm ▸ hev))))
    · rcases h.settled p hp with hcall | hb | hrest
      · exact Or.inl ((offlineCall_set hc).mpr hcall)
      · refine Or.inr (Or.inl ?_)
        show Function.update s.acks old none p.1 = _
        rw [Function.update_of_ne heq, hb]
      · exact Or.inr (Or.inr hrest)
  · intro σ hσ hcall
    exact h.delivered_bound σ hσ ((offlineCall_set hc).mp hcall)
  · intro c' hc' old' persist' hst
    rcases of_mem_set hc hc' with rfl | hc'
    · cases hst
    · exact h.forgets c' hc' old' persist' hst
  · intro σ hσ
    obtain ⟨hdel, hfree⟩ := h.confirmed_free σ hσ
    exact ⟨hdel, hnone σ hfree⟩
  · intro r hr key n hst
    exact hnone r.seq (h.acked_free r hr key n hst)

theorem offlineCall_eraseIdx {calls : List ProduceCall} {i : Nat}
    (h : OfflineCall (calls.eraseIdx i) σ) : OfflineCall calls σ := by
  obtain ⟨c, hc, hrest⟩ := h
  exact ⟨c, List.mem_of_mem_eraseIdx hc, hrest⟩

/-- A call that reports no offline edit returns. -/
theorem AckOk.returning_none (h : AckOk s) {i : Nat} {c : ProduceCall}
    (hc : s.calls[i]? = some c) (hitem : c.item = none) (returned : List Int) :
    AckOk { s with calls := s.calls.eraseIdx i, returned := returned } := by
  refine h.quiet ⟨rfl, rfl, rfl, rfl, rfl, rfl⟩ ?_ ?_ ?_ (fun r hr _ _ _ => hr)
    fun r hr => Or.inl hr
  · intro σ
    refine ⟨offlineCall_eraseIdx, ?_⟩
    intro hcall
    obtain ⟨c', hc', hseq, hne⟩ := hcall
    rcases mem_eraseIdx_of_mem hc hc' with rfl | hmem
    · exact absurd hitem hne
    · exact ⟨c', hmem, hseq, hne⟩
  · exact fun c' hc' => h.forgets c' (List.mem_of_mem_eraseIdx hc')
  · exact fun c' hc' => h.calls_offline c' (List.mem_of_mem_eraseIdx hc')

/-- A call that reports an offline edit returns, and the edit is bound. -/
theorem AckOk.returning_some (h : AckOk s) {i : Nat} {c : ProduceCall} {item : DirtyItem}
    (hc : s.calls[i]? = some c) (hitem : c.item = some item) (returned : List Int) :
    AckOk (registerOfflineAck { s with calls := s.calls.eraseIdx i, returned := returned }
      c.event.seq item) := by
  have hmem := List.mem_of_getElem? hc
  have hown := h.calls_offline c hmem item hitem
  have hcall : OfflineCall s.calls c.event.seq :=
    ⟨c, hmem, rfl, by rw [hitem]; exact Option.some_ne_none item⟩
  -- nothing of this sequence was delivered yet
  have hother : ∀ σ ∈ s.delivered, s.acks σ = none →
      Function.update s.acks c.event.seq (some ⟨item.key, item.editSeq⟩) σ = none := by
    intro σ hσ hfree
    rw [Function.update_of_ne, hfree]
    intro heq
    exact h.delivered_bound σ hσ (heq ▸ hcall)
  refine ⟨?_, ?_, h.delivered_kept, ?_, ?_, h.once, h.copied, h.behind, h.reports_delivered, ?_, ?_⟩
  · intro p hp
    by_cases heq : p.1 = c.event.seq
    · have hp' : p = (c.event.seq, item) := h.once p hp _ hown heq
      refine Or.inr (Or.inl ?_)
      show Function.update s.acks c.event.seq _ p.1 = _
      rw [hp', Function.update_self]
    · rcases h.settled p hp with hcall | hb | hrest
      · obtain ⟨c', hc', hseq, hne⟩ := hcall
        rcases mem_eraseIdx_of_mem hc hc' with rfl | hmem'
        · exact absurd hseq.symm heq
        · exact Or.inl ⟨c', hmem', hseq, hne⟩
      · refine Or.inr (Or.inl ?_)
        show Function.update s.acks c.event.seq _ p.1 = _
        rw [Function.update_of_ne heq, hb]
      · exact Or.inr (Or.inr hrest)
  · intro σ hσ hcall'
    exact h.delivered_bound σ hσ (offlineCall_eraseIdx hcall')
  · exact fun c' hc' => h.forgets c' (List.mem_of_mem_eraseIdx hc')
  · exact fun c' hc' => h.calls_offline c' (List.mem_of_mem_eraseIdx hc')
  · intro σ hσ
    obtain ⟨hdel, hfree⟩ := h.confirmed_free σ hσ
    exact ⟨hdel, hother σ hdel hfree⟩
  · intro r hr key n hst
    refine hother r.seq (h.reports_delivered r hr ?_) (h.acked_free r hr key n hst)
    rw [hst]
    simp

/-- A call of which the next step evicts no offline event that was delivered. -/
def EvictsNone (s : Kafka) (i : Nat) : Prop :=
  ∀ c, s.calls[i]? = some c → c.stage = .numbered → ∀ old, (s.buffer c.event).1 = some old →
    ∀ p ∈ s.offline, p.1 = old.seq → old.seq ∉ s.delivered

theorem AckOk.callStep (h : AckOk s) {i : Nat} (hi : EvictsNone s i) (ok : Bool) :
    AckOk (s.callStep i ok) := by
  unfold Kafka.callStep
  cases hc : s.calls[i]? with
  | none => exact h
  | some c =>
      have hquiet : ∀ t : Kafka, ∀ stage : ProduceStage,
          t.calls = s.calls.set i { c with stage := stage } →
          (∀ old persist, stage ≠ .buffered (some old) persist) → SameAcks s t →
          t.reports = s.reports → AckOk t := by
        intro t stage hcalls hstage hsame hreports
        exact h.setCall hc hcalls hstage hsame hreports
      dsimp only
      cases hst : c.stage with
      | numbered => exact h.numbered hc (hi c hc hst)
      | buffered old persist =>
          cases old with
          | none => exact hquiet _ (.forgot persist) rfl (by simp) ⟨rfl, rfl, rfl, rfl, rfl, rfl⟩ rfl
          | some old => exact h.forget hc hst
      | forgot persist =>
          cases persist with
          | false => exact hquiet _ .persisted rfl (by simp) ⟨rfl, rfl, rfl, rfl, rfl, rfl⟩ rfl
          | true =>
              cases ok with
              | false => exact hquiet _ .persisted rfl (by simp) ⟨rfl, rfl, rfl, rfl, rfl, rfl⟩ rfl
              | true => exact hquiet _ .persisted rfl (by simp) ⟨rfl, rfl, rfl, rfl, rfl, rfl⟩ rfl
      | persisted =>
          cases ok with
          | false => exact hquiet _ .refused rfl (by simp) ⟨rfl, rfl, rfl, rfl, rfl, rfl⟩ rfl
          | true => exact hquiet _ .returning rfl (by simp) ⟨rfl, rfl, rfl, rfl, rfl, rfl⟩ rfl
      | refused => exact hquiet _ .returning rfl (by simp) ⟨rfl, rfl, rfl, rfl, rfl, rfl⟩ rfl
      | returning =>
          cases hitem : c.item with
          | none => exact h.returning_none hc hitem _
          | some item => exact h.returning_some hc hitem _

/-- A call begins, with a sequence that nobody has. -/
theorem AckOk.produce (h : AckOk s) (hbelow : Below s) (payload : List (BitVec 8)) (durable : Bool)
    {item : Option DirtyItem} (hitem : ∀ i, item = some i → i ∈ s.snapshot.copied) :
    AckOk (s.produce payload durable item) := by
  unfold Kafka.produce
  split
  · exact h
  · have hnew : ∀ p ∈ s.offline ++ (item.map fun i => (s.seq + 1, i)).toList,
        p ∈ s.offline ∨ ∃ i, item = some i ∧ p = (s.seq + 1, i) := by
      intro p hp
      rcases List.mem_append.mp hp with hp | hp
      · exact Or.inl hp
      · cases item with
        | none => cases hp
        | some i => exact Or.inr ⟨i, rfl, List.mem_singleton.mp hp⟩
    have hcalls : ∀ σ, OfflineCall (s.calls ++
        [⟨⟨s.seq + 1, payload, false, durable⟩, item, .numbered⟩]) σ →
        OfflineCall s.calls σ ∨ σ = s.seq + 1 := by
      intro σ hσ
      obtain ⟨c, hc, hseq, hne⟩ := hσ
      rcases List.mem_append.mp hc with hc | hc
      · exact Or.inl ⟨c, hc, hseq, hne⟩
      · rw [List.mem_singleton.mp hc] at hseq
        exact Or.inr hseq.symm
    refine ⟨?_, ?_, ?_, ?_, ?_, ?_, ?_, h.behind, h.reports_delivered, h.confirmed_free,
      h.acked_free⟩
    · intro p hp
      rcases hnew p hp with hp | ⟨i, rfl, rfl⟩
      · rcases h.settled p hp with hcall | hrest
        · obtain ⟨c, hc, hcall⟩ := hcall
          exact Or.inl ⟨c, List.mem_append_left _ hc, hcall⟩
        · exact Or.inr hrest
      · exact Or.inl ⟨_, List.mem_append_right _ (List.mem_singleton.mpr rfl), rfl, by simp⟩
    · intro σ hσ hcall
      rcases hcalls σ hcall with hcall | heq
      · exact h.delivered_bound σ hσ hcall
      · have := hbelow.delivered σ hσ
        omega
    · intro p hp hdel
      rcases hnew p hp with hp | ⟨i, rfl, rfl⟩
      · exact h.delivered_kept p hp hdel
      · have := hbelow.delivered _ hdel
        dsimp only at this
        omega
    · intro c hc old persist hst
      rcases List.mem_append.mp hc with hc | hc
      · exact h.forgets c hc old persist hst
      · rw [List.mem_singleton.mp hc] at hst
        cases hst
    · intro c hc i hi
      rcases List.mem_append.mp hc with hc | hc
      · exact List.mem_append_left _ (h.calls_offline c hc i hi)
      · rw [List.mem_singleton.mp hc] at hi ⊢
        dsimp only at hi
        rw [hi]
        exact List.mem_append_right _ (List.mem_singleton.mpr rfl)
    · intro p hp q hq heq
      rcases hnew p hp with hp | ⟨i, hi, rfl⟩
      · rcases hnew q hq with hq | ⟨j, -, rfl⟩
        · exact h.once p hp q hq heq
        · have := hbelow.offline p hp
          dsimp only at heq
          omega
      · rcases hnew q hq with hq | ⟨j, hj, rfl⟩
        · have := hbelow.offline q hq
          dsimp only at heq
          omega
        · rw [Option.some.inj (hi.symm.trans hj)]
    · intro p hp
      rcases hnew p hp with hp | ⟨i, hi, rfl⟩
      · exact h.copied p hp
      · exact hitem i hi

/-! ### Callbacks -/

/-- The event is no offline edit, or one that is bound and was not evicted. -/
def MayConfirm (s : Kafka) (σ : Int) : Prop :=
  ¬ OfflineCall s.calls σ ∧ ∀ p ∈ s.offline, p.1 = σ → σ ∉ s.evicted

theorem AckOk.report (h : AckOk s) {seq : Int} {err : Bool}
    (hmay : err = false → MayConfirm s seq) : AckOk (s.report seq err) := by
  unfold Kafka.report
  by_cases hin : seq ∈ s.inFlight
  · rw [if_pos hin]
    have hsub : s.delivered ⊆ if err then s.delivered else s.delivered ++ [seq] := by
      split
      · exact List.Subset.refl _
      · exact List.subset_append_left _ _
    have hnew : ∀ σ ∈ (if err then s.delivered else s.delivered ++ [seq]),
        σ ∈ s.delivered ∨ err = false ∧ σ = seq := by
      intro σ hσ
      cases err with
      | true => exact Or.inl hσ
      | false =>
          rcases List.mem_append.mp hσ with hσ | hσ
          · exact Or.inl hσ
          · exact Or.inr ⟨rfl, List.mem_singleton.mp hσ⟩
    have hkeep : ∀ r ∈ s.reports, r ∈
        (if 0 < seq then s.reports ++ [⟨seq, if err then .failed else .delivered⟩] else s.reports) := by
      intro r hr
      split
      · exact List.mem_append_left _ hr
      · exact hr
    have hrep : ∀ r ∈
        (if 0 < seq then s.reports ++ [⟨seq, if err then .failed else .delivered⟩] else s.reports),
        r ∈ s.reports ∨ r = ⟨seq, if err then .failed else .delivered⟩ := by
      intro r hr
      split at hr
      · rcases List.mem_append.mp hr with hr | hr
        · exact Or.inl hr
        · exact Or.inr (List.mem_singleton.mp hr)
      · exact Or.inl hr
    refine ⟨?_, ?_, ?_, h.forgets, h.calls_offline, h.once, h.copied, h.behind, ?_, ?_, ?_⟩
    · intro p hp
      rcases h.settled p hp with hcall | hb | hr | hrest
      · exact Or.inl hcall
      · exact Or.inr (Or.inl hb)
      · exact Or.inr (Or.inr (Or.inl (hkeep _ hr)))
      · exact Or.inr (Or.inr (Or.inr hrest))
    · intro σ hσ
      rcases hnew σ hσ with hσ | ⟨herr, rfl⟩
      · exact h.delivered_bound σ hσ
      · exact (hmay herr).1
    · intro p hp hdel
      rcases hnew p.1 hdel with hdel | ⟨herr, heq⟩
      · exact h.delivered_kept p hp hdel
      · rw [heq]
        exact (hmay herr).2 p hp heq
    · intro r hr hst
      rcases hrep r hr with hr | rfl
      · exact hsub (h.reports_delivered r hr hst)
      · cases err with
        | true => exact absurd rfl hst
        | false => exact List.mem_append_right _ (List.mem_singleton.mpr rfl)
    · intro σ hσ
      obtain ⟨hdel, hfree⟩ := h.confirmed_free σ hσ
      exact ⟨hsub hdel, hfree⟩
    · intro r hr key n hst
      rcases hrep r hr with hr | rfl
      · exact h.acked_free r hr key n hst
      · cases err with
        | true => cases hst
        | false => cases hst
  · rw [if_neg hin]
    exact h

/-- A callback that has no binding goes on, and takes none. -/
theorem AckOk.setReport (h : AckOk s) {i : Nat} {r : DrCall} {stage : DrStage}
    (hr : s.reports[i]? = some r) (hdel : r.stage ≠ .failed)
    (hfree : ∀ key n, r.stage ≠ .acked key n) (hfree' : ∀ key n, stage ≠ .acked key n)
    (hreports : t.reports = s.reports.set i ⟨r.seq, stage⟩) (hsame : SameAcks s t)
    (hcalls : t.calls = s.calls) : AckOk t := by
  refine h.quiet hsame (fun σ => by rw [hcalls]) ?_ ?_ ?_ ?_
  · rw [hcalls]
    exact h.forgets
  · rw [hcalls]
    exact h.calls_offline
  · intro r' hr' key n hst
    rw [hreports]
    rcases mem_set_of_mem (b := ⟨r.seq, stage⟩) hr hr' with rfl | hmem
    · exact absurd hst (hfree key n)
    · exact hmem
  · intro r' hr'
    rw [hreports] at hr'
    rcases of_mem_set hr hr' with rfl | hr'
    · exact Or.inr ⟨fun _ => h.reports_delivered r (List.mem_of_getElem? hr) hdel, hfree'⟩
    · exact Or.inl hr'

/-- A callback ends that took no binding. -/
theorem AckOk.dropReport (h : AckOk s) {i : Nat} {r : DrCall} (hr : s.reports[i]? = some r)
    (hfree : ∀ key n, r.stage ≠ .acked key n) (hreports : t.reports = s.reports.eraseIdx i)
    (hsame : SameAcks s t) (hcalls : t.calls = s.calls) : AckOk t := by
  refine h.quiet hsame (fun σ => by rw [hcalls]) ?_ ?_ ?_ ?_
  · rw [hcalls]
    exact h.forgets
  · rw [hcalls]
    exact h.calls_offline
  · intro r' hr' key n hst
    rw [hreports]
    rcases mem_eraseIdx_of_mem hr hr' with rfl | hmem
    · exact absurd hst (hfree key n)
    · exact hmem
  · intro r' hr'
    rw [hreports] at hr'
    exact Or.inl (List.mem_of_mem_eraseIdx hr')

/-- What was confirmed is told, where its binding is gone. -/
theorem AckOk.confirm (h : AckOk s) {seq : Int} (hdel : seq ∈ s.delivered)
    (hfree : s.acks seq = none) : AckOk { s with confirmed := s.confirmed ++ [seq] } := by
  refine ⟨h.settled, h.delivered_bound, h.delivered_kept, h.forgets, h.calls_offline, h.once,
    h.copied, h.behind, h.reports_delivered, ?_, h.acked_free⟩
  intro σ hσ
  rcases List.mem_append.mp hσ with hσ | hσ
  · exact h.confirmed_free σ hσ
  · rw [List.mem_singleton.mp hσ]
    exact ⟨hdel, hfree⟩

/-- The callback takes the binding. -/
theorem AckOk.takeAck (h : AckOk s) {i : Nat} {seq : Int} {ack : OfflineEditAck}
    (hr : s.reports[i]? = some ⟨seq, .persisted⟩) (hack : s.acks seq = some ack) :
    AckOk ((s.forgetOfflineAck seq).setReport i seq (.acked ack.key ack.editSeq)) := by
  have hdel : seq ∈ s.delivered := h.reports_delivered _ (List.mem_of_getElem? hr) (by simp)
  have hnone : ∀ σ, s.acks σ = none → Function.update s.acks seq none σ = none := by
    intro σ hσ
    by_cases heq : σ = seq
    · rw [heq, Function.update_self]
    · rw [Function.update_of_ne heq, hσ]
  refine ⟨?_, h.delivered_bound, h.delivered_kept, h.forgets, h.calls_offline, h.once, h.copied,
    h.behind, ?_, ?_, ?_⟩
  · intro p hp
    rcases h.settled p hp with hcall | hb | hrep | hrest
    · exact Or.inl hcall
    · by_cases heq : p.1 = seq
      · refine Or.inr (Or.inr (Or.inl ?_))
        rw [heq, hack] at hb
        rw [heq, Option.some.inj hb]
        exact self_mem_set hr
      · refine Or.inr (Or.inl ?_)
        show Function.update s.acks seq none p.1 = _
        rw [Function.update_of_ne heq, hb]
    · rcases mem_set_of_mem (b := ⟨seq, .acked ack.key ack.editSeq⟩) hr hrep with heq | hmem
      · simp at heq
      · exact Or.inr (Or.inr (Or.inl hmem))
    · exact Or.inr (Or.inr (Or.inr hrest))
  · intro r' hr' hst
    rcases of_mem_set hr hr' with rfl | hr'
    · exact hdel
    · exact h.reports_delivered r' hr' hst
  · intro σ hσ
    obtain ⟨hdel', hfree⟩ := h.confirmed_free σ hσ
    exact ⟨hdel', hnone σ hfree⟩
  · intro r' hr' key n hst
    rcases of_mem_set hr hr' with rfl | hr'
    · exact Function.update_self _ _ _
    · exact hnone r'.seq (h.acked_free r' hr' key n hst)

/-- The entry is cleared, and the callback is over. -/
theorem AckOk.clear (h : AckOk s) {i : Nat} {seq : Int} {key : SnapshotKey} {n : Nat}
    (hr : s.reports[i]? = some ⟨seq, .acked key n⟩) :
    AckOk { s with snapshot := s.snapshot.clearDirty key n, reports := s.reports.eraseIdx i } := by
  refine ⟨?_, h.delivered_bound, h.delivered_kept, h.forgets, h.calls_offline, h.once, ?_,
    h.behind.clearDirty key n, ?_, h.confirmed_free, ?_⟩
  · intro p hp
    rcases h.settled p hp with hcall | hb | hrep | hclean | hev
    · exact Or.inl hcall
    · exact Or.inr (Or.inl hb)
    · rcases mem_eraseIdx_of_mem hr hrep with heq | hmem
      · refine Or.inr (Or.inr (Or.inr (Or.inl ?_)))
        simp only [DrCall.mk.injEq, DrStage.acked.injEq] at heq
        obtain ⟨-, rfl, rfl⟩ := heq
        exact s.snapshot.clean_clearDirty p.2
      · exact Or.inr (Or.inr (Or.inl hmem))
    · exact Or.inr (Or.inr (Or.inr (Or.inl (hclean.clearDirty key n))))
    · exact Or.inr (Or.inr (Or.inr (Or.inr hev)))
  · intro p hp
    show p.2 ∈ (s.snapshot.clearDirty key n).copied
    rw [ConfigSnapshot.clearDirty_copied]
    exact h.copied p hp
  · exact fun r' hr' => h.reports_delivered r' (List.mem_of_mem_eraseIdx hr')
  · exact fun r' hr' => h.acked_free r' (List.mem_of_mem_eraseIdx hr')

theorem AckOk.reportStep (h : AckOk s) (i : Nat) (ok : Bool) : AckOk (s.reportStep i ok) := by
  unfold Kafka.reportStep
  cases hr : s.reports[i]? with
  | none => exact h
  | some r =>
      have hmem := List.mem_of_getElem? hr
      obtain ⟨seq, stage⟩ := r
      cases stage with
      | failed => exact h.dropReport hr (by simp) rfl ⟨rfl, rfl, rfl, rfl, rfl, rfl⟩ rfl
      | delivered =>
          have hset : ∀ t : Kafka, ∀ durable : Bool,
              t.reports = s.reports.set i ⟨seq, .taken durable⟩ → SameAcks s t →
              t.calls = s.calls → AckOk t := fun t durable hreports hsame hcalls =>
            h.setReport hr (by simp) (by simp) (by simp) hreports hsame hcalls
          unfold Kafka.takeDelivered
          dsimp only
          cases s.pending.find? fun e => e.seq = seq with
          | none => exact hset _ false rfl ⟨rfl, rfl, rfl, rfl, rfl, rfl⟩ rfl
          | some e => exact hset _ e.persistent rfl ⟨rfl, rfl, rfl, rfl, rfl, rfl⟩ rfl
      | taken persist =>
          have hset : ∀ t : Kafka, t.reports = s.reports.set i ⟨seq, .persisted⟩ → SameAcks s t →
              t.calls = s.calls → AckOk t := fun t hreports hsame hcalls =>
            h.setReport hr (by simp) (by simp) (by simp) hreports hsame hcalls
          cases persist with
          | false => exact hset _ rfl ⟨rfl, rfl, rfl, rfl, rfl, rfl⟩ rfl
          | true =>
              cases ok with
              | false => exact hset _ rfl ⟨rfl, rfl, rfl, rfl, rfl, rfl⟩ rfl
              | true => exact hset _ rfl ⟨rfl, rfl, rfl, rfl, rfl, rfl⟩ rfl
      | persisted =>
          dsimp only
          cases hack : s.acks seq with
          | none =>
              have hdrop : AckOk { s with reports := s.reports.eraseIdx i } :=
                h.dropReport hr (by simp) rfl ⟨rfl, rfl, rfl, rfl, rfl, rfl⟩ rfl
              exact hdrop.confirm (h.reports_delivered _ hmem (by simp)) hack
          | some ack => exact h.takeAck hr hack
      | acked key n =>
          exact (h.clear hr).confirm (h.reports_delivered _ hmem (by simp))
            (h.acked_free _ hmem key n rfl)

/-! ### Whole runs -/

theorem AckOk.snapshotStep (h : AckOk s) (op : SnapshotOp) :
    AckOk { s with snapshot := s.snapshot.step op } := by
  refine ⟨?_, h.delivered_bound, h.delivered_kept, h.forgets, h.calls_offline, h.once, ?_,
    h.behind.step op, h.reports_delivered, h.confirmed_free, h.acked_free⟩
  · intro p hp
    rcases h.settled p hp with hcall | hb | hr | hclean | hev
    · exact Or.inl hcall
    · exact Or.inr (Or.inl hb)
    · exact Or.inr (Or.inr (Or.inl hr))
    · obtain ⟨e, he, hle⟩ := h.behind p.2 (h.copied p hp)
      exact Or.inr (Or.inr (Or.inr (Or.inl (hclean.step he hle op))))
    · exact Or.inr (Or.inr (Or.inr (Or.inr hev)))
  · intro p hp
    rcases s.snapshot.step_copied op with hc | hc
    · show p.2 ∈ (s.snapshot.step op).copied
      rw [hc]
      exact h.copied p hp
    · subst hc
      exact List.mem_append_left _ (h.copied p hp)

/-- The file is read first, and no offline event is confirmed unbound, or evicted and confirmed. -/
@[mk_iff]
structure AcksInTime (s : Kafka) (l : KafkaLabel) : Prop where
  loaded : LoadedFirst s l
  confirms : ∀ seq, l = .report seq false → MayConfirm s seq
  evicts : ∀ i ok, l = .call i ok → EvictsNone s i

theorem AckOk.step (h : AckOk s) (hbelow : Below s) {l : KafkaLabel} (hl : AcksInTime s l) :
    AckOk (kafkaStep s l) := by
  cases l with
  | init =>
      unfold kafkaStep initStep
      dsimp only
      cases s.init with
      | off => exact h.idle ⟨rfl, rfl, rfl, rfl, rfl, rfl⟩ rfl rfl
      | ready => exact h.idle ⟨rfl, rfl, rfl, rfl, rfl, rfl⟩ rfl rfl
      | loaded => exact h.idle ⟨rfl, rfl, rfl, rfl, rfl, rfl⟩ rfl rfl
      | replaying =>
          dsimp only
          split
          · exact h.idle ⟨rfl, rfl, rfl, rfl, rfl, rfl⟩ rfl rfl
          · exact h
      | running => exact h
  | replay ok =>
      unfold kafkaStep replayStep
      dsimp only
      rcases handOver_cases s ok s.replay with ⟨flight, b, heq, -⟩ | ⟨seq, b, heq, -⟩
      · rw [heq]
        exact h.idle ⟨rfl, rfl, rfl, rfl, rfl, rfl⟩ rfl rfl
      · rw [heq]
        exact h.idle ⟨rfl, rfl, rfl, rfl, rfl, rfl⟩ rfl rfl
  | produce payload durable => exact h.produce hbelow payload durable (by simp)
  | offline n payload =>
      unfold kafkaStep
      dsimp only
      cases hn : s.snapshot.copied[n]? with
      | none => exact h
      | some item =>
          refine h.produce hbelow payload false ?_
          intro i hi
          rw [← Option.some.inj hi]
          exact List.mem_of_getElem? hn
  | call i ok => exact h.callStep (hl.evicts i ok rfl) ok
  | report seq err => exact h.report fun herr => hl.confirms seq (by rw [herr])
  | callback i ok => exact h.reportStep i ok
  | retryBegin =>
      unfold kafkaStep retryBegin
      dsimp only
      split
      · exact h.idle ⟨rfl, rfl, rfl, rfl, rfl, rfl⟩ rfl rfl
      · exact h
  | retry ok =>
      unfold kafkaStep retryStep
      dsimp only
      rcases handOver_cases s ok s.retry with ⟨flight, b, heq, -⟩ | ⟨seq, b, heq, -⟩
      · rw [heq]
        exact h.idle ⟨rfl, rfl, rfl, rfl, rfl, rfl⟩ rfl rfl
      · rw [heq]
        exact h.idle ⟨rfl, rfl, rfl, rfl, rfl, rfl⟩ rfl rfl
  | snapshot op => exact h.snapshotStep op

/-- The bindings, the sequences, and the producer before the file has been read. -/
structure AcksInvariant (s : Kafka) : Prop where
  acks : AckOk s
  below : Below s
  blank : s.init = .off ∨ s.init = .ready → Blank s

theorem AcksInvariant.step (h : AcksInvariant s) {l : KafkaLabel} (hl : AcksInTime s l) :
    AcksInvariant (kafkaStep s l) :=
  ⟨h.acks.step h.below hl, h.below.step h.blank l, blank_kafkaStep h.blank hl.loaded⟩

theorem AcksInvariant.boot (file : JsonText)
    (entries : AList (fun _ : SnapshotKey => SnapshotEntry)) :
    AcksInvariant (boot file (.loaded entries)) := by
  have hnone : ∀ {α : Type} {P : α → Prop}, ∀ a ∈ ([] : List α), P a :=
    fun a ha => absurd ha List.not_mem_nil
  exact ⟨⟨hnone, hnone, hnone, hnone, hnone, hnone, hnone, hnone, hnone, hnone, hnone⟩,
    ⟨hnone, hnone, hnone, hnone, hnone, hnone, hnone⟩,
    fun _ => ⟨rfl, rfl, rfl, rfl, rfl, rfl, rfl, rfl, rfl, rfl, rfl⟩⟩

/--
**A confirmed offline edit is clean.**  In every order of the threads in which the file is read
before the first call, and an offline event is confirmed only once it is bound and not if it is
evicted: when the broker has confirmed the event of an offline edit and no callback for it is under
way, there is no binding for its sequence, and the entry is clean unless it was edited since.
-/
theorem run_confirmed_clean {file : JsonText}
    {entries : AList (fun _ : SnapshotKey => SnapshotEntry)} {ls : List KafkaLabel} {s : Kafka}
    (h : Run kafkaStep AcksInTime (boot file (.loaded entries)) ls s) :
    ∀ p ∈ s.offline, p.1 ∈ s.confirmed → (∀ r ∈ s.reports, r.seq ≠ p.1) →
      s.acks p.1 = none ∧ ∀ e, s.snapshot.entries.lookup p.2.key = some e →
        e.editSeq = p.2.editSeq → e.dirty = false := by
  intro p hp hconf hreports
  have hs := (h.inv AcksInvariant (fun _ _ hs hl => hs.step hl) (.boot file entries)).acks
  obtain ⟨hdel, hfree⟩ := hs.confirmed_free p.1 hconf
  refine ⟨hfree, ?_⟩
  rcases hs.settled p hp with hcall | hb | hr | hclean | hev
  · exact absurd hcall (hs.delivered_bound p.1 hdel)
  · rw [hfree] at hb
    cases hb
  · exact absurd rfl (hreports _ hr)
  · exact hclean
  · exact absurd hev (hs.delivered_kept p hp hdel)

/-- The producer starts, and an edit is made and copied. -/
def editLabels : List KafkaLabel :=
  startLabels ++ [.snapshot (.offlineEdit (.hsi, []) (.doc (.obj [])) [] ⟨0, []⟩),
    .snapshot .copyDirty]

def edited : Kafka := editLabels.foldl kafkaStep (boot .empty (.loaded ∅))

theorem acksInTime_call (h : s.delivered = []) (i : Nat) (ok : Bool) : AcksInTime s (.call i ok) := by
  refine ⟨trivial, by simp, ?_⟩
  intro i' ok' _ c _ _ old _ p _ _
  rw [h]
  exact List.not_mem_nil

theorem acksInTime_callback (s : Kafka) (i : Nat) (ok : Bool) : AcksInTime s (.callback i ok) :=
  ⟨trivial, by simp, by simp⟩

/-- The call ends, and then the broker confirms. -/
def confirmedEdit : Kafka :=
  [.report 1 false, .callback 0 true, .callback 0 true, .callback 0 true, .callback 0 true].foldl
    kafkaStep (wholeCall.foldl kafkaStep (kafkaStep edited (.offline 0 [])))

theorem run_confirmed_clean_edit :
    (∃ item, confirmedEdit.offline = [(1, item)] ∧ confirmedEdit.confirmed = [1]) ∧
      ∀ p ∈ confirmedEdit.offline, p.1 ∈ confirmedEdit.confirmed →
        (∀ r ∈ confirmedEdit.reports, r.seq ≠ p.1) → confirmedEdit.acks p.1 = none ∧
        ∀ e, confirmedEdit.snapshot.entries.lookup p.2.key = some e →
          e.editSeq = p.2.editSeq → e.dirty = false := by
  refine ⟨⟨_, rfl, rfl⟩, ?_⟩
  have hedit : Run kafkaStep AcksInTime (boot .empty (.loaded ∅)) editLabels edited :=
    Run.of_labels _ editLabels fun s => by
      simp [editLabels, startLabels, acksInTime_iff, LoadedFirst]
  have hoffline := hedit.snoc (.offline 0 [])
    ⟨by show edited.init ≠ .ready; decide, by simp, by simp⟩
  have hcall := ((((hoffline.snoc (.call 0 true) (acksInTime_call rfl 0 true)).snoc (.call 0 true)
    (acksInTime_call rfl 0 true)).snoc (.call 0 true) (acksInTime_call rfl 0 true)).snoc
    (.call 0 true) (acksInTime_call rfl 0 true)).snoc (.call 0 true) (acksInTime_call rfl 0 true)
  have hreport := hcall.snoc (.report 1 false) (by
    refine ⟨trivial, ?_, by simp⟩
    intro seq _
    refine ⟨?_, fun p _ _ => List.not_mem_nil⟩
    intro hcall'
    obtain ⟨c, hc, -⟩ := hcall'
    exact absurd hc List.not_mem_nil)
  have hdone := (((hreport.snoc (.callback 0 true) (acksInTime_callback _ 0 true)).snoc
    (.callback 0 true) (acksInTime_callback _ 0 true)).snoc (.callback 0 true)
    (acksInTime_callback _ 0 true)).snoc (.callback 0 true) (acksInTime_callback _ 0 true)
  exact run_confirmed_clean hdone

/-- The broker answers before the call has bound its sequence. -/
def overtakenLabels : List KafkaLabel :=
  editLabels ++ [.offline 0 []] ++ List.replicate 4 (.call 0 true) ++ [.report 1 false] ++
    List.replicate 3 (.callback 0 true) ++ [.call 0 true]

/-- The event is confirmed and nobody is at work; the binding stays, and the entry is dirty. -/
theorem overtaken_binding_stays :
    ∃ ls s, Run kafkaStep (fun _ _ => True) (boot .empty (.loaded ∅)) ls s ∧ s.calls = [] ∧
      s.reports = [] ∧ ∃ p ∈ s.offline, p.1 ∈ s.confirmed ∧ s.acks p.1 ≠ none ∧
        ∃ e, s.snapshot.entries.lookup p.2.key = some e ∧ e.editSeq = p.2.editSeq ∧
          e.dirty = true :=
  ⟨overtakenLabels, _, Run.of_labels _ overtakenLabels fun _ _ _ => trivial, rfl, rfl, _,
    List.mem_singleton.mpr rfl, List.mem_singleton.mpr rfl, Option.some_ne_none _, _, rfl, rfl, rfl⟩

end Kafka

end FastRG
