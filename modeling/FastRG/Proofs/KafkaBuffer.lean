/-
The buffer of the Kafka producer.

The file gives back the events that were written to it.  The buffer is followed through every order
of the calls, the callbacks and the poller: a sequence is given out once and is in the buffer at most
once, an event leaves the buffer by a delivery or an eviction only, and whatever is in it is with
`librdkafka`, has the retry flag, or is in the hands of a thread that is about to see to one of the
two.  All of it rests on the file being read before the first call: `g_ready` is set earlier.
-/
import Mathlib.Data.List.Nodup
import Mathlib.Data.List.Perm.Basic
import Mathlib.Tactic.Common
import FastRG.Lib.Run
import FastRG.KafkaProducer

namespace FastRG

/-! ### The file -/

theorem hexNibble_hexDigit : ∀ n < 16, hexNibble (hexDigit n) = some n := by decide

theorem fromHex_toHex (text : List (BitVec 8)) : fromHex (toHex text) = some text := by
  induction text with
  | nil => rfl
  | cons b rest ih =>
      have hhi : b.toNat / 16 < 16 := by
        have := b.isLt
        omega
      have hlo : b.toNat % 16 < 16 := Nat.mod_lt _ (by decide)
      have hbyte : BitVec.ofNat 8 (b.toNat / 16 * 16 + b.toNat % 16) = b := by
        rw [Nat.div_add_mod']
        rw [BitVec.ofNat_toNat, BitVec.setWidth_eq]
      show (do
        let hi ← hexNibble (hexDigit (b.toNat / 16))
        let lo ← hexNibble (hexDigit (b.toNat % 16))
        let out ← fromHex (toHex rest)
        return BitVec.ofNat 8 (hi * 16 + lo) :: out) = _
      rw [hexNibble_hexDigit _ hhi, hexNibble_hexDigit _ hlo, ih]
      show some (BitVec.ofNat 8 (b.toNat / 16 * 16 + b.toNat % 16) :: rest) = _
      rw [hbyte]

/-- What an event is after it was in the file: the retry flag is in memory only. -/
def KafkaWalEvent.unflagged (e : KafkaWalEvent) : KafkaWalEvent := { e with deliveryFailed := false }

theorem walEvent_walEntry {e : KafkaWalEvent} (h : e.persistent = true) :
    walEvent (walEntry e) = some e.unflagged := by
  obtain ⟨seq, payload, failed, persistent⟩ := e
  subst h
  show (fromHex (toHex payload)).map _ = _
  rw [fromHex_toHex]
  rfl

theorem parse_serialize (events : List KafkaWalEvent) :
    kafkaWalParse (kafkaWalSerialize events) =
      some ((events.filter (·.persistent)).map KafkaWalEvent.unflagged) := by
  have hitems : ∀ es : List KafkaWalEvent, (∀ e ∈ es, e.persistent = true) →
      (es.map walEntry).filterMap walEvent = es.map KafkaWalEvent.unflagged := by
    intro es
    induction es with
    | nil => exact fun _ => rfl
    | cons e rest ih =>
        intro hes
        rw [List.map_cons, List.filterMap_cons_some (walEvent_walEntry (hes e List.mem_cons_self)),
          ih fun e' he' => hes e' (List.mem_cons_of_mem e he'), List.map_cons]
  show some (((events.filter (·.persistent)).map walEntry).filterMap walEvent) = _
  rw [hitems _ fun e he => (List.mem_filter.mp he).2]

/-! ### The buffer by itself -/

/-- The sequences of some events. -/
def eventSeqs (events : List KafkaWalEvent) : List Int := events.map (·.seq)

/-- What the buffer is to the threads: the events, the sequences given out, and what is seen to. -/
structure BufferView where
  pending : List KafkaWalEvent
  seq : Int
  /-- The sequences given out to calls that have not reached the buffer. -/
  numbered : List Int
  accepted : List Int
  delivered : List Int
  evicted : List Int
  /-- The sequences that `librdkafka` has, or a thread. -/
  served : Int → Prop

namespace BufferView

variable {v w : BufferView}

/-- The buffer is as it should be. -/
structure Ok (v : BufferView) : Prop where
  once : ∀ σ, (eventSeqs v.pending).count σ + v.numbered.count σ ≤ 1
  pending_le : ∀ σ ∈ eventSeqs v.pending, 0 < σ ∧ σ ≤ v.seq
  numbered_le : ∀ σ ∈ v.numbered, 0 < σ ∧ σ ≤ v.seq
  seq_nonneg : 0 ≤ v.seq
  seen : ∀ e ∈ v.pending, v.served e.seq ∨ e.deliveryFailed = true
  kept : ∀ σ ∈ v.accepted, σ ∈ eventSeqs v.pending ∨ σ ∈ v.delivered ∨ σ ∈ v.evicted

theorem Ok.nodup (h : v.Ok) : (eventSeqs v.pending).Nodup := by
  rw [List.nodup_iff_count_le_one]
  intro σ
  have := h.once σ
  omega

/-- The threads go on, and nothing in the buffer is lost sight of. -/
theorem Ok.widen (h : v.Ok) (hpending : w.pending = v.pending) (hseq : w.seq = v.seq)
    (hnumbered : ∀ σ, w.numbered.count σ = v.numbered.count σ) (haccepted : w.accepted = v.accepted)
    (hdelivered : v.delivered ⊆ w.delivered) (hevicted : w.evicted = v.evicted)
    (hserved : ∀ σ ∈ eventSeqs v.pending, v.served σ → w.served σ) : w.Ok := by
  refine ⟨?_, ?_, ?_, ?_, ?_, ?_⟩
  · intro σ
    rw [hpending, hnumbered]
    exact h.once σ
  · rw [hpending, hseq]
    exact h.pending_le
  · intro σ hσ
    have hpos : 0 < w.numbered.count σ := List.count_pos_iff.mpr hσ
    rw [hnumbered] at hpos
    rw [hseq]
    exact h.numbered_le σ (List.count_pos_iff.mp hpos)
  · rw [hseq]
    exact h.seq_nonneg
  · intro e he
    rw [hpending] at he
    rcases h.seen e he with hs | hf
    · exact Or.inl (hserved e.seq (List.mem_map_of_mem he) hs)
    · exact Or.inr hf
  · intro σ hσ
    rw [haccepted] at hσ
    rw [hpending, hevicted]
    rcases h.kept σ hσ with hk | hk | hk
    · exact Or.inl hk
    · exact Or.inr (Or.inl (hdelivered hk))
    · exact Or.inr (Or.inr hk)

/-- A sequence is given out. -/
theorem Ok.number (h : v.Ok) :
    Ok { v with seq := v.seq + 1, numbered := v.numbered ++ [v.seq + 1] } := by
  have hnew : v.seq + 1 ∉ eventSeqs v.pending := by
    intro hmem
    have := (h.pending_le _ hmem).2
    omega
  have hnew' : v.seq + 1 ∉ v.numbered := by
    intro hmem
    have := (h.numbered_le _ hmem).2
    omega
  refine ⟨?_, ?_, ?_, ?_, h.seen, h.kept⟩
  · intro σ
    have hσ := h.once σ
    show (eventSeqs v.pending).count σ + (v.numbered ++ [v.seq + 1]).count σ ≤ 1
    rw [List.count_append, List.count_singleton]
    by_cases hs : v.seq + 1 = σ
    · rw [← hs, List.count_eq_zero_of_not_mem hnew, List.count_eq_zero_of_not_mem hnew']
      simp
    · rw [beq_eq_false_iff_ne.mpr hs]
      simpa using hσ
  · intro σ hσ
    have := h.pending_le σ hσ
    show 0 < σ ∧ σ ≤ v.seq + 1
    omega
  · intro σ hσ
    show 0 < σ ∧ σ ≤ v.seq + 1
    rcases List.mem_append.mp hσ with hσ | hσ
    · have := h.numbered_le σ hσ
      omega
    · rw [List.mem_singleton.mp hσ]
      have := h.seq_nonneg
      omega
  · show 0 ≤ v.seq + 1
    have := h.seq_nonneg
    omega

/-- An event goes into the buffer. -/
theorem Ok.store (h : v.Ok) {e : KafkaWalEvent}
    (hw : w.pending = v.pending ++ [e]) (hseq : w.seq = v.seq)
    (hnumbered : ∀ σ, v.numbered.count σ = w.numbered.count σ + [e.seq].count σ)
    (haccepted : w.accepted = v.accepted ++ [e.seq]) (hdelivered : w.delivered = v.delivered)
    (hevicted : w.evicted = v.evicted) (hserved : ∀ σ, v.served σ → w.served σ)
    (hnew : w.served e.seq) : w.Ok := by
  have hmem : e.seq ∈ v.numbered := by
    have hc := hnumbered e.seq
    have hpos : 0 < v.numbered.count e.seq := by
      rw [hc, List.count_singleton_self]
      omega
    exact List.count_pos_iff.mp hpos
  refine ⟨?_, ?_, ?_, ?_, ?_, ?_⟩
  · intro σ
    have hσ := h.once σ
    rw [hnumbered] at hσ
    rw [hw, eventSeqs, List.map_append, List.count_append]
    show (eventSeqs v.pending).count σ + [e.seq].count σ + w.numbered.count σ ≤ 1
    omega
  · intro σ hσ
    rw [hw, eventSeqs, List.map_append] at hσ
    rw [hseq]
    rcases List.mem_append.mp hσ with hσ | hσ
    · exact h.pending_le σ hσ
    · rw [List.mem_singleton.mp hσ]
      exact h.numbered_le _ hmem
  · intro σ hσ
    have hpos : 0 < w.numbered.count σ := List.count_pos_iff.mpr hσ
    have hc := hnumbered σ
    rw [hseq]
    exact h.numbered_le σ (List.count_pos_iff.mp (by omega))
  · rw [hseq]
    exact h.seq_nonneg
  · intro e' he'
    rw [hw] at he'
    rcases List.mem_append.mp he' with he' | he'
    · rcases h.seen e' he' with hs | hf
      · exact Or.inl (hserved _ hs)
      · exact Or.inr hf
    · rw [List.mem_singleton.mp he']
      exact Or.inl hnew
  · intro σ hσ
    rw [haccepted] at hσ
    rw [hw, hdelivered, hevicted, eventSeqs, List.map_append]
    rcases List.mem_append.mp hσ with hσ | hσ
    · rcases h.kept σ hσ with hk | hk | hk
      · exact Or.inl (List.mem_append_left _ hk)
      · exact Or.inr (Or.inl hk)
      · exact Or.inr (Or.inr hk)
    · exact Or.inl (List.mem_append_right _ hσ)

/-- An event leaves the buffer, delivered or evicted. -/
theorem Ok.drop (h : v.Ok) {old : KafkaWalEvent} (hperm : v.pending.Perm (old :: w.pending))
    (hseq : w.seq = v.seq) (hnumbered : ∀ σ, w.numbered.count σ = v.numbered.count σ)
    (haccepted : w.accepted = v.accepted) (hdelivered : v.delivered ⊆ w.delivered)
    (hevicted : v.evicted ⊆ w.evicted) (hold : old.seq ∈ w.delivered ∨ old.seq ∈ w.evicted)
    (hserved : ∀ σ ∈ eventSeqs w.pending, v.served σ → w.served σ) : w.Ok := by
  have hseqs : (eventSeqs v.pending).Perm (old.seq :: eventSeqs w.pending) := hperm.map _
  have hsub : ∀ e ∈ w.pending, e ∈ v.pending := fun e he => hperm.mem_iff.mpr (List.mem_cons_of_mem _ he)
  refine ⟨?_, ?_, ?_, ?_, ?_, ?_⟩
  · intro σ
    have hσ := h.once σ
    rw [hseqs.count_eq, List.count_cons] at hσ
    rw [hnumbered]
    omega
  · intro σ hσ
    rw [hseq]
    exact h.pending_le σ (hseqs.mem_iff.mpr (List.mem_cons_of_mem _ hσ))
  · intro σ hσ
    have hpos : 0 < w.numbered.count σ := List.count_pos_iff.mpr hσ
    rw [hnumbered] at hpos
    rw [hseq]
    exact h.numbered_le σ (List.count_pos_iff.mp hpos)
  · rw [hseq]
    exact h.seq_nonneg
  · intro e he
    rcases h.seen e (hsub e he) with hs | hf
    · exact Or.inl (hserved e.seq (List.mem_map_of_mem he) hs)
    · exact Or.inr hf
  · intro σ hσ
    rw [haccepted] at hσ
    rcases h.kept σ hσ with hk | hk | hk
    · rcases List.mem_cons.mp (hseqs.mem_iff.mp hk) with heq | hk
      · rw [heq]
        exact Or.inr hold
      · exact Or.inl hk
    · exact Or.inr (Or.inl (hdelivered hk))
    · exact Or.inr (Or.inr (hevicted hk))

/-- The flags of some events change. -/
theorem Ok.flag (h : v.Ok) {f : KafkaWalEvent → KafkaWalEvent} (hf : ∀ e, (f e).seq = e.seq)
    (hpending : w.pending = v.pending.map f) (hseq : w.seq = v.seq)
    (hnumbered : ∀ σ, w.numbered.count σ = v.numbered.count σ) (haccepted : w.accepted = v.accepted)
    (hdelivered : w.delivered = v.delivered) (hevicted : w.evicted = v.evicted)
    (hserved : ∀ e ∈ v.pending, v.served e.seq ∨ e.deliveryFailed = true →
      w.served e.seq ∨ (f e).deliveryFailed = true) : w.Ok := by
  have hseqs : eventSeqs w.pending = eventSeqs v.pending := by
    unfold eventSeqs
    rw [hpending, List.map_map]
    exact List.map_congr_left fun e _ => hf e
  refine ⟨?_, ?_, ?_, ?_, ?_, ?_⟩
  · intro σ
    rw [hseqs, hnumbered]
    exact h.once σ
  · rw [hseqs, hseq]
    exact h.pending_le
  · intro σ hσ
    have hpos : 0 < w.numbered.count σ := List.count_pos_iff.mpr hσ
    rw [hnumbered] at hpos
    rw [hseq]
    exact h.numbered_le σ (List.count_pos_iff.mp hpos)
  · rw [hseq]
    exact h.seq_nonneg
  · intro e he
    rw [hpending] at he
    obtain ⟨e₀, he₀, rfl⟩ := List.mem_map.mp he
    rw [hf]
    exact hserved e₀ he₀ (h.seen e₀ he₀)
  · rw [haccepted, hseqs, hdelivered, hevicted]
    exact h.kept

end BufferView

namespace Kafka

/-- Where the sequence occurs once, it is the one that changes. -/
theorem modifyFirst_eq_map (σ : Int) (f : KafkaWalEvent → KafkaWalEvent)
    {events : List KafkaWalEvent} (h : (eventSeqs events).Nodup) :
    modifyFirst σ f events = events.map fun e => if e.seq = σ then f e else e := by
  induction events with
  | nil => rfl
  | cons e rest ih =>
      obtain ⟨hnot, hrest⟩ := List.nodup_cons.mp h
      unfold modifyFirst
      rw [List.map_cons]
      by_cases he : e.seq = σ
      · rw [if_pos he, if_pos he]
        have hsame : rest.map (fun e => if e.seq = σ then f e else e) = rest.map id := by
          refine List.map_congr_left fun e' he' => if_neg fun heq => hnot ?_
          show e.seq ∈ eventSeqs rest
          rw [he, ← heq]
          exact List.mem_map_of_mem he'
        rw [hsame, List.map_id]
      · rw [if_neg he, if_neg he, ih hrest]

/-! ### Who sees to an event -/

end Kafka

/-- The call has its event in the buffer and not yet with `librdkafka`. -/
def ProduceStage.holds : ProduceStage → Bool
  | .numbered => false
  | .returning => false
  | _ => true

/-- The callback is about to flag the event or take it out. -/
def DrStage.holds : DrStage → Bool
  | .failed => true
  | .delivered => true
  | _ => false

/-- The events still to be handed over, or flagged. -/
def HandOver.seqs : HandOver → List Int
  | .next batch => eventSeqs batch
  | .refused seq rest => seq :: eventSeqs rest

namespace Kafka

variable {s t : Kafka} {σ : Int}

/-- A call holds the sequence. -/
def CallHolds (calls : List ProduceCall) (σ : Int) : Prop :=
  ∃ c ∈ calls, c.event.seq = σ ∧ c.stage.holds = true

/-- A callback holds it. -/
def ReportHolds (reports : List DrCall) (σ : Int) : Prop :=
  ∃ r ∈ reports, r.seq = σ ∧ r.stage.holds = true

/-- A thread is about to hand the event over, to flag it or to take it out. -/
def Held (s : Kafka) (σ : Int) : Prop :=
  s.init = .loaded ∨ CallHolds s.calls σ ∨ σ ∈ s.replay.seqs ∨ σ ∈ s.retry.seqs ∨
    ReportHolds s.reports σ

/-- `librdkafka` has the event, or a thread. -/
def Served (s : Kafka) (σ : Int) : Prop := σ ∈ s.inFlight ∨ s.Held σ

theorem Served.of_inFlight (h : σ ∈ s.inFlight) : s.Served σ := Or.inl h

theorem Served.of_call (h : CallHolds s.calls σ) : s.Served σ := Or.inr (Or.inr (Or.inl h))

theorem Served.of_replay (h : σ ∈ s.replay.seqs) : s.Served σ :=
  Or.inr (Or.inr (Or.inr (Or.inl h)))

theorem Served.of_retry (h : σ ∈ s.retry.seqs) : s.Served σ :=
  Or.inr (Or.inr (Or.inr (Or.inr (Or.inl h))))

theorem Served.of_report (h : ReportHolds s.reports σ) : s.Served σ :=
  Or.inr (Or.inr (Or.inr (Or.inr (Or.inr h))))

/-- One that sees to the event passes it on; the poller and the replay are as they were. -/
theorem Served.imp (h : s.Served σ) (hinit : t.init = s.init) (hreplay : t.replay = s.replay)
    (hretry : t.retry = s.retry) (hflight : σ ∈ s.inFlight → t.Served σ)
    (hcalls : CallHolds s.calls σ → t.Served σ) (hreports : ReportHolds s.reports σ → t.Served σ) :
    t.Served σ := by
  rcases h with h | h | h | h | h | h
  · exact hflight h
  · exact Or.inr (Or.inl (hinit.trans h))
  · exact hcalls h
  · exact .of_replay (hreplay ▸ h)
  · exact .of_retry (hretry ▸ h)
  · exact hreports h

/-- The sequences of the calls that have not reached the buffer. -/
def numberedSeqs (calls : List ProduceCall) : List Int :=
  calls.filterMap fun c => if c.stage = .numbered then some c.event.seq else none

/-- The buffer as the threads see it. -/
def view (s : Kafka) : BufferView :=
  ⟨s.pending, s.seq, numberedSeqs s.calls, s.accepted, s.delivered, s.evicted, s.Served⟩

/-! ### One call among others -/

section Lists

variable {α : Type} {l : List α} {i : Nat} {a b x : α}

theorem perm_of_getElem? (h : l[i]? = some a) : l.Perm (a :: l.eraseIdx i) := by
  obtain ⟨hi, rfl⟩ := List.getElem?_eq_some_iff.mp h
  exact (List.getElem_cons_eraseIdx_perm hi).symm

theorem set_perm (h : l[i]? = some a) : (l.set i b).Perm (b :: l.eraseIdx i) := by
  obtain ⟨hi, -⟩ := List.getElem?_eq_some_iff.mp h
  have hset : (l.set i b)[i]? = some b := by rw [List.getElem?_set_self hi]
  have hp := perm_of_getElem? hset
  rw [List.eraseIdx_set_eq] at hp
  exact hp

/-- What was in the list is the one at the place, or still there. -/
theorem mem_set_of_mem (h : l[i]? = some a) (hx : x ∈ l) : x = a ∨ x ∈ l.set i b := by
  rcases List.mem_cons.mp ((perm_of_getElem? h).mem_iff.mp hx) with hx | hx
  · exact Or.inl hx
  · exact Or.inr ((set_perm h).mem_iff.mpr (List.mem_cons_of_mem b hx))

theorem mem_eraseIdx_of_mem (h : l[i]? = some a) (hx : x ∈ l) : x = a ∨ x ∈ l.eraseIdx i :=
  List.mem_cons.mp ((perm_of_getElem? h).mem_iff.mp hx)

theorem self_mem_set (h : l[i]? = some a) : b ∈ l.set i b :=
  (set_perm h).mem_iff.mpr List.mem_cons_self

theorem of_mem_set (h : l[i]? = some a) (hx : x ∈ l.set i b) : x = b ∨ x ∈ l := by
  rcases List.mem_cons.mp ((set_perm h).mem_iff.mp hx) with hx | hx
  · exact Or.inl hx
  · exact Or.inr (List.mem_of_mem_eraseIdx hx)

end Lists

theorem callHolds_set {calls : List ProduceCall} {i : Nat} {c : ProduceCall} {stage : ProduceStage}
    (hc : calls[i]? = some c) (h : CallHolds calls σ)
    (hstage : σ = c.event.seq → stage.holds = true) :
    CallHolds (calls.set i { c with stage := stage }) σ := by
  obtain ⟨c', hc', hseq, hholds⟩ := h
  rcases mem_set_of_mem (b := { c with stage := stage }) hc hc' with rfl | hmem
  · exact ⟨_, self_mem_set hc, hseq, hstage hseq.symm⟩
  · exact ⟨c', hmem, hseq, hholds⟩

theorem reportHolds_set {reports : List DrCall} {i : Nat} {r : DrCall} {stage : DrStage}
    (hr : reports[i]? = some r) (h : ReportHolds reports σ) (hσ : σ ≠ r.seq) :
    ReportHolds (reports.set i ⟨r.seq, stage⟩) σ := by
  obtain ⟨r', hr', hseq, hholds⟩ := h
  rcases mem_set_of_mem (b := ⟨r.seq, stage⟩) hr hr' with rfl | hmem
  · exact absurd hseq.symm hσ
  · exact ⟨r', hmem, hseq, hholds⟩

theorem reportHolds_eraseIdx {reports : List DrCall} {i : Nat} {r : DrCall}
    (hr : reports[i]? = some r) (h : ReportHolds reports σ)
    (hσ : σ = r.seq → r.stage.holds = false) : ReportHolds (reports.eraseIdx i) σ := by
  obtain ⟨r', hr', hseq, hholds⟩ := h
  rcases mem_eraseIdx_of_mem hr hr' with rfl | hmem
  · rw [hσ hseq.symm] at hholds
    cases hholds
  · exact ⟨r', hmem, hseq, hholds⟩

/-- The number of a call that has not reached the buffer counts, no other. -/
theorem numberedSeqs_set {calls : List ProduceCall} {i : Nat} {c : ProduceCall} (c' : ProduceCall)
    (hc : calls[i]? = some c) (σ : Int) :
    (numberedSeqs (calls.set i c')).count σ + (numberedSeqs [c]).count σ =
      (numberedSeqs calls).count σ + (numberedSeqs [c']).count σ := by
  have h₁ := ((set_perm (b := c') hc).filterMap
    fun c => if c.stage = .numbered then some c.event.seq else none).count_eq σ
  have h₂ := ((perm_of_getElem? hc).filterMap
    fun c => if c.stage = .numbered then some c.event.seq else none).count_eq σ
  have hcons : ∀ c₀ : ProduceCall, ∀ cs, (numberedSeqs (c₀ :: cs)).count σ =
      (numberedSeqs [c₀]).count σ + (numberedSeqs cs).count σ := by
    intro c₀ cs
    rw [← List.singleton_append]
    unfold numberedSeqs
    rw [List.filterMap_append, List.count_append]
  have h₁' : (numberedSeqs (calls.set i c')).count σ = _ := h₁
  have h₂' : (numberedSeqs calls).count σ = _ := h₂
  have hc' := hcons c' (calls.eraseIdx i)
  have hc₀ := hcons c (calls.eraseIdx i)
  unfold numberedSeqs at *
  omega

theorem numberedSeqs_past {c : ProduceCall} (h : c.stage ≠ .numbered) : numberedSeqs [c] = [] := by
  simp [numberedSeqs, h]

theorem numberedSeqs_new {c : ProduceCall} (h : c.stage = .numbered) :
    numberedSeqs [c] = [c.event.seq] := by
  simp [numberedSeqs, h]

/-! ### The steps -/

/-- A file as this program writes it. -/
def WalWritten (file : JsonText) : Prop :=
  file = .empty ∨ ∃ events, file = kafkaWalSerialize events ∧ (eventSeqs events).Nodup ∧
    (∀ σ ∈ eventSeqs events, 0 < σ) ∧ events.length ≤ maxWalEvents

/-- Nothing has begun. -/
structure Blank (s : Kafka) : Prop where
  pending : s.pending = []
  seq : s.seq = 0
  inFlight : s.inFlight = []
  calls : s.calls = []
  reports : s.reports = []
  replay : s.replay = .next []
  retry : s.retry = .next []
  accepted : s.accepted = []
  returned : s.returned = []
  delivered : s.delivered = []
  offline : s.offline = []

/-- The buffer with its bound, the file, and the calls that are past the buffer. -/
structure BufferOk (s : Kafka) : Prop where
  view : s.view.Ok
  bounded : s.pending.length ≤ maxWalEvents
  file : WalWritten s.file
  calls_accepted : ∀ c ∈ s.calls, c.stage ≠ .numbered → c.event.seq ∈ s.accepted
  returned_accepted : ∀ σ ∈ s.returned, σ ∈ s.accepted
  reports_delivered : ∀ r ∈ s.reports, r.stage ≠ .failed → r.seq ∈ s.delivered

/-- What the threads do not change by just going on. -/
structure SameBuffer (s t : Kafka) : Prop where
  pending : t.pending = s.pending
  seq : t.seq = s.seq
  accepted : t.accepted = s.accepted
  evicted : t.evicted = s.evicted

/-- The buffer is written to the file. -/
theorem walWritten_persist (h : BufferOk s) : WalWritten (kafkaWalSerialize s.pending) := by
  refine Or.inr ⟨s.pending, rfl, h.view.nodup, ?_, h.bounded⟩
  intro σ hσ
  exact (h.view.pending_le σ hσ).1

/-- A call goes on with its event held. -/
theorem BufferOk.setCall (h : BufferOk s) {i : Nat} {c : ProduceCall} {stage : ProduceStage}
    (hc : s.calls[i]? = some c) (hpast : c.stage ≠ .numbered) (hpast' : stage ≠ .numbered)
    (hcalls : t.calls = s.calls.set i { c with stage := stage })
    (hserved : ∀ σ, s.Served σ → t.Served σ) (hbuffer : SameBuffer s t)
    (hdelivered : t.delivered = s.delivered) (hreturned : t.returned = s.returned)
    (hreports : t.reports = s.reports) (hfile : WalWritten t.file) : BufferOk t := by
  refine ⟨?_, ?_, hfile, ?_, ?_, ?_⟩
  · refine h.view.widen hbuffer.pending hbuffer.seq ?_ hbuffer.accepted ?_ hbuffer.evicted
      fun σ _ hσ => hserved σ hσ
    · intro σ
      have hcount := numberedSeqs_set { c with stage := stage } hc σ
      rw [numberedSeqs_past hpast, numberedSeqs_past hpast'] at hcount
      show (numberedSeqs t.calls).count σ = (numberedSeqs s.calls).count σ
      rw [hcalls]
      simpa using hcount
    · show s.delivered ⊆ t.delivered
      rw [hdelivered]
      exact List.Subset.refl _
  · rw [hbuffer.pending]
    exact h.bounded
  · intro c' hc' hstage
    rw [hcalls] at hc'
    rw [hbuffer.accepted]
    rcases of_mem_set hc hc' with rfl | hc'
    · exact h.calls_accepted c (List.mem_of_getElem? hc) hpast
    · exact h.calls_accepted c' hc' hstage
  · rw [hreturned, hbuffer.accepted]
    exact h.returned_accepted
  · rw [hreports, hdelivered]
    exact h.reports_delivered

/-- There is always something to evict. -/
theorem evictIndex_lt {pending : List KafkaWalEvent} (h : pending ≠ []) :
    kafkaWalEvictIndex pending < pending.length := by
  unfold kafkaWalEvictIndex
  cases hfind : pending.findIdx? fun e => !e.persistent with
  | none => exact List.length_pos_of_ne_nil h
  | some i => exact (List.findIdx?_eq_some_iff_getElem.mp hfind).1

theorem buffer_cases (s : Kafka) (e : KafkaWalEvent) :
    (s.buffer e = (none, { s with pending := s.pending ++ [e], accepted := s.accepted ++ [e.seq] }) ∧
      (s.pending ++ [e]).length ≤ maxWalEvents) ∨
    ∃ k old, (s.pending ++ [e])[k]? = some old ∧ s.buffer e = (some old,
      { s with pending := (s.pending ++ [e]).eraseIdx k, accepted := s.accepted ++ [e.seq],
               evicted := s.evicted ++ [old.seq] }) := by
  unfold buffer
  dsimp only
  by_cases hfull : maxWalEvents < (s.pending ++ [e]).length
  · rw [if_pos hfull]
    have hlt : kafkaWalEvictIndex (s.pending ++ [e]) < (s.pending ++ [e]).length :=
      evictIndex_lt (by simp)
    have hget : (s.pending ++ [e])[kafkaWalEvictIndex (s.pending ++ [e])]? = some _ :=
      List.getElem?_eq_getElem hlt
    refine Or.inr ⟨_, _, hget, ?_⟩
    rw [hget]
  · rw [if_neg hfull]
    exact Or.inl ⟨rfl, Nat.le_of_not_lt hfull⟩

/-- A call whose event is in the buffer holds it. -/
theorem served_setCall {i : Nat} {c : ProduceCall} {stage : ProduceStage}
    (hc : s.calls[i]? = some c) (hcalls : t.calls = s.calls.set i { c with stage := stage })
    (hinit : t.init = s.init) (hflight : s.inFlight ⊆ t.inFlight) (hreplay : t.replay = s.replay)
    (hretry : t.retry = s.retry) (hreports : t.reports = s.reports)
    (hstage : σ = c.event.seq → stage.holds = true ∨ σ ∈ t.inFlight) (h : s.Served σ) :
    t.Served σ := by
  refine h.imp hinit hreplay hretry (fun hf => .of_inFlight (hflight hf)) ?_
    fun hr => .of_report (hreports ▸ hr)
  intro hcall
  by_cases hσ : σ = c.event.seq
  · rcases hstage hσ with hst | hin
    · refine .of_call ?_
      rw [hcalls]
      exact callHolds_set hc hcall fun _ => hst
    · exact .of_inFlight hin
  · refine .of_call ?_
    rw [hcalls]
    exact callHolds_set hc hcall fun heq => absurd heq hσ

/-- The event of a call goes into the buffer. -/
theorem BufferOk.numbered (h : BufferOk s) {i : Nat} {c : ProduceCall}
    (hc : s.calls[i]? = some c) (hstage : c.stage = .numbered) (ok : Bool) :
    BufferOk (s.callStep i ok) := by
  have hstep : s.callStep i ok = (s.buffer c.event).2.setCall i c
      (.buffered ((s.buffer c.event).1.map (·.seq)) (c.event.persistent ||
        ((s.buffer c.event).1.map (·.persistent)).getD false)) := by
    unfold callStep
    rw [hc]
    dsimp only
    rw [hstage]
  -- the event in the buffer, before anything is evicted for it
  have hstored : ∀ stage : ProduceStage, stage.holds = true →
      BufferView.Ok { s.view with
        pending := s.pending ++ [c.event]
        accepted := s.accepted ++ [c.event.seq]
        numbered := numberedSeqs (s.calls.set i { c with stage := stage })
        served := Served { s with calls := s.calls.set i { c with stage := stage } } } := by
    intro stage hholds
    have hpast : stage ≠ .numbered := by
      intro heq
      rw [heq] at hholds
      cases hholds
    refine h.view.store rfl rfl ?_ rfl rfl rfl ?_ ?_
    · intro σ
      have hcount := numberedSeqs_set { c with stage := stage } hc σ
      rw [numberedSeqs_new hstage, numberedSeqs_past hpast, List.count_nil] at hcount
      exact hcount.symm
    · intro σ hσ
      exact served_setCall hc rfl rfl (List.Subset.refl _) rfl rfl rfl (fun _ => Or.inl hholds) hσ
    · exact Served.of_call ⟨_, self_mem_set hc, rfl, hholds⟩
  have hcalls : ∀ stage : ProduceStage, ∀ c' ∈ s.calls.set i { c with stage := stage },
      c'.stage ≠ .numbered → c'.event.seq ∈ s.accepted ++ [c.event.seq] := by
    intro stage c' hc' hst
    rcases of_mem_set hc hc' with rfl | hc'
    · exact List.mem_append_right _ (List.mem_singleton.mpr rfl)
    · exact List.mem_append_left _ (h.calls_accepted c' hc' hst)
  rw [hstep]
  rcases buffer_cases s c.event with ⟨hbuf, hroom⟩ | ⟨k, old, hget, hbuf⟩
  · rw [hbuf]
    refine ⟨hstored _ rfl, hroom, h.file, hcalls _, ?_, h.reports_delivered⟩
    intro σ hσ
    exact List.mem_append_left _ (h.returned_accepted σ hσ)
  · rw [hbuf]
    refine ⟨?_, ?_, h.file, hcalls _, ?_, h.reports_delivered⟩
    · refine (hstored _ rfl).drop (perm_of_getElem? hget) rfl (fun _ => rfl) rfl
        (List.Subset.refl _) (List.subset_append_left _ _)
        (Or.inr (List.mem_append_right _ (List.mem_singleton.mpr rfl))) fun _ _ hσ => hσ
    · have hlt := (List.getElem?_eq_some_iff.mp hget).1
      have hb := h.bounded
      show ((s.pending ++ [c.event]).eraseIdx k).length ≤ maxWalEvents
      rw [List.length_eraseIdx, if_pos hlt, List.length_append, List.length_singleton]
      omega
    · intro σ hσ
      exact List.mem_append_left _ (h.returned_accepted σ hσ)

/-- The flag is set for one sequence, and whoever saw to it goes. -/
theorem markDeliveryFailed_ok (h : s.view.Ok) (σ : Int) {w : BufferView}
    (hpending : w.pending = modifyFirst σ (fun e => { e with deliveryFailed := true }) s.pending)
    (hseq : w.seq = s.seq) (hnumbered : ∀ τ, w.numbered.count τ = (numberedSeqs s.calls).count τ)
    (haccepted : w.accepted = s.accepted) (hdelivered : w.delivered = s.delivered)
    (hevicted : w.evicted = s.evicted) (hserved : ∀ τ, τ ≠ σ → s.Served τ → w.served τ) : w.Ok := by
  have hmap := modifyFirst_eq_map σ (fun e => { e with deliveryFailed := true }) h.nodup
  refine h.flag (f := fun e => if e.seq = σ then { e with deliveryFailed := true } else e) ?_
    (hpending.trans hmap) hseq hnumbered haccepted hdelivered hevicted ?_
  · intro e
    split
    · rfl
    · rfl
  · intro e _ hseen
    by_cases he : e.seq = σ
    · rw [if_pos he]
      exact Or.inr rfl
    · rw [if_neg he]
      rcases hseen with hs | hf
      · exact Or.inl (hserved e.seq he hs)
      · exact Or.inr hf

theorem length_modifyFirst (σ : Int) (f : KafkaWalEvent → KafkaWalEvent)
    (events : List KafkaWalEvent) : (modifyFirst σ f events).length = events.length := by
  induction events with
  | nil => rfl
  | cons e rest ih =>
      unfold modifyFirst
      split
      · rfl
      · rw [List.length_cons, ih, List.length_cons]

/-- A call that was not taken flags its event. -/
theorem BufferOk.refusedCall (h : BufferOk s) {i : Nat} {c : ProduceCall}
    (hc : s.calls[i]? = some c) (hpast : c.stage ≠ .numbered) :
    BufferOk ((s.markDeliveryFailed c.event.seq).setCall i c .returning) := by
  refine ⟨?_, ?_, h.file, ?_, h.returned_accepted, h.reports_delivered⟩
  · refine markDeliveryFailed_ok h.view c.event.seq rfl rfl ?_ rfl rfl rfl ?_
    · intro τ
      have hcount := numberedSeqs_set { c with stage := .returning } hc τ
      rw [numberedSeqs_past hpast, numberedSeqs_past (by simp)] at hcount
      show (numberedSeqs (s.calls.set i { c with stage := .returning })).count τ = _
      simpa using hcount
    · intro τ hτ hs
      exact served_setCall hc rfl rfl (List.Subset.refl _) rfl rfl rfl
        (fun heq => absurd heq hτ) hs
  · show (modifyFirst _ _ s.pending).length ≤ maxWalEvents
    rw [length_modifyFirst]
    exact h.bounded
  · intro c' hc' hstage
    rcases of_mem_set hc hc' with rfl | hc'
    · exact h.calls_accepted c (List.mem_of_getElem? hc) hpast
    · exact h.calls_accepted c' hc' hstage

/-- A call returns. -/
theorem BufferOk.returning (h : BufferOk s) {i : Nat} {c : ProduceCall}
    (hc : s.calls[i]? = some c) (hstage : c.stage = .returning)
    (acks : Int → Option OfflineEditAck) :
    BufferOk { s with calls := s.calls.eraseIdx i, returned := s.returned ++ [c.event.seq],
                      acks := acks } := by
  have hpast : c.stage ≠ .numbered := by
    rw [hstage]
    decide
  have hseq := h.calls_accepted c (List.mem_of_getElem? hc) hpast
  refine ⟨?_, h.bounded, h.file, ?_, ?_, h.reports_delivered⟩
  · refine h.view.widen rfl rfl ?_ rfl (List.Subset.refl _) rfl ?_
    · intro σ
      have hp := ((perm_of_getElem? hc).filterMap
        fun c => if c.stage = .numbered then some c.event.seq else none).count_eq σ
      rw [List.filterMap_cons_none (by rw [if_neg hpast])] at hp
      exact hp.symm
    · intro σ _ hσ
      refine Served.imp hσ rfl rfl rfl (fun hf => .of_inFlight hf) ?_ fun hr => .of_report hr
      intro hcall
      obtain ⟨c', hc', hs, hh⟩ := hcall
      rcases mem_eraseIdx_of_mem hc hc' with rfl | hmem
      · rw [hstage] at hh
        cases hh
      · exact .of_call ⟨c', hmem, hs, hh⟩
  · intro c' hc' hst
    exact h.calls_accepted c' (List.mem_of_mem_eraseIdx hc') hst
  · intro σ hσ
    rcases List.mem_append.mp hσ with hσ | hσ
    · exact h.returned_accepted σ hσ
    · rw [List.mem_singleton.mp hσ]
      exact hseq

theorem callStep_ok (h : BufferOk s) (i : Nat) (ok : Bool) : BufferOk (s.callStep i ok) := by
  cases hc : s.calls[i]? with
  | none =>
      unfold callStep
      rw [hc]
      exact h
  | some c =>
      by_cases hstage : c.stage = .numbered
      · exact h.numbered hc hstage ok
      -- a stage that leaves the buffer alone
      have hquiet : ∀ t : Kafka, ∀ stage : ProduceStage, stage ≠ .numbered →
          t.calls = s.calls.set i { c with stage := stage } → t.init = s.init →
          s.inFlight ⊆ t.inFlight → t.replay = s.replay → t.retry = s.retry →
          t.reports = s.reports → (stage.holds = true ∨ c.event.seq ∈ t.inFlight) →
          SameBuffer s t → t.delivered = s.delivered → t.returned = s.returned →
          WalWritten t.file → BufferOk t := by
        intro t stage hst hcalls hinit hflight hreplay hretry hreports hholds hbuf hdel hret hfile
        refine h.setCall hc hstage hst hcalls ?_ hbuf hdel hret hreports hfile
        intro σ hσ
        refine served_setCall hc hcalls hinit hflight hreplay hretry hreports ?_ hσ
        intro heq
        rw [heq]
        exact hholds
      unfold callStep
      rw [hc]
      dsimp only
      cases hst : c.stage with
      | numbered => exact absurd hst hstage
      | buffered old persist =>
          cases old with
          | none =>
              exact hquiet _ (.forgot persist) (by simp) rfl rfl (List.Subset.refl _) rfl rfl rfl
                (Or.inl rfl) ⟨rfl, rfl, rfl, rfl⟩ rfl rfl h.file
          | some old =>
              exact hquiet _ (.forgot persist) (by simp) rfl rfl (List.Subset.refl _) rfl rfl rfl
                (Or.inl rfl) ⟨rfl, rfl, rfl, rfl⟩ rfl rfl h.file
      | forgot persist =>
          cases persist with
          | false =>
              exact hquiet _ .persisted (by decide) rfl rfl (List.Subset.refl _) rfl rfl rfl
                (Or.inl rfl) ⟨rfl, rfl, rfl, rfl⟩ rfl rfl h.file
          | true =>
              cases ok with
              | false =>
                  exact hquiet _ .persisted (by decide) rfl rfl (List.Subset.refl _) rfl rfl rfl
                    (Or.inl rfl) ⟨rfl, rfl, rfl, rfl⟩ rfl rfl h.file
              | true =>
                  exact hquiet _ .persisted (by decide) rfl rfl (List.Subset.refl _) rfl rfl rfl
                    (Or.inl rfl) ⟨rfl, rfl, rfl, rfl⟩ rfl rfl (walWritten_persist h)
      | persisted =>
          cases ok with
          | false =>
              exact hquiet _ .refused (by decide) rfl rfl (List.Subset.refl _) rfl rfl rfl
                (Or.inl rfl) ⟨rfl, rfl, rfl, rfl⟩ rfl rfl h.file
          | true =>
              exact hquiet _ .returning (by decide) rfl rfl (List.subset_append_left _ _) rfl rfl rfl
                (Or.inr (List.mem_append_right _ (List.mem_singleton.mpr rfl))) ⟨rfl, rfl, rfl, rfl⟩
                rfl rfl h.file
      | refused => exact h.refusedCall hc hstage
      | returning =>
          cases c.item with
          | none => exact h.returning hc hst s.acks
          | some item => exact h.returning hc hst _

/-- A call begins. -/
theorem produce_ok (h : BufferOk s) (payload : List (BitVec 8)) (durable : Bool)
    (item : Option DirtyItem) : BufferOk (s.produce payload durable item) := by
  unfold produce
  by_cases hoff : s.init = .off
  · rw [if_pos hoff]
    exact h
  · rw [if_neg hoff]
    refine ⟨?_, h.bounded, h.file, ?_, h.returned_accepted, h.reports_delivered⟩
    · refine h.view.number.widen rfl rfl ?_ rfl (List.Subset.refl _) rfl ?_
      · intro σ
        show (numberedSeqs (s.calls ++ _)).count σ = (numberedSeqs s.calls ++ _).count σ
        unfold numberedSeqs
        rw [List.filterMap_append]
        rfl
      · intro σ _ hσ
        refine Served.imp hσ rfl rfl rfl (fun hf => .of_inFlight hf) ?_ fun hr => .of_report hr
        intro hcall
        obtain ⟨c, hc, hs⟩ := hcall
        exact .of_call ⟨c, List.mem_append_left _ hc, hs⟩
    · intro c hc hstage
      rcases List.mem_append.mp hc with hc | hc
      · exact h.calls_accepted c hc hstage
      · rw [List.mem_singleton.mp hc] at hstage
        exact absurd rfl hstage

/-- `librdkafka` reports: the callback has the event now. -/
theorem report_ok (h : BufferOk s) (σ : Int) (err : Bool) : BufferOk (s.report σ err) := by
  unfold report
  by_cases hin : σ ∈ s.inFlight
  · rw [if_pos hin]
    have hsub : s.delivered ⊆ if err then s.delivered else s.delivered ++ [σ] := by
      split
      · exact List.Subset.refl _
      · exact List.subset_append_left _ _
    refine ⟨?_, h.bounded, h.file, h.calls_accepted, h.returned_accepted, ?_⟩
    · refine h.view.widen rfl rfl (fun _ => rfl) rfl hsub rfl ?_
      intro τ hτ hs
      have hpos := (h.view.pending_le τ hτ).1
      refine hs.imp rfl rfl rfl ?_ (fun hc => .of_call hc) ?_
      · intro hflight
        by_cases heq : τ = σ
        · refine .of_report ⟨⟨σ, if err then .failed else .delivered⟩, ?_, heq.symm, ?_⟩
          · show _ ∈ if 0 < σ then _ else _
            rw [if_pos (heq ▸ hpos)]
            exact List.mem_append_right _ (List.mem_singleton.mpr rfl)
          · cases err with
            | false => rfl
            | true => rfl
        · exact .of_inFlight ((List.mem_erase_of_ne heq).mpr hflight)
      · intro hrep
        obtain ⟨r, hr, hheld⟩ := hrep
        refine .of_report ⟨r, ?_, hheld⟩
        show r ∈ if 0 < σ then _ else _
        split
        · exact List.mem_append_left _ hr
        · exact hr
    · intro r hr hstage
      have hr' : r ∈ s.reports ++ [⟨σ, if err then .failed else .delivered⟩] := by
        by_cases hpos : 0 < σ
        · simpa only [if_pos hpos] using hr
        · exact List.mem_append_left _ (by simpa only [if_neg hpos] using hr)
      rcases List.mem_append.mp hr' with hr | hr
      · exact hsub (h.reports_delivered r hr hstage)
      · rw [List.mem_singleton.mp hr] at hstage ⊢
        cases err with
        | false => exact List.mem_append_right _ (List.mem_singleton.mpr rfl)
        | true => exact absurd rfl hstage
  · rw [if_neg hin]
    exact h

/-- A callback goes on, done with its event. -/
theorem BufferOk.setReport (h : BufferOk s) {i : Nat} {r : DrCall} {stage : DrStage}
    (hr : s.reports[i]? = some r) (hpast : r.stage.holds = false)
    (file : JsonText) (hfile : WalWritten file) (acks : Int → Option OfflineEditAck) :
    BufferOk { s with reports := s.reports.set i ⟨r.seq, stage⟩, file := file, acks := acks } := by
  have hfailed : r.stage ≠ .failed := by
    intro heq
    rw [heq] at hpast
    cases hpast
  refine ⟨?_, h.bounded, hfile, h.calls_accepted, h.returned_accepted, ?_⟩
  · refine h.view.widen rfl rfl (fun _ => rfl) rfl (List.Subset.refl _) rfl ?_
    intro τ _ hτ
    refine Served.imp hτ rfl rfl rfl (fun hf => .of_inFlight hf) (fun hc => .of_call hc) ?_
    intro hrep
    obtain ⟨r', hr', hseq, hh⟩ := hrep
    rcases mem_set_of_mem (b := ⟨r.seq, stage⟩) hr hr' with rfl | hmem
    · rw [hpast] at hh
      cases hh
    · exact .of_report ⟨r', hmem, hseq, hh⟩
  · intro r' hr' hst
    rcases of_mem_set hr hr' with rfl | hr'
    · exact h.reports_delivered r (List.mem_of_getElem? hr) hfailed
    · exact h.reports_delivered r' hr' hst

/-- A callback is over, and was done with its event. -/
theorem BufferOk.endReport (h : BufferOk s) {i : Nat} {r : DrCall} (hr : s.reports[i]? = some r)
    (hpast : r.stage.holds = false) (snapshot : ConfigSnapshot) (confirmed : List Int) :
    BufferOk { s with reports := s.reports.eraseIdx i, snapshot := snapshot,
                      confirmed := confirmed } := by
  refine ⟨?_, h.bounded, h.file, h.calls_accepted, h.returned_accepted, ?_⟩
  · refine h.view.widen rfl rfl (fun _ => rfl) rfl (List.Subset.refl _) rfl ?_
    intro τ _ hτ
    exact Served.imp hτ rfl rfl rfl (fun hf => .of_inFlight hf) (fun hc => .of_call hc)
      fun hrep => .of_report (reportHolds_eraseIdx hr hrep fun _ => hpast)
  · intro r' hr' hst
    exact h.reports_delivered r' (List.mem_of_mem_eraseIdx hr') hst

/-- What others see to does not depend on one callback. -/
theorem served_of_reports {reports : List DrCall} {pending : List KafkaWalEvent}
    (hτ : s.Served σ) (hreports : ReportHolds s.reports σ → ReportHolds reports σ) :
    Served { s with reports := reports, pending := pending } σ :=
  hτ.imp rfl rfl rfl (fun hf => .of_inFlight hf) (fun hc => .of_call hc)
    fun hrep => .of_report (hreports hrep)

/-- The callback takes a delivered event out. -/
theorem BufferOk.takeDelivered (h : BufferOk s) {i : Nat} {seq : Int}
    (hr : s.reports[i]? = some ⟨seq, .delivered⟩) :
    BufferOk ((s.takeDelivered seq).2.setReport i seq (.taken (s.takeDelivered seq).1)) := by
  have hdel : seq ∈ s.delivered :=
    h.reports_delivered ⟨seq, .delivered⟩ (List.mem_of_getElem? hr) (by simp)
  have hreports : ∀ stage : DrStage, stage ≠ .failed → ∀ r' ∈ s.reports.set i ⟨seq, stage⟩,
      r'.stage ≠ .failed → r'.seq ∈ s.delivered := by
    intro stage hst r' hr' hst'
    rcases of_mem_set hr hr' with rfl | hr'
    · exact hdel
    · exact h.reports_delivered r' hr' hst'
  have hholds : ∀ stage τ, τ ≠ seq → ReportHolds s.reports τ →
      ReportHolds (s.reports.set i ⟨seq, stage⟩) τ := fun stage τ hτ hrep =>
    reportHolds_set hr hrep hτ
  unfold Kafka.takeDelivered
  cases hfind : s.pending.find? fun e => e.seq = seq with
  | none =>
      refine ⟨?_, h.bounded, h.file, h.calls_accepted, h.returned_accepted,
        hreports (.taken false) (by simp)⟩
      refine h.view.widen rfl rfl (fun _ => rfl) rfl (List.Subset.refl _) rfl ?_
      intro τ hτ hs
      refine served_of_reports hs (hholds _ τ ?_)
      intro heq
      obtain ⟨e, he, heq'⟩ := List.mem_map.mp hτ
      have := List.find?_eq_none.mp hfind e he
      simp [heq', heq] at this
  | some e =>
      have hmem : e ∈ s.pending := List.mem_of_find?_eq_some hfind
      have hseq : e.seq = seq := by simpa using List.find?_some hfind
      obtain ⟨old, l₁, l₂, -, hold, hsplit, herase⟩ :=
        List.exists_of_eraseP (p := fun e => decide (e.seq = seq)) hmem (by simpa using hseq)
      have hperm : s.pending.Perm (old :: s.pending.eraseP fun e => e.seq = seq) := by
        rw [herase, hsplit]
        exact List.perm_middle
      have hold' : old.seq = seq := by simpa using hold
      refine ⟨?_, ?_, h.file, h.calls_accepted, h.returned_accepted, hreports _ (by simp)⟩
      · refine h.view.drop hperm rfl (fun _ => rfl) rfl (List.Subset.refl _) (List.Subset.refl _)
          (Or.inl (hold'.symm ▸ hdel)) ?_
        intro τ hτ hs
        refine served_of_reports hs (hholds _ τ ?_)
        intro heq
        have hnodup : (old.seq :: eventSeqs (s.pending.eraseP fun e => e.seq = seq)).Nodup :=
          (hperm.map KafkaWalEvent.seq).nodup_iff.mp h.view.nodup
        have hgone := (List.nodup_cons.mp hnodup).1
        have hτ' : τ ∈ eventSeqs (s.pending.eraseP fun e => e.seq = seq) := hτ
        rw [hold', ← heq] at hgone
        exact hgone (heq ▸ hτ')
      · have hlen := hperm.length_eq
        rw [List.length_cons] at hlen
        have hb := h.bounded
        show (s.pending.eraseP fun e => e.seq = seq).length ≤ maxWalEvents
        omega

theorem reportStep_ok (h : BufferOk s) (i : Nat) (ok : Bool) : BufferOk (s.reportStep i ok) := by
  unfold reportStep
  cases hr : s.reports[i]? with
  | none => exact h
  | some r =>
      obtain ⟨seq, stage⟩ := r
      cases stage with
      | failed =>
          refine ⟨?_, ?_, h.file, h.calls_accepted, h.returned_accepted, ?_⟩
          · refine markDeliveryFailed_ok h.view seq rfl rfl (fun _ => rfl) rfl rfl rfl ?_
            intro τ hτ hs
            exact served_of_reports hs fun hrep =>
              reportHolds_eraseIdx hr hrep fun heq => absurd heq hτ
          · show (modifyFirst _ _ s.pending).length ≤ maxWalEvents
            rw [length_modifyFirst]
            exact h.bounded
          · intro r' hr' hst
            exact h.reports_delivered r' (List.mem_of_mem_eraseIdx hr') hst
      | delivered => exact h.takeDelivered hr
      | taken persist =>
          cases persist with
          | false => exact h.setReport hr rfl s.file h.file s.acks
          | true =>
              cases ok with
              | false => exact h.setReport hr rfl s.file h.file s.acks
              | true => exact h.setReport hr rfl _ (walWritten_persist h) s.acks
      | persisted =>
          dsimp only
          cases s.acks seq with
          | none => exact h.endReport hr rfl s.snapshot _
          | some ack => exact h.setReport hr rfl s.file h.file _
      | acked key editSeq => exact h.endReport hr rfl _ _

/-! ### Batches -/

/-- What a batch can do: hand something over and go on, or flag what was not taken. -/
theorem handOver_cases (s : Kafka) (ok : Bool) (b : HandOver) :
    (∃ flight b', s.handOver ok b = ({ s with inFlight := flight }, b') ∧ s.inFlight ⊆ flight ∧
      (∀ σ ∈ b.seqs, σ ∈ flight ∨ σ ∈ b'.seqs) ∧
      (∀ σ ∈ flight, σ ∈ s.inFlight ∨ σ ∈ b.seqs) ∧ b'.seqs ⊆ b.seqs) ∨
    ∃ seq b', s.handOver ok b = (s.markDeliveryFailed seq, b') ∧
      (∀ σ ∈ b.seqs, σ ≠ seq → σ ∈ b'.seqs) ∧ b'.seqs ⊆ b.seqs := by
  have hsame : ∀ b' : HandOver, s.handOver ok b = (s, b') → b'.seqs = b.seqs →
      ∃ flight b', s.handOver ok b = ({ s with inFlight := flight }, b') ∧ s.inFlight ⊆ flight ∧
        (∀ σ ∈ b.seqs, σ ∈ flight ∨ σ ∈ b'.seqs) ∧
        (∀ σ ∈ flight, σ ∈ s.inFlight ∨ σ ∈ b.seqs) ∧ b'.seqs ⊆ b.seqs := by
    intro b' heq hseqs
    refine ⟨s.inFlight, b', heq, List.Subset.refl _, ?_, fun σ hσ => Or.inl hσ, ?_⟩
    · rw [hseqs]
      exact fun σ hσ => Or.inr hσ
    · rw [hseqs]
      exact List.Subset.refl _
  cases b with
  | next batch =>
      cases batch with
      | nil => exact Or.inl (hsame (.next []) rfl rfl)
      | cons e rest =>
          cases ok with
          | false => exact Or.inl (hsame (.refused e.seq rest) rfl rfl)
          | true =>
              refine Or.inl ⟨s.inFlight ++ [e.seq], .next rest, rfl, List.subset_append_left _ _, ?_,
                ?_, List.subset_cons_self _ _⟩
              · intro σ hσ
                rcases List.mem_cons.mp hσ with rfl | hσ
                · exact Or.inl (List.mem_append_right _ (List.mem_singleton.mpr rfl))
                · exact Or.inr hσ
              · intro σ hσ
                rcases List.mem_append.mp hσ with hσ | hσ
                · exact Or.inl hσ
                · rw [List.mem_singleton.mp hσ]
                  exact Or.inr List.mem_cons_self
  | refused seq rest =>
      refine Or.inr ⟨seq, .next rest, rfl, ?_, List.subset_cons_self _ _⟩
      intro σ hσ hne
      exact (List.mem_cons.mp hσ).resolve_left hne

/-- An event of a batch is with `librdkafka` or in what is left of the batch. -/
theorem Served.handed (h : s.Served σ) {flight : List Int} {replay retry : HandOver}
    (hflight : s.inFlight ⊆ flight)
    (hreplay : σ ∈ s.replay.seqs → σ ∈ flight ∨ σ ∈ replay.seqs)
    (hretry : σ ∈ s.retry.seqs → σ ∈ flight ∨ σ ∈ retry.seqs) :
    Served { s with inFlight := flight, replay := replay, retry := retry } σ := by
  rcases h with h | h | h | h | h | h
  · exact .of_inFlight (hflight h)
  · exact Or.inr (Or.inl h)
  · exact .of_call h
  · rcases hreplay h with h | h
    · exact .of_inFlight h
    · exact .of_replay h
  · rcases hretry h with h | h
    · exact .of_inFlight h
    · exact .of_retry h
  · exact .of_report h

/-- A batch goes on, and every event is still seen to. -/
theorem BufferOk.handed (h : BufferOk s) {flight : List Int} {replay retry : HandOver}
    (hflight : s.inFlight ⊆ flight)
    (hreplay : ∀ σ ∈ s.replay.seqs, σ ∈ flight ∨ σ ∈ replay.seqs)
    (hretry : ∀ σ ∈ s.retry.seqs, σ ∈ flight ∨ σ ∈ retry.seqs) :
    BufferOk { s with inFlight := flight, replay := replay, retry := retry } := by
  refine ⟨?_, h.bounded, h.file, h.calls_accepted, h.returned_accepted, h.reports_delivered⟩
  refine h.view.widen rfl rfl (fun _ => rfl) rfl (List.Subset.refl _) rfl ?_
  intro σ _ hσ
  exact Served.handed hσ hflight (hreplay σ) (hretry σ)

/-- An event of a batch was not taken, and has its flag again. -/
theorem BufferOk.flagged (h : BufferOk s) (seq : Int) {replay retry : HandOver}
    (hreplay : ∀ σ ∈ s.replay.seqs, σ ≠ seq → σ ∈ replay.seqs)
    (hretry : ∀ σ ∈ s.retry.seqs, σ ≠ seq → σ ∈ retry.seqs) :
    BufferOk { s.markDeliveryFailed seq with replay := replay, retry := retry } := by
  refine ⟨?_, ?_, h.file, h.calls_accepted, h.returned_accepted, h.reports_delivered⟩
  · refine markDeliveryFailed_ok h.view seq rfl rfl (fun _ => rfl) rfl rfl rfl ?_
    intro σ hne hσ
    exact hσ.handed (List.Subset.refl _) (fun hb => Or.inr (hreplay σ hb hne))
      fun hb => Or.inr (hretry σ hb hne)
  · show (modifyFirst _ _ s.pending).length ≤ maxWalEvents
    rw [length_modifyFirst]
    exact h.bounded

theorem retryStep_ok (h : BufferOk s) (ok : Bool) : BufferOk (s.retryStep ok) := by
  unfold retryStep
  rcases handOver_cases s ok s.retry with ⟨flight, b, heq, hflight, hb, -⟩ | ⟨seq, b, heq, hb, -⟩
  · rw [heq]
    exact h.handed hflight (fun σ hσ => Or.inr hσ) hb
  · rw [heq]
    exact h.flagged seq (fun σ hσ _ => hσ) hb

theorem replayStep_ok (h : BufferOk s) (ok : Bool) : BufferOk (s.replayStep ok) := by
  unfold replayStep
  rcases handOver_cases s ok s.replay with ⟨flight, b, heq, hflight, hb, -⟩ | ⟨seq, b, heq, hb, -⟩
  · rw [heq]
    exact h.handed hflight hb fun σ hσ => Or.inr hσ
  · rw [heq]
    exact h.flagged seq hb fun σ hσ _ => hσ

/-- The flagged events go into the batch that takes their flags. -/
theorem retryBegin_ok (h : BufferOk s) : BufferOk s.retryBegin := by
  unfold retryBegin
  by_cases hready : s.init = .running ∧ s.retry = .next []
  · rw [if_pos hready]
    refine ⟨?_, ?_, h.file, h.calls_accepted, h.returned_accepted, h.reports_delivered⟩
    · refine h.view.flag (f := KafkaWalEvent.unflagged) (fun _ => rfl) rfl rfl (fun _ => rfl) rfl rfl
        rfl ?_
      intro e he hseen
      refine Or.inl ?_
      rcases hseen with hs | hf
      · refine Served.handed hs (List.Subset.refl _) (fun hb => Or.inr hb) ?_
        intro hb
        rw [hready.2] at hb
        cases hb
      · exact .of_retry (List.mem_map_of_mem (List.mem_filter.mpr ⟨he, hf⟩))
    · show (s.pending.map _).length ≤ maxWalEvents
      rw [List.length_map]
      exact h.bounded
  · rw [if_neg hready]
    exact h

/-! ### The start -/

theorem le_foldl_max (seqs : List Int) (m : Int) :
    m ≤ seqs.foldl max m ∧ ∀ σ ∈ seqs, σ ≤ seqs.foldl max m := by
  induction seqs generalizing m with
  | nil => exact ⟨Int.le_refl m, fun σ hσ => absurd hσ List.not_mem_nil⟩
  | cons τ rest ih =>
      obtain ⟨hm, hrest⟩ := ih (max m τ)
      refine ⟨Int.le_trans (Int.le_max_left m τ) hm, ?_⟩
      intro σ hσ
      rcases List.mem_cons.mp hσ with rfl | hσ
      · exact Int.le_trans (Int.le_max_right m σ) hm
      · exact hrest σ hσ

/-- What is read from a file of this program. -/
theorem loaded_events {file : JsonText} (h : WalWritten file) :
    (eventSeqs ((kafkaWalParse file).getD [])).Nodup ∧
      (∀ σ ∈ eventSeqs ((kafkaWalParse file).getD []), 0 < σ) ∧
      ((kafkaWalParse file).getD []).length ≤ maxWalEvents := by
  rcases h with rfl | ⟨events, rfl, hnodup, hpos, hlen⟩
  · exact ⟨List.nodup_nil, fun σ hσ => absurd hσ List.not_mem_nil, Nat.zero_le _⟩
  · rw [parse_serialize]
    have hseqs : eventSeqs ((events.filter (·.persistent)).map KafkaWalEvent.unflagged) =
        eventSeqs (events.filter (·.persistent)) := by
      unfold eventSeqs
      rw [List.map_map]
      rfl
    have hsub : (eventSeqs (events.filter (·.persistent))).Sublist (eventSeqs events) :=
      List.filter_sublist.map _
    refine ⟨?_, ?_, ?_⟩
    · show (eventSeqs (List.map _ _)).Nodup
      rw [hseqs]
      exact hnodup.sublist hsub
    · intro σ hσ
      have hσ' : σ ∈ eventSeqs (List.map KafkaWalEvent.unflagged _) := hσ
      rw [hseqs] at hσ'
      exact hpos σ (hsub.subset hσ')
    · show (List.map _ _).length ≤ maxWalEvents
      rw [List.length_map]
      exact Nat.le_trans (List.length_filter_le _ _) hlen

/-- The file is read into a buffer that nobody has used. -/
theorem loadWal_ok (hblank : Blank s) (hfile : WalWritten s.file) :
    BufferOk { s.loadWal with init := .loaded } := by
  obtain ⟨hnodup, hpos, hlen⟩ := loaded_events hfile
  have hmax := le_foldl_max (eventSeqs ((kafkaWalParse s.file).getD [])) 0
  have hcalls : numberedSeqs s.calls = [] := by
    rw [hblank.calls]
    rfl
  refine ⟨⟨?_, ?_, ?_, ?_, ?_, ?_⟩, hlen, hfile, ?_, ?_, ?_⟩
  · intro σ
    show (eventSeqs ((kafkaWalParse s.file).getD [])).count σ + (numberedSeqs s.calls).count σ ≤ 1
    rw [hcalls, List.count_nil]
    exact List.nodup_iff_count_le_one.mp hnodup σ
  · exact fun σ hσ => ⟨hpos σ hσ, hmax.2 σ hσ⟩
  · intro σ hσ
    have hσ' : σ ∈ numberedSeqs s.calls := hσ
    rw [hcalls] at hσ'
    cases hσ'
  · exact hmax.1
  · exact fun e _ => Or.inl (Or.inr (Or.inl rfl))
  · intro σ hσ
    have hσ' : σ ∈ s.accepted := hσ
    rw [hblank.accepted] at hσ'
    cases hσ'
  · intro c hc
    have hc' : c ∈ s.calls := hc
    rw [hblank.calls] at hc'
    cases hc'
  · intro σ hσ
    have hσ' : σ ∈ s.returned := hσ
    rw [hblank.returned] at hσ'
    cases hσ'
  · intro r hr
    have hr' : r ∈ s.reports := hr
    rw [hblank.reports] at hr'
    cases hr'

/-- Between two stages of the start, other than the one that reads the file. -/
theorem BufferOk.initTo (h : BufferOk s) (init : InitStage) {replay : HandOver}
    (hserved : ∀ σ ∈ eventSeqs s.pending, s.Served σ →
      Served { s with init := init, replay := replay } σ) :
    BufferOk { s with init := init, replay := replay } :=
  ⟨h.view.widen rfl rfl (fun _ => rfl) rfl (List.Subset.refl _) rfl hserved, h.bounded, h.file,
    h.calls_accepted, h.returned_accepted, h.reports_delivered⟩

theorem Served.past_init (h : s.Served σ) (hinit : s.init ≠ .loaded) (init : InitStage) :
    Served { s with init := init } σ := by
  rcases h with h | h | h
  · exact .of_inFlight h
  · exact absurd h hinit
  · exact Or.inr (Or.inr h)

/-- The buffer is as it should be, and untouched until the file has been read. -/
structure ProducerOk (s : Kafka) : Prop where
  buffer : BufferOk s
  blank : s.init = .off ∨ s.init = .ready → Blank s

theorem initStep_ok (h : ProducerOk s) : BufferOk s.initStep := by
  unfold initStep
  cases hinit : s.init with
  | off =>
      exact h.buffer.initTo .ready fun σ _ hσ => hσ.past_init (by rw [hinit]; decide) .ready
  | ready => exact loadWal_ok (h.blank (Or.inr hinit)) h.buffer.file
  | loaded => exact h.buffer.initTo .replaying fun σ hσ _ => .of_replay hσ
  | replaying =>
      dsimp only
      split
      · exact h.buffer.initTo .running fun σ _ hσ => hσ.past_init (by rw [hinit]; decide) .running
      · exact h.buffer
  | running => exact h.buffer

/-- The stage of the start is for the start alone to change. -/
theorem buffer_init (s : Kafka) (e : KafkaWalEvent) : (s.buffer e).2.init = s.init := by
  rcases buffer_cases s e with ⟨hbuf, -⟩ | ⟨k, old, -, hbuf⟩
  · rw [hbuf]
  · rw [hbuf]

theorem callStep_init (s : Kafka) (i : Nat) (ok : Bool) : (s.callStep i ok).init = s.init := by
  unfold callStep
  cases s.calls[i]? with
  | none => rfl
  | some c =>
      dsimp only
      cases c.stage with
      | numbered => exact buffer_init s c.event
      | buffered old persist =>
          cases old with
          | none => rfl
          | some old => rfl
      | forgot persist =>
          cases persist with
          | false => rfl
          | true =>
              cases ok with
              | false => rfl
              | true => rfl
      | persisted =>
          cases ok with
          | false => rfl
          | true => rfl
      | refused => rfl
      | returning =>
          cases c.item with
          | none => rfl
          | some item => rfl

theorem reportStep_init (s : Kafka) (i : Nat) (ok : Bool) : (s.reportStep i ok).init = s.init := by
  unfold reportStep
  cases s.reports[i]? with
  | none => rfl
  | some r =>
      obtain ⟨seq, stage⟩ := r
      cases stage with
      | failed => rfl
      | delivered =>
          unfold takeDelivered
          dsimp only
          cases s.pending.find? fun e => e.seq = seq with
          | none => rfl
          | some e => rfl
      | taken persist =>
          cases persist with
          | false => rfl
          | true =>
              cases ok with
              | false => rfl
              | true => rfl
      | persisted =>
          dsimp only
          cases s.acks seq with
          | none => rfl
          | some ack => rfl
      | acked key editSeq => rfl

theorem handOver_init (s : Kafka) (ok : Bool) (b : HandOver) : (s.handOver ok b).1.init = s.init := by
  rcases handOver_cases s ok b with ⟨flight, b', heq, -⟩ | ⟨seq, b', heq, -⟩
  · rw [heq]
  · rw [heq]
    rfl

theorem produce_init (s : Kafka) (payload : List (BitVec 8)) (durable : Bool)
    (item : Option DirtyItem) : (s.produce payload durable item).init = s.init := by
  unfold produce
  split
  · rfl
  · rfl

theorem kafkaStep_init {l : KafkaLabel} (hl : l ≠ .init) : (kafkaStep s l).init = s.init := by
  cases l with
  | init => exact absurd rfl hl
  | replay ok => exact handOver_init s ok s.replay
  | produce payload durable => exact produce_init s payload durable none
  | offline n payload =>
      unfold kafkaStep
      dsimp only
      cases s.snapshot.copied[n]? with
      | none => rfl
      | some item => exact produce_init s payload false (some item)
  | call i ok => exact callStep_init s i ok
  | report seq err =>
      unfold kafkaStep report
      dsimp only
      split
      · rfl
      · rfl
  | callback i ok => exact reportStep_init s i ok
  | retryBegin =>
      unfold kafkaStep retryBegin
      dsimp only
      split
      · rfl
      · rfl
  | retry ok => exact handOver_init s ok s.retry
  | snapshot op => rfl

/-- No call passes the check of `g_ready` before the file has been read. -/
def LoadedFirst (s : Kafka) : KafkaLabel → Prop
  | .produce _ _ => s.init ≠ .ready
  | .offline _ _ => s.init ≠ .ready
  | _ => True

theorem produce_off {payload : List (BitVec 8)} {durable : Bool} {item : Option DirtyItem}
    (h : s.init = .off) : s.produce payload durable item = s := by
  unfold produce
  rw [if_pos h]

/-- Nobody touches the buffer before the file is read. -/
theorem Blank.step (h : Blank s) {l : KafkaLabel} (hinit : s.init = .off ∨ s.init = .ready)
    (hl : LoadedFirst s l) (hne : l ≠ .init) : Blank (kafkaStep s l) := by
  cases l with
  | init => exact absurd rfl hne
  | replay ok =>
      unfold kafkaStep replayStep
      dsimp only
      rw [h.replay]
      exact ⟨h.pending, h.seq, h.inFlight, h.calls, h.reports, rfl, h.retry, h.accepted, h.returned,
        h.delivered, h.offline⟩
  | produce payload durable =>
      show Blank (s.produce payload durable none)
      rw [produce_off (hinit.resolve_right hl)]
      exact h
  | offline n payload =>
      unfold kafkaStep
      dsimp only
      cases s.snapshot.copied[n]? with
      | none => exact h
      | some item =>
          show Blank (s.produce payload false (some item))
          rw [produce_off (hinit.resolve_right hl)]
          exact h
  | call i ok =>
      unfold kafkaStep callStep
      rw [h.calls]
      exact h
  | report seq err =>
      show Blank (s.report seq err)
      unfold report
      rw [if_neg (by rw [h.inFlight]; exact List.not_mem_nil)]
      exact h
  | callback i ok =>
      unfold kafkaStep reportStep
      rw [h.reports]
      exact h
  | retryBegin =>
      unfold kafkaStep retryBegin
      dsimp only
      rw [if_neg ?_]
      · exact h
      · intro hrun
        rcases hinit with hinit | hinit
        · rw [hinit] at hrun
          exact absurd hrun.1 (by decide)
        · rw [hinit] at hrun
          exact absurd hrun.1 (by decide)
  | retry ok =>
      unfold kafkaStep retryStep
      dsimp only
      rw [h.retry]
      exact ⟨h.pending, h.seq, h.inFlight, h.calls, h.reports, h.replay, rfl, h.accepted, h.returned,
        h.delivered, h.offline⟩
  | snapshot op =>
      exact ⟨h.pending, h.seq, h.inFlight, h.calls, h.reports, h.replay, h.retry, h.accepted,
        h.returned, h.delivered, h.offline⟩

theorem BufferOk.step (h : ProducerOk s) (l : KafkaLabel) : BufferOk (kafkaStep s l) := by
  cases l with
  | init => exact initStep_ok h
  | replay ok => exact replayStep_ok h.buffer ok
  | produce payload durable => exact produce_ok h.buffer payload durable none
  | offline n payload =>
      unfold kafkaStep
      dsimp only
      cases s.snapshot.copied[n]? with
      | none => exact h.buffer
      | some item => exact produce_ok h.buffer payload false (some item)
  | call i ok => exact callStep_ok h.buffer i ok
  | report seq err => exact report_ok h.buffer seq err
  | callback i ok => exact reportStep_ok h.buffer i ok
  | retryBegin => exact retryBegin_ok h.buffer
  | retry ok => exact retryStep_ok h.buffer ok
  | snapshot op =>
      exact ⟨h.buffer.view, h.buffer.bounded, h.buffer.file, h.buffer.calls_accepted,
        h.buffer.returned_accepted, h.buffer.reports_delivered⟩

theorem initStep_start (h : s.initStep.init = .off ∨ s.initStep.init = .ready) : s.init = .off := by
  unfold initStep at h
  cases hinit : s.init with
  | off => rfl
  | ready => simp [hinit] at h
  | loaded => simp [hinit] at h
  | replaying =>
      rw [hinit] at h
      dsimp only at h
      split at h
      · simp at h
      · simp [hinit] at h
  | running => simp [hinit] at h

/-- Up to the reading of the file the producer is untouched. -/
theorem blank_kafkaStep (h : s.init = .off ∨ s.init = .ready → Blank s) {l : KafkaLabel}
    (hl : LoadedFirst s l)
    (hafter : (kafkaStep s l).init = .off ∨ (kafkaStep s l).init = .ready) :
    Blank (kafkaStep s l) := by
  by_cases hne : l = .init
  · subst hne
    have hoff := initStep_start hafter
    have hb := h (Or.inl hoff)
    unfold kafkaStep initStep
    rw [hoff]
    exact ⟨hb.pending, hb.seq, hb.inFlight, hb.calls, hb.reports, hb.replay, hb.retry, hb.accepted,
      hb.returned, hb.delivered, hb.offline⟩
  · have hbefore : s.init = .off ∨ s.init = .ready := by
      rw [kafkaStep_init hne] at hafter
      exact hafter
    exact (h hbefore).step hbefore hl hne

theorem ProducerOk.step (h : ProducerOk s) {l : KafkaLabel} (hl : LoadedFirst s l) :
    ProducerOk (kafkaStep s l) :=
  ⟨BufferOk.step h l, blank_kafkaStep h.blank hl⟩

theorem ProducerOk.boot {file : JsonText} (hfile : WalWritten file) (snapshot : ConfigSnapshot) :
    ProducerOk (boot file snapshot) := by
  refine ⟨⟨⟨?_, ?_, ?_, Int.le_refl 0, ?_, ?_⟩, Nat.zero_le _, hfile, ?_, ?_, ?_⟩,
    fun _ => ⟨rfl, rfl, rfl, rfl, rfl, rfl, rfl, rfl, rfl, rfl, rfl⟩⟩
  · exact fun σ => Nat.zero_le 1
  · exact fun σ hσ => absurd hσ List.not_mem_nil
  · exact fun σ hσ => absurd hσ List.not_mem_nil
  · exact fun e he => absurd he List.not_mem_nil
  · exact fun σ hσ => absurd hσ List.not_mem_nil
  · exact fun c hc => absurd hc List.not_mem_nil
  · exact fun σ hσ => absurd hσ List.not_mem_nil
  · exact fun r hr => absurd hr List.not_mem_nil

/--
**No event is lost.**  From any file this program wrote, in every order of the threads in which no
call passes the check of `g_ready` before the file has been read: an event whose call has returned is
in the buffer, or was delivered or evicted; no two events share a sequence; the buffer keeps to its
bound; and each event in it is with `librdkafka`, has the retry flag, or is in the hands of a thread
about to see to that.  The file is one this program wrote again, and it gives back, in order, the
durable ones among whatever events are written to it.
-/
theorem run_events_kept {file : JsonText} {snapshot : ConfigSnapshot} {ls : List KafkaLabel}
    {s : Kafka} (hfile : WalWritten file)
    (h : Run kafkaStep LoadedFirst (boot file snapshot) ls s) :
    (∀ σ ∈ s.returned, σ ∈ eventSeqs s.pending ∨ σ ∈ s.delivered ∨ σ ∈ s.evicted) ∧
      (eventSeqs s.pending).Nodup ∧ s.pending.length ≤ maxWalEvents ∧
      (∀ e ∈ s.pending, e.seq ∈ s.inFlight ∨ e.deliveryFailed = true ∨ s.Held e.seq) ∧
      WalWritten s.file ∧
      ∀ events, kafkaWalParse (kafkaWalSerialize events) =
        some ((events.filter (·.persistent)).map KafkaWalEvent.unflagged) := by
  have hs := h.inv ProducerOk (fun _ _ hs hl => hs.step hl) (ProducerOk.boot hfile snapshot)
  refine ⟨?_, hs.buffer.view.nodup, hs.buffer.bounded, ?_, hs.buffer.file, parse_serialize⟩
  · intro σ hσ
    exact hs.buffer.view.kept σ (hs.buffer.returned_accepted σ hσ)
  · intro e he
    rcases hs.buffer.view.seen e he with (hin | hheld) | hfailed
    · exact Or.inl hin
    · exact Or.inr (Or.inr hheld)
    · exact Or.inr (Or.inl hfailed)

/-- A durable event in the file of the last process. -/
def leftOver : JsonText := kafkaWalSerialize [⟨7, [], false, true⟩]

def emptySnapshot : ConfigSnapshot := ⟨∅, true, []⟩

/-- A call to its end. -/
def wholeCall : List KafkaLabel := List.replicate 5 (.call 0 true)

def startLabels : List KafkaLabel := [.init, .init, .init]

/-- The call goes to its end and is reported delivered; the replay is refused. -/
def replayLabels : List KafkaLabel :=
  wholeCall ++ [.report 8 false, .callback 0 true, .callback 0 true, .callback 0 true, .replay false,
    .replay false]

def replayed : Kafka :=
  replayLabels.foldl kafkaStep
    (kafkaStep (startLabels.foldl kafkaStep (boot leftOver emptySnapshot)) (.produce [] false))

theorem run_events_kept_replay :
    replayed.pending = [⟨7, [], true, true⟩] ∧ replayed.returned = [8] ∧ replayed.delivered = [8] ∧
      ∀ e ∈ replayed.pending,
        e.seq ∈ replayed.inFlight ∨ e.deliveryFailed = true ∨ replayed.Held e.seq := by
  have hstart : Run kafkaStep LoadedFirst (boot leftOver emptySnapshot) startLabels _ :=
    Run.of_labels _ startLabels fun s => by simp [startLabels, LoadedFirst]
  have hready : (startLabels.foldl kafkaStep (boot leftOver emptySnapshot)).init = .replaying := rfl
  have hproduce := hstart.snoc (.produce [] false) (by
    show _ ≠ InitStage.ready
    rw [hready]
    decide)
  have hrest : Run kafkaStep LoadedFirst
      (kafkaStep (startLabels.foldl kafkaStep (boot leftOver emptySnapshot)) (.produce [] false))
      replayLabels _ :=
    Run.of_labels _ replayLabels
      fun s => by simp [replayLabels, wholeCall, List.replicate, LoadedFirst]
  exact ⟨rfl, rfl, rfl, (run_events_kept (Or.inr ⟨_, rfl, by decide, by decide, by decide⟩)
    (hproduce.append hrest)).2.2.2.1⟩

/-- `g_ready` is set, a call runs to its end, and then the file is read. -/
def earlyLabels : List KafkaLabel := [.init, .produce [] false] ++ wholeCall ++ [.init]

/-- The event of the call is gone, though it was neither delivered nor evicted. -/
theorem early_event_lost :
    ∃ ls s, Run kafkaStep (fun _ _ => True) (boot .empty emptySnapshot) ls s ∧
      ∃ σ ∈ s.returned, σ ∉ eventSeqs s.pending ∧ σ ∉ s.delivered ∧ σ ∉ s.evicted :=
  ⟨earlyLabels, _, Run.of_labels _ earlyLabels fun _ _ _ => trivial, 1, by decide, by decide,
    by decide, by decide⟩

end Kafka

end FastRG
