/-
What a caller of `cli_request_run` can rely on.

Two numberings carry the argument.  Every message has a number of its own, and at any time it is in
one place: with a poster, on its way, or in the log.  And every request has a sequence, which comes
round again after 2^30 calls; the mark of an abandoned request and its verdict know it by that alone.
A request that is still waiting, and is not the present caller's, is the one that the mark names, as
long as nobody sets the mark over it: that is what a second time-out does, and where the loop then
carries out a request whose caller has long gone.
-/
import Mathlib.Data.List.Nodup
import FastRG.Proofs.MailMoves

namespace FastRG.Mailbox

variable {s t : Mailbox}

/-! ### A message is in one place -/

theorem northboundMsgs_append (l l' : List CpMail) :
    northboundMsgs (l ++ l') = northboundMsgs l ++ northboundMsgs l' := List.filterMap_append

theorem mem_northboundMsgs {l : List CpMail} {m : NorthboundMsg} :
    m ∈ northboundMsgs l ↔ ∃ slot type, CpMail.mail slot (.northbound type m) ∈ l := by
  unfold northboundMsgs
  rw [List.mem_filterMap]
  refine ⟨fun h => ?_, fun ⟨slot, type, h⟩ => ⟨_, h, rfl⟩⟩
  obtain ⟨mail, hmem, heq⟩ := h
  split at heq
  · cases heq
    exact ⟨_, _, hmem⟩
  · cases heq

/-- The number of a posting. -/
def postingCalls : Posting → List Nat
  | .northbound _ m => [m.call]
  | _ => []

/-- The number of a caller that has a slot. -/
def callerCalls : CliCaller → List Nat
  | .posting _ _ m => [m.call]
  | _ => []

/-- The numbers of some mails. -/
def mailCalls (mails : List CpMail) : List Nat := (northboundMsgs mails).map NorthboundMsg.call

/-- The numbers of the messages the loop is done with. -/
def logCalls (log : List Receipt) : List Nat := log.map fun e => e.msg.call

/-- The numbers in the hands of the posters. -/
def handCalls (hands : List (Nat × Posting)) : List Nat := hands.flatMap fun x => postingCalls x.2

/-- How often a number is in use. -/
def uses (s : Mailbox) (k : Nat) : Nat :=
  (logCalls s.log).count k + (mailCalls s.onWay).count k + (handCalls s.hands).count k +
    (callerCalls s.caller).count k

/-- No number is in use twice, and none that has not been given out. -/
def Numbered (s : Mailbox) : Prop := ∀ k, s.uses k ≤ if k < s.calls then 1 else 0

theorem mailCalls_append (l l' : List CpMail) (k : Nat) :
    (mailCalls (l ++ l')).count k = (mailCalls l).count k + (mailCalls l').count k := by
  unfold mailCalls
  rw [northboundMsgs_append, List.map_append, List.count_append]

theorem mailCalls_mail (slot : Nat) (p : Posting) : mailCalls [.mail slot p] = postingCalls p := by
  cases p with
  | northbound type m => rfl
  | etcd ev => rfl
  | dp type mbuf => rfl

theorem handCalls_append (hands : List (Nat × Posting)) (slot : Nat) (p : Posting) (k : Nat) :
    (handCalls (hands ++ [(slot, p)])).count k =
      (handCalls hands).count k + (postingCalls p).count k := by
  unfold handCalls
  rw [List.flatMap_append, List.count_append]
  simp

/-- A posting that leaves the hands. -/
theorem handCalls_eraseIdx {hands : List (Nat × Posting)} {i slot : Nat} {p : Posting}
    (hx : hands[i]? = some (slot, p)) (k : Nat) :
    (postingCalls p).count k + (handCalls (hands.eraseIdx i)).count k =
      (handCalls hands).count k := by
  obtain ⟨hi, hget⟩ := List.getElem?_eq_some_iff.mp hx
  have hperm : ((slot, p) :: hands.eraseIdx i).Perm hands := by
    rw [← hget]
    exact List.getElem_cons_eraseIdx_perm hi
  have hk := (hperm.flatMap_right fun x => postingCalls x.2).count_eq k
  rw [List.flatMap_cons, List.count_append] at hk
  exact hk

/-- A mail put on `cp_q` is on its way. -/
theorem mailCalls_pushed (s : Mailbox) (mail : CpMail) (k : Nat) :
    (mailCalls ((s.cpQ ++ [mail]) ++ s.processing)).count k =
      (mailCalls [mail]).count k + (mailCalls s.onWay).count k := by
  unfold onWay
  simp only [mailCalls_append]
  omega

/-- The mail the loop is at is on its way, until it is done with. -/
theorem mailCalls_done {job : Job} (hcur : s.current = some job) (k : Nat) :
    (mailCalls s.onWay).count k = (mailCalls [job.mail]).count k +
      (mailCalls (s.cpQ ++ s.batch)).count k := by
  unfold onWay processing
  rw [hcur]
  simp only [Option.map_some, Option.toList_some, mailCalls_append]
  omega

/-- No step uses a number twice. -/
theorem step_numbered (h : s.Numbered) (l : MailLabel) : (mailStep s l).Numbered := by
  have hmove := mailMove s l
  revert hmove
  generalize mailStep s l = t
  intro hmove k
  have hk := h k
  unfold uses at hk
  cases hmove with
  | quiet l f g r => exact hk
  | taken f slot hp =>
      rename_i p
      show (logCalls s.log).count k + (mailCalls s.onWay).count k +
        (handCalls (s.hands ++ [(slot, p)])).count k + (callerCalls s.caller).count k ≤ _
      have hnone : postingCalls p = [] := by
        cases p with
        | northbound type m => exact absurd rfl (hp type m)
        | etcd ev => rfl
        | dp type mbuf => rfl
      rw [handCalls_append, hnone, List.count_nil]
      exact hk
  | numbered f slot type m =>
      show (logCalls s.log).count k + (mailCalls s.onWay).count k +
        (handCalls (s.hands ++ [(slot, Posting.northbound type { m with call := s.calls })])).count k +
        (callerCalls s.caller).count k ≤ if k < s.calls + 1 then 1 else 0
      rw [handCalls_append]
      simp only [postingCalls, List.count_singleton, beq_iff_eq]
      split_ifs at hk ⊢ <;> omega
  | pushed hx g =>
      rename_i i slot p
      show (logCalls s.log).count k + (mailCalls ((s.cpQ ++ [CpMail.mail slot p]) ++ s.processing)).count k +
        (handCalls (s.hands.eraseIdx i)).count k + (callerCalls s.caller).count k ≤
        if k < s.calls then 1 else 0
      have herase := handCalls_eraseIdx hx k
      rw [mailCalls_pushed, mailCalls_mail]
      omega
  | putDown hx f g r =>
      rename_i i slot p
      show (logCalls s.log).count k + (mailCalls s.onWay).count k +
        (handCalls (s.hands.eraseIdx i)).count k + (callerCalls s.caller).count k ≤
        if k < s.calls then 1 else 0
      have herase := handCalls_eraseIdx hx k
      omega
  | linked ref g =>
      show (logCalls s.log).count k + (mailCalls ((s.cpQ ++ [CpMail.link ref]) ++ s.processing)).count k +
        (handCalls s.hands).count k + (callerCalls s.caller).count k ≤ if k < s.calls then 1 else 0
      rw [mailCalls_pushed]
      have hnone : (mailCalls [CpMail.link ref]).count k = 0 := rfl
      omega
  | burst hbatch hcur =>
      have hway : (mailCalls (s.cpQ.drop ringBurstSize ++
          ((s.current.map Job.mail).toList ++ s.cpQ.take ringBurstSize))).count k =
          (mailCalls s.onWay).count k := by
        have hsplit : (mailCalls (s.cpQ.take ringBurstSize ++ s.cpQ.drop ringBurstSize)).count k =
            (mailCalls s.cpQ).count k := by rw [List.take_append_drop]
        rw [mailCalls_append] at hsplit
        simp only [onWay, processing, hbatch, hcur, mailCalls_append, Option.map_none,
          Option.toList_none, List.nil_append, List.append_nil]
        omega
      show (logCalls s.log).count k + (mailCalls (s.cpQ.drop ringBurstSize ++
        ((s.current.map Job.mail).toList ++ s.cpQ.take ringBurstSize))).count k +
        (handCalls s.hands).count k + (callerCalls s.caller).count k ≤ if k < s.calls then 1 else 0
      rw [hway]
      exact hk
  | began v hcur hbatch =>
      rename_i mail rest
      have hway : s.cpQ ++ ([mail] ++ rest) = s.onWay := by
        simp only [onWay, processing, hcur, hbatch, Option.map_none, Option.toList_none,
          List.nil_append, List.cons_append]
      show (logCalls s.log).count k + (mailCalls (s.cpQ ++ ([mail] ++ rest))).count k +
        (handCalls s.hands).count k + (callerCalls s.caller).count k ≤ if k < s.calls then 1 else 0
      rw [hway]
      exact hk
  | done hcur hjob ret f r =>
      have hway := mailCalls_done hcur k
      show (logCalls s.log).count k + (mailCalls (s.cpQ ++ s.batch)).count k +
        (handCalls s.hands).count k + (callerCalls s.caller).count k ≤ if k < s.calls then 1 else 0
      omega
  | answered hcur ret f r result hresult =>
      rename_i slot type m task dropped
      have hway := mailCalls_done hcur k
      have hmsg := (receipt_type type m task dropped ret).2
      have hlog : (logCalls (s.log ++ [northboundReceipt type m task dropped ret])).count k =
          (logCalls s.log).count k + [m.call].count k := by
        unfold logCalls
        rw [List.map_append, List.count_append, List.map_singleton, hmsg]
      have hmail : mailCalls [CpMail.mail slot (.northbound type m)] = [m.call] := rfl
      rw [hmail] at hway
      show (logCalls (s.log ++ [northboundReceipt type m task dropped ret])).count k +
        (mailCalls (s.cpQ ++ s.batch)).count k + (handCalls s.hands).count k +
        (callerCalls s.caller).count k ≤ if k < s.calls then 1 else 0
      omega
  | cliFailed c ccbId payload hidle =>
      show s.uses k ≤ if k < s.calls + 1 then 1 else 0
      unfold uses
      split_ifs at hk ⊢ <;> omega
  | cliStarted c ccbId payload hidle f slot =>
      rw [hidle] at hk
      show (logCalls s.log).count k + (mailCalls s.onWay).count k + (handCalls s.hands).count k +
        [s.calls].count k ≤ if k < s.calls + 1 then 1 else 0
      simp only [callerCalls, List.count_nil] at hk
      simp only [List.count_singleton, beq_iff_eq]
      split_ifs at hk ⊢ <;> omega
  | cliPushed hcaller g =>
      rename_i slot type m
      rw [hcaller] at hk
      show (logCalls s.log).count k +
        (mailCalls ((s.cpQ ++ [CpMail.mail slot (.northbound type m)]) ++ s.processing)).count k +
        (handCalls s.hands).count k + 0 ≤ if k < s.calls then 1 else 0
      rw [mailCalls_pushed, mailCalls_mail]
      simp only [callerCalls, postingCalls] at hk ⊢
      omega
  | cliPutDown hcaller f =>
      show (logCalls s.log).count k + (mailCalls s.onWay).count k + (handCalls s.hands).count k +
        0 ≤ if k < s.calls then 1 else 0
      omega
  | cliGot hcaller hseq hsome =>
      show (logCalls s.log).count k + (mailCalls s.onWay).count k + (handCalls s.hands).count k +
        0 ≤ if k < s.calls then 1 else 0
      omega
  | cliGaveUp hcaller =>
      show (logCalls s.log).count k + (mailCalls s.onWay).count k + (handCalls s.hands).count k +
        0 ≤ if k < s.calls then 1 else 0
      omega
  | cliLeft hcaller =>
      show (logCalls s.log).count k + (mailCalls s.onWay).count k + (handCalls s.hands).count k +
        0 ≤ if k < s.calls then 1 else 0
      omega

/-- Two places with one number are one too many. -/
theorem Numbered.apart {a b : List Nat} (h : s.Numbered) {k : Nat}
    (huses : a.count k + b.count k ≤ s.uses k) (ha : k ∈ a) : k ∉ b := by
  intro hb
  have hk := h k
  have hposa : 0 < a.count k := List.count_pos_iff.mpr ha
  have hposb : 0 < b.count k := List.count_pos_iff.mpr hb
  split_ifs at hk <;> omega

/-! ### Requests -/

/-- A message is waiting for the loop. -/
def Pending (s : Mailbox) (type : NorthboundType) (m : NorthboundMsg) : Prop :=
  ∃ slot, CpMail.mail slot (.northbound type m) ∈ s.cpQ ++ s.batch

/-- The loop is at a message. -/
def At (s : Mailbox) (m : NorthboundMsg) : Prop :=
  ∃ slot type task dropped, s.current = some ⟨.mail slot (.northbound type m), task, dropped⟩

/-- A message as `cli_request_run` makes it. -/
def IsCli (type : NorthboundType) (m : NorthboundMsg) : Prop :=
  (∃ c : CliCommand, c.type = type ∧ c.cmd = m.cmd) ∧ m.seq ≠ 0 ∧ m.seq ≤ cliRequestSeqMax

/-- The request of the caller. -/
def callerMsg : CliCaller → Option NorthboundMsg
  | .posting _ _ m => some m
  | .waiting m => some m
  | _ => none

/-- A verdict that was published for a call. -/
def PublishedFor (log : List Receipt) (call verdict : Nat) : Prop :=
  ∃ e ∈ log, e.msg.call = call ∧ ∃ st ∈ e.verdicts, verdict = cliVerdict st

/-- What holds of the requests as long as no mark is overwritten and no sequence comes back. -/
structure Kept (s : Mailbox) : Prop where
  /-- What the posters hold has no waiter. -/
  hands : ∀ x ∈ s.hands, ∀ type m, x.2 = .northbound type m → m.seq = 0 ∧ m.call ∉ s.late
  late_lt : ∀ k ∈ s.late, k < s.calls
  pending_cli : ∀ type m, Pending s type m → m.seq ≠ 0 → IsCli type m
  posting_cli : ∀ slot type m, s.caller = .posting slot type m → IsCli type m
  waiting_seq : ∀ m, s.caller = .waiting m → m.seq ≠ 0
  at_seq : ∀ m, At s m → m.seq ≤ cliRequestSeqMax
  /-- A request that waits is the caller's, or the one the mark names. -/
  mark : ∀ type m, Pending s type m → m.seq ≠ 0 →
    s.caller = .waiting m ∨ s.cliRequestAbandoned = m.seq
  apart : ∀ type m type' m', Pending s type m → Pending s type' m' → m.seq ≠ 0 →
    m'.seq = m.seq → m' = m
  /-- Nothing else has the sequence of the caller. -/
  own : ∀ m, callerMsg s.caller = some m → ∀ m', (∃ type, Pending s type m') ∨ At s m' →
    m'.seq = m.seq → m' = m
  result : ∀ m, callerMsg s.caller = some m → s.cliRequestResult / 4 = m.seq →
    s.cliRequestResult % 4 ≠ cliRequestNone → PublishedFor s.log m.call (s.cliRequestResult % 4)
  received : ∀ kv ∈ s.received, PublishedFor s.log kv.1 kv.2
  late_caller : ∀ m, callerMsg s.caller = some m → m.call ∉ s.late
  late_pending : ∀ type m, Pending s type m → m.call ∈ s.late → m.seq ≠ 0
  late_job : ∀ slot type m task dropped,
    s.current = some ⟨.mail slot (.northbound type m), task, dropped⟩ → m.call ∈ s.late →
      dropped = true ∧ task.isRequest = true ∨ task = .refuse
  late_log : ∀ e ∈ s.log, e.msg.call ∈ s.late → e.ran = false ∧ e.wrote = none

theorem kept_boot : Kept boot where
  hands := fun _ h => by cases h
  late_lt := fun _ h => by cases h
  pending_cli := fun _ _ h => by
    obtain ⟨_, h⟩ := h
    cases h
  posting_cli := fun _ _ _ h => by cases h
  waiting_seq := fun _ h => by cases h
  at_seq := fun _ h => by
    obtain ⟨_, _, _, _, h⟩ := h
    cases h
  mark := fun _ _ h => by
    obtain ⟨_, h⟩ := h
    cases h
  apart := fun _ _ _ _ h => by
    obtain ⟨_, h⟩ := h
    cases h
  own := fun _ h => by cases h
  result := fun _ h => by cases h
  received := fun _ h => by cases h
  late_caller := fun _ h => by cases h
  late_pending := fun _ _ h => by
    obtain ⟨_, h⟩ := h
    cases h
  late_job := fun _ _ _ _ _ h => by cases h
  late_log := fun _ h => by cases h

/-- A caller has a sequence. -/
theorem Kept.caller_seq (h : Kept s) {m : NorthboundMsg} (hm : callerMsg s.caller = some m) :
    m.seq ≠ 0 := by
  cases hc : s.caller with
  | idle =>
      rw [hc] at hm
      cases hm
  | leaving =>
      rw [hc] at hm
      cases hm
  | posting slot type m₀ =>
      rw [hc] at hm
      cases hm
      exact (h.posting_cli slot type _ hc).2.1
  | waiting m₀ =>
      rw [hc] at hm
      cases hm
      exact h.waiting_seq _ hc

/-- A step that leaves the requests where they are. -/
theorem Kept.frame (h : Kept s) (hcaller : t.caller = s.caller) (hlog : t.log = s.log)
    (hlate : t.late = s.late) (hreceived : t.received = s.received)
    (hmark : t.cliRequestAbandoned = s.cliRequestAbandoned) (hcalls : s.calls ≤ t.calls)
    (hresult : t.cliRequestResult = s.cliRequestResult ∨ callerMsg s.caller = none)
    (hcur : t.current = s.current ∨ t.current = none)
    (hhands : ∀ x ∈ t.hands, ∀ type m, x.2 = .northbound type m → m.seq = 0 ∧ m.call ∉ s.late)
    (hpend : ∀ type m, Pending t type m → Pending s type m ∨ m.seq = 0 ∧ m.call ∉ s.late) :
    Kept t := by
  have hpending : ∀ type m, Pending t type m → m.seq ≠ 0 → Pending s type m := by
    intro type m hm hseq
    rcases hpend type m hm with hm | ⟨hzero, -⟩
    · exact hm
    · exact absurd hzero hseq
  have hat : ∀ slot type m task dropped,
      t.current = some ⟨.mail slot (.northbound type m), task, dropped⟩ →
      s.current = some ⟨.mail slot (.northbound type m), task, dropped⟩ := by
    intro slot type m task dropped hm
    rcases hcur with hcur | hcur
    · rw [← hcur]
      exact hm
    · rw [hcur] at hm
      cases hm
  have hat' : ∀ m, At t m → At s m := by
    intro m hm
    obtain ⟨slot, type, task, dropped, hm⟩ := hm
    exact ⟨slot, type, task, dropped, hat _ _ _ _ _ hm⟩
  refine ⟨?_, ?_, ?_, ?_, ?_, ?_, ?_, ?_, ?_, ?_, ?_, ?_, ?_, ?_, ?_⟩
  · rw [hlate]
    exact hhands
  · intro k hk
    rw [hlate] at hk
    exact Nat.lt_of_lt_of_le (h.late_lt k hk) hcalls
  · intro type m hm hseq
    exact h.pending_cli type m (hpending type m hm hseq) hseq
  · rw [hcaller]
    exact h.posting_cli
  · rw [hcaller]
    exact h.waiting_seq
  · intro m hm
    exact h.at_seq m (hat' m hm)
  · intro type m hm hseq
    rw [hcaller, hmark]
    exact h.mark type m (hpending type m hm hseq) hseq
  · intro type m type' m' hm hm' hseq heq
    exact h.apart type m type' m' (hpending type m hm hseq)
      (hpending type' m' hm' (by rw [heq]; exact hseq)) hseq heq
  · intro m hm m' hm' heq
    rw [hcaller] at hm
    have hseq : m.seq ≠ 0 := h.caller_seq hm
    refine h.own m hm m' ?_ heq
    rcases hm' with ⟨type, hm'⟩ | hm'
    · exact Or.inl ⟨type, hpending type m' hm' (by rw [heq]; exact hseq)⟩
    · exact Or.inr (hat' m' hm')
  · intro m hm hdec hsome
    rw [hcaller] at hm
    rcases hresult with hresult | hnone
    · rw [hresult] at hdec hsome ⊢
      rw [hlog]
      exact h.result m hm hdec hsome
    · rw [hnone] at hm
      cases hm
  · rw [hreceived, hlog]
    exact h.received
  · rw [hcaller, hlate]
    exact h.late_caller
  · intro type m hm hk
    rw [hlate] at hk
    rcases hpend type m hm with hm | ⟨-, hnot⟩
    · exact h.late_pending type m hm hk
    · exact absurd hk hnot
  · intro slot type m task dropped hm hk
    rw [hlate] at hk
    exact h.late_job slot type m task dropped (hat _ _ _ _ _ hm) hk
  · rw [hlog, hlate]
    exact h.late_log

theorem PublishedFor.mono {log : List Receipt} {call v : Nat} (h : PublishedFor log call v)
    (e : Receipt) : PublishedFor (log ++ [e]) call v := by
  obtain ⟨e', he', h⟩ := h
  exact ⟨e', List.mem_append_left _ he', h⟩

/-- The sequence and the verdict come out of the result slot as they went in. -/
theorem pack_div (seq : Nat) (st : Status) (h : seq ≤ cliRequestSeqMax) :
    cliRequestResultPack seq (cliVerdict st) / 4 = seq ∧
      cliRequestResultPack seq (cliVerdict st) % 4 = cliVerdict st := by
  unfold cliRequestResultPack
  unfold cliRequestSeqMax at h
  cases st with
  | success =>
      show (seq * 4 % 0x100000000 + 1 % 4) / 4 = seq ∧ (seq * 4 % 0x100000000 + 1 % 4) % 4 = 1
      omega
  | error =>
      show (seq * 4 % 0x100000000 + 2 % 4) / 4 = seq ∧ (seq * 4 % 0x100000000 + 2 % 4) % 4 = 2
      omega

/-- A message dropped or refused has not run. -/
theorem receipt_quiet {type : NorthboundType} {m : NorthboundMsg} {task : Task} {dropped : Bool}
    {ret : Status} (h : dropped = true ∧ task.isRequest = true ∨ task = .refuse) :
    (northboundReceipt type m task dropped ret).ran = false ∧
      (northboundReceipt type m task dropped ret).wrote = none := by
  rcases h with ⟨hd, ht⟩ | ht
  · cases task with
    | request heap work =>
        rw [hd]
        exact ⟨rfl, rfl⟩
    | refuse => cases ht
    | fire => cases ht
    | ignore => cases ht
  · rw [ht]
    exact ⟨rfl, rfl⟩

/-- The loop answers the message it is at. -/
theorem Kept.answered (h : Kept s) {slot : Nat} {type : NorthboundType} {m : NorthboundMsg}
    {task : Task} {dropped : Bool} {ret : Status}
    (hcur : s.current = some ⟨.mail slot (.northbound type m), task, dropped⟩)
    (f : List Nat) (r : List Ref) (result : Nat)
    (hresult : result = s.cliRequestResult ∨
      m.seq ≠ 0 ∧ ∃ st ∈ (northboundReceipt type m task dropped ret).verdicts,
        result = cliRequestResultPack m.seq (cliVerdict st)) :
    Kept { s with current := none, log := s.log ++ [northboundReceipt type m task dropped ret],
                  freeMailRing := f, released := r, cliRequestResult := result } := by
  have hmsg := (receipt_type type m task dropped ret).2
  have hat : At s m := ⟨slot, type, task, dropped, hcur⟩
  refine ⟨h.hands, h.late_lt, h.pending_cli, h.posting_cli, h.waiting_seq, ?_, h.mark, h.apart, ?_,
    ?_, ?_, h.late_caller, h.late_pending, ?_, ?_⟩
  · intro m' hm'
    obtain ⟨_, _, _, _, hm'⟩ := hm'
    cases hm'
  · intro m₀ hm₀ m' hm' heq
    rcases hm' with hm' | ⟨_, _, _, _, hm'⟩
    · exact h.own m₀ hm₀ m' (Or.inl hm') heq
    · cases hm'
  · intro m₀ hm₀ hdec hsome
    rcases hresult with hresult | ⟨hseq, st, hst, hresult⟩
    · rw [show result = s.cliRequestResult from hresult] at hdec hsome ⊢
      exact (h.result m₀ hm₀ hdec hsome).mono _
    · -- a verdict under the caller's sequence is the caller's own
      obtain ⟨hdiv, hmod⟩ := pack_div m.seq st (h.at_seq m hat)
      have hown : m = m₀ := by
        refine h.own m₀ hm₀ m (Or.inr hat) ?_
        rw [← hdiv, ← hresult]
        exact hdec
      refine ⟨_, List.mem_append_right _ (List.mem_singleton.mpr rfl), ?_, st, hst, ?_⟩
      · rw [hmsg, hown]
      · rw [← hmod, ← hresult]
  · intro kv hkv
    exact (h.received kv hkv).mono _
  · intro _ _ _ _ _ hm'
    cases hm'
  · intro e he hlate
    rcases List.mem_append.mp he with he | he
    · exact h.late_log e he hlate
    · obtain rfl := List.mem_singleton.mp he
      rw [hmsg] at hlate
      exact receipt_quiet (h.late_job slot type m task dropped hcur hlate)

theorem mem_mailCalls {l : List CpMail} {slot : Nat} {type : NorthboundType} {m : NorthboundMsg}
    (h : CpMail.mail slot (.northbound type m) ∈ l) : m.call ∈ mailCalls l :=
  List.mem_map_of_mem (mem_northboundMsgs.mpr ⟨slot, type, h⟩)

/-- Only a request with the sequence of the mark is dropped. -/
theorem drops_mail {v : CcbView} {mail : CpMail} (h : s.drops v mail = true) :
    ∃ slot type m, mail = .mail slot (.northbound type m) ∧ m.seq ≠ 0 ∧
      s.cliRequestAbandoned = m.seq := by
  unfold drops at h
  obtain ⟨htask, hmark⟩ := Bool.and_eq_true_iff.mp h
  cases mail with
  | link ref => cases htask
  | mail slot p =>
      cases p with
      | etcd ev => cases htask
      | dp type mbuf => cases htask
      | northbound type m =>
          unfold isAbandoned at hmark
          obtain ⟨hseq, heq⟩ := Bool.and_eq_true_iff.mp hmark
          exact ⟨slot, type, m, rfl, of_decide_eq_true hseq, beq_iff_eq.mp heq⟩

/-- The loop looks at the mark. -/
theorem Kept.began (h : Kept s) (hn : s.Numbered) {mail : CpMail} {rest : List CpMail} (v : CcbView)
    (hcur : s.current = none) (hbatch : s.batch = mail :: rest) :
    Kept { s with batch := rest
                  cliRequestAbandoned := if s.drops v mail then 0 else s.cliRequestAbandoned
                  current := some ⟨mail, mail.task v, s.drops v mail⟩ } := by
  have hpend : ∀ type m, Pending { s with batch := rest } type m → Pending s type m := by
    intro type m hm
    obtain ⟨slot, hm⟩ := hm
    refine ⟨slot, ?_⟩
    rw [hbatch]
    rcases List.mem_append.mp hm with hm | hm
    · exact List.mem_append_left _ hm
    · exact List.mem_append_right _ (List.mem_cons_of_mem mail hm)
  have hhead : ∀ slot type m, mail = .mail slot (.northbound type m) → Pending s type m := by
    intro slot type m hm
    refine ⟨slot, ?_⟩
    rw [hbatch, hm]
    exact List.mem_append_right _ List.mem_cons_self
  have hat : ∀ m, At { s with current := some ⟨mail, mail.task v, s.drops v mail⟩ } m →
      ∃ type, Pending s type m := by
    intro m hm
    obtain ⟨slot, type, task, dropped, hm⟩ := hm
    simp only [Option.some.injEq, Job.mk.injEq] at hm
    exact ⟨type, hhead slot type m hm.1⟩
  refine ⟨h.hands, h.late_lt, ?_, h.posting_cli, h.waiting_seq, ?_, ?_, ?_, ?_, h.result, h.received,
    h.late_caller, ?_, ?_, h.late_log⟩
  · intro type m hm hseq
    exact h.pending_cli type m (hpend type m hm) hseq
  · intro m hm
    obtain ⟨type, hm⟩ := hat m hm
    by_cases hseq : m.seq = 0
    · rw [hseq]
      exact Nat.zero_le _
    · exact (h.pending_cli type m hm hseq).2.2
  · intro type m hm hseq
    rcases h.mark type m (hpend type m hm) hseq with hmark | hmark
    · exact Or.inl hmark
    · refine Or.inr ?_
      by_cases hdrop : s.drops v mail = true
      · -- the mark was the one of the mail that is dropped, and no other has its sequence
        obtain ⟨slot₀, type₀, m₀, rfl, hseq₀, hmark₀⟩ := drops_mail hdrop
        have hm₀ := hhead slot₀ type₀ m₀ rfl
        have hsame : m = m₀ := h.apart type₀ m₀ type m hm₀ (hpend type m hm) hseq₀
          (by rw [← hmark, hmark₀])
        obtain ⟨slot, hm⟩ := hm
        refine absurd (mem_mailCalls hm) (hn.apart (a := mailCalls [.mail slot₀ (.northbound type₀ m₀)])
          ?_ ?_)
        · have hway : (mailCalls s.onWay).count m.call =
              (mailCalls [CpMail.mail slot₀ (.northbound type₀ m₀)]).count m.call +
              (mailCalls (s.cpQ ++ rest)).count m.call := by
            unfold onWay processing
            rw [hcur, hbatch, ← List.singleton_append]
            simp only [Option.map_none, Option.toList_none, List.nil_append, mailCalls_append]
            omega
          unfold uses
          show _ + (mailCalls (s.cpQ ++ rest)).count m.call ≤ _
          omega
        · rw [hsame]
          exact List.mem_singleton.mpr rfl
      · show (if s.drops v mail = true then 0 else s.cliRequestAbandoned) = m.seq
        rw [if_neg hdrop]
        exact hmark
  · intro type m type' m' hm hm' hseq heq
    exact h.apart type m type' m' (hpend type m hm) (hpend type' m' hm') hseq heq
  · intro m hm m' hm' heq
    refine h.own m hm m' (Or.inl ?_) heq
    rcases hm' with ⟨type, hm'⟩ | hm'
    · exact ⟨type, hpend type m' hm'⟩
    · exact hat m' hm'
  · intro type m hm hk
    exact h.late_pending type m (hpend type m hm) hk
  · intro slot type m task dropped hjob hk
    simp only [Option.some.injEq, Job.mk.injEq] at hjob
    obtain ⟨hmail, htask, hdropped⟩ := hjob
    have hm := hhead slot type m hmail
    have hseq := h.late_pending type m hm hk
    have hmark : s.cliRequestAbandoned = m.seq := by
      rcases h.mark type m hm hseq with hc | hc
      · exact absurd hk (h.late_caller m (by rw [hc]; rfl))
      · exact hc
    obtain ⟨⟨c, hc, hcmd⟩, -, -⟩ := h.pending_cli type m hm hseq
    have hans := cliCommand_task v c m hcmd.symm
    rw [hc] at hans
    rw [hmail] at htask hdropped
    have htask' : task = northboundTask v type m := htask.symm
    rw [← htask'] at hans
    cases task with
    | request heap work =>
        refine Or.inl ⟨?_, rfl⟩
        rw [← hdropped]
        show ((northboundTask v type m).isRequest && s.isAbandoned m.seq) = true
        rw [← htask']
        simp [Task.isRequest, isAbandoned, hseq, hmark]
    | refuse => exact Or.inr rfl
    | fire => cases hans
    | ignore => cases hans

/-! ### The caller -/

theorem mem_onWay_of_pending {type : NorthboundType} {m : NorthboundMsg} (h : Pending s type m) :
    m ∈ northboundMsgs s.onWay := by
  obtain ⟨slot, h⟩ := h
  refine mem_northboundMsgs.mpr ⟨slot, type, ?_⟩
  unfold onWay processing
  rcases List.mem_append.mp h with h | h
  · exact List.mem_append_left _ h
  · exact List.mem_append_right _ (List.mem_append_right _ h)

theorem mem_onWay_of_at {m : NorthboundMsg} (h : At s m) : m ∈ northboundMsgs s.onWay := by
  obtain ⟨slot, type, task, dropped, h⟩ := h
  refine mem_northboundMsgs.mpr ⟨slot, type, ?_⟩
  unfold onWay processing
  rw [h]
  exact List.mem_append_right _ (List.mem_append_left _ (List.mem_singleton.mpr rfl))

/-- A number on the way is not in the log. -/
theorem Numbered.not_logged (hn : s.Numbered) {m : NorthboundMsg}
    (hm : m ∈ northboundMsgs s.onWay) : m.call ∉ logCalls s.log := by
  refine hn.apart (a := mailCalls s.onWay) ?_ (List.mem_map_of_mem hm)
  unfold uses
  omega

/-- The number is its own. -/
theorem Numbered.inj (hn : s.Numbered) {m m' : NorthboundMsg} (hm : m ∈ northboundMsgs s.onWay)
    (hm' : m' ∈ northboundMsgs s.onWay) (heq : m.call = m'.call) : m = m' := by
  have hnodup : (mailCalls s.onWay).Nodup := by
    rw [List.nodup_iff_count_le_one]
    intro k
    have hk := hn k
    unfold uses at hk
    split_ifs at hk <;> omega
  exact List.inj_on_of_nodup_map hnodup hm hm' heq

/-- The mutex is taken, and no message has the new sequence. -/
theorem Kept.cliStarted (h : Kept s) (c : CliCommand) (ccbId : Nat) (payload : Option Ref)
    (hidle : s.caller = .idle) (f : List Nat) (slot : Nat)
    (hseq : ∀ m ∈ northboundMsgs s.onWay, m.seq ≠ s.nextSeq) :
    Kept { s with cliRequestSeq := s.nextSeq, calls := s.calls + 1,
                  cliRequestResult := cliRequestResultPack 0 cliRequestNone, freeMailRing := f,
                  caller := .posting slot c.type (s.cliMsg c ccbId payload) } := by
  refine ⟨h.hands, ?_, h.pending_cli, ?_, ?_, h.at_seq, ?_, h.apart, ?_, ?_, h.received, ?_,
    h.late_pending, h.late_job, h.late_log⟩
  · intro k hk
    exact Nat.lt_succ_of_lt (h.late_lt k hk)
  · intro slot' type' m' hm'
    cases hm'
    refine ⟨⟨c, rfl, rfl⟩, Nat.succ_ne_zero _, ?_⟩
    show s.nextSeq ≤ cliRequestSeqMax
    unfold nextSeq
    split
    · decide
    · omega
  · intro m hm
    cases hm
  · intro type m hm hne
    rcases h.mark type m hm hne with hmark | hmark
    · rw [hidle] at hmark
      cases hmark
    · exact Or.inr hmark
  · intro m hm m' hm' heq
    cases hm
    rcases hm' with ⟨type, hm'⟩ | hm'
    · exact absurd heq (hseq m' (mem_onWay_of_pending hm'))
    · exact absurd heq (hseq m' (mem_onWay_of_at hm'))
  · intro m hm hdec hsome
    exact absurd rfl hsome
  · intro m hm hk
    cases hm
    exact absurd (h.late_lt _ hk) (Nat.lt_irrefl _)

/-- The request is on `cp_q`. -/
theorem Kept.cliPushed (h : Kept s) {slot : Nat} {type : NorthboundType} {m : NorthboundMsg}
    (hcaller : s.caller = .posting slot type m) (g : List Ref) :
    Kept { s with caller := .waiting m, cpQ := s.cpQ ++ [.mail slot (.northbound type m)],
                  given := g } := by
  have hmsg : callerMsg s.caller = some m := by
    rw [hcaller]
    rfl
  have hcli := h.posting_cli slot type m hcaller
  have hpend : ∀ type' m', Pending { s with cpQ := s.cpQ ++ [.mail slot (.northbound type m)] }
      type' m' → Pending s type' m' ∨ type' = type ∧ m' = m := by
    intro type' m' hm'
    obtain ⟨slot', hm'⟩ := hm'
    rcases List.mem_append.mp hm' with hm' | hm'
    · rcases List.mem_append.mp hm' with hm' | hm'
      · exact Or.inl ⟨slot', List.mem_append_left _ hm'⟩
      · cases List.mem_singleton.mp hm'
        exact Or.inr ⟨rfl, rfl⟩
    · exact Or.inl ⟨slot', List.mem_append_right _ hm'⟩
  refine ⟨h.hands, h.late_lt, ?_, ?_, ?_, h.at_seq, ?_, ?_, ?_, ?_, h.received, ?_, ?_, h.late_job,
    h.late_log⟩
  · intro type' m' hm' hseq
    rcases hpend type' m' hm' with hm' | ⟨rfl, rfl⟩
    · exact h.pending_cli type' m' hm' hseq
    · exact hcli
  · intro _ _ _ hm'
    cases hm'
  · intro m' hm'
    cases hm'
    exact hcli.2.1
  · intro type' m' hm' hseq
    rcases hpend type' m' hm' with hm' | ⟨rfl, rfl⟩
    · rcases h.mark type' m' hm' hseq with hmark | hmark
      · rw [hcaller] at hmark
        cases hmark
      · exact Or.inr hmark
    · exact Or.inl rfl
  · intro type₁ m₁ type₂ m₂ hm₁ hm₂ hseq heq
    rcases hpend type₁ m₁ hm₁ with hp₁ | ⟨-, h₁⟩
    · rcases hpend type₂ m₂ hm₂ with hp₂ | ⟨-, h₂⟩
      · exact h.apart type₁ m₁ type₂ m₂ hp₁ hp₂ hseq heq
      · rw [h₂] at heq ⊢
        exact (h.own m hmsg m₁ (Or.inl ⟨type₁, hp₁⟩) heq.symm).symm
    · rw [h₁] at heq ⊢
      rcases hpend type₂ m₂ hm₂ with hp₂ | ⟨-, h₂⟩
      · exact h.own m hmsg m₂ (Or.inl ⟨type₂, hp₂⟩) heq
      · exact h₂
  · intro m₀ hm₀ m' hm' heq
    cases hm₀
    rcases hm' with ⟨type', hm'⟩ | hm'
    · rcases hpend type' m' hm' with hm' | ⟨rfl, rfl⟩
      · exact h.own m hmsg m' (Or.inl ⟨type', hm'⟩) heq
      · rfl
    · exact h.own m hmsg m' (Or.inr hm') heq
  · intro m₀ hm₀ hdec hsome
    cases hm₀
    exact h.result m hmsg hdec hsome
  · intro m₀ hm₀
    cases hm₀
    exact h.late_caller m hmsg
  · intro type' m' hm' hk
    rcases hpend type' m' hm' with hm' | ⟨rfl, rfl⟩
    · exact h.late_pending type' m' hm' hk
    · exact hcli.2.1

/-- A caller that is done with its request, whose message does not wait any more. -/
theorem Kept.released (h : Kept s) (c : CliCaller) (hc : callerMsg c = none)
    (hgone : ∀ type m, Pending s type m → s.caller ≠ .waiting m) (f : List Nat) (result : Nat)
    (received : List (Nat × Nat)) (hreceived : ∀ kv ∈ received, PublishedFor s.log kv.1 kv.2) :
    Kept { s with caller := c, freeMailRing := f, cliRequestResult := result,
                  received := received } := by
  refine ⟨h.hands, h.late_lt, h.pending_cli, ?_, ?_, h.at_seq, ?_, h.apart, ?_, ?_, hreceived, ?_,
    h.late_pending, h.late_job, h.late_log⟩
  · intro slot type m hm
    rw [show c = .posting slot type m from hm] at hc
    cases hc
  · intro m hm
    rw [show c = .waiting m from hm] at hc
    cases hc
  · intro type m hm hseq
    rcases h.mark type m hm hseq with hmark | hmark
    · exact absurd hmark (hgone type m hm)
    · exact Or.inr hmark
  · intro m hm
    rw [show callerMsg c = some m from hm] at hc
    cases hc
  · intro m hm
    rw [show callerMsg c = some m from hm] at hc
    cases hc
  · intro m hm
    rw [show callerMsg c = some m from hm] at hc
    cases hc

/-- A caller that has its verdict has no message waiting. -/
theorem Kept.got_gone (h : Kept s) (hn : s.Numbered) {m : NorthboundMsg}
    (hcaller : s.caller = .waiting m) (hseq : s.cliRequestResult / 4 = m.seq)
    (hsome : s.cliRequestResult % 4 ≠ cliRequestNone) (type : NorthboundType) (m' : NorthboundMsg)
    (hm' : Pending s type m') : s.caller ≠ .waiting m' := by
  intro hw
  rw [hcaller] at hw
  cases hw
  obtain ⟨e, he, hcall, -⟩ := h.result m (by rw [hcaller]; rfl) hseq hsome
  refine hn.not_logged (mem_onWay_of_pending hm') ?_
  rw [← hcall]
  exact List.mem_map_of_mem he

/-- A caller gives up, with no other request waiting. -/
theorem Kept.cliGaveUp (h : Kept s) (hn : s.Numbered) {m : NorthboundMsg}
    (hcaller : s.caller = .waiting m)
    (halone : ∀ m' ∈ northboundMsgs (s.cpQ ++ s.batch), m'.seq ≠ 0 → s.caller = .waiting m') :
    Kept { s with caller := .leaving, cliRequestAbandoned := m.seq,
                  late := if m ∈ northboundMsgs s.cpQ then s.late ++ [m.call] else s.late } := by
  -- a number that is late now was late before, or is the caller's, and its message waits
  have hlate : ∀ k, k ∈ (if m ∈ northboundMsgs s.cpQ then s.late ++ [m.call] else s.late) →
      k ∈ s.late ∨ k = m.call ∧ m ∈ northboundMsgs s.cpQ := by
    intro k hk
    split at hk
    · next hin =>
        rcases List.mem_append.mp hk with hk | hk
        · exact Or.inl hk
        · exact Or.inr ⟨List.mem_singleton.mp hk, hin⟩
    · exact Or.inl hk
  have hway : m ∈ northboundMsgs s.cpQ → m ∈ northboundMsgs s.onWay := by
    intro hin
    unfold onWay
    rw [northboundMsgs_append]
    exact List.mem_append_left _ hin
  refine ⟨?_, ?_, h.pending_cli, ?_, ?_, h.at_seq, ?_, h.apart, ?_, ?_, h.received, ?_, ?_, ?_, ?_⟩
  · intro x hx type m' hm'
    obtain ⟨hseq, hnot⟩ := h.hands x hx type m' hm'
    refine ⟨hseq, fun hk => ?_⟩
    rcases hlate _ hk with hk | ⟨hk, hin⟩
    · exact hnot hk
    · have hhand : m'.call ∈ handCalls s.hands :=
        List.mem_flatMap.mpr ⟨x, hx, by rw [hm']; exact List.mem_singleton.mpr rfl⟩
      refine hn.apart (a := mailCalls s.onWay) ?_ (List.mem_map_of_mem (hway hin)) (hk ▸ hhand)
      unfold uses
      omega
  · intro k hk
    rcases hlate k hk with hk | ⟨rfl, hin⟩
    · exact h.late_lt k hk
    · have hpos : 0 < (mailCalls s.onWay).count m.call :=
        List.count_pos_iff.mpr (List.mem_map_of_mem (hway hin))
      have hle := hn m.call
      unfold uses at hle
      show m.call < s.calls
      split_ifs at hle with hlt
      · exact hlt
      · omega
  · intro _ _ _ hm'
    cases hm'
  · intro _ hm'
    cases hm'
  · intro type m' hm' hseq
    obtain ⟨slot, hm'⟩ := hm'
    have hw := halone m' (mem_northboundMsgs.mpr ⟨slot, type, hm'⟩) hseq
    rw [hcaller] at hw
    cases hw
    exact Or.inr rfl
  · intro _ hm'
    cases hm'
  · intro _ hm'
    cases hm'
  · intro _ hm'
    cases hm'
  · intro type m' hm' hk
    rcases hlate _ hk with hk | ⟨hk, hin⟩
    · exact h.late_pending type m' hm' hk
    · rw [hn.inj (mem_onWay_of_pending hm') (hway hin) hk]
      exact h.waiting_seq m hcaller
  · intro slot type m' task dropped hjob hk
    rcases hlate _ hk with hk | ⟨hk, hin⟩
    · exact h.late_job slot type m' task dropped hjob hk
    · exfalso
      have hin' : m.call ∈ mailCalls (s.cpQ ++ s.batch) := by
        unfold mailCalls
        rw [northboundMsgs_append]
        exact List.mem_map_of_mem (List.mem_append_left _ hin)
      have hjob' : s.current = some ⟨.mail slot (.northbound type m'), task, dropped⟩ := hjob
      have hcount := mailCalls_done hjob' m.call
      dsimp only at hcount
      refine hn.apart (k := m.call) (a := mailCalls [CpMail.mail slot (.northbound type m')]) ?_ ?_ hin'
      · unfold uses
        show (mailCalls [CpMail.mail slot (.northbound type m')]).count m.call + _ ≤ _
        omega
      · rw [← hk]
        exact List.mem_singleton.mpr rfl
  · intro e he hk
    rcases hlate _ hk with hk | ⟨hk, hin⟩
    · exact h.late_log e he hk
    · refine absurd ?_ (hn.not_logged (hway hin))
      rw [← hk]
      exact List.mem_map_of_mem he

/-! ### Whole runs -/

/--
Nobody but the CLI posts with a sequence; no call starts with the sequence of a message that is
still on its way; and nobody gives up while an earlier request is still waiting.
-/
def OneAtATime (s : Mailbox) : MailLabel → Prop
  | .take (.northbound _ m) => m.seq = 0
  | .cliStart _ _ _ => ∀ m ∈ northboundMsgs s.onWay, m.seq ≠ s.nextSeq
  | .cliGiveUp => ∀ m ∈ northboundMsgs (s.cpQ ++ s.batch), m.seq ≠ 0 → s.caller = .waiting m
  | _ => True

/-- What is left in the hands was there. -/
theorem hands_eraseIdx {i : Nat} {x : Nat × Posting} (h : x ∈ s.hands.eraseIdx i) : x ∈ s.hands :=
  List.mem_of_mem_eraseIdx h

/-- A posting pushed has no waiter. -/
theorem Kept.pending_pushed (h : Kept s) {i slot : Nat} {p : Posting}
    (hx : s.hands[i]? = some (slot, p)) {type : NorthboundType} {m : NorthboundMsg}
    (hm : Pending { s with cpQ := s.cpQ ++ [.mail slot p] } type m) :
    Pending s type m ∨ m.seq = 0 ∧ m.call ∉ s.late := by
  obtain ⟨slot', hm⟩ := hm
  rcases List.mem_append.mp hm with hm | hm
  · rcases List.mem_append.mp hm with hm | hm
    · exact Or.inl ⟨slot', List.mem_append_left _ hm⟩
    · cases List.mem_singleton.mp hm
      exact Or.inr (h.hands _ (List.mem_of_getElem? hx) type m rfl)
  · exact Or.inl ⟨slot', List.mem_append_right _ hm⟩

theorem step_kept (h : Kept s) (hn : s.Numbered) (l : MailLabel) (hl : OneAtATime s l) :
    Kept (mailStep s l) := by
  have hmove := mailMove s l
  revert hmove
  generalize mailStep s l = t
  intro hmove
  cases hmove with
  | quiet l f g r =>
      exact h.frame rfl rfl rfl rfl rfl (Nat.le_refl _) (Or.inl rfl) (Or.inl rfl) h.hands
        fun _ _ hm => Or.inl hm
  | taken f slot hp =>
      refine h.frame rfl rfl rfl rfl rfl (Nat.le_refl _) (Or.inl rfl) (Or.inl rfl) ?_
        fun _ _ hm => Or.inl hm
      intro x hx type m hm
      rcases List.mem_append.mp hx with hx | hx
      · exact h.hands x hx type m hm
      · cases List.mem_singleton.mp hx
        exact absurd hm (hp type m)
  | numbered f slot type m =>
      refine h.frame rfl rfl rfl rfl rfl (Nat.le_succ _) (Or.inl rfl) (Or.inl rfl) ?_
        fun _ _ hm => Or.inl hm
      intro x hx type' m' hm
      rcases List.mem_append.mp hx with hx | hx
      · exact h.hands x hx type' m' hm
      · cases List.mem_singleton.mp hx
        cases hm
        exact ⟨hl, fun hk => Nat.lt_irrefl _ (h.late_lt _ hk)⟩
  | pushed hx g =>
      exact h.frame rfl rfl rfl rfl rfl (Nat.le_refl _) (Or.inl rfl) (Or.inl rfl)
        (fun x hin => h.hands x (hands_eraseIdx hin)) fun _ _ hm => h.pending_pushed hx hm
  | putDown hx f g r =>
      exact h.frame rfl rfl rfl rfl rfl (Nat.le_refl _) (Or.inl rfl) (Or.inl rfl)
        (fun x hin => h.hands x (hands_eraseIdx hin)) fun _ _ hm => Or.inl hm
  | linked ref g =>
      refine h.frame rfl rfl rfl rfl rfl (Nat.le_refl _) (Or.inl rfl) (Or.inl rfl) h.hands ?_
      intro type m hm
      obtain ⟨slot, hm⟩ := hm
      refine Or.inl ⟨slot, ?_⟩
      rcases List.mem_append.mp hm with hm | hm
      · rcases List.mem_append.mp hm with hm | hm
        · exact List.mem_append_left _ hm
        · cases List.mem_singleton.mp hm
      · exact List.mem_append_right _ hm
  | burst hbatch hcur =>
      refine h.frame rfl rfl rfl rfl rfl (Nat.le_refl _) (Or.inl rfl) (Or.inl rfl) h.hands ?_
      intro type m hm
      obtain ⟨slot, hm⟩ := hm
      refine Or.inl ⟨slot, List.mem_append_left _ ?_⟩
      rcases List.mem_append.mp hm with hm | hm
      · exact List.mem_of_mem_drop hm
      · exact List.mem_of_mem_take hm
  | began v hcur hbatch => exact h.began hn v hcur hbatch
  | done hcur hjob ret f r =>
      exact h.frame rfl rfl rfl rfl rfl (Nat.le_refl _) (Or.inl rfl) (Or.inr rfl) h.hands
        fun _ _ hm => Or.inl hm
  | answered hcur ret f r result hresult => exact h.answered hcur f r result hresult
  | cliFailed c ccbId payload hidle =>
      refine h.frame rfl rfl rfl rfl rfl (Nat.le_succ _) (Or.inr ?_) (Or.inl rfl) h.hands
        fun _ _ hm => Or.inl hm
      rw [hidle]
      rfl
  | cliStarted c ccbId payload hidle f slot => exact h.cliStarted c ccbId payload hidle f slot hl
  | cliPushed hcaller g => exact h.cliPushed hcaller g
  | cliPutDown hcaller f =>
      refine h.released .idle rfl ?_ f s.cliRequestResult s.received h.received
      intro type m _ hw
      rw [hcaller] at hw
      cases hw
  | cliGot hcaller hseq hsome =>
      refine h.released .leaving rfl (h.got_gone hn hcaller hseq hsome) s.freeMailRing
        s.cliRequestResult _ ?_
      intro kv hkv
      rcases List.mem_append.mp hkv with hkv | hkv
      · exact h.received kv hkv
      · rw [List.mem_singleton.mp hkv]
        exact h.result _ (by rw [hcaller]; rfl) hseq hsome
  | cliGaveUp hcaller => exact h.cliGaveUp hn hcaller hl
  | cliLeft hcaller =>
      refine h.released .idle rfl ?_ s.freeMailRing _ s.received h.received
      intro type m _ hw
      rw [hcaller] at hw
      cases hw

theorem numbered_boot : Numbered boot := by
  intro k
  exact Nat.zero_le _

/--
**Callers are kept their word, one at a time.**

In a run in which nobody gives up while an earlier request is still waiting, and no sequence comes
back while a message with it is on its way: a request whose caller gave up before the loop took it
off `cp_q` is not carried out and its buffer is not written, a caller gets no verdict but one
published for its own call, and no request is dealt with twice.
-/
theorem run_requests_kept {ls : List MailLabel} {q : Mailbox}
    (h : Run mailStep OneAtATime boot ls q) :
    (∀ e ∈ q.log, e.msg.call ∈ q.late → e.ran = false ∧ e.wrote = none) ∧
      (∀ kv ∈ q.received, PublishedFor q.log kv.1 kv.2) ∧
      (q.log.map fun e => e.msg.call).Nodup := by
  have hq : Numbered q ∧ Kept q := by
    refine h.inv (fun s => Numbered s ∧ Kept s) ?_ ⟨numbered_boot, kept_boot⟩
    intro s l hs hl
    exact ⟨step_numbered hs.1 l, step_kept hs.2 hs.1 l hl⟩
  refine ⟨hq.2.late_log, hq.2.received, ?_⟩
  rw [List.nodup_iff_count_le_one]
  intro k
  have hk := hq.1 k
  unfold uses logCalls at hk
  split_ifs at hk <;> omega

theorem finish_late (s : Mailbox) (ret : Status) : (s.finish ret).late = s.late := by
  have hmove := mailMove_finish s ret
  revert hmove
  generalize s.finish ret = t
  intro hmove
  cases hmove with
  | quiet l f g r => rfl
  | done hcur hjob ret f r => rfl
  | answered hcur ret f r result hresult => rfl

/-- One subscriber, with its ccbs. -/
def oneCcb : CcbView := ⟨1, fun _ => true, fun _ => true⟩

/-- A flush is given up before the loop comes to it. -/
def lateLabels : List MailLabel :=
  [.cliStart .cacheFlush 0 (some 5), .cliPush, .cliGiveUp, .cliLeave]

theorem run_late : Run mailStep OneAtATime boot lateLabels (lateLabels.foldl mailStep boot) := by
  have h₀ : Run mailStep OneAtATime boot [] boot := Run.nil
  have h₁ := h₀.snoc (.cliStart .cacheFlush 0 (some 5)) fun m hm => by cases hm
  have h₂ := h₁.snoc .cliPush trivial
  have h₃ := h₂.snoc .cliGiveUp fun m hm _ => by
    rw [List.mem_singleton.mp hm]
    rfl
  exact h₃.snoc .cliLeave trivial

theorem run_requests_kept_late :
    Run mailStep OneAtATime boot lateLabels (lateLabels.foldl mailStep boot) ∧
      (lateLabels.foldl mailStep boot).late = [0] ∧
      ((lateLabels.foldl mailStep boot).log.map fun e => e.msg.call).Nodup :=
  ⟨run_late, rfl, (run_requests_kept run_late).2.2⟩

/-- Two flushes are given up, one after the other, and then the loop begins with the first. -/
def twiceLateLabels : List MailLabel :=
  lateLabels ++ [.cliStart .cacheFlush 0 (some 6), .cliPush, .cliGiveUp, .cliLeave, .burst,
    .check oneCcb]

def twiceLate : Mailbox := twiceLateLabels.foldl mailStep boot

/-- The second time-out has taken the mark of the first, which is carried out after all. -/
theorem overwritten_mark_runs : ∃ ls q, Run mailStep (fun _ _ => True) boot ls q ∧
    ∃ e ∈ q.log, e.msg.call ∈ q.late ∧ e.ran = true ∧ e.wrote = some 5 := by
  have hrun : Run mailStep (fun _ _ => True) boot twiceLateLabels twiceLate :=
    Run.of_labels boot twiceLateLabels fun _ _ _ => trivial
  have hcur : twiceLate.current = some ⟨.mail 0 (.northbound .dns ⟨dnsCmdCacheFlush, 0, 1, some 5, 0⟩),
      .request none (.flush 5), false⟩ := rfl
  have hlog : twiceLate.log = [] := rfl
  have hlate : twiceLate.late = [0, 1] := rfl
  obtain ⟨-, hdone⟩ := finish_northbound hcur .success
  rw [hlog, List.nil_append] at hdone
  refine ⟨_, _, hrun.snoc (.finish .success) trivial, northboundReceipt .dns
    ⟨dnsCmdCacheFlush, 0, 1, some 5, 0⟩ (.request none (.flush 5)) false .success, ?_, ?_, rfl, rfl⟩
  · show _ ∈ (twiceLate.finish .success).log
    rw [hdone]
    exact List.mem_singleton.mpr rfl
  · show 0 ∈ (twiceLate.finish .success).late
    rw [finish_late, hlate]
    exact List.mem_cons_self

end FastRG.Mailbox
