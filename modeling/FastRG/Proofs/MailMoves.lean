/-
What one step can do to the mailbox.

Every step of `mailStep` is one of the moves below.  The free ring and the two ledgers are left open
in them: where the slots go, and what is freed, is another matter.
-/
import FastRG.Proofs.MailConserved

namespace FastRG.Mailbox

/-- The moves, each with the step that makes it. -/
inductive MailMove (s : Mailbox) : MailLabel → Mailbox → Prop
  /-- No message moves. -/
  | quiet (l : MailLabel) (f : List Nat) (g r : List Ref) :
      MailMove s l { s with freeMailRing := f, given := g, released := r }
  | taken (f : List Nat) (slot : Nat) {p : Posting} (hp : ∀ type m, p ≠ .northbound type m) :
      MailMove s (.take p) { s with freeMailRing := f, hands := s.hands ++ [(slot, p)] }
  | numbered (f : List Nat) (slot : Nat) (type : NorthboundType) (m : NorthboundMsg) :
      MailMove s (.take (.northbound type m))
        { s with freeMailRing := f, calls := s.calls + 1,
                 hands := s.hands ++ [(slot, .northbound type { m with call := s.calls })] }
  | pushed {i slot : Nat} {p : Posting} (hx : s.hands[i]? = some (slot, p)) (g : List Ref) :
      MailMove s (.push i)
        { s with hands := s.hands.eraseIdx i, cpQ := s.cpQ ++ [.mail slot p], given := g }
  | putDown {i slot : Nat} {p : Posting} (hx : s.hands[i]? = some (slot, p)) (f : List Nat)
      (g r : List Ref) :
      MailMove s (.push i)
        { s with hands := s.hands.eraseIdx i, freeMailRing := f, given := g, released := r }
  | linked (ref : Ref) (g : List Ref) :
      MailMove s (.linkEvent ref) { s with cpQ := s.cpQ ++ [.link ref], given := g }
  | burst (hbatch : s.batch = []) (hcur : s.current = none) :
      MailMove s .burst
        { s with batch := s.cpQ.take ringBurstSize, cpQ := s.cpQ.drop ringBurstSize }
  | began {mail : CpMail} {rest : List CpMail} (v : CcbView) (hcur : s.current = none)
      (hbatch : s.batch = mail :: rest) :
      MailMove s (.check v)
        { s with batch := rest
                 cliRequestAbandoned := if s.drops v mail then 0 else s.cliRequestAbandoned
                 current := some ⟨mail, mail.task v, s.drops v mail⟩ }
  | done {job : Job} (hcur : s.current = some job)
      (hjob : ∀ slot type m, job.mail ≠ .mail slot (.northbound type m)) (ret : Status)
      (f : List Nat) (r : List Ref) :
      MailMove s (.finish ret) { s with current := none, freeMailRing := f, released := r }
  | answered {slot : Nat} {type : NorthboundType} {m : NorthboundMsg} {task : Task} {dropped : Bool}
      (hcur : s.current = some ⟨.mail slot (.northbound type m), task, dropped⟩) (ret : Status)
      (f : List Nat) (r : List Ref) (result : Nat)
      (hresult : result = s.cliRequestResult ∨
        m.seq ≠ 0 ∧ ∃ st ∈ (northboundReceipt type m task dropped ret).verdicts,
          result = cliRequestResultPack m.seq (cliVerdict st)) :
      MailMove s (.finish ret)
        { s with current := none, log := s.log ++ [northboundReceipt type m task dropped ret],
                 freeMailRing := f, released := r, cliRequestResult := result }
  | cliFailed (c : CliCommand) (ccbId : Nat) (payload : Option Ref) (hidle : s.caller = .idle) :
      MailMove s (.cliStart c ccbId payload)
        { s with cliRequestSeq := s.nextSeq, calls := s.calls + 1,
                 cliRequestResult := cliRequestResultPack 0 cliRequestNone }
  | cliStarted (c : CliCommand) (ccbId : Nat) (payload : Option Ref) (hidle : s.caller = .idle)
      (f : List Nat) (slot : Nat) :
      MailMove s (.cliStart c ccbId payload)
        { s with cliRequestSeq := s.nextSeq, calls := s.calls + 1,
                 cliRequestResult := cliRequestResultPack 0 cliRequestNone, freeMailRing := f,
                 caller := .posting slot c.type (s.cliMsg c ccbId payload) }
  | cliPushed {slot : Nat} {type : NorthboundType} {m : NorthboundMsg}
      (hcaller : s.caller = .posting slot type m) (g : List Ref) :
      MailMove s .cliPush
        { s with caller := .waiting m, cpQ := s.cpQ ++ [.mail slot (.northbound type m)], given := g }
  | cliPutDown {slot : Nat} {type : NorthboundType} {m : NorthboundMsg}
      (hcaller : s.caller = .posting slot type m) (f : List Nat) :
      MailMove s .cliPush { s with caller := .idle, freeMailRing := f }
  | cliGot {m : NorthboundMsg} (hcaller : s.caller = .waiting m)
      (hseq : s.cliRequestResult / 4 = m.seq) (hsome : s.cliRequestResult % 4 ≠ cliRequestNone) :
      MailMove s .cliPoll
        { s with caller := .leaving, received := s.received ++ [(m.call, s.cliRequestResult % 4)] }
  | cliGaveUp {m : NorthboundMsg} (hcaller : s.caller = .waiting m) :
      MailMove s .cliGiveUp
        { s with caller := .leaving, cliRequestAbandoned := m.seq,
                 late := if m ∈ northboundMsgs s.cpQ then s.late ++ [m.call] else s.late }
  | cliLeft (hcaller : s.caller = .leaving) :
      MailMove s .cliLeave
        { s with caller := .idle, cliRequestResult := cliRequestResultPack 0 cliRequestNone }

variable {s : Mailbox}

theorem giveBack_eq (s : Mailbox) (slot : Nat) :
    ∃ f, s.giveBack slot = { s with freeMailRing := f } := by
  unfold giveBack
  split
  · exact ⟨_, rfl⟩
  · exact ⟨s.freeMailRing, rfl⟩

theorem refusePost_eq (s : Mailbox) (p : Posting) :
    ∃ g r, s.refusePost p = { s with given := g, released := r } := by
  cases p with
  | northbound type m => exact ⟨s.given, s.released, rfl⟩
  | etcd ev => exact ⟨s.given, s.released, rfl⟩
  | dp type mbuf => exact ⟨_, _, rfl⟩

/-- What is left in the result slot is one of the verdicts. -/
theorem publish_result (s : Mailbox) (seq : Nat) (l : List Status) :
    ∃ r, s.publish seq l = { s with cliRequestResult := r } ∧ (r = s.cliRequestResult ∨
      ∃ st ∈ l, r = cliRequestResultPack seq (cliVerdict st)) := by
  induction l generalizing s with
  | nil => exact ⟨s.cliRequestResult, rfl, Or.inl rfl⟩
  | cons ret rest ih =>
      obtain ⟨r, heq, hr⟩ := ih
        { s with cliRequestResult := cliRequestResultPack seq (cliVerdict ret) }
      refine ⟨r, heq, Or.inr ?_⟩
      rcases hr with hr | ⟨st, hst, hr⟩
      · exact ⟨ret, List.mem_cons_self, hr⟩
      · exact ⟨st, List.mem_cons_of_mem ret hst, hr⟩

/-- Sequence 0 has no verdicts. -/
theorem verdicts_seq {type : NorthboundType} {m : NorthboundMsg} {task : Task} {dropped : Bool}
    {ret st : Status} (h : st ∈ (northboundReceipt type m task dropped ret).verdicts) :
    m.seq ≠ 0 := by
  have hpub : ∀ st', st ∈ publishes m.seq st' → m.seq ≠ 0 := by
    intro st' hmem hzero
    unfold publishes at hmem
    rw [if_pos hzero] at hmem
    cases hmem
  cases task with
  | request heap work =>
      cases dropped with
      | true => cases h
      | false => exact hpub _ h
  | refuse => exact hpub _ h
  | fire => cases h
  | ignore => cases h

theorem mailMove_take (s : Mailbox) (p : Posting) : MailMove s (.take p) (s.take p) := by
  unfold take
  cases s.freeMailRing with
  | nil =>
      obtain ⟨g, r, h⟩ := refusePost_eq s p
      show MailMove s (.take p) (s.refusePost p)
      rw [h]
      exact .quiet _ s.freeMailRing g r
  | cons slot rest =>
      cases p with
      | northbound type m => exact .numbered rest slot type m
      | etcd ev => exact .taken rest slot fun _ _ h => by cases h
      | dp type mbuf => exact .taken rest slot fun _ _ h => by cases h

theorem mailMove_push (s : Mailbox) (i : Nat) : MailMove s (.push i) (s.push i) := by
  unfold push
  cases hx : s.hands[i]? with
  | none => exact .quiet _ s.freeMailRing s.given s.released
  | some x =>
      obtain ⟨slot, p⟩ := x
      dsimp only
      split
      · exact .pushed hx _
      · obtain ⟨f, hf⟩ := giveBack_eq { s with hands := s.hands.eraseIdx i } slot
        rw [hf]
        obtain ⟨g, r, h⟩ := refusePost_eq
          { s with hands := s.hands.eraseIdx i, freeMailRing := f } p
        rw [h]
        exact .putDown hx f g r

theorem mailMove_check (s : Mailbox) (v : CcbView) : MailMove s (.check v) (s.check v) := by
  rcases check_cases s v with h | ⟨mail, rest, hcur, hbatch, h⟩
  · rw [h]
    exact .quiet _ s.freeMailRing s.given s.released
  · rw [h]
    exact .began v hcur hbatch

theorem mailMove_finish (s : Mailbox) (ret : Status) : MailMove s (.finish ret) (s.finish ret) := by
  unfold finish
  cases hcur : s.current with
  | none => exact .quiet _ s.freeMailRing s.given s.released
  | some job =>
      obtain ⟨mail, task, dropped⟩ := job
      cases mail with
      | link ref => exact .done hcur (fun _ _ _ h => by cases h) ret s.freeMailRing _
      | mail slot p =>
          cases p with
          | etcd ev =>
              obtain ⟨f, hf⟩ := giveBack_eq
                { s with current := none, released := s.released ++ Posting.owned (.etcd ev) } slot
              dsimp only
              rw [hf]
              exact .done hcur (fun _ _ _ h => by cases h) ret f _
          | dp type mbuf =>
              obtain ⟨f, hf⟩ := giveBack_eq
                { s with current := none, released := s.released ++ Posting.owned (.dp type mbuf) }
                slot
              dsimp only
              rw [hf]
              exact .done hcur (fun _ _ _ h => by cases h) ret f _
          | northbound type m =>
              dsimp only
              obtain ⟨r, hr, hresult⟩ := publish_result
                { s with current := none,
                         log := s.log ++ [northboundReceipt type m task dropped ret],
                         released := s.released ++ (northboundReceipt type m task dropped ret).freed }
                m.seq (northboundReceipt type m task dropped ret).verdicts
              rw [hr]
              obtain ⟨f, hf⟩ := giveBack_eq
                { s with current := none,
                         log := s.log ++ [northboundReceipt type m task dropped ret],
                         released := s.released ++ (northboundReceipt type m task dropped ret).freed,
                         cliRequestResult := r } slot
              rw [hf]
              refine .answered hcur ret f _ r ?_
              rcases hresult with h | ⟨st, hst, h⟩
              · exact Or.inl h
              · exact Or.inr ⟨verdicts_seq hst, st, hst, h⟩

theorem mailMove_cliStart (s : Mailbox) (c : CliCommand) (ccbId : Nat) (payload : Option Ref) :
    MailMove s (.cliStart c ccbId payload) (s.cliStart c ccbId payload) := by
  unfold cliStart
  cases hcaller : s.caller with
  | posting slot type m => exact .quiet _ s.freeMailRing s.given s.released
  | waiting m => exact .quiet _ s.freeMailRing s.given s.released
  | leaving => exact .quiet _ s.freeMailRing s.given s.released
  | idle =>
      cases hfree : s.freeMailRing with
      | nil =>
          have h := MailMove.cliFailed c ccbId payload hcaller
          rw [hcaller, hfree] at h
          exact h
      | cons slot rest => exact .cliStarted c ccbId payload hcaller rest slot

theorem mailMove_cliPush (s : Mailbox) : MailMove s .cliPush s.cliPush := by
  unfold cliPush
  cases hcaller : s.caller with
  | idle => exact .quiet _ s.freeMailRing s.given s.released
  | waiting m => exact .quiet _ s.freeMailRing s.given s.released
  | leaving => exact .quiet _ s.freeMailRing s.given s.released
  | posting slot type m =>
      dsimp only
      split
      · exact .cliPushed hcaller _
      · obtain ⟨f, hf⟩ := giveBack_eq { s with caller := .idle } slot
        rw [hf]
        exact .cliPutDown hcaller f

/-- Every step is one of the moves. -/
theorem mailMove (s : Mailbox) (l : MailLabel) : MailMove s l (mailStep s l) := by
  have hstay : ∀ l, MailMove s l s := fun l => .quiet l s.freeMailRing s.given s.released
  cases l with
  | take p => exact mailMove_take s p
  | push i => exact mailMove_push s i
  | linkEvent ref =>
      show MailMove s _ (s.linkEvent ref)
      unfold linkEvent
      split
      · exact .linked ref _
      · exact .quiet _ s.freeMailRing _ _
  | burst =>
      show MailMove s _ s.burst
      unfold Mailbox.burst
      split
      · next h => exact .burst h.1 h.2
      · exact hstay _
  | check v => exact mailMove_check s v
  | finish ret => exact mailMove_finish s ret
  | cliStart c ccbId payload => exact mailMove_cliStart s c ccbId payload
  | cliPush => exact mailMove_cliPush s
  | cliPoll =>
      show MailMove s _ s.cliPoll
      unfold cliPoll
      split
      · next m hcaller =>
          split
          · next h => exact .cliGot hcaller h.1 h.2
          · exact hstay _
      · exact hstay _
  | cliGiveUp =>
      show MailMove s _ s.cliGiveUp
      unfold cliGiveUp
      split
      · next m hcaller => exact .cliGaveUp hcaller
      · exact hstay _
  | cliLeave =>
      show MailMove s _ s.cliLeave
      unfold cliLeave
      split
      · next hcaller => exact .cliLeft hcaller
      · exact hstay _

end FastRG.Mailbox
