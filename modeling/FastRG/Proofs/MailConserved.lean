/-
No mail slot is lost, nothing a mail carries is freed twice or forgotten, and every request is
answered.

The invariant has three parts, one for each.  The slots of the free ring, of `cp_q`, of the burst
and of the posters' hands are the pool, up to order; what has gone over to the control thread is,
counted with multiplicity, what has been freed and what its mails still carry; and the receipt of
every request has one verdict.  Every function of the mailbox keeps the three, whatever the loop
sees of the subscribers and whatever the commands return.
-/
import Mathlib.Data.List.Perm.Basic
import Mathlib.Tactic.Common
import FastRG.Lib.Run
import FastRG.Mailbox

namespace FastRG

/-! ### Where the slots are -/

/-- The slot of a caller between its two rings. -/
def CliCaller.slots : CliCaller → List Nat
  | .posting slot _ _ => [slot]
  | _ => []

/-- The payload that a branch frees. -/
def Task.heap : Task → Option Ref
  | .request heap _ => heap
  | _ => none

/-- The branch asks about the mark, or refuses. -/
def Task.answers : Task → Bool
  | .request _ _ => true
  | .refuse => true
  | _ => false

/-- The branch asks `cli_request_dropped`. -/
def Task.isRequest : Task → Bool
  | .request _ _ => true
  | _ => false

/-- The sequence of a mail, or 0. -/
def CpMail.seq : CpMail → Nat
  | .mail _ (.northbound _ m) => m.seq
  | _ => 0

/-- The branch that the loop takes for a mail. -/
def CpMail.task (v : CcbView) : CpMail → Task
  | .mail _ (.northbound type m) => northboundTask v type m
  | _ => .ignore

/-- The mail slots among some mails. -/
def mailSlots (mails : List CpMail) : List Nat := mails.filterMap CpMail.slot

namespace Mailbox

/-- The loop finds the mail abandoned. -/
def drops (s : Mailbox) (v : CcbView) (mail : CpMail) : Bool :=
  (mail.task v).isRequest && s.isAbandoned mail.seq

/-- The burst the loop is at. -/
def processing (s : Mailbox) : List CpMail := (s.current.map Job.mail).toList ++ s.batch

/-- The mails on their way. -/
def onWay (s : Mailbox) : List CpMail := s.cpQ ++ s.processing

/-- The slots of the posters. -/
def posters (s : Mailbox) : List Nat := s.hands.map Prod.fst ++ s.caller.slots

/-- Every slot, wherever it is. -/
def slots (s : Mailbox) : List Nat :=
  s.freeMailRing ++ mailSlots s.cpQ ++ mailSlots s.processing ++ s.posters

/-- What the mails on their way carry. -/
def carried (s : Mailbox) : List Ref := s.onWay.flatMap CpMail.owned

/-- The pool `init_ring` fills. -/
def pool : List Nat := List.range' 0 (mailSlotRingSize - 1)

/-- What has gone over has been freed, or is on its way. -/
def Balanced (s : Mailbox) : Prop := ∀ r, s.given.count r = s.released.count r + s.carried.count r

variable {s t : Mailbox}

theorem count_slots (s : Mailbox) (i : Nat) : s.slots.count i =
    s.freeMailRing.count i + (mailSlots s.onWay).count i + s.posters.count i := by
  simp only [slots, onWay, mailSlots, List.filterMap_append, List.count_append]
  omega

theorem count_mailSlots_cons (mail : CpMail) (mails : List CpMail) (i : Nat) :
    (mailSlots (mail :: mails)).count i =
      (if mail.slot = some i then 1 else 0) + (mailSlots mails).count i := by
  cases mail with
  | mail slot p =>
      simp only [mailSlots, List.filterMap_cons, CpMail.slot, List.count_cons, beq_iff_eq,
        Option.some.injEq]
      omega
  | link ref =>
      rw [mailSlots, List.filterMap_cons_none rfl, if_neg (by simp [CpMail.slot]), Nat.zero_add]
      rfl

/-- The mails on their way, the free ring and the posters decide where the slots are. -/
theorem slots_perm (hfree : t.freeMailRing = s.freeMailRing) (hway : t.onWay.Perm s.onWay)
    (hpost : t.posters.Perm s.posters) : t.slots.Perm s.slots := by
  refine List.perm_iff_count.mpr fun i => ?_
  have hw : (mailSlots t.onWay).count i = (mailSlots s.onWay).count i :=
    (hway.filterMap _).count_eq i
  rw [count_slots, count_slots, hfree, hw, hpost.count_eq]

/-- A slot that is out of the free ring fits into it again. -/
theorem giveBack_slots {slot : Nat} (h : (slot :: s.slots).Perm pool) :
    (s.giveBack slot).slots.Perm pool := by
  have hlen := h.length_eq
  have hpool : pool.length = mailSlotRingSize - 1 := List.length_range'
  have hroom : s.freeMailRing.length < mailSlotRingSize - 1 := by
    simp only [List.length_cons, slots, List.length_append] at hlen
    omega
  unfold giveBack
  rw [if_pos hroom]
  refine (List.perm_iff_count.mpr fun i => ?_).trans h
  rw [count_slots, List.count_cons, count_slots]
  show (s.freeMailRing ++ [slot]).count i + (mailSlots s.onWay).count i + s.posters.count i = _
  rw [List.count_append, List.count_singleton]
  omega

/-- A slot goes from a poster to `cp_q`. -/
theorem slots_enqueue {slot : Nat} {p : Posting} (hfree : t.freeMailRing = s.freeMailRing)
    (hway : t.onWay.Perm (.mail slot p :: s.onWay)) (hpost : (slot :: t.posters).Perm s.posters) :
    t.slots.Perm s.slots := by
  refine List.perm_iff_count.mpr fun i => ?_
  have hw : (mailSlots t.onWay).count i = _ := (hway.filterMap _).count_eq i
  have hp := hpost.count_eq i
  rw [List.count_cons] at hp
  have hc := count_mailSlots_cons (.mail slot p) s.onWay i
  simp only [CpMail.slot, Option.some.injEq, beq_iff_eq, mailSlots] at hc hp hw
  rw [count_slots, count_slots, hfree]
  simp only [mailSlots]
  omega

/-- A slot that a poster gives up, or the loop is done with, goes back to the pool. -/
theorem slots_out {slot : Nat} (hfree : t.freeMailRing = s.freeMailRing)
    (hgone : ∀ i, (mailSlots t.onWay).count i + t.posters.count i + (if slot = i then 1 else 0) =
      (mailSlots s.onWay).count i + s.posters.count i) : (slot :: t.slots).Perm s.slots := by
  refine List.perm_iff_count.mpr fun i => ?_
  have hi := hgone i
  rw [List.count_cons, count_slots, count_slots, hfree]
  simp only [beq_iff_eq]
  omega

/-! ### What the functions do to the lists -/

theorem enqueue_onWay (s : Mailbox) (slot : Nat) (p : Posting) :
    (s.enqueue slot p).onWay.Perm (.mail slot p :: s.onWay) := by
  show ((s.cpQ ++ [CpMail.mail slot p]) ++ s.processing).Perm _
  rw [List.append_assoc]
  exact List.perm_middle

theorem burst_onWay (s : Mailbox) : s.burst.onWay.Perm s.onWay := by
  unfold burst
  by_cases hidle : s.batch = [] ∧ s.current = none
  · rw [if_pos hidle]
    show (s.cpQ.drop ringBurstSize ++
      ((s.current.map Job.mail).toList ++ s.cpQ.take ringBurstSize)).Perm
      (s.cpQ ++ ((s.current.map Job.mail).toList ++ s.batch))
    rw [hidle.1, hidle.2]
    simp only [Option.map_none, Option.toList_none, List.nil_append, List.append_nil]
    have hsplit : s.cpQ.take ringBurstSize ++ s.cpQ.drop ringBurstSize = s.cpQ :=
      List.take_append_drop _ _
    conv_rhs => rw [← hsplit]
    exact List.perm_append_comm
  · rw [if_neg hidle]

/-- The loop goes to a mail: it stays in the burst, and the mark is used up if it drops it. -/
theorem check_cases (s : Mailbox) (v : CcbView) :
    s.check v = s ∨ ∃ mail rest, s.current = none ∧ s.batch = mail :: rest ∧
      s.check v = { s with
        batch := rest
        cliRequestAbandoned := if s.drops v mail then 0 else s.cliRequestAbandoned
        current := some ⟨mail, mail.task v, s.drops v mail⟩ } := by
  unfold check
  cases hcur : s.current with
  | some job => exact Or.inl rfl
  | none =>
      cases hbatch : s.batch with
      | nil => exact Or.inl rfl
      | cons mail rest =>
          refine Or.inr ⟨mail, rest, rfl, rfl, ?_⟩
          cases mail with
          | link ref => rfl
          | mail slot p =>
              cases p with
              | etcd ev => rfl
              | dp type mbuf => rfl
              | northbound type m =>
                  have htask : (CpMail.mail slot (.northbound type m)).task v =
                    northboundTask v type m := rfl
                  have hdrops : s.drops v (.mail slot (.northbound type m)) =
                    ((northboundTask v type m).isRequest && s.isAbandoned m.seq) := rfl
                  rw [htask, hdrops]
                  dsimp only
                  cases northboundTask v type m with
                  | request heap work =>
                      cases hmark : s.isAbandoned m.seq with
                      | true => rfl
                      | false => rfl
                  | refuse => rfl
                  | fire => rfl
                  | ignore => rfl

theorem check_onWay (s : Mailbox) (v : CcbView) : (s.check v).onWay = s.onWay := by
  rcases check_cases s v with h | ⟨mail, rest, hcur, hbatch, h⟩
  · rw [h]
  · rw [h]
    show s.cpQ ++ ([mail] ++ rest) = s.cpQ ++ ((s.current.map Job.mail).toList ++ s.batch)
    rw [hcur, hbatch]
    rfl

/-- `cli_request_publish` only writes the result slot. -/
theorem publish_eq (s : Mailbox) (seq : Nat) (l : List Status) :
    ∃ r, s.publish seq l = { s with cliRequestResult := r } := by
  induction l generalizing s with
  | nil => exact ⟨s.cliRequestResult, rfl⟩
  | cons ret rest ih => exact ih _

/-- A poster puts down what it holds. -/
theorem hands_perm {i : Nat} {x : Nat × Posting} (hx : s.hands[i]? = some x) :
    (x.1 :: (s.hands.eraseIdx i).map Prod.fst).Perm (s.hands.map Prod.fst) := by
  obtain ⟨hi, rfl⟩ := List.getElem?_eq_some_iff.mp hx
  exact (List.getElem_cons_eraseIdx_perm hi).map Prod.fst

/-- A poster has the slot it holds. -/
theorem posters_out {i slot : Nat} {p : Posting} (hx : s.hands[i]? = some (slot, p)) :
    (slot :: { s with hands := s.hands.eraseIdx i }.posters).Perm s.posters :=
  (hands_perm hx).append_right _

/-! ### No slot is lost -/

theorem take_slots (h : s.slots.Perm pool) (p : Posting) : (s.take p).slots.Perm pool := by
  unfold take
  cases hfree : s.freeMailRing with
  | nil =>
      cases p with
      | northbound type m => exact h
      | etcd ev => exact h
      | dp type mbuf => exact h
  | cons slot rest =>
      have htaken : ∀ q : Posting,
          { s with freeMailRing := rest, hands := s.hands ++ [(slot, q)] }.slots.Perm pool := by
        intro q
        refine (List.perm_iff_count.mpr fun i => ?_).trans h
        rw [count_slots, count_slots, hfree]
        simp only [posters, List.count_append, List.count_cons, List.map_append, List.map_cons,
          List.map_nil, List.count_nil]
        show rest.count i + (mailSlots s.onWay).count i + _ = _
        omega
      cases p with
      | northbound type m => exact htaken _
      | etcd ev => exact htaken _
      | dp type mbuf => exact htaken _

theorem refusePost_slots (s : Mailbox) (p : Posting) : (s.refusePost p).slots = s.slots := by
  cases p with
  | northbound type m => rfl
  | etcd ev => rfl
  | dp type mbuf => rfl

theorem push_slots (h : s.slots.Perm pool) (i : Nat) : (s.push i).slots.Perm pool := by
  unfold push
  cases hx : s.hands[i]? with
  | none => exact h
  | some x =>
      obtain ⟨slot, p⟩ := x
      have hout := posters_out hx
      dsimp only
      by_cases hroom : s.cpQ.length < ringSize - 1
      · rw [if_pos hroom]
        refine List.Perm.trans ?_ h
        exact slots_enqueue rfl (enqueue_onWay _ slot p) hout
      · rw [if_neg hroom, refusePost_slots]
        refine giveBack_slots (List.Perm.trans ?_ h)
        refine slots_out rfl fun j => ?_
        have hj := hout.count_eq j
        rw [List.count_cons] at hj
        simp only [beq_iff_eq] at hj
        show (mailSlots s.onWay).count j + _ + _ = _
        omega

theorem linkEvent_slots (h : s.slots.Perm pool) (ref : Ref) : (s.linkEvent ref).slots.Perm pool := by
  unfold linkEvent
  by_cases hroom : s.cpQ.length < ringSize - 1
  · rw [if_pos hroom]
    refine (List.perm_iff_count.mpr fun i => ?_).trans h
    have hway : ((s.cpQ ++ [CpMail.link ref]) ++ s.processing).Perm (.link ref :: s.onWay) := by
      rw [List.append_assoc]
      exact List.perm_middle
    have hc : (mailSlots ((s.cpQ ++ [CpMail.link ref]) ++ s.processing)).count i =
        (mailSlots (.link ref :: s.onWay)).count i := (hway.filterMap _).count_eq i
    rw [count_mailSlots_cons, if_neg (by simp [CpMail.slot]), Nat.zero_add] at hc
    rw [count_slots, count_slots, ← hc]
    rfl
  · rw [if_neg hroom]
    exact h

theorem burst_slots (h : s.slots.Perm pool) : s.burst.slots.Perm pool := by
  refine (slots_perm ?_ (burst_onWay s) ?_).trans h
  · unfold burst
    split
    · rfl
    · rfl
  · unfold burst
    split
    · exact List.Perm.refl _
    · exact List.Perm.refl _

theorem check_slots (h : s.slots.Perm pool) (v : CcbView) : (s.check v).slots.Perm pool := by
  refine (slots_perm ?_ (by rw [check_onWay]) ?_).trans h
  · rcases check_cases s v with h | ⟨mail, rest, hcur, hbatch, h⟩
    · rw [h]
    · rw [h]
  · rcases check_cases s v with h | ⟨mail, rest, hcur, hbatch, h⟩
    · rw [h]
    · rw [h]
      exact List.Perm.refl _

/-- A mail that the loop is done with is off its way. -/
theorem onWay_done {job : Job} (hcur : s.current = some job) (ht : t.cpQ = s.cpQ)
    (hb : t.batch = s.batch) (hn : t.current = none) : s.onWay.Perm (job.mail :: t.onWay) := by
  simp only [onWay, processing, hcur, ht, hb, hn, Option.map_some, Option.map_none,
    Option.toList_some, Option.toList_none, List.nil_append]
  exact List.perm_middle

/-- Its slot can go back. -/
theorem slots_done {slot : Nat} {p : Posting} {task : Task} {dropped : Bool}
    (hcur : s.current = some ⟨.mail slot p, task, dropped⟩) (h : s.slots.Perm pool)
    (ht : t.cpQ = s.cpQ) (hb : t.batch = s.batch) (hn : t.current = none)
    (hfree : t.freeMailRing = s.freeMailRing) (hpost : t.posters = s.posters) :
    (t.giveBack slot).slots.Perm pool := by
  refine giveBack_slots ((slots_out hfree fun i => ?_).trans h)
  have hw : (mailSlots s.onWay).count i = (mailSlots (.mail slot p :: t.onWay)).count i :=
    ((onWay_done hcur ht hb hn).filterMap _).count_eq i
  rw [hw, count_mailSlots_cons, hpost]
  simp only [CpMail.slot, Option.some.injEq]
  omega

theorem finish_slots (h : s.slots.Perm pool) (ret : Status) : (s.finish ret).slots.Perm pool := by
  unfold finish
  cases hcur : s.current with
  | none => exact h
  | some job =>
      obtain ⟨mail, task, dropped⟩ := job
      cases mail with
      | link ref =>
          refine List.Perm.trans (List.perm_iff_count.mpr fun i => ?_) h
          have hway := onWay_done (t := { s with current := none, released := s.released ++ [ref] })
            hcur rfl rfl rfl
          have hw : (mailSlots s.onWay).count i = (mailSlots (.link ref :: Mailbox.onWay _)).count i :=
            (hway.filterMap _).count_eq i
          rw [count_mailSlots_cons, if_neg (by simp [CpMail.slot]), Nat.zero_add] at hw
          rw [count_slots, count_slots, hw]
          rfl
      | mail slot p =>
          cases p with
          | etcd ev => exact slots_done hcur h rfl rfl rfl rfl rfl
          | dp type mbuf => exact slots_done hcur h rfl rfl rfl rfl rfl
          | northbound type m =>
              dsimp only
              obtain ⟨r, hr⟩ := publish_eq
                { s with current := none,
                         log := s.log ++ [northboundReceipt type m task dropped ret],
                         released := s.released ++ (northboundReceipt type m task dropped ret).freed }
                m.seq (northboundReceipt type m task dropped ret).verdicts
              rw [hr]
              exact slots_done hcur h rfl rfl rfl rfl rfl

theorem cliStart_slots (h : s.slots.Perm pool) (c : CliCommand) (ccbId : Nat)
    (payload : Option Ref) : (s.cliStart c ccbId payload).slots.Perm pool := by
  unfold cliStart
  cases hcaller : s.caller with
  | posting slot type m => exact h
  | waiting m => exact h
  | leaving => exact h
  | idle =>
      dsimp only
      cases hfree : s.freeMailRing with
      | nil =>
          refine List.Perm.trans ?_ h
          refine slots_perm hfree.symm (List.Perm.refl _) ?_
          simp only [posters, hcaller]
          exact List.Perm.refl _
      | cons slot rest =>
          refine (List.perm_iff_count.mpr fun i => ?_).trans h
          rw [count_slots, count_slots, hfree]
          simp only [posters, hcaller, CliCaller.slots, List.count_append, List.count_cons,
            List.count_nil]
          show rest.count i + (mailSlots s.onWay).count i + _ = _
          omega

theorem cliPush_slots (h : s.slots.Perm pool) : s.cliPush.slots.Perm pool := by
  unfold cliPush
  cases hcaller : s.caller with
  | idle => exact h
  | waiting m => exact h
  | leaving => exact h
  | posting slot type m =>
      have hout : (slot :: (s.hands.map Prod.fst ++ [])).Perm s.posters := by
        unfold posters
        rw [hcaller, List.append_nil]
        exact (List.perm_append_singleton slot _).symm
      dsimp only
      by_cases hroom : s.cpQ.length < ringSize - 1
      · rw [if_pos hroom]
        refine List.Perm.trans ?_ h
        exact slots_enqueue rfl (enqueue_onWay _ slot (.northbound type m)) hout
      · rw [if_neg hroom]
        refine giveBack_slots (List.Perm.trans ?_ h)
        refine slots_out rfl fun j => ?_
        have hj := hout.count_eq j
        rw [List.count_cons] at hj
        simp only [beq_iff_eq] at hj
        show (mailSlots s.onWay).count j + (s.hands.map Prod.fst ++ []).count j + _ = _
        omega

theorem cliPoll_slots (h : s.slots.Perm pool) : s.cliPoll.slots.Perm pool := by
  unfold cliPoll
  cases hcaller : s.caller with
  | idle => exact h
  | posting slot type m => exact h
  | leaving => exact h
  | waiting m =>
      dsimp only
      split
      · refine List.Perm.trans ?_ h
        refine slots_perm rfl (List.Perm.refl _) ?_
        simp only [posters, hcaller, CliCaller.slots]
        exact List.Perm.refl _
      · exact h

theorem cliGiveUp_slots (h : s.slots.Perm pool) : s.cliGiveUp.slots.Perm pool := by
  unfold cliGiveUp
  cases hcaller : s.caller with
  | idle => exact h
  | posting slot type m => exact h
  | leaving => exact h
  | waiting m =>
      refine List.Perm.trans ?_ h
      refine slots_perm rfl (List.Perm.refl _) ?_
      simp only [posters, hcaller, CliCaller.slots]
      exact List.Perm.refl _

theorem cliLeave_slots (h : s.slots.Perm pool) : s.cliLeave.slots.Perm pool := by
  unfold cliLeave
  cases hcaller : s.caller with
  | idle => exact h
  | posting slot type m => exact h
  | waiting m => exact h
  | leaving =>
      refine List.Perm.trans ?_ h
      refine slots_perm rfl (List.Perm.refl _) ?_
      simp only [posters, hcaller, CliCaller.slots]
      exact List.Perm.refl _

/-- No step loses a slot. -/
theorem step_slots (h : s.slots.Perm pool) (l : MailLabel) : (mailStep s l).slots.Perm pool := by
  cases l with
  | take p => exact take_slots h p
  | push i => exact push_slots h i
  | linkEvent ref => exact linkEvent_slots h ref
  | burst => exact burst_slots h
  | check v => exact check_slots h v
  | finish ret => exact finish_slots h ret
  | cliStart c ccbId payload => exact cliStart_slots h c ccbId payload
  | cliPush => exact cliPush_slots h
  | cliPoll => exact cliPoll_slots h
  | cliGiveUp => exact cliGiveUp_slots h
  | cliLeave => exact cliLeave_slots h

/-! ### Nothing is freed twice or forgotten -/

theorem receipt_freed (type : NorthboundType) (m : NorthboundMsg) (task : Task) (dropped : Bool)
    (ret : Status) : (northboundReceipt type m task dropped ret).freed = task.heap.toList := by
  cases task with
  | request heap work =>
      unfold northboundReceipt
      dsimp only
      split
      · rfl
      · rfl
  | refuse => rfl
  | fire => rfl
  | ignore => rfl

/-- The branches free what their commands hand over, and nothing else. -/
theorem task_heap (v : CcbView) (type : NorthboundType) (m : NorthboundMsg) :
    (northboundTask v type m).heap.toList = (Posting.northbound type m).owned := by
  cases type with
  | pppoe =>
      show (pppoeTask v m).heap.toList = _
      unfold pppoeTask
      split_ifs <;>
        simp_all [Task.heap, Posting.owned, ownsPayload, pppoeCmdApplyConfig, pppoeCmdSnatSet,
          pppoeCmdSnatRemove, pppoeCmdRemoveConfig]
  | dhcp =>
      show (dhcpTask v m).heap.toList = _
      unfold dhcpTask
      split_ifs <;> rfl
  | dns =>
      show (dnsTask v m).heap.toList = _
      unfold dnsTask
      split_ifs <;> simp_all [Task.heap, Posting.owned, ownsPayload]
  | node =>
      show (nodeTask m).heap.toList = _
      unfold nodeTask
      split_ifs <;> simp_all [Task.heap, Posting.owned, ownsPayload]

/-- A payload that a request hands over is freed at every exit of the branch it takes. -/
theorem freed_eq_owned (v : CcbView) (type : NorthboundType) (m : NorthboundMsg) (dropped : Bool)
    (ret : Status) : (northboundReceipt type m (northboundTask v type m) dropped ret).freed =
      (Posting.northbound type m).owned := by
  rw [receipt_freed, task_heap]

/-- The loop is at a message with the branch of its type. -/
def Tasked (s : Mailbox) : Prop :=
  ∀ slot type m task dropped, s.current = some ⟨.mail slot (.northbound type m), task, dropped⟩ →
    ∃ v, task = northboundTask v type m

theorem balanced_quiet (h : s.Balanced) (hg : t.given = s.given) (hr : t.released = s.released)
    (hway : t.onWay.Perm s.onWay) : t.Balanced := by
  intro r
  have hc : t.carried.count r = s.carried.count r := (hway.flatMap_right _).count_eq r
  rw [hg, hr, hc]
  exact h r

/-- A mail goes on its way with what it carries. -/
theorem balanced_given (mail : CpMail) (h : s.Balanced) (hg : t.given = s.given ++ mail.owned)
    (hr : t.released = s.released) (hway : t.onWay.Perm (mail :: s.onWay)) : t.Balanced := by
  intro r
  have hc : t.carried.count r = ((mail :: s.onWay).flatMap CpMail.owned).count r :=
    (hway.flatMap_right _).count_eq r
  have hs := h r
  rw [List.flatMap_cons, List.count_append] at hc
  rw [hg, hr, hc, List.count_append]
  unfold carried at hs
  omega

/-- What a mail carries is freed as it leaves. -/
theorem balanced_released (mail : CpMail) (h : s.Balanced) (hg : t.given = s.given)
    (hr : t.released = s.released ++ mail.owned) (hway : s.onWay.Perm (mail :: t.onWay)) :
    t.Balanced := by
  intro r
  have hc : s.carried.count r = ((mail :: t.onWay).flatMap CpMail.owned).count r :=
    (hway.flatMap_right _).count_eq r
  have hs := h r
  rw [List.flatMap_cons, List.count_append] at hc
  rw [hg, hr, List.count_append]
  unfold carried
  omega

/-- What is refused is freed on the spot, or stays with its owner. -/
theorem balanced_refusePost (h : s.Balanced) (p : Posting) : (s.refusePost p).Balanced := by
  cases p with
  | northbound type m => exact h
  | etcd ev => exact h
  | dp type mbuf =>
      intro r
      have hs := h r
      show (s.given ++ [mbuf]).count r = (s.released ++ [mbuf]).count r + s.carried.count r
      rw [List.count_append, List.count_append]
      omega

theorem balanced_giveBack (h : s.Balanced) (slot : Nat) : (s.giveBack slot).Balanced := by
  unfold giveBack
  split
  · exact h
  · exact h

theorem take_balanced (h : s.Balanced) (p : Posting) : (s.take p).Balanced := by
  unfold take
  cases s.freeMailRing with
  | nil => exact balanced_refusePost h p
  | cons slot rest =>
      cases p with
      | northbound type m => exact balanced_quiet h rfl rfl (List.Perm.refl _)
      | etcd ev => exact balanced_quiet h rfl rfl (List.Perm.refl _)
      | dp type mbuf => exact balanced_quiet h rfl rfl (List.Perm.refl _)

theorem push_balanced (h : s.Balanced) (i : Nat) : (s.push i).Balanced := by
  unfold push
  cases s.hands[i]? with
  | none => exact h
  | some x =>
      obtain ⟨slot, p⟩ := x
      have ht : { s with hands := s.hands.eraseIdx i }.Balanced :=
        balanced_quiet h rfl rfl (List.Perm.refl _)
      dsimp only
      split
      · exact balanced_given _ ht rfl rfl (enqueue_onWay _ slot p)
      · exact balanced_refusePost (balanced_giveBack ht slot) p

theorem linkEvent_balanced (h : s.Balanced) (ref : Ref) : (s.linkEvent ref).Balanced := by
  unfold linkEvent
  split
  · refine balanced_given (.link ref) h rfl rfl ?_
    show ((s.cpQ ++ [CpMail.link ref]) ++ s.processing).Perm _
    rw [List.append_assoc]
    exact List.perm_middle
  · intro r
    have hs := h r
    show (s.given ++ [ref]).count r = (s.released ++ [ref]).count r + s.carried.count r
    rw [List.count_append, List.count_append]
    omega

theorem burst_balanced (h : s.Balanced) : s.burst.Balanced := by
  refine balanced_quiet h ?_ ?_ (burst_onWay s)
  · unfold burst
    split
    · rfl
    · rfl
  · unfold burst
    split
    · rfl
    · rfl

theorem check_balanced (h : s.Balanced) (v : CcbView) : (s.check v).Balanced := by
  have hway : (s.check v).onWay.Perm s.onWay := by rw [check_onWay]
  rcases check_cases s v with hc | ⟨mail, rest, hcur, hbatch, hc⟩
  · rw [hc]
    exact h
  · rw [hc] at hway ⊢
    exact balanced_quiet h rfl rfl hway

theorem finish_balanced (h : s.Balanced) (ht : s.Tasked) (ret : Status) :
    (s.finish ret).Balanced := by
  unfold finish
  cases hcur : s.current with
  | none => exact h
  | some job =>
      obtain ⟨mail, task, dropped⟩ := job
      cases mail with
      | link ref => exact balanced_released (.link ref) h rfl rfl (onWay_done hcur rfl rfl rfl)
      | mail slot p =>
          cases p with
          | etcd ev =>
              refine balanced_giveBack ?_ slot
              exact balanced_released (.mail slot (.etcd ev)) h rfl rfl
                (onWay_done hcur rfl rfl rfl)
          | dp type mbuf =>
              refine balanced_giveBack ?_ slot
              exact balanced_released (.mail slot (.dp type mbuf)) h rfl rfl
                (onWay_done hcur rfl rfl rfl)
          | northbound type m =>
              obtain ⟨v, rfl⟩ := ht slot type m task dropped hcur
              dsimp only
              refine balanced_giveBack ?_ slot
              obtain ⟨r, hr⟩ := publish_eq
                { s with current := none,
                         log := s.log ++ [northboundReceipt type m _ dropped ret],
                         released := s.released ++ (northboundReceipt type m _ dropped ret).freed }
                m.seq (northboundReceipt type m _ dropped ret).verdicts
              rw [hr]
              refine balanced_released (.mail slot (.northbound type m)) h rfl ?_
                (onWay_done hcur rfl rfl rfl)
              exact congrArg _ (freed_eq_owned v type m dropped ret)

theorem cliStart_balanced (h : s.Balanced) (c : CliCommand) (ccbId : Nat) (payload : Option Ref) :
    (s.cliStart c ccbId payload).Balanced := by
  unfold cliStart
  cases s.caller with
  | posting slot type m => exact h
  | waiting m => exact h
  | leaving => exact h
  | idle =>
      dsimp only
      cases s.freeMailRing with
      | nil => exact balanced_quiet h rfl rfl (List.Perm.refl _)
      | cons slot rest => exact balanced_quiet h rfl rfl (List.Perm.refl _)

theorem cliPush_balanced (h : s.Balanced) : s.cliPush.Balanced := by
  unfold cliPush
  cases s.caller with
  | idle => exact h
  | waiting m => exact h
  | leaving => exact h
  | posting slot type m =>
      dsimp only
      split
      · have ht : { s with caller := .waiting m }.Balanced :=
          balanced_quiet h rfl rfl (List.Perm.refl _)
        exact balanced_given _ ht rfl rfl (enqueue_onWay _ slot (.northbound type m))
      · have ht : { s with caller := .idle }.Balanced :=
          balanced_quiet h rfl rfl (List.Perm.refl _)
        exact balanced_giveBack ht slot

theorem cliPoll_balanced (h : s.Balanced) : s.cliPoll.Balanced := by
  unfold cliPoll
  split
  · split
    · exact balanced_quiet h rfl rfl (List.Perm.refl _)
    · exact h
  · exact h

theorem cliGiveUp_balanced (h : s.Balanced) : s.cliGiveUp.Balanced := by
  unfold cliGiveUp
  split
  · exact balanced_quiet h rfl rfl (List.Perm.refl _)
  · exact h

theorem cliLeave_balanced (h : s.Balanced) : s.cliLeave.Balanced := by
  unfold cliLeave
  split
  · exact balanced_quiet h rfl rfl (List.Perm.refl _)
  · exact h

/-- Every step keeps the balance. -/
theorem step_balanced (h : s.Balanced) (ht : s.Tasked) (l : MailLabel) :
    (mailStep s l).Balanced := by
  cases l with
  | take p => exact take_balanced h p
  | push i => exact push_balanced h i
  | linkEvent ref => exact linkEvent_balanced h ref
  | burst => exact burst_balanced h
  | check v => exact check_balanced h v
  | finish ret => exact finish_balanced h ht ret
  | cliStart c ccbId payload => exact cliStart_balanced h c ccbId payload
  | cliPush => exact cliPush_balanced h
  | cliPoll => exact cliPoll_balanced h
  | cliGiveUp => exact cliGiveUp_balanced h
  | cliLeave => exact cliLeave_balanced h

/-! ### What the loop is at, and what it has done -/

/-- The two fields that only the loop writes. -/
def SameLoop (s t : Mailbox) : Prop := t.current = s.current ∧ t.log = s.log

theorem sameLoop_giveBack (s : Mailbox) (slot : Nat) : s.SameLoop (s.giveBack slot) := by
  unfold giveBack
  split
  · exact ⟨rfl, rfl⟩
  · exact ⟨rfl, rfl⟩

theorem sameLoop_refusePost (s : Mailbox) (p : Posting) : s.SameLoop (s.refusePost p) := by
  cases p with
  | northbound type m => exact ⟨rfl, rfl⟩
  | etcd ev => exact ⟨rfl, rfl⟩
  | dp type mbuf => exact ⟨rfl, rfl⟩

theorem SameLoop.trans {u : Mailbox} (h : s.SameLoop t) (h' : t.SameLoop u) : s.SameLoop u :=
  ⟨h'.1.trans h.1, h'.2.trans h.2⟩

theorem sameLoop_take (s : Mailbox) (p : Posting) : s.SameLoop (s.take p) := by
  unfold take
  cases s.freeMailRing with
  | nil => exact sameLoop_refusePost s p
  | cons slot rest =>
      cases p with
      | northbound type m => exact ⟨rfl, rfl⟩
      | etcd ev => exact ⟨rfl, rfl⟩
      | dp type mbuf => exact ⟨rfl, rfl⟩

theorem sameLoop_push (s : Mailbox) (i : Nat) : s.SameLoop (s.push i) := by
  unfold push
  cases s.hands[i]? with
  | none => exact ⟨rfl, rfl⟩
  | some x =>
      obtain ⟨slot, p⟩ := x
      dsimp only
      split
      · exact ⟨rfl, rfl⟩
      · refine SameLoop.trans ?_ (sameLoop_refusePost _ p)
        exact SameLoop.trans (t := { s with hands := s.hands.eraseIdx i }) ⟨rfl, rfl⟩
          (sameLoop_giveBack _ slot)

theorem sameLoop_cliStart (s : Mailbox) (c : CliCommand) (ccbId : Nat) (payload : Option Ref) :
    s.SameLoop (s.cliStart c ccbId payload) := by
  unfold cliStart
  split
  · dsimp only
    split
    · exact ⟨rfl, rfl⟩
    · exact ⟨rfl, rfl⟩
  · exact ⟨rfl, rfl⟩

theorem sameLoop_cliPush (s : Mailbox) : s.SameLoop s.cliPush := by
  unfold cliPush
  split
  · split
    · exact ⟨rfl, rfl⟩
    · exact SameLoop.trans (t := { s with caller := .idle }) ⟨rfl, rfl⟩ (sameLoop_giveBack _ _)
  · exact ⟨rfl, rfl⟩

/-- Posters and callers leave the loop alone, and so does the next burst. -/
theorem step_sameLoop (l : MailLabel) (hc : ∀ v, l ≠ .check v) (hf : ∀ ret, l ≠ .finish ret) :
    s.SameLoop (mailStep s l) := by
  cases l with
  | take p => exact sameLoop_take s p
  | push i => exact sameLoop_push s i
  | linkEvent ref =>
      show s.SameLoop (s.linkEvent ref)
      unfold linkEvent
      split
      · exact ⟨rfl, rfl⟩
      · exact ⟨rfl, rfl⟩
  | burst =>
      show s.SameLoop s.burst
      unfold burst
      split
      · exact ⟨rfl, rfl⟩
      · exact ⟨rfl, rfl⟩
  | check v => exact absurd rfl (hc v)
  | finish ret => exact absurd rfl (hf ret)
  | cliStart c ccbId payload => exact sameLoop_cliStart s c ccbId payload
  | cliPush => exact sameLoop_cliPush s
  | cliPoll =>
      show s.SameLoop s.cliPoll
      unfold cliPoll
      split
      · split
        · exact ⟨rfl, rfl⟩
        · exact ⟨rfl, rfl⟩
      · exact ⟨rfl, rfl⟩
  | cliGiveUp =>
      show s.SameLoop s.cliGiveUp
      unfold cliGiveUp
      split
      · exact ⟨rfl, rfl⟩
      · exact ⟨rfl, rfl⟩
  | cliLeave =>
      show s.SameLoop s.cliLeave
      unfold cliLeave
      split
      · exact ⟨rfl, rfl⟩
      · exact ⟨rfl, rfl⟩

/-- The loop is done with a message: it leaves a receipt. -/
theorem finish_northbound {slot : Nat} {type : NorthboundType} {m : NorthboundMsg} {task : Task}
    {dropped : Bool} (hcur : s.current = some ⟨.mail slot (.northbound type m), task, dropped⟩)
    (ret : Status) : (s.finish ret).current = none ∧
      (s.finish ret).log = s.log ++ [northboundReceipt type m task dropped ret] := by
  unfold finish
  rw [hcur]
  dsimp only
  obtain ⟨r, hr⟩ := publish_eq
    { s with current := none,
             log := s.log ++ [northboundReceipt type m task dropped ret],
             released := s.released ++ (northboundReceipt type m task dropped ret).freed }
    m.seq (northboundReceipt type m task dropped ret).verdicts
  rw [hr]
  exact sameLoop_giveBack _ slot

theorem finish_loop (s : Mailbox) (ret : Status) :
    (s.finish ret).current = none ∧ ((s.finish ret).log = s.log ∨
      ∃ slot type m task dropped, s.current = some ⟨.mail slot (.northbound type m), task, dropped⟩ ∧
        (s.finish ret).log = s.log ++ [northboundReceipt type m task dropped ret]) := by
  cases hcur : s.current with
  | none =>
      unfold finish
      rw [hcur]
      exact ⟨hcur, Or.inl rfl⟩
  | some job =>
      obtain ⟨mail, task, dropped⟩ := job
      cases mail with
      | link ref =>
          unfold finish
          rw [hcur]
          exact ⟨rfl, Or.inl rfl⟩
      | mail slot p =>
          cases p with
          | etcd ev =>
              unfold finish
              rw [hcur]
              obtain ⟨hc, hl⟩ := sameLoop_giveBack
                { s with current := none, released := s.released ++ Posting.owned (.etcd ev) } slot
              exact ⟨hc, Or.inl hl⟩
          | dp type mbuf =>
              unfold finish
              rw [hcur]
              obtain ⟨hc, hl⟩ := sameLoop_giveBack
                { s with current := none, released := s.released ++ Posting.owned (.dp type mbuf) }
                slot
              exact ⟨hc, Or.inl hl⟩
          | northbound type m =>
              obtain ⟨hc, hl⟩ := finish_northbound hcur ret
              exact ⟨hc, Or.inr ⟨slot, type, m, task, dropped, rfl, hl⟩⟩

theorem step_tasked (h : s.Tasked) (l : MailLabel) : (mailStep s l).Tasked := by
  by_cases hc : ∃ v, l = .check v
  · obtain ⟨v, rfl⟩ := hc
    show (s.check v).Tasked
    rcases check_cases s v with heq | ⟨mail, rest, hcur, hbatch, heq⟩
    · rw [heq]
      exact h
    · rw [heq]
      intro slot type m task dropped hjob
      simp only [Option.some.injEq, Job.mk.injEq] at hjob
      obtain ⟨rfl, rfl, rfl⟩ := hjob
      exact ⟨v, rfl⟩
  · by_cases hf : ∃ ret, l = .finish ret
    · obtain ⟨ret, rfl⟩ := hf
      intro slot type m task dropped hjob
      have hnone : (mailStep s (.finish ret)).current = none := (finish_loop s ret).1
      rw [hnone] at hjob
      cases hjob
    · obtain ⟨hcur, -⟩ := step_sameLoop (s := s) l (fun v hv => hc ⟨v, hv⟩) fun r hr => hf ⟨r, hr⟩
      intro slot type m task dropped hjob
      rw [hcur] at hjob
      exact h slot type m task dropped hjob

/-! ### Every request is answered -/

/-- Every request the loop is done with has one verdict, unless it was abandoned. -/
def Answered (s : Mailbox) : Prop :=
  ∀ e ∈ s.log, e.msg.seq ≠ 0 → e.dropped = false →
    (∃ c : CliCommand, c.type = e.type ∧ c.cmd = e.msg.cmd) → e.verdicts.length = 1

theorem pppoeTask_answers (v : CcbView) (m : NorthboundMsg) (hlow : pppoeCmdApplyConfig ≤ m.cmd)
    (hhigh : m.cmd ≤ pppoeCmdIpv6Disable) :
    (pppoeTask v m).answers = true := by
  unfold pppoeTask
  split_ifs <;> try rfl
  all_goals
    simp only [pppoeCmdApplyConfig, pppoeCmdIpv6Disable, pppoeCmdSnatSet, pppoeCmdSnatRemove,
      pppoeCmdRemoveConfig, pppoeCmdDisable, pppoeCmdEnable, pppoeCmdForceDisable,
      pppoeCmdIpv6Changed, pppoeCmdTcpConntrackEnable, pppoeCmdTcpConntrackDisable,
      pppoeCmdIpv6Enable] at *
    omega

theorem dnsTask_answers (v : CcbView) (m : NorthboundMsg) (hhigh : m.cmd ≤ dnsCmdStaticDump) :
    (dnsTask v m).answers = true := by
  unfold dnsTask
  split_ifs <;> try rfl
  all_goals
    simp only [dnsCmdStaticDump, dnsCmdRecordAdd, dnsCmdRecordRemove, dnsCmdProxyEnable,
      dnsCmdProxyDisable, dnsCmdCacheFlush, dnsCmdCacheDump] at *
    omega

theorem cliCommand_range (c : CliCommand) :
    (c.type = .pppoe ∧ pppoeCmdApplyConfig ≤ c.cmd ∧ c.cmd ≤ pppoeCmdIpv6Disable) ∨
      (c.type = .dns ∧ c.cmd ≤ dnsCmdStaticDump) ∨
      (c.type = .node ∧ c.cmd = nodeCmdSetUserCount) := by
  cases c <;> decide

/-- A request of the CLI is never fired or ignored: it asks about the mark, or is refused. -/
theorem cliCommand_task (v : CcbView) (c : CliCommand) (m : NorthboundMsg) (hm : m.cmd = c.cmd) :
    (northboundTask v c.type m).answers = true := by
  rcases cliCommand_range c with ⟨ht, hlow, hhigh⟩ | ⟨ht, hhigh⟩ | ⟨ht, hcmd⟩
  · rw [ht]
    exact pppoeTask_answers v m (hm ▸ hlow) (hm ▸ hhigh)
  · rw [ht]
    exact dnsTask_answers v m (hm ▸ hhigh)
  · rw [ht]
    show (nodeTask m).answers = true
    unfold nodeTask
    rw [if_pos (hm.trans hcmd)]
    rfl

/-- A request that is not dropped has one verdict. -/
theorem receipt_verdicts {task : Task} (htask : task.answers = true)
    (type : NorthboundType) (m : NorthboundMsg) (dropped : Bool) (ret : Status) (hseq : m.seq ≠ 0)
    (hkept : (northboundReceipt type m task dropped ret).dropped = false) :
    (northboundReceipt type m task dropped ret).verdicts.length = 1 := by
  have hone : ∀ st, (publishes m.seq st).length = 1 := by
    intro st
    unfold publishes
    rw [if_neg hseq]
    rfl
  cases task with
  | request heap work =>
      cases dropped with
      | true => cases hkept
      | false => exact hone _
  | refuse => exact hone _
  | fire => cases htask
  | ignore => cases htask

theorem receipt_type (type : NorthboundType) (m : NorthboundMsg) (task : Task) (dropped : Bool)
    (ret : Status) : (northboundReceipt type m task dropped ret).type = type ∧
      (northboundReceipt type m task dropped ret).msg = m := by
  cases task with
  | request heap work =>
      cases dropped with
      | true => exact ⟨rfl, rfl⟩
      | false => exact ⟨rfl, rfl⟩
  | refuse => exact ⟨rfl, rfl⟩
  | fire => exact ⟨rfl, rfl⟩
  | ignore => exact ⟨rfl, rfl⟩

theorem step_answered (h : s.Answered) (ht : s.Tasked) (l : MailLabel) :
    (mailStep s l).Answered := by
  by_cases hf : ∃ ret, l = .finish ret
  · obtain ⟨ret, rfl⟩ := hf
    intro e he hseq hkept hcli
    have hlog : (mailStep s (.finish ret)).log = s.log ∨ _ := (finish_loop s ret).2
    rcases hlog with hlog | ⟨slot, type, m, task, dropped, hcur, hlog⟩
    · rw [hlog] at he
      exact h e he hseq hkept hcli
    · have hlog' : (mailStep s (.finish ret)).log = _ := hlog
      rw [hlog'] at he
      rcases List.mem_append.mp he with he | he
      · exact h e he hseq hkept hcli
      · obtain rfl := List.mem_singleton.mp he
        obtain ⟨v, rfl⟩ := ht slot type m task dropped hcur
        obtain ⟨htype, hmsg⟩ := receipt_type type m (northboundTask v type m) dropped ret
        obtain ⟨c, hc, hcmd⟩ := hcli
        rw [htype] at hc
        rw [hmsg] at hcmd hseq
        have hreq := cliCommand_task v c m hcmd.symm
        rw [hc] at hreq
        exact receipt_verdicts hreq type m dropped ret hseq hkept
  · have hlog : (mailStep s l).log = s.log := by
      by_cases hc : ∃ v, l = .check v
      · obtain ⟨v, rfl⟩ := hc
        show (s.check v).log = s.log
        rcases check_cases s v with heq | ⟨mail, rest, hcur, hbatch, heq⟩
        · rw [heq]
        · rw [heq]
      · exact (step_sameLoop l (fun v hv => hc ⟨v, hv⟩) fun r hr => hf ⟨r, hr⟩).2
    intro e he
    rw [hlog] at he
    exact h e he

/-! ### Whole runs -/

/-- The three together, with what carries them. -/
structure Conserved (s : Mailbox) : Prop where
  slots : s.slots.Perm pool
  balanced : s.Balanced
  tasked : s.Tasked
  answered : s.Answered

theorem conserved_boot : Conserved boot where
  slots := by
    show (pool ++ [] ++ [] ++ []).Perm pool
    simp only [List.append_nil]
    exact List.Perm.refl _
  balanced := fun _ => rfl
  tasked := by
    intro slot type m task dropped h
    cases h
  answered := by
    intro e he
    cases he

theorem conserved_step (h : Conserved s) (l : MailLabel) : Conserved (mailStep s l) where
  slots := step_slots h.slots l
  balanced := step_balanced h.balanced h.tasked l
  tasked := step_tasked h.tasked l
  answered := step_answered h.answered h.tasked l

/--
**Mail is conserved.**

Whatever the posters, the loop and the callers do in whatever order, with whatever commands: every
slot of the pool is in one place, the free ring, `cp_q`, the burst, or the hands of a poster between
its two ring operations; whatever went over to the control thread has been freed once, or is carried
once; and a request of the CLI that the loop is done with, and did not find abandoned, has one
verdict.
-/
theorem run_conserves {ls : List MailLabel} {q : Mailbox}
    (h : Run mailStep (fun _ _ => True) boot ls q) :
    q.slots.Perm pool ∧ q.slots.Nodup ∧ q.Balanced ∧ q.Answered := by
  have hq : Conserved q := h.inv Conserved (fun s l hs _ => conserved_step hs l) conserved_boot
  refine ⟨hq.slots, ?_, hq.balanced, hq.answered⟩
  exact hq.slots.nodup_iff.mpr (List.nodup_range' 1)

/-- A subscriber is removed from the CLI while a packet and an etcd event come in. -/
def removalLabels : List MailLabel :=
  [.cliStart .removeConfig 0 none, .take (.dp .dns 7), .cliPush, .take (.etcd 8), .push 1, .push 0,
    .burst, .check ⟨1, fun _ => true, fun _ => true⟩, .finish .success, .cliPoll, .cliLeave]

theorem run_conserves_removal :
    Run mailStep (fun _ _ => True) boot removalLabels (removalLabels.foldl mailStep boot) ∧
      (removalLabels.foldl mailStep boot).slots.Perm pool ∧
      (removalLabels.foldl mailStep boot).Answered := by
  have hrun : Run mailStep (fun _ _ => True) boot removalLabels (removalLabels.foldl mailStep boot) :=
    Run.of_labels boot removalLabels fun _ _ _ => trivial
  obtain ⟨hslots, -, -, hanswered⟩ := run_conserves hrun
  exact ⟨hrun, hslots, hanswered⟩

/-- A connect with a sequence, as nobody posts it. -/
def connectMsg : NorthboundMsg := ⟨pppoeCmdEnable, 0, 1, none, 0⟩

def connectLabels : List MailLabel :=
  [.take (.northbound .pppoe connectMsg), .push 0, .burst, .check ⟨1, fun _ => true, fun _ => true⟩]

/-- The loop has begun with it. -/
def connecting : Mailbox := connectLabels.foldl mailStep boot

/-- A command without a verdict gives none, whatever sequence it carries. -/
theorem connect_unanswered : ∃ ls q, Run mailStep (fun _ _ => True) boot ls q ∧
    ∃ e ∈ q.log, e.msg.seq ≠ 0 ∧ e.dropped = false ∧ e.verdicts = [] := by
  have hcur : connecting.current =
      some ⟨.mail 0 (.northbound .pppoe connectMsg), .fire, false⟩ := rfl
  have hlog : connecting.log = [] := rfl
  obtain ⟨-, hdone⟩ := finish_northbound hcur .success
  rw [hlog, List.nil_append] at hdone
  have hrun : Run mailStep (fun _ _ => True) boot connectLabels connecting :=
    Run.of_labels boot connectLabels fun _ _ _ => trivial
  have hmem : northboundReceipt .pppoe connectMsg .fire false .success ∈
      (connecting.finish .success).log := by
    rw [hdone]
    exact List.mem_singleton.mpr rfl
  exact ⟨_, _, hrun.snoc (.finish .success) trivial, _, hmem, by decide, rfl, rfl⟩

end Mailbox

end FastRG
