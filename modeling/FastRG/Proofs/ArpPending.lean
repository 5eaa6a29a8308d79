/-
Packets that wait for a MAC are neither lost nor mixed up, as long as no one cuts in.

While a drain puts back what it has no MAC for, what comes after those packets must not overtake
them, and must leave them their places.  A call that has found the ring full must still find it so
when it takes the oldest entry.  And there must be an entry for every call.  In a run in which that
holds, every packet of a call is in the queue, has left, or has been freed, and is there once; it
leaves with the MAC of its own address, and after those that were queued before it for the same
address; and it is freed as the oldest of a full ring, or by a flush.

What comes back, and what leaves, of a batch is fixed once the batch is taken.  So the packets that
wait have an order: those that are about to leave, the ring, those that come back.
-/
import FastRG.ArpPending
import Mathlib.Data.List.Perm.Basic

namespace FastRG

/-! ### What becomes of a batch -/

/-- The entries of a batch that leave. -/
def leavingFrom (ip : BitVec 32) (txMax : Nat) : Nat → List ArpPendingPkt → List ArpPendingPkt
  | _, [] => []
  | count, e :: rest =>
      if e.targetIp = ip ∧ count < txMax then e :: leavingFrom ip txMax (count + 1) rest
      else leavingFrom ip txMax count rest

/-- The entries of a batch that come back. -/
def returningFrom (ip : BitVec 32) (txMax : Nat) : Nat → List ArpPendingPkt → List ArpPendingPkt
  | _, [] => []
  | count, e :: rest =>
      if e.targetIp = ip ∧ count < txMax then returningFrom ip txMax (count + 1) rest
      else e :: returningFrom ip txMax count rest

namespace ArpControlAt

/-- What is about to leave. -/
def leaving : ArpControlAt → List ArpPendingPkt
  | .drain d => leavingFrom d.resolvedIp d.txMax d.txCount d.batch
  | _ => []

/-- What is about to come back. -/
def returning : ArpControlAt → List ArpPendingPkt
  | .drain d => returningFrom d.resolvedIp d.txMax d.txCount d.batch
  | _ => []

/-- What the control lcore has in hand. -/
def inHand : ArpControlAt → List ArpPendingPkt
  | .drain d => d.batch
  | .flushing e => [e]
  | _ => []

end ArpControlAt

/-- What a call has in hand. -/
def ArpEnqueueAt.inHand : ArpEnqueueAt → List ArpPendingPkt
  | .enqueue entry => [entry]
  | .full entry => [entry]
  | .dropping entry oldest _ => [entry, oldest]
  | .retry entry => [entry]

/-- The entries for one address. -/
def forIp (ip : BitVec 32) (es : List ArpPendingPkt) : List ArpPendingPkt :=
  es.filter fun e => e.targetIp = ip

theorem forIp_append (ip : BitVec 32) (es es' : List ArpPendingPkt) :
    forIp ip (es ++ es') = forIp ip es ++ forIp ip es' := List.filter_append ..

theorem forIp_cons_of_eq {ip : BitVec 32} {e : ArpPendingPkt} (h : e.targetIp = ip)
    (es : List ArpPendingPkt) : forIp ip (e :: es) = e :: forIp ip es :=
  List.filter_cons_of_pos (decide_eq_true h)

theorem forIp_cons_of_ne {ip : BitVec 32} {e : ArpPendingPkt} (h : e.targetIp ≠ ip)
    (es : List ArpPendingPkt) : forIp ip (e :: es) = forIp ip es :=
  List.filter_cons_of_neg (by rw [decide_eq_true_eq]; exact h)

theorem returningFrom_full {ip : BitVec 32} {txMax count : Nat} (h : txMax ≤ count)
    (batch : List ArpPendingPkt) : returningFrom ip txMax count batch = batch := by
  induction batch with
  | nil => rfl
  | cons e rest ih =>
      unfold returningFrom
      rw [if_neg (by omega), ih]

theorem leavingFrom_full {ip : BitVec 32} {txMax count : Nat} (h : txMax ≤ count)
    (batch : List ArpPendingPkt) : leavingFrom ip txMax count batch = [] := by
  induction batch with
  | nil => rfl
  | cons e rest ih =>
      unfold leavingFrom
      rw [if_neg (by omega), ih]

theorem length_returningFrom_le (ip : BitVec 32) (txMax count : Nat) (batch : List ArpPendingPkt) :
    (returningFrom ip txMax count batch).length ≤ batch.length := by
  induction batch generalizing count with
  | nil => exact Nat.le_refl 0
  | cons e rest ih =>
      unfold returningFrom
      split
      · exact Nat.le_succ_of_le (ih (count + 1))
      · exact Nat.succ_le_succ (ih count)

/-- What leaves is for the address that has been resolved. -/
theorem targetIp_of_mem_leavingFrom {ip : BitVec 32} {txMax count : Nat}
    {batch : List ArpPendingPkt} {e : ArpPendingPkt} (h : e ∈ leavingFrom ip txMax count batch) :
    e.targetIp = ip := by
  induction batch generalizing count with
  | nil => cases h
  | cons e' rest ih =>
      unfold leavingFrom at h
      split at h
      · rename_i hleaves
        rcases List.mem_cons.mp h with heq | hrest
        · rw [heq, hleaves.1]
        · exact ih hrest
      · exact ih h

/-- Of the packets for one address those leave that come first. -/
theorem forIp_batch (ip ip' : BitVec 32) (txMax count : Nat) (batch : List ArpPendingPkt) :
    forIp ip' (leavingFrom ip txMax count batch) ++ forIp ip' (returningFrom ip txMax count batch) =
      forIp ip' batch := by
  induction batch generalizing count with
  | nil => rfl
  | cons e rest ih =>
      by_cases hleaves : e.targetIp = ip ∧ count < txMax
      · have hrest := ih (count + 1)
        unfold leavingFrom returningFrom
        rw [if_pos hleaves, if_pos hleaves]
        by_cases hmine : e.targetIp = ip'
        · rw [forIp_cons_of_eq hmine, forIp_cons_of_eq hmine, List.cons_append, hrest]
        · rw [forIp_cons_of_ne hmine, forIp_cons_of_ne hmine, hrest]
      · by_cases hroom : count < txMax
        · have hrest := ih count
          unfold leavingFrom returningFrom
          rw [if_neg hleaves, if_neg hleaves]
          by_cases hmine : e.targetIp = ip'
          · have hnone : forIp ip' (leavingFrom ip txMax count rest) = [] := by
              refine List.filter_eq_nil_iff.mpr fun x hx hip => hleaves ⟨?_, hroom⟩
              rw [hmine, ← of_decide_eq_true hip, targetIp_of_mem_leavingFrom hx]
            rw [hnone, List.nil_append] at hrest ⊢
            rw [forIp_cons_of_eq hmine, forIp_cons_of_eq hmine, hrest]
          · rw [forIp_cons_of_ne hmine, forIp_cons_of_ne hmine, hrest]
        · rw [leavingFrom_full (by omega), returningFrom_full (by omega)]
          rfl

/-! ### Runs in which no one cuts in -/

namespace ArpPending

variable {s s' : ArpPending} {entries : List Nat}

/-- The ring has room for one more besides what comes back, and nothing for the same address comes
back. -/
def HasRoomFor (s : ArpPending) (e : ArpPendingPkt) : Prop :=
  s.ring.length + s.control.returning.length < arpPendingCapacity ∧
    ∀ k ∈ s.control.returning, k.targetIp ≠ e.targetIp

instance (s : ArpPending) (e : ArpPendingPkt) : Decidable (s.HasRoomFor e) :=
  inferInstanceAs (Decidable (_ ∧ _))

/-- A call may go on: where it puts its packet there is room for it, and where it takes the oldest
the ring is full, or empty. -/
def MayGoOn (s : ArpPending) : Option ArpEnqueueAt → Prop
  | none => True
  | some (.enqueue entry) => s.ring.length < arpPendingCapacity → s.HasRoomFor entry
  | some (.full _) => s.ring = [] ∨ s.ring.length = arpPendingCapacity
  | some (.dropping _ _ _) => True
  | some (.retry entry) => s.HasRoomFor entry

instance (s : ArpPending) : ∀ c, Decidable (s.MayGoOn c)
  | none => inferInstanceAs (Decidable True)
  | some (.enqueue entry) => inferInstanceAs (Decidable (_ → s.HasRoomFor entry))
  | some (.full _) => inferInstanceAs (Decidable (_ ∨ _))
  | some (.dropping _ _ _) => inferInstanceAs (Decidable True)
  | some (.retry entry) => inferInstanceAs (Decidable (s.HasRoomFor entry))

/-- A step that no one cuts in with: a call finds an entry in the pool, and goes on when it may. -/
def Undisturbed (s : ArpPending) : ArpLabel → Prop
  | .call _ _ => s.pool ≠ []
  | .advance i => s.MayGoOn s.inFlight[i]?
  | _ => True

instance (s : ArpPending) : ∀ l, Decidable (s.Undisturbed l)
  | .call _ _ => inferInstanceAs (Decidable (¬ _))
  | .advance i => inferInstanceAs (Decidable (s.MayGoOn s.inFlight[i]?))
  | .drain _ _ _ | .flush | .control | .othersGet | .othersPut _ =>
      inferInstanceAs (Decidable True)

/-! ### What a step can do -/

/-- The moves of the calls, of the control lcore and of the others. -/
inductive Move (s : ArpPending) : ArpPending → Prop
  | still : Move s s
  | entered {slot : Nat} {pool : List Nat} (targetIp : BitVec 32) (txQueue : BitVec 16)
      (hpool : s.pool = slot :: pool) :
      Move s { s with
        pool
        calls := s.calls + 1
        inFlight := s.inFlight ++ [.enqueue ⟨slot, s.calls, targetIp, txQueue⟩] }
  | turned {i : Nat} {c c' : ArpEnqueueAt} (hc : s.inFlight[i]? = some c)
      (hhand : c'.inHand = c.inHand) (hnot : ∀ e o n, c' ≠ .dropping e o n) :
      Move s { s with inFlight := s.inFlight.set i c' }
  | took {i : Nat} {entry oldest : ArpPendingPkt} {ring : List ArpPendingPkt}
      (hc : s.inFlight[i]? = some (.full entry)) (hring : s.ring = oldest :: ring)
      (hfull : s.ring.length = arpPendingCapacity) :
      Move s { s with
        ring
        inFlight := s.inFlight.set i (.dropping entry oldest s.ring.length) }
  | freed {i count : Nat} {entry oldest : ArpPendingPkt}
      (hc : s.inFlight[i]? = some (.dropping entry oldest count)) :
      Move s { s.drop oldest (.oldest count) with inFlight := s.inFlight.set i (.retry entry) }
  | pushed {i : Nat} {c : ArpEnqueueAt} {entry : ArpPendingPkt} (hc : s.inFlight[i]? = some c)
      (hhand : c.inHand = [entry]) (hroom : s.HasRoomFor entry) : Move s (s.push i entry)
  | drained (resolvedIp : BitVec 32) (mac : BitVec 48) (txMax : Nat) (hidle : s.control = .idle) :
      Move s { s with
        ring := s.ring.drop arpPendingQueueSize
        resolved := s.resolved ++ [(resolvedIp, mac)]
        control := .drain ⟨resolvedIp, mac, txMax, 0, s.ring.take arpPendingQueueSize⟩ }
  | rested {c : ArpControlAt} (hhand : s.control.inHand = []) (hhand' : c.inHand = [])
      (hnot : ∀ d, c ≠ .drain d) : Move s { s with control := c }
  | left {d : ArpDrain} {e : ArpPendingPkt} {batch : List ArpPendingPkt}
      (hcontrol : s.control = .drain d) (hbatch : d.batch = e :: batch)
      (hleaves : e.targetIp = d.resolvedIp ∧ d.txCount < d.txMax) :
      Move s { s with
        sent := s.sent ++ [⟨e, d.mac⟩]
        pool := s.pool ++ [e.slot]
        control := .drain { d with txCount := d.txCount + 1, batch } }
  | cameBack {d : ArpDrain} {e : ArpPendingPkt} {batch : List ArpPendingPkt}
      (hcontrol : s.control = .drain d) (hbatch : d.batch = e :: batch)
      (hstays : ¬ (e.targetIp = d.resolvedIp ∧ d.txCount < d.txMax)) :
      Move s { s with ring := s.ring ++ [e], control := .drain { d with batch } }
  | flushTook {e : ArpPendingPkt} {ring : List ArpPendingPkt} (hcontrol : s.control = .flush)
      (hring : s.ring = e :: ring) : Move s { s with ring, control := .flushing e }
  | flushFreed {e : ArpPendingPkt} (hcontrol : s.control = .flushing e) :
      Move s { s.drop e .flush with control := .flush }
  | lent {slot : Nat} {pool : List Nat} (hpool : s.pool = slot :: pool) :
      Move s { s with pool, others := s.others ++ [slot] }
  | gaveBack {i slot : Nat} (hslot : s.others[i]? = some slot) :
      Move s { s with others := s.others.eraseIdx i, pool := s.pool ++ [slot] }

/-- What leaves, the ring and what comes back are in order, and the ring has room for them. -/
structure Ordered (s : ArpPending) : Prop where
  room : s.ring.length + s.control.returning.length ≤ arpPendingCapacity
  inOrder : ∀ ip, (forIp ip (s.sent.map ArpSent.pkt) ++ (forIp ip s.control.leaving ++
    (forIp ip s.ring ++ forIp ip s.control.returning))).Sublist (forIp ip s.queued)

/-- Of what comes back the first is an entry that the ring has room for. -/
theorem Ordered.room_next (h : s.Ordered) {d : ArpDrain} {e : ArpPendingPkt}
    {batch : List ArpPendingPkt} (hcontrol : s.control = .drain d) (hbatch : d.batch = e :: batch)
    (hstays : ¬ (e.targetIp = d.resolvedIp ∧ d.txCount < d.txMax)) :
    s.ring.length < arpPendingCapacity := by
  have hroom := h.room
  rw [hcontrol] at hroom
  unfold ArpControlAt.returning at hroom
  simp only [hbatch] at hroom
  unfold returningFrom at hroom
  rw [if_neg hstays, List.length_cons] at hroom
  omega

theorem advance_move {i : Nat} (hgo : s.MayGoOn s.inFlight[i]?) : Move s (s.advance i) := by
  unfold advance
  cases hc : s.inFlight[i]? with
  | none => exact .still
  | some c =>
      rw [hc] at hgo
      cases c with
      | enqueue entry =>
          simp only
          by_cases hroom : s.ring.length < arpPendingCapacity
          · rw [if_pos hroom]
            exact .pushed hc rfl (hgo hroom)
          · rw [if_neg hroom]
            exact .turned hc rfl fun e o n h => by cases h
      | full entry =>
          simp only
          cases hring : s.ring with
          | nil =>
              have hmove : Move s { s with inFlight := s.inFlight.set i (.retry entry) } :=
                .turned hc rfl fun e o n h => by cases h
              rw [hring] at hmove
              exact hmove
          | cons oldest ring =>
              rcases hgo with hnil | hfull
              · rw [hring] at hnil
                cases hnil
              · have hmove := Move.took hc hring hfull
                rw [hring] at hmove
                exact hmove
      | dropping entry oldest count => exact .freed hc
      | retry entry =>
          simp only
          have hroom : s.HasRoomFor entry := hgo
          rw [if_pos (by have := hroom.1; omega)]
          exact .pushed hc rfl hroom

theorem control_move (h : s.Ordered) : Move s s.controlNext := by
  unfold controlNext
  cases hcontrol : s.control with
  | idle => exact .still
  | drain d =>
      simp only
      cases hbatch : d.batch with
      | nil =>
          refine .rested ?_ rfl fun d' h => by cases h
          rw [hcontrol]
          exact hbatch
      | cons e batch =>
          show Move s (s.drainNext d e batch)
          unfold drainNext
          by_cases hleaves : e.targetIp = d.resolvedIp ∧ d.txCount < d.txMax
          · rw [if_pos hleaves]
            exact .left hcontrol hbatch hleaves
          · rw [if_neg hleaves, if_pos (h.room_next hcontrol hbatch hleaves)]
            exact .cameBack hcontrol hbatch hleaves
  | flush =>
      simp only
      cases hring : s.ring with
      | nil =>
          have hmove : Move s { s with control := .idle } :=
            .rested (by rw [hcontrol]; rfl) rfl fun d' h => by cases h
          rw [hring] at hmove
          exact hmove
      | cons e ring => exact .flushTook hcontrol hring
  | flushing e => exact .flushFreed hcontrol

/-- A step that no one cuts in with is a move. -/
theorem step_move (h : s.Ordered) (l : ArpLabel) (hl : s.Undisturbed l) : Move s (s.step l) := by
  cases l with
  | call targetIp txQueue =>
      show Move s (s.call targetIp txQueue)
      unfold call
      cases hpool : s.pool with
      | nil => exact absurd hpool hl
      | cons slot pool => exact .entered targetIp txQueue hpool
  | advance i => exact advance_move hl
  | drain resolvedIp mac txMax =>
      show Move s (s.beginDrain resolvedIp mac txMax)
      unfold beginDrain
      cases hcontrol : s.control with
      | idle => exact .drained resolvedIp mac txMax hcontrol
      | drain d => exact .still
      | flush => exact .still
      | flushing e => exact .still
  | flush =>
      show Move s s.beginFlush
      unfold beginFlush
      cases hcontrol : s.control with
      | idle =>
          refine .rested ?_ rfl fun d h => by cases h
          rw [hcontrol]
          rfl
      | drain d => exact .still
      | flush => exact .still
      | flushing e => exact .still
  | control => exact control_move h
  | othersGet =>
      show Move s s.othersGet
      unfold othersGet
      cases hpool : s.pool with
      | nil => exact .still
      | cons slot pool => exact .lent hpool
  | othersPut i =>
      show Move s (s.othersPut i)
      unfold othersPut
      cases hslot : s.others[i]? with
      | none => exact .still
      | some slot => exact .gaveBack hslot

/-! ### The order of what waits -/

/-- What does not touch the queue keeps it in order. -/
theorem Ordered.of_eq (h : s.Ordered) (hring : s'.ring = s.ring)
    (hleaving : s'.control.leaving = s.control.leaving)
    (hreturning : s'.control.returning = s.control.returning) (hsent : s'.sent = s.sent)
    (hqueued : s'.queued = s.queued) : s'.Ordered where
  room := by rw [hring, hreturning]; exact h.room
  inOrder := by rw [hring, hleaving, hreturning, hsent, hqueued]; exact h.inOrder

/-- The first of the ring is taken. -/
theorem Ordered.of_take (h : s.Ordered) {e : ArpPendingPkt} {ring : List ArpPendingPkt}
    (hring : s.ring = e :: ring) (hring' : s'.ring = ring)
    (hleaving : s'.control.leaving = s.control.leaving)
    (hreturning : s'.control.returning = s.control.returning) (hsent : s'.sent = s.sent)
    (hqueued : s'.queued = s.queued) : s'.Ordered where
  room := by
    have hroom := h.room
    rw [hring, List.length_cons] at hroom
    rw [hring', hreturning]
    omega
  inOrder := by
    intro ip
    have hsub := h.inOrder ip
    have htail : (forIp ip ring).Sublist (forIp ip (e :: ring)) :=
      (List.sublist_cons_self e ring).filter _
    rw [hring] at hsub
    rw [hring', hleaving, hreturning, hsent, hqueued]
    refine List.Sublist.trans ?_ hsub
    refine List.Sublist.append (List.Sublist.refl _) (List.Sublist.append (List.Sublist.refl _) ?_)
    exact List.Sublist.append htail (List.Sublist.refl _)

theorem Ordered.move (h : s.Ordered) (hm : Move s s') : s'.Ordered := by
  cases hm with
  | still => exact h
  | entered targetIp txQueue hpool => exact h.of_eq rfl rfl rfl rfl rfl
  | turned hc hhand hnot => exact h.of_eq rfl rfl rfl rfl rfl
  | took hc hring hfull => exact h.of_take hring rfl rfl rfl rfl rfl
  | freed hc => exact h.of_eq rfl rfl rfl rfl rfl
  | @pushed i c entry hc hhand hroom =>
      obtain ⟨hlen, hother⟩ := hroom
      refine ⟨?_, fun ip => ?_⟩
      · show (s.ring ++ [entry]).length + s.control.returning.length ≤ arpPendingCapacity
        rw [List.length_append, List.length_singleton]
        omega
      · have hsub := h.inOrder ip
        show (forIp ip (s.sent.map ArpSent.pkt) ++ (forIp ip s.control.leaving ++
          (forIp ip (s.ring ++ [entry]) ++ forIp ip s.control.returning))).Sublist
            (forIp ip (s.queued ++ [entry]))
        rw [forIp_append, forIp_append]
        by_cases hmine : entry.targetIp = ip
        · -- Nothing for this address comes back, so the packet is the last of them.
          have hnone : forIp ip s.control.returning = [] := by
            refine List.filter_eq_nil_iff.mpr fun k hk hip => hother k hk ?_
            rw [of_decide_eq_true hip, hmine]
          rw [hnone] at hsub ⊢
          rw [List.append_nil] at hsub ⊢
          have happend := hsub.append (List.Sublist.refl (forIp ip [entry]))
          rw [List.append_assoc, List.append_assoc] at happend
          exact happend
        · rw [show forIp ip [entry] = [] from forIp_cons_of_ne hmine [], List.append_nil,
            List.append_nil]
          exact hsub
  | drained resolvedIp mac txMax hidle =>
      have hroom := h.room
      have hcap : arpPendingCapacity < arpPendingQueueSize := by decide
      have htake : s.ring.take arpPendingQueueSize = s.ring :=
        List.take_of_length_le (by omega)
      have hdrop : s.ring.drop arpPendingQueueSize = [] := List.drop_eq_nil_of_le (by omega)
      rw [htake, hdrop]
      refine ⟨?_, fun ip => ?_⟩
      · show 0 + (returningFrom resolvedIp txMax 0 s.ring).length ≤ arpPendingCapacity
        have hle := length_returningFrom_le resolvedIp txMax 0 s.ring
        omega
      · have hsub := h.inOrder ip
        rw [hidle] at hsub
        have hring : (forIp ip (s.sent.map ArpSent.pkt) ++ forIp ip s.ring).Sublist
            (forIp ip s.queued) := by
          have hnil : forIp ip s.ring ++ [] = forIp ip s.ring := List.append_nil _
          rw [← hnil]
          exact hsub
        show (forIp ip (s.sent.map ArpSent.pkt) ++
          (forIp ip (leavingFrom resolvedIp txMax 0 s.ring) ++
            ([] ++ forIp ip (returningFrom resolvedIp txMax 0 s.ring)))).Sublist
              (forIp ip s.queued)
        rw [List.nil_append, forIp_batch]
        exact hring
  | @rested c hhand hhand' hnot =>
      have hempty : s.control.leaving = [] ∧ s.control.returning = [] := by
        cases hcontrol : s.control with
        | drain d =>
            rw [hcontrol] at hhand
            have hbatch : d.batch = [] := hhand
            unfold ArpControlAt.leaving ArpControlAt.returning
            simp only [hbatch]
            exact ⟨rfl, rfl⟩
        | idle | flush | flushing => exact ⟨rfl, rfl⟩
      have hempty' : c.leaving = [] ∧ c.returning = [] := by
        cases c with
        | drain d => exact absurd rfl (hnot d)
        | idle | flush | flushing => exact ⟨rfl, rfl⟩
      exact h.of_eq rfl (hempty'.1.trans hempty.1.symm) (hempty'.2.trans hempty.2.symm) rfl rfl
  | @left d e batch hcontrol hbatch hleaves =>
      have hleaving : s.control.leaving =
          e :: leavingFrom d.resolvedIp d.txMax (d.txCount + 1) batch := by
        rw [hcontrol]
        unfold ArpControlAt.leaving
        simp only [hbatch]
        rw [leavingFrom, if_pos hleaves]
      have hreturning : s.control.returning =
          returningFrom d.resolvedIp d.txMax (d.txCount + 1) batch := by
        rw [hcontrol]
        unfold ArpControlAt.returning
        simp only [hbatch]
        rw [returningFrom, if_pos hleaves]
      refine ⟨?_, fun ip => ?_⟩
      · have hroom := h.room
        rw [hreturning] at hroom
        exact hroom
      · have hsub := h.inOrder ip
        rw [hleaving, hreturning] at hsub
        show (forIp ip ((s.sent ++ [ArpSent.mk e d.mac]).map ArpSent.pkt) ++
          (forIp ip (leavingFrom d.resolvedIp d.txMax (d.txCount + 1) batch) ++
            (forIp ip s.ring ++ forIp ip (returningFrom d.resolvedIp d.txMax (d.txCount + 1)
              batch)))).Sublist (forIp ip s.queued)
        rw [List.map_append, forIp_append, List.append_assoc]
        rw [show forIp ip (e :: leavingFrom d.resolvedIp d.txMax (d.txCount + 1) batch) =
          forIp ip [e] ++ forIp ip (leavingFrom d.resolvedIp d.txMax (d.txCount + 1) batch) from
            forIp_append ip [e] _, List.append_assoc] at hsub
        exact hsub
  | @cameBack d e batch hcontrol hbatch hstays =>
      have hleaving : s.control.leaving = leavingFrom d.resolvedIp d.txMax d.txCount batch := by
        rw [hcontrol]
        unfold ArpControlAt.leaving
        simp only [hbatch]
        rw [leavingFrom, if_neg hstays]
      have hreturning : s.control.returning =
          e :: returningFrom d.resolvedIp d.txMax d.txCount batch := by
        rw [hcontrol]
        unfold ArpControlAt.returning
        simp only [hbatch]
        rw [returningFrom, if_neg hstays]
      refine ⟨?_, fun ip => ?_⟩
      · have hroom := h.room
        rw [hreturning, List.length_cons] at hroom
        show (s.ring ++ [e]).length + (returningFrom d.resolvedIp d.txMax d.txCount batch).length ≤
          arpPendingCapacity
        rw [List.length_append, List.length_singleton]
        omega
      · have hsub := h.inOrder ip
        rw [hleaving, hreturning] at hsub
        show (forIp ip (s.sent.map ArpSent.pkt) ++
          (forIp ip (leavingFrom d.resolvedIp d.txMax d.txCount batch) ++
            (forIp ip (s.ring ++ [e]) ++
              forIp ip (returningFrom d.resolvedIp d.txMax d.txCount batch)))).Sublist
                (forIp ip s.queued)
        rw [forIp_append, List.append_assoc]
        rw [show forIp ip (e :: returningFrom d.resolvedIp d.txMax d.txCount batch) =
          forIp ip [e] ++ forIp ip (returningFrom d.resolvedIp d.txMax d.txCount batch) from
            forIp_append ip [e] _] at hsub
        exact hsub
  | @flushTook e ring hcontrol hring =>
      exact h.of_take hring rfl (by rw [hcontrol]; rfl) (by rw [hcontrol]; rfl) rfl rfl
  | flushFreed hcontrol => exact h.of_eq rfl (by rw [hcontrol]; rfl) (by rw [hcontrol]; rfl) rfl rfl
  | lent hpool => exact h.of_eq rfl rfl rfl rfl rfl
  | gaveBack hslot => exact h.of_eq rfl rfl rfl rfl rfl

/-! ### What is written down -/

/-- The address and the MAC of a drain belong together. -/
def Answers (resolved : List (BitVec 32 × BitVec 48)) : ArpControlAt → Prop
  | .drain d => (d.resolvedIp, d.mac) ∈ resolved
  | _ => True

/-- An entry in hand to be freed is the oldest of a full ring. -/
def OldestOfFull : ArpEnqueueAt → Prop
  | .dropping _ _ count => count = arpPendingCapacity
  | _ => True

/-- Packets leave with the MAC of their own address, and are freed as the oldest of a full ring or
by a flush. -/
structure Logged (s : ArpPending) : Prop where
  answers : Answers s.resolved s.control
  addressed : ∀ x ∈ s.sent, (x.pkt.targetIp, x.dstMac) ∈ s.resolved
  oldest : ∀ c ∈ s.inFlight, OldestOfFull c
  dropped : ∀ x ∈ s.dropped, x.2 = .oldest arpPendingCapacity ∨ x.2 = .flush

theorem oldest_set {inFlight : List ArpEnqueueAt} (h : ∀ c ∈ inFlight, OldestOfFull c) (i : Nat)
    {c : ArpEnqueueAt} (hc : OldestOfFull c) : ∀ c' ∈ inFlight.set i c, OldestOfFull c' := by
  intro c' hc'
  rcases List.mem_or_eq_of_mem_set hc' with hmem | heq
  · exact h c' hmem
  · rw [heq]
    exact hc

/-- A packet more is freed. -/
theorem dropped_append {l : List (ArpPendingPkt × ArpDrop)}
    (h : ∀ x ∈ l, x.2 = .oldest arpPendingCapacity ∨ x.2 = .flush) (e : ArpPendingPkt)
    {why : ArpDrop} (hwhy : why = .oldest arpPendingCapacity ∨ why = .flush) :
    ∀ x ∈ l ++ [(e, why)], x.2 = .oldest arpPendingCapacity ∨ x.2 = .flush := by
  intro x hx
  rcases List.mem_append.mp hx with hold | hnew
  · exact h x hold
  · rw [List.mem_singleton.mp hnew]
    exact hwhy

theorem Logged.move (h : s.Logged) (hm : Move s s') : s'.Logged := by
  cases hm with
  | still => exact h
  | entered targetIp txQueue hpool =>
      refine ⟨h.answers, h.addressed, fun c hc => ?_, h.dropped⟩
      rcases List.mem_append.mp hc with hold | hnew
      · exact h.oldest c hold
      · rw [List.mem_singleton.mp hnew]
        trivial
  | @turned i c c' hc hhand hnot =>
      refine ⟨h.answers, h.addressed, oldest_set h.oldest i ?_, h.dropped⟩
      cases c' with
      | dropping e o n => exact absurd rfl (hnot e o n)
      | enqueue | full | retry => trivial
  | took hc hring hfull =>
      exact ⟨h.answers, h.addressed, oldest_set h.oldest _ hfull, h.dropped⟩
  | @freed i count entry oldest hc =>
      have hcount : count = arpPendingCapacity := h.oldest _ (List.mem_of_getElem? hc)
      exact ⟨h.answers, h.addressed, oldest_set h.oldest _ trivial,
        dropped_append h.dropped _ (.inl (congrArg ArpDrop.oldest hcount))⟩
  | pushed hc hhand hroom =>
      exact ⟨h.answers, h.addressed, fun c hc => h.oldest c (List.mem_of_mem_eraseIdx hc),
        h.dropped⟩
  | drained resolvedIp mac txMax hidle =>
      refine ⟨List.mem_append_right _ List.mem_cons_self, fun x hx => ?_, h.oldest, h.dropped⟩
      exact List.mem_append_left _ (h.addressed x hx)
  | @rested c hhand hhand' hnot =>
      refine ⟨?_, h.addressed, h.oldest, h.dropped⟩
      cases c with
      | drain d => exact absurd rfl (hnot d)
      | idle | flush | flushing => trivial
  | @left d e batch hcontrol hbatch hleaves =>
      have hanswers := h.answers
      rw [hcontrol] at hanswers
      refine ⟨hanswers, fun x hx => ?_, h.oldest, h.dropped⟩
      rcases List.mem_append.mp hx with hold | hnew
      · exact h.addressed x hold
      · rw [List.mem_singleton.mp hnew]
        show (e.targetIp, d.mac) ∈ s.resolved
        rw [hleaves.1]
        exact hanswers
  | cameBack hcontrol hbatch hstays =>
      have hanswers := h.answers
      rw [hcontrol] at hanswers
      exact ⟨hanswers, h.addressed, h.oldest, h.dropped⟩
  | flushTook hcontrol hring => exact ⟨trivial, h.addressed, h.oldest, h.dropped⟩
  | flushFreed hcontrol =>
      exact ⟨trivial, h.addressed, h.oldest, dropped_append h.dropped _ (.inr rfl)⟩
  | lent hpool => exact ⟨h.answers, h.addressed, h.oldest, h.dropped⟩
  | gaveBack hslot => exact ⟨h.answers, h.addressed, h.oldest, h.dropped⟩

/-! ### Where everything is -/

/-- The entries in use. -/
def inUse (s : ArpPending) : List ArpPendingPkt :=
  s.ring ++ (s.control.inHand ++ s.inFlight.flatMap ArpEnqueueAt.inHand)

/-- The packets that are gone. -/
def gone (s : ArpPending) : List ArpPendingPkt :=
  s.sent.map ArpSent.pkt ++ s.dropped.map Prod.fst

/-- Every entry is in the pool or in use, and every packet in the queue or gone, and once each. -/
structure Conserved (entries : List Nat) (s : ArpPending) : Prop where
  entries : ∀ slot, s.pool.count slot + s.others.count slot +
    (s.inUse.map ArpPendingPkt.slot).count slot = entries.count slot
  packets : ∀ n, (s.inUse.map ArpPendingPkt.mbuf).count n +
    (s.gone.map ArpPendingPkt.mbuf).count n = (List.range s.calls).count n

/-- How often an entry is in a ring, in the hand of the control lcore, and in those of calls. -/
def uses (ring : List ArpPendingPkt) (control : ArpControlAt) (inFlight : List ArpEnqueueAt)
    (e : ArpPendingPkt) : Nat :=
  ring.count e + control.inHand.count e + (inFlight.flatMap ArpEnqueueAt.inHand).count e

theorem count_inUse (s : ArpPending) (e : ArpPendingPkt) :
    s.inUse.count e = uses s.ring s.control s.inFlight e := by
  unfold inUse uses
  rw [List.count_append, List.count_append, Nat.add_assoc]

theorem count_head {α : Type} [BEq α] (a x : α) (l : List α) :
    (a :: l).count x = [a].count x + l.count x := by
  rw [← List.singleton_append, List.count_append]

theorem count_eraseIdx {inFlight : List ArpEnqueueAt} {i : Nat} {c : ArpEnqueueAt}
    (hc : inFlight[i]? = some c) (e : ArpPendingPkt) :
    c.inHand.count e + ((inFlight.eraseIdx i).flatMap ArpEnqueueAt.inHand).count e =
      (inFlight.flatMap ArpEnqueueAt.inHand).count e := by
  obtain ⟨hi, hget⟩ := List.getElem?_eq_some_iff.mp hc
  have hperm := (List.getElem_cons_eraseIdx_perm hi).flatMap_right ArpEnqueueAt.inHand
  rw [hget, List.flatMap_cons] at hperm
  rw [← hperm.count_eq e, List.count_append]

theorem count_set {inFlight : List ArpEnqueueAt} {i : Nat} {c : ArpEnqueueAt}
    (hc : inFlight[i]? = some c) (c' : ArpEnqueueAt) (e : ArpPendingPkt) :
    c.inHand.count e + ((inFlight.set i c').flatMap ArpEnqueueAt.inHand).count e =
      c'.inHand.count e + (inFlight.flatMap ArpEnqueueAt.inHand).count e := by
  obtain ⟨hi, hget⟩ := List.getElem?_eq_some_iff.mp hc
  have hperm := (List.set_perm_cons_eraseIdx hi c').flatMap_right ArpEnqueueAt.inHand
  have herase := count_eraseIdx hc e
  rw [List.flatMap_cons] at hperm
  rw [hperm.count_eq e, List.count_append]
  omega

/-- What is in use is still in use. -/
theorem Conserved.of_same (h : s.Conserved entries)
    (huse : ∀ e, uses s'.ring s'.control s'.inFlight e = uses s.ring s.control s.inFlight e)
    (hpool : ∀ slot, s'.pool.count slot + s'.others.count slot =
      s.pool.count slot + s.others.count slot)
    (hgone : s'.gone = s.gone) (hcalls : s'.calls = s.calls) : s'.Conserved entries := by
  have hperm : s'.inUse.Perm s.inUse := by
    refine List.perm_iff_count.mpr fun e => ?_
    rw [count_inUse, count_inUse, huse]
  refine ⟨fun slot => ?_, fun n => ?_⟩
  · rw [hpool, (hperm.map ArpPendingPkt.slot).count_eq]
    exact h.entries slot
  · rw [(hperm.map ArpPendingPkt.mbuf).count_eq, hgone, hcalls]
    exact h.packets n

/-- An entry goes out of use, and its packet is gone. -/
theorem Conserved.of_out (h : s.Conserved entries) {e : ArpPendingPkt}
    (huse : ∀ e', [e].count e' + uses s'.ring s'.control s'.inFlight e' =
      uses s.ring s.control s.inFlight e')
    (hpool : s'.pool = s.pool ++ [e.slot]) (hothers : s'.others = s.others)
    (hgone : s'.gone.Perm (e :: s.gone)) (hcalls : s'.calls = s.calls) :
    s'.Conserved entries := by
  have hperm : ([e] ++ s'.inUse).Perm s.inUse := by
    refine List.perm_iff_count.mpr fun e' => ?_
    rw [List.count_append, count_inUse, count_inUse, huse]
  refine ⟨fun slot => ?_, fun n => ?_⟩
  · have hslot := h.entries slot
    rw [← (hperm.map ArpPendingPkt.slot).count_eq, List.map_append, List.count_append] at hslot
    rw [hpool, hothers, List.count_append]
    simp only [List.map_singleton] at hslot
    omega
  · have hn := h.packets n
    have hgone' := (hgone.map ArpPendingPkt.mbuf).count_eq n
    rw [← (hperm.map ArpPendingPkt.mbuf).count_eq, List.map_append, List.count_append] at hn
    rw [List.map_cons, ← List.singleton_append, List.count_append] at hgone'
    rw [hgone', hcalls]
    simp only [List.map_singleton] at hn
    omega

/-- An entry comes into use, with the packet of the next call. -/
theorem Conserved.of_in (h : s.Conserved entries) {e : ArpPendingPkt}
    (huse : ∀ e', uses s'.ring s'.control s'.inFlight e' =
      uses s.ring s.control s.inFlight e' + [e].count e')
    (hpool : s.pool = [e.slot] ++ s'.pool) (hothers : s'.others = s.others)
    (hgone : s'.gone = s.gone) (hcalls : s'.calls = s.calls + 1) (hmbuf : e.mbuf = s.calls) :
    s'.Conserved entries := by
  have hperm : s'.inUse.Perm (s.inUse ++ [e]) := by
    refine List.perm_iff_count.mpr fun e' => ?_
    rw [List.count_append, count_inUse, count_inUse, huse]
  refine ⟨fun slot => ?_, fun n => ?_⟩
  · have hslot := h.entries slot
    rw [hpool, List.count_append] at hslot
    rw [hothers, (hperm.map ArpPendingPkt.slot).count_eq, List.map_append, List.count_append,
      List.map_singleton]
    omega
  · have hn := h.packets n
    rw [(hperm.map ArpPendingPkt.mbuf).count_eq, List.map_append, List.count_append,
      List.map_singleton, hmbuf, hgone, hcalls, List.range_succ, List.count_append]
    omega

theorem gone_drop (s : ArpPending) (e : ArpPendingPkt) (why : ArpDrop) :
    (s.drop e why).gone.Perm (e :: s.gone) := by
  show (s.sent.map ArpSent.pkt ++ (s.dropped ++ [(e, why)]).map Prod.fst).Perm _
  rw [List.map_append, ← List.append_assoc]
  exact List.perm_append_singleton e s.gone

theorem Conserved.move (h : s.Conserved entries) (hm : Move s s') : s'.Conserved entries := by
  cases hm with
  | still => exact h
  | @entered slot pool targetIp txQueue hpool =>
      refine h.of_in (e := ⟨slot, s.calls, targetIp, txQueue⟩) (fun e => ?_) hpool rfl rfl rfl rfl
      show uses s.ring s.control (s.inFlight ++ [.enqueue ⟨slot, s.calls, targetIp, txQueue⟩]) e = _
      unfold uses
      rw [List.flatMap_append, List.count_append, ← Nat.add_assoc]
      rfl
  | @turned i c c' hc hhand hnot =>
      refine h.of_same (fun e => ?_) (fun _ => rfl) rfl rfl
      have hset := count_set hc c' e
      rw [hhand] at hset
      show uses s.ring s.control (s.inFlight.set i c') e = _
      unfold uses
      omega
  | @took i entry oldest ring hc hring hfull =>
      refine h.of_same (fun e => ?_) (fun _ => rfl) rfl rfl
      have hset := count_set hc (.dropping entry oldest s.ring.length) e
      have hsplit : s.ring.count e = [oldest].count e + ring.count e := by
        rw [hring, count_head]
      have hhand := count_head entry e [oldest]
      show uses ring s.control (s.inFlight.set i (.dropping entry oldest s.ring.length)) e = _
      unfold uses
      simp only [ArpEnqueueAt.inHand] at hset ⊢
      omega
  | @freed i count entry oldest hc =>
      refine h.of_out (e := oldest) (fun e => ?_) rfl rfl ?_ rfl
      · have hset := count_set hc (.retry entry) e
        have hhand := count_head entry e [oldest]
        show _ + uses s.ring s.control (s.inFlight.set i (.retry entry)) e = _
        unfold uses
        simp only [ArpEnqueueAt.inHand] at hset ⊢
        omega
      · exact gone_drop s oldest (.oldest count)
  | @pushed i c entry hc hhand hroom =>
      refine h.of_same (fun e => ?_) (fun _ => rfl) rfl rfl
      have herase := count_eraseIdx hc e
      rw [hhand] at herase
      show uses (s.ring ++ [entry]) s.control (s.inFlight.eraseIdx i) e = _
      unfold uses
      rw [List.count_append]
      omega
  | drained resolvedIp mac txMax hidle =>
      refine h.of_same (fun e => ?_) (fun _ => rfl) rfl rfl
      have hsplit : (s.ring.take arpPendingQueueSize).count e +
          (s.ring.drop arpPendingQueueSize).count e = s.ring.count e := by
        rw [← List.count_append, List.take_append_drop]
      show uses (s.ring.drop arpPendingQueueSize) (.drain ⟨_, _, _, _, s.ring.take _⟩) s.inFlight
        e = _
      unfold uses
      rw [hidle]
      simp only [ArpControlAt.inHand, List.count_nil]
      omega
  | @rested c hhand hhand' hnot =>
      refine h.of_same (fun e => ?_) (fun _ => rfl) rfl rfl
      show uses s.ring c s.inFlight e = _
      unfold uses
      rw [hhand, hhand']
  | @left d e batch hcontrol hbatch hleaves =>
      refine h.of_out (e := e) (fun e' => ?_) rfl rfl ?_ rfl
      · have hsplit : d.batch.count e' = [e].count e' + batch.count e' := by
          rw [hbatch, count_head]
        show _ + uses s.ring (.drain ⟨_, _, _, _, batch⟩) s.inFlight e' = _
        unfold uses
        rw [hcontrol]
        simp only [ArpControlAt.inHand]
        omega
      · show ((s.sent ++ [ArpSent.mk e d.mac]).map ArpSent.pkt ++ s.dropped.map Prod.fst).Perm _
        rw [List.map_append, List.append_assoc]
        exact List.perm_middle
  | @cameBack d e batch hcontrol hbatch hstays =>
      refine h.of_same (fun e' => ?_) (fun _ => rfl) rfl rfl
      have hsplit : d.batch.count e' = [e].count e' + batch.count e' := by
        rw [hbatch, count_head]
      show uses (s.ring ++ [e]) (.drain ⟨_, _, _, _, batch⟩) s.inFlight e' = _
      unfold uses
      rw [hcontrol, List.count_append]
      simp only [ArpControlAt.inHand]
      omega
  | @flushTook e ring hcontrol hring =>
      refine h.of_same (fun e' => ?_) (fun _ => rfl) rfl rfl
      have hsplit : s.ring.count e' = [e].count e' + ring.count e' := by
        rw [hring, count_head]
      show uses ring (.flushing e) s.inFlight e' = _
      unfold uses
      rw [hcontrol]
      simp only [ArpControlAt.inHand, List.count_nil]
      omega
  | @flushFreed e hcontrol =>
      refine h.of_out (e := e) (fun e' => ?_) rfl rfl ?_ rfl
      · show _ + uses s.ring .flush s.inFlight e' = _
        unfold uses
        rw [hcontrol]
        simp only [ArpControlAt.inHand, List.count_nil]
        omega
      · exact gone_drop s e .flush
  | @lent slot pool hpool =>
      refine h.of_same (fun _ => rfl) (fun slot' => ?_) rfl rfl
      show pool.count slot' + (s.others ++ [slot]).count slot' = _
      rw [hpool, count_head, List.count_append]
      omega
  | @gaveBack i slot hslot =>
      refine h.of_same (fun _ => rfl) (fun slot' => ?_) rfl rfl
      obtain ⟨hi, hget⟩ := List.getElem?_eq_some_iff.mp hslot
      have hperm := List.getElem_cons_eraseIdx_perm hi
      rw [hget, ← List.singleton_append] at hperm
      show (s.pool ++ [slot]).count slot' + (s.others.eraseIdx i).count slot' = _
      rw [← hperm.count_eq, List.count_append, List.count_append]
      omega

/-! ### Runs -/

/-- What holds throughout a run in which no one cuts in. -/
structure Steady (entries : List Nat) (s : ArpPending) : Prop where
  ordered : s.Ordered
  logged : s.Logged
  conserved : s.Conserved entries

theorem Steady.step (h : s.Steady entries) (l : ArpLabel) (hl : s.Undisturbed l) :
    (s.step l).Steady entries := by
  have hmove := step_move h.ordered l hl
  exact ⟨h.ordered.move hmove, h.logged.move hmove, h.conserved.move hmove⟩

theorem steady_init (pool others : List Nat) : (init pool others).Steady (pool ++ others) where
  ordered := ⟨Nat.zero_le arpPendingCapacity, fun _ => List.Sublist.refl _⟩
  logged :=
    ⟨trivial, fun x hx => absurd hx List.not_mem_nil, fun c hc => absurd hc List.not_mem_nil,
      fun x hx => absurd hx List.not_mem_nil⟩
  conserved := ⟨fun slot => by rw [List.count_append]; rfl, fun _ => rfl⟩

/-- What the queue keeps of its packets and entries.

* every entry is in the pool, with the others or in use, once;
* every packet is in use, sent or dropped, once;
* a packet is sent with a MAC that its own address was resolved to;
* packets for one address are sent in the order they were queued;
* a packet is dropped as the oldest of a full ring, or by a flush.
-/
structure Keeps (entries : List Nat) (s : ArpPending) : Prop where
  entries : (s.pool ++ s.others ++ s.inUse.map ArpPendingPkt.slot).Perm entries
  packets : (s.inUse.map ArpPendingPkt.mbuf ++ s.gone.map ArpPendingPkt.mbuf).Perm
    (List.range s.calls)
  once : (s.sent.map fun x => x.pkt.mbuf).Nodup
  addressed : ∀ x ∈ s.sent, (x.pkt.targetIp, x.dstMac) ∈ s.resolved
  inOrder : ∀ ip, (forIp ip (s.sent.map ArpSent.pkt)).Sublist (forIp ip s.queued)
  dropped : ∀ x ∈ s.dropped, x.2 = .oldest arpPendingCapacity ∨ x.2 = .flush

theorem Steady.keeps (h : s.Steady entries) : s.Keeps entries := by
  have hpackets : (s.inUse.map ArpPendingPkt.mbuf ++ s.gone.map ArpPendingPkt.mbuf).Perm
      (List.range s.calls) := by
    refine List.perm_iff_count.mpr fun n => ?_
    rw [List.count_append]
    exact h.conserved.packets n
  refine ⟨?_, hpackets, ?_, h.logged.addressed, fun ip => ?_, h.logged.dropped⟩
  · refine List.perm_iff_count.mpr fun slot => ?_
    rw [List.count_append, List.count_append]
    exact h.conserved.entries slot
  · have hnodup := hpackets.nodup_iff.mpr List.nodup_range
    have hsent : (s.sent.map fun x => x.pkt.mbuf).Sublist (s.gone.map ArpPendingPkt.mbuf) := by
      unfold gone
      rw [List.map_append, List.map_map]
      exact List.sublist_append_left _ _
    exact (hnodup.sublist (List.sublist_append_right _ _)).sublist hsent
  · exact (List.sublist_append_left _ _).trans (h.ordered.inOrder ip)

/--
**Packets that wait for a MAC are neither lost nor mixed up, as long as no one cuts in.**

In a run whose steps are undisturbed, every entry is in its place and every packet in the queue, on
its way or freed, once; packets are sent with the MAC of their address, in order; and no packet is
dropped but the oldest of a full ring, and by a flush.
-/
theorem arp_pending_keeps (pool others : List Nat) (ls : List ArpLabel) (s : ArpPending)
    (h : Run step Undisturbed (init pool others) ls s) : s.Keeps (pool ++ others) :=
  (h.inv (fun s : ArpPending => s.Steady (pool ++ others)) (fun _ l hs hl => hs.step l hl)
    (steady_init pool others)).keeps

/-- A packet waits, its address is resolved, and it leaves. -/
def oneWaits : List ArpLabel :=
  [.call 5 0, .advance 0, .drain 5 0xab 64, .control, .control]

theorem arp_pending_keeps_one :
    ((oneWaits.foldl step (init [0, 1] [])).Keeps [0, 1]) ∧
      (oneWaits.foldl step (init [0, 1] [])).sent = [⟨⟨0, 0, 5, 0⟩, 0xab⟩] :=
  ⟨arp_pending_keeps [0, 1] [] oneWaits _ (Run.of_checks _ _ (by decide)), by decide⟩

/-- A packet comes while a drain has one for the same address in hand. -/
def overtaken : List ArpLabel :=
  [.call 5 0, .advance 0, .drain 6 0xcd 64, .call 5 0, .advance 0, .control, .control,
    .drain 5 0xab 64, .control, .control, .control]

/-- A packet that finds no entry is lost, and one that comes while a drain puts back another for the
same address leaves before it. -/
theorem arp_pending_loses :
    (∃ s, Run step (fun _ _ => True) (init [] [0]) [.call 5 0] s ∧ ¬ s.Keeps [0]) ∧
      ∃ s, Run step (fun _ _ => True) (init [0, 1] []) overtaken s ∧ ¬ s.Keeps [0, 1] := by
  refine ⟨⟨_, Run.of_labels _ _ fun _ _ _ => trivial, fun h => ?_⟩,
    ⟨_, Run.of_labels _ _ fun _ _ _ => trivial, fun h => ?_⟩⟩
  · exact absurd h.packets.length_eq (by decide)
  · exact absurd (h.inOrder 5) (by decide)

end ArpPending

end FastRG
