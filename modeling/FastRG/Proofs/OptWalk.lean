/-
Loops over options, byte by byte.

A loop is followed along the options that the list splits into: at each round what it has been over
is a beginning of the buffer, and what it has still to go over is as it was stored, whatever the
loop has rewritten behind it.  So the length byte that it checks is the one it then moves on by,
and the check keeps the option, and with it every byte that the body looks at, inside the buffer.

The loop without a check is followed along options that are known to be in order.
-/
import FastRG.PppWalks
import FastRG.Proofs.PppDecode

namespace FastRG

/-- How large the buffers are, with so many bytes of options stored. -/
def bufSize (optionsLen : Nat) : PppBuf → Nat
  | .options => optionsLen
  | .tmpBuf => pppMsgBufLen

section Walks

variable {σ τ : Type} {L : Nat} {opts : List (BitVec 8)} {s : σ} {t : τ}

/-- Where the cursor of a loop is: what is behind it is `pre`, and what is ahead is as stored. -/
structure AtCursor (opts pre buf : List (BitVec 8)) : Prop where
  buf_eq : buf = pre ++ opts.drop pre.length
  inside : pre.length ≤ opts.length

theorem AtCursor.start (opts : List (BitVec 8)) : AtCursor opts [] opts :=
  ⟨rfl, Nat.zero_le _⟩

/-- The buffer from the cursor on. -/
theorem AtCursor.drop {pre buf : List (BitVec 8)} (h : AtCursor opts pre buf) (i : Nat) :
    buf.drop (pre.length + i) = (opts.drop pre.length).drop i := by
  rw [h.buf_eq, List.drop_append, List.drop_eq_nil_of_le (by omega), List.nil_append,
    Nat.add_sub_cancel_left]

theorem AtCursor.getD {pre buf : List (BitVec 8)} (h : AtCursor opts pre buf) (i : Nat) :
    buf.getD (pre.length + i) 0 = (opts.drop pre.length).getD i 0 := by
  have hdrop := h.drop i
  rw [List.getD_eq_getElem?_getD, List.getD_eq_getElem?_getD]
  have hhead : (buf.drop (pre.length + i))[0]? = ((opts.drop pre.length).drop i)[0]? := by
    rw [hdrop]
  rw [List.getElem?_drop, List.getElem?_drop] at hhead
  exact congrArg (·.getD 0) hhead

theorem bytes_length (o : Tlv) : o.bytes.length = o.val.length + 2 := rfl

/-- The cursor moves over an option, which may by then be another of the same length. -/
theorem AtCursor.next {pre buf rest : List (BitVec 8)} {o o' : Tlv}
    (h : opts.drop pre.length = o.bytes ++ rest) (hlen : o'.val.length = o.val.length)
    (hbuf : buf = pre ++ (o'.bytes ++ rest)) : AtCursor opts (pre ++ o'.bytes) buf := by
  have hbytes : o'.bytes.length = o.bytes.length := by simp [Tlv.bytes, hlen]
  have hcount := congrArg List.length h
  rw [List.length_drop, List.length_append] at hcount
  have hpos : 0 < o.bytes.length := by simp [Tlv.bytes]
  refine ⟨?_, ?_⟩
  · rw [hbuf, List.length_append, hbytes, ← List.drop_drop, h, List.drop_left, List.append_assoc]
  · rw [List.length_append, hbytes]
    omega

/-- What is asked of the body of a loop.  `R` relates the loop's state to that of `Tlv.walk` where
the body goes on, and `F` where it does not. -/
structure Follows (opts : List (BitVec 8)) (buf : σ → List (BitVec 8))
    (body : Nat → σ → Access PppBuf (Bool × σ)) (ok : Tlv → Bool) (eff : Tlv → τ → τ)
    (R : List (BitVec 8) → σ → τ → Prop) (F : Tlv → σ → τ → Prop) : Prop where
  cursor : ∀ pre s t, R pre s t → AtCursor opts pre (buf s)
  within : ∀ pre (o : Tlv) rest s t, R pre s t → opts.drop pre.length = o.bytes ++ rest →
    o.val.length + 2 < 256 → Access.Within (bufSize opts.length) (body pre.length s)
  go : ∀ pre (o : Tlv) rest s t, R pre s t → opts.drop pre.length = o.bytes ++ rest →
    o.val.length + 2 < 256 → ok o = true →
    ∃ (s' : σ) (o' : Tlv), (body pre.length s).val = (true, s') ∧ o'.val.length = o.val.length ∧
      R (pre ++ o'.bytes) s' (eff o t)
  stop : ∀ pre (o : Tlv) rest s t, R pre s t → opts.drop pre.length = o.bytes ++ rest →
    o.val.length + 2 < 256 → ok o = false →
    ∃ s', (body pre.length s).val = (false, s') ∧ F o s' t

variable {buf : σ → List (BitVec 8)} {body : Nat → σ → Access PppBuf (Bool × σ)} {ok : Tlv → Bool}
  {eff : Tlv → τ → τ} {R : List (BitVec 8) → σ → τ → Prop} {F : Tlv → σ → τ → Prop}

/-- What comes of a loop, against what `Tlv.walk` gives: it has refused nothing, or it was left at
the first option that it refuses. -/
def Arrives (R : List (BitVec 8) → σ → τ → Prop) (F : Tlv → σ → τ → Prop) (ok : Tlv → Bool)
    (os : List Tlv) (s' : σ) (t' : τ) : Prop :=
  (os.all ok = true ∧ ∃ pre, R pre s' t') ∨ ∃ o, os.find? (fun o => !ok o) = some o ∧ F o s' t'

/-- At a cursor with two bytes or more ahead, the second is the length byte that the loop reads. -/
theorem length_ahead {pre buf tail : List (BitVec 8)} {ty len : BitVec 8}
    (h : AtCursor opts pre buf) (hrest : opts.drop pre.length = ty :: len :: tail) :
    buf.getD (pre.length + 1) 0 = len ∧ pre.length + (tail.length + 2) = opts.length := by
  have hcount := congrArg List.length hrest
  rw [List.length_drop] at hcount
  simp only [List.length_cons] at hcount
  have hinside := h.inside
  refine ⟨?_, by omega⟩
  rw [h.getD, hrest]
  rfl

/-- After a round that goes on, the length byte is still what it was. -/
theorem length_behind {pre : List (BitVec 8)} {s' : σ} {t' : τ} {o' : Tlv}
    (hf : Follows opts buf body ok eff R F) (hR : R (pre ++ o'.bytes) s' t')
    (hlen : o'.val.length + 2 < 256) :
    ((buf s').getD (pre.length + 1) 0).toNat = o'.val.length + 2 := by
  rw [(hf.cursor _ _ _ hR).buf_eq]
  unfold Tlv.bytes
  simp [List.getD_eq_getElem?_getD]
  omega

/-- Two bytes ahead, or too few for an option. -/
theorem two_ahead {l : List (BitVec 8)} (h : 2 ≤ l.length) :
    ∃ ty len tail, l = ty :: len :: tail := by
  obtain ⟨ty, l, rfl⟩ := List.exists_cons_of_length_pos (by omega : 0 < l.length)
  simp only [List.length_cons] at h
  obtain ⟨len, l, rfl⟩ := List.exists_cons_of_length_pos (by omega : 0 < l.length)
  exact ⟨ty, len, l, rfl⟩

/-- Where the loop gets to when it goes on. -/
theorem optWalk_next {pre tail : List (BitVec 8)} {ty len : BitVec 8} {s' : σ} {t' : τ} {o' : Tlv}
    (hf : Follows opts buf body ok eff R F) (hL : opts.length + 4 < 65536)
    (hR' : R (pre ++ o'.bytes) s' t') (hrest : opts.drop pre.length = ty :: len :: tail)
    (hlen : ¬ (len.toNat < 2 ∨ tail.length + 2 < len.toNat))
    (ho' : o'.val.length = (tail.take (len.toNat - 2)).length) :
    (pre.length + 4 + ((buf s').getD (pre.length + 1) 0).toNat) % 65536 =
        (pre ++ o'.bytes).length + 4 ∧
      pre.length + ((buf s').getD (pre.length + 1) 0).toNat = (pre ++ o'.bytes).length ∧
      opts.drop (pre ++ o'.bytes).length = tail.drop (len.toNat - 2) := by
  have hbyte := len.isLt
  have hinside := (hf.cursor _ _ _ hR').inside
  have hval : o'.val.length + 2 = len.toNat := by
    rw [ho', List.length_take]
    omega
  have hend : (pre ++ o'.bytes).length = pre.length + len.toNat := by
    rw [List.length_append, ← hval]
    rfl
  rw [length_behind hf hR' (by omega), hend, hval]
  rw [hend] at hinside
  refine ⟨?_, rfl, ?_⟩
  · rw [Nat.mod_eq_of_lt (by omega)]
    omega
  · rw [← List.drop_drop, hrest]
    obtain ⟨k, hk⟩ : ∃ k, len.toNat = k + 2 := ⟨len.toNat - 2, by omega⟩
    rw [hk]
    rfl

/-- Whatever the options are, a loop stays inside its buffers for as long as it runs. -/
theorem within_optWalk (hf : Follows opts buf body ok eff R F) (hL : opts.length + 4 < 65536)
    (n : Nat) (pre : List (BitVec 8)) (s : σ) (t : τ) (hR : R pre s t) :
    Access.Within (bufSize opts.length)
      (optWalk buf body (opts.length + 4) n (pre.length + 4) pre.length s) := by
  induction n generalizing pre s t with
  | zero => exact Access.within_pure _
  | succ n ih =>
      unfold optWalk
      refine Access.within_ite (fun hmore => ?_) fun _ => Access.within_pure _
      refine Access.within_ite (fun _ => Access.within_pure _) fun hroom => ?_
      have hcur := hf.cursor pre s t hR
      have hahead : 2 ≤ (opts.drop pre.length).length := by
        rw [List.length_drop]
        omega
      obtain ⟨ty, len, tail, hrest⟩ := two_ahead hahead
      obtain ⟨hbyte, hcount⟩ := length_ahead hcur hrest
      have hfirst : pre.length + 1 < bufSize opts.length .options := by
        show pre.length + 1 < opts.length
        omega
      refine Access.within_bind (Access.within_u8 hfirst) ?_
      rw [Access.val_u8, hbyte]
      refine Access.within_ite (fun _ => Access.within_pure _) fun hlen => ?_
      have hlen : ¬ (len.toNat < 2 ∨ tail.length + 2 < len.toNat) := by omega
      have hopt := hrest.trans (Tlv.bytes_take hlen).symm
      have hval : (tail.take (len.toNat - 2)).length + 2 < 256 := by
        have := len.isLt
        rw [List.length_take]
        omega
      refine Access.within_bind (hf.within pre _ _ s t hR hopt hval) ?_
      refine Access.within_ite (fun hgo => ?_) fun _ => Access.within_pure _
      refine Access.within_bind (Access.within_u8 hfirst) ?_
      rw [Access.val_u8]
      cases hok : ok ⟨ty, tail.take (len.toNat - 2)⟩ with
      | false =>
          obtain ⟨s', hs', -⟩ := hf.stop pre _ _ s t hR hopt hval hok
          rw [hs'] at hgo
          exact absurd hgo Bool.false_ne_true
      | true =>
          obtain ⟨s', o', hs', ho', hR'⟩ := hf.go pre _ _ s t hR hopt hval hok
          rw [hs']
          obtain ⟨htotal, hnext, -⟩ := optWalk_next hf hL hR' hrest hlen ho'
          simp only [htotal, hnext]
          exact ih _ _ _ hR'

/-- With as many rounds as there are bytes ahead, a loop ends as `Tlv.walk` does. -/
theorem val_optWalk (hf : Follows opts buf body ok eff R F) (hL : opts.length + 4 < 65536)
    (n : Nat) (pre : List (BitVec 8)) (s : σ) (t : τ) (hR : R pre s t)
    (hn : (opts.drop pre.length).length ≤ n) :
    ∃ s', (optWalk buf body (opts.length + 4) n (pre.length + 4) pre.length s).val =
        some ((Tlv.walk ok eff (Tlv.splitN n (opts.drop pre.length)).1
          (Tlv.splitN n (opts.drop pre.length)).2 t).1, s') ∧
      Arrives R F ok (Tlv.splitN n (opts.drop pre.length)).1 s'
        (Tlv.walk ok eff (Tlv.splitN n (opts.drop pre.length)).1
          (Tlv.splitN n (opts.drop pre.length)).2 t).2 := by
  induction n generalizing pre s t with
  | zero =>
      have hnil : opts.drop pre.length = [] := List.length_eq_zero_iff.mp (Nat.le_zero.mp hn)
      rw [List.length_drop] at hn
      refine ⟨s, ?_, ?_⟩
      · rw [hnil]
        unfold optWalk
        rw [Access.val_pure, if_neg (by omega)]
        rfl
      · rw [hnil]
        exact Or.inl ⟨rfl, pre, hR⟩
  | succ n ih =>
      have hcur := hf.cursor pre s t hR
      have hinside := hcur.inside
      have hcount := List.length_drop (i := pre.length) (l := opts)
      unfold optWalk
      by_cases hmore : pre.length + 4 < opts.length + 4
      · rw [if_pos hmore]
        by_cases hroom : opts.length + 4 - (pre.length + 4) < 2
        · -- a single byte is no option
          rw [if_pos hroom]
          obtain ⟨b, hb⟩ := List.length_eq_one_iff.mp
            (show (opts.drop pre.length).length = 1 by omega)
          rw [hb]
          exact ⟨s, rfl, Or.inl ⟨rfl, pre, hR⟩⟩
        · rw [if_neg hroom]
          obtain ⟨ty, len, tail, hrest⟩ := two_ahead (l := opts.drop pre.length) (by omega)
          obtain ⟨hbyte, hcount⟩ := length_ahead hcur hrest
          simp only [Access.val_bind, Access.val_u8, Access.val_ite, hbyte]
          rw [hrest]
          unfold Tlv.splitN
          by_cases hbad : len.toNat < 2 ∨ tail.length + 2 < len.toNat
          · rw [if_pos (by omega), if_pos hbad]
            exact ⟨s, rfl, Or.inl ⟨rfl, pre, hR⟩⟩
          · rw [if_neg (by omega), if_neg hbad]
            have hopt := hrest.trans (Tlv.bytes_take hbad).symm
            have hval : (tail.take (len.toNat - 2)).length + 2 < 256 := by
              have := len.isLt
              rw [List.length_take]
              omega
            unfold Tlv.walk
            cases hok : ok ⟨ty, tail.take (len.toNat - 2)⟩ with
            | false =>
                obtain ⟨s', hs', hF⟩ := hf.stop pre _ _ s t hR hopt hval hok
                rw [hs']
                refine ⟨s', rfl, Or.inr ⟨_, ?_, hF⟩⟩
                rw [List.find?_cons_of_pos]
                rw [hok]
                rfl
            | true =>
                obtain ⟨s', o', hs', ho', hR'⟩ := hf.go pre _ _ s t hR hopt hval hok
                rw [hs']
                obtain ⟨htotal, hnext, hahead⟩ := optWalk_next hf hL hR' hrest hbad ho'
                simp only [htotal, hnext, if_true]
                rw [← hahead]
                obtain ⟨s'', hs'', hend⟩ := ih _ _ _ hR' (by
                  rw [hahead, List.length_drop]
                  omega)
                refine ⟨s'', hs'', ?_⟩
                rcases hend with ⟨hall, hR''⟩ | ⟨o, hfind, hF⟩
                · refine Or.inl ⟨?_, hR''⟩
                  rw [List.all_cons, hok, hall]
                  rfl
                · refine Or.inr ⟨o, ?_, hF⟩
                  rw [List.find?_cons_of_neg]
                  · exact hfind
                  · rw [hok]
                    exact Bool.false_ne_true
      · rw [if_neg hmore]
        have hnil : opts.drop pre.length = [] := List.length_eq_zero_iff.mp (by omega)
        rw [hnil]
        exact ⟨s, rfl, Or.inl ⟨rfl, pre, hR⟩⟩

/-- A loop from the first option. -/
theorem optWalk_start (hf : Follows opts buf body ok eff R F) (hL : opts.length + 4 < 65536)
    (hR : R [] s t) (rounds : Nat) :
    Access.Within (bufSize opts.length) (optWalk buf body (opts.length + 4) rounds 4 0 s) ∧
      (opts.length ≤ rounds → ∃ s', (optWalk buf body (opts.length + 4) rounds 4 0 s).val =
          some ((Tlv.walk ok eff (Tlv.split opts).1 (Tlv.split opts).2 t).1, s') ∧
        Arrives R F ok (Tlv.split opts).1 s'
          (Tlv.walk ok eff (Tlv.split opts).1 (Tlv.split opts).2 t).2) := by
  refine ⟨within_optWalk hf hL rounds [] s t hR, fun hrounds => ?_⟩
  rw [← Tlv.splitN_enough rounds opts hrounds]
  exact val_optWalk hf hL rounds [] s t hR hrounds

/-! ### Looking at an option -/

/-- What a body sees of an option that is in the buffer. -/
def viewOf (width : BitVec 8 → Nat → Nat) (o : Tlv) : OptView :=
  ⟨o.type, o.val.length + 2, o.val.take (width o.type (o.val.length + 2))⟩

section Look

variable {width : BitVec 8 → Nat → Nat} {pre rest mem : List (BitVec 8)} {o : Tlv}

/-- The bytes of an option, where the cursor is. -/
theorem drop_option (h : AtCursor opts pre mem) (hopt : opts.drop pre.length = o.bytes ++ rest) :
    mem.getD pre.length 0 = o.type ∧
      mem.getD (pre.length + 1) 0 = BitVec.ofNat 8 (o.val.length + 2) ∧
      mem.drop (pre.length + 2) = o.val ++ rest ∧
      pre.length + (o.val.length + 2) ≤ opts.length := by
  have hcount := congrArg List.length hopt
  rw [List.length_drop, List.length_append] at hcount
  simp only [Tlv.bytes, List.length_cons] at hcount
  refine ⟨?_, ?_, ?_, by omega⟩
  · rw [show pre.length = pre.length + 0 from rfl, h.getD, hopt]
    rfl
  · rw [h.getD, hopt]
    rfl
  · rw [h.drop, hopt]
    rfl

theorem val_lookAt (h : AtCursor opts pre mem) (hopt : opts.drop pre.length = o.bytes ++ rest)
    (hval : o.val.length + 2 < 256) (hw : width o.type (o.val.length + 2) ≤ o.val.length) :
    (lookAt mem width pre.length).val = viewOf width o := by
  obtain ⟨htype, hlen, hdrop, -⟩ := drop_option h hopt
  have hnat : (BitVec.ofNat 8 (o.val.length + 2)).toNat = o.val.length + 2 := by
    rw [BitVec.toNat_ofNat]
    omega
  unfold lookAt viewOf
  simp only [Access.val_bind, Access.val_u8, Access.val_bytes, Access.val_pure, htype, hlen, hnat,
    hdrop]
  rw [List.take_append_of_le_length hw]

theorem within_lookAt (h : AtCursor opts pre mem) (hopt : opts.drop pre.length = o.bytes ++ rest)
    (hval : o.val.length + 2 < 256) (hw : width o.type (o.val.length + 2) ≤ o.val.length) :
    Access.Within (bufSize opts.length) (lookAt mem width pre.length) := by
  obtain ⟨htype, hlen, -, hinside⟩ := drop_option h hopt
  have hsize : bufSize opts.length .options = opts.length := rfl
  have hnat : (BitVec.ofNat 8 (o.val.length + 2)).toNat = o.val.length + 2 := by
    rw [BitVec.toNat_ofNat]
    omega
  unfold lookAt
  refine Access.within_bind (Access.within_u8 (by omega)) ?_
  refine Access.within_bind (Access.within_u8 (by omega)) ?_
  refine Access.within_bind (Access.within_bytes ?_) (Access.within_pure _)
  rw [Access.val_u8, Access.val_u8, htype, hlen, hnat]
  omega

end Look

/-- A body that only looks follows the options, if it judges what it sees as `Tlv.walk` does. -/
theorem follows_readBody {width : BitVec 8 → Nat → Nat} {judge : OptView → σ → Bool × σ}
    {eff rej : Tlv → σ → σ}
    (hw : ∀ o : Tlv, width o.type (o.val.length + 2) ≤ o.val.length)
    (hjudge : ∀ (o : Tlv) s, judge (viewOf width o) s = (ok o, if ok o then eff o s else rej o s)) :
    Follows opts (fun _ => opts) (readBody opts width judge) ok eff
      (fun pre s t => s = t ∧ AtCursor opts pre opts) (fun o s' t => s' = rej o t) := by
  have hread : ∀ (pre : List (BitVec 8)) (o : Tlv) rest s, AtCursor opts pre opts →
      opts.drop pre.length = o.bytes ++ rest → o.val.length + 2 < 256 →
      (readBody opts width judge pre.length s).val =
        (ok o, if ok o then eff o s else rej o s) := by
    intro pre o rest s h hopt hval
    unfold readBody
    rw [Access.val_bind, val_lookAt h hopt hval (hw o), Access.val_pure]
    exact hjudge o s
  refine ⟨fun pre s t h => h.2, ?_, ?_, ?_⟩
  · intro pre o rest s t h hopt hval
    exact Access.within_bind (within_lookAt h.2 hopt hval (hw o)) (Access.within_pure _)
  · intro pre o rest s t h hopt hval hok
    refine ⟨eff o s, o, ?_, rfl, by rw [h.1], ?_⟩
    · rw [hread pre o rest s h.2 hopt hval, hok, if_pos rfl]
    · refine AtCursor.next hopt rfl ?_
      rw [← hopt]
      exact h.2.buf_eq
  · intro pre o rest s t h hopt hval hok
    refine ⟨rej o s, ?_, by rw [h.1]⟩
    rw [hread pre o rest s h.2 hopt hval, hok, if_neg Bool.false_ne_true]

end Walks

/-! ### The loops that only look -/

section Reads

variable {s : PppCcb} {cp : PppCp} {width : BitVec 8 → Nat → Nat}
  {judge : OptView → PppCcb → Bool × PppCcb} {ok : Tlv → Bool} {eff : Tlv → PppCcb → PppCcb}

theorem walkAcc_spec (rej : Tlv → PppCcb → PppCcb)
    (hw : ∀ o : Tlv, width o.type (o.val.length + 2) ≤ o.val.length)
    (hjudge : ∀ (o : Tlv) s, judge (viewOf width o) s = (ok o, if ok o then eff o s else rej o s))
    (hL : (s.opts cp).length + 4 < 65536) (rounds : Nat) :
    Access.Within (bufSize (s.opts cp).length)
        (s.walkAcc cp width judge rounds ((s.opts cp).length + 4)) ∧
      ((s.opts cp).length ≤ rounds → ∃ s',
        (s.walkAcc cp width judge rounds ((s.opts cp).length + 4)).val =
          some ((s.walkOpts cp ok eff).1, s') ∧
        ((Tlv.split (s.opts cp)).1.all ok = true ∧ s' = (s.walkOpts cp ok eff).2 ∨
          ∃ o, ((Tlv.split (s.opts cp)).1.find? fun o => !ok o) = some o ∧
            s' = rej o (s.walkOpts cp ok eff).2)) := by
  obtain ⟨hin, hval⟩ := optWalk_start (follows_readBody hw hjudge) hL
    ⟨rfl, AtCursor.start (s.opts cp)⟩ rounds
  refine ⟨hin, fun hrounds => ?_⟩
  obtain ⟨s', hs', hend⟩ := hval hrounds
  refine ⟨s', hs', ?_⟩
  rcases hend with ⟨hall, pre, hsame, -⟩ | hstop
  · exact Or.inl ⟨hall, hsame⟩
  · exact Or.inr hstop

/-- A loop that leaves everything as it is where it refuses gives what the model gives. -/
theorem walkAcc_eq (hw : ∀ o : Tlv, width o.type (o.val.length + 2) ≤ o.val.length)
    (hjudge : ∀ (o : Tlv) s, judge (viewOf width o) s = (ok o, if ok o then eff o s else s))
    (hL : (s.opts cp).length + 4 < 65536) (rounds : Nat) :
    Access.Within (bufSize (s.opts cp).length)
        (s.walkAcc cp width judge rounds ((s.opts cp).length + 4)) ∧
      ((s.opts cp).length ≤ rounds →
        (s.walkAcc cp width judge rounds ((s.opts cp).length + 4)).val =
          some (s.walkOpts cp ok eff)) := by
  obtain ⟨hin, hval⟩ := walkAcc_spec (fun _ s => s) hw hjudge hL rounds
  refine ⟨hin, fun hrounds => ?_⟩
  obtain ⟨s', hs', hend⟩ := hval hrounds
  have hsame : s' = (s.walkOpts cp ok eff).2 := by
    rcases hend with ⟨-, h⟩ | ⟨-, -, h⟩
    · exact h
    · exact h
  rw [hs', hsame]

end Reads

/-! ### The loop without a check -/

/-- A computation stays inside its buffers and gives a result. -/
def Safely {α : Type} (optionsLen : Nat) (x : Access PppBuf (Option α)) (a : α) : Prop :=
  Access.Within (bufSize optionsLen) x ∧ x.val = some a

theorem Safely.done {α : Type} {L : Nat} (a : α) :
    Safely L (pure (some a) : Access PppBuf (Option α)) a :=
  ⟨Access.within_pure _, rfl⟩

theorem Safely.andThen {α β : Type} {L : Nat} {x : Access PppBuf (Option α)} {a : α} {b : β}
    {f : α → Access PppBuf (Option β)} (hx : Safely L x a) (hf : Safely L (f a) b) :
    Safely L (x.andThen f) b := by
  refine ⟨Access.within_andThen hx.1 fun a' ha' => ?_, ?_⟩
  · obtain rfl := Option.some.inj (hx.2.symm.trans ha')
    exact hf.1
  · rw [Access.val_andThen, hx.2]
    exact hf.2

section Unchecked

variable {σ : Type} {opts : List (BitVec 8)} {body : Nat → σ → Access PppBuf σ}
  {eff : Tlv → σ → σ}

/-- A loop without a check goes through options that are known to be in order. -/
theorem safely_optWalkUnchecked (fine : Tlv → Prop) (hL : opts.length + 4 < 65536)
    (hbody : ∀ pre (o : Tlv) rest s, AtCursor opts pre opts →
      opts.drop pre.length = o.bytes ++ rest → o.val.length + 2 < 256 → fine o →
      Access.Within (bufSize opts.length) (body pre.length s) ∧ (body pre.length s).val = eff o s)
    (os : List Tlv) (pre : List (BitVec 8)) (s : σ) (rounds : Nat) (hcur : AtCursor opts pre opts)
    (hos : opts.drop pre.length = os.flatMap Tlv.bytes)
    (hfine : ∀ o ∈ os, o.val.length + 2 < 256 ∧ fine o) (hrounds : os.length ≤ rounds) :
    Safely opts.length (optWalkUnchecked opts body (opts.length + 4) rounds (pre.length + 4)
      pre.length s) (os.foldl (fun s o => eff o s) s) := by
  induction os generalizing pre s rounds with
  | nil =>
      have hinside := hcur.inside
      have hend : opts.length ≤ pre.length := List.drop_eq_nil_iff.mp hos
      cases rounds with
      | zero =>
          unfold optWalkUnchecked
          rw [if_neg (by omega)]
          exact Safely.done s
      | succ rounds =>
          unfold optWalkUnchecked
          rw [if_neg (by omega)]
          exact Safely.done s
  | cons o os ih =>
      obtain ⟨rounds, rfl⟩ : ∃ n, rounds = n + 1 := by
        rw [List.length_cons] at hrounds
        exact ⟨rounds - 1, by omega⟩
      rw [List.flatMap_cons] at hos
      obtain ⟨hval, hofine⟩ := hfine o List.mem_cons_self
      obtain ⟨-, hbyte, -, hin⟩ := drop_option hcur hos
      obtain ⟨hbodyIn, hbodyVal⟩ := hbody pre o _ s hcur hos hval hofine
      have hnat : (BitVec.ofNat 8 (o.val.length + 2)).toNat = o.val.length + 2 := by
        rw [BitVec.toNat_ofNat]
        omega
      have hnext : AtCursor opts (pre ++ o.bytes) opts := by
        refine AtCursor.next hos rfl ?_
        rw [← hos]
        exact hcur.buf_eq
      have hlen : (pre ++ o.bytes).length = pre.length + (o.val.length + 2) := by
        rw [List.length_append, bytes_length]
      have hahead : opts.drop (pre ++ o.bytes).length = os.flatMap Tlv.bytes := by
        rw [List.length_append, ← List.drop_drop, hos, List.drop_left]
      have hmod : (pre.length + 4 + (o.val.length + 2)) % 65536 = (pre ++ o.bytes).length + 4 := by
        rw [hlen, Nat.mod_eq_of_lt (by omega)]
        omega
      obtain ⟨hwithin, hresult⟩ := ih (pre ++ o.bytes) (eff o s) rounds hnext hahead
        (fun o' ho' => hfine o' (List.mem_cons_of_mem o ho'))
        (by rw [List.length_cons] at hrounds; omega)
      have hsize : bufSize opts.length .options = opts.length := rfl
      unfold optWalkUnchecked
      rw [if_pos (by omega)]
      refine ⟨?_, ?_⟩
      · refine Access.within_bind hbodyIn ?_
        refine Access.within_bind (Access.within_u8 (by omega)) ?_
        rw [Access.val_u8, hbodyVal, hbyte, hnat, hmod, ← hlen]
        exact hwithin
      · rw [Access.val_bind, Access.val_bind, Access.val_u8, hbodyVal, hbyte, hnat, hmod, ← hlen]
        exact hresult

end Unchecked

end FastRG
