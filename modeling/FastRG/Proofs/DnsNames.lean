/-
Names as the DNS codec reads them.

The codec knows a name by its text, the labels with dots between them, cut at the first NUL.
Two names have one text if they are the same label by label; the converse needs that no label
holds a dot or a NUL, which is what `plainName` says.  What a label may not be is empty, since
an empty label ends a name.

The loop of `dns_parse_name` follows only so many pointers, so the steps it is given are always
enough, and the name it returns is the one any larger number of steps would give.
-/
import FastRG.DnsCodec
import Mathlib.Data.List.TakeWhile

namespace FastRG

/-- Two names are the same, label by label, but for case. -/
def sameName (a b : List (List (BitVec 8))) : Prop :=
  a.map (List.map toLower) = b.map (List.map toLower)

/-- No label of the name holds a dot or a NUL. -/
def plainName (labels : List (List (BitVec 8))) : Prop := ∀ l ∈ labels, 0x2e ∉ l ∧ 0 ∉ l

instance (a b : List (List (BitVec 8))) : Decidable (sameName a b) :=
  inferInstanceAs (Decidable (_ = _))

instance (labels : List (List (BitVec 8))) : Decidable (plainName labels) :=
  inferInstanceAs (Decidable (∀ l ∈ labels, _))

/-! ### Lower case -/

theorem toLower_of_not_upper {b : BitVec 8} (h : ¬ (0x41 ≤ b ∧ b ≤ 0x5a)) : toLower b = b :=
  if_neg h

/-- Lower case is the same in lower case. -/
@[simp] theorem toLower_toLower (b : BitVec 8) : toLower (toLower b) = toLower b := by
  by_cases h : 0x41 ≤ b ∧ b ≤ 0x5a
  · have hlow : ¬ (0x41 ≤ toLower b ∧ toLower b ≤ 0x5a) := by
      unfold toLower
      rw [if_pos h]
      bv_omega
    exact toLower_of_not_upper hlow
  · rw [toLower_of_not_upper h, toLower_of_not_upper h]

theorem map_toLower_map_toLower (name : List (BitVec 8)) :
    (name.map toLower).map toLower = name.map toLower := by
  rw [List.map_map]
  congr 1
  funext b
  exact toLower_toLower b

/-- Only a dot is a dot in lower case. -/
theorem toLower_eq_dot {b : BitVec 8} (h : toLower b = 0x2e) : b = 0x2e := by
  unfold toLower at h
  split at h <;> bv_omega

theorem dot_notMem_lower {l : List (BitVec 8)} (h : 0x2e ∉ l) : 0x2e ∉ l.map toLower := by
  intro hmem
  obtain ⟨b, hb, hdot⟩ := List.mem_map.mp hmem
  rw [toLower_eq_dot hdot] at hb
  exact h hb

/-! ### Texts -/

theorem map_toLower_dnsText (labels : List (List (BitVec 8))) :
    (dnsText labels).map toLower = dnsText (labels.map (List.map toLower)) := by
  have hdot : toLower 46#8 = 46#8 := by decide
  unfold dnsText
  induction labels with
  | nil => rfl
  | cons l rest ih =>
      cases rest with
      | nil => simp
      | cons l' rest' => simpa [List.intercalate_cons_cons, hdot] using ih

/-- A label and what follows it. -/
theorem length_dnsText_snoc (labels : List (List (BitVec 8))) (l : List (BitVec 8)) :
    (dnsText (labels ++ [l])).length ≤ (dnsText labels).length + 1 + l.length := by
  unfold dnsText
  induction labels with
  | nil => simp
  | cons a rest ih =>
      cases rest with
      | nil => simp [List.intercalate_cons_cons]; omega
      | cons b rest' =>
          simp only [List.cons_append, List.intercalate_cons_cons, List.length_append,
            List.length_cons, List.length_nil] at ih ⊢
          omega

theorem zero_notMem_dnsText {labels : List (List (BitVec 8))} (h : plainName labels) :
    0 ∉ dnsText labels := by
  unfold dnsText
  induction labels with
  | nil => simp
  | cons l rest ih =>
      have hl : 0 ∉ l := (h l List.mem_cons_self).2
      have hrest : 0 ∉ [0x2e].intercalate rest :=
        ih fun l' hl' => h l' (List.mem_cons_of_mem l hl')
      cases rest with
      | nil => simpa using hl
      | cons l' rest' =>
          rw [List.intercalate_cons_cons]
          intro hmem
          rcases List.mem_append.mp hmem with hmem | hmem
          · rcases List.mem_append.mp hmem with hmem | hmem
            · exact hl hmem
            · exact absurd (List.mem_singleton.mp hmem) (by decide)
          · exact hrest hmem

theorem cString_of_zero_notMem {bs : List (BitVec 8)} (h : 0 ∉ bs) : cString bs = bs := by
  unfold cString
  rw [List.takeWhile_eq_self_iff]
  intro b hb
  exact decide_eq_true fun h0 => h (h0 ▸ hb)

theorem length_cString_le (bs : List (BitVec 8)) : (cString bs).length ≤ bs.length :=
  (List.takeWhile_prefix _).length_le

/-- The name of a question is in lower case. -/
@[simp] theorem DnsQuestion.map_toLower_name (q : DnsQuestion) : q.name.map toLower = q.name := by
  simp [DnsQuestion.name]

/-- A text with dots only between its labels, none of them empty, gives them back. -/
theorem dnsText_inj {a b : List (List (BitVec 8))} (ha : ∀ l ∈ a, 0x2e ∉ l ∧ l ≠ [])
    (hb : ∀ l ∈ b, 0x2e ∉ l ∧ l ≠ []) (h : dnsText a = dnsText b) : a = b := by
  have hsplit : ∀ c : List (List (BitVec 8)), (∀ l ∈ c, 0x2e ∉ l ∧ l ≠ []) →
      (dnsText c).splitOn 0x2e = if c = [] then [[]] else c := by
    intro c hc
    by_cases h0 : c = []
    · rw [if_pos h0, h0]; rfl
    · rw [if_neg h0]
      exact List.splitOn_intercalate 0x2e (fun l hl => (hc l hl).1) h0
  have heq : (if a = [] then [[]] else a) = if b = [] then [[]] else b := by
    rw [← hsplit a ha, ← hsplit b hb, h]
  by_cases ha0 : a = []
  · by_cases hb0 : b = []
    · rw [ha0, hb0]
    · rw [if_pos ha0, if_neg hb0] at heq
      exact absurd rfl (hb [] (heq ▸ List.mem_cons_self)).2
  · by_cases hb0 : b = []
    · rw [if_neg ha0, if_pos hb0] at heq
      exact absurd rfl (ha [] (heq ▸ List.mem_cons_self)).2
    · rwa [if_neg ha0, if_neg hb0] at heq

/-- **Plain names with one text are one name.** -/
theorem sameName_of_name_eq {a b : DnsQuestion} (ha : plainName a.labels)
    (hb : plainName b.labels) (ha0 : ∀ l ∈ a.labels, l ≠ []) (hb0 : ∀ l ∈ b.labels, l ≠ [])
    (h : a.name = b.name) : sameName a.labels b.labels := by
  unfold DnsQuestion.name at h
  rw [cString_of_zero_notMem (zero_notMem_dnsText ha),
    cString_of_zero_notMem (zero_notMem_dnsText hb), map_toLower_dnsText, map_toLower_dnsText] at h
  have hgood : ∀ labels : List (List (BitVec 8)), plainName labels → (∀ l ∈ labels, l ≠ []) →
      ∀ l ∈ labels.map (List.map toLower), 0x2e ∉ l ∧ l ≠ [] := by
    intro labels hplain hne l hl
    obtain ⟨l', hl', rfl⟩ := List.mem_map.mp hl
    exact ⟨dot_notMem_lower (hplain l' hl').1, by simpa using hne l' hl'⟩
  exact dnsText_inj (hgood _ ha ha0) (hgood _ hb hb0) h

/-! ### The loop of `dns_parse_name` -/

/-- What the labels read so far may be: none is empty, and the text fits its buffer. -/
structure NameFits (nameMax : Nat) (labels : List (List (BitVec 8))) : Prop where
  nonempty : ∀ l ∈ labels, l ≠ []
  short : (dnsText labels).length < nameMax

/-- A label that there is room for. -/
theorem NameFits.snoc {nameMax : Nat} {labels : List (List (BitVec 8))} {l : List (BitVec 8)}
    (h : NameFits nameMax labels) (hl : l ≠ [])
    (hroom : dnsTextRoom nameMax labels l.length = true) : NameFits nameMax (labels ++ [l]) := by
  refine ⟨?_, ?_⟩
  · intro l' hl'
    rcases List.mem_append.mp hl' with hl' | hl'
    · exact h.nonempty l' hl'
    · rw [List.mem_singleton.mp hl']
      exact hl
  · have hlen := length_dnsText_snoc labels l
    unfold dnsTextRoom at hroom
    by_cases hout : 0 < (dnsText labels).length
    · simp only [hout, if_true, Bool.and_eq_true, decide_eq_true_eq] at hroom
      omega
    · -- Without text there are no labels, since none of them is empty.
      have hnil : labels = [] := by
        cases labels with
        | nil => rfl
        | cons a rest =>
            have hne : a ≠ [] := h.nonempty a List.mem_cons_self
            cases rest with
            | nil => exact absurd (by simpa [dnsText] using hout) hne
            | cons b rest' =>
                simp [dnsText, List.intercalate_cons_cons] at hout
      subst hnil
      simp only [hout, if_false, decide_eq_true_eq] at hroom
      simpa [dnsText] using hroom

/-- What the loop returns fits, if what it started with did. -/
theorem fits_of_dnsParseNameFrom {pkt : List (BitVec 8)} {offset nameMax : Nat} {name : DnsName}
    (fuel pos consumed jumps : Nat) (labels : List (List (BitVec 8)))
    (hfits : NameFits nameMax labels)
    (h : dnsParseNameFrom pkt offset nameMax fuel pos consumed jumps labels = some name) :
    NameFits nameMax name.labels := by
  induction fuel generalizing pos consumed jumps labels with
  | zero => simp [dnsParseNameFrom] at h
  | succ fuel ih =>
      unfold dnsParseNameFrom at h
      split at h
      · rw [← Option.some.inj h]
        exact hfits
      · rename_i hpos
        simp only at h
        split at h
        · rw [← Option.some.inj h]
          exact hfits
        · rename_i hlen
          split at h
          · -- A pointer: the labels stay.
            split at h
            · exact absurd h (by simp)
            split at h
            · exact absurd h (by simp)
            split at h
            · exact absurd h (by simp)
            exact ih _ _ _ _ hfits h
          · split at h
            · exact absurd h (by simp)
            split at h
            · exact absurd h (by simp)
            rename_i hin
            split at h
            · exact absurd h (by simp)
            rename_i hroom
            have hlabel : ((pkt.drop (pos + 1)).take (pkt.getD pos 0).toNat).length =
                (pkt.getD pos 0).toNat := by
              rw [List.length_take, List.length_drop]
              omega
            refine ih _ _ _ _ (hfits.snoc ?_ ?_) h
            · exact List.ne_nil_of_length_pos (by omega)
            · rw [hlabel]
              simpa using hroom

/-- Steps the loop has left: each label moves on, and each pointer is one of so many. -/
def dnsParseMeasure (pkt : List (BitVec 8)) (pos jumps : Nat) : Nat :=
  (dnsMaxJumps - jumps) * (pkt.length + 1) + (pkt.length - pos)

theorem dnsParseMeasure_label {pkt : List (BitVec 8)} {pos : Nat} (len jumps : Nat)
    (h : pos < pkt.length) :
    dnsParseMeasure pkt (pos + 1 + len) jumps < dnsParseMeasure pkt pos jumps := by
  unfold dnsParseMeasure
  omega

theorem dnsParseMeasure_pointer (pkt : List (BitVec 8)) (pos ptr : Nat) {jumps : Nat}
    (h : jumps + 1 ≤ dnsMaxJumps) :
    dnsParseMeasure pkt ptr (jumps + 1) < dnsParseMeasure pkt pos jumps := by
  unfold dnsParseMeasure
  have hleft : dnsMaxJumps - jumps = dnsMaxJumps - (jumps + 1) + 1 := by omega
  rw [hleft, Nat.add_mul, Nat.one_mul]
  omega

/-- Two runs of the loop that both have enough steps agree. -/
theorem dnsParseNameFrom_congr {pkt : List (BitVec 8)} {offset nameMax : Nat}
    (fuel fuel' pos consumed jumps : Nat) (labels : List (List (BitVec 8)))
    (h : dnsParseMeasure pkt pos jumps < fuel) (h' : dnsParseMeasure pkt pos jumps < fuel') :
    dnsParseNameFrom pkt offset nameMax fuel pos consumed jumps labels =
      dnsParseNameFrom pkt offset nameMax fuel' pos consumed jumps labels := by
  induction fuel generalizing fuel' pos consumed jumps labels with
  | zero => omega
  | succ fuel ih =>
      cases fuel' with
      | zero => omega
      | succ fuel' =>
          unfold dnsParseNameFrom
          by_cases hpos : pkt.length ≤ pos
          · rw [if_pos hpos, if_pos hpos]
          rw [if_neg hpos, if_neg hpos]
          simp only
          refine if_congr Iff.rfl rfl (if_congr Iff.rfl ?_ ?_)
          · refine if_congr Iff.rfl rfl (if_congr Iff.rfl rfl ?_)
            by_cases hjumps : dnsMaxJumps < jumps + 1
            · rw [if_pos hjumps, if_pos hjumps]
            · rw [if_neg hjumps, if_neg hjumps]
              have hless := dnsParseMeasure_pointer pkt pos
                (((pkt.getD pos 0).toNat - 0xC0) * 256 + (pkt.getD (pos + 1) 0).toNat)
                (Nat.le_of_not_lt hjumps)
              exact ih _ _ _ _ _ (by omega) (by omega)
          · refine if_congr Iff.rfl rfl (if_congr Iff.rfl rfl (if_congr Iff.rfl rfl ?_))
            have hless := dnsParseMeasure_label (pkt.getD pos 0).toNat jumps (Nat.lt_of_not_le hpos)
            exact ih _ _ _ _ _ (by omega) (by omega)

/-- **The loop ends.**  The steps it is given are enough: more would change nothing. -/
theorem dnsParseNameFrom_enough (pkt : List (BitVec 8)) (offset nameMax : Nat) {fuel : Nat}
    (h : dnsParseFuel pkt ≤ fuel) :
    dnsParseNameFrom pkt offset nameMax fuel offset 0 0 [] =
      dnsParseNameFrom pkt offset nameMax (dnsParseFuel pkt) offset 0 0 [] := by
  have hless : dnsParseMeasure pkt offset 0 < dnsParseFuel pkt := by
    unfold dnsParseMeasure dnsParseFuel
    rw [Nat.sub_zero, Nat.add_mul, Nat.one_mul]
    omega
  exact dnsParseNameFrom_congr _ _ _ _ _ _ (by omega) hless

theorem fits_of_dnsParseName {pkt : List (BitVec 8)} {offset : Nat} {name : DnsName}
    (h : dnsParseName pkt offset = some name) : NameFits (dnsMaxDomainLen + 1) name.labels := by
  unfold dnsParseName at h
  simp only [Option.bind_eq_bind, Option.bind_eq_some_iff] at h
  obtain ⟨name', hname', h⟩ := h
  split at h
  · exact absurd h (by simp)
  · rw [← Option.some.inj h]
    exact fits_of_dnsParseNameFrom _ _ _ _ _ ⟨by simp, by decide⟩ hname'

/-- The labels of a question are not empty, and its text fits. -/
theorem fits_of_parseQuestion {pkt : List (BitVec 8)} {offset next : Nat} {q : DnsQuestion}
    (h : parseQuestion pkt offset = some (q, next)) : NameFits (dnsMaxDomainLen + 1) q.labels := by
  unfold parseQuestion at h
  simp only [Option.bind_eq_bind, Option.bind_eq_some_iff] at h
  obtain ⟨name, hname, h⟩ := h
  split at h
  · exact absurd h (by simp)
  · have hq : (⟨name.labels, _, _⟩ : DnsQuestion) = q := (Prod.mk.inj (Option.some.inj h)).1
    rw [← hq]
    exact fits_of_dnsParseName hname

theorem fits_of_dnsParseQuery {data : List (BitVec 8)} {query : DnsQuery}
    (h : dnsParseQuery data = some query) : NameFits (dnsMaxDomainLen + 1) query.question.labels := by
  simp only [dnsParseQuery, Option.bind_eq_bind] at h
  split at h
  · exact absurd h (by simp)
  split at h
  · exact absurd h (by simp)
  split at h
  · exact absurd h (by simp)
  obtain ⟨⟨q, next⟩, hq, h⟩ := Option.bind_eq_some_iff.mp h
  rw [← Option.some.inj h]
  exact fits_of_parseQuestion hq

theorem fits_of_dnsParseResponse {data : List (BitVec 8)} {resp : DnsResponse} {q : DnsQuestion}
    (h : dnsParseResponse data = some resp) (hq : resp.question = some q) :
    NameFits (dnsMaxDomainLen + 1) q.labels := by
  simp only [dnsParseResponse, Option.bind_eq_bind] at h
  split at h
  · exact absurd h (by simp)
  split at h
  · exact absurd h (by simp)
  obtain ⟨⟨first, pos⟩, hfirst, h⟩ := Option.bind_eq_some_iff.mp h
  obtain ⟨ttl, -, h⟩ := Option.bind_eq_some_iff.mp h
  rw [← Option.some.inj h] at hq
  have hsome : first = some q := hq
  subst hsome
  unfold parseQuestions at hfirst
  split at hfirst
  · simp at hfirst
  · simp only [Option.bind_eq_bind, Option.bind_eq_some_iff] at hfirst
    obtain ⟨⟨q', pos'⟩, hparse, last, -, hlast⟩ := hfirst
    have hqq : q' = q := by simpa using (Prod.mk.inj (Option.some.inj hlast)).1
    rw [← hqq]
    exact fits_of_parseQuestion hparse

/-- The name of a question that was read fits its buffer. -/
theorem length_name_le {q : DnsQuestion} (h : NameFits (dnsMaxDomainLen + 1) q.labels) :
    q.name.length ≤ dnsMaxDomainLen := by
  have hshort := h.short
  have hcut := length_cString_le (dnsText q.labels)
  unfold DnsQuestion.name
  rw [List.length_map]
  omega

end FastRG
