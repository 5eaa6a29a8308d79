/-
How exact the reading of names is.

The parser ends, stays in the message, and returns the names that stand there, with one
exception: a name that runs off the end of the message is taken to end there
(`nameExact_iff`).  The text of a name tells it from the others as long as no label holds a dot
or a NUL, and no set of bytes with either of them will do (`textsTell_iff`).
-/
import FastRG.Proofs.DnsWalk

namespace FastRG

/-! ### Names that stand, and names that run off -/

/-- What is read at an offset is the name that stands there, and its size. -/
def NameExact (pkt : List (BitVec 8)) (offset nameMax : Nat) : Prop :=
  ∀ labels size, (dnsParseNameRd pkt offset nameMax).val = some ⟨labels, size⟩ ↔
    NameStands pkt nameMax true offset labels size

/-- The labels and pointers from an offset lead to the end of the message. -/
def NameRunsOff (pkt : List (BitVec 8)) (offset nameMax : Nat) : Prop :=
  offset < pkt.length ∧ ∃ labels size, NameStands pkt nameMax false offset labels size

theorem NameStands.offset_lt {pkt : List (BitVec 8)} {nameMax offset size : Nat}
    {labels : List (List (BitVec 8))} (h : NameStands pkt nameMax true offset labels size) :
    offset < pkt.length := by
  obtain ⟨jumps, -, hwalk, -⟩ := h
  cases hwalk with
  | root hseen => exact hseen
  | label hseen => exact hseen 0 (Nat.zero_le _)
  | pointer hseen => exact hseen

/-- A name does not both stand and run off. -/
theorem NameStands.not_runsOff {pkt : List (BitVec 8)} {nameMax offset size : Nat}
    {labels : List (List (BitVec 8))} (h : NameStands pkt nameMax true offset labels size) :
    ¬ NameRunsOff pkt offset nameMax := by
  intro hoff
  obtain ⟨jumps, -, hwalk, -⟩ := h
  obtain ⟨-, labels', size', jumps', -, hwalk', -⟩ := hoff
  exact absurd (hwalk.unique hwalk' (Nat.lt_irrefl _)).1 (by decide)

/-- **A name is read as it stands unless it runs off the end of the message.** -/
theorem nameExact_iff (pkt : List (BitVec 8)) (offset nameMax : Nat) :
    NameExact pkt offset nameMax ↔ ¬ NameRunsOff pkt offset nameMax := by
  refine ⟨fun h hoff => ?_, fun h labels size => ?_⟩
  · obtain ⟨hin, labels, size, hstands⟩ := hoff
    have hread := dnsParseNameRd_iff.mpr ⟨hin, false, hstands⟩
    exact ((h labels size).mp hread).not_runsOff ⟨hin, labels, size, hstands⟩
  · rw [dnsParseNameRd_iff]
    refine ⟨fun hread => ?_, fun hstands => ⟨hstands.offset_lt, true, hstands⟩⟩
    obtain ⟨hin, closed, hstands⟩ := hread
    cases closed with
    | true => exact hstands
    | false => exact absurd ⟨hin, labels, size, hstands⟩ h

/-! ### Texts that tell -/

/-- The text of a name, in lower case. -/
def dnsNameText (labels : List (List (BitVec 8))) : List (BitVec 8) :=
  (cString (dnsText labels)).map toLower

/-- A name that is read from some message. -/
def NameRead (labels : List (List (BitVec 8))) : Prop :=
  ∃ pkt offset size, dnsParseName pkt offset = some ⟨labels, size⟩

/-- Among the names made of such bytes, one text is the text of one name. -/
def TextsTell (ok : BitVec 8 → Prop) : Prop :=
  ∀ a b, NameRead a → NameRead b → (∀ l ∈ a, ∀ c ∈ l, ok c) → (∀ l ∈ b, ∀ c ∈ l, ok c) →
    dnsNameText a = dnsNameText b → sameName a b

theorem NameRead.nonempty {labels : List (List (BitVec 8))} (h : NameRead labels) :
    ∀ l ∈ labels, l ≠ [] := by
  obtain ⟨pkt, offset, size, hread⟩ := h
  exact (fits_of_dnsParseName hread).nonempty

/-- **A text tells a name exactly as long as labels hold no dot and no NUL.** -/
theorem textsTell_iff (ok : BitVec 8 → Prop) : TextsTell ok ↔ ¬ ok 0x2e ∧ ¬ ok 0 := by
  refine ⟨fun h => ⟨fun hdot => ?_, fun hzero => ?_⟩, fun h a b ha hb hoka hokb htext => ?_⟩
  · -- A label of three dots, and two labels of one dot each.
    have hlong : NameRead [[0x2e, 0x2e, 0x2e]] := ⟨[3, 0x2e, 0x2e, 0x2e, 0], 0, 5, by decide⟩
    have hshort : NameRead [[0x2e], [0x2e]] := ⟨[1, 0x2e, 1, 0x2e, 0], 0, 5, by decide⟩
    refine absurd (h _ _ hlong hshort ?_ ?_ (by decide)) (by decide)
    · intro l hl c hc
      simp only [List.mem_singleton] at hl
      subst hl
      simp only [List.mem_cons, List.not_mem_nil, or_false, or_self] at hc
      rw [hc]
      exact hdot
    · intro l hl c hc
      simp only [List.mem_cons, List.not_mem_nil, or_false, or_self] at hl
      subst hl
      rw [List.mem_singleton.mp hc]
      exact hdot
  · -- A label of one NUL, and no label.
    have hnul : NameRead [[0]] := ⟨[1, 0, 0], 0, 3, by decide⟩
    have hroot : NameRead [] := ⟨[0], 0, 1, by decide⟩
    refine absurd (h _ _ hnul hroot ?_ (by simp) (by decide)) (by decide)
    intro l hl c hc
    rw [List.mem_singleton.mp hl] at hc
    rw [List.mem_singleton.mp hc]
    exact hzero
  · have hplain : ∀ labels : List (List (BitVec 8)), (∀ l ∈ labels, ∀ c ∈ l, ok c) →
        plainName labels :=
      fun labels hok l hl => ⟨fun hc => h.1 (hok l hl _ hc), fun hc => h.2 (hok l hl _ hc)⟩
    exact sameName_of_name_eq (a := ⟨a, 0, 0⟩) (b := ⟨b, 0, 0⟩) (hplain a hoka) (hplain b hokb)
      ha.nonempty hb.nonempty htext

/-! ### All of it -/

/--
**How exact the reading of names is.**  At every offset of every message, and for a buffer of any
size, the loop ends, no byte outside the message is looked at, and what is read is what stands
there unless that runs off the end of the message; and texts tell names from one another exactly
where labels hold no dot and no NUL.
-/
theorem dnsParseName_exact_iff (pkt : List (BitVec 8)) (offset nameMax : Nat)
    (ok : BitVec 8 → Prop) :
    (∀ extra, dnsParseNameFrom pkt offset nameMax (dnsParseFuel pkt + extra) offset 0 0 [] =
      dnsParseNameFrom pkt offset nameMax (dnsParseFuel pkt) offset 0 0 []) ∧
    (dnsParseNameRd pkt offset nameMax).Below pkt.length ∧
    (NameExact pkt offset nameMax ↔ ¬ NameRunsOff pkt offset nameMax) ∧
    (TextsTell ok ↔ ¬ ok 0x2e ∧ ¬ ok 0) := by
  refine ⟨?_, ?_, ?_, ?_⟩
  · intro extra
    exact dnsParseNameFrom_enough pkt offset nameMax (Nat.le_add_right _ _)
  · exact below_dnsParseNameRd pkt offset nameMax
  · exact nameExact_iff pkt offset nameMax
  · exact textsTell_iff ok

/-- A label that ends where the message ends is read as a name. -/
theorem name_runs_off : ¬ NameExact [1, 0x61] 0 (dnsMaxDomainLen + 1) := by
  rw [nameExact_iff, not_not]
  refine ⟨by decide, _, _, 0, by decide, .label ?_ (by decide) (by decide) .off, by decide⟩
  intro i hi
  have hle : i ≤ 1 := hi
  show 0 + i < 2
  omega

end FastRG
