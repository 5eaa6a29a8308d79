/-
What the configuration's texts are taken to say.

The readers of `utils.c` rest on `strtol` and on `sscanf`, which have a grammar of their own:
blanks and a sign may stand before a number, a number too large is held back or cut down, and
`sscanf` does not look at what follows the last number.  That grammar is written down here
without the readers, and each reader is shown to accept it and nothing else.  Beside it stands
what the texts are supposed to be: a numeral, four numbers with dots between, two addresses
around a delimiter.  A text is read exactly when the two grammars agree on it.
-/
import FastRG.Utils

namespace FastRG

open Decimal

/-! ### Numbers, as the C library reads them -/

/-- The text does not go on with a digit. -/
def NoDigitFirst (text : List (BitVec 8)) : Prop := ∀ b ∈ text.head?, isDigit b = false

/-- A sign, or none, and whether it is a minus. -/
def SignText (neg : Bool) (sign : List (BitVec 8)) : Prop :=
  neg = true ∧ sign = [45] ∨ neg = false ∧ (sign = [] ∨ sign = [43])

/-- The text is blanks, a sign or none, and digits, and has the value of its sign and digits. -/
def Numeral {α : Type} (value : Bool → Nat → α) (text : List (BitVec 8)) (n : α) : Prop :=
  ∃ blanks sign digits neg m, text = blanks ++ (sign ++ digits) ∧ blanks.all isSpace = true ∧
    SignText neg sign ∧ Decimal.read digits = some m ∧ n = value neg m

/-- What the C library does to read a number, whatever becomes of the number. -/
def scanNumeral {α : Type} (value : Bool → Nat → α) (text : List (BitVec 8)) :
    Option (α × List (BitVec 8)) :=
  let signed (neg : Bool) (text : List (BitVec 8)) :=
    (Decimal.read (text.takeWhile isDigit)).map fun m => (value neg m, text.dropWhile isDigit)
  match text.dropWhile isSpace with
  | 43 :: rest => signed false rest
  | 45 :: rest => signed true rest
  | rest => signed false rest

/-- The value of `strtol`. -/
def longValue (neg : Bool) (m : Nat) : Int := clampInt64 ((if neg then -1 else 1) * m)

/-- The value of `%u`. -/
def unsignedValue (neg : Bool) (m : Nat) : Nat :=
  (if 0x10000000000000000 ≤ m then 0xffffffffffffffff
    else if neg then (0x10000000000000000 - m) % 0x10000000000000000 else m) % 0x100000000

/-- The two readers of a `long` agree on what follows the blanks and the sign. -/
theorem signed_eq (neg : Bool) (digits rest : List (BitVec 8)) :
    ((do let m ← Decimal.read digits; pure (m : Int)) : Option Int).map
        (fun n => (clampInt64 ((if neg then -1 else 1) * n), rest)) =
      (Decimal.read digits).map fun m => (longValue neg m, rest) := by
  cases Decimal.read digits with
  | none => rfl
  | some m => rfl

theorem strtol_unsigned {text rest : List (BitVec 8)} (h : text.dropWhile isSpace = rest)
    (hplus : ∀ r, rest ≠ 43 :: r) (hminus : ∀ r, rest ≠ 45 :: r) :
    strtol text = (Decimal.read (rest.takeWhile isDigit)).map
      fun m => (longValue false m, rest.dropWhile isDigit) := by
  unfold strtol
  rw [h]
  split
  · exact absurd rfl (hplus _)
  · exact absurd rfl (hminus _)
  · exact signed_eq false _ _

theorem scanNumeral_unsigned {text rest : List (BitVec 8)} (h : text.dropWhile isSpace = rest)
    (hplus : ∀ r, rest ≠ 43 :: r) (hminus : ∀ r, rest ≠ 45 :: r) :
    scanNumeral longValue text = (Decimal.read (rest.takeWhile isDigit)).map
      fun m => (longValue false m, rest.dropWhile isDigit) := by
  unfold scanNumeral
  rw [h]
  split
  · exact absurd rfl (hplus _)
  · exact absurd rfl (hminus _)
  · rfl

theorem strtol_eq (text : List (BitVec 8)) : strtol text = scanNumeral longValue text := by
  by_cases hplus : ∃ r, text.dropWhile isSpace = 43 :: r
  · obtain ⟨r, hr⟩ := hplus
    unfold strtol scanNumeral
    rw [hr]
    exact signed_eq false _ _
  by_cases hminus : ∃ r, text.dropWhile isSpace = 45 :: r
  · obtain ⟨r, hr⟩ := hminus
    unfold strtol scanNumeral
    rw [hr]
    exact signed_eq true _ _
  have hno₁ : ∀ r, text.dropWhile isSpace ≠ 43 :: r := fun r hr => hplus ⟨r, hr⟩
  have hno₂ : ∀ r, text.dropWhile isSpace ≠ 45 :: r := fun r hr => hminus ⟨r, hr⟩
  rw [strtol_unsigned rfl hno₁ hno₂, scanNumeral_unsigned rfl hno₁ hno₂]

theorem scanUnsigned_eq (text : List (BitVec 8)) :
    scanUnsigned text = scanNumeral unsignedValue text := by
  unfold scanUnsigned scanNumeral unsignedValue
  rfl

theorem takeWhile_stop {p : BitVec 8 → Bool} {front rest : List (BitVec 8)}
    (hfront : front.all p = true) (hrest : ∀ b ∈ rest.head?, p b = false) :
    (front ++ rest).takeWhile p = front ∧ (front ++ rest).dropWhile p = rest := by
  have hall : ∀ b ∈ front, p b = true := List.all_eq_true.mp hfront
  rw [List.takeWhile_append_of_pos hall, List.dropWhile_append_of_pos hall]
  cases rest with
  | nil => exact ⟨List.append_nil front, rfl⟩
  | cons b rest =>
      have hb : p b = false := hrest b rfl
      simp [hb]

theorem dropWhile_stop (p : BitVec 8 → Bool) (text : List (BitVec 8)) :
    ∀ b ∈ (text.dropWhile p).head?, p b = false := by
  intro b hb
  have hnot := List.head?_dropWhile_not p text
  rw [Option.mem_def.mp hb] at hnot
  simpa using hnot

theorem read_digits {digits : List (BitVec 8)} {m : Nat} (h : Decimal.read digits = some m) :
    digits ≠ [] ∧ digits.all isDigit = true ∧ readFrom 0 digits = m := by
  unfold Decimal.read at h
  split at h
  next hdigits => exact ⟨hdigits.1, hdigits.2, Option.some.inj h⟩
  next => exact absurd h (by simp)

theorem digit_no_sign {d : BitVec 8} (h : isDigit d = true) :
    d ≠ 43 ∧ d ≠ 45 ∧ isSpace d = false := by
  unfold isDigit at h
  simp only [Bool.and_eq_true, decide_eq_true_eq] at h
  refine ⟨?_, ?_, ?_⟩
  · intro hd
    subst hd
    simp at h
  · intro hd
    subst hd
    simp at h
  · unfold isSpace
    simp only [Bool.or_eq_false_iff, Bool.and_eq_false_iff, beq_eq_false_iff_ne,
      decide_eq_false_iff_not]
    refine ⟨?_, Or.inr (by omega)⟩
    intro hd
    subst hd
    simp at h

/-- What the C library reads is a numeral in front, up to the first byte that is no digit. -/
theorem scanNumeral_iff {α : Type} (value : Bool → Nat → α) (text rest : List (BitVec 8)) (n : α) :
    scanNumeral value text = some (n, rest) ↔
      ∃ front, text = front ++ rest ∧ Numeral value front n ∧ NoDigitFirst rest := by
  have hsplit := List.takeWhile_append_dropWhile (p := isSpace) (l := text)
  have hstop := dropWhile_stop isSpace text
  refine ⟨?_, ?_⟩
  · intro h
    obtain ⟨sign, neg, tail, hsign, htail, hread⟩ : ∃ sign neg tail, SignText neg sign ∧
        text.dropWhile isSpace = sign ++ tail ∧
        (Decimal.read (tail.takeWhile isDigit)).map
          (fun m => (value neg m, tail.dropWhile isDigit)) = some (n, rest) := by
      unfold scanNumeral at h
      dsimp only at h
      split at h
      next tail htail => exact ⟨[43], false, tail, Or.inr ⟨rfl, Or.inr rfl⟩, htail, h⟩
      next tail htail => exact ⟨[45], true, tail, Or.inl ⟨rfl, rfl⟩, htail, h⟩
      next => exact ⟨[], false, _, Or.inr ⟨rfl, Or.inl rfl⟩, rfl, h⟩
    obtain ⟨m, hm, hpair⟩ := Option.map_eq_some_iff.mp hread
    obtain ⟨hn, hrest⟩ := Prod.mk.inj hpair
    refine ⟨text.takeWhile isSpace ++ (sign ++ tail.takeWhile isDigit), ?_,
      ⟨_, sign, _, neg, m, rfl, List.all_takeWhile, hsign, hm, hn.symm⟩, ?_⟩
    · rw [← hrest, List.append_assoc, List.append_assoc, List.takeWhile_append_dropWhile, ← htail,
        hsplit]
    · rw [← hrest]
      exact dropWhile_stop isDigit tail
  · intro h
    obtain ⟨front, rfl, ⟨blanks, sign, digits, neg, m, rfl, hblanks, hsign, hm, rfl⟩, hrest⟩ := h
    obtain ⟨hne, hdigits, -⟩ := read_digits hm
    obtain ⟨d, more, rfl⟩ := List.exists_cons_of_ne_nil hne
    have hd : isDigit d = true := List.all_eq_true.mp hdigits d (by simp)
    obtain ⟨htake, hdrop⟩ := takeWhile_stop hdigits hrest
    have hnd : d ≠ 43 ∧ d ≠ 45 ∧ isSpace d = false := digit_no_sign hd
    have hstop' : ∀ b ∈ (sign ++ (d :: more ++ rest)).head?, isSpace b = false := by
      rcases hsign with ⟨-, rfl⟩ | ⟨-, rfl | rfl⟩
      · simp [isSpace]
      · simp [hnd.2.2]
      · simp [isSpace]
    have hshape : blanks ++ (sign ++ d :: more) ++ rest = blanks ++ (sign ++ (d :: more ++ rest)) := by
      simp only [List.append_assoc]
    unfold scanNumeral
    rw [hshape, (takeWhile_stop hblanks hstop').2]
    rcases hsign with ⟨rfl, rfl⟩ | ⟨rfl, rfl | rfl⟩
    · show (Decimal.read ((d :: more ++ rest).takeWhile isDigit)).map
        (fun m => (value true m, (d :: more ++ rest).dropWhile isDigit)) = _
      rw [htake, hdrop, hm]
      rfl
    · dsimp only [List.nil_append, List.cons_append]
      split
      next => exact absurd (List.cons.inj ‹_›).1 hnd.1
      next => exact absurd (List.cons.inj ‹_›).1 hnd.2.1
      next =>
        rw [← List.cons_append, htake, hdrop, hm]
        rfl
    · show (Decimal.read ((d :: more ++ rest).takeWhile isDigit)).map
        (fun m => (value false m, (d :: more ++ rest).dropWhile isDigit)) = _
      rw [htake, hdrop, hm]
      rfl

theorem scanUnsigned_iff (text rest : List (BitVec 8)) (n : Nat) :
    scanUnsigned text = some (n, rest) ↔
      ∃ front, text = front ++ rest ∧ Numeral unsignedValue front n ∧ NoDigitFirst rest := by
  rw [scanUnsigned_eq]
  exact scanNumeral_iff unsignedValue text rest n

theorem strtolWhole_iff (text : List (BitVec 8)) (n : Int) :
    strtolWhole text = some n ↔ Numeral longValue text n := by
  have hwhole : strtolWhole text = some n ↔ strtol text = some (n, []) := by
    unfold strtolWhole
    split
    next m h =>
      rw [h]
      simp
    next hne =>
      refine ⟨fun h => absurd h (by simp), fun h => absurd h (hne n)⟩
  rw [hwhole, strtol_eq, scanNumeral_iff]
  refine ⟨?_, ?_⟩
  · intro h
    obtain ⟨front, rfl, hfront, -⟩ := h
    rw [List.append_nil]
    exact hfront
  · intro h
    exact ⟨text, (List.append_nil text).symm, h, by simp [NoDigitFirst]⟩

theorem scanDot_iff (text rest : List (BitVec 8)) :
    scanDot text = some rest ↔ text = 46 :: rest := by
  unfold scanDot
  split
  next tail =>
    refine ⟨fun h => ?_, fun h => congrArg some (List.cons.inj h).2⟩
    exact congrArg (List.cons 46) (Option.some.inj h)
  next hne => exact ⟨fun h => absurd h (by simp), fun h => absurd h (hne rest)⟩

/-! ### Addresses -/

/-- Four numbers up to 255 with dots between, and the text after them.  What counts as the text of
a number is left open. -/
def Quad (IsNumber : List (BitVec 8) → Nat → Prop) (text rest : List (BitVec 8))
    (addr : BitVec 32) : Prop :=
  ∃ ta tb tc td a b c d, text = ta ++ 46 :: (tb ++ 46 :: (tc ++ 46 :: (td ++ rest))) ∧
    (IsNumber ta a ∧ a ≤ 255) ∧ (IsNumber tb b ∧ b ≤ 255) ∧ (IsNumber tc c ∧ c ≤ 255) ∧
    (IsNumber td d ∧ d ≤ 255) ∧ addr = quadAddr a b c d

/-- Four decimal numbers up to 255 with dots between, and nothing else. -/
def DottedQuad (text : List (BitVec 8)) (addr : BitVec 32) : Prop :=
  Quad (fun digits n => Decimal.read digits = some n) text [] addr

/-- What `sscanf` reads four numbers up to 255 from. -/
def ScannedQuad (text : List (BitVec 8)) (addr : BitVec 32) : Prop :=
  ∃ rest, NoDigitFirst rest ∧ Quad (Numeral unsignedValue) text rest addr

theorem noDigitFirst_dot (text : List (BitVec 8)) : NoDigitFirst (46 :: text) := by
  intro b hb
  rw [← Option.some.inj hb]
  rfl

theorem scanQuad_iff (text : List (BitVec 8)) (a b c d : Nat) :
    scanQuad text = some (a, b, c, d) ↔
      ∃ ta tb tc td rest, text = ta ++ 46 :: (tb ++ 46 :: (tc ++ 46 :: (td ++ rest))) ∧
        Numeral unsignedValue ta a ∧ Numeral unsignedValue tb b ∧ Numeral unsignedValue tc c ∧
        Numeral unsignedValue td d ∧ NoDigitFirst rest := by
  unfold scanQuad
  simp only [Option.bind_eq_bind, Option.bind_eq_some_iff, Prod.exists, scanUnsigned_iff,
    scanDot_iff, Option.pure_def, Option.some.injEq, Prod.mk.injEq]
  refine ⟨?_, ?_⟩
  · intro h
    obtain ⟨_, _, ⟨ta, rfl, ha, -⟩, _, rfl, _, _, ⟨tb, rfl, hb, -⟩, _, rfl, _, _, ⟨tc, rfl, hc, -⟩,
      _, rfl, _, rest, ⟨td, rfl, hd, hrest⟩, rfl, rfl, rfl, rfl⟩ := h
    exact ⟨ta, tb, tc, td, rest, rfl, ha, hb, hc, hd, hrest⟩
  · intro h
    obtain ⟨ta, tb, tc, td, rest, rfl, ha, hb, hc, hd, hrest⟩ := h
    exact ⟨a, _, ⟨ta, rfl, ha, noDigitFirst_dot _⟩, _, rfl, b, _, ⟨tb, rfl, hb, noDigitFirst_dot _⟩,
      _, rfl, c, _, ⟨tc, rfl, hc, noDigitFirst_dot _⟩, _, rfl, d, rest, ⟨td, rfl, hd, hrest⟩,
      rfl, rfl, rfl, rfl⟩

/-- `parse_ip` takes what `sscanf` reads four numbers up to 255 from. -/
theorem parseIp_iff (text : List (BitVec 8)) (addr : BitVec 32) :
    parseIp text = some addr ↔ ScannedQuad text addr := by
  unfold parseIp
  simp only [Option.bind_eq_bind, Option.bind_eq_some_iff, Prod.exists, scanQuad_iff]
  refine ⟨?_, ?_⟩
  · intro h
    obtain ⟨a, b, c, d, ⟨ta, tb, tc, td, rest, htext, ha, hb, hc, hd, hrest⟩, haddr⟩ := h
    split at haddr
    next => exact absurd haddr (by simp)
    next hle =>
      exact ⟨rest, hrest, ta, tb, tc, td, a, b, c, d, htext, ⟨ha, by omega⟩, ⟨hb, by omega⟩,
        ⟨hc, by omega⟩, ⟨hd, by omega⟩, (Option.some.inj haddr).symm⟩
  · intro h
    obtain ⟨rest, hrest, ta, tb, tc, td, a, b, c, d, htext, ⟨ha, ha'⟩, ⟨hb, hb'⟩, ⟨hc, hc'⟩,
      ⟨hd, hd'⟩, haddr⟩ := h
    refine ⟨a, b, c, d, ⟨ta, tb, tc, td, rest, htext, ha, hb, hc, hd, hrest⟩, ?_⟩
    rw [if_neg (by omega), haddr]

theorem parseIpInto_eq (text : List (BitVec 8)) (ipAddr : BitVec 32) :
    parseIpInto text ipAddr = ((parseIp text).isSome, (parseIp text).getD ipAddr) := by
  unfold parseIpInto parseIp
  cases scanQuad text with
  | none => rfl
  | some quad =>
      obtain ⟨a, b, c, d⟩ := quad
      show _ = ((if _ then none else some _ : Option (BitVec 32)).isSome, _)
      by_cases h : 255 < a ∨ 255 < b ∨ 255 < c ∨ 255 < d
      · simp [h]
      · simp [h]

/-- A plain number up to 255 is read as it stands. -/
theorem numeral_octet {digits : List (BitVec 8)} {n : Nat} (h : Decimal.read digits = some n)
    (hn : n ≤ 255) : Numeral unsignedValue digits n := by
  refine ⟨[], [], digits, false, n, rfl, rfl, Or.inr ⟨rfl, Or.inl rfl⟩, h, ?_⟩
  unfold unsignedValue
  rw [if_neg (by omega)]
  simp only [Bool.false_eq_true, if_false]
  omega

theorem quad_mono {P Q : List (BitVec 8) → Nat → Prop} {text rest : List (BitVec 8)}
    {addr : BitVec 32} (hpq : ∀ digits n, P digits n → n ≤ 255 → Q digits n)
    (h : Quad P text rest addr) : Quad Q text rest addr := by
  obtain ⟨ta, tb, tc, td, a, b, c, d, htext, ⟨ha, ha'⟩, ⟨hb, hb'⟩, ⟨hc, hc'⟩, ⟨hd, hd'⟩, haddr⟩ := h
  exact ⟨ta, tb, tc, td, a, b, c, d, htext, ⟨hpq _ _ ha ha', ha'⟩, ⟨hpq _ _ hb hb', hb'⟩,
    ⟨hpq _ _ hc hc', hc'⟩, ⟨hpq _ _ hd hd', hd'⟩, haddr⟩

theorem DottedQuad.scanned {text : List (BitVec 8)} {addr : BitVec 32} (h : DottedQuad text addr) :
    ScannedQuad text addr :=
  ⟨[], by simp [NoDigitFirst], quad_mono (fun _ _ => numeral_octet) h⟩

/-! ### Subscribers -/

/-- The text is the numeral of a subscriber among so many, and this is its index. -/
def UserNumeral (text : List (BitVec 8)) (maxCount ccbId : Nat) : Prop :=
  ∃ i, 1 ≤ i ∧ i ≤ maxCount ∧ text = Decimal.write i ∧ ccbId = i - 1

/-- What `strtol` reads to the end, as a number that stands for a subscriber among so many once it
is cut down to an `int`. -/
def ScannedUser (text : List (BitVec 8)) (maxCount ccbId : Nat) : Prop :=
  ∃ n : Int, Numeral longValue text n ∧ 1 ≤ toInt32 n ∧ toInt32 n ≤ maxCount ∧
    (ccbId : Int) = toInt32 n - 1

/-- `parse_user_id` takes what `strtol` reads to the end as a subscriber. -/
theorem parseUserId_iff (text : List (BitVec 8)) (maxCount ccbId : Nat) :
    parseUserId text maxCount = some ccbId ↔ ScannedUser text maxCount ccbId := by
  unfold parseUserId
  simp only [Option.bind_eq_bind, Option.bind_eq_some_iff, strtolWhole_iff]
  refine ⟨?_, ?_⟩
  · intro h
    obtain ⟨n, hn, hval⟩ := h
    split at hval
    next => exact absurd hval (by simp)
    next hin =>
      have hid : (toInt32 n - 1).toNat = ccbId := Option.some.inj hval
      exact ⟨n, hn, by omega, by omega, by omega⟩
  · intro h
    obtain ⟨n, hn, hlow, hhigh, hid⟩ := h
    refine ⟨n, hn, ?_⟩
    rw [if_neg (by omega)]
    exact congrArg some (by omega)

theorem UserNumeral.scanned {text : List (BitVec 8)} {maxCount ccbId : Nat}
    (hmax : maxCount < 2147483648) (h : UserNumeral text maxCount ccbId) :
    ScannedUser text maxCount ccbId := by
  obtain ⟨i, hlow, hhigh, rfl, rfl⟩ := h
  have hlong : longValue false i = i := by
    unfold longValue clampInt64
    simp only [Bool.false_eq_true, if_false]
    omega
  have hint : toInt32 i = i := by
    unfold toInt32
    rw [BitVec.toInt_ofInt]
    exact Int.bmod_eq_of_le (by omega) (by omega)
  refine ⟨i, ⟨[], [], _, false, i, rfl, rfl, Or.inr ⟨rfl, Or.inl rfl⟩, Decimal.read_write i,
    hlong.symm⟩, ?_⟩
  rw [hint]
  omega

/-! ### Ranges -/

/-- Two addresses around a `~` or a `-`, the first of them not above the second. -/
def JoinedRange (text : List (BitVec 8)) (ipStart ipEnd : BitVec 32) : Prop :=
  ∃ before sep after, text = before ++ sep :: after ∧ (sep = 0x7e ∨ sep = 0x2d) ∧
    DottedQuad before ipStart ∧ DottedQuad after ipEnd ∧ swap32 ipStart ≤ swap32 ipEnd

/-- The text before and after its first `~`, or after its first `-` if it has no `~`. -/
def SplitAt (text before after : List (BitVec 8)) : Prop :=
  text = before ++ 0x7e :: after ∧ 0x7e ∉ before ∨
    0x7e ∉ text ∧ text = before ++ 0x2d :: after ∧ 0x2d ∉ before

/-- What `sscanf` reads two addresses from in the first 127 bytes, in whatever order they are. -/
def ScannedRange (text : List (BitVec 8)) (ipStart ipEnd : BitVec 32) : Prop :=
  ∃ before after, SplitAt (text.take 127) before after ∧ ScannedQuad before ipStart ∧
    ScannedQuad after ipEnd

theorem first_split_iff (text before after : List (BitVec 8)) (d : BitVec 8) :
    text = before ++ d :: after ∧ d ∉ before ↔
      d ∈ text ∧ before = text.takeWhile (· ≠ d) ∧ after = (text.dropWhile (· ≠ d)).drop 1 := by
  refine ⟨?_, ?_⟩
  · intro h
    obtain ⟨rfl, hbefore⟩ := h
    have hfront : before.all (· ≠ d) = true := by
      rw [List.all_eq_true]
      intro b hb
      simp only [ne_eq, decide_not, Bool.not_eq_true', decide_eq_false_iff_not]
      intro hbd
      exact hbefore (hbd ▸ hb)
    have hstop : ∀ b ∈ (d :: after).head?, decide (b ≠ d) = false := by simp
    obtain ⟨htake, hdrop⟩ := takeWhile_stop hfront hstop
    rw [htake, hdrop]
    exact ⟨by simp, rfl, rfl⟩
  · intro h
    obtain ⟨hmem, rfl, rfl⟩ := h
    have hsplit := List.takeWhile_append_dropWhile (p := fun b => decide (b ≠ d)) (l := text)
    have hstop := dropWhile_stop (fun b => decide (b ≠ d)) text
    have hnot : d ∉ text.takeWhile (· ≠ d) := by
      intro hd
      have hne := List.all_eq_true.mp (List.all_takeWhile (p := fun b => decide (b ≠ d))) d hd
      simp at hne
    cases hrest : text.dropWhile (fun b => decide (b ≠ d)) with
    | nil =>
        rw [hrest, List.append_nil] at hsplit
        rw [hsplit] at hnot
        exact absurd hmem hnot
    | cons b rest =>
        rw [hrest] at hstop
        have hb : b = d := by simpa using hstop b rfl
        subst hb
        refine ⟨?_, hnot⟩
        rw [hrest] at hsplit
        exact hsplit.symm

/-- The byte `parse_ip_range` splits a text at. -/
def rangeDelimiter (text : List (BitVec 8)) : BitVec 8 :=
  if text.contains 0x7e then 0x7e else 0x2d

/-- Where `parse_ip_range` splits a text. -/
theorem splitAt_iff (text before after : List (BitVec 8)) :
    SplitAt text before after ↔ text.contains (rangeDelimiter text) = true ∧
      before = text.takeWhile (· ≠ rangeDelimiter text) ∧
      after = (text.dropWhile (· ≠ rangeDelimiter text)).drop 1 := by
  unfold SplitAt rangeDelimiter
  rw [first_split_iff, first_split_iff]
  by_cases h : text.contains (0x7e : BitVec 8) = true
  · have hmem : (0x7e : BitVec 8) ∈ text := List.contains_iff_mem.mp h
    rw [if_pos h]
    refine ⟨?_, fun hs => Or.inl ⟨hmem, hs.2⟩⟩
    intro hs
    rcases hs with hs | ⟨hno, -⟩
    · exact ⟨h, hs.2⟩
    · exact absurd hmem hno
  · have hmem : (0x7e : BitVec 8) ∉ text := fun hin => h (List.contains_iff_mem.mpr hin)
    rw [if_neg h, List.contains_iff_mem]
    refine ⟨?_, fun hs => Or.inr ⟨hmem, hs⟩⟩
    intro hs
    rcases hs with ⟨hin, -⟩ | ⟨-, hs⟩
    · exact absurd hin hmem
    · exact hs

/-- `parse_ip_range`, around the byte it splits the text at. -/
theorem parseIpRangeInto_eq (text : List (BitVec 8)) (out : BitVec 32 × BitVec 32) :
    parseIpRangeInto text out =
      if (text.take 127).contains (rangeDelimiter (text.take 127)) = false then (false, out)
      else
        match parseIp ((text.take 127).takeWhile (· ≠ rangeDelimiter (text.take 127))),
            parseIp (((text.take 127).dropWhile (· ≠ rangeDelimiter (text.take 127))).drop 1) with
        | some ipStart, some ipEnd => (!decide (swap32 ipEnd < swap32 ipStart), ipStart, ipEnd)
        | _, _ => (false, out) := rfl

/-- Two addresses that could be read are stored, and only then compared. -/
theorem parseIpRangeInto_scanned {text : List (BitVec 8)} {ipStart ipEnd : BitVec 32}
    (h : ScannedRange text ipStart ipEnd) (out : BitVec 32 × BitVec 32) :
    parseIpRangeInto text out = (!decide (swap32 ipEnd < swap32 ipStart), ipStart, ipEnd) := by
  obtain ⟨before, after, hsplit, hs, he⟩ := h
  obtain ⟨hin, hbefore, hafter⟩ := (splitAt_iff _ _ _).mp hsplit
  rw [← parseIp_iff, hbefore] at hs
  rw [← parseIp_iff, hafter] at he
  rw [parseIpRangeInto_eq, if_neg (by rw [hin]; simp), hs, he]

theorem parseIpRangeInto_other {text : List (BitVec 8)}
    (h : ∀ ipStart ipEnd, ¬ ScannedRange text ipStart ipEnd) (out : BitVec 32 × BitVec 32) :
    parseIpRangeInto text out = (false, out) := by
  rw [parseIpRangeInto_eq]
  split
  next => rfl
  next hin =>
    split
    next ipStart ipEnd hs he =>
      have hin' : (text.take 127).contains (rangeDelimiter (text.take 127)) = true := by
        simpa using hin
      exact absurd ⟨_, _, (splitAt_iff _ _ _).mpr ⟨hin', rfl, rfl⟩, (parseIp_iff _ _).mp hs,
        (parseIp_iff _ _).mp he⟩ (h ipStart ipEnd)
    next => rfl

/-- The two models of `parse_ip_range` agree. -/
theorem parseIpRange_eq (text : List (BitVec 8)) (out : BitVec 32 × BitVec 32) :
    parseIpRange text =
      if (parseIpRangeInto text out).1 then some (parseIpRangeInto text out).2 else none := by
  unfold parseIpRange parseIpRangeInto
  simp only
  generalize (if (text.take 127).contains 0x7e then (0x7e : BitVec 8) else 0x2d) = delimiter
  split
  · rfl
  cases parseIp ((text.take 127).takeWhile _) with
  | none => rfl
  | some ipStart =>
      cases parseIp (((text.take 127).dropWhile _).drop 1) with
      | none => rfl
      | some ipEnd => by_cases hlt : swap32 ipEnd < swap32 ipStart <;> simp [hlt]

/-! ### Reading exactly -/

/-- The three readers take the text for what it says, and store nothing when they refuse it. -/
structure ConfigTextExact (text : List (BitVec 8)) (maxCount : Nat) : Prop where
  user : ∀ ccbId, parseUserId text maxCount = some ccbId ↔ UserNumeral text maxCount ccbId
  ip : ∀ out addr, parseIpInto text out = (true, addr) ↔ DottedQuad text addr
  range : ∀ out ipStart ipEnd,
    parseIpRangeInto text out = (true, ipStart, ipEnd) ↔ JoinedRange text ipStart ipEnd
  ipRefused : ∀ out, (parseIpInto text out).1 = false → (parseIpInto text out).2 = out
  rangeRefused : ∀ out, (parseIpRangeInto text out).1 = false → (parseIpRangeInto text out).2 = out

/-- `strtol` reads a subscriber from a text that is not its numeral: a blank, a sign or a zero
stands before it, or the number is another one cut down to an `int`. -/
def LooseUser (text : List (BitVec 8)) (maxCount : Nat) : Prop :=
  ∃ ccbId, ScannedUser text maxCount ccbId ∧ ¬ UserNumeral text maxCount ccbId

/-- `sscanf` reads an address from a text that is not one: a blank or a sign stands before a
number, a number is another one cut down to 32 bits, or something follows. -/
def LooseIp (text : List (BitVec 8)) : Prop :=
  ∃ addr, ScannedQuad text addr ∧ ¬ DottedQuad text addr

/-- `sscanf` reads two addresses from a text that is no range: one of them is not written as an
address, the first is above the second, or something stands after the 127th byte. -/
def LooseRange (text : List (BitVec 8)) : Prop :=
  ∃ ipStart ipEnd, ScannedRange text ipStart ipEnd ∧ ¬ JoinedRange text ipStart ipEnd

/-- A range that goes on behind the 127th byte, and is read as something else without the rest. -/
def CutRange (text : List (BitVec 8)) : Prop :=
  ∃ ipStart ipEnd, JoinedRange text ipStart ipEnd ∧ ¬ ScannedRange text ipStart ipEnd

theorem parseIpInto_iff (text : List (BitVec 8)) (out addr : BitVec 32) :
    parseIpInto text out = (true, addr) ↔ ScannedQuad text addr := by
  rw [parseIpInto_eq, ← parseIp_iff]
  cases parseIp text with
  | none => simp
  | some found => simp

theorem parseIpRangeInto_iff (text : List (BitVec 8)) (out : BitVec 32 × BitVec 32)
    (ipStart ipEnd : BitVec 32) :
    parseIpRangeInto text out = (true, ipStart, ipEnd) ↔
      ScannedRange text ipStart ipEnd ∧ swap32 ipStart ≤ swap32 ipEnd := by
  by_cases h : ∃ s e, ScannedRange text s e
  · obtain ⟨s, e, hse⟩ := h
    rw [parseIpRangeInto_scanned hse]
    refine ⟨?_, ?_⟩
    · intro heq
      obtain ⟨hle, hs, he⟩ : (!decide (swap32 e < swap32 s)) = true ∧ s = ipStart ∧ e = ipEnd := by
        simpa only [Prod.mk.injEq] using heq
      subst hs
      subst he
      exact ⟨hse, BitVec.not_lt.mp (by simpa using hle)⟩
    · intro h'
      obtain ⟨hse', hle⟩ := h'
      have hboth := (parseIpRangeInto_scanned hse out).symm.trans (parseIpRangeInto_scanned hse' out)
      rw [hboth]
      simp [BitVec.not_lt.mpr hle]
  · have hnone : ∀ s e, ¬ ScannedRange text s e := fun s e hse => h ⟨s, e, hse⟩
    rw [parseIpRangeInto_other hnone]
    refine ⟨fun heq => absurd (congrArg Prod.fst heq) (by simp), fun h' => absurd h'.1 (hnone _ _)⟩

/-- A refused range is still stored when both of its addresses could be read. -/
theorem refused_stored {text : List (BitVec 8)} {ipStart ipEnd : BitVec 32}
    (h : ScannedRange text ipStart ipEnd) (hlt : swap32 ipEnd < swap32 ipStart)
    (hkept : ∀ out, (parseIpRangeInto text out).1 = false → (parseIpRangeInto text out).2 = out) :
    False := by
  have hout := hkept (ipStart + 1, ipEnd)
  rw [parseIpRangeInto_scanned h] at hout
  have heq : ipStart = ipStart + 1 := congrArg Prod.fst (hout (by simp [hlt]))
  bv_omega

/--
**A text is read exactly when the grammar of the C library agrees with what it says.**  It is
read as something else when `strtol` or `sscanf` reads it although it is no numeral, no address
or no range, with the first address above the second among these; and when a range is cut off
behind its 127th byte.
-/
theorem configText_exact_iff (text : List (BitVec 8)) (maxCount : Nat)
    (hmax : maxCount < 2147483648) :
    ConfigTextExact text maxCount ↔
      ¬ LooseUser text maxCount ∧ ¬ LooseIp text ∧ ¬ LooseRange text ∧ ¬ CutRange text := by
  refine ⟨?_, ?_⟩
  · intro h
    refine ⟨?_, ?_, ?_, ?_⟩
    · intro hloose
      obtain ⟨ccbId, hscan, hnot⟩ := hloose
      exact hnot ((h.user ccbId).mp ((parseUserId_iff _ _ _).mpr hscan))
    · intro hloose
      obtain ⟨addr, hscan, hnot⟩ := hloose
      exact hnot ((h.ip 0 addr).mp ((parseIpInto_iff _ _ _).mpr hscan))
    · intro hloose
      obtain ⟨ipStart, ipEnd, hscan, hnot⟩ := hloose
      by_cases hlt : swap32 ipEnd < swap32 ipStart
      · exact refused_stored hscan hlt h.rangeRefused
      · have hle : swap32 ipStart ≤ swap32 ipEnd := BitVec.not_lt.mp hlt
        exact hnot ((h.range (0, 0) _ _).mp ((parseIpRangeInto_iff _ _ _ _).mpr ⟨hscan, hle⟩))
    · intro hcut
      obtain ⟨ipStart, ipEnd, hjoined, hnot⟩ := hcut
      exact hnot ((parseIpRangeInto_iff _ _ _ _).mp ((h.range (0, 0) _ _).mpr hjoined)).1
  · intro h
    obtain ⟨huser, hip, hrange, hcut⟩ := h
    have hjoined : ∀ s e, ScannedRange text s e → JoinedRange text s e := by
      intro s e hscan
      by_contra hnot
      exact hrange ⟨s, e, hscan, hnot⟩
    refine ⟨?_, ?_, ?_, ?_, ?_⟩
    · intro ccbId
      rw [parseUserId_iff]
      refine ⟨?_, UserNumeral.scanned hmax⟩
      intro hscan
      by_contra hnot
      exact huser ⟨ccbId, hscan, hnot⟩
    · intro out addr
      rw [parseIpInto_iff]
      refine ⟨?_, DottedQuad.scanned⟩
      intro hscan
      by_contra hnot
      exact hip ⟨addr, hscan, hnot⟩
    · intro out ipStart ipEnd
      rw [parseIpRangeInto_iff]
      refine ⟨fun hscan => hjoined _ _ hscan.1, ?_⟩
      intro hjoin
      refine ⟨?_, ?_⟩
      · by_contra hnot
        exact hcut ⟨ipStart, ipEnd, hjoin, hnot⟩
      · obtain ⟨-, -, -, -, -, -, -, hle⟩ := hjoin
        exact hle
    · intro out hrefused
      rw [parseIpInto_eq] at hrefused ⊢
      cases hparse : parseIp text with
      | none => rfl
      | some addr =>
          rw [hparse] at hrefused
          exact absurd hrefused (by simp)
    · intro out hrefused
      by_cases hscan : ∃ s e, ScannedRange text s e
      · obtain ⟨s, e, hse⟩ := hscan
        obtain ⟨-, -, -, -, -, -, -, hle⟩ := hjoined s e hse
        rw [parseIpRangeInto_scanned hse] at hrefused
        exact absurd hrefused (by simp [BitVec.not_lt.mpr hle])
      · have hnone : ∀ s e, ¬ ScannedRange text s e := fun s e hse => hscan ⟨s, e, hse⟩
        rw [parseIpRangeInto_other hnone]

/-- A numeral of a subscriber is read exactly. -/
theorem configText_exact_numeral :
    (16 : Nat) < 2147483648 ∧
      (ConfigTextExact (asciiBytes "12") 16 ↔
        ¬ LooseUser (asciiBytes "12") 16 ∧ ¬ LooseIp (asciiBytes "12") ∧
          ¬ LooseRange (asciiBytes "12") ∧ ¬ CutRange (asciiBytes "12")) :=
  ⟨by decide, configText_exact_iff (asciiBytes "12") 16 (by decide)⟩

/-- 4294967297 is subscriber 1, an address may be followed by anything, and a range that ends before
it begins is stored before it is refused. -/
theorem configText_not_exact :
    parseUserId (asciiBytes "4294967297") 16 = some 0 ∧
      parseIpInto (asciiBytes "10.0.0.1;x") 0 = (true, 0x0100000a) ∧
      parseIpRangeInto (asciiBytes "10.0.0.9~10.0.0.1") (0, 0) = (false, 0x0900000a, 0x0100000a) ∧
      ¬ ∀ text, ConfigTextExact text 16 := by
  have hrange : parseIpRangeInto (asciiBytes "10.0.0.9~10.0.0.1") (0, 0) =
      (false, 0x0900000a, 0x0100000a) := by decide
  refine ⟨by decide, by decide, hrange, ?_⟩
  intro hexact
  have hkept := (hexact (asciiBytes "10.0.0.9~10.0.0.1")).rangeRefused (0, 0)
  rw [hrange] at hkept
  exact absurd (hkept rfl) (by decide)

end FastRG
