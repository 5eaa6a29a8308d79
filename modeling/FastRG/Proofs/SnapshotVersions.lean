/-
The resource versions of offline edits.

An edit made by hand is stamped with the version of the value before it, plus one.  The version is
a text, written by the controller or by an earlier edit; `strtoll` reads it into 64 bits, and a
number beyond the last of those is read as the last (`parseRv_eq`).  One more than the last wraps
to the first.  So an edit grows the version exactly when the number before it is below the last
one (`lt_nextVersion`), and a run of edits, deletions, watch updates, reports and restarts grows
it at every edit exactly when no edit starts at the last number or beyond.

The value before an edit is the one the last operation left: a deletion keeps it in its tombstone,
and a restart reads it back from the file (`held_reload`).
-/
import FastRG.ConfigSnapshot
import Mathlib.Data.List.TakeWhile

namespace FastRG

/-! ### Numbers in texts, of whatever size -/

/-- The whole number that a text is: blanks, a sign and digits. -/
def wholeNumber (text : List (BitVec 8)) : Option Int :=
  match text.dropWhile isSpace with
  | 43 :: rest => (Decimal.read rest).map Int.ofNat
  | 45 :: rest => (Decimal.read rest).map fun n => -Int.ofNat n
  | rest => (Decimal.read rest).map Int.ofNat

/-- The version that a stored text has in its metadata. -/
def storedVersion (value : JsonText) : Option (List (BitVec 8)) :=
  (value.parse.bind (Json.get "metadata")).bind (Json.getString "resourceVersion")

/-- The number of a stored version, when it is one. -/
def numericVersion (value : JsonText) : Option Int := (storedVersion value).bind wholeNumber

/-- The last number of 64 bits. -/
def lastVersion : Int := 0x7fffffffffffffff

namespace ConfigSnapshot

/-- The value that the entry of a key holds. -/
def held (s : ConfigSnapshot) (key : SnapshotKey) : JsonText :=
  ((s.entries.lookup key).getD .zero).value

/-- The values before the next event: a restart leaves what the operations before it had left. -/
def heldAfter (before : SnapshotKey → JsonText) (s : ConfigSnapshot) :
    SnapshotEvent → SnapshotKey → JsonText
  | .op op => (s.step op).held
  | .restart => before

/-- An edit that is made has a number for its version, above that of the value before. -/
def EditGrows (before : SnapshotKey → JsonText) (s : ConfigSnapshot) : SnapshotEvent → Prop
  | .op (.offlineEdit key value summary now) =>
      (s.offlineEdit key value summary now).1 = .success →
        ∃ n, storedVersion ((s.offlineEdit key value summary now).2.held key) = some (toDecimal n) ∧
          ∀ m, numericVersion (before key) = some m → m < n
  | _ => True

/-- An edit that is made starts below the last number, if it starts at a number. -/
def EditFits (before : SnapshotKey → JsonText) (s : ConfigSnapshot) : SnapshotEvent → Prop
  | .op (.offlineEdit key value summary now) =>
      (s.offlineEdit key value summary now).1 = .success →
        ∀ m, numericVersion (before key) = some m → m < lastVersion
  | _ => True

/-- Every edit of a run grows the version. -/
def VersionsGrow (before : SnapshotKey → JsonText) (s : ConfigSnapshot) :
    List SnapshotEvent → Prop
  | [] => True
  | e :: es => EditGrows before s e ∧ VersionsGrow (heldAfter before s e) (s.event e) es

/-- Every edit of a run starts below the last number. -/
def VersionsFit (before : SnapshotKey → JsonText) (s : ConfigSnapshot) :
    List SnapshotEvent → Prop
  | [] => True
  | e :: es => EditFits before s e ∧ VersionsFit (heldAfter before s e) (s.event e) es

end ConfigSnapshot

/-! ### Reading a version -/

/-- `strtol` of a text of digits after a sign. -/
theorem strtolWhole_digits (sign : Int) (text : List (BitVec 8)) :
    (match (Decimal.read (text.takeWhile Decimal.isDigit)).map fun n =>
        (clampInt64 (sign * n), text.dropWhile Decimal.isDigit) with
      | some (n, []) => some n
      | _ => none) = (Decimal.read text).map fun n => clampInt64 (sign * Int.ofNat n) := by
  by_cases hall : text.all Decimal.isDigit = true
  · have htake : text.takeWhile Decimal.isDigit = text :=
      List.takeWhile_eq_self_iff.mpr (List.all_eq_true.mp hall)
    have hdrop : text.dropWhile Decimal.isDigit = [] :=
      List.dropWhile_eq_nil_iff.mpr (List.all_eq_true.mp hall)
    rw [htake, hdrop]
    cases Decimal.read text with
    | none => rfl
    | some n => rfl
  · have hread : Decimal.read text = none := by
      unfold Decimal.read
      rw [if_neg (fun h => hall h.2)]
    have hdrop : text.dropWhile Decimal.isDigit ≠ [] := by
      intro h
      exact hall (List.all_eq_true.mpr (List.dropWhile_eq_nil_iff.mp h))
    rw [hread]
    cases hd : text.dropWhile Decimal.isDigit with
    | nil => exact absurd hd hdrop
    | cons b rest =>
        cases Decimal.read (text.takeWhile Decimal.isDigit) with
        | none => rfl
        | some n => rfl

/-- `strtol` reads what the text is, held within 64 bits. -/
theorem strtolWhole_eq (text : List (BitVec 8)) :
    strtolWhole text = (wholeNumber text).map clampInt64 := by
  have hplus (rest : List (BitVec 8)) := strtolWhole_digits 1 rest
  have hminus (rest : List (BitVec 8)) := strtolWhole_digits (-1) rest
  simp only [Int.one_mul, Int.neg_mul] at hplus hminus
  symm
  unfold strtolWhole strtol wholeNumber
  simp only [Int.one_mul, Int.neg_mul]
  generalize text.dropWhile isSpace = body
  split
  · rw [Option.map_map]
    exact (hplus _).symm
  · rw [Option.map_map]
    exact (hminus _).symm
  · simp only [Option.map_map]
    exact (hplus _).symm

/-- `parse_rv` reads the version a text has, held within 64 bits. -/
theorem parseRv_eq (value : JsonText) : parseRv value = (numericVersion value).map clampInt64 := by
  unfold parseRv numericVersion storedVersion
  cases value.parse with
  | none => rfl
  | some root =>
      cases hm : root.get "metadata" with
      | none => simp [hm]
      | some metadata =>
          simp only [Option.bind_eq_bind, Option.bind_some, hm]
          cases hrv : metadata.getString "resourceVersion" with
          | none => simp
          | some rv =>
              have hobj : metadata.isObject = true := by
                cases metadata with
                | obj fields => rfl
                | null | bool | int | str | arr => simp [Json.getString, Json.get] at hrv
              have hnil : wholeNumber [] = none := rfl
              by_cases h : rv = []
              · simp [h, hnil]
              · simp [h, hobj, strtolWhole_eq]

/-! ### The next version -/

/-- A numeral does not begin with a blank or a sign. -/
theorem dropWhile_write (n : Nat) : (Decimal.write n).dropWhile isSpace = Decimal.write n := by
  obtain ⟨hne, hdigits, -⟩ := Decimal.write_spec n
  cases hw : Decimal.write n with
  | nil => exact absurd hw hne
  | cons b rest =>
      have hb : Decimal.isDigit b = true := by
        rw [hw] at hdigits
        exact List.all_eq_true.mp hdigits b List.mem_cons_self
      have hspace : isSpace b = false := by
        simp only [Decimal.isDigit, Bool.and_eq_true, decide_eq_true_eq] at hb
        have h32 : b ≠ 32#8 := fun h => by
          rw [h] at hb
          exact absurd hb.1 (by decide)
        simp only [isSpace, Bool.or_eq_false_iff, beq_eq_false_iff_ne, Bool.and_eq_false_iff,
          decide_eq_false_iff_not]
        exact ⟨h32, Or.inr (by omega)⟩
      rw [List.dropWhile_cons, hspace]
      rfl

/-- A number written is the number. -/
theorem wholeNumber_toDecimal (n : Int) : wholeNumber (toDecimal n) = some n := by
  unfold toDecimal
  by_cases hn : n < 0
  · have habs : -Int.ofNat n.natAbs = n := by
      simp only [Int.ofNat_eq_natCast]
      omega
    rw [if_pos hn]
    show (Decimal.read (Decimal.write n.natAbs)).map (fun k => -Int.ofNat k) = some n
    rw [Decimal.read_write, Option.map_some, habs]
  · rw [if_neg hn]
    obtain ⟨hne, hdigits, -⟩ := Decimal.write_spec n.natAbs
    unfold wholeNumber
    rw [dropWhile_write]
    have habs : Int.ofNat n.natAbs = n := by
      simp only [Int.ofNat_eq_natCast]
      omega
    split
    · rename_i rest hw
      rw [hw] at hdigits
      exact absurd (List.all_eq_true.mp hdigits 43 List.mem_cons_self) (by decide)
    · rename_i rest hw
      rw [hw] at hdigits
      exact absurd (List.all_eq_true.mp hdigits 45 List.mem_cons_self) (by decide)
    · rw [Decimal.read_write, Option.map_some, habs]

/-- Numbers with one numeral are one number. -/
theorem toDecimal_inj {n m : Int} (h : toDecimal n = toDecimal m) : n = m := by
  have hsome : some n = some m := by rw [← wholeNumber_toDecimal n, h, wholeNumber_toDecimal]
  exact Option.some.inj hsome

/-- One more than a number read is above the text's number exactly below the last. -/
theorem lt_nextVersion (m : Int) :
    m < (BitVec.ofInt 64 (clampInt64 m + 1)).toInt ↔ m < lastVersion := by
  rw [BitVec.toInt_ofInt]
  unfold clampInt64 lastVersion
  rw [Int.bmod_def]
  omega

/-- The version that `offline_edit` writes is a number, and above that of the value before
exactly when that one is below the last. -/
theorem nextRv_grows (e : SnapshotEntry) : ∃ n, nextRv e = toDecimal n ∧
    ((∀ m, numericVersion e.value = some m → m < n) ↔
      ∀ m, numericVersion e.value = some m → m < lastVersion) := by
  -- Without a number before there is nothing to grow past.
  have hfree (n : Int) (hnone : numericVersion e.value = none) :
      (∀ m, numericVersion e.value = some m → m < n) ↔
        ∀ m, numericVersion e.value = some m → m < lastVersion := by
    simp [hnone]
  have hrv := parseRv_eq e.value
  unfold nextRv
  by_cases hempty : e.live = false ∧ e.value = .empty
  · rw [if_pos hempty]
    exact ⟨1, rfl, hfree 1 (by rw [hempty.2]; rfl)⟩
  rw [if_neg hempty]
  cases hn : numericVersion e.value with
  | none =>
      rw [hn] at hrv
      simp only [hrv, Option.map_none]
      exact ⟨2, rfl, by simp⟩
  | some m =>
      rw [hn] at hrv
      simp only [hrv, Option.map_some]
      refine ⟨_, rfl, ?_⟩
      simp only [Option.some.injEq, forall_eq']
      exact lt_nextVersion m

/-! ### What an edit stores -/

/-- The version that was stamped is the one stored. -/
theorem storedVersion_stampMetadata (rv : List (BitVec 8)) (now : SnapshotTime) (root : Json) :
    storedVersion (.doc (stampMetadata rv now root)) = some rv := by
  have hstamped (fields : List (String × Json)) (a b : Json) :
      Json.getString "resourceVersion" ((((Json.obj fields).set "resourceVersion" (.str rv)).set
        "updatedAt" a).set "updatedBy" b) = some rv := by
    have hA : "resourceVersion" ≠ "updatedAt" := by decide
    have hB : "resourceVersion" ≠ "updatedBy" := by decide
    unfold Json.getString
    simp only [Json.set, Json.get]
    rw [Json.getField_setField_of_ne hB, Json.getField_setField_of_ne hA, Json.getField_setField]
    rfl
  unfold storedVersion stampMetadata
  simp only [JsonText.parse, Option.bind_some, Json.get_set]
  split
  · exact hstamped _ _ _
  · exact hstamped _ _ _

namespace ConfigSnapshot

variable {s : ConfigSnapshot} {before : SnapshotKey → JsonText}

/-- An edit that is made stores the next version. -/
theorem storedVersion_offlineEdit {key : SnapshotKey} {value : JsonText}
    {summary : List (BitVec 8)} {now : SnapshotTime}
    (h : (s.offlineEdit key value summary now).1 = .success) :
    storedVersion ((s.offlineEdit key value summary now).2.held key) =
      some (nextRv ((s.entries.lookup key).getD .zero)) := by
  unfold offlineEdit at h ⊢
  cases hv : value.parse with
  | none => simp [hv] at h
  | some root =>
      simp only [hv] at h ⊢
      by_cases ho : root.isObject = false
      · rw [if_pos ho] at h
        cases h
      by_cases hi : s.initialized = false
      · rw [if_neg ho, if_pos hi] at h
        cases h
      rw [if_neg ho, if_neg hi]
      unfold held put
      rw [AList.lookup_insert]
      exact storedVersion_stampMetadata _ now root

/-- A restart finds the values as they were. -/
theorem held_reload (s : ConfigSnapshot) : s.reload.held = s.held := by
  have hmap (l : List (Sigma fun _ : SnapshotKey => SnapshotEntry)) (key : SnapshotKey) :
      (List.dlookup key
        (l.map fun kv => (⟨kv.1, { kv.2 with editSeq := 0 }⟩ :
          Sigma fun _ : SnapshotKey => SnapshotEntry))).map SnapshotEntry.value =
        (List.dlookup key l).map SnapshotEntry.value := by
    induction l with
    | nil => rfl
    | cons kv rest ih =>
        obtain ⟨k, e⟩ := kv
        by_cases hk : key = k
        · rw [hk, List.map_cons, List.dlookup_cons_eq, List.dlookup_cons_eq]
          rfl
        · rw [List.map_cons, List.dlookup_cons_ne _ _ hk, List.dlookup_cons_ne _ _ hk, ih]
  have hvalue (o : Option SnapshotEntry) :
      (o.getD .zero).value = (o.map SnapshotEntry.value).getD .empty := by
    cases o with
    | none => rfl
    | some e => rfl
  funext key
  unfold held reload loaded
  rw [AList.lookup_to_alist, hvalue, hvalue, hmap]
  rfl

/-- What was held before an event is what the entries hold. -/
theorem heldAfter_event (s : ConfigSnapshot) (e : SnapshotEvent) :
    heldAfter s.held s e = (s.event e).held := by
  cases e with
  | op op => rfl
  | restart => exact (held_reload s).symm

/-- At one event. -/
theorem editGrows_iff (s : ConfigSnapshot) (e : SnapshotEvent) :
    EditGrows s.held s e ↔ EditFits s.held s e := by
  cases e with
  | restart => exact Iff.rfl
  | op op =>
      cases op with
      | offlineEdit key value summary now =>
          obtain ⟨n, hn, hgrows⟩ := nextRv_grows ((s.entries.lookup key).getD .zero)
          refine ⟨?_, ?_⟩
          · intro h hok
            obtain ⟨n', hn', hlt⟩ := h hok
            rw [storedVersion_offlineEdit hok, hn] at hn'
            have heq : n = n' := toDecimal_inj (Option.some.inj hn')
            exact hgrows.mp (by rw [heq]; exact hlt)
          · intro h hok
            refine ⟨n, ?_, hgrows.mpr (h hok)⟩
            rw [storedVersion_offlineEdit hok, hn]
      | offlineDelete | watchUpdate | copyDirty | clearCopied => exact Iff.rfl

/--
**Offline versions only grow, below the last number of 64 bits.**  In a run of edits, deletions,
watch updates, reports and restarts, from any entries, each edit that is made is stamped with a
number, and that number is above the version that the entry's value had before, in its tombstone
too, exactly when no edit starts at the last number or beyond it.
-/
theorem versions_grow_iff (s : ConfigSnapshot) (es : List SnapshotEvent) :
    VersionsGrow s.held s es ↔ VersionsFit s.held s es := by
  induction es generalizing s with
  | nil => exact Iff.rfl
  | cons e es ih =>
      unfold VersionsGrow VersionsFit
      rw [heldAfter_event, editGrows_iff, ih]

/-- The controller's version is the last number: the edit after it is stamped with the first. -/
theorem versions_shrink : ∃ (s : ConfigSnapshot) (es : List SnapshotEvent),
    ¬ VersionsGrow s.held s es := by
  refine ⟨loaded (AList.singleton (.dns, [49])
      { SnapshotEntry.zero with
        value := .doc (.obj [("metadata",
          .obj [("resourceVersion", .str (asciiBytes "9223372036854775807"))])])
        live := true }),
    [.op (.offlineEdit (.dns, [49]) (.doc (.obj [])) [] ⟨0, []⟩)], ?_⟩
  intro h
  obtain ⟨n, hn, hlt⟩ := h.1 (by decide)
  have hstored : some (toDecimal n) = some (toDecimal (-0x8000000000000000)) := by
    rw [← hn]
    decide
  have hheld := hlt 0x7fffffffffffffff (by decide)
  rw [toDecimal_inj (Option.some.inj hstored)] at hheld
  omega

end ConfigSnapshot

end FastRG
