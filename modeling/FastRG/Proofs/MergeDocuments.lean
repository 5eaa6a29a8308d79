/-
What a field merge makes of a document.

The kinds with a DNS record or a port mapping edit one list of the document by the texts of its
items, and write it back: the DNS records are a member of the document itself, the port mappings
one of its configuration, where they are numbered too.  A merge is accepted when every item of
the list, and the one it brings, has a text, and then the document it puts out can be merged into
again (`mergeRecords_iff`, `mergeMappings_iff`).
-/
import FastRG.Lib.KeyedEdit
import FastRG.SnapshotMerge

namespace FastRG

/-! ### The parts of a document -/

/-- The document that a value is, if it is one. -/
def docOf (t : Option JsonText) : Json := (t.bind JsonText.parse).getD .null

/-- Its configuration. -/
def configOf (t : Option JsonText) : Json := ((docOf t).get "config").getD .null

/-- Its DNS records. -/
def recordsOf (t : Option JsonText) : List Json := arrayOr "records" (docOf t)

/-- Its port mappings. -/
def mappingsOf (t : Option JsonText) : List Json := arrayOr "port-mapping" (configOf t)

/-- Two documents have the same members but for one. -/
def SameBut (name : String) (a b : Json) : Prop := ∀ name' ≠ name, a.get name' = b.get name'

theorem sameBut_set (name : String) (v : Json) (j : Json) : SameBut name (j.set name v) j := by
  intro name' h
  exact Json.get_set_ne h v j

@[simp] theorem docOf_doc (j : Json) : docOf (some (.doc j)) = j := rfl

@[simp] theorem arrayOr_set (name : String) (l : List Json) (j : Json) :
    arrayOr name (j.set name (.arr l)) = l := by
  unfold arrayOr Json.getArray
  rw [Json.get_set]
  rfl

/-- The texts of the items do not depend on their numbers. -/
theorem jsonString_set {name name' : String} (h : name' ≠ name) (v : Json) (j : Json) :
    jsonString name' (j.set name v) = jsonString name' j := by
  unfold jsonString Json.getString
  rw [Json.get_set_ne h]

/-! ### Edits of the lists -/

theorem upsert_eq (name : String) (entry : Json) (l : List Json) :
    upsert name entry l = (KeyedEdit.put entry).apply (jsonString name) l := by
  show upsert name entry l = putBy (jsonString name) entry l
  induction l with
  | nil => rfl
  | cons item rest ih => rw [upsert, putBy, ih]

/-- An item has a text. -/
def isNamed (name : String) (item : Json) : Bool := item.isObject && (item.getString name).isSome

/-- An edit whose item has a text. -/
def usable (name : String) : KeyedEdit Json (List (BitVec 8)) → Bool
  | .put entry => isNamed name entry
  | .drop _ => true

theorem isNamed_iff {name : String} {item : Json} :
    (item.isObject = false ∨ item.getString name = none) ↔ isNamed name item = false := by
  unfold isNamed
  cases item.isObject with
  | true => cases item.getString name with
    | none => simp
    | some text => simp
  | false => simp

/-- An accepted edit of a list with texts leaves one. -/
theorem allNamed_apply {name : String} {e : KeyedEdit Json (List (BitVec 8))} {l : List Json}
    (he : usable name e = true) (hl : allNamed name l = true) :
    allNamed name (e.apply (jsonString name) l) = true := by
  refine List.all_eq_true.mpr ?_
  intro item hitem
  rcases KeyedEdit.mem_apply hitem with hold | hnew
  · exact List.all_eq_true.mp hl item hold
  · rw [hnew] at he
    exact he

/-- What an edit of the list of a kind is. -/
def FieldEdit.keyed : FieldEdit → Option (KeyedEdit Json (List (BitVec 8)))
  | .snatUpsert value | .dnsAdd value => value.parse.map .put
  | .snatRemove value | .dnsDel value => some (.drop value)
  | .dnsProxy _ | .tcpConntrack _ | .ipv6 _ | .desire _ => none

/-- Where the items of that list have their texts. -/
def FieldEdit.textMember : FieldEdit → Option String
  | .dnsAdd _ | .dnsDel _ => some "domain"
  | .snatUpsert _ | .snatRemove _ => some "eport"
  | .dnsProxy _ | .tcpConntrack _ | .ipv6 _ | .desire _ => none

/-! ### DNS records -/

/-- The document a DNS kind edits: the value, or a new one. -/
def envelope (current : Option JsonText) : Json :=
  match current.bind JsonText.parse with
  | some (.obj fields) => .obj fields
  | _ => .obj []

theorem sameBut_envelope (current : Option JsonText) :
    ∀ name, (envelope current).get name = (docOf current).get name := by
  intro name
  unfold envelope docOf
  cases current.bind JsonText.parse with
  | none => rfl
  | some j =>
      cases j with
      | obj fields => rfl
      | null | bool | int | str | arr => rfl

theorem arrayOr_envelope (current : Option JsonText) :
    arrayOr "records" (envelope current) = recordsOf current := by
  unfold recordsOf arrayOr Json.getArray
  rw [sameBut_envelope]

/-- The records of a document edited. -/
def editRecords (e : KeyedEdit Json (List (BitVec 8))) (records : List Json) :
    Option (List Json) :=
  if usable "domain" e then some (e.apply (jsonString "domain") records) else none

theorem mergeRecords_iff {current : Option JsonText} {e : KeyedEdit Json (List (BitVec 8))}
    {out : JsonText} :
    mergeDns current (editRecords e) = some out ↔
      allNamed "domain" (recordsOf current) = true ∧ usable "domain" e = true ∧
        out = .doc ((envelope current).set "records"
          (.arr (e.apply (jsonString "domain") (recordsOf current)))) := by
  have hcall : mergeDns current (editRecords e) =
      if allNamed "domain" (recordsOf current) = false then none
      else (editRecords e (recordsOf current)).bind fun l =>
        some (.doc ((envelope current).set "records" (.arr l))) := by
    rw [← arrayOr_envelope]
    rfl
  rw [hcall]
  unfold editRecords
  cases allNamed "domain" (recordsOf current) with
  | false => simp
  | true =>
      cases usable "domain" e with
      | false => simp
      | true => simp [eq_comm]

/-- The kinds that edit DNS records. -/
theorem fieldMerge_records {current : Option JsonText} {edit : FieldEdit}
    {e : KeyedEdit Json (List (BitVec 8))} (hmember : edit.textMember = some "domain")
    (hkeyed : edit.keyed = some e) (hcurrent : ∀ value, edit = .dnsDel value → current ≠ none) :
    fieldMerge current edit = mergeDns current (editRecords e) := by
  cases edit with
  | dnsAdd value =>
      obtain ⟨entry, hparse, hput⟩ := Option.map_eq_some_iff.mp hkeyed
      refine congrArg (mergeDns current) ?_
      funext records
      unfold upsertRecord editRecords
      rw [hparse, ← hput]
      show (if entry.isObject = false ∨ entry.getString "domain" = none then _ else _) =
        if isNamed "domain" entry = true then _ else _
      rw [upsert_eq]
      cases hnamed : isNamed "domain" entry with
      | true => rw [if_neg (fun h => by simp [isNamed_iff.mp h] at hnamed), if_pos rfl]
      | false => rw [if_pos (isNamed_iff.mpr hnamed), if_neg (by simp)]
  | dnsDel value =>
      cases hkeyed
      exact if_neg (hcurrent value rfl)
  | snatUpsert | snatRemove | dnsProxy | tcpConntrack | ipv6 | desire =>
      simp [FieldEdit.textMember] at hmember

/-- An accepted kind of these has an edit. -/
theorem keyed_of_records {current : Option JsonText} {edit : FieldEdit} {out : JsonText}
    (hmember : edit.textMember = some "domain") (h : fieldMerge current edit = some out) :
    ∃ e, edit.keyed = some e ∧ mergeDns current (editRecords e) = some out := by
  cases edit with
  | dnsAdd value =>
      cases hparse : value.parse with
      | none =>
          have hnone : upsertRecord value = fun _ => none := by
            funext records
            unfold upsertRecord
            rw [hparse]
            rfl
          have hmerge : mergeDns current (upsertRecord value) = some out := h
          rw [hnone] at hmerge
          unfold mergeDns at hmerge
          simp at hmerge
      | some entry =>
          have hkeyed : (FieldEdit.dnsAdd value).keyed = some (.put entry) :=
            congrArg (Option.map KeyedEdit.put) hparse
          rw [fieldMerge_records hmember hkeyed (fun _ hdel => by cases hdel)] at h
          exact ⟨.put entry, hkeyed, h⟩
  | dnsDel value =>
      have hcurrent : current ≠ none := by
        intro hnone
        rw [hnone] at h
        cases h
      rw [fieldMerge_records hmember rfl fun _ _ => hcurrent] at h
      exact ⟨.drop value, rfl, h⟩
  | snatUpsert | snatRemove | dnsProxy | tcpConntrack | ipv6 | desire =>
      simp [FieldEdit.textMember] at hmember

/-! ### Port mappings -/

/-- A mapping without its number. -/
def unnumbered (item : Json) : Json := item.set "index" .null

theorem jsonString_unnumbered (item : Json) :
    jsonString "eport" (unnumbered item) = jsonString "eport" item :=
  jsonString_set (by decide) _ item

theorem map_unnumbered_renumber (l : List Json) :
    (renumber l).map unnumbered = l.map unnumbered := by
  unfold renumber
  rw [List.map_map, ← List.zipIdx_map_fst 0 l, List.map_map, List.zipIdx_map_fst]
  refine List.map_congr_left ?_
  intro x _
  exact Json.set_set ..

/-- The numbers are those of the places, whatever they were. -/
theorem renumber_unnumbered (l : List Json) : renumber (l.map unnumbered) = renumber l := by
  unfold renumber
  rw [List.zipIdx_map, List.map_map]
  refine List.map_congr_left ?_
  intro x _
  exact Json.set_set ..

theorem renumber_congr {l l' : List Json} (h : l.map unnumbered = l'.map unnumbered) :
    renumber l = renumber l' := by
  rw [← renumber_unnumbered l, h, renumber_unnumbered]

theorem allNamed_renumber {l : List Json} (h : allNamed "eport" l = true) :
    allNamed "eport" (renumber l) = true := by
  refine List.all_eq_true.mpr ?_
  intro item hitem
  obtain ⟨x, hx, heq⟩ := List.mem_map.mp hitem
  have hold := List.all_eq_true.mp h x.1 (List.fst_mem_of_mem_zipIdx hx)
  rw [← heq]
  show ((x.1.set "index" _).isObject && (((x.1.set "index" _).getString "eport").isSome)) = true
  unfold Json.getString
  rw [Json.isObject_set, Json.get_set_ne (by decide)]
  exact (Bool.and_eq_true_iff.mp hold).2

/-- The port mappings of a configuration edited. -/
def editMappings (e : KeyedEdit Json (List (BitVec 8))) (cfg : Json) : Option Json :=
  if allNamed "eport" (arrayOr "port-mapping" cfg) && usable "eport" e then
    some (cfg.set "port-mapping"
      (.arr (renumber (e.apply (jsonString "eport") (arrayOr "port-mapping" cfg)))))
  else none

/-- The configuration that an HSI kind edits. -/
def configIn (doc : Json) : Option Json :=
  match doc.get "config" with
  | some (.obj fields) => some (.obj fields)
  | some .null => some (.obj [])
  | _ => none

theorem mergeConfig_eq (current : Option JsonText) (edit : Json → Option Json) :
    mergeConfig current edit = (current.bind JsonText.parse).bind fun doc =>
      (configIn doc).bind fun cfg => (edit cfg).map fun cfg' => .doc (doc.set "config" cfg') := by
  unfold mergeConfig configIn
  cases current.bind JsonText.parse with
  | none => rfl
  | some doc =>
      simp only [Option.bind_eq_bind, Option.bind_some]
      cases doc.get "config" with
      | none => rfl
      | some cfg =>
          cases cfg with
          | obj fields => exact Option.map_eq_bind.symm
          | null => exact Option.map_eq_bind.symm
          | bool | int | str | arr => rfl

theorem configIn_set {cfg : Json} (h : cfg.isObject = true) (doc : Json) :
    configIn (doc.set "config" cfg) = some cfg := by
  unfold configIn
  rw [Json.get_set]
  cases cfg with
  | obj fields => rfl
  | null | bool | int | str | arr => cases h

/-- The configuration edited has the members of the document's. -/
theorem get_configIn {doc cfg : Json} (h : configIn doc = some cfg) (name : String) :
    cfg.get name = ((doc.get "config").getD .null).get name := by
  unfold configIn at h
  cases hget : doc.get "config" with
  | none => simp [hget] at h
  | some c =>
      rw [hget] at h
      cases c with
      | obj fields => cases h; rfl
      | null => cases h; rfl
      | bool | int | str | arr => cases h

theorem mergeMappings_iff {current : Option JsonText} {e : KeyedEdit Json (List (BitVec 8))}
    {out : JsonText} :
    mergeConfig current (editMappings e) = some out ↔
      ∃ cfg, current.bind JsonText.parse = some (docOf current) ∧
        configIn (docOf current) = some cfg ∧
        allNamed "eport" (mappingsOf current) = true ∧ usable "eport" e = true ∧
        out = .doc ((docOf current).set "config" (cfg.set "port-mapping"
          (.arr (renumber (e.apply (jsonString "eport") (mappingsOf current)))))) := by
  rw [mergeConfig_eq]
  unfold mappingsOf configOf docOf
  cases current.bind JsonText.parse with
  | none => simp
  | some doc =>
      simp only [Option.bind_some, Option.getD_some, true_and]
      cases hcfg : configIn doc with
      | none => simp
      | some cfg =>
          have hitems : arrayOr "port-mapping" cfg =
              arrayOr "port-mapping" ((doc.get "config").getD .null) := by
            unfold arrayOr Json.getArray
            rw [get_configIn hcfg]
          simp only [Option.bind_some, editMappings, hitems]
          generalize arrayOr "port-mapping" ((doc.get "config").getD .null) = items
          cases allNamed "eport" items with
          | false => simp
          | true =>
              cases usable "eport" e with
              | false => simp
              | true => simp [eq_comm]

/-- The kinds that edit port mappings. -/
theorem fieldMerge_mappings {current : Option JsonText} {edit : FieldEdit}
    {e : KeyedEdit Json (List (BitVec 8))} (hmember : edit.textMember = some "eport")
    (hkeyed : edit.keyed = some e) :
    fieldMerge current edit = mergeConfig current (editMappings e) := by
  cases edit with
  | snatUpsert value =>
      obtain ⟨entry, hparse, hput⟩ := Option.map_eq_some_iff.mp hkeyed
      refine congrArg (mergeConfig current) ?_
      funext cfg
      unfold upsertMapping editMappings
      rw [hparse, ← hput]
      show (if entry.isObject = false ∨ entry.getString "eport" = none then _ else _) =
        if (_ && isNamed "eport" entry) = true then _ else _
      simp only [upsert_eq]
      cases hnamed : isNamed "eport" entry with
      | true =>
          rw [if_neg (fun h => by simp [isNamed_iff.mp h] at hnamed)]
          cases allNamed "eport" (arrayOr "port-mapping" cfg) with
          | true => rfl
          | false => rfl
      | false => rw [if_pos (isNamed_iff.mpr hnamed), if_neg (by simp)]
  | snatRemove value =>
      cases hkeyed
      refine congrArg (mergeConfig current) ?_
      funext cfg
      unfold removeMapping editMappings
      simp only
      cases allNamed "eport" (arrayOr "port-mapping" cfg) with
      | true => rfl
      | false => rfl
  | dnsAdd | dnsDel | dnsProxy | tcpConntrack | ipv6 | desire =>
      simp [FieldEdit.textMember] at hmember

/-- An accepted kind of these has an edit. -/
theorem keyed_of_mappings {current : Option JsonText} {edit : FieldEdit} {out : JsonText}
    (hmember : edit.textMember = some "eport") (h : fieldMerge current edit = some out) :
    ∃ e, edit.keyed = some e ∧ mergeConfig current (editMappings e) = some out := by
  have hkeyed : ∃ e, edit.keyed = some e := by
    cases edit with
    | snatUpsert value =>
        cases hparse : value.parse with
        | none =>
            have hnone : upsertMapping value = fun _ => none := by
              funext cfg
              unfold upsertMapping
              rw [hparse]
              rfl
            have hmerge : mergeConfig current (upsertMapping value) = some out := h
            rw [hnone, mergeConfig_eq] at hmerge
            simp at hmerge
        | some entry => exact ⟨.put entry, congrArg (Option.map KeyedEdit.put) hparse⟩
    | snatRemove value => exact ⟨.drop value, rfl⟩
    | dnsAdd | dnsDel | dnsProxy | tcpConntrack | ipv6 | desire =>
        simp [FieldEdit.textMember] at hmember
  obtain ⟨e, he⟩ := hkeyed
  rw [fieldMerge_mappings hmember he] at h
  exact ⟨e, he, h⟩

end FastRG
