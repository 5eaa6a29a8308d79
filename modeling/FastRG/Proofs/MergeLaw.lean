/-
When a field merge is an edit of the map.

All that a merge leaves, and that it may be made again or change places with another, is in
`MergeLaw` and always holds.  Whether the map has the new value, or none, is decided by the other
items of the list.  An addition writes over the first item with exactly its text, and the last item
for a name or port is the one that counts; a removal takes out the items with exactly its text,
and the node reads other texts as the same name or port too.
-/
import FastRG.Proofs.MergeMap

namespace FastRG

/-! ### Toggles -/

/-- An edit that sets one member of the configuration. -/
theorem config_toggle {current : Option JsonText} {out : JsonText} {name : String} {v : Json}
    (h : mergeConfig current (fun cfg => some (cfg.set name v)) = some out) :
    ConfigKept name current out ∧
      mergeConfig (some out) (fun cfg => some (cfg.set name v)) = some out := by
  rw [mergeConfig_eq] at h
  obtain ⟨doc, hdoc, h⟩ := Option.bind_eq_some_iff.mp h
  obtain ⟨cfg, hcfg, h⟩ := Option.bind_eq_some_iff.mp h
  have hout : JsonText.doc (doc.set "config" (cfg.set name v)) = out := Option.some.inj h
  have hcurrent : docOf current = doc := by
    unfold docOf
    rw [hdoc]
    rfl
  refine ⟨⟨?_, ?_⟩, ?_⟩
  · rw [← hout, hcurrent]
    exact sameBut_set _ _ _
  · intro name' hname
    rw [← hout]
    unfold configOf
    rw [docOf_doc, Json.get_set, hcurrent]
    exact (Json.get_set_ne hname _ _).trans (get_configIn hcfg name')
  · rw [mergeConfig_eq, ← hout]
    show (configIn (doc.set "config" (cfg.set name v))).bind _ = _
    rw [configIn_set (Json.isObject_set ..)]
    simp

/-! ### When an edit is shown -/

/-- The items before the first with the text of another. -/
def itemsBefore (name : String) (entry : Json) (items : List Json) : List Json :=
  items.takeWhile fun item => jsonString name item ≠ jsonString name entry

/-- The items after it. -/
def itemsAfter (name : String) (entry : Json) (items : List Json) : List Json :=
  (items.dropWhile fun item => jsonString name item ≠ jsonString name entry).tail

/-- When an edit of a document is the last word on its name or port.

An item added can be read, and so can those before it and after it; none of those after it says
something else of the same name or port; and of DNS records it is among the first, all of whose
addresses can be read.  Of the items left by a removal none says something of what was removed. -/
def FieldEdit.Newest (current : Option JsonText) : FieldEdit → Prop
  | .dnsAdd value => ∃ entry w v older later, value.parse = some entry ∧
      parseDnsRecordFromJson entry = some (some w) ∧
      w.tells (w.domain.map toLower) = some v ∧
      readAll parseDnsRecordFromJson (itemsBefore "domain" entry (recordsOf current)) =
        some older ∧
      readAll parseDnsRecordFromJson (itemsAfter "domain" entry (recordsOf current)) =
        some later ∧
      (∀ x ∈ (older ++ w :: later).take dnsStaticMaxRecords, inetPton x.ip ≠ none) ∧
      (older.length < dnsStaticMaxRecords → ∀ v',
        lastWins (DnsRecordConfig.tells (w.domain.map toLower))
          (later.take (dnsStaticMaxRecords - older.length - 1)) = some v' → v' = v) ∧
      (dnsStaticMaxRecords ≤ older.length →
        lastWins (DnsRecordConfig.tells (w.domain.map toLower))
          (older.take dnsStaticMaxRecords) = some v)
  | .dnsDel value => ∀ left, readAll parseDnsRecordFromJson
        (dropBy (jsonString "domain") value (recordsOf current)) = some left →
      (∀ w ∈ left.take dnsStaticMaxRecords, inetPton w.ip ≠ none) →
      ∀ w ∈ left.take dnsStaticMaxRecords, w.domain.map toLower ≠ domainKey value
  | .snatUpsert value => ∃ entry m v older later, value.parse = some entry ∧
      parsePortMapping entry = some (some m) ∧ m.forwards m.eport = some v ∧
      readAll parsePortMapping (itemsBefore "eport" entry (mappingsOf current)) = some older ∧
      readAll parsePortMapping (itemsAfter "eport" entry (mappingsOf current)) = some later ∧
      ∀ v', lastMapping later m.eport = some v' → v' = v
  | .snatRemove value => ∀ port, portKey value = some port → ∀ left, readAll parsePortMapping
        (dropBy (jsonString "eport") value (mappingsOf current)) = some left →
      ∀ m ∈ left, m.eport = port → parseIp m.dip = none
  | .dnsProxy _ | .tcpConntrack _ | .ipv6 _ | .desire _ => True

theorem shown_dnsAdd {current : Option JsonText} {out : JsonText} {value : JsonText} {entry : Json}
    (hparse : value.parse = some entry)
    (h : mergeDns current (editRecords (.put entry)) = some out) :
    (FieldEdit.dnsAdd value).Shown out ↔ (FieldEdit.dnsAdd value).Newest current := by
  have htold (name : List (BitVec 8)) : domainTold (some out) name =
      (readAll parseDnsRecordFromJson (itemsBefore "domain" entry (recordsOf current) ++
        entry :: itemsAfter "domain" entry (recordsOf current))).bind fun records =>
          recordsTell records name := by
    rw [domainTold_eq, recordsOf_merged h]
    exact congrArg (fun l => (readAll parseDnsRecordFromJson l).bind fun records =>
      recordsTell records name) (putBy_eq entry (recordsOf current))
  refine ⟨?_, ?_⟩
  · intro hshown
    obtain ⟨entry', w, v, hparse', hread, hv, hname⟩ := hshown
    rw [hparse] at hparse'
    cases hparse'
    rw [htold] at hname
    obtain ⟨records, hrecords, htell⟩ := Option.bind_eq_some_iff.mp hname
    obtain ⟨older, later, holder, hlater, heq⟩ := (readAll_around hread _ _ _).mp hrecords
    rw [heq, recordsTell_eq_some] at htell
    obtain ⟨hlast, hfull⟩ := (lastWins_take_around hv older later _).mp htell.2
    exact ⟨entry, w, v, older, later, hparse, hread, hv, holder, hlater, htell.1, hlast, hfull⟩
  · intro hnewest
    obtain ⟨entry', w, v, older, later, hparse', hread, hv, holder, hlater, hip, hlast, hfull⟩ :=
      hnewest
    rw [hparse] at hparse'
    cases hparse'
    refine ⟨entry, w, v, hparse, hread, hv, ?_⟩
    rw [htold, (readAll_around hread _ _ _).mpr ⟨older, later, holder, hlater, rfl⟩]
    exact recordsTell_eq_some.mpr ⟨hip, (lastWins_take_around hv older later _).mpr
      ⟨hlast, hfull⟩⟩

theorem shown_dnsDel {current : Option JsonText} {out : JsonText} {value : List (BitVec 8)}
    (h : mergeDns current (editRecords (.drop value)) = some out) :
    (FieldEdit.dnsDel value).Shown out ↔ (FieldEdit.dnsDel value).Newest current := by
  show domainTold (some out) (domainKey value) = none ↔ _
  rw [domainTold_eq, recordsOf_merged h]
  show (readAll parseDnsRecordFromJson
    (dropBy (jsonString "domain") value (recordsOf current))).bind _ = none ↔ _
  rw [Option.bind_eq_none_iff]
  refine ⟨?_, ?_⟩
  · intro hnone left hleft
    exact recordsTell_eq_none.mp (hnone left hleft)
  · intro hnewest left hleft
    exact recordsTell_eq_none.mpr (hnewest left hleft)

theorem shown_snatUpsert {current : Option JsonText} {out : JsonText} {value : JsonText}
    {entry : Json} (hparse : value.parse = some entry)
    (h : mergeConfig current (editMappings (.put entry)) = some out) :
    (FieldEdit.snatUpsert value).Shown out ↔ (FieldEdit.snatUpsert value).Newest current := by
  have htold (port : BitVec 16) : portTold (some out) port =
      (readAll parsePortMapping (itemsBefore "eport" entry (mappingsOf current) ++
        entry :: itemsAfter "eport" entry (mappingsOf current))).bind fun mappings =>
          lastMapping mappings port := by
    rw [portTold_merged h]
    exact congrArg (fun l => (readAll parsePortMapping l).bind fun mappings =>
      lastMapping mappings port) (putBy_eq entry (mappingsOf current))
  refine ⟨?_, ?_⟩
  · intro hshown
    obtain ⟨entry', m, v, hparse', hread, hv, hport⟩ := hshown
    rw [hparse] at hparse'
    cases hparse'
    rw [htold] at hport
    obtain ⟨mappings, hmappings, htell⟩ := Option.bind_eq_some_iff.mp hport
    obtain ⟨older, later, holder, hlater, heq⟩ := (readAll_around hread _ _ _).mp hmappings
    rw [heq] at htell
    exact ⟨entry, m, v, older, later, hparse, hread, hv, holder, hlater,
      (lastWins_around hv older later).mp htell⟩
  · intro hnewest
    obtain ⟨entry', m, v, older, later, hparse', hread, hv, holder, hlater, hlast⟩ := hnewest
    rw [hparse] at hparse'
    cases hparse'
    refine ⟨entry, m, v, hparse, hread, hv, ?_⟩
    rw [htold, (readAll_around hread _ _ _).mpr ⟨older, later, holder, hlater, rfl⟩]
    exact (lastWins_around hv older later).mpr hlast

theorem shown_snatRemove {current : Option JsonText} {out : JsonText} {value : List (BitVec 8)}
    (h : mergeConfig current (editMappings (.drop value)) = some out) :
    (FieldEdit.snatRemove value).Shown out ↔ (FieldEdit.snatRemove value).Newest current := by
  refine forall_congr' fun port => imp_congr_right fun _ => ?_
  rw [portTold_merged h]
  show (readAll parsePortMapping
    (dropBy (jsonString "eport") value (mappingsOf current))).bind _ = none ↔ _
  rw [Option.bind_eq_none_iff]
  refine forall_congr' fun left => imp_congr_right fun _ => ?_
  rw [lastMapping, lastWins_eq_none_iff]
  refine forall_congr' fun m => imp_congr_right fun _ => ?_
  unfold PortMapping.forwards
  by_cases hport : m.eport = port
  · rw [if_pos hport, Option.map_eq_none_iff]
    exact ⟨fun hdip _ => hdip, fun hdip => hdip hport⟩
  · rw [if_neg hport]
    exact ⟨fun _ heq => absurd heq hport, fun _ => rfl⟩

/-! ### All kinds -/

/-- The law of a kind that edits DNS records, but for what the node makes of them. -/
theorem mergeLaw_records {current : Option JsonText} {edit : FieldEdit} {out : JsonText}
    (hmember : edit.textMember = some "domain") (h : fieldMerge current edit = some out) :
    edit.Kept current out ∧ fieldMerge (some out) edit = some out ∧
      ∀ other out', edit.Apart other → fieldMerge current other = some out' →
        ∃ a b, fieldMerge (some out) other = some a ∧ fieldMerge (some out') edit = some b ∧
          SameButOrder a b := by
  obtain ⟨e, hkeyed, hmerge⟩ := keyed_of_records hmember h
  have hnext (t : JsonText) {edit' : FieldEdit} {e' : KeyedEdit Json (List (BitVec 8))}
      (hmember' : edit'.textMember = some "domain") (hkeyed' : edit'.keyed = some e') :
      fieldMerge (some t) edit' = mergeDns (some t) (editRecords e') :=
    fieldMerge_records hmember' hkeyed' fun _ _ => Option.some_ne_none t
  refine ⟨?_, ?_, ?_⟩
  · have hkept := recordsKept_merged hmerge
    cases edit with
    | dnsAdd value =>
        intro entry hparse
        have hput : (FieldEdit.dnsAdd value).keyed = some (.put entry) :=
          congrArg (Option.map KeyedEdit.put) hparse
        rw [hput] at hkeyed
        cases hkeyed
        exact hkept
    | dnsDel value =>
        cases hkeyed
        exact hkept
    | snatUpsert | snatRemove | dnsProxy | tcpConntrack | ipv6 | desire =>
        simp [FieldEdit.textMember] at hmember
  · rw [hnext out hmember hkeyed]
    exact mergeRecords_again hmerge
  · intro other out' hapart h'
    obtain ⟨name, e₁, e', hname, hmember', hkeyed₁, hkeyed', hne⟩ := hapart
    rw [hmember] at hname
    rw [hkeyed] at hkeyed₁
    cases hname
    cases hkeyed₁
    obtain ⟨e₂, hkeyed₂, hmerge'⟩ := keyed_of_records hmember' h'
    rw [hkeyed'] at hkeyed₂
    cases hkeyed₂
    rw [hnext out hmember' hkeyed', hnext out' hmember hkeyed]
    exact mergeRecords_commute hmerge hmerge' hne

/-- The law of a kind that edits port mappings, but for what the node makes of them. -/
theorem mergeLaw_mappings {current : Option JsonText} {edit : FieldEdit} {out : JsonText}
    (hmember : edit.textMember = some "eport") (h : fieldMerge current edit = some out) :
    edit.Kept current out ∧ fieldMerge (some out) edit = some out ∧
      ∀ other out', edit.Apart other → fieldMerge current other = some out' →
        ∃ a b, fieldMerge (some out) other = some a ∧ fieldMerge (some out') edit = some b ∧
          SameButOrder a b := by
  obtain ⟨e, hkeyed, hmerge⟩ := keyed_of_mappings hmember h
  refine ⟨?_, ?_, ?_⟩
  · have hkept := mappingsKept_merged hmerge
    cases edit with
    | snatUpsert value =>
        intro entry hparse
        have hput : (FieldEdit.snatUpsert value).keyed = some (.put entry) :=
          congrArg (Option.map KeyedEdit.put) hparse
        rw [hput] at hkeyed
        cases hkeyed
        exact hkept
    | snatRemove value =>
        cases hkeyed
        exact hkept
    | dnsAdd | dnsDel | dnsProxy | tcpConntrack | ipv6 | desire =>
        simp [FieldEdit.textMember] at hmember
  · rw [fieldMerge_mappings hmember hkeyed]
    exact mergeMappings_again hmerge
  · intro other out' hapart h'
    obtain ⟨name, e₁, e', hname, hmember', hkeyed₁, hkeyed', hne⟩ := hapart
    rw [hmember] at hname
    rw [hkeyed] at hkeyed₁
    cases hname
    cases hkeyed₁
    obtain ⟨e₂, hkeyed₂, hmerge'⟩ := keyed_of_mappings hmember' h'
    rw [hkeyed'] at hkeyed₂
    cases hkeyed₂
    rw [fieldMerge_mappings hmember' hkeyed', fieldMerge_mappings hmember hkeyed]
    exact mergeMappings_commute hmerge hmerge' hne

/-- The law of a toggle. -/
theorem mergeLaw_toggle {current : Option JsonText} {edit : FieldEdit} {out : JsonText}
    {name : String} {v : Json}
    (hmerge : ∀ t, fieldMerge t edit = mergeConfig t fun cfg => some (cfg.set name v))
    (hkept : ConfigKept name current out → edit.Kept current out) (hshown : edit.Shown out)
    (hmember : edit.textMember = none) (h : fieldMerge current edit = some out) :
    MergeLaw current edit out := by
  rw [hmerge] at h
  obtain ⟨hconfig, hagain⟩ := config_toggle h
  refine ⟨hshown, hkept hconfig, (hmerge _).trans hagain, ?_⟩
  intro other out' hapart _
  obtain ⟨name, -, -, hname, -⟩ := hapart
  rw [hmember] at hname
  cases hname

/--
**Field merges are edits of a map where theirs is the last word.**  On an error there is no
output.  For an output: the value in force for the name or port is the new one, or none, nothing
else of the document has changed, the merge made again changes nothing, and merges about different
texts may change places but for the order of the list, exactly when no item left behind says
something else of that name or port.
-/
theorem fieldMerge_map_iff (current : Option JsonText) (edit : FieldEdit) :
    ((configSnapshotFieldMerge current edit).1 = .error →
      (configSnapshotFieldMerge current edit).2 = none) ∧
    ∀ out, configSnapshotFieldMerge current edit = (.success, some out) →
      (MergeLaw current edit out ↔ edit.Newest current) := by
  refine ⟨?_, ?_⟩
  · unfold configSnapshotFieldMerge
    intro herror
    cases h : fieldMerge current edit with
    | none => rfl
    | some out =>
        rw [h] at herror
        cases herror
  · intro out hcall
    have h : fieldMerge current edit = some out := by
      unfold configSnapshotFieldMerge at hcall
      cases hmerge : fieldMerge current edit with
      | none =>
          rw [hmerge] at hcall
          cases hcall
      | some merged =>
          rw [hmerge] at hcall
          cases hcall
          rfl
    cases edit with
    | dnsAdd value =>
        obtain ⟨hkept, hagain, hcommutes⟩ := mergeLaw_records rfl h
        obtain ⟨e, hkeyed, hmerge⟩ := keyed_of_records rfl h
        obtain ⟨entry, hparse, hput⟩ := Option.map_eq_some_iff.mp hkeyed
        rw [← hput] at hmerge
        have hshown := shown_dnsAdd hparse hmerge
        exact ⟨fun hlaw => hshown.mp hlaw.shown,
          fun hnewest => ⟨hshown.mpr hnewest, hkept, hagain, hcommutes⟩⟩
    | dnsDel value =>
        obtain ⟨hkept, hagain, hcommutes⟩ := mergeLaw_records rfl h
        obtain ⟨e, hkeyed, hmerge⟩ := keyed_of_records rfl h
        cases hkeyed
        have hshown := shown_dnsDel hmerge
        exact ⟨fun hlaw => hshown.mp hlaw.shown,
          fun hnewest => ⟨hshown.mpr hnewest, hkept, hagain, hcommutes⟩⟩
    | snatUpsert value =>
        obtain ⟨hkept, hagain, hcommutes⟩ := mergeLaw_mappings rfl h
        obtain ⟨e, hkeyed, hmerge⟩ := keyed_of_mappings rfl h
        obtain ⟨entry, hparse, hput⟩ := Option.map_eq_some_iff.mp hkeyed
        rw [← hput] at hmerge
        have hshown := shown_snatUpsert hparse hmerge
        exact ⟨fun hlaw => hshown.mp hlaw.shown,
          fun hnewest => ⟨hshown.mpr hnewest, hkept, hagain, hcommutes⟩⟩
    | snatRemove value =>
        obtain ⟨hkept, hagain, hcommutes⟩ := mergeLaw_mappings rfl h
        obtain ⟨e, hkeyed, hmerge⟩ := keyed_of_mappings rfl h
        cases hkeyed
        have hshown := shown_snatRemove hmerge
        exact ⟨fun hlaw => hshown.mp hlaw.shown,
          fun hnewest => ⟨hshown.mpr hnewest, hkept, hagain, hcommutes⟩⟩
    | dnsProxy value =>
        exact ⟨fun _ => trivial, fun _ => mergeLaw_toggle (fun _ => rfl) id trivial rfl h⟩
    | tcpConntrack value =>
        exact ⟨fun _ => trivial, fun _ => mergeLaw_toggle (fun _ => rfl) id trivial rfl h⟩
    | ipv6 value =>
        exact ⟨fun _ => trivial, fun _ => mergeLaw_toggle (fun _ => rfl) id trivial rfl h⟩
    | desire value =>
        exact ⟨fun _ => trivial, fun _ => mergeLaw_toggle (fun _ => rfl) id trivial rfl h⟩

/-- Two records of one name, in two spellings. -/
def spelledTwice : Json :=
  .obj [("records", .arr
    [.obj [("domain", .str (asciiBytes "nas.lan")), ("ip", .str (asciiBytes "10.0.0.1"))],
      .obj [("domain", .str (asciiBytes "NAS.lan")), ("ip", .str (asciiBytes "10.0.0.2"))]])]

/-- A record of that name. -/
def spelledNew : Json :=
  .obj [("domain", .str (asciiBytes "nas.lan")), ("ip", .str (asciiBytes "10.0.0.9"))]

set_option maxRecDepth 8000 in
/-- The other spelling outlives a removal and hides an addition. -/
theorem other_spelling_stays :
    (∃ out, configSnapshotFieldMerge (some (.doc spelledTwice)) (.dnsDel (asciiBytes "nas.lan")) =
        (.success, some out) ∧
      ¬ MergeLaw (some (.doc spelledTwice)) (.dnsDel (asciiBytes "nas.lan")) out) ∧
    ∃ out, configSnapshotFieldMerge (some (.doc spelledTwice)) (.dnsAdd (.doc spelledNew)) =
        (.success, some out) ∧
      ¬ MergeLaw (some (.doc spelledTwice)) (.dnsAdd (.doc spelledNew)) out := by
  refine ⟨⟨_, rfl, ?_⟩, ⟨_, rfl, ?_⟩⟩
  · intro h
    have hnone := h.shown
    revert hnone
    show ¬ domainTold _ _ = none
    decide
  · intro h
    obtain ⟨entry, w, v, hparse, hread, hv, htold⟩ := h.shown
    cases hparse
    have hw : parseDnsRecordFromJson spelledNew =
        some (some ⟨asciiBytes "nas.lan", asciiBytes "10.0.0.9", 3600⟩) := rfl
    cases hw.symm.trans hread
    rw [← hv] at htold
    revert htold
    decide

end FastRG
