/-
Field merges as edits of a map.

What a document says of a name, or of a port, is what the node would put in force for it: of the
first DNS records the last of the name, unless an address among them cannot be read, and of the
port mappings the last of the port with an address that can (`domainTold`, `portTold`).  A merge
edits the document's list by the texts of its items, which the node reads as names in any letter
case and as numbers.  So a merge is an edit of the map only if no other item says something of
the same name or port: `FieldEdit.Newest` says exactly when.  All the rest of the law always
holds.
-/
import FastRG.EtcdClient
import FastRG.Lib.LastWins
import FastRG.Proofs.DnsStaticSet
import FastRG.Proofs.MergeDocuments
import FastRG.Proofs.PortReconcile

namespace FastRG

/-! ### What a document says -/

/-- A name as the node knows it. -/
def domainKey (text : List (BitVec 8)) : List (BitVec 8) := (strncpy 256 text).map toLower

/-- A port as the node knows it. -/
def portKey (text : List (BitVec 8)) : Option (BitVec 16) := (stoi text).map (BitVec.ofInt 16)

/-- What a set of records says of a name, when it is put in force. -/
def recordsTell (records : List DnsRecordConfig) (name : List (BitVec 8)) :
    Option (BitVec 32 × BitVec 32) :=
  if (records.take dnsStaticMaxRecords).any (fun w => inetPton w.ip = none) then none
  else lastWins (DnsRecordConfig.tells name) (records.take dnsStaticMaxRecords)

/-- What a document says of a name. -/
def domainTold (t : Option JsonText) (name : List (BitVec 8)) : Option (BitVec 32 × BitVec 32) :=
  ((t.bind JsonText.parse).bind parseDnsRecords).bind fun records => recordsTell records name

/-- What a document says of a port. -/
def portTold (t : Option JsonText) (port : BitVec 16) : Option (BitVec 32 × BitVec 16) :=
  ((t.bind JsonText.parse).bind parsePortMappings).bind fun mappings => lastMapping mappings port

theorem domainTold_eq (t : Option JsonText) (name : List (BitVec 8)) :
    domainTold t name =
      (readAll parseDnsRecordFromJson (recordsOf t)).bind fun records =>
        recordsTell records name := by
  unfold domainTold recordsOf docOf arrayOr parseDnsRecords
  cases t.bind JsonText.parse with
  | none => rfl
  | some doc =>
      show Option.bind (Option.bind (doc.getArray "records") _) _ =
        Option.bind (readAll _ ((doc.getArray "records").getD [])) _
      cases doc.getArray "records" with
      | none => rfl
      | some items => rfl

theorem portTold_eq {t : Option JsonText} {cfg : Json}
    (hparse : t.bind JsonText.parse = some (docOf t)) (hcfg : configIn (docOf t) = some cfg)
    (port : BitVec 16) :
    portTold t port =
      (readAll parsePortMapping (mappingsOf t)).bind fun mappings => lastMapping mappings port := by
  unfold portTold mappingsOf configOf
  rw [hparse, Option.bind_some]
  unfold parsePortMappings arrayOr
  cases hget : (docOf t).get "config" with
  | none => simp [configIn, hget] at hcfg
  | some c =>
      simp only [Option.getD_some]
      cases c.getArray "port-mapping" with
      | none => rfl
      | some items => rfl

theorem recordsTell_eq_some {records : List DnsRecordConfig} {name : List (BitVec 8)}
    {v : BitVec 32 × BitVec 32} :
    recordsTell records name = some v ↔
      (∀ w ∈ records.take dnsStaticMaxRecords, inetPton w.ip ≠ none) ∧
        lastWins (DnsRecordConfig.tells name) (records.take dnsStaticMaxRecords) = some v := by
  unfold recordsTell
  by_cases h : ((records.take dnsStaticMaxRecords).any fun w => inetPton w.ip = none) = true
  · rw [if_pos h]
    obtain ⟨w, hw, hip⟩ := List.any_eq_true.mp h
    refine ⟨?_, fun hv => absurd (of_decide_eq_true hip) (hv.1 w hw)⟩
    intro hv
    cases hv
  · rw [if_neg h]
    refine ⟨fun hv => ⟨?_, hv⟩, fun hv => hv.2⟩
    intro w hw hip
    exact h (List.any_eq_true.mpr ⟨w, hw, decide_eq_true hip⟩)

theorem recordsTell_eq_none {records : List DnsRecordConfig} {name : List (BitVec 8)} :
    recordsTell records name = none ↔
      ((∀ w ∈ records.take dnsStaticMaxRecords, inetPton w.ip ≠ none) →
        ∀ w ∈ records.take dnsStaticMaxRecords, w.domain.map toLower ≠ name) := by
  unfold recordsTell
  by_cases h : ((records.take dnsStaticMaxRecords).any fun w => inetPton w.ip = none) = true
  · rw [if_pos h]
    obtain ⟨w, hw, hip⟩ := List.any_eq_true.mp h
    exact ⟨fun _ hread => absurd (of_decide_eq_true hip) (hread w hw), fun _ => rfl⟩
  · have hread : ∀ w ∈ records.take dnsStaticMaxRecords, inetPton w.ip ≠ none := by
      intro w hw hip
      exact h (List.any_eq_true.mpr ⟨w, hw, decide_eq_true hip⟩)
    rw [if_neg h, lastWins_eq_none_iff]
    refine ⟨fun hnone _ w hw hname => ?_, fun hne w hw => if_neg (hne hread w hw)⟩
    have htells := hnone w hw
    unfold DnsRecordConfig.tells at htells
    rw [if_pos hname] at htells
    exact hread w hw (Option.map_eq_none_iff.mp htells)

/-- A document whose addresses can be read, with names that a slot holds, is in force as it says. -/
theorem domainTold_inForce {t : DnsStaticCounted} (ht : t.Stored) {doc : Json}
    {records : List DnsRecordConfig} (hrecords : parseDnsRecords doc = some records)
    (hread : ∀ w ∈ records.take dnsStaticMaxRecords, inetPton w.ip ≠ none)
    (hshort : ∀ w ∈ records.take dnsStaticMaxRecords, w.domain.length ≤ dnsMaxDomainLen)
    (r : DnsStaticRecord) :
    r ∈ (t.applyRecordSet records).2.active ↔
      domainTold (some (.doc doc)) r.domain = some (r.ipAddr, r.ttl) := by
  have hread' : ∀ w ∈ records.take dnsStaticMaxRecords, ∃ ip, inetPton w.ip = some ip :=
    fun w hw => Option.ne_none_iff_exists'.mp (hread w hw)
  obtain ⟨t', -, hcall, -⟩ := DnsStaticCounted.applyRecordSet_read ht hread'
  have hforce := (DnsStaticCounted.setLaw_of_short ht hread' hshort).inForce (by rw [hcall])
  have htold : domainTold (some (.doc doc)) r.domain = recordsTell records r.domain := by
    show (parseDnsRecords doc).bind _ = _
    rw [hrecords]
    rfl
  rw [hforce.records r, htold, recordsTell_eq_some]
  exact ⟨fun h => ⟨hread, h⟩, fun h => h.2⟩

/-- The mappings of a document are in force as it says, for a port with an address that can be
read, or with none at all. -/
theorem portTold_inForce {doc : Json} {mappings : List PortMapping}
    (hmappings : parsePortMappings doc = some mappings) (table : Nat → PortFwdEntry)
    {port : BitVec 16}
    (h : (∀ m ∈ mappings, m.eport ≠ port) ∨
      ∃ m ∈ mappings, m.eport = port ∧ ∃ dip, parseIp m.dip = some dip) :
    portsOf (Node.reconcileTable mappings table).2 port = portTold (some (.doc doc)) port := by
  rw [Node.portsOf_reconcile table h]
  show _ = (parsePortMappings doc).bind _
  rw [hmappings]
  rfl

/-! ### Items -/

/-- The name of a record is that of its text. -/
theorem domain_of_parse {item : Json} {w : DnsRecordConfig}
    (h : parseDnsRecordFromJson item = some (some w)) :
    w.domain.map toLower = domainKey (jsonString "domain" item) := by
  unfold parseDnsRecordFromJson at h
  unfold domainKey jsonString
  cases hdomain : item.getString "domain" with
  | none => simp [hdomain] at h
  | some domain =>
      cases hip : item.getString "ip" with
      | none => simp [hdomain, hip] at h
      | some ip =>
          rw [hdomain, hip] at h
          obtain ⟨ttl, -, hw⟩ := Option.map_eq_some_iff.mp h
          rw [← Option.some.inj hw]
          rfl

/-- The port of a mapping is that of its text. -/
theorem port_of_parse {item : Json} {m : PortMapping} (hnamed : isNamed "eport" item = true)
    (h : parsePortMapping item = some (some m)) :
    portKey (jsonString "eport" item) = some m.eport := by
  obtain ⟨text, htext⟩ := Option.isSome_iff_exists.mp (Bool.and_eq_true_iff.mp hnamed).2
  have hget : item.get "eport" = some (.str text) := by
    obtain ⟨j, hj, hstr⟩ := Option.bind_eq_some_iff.mp htext
    cases j with
    | str s => cases hstr; exact hj
    | null | bool | int | arr | obj => cases hstr
  unfold portKey jsonString
  rw [htext]
  cases item with
  | obj fields =>
      unfold parsePortMapping at h
      simp only [hget] at h
      cases hdip : (Json.obj fields).get "dip" with
      | none => simp [hdip] at h
      | some dip =>
          cases hdport : (Json.obj fields).get "dport" with
          | none => simp [hdip, hdport] at h
          | some dport =>
              simp only [hdip, hdport, Option.bind_eq_bind] at h
              obtain ⟨eport, heport, h⟩ := Option.bind_eq_some_iff.mp h
              obtain ⟨d, -, h⟩ := Option.bind_eq_some_iff.mp h
              obtain ⟨p, -, h⟩ := Option.bind_eq_some_iff.mp h
              have hstoi : stoi text = some eport := heport
              rw [← Option.some.inj (Option.some.inj h)]
              show (stoi text).map _ = _
              rw [hstoi]
              rfl
  | null | bool | int | str | arr => cases hget

/-- A mapping reads the same with any number. -/
theorem parsePortMapping_unnumbered {item : Json} (h : item.isObject = true) :
    parsePortMapping (unnumbered item) = parsePortMapping item := by
  cases item with
  | obj fields =>
      have hget (name : String) (hne : name ≠ "index") :
          (unnumbered (.obj fields)).get name = (Json.obj fields).get name :=
        Json.get_set_ne hne _ _
      have heport := hget "eport" (by decide)
      have hdip := hget "dip" (by decide)
      have hdport := hget "dport" (by decide)
      unfold unnumbered at heport hdip hdport ⊢
      unfold parsePortMapping
      simp only [Json.set] at heport hdip hdport ⊢
      rw [heport, hdip, hdport]
  | null | bool | int | str | arr => cases h

theorem readAll_unnumbered {l : List Json} (h : allNamed "eport" l = true) :
    readAll parsePortMapping (l.map unnumbered) = readAll parsePortMapping l := by
  refine readAll_map ?_
  intro item hitem
  have hnamed := List.all_eq_true.mp h item hitem
  exact parsePortMapping_unnumbered (Bool.and_eq_true_iff.mp hnamed).1

theorem readAll_renumber {l : List Json} (h : allNamed "eport" l = true) :
    readAll parsePortMapping (renumber l) = readAll parsePortMapping l := by
  rw [← readAll_unnumbered (allNamed_renumber h), map_unnumbered_renumber, readAll_unnumbered h]

/-! ### The law -/

/-- An edit does to the map what it is for. -/
def FieldEdit.Shown (out : JsonText) : FieldEdit → Prop
  | .dnsAdd value => ∃ entry w v, value.parse = some entry ∧
      parseDnsRecordFromJson entry = some (some w) ∧
      w.tells (w.domain.map toLower) = some v ∧
      domainTold (some out) (w.domain.map toLower) = some v
  | .dnsDel value => domainTold (some out) (domainKey value) = none
  | .snatUpsert value => ∃ entry m v, value.parse = some entry ∧
      parsePortMapping entry = some (some m) ∧ m.forwards m.eport = some v ∧
      portTold (some out) m.eport = some v
  | .snatRemove value => ∀ port, portKey value = some port → portTold (some out) port = none
  | .dnsProxy _ | .tcpConntrack _ | .ipv6 _ | .desire _ => True

/-- Every record of a document is taken. -/
def RecordsTaken (t : Option JsonText) : Prop :=
  ∃ records, readAll parseDnsRecordFromJson (recordsOf t) = some records ∧
    records.length ≤ dnsStaticMaxRecords ∧ ∀ w ∈ records, inetPton w.ip ≠ none

/-- Every mapping of a document is read. -/
def MappingsTaken (t : Option JsonText) : Prop :=
  ∃ mappings, readAll parsePortMapping (mappingsOf t) = some mappings

/-- But for the records of a text, two documents are the same, and say the same. -/
structure RecordsKept (k : List (BitVec 8)) (current : Option JsonText) (out : JsonText) :
    Prop where
  fields : SameBut "records" (docOf (some out)) (docOf current)
  items : dropBy (jsonString "domain") k (recordsOf (some out)) =
    dropBy (jsonString "domain") k (recordsOf current)
  told : RecordsTaken current → RecordsTaken (some out) → ∀ name ≠ domainKey k,
    domainTold (some out) name = domainTold current name

/-- But for the mappings of a text, and the numbers of the others, two documents are the same, and
say the same. -/
structure MappingsKept (k : List (BitVec 8)) (current : Option JsonText) (out : JsonText) :
    Prop where
  fields : SameBut "config" (docOf (some out)) (docOf current)
  config : SameBut "port-mapping" (configOf (some out)) (configOf current)
  items : (dropBy (jsonString "eport") k (mappingsOf (some out))).map unnumbered =
    (dropBy (jsonString "eport") k (mappingsOf current)).map unnumbered
  told : MappingsTaken current → MappingsTaken (some out) → ∀ port, portKey k ≠ some port →
    portTold (some out) port = portTold current port

/-- But for one member of the configuration, two documents are the same. -/
structure ConfigKept (name : String) (current : Option JsonText) (out : JsonText) : Prop where
  fields : SameBut "config" (docOf (some out)) (docOf current)
  config : SameBut name (configOf (some out)) (configOf current)

/-- An edit leaves what is not its own. -/
def FieldEdit.Kept (current : Option JsonText) (out : JsonText) : FieldEdit → Prop
  | .dnsAdd value => ∀ entry, value.parse = some entry →
      RecordsKept (jsonString "domain" entry) current out
  | .dnsDel value => RecordsKept value current out
  | .snatUpsert value => ∀ entry, value.parse = some entry →
      MappingsKept (jsonString "eport" entry) current out
  | .snatRemove value => MappingsKept value current out
  | .dnsProxy _ => ConfigKept "dns_proxy_enable" current out
  | .tcpConntrack _ => ConfigKept "tcp_conntrack_enable" current out
  | .ipv6 _ => ConfigKept "ipv6_enable" current out
  | .desire _ => ConfigKept "desire_status" current out

/-- Two edits of one list are about different texts. -/
def FieldEdit.Apart (edit other : FieldEdit) : Prop :=
  ∃ name e e', edit.textMember = some name ∧ other.textMember = some name ∧
    edit.keyed = some e ∧ other.keyed = some e' ∧
    e.key (jsonString name) ≠ e'.key (jsonString name)

/-- Two documents differ in the order of a list at most, and in the numbers that go with it. -/
inductive SameButOrder : JsonText → JsonText → Prop
  | records (doc : Json) {l l' : List Json} (h : l.Perm l') :
      SameButOrder (.doc (doc.set "records" (.arr l))) (.doc (doc.set "records" (.arr l')))
  | mappings (doc cfg : Json) {l l' : List Json}
      (h : (l.map unnumbered).Perm (l'.map unnumbered)) :
      SameButOrder
        (.doc (doc.set "config" (cfg.set "port-mapping" (.arr (renumber l)))))
        (.doc (doc.set "config" (cfg.set "port-mapping" (.arr (renumber l')))))

/-- What a merge with an output is, as an edit of a map. -/
structure MergeLaw (current : Option JsonText) (edit : FieldEdit) (out : JsonText) : Prop where
  shown : edit.Shown out
  kept : edit.Kept current out
  again : fieldMerge (some out) edit = some out
  commutes : ∀ other out', edit.Apart other → fieldMerge current other = some out' →
    ∃ a b, fieldMerge (some out) other = some a ∧ fieldMerge (some out') edit = some b ∧
      SameButOrder a b

/-! ### DNS records -/

section Records

variable {current : Option JsonText} {out : JsonText} {e e' : KeyedEdit Json (List (BitVec 8))}

/-- An output holds the edited list. -/
theorem recordsOf_merged (h : mergeDns current (editRecords e) = some out) :
    recordsOf (some out) = e.apply (jsonString "domain") (recordsOf current) := by
  obtain ⟨-, -, hout⟩ := mergeRecords_iff.mp h
  rw [hout]
  exact arrayOr_set ..

/-- Into an output more can be merged. -/
theorem mergeRecords_next (h : mergeDns current (editRecords e) = some out)
    (he' : usable "domain" e' = true) :
    mergeDns (some out) (editRecords e') = some (.doc ((envelope current).set "records"
      (.arr (e'.apply (jsonString "domain")
        (e.apply (jsonString "domain") (recordsOf current)))))) := by
  have hitems := recordsOf_merged h
  obtain ⟨hnamed, he, hout⟩ := mergeRecords_iff.mp h
  refine mergeRecords_iff.mpr ⟨?_, he', ?_⟩
  · rw [hitems]
    exact allNamed_apply he hnamed
  · have henvelope : envelope (some out) = (envelope current).set "records"
        (.arr (e.apply (jsonString "domain") (recordsOf current))) := by
      have hobject : ∃ fields, envelope current = .obj fields := by
        unfold envelope
        split
        · exact ⟨_, rfl⟩
        · exact ⟨[], rfl⟩
      obtain ⟨fields, hfields⟩ := hobject
      rw [hout, hfields]
      rfl
    rw [hitems, henvelope, Json.set_set]

theorem recordsKept_merged (h : mergeDns current (editRecords e) = some out) :
    RecordsKept (e.key (jsonString "domain")) current out where
  fields := by
    obtain ⟨-, -, hout⟩ := mergeRecords_iff.mp h
    intro name hname
    rw [hout, docOf_doc, Json.get_set_ne hname, sameBut_envelope]
  items := by
    rw [recordsOf_merged h]
    exact KeyedEdit.dropBy_apply e _
  told := by
    intro hbefore hafter name hname
    obtain ⟨before, hreadBefore, hlengthBefore, hipBefore⟩ := hbefore
    obtain ⟨after, hreadAfter, hlengthAfter, hipAfter⟩ := hafter
    have hwhole {records : List DnsRecordConfig} (hlength : records.length ≤ dnsStaticMaxRecords)
        (hip : ∀ w ∈ records, inetPton w.ip ≠ none) :
        recordsTell records name = lastWins (DnsRecordConfig.tells name) records := by
      unfold recordsTell
      rw [List.take_of_length_le hlength, if_neg]
      intro hany
      obtain ⟨w, hw, hnone⟩ := List.any_eq_true.mp hany
      exact hip w hw (of_decide_eq_true hnone)
    -- an item of the text says nothing of another name
    have hother (l : List Json) : ∀ item ∈ l,
        jsonString "domain" item = e.key (jsonString "domain") →
        ((parseDnsRecordFromJson item).join.bind (DnsRecordConfig.tells name)) = none := by
      intro item _ hitem
      cases hparse : parseDnsRecordFromJson item with
      | none => rfl
      | some r =>
          cases r with
          | none => rfl
          | some w =>
              refine if_neg ?_
              rw [domain_of_parse hparse, hitem]
              exact hname.symm
    rw [domainTold_eq, domainTold_eq, hreadBefore, hreadAfter]
    show recordsTell after name = recordsTell before name
    rw [hwhole hlengthBefore hipBefore, hwhole hlengthAfter hipAfter]
    unfold lastWins
    rw [filterMap_readAll _ hreadBefore, filterMap_readAll _ hreadAfter,
      ← filterMap_dropBy (hother (recordsOf current)),
      ← filterMap_dropBy (hother (recordsOf (some out))), recordsOf_merged h,
      KeyedEdit.dropBy_apply]

theorem mergeRecords_again (h : mergeDns current (editRecords e) = some out) :
    mergeDns (some out) (editRecords e) = some out := by
  obtain ⟨-, he, hout⟩ := mergeRecords_iff.mp h
  rw [mergeRecords_next h he, KeyedEdit.apply_apply, ← hout]

theorem mergeRecords_commute {out' : JsonText}
    (h : mergeDns current (editRecords e) = some out)
    (h' : mergeDns current (editRecords e') = some out')
    (hne : e.key (jsonString "domain") ≠ e'.key (jsonString "domain")) :
    ∃ a b, mergeDns (some out) (editRecords e') = some a ∧
      mergeDns (some out') (editRecords e) = some b ∧ SameButOrder a b := by
  obtain ⟨-, he, -⟩ := mergeRecords_iff.mp h
  obtain ⟨-, he', -⟩ := mergeRecords_iff.mp h'
  exact ⟨_, _, mergeRecords_next h he', mergeRecords_next h' he,
    .records _ (KeyedEdit.apply_perm hne _)⟩

end Records

/-! ### Port mappings -/

section Mappings

variable {current : Option JsonText} {out : JsonText} {e e' : KeyedEdit Json (List (BitVec 8))}

/-- The edited list, numbered, is that of the edit without the numbers. -/
theorem unnumbered_apply (e : KeyedEdit Json (List (BitVec 8))) (l : List Json) :
    (e.apply (jsonString "eport") l).map unnumbered =
      (e.map unnumbered).apply (jsonString "eport") (l.map unnumbered) :=
  KeyedEdit.map_apply jsonString_unnumbered e l

/-- An output holds the edited list, numbered. -/
theorem mappingsOf_merged (h : mergeConfig current (editMappings e) = some out) :
    mappingsOf (some out) = renumber (e.apply (jsonString "eport") (mappingsOf current)) := by
  obtain ⟨cfg, -, -, -, -, hout⟩ := mergeMappings_iff.mp h
  rw [hout]
  unfold mappingsOf configOf
  rw [docOf_doc, Json.get_set]
  exact arrayOr_set ..

/-- The list of an output has texts. -/
theorem allNamed_merged (h : mergeConfig current (editMappings e) = some out) :
    allNamed "eport" (e.apply (jsonString "eport") (mappingsOf current)) = true := by
  obtain ⟨cfg, -, -, hnamed, he, -⟩ := mergeMappings_iff.mp h
  exact allNamed_apply he hnamed

/-- Into an output more can be merged. -/
theorem mergeMappings_next (h : mergeConfig current (editMappings e) = some out)
    (he' : usable "eport" e' = true) :
    ∃ cfg, configIn (docOf current) = some cfg ∧
      mergeConfig (some out) (editMappings e') = some (.doc ((docOf current).set "config"
        (cfg.set "port-mapping" (.arr (renumber (e'.apply (jsonString "eport")
          (renumber (e.apply (jsonString "eport") (mappingsOf current))))))))) := by
  have hitems := mappingsOf_merged h
  have hnamed := allNamed_merged h
  obtain ⟨cfg, -, hcfg, -, -, hout⟩ := mergeMappings_iff.mp h
  refine ⟨cfg, hcfg, mergeMappings_iff.mpr ⟨cfg.set "port-mapping"
    (.arr (renumber (e.apply (jsonString "eport") (mappingsOf current)))), ?_, ?_, ?_, he', ?_⟩⟩
  · rw [hout]
    rfl
  · rw [hout]
    exact configIn_set (Json.isObject_set ..) _
  · rw [hitems]
    exact allNamed_renumber hnamed
  · rw [hitems, hout, docOf_doc, Json.set_set, Json.set_set]

/-- What an output says of a port. -/
theorem portTold_merged (h : mergeConfig current (editMappings e) = some out) (port : BitVec 16) :
    portTold (some out) port =
      (readAll parsePortMapping (e.apply (jsonString "eport") (mappingsOf current))).bind
        fun mappings => lastMapping mappings port := by
  have hitems := mappingsOf_merged h
  have hnamed := allNamed_merged h
  obtain ⟨cfg, -, -, -, -, hout⟩ := mergeMappings_iff.mp h
  have hcfg := configIn_set (Json.isObject_set cfg "port-mapping"
    (.arr (renumber (e.apply (jsonString "eport") (mappingsOf current))))) (docOf current)
  have hdoc := docOf_doc ((docOf current).set "config" (cfg.set "port-mapping"
    (.arr (renumber (e.apply (jsonString "eport") (mappingsOf current))))))
  rw [← hdoc, ← hout] at hcfg
  have hparse : (some out).bind JsonText.parse = some (docOf (some out)) := by
    rw [hout]
    rfl
  rw [portTold_eq hparse hcfg, hitems, readAll_renumber hnamed]

theorem mappingsKept_merged (h : mergeConfig current (editMappings e) = some out) :
    MappingsKept (e.key (jsonString "eport")) current out where
  fields := by
    obtain ⟨cfg, -, -, -, -, hout⟩ := mergeMappings_iff.mp h
    rw [hout]
    exact sameBut_set _ _ _
  config := by
    obtain ⟨cfg, -, hcfg, -, -, hout⟩ := mergeMappings_iff.mp h
    intro name hname
    rw [hout]
    unfold configOf
    rw [docOf_doc, Json.get_set]
    exact (Json.get_set_ne hname _ _).trans (get_configIn hcfg name)
  items := by
    have hdrop (l : List Json) :
        (dropBy (jsonString "eport") (e.key (jsonString "eport")) l).map unnumbered =
          dropBy (jsonString "eport") (e.key (jsonString "eport")) (l.map unnumbered) :=
      unnumbered_apply (.drop (e.key (jsonString "eport"))) l
    rw [mappingsOf_merged h, hdrop, map_unnumbered_renumber, ← hdrop, KeyedEdit.dropBy_apply]
  told := by
    intro hbefore hafter port hport
    obtain ⟨before, hreadBefore⟩ := hbefore
    obtain ⟨after, hreadAfter⟩ := hafter
    have hnamed := allNamed_merged h
    rw [mappingsOf_merged h, readAll_renumber hnamed] at hreadAfter
    obtain ⟨cfg, hparse, hcfg, hold, -, -⟩ := mergeMappings_iff.mp h
    rw [portTold_merged h, portTold_eq hparse hcfg, hreadBefore, hreadAfter]
    show lastMapping after port = lastMapping before port
    -- an item of the text says nothing of another port
    have hother : ∀ item, jsonString "eport" item = e.key (jsonString "eport") →
        isNamed "eport" item = true →
        ((parsePortMapping item).join.bind (PortMapping.forwards port)) = none := by
      intro item hitem hitemNamed
      cases hread : parsePortMapping item with
      | none => rfl
      | some r =>
          cases r with
          | none => rfl
          | some m =>
              refine if_neg ?_
              intro hm
              have hkey := port_of_parse hitemNamed hread
              rw [hitem, hm] at hkey
              exact hport hkey
    have hdrop {l : List Json} (hl : allNamed "eport" l = true) :
        (dropBy (jsonString "eport") (e.key (jsonString "eport")) l).filterMap
            (fun item => (parsePortMapping item).join.bind (PortMapping.forwards port)) =
          l.filterMap fun item => (parsePortMapping item).join.bind (PortMapping.forwards port) :=
      filterMap_dropBy fun item hitem hk =>
        hother item hk (List.all_eq_true.mp hl item hitem)
    unfold lastMapping lastWins
    rw [filterMap_readAll _ hreadBefore, filterMap_readAll _ hreadAfter, ← hdrop hold,
      ← hdrop hnamed, KeyedEdit.dropBy_apply]

theorem mergeMappings_again (h : mergeConfig current (editMappings e) = some out) :
    mergeConfig (some out) (editMappings e) = some out := by
  obtain ⟨cfg, -, hcfg, -, he, hout⟩ := mergeMappings_iff.mp h
  obtain ⟨cfg', hcfg', hnext⟩ := mergeMappings_next h he
  have hsame : renumber (e.apply (jsonString "eport")
      (renumber (e.apply (jsonString "eport") (mappingsOf current)))) =
        renumber (e.apply (jsonString "eport") (mappingsOf current)) := by
    refine renumber_congr ?_
    rw [unnumbered_apply, map_unnumbered_renumber, ← unnumbered_apply, KeyedEdit.apply_apply]
  rw [hcfg] at hcfg'
  rw [hnext, hsame, hout, Option.some.inj hcfg']

theorem mergeMappings_commute {out' : JsonText}
    (h : mergeConfig current (editMappings e) = some out)
    (h' : mergeConfig current (editMappings e') = some out')
    (hne : e.key (jsonString "eport") ≠ e'.key (jsonString "eport")) :
    ∃ a b, mergeConfig (some out) (editMappings e') = some a ∧
      mergeConfig (some out') (editMappings e) = some b ∧ SameButOrder a b := by
  obtain ⟨-, -, -, -, he, -⟩ := mergeMappings_iff.mp h
  obtain ⟨-, -, -, -, he', -⟩ := mergeMappings_iff.mp h'
  obtain ⟨cfg, hcfg, hnext⟩ := mergeMappings_next h he'
  obtain ⟨cfg', hcfg', hnext'⟩ := mergeMappings_next h' he
  rw [hcfg] at hcfg'
  rw [← Option.some.inj hcfg'] at hnext'
  refine ⟨_, _, hnext, hnext', .mappings _ _ ?_⟩
  rw [unnumbered_apply, unnumbered_apply, map_unnumbered_renumber, map_unnumbered_renumber,
    unnumbered_apply, unnumbered_apply]
  refine KeyedEdit.apply_perm ?_ _
  rw [KeyedEdit.key_map jsonString_unnumbered, KeyedEdit.key_map jsonString_unnumbered]
  exact hne

end Mappings

end FastRG
