/-
What is written of an HSI configuration is what is read, and the two readers against each other.

A configuration written out and read again is the configuration.  `get_hsi_config` reads what
`parse_hsi_config` reads, and the metadata besides: where those cannot be read it refuses a value
that the other accepts.  Both narrow a port to 16 bits, so a number that is no port becomes one.
What can be read, and which numbers stand for ports, is said here of the value alone.
-/
import FastRG.HsiValue
import FastRG.Proofs.DnsNames
import FastRG.Proofs.SnapshotVersions

namespace FastRG

variable {root config entry v : JsonValue}

/-! ### Texts -/

/-- A text that a buffer of so many bytes holds, with its NUL. -/
structure Terminated (size : Nat) (text : List (BitVec 8)) : Prop where
  noNul : 0 ∉ text
  fits : text.length < size

theorem strncpy_terminated {size : Nat} {text : List (BitVec 8)} (h : Terminated size text) :
    strncpy size text = text := by
  have hfits := h.fits
  unfold strncpy
  rw [cString_of_zero_notMem h.noNul]
  exact List.take_of_length_le (by omega)

/-- A number printed is read to its end, within 64 bits. -/
theorem strtol_toDecimal (n : Int) : strtol (toDecimal n) = some (clampInt64 n, []) := by
  have hwhole := strtolWhole_eq (toDecimal n)
  rw [wholeNumber_toDecimal, Option.map_some] at hwhole
  unfold strtolWhole at hwhole
  split at hwhole
  · rename_i m hread
    rw [hread, Option.some.inj hwhole]
  · cases hwhole

/-- A number printed and read is the number. -/
theorem stoi_toDecimal {n : Int} (hlow : -0x80000000 ≤ n) (hhigh : n < 0x80000000) :
    stoi (toDecimal n) = some n := by
  have hclamp : clampInt64 n = n := by
    unfold clampInt64
    omega
  unfold stoi
  rw [strtol_toDecimal, hclamp]
  exact if_pos ⟨hlow, hhigh⟩

/-! ### There and back -/

/-- The texts of a configuration are terminated. -/
structure UserHsiConfig.Terminated (c : UserHsiConfig) : Prop where
  userId : FastRG.Terminated 64 c.userId
  vlanId : FastRG.Terminated 16 c.vlanId
  accountName : FastRG.Terminated 256 c.accountName
  password : FastRG.Terminated 256 c.password
  dhcpAddrPool : FastRG.Terminated 64 c.dhcpAddrPool
  dhcpSubnet : FastRG.Terminated 32 c.dhcpSubnet
  dhcpGateway : FastRG.Terminated 32 c.dhcpGateway
  desireStatus : FastRG.Terminated 16 c.desireStatus
  dip : ∀ pm ∈ c.portMappings, FastRG.Terminated 32 pm.dip

/-- An entry written is the mapping read. -/
theorem readPortMapping_entry (i : Nat) {pm : PortMapping} (h : Terminated 32 pm.dip) :
    readPortMapping (portMappingEntry i pm) = some (some pm) := by
  have hport : ∀ port : BitVec 16, stoi (toDecimal port.toNat) = some (port.toNat : Int) := by
    intro port
    have hlt := port.isLt
    exact stoi_toDecimal (by omega) (by omega)
  have hword : ∀ port : BitVec 16, BitVec.ofInt 16 (port.toNat : Int) = port := by
    intro port
    rw [BitVec.ofInt_natCast, BitVec.ofNat_toNat, BitVec.setWidth_eq]
  have heport : (portMappingEntry i pm).find "eport" =
      some (some (.str (toDecimal pm.eport.toNat))) := rfl
  have hdip : (portMappingEntry i pm).find "dip" = some (some (.str pm.dip)) := rfl
  have hdport : (portMappingEntry i pm).find "dport" =
      some (some (.str (toDecimal pm.dport.toNat))) := rfl
  unfold readPortMapping
  simp only [heport, hdip, hdport, JsonValue.asString, Option.bind_some, hport, hword,
    Option.bind_eq_bind, strncpy_terminated h]

theorem readAll_entries {pms : List PortMapping} (h : ∀ pm ∈ pms, Terminated 32 pm.dip)
    (f : Nat → Nat) :
    readAll readPortMapping (pms.mapIdx fun i => portMappingEntry (f i)) = some pms := by
  induction pms generalizing f with
  | nil => rfl
  | cons pm rest ih =>
      rw [List.mapIdx_cons, readAll, readPortMapping_entry _ (h pm List.mem_cons_self)]
      have hrest := ih (fun pm' hpm' => h pm' (List.mem_cons_of_mem _ hpm')) fun i => f (i + 1)
      show ((readAll readPortMapping (rest.mapIdx fun i => portMappingEntry (f (i + 1)))).map
        fun rs => [pm] ++ rs) = _
      rw [hrest]
      rfl

/-- What a configuration reads back as: to be disconnected, where it does not say. -/
def UserHsiConfig.readBack (c : UserHsiConfig) : UserHsiConfig :=
  { c with
    desireStatus := if c.desireStatus = [] then desireStatusDisconnect else c.desireStatus }

/-- The texts read back are those of the configuration. -/
theorem terminated_readBack {c : UserHsiConfig} (h : c.Terminated) :
    FastRG.Terminated 16 c.readBack.desireStatus := by
  unfold UserHsiConfig.readBack
  by_cases hempty : c.desireStatus = []
  · simp only [hempty, if_true]
    exact ⟨by decide, by decide⟩
  · simp only [hempty, if_false]
    exact h.desireStatus

theorem getText_str {fields : List (String × JsonValue)} {name : String} {text : List (BitVec 8)}
    (h : fields.lookup name = some (.str text)) :
    (JsonValue.obj fields).getText name = some text := by
  unfold JsonValue.getText JsonValue.find
  simp only [h]
  rfl

theorem readFlag_bool {fields : List (String × JsonValue)} {name : String} {b : Bool}
    (h : fields.lookup name = some (.bool b)) (dflt : Bool) (word : String) :
    readFlag name dflt word (.obj fields) = some b := by
  unfold readFlag JsonValue.find
  simp only [h]

/-- A configuration whose parts can be read is read. -/
theorem parse_of_parts {userId vlanId accountName password dhcpAddrPool dhcpSubnet dhcpGateway
      desireStatus : List (BitVec 8)} {dnsProxyEnable tcpConntrackEnable ipv6Enable : Bool}
    {portMappings : List PortMapping} (hconfig : configObj root = some config)
    (huser : config.getText "user_id" = some userId)
    (hvlan : config.getText "vlan_id" = some vlanId)
    (haccount : config.getText "account_name" = some accountName)
    (hpassword : config.getText "password" = some password)
    (hpool : config.getText "dhcp_addr_pool" = some dhcpAddrPool)
    (hsubnet : config.getText "dhcp_subnet" = some dhcpSubnet)
    (hgateway : config.getText "dhcp_gateway" = some dhcpGateway)
    (hdns : readFlag "dns_proxy_enable" true "false" config = some dnsProxyEnable)
    (htcp : readFlag "tcp_conntrack_enable" true "false" config = some tcpConntrackEnable)
    (hipv6 : readFlag "ipv6_enable" false "true" config = some ipv6Enable)
    (hstatus : readDesireStatus config = some desireStatus)
    (hports : readPortMappings config = some portMappings) :
    parseHsiConfig (some root) = some ({
      userId := strncpy 64 userId
      vlanId := strncpy 16 vlanId
      accountName := strncpy 256 accountName
      password := strncpy 256 password
      dhcpAddrPool := strncpy 64 dhcpAddrPool
      dhcpSubnet := strncpy 32 dhcpSubnet
      dhcpGateway := strncpy 32 dhcpGateway
      dnsProxyEnable, tcpConntrackEnable, ipv6Enable, desireStatus, portMappings },
      decide (desireStatus = desireStatusConnect)) := by
  unfold parseHsiConfig
  refine Option.bind_eq_some_iff.mpr ⟨root, rfl, ?_⟩
  refine Option.bind_eq_some_iff.mpr ⟨config, hconfig, ?_⟩
  refine Option.bind_eq_some_iff.mpr ⟨userId, huser, ?_⟩
  refine Option.bind_eq_some_iff.mpr ⟨vlanId, hvlan, ?_⟩
  refine Option.bind_eq_some_iff.mpr ⟨accountName, haccount, ?_⟩
  refine Option.bind_eq_some_iff.mpr ⟨password, hpassword, ?_⟩
  refine Option.bind_eq_some_iff.mpr ⟨dhcpAddrPool, hpool, ?_⟩
  refine Option.bind_eq_some_iff.mpr ⟨dhcpSubnet, hsubnet, ?_⟩
  refine Option.bind_eq_some_iff.mpr ⟨dhcpGateway, hgateway, ?_⟩
  refine Option.bind_eq_some_iff.mpr ⟨dnsProxyEnable, hdns, ?_⟩
  refine Option.bind_eq_some_iff.mpr ⟨tcpConntrackEnable, htcp, ?_⟩
  refine Option.bind_eq_some_iff.mpr ⟨ipv6Enable, hipv6, ?_⟩
  refine Option.bind_eq_some_iff.mpr ⟨desireStatus, hstatus, ?_⟩
  exact Option.bind_eq_some_iff.mpr ⟨portMappings, hports, rfl⟩

/-- The members of what is written. -/
theorem built_members (nodeId updatedBy now : List (BitVec 8)) (c : UserHsiConfig) :
    ∃ fields, configObj (buildHsiConfigJson nodeId c updatedBy now) = some (.obj fields) ∧
      fields.lookup "user_id" = some (.str c.userId) ∧
      fields.lookup "vlan_id" = some (.str c.vlanId) ∧
      fields.lookup "account_name" = some (.str c.accountName) ∧
      fields.lookup "password" = some (.str c.password) ∧
      fields.lookup "dhcp_addr_pool" = some (.str c.dhcpAddrPool) ∧
      fields.lookup "dhcp_subnet" = some (.str c.dhcpSubnet) ∧
      fields.lookup "dhcp_gateway" = some (.str c.dhcpGateway) ∧
      fields.lookup "dns_proxy_enable" = some (.bool c.dnsProxyEnable) ∧
      fields.lookup "tcp_conntrack_enable" = some (.bool c.tcpConntrackEnable) ∧
      fields.lookup "ipv6_enable" = some (.bool c.ipv6Enable) ∧
      fields.lookup "desire_status" = some (.str c.readBack.desireStatus) ∧
      fields.lookup "port-mapping" = if c.portMappings = [] then none
        else some (.arr (c.portMappings.mapIdx portMappingEntry)) := by
  refine ⟨_, rfl, rfl, rfl, rfl, rfl, rfl, rfl, rfl, rfl, rfl, rfl, ?_, ?_⟩
  · unfold UserHsiConfig.readBack
    by_cases hempty : c.desireStatus = []
    · simp only [hempty, ne_eq, not_true_eq_false, if_false, if_true]
      rfl
    · simp only [hempty, ne_eq, not_false_eq_true, if_false, if_true]
      rfl
  · by_cases hnone : c.portMappings = []
    · simp only [hnone, if_true]
      rfl
    · simp only [hnone, if_false]
      rfl

theorem parse_build (nodeId updatedBy now : List (BitVec 8)) {c : UserHsiConfig}
    (h : c.Terminated) :
    parseHsiConfig (some (buildHsiConfigJson nodeId c updatedBy now)) =
      some (c.readBack, decide (c.readBack.desireStatus = desireStatusConnect)) := by
  obtain ⟨fields, hconfig, huser, hvlan, haccount, hpassword, hpool, hsubnet, hgateway, hdns, htcp,
    hipv6, hstatus, hports⟩ := built_members nodeId updatedBy now c
  have hmappings : readPortMappings (.obj fields) = some c.portMappings := by
    unfold readPortMappings
    simp only [JsonValue.find, hports]
    by_cases hnone : c.portMappings = []
    · simp only [hnone, if_true]
    · simp only [hnone, if_false]
      exact readAll_entries h.dip id
  have hdesire : readDesireStatus (.obj fields) = some c.readBack.desireStatus := by
    unfold readDesireStatus JsonValue.find
    simp only [hstatus]
    rw [strncpy_terminated (terminated_readBack h)]
  rw [parse_of_parts hconfig (getText_str huser) (getText_str hvlan) (getText_str haccount)
    (getText_str hpassword) (getText_str hpool) (getText_str hsubnet) (getText_str hgateway)
    (readFlag_bool hdns true "false") (readFlag_bool htcp true "false")
    (readFlag_bool hipv6 false "true") hdesire hmappings]
  rw [strncpy_terminated h.userId, strncpy_terminated h.vlanId, strncpy_terminated h.accountName,
    strncpy_terminated h.password, strncpy_terminated h.dhcpAddrPool,
    strncpy_terminated h.dhcpSubnet, strncpy_terminated h.dhcpGateway]
  rfl

/-! ### What can be read -/

namespace JsonValue

/-- Members may be asked of it. -/
def IsRecord : JsonValue → Prop
  | .null | .obj _ => True
  | _ => False

/-- A member, if it has one. -/
def member (name : String) : JsonValue → Option JsonValue
  | .obj fields => fields.lookup name
  | _ => none

/-- It can be read as a text. -/
def HasText : JsonValue → Prop
  | .arr _ | .obj _ => False
  | _ => True

theorem find_record (h : v.IsRecord) (name : String) : v.find name = some (v.member name) := by
  cases v with
  | null => rfl
  | obj fields => rfl
  | bool | int | real | str | arr => exact h.elim

theorem isRecord_of_find {name : String} {x : Option JsonValue} (h : v.find name = some x) :
    v.IsRecord := by
  cases v with
  | null => trivial
  | obj fields => trivial
  | bool | int | real | str | arr => cases h

theorem asString_isSome_iff : v.asString.isSome ↔ v.HasText := by
  cases v with
  | null | bool | int | real | str => exact ⟨fun _ => trivial, fun _ => rfl⟩
  | arr | obj => exact ⟨fun h => absurd h Bool.false_ne_true, False.elim⟩

theorem getText_isSome_iff (hv : v.IsRecord) (name : String) :
    (v.getText name).isSome ↔ ∀ x, v.member name = some x → x.HasText := by
  unfold getText
  rw [find_record hv]
  cases hx : v.member name with
  | none =>
      refine ⟨fun _ x h => ?_, fun _ => rfl⟩
      cases h
  | some x =>
      refine ⟨fun h y hy => ?_, fun h => asString_isSome_iff.mpr (h x rfl)⟩
      cases hy
      exact asString_isSome_iff.mp h

end JsonValue

open JsonValue (IsRecord HasText)

theorem readFlag_isSome_iff (hconfig : config.IsRecord) (name : String) (dflt : Bool)
    (word : String) :
    (readFlag name dflt word config).isSome ↔ ∀ x n, config.member name = some x →
      x.integral = some n → -0x80000000 ≤ n ∧ n < 0x80000000 := by
  unfold readFlag
  rw [JsonValue.find_record hconfig]
  cases hx : config.member name with
  | none =>
      refine ⟨fun _ x n h => ?_, fun _ => rfl⟩
      cases h
  | some x =>
      have hgeneral : ∀ flag : Option Bool, (x.integral = none → flag = some dflt) →
          (∀ n, x.integral = some n → flag = if -0x80000000 ≤ n ∧ n < 0x80000000 then
            some (decide (n ≠ 0)) else none) →
          (flag.isSome ↔ ∀ y n, some x = some y → y.integral = some n →
            -0x80000000 ≤ n ∧ n < 0x80000000) := by
        intro flag hnone hsome
        cases hn : x.integral with
        | none =>
            rw [hnone hn]
            refine ⟨fun _ y n hy hn' => ?_, fun _ => rfl⟩
            cases hy
            rw [hn] at hn'
            cases hn'
        | some n =>
            rw [hsome n hn]
            by_cases hint : -0x80000000 ≤ n ∧ n < 0x80000000
            · rw [if_pos hint]
              refine ⟨fun _ y n' hy hn' => ?_, fun _ => rfl⟩
              cases hy
              rw [hn] at hn'
              cases hn'
              exact hint
            · rw [if_neg hint]
              refine ⟨fun h => ?_, fun h => absurd (h x n rfl hn) hint⟩
              cases h
      cases x with
      | bool b =>
          refine ⟨fun _ y n hy hn => ?_, fun _ => rfl⟩
          cases hy
          cases hn
      | str s =>
          refine ⟨fun _ y n hy hn => ?_, fun _ => rfl⟩
          cases hy
          cases hn
      | null => exact hgeneral _ (fun h => by simp only [h]) fun n h => by simp only [h]
      | int m => exact hgeneral _ (fun h => by simp only [h]) fun n h => by simp only [h]
      | real x => exact hgeneral _ (fun h => by simp only [h]) fun n h => by simp only [h]
      | arr items => exact hgeneral _ (fun h => by simp only [h]) fun n h => by simp only [h]
      | obj fields => exact hgeneral _ (fun h => by simp only [h]) fun n h => by simp only [h]

/-- The three members of an entry, if it has them. -/
def entryMembers (entry : JsonValue) : Option (JsonValue × JsonValue × JsonValue) :=
  match entry.member "eport", entry.member "dip", entry.member "dport" with
  | some eport, some dip, some dport => some (eport, dip, dport)
  | _, _, _ => none

/-- An entry can be read. -/
structure EntryReads (entry : JsonValue) : Prop where
  record : entry.IsRecord
  eport : ∀ e d p, entryMembers entry = some (e, d, p) → (e.asString.bind stoi).isSome
  dip : ∀ e d p, entryMembers entry = some (e, d, p) → d.HasText
  dport : ∀ e d p, entryMembers entry = some (e, d, p) → (p.asString.bind stoi).isSome

/-- What is read of an entry, by its members. -/
theorem readPortMapping_eq (h : entry.IsRecord) :
    readPortMapping entry = match entryMembers entry with
      | none => some none
      | some (eport, dip, dport) => (eport.asString.bind stoi).bind fun e =>
          dip.asString.bind fun d => (dport.asString.bind stoi).bind fun p =>
            some (some ⟨BitVec.ofInt 16 e, strncpy 32 d, BitVec.ofInt 16 p⟩) := by
  unfold readPortMapping entryMembers
  rw [JsonValue.find_record h, JsonValue.find_record h, JsonValue.find_record h]
  cases entry.member "eport" with
  | none => rfl
  | some eport =>
      cases entry.member "dip" with
      | none => rfl
      | some dip =>
          cases entry.member "dport" with
          | none => rfl
          | some dport => rfl

theorem readPortMapping_isSome_iff : (readPortMapping entry).isSome ↔ EntryReads entry := by
  by_cases hrecord : entry.IsRecord
  · rw [readPortMapping_eq hrecord]
    cases hmembers : entryMembers entry with
    | none =>
        refine ⟨fun _ => ⟨hrecord, ?_, ?_, ?_⟩, fun _ => rfl⟩
        · intro e d p h
          rw [hmembers] at h
          cases h
        · intro e d p h
          rw [hmembers] at h
          cases h
        · intro e d p h
          rw [hmembers] at h
          cases h
    | some members =>
        obtain ⟨eport, dip, dport⟩ := members
        have hthree : (((eport.asString.bind stoi).bind fun e => dip.asString.bind fun d =>
            (dport.asString.bind stoi).bind fun p =>
              some (some (PortMapping.mk (BitVec.ofInt 16 e) (strncpy 32 d)
                (BitVec.ofInt 16 p)))) : Option (Option PortMapping)).isSome ↔
            (eport.asString.bind stoi).isSome ∧ dip.asString.isSome ∧
              (dport.asString.bind stoi).isSome := by
          cases eport.asString.bind stoi with
          | none => exact ⟨fun h => absurd h Bool.false_ne_true, fun h => h.1⟩
          | some e =>
              cases dip.asString with
              | none => exact ⟨fun h => absurd h Bool.false_ne_true, fun h => h.2.1⟩
              | some d =>
                  cases dport.asString.bind stoi with
                  | none => exact ⟨fun h => absurd h Bool.false_ne_true, fun h => h.2.2⟩
                  | some p => exact ⟨fun _ => ⟨rfl, rfl, rfl⟩, fun _ => rfl⟩
        refine hthree.trans ⟨fun h => ⟨hrecord, ?_, ?_, ?_⟩, fun h => ?_⟩
        · intro e d p hm
          rw [hmembers] at hm
          cases hm
          exact h.1
        · intro e d p hm
          rw [hmembers] at hm
          cases hm
          exact JsonValue.asString_isSome_iff.mp h.2.1
        · intro e d p hm
          rw [hmembers] at hm
          cases hm
          exact h.2.2
        · exact ⟨h.eport _ _ _ hmembers, JsonValue.asString_isSome_iff.mpr (h.dip _ _ _ hmembers),
            h.dport _ _ _ hmembers⟩
  · refine ⟨fun h => ?_, fun h => absurd h.record hrecord⟩
    obtain ⟨r, hr⟩ := Option.isSome_iff_exists.mp h
    unfold readPortMapping at hr
    cases heport : entry.find "eport" with
    | none =>
        rw [heport] at hr
        cases hr
    | some eport => exact absurd (JsonValue.isRecord_of_find heport) hrecord

theorem readAll_isSome_iff {ι ρ : Type} {read : ι → Option (Option ρ)} (items : List ι) :
    (readAll read items).isSome ↔ ∀ x ∈ items, (read x).isSome := by
  induction items with
  | nil => exact ⟨fun _ x hx => absurd hx List.not_mem_nil, fun _ => rfl⟩
  | cons x rest ih =>
      rw [readAll, List.forall_mem_cons, ← ih]
      cases read x with
      | none => exact ⟨fun h => absurd h Bool.false_ne_true, fun h => h.1⟩
      | some r =>
          cases readAll read rest with
          | none => exact ⟨fun h => absurd h Bool.false_ne_true, fun h => h.2⟩
          | some rs => exact ⟨fun _ => ⟨rfl, rfl⟩, fun _ => rfl⟩

/-- The entries of `port-mapping`, if that is an array. -/
def portEntries (config : JsonValue) : List JsonValue :=
  match config.member "port-mapping" with
  | some (.arr items) => items
  | _ => []

theorem readPortMappings_eq (h : config.IsRecord) :
    readPortMappings config = readAll readPortMapping (portEntries config) := by
  unfold readPortMappings portEntries
  rw [JsonValue.find_record h]
  cases config.member "port-mapping" with
  | none => rfl
  | some x =>
      cases x with
      | arr items => rfl
      | null | bool | int | real | str | obj => rfl

/-- A configuration can be read. -/
structure ConfigReads (config : JsonValue) : Prop where
  record : config.IsRecord
  texts : ∀ name ∈ ["user_id", "vlan_id", "account_name", "password", "dhcp_addr_pool",
    "dhcp_subnet", "dhcp_gateway"], ∀ x, config.member name = some x → x.HasText
  flags : ∀ name ∈ ["dns_proxy_enable", "tcp_conntrack_enable", "ipv6_enable"], ∀ x n,
    config.member name = some x → x.integral = some n → -0x80000000 ≤ n ∧ n < 0x80000000
  entries : ∀ entry ∈ portEntries config, EntryReads entry

/-- The configuration in a value. -/
def configPart (root : JsonValue) : JsonValue := (root.member "config").getD root

/-- A value can be read, but for its metadata. -/
structure ValueReads (root : JsonValue) : Prop where
  record : root.IsRecord
  config : ConfigReads (configPart root)

/-- The metadata of a value can be read. -/
def MetadataReads (root : JsonValue) : Prop :=
  ∀ metadata, root.member "metadata" = some metadata → metadata.IsRecord ∧
    ∀ name ∈ ["updatedBy", "updatedAt", "resourceVersion"], ∀ x,
      metadata.member name = some x → x.HasText

theorem configObj_eq (h : root.IsRecord) : configObj root = some (configPart root) := by
  unfold configObj configPart
  rw [JsonValue.find_record h]
  cases root.member "config" with
  | none => rfl
  | some config => rfl

/-- What has been read where a configuration is read. -/
theorem parse_cases {r : UserHsiConfig × Bool} (h : parseHsiConfig (some root) = some r) :
    ∃ config, configObj root = some config ∧
      (∀ name ∈ ["user_id", "vlan_id", "account_name", "password", "dhcp_addr_pool",
        "dhcp_subnet", "dhcp_gateway"], (config.getText name).isSome) ∧
      (readFlag "dns_proxy_enable" true "false" config).isSome ∧
      (readFlag "tcp_conntrack_enable" true "false" config).isSome ∧
      (readFlag "ipv6_enable" false "true" config).isSome ∧
      readPortMappings config = some r.1.portMappings := by
  unfold parseHsiConfig at h
  rw [Option.bind_eq_bind, Option.bind_some] at h
  obtain ⟨config, hconfig, h⟩ := Option.bind_eq_some_iff.mp h
  obtain ⟨userId, huser, h⟩ := Option.bind_eq_some_iff.mp h
  obtain ⟨vlanId, hvlan, h⟩ := Option.bind_eq_some_iff.mp h
  obtain ⟨accountName, haccount, h⟩ := Option.bind_eq_some_iff.mp h
  obtain ⟨password, hpassword, h⟩ := Option.bind_eq_some_iff.mp h
  obtain ⟨dhcpAddrPool, hpool, h⟩ := Option.bind_eq_some_iff.mp h
  obtain ⟨dhcpSubnet, hsubnet, h⟩ := Option.bind_eq_some_iff.mp h
  obtain ⟨dhcpGateway, hgateway, h⟩ := Option.bind_eq_some_iff.mp h
  obtain ⟨dnsProxyEnable, hdns, h⟩ := Option.bind_eq_some_iff.mp h
  obtain ⟨tcpConntrackEnable, htcp, h⟩ := Option.bind_eq_some_iff.mp h
  obtain ⟨ipv6Enable, hipv6, h⟩ := Option.bind_eq_some_iff.mp h
  obtain ⟨desireStatus, hstatus, h⟩ := Option.bind_eq_some_iff.mp h
  obtain ⟨portMappings, hports, hresult⟩ := Option.bind_eq_some_iff.mp h
  have hr := congrArg (fun r => r.1.portMappings) (Option.some.inj hresult)
  refine ⟨config, hconfig, ?_, Option.isSome_of_eq_some hdns, Option.isSome_of_eq_some htcp,
    Option.isSome_of_eq_some hipv6, hports.trans (congrArg some hr)⟩
  simp only [List.forall_mem_cons]
  exact ⟨Option.isSome_of_eq_some huser, Option.isSome_of_eq_some hvlan,
    Option.isSome_of_eq_some haccount, Option.isSome_of_eq_some hpassword,
    Option.isSome_of_eq_some hpool, Option.isSome_of_eq_some hsubnet,
    Option.isSome_of_eq_some hgateway, fun x hx => absurd hx List.not_mem_nil⟩

theorem isRecord_of_configObj (h : configObj root = some config) : root.IsRecord := by
  unfold configObj at h
  cases hfind : root.find "config" with
  | none =>
      rw [hfind] at h
      cases h
  | some x => exact JsonValue.isRecord_of_find hfind

theorem isRecord_of_getText {name : String} (h : (v.getText name).isSome) : v.IsRecord := by
  unfold JsonValue.getText at h
  cases hfind : v.find name with
  | none =>
      rw [hfind] at h
      cases h
  | some x => exact JsonValue.isRecord_of_find hfind

theorem parse_isSome_iff : (parseHsiConfig (some root)).isSome ↔ ValueReads root := by
  refine ⟨fun h => ?_, fun h => ?_⟩
  · obtain ⟨r, hr⟩ := Option.isSome_iff_exists.mp h
    obtain ⟨config, hconfig, htexts, hdns, htcp, hipv6, hports⟩ := parse_cases hr
    have hroot := isRecord_of_configObj hconfig
    have hrecord := isRecord_of_getText (htexts "user_id" List.mem_cons_self)
    rw [configObj_eq hroot, Option.some.injEq] at hconfig
    subst hconfig
    refine ⟨hroot, hrecord, fun name hname => ?_, ?_, fun entry hentry => ?_⟩
    · exact (JsonValue.getText_isSome_iff hrecord name).mp (htexts name hname)
    · simp only [List.forall_mem_cons]
      refine ⟨?_, ?_, ?_, fun x hx => absurd hx List.not_mem_nil⟩
      · exact (readFlag_isSome_iff hrecord _ _ _).mp hdns
      · exact (readFlag_isSome_iff hrecord _ _ _).mp htcp
      · exact (readFlag_isSome_iff hrecord _ _ _).mp hipv6
    · rw [readPortMappings_eq hrecord] at hports
      exact readPortMapping_isSome_iff.mp
        ((readAll_isSome_iff _).mp (Option.isSome_of_eq_some hports) entry hentry)
  · have hrecord := h.config.record
    have htext : ∀ name ∈ ["user_id", "vlan_id", "account_name", "password", "dhcp_addr_pool",
        "dhcp_subnet", "dhcp_gateway"], ∃ text, (configPart root).getText name = some text :=
      fun name hname => Option.isSome_iff_exists.mp
        ((JsonValue.getText_isSome_iff hrecord name).mpr (h.config.texts name hname))
    have hflag : ∀ dflt word, ∀ name ∈ ["dns_proxy_enable", "tcp_conntrack_enable",
        "ipv6_enable"], ∃ b, readFlag name dflt word (configPart root) = some b :=
      fun dflt word name hname => Option.isSome_iff_exists.mp
        ((readFlag_isSome_iff hrecord name dflt word).mpr (h.config.flags name hname))
    simp only [List.forall_mem_cons] at htext hflag
    obtain ⟨⟨userId, huser⟩, ⟨vlanId, hvlan⟩, ⟨accountName, haccount⟩, ⟨password, hpassword⟩,
      ⟨dhcpAddrPool, hpool⟩, ⟨dhcpSubnet, hsubnet⟩, ⟨dhcpGateway, hgateway⟩, -⟩ := htext
    obtain ⟨⟨dnsProxyEnable, hdns⟩, ⟨tcpConntrackEnable, htcp⟩, -⟩ := hflag true "false"
    obtain ⟨-, -, ⟨ipv6Enable, hipv6⟩, -⟩ := hflag false "true"
    obtain ⟨desireStatus, hstatus⟩ :
        ∃ status, readDesireStatus (configPart root) = some status := by
      unfold readDesireStatus
      rw [JsonValue.find_record hrecord]
      split
      · rename_i hnone
        cases hnone
      · exact ⟨_, rfl⟩
      · exact ⟨_, rfl⟩
    obtain ⟨portMappings, hports⟩ : ∃ pms, readPortMappings (configPart root) = some pms := by
      rw [readPortMappings_eq hrecord]
      refine Option.isSome_iff_exists.mp ((readAll_isSome_iff _).mpr fun entry hentry => ?_)
      exact readPortMapping_isSome_iff.mpr (h.config.entries entry hentry)
    exact Option.isSome_of_eq_some (parse_of_parts (configObj_eq h.record) huser hvlan haccount
      hpassword hpool hsubnet hgateway hdns htcp hipv6 hstatus hports)

theorem readMetadata_isSome_iff (h : root.IsRecord) :
    (readMetadata root).isSome ↔ MetadataReads root := by
  unfold readMetadata MetadataReads
  rw [JsonValue.find_record h]
  cases hmeta : root.member "metadata" with
  | none =>
      refine ⟨fun _ m hm => ?_, fun _ => rfl⟩
      cases hm
  | some metadata =>
      simp only [Option.bind_eq_bind]
      refine ⟨fun hsome m hm => ?_, fun hreads => ?_⟩
      · cases hm
        obtain ⟨r, hr⟩ := Option.isSome_iff_exists.mp hsome
        obtain ⟨updatedBy, hby, hr⟩ := Option.bind_eq_some_iff.mp hr
        obtain ⟨updatedAt, hat, hr⟩ := Option.bind_eq_some_iff.mp hr
        obtain ⟨resourceVersion, hversion, hr⟩ := Option.bind_eq_some_iff.mp hr
        have hrecord : metadata.IsRecord := isRecord_of_getText (Option.isSome_of_eq_some hby)
        have htext : ∀ {name text}, metadata.getText name = some text → ∀ x,
            metadata.member name = some x → x.HasText := fun h =>
          (JsonValue.getText_isSome_iff hrecord _).mp (Option.isSome_of_eq_some h)
        refine ⟨hrecord, ?_⟩
        simp only [List.forall_mem_cons]
        exact ⟨htext hby, htext hat, htext hversion, fun x hx => absurd hx List.not_mem_nil⟩
      · obtain ⟨hrecord, htexts⟩ := hreads metadata rfl
        have htext : ∀ name ∈ ["updatedBy", "updatedAt", "resourceVersion"],
            ∃ text, metadata.getText name = some text := fun name hname =>
          Option.isSome_iff_exists.mp
            ((JsonValue.getText_isSome_iff hrecord name).mpr (htexts name hname))
        simp only [List.forall_mem_cons] at htext
        obtain ⟨⟨updatedBy, hby⟩, ⟨updatedAt, hat⟩, ⟨resourceVersion, hversion⟩, -⟩ := htext
        simp only [hby, hat, hversion, Option.bind_some]
        rfl

/-! ### The two readers -/

/-- What a reader gives that also reads the metadata. -/
def gotConfig : Except EtcdRefusal HsiConfigFull → Option UserHsiConfig
  | .ok full => some full.config
  | .error _ => none

/-- Two readings that go on alike from the same beginning. -/
theorem map_bind_alike {α β γ δ : Type} {o : Option α} {f : α → Option β} {f' : α → Option γ}
    {m : β → δ} {k : γ → Option δ} (h : ∀ x, (f x).map m = (f' x).bind k) :
    (o.bind f).map m = (o.bind f').bind k := by
  cases o with
  | none => rfl
  | some x => exact h x

/-- What the second reader makes of a value is what the first does, if it has metadata. -/
theorem readHsiConfigFull_config (modRevision : Int) :
    (readHsiConfigFull root modRevision).map HsiConfigFull.config =
      (parseHsiConfig (some root)).bind fun r => (readMetadata root).map fun _ => r.1 := by
  unfold readHsiConfigFull parseHsiConfig
  show _ = ((configObj root).bind _).bind _
  refine map_bind_alike fun config => ?_
  refine map_bind_alike fun userId => ?_
  refine map_bind_alike fun vlanId => ?_
  refine map_bind_alike fun accountName => ?_
  refine map_bind_alike fun password => ?_
  refine map_bind_alike fun dhcpAddrPool => ?_
  refine map_bind_alike fun dhcpSubnet => ?_
  refine map_bind_alike fun dhcpGateway => ?_
  refine map_bind_alike fun dnsProxyEnable => ?_
  refine map_bind_alike fun tcpConntrackEnable => ?_
  refine map_bind_alike fun ipv6Enable => ?_
  refine map_bind_alike fun desireStatus => ?_
  refine map_bind_alike fun portMappings => ?_
  cases readMetadata root with
  | none => rfl
  | some metadata => rfl

/-- The second reader is the first, if the metadata can be read. -/
theorem gotConfig_get (modRevision : Int) :
    gotConfig (getHsiConfig (some root) modRevision) =
      (parseHsiConfig (some root)).bind fun r => (readMetadata root).map fun _ => r.1 := by
  rw [← readHsiConfigFull_config modRevision]
  unfold getHsiConfig
  dsimp only
  cases readHsiConfigFull root modRevision with
  | none => rfl
  | some full => rfl

/-- The two readers accept a value alike and make the same of it. -/
def ReadersAgree (value : Option JsonValue) (modRevision : Int) : Prop :=
  (parseHsiConfig value).map Prod.fst = gotConfig (getHsiConfig value modRevision)

theorem readersAgree_iff (modRevision : Int) :
    ReadersAgree (some root) modRevision ↔ (ValueReads root → MetadataReads root) := by
  unfold ReadersAgree
  rw [gotConfig_get]
  cases hparse : parseHsiConfig (some root) with
  | none =>
      refine ⟨fun _ hreads => ?_, fun _ => rfl⟩
      have hsome := parse_isSome_iff.mpr hreads
      rw [hparse] at hsome
      cases hsome
  | some r =>
      have hreads : ValueReads root := parse_isSome_iff.mp (by rw [hparse]; rfl)
      have hmeta := readMetadata_isSome_iff hreads.record
      cases hm : readMetadata root with
      | none =>
          rw [hm] at hmeta
          refine ⟨fun h => ?_, fun h => absurd (hmeta.mpr (h hreads)) Bool.false_ne_true⟩
          cases h
      | some metadata =>
          rw [hm] at hmeta
          exact ⟨fun _ _ => hmeta.mp rfl, fun _ => rfl⟩

/-! ### Ports -/

namespace JsonValue

/-- The number written in a value: its own, or the one a text begins with. -/
def number : JsonValue → Option Int
  | .int n => some n
  | .real x => x.whole
  | .str s => (strtol s).map Prod.fst
  | _ => none

/-- The number written is that of a port. -/
def IsPort (v : JsonValue) : Prop := ∃ n, v.number = some n ∧ 0 ≤ n ∧ n < 65536

end JsonValue

theorem stoi_eq_some {text : List (BitVec 8)} {n : Int} (h : stoi text = some n) :
    (strtol text).map Prod.fst = some n ∧ -0x80000000 ≤ n ∧ n < 0x80000000 := by
  unfold stoi at h
  obtain ⟨⟨m, rest⟩, hread, hr⟩ := Option.bind_eq_some_iff.mp h
  rw [hread]
  by_cases hint : -0x80000000 ≤ m ∧ m < 0x80000000
  · simp only [if_pos hint] at hr
    cases hr
    exact ⟨rfl, hint⟩
  · simp only [if_neg hint] at hr
    cases hr

theorem toNat_ofInt_eq_iff (n : Int) :
    n = ((BitVec.ofInt 16 n).toNat : Int) ↔ 0 ≤ n ∧ n < 65536 := by
  rw [BitVec.toNat_ofInt]
  omega

/-- A port read is the number written exactly when that is the number of a port. -/
theorem number_eq_port_iff {n : Int} (h : v.asString.bind stoi = some n) :
    v.number = some ((BitVec.ofInt 16 n).toNat : Int) ↔ v.IsPort := by
  -- A text and an integer are read as the number they are.
  have hsame : v.number = some n → (v.number = some ((BitVec.ofInt 16 n).toNat : Int) ↔
      v.IsPort) := by
    intro hn
    rw [hn, Option.some.injEq, toNat_ofInt_eq_iff]
    refine ⟨fun hrange => ⟨n, hn, hrange⟩, fun hport => ?_⟩
    obtain ⟨m, hm, hrange⟩ := hport
    rw [hn] at hm
    cases hm
    exact hrange
  cases v with
  | str s => exact hsame (stoi_eq_some h).1
  | int m =>
      obtain ⟨hread, hint⟩ := stoi_eq_some h
      rw [strtol_toDecimal, Option.map_some, Option.some.injEq] at hread
      unfold clampInt64 at hread
      exact hsame (congrArg some (by omega))
  | real x =>
      refine ⟨fun hw => ⟨_, hw, by omega, by omega⟩, fun hport => ?_⟩
      obtain ⟨m, hm, hlow, hhigh⟩ := hport
      have hread := x.printed m hm (by omega) (by omega)
      have hn : some m = some n := hread.symm.trans h
      cases hn
      rw [hm, Option.some.injEq, toNat_ofInt_eq_iff]
      exact ⟨hlow, hhigh⟩
  | null => cases h
  | bool b =>
      have hnone : stoi (asciiBytes (if b then "true" else "false")) = none := by
        cases b with
        | true => decide
        | false => decide
      have hsome : none = some n := hnone.symm.trans h
      cases hsome
  | arr items => cases h
  | obj fields => cases h

/-- The numbers of a port mapping as they are written, if it has its members. -/
def entryPorts (entry : JsonValue) : Option (Option Int × Option Int) :=
  (entryMembers entry).map fun members => (members.1.number, members.2.2.number)

/-- The ports of a configuration are the numbers written. -/
def PortsAsWritten (root : JsonValue) (c : UserHsiConfig) : Prop :=
  c.portMappings.map (fun pm => (some (pm.eport.toNat : Int), some (pm.dport.toNat : Int))) =
    (portEntries (configPart root)).filterMap entryPorts

/-- The numbers written are those of ports. -/
def PortsInRange (root : JsonValue) : Prop :=
  ∀ entry ∈ portEntries (configPart root), ∀ e d p, entryMembers entry = some (e, d, p) →
    e.IsPort ∧ p.IsPort

theorem readPortMapping_ports (hrecord : entry.IsRecord) {r : Option PortMapping}
    (h : readPortMapping entry = some r) :
    (entryMembers entry = none ∧ r = none) ∨
      ∃ e d p pm, entryMembers entry = some (e, d, p) ∧ r = some pm ∧
        (e.number = some (pm.eport.toNat : Int) ↔ e.IsPort) ∧
        (p.number = some (pm.dport.toNat : Int) ↔ p.IsPort) := by
  rw [readPortMapping_eq hrecord] at h
  cases hmembers : entryMembers entry with
  | none =>
      rw [hmembers] at h
      cases h
      exact .inl ⟨rfl, rfl⟩
  | some members =>
      obtain ⟨e, d, p⟩ := members
      rw [hmembers] at h
      obtain ⟨eport, heport, h⟩ := Option.bind_eq_some_iff.mp h
      obtain ⟨dip, hdip, h⟩ := Option.bind_eq_some_iff.mp h
      obtain ⟨dport, hdport, h⟩ := Option.bind_eq_some_iff.mp h
      cases h
      exact .inr ⟨e, d, p, _, rfl, rfl, number_eq_port_iff heport, number_eq_port_iff hdport⟩

theorem ports_iff {items : List JsonValue} {pms : List PortMapping}
    (hrecord : ∀ entry ∈ items, IsRecord entry) (h : readAll readPortMapping items = some pms) :
    pms.map (fun pm => (some (pm.eport.toNat : Int), some (pm.dport.toNat : Int))) =
        items.filterMap entryPorts ↔
      ∀ entry ∈ items, ∀ e d p, entryMembers entry = some (e, d, p) → e.IsPort ∧ p.IsPort := by
  induction items generalizing pms with
  | nil =>
      cases h
      exact ⟨fun _ entry hentry => absurd hentry List.not_mem_nil, fun _ => rfl⟩
  | cons entry rest ih =>
      rw [readAll] at h
      obtain ⟨r, hr, h⟩ := Option.bind_eq_some_iff.mp h
      obtain ⟨rs, hrs, h⟩ := Option.map_eq_some_iff.mp h
      subst h
      have hrest := ih (fun entry' h' => hrecord entry' (List.mem_cons_of_mem _ h')) hrs
      rw [List.forall_mem_cons, ← hrest]
      obtain ⟨hnone, rfl⟩ | ⟨e, d, p, pm, hmembers, rfl, heport, hdport⟩ :=
        readPortMapping_ports (hrecord entry List.mem_cons_self) hr
      · have hskip : entryPorts entry = none := by
          unfold entryPorts
          rw [hnone]
          rfl
        rw [List.filterMap_cons_none hskip]
        refine ⟨fun h => ⟨fun e d p hm => ?_, h⟩, fun h => h.2⟩
        rw [hnone] at hm
        cases hm
      · have htold : entryPorts entry = some (e.number, p.number) := by
          unfold entryPorts
          rw [hmembers]
          rfl
        rw [List.filterMap_cons_some htold]
        show (_, _) :: _ = _ ↔ _
        rw [List.cons.injEq, Prod.mk.injEq, eq_comm, heport, eq_comm (b := p.number), hdport]
        refine and_congr_left' ⟨fun h e' d' p' hm => ?_, fun h => h e d p hmembers⟩
        rw [hmembers] at hm
        cases hm
        exact h

theorem portsAsWritten_iff {c : UserHsiConfig} {connect : Bool}
    (h : parseHsiConfig (some root) = some (c, connect)) :
    PortsAsWritten root c ↔ PortsInRange root := by
  have hreads : ValueReads root := parse_isSome_iff.mp (Option.isSome_of_eq_some h)
  obtain ⟨config, hconfig, -, -, -, -, hports⟩ := parse_cases h
  rw [configObj_eq hreads.record, Option.some.injEq] at hconfig
  rw [← hconfig, readPortMappings_eq hreads.config.record] at hports
  exact ports_iff (fun entry hentry => (hreads.config.entries entry hentry).record) hports

/-! ### Documents

The port mappings of a document are what `parsePortMappings` reads.
-/

mutual

/-- A document, as a value. -/
def ofJson : Json → JsonValue
  | .null => .null
  | .bool b => .bool b
  | .int n => .int n
  | .str s => .str s
  | .arr items => .arr (ofJsonItems items)
  | .obj fields => .obj (ofJsonFields fields)

def ofJsonItems : List Json → List JsonValue
  | [] => []
  | j :: rest => ofJson j :: ofJsonItems rest

def ofJsonFields : List (String × Json) → List (String × JsonValue)
  | [] => []
  | (name, j) :: rest => (name, ofJson j) :: ofJsonFields rest

end

theorem lookup_ofJsonFields (name : String) (fields : List (String × Json)) :
    (ofJsonFields fields).lookup name = (Json.getField name fields).map ofJson := by
  induction fields with
  | nil => rfl
  | cons field rest ih =>
      obtain ⟨name', j⟩ := field
      rw [ofJsonFields, List.lookup_cons, Json.getField_cons]
      by_cases hname : name' = name
      · rw [if_pos hname, beq_iff_eq.mpr hname.symm]
        rfl
      · rw [if_neg hname, beq_eq_false_iff_ne.mpr fun h => hname h.symm]
        exact ih

theorem asString_ofJson (j : Json) : (ofJson j).asString = asText j := by
  cases j with
  | null | bool | int | str | arr | obj => rfl

theorem readPortMapping_ofJson (entry : Json) :
    readPortMapping (ofJson entry) = parsePortMapping entry := by
  cases entry with
  | null | bool | int | str | arr => rfl
  | obj fields =>
      unfold readPortMapping parsePortMapping
      simp only [ofJson, JsonValue.find, lookup_ofJsonFields, Json.get]
      cases Json.getField "eport" fields with
      | none => rfl
      | some eport =>
          cases Json.getField "dip" fields with
          | none => rfl
          | some dip =>
              cases Json.getField "dport" fields with
              | none => rfl
              | some dport =>
                  simp only [Option.map_some, asString_ofJson]

theorem readAll_ofJsonItems (items : List Json) :
    readAll readPortMapping (ofJsonItems items) = readAll parsePortMapping items := by
  induction items with
  | nil => rfl
  | cons entry rest ih => rw [ofJsonItems, readAll, readAll, readPortMapping_ofJson, ih]

theorem readPortMappings_ofJson {root : Json} (h : (configPart (ofJson root)).IsRecord) :
    readPortMappings (configPart (ofJson root)) = parsePortMappings root := by
  have hmember : ∀ (name : String) (j : Json),
      (ofJson j).member name = (j.get name).map ofJson := by
    intro name j
    cases j with
    | null | bool | int | str | arr => rfl
    | obj fields => exact lookup_ofJsonFields name fields
  have hpart : configPart (ofJson root) = ofJson ((root.get "config").getD root) := by
    unfold configPart
    rw [hmember]
    cases root.get "config" with
    | none => rfl
    | some config => rfl
  rw [readPortMappings_eq h, hpart]
  unfold portEntries parsePortMappings Json.getArray
  rw [hmember]
  cases hentries : ((root.get "config").getD root).get "port-mapping" with
  | none => simp only [hentries]; rfl
  | some j =>
      cases j with
      | arr items =>
          simp only [hentries]
          exact readAll_ofJsonItems items
      | null | bool | int | str | obj => simp only [hentries]; rfl

/-! ### Values -/

/-- The readers make one configuration of a value, or none, and its ports are the numbers
written. -/
structure ReadAsWritten (value : Option JsonValue) (modRevision : Int) : Prop where
  readers : ReadersAgree value modRevision
  parsed : ∀ root c connect, value = some root →
    parseHsiConfig value = some (c, connect) → PortsAsWritten root c
  got : ∀ root full, value = some root →
    getHsiConfig value modRevision = .ok full → PortsAsWritten root full.config

theorem readAsWritten_iff (value : Option JsonValue) (modRevision : Int) :
    ReadAsWritten value modRevision ↔ ∀ root, value = some root → ValueReads root →
      MetadataReads root ∧ PortsInRange root := by
  cases value with
  | none =>
      refine ⟨fun _ root h => ?_, fun _ => ⟨rfl, fun root c connect h => ?_, fun root full h => ?_⟩⟩
      · cases h
      · cases h
      · cases h
  | some root =>
      refine ⟨fun h root' hroot hreads => ?_, fun h => ?_⟩
      · cases hroot
        obtain ⟨⟨c, connect⟩, hparse⟩ := Option.isSome_iff_exists.mp (parse_isSome_iff.mpr hreads)
        exact ⟨(readersAgree_iff modRevision).mp h.readers hreads,
          (portsAsWritten_iff hparse).mp (h.parsed root c connect rfl hparse)⟩
      · have hreaders : ReadersAgree (some root) modRevision :=
          (readersAgree_iff modRevision).mpr fun hreads => (h root rfl hreads).1
        have hparsed : ∀ c connect, parseHsiConfig (some root) = some (c, connect) →
            PortsAsWritten root c := fun c connect hparse => by
          have hreads : ValueReads root := parse_isSome_iff.mp (Option.isSome_of_eq_some hparse)
          exact (portsAsWritten_iff hparse).mpr (h root rfl hreads).2
        refine ⟨hreaders, fun root' c connect hroot hparse => ?_, fun root' full hroot hget => ?_⟩
        · cases hroot
          exact hparsed c connect hparse
        · cases hroot
          unfold ReadersAgree at hreaders
          rw [hget] at hreaders
          obtain ⟨⟨c, connect⟩, hparse, hc⟩ := Option.map_eq_some_iff.mp hreaders
          have hconfig : c = full.config := hc
          rw [← hconfig]
          exact hparsed c connect hparse

/--
**What is written of an HSI configuration is read.**

A configuration written and read back is the same, to be disconnected where it did not say.  A
value is read alike by both readers, with the ports as they are written, exactly when the metadata
of what can be read can be read too and every number written for a port is one.
-/
theorem hsi_value_read_iff (nodeId updatedBy now : List (BitVec 8)) (c : UserHsiConfig)
    (value : Option JsonValue) (modRevision : Int) :
    (c.Terminated → parseHsiConfig (some (buildHsiConfigJson nodeId c updatedBy now)) =
      some (c.readBack, decide (c.readBack.desireStatus = desireStatusConnect))) ∧
    (ReadAsWritten value modRevision ↔
      ∀ root, value = some root → ValueReads root → MetadataReads root ∧ PortsInRange root) :=
  ⟨parse_build nodeId updatedBy now, readAsWritten_iff value modRevision⟩

/-- A configuration with a port mapping. -/
def mappedConfig : UserHsiConfig where
  userId := asciiBytes "1"
  vlanId := asciiBytes "100"
  accountName := asciiBytes "user"
  password := asciiBytes "pass"
  dhcpAddrPool := asciiBytes "192.168.1.2~192.168.1.9"
  dhcpSubnet := asciiBytes "255.255.255.0"
  dhcpGateway := asciiBytes "192.168.1.1"
  dnsProxyEnable := true
  tcpConntrackEnable := false
  ipv6Enable := true
  desireStatus := []
  portMappings := [⟨8080, asciiBytes "192.168.1.5", 80⟩]

theorem hsi_value_read_mapped :
    parseHsiConfig (some (buildHsiConfigJson (asciiBytes "node") mappedConfig [] [])) =
      some (mappedConfig.readBack, decide (mappedConfig.readBack.desireStatus =
        desireStatusConnect)) :=
  (hsi_value_read_iff (asciiBytes "node") [] [] mappedConfig none 0).1
    { userId := ⟨by decide, by decide⟩
      vlanId := ⟨by decide, by decide⟩
      accountName := ⟨by decide, by decide⟩
      password := ⟨by decide, by decide⟩
      dhcpAddrPool := ⟨by decide, by decide⟩
      dhcpSubnet := ⟨by decide, by decide⟩
      dhcpGateway := ⟨by decide, by decide⟩
      desireStatus := ⟨by decide, by decide⟩
      dip := fun pm hpm => by
        rw [List.mem_singleton.mp hpm]
        exact ⟨by decide, by decide⟩ }

/-- A value with a port mapping from port 70000. -/
def portSeventyThousand : JsonValue :=
  .obj [("config", .obj [("port-mapping", .arr [.obj [("eport", .str (asciiBytes "70000")),
    ("dip", .str (asciiBytes "192.168.1.5")), ("dport", .str (asciiBytes "80"))]])])]

/-- A value whose metadata are a list. -/
def listedMetadata : JsonValue := .obj [("config", .obj []), ("metadata", .arr [])]

/-- The number 70000 is read as the port 4464, and a value with a list for metadata is read by one
reader only. -/
theorem port_reduced_metadata_refused :
    ¬ ReadAsWritten (some portSeventyThousand) 0 ∧
      (parseHsiConfig (some portSeventyThousand)).map (fun r => r.1.portMappings.map (·.eport)) =
        some [4464] ∧
      ¬ ReadAsWritten (some listedMetadata) 0 := by
  refine ⟨fun h => ?_, by decide, fun h => ?_⟩
  · have hparse : ∃ c connect, parseHsiConfig (some portSeventyThousand) = some (c, connect) ∧
        c.portMappings = [⟨4464, asciiBytes "192.168.1.5", 80⟩] := ⟨_, _, rfl, by decide⟩
    obtain ⟨c, connect, hparse, hports⟩ := hparse
    have hwritten := h.parsed _ c connect rfl hparse
    unfold PortsAsWritten at hwritten
    rw [hports] at hwritten
    exact absurd hwritten (by decide)
  · have hreaders := h.readers
    unfold ReadersAgree at hreaders
    exact absurd hreaders (by decide)

end FastRG
