/-
The values of the store under `hsi`: `build_hsi_config_json`, `parse_hsi_config` and
`get_hsi_config` of `etcd_client.cpp`.

A value is what `jsoncpp` makes of a text, which may be nothing.  Numbers that do not fit into 64
bits are real numbers there.  A member asked of what is neither an object nor null throws, and so
does a conversion that is not to be had; what throws ends the reading.  There is memory for the
port mappings.
-/
import FastRG.EtcdClient

namespace FastRG

/-! ### Values -/

/-- A real number: how it is printed, and the integer of 64 bits it is, if it is one.  A whole
number that fits an `int` is printed with its digits in front. -/
structure JsonReal where
  text : List (BitVec 8)
  whole : Option Int
  printed : ∀ n, whole = some n → -0x80000000 ≤ n → n < 0x80000000 → stoi text = some n

/-- `Json::Value`. -/
inductive JsonValue
  | null
  | bool (b : Bool)
  | int (n : Int)
  | real (x : JsonReal)
  | str (s : List (BitVec 8))
  | arr (items : List JsonValue)
  | obj (fields : List (String × JsonValue))

namespace JsonValue

/-- The member of a name, if there is one: `isMember`, and then `operator[]`. -/
def find (name : String) : JsonValue → Option (Option JsonValue)
  | .null => some none
  | .obj fields => some (fields.lookup name)
  | _ => none

/-- `asString`. -/
def asString : JsonValue → Option (List (BitVec 8))
  | .null => some []
  | .bool b => some (asciiBytes (if b then "true" else "false"))
  | .int n => some (toDecimal n)
  | .real x => some x.text
  | .str s => some s
  | .arr _ | .obj _ => none

/-- The integer it is: `isIntegral`. -/
def integral : JsonValue → Option Int
  | .int n => some n
  | .real x => x.whole
  | _ => none

/-- `get(name, "").asString()`. -/
def getText (name : String) (v : JsonValue) : Option (List (BitVec 8)) :=
  match v.find name with
  | none => none
  | some none => some []
  | some (some x) => x.asString

end JsonValue

/-! ### Configurations -/

/-- `hsi_config_t`, with the user it is for. -/
structure UserHsiConfig extends HsiConfig where
  userId : List (BitVec 8)
  deriving DecidableEq

/-- `hsi_config_full_t`. -/
structure HsiConfigFull where
  config : UserHsiConfig
  updatedBy : List (BitVec 8)
  updatedAt : List (BitVec 8)
  resourceVersion : List (BitVec 8)
  modRevision : Int
  deriving DecidableEq

/-- What `get_hsi_config` returns of a value it does not accept. -/
inductive EtcdRefusal
  | configParseFailed
  | error
  deriving DecidableEq

/-- `DESIRE_STATUS_CONNECT` and `DESIRE_STATUS_DISCONNECT`. -/
def desireStatusConnect : List (BitVec 8) := asciiBytes "connect"
def desireStatusDisconnect : List (BitVec 8) := asciiBytes "disconnect"

/-! ### Writing -/

/-- An entry of `port-mapping`. -/
def portMappingEntry (i : Nat) (pm : PortMapping) : JsonValue :=
  .obj [("index", .str (toDecimal i)), ("eport", .str (toDecimal pm.eport.toNat)),
    ("dip", .str pm.dip), ("dport", .str (toDecimal pm.dport.toNat))]

/-- `build_hsi_config_json`. -/
def buildHsiConfigJson (nodeId : List (BitVec 8)) (config : UserHsiConfig)
    (updatedBy now : List (BitVec 8)) : JsonValue :=
  .obj [
    ("config", .obj ([
      ("user_id", .str config.userId),
      ("vlan_id", .str config.vlanId),
      ("account_name", .str config.accountName),
      ("password", .str config.password),
      ("dhcp_addr_pool", .str config.dhcpAddrPool),
      ("dhcp_subnet", .str config.dhcpSubnet),
      ("dhcp_gateway", .str config.dhcpGateway),
      ("dns_proxy_enable", .bool config.dnsProxyEnable),
      ("tcp_conntrack_enable", .bool config.tcpConntrackEnable),
      ("ipv6_enable", .bool config.ipv6Enable),
      ("desire_status", .str
        (if config.desireStatus ≠ [] then config.desireStatus else desireStatusDisconnect))] ++
      if config.portMappings = [] then []
      else [("port-mapping",
        .arr (config.portMappings.mapIdx portMappingEntry))])),
    ("metadata", .obj [
      ("node", .str nodeId),
      ("resourceVersion", .str []),
      ("updatedBy", .str updatedBy),
      ("updatedAt", .str now)])]

/-! ### Reading -/

/-- The member `config` of a value, or all of it. -/
def configObj (root : JsonValue) : Option JsonValue :=
  match root.find "config" with
  | none => none
  | some none => some root
  | some (some config) => some config

/-- A flag that is `dflt` where it is not there; of texts only `word` says the other. -/
def readFlag (name : String) (dflt : Bool) (word : String) (config : JsonValue) : Option Bool :=
  match config.find name with
  | none => none
  | some none => some dflt
  | some (some (.bool b)) => some b
  | some (some (.str s)) => some (if s = asciiBytes word then !dflt else dflt)
  | some (some v) =>
      match v.integral with
      | none => some dflt
      | some n => if -0x80000000 ≤ n ∧ n < 0x80000000 then some (n ≠ 0) else none

/-- The member `desire_status`, where it is a text. -/
def readDesireStatus (config : JsonValue) : Option (List (BitVec 8)) :=
  match config.find "desire_status" with
  | none => none
  | some (some (.str s)) => some (strncpy 16 s)
  | some _ => some []

/-- An entry of `port-mapping`, which counts if it has all three members. -/
def readPortMapping (entry : JsonValue) : Option (Option PortMapping) :=
  match entry.find "eport", entry.find "dip", entry.find "dport" with
  | some (some eport), some (some dip), some (some dport) => do
      let eport ← eport.asString.bind stoi
      let dip ← dip.asString
      let dport ← dport.asString.bind stoi
      some (some ⟨BitVec.ofInt 16 eport, strncpy 32 dip, BitVec.ofInt 16 dport⟩)
  | some _, some _, some _ => some none
  | _, _, _ => none

/-- The member `port-mapping`, where it is an array. -/
def readPortMappings (config : JsonValue) : Option (List PortMapping) :=
  match config.find "port-mapping" with
  | none => none
  | some (some (.arr items)) => readAll readPortMapping items
  | some _ => some []

/-- `parse_hsi_config`: the configuration, and whether it is to be connected. -/
def parseHsiConfig (root : Option JsonValue) : Option (UserHsiConfig × Bool) := do
  let root ← root
  let config ← configObj root
  let userId ← config.getText "user_id"
  let vlanId ← config.getText "vlan_id"
  let accountName ← config.getText "account_name"
  let password ← config.getText "password"
  let dhcpAddrPool ← config.getText "dhcp_addr_pool"
  let dhcpSubnet ← config.getText "dhcp_subnet"
  let dhcpGateway ← config.getText "dhcp_gateway"
  let dnsProxyEnable ← readFlag "dns_proxy_enable" true "false" config
  let tcpConntrackEnable ← readFlag "tcp_conntrack_enable" true "false" config
  let ipv6Enable ← readFlag "ipv6_enable" false "true" config
  let desireStatus ← readDesireStatus config
  let portMappings ← readPortMappings config
  return ({
    userId := strncpy 64 userId
    vlanId := strncpy 16 vlanId
    accountName := strncpy 256 accountName
    password := strncpy 256 password
    dhcpAddrPool := strncpy 64 dhcpAddrPool
    dhcpSubnet := strncpy 32 dhcpSubnet
    dhcpGateway := strncpy 32 dhcpGateway
    dnsProxyEnable, tcpConntrackEnable, ipv6Enable, desireStatus, portMappings },
    desireStatus = desireStatusConnect)

/-- The metadata of a value: who has written it last, when, and its version. -/
def readMetadata (root : JsonValue) :
    Option (List (BitVec 8) × List (BitVec 8) × List (BitVec 8)) :=
  match root.find "metadata" with
  | none => none
  | some none => some ([], [], [])
  | some (some metadata) => do
      let updatedBy ← metadata.getText "updatedBy"
      let updatedAt ← metadata.getText "updatedAt"
      let resourceVersion ← metadata.getText "resourceVersion"
      return (strncpy 64 updatedBy, strncpy 32 updatedAt, strncpy 64 resourceVersion)

/-- The part of `get_hsi_config` that may throw. -/
def readHsiConfigFull (root : JsonValue) (modRevision : Int) : Option HsiConfigFull := do
  let config ← configObj root
  let userId ← config.getText "user_id"
  let vlanId ← config.getText "vlan_id"
  let accountName ← config.getText "account_name"
  let password ← config.getText "password"
  let dhcpAddrPool ← config.getText "dhcp_addr_pool"
  let dhcpSubnet ← config.getText "dhcp_subnet"
  let dhcpGateway ← config.getText "dhcp_gateway"
  let dnsProxyEnable ← readFlag "dns_proxy_enable" true "false" config
  let tcpConntrackEnable ← readFlag "tcp_conntrack_enable" true "false" config
  let ipv6Enable ← readFlag "ipv6_enable" false "true" config
  let desireStatus ← readDesireStatus config
  let portMappings ← readPortMappings config
  let (updatedBy, updatedAt, resourceVersion) ← readMetadata root
  return {
    config := {
      userId := strncpy 64 userId
      vlanId := strncpy 16 vlanId
      accountName := strncpy 256 accountName
      password := strncpy 256 password
      dhcpAddrPool := strncpy 64 dhcpAddrPool
      dhcpSubnet := strncpy 32 dhcpSubnet
      dhcpGateway := strncpy 32 dhcpGateway
      dnsProxyEnable, tcpConntrackEnable, ipv6Enable, desireStatus, portMappings }
    updatedBy, updatedAt, resourceVersion, modRevision }

/-- `get_hsi_config`, once the store has given the value and its revision. -/
def getHsiConfig (root : Option JsonValue) (modRevision : Int) :
    Except EtcdRefusal HsiConfigFull :=
  match root with
  | none => .error .configParseFailed
  | some root =>
      match readHsiConfigFull root modRevision with
      | none => .error .error
      | some full => .ok full

end FastRG
