/-
Reading the values of the store: `parse_dns_records` of `etcd_client.cpp`, and the port mappings
of an HSI value there.

A conversion that throws ends the reading of the whole value, which is then not put in force; an
item with a member missing is passed over.  The other members of an HSI value are read by
conversions of their own, which are left out.
-/
import FastRG.Lib.KeyedEdit
import FastRG.Lib.Json
import FastRG.Northbound

namespace FastRG

/-! ### Conversions -/

/-- `Json::Value::asString`; an array or an object has no text. -/
def asText : Json → Option (List (BitVec 8))
  | .null => some []
  | .bool b => some (asciiBytes (if b then "true" else "false"))
  | .int n => some (toDecimal n)
  | .str s => some s
  | .arr _ | .obj _ => none

/-- `std::stoi`, which throws where there is no number or it does not fit an `int`. -/
def stoi (text : List (BitVec 8)) : Option Int := do
  let (n, _) ← strtol text
  if -0x80000000 ≤ n ∧ n < 0x80000000 then some n else none

/-- `strncpy` into a text of so many bytes, the last of them a NUL. -/
def strncpy (size : Nat) (text : List (BitVec 8)) : List (BitVec 8) :=
  (cString text).take (size - 1)

/-! ### DNS values -/

/-- The `ttl` of a record.  A number outside 64 bits is no integer to the reader, and one outside
32 bits throws. -/
def recordTtl (entry : Json) : Option (BitVec 32) :=
  match entry.get "ttl" with
  | some (.int n) =>
      if n < -0x8000000000000000 ∨ 0x10000000000000000 ≤ n then some 3600
      else if n < 0 ∨ 0x100000000 ≤ n then none
      else some (BitVec.ofInt 32 n)
  | _ => some 3600

/-- `parse_dns_record_from_json`. -/
def parseDnsRecordFromJson (entry : Json) : Option (Option DnsRecordConfig) :=
  match entry.getString "domain", entry.getString "ip" with
  | some domain, some ip =>
      (recordTtl entry).map fun ttl => some ⟨strncpy 256 domain, strncpy 32 ip, ttl⟩
  | _, _ => some none

/-- `parse_dns_records`. -/
def parseDnsRecords (root : Json) : Option (List DnsRecordConfig) :=
  (root.getArray "records").bind (readAll parseDnsRecordFromJson)

/-! ### Port mappings -/

/-- One entry of `port-mapping`. -/
def parsePortMapping (entry : Json) : Option (Option PortMapping) :=
  match entry with
  | .null => some none
  | .obj _ =>
      match entry.get "eport", entry.get "dip", entry.get "dport" with
      | some eport, some dip, some dport => do
          let eport ← (asText eport).bind stoi
          let dip ← asText dip
          let dport ← (asText dport).bind stoi
          some (some ⟨BitVec.ofInt 16 eport, strncpy 32 dip, BitVec.ofInt 16 dport⟩)
      | _, _, _ => some none
  | _ => none

/-- The port mappings of an HSI value, whose configuration is its member `config` or itself. -/
def parsePortMappings (root : Json) : Option (List PortMapping) :=
  let config := (root.get "config").getD root
  match config.getArray "port-mapping" with
  | some entries => readAll parsePortMapping entries
  | none => some []

end FastRG
