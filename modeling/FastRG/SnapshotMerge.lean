/-
Field edits of the snapshot: `config_snapshot_field_merge`, and `snapshot_field_edit` of
`fastrg_node_grpc.cpp`.

An edit reads the value of a key, merges a field into it, and stores the result.  The three steps
each take the lock or none; what runs between them is another thread's.
-/
import FastRG.ConfigSnapshot

namespace FastRG

/-! ### Merging a field -/

/-- The kinds of field edits, with the value of each. -/
inductive FieldEdit
  | dnsProxy (value : List (BitVec 8))
  | tcpConntrack (value : List (BitVec 8))
  | ipv6 (value : List (BitVec 8))
  | desire (value : List (BitVec 8))
  | snatUpsert (value : JsonText)
  | snatRemove (value : List (BitVec 8))
  | dnsAdd (value : JsonText)
  | dnsDel (value : List (BitVec 8))
  deriving DecidableEq

/-- Every item is an object whose member of this name is a string. -/
def allNamed (name : String) (items : List Json) : Bool :=
  items.all fun item => item.isObject && (item.getString name).isSome

/-- `json_string`. -/
def jsonString (name : String) (j : Json) : List (BitVec 8) := (j.getString name).getD []

/-- The first item with this name replaced, or the item added. -/
def upsert (name : String) (entry : Json) : List Json → List Json
  | [] => [entry]
  | item :: rest =>
      if jsonString name item = jsonString name entry then entry :: rest
      else item :: upsert name entry rest

/-- The items numbered in order. -/
def renumber (items : List Json) : List Json :=
  items.zipIdx.map fun (item, i) => item.set "index" (.str (toDecimal i))

/-- The array of a name, or none there. -/
def arrayOr (name : String) (j : Json) : List Json := (j.getArray name).getD []

/-- The kinds that edit a subscriber's DNS records.  What is no document is built anew. -/
def mergeDns (current : Option JsonText) (edit : List Json → Option (List Json)) :
    Option JsonText := do
  let env := match current.bind JsonText.parse with
    | some (.obj fields) => Json.obj fields
    | _ => Json.obj []
  let records := arrayOr "records" env
  if allNamed "domain" records = false then none
  else
    let records ← edit records
    some (.doc (env.set "records" (.arr records)))

/-- The kinds that edit a subscriber's configuration. -/
def mergeConfig (current : Option JsonText) (edit : Json → Option Json) : Option JsonText := do
  let cur ← current.bind JsonText.parse
  match cur.get "config" with
  | some (.obj fields) =>
      let cfg ← edit (.obj fields)
      some (.doc (cur.set "config" cfg))
  | some .null =>
      let cfg ← edit (.obj [])
      some (.doc (cur.set "config" cfg))
  | _ => none

/-- A toggle, which is on for the text "true". -/
def setToggle (name : String) (value : List (BitVec 8)) (cfg : Json) : Option Json :=
  some (cfg.set name (.bool (decide (value = asciiBytes "true"))))

/-- A port mapping put in the place of the one with its port, or at the end. -/
def upsertMapping (value : JsonText) (cfg : Json) : Option Json := do
  let entry ← value.parse
  if entry.isObject = false ∨ entry.getString "eport" = none then none
  else
    let mappings := arrayOr "port-mapping" cfg
    if allNamed "eport" mappings = false then none
    else some (cfg.set "port-mapping" (.arr (renumber (upsert "eport" entry mappings))))

/-- The port mappings of a port taken out. -/
def removeMapping (eport : List (BitVec 8)) (cfg : Json) : Option Json :=
  let mappings := arrayOr "port-mapping" cfg
  if allNamed "eport" mappings = false then none
  else
    some (cfg.set "port-mapping"
      (.arr (renumber (mappings.filter fun m => jsonString "eport" m ≠ eport))))

/-- A DNS record put in the place of the one with its domain, or at the end. -/
def upsertRecord (value : JsonText) (records : List Json) : Option (List Json) := do
  let record ← value.parse
  if record.isObject = false ∨ record.getString "domain" = none then none
  else some (upsert "domain" record records)

/-- `config_snapshot_field_merge`. -/
def fieldMerge (current : Option JsonText) : FieldEdit → Option JsonText
  | .dnsProxy value => mergeConfig current (setToggle "dns_proxy_enable" value)
  | .tcpConntrack value => mergeConfig current (setToggle "tcp_conntrack_enable" value)
  | .ipv6 value => mergeConfig current (setToggle "ipv6_enable" value)
  | .desire value => mergeConfig current fun cfg => some (cfg.set "desire_status" (.str value))
  | .snatUpsert value => mergeConfig current (upsertMapping value)
  | .snatRemove value => mergeConfig current (removeMapping value)
  | .dnsAdd value => mergeDns current (upsertRecord value)
  | .dnsDel value =>
      if current = none then none
      else mergeDns current fun records =>
        some (records.filter fun r => jsonString "domain" r ≠ value)

/-- The call with its status and what it puts out, which is cleared before anything else. -/
def configSnapshotFieldMerge (current : Option JsonText) (edit : FieldEdit) :
    Status × Option JsonText :=
  match fieldMerge current edit with
  | none => (.error, none)
  | some merged => (.success, some merged)

/-! ### `snapshot_field_edit` -/

/-- A call: the edit, its summary, and whether it may make the value. -/
structure FieldCall where
  edit : FieldEdit
  summary : List (BitVec 8)
  allowCreate : Bool
  deriving DecidableEq

/-- The merge of a call onto the value it has read. -/
def FieldCall.merge (call : FieldCall) (cur : Option JsonText) : Option JsonText :=
  if cur = none ∧ call.allowCreate = false then none else fieldMerge cur call.edit

/-- `snapshot_field_edit`, with nothing in between. -/
def snapshotFieldEdit (key : SnapshotKey) (s : ConfigSnapshot) (call : FieldCall)
    (now : SnapshotTime) : Status × ConfigSnapshot :=
  match call.merge (s.get key) with
  | none => (.error, s)
  | some merged => s.offlineEdit key merged call.summary now

/-! ### Threads -/

/-- How far a call has got. -/
inductive EditThread
  | ready
  | read (cur : Option JsonText)
  | merged (cur : Option JsonText) (value : JsonText)
  | finished
  deriving DecidableEq

/-- The snapshot, and the calls at work on one of its keys. -/
structure EditSystem where
  snapshot : ConfigSnapshot
  threads : Nat → EditThread

/-- The steps of a call. -/
inductive EditLabel
  | get (i : Nat)
  | merge (i : Nat)
  | store (i : Nat) (now : SnapshotTime)

/-- A call gets on. -/
def EditSystem.setThread (p : EditSystem) (i : Nat) (th : EditThread) : EditSystem :=
  { p with threads := Function.update p.threads i th }

/-- One step of one call; the others stay where they are. -/
def editStep (key : SnapshotKey) (calls : Nat → FieldCall) (p : EditSystem) : EditLabel → EditSystem
  | .get i =>
      match p.threads i with
      | .ready => p.setThread i (.read (p.snapshot.get key))
      | _ => p
  | .merge i =>
      match p.threads i with
      | .read cur =>
          match (calls i).merge cur with
          | none => p.setThread i .finished
          | some value => p.setThread i (.merged cur value)
      | _ => p
  | .store i now =>
      match p.threads i with
      | .merged _ value =>
          { (p.setThread i .finished) with
            snapshot := (p.snapshot.offlineEdit key value (calls i).summary now).2 }
      | _ => p

end FastRG
