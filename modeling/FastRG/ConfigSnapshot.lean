/-
The configuration snapshot: `config_snapshot.cpp`.

The snapshot mirrors the configuration in etcd, one entry a key, and holds the edits made on the
node while etcd was out of reach.  An entry with such an edit is dirty until the edit has been
reported.  A report copies the dirty entries, works on the copies, and clears an entry only if
nothing was edited since: the copy has the entry's edit number.  Each operation runs under one
lock and is one step.

A stored text is what it parses to, or bytes that are no document.  The numbers of edits are
natural numbers: a 64-bit count of edits made by hand does not wrap.  Whether the file could be
written is left out; the entries in memory do not depend on it.
-/
import FastRG.Utils
import FastRG.Lib.Json
import Mathlib.Data.List.AList

namespace FastRG

/-- `snapshot_kind_t`. -/
inductive SnapshotKind
  | hsi
  | dns
  | count
  deriving DecidableEq

/-- `map_key`: the kind and the user's identifier. -/
abbrev SnapshotKey := SnapshotKind × List (BitVec 8)

/-- `Entry`. -/
structure SnapshotEntry where
  value : JsonText
  live : Bool
  dirty : Bool
  editedAt : Nat
  summary : List (BitVec 8)
  editSeq : Nat
  deriving DecidableEq

/-- An entry that `operator[]` has just made. -/
def SnapshotEntry.zero : SnapshotEntry := ⟨.empty, false, false, 0, [], 0⟩

/-- An entry of the dirty set, as a report copies it. -/
structure DirtyItem where
  key : SnapshotKey
  /-- The value, or nothing for a deletion. -/
  value : Option JsonText
  rv : List (BitVec 8)
  editedAt : Nat
  summary : List (BitVec 8)
  editSeq : Nat
  deriving DecidableEq

/-- The entries, and the copies that reports have taken so far. -/
structure ConfigSnapshot where
  entries : AList (fun _ : SnapshotKey => SnapshotEntry)
  initialized : Bool
  copied : List DirtyItem

/-! ### Resource versions -/

/-- `parse_rv`. -/
def parseRv (value : JsonText) : Option Int := do
  let root ← value.parse
  let metadata ← root.get "metadata"
  let rv := (metadata.getString "resourceVersion").getD []
  if metadata.isObject = false ∨ rv = [] then none else strtolWhole rv

/-- The version after the one an entry has, in 64 bits. -/
def nextRv (e : SnapshotEntry) : List (BitVec 8) :=
  if e.live = false ∧ e.value = .empty then toDecimal 1
  else
    match parseRv e.value with
    | none => toDecimal 2
    | some cur => toDecimal (BitVec.ofInt 64 (cur + 1)).toInt

/-! ### Edits -/

/-- `SNAPSHOT_UPDATED_BY`. -/
def snapshotUpdatedBy : List (BitVec 8) :=
  "fastrg-node-offline".toList.map fun c => BitVec.ofNat 8 c.toNat

/-- The clock at an edit, in seconds and as text. -/
structure SnapshotTime where
  seconds : Nat
  iso8601 : List (BitVec 8)
  deriving DecidableEq

/-- The metadata of a document brought up to date. -/
def stampMetadata (rv : List (BitVec 8)) (now : SnapshotTime) (root : Json) : Json :=
  let metadata :=
    match root.get "metadata" with
    | some (.obj fields) => Json.obj fields
    | _ => Json.obj []
  root.set "metadata" (((metadata.set "resourceVersion" (.str rv)).set "updatedAt"
    (.str now.iso8601)).set "updatedBy" (.str snapshotUpdatedBy))

/-- A summary added to the ones before. -/
def addSummary (summary more : List (BitVec 8)) : List (BitVec 8) :=
  if more = [] then summary
  else if summary = [] then more
  else summary ++ [0x3b, 0x20] ++ more

namespace ConfigSnapshot

/-- An entry written. -/
def put (s : ConfigSnapshot) (key : SnapshotKey) (e : SnapshotEntry) : ConfigSnapshot :=
  { s with entries := s.entries.insert key e }

/-- `config_snapshot_watch_update`.  No value is a deletion. -/
def watchUpdate (s : ConfigSnapshot) (key : SnapshotKey) (value : Option JsonText) :
    ConfigSnapshot :=
  if s.initialized = false then s
  else
    let text := value.getD .empty
    match s.entries.lookup key with
    | some e =>
        if e.dirty then s
        else if e.live = value.isSome ∧ e.value = text then s
        else s.put key { e with value := text, live := value.isSome, dirty := false, summary := [] }
    | none => s.put key { SnapshotEntry.zero with value := text, live := value.isSome }

/-- `config_snapshot_get`. -/
def get (s : ConfigSnapshot) (key : SnapshotKey) : Option JsonText :=
  match s.entries.lookup key with
  | some e => if e.live then some e.value else none
  | none => none

/-- `config_snapshot_offline_edit`. -/
def offlineEdit (s : ConfigSnapshot) (key : SnapshotKey) (value : JsonText)
    (summary : List (BitVec 8)) (now : SnapshotTime) : Status × ConfigSnapshot :=
  match value.parse with
  | none => (.error, s)
  | some root =>
      if root.isObject = false then (.error, s)
      else if s.initialized = false then (.error, s)
      else
        let e := (s.entries.lookup key).getD .zero
        (.success, s.put key
          { value := .doc (stampMetadata (nextRv e) now root)
            live := true
            dirty := true
            editedAt := now.seconds
            summary := addSummary e.summary summary
            editSeq := e.editSeq + 1 })

/-- `config_snapshot_offline_delete`. -/
def offlineDelete (s : ConfigSnapshot) (key : SnapshotKey) (summary : List (BitVec 8))
    (now : SnapshotTime) : Status × ConfigSnapshot :=
  if s.initialized = false then (.error, s)
  else
    match s.entries.lookup key with
    | none => (.success, s)
    | some e =>
        if e.live = false then (.success, s)
        else
          (.success, s.put key
            { e with
              live := false
              dirty := true
              editedAt := now.seconds
              summary := addSummary e.summary summary
              editSeq := e.editSeq + 1 })

/-! ### Reports -/

/-- The copy of an entry. -/
def itemOf (key : SnapshotKey) (e : SnapshotEntry) : DirtyItem :=
  { key := key
    value := if e.live then some e.value else none
    rv := ((parseRv e.value).map toDecimal).getD []
    editedAt := e.editedAt
    summary := e.summary
    editSeq := e.editSeq }

/-- The dirty set, as `config_snapshot_foreach_dirty` copies it. -/
def dirtyItems (s : ConfigSnapshot) : List DirtyItem :=
  (s.entries.entries.filter fun kv => kv.2.dirty).map fun kv => itemOf kv.1 kv.2

/-- The live entries, as `config_snapshot_foreach` copies them. -/
def liveItems (s : ConfigSnapshot) : List DirtyItem :=
  (s.entries.entries.filter fun kv => kv.2.live).map fun kv => itemOf kv.1 kv.2

/-- A report begins. -/
def copyDirty (s : ConfigSnapshot) : ConfigSnapshot :=
  { s with copied := s.copied ++ s.dirtyItems }

/-- `config_snapshot_clear_dirty`. -/
def clearDirty (s : ConfigSnapshot) (key : SnapshotKey) (seenEditSeq : Nat) : ConfigSnapshot :=
  match s.entries.lookup key with
  | none => s
  | some e =>
      if e.editSeq ≠ seenEditSeq then s else s.put key { e with dirty := false, summary := [] }

/-! ### The snapshot at work -/

/-- The snapshot at start, with the entries of the file. -/
def loaded (entries : AList (fun _ : SnapshotKey => SnapshotEntry)) : ConfigSnapshot :=
  ⟨entries, true, []⟩

/-- `config_snapshot_init` from what was written: the numbers of edits start again. -/
def reload (s : ConfigSnapshot) : ConfigSnapshot :=
  loaded (s.entries.entries.map fun kv => ⟨kv.1, { kv.2 with editSeq := 0 }⟩).toAList

end ConfigSnapshot

/-- What is done to the snapshot. -/
inductive SnapshotOp
  | offlineEdit (key : SnapshotKey) (value : JsonText) (summary : List (BitVec 8))
      (now : SnapshotTime)
  | offlineDelete (key : SnapshotKey) (summary : List (BitVec 8)) (now : SnapshotTime)
  | watchUpdate (key : SnapshotKey) (value : Option JsonText)
  /-- A report copies the dirty set. -/
  | copyDirty
  /-- A report clears the entry of one of the copies taken so far. -/
  | clearCopied (n : Nat)
  deriving DecidableEq

/-- One operation. -/
def ConfigSnapshot.step (s : ConfigSnapshot) : SnapshotOp → ConfigSnapshot
  | .offlineEdit key value summary now => (s.offlineEdit key value summary now).2
  | .offlineDelete key summary now => (s.offlineDelete key summary now).2
  | .watchUpdate key value => s.watchUpdate key value
  | .copyDirty => s.copyDirty
  | .clearCopied n =>
      match s.copied[n]? with
      | none => s
      | some item => s.clearDirty item.key item.editSeq

/-- What happens to the snapshot in the life of a node: an operation, or a start of the node from
what was written. -/
inductive SnapshotEvent
  | op (op : SnapshotOp)
  | restart
  deriving DecidableEq

/-- One event. -/
def ConfigSnapshot.event (s : ConfigSnapshot) : SnapshotEvent → ConfigSnapshot
  | .op op => s.step op
  | .restart => s.reload

end FastRG
