/-
Learning and forgetting LAN hosts: `mac_table.h` and `mac_table.c`.

An address is stored as one word, the six bytes of the MAC and above them the generation it was
learned in.  A reset only raises the generation.  Whether the hash has room for a new key is its
own affair, so that comes as an argument; a key that is there has its word replaced.  The hash goes
over its entries in an order of its own, and the cursor of an iteration counts them.

A MAC is its six bytes as the machine loads them, the first lowest.  `learn_fail` is only reported
and left out.
-/
import FastRG.DpCodec

namespace FastRG

/-- `mac_table_pack`. -/
def macTablePack (mac : BitVec 48) (gen : BitVec 16) : BitVec 64 :=
  (List.range 6).foldl
      (fun v i => v ||| ((mac.extractLsb' (i * 8) 8).setWidth 64 <<< (i * 8))) 0 |||
    (gen.setWidth 64 <<< 48)

/-- `mac_table_unpack`: the generation, and the MAC. -/
def macTableUnpack (v : BitVec 64) : BitVec 16 × BitVec 48 :=
  (v.extractLsb' 48 16, v.extractLsb' 0 48)

/-- `mac_table_alloc`. -/
def MacTable.alloc : MacTable := ⟨∅, 0⟩

/-- `mac_table_learn`: whether the address is in the table with this MAC and generation.  `room` is
whether the hash has a place for a new key. -/
def macTableLearn (table : MacTable) (ipBe : BitVec 32) (mac : BitVec 48) (room : Bool) :
    Bool × MacTable :=
  let want := macTablePack mac table.generation
  match table.hash.lookup ipBe with
  | some data =>
      if data = want then (true, table)
      else (true, { table with hash := table.hash.insert ipBe want })
  | none =>
      if room then (true, { table with hash := table.hash.insert ipBe want }) else (false, table)

/-- `mac_table_reset`. -/
def macTableReset (table : MacTable) : MacTable :=
  { table with generation := table.generation + 1 }

/-- The loop of `mac_table_iterate`, over the entries that are left from a cursor on. -/
def macTableIterateFrom (curGen : BitVec 16) :
    List (Sigma fun _ : BitVec 32 => BitVec 64) → Nat → Option (BitVec 32 × BitVec 48 × Nat)
  | [], _ => none
  | ⟨ip, data⟩ :: rest, next =>
      if (macTableUnpack data).1 ≠ curGen then macTableIterateFrom curGen rest (next + 1)
      else some (ip, (macTableUnpack data).2, next + 1)

/-- `mac_table_iterate`: the next address, its MAC, and where the cursor is then. -/
def macTableIterate (table : MacTable) (next : Nat) : Option (BitVec 32 × BitVec 48 × Nat) :=
  macTableIterateFrom table.generation (table.hash.entries.drop next) next

/-- What a caller sees who iterates from a cursor until nothing comes. -/
def macTableWalk (table : MacTable) : Nat → Nat → List (BitVec 32 × BitVec 48)
  | 0, _ => []
  | calls + 1, next =>
      match macTableIterate table next with
      | none => []
      | some (ip, mac, next) => (ip, mac) :: macTableWalk table calls next

/-- The operations on a table. -/
inductive MacOp
  | learn (ipBe : BitVec 32) (mac : BitVec 48) (room : Bool)
  | lookup (ipBe : BitVec 32)
  | reset
  | iterate (next : Nat)

def MacTable.step (table : MacTable) : MacOp → MacTable
  | .learn ipBe mac room => (macTableLearn table ipBe mac room).2
  | .lookup _ => table
  | .reset => macTableReset table
  | .iterate _ => table

end FastRG
