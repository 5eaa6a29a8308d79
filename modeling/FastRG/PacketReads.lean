/-
A message as a buffer to read from.

The bytes of a message are the memory that a reading computation looks at, and what it reads there
is what stands in the message.
-/
import FastRG.Common
import FastRG.Lib.Reader

namespace FastRG

/-- The bytes of a message, as they lie in memory. -/
def byteAt (pkt : List (BitVec 8)) (i : Nat) : BitVec 8 := pkt.getD i 0

theorem val_u8 (pkt : List (BitVec 8)) (pos : Nat) :
    (Rd.u8 (byteAt pkt) pos).val = pkt.getD pos 0 := rfl

theorem val_be16 (pkt : List (BitVec 8)) (pos : Nat) :
    (Rd.be16 (byteAt pkt) pos).val = be16At pkt pos := rfl

theorem val_be32 (pkt : List (BitVec 8)) (pos : Nat) :
    (Rd.be32 (byteAt pkt) pos).val = be32At pkt pos := rfl

/-- Bytes read one by one are the bytes that stand there. -/
theorem val_bytes {pkt : List (BitVec 8)} {pos len : Nat} (h : pos + len ≤ pkt.length) :
    (Rd.bytes (byteAt pkt) pos len).val = (pkt.drop pos).take len := by
  show (List.range len).map (fun i => byteAt pkt (pos + i)) = _
  apply List.ext_getElem
  · rw [List.length_map, List.length_range, List.length_take, List.length_drop]
    omega
  · intro i hi hi'
    rw [List.length_map, List.length_range] at hi
    rw [List.getElem_map, List.getElem_range, List.getElem_take, List.getElem_drop]
    unfold byteAt
    rw [List.getD_eq_getElem?_getD, List.getElem?_eq_getElem (by omega), Option.getD_some]

end FastRG
