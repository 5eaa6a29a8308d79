/-
Reading numbers and addresses out of configuration texts: `utils.c`, and the functions of the C
library it calls.

A text is the bytes of a string before its NUL.  An address is held as the machine loads its
four bytes, so that the first octet is the low one.
-/
import FastRG.Common
import FastRG.Lib.Decimal

namespace FastRG

/-- A text of the source, as bytes. -/
def asciiBytes (s : String) : List (BitVec 8) := s.toList.map fun c => BitVec.ofNat 8 c.toNat

/-! ### The C library -/

/-- `isspace`. -/
def isSpace (b : BitVec 8) : Bool := b == 32 || (9 ≤ b.toNat && b.toNat ≤ 13)

/-- A value held within 64 bits. -/
def clampInt64 (n : Int) : Int := max (-0x8000000000000000) (min 0x7fffffffffffffff n)

/-- `strtol` in base ten: the value, and the text after the digits.  Nothing was read when there
are no digits. -/
def strtol (text : List (BitVec 8)) : Option (Int × List (BitVec 8)) :=
  let signed (sign : Int) (text : List (BitVec 8)) :=
    (Decimal.read (text.takeWhile Decimal.isDigit)).map fun n =>
      (clampInt64 (sign * n), text.dropWhile Decimal.isDigit)
  match text.dropWhile isSpace with
  | 43 :: rest => signed 1 rest
  | 45 :: rest => signed (-1) rest
  | rest => signed 1 rest

/-- `strtol`, when it reads the text to its end. -/
def strtolWhole (text : List (BitVec 8)) : Option Int :=
  match strtol text with
  | some (n, []) => some n
  | _ => none

/-- A `long` cut down to an `int`. -/
def toInt32 (n : Int) : Int := (BitVec.ofInt 32 n).toInt

/-- `atoi`. -/
def atoi (text : List (BitVec 8)) : Int := toInt32 ((strtol text).map Prod.fst |>.getD 0)

/-- `std::to_string`. -/
def toDecimal (n : Int) : List (BitVec 8) :=
  if n < 0 then 45 :: Decimal.write n.natAbs else Decimal.write n.natAbs

/-- `%u` of `sscanf`: an `unsigned long`, cut down to 32 bits. -/
def scanUnsigned (text : List (BitVec 8)) : Option (Nat × List (BitVec 8)) :=
  let signed (neg : Bool) (text : List (BitVec 8)) :=
    (Decimal.read (text.takeWhile Decimal.isDigit)).map fun n =>
      let value := if 0x10000000000000000 ≤ n then 0xffffffffffffffff
        else if neg then (0x10000000000000000 - n) % 0x10000000000000000 else n
      (value % 0x100000000, text.dropWhile Decimal.isDigit)
  match text.dropWhile isSpace with
  | 43 :: rest => signed false rest
  | 45 :: rest => signed true rest
  | rest => signed false rest

/-- A dot of the format. -/
def scanDot : List (BitVec 8) → Option (List (BitVec 8))
  | 46 :: rest => some rest
  | _ => none

/-- `sscanf` with `"%u.%u.%u.%u"`, when it reads all four. -/
def scanQuad (text : List (BitVec 8)) : Option (Nat × Nat × Nat × Nat) := do
  let (a, text) ← scanUnsigned text
  let text ← scanDot text
  let (b, text) ← scanUnsigned text
  let text ← scanDot text
  let (c, text) ← scanUnsigned text
  let text ← scanDot text
  let (d, _) ← scanUnsigned text
  return (a, b, c, d)

/-- An address from its octets. -/
def quadAddr (a b c d : Nat) : BitVec 32 :=
  BitVec.ofNat 8 d ++ BitVec.ofNat 8 c ++ BitVec.ofNat 8 b ++ BitVec.ofNat 8 a

/-- What `inet_pton` has read: the octets before, and the one it is in. -/
abbrev InetPton := List Nat × Option Nat

/-- `inet_pton` at one character. -/
def inetPtonStep (st : InetPton) (ch : BitVec 8) : Option InetPton :=
  if Decimal.isDigit ch then
    let digit := ch.toNat - 48
    match st with
    | (octets, none) => if octets.length = 4 then none else some (octets, some digit)
    | (_, some 0) => none
    | (octets, some n) => if 255 < n * 10 + digit then none else some (octets, some (n * 10 + digit))
  else if ch = 46 then
    match st with
    | (octets, some n) => if octets.length = 3 then none else some (octets ++ [n], none)
    | (_, none) => none
  else none

/-- `inet_pton` of `AF_INET`. -/
def inetPton (text : List (BitVec 8)) : Option (BitVec 32) :=
  match text.foldlM inetPtonStep ([], none) with
  | some ([a, b, c], some d) => some (quadAddr a b c d)
  | _ => none

/-! ### `utils.c` -/

/-- `parse_ip`. -/
def parseIp (text : List (BitVec 8)) : Option (BitVec 32) := do
  let (a, b, c, d) ← scanQuad text
  if 255 < a ∨ 255 < b ∨ 255 < c ∨ 255 < d then none else some (quadAddr a b c d)

/-- `parse_ip` with the variable it writes to, and whether it succeeds. -/
def parseIpInto (text : List (BitVec 8)) (ipAddr : BitVec 32) : Bool × BitVec 32 :=
  match scanQuad text with
  | none => (false, ipAddr)
  | some (a, b, c, d) =>
      if 255 < a ∨ 255 < b ∨ 255 < c ∨ 255 < d then (false, ipAddr) else (true, quadAddr a b c d)

/-- `parse_ip_range`: two addresses around a `~`, or else around a `-`. -/
def parseIpRange (text : List (BitVec 8)) : Option (BitVec 32 × BitVec 32) := do
  let copy := text.take 127
  let delimiter : BitVec 8 := if copy.contains 0x7e then 0x7e else 0x2d
  if copy.contains delimiter = false then none
  else
    let ipStart ← parseIp (copy.takeWhile (· ≠ delimiter))
    let ipEnd ← parseIp ((copy.dropWhile (· ≠ delimiter)).drop 1)
    if swap32 ipEnd < swap32 ipStart then none else some (ipStart, ipEnd)

/-- `parse_ip_range` with the variables it writes to: they are written before the two addresses
are compared. -/
def parseIpRangeInto (text : List (BitVec 8)) (out : BitVec 32 × BitVec 32) :
    Bool × BitVec 32 × BitVec 32 :=
  let copy := text.take 127
  let delimiter : BitVec 8 := if copy.contains 0x7e then 0x7e else 0x2d
  if copy.contains delimiter = false then (false, out)
  else
    match parseIp (copy.takeWhile (· ≠ delimiter)),
        parseIp ((copy.dropWhile (· ≠ delimiter)).drop 1) with
    | some ipStart, some ipEnd => (!decide (swap32 ipEnd < swap32 ipStart), ipStart, ipEnd)
    | _, _ => (false, out)

/-- `parse_vlan_id`. -/
def parseVlanId (text : List (BitVec 8)) : Option Nat := do
  let val ← strtolWhole text
  if val < 1 ∨ 4094 < val then none else some val.toNat

/-- `parse_user_id`: the index of a subscriber among so many. -/
def parseUserId (text : List (BitVec 8)) (maxCount : Nat) : Option Nat := do
  let val ← strtolWhole text
  let ccbId := toInt32 val - 1
  if ccbId < 0 ∨ (maxCount : Int) ≤ ccbId then none else some ccbId.toNat

end FastRG
