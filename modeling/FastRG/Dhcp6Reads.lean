/-
The DHCPv6 client's parser as it looks at the bytes of a message: `dhcpd6.c`.

Both loops over options keep a cursor and how much remains, and give up after a number of rounds
that is a parameter here.  Every byte is read from memory at its offset, so that it is known which
bytes were looked at.
-/
import FastRG.Dhcp6
import FastRG.PacketReads

namespace FastRG

/-- The loop over options, in so many rounds.  `take` is what is done with an option, given its
code, and where its value is and how long. -/
def dhcp6WalkRd {σ : Type} (mem : Nat → BitVec 8)
    (take : σ → BitVec 16 → Nat → Nat → Rd (Option σ)) :
    Nat → Nat → Nat → σ → Rd (Option σ)
  | 0, _, remaining, s => pure (if remaining = 0 then some s else none)
  | rounds + 1, cursor, remaining, s =>
      if remaining = 0 then pure (some s)
      else if remaining < dhcp6OptionHeaderLen then pure none
      else do
        let code ← Rd.be16 mem cursor
        let optLen ← Rd.be16 mem (cursor + 2)
        if remaining - dhcp6OptionHeaderLen < optLen.toNat then pure none
        else
          (take s code (cursor + dhcp6OptionHeaderLen) optLen.toNat).andThen fun s =>
            dhcp6WalkRd mem take rounds (cursor + (dhcp6OptionHeaderLen + optLen.toNat))
              (remaining - (dhcp6OptionHeaderLen + optLen.toNat)) s

/-- The loop of `dhcp6_parse_ia_pd`, at one option. -/
def dhcp6IaPdOptionRd (mem : Nat → BitVec 8) (r : Dhcp6IaPd) (code : BitVec 16)
    (value optLen : Nat) : Rd (Option Dhcp6IaPd) :=
  if code = dhcp6OptStatus then
    if optLen < 2 then pure none
    else do
      let status ← Rd.be16 mem value
      return if status = dhcp6StatusNoPrefix then some { r with noPrefix := true } else some r
  else if code = dhcp6OptIaprefix then
    if r.hasPrefix ∨ optLen ≠ dhcp6IaprefixLen then pure none
    else do
      let plen ← Rd.u8 mem (value + 8)
      if plen ≠ dhcp6PdPlen then pure none
      else
        let pdPrefix ← Rd.bytes mem (value + 9) 16
        return some { r with
          pdPrefix := bytesAt 16 pdPrefix 0 16
          prefixPlen := plen
          hasPrefix := true }
  else pure (some r)

/-- `dhcp6_parse_ia_pd`. -/
def dhcp6ParseIaPdRd (mem : Nat → BitVec 8) (rounds : Nat) (userNum : BitVec 16)
    (data len : Nat) : Rd (Option Dhcp6IaPd) :=
  if len < dhcp6IaPdHeaderLen then pure none
  else do
    let iaid ← Rd.be32 mem data
    if iaid ≠ userNum.setWidth 32 then pure none
    else
      let t1 ← Rd.be32 mem (data + 4)
      (dhcp6WalkRd mem (dhcp6IaPdOptionRd mem) rounds (data + dhcp6IaPdHeaderLen)
          (len - dhcp6IaPdHeaderLen) ⟨t1, Vector.replicate 16 0, 0, false, false⟩).andThen fun r =>
        pure (if r.noPrefix = false ∧ r.hasPrefix = false then none else some r)

/-- The loop of `dhcp6_parse_response`, at one option. -/
def dhcp6ResponseOptionRd (mem : Nat → BitVec 8) (rounds : Nat) (c : Dhcp6Ccb)
    (r : Dhcp6Response) (code : BitVec 16) (value optLen : Nat) : Rd (Option Dhcp6Response) :=
  if code = dhcp6OptServerid then
    if r.hasServer ∨ optLen = 0 ∨ dhcp6ServerDuidMax < optLen then pure none
    else do
      let serverDuid ← Rd.bytes mem value optLen
      return some { r with serverDuid := serverDuid, hasServer := true }
  else if code = dhcp6OptClientid then
    if r.hasClient ∨ optLen ≠ dhcp6DuidLlLen then pure none
    else do
      let clientDuid ← Rd.bytes mem value dhcp6DuidLlLen
      return if clientDuid ≠ c.clientDuid then none else some { r with hasClient := true }
  else if code = dhcp6OptIaPd then
    if r.hasIaPd then pure none
    else
      (dhcp6ParseIaPdRd mem rounds c.userNum value optLen).andThen fun iaPd =>
        pure (some { r with iaPd := iaPd, hasIaPd := true })
  else if code = dhcp6OptDnsServers then
    if r.hasDns ∨ optLen % 16 ≠ 0 then pure none
    else do
      let copyLen := min optLen 32
      let dns ← Rd.bytes mem value copyLen
      return some { r with dns := bytesAt 32 dns 0 copyLen, hasDns := true }
  else pure (some r)

/-- `dhcp6_parse_response`, of a message that begins at offset 0. -/
def dhcp6ParseResponseRd (mem : Nat → BitVec 8) (rounds : Nat) (c : Dhcp6Ccb) (len : Nat)
    (expectedType : BitVec 8) : Rd (Option Dhcp6Response) :=
  if len < dhcp6HeaderLen then pure none
  else do
    let msgType ← Rd.u8 mem 0
    if msgType ≠ expectedType then pure none
    else
      let xid0 ← Rd.u8 mem 1
      let xid1 ← Rd.u8 mem 2
      let xid2 ← Rd.u8 mem 3
      if xid0 ++ xid1 ++ xid2 ≠ c.xid then pure none
      else
        (dhcp6WalkRd mem (dhcp6ResponseOptionRd mem rounds c) rounds dhcp6HeaderLen
            (len - dhcp6HeaderLen) .zero).andThen fun r =>
          pure (if r.hasServer ∧ r.hasClient ∧ r.hasIaPd then some r else none)

/-- `dhcp6_process_message`, which looks at the message through `dhcp6_parse_response` alone. -/
def Dhcp6Ccb.processMessageRd (mem : Nat → BitVec 8) (rounds : Nat) (rand : BitVec 32) (len : Nat)
    (c : Dhcp6Ccb) : Rd (Status × Dhcp6Ccb) :=
  match c.expectedType with
  | none => pure (.error, c)
  | some expectedType => do
      let r ← dhcp6ParseResponseRd mem rounds c len expectedType
      return match r with
        | none => (.error, c)
        | some r =>
            if (c.state = .requesting ∨ c.state = .renewing) ∧ r.serverDuid ≠ c.serverDuid then
              (.error, c)
            else if r.iaPd.noPrefix then (.success, c.noPrefix rand)
            else if c.state = .soliciting then (.success, c.advertised r)
            else (.success, c.replied r)

/-! ### The timer between its callbacks -/

/-- The timer expires: one that was armed once is pending no longer. -/
def Dhcp6Ccb.expire (c : Dhcp6Ccb) : Dhcp6Ccb :=
  match c.timer with
  | some (.single _) => { c with timer := none }
  | _ => c

/-- One operation, where the callback is run by a timer that is pending. -/
def Dhcp6Ccb.timedStep (c : Dhcp6Ccb) : Dhcp6Op → Dhcp6Ccb
  | .timer rand => if c.timer.isSome then c.expire.timerCb rand else c
  | op => c.step op

end FastRG
