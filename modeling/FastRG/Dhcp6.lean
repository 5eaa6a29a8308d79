/-
The DHCPv6 client that asks for a prefix: `dhcpd6.c`.

The client solicits, requests what a server offers, is bound, and renews at T1.  A response is
read option by option, and anything out of place refuses the whole of it.  The prefix becomes
visible to the data plane when `dhcp6_pd_ready` is set, and the gate is the conjunction of that
with IPv6 being enabled and IPV6CP being up.

What is kept here is the client's part of the control block.  A server's DUID is the bytes up to
its length.  A frame that is sent is its type, transaction and server; the rest of its bytes are
left out, and so is the report to the controller.  The random number behind a transaction
identifier is a parameter.
-/
import FastRG.Common
import FastRG.Lib.Walk

namespace FastRG

/-! ### Constants -/

/-- `DHCP6_S_*`. -/
inductive Dhcp6State
  | idle
  | soliciting
  | requesting
  | bound
  | renewing
  deriving DecidableEq

def dhcp6Solicit : BitVec 8 := 1
def dhcp6Advertise : BitVec 8 := 2
def dhcp6Request : BitVec 8 := 3
def dhcp6Renew : BitVec 8 := 5
def dhcp6Reply : BitVec 8 := 7

def dhcp6OptClientid : BitVec 16 := 1
def dhcp6OptServerid : BitVec 16 := 2
def dhcp6OptStatus : BitVec 16 := 13
def dhcp6OptDnsServers : BitVec 16 := 23
def dhcp6OptIaPd : BitVec 16 := 25
def dhcp6OptIaprefix : BitVec 16 := 26

def dhcp6StatusNoPrefix : BitVec 16 := 6
def dhcp6PdPlen : BitVec 8 := 56
def dhcp6LanPlen : BitVec 8 := 64
def dhcp6DefaultT1 : BitVec 32 := 21600

def dhcp6HeaderLen : Nat := 4
def dhcp6OptionHeaderLen : Nat := 4
def dhcp6IaPdHeaderLen : Nat := 12
def dhcp6IaprefixLen : Nat := 25
def dhcp6ServerDuidMax : Nat := 130
def dhcp6DuidLlLen : Nat := 10
def dhcp6RequestMaxRetry : BitVec 8 := 10
def dhcp6SolicitRetrySec : Nat := 3
def dhcp6RequestRetrySec : Nat := 3
def dhcp6RenewRetrySec : Nat := 10
def dhcp6NoPrefixRetrySec : Nat := 60

/-- Sixteen bytes of an address. -/
abbrev Ipv6Bytes := Vector (BitVec 8) 16

/-- Bytes of a buffer, from an offset on, with nothing beyond a length. -/
def bytesAt (n : Nat) (bs : List (BitVec 8)) (off len : Nat) : Vector (BitVec 8) n :=
  Vector.ofFn fun i => if i.val < len then bs.getD (off + i.val) 0 else 0

/-! ### The client -/

/-- How the timer is armed. -/
inductive Dhcp6Timer
  | single (seconds : Nat)
  | periodical (seconds : Nat)
  deriving DecidableEq

/-- A message that was sent. -/
structure Dhcp6Msg where
  msgType : BitVec 8
  xid : BitVec 24
  serverDuid : Option (List (BitVec 8))
  deriving DecidableEq

/-- The client's part of `ppp_ccb_t`, and what it has sent. -/
structure Dhcp6Ccb where
  userNum : BitVec 16
  hsiWanSrcMac : Vector (BitVec 8) 6
  ipv6Enabled : Bool
  ipv6cpUp : Bool
  state : Dhcp6State
  xid : BitVec 24
  serverDuid : List (BitVec 8)
  t1 : BitVec 32
  retry : BitVec 8
  timer : Option Dhcp6Timer
  pdPrefix : Ipv6Bytes
  pdPlen : BitVec 8
  lanPrefix : Ipv6Bytes
  dns : Vector (BitVec 8) 32
  pdReady : Bool
  dpBool : Bool
  raTimer : Bool
  sent : List Dhcp6Msg
  deriving DecidableEq

/-- `dhcp6_derive_lan_prefix`. -/
def dhcp6DeriveLanPrefix (pdPrefix : Ipv6Bytes) (pdPlen : BitVec 8) : Ipv6Bytes :=
  let fullBytes := pdPlen.toNat / 8
  let partialBits := pdPlen.toNat % 8
  if dhcp6LanPlen < pdPlen then Vector.replicate 16 0
  else
    Vector.ofFn fun i =>
      if i.val < fullBytes then pdPrefix.get i
      else if i.val = fullBytes ∧ partialBits ≠ 0 then
        pdPrefix.get i &&& (0xff <<< (8 - partialBits))
      else 0

namespace Dhcp6Ccb

/-- `pppd_ipv6_dp_gate_update`. -/
def dpGateUpdate (c : Dhcp6Ccb) : Dhcp6Ccb :=
  { c with dpBool := c.ipv6Enabled && c.ipv6cpUp && c.pdReady }

/-- `dhcp6_clear_lease`. -/
def clearLease (c : Dhcp6Ccb) : Dhcp6Ccb :=
  { dpGateUpdate { c with pdReady := false } with
    t1 := 0
    pdPlen := 0
    pdPrefix := Vector.replicate 16 0
    lanPrefix := Vector.replicate 16 0
    dns := Vector.replicate 32 0 }

/-- `dhcp6_new_xid`. -/
def newXid (rand : BitVec 32) (c : Dhcp6Ccb) : Dhcp6Ccb := { c with xid := rand.setWidth 24 }

/-- `dhcp6_build_client_duid`. -/
def clientDuid (c : Dhcp6Ccb) : List (BitVec 8) := [0, 3, 0, 1] ++ c.hsiWanSrcMac.toList

/-- `dhcp6_build_packet`.  A server is named in all but a solicitation. -/
def buildPacket (c : Dhcp6Ccb) (msgType : BitVec 8) : Option Dhcp6Msg :=
  if msgType ≠ dhcp6Solicit ∧ msgType ≠ dhcp6Request ∧ msgType ≠ dhcp6Renew then none
  else if msgType = dhcp6Solicit then some ⟨msgType, c.xid, none⟩
  else if c.serverDuid.length = 0 ∨ dhcp6ServerDuidMax < c.serverDuid.length then none
  else some ⟨msgType, c.xid, some c.serverDuid⟩

/-- `dhcp6_send`. -/
def send (msgType : BitVec 8) (c : Dhcp6Ccb) : Dhcp6Ccb :=
  { c with sent := (c.buildPacket msgType).toList ++ c.sent }

/-- `dhcp6_arm`. -/
def arm (timer : Dhcp6Timer) (c : Dhcp6Ccb) : Dhcp6Ccb := { c with timer := some timer }

/-- `nd6_ra_start`, which needs all that the gate needs. -/
def raStart (c : Dhcp6Ccb) : Dhcp6Ccb :=
  if c.ipv6Enabled && c.ipv6cpUp && c.pdReady then { c with raTimer := true } else c

/-- `dhcp6_pd_stop`. -/
def pdStop (c : Dhcp6Ccb) : Dhcp6Ccb :=
  { clearLease { c with raTimer := false, timer := none } with
    state := .idle
    xid := 0
    serverDuid := []
    retry := 0 }

/-- `dhcp6_pd_start`. -/
def pdStart (rand : BitVec 32) (c : Dhcp6Ccb) : Dhcp6Ccb :=
  if c.ipv6Enabled = false ∨ c.ipv6cpUp = false then c
  else
    (({ newXid rand c.pdStop with state := .soliciting } : Dhcp6Ccb).send dhcp6Solicit).arm
      (.periodical dhcp6SolicitRetrySec)

end Dhcp6Ccb

/-! ### Responses -/

/-- One option. -/
structure Dhcp6Option where
  code : BitVec 16
  value : List (BitVec 8)
  deriving DecidableEq

/-- The option at the start of a buffer, and what follows it. -/
def dhcp6NextOption (bs : List (BitVec 8)) : Option (Dhcp6Option × List (BitVec 8)) :=
  let optLen := (be16At bs 2).toNat
  if bs.length < dhcp6OptionHeaderLen then none
  else if bs.length - dhcp6OptionHeaderLen < optLen then none
  else
    some (⟨be16At bs 0, (bs.drop dhcp6OptionHeaderLen).take optLen⟩,
      bs.drop (dhcp6OptionHeaderLen + optLen))

/-- What `dhcp6_parse_ia_pd` has read. -/
structure Dhcp6IaPd where
  t1 : BitVec 32
  pdPrefix : Ipv6Bytes
  prefixPlen : BitVec 8
  noPrefix : Bool
  hasPrefix : Bool
  deriving DecidableEq

/-- The loop of `dhcp6_parse_ia_pd`, at one option. -/
def dhcp6IaPdOption (r : Dhcp6IaPd) (o : Dhcp6Option) : Option Dhcp6IaPd :=
  if o.code = dhcp6OptStatus then
    if o.value.length < 2 then none
    else if be16At o.value 0 = dhcp6StatusNoPrefix then some { r with noPrefix := true }
    else some r
  else if o.code = dhcp6OptIaprefix then
    if r.hasPrefix ∨ o.value.length ≠ dhcp6IaprefixLen then none
    else if o.value.getD 8 0 ≠ dhcp6PdPlen then none
    else
      some { r with
        pdPrefix := bytesAt 16 o.value 9 16
        prefixPlen := o.value.getD 8 0
        hasPrefix := true }
  else some r

/-- `dhcp6_parse_ia_pd`. -/
def dhcp6ParseIaPd (userNum : BitVec 16) (data : List (BitVec 8)) : Option Dhcp6IaPd := do
  if data.length < dhcp6IaPdHeaderLen ∨ be32At data 0 ≠ userNum.setWidth 32 then none
  else
    let r ← Walk.run dhcp6NextOption dhcp6IaPdOption data.length (data.drop dhcp6IaPdHeaderLen)
      ⟨be32At data 4, Vector.replicate 16 0, 0, false, false⟩
    if r.noPrefix = false ∧ r.hasPrefix = false then none else some r

/-- `dhcp6_response_t`, and which options have been seen. -/
structure Dhcp6Response where
  serverDuid : List (BitVec 8)
  iaPd : Dhcp6IaPd
  dns : Vector (BitVec 8) 32
  hasServer : Bool
  hasClient : Bool
  hasIaPd : Bool
  hasDns : Bool
  deriving DecidableEq

/-- A response of which nothing has been read. -/
def Dhcp6Response.zero : Dhcp6Response :=
  ⟨[], ⟨0, Vector.replicate 16 0, 0, false, false⟩, Vector.replicate 32 0, false, false, false,
    false⟩

/-- The loop of `dhcp6_parse_response`, at one option. -/
def dhcp6ResponseOption (c : Dhcp6Ccb) (r : Dhcp6Response) (o : Dhcp6Option) :
    Option Dhcp6Response :=
  if o.code = dhcp6OptServerid then
    if r.hasServer ∨ o.value.length = 0 ∨ dhcp6ServerDuidMax < o.value.length then none
    else some { r with serverDuid := o.value, hasServer := true }
  else if o.code = dhcp6OptClientid then
    if r.hasClient ∨ o.value.length ≠ dhcp6DuidLlLen ∨ o.value ≠ c.clientDuid then none
    else some { r with hasClient := true }
  else if o.code = dhcp6OptIaPd then
    if r.hasIaPd then none
    else (dhcp6ParseIaPd c.userNum o.value).map fun iaPd => { r with iaPd := iaPd, hasIaPd := true }
  else if o.code = dhcp6OptDnsServers then
    if r.hasDns ∨ o.value.length % 16 ≠ 0 then none
    else some { r with dns := bytesAt 32 o.value 0 o.value.length, hasDns := true }
  else some r

/-- `dhcp6_parse_response`. -/
def dhcp6ParseResponse (c : Dhcp6Ccb) (dhcp : List (BitVec 8)) (expectedType : BitVec 8) :
    Option Dhcp6Response := do
  if dhcp.length < dhcp6HeaderLen ∨ dhcp.getD 0 0 ≠ expectedType ∨
      dhcp.getD 1 0 ++ dhcp.getD 2 0 ++ dhcp.getD 3 0 ≠ c.xid then none
  else
    let r ← Walk.run dhcp6NextOption (dhcp6ResponseOption c) dhcp.length
      (dhcp.drop dhcp6HeaderLen) .zero
    if r.hasServer ∧ r.hasClient ∧ r.hasIaPd then some r else none

namespace Dhcp6Ccb

/-- T1, with the default for none. -/
def t1Of (r : Dhcp6Response) : BitVec 32 := if r.iaPd.t1 ≠ 0 then r.iaPd.t1 else dhcp6DefaultT1

/-- The lease of a response, as an offer and a reply store it. -/
def storeLease (r : Dhcp6Response) (c : Dhcp6Ccb) : Dhcp6Ccb :=
  { c with
    t1 := t1Of r
    pdPrefix := r.iaPd.pdPrefix
    pdPlen := r.iaPd.prefixPlen
    lanPrefix := dhcp6DeriveLanPrefix r.iaPd.pdPrefix r.iaPd.prefixPlen
    dns := r.dns }

/-- The server has no prefix: back to soliciting, a minute later. -/
def noPrefix (rand : BitVec 32) (c : Dhcp6Ccb) : Dhcp6Ccb :=
  (newXid rand { c.clearLease with serverDuid := [], state := .soliciting, retry := 0 }).arm
    (.single dhcp6NoPrefixRetrySec)

/-- An offer is taken. -/
def advertised (r : Dhcp6Response) (c : Dhcp6Ccb) : Dhcp6Ccb :=
  (({ c.storeLease r with serverDuid := r.serverDuid, state := .requesting, retry := 0 } :
    Dhcp6Ccb).send dhcp6Request).arm (.periodical dhcp6RequestRetrySec)

/-- A lease is granted, or renewed. -/
def replied (r : Dhcp6Response) (c : Dhcp6Ccb) : Dhcp6Ccb :=
  let c := dpGateUpdate { c with pdReady := false }
  let c := { c.storeLease r with state := .bound, retry := 0 }
  let c := dpGateUpdate { c with pdReady := true }
  c.raStart.arm (.single (t1Of r).toNat)

/-- The type of message a client waits for. -/
def expectedType (c : Dhcp6Ccb) : Option (BitVec 8) :=
  match c.state with
  | .soliciting => some dhcp6Advertise
  | .requesting => some dhcp6Reply
  | .renewing => some dhcp6Reply
  | .idle => none
  | .bound => none

/-- `dhcp6_process_message`. -/
def processMessage (rand : BitVec 32) (dhcp : List (BitVec 8)) (c : Dhcp6Ccb) :
    Status × Dhcp6Ccb :=
  match c.expectedType with
  | none => (.error, c)
  | some expectedType =>
      match dhcp6ParseResponse c dhcp expectedType with
      | none => (.error, c)
      | some r =>
          if (c.state = .requesting ∨ c.state = .renewing) ∧ r.serverDuid ≠ c.serverDuid then
            (.error, c)
          else if r.iaPd.noPrefix then (.success, c.noPrefix rand)
          else if c.state = .soliciting then (.success, c.advertised r)
          else (.success, c.replied r)

/-- `dhcp6_timer_cb`. -/
def timerCb (rand : BitVec 32) (c : Dhcp6Ccb) : Dhcp6Ccb :=
  if c.ipv6Enabled = false ∨ c.ipv6cpUp = false then c.pdStop
  else
    match c.state with
    | .bound =>
        (({ c.newXid rand with state := .renewing, retry := 0 } : Dhcp6Ccb).send dhcp6Renew).arm
          (.periodical dhcp6RenewRetrySec)
    | .renewing =>
        let c := c.send dhcp6Renew
        ({ c with retry := c.retry + 1 } : Dhcp6Ccb).arm (.periodical dhcp6RenewRetrySec)
    | .requesting =>
        if dhcp6RequestMaxRetry ≤ c.retry then
          let c := newXid rand { c.clearLease with serverDuid := [] }
          (({ c with state := .soliciting, retry := 0 } : Dhcp6Ccb).send dhcp6Solicit).arm
            (.periodical dhcp6SolicitRetrySec)
        else
          let c := c.send dhcp6Request
          ({ c with retry := c.retry + 1 } : Dhcp6Ccb).arm (.periodical dhcp6RequestRetrySec)
    | .soliciting =>
        let c := c.send dhcp6Solicit
        ({ c with retry := c.retry + 1 } : Dhcp6Ccb).arm (.periodical dhcp6SolicitRetrySec)
    | .idle => c

/-! ### The client at work -/

/-- IPv6 enabled or disabled, as `set_ipv6_enable` and `apply_hsi_config` do it. -/
def setIpv6Enabled (enable : Bool) (c : Dhcp6Ccb) : Dhcp6Ccb :=
  dpGateUpdate { c with ipv6Enabled := enable }

/-- IPV6CP up or down, and the gate with it. -/
def setIpv6cpUp (up : Bool) (c : Dhcp6Ccb) : Dhcp6Ccb := dpGateUpdate { c with ipv6cpUp := up }

end Dhcp6Ccb

/-- What happens to the client, with the random number a new transaction would get. -/
inductive Dhcp6Op
  | pdStart (rand : BitVec 32)
  | pdStop
  | timer (rand : BitVec 32)
  | message (rand : BitVec 32) (dhcp : List (BitVec 8))
  | ipv6Enabled (enable : Bool)
  | ipv6cpUp (up : Bool)
  /-- `ipv6cp_layer_up`. -/
  | layerUp (rand : BitVec 32)
  /-- `A_this_layer_down` and `ipv6cp_stop`. -/
  | layerDown
  deriving DecidableEq

/-- One operation. -/
def Dhcp6Ccb.step (c : Dhcp6Ccb) : Dhcp6Op → Dhcp6Ccb
  | .pdStart rand => c.pdStart rand
  | .pdStop => c.pdStop
  | .timer rand => c.timerCb rand
  | .message rand dhcp => (c.processMessage rand dhcp).2
  | .ipv6Enabled enable => c.setIpv6Enabled enable
  | .ipv6cpUp up => c.setIpv6cpUp up
  | .layerUp rand => (c.setIpv6cpUp true).pdStart rand
  | .layerDown => c.pdStop.setIpv6cpUp false

/-- A control block that has just been set up. -/
def Dhcp6Ccb.start (userNum : BitVec 16) (hsiWanSrcMac : Vector (BitVec 8) 6) : Dhcp6Ccb :=
  { userNum := userNum
    hsiWanSrcMac := hsiWanSrcMac
    ipv6Enabled := false
    ipv6cpUp := false
    state := .idle
    xid := 0
    serverDuid := []
    t1 := 0
    retry := 0
    timer := none
    pdPrefix := Vector.replicate 16 0
    pdPlen := 0
    lanPrefix := Vector.replicate 16 0
    dns := Vector.replicate 32 0
    pdReady := false
    dpBool := false
    raTimer := false
    sent := [] }

end FastRG
