/-
An ICMPv6 error reports about a session and does nothing to it.

Errors come from any router on the path, so what decides about one is the packet quoted
inside, every byte of which its sender chose.  It is parsed by the code that parses real
packets and looked up by the code that unlinks expired sessions.  What follows is that the
lookup is the only effect, that it spares every session still alive, and that the bytes
looked at are those the length in the header allows.
-/
import FastRG.Proofs.FirewallKeep

namespace FastRG

variable {hz now : Nat} {s : Ipv6FirewallCcb} {k : Ipv6FirewallKey} {i : Nat}

/-! ### The quoted packet -/

/-- The packet an ICMPv6 error quotes, behind its own header and the error's. -/
def Ipv6Packet.quoted (pkt : Ipv6Packet) : Ipv6Packet :=
  ⟨pkt.mem, pkt.ip6 + ipv6HdrLen + icmp6PtbHdrLen⟩

/-- How much of the quoted packet's payload the error carries. -/
def Ipv6Packet.quotedL4Len (pkt : Ipv6Packet) : Nat :=
  pkt.payloadLen - icmp6PtbHdrLen - ipv6HdrLen

/-- The quoted packet came from where the error goes, and its session is alive. -/
structure QuotesSession (now : Nat) (s : Ipv6FirewallCcb) (pkt : Ipv6Packet)
    (k : Ipv6FirewallKey) (i : Nat) : Prop where
  src : pkt.quoted.src = pkt.dst
  key : pkt.quoted.keyWithin pkt.quotedL4Len false = some k
  tuple : k = (pkt.quoted.lanTuple false).key
  linked : s.hash.lookup k = some i
  unexpired : now ≤ s.expireAt i

/-- Nothing but the links of the sessions differs, and counters. -/
structure SameSlots (s t : Ipv6FirewallCcb) : Prop where
  table : t.table = s.table
  expireAt : t.expireAt = s.expireAt
  lastUsed : t.lastUsed = s.lastUsed
  freeRing : t.freeRing = s.freeRing

theorem ipv6FirewallLookupLive_sameSlots (now : Nat) (s : Ipv6FirewallCcb)
    (key : Ipv6FirewallKey) : SameSlots s (ipv6FirewallLookupLive now s key).2 := by
  unfold ipv6FirewallLookupLive
  split
  · exact ⟨rfl, rfl, rfl, rfl⟩
  · split
    · exact ⟨rfl, rfl, rfl, rfl⟩
    · exact ⟨rfl, rfl, rfl, rfl⟩

/-- An error changes no slot, and passes only on account of a live session. -/
theorem ipv6FirewallIcmp6ErrorPass_spec (now : Nat) (s : Ipv6FirewallCcb) (pkt : Ipv6Packet)
    {len : BitVec 16} (hlen : len = (ip6PayloadLen pkt.mem pkt.ip6).val) :
    SameSlots s (ipv6FirewallIcmp6ErrorPass now s pkt.mem pkt.ip6 len).val.2 ∧
      ((ipv6FirewallIcmp6ErrorPass now s pkt.mem pkt.ip6 len).val.1 = true →
        ∃ k i, QuotesSession now s pkt k i) := by
  have hdrop : SameSlots s (ipv6FirewallIcmp6Drop s).2 := ⟨rfl, rfl, rfl, rfl⟩
  unfold ipv6FirewallIcmp6ErrorPass
  dsimp only
  split
  · exact ⟨hdrop, nofun⟩
  · simp only [Rd.val_bind]
    split
    · exact ⟨hdrop, nofun⟩
    · rename_i hsrc
      simp only [Rd.val_bind]
      split
      · exact ⟨hdrop, nofun⟩
      · rename_i key hkey
        have hlive := ipv6FirewallLookupLive_sameSlots now s key
        split
        · rename_i t heq
          rw [heq] at hlive
          exact ⟨⟨hlive.table, hlive.expireAt, hlive.lastUsed, hlive.freeRing⟩, nofun⟩
        · rename_i i t heq
          rw [heq] at hlive
          refine ⟨⟨hlive.table, hlive.expireAt, hlive.lastUsed, hlive.freeRing⟩, ?_⟩
          intro _
          obtain ⟨hk, hexp, -⟩ := ipv6FirewallLookupLive_eq_some heq
          subst hlen
          have hquoted : pkt.quoted.keyWithin pkt.quotedL4Len false = some key := hkey
          exact ⟨key, i, not_not.mp hsrc, hquoted, (keyWithin_eq_some_iff.mp hquoted).2, hk, hexp⟩

/-! ### What is read -/

section Reads

variable {limit : Nat} {mem : Nat → BitVec 8} {ip6 : Nat}

open Rd

theorem below_ip6Proto (h : ip6 + ipv6HdrLen ≤ limit) : Below limit (ip6Proto mem ip6) := by
  unfold ipv6HdrLen at h
  exact below_u8 (by omega)

theorem below_ip6PayloadLen (h : ip6 + ipv6HdrLen ≤ limit) :
    Below limit (ip6PayloadLen mem ip6) := by
  unfold ipv6HdrLen at h
  exact below_be16 (by omega)

theorem below_ip6SrcAddr (h : ip6 + ipv6HdrLen ≤ limit) : Below limit (ip6SrcAddr mem ip6) := by
  unfold ipv6HdrLen at h
  exact below_bytes (by omega)

theorem below_ip6DstAddr (h : ip6 + ipv6HdrLen ≤ limit) : Below limit (ip6DstAddr mem ip6) := by
  unfold ipv6HdrLen at h
  exact below_bytes (by omega)

/-- Building a key reads the header, and behind it no more than it was told it may. -/
theorem below_keyFromPacket {l4Len : Nat} (inbound : Bool)
    (h : ip6 + ipv6HdrLen + l4Len ≤ limit) :
    Below limit (ipv6FirewallKeyFromPacket mem ip6 l4Len inbound) := by
  have hhdr : ip6 + ipv6HdrLen ≤ limit := by omega
  unfold ipv6FirewallKeyFromPacket
  refine below_bind (below_ip6Proto hhdr) (below_ite ?_ ?_)
  · intro _
    refine below_ite (fun _ => below_pure none) fun hports => ?_
    refine below_bind (below_u16 (by omega)) (below_bind (below_u16 (by omega)) ?_)
    exact below_bind (below_ip6SrcAddr hhdr) (below_bind (below_ip6DstAddr hhdr) (below_pure _))
  · intro _
    refine below_ite ?_ fun _ => below_pure none
    intro _
    refine below_ite (fun _ => below_pure none) fun hecho => ?_
    unfold icmp6PtbHdrLen at hecho
    refine below_bind (below_u8 (by omega)) (below_ite (fun _ => below_pure none) fun _ => ?_)
    refine below_bind (below_u16 (by omega)) ?_
    exact below_bind (below_ip6SrcAddr hhdr) (below_bind (below_ip6DstAddr hhdr) (below_pure _))

theorem below_icmp6ErrorPass {len : BitVec 16} (now : Nat) (s : Ipv6FirewallCcb)
    (h : ip6 + ipv6HdrLen + len.toNat ≤ limit) :
    Below limit (ipv6FirewallIcmp6ErrorPass now s mem ip6 len) := by
  unfold ipv6FirewallIcmp6ErrorPass
  dsimp only
  refine below_ite (fun _ => below_pure _) fun hlong => ?_
  -- from here on the quoted header is inside, and so are `quotedL4Len` bytes behind it
  unfold icmp6PtbHdrLen at hlong ⊢
  refine below_bind (below_ip6SrcAddr (by omega)) (below_bind (below_ip6DstAddr (by omega)) ?_)
  refine below_ite (fun _ => below_pure _) fun _ => ?_
  refine below_bind (below_keyFromPacket false (by omega)) ?_
  split
  · exact below_pure _
  · split
    · exact below_pure _
    · exact below_pure _

theorem below_isIcmp6Error
    (h : ip6 + ipv6HdrLen + (ip6PayloadLen mem ip6).val.toNat ≤ limit) :
    Below limit (ip6IsIcmp6Error mem ip6) := by
  have hhdr : ip6 + ipv6HdrLen ≤ limit := by omega
  unfold ip6IsIcmp6Error
  refine below_bind (below_ip6PayloadLen hhdr) (below_bind (below_ip6Proto hhdr) ?_)
  refine below_ite ?_ fun _ => below_pure _
  intro hpayload
  exact below_bind (below_u8 (by omega)) (below_pure _)

end Reads

/--
**An ICMPv6 error has no side effect on sessions.**  In any state and whatever the packet
holds, an inbound ICMPv6 error leaves every slot as it was (entry, deadline and stamp) and
every session whose deadline has not passed linked.  It is forwarded only if the packet it
quotes came from the host it is sent to and has the key of a linked session whose deadline
has not passed.  No byte beyond the payload length in the header is read.
-/
theorem icmp6_error_frame (hz now : Nat) (s : Ipv6FirewallCcb) (pkt : Ipv6Packet)
    (herr : pkt.isIcmp6Error = true) :
    let r := ipv6FirewallInboundPass hz now s pkt.mem pkt.ip6
    SameSlots s r.val.2 ∧
      (∀ k i, s.hash.lookup k = some i → now ≤ s.expireAt i →
        r.val.2.hash.lookup k = some i) ∧
      (r.val.1 = true → ∃ k i, QuotesSession now s pkt k i) ∧
      r.Below (pkt.ip6 + ipv6HdrLen + pkt.payloadLen) := by
  have herr' : (ip6IsIcmp6Error pkt.mem pkt.ip6).val = true := herr
  have hval : (ipv6FirewallInboundPass hz now s pkt.mem pkt.ip6).val
      = (ipv6FirewallIcmp6ErrorPass now s pkt.mem pkt.ip6
          (ip6PayloadLen pkt.mem pkt.ip6).val).val := by
    unfold ipv6FirewallInboundPass
    simp only [Rd.val_bind, herr', if_true]
  obtain ⟨hslots, hpass⟩ := ipv6FirewallIcmp6ErrorPass_spec now s pkt rfl
  intro r
  refine ⟨?_, ?_, ?_, ?_⟩
  · rw [hval]
    exact hslots
  · intro k i hk hlive
    exact (ipv6FirewallInboundPass_looked hz now s pkt.mem pkt.ip6).kept hk hlive
  · rw [hval]
    exact hpass
  · have hlimit : pkt.ip6 + ipv6HdrLen + (ip6PayloadLen pkt.mem pkt.ip6).val.toNat
        ≤ pkt.ip6 + ipv6HdrLen + pkt.payloadLen := Nat.le_refl _
    refine Rd.below_bind (below_ip6PayloadLen (by omega)) ?_
    refine Rd.below_bind (below_isIcmp6Error hlimit) ?_
    rw [herr', if_pos rfl]
    exact below_icmp6ErrorPass now s hlimit

/-- A router reports to 2001:db8::a that its query did not arrive. -/
def dnsUnreach : Ipv6Packet := .ofBytes
  [0x60, 0, 0, 0, 0, 56, 58, 64,
    0x20, 0x01, 0x0d, 0xb8, 0, 2, 0, 0, 0, 0, 0, 0, 0, 0, 0, 1,
    0x20, 0x01, 0x0d, 0xb8, 0, 0, 0, 0, 0, 0, 0, 0, 0, 0, 0, 0x0a,
    1, 0, 0, 0, 0, 0, 0, 0,
    0x60, 0, 0, 0, 0, 8, 17, 64,
    0x20, 0x01, 0x0d, 0xb8, 0, 0, 0, 0, 0, 0, 0, 0, 0, 0, 0, 0x0a,
    0x20, 0x01, 0x0d, 0xb8, 0, 1, 0, 0, 0, 0, 0, 0, 0, 0, 0, 0x53,
    0xc3, 0x50, 0, 53, 0, 8, 0, 0]

/-- The report is forwarded, on account of the session the query opened. -/
theorem icmp6_error_frame_dns :
    ∃ k i, QuotesSession 6 (ipv6FirewallStep 1000 (ipv6FirewallTableInit ipv6FirewallBlank)
      ⟨5, .learn dnsQuery ⟨0, 0, true⟩⟩) dnsUnreach k i := by
  obtain ⟨-, -, hpass, -⟩ := icmp6_error_frame 1000 6
    (ipv6FirewallStep 1000 (ipv6FirewallTableInit ipv6FirewallBlank)
      ⟨5, .learn dnsQuery ⟨0, 0, true⟩⟩) dnsUnreach (by decide)
  exact hpass (by rw [ipv6FirewallTableInit_eq]; decide)

end FastRG
