/-
What the builders of PPP frames make.

Every frame is put together from headers, a control packet and data, and its three lengths are
worked out by each builder on its own.  `PppFrame.Fits` says that they agree and that the frame
has stayed inside its buffer, and `PppFrame.Whole` that the packet's length covers the data; then
a receiver that goes by the lengths finds the headers and the data as they were put in
(`PppFrame.received`).

Most builders write the outer headers afresh.  Those that answer copy the headers of the frame
received last and are right as far as that frame is: its VLAN and its session have been checked by
then, but its PPPoE length has not, and a Configure-Ack goes out with that length.  A CHAP response
goes to wherever the challenge came from.
-/
import FastRG.PppEncode
import FastRG.Proofs.PppFrames

namespace FastRG

variable {tx : PppTx} {outer : OuterHdr} {s : PppCcb}

/-! ### Reading a frame back -/

theorem length_be16Bytes (v : BitVec 16) : (be16Bytes v).length = 2 := rfl

theorem length_outer (h : OuterHdr) : h.bytes.length = pppL2Len := rfl

theorem length_hdr (h : PppHdr) : h.bytes.length = pppHdrLen := rfl

theorem PppFrame.length_bytes (f : PppFrame) : f.bytes.length = pppOverhead + f.data.length := by
  unfold PppFrame.bytes
  simp only [List.length_append, length_outer, length_hdr, length_be16Bytes]
  rfl

theorem append_extract (x : BitVec 48) :
    (x.extractLsb' 32 16 ++ x.extractLsb' 16 16 ++ x.extractLsb' 0 16 : BitVec 48) = x := by
  ext i hi
  simp only [BitVec.getElem_append, BitVec.getElem_extractLsb']
  split
  · rw [Nat.zero_add, BitVec.getLsbD_eq_getElem]
  · split
    · rw [show 16 + (i - 16) = i by omega, BitVec.getLsbD_eq_getElem]
    · rw [show 32 + (i - 16 - 16) = i by omega, BitVec.getLsbD_eq_getElem]

/-- The outer headers of a frame, as `PPP_decode_frame` takes them down. -/
theorem ofPkt_bytes (f : PppFrame) : OuterHdr.ofPkt f.bytes = f.outer := by
  have hword : ∀ x : BitVec 16, x.extractLsb' 8 8 ++ x.extractLsb' 0 8 = x :=
    fun x => be16At_be16Bytes x []
  obtain ⟨⟨dst, src, etherType, tci, nextProto, verType, code, sessionId, length⟩, proto, hdr,
    data, mulen⟩ := f
  simp only [OuterHdr.ofPkt, PppFrame.bytes, OuterHdr.bytes, be48Bytes, be16Bytes, be48At, be16At,
    frameSrcMac, frameNextProto, framePppoeCode, frameSessionId, List.cons_append,
    List.nil_append, List.getD_cons_succ, List.getD_cons_zero, hword, append_extract]

/-- A frame received: the protocol, the header and the packet, as `decode_ppp` finds them. -/
theorem PppFrame.received (f : PppFrame) :
    be16At (framePayload f.bytes) 0 = f.proto ∧ payloadHdr (framePayload f.bytes) = f.hdr ∧
      payloadData (framePayload f.bytes) = f.data.take (f.pppLen.toNat - 4) := by
  have hpayload : framePayload f.bytes = be16Bytes f.proto ++ (f.hdr.bytes ++ f.data) := by
    unfold framePayload PppFrame.bytes
    rw [List.append_assoc, List.append_assoc]
    exact List.drop_left' (length_outer f.outer)
  rw [hpayload]
  have hlen : be16At (be16Bytes f.proto ++ (f.hdr.bytes ++ f.data)) 4 = f.pppLen :=
    be16At_be16Bytes (swap16 f.hdr.length) f.data
  refine ⟨be16At_be16Bytes _ _, ?_, ?_⟩
  · unfold payloadHdr
    rw [hlen]
    unfold PppFrame.pppLen
    rw [swap16_swap16]
    rfl
  · unfold payloadData
    rw [hlen]
    rfl

/-- The packet's length covers the data. -/
def PppFrame.Whole (f : PppFrame) : Prop := pppHdrLen + f.data.length ≤ f.pppLen.toNat

/-- A frame as its receiver finds it. -/
structure PppFrame.ReadBack (f : PppFrame) : Prop where
  outer : OuterHdr.ofPkt f.bytes = f.outer
  proto : be16At (framePayload f.bytes) 0 = f.proto
  hdr : payloadHdr (framePayload f.bytes) = f.hdr
  data : payloadData (framePayload f.bytes) = f.data

theorem PppFrame.Whole.readBack {f : PppFrame} (h : f.Whole) : f.ReadBack := by
  obtain ⟨hproto, hhdr, hdata⟩ := f.received
  refine ⟨ofPkt_bytes f, hproto, hhdr, ?_⟩
  rw [hdata, List.take_of_length_le]
  unfold PppFrame.Whole pppHdrLen at h
  omega

/-! ### Lengths -/

/-- The lengths of a frame agree, and it has stayed inside its buffer. -/
structure PppFrame.Fits (f : PppFrame) (bufLen : Nat) : Prop where
  pppoe : f.outer.length.toNat = f.pppLen.toNat + 2
  frame : f.mulen.toNat = f.outer.length.toNat + pppL2Len
  sent : f.mulen.toNat ≤ bufLen
  built : f.bytes.length ≤ bufLen

/-- A frame that is closed with its length. -/
theorem close_made (outer : OuterHdr) (proto : BitVec 16) (code identifier : BitVec 8)
    {data : List (BitVec 8)} {n bufLen : Nat} (hdata : pppHdrLen + data.length ≤ n)
    (hn : n + 26 ≤ bufLen) (hbuf : bufLen < 65536) :
    (PppFrame.close outer proto code identifier (BitVec.ofNat 16 n) data).Whole ∧
      (PppFrame.close outer proto code identifier (BitVec.ofNat 16 n) data).Fits bufLen := by
  have hlen : (BitVec.ofNat 16 n).toNat = n := by
    rw [BitVec.toNat_ofNat]
    omega
  have hpppoe : (BitVec.ofNat 16 n + 2).toNat = n + 2 := by
    rw [BitVec.toNat_add, hlen]
    show (n + 2) % 2 ^ 16 = n + 2
    omega
  have hmulen : (BitVec.ofNat 16 n + 2 + BitVec.ofNat 16 pppL2Len).toNat = n + 26 := by
    rw [BitVec.toNat_add, hpppoe]
    show (n + 2 + 24) % 2 ^ 16 = n + 26
    omega
  have hppp : (swap16 (swap16 (BitVec.ofNat 16 n))).toNat = n := by
    rw [swap16_swap16, hlen]
  refine ⟨?_, ?_, ?_, ?_, ?_⟩
  · show pppHdrLen + data.length ≤ (swap16 (swap16 (BitVec.ofNat 16 n))).toNat
    rw [hppp]
    exact hdata
  · show (BitVec.ofNat 16 n + 2).toNat = (swap16 (swap16 (BitVec.ofNat 16 n))).toNat + 2
    rw [hppp, hpppoe]
  · show (BitVec.ofNat 16 n + 2 + BitVec.ofNat 16 pppL2Len).toNat =
      (BitVec.ofNat 16 n + 2).toNat + pppL2Len
    rw [hmulen, hpppoe]
    rfl
  · show (BitVec.ofNat 16 n + 2 + BitVec.ofNat 16 pppL2Len).toNat ≤ bufLen
    rw [hmulen]
    exact hn
  · rw [PppFrame.length_bytes]
    show pppOverhead + data.length ≤ bufLen
    have hover : pppOverhead = pppHdrLen + 26 := rfl
    omega

theorem length_iidBytes (iid : BitVec 64) : (iidBytes iid).length = 8 := by simp [iidBytes]

/-- The options of a Configure-Request are few. -/
theorem length_configOptions (p : PppParams) (cp : PppCp) :
    ((configOptions p cp).flatMap Tlv.bytes).length ≤ 18 := by
  have hauth : ((authOptions p.authMethod).flatMap Tlv.bytes).length ≤ 5 := by
    unfold authOptions
    split
    · decide
    · split
      · decide
      · decide
  have hdns : ∀ ty dns, ((dnsOption ty dns).flatMap Tlv.bytes).length ≤ 6 := by
    intro ty dns
    unfold dnsOption
    split
    · exact Nat.le_refl _
    · exact Nat.zero_le _
  cases cp with
  | lcp =>
      simp only [configOptions, List.flatMap_append, List.length_append]
      have h1 : ((if p.lcpAuthRejected then [] else authOptions p.authMethod).flatMap
          Tlv.bytes).length ≤ 5 := by
        split
        · exact Nat.zero_le _
        · exact hauth
      have h2 : ∀ mru, ((if p.lcpMruRejected then [] else
          [(⟨optMru, be16Bytes mru⟩ : Tlv)]).flatMap Tlv.bytes).length ≤ 4 := by
        intro mru
        split
        · exact Nat.zero_le _
        · exact Nat.le_refl _
      have h3 : ((if p.lcpMagicRejected then [] else
          [(⟨optMagicNum, le32Bytes p.magicNum⟩ : Tlv)]).flatMap Tlv.bytes).length ≤ 6 := by
        split
        · exact Nat.zero_le _
        · exact Nat.le_refl _
      have h2' := h2 (if p.mru ≠ 0 then p.mru else maxRecvUnit)
      omega
  | ipcp =>
      simp only [configOptions, List.flatMap_append, List.length_append]
      have h1 : ([(⟨optIpAddress, le32Bytes p.hsiIpv4⟩ : Tlv)].flatMap Tlv.bytes).length = 6 := rfl
      have h2 := hdns optPrimaryDns p.hsiPrimaryDns
      have h3 := hdns optSecondaryDns p.hsiSecondaryDns
      omega
  | ipv6cp =>
      show (iidBytes p.ipv6cpLocalIid).length + 2 + 0 ≤ 18
      rw [length_iidBytes]
      decide

/-- And short. -/
theorem configOptions_short {p : PppParams} {cp : PppCp} {o : Tlv} (h : o ∈ configOptions p cp) :
    o.val.length + 2 < 256 := by
  have hfew := length_configOptions p cp
  obtain ⟨before, after, heq⟩ := List.append_of_mem h
  have hlen : o.bytes.length = o.val.length + 2 := rfl
  rw [heq, List.flatMap_append, List.flatMap_cons] at hfew
  simp only [List.length_append] at hfew
  omega

/-! ### The outer headers -/

/-- The outer headers name our peer and us, the VLAN and the session. -/
structure OuterHdr.To (tx : PppTx) (s : PppCcb) (o : OuterHdr) : Prop where
  dst : o.dstAddr = s.pppDstMac
  src : o.srcAddr = tx.hsiWanSrcMac
  vlan : o.vlanId = tx.vlanId
  session : o.sessionId = s.sessionId

/-- The headers received last are the subscriber's. -/
structure OuterHdr.From (tx : PppTx) (s : PppCcb) (o : OuterHdr) : Prop where
  vlan : o.vlanId = tx.vlanId
  session : o.sessionId = s.sessionId

theorem freshOuter_to (tx : PppTx) (s : PppCcb) (len : BitVec 16) :
    { tx.freshOuter s with length := len }.To tx s := by
  refine ⟨rfl, rfl, ?_, rfl⟩
  show (tx.vlanId.setWidth 16).extractLsb' 0 12 = tx.vlanId
  ext i hi
  have hlt : i < 16 := by omega
  simp [BitVec.getElem_extractLsb', hlt, BitVec.getLsbD_eq_getElem hi]

/-- Whom a frame is for, by its builder. -/
def PppBuild.Addressed (tx : PppTx) (outer : OuterHdr) (s : PppCcb) (o : OuterHdr) :
    PppBuild → Prop
  | .configAck | .configNakRej | .echoReply | .terminateAck | .authRequestPap | .authAckPap =>
      outer.From tx s → o.To tx s
  | .authResponseChap _ =>
      o.dstAddr = outer.srcAddr ∧ o.srcAddr = outer.dstAddr ∧ (outer.From tx s → o.From tx s)
  | _ => o.To tx s

/-! ### The data -/

/-- A PAP request, as its receiver takes it apart. -/
def papCredentials : List (BitVec 8) → Option (List (BitVec 8) × List (BitVec 8))
  | [] => none
  | accLen :: rest =>
      match rest.drop accLen.toNat with
      | [] => none
      | passwdLen :: rest' =>
          if rest'.length < passwdLen.toNat then none
          else some (rest.take accLen.toNat, rest'.take passwdLen.toNat)

theorem papCredentials_request {acc passwd : List (BitVec 8)} (hacc : acc.length ≤ 255)
    (hpasswd : passwd.length ≤ 255) :
    papCredentials ([BitVec.ofNat 8 acc.length] ++ acc ++ [BitVec.ofNat 8 passwd.length] ++
      passwd) = some (acc, passwd) := by
  have hbyte : ∀ n, n ≤ 255 → (BitVec.ofNat 8 n).toNat = n := by
    intro n hn
    rw [BitVec.toNat_ofNat]
    omega
  have hlist : [BitVec.ofNat 8 acc.length] ++ acc ++ [BitVec.ofNat 8 passwd.length] ++ passwd =
      BitVec.ofNat 8 acc.length :: (acc ++ (BitVec.ofNat 8 passwd.length :: passwd)) := by simp
  rw [hlist]
  simp only [papCredentials]
  rw [hbyte _ hacc, List.drop_left, List.take_left]
  simp only
  rw [hbyte _ hpasswd, if_neg (Nat.lt_irrefl _), List.take_length]

/-- What a frame tells its receiver: requests and rejects what they are about, and answers what
they answer. -/
def PppBuild.Tells (tx : PppTx) (s : PppCcb) (hdr : PppHdr) (data : List (BitVec 8)) :
    PppBuild → Prop
  | .configRequest => Tlv.split data = (configOptions s.params s.cpId, true)
  | .codeReject => ∃ opts, opts <+: (s.controlProtocol.get s.cpId).pppOptions ∧
      data = (s.controlProtocol.get s.cpId).pppHdr.bytes ++ opts
  | .protoReject proto info => ∃ rest, rest <+: info ∧ data = be16Bytes proto ++ rest
  | .authRequestPap => papCredentials data = some (tx.pppUserAcc, tx.pppPasswd)
  | .configAck | .configNakRej => data <+: (s.controlProtocol.get s.cpId).pppOptions ∧
      hdr.identifier = (s.controlProtocol.get s.cpId).pppHdr.identifier
  | .terminateAck => hdr.identifier = (s.controlProtocol.get s.cpId).pppHdr.identifier
  | .echoReply | .authResponseChap _ => hdr.identifier = s.controlProtocol.lcp.pppHdr.identifier
  | .authAckPap => hdr.identifier = s.identifier.lcp
  | .echoRequest | .terminateRequest => True

/-! ### The builders -/

/-- What is made of a frame by the end: it is whole, fits, is addressed and tells. -/
structure PppBuild.Made (tx : PppTx) (outer : OuterHdr) (s : PppCcb) (b : PppBuild) (f : PppFrame) :
    Prop where
  whole : f.Whole
  fits : (b = .configAck ∨ b = .configNakRej →
      outer.length = swap16 (s.controlProtocol.get s.cpId).pppHdr.length + 2) → f.Fits b.bufLen
  addressed : b.Addressed tx outer s f.outer
  tells : b.Tells tx s f.hdr f.data

theorem PppBuild.bufLen_lt (b : PppBuild) : b.bufLen < 65536 := by
  unfold PppBuild.bufLen
  split
  · decide
  · decide

/-- Most frames are closed with their length. -/
theorem PppBuild.Made.close {b : PppBuild} {o : OuterHdr} {proto : BitVec 16}
    {code identifier : BitVec 8} {data : List (BitVec 8)} {n : Nat}
    (hdata : pppHdrLen + data.length ≤ n) (hn : n + 26 ≤ b.bufLen)
    (haddressed : b.Addressed tx outer s { o with length := BitVec.ofNat 16 n + 2 })
    (htells : b.Tells tx s ⟨code, identifier, swap16 (BitVec.ofNat 16 n)⟩ data) :
    PppBuild.Made tx outer s b (.close o proto code identifier (BitVec.ofNat 16 n) data) := by
  obtain ⟨hwhole, hfits⟩ := close_made o proto code identifier hdata hn b.bufLen_lt
  exact ⟨hwhole, fun _ => hfits, haddressed, htells⟩

theorem made_buildConfigRequest (tx : PppTx) (outer : OuterHdr) (s : PppCcb) :
    PppBuild.Made tx outer s .configRequest (tx.buildConfigRequest s) := by
  have hlen := length_configOptions s.params s.cpId
  refine .close (Nat.le_refl _) ?_ (freshOuter_to tx s _)
    (Tlv.split_flatMap fun o ho => configOptions_short ho)
  show pppHdrLen + _ + 26 ≤ pppMsgBufLen
  unfold pppHdrLen pppMsgBufLen
  omega

/-- The answer to a Configure-Request.  It fits where the PPPoE length is the one it should be. -/
theorem made_buildConfigAnswer {code : BitVec 8} {f : PppFrame}
    (h : tx.buildConfigAnswer outer s code = some f) :
    f.Whole ∧
      (outer.length = swap16 (s.controlProtocol.get s.cpId).pppHdr.length + 2 →
        f.Fits pppMsgBufLen) ∧
      (outer.From tx s → f.outer.To tx s) ∧
      f.data <+: (s.controlProtocol.get s.cpId).pppOptions ∧
      f.hdr.identifier = (s.controlProtocol.get s.cpId).pppHdr.identifier := by
  unfold PppTx.buildConfigAnswer at h
  simp only at h
  generalize s.controlProtocol.get s.cpId = c at h ⊢
  split at h
  · exact absurd h (by simp)
  rename_i hroom
  simp only [not_or, Nat.not_lt] at hroom
  obtain ⟨hmin, hopts, hframe⟩ := hroom
  have htotal : (swap16 c.pppHdr.length).toNat ≤ 102 := by
    unfold pppBuildMaxOptLen pppMsgBufLen pppOverhead pppL2Len pppHdrLen at hopts
    omega
  have hdata := List.length_take_le ((swap16 c.pppHdr.length).toNat - pppHdrLen) c.pppOptions
  rw [← Option.some.inj h]
  refine ⟨?_, ?_, ?_, List.take_prefix _ _, rfl⟩
  · show pppHdrLen + (List.take _ c.pppOptions).length ≤ (swap16 c.pppHdr.length).toNat
    omega
  · intro hlen
    have hpppoe : outer.length.toNat = (swap16 c.pppHdr.length).toNat + 2 := by
      rw [hlen, BitVec.toNat_add]
      show (_ + 2) % 2 ^ 16 = _
      omega
    refine ⟨hpppoe, ?_, hframe, ?_⟩
    · show (outer.length + BitVec.ofNat 16 pppL2Len).toNat = outer.length.toNat + pppL2Len
      rw [BitVec.toNat_add, hpppoe]
      show (_ + 2 + 24) % 2 ^ 16 = _ + 2 + 24
      omega
    · rw [PppFrame.length_bytes]
      show pppOverhead + (List.take _ c.pppOptions).length ≤ pppMsgBufLen
      unfold pppBuildMaxOptLen at hopts
      have hover : pppOverhead ≤ pppMsgBufLen := by decide
      omega
  · exact fun hfrom => ⟨rfl, rfl, hfrom.vlan, hfrom.session⟩

theorem made_buildEchoReply (tx : PppTx) (outer : OuterHdr) (s : PppCcb) :
    PppBuild.Made tx outer s .echoReply (tx.buildEchoReply outer s) := by
  have hmagic : ∀ b : BitVec 8, (if 0 < b then le32Bytes s.params.magicNum else []).length ≤ 4 := by
    intro b
    split
    · exact Nat.le_refl _
    · exact Nat.zero_le _
  have hrest : ∀ b : BitVec 8,
      (if b - 4 = 4 then s.controlProtocol.lcp.pppOptions.take 4 else []).length ≤ 4 := by
    intro b
    split
    · exact List.length_take_le _ _
    · exact Nat.zero_le _
  have h1 := hmagic ((swap16 s.controlProtocol.lcp.pppHdr.length).setWidth 8 - 4)
  have h2 := hrest ((swap16 s.controlProtocol.lcp.pppHdr.length).setWidth 8 - 4)
  refine .close (Nat.le_refl _) ?_ (fun hfrom => ⟨rfl, rfl, hfrom.vlan, hfrom.session⟩) rfl
  show pppHdrLen + _ + 26 ≤ pppMsgBufLen
  rw [List.length_append]
  unfold pppHdrLen pppMsgBufLen
  omega

theorem made_buildCodeReject {f : PppFrame} (h : tx.buildCodeReject s = some f) :
    PppBuild.Made tx outer s .codeReject f := by
  unfold PppTx.buildCodeReject at h
  simp only at h
  split at h
  · exact absurd h (by simp)
  have hle := Nat.min_le_right (swap16 (s.controlProtocol.get s.cpId).pppHdr.length).toNat
    pppBuildMaxOptLen
  have htake := List.length_take_le (min (swap16 (s.controlProtocol.get s.cpId).pppHdr.length).toNat
    pppBuildMaxOptLen - pppHdrLen) (s.controlProtocol.get s.cpId).pppOptions
  have hmax : pppHdrLen ≤ pppBuildMaxOptLen := by decide
  have hroom : pppHdrLen + pppBuildMaxOptLen + 26 = pppMsgBufLen := rfl
  rw [← Option.some.inj h]
  refine .close ?_ ?_ (freshOuter_to tx s _) ⟨_, List.take_prefix _ _, rfl⟩
  · rw [List.length_append, length_hdr]
    omega
  · show _ + 26 ≤ pppMsgBufLen
    omega

theorem made_buildProtoReject (tx : PppTx) (outer : OuterHdr) (s : PppCcb) (proto : BitVec 16)
    (info : List (BitVec 8)) :
    PppBuild.Made tx outer s (.protoReject proto info) (tx.buildProtoReject s proto info) := by
  have hle := Nat.min_le_right info.length (ethMtu - (pppOverhead + 2))
  have hroom : pppHdrLen + 2 + (ethMtu - (pppOverhead + 2)) + 26 = ethMtu := rfl
  refine .close ?_ ?_ (freshOuter_to tx s _) ⟨_, List.take_prefix _ _, rfl⟩
  · rw [List.length_append, length_be16Bytes, List.length_take]
    omega
  · show _ + 26 ≤ ethMtu
    omega

theorem made_buildAuthRequestPap {f : PppFrame} (h : tx.buildAuthRequestPap outer s = some f) :
    PppBuild.Made tx outer s .authRequestPap f := by
  unfold PppTx.buildAuthRequestPap at h
  simp only at h
  split at h
  · exact absurd h (by simp)
  rename_i hroom
  simp only [not_or, Nat.not_lt] at hroom
  obtain ⟨hacc, hpasswd, hroom⟩ := hroom
  have hover : pppOverhead = 26 + pppHdrLen := rfl
  rw [← Option.some.inj h]
  refine .close ?_ ?_ (fun hfrom => ⟨rfl, rfl, hfrom.vlan, hfrom.session⟩)
    (papCredentials_request hacc hpasswd)
  · simp only [List.length_append, List.length_singleton]
    omega
  · show _ + 26 ≤ pppMsgBufLen
    omega

theorem made_buildAuthResponseChap {f : PppFrame} {value : List (BitVec 8)}
    (h : tx.buildAuthResponseChap outer s value = some f) :
    PppBuild.Made tx outer s (.authResponseChap value) f := by
  unfold PppTx.buildAuthResponseChap at h
  simp only at h
  split at h
  · exact absurd h (by simp)
  rename_i hroom
  have hover : pppOverhead = 26 + pppHdrLen := rfl
  rw [← Option.some.inj h]
  refine .close ?_ ?_ ⟨rfl, rfl, fun hfrom => ⟨hfrom.vlan, hfrom.session⟩⟩ rfl
  · simp only [List.length_append, List.length_singleton, Vector.length_toList]
    omega
  · show _ + 26 ≤ pppMsgBufLen
    omega

/-- Whichever builder it is. -/
theorem PppTx.build_made {b : PppBuild} {f : PppFrame} (h : tx.build outer s b = some f) :
    PppBuild.Made tx outer s b f := by
  cases b with
  | configRequest => exact Option.some.inj h ▸ made_buildConfigRequest tx outer s
  | configAck =>
      obtain ⟨hwhole, hfits, hto, hdata, hid⟩ := made_buildConfigAnswer h
      exact ⟨hwhole, fun hlen => hfits (hlen (.inl rfl)), hto, hdata, hid⟩
  | configNakRej =>
      obtain ⟨hwhole, hfits, hto, hdata, hid⟩ := made_buildConfigAnswer h
      exact ⟨hwhole, fun hlen => hfits (hlen (.inr rfl)), hto, hdata, hid⟩
  | echoReply => exact Option.some.inj h ▸ made_buildEchoReply tx outer s
  | echoRequest =>
      rw [← Option.some.inj h]
      exact .close (Nat.le_refl _) (by decide) (freshOuter_to tx s _) trivial
  | terminateAck =>
      rw [← Option.some.inj h]
      exact .close (Nat.le_refl _) (by decide)
        (fun hfrom => ⟨rfl, rfl, hfrom.vlan, hfrom.session⟩) rfl
  | terminateRequest =>
      rw [← Option.some.inj h]
      exact .close (Nat.le_refl _) (by decide) (freshOuter_to tx s _) trivial
  | codeReject => exact made_buildCodeReject h
  | protoReject proto info => exact Option.some.inj h ▸ made_buildProtoReject tx outer s proto info
  | authRequestPap => exact made_buildAuthRequestPap h
  | authAckPap =>
      rw [← Option.some.inj h]
      exact .close (by decide) (by decide) (fun hfrom => ⟨rfl, rfl, hfrom.vlan, hfrom.session⟩) rfl
  | authResponseChap value => exact made_buildAuthResponseChap h

/--
**What a builder puts into a frame, its receiver takes out.**  For every builder, control block,
configuration and stored frame, a frame that is built has lengths that agree and is inside its
buffer, also for credentials of any length; one that answers a Configure-Request is, where the
frame stored has the PPPoE length of its packet.  The reader of received frames finds the outer
headers, the protocol, the header and the data as they were put in.  The frame is for our peer,
from us, on the subscriber's VLAN and session, as far as the headers it copies are the
subscriber's; a CHAP response goes back to where the challenge came from.  A Configure-Request
reads as the options proposed and a PAP request as the account and the password; a reject quotes
what it rejects, and an answer has the identifier of what it answers.
-/
theorem pppFrame_readBack (tx : PppTx) (outer : OuterHdr) (s : PppCcb) (b : PppBuild) (f : PppFrame)
    (h : tx.build outer s b = some f) :
    f.ReadBack ∧
      ((b = .configAck ∨ b = .configNakRej →
        outer.length = swap16 (s.controlProtocol.get s.cpId).pppHdr.length + 2) →
        f.Fits b.bufLen) ∧
      b.Addressed tx outer s (OuterHdr.ofPkt f.bytes) ∧
      b.Tells tx s (payloadHdr (framePayload f.bytes)) (payloadData (framePayload f.bytes)) := by
  have hmade := PppTx.build_made h
  have hread := hmade.whole.readBack
  refine ⟨hread, hmade.fits, ?_, ?_⟩
  · rw [hread.outer]
    exact hmade.addressed
  · rw [hread.hdr, hread.data]
    exact hmade.tells

/-- A node with the account "me" and the password "pw". -/
def pppTxMe : PppTx where
  hsiWanSrcMac := 0x020000000001
  vlanId := 100
  pppUserAcc := [0x6d, 0x65]
  pppPasswd := [0x70, 0x77]
  md5 _ := Vector.replicate 16 0

theorem papRequest_readBack : ∃ f,
    pppTxMe.build (pppTxMe.freshOuter (pppInit fun _ => 0)) (pppInit fun _ => 0) .authRequestPap =
      some f ∧
    papCredentials (payloadData (framePayload f.bytes)) = some ([0x6d, 0x65], [0x70, 0x77]) := by
  refine ⟨_, rfl, ?_⟩
  exact (pppFrame_readBack pppTxMe (pppTxMe.freshOuter (pppInit fun _ => 0)) (pppInit fun _ => 0)
    .authRequestPap _ rfl).2.2.2

end FastRG
