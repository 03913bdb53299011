-- SUMMARY: Offline packets are read back from their encoding, and refused under another magic value.
import Raknet.Handshake.OfflinePacket

/-!
# The offline codec

What the encoder writes, the decoder reads back to the last byte under the same
magic value, and refuses under any other. The second request is the one packet
whose layout has to be guessed: the guess is right because the layouts with and
without a cookie never have the same length.
-/

namespace Raknet

open Decoder

/-! ## Decoding under a magic value -/

/-- Under its own magic value the bytes are decoded to the last one, under any
    other they are refused. -/
structure Decodes {α : Type} (d : Magic → Decoder DecodeError α) (bytes : Bytes) (magic : Magic)
    (a : α) : Prop where
  own : (d magic).run bytes = .ok (a, [])
  other : ∀ other, other ≠ magic → (d other).run bytes = .error (.error .invalidMagic)

namespace Decodes

variable {α β : Type} {d : Magic → Decoder DecodeError α} {bytes : Bytes} {magic : Magic} {a : α}

/-- A field in front of the magic value. -/
theorem behind {first : Decoder DecodeError β} {f : β → Magic → Decoder DecodeError α}
    {xs : Bytes} {b : β} (hfirst : first.Reads xs b) (h : Decodes (f b) bytes magic a) :
    Decodes (fun m => first >>= fun b => f b m) (xs ++ bytes) magic a where
  own := (run_bind_ok (hfirst bytes)).trans h.own
  other := fun other hne => (run_bind_ok (hfirst bytes)).trans (h.other other hne)

/-- The magic value itself. -/
theorem atMagic {k : Magic → Decoder DecodeError α} (h : (k magic).run bytes = .ok (a, [])) :
    Decodes (fun m => decodeExpectedMagic m >>= k) (encodeMagic magic ++ bytes) magic a where
  own := by
    have hexpected : (decodeExpectedMagic magic).Reads (encodeMagic magic) magic :=
      (decodeMagic_reads magic).bind_end (Reads.lift (if_neg (not_not.mpr rfl)))
    exact (run_bind_ok (hexpected bytes)).trans h
  other := by
    intro other hne
    have hrefused : (decodeExpectedMagic other).Refuses (encodeMagic magic ++ []) .invalidMagic :=
      (decodeMagic_reads magic).bind_refuses (Refuses.lift (if_pos hne.symm))
    rw [List.append_nil] at hrefused
    exact (hrefused.bind k) bytes

theorem wrap (h : Decodes d bytes magic a) (f : α → β) :
    Decodes (fun m => do pure (f (← d m))) bytes magic (f a) where
  own := run_bind_ok h.own
  other := fun other hne => run_bind_error (h.other other hne)

end Decodes

/-! ## Packets with a fixed layout -/

theorem decodePing_decodes (pkt : UnconnectedPing) :
    Decodes decodePing (encodeI64 pkt.pingTime ++ (encodeMagic pkt.magic
      ++ encodeU64 pkt.clientGuid)) pkt.magic pkt := by
  refine Decodes.behind (decodeI64_reads pkt.pingTime) (Decodes.atMagic ?_)
  exact (decodeU64_reads pkt.clientGuid).bind_pure.run_all

theorem decodePong_decodes {pkt : UnconnectedPong}
    (hmotd : pkt.motd.length ≤ maxUnconnectedPongMotdBytes) :
    Decodes decodePong (encodeI64 pkt.pingTime ++ (encodeU64 pkt.serverGuid ++ (encodeMagic pkt.magic
      ++ (encodeU16 (UInt16.ofNat pkt.motd.length) ++ pkt.motd)))) pkt.magic pkt := by
  have hlength : (UInt16.ofNat pkt.motd.length).toNat = pkt.motd.length := by
    rw [UInt16.toNat_ofNat']
    exact Nat.mod_eq_of_lt (Nat.lt_of_le_of_lt hmotd (by decide))
  refine Decodes.behind (decodeI64_reads pkt.pingTime) ?_
  refine Decodes.behind (decodeU64_reads pkt.serverGuid) (Decodes.atMagic ?_)
  refine Reads.run_all ((decodeU16_reads _).bind ?_)
  rw [hlength]
  exact Reads.require (Nat.le_refl _) (Reads.copyToBytes rfl).bind_pure

theorem decodeReply1_decodes (pkt : OpenConnectionReply1) :
    Decodes decodeReply1 (encodeMagic pkt.magic ++ (encodeU64 pkt.serverGuid
      ++ (encodeBool pkt.cookie.isSome ++ ((pkt.cookie.map encodeU32).getD []
        ++ encodeU16 pkt.mtu)))) pkt.magic pkt := by
  refine Decodes.atMagic (Reads.run_all ?_)
  refine (decodeU64_reads pkt.serverGuid).bind ?_
  refine (decodeBool_reads pkt.cookie.isSome).bind ?_
  refine (Reads.optional rfl fun cookie _ => decodeU32_reads cookie).bind ?_
  exact (decodeU16_reads pkt.mtu).bind_pure

theorem decodeReply2_decodes (pkt : OpenConnectionReply2) :
    Decodes decodeReply2 (encodeMagic pkt.magic ++ (encodeU64 pkt.serverGuid
      ++ (encodeSocketAddr pkt.serverAddr ++ (encodeU16 pkt.mtu
        ++ encodeBool pkt.useEncryption)))) pkt.magic pkt := by
  refine Decodes.atMagic (Reads.run_all ?_)
  refine (decodeU64_reads pkt.serverGuid).bind ?_
  refine (decodeSocketAddr_reads pkt.serverAddr).bind ?_
  refine (decodeU16_reads pkt.mtu).bind ?_
  exact (decodeBool_reads pkt.useEncryption).bind_pure

theorem decodeIncompatible_decodes (pkt : IncompatibleProtocolVersion) :
    Decodes decodeIncompatible (encodeU8 pkt.protocolVersion ++ (encodeMagic pkt.magic
      ++ encodeU64 pkt.serverGuid)) pkt.magic pkt := by
  refine Decodes.behind (decodeU8_reads pkt.protocolVersion) (Decodes.atMagic ?_)
  exact (decodeU64_reads pkt.serverGuid).bind_pure.run_all

theorem decodeRejectPacket_decodes (pkt : RejectPacket) :
    Decodes decodeRejectPacket pkt.encode pkt.magic pkt :=
  Decodes.atMagic (decodeU64_reads pkt.serverGuid).bind_pure.run_all

/-! ## The first request -/

/-- The padding is as long as the MTU says, less the bytes in front of it. -/
theorem decodeRequest1_decodes {pkt : OpenConnectionRequest1}
    (hmtu : minimumMtuSize ≤ pkt.mtu ∧ pkt.mtu ≤ maximumMtuSize) :
    Decodes decodeRequest1 (encodeMagic pkt.magic ++ (encodeU8 pkt.protocolVersion
      ++ List.replicate (pkt.mtu.toNat - 18) 0)) pkt.magic pkt := by
  have hlow : 576 ≤ pkt.mtu.toNat := UInt16.le_iff_toNat_le.mp hmtu.1
  have hpadded : UInt16.ofNat ((List.replicate (pkt.mtu.toNat - 18) (0 : UInt8)).length + 18)
      = pkt.mtu := by
    rw [List.length_replicate, Nat.sub_add_cancel (by omega), UInt16.ofNat_toNat]
  refine Decodes.atMagic ?_
  rw [run_bind_ok (decodeU8_reads pkt.protocolVersion _)]
  generalize List.replicate (pkt.mtu.toNat - 18) (0 : UInt8) = padding at hpadded ⊢
  have hremaining : (remaining : Decoder DecodeError Nat).run padding
      = .ok (padding.length, padding) := rfl
  rw [run_bind_ok hremaining, run_bind_ok (copyToBytes_run_all padding), hpadded]
  rfl

/-! ## The second request -/

/-- The part of a second request behind the magic value. -/
def OpenConnectionRequest2.body (pkt : OpenConnectionRequest2) : Bytes :=
  (pkt.cookie.map fun cookie => encodeU32 cookie ++ encodeBool pkt.clientProof).getD []
    ++ (encodeSocketAddr pkt.serverAddr ++ (encodeU16 pkt.mtu ++ encodeU64 pkt.clientGuid))

/-- The fields that the encoding of a second request determines. -/
def OpenConnectionRequest2.candidate (pkt : OpenConnectionRequest2) : Request2Candidate :=
  { serverAddr := pkt.serverAddr
    mtu := pkt.mtu
    clientGuid := pkt.clientGuid
    cookie := pkt.cookie
    clientProof := pkt.clientProof }

/-- Without a cookie there is no proof flag, and the layout is the one the
    cookie says. -/
structure OpenConnectionRequest2.Strict (pkt : OpenConnectionRequest2) : Prop where
  proof : pkt.cookie = none → pkt.clientProof = false
  path : pkt.parsePath = if pkt.cookie.isSome then .strictWithCookie else .strictNoCookie

theorem parseCookie_reads {cookie : Option UInt32} {proof : Bool}
    (h : cookie = none → proof = false) :
    (parseCookie cookie.isSome true).Reads
      ((cookie.map fun cookie => encodeU32 cookie ++ encodeBool proof).getD []) (cookie, proof) := by
  cases cookie with
  | none =>
    rw [h rfl]
    exact Reads.pure _
  | some cookie =>
    have hcookie : (getInt 4 UInt32.ofNat).Reads (encodeU32 cookie) cookie :=
      getInt_reads cookie.toNat_lt UInt32.ofNat_toNat
    refine Reads.require (by simp [encodeU32, encodeBool]) (hcookie.bind ?_)
    cases proof with
    | true => exact (Reads.getU8 1).bind_end ((Reads.failIf (by decide) _).bind_nil (Reads.pure _))
    | false => exact (Reads.getU8 0).bind_end ((Reads.failIf (by decide) _).bind_nil (Reads.pure _))

/-- The layout of the cookie reads the whole body back. -/
theorem parseRequest2Candidate_run {pkt : OpenConnectionRequest2} (h : pkt.Strict) :
    (parseRequest2Candidate pkt.cookie.isSome true).run pkt.body = .ok (pkt.candidate, []) := by
  rw [OpenConnectionRequest2.body, parseRequest2Candidate, run_bind_ok (parseCookie_reads h.proof _)]
  dsimp only
  rw [run_bind_ok (decodeSocketAddr_reads pkt.serverAddr _),
    run_bind_ok (decodeU16_reads pkt.mtu _),
    run_bind_ok (decodeU64_reads pkt.clientGuid).run_all]
  rfl

/-- The lengths of a body that a layout accepts. -/
def AcceptedLength (withCookie : Bool) (length : Nat) : Prop :=
  length = (if withCookie then 5 else 0) + 17 ∨ length = (if withCookie then 5 else 0) + 39

theorem parseCookie_safe {withCookie strictBool : Bool} {n : Nat} :
    (parseCookie withCookie strictBool).Safe n
      fun _ used => used = if withCookie then 5 else 0 := by
  cases withCookie with
  | false => exact Safe.pure rfl
  | true =>
    refine Safe.require (((getInt_safe 4 _).weaken (by omega)).bind ?_)
    rintro _ _ rfl
    refine (Safe.getU8.weaken (by omega)).bind ?_
    rintro _ _ rfl
    exact Safe.failIf fun _ => Safe.pure rfl

/-- A layout accepts bodies of its lengths only, and reads all of them. -/
theorem parseRequest2Candidate_outcome (withCookie strictBool : Bool) (body : Bytes) :
    Outcome body.length (fun _ _ => AcceptedLength withCookie body.length)
      ((parseRequest2Candidate withCookie strictBool).run body) := by
  refine (parseCookie_safe body (Nat.zero_le _)).bind fun cookie rest₁ used₁ hlength₁ hused₁ => ?_
  refine (decodeSocketAddr_safe rest₁ (Nat.zero_le _)).bind
    fun addr rest₂ used₂ hlength₂ hused₂ => ?_
  refine (decodeInt_safe 2 _ rest₂ (Nat.zero_le _)).bind fun mtu rest₃ used₃ hlength₃ hused₃ => ?_
  refine (decodeInt_safe 8 _ rest₃ (Nat.zero_le _)).bind fun guid rest₄ used₄ hlength₄ hused₄ => ?_
  have hremaining : (remaining : Decoder DecodeError Nat).run rest₄
      = .ok (rest₄.length, rest₄) := rfl
  rw [run_bind_ok hremaining]
  by_cases hleft : rest₄.length ≠ 0
  · have hfailed : (failIf (rest₄.length ≠ 0) DecodeError.invalidRequest2Layout).run rest₄
        = .error (.error .invalidRequest2Layout) := by
      rw [failIf, if_pos hleft]
      rfl
    rw [run_bind_error hfailed]
    trivial
  · rw [run_bind_ok (run_failIf_of_not hleft _ rest₄)]
    refine Outcome.pure ?_
    rw [AcceptedLength]
    omega

theorem body_length (pkt : OpenConnectionRequest2) :
    AcceptedLength pkt.cookie.isSome pkt.body.length := by
  have haddr := length_encodeSocketAddr pkt.serverAddr
  rw [AcceptedLength, OpenConnectionRequest2.body]
  cases pkt.cookie <;>
    simp [encodeU16, encodeU32, encodeU64, encodeBool] <;> omega

/-- The other layout refuses the body. -/
theorem other_layout_fails (pkt : OpenConnectionRequest2) (withCookie : Bool)
    (h : withCookie ≠ pkt.cookie.isSome) (strictBool : Bool) :
    ∃ e, (tryOn (parseRequest2Candidate withCookie strictBool) pkt.body).run []
      = .ok (.error e, []) := by
  rcases tryOn_run (parseRequest2Candidate_outcome withCookie strictBool pkt.body) []
    with ⟨_, _, hlength, -⟩ | hfailed
  · have hown := body_length pkt
    rw [AcceptedLength] at hlength hown
    cases withCookie <;> cases hsome : pkt.cookie.isSome <;> simp_all <;> omega
  · exact hfailed

theorem decodeRequest2_decodes {pkt : OpenConnectionRequest2} (h : pkt.Strict) :
    Decodes decodeRequest2 (encodeMagic pkt.magic ++ pkt.body) pkt.magic pkt := by
  refine Decodes.atMagic ?_
  have hremaining : (remaining : Decoder DecodeError Nat).run pkt.body
      = .ok (pkt.body.length, pkt.body) := rfl
  rw [run_bind_ok hremaining, run_bind_ok (copyToBytes_run_all pkt.body)]
  have hown : (tryOn (parseRequest2Candidate pkt.cookie.isSome true) pkt.body).run []
      = .ok (.ok pkt.candidate, []) := by
    simp only [tryOn, parseRequest2Candidate_run h]
  have hpath := h.path
  cases hcookie : pkt.cookie.isSome with
  | false =>
    obtain ⟨e, hother⟩ := other_layout_fails pkt true
      (by rw [hcookie]; decide) true
    rw [hcookie] at hown hpath
    rw [run_bind_ok hown, run_bind_ok hother]
    exact congrArg (fun path => Except.ok (pkt.candidate.intoRequest pkt.magic path, [])) hpath.symm
  | true =>
    obtain ⟨e, hother⟩ := other_layout_fails pkt false
      (by rw [hcookie]; decide) true
    rw [hcookie] at hown hpath
    rw [run_bind_ok hother, run_bind_ok hown]
    exact congrArg (fun path => Except.ok (pkt.candidate.intoRequest pkt.magic path, [])) hpath.symm

/-! ## All packets -/

namespace OfflinePacket

def magic : OfflinePacket → Magic
  | .unconnectedPing pkt | .unconnectedPingOpenConnections pkt => pkt.magic
  | .unconnectedPong pkt => pkt.magic
  | .openConnectionRequest1 pkt => pkt.magic
  | .openConnectionReply1 pkt => pkt.magic
  | .openConnectionRequest2 pkt => pkt.magic
  | .openConnectionReply2 pkt => pkt.magic
  | .incompatibleProtocolVersion pkt => pkt.magic
  | .connectionRequestFailed pkt | .alreadyConnected pkt | .noFreeIncomingConnections pkt
  | .connectionBanned pkt | .ipRecentlyConnected pkt => pkt.magic

/-- The fields the encoder checks are in range. -/
def InRange : OfflinePacket → Prop
  | .unconnectedPong pkt => pkt.motd.length ≤ maxUnconnectedPongMotdBytes
  | .openConnectionRequest1 { mtu, .. } | .openConnectionReply1 { mtu, .. }
  | .openConnectionRequest2 { mtu, .. } | .openConnectionReply2 { mtu, .. } =>
    minimumMtuSize ≤ mtu ∧ mtu ≤ maximumMtuSize
  | _ => True

/-- The fields of a second request that its encoding does not carry are those
    that the decoder fills in. -/
def Strict : OfflinePacket → Prop
  | .openConnectionRequest2 pkt => pkt.Strict
  | _ => True

theorem validateMtu_bind {mtu : UInt16} {b bytes : Bytes} :
    (do validateMtu mtu; pure b : Except EncodeError Bytes) = .ok bytes ↔
      (minimumMtuSize ≤ mtu ∧ mtu ≤ maximumMtuSize) ∧ b = bytes := by
  unfold validateMtu
  split
  · next h => exact ⟨fun heq => ⟨h, Except.ok.inj heq⟩, fun heq => congrArg Except.ok heq.2⟩
  · next h => exact ⟨nofun, fun heq => absurd heq.1 h⟩

theorem motd_bind {len : Nat} {b : UInt16 → Bytes} {bytes : Bytes} :
    (do validateUnconnectedPongMotdLen len; let n ← motdLenU16 len; pure (b n)
      : Except EncodeError Bytes) = .ok bytes ↔
      len ≤ maxUnconnectedPongMotdBytes ∧ b (UInt16.ofNat len) = bytes := by
  unfold validateUnconnectedPongMotdLen
  split
  · next h => exact ⟨nofun, fun heq => absurd heq.1 (Nat.not_le.mpr h)⟩
  · next h =>
    have hlen : len < 65536 := Nat.lt_of_le_of_lt (Nat.le_of_not_lt h) (by decide)
    rw [motdLenU16, if_pos hlen]
    exact ⟨fun heq => ⟨Nat.le_of_not_lt h, Except.ok.inj heq⟩, fun heq => congrArg Except.ok heq.2⟩

/-- The body of every packet is decoded under its id. -/
theorem decodeWithRegistry_decodes {p : OfflinePacket} {body : Bytes} (hstrict : p.Strict)
    (hbody : p.encodeBody = .ok body) :
    Decodes (decodeWithRegistry p.id) body p.magic p := by
  cases p with
  | unconnectedPing pkt =>
    obtain rfl := Except.ok.inj hbody
    exact (decodePing_decodes pkt).wrap _
  | unconnectedPingOpenConnections pkt =>
    obtain rfl := Except.ok.inj hbody
    exact (decodePing_decodes pkt).wrap _
  | unconnectedPong pkt =>
    obtain ⟨hmotd, rfl⟩ := motd_bind.mp hbody
    exact (decodePong_decodes hmotd).wrap _
  | openConnectionRequest1 pkt =>
    obtain ⟨hmtu, rfl⟩ := validateMtu_bind.mp hbody
    exact (decodeRequest1_decodes hmtu).wrap _
  | openConnectionReply1 pkt =>
    obtain ⟨-, rfl⟩ := validateMtu_bind.mp hbody
    exact (decodeReply1_decodes pkt).wrap _
  | openConnectionRequest2 pkt =>
    obtain ⟨-, rfl⟩ := validateMtu_bind.mp hbody
    exact (decodeRequest2_decodes hstrict).wrap _
  | openConnectionReply2 pkt =>
    obtain ⟨-, rfl⟩ := validateMtu_bind.mp hbody
    exact (decodeReply2_decodes pkt).wrap _
  | incompatibleProtocolVersion pkt =>
    obtain rfl := Except.ok.inj hbody
    exact (decodeIncompatible_decodes pkt).wrap _
  | connectionRequestFailed pkt | alreadyConnected pkt | noFreeIncomingConnections pkt
  | connectionBanned pkt | ipRecentlyConnected pkt =>
    obtain rfl := Except.ok.inj hbody
    exact (decodeRejectPacket_decodes pkt).wrap _

theorem encodeBody_isOk (p : OfflinePacket) : (∃ body, p.encodeBody = .ok body) ↔ p.InRange := by
  cases p with
  | unconnectedPong pkt =>
    exact ⟨fun ⟨_, h⟩ => (motd_bind.mp h).1, fun h => ⟨_, motd_bind.mpr ⟨h, rfl⟩⟩⟩
  | openConnectionRequest1 pkt | openConnectionReply1 pkt | openConnectionRequest2 pkt
  | openConnectionReply2 pkt =>
    exact ⟨fun ⟨_, h⟩ => (validateMtu_bind.mp h).1, fun h => ⟨_, validateMtu_bind.mpr ⟨h, rfl⟩⟩⟩
  | _ => exact ⟨fun _ => trivial, fun _ => ⟨_, rfl⟩⟩

/-- What the encoder writes is decoded under the packet's magic value. -/
theorem encode_decodes {p : OfflinePacket} {bytes : Bytes} (hstrict : p.Strict)
    (hbytes : p.encode = .ok bytes) : Decodes decodeWithMagic bytes p.magic p := by
  unfold encode at hbytes
  cases hbody : p.encodeBody with
  | error e =>
    rw [hbody] at hbytes
    cases hbytes
  | ok body =>
    rw [hbody] at hbytes
    obtain rfl := Except.ok.inj hbytes
    exact Decodes.behind (decodeU8_reads p.id) (decodeWithRegistry_decodes hstrict hbody)

/-- The encoder accepts the packets whose fields are in range. The decoder reads
    what it wrote back to the last byte under the packet's magic value, and
    refuses it under any other. -/
theorem offline_packet_round_trip {p : OfflinePacket} (hstrict : p.Strict) :
    ((∃ bytes, p.encode = .ok bytes) ↔ p.InRange) ∧
    ∀ bytes, p.encode = .ok bytes →
      (decodeWithMagic p.magic).run bytes = .ok (p, []) ∧
      ∀ magic, magic ≠ p.magic →
        (decodeWithMagic magic).run bytes = .error (.error .invalidMagic) := by
  have hdecodes (bytes : Bytes) (hbytes : p.encode = .ok bytes) :=
    encode_decodes hstrict hbytes
  refine ⟨?_, fun bytes hbytes => ⟨(hdecodes bytes hbytes).own, (hdecodes bytes hbytes).other⟩⟩
  rw [← encodeBody_isOk]
  unfold encode
  cases hbody : p.encodeBody with
  | error e => exact ⟨nofun, nofun⟩
  | ok body => exact ⟨fun _ => ⟨body, rfl⟩, fun _ => ⟨_, rfl⟩⟩

/-- A second request whose cookie looks like the start of an address. -/
def lookalikeRequest2 : OfflinePacket :=
  .openConnectionRequest2
    { serverAddr := .v4 ipv4Localhost 19132
      mtu := 1400
      clientGuid := 0x0102030405060708
      cookie := some 0x0480FFFF
      clientProof := false
      parsePath := .strictWithCookie
      magic := defaultUnconnectedMagic }

theorem offline_packet_round_trip_lookalike :
    ∃ bytes, lookalikeRequest2.encode = .ok bytes ∧
      decode.run bytes = .ok (lookalikeRequest2, []) ∧
      (decodeWithMagic ⟨List.replicate 16 0, rfl⟩).run bytes = .error (.error .invalidMagic) := by
  obtain ⟨hencodes, hdecodes⟩ := offline_packet_round_trip (p := lookalikeRequest2) ⟨nofun, rfl⟩
  have hrange : minimumMtuSize ≤ 1400 ∧ 1400 ≤ maximumMtuSize := by decide
  obtain ⟨bytes, hbytes⟩ := hencodes.mpr hrange
  obtain ⟨hown, hother⟩ := hdecodes bytes hbytes
  exact ⟨bytes, hbytes, hown, hother _ (by decide)⟩

end OfflinePacket

end Raknet
