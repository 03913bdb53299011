-- SUMMARY: What kind of packet the bytes on the wire are read as: an encoded offline packet as itself, a datagram never as one.
import Raknet.Handshake.RoundTrip
import Raknet.Wire.Datagram

/-!
# Kinds of packets

Offline packets and datagrams share a socket and are told apart by their first byte. The
highest bit of it is set in a datagram and in no id of an offline packet.
-/

namespace Raknet

open Decoder

namespace OfflinePacket

/-- An encoded packet is read as itself, or not at all. -/
theorem eq_of_decode {p q : OfflinePacket} {magic : Magic} {bytes rest : Bytes}
    (hstrict : p.Strict) (hbytes : p.encode = .ok bytes)
    (h : (decodeWithMagic magic).run bytes = .ok (q, rest)) : q = p := by
  have hdecodes := encode_decodes hstrict hbytes
  by_cases hmagic : magic = p.magic
  · rw [hmagic, hdecodes.own] at h
    exact (congrArg Prod.fst (Except.ok.inj h)).symm
  · rw [hdecodes.other magic hmagic] at h
    cases h

/-- A packet is decoded under its own id. -/
theorem id_of_decode {p : OfflinePacket} {magic : Magic} {bytes rest : Bytes}
    (h : (decodeWithMagic magic).run bytes = .ok (p, rest)) : ∃ body, bytes = p.id :: body := by
  obtain ⟨id, body, hid, hpacket⟩ := exists_of_run_bind h
  have hwrap {α : Type} {d : Decoder DecodeError α} {f : α → OfflinePacket}
      (h : (do pure (f (← d))).run body = .ok (p, rest)) : ∃ a, p = f a := by
    obtain ⟨a, mid, -, hpure⟩ := exists_of_run_bind h
    exact ⟨a, (congrArg Prod.fst (Except.ok.inj hpure)).symm⟩
  have hread : bytes = id :: body := by
    cases bytes with
    | nil => cases hid
    | cons first more =>
      have hfirst := decodeU8_reads first more
      rw [encodeU8_eq, List.singleton_append, hid] at hfirst
      cases hfirst
      rfl
  refine ⟨body, hread.trans (congrArg (· :: body) ?_)⟩
  unfold decodeWithRegistry at hpacket
  -- one branch for each id
  repeat
    rcases run_ite hpacket with ⟨heq, hbranch⟩ | hpacket
    · obtain ⟨pkt, rfl⟩ := hwrap hbranch
      exact heq
  cases hpacket

/-- A packet that is read as anything but a second request is the one that was encoded. -/
theorem eq_of_decode_of_id {p q : OfflinePacket} {magic : Magic} {bytes rest : Bytes}
    (hbytes : p.encode = .ok bytes) (h : (decodeWithMagic magic).run bytes = .ok (q, rest))
    (hid : q.id ≠ 0x07) : q = p := by
  refine eq_of_decode ?_ hbytes h
  cases p with
  | openConnectionRequest2 pkt =>
    obtain ⟨body, rfl⟩ := id_of_decode h
    unfold encode at hbytes
    cases hbody : (openConnectionRequest2 pkt).encodeBody with
    | error e =>
      rw [hbody] at hbytes
      cases hbytes
    | ok rest =>
      rw [hbody] at hbytes
      have hhead := Except.ok.inj hbytes
      rw [encodeU8_eq, List.singleton_append] at hhead
      exact absurd (List.cons.inj hhead).1.symm hid
  | _ => trivial

/-- The ids of offline packets are below the ones of datagrams. -/
theorem decodeWithMagic_refuses {magic : Magic} {first : UInt8} {rest : Bytes}
    (hfirst : first &&& 0x80 ≠ 0) :
    (decodeWithMagic magic).run (first :: rest) = .error (.error (.invalidOfflinePacketId first)) := by
  have hne (id : UInt8) (hid : id &&& 0x80 = 0) : ¬first = id := by
    rintro rfl
    exact hfirst hid
  have hread := decodeU8_reads first rest
  rw [encodeU8_eq, List.singleton_append] at hread
  rw [decodeWithMagic, run_bind_ok hread, decodeWithRegistry, if_neg (hne 0x01 (by decide)),
    if_neg (hne 0x02 (by decide)), if_neg (hne 0x1C (by decide)), if_neg (hne 0x05 (by decide)),
    if_neg (hne 0x06 (by decide)), if_neg (hne 0x07 (by decide)), if_neg (hne 0x08 (by decide)),
    if_neg (hne 0x19 (by decide)), if_neg (hne 0x11 (by decide)), if_neg (hne 0x12 (by decide)),
    if_neg (hne 0x14 (by decide)), if_neg (hne 0x17 (by decide)), if_neg (hne 0x1A (by decide))]
  rfl

end OfflinePacket

/-! ## Datagrams -/

/-- The bytes of a datagram. -/
def IsDatagram (bytes : Bytes) : Prop := ∃ d : Datagram, d.encode = .ok bytes

theorem decodeDatagramFlags_bit {raw : UInt8} {r : DatagramFlags × DatagramKind}
    (h : decodeDatagramFlags raw = .ok r) : raw &&& 0x80 ≠ 0 := by
  intro hbit
  rw [decodeDatagramFlags, if_pos hbit] at h
  cases h

theorem validateFlagsForPayload_bit {flags : DatagramFlags} {payload : DatagramPayload}
    (h : validateFlagsForPayload flags payload = .ok ()) : flags &&& 0x80 ≠ 0 := by
  unfold validateFlagsForPayload at h
  cases hflags : decodeDatagramFlags flags with
  | error e =>
    rw [hflags] at h
    cases h
  | ok r => exact decodeDatagramFlags_bit hflags

theorem Datagram.encode_head {d : Datagram} {bytes : Bytes} (h : d.encode = .ok bytes) :
    ∃ rest, bytes = d.header.flags :: rest ∧ d.header.flags &&& 0x80 ≠ 0 := by
  unfold Datagram.encode at h
  cases hvalid : validateFlagsForPayload d.header.flags d.payload with
  | error e =>
    rw [hvalid] at h
    cases h
  | ok =>
    rw [hvalid] at h
    have hbit := validateFlagsForPayload_bit hvalid
    have hbody : ∀ (body : Except EncodeError Bytes) (front : Bytes),
        (do let rest ← body; pure (encodeU8 d.header.flags ++ (front ++ rest)) :
          Except EncodeError Bytes) = .ok bytes →
        ∃ rest, bytes = d.header.flags :: rest ∧ d.header.flags &&& 0x80 ≠ 0 := by
      intro body front hbytes
      cases body with
      | error e => cases hbytes
      | ok rest =>
        obtain rfl := Except.ok.inj hbytes
        exact ⟨front ++ rest, by rw [encodeU8_eq, List.singleton_append], hbit⟩
    cases hpayload : d.payload with
    | frames frames =>
      rw [hpayload] at h
      exact hbody _ _ h
    | ack payload =>
      rw [hpayload] at h
      exact hbody payload.encodeRaknet [] h
    | nack payload =>
      rw [hpayload] at h
      exact hbody payload.encodeRaknet [] h

theorem IsDatagram.not_offline {bytes : Bytes} (h : IsDatagram bytes) (magic : Magic)
    (r : OfflinePacket × Bytes) : (OfflinePacket.decodeWithMagic magic).run bytes ≠ .ok r := by
  obtain ⟨d, hd⟩ := h
  obtain ⟨rest, rfl, hbit⟩ := Datagram.encode_head hd
  rw [OfflinePacket.decodeWithMagic_refuses hbit]
  intro h
  cases h

/-! ## The packets of the MTU -/

/-- The MTU of a second request, as a server with this magic value reads it. -/
def requestedMtu (magic : Magic) (bytes : Bytes) : Option UInt16 :=
  match (OfflinePacket.decodeWithMagic magic).run bytes with
  | .ok (.openConnectionRequest2 req2, _) => some req2.mtu
  | _ => none

/-- The MTU of a second reply, as a client reads it. -/
def repliedMtu (bytes : Bytes) : Option UInt16 :=
  match OfflinePacket.decode.run bytes with
  | .ok (.openConnectionReply2 reply2, _) => some reply2.mtu
  | _ => none

/-- The MTU of a first reply, as a client reads it. -/
def offeredMtu (bytes : Bytes) : Option UInt16 :=
  match OfflinePacket.decode.run bytes with
  | .ok (.openConnectionReply1 reply1, _) => some reply1.mtu
  | _ => none

end Raknet
