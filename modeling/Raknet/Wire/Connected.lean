-- SUMMARY: The control packets of a connection with their encoder and decoder.
import Raknet.Wire.Primitives

namespace Raknet

open Decoder

def systemAddressCount : Nat := 10

/-- The addresses a host lists for itself. -/
abbrev SystemAddresses := { addrs : List SocketAddr // addrs.length = systemAddressCount }

structure ConnectionRequest where
  clientGuid : UInt64
  requestTime : Int64
  useEncryption : Bool
deriving DecidableEq, Repr

structure ConnectionRequestAccepted where
  clientAddr : SocketAddr
  systemIndex : UInt16
  internalAddrs : SystemAddresses
  requestTime : Int64
  acceptedTime : Int64
deriving DecidableEq, Repr

structure NewIncomingConnection where
  serverAddr : SocketAddr
  internalAddrs : SystemAddresses
  requestTime : Int64
  acceptedTime : Int64
deriving DecidableEq, Repr

inductive ConnectedControlPacket where
  | connectedPing (pingTime : Int64)
  | connectedPong (pingTime pongTime : Int64)
  | connectionRequest (pkt : ConnectionRequest)
  | connectionRequestAccepted (pkt : ConnectionRequestAccepted)
  | newIncomingConnection (pkt : NewIncomingConnection)
  | disconnectionNotification (reason : Option UInt8)
  | detectLostConnection
deriving DecidableEq, Repr

namespace ConnectedControlPacket

def id : ConnectedControlPacket → UInt8
  | .connectedPing _ => 0x00
  | .connectedPong _ _ => 0x03
  | .connectionRequest _ => 0x09
  | .connectionRequestAccepted _ => 0x10
  | .newIncomingConnection _ => 0x13
  | .disconnectionNotification _ => 0x15
  | .detectLostConnection => 0x04

/-- What `encode` writes behind the id. -/
def encodeBody : ConnectedControlPacket → Bytes
  | .connectedPing pingTime => encodeI64 pingTime
  | .connectedPong pingTime pongTime => encodeI64 pingTime ++ encodeI64 pongTime
  | .connectionRequest pkt =>
    encodeU64 pkt.clientGuid ++ (encodeI64 pkt.requestTime ++ encodeBool pkt.useEncryption)
  | .connectionRequestAccepted pkt =>
    encodeSocketAddr pkt.clientAddr ++ (encodeU16 pkt.systemIndex
      ++ (pkt.internalAddrs.val.flatMap encodeSocketAddr
        ++ (encodeI64 pkt.requestTime ++ encodeI64 pkt.acceptedTime)))
  | .newIncomingConnection pkt =>
    encodeSocketAddr pkt.serverAddr ++ (pkt.internalAddrs.val.flatMap encodeSocketAddr
      ++ (encodeI64 pkt.requestTime ++ encodeI64 pkt.acceptedTime))
  | .disconnectionNotification reason => (reason.map encodeU8).getD []
  | .detectLostConnection => []

/-- No field can fail to be encoded. -/
def encode (p : ConnectedControlPacket) : Except EncodeError Bytes :=
  pure (encodeU8 p.id ++ p.encodeBody)

def decode : Decoder DecodeError ConnectedControlPacket := do
  let id ← decodeU8
  if id = 0x00 then do
    let pingTime ← decodeI64
    pure (.connectedPing pingTime)
  else if id = 0x03 then do
    let pingTime ← decodeI64
    let pongTime ← decodeI64
    pure (.connectedPong pingTime pongTime)
  else if id = 0x09 then do
    let clientGuid ← decodeU64
    let requestTime ← decodeI64
    let useEncryption ← decodeBool
    pure (.connectionRequest { clientGuid, requestTime, useEncryption })
  else if id = 0x10 then do
    let clientAddr ← decodeSocketAddr
    let systemIndex ← decodeU16
    let internalAddrs ← array decodeSocketAddr systemAddressCount
    let requestTime ← decodeI64
    let acceptedTime ← decodeI64
    pure (.connectionRequestAccepted
      { clientAddr, systemIndex, internalAddrs, requestTime, acceptedTime })
  else if id = 0x13 then do
    let serverAddr ← decodeSocketAddr
    let internalAddrs ← array decodeSocketAddr systemAddressCount
    let requestTime ← decodeI64
    let acceptedTime ← decodeI64
    pure (.newIncomingConnection { serverAddr, internalAddrs, requestTime, acceptedTime })
  else if id = 0x15 then do
    let left ← remaining
    let reason ← optional (left != 0) decodeU8
    pure (.disconnectionNotification reason)
  else if id = 0x04 then
    pure .detectLostConnection
  else
    fail (.invalidConnectedPacketId id)

/-! ## Reading back -/

/-- The addresses are read one after the other: each says itself how long it is. -/
theorem systemAddresses_reads (addrs : SystemAddresses) :
    (array decodeSocketAddr systemAddressCount).Reads (addrs.val.flatMap encodeSocketAddr) addrs :=
  Reads.array decodeSocketAddr_reads addrs

theorem decode_connectedPing (pingTime : Int64) :
    decode.Reads (encodeU8 0x00 ++ encodeI64 pingTime) (.connectedPing pingTime) :=
  (decodeU8_reads 0x00).bind (decodeI64_reads pingTime).bind_pure

theorem decode_connectedPong (pingTime pongTime : Int64) :
    decode.Reads (encodeU8 0x03 ++ (encodeI64 pingTime ++ encodeI64 pongTime))
      (.connectedPong pingTime pongTime) := by
  refine (decodeU8_reads 0x03).bind ?_
  exact (decodeI64_reads pingTime).bind (decodeI64_reads pongTime).bind_pure

theorem decode_connectionRequest (pkt : ConnectionRequest) :
    decode.Reads (encodeU8 0x09 ++ encodeBody (.connectionRequest pkt))
      (.connectionRequest pkt) := by
  refine (decodeU8_reads 0x09).bind ?_
  refine (decodeU64_reads pkt.clientGuid).bind ?_
  refine (decodeI64_reads pkt.requestTime).bind ?_
  exact (decodeBool_reads pkt.useEncryption).bind_pure

theorem decode_connectionRequestAccepted (pkt : ConnectionRequestAccepted) :
    decode.Reads (encodeU8 0x10 ++ encodeBody (.connectionRequestAccepted pkt))
      (.connectionRequestAccepted pkt) := by
  refine (decodeU8_reads 0x10).bind ?_
  refine (decodeSocketAddr_reads pkt.clientAddr).bind ?_
  refine (decodeU16_reads pkt.systemIndex).bind ?_
  refine (systemAddresses_reads pkt.internalAddrs).bind ?_
  exact (decodeI64_reads pkt.requestTime).bind (decodeI64_reads pkt.acceptedTime).bind_pure

theorem decode_newIncomingConnection (pkt : NewIncomingConnection) :
    decode.Reads (encodeU8 0x13 ++ encodeBody (.newIncomingConnection pkt))
      (.newIncomingConnection pkt) := by
  refine (decodeU8_reads 0x13).bind ?_
  refine (decodeSocketAddr_reads pkt.serverAddr).bind ?_
  refine (systemAddresses_reads pkt.internalAddrs).bind ?_
  exact (decodeI64_reads pkt.requestTime).bind (decodeI64_reads pkt.acceptedTime).bind_pure

/-- The reason is there if a byte is left, so the notification is read back only at the end
    of a buffer. -/
theorem decode_disconnectionNotification (reason : Option UInt8) :
    decode.run (encodeU8 0x15 ++ encodeBody (.disconnectionNotification reason))
      = .ok (.disconnectionNotification reason, []) := by
  cases reason with
  | none => rfl
  | some reason =>
    refine (run_bind_ok (decodeU8_reads 0x15 (encodeU8 reason))).trans ?_
    have hleft : (remaining : Decoder DecodeError Nat).run (encodeU8 reason)
        = .ok (1, encodeU8 reason) := by
      rw [encodeU8_eq]
      rfl
    refine (run_bind_ok hleft).trans ?_
    exact run_bind_ok (run_bind_ok (decodeU8_reads reason).run_all)

/-- Every control packet is read back from its encoding to the last byte, and the encoding
    begins with the id of the packet. -/
theorem connected_control_round_trip (p : ConnectedControlPacket) :
    ∃ bytes, p.encode = .ok bytes ∧ bytes.head? = some p.id ∧ decode.run bytes = .ok (p, []) := by
  refine ⟨encodeU8 p.id ++ p.encodeBody, rfl, by rw [encodeU8_eq]; rfl, ?_⟩
  cases p with
  | connectedPing pingTime =>
    rw [id, encodeBody]
    exact (decode_connectedPing pingTime).run_all
  | connectedPong pingTime pongTime =>
    rw [id, encodeBody]
    exact (decode_connectedPong pingTime pongTime).run_all
  | connectionRequest pkt =>
    rw [id]
    exact (decode_connectionRequest pkt).run_all
  | connectionRequestAccepted pkt =>
    rw [id]
    exact (decode_connectionRequestAccepted pkt).run_all
  | newIncomingConnection pkt =>
    rw [id]
    exact (decode_newIncomingConnection pkt).run_all
  | disconnectionNotification reason =>
    rw [id]
    exact decode_disconnectionNotification reason
  | detectLostConnection => rfl

end ConnectedControlPacket

end Raknet
