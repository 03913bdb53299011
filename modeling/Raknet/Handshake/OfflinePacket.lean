-- SUMMARY: The packets of the offline handshake with their encoder and decoder.
import Raknet.Wire.Primitives

/-!
# Offline packets

The packets that are exchanged before a session is connected. Three layouts say
less than they carry: the MTU of the first request is the length of its padding,
the second request does not say whether a cookie is in front of the address, and
the magic value stands at different places.
-/

namespace Raknet

open Decoder

def minimumMtuSize : UInt16 := 576
def maximumMtuSize : UInt16 := 1400

def defaultUnconnectedMagic : Magic :=
  ⟨[0x00, 0xFF, 0xFF, 0x00, 0xFE, 0xFE, 0xFE, 0xFE, 0xFD, 0xFD, 0xFD, 0xFD, 0x12, 0x34, 0x56, 0x78],
    rfl⟩

/-- `i16::MAX`. -/
def maxUnconnectedPongMotdBytes : Nat := 32767

structure UnconnectedPing where
  pingTime : Int64
  clientGuid : UInt64
  magic : Magic
deriving DecidableEq, Repr

structure UnconnectedPong where
  pingTime : Int64
  serverGuid : UInt64
  magic : Magic
  motd : Bytes
deriving DecidableEq, Repr

structure OpenConnectionRequest1 where
  protocolVersion : UInt8
  mtu : UInt16
  magic : Magic
deriving DecidableEq, Repr

structure OpenConnectionReply1 where
  serverGuid : UInt64
  mtu : UInt16
  cookie : Option UInt32
  magic : Magic
deriving DecidableEq, Repr

/-- How the decoder came to the layout of a second request. -/
inductive Request2ParsePath where
  | strictNoCookie
  | strictWithCookie
  | ambiguousPreferredNoCookie
  | ambiguousPreferredWithCookie
  | legacyHeuristic
deriving DecidableEq, Repr

structure OpenConnectionRequest2 where
  serverAddr : SocketAddr
  mtu : UInt16
  clientGuid : UInt64
  cookie : Option UInt32
  clientProof : Bool
  parsePath : Request2ParsePath
  magic : Magic
deriving DecidableEq, Repr

structure OpenConnectionReply2 where
  serverGuid : UInt64
  serverAddr : SocketAddr
  mtu : UInt16
  useEncryption : Bool
  magic : Magic
deriving DecidableEq, Repr

structure IncompatibleProtocolVersion where
  protocolVersion : UInt8
  serverGuid : UInt64
  magic : Magic
deriving DecidableEq, Repr

/-- The contents of the five packets that turn a client away. -/
structure RejectPacket where
  serverGuid : UInt64
  magic : Magic
deriving DecidableEq, Repr

inductive OfflinePacket where
  | unconnectedPing (pkt : UnconnectedPing)
  | unconnectedPingOpenConnections (pkt : UnconnectedPing)
  | unconnectedPong (pkt : UnconnectedPong)
  | openConnectionRequest1 (pkt : OpenConnectionRequest1)
  | openConnectionReply1 (pkt : OpenConnectionReply1)
  | openConnectionRequest2 (pkt : OpenConnectionRequest2)
  | openConnectionReply2 (pkt : OpenConnectionReply2)
  | incompatibleProtocolVersion (pkt : IncompatibleProtocolVersion)
  | connectionRequestFailed (pkt : RejectPacket)
  | alreadyConnected (pkt : RejectPacket)
  | noFreeIncomingConnections (pkt : RejectPacket)
  | connectionBanned (pkt : RejectPacket)
  | ipRecentlyConnected (pkt : RejectPacket)
deriving DecidableEq, Repr

/-! ## Encoding -/

def validateMtu (mtu : UInt16) : Except EncodeError Unit :=
  if minimumMtuSize ≤ mtu ∧ mtu ≤ maximumMtuSize then .ok () else .error (.invalidMtu mtu)

def validateUnconnectedPongMotdLen (len : Nat) : Except EncodeError Unit :=
  if len > maxUnconnectedPongMotdBytes then .error (.offlinePongMotdTooLong len) else .ok ()

/-- `u16::try_from`, with the error the encoder makes of a failure. -/
def motdLenU16 (len : Nat) : Except EncodeError UInt16 :=
  if len < 65536 then .ok (UInt16.ofNat len) else .error (.offlinePongMotdTooLong len)

def RejectPacket.encode (pkt : RejectPacket) : Bytes :=
  encodeMagic pkt.magic ++ encodeU64 pkt.serverGuid

namespace OfflinePacket

def id : OfflinePacket → UInt8
  | .unconnectedPing _ => 0x01
  | .unconnectedPingOpenConnections _ => 0x02
  | .unconnectedPong _ => 0x1C
  | .openConnectionRequest1 _ => 0x05
  | .openConnectionReply1 _ => 0x06
  | .openConnectionRequest2 _ => 0x07
  | .openConnectionReply2 _ => 0x08
  | .incompatibleProtocolVersion _ => 0x19
  | .connectionRequestFailed _ => 0x11
  | .alreadyConnected _ => 0x12
  | .noFreeIncomingConnections _ => 0x14
  | .connectionBanned _ => 0x17
  | .ipRecentlyConnected _ => 0x1A

/-- What `encode` writes behind the id. -/
def encodeBody : OfflinePacket → Except EncodeError Bytes
  | .unconnectedPing pkt | .unconnectedPingOpenConnections pkt =>
    pure (encodeI64 pkt.pingTime ++ (encodeMagic pkt.magic ++ encodeU64 pkt.clientGuid))
  | .unconnectedPong pkt => do
    validateUnconnectedPongMotdLen pkt.motd.length
    let motdLen ← motdLenU16 pkt.motd.length
    pure (encodeI64 pkt.pingTime ++ (encodeU64 pkt.serverGuid ++ (encodeMagic pkt.magic
      ++ (encodeU16 motdLen ++ pkt.motd))))
  | .openConnectionRequest1 pkt => do
    validateMtu pkt.mtu
    -- the length of the packet stands for its MTU
    pure (encodeMagic pkt.magic ++ (encodeU8 pkt.protocolVersion
      ++ List.replicate (pkt.mtu.toNat - 18) 0))
  | .openConnectionReply1 pkt => do
    validateMtu pkt.mtu
    pure (encodeMagic pkt.magic ++ (encodeU64 pkt.serverGuid ++ (encodeBool pkt.cookie.isSome
      ++ ((pkt.cookie.map encodeU32).getD [] ++ encodeU16 pkt.mtu))))
  | .openConnectionRequest2 pkt => do
    validateMtu pkt.mtu
    let cookie := (pkt.cookie.map fun cookie => encodeU32 cookie ++ encodeBool pkt.clientProof)
    pure (encodeMagic pkt.magic ++ (cookie.getD [] ++ (encodeSocketAddr pkt.serverAddr
      ++ (encodeU16 pkt.mtu ++ encodeU64 pkt.clientGuid))))
  | .openConnectionReply2 pkt => do
    validateMtu pkt.mtu
    pure (encodeMagic pkt.magic ++ (encodeU64 pkt.serverGuid ++ (encodeSocketAddr pkt.serverAddr
      ++ (encodeU16 pkt.mtu ++ encodeBool pkt.useEncryption))))
  | .incompatibleProtocolVersion pkt =>
    pure (encodeU8 pkt.protocolVersion ++ (encodeMagic pkt.magic ++ encodeU64 pkt.serverGuid))
  | .connectionRequestFailed pkt | .alreadyConnected pkt | .noFreeIncomingConnections pkt
  | .connectionBanned pkt | .ipRecentlyConnected pkt => pure pkt.encode

def encode (p : OfflinePacket) : Except EncodeError Bytes := do
  let body ← p.encodeBody
  pure (encodeU8 p.id ++ body)

end OfflinePacket

/-! ## Decoding -/

def validateMagic (magic expectedMagic : Magic) : Except DecodeError Magic :=
  if magic ≠ expectedMagic then .error .invalidMagic else .ok magic

/-- `validate_magic(Magic::decode_raknet(src)?, expected_magic)`. -/
def decodeExpectedMagic (expectedMagic : Magic) : Decoder DecodeError Magic := do
  let magic ← decodeMagic
  lift (validateMagic magic expectedMagic)

def decodePing (expectedMagic : Magic) : Decoder DecodeError UnconnectedPing := do
  let pingTime ← decodeI64
  let magic ← decodeExpectedMagic expectedMagic
  let clientGuid ← decodeU64
  pure { pingTime, clientGuid, magic }

def decodePong (expectedMagic : Magic) : Decoder DecodeError UnconnectedPong := do
  let pingTime ← decodeI64
  let serverGuid ← decodeU64
  let magic ← decodeExpectedMagic expectedMagic
  let motdLen ← decodeU16
  require motdLen.toNat .unexpectedEof
  let motd ← copyToBytes motdLen.toNat
  pure { pingTime, serverGuid, magic, motd }

def decodeRequest1 (expectedMagic : Magic) : Decoder DecodeError OpenConnectionRequest1 := do
  let magic ← decodeExpectedMagic expectedMagic
  let protocolVersion ← decodeU8
  let paddingLen ← remaining
  let _padding ← copyToBytes paddingLen
  pure { protocolVersion, mtu := UInt16.ofNat (paddingLen + 18), magic }

def decodeReply1 (expectedMagic : Magic) : Decoder DecodeError OpenConnectionReply1 := do
  let magic ← decodeExpectedMagic expectedMagic
  let serverGuid ← decodeU64
  let hasCookie ← decodeBool
  let cookie ← optional hasCookie decodeU32
  let mtu ← decodeU16
  pure { serverGuid, mtu, cookie, magic }

structure Request2Candidate where
  serverAddr : SocketAddr
  mtu : UInt16
  clientGuid : UInt64
  cookie : Option UInt32
  clientProof : Bool
deriving DecidableEq, Repr

def Request2Candidate.intoRequest (c : Request2Candidate) (magic : Magic)
    (parsePath : Request2ParsePath) : OpenConnectionRequest2 :=
  { serverAddr := c.serverAddr
    mtu := c.mtu
    clientGuid := c.clientGuid
    cookie := c.cookie
    clientProof := c.clientProof
    parsePath
    magic }

/-- The cookie and the proof flag in front of the address. -/
def parseCookie (withCookie strictBool : Bool) : Decoder DecodeError (Option UInt32 × Bool) :=
  if withCookie then do
    require 5 .unexpectedEof
    let cookie ← getInt 4 UInt32.ofNat
    let rawProof ← getU8
    failIf (strictBool = true ∧ rawProof > 1) .invalidRequest2Layout
    pure (some cookie, rawProof == 1)
  else
    pure (none, false)

/-- `parse_request_2_candidate`, which takes the body as a buffer of its own. -/
def parseRequest2Candidate (withCookie strictBool : Bool) :
    Decoder DecodeError Request2Candidate := do
  let (cookie, clientProof) ← parseCookie withCookie strictBool
  let serverAddr ← decodeSocketAddr
  let mtu ← decodeU16
  let clientGuid ← decodeU64
  let left ← remaining
  failIf (left ≠ 0) .invalidRequest2Layout
  pure { serverAddr, mtu, clientGuid, cookie, clientProof }

/-- Whether the first byte of the body is an address version. -/
def startsWithVersion (body : Bytes) : Bool :=
  match body.head? with
  | some first => first == 4 || first == 6
  | none => false

/-- `parse_request_2_legacy`: an empty body is taken for one without a cookie. -/
def parseRequest2Legacy (body : Bytes) : Decoder DecodeError Request2Candidate :=
  parseRequest2Candidate (!body.isEmpty && !startsWithVersion body) false

def decodeRequest2 (expectedMagic : Magic) : Decoder DecodeError OpenConnectionRequest2 := do
  let magic ← decodeExpectedMagic expectedMagic
  let left ← remaining
  let body ← copyToBytes left
  let strictNoCookie ← tryOn (parseRequest2Candidate false true) body
  let strictWithCookie ← tryOn (parseRequest2Candidate true true) body
  match strictNoCookie, strictWithCookie with
  | .ok candidate, .error _ => pure (candidate.intoRequest magic .strictNoCookie)
  | .error _, .ok candidate => pure (candidate.intoRequest magic .strictWithCookie)
  | .ok noCookie, .ok withCookie =>
    if startsWithVersion body then
      pure (noCookie.intoRequest magic .ambiguousPreferredNoCookie)
    else
      pure (withCookie.intoRequest magic .ambiguousPreferredWithCookie)
  | .error _, .error _ => do
    let legacy ← tryOn (parseRequest2Legacy body) body
    let candidate ← lift legacy
    pure (candidate.intoRequest magic .legacyHeuristic)

def decodeReply2 (expectedMagic : Magic) : Decoder DecodeError OpenConnectionReply2 := do
  let magic ← decodeExpectedMagic expectedMagic
  let serverGuid ← decodeU64
  let serverAddr ← decodeSocketAddr
  let mtu ← decodeU16
  let useEncryption ← decodeBool
  pure { serverGuid, serverAddr, mtu, useEncryption, magic }

def decodeIncompatible (expectedMagic : Magic) :
    Decoder DecodeError IncompatibleProtocolVersion := do
  let protocolVersion ← decodeU8
  let magic ← decodeExpectedMagic expectedMagic
  let serverGuid ← decodeU64
  pure { protocolVersion, serverGuid, magic }

def decodeRejectPacket (expectedMagic : Magic) : Decoder DecodeError RejectPacket := do
  let magic ← decodeExpectedMagic expectedMagic
  let serverGuid ← decodeU64
  pure { serverGuid, magic }

namespace OfflinePacket

/-- `decode_offline_packet_with_registry`. -/
def decodeWithRegistry (id : UInt8) (expectedMagic : Magic) : Decoder DecodeError OfflinePacket :=
  if id = 0x01 then do pure (.unconnectedPing (← decodePing expectedMagic))
  else if id = 0x02 then do pure (.unconnectedPingOpenConnections (← decodePing expectedMagic))
  else if id = 0x1C then do pure (.unconnectedPong (← decodePong expectedMagic))
  else if id = 0x05 then do pure (.openConnectionRequest1 (← decodeRequest1 expectedMagic))
  else if id = 0x06 then do pure (.openConnectionReply1 (← decodeReply1 expectedMagic))
  else if id = 0x07 then do pure (.openConnectionRequest2 (← decodeRequest2 expectedMagic))
  else if id = 0x08 then do pure (.openConnectionReply2 (← decodeReply2 expectedMagic))
  else if id = 0x19 then do pure (.incompatibleProtocolVersion (← decodeIncompatible expectedMagic))
  else if id = 0x11 then do pure (.connectionRequestFailed (← decodeRejectPacket expectedMagic))
  else if id = 0x12 then do pure (.alreadyConnected (← decodeRejectPacket expectedMagic))
  else if id = 0x14 then do pure (.noFreeIncomingConnections (← decodeRejectPacket expectedMagic))
  else if id = 0x17 then do pure (.connectionBanned (← decodeRejectPacket expectedMagic))
  else if id = 0x1A then do pure (.ipRecentlyConnected (← decodeRejectPacket expectedMagic))
  else fail (.invalidOfflinePacketId id)

def decodeWithMagic (expectedMagic : Magic) : Decoder DecodeError OfflinePacket := do
  let id ← decodeU8
  decodeWithRegistry id expectedMagic

def decode : Decoder DecodeError OfflinePacket := decodeWithMagic defaultUnconnectedMagic

end OfflinePacket

end Raknet
