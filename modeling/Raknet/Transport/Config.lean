-- SUMMARY: The configuration of the transport server and its defaults.
import Raknet.Handshake.OfflinePacket
import Raknet.Transport.RateLimiter

namespace Raknet

/-- `RAKNET_PROTOCOL_VERSION`. -/
def raknetProtocolVersion : UInt8 := 11

structure HandshakeHeuristicsConfig where
  enabled : Bool
  eventWindow : Duration
  blockDuration : Duration
  scoreThreshold : Nat
  req1Req2TimeoutScore : Nat
  reply2ConnectTimeoutScore : Nat
  missingReq1Score : Nat
  cookieMismatchScore : Nat
  parseAnomalyScore : Nat
deriving DecidableEq, Repr

def HandshakeHeuristicsConfig.standard : HandshakeHeuristicsConfig :=
  { enabled := true
    eventWindow := .fromMillis 30000
    blockDuration := .fromMillis 30000
    scoreThreshold := 16
    req1Req2TimeoutScore := 4
    reply2ConnectTimeoutScore := 4
    missingReq1Score := 3
    cookieMismatchScore := 6
    parseAnomalyScore := 2 }

structure CookieMismatchGuardConfig where
  enabled : Bool
  eventWindow : Duration
  mismatchThreshold : Nat
  blockDuration : Duration
deriving DecidableEq, Repr

def CookieMismatchGuardConfig.standard : CookieMismatchGuardConfig :=
  { enabled := true
    eventWindow := .fromMillis 20000
    mismatchThreshold := 3
    blockDuration := .fromMillis 30000 }

inductive Request2ServerAddrPolicy where
  | disabled
  | portOnly
  | exact
deriving DecidableEq, Repr

/-- The fields a running server reads. The socket options, which only `bind`
    looks at, are left out. -/
structure TransportConfig (F : Type) where
  bindAddr : SocketAddr
  mtu : Nat
  unconnectedMagic : Magic
  serverGuid : UInt64
  /-- The bytes of the text. -/
  advertisement : Bytes
  sendCookie : Bool
  handshakeTimeout : Duration
  handshakeReq1Req2Timeout : Duration
  handshakeReply2ConnectTimeout : Duration
  ipRecentlyConnectedWindow : Duration
  request2ServerAddrPolicy : Request2ServerAddrPolicy
  cookieRotationInterval : Duration
  cookieMismatchGuard : CookieMismatchGuardConfig
  allowLegacyRequest2Fallback : Bool
  rejectAmbiguousRequest2 : Bool
  perIpPacketLimit : Nat
  globalPacketLimit : Nat
  rateWindow : Duration
  blockDuration : Duration
  processingBudget : ProcessingBudgetConfig
  maxSessions : Nat
  sessionIdleTimeout : Duration
  sessionKeepaliveInterval : Duration
  unhandledQueueMaxFrames : Nat
  unhandledQueueMaxBytes : Nat
  handshakeHeuristics : HandshakeHeuristicsConfig
  sessionTunables : SessionTunables F
  rateLimitExceptions : List IpAddr
  supportedProtocols : List UInt8

namespace TransportConfig

variable {F : Type} [F64 F]

/-- `TransportConfig::default`. -/
def standard : TransportConfig F :=
  { bindAddr := .v4 ipv4Unspecified 19132
    mtu := maximumMtuSize.toNat
    unconnectedMagic := defaultUnconnectedMagic
    serverGuid := 0xC0DECAFE12345678
    advertisement := "MCBE Rust Engine".toUTF8.toList
    sendCookie := true
    handshakeTimeout := .fromMillis 10000
    handshakeReq1Req2Timeout := .fromMillis 10000
    handshakeReply2ConnectTimeout := .fromMillis 10000
    ipRecentlyConnectedWindow := 0
    request2ServerAddrPolicy := .portOnly
    cookieRotationInterval := .fromMillis 120000
    cookieMismatchGuard := .standard
    allowLegacyRequest2Fallback := true
    rejectAmbiguousRequest2 := false
    perIpPacketLimit := 120
    globalPacketLimit := 100000
    rateWindow := .fromMillis 10
    blockDuration := .fromMillis 10000
    processingBudget := .standard
    maxSessions := 20000
    sessionIdleTimeout := .fromMillis 30000
    sessionKeepaliveInterval := .fromMillis 10000
    unhandledQueueMaxFrames := 512
    unhandledQueueMaxBytes := 512 * 1024
    handshakeHeuristics := .standard
    sessionTunables := .standard
    rateLimitExceptions := []
    supportedProtocols := [raknetProtocolVersion] }

/-- `handshake_req1_req2_timeout`: the unified timeout stands in for zero. -/
def req1Req2Timeout (c : TransportConfig F) : Duration :=
  if c.handshakeReq1Req2Timeout = 0 then c.handshakeTimeout else c.handshakeReq1Req2Timeout

/-- `handshake_reply2_connect_timeout`. -/
def reply2ConnectTimeout (c : TransportConfig F) : Duration :=
  if c.handshakeReply2ConnectTimeout = 0 then c.handshakeTimeout
  else c.handshakeReply2ConnectTimeout

end TransportConfig

end Raknet
