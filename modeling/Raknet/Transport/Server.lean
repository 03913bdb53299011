-- SUMMARY: The state of the transport server, its cookies, and the maintenance of sessions and handshakes.
import Raknet.Session.Run
import Raknet.Transport.Config
import Raknet.Transport.Pipeline
import Raknet.Wire.Connected
import Raknet.Wire.Datagram

/-!
# The transport server

One server owns the sessions of all peers, the handshakes that are under way, and
what it knows of the addresses it has seen. What a call reads from its
surroundings (clocks, random keys, the fate of what it sends and the order in
which a hash map is iterated) is an input of the call, in `Env`.
-/

namespace Raknet

open Decoder

/-- The order in which a call visits the keys of a hash map. -/
structure IterationOrder (K : Type) where
  arrange : List K → List K
  perm : ∀ keys, (arrange keys).Perm keys

/-- The order of the entries in the model. -/
def IterationOrder.identity {K : Type} : IterationOrder K := ⟨id, fun _ => List.Perm.refl _⟩

/-- `SecretCookieKey`. -/
abbrev CookieKey := Octets 32

/-- What a call reads from its surroundings. -/
structure Env where
  /-- The `Instant::now()` at the start of the call. -/
  now : Instant
  /-- The `Instant::now()` when the session of an address is closed. -/
  closedAt : SocketAddr → Instant
  /-- The `Instant::now()` when a session is created. -/
  openedAt : Instant
  /-- The `unix_timestamp_millis()` that is read for the session of an address. -/
  nowMillis : SocketAddr → Int64
  /-- `random_cookie_key()`. -/
  nextKey : CookieKey
  /-- Whether the socket takes the packet of each attempt to send. -/
  sendOk : Nat → Bool
  order : IterationOrder SocketAddr

inductive InboundProxyRoute where
  | toSession (sessionAddr : SocketAddr)
  | drop
deriving DecidableEq, Repr

inductive OutboundProxyRoute where
  | send (targetAddr : SocketAddr)
  | drop
deriving DecidableEq, Repr

structure ProxyRouter where
  routeInbound : SocketAddr → SocketAddr → InboundProxyRoute
  routeOutbound : SocketAddr → SocketAddr → OutboundProxyRoute

inductive PendingHandshakeStage where
  | awaitingRequest2
  | awaitingConnectionRequest
deriving DecidableEq, Repr

structure PendingHandshake where
  mtu : UInt16
  cookie : Option UInt32
  clientGuid : Option UInt64
  stage : PendingHandshakeStage
  expiresAt : Instant
deriving DecidableEq, Repr

structure HandshakeHeuristicState where
  windowStartedAt : Instant
  score : Nat
deriving DecidableEq, Repr

structure CookieMismatchGuardState where
  windowStartedAt : Instant
  mismatches : Nat
deriving DecidableEq, Repr

inductive HandshakeViolation where
  | req1Req2Timeout
  | reply2ConnectTimeout
  | missingPendingReq1
  | cookieMismatch
  | parseAnomalyDrop
deriving DecidableEq, Repr

def HandshakeViolation.score (h : HandshakeHeuristicsConfig) : HandshakeViolation → Nat
  | .req1Req2Timeout => h.req1Req2TimeoutScore
  | .reply2ConnectTimeout => h.reply2ConnectTimeoutScore
  | .missingPendingReq1 => h.missingReq1Score
  | .cookieMismatch => h.cookieMismatchScore
  | .parseAnomalyDrop => h.parseAnomalyScore

inductive RemoteDisconnectReason where
  | disconnectionNotification (reasonCode : Option UInt8)
  | detectLostConnection
deriving DecidableEq, Repr

/-- The counters of the server, as `metrics_snapshot` reports them. -/
structure TransportCounters where
  sessionsStartedTotal : Nat := 0
  sessionsClosedTotal : Nat := 0
  packetsForwardedTotal : Nat := 0
  bytesForwardedTotal : Nat := 0
  illegalStateTransitions : Nat := 0
  timedOutSessions : Nat := 0
  localRequestedDisconnects : Nat := 0
  remoteDisconnectNotifications : Nat := 0
  remoteDetectLostDisconnects : Nat := 0
  keepalivePingsSent : Nat := 0
  cookieRotations : Nat := 0
  cookieMismatchDrops : Nat := 0
  cookieMismatchBlocks : Nat := 0
  handshakeStageCancelDrops : Nat := 0
  handshakeReq1Req2Timeouts : Nat := 0
  handshakeReply2ConnectTimeouts : Nat := 0
  handshakeMissingReq1Drops : Nat := 0
  handshakeAutoBlocks : Nat := 0
  handshakeAlreadyConnectedRejects : Nat := 0
  handshakeIpRecentlyConnectedRejects : Nat := 0
  request2ServerAddrMismatchDrops : Nat := 0
  request2LegacyParseHits : Nat := 0
  request2LegacyDrops : Nat := 0
  request2AmbiguousParseHits : Nat := 0
  request2AmbiguousDrops : Nat := 0
  proxyInboundReroutes : Nat := 0
  proxyInboundDrops : Nat := 0
  proxyOutboundReroutes : Nat := 0
  proxyOutboundDrops : Nat := 0
deriving DecidableEq, Repr

structure TransportServer (F H : Type) where
  config : TransportConfig F
  /-- What `local_addr()` of the socket returns, if it does. -/
  socketAddr : Option SocketAddr
  /-- The tag of `HmacSha256` under a key, which no operation changes. -/
  hmacSha256 : CookieKey → Bytes → Octets 32
  rateLimiter : RateLimiter F
  proxyRouter : Option ProxyRouter
  cookieKeyCurrent : CookieKey
  cookieKeyPrevious : Option CookieKey
  nextCookieRotation : Instant
  sessions : AssocMap SocketAddr (Session F H)
  sessionPipelines : AssocMap SocketAddr SessionPipeline
  pendingHandshakes : AssocMap SocketAddr PendingHandshake
  handshakeHeuristics : AssocMap IpAddr HandshakeHeuristicState
  cookieMismatchGuardStates : AssocMap IpAddr CookieMismatchGuardState
  ipRecentlyConnectedUntil : AssocMap IpAddr Instant
  counters : TransportCounters

variable {F H : Type} [F64 F] [MinHeap H QueuedFrame QueuedFrame.weight]

namespace TransportServer

/-- Update the counters. -/
def count (s : TransportServer F H) (f : TransportCounters → TransportCounters) :
    TransportServer F H :=
  { s with counters := f s.counters }

/-- `self.local_addr().unwrap_or(self.config.bind_addr)`. -/
def localAddr (s : TransportServer F H) : SocketAddr := s.socketAddr.getD s.config.bindAddr

/-! ## Cookies -/

/-- The bytes that `update_mac_with_socket_addr` feeds to the hash. -/
def macBytes : SocketAddr → Bytes
  | .v4 ip port => [4] ++ ip.val ++ leBytes 2 port.toNat
  | .v6 ip port flowinfo scopeId =>
    [6] ++ ip.val ++ leBytes 2 port.toNat ++ leBytes 4 flowinfo.toNat ++ leBytes 4 scopeId.toNat
where
  /-- `to_le_bytes`. -/
  leBytes (n v : Nat) : Bytes := (beBytes n v).reverse

/-- The first four bytes of the tag, the lowest first. -/
def computeCookieForKey (s : TransportServer F H) (addr : SocketAddr) (key : CookieKey) : UInt32 :=
  let message := macBytes addr ++ macBytes s.config.bindAddr
    ++ macBytes.leBytes 8 s.config.serverGuid.toNat
  UInt32.ofNat (beValue ((s.hmacSha256 key message).val.take 4).reverse)

def generateCookie (s : TransportServer F H) (addr : SocketAddr) : UInt32 :=
  s.computeCookieForKey addr s.cookieKeyCurrent

def verifyCookie (s : TransportServer F H) (addr : SocketAddr) (cookie : Option UInt32) : Bool :=
  match cookie with
  | none => false
  | some cookie =>
    s.computeCookieForKey addr s.cookieKeyCurrent == cookie ||
      match s.cookieKeyPrevious with
      | some previousKey => s.computeCookieForKey addr previousKey == cookie
      | none => false

def rotateCookieKeysIfNeeded (s : TransportServer F H) (env : Env) : TransportServer F H :=
  if !s.config.sendCookie ∨ s.config.cookieRotationInterval = 0 then
    s
  else if env.now < s.nextCookieRotation then
    s
  else
    { s with
      cookieKeyCurrent := env.nextKey
      cookieKeyPrevious := some s.cookieKeyCurrent
      nextCookieRotation := env.now + s.config.cookieRotationInterval
      counters := { s.counters with
        cookieRotations := satAdd s.counters.cookieRotations 1 } }

/-! ## What the server remembers of addresses -/

def pruneIpRecentlyConnected (s : TransportServer F H) (now : Instant) : TransportServer F H :=
  if s.config.ipRecentlyConnectedWindow = 0 then
    { s with ipRecentlyConnectedUntil := ∅ }
  else
    { s with
      ipRecentlyConnectedUntil := s.ipRecentlyConnectedUntil.retain fun _ until_ =>
        decide (now < until_) }

/-- The question of `is_ip_recently_connected`, which prunes the map first. -/
def ipRecentlyConnected (s : TransportServer F H) (addr : SocketAddr) (now : Instant) : Bool :=
  match s.ipRecentlyConnectedUntil.lookup addr.ip with
  | some until_ => decide (now < until_)
  | none => false

def markIpRecentlyConnected (s : TransportServer F H) (addr : SocketAddr) (now : Instant) :
    TransportServer F H :=
  if s.config.ipRecentlyConnectedWindow = 0 then
    s
  else
    { s with
      ipRecentlyConnectedUntil :=
        s.ipRecentlyConnectedUntil.insert addr.ip (now + s.config.ipRecentlyConnectedWindow) }

def pruneCookieMismatchGuardStates (s : TransportServer F H) (now : Instant) :
    TransportServer F H :=
  let guard := s.config.cookieMismatchGuard
  if !guard.enabled ∨ guard.eventWindow = 0 then
    { s with cookieMismatchGuardStates := ∅ }
  else
    { s with
      cookieMismatchGuardStates := s.cookieMismatchGuardStates.retain fun _ state =>
        decide (now - state.windowStartedAt ≤ guard.eventWindow) }

def clearCookieMismatchState (s : TransportServer F H) (ip : IpAddr) : TransportServer F H :=
  { s with cookieMismatchGuardStates := s.cookieMismatchGuardStates.erase ip }

def pruneHandshakeHeuristicStates (s : TransportServer F H) (now : Instant) :
    TransportServer F H :=
  let h := s.config.handshakeHeuristics
  if !h.enabled ∨ h.eventWindow = 0 then
    { s with handshakeHeuristics := ∅ }
  else
    { s with
      handshakeHeuristics := s.handshakeHeuristics.retain fun _ state =>
        decide (now - state.windowStartedAt ≤ h.eventWindow) }

/-- Block the address, and count the block if it is new. -/
def blockAndCount (s : TransportServer F H) (ip : IpAddr) (now : Instant) (duration : Duration)
    (reason : BlockReason) (f : TransportCounters → TransportCounters) :
    Bool × TransportServer F H :=
  let (newlyBlocked, rateLimiter) :=
    s.rateLimiter.blockAddressForWithReason ip now duration reason
  let s := { s with rateLimiter }
  (newlyBlocked, if newlyBlocked then s.count f else s)

def recordCookieMismatch (s : TransportServer F H) (ip : IpAddr) (now : Instant) :
    Bool × TransportServer F H :=
  let guard := s.config.cookieMismatchGuard
  if !guard.enabled ∨ guard.eventWindow = 0 ∨ guard.blockDuration = 0 ∨
      guard.mismatchThreshold = 0 then
    (false, s)
  else
    let state := (s.cookieMismatchGuardStates.lookup ip).getD ⟨now, 0⟩
    let state := if now - state.windowStartedAt > guard.eventWindow then ⟨now, 0⟩ else state
    let state := { state with mismatches := min (state.mismatches + 1) (2 ^ 32 - 1) }
    if state.mismatches < guard.mismatchThreshold then
      (false, { s with
        cookieMismatchGuardStates := s.cookieMismatchGuardStates.insert ip state })
    else
      ({ s with
        cookieMismatchGuardStates :=
          s.cookieMismatchGuardStates.insert ip ⟨now, 0⟩ } : TransportServer F H).blockAndCount
        ip now guard.blockDuration .cookieMismatchGuard
        fun c => { c with cookieMismatchBlocks := satAdd c.cookieMismatchBlocks 1 }

def recordHandshakeViolation (s : TransportServer F H) (addr : SocketAddr)
    (violation : HandshakeViolation) (now : Instant) : Bool × TransportServer F H :=
  let h := s.config.handshakeHeuristics
  if !h.enabled ∨ h.scoreThreshold = 0 ∨ h.eventWindow = 0 ∨ h.blockDuration = 0 then
    (false, s)
  else if violation.score h = 0 then
    (false, s)
  else
    let entry := (s.handshakeHeuristics.lookup addr.ip).getD ⟨now, 0⟩
    let entry := if now - entry.windowStartedAt > h.eventWindow then ⟨now, 0⟩ else entry
    let entry := { entry with score := min (entry.score + violation.score h) (2 ^ 32 - 1) }
    if entry.score ≥ h.scoreThreshold then
      ({ s with
        handshakeHeuristics :=
          s.handshakeHeuristics.insert addr.ip ⟨now, 0⟩ } : TransportServer F H).blockAndCount
        addr.ip now h.blockDuration .handshakeHeuristic
        fun c => { c with handshakeAutoBlocks := satAdd c.handshakeAutoBlocks 1 }
    else
      (false, { s with handshakeHeuristics := s.handshakeHeuristics.insert addr.ip entry })

/-! ## Closing sessions -/

def isPostReply2HandshakeState : SessionState → Bool
  | .reply2Sent | .connReqRecv | .connReqAcceptedSent | .newIncomingRecv => true
  | _ => false

def shouldMarkIpRecentlyConnected (state : SessionState) : Bool :=
  state = .connected || state = .closing || state = .closed || isPostReply2HandshakeState state

def shouldCountClosedSession : SessionState → Bool
  | .connected | .closing | .closed => true
  | _ => false

/-- The part of `close_session` for a session that was there. -/
def afterRemoval (s : TransportServer F H) (env : Env) (addr : SocketAddr) (state : SessionState) :
    TransportServer F H :=
  let s := if shouldCountClosedSession state then
      s.count fun c => { c with sessionsClosedTotal := satAdd c.sessionsClosedTotal 1 }
    else s
  if shouldMarkIpRecentlyConnected state then s.markIpRecentlyConnected addr (env.closedAt addr)
  else s

def closeSession (s : TransportServer F H) (env : Env) (addr : SocketAddr) :
    TransportServer F H :=
  let removed := s.sessions.lookup addr
  let s := { s with
    pendingHandshakes := s.pendingHandshakes.erase addr
    sessions := s.sessions.erase addr }
  let s := match removed with
    | some session => s.afterRemoval env addr session.state
    | none => s
  { s with sessionPipelines := s.sessionPipelines.erase addr }

def recordIllegalStateTransition (s : TransportServer F H) (env : Env) (addr : SocketAddr) :
    TransportServer F H :=
  (s.count fun c =>
    { c with illegalStateTransitions := satAdd c.illegalStateTransitions 1 }).closeSession env addr

def recordRemoteDisconnect (s : TransportServer F H) (reason : RemoteDisconnectReason) :
    TransportServer F H :=
  match reason with
  | .disconnectionNotification _ =>
    s.count fun c => { c with
      remoteDisconnectNotifications := satAdd c.remoteDisconnectNotifications 1 }
  | .detectLostConnection =>
    s.count fun c => { c with
      remoteDetectLostDisconnects := satAdd c.remoteDetectLostDisconnects 1 }

def disconnectPeer (s : TransportServer F H) (env : Env) (addr : SocketAddr) :
    Bool × TransportServer F H :=
  if (s.sessions.lookup addr).isSome || (s.pendingHandshakes.lookup addr).isSome then
    (true, (s.count fun c => { c with
      localRequestedDisconnects := satAdd c.localRequestedDisconnects 1 }).closeSession env addr)
  else
    (false, s)

/-! ## Maintenance -/

/-- The counter of a handshake that ran out of time, and what it counts as. -/
def countTimeout (s : TransportServer F H) :
    PendingHandshakeStage → HandshakeViolation × TransportServer F H
  | .awaitingRequest2 =>
    (.req1Req2Timeout, s.count fun c => { c with
      handshakeReq1Req2Timeouts := satAdd c.handshakeReq1Req2Timeouts 1 })
  | .awaitingConnectionRequest =>
    (.reply2ConnectTimeout, s.count fun c => { c with
      handshakeReply2ConnectTimeouts := satAdd c.handshakeReply2ConnectTimeouts 1 })

def countStageCancelDrop (s : TransportServer F H) : TransportServer F H :=
  s.count fun c => { c with
    handshakeStageCancelDrops := satAdd c.handshakeStageCancelDrops 1 }

/-- One expired handshake of `prune_pending_handshakes`. -/
def expireHandshake (env : Env) (s : TransportServer F H)
    (expired : SocketAddr × PendingHandshake) : TransportServer F H :=
  let (violation, s) := s.countTimeout expired.2.stage
  let s := s.countStageCancelDrop
  let (_, s) := s.recordHandshakeViolation expired.1 violation env.now
  s.closeSession env expired.1

/-- The handshakes that are out of time, in the order of iteration. -/
def expiredHandshakes (s : TransportServer F H) (env : Env) :
    List (SocketAddr × PendingHandshake) :=
  (env.order.arrange s.pendingHandshakes.keys).filterMap fun addr =>
    match s.pendingHandshakes.lookup addr with
    | some pending => if pending.expiresAt ≤ env.now then some (addr, pending) else none
    | none => none

def prunePendingHandshakes (s : TransportServer F H) (env : Env) : TransportServer F H :=
  ((s.expiredHandshakes env).foldl (expireHandshake env) s).pruneHandshakeHeuristicStates env.now

/-- The connected sessions that have been idle for too long, in the order of
    iteration. -/
def staleSessions (s : TransportServer F H) (env : Env) (protectedAddr : Option SocketAddr) :
    List SocketAddr :=
  (env.order.arrange s.sessions.keys).filter fun addr =>
    match s.sessions.lookup addr with
    | some session =>
      decide (some addr ≠ protectedAddr) && decide (session.state = .connected) &&
        decide (s.config.sessionIdleTimeout ≤ session.idleFor env.now)
    | none => false

def pruneIdleSessions (s : TransportServer F H) (env : Env) (protectedAddr : Option SocketAddr) :
    TransportServer F H :=
  if s.config.sessionIdleTimeout = 0 then
    s
  else
    (s.staleSessions env protectedAddr).foldl
      (fun s addr => (s.count fun c => { c with
        timedOutSessions := satAdd c.timedOutSessions 1 }).closeSession env addr) s

/-- `queue_connected_control_packet`. -/
def queueConnectedControlPacket (session : Session F H) (packet : ConnectedControlPacket)
    (reliability : Reliability) (channel : UInt8) (priority : RakPriority) :
    Except DecodeError QueuePayloadResult × Session F H :=
  match packet.encode with
  | .error _ => (.error .unexpectedEof, session)
  | .ok payload =>
    let (result, _, session) :=
      session.queuePayloadWithReceipt payload reliability channel priority none
    (.ok result, session)

/-- The keepalive of one session: whether a ping was queued, whether the queue
    asks to disconnect, and the session. -/
def keepalive (session : Session F H) (env : Env) (addr : SocketAddr) :
    Bool × Bool × Session F H :=
  let (queued, session) :=
    queueConnectedControlPacket session (.connectedPing (env.nowMillis addr)) .unreliable 0 .low
  match queued with
  | .ok (.enqueued _) =>
    let (disconnect, session) := (session.markKeepaliveSent env.now).takeBackpressureDisconnect
    (true, disconnect, session)
  | _ =>
    let (disconnect, session) := session.takeBackpressureDisconnect
    (false, disconnect, session)

/-- One round of the loop of `queue_keepalive_pings`, with the addresses to close. -/
def keepaliveRound (env : Env) (acc : TransportServer F H × List SocketAddr) (addr : SocketAddr) :
    TransportServer F H × List SocketAddr :=
  let (s, closeAddrs) := acc
  match s.sessions.lookup addr with
  | none => acc
  | some session =>
    if !session.shouldSendKeepalive env.now s.config.sessionKeepaliveInterval then
      acc
    else
      let (sent, disconnect, session) := keepalive session env addr
      let s := { s with sessions := s.sessions.insert addr session }
      let s := if sent then
          s.count fun c => { c with keepalivePingsSent := satAdd c.keepalivePingsSent 1 }
        else s
      (s, if disconnect then closeAddrs ++ [addr] else closeAddrs)

def queueKeepalivePings (s : TransportServer F H) (env : Env) : TransportServer F H :=
  if s.config.sessionKeepaliveInterval = 0 then
    s
  else
    let (s, closeAddrs) :=
      (env.order.arrange s.sessions.keys).foldl (keepaliveRound env) (s, [])
    closeAddrs.foldl (fun s addr => s.closeSession env addr) s

end TransportServer

end Raknet
