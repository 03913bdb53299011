-- SUMMARY: How the transport server answers the packets of the offline handshake.
import Raknet.Transport.Server

/-!
# The offline handshake

`handle_offline_packet` sends at most one packet, and it does so last. It is
modelled as the event it returns, the packet it sends and the server after it;
the sending is left to the caller.
-/

namespace Raknet

open Decoder

structure ConnectedFrameDelivery where
  payload : Bytes
  reliability : Reliability
  reliableIndex : Option Sequence24
  sequenceIndex : Option Sequence24
  orderingIndex : Option Sequence24
  orderingChannel : Option UInt8
deriving DecidableEq, Repr

def ConnectedFrameDelivery.fromFrame (frame : Frame) : ConnectedFrameDelivery :=
  { payload := frame.payload
    reliability := frame.header.reliability
    reliableIndex := frame.reliableIndex
    sequenceIndex := frame.sequenceIndex
    orderingIndex := frame.orderingIndex
    orderingChannel := frame.orderingChannel }

inductive TransportEvent where
  | rateLimited (addr : SocketAddr)
  | proxyDropped (addr : SocketAddr)
  | sessionLimitReached (addr : SocketAddr)
  | offlinePacket (addr : SocketAddr) (packet : OfflinePacket)
  | connectedFrames (addr : SocketAddr) (clientGuid : Option UInt64)
      (frames : List ConnectedFrameDelivery) (receipts : ReceiptProgress)
  | connectedDatagramDroppedNoSession (addr : SocketAddr)
  | peerDisconnected (addr : SocketAddr) (reason : RemoteDisconnectReason)
  /-- A fault other than an error would be a panic instead of an event. -/
  | decodeError (addr : SocketAddr) (error : Fault DecodeError)
deriving DecidableEq, Repr

/-- What an offline packet comes to. -/
structure OfflineResult (F H : Type) where
  event : Option TransportEvent
  reply : Option OfflinePacket
  server : TransportServer F H

variable {F H : Type} [F64 F] [MinHeap H QueuedFrame QueuedFrame.weight]

namespace TransportServer

def supportsProtocol (supported : List UInt8) (incoming : UInt8) : Bool :=
  if supported.isEmpty then incoming == raknetProtocolVersion else supported.contains incoming

def primaryProtocolVersion (supported : List UInt8) : UInt8 :=
  supported.max?.getD raknetProtocolVersion

/-- `apply_session_transitions`: the transitions before one that fails are made. -/
def applySessionTransitions (session : Session F H) : List SessionState → Bool × Session F H
  | [] => (true, session)
  | next :: transitions =>
    match session.transitionTo next with
    | (true, session) => applySessionTransitions session transitions
    | (false, session) => (false, session)

def hasActiveSessionForOfflineReject (s : TransportServer F H) (addr : SocketAddr) : Bool :=
  match s.sessions.lookup addr with
  | none => false
  | some session =>
    if (s.pendingHandshakes.lookup addr).isSome then
      false
    else
      match session.state with
      | .req2Recv | .reply2Sent | .connReqRecv | .connReqAcceptedSent | .newIncomingRecv
      | .connected | .closing | .closed => true
      | .offline | .req1Recv | .reply1Sent => false

def wouldExceedSessionLimit (s : TransportServer F H) (addr : SocketAddr) : Bool :=
  (s.sessions.lookup addr).isNone && decide (s.sessions.size ≥ s.config.maxSessions)

def negotiateMtu (s : TransportServer F H) (requested : UInt16) : UInt16 :=
  let serverCap :=
    UInt16.ofNat (max minimumMtuSize.toNat (min s.config.mtu maximumMtuSize.toNat))
  max minimumMtuSize (min requested serverCap)

def isRequest2ServerAddrAllowed (s : TransportServer F H)
    (requestServerAddr localServerAddr : SocketAddr) : Bool :=
  match s.config.request2ServerAddrPolicy with
  | .disabled => true
  | .portOnly => requestServerAddr.port == localServerAddr.port
  | .exact =>
    if localServerAddr.ip.isUnspecified then requestServerAddr.port == localServerAddr.port
    else requestServerAddr == localServerAddr

/-- The contents of the packets that turn a client away. -/
def rejectPacket (s : TransportServer F H) : RejectPacket :=
  { serverGuid := s.config.serverGuid, magic := s.config.unconnectedMagic }

/-- `send_connection_banned`, if an address was blocked just now. -/
def bannedReply (s : TransportServer F H) (newlyBlocked : Bool) : Option OfflinePacket :=
  if newlyBlocked then some (.connectionBanned s.rejectPacket) else none

def countIpRecentlyConnectedReject (s : TransportServer F H) : TransportServer F H :=
  s.count fun c => { c with
    handshakeIpRecentlyConnectedRejects := satAdd c.handshakeIpRecentlyConnectedRejects 1 }

def countAlreadyConnectedReject (s : TransportServer F H) : TransportServer F H :=
  s.count fun c => { c with
    handshakeAlreadyConnectedRejects := satAdd c.handshakeAlreadyConnectedRejects 1 }

/-! ## The first request -/

/-- The cookie of a first request: the one of an earlier request that is still
    waiting for the second, or a new one. -/
def request1Cookie (s : TransportServer F H) (addr : SocketAddr) : Option UInt32 :=
  if s.config.sendCookie then
    let previousCookie := match s.pendingHandshakes.lookup addr with
      | some pending => if pending.stage = .awaitingRequest2 then pending.cookie else none
      | none => none
    previousCookie <|> some (s.generateCookie addr)
  else
    none

/-- The rest of a first request that is not turned away: a new session and a
    handshake that waits for the second request. -/
def openSession (s : TransportServer F H) (env : Env) (addr : SocketAddr)
    (req1 : OpenConnectionRequest1) : OfflineResult F H :=
  let mtu := s.negotiateMtu req1.mtu
  let cookie := s.request1Cookie addr
  let (validTransition, session) :=
    applySessionTransitions (.withTunables mtu.toNat s.config.sessionTunables env.openedAt)
      [.req1Recv, .reply1Sent]
  let s := { s with
    pendingHandshakes := s.pendingHandshakes.insert addr
      { mtu
        cookie
        clientGuid := none
        stage := .awaitingRequest2
        expiresAt := env.now + s.config.req1Req2Timeout }
    sessions := (s.sessions.erase addr).insert addr session
    sessionPipelines := s.sessionPipelines.erase addr }
  if !validTransition then
    ⟨none, none, s.recordIllegalStateTransition env addr⟩
  else
    ⟨none,
      some (.openConnectionReply1
        { serverGuid := s.config.serverGuid, mtu, cookie, magic := s.config.unconnectedMagic }),
      s⟩

/-- Whether a handshake of the address has passed the second request. -/
def handshakeInProgress (s : TransportServer F H) (addr : SocketAddr) : Bool :=
  match s.pendingHandshakes.lookup addr with
  | some pending => pending.stage == .awaitingConnectionRequest
  | none => false

def handleRequest1 (s : TransportServer F H) (env : Env) (addr : SocketAddr)
    (req1 : OpenConnectionRequest1) : OfflineResult F H :=
  if !supportsProtocol s.config.supportedProtocols req1.protocolVersion then
    ⟨none,
      some (.incompatibleProtocolVersion
        { protocolVersion := primaryProtocolVersion s.config.supportedProtocols
          serverGuid := s.config.serverGuid
          magic := s.config.unconnectedMagic }),
      s⟩
  else
    let s := s.pruneIpRecentlyConnected env.now
    if s.ipRecentlyConnected addr env.now then
      ⟨none, some (.ipRecentlyConnected s.rejectPacket), s.countIpRecentlyConnectedReject⟩
    else if s.hasActiveSessionForOfflineReject addr then
      ⟨none, some (.alreadyConnected s.rejectPacket), s.countAlreadyConnectedReject⟩
    else if s.handshakeInProgress addr then
      ⟨none, some (.alreadyConnected s.rejectPacket), s.countAlreadyConnectedReject⟩
    else if s.wouldExceedSessionLimit addr then
      ⟨some (.sessionLimitReached addr), some (.noFreeIncomingConnections s.rejectPacket), s⟩
    else
      s.openSession env addr req1

/-! ## The second request -/

def reply2 (s : TransportServer F H) (mtu : UInt16) : OfflinePacket :=
  .openConnectionReply2
    { serverGuid := s.config.serverGuid
      serverAddr := s.localAddr
      mtu
      useEncryption := false
      magic := s.config.unconnectedMagic }

/-- A second request that is sent again before the client went on. -/
def retryRequest2 (s : TransportServer F H) (env : Env) (addr : SocketAddr)
    (req2 : OpenConnectionRequest2) (pending : PendingHandshake) : OfflineResult F H :=
  let retryMtu := s.negotiateMtu (min req2.mtu pending.mtu)
  match s.sessions.lookup addr with
  | none => ⟨none, none, s.recordIllegalStateTransition env addr⟩
  | some session =>
    if !isPostReply2HandshakeState session.state then
      ⟨none, none, s.recordIllegalStateTransition env addr⟩
    else
      let session := (session.setMtu retryMtu.toNat).touchActivity env.now
      let s := { s with sessions := s.sessions.insert addr session }
      ⟨none, some (s.reply2 retryMtu), s⟩

/-- The first second request of a handshake. -/
def acceptRequest2 (s : TransportServer F H) (env : Env) (addr : SocketAddr)
    (req2 : OpenConnectionRequest2) (pending : PendingHandshake) : OfflineResult F H :=
  let mtu := s.negotiateMtu (min req2.mtu pending.mtu)
  match s.sessions.lookup addr with
  | none => ⟨none, none, s.recordIllegalStateTransition env addr⟩
  | some session =>
    let session := (session.setMtu mtu.toNat).touchActivity env.now
    let (validTransition, session) := applySessionTransitions session [.req2Recv, .reply2Sent]
    let s := { s with sessions := s.sessions.insert addr session }
    if !validTransition then
      ⟨none, none, s.recordIllegalStateTransition env addr⟩
    else
      let s := { s with
        pendingHandshakes := s.pendingHandshakes.insert addr
          { mtu
            cookie := pending.cookie
            clientGuid := some req2.clientGuid
            stage := .awaitingConnectionRequest
            expiresAt := env.now + s.config.reply2ConnectTimeout } }
      ⟨none, some (s.reply2 mtu), s⟩

/-- A second request whose cookie is right, if cookies are used. -/
def verifiedRequest2 (s : TransportServer F H) (env : Env) (addr : SocketAddr)
    (req2 : OpenConnectionRequest2) (pending : PendingHandshake) : OfflineResult F H :=
  let s := s.clearCookieMismatchState addr.ip
  if pending.stage = .awaitingConnectionRequest then
    s.retryRequest2 env addr req2 pending
  else if s.wouldExceedSessionLimit addr then
    ⟨some (.sessionLimitReached addr), some (.noFreeIncomingConnections s.rejectPacket), s⟩
  else
    s.acceptRequest2 env addr req2 pending

def dropForTimeout (s : TransportServer F H) (env : Env) (addr : SocketAddr)
    (pending : PendingHandshake) : OfflineResult F H :=
  let (violation, s) := s.countTimeout pending.stage
  let s := s.countStageCancelDrop
  let (newlyBlocked, s) := s.recordHandshakeViolation addr violation env.now
  let s := s.closeSession env addr
  ⟨none, s.bannedReply newlyBlocked, s⟩

def dropForCookie (s : TransportServer F H) (env : Env) (addr : SocketAddr) :
    OfflineResult F H :=
  let s := s.count fun c => { c with cookieMismatchDrops := satAdd c.cookieMismatchDrops 1 }
  let s := s.countStageCancelDrop
  let (blockedByGuard, s) := s.recordCookieMismatch addr.ip env.now
  let (blockedByHeuristics, s) := s.recordHandshakeViolation addr .cookieMismatch env.now
  ⟨none, s.bannedReply (blockedByGuard || blockedByHeuristics), s⟩

/-- A second request that counts as a violation and changes no handshake. -/
def dropAsViolation (s : TransportServer F H) (env : Env) (addr : SocketAddr)
    (violation : HandshakeViolation) : OfflineResult F H :=
  let s := s.countStageCancelDrop
  let (newlyBlocked, s) := s.recordHandshakeViolation addr violation env.now
  ⟨none, s.bannedReply newlyBlocked, s⟩

/-- The checks of a second request against the handshake of its address. -/
def checkedRequest2 (s : TransportServer F H) (env : Env) (addr : SocketAddr)
    (req2 : OpenConnectionRequest2) : OfflineResult F H :=
  match s.pendingHandshakes.lookup addr with
  | none =>
    (s.count fun c => { c with
      handshakeMissingReq1Drops := satAdd c.handshakeMissingReq1Drops 1 }).dropAsViolation env addr
        .missingPendingReq1
  | some pending =>
    if pending.expiresAt ≤ env.now then
      s.dropForTimeout env addr pending
    else if s.config.sendCookie = true ∧
        (pending.cookie.isNone = true ∨ s.verifyCookie addr req2.cookie = false) then
      s.dropForCookie env addr
    else
      s.verifiedRequest2 env addr req2 pending

/-- A second request that was parsed in an accepted way. -/
def addressedRequest2 (s : TransportServer F H) (env : Env) (addr : SocketAddr)
    (req2 : OpenConnectionRequest2) : OfflineResult F H :=
  if !s.isRequest2ServerAddrAllowed req2.serverAddr s.localAddr then
    ⟨none, none, (s.count fun c => { c with
      request2ServerAddrMismatchDrops := satAdd c.request2ServerAddrMismatchDrops 1
      }).countStageCancelDrop⟩
  else
    s.checkedRequest2 env addr req2

def handleRequest2 (s : TransportServer F H) (env : Env) (addr : SocketAddr)
    (req2 : OpenConnectionRequest2) : OfflineResult F H :=
  let s := s.pruneIpRecentlyConnected env.now
  if s.ipRecentlyConnected addr env.now then
    ⟨none, some (.ipRecentlyConnected s.rejectPacket), s.countIpRecentlyConnectedReject⟩
  else if s.hasActiveSessionForOfflineReject addr then
    ⟨none, some (.alreadyConnected s.rejectPacket), s.countAlreadyConnectedReject⟩
  else
    match req2.parsePath with
    | .legacyHeuristic =>
      let s := s.count fun c => { c with
        request2LegacyParseHits := satAdd c.request2LegacyParseHits 1 }
      if !s.config.allowLegacyRequest2Fallback then
        (s.count fun c => { c with
          request2LegacyDrops := satAdd c.request2LegacyDrops 1 }).dropAsViolation env addr
            .parseAnomalyDrop
      else
        s.addressedRequest2 env addr req2
    | .ambiguousPreferredNoCookie | .ambiguousPreferredWithCookie =>
      let s := s.count fun c => { c with
        request2AmbiguousParseHits := satAdd c.request2AmbiguousParseHits 1 }
      if s.config.rejectAmbiguousRequest2 then
        (s.count fun c => { c with
          request2AmbiguousDrops := satAdd c.request2AmbiguousDrops 1 }).dropAsViolation env addr
            .parseAnomalyDrop
      else
        s.addressedRequest2 env addr req2
    | .strictNoCookie | .strictWithCookie => s.addressedRequest2 env addr req2

/-! ## All packets -/

def handleOfflinePacket (s : TransportServer F H) (env : Env) (addr : SocketAddr)
    (packet : OfflinePacket) : OfflineResult F H :=
  match packet with
  | .unconnectedPing ping | .unconnectedPingOpenConnections ping =>
    ⟨none,
      some (.unconnectedPong
        { pingTime := ping.pingTime
          serverGuid := s.config.serverGuid
          magic := s.config.unconnectedMagic
          motd := s.config.advertisement }),
      s⟩
  | .openConnectionRequest1 req1 => s.handleRequest1 env addr req1
  | .openConnectionRequest2 req2 => s.handleRequest2 env addr req2
  | _ => ⟨none, none, s⟩

end TransportServer

end Raknet
