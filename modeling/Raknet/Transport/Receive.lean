-- SUMMARY: Receiving a packet: routing, admission, the frame loop of a connected datagram, and its outcome.
import Raknet.Transport.Offline

/-!
# Receiving a packet

`recv_and_process` is cut at the point where a packet has been admitted: `triage`
is everything up to there, `processOffline` and `processConnected` are what
follows for the two kinds of packets.
-/

namespace Raknet

open Decoder

inductive IoError where
  /-- A packet that cannot be encoded. -/
  | invalidData
  | socket
deriving DecidableEq, Repr

inductive ControlAction where
  | none
  | closeSession (remoteReason : Option RemoteDisconnectReason) (illegalState : Bool)
deriving DecidableEq, Repr

/-- The result of a call, and what the socket took. -/
structure CallResult (α : Type) where
  result : Except IoError α
  sent : List (SocketAddr × Bytes)

variable {F H : Type} [F64 F] [MinHeap H QueuedFrame QueuedFrame.weight]

namespace TransportServer

/-! ## Sending -/

def routeOutboundTarget (s : TransportServer F H) (addr : SocketAddr) :
    Option SocketAddr × TransportServer F H :=
  match s.proxyRouter with
  | none => (some addr, s)
  | some router =>
    match router.routeOutbound addr s.localAddr with
    | .send targetAddr =>
      (some targetAddr,
        if targetAddr ≠ addr then
          s.count fun c => { c with proxyOutboundReroutes := satAdd c.proxyOutboundReroutes 1 }
        else s)
    | .drop =>
      (none, s.count fun c => { c with proxyOutboundDrops := satAdd c.proxyOutboundDrops 1 })

/-- `send_datagram` and `send_offline_packet`: the attempt of this number to send
    a packet that encodes like this. A packet that is routed away counts as sent. -/
def send (s : TransportServer F H) (env : Env) (attempt : Nat) (addr : SocketAddr)
    (encoded : Except EncodeError Bytes) : CallResult Unit × TransportServer F H :=
  let (target, s) := s.routeOutboundTarget addr
  match target with
  | none => (⟨.ok (), []⟩, s)
  | some target =>
    match encoded with
    | .error _ => (⟨.error .invalidData, []⟩, s)
    | .ok bytes =>
      if env.sendOk attempt then (⟨.ok (), [(target, bytes)]⟩, s)
      else (⟨.error .socket, []⟩, s)

/-- Datagrams sent one after the other; the first failure ends it. -/
def sendDatagrams (env : Env) : TransportServer F H → Nat → List (SocketAddr × Datagram) →
    CallResult Unit × TransportServer F H
  | s, _, [] => (⟨.ok (), []⟩, s)
  | s, attempt, (addr, datagram) :: rest =>
    match s.send env attempt addr datagram.encode with
    | (⟨.ok (), sent⟩, s) =>
      let (r, s) := sendDatagrams env s (attempt + 1) rest
      (⟨r.result, sent ++ r.sent⟩, s)
    | (failed, s) => (failed, s)

/-! ## Admission -/

def isOfflinePacketId (id : UInt8) : Bool :=
  [0x01, 0x02, 0x05, 0x06, 0x07, 0x08, 0x11, 0x12, 0x14, 0x17, 0x19, 0x1A, 0x1C].contains id

def isConnectedControlId (id : UInt8) : Bool :=
  [0x00, 0x03, 0x04, 0x09, 0x10, 0x13, 0x15].contains id

/-- The address that a packet counts for, or none if the router drops it. -/
def routeInboundAddr (s : TransportServer F H) (observedAddr : SocketAddr) :
    Option SocketAddr × TransportServer F H :=
  match s.proxyRouter with
  | none => (some observedAddr, s)
  | some router =>
    match router.routeInbound observedAddr s.localAddr with
    | .toSession sessionAddr =>
      (some sessionAddr,
        if sessionAddr ≠ observedAddr then
          s.count fun c => { c with proxyInboundReroutes := satAdd c.proxyInboundReroutes 1 }
        else s)
    | .drop =>
      (none, s.count fun c => { c with proxyInboundDrops := satAdd c.proxyInboundDrops 1 })

/-- The housekeeping before a packet from the address is looked at. -/
def prepare (s : TransportServer F H) (env : Env) (addr : SocketAddr) : TransportServer F H :=
  let s := s.prunePendingHandshakes env
  let s := s.pruneCookieMismatchGuardStates env.now
  let s := s.pruneIpRecentlyConnected env.now
  let s := s.pruneIdleSessions env (some addr)
  let s := { s with rateLimiter := s.rateLimiter.tick env.now }
  s.rotateCookieKeysIfNeeded env

/-- How far a packet gets before it is processed: it is answered at once, or it
    is handed on, with the server as it is then. -/
inductive Admission (F H : Type) where
  | answered (r : CallResult TransportEvent) (s : TransportServer F H)
  | offline (addr : SocketAddr) (packet : OfflinePacket) (s : TransportServer F H)
  | connected (addr : SocketAddr) (datagram : Datagram) (s : TransportServer F H)

/-- The decoding of an admitted packet. -/
def decodePacket (s : TransportServer F H) (addr : SocketAddr) (isOffline : Bool)
    (bytes : Bytes) : Admission F H :=
  if isOffline then
    match (OfflinePacket.decodeWithMagic s.config.unconnectedMagic).run bytes with
    | .ok (packet, _) => .offline addr packet s
    | .error fault => .answered ⟨.ok (.decodeError addr fault), []⟩ s
  else
    match Datagram.decode.run bytes with
    | .ok (datagram, _) => .connected addr datagram s
    | .error fault => .answered ⟨.ok (.decodeError addr fault), []⟩ s

def triage (s : TransportServer F H) (env : Env) (bytes : Bytes) (observedAddr : SocketAddr) :
    Admission F H :=
  match s.routeInboundAddr observedAddr with
  | (none, s) => .answered ⟨.ok (.proxyDropped observedAddr), []⟩ s
  | (some addr, s) =>
    let s := s.prepare env addr
    match bytes.head? with
    | none => .answered ⟨.ok (.decodeError addr (.error .unexpectedEof)), []⟩ s
    | some first =>
      let (decision, rateLimiter) := s.rateLimiter.check addr.ip env.now
      let s := { s with rateLimiter }
      match decision with
      | .allow => s.decodePacket addr (isOfflinePacketId first) bytes
      | .globalLimit => .answered ⟨.ok (.rateLimited addr), []⟩ s
      | .ipBlocked newlyBlocked _ =>
        if isOfflinePacketId first && newlyBlocked then
          let (r, s) := s.send env 0 addr (OfflinePacket.connectionBanned s.rejectPacket).encode
          .answered ⟨r.result.map fun _ => .rateLimited addr, r.sent⟩ s
        else
          .answered ⟨.ok (.rateLimited addr), []⟩ s

def processOffline (s : TransportServer F H) (env : Env) (addr : SocketAddr)
    (packet : OfflinePacket) : CallResult TransportEvent × TransportServer F H :=
  let handled := s.handleOfflinePacket env addr packet
  let event := handled.event.getD (.offlinePacket addr packet)
  match handled.reply with
  | none => (⟨.ok event, []⟩, handled.server)
  | some reply =>
    let (r, s) := handled.server.send env 0 addr reply.encode
    (⟨r.result.map fun _ => event, r.sent⟩, s)

/-! ## Connected datagrams -/

/-- `estimate_connected_datagram_processing_cost`. -/
def estimateConnectedDatagramProcessingCost (rawLen : Nat) (datagram : Datagram) : Nat :=
  match datagram.payload with
  | .ack payload | .nack payload => max (payload.ranges.length * 8) 1
  | .frames frames =>
    max (frames.foldl frameCost (max rawLen 1 + frames.length * 48)) 1
where
  /-- The cost of one frame on top of what was counted before. -/
  frameCost (cost : Nat) (frame : Frame) : Nat :=
    let payloadLen := frame.payload.length
    let cost := cost + payloadLen
    let cost := if frame.header.reliability.isReliable then cost + 32 else cost
    let cost := if frame.header.reliability.isOrdered || frame.header.reliability.isSequenced then
        cost + 24
      else cost
    if frame.header.isSplit then
      let splitParts := (frame.split.map fun info => info.partCount.toNat).getD 1
      cost + 512 + payloadLen * 2 + min splitParts 2048
    else cost

def buildInternalAddrs (serverAddr : SocketAddr) : SystemAddresses :=
  let fallback := match serverAddr with
    | .v4 _ _ => SocketAddr.v4 ipv4Unspecified 0
    | .v6 _ _ _ scopeId => SocketAddr.v6 ⟨List.replicate 16 0, rfl⟩ 0 0 scopeId
  ⟨serverAddr :: List.replicate 9 fallback, rfl⟩

/-- Close, without a reason of the peer. -/
def closeFor (illegalState : Bool) : ControlAction := .closeSession none illegalState

/-- The move to `Closing` and `Closed` when the peer says it is gone. -/
def applyRemoteClose (session : Session F H) (reason : RemoteDisconnectReason) :
    ControlAction × Session F H :=
  match applySessionTransitions session [.closing, .closed] with
  | (true, session) => (.closeSession (some reason) false, session)
  | (false, session) => (closeFor true, session)

def applyConnectedControl (session : Session F H) (addr serverAddr : SocketAddr)
    (nowMillis : Int64) (packet : ConnectedControlPacket) :
    Except DecodeError ControlAction × Session F H :=
  match packet with
  | .connectedPing pingTime =>
    if session.state ≠ .connected then
      (.ok (closeFor true), session)
    else
      match queueConnectedControlPacket session (.connectedPong pingTime nowMillis)
          .unreliable 0 .immediate with
      | (.error e, session) => (.error e, session)
      | (.ok queued, session) =>
        -- the flag is only taken if the queue did not ask to disconnect itself
        if queued = .disconnectRequested then
          (.ok (closeFor false), session)
        else
          let (disconnect, session) := session.takeBackpressureDisconnect
          (.ok (if disconnect then closeFor false else .none), session)
  | .connectionRequest request =>
    match applySessionTransitions session [.connReqRecv] with
    | (false, session) => (.ok (closeFor true), session)
    | (true, session) =>
      match queueConnectedControlPacket session
          (.connectionRequestAccepted
            { clientAddr := addr
              systemIndex := 0
              internalAddrs := buildInternalAddrs serverAddr
              requestTime := request.requestTime
              acceptedTime := nowMillis })
          .reliableOrdered 0 .high with
      | (.error e, session) => (.error e, session)
      | (.ok (.enqueued _), session) =>
        let (disconnect, session) := session.takeBackpressureDisconnect
        if disconnect then
          (.ok (closeFor false), session)
        else
          match applySessionTransitions session [.connReqAcceptedSent] with
          | (true, session) => (.ok .none, session)
          | (false, session) => (.ok (closeFor true), session)
      | (.ok _, session) => (.ok (closeFor false), session)
  | .newIncomingConnection _ =>
    match applySessionTransitions session [.newIncomingRecv, .connected] with
    | (true, session) => (.ok .none, session)
    | (false, session) => (.ok (closeFor true), session)
  | .disconnectionNotification reason =>
    let (action, session) := applyRemoteClose session (.disconnectionNotification reason)
    (.ok action, session)
  | .detectLostConnection =>
    let (action, session) := applyRemoteClose session .detectLostConnection
    (.ok action, session)
  | .connectedPong _ _ | .connectionRequestAccepted _ => (.ok .none, session)

/-- The variables of the frame loop of `recv_and_process`. -/
structure FrameLoop (F H : Type) where
  session : Session F H
  pipeline : SessionPipeline
  appFrames : List Frame
  decodeError : Option (Fault DecodeError)
  closeSession : Bool
  illegalTransition : Bool
  remoteDisconnectReason : Option RemoteDisconnectReason

/-- The loop over the frames that the session released. A frame that ends it
    leaves the frames behind it alone. -/
def FrameLoop.run (addr serverAddr : SocketAddr) (nowMillis : Int64) :
    FrameLoop F H → List Frame → FrameLoop F H
  | l, [] => l
  | l, frame :: frames =>
    match frame.payload.head? with
    | none => l.run addr serverAddr nowMillis frames
    | some id =>
      if !isConnectedControlId id then
        match l.pipeline.routeInboundAppFrame l.session.state frame l.appFrames with
        | (.overflow, pipeline, appFrames) => { l with pipeline, appFrames, closeSession := true }
        | (_, pipeline, appFrames) =>
          ({ l with pipeline, appFrames } : FrameLoop F H).run addr serverAddr nowMillis frames
      else
        match ConnectedControlPacket.decode.run frame.payload with
        | .error fault => { l with decodeError := some fault }
        | .ok (packet, _) =>
          match applyConnectedControl l.session addr serverAddr nowMillis packet with
          | (.ok .none, session) =>
            ({ l with session } : FrameLoop F H).run addr serverAddr nowMillis frames
          | (.ok (.closeSession remoteReason illegalState), session) =>
            { l with
              session
              closeSession := true
              illegalTransition := illegalState
              remoteDisconnectReason := l.remoteDisconnectReason <|> remoteReason }
          | (.error e, session) => { l with session, decodeError := some (.error e) }

/-- The flush of the pipeline behind the loop. -/
def FrameLoop.flush (l : FrameLoop F H) : FrameLoop F H :=
  if !l.closeSession && l.decodeError.isNone then
    let (pipeline, appFrames) := l.pipeline.flushIfConnected l.session.state l.appFrames
    { l with pipeline, appFrames }
  else
    l

/-- `RECV_PATH_MAX_NEW_DATAGRAMS` and `RECV_PATH_MAX_RESEND_DATAGRAMS`. -/
def recvPathMaxDatagrams : Nat := 6

/-- The tick of the session behind the loop, and the question whether its queue
    asks to disconnect. -/
def FrameLoop.tick (l : FrameLoop F H) (now : Instant) (mtu : Nat) :
    List Datagram × FrameLoop F H :=
  let (datagrams, session) :=
    if l.closeSession then
      ([], l.session)
    else
      let (output, session) := l.session.onTick now recvPathMaxDatagrams
        (mtu * recvPathMaxDatagrams) recvPathMaxDatagrams (mtu * recvPathMaxDatagrams)
      (output.datagrams, session)
  let (disconnect, session) := session.takeBackpressureDisconnect
  (datagrams, { l with session, closeSession := l.closeSession || disconnect })

/-- What the block around the frame loop comes to. -/
structure ConnectedOutcome (F H : Type) where
  loop : FrameLoop F H
  receipts : ReceiptProgress
  datagrams : List Datagram
  becameConnected : Bool

/-- The session and the pipeline of an address, made if they are not there. -/
def sessionEntry (s : TransportServer F H) (env : Env) (addr : SocketAddr) : Session F H :=
  (s.sessions.lookup addr).getD
    (.withTunables s.config.mtu s.config.sessionTunables env.openedAt)

def pipelineEntry (s : TransportServer F H) (addr : SocketAddr) : SessionPipeline :=
  (s.sessionPipelines.lookup addr).getD
    (.new s.config.unhandledQueueMaxFrames s.config.unhandledQueueMaxBytes)

/-- The block around the frame loop. If the session refuses the datagram, its
    error is all that comes of it. -/
def ingestConnected (s : TransportServer F H) (env : Env) (addr : SocketAddr)
    (datagram : Datagram) : Except DecodeError (ConnectedOutcome F H) × Session F H :=
  let session := (s.sessionEntry env addr).touchActivity env.now
  match session.ingestDatagram datagram env.now with
  | (.error e, session) => (.error e, session)
  | (.ok frames, session) =>
    let (receipts, session) := session.processIncomingReceipts env.now
    let wasConnected := session.state = .connected
    let l : FrameLoop F H :=
      { session
        pipeline := s.pipelineEntry addr
        appFrames := []
        decodeError := none
        closeSession := false
        illegalTransition := false
        remoteDisconnectReason := none }
    let l := (l.run addr s.localAddr (env.nowMillis addr) frames).flush
    let (datagrams, l) := l.tick env.now s.config.mtu
    (.ok
      { loop := l
        receipts
        datagrams
        becameConnected := !wasConnected && decide (l.session.state = .connected) },
      l.session)

/-- Whether the session of an address is connected. -/
def isConnected (s : TransportServer F H) (addr : SocketAddr) : Bool :=
  match s.sessions.lookup addr with
  | some session => decide (session.state = .connected)
  | none => false

/-- The end of a call whose datagrams were sent. -/
def finishConnected (s : TransportServer F H) (env : Env) (addr : SocketAddr)
    (o : ConnectedOutcome F H) : TransportEvent × TransportServer F H :=
  let closing := o.loop.closeSession
  let s := if closing then
      let s := match o.loop.remoteDisconnectReason with
        | some reason => s.recordRemoteDisconnect reason
        | none => s
      s.closeSession env addr
    else s
  match (if closing then o.loop.remoteDisconnectReason else none) with
  | some reason => (.peerDisconnected addr reason, s)
  | none =>
    let frames := if closing then [] else o.loop.appFrames.map ConnectedFrameDelivery.fromFrame
    let s := if o.becameConnected then
        s.count fun c => { c with sessionsStartedTotal := satAdd c.sessionsStartedTotal 1 }
      else s
    let clientGuid := if o.becameConnected then
        (s.pendingHandshakes.lookup addr).bind PendingHandshake.clientGuid
      else none
    let s := if s.isConnected addr then
        { s with pendingHandshakes := s.pendingHandshakes.erase addr }
      else s
    let s := s.count fun c => { c with
      packetsForwardedTotal := satAdd c.packetsForwardedTotal frames.length
      bytesForwardedTotal :=
        satAdd c.bytesForwardedTotal (frames.map fun frame => frame.payload.length).sum }
    (.connectedFrames addr clientGuid frames o.receipts, s)

/-- A datagram that is not held back by the processing budget. -/
def processDatagram (s : TransportServer F H) (env : Env) (addr : SocketAddr)
    (datagram : Datagram) : CallResult TransportEvent × TransportServer F H :=
  match s.ingestConnected env addr datagram with
  | (.error e, session) =>
    (⟨.ok (.decodeError addr (.error e)), []⟩,
      { s with
        sessions := s.sessions.insert addr session
        sessionPipelines := s.sessionPipelines.insert addr (s.pipelineEntry addr) })
  | (.ok o, session) =>
    let s := { s with
      sessions := s.sessions.insert addr session
      sessionPipelines := s.sessionPipelines.insert addr o.loop.pipeline }
    match o.loop.decodeError with
    | some fault => (⟨.ok (.decodeError addr fault), []⟩, s)
    | none =>
      let (r, s) := if o.loop.illegalTransition then
          (⟨.ok (), []⟩, s.count fun c => { c with
            illegalStateTransitions := satAdd c.illegalStateTransitions 1 })
        else
          sendDatagrams env s 0 (o.datagrams.map fun datagram => (addr, datagram))
      match r.result with
      | .error e => (⟨.error e, r.sent⟩, s)
      | .ok () =>
        let (event, s) := s.finishConnected env addr o
        (⟨.ok event, r.sent⟩, s)

def processConnected (s : TransportServer F H) (env : Env) (addr : SocketAddr)
    (datagram : Datagram) (len : Nat) : CallResult TransportEvent × TransportServer F H :=
  if (s.sessions.lookup addr).isNone && (s.pendingHandshakes.lookup addr).isNone then
    (⟨.ok (.connectedDatagramDroppedNoSession addr), []⟩, s)
  else if (s.sessions.lookup addr).isNone && decide (s.sessions.size ≥ s.config.maxSessions) then
    (⟨.ok (.sessionLimitReached addr), []⟩, s)
  else if datagram.payload.kind = .data ∧ s.rateLimiter.isException addr.ip = false then
    let cost := estimateConnectedDatagramProcessingCost len datagram
    let (decision, rateLimiter) := s.rateLimiter.consumeProcessingBudget addr.ip cost env.now
    let s := { s with rateLimiter }
    match decision with
    | .allow => s.processDatagram env addr datagram
    | .ipExhausted | .globalExhausted => (⟨.ok (.rateLimited addr), []⟩, s)
  else
    s.processDatagram env addr datagram

def recvAndProcess (s : TransportServer F H) (env : Env) (bytes : Bytes)
    (observedAddr : SocketAddr) : CallResult TransportEvent × TransportServer F H :=
  match s.triage env bytes observedAddr with
  | .answered r s => (r, s)
  | .offline addr packet s => s.processOffline env addr packet
  | .connected addr datagram s => s.processConnected env addr datagram bytes.length

end TransportServer

end Raknet
