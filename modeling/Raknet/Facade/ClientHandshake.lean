-- SUMMARY: The client's side of the handshake: probing for an MTU, the two requests, and the wait for each answer.
import Raknet.Facade.Client

/-!
# The handshake of the client

`perform_handshake` waits in three places: for a first reply, for a second one, and for the
acceptance of the connection. `HandshakePhase` says where it waits and holds the variables
that are still alive there; what happens between two waits is one step.
-/

namespace Raknet

open Decoder

/-- Where `perform_handshake` is, with its variables. -/
inductive HandshakePhase where
  /-- In the window of a probe, with the probes that are left. -/
  | probing (rest : List UInt16)
  | awaitingReply2 (reply1 : OpenConnectionReply1)
  | awaitingAccepted (reply1 : OpenConnectionReply1) (reply2 : OpenConnectionReply2)
  | established (reply1 : OpenConnectionReply1) (reply2 : OpenConnectionReply2)
  | failed (error : RaknetClientError)

/-- A client in `connect_with_config`. -/
structure ClientHandshake (F H : Type) where
  client : RaknetClient F H
  phase : HandshakePhase

/-- What the handshake reads from its surroundings between two waits. -/
structure HandshakeEnv where
  env : ClientEnv
  /-- What the message that completes the handshake reads, behind the datagram before it. -/
  completion : ClientEnv
  /-- Whether the time of the whole handshake is over when a probe is due. -/
  overdue : Bool
  /-- `unix_timestamp_millis()` for the connection request. -/
  requestMillis : Int64
  finishedAt : Instant

def offlineRejectionReason : OfflinePacket → Option OfflineRejectionReason
  | .incompatibleProtocolVersion pkt =>
    some (.incompatibleProtocolVersion pkt.protocolVersion pkt.serverGuid)
  | .connectionRequestFailed pkt => some (.connectionRequestFailed pkt.serverGuid)
  | .alreadyConnected pkt => some (.alreadyConnected pkt.serverGuid)
  | .noFreeIncomingConnections pkt => some (.noFreeIncomingConnections pkt.serverGuid)
  | .connectionBanned pkt => some (.connectionBanned pkt.serverGuid)
  | .ipRecentlyConnected pkt => some (.ipRecentlyConnected pkt.serverGuid)
  | _ => none

/-- `mtu.clamp(MINIMUM_MTU_SIZE, MAXIMUM_MTU_SIZE)`. -/
def clampMtu (mtu : UInt16) : UInt16 := max minimumMtuSize (min mtu maximumMtuSize)

namespace RaknetClientConfig

def mtuProbeCandidates (config : RaknetClientConfig) : List UInt16 :=
  let out := (config.mtuProbeOrder ++ [config.mtu]).foldl addCandidate []
  if out.isEmpty then [config.mtu] else out
where
  addCandidate (out : List UInt16) (candidate : UInt16) : List UInt16 :=
    let mtu := max (clampMtu candidate) minimumMtuSize
    if out.contains mtu then out else out ++ [mtu]

/-- The MTUs of the probes, in order. -/
def probes (config : RaknetClientConfig) : List UInt16 :=
  config.mtuProbeCandidates.flatMap (List.replicate config.mtuProbeAttemptsPerStep)

end RaknetClientConfig

variable {F H : Type}

namespace RaknetClient

/-- `transition_to`, with the error of a transition that fails. -/
def moveTo (c : RaknetClient F H) (next : SessionState) :
    Except RaknetClientError Unit × RaknetClient F H :=
  let (moved, session) := c.session.transitionTo next
  let c := { c with session }
  (if moved then .ok () else .error (.handshakeProtocolViolation (.transition next)), c)

/-- `?` behind a call. -/
def andThen {α : Type} (r : Except RaknetClientError Unit × RaknetClient F H)
    (k : RaknetClient F H → Except RaknetClientError α × RaknetClient F H) :
    Except RaknetClientError α × RaknetClient F H :=
  match r with
  | (.ok (), c) => k c
  | (.error e, c) => (.error e, c)

def request1 (c : RaknetClient F H) (mtu : UInt16) : OfflinePacket :=
  .openConnectionRequest1
    { protocolVersion := c.config.protocolVersion
      mtu
      magic := defaultUnconnectedMagic }

def request2 (c : RaknetClient F H) (reply1 : OpenConnectionReply1) : OfflinePacket :=
  .openConnectionRequest2
    { serverAddr := c.serverAddr
      mtu := reply1.mtu
      clientGuid := c.config.guid
      cookie := reply1.cookie
      clientProof := false
      parsePath := if reply1.cookie.isSome then .strictWithCookie else .strictNoCookie
      magic := defaultUnconnectedMagic }

/-- From the first reply to the second request. -/
def sendRequest2 (c : RaknetClient F H) (env : ClientEnv) (reply1 : OpenConnectionReply1) :
    Except RaknetClientError Unit × RaknetClient F H :=
  andThen (c.moveTo .reply1Sent) fun c =>
  andThen (moveTo { c with session := c.session.setMtu (clampMtu reply1.mtu).toNat } .req2Recv)
    fun c => c.send env 0 (c.request2 reply1).encode

variable [F64 F] [MinHeap H QueuedFrame QueuedFrame.weight]

/-- From the second reply to the connection request. -/
def sendConnectionRequest (c : RaknetClient F H) (e : HandshakeEnv) :
    Except RaknetClientError Unit × RaknetClient F H :=
  andThen (c.moveTo .reply2Sent) fun c =>
  andThen (c.moveTo .connReqRecv) fun c =>
  andThen (c.queueConnectedControlPacket
      (.connectionRequest
        { clientGuid := c.config.guid
          requestTime := e.requestMillis
          useEncryption := false })
      .reliableOrdered 0 .high)
    fun c => c.flushRecv e.env 0

/-- From the acceptance to the end. -/
def completeHandshake (c : RaknetClient F H) (e : HandshakeEnv)
    (accepted : ConnectionRequestAccepted) : Except RaknetClientError Unit × RaknetClient F H :=
  andThen (c.moveTo .connReqAcceptedSent) fun c =>
  andThen (c.moveTo .newIncomingRecv) fun c =>
  andThen (c.queueConnectedControlPacket
      (.newIncomingConnection
        { serverAddr := c.serverAddr
          internalAddrs := TransportServer.buildInternalAddrs c.serverAddr
          requestTime := accepted.requestTime
          acceptedTime := accepted.acceptedTime })
      .reliableOrdered 0 .high)
    fun c =>
  andThen (c.flushRecv e.completion 0) fun c =>
  andThen (c.moveTo .connected) fun c => (.ok (), { c with lastInboundActivity := e.finishedAt })

/-- One round of the loop over the frames of a datagram, with the acceptance found so far. -/
def handshakeFrame (c : RaknetClient F H) (pongMillis : Int64) (frame : Frame)
    (accepted : Option ConnectionRequestAccepted) :
    Except RaknetClientError (Option ConnectionRequestAccepted) × RaknetClient F H :=
  match frame.payload.head? with
  | none => (.ok accepted, c)
  | some first =>
    if !TransportServer.isConnectedControlId first then
      (.ok accepted, c)
    else
      match ConnectedControlPacket.decode.run frame.payload with
      | .error fault => (.error (.handshakeProtocolViolation (.control fault)), c)
      | .ok (.connectionRequestAccepted pkt, _) => (.ok (some pkt), c)
      | .ok (.connectedPing pingTime, _) =>
        andThen (c.queueConnectedControlPacket (.connectedPong pingTime pongMillis) .unreliable 0
          .immediate) fun c => (.ok accepted, c)
      | .ok (.disconnectionNotification reason, _) =>
        (.error (.closed (some (.remoteDisconnectionNotification reason))), c)
      | .ok (.detectLostConnection, _) =>
        (.error (.closed (some .remoteDetectLostConnection)), c)
      | .ok (.connectedPong _ _, _) | .ok (.connectionRequest _, _)
      | .ok (.newIncomingConnection _, _) => (.ok accepted, c)

def handshakeFrames (env : ClientEnv) : Nat → List Frame → Option ConnectionRequestAccepted →
    RaknetClient F H → Except RaknetClientError (Option ConnectionRequestAccepted) × RaknetClient F H
  | _, [], accepted, c => (.ok accepted, c)
  | i, frame :: frames, accepted, c =>
    match c.handshakeFrame (env.pongMillis i) frame accepted with
    | (.error e, c) => (.error e, c)
    | (.ok accepted, c) => handshakeFrames env (i + 1) frames accepted c

def processHandshakeDatagram (c : RaknetClient F H) (env : ClientEnv) (datagram : Datagram) :
    Except RaknetClientError (Option ConnectionRequestAccepted) × RaknetClient F H :=
  match c.session.ingestDatagram datagram env.ingestedAt with
  | (.error e, session) => (.error (.handshakeProtocolViolation (.ingest e)), { c with session })
  | (.ok frames, session) =>
    let session := (session.processIncomingReceipts env.ingestedAt).2
    match handshakeFrames env 0 frames none { c with session } with
    | (.error e, c) => (.error e, c)
    | (.ok accepted, c) => andThen (c.flushRecv env 0) fun c => (.ok accepted, c)

end RaknetClient

namespace ClientHandshake

open RaknetClient

/-- Wait in the phase, unless the call failed. -/
def settle (r : Except RaknetClientError Unit × RaknetClient F H) (phase : HandshakePhase) :
    ClientHandshake F H :=
  match r with
  | (.ok (), c) => ⟨c, phase⟩
  | (.error e, c) => ⟨c, .failed e⟩

/-- The next probe, if there is one and it is due in time. -/
def probe (c : RaknetClient F H) (e : HandshakeEnv) : List UInt16 → ClientHandshake F H
  | [] => ⟨c, .failed (.handshakeTimeout .openConnectionRequest1)⟩
  | mtu :: rest =>
    if e.overdue then ⟨c, .failed (.handshakeTimeout .openConnectionRequest1)⟩
    else settle (c.send e.env 0 (c.request1 mtu).encode) (.probing rest)

variable [F64 F] [MinHeap H QueuedFrame QueuedFrame.weight]

/-- The end of `connect_with_config`. -/
def finish (r : Except RaknetClientError Unit × RaknetClient F H) (reply1 : OpenConnectionReply1)
    (reply2 : OpenConnectionReply2) : ClientHandshake F H :=
  match r with
  | (.ok (), c) =>
    ⟨c.emit (.connected c.serverAddr (UInt16.ofNat c.session.mtu)), .established reply1 reply2⟩
  | (.error e, c) => ⟨c, .failed e⟩

/-- What comes of a packet of the server. -/
def receive (h : ClientHandshake F H) (e : HandshakeEnv) (packet : Bytes) : ClientHandshake F H :=
  match h.phase with
  | .probing _ =>
    match OfflinePacket.decode.run packet with
    | .error _ => h
    | .ok (offline, _) =>
      match offlineRejectionReason offline, offline with
      | some reason, _ => ⟨h.client, .failed (.offlineRejected reason)⟩
      | none, .openConnectionReply1 reply1 =>
        settle (h.client.sendRequest2 e.env reply1) (.awaitingReply2 reply1)
      | none, _ => h
  | .awaitingReply2 reply1 =>
    match OfflinePacket.decode.run packet with
    | .error _ => h
    | .ok (offline, _) =>
      match offlineRejectionReason offline, offline with
      | some reason, _ => ⟨h.client, .failed (.offlineRejected reason)⟩
      | none, .openConnectionReply2 reply2 =>
        settle (h.client.sendConnectionRequest e) (.awaitingAccepted reply1 reply2)
      | none, _ => h
  | .awaitingAccepted reply1 reply2 =>
    match OfflinePacket.decode.run packet with
    | .ok (offline, _) =>
      match offlineRejectionReason offline with
      | some reason => ⟨h.client, .failed (.offlineRejected reason)⟩
      | none => h
    | .error _ =>
      match Datagram.decode.run packet with
      | .error _ => h
      | .ok (datagram, _) =>
        match h.client.processHandshakeDatagram e.env datagram with
        | (.error error, c) => ⟨c, .failed error⟩
        | (.ok none, c) => ⟨c, .awaitingAccepted reply1 reply2⟩
        | (.ok (some accepted), c) => finish (c.completeHandshake e accepted) reply1 reply2
  | .established _ _ | .failed _ => h

/-- What comes of a wait that ends without a packet. -/
def timedOut (h : ClientHandshake F H) (e : HandshakeEnv) : ClientHandshake F H :=
  match h.phase with
  | .probing rest => probe h.client e rest
  | .awaitingReply2 _ => ⟨h.client, .failed (.handshakeTimeout .openConnectionRequest2)⟩
  | .awaitingAccepted _ _ => ⟨h.client, .failed (.handshakeTimeout .connectionRequestAccepted)⟩
  | .established _ _ | .failed _ => h

/-- The handshake from one wait to the next. -/
def step (h : ClientHandshake F H) (e : HandshakeEnv) : ClientWait → ClientHandshake F H
  | .received addr packet => if addr ≠ h.client.serverAddr then h else h.receive e packet
  | .failed =>
    match h.phase with
    | .established _ _ | .failed _ => h
    | _ => ⟨h.client, .failed .io⟩
  | .timedOut => h.timedOut e

/-- `connect_with_config`, up to the first wait. -/
def start (config : RaknetClientConfig) (serverAddr : SocketAddr) (now : Instant)
    (e : HandshakeEnv) : ClientHandshake F H :=
  let client : RaknetClient F H :=
    { socket := []
      serverAddr
      session := Session.new config.mtu.toNat now
      config
      pendingEvents := []
      closed := false
      closeReason := none
      lastInboundActivity := now }
  match client.moveTo .req1Recv with
  | (.ok (), c) => probe c e config.probes
  | (.error error, c) => ⟨c, .failed error⟩

end ClientHandshake

end Raknet
