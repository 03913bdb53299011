-- SUMMARY: The client facade on an open connection: sending, closing, receiving, and the queue of its events.
import Raknet.Transport.Receive

/-!
# The client facade

`RaknetClient` drives one session over one socket. What comes of a call is told in
events, which `next_event` hands out one by one. The socket is the list of the packets
that were written to it.
-/

namespace Raknet

open Decoder

structure RaknetClientConfig where
  guid : UInt64
  protocolVersion : UInt8
  mtu : UInt16
  mtuProbeOrder : List UInt16
  mtuProbeAttemptsPerStep : Nat
  sessionKeepaliveInterval : Duration
  sessionIdleTimeout : Duration
  maxNewDatagramsPerTick : Nat
  maxNewBytesPerTick : Nat
  maxResendDatagramsPerTick : Nat
  maxResendBytesPerTick : Nat
  maxNewDatagramsPerRecv : Nat
  maxNewBytesPerRecv : Nat
  maxResendDatagramsPerRecv : Nat
  maxResendBytesPerRecv : Nat
deriving DecidableEq, Repr

/-- `RaknetClientConfig::default`, with the GUID that is drawn for it. -/
def RaknetClientConfig.standard (guid : UInt64) : RaknetClientConfig :=
  { guid
    protocolVersion := raknetProtocolVersion
    mtu := 1200
    mtuProbeOrder := [1200, maximumMtuSize, minimumMtuSize]
    mtuProbeAttemptsPerStep := 2
    sessionKeepaliveInterval := .fromMillis 10000
    sessionIdleTimeout := .fromMillis 30000
    maxNewDatagramsPerTick := 8
    maxNewBytesPerTick := 64 * 1024
    maxResendDatagramsPerTick := 8
    maxResendBytesPerTick := 64 * 1024
    maxNewDatagramsPerRecv := 6
    maxNewBytesPerRecv := 64 * 1024
    maxResendDatagramsPerRecv := 6
    maxResendBytesPerRecv := 64 * 1024 }

inductive HandshakeStage where
  | openConnectionRequest1
  | openConnectionRequest2
  | connectionRequestAccepted
deriving DecidableEq, Repr

inductive OfflineRejectionReason where
  | incompatibleProtocolVersion (protocolVersion : UInt8) (serverGuid : UInt64)
  | connectionRequestFailed (serverGuid : UInt64)
  | alreadyConnected (serverGuid : UInt64)
  | noFreeIncomingConnections (serverGuid : UInt64)
  | connectionBanned (serverGuid : UInt64)
  | ipRecentlyConnected (serverGuid : UInt64)
deriving DecidableEq, Repr

/-- What the `details` of a protocol violation are about. -/
inductive HandshakeViolationDetails where
  | transition (next : SessionState)
  | encode (error : EncodeError)
  | ingest (error : DecodeError)
  | control (fault : Fault DecodeError)
deriving DecidableEq, Repr

/-- What was going on when the transport failed. -/
inductive TransportStage where
  | inboundProcessing
  | udpReceive
  | outboundTick
deriving DecidableEq, Repr

mutual

/-- The message of a transport error is kept as what failed and the error. -/
inductive ClientDisconnectReason where
  | requested
  | backpressure
  | idleTimeout
  | remoteDisconnectionNotification (reasonCode : Option UInt8)
  | remoteDetectLostConnection
  | transportError (stage : TransportStage) (error : RaknetClientError)

inductive RaknetClientError where
  | io
  | handshakeTimeout (stage : HandshakeStage)
  | offlineRejected (reason : OfflineRejectionReason)
  | handshakeProtocolViolation (details : HandshakeViolationDetails)
  /-- Without a reason, the text says so. -/
  | closed (reason : Option ClientDisconnectReason)
  | backpressureDropped
  | backpressureDeferred
  | backpressureDisconnect

end

/-- The text of a decode error is kept as what it is about. -/
inductive ClientDecodeError where
  | unexpectedOfflinePacket (id : UInt8)
  | fault (fault : Fault DecodeError)
deriving DecidableEq, Repr

inductive RaknetClientEvent where
  | connected (serverAddr : SocketAddr) (mtu : UInt16)
  | packet (delivery : ConnectedFrameDelivery)
  | receiptAcked (receiptId : UInt64)
  | decodeError (error : ClientDecodeError)
  | disconnected (reason : ClientDisconnectReason)

structure RaknetClient (F H : Type) where
  /-- The packets that the socket took, in order. -/
  socket : List Bytes
  serverAddr : SocketAddr
  session : Session F H
  config : RaknetClientConfig
  pendingEvents : List RaknetClientEvent
  closed : Bool
  closeReason : Option ClientDisconnectReason
  lastInboundActivity : Instant

/-- What a call reads from its surroundings. -/
structure ClientEnv where
  /-- The clock when a packet came in. -/
  receivedAt : Instant
  /-- The clock when its datagram is taken in. -/
  ingestedAt : Instant
  /-- The clocks of `queue_keepalive_ping` and of the tick behind it. -/
  keepaliveAt : Instant
  tickedAt : Instant
  /-- `unix_timestamp_millis()` for a ping, and for the answer to the ping of a frame. -/
  pingMillis : Int64
  pongMillis : Nat → Int64
  /-- Whether the socket takes the packet of each attempt to send. -/
  sendOk : Nat → Bool

variable {F H : Type}

namespace RaknetClient

open TransportServer (isOfflinePacketId isConnectedControlId)

/-- `push_back`. -/
def emit (c : RaknetClient F H) (event : RaknetClientEvent) : RaknetClient F H :=
  { c with pendingEvents := c.pendingEvents ++ [event] }

/-- The transitions of `finish_close`, each of which may fail. -/
def closeSession (session : Session F H) : Session F H :=
  let session := if session.state = .connected then (session.transitionTo .closing).2 else session
  (session.transitionTo .closed).2

def finishClose (c : RaknetClient F H) (reason : ClientDisconnectReason) : RaknetClient F H :=
  if c.closed then
    c
  else
    { c with
      session := closeSession c.session
      closeReason := some reason
      closed := true
      pendingEvents := c.pendingEvents ++ [.disconnected reason] }

def ensureOpen (c : RaknetClient F H) : Except RaknetClientError Unit :=
  if c.closed then .error (.closed c.closeReason) else .ok ()

variable [F64 F] [MinHeap H QueuedFrame QueuedFrame.weight]

def queuePayloadWithOptionalReceipt (c : RaknetClient F H) (payload : Bytes)
    (reliability : Reliability) (channel : UInt8) (priority : RakPriority)
    (receiptId : Option UInt64) : Except RaknetClientError Unit × RaknetClient F H :=
  let (decision, _, session) :=
    c.session.queuePayloadWithReceipt payload reliability channel priority receiptId
  let c := { c with session }
  match decision with
  | .enqueued _ => (.ok (), c)
  | .dropped => (.error .backpressureDropped, c)
  | .deferred => (.error .backpressureDeferred, c)
  | .disconnectRequested => (.error .backpressureDisconnect, c.finishClose .backpressure)

def queueConnectedControlPacket (c : RaknetClient F H) (packet : ConnectedControlPacket)
    (reliability : Reliability) (channel : UInt8) (priority : RakPriority) :
    Except RaknetClientError Unit × RaknetClient F H :=
  match packet.encode with
  | .error e => (.error (.handshakeProtocolViolation (.encode e)), c)
  | .ok payload => c.queuePayloadWithOptionalReceipt payload reliability channel priority none

def queueKeepalivePing (c : RaknetClient F H) (env : ClientEnv) : RaknetClient F H :=
  if !c.session.shouldSendKeepalive env.keepaliveAt c.config.sessionKeepaliveInterval then
    c
  else
    match (ConnectedControlPacket.connectedPing env.pingMillis).encode with
    | .error _ => c
    | .ok payload =>
      let (decision, _, session) := c.session.queuePayload payload .unreliable 0 .low
      match decision with
      | .enqueued _ => { c with session := session.markKeepaliveSent env.keepaliveAt }
      | _ => { c with session }

omit [F64 F] [MinHeap H QueuedFrame QueuedFrame.weight] in
/-- `send_datagram` and `send_offline_packet`: the attempt of this number to send a packet that
    encodes like this. -/
def send (c : RaknetClient F H) (env : ClientEnv) (attempt : Nat)
    (encoded : Except EncodeError Bytes) : Except RaknetClientError Unit × RaknetClient F H :=
  match encoded with
  | .error e => (.error (.handshakeProtocolViolation (.encode e)), c)
  | .ok bytes =>
    if env.sendOk attempt then (.ok (), { c with socket := c.socket ++ [bytes] })
    else (.error .io, c)

omit [F64 F] [MinHeap H QueuedFrame QueuedFrame.weight] in
/-- Datagrams sent one after the other; the first failure ends it. -/
def sendDatagrams (env : ClientEnv) : Nat → List Datagram → RaknetClient F H →
    Except RaknetClientError Unit × RaknetClient F H
  | _, [], c => (.ok (), c)
  | attempt, datagram :: rest, c =>
    match c.send env attempt datagram.encode with
    | (.ok (), c) => sendDatagrams env (attempt + 1) rest c
    | (.error e, c) => (.error e, c)

/-- `flush_outbound_with_limits`, with the number of the first attempt to send. -/
def flushOutboundWithLimits (c : RaknetClient F H) (env : ClientEnv) (attempt : Nat)
    (maxNewDatagrams maxNewBytes maxResendDatagrams maxResendBytes : Nat) :
    Except RaknetClientError Unit × RaknetClient F H :=
  if c.closed then
    (.ok (), c)
  else
    let c := c.queueKeepalivePing env
    let (output, session) := c.session.onTick env.tickedAt maxNewDatagrams maxNewBytes
      maxResendDatagrams maxResendBytes
    match ({ c with session } : RaknetClient F H).sendDatagrams env attempt output.datagrams with
    | (.error e, c) => (.error e, c)
    | (.ok (), c) =>
      let (disconnect, session) := c.session.takeBackpressureDisconnect
      let c := { c with session }
      if disconnect then
        (.error .backpressureDisconnect, c.finishClose .backpressure)
      else
        (.ok (), c)

/-- The flush behind a packet that was received, or a payload that was queued. -/
def flushRecv (c : RaknetClient F H) (env : ClientEnv) (attempt : Nat) :
    Except RaknetClientError Unit × RaknetClient F H :=
  c.flushOutboundWithLimits env attempt c.config.maxNewDatagramsPerRecv c.config.maxNewBytesPerRecv
    c.config.maxResendDatagramsPerRecv c.config.maxResendBytesPerRecv

/-- The flush of a tick. -/
def flushTick (c : RaknetClient F H) (env : ClientEnv) :
    Except RaknetClientError Unit × RaknetClient F H :=
  c.flushOutboundWithLimits env 0 c.config.maxNewDatagramsPerTick c.config.maxNewBytesPerTick
    c.config.maxResendDatagramsPerTick c.config.maxResendBytesPerTick

/-! ## Sending and closing -/

/-- `send_with_options`, and `send_with_receipt` with an id. -/
def sendPayload (c : RaknetClient F H) (env : ClientEnv) (payload : Bytes)
    (reliability : Reliability) (channel : UInt8) (priority : RakPriority)
    (receiptId : Option UInt64) : Except RaknetClientError Unit × RaknetClient F H :=
  match c.ensureOpen with
  | .error e => (.error e, c)
  | .ok () =>
    match c.queuePayloadWithOptionalReceipt payload reliability channel priority receiptId with
    | (.error e, c) => (.error e, c)
    | (.ok (), c) => c.flushRecv env 0

def disconnect (c : RaknetClient F H) (env : ClientEnv) (reasonCode : Option UInt8) :
    Except RaknetClientError Unit × RaknetClient F H :=
  if c.closed then
    (.ok (), c)
  else
    match c.queueConnectedControlPacket (.disconnectionNotification reasonCode) .reliableOrdered 0
        .high with
    | (.ok (), c) => (.ok (), (c.flushTick env).2.finishClose .requested)
    | (.error e, c) => (.error e, c.finishClose .requested)

/-! ## Receiving -/

/-- `apply_connected_control`, at this time if it is a ping. -/
def applyConnectedControl (c : RaknetClient F H) (pongMillis : Int64) :
    ConnectedControlPacket → Except RaknetClientError Unit × RaknetClient F H
  | .connectedPing pingTime =>
    c.queueConnectedControlPacket (.connectedPong pingTime pongMillis) .unreliable 0 .immediate
  | .disconnectionNotification reason =>
    (.ok (), c.finishClose (.remoteDisconnectionNotification reason))
  | .detectLostConnection => (.ok (), c.finishClose .remoteDetectLostConnection)
  | .connectionRequest _ | .connectionRequestAccepted _ | .newIncomingConnection _
  | .connectedPong _ _ => (.ok (), c)

/-- One round of the loop over the frames of a datagram. -/
def handleFrame (c : RaknetClient F H) (pongMillis : Int64) (frame : Frame) :
    Except RaknetClientError Unit × RaknetClient F H :=
  match frame.payload.head? with
  | none => (.ok (), c)
  | some first =>
    if isConnectedControlId first then
      match ConnectedControlPacket.decode.run frame.payload with
      | .error fault => (.ok (), c.emit (.decodeError (.fault fault)))
      | .ok (control, _) => c.applyConnectedControl pongMillis control
    else
      (.ok (), c.emit (.packet (.fromFrame frame)))

/-- The loop over the frames of a datagram, from the frame of this number on. -/
def handleFrames (env : ClientEnv) : Nat → List Frame → RaknetClient F H →
    Except RaknetClientError Unit × RaknetClient F H
  | _, [], c => (.ok (), c)
  | i, frame :: frames, c =>
    match c.handleFrame (env.pongMillis i) frame with
    | (.error e, c) => (.error e, c)
    | (.ok (), c) => handleFrames env (i + 1) frames c

def processConnectedDatagram (c : RaknetClient F H) (env : ClientEnv) (datagram : Datagram) :
    Except RaknetClientError Unit × RaknetClient F H :=
  match c.session.ingestDatagram datagram env.ingestedAt with
  | (.error e, session) =>
    (.ok (), ({ c with session } : RaknetClient F H).emit (.decodeError (.fault (.error e))))
  | (.ok frames, session) =>
    let (receipts, session) := session.processIncomingReceipts env.ingestedAt
    let c := receipts.ackedReceiptIds.foldl (fun c receiptId => c.emit (.receiptAcked receiptId))
      ({ c with session } : RaknetClient F H)
    match c.handleFrames env 0 frames with
    | (.error e, c) => (.error e, c)
    | (.ok (), c) =>
      ({ c with session := c.session.forceControlFlushDeadlines env.ingestedAt } :
        RaknetClient F H).flushRecv env 0

def processInboundPacket (c : RaknetClient F H) (env : ClientEnv) (payload : Bytes) :
    Except RaknetClientError Unit × RaknetClient F H :=
  match payload.head? with
  | none => (.ok (), c)
  | some first =>
    if isOfflinePacketId first then
      (.ok (), c.emit (.decodeError (.unexpectedOfflinePacket first)))
    else
      match Datagram.decode.run payload with
      | .error fault => (.ok (), c.emit (.decodeError (.fault fault)))
      | .ok (datagram, _) => c.processConnectedDatagram env datagram

/-- Whether the connection was closed for being idle. -/
def checkIdleTimeoutAndClose (c : RaknetClient F H) (now : Instant) : Bool × RaknetClient F H :=
  if c.closed ∨ c.config.sessionIdleTimeout = 0 ∨ c.session.state ≠ .connected then
    (false, c)
  else if now - c.lastInboundActivity ≥ c.config.sessionIdleTimeout then
    (true, c.finishClose .idleTimeout)
  else
    (false, c)

end RaknetClient

/-- What the wait for a packet ends with. -/
inductive ClientWait where
  | received (addr : SocketAddr) (payload : Bytes)
  | failed
  | timedOut

/-- One round of the loop of `next_event`: the clock of its check for an idle connection, and
    how the wait behind it ends. -/
structure ClientPoll where
  checkedAt : Instant
  env : ClientEnv
  wait : ClientWait

namespace RaknetClient

variable [F64 F] [MinHeap H QueuedFrame QueuedFrame.weight]

/-- `finish_close` for a failed call. -/
def closeOnError (stage : TransportStage) :
    Except RaknetClientError Unit × RaknetClient F H → RaknetClient F H
  | (.error e, c) => c.finishClose (.transportError stage e)
  | (.ok (), c) => c

/-- What comes of a wait. -/
def afterWait (c : RaknetClient F H) (env : ClientEnv) : ClientWait → RaknetClient F H
  | .received addr payload =>
    if addr ≠ c.serverAddr then
      c
    else
      closeOnError .inboundProcessing (({ c with lastInboundActivity := env.receivedAt } :
        RaknetClient F H).processInboundPacket env payload)
  | .failed => c.finishClose (.transportError .udpReceive .io)
  | .timedOut => closeOnError .outboundTick (c.flushTick env)

/-- One round of the loop of `next_event`, with no event at hand and the client open. -/
def poll (c : RaknetClient F H) (p : ClientPoll) : RaknetClient F H :=
  match c.checkIdleTimeoutAndClose p.checkedAt with
  | (true, c) => c
  | (false, c) => c.afterWait p.env p.wait

/-- `next_event`, for as many rounds as there are polls: a call that has no event yet is given up
    there. -/
def nextEvent : List ClientPoll → RaknetClient F H → Option RaknetClientEvent × RaknetClient F H
  | polls, c =>
    match c.pendingEvents with
    | event :: rest => (some event, { c with pendingEvents := rest })
    | [] =>
      match polls with
      | [] => (none, c)
      | p :: polls => if c.closed then (none, c) else nextEvent polls (c.poll p)

end RaknetClient

/-- What is called on a connected client. -/
inductive RaknetClientOp where
  | sendPayload (env : ClientEnv) (payload : Bytes) (reliability : Reliability) (channel : UInt8)
      (priority : RakPriority) (receiptId : Option UInt64)
  | disconnect (env : ClientEnv) (reasonCode : Option UInt8)
  | nextEvent (polls : List ClientPoll)

variable [F64 F] [MinHeap H QueuedFrame QueuedFrame.weight]

def RaknetClient.step (c : RaknetClient F H) :
    RaknetClientOp → RaknetClient F H × Option RaknetClientEvent
  | .sendPayload env payload reliability channel priority receiptId =>
    ((c.sendPayload env payload reliability channel priority receiptId).2, none)
  | .disconnect env reasonCode => ((c.disconnect env reasonCode).2, none)
  | .nextEvent polls => ((c.nextEvent polls).2, (c.nextEvent polls).1)

end Raknet
