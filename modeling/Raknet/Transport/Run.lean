-- SUMMARY: Queueing and ticking, the construction of a server, and the server as a machine.
import Raknet.Transport.Receive

/-!
# The server as a machine

`TransportOp` lists the public operations that change a server. What an operation
reads from its surroundings is part of it.
-/

namespace Raknet

open Decoder

inductive QueueDispatchResult where
  | missingSession
  | enqueued (reliableBytes : Nat)
  | dropped
  | deferred
  | disconnected
deriving DecidableEq, Repr

inductive TransportOp where
  | recvAndProcess (env : Env) (bytes : Bytes) (observedAddr : SocketAddr)
  | queuePayload (env : Env) (addr : SocketAddr) (payload : Bytes) (reliability : Reliability)
      (channel : UInt8) (priority : RakPriority) (receiptId : Option UInt64)
  | tickOutbound (env : Env) (maxNewDatagrams maxNewBytes maxResendDatagrams maxResendBytes : Nat)
  | sendDatagram (env : Env) (addr : SocketAddr) (datagram : Datagram)
  | disconnectPeer (env : Env) (addr : SocketAddr)
  | setProxyRouter (router : Option ProxyRouter)
  | addRateLimitException (ip : IpAddr)
  | removeRateLimitException (ip : IpAddr)
  | setProcessingBudgetConfig (env : Env) (config : ProcessingBudgetConfig)
  | setRateLimitConfig (env : Env) (perIpLimit globalLimit : Nat) (window blockDuration : Duration)
  | setPerIpPacketLimit (env : Env) (limit : Nat)
  | setGlobalPacketLimit (env : Env) (limit : Nat)
  | setRateWindow (env : Env) (window : Duration)
  | setBlockDuration (blockDuration : Duration)
  | blockAddress (ip : IpAddr)
  | blockAddressFor (env : Env) (ip : IpAddr) (duration : Duration)
  | unblockAddress (ip : IpAddr)

inductive TransportOut where
  | received (r : CallResult TransportEvent)
  | queued (result : QueueDispatchResult)
  | ticked (r : CallResult Nat)
  | sent (r : CallResult Unit)
  | flag (value : Bool)
  | unit

variable {F H : Type} [F64 F] [MinHeap H QueuedFrame QueuedFrame.weight]

namespace TransportServer

/-- `with_socket`, for a socket that reports this address. -/
def withSocket (config : TransportConfig F) (socketAddr : Option SocketAddr)
    (hmacSha256 : CookieKey → Bytes → Octets 32) (key : CookieKey) (now : Instant) :
    TransportServer F H :=
  let rateLimiter : RateLimiter F :=
    (RateLimiter.new config.perIpPacketLimit config.globalPacketLimit config.rateWindow
      config.blockDuration now).setProcessingBudgetConfig config.processingBudget now
  { config
    socketAddr
    hmacSha256
    rateLimiter := config.rateLimitExceptions.foldl RateLimiter.addException rateLimiter
    proxyRouter := none
    cookieKeyCurrent := key
    cookieKeyPrevious := none
    nextCookieRotation := now + config.cookieRotationInterval
    sessions := ∅
    sessionPipelines := ∅
    pendingHandshakes := ∅
    handshakeHeuristics := ∅
    cookieMismatchGuardStates := ∅
    ipRecentlyConnectedUntil := ∅
    counters := {} }

/-- `queue_payload_with_optional_receipt`. -/
def queuePayload (s : TransportServer F H) (env : Env) (addr : SocketAddr) (payload : Bytes)
    (reliability : Reliability) (channel : UInt8) (priority : RakPriority)
    (receiptId : Option UInt64) : QueueDispatchResult × TransportServer F H :=
  match s.sessions.lookup addr with
  | none => (.missingSession, s)
  | some session =>
    let (decision, _, session) :=
      session.queuePayloadWithReceipt payload reliability channel priority receiptId
    if decision = .disconnectRequested then
      (.disconnected, ({ s with
        sessions := s.sessions.insert addr session } : TransportServer F H).closeSession env addr)
    else
      let (disconnect, session) := session.takeBackpressureDisconnect
      let s := { s with sessions := s.sessions.insert addr session }
      if disconnect then
        (.disconnected, s.closeSession env addr)
      else
        match decision with
        | .enqueued reliableBytes => (.enqueued reliableBytes, s)
        | .dropped => (.dropped, s)
        | .deferred => (.deferred, s)
        | .disconnectRequested => (.disconnected, s)

/-- The tick of one session in `tick_outbound`, with the datagrams to send. -/
def tickRound (env : Env) (maxNewDatagrams maxNewBytes maxResendDatagrams maxResendBytes : Nat)
    (acc : TransportServer F H × List (SocketAddr × Datagram)) (addr : SocketAddr) :
    TransportServer F H × List (SocketAddr × Datagram) :=
  let (s, pending) := acc
  match s.sessions.lookup addr with
  | none => acc
  | some session =>
    let (output, session) := session.onTick env.now maxNewDatagrams maxNewBytes
      maxResendDatagrams maxResendBytes
    ({ s with sessions := s.sessions.insert addr session },
      pending ++ output.datagrams.map fun datagram => (addr, datagram))

/-- The housekeeping of a tick. -/
def prepareTick (s : TransportServer F H) (env : Env) : TransportServer F H :=
  let s := s.prunePendingHandshakes env
  let s := s.pruneCookieMismatchGuardStates env.now
  let s := s.pruneIpRecentlyConnected env.now
  let s := s.pruneIdleSessions env none
  let s := s.queueKeepalivePings env
  let s := { s with rateLimiter := s.rateLimiter.tick env.now }
  s.rotateCookieKeysIfNeeded env

def tickOutbound (s : TransportServer F H) (env : Env)
    (maxNewDatagrams maxNewBytes maxResendDatagrams maxResendBytes : Nat) :
    CallResult Nat × TransportServer F H :=
  let s := s.prepareTick env
  let (s, pending) := (env.order.arrange s.sessions.keys).foldl
    (tickRound env maxNewDatagrams maxNewBytes maxResendDatagrams maxResendBytes) (s, [])
  let (r, s) := sendDatagrams env s 0 pending
  (⟨r.result.map fun _ => pending.length, r.sent⟩, s)

/-- Change the rate limiter only. -/
def limit (s : TransportServer F H) (r : RateLimiter F) : TransportServer F H :=
  { s with rateLimiter := r }

def step (s : TransportServer F H) : TransportOp → TransportServer F H × TransportOut
  | .recvAndProcess env bytes observedAddr =>
    let (r, s) := s.recvAndProcess env bytes observedAddr
    (s, .received r)
  | .queuePayload env addr payload reliability channel priority receiptId =>
    let (result, s) := s.queuePayload env addr payload reliability channel priority receiptId
    (s, .queued result)
  | .tickOutbound env maxNewDatagrams maxNewBytes maxResendDatagrams maxResendBytes =>
    let (r, s) :=
      s.tickOutbound env maxNewDatagrams maxNewBytes maxResendDatagrams maxResendBytes
    (s, .ticked r)
  | .sendDatagram env addr datagram =>
    let (r, s) := s.send env 0 addr datagram.encode
    (s, .sent r)
  | .disconnectPeer env addr =>
    let (existed, s) := s.disconnectPeer env addr
    (s, .flag existed)
  | .setProxyRouter router => ({ s with proxyRouter := router }, .unit)
  | .addRateLimitException ip => (s.limit (s.rateLimiter.addException ip), .unit)
  | .removeRateLimitException ip => (s.limit (s.rateLimiter.removeException ip), .unit)
  | .setProcessingBudgetConfig env config =>
    (s.limit (s.rateLimiter.setProcessingBudgetConfig config env.now), .unit)
  | .setRateLimitConfig env perIpLimit globalLimit window blockDuration =>
    (s.limit (s.rateLimiter.updateLimits perIpLimit globalLimit window blockDuration env.now),
      .unit)
  | .setPerIpPacketLimit env limit => (s.limit (s.rateLimiter.setPerIpLimit limit env.now), .unit)
  | .setGlobalPacketLimit env limit =>
    (s.limit (s.rateLimiter.setGlobalLimit limit env.now), .unit)
  | .setRateWindow env window => (s.limit (s.rateLimiter.setWindow window env.now), .unit)
  | .setBlockDuration blockDuration =>
    (s.limit (s.rateLimiter.setBlockDuration blockDuration), .unit)
  | .blockAddress ip =>
    let (newlyBlocked, r) := s.rateLimiter.blockAddress ip
    (s.limit r, .flag newlyBlocked)
  | .blockAddressFor env ip duration =>
    let (newlyBlocked, r) := s.rateLimiter.blockAddressFor ip env.now duration
    (s.limit r, .flag newlyBlocked)
  | .unblockAddress ip =>
    let (unblocked, r) := s.rateLimiter.unblockAddress ip
    (s.limit r, .flag unblocked)

end TransportServer

/-- A transport server as a machine. -/
def transportMachine (F H : Type) [F64 F] [MinHeap H QueuedFrame QueuedFrame.weight] :
    Machine (TransportServer F H) TransportOp TransportOut :=
  ⟨TransportServer.step⟩

/-- Servers over exact arithmetic and sorted queues, for runs on fixed inputs. -/
abbrev ConcreteServer := TransportServer ℚ (SortedHeap QueuedFrame QueuedFrame.weight)

abbrev concreteTransport : Machine ConcreteServer TransportOp TransportOut :=
  transportMachine ℚ (SortedHeap QueuedFrame QueuedFrame.weight)

end Raknet
