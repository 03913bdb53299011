-- SUMMARY: The server facade: peer ids for addresses, and the events that it hands out.
import Mathlib.Data.UInt
import Raknet.Facade.SessionIds
import Raknet.Transport.Snapshot

/-!
# The server facade

`RaknetServer` turns the events of the transport into events of peers. An address
gets a peer id with the first event of a connection, and keeps it until the
peer is told to have disconnected.
-/

namespace Raknet

open Decoder

inductive PeerDisconnectReason where
  | requested
  | remoteDisconnectionNotification (reasonCode : Option UInt8)
  | remoteDetectLostConnection
  | workerStopped (shardId : Nat)
deriving DecidableEq, Repr

/-- The events of the facade. A packet has the fields of the delivery. -/
inductive RaknetServerEvent (F : Type) where
  | peerConnected (peerId : PeerId) (addr : SocketAddr) (clientGuid : UInt64) (shardId : Nat)
  | peerDisconnected (peerId : PeerId) (addr : SocketAddr) (reason : PeerDisconnectReason)
  | packet (peerId : PeerId) (addr : SocketAddr) (frame : ConnectedFrameDelivery)
  | offlinePacket (addr : SocketAddr) (packet : OfflinePacket)
  | receiptAcked (peerId : PeerId) (addr : SocketAddr) (receiptId : UInt64)
  | peerRateLimited (addr : SocketAddr)
  | sessionLimitReached (addr : SocketAddr)
  | proxyDropped (addr : SocketAddr)
  | decodeError (addr : SocketAddr) (error : Fault DecodeError)
  | workerError (shardId : Nat) (message : String)
  | workerStopped (shardId : Nat)
  | metrics (shardId : Nat) (snapshot : TransportMetricsSnapshot F)
      (droppedNonCriticalEvents : Nat)

inductive ShardedRuntimeEvent (F : Type) where
  | transport (shardId : Nat) (event : TransportEvent)
  | metrics (shardId : Nat) (snapshot : TransportMetricsSnapshot F)
      (droppedNonCriticalEvents : Nat)
  | workerError (shardId : Nat) (message : String)
  | workerStopped (shardId : Nat)

structure PeerBinding where
  peerId : PeerId
  shardId : Nat
deriving DecidableEq, Repr

structure RaknetServer (F : Type) where
  peersByAddr : AssocMap SocketAddr PeerBinding
  addrsByPeer : AssocMap PeerId SocketAddr
  pendingEvents : List (RaknetServerEvent F)
  nextPeerId : PeerId

/-- What a call of the facade can fail with. -/
inductive PeerRouteError where
  | peerIdNotFound
  | peerShardBindingMissing
  /-- The command did not get to its shard. -/
  | commandRefused
deriving DecidableEq, Repr

namespace RaknetServer

variable {F : Type}

def started : RaknetServer F :=
  { peersByAddr := ∅
    addrsByPeer := ∅
    pendingEvents := []
    nextPeerId := 1 }

/-- `push_back`. -/
def emit (s : RaknetServer F) (event : RaknetServerEvent F) : RaknetServer F :=
  { s with pendingEvents := s.pendingEvents ++ [event] }

/-- `saturating_add(1)`. -/
def following (id : PeerId) : PeerId := if id = 2 ^ 64 - 1 then id else id + 1

def ensurePeer (s : RaknetServer F) (addr : SocketAddr) (shardId : Nat) :
    (PeerId × Bool) × RaknetServer F :=
  match s.peersByAddr.lookup addr with
  | some binding =>
    ((binding.peerId, false),
      if binding.shardId ≠ shardId then
        { s with peersByAddr := s.peersByAddr.insert addr { binding with shardId } }
      else s)
  | none =>
    ((s.nextPeerId, true),
      { s with
        nextPeerId := following s.nextPeerId
        peersByAddr := s.peersByAddr.insert addr ⟨s.nextPeerId, shardId⟩
        addrsByPeer := s.addrsByPeer.insert s.nextPeerId addr })

def removePeer (s : RaknetServer F) (addr : SocketAddr) : Option PeerId × RaknetServer F :=
  match s.peersByAddr.lookup addr with
  | none => (none, s)
  | some binding =>
    (some binding.peerId,
      { s with
        peersByAddr := s.peersByAddr.erase addr
        addrsByPeer := s.addrsByPeer.erase binding.peerId })

def disconnectReason : RemoteDisconnectReason → PeerDisconnectReason
  | .disconnectionNotification reasonCode => .remoteDisconnectionNotification reasonCode
  | .detectLostConnection => .remoteDetectLostConnection

/-- `ConnectedFrames`, past the events that come before a connection. -/
def enqueueConnectedFrames (s : RaknetServer F) (shardId : Nat) (addr : SocketAddr)
    (clientGuid : Option UInt64) (frames : List ConnectedFrameDelivery)
    (receipts : ReceiptProgress) : RaknetServer F :=
  let ((peerId, isNew), s) := s.ensurePeer addr shardId
  let s := if isNew then s.emit (.peerConnected peerId addr (clientGuid.getD peerId) shardId) else s
  let s := frames.foldl (fun s frame => s.emit (.packet peerId addr frame)) s
  receipts.ackedReceiptIds.foldl (fun s receiptId => s.emit (.receiptAcked peerId addr receiptId)) s

def enqueueTransportEvent (s : RaknetServer F) (shardId : Nat) : TransportEvent → RaknetServer F
  | .peerDisconnected addr reason =>
    match s.removePeer addr with
    | (some peerId, s) => s.emit (.peerDisconnected peerId addr (disconnectReason reason))
    | (none, s) => s
  | .connectedFrames addr clientGuid frames receipts =>
    if clientGuid.isNone && frames.isEmpty && receipts.ackedReceiptIds.isEmpty then s
    else s.enqueueConnectedFrames shardId addr clientGuid frames receipts
  | .rateLimited addr => s.emit (.peerRateLimited addr)
  | .sessionLimitReached addr => s.emit (.sessionLimitReached addr)
  | .connectedDatagramDroppedNoSession _ => s
  | .proxyDropped addr => s.emit (.proxyDropped addr)
  | .decodeError addr error => s.emit (.decodeError addr error)
  | .offlinePacket addr packet => s.emit (.offlinePacket addr packet)

/-- The peer of an address, if it is served by the shard. -/
def shardPeer (s : RaknetServer F) (shardId : Nat) (addr : SocketAddr) :
    Option (SocketAddr × PeerId) :=
  match s.peersByAddr.lookup addr with
  | some binding => if binding.shardId = shardId then some (addr, binding.peerId) else none
  | none => none

/-- The peers of a shard, in the order in which the map is visited. -/
def shardPeers (s : RaknetServer F) (order : IterationOrder SocketAddr) (shardId : Nat) :
    List (SocketAddr × PeerId) :=
  (order.arrange s.peersByAddr.keys).filterMap (s.shardPeer shardId)

def enqueueRuntimeEvent (s : RaknetServer F) (order : IterationOrder SocketAddr) :
    ShardedRuntimeEvent F → RaknetServer F
  | .transport shardId event => s.enqueueTransportEvent shardId event
  | .metrics shardId snapshot dropped => s.emit (.metrics shardId snapshot dropped)
  | .workerError shardId message => s.emit (.workerError shardId message)
  | .workerStopped shardId =>
    let s := (s.shardPeers order shardId).foldl
      (fun s peer => (s.removePeer peer.1).2.emit
        (.peerDisconnected peer.2 peer.1 (.workerStopped shardId))) s
    s.emit (.workerStopped shardId)

def resolvePeerRoute (s : RaknetServer F) (peerId : PeerId) :
    Except PeerRouteError (SocketAddr × Nat) :=
  match s.addrsByPeer.lookup peerId with
  | none => .error .peerIdNotFound
  | some addr =>
    match s.peersByAddr.lookup addr with
    | none => .error .peerShardBindingMissing
    | some binding => .ok (addr, binding.shardId)

/-- `disconnect`, with whether the shard takes the command. -/
def disconnect (s : RaknetServer F) (peerId : PeerId) (taken : Bool) :
    Except PeerRouteError Unit × RaknetServer F :=
  match s.resolvePeerRoute peerId with
  | .error e => (.error e, s)
  | .ok (addr, _) =>
    if taken then
      (.ok (), (s.removePeer addr).2.emit (.peerDisconnected peerId addr .requested))
    else
      (.error .commandRefused, s)

/-- The front of the queue, as `next_event` takes it. -/
def popEvent (s : RaknetServer F) : Option (RaknetServerEvent F) × RaknetServer F :=
  match s.pendingEvents with
  | [] => (none, s)
  | event :: rest => (some event, { s with pendingEvents := rest })

end RaknetServer

/-- What is called on the facade. `next_event` takes events of the runtime in until the queue
    has one, and takes that out. -/
inductive RaknetServerOp (F : Type) where
  | enqueueRuntimeEvent (order : IterationOrder SocketAddr) (event : ShardedRuntimeEvent F)
  | disconnect (peerId : PeerId) (taken : Bool)
  | popEvent

def RaknetServer.step {F : Type} (s : RaknetServer F) :
    RaknetServerOp F → RaknetServer F × Option (RaknetServerEvent F)
  | .enqueueRuntimeEvent order event => (s.enqueueRuntimeEvent order event, none)
  | .disconnect peerId taken => ((s.disconnect peerId taken).2, none)
  | .popEvent => (s.popEvent.2, s.popEvent.1)

def raknetServerMachine (F : Type) :
    Machine (RaknetServer F) (RaknetServerOp F) (Option (RaknetServerEvent F)) :=
  ⟨RaknetServer.step⟩

end Raknet
