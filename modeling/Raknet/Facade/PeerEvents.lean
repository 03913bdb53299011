-- SUMMARY: What the server facade tells of a peer: connected once, then its traffic, then disconnected at most once.
import Mathlib.Data.List.ReduceOption
import Raknet.Facade.Server

/-!
# The events of a peer

The two maps of the facade are inverse to each other. A peer that is in them has been
told to be connected, and has only had packets and receipts since. A peer that is not
has not been heard of yet, or has been told to have disconnected, after which its id
is not used again.
-/

namespace Raknet

variable {F : Type}

namespace RaknetServerEvent

/-- The peer that an event is about. -/
def peer : RaknetServerEvent F → Option PeerId
  | .peerConnected peerId _ _ _ | .peerDisconnected peerId _ _ | .packet peerId _ _
  | .receiptAcked peerId _ _ => some peerId
  | _ => none

def isPeerConnected : RaknetServerEvent F → Bool
  | .peerConnected _ _ _ _ => true
  | _ => false

def isPeerDisconnected : RaknetServerEvent F → Bool
  | .peerDisconnected _ _ _ => true
  | _ => false

/-- Packets and receipts. -/
def isTraffic : RaknetServerEvent F → Bool
  | .packet _ _ _ | .receiptAcked _ _ _ => true
  | _ => false

/-- The events about a peer. -/
def ofPeer (peerId : PeerId) (stream : List (RaknetServerEvent F)) : List (RaknetServerEvent F) :=
  stream.filter fun e => decide (e.peer = some peerId)

/-- How many peers were told to be connected. -/
def connections (stream : List (RaknetServerEvent F)) : Nat := stream.countP isPeerConnected

/-- Connected first, and nothing but traffic since. -/
def Open (history : List (RaknetServerEvent F)) : Prop :=
  ∃ first traffic, history = first :: traffic ∧ first.isPeerConnected = true ∧
    ∀ e ∈ traffic, e.isTraffic = true

/-- Connected, traffic, and disconnected in the end. -/
def Done (history : List (RaknetServerEvent F)) : Prop :=
  ∃ connection last, history = connection ++ [last] ∧ Open connection ∧
    last.isPeerDisconnected = true

/-- Told to be connected at the address, and not to have disconnected. -/
def Live (peerId : PeerId) (addr : SocketAddr) (stream : List (RaknetServerEvent F)) : Prop :=
  (∃ clientGuid shardId, .peerConnected peerId addr clientGuid shardId ∈ stream) ∧
    ∀ addr' reason, .peerDisconnected peerId addr' reason ∉ stream

variable {stream : List (RaknetServerEvent F)} {e : RaknetServerEvent F} {peerId : PeerId}

/-- Only the events about a peer say whether it is live. -/
theorem live_iff_ofPeer {addr : SocketAddr} :
    Live peerId addr stream ↔ Live peerId addr (ofPeer peerId stream) := by
  simp [Live, ofPeer, peer]

theorem ofPeer_emit (hpeer : e.peer = some peerId) :
    ofPeer peerId (stream ++ [e]) = ofPeer peerId stream ++ [e] := by
  simp [ofPeer, hpeer]

theorem ofPeer_emit_other (hpeer : e.peer ≠ some peerId) :
    ofPeer peerId (stream ++ [e]) = ofPeer peerId stream := by
  simp [ofPeer, hpeer]

theorem connections_emit (he : e.isPeerConnected = false) :
    connections (stream ++ [e]) = connections stream := by
  simp [connections, he]

theorem connections_emit_connected (he : e.isPeerConnected = true) :
    connections (stream ++ [e]) = connections stream + 1 := by
  simp [connections, he]

/-- Traffic tells nothing of who is connected. -/
theorem live_traffic {addr : SocketAddr} (he : e.isTraffic = true) :
    Live peerId addr (stream ++ [e]) ↔ Live peerId addr stream := by
  cases e with
  | packet | receiptAcked => simp [Live]
  | _ => cases he

theorem Open.traffic (h : Open stream) (he : e.isTraffic = true) : Open (stream ++ [e]) := by
  obtain ⟨first, traffic, rfl, hfirst, htraffic⟩ := h
  refine ⟨first, traffic ++ [e], rfl, hfirst, fun e' he' => ?_⟩
  rcases List.mem_append.mp he' with he' | he'
  · exact htraffic e' he'
  · rw [List.mem_singleton.mp he']
    exact he

end RaknetServerEvent

open RaknetServerEvent

namespace RaknetServer

/-! ## The invariant -/

/-- What the facade has told of its peers. -/
structure Protocol (stream : List (RaknetServerEvent F)) (s : RaknetServer F) : Prop where
  inverse : AssocMap.Inverse PeerBinding.peerId s.peersByAddr s.addrsByPeer
  known : ∀ p addr, s.addrsByPeer.lookup p = some addr → Open (ofPeer p stream)
  live : ∀ p addr, s.addrsByPeer.lookup p = some addr ↔ Live p addr stream
  unknown : ∀ p, s.addrsByPeer.lookup p = none →
    ofPeer p stream = [] ∨ Done (ofPeer p stream)
  fresh : ∀ p, s.nextPeerId ≤ p → s.addrsByPeer.lookup p = none ∧ ofPeer p stream = []
  next : s.nextPeerId.toNat = connections stream + 1

theorem toNat_following {id : PeerId} (h : id.toNat < 2 ^ 64 - 1) :
    (following id).toNat = id.toNat + 1 := by
  have hne : id ≠ 2 ^ 64 - 1 := by
    rintro rfl
    exact absurd h (by decide +kernel)
  have hone : (1 : PeerId).toNat = 1 := rfl
  rw [following, if_neg hne, UInt64.toNat_add, hone]
  exact Nat.mod_eq_of_lt (by omega)

namespace Protocol

variable {stream : List (RaknetServerEvent F)} {s s' : RaknetServer F}

/-- An event that is about no peer. -/
theorem aside (h : Protocol stream s) {e : RaknetServerEvent F} (he : e.peer = none) :
    Protocol (stream ++ [e]) s := by
  have hother : ∀ p, ofPeer p (stream ++ [e]) = ofPeer p stream :=
    fun p => ofPeer_emit_other (by rw [he]; exact (Option.some_ne_none p).symm)
  have hcount : e.isPeerConnected = false := by
    cases e <;> first | rfl | cases he
  refine ⟨h.inverse, fun p addr hlookup => ?_, fun p addr => ?_, fun p hlookup => ?_,
    fun p hp => ?_, ?_⟩
  · rw [hother]
    exact h.known p addr hlookup
  · rw [live_iff_ofPeer, hother, ← live_iff_ofPeer]
    exact h.live p addr
  · rw [hother]
    exact h.unknown p hlookup
  · rw [hother]
    exact h.fresh p hp
  · rw [connections_emit hcount]
    exact h.next

/-- An event of the traffic of a peer that is known. -/
theorem traffic (h : Protocol stream s) {e : RaknetServerEvent F} {peerId : PeerId}
    {addr : SocketAddr} (hknown : s.addrsByPeer.lookup peerId = some addr)
    (hpeer : e.peer = some peerId) (he : e.isTraffic = true) :
    Protocol (stream ++ [e]) s := by
  have hcount : e.isPeerConnected = false := by
    cases e <;> first | rfl | cases he
  have hother : ∀ p, p ≠ peerId → ofPeer p (stream ++ [e]) = ofPeer p stream :=
    fun p hp => ofPeer_emit_other (by rw [hpeer, Ne, Option.some.injEq]; exact hp.symm)
  refine ⟨h.inverse, fun p addr' hlookup => ?_, fun p addr' => ?_, fun p hlookup => ?_,
    fun p hp => ?_, ?_⟩
  · by_cases heq : p = peerId
    · subst heq
      rw [ofPeer_emit hpeer]
      exact (h.known p addr' hlookup).traffic he
    · rw [hother p heq]
      exact h.known p addr' hlookup
  · rw [h.live p addr']
    exact (live_traffic he).symm
  · have hne : p ≠ peerId := by
      rintro rfl
      cases hlookup.symm.trans hknown
    rw [hother p hne]
    exact h.unknown p hlookup
  · have hne : p ≠ peerId := by
      rintro rfl
      cases (h.fresh p hp).1.symm.trans hknown
    rw [hother p hne]
    exact h.fresh p hp
  · rw [connections_emit hcount]
    exact h.next

/-- A new peer gets the next id, as long as there is one behind it. -/
theorem connect (h : Protocol stream s) {addr : SocketAddr}
    (hnew : s.peersByAddr.lookup addr = none)
    (hroom : connections stream < 2 ^ 63) (clientGuid : UInt64) (shardId : Nat) :
    Protocol (stream ++ [.peerConnected s.nextPeerId addr clientGuid shardId])
      { s with
        nextPeerId := following s.nextPeerId
        peersByAddr := s.peersByAddr.insert addr ⟨s.nextPeerId, shardId⟩
        addrsByPeer := s.addrsByPeer.insert s.nextPeerId addr } := by
  obtain ⟨hfree, hunheard⟩ := h.fresh s.nextPeerId UInt64.le_rfl
  have hnext := h.next
  have hfollowing := toNat_following (show s.nextPeerId.toNat < 2 ^ 64 - 1 by omega)
  have hother : ∀ p, p ≠ s.nextPeerId →
      ofPeer p (stream ++ [.peerConnected s.nextPeerId addr clientGuid shardId])
        = ofPeer p stream :=
    fun p hp => ofPeer_emit_other (by rw [peer, Ne, Option.some.injEq]; exact hp.symm)
  refine ⟨h.inverse.insert hnew hfree, fun p addr' hlookup => ?_, fun p addr' => ?_,
    fun p hlookup => ?_, fun p hp => ?_, ?_⟩
  · dsimp only at hlookup
    rw [AssocMap.lookup_insert_eq] at hlookup
    split at hlookup
    · next heq =>
      rw [heq, ofPeer_emit rfl, hunheard]
      exact ⟨_, [], rfl, rfl, List.forall_mem_nil _⟩
    · next hne =>
      rw [hother p hne]
      exact h.known p addr' hlookup
  · rw [AssocMap.lookup_insert_eq, live_iff_ofPeer]
    split
    · next heq =>
      rw [heq, ofPeer_emit rfl, hunheard]
      simp [Live, eq_comm]
    · next hne =>
      rw [hother p hne, ← live_iff_ofPeer]
      exact h.live p addr'
  · dsimp only at hlookup
    rw [AssocMap.lookup_insert_eq] at hlookup
    split at hlookup
    · cases hlookup
    · next hne =>
      rw [hother p hne]
      exact h.unknown p hlookup
  · have hle : (following s.nextPeerId).toNat ≤ p.toNat := UInt64.le_iff_toNat_le.mp hp
    have hlt : s.nextPeerId.toNat < p.toNat := by omega
    have hne : p ≠ s.nextPeerId := by
      rintro rfl
      omega
    dsimp only
    rw [AssocMap.lookup_insert_eq, if_neg hne, hother p hne]
    exact h.fresh p (UInt64.le_iff_toNat_le.mpr (Nat.le_of_lt hlt))
  · rw [connections_emit_connected rfl]
    exact hfollowing.trans (congrArg (· + 1) h.next)

/-- A peer is removed, and told to have disconnected. -/
theorem disconnect (h : Protocol stream s) {addr : SocketAddr} {binding : PeerBinding}
    (hthere : s.peersByAddr.lookup addr = some binding) (reason : PeerDisconnectReason) :
    Protocol (stream ++ [.peerDisconnected binding.peerId addr reason])
      { s with
        peersByAddr := s.peersByAddr.erase addr
        addrsByPeer := s.addrsByPeer.erase binding.peerId } := by
  have hback : s.addrsByPeer.lookup binding.peerId = some addr :=
    (h.inverse addr binding.peerId).mp (by rw [hthere]; rfl)
  have hother : ∀ p, p ≠ binding.peerId →
      ofPeer p (stream ++ [.peerDisconnected binding.peerId addr reason]) = ofPeer p stream :=
    fun p hp => ofPeer_emit_other (by rw [peer, Ne, Option.some.injEq]; exact hp.symm)
  refine ⟨h.inverse.erase hthere, fun p addr' hlookup => ?_, fun p addr' => ?_,
    fun p hlookup => ?_, fun p hp => ?_, ?_⟩
  · dsimp only at hlookup
    rw [AssocMap.lookup_erase_eq] at hlookup
    split at hlookup
    · cases hlookup
    · next hne =>
      rw [hother p hne]
      exact h.known p addr' hlookup
  · rw [AssocMap.lookup_erase_eq]
    split
    · next heq =>
      subst heq
      refine iff_of_false (Option.some_ne_none _).symm fun hlive => ?_
      exact hlive.2 addr reason (List.mem_append_right _ (List.mem_singleton_self _))
    · next hne =>
      rw [live_iff_ofPeer, hother p hne, ← live_iff_ofPeer]
      exact h.live p addr'
  · dsimp only at hlookup
    rw [AssocMap.lookup_erase_eq] at hlookup
    split at hlookup
    · next heq =>
      rw [heq, ofPeer_emit rfl]
      exact .inr ⟨_, _, rfl, h.known _ addr hback, rfl⟩
    · next hne =>
      rw [hother p hne]
      exact h.unknown p hlookup
  · obtain ⟨hfree, hunheard⟩ := h.fresh p hp
    have hne : p ≠ binding.peerId := by
      rintro rfl
      cases hfree.symm.trans hback
    dsimp only
    rw [AssocMap.lookup_erase_eq, if_neg hne, hother p hne]
    exact ⟨hfree, hunheard⟩
  · rw [connections_emit rfl]
    exact h.next

/-- The peer is served by another shard. -/
theorem rebind (h : Protocol stream s) {addr : SocketAddr} {binding : PeerBinding}
    (hthere : s.peersByAddr.lookup addr = some binding) (shardId : Nat) :
    Protocol stream
      { s with peersByAddr := s.peersByAddr.insert addr { binding with shardId } } :=
  ⟨h.inverse.replace hthere rfl, h.known, h.live, h.unknown, h.fresh, h.next⟩

end Protocol

/-! ## The calls -/

theorem removePeer_none {s : RaknetServer F} {addr : SocketAddr}
    (h : s.peersByAddr.lookup addr = none) : s.removePeer addr = (none, s) := by
  unfold removePeer
  rw [h]

theorem removePeer_some {s : RaknetServer F} {addr : SocketAddr} {binding : PeerBinding}
    (h : s.peersByAddr.lookup addr = some binding) :
    s.removePeer addr = (some binding.peerId,
      { s with
        peersByAddr := s.peersByAddr.erase addr
        addrsByPeer := s.addrsByPeer.erase binding.peerId }) := by
  unfold removePeer
  rw [h]

theorem shardPeer_some {s : RaknetServer F} {shardId : Nat} {addr : SocketAddr}
    {peer : SocketAddr × PeerId} (h : s.shardPeer shardId addr = some peer) :
    ∃ binding, s.peersByAddr.lookup addr = some binding ∧ peer = (addr, binding.peerId) := by
  unfold shardPeer at h
  cases hlookup : s.peersByAddr.lookup addr with
  | none =>
    rw [hlookup] at h
    cases h
  | some binding =>
    rw [hlookup] at h
    obtain ⟨-, heq⟩ := Option.ite_none_right_eq_some.mp h
    exact ⟨binding, rfl, (Option.some.inj heq).symm⟩

theorem shardPeers_there (s : RaknetServer F) (order : IterationOrder SocketAddr) (shardId : Nat) :
    ∀ peer ∈ s.shardPeers order shardId, ∃ binding,
      s.peersByAddr.lookup peer.1 = some binding ∧ binding.peerId = peer.2 := by
  intro peer hpeer
  obtain ⟨addr, -, hpeer⟩ := List.mem_filterMap.mp hpeer
  obtain ⟨binding, hlookup, rfl⟩ := shardPeer_some hpeer
  exact ⟨binding, hlookup, rfl⟩

theorem shardPeers_distinct (s : RaknetServer F) (order : IterationOrder SocketAddr)
    (shardId : Nat) : ((s.shardPeers order shardId).map Prod.fst).Nodup := by
  have hkeys : (order.arrange s.peersByAddr.keys).Nodup :=
    (order.perm _).nodup_iff.mpr s.peersByAddr.keys_nodup
  rw [shardPeers, List.map_filterMap]
  refine hkeys.filterMap fun a a' b hb hb' => ?_
  have hkey : ∀ {a : SocketAddr}, b ∈ (s.shardPeer shardId a).map Prod.fst → b = a := by
    intro a hb
    obtain ⟨peer, hpeer, rfl⟩ := Option.mem_map.mp hb
    obtain ⟨binding, -, rfl⟩ := shardPeer_some hpeer
    rfl
  exact (hkey hb).symm.trans (hkey hb')

/-- What was taken out of the queue and what is still in it. -/
def Follows (taken : List (RaknetServerEvent F)) (s : RaknetServer F) : Prop :=
  Protocol (taken ++ s.pendingEvents) s

namespace Follows

variable {taken : List (RaknetServerEvent F)} {s s' : RaknetServer F}

theorem emit (e : RaknetServerEvent F)
    (h : Protocol (taken ++ s.pendingEvents ++ [e]) s) : Follows taken (s.emit e) := by
  have hstream : taken ++ (s.emit e).pendingEvents = taken ++ s.pendingEvents ++ [e] :=
    (List.append_assoc _ _ _).symm
  rw [Follows, hstream]
  exact ⟨h.inverse, h.known, h.live, h.unknown, h.fresh, h.next⟩

theorem aside (h : Follows taken s) {e : RaknetServerEvent F} (he : e.peer = none) :
    Follows taken (s.emit e) :=
  emit e (Protocol.aside h he)

/-- The packets and the receipts of an event. -/
theorem traffic {α : Type} {f : α → RaknetServerEvent F} {peerId : PeerId} {addr : SocketAddr}
    (hpeer : ∀ x, (f x).peer = some peerId) (htraffic : ∀ x, (f x).isTraffic = true)
    (xs : List α) (h : Follows taken s) (hknown : s.addrsByPeer.lookup peerId = some addr) :
    Follows taken (xs.foldl (fun s x => s.emit (f x)) s) ∧
      (xs.foldl (fun s x => s.emit (f x)) s).addrsByPeer.lookup peerId = some addr := by
  induction xs generalizing s with
  | nil => exact ⟨h, hknown⟩
  | cons x xs ih =>
    exact ih (emit _ (Protocol.traffic h hknown (hpeer x) (htraffic x))) hknown

theorem removed (h : Follows taken s) {addr : SocketAddr} {binding : PeerBinding}
    (hthere : s.peersByAddr.lookup addr = some binding) (reason : PeerDisconnectReason) :
    Follows taken ((s.removePeer addr).2.emit (.peerDisconnected binding.peerId addr reason)) := by
  rw [removePeer_some hthere]
  exact emit _ (Protocol.disconnect h hthere reason)

theorem enqueueConnectedFrames (h : Follows taken s)
    (hroom : connections (taken ++ s.pendingEvents) < 2 ^ 63) (shardId : Nat) (addr : SocketAddr)
    (clientGuid : Option UInt64) (frames : List ConnectedFrameDelivery)
    (receipts : ReceiptProgress) :
    Follows taken (s.enqueueConnectedFrames shardId addr clientGuid frames receipts) := by
  have htraffic : ∀ {m : RaknetServer F} {peerId : PeerId}, Follows taken m →
      m.addrsByPeer.lookup peerId = some addr →
      Follows taken (receipts.ackedReceiptIds.foldl
        (fun s receiptId => s.emit (.receiptAcked peerId addr receiptId))
        (frames.foldl (fun s frame => s.emit (.packet peerId addr frame)) m)) := by
    intro m peerId hm hknown
    obtain ⟨hpackets, hstill⟩ := traffic (f := fun frame => .packet peerId addr frame)
      (fun _ => rfl) (fun _ => rfl) frames hm hknown
    exact (traffic (f := fun receiptId => .receiptAcked peerId addr receiptId)
      (fun _ => rfl) (fun _ => rfl) receipts.ackedReceiptIds hpackets hstill).1
  unfold RaknetServer.enqueueConnectedFrames ensurePeer
  cases hlookup : s.peersByAddr.lookup addr with
  | some binding =>
    have hknown : s.addrsByPeer.lookup binding.peerId = some addr :=
      (h.inverse addr binding.peerId).mp (by rw [hlookup]; rfl)
    dsimp only
    rw [if_neg Bool.false_ne_true]
    split
    · exact htraffic (Protocol.rebind h hlookup shardId) hknown
    · exact htraffic h hknown
  | none =>
    exact htraffic (emit _ (Protocol.connect h hlookup hroom _ shardId)) (AList.lookup_insert _)

theorem enqueueTransportEvent (h : Follows taken s)
    (hroom : connections (taken ++ s.pendingEvents) < 2 ^ 63) (shardId : Nat)
    (event : TransportEvent) : Follows taken (s.enqueueTransportEvent shardId event) := by
  cases event with
  | peerDisconnected addr reason =>
    unfold RaknetServer.enqueueTransportEvent
    cases hlookup : s.peersByAddr.lookup addr with
    | none =>
      dsimp only
      rw [removePeer_none hlookup]
      exact h
    | some binding =>
      have hremoved := h.removed hlookup (disconnectReason reason)
      rw [removePeer_some hlookup] at hremoved
      dsimp only
      rw [removePeer_some hlookup]
      exact hremoved
  | connectedFrames addr clientGuid frames receipts =>
    unfold RaknetServer.enqueueTransportEvent
    dsimp only
    split
    · exact h
    · exact h.enqueueConnectedFrames hroom shardId addr clientGuid frames receipts
  | connectedDatagramDroppedNoSession addr => exact h
  | rateLimited | sessionLimitReached | proxyDropped | decodeError | offlinePacket =>
    exact h.aside rfl

/-- Peers at different addresses are removed one after another. -/
theorem removedAll (reason : PeerDisconnectReason) (peers : List (SocketAddr × PeerId))
    (h : Follows taken s) (hdistinct : (peers.map Prod.fst).Nodup)
    (hthere : ∀ peer ∈ peers, ∃ binding, s.peersByAddr.lookup peer.1 = some binding ∧
      binding.peerId = peer.2) :
    Follows taken (peers.foldl (fun s peer => (s.removePeer peer.1).2.emit
      (.peerDisconnected peer.2 peer.1 reason)) s) := by
  induction peers generalizing s with
  | nil => exact h
  | cons peer peers ih =>
    obtain ⟨addr, peerId⟩ := peer
    obtain ⟨binding, hlookup, rfl⟩ := hthere _ List.mem_cons_self
    obtain ⟨hother, hrest⟩ := List.nodup_cons.mp hdistinct
    refine ih (h.removed hlookup reason) hrest fun peer hpeer => ?_
    have hne : peer.1 ≠ addr := by
      rintro rfl
      exact hother (List.mem_map.mpr ⟨peer, hpeer, rfl⟩)
    dsimp only at hlookup ⊢
    rw [removePeer_some hlookup, RaknetServer.emit]
    dsimp only
    rw [AssocMap.lookup_erase_eq, if_neg hne]
    exact hthere peer (List.mem_cons_of_mem _ hpeer)

theorem workerStopped (h : Follows taken s) (order : IterationOrder SocketAddr) (shardId : Nat) :
    Follows taken (s.enqueueRuntimeEvent order (.workerStopped shardId)) := by
  have hthere := s.shardPeers_there order shardId
  have hdistinct := s.shardPeers_distinct order shardId
  exact (h.removedAll (.workerStopped shardId) _ hdistinct hthere).aside rfl

theorem disconnect (h : Follows taken s) (peerId : PeerId) (accepted : Bool) :
    Follows taken (s.disconnect peerId accepted).2 := by
  unfold RaknetServer.disconnect resolvePeerRoute
  cases hlookup : s.addrsByPeer.lookup peerId with
  | none => exact h
  | some addr =>
    obtain ⟨binding, hthere, rfl⟩ :=
      Option.map_eq_some_iff.mp ((h.inverse addr peerId).mpr hlookup)
    dsimp only
    rw [hthere]
    dsimp only
    split
    · exact h.removed hthere .requested
    · exact h

theorem enqueueRuntimeEvent (h : Follows taken s)
    (hroom : connections (taken ++ s.pendingEvents) < 2 ^ 63) (order : IterationOrder SocketAddr)
    (event : ShardedRuntimeEvent F) : Follows taken (s.enqueueRuntimeEvent order event) := by
  cases event with
  | transport shardId event => exact h.enqueueTransportEvent hroom shardId event
  | workerStopped shardId => exact h.workerStopped order shardId
  | metrics | workerError => exact h.aside rfl

end Follows

/-! ## Runs -/

theorem emit_extends (s : RaknetServer F) (e : RaknetServerEvent F) :
    s.pendingEvents <+: (s.emit e).pendingEvents :=
  List.prefix_append _ [e]

theorem foldl_extends {α : Type} {f : RaknetServer F → α → RaknetServer F}
    (h : ∀ s x, s.pendingEvents <+: (f s x).pendingEvents) (xs : List α) (s : RaknetServer F) :
    s.pendingEvents <+: (xs.foldl f s).pendingEvents := by
  induction xs generalizing s with
  | nil => exact List.prefix_rfl
  | cons x xs ih => exact (h s x).trans (ih (f s x))

theorem removePeer_pending (s : RaknetServer F) (addr : SocketAddr) :
    (s.removePeer addr).2.pendingEvents = s.pendingEvents := by
  unfold removePeer
  split <;> rfl

theorem ensurePeer_pending (s : RaknetServer F) (addr : SocketAddr) (shardId : Nat) :
    (s.ensurePeer addr shardId).2.pendingEvents = s.pendingEvents := by
  unfold ensurePeer
  split
  · dsimp only
    split <;> rfl
  · rfl

theorem enqueueConnectedFrames_extends (s : RaknetServer F) (shardId : Nat) (addr : SocketAddr)
    (clientGuid : Option UInt64) (frames : List ConnectedFrameDelivery)
    (receipts : ReceiptProgress) :
    s.pendingEvents <+:
      (s.enqueueConnectedFrames shardId addr clientGuid frames receipts).pendingEvents := by
  have hsame := s.ensurePeer_pending addr shardId
  unfold enqueueConnectedFrames
  generalize s.ensurePeer addr shardId = r at hsame ⊢
  obtain ⟨⟨peerId, isNew⟩, m⟩ := r
  dsimp only at hsame ⊢
  rw [← hsame]
  have htold : m.pendingEvents <+:
      (if isNew then m.emit (.peerConnected peerId addr (clientGuid.getD peerId) shardId)
        else m).pendingEvents := by
    split
    · exact m.emit_extends _
    · exact List.prefix_rfl
  exact htold
    |>.trans (foldl_extends (fun s _ => s.emit_extends _) frames _)
    |>.trans (foldl_extends (fun s _ => s.emit_extends _) receipts.ackedReceiptIds _)

/-- The queue only gets longer at its end, but for the calls that take its front. -/
theorem enqueueRuntimeEvent_extends (s : RaknetServer F) (order : IterationOrder SocketAddr)
    (event : ShardedRuntimeEvent F) :
    s.pendingEvents <+: (s.enqueueRuntimeEvent order event).pendingEvents := by
  have hremoved : ∀ (s : RaknetServer F) (addr : SocketAddr) (e : RaknetServerEvent F),
      s.pendingEvents <+: ((s.removePeer addr).2.emit e).pendingEvents := by
    intro s addr e
    rw [← s.removePeer_pending addr]
    exact emit_extends _ e
  cases event with
  | transport shardId event =>
    cases event with
    | peerDisconnected addr reason =>
      show s.pendingEvents <+: (s.enqueueTransportEvent shardId _).pendingEvents
      unfold enqueueTransportEvent
      cases hlookup : s.peersByAddr.lookup addr with
      | none =>
        dsimp only
        rw [removePeer_none hlookup]
      | some binding =>
        have hgrown := hremoved s addr (.peerDisconnected binding.peerId addr
          (disconnectReason reason))
        dsimp only
        rw [removePeer_some hlookup] at hgrown ⊢
        exact hgrown
    | connectedFrames addr clientGuid frames receipts =>
      show s.pendingEvents <+: (s.enqueueTransportEvent shardId _).pendingEvents
      unfold enqueueTransportEvent
      dsimp only
      split
      · exact List.prefix_rfl
      · exact s.enqueueConnectedFrames_extends shardId addr clientGuid frames receipts
    | connectedDatagramDroppedNoSession => exact List.prefix_rfl
    | rateLimited | sessionLimitReached | proxyDropped | decodeError | offlinePacket =>
      exact s.emit_extends _
  | workerStopped shardId =>
    exact (foldl_extends (fun s peer => hremoved s peer.1 _) (s.shardPeers order shardId) s).trans
      (emit_extends _ _)
  | metrics | workerError => exact s.emit_extends _

theorem disconnect_extends (s : RaknetServer F) (peerId : PeerId) (accepted : Bool) :
    s.pendingEvents <+: (s.disconnect peerId accepted).2.pendingEvents := by
  unfold disconnect
  split
  · exact List.prefix_rfl
  · split
    · dsimp only
      rw [← s.removePeer_pending _]
      exact emit_extends _ _
    · exact List.prefix_rfl

/-- All that was told, with what one call takes out and adds. -/
theorem step_stream (s : RaknetServer F) (op : RaknetServerOp F) :
    s.pendingEvents <+: (s.step op).2.toList ++ (s.step op).1.pendingEvents := by
  cases op with
  | enqueueRuntimeEvent order event => exact s.enqueueRuntimeEvent_extends order event
  | disconnect peerId accepted => exact s.disconnect_extends peerId accepted
  | popEvent =>
    unfold step popEvent
    cases s.pendingEvents with
    | nil => exact List.nil_prefix
    | cons event rest => exact List.prefix_rfl

theorem Follows.step {taken : List (RaknetServerEvent F)} {s : RaknetServer F}
    (h : Follows taken s) (hroom : connections (taken ++ s.pendingEvents) < 2 ^ 63)
    (op : RaknetServerOp F) : Follows (taken ++ (s.step op).2.toList) (s.step op).1 := by
  cases op with
  | enqueueRuntimeEvent order event =>
    rw [RaknetServer.step, Option.toList_none, List.append_nil]
    exact h.enqueueRuntimeEvent hroom order event
  | disconnect peerId accepted =>
    rw [RaknetServer.step, Option.toList_none, List.append_nil]
    exact h.disconnect peerId accepted
  | popEvent =>
    unfold RaknetServer.step RaknetServer.popEvent
    cases hpending : s.pendingEvents with
    | nil =>
      dsimp only
      rw [Option.toList_none, List.append_nil]
      exact h
    | cons event rest =>
      rw [Follows, hpending, ← List.singleton_append, ← List.append_assoc] at h
      exact ⟨h.inverse, h.known, h.live, h.unknown, h.fresh, h.next⟩

/-- Everything that was told in a run: what was taken out, and what waits. -/
def told (ops : List (RaknetServerOp F)) : List (RaknetServerEvent F) :=
  ((raknetServerMachine F).outputs started ops).reduceOption ++
    ((raknetServerMachine F).exec started ops).pendingEvents

theorem follows_started : Follows [] (started : RaknetServer F) := by
  refine ⟨.empty _, fun p addr hlookup => ?_, fun p addr => ?_, fun _ _ => .inl rfl,
    fun _ _ => ⟨rfl, rfl⟩, rfl⟩
  · cases hlookup
  · exact iff_of_false (Option.some_ne_none _).symm fun hlive => by simp [Live, started] at hlive

/-- With fewer than `2 ^ 63` peers, the maps stay inverse to each other, and what is told of a
    peer id is nothing, or first that it is connected and then its traffic, with at most one
    disconnection at the end. -/
theorem peer_events_in_order (ops : List (RaknetServerOp F))
    (hfew : connections (told ops) < 2 ^ 63) :
    AssocMap.Inverse PeerBinding.peerId ((raknetServerMachine F).exec started ops).peersByAddr
      ((raknetServerMachine F).exec started ops).addrsByPeer ∧
    ∀ peerId, ofPeer peerId (told ops) = [] ∨ Open (ofPeer peerId (told ops)) ∨
      Done (ofPeer peerId (told ops)) := by
  have hprotocol : Protocol (told ops) ((raknetServerMachine F).exec started ops) := by
    refine (raknetServerMachine F).run_invariant
      (P := fun _ os s => connections (os.reduceOption ++ s.pendingEvents) < 2 ^ 63 →
        Follows os.reduceOption s)
      (fun _ => follows_started) (fun _ os s op hs hroom => ?_) ops hfew
    have hall : (os ++ [(s.step op).2]).reduceOption = os.reduceOption ++ (s.step op).2.toList := by
      rw [List.reduceOption_append, List.reduceOption_singleton]
    rw [raknetServerMachine, hall] at hroom ⊢
    -- fewer peers were connected before the call
    have hbefore : connections (os.reduceOption ++ s.pendingEvents) < 2 ^ 63 := by
      rw [List.append_assoc] at hroom
      have hmore := (List.prefix_append_right_inj os.reduceOption).mpr (s.step_stream op)
      exact Nat.lt_of_le_of_lt (hmore.sublist.countP_le) hroom
    exact (hs hbefore).step hbefore op
  refine ⟨hprotocol.inverse, fun peerId => ?_⟩
  cases hlookup : ((raknetServerMachine F).exec started ops).addrsByPeer.lookup peerId with
  | some addr => exact .inr (.inl (hprotocol.known peerId addr hlookup))
  | none =>
    rcases hprotocol.unknown peerId hlookup with hnone | hdone
    · exact .inl hnone
    · exact .inr (.inr hdone)

/-- A peer connects, is disconnected by a call, and connects again from the same address. -/
def reconnectingRun : List (RaknetServerOp ℚ) :=
  [.enqueueRuntimeEvent .identity
      (.transport 0 (.connectedFrames TransportServer.clientAddr (some 99) [] ⟨0, 0, []⟩)),
    .popEvent, .disconnect 1 true,
    .enqueueRuntimeEvent .identity
      (.transport 0 (.connectedFrames TransportServer.clientAddr (some 99) [] ⟨1, 0, [7]⟩)),
    .enqueueRuntimeEvent .identity (.workerStopped 0)]

theorem peer_events_in_order_reconnecting :
    (told reconnectingRun).map peer = [some 1, some 1, some 2, some 2, some 2, none] ∧
    AssocMap.Inverse PeerBinding.peerId
      ((raknetServerMachine ℚ).exec started reconnectingRun).peersByAddr
      ((raknetServerMachine ℚ).exec started reconnectingRun).addrsByPeer ∧
    ∀ peerId, ofPeer peerId (told reconnectingRun) = [] ∨
      Open (ofPeer peerId (told reconnectingRun)) ∨ Done (ofPeer peerId (told reconnectingRun)) :=
  ⟨by decide +kernel, peer_events_in_order reconnectingRun (by decide +kernel)⟩

end RaknetServer

end Raknet
