-- SUMMARY: When the pending handshakes and the sessions of a server agree.
import Raknet.Transport.CookieGate

/-!
# Handshakes and sessions

A pending handshake and a session that is not `Connected` yet should come and go
together. They part when a call that makes a session `Connected` is cut short by
an error: it returns before the handshake is removed, and the handshake takes the
connected session with it when it runs out of time. Nothing else parts them.
-/

namespace Raknet

open Decoder

variable {F H : Type}

namespace TransportServer

/-- The addresses with a handshake are those with a session that is not `Connected`. -/
def HandshakesAgree (s : TransportServer F H) : Prop :=
  ∀ a, (s.pendingHandshakes.lookup a).isSome = true ↔
    ∃ session, s.sessions.lookup a = some session ∧ session.state ≠ .connected

/-- The same for one peer. -/
def PeerAgrees (v : Option SessionState × Option PendingHandshake) : Prop :=
  v.2.isSome = true ↔ ∃ st, v.1 = some st ∧ st ≠ .connected

theorem handshakesAgree_iff {s : TransportServer F H} :
    s.HandshakesAgree ↔ ∀ a, PeerAgrees (s.peer a) := by
  unfold HandshakesAgree PeerAgrees peer peerOf
  refine forall_congr' fun a => ?_
  cases s.sessions.lookup a <;> simp

theorem peerAgrees_none : PeerAgrees (none, none) := by
  constructor
  · exact nofun
  · rintro ⟨_, ⟨⟩, _⟩

theorem peerAgrees_some {st : SessionState} (hst : st ≠ .connected) (pending : PendingHandshake) :
    PeerAgrees (some st, some pending) :=
  ⟨fun _ => ⟨st, rfl, hst⟩, fun _ => rfl⟩

theorem peerAgrees_iff {st : SessionState} {pending : Option PendingHandshake} :
    PeerAgrees (some st, pending) ↔ (pending.isSome = true ↔ st ≠ .connected) := by
  simp [PeerAgrees]

/-! ## Steps and runs -/

/-- A datagram keeps the agreement if its call completes. -/
theorem DatagramChange.agrees {st : SessionState} {pending : Option PendingHandshake}
    {completes : Prop} {v : Option SessionState × Option PendingHandshake}
    (h : DatagramChange st pending completes v) (hcompletes : completes)
    (hagrees : PeerAgrees (some st, pending)) : PeerAgrees v := by
  cases h with
  | closed _ => exact peerAgrees_none
  | @finished st' hmoves _ =>
    rw [peerAgrees_iff] at hagrees ⊢
    by_cases hst' : st' = .connected
    · simp [hst']
    · rw [if_neg hst', hagrees]
      exact iff_of_true (fun hst => hst' (hmoves.connected hst)) hst'
  | @cutShort st' hmoves hcut =>
    rw [peerAgrees_iff] at hagrees ⊢
    rw [hagrees]
    have hnot := hcut.mp hcompletes
    exact ⟨fun hst hst' => hnot ⟨hst, hst'⟩, fun hst' hst => hst' (hmoves.connected hst)⟩

variable [F64 F] [MinHeap H QueuedFrame QueuedFrame.weight]

theorem agrees_step {s : TransportServer F H} (hs : s.NoOrphans) (hagree : s.HandshakesAgree)
    {op : TransportOp} (hcompletes : s.completesConnection op = true) :
    (s.step op).1.HandshakesAgree := by
  rw [handshakesAgree_iff] at hagree ⊢
  intro a
  have hstep := step_peer hs op a
  generalize (s.step op).1.peer a = v at hstep ⊢
  cases hstep with
  | kept => exact hagree a
  | closed => exact peerAgrees_none
  | opened _ => exact peerAgrees_some (by decide) _
  | accepted _ _ _ => exact peerAgrees_some (by decide) _
  | received hpeer hchange =>
    have hbefore := hagree a
    rw [hpeer] at hbefore
    exact hchange.agrees hcompletes hbefore

/-- A datagram whose call is cut short leaves a handshake beside a connected session. -/
theorem DatagramChange.parts {st : SessionState} {pending : Option PendingHandshake}
    {completes : Prop} {v : Option SessionState × Option PendingHandshake}
    (h : DatagramChange st pending completes v) (hcut : ¬completes)
    (hagrees : PeerAgrees (some st, pending)) : ¬PeerAgrees v := by
  cases h with
  | closed hcompletes | finished _ hcompletes => exact absurd hcompletes hcut
  | cutShort _ hiff =>
    obtain ⟨hst, rfl⟩ := not_not.mp fun h => hcut (hiff.mpr h)
    rw [peerAgrees_iff] at hagrees ⊢
    intro hafter
    exact hafter.mp (hagrees.mpr hst) rfl

/-- Only a datagram that gets to its session can be cut short. -/
theorem admitted_of_cutShort {s : TransportServer F H} {op : TransportOp}
    (hcut : s.completesConnection op = false) :
    ∃ env bytes observedAddr addr datagram m, op = .recvAndProcess env bytes observedAddr ∧
      s.admitted env bytes observedAddr = some (addr, datagram, m) := by
  cases op with
  | recvAndProcess env bytes observedAddr =>
    rw [completesConnection] at hcut
    cases htriage : s.triage env bytes observedAddr with
    | answered r m | offline addr packet m =>
      rw [htriage] at hcut
      cases hcut
    | connected addr datagram m =>
      rw [htriage] at hcut
      obtain ⟨hreaches, -⟩ := Bool.or_eq_false_iff.mp hcut
      rw [Bool.not_eq_false'] at hreaches
      refine ⟨env, bytes, observedAddr, addr, datagram, ?server, rfl, ?admitted⟩
      case admitted =>
        rw [admitted, htriage]
        exact if_pos hreaches
  | _ => cases hcut

theorem parts_step {s : TransportServer F H} (hagree : s.HandshakesAgree) {op : TransportOp}
    (hcut : s.completesConnection op = false) : ¬(s.step op).1.HandshakesAgree := by
  obtain ⟨env, bytes, observedAddr, addr, datagram, m, rfl, hadmitted⟩ :=
    admitted_of_cutShort hcut
  rw [completesConnection_of_admitted hadmitted] at hcut
  obtain ⟨session, hlookup⟩ := lookup_of_admitted hadmitted
  obtain ⟨v, hsets, hchange⟩ := (m.processDatagram_outcome env addr datagram).sets hlookup
  have hkeeps : Keeps s m := (upkeep_of_admitted hadmitted).keeps
  have hbefore := handshakesAgree_iff.mp hagree addr
  rw [hkeeps.peer_of_some (peer_of_lookup hlookup)] at hbefore
  have hparts := hchange.parts (fun h => Bool.false_ne_true (hcut.symm.trans h)) hbefore
  intro hafter
  have hpeer := handshakesAgree_iff.mp hafter addr
  rw [step, recvAndProcess_of_admitted hadmitted] at hpeer
  dsimp only at hpeer
  rw [hsets.peer, if_pos rfl] at hpeer
  exact hparts hpeer

/-- Along a run from an agreeing server, the agreement lasts exactly as long as
    the calls complete. -/
theorem agrees_iff_completes {s₀ : TransportServer F H} (h₀ : s₀.NoOrphans)
    (hagree : s₀.HandshakesAgree) (ops : List TransportOp) :
    (∀ pre, pre <+: ops → ((transportMachine F H).exec s₀ pre).HandshakesAgree) ↔
      (transportMachine F H).AllSteps (fun s op => s.completesConnection op = true) s₀ ops := by
  refine (transportMachine F H).forall_prefix_iff_allSteps (I := NoOrphans)
    (fun _ op hs => noOrphans_step hs op) (fun s op hs hagree => ⟨fun hstep => ?_, ?_⟩)
    h₀ hagree ops
  · by_contra hcut
    exact parts_step hagree (Bool.eq_false_iff.mpr hcut) hstep
  · exact agrees_step hs hagree

/-! ## Pruning -/

/-- `prune_pending_handshakes` leaves the connected sessions alone, and every
    session that is not `Connected` is left with a handshake that has time. -/
def PrunesHalfOpen (s : TransportServer F H) (env : Env) : Prop :=
  ∀ a, (s.isConnected a = true → (s.prunePendingHandshakes env).isConnected a = true) ∧
    ∀ session, (s.prunePendingHandshakes env).sessions.lookup a = some session →
      session.state ≠ .connected →
      ∃ pending, (s.prunePendingHandshakes env).pendingHandshakes.lookup a = some pending ∧
        env.now < pending.expiresAt

omit [F64 F] [MinHeap H QueuedFrame QueuedFrame.weight] in
theorem prune_peer (s : TransportServer F H) (env : Env) (a : SocketAddr) :
    (∃ pending, s.pendingHandshakes.lookup a = some pending ∧ pending.expiresAt ≤ env.now ∧
        (s.prunePendingHandshakes env).peer a = (none, none)) ∨
      ((∀ pending, s.pendingHandshakes.lookup a = some pending → env.now < pending.expiresAt) ∧
        (s.prunePendingHandshakes env).peer a = s.peer a) := by
  have hpeer := (s.prunePendingHandshakes_closes env).peer a
  by_cases hmem : a ∈ (s.expiredHandshakes env).map Prod.fst
  · rw [if_pos hmem] at hpeer
    obtain ⟨pending, hlookup, hexpired⟩ := mem_expiredHandshakes.mp hmem
    exact .inl ⟨pending, hlookup, hexpired, hpeer⟩
  · rw [if_neg hmem] at hpeer
    refine .inr ⟨fun pending hlookup => ?_, hpeer⟩
    by_contra hexpired
    exact hmem (mem_expiredHandshakes.mpr ⟨pending, hlookup, Nat.le_of_not_lt hexpired⟩)

omit [F64 F] [MinHeap H QueuedFrame QueuedFrame.weight] in
theorem HandshakesAgree.prunesHalfOpen {s : TransportServer F H} (h : s.HandshakesAgree)
    (env : Env) : s.PrunesHalfOpen env := by
  intro a
  have hagrees := handshakesAgree_iff.mp h a
  constructor
  · intro hconnected
    rw [isConnected_iff] at hconnected ⊢
    rcases s.prune_peer env a with ⟨pending, hlookup, -, -⟩ | ⟨-, hpeer⟩
    · -- the handshake that is out of time would belong to a session that is not connected
      obtain ⟨st, hst, hopen⟩ := hagrees.mp (by rw [peer, peerOf, hlookup]; rfl)
      rw [hconnected] at hst
      exact absurd (Option.some.inj hst).symm hopen
    · rw [hpeer]
      exact hconnected
  · intro session hsession hopen
    have hafter := peer_of_lookup hsession
    rcases s.prune_peer env a with ⟨_, -, -, hpeer⟩ | ⟨htime, hpeer⟩
    · rw [hpeer] at hafter
      cases hafter
    · rw [hpeer] at hafter
      rw [hafter, peerAgrees_iff] at hagrees
      obtain ⟨pending, hpending⟩ := Option.isSome_iff_exists.mp (hagrees.mpr hopen)
      refine ⟨pending, hpending, htime pending ?_⟩
      rw [hpending] at hafter
      exact congrArg Prod.snd hafter

/-- The handshakes and the sessions agree between all calls of a run exactly if
    every call that makes a session `Connected` gets to its end; pruning is then
    right whenever it happens. -/
theorem handshakes_agree (config : TransportConfig F) (socketAddr : Option SocketAddr)
    (hmacSha256 : CookieKey → Bytes → Octets 32) (key : CookieKey) (now : Instant)
    (ops : List TransportOp) :
    ((∀ pre, pre <+: ops → HandshakesAgree ((transportMachine F H).exec
        (withSocket config socketAddr hmacSha256 key now) pre)) ↔
      (transportMachine F H).AllSteps (fun s op => s.completesConnection op = true)
        (withSocket config socketAddr hmacSha256 key now) ops) ∧
    ((transportMachine F H).AllSteps (fun s op => s.completesConnection op = true)
        (withSocket config socketAddr hmacSha256 key now) ops →
      ∀ env, PrunesHalfOpen ((transportMachine F H).exec
        (withSocket config socketAddr hmacSha256 key now) ops) env) := by
  have hempty : (withSocket config socketAddr hmacSha256 key now :
      TransportServer F H).HandshakesAgree := handshakesAgree_iff.mpr fun _ => peerAgrees_none
  have hiff := agrees_iff_completes (fun _ _ => rfl) hempty ops
  exact ⟨hiff, fun hall env => (hiff.mpr hall ops List.prefix_rfl).prunesHalfOpen env⟩

/-- The last packet of a handshake. -/
def newIncomingConnection : Bytes :=
  encodedBytes (ConnectedControlPacket.newIncomingConnection
    { serverAddr
      internalAddrs := buildInternalAddrs serverAddr
      requestTime := 1
      acceptedTime := 2 }).encode

/-- A handshake that is completed by a datagram of its own. -/
theorem handshakes_agree_handshake :
    HandshakesAgree (concreteTransport.exec keyedServer
      (handshakeRun ++ [fromClient 4 (dataBytes 1 1 [newIncomingConnection])])) := by
  have h := handshakes_agree (H := SortedHeap QueuedFrame QueuedFrame.weight)
    (.standard : TransportConfig ℚ) none (fun key _ => key) firstKey 0
    (handshakeRun ++ [fromClient 4 (dataBytes 1 1 [newIncomingConnection])])
  exact h.1.mpr (by decide +kernel) _ List.prefix_rfl

/-- A handshake whose last packet shares its datagram with a frame that does not
    decode. -/
def cutShortRun : List TransportOp :=
  handshakeRun ++ [fromClient 4 (dataBytes 1 1 [newIncomingConnection, [0x00]])]

/-- The session is `Connected` and still has its handshake, which closes it when
    it is out of time. -/
theorem cut_short_handshake_parts :
    ¬HandshakesAgree (concreteTransport.exec keyedServer cutShortRun) ∧
      (concreteTransport.exec keyedServer cutShortRun).isConnected clientAddr = true ∧
      ((concreteTransport.exec keyedServer cutShortRun).prunePendingHandshakes
        (quietEnv 10000000002)).isConnected clientAddr = false := by
  have hconnected :
      (concreteTransport.exec keyedServer cutShortRun).isConnected clientAddr = true := by
    decide +kernel
  have hpending : ((concreteTransport.exec keyedServer cutShortRun).pendingHandshakes.lookup
      clientAddr).isSome = true := by decide +kernel
  refine ⟨fun hagree => ?_, hconnected, by decide +kernel⟩
  obtain ⟨session, hlookup, hopen⟩ := (hagree clientAddr).mp hpending
  rw [isConnected_iff, peer_of_lookup hlookup] at hconnected
  exact hopen (Option.some.inj hconnected)

end TransportServer

end Raknet
