-- SUMMARY: All that one operation of the server can do to the peer of an address.
import Raknet.Transport.Steps

/-!
# The steps of a peer

`step_peer` combines the housekeeping with what a packet does into the inversion
of a step: every operation keeps a peer, removes it, opens it, moves it past the
second request, or lets a datagram of its address move it.
-/

namespace Raknet

variable {F H : Type}

namespace TransportServer

/-- A peer that is there after the housekeeping was there before. -/
theorem Keeps.peer_of_some {s m : TransportServer F H} (h : Keeps s m) {a : SocketAddr}
    {st : SessionState} {pending : Option PendingHandshake} (hpeer : m.peer a = (some st, pending)) :
    s.peer a = (some st, pending) := by
  rcases h.peer a with hkept | hclosed
  · rw [← hkept, hpeer]
  · rw [hclosed] at hpeer
    cases hpeer

theorem verifyCookie_key {s : TransportServer F H} {addr : SocketAddr} {cookie : Option UInt32}
    (h : s.verifyCookie addr cookie = true) :
    ∃ key, (key = s.cookieKeyCurrent ∨ s.cookieKeyPrevious = some key) ∧
      cookie = some (s.computeCookieForKey addr key) := by
  unfold verifyCookie at h
  split at h
  · cases h
  · next cookie =>
    rcases Bool.or_eq_true _ _ ▸ h with hcurrent | hprevious
    · exact ⟨_, .inl rfl, congrArg some (eq_of_beq hcurrent).symm⟩
    · split at hprevious
      · next key hkey => exact ⟨key, .inr hkey, congrArg some (eq_of_beq hprevious).symm⟩
      · cases hprevious

variable [F64 F] [MinHeap H QueuedFrame QueuedFrame.weight]

/-- A first request for the address is answered with a first reply. -/
def OpensSession (s : TransportServer F H) (op : TransportOp) (a : SocketAddr) : Prop :=
  ∃ env bytes observedAddr packet m, op = .recvAndProcess env bytes observedAddr ∧
    s.triage env bytes observedAddr = .offline a packet m ∧
    Opens packet (m.handleOfflinePacket env a packet).reply

/-- A second request for the address carries the cookie of the address under one
    of the two keys, before its handshake runs out of time. -/
def VerifiesCookie (s : TransportServer F H) (op : TransportOp) (a : SocketAddr) : Prop :=
  ∃ env bytes observedAddr req2 m, op = .recvAndProcess env bytes observedAddr ∧
    s.triage env bytes observedAddr = .offline a (.openConnectionRequest2 req2) m ∧
    (∃ pending, m.pendingHandshakes.lookup a = some pending ∧ env.now < pending.expiresAt) ∧
    ∃ key, (key = m.cookieKeyCurrent ∨ m.cookieKeyPrevious = some key) ∧
      req2.cookie = some (m.computeCookieForKey a key)

/-- A call that makes a session `Connected` gets to its end. -/
def completesConnection (s : TransportServer F H) : TransportOp → Bool
  | .recvAndProcess env bytes observedAddr =>
    match s.triage env bytes observedAddr with
    | .connected addr datagram m =>
      !m.reachesSession env addr datagram bytes.length || m.completesDatagram env addr datagram
    | _ => true
  | _ => true

/-- What an operation can do to the peer of an address. -/
inductive PeerStep (s : TransportServer F H) (op : TransportOp) (a : SocketAddr) :
    Option SessionState × Option PendingHandshake → Prop
  | kept : PeerStep s op a (s.peer a)
  | closed : PeerStep s op a (none, none)
  | opened {pending : PendingHandshake} (h : s.OpensSession op a) :
      PeerStep s op a (some .reply1Sent, some pending)
  | accepted {st : SessionState} {pending pending' : PendingHandshake}
      (hpeer : s.peer a = (some st, some pending)) (haccepted : IsAccepted pending')
      (h : s.config.sendCookie = true → s.VerifiesCookie op a) :
      PeerStep s op a (some .reply2Sent, some pending')
  | received {st : SessionState} {pending : Option PendingHandshake}
      {v : Option SessionState × Option PendingHandshake} (hpeer : s.peer a = (some st, pending))
      (h : DatagramChange st pending (s.completesConnection op = true) v) : PeerStep s op a v

theorem Keeps.peerStep {s s' : TransportServer F H} (h : Keeps s s') (op : TransportOp)
    (a : SocketAddr) : PeerStep s op a (s'.peer a) := by
  rcases h.peer a with hkept | hclosed
  · rw [hkept]
    exact .kept
  · rw [hclosed]
    exact .closed

/-- The peer of another address. -/
theorem Sets.peerStep_other {s m s' : TransportServer F H} {addr a : SocketAddr}
    {v : Option SessionState × Option PendingHandshake} (hkeeps : Keeps s m)
    (hsets : Sets m s' addr v) (op : TransportOp) (ha : a ≠ addr) :
    PeerStep s op a (s'.peer a) := by
  rw [hsets.peer, if_neg ha]
  exact hkeeps.peerStep op a

theorem offline_peerStep {s m s' : TransportServer F H} {env : Env} {bytes : Bytes}
    {observedAddr addr : SocketAddr} {packet : OfflinePacket}
    (htriage : s.triage env bytes observedAddr = .offline addr packet m)
    (heffect : OfflineEffect m env addr packet (m.handleOfflinePacket env addr packet))
    (haside : Aside (m.handleOfflinePacket env addr packet).server s') (a : SocketAddr) :
    PeerStep s (.recvAndProcess env bytes observedAddr) a (s'.peer a) := by
  have hkeeps : Keeps s m := (upkeep_of_triage htriage).keeps
  obtain ⟨v, hsets, hchange⟩ := heffect.change
  rw [haside.peer]
  by_cases ha : a = addr
  · subst ha
    rw [hsets.peer, if_pos rfl]
    cases hchange with
    | kept _ => exact hkeeps.peerStep _ a
    | closed _ => exact .closed
    | opened hopens => exact .opened ⟨env, bytes, observedAddr, packet, m, rfl, htriage, hopens⟩
    | @accepted req2 st pending _ hpacket hpeer htime hcookie haccepted =>
      subst hpacket
      refine .accepted (hkeeps.peer_of_some hpeer) haccepted fun hsend => ?_
      rw [← hkeeps.config] at hsend
      have hlookup : m.pendingHandshakes.lookup a = some pending := congrArg Prod.snd hpeer
      exact ⟨env, bytes, observedAddr, req2, m, rfl, htriage, ⟨pending, hlookup, htime⟩,
        verifyCookie_key (hcookie hsend)⟩
  · exact hsets.peerStep_other hkeeps _ ha

/-- Whether the call of an admitted datagram completes is a matter of the server
    that the datagram meets. -/
theorem completesConnection_of_admitted {s m : TransportServer F H} {env : Env} {bytes : Bytes}
    {observedAddr addr : SocketAddr} {datagram : Datagram}
    (h : s.admitted env bytes observedAddr = some (addr, datagram, m)) :
    s.completesConnection (.recvAndProcess env bytes observedAddr)
      = m.completesDatagram env addr datagram := by
  unfold admitted at h
  split at h
  · next addr' datagram' m' htriage =>
    split at h
    · next hreaches =>
      obtain ⟨rfl, rfl, rfl⟩ : addr' = addr ∧ datagram' = datagram ∧ _ = m := by simpa using h
      simp only [completesConnection, htriage, hreaches, Bool.not_true, Bool.false_or]
      split
      · exact (completesDatagram_limit m' _ env addr' datagram').symm
      · rfl
    · cases h
  · cases h

theorem datagram_peerStep {s m s' : TransportServer F H} {env : Env} {bytes : Bytes}
    {observedAddr addr : SocketAddr} {datagram : Datagram} {r : CallResult TransportEvent}
    (hadmitted : s.admitted env bytes observedAddr = some (addr, datagram, m))
    (houtcome : DatagramOutcome m env addr datagram (r, s')) (a : SocketAddr) :
    PeerStep s (.recvAndProcess env bytes observedAddr) a (s'.peer a) := by
  have hkeeps : Keeps s m := (upkeep_of_admitted hadmitted).keeps
  obtain ⟨session, hlookup⟩ := lookup_of_admitted hadmitted
  obtain ⟨v, hsets, hchange⟩ := houtcome.sets hlookup
  by_cases ha : a = addr
  · subst ha
    rw [hsets.peer, if_pos rfl]
    refine .received (hkeeps.peer_of_some (peer_of_lookup hlookup)) ?_
    rw [completesConnection_of_admitted hadmitted]
    exact hchange
  · exact hsets.peerStep_other hkeeps _ ha

theorem step_peer {s : TransportServer F H} (hs : s.NoOrphans) (op : TransportOp)
    (a : SocketAddr) : PeerStep s op a ((s.step op).1.peer a) := by
  have hstep := step_inv hs op
  generalize s.step op = r at hstep ⊢
  cases hstep with
  | upkeep _ h _ => exact h.keeps.peerStep op a
  | offline hop htriage heffect haside _ => exact hop ▸ offline_peerStep htriage heffect haside a
  | datagram hop hadmitted houtcome => exact hop ▸ datagram_peerStep hadmitted houtcome a

theorem step_config {s : TransportServer F H} (hs : s.NoOrphans) (op : TransportOp) :
    (s.step op).1.config = s.config := by
  have hstep := step_inv hs op
  generalize s.step op = r at hstep ⊢
  cases hstep with
  | upkeep _ h _ => exact h.keeps.config
  | offline _ htriage heffect haside _ =>
    obtain ⟨v, hsets, -⟩ := heffect.change
    exact haside.config.trans (hsets.config.trans (upkeep_of_triage htriage).keeps.config)
  | datagram _ hadmitted houtcome =>
    obtain ⟨session, hlookup⟩ := lookup_of_admitted hadmitted
    obtain ⟨v, hsets, -⟩ := houtcome.sets hlookup
    exact hsets.config.trans (upkeep_of_admitted hadmitted).keeps.config

/-- The first reply goes out with a session that has sent it. -/
theorem OpensSession.peer {s : TransportServer F H} {op : TransportOp} {a : SocketAddr}
    (h : s.OpensSession op a) :
    ∃ pending, (s.step op).1.peer a = (some .reply1Sent, some pending) := by
  obtain ⟨env, bytes, observedAddr, packet, m, rfl, htriage, hopens⟩ := h
  obtain ⟨v, hsets, hchange⟩ := m.processOffline_sets env a packet
  rw [step, recvAndProcess, htriage]
  dsimp only
  rw [hsets.peer, if_pos rfl]
  cases hchange with
  | kept hnot | closed hnot => exact absurd hopens hnot
  | opened _ => exact ⟨_, rfl⟩
  | accepted hpacket _ _ _ _ =>
    subst hpacket
    exact absurd hopens (not_opens_request2 _ _)

theorem noOrphans_step {s : TransportServer F H} (hs : s.NoOrphans) (op : TransportOp) :
    (s.step op).1.NoOrphans := by
  intro a
  have hstep := step_peer hs op a
  generalize (s.step op).1.peer a = v at hstep ⊢
  cases hstep with
  | kept => exact hs a
  | closed => exact fun _ => rfl
  | opened _ => exact nofun
  | accepted _ _ _ => exact nofun
  | received _ hchange =>
    cases hchange with
    | closed _ => exact fun _ => rfl
    | finished _ _ => exact nofun
    | cutShort _ _ => exact nofun

theorem exec_noOrphans {s₀ : TransportServer F H} (h₀ : s₀.NoOrphans) (ops : List TransportOp) :
    ((transportMachine F H).exec s₀ ops).NoOrphans ∧
      ((transportMachine F H).exec s₀ ops).config = s₀.config :=
  (transportMachine F H).run_invariant (P := fun _ _ s => s.NoOrphans ∧ s.config = s₀.config)
    ⟨h₀, rfl⟩
    (fun _ _ _ op hs => ⟨noOrphans_step hs.1 op, (step_config hs.1 op).trans hs.2⟩) ops

end TransportServer

end Raknet
