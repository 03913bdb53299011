-- SUMMARY: What a packet of the offline handshake does to the peer of its address.
import Raknet.Transport.Peers

/-!
# Offline packets

`OfflineEffect` lists what `handle_offline_packet` can do: leave the tables alone,
close the session of the address, open it for a first request, or accept a second
one, for the first time or again. `OfflineChange` is what that means for the peer
of the address; the others are kept (`Sets`).
-/

namespace Raknet

/-- An event that is not about a session. -/
def TransportEvent.isAside : TransportEvent → Bool
  | .connectedFrames _ _ _ _ | .peerDisconnected _ _ => false
  | _ => true

variable {F H : Type}

namespace TransportServer

/-! ## Replacing one peer -/

/-- The peer of one address is replaced, the others are kept. -/
structure Sets (s s' : TransportServer F H) (addr : SocketAddr)
    (v : Option SessionState × Option PendingHandshake) : Prop where
  config : s'.config = s.config
  peer : ∀ a, s'.peer a = if a = addr then v else s.peer a

variable {s s' s'' : TransportServer F H} {addr : SocketAddr}
  {v v' : Option SessionState × Option PendingHandshake}

theorem Sets.trans (h : Sets s s' addr v) (h' : Sets s' s'' addr v') : Sets s s'' addr v' where
  config := h'.config.trans h.config
  peer := by
    intro a
    rw [h'.peer, h.peer]
    split <;> rfl

theorem Sets.of_peer (hconfig : s'.config = s.config) (h : ∀ a, s'.peer a = s.peer a) :
    Sets s s' addr (s.peer addr) where
  config := hconfig
  peer := by
    intro a
    rw [h]
    split
    · next ha => rw [ha]
    · rfl

theorem SameTables.sets (h : SameTables s s') : Sets s s' addr (s.peer addr) :=
  .of_peer h.config h.peer

theorem Closes.sets (h : Closes s s' [addr]) : Sets s s' addr (none, none) where
  config := h.config
  peer := by
    intro a
    rw [h.peer]
    simp only [List.mem_singleton]

theorem Sets.same (h : Sets s s' addr v) (h' : SameTables s' s'') : Sets s s'' addr v where
  config := h'.config.trans h.config
  peer := fun a => (h'.peer a).trans (h.peer a)

theorem Sets.after {m : TransportServer F H} (h : SameTables s m) (h' : Sets m s' addr v) :
    Sets s s' addr v where
  config := h'.config.trans h.config
  peer := fun a => by rw [h'.peer, h.peer]

theorem sets_insert_session (s : TransportServer F H) (addr : SocketAddr) (session : Session F H) :
    Sets s { s with sessions := s.sessions.insert addr session } addr
      (some session.state, s.pendingHandshakes.lookup addr) where
  config := rfl
  peer := by
    intro a
    refine (peerOf_insert_session s.sessions s.pendingHandshakes addr a session).trans ?_
    split
    · next ha => rw [ha]
    · rfl

theorem sets_insert_pending (s : TransportServer F H) (addr : SocketAddr) (p : PendingHandshake) :
    Sets s { s with pendingHandshakes := s.pendingHandshakes.insert addr p } addr
      ((s.peer addr).1, some p) where
  config := rfl
  peer := by
    intro a
    refine (peerOf_insert_pending s.sessions s.pendingHandshakes addr a p).trans ?_
    split
    · next ha => rw [ha]; rfl
    · rfl

theorem peer_of_lookup {session : Session F H} (h : s.sessions.lookup addr = some session) :
    s.peer addr = (some session.state, s.pendingHandshakes.lookup addr) := by
  rw [peer, peerOf, h]
  rfl

/-! ## Transitions of a session -/

theorem applySessionTransitions_last {session session' : Session F H} {ts : List SessionState}
    (h : applySessionTransitions session ts = (true, session')) :
    session'.state = ts.getLastD session.state := by
  induction ts generalizing session with
  | nil =>
    obtain ⟨-, rfl⟩ := Prod.mk.inj h
    rfl
  | cons t ts ih =>
    rw [applySessionTransitions, Session.transitionTo] at h
    by_cases ht : session.state.canTransitionTo t = true
    · rw [if_pos ht] at h
      rw [List.getLastD_cons]
      exact ih h
    · rw [if_neg ht] at h
      exact absurd (Prod.mk.inj h).1 Bool.false_ne_true

theorem applySessionTransitions_head {session session' : Session F H} {t : SessionState}
    {ts : List SessionState} (h : applySessionTransitions session (t :: ts) = (true, session')) :
    session.state.canTransitionTo t = true := by
  rw [applySessionTransitions, Session.transitionTo] at h
  by_contra ht
  rw [if_neg ht] at h
  exact absurd (Prod.mk.inj h).1 Bool.false_ne_true

/-! ## Offline packets -/

/-- A first request that is answered with a first reply. -/
def Opens (packet : OfflinePacket) (reply : Option OfflinePacket) : Prop :=
  (∃ req1, packet = .openConnectionRequest1 req1) ∧
    ∃ reply1, reply = some (.openConnectionReply1 reply1)

theorem not_opens_request2 (req2 : OpenConnectionRequest2) (reply : Option OfflinePacket) :
    ¬Opens (.openConnectionRequest2 req2) reply := by
  rintro ⟨⟨_, ⟨⟩⟩, -⟩

/-- A packet that opens and accepts nothing, and of which nothing is told of a
    session. -/
structure OpensNothing (r : OfflineResult F H) : Prop where
  offers : ∀ reply1, r.reply ≠ some (.openConnectionReply1 reply1)
  accepts : ∀ reply2, r.reply ≠ some (.openConnectionReply2 reply2)
  event : ∀ event ∈ r.event, event.isAside = true

theorem OpensNothing.opens {r : OfflineResult F H} (h : OpensNothing r) (packet : OfflinePacket) :
    ¬Opens packet r.reply := by
  rintro ⟨-, reply1, hreply⟩
  exact h.offers reply1 hreply

theorem noEvent_aside : ∀ event ∈ (none : Option TransportEvent), event.isAside = true := by
  rintro _ ⟨⟩

theorem opensNothing_silent (s : TransportServer F H) :
    OpensNothing (⟨none, none, s⟩ : OfflineResult F H) :=
  ⟨by rintro _ ⟨⟩, by rintro _ ⟨⟩, noEvent_aside⟩

theorem opensNothing_banned (s s' : TransportServer F H) (newlyBlocked : Bool) :
    OpensNothing (⟨none, s.bannedReply newlyBlocked, s'⟩ : OfflineResult F H) := by
  refine ⟨fun reply1 => ?_, fun reply2 => ?_, noEvent_aside⟩
  all_goals
    unfold bannedReply
    split <;> rintro ⟨⟩

theorem opensNothing_of_reply {reply : OfflinePacket} {event : Option TransportEvent}
    (hreply : ∀ reply1, reply ≠ .openConnectionReply1 reply1)
    (hreply2 : ∀ reply2, reply ≠ .openConnectionReply2 reply2)
    (hevent : ∀ event' ∈ event, event'.isAside = true) :
    OpensNothing (⟨event, some reply, s⟩ : OfflineResult F H) :=
  ⟨fun reply1 h => hreply reply1 (Option.some.inj h),
    fun reply2 h => hreply2 reply2 (Option.some.inj h), hevent⟩

theorem Aside.verifyCookie (h : Aside s s') (addr : SocketAddr) (cookie : Option UInt32) :
    s'.verifyCookie addr cookie = s.verifyCookie addr cookie := by
  simp only [TransportServer.verifyCookie, computeCookieForKey, h.hmac, h.config, h.current,
    h.previous]

section Requests

variable [F64 F] [MinHeap H QueuedFrame QueuedFrame.weight]

/-- The session that a first request opens. -/
def openedSession (s : TransportServer F H) (env : Env) (mtu : UInt16) : Session F H :=
  { (.withTunables mtu.toNat s.config.sessionTunables env.openedAt : Session F H) with
    state := .reply1Sent }

/-- The server with a new session and its handshake. -/
theorem openSession_eq (s : TransportServer F H) (env : Env) (addr : SocketAddr)
    (req1 : OpenConnectionRequest1) :
    s.openSession env addr req1 =
      ⟨none,
        some (.openConnectionReply1
          { serverGuid := s.config.serverGuid
            mtu := s.negotiateMtu req1.mtu
            cookie := s.request1Cookie addr
            magic := s.config.unconnectedMagic }),
        { s with
          pendingHandshakes := s.pendingHandshakes.insert addr
            { mtu := s.negotiateMtu req1.mtu
              cookie := s.request1Cookie addr
              clientGuid := none
              stage := .awaitingRequest2
              expiresAt := env.now + s.config.req1Req2Timeout }
          sessions := (s.sessions.erase addr).insert addr
            (s.openedSession env (s.negotiateMtu req1.mtu))
          sessionPipelines := s.sessionPipelines.erase addr }⟩ := rfl

/-- The session of an accepted second request. -/
def acceptedSession (session : Session F H) (mtu : UInt16) (now : Instant) : Session F H :=
  { (session.setMtu mtu.toNat).touchActivity now with state := .reply2Sent }

omit [F64 F] [MinHeap H QueuedFrame QueuedFrame.weight] in
/-- The server with a session that has sent its second reply. -/
theorem acceptRequest2_eq {s : TransportServer F H} {env : Env} {addr : SocketAddr}
    {req2 : OpenConnectionRequest2} {pending : PendingHandshake} {session : Session F H}
    (hlookup : s.sessions.lookup addr = some session)
    (hstate : session.state.canTransitionTo .req2Recv = true) :
    s.acceptRequest2 env addr req2 pending =
      ⟨none, some (s.reply2 (s.negotiateMtu (min req2.mtu pending.mtu))),
        { s with
          sessions := s.sessions.insert addr
            (acceptedSession session (s.negotiateMtu (min req2.mtu pending.mtu)) env.now)
          pendingHandshakes := s.pendingHandshakes.insert addr
            { mtu := s.negotiateMtu (min req2.mtu pending.mtu)
              cookie := pending.cookie
              clientGuid := some req2.clientGuid
              stage := .awaitingConnectionRequest
              expiresAt := env.now + s.config.reply2ConnectTimeout } }⟩ := by
  rw [acceptRequest2, hlookup]
  simp only [applySessionTransitions, Session.transitionTo, Session.touchActivity,
    Session.setMtu, hstate, if_true]
  rfl

omit [F64 F] [MinHeap H QueuedFrame QueuedFrame.weight] in
/-- The server with a session that has sent its second reply again. -/
theorem retryRequest2_eq {s : TransportServer F H} {env : Env} {addr : SocketAddr}
    {req2 : OpenConnectionRequest2} {pending : PendingHandshake} {session : Session F H}
    (hlookup : s.sessions.lookup addr = some session)
    (hstate : isPostReply2HandshakeState session.state = true) :
    s.retryRequest2 env addr req2 pending =
      ⟨none, some (s.reply2 (s.negotiateMtu (min req2.mtu pending.mtu))),
        { s with
          sessions := s.sessions.insert addr
            ((session.setMtu (s.negotiateMtu (min req2.mtu pending.mtu)).toNat).touchActivity
              env.now) }⟩ := by
  rw [retryRequest2, hlookup]
  simp only [hstate, Bool.not_true, Bool.false_eq_true, if_false]
  rfl

/-- What an offline packet can do to the server. -/
inductive OfflineEffect (s : TransportServer F H) (env : Env) (addr : SocketAddr)
    (packet : OfflinePacket) : OfflineResult F H → Prop
  | aside {r : OfflineResult F H} (hopens : OpensNothing r) (h : Aside s r.server) :
      OfflineEffect s env addr packet r
  | closed {r : OfflineResult F H} (hopens : OpensNothing r)
      (h : ClosesOne s r.server addr) : OfflineEffect s env addr packet r
  | opened {m : TransportServer F H} {req1 : OpenConnectionRequest1} (h : Aside s m)
      (hpacket : packet = .openConnectionRequest1 req1)
      (hinactive : m.hasActiveSessionForOfflineReject addr = false)
      (hprogress : m.handshakeInProgress addr = false)
      (hlimit : m.wouldExceedSessionLimit addr = false) :
      OfflineEffect s env addr packet (m.openSession env addr req1)
  | accepted {m : TransportServer F H} {req2 : OpenConnectionRequest2}
      {pending : PendingHandshake} {session : Session F H} (h : Aside s m)
      (hpacket : packet = .openConnectionRequest2 req2)
      (hpending : m.pendingHandshakes.lookup addr = some pending)
      (hlookup : m.sessions.lookup addr = some session)
      (hstage : pending.stage ≠ .awaitingConnectionRequest) (htime : env.now < pending.expiresAt)
      (hcookie : s.config.sendCookie = true → s.verifyCookie addr req2.cookie = true)
      (hstate : session.state.canTransitionTo .req2Recv = true) :
      OfflineEffect s env addr packet (m.acceptRequest2 env addr req2 pending)
  | retried {m : TransportServer F H} {req2 : OpenConnectionRequest2}
      {pending : PendingHandshake} {session : Session F H} (h : Aside s m)
      (hpacket : packet = .openConnectionRequest2 req2)
      (hpending : m.pendingHandshakes.lookup addr = some pending)
      (hlookup : m.sessions.lookup addr = some session)
      (hstage : pending.stage = .awaitingConnectionRequest)
      (hstate : isPostReply2HandshakeState session.state = true) :
      OfflineEffect s env addr packet (m.retryRequest2 env addr req2 pending)

variable {env : Env} {packet : OfflinePacket} {r : OfflineResult F H}

/-- A handler may change what is aside from the tables first. -/
theorem OfflineEffect.after (h : Aside s s') (hr : OfflineEffect s' env addr packet r) :
    OfflineEffect s env addr packet r := by
  cases hr with
  | aside hopens haside => exact .aside hopens (h.trans haside)
  | closed hopens hclosed => exact .closed hopens (.after h.toSameTables hclosed)
  | opened haside hpacket hinactive hprogress hlimit =>
    exact .opened (h.trans haside) hpacket hinactive hprogress hlimit
  | accepted haside hpacket hpending hlookup hstage htime hcookie hstate =>
    refine .accepted (h.trans haside) hpacket hpending hlookup hstage htime (fun hsend => ?_) hstate
    rw [← h.verifyCookie]
    exact hcookie (h.config ▸ hsend)
  | retried haside hpacket hpending hlookup hstage hstate =>
    exact .retried (h.trans haside) hpacket hpending hlookup hstage hstate

/-- A session in front of the second request takes it, and a retry is for one
    behind it. -/
theorem verifiedRequest2_effect {req2 : OpenConnectionRequest2} {pending : PendingHandshake}
    (hpending : s.pendingHandshakes.lookup addr = some pending)
    (htime : env.now < pending.expiresAt)
    (hcookie : s.config.sendCookie = true → s.verifyCookie addr req2.cookie = true) :
    OfflineEffect s env addr (.openConnectionRequest2 req2)
      (s.verifiedRequest2 env addr req2 pending) := by
  have hclear : Aside s (s.clearCookieMismatchState addr.ip) :=
    ⟨⟨rfl, rfl, rfl, rfl, rfl, rfl, rfl⟩, rfl, rfl⟩
  have hillegal : ∀ m : TransportServer F H, SameTables s m →
      OfflineEffect s env addr (.openConnectionRequest2 req2)
        ⟨none, none, m.recordIllegalStateTransition env addr⟩ := fun m hm =>
    .closed (opensNothing_silent _)
      (.after hm (recordIllegalStateTransition_closesOne m env addr))
  unfold verifiedRequest2
  dsimp only
  split
  · next hstage =>
    cases hlookup : s.sessions.lookup addr with
    | none =>
      have hnone : (s.clearCookieMismatchState addr.ip).sessions.lookup addr = none := hlookup
      rw [retryRequest2, hnone]
      exact hillegal _ hclear.toSameTables
    | some session =>
      by_cases hstate : isPostReply2HandshakeState session.state = true
      · exact .retried hclear rfl hpending hlookup hstage hstate
      · have hsome : (s.clearCookieMismatchState addr.ip).sessions.lookup addr = some session :=
          hlookup
        rw [retryRequest2, hsome]
        simp only [hstate, Bool.not_false, if_true]
        exact hillegal _ hclear.toSameTables
  · next hstage =>
    split
    · exact .aside
        (opensNothing_of_reply (by rintro _ ⟨⟩) (by rintro _ ⟨⟩) (by rintro _ ⟨⟩; rfl)) hclear
    · cases hlookup : s.sessions.lookup addr with
      | none =>
        have hnone : (s.clearCookieMismatchState addr.ip).sessions.lookup addr = none := hlookup
        rw [acceptRequest2, hnone]
        exact hillegal _ hclear.toSameTables
      | some session =>
        by_cases hstate : session.state.canTransitionTo .req2Recv = true
        · exact .accepted hclear rfl hpending hlookup hstage htime hcookie hstate
        · -- the transition fails at once, and the session is closed in its state
          have hsome : (s.clearCookieMismatchState addr.ip).sessions.lookup addr = some session :=
            hlookup
          rw [acceptRequest2, hsome]
          simp only [applySessionTransitions, Session.transitionTo, Session.touchActivity,
            Session.setMtu, hstate]
          refine .closed (opensNothing_silent _) (.after hclear.toSameTables
            (.of_insert hsome ?_ (recordIllegalStateTransition_closesOne _ env addr)))
          rfl

theorem dropForTimeout_effect (s : TransportServer F H) (env : Env) (addr : SocketAddr)
    (req2 : OpenConnectionRequest2) (pending : PendingHandshake) :
    OfflineEffect s env addr (.openConnectionRequest2 req2)
      (s.dropForTimeout env addr pending) := by
  unfold dropForTimeout
  have htimeout := s.countTimeout_aside pending.stage
  generalize s.countTimeout pending.stage = t at htimeout ⊢
  obtain ⟨violation, s₁⟩ := t
  dsimp only at htimeout ⊢
  have hviolation := s₁.countStageCancelDrop.recordHandshakeViolation_aside addr violation env.now
  refine .after ((htimeout.trans s₁.countStageCancelDrop_aside).trans hviolation) ?_
  exact .closed (opensNothing_banned _ _ _)
    (closeSession_closesOne _ env addr)

theorem dropForCookie_effect (s : TransportServer F H) (env : Env) (addr : SocketAddr)
    (req2 : OpenConnectionRequest2) :
    OfflineEffect s env addr (.openConnectionRequest2 req2) (s.dropForCookie env addr) := by
  unfold dropForCookie
  dsimp only
  refine .aside (opensNothing_banned _ _ _) (.trans (.trans ?_
    (recordCookieMismatch_aside _ addr.ip env.now))
    (recordHandshakeViolation_aside _ addr .cookieMismatch env.now))
  exact ⟨⟨rfl, rfl, rfl, rfl, rfl, rfl, rfl⟩, rfl, rfl⟩

theorem dropAsViolation_effect (s : TransportServer F H) (env : Env) (addr : SocketAddr)
    (req2 : OpenConnectionRequest2) (violation : HandshakeViolation) :
    OfflineEffect s env addr (.openConnectionRequest2 req2)
      (s.dropAsViolation env addr violation) := by
  unfold dropAsViolation
  dsimp only
  exact .aside (opensNothing_banned _ _ _)
    (s.countStageCancelDrop_aside.trans (recordHandshakeViolation_aside _ addr violation env.now))

theorem checkedRequest2_effect (s : TransportServer F H) (env : Env) (addr : SocketAddr)
    (req2 : OpenConnectionRequest2) :
    OfflineEffect s env addr (.openConnectionRequest2 req2) (s.checkedRequest2 env addr req2) := by
  unfold checkedRequest2
  split
  · refine .after ?_ (dropAsViolation_effect _ env addr _ _)
    exact ⟨⟨rfl, rfl, rfl, rfl, rfl, rfl, rfl⟩, rfl, rfl⟩
  · next pending hpending =>
    split
    · exact s.dropForTimeout_effect env addr _ pending
    · next htime =>
      split
      · exact s.dropForCookie_effect env addr _
      · next hcookie =>
        refine verifiedRequest2_effect hpending (Nat.lt_of_not_le htime) fun hsend => ?_
        by_contra hwrong
        exact hcookie ⟨hsend, .inr (Bool.eq_false_iff.mpr hwrong)⟩

theorem addressedRequest2_effect (s : TransportServer F H) (env : Env) (addr : SocketAddr)
    (req2 : OpenConnectionRequest2) :
    OfflineEffect s env addr (.openConnectionRequest2 req2)
      (s.addressedRequest2 env addr req2) := by
  unfold addressedRequest2
  split
  · exact .aside (opensNothing_silent _) ⟨⟨rfl, rfl, rfl, rfl, rfl, rfl, rfl⟩, rfl, rfl⟩
  · exact s.checkedRequest2_effect env addr req2

/-- A request that was parsed in a doubtful way is counted, and dropped or handled. -/
theorem doubtfulRequest2_effect (s : TransportServer F H) (env : Env) (addr : SocketAddr)
    (req2 : OpenConnectionRequest2) (drop : Prop) [Decidable drop]
    {hit dropped : TransportCounters → TransportCounters} (hhit : Aside s (s.count hit))
    (hdropped : Aside (s.count hit) ((s.count hit).count dropped)) :
    OfflineEffect s env addr (.openConnectionRequest2 req2)
      (if drop then ((s.count hit).count dropped).dropAsViolation env addr .parseAnomalyDrop
       else (s.count hit).addressedRequest2 env addr req2) := by
  refine .after hhit ?_
  split
  · exact .after hdropped (dropAsViolation_effect _ env addr _ _)
  · exact addressedRequest2_effect _ env addr req2

theorem handleRequest2_effect (s : TransportServer F H) (env : Env) (addr : SocketAddr)
    (req2 : OpenConnectionRequest2) :
    OfflineEffect s env addr (.openConnectionRequest2 req2) (s.handleRequest2 env addr req2) := by
  unfold handleRequest2
  refine .after (s.pruneIpRecentlyConnected_aside env.now) ?_
  dsimp only
  generalize s.pruneIpRecentlyConnected env.now = s
  split
  · exact .aside (opensNothing_of_reply (by rintro _ ⟨⟩) (by rintro _ ⟨⟩) noEvent_aside)
      ⟨⟨rfl, rfl, rfl, rfl, rfl, rfl, rfl⟩, rfl, rfl⟩
  · split
    · exact .aside (opensNothing_of_reply (by rintro _ ⟨⟩) (by rintro _ ⟨⟩) noEvent_aside)
        ⟨⟨rfl, rfl, rfl, rfl, rfl, rfl, rfl⟩, rfl, rfl⟩
    · cases req2.parsePath with
      | legacyHeuristic | ambiguousPreferredNoCookie | ambiguousPreferredWithCookie =>
        exact s.doubtfulRequest2_effect env addr req2 _
          ⟨⟨rfl, rfl, rfl, rfl, rfl, rfl, rfl⟩, rfl, rfl⟩
          ⟨⟨rfl, rfl, rfl, rfl, rfl, rfl, rfl⟩, rfl, rfl⟩
      | strictNoCookie | strictWithCookie => exact s.addressedRequest2_effect env addr req2

theorem handleRequest1_effect (s : TransportServer F H) (env : Env) (addr : SocketAddr)
    (req1 : OpenConnectionRequest1) :
    OfflineEffect s env addr (.openConnectionRequest1 req1) (s.handleRequest1 env addr req1) := by
  -- a request that is turned away changes counters only
  have hrejected : ∀ (s m : TransportServer F H) (reply : OfflinePacket),
      (∀ reply1, reply ≠ .openConnectionReply1 reply1) →
      (∀ reply2, reply ≠ .openConnectionReply2 reply2) → Aside s m →
      OfflineEffect s env addr (.openConnectionRequest1 req1) ⟨none, some reply, m⟩ :=
    fun _ _ _ hreply hreply2 haside =>
      .aside (opensNothing_of_reply hreply hreply2 noEvent_aside) haside
  unfold handleRequest1
  split
  · exact hrejected s s _ (by rintro _ ⟨⟩) (by rintro _ ⟨⟩) (.refl s)
  · refine .after (s.pruneIpRecentlyConnected_aside env.now) ?_
    dsimp only
    generalize s.pruneIpRecentlyConnected env.now = s
    split
    · exact hrejected s _ _ (by rintro _ ⟨⟩) (by rintro _ ⟨⟩)
        ⟨⟨rfl, rfl, rfl, rfl, rfl, rfl, rfl⟩, rfl, rfl⟩
    · split
      · exact hrejected s _ _ (by rintro _ ⟨⟩) (by rintro _ ⟨⟩)
          ⟨⟨rfl, rfl, rfl, rfl, rfl, rfl, rfl⟩, rfl, rfl⟩
      · next hinactive =>
        split
        · exact hrejected s _ _ (by rintro _ ⟨⟩) (by rintro _ ⟨⟩)
            ⟨⟨rfl, rfl, rfl, rfl, rfl, rfl, rfl⟩, rfl, rfl⟩
        · next hprogress =>
          split
          · refine .aside (opensNothing_of_reply (by rintro _ ⟨⟩) (by rintro _ ⟨⟩) ?_) (.refl s)
            rintro _ ⟨⟩
            rfl
          · next hlimit =>
            exact .opened (.refl s) rfl (Bool.eq_false_iff.mpr hinactive)
              (Bool.eq_false_iff.mpr hprogress) (Bool.eq_false_iff.mpr hlimit)

theorem handleOfflinePacket_effect (s : TransportServer F H) (env : Env) (addr : SocketAddr)
    (packet : OfflinePacket) :
    OfflineEffect s env addr packet (s.handleOfflinePacket env addr packet) := by
  cases packet with
  | openConnectionRequest1 req1 => exact s.handleRequest1_effect env addr req1
  | openConnectionRequest2 req2 => exact s.handleRequest2_effect env addr req2
  | _ => exact .aside ⟨by rintro _ ⟨⟩, by rintro _ ⟨⟩, noEvent_aside⟩ (.refl s)

/-- An offline packet leaves the other addresses alone. -/
theorem OfflineEffect.sameAt {a : SocketAddr} (h : OfflineEffect s env addr packet r)
    (ha : a ≠ addr) : SameAt s r.server a := by
  cases h with
  | aside _ haside => exact haside.sameAt a
  | closed _ hclosed => exact hclosed.sameAt ha
  | opened haside _ _ _ _ =>
    rw [openSession_eq]
    refine (haside.sameAt a).trans ⟨?_, AList.lookup_erase_ne ha, AList.lookup_insert_ne ha⟩
    exact (AList.lookup_insert_ne ha).trans (AList.lookup_erase_ne ha)
  | accepted haside _ _ hlookup _ _ _ hstate =>
    rw [acceptRequest2_eq hlookup hstate]
    exact (haside.sameAt a).trans ⟨AList.lookup_insert_ne ha, rfl, AList.lookup_insert_ne ha⟩
  | retried haside _ _ hlookup _ hstate =>
    rw [retryRequest2_eq hlookup hstate]
    exact (haside.sameAt a).trans ⟨AList.lookup_insert_ne ha, rfl, rfl⟩

/-! ## Peers -/

/-- A handshake that has got its second request. -/
structure IsAccepted (pending : PendingHandshake) : Prop where
  guid : pending.clientGuid.isSome = true
  stage : pending.stage = .awaitingConnectionRequest

/-- What an offline packet can do to the peer of its address. -/
inductive OfflineChange (s : TransportServer F H) (env : Env) (addr : SocketAddr)
    (packet : OfflinePacket) (reply : Option OfflinePacket) :
    Option SessionState × Option PendingHandshake → Prop
  | kept (h : ¬Opens packet reply) : OfflineChange s env addr packet reply (s.peer addr)
  | closed (h : ¬Opens packet reply) : OfflineChange s env addr packet reply (none, none)
  | opened {pending : PendingHandshake} (h : Opens packet reply) :
      OfflineChange s env addr packet reply (some .reply1Sent, some pending)
  | accepted {req2 : OpenConnectionRequest2} {st : SessionState}
      {pending pending' : PendingHandshake} (hpacket : packet = .openConnectionRequest2 req2)
      (hpeer : s.peer addr = (some st, some pending)) (htime : env.now < pending.expiresAt)
      (hcookie : s.config.sendCookie = true → s.verifyCookie addr req2.cookie = true)
      (haccepted : IsAccepted pending') :
      OfflineChange s env addr packet reply (some .reply2Sent, some pending')

theorem OfflineEffect.change (h : OfflineEffect s env addr packet r) :
    ∃ v, Sets s r.server addr v ∧ OfflineChange s env addr packet r.reply v := by
  cases h with
  | aside hopens haside => exact ⟨_, haside.sets, .kept (hopens.opens packet)⟩
  | closed hopens hclosed => exact ⟨_, hclosed.closes.sets, .closed (hopens.opens packet)⟩
  | @opened m req1 haside hpacket _ _ _ =>
    subst hpacket
    rw [openSession_eq]
    exact ⟨_, .after haside.toSameTables
      ⟨rfl, fun a => peerOf_open m.sessions m.pendingHandshakes addr a _ _⟩,
      .opened ⟨⟨_, rfl⟩, _, rfl⟩⟩
  | @accepted m req2 pending session haside hpacket hpending hlookup hstage htime hcookie hstate =>
    have hpeer : s.peer addr = (some session.state, some pending) := by
      rw [← haside.peer, peer_of_lookup hlookup, hpending]
    rw [acceptRequest2_eq hlookup hstate]
    refine ⟨_, .after haside.toSameTables ((m.sets_insert_session addr _).trans
      (sets_insert_pending _ addr _)), ?_⟩
    rw [(m.sets_insert_session addr _).peer, if_pos rfl]
    exact .accepted hpacket hpeer htime hcookie ⟨rfl, rfl⟩
  | @retried m req2 pending session haside hpacket hpending hlookup hstage hstate =>
    subst hpacket
    rw [retryRequest2_eq hlookup hstate]
    refine ⟨_, .after haside.toSameTables (m.sets_insert_session addr _), ?_⟩
    have hpeer : s.peer addr = (some session.state, m.pendingHandshakes.lookup addr) := by
      rw [← haside.peer, peer_of_lookup hlookup]
    exact hpeer ▸ .kept (not_opens_request2 _ _)

/-- Behind the handler the reply is sent. -/
theorem processOffline_aside (s : TransportServer F H) (env : Env) (addr : SocketAddr)
    (packet : OfflinePacket) :
    Aside (s.handleOfflinePacket env addr packet).server (s.processOffline env addr packet).2 := by
  unfold processOffline
  dsimp only
  split
  · exact .refl _
  · exact send_aside _ env 0 addr _

theorem processOffline_sets (s : TransportServer F H) (env : Env) (addr : SocketAddr)
    (packet : OfflinePacket) :
    ∃ v, Sets s (s.processOffline env addr packet).2 addr v ∧
      OfflineChange s env addr packet (s.handleOfflinePacket env addr packet).reply v := by
  obtain ⟨v, hsets, hchange⟩ := (s.handleOfflinePacket_effect env addr packet).change
  exact ⟨v, hsets.same (s.processOffline_aside env addr packet).toSameTables, hchange⟩

end Requests

end TransportServer

end Raknet
