-- SUMMARY: What the operations of the server do to its tables aside from the packets they handle.
import Raknet.Receive.Ingest
import Raknet.Send.Footprint
import Raknet.Transport.Run

/-!
# Upkeep

The tables of a server are its sessions, their pipelines and the handshakes.
Most of what a call does is upkeep of them: it leaves them alone, closes the
session of an address, or lets a session run some of its own operations and
stores it again (`Upkeep`). What holds of the tables of every reachable server
is shown for these three kinds of steps and for the packets that do more.
-/

namespace Raknet

variable {F H : Type}

/-! ## Sessions -/

/-- The operations that a server runs on its sessions all the time. They leave
    the MTU and the state of the session alone. -/
def SessionOp.isService : SessionOp → Bool
  | .queuePayload _ _ _ _ _ | .ingestDatagram _ _ | .processIncomingReceipts _
  | .onTick _ _ _ _ _ | .touchActivity _ | .markKeepaliveSent _ | .takeBackpressureDisconnect =>
    true
  | _ => false

/-- What a session may run on the way through a datagram: these operations, and
    moves of its state. -/
def SessionOp.isRunning : SessionOp → Bool
  | .transitionTo _ => true
  | op => op.isService

theorem SessionOp.isRunning_iff {op : SessionOp} :
    op.isRunning = true ↔ op.isService = true ∨ ∃ next, op = .transitionTo next := by
  cases op with
  | transitionTo next => exact iff_of_true rfl (.inr ⟨next, rfl⟩)
  | _ => exact (or_iff_left nofun).symm

namespace Session

theorem ingestDatagram_state (s : Session F H) (d : Datagram) (now : Instant) :
    (s.ingestDatagram d now).2.state = s.state := by
  cases hpayload : d.payload with
  | ack payload | nack payload =>
    unfold ingestDatagram
    rw [hpayload]
    rfl
  | frames frames =>
    rw [s.ingestDatagram_eq hpayload]
    obtain ⟨_, _, _, _, h⟩ := handleFrames_eq now frames (s.beginDatagram d frames now)
    rw [h]
    unfold beginDatagram
    obtain ⟨_, _, _, _, h⟩ := processDatagramSequence_eq
      { s with
        metrics := { s.metrics with
          ingressDatagrams := satAdd s.metrics.ingressDatagrams 1
          ingressFrames := satAdd s.metrics.ingressFrames frames.length } }
      d.header.sequence now
    rw [h]

variable [F64 F]

theorem processIncomingReceipts_state (s : Session F H) (now : Instant) :
    (s.processIncomingReceipts now).2.state = s.state := by
  obtain ⟨_, _, _, _, h⟩ := s.processIncomingReceipts_eq now
  rw [h]

variable [MinHeap H QueuedFrame QueuedFrame.weight]

theorem queuePayloadWithReceipt_state (s : Session F H) (payload : Bytes)
    (reliability : Reliability) (channel : UInt8) (priority : RakPriority)
    (receiptId : Option UInt64) :
    (s.queuePayloadWithReceipt payload reliability channel priority receiptId).2.2.state
      = s.state := by
  obtain ⟨_, _, _, _, _, _, _, _, _, h⟩ :=
    s.queuePayloadWithReceipt_eq payload reliability channel priority receiptId
  rw [h]

theorem onTick_state (s : Session F H) (now : Instant)
    (maxNew maxNewBytes maxResend maxResendBytes : Nat) :
    (s.onTick now maxNew maxNewBytes maxResend maxResendBytes).2.state = s.state := by
  obtain ⟨_, _, _, _, _, _, _, _, _, _, _, h⟩ :=
    s.onTick_eq now maxNew maxNewBytes maxResend maxResendBytes
  rw [h]

/-- The session comes of the other by operations of a running server. -/
abbrev Serves (s s' : Session F H) : Prop :=
  (sessionMachine F H).Reaches (fun op => op.isService = true) s s'

theorem serves_step (s : Session F H) (op : SessionOp) (h : op.isService = true) :
    s.Serves (s.step op).1 :=
  Machine.Reaches.step (a := op) h s

theorem step_service_state {s : Session F H} {op : SessionOp} (h : op.isService = true) :
    (s.step op).1.state = s.state := by
  cases op with
  | queuePayload payload reliability channel priority receiptId =>
    exact s.queuePayloadWithReceipt_state payload reliability channel priority receiptId
  | ingestDatagram datagram now => exact s.ingestDatagram_state datagram now
  | processIncomingReceipts now => exact s.processIncomingReceipts_state now
  | onTick now maxNew maxNewBytes maxResend maxResendBytes =>
    exact s.onTick_state now maxNew maxNewBytes maxResend maxResendBytes
  | touchActivity | markKeepaliveSent | takeBackpressureDisconnect => rfl
  | _ => cases h

theorem Serves.state {s s' : Session F H} (h : s.Serves s') : s'.state = s.state :=
  h.invariant (P := fun s' => s'.state = s.state)
    (fun _ _ hop hs => (step_service_state hop).trans hs) rfl

/-- The session comes of the other on the way through a datagram. -/
abbrev Runs (s s' : Session F H) : Prop :=
  (sessionMachine F H).Reaches (fun op => op.isRunning = true) s s'

theorem runs_step (s : Session F H) (op : SessionOp) (h : op.isRunning = true) :
    s.Runs (s.step op).1 :=
  Machine.Reaches.step (a := op) h s

theorem Serves.runs {s s' : Session F H} (h : s.Serves s') : s.Runs s' :=
  h.mono fun _ hop => SessionOp.isRunning_iff.mpr (.inl hop)

end Session

namespace TransportServer

/-! ## Changes aside from the tables -/

/-- The tables and the configuration are the same, and so is what was counted of
    sessions. -/
structure SameTables (s s' : TransportServer F H) : Prop where
  sessions : s'.sessions = s.sessions
  pipelines : s'.sessionPipelines = s.sessionPipelines
  pending : s'.pendingHandshakes = s.pendingHandshakes
  config : s'.config = s.config
  hmac : s'.hmacSha256 = s.hmacSha256
  started : s'.counters.sessionsStartedTotal = s.counters.sessionsStartedTotal
  closed : s'.counters.sessionsClosedTotal = s.counters.sessionsClosedTotal

/-- The keys are the same too. -/
structure Aside (s s' : TransportServer F H) : Prop extends SameTables s s' where
  current : s'.cookieKeyCurrent = s.cookieKeyCurrent
  previous : s'.cookieKeyPrevious = s.cookieKeyPrevious

theorem SameTables.trans {s s' s'' : TransportServer F H} (h : SameTables s s')
    (h' : SameTables s' s'') : SameTables s s'' where
  sessions := h'.sessions.trans h.sessions
  pipelines := h'.pipelines.trans h.pipelines
  pending := h'.pending.trans h.pending
  config := h'.config.trans h.config
  hmac := h'.hmac.trans h.hmac
  started := h'.started.trans h.started
  closed := h'.closed.trans h.closed

namespace Aside

variable {s s' s'' : TransportServer F H}

theorem refl (s : TransportServer F H) : Aside s s :=
  ⟨⟨rfl, rfl, rfl, rfl, rfl, rfl, rfl⟩, rfl, rfl⟩

theorem trans (h : Aside s s') (h' : Aside s' s'') : Aside s s'' where
  toSameTables := h.toSameTables.trans h'.toSameTables
  current := h'.current.trans h.current
  previous := h'.previous.trans h.previous

/-- A change of the counters that leaves those of the sessions alone. -/
theorem count (s : TransportServer F H) {f : TransportCounters → TransportCounters}
    (hstarted : ∀ c, (f c).sessionsStartedTotal = c.sessionsStartedTotal)
    (hclosed : ∀ c, (f c).sessionsClosedTotal = c.sessionsClosedTotal) : Aside s (s.count f) :=
  ⟨⟨rfl, rfl, rfl, rfl, rfl, hstarted _, hclosed _⟩, rfl, rfl⟩

theorem limit (s : TransportServer F H) (r : RateLimiter F) :
    Aside s { s with rateLimiter := r } := ⟨⟨rfl, rfl, rfl, rfl, rfl, rfl, rfl⟩, rfl, rfl⟩

end Aside

theorem recordRemoteDisconnect_aside (s : TransportServer F H) (reason : RemoteDisconnectReason) :
    Aside s (s.recordRemoteDisconnect reason) := by
  cases reason <;> exact ⟨⟨rfl, rfl, rfl, rfl, rfl, rfl, rfl⟩, rfl, rfl⟩

theorem pruneIpRecentlyConnected_aside (s : TransportServer F H) (now : Instant) :
    Aside s (s.pruneIpRecentlyConnected now) := by
  unfold pruneIpRecentlyConnected
  split <;> exact ⟨⟨rfl, rfl, rfl, rfl, rfl, rfl, rfl⟩, rfl, rfl⟩

theorem markIpRecentlyConnected_aside (s : TransportServer F H) (addr : SocketAddr)
    (now : Instant) : Aside s (s.markIpRecentlyConnected addr now) := by
  unfold markIpRecentlyConnected
  split <;> exact ⟨⟨rfl, rfl, rfl, rfl, rfl, rfl, rfl⟩, rfl, rfl⟩

theorem pruneCookieMismatchGuardStates_aside (s : TransportServer F H) (now : Instant) :
    Aside s (s.pruneCookieMismatchGuardStates now) := by
  unfold pruneCookieMismatchGuardStates
  dsimp only
  split <;> exact ⟨⟨rfl, rfl, rfl, rfl, rfl, rfl, rfl⟩, rfl, rfl⟩

theorem pruneHandshakeHeuristicStates_aside (s : TransportServer F H) (now : Instant) :
    Aside s (s.pruneHandshakeHeuristicStates now) := by
  unfold pruneHandshakeHeuristicStates
  dsimp only
  split <;> exact ⟨⟨rfl, rfl, rfl, rfl, rfl, rfl, rfl⟩, rfl, rfl⟩

theorem rotateCookieKeysIfNeeded_tables (s : TransportServer F H) (env : Env) :
    SameTables s (s.rotateCookieKeysIfNeeded env) := by
  unfold rotateCookieKeysIfNeeded
  split
  · exact (Aside.refl s).toSameTables
  · split <;> exact ⟨rfl, rfl, rfl, rfl, rfl, rfl, rfl⟩

theorem blockAndCount_aside (s : TransportServer F H) (ip : IpAddr) (now : Instant)
    (duration : Duration) (reason : BlockReason) {f : TransportCounters → TransportCounters}
    (hstarted : ∀ c, (f c).sessionsStartedTotal = c.sessionsStartedTotal)
    (hclosed : ∀ c, (f c).sessionsClosedTotal = c.sessionsClosedTotal) :
    Aside s (s.blockAndCount ip now duration reason f).2 := by
  unfold blockAndCount
  dsimp only
  split
  · exact (Aside.limit s _).trans (.count _ hstarted hclosed)
  · exact .limit s _

theorem recordCookieMismatch_aside (s : TransportServer F H) (ip : IpAddr) (now : Instant) :
    Aside s (s.recordCookieMismatch ip now).2 := by
  unfold recordCookieMismatch
  dsimp only
  split
  · exact .refl s
  · -- the window may start again, the guard blocks at the threshold
    split
    all_goals
      split
      · exact ⟨⟨rfl, rfl, rfl, rfl, rfl, rfl, rfl⟩, rfl, rfl⟩
      · refine Aside.trans ?_ (blockAndCount_aside _ _ _ _ _ (fun _ => rfl) fun _ => rfl)
        exact ⟨⟨rfl, rfl, rfl, rfl, rfl, rfl, rfl⟩, rfl, rfl⟩

theorem recordHandshakeViolation_aside (s : TransportServer F H) (addr : SocketAddr)
    (violation : HandshakeViolation) (now : Instant) :
    Aside s (s.recordHandshakeViolation addr violation now).2 := by
  unfold recordHandshakeViolation
  dsimp only
  split
  · exact .refl s
  · split
    · exact .refl s
    · split
      all_goals
        split
        · refine Aside.trans ?_ (blockAndCount_aside _ _ _ _ _ (fun _ => rfl) fun _ => rfl)
          exact ⟨⟨rfl, rfl, rfl, rfl, rfl, rfl, rfl⟩, rfl, rfl⟩
        · exact ⟨⟨rfl, rfl, rfl, rfl, rfl, rfl, rfl⟩, rfl, rfl⟩

theorem countTimeout_aside (s : TransportServer F H) (stage : PendingHandshakeStage) :
    Aside s (s.countTimeout stage).2 := by
  cases stage <;> exact ⟨⟨rfl, rfl, rfl, rfl, rfl, rfl, rfl⟩, rfl, rfl⟩

theorem countStageCancelDrop_aside (s : TransportServer F H) : Aside s s.countStageCancelDrop :=
  ⟨⟨rfl, rfl, rfl, rfl, rfl, rfl, rfl⟩, rfl, rfl⟩

theorem routeOutboundTarget_aside (s : TransportServer F H) (addr : SocketAddr) :
    Aside s (s.routeOutboundTarget addr).2 := by
  unfold routeOutboundTarget
  split
  · exact .refl s
  · split
    · dsimp only
      split
      · exact ⟨⟨rfl, rfl, rfl, rfl, rfl, rfl, rfl⟩, rfl, rfl⟩
      · exact .refl s
    · exact ⟨⟨rfl, rfl, rfl, rfl, rfl, rfl, rfl⟩, rfl, rfl⟩

theorem routeInboundAddr_aside (s : TransportServer F H) (observedAddr : SocketAddr) :
    Aside s (s.routeInboundAddr observedAddr).2 := by
  unfold routeInboundAddr
  split
  · exact .refl s
  · split
    · dsimp only
      split
      · exact ⟨⟨rfl, rfl, rfl, rfl, rfl, rfl, rfl⟩, rfl, rfl⟩
      · exact .refl s
    · exact ⟨⟨rfl, rfl, rfl, rfl, rfl, rfl, rfl⟩, rfl, rfl⟩

theorem send_aside (s : TransportServer F H) (env : Env) (attempt : Nat) (addr : SocketAddr)
    (encoded : Except EncodeError Bytes) : Aside s (s.send env attempt addr encoded).2 := by
  have h := s.routeOutboundTarget_aside addr
  unfold send
  generalize s.routeOutboundTarget addr = r at h ⊢
  obtain ⟨target, s'⟩ := r
  dsimp only at h ⊢
  split
  · exact h
  · split
    · exact h
    · split <;> exact h

theorem sendDatagrams_aside (env : Env) (s : TransportServer F H) (attempt : Nat)
    (l : List (SocketAddr × Datagram)) : Aside s (sendDatagrams env s attempt l).2 := by
  induction l generalizing s attempt with
  | nil => exact .refl s
  | cons d rest ih =>
    obtain ⟨addr, datagram⟩ := d
    have h := s.send_aside env attempt addr datagram.encode
    unfold sendDatagrams
    generalize s.send env attempt addr datagram.encode = r at h ⊢
    obtain ⟨⟨result, sent⟩, s'⟩ := r
    cases result with
    | ok _ => exact h.trans (ih s' (attempt + 1))
    | error _ => exact h

/-! ## Closing a session -/

/-- Whether closing counts a session. -/
def countsClosed (session : Option (Session F H)) : Bool :=
  session.any fun session => shouldCountClosedSession session.state

/-- All that closing does to the tables and to what is counted of sessions. -/
structure ClosesOne (s s' : TransportServer F H) (addr : SocketAddr) : Prop where
  sessions : s'.sessions = s.sessions.erase addr
  pipelines : s'.sessionPipelines = s.sessionPipelines.erase addr
  pending : s'.pendingHandshakes = s.pendingHandshakes.erase addr
  config : s'.config = s.config
  hmac : s'.hmacSha256 = s.hmacSha256
  started : s'.counters.sessionsStartedTotal = s.counters.sessionsStartedTotal
  closed : s'.counters.sessionsClosedTotal =
    if countsClosed (s.sessions.lookup addr) then satAdd s.counters.sessionsClosedTotal 1
    else s.counters.sessionsClosedTotal

/-- Behind the removal only the counter of closed sessions changes. -/
theorem afterRemoval_aside (s : TransportServer F H) (env : Env) (addr : SocketAddr)
    (state : SessionState) :
    Aside
      (if shouldCountClosedSession state then
        s.count fun c => { c with sessionsClosedTotal := satAdd c.sessionsClosedTotal 1 } else s)
      (s.afterRemoval env addr state) := by
  unfold afterRemoval
  dsimp only
  by_cases hmark : shouldMarkIpRecentlyConnected state = true
  · rw [if_pos hmark]
    exact markIpRecentlyConnected_aside _ _ _
  · rw [if_neg hmark]
    exact .refl _

theorem closeSession_closesOne (s : TransportServer F H) (env : Env) (addr : SocketAddr) :
    ClosesOne s (s.closeSession env addr) addr := by
  unfold closeSession
  dsimp only
  cases hlookup : s.sessions.lookup addr with
  | none =>
    refine ⟨rfl, rfl, rfl, rfl, rfl, rfl, ?_⟩
    rw [hlookup]
    rfl
  | some session =>
    have h := afterRemoval_aside { s with
      pendingHandshakes := s.pendingHandshakes.erase addr
      sessions := s.sessions.erase addr } env addr session.state
    have hcounted : countsClosed (s.sessions.lookup addr)
        = shouldCountClosedSession session.state := by rw [hlookup]; rfl
    cases hcount : shouldCountClosedSession session.state with
    | true =>
      rw [hcount, if_pos rfl] at h
      refine ⟨h.sessions, congrArg (AList.erase addr) h.pipelines, h.pending, h.config, h.hmac,
        h.started, ?_⟩
      rw [hcounted, hcount]
      exact h.closed
    | false =>
      rw [hcount, if_neg Bool.false_ne_true] at h
      refine ⟨h.sessions, congrArg (AList.erase addr) h.pipelines, h.pending, h.config, h.hmac,
        h.started, ?_⟩
      rw [hcounted, hcount]
      exact h.closed

/-- A session that is stored again in its state and closed is just closed. -/
theorem ClosesOne.of_insert {s s' : TransportServer F H} {addr : SocketAddr}
    {session session' : Session F H} (hlookup : s.sessions.lookup addr = some session)
    (hstate : session'.state = session.state)
    (h : ClosesOne { s with sessions := s.sessions.insert addr session' } s' addr) :
    ClosesOne s s' addr where
  sessions := h.sessions.trans (AList.ext (List.kerase_cons_eq rfl))
  pipelines := h.pipelines
  pending := h.pending
  config := h.config
  hmac := h.hmac
  started := h.started
  closed := by
    rw [h.closed]
    simp only [AList.lookup_insert, hlookup, countsClosed, Option.any_some, hstate]

theorem ClosesOne.after {s m s' : TransportServer F H} {addr : SocketAddr} (h : SameTables s m)
    (h' : ClosesOne m s' addr) : ClosesOne s s' addr where
  sessions := by rw [h'.sessions, h.sessions]
  pipelines := by rw [h'.pipelines, h.pipelines]
  pending := by rw [h'.pending, h.pending]
  config := h'.config.trans h.config
  hmac := h'.hmac.trans h.hmac
  started := h'.started.trans h.started
  closed := by rw [h'.closed, h.sessions, h.closed]

/-- A close that is counted for its reason first. -/
theorem closeCounted_closesOne (s : TransportServer F H) (env : Env) (addr : SocketAddr)
    {f : TransportCounters → TransportCounters}
    (hstarted : ∀ c, (f c).sessionsStartedTotal = c.sessionsStartedTotal)
    (hclosed : ∀ c, (f c).sessionsClosedTotal = c.sessionsClosedTotal) :
    ClosesOne s ((s.count f).closeSession env addr) addr :=
  .after (Aside.count s hstarted hclosed).toSameTables (closeSession_closesOne _ env addr)

theorem recordIllegalStateTransition_closesOne (s : TransportServer F H) (env : Env)
    (addr : SocketAddr) : ClosesOne s (s.recordIllegalStateTransition env addr) addr :=
  s.closeCounted_closesOne env addr (f := fun c => { c with
    illegalStateTransitions := satAdd c.illegalStateTransitions 1 }) (fun _ => rfl) fun _ => rfl

theorem expireHandshake_closesOne (env : Env) (s : TransportServer F H)
    (expired : SocketAddr × PendingHandshake) :
    ClosesOne s (expireHandshake env s expired) expired.1 := by
  unfold expireHandshake
  have htimeout := s.countTimeout_aside expired.2.stage
  generalize s.countTimeout expired.2.stage = r at htimeout ⊢
  obtain ⟨violation, s₁⟩ := r
  dsimp only at htimeout ⊢
  have hviolation := s₁.countStageCancelDrop.recordHandshakeViolation_aside expired.1 violation
    env.now
  have haside := (htimeout.trans s₁.countStageCancelDrop_aside).trans hviolation
  exact .after haside.toSameTables (closeSession_closesOne _ env expired.1)

/-- The two servers hold the same for an address. -/
structure SameAt (s s' : TransportServer F H) (a : SocketAddr) : Prop where
  session : s'.sessions.lookup a = s.sessions.lookup a
  pipeline : s'.sessionPipelines.lookup a = s.sessionPipelines.lookup a
  pending : s'.pendingHandshakes.lookup a = s.pendingHandshakes.lookup a

theorem SameAt.trans {s s' s'' : TransportServer F H} {a : SocketAddr} (h : SameAt s s' a)
    (h' : SameAt s' s'' a) : SameAt s s'' a where
  session := h'.session.trans h.session
  pipeline := h'.pipeline.trans h.pipeline
  pending := h'.pending.trans h.pending

theorem SameTables.sameAt {s s' : TransportServer F H} (h : SameTables s s') (a : SocketAddr) :
    SameAt s s' a where
  session := congrArg (AList.lookup a) h.sessions
  pipeline := congrArg (AList.lookup a) h.pipelines
  pending := congrArg (AList.lookup a) h.pending

theorem ClosesOne.sameAt {s s' : TransportServer F H} {addr a : SocketAddr}
    (h : ClosesOne s s' addr) (ha : a ≠ addr) : SameAt s s' a where
  session := by rw [h.sessions, AList.lookup_erase_ne ha]
  pipeline := by rw [h.pipelines, AList.lookup_erase_ne ha]
  pending := by rw [h.pending, AList.lookup_erase_ne ha]

/-! ## Upkeep -/

variable [F64 F] [MinHeap H QueuedFrame QueuedFrame.weight]

/-- The tables after some upkeep. -/
inductive Upkeep (s : TransportServer F H) : TransportServer F H → Prop
  | refl : Upkeep s s
  | same {m s' : TransportServer F H} (h : Upkeep s m) (hsame : SameTables m s') : Upkeep s s'
  | close {m s' : TransportServer F H} {addr : SocketAddr} (h : Upkeep s m)
      (hclose : ClosesOne m s' addr) : Upkeep s s'
  | serve {m : TransportServer F H} {addr : SocketAddr} {session session' : Session F H}
      (h : Upkeep s m) (hlookup : m.sessions.lookup addr = some session)
      (hserves : session.Serves session') :
      Upkeep s { m with sessions := m.sessions.insert addr session' }

namespace Upkeep

variable {s s' s'' : TransportServer F H}

theorem trans (h : Upkeep s s') (h' : Upkeep s' s'') : Upkeep s s'' := by
  induction h' with
  | refl => exact h
  | same _ hsame ih => exact ih.same hsame
  | close _ hclose ih => exact ih.close hclose
  | serve _ hlookup hserves ih => exact ih.serve hlookup hserves

/-- A loop whose rounds are upkeep. -/
theorem foldl {β γ : Type} {f : TransportServer F H × γ → β → TransportServer F H × γ}
    (h : ∀ acc x, Upkeep acc.1 (f acc x).1) (xs : List β) (acc : TransportServer F H × γ) :
    Upkeep acc.1 (xs.foldl f acc).1 := by
  induction xs generalizing acc with
  | nil => exact .refl
  | cons x xs ih => exact (h acc x).trans (ih (f acc x))

theorem foldl_server {β : Type} {f : TransportServer F H → β → TransportServer F H}
    (h : ∀ s x, Upkeep s (f s x)) (xs : List β) (s : TransportServer F H) :
    Upkeep s (xs.foldl f s) := by
  induction xs generalizing s with
  | nil => exact .refl
  | cons x xs ih => exact (h s x).trans (ih (f s x))

end Upkeep

theorem SameTables.upkeep {s s' : TransportServer F H} (h : SameTables s s') : Upkeep s s' :=
  .same .refl h

theorem Aside.upkeep {s s' : TransportServer F H} (h : Aside s s') : Upkeep s s' :=
  h.toSameTables.upkeep

theorem ClosesOne.upkeep {s s' : TransportServer F H} {addr : SocketAddr}
    (h : ClosesOne s s' addr) : Upkeep s s' :=
  .close .refl h

theorem prunePendingHandshakes_upkeep (s : TransportServer F H) (env : Env) :
    Upkeep s (s.prunePendingHandshakes env) := by
  have hrounds := Upkeep.foldl_server
    (fun s expired => (expireHandshake_closesOne env s expired).upkeep) (s.expiredHandshakes env) s
  exact hrounds.trans (pruneHandshakeHeuristicStates_aside _ env.now).upkeep

theorem pruneIdleSessions_upkeep (s : TransportServer F H) (env : Env)
    (protectedAddr : Option SocketAddr) : Upkeep s (s.pruneIdleSessions env protectedAddr) := by
  unfold pruneIdleSessions
  split
  · exact .refl
  · refine Upkeep.foldl_server (fun s addr => ?_) _ s
    exact .close .refl (s.closeCounted_closesOne env addr (fun _ => rfl) fun _ => rfl)

theorem prepare_upkeep (s : TransportServer F H) (env : Env) (addr : SocketAddr) :
    Upkeep s (s.prepare env addr) :=
  (s.prunePendingHandshakes_upkeep env)
    |>.trans (pruneCookieMismatchGuardStates_aside _ _).upkeep
    |>.trans (pruneIpRecentlyConnected_aside _ _).upkeep
    |>.trans (pruneIdleSessions_upkeep _ env _)
    |>.trans (Aside.limit _ _).upkeep
    |>.trans (rotateCookieKeysIfNeeded_tables _ env).upkeep

theorem disconnectPeer_upkeep (s : TransportServer F H) (env : Env) (addr : SocketAddr) :
    Upkeep s (s.disconnectPeer env addr).2 := by
  unfold disconnectPeer
  split
  · exact .close .refl (s.closeCounted_closesOne env addr (fun _ => rfl) fun _ => rfl)
  · exact .refl

/-! ## Ticks and queueing -/

theorem queueConnectedControlPacket_serves (session : Session F H)
    (packet : ConnectedControlPacket) (reliability : Reliability) (channel : UInt8)
    (priority : RakPriority) :
    session.Serves
      (queueConnectedControlPacket session packet reliability channel priority).2 := by
  unfold queueConnectedControlPacket
  split
  · exact .refl session
  · exact session.serves_step (.queuePayload _ reliability channel priority none) rfl

theorem keepalive_serves (session : Session F H) (env : Env) (addr : SocketAddr) :
    session.Serves (keepalive session env addr).2.2 := by
  unfold keepalive
  have h := queueConnectedControlPacket_serves session (.connectedPing (env.nowMillis addr))
    .unreliable 0 .low
  generalize queueConnectedControlPacket session (.connectedPing (env.nowMillis addr))
    .unreliable 0 .low = r at h ⊢
  obtain ⟨queued, session'⟩ := r
  dsimp only at h ⊢
  have htake : ∀ session : Session F H, session.Serves session.takeBackpressureDisconnect.2 :=
    fun session => session.serves_step .takeBackpressureDisconnect rfl
  split
  · exact (h.trans (session'.serves_step (.markKeepaliveSent env.now) rfl)).trans (htake _)
  · exact h.trans (htake _)

theorem keepaliveRound_upkeep (env : Env) (acc : TransportServer F H × List SocketAddr)
    (addr : SocketAddr) : Upkeep acc.1 (keepaliveRound env acc addr).1 := by
  obtain ⟨s, closeAddrs⟩ := acc
  unfold keepaliveRound
  dsimp only
  split
  · exact .refl
  · next session hlookup =>
    split
    · exact .refl
    · have hserved := Upkeep.refl.serve hlookup (keepalive_serves session env addr)
      dsimp only
      split
      · exact hserved.same ⟨rfl, rfl, rfl, rfl, rfl, rfl, rfl⟩
      · exact hserved

theorem queueKeepalivePings_upkeep (s : TransportServer F H) (env : Env) :
    Upkeep s (s.queueKeepalivePings env) := by
  unfold queueKeepalivePings
  split
  · exact .refl
  · have hrounds := Upkeep.foldl (keepaliveRound_upkeep env)
      (env.order.arrange s.sessions.keys) (s, [])
    dsimp only
    generalize (env.order.arrange s.sessions.keys).foldl (keepaliveRound env) (s, []) = r
      at hrounds ⊢
    obtain ⟨s', closeAddrs⟩ := r
    exact hrounds.trans
      (Upkeep.foldl_server (fun s addr => (s.closeSession_closesOne env addr).upkeep) closeAddrs s')

theorem prepareTick_upkeep (s : TransportServer F H) (env : Env) : Upkeep s (s.prepareTick env) :=
  (s.prunePendingHandshakes_upkeep env)
    |>.trans (pruneCookieMismatchGuardStates_aside _ _).upkeep
    |>.trans (pruneIpRecentlyConnected_aside _ _).upkeep
    |>.trans (pruneIdleSessions_upkeep _ env _)
    |>.trans (queueKeepalivePings_upkeep _ env)
    |>.trans (Aside.limit _ _).upkeep
    |>.trans (rotateCookieKeysIfNeeded_tables _ env).upkeep

theorem tickRound_upkeep (env : Env) (maxNew maxNewBytes maxResend maxResendBytes : Nat)
    (acc : TransportServer F H × List (SocketAddr × Datagram)) (addr : SocketAddr) :
    Upkeep acc.1 (tickRound env maxNew maxNewBytes maxResend maxResendBytes acc addr).1 := by
  obtain ⟨s, pending⟩ := acc
  unfold tickRound
  dsimp only
  split
  · exact .refl
  · next session hlookup =>
    exact Upkeep.refl.serve hlookup
      (session.serves_step (.onTick env.now maxNew maxNewBytes maxResend maxResendBytes) rfl)

theorem tickOutbound_upkeep (s : TransportServer F H) (env : Env)
    (maxNew maxNewBytes maxResend maxResendBytes : Nat) :
    Upkeep s (s.tickOutbound env maxNew maxNewBytes maxResend maxResendBytes).2 := by
  have hrounds := Upkeep.foldl (tickRound_upkeep env maxNew maxNewBytes maxResend maxResendBytes)
    (env.order.arrange (s.prepareTick env).sessions.keys) (s.prepareTick env, [])
  exact ((s.prepareTick_upkeep env).trans hrounds).trans (sendDatagrams_aside env _ 0 _).upkeep

theorem queuePayload_upkeep (s : TransportServer F H) (env : Env) (addr : SocketAddr)
    (payload : Bytes) (reliability : Reliability) (channel : UInt8) (priority : RakPriority)
    (receiptId : Option UInt64) :
    Upkeep s (s.queuePayload env addr payload reliability channel priority receiptId).2 := by
  unfold queuePayload
  split
  · exact .refl
  · next session hlookup =>
    have hqueued : session.Serves
        (session.queuePayloadWithReceipt payload reliability channel priority receiptId).2.2 :=
      session.serves_step (.queuePayload payload reliability channel priority receiptId) rfl
    generalize session.queuePayloadWithReceipt payload reliability channel priority receiptId = r
      at hqueued ⊢
    obtain ⟨decision, made, session'⟩ := r
    dsimp only at hqueued ⊢
    split
    · exact (Upkeep.refl.serve hlookup hqueued).trans (closeSession_closesOne _ env addr).upkeep
    · have htaken : session.Serves session'.takeBackpressureDisconnect.2 :=
        hqueued.trans (session'.serves_step .takeBackpressureDisconnect rfl)
      have hserved := Upkeep.refl.serve hlookup htaken
      split
      · exact hserved.trans (closeSession_closesOne _ env addr).upkeep
      · split <;> exact hserved

end TransportServer

end Raknet
