-- SUMMARY: What the calls of the server write aside from the tables of its peers.
import Raknet.Send.Metrics
import Raknet.Transport.RateWindows
import Raknet.Transport.Steps

/-!
# Ledger

The counters of the server only rise, and the rate limiter is only changed by its
own operations. `Ledger I` is both facts about two servers, with the addresses
on which a block for a while may have been put in between. Blocks come of the
handshakes that run out of time and of the packets of the address they are from.

`Writes` adds what most calls leave alone: the router, what the guards remember, and
what cookies depend on. Only the calls that keep a guard write the second, and only
the rotation of the keys writes the third.
-/

namespace Raknet

/-- The counters of the server, in order. -/
def TransportCounters.values (c : TransportCounters) : List Nat :=
  [c.sessionsStartedTotal, c.sessionsClosedTotal, c.packetsForwardedTotal, c.bytesForwardedTotal,
    c.illegalStateTransitions, c.timedOutSessions, c.localRequestedDisconnects,
    c.remoteDisconnectNotifications, c.remoteDetectLostDisconnects, c.keepalivePingsSent,
    c.cookieRotations, c.cookieMismatchDrops, c.cookieMismatchBlocks, c.handshakeStageCancelDrops,
    c.handshakeReq1Req2Timeouts, c.handshakeReply2ConnectTimeouts, c.handshakeMissingReq1Drops,
    c.handshakeAutoBlocks, c.handshakeAlreadyConnectedRejects,
    c.handshakeIpRecentlyConnectedRejects, c.request2ServerAddrMismatchDrops,
    c.request2LegacyParseHits, c.request2LegacyDrops, c.request2AmbiguousParseHits,
    c.request2AmbiguousDrops, c.proxyInboundReroutes, c.proxyInboundDrops,
    c.proxyOutboundReroutes, c.proxyOutboundDrops]

/-- What the server does with the limiter by itself: it looks at the clock and at packets, and
    blocks these addresses for a while. -/
def RateLimiterOp.Internal (I : IpAddr → Prop) : RateLimiterOp → Prop
  | .check _ _ | .tick _ | .consumeProcessingBudget _ _ _ => True
  | .blockAddressForWithReason ip _ _ _ => I ip
  | _ => False

theorem RateLimiterOp.Internal.mono {I I' : IpAddr → Prop} {op : RateLimiterOp}
    (h : op.Internal I) (hle : ∀ ip, I ip → I' ip) : op.Internal I' := by
  cases op with
  | blockAddressForWithReason ip _ _ _ => exact hle ip h
  | check | tick | consumeProcessingBudget => trivial
  | _ => exact h

/-- The operation of the limiter that an operation of the server is. -/
def TransportOp.limiterOp : TransportOp → Option RateLimiterOp
  | .addRateLimitException ip => some (.addException ip)
  | .removeRateLimitException ip => some (.removeException ip)
  | .setProcessingBudgetConfig env config => some (.setProcessingBudgetConfig config env.now)
  | .setRateLimitConfig env perIpLimit globalLimit window blockDuration =>
    some (.updateLimits perIpLimit globalLimit window blockDuration env.now)
  | .setPerIpPacketLimit env limit => some (.setPerIpLimit limit env.now)
  | .setGlobalPacketLimit env limit => some (.setGlobalLimit limit env.now)
  | .setRateWindow env window => some (.setWindow window env.now)
  | .setBlockDuration blockDuration => some (.setBlockDuration blockDuration)
  | .blockAddress ip => some (.blockAddressWithReason ip .manual)
  | .blockAddressFor env ip duration =>
    some (.blockAddressForWithReason ip env.now duration .manual)
  | .unblockAddress ip => some (.unblockAddress ip)
  | _ => none

variable {F H : Type} [F64 F]

namespace TransportServer

/-- The counters rise, and the limiter is changed by its own operations, which block only
    these addresses. -/
structure Ledger (I : IpAddr → Prop) (s s' : TransportServer F H) : Prop where
  counters : CountersRise s.counters.values s'.counters.values
  limiter : rateLimiterMachine.Reaches (RateLimiterOp.Internal I) s.rateLimiter s'.rateLimiter

namespace Ledger

variable {I I' : IpAddr → Prop} {s s' s'' : TransportServer F H}

theorem of_eq (hcounters : s'.counters = s.counters) (hlimiter : s'.rateLimiter = s.rateLimiter) :
    Ledger I s s' := by
  refine ⟨?_, ?_⟩
  · rw [hcounters]
    exact .refl _ _
  · rw [hlimiter]
    exact .refl _

theorem refl (s : TransportServer F H) : Ledger I s s := .of_eq rfl rfl

theorem trans (h : Ledger I s s') (h' : Ledger I s' s'') : Ledger I s s'' where
  counters := h.counters.trans h'.counters
  limiter := h.limiter.trans h'.limiter

theorem mono (h : Ledger I s s') (hle : ∀ ip, I ip → I' ip) : Ledger I' s s' :=
  ⟨h.counters, h.limiter.mono fun _ hop => hop.mono hle⟩

/-- An operation of the limiter. -/
theorem limit (s : TransportServer F H) {o : RateLimiterOp} (hop : o.Internal I) :
    Ledger I s { s with rateLimiter := (s.rateLimiter.step o).1 } :=
  ⟨.refl _ _, .step hop s.rateLimiter⟩

/-- A change of the counters. -/
theorem count (s : TransportServer F H) {f : TransportCounters → TransportCounters}
    (h : ∀ c, CountersRise c.values (f c).values) : Ledger I s (s.count f) :=
  ⟨h s.counters, .refl _⟩

end Ledger

/-- What is remembered of violations and of wrong cookies is the same. -/
structure SameGuards (s s' : TransportServer F H) : Prop where
  config : s'.config = s.config
  heuristics : s'.handshakeHeuristics = s.handshakeHeuristics
  cookieGuard : s'.cookieMismatchGuardStates = s.cookieMismatchGuardStates

/-- All that making, checking and replacing cookies depends on. -/
structure SameCookies (s s' : TransportServer F H) : Prop where
  config : s'.config = s.config
  hmac : s'.hmacSha256 = s.hmacSha256
  current : s'.cookieKeyCurrent = s.cookieKeyCurrent
  previous : s'.cookieKeyPrevious = s.cookieKeyPrevious
  rotation : s'.nextCookieRotation = s.nextCookieRotation

/-- All of a server that `Writes` is about. -/
def written (s : TransportServer F H) :=
  (s.counters, s.rateLimiter, s.proxyRouter, s.config, s.hmacSha256, s.handshakeHeuristics,
    s.cookieMismatchGuardStates, s.cookieKeyCurrent, s.cookieKeyPrevious, s.nextCookieRotation)

/-- The ledger of a call that writes to the guards only if `G`, and to the keys only if `K`. -/
structure Writes (G K : Prop) (I : IpAddr → Prop) (s s' : TransportServer F H) : Prop
    extends Ledger I s s' where
  router : s'.proxyRouter = s.proxyRouter
  guards : G ∨ SameGuards s s'
  cookies : K ∨ SameCookies s s'

namespace Writes

variable {G K : Prop} {I I' : IpAddr → Prop} {s s' s'' : TransportServer F H}

/-- A call that writes to the tables of the peers alone. -/
theorem of_eq (h : s'.written = s.written) : Writes G K I s s' := by
  simp only [written, Prod.mk.injEq] at h
  obtain ⟨hcounters, hlimiter, hrouter, hconfig, hhmac, hheuristics, hguard, hcurrent, hprevious,
    hrotation⟩ := h
  exact ⟨.of_eq hcounters hlimiter, hrouter, .inr ⟨hconfig, hheuristics, hguard⟩,
    .inr ⟨hconfig, hhmac, hcurrent, hprevious, hrotation⟩⟩

theorem refl (s : TransportServer F H) : Writes G K I s s := .of_eq rfl

theorem trans (h : Writes G K I s s') (h' : Writes G K I s' s'') : Writes G K I s s'' where
  toLedger := h.toLedger.trans h'.toLedger
  router := h'.router.trans h.router
  guards := by
    obtain hG | hs := h.guards
    · exact .inl hG
    · refine h'.guards.imp_right fun hs' => ?_
      exact ⟨hs'.config.trans hs.config, hs'.heuristics.trans hs.heuristics,
        hs'.cookieGuard.trans hs.cookieGuard⟩
  cookies := by
    obtain hK | hs := h.cookies
    · exact .inl hK
    · refine h'.cookies.imp_right fun hs' => ?_
      exact ⟨hs'.config.trans hs.config, hs'.hmac.trans hs.hmac, hs'.current.trans hs.current,
        hs'.previous.trans hs.previous, hs'.rotation.trans hs.rotation⟩

theorem mono (h : Writes G K I s s') (hle : ∀ ip, I ip → I' ip) : Writes G K I' s s' :=
  ⟨h.toLedger.mono hle, h.router, h.guards, h.cookies⟩

theorem sameCookies (h : Writes True False I s s') : SameCookies s s' :=
  h.cookies.resolve_left id

/-- An operation of the limiter. -/
theorem limit (s : TransportServer F H) {o : RateLimiterOp} (hop : o.Internal I) :
    Writes G K I s { s with rateLimiter := (s.rateLimiter.step o).1 } :=
  ⟨.limit s hop, rfl, .inr ⟨rfl, rfl, rfl⟩, .inr ⟨rfl, rfl, rfl, rfl, rfl⟩⟩

/-- A change of what the guards remember. -/
theorem guard (s : TransportServer F H) (heuristics : AssocMap IpAddr HandshakeHeuristicState)
    (cookieGuard : AssocMap IpAddr CookieMismatchGuardState) :
    Writes True K I s { s with
      handshakeHeuristics := heuristics
      cookieMismatchGuardStates := cookieGuard } :=
  ⟨.of_eq rfl rfl, rfl, .inl trivial, .inr ⟨rfl, rfl, rfl, rfl, rfl⟩⟩

/-- A change of the counters. -/
theorem count (s : TransportServer F H) {f : TransportCounters → TransportCounters}
    (h : ∀ c, CountersRise c.values (f c).values) : Writes G K I s (s.count f) :=
  ⟨.count s h, rfl, .inr ⟨rfl, rfl, rfl⟩, .inr ⟨rfl, rfl, rfl, rfl, rfl⟩⟩

theorem foldl {β γ : Type} {f : TransportServer F H × γ → β → TransportServer F H × γ}
    (h : ∀ acc x, Writes G K I acc.1 (f acc x).1) (xs : List β) (acc : TransportServer F H × γ) :
    Writes G K I acc.1 (xs.foldl f acc).1 := by
  induction xs generalizing acc with
  | nil => exact .refl acc.1
  | cons x xs ih => exact (h acc x).trans (ih (f acc x))

theorem foldl_server {β : Type} {f : TransportServer F H → β → TransportServer F H} {xs : List β}
    (h : ∀ s, ∀ x ∈ xs, Writes G K I s (f s x)) (s : TransportServer F H) :
    Writes G K I s (xs.foldl f s) := by
  induction xs generalizing s with
  | nil => exact .refl s
  | cons x xs ih =>
    exact (h s x List.mem_cons_self).trans
      (ih (fun s x hx => h s x (List.mem_cons_of_mem _ hx)) (f s x))

end Writes

/-! ## Housekeeping -/

variable {G K : Prop} {I : IpAddr → Prop}

theorem recordRemoteDisconnect_writes (s : TransportServer F H)
    (reason : RemoteDisconnectReason) : Writes G K I s (s.recordRemoteDisconnect reason) := by
  unfold recordRemoteDisconnect
  split <;> exact .count s fun c => by simp [TransportCounters.values]

theorem pruneIpRecentlyConnected_writes (s : TransportServer F H) (now : Instant) :
    Writes G K I s (s.pruneIpRecentlyConnected now) := by
  unfold pruneIpRecentlyConnected
  split <;> exact .of_eq rfl

theorem markIpRecentlyConnected_writes (s : TransportServer F H) (addr : SocketAddr)
    (now : Instant) : Writes G K I s (s.markIpRecentlyConnected addr now) := by
  unfold markIpRecentlyConnected
  split <;> exact .of_eq rfl

theorem pruneCookieMismatchGuardStates_writes (s : TransportServer F H) (now : Instant) :
    Writes True K I s (s.pruneCookieMismatchGuardStates now) := by
  unfold pruneCookieMismatchGuardStates
  dsimp only
  split <;> exact .guard s _ _

theorem pruneHandshakeHeuristicStates_writes (s : TransportServer F H) (now : Instant) :
    Writes True K I s (s.pruneHandshakeHeuristicStates now) := by
  unfold pruneHandshakeHeuristicStates
  dsimp only
  split <;> exact .guard s _ _

theorem rotateCookieKeysIfNeeded_writes (s : TransportServer F H) (env : Env) :
    Writes G True I s (s.rotateCookieKeysIfNeeded env) := by
  unfold rotateCookieKeysIfNeeded
  split
  · exact .refl s
  · split
    · exact .refl s
    · exact ⟨⟨by simp [TransportCounters.values], .refl _⟩, rfl, .inr ⟨rfl, rfl, rfl⟩, .inl trivial⟩

theorem blockAndCount_writes (s : TransportServer F H) {ip : IpAddr} (hip : I ip)
    (now : Instant) (duration : Duration) (reason : BlockReason)
    {f : TransportCounters → TransportCounters}
    (h : ∀ c, CountersRise c.values (f c).values) :
    Writes G K I s (s.blockAndCount ip now duration reason f).2 := by
  have hlimit := Writes.limit (G := G) (K := K) (I := I) s
    (o := .blockAddressForWithReason ip now duration reason) hip
  unfold blockAndCount
  dsimp only
  split
  · exact hlimit.trans (.count _ h)
  · exact hlimit

theorem recordCookieMismatch_writes (s : TransportServer F H) {ip : IpAddr} (hip : I ip)
    (now : Instant) : Writes True K I s (s.recordCookieMismatch ip now).2 := by
  unfold recordCookieMismatch
  dsimp only
  split
  · exact .refl s
  · split
    all_goals
      split
      · exact .guard s _ _
      · refine Writes.trans ?_ (blockAndCount_writes _ hip _ _ _ fun c => ?_)
        · exact .guard s _ _
        · simp [TransportCounters.values]

/-- The heuristics can block an address. -/
def heuristicsBlock (s : TransportServer F H) : Prop :=
  s.config.handshakeHeuristics.enabled = true ∧ s.config.handshakeHeuristics.scoreThreshold ≠ 0 ∧
    s.config.handshakeHeuristics.eventWindow ≠ 0 ∧ s.config.handshakeHeuristics.blockDuration ≠ 0

theorem recordHandshakeViolation_writes (s : TransportServer F H) (addr : SocketAddr)
    (violation : HandshakeViolation) (now : Instant) (hip : s.heuristicsBlock → I addr.ip) :
    Writes True K I s (s.recordHandshakeViolation addr violation now).2 := by
  unfold recordHandshakeViolation
  dsimp only
  split
  · exact .refl s
  · next hblock =>
    have hblocks : s.heuristicsBlock := by simpa [heuristicsBlock, not_or] using hblock
    split
    · exact .refl s
    · split
      all_goals
        split
        · refine Writes.trans ?_ (blockAndCount_writes _ (hip hblocks) _ _ _ fun c => ?_)
          · exact .guard s _ _
          · simp [TransportCounters.values]
        · exact .guard s _ _

theorem countTimeout_writes (s : TransportServer F H) (stage : PendingHandshakeStage) :
    Writes G K I s (s.countTimeout stage).2 := by
  unfold countTimeout
  split
  all_goals
    dsimp only
    exact .count s fun c => by simp [TransportCounters.values]

theorem countStageCancelDrop_writes (s : TransportServer F H) :
    Writes G K I s s.countStageCancelDrop :=
  .count s fun c => by simp [TransportCounters.values]

theorem routeOutboundTarget_writes (s : TransportServer F H) (addr : SocketAddr) :
    Writes G K I s (s.routeOutboundTarget addr).2 := by
  unfold routeOutboundTarget
  split
  · exact .refl s
  · split
    · dsimp only
      split
      · exact .count s fun c => by simp [TransportCounters.values]
      · exact .refl s
    · dsimp only
      exact .count s fun c => by simp [TransportCounters.values]

theorem routeInboundAddr_writes (s : TransportServer F H) (observedAddr : SocketAddr) :
    Writes G K I s (s.routeInboundAddr observedAddr).2 := by
  unfold routeInboundAddr
  split
  · exact .refl s
  · split
    · dsimp only
      split
      · exact .count s fun c => by simp [TransportCounters.values]
      · exact .refl s
    · dsimp only
      exact .count s fun c => by simp [TransportCounters.values]

theorem send_writes (s : TransportServer F H) (env : Env) (attempt : Nat) (addr : SocketAddr)
    (encoded : Except EncodeError Bytes) : Writes G K I s (s.send env attempt addr encoded).2 := by
  have h := s.routeOutboundTarget_writes (G := G) (K := K) (I := I) addr
  unfold send
  generalize s.routeOutboundTarget addr = r at h ⊢
  obtain ⟨target, s'⟩ := r
  dsimp only at h ⊢
  split
  · exact h
  · split
    · exact h
    · split <;> exact h

theorem sendDatagrams_writes (env : Env) (s : TransportServer F H) (attempt : Nat)
    (l : List (SocketAddr × Datagram)) : Writes G K I s (sendDatagrams env s attempt l).2 := by
  induction l generalizing s attempt with
  | nil => exact .refl s
  | cons d rest ih =>
    obtain ⟨addr, datagram⟩ := d
    have h := s.send_writes (G := G) (K := K) (I := I) env attempt addr datagram.encode
    unfold sendDatagrams
    generalize s.send env attempt addr datagram.encode = r at h ⊢
    obtain ⟨⟨result, sent⟩, s'⟩ := r
    cases result with
    | ok _ => exact h.trans (ih s' (attempt + 1))
    | error _ => exact h

theorem afterRemoval_writes (s : TransportServer F H) (env : Env) (addr : SocketAddr)
    (state : SessionState) : Writes G K I s (s.afterRemoval env addr state) := by
  have hcounted : Writes G K I s (if shouldCountClosedSession state then
      s.count fun c => { c with sessionsClosedTotal := satAdd c.sessionsClosedTotal 1 }
      else s) := by
    split
    · exact .count s fun c => by simp [TransportCounters.values]
    · exact .refl s
  unfold afterRemoval
  dsimp only
  split
  · exact hcounted.trans (markIpRecentlyConnected_writes _ addr _)
  · exact hcounted

theorem closeSession_writes (s : TransportServer F H) (env : Env) (addr : SocketAddr) :
    Writes G K I s (s.closeSession env addr) := by
  unfold closeSession
  dsimp only
  cases s.sessions.lookup addr with
  | none => exact .of_eq rfl
  | some session =>
    refine Writes.trans ?_ ((afterRemoval_writes _ env addr session.state).trans (.of_eq rfl))
    exact .of_eq rfl

/-- A close that is counted for its reason first. -/
theorem closeCounted_writes (s : TransportServer F H) (env : Env) (addr : SocketAddr)
    {f : TransportCounters → TransportCounters} (h : ∀ c, CountersRise c.values (f c).values) :
    Writes G K I s ((s.count f).closeSession env addr) :=
  (Writes.count s h).trans (closeSession_writes _ env addr)

theorem recordIllegalStateTransition_writes (s : TransportServer F H) (env : Env)
    (addr : SocketAddr) : Writes G K I s (s.recordIllegalStateTransition env addr) :=
  s.closeCounted_writes env addr (f := fun c => { c with
    illegalStateTransitions := satAdd c.illegalStateTransitions 1 })
    fun c => by simp [TransportCounters.values]

omit [F64 F] in
theorem heuristicsBlock_congr {s s' : TransportServer F H} (h : s'.config = s.config) :
    s'.heuristicsBlock ↔ s.heuristicsBlock := by
  rw [heuristicsBlock, h, heuristicsBlock]

theorem expireHandshake_writes (env : Env) (s : TransportServer F H)
    (expired : SocketAddr × PendingHandshake) (hip : s.heuristicsBlock → I expired.1.ip) :
    Writes True K I s (expireHandshake env s expired) := by
  unfold expireHandshake
  have htimeout := s.countTimeout_writes (G := True) (K := K) (I := I) expired.2.stage
  have hconfig := (s.countTimeout_aside expired.2.stage).config
  generalize s.countTimeout expired.2.stage = r at htimeout hconfig ⊢
  obtain ⟨violation, s₁⟩ := r
  dsimp only at htimeout hconfig ⊢
  exact htimeout
    |>.trans s₁.countStageCancelDrop_writes
    |>.trans (recordHandshakeViolation_writes _ expired.1 violation env.now fun h =>
      hip ((heuristicsBlock_congr hconfig).mp h))
    |>.trans (closeSession_writes _ env expired.1)

/-- A handshake from the address has run out of time, and the heuristics may block for it. -/
def timesOut (s : TransportServer F H) (env : Env) (ip : IpAddr) : Prop :=
  s.heuristicsBlock ∧ ∃ addr pending, s.pendingHandshakes.lookup addr = some pending ∧
    pending.expiresAt ≤ env.now ∧ addr.ip = ip

theorem expireHandshakes_writes (env : Env) (expired : List (SocketAddr × PendingHandshake))
    (s : TransportServer F H) (hips : s.heuristicsBlock → ∀ e ∈ expired, I e.1.ip) :
    Writes True K I s (expired.foldl (expireHandshake env) s) := by
  induction expired generalizing s with
  | nil => exact .refl s
  | cons e rest ih =>
    have hconfig := (expireHandshake_closesOne env s e).config
    refine (expireHandshake_writes env s e fun h => hips h e List.mem_cons_self).trans
      (ih _ fun h e' he' => ?_)
    exact hips ((heuristicsBlock_congr hconfig).mp h) e' (List.mem_cons_of_mem e he')

theorem prunePendingHandshakes_writes (s : TransportServer F H) (env : Env) :
    Writes True K (s.timesOut env) s (s.prunePendingHandshakes env) := by
  refine (expireHandshakes_writes env (s.expiredHandshakes env) s fun h e he => ?_).trans
    (pruneHandshakeHeuristicStates_writes _ env.now)
  obtain ⟨pending, hlookup, hexpired⟩ :=
    mem_expiredHandshakes.mp (List.mem_map_of_mem (f := Prod.fst) he)
  exact ⟨h, e.1, pending, hlookup, hexpired, rfl⟩

theorem pruneIdleSessions_writes (s : TransportServer F H) (env : Env)
    (protectedAddr : Option SocketAddr) :
    Writes G K I s (s.pruneIdleSessions env protectedAddr) := by
  unfold pruneIdleSessions
  split
  · exact .refl s
  · refine Writes.foldl_server (fun s addr _ => s.closeCounted_writes env addr fun c => ?_) s
    simp [TransportCounters.values]

/-- The clock of the limiter. -/
theorem tick_writes (s : TransportServer F H) (now : Instant) :
    Writes G K I s { s with rateLimiter := s.rateLimiter.tick now } :=
  .limit s (o := .tick now) trivial

theorem prepare_writes (s : TransportServer F H) (env : Env) (addr : SocketAddr) :
    Writes True True (s.timesOut env) s (s.prepare env addr) :=
  (s.prunePendingHandshakes_writes env)
    |>.trans (pruneCookieMismatchGuardStates_writes _ _)
    |>.trans (pruneIpRecentlyConnected_writes _ _)
    |>.trans (pruneIdleSessions_writes _ env _)
    |>.trans (tick_writes _ _)
    |>.trans (rotateCookieKeysIfNeeded_writes _ env)

theorem disconnectPeer_writes (s : TransportServer F H) (env : Env) (addr : SocketAddr) :
    Writes G K I s (s.disconnectPeer env addr).2 := by
  unfold disconnectPeer
  split
  · dsimp only
    exact s.closeCounted_writes env addr fun c => by simp [TransportCounters.values]
  · exact .refl s

/-! ## Packets -/

theorem countIpRecentlyConnectedReject_writes (s : TransportServer F H) :
    Writes G K I s s.countIpRecentlyConnectedReject :=
  .count s fun c => by simp [TransportCounters.values]

theorem countAlreadyConnectedReject_writes (s : TransportServer F H) :
    Writes G K I s s.countAlreadyConnectedReject :=
  .count s fun c => by simp [TransportCounters.values]

section Offline

variable (s : TransportServer F H) (env : Env) (addr : SocketAddr) (hip : I addr.ip)

include hip

theorem dropForTimeout_writes (pending : PendingHandshake) :
    Writes True K I s (s.dropForTimeout env addr pending).server := by
  unfold dropForTimeout
  have htimeout := s.countTimeout_writes (G := True) (K := K) (I := I) pending.stage
  generalize s.countTimeout pending.stage = r at htimeout ⊢
  obtain ⟨violation, s₁⟩ := r
  dsimp only at htimeout ⊢
  exact htimeout
    |>.trans s₁.countStageCancelDrop_writes
    |>.trans (recordHandshakeViolation_writes _ addr violation env.now fun _ => hip)
    |>.trans (closeSession_writes _ env addr)

theorem dropForCookie_writes : Writes True K I s (s.dropForCookie env addr).server := by
  unfold dropForCookie
  dsimp only
  refine Writes.trans (Writes.trans (Writes.trans (.count s fun c => ?_)
    (countStageCancelDrop_writes _)) (recordCookieMismatch_writes _ hip env.now))
    (recordHandshakeViolation_writes _ addr .cookieMismatch env.now fun _ => hip)
  simp [TransportCounters.values]

theorem dropAsViolation_writes (violation : HandshakeViolation) :
    Writes True K I s (s.dropAsViolation env addr violation).server :=
  s.countStageCancelDrop_writes.trans
    (recordHandshakeViolation_writes _ addr violation env.now fun _ => hip)

omit hip in
theorem retryRequest2_writes (req2 : OpenConnectionRequest2) (pending : PendingHandshake) :
    Writes G K I s (s.retryRequest2 env addr req2 pending).server := by
  unfold retryRequest2
  dsimp only
  split
  · exact s.recordIllegalStateTransition_writes env addr
  · split
    · exact s.recordIllegalStateTransition_writes env addr
    · exact .of_eq rfl

omit hip in
theorem acceptRequest2_writes (req2 : OpenConnectionRequest2) (pending : PendingHandshake) :
    Writes G K I s (s.acceptRequest2 env addr req2 pending).server := by
  unfold acceptRequest2
  dsimp only
  split
  · exact s.recordIllegalStateTransition_writes env addr
  · split
    · refine Writes.trans ?_ (recordIllegalStateTransition_writes _ env addr)
      exact .of_eq rfl
    · exact .of_eq rfl

omit hip in
theorem verifiedRequest2_writes (req2 : OpenConnectionRequest2) (pending : PendingHandshake) :
    Writes True K I s (s.verifiedRequest2 env addr req2 pending).server := by
  have hclear : Writes True K I s (s.clearCookieMismatchState addr.ip) := .guard s _ _
  unfold verifiedRequest2
  dsimp only
  split
  · exact hclear.trans (retryRequest2_writes _ env addr req2 pending)
  · split
    · exact hclear
    · exact hclear.trans (acceptRequest2_writes _ env addr req2 pending)

theorem checkedRequest2_writes (req2 : OpenConnectionRequest2) :
    Writes True K I s (s.checkedRequest2 env addr req2).server := by
  unfold checkedRequest2
  split
  · refine Writes.trans (.count s fun c => ?_) (dropAsViolation_writes _ env addr hip _)
    simp [TransportCounters.values]
  · next pending _ =>
    split
    · exact s.dropForTimeout_writes env addr hip pending
    · split
      · exact s.dropForCookie_writes env addr hip
      · exact s.verifiedRequest2_writes env addr req2 pending

theorem addressedRequest2_writes (req2 : OpenConnectionRequest2) :
    Writes True K I s (s.addressedRequest2 env addr req2).server := by
  unfold addressedRequest2
  split
  · refine Writes.trans (.count s fun c => ?_) (countStageCancelDrop_writes _)
    simp [TransportCounters.values]
  · exact s.checkedRequest2_writes env addr hip req2

/-- A request that was parsed in a doubtful way is counted, and dropped or handled. -/
theorem doubtfulRequest2_writes (req2 : OpenConnectionRequest2) (drop : Prop) [Decidable drop]
    {hit dropped : TransportCounters → TransportCounters}
    (hhit : ∀ c, CountersRise c.values (hit c).values)
    (hdropped : ∀ c, CountersRise c.values (dropped c).values) :
    Writes True K I s
      (if drop then ((s.count hit).count dropped).dropAsViolation env addr .parseAnomalyDrop
       else (s.count hit).addressedRequest2 env addr req2).server := by
  refine Writes.trans (.count s hhit) ?_
  split
  · exact (Writes.count _ hdropped).trans (dropAsViolation_writes _ env addr hip _)
  · exact addressedRequest2_writes _ env addr hip req2

theorem handleRequest2_writes (req2 : OpenConnectionRequest2) :
    Writes True K I s (s.handleRequest2 env addr req2).server := by
  unfold handleRequest2
  refine (s.pruneIpRecentlyConnected_writes env.now).trans ?_
  dsimp only
  generalize s.pruneIpRecentlyConnected env.now = s
  split
  · exact s.countIpRecentlyConnectedReject_writes
  · split
    · exact s.countAlreadyConnectedReject_writes
    · cases req2.parsePath with
      | legacyHeuristic | ambiguousPreferredNoCookie | ambiguousPreferredWithCookie =>
        refine s.doubtfulRequest2_writes env addr hip req2 _ (fun c => ?_) fun c => ?_
        all_goals simp [TransportCounters.values]
      | strictNoCookie | strictWithCookie =>
        exact s.addressedRequest2_writes env addr hip req2

omit hip in
theorem handleRequest1_writes [MinHeap H QueuedFrame QueuedFrame.weight]
    (req1 : OpenConnectionRequest1) : Writes G K I s (s.handleRequest1 env addr req1).server := by
  unfold handleRequest1
  split
  · exact .refl s
  · refine (s.pruneIpRecentlyConnected_writes env.now).trans ?_
    dsimp only
    generalize s.pruneIpRecentlyConnected env.now = s
    split
    · exact s.countIpRecentlyConnectedReject_writes
    · split
      · exact s.countAlreadyConnectedReject_writes
      · split
        · exact s.countAlreadyConnectedReject_writes
        · split
          · exact .refl s
          · exact .of_eq rfl

theorem handleOfflinePacket_writes [MinHeap H QueuedFrame QueuedFrame.weight]
    (packet : OfflinePacket) : Writes True K I s (s.handleOfflinePacket env addr packet).server := by
  cases packet with
  | openConnectionRequest1 req1 => exact s.handleRequest1_writes env addr req1
  | openConnectionRequest2 req2 => exact s.handleRequest2_writes env addr hip req2
  | _ => exact .refl s

theorem processOffline_writes [MinHeap H QueuedFrame QueuedFrame.weight]
    (packet : OfflinePacket) : Writes True K I s (s.processOffline env addr packet).2 := by
  have hhandled := s.handleOfflinePacket_writes (K := K) env addr hip packet
  unfold processOffline
  dsimp only
  split
  · exact hhandled
  · exact hhandled.trans (send_writes _ env 0 addr _)

end Offline

variable [MinHeap H QueuedFrame QueuedFrame.weight]

omit [MinHeap H QueuedFrame QueuedFrame.weight] in
theorem finishConnected_writes (s : TransportServer F H) (env : Env) (addr : SocketAddr)
    (o : ConnectedOutcome F H) : Writes G K I s (s.finishConnected env addr o).2 := by
  have hstarted : ∀ m : TransportServer F H, Writes G K I m (if o.becameConnected then
      m.count fun c => { c with sessionsStartedTotal := satAdd c.sessionsStartedTotal 1 }
      else m) := by
    intro m
    split
    · exact .count m fun c => by simp [TransportCounters.values]
    · exact .refl m
  have hsettled : ∀ m : TransportServer F H, Writes G K I m (if m.isConnected addr then
      { m with pendingHandshakes := m.pendingHandshakes.erase addr } else m) := by
    intro m
    split
    · exact .of_eq rfl
    · exact .refl m
  have hforwarded : ∀ (m : TransportServer F H) (frames : List ConnectedFrameDelivery),
      Writes G K I m (m.count fun c => { c with
        packetsForwardedTotal := satAdd c.packetsForwardedTotal frames.length
        bytesForwardedTotal :=
          satAdd c.bytesForwardedTotal (frames.map fun frame => frame.payload.length).sum }) :=
    fun m frames => .count m fun c => by simp [TransportCounters.values]
  unfold finishConnected
  cases o.loop.closeSession with
  | false => exact (hstarted s).trans ((hsettled _).trans (hforwarded _ _))
  | true =>
    cases o.loop.remoteDisconnectReason with
    | some reason =>
      exact (s.recordRemoteDisconnect_writes reason).trans (closeSession_writes _ env addr)
    | none =>
      exact (s.closeSession_writes env addr).trans
        ((hstarted _).trans ((hsettled _).trans (hforwarded _ _)))

theorem processDatagram_writes (s : TransportServer F H) (env : Env) (addr : SocketAddr)
    (datagram : Datagram) : Writes G K I s (s.processDatagram env addr datagram).2 := by
  unfold processDatagram
  split
  · exact .of_eq rfl
  · next o session _ =>
    dsimp only
    have hstored : Writes G K I s { s with
        sessions := s.sessions.insert addr session
        sessionPipelines := s.sessionPipelines.insert addr o.loop.pipeline } := .of_eq rfl
    refine hstored.trans ?_
    generalize ({ s with
      sessions := s.sessions.insert addr session
      sessionPipelines := s.sessionPipelines.insert addr o.loop.pipeline } :
      TransportServer F H) = m
    split
    · exact .refl m
    · have hsent : Writes G K I m (if o.loop.illegalTransition then
          ((⟨.ok (), []⟩ : CallResult Unit), m.count fun c => { c with
            illegalStateTransitions := satAdd c.illegalStateTransitions 1 })
          else sendDatagrams env m 0 (o.datagrams.map fun datagram => (addr, datagram))).2 := by
        split
        · dsimp only
          exact .count m fun c => by simp [TransportCounters.values]
        · exact sendDatagrams_writes env m 0 _
      generalize (if o.loop.illegalTransition then
          ((⟨.ok (), []⟩ : CallResult Unit), m.count fun c => { c with
            illegalStateTransitions := satAdd c.illegalStateTransitions 1 })
          else sendDatagrams env m 0 (o.datagrams.map fun datagram => (addr, datagram))) = r
        at hsent ⊢
      obtain ⟨r, m'⟩ := r
      dsimp only at hsent ⊢
      split
      · exact hsent
      · exact hsent.trans (m'.finishConnected_writes env addr o)

theorem processConnected_writes (s : TransportServer F H) (env : Env) (addr : SocketAddr)
    (datagram : Datagram) (len : Nat) :
    Writes G K I s (s.processConnected env addr datagram len).2 := by
  unfold processConnected
  split
  · exact .refl s
  · split
    · exact .refl s
    · split
      · have hlimit := Writes.limit (G := G) (K := K) (I := I) s (o := .consumeProcessingBudget addr.ip
          (estimateConnectedDatagramProcessingCost len datagram) env.now) trivial
        dsimp only
        split
        · exact hlimit.trans (processDatagram_writes _ env addr datagram)
        · exact hlimit
        · exact hlimit
      · exact s.processDatagram_writes env addr datagram

/-! ## Ticks and queueing -/

theorem keepaliveRound_writes (env : Env) (acc : TransportServer F H × List SocketAddr)
    (addr : SocketAddr) : Writes G K I acc.1 (keepaliveRound env acc addr).1 := by
  obtain ⟨s, closeAddrs⟩ := acc
  unfold keepaliveRound
  dsimp only
  split
  · exact .refl s
  · split
    · exact .refl s
    · dsimp only
      split
      · refine Writes.trans ?_ (.count _ fun c => ?_)
        · exact .of_eq rfl
        · simp [TransportCounters.values]
      · exact .of_eq rfl

theorem queueKeepalivePings_writes (s : TransportServer F H) (env : Env) :
    Writes G K I s (s.queueKeepalivePings env) := by
  unfold queueKeepalivePings
  split
  · exact .refl s
  · have hrounds := Writes.foldl (G := G) (K := K) (I := I) (keepaliveRound_writes env)
      (env.order.arrange s.sessions.keys) (s, [])
    dsimp only
    generalize (env.order.arrange s.sessions.keys).foldl (keepaliveRound env) (s, []) = r
      at hrounds ⊢
    obtain ⟨s', closeAddrs⟩ := r
    exact hrounds.trans (Writes.foldl_server (fun s addr _ => s.closeSession_writes env addr) s')

theorem tickRound_writes (env : Env) (maxNew maxNewBytes maxResend maxResendBytes : Nat)
    (acc : TransportServer F H × List (SocketAddr × Datagram)) (addr : SocketAddr) :
    Writes G K I acc.1
      (tickRound env maxNew maxNewBytes maxResend maxResendBytes acc addr).1 := by
  obtain ⟨s, pending⟩ := acc
  unfold tickRound
  dsimp only
  split
  · exact .refl s
  · exact .of_eq rfl

theorem tickOutbound_writes (s : TransportServer F H) (env : Env)
    (maxNew maxNewBytes maxResend maxResendBytes : Nat) :
    Writes True True (s.timesOut env) s
      (s.tickOutbound env maxNew maxNewBytes maxResend maxResendBytes).2 := by
  have hprepared : Writes True True (s.timesOut env) s (s.prepareTick env) :=
    (s.prunePendingHandshakes_writes env)
      |>.trans (pruneCookieMismatchGuardStates_writes _ _)
      |>.trans (pruneIpRecentlyConnected_writes _ _)
      |>.trans (pruneIdleSessions_writes _ env _)
      |>.trans (queueKeepalivePings_writes _ env)
      |>.trans (tick_writes _ _)
      |>.trans (rotateCookieKeysIfNeeded_writes _ env)
  exact hprepared
    |>.trans (Writes.foldl (tickRound_writes env maxNew maxNewBytes maxResend maxResendBytes)
      (env.order.arrange (s.prepareTick env).sessions.keys) (s.prepareTick env, []))
    |>.trans (sendDatagrams_writes env _ 0 _)

theorem queuePayload_writes (s : TransportServer F H) (env : Env) (addr : SocketAddr)
    (payload : Bytes) (reliability : Reliability) (channel : UInt8) (priority : RakPriority)
    (receiptId : Option UInt64) :
    Writes G K I s
      (s.queuePayload env addr payload reliability channel priority receiptId).2 := by
  unfold queuePayload
  split
  · exact .refl s
  · dsimp only
    split
    · refine Writes.trans ?_ (closeSession_writes _ env addr)
      exact .of_eq rfl
    · split
      · refine Writes.trans ?_ (closeSession_writes _ env addr)
        exact .of_eq rfl
      · split <;> exact .of_eq rfl

omit [F64 F] [MinHeap H QueuedFrame QueuedFrame.weight] in
/-- An admitted packet is handed on for its address, or cannot be decoded. -/
theorem decodePacket_cases (s : TransportServer F H) (addr : SocketAddr) (isOffline : Bool)
    (bytes : Bytes) :
    (∃ packet, s.decodePacket addr isOffline bytes = .offline addr packet s) ∨
    (∃ datagram, s.decodePacket addr isOffline bytes = .connected addr datagram s) ∨
    ∃ r, s.decodePacket addr isOffline bytes = .answered r s := by
  unfold decodePacket
  split
  · split
    · exact .inl ⟨_, rfl⟩
    · exact .inr (.inr ⟨_, rfl⟩)
  · split
    · exact .inr (.inl ⟨_, rfl⟩)
    · exact .inr (.inr ⟨_, rfl⟩)

omit [MinHeap H QueuedFrame QueuedFrame.weight] in
/-- The server that an admission hands on. -/
theorem triage_writes (s : TransportServer F H) (env : Env) (bytes : Bytes)
    (observedAddr : SocketAddr) :
    Writes True True (fun _ => True) s (s.triage env bytes observedAddr).server := by
  have hroute := s.routeInboundAddr_writes (G := True) (K := True) (I := fun _ => True)
    observedAddr
  unfold triage
  generalize s.routeInboundAddr observedAddr = q at hroute ⊢
  obtain ⟨route, s₁⟩ := q
  cases route with
  | none => exact hroute
  | some addr =>
    dsimp only at hroute ⊢
    have hprepared := hroute.trans ((s₁.prepare_writes env addr).mono fun _ _ => trivial)
    generalize s₁.prepare env addr = m at hprepared ⊢
    cases bytes.head? with
    | none => exact hprepared
    | some first =>
      dsimp only
      have hchecked := hprepared.trans (.limit m (o := .check addr.ip env.now) trivial)
      simp only [RateLimiter.step] at hchecked
      generalize m.rateLimiter.check addr.ip env.now = q at hchecked ⊢
      obtain ⟨decision, rateLimiter⟩ := q
      cases decision with
      | allow =>
        dsimp only
        rw [decodePacket_server]
        exact hchecked
      | globalLimit => exact hchecked
      | ipBlocked newlyBlocked _ =>
        dsimp only
        split
        · exact hchecked.trans (send_writes _ env 0 addr _)
        · exact hchecked

theorem recvAndProcess_writes (s : TransportServer F H) (env : Env) (bytes : Bytes)
    (observedAddr : SocketAddr) :
    Writes True True (fun _ => True) s (s.recvAndProcess env bytes observedAddr).2 := by
  have htriage := s.triage_writes env bytes observedAddr
  unfold recvAndProcess
  cases hadmission : s.triage env bytes observedAddr with
  | answered r m =>
    rw [hadmission] at htriage
    exact htriage
  | offline addr packet m =>
    rw [hadmission] at htriage
    exact htriage.trans (m.processOffline_writes env addr trivial packet)
  | connected addr datagram m =>
    rw [hadmission] at htriage
    exact htriage.trans (m.processConnected_writes env addr datagram _)

/-! ## Operations of the limiter -/

theorem step_of_limiterOp {s : TransportServer F H} {op : TransportOp} {o : RateLimiterOp}
    (h : op.limiterOp = some o) :
    (s.step op).1 = { s with rateLimiter := (s.rateLimiter.step o).1 } := by
  cases op <;> cases h <;> rfl

/-- An operation that is not about the limiter and does not set the router. -/
theorem step_writes (s : TransportServer F H) {op : TransportOp} (hlimiter : op.limiterOp = none)
    (hrouter : ∀ router, op ≠ .setProxyRouter router) :
    Writes True True (fun _ => True) s (s.step op).1 := by
  cases op with
  | recvAndProcess env bytes observedAddr => exact s.recvAndProcess_writes env bytes observedAddr
  | queuePayload env addr payload reliability channel priority receiptId =>
    exact s.queuePayload_writes env addr payload reliability channel priority receiptId
  | tickOutbound env maxNew maxNewBytes maxResend maxResendBytes =>
    exact (s.tickOutbound_writes env maxNew maxNewBytes maxResend maxResendBytes).mono
      fun _ _ => trivial
  | sendDatagram env addr datagram => exact s.send_writes env 0 addr _
  | disconnectPeer env addr => exact s.disconnectPeer_writes env addr
  | setProxyRouter router => exact absurd rfl (hrouter router)
  | _ => cases hlimiter

theorem step_proxyRouter {s : TransportServer F H} {op : TransportOp}
    (hop : ∀ router, op ≠ .setProxyRouter router) : (s.step op).1.proxyRouter = s.proxyRouter := by
  cases hlimiter : op.limiterOp with
  | some o => rw [step_of_limiterOp hlimiter]
  | none => exact (s.step_writes hlimiter hop).router

end TransportServer

end Raknet
