-- SUMMARY: Every block of the heuristics and of the cookie guard is earned by the address it is on.
import Raknet.Transport.CookieGate
import Raknet.Transport.Guards

/-!
# Automatic blocks along a run

`guardLog` is what an operation of the server tells the guards. At times that do not
decrease, the tables stay tallies of the log of the run, so that no address is
blocked for less than the thresholds, or for what another address did
(`automatic_blocks_earned`).
-/

namespace Raknet

open Decoder

/-- The time at which an operation runs, if it reads the clock. -/
def TransportOp.time : TransportOp → Option Instant
  | .recvAndProcess env _ _ | .queuePayload env _ _ _ _ _ _ | .tickOutbound env _ _ _ _
  | .sendDatagram env _ _ | .disconnectPeer env _ | .setProcessingBudgetConfig env _
  | .setRateLimitConfig env _ _ _ _ | .setPerIpPacketLimit env _ | .setGlobalPacketLimit env _
  | .setRateWindow env _ | .blockAddressFor env _ _ => some env.now
  | _ => none

/-- The blocks that can be asked for are manual ones. -/
theorem TransportOp.asks_manual {op : TransportOp} {o : RateLimiterOp}
    (h : op.limiterOp = some o) {ip : IpAddr} {reason : BlockReason} (hasks : o.asks ip reason) :
    reason = .manual := by
  cases op <;> cases h <;> first | exact hasks.2.symm | exact hasks.elim

/-- The violation that a handshake out of time is. -/
def PendingHandshakeStage.timeout : PendingHandshakeStage → HandshakeViolation
  | .awaitingRequest2 => .req1Req2Timeout
  | .awaitingConnectionRequest => .reply2ConnectTimeout

variable {F H : Type}

namespace TransportServer

/-! ## The log -/

/-- The handshakes that are out of time. -/
def timeoutLog (s : TransportServer F H) (env : Env) : List GuardEvent :=
  (s.expiredHandshakes env).map fun e => .violation e.1.ip e.2.stage.timeout env.now

/-- What `checkedRequest2` tells the guards. -/
def checkedLog (s : TransportServer F H) (env : Env) (addr : SocketAddr)
    (req2 : OpenConnectionRequest2) : List GuardEvent :=
  match s.pendingHandshakes.lookup addr with
  | none => [.violation addr.ip .missingPendingReq1 env.now]
  | some pending =>
    if pending.expiresAt ≤ env.now then
      [.violation addr.ip pending.stage.timeout env.now]
    else if s.config.sendCookie = true ∧
        (pending.cookie.isNone = true ∨ s.verifyCookie addr req2.cookie = false) then
      [.mismatch addr.ip env.now, .violation addr.ip .cookieMismatch env.now]
    else
      [.verified addr.ip env.now]

/-- What `addressedRequest2` tells the guards. -/
def addressedLog (s : TransportServer F H) (env : Env) (addr : SocketAddr)
    (req2 : OpenConnectionRequest2) : List GuardEvent :=
  if !s.isRequest2ServerAddrAllowed req2.serverAddr s.localAddr then []
  else s.checkedLog env addr req2

/-- What `handleRequest2` tells the guards. -/
def request2Log (s : TransportServer F H) (env : Env) (addr : SocketAddr)
    (req2 : OpenConnectionRequest2) : List GuardEvent :=
  let s := s.pruneIpRecentlyConnected env.now
  if s.ipRecentlyConnected addr env.now then
    []
  else if s.hasActiveSessionForOfflineReject addr then
    []
  else
    match req2.parsePath with
    | .legacyHeuristic =>
      if !s.config.allowLegacyRequest2Fallback then
        [.violation addr.ip .parseAnomalyDrop env.now]
      else
        s.addressedLog env addr req2
    | .ambiguousPreferredNoCookie | .ambiguousPreferredWithCookie =>
      if s.config.rejectAmbiguousRequest2 then
        [.violation addr.ip .parseAnomalyDrop env.now]
      else
        s.addressedLog env addr req2
    | .strictNoCookie | .strictWithCookie => s.addressedLog env addr req2

def offlineLog (s : TransportServer F H) (env : Env) (addr : SocketAddr) :
    OfflinePacket → List GuardEvent
  | .openConnectionRequest2 req2 => s.request2Log env addr req2
  | _ => []

/-! ## Timeouts -/

variable [F64 F]

namespace Guarded

variable {log : List GuardEvent} {env : Env} {s : TransportServer F H}

/-- What is done for a handshake that is out of time. -/
theorem timeout (h : Guarded log env.now s) (addr : SocketAddr) (stage : PendingHandshakeStage) :
    Guarded (log ++ [.violation addr.ip stage.timeout env.now]) env.now
      ((s.countTimeout stage).2.countStageCancelDrop.recordHandshakeViolation addr
        (s.countTimeout stage).1 env.now).2 := by
  cases stage <;> exact Guarded.violation ((h.counted _).counted _) addr _

theorem closeSession (h : Guarded log env.now s) (addr : SocketAddr) :
    Guarded log env.now (s.closeSession env addr) :=
  h.aside (s.closeSession_writes env addr)

theorem expireHandshakes (h : Guarded log env.now s)
    (expired : List (SocketAddr × PendingHandshake)) :
    Guarded (log ++ expired.map fun e => .violation e.1.ip e.2.stage.timeout env.now) env.now
      (expired.foldl (expireHandshake env) s) := by
  induction expired generalizing log s with
  | nil =>
    rw [List.map_nil, List.append_nil]
    exact h
  | cons e rest ih =>
    rw [List.map_cons, ← List.singleton_append, ← List.append_assoc]
    exact ih ((h.timeout e.1 e.2.stage).closeSession e.1)

theorem prunePendingHandshakes (h : Guarded log env.now s) :
    Guarded (log ++ s.timeoutLog env) env.now (s.prunePendingHandshakes env) :=
  (h.expireHandshakes (s.expiredHandshakes env)).pruneHeuristics env.now

theorem prepare (h : Guarded log env.now s) (addr : SocketAddr) :
    Guarded (log ++ s.timeoutLog env) env.now (s.prepare env addr) := by
  refine (h.prunePendingHandshakes.pruneCookieGuard env.now).aside ?_
  exact (pruneIpRecentlyConnected_writes _ env.now)
    |>.trans (pruneIdleSessions_writes _ env (some addr))
    |>.trans (tick_writes _ env.now)
    |>.trans (rotateCookieKeysIfNeeded_writes _ env)

/-! ## Second requests -/

theorem dropAsViolation (h : Guarded log env.now s) (addr : SocketAddr)
    (violation : HandshakeViolation) :
    Guarded (log ++ [.violation addr.ip violation env.now]) env.now
      (s.dropAsViolation env addr violation).server :=
  Guarded.violation (h.counted _) addr violation

theorem verifiedRequest2 (h : Guarded log env.now s) (addr : SocketAddr)
    (req2 : OpenConnectionRequest2) (pending : PendingHandshake) :
    Guarded (log ++ [.verified addr.ip env.now]) env.now
      (s.verifiedRequest2 env addr req2 pending).server := by
  have hcleared := h.verified addr.ip env.now
  unfold TransportServer.verifiedRequest2
  dsimp only
  split
  · exact hcleared.aside (retryRequest2_writes _ env addr req2 pending)
  · split
    · exact hcleared
    · exact hcleared.aside (acceptRequest2_writes _ env addr req2 pending)

theorem checkedRequest2 (h : Guarded log env.now s) (addr : SocketAddr)
    (req2 : OpenConnectionRequest2) :
    Guarded (log ++ s.checkedLog env addr req2) env.now
      (s.checkedRequest2 env addr req2).server := by
  unfold TransportServer.checkedRequest2 checkedLog
  cases s.pendingHandshakes.lookup addr with
  | none => exact Guarded.dropAsViolation (h.counted _) addr _
  | some pending =>
    dsimp only
    split
    · exact (h.timeout addr pending.stage).closeSession addr
    · split
      · rw [← List.singleton_append, ← List.append_assoc]
        exact Guarded.violation (Guarded.mismatch ((h.counted _).counted _) addr.ip) addr _
      · exact h.verifiedRequest2 addr req2 pending

theorem addressedRequest2 (h : Guarded log env.now s) (addr : SocketAddr)
    (req2 : OpenConnectionRequest2) :
    Guarded (log ++ s.addressedLog env addr req2) env.now
      (s.addressedRequest2 env addr req2).server := by
  unfold TransportServer.addressedRequest2 addressedLog
  split
  · rw [List.append_nil]
    exact ⟨h.scores, h.streaks, h.blocks⟩
  · exact h.checkedRequest2 addr req2

/-- A request that was parsed in a doubtful way is counted, and dropped or handled. -/
theorem doubtfulRequest2 (h : Guarded log env.now s) (addr : SocketAddr)
    (req2 : OpenConnectionRequest2) (drop : Prop) [Decidable drop]
    (hit dropped : TransportCounters → TransportCounters) :
    Guarded
      (log ++ if drop then [.violation addr.ip .parseAnomalyDrop env.now]
        else s.addressedLog env addr req2) env.now
      (if drop then ((s.count hit).count dropped).dropAsViolation env addr .parseAnomalyDrop
       else (s.count hit).addressedRequest2 env addr req2).server := by
  split
  · exact Guarded.dropAsViolation ((h.counted hit).counted dropped) addr _
  · exact Guarded.addressedRequest2 (h.counted hit) addr req2

theorem handleRequest2 (h : Guarded log env.now s) (addr : SocketAddr)
    (req2 : OpenConnectionRequest2) :
    Guarded (log ++ s.request2Log env addr req2) env.now
      (s.handleRequest2 env addr req2).server := by
  have hpruned := h.aside (s.pruneIpRecentlyConnected_writes env.now)
  unfold TransportServer.handleRequest2 request2Log
  dsimp only
  generalize s.pruneIpRecentlyConnected env.now = s at hpruned ⊢
  split
  · rw [List.append_nil]
    exact ⟨hpruned.scores, hpruned.streaks, hpruned.blocks⟩
  · split
    · rw [List.append_nil]
      exact ⟨hpruned.scores, hpruned.streaks, hpruned.blocks⟩
    · cases req2.parsePath with
      | legacyHeuristic | ambiguousPreferredNoCookie | ambiguousPreferredWithCookie =>
        exact hpruned.doubtfulRequest2 addr req2 _ _ _
      | strictNoCookie | strictWithCookie => exact hpruned.addressedRequest2 addr req2

/-! ## The operations -/

/-- What a packet meets, with what was told to the guards on the way. -/
theorem triage (h : Guarded log env.now s) {addr : SocketAddr} {s₁ : TransportServer F H}
    {observedAddr : SocketAddr} (hroute : s.routeInboundAddr observedAddr = (some addr, s₁))
    (bytes : Bytes) :
    match s.triage env bytes observedAddr with
    | .answered _ m | .offline _ _ m | .connected _ _ m =>
      Guarded (log ++ s.timeoutLog env) env.now m := by
  have hrouted : Guarded log env.now s₁ := by
    have hrouted := h.aside (s.routeInboundAddr_writes observedAddr)
    rw [hroute] at hrouted
    exact hrouted
  have hlog : s₁.timeoutLog env = s.timeoutLog env := by
    have hpending := (s.routeInboundAddr_aside observedAddr).pending
    rw [hroute] at hpending
    unfold timeoutLog expiredHandshakes
    rw [hpending]
  have hprepared := hrouted.prepare addr
  rw [hlog] at hprepared
  unfold TransportServer.triage
  rw [hroute]
  dsimp only
  generalize s₁.prepare env addr = m at hprepared ⊢
  cases bytes.head? with
  | none => exact hprepared
  | some first =>
    dsimp only
    have hchecked := hprepared.limited (o := .check addr.ip env.now) fun _ _ hasks => hasks.elim
    simp only [RateLimiter.step] at hchecked
    generalize m.rateLimiter.check addr.ip env.now = q at hchecked ⊢
    obtain ⟨decision, rateLimiter⟩ := q
    cases decision with
    | allow =>
      dsimp only
      rcases decodePacket_cases { m with rateLimiter } addr (isOfflinePacketId first) bytes with
        ⟨packet, hdecode⟩ | ⟨datagram, hdecode⟩ | ⟨r, hdecode⟩
      all_goals
        rw [hdecode]
        exact hchecked
    | globalLimit => exact hchecked
    | ipBlocked newlyBlocked _ =>
      dsimp only
      by_cases hreply : (isOfflinePacketId first && newlyBlocked) = true
      · rw [if_pos hreply]
        exact hchecked.aside (send_writes _ env 0 addr _)
      · rw [if_neg hreply]
        exact hchecked

variable [MinHeap H QueuedFrame QueuedFrame.weight]

theorem processOffline (h : Guarded log env.now s) (addr : SocketAddr) (packet : OfflinePacket) :
    Guarded (log ++ s.offlineLog env addr packet) env.now
      (s.processOffline env addr packet).2 := by
  have hhandled : Guarded (log ++ s.offlineLog env addr packet) env.now
      (s.handleOfflinePacket env addr packet).server := by
    cases packet with
    | openConnectionRequest2 req2 => exact h.handleRequest2 addr req2
    | openConnectionRequest1 req1 =>
      rw [offlineLog, List.append_nil]
      · exact h.aside (s.handleRequest1_writes env addr req1)
      · rintro _ ⟨⟩
    | _ =>
      rw [offlineLog, List.append_nil]
      · exact h
      · rintro _ ⟨⟩
  unfold TransportServer.processOffline
  dsimp only
  split
  · exact hhandled
  · exact hhandled.aside (send_writes _ env 0 addr _)

end Guarded

variable [MinHeap H QueuedFrame QueuedFrame.weight]

/-- What an operation tells the guards. -/
def guardLog (s : TransportServer F H) : TransportOp → List GuardEvent
  | .recvAndProcess env bytes observedAddr =>
    match s.routeInboundAddr observedAddr with
    | (none, _) => []
    | (some _, _) =>
      s.timeoutLog env ++
        match s.triage env bytes observedAddr with
        | .offline addr packet m => m.offlineLog env addr packet
        | .answered _ _ | .connected _ _ _ => []
  | .tickOutbound env _ _ _ _ => s.timeoutLog env
  | _ => []

namespace Guarded

variable {log : List GuardEvent} {env : Env} {s : TransportServer F H}

theorem recvAndProcess (h : Guarded log env.now s) (bytes : Bytes) (observedAddr : SocketAddr) :
    Guarded (log ++ s.guardLog (.recvAndProcess env bytes observedAddr)) env.now
      (s.recvAndProcess env bytes observedAddr).2 := by
  unfold guardLog TransportServer.recvAndProcess
  dsimp only
  cases hroute : s.routeInboundAddr observedAddr with
  | mk route s₁ =>
  cases route with
  | none =>
    have hrouted := h.aside (s.routeInboundAddr_writes observedAddr)
    unfold TransportServer.triage
    rw [hroute] at hrouted ⊢
    dsimp only
    rw [List.append_nil]
    exact hrouted
  | some addr =>
    have hmet := h.triage hroute bytes
    dsimp only
    cases htriage : s.triage env bytes observedAddr with
    | answered r m =>
      rw [htriage] at hmet
      dsimp only at hmet ⊢
      rw [List.append_nil]
      exact hmet
    | offline addr packet m =>
      rw [htriage] at hmet
      dsimp only at hmet ⊢
      rw [← List.append_assoc]
      exact hmet.processOffline addr packet
    | connected addr datagram m =>
      rw [htriage] at hmet
      dsimp only at hmet ⊢
      rw [List.append_nil]
      exact hmet.aside (m.processConnected_writes env addr datagram bytes.length)

theorem tickOutbound (h : Guarded log env.now s)
    (maxNew maxNewBytes maxResend maxResendBytes : Nat) :
    Guarded (log ++ s.timeoutLog env) env.now
      (s.tickOutbound env maxNew maxNewBytes maxResend maxResendBytes).2 := by
  have hpruned := h.prunePendingHandshakes.pruneCookieGuard env.now
  have hprepared : Guarded (log ++ s.timeoutLog env) env.now (s.prepareTick env) := by
    refine hpruned.aside ?_
    exact (pruneIpRecentlyConnected_writes _ env.now)
      |>.trans (pruneIdleSessions_writes _ env none)
      |>.trans (queueKeepalivePings_writes _ env)
      |>.trans (tick_writes _ env.now)
      |>.trans (rotateCookieKeysIfNeeded_writes _ env)
  have hrounds := hprepared.aside
    (Writes.foldl (tickRound_writes env maxNew maxNewBytes maxResend maxResendBytes)
      (env.order.arrange (s.prepareTick env).sessions.keys) (s.prepareTick env, []))
  exact hrounds.aside (sendDatagrams_writes env _ 0 _)

/-- An operation of the limiter tells the guards nothing. -/
theorem limiterStep {clock : Instant} (h : Guarded log clock s) {op : TransportOp}
    {o : RateLimiterOp} (hop : op.limiterOp = some o) : Guarded log clock (s.step op).1 := by
  rw [step_of_limiterOp hop]
  refine h.limited fun ip reason hasks => ?_
  rw [TransportOp.asks_manual hop hasks]
  trivial

/-- One operation, no earlier than all before. -/
theorem step {clock : Instant} (h : Guarded log clock s) (op : TransportOp)
    (hle : ∀ now ∈ op.time, clock ≤ now) :
    Guarded (log ++ s.guardLog op) (op.time.getD clock) (s.step op).1 := by
  have hclock : clock ≤ op.time.getD clock := by
    cases htime : op.time with
    | none => exact le_rfl
    | some now => exact hle now htime
  have hlater := h.later hclock
  cases op with
  | recvAndProcess env bytes observedAddr =>
    exact Guarded.recvAndProcess (show Guarded log env.now s from hlater) bytes observedAddr
  | tickOutbound env maxNew maxNewBytes maxResend maxResendBytes =>
    exact Guarded.tickOutbound (show Guarded log env.now s from hlater) maxNew maxNewBytes
      maxResend maxResendBytes
  | queuePayload env addr payload reliability channel priority receiptId =>
    exact quiet (hlater.aside
      (s.queuePayload_writes env addr payload reliability channel priority receiptId))
  | sendDatagram env addr datagram =>
    exact quiet (hlater.aside (s.send_writes env 0 addr datagram.encode))
  | disconnectPeer env addr =>
    exact quiet (hlater.aside (s.disconnectPeer_writes env addr))
  | setProxyRouter router => exact quiet ⟨hlater.scores, hlater.streaks, hlater.blocks⟩
  | _ => exact quiet (hlater.limiterStep rfl)

/-- A whole run, at times that do not decrease. -/
theorem run {clock : Instant} (h : Guarded log clock s) {ops : List TransportOp}
    (htimes : (clock :: ops.filterMap TransportOp.time).Pairwise (· ≤ ·)) :
    ∃ clock', Guarded (log ++ (transportMachine F H).gather guardLog s ops) clock'
      ((transportMachine F H).exec s ops) := by
  induction ops generalizing log clock s with
  | nil =>
    rw [Machine.gather, List.append_nil]
    exact ⟨clock, h⟩
  | cons op ops ih =>
    obtain ⟨hle, hrest⟩ := List.pairwise_cons.mp htimes
    rw [Machine.gather, ← List.append_assoc]
    have hstep := h.step op fun now hnow =>
      hle now (List.mem_filterMap.mpr ⟨op, List.mem_cons_self, hnow⟩)
    refine ih hstep ?_
    cases htime : op.time with
    | none =>
      rw [List.filterMap_cons_none htime] at htimes
      exact htimes
    | some now =>
      rw [List.filterMap_cons_some htime] at hrest
      exact hrest

end Guarded

omit [MinHeap H QueuedFrame QueuedFrame.weight] in
/-- A new server blocks nobody. -/
theorem withSocket_blocked (config : TransportConfig F) (socketAddr : Option SocketAddr)
    (hmacSha256 : CookieKey → Bytes → Octets 32) (key : CookieKey) (start : Instant) :
    (withSocket config socketAddr hmacSha256 key start : TransportServer F H).rateLimiter.blocked
      = ∅ := by
  have hexceptions : ∀ (ips : List IpAddr) (r : RateLimiter F), r.blocked = ∅ →
      (ips.foldl RateLimiter.addException r).blocked = ∅ := by
    intro ips
    induction ips with
    | nil => exact fun r hr => hr
    | cons ip ips ih =>
      intro r hr
      refine ih _ ?_
      unfold RateLimiter.addException RateLimiter.unblockAddress
      dsimp only
      rw [hr]
      rfl
  exact hexceptions config.rateLimitExceptions _ rfl

/-- In every run at times that do not decrease, a block of the heuristics is earned by the
    violations of its address within one window, and a block of the cookie guard by its wrong
    cookies within one window, with no request of it that passed in between. -/
theorem automatic_blocks_earned (config : TransportConfig F) (socketAddr : Option SocketAddr)
    (hmacSha256 : CookieKey → Bytes → Octets 32) (key : CookieKey) (start : Instant)
    (ops : List TransportOp) (htimes : (ops.filterMap TransportOp.time).Pairwise (· ≤ ·))
    (ip : IpAddr) (b : BlockState)
    (hblocked : ((transportMachine F H).exec (withSocket config socketAddr hmacSha256 key start)
      ops).rateLimiter.blocked.lookup ip = some b) :
    let log := (transportMachine F H).gather guardLog
      (withSocket config socketAddr hmacSha256 key start) ops
    (b.reason = .handshakeHeuristic → config.handshakeHeuristics.Earned log ip) ∧
    (b.reason = .cookieMismatchGuard → config.cookieMismatchGuard.Earned log ip) := by
  intro log
  have hempty : Guarded [] 0
      (withSocket config socketAddr hmacSha256 key start : TransportServer F H) := by
    refine ⟨fun ip entry hlookup => ?_, fun ip state hlookup => ?_, fun ip b hlookup => ?_⟩
    · cases hlookup
    · cases hlookup
    · rw [withSocket_blocked] at hlookup
      cases hlookup
  obtain ⟨clock, hguarded⟩ := hempty.run
    (List.pairwise_cons.mpr ⟨fun now _ => Nat.zero_le now, htimes⟩)
  have hearned := hguarded.blocks ip b hblocked
  have hconfig : ((transportMachine F H).exec
      (withSocket config socketAddr hmacSha256 key start) ops).config = config :=
    (exec_noOrphans (fun _ _ => rfl) ops).2
  rw [hconfig, List.nil_append] at hearned
  constructor
  · intro hreason
    rw [hreason] at hearned
    exact hearned
  · intro hreason
    rw [hreason] at hearned
    exact hearned

/-- A second request with a cookie that the server did not give. -/
def guess (now : Instant) (cookie : UInt32) : TransportOp :=
  fromClient now (encodedBytes (OfflinePacket.openConnectionRequest2
    { serverAddr
      mtu := 1400
      clientGuid := 99
      cookie := some cookie
      clientProof := false
      parsePath := .strictWithCookie
      magic := defaultUnconnectedMagic }).encode)

/-- A first request and three guesses. -/
def guessingRun : List TransportOp := handshakeRun.take 1 ++ [guess 2 7, guess 3 8, guess 4 9]

/-- No block for violations. -/
def cookieGuardOnly : TransportConfig ℚ :=
  { (TransportConfig.standard : TransportConfig ℚ) with
    handshakeHeuristics := { HandshakeHeuristicsConfig.standard with enabled := false } }

/-- Three guesses are worth a block of the heuristics, and without them one of the guard. -/
theorem automatic_blocks_earned_guesses :
    HandshakeHeuristicsConfig.standard.Earned (concreteTransport.gather guardLog keyedServer
      guessingRun) clientAddr.ip ∧
    CookieMismatchGuardConfig.standard.Earned (concreteTransport.gather guardLog
      (withSocket cookieGuardOnly none (fun key _ => key) firstKey 0)
      guessingRun) clientAddr.ip := by
  have htimes : (guessingRun.filterMap TransportOp.time).Pairwise (· ≤ ·) := by decide
  have hheuristics := automatic_blocks_earned (H := SortedHeap QueuedFrame QueuedFrame.weight)
    (.standard : TransportConfig ℚ) none (fun key _ => key) firstKey 0
    guessingRun htimes clientAddr.ip ⟨some 30000000004, .handshakeHeuristic⟩ (by decide +kernel)
  have hguard := automatic_blocks_earned (H := SortedHeap QueuedFrame QueuedFrame.weight)
    cookieGuardOnly none (fun key _ => key) firstKey 0
    guessingRun htimes clientAddr.ip ⟨some 30000000004, .cookieMismatchGuard⟩ (by decide +kernel)
  exact ⟨hheuristics.1 rfl, hguard.2 rfl⟩

end TransportServer

end Raknet
