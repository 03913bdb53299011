-- SUMMARY: What the operations of the server do to the counters of its limiter, sessions and pipelines.
import Raknet.Transport.Ledger
import Raknet.Transport.SessionSteps

/-!
# Tallies

The limiter, the sessions and the pipelines count for themselves. The counters of the
limiter rise. Those of a session and its pipeline rise as long as the session is there
(`Continues`): closing it takes them away, and so does a first request that opens
another session in its place.
-/

namespace Raknet

variable {F H : Type}

/-! ## The limiter -/

def ReasonCounters.values (c : ReasonCounters) : List Nat :=
  [c.rateExceeded, c.manual, c.handshakeHeuristic, c.cookieMismatchGuard]

/-- The counters of the limiter and of its processing budget. -/
def RateLimiter.values (r : RateLimiter F) : List Nat :=
  r.metrics.globalLimitHits :: r.metrics.ipBlockHits :: r.metrics.addressesBlocked ::
    r.metrics.addressesUnblocked :: r.processingBudget.metrics.dropsTotal ::
    r.processingBudget.metrics.dropsIpExhausted :: r.processingBudget.metrics.dropsGlobalExhausted ::
    r.processingBudget.metrics.consumedUnitsTotal ::
    (r.metrics.ipBlockHitsBy.values ++ r.metrics.addressesBlockedBy.values)

namespace RateLimiter

variable [F64 F] (r : RateLimiter F)

omit [F64 F] in
theorem values_congr {r r' : RateLimiter F} (hmetrics : r'.metrics = r.metrics)
    (hbudget : r'.processingBudget.metrics = r.processingBudget.metrics) :
    CountersRise r.values r'.values := by
  rw [values, values, hmetrics, hbudget]
  exact .refl _ _

omit [F64 F] in
theorem recordIpBlockHit_values (reason : BlockReason) :
    CountersRise r.values (r.recordIpBlockHit reason).values := by
  cases reason <;> simp [values, recordIpBlockHit, ReasonCounters.record, ReasonCounters.values]

omit [F64 F] in
theorem recordNewBlock_values (reason : BlockReason) :
    CountersRise r.values (r.recordNewBlock reason).values := by
  cases reason <;> simp [values, recordNewBlock, ReasonCounters.record, ReasonCounters.values]

omit [F64 F] in
theorem insertBlock_values (ip : IpAddr) (state : BlockState) :
    CountersRise r.values (r.insertBlock ip state).2.values := by
  unfold insertBlock
  dsimp only
  split
  · exact .refl _ _
  · split
    · exact recordNewBlock_values { r with blocked := r.blocked.insert ip state } state.reason
    · exact .refl _ _

omit [F64 F] in
theorem unblockAddress_values (ip : IpAddr) :
    CountersRise r.values (r.unblockAddress ip).2.values := by
  unfold unblockAddress
  split
  · simp [values, ReasonCounters.values]
  · exact .refl _ _

omit [F64 F] in
theorem tick_values (now : Instant) : CountersRise r.values (r.tick now).values := by
  have hrotate : CountersRise r.values (r.rotateWindowIfNeeded now).values := by
    unfold rotateWindowIfNeeded
    split
    · exact .refl _ _
    · exact values_congr rfl rfl
  refine hrotate.trans ?_
  unfold tick
  generalize r.rotateWindowIfNeeded now = r
  have hprune : CountersRise r.values (r.pruneExpiredBlocks now).values := by
    simp [values, pruneExpiredBlocks, ReasonCounters.values]
  refine hprune.trans (values_congr rfl ?_)
  unfold ProcessingBudgetState.tick
  dsimp only
  split <;> rfl

omit [F64 F] in
theorem check_values (ip : IpAddr) (now : Instant) :
    CountersRise r.values (r.check ip now).2.values := by
  refine (r.tick_values now).trans ?_
  unfold check
  generalize r.tick now = r
  dsimp only
  split
  · exact values_congr rfl rfl
  · split
    · exact r.recordIpBlockHit_values _
    · split
      · simp [values, ReasonCounters.values]
      · split
        · refine RiseTogether.trans ?_ (recordIpBlockHit_values _ _)
          exact insertBlock_values { r with
            ipState := r.ipState.insert ip ((r.ipState.lookup ip).getD 0) } ip _
        · exact values_congr rfl rfl

theorem consumeProcessingBudget_values (ip : IpAddr) (costUnits : Nat) (now : Instant) :
    CountersRise r.values (r.consumeProcessingBudget ip costUnits now).2.values := by
  refine (r.tick_values now).trans ?_
  unfold consumeProcessingBudget
  generalize r.tick now = r
  unfold ProcessingBudgetState.consume
  dsimp only
  split
  · exact .refl _ _
  · split
    · simp [values, ReasonCounters.values]
    · split
      · simp [values, ReasonCounters.values]
      · simp [values, ReasonCounters.values]

theorem step_values (op : RateLimiterOp) : CountersRise r.values (r.step op).1.values := by
  cases op with
  | check ip now => exact r.check_values ip now
  | tick now => exact r.tick_values now
  | consumeProcessingBudget ip costUnits now =>
    exact r.consumeProcessingBudget_values ip costUnits now
  | addException ip =>
    exact unblockAddress_values { r with exceptions := r.exceptions.insert ip } ip
  | blockAddressWithReason ip reason => exact r.insertBlock_values ip _
  | blockAddressForWithReason ip now duration reason => exact r.insertBlock_values ip _
  | unblockAddress ip => exact r.unblockAddress_values ip
  | removeException | setPerIpLimit | setGlobalLimit | setWindow | setBlockDuration | updateLimits
  | setProcessingBudgetConfig => exact values_congr rfl rfl

theorem reaches_values {r r' : RateLimiter F} {allowed : RateLimiterOp → Prop}
    (h : rateLimiterMachine.Reaches allowed r r') : CountersRise r.values r'.values :=
  h.invariant (P := fun r' => CountersRise r.values r'.values)
    (fun r op _ hr => hr.trans (r.step_values op)) (.refl _ _)

end RateLimiter

/-! ## Pipelines -/

def SessionPipeline.values (p : SessionPipeline) : List Nat :=
  [p.unhandledFramesQueued, p.unhandledFramesFlushed, p.unhandledFramesDropped]

theorem SessionPipeline.routeInboundAppFrame_values (p : SessionPipeline) (state : SessionState)
    (frame : Frame) (out : List Frame) :
    CountersRise p.values (p.routeInboundAppFrame state frame out).2.1.values := by
  unfold routeInboundAppFrame
  split
  · exact .refl _ _
  · split
    · simp [values]
    · simp [values]

theorem SessionPipeline.flushIfConnected_values (p : SessionPipeline) (state : SessionState)
    (out : List Frame) : CountersRise p.values (p.flushIfConnected state out).1.values := by
  unfold flushIfConnected
  split
  · exact .refl _ _
  · simp [values]

namespace TransportServer

section Loop

variable [F64 F] [MinHeap H QueuedFrame QueuedFrame.weight]

theorem FrameLoop.run_values (addr serverAddr : SocketAddr) (nowMillis : Int64)
    (frames : List Frame) (l : FrameLoop F H) :
    CountersRise l.pipeline.values (l.run addr serverAddr nowMillis frames).pipeline.values := by
  induction frames generalizing l with
  | nil => exact .refl _ _
  | cons frame frames ih =>
    have hroute := l.pipeline.routeInboundAppFrame_values l.session.state frame l.appFrames
    unfold FrameLoop.run
    split
    · exact ih l
    · split
      · generalize l.pipeline.routeInboundAppFrame l.session.state frame l.appFrames = r
          at hroute ⊢
        obtain ⟨action, pipeline, appFrames⟩ := r
        cases action with
        | overflow => exact hroute
        | deliver | queued =>
          exact hroute.trans (ih { l with pipeline, appFrames })
      · split
        · exact .refl _ _
        · split
          · next session _ => exact ih { l with session }
          · exact .refl _ _
          · exact .refl _ _

theorem outcomeOver_values (s : TransportServer F H) (env : Env) (addr : SocketAddr)
    (released : Session F H) (frames : List Frame) :
    CountersRise (s.pipelineEntry addr).values
      (s.outcomeOver env addr released frames).loop.pipeline.values := by
  have hrun : CountersRise (s.pipelineEntry addr).values
      (s.loopOver env addr released frames).pipeline.values :=
    FrameLoop.run_values addr s.localAddr (env.nowMillis addr) frames
      (FrameLoop.start (released.processIncomingReceipts env.now).2 (s.pipelineEntry addr))
  refine hrun.trans ?_
  unfold outcomeOver FrameLoop.tick
  dsimp only
  unfold FrameLoop.flush
  split
  · exact SessionPipeline.flushIfConnected_values _ _ _
  · exact .refl _ _

end Loop

/-! ## Sessions and pipelines across changes of the tables -/

/-- There is nothing for the address. -/
def Absent (s : TransportServer F H) (a : SocketAddr) : Prop :=
  s.sessions.lookup a = none ∧ s.sessionPipelines.lookup a = none

/-- A pipeline has a session, and what they have counted is in the range of the counters. -/
structure SoundAt (s : TransportServer F H) (a : SocketAddr) : Prop where
  owned : s.sessions.lookup a = none → s.sessionPipelines.lookup a = none
  session : ∀ session, s.sessions.lookup a = some session →
    Within counterMax session.metrics.values
  pipeline : ∀ pipeline, s.sessionPipelines.lookup a = some pipeline →
    Within counterMax pipeline.values

/-- What is there for the address stays there, and its counters rise. -/
structure KeptAt (s s' : TransportServer F H) (a : SocketAddr) : Prop where
  session : ∀ session, s.sessions.lookup a = some session →
    ∃ session', s'.sessions.lookup a = some session' ∧ session.MetricsRise session'
  pipeline : ∀ pipeline, s.sessionPipelines.lookup a = some pipeline →
    ∃ pipeline', s'.sessionPipelines.lookup a = some pipeline' ∧
      CountersRise pipeline.values pipeline'.values

/-- What is there for the address is kept or goes, and nothing else comes in its place. -/
structure Continues (s s' : TransportServer F H) (a : SocketAddr) : Prop where
  sound : s.SoundAt a → s'.SoundAt a
  absent : s.Absent a → s'.Absent a
  kept : KeptAt s s' a ∨ s'.Absent a

variable {s m s' : TransportServer F H} {a addr : SocketAddr}

theorem Absent.sound (h : s.Absent a) : s.SoundAt a where
  owned _ := h.2
  session session hsession := by
    rw [h.1] at hsession
    cases hsession
  pipeline pipeline hpipeline := by
    rw [h.2] at hpipeline
    cases hpipeline

theorem KeptAt.trans (h : KeptAt s m a) (h' : KeptAt m s' a) : KeptAt s s' a where
  session session hsession :=
    have ⟨session', hsession', hrise⟩ := h.session session hsession
    have ⟨session'', hsession'', hrise'⟩ := h'.session session' hsession'
    ⟨session'', hsession'', hrise.trans hrise'⟩
  pipeline pipeline hpipeline :=
    have ⟨pipeline', hpipeline', hrise⟩ := h.pipeline pipeline hpipeline
    have ⟨pipeline'', hpipeline'', hrise'⟩ := h'.pipeline pipeline' hpipeline'
    ⟨pipeline'', hpipeline'', hrise.trans hrise'⟩

theorem pipelineEntry_within (s : TransportServer F H) (h : s.SoundAt a) :
    Within counterMax (s.pipelineEntry a).values := by
  unfold pipelineEntry
  cases hlookup : s.sessionPipelines.lookup a with
  | none => simp [Within, SessionPipeline.new, SessionPipeline.values]
  | some pipeline => exact h.pipeline pipeline hlookup

namespace Continues

theorem trans (h : Continues s m a) (h' : Continues m s' a) : Continues s s' a where
  sound := h'.sound ∘ h.sound
  absent := h'.absent ∘ h.absent
  kept := by
    rcases h'.kept with hkept' | hgone
    · rcases h.kept with hkept | hgone
      · exact .inl (hkept.trans hkept')
      · exact .inr (h'.absent hgone)
    · exact .inr hgone

theorem of_eq (hsession : s'.sessions.lookup a = s.sessions.lookup a)
    (hpipeline : s'.sessionPipelines.lookup a = s.sessionPipelines.lookup a) :
    Continues s s' a where
  sound h := by
    refine ⟨?_, ?_, ?_⟩
    · rw [hsession, hpipeline]
      exact h.owned
    · rw [hsession]
      exact h.session
    · rw [hpipeline]
      exact h.pipeline
  absent h := by
    rw [Absent, hsession, hpipeline]
    exact h
  kept := .inl
    ⟨fun session h => ⟨session, hsession.trans h, .refl _ _⟩,
      fun pipeline h => ⟨pipeline, hpipeline.trans h, .refl _ _⟩⟩

theorem same (h : SameTables s s') (a : SocketAddr) : Continues s s' a :=
  .of_eq (by rw [h.sessions]) (by rw [h.pipelines])

theorem close (h : ClosesOne s s' addr) (a : SocketAddr) : Continues s s' a := by
  by_cases ha : a = addr
  · subst ha
    have hgone : s'.Absent a := by
      rw [Absent, h.sessions, h.pipelines]
      exact ⟨AList.lookup_erase _ _, AList.lookup_erase _ _⟩
    exact ⟨fun _ => hgone.sound, fun _ => hgone, .inr hgone⟩
  · refine .of_eq ?_ ?_
    · rw [h.sessions, AList.lookup_erase_ne ha]
    · rw [h.pipelines, AList.lookup_erase_ne ha]

/-- The session of an address counts on. -/
theorem insert {session session' : Session F H} (hlookup : s.sessions.lookup addr = some session)
    (hrise : session.MetricsRise session')
    (hsessions : s'.sessions = s.sessions.insert addr session')
    (hpipelines : s'.sessionPipelines = s.sessionPipelines) (a : SocketAddr) :
    Continues s s' a := by
  by_cases ha : a = addr
  · subst ha
    have hthere : s'.sessions.lookup a = some session' := by
      rw [hsessions]
      exact AList.lookup_insert _
    refine ⟨fun hs => ⟨?_, fun met hmet => ?_, ?_⟩, fun habsent => ?_,
      .inl ⟨fun met hmet => ?_, fun pipeline h => ?_⟩⟩
    · rw [hthere]
      exact nofun
    · obtain rfl := Option.some.inj (hthere.symm.trans hmet)
      exact hrise.within (hs.session session hlookup)
    · rw [hpipelines]
      exact hs.pipeline
    · rw [habsent.1] at hlookup
      cases hlookup
    · obtain rfl := Option.some.inj (hlookup.symm.trans hmet)
      exact ⟨session', hthere, hrise⟩
    · exact ⟨pipeline, by rw [hpipelines, h], .refl _ _⟩
  · refine .of_eq ?_ ?_
    · rw [hsessions, AList.lookup_insert_ne ha]
    · rw [hpipelines]

/-- The session and the pipeline of an address count on. -/
theorem stored {session session' : Session F H} {pipeline' : SessionPipeline}
    (hlookup : s.sessions.lookup addr = some session) (hrise : session.MetricsRise session')
    (hpipeline : CountersRise (s.pipelineEntry addr).values pipeline'.values) (a : SocketAddr) :
    Continues s (s.stored addr session' pipeline') a := by
  by_cases ha : a = addr
  · subst ha
    have hthere : (s.stored a session' pipeline').sessions.lookup a = some session' :=
      AList.lookup_insert _
    have hparked : (s.stored a session' pipeline').sessionPipelines.lookup a = some pipeline' :=
      AList.lookup_insert _
    refine ⟨fun hs => ⟨?_, fun met hmet => ?_, fun pipeline h => ?_⟩, fun habsent => ?_,
      .inl ⟨fun met hmet => ?_, fun pipeline h => ?_⟩⟩
    · rw [hthere]
      exact nofun
    · obtain rfl := Option.some.inj (hthere.symm.trans hmet)
      exact hrise.within (hs.session session hlookup)
    · obtain rfl := Option.some.inj (hparked.symm.trans h)
      exact hpipeline.within (s.pipelineEntry_within hs)
    · rw [habsent.1] at hlookup
      cases hlookup
    · obtain rfl := Option.some.inj (hlookup.symm.trans hmet)
      exact ⟨session', hthere, hrise⟩
    · refine ⟨pipeline', hparked, ?_⟩
      rw [pipelineEntry, h] at hpipeline
      exact hpipeline
  · exact .of_eq (AList.lookup_insert_ne ha) (AList.lookup_insert_ne ha)

end Continues

variable [F64 F] [MinHeap H QueuedFrame QueuedFrame.weight]

theorem runs_metricsRise {session session' : Session F H} (h : session.Runs session') :
    session.MetricsRise session' :=
  h.invariant (P := fun session' => session.MetricsRise session')
    (fun s op _ hs => RiseTogether.trans hs (s.step_metrics op)) (.refl _ _)

theorem Upkeep.continues (h : Upkeep s s') (a : SocketAddr) : Continues s s' a := by
  induction h with
  | refl => exact .of_eq rfl rfl
  | same _ hsame ih => exact ih.trans (.same hsame a)
  | close _ hclose ih => exact ih.trans (.close hclose a)
  | serve _ hlookup hserves ih =>
    refine ih.trans (.insert hlookup (runs_metricsRise hserves.runs) ?_ ?_ a)
    · rfl
    · rfl

omit [F64 F] [MinHeap H QueuedFrame QueuedFrame.weight] in
theorem FinishOutcome.continues {o : ConnectedOutcome F H}
    {r : TransportEvent × TransportServer F H} (h : FinishOutcome s addr o r) (a : SocketAddr) :
    Continues s r.2 a := by
  cases h with
  | disconnected _ _ hclose => exact .close hclose a
  | @closed m _ _ _ _ hclose _ hcounted =>
    have hsame := m.countStarted_sameAt o.becameConnected a
    exact (Continues.close hclose a).trans
      ((Continues.of_eq hsame.session hsame.pipeline).trans (.same hcounted a))
  | kept _ _ hcounted =>
    have htables := s.endHandshake_tables addr o.becameConnected
    exact (Continues.of_eq (by rw [htables.1]) (by rw [htables.2])).trans (.same hcounted a)

theorem DatagramOutcome.continues {env : Env} {datagram : Datagram} {session : Session F H}
    {r : CallResult TransportEvent × TransportServer F H}
    (h : DatagramOutcome s env addr datagram r) (hlookup : s.sessions.lookup addr = some session)
    (a : SocketAddr) : Continues s r.2 a := by
  have hreleased : ∀ {frames : List Frame} {released : Session F H} {o : ConnectedOutcome F H},
      s.Releases env addr datagram frames released →
      o = s.outcomeOver env addr released frames →
      Continues s (s.stored addr o.loop.session o.loop.pipeline) a := by
    rintro frames released o hreleases rfl
    have hingested := ingestDatagram_runs env datagram hlookup
    rw [hreleases] at hingested
    exact .stored hlookup
      (runs_metricsRise (hingested.trans (s.outcomeOver_runs env addr released frames)))
      (s.outcomeOver_values env addr released frames) a
  cases h with
  | refused hingest =>
    have hingested := ingestDatagram_runs env datagram hlookup
    rw [ingestConnected_refuses hingest] at hingested
    exact .stored hlookup (runs_metricsRise hingested) (.refl _ _) a
  | malformed hreleases ho _ => exact hreleased hreleases ho
  | unsent hreleases ho _ _ haside =>
    exact (hreleased hreleases ho).trans (.same haside.toSameTables a)
  | finished hreleases ho _ _ haside hfinish =>
    exact (hreleased hreleases ho).trans
      ((Continues.same haside.toSameTables a).trans (hfinish.continues a))

theorem openedSession_within (s : TransportServer F H) (env : Env) (mtu : UInt16) :
    Within counterMax (s.openedSession env mtu).metrics.values := by
  change Within counterMax (SessionMetrics.values {})
  simp [Within, SessionMetrics.values]

/-- An offline packet leaves what is there for an address to go on, unless it opens a session
    for it. -/
theorem OfflineEffect.continues {env : Env} {packet : OfflinePacket} {r : OfflineResult F H}
    (h : OfflineEffect s env addr packet r) (a : SocketAddr) :
    Continues s r.server a ∨ a = addr ∧ (∃ reply1, r.reply = some (.openConnectionReply1 reply1)) ∧
      r.server.SoundAt a := by
  cases h with
  | aside _ haside => exact .inl (.same haside.toSameTables a)
  | closed _ hclose => exact .inl (.close hclose a)
  | @opened m req1 haside _ _ _ _ =>
    rw [openSession_eq]
    by_cases ha : a = addr
    · subst ha
      refine .inr ⟨rfl, ⟨_, rfl⟩, ?_⟩
      refine ⟨fun hnone => ?_, fun session hsession => ?_, fun pipeline hpipeline => ?_⟩
      · exact AList.lookup_erase _ _
      · obtain rfl := Option.some.inj ((AList.lookup_insert _).symm.trans hsession)
        exact m.openedSession_within env _
      · cases (AList.lookup_erase _ _).symm.trans hpipeline
    · refine .inl ((Continues.same haside.toSameTables a).trans (.of_eq ?_ ?_))
      · exact (AList.lookup_insert_ne ha).trans (AList.lookup_erase_ne ha)
      · exact AList.lookup_erase_ne ha
  | @accepted m req2 pending session haside _ _ hlookup _ _ _ hstate =>
    rw [acceptRequest2_eq hlookup hstate]
    have hrise : session.MetricsRise
        (acceptedSession session (m.negotiateMtu (min req2.mtu pending.mtu)) env.now) := .of_eq rfl
    refine .inl ((Continues.same haside.toSameTables a).trans (.insert hlookup hrise ?_ ?_ a))
    · rfl
    · rfl
  | @retried m req2 pending session haside _ _ hlookup _ hstate =>
    rw [retryRequest2_eq hlookup hstate]
    have hrise : session.MetricsRise
        ((session.setMtu (m.negotiateMtu (min req2.mtu pending.mtu)).toNat).touchActivity
          env.now) := .of_eq rfl
    refine .inl ((Continues.same haside.toSameTables a).trans (.insert hlookup hrise ?_ ?_ a))
    · rfl
    · rfl

/-! ## Every operation -/

theorem step_counters (s : TransportServer F H) (op : TransportOp) :
    CountersRise s.counters.values (s.step op).1.counters.values ∧
      CountersRise s.rateLimiter.values (s.step op).1.rateLimiter.values := by
  cases hop : op.limiterOp with
  | some o =>
    rw [step_of_limiterOp hop]
    exact ⟨.refl _ _, s.rateLimiter.step_values o⟩
  | none =>
    by_cases hrouter : ∃ router, op = .setProxyRouter router
    · obtain ⟨router, rfl⟩ := hrouter
      exact ⟨.refl _ _, .refl _ _⟩
    · have h := s.step_writes hop fun router heq => hrouter ⟨router, heq⟩
      exact ⟨h.counters, RateLimiter.reaches_values h.limiter⟩

/-- The address for which an operation opens a session: the one whose first request gets its
    reply. -/
def opensFor (s : TransportServer F H) : TransportOp → Option SocketAddr
  | .recvAndProcess env bytes observedAddr =>
    match s.triage env bytes observedAddr with
    | .offline addr packet m =>
      match (m.handleOfflinePacket env addr packet).reply with
      | some (.openConnectionReply1 _) => some addr
      | _ => none
    | _ => none
  | _ => none

theorem step_continues (hs : s.NoOrphans) (op : TransportOp) (a : SocketAddr) :
    Continues s (s.step op).1 a ∨
      s.opensFor op = some a ∧ (s.step op).1.SoundAt a := by
  have hstep := step_inv hs op
  generalize s.step op = r at hstep
  cases hstep with
  | upkeep _ hupkeep _ => exact .inl (hupkeep.continues a)
  | @offline env bytes observedAddr addr packet m s' out hop htriage heffect haside _ =>
    subst hop
    have hupkeep : Upkeep s m := upkeep_of_triage htriage
    have hcontinues' : Continues (m.handleOfflinePacket env addr packet).server s' a :=
      .same haside.toSameTables a
    rcases heffect.continues a with hcontinues | ⟨rfl, ⟨reply1, hreply⟩, hsound⟩
    · exact .inl ((hupkeep.continues a).trans (hcontinues.trans hcontinues'))
    · refine .inr ⟨?_, hcontinues'.sound hsound⟩
      rw [opensFor, htriage]
      dsimp only
      rw [hreply]
  | datagram hop hadmitted houtcome =>
    obtain ⟨met, hmet⟩ := lookup_of_admitted hadmitted
    exact .inl (((upkeep_of_admitted hadmitted).continues a).trans (houtcome.continues hmet a))

theorem step_soundAt (hs : s.NoOrphans) (op : TransportOp) (h : s.SoundAt a) :
    (s.step op).1.SoundAt a := by
  rcases step_continues hs op a with hcontinues | ⟨-, hsound⟩
  · exact hcontinues.sound h
  · exact hsound

/-- The operation closes no session, and opens none in the place of another. -/
def keepsSessions (s : TransportServer F H) (op : TransportOp) : Prop :=
  ∀ a, (s.sessions.lookup a).isSome = true →
    ((s.step op).1.sessions.lookup a).isSome = true ∧ s.opensFor op ≠ some a

theorem step_keptAt (hs : s.NoOrphans) {op : TransportOp} (hkeeps : s.keepsSessions op)
    (hsound : s.SoundAt a) : KeptAt s (s.step op).1 a := by
  cases hsession : s.sessions.lookup a with
  | none =>
    refine ⟨fun session h => ?_, fun pipeline h => ?_⟩
    · rw [hsession] at h
      cases h
    · rw [hsound.owned hsession] at h
      cases h
  | some session =>
    obtain ⟨hthere, hother⟩ := hkeeps a (by rw [hsession]; rfl)
    rcases step_continues hs op a with hcontinues | ⟨hopens, -⟩
    · refine hcontinues.kept.resolve_right fun hgone => ?_
      rw [hgone.1] at hthere
      cases hthere
    · exact absurd hopens hother

end TransportServer

end Raknet
