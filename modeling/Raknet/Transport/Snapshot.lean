-- SUMMARY: The metrics of the server, the counters that telemetry publishes of them, and when those fall.
import Raknet.Transport.Counters
import Raknet.Transport.Tallies

/-!
# Snapshots

`metrics_snapshot` reports what the server and its limiter have counted, and the sums
of what the sessions and the pipelines that are there have counted. Telemetry publishes
most of it as counters. The ones of the server and of the limiter never fall. The sums
do when a session goes, with all that it has counted.
-/

namespace Raknet

open Decoder

/-! ## Sessions and pipelines -/

structure SessionMetricsSnapshot (F : Type) where
  /-- The counters, which are copied. -/
  counters : SessionMetrics
  pendingOutgoingFrames : Nat
  pendingOutgoingBytes : Nat
  srttMs : F
  rttvarMs : F
  resendRtoMs : F
  congestionWindowPackets : F
  resendRatio : F
  pacingBudgetBytes : F
  pacingRateBytesPerSec : F

structure SessionPipelineMetricsSnapshot where
  pendingUnhandledFrames : Nat := 0
  pendingUnhandledBytes : Nat := 0
  unhandledFramesQueued : Nat := 0
  unhandledFramesFlushed : Nat := 0
  unhandledFramesDropped : Nat := 0
deriving DecidableEq, Repr

def SessionPipeline.metricsSnapshot (p : SessionPipeline) : SessionPipelineMetricsSnapshot :=
  { pendingUnhandledFrames := p.pendingUnhandled.length
    pendingUnhandledBytes := p.pendingUnhandledBytes
    unhandledFramesQueued := p.unhandledFramesQueued
    unhandledFramesFlushed := p.unhandledFramesFlushed
    unhandledFramesDropped := p.unhandledFramesDropped }

/-- The counters of a session on top of those of others. -/
def SessionMetrics.add (total m : SessionMetrics) : SessionMetrics :=
  {
    ingressDatagrams := satAdd total.ingressDatagrams m.ingressDatagrams
    ingressFrames := satAdd total.ingressFrames m.ingressFrames
    duplicateReliableDrops := satAdd total.duplicateReliableDrops m.duplicateReliableDrops
    orderedStaleDrops := satAdd total.orderedStaleDrops m.orderedStaleDrops
    orderedBufferFullDrops := satAdd total.orderedBufferFullDrops m.orderedBufferFullDrops
    sequencedStaleDrops := satAdd total.sequencedStaleDrops m.sequencedStaleDrops
    sequencedMissingIndexDrops := satAdd total.sequencedMissingIndexDrops m.sequencedMissingIndexDrops
    reliableSentDatagrams := satAdd total.reliableSentDatagrams m.reliableSentDatagrams
    resentDatagrams := satAdd total.resentDatagrams m.resentDatagrams
    ackOutDatagrams := satAdd total.ackOutDatagrams m.ackOutDatagrams
    nackOutDatagrams := satAdd total.nackOutDatagrams m.nackOutDatagrams
    ackedDatagrams := satAdd total.ackedDatagrams m.ackedDatagrams
    nackedDatagrams := satAdd total.nackedDatagrams m.nackedDatagrams
    splitTtlDrops := satAdd total.splitTtlDrops m.splitTtlDrops
    outgoingQueueDrops := satAdd total.outgoingQueueDrops m.outgoingQueueDrops
    outgoingQueueDefers := satAdd total.outgoingQueueDefers m.outgoingQueueDefers
    outgoingQueueDisconnects := satAdd total.outgoingQueueDisconnects m.outgoingQueueDisconnects
    backpressureDelays := satAdd total.backpressureDelays m.backpressureDelays
    backpressureDrops := satAdd total.backpressureDrops m.backpressureDrops
    backpressureDisconnects := satAdd total.backpressureDisconnects m.backpressureDisconnects }

/-- The figures of a pipeline on top of those of others. -/
def SessionPipelineMetricsSnapshot.add (total p : SessionPipelineMetricsSnapshot) :
    SessionPipelineMetricsSnapshot :=
  { pendingUnhandledFrames := total.pendingUnhandledFrames + p.pendingUnhandledFrames
    pendingUnhandledBytes := total.pendingUnhandledBytes + p.pendingUnhandledBytes
    unhandledFramesQueued := satAdd total.unhandledFramesQueued p.unhandledFramesQueued
    unhandledFramesFlushed := satAdd total.unhandledFramesFlushed p.unhandledFramesFlushed
    unhandledFramesDropped := satAdd total.unhandledFramesDropped p.unhandledFramesDropped }

variable {F H : Type} [F64 F]

/-- The share of datagrams that were sent again. -/
def SessionMetrics.resendRatio (m : SessionMetrics) : F :=
  if m.reliableSentDatagrams = 0 then F64.ofNat 0
  else F64.ofNat m.resentDatagrams / F64.ofNat m.reliableSentDatagrams

variable [MinHeap H QueuedFrame QueuedFrame.weight]

def Session.metricsSnapshot (s : Session F H) : SessionMetricsSnapshot F :=
  { counters := s.metrics
    pendingOutgoingFrames := s.pendingOutgoingFrames
    pendingOutgoingBytes := s.outgoingQueuedBytes
    srttMs := s.congestion.srttMs.getD (F64.ofNat 0)
    rttvarMs := s.congestion.rttvarMs
    resendRtoMs := F64.ofDuration s.congestion.resendRto * F64.ofNat 1000
    congestionWindowPackets := s.congestion.congestionWindowPackets
    resendRatio := s.metrics.resendRatio
    pacingBudgetBytes := s.pacing.pacingBudgetBytes
    pacingRateBytesPerSec := s.pacing.pacingRateBytesPerSec }

/-! ## The server -/

/-- The fields of the snapshot, by what they are read from. -/
structure TransportMetricsSnapshot (F : Type) where
  sessionCount : Nat
  server : TransportCounters
  /-- Sums over the sessions. -/
  sessions : SessionMetrics
  pendingOutgoingFrames : Nat
  pendingOutgoingBytes : Nat
  /-- Sums over the pipelines. -/
  pipelines : SessionPipelineMetricsSnapshot
  rate : RateLimiterMetrics
  rateBlockedAddresses : Nat
  rateExceptionAddresses : Nat
  processingBudget : ProcessingBudgetMetrics
  processingBudgetActiveIpBuckets : Nat
  avgSrttMs : F
  avgRttvarMs : F
  avgResendRtoMs : F
  avgCongestionWindowPackets : F
  resendRatio : F

namespace TransportServer

/-- The values of a table in the order in which they are visited. -/
def visited {V : Type} (order : IterationOrder SocketAddr) (table : AssocMap SocketAddr V) :
    List V :=
  (order.arrange table.keys).filterMap table.lookup

/-- The sessions and the pipelines are visited in the orders of their tables. -/
def metricsSnapshot (s : TransportServer F H)
    (sessionOrder pipelineOrder : IterationOrder SocketAddr) : TransportMetricsSnapshot F :=
  let sessions := (visited sessionOrder s.sessions).map Session.metricsSnapshot
  let total := sessions.foldl (fun total m => total.add m.counters) ({} : SessionMetrics)
  let average (f : SessionMetricsSnapshot F → F) : F :=
    if 0 < s.sessions.size then
      sessions.foldl (fun sum m => sum + f m) (F64.ofNat 0) / F64.ofNat s.sessions.size
    else
      F64.ofNat 0
  { sessionCount := s.sessions.size
    server := s.counters
    sessions := total
    pendingOutgoingFrames := (sessions.map (·.pendingOutgoingFrames)).sum
    pendingOutgoingBytes := (sessions.map (·.pendingOutgoingBytes)).sum
    pipelines := (visited pipelineOrder s.sessionPipelines).foldl
      (fun total p => total.add p.metricsSnapshot) {}
    rate := s.rateLimiter.metrics
    rateBlockedAddresses := s.rateLimiter.blocked.size
    rateExceptionAddresses := s.rateLimiter.exceptions.length
    processingBudget := s.rateLimiter.processingBudget.metrics
    processingBudgetActiveIpBuckets := s.rateLimiter.processingBudget.perIpBuckets.size
    avgSrttMs := average (·.srttMs)
    avgRttvarMs := average (·.rttvarMs)
    avgResendRtoMs := average (·.resendRtoMs)
    avgCongestionWindowPackets := average (·.congestionWindowPackets)
    resendRatio := total.resendRatio }

end TransportServer

/-- What telemetry publishes as counters, under its names without the common beginning. -/
def telemetryCounters (F : Type) : List (String × (TransportMetricsSnapshot F → Nat)) :=
  [
    ("sessions_started_total", (·.server.sessionsStartedTotal)),
    ("sessions_closed_total", (·.server.sessionsClosedTotal)),
    ("packets_forwarded_total", (·.server.packetsForwardedTotal)),
    ("bytes_forwarded_total", (·.server.bytesForwardedTotal)),
    ("ack_out_total", (·.sessions.ackOutDatagrams)),
    ("nack_out_total", (·.sessions.nackOutDatagrams)),
    ("resend_total", (·.sessions.resentDatagrams)),
    ("duplicate_drop_total", (·.sessions.duplicateReliableDrops)),
    ("split_ttl_drop_total", (·.sessions.splitTtlDrops)),
    ("ingress_datagrams_total", (·.sessions.ingressDatagrams)),
    ("ingress_frames_total", (·.sessions.ingressFrames)),
    ("duplicate_reliable_drops_total", (·.sessions.duplicateReliableDrops)),
    ("ordered_stale_drops_total", (·.sessions.orderedStaleDrops)),
    ("ordered_buffer_full_drops_total", (·.sessions.orderedBufferFullDrops)),
    ("sequenced_stale_drops_total", (·.sessions.sequencedStaleDrops)),
    ("sequenced_missing_index_drops_total", (·.sessions.sequencedMissingIndexDrops)),
    ("reliable_sent_datagrams_total", (·.sessions.reliableSentDatagrams)),
    ("resent_datagrams_total", (·.sessions.resentDatagrams)),
    ("acked_datagrams_total", (·.sessions.ackedDatagrams)),
    ("nacked_datagrams_total", (·.sessions.nackedDatagrams)),
    ("split_ttl_drops_total", (·.sessions.splitTtlDrops)),
    ("outgoing_queue_drops_total", (·.sessions.outgoingQueueDrops)),
    ("outgoing_queue_defers_total", (·.sessions.outgoingQueueDefers)),
    ("outgoing_queue_disconnects_total", (·.sessions.outgoingQueueDisconnects)),
    ("backpressure_delay_total", (·.sessions.backpressureDelays)),
    ("backpressure_drop_total", (·.sessions.backpressureDrops)),
    ("backpressure_disconnect_total", (·.sessions.backpressureDisconnects)),
    ("local_requested_disconnects_total", (·.server.localRequestedDisconnects)),
    ("remote_disconnect_notifications_total", (·.server.remoteDisconnectNotifications)),
    ("remote_detect_lost_disconnects_total", (·.server.remoteDetectLostDisconnects)),
    ("illegal_state_transitions_total", (·.server.illegalStateTransitions)),
    ("timed_out_sessions_total", (·.server.timedOutSessions)),
    ("keepalive_pings_sent_total", (·.server.keepalivePingsSent)),
    ("unhandled_frames_queued_total", (·.pipelines.unhandledFramesQueued)),
    ("unhandled_frames_flushed_total", (·.pipelines.unhandledFramesFlushed)),
    ("unhandled_frames_dropped_total", (·.pipelines.unhandledFramesDropped)),
    ("rate_global_limit_hits_total", (·.rate.globalLimitHits)),
    ("rate_ip_block_hits_total", (·.rate.ipBlockHits)),
    ("rate_ip_block_hits_rate_exceeded_total", (·.rate.ipBlockHitsBy.rateExceeded)),
    ("rate_ip_block_hits_manual_total", (·.rate.ipBlockHitsBy.manual)),
    ("rate_ip_block_hits_handshake_heuristic_total", (·.rate.ipBlockHitsBy.handshakeHeuristic)),
    ("rate_ip_block_hits_cookie_mismatch_guard_total", (·.rate.ipBlockHitsBy.cookieMismatchGuard)),
    ("rate_addresses_blocked_total", (·.rate.addressesBlocked)),
    ("rate_addresses_blocked_rate_exceeded_total", (·.rate.addressesBlockedBy.rateExceeded)),
    ("rate_addresses_blocked_manual_total", (·.rate.addressesBlockedBy.manual)),
    ("rate_addresses_blocked_handshake_heuristic_total",
      (·.rate.addressesBlockedBy.handshakeHeuristic)),
    ("rate_addresses_blocked_cookie_mismatch_guard_total",
      (·.rate.addressesBlockedBy.cookieMismatchGuard)),
    ("rate_addresses_unblocked_total", (·.rate.addressesUnblocked)),
    ("processing_budget_drops_total", (·.processingBudget.dropsTotal)),
    ("processing_budget_drops_ip_exhausted_total", (·.processingBudget.dropsIpExhausted)),
    ("processing_budget_drops_global_exhausted_total", (·.processingBudget.dropsGlobalExhausted)),
    ("processing_budget_consumed_units_total", (·.processingBudget.consumedUnitsTotal)),
    ("cookie_rotations_total", (·.server.cookieRotations)),
    ("cookie_mismatch_drops_total", (·.server.cookieMismatchDrops)),
    ("cookie_mismatch_blocks_total", (·.server.cookieMismatchBlocks)),
    ("handshake_stage_cancel_drops_total", (·.server.handshakeStageCancelDrops)),
    ("handshake_req1_req2_timeouts_total", (·.server.handshakeReq1Req2Timeouts)),
    ("handshake_reply2_connect_timeouts_total", (·.server.handshakeReply2ConnectTimeouts)),
    ("handshake_missing_req1_drops_total", (·.server.handshakeMissingReq1Drops)),
    ("handshake_auto_blocks_total", (·.server.handshakeAutoBlocks)),
    ("handshake_already_connected_rejects_total",
      (·.server.handshakeAlreadyConnectedRejects)),
    ("handshake_ip_recently_connected_rejects_total",
      (·.server.handshakeIpRecentlyConnectedRejects)),
    ("request2_server_addr_mismatch_drops_total", (·.server.request2ServerAddrMismatchDrops)),
    ("request2_legacy_parse_hits_total", (·.server.request2LegacyParseHits)),
    ("request2_legacy_drops_total", (·.server.request2LegacyDrops)),
    ("request2_ambiguous_parse_hits_total", (·.server.request2AmbiguousParseHits)),
    ("request2_ambiguous_drops_total", (·.server.request2AmbiguousDrops)),
    ("proxy_inbound_reroutes_total", (·.server.proxyInboundReroutes)),
    ("proxy_inbound_drops_total", (·.server.proxyInboundDrops)),
    ("proxy_outbound_reroutes_total", (·.server.proxyOutboundReroutes)),
    ("proxy_outbound_drops_total", (·.server.proxyOutboundDrops))]

/-- The counters of a snapshot as telemetry publishes them. -/
def TransportMetricsSnapshot.exported (snapshot : TransportMetricsSnapshot F) :
    List (String × Nat) :=
  (telemetryCounters F).map fun counter => (counter.1, counter.2 snapshot)

/-! ## Sums -/

def SessionMetrics.fields : List (SessionMetrics → Nat) :=
  [(·.ingressDatagrams), (·.ingressFrames), (·.duplicateReliableDrops), (·.orderedStaleDrops),
    (·.orderedBufferFullDrops), (·.sequencedStaleDrops), (·.sequencedMissingIndexDrops),
    (·.reliableSentDatagrams), (·.resentDatagrams), (·.ackOutDatagrams), (·.nackOutDatagrams),
    (·.ackedDatagrams), (·.nackedDatagrams), (·.splitTtlDrops), (·.outgoingQueueDrops),
    (·.outgoingQueueDefers), (·.outgoingQueueDisconnects), (·.backpressureDelays),
    (·.backpressureDrops), (·.backpressureDisconnects)]

def SessionPipeline.fields :
    List ((SessionPipelineMetricsSnapshot → Nat) × (SessionPipeline → Nat)) :=
  [((·.unhandledFramesQueued), (·.unhandledFramesQueued)),
    ((·.unhandledFramesFlushed), (·.unhandledFramesFlushed)),
    ((·.unhandledFramesDropped), (·.unhandledFramesDropped))]

theorem SessionMetrics.add_fields : ∀ f ∈ SessionMetrics.fields, ∀ total m : SessionMetrics,
    f (total.add m) = min (f total + f m) counterMax := by
  simp only [SessionMetrics.fields, List.forall_mem_cons]
  refine ⟨?_, ?_, ?_, ?_, ?_, ?_, ?_, ?_, ?_, ?_, ?_, ?_, ?_, ?_, ?_, ?_, ?_, ?_, ?_, ?_,
    List.forall_mem_nil _⟩
  all_goals exact fun _ _ => rfl

theorem SessionPipeline.add_fields : ∀ f ∈ SessionPipeline.fields,
    ∀ (total : SessionPipelineMetricsSnapshot) (p : SessionPipeline),
      f.1 (total.add p.metricsSnapshot) = min (f.1 total + f.2 p) counterMax := by
  simp only [SessionPipeline.fields, List.forall_mem_cons]
  exact ⟨fun _ _ => rfl, fun _ _ => rfl, fun _ _ => rfl, List.forall_mem_nil _⟩

theorem SessionMetrics.zero_fields : ∀ f ∈ SessionMetrics.fields, f {} = 0 := by
  simp [SessionMetrics.fields]

theorem SessionPipeline.zero_fields : ∀ f ∈ SessionPipeline.fields, f.1 {} = 0 := by
  simp [SessionPipeline.fields]

/-- Counters that rise do so field by field. -/
theorem SessionMetrics.fields_le {m m' : SessionMetrics} (h : CountersRise m.values m'.values)
    (hwithin : Within counterMax m.values) : ∀ f ∈ SessionMetrics.fields, f m ≤ f m' := by
  have hle : List.Forall₂ (· ≤ ·) (SessionMetrics.fields.map fun f => f m)
      (SessionMetrics.fields.map fun f => f m') := h.le hwithin
  rw [List.forall₂_map_left_iff, List.forall₂_map_right_iff] at hle
  exact List.forall₂_same.mp hle

theorem SessionPipeline.fields_le {p p' : SessionPipeline} (h : CountersRise p.values p'.values)
    (hwithin : Within counterMax p.values) : ∀ f ∈ SessionPipeline.fields, f.2 p ≤ f.2 p' := by
  have hle : List.Forall₂ (· ≤ ·) (SessionPipeline.fields.map fun f => f.2 p)
      (SessionPipeline.fields.map fun f => f.2 p') := h.le hwithin
  rw [List.forall₂_map_left_iff, List.forall₂_map_right_iff] at hle
  exact List.forall₂_same.mp hle

/-- The counters of the limiter and of its processing budget, in their order there. -/
def TransportMetricsSnapshot.limiterValues (snapshot : TransportMetricsSnapshot F) : List Nat :=
  snapshot.rate.globalLimitHits :: snapshot.rate.ipBlockHits :: snapshot.rate.addressesBlocked ::
    snapshot.rate.addressesUnblocked :: snapshot.processingBudget.dropsTotal ::
    snapshot.processingBudget.dropsIpExhausted :: snapshot.processingBudget.dropsGlobalExhausted ::
    snapshot.processingBudget.consumedUnitsTotal ::
    (snapshot.rate.ipBlockHitsBy.values ++ snapshot.rate.addressesBlockedBy.values)

omit [F64 F] in
/-- The four places that the counters of a snapshot are read from. -/
theorem telemetryCounters_le {a b : TransportMetricsSnapshot F}
    (hserver : List.Forall₂ (· ≤ ·) a.server.values b.server.values)
    (hsessions : ∀ f ∈ SessionMetrics.fields, f a.sessions ≤ f b.sessions)
    (hpipelines : ∀ f ∈ SessionPipeline.fields, f.1 a.pipelines ≤ f.1 b.pipelines)
    (hlimiter : List.Forall₂ (· ≤ ·) a.limiterValues b.limiterValues) :
    ∀ counter ∈ telemetryCounters F, counter.2 a ≤ counter.2 b := by
  simp only [TransportCounters.values, List.forall₂_cons] at hserver
  simp only [SessionMetrics.fields, List.forall_mem_cons] at hsessions
  simp only [SessionPipeline.fields, List.forall_mem_cons] at hpipelines
  simp only [TransportMetricsSnapshot.limiterValues, ReasonCounters.values, List.cons_append,
    List.nil_append, List.forall₂_cons] at hlimiter
  simp only [telemetryCounters, List.forall_mem_cons, hserver, hsessions, hpipelines, hlimiter,
    true_and]
  exact List.forall_mem_nil _

namespace TransportServer

/-! ## Snapshots of one run -/

/-- The counters are within their cap, and the pipelines belong to sessions. -/
structure Sound (s : TransportServer F H) : Prop where
  orphans : s.NoOrphans
  at_addr : ∀ a, s.SoundAt a
  counters : Within counterMax s.counters.values
  limiter : Within counterMax s.rateLimiter.values

/-- All that is counted is still there and has risen. -/
structure Kept (s s' : TransportServer F H) : Prop where
  at_addr : ∀ a, KeptAt s s' a
  counters : CountersRise s.counters.values s'.counters.values
  limiter : CountersRise s.rateLimiter.values s'.rateLimiter.values

theorem Sound.step {s : TransportServer F H} (h : s.Sound) (op : TransportOp) :
    (s.step op).1.Sound where
  orphans := noOrphans_step h.orphans op
  at_addr a := step_soundAt h.orphans op (h.at_addr a)
  counters := (s.step_counters op).1.within h.counters
  limiter := (s.step_counters op).2.within h.limiter

omit [F64 F] [MinHeap H QueuedFrame QueuedFrame.weight] in
theorem Kept.refl (s : TransportServer F H) : Kept s s where
  at_addr _ := ⟨fun session h => ⟨session, h, .refl _ _⟩, fun pipeline h => ⟨pipeline, h, .refl _ _⟩⟩
  counters := .refl _ _
  limiter := .refl _ _

omit [F64 F] [MinHeap H QueuedFrame QueuedFrame.weight] in
theorem Kept.trans {s s' s'' : TransportServer F H} (h : Kept s s') (h' : Kept s' s'') :
    Kept s s'' where
  at_addr a := by
    refine ⟨fun session hlookup => ?_, fun pipeline hlookup => ?_⟩
    · obtain ⟨session', hlookup', hrise⟩ := (h.at_addr a).session session hlookup
      obtain ⟨session'', hlookup'', hrise'⟩ := (h'.at_addr a).session session' hlookup'
      exact ⟨session'', hlookup'', hrise.trans hrise'⟩
    · obtain ⟨pipeline', hlookup', hrise⟩ := (h.at_addr a).pipeline pipeline hlookup
      obtain ⟨pipeline'', hlookup'', hrise'⟩ := (h'.at_addr a).pipeline pipeline' hlookup'
      exact ⟨pipeline'', hlookup'', hrise.trans hrise'⟩
  counters := h.counters.trans h'.counters
  limiter := h.limiter.trans h'.limiter

theorem run_kept {s : TransportServer F H} (h : s.Sound) {ops : List TransportOp}
    (hkeeps : (transportMachine F H).AllSteps keepsSessions s ops) :
    Kept s ((transportMachine F H).exec s ops) := by
  induction ops generalizing s with
  | nil => exact .refl s
  | cons op ops ih =>
    obtain ⟨hcounters, hlimiter⟩ := s.step_counters op
    have hstep : Kept s (s.step op).1 :=
      ⟨fun a => step_keptAt h.orphans hkeeps.1 (h.at_addr a), hcounters, hlimiter⟩
    exact hstep.trans (ih (h.step op) hkeeps.2)

theorem metricsSnapshot_sessions {f : SessionMetrics → Nat} (hf : f ∈ SessionMetrics.fields)
    (s : TransportServer F H) (o p : IterationOrder SocketAddr) :
    f (s.metricsSnapshot o p).sessions
      = min ((visited o s.sessions).map fun session => f session.metrics).sum counterMax := by
  have hzero := SessionMetrics.zero_fields f hf
  have hadd : ∀ (total : SessionMetrics) (m : SessionMetricsSnapshot F),
      f (total.add m.counters) = min (f total + f m.counters) counterMax :=
    fun total m => SessionMetrics.add_fields f hf total m.counters
  have hsum := Rises.foldl_add_eq hadd ((visited o s.sessions).map Session.metricsSnapshot)
    (hzero ▸ Nat.zero_le counterMax)
  rw [hzero, Nat.zero_add, List.map_map] at hsum
  exact hsum

theorem metricsSnapshot_pipelines
    {f : (SessionPipelineMetricsSnapshot → Nat) × (SessionPipeline → Nat)}
    (hf : f ∈ SessionPipeline.fields) (s : TransportServer F H)
    (o p : IterationOrder SocketAddr) :
    f.1 (s.metricsSnapshot o p).pipelines
      = min ((visited p s.sessionPipelines).map f.2).sum counterMax := by
  have hzero := SessionPipeline.zero_fields f hf
  have hsum := Rises.foldl_add_eq (SessionPipeline.add_fields f hf)
    (visited p s.sessionPipelines) (hzero ▸ Nat.zero_le counterMax)
  rw [hzero, Nat.zero_add] at hsum
  exact hsum

/-- What is still there and has risen adds up to no less. -/
theorem Kept.exported {s s' : TransportServer F H} (h : Kept s s') (hsound : s.Sound)
    (o p o' p' : IterationOrder SocketAddr) :
    ∀ counter ∈ telemetryCounters F,
      counter.2 (s.metricsSnapshot o p) ≤ counter.2 (s'.metricsSnapshot o' p') := by
  refine telemetryCounters_le (h.counters.le hsound.counters) ?_ ?_
    (h.limiter.le hsound.limiter)
  · intro f hf
    rw [metricsSnapshot_sessions hf, metricsSnapshot_sessions hf]
    refine min_le_min_right counterMax (AssocMap.sum_lookup_le _ (o.perm _) (o'.perm _) ?_)
    intro a session hlookup
    obtain ⟨session', hlookup', hrise⟩ := (h.at_addr a).session session hlookup
    exact ⟨session', hlookup',
      SessionMetrics.fields_le hrise ((hsound.at_addr a).session session hlookup) f hf⟩
  · intro f hf
    rw [metricsSnapshot_pipelines hf, metricsSnapshot_pipelines hf]
    refine min_le_min_right counterMax (AssocMap.sum_lookup_le _ (p.perm _) (p'.perm _) ?_)
    intro a pipeline hlookup
    obtain ⟨pipeline', hlookup', hrise⟩ := (h.at_addr a).pipeline pipeline hlookup
    exact ⟨pipeline', hlookup',
      SessionPipeline.fields_le hrise ((hsound.at_addr a).pipeline pipeline hlookup) f hf⟩

omit [MinHeap H QueuedFrame QueuedFrame.weight] in
/-- A new server has counted nothing. -/
theorem withSocket_sound (config : TransportConfig F) (socketAddr : Option SocketAddr)
    (hmacSha256 : CookieKey → Bytes → Octets 32) (key : CookieKey) (start : Instant) :
    (withSocket config socketAddr hmacSha256 key start : TransportServer F H).Sound where
  orphans _ _ := rfl
  at_addr a := Absent.sound ⟨rfl, rfl⟩
  counters := by simp [Within, withSocket, TransportCounters.values]
  limiter := by
    have hexceptions : ∀ (ips : List IpAddr) (r : RateLimiter F), Within counterMax r.values →
        Within counterMax (ips.foldl RateLimiter.addException r).values := by
      intro ips
      induction ips with
      | nil => exact fun r hr => hr
      | cons ip ips ih =>
        exact fun r hr => ih _ ((r.step_values (.addException ip)).within hr)
    refine hexceptions config.rateLimitExceptions _ ?_
    change Within counterMax [0, 0, 0, 0, 0, 0, 0, 0, 0, 0, 0, 0, 0, 0, 0, 0]
    simp [Within]

/-- As long as no session is closed or replaced, no counter that telemetry publishes falls from
    one snapshot to a later one. -/
theorem exported_counters_rise (config : TransportConfig F) (socketAddr : Option SocketAddr)
    (hmacSha256 : CookieKey → Bytes → Octets 32) (key : CookieKey) (start : Instant)
    (before after : List TransportOp)
    (hkeeps : (transportMachine F H).AllSteps keepsSessions
      ((transportMachine F H).exec (withSocket config socketAddr hmacSha256 key start) before)
      after)
    (o p o' p' : IterationOrder SocketAddr) :
    ∀ counter ∈ telemetryCounters F,
      counter.2 (((transportMachine F H).exec
          (withSocket config socketAddr hmacSha256 key start) before).metricsSnapshot o p)
        ≤ counter.2 (((transportMachine F H).exec
          (withSocket config socketAddr hmacSha256 key start)
          (before ++ after)).metricsSnapshot o' p') := by
  have hsound : ((transportMachine F H).exec (withSocket config socketAddr hmacSha256 key start)
      before).Sound :=
    (transportMachine F H).run_invariant (P := fun _ _ s => s.Sound)
      (withSocket_sound config socketAddr hmacSha256 key start)
      (fun _ _ _ op hs => hs.step op) before
  rw [Machine.exec_append]
  exact (run_kept hsound hkeeps).exported hsound o p o' p'

/-- A tick of the connected session. -/
def quietTick : TransportOp := .tickOutbound (quietEnv 6) 8 11200 8 11200

/-- The session of the handshake is kept by a tick. -/
theorem exported_counters_rise_tick :
    concreteTransport.AllSteps keepsSessions (concreteTransport.exec keyedServer handshakeRun)
      [quietTick] ∧
    ∀ counter ∈ telemetryCounters ℚ,
      counter.2 ((concreteTransport.exec keyedServer handshakeRun).metricsSnapshot .identity
          .identity)
        ≤ counter.2 ((concreteTransport.exec keyedServer
          (handshakeRun ++ [quietTick])).metricsSnapshot .identity .identity) := by
  have hkeys : (concreteTransport.exec keyedServer handshakeRun).sessions.keys = [clientAddr] := by
    decide +kernel
  have hthere : (((concreteTransport.exec keyedServer handshakeRun).step
      quietTick).1.sessions.lookup clientAddr).isSome = true := by
    decide +kernel
  have hkeeps : concreteTransport.AllSteps keepsSessions
      (concreteTransport.exec keyedServer handshakeRun) [quietTick] := by
    refine ⟨fun a ha => ?_, trivial⟩
    have hmem : a ∈ (concreteTransport.exec keyedServer handshakeRun).sessions.keys :=
      AList.mem_keys.mp (AList.lookup_isSome.mp ha)
    rw [hkeys, List.mem_singleton] at hmem
    subst hmem
    refine ⟨hthere, ?_⟩
    rw [quietTick, opensFor]
    · rintro ⟨⟩
    · rintro _ _ _ ⟨⟩
  exact ⟨hkeeps, exported_counters_rise (.standard : TransportConfig ℚ) none (fun key _ => key)
    firstKey 0 handshakeRun [quietTick] hkeeps .identity .identity .identity
    .identity⟩

/-- The datagrams of a session are no longer counted when its peer is disconnected. -/
theorem ingress_datagrams_fall :
    let s := concreteTransport.exec keyedServer handshakeRun
    let s' := (s.step (.disconnectPeer (quietEnv 6) clientAddr)).1
    (s.metricsSnapshot .identity .identity).exported.lookup "ingress_datagrams_total" = some 1 ∧
      (s'.metricsSnapshot .identity .identity).exported.lookup "ingress_datagrams_total"
        = some 0 := by
  decide +kernel

end TransportServer

end Raknet
