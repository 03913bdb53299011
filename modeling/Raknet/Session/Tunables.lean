-- SUMMARY: Session tunables, their profiles and defaults, the settings they resolve to, and their validation.
import Raknet.Error
import Raknet.Lib.F64
import Raknet.Protocol.Datagram
import Raknet.Session.SplitAssembler

namespace Raknet

/-- `Duration::from_millis`. -/
def Duration.fromMillis (ms : Nat) : Duration := ms * 1000000

inductive AckNackFlushProfile where
  | lowLatency
  | balanced
  | throughput
  | custom
deriving DecidableEq, Repr

inductive AckNackPriority where
  | nackFirst
  | ackFirst
deriving DecidableEq, Repr

inductive BackpressureMode where
  | delay
  | shed
  | disconnect
deriving DecidableEq, Repr

inductive CongestionProfile where
  | conservative
  | highLatency
  | custom
deriving DecidableEq, Repr

structure AckNackFlushSettings where
  ackFlushInterval : Duration
  nackFlushInterval : Duration
  ackMaxRangesPerDatagram : Nat
  nackMaxRangesPerDatagram : Nat
  ackNackPriority : AckNackPriority
deriving DecidableEq, Repr

structure CongestionSettings (F : Type) where
  resendRto : Duration
  minResendRto : Duration
  maxResendRto : Duration
  initialCongestionWindow : F
  minCongestionWindow : F
  maxCongestionWindow : F
  congestionSlowStartThreshold : F
  congestionAdditiveGain : F
  congestionMultiplicativeDecreaseNack : F
  congestionMultiplicativeDecreaseTimeout : F
  congestionHighRttThresholdMs : F
  congestionHighRttAdditiveScale : F
  congestionNackBackoffCooldown : Duration

def AckNackFlushProfile.settings : AckNackFlushProfile → AckNackFlushSettings
  | .lowLatency => ⟨.fromMillis 4, .fromMillis 1, 24, 64, .nackFirst⟩
  | .balanced => ⟨.fromMillis 10, .fromMillis 2, 48, 96, .nackFirst⟩
  | .throughput => ⟨.fromMillis 24, .fromMillis 4, 96, 128, .nackFirst⟩
  | .custom => ⟨.fromMillis 10, .fromMillis 2, 48, 96, .nackFirst⟩

variable {F : Type} [F64 F]

/-- `CongestionProfile::Conservative`, which `Custom` falls back to. -/
def CongestionProfile.conservativeSettings : CongestionSettings F :=
  { resendRto := .fromMillis 250
    minResendRto := .fromMillis 80
    maxResendRto := .fromMillis 2000
    initialCongestionWindow := F64.ofNat 64
    minCongestionWindow := F64.ofNat 8
    maxCongestionWindow := F64.ofNat 1024
    congestionSlowStartThreshold := F64.ofNat 128
    congestionAdditiveGain := F64.ofNat 1
    congestionMultiplicativeDecreaseNack := F64.decimal 85 2
    congestionMultiplicativeDecreaseTimeout := F64.decimal 6 1
    congestionHighRttThresholdMs := F64.ofNat 180
    congestionHighRttAdditiveScale := F64.decimal 6 1
    congestionNackBackoffCooldown := .fromMillis 50 }

def CongestionProfile.highLatencySettings : CongestionSettings F :=
  { resendRto := .fromMillis 350
    minResendRto := .fromMillis 120
    maxResendRto := .fromMillis 3000
    initialCongestionWindow := F64.ofNat 48
    minCongestionWindow := F64.ofNat 8
    maxCongestionWindow := F64.ofNat 768
    congestionSlowStartThreshold := F64.ofNat 96
    congestionAdditiveGain := F64.decimal 85 2
    congestionMultiplicativeDecreaseNack := F64.decimal 92 2
    congestionMultiplicativeDecreaseTimeout := F64.decimal 75 2
    congestionHighRttThresholdMs := F64.ofNat 140
    congestionHighRttAdditiveScale := F64.decimal 85 2
    congestionNackBackoffCooldown := .fromMillis 100 }

def CongestionProfile.settings : CongestionProfile → CongestionSettings F
  | .conservative => conservativeSettings
  | .highLatency => highLatencySettings
  | .custom => conservativeSettings

/-- The tunables a session reads. `best_effort_zeroize_dropped_payloads` only
    decides whether dropped buffers are overwritten and is left out. -/
structure SessionTunables (F : Type) where
  ackNackFlushProfile : AckNackFlushProfile
  congestionProfile : CongestionProfile
  /-- The five flush fields, read under the custom profile. -/
  flush : AckNackFlushSettings
  ackQueueCapacity : Nat
  backpressureMode : BackpressureMode
  reliableWindow : Nat
  splitTtl : Duration
  maxSplitParts : UInt32
  maxConcurrentSplits : Nat
  maxOrderingChannels : Nat
  maxOrderedPendingPerChannel : Nat
  maxOrderGap : Nat
  /-- The thirteen congestion fields, read under the custom profile. -/
  congestion : CongestionSettings F
  pacingEnabled : Bool
  pacingStartFull : Bool
  pacingGain : F
  pacingMinRateBytesPerSec : F
  pacingMaxRateBytesPerSec : F
  pacingMaxBurstBytes : Nat
  outgoingQueueMaxFrames : Nat
  outgoingQueueMaxBytes : Nat
  outgoingQueueSoftRatio : F

namespace SessionTunables

/-- `SessionTunables::default`. -/
def standard : SessionTunables F :=
  { ackNackFlushProfile := .balanced
    congestionProfile := .conservative
    flush := AckNackFlushProfile.balanced.settings
    ackQueueCapacity := 1024
    backpressureMode := .shed
    reliableWindow := maxAckSequences
    splitTtl := .fromMillis splitReassemblyTtlMs
    maxSplitParts := UInt32.ofNat Raknet.maxSplitParts
    maxConcurrentSplits := maxInflightSplitCompoundsPerPeer
    maxOrderingChannels := 16
    maxOrderedPendingPerChannel := 2048
    maxOrderGap := maxAckSequences
    congestion := CongestionProfile.conservative.settings
    pacingEnabled := true
    pacingStartFull := true
    pacingGain := F64.ofNat 1
    pacingMinRateBytesPerSec := F64.ofNat (24 * 1024)
    pacingMaxRateBytesPerSec := F64.ofNat (32 * 1024 * 1024)
    pacingMaxBurstBytes := 128 * 1024
    outgoingQueueMaxFrames := 8192
    outgoingQueueMaxBytes := 8 * 1024 * 1024
    outgoingQueueSoftRatio := F64.decimal 85 2 }

def resolvedAckNackFlushSettings (t : SessionTunables F) : AckNackFlushSettings :=
  match t.ackNackFlushProfile with
  | .lowLatency | .balanced | .throughput => t.ackNackFlushProfile.settings
  | .custom => t.flush

def resolvedCongestionSettings (t : SessionTunables F) : CongestionSettings F :=
  match t.congestionProfile with
  | .conservative | .highLatency => t.congestionProfile.settings
  | .custom => t.congestion

/-! ## Validation -/

/-- One check of `validate`: an error for the field if the condition holds. -/
def refuseIf (condition : Bool) (field message : String) : Except ConfigValidationError Unit :=
  if condition then .error ⟨"SessionTunables", field, message⟩ else .ok ()

/-- `f64::is_finite`, which is false of a NaN. -/
def isFinite (value : F) : Bool := F64.lt (F64.abs value) F64.infinity

def validatePositiveF64 (value : F) (field : String) : Except ConfigValidationError Unit :=
  refuseIf (!isFinite value || F64.le value (F64.ofNat 0)) field "must be finite and > 0"

def validateFraction (value : F) (field : String) : Except ConfigValidationError Unit :=
  refuseIf (!isFinite value || F64.le value (F64.ofNat 0) || F64.le (F64.ofNat 1) value) field
    "must be finite and within (0, 1)"

def validate (t : SessionTunables F) : Except ConfigValidationError Unit := do
  let ackNack := t.resolvedAckNackFlushSettings
  let congestion := t.resolvedCongestionSettings
  refuseIf (ackNack.ackFlushInterval == 0) "ack_flush_interval" "must be > 0"
  refuseIf (ackNack.nackFlushInterval == 0) "nack_flush_interval" "must be > 0"
  refuseIf (ackNack.ackMaxRangesPerDatagram == 0) "ack_max_ranges_per_datagram" "must be >= 1"
  refuseIf (ackNack.nackMaxRangesPerDatagram == 0) "nack_max_ranges_per_datagram" "must be >= 1"
  refuseIf (t.ackQueueCapacity == 0) "ack_queue_capacity" "must be >= 1"
  refuseIf (t.reliableWindow == 0) "reliable_window" "must be >= 1"
  refuseIf (t.splitTtl == 0) "split_ttl" "must be > 0"
  refuseIf (t.maxSplitParts == 0) "max_split_parts" "must be >= 1"
  refuseIf (t.maxConcurrentSplits == 0) "max_concurrent_splits" "must be >= 1"
  refuseIf (t.maxOrderingChannels == 0) "max_ordering_channels" "must be >= 1"
  refuseIf (t.maxOrderedPendingPerChannel == 0) "max_ordered_pending_per_channel" "must be >= 1"
  refuseIf (t.maxOrderGap == 0) "max_order_gap" "must be >= 1"
  refuseIf (congestion.minResendRto == 0) "min_resend_rto" "must be > 0"
  refuseIf (congestion.maxResendRto == 0) "max_resend_rto" "must be > 0"
  refuseIf (decide (congestion.maxResendRto < congestion.minResendRto)) "min_resend_rto"
    "must be <= max_resend_rto"
  refuseIf (decide (congestion.resendRto < congestion.minResendRto) ||
      decide (congestion.maxResendRto < congestion.resendRto)) "resend_rto"
    "must be within [min_resend_rto, max_resend_rto]"
  validatePositiveF64 congestion.initialCongestionWindow "initial_congestion_window"
  validatePositiveF64 congestion.minCongestionWindow "min_congestion_window"
  validatePositiveF64 congestion.maxCongestionWindow "max_congestion_window"
  refuseIf (F64.lt congestion.maxCongestionWindow congestion.minCongestionWindow)
    "min_congestion_window" "must be <= max_congestion_window"
  refuseIf (F64.lt congestion.initialCongestionWindow congestion.minCongestionWindow ||
      F64.lt congestion.maxCongestionWindow congestion.initialCongestionWindow)
    "initial_congestion_window" "must be within [min_congestion_window, max_congestion_window]"
  refuseIf (F64.lt congestion.congestionSlowStartThreshold congestion.minCongestionWindow ||
      F64.lt congestion.maxCongestionWindow congestion.congestionSlowStartThreshold)
    "congestion_slow_start_threshold"
    "must be within [min_congestion_window, max_congestion_window]"
  validatePositiveF64 congestion.congestionAdditiveGain "congestion_additive_gain"
  validateFraction congestion.congestionMultiplicativeDecreaseNack
    "congestion_multiplicative_decrease_nack"
  validateFraction congestion.congestionMultiplicativeDecreaseTimeout
    "congestion_multiplicative_decrease_timeout"
  validatePositiveF64 congestion.congestionHighRttThresholdMs "congestion_high_rtt_threshold_ms"
  -- closed at one, unlike the fractions
  refuseIf (!isFinite congestion.congestionHighRttAdditiveScale ||
      F64.le congestion.congestionHighRttAdditiveScale (F64.ofNat 0) ||
      F64.lt (F64.ofNat 1) congestion.congestionHighRttAdditiveScale)
    "congestion_high_rtt_additive_scale" "must be finite and within (0, 1]"
  refuseIf (congestion.congestionNackBackoffCooldown == 0) "congestion_nack_backoff_cooldown"
    "must be > 0"
  validatePositiveF64 t.pacingGain "pacing_gain"
  validatePositiveF64 t.pacingMinRateBytesPerSec "pacing_min_rate_bytes_per_sec"
  validatePositiveF64 t.pacingMaxRateBytesPerSec "pacing_max_rate_bytes_per_sec"
  refuseIf (F64.lt t.pacingMaxRateBytesPerSec t.pacingMinRateBytesPerSec)
    "pacing_min_rate_bytes_per_sec" "must be <= pacing_max_rate_bytes_per_sec"
  refuseIf (t.pacingMaxBurstBytes == 0) "pacing_max_burst_bytes" "must be >= 1"
  refuseIf (t.outgoingQueueMaxFrames == 0) "outgoing_queue_max_frames" "must be >= 1"
  refuseIf (t.outgoingQueueMaxBytes == 0) "outgoing_queue_max_bytes" "must be >= 1"
  validateFraction t.outgoingQueueSoftRatio "outgoing_queue_soft_ratio"

/-- The defaults pass under every profile, whose own settings replace the custom
    fields. -/
theorem standard_validate (flushProfile : AckNackFlushProfile)
    (congestionProfile : CongestionProfile) :
    ({ (standard : SessionTunables ℚ) with
      ackNackFlushProfile := flushProfile
      congestionProfile := congestionProfile }).validate = .ok () := by
  cases flushProfile <;> cases congestionProfile <;> decide +kernel

end SessionTunables

end Raknet
