-- SUMMARY: Congestion window, retransmission timeout and pacing budget of a session.
import Raknet.Session.Tunables

/-!
# Congestion control and pacing

The fields of `Session` that hold the congestion window, the retransmission
timeout and the pacing budget, with the methods that touch nothing else. They
decide when data leaves and how much of it, never what it is.
-/

namespace Raknet

/-- `Duration::MAX`. -/
def Duration.maximum : Duration := (2 ^ 64 - 1) * 1000000000 + 999999999

/-- `Ord::clamp` on durations. -/
def Duration.clamp (d lo hi : Duration) : Duration :=
  if d < lo then lo else if d > hi then hi else d

structure Congestion (F : Type) where
  resendRto : Duration
  minResendRto : Duration
  maxResendRto : Duration
  srttMs : Option F
  rttvarMs : F
  congestionWindowPackets : F
  minCongestionWindowPackets : F
  maxCongestionWindowPackets : F
  slowStartThresholdPackets : F
  congestionAdditiveGain : F
  congestionMultiplicativeDecreaseNack : F
  congestionMultiplicativeDecreaseTimeout : F
  highRttThresholdMs : F
  highRttAdditiveScale : F
  nackLossBackoffCooldown : Duration
  nextNackLossBackoff : Instant

variable {F : Type} [F64 F]

namespace Congestion

def withSettings (settings : CongestionSettings F) (now : Instant) : Congestion F :=
  let minCwnd := F64.max settings.minCongestionWindow (F64.ofNat 1)
  let maxCwnd := F64.max settings.maxCongestionWindow minCwnd
  { resendRto := Duration.clamp settings.resendRto settings.minResendRto settings.maxResendRto
    minResendRto := settings.minResendRto
    maxResendRto := settings.maxResendRto
    srttMs := none
    rttvarMs := F64.ofNat 0
    congestionWindowPackets :=
      F64.max (F64.clamp settings.initialCongestionWindow minCwnd maxCwnd) (F64.ofNat 1)
    minCongestionWindowPackets := minCwnd
    maxCongestionWindowPackets := maxCwnd
    slowStartThresholdPackets :=
      F64.clamp settings.congestionSlowStartThreshold minCwnd maxCwnd
    congestionAdditiveGain := F64.max settings.congestionAdditiveGain (F64.decimal 1 2)
    congestionMultiplicativeDecreaseNack :=
      F64.clamp settings.congestionMultiplicativeDecreaseNack (F64.decimal 1 1) (F64.decimal 99 2)
    congestionMultiplicativeDecreaseTimeout :=
      F64.clamp settings.congestionMultiplicativeDecreaseTimeout
        (F64.decimal 1 1) (F64.decimal 99 2)
    highRttThresholdMs := F64.max settings.congestionHighRttThresholdMs (F64.ofNat 1)
    highRttAdditiveScale :=
      F64.clamp settings.congestionHighRttAdditiveScale (F64.decimal 5 2) (F64.ofNat 1)
    nackLossBackoffCooldown := max settings.congestionNackBackoffCooldown (.fromMillis 1)
    nextNackLossBackoff := now }

/-- The test of `can_emit_new_reliable_datagram` for a number of tracked
    datagrams. -/
def windowOpen (c : Congestion F) (inFlight : Nat) : Bool :=
  F64.lt (F64.ofNat inFlight) (F64.floor (F64.max c.congestionWindowPackets (F64.ofNat 1)))

def recomputeRtoFromRtt (c : Congestion F) : Congestion F :=
  match c.srttMs with
  | none => c
  | some srttMs =>
    let rtoMs := srttMs + F64.max (F64.ofNat 4 * c.rttvarMs) (F64.ofNat 10)
    let clamped := F64.clamp rtoMs
      (F64.ofDuration c.minResendRto * F64.ofNat 1000)
      (F64.ofDuration c.maxResendRto * F64.ofNat 1000)
    { c with resendRto := F64.toDuration (clamped / F64.ofNat 1000) }

def observeRttSample (c : Congestion F) (sample : Duration) : Congestion F :=
  let sampleMs := F64.max (F64.ofDuration sample * F64.ofNat 1000) (F64.ofNat 1)
  let c := match c.srttMs with
    | none => { c with srttMs := some sampleMs, rttvarMs := sampleMs / F64.ofNat 2 }
    | some srtt =>
      let alpha : F := F64.decimal 125 3
      let beta : F := F64.decimal 25 2
      let variation := F64.abs (srtt - sampleMs)
      { c with
        rttvarMs := (F64.ofNat 1 - beta) * c.rttvarMs + beta * variation
        srttMs := some ((F64.ofNat 1 - alpha) * srtt + alpha * sampleMs) }
  recomputeRtoFromRtt c

def onReliableAck (c : Congestion F) : Congestion F :=
  let additive :=
    if F64.lt c.congestionWindowPackets c.slowStartThresholdPackets then
      F64.max c.congestionAdditiveGain (F64.ofNat 1)
    else
      c.congestionAdditiveGain / F64.max c.congestionWindowPackets (F64.ofNat 1)
  let additive := match c.srttMs with
    | some srttMs =>
      if F64.le c.highRttThresholdMs srttMs then additive * c.highRttAdditiveScale else additive
    | none => additive
  let additive := F64.max additive (F64.decimal 1 3)
  { c with
    congestionWindowPackets :=
      F64.clamp (c.congestionWindowPackets + additive)
        c.minCongestionWindowPackets c.maxCongestionWindowPackets }

def applyLossBackoff (c : Congestion F) (factor : F) : Congestion F :=
  let factor := F64.clamp factor (F64.decimal 1 1) (F64.decimal 99 2)
  let reduced := F64.clamp (c.congestionWindowPackets * factor)
    c.minCongestionWindowPackets c.maxCongestionWindowPackets
  { c with slowStartThresholdPackets := reduced, congestionWindowPackets := reduced }

def onTimeout (c : Congestion F) (now : Instant) : Congestion F :=
  let c := c.applyLossBackoff c.congestionMultiplicativeDecreaseTimeout
  let backedOff := min (c.resendRto * 2) Duration.maximum
  { c with
    resendRto := min backedOff c.maxResendRto
    nextNackLossBackoff := now + c.nackLossBackoffCooldown }

def onNackLoss (c : Congestion F) (now : Instant) : Congestion F :=
  if now < c.nextNackLossBackoff then
    c
  else
    let c := c.applyLossBackoff c.congestionMultiplicativeDecreaseNack
    { c with nextNackLossBackoff := now + c.nackLossBackoffCooldown }

/-- An empty window is open, whatever its width. -/
theorem windowOpen_zero (c : Congestion F) : c.windowOpen 0 = true :=
  F64.zero_lt_floor_max_one _

end Congestion

structure Pacing (F : Type) where
  pacingEnabled : Bool
  pacingGain : F
  pacingMinRateBytesPerSec : F
  pacingMaxRateBytesPerSec : F
  pacingBudgetMaxBytes : F
  pacingBudgetBytes : F
  pacingRateBytesPerSec : F
  lastPacingUpdate : Instant

namespace Pacing

def withTunables (tunables : SessionTunables F) (now : Instant) : Pacing F :=
  let pacingMinRate := F64.max tunables.pacingMinRateBytesPerSec (F64.ofNat 1)
  let pacingMaxRate := F64.max tunables.pacingMaxRateBytesPerSec pacingMinRate
  let pacingBudgetMax := F64.ofNat (max tunables.pacingMaxBurstBytes 1)
  { pacingEnabled := tunables.pacingEnabled
    pacingGain := F64.max tunables.pacingGain (F64.decimal 5 2)
    pacingMinRateBytesPerSec := pacingMinRate
    pacingMaxRateBytesPerSec := pacingMaxRate
    pacingBudgetMaxBytes := pacingBudgetMax
    pacingBudgetBytes := if tunables.pacingStartFull then pacingBudgetMax else F64.ofNat 0
    pacingRateBytesPerSec := pacingMinRate
    lastPacingUpdate := now }

def computePacingRateBytesPerSec (p : Pacing F) (c : Congestion F) (mtu : Nat) : F :=
  if !p.pacingEnabled then
    F64.infinity
  else
    let referenceRttMs := match c.srttMs with
      | some srtt => srtt
      | none => F64.max (F64.ofDuration c.resendRto * F64.ofNat 1000) (F64.ofNat 1)
    let rttSecs := F64.max referenceRttMs (F64.ofNat 1) / F64.ofNat 1000
    let cwndBytes := F64.max c.congestionWindowPackets (F64.ofNat 1) * F64.ofNat mtu
    let rawRate := (cwndBytes / rttSecs) * p.pacingGain
    F64.clamp rawRate p.pacingMinRateBytesPerSec p.pacingMaxRateBytesPerSec

def refreshPacingBudget (p : Pacing F) (c : Congestion F) (mtu : Nat) (now : Instant) :
    Pacing F :=
  if !p.pacingEnabled then
    p
  else
    let elapsed : F := F64.ofDuration (now - p.lastPacingUpdate)
    let rate := p.computePacingRateBytesPerSec c mtu
    let p := { p with lastPacingUpdate := now, pacingRateBytesPerSec := rate }
    if F64.lt (F64.ofNat 0) elapsed then
      { p with
        pacingBudgetBytes :=
          F64.clamp (p.pacingBudgetBytes + elapsed * rate) (F64.ofNat 0) p.pacingBudgetMaxBytes }
    else
      p

def consumePacingBudget (p : Pacing F) (bytes : Nat) : Pacing F :=
  if !p.pacingEnabled then
    p
  else
    { p with pacingBudgetBytes := F64.max (p.pacingBudgetBytes - F64.ofNat bytes) (F64.ofNat 0) }

/-- The bytes the budget allows now; without pacing `usize::MAX`. -/
def availableBytes (p : Pacing F) : Nat :=
  if p.pacingEnabled then F64.toUsize (F64.floor p.pacingBudgetBytes) else 2 ^ 64 - 1

end Pacing

end Raknet
