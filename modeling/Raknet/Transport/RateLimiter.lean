-- SUMMARY: The packet rate limiter of the transport with its address blocks, and the processing budget.
import Raknet.Lib.Containers
import Raknet.Session.State
import Raknet.Wire.Primitives

/-!
# The rate limiter

Packets are counted per address and in total within a window of time. An address
that sends too many is blocked for a while; blocks are also set by hand and by
the handshake. The processing budget is a second limit, in tokens that are
refilled with time.
-/

namespace Raknet

/-- `normalize_duration`. -/
def normalizeDuration (value minimum : Duration) : Duration := if value = 0 then minimum else value

/-! ## The processing budget -/

structure ProcessingBudgetConfig where
  enabled : Bool
  perIpRefillUnitsPerSec : Nat
  perIpBurstUnits : Nat
  globalRefillUnitsPerSec : Nat
  globalBurstUnits : Nat
  bucketIdleTtl : Duration
deriving DecidableEq, Repr

namespace ProcessingBudgetConfig

/-- `ProcessingBudgetConfig::default`. -/
def standard : ProcessingBudgetConfig :=
  { enabled := true
    perIpRefillUnitsPerSec := 3000000
    perIpBurstUnits := 1500000
    globalRefillUnitsPerSec := 128000000
    globalBurstUnits := 32000000
    bucketIdleTtl := .fromMillis 30000 }

/-- `normalize_processing_budget_config`. -/
def normalize (config : ProcessingBudgetConfig) : ProcessingBudgetConfig :=
  if !config.enabled then
    config
  else
    { config with
      perIpRefillUnitsPerSec := max config.perIpRefillUnitsPerSec 1
      perIpBurstUnits := max config.perIpBurstUnits 1
      globalRefillUnitsPerSec := max config.globalRefillUnitsPerSec 1
      globalBurstUnits := max config.globalBurstUnits 1
      bucketIdleTtl := normalizeDuration config.bucketIdleTtl (.fromMillis 1) }

end ProcessingBudgetConfig

inductive ProcessingBudgetDecision where
  | allow
  | ipExhausted
  | globalExhausted
deriving DecidableEq, Repr

structure ProcessingTokenBucket (F : Type) where
  tokens : F
  lastRefill : Instant

structure ProcessingBudgetMetrics where
  dropsTotal : Nat := 0
  dropsIpExhausted : Nat := 0
  dropsGlobalExhausted : Nat := 0
  consumedUnitsTotal : Nat := 0
deriving DecidableEq, Repr

structure ProcessingBudgetState (F : Type) where
  config : ProcessingBudgetConfig
  globalBucket : ProcessingTokenBucket F
  perIpBuckets : AssocMap IpAddr (ProcessingTokenBucket F)
  metrics : ProcessingBudgetMetrics

variable {F : Type} [F64 F]

namespace ProcessingTokenBucket

def withFullTokens (now : Instant) (burst : Nat) : ProcessingTokenBucket F :=
  { tokens := F64.ofNat burst, lastRefill := now }

def refill (b : ProcessingTokenBucket F) (now : Instant) (refillPerSec burst : Nat) :
    ProcessingTokenBucket F :=
  if now ≤ b.lastRefill then
    b
  else
    let elapsed : F := F64.ofDuration (now - b.lastRefill)
    let refill := elapsed * F64.ofNat refillPerSec
    { tokens := F64.clamp (b.tokens + refill) (F64.ofNat 0) (F64.ofNat burst), lastRefill := now }

def canConsume (b : ProcessingTokenBucket F) (cost : Nat) : Bool := F64.le (F64.ofNat cost) b.tokens

def consume (b : ProcessingTokenBucket F) (cost : Nat) : ProcessingTokenBucket F :=
  { b with tokens := F64.max (b.tokens - F64.ofNat cost) (F64.ofNat 0) }

end ProcessingTokenBucket

namespace ProcessingBudgetState

def new (config : ProcessingBudgetConfig) (now : Instant) : ProcessingBudgetState F :=
  let config := config.normalize
  { config
    globalBucket := .withFullTokens now config.globalBurstUnits
    perIpBuckets := ∅
    metrics := {} }

def setConfig (b : ProcessingBudgetState F) (config : ProcessingBudgetConfig) (now : Instant) :
    ProcessingBudgetState F :=
  let config := config.normalize
  { b with
    config
    globalBucket := .withFullTokens now config.globalBurstUnits
    perIpBuckets := ∅ }

def tick (b : ProcessingBudgetState F) (now : Instant) : ProcessingBudgetState F :=
  if !b.config.enabled then
    { b with perIpBuckets := ∅ }
  else
    { b with
      perIpBuckets := b.perIpBuckets.retain fun _ bucket =>
        decide (now - bucket.lastRefill ≤ b.config.bucketIdleTtl) }

/-- The total bucket pays only if the bucket of the address can pay too. -/
def consume (b : ProcessingBudgetState F) (ip : IpAddr) (costUnits : Nat) (now : Instant) :
    ProcessingBudgetDecision × ProcessingBudgetState F :=
  if !b.config.enabled then
    (.allow, b)
  else
    let maxCost := max (min b.config.perIpBurstUnits b.config.globalBurstUnits) 1
    let cost := min (max costUnits 1) maxCost
    let b := { b with
      globalBucket :=
        b.globalBucket.refill now b.config.globalRefillUnitsPerSec b.config.globalBurstUnits }
    if !b.globalBucket.canConsume cost then
      (.globalExhausted, { b with
        metrics := { b.metrics with
          dropsTotal := satAdd b.metrics.dropsTotal 1
          dropsGlobalExhausted := satAdd b.metrics.dropsGlobalExhausted 1 } })
    else
      let bucket := ((b.perIpBuckets.lookup ip).getD
        (.withFullTokens now b.config.perIpBurstUnits)).refill now
          b.config.perIpRefillUnitsPerSec b.config.perIpBurstUnits
      if !bucket.canConsume cost then
        (.ipExhausted, { b with
          perIpBuckets := b.perIpBuckets.insert ip bucket
          metrics := { b.metrics with
            dropsTotal := satAdd b.metrics.dropsTotal 1
            dropsIpExhausted := satAdd b.metrics.dropsIpExhausted 1 } })
      else
        (.allow, { b with
          globalBucket := b.globalBucket.consume cost
          perIpBuckets := b.perIpBuckets.insert ip (bucket.consume cost)
          metrics := { b.metrics with
            consumedUnitsTotal := satAdd b.metrics.consumedUnitsTotal cost } })

end ProcessingBudgetState

/-! ## Packet rates and blocks -/

inductive BlockReason where
  | rateExceeded
  | manual
  | handshakeHeuristic
  | cookieMismatchGuard
deriving DecidableEq, Repr

inductive RateLimitDecision where
  | allow
  | globalLimit
  | ipBlocked (newlyBlocked : Bool) (reason : BlockReason)
deriving DecidableEq, Repr

structure BlockState where
  /-- A block without an end is lifted by hand only. -/
  blockedUntil : Option Instant
  reason : BlockReason
deriving DecidableEq, Repr

/-- A counter for each reason. -/
structure ReasonCounters where
  rateExceeded : Nat := 0
  manual : Nat := 0
  handshakeHeuristic : Nat := 0
  cookieMismatchGuard : Nat := 0
deriving DecidableEq, Repr

def ReasonCounters.record (c : ReasonCounters) : BlockReason → ReasonCounters
  | .rateExceeded => { c with rateExceeded := satAdd c.rateExceeded 1 }
  | .manual => { c with manual := satAdd c.manual 1 }
  | .handshakeHeuristic => { c with handshakeHeuristic := satAdd c.handshakeHeuristic 1 }
  | .cookieMismatchGuard => { c with cookieMismatchGuard := satAdd c.cookieMismatchGuard 1 }

structure RateLimiterMetrics where
  globalLimitHits : Nat := 0
  ipBlockHits : Nat := 0
  /-- The four counters `ip_block_hits_*`. -/
  ipBlockHitsBy : ReasonCounters := {}
  addressesBlocked : Nat := 0
  /-- The four counters `addresses_blocked_*`. -/
  addressesBlockedBy : ReasonCounters := {}
  addressesUnblocked : Nat := 0
deriving DecidableEq, Repr

structure RateLimiter (F : Type) where
  windowStart : Instant
  windowCount : Nat
  perIpLimit : Nat
  globalLimit : Nat
  window : Duration
  blockDuration : Duration
  ipState : AssocMap IpAddr Nat
  blocked : AssocMap IpAddr BlockState
  exceptions : List IpAddr
  metrics : RateLimiterMetrics
  processingBudget : ProcessingBudgetState F

namespace RateLimiter

def new (perIpLimit globalLimit : Nat) (window blockDuration : Duration) (now : Instant) :
    RateLimiter F :=
  { windowStart := now
    windowCount := 0
    perIpLimit := max perIpLimit 1
    globalLimit := max globalLimit 1
    window := normalizeDuration window (.fromMillis 1)
    blockDuration := normalizeDuration blockDuration (.fromMillis 1)
    ipState := ∅
    blocked := ∅
    exceptions := []
    metrics := {}
    processingBudget := .new .standard now }

def recordIpBlockHit (r : RateLimiter F) (reason : BlockReason) : RateLimiter F :=
  { r with
    metrics := { r.metrics with
      ipBlockHits := satAdd r.metrics.ipBlockHits 1
      ipBlockHitsBy := r.metrics.ipBlockHitsBy.record reason } }

def recordNewBlock (r : RateLimiter F) (reason : BlockReason) : RateLimiter F :=
  { r with
    metrics := { r.metrics with
      addressesBlocked := satAdd r.metrics.addressesBlocked 1
      addressesBlockedBy := r.metrics.addressesBlockedBy.record reason } }

def resetWindowState (r : RateLimiter F) (now : Instant) : RateLimiter F :=
  { r with windowStart := now, windowCount := 0, ipState := ∅ }

def rotateWindowIfNeeded (r : RateLimiter F) (now : Instant) : RateLimiter F :=
  if now - r.windowStart < r.window then r else r.resetWindowState now

def pruneExpiredBlocks (r : RateLimiter F) (now : Instant) : RateLimiter F :=
  let blocked := r.blocked.retain fun _ state =>
    match state.blockedUntil with
    | none => true
    | some until_ => decide (now < until_)
  { r with
    blocked
    metrics := { r.metrics with
      addressesUnblocked :=
        satAdd r.metrics.addressesUnblocked (r.blocked.size - blocked.size) } }

def tick (r : RateLimiter F) (now : Instant) : RateLimiter F :=
  let r := (r.rotateWindowIfNeeded now).pruneExpiredBlocks now
  { r with processingBudget := r.processingBudget.tick now }

/-- The common part of the two ways to set a block. -/
def insertBlock (r : RateLimiter F) (ip : IpAddr) (state : BlockState) : Bool × RateLimiter F :=
  if ip ∈ r.exceptions then
    (false, r)
  else
    let newlyBlocked := (r.blocked.lookup ip).isNone
    let r := { r with blocked := r.blocked.insert ip state }
    (newlyBlocked, if newlyBlocked then r.recordNewBlock state.reason else r)

def blockAddressWithReason (r : RateLimiter F) (ip : IpAddr) (reason : BlockReason) :
    Bool × RateLimiter F :=
  r.insertBlock ip { blockedUntil := none, reason }

def blockAddress (r : RateLimiter F) (ip : IpAddr) : Bool × RateLimiter F :=
  r.blockAddressWithReason ip .manual

def blockAddressForWithReason (r : RateLimiter F) (ip : IpAddr) (now : Instant)
    (duration : Duration) (reason : BlockReason) : Bool × RateLimiter F :=
  r.insertBlock ip
    { blockedUntil := some (now + normalizeDuration duration (.fromMillis 1)), reason }

def blockAddressFor (r : RateLimiter F) (ip : IpAddr) (now : Instant) (duration : Duration) :
    Bool × RateLimiter F :=
  r.blockAddressForWithReason ip now duration .manual

def check (r : RateLimiter F) (ip : IpAddr) (now : Instant) : RateLimitDecision × RateLimiter F :=
  let r := r.tick now
  if ip ∈ r.exceptions then
    (.allow, { r with windowCount := r.windowCount + 1 })
  else
    match r.blocked.lookup ip with
    | some state => (.ipBlocked false state.reason, r.recordIpBlockHit state.reason)
    | none =>
      if r.windowCount ≥ r.globalLimit then
        (.globalLimit, { r with
          metrics := { r.metrics with globalLimitHits := satAdd r.metrics.globalLimitHits 1 } })
      else
        let count := (r.ipState.lookup ip).getD 0
        if count ≥ r.perIpLimit then
          let r := { r with ipState := r.ipState.insert ip count }
          let (newlyBlocked, r) :=
            r.blockAddressForWithReason ip now r.blockDuration .rateExceeded
          (.ipBlocked newlyBlocked .rateExceeded, r.recordIpBlockHit .rateExceeded)
        else
          (.allow, { r with
            ipState := r.ipState.insert ip (count + 1)
            windowCount := r.windowCount + 1 })

/-- Lift the block of an address, if it has one. -/
def unblockAddress (r : RateLimiter F) (ip : IpAddr) : Bool × RateLimiter F :=
  if (r.blocked.lookup ip).isSome then
    (true, { r with
      blocked := r.blocked.erase ip
      metrics := { r.metrics with
        addressesUnblocked := satAdd r.metrics.addressesUnblocked 1 } })
  else
    (false, r)

def addException (r : RateLimiter F) (ip : IpAddr) : RateLimiter F :=
  (({ r with exceptions := r.exceptions.insert ip } : RateLimiter F).unblockAddress ip).2

def removeException (r : RateLimiter F) (ip : IpAddr) : RateLimiter F :=
  { r with exceptions := r.exceptions.erase ip }

def isException (r : RateLimiter F) (ip : IpAddr) : Bool := decide (ip ∈ r.exceptions)

def setPerIpLimit (r : RateLimiter F) (perIpLimit : Nat) (now : Instant) : RateLimiter F :=
  ({ r with perIpLimit := max perIpLimit 1 } : RateLimiter F).resetWindowState now

def setGlobalLimit (r : RateLimiter F) (globalLimit : Nat) (now : Instant) : RateLimiter F :=
  ({ r with globalLimit := max globalLimit 1 } : RateLimiter F).resetWindowState now

def setWindow (r : RateLimiter F) (window : Duration) (now : Instant) : RateLimiter F :=
  ({ r with window := normalizeDuration window (.fromMillis 1) } : RateLimiter F).resetWindowState
    now

def setBlockDuration (r : RateLimiter F) (blockDuration : Duration) : RateLimiter F :=
  { r with blockDuration := normalizeDuration blockDuration (.fromMillis 1) }

def updateLimits (r : RateLimiter F) (perIpLimit globalLimit : Nat)
    (window blockDuration : Duration) (now : Instant) : RateLimiter F :=
  ({ r with
    perIpLimit := max perIpLimit 1
    globalLimit := max globalLimit 1
    window := normalizeDuration window (.fromMillis 1)
    blockDuration := normalizeDuration blockDuration (.fromMillis 1) } :
    RateLimiter F).resetWindowState now

def setProcessingBudgetConfig (r : RateLimiter F) (config : ProcessingBudgetConfig)
    (now : Instant) : RateLimiter F :=
  { r with processingBudget := r.processingBudget.setConfig config now }

def consumeProcessingBudget (r : RateLimiter F) (ip : IpAddr) (costUnits : Nat) (now : Instant) :
    ProcessingBudgetDecision × RateLimiter F :=
  let r := r.tick now
  let (decision, processingBudget) := r.processingBudget.consume ip costUnits now
  (decision, { r with processingBudget })

end RateLimiter

end Raknet
