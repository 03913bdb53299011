-- SUMMARY: What an address may spend of the processing budget in any interval, where idle buckets are full before they are dropped.
import Raknet.Lib.Meter
import Raknet.Transport.RateWindows

/-!
# The processing budget of an address

The bucket of an address is an account in the sense of `Machine.Metered`: it is
refilled at a fixed rate up to the burst, and every call that is allowed is paid
from it. The one thing that is no payment and no refill is the eviction of an
idle bucket, after which the address starts again with a full one. That gives
away tokens unless the bucket was full already, and it was if the burst is
refilled within the time to live (`FillsBeforeEviction`).

Token amounts are exact rationals here.
-/

namespace Raknet

namespace ProcessingBudgetConfig

/-- The cost that a call is charged, whatever it asks for. -/
def charge (config : ProcessingBudgetConfig) (costUnits : Nat) : Nat :=
  min (max costUnits 1) (max (min config.perIpBurstUnits config.globalBurstUnits) 1)

/-- The tokens that the bucket of an address gets in a nanosecond. -/
def rate (config : ProcessingBudgetConfig) : ℚ := config.perIpRefillUnitsPerSec / 10 ^ 9

/-- A bucket that nobody uses is full when it is dropped, one nanosecond after its time to live
    at the earliest. -/
def FillsBeforeEviction (config : ProcessingBudgetConfig) : Prop :=
  config.perIpBurstUnits * 10 ^ 9 ≤ config.perIpRefillUnitsPerSec * (config.bucketIdleTtl + 1)

instance (config : ProcessingBudgetConfig) : Decidable config.FillsBeforeEviction := by
  unfold FillsBeforeEviction
  infer_instance

theorem rate_nonneg (config : ProcessingBudgetConfig) : 0 ≤ config.rate :=
  div_nonneg (Nat.cast_nonneg _) (by norm_num)

theorem FillsBeforeEviction.le_rate_mul {config : ProcessingBudgetConfig}
    (h : config.FillsBeforeEviction) {elapsed : ℚ} (hidle : (config.bucketIdleTtl : ℚ) + 1 ≤ elapsed) :
    (config.perIpBurstUnits : ℚ) ≤ config.rate * elapsed := by
  have hfills : (config.perIpBurstUnits : ℚ) * 10 ^ 9
      ≤ config.perIpRefillUnitsPerSec * (config.bucketIdleTtl + 1) := by
    exact_mod_cast h
  calc (config.perIpBurstUnits : ℚ)
      = config.perIpBurstUnits * 10 ^ 9 / 10 ^ 9 := by norm_num
    _ ≤ config.perIpRefillUnitsPerSec * (config.bucketIdleTtl + 1) / 10 ^ 9 :=
      div_le_div_of_nonneg_right hfills (by norm_num)
    _ = config.rate * (config.bucketIdleTtl + 1) := by
      unfold rate
      ring
    _ ≤ config.rate * elapsed := mul_le_mul_of_nonneg_left hidle config.rate_nonneg

end ProcessingBudgetConfig

/-! ## One bucket -/

namespace ProcessingTokenBucket

/-- What the bucket holds after a refill. -/
def level (b : ProcessingTokenBucket ℚ) (rate cap : ℚ) (now : Instant) : ℚ :=
  min cap (b.tokens + rate * (now - b.lastRefill))

/-- The tokens are within the bounds, and the last refill is in the past. -/
structure Sound (b : ProcessingTokenBucket ℚ) (cap : ℚ) (now : Instant) : Prop where
  nonneg : 0 ≤ b.tokens
  le : b.tokens ≤ cap
  past : b.lastRefill ≤ now

variable {b : ProcessingTokenBucket ℚ} {rate cap : ℚ} {now later : Instant}

theorem Sound.mono (h : b.Sound cap now) (hle : now ≤ later) : b.Sound cap later :=
  ⟨h.nonneg, h.le, h.past.trans hle⟩

theorem Sound.gain_nonneg (h : b.Sound cap now) (hrate : 0 ≤ rate) :
    0 ≤ rate * ((now : ℚ) - b.lastRefill) :=
  mul_nonneg hrate (sub_nonneg.mpr (Nat.cast_le.mpr h.past))

theorem Sound.level_nonneg (h : b.Sound cap now) (hrate : 0 ≤ rate) : 0 ≤ b.level rate cap now :=
  le_min (h.nonneg.trans h.le) (add_nonneg h.nonneg (h.gain_nonneg hrate))

theorem level_le : b.level rate cap now ≤ cap := min_le_left _ _

theorem level_later (hrate : 0 ≤ rate) (hle : now ≤ later) :
    b.level rate cap later ≤ b.level rate cap now + rate * (later - now) := by
  have hgain : 0 ≤ rate * ((later : ℚ) - now) :=
    mul_nonneg hrate (sub_nonneg.mpr (Nat.cast_le.mpr hle))
  unfold level
  rw [← min_add_add_right]
  refine min_le_min (le_add_of_nonneg_right hgain) (le_of_eq ?_)
  ring

/-- A refill in exact arithmetic. -/
theorem Sound.refill_eq {refillPerSec burst : Nat} (h : b.Sound burst now) :
    b.refill now refillPerSec burst = ⟨b.level (refillPerSec / 10 ^ 9) burst now, now⟩ := by
  have hgain : 0 ≤ (refillPerSec : ℚ) / 10 ^ 9 * ((now : ℚ) - b.lastRefill) :=
    h.gain_nonneg (by positivity)
  obtain ⟨tokens, lastRefill⟩ := b
  unfold refill level
  split
  · next hle =>
    obtain rfl : lastRefill = now := le_antisymm h.past hle
    rw [sub_self, mul_zero, add_zero, min_eq_right h.le]
  · have hadd : tokens + F64.ofDuration (now - lastRefill) * F64.ofNat refillPerSec
        = tokens + (refillPerSec : ℚ) / 10 ^ 9 * ((now : ℚ) - lastRefill) := by
      have hcast : ((now - lastRefill : Nat) : ℚ) = (now : ℚ) - lastRefill := Nat.cast_sub h.past
      show tokens + ((now - lastRefill : Nat) : ℚ) / 10 ^ 9 * (refillPerSec : ℚ) = _
      rw [hcast]
      ring
    simp only [hadd]
    congr 1
    -- The amount is not negative, so only the upper bound of the clamp matters.
    have hlow : ¬ tokens + (refillPerSec : ℚ) / 10 ^ 9 * ((now : ℚ) - lastRefill) < (0 : Nat) :=
      not_lt.mpr (by rw [Nat.cast_zero]; exact add_nonneg h.nonneg hgain)
    rw [F64.clamp_rat, F64.ofNat_rat, F64.ofNat_rat, if_neg hlow]
    split
    · next hover => exact (min_eq_left hover.le).symm
    · next hunder => exact (min_eq_right (not_lt.mp hunder)).symm

theorem Sound.refill (h : b.Sound cap now) (hrate : 0 ≤ rate) :
    Sound ⟨b.level rate cap now, now⟩ cap now :=
  ⟨h.level_nonneg hrate, level_le, le_refl now⟩

theorem level_at_refill {tokens : ℚ} (hle : tokens ≤ cap) :
    level ⟨tokens, now⟩ rate cap now = tokens := by
  unfold level
  rw [sub_self, mul_zero, add_zero, min_eq_right hle]

/-- A payment in exact arithmetic. -/
theorem consume_eq {cost : Nat} (hcan : b.canConsume cost = true) :
    b.consume cost = ⟨b.tokens - cost, b.lastRefill⟩ := by
  have hcost : (cost : ℚ) ≤ b.tokens := of_decide_eq_true hcan
  unfold consume
  congr 1
  rw [F64.max_rat, F64.ofNat_rat, F64.ofNat_rat, Nat.cast_zero]
  split
  · next hle => exact le_antisymm (sub_nonneg.mpr hcost) hle
  · rfl

end ProcessingTokenBucket

/-! ## The budget -/

namespace ProcessingBudgetState

/-- What the address can spend at a time: a bucket that does not exist is a full one. -/
def levelOf (b : ProcessingBudgetState ℚ) (ip : IpAddr) (now : Instant) : ℚ :=
  match b.perIpBuckets.lookup ip with
  | none => b.config.perIpBurstUnits
  | some bucket => bucket.level b.config.rate b.config.perIpBurstUnits now

/-- Every bucket is sound. -/
def Sound (b : ProcessingBudgetState ℚ) (now : Instant) : Prop :=
  ∀ ip bucket, b.perIpBuckets.lookup ip = some bucket → bucket.Sound b.config.perIpBurstUnits now

variable {b : ProcessingBudgetState ℚ} {now : Instant}

theorem tick_config (b : ProcessingBudgetState ℚ) (now : Instant) :
    (b.tick now).config = b.config := by
  unfold tick
  split <;> rfl

theorem consume_config (b : ProcessingBudgetState ℚ) (ip : IpAddr) (costUnits : Nat)
    (now : Instant) : (b.consume ip costUnits now).2.config = b.config := by
  unfold consume
  split
  · rfl
  dsimp only
  split
  · rfl
  split <;> rfl

theorem Sound.levelOf_nonneg (h : b.Sound now) (ip : IpAddr) : 0 ≤ b.levelOf ip now := by
  unfold levelOf
  cases hbucket : b.perIpBuckets.lookup ip with
  | none => exact Nat.cast_nonneg _
  | some bucket => exact (h ip bucket hbucket).level_nonneg b.config.rate_nonneg

theorem levelOf_le (b : ProcessingBudgetState ℚ) (ip : IpAddr) (now : Instant) :
    b.levelOf ip now ≤ b.config.perIpBurstUnits := by
  unfold levelOf
  split
  · exact le_refl _
  · exact ProcessingTokenBucket.level_le

theorem levelOf_later (b : ProcessingBudgetState ℚ) (ip : IpAddr) {later : Instant}
    (hle : now ≤ later) :
    b.levelOf ip later ≤ b.levelOf ip now + b.config.rate * (later - now) := by
  unfold levelOf
  split
  · exact le_add_of_nonneg_right
      (mul_nonneg b.config.rate_nonneg (sub_nonneg.mpr (Nat.cast_le.mpr hle)))
  · exact ProcessingTokenBucket.level_later b.config.rate_nonneg hle

theorem Sound.tick (h : b.Sound now) : (b.tick now).Sound now := by
  intro ip bucket hbucket
  rw [tick_config]
  refine h ip bucket ?_
  unfold ProcessingBudgetState.tick at hbucket
  split at hbucket
  · cases hbucket
  · exact AssocMap.lookup_retain_some hbucket

/-- The eviction of a full bucket changes nothing. -/
theorem Sound.levelOf_tick (h : b.Sound now) (henabled : b.config.enabled = true)
    (hfills : b.config.FillsBeforeEviction) (ip : IpAddr) :
    (b.tick now).levelOf ip now = b.levelOf ip now := by
  have htick : (b.tick now).perIpBuckets.lookup ip = (b.perIpBuckets.lookup ip).filter
      fun bucket => decide (now - bucket.lastRefill ≤ b.config.bucketIdleTtl) := by
    unfold ProcessingBudgetState.tick
    rw [henabled]
    exact AssocMap.lookup_retain _ _ ip
  unfold levelOf
  rw [htick, tick_config]
  cases hbucket : b.perIpBuckets.lookup ip with
  | none => rfl
  | some bucket =>
    have hsound := h ip bucket hbucket
    rw [Option.filter_some]
    by_cases hidle : now - bucket.lastRefill ≤ b.config.bucketIdleTtl
    · rw [if_pos (decide_eq_true hidle)]
    · rw [if_neg (fun hkept => hidle (of_decide_eq_true hkept))]
      have helapsed : (b.config.bucketIdleTtl : ℚ) + 1 ≤ (now : ℚ) - bucket.lastRefill := by
        rw [← Nat.cast_sub hsound.past]
        exact_mod_cast Nat.lt_of_not_le hidle
      have hfull := hfills.le_rate_mul helapsed
      exact (min_eq_left (hfull.trans (le_add_of_nonneg_left hsound.nonneg))).symm

/-- The bucket that a call works on holds the level of the address. -/
theorem Sound.entry_refill (h : b.Sound now) (ip : IpAddr) :
    ((b.perIpBuckets.lookup ip).getD (.withFullTokens now b.config.perIpBurstUnits)).refill now
        b.config.perIpRefillUnitsPerSec b.config.perIpBurstUnits
      = ⟨b.levelOf ip now, now⟩ := by
  unfold levelOf
  cases hbucket : b.perIpBuckets.lookup ip with
  | none => exact if_pos (le_refl now)
  | some bucket => exact (h ip bucket hbucket).refill_eq

/-- What a call does to the buckets. -/
inductive ConsumeOutcome (b : ProcessingBudgetState ℚ) (ip : IpAddr) (cost : Nat) (now : Instant) :
    ProcessingBudgetDecision → AssocMap IpAddr (ProcessingTokenBucket ℚ) → Prop where
  | globalExhausted : ConsumeOutcome b ip cost now .globalExhausted b.perIpBuckets
  | ipExhausted : ConsumeOutcome b ip cost now .ipExhausted
      (b.perIpBuckets.insert ip ⟨b.levelOf ip now, now⟩)
  | allow (hpaid : cost ≤ b.levelOf ip now) : ConsumeOutcome b ip cost now .allow
      (b.perIpBuckets.insert ip ⟨b.levelOf ip now - cost, now⟩)

theorem Sound.consume_outcome (h : b.Sound now) (henabled : b.config.enabled = true) (ip : IpAddr)
    (costUnits : Nat) :
    ConsumeOutcome b ip (b.config.charge costUnits) now (b.consume ip costUnits now).1
      (b.consume ip costUnits now).2.perIpBuckets := by
  have hentry := h.entry_refill ip
  unfold ProcessingBudgetState.consume
  simp only [henabled, Bool.not_true, Bool.false_eq_true, if_false]
  split
  · exact .globalExhausted
  · rw [hentry]
    split
    · exact .ipExhausted
    · next hcan =>
      have hcan := by simpa only [Bool.not_eq_true', Bool.not_eq_false] using hcan
      rw [ProcessingTokenBucket.consume_eq hcan]
      exact .allow (of_decide_eq_true hcan)

/-- What a call charges the address. -/
def charged (b : ProcessingBudgetState ℚ) (ip ip' : IpAddr) (costUnits : Nat) (now : Instant) :
    Nat :=
  if ip' = ip ∧ (b.consume ip' costUnits now).1 = .allow then b.config.charge costUnits else 0

theorem Sound.consume (h : b.Sound now) (henabled : b.config.enabled = true) (ip : IpAddr)
    (costUnits : Nat) : (b.consume ip costUnits now).2.Sound now := by
  have hnonneg := h.levelOf_nonneg ip
  have hle := b.levelOf_le ip now
  -- The one bucket that changes is refilled now.
  have hinsert : ∀ tokens : ℚ, 0 ≤ tokens → tokens ≤ b.config.perIpBurstUnits →
      ∀ ip' bucket, (b.perIpBuckets.insert ip ⟨tokens, now⟩).lookup ip' = some bucket →
        bucket.Sound b.config.perIpBurstUnits now := by
    intro tokens hlow hhigh ip' bucket hbucket
    by_cases hip : ip' = ip
    · subst hip
      rw [AList.lookup_insert] at hbucket
      cases hbucket
      exact ⟨hlow, hhigh, le_refl now⟩
    · rw [AList.lookup_insert_ne hip] at hbucket
      exact h ip' bucket hbucket
  have houtcome := h.consume_outcome henabled ip costUnits
  intro ip' bucket hbucket
  rw [consume_config]
  generalize (b.consume ip costUnits now).1 = decision at houtcome
  generalize (b.consume ip costUnits now).2.perIpBuckets = buckets at houtcome hbucket
  cases houtcome with
  | globalExhausted => exact h ip' bucket hbucket
  | ipExhausted => exact hinsert _ hnonneg hle ip' bucket hbucket
  | allow hpaid =>
    exact hinsert _ (sub_nonneg.mpr hpaid) ((sub_le_self _ (Nat.cast_nonneg _)).trans hle) ip'
      bucket hbucket

/-- What the address is charged is paid from its level, and no other address pays. -/
theorem Sound.consume_pays (h : b.Sound now) (henabled : b.config.enabled = true) (ip ip' : IpAddr)
    (costUnits : Nat) :
    (b.charged ip ip' costUnits now : ℚ) + (b.consume ip' costUnits now).2.levelOf ip now
      ≤ b.levelOf ip now := by
  have hconfig := b.consume_config ip' costUnits now
  have houtcome := h.consume_outcome henabled ip' costUnits
  have hle := b.levelOf_le ip' now
  unfold charged
  generalize (b.consume ip' costUnits now).1 = decision at houtcome ⊢
  generalize (b.consume ip' costUnits now).2 = b' at houtcome hconfig ⊢
  generalize hbuckets : b'.perIpBuckets = buckets at houtcome
  have hlevel : ∀ {tokens : ℚ}, buckets = b.perIpBuckets.insert ip' ⟨tokens, now⟩ →
      tokens ≤ b.config.perIpBurstUnits →
      b'.levelOf ip now = if ip' = ip then tokens else b.levelOf ip now := by
    intro tokens hinsert htokens
    unfold levelOf
    rw [hbuckets, hinsert, hconfig]
    by_cases hip : ip' = ip
    · rw [if_pos hip, hip, AList.lookup_insert]
      exact ProcessingTokenBucket.level_at_refill htokens
    · rw [if_neg hip, AList.lookup_insert_ne (Ne.symm hip)]
  cases houtcome with
  | globalExhausted =>
    rw [if_neg (fun hallow => by cases hallow.2), Nat.cast_zero, zero_add]
    unfold levelOf
    rw [hbuckets, hconfig]
  | ipExhausted =>
    rw [if_neg (fun hallow => by cases hallow.2), Nat.cast_zero, zero_add, hlevel rfl hle]
    split
    · next heq => rw [heq]
    · exact le_refl _
  | allow hpaid =>
    rw [hlevel rfl ((sub_le_self _ (Nat.cast_nonneg _)).trans hle)]
    by_cases hip : ip' = ip
    · rw [if_pos ⟨hip, rfl⟩, if_pos hip, hip]
      exact le_of_eq (add_sub_cancel _ _)
    · rw [if_neg (fun hallow => hip hallow.1), if_neg hip, Nat.cast_zero, zero_add]

end ProcessingBudgetState

/-! ## The limiter -/

namespace RateLimiter

/-- What an operation charges the address. -/
def charged (r : RateLimiter ℚ) (ip : IpAddr) : RateLimiterOp → Nat
  | .consumeProcessingBudget ip' costUnits now =>
    if ip' = ip ∧ (r.consumeProcessingBudget ip' costUnits now).1 = .allow then
      r.processingBudget.config.charge costUnits
    else 0
  | _ => 0

theorem tick_processingBudget (r : RateLimiter ℚ) (now : Instant) :
    (r.tick now).processingBudget = r.processingBudget.tick now := by
  unfold tick rotateWindowIfNeeded
  split <;> rfl

theorem charged_consume (r : RateLimiter ℚ) (ip ip' : IpAddr) (costUnits : Nat) (now : Instant) :
    r.charged ip (.consumeProcessingBudget ip' costUnits now)
      = (r.processingBudget.tick now).charged ip ip' costUnits now := by
  simp only [charged, ProcessingBudgetState.charged, consumeProcessingBudget,
    tick_processingBudget, ProcessingBudgetState.tick_config]

/-- What an operation does to the budget. -/
theorem step_processingBudget (r : RateLimiter ℚ) (op : RateLimiterOp) :
    (r.step op).1.processingBudget = match op with
      | .check _ now | .tick now => r.processingBudget.tick now
      | .consumeProcessingBudget ip costUnits now =>
        ((r.processingBudget.tick now).consume ip costUnits now).2
      | .setProcessingBudgetConfig config now => r.processingBudget.setConfig config now
      | _ => r.processingBudget := by
  cases op with
  | check ip now =>
    show (r.check ip now).2.processingBudget = _
    have houtcome := r.check_outcome ip now
    generalize r.check ip now = result at houtcome ⊢
    cases houtcome <;> exact r.tick_processingBudget now
  | tick now => exact r.tick_processingBudget now
  | consumeProcessingBudget ip costUnits now =>
    simp only [step, consumeProcessingBudget, tick_processingBudget]
  | addException ip =>
    simp only [step, addException, unblockAddress]
    split <;> rfl
  | unblockAddress ip =>
    simp only [step, unblockAddress]
    split <;> rfl
  | blockAddressWithReason ip reason =>
    simp only [step, blockAddressWithReason, insertBlock]
    split
    · rfl
    · split <;> rfl
  | blockAddressForWithReason ip now duration reason =>
    simp only [step, blockAddressForWithReason, insertBlock]
    split
    · rfl
    · split <;> rfl
  | _ => rfl

/-- The operation leaves the configuration of the budget. -/
def KeepsBudgetConfig : RateLimiterOp → Prop
  | .setProcessingBudgetConfig _ _ => False
  | _ => True

instance : DecidablePred KeepsBudgetConfig := fun op => by
  cases op <;> unfold KeepsBudgetConfig <;> infer_instance

/-- An operation keeps the buckets sound, and what it charges is paid from the level. -/
theorem step_account {r : RateLimiter ℚ} {op : RateLimiterOp} {now : Instant}
    (henabled : r.processingBudget.config.enabled = true)
    (hfills : r.processingBudget.config.FillsBeforeEviction) (hkeeps : KeepsBudgetConfig op)
    (htime : ∀ t ∈ op.time, t = now) (h : r.processingBudget.Sound now) (ip : IpAddr) :
    (r.step op).1.processingBudget.config = r.processingBudget.config ∧
    (r.step op).1.processingBudget.Sound now ∧
    (r.charged ip op : ℚ) + (r.step op).1.processingBudget.levelOf ip now
      ≤ r.processingBudget.levelOf ip now := by
  have hconfig := r.processingBudget.tick_config now
  have hlevel := h.levelOf_tick henabled hfills ip
  have hnothing : ∀ level : ℚ, ((0 : Nat) : ℚ) + level ≤ level := fun level => by
    rw [Nat.cast_zero, zero_add]
  rw [step_processingBudget]
  cases op with
  | check ip' t | tick t =>
    obtain rfl : t = now := htime t rfl
    refine ⟨hconfig, h.tick, ?_⟩
    rw [hlevel]
    exact hnothing _
  | consumeProcessingBudget ip' costUnits t =>
    obtain rfl : t = now := htime t rfl
    have htick := hconfig ▸ henabled
    refine ⟨(ProcessingBudgetState.consume_config _ _ _ _).trans hconfig,
      h.tick.consume htick ip' costUnits, ?_⟩
    rw [charged_consume, ← hlevel]
    exact h.tick.consume_pays htick ip ip' costUnits
  | setProcessingBudgetConfig _ _ => exact hkeeps.elim
  | _ => exact ⟨rfl, h, hnothing _⟩

/-- The bucket of an address is an account that its calls are paid from. -/
theorem budget_metered {config : ProcessingBudgetConfig} (henabled : config.enabled = true)
    (hfills : config.FillsBeforeEviction) (ip : IpAddr) :
    (rateLimiterMachine (F := ℚ)).Metered RateLimiterOp.time (fun r op => r.charged ip op)
      config.rate config.perIpBurstUnits KeepsBudgetConfig
      (fun r now => r.processingBudget.config = config ∧ r.processingBudget.Sound now)
      (fun r now => r.processingBudget.levelOf ip now) where
  rate_nonneg := config.rate_nonneg
  spent_nonneg _ _ := Nat.cast_nonneg _
  level_nonneg h := h.2.levelOf_nonneg ip
  level_le := by
    rintro r now ⟨rfl, -⟩
    exact r.processingBudget.levelOf_le ip now
  inv_later hle h := ⟨h.1, fun ip bucket hbucket => (h.2 ip bucket hbucket).mono hle⟩
  level_later := by
    rintro r now later hle ⟨rfl, -⟩
    exact r.processingBudget.levelOf_later ip hle
  inv_step := by
    rintro r op now hkeeps htime ⟨rfl, hsound⟩
    have hstep := step_account henabled hfills hkeeps htime hsound ip
    exact ⟨hstep.1, hstep.2.1⟩
  pays := by
    rintro r op now hkeeps htime ⟨rfl, hsound⟩
    exact (step_account henabled hfills hkeeps htime hsound ip).2.2

/-- Where an idle bucket is full before it is dropped, the calls allowed for an address within
    any interval cost at most the burst and what is refilled in that time. -/
theorem budget_bounded_of_fills (perIpLimit globalLimit : Nat) (window blockDuration : Duration)
    (start configured : Instant) (config : ProcessingBudgetConfig) (henabled : config.enabled = true)
    (hfills : config.normalize.FillsBeforeEviction) (ops : List RateLimiterOp)
    (hkeeps : ∀ op ∈ ops, KeepsBudgetConfig op)
    (htimes : (ops.filterMap RateLimiterOp.time).Pairwise (· ≤ ·)) (ip : IpAddr)
    (since length : Nat) :
    rateLimiterMachine.spentWithin RateLimiterOp.time (fun r op => r.charged ip op) since
        (since + length) ((new perIpLimit globalLimit window blockDuration
          start).setProcessingBudgetConfig config configured) ops
      ≤ config.normalize.perIpBurstUnits
        + config.normalize.perIpRefillUnitsPerSec * ((length : ℚ) / 10 ^ 9) := by
  have henabled' : config.normalize.enabled = true := by
    unfold ProcessingBudgetConfig.normalize
    split <;> exact henabled
  have hsorted : (0 :: ops.filterMap RateLimiterOp.time).Pairwise (· ≤ ·) :=
    List.pairwise_cons.mpr ⟨fun t _ => Nat.zero_le t, htimes⟩
  refine ((budget_metered henabled' hfills ip).spentWithin_le hkeeps hsorted
    ⟨rfl, fun ip bucket hbucket => by cases hbucket⟩ (Nat.le_add_right since length)).trans
    (le_of_eq ?_)
  unfold ProcessingBudgetConfig.rate
  push_cast
  ring

/-- A burst that takes 100 seconds to refill, and buckets that are dropped after 30. -/
def slowRefill : ProcessingBudgetConfig :=
  { enabled := true
    perIpRefillUnitsPerSec := 1000
    perIpBurstUnits := 100000
    globalRefillUnitsPerSec := 128000000
    globalBurstUnits := 32000000
    bucketIdleTtl := .fromMillis 30000 }

/-- Two calls for 100000 units, 31 seconds apart. -/
def spendTwice : List RateLimiterOp :=
  [.consumeProcessingBudget firstIp 100000 0, .consumeProcessingBudget firstIp 100000 31000000000]

/-- The standard configuration refills a burst in half a second. -/
theorem budget_bounded_of_fills_standard :
    rateLimiterMachine.spentWithin RateLimiterOp.time (fun r op => r.charged firstIp op) 0
        (0 + 31000000000) ((new 120 1000 1000 1000 0).setProcessingBudgetConfig .standard 0)
        spendTwice
      ≤ (ProcessingBudgetConfig.standard.normalize.perIpBurstUnits : ℚ)
        + ProcessingBudgetConfig.standard.normalize.perIpRefillUnitsPerSec
          * (((31000000000 : Nat) : ℚ) / 10 ^ 9) :=
  budget_bounded_of_fills 120 1000 1000 1000 0 0 .standard rfl (by decide) spendTwice (by decide)
    (by decide) firstIp 0 31000000000

/-- An address that has spent its burst waits until its bucket is dropped and spends another one:
    within 31 seconds twice the burst, where 31000 tokens were refilled. -/
theorem budget_exceeded_after_eviction :
    let spent := rateLimiterMachine.spentWithin RateLimiterOp.time
      (fun r op => r.charged firstIp op) 0 31000000000
      ((new 120 1000 1000 1000 0).setProcessingBudgetConfig slowRefill 0) spendTwice
    (∀ op ∈ spendTwice, KeepsBudgetConfig op) ∧
    (spendTwice.filterMap RateLimiterOp.time).Pairwise (· ≤ ·) ∧
    spent = 200000 ∧
    ¬ spent ≤ slowRefill.normalize.perIpBurstUnits
        + slowRefill.normalize.perIpRefillUnitsPerSec * (((31000000000 : Nat) : ℚ) / 10 ^ 9) := by
  decide +kernel

end RateLimiter

end Raknet
