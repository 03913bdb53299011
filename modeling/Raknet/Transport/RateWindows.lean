-- SUMMARY: What the rate limiter guarantees: bounded grants within a window, and blocks that hold to their end.
import Raknet.Lib.Machine
import Raknet.Transport.RateLimiter

/-!
# Windows and blocks

The counters of the limiter only grow between two resets, so they bound the
packets that were let through: each grant counts one for its address and one for
the total, and is given only below both limits. Packets of an exception are let
through uncounted for their address and are no grants here. A block stays in the
table until it is lifted by hand, replaced, or its time is over.
-/

namespace Raknet

/-- The operations of a rate limiter. -/
inductive RateLimiterOp where
  | check (ip : IpAddr) (now : Instant)
  | tick (now : Instant)
  | consumeProcessingBudget (ip : IpAddr) (costUnits : Nat) (now : Instant)
  | addException (ip : IpAddr)
  | removeException (ip : IpAddr)
  | blockAddressWithReason (ip : IpAddr) (reason : BlockReason)
  | blockAddressForWithReason (ip : IpAddr) (now : Instant) (duration : Duration)
      (reason : BlockReason)
  | unblockAddress (ip : IpAddr)
  | setPerIpLimit (perIpLimit : Nat) (now : Instant)
  | setGlobalLimit (globalLimit : Nat) (now : Instant)
  | setWindow (window : Duration) (now : Instant)
  | setBlockDuration (blockDuration : Duration)
  | updateLimits (perIpLimit globalLimit : Nat) (window blockDuration : Duration) (now : Instant)
  | setProcessingBudgetConfig (config : ProcessingBudgetConfig) (now : Instant)
deriving DecidableEq, Repr

/-- The block has an end and it is reached. -/
def BlockState.over (b : BlockState) (now : Instant) : Bool :=
  match b.blockedUntil with
  | none => false
  | some deadline => decide (deadline ≤ now)

namespace RateLimiterOp

/-- The time of an operation that looks at the clock of the packets. -/
def time : RateLimiterOp → Option Instant
  | .check _ now | .tick now | .consumeProcessingBudget _ _ now => some now
  | _ => none

/-- The operation lifts the block of the address by hand. -/
def lifts (ip : IpAddr) : RateLimiterOp → Bool
  | .unblockAddress ip' | .addException ip' => decide (ip' = ip)
  | _ => false

end RateLimiterOp

variable {F : Type} [F64 F]

namespace RateLimiter

def step (r : RateLimiter F) : RateLimiterOp → RateLimiter F × Option RateLimitDecision
  | .check ip now =>
    let (decision, r) := r.check ip now
    (r, some decision)
  | .tick now => (r.tick now, none)
  | .consumeProcessingBudget ip costUnits now =>
    ((r.consumeProcessingBudget ip costUnits now).2, none)
  | .addException ip => (r.addException ip, none)
  | .removeException ip => (r.removeException ip, none)
  | .blockAddressWithReason ip reason => ((r.blockAddressWithReason ip reason).2, none)
  | .blockAddressForWithReason ip now duration reason =>
    ((r.blockAddressForWithReason ip now duration reason).2, none)
  | .unblockAddress ip => ((r.unblockAddress ip).2, none)
  | .setPerIpLimit perIpLimit now => (r.setPerIpLimit perIpLimit now, none)
  | .setGlobalLimit globalLimit now => (r.setGlobalLimit globalLimit now, none)
  | .setWindow window now => (r.setWindow window now, none)
  | .setBlockDuration blockDuration => (r.setBlockDuration blockDuration, none)
  | .updateLimits perIpLimit globalLimit window blockDuration now =>
    (r.updateLimits perIpLimit globalLimit window blockDuration now, none)
  | .setProcessingBudgetConfig config now => (r.setProcessingBudgetConfig config now, none)

/-- The packets of an address counted in the current window. -/
def countOf (r : RateLimiter F) (ip : IpAddr) : Nat := (r.ipState.lookup ip).getD 0

/-- The window is over at this time. -/
def rotates (r : RateLimiter F) (now : Instant) : Bool := !decide (now - r.windowStart < r.window)

/-- The operation starts a new window: the old one is over, or a limit changes. -/
def resets (r : RateLimiter F) : RateLimiterOp → Bool
  | .check _ now | .tick now | .consumeProcessingBudget _ _ now => r.rotates now
  | .setPerIpLimit _ _ | .setGlobalLimit _ _ | .setWindow _ _ | .updateLimits _ _ _ _ _ => true
  | _ => false

/-- The address that an operation lets through without being an exception. -/
def granted (r : RateLimiter F) : RateLimiterOp → List IpAddr
  | .check ip now =>
    if (r.check ip now).1 = .allow ∧ r.isException ip = false then [ip] else []
  | _ => []

/-- The addresses that a run lets through, in order. -/
def grants (r : RateLimiter F) : List RateLimiterOp → List IpAddr
  | [] => []
  | op :: ops => r.granted op ++ grants (r.step op).1 ops

/-- The block that an operation sets for the address. -/
def setsBlock (r : RateLimiter F) (ip : IpAddr) : RateLimiterOp → Option BlockState
  | .blockAddressWithReason ip' reason =>
    if ip' = ip ∧ r.isException ip = false then some ⟨none, reason⟩ else none
  | .blockAddressForWithReason ip' now duration reason =>
    if ip' = ip ∧ r.isException ip = false then
      some ⟨some (now + normalizeDuration duration (.fromMillis 1)), reason⟩
    else none
  | .check ip' now =>
    if ip' = ip ∧ (r.check ip now).1 = .ipBlocked true .rateExceeded then
      some ⟨some (now + normalizeDuration r.blockDuration (.fromMillis 1)), .rateExceeded⟩
    else none
  | _ => none

/-! ## One step -/

section

omit [F64 F]

/-- What the clock does to the counters and the limits. -/
theorem tick_window (r : RateLimiter F) (now : Instant) :
    (r.tick now).windowCount = (if r.rotates now then 0 else r.windowCount) ∧
    (∀ ip, (r.tick now).countOf ip = if r.rotates now then 0 else r.countOf ip) ∧
    (r.tick now).perIpLimit = r.perIpLimit ∧ (r.tick now).globalLimit = r.globalLimit := by
  unfold tick rotateWindowIfNeeded rotates
  by_cases h : now - r.windowStart < r.window
  · simp [h, pruneExpiredBlocks, countOf]
  · simp [h, pruneExpiredBlocks, countOf, resetWindowState]

@[simp] theorem tick_blockDuration (r : RateLimiter F) (now : Instant) :
    (r.tick now).blockDuration = r.blockDuration := by
  simp only [tick, rotateWindowIfNeeded, pruneExpiredBlocks]
  split <;> rfl

@[simp] theorem tick_exceptions (r : RateLimiter F) (now : Instant) :
    (r.tick now).exceptions = r.exceptions := by
  simp only [tick, rotateWindowIfNeeded, pruneExpiredBlocks]
  split <;> rfl

/-- The clock removes the blocks that are over. -/
theorem tick_blocked (r : RateLimiter F) (now : Instant) (ip : IpAddr) :
    (r.tick now).blocked.lookup ip = (r.blocked.lookup ip).filter fun b => !b.over now := by
  have hblocked : (r.rotateWindowIfNeeded now).blocked = r.blocked := by
    simp only [rotateWindowIfNeeded]
    split <;> rfl
  simp only [tick, pruneExpiredBlocks, hblocked, AssocMap.lookup_retain]
  congr 1
  funext b
  cases hb : b.blockedUntil with
  | none => simp [BlockState.over, hb]
  | some deadline => grind [BlockState.over]

end

/-- The five ways a packet is judged, after the clock. -/
inductive CheckOutcome (r : RateLimiter F) (ip : IpAddr) (now : Instant) :
    RateLimitDecision × RateLimiter F → Prop where
  | exception (hexc : ip ∈ r.exceptions) :
      CheckOutcome r ip now (.allow, { r with windowCount := r.windowCount + 1 })
  | blocked (b : BlockState) (hexc : ip ∉ r.exceptions) (hb : r.blocked.lookup ip = some b) :
      CheckOutcome r ip now (.ipBlocked false b.reason, r.recordIpBlockHit b.reason)
  | globalLimit (hexc : ip ∉ r.exceptions) (hb : r.blocked.lookup ip = none)
      (metrics : RateLimiterMetrics) :
      CheckOutcome r ip now (.globalLimit, { r with metrics })
  | exceeded (hexc : ip ∉ r.exceptions) (hb : r.blocked.lookup ip = none)
      (metrics : RateLimiterMetrics) :
      CheckOutcome r ip now (.ipBlocked true .rateExceeded, { r with
        ipState := r.ipState.insert ip (r.countOf ip)
        blocked := r.blocked.insert ip
          ⟨some (now + normalizeDuration r.blockDuration (.fromMillis 1)), .rateExceeded⟩
        metrics })
  | counted (hexc : ip ∉ r.exceptions) (hb : r.blocked.lookup ip = none)
      (hglobal : r.windowCount < r.globalLimit) (hip : r.countOf ip < r.perIpLimit) :
      CheckOutcome r ip now (.allow, { r with
        ipState := r.ipState.insert ip (r.countOf ip + 1)
        windowCount := r.windowCount + 1 })

omit [F64 F] in
theorem check_outcome (r : RateLimiter F) (ip : IpAddr) (now : Instant) :
    CheckOutcome (r.tick now) ip now (r.check ip now) := by
  unfold check
  generalize r.tick now = r
  dsimp only
  split
  · next hexc => exact .exception hexc
  · next hexc =>
    cases hb : r.blocked.lookup ip with
    | some b => exact .blocked b hexc hb
    | none =>
      dsimp only
      split
      · exact .globalLimit hexc hb _
      · next hglobal =>
        split
        · simp only [blockAddressForWithReason, insertBlock, if_neg hexc, hb, Option.isNone_none,
            if_true]
          exact .exceeded hexc hb _
        · next hip => exact .counted hexc hb (by omega) (by unfold countOf; omega)

/-- What an operation does to the counters: it starts a new window or not, and
    then counts what it lets through. -/
structure WindowStep (r : RateLimiter F) (reset : Bool) (granted : List IpAddr)
    (r' : RateLimiter F) : Prop where
  perIpLimit : reset = false → r'.perIpLimit = r.perIpLimit
  globalLimit : reset = false → r'.globalLimit = r.globalLimit
  counts : ∀ ip, r'.countOf ip = (if reset then 0 else r.countOf ip) + granted.count ip
  total : (if reset then 0 else r.windowCount) + granted.length ≤ r'.windowCount
  ipBelow : ∀ ip ∈ granted, r'.countOf ip ≤ r'.perIpLimit
  globalBelow : granted ≠ [] →
    (if reset then 0 else r.windowCount) + granted.length ≤ r'.globalLimit

section

omit [F64 F]

/-- An operation that leaves the limits and the counts of the addresses. -/
theorem WindowStep.of_same {r r' : RateLimiter F} (hper : r'.perIpLimit = r.perIpLimit)
    (hglobal : r'.globalLimit = r.globalLimit) (hcount : ∀ ip, r'.countOf ip = r.countOf ip)
    (htotal : r.windowCount ≤ r'.windowCount) : WindowStep r false [] r' where
  perIpLimit _ := hper
  globalLimit _ := hglobal
  counts ip := by simp [hcount]
  total := by simpa using htotal
  ipBelow := by simp
  globalBelow := by simp

/-- An operation that empties the counters. -/
theorem WindowStep.of_cleared {r r' : RateLimiter F} (hcount : r'.ipState = ∅)
    (htotal : r'.windowCount = 0) : WindowStep r true [] r' where
  perIpLimit h := by cases h
  globalLimit h := by cases h
  counts ip := by simp [countOf, hcount]
  total := by simp [htotal]
  ipBelow := by simp
  globalBelow := by simp

/-- The counters are cleared first or not, and then one step is taken. -/
theorem WindowStep.andThen {r t r' : RateLimiter F} {reset : Bool} {granted : List IpAddr}
    (hfirst : WindowStep r reset [] t) (hthen : WindowStep t false granted r') :
    WindowStep r reset granted r' where
  perIpLimit h := (hthen.perIpLimit rfl).trans (hfirst.perIpLimit h)
  globalLimit h := (hthen.globalLimit rfl).trans (hfirst.globalLimit h)
  counts ip := by
    have hcount := hthen.counts ip
    have hclear := hfirst.counts ip
    simp only [Bool.false_eq_true, if_false, List.count_nil, Nat.add_zero] at hcount hclear
    rw [hcount, hclear]
  total := by
    have htotal := hthen.total
    have hclear := hfirst.total
    simp only [Bool.false_eq_true, if_false, List.length_nil, Nat.add_zero] at htotal hclear
    omega
  ipBelow := hthen.ipBelow
  globalBelow hne := by
    have hbelow := hthen.globalBelow hne
    have hclear := hfirst.total
    simp only [Bool.false_eq_true, if_false, List.length_nil, Nat.add_zero] at hbelow hclear
    omega

theorem tick_windowStep (r : RateLimiter F) (now : Instant) :
    WindowStep r (r.rotates now) [] (r.tick now) := by
  obtain ⟨htotal, hcount, hper, hglobal⟩ := r.tick_window now
  refine ⟨fun _ => hper, fun _ => hglobal, fun ip => ?_, ?_, by simp, by simp⟩
  · rw [hcount ip]; rfl
  · rw [htotal]; rfl

theorem CheckOutcome.windowStep {r : RateLimiter F} {ip : IpAddr} {now : Instant}
    {result : RateLimitDecision × RateLimiter F} (h : CheckOutcome r ip now result) :
    WindowStep r false (if result.1 = .allow ∧ ip ∉ r.exceptions then [ip] else []) result.2 := by
  cases h with
  | exception hexc =>
    rw [if_neg fun h => h.2 hexc]
    exact .of_same rfl rfl (fun _ => rfl) (Nat.le_succ _)
  | blocked b hexc hb => exact .of_same rfl rfl (fun _ => rfl) le_rfl
  | globalLimit hexc hb metrics => exact .of_same rfl rfl (fun _ => rfl) le_rfl
  | exceeded hexc hb metrics =>
    refine .of_same rfl rfl (fun ip' => ?_) le_rfl
    simp only [countOf, AssocMap.lookup_insert_eq]
    split
    · next heq => rw [heq]; rfl
    · rfl
  | counted hexc hb hbelow hip =>
    rw [if_pos ⟨rfl, hexc⟩]
    refine ⟨fun _ => rfl, fun _ => rfl, fun ip' => ?_, le_rfl, ?_, fun _ => hbelow⟩
    · simp only [countOf, AssocMap.lookup_insert_eq, List.count_singleton]
      by_cases heq : ip' = ip
      · subst heq; simp
      · simp [heq, Ne.symm heq]
    · intro ip' hmem
      obtain rfl := List.mem_singleton.mp hmem
      simp only [countOf, AssocMap.lookup_insert_eq, if_true, Option.getD_some]
      exact hip

theorem check_windowStep (r : RateLimiter F) (ip : IpAddr) (now : Instant) :
    WindowStep r (r.rotates now) (r.granted (.check ip now)) (r.check ip now).2 := by
  have hthen := (r.check_outcome ip now).windowStep
  rw [tick_exceptions] at hthen
  simpa only [granted, isException, decide_eq_false_iff_not] using
    (r.tick_windowStep now).andThen hthen

theorem insertBlock_windowStep (r : RateLimiter F) (ip : IpAddr) (state : BlockState) :
    WindowStep r false [] (r.insertBlock ip state).2 := by
  unfold insertBlock
  split
  · exact .of_same rfl rfl (fun _ => rfl) le_rfl
  · dsimp only
    split <;> exact .of_same rfl rfl (fun _ => rfl) le_rfl

theorem unblockAddress_windowStep (r : RateLimiter F) (ip : IpAddr) :
    WindowStep r false [] (r.unblockAddress ip).2 := by
  unfold unblockAddress
  split <;> exact .of_same rfl rfl (fun _ => rfl) le_rfl

end

theorem step_window (r : RateLimiter F) (op : RateLimiterOp) :
    WindowStep r (r.resets op) (r.granted op) (r.step op).1 := by
  cases op with
  | check ip now => exact r.check_windowStep ip now
  | tick now => exact r.tick_windowStep now
  | consumeProcessingBudget ip costUnits now =>
    exact (r.tick_windowStep now).andThen (.of_same rfl rfl (fun _ => rfl) le_rfl)
  | addException ip =>
    have hsame : WindowStep r false [] { r with exceptions := r.exceptions.insert ip } :=
      .of_same rfl rfl (fun _ => rfl) le_rfl
    exact hsame.andThen (unblockAddress_windowStep _ ip)
  | removeException ip => exact .of_same rfl rfl (fun _ => rfl) le_rfl
  | blockAddressWithReason ip reason => exact r.insertBlock_windowStep ip _
  | blockAddressForWithReason ip now duration reason => exact r.insertBlock_windowStep ip _
  | unblockAddress ip => exact r.unblockAddress_windowStep ip
  | setPerIpLimit perIpLimit now => exact .of_cleared rfl rfl
  | setGlobalLimit globalLimit now => exact .of_cleared rfl rfl
  | setWindow window now => exact .of_cleared rfl rfl
  | setBlockDuration blockDuration => exact .of_same rfl rfl (fun _ => rfl) le_rfl
  | updateLimits perIpLimit globalLimit window blockDuration now => exact .of_cleared rfl rfl
  | setProcessingBudgetConfig config now => exact .of_same rfl rfl (fun _ => rfl) le_rfl

section

omit [F64 F]

theorem insertBlock_blocked (r : RateLimiter F) (ip ip' : IpAddr) (state : BlockState) :
    (r.insertBlock ip' state).2.blocked.lookup ip =
      if ip' = ip ∧ r.isException ip = false then some state else r.blocked.lookup ip := by
  unfold insertBlock isException
  split
  · next hexc =>
    rw [if_neg]
    rintro ⟨rfl, h⟩
    simp [hexc] at h
  · next hexc =>
    have hinsert : ∀ b : Bool, (if b = true then
        ({ r with blocked := r.blocked.insert ip' state } : RateLimiter F).recordNewBlock state.reason
        else { r with blocked := r.blocked.insert ip' state }).blocked =
        r.blocked.insert ip' state := by
      intro b
      cases b <;> rfl
    simp only [hinsert, AssocMap.lookup_insert_eq]
    by_cases heq : ip = ip'
    · subst heq; simp [hexc]
    · simp [heq, Ne.symm heq]

theorem unblockAddress_blocked (r : RateLimiter F) (ip ip' : IpAddr) :
    (r.unblockAddress ip').2.blocked.lookup ip =
      if ip' = ip then none else r.blocked.lookup ip := by
  unfold unblockAddress
  split
  · simp only [AssocMap.lookup_erase_eq, eq_comm]
  · next hnone =>
    split
    · next heq => subst heq; simpa using hnone
    · rfl

@[simp] theorem unblockAddress_exceptions (r : RateLimiter F) (ip : IpAddr) :
    (r.unblockAddress ip).2.exceptions = r.exceptions := by
  unfold unblockAddress
  split <;> rfl

theorem check_blocked (r : RateLimiter F) (ip ip' : IpAddr) (now : Instant) :
    (r.check ip' now).2.blocked.lookup ip =
      match r.setsBlock ip (.check ip' now) with
      | some b => some b
      | none => (r.blocked.lookup ip).filter fun b => !b.over now := by
  have houtcome := r.check_outcome ip' now
  have hclock := r.tick_blocked now ip
  simp only [setsBlock]
  by_cases heq : ip' = ip
  · subst heq
    generalize r.check ip' now = result at houtcome ⊢
    cases houtcome <;> simp [← hclock, recordIpBlockHit]
  · simp only [heq, false_and, if_false]
    generalize r.check ip' now = result at houtcome ⊢
    cases houtcome <;> simp [← hclock, recordIpBlockHit, Ne.symm heq]

end

/-- The block of an address after an operation: lifted, set, or kept while it
    is not over. -/
theorem step_blocked (r : RateLimiter F) (op : RateLimiterOp) (ip : IpAddr) :
    (r.step op).1.blocked.lookup ip =
      if op.lifts ip then none
      else match r.setsBlock ip op, op.time with
        | some b, _ => some b
        | none, some now => (r.blocked.lookup ip).filter fun b => !b.over now
        | none, none => r.blocked.lookup ip := by
  cases op with
  | check ip' now =>
    refine (r.check_blocked ip ip' now).trans ?_
    cases r.setsBlock ip (.check ip' now) <;> rfl
  | tick now => exact r.tick_blocked now ip
  | consumeProcessingBudget ip' costUnits now => exact r.tick_blocked now ip
  | addException ip' =>
    simp [step, addException, unblockAddress_blocked, RateLimiterOp.lifts, RateLimiterOp.time,
      setsBlock]
  | blockAddressWithReason ip' reason =>
    simp only [step, blockAddressWithReason, insertBlock_blocked, RateLimiterOp.lifts, setsBlock]
    split <;> rfl
  | blockAddressForWithReason ip' now duration reason =>
    simp only [step, blockAddressForWithReason, insertBlock_blocked, RateLimiterOp.lifts, setsBlock]
    split <;> rfl
  | unblockAddress ip' =>
    simp [step, unblockAddress_blocked, RateLimiterOp.lifts, RateLimiterOp.time, setsBlock]
  | _ => rfl

theorem blocked_of_setsBlock {r : RateLimiter F} {o : RateLimiterOp} {ip : IpAddr}
    {b : BlockState} (h : r.setsBlock ip o = some b) :
    (r.step o).1.blocked.lookup ip = some b := by
  rw [step_blocked, h, if_neg]
  cases o with
  | unblockAddress ip' => cases h
  | addException ip' => cases h
  | _ => exact Bool.false_ne_true

/-- A new exception is lifted at once. -/
theorem step_exceptions {r : RateLimiter F} {op : RateLimiterOp} {ip : IpAddr}
    (h : ip ∈ (r.step op).1.exceptions) : op.lifts ip = true ∨ ip ∈ r.exceptions := by
  cases op with
  | check ip' now =>
    have houtcome := r.check_outcome ip' now
    have hclock := r.tick_exceptions now
    simp only [step] at h
    generalize r.check ip' now = result at houtcome h
    cases houtcome <;> exact .inr (hclock ▸ h)
  | tick now => exact .inr (r.tick_exceptions now ▸ h)
  | consumeProcessingBudget ip' costUnits now => exact .inr (r.tick_exceptions now ▸ h)
  | addException ip' =>
    simp only [step, addException, unblockAddress_exceptions, List.mem_insert_iff] at h
    rcases h with rfl | h
    · exact .inl (decide_eq_true rfl)
    · exact .inr h
  | removeException ip' => exact .inr (List.mem_of_mem_erase h)
  | blockAddressWithReason ip' reason =>
    refine .inr ?_
    simp only [step, blockAddressWithReason, insertBlock] at h
    grind [recordNewBlock]
  | blockAddressForWithReason ip' now duration reason =>
    refine .inr ?_
    simp only [step, blockAddressForWithReason, insertBlock] at h
    grind [recordNewBlock]
  | unblockAddress ip' => exact .inr (r.unblockAddress_exceptions ip' ▸ h)
  | _ => exact .inr h

omit [F64 F] in
/-- Only what is no exception is blocked. -/
theorem not_exception_of_setsBlock {r : RateLimiter F} {op : RateLimiterOp} {ip : IpAddr}
    {b : BlockState} (h : r.setsBlock ip op = some b) : ip ∉ r.exceptions := by
  cases op with
  | check ip' now =>
    simp only [setsBlock, Option.ite_none_right_eq_some] at h
    obtain ⟨⟨rfl, hresult⟩, -⟩ := h
    have houtcome := r.check_outcome ip' now
    rw [← r.tick_exceptions now]
    generalize r.check ip' now = result at houtcome hresult
    cases houtcome with
    | exceeded hexc => exact hexc
    | _ => cases hresult
  | blockAddressWithReason ip' reason =>
    simp only [setsBlock, Option.ite_none_right_eq_some, isException,
      decide_eq_false_iff_not] at h
    exact h.1.2
  | blockAddressForWithReason ip' now duration reason =>
    simp only [setsBlock, Option.ite_none_right_eq_some, isException,
      decide_eq_false_iff_not] at h
    exact h.1.2
  | _ => cases h

omit [F64 F] in
/-- A block of an address keeps its packets out while it is not over. -/
theorem check_of_blocked {r : RateLimiter F} {ip : IpAddr} {now : Instant} {b : BlockState}
    (hexc : ip ∉ r.exceptions) (hb : r.blocked.lookup ip = some b) (hover : b.over now = false) :
    (r.check ip now).1 = .ipBlocked false b.reason := by
  have hkept : (r.tick now).blocked.lookup ip = some b := by
    simp [tick_blocked, hb, hover]
  rw [← tick_exceptions r now] at hexc
  have houtcome := r.check_outcome ip now
  generalize r.check ip now = result at houtcome ⊢
  cases houtcome with
  | exception h => exact absurd h hexc
  | blocked b' _ hb' =>
    obtain rfl := Option.some.inj (hkept.symm.trans hb')
    rfl
  | globalLimit _ hb' => rw [hkept] at hb'; cases hb'
  | exceeded _ hb' => rw [hkept] at hb'; cases hb'
  | counted _ hb' => rw [hkept] at hb'; cases hb'

/-- No exception is blocked. -/
def ExceptionsOpen (r : RateLimiter F) : Prop :=
  ∀ ip b, r.blocked.lookup ip = some b → ip ∉ r.exceptions

theorem step_exceptionsOpen {r : RateLimiter F} (h : r.ExceptionsOpen) (op : RateLimiterOp) :
    (r.step op).1.ExceptionsOpen := by
  intro ip b hb hexc
  rw [step_blocked] at hb
  split at hb
  · cases hb
  · next hlift =>
    have hexc : ip ∈ r.exceptions := (step_exceptions hexc).resolve_left (by simpa using hlift)
    split at hb
    · next hsets => exact not_exception_of_setsBlock hsets hexc
    · exact h ip b (Option.filter_eq_some_iff.mp hb).1 hexc
    · exact h ip b hb hexc

end RateLimiter

/-! ## Runs -/

def rateLimiterMachine : Machine (RateLimiter F) RateLimiterOp (Option RateLimitDecision) :=
  ⟨RateLimiter.step⟩

namespace RateLimiter

@[simp] theorem rateLimiterMachine_step (r : RateLimiter F) (op : RateLimiterOp) :
    rateLimiterMachine.step r op = r.step op := rfl

/-- Between two resets the counters are the grants so far on top of what was
    counted before. -/
theorem grants_within_window {r : RateLimiter F} {ops : List RateLimiterOp}
    (h : rateLimiterMachine.AllSteps (fun r op => r.resets op = false) r ops) :
    (∀ ip, (rateLimiterMachine.exec r ops).countOf ip = r.countOf ip + (r.grants ops).count ip) ∧
    (rateLimiterMachine.exec r ops).perIpLimit = r.perIpLimit ∧
    (r.grants ops ≠ [] → r.windowCount + (r.grants ops).length ≤ r.globalLimit) := by
  induction ops generalizing r with
  | nil => simp [grants]
  | cons op ops ih =>
    obtain ⟨hreset, hrest⟩ := h
    obtain ⟨hcounts, hper, hglobal⟩ := ih hrest
    have hstep := r.step_window op
    rw [hreset] at hstep
    have hbase : ∀ n : Nat, (if false = true then 0 else n) = n := fun _ => rfl
    refine ⟨fun ip => ?_, hper.trans (hstep.perIpLimit rfl), ?_⟩
    · have hcount := hstep.counts ip
      rw [hbase] at hcount
      rw [Machine.exec_cons, hcounts ip, rateLimiterMachine_step, hcount, grants,
        List.count_append, Nat.add_assoc]
    · intro hne
      have htotal := hstep.total
      have hfirst := hstep.globalBelow
      rw [hbase] at htotal hfirst
      simp only [rateLimiterMachine_step, hstep.globalLimit rfl] at hglobal hfirst
      simp only [grants, List.length_append] at hne ⊢
      by_cases hlast : (r.step op).1.grants ops = []
      · rw [hlast, List.append_nil] at hne
        rw [hlast]
        exact hfirst hne
      · have hlast := hglobal hlast
        omega

/-- No address is counted beyond the limit. -/
def CountsBelow (r : RateLimiter F) : Prop := ∀ ip, r.countOf ip ≤ r.perIpLimit

theorem step_countsBelow {r : RateLimiter F} (h : r.CountsBelow) (op : RateLimiterOp) :
    (r.step op).1.CountsBelow := by
  intro ip
  have hstep := r.step_window op
  by_cases hmem : ip ∈ r.granted op
  · exact hstep.ipBelow ip hmem
  · have hcount := hstep.counts ip
    rw [List.count_eq_zero_of_not_mem hmem] at hcount
    split at hcount
    · omega
    · next hreset =>
      rw [hcount, hstep.perIpLimit (by simpa using hreset)]
      exact h ip

/-- A block stays in the table along a run that neither lifts nor replaces it
    and ends before it is over. -/
theorem blocked_along_run {r : RateLimiter F} {ip : IpAddr} {b : BlockState}
    {ops : List RateLimiterOp} (hb : r.blocked.lookup ip = some b)
    (hkeep : rateLimiterMachine.AllSteps
      (fun r op => op.lifts ip = false ∧ r.setsBlock ip op = none) r ops)
    (hover : ∀ op ∈ ops, ∀ now, op.time = some now → b.over now = false) :
    (rateLimiterMachine.exec r ops).blocked.lookup ip = some b := by
  induction ops generalizing r with
  | nil => exact hb
  | cons op ops ih =>
    obtain ⟨⟨hlift, hsets⟩, hrest⟩ := hkeep
    refine ih ?_ hrest fun op' hmem => hover op' (List.mem_cons_of_mem op hmem)
    rw [rateLimiterMachine_step, step_blocked, hlift, hsets]
    cases htime : op.time with
    | none => exact hb
    | some now =>
      have hnow := hover op List.mem_cons_self now htime
      simp [hb, hnow]

theorem over_mono {b : BlockState} {now later : Instant} (hle : now ≤ later)
    (hover : b.over later = false) : b.over now = false := by
  unfold BlockState.over at hover ⊢
  cases hb : b.blockedUntil with
  | none => rfl
  | some deadline =>
    simp only [hb, decide_eq_false_iff_not] at hover ⊢
    exact fun h => hover (Nat.le_trans h hle)

theorem deadline_of_over {b : BlockState} {now : Instant} (h : b.over now = true) :
    ∃ deadline, b.blockedUntil = some deadline ∧ deadline ≤ now := by
  unfold BlockState.over at h
  split at h
  · cases h
  · next deadline hb => exact ⟨deadline, hb, of_decide_eq_true h⟩

/-- The limiter keeps what it promises, along every sequence of operations whose
    clock does not run backwards.

    From one operation on (one that starts a window, say) up to the next reset,
    each address is let through at most as often as the limit for an address
    allows, and all together at most as often as the total limit does; packets
    of exceptions aside. And after an operation has set a block of an address
    that is neither lifted by hand nor replaced, a packet of the address is let
    through only at or after the end of the block. -/
theorem limits_and_blocks_hold (perIpLimit globalLimit : Nat) (window blockDuration : Duration)
    (start : Instant) (ops : List RateLimiterOp)
    (htimes : (ops.filterMap RateLimiterOp.time).Pairwise (· ≤ ·)) :
    let init : RateLimiter F := .new perIpLimit globalLimit window blockDuration start
    let after := rateLimiterMachine.exec init
    (∀ past first seg future, ops = past ++ first :: seg ++ future →
      rateLimiterMachine.AllSteps (fun r op => r.resets op = false) (after (past ++ [first])) seg →
      (∀ ip, ((after past).grants (first :: seg)).count ip ≤ (after (past ++ [first])).perIpLimit) ∧
      ((after past).grants (first :: seg)).length ≤ (after (past ++ [first])).globalLimit) ∧
    (∀ past op seg ip now future b, ops = past ++ op :: seg ++ .check ip now :: future →
      (after past).setsBlock ip op = some b →
      rateLimiterMachine.AllSteps (fun r op => op.lifts ip = false ∧ r.setsBlock ip op = none)
        (after (past ++ [op])) seg →
      ((after (past ++ op :: seg)).check ip now).1 = .allow →
      ∃ deadline, b.blockedUntil = some deadline ∧ deadline ≤ now) := by
  intro init after
  have hbelow : ∀ ops, (after ops).CountsBelow :=
    rateLimiterMachine.run_invariant (P := fun _ _ r => r.CountsBelow)
      (fun ip => by simp [init, new, countOf]) fun _ _ r op h => step_countsBelow h op
  have hopen : ∀ ops, (after ops).ExceptionsOpen :=
    rateLimiterMachine.run_invariant (P := fun _ _ r => r.ExceptionsOpen)
      (fun ip b h => by simp [init, new] at h) fun _ _ r op h => step_exceptionsOpen h op
  constructor
  · rintro past first seg future - hseg
    have hafter : after (past ++ [first]) = ((after past).step first).1 := by simp [after]
    have hfirst := (after past).step_window first
    rw [hafter] at hseg ⊢
    obtain ⟨hcounts, hper, hglobal⟩ := grants_within_window hseg
    constructor
    · intro ip
      have hend := hbelow (past ++ first :: seg) ip
      rw [show after (past ++ first :: seg) = rateLimiterMachine.exec ((after past).step first).1 seg
        by simp [after], hcounts ip, hper] at hend
      have hcount := hfirst.counts ip
      simp only [grants, List.count_append]
      omega
    · have htotal := hfirst.total
      have hone := hfirst.globalBelow
      simp only [grants, List.length_append]
      by_cases hseg : ((after past).step first).1.grants seg = []
      · by_cases hnone : (after past).granted first = []
        · simp [hseg, hnone]
        · have hone := hone hnone
          rw [hseg, List.length_nil]
          omega
      · have hseg := hglobal hseg
        omega
  · rintro past op seg ip now future b rfl hsets hkeep hallow
    have hafter : after (past ++ [op]) = ((after past).step op).1 := by simp [after]
    rw [hafter] at hkeep
    refine deadline_of_over (Bool.eq_true_of_not_eq_false fun hover => ?_)
    -- were the block not over now, it would not be over at any time before
    have hset := blocked_of_setsBlock hsets
    have hbefore : ∀ op ∈ seg, ∀ time, op.time = some time → b.over time = false := by
      intro op hmem time htime
      rw [List.filterMap_append, List.pairwise_append] at htimes
      refine over_mono (htimes.2.2 time ?_ now (by simp [RateLimiterOp.time])) hover
      exact List.mem_filterMap.mpr ⟨op, by simp [hmem], htime⟩
    have hb := blocked_along_run hset hkeep hbefore
    rw [show after (past ++ op :: seg) = rateLimiterMachine.exec ((after past).step op).1 seg
      by simp [after]] at hallow
    have hexc : ip ∉ (rateLimiterMachine.exec ((after past).step op).1 seg).exceptions := by
      have := hopen (past ++ op :: seg) ip b
      simp only [after, Machine.exec_append, Machine.exec_cons, rateLimiterMachine_step] at this
      exact this hb
    rw [check_of_blocked hexc hb hover] at hallow
    cases hallow

def firstIp : IpAddr := .v4 ⟨[10, 0, 0, 1], rfl⟩

def secondIp : IpAddr := .v4 ⟨[10, 0, 0, 2], rfl⟩

/-- Two addresses with one packet each in ten nanoseconds: the first sends too
    much at time 2, is kept out for five, and is let through in the next window. -/
theorem limits_and_blocks_hold_two_addresses :
    let init : RateLimiter ℚ := .new 1 8 10 5 0
    let seg : List RateLimiterOp := [.check secondIp 1, .check firstIp 2, .check firstIp 6]
    let ops : List RateLimiterOp := .check firstIp 0 :: seg ++ [.check firstIp 12]
    let block : BlockState := ⟨some 7, .rateExceeded⟩
    (ops.filterMap RateLimiterOp.time).Pairwise (· ≤ ·) ∧
    (init.grants (.check firstIp 0 :: seg)).count firstIp ≤ 1 ∧
    (rateLimiterMachine.exec init [.check firstIp 0, .check secondIp 1]).setsBlock firstIp
      (.check firstIp 2) = some block ∧
    ∃ deadline, block.blockedUntil = some deadline ∧ deadline ≤ 12 := by
  intro init seg ops block
  have htimes : (ops.filterMap RateLimiterOp.time).Pairwise (· ≤ ·) := by decide
  obtain ⟨hwindow, hblock⟩ := limits_and_blocks_hold (F := ℚ) 1 8 10 5 0 ops htimes
  have hcount := (hwindow [] (.check firstIp 0) seg [.check firstIp 12] rfl (by decide +kernel)).1
    firstIp
  have hset : (rateLimiterMachine.exec init [.check firstIp 0, .check secondIp 1]).setsBlock
      firstIp (.check firstIp 2) = some block := by decide +kernel
  refine ⟨htimes, hcount, hset, ?_⟩
  exact hblock [.check firstIp 0, .check secondIp 1] (.check firstIp 2) [.check firstIp 6]
    firstIp 12 [] block rfl hset (by decide +kernel) (by decide +kernel)

end RateLimiter

end Raknet
