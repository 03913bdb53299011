-- SUMMARY: The books of the rate limiter: blocks put and lifted, hits by reason, and the counts of a window.
import Raknet.Transport.RateWindows

/-!
# The books of the rate limiter

Every block that is put where there was none, and every hit of a block, is told by the
operation that does it. The counters are the lengths of these lists, stopped at the largest
64-bit number; what was put and is not in the table was lifted.
-/

namespace Raknet

def ReasonCounters.get (c : ReasonCounters) : BlockReason → Nat
  | .rateExceeded => c.rateExceeded
  | .manual => c.manual
  | .handshakeHeuristic => c.handshakeHeuristic
  | .cookieMismatchGuard => c.cookieMismatchGuard

/-- The sum of the four counters. -/
def ReasonCounters.total (c : ReasonCounters) : Nat :=
  c.rateExceeded + c.manual + c.handshakeHeuristic + c.cookieMismatchGuard

theorem ReasonCounters.get_record (c : ReasonCounters) (reason reason' : BlockReason) :
    (c.record reason).get reason'
      = if reason = reason' then satAdd (c.get reason') 1 else c.get reason' := by
  cases reason <;> cases reason' <;> rfl

def RateLimitDecision.newBlocks : RateLimitDecision → List BlockReason
  | .ipBlocked true reason => [reason]
  | _ => []

def RateLimitDecision.blockHits : RateLimitDecision → List BlockReason
  | .ipBlocked _ reason => [reason]
  | _ => []

theorem RateLimitDecision.newBlocks_ipBlocked (newlyBlocked : Bool) (reason : BlockReason) :
    (ipBlocked newlyBlocked reason).newBlocks = if newlyBlocked then [reason] else [] := by
  cases newlyBlocked <;> rfl

variable {F : Type} [F64 F]

namespace RateLimiter

/-- The reason of a block that an operation puts where there was none, as its result tells. -/
def newBlocks (r : RateLimiter F) : RateLimiterOp → List BlockReason
  | .check ip now => (r.check ip now).1.newBlocks
  | .blockAddressWithReason ip reason =>
    if (r.blockAddressWithReason ip reason).1 then [reason] else []
  | .blockAddressForWithReason ip now duration reason =>
    if (r.blockAddressForWithReason ip now duration reason).1 then [reason] else []
  | _ => []

/-- The reason of the block that a packet meets. -/
def blockHits (r : RateLimiter F) : RateLimiterOp → List BlockReason
  | .check ip now => (r.check ip now).1.blockHits
  | _ => []

/-- The counters after new blocks and hits. -/
structure Books (r : RateLimiter F) (blocks met : List BlockReason) : Prop where
  blocked : r.metrics.addressesBlocked = satAdd 0 blocks.length
  blockedBy : ∀ reason, r.metrics.addressesBlockedBy.get reason = satAdd 0 (blocks.count reason)
  hits : r.metrics.ipBlockHits = satAdd 0 met.length
  hitsBy : ∀ reason, r.metrics.ipBlockHitsBy.get reason = satAdd 0 (met.count reason)
  lifted : ∃ lifted, r.metrics.addressesUnblocked = satAdd 0 lifted ∧
    blocks.length = lifted + r.blocked.size

theorem satAdd_twice (a b : Nat) : satAdd (satAdd 0 a) b = satAdd 0 (a + b) := by
  unfold satAdd
  omega

/-- One more of a reason in a counter for each reason. -/
theorem get_record_count {c : ReasonCounters} {reasons : List BlockReason}
    (h : ∀ reason, c.get reason = satAdd 0 (reasons.count reason)) (reason reason' : BlockReason) :
    (c.record reason).get reason' = satAdd 0 ((reasons ++ [reason]).count reason') := by
  rw [ReasonCounters.get_record, h, List.count_append, List.count_singleton]
  split
  · next heq => rw [satAdd_twice, if_pos (beq_iff_eq.mpr heq)]
  · next hne => rw [if_neg (fun heq => hne (beq_iff_eq.mp heq)), Nat.add_zero]

section

omit [F64 F]

namespace Books

variable {r : RateLimiter F} {blocks met : List BlockReason}

theorem hit (h : r.Books blocks met) (reason : BlockReason) :
    (r.recordIpBlockHit reason).Books blocks (met ++ [reason]) where
  blocked := h.blocked
  blockedBy := h.blockedBy
  hits := by
    rw [List.length_append, ← satAdd_twice, ← h.hits]
    rfl
  hitsBy := get_record_count h.hitsBy reason
  lifted := h.lifted

/-- The table loses entries, and as many are counted as lifted. -/
theorem lift (h : r.Books blocks met) {blocked : AssocMap IpAddr BlockState} {lifted : Nat}
    (hsize : blocked.size + lifted = r.blocked.size) :
    ({ r with
      blocked
      metrics := { r.metrics with
        addressesUnblocked := satAdd r.metrics.addressesUnblocked lifted } } :
      RateLimiter F).Books blocks met where
  blocked := h.blocked
  blockedBy := h.blockedBy
  hits := h.hits
  hitsBy := h.hitsBy
  lifted := by
    obtain ⟨before, hbefore, hlength⟩ := h.lifted
    refine ⟨before + lifted, ?_, ?_⟩
    · rw [← satAdd_twice, ← hbefore]
    · dsimp only
      omega

/-- The window and the budget are not in the books. -/
theorem aside (h : r.Books blocks met) {r' : RateLimiter F} (hmetrics : r'.metrics = r.metrics)
    (hblocked : r'.blocked = r.blocked) : r'.Books blocks met where
  blocked := hmetrics ▸ h.blocked
  blockedBy := hmetrics ▸ h.blockedBy
  hits := hmetrics ▸ h.hits
  hitsBy := hmetrics ▸ h.hitsBy
  lifted := by
    rw [hmetrics, hblocked]
    exact h.lifted

theorem tick (h : r.Books blocks met) (now : Instant) : (r.tick now).Books blocks met := by
  have hrotate : (r.rotateWindowIfNeeded now).Books blocks met := by
    unfold rotateWindowIfNeeded
    split
    · exact h
    · exact h.aside rfl rfl
  have hprune : ((r.rotateWindowIfNeeded now).pruneExpiredBlocks now).Books blocks met := by
    unfold pruneExpiredBlocks
    exact hrotate.lift (Nat.add_sub_of_le List.filter_sublist.length_le)
  exact hprune.aside rfl rfl

/-- A block where there was none is told. -/
theorem insertBlock (h : r.Books blocks met) (ip : IpAddr) (state : BlockState) :
    (r.insertBlock ip state).2.Books
      (blocks ++ if (r.insertBlock ip state).1 then [state.reason] else []) met := by
  have hsize := AssocMap.size_insert r.blocked ip state
  obtain ⟨lifted, hlifted, hlength⟩ := h.lifted
  unfold RateLimiter.insertBlock
  split
  · rw [if_neg Bool.false_ne_true, List.append_nil]
    exact h
  · cases hnew : (r.blocked.lookup ip).isNone with
    | false =>
      rw [hnew, if_neg Bool.false_ne_true] at hsize
      simp only [Bool.false_eq_true, if_false, List.append_nil]
      exact ⟨h.blocked, h.blockedBy, h.hits, h.hitsBy, lifted, hlifted, by rw [hlength, hsize]⟩
    | true =>
      rw [hnew, if_pos rfl] at hsize
      simp only [if_true]
      refine ⟨?_, get_record_count h.blockedBy state.reason, h.hits, h.hitsBy, lifted, hlifted, ?_⟩
      · rw [List.length_append, ← satAdd_twice, ← h.blocked]
        rfl
      · rw [List.length_append, hlength, List.length_singleton, Nat.add_assoc, ← hsize]
        rfl

theorem unblockAddress (h : r.Books blocks met) (ip : IpAddr) :
    (r.unblockAddress ip).2.Books blocks met := by
  unfold RateLimiter.unblockAddress
  split
  · next hsome =>
    obtain ⟨state, hstate⟩ := Option.isSome_iff_exists.mp hsome
    exact h.lift (AssocMap.size_erase hstate)
  · exact h

/-- A packet after the clock, and what its judgement tells of new blocks and hits. -/
theorem check (h : r.Books blocks met) (ip : IpAddr) (now : Instant) :
    (r.check ip now).2.Books (blocks ++ (r.check ip now).1.newBlocks)
      (met ++ (r.check ip now).1.blockHits) := by
  have htick := h.tick now
  unfold RateLimiter.check
  generalize r.tick now = r at htick ⊢
  dsimp only
  split
  · simp only [RateLimitDecision.newBlocks, RateLimitDecision.blockHits, List.append_nil]
    exact htick.aside rfl rfl
  split
  · next state _ =>
    simp only [RateLimitDecision.newBlocks, RateLimitDecision.blockHits, List.append_nil]
    exact htick.hit state.reason
  split
  · simp only [RateLimitDecision.newBlocks, RateLimitDecision.blockHits, List.append_nil]
    exact ⟨htick.blocked, htick.blockedBy, htick.hits, htick.hitsBy, htick.lifted⟩
  split
  · -- The packet over the limit is the first to meet the block that it causes.
    have hcounted : ({ r with
        ipState := r.ipState.insert ip ((r.ipState.lookup ip).getD 0) } :
        RateLimiter F).Books blocks met := htick.aside rfl rfl
    have hblock := (hcounted.insertBlock ip ⟨some (now + normalizeDuration r.blockDuration
      (.fromMillis 1)), .rateExceeded⟩).hit .rateExceeded
    rw [RateLimitDecision.newBlocks_ipBlocked]
    exact hblock
  · simp only [RateLimitDecision.newBlocks, RateLimitDecision.blockHits, List.append_nil]
    exact htick.aside rfl rfl

end Books

end

/-- The books after one operation. -/
theorem step_books {r : RateLimiter F} {blocks met : List BlockReason} (h : r.Books blocks met)
    (op : RateLimiterOp) :
    (r.step op).1.Books (blocks ++ r.newBlocks op) (met ++ r.blockHits op) := by
  -- An operation that tells nothing appends nothing.
  have hquiet : ∀ {r' : RateLimiter F}, r'.Books blocks met → r'.Books (blocks ++ []) (met ++ []) :=
    fun h => by rwa [List.append_nil, List.append_nil]
  cases op with
  | check ip now => exact h.check ip now
  | blockAddressWithReason ip reason =>
    exact (List.append_nil met).symm ▸ h.insertBlock ip ⟨none, reason⟩
  | blockAddressForWithReason ip now duration reason =>
    exact (List.append_nil met).symm ▸ h.insertBlock ip
      ⟨some (now + normalizeDuration duration (.fromMillis 1)), reason⟩
  | tick now => exact hquiet (h.tick now)
  | consumeProcessingBudget ip costUnits now => exact hquiet ((h.tick now).aside rfl rfl)
  | addException ip =>
    have hadded : ({ r with exceptions := r.exceptions.insert ip } : RateLimiter F).Books
      blocks met := h.aside rfl rfl
    exact hquiet (hadded.unblockAddress ip)
  | unblockAddress ip => exact hquiet (h.unblockAddress ip)
  | _ => exact hquiet (h.aside rfl rfl)

/-! ## The counts of the window -/

/-- The packets counted for the addresses are counted for the window. -/
def WindowCovers (r : RateLimiter F) : Prop := r.ipState.sumBy id ≤ r.windowCount

omit [F64 F] in
theorem tick_windowCovers {r : RateLimiter F} (h : r.WindowCovers) (now : Instant) :
    (r.tick now).WindowCovers := by
  unfold WindowCovers tick rotateWindowIfNeeded
  split
  · exact h
  · exact Nat.le_refl 0

theorem step_windowCovers {r : RateLimiter F} (h : r.WindowCovers) (op : RateLimiterOp) :
    (r.step op).1.WindowCovers := by
  cases op with
  | check ip now =>
    have htick : (r.tick now).ipState.sumBy id ≤ (r.tick now).windowCount :=
      tick_windowCovers h now
    have hinsert : ∀ n, AssocMap.sumBy id ((r.tick now).ipState.insert ip n)
        + (r.tick now).countOf ip = (r.tick now).ipState.sumBy id + n := fun n => by
      simpa only [Option.map_id_fun, id_eq, countOf] using
        AssocMap.sumBy_insert id (r.tick now).ipState ip n
    show (r.check ip now).2.WindowCovers
    unfold WindowCovers
    generalize hresult : r.check ip now = result
    have houtcome := r.check_outcome ip now
    rw [hresult] at houtcome
    cases houtcome with
    | exception _ => exact Nat.le_succ_of_le htick
    | blocked _ _ _ => exact htick
    | globalLimit _ _ _ => exact htick
    | exceeded _ _ _ =>
      have := hinsert ((r.tick now).countOf ip)
      dsimp only
      omega
    | counted _ _ _ _ =>
      have := hinsert ((r.tick now).countOf ip + 1)
      dsimp only
      omega
  | tick now => exact tick_windowCovers h now
  | consumeProcessingBudget _ _ now => exact tick_windowCovers h now
  | addException ip =>
    simp only [step, addException, unblockAddress]
    split <;> exact h
  | unblockAddress ip =>
    simp only [step, unblockAddress]
    split <;> exact h
  | blockAddressWithReason ip reason =>
    simp only [step, blockAddressWithReason, insertBlock]
    split
    · exact h
    · split <;> exact h
  | blockAddressForWithReason ip now duration reason =>
    simp only [step, blockAddressForWithReason, insertBlock]
    split
    · exact h
    · split <;> exact h
  | removeException _ => exact h
  | setBlockDuration _ => exact h
  | setProcessingBudgetConfig _ _ => exact h
  | _ => exact Nat.le_refl 0

/-! ## Runs -/

/-- The books of a run tell its new blocks and its hits. -/
theorem run_books {r : RateLimiter F} {blocks met : List BlockReason} (h : r.Books blocks met)
    (ops : List RateLimiterOp) :
    (rateLimiterMachine.exec r ops).Books (blocks ++ rateLimiterMachine.gather newBlocks r ops)
      (met ++ rateLimiterMachine.gather blockHits r ops) := by
  induction ops generalizing r blocks met with
  | nil =>
    rw [Machine.gather, Machine.gather, List.append_nil, List.append_nil]
    exact h
  | cons op ops ih =>
    rw [Machine.gather, Machine.gather, ← List.append_assoc, ← List.append_assoc]
    exact ih (step_books h op)


/-- Every reason is one of the four. -/
theorem length_eq_counts (reasons : List BlockReason) :
    reasons.count .rateExceeded + reasons.count .manual + reasons.count .handshakeHeuristic
      + reasons.count .cookieMismatchGuard = reasons.length := by
  induction reasons with
  | nil => rfl
  | cons reason reasons ih =>
    cases reason <;> simp only [List.count_cons, List.length_cons, beq_iff_eq, reduceCtorEq,
      if_true, if_false, Nat.add_zero] <;> omega

/-- A counter for each reason that did not saturate adds up to all of them. -/
theorem total_of_counts {c : ReasonCounters} {reasons : List BlockReason}
    (h : ∀ reason, c.get reason = satAdd 0 (reasons.count reason))
    (hsmall : reasons.length ≤ 2 ^ 64 - 1) : c.total = reasons.length := by
  have hcount : ∀ reason, c.get reason = reasons.count reason := fun reason => by
    have := List.count_le_length (a := reason) (l := reasons)
    rw [h, satAdd]
    omega
  have htotal : c.total = c.get .rateExceeded + c.get .manual + c.get .handshakeHeuristic
      + c.get .cookieMismatchGuard := rfl
  rw [htotal, hcount, hcount, hcount, hcount, length_eq_counts reasons]

/-- As long as no counter saturates, every new block is still there or counted as lifted, the
    counters for the reasons add up, no exception is blocked, and the window counts what its
    addresses do. -/
theorem limiter_books_balance (perIpLimit globalLimit : Nat) (window blockDuration : Duration)
    (now : Instant) (ops : List RateLimiterOp)
    (hblocks : (rateLimiterMachine.gather newBlocks
      (new perIpLimit globalLimit window blockDuration now : RateLimiter F) ops).length ≤ 2 ^ 64 - 1)
    (hhits : (rateLimiterMachine.gather blockHits
      (new perIpLimit globalLimit window blockDuration now : RateLimiter F) ops).length
        ≤ 2 ^ 64 - 1) :
    let r := rateLimiterMachine.exec
      (new perIpLimit globalLimit window blockDuration now : RateLimiter F) ops
    r.metrics.addressesBlocked = r.metrics.addressesUnblocked + r.blocked.size ∧
    r.metrics.addressesBlocked = r.metrics.addressesBlockedBy.total ∧
    r.metrics.ipBlockHits = r.metrics.ipBlockHitsBy.total ∧
    (∀ ip, (r.blocked.lookup ip).isSome → ip ∉ r.exceptions) ∧
    r.ipState.sumBy id ≤ r.windowCount := by
  intro r
  have hempty : (new perIpLimit globalLimit window blockDuration now : RateLimiter F).Books [] [] :=
    ⟨rfl, fun reason => by cases reason <;> rfl, rfl, fun reason => by cases reason <;> rfl,
      0, rfl, rfl⟩
  have hbooks := run_books hempty ops
  rw [List.nil_append, List.nil_append] at hbooks
  have hopen : r.ExceptionsOpen :=
    rateLimiterMachine.run_invariant (P := fun _ _ r => r.ExceptionsOpen)
      (fun ip b h => by cases h) (fun _ _ r op h => step_exceptionsOpen h op) ops
  have hwindow : r.WindowCovers :=
    rateLimiterMachine.run_invariant (P := fun _ _ r => r.WindowCovers)
      (show (new perIpLimit globalLimit window blockDuration now : RateLimiter F).WindowCovers from
        Nat.le_refl 0) (fun _ _ r op h => step_windowCovers h op) ops
  obtain ⟨lifted, hlifted, hlength⟩ := hbooks.lifted
  have hexact : ∀ n, n ≤ 2 ^ 64 - 1 → satAdd 0 n = n := fun n hn => by
    unfold satAdd
    omega
  have hblocked := (hbooks.blocked).trans (hexact _ hblocks)
  refine ⟨?_, ?_, ?_, ?_, hwindow⟩
  · rw [hblocked, hlifted, hexact lifted (by omega), hlength]
  · rw [hblocked, total_of_counts hbooks.blockedBy hblocks]
  · rw [hbooks.hits, hexact _ hhits, total_of_counts hbooks.hitsBy hhits]
  · intro ip hsome
    obtain ⟨b, hb⟩ := Option.isSome_iff_exists.mp hsome
    exact hopen ip b hb

/-- An address is blocked by hand and again for a while, and meets its block; another one runs
    over the limit, and both blocks end: one by the clock and one as an exception. -/
def twoBlocks : List RateLimiterOp :=
  [.blockAddressWithReason firstIp .manual,
    .blockAddressForWithReason firstIp 1 3 .handshakeHeuristic, .check firstIp 2,
    .check secondIp 2, .check secondIp 3, .tick 4, .addException secondIp]

theorem limiter_books_balance_twoBlocks :
    (rateLimiterMachine.gather newBlocks (new 1 8 10 5 0 : RateLimiter ℚ) twoBlocks).length = 2 ∧
    (rateLimiterMachine.exec (new 1 8 10 5 0 : RateLimiter ℚ) twoBlocks).metrics.addressesBlocked
      = (rateLimiterMachine.exec (new 1 8 10 5 0 : RateLimiter ℚ)
          twoBlocks).metrics.addressesUnblocked
        + (rateLimiterMachine.exec (new 1 8 10 5 0 : RateLimiter ℚ) twoBlocks).blocked.size :=
  ⟨by decide +kernel, (limiter_books_balance (F := ℚ) 1 8 10 5 0 twoBlocks (by decide +kernel)
    (by decide +kernel)).1⟩

end RateLimiter

end Raknet
