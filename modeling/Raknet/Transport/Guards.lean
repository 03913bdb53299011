-- SUMMARY: The tables of the heuristics and of the cookie guard as tallies of a log.
import Raknet.Lib.Tally
import Raknet.Transport.Ledger

/-!
# Automatic blocks

The server blocks an address for the violations that its handshakes run up, and
for a streak of wrong cookies. Beside the server we keep the log of what the guards
were told. Each entry of the two tables is a tally of events of its address in
the log, and a block of either kind is earned by what that address did within one
window (`Guarded`).
-/

namespace Raknet

/-! ## What is recorded -/

/-- What the guards are told of an address. -/
inductive GuardEvent where
  | violation (ip : IpAddr) (kind : HandshakeViolation) (time : Instant)
  | mismatch (ip : IpAddr) (time : Instant)
  | verified (ip : IpAddr) (time : Instant)
deriving DecidableEq, Repr

namespace GuardEvent

def time : GuardEvent → Instant
  | .violation _ _ time | .mismatch _ time | .verified _ time => time

/-- The score of a violation of the address. -/
def violationScore (h : HandshakeHeuristicsConfig) (ip : IpAddr) : GuardEvent → Nat
  | .violation ip' kind _ => if ip' = ip then kind.score h else 0
  | _ => 0

/-- One for a wrong cookie of the address. -/
def mismatchCount (ip : IpAddr) : GuardEvent → Nat
  | .mismatch ip' _ => if ip' = ip then 1 else 0
  | _ => 0

/-- A second request of the address that passed its checks. -/
def verifies (ip : IpAddr) : GuardEvent → Bool
  | .verified ip' _ => decide (ip' = ip)
  | _ => false

end GuardEvent

/-- The violations of the address within some window have the score of the threshold. -/
def HandshakeHeuristicsConfig.Earned (h : HandshakeHeuristicsConfig) (log : List GuardEvent)
    (ip : IpAddr) : Prop :=
  Reached (GuardEvent.violationScore h ip) GuardEvent.time h.eventWindow h.scoreThreshold log

/-- The wrong cookies of the address within some window are as many as the threshold, with no
    second request that passed in between. -/
def CookieMismatchGuardConfig.Earned (g : CookieMismatchGuardConfig) (log : List GuardEvent)
    (ip : IpAddr) : Prop :=
  ∃ before streak after, log = before ++ streak ++ after ∧
    (∀ e ∈ streak, e.verifies ip = false) ∧
    Reached (GuardEvent.mismatchCount ip) GuardEvent.time g.eventWindow g.mismatchThreshold streak

theorem HandshakeHeuristicsConfig.Earned.append {h : HandshakeHeuristicsConfig}
    {log : List GuardEvent} {ip : IpAddr} (hearned : h.Earned log ip) (more : List GuardEvent) :
    h.Earned (log ++ more) ip :=
  Reached.append hearned more

theorem CookieMismatchGuardConfig.Earned.append {g : CookieMismatchGuardConfig}
    {log : List GuardEvent} {ip : IpAddr} (hearned : g.Earned log ip) (more : List GuardEvent) :
    g.Earned (log ++ more) ip := by
  obtain ⟨before, streak, after, rfl, hstreak, hreached⟩ := hearned
  exact ⟨before, streak, after ++ more, List.append_assoc _ _ _, hstreak, hreached⟩

variable {F H : Type}

/-- A block for this reason is earned. -/
def TransportConfig.Earned (config : TransportConfig F) (log : List GuardEvent) (ip : IpAddr) :
    BlockReason → Prop
  | .handshakeHeuristic => config.handshakeHeuristics.Earned log ip
  | .cookieMismatchGuard => config.cookieMismatchGuard.Earned log ip
  | .rateExceeded | .manual => True

theorem TransportConfig.Earned.append {config : TransportConfig F} {log : List GuardEvent}
    {ip : IpAddr} {reason : BlockReason} (h : config.Earned log ip reason)
    (more : List GuardEvent) : config.Earned (log ++ more) ip reason := by
  cases reason with
  | handshakeHeuristic => exact HandshakeHeuristicsConfig.Earned.append h more
  | cookieMismatchGuard => exact CookieMismatchGuardConfig.Earned.append h more
  | rateExceeded | manual => trivial

def HandshakeHeuristicState.tally (entry : HandshakeHeuristicState) : Tally :=
  ⟨entry.windowStartedAt, entry.score⟩

def CookieMismatchGuardState.tally (state : CookieMismatchGuardState) : Tally :=
  ⟨state.windowStartedAt, state.mismatches⟩

/-- The entry counts wrong cookies of the address since it last passed. -/
def CookieMismatchGuardState.Streak (state : CookieMismatchGuardState) (ip : IpAddr)
    (clock : Instant) (log : List GuardEvent) : Prop :=
  ∃ before streak, log = before ++ streak ∧ (∀ e ∈ streak, e.verifies ip = false) ∧
    state.tally.Backed (GuardEvent.mismatchCount ip) GuardEvent.time clock streak

namespace CookieMismatchGuardState.Streak

variable {state : CookieMismatchGuardState} {ip : IpAddr} {clock now : Instant}
  {log : List GuardEvent}

theorem fresh (ip : IpAddr) (now : Instant) (log : List GuardEvent) :
    Streak ⟨now, 0⟩ ip now log :=
  ⟨log, [], (List.append_nil log).symm, List.forall_mem_nil _, Tally.backed_fresh now []⟩

theorem later (h : state.Streak ip clock log) (hle : clock ≤ now) : state.Streak ip now log := by
  obtain ⟨before, streak, hlog, hnone, hbacked⟩ := h
  exact ⟨before, streak, hlog, hnone, hbacked.later hle⟩

theorem event (h : state.Streak ip clock log) {e : GuardEvent} (he : e.verifies ip = false) :
    state.Streak ip clock (log ++ [e]) := by
  obtain ⟨before, streak, rfl, hnone, hbacked⟩ := h
  refine ⟨before, streak ++ [e], List.append_assoc _ _ _, ?_, hbacked.append [e]⟩
  intro e' he'
  rcases List.mem_append.mp he' with he' | he'
  · exact hnone e' he'
  · rw [List.mem_singleton.mp he']
    exact he

end CookieMismatchGuardState.Streak

/-! ## Blocks of the limiter -/

/-- The operation asks for a block of the address for this reason. -/
def RateLimiterOp.asks (ip : IpAddr) (reason : BlockReason) : RateLimiterOp → Prop
  | .blockAddressWithReason ip' reason' | .blockAddressForWithReason ip' _ _ reason' =>
    ip' = ip ∧ reason' = reason
  | _ => False

/-- What holds of the old blocks, of rates that are exceeded and of the block that is asked for
    holds of the blocks. -/
theorem RateLimiter.step_blocks [F64 F] {r : RateLimiter F} {P : IpAddr → BlockReason → Prop}
    (hold : ∀ ip b, r.blocked.lookup ip = some b → P ip b.reason) (hrate : ∀ ip, P ip .rateExceeded)
    {op : RateLimiterOp} (hasked : ∀ ip reason, op.asks ip reason → P ip reason) :
    ∀ ip b, (r.step op).1.blocked.lookup ip = some b → P ip b.reason := by
  intro ip b hlookup
  rw [step_blocked] at hlookup
  split at hlookup
  · cases hlookup
  cases hsets : r.setsBlock ip op with
  | none =>
    rw [hsets] at hlookup
    cases htime : op.time with
    | none =>
      rw [htime] at hlookup
      exact hold ip b hlookup
    | some now =>
      rw [htime] at hlookup
      exact hold ip b (Option.filter_eq_some_iff.mp hlookup).1
  | some b' =>
    rw [hsets] at hlookup
    obtain rfl := Option.some.inj hlookup
    cases op with
    | check ip' now =>
      simp only [setsBlock, Option.ite_none_right_eq_some, Option.some.injEq] at hsets
      obtain ⟨-, rfl⟩ := hsets
      exact hrate ip
    | blockAddressWithReason ip' reason =>
      simp only [setsBlock, Option.ite_none_right_eq_some, Option.some.injEq] at hsets
      obtain ⟨⟨rfl, -⟩, rfl⟩ := hsets
      exact hasked ip' reason ⟨rfl, rfl⟩
    | blockAddressForWithReason ip' now duration reason =>
      simp only [setsBlock, Option.ite_none_right_eq_some, Option.some.injEq] at hsets
      obtain ⟨⟨rfl, -⟩, rfl⟩ := hsets
      exact hasked ip' reason ⟨rfl, rfl⟩
    | _ => cases hsets

namespace TransportServer

/-! ## The invariant -/

/-- Both tables are tallies of the log, and the blocks are earned. -/
structure Guarded (log : List GuardEvent) (clock : Instant) (s : TransportServer F H) : Prop where
  scores : ∀ ip entry, s.handshakeHeuristics.lookup ip = some entry →
    entry.tally.Backed (GuardEvent.violationScore s.config.handshakeHeuristics ip)
      GuardEvent.time clock log
  streaks : ∀ ip state, s.cookieMismatchGuardStates.lookup ip = some state →
    state.Streak ip clock log
  blocks : ∀ ip b, s.rateLimiter.blocked.lookup ip = some b → s.config.Earned log ip b.reason

namespace Guarded

variable {log : List GuardEvent} {clock now : Instant} {s s' : TransportServer F H}

theorem later (h : Guarded log clock s) (hle : clock ≤ now) : Guarded log now s where
  scores ip entry hlookup := (h.scores ip entry hlookup).later hle
  streaks ip state hlookup := (h.streaks ip state hlookup).later hle
  blocks := h.blocks

/-- An event that ends no streak. -/
theorem event (h : Guarded log clock s) {e : GuardEvent} (he : ∀ ip, e.verifies ip = false) :
    Guarded (log ++ [e]) clock s where
  scores ip entry hlookup := (h.scores ip entry hlookup).append [e]
  streaks ip state hlookup := (h.streaks ip state hlookup).event (he ip)
  blocks ip b hlookup := (h.blocks ip b hlookup).append [e]

/-- Nothing is told to the guards. -/
theorem quiet (h : Guarded log clock s) : Guarded (log ++ []) clock s := by
  rw [List.append_nil]
  exact h

theorem limited [F64 F] (h : Guarded log clock s) {o : RateLimiterOp}
    (hasked : ∀ ip reason, o.asks ip reason → s.config.Earned log ip reason) :
    Guarded log clock { s with rateLimiter := (s.rateLimiter.step o).1 } where
  scores := h.scores
  streaks := h.streaks
  blocks := RateLimiter.step_blocks h.blocks (fun _ => trivial) hasked

/-- The calls that leave the tables alone and block nobody. -/
theorem aside [F64 F] (h : Guarded log clock s) (hwrites : Writes False True (fun _ => False) s s') :
    Guarded log clock s' := by
  have hsame := hwrites.guards.resolve_left id
  refine ⟨?_, ?_, ?_⟩
  · rw [hsame.heuristics, hsame.config]
    exact h.scores
  · rw [hsame.cookieGuard]
    exact h.streaks
  · rw [hsame.config]
    refine hwrites.limiter.invariant
      (P := fun r => ∀ ip b, r.blocked.lookup ip = some b → s.config.Earned log ip b.reason)
      (fun r op hop hr => RateLimiter.step_blocks hr (fun _ => trivial) fun ip reason hasks => ?_)
      h.blocks
    cases op with
    | blockAddressWithReason | blockAddressForWithReason => exact hop.elim
    | _ => exact hasks.elim

theorem counted (h : Guarded log clock s) (f : TransportCounters → TransportCounters) :
    Guarded log clock (s.count f) :=
  ⟨h.scores, h.streaks, h.blocks⟩

/-- A block that is earned. -/
theorem blockAndCount [F64 F] (h : Guarded log clock s) {ip : IpAddr} {reason : BlockReason}
    (hearned : s.config.Earned log ip reason) (now : Instant) (duration : Duration)
    (f : TransportCounters → TransportCounters) :
    Guarded log clock (s.blockAndCount ip now duration reason f).2 := by
  have hblocked := h.limited (o := .blockAddressForWithReason ip now duration reason) (by
    rintro ip' reason' ⟨rfl, rfl⟩
    exact hearned)
  unfold TransportServer.blockAndCount
  dsimp only
  split
  · exact hblocked.counted f
  · exact hblocked

theorem setScore (h : Guarded log clock s) {ip : IpAddr} (entry : HandshakeHeuristicState)
    (hbacked : entry.tally.Backed (GuardEvent.violationScore s.config.handshakeHeuristics ip)
      GuardEvent.time clock log) :
    Guarded log clock { s with handshakeHeuristics := s.handshakeHeuristics.insert ip entry } where
  scores ip' entry' hlookup := by
    dsimp only at hlookup
    rw [AssocMap.lookup_insert_eq] at hlookup
    split at hlookup
    · next heq =>
      obtain rfl := Option.some.inj hlookup
      rw [heq]
      exact hbacked
    · exact h.scores ip' entry' hlookup
  streaks := h.streaks
  blocks := h.blocks

theorem setStreak (h : Guarded log clock s) {ip : IpAddr} (state : CookieMismatchGuardState)
    (hstreak : state.Streak ip clock log) :
    Guarded log clock
      { s with cookieMismatchGuardStates := s.cookieMismatchGuardStates.insert ip state } where
  scores := h.scores
  streaks ip' state' hlookup := by
    dsimp only at hlookup
    rw [AssocMap.lookup_insert_eq] at hlookup
    split at hlookup
    · next heq =>
      obtain rfl := Option.some.inj hlookup
      rw [heq]
      exact hstreak
    · exact h.streaks ip' state' hlookup
  blocks := h.blocks

end Guarded

/-! ## The guards at work -/

namespace Guarded

variable {log : List GuardEvent} {now : Instant} {s : TransportServer F H}

theorem violation [F64 F] (h : Guarded log now s) (addr : SocketAddr)
    (violation : HandshakeViolation) :
    Guarded (log ++ [.violation addr.ip violation now]) now
      (s.recordHandshakeViolation addr violation now).2 := by
  have hlogged := h.event (e := .violation addr.ip violation now) fun _ => rfl
  have hentry : ((s.handshakeHeuristics.lookup addr.ip).getD ⟨now, 0⟩).tally.Backed
      (GuardEvent.violationScore s.config.handshakeHeuristics addr.ip) GuardEvent.time now log := by
    cases hlookup : s.handshakeHeuristics.lookup addr.ip with
    | none => exact Tally.backed_fresh now log
    | some entry => exact h.scores addr.ip entry hlookup
  unfold recordHandshakeViolation
  dsimp only
  generalize (s.handshakeHeuristics.lookup addr.ip).getD ⟨now, 0⟩ = entry at hentry ⊢
  have hopened : (if now - entry.windowStartedAt > s.config.handshakeHeuristics.eventWindow then
      (⟨now, 0⟩ : HandshakeHeuristicState) else entry).tally
        = entry.tally.reopened s.config.handshakeHeuristics.eventWindow now :=
    apply_ite HandshakeHeuristicState.tally _ _ _
  generalize (if now - entry.windowStartedAt > s.config.handshakeHeuristics.eventWindow then
      (⟨now, 0⟩ : HandshakeHeuristicState) else entry) = opened at hopened ⊢
  obtain ⟨hbacked, hopen⟩ := hentry.reopened s.config.handshakeHeuristics.eventWindow
  rw [← hopened] at hbacked hopen
  have hrecorded := hbacked.record (e := .violation addr.ip violation now) rfl
    (min (opened.score + violation.score s.config.handshakeHeuristics) (2 ^ 32 - 1))
    (by simp only [GuardEvent.violationScore, if_pos]; exact Nat.min_le_left _ _)
  split
  · exact hlogged
  · split
    · exact hlogged
    · split
      · next hscore =>
        refine (hlogged.setScore ⟨now, 0⟩ (Tally.backed_fresh now _)).blockAndCount
          ?_ now _ _
        exact hrecorded.reached hopen hscore
      · exact hlogged.setScore _ hrecorded

theorem mismatch [F64 F] (h : Guarded log now s) (ip : IpAddr) :
    Guarded (log ++ [.mismatch ip now]) now (s.recordCookieMismatch ip now).2 := by
  have hlogged := h.event (e := .mismatch ip now) fun _ => rfl
  have hstate : ((s.cookieMismatchGuardStates.lookup ip).getD ⟨now, 0⟩).Streak ip now log := by
    cases hlookup : s.cookieMismatchGuardStates.lookup ip with
    | none => exact .fresh ip now log
    | some state => exact h.streaks ip state hlookup
  unfold recordCookieMismatch
  dsimp only
  generalize (s.cookieMismatchGuardStates.lookup ip).getD ⟨now, 0⟩ = state at hstate ⊢
  have hopened : (if now - state.windowStartedAt > s.config.cookieMismatchGuard.eventWindow then
      (⟨now, 0⟩ : CookieMismatchGuardState) else state).tally
        = state.tally.reopened s.config.cookieMismatchGuard.eventWindow now :=
    apply_ite CookieMismatchGuardState.tally _ _ _
  generalize (if now - state.windowStartedAt > s.config.cookieMismatchGuard.eventWindow then
      (⟨now, 0⟩ : CookieMismatchGuardState) else state) = opened at hopened ⊢
  obtain ⟨before, streak, rfl, hnone, hbacked⟩ := hstate
  obtain ⟨hbacked, hopen⟩ := hbacked.reopened s.config.cookieMismatchGuard.eventWindow
  rw [← hopened] at hbacked hopen
  have hrecorded := hbacked.record (e := .mismatch ip now) rfl
    (min (opened.mismatches + 1) (2 ^ 32 - 1))
    (by simp only [GuardEvent.mismatchCount, if_pos]; exact Nat.min_le_left _ _)
  have hstreak : ∀ e ∈ streak ++ [.mismatch ip now], e.verifies ip = false := by
    intro e he
    rcases List.mem_append.mp he with he | he
    · exact hnone e he
    · rw [List.mem_singleton.mp he]
      rfl
  split
  · exact hlogged
  · split
    · exact hlogged.setStreak _ ⟨before, _, List.append_assoc _ _ _, hstreak, hrecorded⟩
    · next hcount =>
      refine (hlogged.setStreak ⟨now, 0⟩ (.fresh ip now _)).blockAndCount ?_ now _ _
      refine ⟨before, _, [], ?_, hstreak, hrecorded.reached hopen (Nat.le_of_not_lt hcount)⟩
      rw [List.append_nil, List.append_assoc]

/-- A request that passes ends the streak of its address. -/
theorem verified (h : Guarded log now s) (ip : IpAddr) (time : Instant) :
    Guarded (log ++ [.verified ip time]) now (s.clearCookieMismatchState ip) where
  scores ip' entry hlookup := (h.scores ip' entry hlookup).append _
  streaks ip' state hlookup := by
    unfold clearCookieMismatchState at hlookup
    dsimp only at hlookup
    rw [AssocMap.lookup_erase_eq] at hlookup
    split at hlookup
    · cases hlookup
    · next hne => exact (h.streaks ip' state hlookup).event (decide_eq_false (Ne.symm hne))
  blocks ip' b hlookup := (h.blocks ip' b hlookup).append _

theorem pruneHeuristics (h : Guarded log now s) (time : Instant) :
    Guarded log now (s.pruneHandshakeHeuristicStates time) := by
  unfold pruneHandshakeHeuristicStates
  dsimp only
  split
  · refine ⟨fun ip entry hlookup => ?_, h.streaks, h.blocks⟩
    cases hlookup
  · exact ⟨fun ip entry hlookup => h.scores ip entry (AssocMap.lookup_retain_some hlookup),
      h.streaks, h.blocks⟩

theorem pruneCookieGuard (h : Guarded log now s) (time : Instant) :
    Guarded log now (s.pruneCookieMismatchGuardStates time) := by
  unfold pruneCookieMismatchGuardStates
  dsimp only
  split
  · refine ⟨h.scores, fun ip state hlookup => ?_, h.blocks⟩
    cases hlookup
  · exact ⟨h.scores, fun ip state hlookup =>
      h.streaks ip state (AssocMap.lookup_retain_some hlookup), h.blocks⟩

end Guarded

end TransportServer

end Raknet
