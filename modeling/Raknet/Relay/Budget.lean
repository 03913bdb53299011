-- SUMMARY: The budget of a relay session, one atomic operation a step.
import Raknet.Lib.Machine

/-!
The loop reserves in one direction and the task in the other, so `try_reserve_budget`
is cut at its loads and additions. Releases come at any time.
-/

namespace Raknet

inductive RelayDirection where
  | downstreamToUpstream
  | upstreamToDownstream
deriving DecidableEq

structure RelayRuntimeConfig where
  (maxPendingPackets maxPendingBytes : RelayDirection → Nat)
  sessionTotalMaxPendingBytes : Nat

structure RelayBudgetExceeded where
  (pendingPackets pendingBytes packetLimit byteLimit totalPendingBytes totalLimit : Nat)

/-- What `try_reserve_budget` does next, with what it has loaded. -/
inductive RelayReserve where
  | idle
  | loadPackets
  | loadBytes (packets : Nat)
  | loadDownstream (packets bytes : Nat)
  | loadUpstream (packets bytes downstream : Nat)
  | addPackets
  | addBytes

structure RelayLane where
  (packets bytes len : Nat := 0)
  reserve : RelayReserve := .idle

inductive RelayBudgetOp where
  | tryReserve (len : Nat)
  | proceed
  | releasePacket
  | releaseBytes (len : Nat)

variable (c : RelayRuntimeConfig) (d : RelayDirection) (down up : Nat) (l : RelayLane)
  (op : RelayBudgetOp)

def RelayRuntimeConfig.packetLimit : Nat := max (c.maxPendingPackets d) 1
def RelayRuntimeConfig.byteLimit : Nat := max (c.maxPendingBytes d) 1
def RelayRuntimeConfig.totalLimit : Nat := max c.sessionTotalMaxPendingBytes 1

/-- A step of a lane, when the byte counters are `down` and `up`. -/
def RelayLane.step : RelayLane × Option (Except RelayBudgetExceeded Unit) :=
  match op, l.reserve with
  | .tryReserve len, .idle => ({ l with len := len, reserve := .loadPackets }, none)
  | .proceed, .loadPackets => ({ l with reserve := .loadBytes l.packets }, none)
  | .proceed, .loadBytes p => ({ l with reserve := .loadDownstream p l.bytes }, none)
  | .proceed, .loadDownstream p b => ({ l with reserve := .loadUpstream p b down }, none)
  | .proceed, .loadUpstream p b down =>
    if p + 1 > c.packetLimit d ∨ b + l.len > c.byteLimit d ∨ down + up + l.len > c.totalLimit then
      ({ l with reserve := .idle },
        some (.error ⟨p, b, c.packetLimit d, c.byteLimit d, down + up, c.totalLimit⟩))
    else ({ l with reserve := .addPackets }, none)
  | .proceed, .addPackets => ({ l with packets := l.packets + 1, reserve := .addBytes }, none)
  | .proceed, .addBytes => ({ l with bytes := l.bytes + l.len, reserve := .idle }, some (.ok ()))
  | .releasePacket, _ => ({ l with packets := l.packets - 1 }, none)
  | .releaseBytes len, _ => ({ l with bytes := l.bytes - len }, none)
  | _, _ => (l, none)

def relayBudgetMachine : Machine (RelayDirection → RelayLane) (RelayDirection × RelayBudgetOp)
    (Option (Except RelayBudgetExceeded Unit)) where
  step s := fun (d, op) =>
    let r := (s d).step c d (s .downstreamToUpstream).bytes (s .upstreamToDownstream).bytes op
    (Function.update s d r.1, r.2)

/-- Only one side adds to a lane, so the counters are at most what it has loaded. -/
def RelayLane.Checked : Prop :=
  l.packets ≤ c.packetLimit d ∧ l.bytes ≤ c.byteLimit d ∧ match l.reserve with
  | .idle | .loadPackets => True
  | .loadBytes p => l.packets ≤ p
  | .loadDownstream p b | .loadUpstream p b _ => l.packets ≤ p ∧ l.bytes ≤ b
  | .addPackets => l.packets < c.packetLimit d ∧ l.bytes + l.len ≤ c.byteLimit d
  | .addBytes => l.bytes + l.len ≤ c.byteLimit d

theorem RelayLane.step_checked (h : l.Checked c d) :
    (l.step c d down up op).1.Checked c d := by
  obtain ⟨_, _, _, reserve⟩ := l
  cases op <;> cases reserve <;> simp only [step, Checked, and_true] at h ⊢ <;> try omega
  split <;> simp <;> omega

theorem relay_pending_le (ops : List (RelayDirection × RelayBudgetOp)) :
    let s := (relayBudgetMachine c).exec (fun _ => {}) ops
    (s d).packets ≤ c.packetLimit d ∧ (s d).bytes ≤ c.byteLimit d := by
  intro s
  have h : ∀ d, (s d).Checked c d := by
    refine (relayBudgetMachine c).run_invariant (P := fun _ _ s => ∀ d, (s d).Checked c d) ?_ ?_ _
    · simp [RelayLane.Checked]
    · rintro _ _ s ⟨e, op⟩ hs d
      by_cases h : d = e
      · subst h
        simpa [relayBudgetMachine] using RelayLane.step_checked c _ _ _ _ op (hs _)
      · simpa [relayBudgetMachine, h] using hs d
  exact ⟨(h d).1, (h d).2.1⟩

theorem relay_total_reaches : ∃ ops, ∀ d,
    ((relayBudgetMachine c).exec (fun _ => {}) ops d).bytes = min (c.byteLimit d) c.totalLimit := by
  -- both sides check before either adds
  let both (op : RelayDirection → RelayBudgetOp) :=
    [.downstreamToUpstream, .upstreamToDownstream].map fun d => (d, op d)
  refine ⟨both (fun d => .tryReserve (min (c.byteLimit d) c.totalLimit)) ++
    (List.replicate 6 (both fun _ => .proceed)).flatten, fun d => ?_⟩
  cases d <;> simp [both, relayBudgetMachine, RelayLane.step, List.replicate, Nat.lt_min,
    RelayRuntimeConfig.packetLimit, Nat.max_lt]

end Raknet
