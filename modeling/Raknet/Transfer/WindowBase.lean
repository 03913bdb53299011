-- SUMMARY: The receive window follows the sender exactly if no payload is sent in parts.
import Raknet.Receive.Duplicates
import Raknet.Send.Allocation

/-!
# The base of the window and the sender

Whole and split frames draw their reliable indices from one counter, but the
receiver records those of whole frames only. Fed in the order of their indices, the
base of its window goes along with the whole frames and stops for good at the
first part of a split payload.
-/

namespace Raknet

/-- A frame has a reliable index exactly if its class is reliable, and a part is of a
    reliable class. -/
structure Frame.Indexed (f : Frame) : Prop where
  index : f.reliableIndex.isSome = f.header.reliability.isReliable
  part : f.header.isSplit = true → f.header.reliability.isReliable = true

namespace ReliableTracker

/-- Behind `k` indices in order the base stands at `m`. No flag is set if it is
    behind the last. -/
structure StandsAt (t : ReliableTracker) (m k : Nat) : Prop where
  base : t.base = Sequence24.new m
  le : m ≤ k
  empty : m = k → t.seenAhead = []

theorem new_standsAt (maxWindow : Nat) : (new maxWindow).StandsAt 0 0 :=
  ⟨rfl, Nat.le_refl 0, fun _ => rfl⟩

variable {t : ReliableTracker} {m k : Nat}

theorem StandsAt.skip (h : t.StandsAt m k) : t.StandsAt m (k + 1) :=
  ⟨h.base, Nat.le_succ_of_le h.le, fun heq => absurd h.le (by omega)⟩

theorem StandsAt.see_last (h : t.StandsAt k k) :
    (t.see (Sequence24.new k)).2.StandsAt (k + 1) (k + 1) := by
  have hempty := h.empty rfl
  have hset : ∀ flag ∈ t.seenAhead, flag = true := by
    rw [hempty]
    exact List.forall_mem_nil _
  rw [← h.base, see_base hset]
  refine ⟨?_, Nat.le_refl _, fun _ => rfl⟩
  rw [hempty, h.base]
  exact Sequence24.next_new k

/-- An index that is not the base leaves the base. -/
theorem see_ne_base {r : Sequence24} (hne : r ≠ t.base) : (t.see r).2.base = t.base := by
  rcases Nat.lt_or_ge t.maxWindow (t.base.distanceTo r) with hfar | hnear
  · rw [see_beyond hne hfar]
  · rw [see_ahead hne hnear]

theorem StandsAt.see_ahead (h : t.StandsAt m k) (hlt : m < k) (hk : k < 16777216) :
    (t.see (Sequence24.new k)).2.StandsAt m (k + 1) := by
  have hne : Sequence24.new k ≠ t.base := by
    rw [h.base]
    intro heq
    have hvalue := congrArg Sequence24.value heq
    simp only [Sequence24.value_new] at hvalue
    omega
  exact ⟨(see_ne_base hne).trans h.base, by omega, fun heq => absurd h.le (by omega)⟩

end ReliableTracker

variable {F H : Type}

namespace Session

open ReliableTracker

/-- The next reliable frame moves the base if it is whole and the base is behind the
    last index. -/
theorem handleFrame_standsAt {s : Session F H} {m k : Nat} {frame : Frame}
    (h : s.reliableTracker.StandsAt m k) (hframe : frame.Indexed)
    (hindex : frame.reliableIndex = some (Sequence24.new k)) (hk : k < 16777216) (now : Instant) :
    ∃ m', (s.handleFrame frame now).2.reliableTracker.StandsAt m' (k + 1) ∧
      (m' = k + 1 ↔ m = k ∧ frame.header.isSplit = false) := by
  have hreliable : frame.header.reliability.isReliable = true := by
    rw [← hframe.index, hindex]
    rfl
  rw [s.handleFrame_tracker]
  have hle := h.le
  cases hsplit : frame.header.isSplit with
  | true =>
    rw [s.recordedFrame_of_split hsplit]
    exact ⟨m, h.skip, by simp; omega⟩
  | false =>
    rcases Nat.eq_or_lt_of_le hle with rfl | hlt
    · have hnew : s.isDuplicate frame = false := by
        simp [isDuplicate, hindex, hasSeen, h.base]
      have hrecorded : s.recordedFrame frame = [Sequence24.new m] := by
        simp [recordedFrame, hreliable, hsplit, hindex, hnew]
      rw [hrecorded]
      exact ⟨m + 1, h.see_last, by simp⟩
    · refine ⟨m, ?_, by omega⟩
      unfold recordedFrame
      split
      · rw [hindex]
        exact h.see_ahead hlt hk
      · exact h.skip

theorem handleFrame_unreliable {s : Session F H} {frame : Frame} (hframe : frame.Indexed)
    (hindex : frame.reliableIndex = none) (now : Instant) :
    (s.handleFrame frame now).2.reliableTracker = s.reliableTracker ∧
      frame.header.isSplit = false := by
  have hunreliable : frame.header.reliability.isReliable = false := by
    rw [← hframe.index, hindex]
    rfl
  constructor
  · rw [s.handleFrame_tracker]
    simp [recordedFrame, hunreliable]
  · cases hsplit : frame.header.isSplit with
    | false => rfl
    | true => exact absurd (hframe.part hsplit) (by rw [hunreliable]; exact Bool.false_ne_true)

/-- The frames of one call, in the order of their indices. -/
theorem handleFrames_standsAt {s s' : Session F H} {m k j : Nat} {frames out : List Frame}
    (h : s.reliableTracker.StandsAt m k) (hframes : ∀ f ∈ frames, f.Indexed)
    (hindices : frames.filterMap Frame.reliableIndex = (List.range' k j).map Sequence24.new)
    (hj : k + j ≤ 16777216) {now : Instant} (hok : handleFrames now frames s = (.ok out, s')) :
    ∃ m', s'.reliableTracker.StandsAt m' (k + j) ∧
      (m' = k + j ↔ m = k ∧ ∀ f ∈ frames, f.header.isSplit = false) := by
  induction frames generalizing s m k j out with
  | nil =>
    cases hok
    have hzero : j = 0 := by simpa using hindices.symm
    subst hzero
    exact ⟨m, h, by simp⟩
  | cons frame rest ih =>
    obtain ⟨own, s₁, more, hown, hmore, -⟩ := handleFrames_cons_ok hok
    have hframe := hframes frame List.mem_cons_self
    have hrest : ∀ f ∈ rest, f.Indexed := fun f hf => hframes f (List.mem_cons_of_mem frame hf)
    cases hindex : frame.reliableIndex with
    | none =>
      rw [List.filterMap_cons_none hindex] at hindices
      obtain ⟨hsame, hwhole⟩ := handleFrame_unreliable (s := s) hframe hindex now
      rw [hown] at hsame
      obtain ⟨m', hm', hiff⟩ := ih (hsame ▸ h) hrest hindices hj hmore
      exact ⟨m', hm', hiff.trans (by simp [hwhole])⟩
    | some r =>
      rw [List.filterMap_cons_some hindex] at hindices
      cases j with
      | zero => cases hindices
      | succ j =>
        rw [List.range'_succ, List.map_cons] at hindices
        obtain ⟨rfl, hindices'⟩ := List.cons.inj hindices
        obtain ⟨m₁, hm₁, hiff₁⟩ := handleFrame_standsAt h hframe hindex (by omega) now
        rw [hown] at hm₁
        obtain ⟨m', hm', hiff⟩ := ih hm₁ hrest hindices' (by omega) hmore
        have hsum : k + 1 + j = k + (j + 1) := by omega
        rw [hsum] at hm' hiff
        refine ⟨m', hm', hiff.trans ?_⟩
        rw [hiff₁, List.forall_mem_cons, and_assoc]

/-- A session that is handed frames, one call after another. -/
def frameMachine (F H : Type) :
    Machine (Session F H) (Instant × List Frame) (Except DecodeError (List Frame)) :=
  ⟨fun s call => ((handleFrames call.1 call.2 s).2, (handleFrames call.1 call.2 s).1)⟩

/-- The frames of any number of calls, in the order of their indices. -/
theorem exec_standsAt {s : Session F H} {m k j : Nat} {calls : List (Instant × List Frame)}
    (h : s.reliableTracker.StandsAt m k) (hframes : ∀ f ∈ calls.flatMap Prod.snd, f.Indexed)
    (hindices : (calls.flatMap Prod.snd).filterMap Frame.reliableIndex
      = (List.range' k j).map Sequence24.new)
    (hj : k + j ≤ 16777216) (hok : ∀ r ∈ (frameMachine F H).outputs s calls, r.isOk = true) :
    ∃ m', ((frameMachine F H).exec s calls).reliableTracker.StandsAt m' (k + j) ∧
      (m' = k + j ↔ m = k ∧ ∀ f ∈ calls.flatMap Prod.snd, f.header.isSplit = false) := by
  induction calls generalizing s m k j with
  | nil =>
    have hzero : j = 0 := by simpa using hindices.symm
    subst hzero
    exact ⟨m, h, by simp⟩
  | cons call calls ih =>
    obtain ⟨now, frames⟩ := call
    rw [List.flatMap_cons] at hframes hindices ⊢
    -- the first call takes the first indices, the others the rest
    obtain ⟨j₁, j₂, rfl, hown, hrest⟩ : ∃ j₁ j₂, j = j₁ + j₂ ∧
        frames.filterMap Frame.reliableIndex = (List.range' k j₁).map Sequence24.new ∧
        (calls.flatMap Prod.snd).filterMap Frame.reliableIndex
          = (List.range' (k + j₁) j₂).map Sequence24.new := by
      rw [List.filterMap_append] at hindices
      obtain ⟨l₁, l₂, hl, h₁, h₂⟩ := List.append_eq_map_iff.mp hindices
      obtain ⟨j₁, hj₁, hl₁, hl₂⟩ := List.range'_eq_append_iff.mp hl
      refine ⟨j₁, j - j₁, by omega, ?_, ?_⟩
      · rw [← h₁, hl₁]
      · rw [← h₂, hl₂, Nat.mul_one]
    have hcall : ((handleFrames now frames s).1).isOk = true := hok _ List.mem_cons_self
    cases hresult : handleFrames now frames s with
    | mk result s₁ =>
    cases result with
    | error e =>
      rw [hresult] at hcall
      cases hcall
    | ok out =>
      obtain ⟨m₁, hm₁, hiff₁⟩ := handleFrames_standsAt h
        (fun f hf => hframes f (List.mem_append_left _ hf)) hown (by omega) hresult
      have hs₁ : ((frameMachine F H).step s (now, frames)).1 = s₁ := by
        change (handleFrames now frames s).2 = s₁
        rw [hresult]
      rw [Machine.outputs_cons, hs₁] at hok
      rw [Machine.exec_cons, hs₁]
      obtain ⟨m', hm', hiff⟩ := ih hm₁ (fun f hf => hframes f (List.mem_append_right _ hf)) hrest
        (by omega) (fun r hr => hok r (List.mem_cons_of_mem _ hr))
      rw [Nat.add_assoc] at hm' hiff
      refine ⟨m', hm', hiff.trans ?_⟩
      rw [hiff₁, List.forall_mem_append, and_assoc]

variable [F64 F] [MinHeap H QueuedFrame QueuedFrame.weight]

omit [F64 F] [MinHeap H QueuedFrame QueuedFrame.weight] in
theorem QueueOutcome.indexed {s : Session F H} {payload : Bytes} {reliability : Reliability}
    {channel : UInt8} {priority : RakPriority} {receiptId : Option UInt64}
    {r : QueuePayloadResult × List Frame × WriteIndices}
    (h : QueueOutcome s payload reliability channel priority receiptId r) :
    ∀ f ∈ r.2.1, f.Indexed := by
  intro f hf
  cases h with
  | refused => cases hf
  | single bytes hfits =>
    rw [List.mem_singleton.mp hf]
    exact ⟨WriteIndices.isSome_reliableIndex _ _, fun h => by cases h⟩
  | split bytes hlong =>
    obtain ⟨i, w', part, -, rfl⟩ := WriteIndices.mem_partFrames hf
    exact ⟨WriteIndices.isSome_reliableIndex _ _, fun _ =>
      isReliable_normalizeReliabilityForSplit reliability⟩

theorem madeFrames_indexed {s : Session F H} {ops : List SessionOp} :
    ∀ f ∈ madeFrames s ops, f.Indexed := by
  induction ops generalizing s with
  | nil => exact List.forall_mem_nil _
  | cons op ops ih =>
    rw [madeFrames_cons, List.forall_mem_append]
    refine ⟨?_, ih⟩
    intro f hf
    rcases s.step_queues op with
      ⟨payload, reliability, channel, priority, receiptId, rfl⟩ | hnothing
    · exact (s.queuePayload_outcome payload reliability channel priority receiptId).indexed f hf
    · rw [hnothing.made] at hf
      cases hf

/-- If every frame of a sender is handed to a receiver once, in the order of the
    reliable indices, and no call fails, the base of the window is behind the last
    index exactly if no payload was cut into parts. -/
theorem window_base_follows_iff (mtuS mtuR : Nat) (tunablesS tunablesR : SessionTunables F)
    (startS startR : Instant) (ops : List SessionOp) (calls : List (Instant × List Frame))
    (hcount : ((madeFrames (withTunables mtuS tunablesS startS : Session F H) ops).filterMap
      Frame.reliableIndex).length < 8388608)
    (hfed : (calls.flatMap Prod.snd).Perm
      (madeFrames (withTunables mtuS tunablesS startS : Session F H) ops))
    (horder : (((calls.flatMap Prod.snd).filterMap Frame.reliableIndex).map
      Sequence24.value).Pairwise (· < ·))
    (hok : ∀ r ∈ (frameMachine F H).outputs (withTunables mtuR tunablesR startR) calls,
      r.isOk = true) :
    ((frameMachine F H).exec (withTunables mtuR tunablesR startR) calls).reliableTracker.base
        = ((sessionMachine F H).exec (withTunables mtuS tunablesS startS) ops).reliableWriteIndex ↔
      ∀ f ∈ madeFrames (withTunables mtuS tunablesS startS : Session F H) ops,
        f.header.isSplit = false := by
  obtain ⟨n, hmade, hnext⟩ := madeFrames_reliable
    (s := (withTunables mtuS tunablesS startS : Session F H)) (n := 0) rfl ops
  have hn : n < 8388608 := by
    rw [hmade] at hcount
    simpa using hcount
  -- the indices of the fed frames, in order, are the numbers from 0 on
  have hvalues : ((List.range' 0 n).map Sequence24.new).map Sequence24.value = List.range' 0 n := by
    rw [List.map_map, List.map_congr_left, List.map_id]
    intro i hi
    rw [List.mem_range'_1] at hi
    simp only [Function.comp_apply, Sequence24.value_new, id_eq]
    omega
  have hperm : ((calls.flatMap Prod.snd).filterMap Frame.reliableIndex).Perm
      ((List.range' 0 n).map Sequence24.new) := by
    rw [← hmade]
    exact hfed.filterMap _
  have hindices : (calls.flatMap Prod.snd).filterMap Frame.reliableIndex
      = (List.range' 0 n).map Sequence24.new := by
    refine List.map_injective_iff.mpr (fun _ _ => Sequence24.ext_value) ?_
    rw [hvalues]
    have hpermValues := hperm.map Sequence24.value
    rw [hvalues] at hpermValues
    exact List.Perm.eq_of_pairwise' (r := (· ≤ ·)) (horder.imp Nat.le_of_lt)
      (List.pairwise_le_range' ..) hpermValues
  obtain ⟨m, hstands, hiff⟩ := exec_standsAt
    (s := (withTunables mtuR tunablesR startR : Session F H))
    (new_standsAt _) (fun f hf => madeFrames_indexed f (hfed.mem_iff.mp hf)) hindices
    (by omega) hok
  have hbase : ((frameMachine F H).exec (withTunables mtuR tunablesR startR)
      calls).reliableTracker.base = ((sessionMachine F H).exec
        (withTunables mtuS tunablesS startS) ops).reliableWriteIndex ↔ m = 0 + n := by
    have hle := hstands.le
    rw [hstands.base]
    refine ⟨fun heq => ?_, fun heq => heq ▸ hnext.symm⟩
    have hvalue := congrArg Sequence24.value (heq.trans hnext)
    simp only [Sequence24.value_new] at hvalue
    omega
  rw [hbase, hiff]
  simp only [true_and, hfed.mem_iff]

/-- The frames of a sender, handed over in one call. -/
def handOver (ops : List SessionOp) : List (Instant × List Frame) :=
  [(0, madeFrames (withTunables 100 SessionTunables.standard 0 : ConcreteSession) ops)]

/-- A whole payload behind which the window stands, and one in three parts behind
    which it does not move. -/
def wholeThenParts : List SessionOp :=
  [.queuePayload [1] .reliable 0 .high none,
    .queuePayload (List.replicate 200 7) .reliableOrdered 0 .high none,
    .queuePayload [2] .reliable 0 .high none]

/-- The parts leave a hole that nothing fills. -/
theorem window_base_stops_at_part :
    let receiver := (frameMachine ℚ _).exec
      (withTunables 100 SessionTunables.standard 0 : ConcreteSession) (handOver wholeThenParts)
    let sender := concreteMachine.exec (withTunables 100 SessionTunables.standard 0) wholeThenParts
    ((frameMachine ℚ _).outputs (withTunables 100 SessionTunables.standard 0 : ConcreteSession)
      (handOver wholeThenParts)).all Except.isOk = true ∧
    receiver.reliableTracker.base = Sequence24.new 1 ∧
    sender.reliableWriteIndex = Sequence24.new 5 := by
  decide +kernel

theorem window_base_follows_iff_whole :
    ((frameMachine ℚ _).exec (withTunables 100 SessionTunables.standard 0 : ConcreteSession)
        (handOver [.queuePayload [1] .reliable 0 .high none,
          .queuePayload [2] .unreliable 0 .high none])).reliableTracker.base
      = (concreteMachine.exec (withTunables 100 SessionTunables.standard 0)
        [.queuePayload [1] .reliable 0 .high none,
          .queuePayload [2] .unreliable 0 .high none]).reliableWriteIndex := by
  refine (window_base_follows_iff 100 100 SessionTunables.standard SessionTunables.standard 0 0 _ _
    (by decide +kernel) ?_ (by decide +kernel) (by decide +kernel)).mpr (by decide +kernel)
  rw [handOver, List.flatMap_singleton]

end Session

end Raknet
