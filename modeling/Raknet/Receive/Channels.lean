-- SUMMARY: The ordering channels over every list of calls: what waits, what was released, and which sequenced frames pass.
import Raknet.Lib.Machine
import Raknet.Session.OrderingChannels

/-!
# Ordering channels under arbitrary calls

The frames may carry any channel and any index. On every channel the released
indices count up from 0 to just before the expected one, and what waits lies in
the gap in front of it. A sequenced frame passes if it lies in the gap in front
of the last one that passed.
-/

namespace Raknet

/-! ## Calls -/

inductive ChannelCall where
  | handleOrdered (frame : Frame)
  | handleSequenced (frame : Frame)

inductive ChannelAnswer where
  | ordered (result : OrderedResult)
  | sequenced (result : SequencedResult)
deriving DecidableEq, Repr

def ChannelCall.channel : ChannelCall → UInt8
  | .handleOrdered frame | .handleSequenced frame => frame.orderingChannel.getD 0

/-- The frames that `handle_ordered` let go. -/
def ChannelAnswer.released : ChannelAnswer → List Frame
  | .ordered result => result.released
  | .sequenced _ => []

def orderingMachine : Machine OrderingChannels ChannelCall ChannelAnswer where
  step o
    | .handleOrdered frame => ((o.handleOrdered frame).2, .ordered (o.handleOrdered frame).1)
    | .handleSequenced frame =>
      ((o.handleSequenced frame).2, .sequenced (o.handleSequenced frame).1)

/-- The ordering index of a frame of the channel. -/
def Frame.orderingIndexOn (c : UInt8) (f : Frame) : Option Sequence24 :=
  if f.orderingChannel.getD 0 = c then f.orderingIndex else none

/-- The ordering indices released on a channel, in release order. -/
def releasedOn (c : UInt8) (results : List ChannelAnswer) : List Sequence24 :=
  results.flatMap fun r => r.released.filterMap (Frame.orderingIndexOn c)

theorem releasedOn_concat (c : UInt8) (results : List ChannelAnswer) (r : ChannelAnswer) :
    releasedOn c (results ++ [r])
      = releasedOn c results ++ r.released.filterMap (Frame.orderingIndexOn c) := by
  simp only [releasedOn, List.flatMap_append, List.flatMap_singleton]

theorem filterMap_orderingIndexOn_eq_nil {c : UInt8} {frames : List Frame}
    (h : ∀ f ∈ frames, f.orderingIndex = none ∨ f.orderingChannel.getD 0 ≠ c) :
    frames.filterMap (Frame.orderingIndexOn c) = [] := by
  refine List.filterMap_eq_nil_iff.mpr fun f hf => ?_
  unfold Frame.orderingIndexOn
  split
  · next hc => exact (h f hf).resolve_right (not_not_intro hc)
  · rfl

/-! ## The drain loop -/

namespace OrderingChannels

/-- The loop has ended when it stops: no frame with the expected index waits. More
    rounds than there are waiting frames change nothing. -/
theorem drain_ends {fuel : Nat} {state : ChannelState} (h : state.pendingOrdered.size ≤ fuel)
    (ready : List Frame) :
    drain fuel state ready = drain state.pendingOrdered.size state ready ∧
    (drain fuel state ready).2.pendingOrdered.lookup (drain fuel state ready).2.expectedOrder.value
      = none := by
  induction fuel generalizing state ready with
  | zero =>
    have hsize : state.pendingOrdered.size = 0 := Nat.le_zero.mp h
    refine ⟨by rw [hsize], ?_⟩
    by_contra hwaits
    obtain ⟨f, hf⟩ := Option.ne_none_iff_exists'.mp hwaits
    have herase := AssocMap.size_erase hf
    rw [drain, hsize] at herase
    omega
  | succ fuel ih =>
    cases hnext : state.pendingOrdered.lookup state.expectedOrder.value with
    | none =>
      have hstop : ∀ n, drain n state ready = (ready, state) := by
        intro n
        cases n with
        | zero => rfl
        | succ n => rw [drain, hnext]
      rw [hstop, hstop]
      exact ⟨rfl, hnext⟩
    | some f =>
      have hsize := AssocMap.size_erase hnext
      have hfewer : ({ state with
          pendingOrdered := state.pendingOrdered.erase state.expectedOrder.value
          expectedOrder := state.expectedOrder.next } : ChannelState).pendingOrdered.size
          ≤ fuel := by
        dsimp only
        omega
      obtain ⟨heq, hends⟩ := ih hfewer (ready ++ [f])
      rw [drain, hnext, ← hsize]
      refine ⟨?_, hends⟩
      rw [drain, hnext]
      exact heq

end OrderingChannels

/-! ## One channel -/

/-- The channel `c` has released `n` indexed frames; what waits is at a distance from
    `low` to `gap` in front of the expected index. -/
structure ChannelState.Waits (c : UInt8) (gap low : Nat) (state : ChannelState) (n : Nat) :
    Prop where
  expected : state.expectedOrder = Sequence24.new n
  pending : ∀ key f, state.pendingOrdered.lookup key = some f →
    ∃ index, f.orderingIndex = some index ∧ index.value = key ∧ f.orderingChannel.getD 0 = c ∧
      low ≤ state.expectedOrder.distanceTo index ∧ state.expectedOrder.distanceTo index ≤ gap

namespace ChannelState.Waits

variable {c : UInt8} {gap n : Nat} {state : ChannelState}

theorem initial (c : UInt8) (gap : Nat) : ChannelState.initial.Waits c gap 1 0 where
  expected := rfl
  pending := by
    intro key f h
    cases h

/-- Moving on by one index brings what waits one step nearer. -/
theorem next (h : state.Waits c gap 1 n) :
    { state with expectedOrder := state.expectedOrder.next }.Waits c gap 0 (n + 1) where
  expected := by
    dsimp only
    rw [h.expected, Sequence24.next_new]
  pending := by
    intro key f hf
    obtain ⟨index, hindex, hkey, hc, hlow, hgap⟩ := h.pending key f hf
    have hne : state.expectedOrder ≠ index := by
      intro heq
      rw [heq, Sequence24.distanceTo_self] at hlow
      omega
    have hstep := Sequence24.distanceTo_next_left hne
    exact ⟨index, hindex, hkey, hc, Nat.zero_le _, by dsimp only; omega⟩

/-- Without an entry at the expected index, all that waits is ahead. -/
theorem ahead (h : state.Waits c gap 0 n)
    (hnone : state.pendingOrdered.lookup state.expectedOrder.value = none) :
    state.Waits c gap 1 n where
  expected := h.expected
  pending := by
    intro key f hf
    obtain ⟨index, hindex, hkey, hc, -, hgap⟩ := h.pending key f hf
    refine ⟨index, hindex, hkey, hc, Nat.one_le_iff_ne_zero.mpr fun hzero => ?_, hgap⟩
    rw [Sequence24.distanceTo_eq_zero.mp hzero, hkey, hf] at hnone
    cases hnone

theorem erase {low : Nat} (h : state.Waits c gap low n) (key : Nat) :
    { state with pendingOrdered := state.pendingOrdered.erase key }.Waits c gap low n where
  expected := h.expected
  pending := by
    intro key' f hf
    rw [AssocMap.lookup_erase_eq] at hf
    split at hf
    · cases hf
    · exact h.pending key' f hf

/-- A frame in the gap joins what waits. -/
theorem insertIfNew (h : state.Waits c gap 1 n) {f : Frame} {index : Sequence24}
    (hindex : f.orderingIndex = some index) (hc : f.orderingChannel.getD 0 = c)
    (hlow : 0 < state.expectedOrder.distanceTo index)
    (hgap : state.expectedOrder.distanceTo index ≤ gap) :
    { state with
      pendingOrdered := AssocMap.insertIfNew index.value f state.pendingOrdered }.Waits c gap 1
        n where
  expected := h.expected
  pending := by
    intro key g hg
    rw [AssocMap.lookup_insertIfNew] at hg
    split at hg
    · next hkey =>
      cases hold : state.pendingOrdered.lookup index.value with
      | some old =>
        rw [hold, Option.getD_some] at hg
        obtain rfl := Option.some.inj hg
        exact h.pending key old (hkey ▸ hold)
      | none =>
        rw [hold, Option.getD_none] at hg
        obtain rfl := Option.some.inj hg
        exact ⟨index, hindex, hkey.symm, hc, hlow, hgap⟩
    · exact h.pending key g hg

/-- Draining releases the frames that follow, and leaves what waits ahead. -/
theorem drain {fuel : Nat} (h : state.Waits c gap 0 n) (hfuel : state.pendingOrdered.size ≤ fuel)
    (ready : List Frame) :
    ∃ more state', OrderingChannels.drain fuel state ready = (ready ++ more, state') ∧
      (∀ f ∈ more, f.orderingChannel.getD 0 = c) ∧
      more.filterMap (Frame.orderingIndexOn c)
        = (List.range' n more.length).map Sequence24.new ∧
      state'.Waits c gap 1 (n + more.length) ∧
      state'.pendingOrdered.size ≤ state.pendingOrdered.size := by
  induction fuel generalizing state n ready with
  | zero =>
    have hend := (OrderingChannels.drain_ends hfuel ready).2
    exact ⟨[], state, by rw [List.append_nil]; rfl, List.forall_mem_nil _, rfl, h.ahead hend,
      Nat.le_refl _⟩
  | succ fuel ih =>
    unfold OrderingChannels.drain
    cases hnext : state.pendingOrdered.lookup state.expectedOrder.value with
    | none =>
      exact ⟨[], state, by rw [List.append_nil], List.forall_mem_nil _, rfl, h.ahead hnext,
        Nat.le_refl _⟩
    | some f =>
      have hsize := AssocMap.size_erase hnext
      have hahead := (h.erase state.expectedOrder.value).ahead
        (by rw [AssocMap.lookup_erase_eq, if_pos rfl])
      obtain ⟨more, state', hdrain, hmore, hreleased, hwaits, hle⟩ :=
        ih hahead.next (by dsimp only; omega) (ready ++ [f])
      obtain ⟨index, hindex, hkey, hc, -, -⟩ := h.pending _ f hnext
      have hnumber : f.orderingIndexOn c = some (Sequence24.new n) := by
        rw [Frame.orderingIndexOn, if_pos hc, hindex, ← h.expected]
        exact congrArg some (Sequence24.ext_value hkey)
      refine ⟨f :: more, state', ?_, List.forall_mem_cons.mpr ⟨hc, hmore⟩, ?_, ?_, ?_⟩
      · rw [List.append_assoc, List.singleton_append] at hdrain
        exact hdrain
      · rw [List.filterMap_cons_some hnumber, hreleased, List.length_cons, List.range'_succ,
          List.map_cons]
      · rw [List.length_cons, Nat.add_comm more.length 1, ← Nat.add_assoc]
        exact hwaits
      · dsimp only at hle
        omega

end ChannelState.Waits

/-! ## All channels -/

namespace OrderingChannels

/-- Every channel has released a run of indices from 0, and what waits is in the gap
    in front of it and within the limit. -/
def Waits (o : OrderingChannels) (results : List ChannelAnswer) : Prop :=
  ∀ c, ∃ n, (o.channelState c).Waits c o.maxGap 1 n ∧
    (o.channelState c).pendingOrdered.size ≤ o.maxPendingPerChannel ∧
    releasedOn c results = (List.range n).map Sequence24.new

theorem waits_new (maxChannels maxPending maxGap : Nat) :
    (new maxChannels maxPending maxGap).Waits [] := by
  intro c
  rw [channelState_new]
  exact ⟨0, .initial c _, Nat.zero_le _, rfl⟩

variable {o : OrderingChannels} {results : List ChannelAnswer}

/-- A call that releases nothing with an index. -/
theorem Waits.silent (h : o.Waits results) {r : ChannelAnswer}
    (hnone : ∀ f ∈ r.released, f.orderingIndex = none) : o.Waits (results ++ [r]) := by
  intro c
  rw [releasedOn_concat, filterMap_orderingIndexOn_eq_nil fun f hf => .inl (hnone f hf),
    List.append_nil]
  exact h c

/-- A call that changes one channel and releases frames of this channel only. -/
theorem Waits.setChannelState (h : o.Waits results) {c : UInt8} {state : ChannelState}
    {r : ChannelAnswer} {n : Nat} (hown : ∀ f ∈ r.released, f.orderingChannel.getD 0 = c)
    (hstate : state.Waits c o.maxGap 1 n)
    (hroom : state.pendingOrdered.size ≤ o.maxPendingPerChannel)
    (hreleased : releasedOn c results ++ r.released.filterMap (Frame.orderingIndexOn c)
      = (List.range n).map Sequence24.new) :
    (o.setChannelState c state).Waits (results ++ [r]) := by
  intro c'
  rw [channelState_setChannelState, releasedOn_concat]
  split
  · next heq =>
    subst heq
    exact ⟨n, hstate, hroom, hreleased⟩
  · next hne =>
    rw [filterMap_orderingIndexOn_eq_nil fun f hf => .inr fun hf' =>
      hne (hf'.symm.trans (hown f hf)), List.append_nil]
    exact h c'

/-- A channel whose waiting frames and expected index stay as they are. -/
theorem Waits.setChannelState_same (h : o.Waits results) {c : UInt8} {state : ChannelState}
    {r : ChannelAnswer} (hnone : r.released = [])
    (hexpected : state.expectedOrder = (o.channelState c).expectedOrder)
    (hpending : state.pendingOrdered = (o.channelState c).pendingOrdered) :
    (o.setChannelState c state).Waits (results ++ [r]) := by
  obtain ⟨n, hstate, hroom, hreleased⟩ := h c
  refine h.setChannelState (n := n) (by rw [hnone]; exact List.forall_mem_nil _) ⟨?_, ?_⟩ ?_ ?_
  · rw [hexpected, hstate.expected]
  · rw [hexpected, hpending]
    exact hstate.pending
  · rwa [hpending]
  · rwa [hnone, List.filterMap_nil, List.append_nil]

theorem Waits.handleOrdered (h : o.Waits results) (f : Frame) :
    (o.handleOrdered f).2.Waits (results ++ [.ordered (o.handleOrdered f).1]) := by
  cases hindex : f.orderingIndex with
  | none =>
    simp only [OrderingChannels.handleOrdered, hindex]
    refine h.silent fun g hg => ?_
    rw [List.mem_singleton.mp hg]
    exact hindex
  | some index =>
    obtain ⟨n, hstate, hroom, hreleased⟩ := h (f.orderingChannel.getD 0)
    rcases o.handleOrdered_cases hindex rfl rfl with
      ⟨hzero, ready, state', hdrain, heq⟩ | heq | heq | ⟨hlow, hgap, hfree, heq⟩
    · obtain ⟨more, state'', hdrain', hmore, hnumbers, hwaits, hle⟩ :=
        hstate.next.drain (Nat.le_refl _) [f]
      cases hdrain.symm.trans hdrain'
      have hnumber : f.orderingIndexOn (f.orderingChannel.getD 0) = some (Sequence24.new n) := by
        rw [Frame.orderingIndexOn, if_pos rfl, hindex, ← hstate.expected,
          Sequence24.distanceTo_eq_zero.mp hzero]
      rw [heq]
      refine h.setChannelState (List.forall_mem_cons.mpr ⟨rfl, hmore⟩) hwaits
        (Nat.le_trans hle hroom) ?_
      simp only [ChannelAnswer.released, OrderedResult.released, List.singleton_append]
      have hrange : List.range n ++ List.range' n (more.length + 1)
          = List.range (n + 1 + more.length) := by
        rw [List.range_eq_range', List.range_eq_range', Nat.add_assoc, Nat.add_comm 1]
        simpa using List.range'_append_1 (s := 0) (m := n) (n := more.length + 1)
      rw [List.filterMap_cons_some hnumber, hnumbers, hreleased, ← List.map_cons,
        ← List.range'_succ, ← List.map_append, hrange]
    · rw [heq]
      exact h.setChannelState_same rfl rfl rfl
    · rw [heq]
      exact h.setChannelState_same rfl rfl rfl
    · rw [heq]
      refine h.setChannelState (List.forall_mem_nil _)
        (hstate.insertIfNew hindex rfl hlow hgap) ?_ ?_
      · exact Nat.le_trans (AssocMap.size_insertIfNew_le _ _ _) hfree
      · exact (List.append_nil _).trans hreleased

theorem Waits.handleSequenced (h : o.Waits results) (f : Frame) :
    (o.handleSequenced f).2.Waits (results ++ [.sequenced (o.handleSequenced f).1]) := by
  rcases o.handleSequenced_eq f with heq | ⟨last, heq⟩
  · rw [heq]
    exact h.silent (List.forall_mem_nil _)
  · rw [heq]
    exact h.setChannelState_same rfl rfl rfl

theorem waits_run (maxChannels maxPending maxGap : Nat) (calls : List ChannelCall) :
    (orderingMachine.exec (new maxChannels maxPending maxGap) calls).Waits
      (orderingMachine.outputs (new maxChannels maxPending maxGap) calls) := by
  refine orderingMachine.run_invariant (P := fun _ results o => Waits o results)
    (waits_new maxChannels maxPending maxGap) ?_ calls
  intro _ results o call h
  cases call with
  | handleOrdered f => exact h.handleOrdered f
  | handleSequenced f => exact h.handleSequenced f

/-! ## What a call leaves alone -/

theorem step_limits (o : OrderingChannels) (call : ChannelCall) :
    (orderingMachine.step o call).1.maxGap = o.maxGap ∧
    (orderingMachine.step o call).1.maxPendingPerChannel = o.maxPendingPerChannel := by
  cases call with
  | handleOrdered f =>
    dsimp only [orderingMachine]
    cases hindex : f.orderingIndex with
    | none => simp only [handleOrdered, hindex, and_self]
    | some index =>
      obtain ⟨state, heq, -⟩ := o.handleOrdered_eq hindex
      rw [heq]
      exact ⟨rfl, rfl⟩
  | handleSequenced f =>
    dsimp only [orderingMachine]
    rcases o.handleSequenced_eq f with heq | ⟨last, heq⟩
    · rw [heq]
      exact ⟨rfl, rfl⟩
    · rw [heq]
      exact ⟨rfl, rfl⟩

theorem limits_run (maxChannels maxPending maxGap : Nat) (calls : List ChannelCall) :
    (orderingMachine.exec (new maxChannels maxPending maxGap) calls).maxGap = max maxGap 1 ∧
    (orderingMachine.exec (new maxChannels maxPending maxGap) calls).maxPendingPerChannel
      = max maxPending 1 := by
  refine orderingMachine.run_invariant
    (P := fun _ _ o => o.maxGap = max maxGap 1 ∧ o.maxPendingPerChannel = max maxPending 1)
    ⟨rfl, rfl⟩ ?_ calls
  intro _ _ o call ⟨hgap, hpending⟩
  obtain ⟨hgap', hpending'⟩ := o.step_limits call
  exact ⟨hgap'.trans hgap, hpending'.trans hpending⟩

theorem step_other_channel (o : OrderingChannels) {call : ChannelCall} {c : UInt8}
    (hne : c ≠ call.channel) :
    (orderingMachine.step o call).1.channelState c = o.channelState c := by
  cases call with
  | handleOrdered f =>
    dsimp only [orderingMachine]
    cases hindex : f.orderingIndex with
    | none => simp only [handleOrdered, hindex]
    | some index =>
      obtain ⟨state, heq, -⟩ := o.handleOrdered_eq hindex
      rw [heq, channelState_setChannelState]
      exact if_neg hne
  | handleSequenced f =>
    dsimp only [orderingMachine]
    rcases o.handleSequenced_eq f with heq | ⟨last, heq⟩
    · rw [heq]
    · rw [heq, channelState_setChannelState]
      exact if_neg hne

/-- After every list of calls: what waits on a channel is in the gap in front of the
    expected index and within the limit, the released indices are those from 0 up to the
    expected one, a call leaves the other channels alone, and the drain loop ends. -/
theorem channels_invariant (maxChannels maxPending maxGap : Nat) (calls : List ChannelCall) :
    (∀ c key frame,
      ((orderingMachine.exec (new maxChannels maxPending maxGap) calls).channelState
        c).pendingOrdered.lookup key = some frame →
      ∃ index : Sequence24, index.value = key ∧
        1 ≤ ((orderingMachine.exec (new maxChannels maxPending maxGap) calls).channelState
          c).expectedOrder.distanceTo index ∧
        ((orderingMachine.exec (new maxChannels maxPending maxGap) calls).channelState
          c).expectedOrder.distanceTo index ≤ max maxGap 1) ∧
    (∀ c, ((orderingMachine.exec (new maxChannels maxPending maxGap) calls).channelState
      c).pendingOrdered.size ≤ max maxPending 1) ∧
    (∀ c, ∃ n,
      releasedOn c (orderingMachine.outputs (new maxChannels maxPending maxGap) calls)
        = (List.range n).map Sequence24.new ∧
      ((orderingMachine.exec (new maxChannels maxPending maxGap) calls).channelState
        c).expectedOrder = Sequence24.new n) ∧
    (∀ call c, c ≠ call.channel →
      (orderingMachine.step (orderingMachine.exec (new maxChannels maxPending maxGap) calls)
        call).1.channelState c
        = (orderingMachine.exec (new maxChannels maxPending maxGap) calls).channelState c) ∧
    (∀ (state : ChannelState) ready fuel, state.pendingOrdered.size ≤ fuel →
      drain fuel state ready = drain state.pendingOrdered.size state ready ∧
      (drain fuel state ready).2.pendingOrdered.lookup
        (drain fuel state ready).2.expectedOrder.value = none) := by
  have hwaits := waits_run maxChannels maxPending maxGap calls
  obtain ⟨hgap, hpending⟩ := limits_run maxChannels maxPending maxGap calls
  refine ⟨?_, ?_, ?_, fun call c hne => step_other_channel _ hne,
    fun state ready fuel hfuel => drain_ends hfuel ready⟩
  · intro c key frame hframe
    obtain ⟨n, hstate, -, -⟩ := hwaits c
    obtain ⟨index, -, hkey, -, hlow, hhigh⟩ := hstate.pending key frame hframe
    exact ⟨index, hkey, hlow, hgap ▸ hhigh⟩
  · intro c
    obtain ⟨n, -, hroom, -⟩ := hwaits c
    exact hpending ▸ hroom
  · intro c
    obtain ⟨n, hstate, -, hreleased⟩ := hwaits c
    exact ⟨n, hreleased, hstate.expected⟩

/-! ## Sequenced frames -/

theorem handleSequenced_accept_iff (o : OrderingChannels) {f : Frame} {index : Sequence24}
    (hindex : f.sequenceIndex = some index) :
    (o.handleSequenced f).1 = .accept ↔
      ∀ last, (o.channelState (f.orderingChannel.getD 0)).lastSequence = some last →
        1 ≤ last.distanceTo index ∧ last.distanceTo index ≤ o.maxGap := by
  simp only [handleSequenced, hindex]
  cases (o.channelState (f.orderingChannel.getD 0)).lastSequence with
  | none => simp
  | some last =>
    simp only [Bool.or_eq_true, decide_eq_true_eq, Option.some.injEq, forall_eq']
    split
    · next hstale => exact ⟨nofun, fun _ => by omega⟩
    · next hfresh => exact ⟨fun _ => by omega, fun _ => rfl⟩

/-- What a sequenced frame does to the cursor of its channel. -/
theorem handleSequenced_lastSequence (o : OrderingChannels) {f : Frame} {index : Sequence24}
    (hindex : f.sequenceIndex = some index) :
    ((o.handleSequenced f).1 = .accept ∧
      ((o.handleSequenced f).2.channelState (f.orderingChannel.getD 0)).lastSequence
        = some index) ∨
    ((o.handleSequenced f).1 = .dropStale ∧
      (o.channelState (f.orderingChannel.getD 0)).lastSequence ≠ none ∧
      ((o.handleSequenced f).2.channelState (f.orderingChannel.getD 0)).lastSequence
        = (o.channelState (f.orderingChannel.getD 0)).lastSequence) := by
  simp only [handleSequenced, hindex]
  cases hlast : (o.channelState (f.orderingChannel.getD 0)).lastSequence with
  | none => simp
  | some last =>
    dsimp only
    split
    · simp [hlast]
    · simp

end OrderingChannels

/-- The sequence index of a sequenced frame of the channel. -/
def ChannelCall.sequenceIndexOn (c : UInt8) : ChannelCall → Option Sequence24
  | .handleOrdered _ => none
  | .handleSequenced frame =>
    if frame.orderingChannel.getD 0 = c then frame.sequenceIndex else none

/-- The sequence indices that were offered to a channel. -/
def sequencedOn (c : UInt8) (calls : List ChannelCall) : List Sequence24 :=
  calls.filterMap (ChannelCall.sequenceIndexOn c)

/-- The sequence indices that a channel accepted. -/
def acceptedOn (c : UInt8) (calls : List ChannelCall) (results : List ChannelAnswer) :
    List Sequence24 :=
  (calls.zip results).filterMap fun r =>
    if r.2 = .sequenced .accept then r.1.sequenceIndexOn c else none

/-- The index is the first on the channel, or newer than the last one accepted there:
    ahead of it by less than half of the circle. -/
def NewerOn (c : UInt8) (calls : List ChannelCall) (results : List ChannelAnswer)
    (index : Sequence24) : Prop :=
  sequencedOn c calls = [] ∨
    ∃ last, (acceptedOn c calls results).getLast? = some last ∧
      1 ≤ last.distanceTo index ∧ last.distanceTo index ≤ 2 ^ 23 - 1

namespace OrderingChannels

/-- The cursors are what the history says. -/
structure Cursors (calls : List ChannelCall) (results : List ChannelAnswer)
    (o : OrderingChannels) : Prop where
  lengths : calls.length = results.length
  last : ∀ c, (o.channelState c).lastSequence = (acceptedOn c calls results).getLast?
  first : ∀ c, (o.channelState c).lastSequence = none → sequencedOn c calls = []

variable {o : OrderingChannels} {calls : List ChannelCall} {results : List ChannelAnswer}

/-- A call on which nothing is offered to the channel and whose cursor stays. -/
theorem Cursors.idle (h : o.Cursors calls results) {c : UInt8} {call : ChannelCall}
    {r : ChannelAnswer} {state : ChannelState} (hcall : call.sequenceIndexOn c = none)
    (hsame : state.lastSequence = (o.channelState c).lastSequence) :
    state.lastSequence = (acceptedOn c (calls ++ [call]) (results ++ [r])).getLast? ∧
    (state.lastSequence = none → sequencedOn c (calls ++ [call]) = []) := by
  constructor
  · rw [hsame, h.last c, acceptedOn, acceptedOn, List.zip_append h.lengths,
      List.filterMap_append]
    simp [hcall]
  · intro hnone
    rw [sequencedOn, List.filterMap_append, List.append_eq_nil_iff]
    exact ⟨h.first c (hsame ▸ hnone), by simp [hcall]⟩

theorem Cursors.step (h : o.Cursors calls results) (call : ChannelCall) :
    (orderingMachine.step o call).1.Cursors (calls ++ [call])
      (results ++ [(orderingMachine.step o call).2]) := by
  suffices hc : ∀ c,
      ((orderingMachine.step o call).1.channelState c).lastSequence
        = (acceptedOn c (calls ++ [call])
            (results ++ [(orderingMachine.step o call).2])).getLast? ∧
      (((orderingMachine.step o call).1.channelState c).lastSequence = none →
        sequencedOn c (calls ++ [call]) = []) from
    ⟨by simp [h.lengths], fun c => (hc c).1, fun c => (hc c).2⟩
  intro c
  cases hcall : call.sequenceIndexOn c with
  | none =>
    refine h.idle hcall ?_
    by_cases hchannel : c = call.channel
    · subst hchannel
      cases call with
      | handleOrdered f =>
        dsimp only [orderingMachine, ChannelCall.channel]
        cases hindex : f.orderingIndex with
        | none => simp only [handleOrdered, hindex]
        | some index =>
          obtain ⟨state, heq, hlast⟩ := o.handleOrdered_eq hindex
          rw [heq, channelState_setChannelState, if_pos rfl]
          exact hlast
      | handleSequenced f =>
        simp only [ChannelCall.sequenceIndexOn, ChannelCall.channel, if_true] at hcall
        dsimp only [orderingMachine]
        simp only [handleSequenced, hcall]
    · rw [step_other_channel o hchannel]
  | some index =>
    cases call with
    | handleOrdered f => cases hcall
    | handleSequenced f =>
      have hcall' := hcall
      rw [ChannelCall.sequenceIndexOn] at hcall'
      split at hcall'
      · next hchannel =>
        subst hchannel
        rcases o.handleSequenced_lastSequence hcall' with
          ⟨hresult, hcursor⟩ | ⟨hresult, hsome, hcursor⟩
        · dsimp only [orderingMachine]
          rw [hcursor]
          refine ⟨?_, nofun⟩
          rw [acceptedOn, List.zip_append h.lengths, List.filterMap_append]
          simp [hresult, hcall]
        · dsimp only [orderingMachine]
          rw [hcursor]
          refine ⟨?_, fun hnone => absurd hnone hsome⟩
          rw [h.last, acceptedOn, acceptedOn, List.zip_append h.lengths, List.filterMap_append]
          simp [hresult]
      · cases hcall'

theorem cursors_run (maxChannels maxPending maxGap : Nat) (calls : List ChannelCall) :
    (orderingMachine.exec (new maxChannels maxPending maxGap) calls).Cursors calls
      (orderingMachine.outputs (new maxChannels maxPending maxGap) calls) := by
  refine orderingMachine.run_invariant (P := fun calls results o => Cursors calls results o)
    ?_ (fun _ _ _ call h => h.step call) calls
  refine ⟨rfl, fun c => ?_, fun _ _ => rfl⟩
  rw [channelState_new]
  rfl

/-- Nothing accepted on a channel means that nothing was offered to it. -/
theorem Cursors.sequencedOn_eq_nil (h : o.Cursors calls results) {c : UInt8} :
    sequencedOn c calls = [] ↔ (o.channelState c).lastSequence = none := by
  refine ⟨fun hnone => ?_, h.first c⟩
  rw [h.last c, List.getLast?_eq_none_iff, acceptedOn, List.filterMap_eq_nil_iff]
  rintro ⟨call, r⟩ hmem
  dsimp only
  split
  · exact List.filterMap_eq_nil_iff.mp hnone call (List.of_mem_zip hmem).1
  · rfl

/-- A sequenced frame is judged as it should be, after every list of calls, exactly if
    its index is not ahead of the last accepted one by more than the gap but less than
    half of the circle. -/
theorem accepts_newer_iff (maxChannels maxPending : Nat) {maxGap : Nat} (hgap : maxGap < 2 ^ 23)
    (calls : List ChannelCall) {f : Frame} {index : Sequence24} {c : UInt8}
    (hindex : f.sequenceIndex = some index) (hchannel : f.orderingChannel.getD 0 = c) :
    (((orderingMachine.exec (new maxChannels maxPending maxGap) calls).handleSequenced f).1
        = .accept ↔
      NewerOn c calls (orderingMachine.outputs (new maxChannels maxPending maxGap) calls)
        index) ↔
    ∀ last,
      (acceptedOn c calls
        (orderingMachine.outputs (new maxChannels maxPending maxGap) calls)).getLast?
        = some last →
      ¬ (max maxGap 1 < last.distanceTo index ∧ last.distanceTo index < 2 ^ 23) := by
  have hcursors := cursors_run maxChannels maxPending maxGap calls
  obtain ⟨hlimit, -⟩ := limits_run maxChannels maxPending maxGap calls
  rw [handleSequenced_accept_iff _ hindex, hchannel, NewerOn, hcursors.sequencedOn_eq_nil,
    hcursors.last c, hlimit]
  cases (acceptedOn c calls
    (orderingMachine.outputs (new maxChannels maxPending maxGap) calls)).getLast? with
  | none => simp
  | some last =>
    simp only [Option.some.injEq, forall_eq', reduceCtorEq, false_or, exists_eq_left']
    omega

/-- A sequenced frame of channel 0. -/
def sequencedFrame (index : Nat) : Frame :=
  { header := FrameHeader.new .unreliableSequenced false false
    bitLength := 0
    reliableIndex := none
    sequenceIndex := some (Sequence24.new index)
    orderingIndex := some (Sequence24.new index)
    orderingChannel := some 0
    split := none
    payload := [] }

/-- With a gap of 2, the loss of the frames 1 and 2 silences the channel. -/
theorem burst_silences :
    orderingMachine.outputs (new 1 1 2)
      [.handleSequenced (sequencedFrame 0), .handleSequenced (sequencedFrame 3),
        .handleSequenced (sequencedFrame 4), .handleSequenced (sequencedFrame 5)]
      = [.sequenced .accept, .sequenced .dropStale, .sequenced .dropStale,
          .sequenced .dropStale] := by
  decide +kernel

theorem accepts_newer_iff_within_gap :
    ((orderingMachine.exec (new 1 1 2) [.handleSequenced (sequencedFrame 0)]).handleSequenced
        (sequencedFrame 2)).1 = .accept ↔
      NewerOn 0 [.handleSequenced (sequencedFrame 0)]
        (orderingMachine.outputs (new 1 1 2) [.handleSequenced (sequencedFrame 0)])
        (Sequence24.new 2) :=
  (accepts_newer_iff 1 1 (by decide) [.handleSequenced (sequencedFrame 0)]
    (f := sequencedFrame 2) rfl rfl).mpr (by decide +kernel)

end OrderingChannels

end Raknet
