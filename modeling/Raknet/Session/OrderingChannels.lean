-- SUMMARY: Per-channel ordering and sequencing of received frames.
import Raknet.Lib.Containers
import Raknet.Protocol.Frame

namespace Raknet

structure ChannelState where
  expectedOrder : Sequence24
  lastSequence : Option Sequence24
  pendingOrdered : AssocMap Nat Frame

namespace ChannelState

/-- `ChannelState::default`. -/
def initial : ChannelState :=
  { expectedOrder := Sequence24.new 0, lastSequence := none, pendingOrdered := ∅ }

instance : Inhabited ChannelState := ⟨initial⟩

end ChannelState

inductive OrderedResult where
  | ready (frames : List Frame)
  | buffered
  | droppedStale
  | droppedBufferFull
deriving DecidableEq, Repr

/-- The frames an ordered frame lets go. -/
def OrderedResult.released : OrderedResult → List Frame
  | .ready frames => frames
  | .buffered | .droppedStale | .droppedBufferFull => []

inductive SequencedResult where
  | accept
  | dropMissingSequence
  | dropStale
deriving DecidableEq, Repr

structure OrderingChannels where
  channels : List ChannelState
  maxPendingPerChannel : Nat
  maxGap : Nat

namespace OrderingChannels

def new (maxChannels maxPendingPerChannel maxGap : Nat) : OrderingChannels :=
  { channels := List.replicate (max maxChannels 1) ChannelState.initial
    maxPendingPerChannel := max maxPendingPerChannel 1
    maxGap := max maxGap 1 }

/-- The state `channel_state_mut` gives access to. -/
def channelState (o : OrderingChannels) (channel : UInt8) : ChannelState :=
  o.channels.getD channel.toNat ChannelState.initial

/-- Write a channel back, with the growth of `channel_state_mut`. -/
def setChannelState (o : OrderingChannels) (channel : UInt8) (state : ChannelState) :
    OrderingChannels :=
  { o with channels := o.channels.setGrow channel.toNat ChannelState.initial state }

/-- The drain loop of `handle_ordered`: release pending frames as long as the
    expected one is there. Every round removes an entry, so `fuel` is the
    number of entries. -/
def drain : Nat → ChannelState → List Frame → List Frame × ChannelState
  | 0, state, ready => (ready, state)
  | fuel + 1, state, ready =>
    match state.pendingOrdered.lookup state.expectedOrder.value with
    | none => (ready, state)
    | some next =>
      drain fuel
        { state with
          pendingOrdered := state.pendingOrdered.erase state.expectedOrder.value
          expectedOrder := state.expectedOrder.next }
        (ready ++ [next])

def handleOrdered (o : OrderingChannels) (frame : Frame) : OrderedResult × OrderingChannels :=
  match frame.orderingIndex with
  | none => (.ready [frame], o)
  | some orderIdx =>
    let channel := frame.orderingChannel.getD 0
    let state := o.channelState channel
    let distance := state.expectedOrder.distanceTo orderIdx
    if distance = 0 then
      let (ready, state) := drain state.pendingOrdered.size
        { state with expectedOrder := state.expectedOrder.next } [frame]
      (.ready ready, o.setChannelState channel state)
    else if distance > o.maxGap then
      (.droppedStale, o.setChannelState channel state)
    else if state.pendingOrdered.size ≥ o.maxPendingPerChannel then
      (.droppedBufferFull, o.setChannelState channel state)
    else
      (.buffered, o.setChannelState channel
        { state with
          pendingOrdered := AssocMap.insertIfNew orderIdx.value frame state.pendingOrdered })

def handleSequenced (o : OrderingChannels) (frame : Frame) : SequencedResult × OrderingChannels :=
  match frame.sequenceIndex with
  | none => (.dropMissingSequence, o)
  | some sequenceIdx =>
    let channel := frame.orderingChannel.getD 0
    let state := o.channelState channel
    let stale := match state.lastSequence with
      | none => false
      | some last =>
        let distance := last.distanceTo sequenceIdx
        distance = 0 || distance > o.maxGap
    if stale then
      (.dropStale, o.setChannelState channel state)
    else
      (.accept, o.setChannelState channel { state with lastSequence := some sequenceIdx })

/-- What an ordered frame with an index does, seen from the state of its
    channel. -/
theorem handleOrdered_cases (o : OrderingChannels) {frame : Frame} {index : Sequence24}
    (h : frame.orderingIndex = some index) {channel : UInt8} {state : ChannelState}
    (hchannel : frame.orderingChannel.getD 0 = channel) (hstate : o.channelState channel = state) :
    (state.expectedOrder.distanceTo index = 0 ∧ ∃ ready state',
      drain state.pendingOrdered.size { state with expectedOrder := state.expectedOrder.next }
        [frame] = (ready, state') ∧
      o.handleOrdered frame = (.ready ready, o.setChannelState channel state')) ∨
    (o.handleOrdered frame = (.droppedStale, o.setChannelState channel state)) ∨
    (o.handleOrdered frame = (.droppedBufferFull, o.setChannelState channel state)) ∨
    (0 < state.expectedOrder.distanceTo index ∧ state.expectedOrder.distanceTo index ≤ o.maxGap ∧
      state.pendingOrdered.size < o.maxPendingPerChannel ∧
      o.handleOrdered frame = (.buffered, o.setChannelState channel
        { state with
          pendingOrdered := AssocMap.insertIfNew index.value frame state.pendingOrdered })) := by
  subst hchannel hstate
  unfold handleOrdered
  rw [h]
  dsimp only
  split
  · next hzero => exact .inl ⟨hzero, _, _, rfl, rfl⟩
  · next hpos =>
    split
    · exact .inr (.inl rfl)
    · next hgap =>
      split
      · exact .inr (.inr (.inl rfl))
      · next hroom =>
        exact .inr (.inr (.inr
          ⟨Nat.pos_of_ne_zero hpos, Nat.le_of_not_lt hgap, Nat.lt_of_not_le hroom, rfl⟩))

theorem drain_lastSequence (fuel : Nat) (state : ChannelState) (ready : List Frame) :
    (drain fuel state ready).2.lastSequence = state.lastSequence := by
  induction fuel generalizing state ready with
  | zero => rfl
  | succ fuel ih =>
    unfold drain
    split
    · rfl
    · exact ih _ _

/-- An ordered frame with an index only touches its own channel, and not the
    sequencing cursor there. -/
theorem handleOrdered_eq (o : OrderingChannels) {frame : Frame} {index : Sequence24}
    (h : frame.orderingIndex = some index) :
    ∃ state : ChannelState,
      (o.handleOrdered frame).2 = o.setChannelState (frame.orderingChannel.getD 0) state ∧
      state.lastSequence = (o.channelState (frame.orderingChannel.getD 0)).lastSequence := by
  unfold handleOrdered
  rw [h]
  dsimp only
  split
  · exact ⟨_, rfl, drain_lastSequence _ _ _⟩
  · split
    · exact ⟨_, rfl, rfl⟩
    · split
      · exact ⟨_, rfl, rfl⟩
      · exact ⟨_, rfl, rfl⟩

/-- A sequenced frame only moves the sequencing cursor of its channel. -/
theorem handleSequenced_eq (o : OrderingChannels) (frame : Frame) :
    (o.handleSequenced frame).2 = o ∨
    ∃ last, (o.handleSequenced frame).2 =
      o.setChannelState (frame.orderingChannel.getD 0)
        { o.channelState (frame.orderingChannel.getD 0) with lastSequence := last } := by
  unfold handleSequenced
  split
  · exact .inl rfl
  · dsimp only
    generalize (match (o.channelState (frame.orderingChannel.getD 0)).lastSequence with
      | none => false
      | some last => _) = stale
    cases stale with
    | true => exact .inr ⟨_, rfl⟩
    | false => exact .inr ⟨_, rfl⟩

@[simp] theorem channelState_setChannelState (o : OrderingChannels) (c c' : UInt8)
    (state : ChannelState) :
    (o.setChannelState c state).channelState c' = if c' = c then state else o.channelState c' := by
  simp only [channelState, setChannelState, List.getD_setGrow, UInt8.toNat_inj]

theorem channelState_new (maxChannels maxPending maxGap : Nat) (c : UInt8) :
    (new maxChannels maxPending maxGap).channelState c = ChannelState.initial := by
  simp only [channelState, new, List.getD_eq_getElem?_getD, List.getElem?_replicate]
  split <;> rfl

end OrderingChannels

end Raknet
