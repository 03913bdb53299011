-- SUMMARY: When the ordering indices of the sender match the cursor of the receiver on a channel with mixed traffic.
import Raknet.Send.Framing

/-!
# Ordered and sequenced traffic on one channel

A sequenced payload takes an ordering index of its channel as well. The
receiver moves its ordering cursor for ordered frames only, so after a
sequenced payload the ordered frames of the channel are one index ahead of the
cursor and wait for a frame that never comes. The two sides agree again only
when the sequenced payloads fill a whole turn of the index.
-/

namespace Raknet

/-! ## One channel, both sides -/

structure ChannelPayload where
  payload : Bytes
  reliability : Reliability
  priority : RakPriority
  receiptId : Option UInt64

inductive ChannelResult where
  | sequenced (result : SequencedResult)
  | ordered (result : OrderedResult)
  | direct
deriving DecidableEq

/-- The dispatch of `handle_frames` on the delivery class. -/
def OrderingChannels.receive (o : OrderingChannels) (frame : Frame) :
    ChannelResult × OrderingChannels :=
  if frame.header.reliability.isSequenced then
    let (result, o) := o.handleSequenced frame
    (.sequenced result, o)
  else if frame.header.reliability.isOrdered then
    let (result, o) := o.handleOrdered frame
    (.ordered result, o)
  else
    (.direct, o)

/-- Each frame with what became of it. -/
def OrderingChannels.receiveAll : OrderingChannels → List Frame → List (Frame × ChannelResult)
  | _, [] => []
  | o, frame :: rest => (frame, (o.receive frame).1) :: receiveAll (o.receive frame).2 rest

/-- A sequenced frame is accepted, an ordered one is handed on at once. -/
def Released : Frame × ChannelResult → Prop
  | (_, .sequenced result) => result = .accept
  | (frame, .ordered (.ready ready)) => frame ∈ ready
  | _ => False

/-- Every ordered payload comes after a multiple of `2 ^ 24` sequenced ones,
    where `sequenced` of them went before the list. -/
def Aligned (sequenced : Nat) : List ChannelPayload → Prop
  | [] => True
  | p :: rest =>
    if p.reliability.isSequenced then Aligned (sequenced + 1) rest
    else sequenced % 16777216 = 0 ∧ Aligned sequenced rest

variable {F H : Type}

/-- `releaseFrame` hands a frame to the channel in this way. -/
theorem Session.releaseFrame_receive (s : Session F H) (frame : Frame) :
    (s.releaseFrame frame).2.ordering = (s.ordering.receive frame).2 := by
  unfold Session.releaseFrame OrderingChannels.receive
  split
  · generalize s.ordering.handleSequenced frame = r
    obtain ⟨result, o⟩ := r
    cases result <;> rfl
  · split
    · generalize s.ordering.handleOrdered frame = r
      obtain ⟨result, o⟩ := r
      cases result <;> rfl
    · rfl

/-- The frames `enqueue_single_frame` makes of the payloads of a channel. -/
def Session.enqueueAll [MinHeap H QueuedFrame QueuedFrame.weight] (channel : UInt8) :
    List ChannelPayload → Session F H → List Frame
  | [], _ => []
  | p :: rest, s =>
    let (_, made, s) :=
      s.enqueueSingleFrame p.payload p.reliability channel p.priority p.receiptId
    made.map QueuedFrame.frame ++ enqueueAll channel rest s

/-! ## Counters against cursors -/

/-- The sender has used `b` sequence indices of the channel and the receiver
    has seen them. -/
structure SequencingInStep (w : WriteIndices) (o : OrderingChannels) (c : UInt8) (b : Nat) :
    Prop where
  gap : 1 ≤ o.maxGap
  index : w.sequencing c = Sequence24.new b
  last : ∀ last, (o.channelState c).lastSequence = some last → last.next = Sequence24.new b

/-- The sender has used `a + b` ordering indices of the channel, `b` of them
    for sequenced payloads; the receiver has released the `a` ordered ones. -/
structure OrderingInStep (w : WriteIndices) (o : OrderingChannels) (c : UInt8) (a b : Nat) :
    Prop where
  index : w.ordering c = Sequence24.new (a + b)
  expected : (o.channelState c).expectedOrder = Sequence24.new a
  empty : (o.channelState c).pendingOrdered.size = 0

theorem Sequence24.distanceTo_new_add (a b : Nat) :
    (Sequence24.new a).distanceTo (Sequence24.new (a + b)) = b % 16777216 := by
  have h := Sequence24.distanceTo_cases (Sequence24.new a) (Sequence24.new (a + b))
  simp only [Sequence24.value_new] at h
  omega

theorem receive_sequenced {w : WriteIndices} {o : OrderingChannels} {c : UInt8} {b : Nat}
    (payload : Bytes) {reliability : Reliability} (hseq : reliability.isSequenced = true)
    (hs : SequencingInStep w o c b) :
    (o.receive (w.singleFrame payload reliability c)).1 = .sequenced .accept ∧
    SequencingInStep (w.afterSingle reliability c)
      (o.receive (w.singleFrame payload reliability c)).2 c (b + 1) ∧
    ∀ a, OrderingInStep w o c a b → OrderingInStep (w.afterSingle reliability c)
      (o.receive (w.singleFrame payload reliability c)).2 c a (b + 1) := by
  -- The new index is one above the last accepted one.
  have hfresh : ∀ last, (o.channelState c).lastSequence = some last →
      last.distanceTo (Sequence24.new b) = 1 := by
    intro last hlast
    have h := Sequence24.distanceTo_new_add last.value 1
    rw [← Sequence24.next_new, Sequence24.new_value, hs.last last hlast] at h
    exact h
  have hreceive : o.receive (w.singleFrame payload reliability c) = (.sequenced .accept,
      o.setChannelState c
        { o.channelState c with lastSequence := some (Sequence24.new b) }) := by
    simp only [OrderingChannels.receive, OrderingChannels.handleSequenced,
      WriteIndices.singleFrame, WriteIndices.sequenceIndex, WriteIndices.orderingIndex,
      FrameHeader.new, hseq, Bool.or_true, if_true, hs.index, Option.map_some, Option.getD_some]
    cases hlast : (o.channelState c).lastSequence with
    | none => rfl
    | some last =>
      have hd := hfresh last hlast
      have hgap := hs.gap
      simp only [hd]
      rw [if_neg (by simp; omega)]
  rw [hreceive]
  have hordering : (w.afterSingle reliability c).ordering c = (w.ordering c).next := by
    simp [WriteIndices.afterSingle, WriteIndices.takeOrdering, hseq]
  have hsequencing : (w.afterSingle reliability c).sequencing c = (w.sequencing c).next := by
    simp [WriteIndices.afterSingle, WriteIndices.takeSequence, hseq]
  refine ⟨rfl, ⟨hs.gap, ?_, ?_⟩, fun a ha => ⟨?_, ?_, ?_⟩⟩
  · rw [hsequencing, hs.index, Sequence24.next_new]
  · intro last hlast
    simp only [OrderingChannels.channelState_setChannelState, if_true, Option.some.injEq] at hlast
    rw [← hlast, Sequence24.next_new]
  · rw [hordering, ha.index, Sequence24.next_new, Nat.add_assoc]
  · simpa using ha.expected
  · simpa using ha.empty

theorem receive_of_ordered {w : WriteIndices} {o : OrderingChannels} {c : UInt8} {payload : Bytes}
    {reliability : Reliability} (hord : reliability.isOrdered = true) :
    o.receive (w.singleFrame payload reliability c)
      = (.ordered (o.handleOrdered (w.singleFrame payload reliability c)).1,
          (o.handleOrdered (w.singleFrame payload reliability c)).2) := by
  have hseq := Reliability.not_sequenced_of_ordered hord
  simp [OrderingChannels.receive, WriteIndices.singleFrame, FrameHeader.new, hseq, hord]

theorem singleFrame_orderingIndex (w : WriteIndices) (c : UInt8) (payload : Bytes)
    {reliability : Reliability} (hord : reliability.isOrdered = true) :
    (w.singleFrame payload reliability c).orderingIndex = some (w.ordering c) := by
  simp [WriteIndices.singleFrame, WriteIndices.orderingIndex, hord]

theorem singleFrame_orderingChannel (w : WriteIndices) (c : UInt8) (payload : Bytes)
    {reliability : Reliability} (hord : reliability.isOrdered = true) :
    (w.singleFrame payload reliability c).orderingChannel.getD 0 = c := by
  simp [WriteIndices.singleFrame, WriteIndices.orderingIndex, hord]

/-- An ordered frame leaves the sequencing cursor alone, whatever became of it. -/
theorem receive_ordered_sequencing {w : WriteIndices} {o : OrderingChannels} {c : UInt8} {b : Nat}
    (payload : Bytes) {reliability : Reliability} (hord : reliability.isOrdered = true)
    (hs : SequencingInStep w o c b) :
    SequencingInStep (w.afterSingle reliability c)
      (o.receive (w.singleFrame payload reliability c)).2 c b := by
  have hseq := Reliability.not_sequenced_of_ordered hord
  obtain ⟨state, hstate, hlast⟩ := o.handleOrdered_eq (singleFrame_orderingIndex w c payload hord)
  rw [singleFrame_orderingChannel w c payload hord] at hstate hlast
  have hsequencing : (w.afterSingle reliability c).sequencing c = w.sequencing c := by
    simp [WriteIndices.afterSingle, WriteIndices.takeSequence, hseq]
  rw [receive_of_ordered hord, hstate]
  refine ⟨hs.gap, hsequencing.trans hs.index, fun last h => hs.last last ?_⟩
  simpa [hlast] using h

/-- An ordered frame is released if the two sides agree, and waits otherwise. -/
theorem receive_ordered {w : WriteIndices} {o : OrderingChannels} {c : UInt8} {a b : Nat}
    (payload : Bytes) {reliability : Reliability} (hord : reliability.isOrdered = true)
    (h : OrderingInStep w o c a b) :
    (b % 16777216 = 0 →
      (o.receive (w.singleFrame payload reliability c)).1
        = .ordered (.ready [w.singleFrame payload reliability c]) ∧
      OrderingInStep (w.afterSingle reliability c)
        (o.receive (w.singleFrame payload reliability c)).2 c (a + 1) b) ∧
    (b % 16777216 ≠ 0 → ∀ ready,
      (o.receive (w.singleFrame payload reliability c)).1 ≠ .ordered (.ready ready)) := by
  have hdist := Sequence24.distanceTo_new_add a b
  have hindex := singleFrame_orderingIndex w c payload hord
  rw [h.index] at hindex
  have hchannel := singleFrame_orderingChannel w c payload hord
  have hordering : (w.afterSingle reliability c).ordering c = (w.ordering c).next := by
    simp [WriteIndices.afterSingle, WriteIndices.takeOrdering, hord]
  rw [receive_of_ordered hord]
  unfold OrderingChannels.handleOrdered
  simp only [hindex, hchannel, h.expected, hdist, h.empty, OrderingChannels.drain]
  constructor
  · intro hb
    rw [if_pos hb]
    refine ⟨rfl, ?_, ?_, ?_⟩
    · rw [hordering, h.index, Sequence24.next_new, Nat.add_right_comm]
    · simp [Sequence24.next_new]
    · simpa using h.empty
  · intro hb ready
    rw [if_neg hb]
    split
    · simp
    · split
      · simp
      · simp

/-! ## Whole lists -/

section Lists

variable [MinHeap H QueuedFrame QueuedFrame.weight]

theorem Session.enqueueAll_cons (channel : UInt8) (p : ChannelPayload)
    (rest : List ChannelPayload) (s : Session F H) :
    ∃ s' : Session F H, s'.writeIndices = s.writeIndices.afterSingle p.reliability channel ∧
      s.enqueueAll channel (p :: rest)
        = s.writeIndices.singleFrame p.payload p.reliability channel
            :: s'.enqueueAll channel rest := by
  obtain ⟨hmade, hindices⟩ :=
    s.enqueueSingleFrame_made p.payload p.reliability channel p.priority p.receiptId
  refine ⟨_, hindices, ?_⟩
  simp only [Session.enqueueAll, hmade]
  rfl

/-- Sequenced frames are accepted in every mix. -/
theorem receiveAll_sequenced {items : List ChannelPayload} {c : UInt8} {b : Nat}
    {s : Session F H} {o : OrderingChannels}
    (hkinds : ∀ p ∈ items, p.reliability.isOrdered = true ∨ p.reliability.isSequenced = true)
    (hs : SequencingInStep s.writeIndices o c b) :
    ∀ r ∈ o.receiveAll (s.enqueueAll c items),
      r.1.header.reliability.isSequenced = true → r.2 = .sequenced .accept := by
  induction items generalizing s o b with
  | nil => intro r hr; cases hr
  | cons p rest ih =>
    obtain ⟨s', hw, heq⟩ := s.enqueueAll_cons c p rest
    have hkinds' := fun p' hp' => hkinds p' (List.mem_cons_of_mem p hp')
    rw [heq]
    intro r hr hrseq
    rcases hkinds p List.mem_cons_self with hord | hseq
    · rcases List.mem_cons.mp hr with rfl | hr
      · have hseq : p.reliability.isSequenced = true := hrseq
        rw [Reliability.not_sequenced_of_ordered hord] at hseq
        cases hseq
      · exact ih hkinds' (hw ▸ receive_ordered_sequencing p.payload hord hs) r hr hrseq
    · obtain ⟨haccept, hs', -⟩ := receive_sequenced p.payload hseq hs
      rcases List.mem_cons.mp hr with rfl | hr
      · exact haccept
      · exact ih hkinds' (hw ▸ hs') r hr hrseq

theorem receiveAll_released {items : List ChannelPayload} {c : UInt8} {a b : Nat}
    {s : Session F H} {o : OrderingChannels}
    (hkinds : ∀ p ∈ items, p.reliability.isOrdered = true ∨ p.reliability.isSequenced = true)
    (hs : SequencingInStep s.writeIndices o c b) (ho : OrderingInStep s.writeIndices o c a b) :
    (∀ r ∈ o.receiveAll (s.enqueueAll c items), Released r) ↔ Aligned b items := by
  induction items generalizing s o a b with
  | nil => exact ⟨fun _ => trivial, fun _ r hr => by cases hr⟩
  | cons p rest ih =>
    obtain ⟨s', hw, heq⟩ := s.enqueueAll_cons c p rest
    have hkinds' := fun p' hp' => hkinds p' (List.mem_cons_of_mem p hp')
    rw [heq, OrderingChannels.receiveAll, List.forall_mem_cons]
    rcases hkinds p List.mem_cons_self with hord | hseq
    · have hnot := Reliability.not_sequenced_of_ordered hord
      obtain ⟨hready, hwait⟩ := receive_ordered p.payload hord ho
      have hs' := receive_ordered_sequencing p.payload hord hs
      simp only [Aligned, hnot, Bool.false_eq_true, if_false]
      by_cases hb : b % 16777216 = 0
      · obtain ⟨hresult, ho'⟩ := hready hb
        rw [ih hkinds' (hw ▸ hs') (hw ▸ ho'), hresult]
        simp [Released, hb]
      · -- The frame waits, and the list is not aligned at it.
        refine ⟨fun h => absurd h.1 ?_, fun h => absurd h.1 hb⟩
        have hwait := hwait hb
        rw [receive_of_ordered hord] at hwait ⊢
        dsimp only at hwait ⊢
        generalize (o.handleOrdered _).1 = result at hwait ⊢
        cases result with
        | ready ready => exact absurd rfl (hwait ready)
        | _ => exact id
    · obtain ⟨haccept, hs', ho'⟩ := receive_sequenced p.payload hseq hs
      rw [ih hkinds' (hw ▸ hs') (hw ▸ ho' a ho), haccept]
      simp [Released, Aligned, hseq]

/-- On a fresh channel every sequenced frame is accepted, and every ordered
    frame is released at once exactly if each ordered payload comes after a
    multiple of `2 ^ 24` sequenced ones. -/
theorem mixed_channel_released_iff [F64 F] (mtu : Nat) (tunables : SessionTunables F)
    (now : Instant) (maxChannels maxPending maxGap : Nat) (channel : UInt8)
    (items : List ChannelPayload)
    (hkinds : ∀ p ∈ items, p.reliability.isOrdered = true ∨ p.reliability.isSequenced = true) :
    (∀ r ∈ (OrderingChannels.new maxChannels maxPending maxGap).receiveAll
        (Session.enqueueAll channel items (Session.withTunables mtu tunables now : Session F H)),
      r.1.header.reliability.isSequenced = true → r.2 = .sequenced .accept) ∧
    ((∀ r ∈ (OrderingChannels.new maxChannels maxPending maxGap).receiveAll
        (Session.enqueueAll channel items (Session.withTunables mtu tunables now : Session F H)),
      Released r) ↔ Aligned 0 items) := by
  have hsender : ∀ c : UInt8, (List.replicate 16 (Sequence24.new 0)).getD c.toNat
      (Sequence24.new 0) = Sequence24.new 0 := by
    intro c
    simp only [List.getD_eq_getElem?_getD, List.getElem?_replicate]
    split <;> rfl
  have hchannel := OrderingChannels.channelState_new maxChannels maxPending maxGap channel
  have hs : SequencingInStep (Session.withTunables mtu tunables now : Session F H).writeIndices
      (OrderingChannels.new maxChannels maxPending maxGap) channel 0 := by
    refine ⟨Nat.le_max_right _ _, hsender channel, fun last hlast => ?_⟩
    rw [hchannel] at hlast
    cases hlast
  have ho : OrderingInStep (Session.withTunables mtu tunables now : Session F H).writeIndices
      (OrderingChannels.new maxChannels maxPending maxGap) channel 0 0 := by
    refine ⟨hsender channel, ?_, ?_⟩
    · rw [hchannel]
      rfl
    · rw [hchannel]
      rfl
  exact ⟨receiveAll_sequenced hkinds hs, receiveAll_released hkinds hs ho⟩

end Lists

/-- Two ordered payloads and then a sequenced one are all released. -/
theorem mixed_channel_released_iff_ordered_first :
    Aligned 0 [⟨[1], .reliableOrdered, .high, none⟩, ⟨[2], .reliableOrdered, .high, none⟩,
      ⟨[3], .unreliableSequenced, .high, none⟩] ∧
    ∀ r ∈ (OrderingChannels.new 1 1 1).receiveAll (Session.enqueueAll 3
        [⟨[1], .reliableOrdered, .high, none⟩, ⟨[2], .reliableOrdered, .high, none⟩,
          ⟨[3], .unreliableSequenced, .high, none⟩]
        (Session.withTunables 100 SessionTunables.standard 0 : ConcreteSession)),
      Released r := by
  have haligned : Aligned 0 [⟨[1], .reliableOrdered, .high, none⟩,
      ⟨[2], .reliableOrdered, .high, none⟩, ⟨[3], .unreliableSequenced, .high, none⟩] :=
    ⟨rfl, rfl, trivial⟩
  exact ⟨haligned, (mixed_channel_released_iff (F := ℚ)
    (H := SortedHeap QueuedFrame QueuedFrame.weight) 100 SessionTunables.standard 0 1 1 1 3 _
    (by decide)).2.mpr haligned⟩

/-- An ordered payload behind a sequenced one is buffered: it has ordering
    index 1 and the receiver waits for 0. -/
theorem ordered_behind_sequenced_buffered :
    ((OrderingChannels.new 16 4096 4096).receiveAll (Session.enqueueAll 3
        [⟨[1], .unreliableSequenced, .high, none⟩, ⟨[2], .reliableOrdered, .high, none⟩]
        (Session.withTunables 1400 SessionTunables.standard 0 : ConcreteSession))).map Prod.snd
      = [.sequenced .accept, .ordered .buffered] := by
  decide +kernel

end Raknet
