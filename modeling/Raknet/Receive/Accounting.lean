-- SUMMARY: What becomes of every frame of an accepted datagram.
import Raknet.Receive.Duplicates

/-!
# Where the frames go

Each frame of a datagram that is ingested without a failure is returned, waits
in an ordering channel, waits in or completes a split compound, is refused by a
guard of the ordering channels, or is dropped by the duplicate filter. What
waits after its own turn may leave with a later frame of the same datagram; it
is then among the returned frames, so the statement is about the state after
the whole datagram.
-/

namespace Raknet

/-! ## Ordering channels -/

namespace OrderingChannels

/-- The frame waits in the pending map of a channel. -/
def Pending (o : OrderingChannels) (frame : Frame) : Prop :=
  ∃ channel index, (o.channelState channel).pendingOrdered.lookup index = some frame

/-- The guards of the ordering channels that throw a frame away. -/
inductive Refuses (o : OrderingChannels) (frame : Frame) : Prop where
  /-- A sequenced frame without an index, or not ahead of the last one. -/
  | sequenced (hclass : frame.header.reliability.isSequenced = true)
      (hresult : (o.handleSequenced frame).1 = .dropMissingSequence ∨
        (o.handleSequenced frame).1 = .dropStale)
  /-- An ordered frame outside the gap or against a full buffer. -/
  | ordered (hclass : frame.header.reliability.isOrdered = true)
      (hresult : (o.handleOrdered frame).1 = .droppedStale ∨
        (o.handleOrdered frame).1 = .droppedBufferFull)
  /-- An ordered frame whose index is pending already. -/
  | occupied (hclass : frame.header.reliability.isOrdered = true) {index : Sequence24}
      {other : Frame} (hindex : frame.orderingIndex = some index)
      (hother : (o.channelState (frame.orderingChannel.getD 0)).pendingOrdered.lookup index.value
        = some other)

/-- Draining moves pending frames to the end of the ready ones. -/
theorem drain_keeps (fuel : Nat) (state : ChannelState) (ready : List Frame) :
    (∀ frame ∈ ready, frame ∈ (drain fuel state ready).1) ∧
    ∀ index frame, state.pendingOrdered.lookup index = some frame →
      frame ∈ (drain fuel state ready).1 ∨
      (drain fuel state ready).2.pendingOrdered.lookup index = some frame := by
  induction fuel generalizing state ready with
  | zero => exact ⟨fun _ h => h, fun _ _ h => .inr h⟩
  | succ fuel ih =>
    unfold drain
    split
    · exact ⟨fun _ h => h, fun _ _ h => .inr h⟩
    · next next hnext =>
      obtain ⟨hready, hpending⟩ := ih
        { state with
          pendingOrdered := state.pendingOrdered.erase state.expectedOrder.value
          expectedOrder := state.expectedOrder.next } (ready ++ [next])
      refine ⟨fun frame h => hready frame (List.mem_append_left _ h), fun index frame h => ?_⟩
      rcases eq_or_ne index state.expectedOrder.value with rfl | hne
      · -- The expected frame leaves in this round.
        obtain rfl := Option.some.inj (hnext.symm.trans h)
        exact .inl (hready next (List.mem_append_right _ (List.mem_singleton_self next)))
      · refine hpending index frame ?_
        rw [AssocMap.lookup_erase_eq, if_neg hne]
        exact h

/-- A channel that loses no pending frame loses none for the others. -/
theorem Pending.setChannelState {o : OrderingChannels} {frame : Frame} (h : o.Pending frame)
    (channel : UInt8) (state : ChannelState) {out : List Frame}
    (hkeep : ∀ index, (o.channelState channel).pendingOrdered.lookup index = some frame →
      frame ∈ out ∨ state.pendingOrdered.lookup index = some frame) :
    frame ∈ out ∨ (o.setChannelState channel state).Pending frame := by
  obtain ⟨channel', index, hlookup⟩ := h
  rcases eq_or_ne channel' channel with rfl | hne
  · rcases hkeep index hlookup with hout | hstill
    · exact .inl hout
    · refine .inr ⟨channel', index, ?_⟩
      rw [channelState_setChannelState, if_pos rfl]
      exact hstill
  · refine .inr ⟨channel', index, ?_⟩
    rw [channelState_setChannelState, if_neg hne]
    exact hlookup

/-- No pending frame is lost to an ordered frame, -/
theorem Pending.handleOrdered {o : OrderingChannels} {waiting : Frame} (h : o.Pending waiting)
    (frame : Frame) :
    waiting ∈ (o.handleOrdered frame).1.released ∨
    (o.handleOrdered frame).2.Pending waiting := by
  cases hindex : frame.orderingIndex with
  | none =>
    simp only [OrderingChannels.handleOrdered, hindex]
    exact .inr h
  | some index =>
    rcases o.handleOrdered_cases hindex rfl rfl with
      ⟨-, ready, state', hdrain, heq⟩ | heq | heq | ⟨-, -, -, heq⟩
    · rw [heq]
      refine h.setChannelState _ _ fun index' hlookup => ?_
      have hkept := (drain_keeps (o.channelState (frame.orderingChannel.getD 0)).pendingOrdered.size
        { o.channelState (frame.orderingChannel.getD 0) with
          expectedOrder := (o.channelState (frame.orderingChannel.getD 0)).expectedOrder.next }
        [frame]).2 index' waiting hlookup
      rw [hdrain] at hkept
      exact hkept
    · rw [heq]
      exact h.setChannelState _ _ fun _ => .inr
    · rw [heq]
      exact h.setChannelState _ _ fun _ => .inr
    · rw [heq]
      refine h.setChannelState _ _ fun index' hlookup => .inr ?_
      rw [AssocMap.lookup_insertIfNew]
      split
      · next hsame => rw [← hsame, hlookup, Option.getD_some]
      · exact hlookup

/-- nor to a sequenced one. -/
theorem Pending.handleSequenced {o : OrderingChannels} {waiting : Frame} (h : o.Pending waiting)
    (frame : Frame) : (o.handleSequenced frame).2.Pending waiting := by
  rcases o.handleSequenced_eq frame with heq | ⟨last, heq⟩
  · rw [heq]
    exact h
  · rw [heq]
    refine (h.setChannelState (frame.orderingChannel.getD 0)
      { o.channelState (frame.orderingChannel.getD 0) with lastSequence := last }
      ?_).resolve_left List.not_mem_nil
    exact fun _ hlookup => .inr hlookup

end OrderingChannels

/-! ## Compounds -/

namespace SplitAssembler

/-- The compound of `split` has `part` in the slot of `split`. -/
def HoldsPart (a : SplitAssembler) (split : SplitInfo) (part : Bytes) : Prop :=
  ∃ entry, a.entries.lookup split.partId = some entry ∧
    entry.parts[split.partIndex.toNat]? = some (some part)

/-- The compound of `split` has the part and does not expire at `now`. -/
def HoldsAt (a : SplitAssembler) (now : Instant) (split : SplitInfo) (part : Bytes) : Prop :=
  (a.prune now).2.HoldsPart split part

/-- A complete frame was put together with `part` in the slot of `split`. -/
def AssembledWith (complete : Frame) (split : SplitInfo) (part : Bytes) : Prop :=
  ∃ ps : List Bytes, complete.payload = ps.flatten ∧
    ps[split.partIndex.toNat]? = some part

theorem HoldsAt.holdsPart {a : SplitAssembler} {now : Instant} {split : SplitInfo} {part : Bytes}
    (h : a.HoldsAt now split part) : a.HoldsPart split part := by
  obtain ⟨entry, hlookup, hslot⟩ := h
  exact ⟨entry, (lookup_prune.mp hlookup).1, hslot⟩

/-- What does not expire at `now` is still there after an expiry at `now`. -/
theorem HoldsAt.prune {a : SplitAssembler} {now : Instant} {split : SplitInfo} {part : Bytes}
    (h : a.HoldsAt now split part) : (a.prune now).2.HoldsAt now split part := by
  obtain ⟨entry, hlookup, hslot⟩ := h
  exact ⟨entry, lookup_prune.mpr ⟨hlookup, (lookup_prune.mp hlookup).2⟩, hslot⟩

/-- A part in a compound that was updated at `now` does not expire at `now`. -/
theorem holdsAt_of_lookup {a : SplitAssembler} (httl : 0 < a.ttl) {now : Instant}
    {split : SplitInfo} {part : Bytes} {entry : SplitEntry}
    (hlookup : a.entries.lookup split.partId = some entry) (hupdate : entry.lastUpdate = now)
    (hslot : entry.parts[split.partIndex.toNat]? = some (some part)) :
    a.HoldsAt now split part := by
  refine ⟨entry, lookup_prune.mpr ⟨hlookup, ?_⟩, hslot⟩
  rw [hupdate, Nat.sub_self]
  exact httl

/-- The slot of another part keeps its content when a part is stored. -/
theorem store_slot {e : SplitEntry} {index other : Nat} {content : Bytes} (part : Bytes)
    (now : Instant) (hfree : e.parts[index]? = some none)
    (h : e.parts[other]? = some (some content)) :
    (e.store index part now).parts[other]? = some (some content) := by
  have hne : index ≠ other := by
    rintro rfl
    rw [hfree] at h
    cases h
  simp only [SplitEntry.store]
  rw [List.getElem?_set_ne hne]
  exact h

theorem store_own_slot {e : SplitEntry} {index : Nat} (part : Bytes) (now : Instant)
    (hfree : e.parts[index]? = some none) :
    (e.store index part now).parts[index]? = some (some part) := by
  obtain ⟨hlt, -⟩ := List.getElem?_eq_some_iff.mp hfree
  simp only [SplitEntry.store]
  rw [List.getElem?_set_self hlt]

/-- A part is held, or the frame that is added completes its compound. -/
theorem HoldsAt.add {a : SplitAssembler} (hwf : a.WellFormed) {now : Instant} {split : SplitInfo}
    {part : Bytes} (h : a.HoldsAt now split part) (frame : Frame) :
    (a.add frame now).2.HoldsAt now split part ∨
    ∃ complete, (a.add frame now).1 = .ok (some complete) ∧ frame.header.isSplit = true ∧
      AssembledWith complete split part := by
  have houtcome := add_outcome hwf frame now
  generalize a.add frame now = r at houtcome ⊢
  obtain ⟨entry, hlookup, hslot⟩ := h
  cases houtcome with
  | whole _ => exact .inl ⟨entry, hlookup, hslot⟩
  | refused _ _ => exact .inl (HoldsAt.prune ⟨entry, hlookup, hslot⟩)
  | repeated _ _ _ _ => exact .inl (HoldsAt.prune ⟨entry, hlookup, hslot⟩)
  | @stored _ split' entries hinfo hcount hfree hentries =>
    refine .inl ?_
    rcases eq_or_ne split.partId split'.partId with hid | hid
    · -- The other part of the same compound.
      have hentry : (a.prune now).2.entryFor frame split' now = entry := by
        rw [entryFor, ← hid, hlookup, Option.getD_some]
      rw [hentry] at hfree hentries
      refine holdsAt_of_lookup ?_ ((hentries split.partId).trans (if_pos hid)) rfl
        (store_slot frame.payload now hfree hslot)
      exact (hwf.prune now).ttl_pos
    · refine ⟨entry, lookup_prune.mpr ⟨?_, (lookup_prune.mp hlookup).2⟩, hslot⟩
      exact ((hentries split.partId).trans (if_neg hid)).trans hlookup
  | @completed hsplit split' entries ps hinfo hcount hfree hparts hentries =>
    rcases eq_or_ne split.partId split'.partId with hid | hid
    · have hentry : (a.prune now).2.entryFor frame split' now = entry := by
        rw [entryFor, ← hid, hlookup, Option.getD_some]
      rw [hentry] at hfree hparts ⊢
      have hkept := store_slot frame.payload now hfree hslot
      rw [hparts, List.getElem?_map] at hkept
      refine .inr ⟨_, rfl, hsplit, ps, rfl, ?_⟩
      simpa using hkept
    · refine .inl ⟨entry, lookup_prune.mpr ⟨?_, (lookup_prune.mp hlookup).2⟩, hslot⟩
      exact ((hentries split.partId).trans (if_neg hid)).trans hlookup

/-- A part that is not refused is held, or completes its compound. If its slot
    was filled before, the slot keeps what it has. -/
theorem add_part {a : SplitAssembler} (hwf : a.WellFormed) {frame : Frame} {now : Instant}
    (hsplit : frame.header.isSplit = true) {result : Option Frame}
    (hok : (a.add frame now).1 = .ok result) :
    ∃ split part, frame.split = some split ∧ (part = frame.payload ∨ a.HoldsPart split part) ∧
      ((a.add frame now).2.HoldsAt now split part ∨
        ∃ complete, result = some complete ∧ AssembledWith complete split part) := by
  have houtcome := add_outcome hwf frame now
  generalize a.add frame now = r at houtcome hok ⊢
  cases houtcome with
  | whole hwhole =>
    rw [hsplit] at hwhole
    cases hwhole
  | refused _ _ => cases hok
  | @repeated _ split entry part hinfo hentry hslot =>
    have hheld : a.HoldsAt now split part := ⟨entry, hentry, hslot⟩
    exact ⟨split, part, hinfo, .inr hheld.holdsPart, .inl hheld.prune⟩
  | @stored _ split entries hinfo hcount hfree hentries =>
    refine ⟨split, frame.payload, hinfo, .inl rfl, .inl ?_⟩
    refine holdsAt_of_lookup ?_ ((hentries split.partId).trans (if_pos rfl)) rfl
      (store_own_slot frame.payload now hfree)
    exact (hwf.prune now).ttl_pos
  | @completed _ split entries ps hinfo hcount hfree hparts hentries =>
    refine ⟨split, frame.payload, hinfo, .inl rfl, .inr ⟨_, (Except.ok.inj hok).symm, ps, rfl, ?_⟩⟩
    have hown := store_own_slot frame.payload now hfree
    rw [hparts, List.getElem?_map] at hown
    simpa using hown

end SplitAssembler

/-! ## Sessions -/

variable {F H : Type}

namespace Session

/-- The frame is among the returned ones or waits in an ordering channel. -/
def Kept (s : Session F H) (out : List Frame) (frame : Frame) : Prop :=
  frame ∈ out ∨ s.ordering.Pending frame

theorem Kept.append_left {s : Session F H} {out : List Frame} {frame : Frame} (before : List Frame)
    (h : s.Kept out frame) : s.Kept (before ++ out) frame :=
  h.imp_left (List.mem_append_right before)

theorem releaseFrame_waiting {s : Session F H} {waiting : Frame} (h : s.ordering.Pending waiting)
    (frame : Frame) : (s.releaseFrame frame).2.Kept (s.releaseFrame frame).1 waiting := by
  rcases s.releaseFrame_cases frame with ⟨-, hordering, -⟩ | ⟨-, -, hordering, hout⟩ | ⟨-, -, heq⟩
  · refine .inr ?_
    rw [hordering]
    exact h.handleSequenced frame
  · unfold Kept
    rw [hout, hordering]
    exact h.handleOrdered frame
  · rw [heq]
    exact .inr h

theorem afterAssembly_ordering (s : Session F H) (frame complete : Frame) (now : Instant) :
    (s.afterAssembly frame complete now).ordering = s.ordering := by
  obtain ⟨_, h⟩ := s.afterAssembly_eq frame complete now
  rw [h]

/-- What waits in a channel is kept by a frame, -/
theorem handleFrame_waiting {s s' : Session F H} {frame waiting : Frame} {now : Instant}
    {own : List Frame} (h : s.ordering.Pending waiting)
    (hok : s.handleFrame frame now = (.ok own, s')) : s'.Kept own waiting := by
  have houtcome := s.handleFrame_outcome frame now
  rw [hok] at houtcome
  cases houtcome with
  | duplicate _ _ => exact .inr h
  | held _ _ => exact .inr h
  | @released _ complete _ =>
    rw [← s.afterAssembly_ordering frame complete now] at h
    exact releaseFrame_waiting h complete

/-- and by all the frames of a datagram. -/
theorem handleFrames_waiting {now : Instant} {frames : List Frame} {s s' : Session F H}
    {waiting : Frame} {out : List Frame} (h : s.ordering.Pending waiting)
    (hok : handleFrames now frames s = (.ok out, s')) : s'.Kept out waiting := by
  induction frames generalizing s out with
  | nil =>
    cases hok
    exact .inr h
  | cons frame rest ih =>
    obtain ⟨own, s₁, more, hown, hmore, rfl⟩ := handleFrames_cons_ok hok
    rcases handleFrame_waiting h hown with hmem | hpending
    · exact .inl (List.mem_append_left more hmem)
    · exact (ih hpending hmore).append_left own

/-- What a frame is kept as after its own turn, it is kept as after the frames
    behind it. -/
theorem Kept.handleFrames {now : Instant} {frames : List Frame} {s s' : Session F H}
    {frame : Frame} {before after : List Frame} (h : s.Kept before frame)
    (hok : Session.handleFrames now frames s = (.ok after, s')) :
    s'.Kept (before ++ after) frame := by
  rcases h with hmem | hpending
  · exact .inl (List.mem_append_left after hmem)
  · exact (handleFrames_waiting hpending hok).append_left before

/-- While the frames are handled from `s` on, the ordering channels refuse
    `frame`. -/
def RefusedDuring (now : Instant) (frames : List Frame) (s : Session F H) (frame : Frame) : Prop :=
  ∃ pre last post before s₁, frames = pre ++ last :: post ∧
    handleFrames now pre s = (.ok before, s₁) ∧ s₁.ordering.Refuses frame

/-- The part of a compound is accounted for: the compound holds it, or was
    completed with it, and the complete frame is kept or refused. -/
def PartSettled (now : Instant) (frames : List Frame) (s s' : Session F H) (out : List Frame)
    (split : SplitInfo) (part : Bytes) : Prop :=
  s'.splitAssembler.HoldsPart split part ∨
  ∃ complete, SplitAssembler.AssembledWith complete split part ∧
    (s'.Kept out complete ∨ RefusedDuring now frames s complete)

theorem RefusedDuring.cons {now : Instant} {frame complete : Frame} {rest : List Frame}
    {s s₁ : Session F H} {own : List Frame} (hown : s.handleFrame frame now = (.ok own, s₁))
    (h : RefusedDuring now rest s₁ complete) : RefusedDuring now (frame :: rest) s complete := by
  obtain ⟨pre, last, post, before, s₂, rfl, hpre, hrefuses⟩ := h
  refine ⟨frame :: pre, last, post, own ++ before, s₂, rfl, ?_, hrefuses⟩
  simp only [handleFrames, hown, hpre]

theorem PartSettled.append_left {now : Instant} {frames : List Frame} {s s' : Session F H}
    {out : List Frame} {split : SplitInfo} {part : Bytes} (before : List Frame)
    (h : PartSettled now frames s s' out split part) :
    PartSettled now frames s s' (before ++ out) split part := by
  rcases h with hheld | ⟨complete, hassembled, hkept | hrefused⟩
  · exact .inl hheld
  · exact .inr ⟨complete, hassembled, .inl (hkept.append_left before)⟩
  · exact .inr ⟨complete, hassembled, .inr hrefused⟩

theorem PartSettled.cons {now : Instant} {frame : Frame} {rest : List Frame}
    {s s₁ s' : Session F H} {own more : List Frame} {split : SplitInfo} {part : Bytes}
    (hown : s.handleFrame frame now = (.ok own, s₁))
    (h : PartSettled now rest s₁ s' more split part) :
    PartSettled now (frame :: rest) s s' (own ++ more) split part := by
  rcases h.append_left own with hheld | ⟨complete, hassembled, hkept | hrefused⟩
  · exact .inl hheld
  · exact .inr ⟨complete, hassembled, .inl hkept⟩
  · exact .inr ⟨complete, hassembled, .inr (hrefused.cons hown)⟩

variable [F64 F] [MinHeap H QueuedFrame QueuedFrame.weight]

/-- A reliable sequenced frame on channel 0. -/
def sequencedFrame (reliable sequence : Nat) : Frame :=
  { header := FrameHeader.new .reliableSequenced false false
    bitLength := bitLengthOf 1
    reliableIndex := some (Sequence24.new reliable)
    sequenceIndex := some (Sequence24.new sequence)
    orderingIndex := some (Sequence24.new sequence)
    orderingChannel := some 0
    split := none
    payload := [7] }

end Session

end Raknet
