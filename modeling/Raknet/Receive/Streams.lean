-- SUMMARY: What a receiver hands on when its frames come from one transcript of a sender.
import Raknet.Receive.Ingest

/-!
# Ordered streams at the receiver

A transcript says what a sender has accepted: which payload an ordering index
of a channel stands for, and which parts a split id stands for. A receiver
whose frames all come from one transcript keeps three facts, whatever is lost,
repeated or reordered. A filled slot of a compound holds the part of that
number, a frame waits under its own index, and what was handed on for a channel
is the beginning of what the transcript says for it.
-/

namespace Raknet

/-- What a sender has accepted, by the numbers its frames carry. -/
structure Transcript where
  /-- The payload at each ordering index of a channel; an index that an unordered
      payload took has none. -/
  entries : UInt8 → List (Option Bytes)
  /-- The parts of the payload with a split id. -/
  compounds : UInt16 → Option (List Bytes)

namespace Transcript

/-- An ordered frame with these fields belongs to the payload. -/
def Announces (t : Transcript) (reliability : Reliability) (index : Option Sequence24)
    (channel : Option UInt8) (payload : Bytes) : Prop :=
  reliability.isOrdered = true → ∃ (c : UInt8) (k : Nat), channel = some c ∧
    index = some (Sequence24.new k) ∧ (t.entries c)[k]? = some (some payload)

/-- The frame is one the sender makes of its payloads. -/
inductive Sends (t : Transcript) (f : Frame) : Prop where
  | whole (hsplit : f.header.isSplit = false)
      (hannounced : t.Announces f.header.reliability f.orderingIndex f.orderingChannel f.payload)
  | part (hsplit : f.header.isSplit = true) {split : SplitInfo} {parts : List Bytes}
      (hinfo : f.split = some split) (hcompound : t.compounds split.partId = some parts)
      (hcount : split.partCount.toNat = parts.length)
      (hpart : parts[split.partIndex.toNat]? = some f.payload)
      (hannounced : t.Announces f.header.reliability f.orderingIndex f.orderingChannel
        parts.flatten)

end Transcript

/-! ## Compounds -/

/-- The compound collects the parts of a payload. -/
structure SplitEntry.Collects (e : SplitEntry) (t : Transcript) (parts : List Bytes) : Prop where
  slots : e.parts.length = parts.length
  filled : ∀ (j : Nat) (part : Bytes), e.parts[j]? = some (some part) → parts[j]? = some part
  announced : t.Announces e.header.reliability e.orderingIndex e.orderingChannel parts.flatten

namespace SplitEntry.Collects

variable {t : Transcript} {e : SplitEntry} {parts : List Bytes}

theorem store (h : e.Collects t parts) {index : Nat} {part : Bytes}
    (hpart : parts[index]? = some part) (now : Instant) :
    (e.store index part now).Collects t parts where
  slots := by simpa [SplitEntry.store] using h.slots
  filled := by
    intro j p hj
    simp only [SplitEntry.store, List.getElem?_set] at hj
    split at hj
    · next heq =>
      split at hj
      · obtain rfl := Option.some.inj (Option.some.inj hj)
        exact heq ▸ hpart
      · cases hj
    · exact h.filled j p hj
  announced := h.announced

/-- A compound without an empty slot holds the payload. -/
theorem eq_of_full (h : e.Collects t parts) {ps : List Bytes} (hfull : e.parts = ps.map some) :
    ps = parts := by
  have hlength : ps.length = parts.length := by
    rw [← h.slots, hfull, List.length_map]
  refine List.ext_getElem? fun j => ?_
  rcases Nat.lt_or_ge j ps.length with hj | hj
  · rw [List.getElem?_eq_getElem hj]
    refine (h.filled j ps[j] ?_).symm
    rw [hfull, List.getElem?_map, List.getElem?_eq_getElem hj, Option.map_some]
  · rw [List.getElem?_eq_none hj, List.getElem?_eq_none (hlength ▸ hj)]

end SplitEntry.Collects

/-- All compounds collect payloads of the transcript. -/
structure SplitAssembler.Collects (a : SplitAssembler) (t : Transcript) : Prop where
  wellFormed : a.WellFormed
  entry : ∀ id e, a.entries.lookup id = some e →
    ∃ parts, t.compounds id = some parts ∧ e.Collects t parts

namespace SplitAssembler.Collects

variable {t : Transcript} {a : SplitAssembler}

theorem prune (h : a.Collects t) (now : Instant) : (a.prune now).2.Collects t where
  wellFormed := h.wellFormed.prune now
  entry := fun id e he => h.entry id e (lookup_prune.mp he).1

theorem entryFor (h : a.Collects t) {f : Frame} {split : SplitInfo} {parts : List Bytes}
    (hcompound : t.compounds split.partId = some parts)
    (hcount : split.partCount.toNat = parts.length)
    (hannounced : t.Announces f.header.reliability f.orderingIndex f.orderingChannel
      parts.flatten) (now : Instant) : (a.entryFor f split now).Collects t parts := by
  rcases a.entryFor_cases f split now with ⟨hold, -⟩ | ⟨-, hfresh⟩
  · obtain ⟨parts', hparts', hcollects⟩ := h.entry _ _ hold
    rw [hcompound] at hparts'
    obtain rfl := Option.some.inj hparts'
    exact hcollects
  · rw [hfresh]
    refine ⟨?_, ?_, hannounced⟩
    · rw [freshEntry, List.length_replicate, hcount]
    · intro j part hj
      simp [freshEntry, List.getElem?_replicate] at hj

/-- Adding a frame of the transcript keeps the compounds, and what it hands on
    is a payload of the transcript. -/
theorem add (h : a.Collects t) {f : Frame} (hf : t.Sends f) (now : Instant) :
    (a.add f now).2.Collects t ∧
    ∀ g, (a.add f now).1 = .ok (some g) →
      t.Announces g.header.reliability g.orderingIndex g.orderingChannel g.payload := by
  have hwf := h.wellFormed.add f now
  have hpruned := h.prune now
  have houtcome := add_outcome h.wellFormed f now
  generalize a.add f now = r at hwf houtcome
  cases hf with
  | whole hsplit hannounced =>
    cases houtcome with
    | whole _ =>
      refine ⟨h, fun g hg => ?_⟩
      cases hg
      exact hannounced
    | _ hpart => rw [hsplit] at hpart; cases hpart
  | @part hsplit split parts hinfo hcompound hcount hpart hannounced =>
    have hentry := hpruned.entryFor hcompound hcount hannounced now
    have hstored := hentry.store hpart now
    cases houtcome with
    | whole hwhole => rw [hsplit] at hwhole; cases hwhole
    | refused _ e => exact ⟨hpruned, fun g hg => by cases hg⟩
    | repeated _ _ _ _ => exact ⟨hpruned, fun g hg => by cases hg⟩
    | stored _ hinfo' _ _ hentries =>
      rw [hinfo] at hinfo'
      obtain rfl := Option.some.inj hinfo'
      refine ⟨⟨hwf, fun id e he => ?_⟩, fun g hg => by cases hg⟩
      rw [hentries] at he
      split at he
      · next heq =>
        obtain rfl := Option.some.inj he
        exact ⟨parts, heq ▸ hcompound, hstored⟩
      · exact hpruned.entry id e he
    | completed _ hinfo' _ _ hfull hentries =>
      rw [hinfo] at hinfo'
      obtain rfl := Option.some.inj hinfo'
      refine ⟨⟨hwf, fun id e he => ?_⟩, fun g hg => ?_⟩
      · rw [hentries] at he
        split at he
        · cases he
        · exact hpruned.entry id e he
      · cases hg
        rw [hstored.eq_of_full hfull]
        exact hstored.announced

end SplitAssembler.Collects

/-! ## One channel -/

/-- The payloads of the ordered frames on a channel, in order. -/
def orderedOn (c : UInt8) (frames : List Frame) : List Bytes :=
  (frames.filter fun f =>
    f.header.reliability.isOrdered && decide (f.orderingChannel.getD 0 = c)).map Frame.payload

@[simp] theorem orderedOn_append (c : UInt8) (fs gs : List Frame) :
    orderedOn c (fs ++ gs) = orderedOn c fs ++ orderedOn c gs := by
  simp [orderedOn]

/-- The frame is an ordered one on the channel. -/
def Frame.OrderedOn (c : UInt8) (f : Frame) : Prop :=
  f.header.reliability.isOrdered = true ∧ f.orderingChannel.getD 0 = c

theorem orderedOn_of_forall {c : UInt8} {frames : List Frame}
    (h : ∀ f ∈ frames, f.OrderedOn c) : orderedOn c frames = frames.map Frame.payload := by
  rw [orderedOn, List.filter_eq_self.mpr fun f hf => ?_]
  simp [h f hf |>.1, h f hf |>.2]

theorem orderedOn_of_forall_not {c : UInt8} {frames : List Frame}
    (h : ∀ f ∈ frames, ¬ f.OrderedOn c) : orderedOn c frames = [] := by
  rw [orderedOn, List.map_eq_nil_iff, List.filter_eq_nil_iff]
  intro f hf hon
  rw [Bool.and_eq_true, decide_eq_true_eq] at hon
  exact h f hf hon

/-- One more entry of a beginning. -/
theorem map_some_prefix_snoc {α : Type} {l : List α} {entries : List (Option α)}
    (h : l.map some <+: entries) {x : α} (hx : entries[l.length]? = some (some x)) :
    (l ++ [x]).map some <+: entries := by
  obtain ⟨rest, rfl⟩ := h
  rw [List.getElem?_append_right (by rw [List.length_map]), List.length_map, Nat.sub_self] at hx
  cases rest with
  | nil => cases hx
  | cons y rest =>
    obtain rfl := Option.some.inj hx
    exact ⟨rest, by simp⟩

/-- The channel has handed on the payloads `out`, the beginning of `entries`, and
    keeps frames under their own index. -/
structure ChannelState.Follows (state : ChannelState) (c : UInt8) (entries : List (Option Bytes))
    (out : List Bytes) : Prop where
  expected : state.expectedOrder = Sequence24.new out.length
  returned : out.map some <+: entries
  pending : ∀ i f, state.pendingOrdered.lookup i = some f →
    f.OrderedOn c ∧ entries[i]? = some (some f.payload)

namespace ChannelState.Follows

variable {state : ChannelState} {c : UInt8} {entries : List (Option Bytes)} {out : List Bytes}

theorem length_lt (h : state.Follows c entries out) (hshort : entries.length < 16777216) :
    out.length < 16777216 := by
  have hle := h.returned.length_le
  rw [List.length_map] at hle
  omega

/-- The expected payload is handed on. -/
theorem next (h : state.Follows c entries out) {payload : Bytes}
    (hpayload : entries[out.length]? = some (some payload)) :
    { state with expectedOrder := state.expectedOrder.next }.Follows c entries
      (out ++ [payload]) where
  expected := by
    rw [h.expected, Sequence24.next_new, List.length_append, List.length_singleton]
  returned := map_some_prefix_snoc h.returned hpayload
  pending := h.pending

theorem erase (h : state.Follows c entries out) (i : Nat) :
    { state with pendingOrdered := state.pendingOrdered.erase i }.Follows c entries out where
  expected := h.expected
  returned := h.returned
  pending := by
    intro j f hj
    rw [AssocMap.lookup_erase_eq] at hj
    split at hj
    · cases hj
    · exact h.pending j f hj

theorem insertIfNew (h : state.Follows c entries out) {i : Nat} {f : Frame}
    (hf : f.OrderedOn c) (hentry : entries[i]? = some (some f.payload)) :
    { state with
      pendingOrdered := AssocMap.insertIfNew i f state.pendingOrdered }.Follows c entries
        out where
  expected := h.expected
  returned := h.returned
  pending := by
    intro j g hj
    rw [AssocMap.lookup_insertIfNew] at hj
    split at hj
    · next heq =>
      obtain rfl := Option.some.inj hj
      cases hold : state.pendingOrdered.lookup i with
      | none => exact ⟨hf, heq ▸ hentry⟩
      | some g => exact heq ▸ h.pending i g hold
    · exact h.pending j g hj

/-- Draining hands on what comes next. -/
theorem drain (hshort : entries.length < 16777216) (fuel : Nat) {state : ChannelState}
    {out : List Bytes} (h : state.Follows c entries out) (ready : List Frame) :
    ∃ more state', OrderingChannels.drain fuel state ready = (ready ++ more, state') ∧
      (∀ f ∈ more, f.OrderedOn c) ∧
      state'.Follows c entries (out ++ more.map Frame.payload) := by
  induction fuel generalizing state out ready with
  | zero =>
    exact ⟨[], state, by rw [List.append_nil]; rfl, List.forall_mem_nil _, by simpa using h⟩
  | succ fuel ih =>
    unfold OrderingChannels.drain
    cases hnext : state.pendingOrdered.lookup state.expectedOrder.value with
    | none =>
      exact ⟨[], state, by rw [List.append_nil], List.forall_mem_nil _, by simpa using h⟩
    | some f =>
      obtain ⟨hon, hentry⟩ := h.pending _ f hnext
      rw [h.expected, Sequence24.value_new, Nat.mod_eq_of_lt (h.length_lt hshort)] at hentry
      obtain ⟨more, state', hdrain, hmore, hfollows⟩ :=
        ih ((h.erase state.expectedOrder.value).next hentry) (ready ++ [f])
      refine ⟨f :: more, state', ?_, ?_, ?_⟩
      · rw [List.append_assoc, List.singleton_append] at hdrain
        exact hdrain
      · exact List.forall_mem_cons.mpr ⟨hon, hmore⟩
      · rwa [List.append_assoc, List.singleton_append] at hfollows

end ChannelState.Follows

/-! ## All channels -/

/-- Every channel has handed on the beginning of its stream. -/
def OrderingChannels.Follows (o : OrderingChannels) (t : Transcript) (out : List Frame) : Prop :=
  ∀ c, (o.channelState c).Follows c (t.entries c) (orderedOn c out)

namespace OrderingChannels.Follows

variable {o : OrderingChannels} {t : Transcript} {out : List Frame}

/-- One channel moves on by the frames it hands on. -/
theorem setChannelState (h : o.Follows t out) {c : UInt8} {state : ChannelState}
    {own : List Frame} (hown : ∀ f ∈ own, f.OrderedOn c)
    (hstate : state.Follows c (t.entries c) (orderedOn c out ++ own.map Frame.payload)) :
    (o.setChannelState c state).Follows t (out ++ own) := by
  intro c'
  rw [channelState_setChannelState, orderedOn_append]
  split
  · next heq =>
    subst heq
    rw [orderedOn_of_forall hown]
    exact hstate
  · next hne =>
    rw [orderedOn_of_forall_not fun f hf hon => hne (hon.2.symm.trans (hown f hf).2),
      List.append_nil]
    exact h c'

/-- A channel that hands nothing on. -/
theorem setChannelState_silent (h : o.Follows t out) {c : UInt8} {state : ChannelState}
    (hstate : state.Follows c (t.entries c) (orderedOn c out)) :
    (o.setChannelState c state).Follows t out := by
  have hset : (o.setChannelState c state).Follows t (out ++ []) :=
    h.setChannelState (List.forall_mem_nil _) (by simpa using hstate)
  rwa [List.append_nil] at hset

theorem handleSequenced (h : o.Follows t out) (f : Frame) :
    (o.handleSequenced f).2.Follows t out := by
  rcases o.handleSequenced_eq f with heq | ⟨last, heq⟩
  · rw [heq]
    exact h
  · rw [heq]
    obtain ⟨hexpected, hreturned, hpending⟩ := h (f.orderingChannel.getD 0)
    exact h.setChannelState_silent ⟨hexpected, hreturned, hpending⟩

theorem handleOrdered (hshort : ∀ c, (t.entries c).length < 16777216) (h : o.Follows t out)
    {f : Frame} (hord : f.header.reliability.isOrdered = true)
    (hf : t.Announces f.header.reliability f.orderingIndex f.orderingChannel f.payload) :
    (o.handleOrdered f).2.Follows t (out ++ (o.handleOrdered f).1.released) := by
  obtain ⟨c, k, hchannel, hindex, hentry⟩ := hf hord
  have hgetD : f.orderingChannel.getD 0 = c := by rw [hchannel, Option.getD_some]
  have hon : f.OrderedOn c := ⟨hord, hgetD⟩
  have hk : k < 16777216 :=
    Nat.lt_trans (List.getElem?_eq_some_iff.mp hentry).1 (hshort c)
  have hstate := h c
  rcases o.handleOrdered_cases hindex hgetD rfl with
    ⟨hzero, ready, state', hdrain, heq⟩ | heq | heq | ⟨-, -, -, heq⟩
  · -- The frame is the expected one.
    have hlt := hstate.length_lt (hshort c)
    have hexpected : (orderedOn c out).length = k := by
      have hdistance := Sequence24.distanceTo_cases (o.channelState c).expectedOrder
        (Sequence24.new k)
      rw [hstate.expected, Sequence24.value_new, Sequence24.value_new, Nat.mod_eq_of_lt hlt,
        Nat.mod_eq_of_lt hk] at hdistance
      rw [hstate.expected] at hzero
      omega
    obtain ⟨more, state'', hdrain', hmore, hfollows⟩ :=
      ChannelState.Follows.drain (hshort c) (o.channelState c).pendingOrdered.size
        (hstate.next (hexpected ▸ hentry)) [f]
    rw [hdrain'] at hdrain
    cases hdrain
    rw [heq]
    refine h.setChannelState (List.forall_mem_cons.mpr ⟨hon, hmore⟩) ?_
    rwa [List.append_assoc, List.singleton_append] at hfollows
  · rw [heq, OrderedResult.released, List.append_nil]
    exact h.setChannelState_silent hstate
  · rw [heq, OrderedResult.released, List.append_nil]
    exact h.setChannelState_silent hstate
  · rw [heq, OrderedResult.released, List.append_nil]
    rw [Sequence24.value_new, Nat.mod_eq_of_lt hk]
    exact h.setChannelState_silent (hstate.insertIfNew hon hentry)

end OrderingChannels.Follows

/-! ## The session -/

variable {F H : Type}

/-- The session has handed on `out`, from frames of the transcript. -/
structure Session.Follows (s : Session F H) (t : Transcript) (out : List Frame) : Prop where
  ordering : s.ordering.Follows t out
  splitAssembler : s.splitAssembler.Collects t

namespace Session.Follows

variable {s : Session F H} {t : Transcript} {out : List Frame}

theorem congr {s' : Session F H} (h : s.Follows t out) (ho : s'.ordering = s.ordering)
    (ha : s'.splitAssembler = s.splitAssembler) : s'.Follows t out :=
  ⟨ho ▸ h.ordering, ha ▸ h.splitAssembler⟩

theorem releaseFrame (hshort : ∀ c, (t.entries c).length < 16777216) (h : s.Follows t out)
    {f : Frame}
    (hf : t.Announces f.header.reliability f.orderingIndex f.orderingChannel f.payload) :
    (s.releaseFrame f).2.Follows t (out ++ (s.releaseFrame f).1) := by
  have hassembler : (s.releaseFrame f).2.splitAssembler = s.splitAssembler := by
    obtain ⟨_, _, heq⟩ := s.releaseFrame_eq f
    rw [heq]
  refine ⟨?_, hassembler ▸ h.splitAssembler⟩
  -- An unordered frame is in no stream.
  have hsilent : f.header.reliability.isOrdered = false →
      ∀ (o : OrderingChannels) (own : List Frame), o.Follows t out → (∀ g ∈ own, g = f) →
      o.Follows t (out ++ own) := by
    intro hunordered o own ho hown c
    have hnone : orderedOn c own = [] := by
      refine orderedOn_of_forall_not fun g hg hon => ?_
      rw [hown g hg, Frame.OrderedOn, hunordered] at hon
      cases hon.1
    rw [orderedOn_append, hnone, List.append_nil]
    exact ho c
  rcases s.releaseFrame_cases f with ⟨hseq, ho, hown⟩ | ⟨-, hord, ho, hown⟩ | ⟨-, hord, heq⟩
  · have hunordered : f.header.reliability.isOrdered = false := by
      by_contra hord
      rw [Reliability.not_sequenced_of_ordered (Bool.eq_true_of_not_eq_false hord)] at hseq
      cases hseq
    rw [ho, hown]
    refine hsilent hunordered _ _ (h.ordering.handleSequenced f) fun g hg => ?_
    split at hg
    · exact List.mem_singleton.mp hg
    · cases hg
  · rw [ho, hown]
    exact h.ordering.handleOrdered hshort hord hf
  · rw [heq]
    exact hsilent hord _ _ h.ordering fun g hg => List.mem_singleton.mp hg

theorem handleFrame (hshort : ∀ c, (t.entries c).length < 16777216) (h : s.Follows t out)
    {f : Frame} (hf : t.Sends f) {now : Instant} {own : List Frame} {s' : Session F H}
    (hok : s.handleFrame f now = (.ok own, s')) : s'.Follows t (out ++ own) := by
  obtain ⟨hassembler, hcomplete⟩ := h.splitAssembler.add hf now
  have houtcome := s.handleFrame_outcome f now
  rw [hok] at houtcome
  cases houtcome with
  | duplicate _ metrics =>
    rw [List.append_nil]
    exact h.congr rfl rfl
  | held _ _ =>
    rw [List.append_nil]
    exact ⟨h.ordering, hassembler⟩
  | @released _ complete hadd =>
    refine Session.Follows.releaseFrame hshort ?_ (hcomplete complete hadd)
    obtain ⟨_, hafter⟩ := s.afterAssembly_eq f complete now
    rw [hafter]
    exact ⟨h.ordering, hassembler⟩

theorem handleFrames (hshort : ∀ c, (t.entries c).length < 16777216) (h : s.Follows t out)
    {frames : List Frame} (hframes : ∀ f ∈ frames, t.Sends f) {now : Instant}
    {own : List Frame} {s' : Session F H}
    (hok : Session.handleFrames now frames s = (.ok own, s')) : s'.Follows t (out ++ own) := by
  induction frames generalizing s out own with
  | nil =>
    cases hok
    rw [List.append_nil]
    exact h
  | cons f rest ih =>
    obtain ⟨first, s₁, more, hfirst, hrest, rfl⟩ := handleFrames_cons_ok hok
    have h₁ := h.handleFrame hshort (hframes f List.mem_cons_self) hfirst
    rw [← List.append_assoc]
    exact ih h₁ (fun g hg => hframes g (List.mem_cons_of_mem f hg)) hrest

/-- A data datagram of the transcript that is ingested without a failure. -/
theorem ingestDatagram (hshort : ∀ c, (t.entries c).length < 16777216) (h : s.Follows t out)
    {d : Datagram} {frames : List Frame} (hd : d.payload = .frames frames)
    (hframes : ∀ f ∈ frames, t.Sends f) {now : Instant} {own : List Frame} {s' : Session F H}
    (hok : s.ingestDatagram d now = (.ok own, s')) : s'.Follows t (out ++ own) := by
  rw [s.ingestDatagram_eq hd now] at hok
  obtain ⟨-, hassembler, hordering⟩ := s.beginDatagram_filters d frames now
  exact (h.congr hordering hassembler).handleFrames hshort hframes hok

/-- An operation that ingests no data datagram. -/
theorem sameFilters {s' : Session F H} (h : s.Follows t out) (hsame : SameFilters s s') :
    s'.Follows t out := by
  refine ⟨hsame.ordering ▸ h.ordering, ?_⟩
  rcases hsame.splitAssembler with heq | ⟨now, heq⟩
  · rw [heq]
    exact h.splitAssembler
  · rw [heq]
    exact h.splitAssembler.prune now

end Session.Follows

theorem Session.withTunables_follows [F64 F] [MinHeap H QueuedFrame QueuedFrame.weight]
    (mtu : Nat) (tunables : SessionTunables F) (start : Instant) (t : Transcript) :
    (Session.withTunables mtu tunables start : Session F H).Follows t [] where
  ordering := by
    intro c
    have hstate : (Session.withTunables mtu tunables start : Session F H).ordering.channelState c
        = ChannelState.initial := OrderingChannels.channelState_new _ _ _ c
    rw [hstate]
    exact ⟨rfl, List.nil_prefix, fun i f hf => by cases hf⟩
  splitAssembler := ⟨SplitAssembler.new_wellFormed _ _ _, fun id e he => by cases he⟩

end Raknet
