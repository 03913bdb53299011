-- SUMMARY: When the reliable window only reports indices that were recorded before.
import Raknet.Receive.Ingest

/-!
# Genuine duplicates

The duplicate filter drops an unsplit reliable frame when the tracker has a
flag for its index. Recording the base index shifts the flags by one, so a flag
may later speak for an index that never arrived. As long as the base index is
only recorded when every flag is set (the base then runs through all of them),
a reported index was recorded before.
-/

namespace Raknet

/-! ## The window -/

theorem Sequence24.distanceTo_inj {s t u : Sequence24} (h : s.distanceTo t = s.distanceTo u) :
    t = u := by
  have ht := t.isLt
  have hu := u.isLt
  apply ext_value
  rcases s.distanceTo_cases t with h₁ | h₁ <;> rcases s.distanceTo_cases u with h₂ | h₂ <;> omega

namespace ReliableTracker

/-- Recording `r` keeps the flags in step: when `r` is the base, every flag is
    set. -/
def InStep (t : ReliableTracker) (r : Sequence24) : Prop :=
  r = t.base → ∀ flag ∈ t.seenAhead, flag = true

instance (t : ReliableTracker) (r : Sequence24) : Decidable (t.InStep r) :=
  inferInstanceAs (Decidable (_ → _))

/-- The base runs through flags that are all set. -/
theorem advance_of_all_set (b : Nat) {flags : List Bool} (h : ∀ flag ∈ flags, flag = true) :
    advance (Sequence24.new b) flags = (Sequence24.new (b + flags.length), []) := by
  induction flags generalizing b with
  | nil => rfl
  | cons flag rest ih =>
    obtain rfl := h flag List.mem_cons_self
    have hrest := ih (b + 1) fun f hf => h f (List.mem_cons_of_mem true hf)
    unfold advance
    rw [Sequence24.next_new, hrest, List.length_cons]
    congr 2
    omega

theorem see_base {t : ReliableTracker} (h : ∀ flag ∈ t.seenAhead, flag = true) :
    (t.see t.base).2 =
      { t with
        base := Sequence24.new (t.base.value + 1 + t.seenAhead.length)
        seenAhead := [] } := by
  unfold see
  rw [if_pos rfl]
  simp only [advanceBase, Sequence24.next, advance_of_all_set _ h]

theorem see_beyond {t : ReliableTracker} {r : Sequence24} (hne : r ≠ t.base)
    (h : t.maxWindow < t.base.distanceTo r) : (t.see r).2 = t := by
  unfold see
  rw [if_neg hne]
  simp only [gt_iff_lt, h, or_true, if_true]

/-- An index ahead of the base sets its flag. -/
theorem see_ahead {t : ReliableTracker} {r : Sequence24} (hne : r ≠ t.base)
    (h : t.base.distanceTo r ≤ t.maxWindow) :
    (t.see r).2 =
      { t with seenAhead := t.seenAhead.setGrow (t.base.distanceTo r - 1) false true } := by
  have hpos : t.base.distanceTo r ≠ 0 := fun hzero =>
    hne (Sequence24.distanceTo_eq_zero.mp hzero).symm
  have hguard : ¬ (t.base.distanceTo r = 0 ∨ t.base.distanceTo r > t.maxWindow) := by omega
  unfold see
  rw [if_neg hne]
  simp only [hguard, if_false]
  generalize t.base.distanceTo r - 1 = offset
  -- Growing a list that is long enough changes nothing.
  have hgrown : (if t.seenAhead.length ≤ offset then t.seenAhead.growTo (offset + 1) false
      else t.seenAhead) = t.seenAhead.growTo (offset + 1) false := by
    split
    · rfl
    · have hnone : offset + 1 - t.seenAhead.length = 0 := by omega
      simp [List.growTo, hnone]
  rw [hgrown]
  split
  · next hset =>
    -- The flag is set already.
    have hlt : offset < (t.seenAhead.growTo (offset + 1) false).length := by
      rw [List.length_growTo]
      omega
    have hget : (t.seenAhead.growTo (offset + 1) false)[offset] = true := by
      rwa [List.getD_eq_getElem?_getD, List.getElem?_eq_getElem hlt, Option.getD_some] at hset
    unfold List.setGrow
    rw [← hget, List.set_getElem_self]
  · rfl

/-- Every flag speaks for an index in `seen`. -/
def Sound (t : ReliableTracker) (seen : List Sequence24) : Prop :=
  ∀ r, r ≠ t.base → t.seenAhead.getD (t.base.distanceTo r - 1) false = true → r ∈ seen

theorem new_sound (maxWindow : Nat) : (new maxWindow).Sound [] := by
  intro r _ hflag
  cases hflag

theorem Sound.see {t : ReliableTracker} {seen : List Sequence24} (h : t.Sound seen)
    {r : Sequence24} (hstep : t.InStep r) : (t.see r).2.Sound (seen ++ [r]) := by
  rcases eq_or_ne r t.base with rfl | hne
  · -- No flag is left.
    rw [see_base (hstep rfl)]
    intro r' _ hflag
    cases hflag
  · rcases Nat.lt_or_ge t.maxWindow (t.base.distanceTo r) with hfar | hnear
    · rw [see_beyond hne hfar]
      intro r' hne' hflag
      exact List.mem_append_left [r] (h r' hne' hflag)
    · rw [see_ahead hne hnear]
      intro r' hne' hflag
      dsimp only at hne' hflag
      rw [List.getD_setGrow] at hflag
      split at hflag
      · next hsame =>
        have hpos : t.base.distanceTo r ≠ 0 := fun hzero =>
          hne (Sequence24.distanceTo_eq_zero.mp hzero).symm
        have hpos' : t.base.distanceTo r' ≠ 0 := fun hzero =>
          hne' (Sequence24.distanceTo_eq_zero.mp hzero).symm
        have heq : r' = r := Sequence24.distanceTo_inj (s := t.base) (by omega)
        rw [heq]
        exact List.mem_append_right seen (List.mem_singleton_self r)
      · exact List.mem_append_left [r] (h r' hne' hflag)

/-- The tracker as a machine: its actions are the recorded indices. -/
def machine : Machine ReliableTracker Sequence24 Bool := ⟨fun t r => ((t.see r).2, (t.see r).1)⟩

end ReliableTracker

/-! ## The indices a session records -/

variable {F H : Type}

theorem SplitAssembler.add_whole {frame : Frame} (h : frame.header.isSplit = false)
    (a : SplitAssembler) (now : Instant) : a.add frame now = (.ok (some frame), a) := by
  simp [add, h]

namespace Session

/-- The index a frame records: that of an unsplit reliable frame which the
    filter accepts. -/
def recordedFrame (s : Session F H) (frame : Frame) : List Sequence24 :=
  if frame.header.reliability.isReliable && !frame.header.isSplit && !s.isDuplicate frame then
    frame.reliableIndex.toList
  else
    []

/-- The indices the frames of a datagram record, up to a failure. -/
def recordedFrames (now : Instant) : List Frame → Session F H → List Sequence24
  | [], _ => []
  | frame :: rest, s =>
    s.recordedFrame frame ++
      match s.handleFrame frame now with
      | (.error _, _) => []
      | (.ok _, s) => recordedFrames now rest s

theorem recordedFrame_of_duplicate {s : Session F H} {frame : Frame}
    (h : s.isDuplicate frame = true) : s.recordedFrame frame = [] := by
  simp [recordedFrame, h]

theorem recordedFrame_of_split (s : Session F H) {frame : Frame}
    (h : frame.header.isSplit = true) : s.recordedFrame frame = [] := by
  simp [recordedFrame, h]

/-- The tracker moves by what a frame records. -/
theorem handleFrame_tracker (s : Session F H) (frame : Frame) (now : Instant) :
    (s.handleFrame frame now).2.reliableTracker
      = ReliableTracker.machine.exec s.reliableTracker (s.recordedFrame frame) := by
  have houtcome := s.handleFrame_outcome frame now
  generalize s.handleFrame frame now = r at houtcome
  cases hsplit : frame.header.isSplit with
  | true =>
    rw [s.recordedFrame_of_split hsplit]
    cases houtcome with
    | @released _ complete _ =>
      obtain ⟨_, _, hreleased⟩ := (s.afterAssembly frame complete now).releaseFrame_eq complete
      rw [hreleased]
      simp [afterAssembly, markSeen, hsplit]
    | _ => rfl
  | false =>
    have hwhole := SplitAssembler.add_whole hsplit s.splitAssembler now
    cases houtcome with
    | duplicate hseen _ =>
      rw [recordedFrame_of_duplicate hseen]
      rfl
    | refused _ hadd =>
      rw [hwhole] at hadd
      cases hadd
    | held _ hadd =>
      rw [hwhole] at hadd
      cases hadd
    | @released hnew complete hadd =>
      rw [hwhole] at hadd
      cases hadd
      obtain ⟨_, _, hreleased⟩ := (s.afterAssembly frame frame now).releaseFrame_eq frame
      rw [hreleased]
      cases hreliable : frame.header.reliability.isReliable with
      | false => simp [afterAssembly, markSeen, recordedFrame, hreliable]
      | true =>
        cases hindex : frame.reliableIndex with
        | none => simp [afterAssembly, markSeen, recordedFrame, hsplit, hreliable, hindex]
        | some r =>
          simp [afterAssembly, markSeen, recordedFrame, hsplit, hreliable, hindex, hnew,
            ReliableTracker.machine]

theorem handleFrames_tracker (now : Instant) (frames : List Frame) (s : Session F H) :
    (handleFrames now frames s).2.reliableTracker
      = ReliableTracker.machine.exec s.reliableTracker (recordedFrames now frames s) := by
  induction frames generalizing s with
  | nil => rfl
  | cons frame rest ih =>
    have hone := s.handleFrame_tracker frame now
    unfold handleFrames recordedFrames
    rw [Machine.exec_append, ← hone]
    generalize s.handleFrame frame now = r
    obtain ⟨result, s₁⟩ := r
    cases result with
    | error e => rfl
    | ok own =>
      have hrest := ih s₁
      dsimp only
      rw [← hrest]
      generalize handleFrames now rest s₁ = r
      obtain ⟨result, s₂⟩ := r
      cases result <;> rfl

variable [F64 F] [MinHeap H QueuedFrame QueuedFrame.weight]

/-- The indices an operation records. -/
def recordedBy (s : Session F H) : SessionOp → List Sequence24
  | .ingestDatagram d now =>
    match d.payload with
    | .frames frames => recordedFrames now frames (s.beginDatagram d frames now)
    | .ack _ | .nack _ => []
  | _ => []

theorem step_tracker (s : Session F H) (op : SessionOp) :
    (s.step op).1.reliableTracker
      = ReliableTracker.machine.exec s.reliableTracker (s.recordedBy op) := by
  have hfilters := s.step_filters op
  cases op with
  | ingestDatagram d now =>
    obtain ⟨header, payload⟩ := d
    cases payload with
    | frames frames =>
      have htracker := handleFrames_tracker now frames
        (s.beginDatagram ⟨header, .frames frames⟩ frames now)
      rw [(s.beginDatagram_filters ⟨header, .frames frames⟩ frames now).1] at htracker
      exact htracker
    | ack payload => rfl
    | nack payload => rfl
  | _ =>
    rcases hfilters with ⟨_, _, _, hop, -⟩ | hsame
    · cases hop
    · exact hsame.reliableTracker

end Session

end Raknet
