-- SUMMARY: Every frame that the pipeline of a session takes is delivered, waits, or is counted as dropped.
import Mathlib.Algebra.Order.Group.Multiset
import Mathlib.Tactic.Abel
import Raknet.Lib.Machine
import Raknet.Transport.Pipeline

/-!
# The accounts of a pipeline

Over every list of calls the pipeline keeps its byte count and its three counters in
step with the frames: what was queued is what was flushed followed by what waits, in
the order of arrival.
-/

namespace Raknet

/-! ## Calls -/

inductive PipelineCall where
  | routeInboundAppFrame (state : SessionState) (frame : Frame)
  | flushIfConnected (state : SessionState)
deriving DecidableEq, Repr

/-- What became of the frame, if the call routed one, and the frames it appended. -/
structure PipelineAnswer where
  fate : Option (PipelineFrameAction × Frame)
  out : List Frame
deriving DecidableEq, Repr

/-- The frame that a call routes. -/
def PipelineCall.frame : PipelineCall → Option Frame
  | .routeInboundAppFrame _ frame => some frame
  | .flushIfConnected _ => none

namespace PipelineAnswer

/-- The frames with a fate, in the order in which they were routed. -/
def framesWith (action : PipelineFrameAction) (answers : List PipelineAnswer) : List Frame :=
  answers.filterMap fun answer =>
    answer.fate.bind fun fate => if fate.1 = action then some fate.2 else none

/-- The frames that flushes appended. -/
def flushed (answers : List PipelineAnswer) : List Frame :=
  answers.flatMap fun answer => if answer.fate = none then answer.out else []

end PipelineAnswer

open PipelineAnswer

namespace SessionPipeline

def step (p : SessionPipeline) : PipelineCall → SessionPipeline × PipelineAnswer
  | .routeInboundAppFrame state frame =>
    let (action, p, out) := p.routeInboundAppFrame state frame []
    (p, ⟨some (action, frame), out⟩)
  | .flushIfConnected state =>
    let (p, out) := p.flushIfConnected state []
    (p, ⟨none, out⟩)

/-- A pipeline fed with calls. -/
def pipelineMachine : Machine SessionPipeline PipelineCall PipelineAnswer := ⟨step⟩

@[simp] theorem pipelineMachine_step (p : SessionPipeline) (call : PipelineCall) :
    pipelineMachine.step p call = p.step call := rfl

/-- The bytes that wait. -/
def waitingBytes (p : SessionPipeline) : Nat :=
  (p.pendingUnhandled.map fun frame => frame.payload.length).sum

/-! ## One call -/

/-- What a call can do. -/
inductive Answers (p : SessionPipeline) :
    PipelineCall → SessionPipeline × PipelineAnswer → Prop
  | delivered (frame : Frame) :
      Answers p (.routeInboundAppFrame .connected frame) (p, ⟨some (.deliver, frame), [frame]⟩)
  | dropped {state : SessionState} (frame : Frame) (hstate : state ≠ .connected) :
      Answers p (.routeInboundAppFrame state frame)
        ({ p with unhandledFramesDropped := satAdd p.unhandledFramesDropped 1 },
          ⟨some (.overflow, frame), []⟩)
  | queued {state : SessionState} (frame : Frame) (hstate : state ≠ .connected)
      (hframes : p.pendingUnhandled.length < p.maxUnhandledFrames)
      (hbytes : p.pendingUnhandledBytes + frame.payload.length ≤ p.maxUnhandledBytes) :
      Answers p (.routeInboundAppFrame state frame)
        ({ p with
            pendingUnhandledBytes := p.pendingUnhandledBytes + frame.payload.length
            pendingUnhandled := p.pendingUnhandled ++ [frame]
            unhandledFramesQueued := satAdd p.unhandledFramesQueued 1 },
          ⟨some (.queued, frame), []⟩)
  | nothing (state : SessionState) : Answers p (.flushIfConnected state) (p, ⟨none, []⟩)
  | flushed :
      Answers p (.flushIfConnected .connected)
        ({ p with
            pendingUnhandled := []
            pendingUnhandledBytes := p.pendingUnhandledBytes - p.waitingBytes
            unhandledFramesFlushed :=
              satAdd p.unhandledFramesFlushed p.pendingUnhandled.length },
          ⟨none, p.pendingUnhandled⟩)

theorem foldl_sub_payloads (frames : List Frame) (bytes : Nat) :
    frames.foldl (fun bytes frame => bytes - frame.payload.length) bytes
      = bytes - (frames.map fun frame => frame.payload.length).sum := by
  induction frames generalizing bytes with
  | nil => rfl
  | cons frame frames ih =>
    rw [List.foldl_cons, ih, List.map_cons, List.sum_cons, Nat.sub_sub]

theorem step_answers (p : SessionPipeline) (call : PipelineCall) : p.Answers call (p.step call) := by
  cases call with
  | routeInboundAppFrame state frame =>
    simp only [step, routeInboundAppFrame]
    by_cases hstate : state = .connected
    · subst hstate
      exact .delivered frame
    · rw [if_neg hstate]
      split
      · exact .dropped frame hstate
      · next hroom =>
        obtain ⟨hframes, hbytes⟩ := not_or.mp hroom
        exact .queued frame hstate (Nat.lt_of_not_le hframes) (Nat.le_of_not_lt hbytes)
  | flushIfConnected state =>
    simp only [step, flushIfConnected]
    split
    · exact .nothing state
    · next hflush =>
      obtain ⟨hstate, -⟩ := not_or.mp hflush
      obtain rfl := not_not.mp hstate
      rw [foldl_sub_payloads]
      exact .flushed

/-- A flush appends what waits, to whatever is there, if the session is connected. -/
theorem flushIfConnected_appends (p : SessionPipeline) (state : SessionState) (out : List Frame) :
    (p.flushIfConnected state out).2
      = out ++ if state = .connected then p.pendingUnhandled else [] := by
  unfold flushIfConnected
  split
  · next h =>
    rcases h with hstate | hnone
    · rw [if_neg hstate, List.append_nil]
    · rw [hnone, ite_self, List.append_nil]
  · next h => rw [if_pos (not_not.mp (not_or.mp h).1)]

/-! ## The accounts -/

/-- How the pipeline stands after calls and their answers. The counters stop at the largest
    64-bit number. -/
structure Accounts (maxFrames maxBytes : Nat) (calls : List PipelineCall)
    (answers : List PipelineAnswer) (p : SessionPipeline) : Prop where
  limits : p.maxUnhandledFrames = maxFrames ∧ p.maxUnhandledBytes = maxBytes
  bytes : p.pendingUnhandledBytes = p.waitingBytes
  bytesFit : p.pendingUnhandledBytes ≤ maxBytes
  framesFit : p.pendingUnhandled.length ≤ maxFrames
  inOrder : framesWith .queued answers = flushed answers ++ p.pendingUnhandled
  fates : (calls.filterMap PipelineCall.frame : Multiset Frame)
    = ↑(answers.flatMap PipelineAnswer.out) + ↑p.pendingUnhandled
      + ↑(framesWith .overflow answers)
  queued : p.unhandledFramesQueued = satAdd 0 (framesWith .queued answers).length
  flushed : p.unhandledFramesFlushed = satAdd 0 (flushed answers).length
  dropped : p.unhandledFramesDropped = satAdd 0 (framesWith .overflow answers).length

theorem new_accounts (maxFrames maxBytes : Nat) :
    Accounts (max maxFrames 1) (max maxBytes 1) [] [] (new maxFrames maxBytes) where
  limits := ⟨rfl, rfl⟩
  bytes := rfl
  bytesFit := Nat.zero_le _
  framesFit := Nat.zero_le _
  inOrder := rfl
  fates := rfl
  queued := rfl
  flushed := rfl
  dropped := rfl

theorem satAdd_satAdd (n a b : Nat) : satAdd (satAdd n a) b = satAdd n (a + b) := by
  unfold satAdd
  omega

section Lists

variable (calls : List PipelineCall) (answers : List PipelineAnswer) (answer : PipelineAnswer)

theorem framesWith_append (action : PipelineFrameAction) :
    framesWith action (answers ++ [answer]) = framesWith action answers
      ++ framesWith action [answer] :=
  List.filterMap_append

theorem flushed_append :
    PipelineAnswer.flushed (answers ++ [answer])
      = PipelineAnswer.flushed answers ++ PipelineAnswer.flushed [answer] :=
  List.flatMap_append

theorem frames_append (call : PipelineCall) :
    (calls ++ [call]).filterMap PipelineCall.frame
      = calls.filterMap PipelineCall.frame ++ call.frame.toList := by
  rw [List.filterMap_append]
  cases hframe : call.frame <;> simp [hframe]

end Lists

/-- One more call: it is enough to see where its frame and those that waited go. -/
theorem Accounts.fates_append {maxFrames maxBytes : Nat} {calls : List PipelineCall}
    {answers : List PipelineAnswer} {p : SessionPipeline}
    (h : Accounts maxFrames maxBytes calls answers p) {call : PipelineCall}
    {answer : PipelineAnswer} {waiting : List Frame}
    (hone : (call.frame.toList : Multiset Frame) + ↑p.pendingUnhandled
      = ↑answer.out + ↑waiting + ↑(framesWith .overflow [answer])) :
    ((calls ++ [call]).filterMap PipelineCall.frame : Multiset Frame)
      = ↑((answers ++ [answer]).flatMap PipelineAnswer.out) + ↑waiting
        + ↑(framesWith .overflow (answers ++ [answer])) := by
  rw [frames_append, framesWith_append, List.flatMap_append, List.flatMap_singleton,
    ← Multiset.coe_add, ← Multiset.coe_add, ← Multiset.coe_add, h.fates]
  calc _ = (↑(answers.flatMap PipelineAnswer.out) + ↑(framesWith .overflow answers))
          + ((call.frame.toList : Multiset Frame) + ↑p.pendingUnhandled) := by abel
    _ = _ := by
      rw [hone]
      abel

theorem Accounts.step {maxFrames maxBytes : Nat} {calls : List PipelineCall}
    {answers : List PipelineAnswer} {p : SessionPipeline}
    (h : Accounts maxFrames maxBytes calls answers p) (call : PipelineCall) :
    Accounts maxFrames maxBytes (calls ++ [call]) (answers ++ [(p.step call).2])
      (p.step call).1 := by
  have hanswer := p.step_answers call
  generalize p.step call = r at hanswer ⊢
  cases hanswer with
  | delivered frame =>
    exact
      { h with
        inOrder := by simpa [framesWith, PipelineAnswer.flushed] using h.inOrder
        fates := h.fates_append (by simp [PipelineCall.frame, framesWith])
        queued := by simpa [framesWith] using h.queued
        flushed := by simpa [PipelineAnswer.flushed] using h.flushed
        dropped := by simpa [framesWith] using h.dropped }
  | dropped frame hstate =>
    exact
      { h with
        inOrder := by simpa [framesWith, PipelineAnswer.flushed] using h.inOrder
        fates := h.fates_append (by simp [PipelineCall.frame, framesWith, add_comm])
        queued := by simpa [framesWith] using h.queued
        flushed := by simpa [PipelineAnswer.flushed] using h.flushed
        dropped := by
          rw [h.dropped, satAdd_satAdd, framesWith_append, List.length_append]
          rfl }
  | queued frame hstate hframes hbytes =>
    rw [h.limits.1] at hframes
    rw [h.limits.2] at hbytes
    exact
      { limits := h.limits
        bytes := by simp [waitingBytes, h.bytes]
        bytesFit := hbytes
        framesFit := by
          rw [List.length_append]
          exact hframes
        inOrder := by
          rw [framesWith_append, flushed_append, h.inOrder]
          simp [framesWith, PipelineAnswer.flushed]
        fates := h.fates_append (by
          simp [PipelineCall.frame, framesWith, ← Multiset.coe_add, add_comm])
        queued := by
          rw [h.queued, satAdd_satAdd, framesWith_append, List.length_append]
          rfl
        flushed := by simpa [PipelineAnswer.flushed] using h.flushed
        dropped := by simpa [framesWith] using h.dropped }
  | nothing state =>
    exact
      { h with
        inOrder := by simpa [framesWith, PipelineAnswer.flushed] using h.inOrder
        fates := h.fates_append (by simp [PipelineCall.frame, framesWith])
        queued := by simpa [framesWith] using h.queued
        flushed := by simpa [PipelineAnswer.flushed] using h.flushed
        dropped := by simpa [framesWith] using h.dropped }
  | flushed =>
    exact
      { limits := h.limits
        bytes := by simp [waitingBytes, h.bytes]
        bytesFit := Nat.le_trans (Nat.sub_le _ _) h.bytesFit
        framesFit := Nat.zero_le _
        inOrder := by
          rw [framesWith_append, flushed_append, h.inOrder]
          simp [framesWith, PipelineAnswer.flushed]
        fates := h.fates_append (by simp [PipelineCall.frame, framesWith])
        queued := by simpa [framesWith] using h.queued
        flushed := by
          rw [h.flushed, satAdd_satAdd, flushed_append, List.length_append]
          simp [PipelineAnswer.flushed]
        dropped := by simpa [framesWith] using h.dropped }

theorem exec_accounts (maxFrames maxBytes : Nat) (calls : List PipelineCall) :
    Accounts (max maxFrames 1) (max maxBytes 1) calls
      (pipelineMachine.outputs (new maxFrames maxBytes) calls)
      (pipelineMachine.exec (new maxFrames maxBytes) calls) :=
  pipelineMachine.run_invariant (P := Accounts (max maxFrames 1) (max maxBytes 1))
    (new_accounts maxFrames maxBytes) (fun _ _ _ call h => h.step call) calls

/-- After any calls, with no counter at its end: the byte count is that of the frames that
    wait and within its limit, as is their number; what was queued is what was flushed and
    what waits, in the order of arrival; every frame was delivered, waits or was dropped, and
    the dropped ones are counted; and a flush of a connected session appends what waits. -/
theorem pipeline_conserves_frames (maxFrames maxBytes : Nat) (calls : List PipelineCall)
    (hqueued : (framesWith .queued
      (pipelineMachine.outputs (new maxFrames maxBytes) calls)).length ≤ 2 ^ 64 - 1)
    (hdropped : (framesWith .overflow
      (pipelineMachine.outputs (new maxFrames maxBytes) calls)).length ≤ 2 ^ 64 - 1) :
    let answers := pipelineMachine.outputs (new maxFrames maxBytes) calls
    let p := pipelineMachine.exec (new maxFrames maxBytes) calls
    (p.pendingUnhandledBytes = p.waitingBytes ∧ p.pendingUnhandledBytes ≤ p.maxUnhandledBytes ∧
      p.pendingUnhandled.length ≤ p.maxUnhandledFrames) ∧
    (p.maxUnhandledFrames = max maxFrames 1 ∧ p.maxUnhandledBytes = max maxBytes 1) ∧
    p.unhandledFramesQueued = p.unhandledFramesFlushed + p.pendingUnhandled.length ∧
    ((calls.filterMap PipelineCall.frame : Multiset Frame)
        = ↑(answers.flatMap PipelineAnswer.out) + ↑p.pendingUnhandled
          + ↑(framesWith .overflow answers) ∧
      p.unhandledFramesDropped = (framesWith .overflow answers).length) ∧
    framesWith .queued answers = PipelineAnswer.flushed answers ++ p.pendingUnhandled ∧
    ∀ state out, (p.flushIfConnected state out).2
      = out ++ if state = .connected then p.pendingUnhandled else [] := by
  intro answers p
  have h : Accounts _ _ calls answers p := exec_accounts maxFrames maxBytes calls
  have hlength := congrArg List.length h.inOrder
  rw [List.length_append] at hlength
  have hcounted : p.unhandledFramesQueued
      = p.unhandledFramesFlushed + p.pendingUnhandled.length := by
    rw [h.queued, h.flushed]
    change (framesWith .queued answers).length ≤ _ at hqueued
    unfold satAdd
    omega
  have hlost : p.unhandledFramesDropped = (framesWith .overflow answers).length := by
    rw [h.dropped]
    change (framesWith .overflow answers).length ≤ _ at hdropped
    unfold satAdd
    omega
  refine ⟨⟨h.bytes, ?_, ?_⟩, h.limits, hcounted, ⟨h.fates, hlost⟩, h.inOrder,
    p.flushIfConnected_appends⟩
  · exact h.limits.2 ▸ h.bytesFit
  · exact h.limits.1 ▸ h.framesFit

/-- Two frames in front of a pipeline that holds one, and a flush. -/
def overflowCalls : List PipelineCall :=
  let frame : Frame :=
    { header := FrameHeader.new .reliableOrdered false false
      bitLength := 8
      reliableIndex := none
      sequenceIndex := none
      orderingIndex := none
      orderingChannel := none
      split := none
      payload := [254] }
  [.routeInboundAppFrame .reply2Sent frame, .routeInboundAppFrame .reply2Sent frame,
    .flushIfConnected .connected]

theorem pipeline_conserves_frames_overflow :
    (pipelineMachine.exec (new 1 1024) overflowCalls).unhandledFramesDropped = 1 ∧
    (pipelineMachine.exec (new 1 1024) overflowCalls).pendingUnhandledBytes
      = (pipelineMachine.exec (new 1 1024) overflowCalls).waitingBytes :=
  ⟨by decide +kernel,
    (pipeline_conserves_frames 1 1024 overflowCalls (by decide +kernel) (by decide +kernel)).1.1⟩

end SessionPipeline

end Raknet
