-- SUMMARY: The frames of an accepted payload: one whole frame, or numbered parts under a split id of its own.
import Raknet.Send.Allocation

/-!
# Whole and cut payloads

An accepted payload goes out as one frame, or it is cut and its frames carry
the parts in order, with the number of parts, the number of the part and the
next split id. The two numbers are written with 32 bits, so they say the truth
for payloads of fewer than `2 ^ 32` parts; split ids are numbers of 16 bits.
-/

namespace Raknet

namespace AcceptedPayload

/-- The payload was cut. -/
def isCut (a : AcceptedPayload) : Bool := a.frames.any fun f => f.header.isSplit

/-- The payload is in one frame. -/
structure Whole (a : AcceptedPayload) (f : Frame) : Prop where
  frames : a.frames = [f]
  notSplit : f.header.isSplit = false
  reliability : f.header.reliability = a.reliability
  payload : f.payload = a.payload

/-- The frames carry the parts of the payload under a split id. -/
structure CutAs (id : UInt16) (a : AcceptedPayload) : Prop where
  nonempty : a.frames ≠ []
  payload : (a.frames.map Frame.payload).flatten = a.payload
  part : ∀ (j : Nat) (f : Frame), a.frames[j]? = some f → f.header.isSplit = true ∧
    f.header.reliability = normalizeReliabilityForSplit a.reliability ∧
    f.split = some ⟨UInt32.ofNat a.frames.length, id, UInt32.ofNat j⟩

theorem Whole.isCut {a : AcceptedPayload} {f : Frame} (h : a.Whole f) : a.isCut = false := by
  simp [AcceptedPayload.isCut, h.frames, h.notSplit]

theorem CutAs.isCut {a : AcceptedPayload} {id : UInt16} (h : a.CutAs id) : a.isCut = true := by
  obtain ⟨f, rest, hframes⟩ := List.exists_cons_of_ne_nil h.nonempty
  have hpart := h.part 0 f (by rw [hframes]; rfl)
  simp [AcceptedPayload.isCut, hframes, hpart.1]

end AcceptedPayload

variable {F H : Type}

namespace Session

theorem cutAs_split (s : Session F H) {payload : Bytes} (hpayload : payload ≠ [])
    (reliability : Reliability) (channel : UInt8) (priority : RakPriority)
    (receiptId : Option UInt64) :
    AcceptedPayload.CutAs s.writeIndices.split
      ⟨payload, reliability, channel,
        WriteIndices.partFrames (s.splitContext payload reliability channel priority receiptId)
          (s.writeIndices.beforeParts (normalizeReliabilityForSplit reliability) channel) 0
          (s.splitParts payload reliability)⟩ where
  nonempty := (s.took_split hpayload reliability channel priority receiptId).nonempty
  payload := by rw [WriteIndices.map_payload_partFrames, flatten_splitParts]
  part := by
    intro j f hf
    obtain ⟨w', part, -, rfl⟩ := WriteIndices.getElem?_partFrames hf
    refine ⟨rfl, rfl, ?_⟩
    simp [SplitContext.frame, splitContext, splitParts]

variable [F64 F] [MinHeap H QueuedFrame QueuedFrame.weight]

/-- What becomes of an accepted payload, and what it takes of the split ids. -/
theorem accepted_shape {s : Session F H} {op : SessionOp} {a : AcceptedPayload}
    (h : op.accepted (s.step op).2 = [a]) :
    (∃ f, a.Whole f ∧ (s.step op).1.writeIndices.split = s.writeIndices.split) ∨
    (a.CutAs s.writeIndices.split ∧
      (s.step op).1.writeIndices.split = s.writeIndices.split + 1) := by
  cases op with
  | queuePayload payload reliability channel priority receiptId =>
    have houtcome := s.queuePayload_outcome payload reliability channel priority receiptId
    simp only [step] at h ⊢
    generalize s.queuePayloadWithReceipt payload reliability channel priority receiptId = r
      at houtcome h ⊢
    obtain ⟨result, queued, s'⟩ := r
    dsimp only at houtcome h ⊢
    generalize s'.writeIndices = after at houtcome ⊢
    generalize hframes : queued.map QueuedFrame.frame = frames at houtcome
    cases houtcome with
    | refused hrefused =>
      cases result with
      | enqueued n => exact absurd rfl (hrefused n)
      | _ => cases h
    | single _ _ =>
      rw [SessionOp.accepted, hframes] at h
      cases h
      exact .inl ⟨_, ⟨rfl, rfl, rfl, rfl⟩, by simp [WriteIndices.afterSingle]⟩
    | split _ hlong =>
      have hpayload : payload ≠ [] := by
        rintro rfl
        exact Nat.not_lt_zero _ hlong
      rw [SessionOp.accepted, hframes] at h
      cases h
      refine .inr ⟨s.cutAs_split hpayload reliability channel priority receiptId, ?_⟩
      obtain ⟨_, hafter⟩ := WriteIndices.afterParts_eq
        (s.writeIndices.beforeParts (normalizeReliabilityForSplit reliability) channel)
        (normalizeReliabilityForSplit reliability) (s.splitParts payload reliability)
      rw [hafter]
      simp [WriteIndices.beforeParts]
  | _ => cases h

theorem accepted_cutAs {s : Session F H} {op : SessionOp} {a : AcceptedPayload} {n : Nat}
    (h : op.accepted (s.step op).2 = [a]) (hn : s.writeIndices.split = UInt16.ofNat n) :
    (s.step op).1.writeIndices.split = UInt16.ofNat (if a.isCut then n + 1 else n) ∧
    (a.isCut = true → a.CutAs (UInt16.ofNat n)) := by
  rcases accepted_shape h with ⟨f, hwhole, hsplit⟩ | ⟨hcut, hsplit⟩
  · rw [hwhole.isCut, hsplit, hn]
    exact ⟨rfl, nofun⟩
  · rw [hcut.isCut, hsplit, hn, if_pos rfl, UInt16.ofNat_add]
    exact ⟨rfl, fun _ => hn ▸ hcut⟩

/-- The cut payloads of a run have the split ids from 0 on, in order. -/
theorem acceptedPayloads_cutAs (mtu : Nat) (tunables : SessionTunables F) (start : Instant)
    (ops : List SessionOp) {k : Nat} {a : AcceptedPayload}
    (ha : ((acceptedPayloads (withTunables mtu tunables start : Session F H) ops).filter
      AcceptedPayload.isCut)[k]? = some a) : a.CutAs (UInt16.ofNat k) := by
  have hcut := acceptedPayloads_numbered UInt16.ofNat WriteIndices.split accepted_cutAs
    (n := 0) rfl ops ha
  rwa [Nat.zero_add] at hcut

/-- A payload of a run that was not cut is in one frame. -/
theorem acceptedPayloads_whole {s : Session F H} {ops : List SessionOp} {a : AcceptedPayload}
    (ha : a ∈ acceptedPayloads s ops) (hwhole : a.isCut = false) : ∃ f, a.Whole f := by
  induction ops generalizing s with
  | nil => cases ha
  | cons op ops ih =>
    rcases List.mem_append.mp ha with ha | ha
    · rcases s.step_took op with ⟨hnone, -, -⟩ | ⟨b, hone, -, -⟩
      · rw [hnone] at ha
        cases ha
      · rw [hone] at ha
        obtain rfl := List.mem_singleton.mp ha
        rcases accepted_shape hone with ⟨f, hf, -⟩ | ⟨hcut, -⟩
        · exact ⟨f, hf⟩
        · rw [hcut.isCut] at hwhole
          cases hwhole
    · exact ih ha

end Session

end Raknet
