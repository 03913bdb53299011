-- SUMMARY: Whatever a session emits is encoded within the MTU, and which of it the peer's decoder accepts.
import Raknet.Send.Limits
import Raknet.Wire.Datagram

/-!
# What a session emits

The sizes a session computes with when it cuts payloads, packs frames and drains
its acknowledgement queues are those of the encoder, so every datagram is
encoded and fits the MTU. The decoder of the peer accepts what comes of
payloads that are not empty and have not too many parts.
-/

namespace Raknet

/-! ## The frames of a payload -/

namespace WriteIndices

theorem singleFrame_complete (w : WriteIndices) {payload : Bytes} (reliability : Reliability)
    (channel : UInt8) (h : payload.length < 8192) :
    (w.singleFrame payload reliability channel).Complete where
  payload := (payloadLen_bitLengthOf h).symm
  reliable := w.isSome_reliableIndex reliability
  sequence := w.isSome_sequenceIndex reliability channel
  ordering := w.isSome_orderingIndex reliability channel
  channel := Option.isSome_map.trans (w.isSome_orderingIndex reliability channel)
  split := rfl

/-- A piece is cut from its place in the payload. -/
theorem getElem?_chunks {size n i : Nat} {payload part : Bytes}
    (h : (chunks size n payload)[i]? = some part) :
    i < n ∧ part = (payload.drop (i * size)).take size := by
  induction n generalizing i payload with
  | zero => cases h
  | succ n ih =>
    cases i with
    | zero =>
      obtain rfl := Option.some.inj h
      exact ⟨Nat.succ_pos n, by rw [Nat.zero_mul, List.drop_zero]⟩
    | succ i =>
      obtain ⟨hi, rfl⟩ := ih h
      refine ⟨Nat.succ_lt_succ hi, ?_⟩
      rw [List.drop_drop, Nat.succ_mul, Nat.add_comm]

end WriteIndices

variable {F H : Type}

namespace Session

section Frames

variable {s : Session F H} {payload : Bytes} {reliability : Reliability} {channel : UInt8}
  {priority : RakPriority} {receiptId : Option UInt64} {i : Nat} {w : WriteIndices} {part : Bytes}

theorem partFrame_complete (hmtu : MtuInRange s.mtu)
    (hpart : (s.splitParts payload reliability)[i]? = some part) :
    ((s.splitContext payload reliability channel priority receiptId).frame i
      (w.reliableIndex (normalizeReliabilityForSplit reliability)) part).Complete where
  payload := by
    have hlt := maxPayloadFor_lt hmtu (normalizeReliabilityForSplit reliability) true
    have hlength := WriteIndices.length_of_mem_chunks (List.mem_of_getElem? hpart)
    have hshort : part.length < 8192 := by omega
    exact (payloadLen_bitLengthOf hshort).symm
  reliable := w.isSome_reliableIndex _
  sequence := s.writeIndices.isSome_sequenceIndex _ channel
  ordering := s.writeIndices.isSome_orderingIndex _ channel
  channel := Option.isSome_map.trans (s.writeIndices.isSome_orderingIndex _ channel)
  split := rfl

/-- The parts of a payload that is cut into few enough pieces. -/
theorem partFrame_canonical (hmtu : MtuInRange s.mtu)
    (hpart : (s.splitParts payload reliability)[i]? = some part)
    (hcount : (s.splitParts payload reliability).length ≤ maxSplitParts) :
    ((s.splitContext payload reliability channel priority receiptId).frame i
      (w.reliableIndex (normalizeReliabilityForSplit reliability)) part).Canonical where
  toComplete := partFrame_complete hmtu hpart
  nonempty := by
    obtain ⟨hi, rfl⟩ := WriteIndices.getElem?_chunks hpart
    set size := max (s.maxPayloadFor (normalizeReliabilityForSplit reliability) true) 1
    have hpos : 0 < size := Nat.lt_of_lt_of_le Nat.one_pos (Nat.le_max_right _ _)
    have hstart : (i + 1) * size ≤ payload.length + size - 1 :=
      (Nat.le_div_iff_mul_le hpos).mp hi
    rw [Nat.succ_mul] at hstart
    have hrest : 0 < (payload.drop (i * size)).length := by
      rw [List.length_drop]
      omega
    refine List.ne_nil_of_length_pos ?_
    rw [SplitContext.frame, List.length_take]
    omega
  inRange := by
    intro info hinfo
    obtain rfl := Option.some.inj hinfo
    obtain ⟨hi, -⟩ := WriteIndices.getElem?_chunks hpart
    rw [splitParts, WriteIndices.length_chunks] at hcount
    have hsmall : maxSplitParts < 2 ^ 32 := by decide
    have hcountVal : (UInt32.ofNat (divCeil payload.length
        (max (s.maxPayloadFor (normalizeReliabilityForSplit reliability) true) 1))).toNat
        = divCeil payload.length
          (max (s.maxPayloadFor (normalizeReliabilityForSplit reliability) true) 1) := by
      rw [UInt32.toNat_ofNat']
      exact Nat.mod_eq_of_lt (by omega)
    have hindexVal : (UInt32.ofNat i).toNat = i := by
      rw [UInt32.toNat_ofNat']
      exact Nat.mod_eq_of_lt (by omega)
    constructor
    · exact UInt32.lt_iff_toNat_lt.mpr (by rw [hindexVal]; exact hcountVal ▸ hi)
    · exact hcountVal.trans_le hcount

/-- The frames that queueing makes are complete. -/
theorem QueueOutcome.complete (hmtu : MtuInRange s.mtu) {result : QueuePayloadResult}
    {frames : List Frame}
    (h : QueueOutcome s payload reliability channel priority receiptId (result, frames, w)) :
    ∀ f ∈ frames, f.Complete := by
  cases h with
  | refused => exact List.forall_mem_nil _
  | single bytes hfits =>
    intro f hf
    rw [List.mem_singleton.mp hf]
    exact s.writeIndices.singleFrame_complete reliability channel
      (Nat.lt_of_le_of_lt hfits (maxPayloadFor_lt hmtu reliability false))
  | split bytes hlong =>
    intro f hf
    obtain ⟨i, w', part, hpart, rfl⟩ := WriteIndices.mem_partFrames hf
    rw [Nat.zero_add]
    exact partFrame_complete hmtu hpart

/-- The frames of a payload that is not empty and has not too many parts are
    canonical. -/
theorem QueueOutcome.canonical (hmtu : MtuInRange s.mtu) {result : QueuePayloadResult}
    {frames : List Frame}
    (h : QueueOutcome s payload reliability channel priority receiptId (result, frames, w))
    (hpayload : payload ≠ [])
    (hcount : (s.estimateQueueImpact payload.length reliability).1 ≤ maxSplitParts) :
    ∀ f ∈ frames, f.Canonical := by
  cases h with
  | refused => exact List.forall_mem_nil _
  | single bytes hfits =>
    intro f hf
    rw [List.mem_singleton.mp hf]
    refine ⟨s.writeIndices.singleFrame_complete reliability channel
      (Nat.lt_of_le_of_lt hfits (maxPayloadFor_lt hmtu reliability false)), hpayload,
      fun _ h => by cases h⟩
  | split bytes hlong =>
    intro f hf
    obtain ⟨i, w', part, hpart, rfl⟩ := WriteIndices.mem_partFrames hf
    rw [Nat.zero_add]
    refine partFrame_canonical hmtu hpart ?_
    rw [splitParts, WriteIndices.length_chunks]
    rwa [estimateQueueImpact, if_neg (Nat.not_le.mpr hlong)] at hcount

end Frames

/-! ## New datagrams -/

variable [MinHeap H QueuedFrame QueuedFrame.weight]

/-- The pop loop selects an entry that fits. -/
theorem fits_of_popCandidates {fits : QueuedFrame → Bool} {fuel : Nat} {heap : H}
    {deferred : List QueuedFrame} {q : QueuedFrame}
    (h : (popCandidates fits fuel heap deferred).1 = some q) : fits q = true := by
  induction fuel generalizing heap deferred with
  | zero => cases h
  | succ fuel ih =>
    unfold popCandidates at h
    cases hp : MinHeap.pop heap with
    | none =>
      rw [hp] at h
      cases h
    | some r =>
      obtain ⟨candidate, heap'⟩ := r
      rw [hp] at h
      dsimp only at h
      split at h
      · next hfits => exact Option.some.inj h ▸ hfits
      · exact ih h

/-- The size counted while packing is that of the datagram, within the MTU. -/
structure Packing.Fits (p : Packing) (mtu : Nat) : Prop where
  size : p.datagramSize = raknetDatagramHeaderSize + (p.taken.map QueuedFrame.encodedSize).sum
  le : p.datagramSize ≤ mtu

theorem packLoop_fits [F64 F] {fuel : Nat} {p : Packing} {s : Session F H} (h : p.Fits s.mtu) :
    (packLoop fuel p s).1.Fits s.mtu := by
  induction fuel generalizing p s with
  | zero => exact h
  | succ fuel ih =>
    simp only [packLoop]
    obtain ⟨heap, hs, -⟩ := s.popNextFrameForDatagram_view
      (p.hasReliable || s.canEmitNewReliableDatagram) p.datagramSize p.remainingBytesBudget
    have hfits : ∀ q, (s.popNextFrameForDatagram (p.hasReliable || s.canEmitNewReliableDatagram)
        p.datagramSize p.remainingBytesBudget).1 = some q →
        p.datagramSize + q.encodedSize ≤ s.mtu := by
      intro q hq
      have := fits_of_popCandidates hq
      simp only [Bool.and_eq_true, decide_eq_true_eq] at this
      exact this.1.1
    generalize s.popNextFrameForDatagram (p.hasReliable || s.canEmitNewReliableDatagram)
      p.datagramSize p.remainingBytesBudget = r at hs hfits
    obtain ⟨selected, s'⟩ := r
    dsimp only at hs hfits
    subst hs
    cases selected with
    | none => exact h
    | some queued =>
      refine ih (s := { s with outgoingHeap := heap, outgoingQueuedBytes := _ }) ⟨?_, ?_⟩
      · simp only [Packing.add, List.map_append, List.sum_append, h.size, List.map_singleton,
          List.sum_singleton]
        omega
      · exact hfits queued rfl

/-- A new datagram has the flags of data and fits the MTU. -/
structure BuiltDatagram.Fits (b : BuiltDatagram) (mtu : Nat) : Prop where
  flags : b.datagram.header.flags = DatagramFlags.valid ||| DatagramFlags.continuousSend ∨
    b.datagram.header.flags = DatagramFlags.valid ||| DatagramFlags.hasBAndAs
  size : b.datagram.encodedSize ≤ mtu

omit [MinHeap H QueuedFrame QueuedFrame.weight] in
theorem BuiltDatagram.Fits.decoded {b : BuiltDatagram} {mtu : Nat} (h : b.Fits mtu) :
    decodeDatagramFlags b.datagram.header.flags = .ok (b.datagram.header.flags, .data) := by
  rcases h.flags with hflags | hflags <;> rw [hflags] <;> decide

variable [F64 F]

theorem buildDataDatagram_fits {s : Session F H} {now : Instant} {budget : Nat} {b : BuiltDatagram}
    (hmtu : raknetDatagramHeaderSize ≤ s.mtu) (h : (s.buildDataDatagram now budget).1 = some b) :
    b.Fits s.mtu := by
  have hpacked : (packLoop s.pendingOutgoingFrames ⟨[], raknetDatagramHeaderSize, budget⟩ s).1.Fits
      s.mtu := packLoop_fits ⟨rfl, hmtu⟩
  unfold buildDataDatagram at h
  split at h
  · cases h
  · generalize packLoop s.pendingOutgoingFrames ⟨[], raknetDatagramHeaderSize, budget⟩ s = r
      at h hpacked
    obtain ⟨p, s'⟩ := r
    dsimp only at h hpacked
    split at h
    · cases h
    · obtain rfl := Option.some.inj h
      refine ⟨?_, ?_⟩
      · simp only [sealDatagram]
        split
        · exact .inl rfl
        · exact .inr rfl
      · have hsize : (p.frames.map Frame.encodedSize).sum
            = (p.taken.map QueuedFrame.encodedSize).sum := (sum_encodedSize p.taken).symm
        have hle := hpacked.le
        rw [hpacked.size] at hle
        simpa only [sealDatagram, Datagram.encodedSize, hsize] using hle

theorem buildLoop_fits {s : Session F H} {now : Instant} {n budget : Nat}
    (hmtu : raknetDatagramHeaderSize ≤ s.mtu) :
    ∀ b ∈ (buildLoop now n budget s).1, b.Fits s.mtu := by
  induction n generalizing s budget with
  | zero => exact List.forall_mem_nil _
  | succ n ih =>
    intro b hb
    have hbuilt : ∀ b, (s.buildDataDatagram now budget).1 = some b → b.Fits s.mtu := fun b hb =>
      buildDataDatagram_fits hmtu hb
    obtain ⟨_, _, _, _, _, hs, -⟩ := s.buildDataDatagram_eq now budget
    unfold buildLoop at hb
    generalize s.buildDataDatagram now budget = r at hb hbuilt hs
    obtain ⟨built, remaining, s'⟩ := r
    dsimp only at hb hbuilt hs
    cases built with
    | none => cases hb
    | some b' =>
      dsimp only at hb
      split at hb
      · rw [List.mem_singleton.mp hb]
        exact hbuilt b' rfl
      · rcases List.mem_cons.mp hb with rfl | hb
        · exact hbuilt b rfl
        · have hmtu' : s'.mtu = s.mtu := by rw [hs]
          exact hmtu' ▸ ih (hmtu' ▸ hmtu) b hb

/-- The operations that emit new datagrams keep them within the MTU. -/
theorem step_fresh_fits {s : Session F H} (hmtu : raknetDatagramHeaderSize ≤ s.mtu)
    (op : SessionOp) : ∀ b ∈ (s.step op).2.fresh, b.Fits s.mtu := by
  intro b hb
  cases op with
  | buildDataDatagram now budget =>
    exact buildDataDatagram_fits hmtu (Option.mem_toList.mp hb)
  | onTick now maxNew maxNewBytes maxResend maxResendBytes =>
    change b ∈ (s.onTick now maxNew maxNewBytes maxResend maxResendBytes).1.fresh at hb
    unfold onTick at hb
    dsimp only at hb
    obtain ⟨_, _, _, _, _, h₁⟩ := flushControl_eq
      { s with pacing := s.pacing.refreshPacingBudget s.congestion s.mtu now } now
    generalize flushControl { s with pacing := s.pacing.refreshPacingBudget s.congestion s.mtu now }
      now = r at h₁ hb
    obtain ⟨control, s₁⟩ := r
    dsimp only at h₁ hb
    obtain ⟨_, _, _, h₂⟩ := s₁.collectResendable_eq now maxResend
      (min maxResendBytes s₁.pacing.availableBytes)
    generalize s₁.collectResendable now maxResend (min maxResendBytes s₁.pacing.availableBytes) = r
      at h₂ hb
    obtain ⟨resent, s₂⟩ := r
    dsimp only at h₂ hb
    have hmtu₂ : s₂.mtu = s.mtu := by rw [h₂, h₁]
    rw [← hmtu₂] at hmtu ⊢
    exact buildLoop_fits (s := { s₂ with
      pacing := s₂.pacing.consumePacingBudget (resent.map Datagram.encodedSize).sum }) hmtu b hb
  | _ => cases hb

/-! ## Acknowledgements -/

end Session

namespace AckQueue

theorem length_encodeRange (r : SequenceRange) :
    (AckNackPayload.encodeRange r).length = rangeSize r := by
  unfold AckNackPayload.encodeRange rangeSize
  cases r.splitWrapping with
  | none => simp
  | some halves => simp

/-- A range takes a few bytes for each of its records. -/
theorem rangeSize_bounds (r : SequenceRange) :
    4 * r.recordCount ≤ rangeSize r ∧ rangeSize r ≤ 14 := by
  have hsize : ∀ r : SequenceRange, 4 ≤ r.encodedSize ∧ r.encodedSize ≤ 7 := by
    intro r
    unfold SequenceRange.encodedSize
    split <;> omega
  unfold SequenceRange.recordCount rangeSize SequenceRange.splitWrapping
  cases hwraps : r.wraps with
  | true =>
    have := hsize ⟨r.start, Sequence24.new 0x00FFFFFF⟩
    have := hsize ⟨Sequence24.new 0, r.stop⟩
    simp
    omega
  | false =>
    have := hsize r
    simp
    omega

/-- The drain takes ranges of at most the size it may use. -/
theorem popLoop_size {mtu maxRanges used : Nat} {out queue : List SequenceRange}
    (hmtu : 17 ≤ mtu) (hused : used = 3 + (out.map rangeSize).sum) (hle : used ≤ mtu) :
    3 + ((popLoop mtu maxRanges used out queue).1.map rangeSize).sum ≤ mtu := by
  induction queue generalizing used out with
  | nil => exact hused ▸ hle
  | cons front rest ih =>
    unfold popLoop
    split
    · exact hused ▸ hle
    · split
      · exact hused ▸ hle
      · next hfits =>
        refine ih ?_ ?_
        · rw [hused, List.map_append, List.sum_append, List.map_singleton, List.sum_singleton]
          omega
        · have hfront := (rangeSize_bounds front).2
          cases out with
          | nil =>
            simp only [List.map_nil, List.sum_nil] at hused
            omega
          | cons r out =>
            simp only [List.isEmpty_cons, Bool.not_false, Bool.true_and, decide_eq_true_eq] at hfits
            omega

theorem popForMtu_size {mtu : Nat} (hmtu : 17 ≤ mtu) (q : AckQueue) (maxRanges : Nat) :
    3 + ((q.popForMtu mtu 3 maxRanges).1.map rangeSize).sum ≤ mtu := by
  unfold popForMtu
  split
  · simp only [List.map_nil, List.sum_nil]
    omega
  · exact popLoop_size hmtu rfl (by omega)

end AckQueue

namespace Datagram

/-- The datagram is encoded, in its encoded size, within the MTU. -/
def Sendable (mtu : Nat) (d : Datagram) : Prop :=
  ∃ bytes, d.encode = .ok bytes ∧ bytes.length = d.encodedSize ∧ d.encodedSize ≤ mtu

theorem length_flatMap_encodeRange (ranges : List SequenceRange) :
    (ranges.flatMap AckNackPayload.encodeRange).length = (ranges.map AckQueue.rangeSize).sum := by
  rw [List.length_flatMap]
  exact congrArg List.sum (List.map_congr_left fun r _ => AckQueue.length_encodeRange r)

theorem sum_recordCount_le (ranges : List SequenceRange) :
    4 * (ranges.map SequenceRange.recordCount).sum ≤ (ranges.map AckQueue.rangeSize).sum := by
  induction ranges with
  | nil => simp
  | cons r ranges ih =>
    have := (AckQueue.rangeSize_bounds r).1
    rw [List.map_cons, List.sum_cons, List.map_cons, List.sum_cons]
    omega

/-- An acknowledgement that fits an MTU of the protocol is sendable. -/
theorem sendable_of_ranges {mtu : Nat} {d : Datagram} {p : AckNackPayload} (hmtu : mtu ≤ 1400)
    (hvalid : validateFlagsForPayload d.header.flags d.payload = .ok ())
    (hpayload : d.payload = .ack p ∨ d.payload = .nack p)
    (hsize : 3 + (p.ranges.map AckQueue.rangeSize).sum ≤ mtu) : d.Sendable mtu := by
  have hrecords := sum_recordCount_le p.ranges
  obtain ⟨records, -, hencode, hlength⟩ := encode_ranges hvalid hpayload
    (by rw [maxAckSequences]; omega)
  refine ⟨_, hencode, hlength, ?_⟩
  have henc : d.encodedSize = 1 + p.encodedSize := by
    rcases hpayload with hpayload | hpayload <;> rw [encodedSize, hpayload]
  rw [henc, AckNackPayload.encodedSize_eq, length_flatMap_encodeRange]
  omega

/-- A data datagram of complete frames that fits the MTU is sendable. -/
theorem sendable_of_frames {mtu : Nat} {d : Datagram} {frames : List Frame}
    (hvalid : validateFlagsForPayload d.header.flags d.payload = .ok ())
    (hpayload : d.payload = .frames frames) (hcomplete : ∀ f ∈ frames, f.Complete)
    (hsize : d.encodedSize ≤ mtu) : d.Sendable mtu := by
  refine ⟨_, encode_frames hvalid hpayload hcomplete, ?_, hsize⟩
  have henc : d.encodedSize = 4 + (frames.map Frame.encodedSize).sum := by
    rw [encodedSize, hpayload]
    rfl
  rw [List.length_append, List.length_append, length_flatMap_bytes hcomplete, length_encodeU8,
    length_encodeSequence24, henc]
  omega

end Datagram

namespace Session

variable [MinHeap H QueuedFrame QueuedFrame.weight] [F64 F]

omit [MinHeap H QueuedFrame QueuedFrame.weight] [F64 F] in
theorem drainAckDatagram_sendable {s : Session F H} (hmtu : MtuInRange s.mtu) (now : Instant) :
    ∀ d ∈ (s.drainAckDatagram now).1, d.Sendable s.mtu := by
  intro d hd
  have hsize := AckQueue.popForMtu_size (Nat.le_trans (by decide) hmtu.1) s.outgoingAcks
    s.flush.ackMaxRangesPerDatagram
  unfold drainAckDatagram at hd
  dsimp only at hd
  split at hd
  · cases hd
  · obtain rfl := Option.some.inj hd
    have hflags : decodeDatagramFlags (DatagramFlags.valid ||| DatagramFlags.ack)
        = .ok (DatagramFlags.valid ||| DatagramFlags.ack, .ack) := by decide
    exact Datagram.sendable_of_ranges hmtu.2 (validateFlagsForPayload_ok hflags) (.inl rfl) hsize

omit [MinHeap H QueuedFrame QueuedFrame.weight] [F64 F] in
theorem drainNackDatagram_sendable {s : Session F H} (hmtu : MtuInRange s.mtu) (now : Instant) :
    ∀ d ∈ (s.drainNackDatagram now).1, d.Sendable s.mtu := by
  intro d hd
  have hsize := AckQueue.popForMtu_size (Nat.le_trans (by decide) hmtu.1) s.outgoingNacks
    s.flush.nackMaxRangesPerDatagram
  unfold drainNackDatagram at hd
  dsimp only at hd
  split at hd
  · cases hd
  · obtain rfl := Option.some.inj hd
    have hflags : decodeDatagramFlags (DatagramFlags.valid ||| DatagramFlags.nack)
        = .ok (DatagramFlags.valid ||| DatagramFlags.nack, .nack) := by decide
    exact Datagram.sendable_of_ranges hmtu.2 (validateFlagsForPayload_ok hflags) (.inr rfl) hsize

omit [MinHeap H QueuedFrame QueuedFrame.weight] [F64 F] in
theorem flushAckIfDue_sendable {s : Session F H} (hmtu : MtuInRange s.mtu) (now : Instant) :
    ∀ d ∈ (s.flushAckIfDue now).1, d.Sendable s.mtu := by
  intro d hd
  unfold flushAckIfDue at hd
  split at hd
  · cases hd
  · exact drainAckDatagram_sendable hmtu now d (Option.mem_toList.mp hd)

omit [MinHeap H QueuedFrame QueuedFrame.weight] [F64 F] in
theorem flushNackIfDue_sendable {s : Session F H} (hmtu : MtuInRange s.mtu) (now : Instant) :
    ∀ d ∈ (s.flushNackIfDue now).1, d.Sendable s.mtu := by
  intro d hd
  unfold flushNackIfDue at hd
  split at hd
  · cases hd
  · exact drainNackDatagram_sendable hmtu now d (Option.mem_toList.mp hd)

omit [MinHeap H QueuedFrame QueuedFrame.weight] [F64 F] in
theorem flushControl_sendable {s : Session F H} (hmtu : MtuInRange s.mtu) (now : Instant) :
    ∀ d ∈ (s.flushControl now).1, d.Sendable s.mtu := by
  intro d hd
  unfold flushControl at hd
  split at hd
  · obtain ⟨_, _, _, h⟩ := s.flushNackIfDue_eq now
    have hmtu' : (s.flushNackIfDue now).2.mtu = s.mtu := by rw [h]
    rcases List.mem_append.mp hd with hd | hd
    · exact flushNackIfDue_sendable hmtu now d hd
    · exact hmtu' ▸ flushAckIfDue_sendable (hmtu'.symm ▸ hmtu) now d hd
  · obtain ⟨_, _, _, h⟩ := s.flushAckIfDue_eq now
    have hmtu' : (s.flushAckIfDue now).2.mtu = s.mtu := by rw [h]
    rcases List.mem_append.mp hd with hd | hd
    · exact flushAckIfDue_sendable hmtu now d hd
    · exact hmtu' ▸ flushNackIfDue_sendable (hmtu'.symm ▸ hmtu) now d hd

theorem step_control_sendable {s : Session F H} (hmtu : MtuInRange s.mtu) (op : SessionOp) :
    ∀ d ∈ (s.step op).2.controlDatagrams, d.Sendable s.mtu := by
  intro d hd
  cases op with
  | drainAckDatagram now => exact drainAckDatagram_sendable hmtu now d (Option.mem_toList.mp hd)
  | drainNackDatagram now => exact drainNackDatagram_sendable hmtu now d (Option.mem_toList.mp hd)
  | onTick now maxNew maxNewBytes maxResend maxResendBytes =>
    exact flushControl_sendable (s := { s with
      pacing := s.pacing.refreshPacingBudget s.congestion s.mtu now }) hmtu now d hd
  | _ => cases hd

/-! ## Runs -/

theorem step_mtu (s : Session F H) (op : SessionOp) :
    (s.step op).1.mtu = s.mtu ∨ ∃ m, op = .setMtu m ∧ (s.step op).1.mtu = m := by
  rcases s.step_queues op with ⟨payload, reliability, channel, priority, receiptId, rfl⟩ | hnothing
  · obtain ⟨_, _, _, _, _, _, _, _, _, h⟩ :=
      s.queuePayloadWithReceipt_eq payload reliability channel priority receiptId
    simp only [step, h]
    exact .inl trivial
  · by_cases hset : ∃ m, op = .setMtu m
    · obtain ⟨m, rfl⟩ := hset
      exact .inr ⟨m, rfl, rfl⟩
    · exact .inl (hnothing.mtu fun m hm => hset ⟨m, hm⟩)

/-- What the outputs of every step from a state of a good MTU satisfy holds of
    all outputs of a run that sets only good MTUs. -/
theorem outputs_of_mtu {I : Nat → Prop} {C : Session F H → SessionOp → Prop}
    {P : SessionOut → Prop} (hP : ∀ s op, I s.mtu → C s op → P (s.step op).2) {s : Session F H}
    (hs : I s.mtu) {ops : List SessionOp} (hset : ∀ m, .setMtu m ∈ ops → I m)
    (hC : (sessionMachine F H).AllSteps C s ops) :
    ∀ o ∈ (sessionMachine F H).outputs s ops, P o := by
  induction ops generalizing s with
  | nil => exact List.forall_mem_nil _
  | cons op ops ih =>
    intro o ho
    rcases List.mem_cons.mp ho with rfl | ho
    · exact hP s op hs hC.1
    · refine ih ?_ (fun m hm => hset m (List.mem_cons_of_mem op hm)) hC.2 o ho
      rcases s.step_mtu op with hkept | ⟨m, rfl, hm⟩
      · exact hkept.symm ▸ hs
      · exact hm.symm ▸ hset m List.mem_cons_self

/-- The frames a step makes are complete. -/
theorem step_made_complete {s : Session F H} (hmtu : MtuInRange s.mtu) (op : SessionOp) :
    ∀ q ∈ (s.step op).2.made, q.frame.Complete := by
  intro q hq
  rcases s.step_queues op with ⟨payload, reliability, channel, priority, receiptId, rfl⟩ | hnothing
  · exact (s.queuePayload_outcome payload reliability channel priority receiptId).complete hmtu
      q.frame (List.mem_map_of_mem hq)
  · rw [hnothing.made] at hq
    cases hq

/-- All entries of the new datagrams of a run were made in it. -/
theorem fresh_made {mtu : Nat} {tunables : SessionTunables F} {start : Instant}
    {ops : List SessionOp} {b : BuiltDatagram} {q : QueuedFrame}
    (hb : b ∈ ((sessionMachine F H).outputs (withTunables mtu tunables start) ops).flatMap
      SessionOut.fresh) (hq : q ∈ b.queued) :
    ∃ o ∈ (sessionMachine F H).outputs (withTunables mtu tunables start) ops, q ∈ o.made :=
  List.mem_flatMap.mp ((entries_conserved mtu tunables start ops).subset
    (List.mem_append_right _ (List.mem_flatMap.mpr ⟨b, hb, hq⟩)))

/-- Everything a run emits with a fixed MTU of the protocol is encoded, in
    exactly its encoded size, and fits the MTU: acknowledgements, negative
    acknowledgements, resends and new datagrams. -/
theorem emitted_sendable (mtu : Nat) (tunables : SessionTunables F) (start : Instant)
    {ops : List SessionOp} (hmtu : 576 ≤ mtu ∧ mtu ≤ 1400)
    (hset : ∀ m, .setMtu m ∈ ops → m = mtu) :
    ∀ o ∈ (sessionMachine F H).outputs (withTunables mtu tunables start) ops,
    ∀ d ∈ o.controlDatagrams ++ o.dataDatagrams,
      ∃ bytes, d.encode = .ok bytes ∧ bytes.length = d.encodedSize ∧ d.encodedSize ≤ mtu := by
  have hfixed :
      (sessionMachine F H).AllSteps (fun _ _ => True) (withTunables mtu tunables start) ops :=
    (sessionMachine F H).allSteps_of_mem fun _ _ _ => trivial
  intro o ho d hd
  rcases List.mem_append.mp hd with hcontrol | hdata
  · refine outputs_of_mtu (I := (· = mtu)) (P := fun o => ∀ d ∈ o.controlDatagrams, d.Sendable mtu)
      (fun s op hs _ => ?_) rfl hset hfixed o ho d hcontrol
    subst hs
    exact step_control_sendable hmtu op
  · obtain ⟨b, hb, rfl, hpayload⟩ := dataDatagram_built (List.mem_flatMap.mpr ⟨o, ho, hdata⟩)
    obtain ⟨ob, hob, hbfresh⟩ := List.mem_flatMap.mp hb
    have hfits : b.Fits mtu := by
      refine outputs_of_mtu (I := (· = mtu)) (P := fun o => ∀ b ∈ o.fresh, b.Fits mtu)
        (fun s op hs _ => ?_) rfl hset hfixed ob hob b hbfresh
      subst hs
      exact step_fresh_fits (Nat.le_trans (by decide) hmtu.1) op
    have hcomplete : ∀ f ∈ b.queued.map QueuedFrame.frame, f.Complete := by
      intro f hf
      obtain ⟨q, hq, rfl⟩ := List.mem_map.mp hf
      obtain ⟨om, hom, hmade⟩ := fresh_made hb hq
      refine outputs_of_mtu (I := (· = mtu)) (P := fun o => ∀ q ∈ o.made, q.frame.Complete)
        (fun s op hs _ => ?_) rfl hset hfixed om hom q hmade
      subst hs
      exact step_made_complete hmtu op
    refine Datagram.sendable_of_frames ?_ hpayload hcomplete hfits.size
    rw [hpayload]
    exact validateFlagsForPayload_ok hfits.decoded

/-- The queues of acknowledgements and data of a run with losses on the way. -/
def lossyRun : List SessionOp :=
  [.queuePayload threePartPayload .unreliableSequenced 4 .high (some 7),
    .ingestDatagram { header := ⟨DatagramFlags.valid, Sequence24.new 5⟩, payload := .frames [] } 0,
    .onTick 100000000 2 100000 8 100000, .handleNackPayload ⟨[⟨Sequence24.new 0, Sequence24.new 0⟩]⟩,
    .processIncomingReceipts 200000000, .onTick 100000000000 2 100000 8 100000]

theorem emitted_sendable_lossy :
    let outs := concreteMachine.outputs (withTunables 576 SessionTunables.standard 0) lossyRun
    (outs.flatMap fun o => o.controlDatagrams.map Datagram.encodedSize) = [10, 7] ∧
    (outs.flatMap fun o => o.resentDatagrams.map Datagram.encodedSize) = [576, 576] ∧
    (outs.flatMap fun o => o.fresh.map fun b => b.datagram.encodedSize) = [576, 576, 129] ∧
    ∀ o ∈ outs, ∀ d ∈ o.controlDatagrams ++ o.dataDatagrams,
      ∃ bytes, d.encode = .ok bytes ∧ bytes.length = d.encodedSize ∧ d.encodedSize ≤ 576 := by
  intro outs
  refine ⟨by decide +kernel, by decide +kernel, by decide +kernel, ?_⟩
  exact emitted_sendable 576 SessionTunables.standard 0 (by decide)
    (fun m hm => by simp [lossyRun] at hm)

/-! ## What the peer's decoder accepts -/

/-- A payload that is enqueued is not empty and has no more parts than the
    decoder takes. -/
def QueuesDecodable (s : Session F H) : SessionOp → Prop
  | .queuePayload payload reliability channel priority receiptId =>
    (s.queuePayloadWithReceipt payload reliability channel priority receiptId).2.1 = [] ∨
      payload ≠ [] ∧ (s.estimateQueueImpact payload.length reliability).1 ≤ maxSplitParts
  | _ => True

instance (s : Session F H) : ∀ op, Decidable (s.QueuesDecodable op)
  | .queuePayload payload reliability channel priority receiptId =>
    inferInstanceAs (Decidable
      ((s.queuePayloadWithReceipt payload reliability channel priority receiptId).2.1 = [] ∨
        payload ≠ [] ∧ (s.estimateQueueImpact payload.length reliability).1 ≤ maxSplitParts))
  | .ingestDatagram .. | .processDatagramSequence .. | .handleAckPayload ..
  | .handleNackPayload .. | .processIncomingReceipts .. | .collectResendable ..
  | .buildDataDatagram .. | .onTick .. | .drainAckDatagram .. | .drainNackDatagram ..
  | .pruneSplitState .. | .forceControlFlushDeadlines .. | .setMtu .. | .transitionTo ..
  | .touchActivity .. | .markKeepaliveSent .. | .takeBackpressureDisconnect => isTrue trivial

/-- The frames of a decodable payload are canonical. -/
theorem step_made_canonical {s : Session F H} (hmtu : MtuInRange s.mtu) {op : SessionOp}
    (hop : s.QueuesDecodable op) : ∀ q ∈ (s.step op).2.made, q.frame.Canonical := by
  intro q hq
  rcases s.step_queues op with ⟨payload, reliability, channel, priority, receiptId, rfl⟩ | hnothing
  · have hmade : (s.step (.queuePayload payload reliability channel priority receiptId)).2.made
        = (s.queuePayloadWithReceipt payload reliability channel priority receiptId).2.1 := rfl
    rw [hmade] at hq
    rcases hop with hnone | ⟨hpayload, hcount⟩
    · rw [hnone] at hq
      cases hq
    · exact (s.queuePayload_outcome payload reliability channel priority receiptId).canonical hmtu
        hpayload hcount q.frame (List.mem_map_of_mem hq)
  · rw [hnothing.made] at hq
    cases hq

/-- In a run with MTUs of the protocol whose enqueued payloads are not empty and
    have not too many parts, every data datagram, new or sent again, is decoded by
    the peer to itself. -/
theorem emitted_decodable (mtu : Nat) (tunables : SessionTunables F) (start : Instant)
    {ops : List SessionOp} (hmtu : 576 ≤ mtu ∧ mtu ≤ 1400)
    (hset : ∀ m, .setMtu m ∈ ops → 576 ≤ m ∧ m ≤ 1400)
    (hqueues : (sessionMachine F H).AllSteps QueuesDecodable (withTunables mtu tunables start) ops) :
    ∀ o ∈ (sessionMachine F H).outputs (withTunables mtu tunables start) ops,
    ∀ d ∈ o.dataDatagrams,
      ∃ bytes, d.encode = .ok bytes ∧ Datagram.decode.run bytes = .ok (d, []) := by
  have hstart : MtuInRange (withTunables mtu tunables start : Session F H).mtu := hmtu
  intro o ho d hd
  obtain ⟨b, hb, rfl, hpayload⟩ := dataDatagram_built (List.mem_flatMap.mpr ⟨o, ho, hd⟩)
  obtain ⟨ob, hob, hbfresh⟩ := List.mem_flatMap.mp hb
  obtain ⟨m, hfits⟩ : ∃ m, b.Fits m := by
    refine outputs_of_mtu (P := fun o => ∀ b ∈ o.fresh, ∃ m, BuiltDatagram.Fits b m)
      (fun s op hs _ b hb => ?_) hstart hset hqueues ob hob b hbfresh
    exact ⟨s.mtu, step_fresh_fits (Nat.le_trans (by decide) hs.1) op b hb⟩
  have hcanonical : ∀ f ∈ b.queued.map QueuedFrame.frame, f.Canonical := by
    intro f hf
    obtain ⟨q, hq, rfl⟩ := List.mem_map.mp hf
    obtain ⟨om, hom, hmade⟩ := fresh_made hb hq
    exact outputs_of_mtu (P := fun o => ∀ q ∈ o.made, q.frame.Canonical)
      (fun s op hs hop => step_made_canonical hs hop) hstart hset hqueues om hom q hmade
  have hvalid : validateFlagsForPayload b.datagram.header.flags b.datagram.payload = .ok () := by
    rw [hpayload]
    exact validateFlagsForPayload_ok hfits.decoded
  refine ⟨_, Datagram.encode_frames hvalid hpayload fun f hf => (hcanonical f hf).toComplete, ?_⟩
  rw [Datagram.decode_frames hfits.decoded hcanonical, ← hpayload]

theorem emitted_decodable_lossy :
    let outs := concreteMachine.outputs (withTunables 576 SessionTunables.standard 0) lossyRun
    (outs.flatMap SessionOut.dataDatagrams).length = 5 ∧
    ∀ o ∈ outs, ∀ d ∈ o.dataDatagrams,
      ∃ bytes, d.encode = .ok bytes ∧ Datagram.decode.run bytes = .ok (d, []) := by
  intro outs
  refine ⟨by decide +kernel, ?_⟩
  exact emitted_decodable 576 SessionTunables.standard 0 (by decide)
    (fun m hm => by simp [lossyRun] at hm) (by decide +kernel)

/-- The datagram of an empty reliable payload. -/
def emptyFrameDatagram : Datagram :=
  { header := ⟨DatagramFlags.valid ||| DatagramFlags.hasBAndAs, Sequence24.new 0⟩
    payload := .frames
      [{ header := FrameHeader.new .reliable false false
         bitLength := 0
         reliableIndex := some (Sequence24.new 0)
         sequenceIndex := none
         orderingIndex := none
         orderingChannel := none
         split := none
         payload := [] }] }

/-- An empty payload is enqueued, and its datagram is refused for a frame of no
    bits. -/
theorem empty_payload_not_decodable :
    (SessionTunables.standard : SessionTunables ℚ).validate = .ok () ∧
    ((withTunables 576 SessionTunables.standard 0 : ConcreteSession).queuePayloadWithReceipt []
      .reliable 0 .high none).1 = .enqueued 6 ∧
    (concreteMachine.outputs (withTunables 576 SessionTunables.standard 0)
        [.queuePayload [] .reliable 0 .high none, .buildDataDatagram 0 1400]).map
        (fun o => (o.made.length, o.dataDatagrams)) = [(1, []), (0, [emptyFrameDatagram])] ∧
    ∃ bytes, emptyFrameDatagram.encode = .ok bytes ∧
      Datagram.decode.run bytes = .error (.error (.invalidFrameBitLength 0)) := by
  refine ⟨SessionTunables.standard_validate .balanced .conservative, by decide +kernel,
    by decide +kernel, [0x84, 0, 0, 0, 0x40, 0, 0, 0, 0, 0], by decide +kernel, ?_⟩
  decide +kernel

end Session

end Raknet
