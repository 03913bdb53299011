-- SUMMARY: The ordered payloads a receiver returns on a channel are the beginning of those the sender accepted.
import Mathlib.Data.List.Infix
import Mathlib.Data.List.ReduceOption
import Raknet.Receive.Streams
import Raknet.Send.Parts
import Raknet.Transfer.ExactlyOnce
import Raknet.Wire.Emitted

/-!
# Ordered streams are prefixes

The accepted payloads of a sender give a transcript: the ordering index of a
channel counts the payloads that took one, and the split id counts the payloads
that were cut. Every emitted frame is one of the transcript, so a receiver that
ingests emitted datagrams without a failure returns, on every channel, the
beginning of the ordered payloads the sender accepted there.

A payload may be cut into `2 ^ 32` parts or more. Its frames then announce the
count and the part numbers modulo `2 ^ 32`, and the receiver completes it early.
-/

namespace Raknet

variable {F H : Type}

/-! ## The transcript of a sender -/

/-- The ordered payloads among the accepted ones of a channel, in order. -/
def acceptedOrderedOn (c : UInt8) (accepted : List AcceptedPayload) : List Bytes :=
  (accepted.filter fun a => a.reliability.isOrdered && decide (a.channel = c)).map
    AcceptedPayload.payload

/-- What the numbers in the frames of the accepted payloads stand for. -/
def transcriptOf (accepted : List AcceptedPayload) : Transcript where
  entries c := (accepted.filter (AcceptedPayload.ordersOn c)).map fun a =>
    if a.reliability.isOrdered then some a.payload else none
  compounds id := (accepted.filter AcceptedPayload.isCut)[id.toNat]?.map fun a =>
    a.frames.map Frame.payload

theorem transcriptOf_entries_reduceOption (accepted : List AcceptedPayload) (c : UInt8) :
    ((transcriptOf accepted).entries c).reduceOption = acceptedOrderedOn c accepted := by
  have hfilter : ∀ a : AcceptedPayload,
      (a.reliability.isOrdered && decide (a.channel = c))
        = (a.reliability.isOrdered && a.ordersOn c) := by
    intro a
    rw [AcceptedPayload.ordersOn]
    cases a.reliability.isOrdered <;> simp
  simp only [transcriptOf, acceptedOrderedOn, hfilter]
  rw [← List.filter_filter]
  generalize accepted.filter (AcceptedPayload.ordersOn c) = taken
  induction taken with
  | nil => rfl
  | cons a rest ih =>
    cases hord : a.reliability.isOrdered with
    | true => simp [hord, ih, List.reduceOption_cons_of_some]
    | false => simp [hord, ih, List.reduceOption_cons_of_none]

/-- The ingest of a datagram failed. -/
def SessionOut.isRefusal : SessionOut → Bool
  | .received (.error _) => true
  | _ => false

namespace Session

/-- The frames of the payload number 32 bits wide: `enqueue_split_frames` writes
    the number of parts as `u32`. -/
def CountsParts [F64 F] [MinHeap H QueuedFrame QueuedFrame.weight] (s : Session F H) :
    SessionOp → Prop
  | .queuePayload payload reliability _ _ _ =>
    (s.estimateQueueImpact payload.length reliability).1 < 4294967296
  | _ => True

variable [F64 F] [MinHeap H QueuedFrame QueuedFrame.weight]

theorem length_frames_lt {s : Session F H} {op : SessionOp} {a : AcceptedPayload}
    (h : op.accepted (s.step op).2 = [a]) (hcounts : s.CountsParts op) :
    a.frames.length < 4294967296 := by
  cases op with
  | queuePayload payload reliability channel priority receiptId =>
    have houtcome := s.queuePayload_outcome payload reliability channel priority receiptId
    simp only [step] at h
    generalize s.queuePayloadWithReceipt payload reliability channel priority receiptId = r
      at houtcome h
    obtain ⟨result, queued, s'⟩ := r
    dsimp only at houtcome h
    generalize s'.writeIndices = after at houtcome
    generalize hframes : queued.map QueuedFrame.frame = frames at houtcome
    cases houtcome with
    | refused hrefused =>
      cases result with
      | enqueued n => exact absurd rfl (hrefused n)
      | _ => cases h
    | single _ _ =>
      rw [SessionOp.accepted, hframes] at h
      cases h
      exact Nat.one_lt_ofNat
    | split _ hlong =>
      rw [SessionOp.accepted, hframes] at h
      cases h
      simp only [CountsParts, estimateQueueImpact, if_neg (Nat.not_le.mpr hlong)] at hcounts
      simpa [splitParts] using hcounts
  | _ => cases h

theorem acceptedPayloads_lt {s : Session F H} {ops : List SessionOp}
    (hcounts : (sessionMachine F H).AllSteps CountsParts s ops) {a : AcceptedPayload}
    (ha : a ∈ acceptedPayloads s ops) : a.frames.length < 4294967296 := by
  induction ops generalizing s with
  | nil => cases ha
  | cons op ops ih =>
    rcases List.mem_append.mp ha with ha | ha
    · rcases s.step_took op with ⟨hnone, -, -⟩ | ⟨b, hone, -, -⟩
      · rw [hnone] at ha
        cases ha
      · rw [hone] at ha
        obtain rfl := List.mem_singleton.mp ha
        exact length_frames_lt hone hcounts.1
    · exact ih hcounts.2 ha

/-! ## The sender's frames -/

section Sender

variable {mtu : Nat} {tunables : SessionTunables F} {start : Instant} {ops : List SessionOp}

/-- The frames of an accepted payload announce it. -/
theorem announces_accepted {a : AcceptedPayload}
    (ha : a ∈ acceptedPayloads (withTunables mtu tunables start : Session F H) ops)
    {f : Frame} (hf : f ∈ a.frames) {reliability : Reliability}
    (hclass : reliability.isOrdered = a.reliability.isOrdered) :
    (transcriptOf (acceptedPayloads (withTunables mtu tunables start : Session F H) ops)).Announces
      reliability f.orderingIndex f.orderingChannel a.payload := by
  intro hord
  rw [hclass] at hord
  have huses : a.ordersOn a.channel = true := by simp [AcceptedPayload.ordersOn, hord]
  obtain ⟨k, hk⟩ := List.mem_iff_getElem?.mp (List.mem_filter.mpr ⟨ha, huses⟩)
  have hstart : (withTunables mtu tunables start : Session F H).writeIndices.ordering a.channel
      = Sequence24.new 0 := getD_replicate_zero 16 a.channel
  have hat := (acceptedPayloads_numbered Sequence24.new (fun w => w.ordering a.channel)
    (accepted_orderedAt a.channel) hstart ops hk).2 f hf
  rw [Nat.zero_add] at hat
  refine ⟨a.channel, k, hat.1, hat.2, ?_⟩
  simp only [transcriptOf, List.getElem?_map, hk, Option.map_some, hord, if_true]

/-- Every frame a sender makes is one of its transcript, if no split id is used
    twice and every part has its number. -/
theorem sends_madeFrames
    (hsplits : ((acceptedPayloads (withTunables mtu tunables start : Session F H) ops).filter
      AcceptedPayload.isCut).length < 65536)
    (hcounts : (sessionMachine F H).AllSteps CountsParts (withTunables mtu tunables start) ops)
    {f : Frame} (hf : f ∈ madeFrames (withTunables mtu tunables start : Session F H) ops) :
    (transcriptOf (acceptedPayloads (withTunables mtu tunables start : Session F H) ops)).Sends
      f := by
  rw [madeFrames_eq_flatMap] at hf
  obtain ⟨a, ha, hf⟩ := List.mem_flatMap.mp hf
  cases hcut : a.isCut with
  | false =>
    obtain ⟨g, hwhole⟩ := acceptedPayloads_whole ha hcut
    have hfg : f = g := by
      rw [hwhole.frames] at hf
      exact List.mem_singleton.mp hf
    subst hfg
    refine .whole hwhole.notSplit ?_
    rw [hwhole.payload]
    exact announces_accepted ha hf (by rw [hwhole.reliability])
  | true =>
    obtain ⟨k, hk⟩ := List.mem_iff_getElem?.mp (List.mem_filter.mpr ⟨ha, hcut⟩)
    have hparts := acceptedPayloads_cutAs mtu tunables start ops hk
    obtain ⟨j, hj⟩ := List.mem_iff_getElem?.mp hf
    obtain ⟨hsplit, hreliability, hinfo⟩ := hparts.part j f hj
    have hlength := acceptedPayloads_lt hcounts ha
    have hjlt : j < a.frames.length := (List.getElem?_eq_some_iff.mp hj).1
    have hklt : k < 65536 := Nat.lt_trans (List.getElem?_eq_some_iff.mp hk).1 hsplits
    -- The numbers in the frame are what they stand for.
    have hid : (UInt16.ofNat k).toNat = k := UInt16.toNat_ofNat_of_lt hklt
    have hcount : (UInt32.ofNat a.frames.length).toNat = a.frames.length :=
      UInt32.toNat_ofNat_of_lt hlength
    have hindex : (UInt32.ofNat j).toNat = j :=
      UInt32.toNat_ofNat_of_lt (Nat.lt_trans hjlt hlength)
    have hcompound : (transcriptOf (acceptedPayloads (withTunables mtu tunables start :
        Session F H) ops)).compounds (UInt16.ofNat k) = some (a.frames.map Frame.payload) := by
      simp only [transcriptOf, hid, hk, Option.map_some]
    refine .part hsplit hinfo hcompound ?_ ?_ ?_
    · rw [hcount, List.length_map]
    · rw [hindex, List.getElem?_map, hj, Option.map_some]
    · rw [hparts.payload]
      refine announces_accepted ha hf ?_
      rw [hreliability, isOrdered_normalizeReliabilityForSplit]

/-- The frames of an emitted datagram were made by the sender. -/
theorem mem_madeFrames_of_emitted {d : Datagram}
    (hd : d ∈ emittedDatagrams (withTunables mtu tunables start : Session F H) ops)
    {f : Frame} (hf : f ∈ d.framesOf) :
    f ∈ madeFrames (withTunables mtu tunables start : Session F H) ops := by
  obtain ⟨b, hb, -, hpayload⟩ := dataDatagram_built hd
  rw [Datagram.framesOf, hpayload] at hf
  obtain ⟨q, hq, rfl⟩ := List.mem_map.mp hf
  refine List.mem_map_of_mem ((entries_conserved mtu tunables start ops).subset ?_)
  exact List.mem_append_right _ (List.mem_flatMap.mpr ⟨b, hb, hq⟩)

end Sender

/-! ## Both ends -/

theorem Follows.step {s : Session F H} {t : Transcript} {out : List Frame}
    (hshort : ∀ c, (t.entries c).length < 16777216) (h : s.Follows t out) {op : SessionOp}
    (hop : ∀ f ∈ op.ingestedFrames, t.Sends f)
    (hok : ∀ e, (s.step op).2 ≠ .received (.error e)) :
    (s.step op).1.Follows t (out ++ (s.step op).2.receivedFrames) := by
  have hquiet : (∀ d frames now, op = .ingestDatagram d now → d.payload ≠ .frames frames) →
      (s.step op).2.receivedFrames = [] →
      (s.step op).1.Follows t (out ++ (s.step op).2.receivedFrames) := by
    intro hnot hnone
    rw [hnone, List.append_nil]
    rcases s.step_filters op with ⟨d, frames, now, hop, hd⟩ | hsame
    · exact absurd hd (hnot d frames now hop)
    · exact h.sameFilters hsame
  cases op with
  | ingestDatagram d now =>
    obtain ⟨header, payload⟩ := d
    cases payload with
    | frames frames =>
      simp only [Session.step] at hok ⊢
      generalize hr : s.ingestDatagram ⟨header, .frames frames⟩ now = r at hok ⊢
      obtain ⟨result, s'⟩ := r
      cases result with
      | error e => exact absurd rfl (hok e)
      | ok own => exact h.ingestDatagram hshort rfl hop hr
    | ack payload =>
      exact hquiet (fun d frames now hop h => by cases hop; cases h) rfl
    | nack payload =>
      exact hquiet (fun d frames now hop h => by cases hop; cases h) rfl
  | _ => exact hquiet (fun d frames now hop => by cases hop) rfl

/-- A receiver fed from a transcript follows it. -/
theorem exec_follows (mtu : Nat) (tunables : SessionTunables F) (start : Instant)
    {t : Transcript} (hshort : ∀ c, (t.entries c).length < 16777216) {ops : List SessionOp}
    (hops : ∀ op ∈ ops, ∀ f ∈ op.ingestedFrames, t.Sends f)
    (hok : ∀ o ∈ (sessionMachine F H).outputs (withTunables mtu tunables start) ops,
      ∀ e, o ≠ .received (.error e)) :
    ((sessionMachine F H).exec (withTunables mtu tunables start) ops).Follows t
      (((sessionMachine F H).outputs (withTunables mtu tunables start) ops).flatMap
        SessionOut.receivedFrames) := by
  refine (sessionMachine F H).run_invariant
    (P := fun ops outs s => (∀ op ∈ ops, ∀ f ∈ op.ingestedFrames, t.Sends f) →
      (∀ o ∈ outs, ∀ e, o ≠ .received (.error e)) →
      s.Follows t (outs.flatMap SessionOut.receivedFrames)) ?_ ?_ ops hops hok
  · intro _ _
    exact withTunables_follows mtu tunables start t
  · intro ops outs s op hP hops hok
    have hbefore := hP (fun op' hop' => hops op' (List.mem_append_left _ hop'))
      (fun o ho => hok o (List.mem_append_left _ ho))
    have hlast := hbefore.step hshort (hops op (by simp)) (hok _ (by simp))
    rwa [List.flatMap_append, List.flatMap_singleton]

/-- The sender runs in any way, with fewer than `2 ^ 23` ordering indices on a
    channel, fewer than 65536 cut payloads, and each payload cut into fewer than
    `2 ^ 32` parts. The receiver runs in any way and ingests no data datagrams
    but emitted ones, and no ingest fails. Then the payloads of the ordered
    frames it returned on a channel are the beginning of the ordered payloads the
    sender accepted there. -/
theorem ordered_stream_prefix (mtuS mtuR : Nat) (tunablesS tunablesR : SessionTunables F)
    (startS startR : Instant) {opsS opsR : List SessionOp}
    (hordering : ∀ c, ((acceptedPayloads (withTunables mtuS tunablesS startS : Session F H)
      opsS).filter (AcceptedPayload.ordersOn c)).length < 8388608)
    (hsplits : ((acceptedPayloads (withTunables mtuS tunablesS startS : Session F H)
      opsS).filter AcceptedPayload.isCut).length < 65536)
    (hcounts : (sessionMachine F H).AllSteps CountsParts (withTunables mtuS tunablesS startS) opsS)
    (hfed : ∀ d now frames, .ingestDatagram d now ∈ opsR → d.payload = .frames frames →
      d ∈ emittedDatagrams (withTunables mtuS tunablesS startS : Session F H) opsS)
    (hok : ∀ o ∈ (sessionMachine F H).outputs (withTunables mtuR tunablesR startR) opsR,
      ∀ e, o ≠ .received (.error e)) (c : UInt8) :
    orderedOn c (((sessionMachine F H).outputs (withTunables mtuR tunablesR startR) opsR).flatMap
        SessionOut.receivedFrames)
      <+: acceptedOrderedOn c
        (acceptedPayloads (withTunables mtuS tunablesS startS : Session F H) opsS) := by
  have hshort : ∀ c, ((transcriptOf (acceptedPayloads
      (withTunables mtuS tunablesS startS : Session F H) opsS)).entries c).length < 16777216 := by
    intro c
    rw [transcriptOf, List.length_map]
    exact Nat.lt_trans (hordering c) (by decide)
  have hops : ∀ op ∈ opsR, ∀ f ∈ op.ingestedFrames, (transcriptOf (acceptedPayloads
      (withTunables mtuS tunablesS startS : Session F H) opsS)).Sends f := by
    intro op hop f hf
    cases op with
    | ingestDatagram d now =>
      obtain ⟨header, payload⟩ := d
      cases payload with
      | frames frames =>
        exact sends_madeFrames hsplits hcounts
          (mem_madeFrames_of_emitted (hfed _ now frames hop rfl) hf)
      | ack payload => cases hf
      | nack payload => cases hf
    | _ => cases hf
  have hreturned := ((exec_follows mtuR tunablesR startR hshort hops hok).ordering c).returned
  have hpayloads := List.IsPrefix.reduceOption hreturned
  rwa [transcriptOf_entries_reduceOption, List.reduceOption, List.filterMap_map,
    Function.id_comp, List.filterMap_some] at hpayloads

/-! ## Split and whole payloads out of order -/

/-- An ordered payload in one frame, one in three parts, and one more. -/
def orderedTraffic : List SessionOp :=
  [.queuePayload [1] .reliableOrdered 2 .high none,
    .queuePayload (List.replicate 100 7) .reliableOrdered 2 .high none,
    .queuePayload [3] .reliableOrdered 2 .high none,
    .buildDataDatagram 0 1000, .buildDataDatagram 0 1000, .buildDataDatagram 0 1000,
    .buildDataDatagram 0 1000, .buildDataDatagram 0 1000]

def orderedTrafficDatagrams : List Datagram :=
  emittedDatagrams (withTunables 70 SessionTunables.standard 0 : ConcreteSession) orderedTraffic

/-- The datagrams arrive last to first, and then all but the last once more. -/
def reversedThenRepeated : List SessionOp :=
  (orderedTrafficDatagrams.reverse ++ orderedTrafficDatagrams.dropLast).map
    (SessionOp.ingestDatagram · 0)

theorem ordered_stream_prefix_reversed :
    orderedOn 2 ((concreteMachine.outputs (withTunables 1400 SessionTunables.standard 0)
        reversedThenRepeated).flatMap SessionOut.receivedFrames)
      = [[1], List.replicate 100 7, [3]] ∧
    orderedOn 2 ((concreteMachine.outputs (withTunables 1400 SessionTunables.standard 0)
        reversedThenRepeated).flatMap SessionOut.receivedFrames)
      <+: acceptedOrderedOn 2 (acceptedPayloads
        (withTunables 70 SessionTunables.standard 0 : ConcreteSession) orderedTraffic) := by
  have hshort : ∀ c, ((acceptedPayloads (withTunables 70 SessionTunables.standard 0 :
      ConcreteSession) orderedTraffic).filter (AcceptedPayload.ordersOn c)).length < 8388608 :=
    fun c => Nat.lt_of_le_of_lt (List.length_filter_le _ _) (by decide +kernel)
  have hfed : ∀ d now frames, .ingestDatagram d now ∈ reversedThenRepeated →
      d.payload = .frames frames → d ∈ orderedTrafficDatagrams := by
    intro d now frames hop _
    obtain ⟨d', hd', hop'⟩ := List.mem_map.mp hop
    cases hop'
    rcases List.mem_append.mp hd' with hd | hd
    · exact List.mem_reverse.mp hd
    · exact List.dropLast_subset _ hd
  have hok : ((concreteMachine.outputs (withTunables 1400 SessionTunables.standard 0)
      reversedThenRepeated).all fun o => !o.isRefusal) = true := by decide +kernel
  refine ⟨by decide +kernel, ordered_stream_prefix (F := ℚ)
    (H := SortedHeap QueuedFrame QueuedFrame.weight) 70 1400 SessionTunables.standard
    SessionTunables.standard 0 0 hshort (by decide +kernel) ?_ hfed ?_ 2⟩
  · simp only [orderedTraffic, Machine.allSteps_cons, CountsParts, Machine.allSteps_nil, and_true]
    decide +kernel
  · rintro o ho e rfl
    cases List.all_eq_true.mp hok _ ho

/-! ## More parts than the part count can say -/

/-- The entries of a datagram fit the byte budget one by one. -/
theorem packLoop_budget {fuel : Nat} {p : Packing} {s : Session F H} {q : QueuedFrame}
    (h : q ∈ (packLoop fuel p s).1.taken) :
    q ∈ p.taken ∨ q.encodedSize ≤ p.remainingBytesBudget := by
  induction fuel generalizing p s with
  | zero => exact .inl h
  | succ fuel ih =>
    simp only [packLoop] at h
    have hfits : ∀ q, (s.popNextFrameForDatagram (p.hasReliable || s.canEmitNewReliableDatagram)
        p.datagramSize p.remainingBytesBudget).1 = some q →
        q.encodedSize ≤ p.remainingBytesBudget := by
      intro q hq
      have := fits_of_popCandidates hq
      simp only [Bool.and_eq_true, decide_eq_true_eq] at this
      exact this.1.2
    generalize s.popNextFrameForDatagram (p.hasReliable || s.canEmitNewReliableDatagram)
      p.datagramSize p.remainingBytesBudget = r at hfits h
    obtain ⟨selected, s'⟩ := r
    dsimp only at hfits h
    cases selected with
    | none => exact .inl h
    | some queued =>
      rcases ih h with hadd | hle
      · rcases List.mem_append.mp hadd with htaken | hqueued
        · exact .inl htaken
        · rw [List.mem_singleton.mp hqueued]
          exact .inr (hfits queued rfl)
      · exact .inr (Nat.le_trans hle (Nat.sub_le _ _))

theorem buildDataDatagram_budget {s : Session F H} {now : Instant} {budget : Nat}
    {b : BuiltDatagram} (h : (s.buildDataDatagram now budget).1 = some b) :
    b.queued ≠ [] ∧ ∀ q ∈ b.queued, q.encodedSize ≤ budget := by
  unfold buildDataDatagram at h
  split at h
  · cases h
  · have hbudget : ∀ q ∈ (packLoop s.pendingOutgoingFrames
        ⟨[], raknetDatagramHeaderSize, budget⟩ s).1.taken, q ∈ [] ∨ q.encodedSize ≤ budget :=
      fun q => packLoop_budget
    generalize packLoop s.pendingOutgoingFrames ⟨[], raknetDatagramHeaderSize, budget⟩ s = r
      at h hbudget
    obtain ⟨p, s'⟩ := r
    dsimp only at h hbudget
    split at h
    · cases h
    · next hne =>
      obtain rfl := Option.some.inj h
      refine ⟨by simpa [sealDatagram] using hne, fun q hq => ?_⟩
      exact (hbudget q hq).resolve_left List.not_mem_nil

/-- An admitted payload that does not fit one frame is split. -/
theorem queuePayloadWithReceipt_split {s : Session F H} {payload : Bytes}
    {reliability : Reliability} {channel : UInt8} {priority : RakPriority}
    {receiptId : Option UInt64} (hlong : s.maxPayloadFor reliability false < payload.length)
    (hallow : s.evaluateBackpressure (s.estimateQueueImpact payload.length reliability).1
      (s.estimateQueueImpact payload.length reliability).2.1
      (s.estimateQueueImpact payload.length reliability).2.2 priority = .allow) :
    s.queuePayloadWithReceipt payload reliability channel priority receiptId =
      (.enqueued (s.enqueueSplitFrames payload reliability channel priority receiptId).1,
        (s.enqueueSplitFrames payload reliability channel priority receiptId).2) := by
  simp only [queuePayloadWithReceipt, hallow, if_neg (Nat.not_le.mpr hlong)]

/-- A queue for more than `2 ^ 32` frames. -/
def wideQueue : SessionTunables ℚ :=
  { SessionTunables.standard with
    outgoingQueueMaxFrames := 2 ^ 40
    outgoingQueueMaxBytes := 2 ^ 50 }

/-- An MTU with room for two bytes in a part. -/
def narrowSession : ConcreteSession := withTunables 26 wideQueue 0

section Wrapped

variable {payload : Bytes}

/-- With two bytes in a part this payload has `2 ^ 32 + 1` parts. -/
theorem narrow_estimate (hlength : payload.length = 8589934593) :
    narrowSession.estimateQueueImpact payload.length .reliableOrdered
      = (4294967297, 94489280533, .reliableOrdered) := by
  rw [hlength]
  decide +kernel

/-- The run that queues the payload and emits the one part that fits 21 bytes. -/
def wrappedRun (payload : Bytes) : List SessionOp :=
  [.queuePayload payload .reliableOrdered 0 .high none, .buildDataDatagram 0 21]

theorem narrow_accepts (hlength : payload.length = 8589934593) :
    narrowSession.queuePayloadWithReceipt payload .reliableOrdered 0 .high none =
      (.enqueued (narrowSession.enqueueSplitFrames payload .reliableOrdered 0 .high none).1,
        (narrowSession.enqueueSplitFrames payload .reliableOrdered 0 .high none).2) := by
  refine queuePayloadWithReceipt_split ?_ ?_
  · rw [hlength]
    decide +kernel
  · rw [narrow_estimate hlength]
    decide +kernel

/-- The frames of the payload. -/
def wrappedFrames (payload : Bytes) : List Frame :=
  WriteIndices.partFrames (narrowSession.splitContext payload .reliableOrdered 0 .high none)
    (narrowSession.writeIndices.beforeParts .reliableOrdered 0) 0
    (narrowSession.splitParts payload .reliableOrdered)

theorem narrow_made (hlength : payload.length = 8589934593) :
    (narrowSession.step (.queuePayload payload .reliableOrdered 0 .high none)).2.made.map
      QueuedFrame.frame = wrappedFrames payload := by
  have hmade :=
    (narrowSession.enqueueSplitFrames_made payload .reliableOrdered 0 .high none).1
  simp only [step, narrow_accepts hlength, SessionOut.made]
  exact hmade

theorem narrow_accepted (hlength : payload.length = 8589934593) :
    acceptedPayloads narrowSession (wrappedRun payload)
      = [⟨payload, .reliableOrdered, 0, wrappedFrames payload⟩] := by
  have hmade := narrow_made hlength
  simp only [step, narrow_accepts hlength, SessionOut.made] at hmade
  simp only [wrappedRun, acceptedPayloads, step, narrow_accepts hlength, SessionOp.accepted,
    hmade, List.append_nil]

theorem narrow_parts (hlength : payload.length = 8589934593) :
    narrowSession.splitParts payload .reliableOrdered
      = WriteIndices.chunks 2 4294967297 payload := by
  have hsize : max (narrowSession.maxPayloadFor
      (normalizeReliabilityForSplit .reliableOrdered) true) 1 = 2 := by decide +kernel
  simp only [splitParts, hsize, hlength]
  rfl

/-- The part at a position, and how large its frame is. -/
theorem wrappedFrames_part (hlength : payload.length = 8589934593) {j : Nat} {f : Frame}
    (hf : (wrappedFrames payload)[j]? = some f) :
    j < 4294967297 ∧ f.payload = (payload.drop (j * 2)).take 2 ∧
    f.encodedSize = 20 + f.payload.length ∧
    f.header = FrameHeader.new .reliableOrdered true false ∧
    f.orderingIndex = some (Sequence24.new 0) ∧ f.orderingChannel = some 0 ∧
    f.split = some ⟨1, 0, UInt32.ofNat j⟩ := by
  obtain ⟨w', part, hpart, rfl⟩ := WriteIndices.getElem?_partFrames hf
  rw [narrow_parts hlength] at hpart
  obtain ⟨hj, hcut⟩ := WriteIndices.getElem?_chunks hpart
  have hshort : part.length < 8192 := by
    rw [hcut]
    exact Nat.lt_of_le_of_lt (List.length_take_le _ _) (by decide)
  have hcount : UInt32.ofNat (narrowSession.splitContext payload .reliableOrdered 0 .high
      none).partCount = 1 := by
    simp only [splitContext, hlength]
    decide +kernel
  refine ⟨hj, hcut, ?_, rfl, rfl, rfl, ?_⟩
  · exact congrArg (Frame.overhead .reliableOrdered true + ·) (payloadLen_bitLengthOf hshort)
  · rw [SplitContext.frame, hcount, Nat.zero_add]
    rfl

/-- Only the last part has one byte, so only its frame fits 21 bytes. -/
theorem wrappedFrames_small (hlength : payload.length = 8589934593) {f : Frame}
    (hf : f ∈ wrappedFrames payload) (hsmall : f.encodedSize ≤ 21) :
    f.encodedSize = 21 ∧ f.payload = payload.drop 8589934592 ∧
    f.header = FrameHeader.new .reliableOrdered true false ∧
    f.orderingIndex = some (Sequence24.new 0) ∧ f.orderingChannel = some 0 ∧
    f.split = some ⟨1, 0, 0⟩ := by
  obtain ⟨j, hj⟩ := List.mem_iff_getElem?.mp hf
  obtain ⟨hlt, hpayload, hsize, hheader, hindex, hchannel, hsplit⟩ :=
    wrappedFrames_part hlength hj
  have hpart : f.payload.length = min 2 (8589934593 - j * 2) := by
    rw [hpayload, List.length_take, List.length_drop, hlength]
  obtain rfl : j = 4294967296 := by omega
  have htail : (payload.drop 8589934592).take 2 = payload.drop 8589934592 := by
    refine List.take_of_length_le ?_
    rw [List.length_drop, hlength]
    decide
  exact ⟨by omega, hpayload.trans htail, hheader, hindex, hchannel, hsplit⟩

/-- The last part is in the queue and fits. -/
theorem narrow_last_queued (hlength : payload.length = 8589934593) :
    ∃ q ∈ (narrowSession.step
        (.queuePayload payload .reliableOrdered 0 .high none)).1.queuedFrames,
      q.encodedSize = 21 := by
  have hcount : 4294967296 < (wrappedFrames payload).length := by
    rw [wrappedFrames, WriteIndices.length_partFrames, narrow_parts hlength,
      WriteIndices.length_chunks]
    decide
  obtain ⟨f, hf⟩ : ∃ f, (wrappedFrames payload)[4294967296]? = some f :=
    ⟨_, List.getElem?_eq_getElem hcount⟩
  obtain ⟨-, hpayload, hsize, -⟩ := wrappedFrames_part hlength hf
  have hmem := List.mem_of_getElem? hf
  rw [← narrow_made hlength] at hmem
  obtain ⟨q, hq, rfl⟩ := List.mem_map.mp hmem
  have hconserved := entries_conserved (F := ℚ) (H := SortedHeap QueuedFrame QueuedFrame.weight)
    26 wideQueue 0 [.queuePayload payload .reliableOrdered 0 .high none]
  simp only [Machine.outputs_cons, Machine.outputs_nil, List.flatMap_cons, List.flatMap_nil,
    List.append_nil, Machine.exec_cons, Machine.exec_nil, sessionMachine_step] at hconserved
  refine ⟨q, ?_, ?_⟩
  · have hfresh : (narrowSession.step
        (.queuePayload payload .reliableOrdered 0 .high none)).2.fresh = [] := rfl
    rw [narrowSession] at hq hfresh
    rw [hfresh, List.flatMap_nil, List.append_nil] at hconserved
    exact hconserved.symm.subset hq
  · rw [q.encodedSize_eq, hsize, hpayload, List.length_take, List.length_drop, hlength]
    decide

theorem narrow_emits (hlength : payload.length = 8589934593) :
    ∃ d ∈ emittedDatagrams narrowSession (wrappedRun payload), ∃ f, d.payload = .frames [f] ∧
      f.payload = payload.drop 8589934592 ∧
      f.header = FrameHeader.new .reliableOrdered true false ∧
      f.orderingIndex = some (Sequence24.new 0) ∧ f.orderingChannel = some 0 ∧
      f.split = some ⟨1, 0, 0⟩ := by
  obtain ⟨q, hq, hsize⟩ := narrow_last_queued hlength
  have hopen : narrowSession.canEmitNewReliableDatagram = true := by decide +kernel
  -- Queueing leaves the MTU and the window alone.
  have hsame : (narrowSession.step
        (.queuePayload payload .reliableOrdered 0 .high none)).1.mtu = 26 ∧
      (narrowSession.step
        (.queuePayload payload .reliableOrdered 0 .high none)).1.canEmitNewReliableDatagram
        = true := by
    obtain ⟨_, _, _, _, _, _, _, _, _, h⟩ :=
      narrowSession.queuePayloadWithReceipt_eq payload .reliableOrdered 0 .high none
    simp only [step, h]
    exact ⟨rfl, hopen⟩
  have hsome : ((narrowSession.step
      (.queuePayload payload .reliableOrdered 0 .high none)).1.buildDataDatagram 0 21).1.isSome
      = true := by
    refine buildDataDatagram_isSome hq ?_ (by decide) (Nat.le_of_eq hsize) (.inr hsame.2)
    rw [hsame.1, hsize]
    decide
  obtain ⟨b, hb⟩ := Option.isSome_iff_exists.mp hsome
  obtain ⟨hne, hbudget⟩ := buildDataDatagram_budget hb
  have hfits := (buildDataDatagram_fits (by rw [hsame.1]; decide) hb).size
  rw [hsame.1] at hfits
  have hfresh : b ∈ ((sessionMachine ℚ (SortedHeap QueuedFrame QueuedFrame.weight)).outputs
      (withTunables 26 wideQueue 0) (wrappedRun payload)).flatMap SessionOut.fresh :=
    List.mem_flatMap.mpr ⟨.built (some b), List.mem_cons_of_mem _ (hb ▸ List.mem_cons_self),
      List.mem_singleton_self b⟩
  have hemitted : b.datagram ∈ emittedDatagrams narrowSession (wrappedRun payload) := by
    obtain ⟨o, ho, hbo⟩ := List.mem_flatMap.mp hfresh
    exact List.mem_flatMap.mpr ⟨o, ho, List.mem_append_right _ (List.mem_map_of_mem hbo)⟩
  have hpayload := fresh_payload hfresh
  have hsmall : ∀ q ∈ b.queued, q.encodedSize = 21 ∧ q.frame ∈ wrappedFrames payload := by
    intro q hq
    have hmade : q.frame ∈ wrappedFrames payload := by
      have hmem : q.frame ∈ madeFrames narrowSession (wrappedRun payload) := by
        refine mem_madeFrames_of_emitted hemitted ?_
        rw [Datagram.framesOf, hpayload]
        exact List.mem_map_of_mem hq
      rwa [madeFrames_eq_flatMap, narrow_accepted hlength, List.flatMap_singleton] at hmem
    have hle := hbudget q hq
    rw [q.encodedSize_eq] at hle ⊢
    exact ⟨(wrappedFrames_small hlength hmade hle).1, hmade⟩
  -- A second frame does not fit the datagram.
  obtain ⟨q', rest, hqueued⟩ := List.exists_cons_of_ne_nil hne
  have hrest : rest = [] := by
    by_contra hmore
    obtain ⟨q'', rest', rfl⟩ := List.exists_cons_of_ne_nil hmore
    have h₁ := (hsmall q' (by simp [hqueued])).1
    have h₂ := (hsmall q'' (by simp [hqueued])).1
    rw [q'.encodedSize_eq] at h₁
    rw [q''.encodedSize_eq] at h₂
    simp only [Datagram.encodedSize, hpayload, hqueued, List.map_cons, List.sum_cons, h₁, h₂,
      raknetDatagramHeaderSize] at hfits
    omega
  subst hrest
  obtain ⟨hq'size, hq'made⟩ := hsmall q' (by simp [hqueued])
  rw [q'.encodedSize_eq] at hq'size
  obtain ⟨-, hfields⟩ := wrappedFrames_small hlength hq'made (Nat.le_of_eq hq'size)
  refine ⟨b.datagram, hemitted, q'.frame, ?_, hfields⟩
  rw [hpayload, hqueued, List.map_singleton]

/-- A part that announces no others is the whole payload for the receiver. -/
theorem single_part_returned {d : Datagram} {f : Frame} (hd : d.payload = .frames [f])
    (hheader : f.header = FrameHeader.new .reliableOrdered true false)
    (hindex : f.orderingIndex = some (Sequence24.new 0)) (hchannel : f.orderingChannel = some 0)
    (hsplit : f.split = some ⟨1, 0, 0⟩) :
    ∃ g : Frame, (concreteMachine.outputs (withTunables 1400 SessionTunables.standard 0)
        [.ingestDatagram d 0]) = [.received (.ok [g])] ∧
      orderedOn 0 [g] = [f.payload] := by
  set r : ConcreteSession := (withTunables 1400 SessionTunables.standard 0 :
    ConcreteSession).beginDatagram d [f] 0 with hr
  obtain ⟨-, hassembler, hordering⟩ := (withTunables 1400 SessionTunables.standard 0 :
    ConcreteSession).beginDatagram_filters d [f] 0
  rw [← hr] at hassembler hordering
  -- The compound is complete with its first part.
  have hadd : ∃ g, (r.splitAssembler.add f 0).1 = .ok (some g) ∧ g.payload = f.payload ∧
      g.header = FrameHeader.new .reliableOrdered false false ∧
      g.orderingIndex = some (Sequence24.new 0) ∧ g.orderingChannel = some 0 := by
    obtain ⟨header, bitLength, reliableIndex, sequenceIndex, orderingIndex, orderingChannel,
      split, part⟩ := f
    dsimp only at hheader hindex hchannel hsplit
    subst hheader hindex hchannel hsplit
    rw [hassembler]
    exact ⟨_, rfl, List.append_nil part, rfl, rfl, rfl⟩
  obtain ⟨g, hadd, hgpayload, hgheader, hgindex, hgchannel⟩ := hadd
  have hhandle : (r.handleFrame f 0).1 = .ok [g] := by
    have hnew : r.isDuplicate f = false := by
      rw [isDuplicate, hheader]
      rfl
    have houtcome := r.handleFrame_outcome f 0
    generalize r.handleFrame f 0 = result at houtcome
    cases houtcome with
    | duplicate hseen _ => rw [hnew] at hseen; cases hseen
    | refused _ hrefused => rw [hadd] at hrefused; cases hrefused
    | held _ hheld => rw [hadd] at hheld; cases hheld
    | @released _ complete hreleased =>
      rw [hadd] at hreleased
      cases hreleased
      obtain ⟨_, hafter⟩ := r.afterAssembly_eq f g 0
      have hfresh : (r.afterAssembly f g 0).ordering = OrderingChannels.new
          (SessionTunables.standard : SessionTunables ℚ).maxOrderingChannels
          (SessionTunables.standard : SessionTunables ℚ).maxOrderedPendingPerChannel
          (SessionTunables.standard : SessionTunables ℚ).maxOrderGap := by
        rw [hafter]
        exact hordering
      rcases (r.afterAssembly f g 0).releaseFrame_cases g with
        ⟨hseq, -⟩ | ⟨-, -, -, hreturned⟩ | ⟨-, hord, -⟩
      · rw [hgheader] at hseq
        cases hseq
      · have hready : ((r.afterAssembly f g 0).ordering.handleOrdered g).1 = .ready [g] := by
          rw [hfresh, OrderingChannels.handleOrdered, hgindex, hgchannel]
          rfl
        rw [hreturned, hready]
        rfl
      · rw [hgheader] at hord
        cases hord
  refine ⟨g, ?_, ?_⟩
  · simp only [Machine.outputs_cons, Machine.outputs_nil, sessionMachine_step, step,
      ingestDatagram_eq _ hd, handleFrames]
    generalize r.handleFrame f 0 = result at hhandle
    obtain ⟨result, s'⟩ := result
    dsimp only at hhandle
    subst hhandle
    rfl
  · rw [orderedOn_of_forall, List.map_singleton, hgpayload]
    intro g' hg'
    rw [List.mem_singleton.mp hg', Frame.OrderedOn, hgheader, hgchannel]
    exact ⟨rfl, rfl⟩

end Wrapped

/-- A payload in `2 ^ 32 + 1` parts announces one part. The receiver gets the last
    part alone, which has the number `2 ^ 32`, that is 0, and returns its byte as the
    ordered payload. -/
theorem wrapped_part_count_returned :
    (∀ c, ((acceptedPayloads narrowSession (wrappedRun (List.replicate 8589934593 7))).filter
      (AcceptedPayload.ordersOn c)).length ≤ 1) ∧
    ((acceptedPayloads narrowSession (wrappedRun (List.replicate 8589934593 7))).filter
      AcceptedPayload.isCut).length ≤ 1 ∧
    ∃ d ∈ emittedDatagrams narrowSession (wrappedRun (List.replicate 8589934593 7)),
      ∃ g : Frame, concreteMachine.outputs (withTunables 1400 SessionTunables.standard 0)
          [.ingestDatagram d 0] = [.received (.ok [g])] ∧
        orderedOn 0 [g] = [[7]] ∧
        acceptedOrderedOn 0 (acceptedPayloads narrowSession
          (wrappedRun (List.replicate 8589934593 7))) = [List.replicate 8589934593 7] ∧
        ¬ [[7]] <+: [List.replicate 8589934593 (7 : UInt8)] := by
  have hlength : (List.replicate 8589934593 (7 : UInt8)).length = 8589934593 :=
    List.length_replicate
  have htail : (List.replicate 8589934593 (7 : UInt8)).drop 8589934592 = [7] := by
    rw [List.drop_replicate]
    rfl
  generalize List.replicate 8589934593 (7 : UInt8) = payload at hlength htail ⊢
  obtain ⟨d, hd, f, hpayload, hpart, hheader, hindex, hchannel, hsplit⟩ := narrow_emits hlength
  obtain ⟨g, hreturned, hordered⟩ :=
    single_part_returned hpayload hheader hindex hchannel hsplit
  have haccepted := narrow_accepted hlength
  refine ⟨fun c => ?_, ?_, d, hd, g, hreturned, ?_, ?_, ?_⟩
  · rw [haccepted]
    exact List.length_filter_le _ _
  · rw [haccepted]
    exact List.length_filter_le _ _
  · rw [hordered, hpart, htail]
  · rw [haccepted]
    rfl
  · intro hbegin
    obtain rfl : [7] = payload := by simpa using hbegin
    cases hlength

end Session

end Raknet
