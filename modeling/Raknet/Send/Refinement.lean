-- SUMMARY: Every session operation is a list of events of the abstract sender.
import Raknet.Send.View
import Raknet.Session.Run

/-!
# The session refines the abstract sender

`Session.view` forgets everything but what the abstract sender knows.
`Session.events` reads off an operation and its output which abstract events it
performs, and `step_refines` says that the view moves by exactly these events.
-/

namespace Raknet

variable {F H : Type} [MinHeap H QueuedFrame QueuedFrame.weight]

def TrackedDatagram.live (t : TrackedDatagram) : LiveDatagram :=
  ⟨t.datagram, t.resendable, t.receiptIds⟩

namespace Session

/-- The abstract sender a session stands for. -/
def view (s : Session F H) : SendView :=
  { queue := s.queuedFrames
    writeIndex := s.datagramWriteIndex
    live := fun seq => (s.sentDatagrams.lookup seq).map TrackedDatagram.live
    counters := fun id => s.receiptTracking.lookup id
    acks := s.incomingAcks }

/-- The abstract events of an operation. -/
def events : SessionOp → SessionOut → List SendEvent
  | .queuePayload .., out => out.made.map .enqueue
  | .ingestDatagram d _, _ =>
    match d.payload with
    | .ack payload => [.receiveAcks payload.ranges]
    | _ => []
  | .handleAckPayload payload, _ => [.receiveAcks payload.ranges]
  | .processIncomingReceipts _, _ => [.processAcks]
  | _, out => out.fresh.map .emit

/-! ## The queue -/

/-- The pop loop moves entries from the heap to the selected one and the ones
    set aside. -/
theorem popCandidates_bag (fits : QueuedFrame → Bool) (fuel : Nat) (heap : H)
    (deferred : List QueuedFrame) :
    ((popCandidates fits fuel heap deferred).1.toList : Multiset QueuedFrame)
        + (popCandidates fits fuel heap deferred).2.1
        + MinHeap.toList (popCandidates fits fuel heap deferred).2.2
      = (deferred : Multiset QueuedFrame) + MinHeap.toList heap := by
  induction fuel generalizing heap deferred with
  | zero => simp [popCandidates]
  | succ fuel ih =>
    unfold popCandidates
    cases hp : MinHeap.pop heap with
    | none => simp
    | some r =>
      obtain ⟨candidate, heap'⟩ := r
      have hperm : (MinHeap.toList heap : Multiset QueuedFrame)
          = candidate ::ₘ (MinHeap.toList heap' : Multiset QueuedFrame) :=
        Multiset.coe_eq_coe.mpr (MinHeap.pop_some _ _ _ hp).1
      dsimp only
      split
      · rw [hperm]
        simp only [Option.toList, Multiset.coe_singleton, ← Multiset.singleton_add]
        rw [add_comm ({candidate} : Multiset QueuedFrame), add_assoc]
      · rw [ih, hperm, ← Multiset.coe_add, Multiset.coe_singleton, add_assoc,
          Multiset.singleton_add]

theorem foldl_push_bag (items : List QueuedFrame) (heap : H) :
    (MinHeap.toList (items.foldl MinHeap.push heap) : Multiset QueuedFrame)
      = (items : Multiset QueuedFrame) + MinHeap.toList heap := by
  induction items generalizing heap with
  | nil => simp
  | cons x xs ih =>
    have hpush : (MinHeap.toList (MinHeap.push heap x) : Multiset QueuedFrame)
        = x ::ₘ (MinHeap.toList heap : Multiset QueuedFrame) :=
      Multiset.coe_eq_coe.mpr (MinHeap.toList_push heap x)
    rw [List.foldl_cons, ih, hpush, ← Multiset.cons_coe, Multiset.cons_add, Multiset.add_cons]

/-- `pop_next_frame_for_datagram` takes the selected entry out of the queue and
    changes nothing else. -/
theorem popNextFrameForDatagram_view (s : Session F H) (allowReliable : Bool)
    (datagramSize budget : Nat) :
    ∃ heap : H,
      (s.popNextFrameForDatagram allowReliable datagramSize budget).2
        = { s with outgoingHeap := heap } ∧
      s.view.queue
        = ((s.popNextFrameForDatagram allowReliable datagramSize budget).1.toList
            : Multiset QueuedFrame) + MinHeap.toList heap := by
  refine ⟨_, rfl, ?_⟩
  have h := popCandidates_bag (H := H) (fun candidate : QueuedFrame =>
    decide (datagramSize + candidate.encodedSize ≤ s.mtu) &&
      decide (candidate.encodedSize ≤ budget) && (allowReliable || !candidate.isReliable))
    (MinHeap.size s.outgoingHeap) s.outgoingHeap []
  simp only [Multiset.coe_nil, zero_add] at h
  simp only [view, queuedFrames, popNextFrameForDatagram, foldl_push_bag, ← h, add_assoc]

/-! ## New datagrams -/

/-- The counters of a receipt map. -/
def countersOf (tracking : AssocMap UInt64 Nat) : UInt64 → Option Nat := fun id => tracking.lookup id

theorem countersOf_insert (tracking : AssocMap UInt64 Nat) (id : UInt64) (n : Nat) :
    countersOf (tracking.insert id n) = Function.update (countersOf tracking) id (some n) := by
  funext id'
  simp only [countersOf, AssocMap.lookup_insert_eq, Function.update_apply]

theorem countersOf_erase (tracking : AssocMap UInt64 Nat) (id : UInt64) :
    countersOf (tracking.erase id) = Function.update (countersOf tracking) id none := by
  funext id'
  simp only [countersOf, AssocMap.lookup_erase_eq, Function.update_apply]

theorem countersOf_foldl_countReceipt (ids : List UInt64) (tracking : AssocMap UInt64 Nat) :
    countersOf (ids.foldl countReceipt tracking)
      = ids.foldl SendView.countReceipt (countersOf tracking) := by
  induction ids generalizing tracking with
  | nil => rfl
  | cons id ids ih =>
    rw [List.foldl_cons, List.foldl_cons, ih]
    rw [countReceipt, countersOf_insert]
    rfl

/-- The live datagrams of a map of tracked ones. -/
def liveOf (sent : AssocMap Sequence24 TrackedDatagram) : Sequence24 → Option LiveDatagram :=
  fun seq => (sent.lookup seq).map TrackedDatagram.live

theorem liveOf_insert (sent : AssocMap Sequence24 TrackedDatagram) (seq : Sequence24)
    (t : TrackedDatagram) :
    liveOf (sent.insert seq t) = Function.update (liveOf sent) seq (some t.live) := by
  funext seq'
  simp only [liveOf, AssocMap.lookup_insert_eq, Function.update_apply]
  split <;> rfl

theorem liveOf_erase (sent : AssocMap Sequence24 TrackedDatagram) (seq : Sequence24) :
    liveOf (sent.erase seq) = Function.update (liveOf sent) seq none := by
  funext seq'
  simp only [liveOf, AssocMap.lookup_erase_eq, Function.update_apply]
  split <;> rfl

/-- A new stamp on a tracked datagram does not show. -/
theorem liveOf_restamp {sent : AssocMap Sequence24 TrackedDatagram} {seq : Sequence24}
    {t t' : TrackedDatagram} (h : sent.lookup seq = some t) (hlive : t'.live = t.live) :
    liveOf (sent.insert seq t') = liveOf sent := by
  rw [liveOf_insert, hlive]
  refine Function.update_eq_self_iff.mpr ?_
  simp [liveOf, h]

/-- The view of a session, by its fields. -/
theorem view_mk (s : Session F H) :
    s.view = ⟨MinHeap.toList s.outgoingHeap, s.datagramWriteIndex, liveOf s.sentDatagrams,
      countersOf s.receiptTracking, s.incomingAcks⟩ := rfl

/-- A datagram made of queue entries has a reliable frame exactly if one of the
    entries is marked reliable. -/
theorem anyFrame_isReliable {b : BuiltDatagram}
    (h : b.datagram.payload = .frames (b.queued.map QueuedFrame.frame)) :
    b.datagram.anyFrame Reliability.isReliable = b.hasReliable := by
  simp only [Datagram.anyFrame, Datagram.framesOf, h, List.any_map, BuiltDatagram.hasReliable]
  exact congrArg b.queued.any (funext fun q => q.isReliable_eq.symm)

/-- Tracking a datagram that needs it makes it live. -/
theorem trackSentReliableDatagram_view (s : Session F H) {b : BuiltDatagram} (now : Instant)
    (hpayload : b.datagram.payload = .frames (b.queued.map QueuedFrame.frame))
    (ht : b.tracked = true) :
    (s.trackSentReliableDatagram b.datagram now b.receiptIds).view =
      { s.view with
        live := Function.update s.view.live b.sequence (some b.live)
        counters := b.receiptIds.foldl SendView.countReceipt s.view.counters } := by
  have hguard : (!b.hasReliable && !b.datagram.anyFrame Reliability.isWithAckReceipt
      && b.receiptIds.isEmpty) = false := by
    simp only [BuiltDatagram.tracked, Bool.or_eq_true, Bool.not_eq_true'] at ht
    rcases ht with h | h <;> simp [h]
  simp only [trackSentReliableDatagram, anyFrame_isReliable hpayload, hguard,
    Bool.false_eq_true, if_false, view_mk, liveOf_insert, countersOf_foldl_countReceipt]
  rfl

/-- What a call of `build_data_datagram` does to the view: it emits one
    datagram, or nothing. -/
def BuildStep (v v' : SendView) : Option BuiltDatagram → Prop
  | none => v' = v
  | some b => v.Enabled (.emit b) ∧ v' = v.emit b

/-- Sealing a packed datagram emits it, if its entries came from the queue. -/
theorem sealDatagram_view (s : Session F H) (v : SendView) (p : Packing) (now : Instant)
    (hne : p.taken ≠ []) (hq : v.queue = (p.taken : Multiset QueuedFrame) + s.view.queue)
    (hrest : v = { s.view with queue := v.queue }) :
    BuildStep v (s.sealDatagram p now).2.view (some (s.sealDatagram p now).1) := by
  have hseq : s.datagramWriteIndex = v.writeIndex := by rw [hrest]; rfl
  have hqueue : v.queue - (p.taken : Multiset QueuedFrame) = s.view.queue := by
    rw [hq, add_tsub_cancel_left]
  refine ⟨⟨hne, ?_, hseq, rfl⟩, ?_⟩
  · exact hq ▸ Multiset.le_add_right _ _
  · have hlive : v.live = s.view.live := by rw [hrest]
    have hcounters : v.counters = s.view.counters := by rw [hrest]
    have hacks : v.acks = s.view.acks := by rw [hrest]
    cases ht : (s.sealDatagram p now).1.tracked with
    | true =>
      have hs : (s.sealDatagram p now).2 = s.nextDatagramSequence.2.trackSentReliableDatagram
          (s.sealDatagram p now).1.datagram now (s.sealDatagram p now).1.receiptIds := if_pos ht
      rw [hs, trackSentReliableDatagram_view _ now rfl ht]
      simp only [SendView.emit, ht, if_true, hlive, hcounters, hacks, ← hseq]
      exact SendView.ext hqueue.symm rfl rfl rfl rfl
    | false =>
      have hs : (s.sealDatagram p now).2 = s.nextDatagramSequence.2 :=
        if_neg (Bool.eq_false_iff.mp ht)
      rw [hs]
      simp only [SendView.emit, ht, Bool.false_eq_true, if_false, hlive, hcounters, hacks, ← hseq]
      exact SendView.ext hqueue.symm rfl rfl rfl rfl

/-! ## Queueing -/

theorem pushOutgoingFrame_view (s : Session F H) (frame : Frame) (priority : RakPriority)
    (receiptId : Option UInt64) :
    (s.pushOutgoingFrame frame priority receiptId).2.view
      = s.view.enqueue (s.pushOutgoingFrame frame priority receiptId).1 := by
  refine SendView.ext ?_ rfl rfl rfl rfl
  exact Multiset.coe_eq_coe.mpr (MinHeap.toList_push _ _)

theorem reliableIndexIfNeeded_view (s : Session F H) (reliability : Reliability) :
    (s.reliableIndexIfNeeded reliability).2.view = s.view := by
  unfold reliableIndexIfNeeded
  split <;> rfl

theorem nextOrderingIndexIfNeeded_view (s : Session F H) (reliability : Reliability)
    (channel : UInt8) : (s.nextOrderingIndexIfNeeded reliability channel).2.view = s.view := by
  unfold nextOrderingIndexIfNeeded
  split <;> rfl

theorem nextSequenceIndexIfNeeded_view (s : Session F H) (reliability : Reliability)
    (channel : UInt8) : (s.nextSequenceIndexIfNeeded reliability channel).2.view = s.view := by
  unfold nextSequenceIndexIfNeeded
  split <;> rfl

theorem enqueueSingleFrame_view (s : Session F H) (payload : Bytes) (reliability : Reliability)
    (channel : UInt8) (priority : RakPriority) (receiptId : Option UInt64) :
    (s.enqueueSingleFrame payload reliability channel priority receiptId).2.2.view
      = sendMachine.exec s.view
          ((s.enqueueSingleFrame payload reliability channel priority receiptId).2.1.map
            .enqueue) := by
  simp only [enqueueSingleFrame, pushOutgoingFrame_view, reliableIndexIfNeeded_view,
    nextSequenceIndexIfNeeded_view, nextOrderingIndexIfNeeded_view]
  rfl

theorem enqueueParts_view (c : SplitContext) (n idx : Nat) (payload : Bytes) (s : Session F H) :
    (enqueueParts c n idx payload s).2.2.view
      = sendMachine.exec s.view ((enqueueParts c n idx payload s).2.1.map .enqueue) := by
  induction n generalizing idx payload s with
  | zero => rfl
  | succ n ih =>
    simp only [enqueueParts, ih, pushOutgoingFrame_view, reliableIndexIfNeeded_view]
    rfl

theorem enqueueSplitFrames_view (s : Session F H) (payload : Bytes) (reliability : Reliability)
    (channel : UInt8) (priority : RakPriority) (receiptId : Option UInt64) :
    (s.enqueueSplitFrames payload reliability channel priority receiptId).2.2.view
      = sendMachine.exec s.view
          ((s.enqueueSplitFrames payload reliability channel priority receiptId).2.1.map
            .enqueue) := by
  simp only [enqueueSplitFrames, enqueueParts_view, nextSequenceIndexIfNeeded_view,
    nextOrderingIndexIfNeeded_view]
  rfl

/-! ## Packing -/

variable [F64 F]

/-- The packing loop moves entries from the queue to the datagram, and their
    sizes out of the byte count. -/
theorem packLoop_view (fuel : Nat) (p : Packing) (s : Session F H) :
    ∃ (heap : H) (new : List QueuedFrame),
      (packLoop fuel p s).2 =
        { s with
          outgoingHeap := heap
          outgoingQueuedBytes := s.outgoingQueuedBytes - (new.map QueuedFrame.encodedSize).sum } ∧
      (packLoop fuel p s).1.taken = p.taken ++ new ∧
      s.view.queue = (new : Multiset QueuedFrame) + MinHeap.toList heap := by
  induction fuel generalizing p s with
  | zero =>
    exact ⟨s.outgoingHeap, [], rfl, by simp [packLoop], by simp [view, queuedFrames]⟩
  | succ fuel ih =>
    simp only [packLoop]
    obtain ⟨heap, hs, hq⟩ := s.popNextFrameForDatagram_view
      (p.hasReliable || s.canEmitNewReliableDatagram) p.datagramSize p.remainingBytesBudget
    generalize s.popNextFrameForDatagram (p.hasReliable || s.canEmitNewReliableDatagram)
      p.datagramSize p.remainingBytesBudget = r at hs hq
    obtain ⟨selected, s'⟩ := r
    dsimp only at hs hq
    subst hs
    cases selected with
    | none => exact ⟨heap, [], rfl, (List.append_nil _).symm, by simpa using hq⟩
    | some queued =>
      obtain ⟨heap', new, hs', htaken, hq'⟩ := ih (p.add queued)
        { s with
          outgoingHeap := heap
          outgoingQueuedBytes := s.outgoingQueuedBytes - queued.encodedSize }
      refine ⟨heap', queued :: new, ?_, by simpa [Packing.add] using htaken, ?_⟩
      · rw [hs', List.map_cons, List.sum_cons, Nat.sub_add_eq]
      · simp only [view, queuedFrames] at hq' hq
        simp only [view, queuedFrames, hq, hq', Option.toList, ← Multiset.cons_coe]
        simp

theorem buildDataDatagram_view (s : Session F H) (now : Instant) (budget : Nat) :
    BuildStep s.view (s.buildDataDatagram now budget).2.2.view
      (s.buildDataDatagram now budget).1 := by
  unfold buildDataDatagram
  split
  · rfl
  · obtain ⟨heap, new, hs, htaken, hq⟩ := packLoop_view s.pendingOutgoingFrames
      ⟨[], raknetDatagramHeaderSize, budget⟩ s
    generalize packLoop s.pendingOutgoingFrames ⟨[], raknetDatagramHeaderSize, budget⟩ s = r
      at hs htaken
    obtain ⟨p, s'⟩ := r
    dsimp only at hs htaken
    subst hs
    rw [List.nil_append] at htaken
    subst htaken
    dsimp only
    split
    · next hempty =>
      rw [List.isEmpty_iff.mp hempty, Multiset.coe_nil, zero_add] at hq
      exact SendView.ext hq.symm rfl rfl rfl rfl
    · next hne =>
      exact sealDatagram_view _ s.view p now (fun h => hne (by simp [h])) hq rfl

/-- The views of a list of emissions. -/
theorem buildLoop_view (now : Instant) (n budget : Nat) (s : Session F H) :
    sendMachine.AllSteps SendView.Enabled s.view ((buildLoop now n budget s).1.map .emit) ∧
    (buildLoop now n budget s).2.view
      = sendMachine.exec s.view ((buildLoop now n budget s).1.map .emit) := by
  induction n generalizing budget s with
  | zero => exact ⟨trivial, rfl⟩
  | succ n ih =>
    have hbuild := s.buildDataDatagram_view now budget
    unfold buildLoop
    generalize s.buildDataDatagram now budget = r at hbuild
    obtain ⟨built, remaining, s'⟩ := r
    cases built with
    | none => exact ⟨trivial, hbuild⟩
    | some b =>
      obtain ⟨henabled, hview⟩ := hbuild
      dsimp only at hview ⊢
      split
      · exact ⟨⟨henabled, trivial⟩, hview⟩
      · obtain ⟨hall, hexec⟩ := ih remaining s'
        rw [hview] at hall hexec
        exact ⟨⟨henabled, hall⟩, hexec⟩

theorem buildLoop_length (now : Instant) (n budget : Nat) (s : Session F H) :
    (buildLoop now n budget s).1.length ≤ n := by
  induction n generalizing budget s with
  | zero => simp [buildLoop]
  | succ n ih =>
    unfold buildLoop
    split
    · simp
    · next built remaining s' _ =>
      split
      · simp
      · simpa using ih remaining s'

/-! ## Resends -/

omit [F64 F] in
/-- Resending stamps tracked datagrams and emits their contents again. -/
theorem resendSelected_view (now nextSendAt : Instant) (selected : List Sequence24)
    (s : Session F H) :
    (resendSelected now nextSendAt selected s).2.view = s.view ∧
    ∀ d ∈ (resendSelected now nextSendAt selected s).1,
      ∃ seq l, s.view.live seq = some l ∧ l.datagram = d := by
  induction selected generalizing s with
  | nil => exact ⟨rfl, by simp [resendSelected]⟩
  | cons seq rest ih =>
    unfold resendSelected
    cases hl : s.sentDatagrams.lookup seq with
    | none => exact ih s
    | some t =>
      dsimp only
      generalize hs' : ({ s with
        sentDatagrams := s.sentDatagrams.insert seq _
        metrics := _ } : Session F H) = s'
      have hview : s'.view = s.view := by
        subst hs'
        exact SendView.ext rfl rfl (liveOf_restamp hl rfl) rfl rfl
      obtain ⟨ihv, ihd⟩ := ih s'
      rw [hview] at ihv ihd
      refine ⟨ihv, fun d hd => ?_⟩
      rcases List.mem_cons.mp hd with rfl | hd
      · exact ⟨seq, t.live, by simp [view, hl], rfl⟩
      · exact ihd d hd

theorem collectResendable_view (s : Session F H) (now : Instant) (maxCount maxBytes : Nat) :
    (s.collectResendable now maxCount maxBytes).2.view = s.view ∧
    ∀ d ∈ (s.collectResendable now maxCount maxBytes).1,
      ∃ seq l, s.view.live seq = some l ∧ l.datagram = d := by
  unfold collectResendable
  generalize selectResendable now maxCount maxBytes s.sentInOrder 0 [] false = r
  obtain ⟨selected, timeout⟩ := r
  dsimp only
  split
  · exact ⟨rfl, by simp⟩
  · cases timeout with
    | false => exact resendSelected_view _ _ _ _
    | true => exact resendSelected_view _ _ _ { s with congestion := s.congestion.onTimeout now }

/-! ## Acknowledgements -/

theorem foldl_ackReceipt_counters (ids : List UInt64)
    (acc : AssocMap UInt64 Nat × List UInt64) :
    ids.foldl SendView.ackReceipt (countersOf acc.1, acc.2)
      = (countersOf (ids.foldl ackReceipt acc).1, (ids.foldl ackReceipt acc).2) := by
  induction ids generalizing acc with
  | nil => rfl
  | cons id ids ih =>
    rw [List.foldl_cons, List.foldl_cons, ← ih]
    congr 1
    simp only [SendView.ackReceipt, ackReceipt, countersOf]
    cases acc.1.lookup id with
    | none => rfl
    | some pending =>
      dsimp only
      split
      · exact Prod.ext (countersOf_insert _ _ _).symm rfl
      · exact Prod.ext (countersOf_erase _ _).symm rfl

theorem ackSequence_view (now : Instant) (acc : ReceiptProgress × Session F H)
    (seq : Sequence24) :
    ((ackSequence now acc seq).2.view, (ackSequence now acc seq).1.ackedReceiptIds)
      = SendView.ackSequence (acc.2.view, acc.1.ackedReceiptIds) seq := by
  obtain ⟨progress, s⟩ := acc
  simp only [ackSequence, SendView.ackSequence, view_mk, liveOf]
  cases hl : s.sentDatagrams.lookup seq with
  | none => rfl
  | some t =>
    simp only [Option.map_some, TrackedDatagram.live]
    rw [foldl_ackReceipt_counters t.receiptIds (s.receiptTracking, progress.ackedReceiptIds)]
    dsimp only
    rw [liveOf_erase]

theorem foldl_ackSequence_view (now : Instant) (seqs : List Sequence24)
    (acc : ReceiptProgress × Session F H) :
    ((seqs.foldl (ackSequence now) acc).2.view,
        (seqs.foldl (ackSequence now) acc).1.ackedReceiptIds)
      = seqs.foldl SendView.ackSequence (acc.2.view, acc.1.ackedReceiptIds) := by
  induction seqs generalizing acc with
  | nil => rfl
  | cons seq seqs ih => rw [List.foldl_cons, List.foldl_cons, ih, ackSequence_view]

omit [F64 F] in
/-- Negative acknowledgements only restamp. -/
theorem foldl_nackSequence_view (now : Instant) (seqs : List Sequence24)
    (acc : ReceiptProgress × Session F H) :
    (seqs.foldl (nackSequence now) acc).2.view = acc.2.view ∧
    (seqs.foldl (nackSequence now) acc).1.ackedReceiptIds = acc.1.ackedReceiptIds := by
  induction seqs generalizing acc with
  | nil => exact ⟨rfl, rfl⟩
  | cons seq seqs ih =>
    rw [List.foldl_cons, (ih _).1, (ih _).2]
    obtain ⟨progress, s⟩ := acc
    unfold nackSequence
    cases hl : s.sentDatagrams.lookup seq with
    | none => simp [hl]
    | some t =>
      simp only [hl]
      split
      · exact ⟨SendView.ext rfl rfl (liveOf_restamp hl rfl) rfl rfl, rfl⟩
      · exact ⟨rfl, rfl⟩

theorem processIncomingReceipts_view (s : Session F H) (now : Instant) :
    ((s.processIncomingReceipts now).2.view, (s.processIncomingReceipts now).1.ackedReceiptIds)
      = s.view.processAcks := by
  have hacks := foldl_ackSequence_view now (sequencesOf s.incomingAcks)
    (⟨0, 0, []⟩, { s with incomingAcks := [] })
  unfold processIncomingReceipts processAcks processNacks
  generalize (sequencesOf s.incomingAcks).foldl (ackSequence now)
    (⟨0, 0, []⟩, { s with incomingAcks := [] }) = r at hacks
  obtain ⟨progress, s₁⟩ := r
  dsimp only at hacks ⊢
  generalize hs₂ : ({ s₁ with incomingNacks := [], metrics := _ } : Session F H) = s₂
  have h₂ : s₂.view = s₁.view := by subst hs₂; rfl
  have hn := foldl_nackSequence_view now (sequencesOf s₁.incomingNacks) (progress, s₂)
  generalize (sequencesOf s₁.incomingNacks).foldl (nackSequence now) (progress, s₂) = r at hn
  obtain ⟨progress', s₃⟩ := r
  dsimp only at hn ⊢
  refine Eq.trans (Prod.ext ?_ hn.2) hacks
  refine Eq.trans ?_ (hn.1.trans h₂)
  split <;> rfl

theorem queuePayloadWithReceipt_view (s : Session F H) (payload : Bytes)
    (reliability : Reliability) (channel : UInt8) (priority : RakPriority)
    (receiptId : Option UInt64) :
    (s.queuePayloadWithReceipt payload reliability channel priority receiptId).2.2.view
      = sendMachine.exec s.view
          ((s.queuePayloadWithReceipt payload reliability channel priority receiptId).2.1.map
            .enqueue) := by
  rcases s.queuePayloadWithReceipt_cases payload reliability channel priority receiptId with
    ⟨_, _, _, -, heq⟩ | ⟨-, heq⟩ | ⟨-, heq⟩
  · rw [heq]
    rfl
  · rw [heq]
    exact s.enqueueSingleFrame_view payload reliability channel priority receiptId
  · rw [heq]
    exact s.enqueueSplitFrames_view payload reliability channel priority receiptId

/-! ## Operations without an abstract event -/

omit [F64 F] in
theorem processDatagramSequence_view (s : Session F H) (seq : Sequence24) (now : Instant) :
    (s.processDatagramSequence seq now).view = s.view := by
  obtain ⟨_, _, _, _, h⟩ := s.processDatagramSequence_eq seq now
  rw [h]
  rfl

omit [F64 F] in
theorem handleFrames_view (now : Instant) (frames : List Frame) (s : Session F H) :
    (handleFrames now frames s).2.view = s.view := by
  obtain ⟨_, _, _, _, h⟩ := handleFrames_eq now frames s
  rw [h]
  rfl

omit [F64 F] in
theorem drainAckDatagram_view (s : Session F H) (now : Instant) :
    (s.drainAckDatagram now).2.view = s.view := by
  unfold drainAckDatagram
  dsimp only
  split <;> rfl

omit [F64 F] in
theorem drainNackDatagram_view (s : Session F H) (now : Instant) :
    (s.drainNackDatagram now).2.view = s.view := by
  unfold drainNackDatagram
  dsimp only
  split <;> rfl

omit [F64 F] in
theorem flushAckIfDue_view (s : Session F H) (now : Instant) :
    (s.flushAckIfDue now).2.view = s.view := by
  unfold flushAckIfDue
  split
  · rfl
  · exact s.drainAckDatagram_view now

omit [F64 F] in
theorem flushNackIfDue_view (s : Session F H) (now : Instant) :
    (s.flushNackIfDue now).2.view = s.view := by
  unfold flushNackIfDue
  split
  · rfl
  · exact s.drainNackDatagram_view now

omit [F64 F] in
theorem flushControl_view (s : Session F H) (now : Instant) :
    (s.flushControl now).2.view = s.view := by
  unfold flushControl
  split
  · simp only [flushAckIfDue_view, flushNackIfDue_view]
  · simp only [flushAckIfDue_view, flushNackIfDue_view]

omit [F64 F] in
theorem forceControlFlushDeadlines_view (s : Session F H) (now : Instant) :
    (s.forceControlFlushDeadlines now).view = s.view := by
  unfold forceControlFlushDeadlines
  dsimp only
  split <;> split <;> rfl

/-! ## The tick -/

/-- A tick resends live datagrams and then emits new ones. -/
theorem onTick_view (s : Session F H) (now : Instant)
    (maxNew maxNewBytes maxResend maxResendBytes : Nat) :
    sendMachine.AllSteps SendView.Enabled s.view
      ((s.onTick now maxNew maxNewBytes maxResend maxResendBytes).1.fresh.map .emit) ∧
    (s.onTick now maxNew maxNewBytes maxResend maxResendBytes).2.view
      = sendMachine.exec s.view
          ((s.onTick now maxNew maxNewBytes maxResend maxResendBytes).1.fresh.map .emit) ∧
    (∀ d ∈ (s.onTick now maxNew maxNewBytes maxResend maxResendBytes).1.resent,
      ∃ seq l, s.view.live seq = some l ∧ l.datagram = d) ∧
    (s.onTick now maxNew maxNewBytes maxResend maxResendBytes).1.fresh.length ≤ maxNew := by
  unfold onTick
  dsimp only
  generalize hs₁ : ({ s with
    pacing := s.pacing.refreshPacingBudget s.congestion s.mtu now } : Session F H) = s₁
  have h₁ : s₁.view = s.view := by subst hs₁; rfl
  have h₂ : (s₁.flushControl now).2.view = s.view := (s₁.flushControl_view now).trans h₁
  generalize (s₁.flushControl now).2 = s₂ at h₂
  obtain ⟨h₃, hresent⟩ := s₂.collectResendable_view now maxResend
    (min maxResendBytes s₂.pacing.availableBytes)
  generalize s₂.collectResendable now maxResend _ = r at h₃ hresent
  obtain ⟨resent, s₃⟩ := r
  dsimp only at h₃ hresent ⊢
  rw [h₂] at h₃ hresent
  generalize hs₄ : ({ s₃ with pacing := _ } : Session F H) = s₄
  have h₄ : s₄.view = s.view := by subst hs₄; exact h₃
  obtain ⟨hall, hexec⟩ := buildLoop_view now maxNew (s₄.newBytesBudget maxNewBytes) s₄
  rw [h₄] at hall hexec
  exact ⟨hall, hexec, hresent, buildLoop_length _ _ _ _⟩

/-! ## The refinement -/

/-- One operation of a session performs its abstract events, and reports the
    receipts they report. -/
theorem step_refines (s : Session F H) (op : SessionOp) :
    sendMachine.AllSteps SendView.Enabled s.view (events op (s.step op).2) ∧
    (s.step op).1.view = sendMachine.exec s.view (events op (s.step op).2) ∧
    (s.step op).2.ackedReceiptIds
      = (sendMachine.outputs s.view (events op (s.step op).2)).flatten := by
  cases op with
  | queuePayload payload reliability channel priority receiptId =>
    refine ⟨sendMachine.allSteps_of_mem fun e he v => ?_,
      s.queuePayloadWithReceipt_view payload reliability channel priority receiptId,
      (SendView.reported_enqueue _ _).symm⟩
    obtain ⟨q, -, rfl⟩ := List.mem_map.mp he
    trivial
  | ingestDatagram d now =>
    simp only [step, ingestDatagram, events]
    cases d.payload with
    | frames frames =>
      refine ⟨trivial, ?_, rfl⟩
      exact (handleFrames_view now frames _).trans (processDatagramSequence_view _ _ now)
    | ack payload => exact ⟨⟨trivial, trivial⟩, rfl, rfl⟩
    | nack payload => exact ⟨trivial, rfl, rfl⟩
  | processDatagramSequence seq now =>
    exact ⟨trivial, s.processDatagramSequence_view seq now, rfl⟩
  | handleAckPayload payload => exact ⟨⟨trivial, trivial⟩, rfl, rfl⟩
  | handleNackPayload payload => exact ⟨trivial, rfl, rfl⟩
  | processIncomingReceipts now =>
    have h := s.processIncomingReceipts_view now
    refine ⟨⟨trivial, trivial⟩, congrArg Prod.fst h, ?_⟩
    exact (congrArg Prod.snd h).trans (List.append_nil _).symm
  | collectResendable now maxCount maxBytes =>
    exact ⟨trivial, (s.collectResendable_view now maxCount maxBytes).1, rfl⟩
  | buildDataDatagram now budget =>
    have h := s.buildDataDatagram_view now budget
    simp only [step, events, SessionOut.fresh]
    generalize s.buildDataDatagram now budget = r at h
    obtain ⟨built, remaining, s'⟩ := r
    cases built with
    | none => exact ⟨trivial, h, rfl⟩
    | some b => exact ⟨⟨h.1, trivial⟩, h.2, rfl⟩
  | onTick now maxNew maxNewBytes maxResend maxResendBytes =>
    obtain ⟨hall, hexec, -⟩ := s.onTick_view now maxNew maxNewBytes maxResend maxResendBytes
    exact ⟨hall, hexec, (SendView.reported_emit _ _).symm⟩
  | drainAckDatagram now => exact ⟨trivial, s.drainAckDatagram_view now, rfl⟩
  | drainNackDatagram now => exact ⟨trivial, s.drainNackDatagram_view now, rfl⟩
  | pruneSplitState now => exact ⟨trivial, rfl, rfl⟩
  | forceControlFlushDeadlines now =>
    exact ⟨trivial, s.forceControlFlushDeadlines_view now, rfl⟩
  | setMtu mtu => exact ⟨trivial, rfl, rfl⟩
  | transitionTo next =>
    simp only [step, events, transitionTo]
    split <;> exact ⟨trivial, rfl, rfl⟩
  | touchActivity now => exact ⟨trivial, rfl, rfl⟩
  | markKeepaliveSent now => exact ⟨trivial, rfl, rfl⟩
  | takeBackpressureDisconnect => exact ⟨trivial, rfl, rfl⟩

/-- The events of an operation emit and queue what the operation returns. -/
theorem events_outputs (s : Session F H) (op : SessionOp) :
    (events op (s.step op).2).flatMap SendEvent.emitted = (s.step op).2.fresh ∧
    (events op (s.step op).2).flatMap SendEvent.made = (s.step op).2.made := by
  cases op with
  | ingestDatagram d now =>
    simp only [step, events]
    cases d.payload <;> exact ⟨rfl, rfl⟩
  | queuePayload payload reliability channel priority receiptId =>
    exact ⟨SendEvent.flatMap_emitted_enqueue _, SendEvent.flatMap_made_enqueue _⟩
  | onTick now maxNew maxNewBytes maxResend maxResendBytes =>
    exact ⟨SendEvent.flatMap_emitted_emit _, SendEvent.flatMap_made_emit _⟩
  | buildDataDatagram now budget =>
    exact ⟨SendEvent.flatMap_emitted_emit _, SendEvent.flatMap_made_emit _⟩
  | _ => exact ⟨rfl, rfl⟩

/-- A condition on the events of an operation, from what it returns. -/
theorem events_allSteps {C : SendView → SendEvent → Prop} {s : Session F H} {op : SessionOp}
    (hmade : ∀ q ∈ (s.step op).2.made, ∀ v, C v (.enqueue q))
    (hfresh : ∀ b ∈ (s.step op).2.fresh, ∀ v, C v (.emit b))
    (hreceive : ∀ ranges v, C v (.receiveAcks ranges))
    (hprocess : ∀ now, op = .processIncomingReceipts now → C s.view .processAcks) :
    sendMachine.AllSteps C s.view (events op (s.step op).2) := by
  cases op with
  | queuePayload payload reliability channel priority receiptId =>
    refine sendMachine.allSteps_of_mem fun e he => ?_
    obtain ⟨q, hq, rfl⟩ := List.mem_map.mp he
    exact hmade q hq
  | ingestDatagram d now =>
    simp only [events]
    cases d.payload with
    | ack payload => exact ⟨hreceive _ _, trivial⟩
    | _ => exact trivial
  | handleAckPayload payload => exact ⟨hreceive _ _, trivial⟩
  | processIncomingReceipts now => exact ⟨hprocess now rfl, trivial⟩
  | _ =>
    refine sendMachine.allSteps_of_mem fun e he => ?_
    obtain ⟨b, hb, rfl⟩ := List.mem_map.mp he
    exact hfresh b hb

/-- What an operation sends again is live. -/
theorem step_resent (s : Session F H) (op : SessionOp) {d : Datagram}
    (hd : d ∈ (s.step op).2.resentDatagrams) :
    ∃ seq l, s.view.live seq = some l ∧ l.datagram = d := by
  cases op with
  | collectResendable now maxCount maxBytes =>
    exact (s.collectResendable_view now maxCount maxBytes).2 d hd
  | onTick now maxNew maxNewBytes maxResend maxResendBytes =>
    exact (s.onTick_view now maxNew maxNewBytes maxResend maxResendBytes).2.2.1 d hd
  | _ => exact absurd hd List.not_mem_nil

/-- The abstract events of a run. -/
def runEvents (s : Session F H) : List SessionOp → List SendEvent
  | [] => []
  | op :: ops => events op (s.step op).2 ++ runEvents (s.step op).1 ops

theorem runEvents_append (s : Session F H) (ops ops' : List SessionOp) :
    runEvents s (ops ++ ops')
      = runEvents s ops ++ runEvents ((sessionMachine F H).exec s ops) ops' := by
  induction ops generalizing s with
  | nil => rfl
  | cons op ops ih =>
    simp only [List.cons_append, runEvents, ih, List.append_assoc, Machine.exec_cons,
      sessionMachine_step]

/-- Runs of a session are runs of the abstract sender. -/
theorem run_refines (s : Session F H) (ops : List SessionOp) :
    sendMachine.AllSteps SendView.Enabled s.view (runEvents s ops) ∧
    ((sessionMachine F H).exec s ops).view = sendMachine.exec s.view (runEvents s ops) ∧
    ((sessionMachine F H).outputs s ops).flatMap SessionOut.ackedReceiptIds
      = (sendMachine.outputs s.view (runEvents s ops)).flatten ∧
    ((sessionMachine F H).outputs s ops).flatMap SessionOut.fresh
      = (runEvents s ops).flatMap SendEvent.emitted ∧
    ((sessionMachine F H).outputs s ops).flatMap SessionOut.made
      = (runEvents s ops).flatMap SendEvent.made := by
  induction ops generalizing s with
  | nil => exact ⟨trivial, rfl, rfl, rfl, rfl⟩
  | cons op ops ih =>
    obtain ⟨hall, hview, hreport⟩ := s.step_refines op
    obtain ⟨hemit, hmade⟩ := s.events_outputs op
    obtain ⟨ihall, ihview, ihreport, ihemit, ihmade⟩ := ih (s.step op).1
    rw [hview] at ihall ihview ihreport
    simp only [runEvents, Machine.allSteps_append, Machine.exec_append, Machine.outputs_append,
      List.flatten_append, List.flatMap_append, Machine.exec_cons, Machine.outputs_cons,
      List.flatMap_cons, sessionMachine_step, ihview, ihreport, ihemit, ihmade, hreport, hemit, hmade]
    exact ⟨⟨hall, ihall⟩, trivial, trivial, trivial, trivial⟩

theorem view_withTunables (mtu : Nat) (tunables : SessionTunables F) (now : Instant) :
    (withTunables mtu tunables now : Session F H).view = SendView.initial :=
  SendView.ext (congrArg Multiset.ofList MinHeap.toList_empty) rfl rfl rfl rfl

end Session

end Raknet
