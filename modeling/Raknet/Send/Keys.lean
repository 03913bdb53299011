-- SUMMARY: When the numbers of the live datagrams are totally ordered, and when a number is reused too early.
import Raknet.Send.Queue
import Raknet.Send.Tracking

/-!
# The keys of the live datagrams

The comparison of sequence numbers is an order on less than half a turn. Nothing
in a session bounds how long a datagram can stay live while newer ones leave, so
the live numbers can spread over more than that. They do not, if every operation
that may emit a tracked datagram starts with the live numbers close behind the
next one.
-/

namespace Raknet

namespace SendView

/-- `m` more datagrams can leave with the live numbers within half a turn
    behind the last of them. -/
structure Young (v : SendView) (m : Nat) : Prop where
  room : m ≤ 8388608
  age : ∀ k l, v.live k = some l →
    0 < k.distanceTo v.writeIndex ∧ k.distanceTo v.writeIndex + m ≤ 8388608

/-- All live numbers lie on an arc of less than half a turn. -/
def OnArc (v : SendView) : Prop :=
  ∃ a : Sequence24, ∀ k l, v.live k = some l → a.distanceTo k < 8388608

theorem Young.mono {v : SendView} {m n : Nat} (h : v.Young m) (hn : n ≤ m) : v.Young n :=
  ⟨hn.trans h.room, fun k l hl => ⟨(h.age k l hl).1, by have := (h.age k l hl).2; omega⟩⟩

/-- The next number is free. -/
theorem Young.live_writeIndex {v : SendView} {m : Nat} (h : v.Young m) :
    v.live v.writeIndex = none := by
  cases hl : v.live v.writeIndex with
  | none => rfl
  | some l => simpa using (h.age _ l hl).1

theorem Young.onArc {v : SendView} {m : Nat} (h : v.Young m) : v.OnArc := by
  -- The arc starts half a turn behind the next number.
  refine ⟨Sequence24.new (v.writeIndex.value + 8388608), fun k l hl => ?_⟩
  obtain ⟨hpos, hle⟩ := h.age k l hl
  have := k.isLt
  have := v.writeIndex.isLt
  have hk := Sequence24.distanceTo_cases k v.writeIndex
  have ha := Sequence24.distanceTo_cases (Sequence24.new (v.writeIndex.value + 8388608)) k
  rw [Sequence24.value_new] at ha
  omega

/-- Emitting a datagram uses up one place. -/
theorem Young.emit {v : SendView} {b : Session.BuiltDatagram} {m : Nat} (h : v.Young (m + 1))
    (hen : v.Enabled (.emit b)) : (v.emit b).Young m := by
  have hroom := h.room
  refine ⟨by omega, fun k l hl => ?_⟩
  have hw := v.writeIndex.isLt
  have hnext : (v.emit b).writeIndex = v.writeIndex.next := rfl
  rw [hnext]
  by_cases hk : k = v.writeIndex
  · subst hk
    have h₁ := Sequence24.distanceTo_cases v.writeIndex v.writeIndex.next
    rw [Sequence24.value_next] at h₁
    omega
  · have hold : v.live k = some l := by
      simp only [SendView.emit] at hl
      split at hl
      · rwa [Function.update_of_ne (fun e => hk (e.trans hen.2.2.1))] at hl
      · exact hl
    obtain ⟨hpos, hle⟩ := h.age k l hold
    have hne : v.writeIndex.next ≠ k := by
      intro e
      have hd := Sequence24.distanceTo_cases k v.writeIndex
      rw [← e, Sequence24.value_next] at hd
      rw [← e] at hpos hle
      omega
    rw [Sequence24.distanceTo_next_right hne]
    omega

theorem live_of_emit_live {v : SendView} {b : Session.BuiltDatagram} {k : Sequence24}
    (h : (v.emit b).live k = none) : v.live k = none := by
  simp only [SendView.emit] at h
  split at h
  · rw [Function.update_apply] at h
    split at h
    · cases h
    · exact h
  · exact h

/-- A list of datagrams that fits into the room left takes free numbers. -/
theorem Young.exec_emit {v : SendView} {fresh : List Session.BuiltDatagram} {m : Nat}
    (h : v.Young m) (hlen : fresh.length ≤ m)
    (hen : sendMachine.AllSteps Enabled v (fresh.map .emit)) :
    (sendMachine.exec v (fresh.map .emit)).Young (m - fresh.length) ∧
    (∀ b ∈ fresh, v.live b.sequence = none) ∧
    ((fresh.filter (·.tracked)).map (·.sequence)).Nodup := by
  induction fresh generalizing v m with
  | nil => exact ⟨h, by simp, by simp⟩
  | cons b fresh ih =>
    obtain ⟨m, rfl⟩ : ∃ m', m = m' + 1 := ⟨m - 1, by simp at hlen; omega⟩
    obtain ⟨henb, hen⟩ := hen
    obtain ⟨ihy, ihfree, ihnodup⟩ := ih (h.emit henb) (by simpa using hlen) hen
    refine ⟨?_, ?_, ?_⟩
    · rw [List.length_cons, Nat.add_sub_add_right]
      exact ihy
    · intro b' hb'
      rcases List.mem_cons.mp hb' with rfl | hb'
      · rw [henb.2.2.1]
        exact h.live_writeIndex
      · exact live_of_emit_live (ihfree b' hb')
    · cases ht : b.tracked with
      | false => simpa [ht] using ihnodup
      | true =>
        simp only [List.filter_cons, ht, if_true, List.map_cons, List.nodup_cons]
        refine ⟨fun hmem => ?_, ihnodup⟩
        obtain ⟨b', hb', heq⟩ := List.mem_map.mp hmem
        have hfree := ihfree b' (List.mem_filter.mp hb').1
        rw [heq] at hfree
        simp [SendView.emit, ht] at hfree

/-- Every datagram carries an entry of the queue. -/
theorem length_le_card_queue {v : SendView} {fresh : List Session.BuiltDatagram}
    (hen : sendMachine.AllSteps Enabled v (fresh.map .emit)) :
    fresh.length ≤ Multiset.card v.queue := by
  induction fresh generalizing v with
  | nil => simp
  | cons b fresh ih =>
    obtain ⟨⟨hne, hle, -⟩, hen⟩ := hen
    have hrest : fresh.length ≤ Multiset.card (v.queue - (b.queued : Multiset QueuedFrame)) :=
      ih hen
    have hcard : b.queued.length ≤ Multiset.card v.queue := by
      simpa using Multiset.card_le_card hle
    have hpos := List.length_pos_iff.mpr hne
    rw [Multiset.card_sub hle, Multiset.coe_card] at hrest
    rw [List.length_cons]
    omega

/-- A queue without reliable entries and receipts makes no datagram live. -/
theorem exec_emit_idle {v : SendView} {fresh : List Session.BuiltDatagram}
    (hidle : ∀ q ∈ v.queue, q.isReliable = false ∧ q.receiptId = none)
    (hen : sendMachine.AllSteps Enabled v (fresh.map .emit)) :
    (sendMachine.exec v (fresh.map .emit)).live = v.live ∧
    ∀ b ∈ fresh, b.tracked = false := by
  induction fresh generalizing v with
  | nil => exact ⟨rfl, by simp⟩
  | cons b fresh ih =>
    obtain ⟨henb, hen⟩ := hen
    have hmem : ∀ q ∈ b.queued, q ∈ v.queue := fun q hq =>
      Multiset.mem_of_le henb.2.1 (Multiset.mem_coe.mpr hq)
    have hb : b.tracked = false := by
      simp only [Session.BuiltDatagram.tracked, Bool.or_eq_false_iff, Bool.not_eq_false',
        List.isEmpty_iff]
      refine ⟨List.any_eq_false.mpr fun q hq => by simp [(hidle q (hmem q hq)).1], ?_⟩
      rw [List.eq_nil_iff_forall_not_mem]
      intro id hid
      obtain ⟨q, hq, hqid⟩ := Session.BuiltDatagram.mem_receiptIds.mp hid
      rw [(hidle q (hmem q hq)).2] at hqid
      cases hqid
    have hlive : (v.emit b).live = v.live := by simp [emit, hb]
    obtain ⟨ihlive, ihfresh⟩ := ih (v := v.emit b)
      (fun q hq => hidle q (Multiset.mem_of_le (Multiset.sub_le_self _ _) hq)) hen
    exact ⟨ihlive.trans hlive, List.forall_mem_cons.mpr ⟨hb, ihfresh⟩⟩

theorem apply_onArc {v : SendView} {e : SendEvent} (h : v.OnArc) (he : e.emitted = []) :
    (v.apply e).1.OnArc := by
  obtain ⟨a, ha⟩ := h
  refine ⟨a, fun k l hl => ?_⟩
  cases e with
  | emit b => cases he
  | processAcks =>
    rw [apply, processAcks_live] at hl
    split at hl
    · cases hl
    · exact ha k l hl
  | _ => exact ha k l hl

end SendView

namespace Session

variable {F H : Type} [F64 F] [MinHeap H QueuedFrame QueuedFrame.weight]

/-- How many new datagrams an operation may emit. -/
def emitBound (s : Session F H) : SessionOp → Nat
  | .buildDataDatagram .. => 1
  | .onTick _ maxNewDatagrams _ _ _ => min maxNewDatagrams s.pendingOutgoingFrames
  | _ => 0

/-- The operation emits nothing, or nothing that is tracked, or the live
    numbers are within half a turn behind the last number it may use. -/
def EmitsClose (s : Session F H) (op : SessionOp) : Prop :=
  s.emitBound op = 0 ∨
  (∀ q ∈ s.queuedFrames, q.isReliable = false ∧ q.receiptId = none) ∨
  (s.emitBound op ≤ 8388608 ∧ ∀ e ∈ s.sentDatagrams.entries,
    0 < e.1.distanceTo s.datagramWriteIndex ∧
    e.1.distanceTo s.datagramWriteIndex + s.emitBound op ≤ 8388608)

instance (s : Session F H) (op : SessionOp) : Decidable (EmitsClose s op) :=
  inferInstanceAs (Decidable (_ ∨ _ ∨ _))

theorem length_fresh_le_emitBound (s : Session F H) (op : SessionOp) :
    (s.step op).2.fresh.length ≤ s.emitBound op := by
  cases op with
  | buildDataDatagram now budget =>
    simp only [step, SessionOut.fresh, emitBound]
    cases (s.buildDataDatagram now budget).1 <;> simp
  | onTick now maxNew maxNewBytes maxResend maxResendBytes =>
    obtain ⟨hen, -, -, hlen⟩ := s.onTick_view now maxNew maxNewBytes maxResend maxResendBytes
    refine Nat.le_min.mpr ⟨hlen, (SendView.length_le_card_queue hen).trans_eq ?_⟩
    simp [view, queuedFrames, pendingOutgoingFrames, MinHeap.size]
  | _ => exact Nat.le_refl 0

/-- The events of an operation that may emit are its emissions. -/
theorem events_eq_emit {s : Session F H} {op : SessionOp} (h : s.emitBound op ≠ 0) :
    events op (s.step op).2 = (s.step op).2.fresh.map .emit := by
  cases op with
  | buildDataDatagram now budget => rfl
  | onTick now maxNew maxNewBytes maxResend maxResendBytes => rfl
  | _ => exact absurd rfl h

/-- The numbers an operation gives to tracked datagrams are free and distinct. -/
def TakesFreeNumbers (s : Session F H) (op : SessionOp) : Prop :=
  (∀ b ∈ (s.step op).2.fresh, b.tracked = true → s.sentDatagrams.lookup b.sequence = none) ∧
  (((s.step op).2.fresh.filter (·.tracked)).map (·.sequence)).Nodup

theorem step_onArc {s : Session F H} {op : SessionOp} (hs : s.view.OnArc)
    (hop : EmitsClose s op) : (s.step op).1.view.OnArc ∧ TakesFreeNumbers s op := by
  obtain ⟨hen, hview, -⟩ := s.step_refines op
  have hlen := s.length_fresh_le_emitBound op
  rw [hview]
  by_cases hzero : s.emitBound op = 0
  · have hnil : (s.step op).2.fresh = [] := List.length_eq_zero_iff.mp (by omega)
    refine ⟨?_, by simp [TakesFreeNumbers, hnil]⟩
    have hev := (s.events_outputs op).1
    rw [hnil, List.flatMap_eq_nil_iff] at hev
    exact sendMachine.run_invariant_of_steps (C := fun _ e => e.emitted = [])
      (P := fun _ _ v => v.OnArc) hs (fun _ _ _ _ hv he => SendView.apply_onArc hv he) _
      (sendMachine.allSteps_of_mem fun e he _ => hev e he)
  · rw [events_eq_emit hzero] at hen ⊢
    rcases hop.resolve_left hzero with hidle | ⟨hroom, hage⟩
    · obtain ⟨hlive, hfresh⟩ := SendView.exec_emit_idle (v := s.view)
        (fun q hq => hidle q (Multiset.mem_coe.mp hq)) hen
      refine ⟨by simpa only [SendView.OnArc, hlive] using hs, ?_, ?_⟩
      · intro b hb ht
        rw [hfresh b hb] at ht
        cases ht
      · rw [List.filter_eq_nil_iff.mpr fun b hb => by simp [hfresh b hb]]
        simp
    · have hyoung : s.view.Young (s.emitBound op) := by
        refine ⟨hroom, fun k l hl => ?_⟩
        obtain ⟨t, ht, -⟩ := Option.map_eq_some_iff.mp hl
        exact hage ⟨k, t⟩ (AssocMap.mem_entries_iff.mpr ht)
      obtain ⟨hy, hfree, hnodup⟩ := hyoung.exec_emit hlen hen
      refine ⟨hy.onArc, fun b hb _ => ?_, hnodup⟩
      simpa [view] using hfree b hb

/-- If every operation that may emit a tracked datagram starts with the live
    numbers close behind the next one, then the live numbers are always less
    than half a turn apart, the comparison orders them totally, and no tracked
    datagram is inserted over a live one. -/
theorem live_keys_totally_ordered (mtu : Nat) (tunables : SessionTunables F) (start : Instant)
    (ops : List SessionOp)
    (h : (sessionMachine F H).AllSteps EmitsClose (withTunables mtu tunables start) ops) :
    (∀ k k', (((sessionMachine F H).exec (withTunables mtu tunables start)
        ops).sentDatagrams.lookup k).isSome = true →
      (((sessionMachine F H).exec (withTunables mtu tunables start)
        ops).sentDatagrams.lookup k').isSome = true →
      k.circularDistance k' < 8388608) ∧
    (∃ rank : Sequence24 → Nat,
      ∀ k k', (((sessionMachine F H).exec (withTunables mtu tunables start)
          ops).sentDatagrams.lookup k).isSome = true →
        (((sessionMachine F H).exec (withTunables mtu tunables start)
          ops).sentDatagrams.lookup k').isSome = true →
        k.cmp k' = compare (rank k) (rank k')) ∧
    (∀ before op after, ops = before ++ op :: after →
      TakesFreeNumbers ((sessionMachine F H).exec (withTunables mtu tunables start) before)
        op) := by
  have hinit : (withTunables mtu tunables start : Session F H).view.OnArc := by
    rw [view_withTunables]
    exact ⟨Sequence24.new 0, fun k l hl => by cases hl⟩
  have hrun := (sessionMachine F H).run_invariant_of_steps (P := fun _ _ s => s.view.OnArc) hinit
    (fun _ _ _ _ hs hop => (step_onArc hs hop).1)
  obtain ⟨a, ha⟩ := hrun ops h
  have harc : ∀ k, (((sessionMachine F H).exec (withTunables mtu tunables start)
      ops).sentDatagrams.lookup k).isSome = true → a.distanceTo k < 8388608 := by
    intro k hk
    obtain ⟨t, ht⟩ := Option.isSome_iff_exists.mp hk
    exact ha k t.live (by simp [view, ht])
  refine ⟨fun k k' hk hk' => Sequence24.circularDistance_lt_of_arc (harc k hk) (harc k' hk'),
    ⟨a.distanceTo, fun k k' hk hk' => Sequence24.cmp_eq_compare_of_arc (harc k hk) (harc k' hk')⟩,
    ?_⟩
  rintro before op after rfl
  rw [Machine.allSteps_append, Machine.allSteps_cons] at h
  exact (step_onArc (hrun before h.1) h.2.1).2

/-- Two unacknowledged datagrams in a row meet the condition. -/
theorem live_keys_totally_ordered_two :
    (Sequence24.new 0).circularDistance (Sequence24.new 1) < 8388608 :=
  (live_keys_totally_ordered (F := ℚ) (H := SortedHeap QueuedFrame QueuedFrame.weight)
    100 SessionTunables.standard 0
    [.queuePayload [1] .reliable 0 .high none, .buildDataDatagram 0 100,
      .queuePayload [2] .reliable 0 .high none, .onTick 1 5 1000 0 0]
    (by decide +kernel)).1 (Sequence24.new 0) (Sequence24.new 1)
    (by decide +kernel) (by decide +kernel)

/-! ## A run that spreads the live numbers over half a turn -/

/-- Queue one byte and send it. -/
def sendOne (reliability : Reliability) : List SessionOp :=
  [.queuePayload [1] reliability 0 .high none, .buildDataDatagram 0 100]

/-- A session of the default tunables with nothing in the queue. -/
structure Steady (s : ConcreteSession) : Prop where
  queue : s.view.queue = 0
  bytes : s.outgoingQueuedBytes = 0
  mtu : s.mtu = 100
  maxFrames : s.outgoingQueueMaxFrames = 8192
  maxBytes : s.outgoingQueueMaxBytes = 8388608
  softRatio : s.outgoingQueueSoftRatio
    = (withTunables 100 SessionTunables.standard 0 : ConcreteSession).outgoingQueueSoftRatio

theorem steady_withTunables : Steady (withTunables 100 SessionTunables.standard 0) :=
  ⟨rfl, rfl, rfl, rfl, rfl, rfl⟩

/-- A steady session admits a one-byte payload. -/
theorem Steady.admits {s : ConcreteSession} (h : Steady s) (reliability : Reliability) :
    s.evaluateBackpressure 1 (Frame.overhead reliability false + 1) reliability .high
      = .allow := by
  have hframes : s.pendingOutgoingFrames = 0 := by
    have := congrArg Multiset.card h.queue
    simpa [view, queuedFrames, pendingOutgoingFrames, MinHeap.size] using this
  have hover : Frame.overhead reliability false ≤ 20 := by cases reliability <;> decide
  have hsoft₁ : 100 ≤ softLimit (max 8192 1) (withTunables 100 SessionTunables.standard 0
    : ConcreteSession).outgoingQueueSoftRatio := by decide +kernel
  have hsoft₂ : 100 ≤ softLimit (max 8388608 1) (withTunables 100 SessionTunables.standard 0
    : ConcreteSession).outgoingQueueSoftRatio := by decide +kernel
  refine evaluateBackpressure_allow ?_ ?_ ?_ ?_ <;>
    simp only [pendingOutgoingBytes, hframes, h.bytes, h.maxFrames, h.maxBytes, h.softRatio]
      <;> omega

/-- Sending one byte in a steady session emits one datagram and leaves the
    session steady. -/
theorem Steady.send {s : ConcreteSession} (h : Steady s) (reliability : Reliability)
    (hrel : reliability.isReliable = false ∨ s.canEmitNewReliableDatagram = true) :
    ∃ (b : BuiltDatagram) (s' : ConcreteSession),
      concreteMachine.exec s (sendOne reliability) = s' ∧ Steady s' ∧
      b.sequence = s.datagramWriteIndex ∧ b.tracked = reliability.isReliable ∧
      s'.view = s.view.emit b ∧ s'.congestion = s.congestion ∧
      (b.tracked = false → s'.sentDatagrams = s.sentDatagrams) := by
  have hsmall : Frame.overhead reliability false
      + ((bitLengthOf [(1 : UInt8)].length).toNat + 7) >>> 3 ≤ 30 := by
    cases reliability <;> decide
  obtain ⟨b, q, s', hexec, hbq, hid, hqrel, hseq, hview, hlimits, hbytes, hsent⟩ :=
    queue_build_of_empty [1] reliability 0 .high none 0 100 h.queue (Nat.le_max_right _ _)
      (h.admits reliability)
      (by rw [h.mtu, raknetDatagramHeaderSize]; omega) (hsmall.trans (by decide : 30 ≤ 100))
      (by decide) hrel
  obtain ⟨hmtu, hframes, hmax, hratio, hcong⟩ := hlimits
  have htracked : b.tracked = reliability.isReliable := by
    simp [BuiltDatagram.tracked, BuiltDatagram.hasReliable, BuiltDatagram.receiptIds,
      Packing.receiptIds, Packing.addReceipt, hbq, hid, hqrel]
  refine ⟨b, s', hexec, ?_, hseq, htracked, hview, hcong, hsent⟩
  refine ⟨?_, hbytes.trans h.bytes, hmtu.trans h.mtu, hframes.trans h.maxFrames,
    hmax.trans h.maxBytes, hratio.trans h.softRatio⟩
  rw [hview, SendView.emit, h.queue]
  exact Multiset.zero_sub _

/-- Unreliable traffic moves the next number and leaves the live datagrams. -/
theorem Steady.send_unreliable {s : ConcreteSession} (h : Steady s) {w : Nat}
    (hw : s.datagramWriteIndex = Sequence24.new w) (n : Nat) :
    ∃ s' : ConcreteSession,
      concreteMachine.exec s (List.replicate n (sendOne .unreliable)).flatten = s' ∧ Steady s' ∧
      s'.datagramWriteIndex = Sequence24.new (w + n) ∧ s'.congestion = s.congestion ∧
      s'.sentDatagrams = s.sentDatagrams := by
  induction n generalizing s w with
  | zero => exact ⟨s, rfl, h, hw, rfl, rfl⟩
  | succ n ih =>
    obtain ⟨b, s₁, hexec, hsteady, -, htracked, hview, hcong, hsent⟩ :=
      h.send .unreliable (.inl rfl)
    have hw₁ : s₁.datagramWriteIndex = Sequence24.new (w + 1) := by
      rw [← Sequence24.next_new, ← hw]
      exact congrArg SendView.writeIndex hview
    obtain ⟨s', hexec', hsteady', hw', hcong', hsent'⟩ := ih hsteady hw₁
    refine ⟨s', ?_, hsteady', ?_, hcong'.trans hcong, hsent'.trans (hsent htracked)⟩
    · rw [List.replicate_succ, List.flatten_cons, Machine.exec_append, hexec, hexec']
    · rw [hw', Nat.add_right_comm, Nat.add_assoc]

/-- A reliable datagram stays unacknowledged while unreliable ones use up half
    the numbers; the next reliable datagram is exactly half a turn away, where
    the comparison is no longer antisymmetric. -/
theorem live_keys_half_turn_apart :
    ((concreteMachine.exec (withTunables 100 SessionTunables.standard 0)
      (sendOne .reliable ++ (List.replicate 8388607 (sendOne .unreliable)).flatten
        ++ sendOne .reliable)).sentDatagrams.lookup (Sequence24.new 0)).isSome = true ∧
    ((concreteMachine.exec (withTunables 100 SessionTunables.standard 0)
      (sendOne .reliable ++ (List.replicate 8388607 (sendOne .unreliable)).flatten
        ++ sendOne .reliable)).sentDatagrams.lookup (Sequence24.new 8388608)).isSome = true ∧
    (Sequence24.new 0).circularDistance (Sequence24.new 8388608) = 8388608 ∧
    (Sequence24.new 0).cmp (Sequence24.new 8388608) = .lt ∧
    (Sequence24.new 8388608).cmp (Sequence24.new 0) = .lt := by
  obtain ⟨b₁, s₁, hexec₁, hsteady₁, hseq₁, htracked₁, hview₁, hcong₁, -⟩ :=
    steady_withTunables.send .reliable (.inr (by decide +kernel))
  have hw₁ : s₁.datagramWriteIndex = Sequence24.new 1 := congrArg SendView.writeIndex hview₁
  have hopen : s₁.canEmitNewReliableDatagram = true := by
    rw [← hexec₁]
    decide +kernel
  obtain ⟨s₂, hexec₂, hsteady₂, hw₂, hcong₂, hsent₂⟩ := hsteady₁.send_unreliable hw₁ 8388607
  obtain ⟨b₃, s₃, hexec₃, -, hseq₃, htracked₃, hview₃, -, -⟩ :=
    hsteady₂.send .reliable (.inr (by
      rw [canEmitNewReliableDatagram, hcong₂, hsent₂]
      exact hopen))
  have hkey₁ : b₁.sequence = Sequence24.new 0 := hseq₁
  have hkey₃ : b₃.sequence = Sequence24.new 8388608 := hseq₃.trans hw₂
  have htrue₁ : b₁.tracked = true := htracked₁
  have htrue₃ : b₃.tracked = true := htracked₃
  have hlive₂ : (s₂.view.live (Sequence24.new 0)).isSome = true := by
    rw [isSome_live, hsent₂, ← isSome_live, hview₁]
    simp [SendView.emit, htrue₁, hkey₁]
  rw [Machine.exec_append, Machine.exec_append, hexec₁, hexec₂, hexec₃, ← isSome_live,
    ← isSome_live, hview₃]
  refine ⟨?_, ?_, by decide, by decide, by decide⟩
  · simp only [SendView.emit, htrue₃, if_true, hkey₃]
    rw [Function.update_of_ne (by decide)]
    exact hlive₂
  · simp [SendView.emit, htrue₃, hkey₃]

end Session

end Raknet
