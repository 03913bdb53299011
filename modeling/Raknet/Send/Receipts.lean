-- SUMMARY: When a receipt is reported: once, and only after every datagram of its payload is acknowledged.
import Raknet.Send.History

/-!
# Receipts

The counter of a receipt goes up when a datagram that carries one of its frames
leaves, and down when such a datagram is acknowledged; at zero the receipt is
reported. Nothing records how many frames of the payload still wait in the
queue. If acknowledgements are processed while some of them wait, the counter
can reach zero early, and a second time later.
-/

namespace Raknet

namespace SendView

/-! ## Counters -/

/-- How many of the datagrams carry the receipt. -/
def carriers (id : UInt64) (bs : List Session.BuiltDatagram) : Nat :=
  bs.countP fun b => decide (id ∈ b.receiptIds)

theorem carriers_filter_le (id : UInt64) (bs : List Session.BuiltDatagram)
    (p : Session.BuiltDatagram → Bool) : carriers id (bs.filter p) ≤ carriers id bs :=
  List.filter_sublist.countP_le

theorem carriers_filter_lt {id : UInt64} {bs : List Session.BuiltDatagram}
    {p : Session.BuiltDatagram → Bool} {b : Session.BuiltDatagram} (hb : b ∈ bs)
    (hid : id ∈ b.receiptIds) (hp : p b = false) :
    carriers id (bs.filter p) < carriers id bs := by
  have hsplit := List.countP_eq_countP_filter_add bs (fun b => decide (id ∈ b.receiptIds)) p
  have hpos : 0 < (bs.filter fun b => !p b).countP fun b => decide (id ∈ b.receiptIds) :=
    List.countP_pos_iff.mpr ⟨b, List.mem_filter.mpr ⟨hb, by simp [hp]⟩, by simpa using hid⟩
  unfold carriers
  omega

theorem le_foldl_countReceipt (ids : List UInt64) (counters : UInt64 → Option Nat) (id : UInt64) :
    (counters id).getD 0 + ids.count id ≤ ((ids.foldl countReceipt counters) id).getD 0 := by
  induction ids generalizing counters with
  | nil => simp
  | cons id' ids ih =>
    refine Nat.le_trans ?_ (ih (countReceipt counters id'))
    rw [List.count_cons, countReceipt, Function.update_apply]
    by_cases h : id = id'
    · subst h
      simp
      omega
    · simp [h, Ne.symm h]

theorem foldl_countReceipt_of_notMem {ids : List UInt64} {id : UInt64} (h : id ∉ ids)
    (counters : UInt64 → Option Nat) : (ids.foldl countReceipt counters) id = counters id := by
  induction ids generalizing counters with
  | nil => rfl
  | cons id' ids ih =>
    rw [List.mem_cons, not_or] at h
    rw [List.foldl_cons, ih h.2, countReceipt, Function.update_of_ne h.1]

/-- What acknowledging a datagram does to the counters of its receipts. -/
structure AckReceipts (ids : List UInt64) (before after : (UInt64 → Option Nat) × List UInt64) :
    Prop where
  other : ∀ id, id ∉ ids → after.1 id = before.1 id
  down : ∀ id, (before.1 id).getD 0 ≤ (after.1 id).getD 0 + 1
  absent : ∀ id, before.1 id = none → after.1 id = none
  reported : ∃ new : List UInt64, after.2 = before.2 ++ new ∧ new.Nodup ∧
    ∀ id ∈ new, id ∈ ids ∧ before.1 id ≠ none ∧ after.1 id = none

theorem ackReceipt_spec (acc : (UInt64 → Option Nat) × List UInt64) (id : UInt64) :
    AckReceipts [id] acc (ackReceipt acc id) := by
  unfold ackReceipt
  cases h : acc.1 id with
  | none => exact ⟨fun _ _ => rfl, fun _ => Nat.le_succ _, fun _ hn => hn, [], by simp⟩
  | some pending =>
    dsimp only
    split
    · refine ⟨fun id' hid => ?_, fun id' => ?_, fun id' hn => ?_, [], by simp⟩
      · exact Function.update_of_ne (by simpa using hid) _ _
      · dsimp only
        rw [Function.update_apply]
        split
        · next he =>
          subst he
          simp [h]
          omega
        · exact Nat.le_succ _
      · dsimp only
        rw [Function.update_of_ne ?_, hn]
        rintro rfl
        rw [h] at hn
        cases hn
    · refine ⟨fun id' hid => ?_, fun id' => ?_, fun id' hn => ?_, [id], rfl, ?_, ?_⟩
      · exact Function.update_of_ne (by simpa using hid) _ _
      · dsimp only
        rw [Function.update_apply]
        split
        · next he =>
          subst he
          simp [h]
          omega
        · exact Nat.le_succ _
      · dsimp only
        rw [Function.update_apply]
        split
        · rfl
        · exact hn
      · exact List.nodup_singleton id
      · intro id' hid'
        rw [List.mem_singleton] at hid'
        subst hid'
        exact ⟨List.mem_singleton_self _, by simp [h], Function.update_self _ _ _⟩

theorem foldl_ackReceipt_spec {ids : List UInt64} (hnodup : ids.Nodup)
    (acc : (UInt64 → Option Nat) × List UInt64) :
    AckReceipts ids acc (ids.foldl ackReceipt acc) := by
  induction ids generalizing acc with
  | nil => exact ⟨fun _ _ => rfl, fun _ => Nat.le_succ _, fun _ hn => hn, [], by simp⟩
  | cons id ids ih =>
    rw [List.nodup_cons] at hnodup
    have h₁ := ackReceipt_spec acc id
    have h₂ := ih hnodup.2 (ackReceipt acc id)
    rw [List.foldl_cons]
    refine ⟨fun id' hid' => ?_, fun id' => ?_, fun id' hn => ?_, ?_⟩
    · rw [List.mem_cons, not_or] at hid'
      exact (h₂.other id' hid'.2).trans (h₁.other id' (by simpa using hid'.1))
    · -- Only one of the two parts touches the counter.
      by_cases he : id' = id
      · subst he
        rw [h₂.other id' hnodup.1]
        exact h₁.down id'
      · rw [← h₁.other id' (by simpa using he)]
        exact h₂.down id'
    · exact h₂.absent id' (h₁.absent id' hn)
    · obtain ⟨new₁, happ₁, hnd₁, hnew₁⟩ := h₁.reported
      obtain ⟨new₂, happ₂, hnd₂, hnew₂⟩ := h₂.reported
      refine ⟨new₁ ++ new₂, by rw [happ₂, happ₁, List.append_assoc], ?_, ?_⟩
      · rw [List.nodup_append]
        refine ⟨hnd₁, hnd₂, fun a ha b hb e => ?_⟩
        exact (hnew₂ b hb).2.1 (e ▸ (hnew₁ a ha).2.2)
      · intro id' hid'
        rcases List.mem_append.mp hid' with h | h
        · obtain ⟨hmem, hne, hnone⟩ := hnew₁ id' h
          exact ⟨List.mem_cons.mpr (.inl (List.mem_singleton.mp hmem)), hne,
            h₂.absent id' hnone⟩
        · obtain ⟨hmem, hne, hnone⟩ := hnew₂ id' h
          exact ⟨List.mem_cons_of_mem _ hmem, fun hn => hne (h₁.absent id' hn), hnone⟩

/-! ## Processing acknowledgements -/

/-- Where the processing of acknowledgements stands after the numbers `done`:
    each counter is at least the number of datagrams that carry the receipt and
    have no number in `done`. -/
structure AckFold (v : SendView) (pending : List Session.BuiltDatagram) (done : List Sequence24)
    (acc : SendView × List UInt64) : Prop where
  bound : ∀ id, carriers id (pending.filter fun b => decide (b.sequence ∉ done))
    ≤ (acc.1.counters id).getD 0
  live : ∀ k, acc.1.live k = if k ∈ done then none else v.live k
  absent : ∀ id, v.counters id = none → acc.1.counters id = none
  nodup : acc.2.Nodup
  reported : ∀ id ∈ acc.2, acc.1.counters id = none ∧ v.counters id ≠ none ∧
    ∃ k ∈ done, ∃ l, v.live k = some l ∧ id ∈ l.receiptIds

/-- Every live datagram is one of `pending`. -/
def LiveAmong (v : SendView) (pending : List Session.BuiltDatagram) : Prop :=
  ∀ k l, v.live k = some l → ∃ b ∈ pending, b.sequence = k ∧ b.receiptIds = l.receiptIds

theorem AckFold.step {v : SendView} {pending : List Session.BuiltDatagram}
    {done : List Sequence24} {acc : SendView × List UInt64} (hlive : v.LiveAmong pending)
    (h : AckFold v pending done acc) (seq : Sequence24) :
    AckFold v pending (done ++ [seq]) (ackSequence acc seq) := by
  -- One more number is a second filter.
  have hfilter : (pending.filter fun b => decide (b.sequence ∉ done ++ [seq]))
      = (pending.filter fun b => decide (b.sequence ∉ done)).filter
          fun b => decide (b.sequence ≠ seq) := by
    rw [List.filter_filter]
    refine List.filter_congr fun b _ => ?_
    simp [not_or, and_comm]
  have hfewer : ∀ id, carriers id (pending.filter fun b => decide (b.sequence ∉ done ++ [seq]))
      ≤ carriers id (pending.filter fun b => decide (b.sequence ∉ done)) := by
    intro id
    rw [hfilter]
    exact carriers_filter_le _ _ _
  have hl := h.live seq
  unfold ackSequence
  cases hs : acc.1.live seq with
  | none =>
    refine ⟨fun id => (hfewer id).trans (h.bound id), fun k => ?_, h.absent, h.nodup, ?_⟩
    · rw [h.live k]
      by_cases hk : k = seq
      · subst hk
        rw [hs] at hl
        simp [← hl]
      · simp [hk]
    · intro id hid
      obtain ⟨hnone, hne, k, hk, l, hkl, hmem⟩ := h.reported id hid
      exact ⟨hnone, hne, k, List.mem_append_left _ hk, l, hkl, hmem⟩
  | some l =>
    rw [hs] at hl
    have hnew : seq ∉ done := fun hmem => by rw [if_pos hmem] at hl; cases hl
    rw [if_neg hnew] at hl
    obtain ⟨b, hb, hbseq, hbids⟩ := hlive seq l hl.symm
    have hspec := foldl_ackReceipt_spec (hbids ▸ b.nodup_receiptIds) (acc.1.counters, acc.2)
    dsimp only
    generalize l.receiptIds.foldl ackReceipt (acc.1.counters, acc.2) = r at hspec
    obtain ⟨counters, reported⟩ := r
    refine ⟨fun id => ?_, fun k => ?_, fun id hn => hspec.absent id (h.absent id hn), ?_, ?_⟩
    · by_cases hid : id ∈ l.receiptIds
      · -- The acknowledged datagram is no longer counted.
        have hless : carriers id (pending.filter fun b => decide (b.sequence ∉ done ++ [seq]))
            < carriers id (pending.filter fun b => decide (b.sequence ∉ done)) := by
          rw [hfilter]
          refine carriers_filter_lt (b := b) ?_ (hbids ▸ hid) (by simp [hbseq])
          exact List.mem_filter.mpr ⟨hb, by simpa [hbseq] using hnew⟩
        have hbound := h.bound id
        have hdown := hspec.down id
        dsimp only at hdown ⊢
        omega
      · have hother := hspec.other id hid
        dsimp only at hother ⊢
        rw [hother]
        exact (hfewer id).trans (h.bound id)
    · dsimp only
      rw [Function.update_apply, h.live k]
      by_cases hk : k = seq
      · simp [hk]
      · simp [hk]
    · obtain ⟨new, happ, hnd, hmem⟩ := hspec.reported
      dsimp only at happ ⊢
      rw [happ, List.nodup_append]
      refine ⟨h.nodup, hnd, fun a ha b hb e => ?_⟩
      exact (hmem b hb).2.1 (e ▸ (h.reported a ha).1)
    · obtain ⟨new, happ, -, hmem⟩ := hspec.reported
      intro id hid
      dsimp only at happ hid ⊢
      rw [happ, List.mem_append] at hid
      rcases hid with hid | hid
      · obtain ⟨hnone, hne, k, hk, l', hkl, hl'⟩ := h.reported id hid
        exact ⟨hspec.absent id hnone, hne, k, List.mem_append_left _ hk, l', hkl, hl'⟩
      · obtain ⟨hidl, hne, hnone⟩ := hmem id hid
        exact ⟨hnone, fun hn => hne (h.absent id hn), seq, by simp, l, hl.symm, hidl⟩

theorem processAcks_spec {v : SendView} {pending : List Session.BuiltDatagram}
    (hbound : ∀ id, carriers id pending ≤ (v.counters id).getD 0) (hlive : v.LiveAmong pending) :
    AckFold v pending (Session.sequencesOf v.acks) v.processAcks := by
  have hfold : ∀ (seqs done : List Sequence24) (acc : SendView × List UInt64),
      AckFold v pending done acc → AckFold v pending (done ++ seqs) (seqs.foldl ackSequence acc) := by
    intro seqs
    induction seqs with
    | nil => intro done acc h; simpa using h
    | cons seq seqs ih =>
      intro done acc h
      simpa using ih (done ++ [seq]) _ (h.step hlive seq)
  refine hfold (Session.sequencesOf v.acks) [] _ ⟨fun id => ?_, fun k => rfl, fun _ hn => hn,
    List.nodup_nil, fun _ hid => by cases hid⟩
  simpa using hbound id

/-! ## Runs -/

/-- If acknowledgements are processed, then no receipt of an acknowledged
    datagram has a frame in the queue. -/
def Timely (v : SendView) : SendEvent → Prop
  | .processAcks => ∀ k l, v.live k = some l → Covered v.acks k → ∀ id ∈ l.receiptIds,
      ∀ q ∈ v.queue, q.receiptId ≠ some id
  | _ => True

/-- A receipt that was used before acknowledgements are processed is not used
    again. -/
def UsedOnce (es : List SendEvent) : Prop :=
  ∀ pre post, es = pre ++ .processAcks :: post → ∀ q ∈ pre.flatMap SendEvent.made,
    ∀ q' ∈ post.flatMap SendEvent.made, ∀ id, q.receiptId = some id → q'.receiptId ≠ some id

/-- The state of the receipts after the events `es`. The list `pending` has the
    tracked datagrams that are not acknowledged. -/
structure ReceiptState (es : List SendEvent) (reported : List UInt64) (v : SendView)
    (pending : List Session.BuiltDatagram) : Prop where
  bound : ∀ id, carriers id pending ≤ (v.counters id).getD 0
  live : v.LiveAmong pending
  unacked : ∀ pre b post, es = pre ++ .emit b :: post → b.tracked = true →
    sendMachine.AllSteps (Spares b.sequence) ((sendMachine.exec initial pre).emit b) post →
    b ∈ pending
  made : ∀ k l, v.live k = some l → ∀ id ∈ l.receiptIds,
    ∃ q ∈ es.flatMap SendEvent.made, q.receiptId = some id
  nodup : reported.Nodup
  closed : ∀ id ∈ reported, v.counters id = none ∧ (∀ q ∈ v.queue, q.receiptId ≠ some id) ∧
    ∃ pre post, es = pre ++ .processAcks :: post ∧
      ∃ q ∈ pre.flatMap SendEvent.made, q.receiptId = some id

theorem receiptState_initial : ReceiptState [] [] initial [] where
  bound := fun _ => Nat.zero_le _
  live := fun _ _ h => by cases h
  unacked := fun pre b post h => by simp at h
  made := fun _ _ h => by cases h
  nodup := List.nodup_nil
  closed := fun _ h => by cases h

/-- A list that ends in `e` and is cut in front of `x`. -/
theorem append_singleton_eq_append_cons {α : Type} {es pre post : List α} {e x : α}
    (h : es ++ [e] = pre ++ x :: post) :
    (post = [] ∧ e = x ∧ es = pre) ∨ ∃ post', post = post' ++ [e] ∧ es = pre ++ x :: post' := by
  rcases List.eq_nil_or_concat post with rfl | ⟨post', y, hpost⟩
  · obtain ⟨hes, he⟩ := List.append_inj' h rfl
    exact .inl ⟨rfl, List.singleton_inj.mp he, hes⟩
  · rw [List.concat_eq_append] at hpost
    rw [hpost, ← List.cons_append, ← List.append_assoc] at h
    obtain ⟨hes, he⟩ := List.append_inj' h rfl
    exact .inr ⟨post', by rw [hpost, List.singleton_inj.mp he], hes⟩

/-- An unacknowledged datagram stays pending through one more event. -/
theorem ReceiptState.unacked_append {es : List SendEvent} {reported : List UInt64} {v : SendView}
    {pending : List Session.BuiltDatagram} (h : ReceiptState es reported v pending)
    (hv : v = sendMachine.exec initial es) {e : SendEvent} {pre post : List SendEvent}
    {b : Session.BuiltDatagram} (hes : es ++ [e] = pre ++ .emit b :: post) (ht : b.tracked = true)
    (hs : sendMachine.AllSteps (Spares b.sequence) ((sendMachine.exec initial pre).emit b) post) :
    e = .emit b ∨ (b ∈ pending ∧ Spares b.sequence v e) := by
  rcases append_singleton_eq_append_cons hes with ⟨-, he, -⟩ | ⟨post', rfl, rfl⟩
  · exact .inl he
  · rw [Machine.allSteps_append] at hs
    refine .inr ⟨h.unacked pre b post' rfl ht hs.1, ?_⟩
    have hexec : v = sendMachine.exec ((sendMachine.exec initial pre).emit b) post' := by
      rw [hv, Machine.exec_append]
      rfl
    rw [hexec]
    exact hs.2.1

theorem ReceiptState.closed_append {es : List SendEvent} {e : SendEvent} {id : UInt64}
    (h : ∃ pre post, es = pre ++ .processAcks :: post ∧
      ∃ q ∈ pre.flatMap SendEvent.made, q.receiptId = some id) :
    ∃ pre post, es ++ [e] = pre ++ .processAcks :: post ∧
      ∃ q ∈ pre.flatMap SendEvent.made, q.receiptId = some id := by
  obtain ⟨pre, post, rfl, hq⟩ := h
  exact ⟨pre, post ++ [e], by simp, hq⟩

theorem ReceiptState.made_append {es : List SendEvent} {e : SendEvent} {id : UInt64}
    (h : ∃ q ∈ es.flatMap SendEvent.made, q.receiptId = some id) :
    ∃ q ∈ (es ++ [e]).flatMap SendEvent.made, q.receiptId = some id := by
  obtain ⟨q, hq, hid⟩ := h
  exact ⟨q, by rw [List.flatMap_append]; exact List.mem_append_left _ hq, hid⟩

theorem ReceiptState.enqueue {es : List SendEvent} {reported : List UInt64} {v : SendView}
    {pending : List Session.BuiltDatagram} (h : ReceiptState es reported v pending)
    (hv : v = sendMachine.exec initial es) {q : QueuedFrame}
    (hused : UsedOnce (es ++ [.enqueue q])) :
    ReceiptState (es ++ [.enqueue q]) reported (v.enqueue q) pending where
  bound := h.bound
  live := h.live
  unacked := by
    intro pre b post hes ht hs
    rcases h.unacked_append hv hes ht hs with he | ⟨hb, -⟩
    · cases he
    · exact hb
  made := fun k l hl id hid => made_append (h.made k l hl id hid)
  nodup := h.nodup
  closed := by
    intro id hid
    obtain ⟨hnone, hqueue, hcut⟩ := h.closed id hid
    refine ⟨hnone, fun q' hq' => ?_, closed_append hcut⟩
    rcases Multiset.mem_cons.mp hq' with rfl | hq'
    · obtain ⟨pre, post, rfl, q₀, hq₀, hid₀⟩ := hcut
      refine hused pre (post ++ [.enqueue q']) (by simp) q₀ hq₀ q' ?_ id hid₀
      simp [SendEvent.made]
    · exact hqueue q' hq'

theorem mem_made_of_mem_queue {es : List SendEvent} {q : QueuedFrame}
    (hall : sendMachine.AllSteps Enabled initial es)
    (hq : q ∈ (sendMachine.exec initial es).queue) : q ∈ es.flatMap SendEvent.made := by
  have h := exec_queue hall
  rw [show initial.queue = 0 from rfl, zero_add] at h
  exact Multiset.mem_coe.mp (h ▸ Multiset.mem_add.mpr (.inl hq))

theorem ReceiptState.emit {es : List SendEvent} {reported : List UInt64} {v : SendView}
    {pending : List Session.BuiltDatagram} (h : ReceiptState es reported v pending)
    (hv : v = sendMachine.exec initial es) (hall : sendMachine.AllSteps Enabled initial es)
    {b : Session.BuiltDatagram} (hen : v.Enabled (.emit b)) :
    ReceiptState (es ++ [.emit b]) reported (v.emit b)
      (if b.tracked then pending ++ [b] else pending) := by
  have hqueued : ∀ q ∈ b.queued, q ∈ v.queue := fun q hq =>
    Multiset.mem_of_le hen.2.1 (Multiset.mem_coe.mpr hq)
  -- A reported receipt has no entry left that the datagram could carry.
  have hreported : ∀ id ∈ reported, id ∉ b.receiptIds := by
    intro id hid hmem
    obtain ⟨q, hq, hqid⟩ := Session.BuiltDatagram.mem_receiptIds.mp hmem
    exact (h.closed id hid).2.1 q (hqueued q hq) hqid
  have hclosed : ∀ id ∈ reported, (v.emit b).counters id = none ∧
      (∀ q ∈ (v.emit b).queue, q.receiptId ≠ some id) ∧
      ∃ pre post, es ++ [.emit b] = pre ++ .processAcks :: post ∧
        ∃ q ∈ pre.flatMap SendEvent.made, q.receiptId = some id := by
    intro id hid
    obtain ⟨hnone, hqueue, hcut⟩ := h.closed id hid
    refine ⟨?_, fun q hq => ?_, closed_append hcut⟩
    · simp only [SendView.emit]
      split
      · rw [foldl_countReceipt_of_notMem (hreported id hid), hnone]
      · exact hnone
    · exact hqueue q (Multiset.mem_of_le (Multiset.sub_le_self _ _) hq)
  cases ht : b.tracked with
  | false =>
    refine ⟨?_, ?_, ?_, ?_, h.nodup, hclosed⟩
    · simpa [SendView.emit, ht] using h.bound
    · simpa [SendView.emit, ht, LiveAmong] using h.live
    · intro pre b' post hes ht' hs
      rcases h.unacked_append hv hes ht' hs with he | ⟨hb, -⟩
      · cases he
        rw [ht] at ht'
        cases ht'
      · exact hb
    · intro k l hl id hid
      refine made_append (h.made k l ?_ id hid)
      simpa [SendView.emit, ht] using hl
  | true =>
    refine ⟨fun id => ?_, fun k l hl => ?_, ?_, ?_, h.nodup, hclosed⟩
    · have hup := le_foldl_countReceipt b.receiptIds v.counters id
      have hb := h.bound id
      have hcount : carriers id [b] ≤ b.receiptIds.count id := by
        by_cases hid : id ∈ b.receiptIds
        · have hpos := List.count_pos_iff.mpr hid
          simp only [carriers, List.countP_singleton, hid, decide_true, if_true]
          omega
        · simp [carriers, hid]
      simp only [SendView.emit, ht, if_true]
      simp only [carriers, List.countP_append] at hb hcount ⊢
      omega
    · simp only [SendView.emit, ht, if_true, Function.update_apply] at hl
      split at hl
      · next hk =>
        obtain rfl := Option.some.inj hl
        exact ⟨b, by simp, hk.symm, rfl⟩
      · obtain ⟨b', hb', hrest⟩ := h.live k l hl
        exact ⟨b', by simp [hb'], hrest⟩
    · intro pre b' post hes ht' hs
      rcases h.unacked_append hv hes ht' hs with he | ⟨hb, -⟩
      · cases he
        simp
      · simp [hb]
    · intro k l hl id hid
      simp only [SendView.emit, ht, if_true, Function.update_apply] at hl
      split at hl
      · obtain rfl := Option.some.inj hl
        obtain ⟨q, hq, hqid⟩ := Session.BuiltDatagram.mem_receiptIds.mp hid
        exact made_append ⟨q, mem_made_of_mem_queue hall (hv ▸ hqueued q hq), hqid⟩
      · exact made_append (h.made k l hl id hid)

theorem ReceiptState.process {es : List SendEvent} {reported : List UInt64} {v : SendView}
    {pending : List Session.BuiltDatagram} (h : ReceiptState es reported v pending)
    (hv : v = sendMachine.exec initial es) (htimely : v.Timely .processAcks) :
    ReceiptState (es ++ [.processAcks]) (reported ++ v.processAcks.2) v.processAcks.1
      (pending.filter fun b => decide (b.sequence ∉ Session.sequencesOf v.acks)) := by
  have hfold := processAcks_spec h.bound h.live
  have hlive : ∀ k l, v.processAcks.1.live k = some l →
      k ∉ Session.sequencesOf v.acks ∧ v.live k = some l := by
    intro k l hl
    rw [hfold.live k] at hl
    split at hl
    · cases hl
    · next hk => exact ⟨hk, hl⟩
  refine ⟨hfold.bound, fun k l hl => ?_, ?_, ?_, ?_, ?_⟩
  · obtain ⟨hk, hl⟩ := hlive k l hl
    obtain ⟨b, hb, rfl, hids⟩ := h.live k l hl
    exact ⟨b, List.mem_filter.mpr ⟨hb, by simpa using hk⟩, rfl, hids⟩
  · intro pre b post hes ht hs
    rcases h.unacked_append hv hes ht hs with he | ⟨hb, hspares⟩
    · cases he
    · refine List.mem_filter.mpr ⟨hb, ?_⟩
      have hnot : b.sequence ∉ Session.sequencesOf v.acks :=
        fun hmem => hspares (mem_sequencesOf.mp hmem)
      simpa using hnot
  · intro k l hl id hid
    exact made_append (h.made k l (hlive k l hl).2 id hid)
  · rw [List.nodup_append]
    refine ⟨h.nodup, hfold.nodup, fun a ha b hb e => ?_⟩
    exact (hfold.reported b hb).2.1 (e ▸ (h.closed a ha).1)
  · intro id hid
    rw [(processAcks_fields v).1]
    rcases List.mem_append.mp hid with hid | hid
    · obtain ⟨hnone, hqueue, hcut⟩ := h.closed id hid
      exact ⟨hfold.absent id hnone, hqueue, closed_append hcut⟩
    · obtain ⟨hnone, -, k, hk, l, hl, hmem⟩ := hfold.reported id hid
      refine ⟨hnone, htimely k l hl (mem_sequencesOf.mp hk) id hmem, es, [], rfl, ?_⟩
      exact h.made k l hl id hmem

theorem UsedOnce.of_append {es es' : List SendEvent} (h : UsedOnce (es ++ es')) : UsedOnce es := by
  intro pre post hes q hq q' hq'
  refine h pre (post ++ es') (by simp [hes]) q hq q' ?_
  rw [List.flatMap_append]
  exact List.mem_append_left _ hq'

/-- The receipts along a run whose acknowledgements are timely. -/
theorem receiptState_exec {es : List SendEvent}
    (hall : sendMachine.AllSteps Enabled initial es)
    (htimely : sendMachine.AllSteps Timely initial es) (hused : UsedOnce es) :
    ∃ pending, ReceiptState es (sendMachine.outputs initial es).flatten
      (sendMachine.exec initial es) pending := by
  induction es using List.reverseRecOn with
  | nil => exact ⟨[], receiptState_initial⟩
  | append_singleton es e ih =>
    rw [Machine.allSteps_append] at hall htimely
    obtain ⟨pending, h⟩ := ih hall.1 htimely.1 hused.of_append
    have hout : (sendMachine.outputs initial (es ++ [e])).flatten
        = (sendMachine.outputs initial es).flatten
          ++ ((sendMachine.exec initial es).apply e).2 := by simp
    rw [hout, Machine.exec_append, Machine.exec_cons, Machine.exec_nil, sendMachine_step]
    cases e with
    | enqueue q =>
      rw [apply, List.append_nil]
      exact ⟨_, h.enqueue rfl hused⟩
    | emit b =>
      rw [apply, List.append_nil]
      exact ⟨_, h.emit rfl hall.1 hall.2.1⟩
    | receiveAcks ranges =>
      rw [apply, List.append_nil]
      refine ⟨pending, h.bound, h.live, ?_, ?_, h.nodup, ?_⟩
      · intro pre b post hes ht hs
        rcases h.unacked_append rfl hes ht hs with he | ⟨hb, -⟩
        · cases he
        · exact hb
      · exact fun k l hl id hid => ReceiptState.made_append (h.made k l hl id hid)
      · intro id hid
        obtain ⟨hnone, hqueue, hcut⟩ := h.closed id hid
        exact ⟨hnone, hqueue, ReceiptState.closed_append hcut⟩
    | processAcks => exact ⟨_, h.process rfl htimely.2.1⟩

end SendView

/-! ## Sessions -/

/-- The receipt an operation used: that of a payload it accepted. -/
def SessionOp.usedReceipt : SessionOp → SessionOut → List UInt64
  | .queuePayload _ _ _ _ (some id), .queued (.enqueued _) _ => [id]
  | _, _ => []

namespace Session

variable {F H : Type} [F64 F] [MinHeap H QueuedFrame QueuedFrame.weight]

/-- The receipts of the payloads a run accepted. -/
def usedReceipts (s : Session F H) : List SessionOp → List UInt64
  | [] => []
  | op :: ops => op.usedReceipt (s.step op).2 ++ usedReceipts (s.step op).1 ops

/-- When acknowledgements are processed, no receipt of a tracked datagram they
    cover has a frame in the send queue. -/
def Timely (s : Session F H) : SessionOp → Prop
  | .processIncomingReceipts _ => ∀ e ∈ s.sentDatagrams.entries,
      (∃ r ∈ s.incomingAcks, r.Covers e.1) → ∀ id ∈ e.2.receiptIds,
        ∀ q ∈ s.queuedFrames, q.receiptId ≠ some id
  | _ => True

instance (s : Session F H) : ∀ op, Decidable (Timely s op)
  | .processIncomingReceipts _ =>
    -- searched along the list, not over all numbers a receipt could have
    have (ids : List UInt64) :
        Decidable (∀ id ∈ ids, ∀ q ∈ s.queuedFrames, q.receiptId ≠ some id) :=
      List.decidableBAll _ ids
    inferInstanceAs (Decidable (∀ e ∈ s.sentDatagrams.entries,
      (∃ r ∈ s.incomingAcks, r.Covers e.1) → ∀ id ∈ e.2.receiptIds,
        ∀ q ∈ s.queuedFrames, q.receiptId ≠ some id))
  | .queuePayload .. | .ingestDatagram .. | .processDatagramSequence .. | .handleAckPayload ..
  | .handleNackPayload .. | .collectResendable .. | .buildDataDatagram .. | .onTick ..
  | .drainAckDatagram .. | .drainNackDatagram .. | .pruneSplitState ..
  | .forceControlFlushDeadlines .. | .setMtu .. | .transitionTo .. | .touchActivity ..
  | .markKeepaliveSent .. | .takeBackpressureDisconnect => isTrue trivial

theorem runEvents_timely {s : Session F H} {ops : List SessionOp}
    (h : (sessionMachine F H).AllSteps Timely s ops) :
    sendMachine.AllSteps SendView.Timely s.view (runEvents s ops) := by
  induction ops generalizing s with
  | nil => trivial
  | cons op ops ih =>
    rw [runEvents, Machine.allSteps_append, ← (s.step_refines op).2.1]
    refine ⟨?_, ih h.2⟩
    refine events_allSteps (fun _ _ _ => trivial) (fun _ _ _ => trivial) (fun _ _ => trivial) ?_
    rintro now rfl k l hl hc id hid q hq
    obtain ⟨t, ht, rfl⟩ := Option.map_eq_some_iff.mp hl
    exact h.1 ⟨k, t⟩ (AssocMap.mem_entries_iff.mpr ht) hc id hid q (Multiset.mem_coe.mp hq)

/-- An entry with a receipt comes from a payload accepted with that receipt. -/
theorem mem_usedReceipt {s : Session F H} {op : SessionOp} {q : QueuedFrame} {id : UInt64}
    (hq : q ∈ (s.step op).2.made) (hid : q.receiptId = some id) :
    id ∈ op.usedReceipt (s.step op).2 := by
  cases op with
  | queuePayload payload reliability channel priority receiptId =>
    obtain ⟨hsame, -⟩ := mem_queuePayloadWithReceipt hq
    simp only [step, SessionOut.made] at hq ⊢
    rcases s.queuePayloadWithReceipt_cases payload reliability channel priority receiptId with
      ⟨_, _, _, -, heq⟩ | ⟨-, heq⟩ | ⟨-, heq⟩
    · rw [heq] at hq
      cases hq
    · rw [heq, ← hsame, hid]
      exact List.mem_singleton_self id
    · rw [heq, ← hsame, hid]
      exact List.mem_singleton_self id
  | _ => cases hq

theorem mem_usedReceipts {s : Session F H} {ops : List SessionOp} {q : QueuedFrame} {id : UInt64}
    (hq : q ∈ (runEvents s ops).flatMap SendEvent.made) (hid : q.receiptId = some id) :
    id ∈ usedReceipts s ops := by
  induction ops generalizing s with
  | nil => cases hq
  | cons op ops ih =>
    rw [runEvents, List.flatMap_append, (s.events_outputs op).2, List.mem_append] at hq
    rw [usedReceipts, List.mem_append]
    rcases hq with hq | hq
    · exact .inl (mem_usedReceipt hq hid)
    · exact .inr (ih hq)

theorem usedReceipts_append (s : Session F H) (ops ops' : List SessionOp) :
    usedReceipts s (ops ++ ops')
      = usedReceipts s ops ++ usedReceipts ((sessionMachine F H).exec s ops) ops' := by
  induction ops generalizing s with
  | nil => rfl
  | cons op ops ih =>
    simp only [List.cons_append, usedReceipts, ih, List.append_assoc, Machine.exec_cons,
      sessionMachine_step]

/-- Acknowledgements are processed by an operation of their own, so a cut of
    the events there is a cut of the operations. -/
theorem runEvents_processAcks {s : Session F H} {ops : List SessionOp} {pre post : List SendEvent}
    (h : runEvents s ops = pre ++ .processAcks :: post) :
    ∃ before after, ops = before ++ after ∧ pre = runEvents s before ∧
      (.processAcks :: post) = runEvents ((sessionMachine F H).exec s before) after := by
  induction ops generalizing s pre with
  | nil => simp [runEvents] at h
  | cons op ops ih =>
    rw [runEvents, List.append_eq_append_iff] at h
    rcases h with ⟨pre', rfl, h⟩ | ⟨mid, hev, h⟩
    · obtain ⟨before, after, rfl, rfl, hafter⟩ := ih h
      exact ⟨op :: before, after, rfl, rfl, hafter⟩
    · cases mid with
      | nil =>
        have hrest : runEvents (s.step op).1 ops = [] ++ .processAcks :: post := h.symm
        obtain ⟨before, after, rfl, hnil, hafter⟩ := ih hrest
        refine ⟨op :: before, after, rfl, ?_, hafter⟩
        rw [runEvents, ← hnil, List.append_nil, hev, List.append_nil]
      | cons e mid =>
        obtain ⟨rfl, rfl⟩ := List.cons.inj h
        have hmem : SendEvent.processAcks ∈ events op (s.step op).2 := by simp [hev]
        -- Only one operation has such an event, and it has no other.
        have hsingle : events op (s.step op).2 = [.processAcks] := by
          cases op with
          | processIncomingReceipts now => rfl
          | ingestDatagram d now =>
            simp only [events] at hmem
            split at hmem <;> simp at hmem
          | _ => simp [events] at hmem
        rw [hsingle] at hev
        have hlen := congrArg List.length hev
        simp only [List.length_append, List.length_cons, List.length_nil] at hlen
        have hpre : pre = [] := List.length_eq_zero_iff.mp (by omega)
        have hmid : mid = [] := List.length_eq_zero_iff.mp (by omega)
        refine ⟨[], op :: ops, rfl, hpre, ?_⟩
        simp [runEvents, hsingle, hmid]

theorem usedOnce_runEvents {s : Session F H} {ops : List SessionOp}
    (h : (usedReceipts s ops).Nodup) : SendView.UsedOnce (runEvents s ops) := by
  intro pre post hcut q hq q' hq' id hid hid'
  obtain ⟨before, after, rfl, rfl, hpost⟩ := runEvents_processAcks hcut
  rw [usedReceipts_append, List.nodup_append] at h
  refine h.2.2 id (mem_usedReceipts hq hid) id (mem_usedReceipts (q := q') ?_ hid') rfl
  rw [← hpost]
  exact hq'

/-- If every payload has a receipt of its own, and no acknowledgement is
    processed for a payload that still has frames in the queue, then every
    receipt is reported at most once, and when it is, all frames of its payload
    were emitted and all datagrams with one of them were acknowledged after
    they left. -/
theorem receipt_reported_once (mtu : Nat) (tunables : SessionTunables F) (start : Instant)
    (ops : List SessionOp)
    (hused : (usedReceipts (withTunables mtu tunables start : Session F H) ops).Nodup)
    (htimely : (sessionMachine F H).AllSteps Timely (withTunables mtu tunables start) ops) :
    (((sessionMachine F H).outputs (withTunables mtu tunables start) ops).flatMap
      SessionOut.ackedReceiptIds).Nodup ∧
    ∀ before op after id, ops = before ++ op :: after →
      id ∈ (((sessionMachine F H).exec (withTunables mtu tunables start) before).step
        op).2.ackedReceiptIds →
      (∀ q ∈ ((sessionMachine F H).outputs (withTunables mtu tunables start) ops).flatMap
          SessionOut.made, q.receiptId = some id →
        ∃ b ∈ ((sessionMachine F H).outputs (withTunables mtu tunables start) before).flatMap
          SessionOut.fresh, q ∈ b.queued) ∧
      ∀ pre sendOp post b, before = pre ++ sendOp :: post →
        b ∈ (((sessionMachine F H).exec (withTunables mtu tunables start) pre).step
          sendOp).2.fresh →
        id ∈ b.receiptIds →
        ¬ (sessionMachine F H).AllSteps (Spares b.sequence)
          ((sessionMachine F H).exec (withTunables mtu tunables start) (pre ++ [sendOp]))
          (post ++ [op]) := by
  set s : Session F H := withTunables mtu tunables start with hs
  have hinit : s.view = SendView.initial := view_withTunables mtu tunables start
  -- The receipts after any part of the run.
  have hstate : ∀ before after, ops = before ++ after →
      ∃ pending, SendView.ReceiptState (runEvents s before)
        (((sessionMachine F H).outputs s before).flatMap SessionOut.ackedReceiptIds)
        ((sessionMachine F H).exec s before).view pending := by
    intro before after happ
    obtain ⟨hall, hview, hreported, -, -⟩ := run_refines s before
    rw [hview, hreported, hinit]
    rw [happ, usedReceipts_append, List.nodup_append] at hused
    rw [happ, Machine.allSteps_append] at htimely
    exact SendView.receiptState_exec (hinit ▸ hall) (hinit ▸ runEvents_timely htimely.1)
      (usedOnce_runEvents hused.1)
  refine ⟨?_, ?_⟩
  · obtain ⟨_, h⟩ := hstate ops [] (List.append_nil ops).symm
    exact h.nodup
  · intro before op after id happ hid
    obtain ⟨pending, h⟩ := hstate (before ++ [op]) after (by simp [happ])
    have hreported : id ∈ ((sessionMachine F H).outputs s (before ++ [op])).flatMap
        SessionOut.ackedReceiptIds := by
      rw [Machine.outputs_append, List.flatMap_append]
      exact List.mem_append_right _ (by simpa using hid)
    obtain ⟨hnone, hqueue, hcut⟩ := h.closed id hreported
    refine ⟨?_, ?_⟩
    · intro q hq hqid
      -- The payload was queued before, so the entry was made before.
      have hmade : q ∈ (runEvents s (before ++ [op])).flatMap SendEvent.made := by
        have hrun := (run_refines s ops).2.2.2.2
        have happ' : ops = (before ++ [op]) ++ after := by simp [happ]
        rw [hrun, happ', runEvents_append, List.flatMap_append, List.mem_append] at hq
        rcases hq with hq | hq
        · exact hq
        · obtain ⟨pre, post, hpre, q₀, hq₀, hid₀⟩ := hcut
          have honce := usedOnce_runEvents hused pre
            (post ++ runEvents ((sessionMachine F H).exec s (before ++ [op])) after)
            (by rw [happ', runEvents_append, hpre]; simp) q₀ hq₀ q
            (by rw [List.flatMap_append]; exact List.mem_append_right _ hq) id hid₀
          exact absurd hqid honce
      have hconserved := SendView.exec_queue (run_refines s (before ++ [op])).1
      rw [← (run_refines s (before ++ [op])).2.1, hinit, show SendView.initial.queue = 0 from rfl,
        zero_add] at hconserved
      have hmem := Multiset.mem_coe.mpr hmade
      rw [← hconserved, Multiset.mem_add, Multiset.mem_coe,
        ← (run_refines s (before ++ [op])).2.2.2.1] at hmem
      rcases hmem with hmem | hmem
      · exact absurd hqid (hqueue q hmem)
      · obtain ⟨b, hb, hqb⟩ := List.mem_flatMap.mp hmem
        refine ⟨b, ?_, hqb⟩
        rw [Machine.outputs_append, List.flatMap_append, List.mem_append] at hb
        rcases hb with hb | hb
        · exact hb
        · -- An operation that reports a receipt emits nothing.
          cases op with
          | processIncomingReceipts now => cases hb
          | _ => cases hid
    · intro pre sendOp post b hbefore hb hidb hspares
      rw [Machine.exec_append, Machine.exec_cons, Machine.exec_nil, sessionMachine_step] at hspares
      obtain ⟨epre, epost, hrun, hall⟩ := runEvents_cut hb hspares
      have hevents : runEvents s (before ++ [op])
          = (runEvents s pre ++ epre) ++ .emit b :: epost := by
        rw [hbefore, List.append_assoc, List.cons_append, runEvents_append, hrun,
          List.append_assoc]
      have htracked : b.tracked = true := by
        have hne : b.receiptIds.isEmpty = false :=
          List.isEmpty_eq_false_iff_exists_mem.mpr ⟨id, hidb⟩
        simp [BuiltDatagram.tracked, hne]
      have hpending := h.unacked _ b _ hevents htracked (by
        rw [← hinit, Machine.exec_append, ← (run_refines s pre).2.1]
        exact hall)
      -- It would still be counted.
      have hbound := h.bound id
      rw [hnone] at hbound
      have hpos : 0 < SendView.carriers id pending :=
        List.countP_pos_iff.mpr ⟨b, hpending, by simpa using hidb⟩
      simp only [Option.getD_none] at hbound
      omega

/-- A payload of two frames whose datagrams leave in one tick and are
    acknowledged one after the other. -/
def twoPartRun : List SessionOp :=
  [.queuePayload (List.replicate 100 7) .reliable 0 .high (some 3), .onTick 0 2 1000 0 0,
    .handleAckPayload ⟨[⟨Sequence24.new 0, Sequence24.new 0⟩]⟩, .processIncomingReceipts 1,
    .handleAckPayload ⟨[⟨Sequence24.new 1, Sequence24.new 1⟩]⟩, .processIncomingReceipts 2]

/-- The receipt of the two-part payload is reported, and only once. -/
theorem receipt_reported_once_two_parts :
    3 ∈ (concreteMachine.outputs (withTunables 100 SessionTunables.standard 0) twoPartRun).flatMap
      SessionOut.ackedReceiptIds ∧
    ((concreteMachine.outputs (withTunables 100 SessionTunables.standard 0) twoPartRun).flatMap
      SessionOut.ackedReceiptIds).Nodup := by
  have hused : (usedReceipts (withTunables 100 SessionTunables.standard 0 : ConcreteSession)
      twoPartRun).Nodup := by decide +kernel
  have htimely : concreteMachine.AllSteps Timely (withTunables 100 SessionTunables.standard 0)
      twoPartRun := by decide +kernel
  have honce := receipt_reported_once 100 SessionTunables.standard 0 twoPartRun hused htimely
  exact ⟨by decide +kernel, honce.1⟩

/-- A payload of four frames. The first two leave and are acknowledged while
    the others wait; then the others leave and are acknowledged. -/
def earlyAckRun : List SessionOp :=
  [.queuePayload (List.replicate 250 7) .reliable 0 .high (some 3),
    .buildDataDatagram 0 1000, .buildDataDatagram 0 1000,
    .handleAckPayload ⟨[⟨Sequence24.new 0, Sequence24.new 1⟩]⟩, .processIncomingReceipts 1,
    .buildDataDatagram 2 1000, .buildDataDatagram 2 1000,
    .handleAckPayload ⟨[⟨Sequence24.new 2, Sequence24.new 3⟩]⟩, .processIncomingReceipts 3]

/-- The receipt is used once and reported twice. -/
theorem receipt_reported_twice :
    usedReceipts (withTunables 100 SessionTunables.standard 0 : ConcreteSession) earlyAckRun = [3] ∧
    (concreteMachine.outputs (withTunables 100 SessionTunables.standard 0) earlyAckRun).flatMap
      SessionOut.ackedReceiptIds = [3, 3] := by
  decide +kernel

end Session

end Raknet
