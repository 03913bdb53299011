-- SUMMARY: The bounded queue of ranges to acknowledge: merging push and the drain limited by size.
import Raknet.Protocol.Ack

namespace Raknet

structure AckQueue where
  maxRanges : Nat
  queue : List SequenceRange
deriving DecidableEq, Repr

namespace AckQueue

def new (maxRanges : Nat) : AckQueue := { maxRanges, queue := [] }

/-- The rule of `push` for the last range: extend it by an adjacent range, or
    widen it to an overlapping one. -/
def mergeLast (last range : SequenceRange) : Option SequenceRange :=
  if last.stop.next = range.start then
    some { last with stop := range.stop }
  else if last.stop.ge range.start && range.stop.ge last.start then
    some ⟨last.start.min range.start, last.stop.max range.stop⟩
  else
    none

/-- The body of `push`, with the recursive calls on the halves of a wrapping
    range given by `again`. -/
def pushWith (again : AckQueue → SequenceRange → AckQueue)
    (q : AckQueue) (range : SequenceRange) : AckQueue :=
  if q.queue.length ≥ q.maxRanges then
    q
  else
    match q.queue.getLast?.bind (fun last => mergeLast last range) with
    | some merged => { q with queue := q.queue.dropLast ++ [merged] }
    | none =>
      match range.splitWrapping with
      | some (left, right) => again (again q left) right
      | none => { q with queue := q.queue ++ [range] }

/-- `AckQueue::push`. The halves of a wrapping range do not wrap, so the
    recursion is one level deep. -/
def push (q : AckQueue) (range : SequenceRange) : AckQueue :=
  pushWith (pushWith fun q _ => q) q range

def isEmpty (q : AckQueue) : Bool := q.queue.isEmpty

/-- The encoded size of a range, wrapping ranges counted as two. -/
def rangeSize (r : SequenceRange) : Nat :=
  match r.splitWrapping with
  | some (left, right) => left.encodedSize + right.encodedSize
  | none => r.encodedSize

/-- The loop of `pop_for_mtu`: the ranges taken and the ones left. -/
def popLoop (mtu maxRanges : Nat) :
    Nat → List SequenceRange → List SequenceRange → List SequenceRange × List SequenceRange
  | _, out, [] => (out, [])
  | used, out, front :: rest =>
    if out.length ≥ maxRanges then
      (out, front :: rest)
    else if !out.isEmpty && used + rangeSize front > mtu then
      (out, front :: rest)
    else
      popLoop mtu maxRanges (used + rangeSize front) (out ++ [front]) rest

def popForMtu (q : AckQueue) (mtu baseOverhead maxRanges : Nat) :
    List SequenceRange × AckQueue :=
  if maxRanges = 0 then
    ([], q)
  else
    let (out, queue) := popLoop mtu maxRanges baseOverhead [] q.queue
    (out, { q with queue })

/-! ## What the queue covers -/

/-- The halves of a wrapping range do not wrap. -/
theorem splitWrapping_halves {r left right : SequenceRange}
    (h : r.splitWrapping = some (left, right)) : left.wraps = false ∧ right.wraps = false := by
  unfold SequenceRange.splitWrapping at h
  split at h
  · cases h
  · simp only [Option.some.injEq, Prod.mk.injEq] at h
    obtain ⟨rfl, rfl⟩ := h
    have hs := r.start.isLt
    constructor
    · simp only [SequenceRange.wraps, Sequence24.value_new]
      simp
      omega
    · simp [SequenceRange.wraps]

/-- The body of `push` uses its recursive calls on ranges that do not wrap. -/
theorem pushWith_congr {again₁ again₂ : AckQueue → SequenceRange → AckQueue}
    (h : ∀ q r, r.wraps = false → again₁ q r = again₂ q r) (q : AckQueue) (range : SequenceRange) :
    pushWith again₁ q range = pushWith again₂ q range := by
  unfold pushWith
  split
  · rfl
  · split
    · rfl
    · split
      · next left right hsplit =>
        obtain ⟨hl, hr⟩ := splitWrapping_halves hsplit
        rw [h _ left hl, h _ right hr]
      · rfl

/-- A range that does not wrap is pushed without a recursive call. -/
theorem pushWith_of_not_wraps (again₁ again₂ : AckQueue → SequenceRange → AckQueue)
    (q : AckQueue) {range : SequenceRange} (h : range.wraps = false) :
    pushWith again₁ q range = pushWith again₂ q range := by
  have hnone : range.splitWrapping = none := by simp [SequenceRange.splitWrapping, h]
  simp only [pushWith, hnone]

/-- `push` is the recursion of the source. -/
theorem push_eq (q : AckQueue) (range : SequenceRange) : push q range = pushWith push q range :=
  pushWith_congr (fun q _ hr => pushWith_of_not_wraps _ _ q hr) q range

theorem popLoop_append (mtu maxRanges used : Nat) (out queue : List SequenceRange) :
    (popLoop mtu maxRanges used out queue).1 ++ (popLoop mtu maxRanges used out queue).2
      = out ++ queue := by
  induction queue generalizing used out with
  | nil => simp [popLoop]
  | cons front rest ih =>
    unfold popLoop
    split
    · rfl
    · split
      · rfl
      · rw [ih]; simp

/-- `pop_for_mtu` takes ranges off the front of the queue. -/
theorem popForMtu_append (q : AckQueue) (mtu baseOverhead maxRanges : Nat) :
    (q.popForMtu mtu baseOverhead maxRanges).1 ++ (q.popForMtu mtu baseOverhead maxRanges).2.queue
      = q.queue := by
  unfold popForMtu
  split
  · rfl
  · simpa using popLoop_append mtu maxRanges baseOverhead [] q.queue

end AckQueue

end Raknet
