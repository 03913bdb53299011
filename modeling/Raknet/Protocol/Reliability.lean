-- SUMMARY: The eight delivery classes and their property table.
import Mathlib.Tactic.Common

namespace Raknet

inductive Reliability where
  | unreliable
  | unreliableSequenced
  | reliable
  | reliableOrdered
  | reliableSequenced
  | unreliableWithAckReceipt
  | reliableWithAckReceipt
  | reliableOrderedWithAckReceipt
deriving DecidableEq, Repr

structure ReliabilityProps where
  reliable : Bool
  ordered : Bool
  sequenced : Bool
  withAckReceipt : Bool
deriving DecidableEq, Repr

namespace Reliability

/-- The row of `RELIABILITY_PROPS`. -/
def props : Reliability → ReliabilityProps
  | unreliable                    => ⟨false, false, false, false⟩
  | unreliableSequenced           => ⟨false, false, true, false⟩
  | reliable                      => ⟨true, false, false, false⟩
  | reliableOrdered               => ⟨true, true, false, false⟩
  | reliableSequenced             => ⟨true, false, true, false⟩
  | unreliableWithAckReceipt      => ⟨false, false, false, true⟩
  | reliableWithAckReceipt        => ⟨true, false, false, true⟩
  | reliableOrderedWithAckReceipt => ⟨true, true, false, true⟩

def isReliable (r : Reliability) : Bool := r.props.reliable
def isOrdered (r : Reliability) : Bool := r.props.ordered
def isSequenced (r : Reliability) : Bool := r.props.sequenced
def isWithAckReceipt (r : Reliability) : Bool := r.props.withAckReceipt

/-- No delivery class is both ordered and sequenced. -/
theorem not_sequenced_of_ordered {r : Reliability} (h : r.isOrdered = true) :
    r.isSequenced = false := by
  cases r <;> first | rfl | cases h

end Reliability

end Raknet
