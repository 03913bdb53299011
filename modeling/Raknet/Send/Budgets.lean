-- SUMMARY: What a tick spends: the counts, the bytes sent again, and the bytes of new datagrams with their headers.
import Raknet.Send.Limits
import Raknet.Wire.Emitted

/-!
# Byte budgets of a tick

The budget for new datagrams is charged with the frames that are taken, one by one. The
four bytes in front of them are not charged, so a tick can send four bytes more than it
may for every new datagram.
-/

namespace Raknet

variable {F H : Type} [F64 F]

namespace Session

/-! ## Resends -/

variable [MinHeap H QueuedFrame QueuedFrame.weight]

/-- The three parts of a tick, each with the session it works on. -/
theorem onTick_parts (s : Session F H) (now : Instant)
    (maxNew maxNewBytes maxResend maxResendBytes : Nat) :
    ∃ flushed paced : Session F H,
      flushControl { s with pacing := s.pacing.refreshPacingBudget s.congestion s.mtu now } now
        = ((s.onTick now maxNew maxNewBytes maxResend maxResendBytes).1.control, flushed) ∧
      (s.onTick now maxNew maxNewBytes maxResend maxResendBytes).1.resent
        = (flushed.collectResendable now maxResend
            (min maxResendBytes flushed.pacing.availableBytes)).1 ∧
      (s.onTick now maxNew maxNewBytes maxResend maxResendBytes).1.fresh
        = (buildLoop now maxNew (paced.newBytesBudget maxNewBytes) paced).1 ∧
      (s.onTick now maxNew maxNewBytes maxResend maxResendBytes).2.outgoingAcks
        = flushed.outgoingAcks ∧
      (s.onTick now maxNew maxNewBytes maxResend maxResendBytes).2.outgoingNacks
        = flushed.outgoingNacks ∧
      paced.outgoingHeap = s.outgoingHeap ∧ paced.mtu = s.mtu ∧
      (s.pacing.pacingEnabled = false → paced.pacing.pacingEnabled = false) := by
  unfold onTick
  dsimp only
  obtain ⟨_, _, _, _, _, h₁⟩ := flushControl_eq
    { s with pacing := s.pacing.refreshPacingBudget s.congestion s.mtu now } now
  generalize flushControl { s with pacing := s.pacing.refreshPacingBudget s.congestion s.mtu now }
    now = r at h₁ ⊢
  obtain ⟨control, flushed⟩ := r
  dsimp only at h₁ ⊢
  obtain ⟨_, _, _, h₂⟩ := flushed.collectResendable_eq now maxResend
    (min maxResendBytes flushed.pacing.availableBytes)
  generalize hcollect : flushed.collectResendable now maxResend
    (min maxResendBytes flushed.pacing.availableBytes) = r at h₂ ⊢
  obtain ⟨resent, collected⟩ := r
  dsimp only at h₂ ⊢
  generalize hpaced : ({ collected with pacing := _ } : Session F H) = paced
  have hheap : paced.outgoingHeap = s.outgoingHeap := by rw [← hpaced, h₂, h₁]
  have hmtu : paced.mtu = s.mtu := by rw [← hpaced, h₂, h₁]
  have hacks : paced.outgoingAcks = flushed.outgoingAcks := by rw [← hpaced, h₂]
  have hnacks : paced.outgoingNacks = flushed.outgoingNacks := by rw [← hpaced, h₂]
  have hpacing : s.pacing.pacingEnabled = false → paced.pacing.pacingEnabled = false := by
    intro hoff
    rw [← hpaced, h₂, h₁]
    simp only [Pacing.consumePacingBudget, Pacing.refreshPacingBudget, hoff, Bool.not_false,
      if_true]
  obtain ⟨_, _, _, _, _, h₃⟩ := buildLoop_eq now maxNew (paced.newBytesBudget maxNewBytes) paced
  refine ⟨flushed, paced, rfl, (congrArg Prod.fst hcollect).symm, rfl, ?_, ?_, hheap, hmtu,
    hpacing⟩
  · rw [h₃]
    exact hacks
  · rw [h₃]
    exact hnacks

end Session

end Raknet
