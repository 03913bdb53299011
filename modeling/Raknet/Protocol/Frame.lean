-- SUMMARY: Frames: header, indices, split information, payload, and the encoded size.
import Raknet.Protocol.Reliability
import Raknet.Protocol.Sequence24

namespace Raknet

/-- The contents of a `Bytes` buffer. -/
abbrev Bytes := List UInt8

structure FrameHeader where
  reliability : Reliability
  isSplit : Bool
  needsBas : Bool
deriving DecidableEq, Repr

def FrameHeader.new (reliability : Reliability) (isSplit needsBas : Bool) : FrameHeader :=
  { reliability, isSplit, needsBas }

structure SplitInfo where
  partCount : UInt32
  partId : UInt16
  partIndex : UInt32
deriving DecidableEq, Repr

structure Frame where
  header : FrameHeader
  bitLength : UInt16
  reliableIndex : Option Sequence24
  sequenceIndex : Option Sequence24
  orderingIndex : Option Sequence24
  orderingChannel : Option UInt8
  split : Option SplitInfo
  payload : Bytes
deriving DecidableEq, Repr

namespace Frame

def payloadLen (f : Frame) : Nat := (f.bitLength.toNat + 7) >>> 3

/-- The bytes in front of the payload for a frame of the given class. The
    session computes the same sum as `frame_overhead`. -/
def overhead (rel : Reliability) (isSplit : Bool) : Nat :=
  3 + (if rel.isReliable then 3 else 0)
    + (if rel.isSequenced then 3 else 0)
    + (if rel.isOrdered || rel.isSequenced then 4 else 0)
    + (if isSplit then 10 else 0)

def encodedSize (f : Frame) : Nat :=
  overhead f.header.reliability f.header.isSplit + f.payloadLen

end Frame

/-- `(len as u16) << 3`, the bit length written into a frame of `len` bytes. -/
def bitLengthOf (len : Nat) : UInt16 := UInt16.ofNat len <<< 3

/-- The narrowed and shifted length counts the bytes of short payloads only. -/
theorem payloadLen_bitLengthOf_iff (len : Nat) :
    ((bitLengthOf len).toNat + 7) >>> 3 = len ↔ len < 8192 := by
  have hbits : (bitLengthOf len).toNat = len % 65536 * 8 % 65536 := by
    simp only [bitLengthOf, UInt16.toNat_shiftLeft, UInt16.toNat_ofNat', Nat.shiftLeft_eq]
    rfl
  rw [hbits, Nat.shiftRight_eq_div_pow]
  omega

end Raknet
