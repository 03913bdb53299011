-- SUMMARY: The decode and encode errors of the protocol layer, and configuration errors.
import Mathlib.Tactic.Common

namespace Raknet

/-- `DecodeError`. The session raises the split errors, the codecs the others. -/
inductive DecodeError where
  | unexpectedEof
  | unknownReliability (value : UInt8)
  | invalidFrameBitLength (value : UInt16)
  | invalidAckPacket
  | invalidDatagramFlags (raw : UInt8)
  | invalidOfflinePacketId (id : UInt8)
  | invalidConnectedPacketId (id : UInt8)
  | invalidMagic
  | invalidAddrVersion (version : UInt8)
  | invalidRequest2Layout
  | splitIndexOutOfRange
  | splitCountZero
  | missingSplitInfo
  | splitCountMismatch
  | splitTooLarge
  | splitBufferFull
  | invalidAckRangeCount (count : UInt16)
deriving DecidableEq, Repr

inductive EncodeError where
  | missingReliableIndex
  | missingSequenceIndex
  | missingOrderingIndex
  | missingOrderingChannel
  | missingSplitInfo
  | frameBitLengthMismatch
  | ackRecordOverflow (count : Nat)
  | invalidMtu (mtu : UInt16)
  | offlinePongMotdTooLong (length : Nat)
  | invalidDatagramFlags (raw : UInt8)
deriving DecidableEq, Repr

structure ConfigValidationError where
  config : String
  field : String
  message : String
deriving DecidableEq, Repr

end Raknet
