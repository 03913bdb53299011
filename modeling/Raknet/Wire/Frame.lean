-- SUMMARY: The wire format of frames: five optional fields, the round trip, and what the decoder accepts.
import Raknet.Protocol.Datagram
import Raknet.Wire.Primitives

/-!
# The frame codec

A frame is a header byte, a bit length, five fields that are there or not
according to the header, and the payload, with nothing around it. The decoder
accepts exactly the canonical frames: it reads each of them back from its
encoding, and whatever it returns is canonical and accounts for all bytes it
used.
-/

namespace Raknet

open Decoder

/-! ## Headers -/

/-- The discriminant of the enum. -/
def Reliability.toU8 : Reliability → UInt8
  | unreliable => 0
  | unreliableSequenced => 1
  | reliable => 2
  | reliableOrdered => 3
  | reliableSequenced => 4
  | unreliableWithAckReceipt => 5
  | reliableWithAckReceipt => 6
  | reliableOrderedWithAckReceipt => 7

def Reliability.tryFrom (value : UInt8) : Except DecodeError Reliability :=
  match value with
  | 0 => .ok .unreliable
  | 1 => .ok .unreliableSequenced
  | 2 => .ok .reliable
  | 3 => .ok .reliableOrdered
  | 4 => .ok .reliableSequenced
  | 5 => .ok .unreliableWithAckReceipt
  | 6 => .ok .reliableWithAckReceipt
  | 7 => .ok .reliableOrderedWithAckReceipt
  | _ => .error (.unknownReliability value)

/-- `FRAME_FLAG_SPLIT`. -/
def frameFlagSplit : UInt8 := 0b00010000
/-- `FRAME_FLAG_NEEDS_BAS`. -/
def frameFlagNeedsBas : UInt8 := 0b00000100

namespace FrameHeader

def fromByte (raw : UInt8) : Except DecodeError FrameHeader := do
  let reliability ← Reliability.tryFrom (raw >>> 5)
  pure
    { reliability
      isSplit := (raw &&& frameFlagSplit) != 0
      needsBas := (raw &&& frameFlagNeedsBas) != 0 }

def toByte (h : FrameHeader) : UInt8 :=
  let raw := h.reliability.toU8 <<< 5
  let raw := if h.isSplit then raw ||| frameFlagSplit else raw
  if h.needsBas then raw ||| frameFlagNeedsBas else raw

def decodeRaknet : Decoder DecodeError FrameHeader := do
  require 1 .unexpectedEof
  let raw ← getU8
  lift (fromByte raw)

theorem fromByte_toByte (h : FrameHeader) : fromByte h.toByte = .ok h := by
  obtain ⟨reliability, isSplit, needsBas⟩ := h
  cases reliability <;> cases isSplit <;> cases needsBas <;> rfl

theorem decodeRaknet_reads (h : FrameHeader) : decodeRaknet.Reads [h.toByte] h :=
  Reads.require (Nat.le_refl 1) ((Reads.getU8 _).bind (Reads.lift (fromByte_toByte h)))

theorem decodeRaknet_safe {n : Nat} : decodeRaknet.Safe n fun _ used => used = 1 := by
  refine Safe.require (Safe.getU8.bind ?_)
  rintro raw _ rfl
  exact (Safe.lift _).mono fun _ _ h => by rw [h.1]

end FrameHeader

/-! ## Split information -/

namespace SplitInfo

def encodeRaknet (i : SplitInfo) : Bytes :=
  encodeU32 i.partCount ++ (encodeU16 i.partId ++ encodeU32 i.partIndex)

def decodeRaknet : Decoder DecodeError SplitInfo := do
  let partCount ← decodeU32
  failIf (partCount = 0) .splitCountZero
  failIf (partCount.toNat > maxSplitParts) .splitIndexOutOfRange
  let partId ← decodeU16
  let partIndex ← decodeU32
  failIf (partIndex ≥ partCount) .splitIndexOutOfRange
  pure { partCount, partId, partIndex }

/-- The part exists, and there are not too many parts. -/
structure InRange (i : SplitInfo) : Prop where
  index_lt : i.partIndex < i.partCount
  count_le : i.partCount.toNat ≤ maxSplitParts

@[simp] theorem length_encodeRaknet (i : SplitInfo) : i.encodeRaknet.length = 10 := by
  simp [encodeRaknet, encodeU32, encodeU16]

theorem decodeRaknet_reads {i : SplitInfo} (h : i.InRange) :
    decodeRaknet.Reads i.encodeRaknet i := by
  have hzero : ¬ i.partCount = 0 := by
    intro hzero
    have := h.index_lt
    rw [hzero] at this
    exact absurd this (by simp)
  refine (decodeU32_reads i.partCount).bind ?_
  refine (Reads.failIf hzero _).bind_nil ?_
  refine (Reads.failIf (Nat.not_lt.mpr h.count_le) _).bind_nil ?_
  refine (decodeU16_reads i.partId).bind ?_
  refine (decodeU32_reads i.partIndex).bind_end ?_
  exact (Reads.failIf (UInt32.not_le.mpr h.index_lt) _).bind_nil (Reads.pure i)

theorem decodeRaknet_safe {n : Nat} :
    decodeRaknet.Safe n fun i used => used = 10 ∧ i.InRange := by
  refine (decodeInt_safe 4 UInt32.ofNat).bind ?_
  rintro partCount _ rfl
  refine Safe.failIf fun _ => Safe.failIf fun hcount => (decodeInt_safe 2 UInt16.ofNat).bind ?_
  rintro partId _ rfl
  refine (decodeInt_safe 4 UInt32.ofNat).bind ?_
  rintro partIndex _ rfl
  refine Safe.failIf fun hindex => Safe.pure ⟨rfl, ?_⟩
  exact ⟨UInt32.not_le.mp hindex, Nat.not_lt.mp hcount⟩

end SplitInfo

/-! ## Frames -/

/-- `if c { field.ok_or(missing)?.encode_raknet(dst)? }`. -/
def encodeIf {α : Type} (c : Bool) (field : Option α) (missing : EncodeError)
    (encode : α → Bytes) : Except EncodeError Bytes :=
  if c then
    match field with
    | some a => .ok (encode a)
    | none => .error missing
  else
    .ok []

theorem encodeIf_ok {α : Type} {c : Bool} {field : Option α} (h : field.isSome = c)
    (missing : EncodeError) (encode : α → Bytes) :
    encodeIf c field missing encode = .ok ((field.map encode).getD []) := by
  subst h
  cases field <;> rfl

theorem length_field {α : Type} {field : Option α} {encode : α → Bytes} {size : Nat}
    (h : ∀ a, (encode a).length = size) :
    ((field.map encode).getD []).length = if field.isSome then size else 0 := by
  cases field with
  | none => rfl
  | some a => exact h a

namespace Frame

def encodeRaknet (f : Frame) : Except EncodeError Bytes :=
  if f.payloadLen ≠ f.payload.length then
    .error .frameBitLengthMismatch
  else do
    let rel := f.header.reliability
    let reliable ← encodeIf rel.isReliable f.reliableIndex .missingReliableIndex encodeSequence24
    let sequence ← encodeIf rel.isSequenced f.sequenceIndex .missingSequenceIndex encodeSequence24
    let ordering ← encodeIf (rel.isOrdered || rel.isSequenced) f.orderingIndex
      .missingOrderingIndex encodeSequence24
    let channel ← encodeIf (rel.isOrdered || rel.isSequenced) f.orderingChannel
      .missingOrderingChannel encodeU8
    let split ← encodeIf f.header.isSplit f.split .missingSplitInfo SplitInfo.encodeRaknet
    pure ([f.header.toByte] ++ (encodeU16 f.bitLength
      ++ (reliable ++ (sequence ++ (ordering ++ (channel ++ (split ++ f.payload)))))))

/-- The source reads the ordering index and channel under one condition. -/
def decodeRaknet : Decoder DecodeError Frame := do
  let header ← FrameHeader.decodeRaknet
  let bitLength ← decodeU16
  let payloadLen := (bitLength.toNat + 7) >>> 3
  failIf (payloadLen = 0) (.invalidFrameBitLength bitLength)
  let rel := header.reliability
  let reliableIndex ← optional rel.isReliable decodeSequence24
  let sequenceIndex ← optional rel.isSequenced decodeSequence24
  let orderingIndex ← optional (rel.isOrdered || rel.isSequenced) decodeSequence24
  let orderingChannel ← optional (rel.isOrdered || rel.isSequenced) decodeU8
  let split ← optional header.isSplit SplitInfo.decodeRaknet
  require payloadLen .unexpectedEof
  let payload ← copyToBytes payloadLen
  pure
    { header, bitLength, reliableIndex, sequenceIndex, orderingIndex, orderingChannel, split,
      payload }

/-- The fields that the header calls for are there, and the bit length is that of
    the payload. -/
structure Complete (f : Frame) : Prop where
  payload : f.payload.length = f.payloadLen
  reliable : f.reliableIndex.isSome = f.header.reliability.isReliable
  sequence : f.sequenceIndex.isSome = f.header.reliability.isSequenced
  ordering : f.orderingIndex.isSome
    = (f.header.reliability.isOrdered || f.header.reliability.isSequenced)
  channel : f.orderingChannel.isSome
    = (f.header.reliability.isOrdered || f.header.reliability.isSequenced)
  split : f.split.isSome = f.header.isSplit

/-- A frame that the decoder accepts. -/
structure Canonical (f : Frame) : Prop extends Complete f where
  nonempty : f.payload ≠ []
  inRange : ∀ i, f.split = some i → i.InRange

instance (f : Frame) : Decidable f.Complete :=
  decidable_of_iff
    (f.payload.length = f.payloadLen ∧
      f.reliableIndex.isSome = f.header.reliability.isReliable ∧
      f.sequenceIndex.isSome = f.header.reliability.isSequenced ∧
      f.orderingIndex.isSome
        = (f.header.reliability.isOrdered || f.header.reliability.isSequenced) ∧
      f.orderingChannel.isSome
        = (f.header.reliability.isOrdered || f.header.reliability.isSequenced) ∧
      f.split.isSome = f.header.isSplit)
    ⟨fun ⟨h₁, h₂, h₃, h₄, h₅, h₆⟩ => ⟨h₁, h₂, h₃, h₄, h₅, h₆⟩,
      fun h => ⟨h.payload, h.reliable, h.sequence, h.ordering, h.channel, h.split⟩⟩

instance (f : Frame) : Decidable f.Canonical :=
  decidable_of_iff
    (f.Complete ∧ f.payload ≠ [] ∧
      ∀ i ∈ f.split, i.partIndex < i.partCount ∧ i.partCount.toNat ≤ maxSplitParts)
    ⟨fun ⟨hcomplete, hpayload, hsplit⟩ =>
        ⟨hcomplete, hpayload, fun i hi => ⟨(hsplit i hi).1, (hsplit i hi).2⟩⟩,
      fun h => ⟨h.toComplete, h.nonempty,
        fun i hi => ⟨(h.inRange i hi).index_lt, (h.inRange i hi).count_le⟩⟩⟩

/-- The encoding of a complete frame. -/
def bytes (f : Frame) : Bytes :=
  [f.header.toByte] ++ (encodeU16 f.bitLength
    ++ ((f.reliableIndex.map encodeSequence24).getD []
      ++ ((f.sequenceIndex.map encodeSequence24).getD []
        ++ ((f.orderingIndex.map encodeSequence24).getD []
          ++ ((f.orderingChannel.map encodeU8).getD []
            ++ ((f.split.map SplitInfo.encodeRaknet).getD [] ++ f.payload))))))

theorem encodeRaknet_eq {f : Frame} (h : f.Complete) : f.encodeRaknet = .ok f.bytes := by
  rw [encodeRaknet, if_neg (not_not.mpr h.payload.symm)]
  dsimp only
  rw [encodeIf_ok h.reliable, encodeIf_ok h.sequence, encodeIf_ok h.ordering,
    encodeIf_ok h.channel, encodeIf_ok h.split]
  rfl

theorem bytes_ne_nil (f : Frame) : f.bytes ≠ [] := List.cons_ne_nil _ _

theorem length_bytes {f : Frame} (h : f.Complete) : f.bytes.length = f.encodedSize := by
  simp only [bytes, List.length_append, List.length_singleton,
    length_field length_encodeSequence24, length_field SplitInfo.length_encodeRaknet,
    length_field length_encodeU8, h.reliable, h.sequence, h.ordering, h.channel, h.split,
    h.payload, encodedSize, overhead]
  have : (encodeU16 f.bitLength).length = 2 := length_encodeBeInt 2 _
  rw [this]
  split <;> split <;> split <;> split <;> omega

theorem payloadLen_pos {f : Frame} (h : f.Canonical) : f.payloadLen ≠ 0 := by
  rw [← h.payload]
  exact fun hzero => h.nonempty (List.length_eq_zero_iff.mp hzero)

/-- A canonical frame is read back from its encoding, whatever follows it. -/
theorem decodeRaknet_reads {f : Frame} (h : f.Canonical) : decodeRaknet.Reads f.bytes f := by
  refine (FrameHeader.decodeRaknet_reads f.header).bind ?_
  refine (decodeU16_reads f.bitLength).bind ?_
  refine (Reads.failIf (payloadLen_pos h) _).bind_nil ?_
  refine (Reads.optional h.reliable fun s _ => decodeSequence24_reads s).bind ?_
  refine (Reads.optional h.sequence fun s _ => decodeSequence24_reads s).bind ?_
  refine (Reads.optional h.ordering fun s _ => decodeSequence24_reads s).bind ?_
  refine (Reads.optional h.channel fun c _ => decodeU8_reads c).bind ?_
  refine (Reads.optional h.split fun i hi => SplitInfo.decodeRaknet_reads (h.inRange i hi)).bind ?_
  exact Reads.require h.payload.ge ((Reads.copyToBytes h.payload).bind_pure)

/-- What the decoder returns is canonical, and its encoded size is the number of
    bytes used. -/
theorem decodeRaknet_safe {n : Nat} :
    decodeRaknet.Safe n fun f used => used = f.encodedSize ∧ 1 ≤ used ∧ f.Canonical := by
  refine FrameHeader.decodeRaknet_safe.bind ?_
  rintro header _ rfl
  refine (decodeInt_safe 2 UInt16.ofNat).bind ?_
  rintro bitLength _ rfl
  refine Safe.failIf fun hpayload => ?_
  refine (Safe.optional _ (decodeSequence24_safe.mono fun _ _ h => ⟨h, trivial⟩)).bind ?_
  rintro reliableIndex _ ⟨rfl, hreliable, -⟩
  refine (Safe.optional _ (decodeSequence24_safe.mono fun _ _ h => ⟨h, trivial⟩)).bind ?_
  rintro sequenceIndex _ ⟨rfl, hsequence, -⟩
  refine (Safe.optional _ (decodeSequence24_safe.mono fun _ _ h => ⟨h, trivial⟩)).bind ?_
  rintro orderingIndex _ ⟨rfl, hordering, -⟩
  refine (Safe.optional _ ((decodeInt_safe 1 UInt8.ofNat).mono fun _ _ h => ⟨h, trivial⟩)).bind ?_
  rintro orderingChannel _ ⟨rfl, hchannel, -⟩
  refine (Safe.optional _ SplitInfo.decodeRaknet_safe).bind ?_
  rintro split _ ⟨rfl, hsplit, hinRange⟩
  refine Safe.require ((Safe.copyToBytes _).bind ?_)
  rintro payload _ ⟨rfl, hlength⟩
  refine Safe.pure ⟨?_, by omega, ⟨⟨hlength, hreliable, hsequence, hordering, hchannel, hsplit⟩,
    ?_, hinRange⟩⟩
  · simp only [encodedSize, overhead, payloadLen]
    split <;> split <;> split <;> split <;> omega
  · exact fun hnil => hpayload (hlength.symm.trans (congrArg List.length hnil))

end Frame

end Raknet
