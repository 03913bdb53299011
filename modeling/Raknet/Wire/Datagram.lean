-- SUMMARY: The wire format of datagrams: flags, acknowledgement records and frames; round trip and exact decoding.
import Raknet.Wire.Frame

/-!
# The datagram codec

The flag byte decides between acknowledgements, negative acknowledgements and
data. A data datagram is a sequence number and frames up to the end of the
buffer, without a count and without separators.
-/

namespace Raknet

open Decoder

/-! ## Acknowledgement records -/

namespace SequenceRange

def recordCount (r : SequenceRange) : Nat := if r.wraps then 2 else 1

def encodeRaknet (r : SequenceRange) : Bytes :=
  encodeBool (decide (r.start = r.stop)) ++
    (encodeSequence24 r.start ++ if r.start = r.stop then [] else encodeSequence24 r.stop)

def decodeRaknet : Decoder DecodeError SequenceRange := do
  let singleton ← decodeBool
  let start ← decodeSequence24
  let stop ← if singleton then pure start else decodeSequence24
  pure { start, stop }

@[simp] theorem length_encodeRaknet (r : SequenceRange) :
    r.encodeRaknet.length = r.encodedSize := by
  unfold encodeRaknet encodedSize
  split
  · simp [encodeBool]
  · simp [encodeBool]

theorem decodeRaknet_reads (r : SequenceRange) : decodeRaknet.Reads r.encodeRaknet r := by
  refine (decodeBool_reads _).bind ((decodeSequence24_reads r.start).bind ?_)
  by_cases hsingle : r.start = r.stop
  · rw [if_pos hsingle, decide_eq_true hsingle, if_pos rfl]
    have hr : ({ start := r.start, stop := r.start } : SequenceRange) = r := by
      obtain ⟨_, _⟩ := r
      cases hsingle
      rfl
    exact (Reads.pure r.start).bind_nil (hr ▸ Reads.pure _)
  · rw [if_neg hsingle, decide_eq_false hsingle, if_neg Bool.false_ne_true]
    exact (decodeSequence24_reads r.stop).bind_pure

theorem decodeRaknet_safe {n : Nat} : decodeRaknet.Safe n fun _ _ => True := by
  refine decodeBool_safe.bind fun singleton _ _ => decodeSequence24_safe.bind fun start _ _ => ?_
  cases singleton with
  | true => exact (Safe.pure (Q := fun _ _ => True) trivial).bind fun _ _ _ => Safe.pure trivial
  | false => exact decodeSequence24_safe.bind fun _ _ _ => Safe.pure trivial

end SequenceRange

namespace AckNackPayload

/-- The records of a range: two if it wraps. -/
def encodeRange (r : SequenceRange) : Bytes :=
  match r.splitWrapping with
  | some (left, right) => left.encodeRaknet ++ right.encodeRaknet
  | none => r.encodeRaknet

def encodeRaknet (p : AckNackPayload) : Except EncodeError Bytes :=
  let recordCount := (p.ranges.map SequenceRange.recordCount).sum
  if recordCount > maxAckSequences then
    .error (.ackRecordOverflow recordCount)
  else
    .ok (encodeU16 (UInt16.ofNat recordCount) ++ p.ranges.flatMap encodeRange)

def decodeRaknet : Decoder DecodeError AckNackPayload := do
  let count ← decodeU16
  failIf (count.toNat > maxAckSequences) (.invalidAckRangeCount count)
  let ranges ← times SequenceRange.decodeRaknet count.toNat
  pure { ranges }

/-- The size of a payload is the count and the records. -/
theorem encodedSize_eq (p : AckNackPayload) :
    p.encodedSize = 2 + (p.ranges.flatMap encodeRange).length := by
  have hfold : ∀ (ranges : List SequenceRange) (size : Nat),
      ranges.foldl (fun size r =>
        match r.splitWrapping with
        | some (a, b) => size + (a.encodedSize + b.encodedSize)
        | none => size + r.encodedSize) size = size + (ranges.flatMap encodeRange).length := by
    intro ranges
    induction ranges with
    | nil => simp
    | cons r ranges ih =>
      intro size
      rw [List.foldl_cons, ih, List.flatMap_cons, List.length_append, encodeRange]
      cases r.splitWrapping with
      | none => simp; omega
      | some halves => simp; omega
  exact hfold p.ranges 2

theorem sum_recordCount {ranges : List SequenceRange} (h : ∀ r ∈ ranges, r.wraps = false) :
    (ranges.map SequenceRange.recordCount).sum = ranges.length := by
  induction ranges with
  | nil => rfl
  | cons r ranges ih =>
    rw [List.map_cons, List.sum_cons, ih fun r' hr' => h r' (List.mem_cons_of_mem r hr'),
      SequenceRange.recordCount, h r List.mem_cons_self, List.length_cons]
    simp; omega

theorem encodeRange_of_not_wraps {r : SequenceRange} (h : r.wraps = false) :
    encodeRange r = r.encodeRaknet := by
  simp [encodeRange, SequenceRange.splitWrapping, h]

/-- A payload within the record limit is encoded in its size. -/
theorem encodeRaknet_ok {p : AckNackPayload}
    (h : (p.ranges.map SequenceRange.recordCount).sum ≤ maxAckSequences) :
    ∃ bytes, p.encodeRaknet = .ok bytes ∧ bytes.length = p.encodedSize := by
  refine ⟨_, if_neg (Nat.not_lt.mpr h), ?_⟩
  rw [List.length_append, encodedSize_eq]
  exact congrArg (· + _) (length_encodeBeInt 2 _)

/-- A payload of few ranges that do not wrap is read back from its encoding. -/
theorem decodeRaknet_reads {p : AckNackPayload} {bytes : Bytes}
    (hcount : p.ranges.length ≤ maxAckSequences) (hwraps : ∀ r ∈ p.ranges, r.wraps = false)
    (hbytes : p.encodeRaknet = .ok bytes) : decodeRaknet.Reads bytes p := by
  have hranges : p.ranges.flatMap encodeRange = p.ranges.flatMap SequenceRange.encodeRaknet := by
    rw [List.flatMap_def, List.flatMap_def,
      List.map_congr_left fun r hr => encodeRange_of_not_wraps (hwraps r hr)]
  rw [encodeRaknet, sum_recordCount hwraps, if_neg (Nat.not_lt.mpr hcount), hranges] at hbytes
  obtain rfl := Except.ok.inj hbytes
  have hlength : (UInt16.ofNat p.ranges.length).toNat = p.ranges.length := by
    rw [UInt16.toNat_ofNat']
    exact Nat.mod_eq_of_lt (Nat.lt_of_le_of_lt hcount (by decide))
  refine (decodeU16_reads _).bind ?_
  rw [hlength]
  refine (Reads.failIf (Nat.not_lt.mpr hcount) _).bind_nil ?_
  exact (Reads.times fun r _ => SequenceRange.decodeRaknet_reads r).bind_pure

theorem decodeRaknet_safe {n : Nat} : decodeRaknet.Safe n fun _ _ => True := by
  refine (decodeInt_safe 2 UInt16.ofNat).bind fun count _ _ => Safe.failIf fun _ => ?_
  exact ((Safe.times SequenceRange.decodeRaknet_safe _).weaken (Nat.zero_le _)).bind
    fun _ _ _ => Safe.pure trivial

end AckNackPayload

/-! ## Flags -/

inductive DatagramKind where
  | data
  | ack
  | nack
deriving DecidableEq, Repr

def DatagramPayload.kind : DatagramPayload → DatagramKind
  | .frames _ => .data
  | .ack _ => .ack
  | .nack _ => .nack

/-- `DatagramFlags::from_bits_truncate`: the declared bits. -/
def DatagramFlags.fromBitsTruncate (raw : UInt8) : DatagramFlags :=
  raw &&& (valid ||| ack ||| nack ||| packetPair ||| continuousSend ||| hasBAndAs)

def decodeDatagramFlags (raw : UInt8) : Except DecodeError (DatagramFlags × DatagramKind) :=
  let flags := DatagramFlags.fromBitsTruncate raw
  if raw &&& 0x80 = 0 then
    .error (.invalidDatagramFlags raw)
  else if raw = 0xC0 ∨ raw = 0xD0 then
    .ok (flags, .ack)
  else if raw = 0xA0 then
    .ok (flags, .nack)
  else
    .ok (flags, .data)

def validateFlagsForPayload (flags : DatagramFlags) (payload : DatagramPayload) :
    Except EncodeError Unit :=
  match decodeDatagramFlags flags with
  | .error _ => .error (.invalidDatagramFlags flags)
  | .ok (_, kind) =>
    if kind ≠ payload.kind then .error (.invalidDatagramFlags flags) else .ok ()

theorem validateFlagsForPayload_ok {flags flags' : DatagramFlags} {payload : DatagramPayload}
    (h : decodeDatagramFlags flags = .ok (flags', payload.kind)) :
    validateFlagsForPayload flags payload = .ok () := by
  rw [validateFlagsForPayload, h]
  exact if_neg (not_not.mpr rfl)

/-- Declared flags that fit the payload are decoded as its kind. -/
theorem decodeDatagramFlags_of_valid {flags : DatagramFlags} {payload : DatagramPayload}
    (hdeclared : DatagramFlags.fromBitsTruncate flags = flags)
    (hvalid : validateFlagsForPayload flags payload = .ok ()) :
    decodeDatagramFlags flags = .ok (flags, payload.kind) := by
  unfold validateFlagsForPayload at hvalid
  cases hflags : decodeDatagramFlags flags with
  | error e =>
    rw [hflags] at hvalid
    cases hvalid
  | ok r =>
    obtain ⟨flags', kind⟩ := r
    have htruncated : flags' = DatagramFlags.fromBitsTruncate flags := by
      unfold decodeDatagramFlags at hflags
      dsimp only at hflags
      split at hflags
      · cases hflags
      · split at hflags
        · cases hflags
          rfl
        · split at hflags <;> cases hflags <;> rfl
    rw [hflags] at hvalid
    dsimp only at hvalid
    split at hvalid
    · cases hvalid
    · next hkind => rw [htruncated, hdeclared, not_not.mp hkind]

/-! ## Datagrams -/

/-- The loop of `Datagram::encode` over the frames. -/
def encodeFrames : List Frame → Except EncodeError Bytes
  | [] => .ok []
  | f :: frames => do
    let bytes ← f.encodeRaknet
    let rest ← encodeFrames frames
    pure (bytes ++ rest)

theorem encodeFrames_eq {frames : List Frame} (h : ∀ f ∈ frames, f.Complete) :
    encodeFrames frames = .ok (frames.flatMap Frame.bytes) := by
  induction frames with
  | nil => rfl
  | cons f frames ih =>
    rw [encodeFrames, Frame.encodeRaknet_eq (h f List.mem_cons_self),
      ih fun f' hf' => h f' (List.mem_cons_of_mem f hf')]
    rfl

namespace Datagram

def encode (d : Datagram) : Except EncodeError Bytes := do
  validateFlagsForPayload d.header.flags d.payload
  match d.payload with
  | .frames frames =>
    let rest ← encodeFrames frames
    pure (encodeU8 d.header.flags ++ (encodeSequence24 d.header.sequence ++ rest))
  | .ack payload | .nack payload =>
    let rest ← payload.encodeRaknet
    pure (encodeU8 d.header.flags ++ rest)

/-- The part of `Datagram::decode` behind the flag byte. -/
def decodeKind (flags : DatagramFlags) : DatagramKind → Decoder DecodeError Datagram
  | .ack => do
    let payload ← AckNackPayload.decodeRaknet
    pure { header := ⟨flags, Sequence24.new 0⟩, payload := .ack payload }
  | .nack => do
    let payload ← AckNackPayload.decodeRaknet
    pure { header := ⟨flags, Sequence24.new 0⟩, payload := .nack payload }
  | .data => do
    let sequence ← decodeSequence24
    let frames ← untilEmpty Frame.decodeRaknet
    pure { header := ⟨flags, sequence⟩, payload := .frames frames }

def decode : Decoder DecodeError Datagram := do
  require 1 .unexpectedEof
  let raw ← getU8
  let (flags, kind) ← lift (decodeDatagramFlags raw)
  decodeKind flags kind

/-- A datagram of declared flags that fit its payload, whose frames are
    canonical, or whose ranges are few and do not wrap. -/
structure Canonical (d : Datagram) : Prop where
  declared : DatagramFlags.fromBitsTruncate d.header.flags = d.header.flags
  valid : validateFlagsForPayload d.header.flags d.payload = .ok ()
  frames : ∀ frames, d.payload = .frames frames → ∀ f ∈ frames, f.Canonical
  ranges : ∀ p, d.payload = .ack p ∨ d.payload = .nack p →
    d.header.sequence = Sequence24.new 0 ∧ p.ranges.length ≤ maxAckSequences ∧
    ∀ r ∈ p.ranges, r.wraps = false

/-- The encoding of a data datagram of complete frames. -/
theorem encode_frames {d : Datagram} {frames : List Frame}
    (hvalid : validateFlagsForPayload d.header.flags d.payload = .ok ())
    (hpayload : d.payload = .frames frames) (h : ∀ f ∈ frames, f.Complete) :
    d.encode = .ok (encodeU8 d.header.flags
      ++ (encodeSequence24 d.header.sequence ++ frames.flatMap Frame.bytes)) := by
  rw [hpayload] at hvalid
  simp only [encode, hvalid, hpayload, encodeFrames_eq h]
  rfl

theorem length_flatMap_bytes {frames : List Frame} (h : ∀ f ∈ frames, f.Complete) :
    (frames.flatMap Frame.bytes).length = (frames.map Frame.encodedSize).sum := by
  rw [List.length_flatMap]
  exact congrArg List.sum (List.map_congr_left fun f hf => Frame.length_bytes (h f hf))

/-- The encoding of an acknowledgement of not too many records. -/
theorem encode_ranges {d : Datagram} {p : AckNackPayload}
    (hvalid : validateFlagsForPayload d.header.flags d.payload = .ok ())
    (hpayload : d.payload = .ack p ∨ d.payload = .nack p)
    (h : (p.ranges.map SequenceRange.recordCount).sum ≤ maxAckSequences) :
    ∃ records, p.encodeRaknet = .ok records ∧
      d.encode = .ok (encodeU8 d.header.flags ++ records) ∧
      (encodeU8 d.header.flags ++ records).length = d.encodedSize := by
  obtain ⟨records, hrecords, hlength⟩ := AckNackPayload.encodeRaknet_ok h
  refine ⟨records, hrecords, ?_, ?_⟩
  · rcases hpayload with hpayload | hpayload
    · rw [hpayload] at hvalid
      simp only [encode, hvalid, hpayload, hrecords]
      rfl
    · rw [hpayload] at hvalid
      simp only [encode, hvalid, hpayload, hrecords]
      rfl
  · rw [List.length_append, hlength]
    have hflags : (encodeU8 d.header.flags).length = 1 := length_encodeBeInt 1 _
    rw [hflags]
    rcases hpayload with hpayload | hpayload <;> rw [encodedSize, hpayload]

theorem decode_run {flags : DatagramFlags} {kind : DatagramKind} (rest : Bytes)
    (hflags : decodeDatagramFlags flags = .ok (flags, kind)) :
    decode.run (encodeU8 flags ++ rest) = (decodeKind flags kind).run rest := by
  rw [encodeU8_eq]
  have hrequire : (require 1 DecodeError.unexpectedEof).run ([flags] ++ rest)
      = .ok ((), [flags] ++ rest) := rfl
  rw [decode, run_bind_ok hrequire, run_bind_ok (Reads.getU8 flags rest)]
  exact run_bind_ok (Reads.lift hflags rest)

/-- Canonical frames are read back from behind the header. -/
theorem decode_frames {flags : DatagramFlags} {sequence : Sequence24} {frames : List Frame}
    (hflags : decodeDatagramFlags flags = .ok (flags, .data))
    (hcanonical : ∀ f ∈ frames, f.Canonical) :
    decode.run (encodeU8 flags ++ (encodeSequence24 sequence ++ frames.flatMap Frame.bytes))
      = .ok ({ header := ⟨flags, sequence⟩, payload := .frames frames }, []) := by
  rw [decode_run _ hflags]
  refine (run_bind_ok (decodeSequence24_reads sequence _)).trans ?_
  have hframes := untilEmpty_reads (fun f hf => Frame.decodeRaknet_reads (hcanonical f hf))
    fun f _ => f.bytes_ne_nil
  exact run_bind_ok hframes

/-- The codec round trip: a canonical datagram is encoded, in exactly its encoded
    size, and decoding the bytes gives it back and leaves none unread. -/
theorem decode_encode {d : Datagram} (h : d.Canonical) :
    ∃ bytes, d.encode = .ok bytes ∧ bytes.length = d.encodedSize ∧
      decode.run bytes = .ok (d, []) := by
  have hflags := decodeDatagramFlags_of_valid h.declared h.valid
  obtain ⟨⟨flags, sequence⟩, payload⟩ := d
  cases payload with
  | frames frames =>
    have hcanonical := h.frames frames rfl
    have hcomplete : ∀ f ∈ frames, f.Complete := fun f hf => (hcanonical f hf).toComplete
    refine ⟨_, encode_frames h.valid rfl hcomplete, ?_, decode_frames hflags hcanonical⟩
    rw [List.length_append, List.length_append, length_flatMap_bytes hcomplete]
    simp [encodedSize, raknetDatagramHeaderSize]
    omega
  | ack p =>
    obtain ⟨hsequence, hcount, hwraps⟩ := h.ranges p (.inl rfl)
    obtain ⟨records, hrecords, hencode, hlength⟩ := encode_ranges h.valid (.inl rfl)
      ((AckNackPayload.sum_recordCount hwraps).trans_le hcount)
    have hread := (AckNackPayload.decodeRaknet_reads hcount hwraps hrecords).run_all
    refine ⟨_, hencode, hlength, ?_⟩
    rw [decode_run _ hflags]
    dsimp only at hsequence
    subst hsequence
    exact run_bind_ok hread
  | nack p =>
    obtain ⟨hsequence, hcount, hwraps⟩ := h.ranges p (.inr rfl)
    obtain ⟨records, hrecords, hencode, hlength⟩ := encode_ranges h.valid (.inr rfl)
      ((AckNackPayload.sum_recordCount hwraps).trans_le hcount)
    have hread := (AckNackPayload.decodeRaknet_reads hcount hwraps hrecords).run_all
    refine ⟨_, hencode, hlength, ?_⟩
    rw [decode_run _ hflags]
    dsimp only at hsequence
    subst hsequence
    exact run_bind_ok hread

/-- Two frames one after the other: a part of an ordered payload, and a sequenced
    payload that is reliable and carries the flag for statistics. -/
def twoFrameDatagram : Datagram :=
  { header := ⟨DatagramFlags.valid ||| DatagramFlags.continuousSend, Sequence24.new 70000⟩
    payload := .frames
      [{ header := FrameHeader.new .reliableOrdered true false
         bitLength := 24
         reliableIndex := some (Sequence24.new 16777215)
         sequenceIndex := none
         orderingIndex := some (Sequence24.new 3)
         orderingChannel := some 9
         split := some { partCount := 8192, partId := 65535, partIndex := 8191 }
         payload := [0, 132, 255] },
       { header := FrameHeader.new .reliableSequenced false true
         bitLength := 9
         reliableIndex := some (Sequence24.new 0)
         sequenceIndex := some (Sequence24.new 256)
         orderingIndex := some (Sequence24.new 65536)
         orderingChannel := some 0
         split := none
         payload := [1, 2] }] }

theorem decode_encode_two_frames : ∃ bytes, twoFrameDatagram.encode = .ok bytes ∧
    bytes.length = 42 ∧ decode.run bytes = .ok (twoFrameDatagram, []) :=
  decode_encode
    { declared := by decide
      valid := by decide
      frames := by
        intro frames hframes
        obtain rfl := DatagramPayload.frames.inj hframes
        decide
      ranges := by
        rintro p (hp | hp) <;> cases hp }

/-- What a data datagram that was decoded is like: all of the buffer is used and
    accounted for, and every frame is canonical. -/
def DecodedExactly (length : Nat) (d : Datagram) (used : Nat) : Prop :=
  ∀ frames, d.payload = .frames frames →
    used = length ∧ used = d.encodedSize ∧ ∀ f ∈ frames, f.Canonical

/-- The byte before the buffer is the flag byte. -/
theorem decodeKind_safe (flags : DatagramFlags) (kind : DatagramKind) (rest : Bytes) :
    Outcome rest.length (fun d used => DecodedExactly (1 + rest.length) d (1 + used))
      ((decodeKind flags kind).run rest) := by
  cases kind with
  | ack =>
    exact (AckNackPayload.decodeRaknet_safe rest (Nat.zero_le _)).bind
      fun _ _ _ _ _ => Outcome.pure nofun
  | nack =>
    exact (AckNackPayload.decodeRaknet_safe rest (Nat.zero_le _)).bind
      fun _ _ _ _ _ => Outcome.pure nofun
  | data =>
    refine (decodeSequence24_safe rest (Nat.zero_le _)).bind ?_
    rintro sequence rest' _ hlength rfl
    refine (untilEmpty_safe Frame.decodeRaknet_safe rest').bind ?_
    rintro frames rest'' used hlength' ⟨hsum, hall, hcanonical⟩
    refine Outcome.pure fun frames' hframes => ?_
    obtain rfl := DatagramPayload.frames.inj hframes
    refine ⟨by omega, ?_, hcanonical⟩
    simp only [encodedSize, raknetDatagramHeaderSize]
    omega

theorem decode_safe (src : Bytes) :
    Outcome src.length (DecodedExactly src.length) (decode.run src) := by
  cases src with
  | nil => trivial
  | cons raw rest =>
    have hrequire : (require 1 DecodeError.unexpectedEof).run (raw :: rest)
      = .ok ((), raw :: rest) := rfl
    rw [decode, run_bind_ok hrequire]
    refine (Safe.getU8 (raw :: rest) (Nat.succ_pos _)).bind ?_
    rintro raw' rest' _ hlength rfl
    refine (Safe.lift (decodeDatagramFlags raw') rest' (Nat.zero_le _)).bind ?_
    rintro ⟨flags, kind⟩ rest'' _ hlength' ⟨rfl, -⟩
    rw [hlength, hlength', Nat.zero_add]
    simpa only [Nat.zero_add] using decodeKind_safe flags kind rest''

/-- Decoding is total and exact: on every byte string it returns an error or a
    datagram, without a read past the end and within the bound on its loop; and a
    data datagram that it returns is canonical and accounts for every byte. -/
theorem decode_total_exact (src : Bytes) :
    (∃ e, decode.run src = .error (.error e)) ∨
    ∃ d rest, decode.run src = .ok (d, rest) ∧
      ∀ frames, d.payload = .frames frames → rest = [] ∧ src.length = d.encodedSize ∧
        ∀ f ∈ frames,
          f.payload ≠ [] ∧ f.payload.length = f.payloadLen ∧
          (f.reliableIndex.isSome = f.header.reliability.isReliable ∧
            f.sequenceIndex.isSome = f.header.reliability.isSequenced ∧
            f.orderingIndex.isSome
              = (f.header.reliability.isOrdered || f.header.reliability.isSequenced) ∧
            f.orderingChannel.isSome
              = (f.header.reliability.isOrdered || f.header.reliability.isSequenced)) ∧
          f.split.isSome = f.header.isSplit ∧
          ∀ i, f.split = some i →
            i.partIndex < i.partCount ∧ 1 ≤ i.partCount.toNat ∧ i.partCount.toNat ≤ 8192 := by
  have hsafe := decode_safe src
  generalize decode.run src = r at hsafe
  match r, hsafe with
  | .error (.error e), _ => exact .inl ⟨e, rfl⟩
  | .ok (d, rest), ⟨used, hlength, hexact⟩ =>
    refine .inr ⟨d, rest, rfl, fun frames hframes => ?_⟩
    obtain ⟨hused, hsize, hcanonical⟩ := hexact frames hframes
    refine ⟨List.length_eq_zero_iff.mp (by omega), by omega, fun f hf => ?_⟩
    have h := hcanonical f hf
    refine ⟨h.nonempty, h.payload, ⟨h.reliable, h.sequence, h.ordering, h.channel⟩, h.split,
      fun i hi => ?_⟩
    have hrange := h.inRange i hi
    have hpos := UInt32.lt_iff_toNat_lt.mp hrange.index_lt
    exact ⟨hrange.index_lt, by omega, hrange.count_le⟩

end Datagram

end Raknet
