-- SUMMARY: What acknowledgement payloads mean on both sides, and which decoded datagrams can be encoded again.
import Raknet.Wire.Datagram

/-!
# Encoding again

A range that wraps is sent as two records, so a payload does not come back as it was;
but the numbers it stands for do, in their order. The decoder takes more than the
encoder writes. It drops the undeclared flag bits, and what is left may be the flags of
another kind of datagram; and a payload of ranges that wrap needs more records than it
came in.
-/

namespace Raknet

open Decoder

/-! ## The numbers of a range -/

namespace SequenceRange

/-- The records that stand for a range on the wire. -/
def records (r : SequenceRange) : List SequenceRange :=
  match r.splitWrapping with
  | some (tail, head) => [tail, head]
  | none => [r]

theorem length_records (r : SequenceRange) : r.records.length = r.recordCount := by
  unfold records splitWrapping recordCount
  cases r.wraps <;> rfl

theorem records_not_wrap (r : SequenceRange) : ∀ record ∈ r.records, record.wraps = false := by
  intro record hrecord
  rw [Bool.eq_false_iff, ne_eq, wraps_iff]
  unfold records splitWrapping at hrecord
  cases hwraps : r.wraps with
  | false =>
    rw [hwraps] at hrecord
    obtain rfl := List.mem_singleton.mp hrecord
    rw [← wraps_iff, hwraps]
    exact Bool.false_ne_true
  | true =>
    rw [hwraps] at hrecord
    have hstart := r.start.isLt
    rcases List.mem_cons.mp hrecord with rfl | hhead
    · simp only [Sequence24.value_new]
      omega
    · obtain rfl := List.mem_singleton.mp hhead
      simp only [Sequence24.value_new]
      omega

/-- The records of a range count up through the same numbers as the range. -/
theorem sequences_records (r : SequenceRange) : r.records.flatMap sequences = r.sequences := by
  unfold records splitWrapping
  cases hwraps : r.wraps with
  | false => simp
  | true =>
    have hlt := wraps_iff.mp hwraps
    have hstart := r.start.isLt
    have hwhole : r.start.distanceTo r.stop + 1
        = (16777216 - r.start.value) + (r.stop.value + 1) := by
      rcases r.start.distanceTo_cases r.stop with h | h <;> omega
    have htail : r.start.distanceTo (Sequence24.new 0x00FFFFFF) + 1
        = 16777216 - r.start.value := by
      have h := r.start.distanceTo_cases (Sequence24.new 0x00FFFFFF)
      simp only [Sequence24.value_new] at h
      omega
    have hhead : (Sequence24.new 0).distanceTo r.stop + 1 = r.stop.value + 1 := by
      have h := (Sequence24.new 0).distanceTo_cases r.stop
      simp only [Sequence24.value_new] at h
      omega
    simp only [Bool.not_true, Bool.false_eq_true, if_false, List.flatMap_cons, List.flatMap_nil,
      List.append_nil, sequences_eq, hwhole, htail, hhead]
    have hsplit : List.range ((16777216 - r.start.value) + (r.stop.value + 1))
        = List.range (16777216 - r.start.value)
          ++ (List.range (r.stop.value + 1)).map (16777216 - r.start.value + ·) := List.range_add
    rw [hsplit, List.map_append, List.map_map]
    congr 1
    refine List.map_congr_left fun k _ => Sequence24.ext_value ?_
    simp only [Function.comp_apply, Sequence24.value_new]
    omega

end SequenceRange

/-! ## Payloads -/

namespace AckNackPayload

/-- The payload that a decoder sees. -/
def onWire (p : AckNackPayload) : AckNackPayload := ⟨p.ranges.flatMap SequenceRange.records⟩

/-- The numbers that `for_each_sequence` visits for the ranges, in order. -/
def sequences (p : AckNackPayload) : List Sequence24 := p.ranges.flatMap SequenceRange.sequences

theorem onWire_sequences (p : AckNackPayload) : p.onWire.sequences = p.sequences := by
  rw [sequences, onWire, List.flatMap_assoc]
  simp only [SequenceRange.sequences_records]
  rfl

theorem onWire_not_wrap (p : AckNackPayload) : ∀ r ∈ p.onWire.ranges, r.wraps = false := by
  intro r hr
  obtain ⟨range, -, hrecord⟩ := List.mem_flatMap.mp hr
  exact range.records_not_wrap r hrecord

theorem length_onWire (p : AckNackPayload) :
    p.onWire.ranges.length = (p.ranges.map SequenceRange.recordCount).sum := by
  rw [onWire, List.length_flatMap]
  simp only [SequenceRange.length_records]

theorem encodeRange_eq (r : SequenceRange) :
    encodeRange r = r.records.flatMap SequenceRange.encodeRaknet := by
  unfold encodeRange SequenceRange.records
  cases r.splitWrapping <;> simp

/-- A payload is written like the one of its records. -/
theorem encodeRaknet_onWire (p : AckNackPayload) : p.onWire.encodeRaknet = p.encodeRaknet := by
  have hbytes : p.onWire.ranges.flatMap encodeRange = p.ranges.flatMap encodeRange := by
    have hrecords : p.onWire.ranges.flatMap encodeRange
        = p.onWire.ranges.flatMap SequenceRange.encodeRaknet := by
      rw [List.flatMap_def, List.flatMap_def,
        List.map_congr_left fun r hr => encodeRange_of_not_wraps (p.onWire_not_wrap r hr)]
    rw [hrecords, onWire, List.flatMap_assoc, List.flatMap_def, List.flatMap_def,
      List.map_congr_left fun r _ => (encodeRange_eq r).symm]
  rw [encodeRaknet, encodeRaknet, hbytes, sum_recordCount p.onWire_not_wrap, length_onWire]

theorem encodeRaknet_ok_iff {p : AckNackPayload} :
    (∃ bytes, p.encodeRaknet = .ok bytes) ↔
      (p.ranges.map SequenceRange.recordCount).sum ≤ maxAckSequences := by
  constructor
  · rintro ⟨bytes, hbytes⟩
    by_contra hlarge
    rw [encodeRaknet, if_pos (Nat.lt_of_not_le hlarge)] at hbytes
    cases hbytes
  · intro hcount
    obtain ⟨bytes, hbytes, -⟩ := encodeRaknet_ok hcount
    exact ⟨bytes, hbytes⟩

/-- What is written is read as the records. -/
theorem decodeRaknet_reads_onWire {p : AckNackPayload} {bytes : Bytes}
    (h : p.encodeRaknet = .ok bytes) : decodeRaknet.Reads bytes p.onWire := by
  refine decodeRaknet_reads ?_ p.onWire_not_wrap (p.encodeRaknet_onWire.trans h)
  rw [length_onWire]
  exact encodeRaknet_ok_iff.mp ⟨bytes, h⟩

/-- A payload that is encoded takes its encoded size, is decoded to the last byte, and
    stands for the same numbers in the same order. -/
theorem same_sequences {p : AckNackPayload} {bytes : Bytes} (h : p.encodeRaknet = .ok bytes) :
    bytes.length = p.encodedSize ∧
    ∃ p', decodeRaknet.run bytes = .ok (p', []) ∧
      p'.ranges.flatMap SequenceRange.sequences = p.ranges.flatMap SequenceRange.sequences := by
  refine ⟨?_, p.onWire, (decodeRaknet_reads_onWire h).run_all, p.onWire_sequences⟩
  obtain ⟨bytes', hbytes', hlength⟩ := encodeRaknet_ok (encodeRaknet_ok_iff.mp ⟨bytes, h⟩)
  obtain rfl := Except.ok.inj (hbytes'.symm.trans h)
  exact hlength

/-- A range across the wrap, a single number and a plain range. -/
def threeRanges : AckNackPayload :=
  ⟨[⟨Sequence24.new 16777214, Sequence24.new 1⟩, .single (Sequence24.new 9),
    ⟨Sequence24.new 20, Sequence24.new 22⟩]⟩

theorem same_sequences_three_ranges :
    ∃ p', decodeRaknet.run [0, 4, 0, 254, 255, 255, 255, 255, 255, 0, 0, 0, 0, 1, 0, 0,
        1, 9, 0, 0, 0, 20, 0, 0, 22, 0, 0] = .ok (p', []) ∧
      p'.ranges.flatMap SequenceRange.sequences
        = threeRanges.ranges.flatMap SequenceRange.sequences :=
  (same_sequences (p := threeRanges) (by decide +kernel)).2

end AckNackPayload

/-! ## Datagrams -/

theorem DatagramFlags.fromBitsTruncate_twice (raw : UInt8) :
    fromBitsTruncate (fromBitsTruncate raw) = fromBitsTruncate raw := by
  simp only [fromBitsTruncate, UInt8.and_assoc, UInt8.and_self]

theorem DatagramFlags.fromBitsTruncate_valid (raw : UInt8) :
    fromBitsTruncate raw &&& 0x80 = raw &&& 0x80 := by
  have hdeclared : (valid ||| ack ||| nack ||| packetPair ||| continuousSend ||| hasBAndAs)
      &&& 0x80 = 0x80 := by decide
  rw [fromBitsTruncate, UInt8.and_assoc, hdeclared]

/-- What the flag byte says: its declared bits and the kind. -/
theorem decodeDatagramFlags_cases {raw : UInt8} {flags : DatagramFlags} {kind : DatagramKind}
    (h : decodeDatagramFlags raw = .ok (flags, kind)) :
    raw &&& 0x80 ≠ 0 ∧ flags = DatagramFlags.fromBitsTruncate raw ∧
    (kind = .ack ∧ (raw = 0xC0 ∨ raw = 0xD0) ∨ kind = .nack ∧ raw = 0xA0 ∨
      kind = .data ∧ raw ≠ 0xC0 ∧ raw ≠ 0xD0 ∧ raw ≠ 0xA0) := by
  unfold decodeDatagramFlags at h
  dsimp only at h
  split at h
  · cases h
  · next hvalid =>
    refine ⟨hvalid, ?_⟩
    split at h
    · next hack =>
      cases h
      exact ⟨rfl, .inl ⟨rfl, hack⟩⟩
    · next hack =>
      split at h
      · next hnack =>
        cases h
        exact ⟨rfl, .inr (.inl ⟨rfl, hnack⟩)⟩
      · next hnack =>
        cases h
        exact ⟨rfl, .inr (.inr ⟨rfl, fun e => hack (.inl e), fun e => hack (.inr e), hnack⟩)⟩

namespace Datagram

/-- What is known of a datagram that was decoded. -/
structure Decoded (raw : UInt8) (d : Datagram) : Prop where
  flags : decodeDatagramFlags raw = .ok (d.header.flags, d.payload.kind)
  sequence : d.payload.kind ≠ .data → d.header.sequence = Sequence24.new 0
  frames : ∀ frames, d.payload = .frames frames → ∀ f ∈ frames, f.Canonical

theorem decodeKind_decoded {raw : UInt8} {flags : DatagramFlags} {kind : DatagramKind}
    {d : Datagram} {src rest : Bytes} (hflags : decodeDatagramFlags raw = .ok (flags, kind))
    (h : (decodeKind flags kind).run src = .ok (d, rest)) :
    decodeDatagramFlags raw = .ok (d.header.flags, d.payload.kind) ∧
      (d.payload.kind ≠ .data → d.header.sequence = Sequence24.new 0) := by
  cases kind with
  | ack | nack =>
    cases hpayload : AckNackPayload.decodeRaknet.run src with
    | error fault =>
      rw [decodeKind, run_bind_error hpayload] at h
      cases h
    | ok r =>
      rw [decodeKind, run_bind_ok hpayload] at h
      cases h
      exact ⟨hflags, fun _ => rfl⟩
  | data =>
    cases hsequence : decodeSequence24.run src with
    | error fault =>
      rw [decodeKind, run_bind_error hsequence] at h
      cases h
    | ok r =>
      rw [decodeKind, run_bind_ok hsequence] at h
      cases hframes : (untilEmpty Frame.decodeRaknet).run r.2 with
      | error fault =>
        rw [run_bind_error hframes] at h
        cases h
      | ok r' =>
        rw [run_bind_ok hframes] at h
        cases h
        exact ⟨hflags, fun hne => absurd rfl hne⟩

theorem decode_decoded {d : Datagram} {src rest : Bytes} (h : decode.run src = .ok (d, rest)) :
    ∃ raw tail, src = raw :: tail ∧ d.Decoded raw := by
  have hsafe := decode_safe src
  rw [h] at hsafe
  obtain ⟨used, -, hexact⟩ := hsafe
  cases src with
  | nil => cases h
  | cons raw tail =>
    have hrequire : (require 1 DecodeError.unexpectedEof).run (raw :: tail)
      = .ok ((), raw :: tail) := rfl
    have hbyte : (getU8 (ε := DecodeError)).run (raw :: tail) = .ok (raw, tail) :=
      Reads.getU8 raw tail
    rw [decode, run_bind_ok hrequire, run_bind_ok hbyte] at h
    cases hflags : decodeDatagramFlags raw with
    | error e =>
      rw [hflags] at h
      cases h
    | ok r =>
      obtain ⟨flags, kind⟩ := r
      have hlift : (lift (decodeDatagramFlags raw)).run tail = .ok ((flags, kind), tail) :=
        Reads.lift hflags tail
      rw [run_bind_ok hlift] at h
      obtain ⟨hflags', hsequence⟩ := decodeKind_decoded hflags h
      exact ⟨raw, tail, rfl, hflags', hsequence, fun frames hframes => (hexact frames hframes).2.2⟩

/-- The declared flags do not say another kind, and the ranges fit in the records that a
    payload may have. -/
def TakenBack (d : Datagram) : Prop :=
  match d.payload with
  | .frames _ => d.header.flags ≠ 0xC0 ∧ d.header.flags ≠ 0xD0 ∧ d.header.flags ≠ 0xA0
  | .ack p | .nack p => (p.ranges.map SequenceRange.recordCount).sum ≤ maxAckSequences

/-- The second datagram says the same as the first. -/
structure SameContent (d d' : Datagram) : Prop where
  kind : d'.payload.kind = d.payload.kind
  sequence : d'.header.sequence = d.header.sequence
  frames : ∀ frames, d.payload = .frames frames → d'.payload = .frames frames
  ranges : ∀ p, d.payload = .ack p ∨ d.payload = .nack p →
    ∃ p', (d'.payload = .ack p' ∨ d'.payload = .nack p') ∧ p'.sequences = p.sequences

theorem validate_of_encode {d : Datagram} {bytes : Bytes} (h : d.encode = .ok bytes) :
    validateFlagsForPayload d.header.flags d.payload = .ok () := by
  unfold encode at h
  cases hvalid : validateFlagsForPayload d.header.flags d.payload with
  | error e =>
    rw [hvalid] at h
    cases h
  | ok u => rfl

/-- The flags of a decoded datagram that may be taken back are those of its payload. -/
theorem Decoded.own_flags {raw : UInt8} {d : Datagram} (h : d.Decoded raw) (hback : d.TakenBack) :
    decodeDatagramFlags d.header.flags = .ok (d.header.flags, d.payload.kind) := by
  obtain ⟨hvalid, hflags, hkind⟩ := decodeDatagramFlags_cases h.flags
  obtain ⟨⟨flags, sequence⟩, payload⟩ := d
  dsimp only at hflags
  subst hflags
  cases payload with
  | frames frames =>
    obtain ⟨hc, hd, ha⟩ := hback
    dsimp only at hc hd ha ⊢
    have hbit : DatagramFlags.fromBitsTruncate raw &&& 0x80 ≠ 0 := by
      rw [DatagramFlags.fromBitsTruncate_valid]
      exact hvalid
    rw [decodeDatagramFlags, if_neg hbit, if_neg (not_or.mpr ⟨hc, hd⟩), if_neg ha,
      DatagramFlags.fromBitsTruncate_twice]
    rfl
  | ack p =>
    rcases hkind with ⟨-, rfl | rfl⟩ | ⟨hkind, -⟩ | ⟨hkind, -⟩
    · exact show decodeDatagramFlags (DatagramFlags.fromBitsTruncate 0xC0)
        = .ok (DatagramFlags.fromBitsTruncate 0xC0, .ack) by decide
    · exact show decodeDatagramFlags (DatagramFlags.fromBitsTruncate 0xD0)
        = .ok (DatagramFlags.fromBitsTruncate 0xD0, .ack) by decide
    · cases hkind
    · cases hkind
  | nack p =>
    rcases hkind with ⟨hkind, -⟩ | ⟨-, rfl⟩ | ⟨hkind, -⟩
    · cases hkind
    · exact show decodeDatagramFlags (DatagramFlags.fromBitsTruncate 0xA0)
        = .ok (DatagramFlags.fromBitsTruncate 0xA0, .nack) by decide
    · cases hkind

/-- An acknowledgement comes back with the records of its payload. -/
theorem decode_encode_ranges {d : Datagram} {p : AckNackPayload}
    (hflags : decodeDatagramFlags d.header.flags = .ok (d.header.flags, d.payload.kind))
    (hpayload : d.payload = .ack p ∨ d.payload = .nack p)
    (h : (p.ranges.map SequenceRange.recordCount).sum ≤ maxAckSequences) :
    ∃ bytes payload, d.encode = .ok bytes ∧
      decode.run bytes = .ok (⟨⟨d.header.flags, Sequence24.new 0⟩, payload⟩, []) ∧
      (d.payload = .ack p ∧ payload = .ack p.onWire ∨
        d.payload = .nack p ∧ payload = .nack p.onWire) := by
  obtain ⟨records, hrecords, hencode, -⟩ :=
    encode_ranges (validateFlagsForPayload_ok hflags) hpayload h
  have hread := (AckNackPayload.decodeRaknet_reads_onWire hrecords).run_all
  rcases hpayload with hpayload | hpayload
  · refine ⟨_, .ack p.onWire, hencode, ?_, .inl ⟨hpayload, rfl⟩⟩
    rw [decode_run _ hflags, hpayload]
    exact run_bind_ok hread
  · refine ⟨_, .nack p.onWire, hencode, ?_, .inr ⟨hpayload, rfl⟩⟩
    rw [decode_run _ hflags, hpayload]
    exact run_bind_ok hread

/-- A datagram that was decoded can be encoded again, and says the same, exactly if its
    declared flags do not say another kind and its ranges fit in the records. -/
theorem reencode_iff {src rest : Bytes} {d : Datagram} (h : decode.run src = .ok (d, rest)) :
    (∃ bytes d', d.encode = .ok bytes ∧ decode.run bytes = .ok (d', []) ∧ SameContent d d') ↔
      d.TakenBack := by
  obtain ⟨raw, tail, -, hdecoded⟩ := decode_decoded h
  constructor
  · rintro ⟨bytes, d', hencode, -, -⟩
    have hvalid := validate_of_encode hencode
    obtain ⟨-, hdeclared, -⟩ := decodeDatagramFlags_cases hdecoded.flags
    have hown := decodeDatagramFlags_of_valid
      (by rw [hdeclared, DatagramFlags.fromBitsTruncate_twice]) hvalid
    obtain ⟨-, -, hkind⟩ := decodeDatagramFlags_cases hown
    obtain ⟨header, payload⟩ := d
    cases payload with
    | frames frames =>
      rcases hkind with ⟨hkind, -⟩ | ⟨hkind, -⟩ | ⟨-, hne⟩
      · cases hkind
      · cases hkind
      · exact hne
    | ack p | nack p =>
      refine AckNackPayload.encodeRaknet_ok_iff.mp ?_
      simp only [encode, hvalid] at hencode
      cases hrecords : p.encodeRaknet with
      | error e =>
        rw [hrecords] at hencode
        cases hencode
      | ok records => exact ⟨records, rfl⟩
  · intro hback
    have hown := hdecoded.own_flags hback
    cases hpayload : d.payload with
    | frames frames =>
      have hcanonical := hdecoded.frames frames hpayload
      have hcomplete : ∀ f ∈ frames, f.Complete := fun f hf => (hcanonical f hf).toComplete
      rw [hpayload] at hown
      have hvalid : validateFlagsForPayload d.header.flags d.payload = .ok () :=
        validateFlagsForPayload_ok (by rw [hpayload]; exact hown)
      have hencode := encode_frames hvalid hpayload hcomplete
      refine ⟨_, _, hencode, decode_frames hown hcanonical, ?_, rfl, ?_, ?_⟩
      · rw [hpayload]
      · intro frames' hframes
        exact hpayload.symm.trans hframes
      · rintro p (hp | hp) <;> cases hpayload.symm.trans hp
    | ack p | nack p =>
      have hcount : (p.ranges.map SequenceRange.recordCount).sum ≤ maxAckSequences := by
        rw [TakenBack, hpayload] at hback
        exact hback
      have hsequence := hdecoded.sequence (by rw [hpayload]; intro h; cases h)
      obtain ⟨bytes, payload, hencode, hdecode, hsame⟩ :=
        decode_encode_ranges hown (by rw [hpayload]; simp) hcount
      refine ⟨bytes, _, hencode, hdecode, ?_, hsequence.symm, ?_, ?_⟩
      · rcases hsame with ⟨hp, rfl⟩ | ⟨hp, rfl⟩
        · rw [hp]
          rfl
        · rw [hp]
          rfl
      · intro frames hframes
        cases hpayload.symm.trans hframes
      · intro p' hp'
        rw [hpayload] at hp'
        obtain rfl : p = p' := by simpa using hp'
        refine ⟨p.onWire, ?_, p.onWire_sequences⟩
        rcases hsame with ⟨-, rfl⟩ | ⟨-, rfl⟩
        · exact .inl rfl
        · exact .inr rfl

/-- The byte 0xC1 in front of a data datagram is read as data, and written as an
    acknowledgement. -/
theorem reencode_refused :
    decode.run [0xC1, 1, 0, 0] = .ok (⟨⟨0xC0, Sequence24.new 1⟩, .frames []⟩, []) ∧
    (⟨⟨0xC0, Sequence24.new 1⟩, .frames []⟩ : Datagram).encode
      = .error (.invalidDatagramFlags 0xC0) := by
  decide +kernel

theorem reencode_iff_across_wrap :
    ∃ bytes d', (⟨⟨0xD0, Sequence24.new 0⟩,
        .ack ⟨[⟨Sequence24.new 16777215, Sequence24.new 1⟩]⟩⟩ : Datagram).encode = .ok bytes ∧
      decode.run bytes = .ok (d', []) ∧
      SameContent ⟨⟨0xD0, Sequence24.new 0⟩,
        .ack ⟨[⟨Sequence24.new 16777215, Sequence24.new 1⟩]⟩⟩ d' :=
  (reencode_iff (show decode.run [0xD0, 0, 1, 0, 255, 255, 255, 1, 0, 0]
    = .ok (⟨⟨0xD0, Sequence24.new 0⟩,
        .ack ⟨[⟨Sequence24.new 16777215, Sequence24.new 1⟩]⟩⟩, []) by decide +kernel)).mpr
      (show 2 ≤ maxAckSequences by decide)

end Datagram

end Raknet
