-- SUMMARY: The wire format of numbers, flags, magic values and socket addresses.
import Raknet.Error
import Raknet.Lib.Codec
import Raknet.Protocol.Frame

/-!
# Primitive codecs

Each codec of the source is an encoder, a decoder that checks the length of the
buffer before it reads, a lemma that the decoder reads back what the encoder
wrote, and a lemma on the bytes it uses.
-/

namespace Raknet

open Decoder

/-! ## Numbers -/

/-- The encoder of `impl_codec_be_int`. -/
def encodeBeInt (size v : Nat) : Bytes := beBytes size v

/-- The decoder of `impl_codec_be_int`. -/
def decodeBeInt (size : Nat) : Decoder DecodeError Nat := do
  require size .unexpectedEof
  let bytes ← copyToBytes size
  pure (beValue bytes)

@[simp] theorem length_encodeBeInt (size v : Nat) : (encodeBeInt size v).length = size :=
  length_beBytes size v

theorem decodeBeInt_reads {size v : Nat} (h : v < 256 ^ size) :
    (decodeBeInt size).Reads (encodeBeInt size v) v := by
  have hread : (decodeBeInt size).Reads (encodeBeInt size v) (beValue (encodeBeInt size v)) :=
    Reads.require (length_encodeBeInt size v).ge
      (Reads.copyToBytes (length_encodeBeInt size v)).bind_pure
  rwa [encodeBeInt, beValue_beBytes, Nat.mod_eq_of_lt h] at hread

theorem decodeBeInt_safe (size : Nat) {n : Nat} :
    (decodeBeInt size).Safe n fun _ used => used = size :=
  Safe.require ((Safe.copyToBytes size).bind fun _ _ h => Safe.pure h.1)

def encodeU8 (v : UInt8) : Bytes := encodeBeInt 1 v.toNat
def encodeU16 (v : UInt16) : Bytes := encodeBeInt 2 v.toNat
def encodeU32 (v : UInt32) : Bytes := encodeBeInt 4 v.toNat
def encodeU64 (v : UInt64) : Bytes := encodeBeInt 8 v.toNat
def encodeI64 (v : Int64) : Bytes := encodeBeInt 8 v.toUInt64.toNat

/-- A number read off the wire and converted. -/
def decodeInt {α : Type} (size : Nat) (ofNat : Nat → α) : Decoder DecodeError α := do
  let v ← decodeBeInt size
  pure (ofNat v)

def decodeU8 : Decoder DecodeError UInt8 := decodeInt 1 UInt8.ofNat
def decodeU16 : Decoder DecodeError UInt16 := decodeInt 2 UInt16.ofNat
def decodeU32 : Decoder DecodeError UInt32 := decodeInt 4 UInt32.ofNat
def decodeU64 : Decoder DecodeError UInt64 := decodeInt 8 UInt64.ofNat
def decodeI64 : Decoder DecodeError Int64 := decodeInt 8 fun v => (UInt64.ofNat v).toInt64

theorem decodeInt_reads {α : Type} {size v : Nat} {ofNat : Nat → α} {a : α} (hv : v < 256 ^ size)
    (ha : ofNat v = a) : (decodeInt size ofNat).Reads (encodeBeInt size v) a :=
  ha ▸ (decodeBeInt_reads hv).bind_pure

theorem decodeInt_safe {α : Type} (size : Nat) (ofNat : Nat → α) {n : Nat} :
    (decodeInt size ofNat).Safe n fun _ used => used = size :=
  (decodeBeInt_safe size).bind fun _ _ h => Safe.pure h

theorem length_encodeU8 (v : UInt8) : (encodeU8 v).length = 1 := length_encodeBeInt 1 _

@[simp] theorem encodeU8_eq (v : UInt8) : encodeU8 v = [v] := by
  simp [encodeU8, encodeBeInt, beBytes]

theorem decodeU8_reads (v : UInt8) : decodeU8.Reads (encodeU8 v) v :=
  decodeInt_reads v.toNat_lt UInt8.ofNat_toNat

theorem decodeU16_reads (v : UInt16) : decodeU16.Reads (encodeU16 v) v :=
  decodeInt_reads v.toNat_lt UInt16.ofNat_toNat

theorem decodeU32_reads (v : UInt32) : decodeU32.Reads (encodeU32 v) v :=
  decodeInt_reads v.toNat_lt UInt32.ofNat_toNat

theorem decodeU64_reads (v : UInt64) : decodeU64.Reads (encodeU64 v) v :=
  decodeInt_reads v.toNat_lt UInt64.ofNat_toNat

theorem decodeI64_reads (v : Int64) : decodeI64.Reads (encodeI64 v) v := by
  refine decodeInt_reads v.toUInt64.toNat_lt ?_
  rw [UInt64.ofNat_toNat]
  exact Int64.toInt64_toUInt64 v

/-! ## Sequence numbers and booleans -/

/-- `U24Le::encode_raknet`. -/
def encodeU24Le (v : Nat) : Bytes :=
  let v := v &&& 0x00FFFFFF
  [UInt8.ofNat (v &&& 0xFF), UInt8.ofNat ((v >>> 8) &&& 0xFF), UInt8.ofNat ((v >>> 16) &&& 0xFF)]

/-- `U24Le::decode_raknet`. -/
def decodeU24Le : Decoder DecodeError Nat := do
  require 3 .unexpectedEof
  let b0 ← getU8
  let b1 ← getU8
  let b2 ← getU8
  pure (b0.toNat ||| (b1.toNat <<< 8) ||| (b2.toNat <<< 16))

theorem u24Le_value {v : Nat} (h : v < 16777216) :
    v % 256 ||| (v / 256 % 256) <<< 8 ||| (v / 65536 % 256) <<< 16 = v := by
  have hlow : v % 256 ||| (v / 256 % 256) <<< 8 = (v / 256 % 256) <<< 8 + v % 256 := by
    rw [Nat.or_comm, Nat.shiftLeft_add_eq_or_of_lt (by omega : v % 256 < 2 ^ 8)]
  have hlt : (v / 256 % 256) <<< 8 + v % 256 < 2 ^ 16 := by
    rw [Nat.shiftLeft_eq]
    omega
  rw [hlow, Nat.or_comm, ← Nat.shiftLeft_add_eq_or_of_lt hlt, Nat.shiftLeft_eq, Nat.shiftLeft_eq]
  omega

theorem decodeU24Le_reads {v : Nat} (h : v < 16777216) :
    decodeU24Le.Reads (encodeU24Le v) v := by
  have hread : decodeU24Le.Reads (encodeU24Le v)
      ((UInt8.ofNat (v % 256)).toNat ||| ((UInt8.ofNat (v / 256 % 256)).toNat <<< 8)
        ||| ((UInt8.ofNat (v / 65536 % 256)).toNat <<< 16)) := by
    have hbytes : encodeU24Le v
        = [UInt8.ofNat (v % 256)] ++ ([UInt8.ofNat (v / 256 % 256)]
          ++ [UInt8.ofNat (v / 65536 % 256)]) := by
      have hmask : v &&& 0x00FFFFFF = v := by
        rw [Nat.and_two_pow_sub_one_eq_mod v 24, Nat.mod_eq_of_lt h]
      simp only [encodeU24Le, hmask, Nat.and_two_pow_sub_one_eq_mod _ 8, Nat.shiftRight_eq_div_pow]
      rfl
    rw [hbytes]
    exact Reads.require (by simp)
      ((Reads.getU8 _).bind ((Reads.getU8 _).bind ((Reads.getU8 _).bind_pure)))
  simpa [UInt8.toNat_ofNat', u24Le_value h] using hread

theorem decodeU24Le_safe {n : Nat} : decodeU24Le.Safe n fun _ used => used = 3 := by
  refine Safe.require ((Safe.getU8.weaken (by omega)).bind ?_)
  rintro _ _ rfl
  refine (Safe.getU8.weaken (by omega)).bind ?_
  rintro _ _ rfl
  refine (Safe.getU8.weaken (by omega)).bind ?_
  rintro _ _ rfl
  exact Safe.pure rfl

def encodeSequence24 (s : Sequence24) : Bytes := encodeU24Le s.value

def decodeSequence24 : Decoder DecodeError Sequence24 := do
  let v ← decodeU24Le
  pure (Sequence24.new v)

@[simp] theorem length_encodeSequence24 (s : Sequence24) : (encodeSequence24 s).length = 3 := rfl

theorem decodeSequence24_reads (s : Sequence24) :
    decodeSequence24.Reads (encodeSequence24 s) s := by
  have hread := (decodeU24Le_reads s.isLt).bind_pure (f := Sequence24.new)
  have hs : Sequence24.new s.value = s := Sequence24.ext_value (Nat.mod_eq_of_lt s.isLt)
  rwa [hs] at hread

theorem decodeSequence24_safe {n : Nat} : decodeSequence24.Safe n fun _ used => used = 3 :=
  decodeU24Le_safe.bind fun _ _ h => Safe.pure h

def encodeBool (b : Bool) : Bytes := [if b then 1 else 0]

def decodeBool : Decoder DecodeError Bool := do
  require 1 .unexpectedEof
  let raw ← getU8
  pure (raw == 1)

theorem decodeBool_reads (b : Bool) : decodeBool.Reads (encodeBool b) b := by
  have hread : decodeBool.Reads (encodeBool b) ((if b then 1 else 0 : UInt8) == 1) :=
    Reads.require (Nat.le_refl 1) ((Reads.getU8 _).bind_pure (f := (· == 1)))
  cases b <;> exact hread

theorem decodeBool_safe {n : Nat} : decodeBool.Safe n fun _ used => used = 1 :=
  Safe.require (Safe.getU8.bind fun _ _ h => Safe.pure h)

/-! ## Magic values -/

abbrev Magic := Octets 16

def encodeMagic (magic : Magic) : Bytes := magic.val

def decodeMagic : Decoder DecodeError Magic := do
  require 16 .unexpectedEof
  copyToSlice 16

theorem decodeMagic_reads (magic : Magic) : decodeMagic.Reads (encodeMagic magic) magic :=
  Reads.require magic.property.ge (Reads.copyToSlice magic)

/-! ## Socket addresses -/

/-- `Ipv4Addr::UNSPECIFIED`. -/
def ipv4Unspecified : Octets 4 := ⟨[0, 0, 0, 0], rfl⟩

/-- `Ipv4Addr::LOCALHOST`. -/
def ipv4Localhost : Octets 4 := ⟨[127, 0, 0, 1], rfl⟩

inductive SocketAddr where
  | v4 (ip : Octets 4) (port : UInt16)
  | v6 (ip : Octets 16) (port : UInt16) (flowinfo scopeId : UInt32)
deriving DecidableEq, Repr

inductive IpAddr where
  | v4 (octets : Octets 4)
  | v6 (octets : Octets 16)
deriving DecidableEq, Repr

def IpAddr.isUnspecified : IpAddr → Bool
  | .v4 octets => octets.val.all (· == 0)
  | .v6 octets => octets.val.all (· == 0)

namespace SocketAddr

def ip : SocketAddr → IpAddr
  | .v4 ip _ => .v4 ip
  | .v6 ip _ _ _ => .v6 ip

def port : SocketAddr → UInt16
  | .v4 _ port => port
  | .v6 _ port _ _ => port

end SocketAddr

/-- The family number goes out low byte first, the other numbers high byte first,
    and the octets of an IPv4 address are complemented. -/
def encodeSocketAddr : SocketAddr → Bytes
  | .v4 ip port => encodeU8 4 ++ (ip.val.map (~~~ ·) ++ encodeU16 port)
  | .v6 ip port flowinfo scopeId =>
    encodeU8 6 ++ ([23, 0] ++ (encodeU16 port ++ (encodeU32 flowinfo
      ++ (ip.val ++ encodeU32 scopeId))))

/-- An unchecked read of a number. -/
def getInt {α : Type} (size : Nat) (ofNat : Nat → α) : Decoder DecodeError α := do
  let bytes ← copyToBytes size
  pure (ofNat (beValue bytes))

def decodeSocketAddr : Decoder DecodeError SocketAddr := do
  require 1 .unexpectedEof
  let version ← getU8
  if version = 4 then do
    require 6 .unexpectedEof
    let a ← getU8
    let b ← getU8
    let c ← getU8
    let d ← getU8
    let port ← getInt 2 UInt16.ofNat
    pure (.v4 ⟨[~~~a, ~~~b, ~~~c, ~~~d], rfl⟩ port)
  else if version = 6 then do
    require 28 .unexpectedEof
    let _family ← copyToBytes 2
    let port ← getInt 2 UInt16.ofNat
    let flowinfo ← getInt 4 UInt32.ofNat
    let ip ← copyToSlice 16
    let scopeId ← getInt 4 UInt32.ofNat
    pure (.v6 ip port flowinfo scopeId)
  else
    fail (.invalidAddrVersion version)

theorem getInt_reads {α : Type} {size v : Nat} {ofNat : Nat → α} {a : α} (hv : v < 256 ^ size)
    (ha : ofNat v = a) : (getInt size ofNat).Reads (encodeBeInt size v) a := by
  have hread := (Reads.copyToBytes (ε := DecodeError) (length_encodeBeInt size v)).bind_pure
    (f := fun bytes => ofNat (beValue bytes))
  rwa [encodeBeInt, beValue_beBytes, Nat.mod_eq_of_lt hv, ha] at hread

theorem getInt_safe {α : Type} (size : Nat) (ofNat : Nat → α) :
    (getInt size ofNat).Safe size fun _ used => used = size :=
  (Safe.copyToBytes size).bind fun _ _ h => Safe.pure h.1

theorem length_encodeSocketAddr (addr : SocketAddr) :
    (encodeSocketAddr addr).length = 7 ∨ (encodeSocketAddr addr).length = 29 := by
  cases addr with
  | v4 ip port => exact .inl (by simp [encodeSocketAddr, encodeU16, ip.property])
  | v6 ip port flowinfo scopeId =>
    exact .inr (by simp [encodeSocketAddr, encodeU16, encodeU32, ip.property])

theorem decodeSocketAddr_reads (addr : SocketAddr) :
    decodeSocketAddr.Reads (encodeSocketAddr addr) addr := by
  have hport (port : UInt16) : (getInt 2 UInt16.ofNat).Reads (encodeU16 port) port :=
    getInt_reads port.toNat_lt UInt16.ofNat_toNat
  have hword (word : UInt32) : (getInt 4 UInt32.ofNat).Reads (encodeU32 word) word :=
    getInt_reads word.toNat_lt UInt32.ofNat_toNat
  unfold decodeSocketAddr
  cases addr with
  | v4 ip port =>
    obtain ⟨ip, hip⟩ := ip
    match ip, hip with
    | [a, b, c, d], _ =>
      have hoctets : [a, b, c, d].map (~~~ ·) ++ encodeU16 port
          = [~~~a] ++ ([~~~b] ++ ([~~~c] ++ ([~~~d] ++ encodeU16 port))) := rfl
      rw [encodeSocketAddr, hoctets, encodeU8_eq]
      refine Reads.require (by simp) ((Reads.getU8 4).bind ?_)
      rw [if_pos rfl]
      refine Reads.require (by simp [encodeU16]) ?_
      have hip : (⟨[a, b, c, d], rfl⟩ : Octets 4)
          = ⟨[~~~ ~~~a, ~~~ ~~~b, ~~~ ~~~c, ~~~ ~~~d], rfl⟩ := Subtype.ext (by simp)
      rw [hip]
      refine (Reads.getU8 _).bind ?_
      refine (Reads.getU8 _).bind ?_
      refine (Reads.getU8 _).bind ?_
      refine (Reads.getU8 _).bind ?_
      exact (hport port).bind_pure
  | v6 ip port flowinfo scopeId =>
    rw [encodeSocketAddr, encodeU8_eq]
    refine Reads.require (by simp) ((Reads.getU8 6).bind ?_)
    rw [if_neg (by decide), if_pos rfl]
    refine Reads.require (by simp [encodeU16, encodeU32, ip.property]) ?_
    have hfamily : (copyToBytes 2 : Decoder DecodeError Bytes).Reads [23, 0] [23, 0] :=
      Reads.copyToBytes rfl
    refine hfamily.bind ?_
    refine (hport port).bind ?_
    refine (hword flowinfo).bind ?_
    refine (Reads.copyToSlice ip).bind ?_
    exact (hword scopeId).bind_pure

theorem decodeSocketAddr_safe {n : Nat} :
    decodeSocketAddr.Safe n fun _ used => used = 7 ∨ used = 29 := by
  refine Safe.require ((Safe.getU8.weaken (by omega)).bind ?_)
  rintro version _ rfl
  split
  · refine Safe.require ?_
    refine (Safe.getU8.weaken (by omega)).bind ?_
    rintro _ _ rfl
    refine (Safe.getU8.weaken (by omega)).bind ?_
    rintro _ _ rfl
    refine (Safe.getU8.weaken (by omega)).bind ?_
    rintro _ _ rfl
    refine (Safe.getU8.weaken (by omega)).bind ?_
    rintro _ _ rfl
    refine ((getInt_safe 2 _).weaken (by omega)).bind ?_
    rintro _ _ rfl
    exact Safe.pure (.inl rfl)
  · split
    · refine Safe.require ?_
      refine ((Safe.copyToBytes 2).weaken (by omega)).bind ?_
      rintro _ _ ⟨rfl, -⟩
      refine ((getInt_safe 2 _).weaken (by omega)).bind ?_
      rintro _ _ rfl
      refine ((getInt_safe 4 _).weaken (by omega)).bind ?_
      rintro _ _ rfl
      refine ((Safe.copyToSlice 16).weaken (by omega)).bind ?_
      rintro _ _ rfl
      refine ((getInt_safe 4 _).weaken (by omega)).bind ?_
      rintro _ _ rfl
      exact Safe.pure (.inr rfl)
    · exact Safe.fail _

end Raknet
