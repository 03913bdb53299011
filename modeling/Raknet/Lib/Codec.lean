-- SUMMARY: Byte decoders with checked and unchecked reads, rules for what they read and consume, and big-endian numbers.
import Mathlib.Algebra.GroupWithZero.Nat
import Mathlib.Data.Nat.Basic
import Mathlib.Tactic.Common

/-!
# Byte decoders

A decoder reads a value off the front of a buffer. It may return an error; a
read past the end of the buffer, which the code does not return from, is a fault
of its own. Three judgements describe a decoder:

* `d.Reads bytes a`: in front of any rest, `d` reads `bytes` as `a`. This is what
  round trips are made of.
* `d.Refuses bytes e`: in front of any rest, `d` returns the error on `bytes`.
* `d.Safe n Q`: on a buffer of at least `n` bytes, `d` returns an error or a
  value and a number of used bytes that satisfy `Q`, and never faults.

Each combinator has rules for those it meets.
-/

/-- Why a decoder stops without a value: it returns an error, it reads past the
    end of the buffer, or a loop has no rounds left. -/
inductive Fault (ε : Type) where
  | error (e : ε)
  | pastEnd
  | unfinished
deriving DecidableEq, Repr

structure Decoder (ε α : Type) where
  run : List UInt8 → Except (Fault ε) (α × List UInt8)

namespace Decoder

variable {ε α β : Type}

protected def pure (a : α) : Decoder ε α := ⟨fun src => .ok (a, src)⟩

protected def bind (d : Decoder ε α) (f : α → Decoder ε β) : Decoder ε β :=
  ⟨fun src =>
    match d.run src with
    | .ok (a, rest) => (f a).run rest
    | .error fault => .error fault⟩

instance : Monad (Decoder ε) where
  pure := Decoder.pure
  bind := Decoder.bind

def fail (e : ε) : Decoder ε α := ⟨fun _ => .error (.error e)⟩

/-- The number of bytes left in the buffer. -/
def remaining : Decoder ε Nat := ⟨fun src => .ok (src.length, src)⟩

/-- Return the error if fewer than `n` bytes are left. -/
def require (n : Nat) (e : ε) : Decoder ε Unit :=
  ⟨fun src => if src.length < n then .error (.error e) else .ok ((), src)⟩

/-- Return the error if the condition holds. -/
def failIf (c : Prop) [Decidable c] (e : ε) : Decoder ε Unit := if c then fail e else pure ()

/-- An unchecked read of one byte. -/
def getU8 : Decoder ε UInt8 :=
  ⟨fun src =>
    match src with
    | [] => .error .pastEnd
    | b :: rest => .ok (b, rest)⟩

/-- An unchecked read of `n` bytes. -/
def copyToBytes (n : Nat) : Decoder ε (List UInt8) :=
  ⟨fun src => if src.length < n then .error .pastEnd else .ok (src.take n, src.drop n)⟩

/-- A byte array of fixed length. -/
abbrev Octets (n : Nat) := { bytes : List UInt8 // bytes.length = n }

/-- An unchecked read of a byte array. -/
def copyToSlice (n : Nat) : Decoder ε (Octets n) :=
  ⟨fun src =>
    if h : src.length < n then
      .error .pastEnd
    else
      .ok (⟨src.take n, by rw [List.length_take]; omega⟩, src.drop n)⟩

/-- A computation on values that are read already. -/
def lift (x : Except ε α) : Decoder ε α :=
  match x with
  | .ok a => pure a
  | .error e => fail e

/-- A field that is there on a condition. -/
def optional (c : Bool) (d : Decoder ε α) : Decoder ε (Option α) :=
  if c then do
    let a ← d
    pure (some a)
  else
    pure none

/-- The decoder `n` times. -/
def times (d : Decoder ε α) : Nat → Decoder ε (List α)
  | 0 => pure []
  | n + 1 => do
    let a ← d
    let as ← times d n
    pure (a :: as)

/-- The decoder `n` times, into an array. -/
def array (d : Decoder ε α) : (n : Nat) → Decoder ε { as : List α // as.length = n }
  | 0 => pure ⟨[], rfl⟩
  | n + 1 => do
    let a ← d
    let as ← array d n
    pure ⟨a :: as.val, congrArg (· + 1) as.property⟩

/-- The rounds of `untilEmpty`, at most `n` of them. -/
def rounds (d : Decoder ε α) : Nat → List UInt8 → Except (Fault ε) (List α × List UInt8)
  | _, [] => .ok ([], [])
  | 0, _ :: _ => .error .unfinished
  | n + 1, b :: src =>
    match d.run (b :: src) with
    | .error fault => .error fault
    | .ok (a, rest) =>
      match rounds d n rest with
      | .error fault => .error fault
      | .ok (as, rest) => .ok (a :: as, rest)

/-- `while src.has_remaining()`: the decoder again and again until no byte is
    left. A round uses a byte at least, so the length of the buffer bounds their
    number. -/
def untilEmpty (d : Decoder ε α) : Decoder ε (List α) := ⟨fun src => rounds d src.length src⟩

/-- A decoder tried on a buffer of its own; its error is a result. -/
def tryOn (d : Decoder ε α) (body : List UInt8) : Decoder ε (Except ε α) :=
  ⟨fun src =>
    match d.run body with
    | .ok (a, _) => .ok (.ok a, src)
    | .error (.error e) => .ok (.error e, src)
    | .error fault => .error fault⟩

theorem run_bind_ok {d : Decoder ε α} {f : α → Decoder ε β} {src rest : List UInt8} {a : α}
    (h : d.run src = .ok (a, rest)) : (d >>= f).run src = (f a).run rest := by
  change (d.bind f).run src = _
  simp only [Decoder.bind, h]

theorem run_bind_error {d : Decoder ε α} {f : α → Decoder ε β} {src : List UInt8} {fault : Fault ε}
    (h : d.run src = .error fault) : (d >>= f).run src = .error fault := by
  change (d.bind f).run src = _
  simp only [Decoder.bind, h]

/-- A bind that succeeds has gone through both decoders. -/
theorem exists_of_run_bind {d : Decoder ε α} {f : α → Decoder ε β} {src rest : List UInt8} {b : β}
    (h : (d >>= f).run src = .ok (b, rest)) :
    ∃ a mid, d.run src = .ok (a, mid) ∧ (f a).run mid = .ok (b, rest) := by
  cases hd : d.run src with
  | error fault =>
    rw [run_bind_error hd] at h
    cases h
  | ok r =>
    rw [run_bind_ok hd] at h
    exact ⟨r.1, r.2, rfl, h⟩

/-- The branches of a decoder that chooses. -/
theorem run_ite {c : Prop} [Decidable c] {d d' : Decoder ε α} {src : List UInt8}
    {r : Except (Fault ε) (α × List UInt8)} (h : (if c then d else d').run src = r) :
    c ∧ d.run src = r ∨ d'.run src = r := by
  by_cases hc : c
  · rw [if_pos hc] at h
    exact .inl ⟨hc, h⟩
  · rw [if_neg hc] at h
    exact .inr h

@[simp] theorem run_failIf_of_not {c : Prop} [Decidable c] (h : ¬c) (e : ε) (src : List UInt8) :
    (failIf c e).run src = .ok ((), src) := by
  rw [failIf, if_neg h]
  rfl

/-! ## Reading back -/

/-- In front of any rest, the decoder reads the bytes as the value. -/
def Reads (d : Decoder ε α) (bytes : List UInt8) (a : α) : Prop :=
  ∀ rest, d.run (bytes ++ rest) = .ok (a, rest)

namespace Reads

theorem pure (a : α) : (Pure.pure a : Decoder ε α).Reads [] a := fun _ => rfl

theorem bind {d : Decoder ε α} {f : α → Decoder ε β} {xs ys : List UInt8} {a : α} {b : β}
    (hd : d.Reads xs a) (hf : (f a).Reads ys b) : (d >>= f).Reads (xs ++ ys) b := by
  intro rest
  rw [List.append_assoc, run_bind_ok (hd _), hf]

/-- A step that reads nothing. -/
theorem bind_nil {d : Decoder ε α} {f : α → Decoder ε β} {ys : List UInt8} {a : α} {b : β}
    (hd : d.Reads [] a) (hf : (f a).Reads ys b) : (d >>= f).Reads ys b := hd.bind hf

/-- The last step that reads something. -/
theorem bind_end {d : Decoder ε α} {f : α → Decoder ε β} {xs : List UInt8} {a : α} {b : β}
    (hd : d.Reads xs a) (hf : (f a).Reads [] b) : (d >>= f).Reads xs b := by
  have h := hd.bind hf
  rwa [List.append_nil] at h

theorem bind_pure {d : Decoder ε α} {f : α → β} {xs : List UInt8} {a : α} (hd : d.Reads xs a) :
    (d >>= fun a => Pure.pure (f a)).Reads xs (f a) :=
  hd.bind_end (Reads.pure (f a))

theorem failIf {c : Prop} [Decidable c] (h : ¬c) (e : ε) : (failIf c e).Reads [] () :=
  fun rest => run_failIf_of_not h e rest

/-- A check of the length is met by the bytes that are read after it. -/
theorem require {d : Unit → Decoder ε α} {xs : List UInt8} {a : α} {n : Nat} {e : ε}
    (hn : n ≤ xs.length) (hd : (d ()).Reads xs a) : (require n e >>= d).Reads xs a := by
  intro rest
  have hlength : ¬ (xs ++ rest).length < n := by
    rw [List.length_append]
    omega
  have hrun : (Decoder.require n e).run (xs ++ rest) = .ok ((), xs ++ rest) := by
    simp only [Decoder.require, if_neg hlength]
  rw [run_bind_ok hrun, hd]

theorem getU8 (b : UInt8) : (getU8 : Decoder ε UInt8).Reads [b] b := fun _ => rfl

theorem copyToBytes {n : Nat} {xs : List UInt8} (hn : xs.length = n) :
    (copyToBytes n : Decoder ε (List UInt8)).Reads xs xs := by
  intro rest
  subst hn
  have hlength : ¬ (xs ++ rest).length < xs.length := by
    rw [List.length_append]
    omega
  simp only [Decoder.copyToBytes, if_neg hlength, List.take_left, List.drop_left]

theorem copyToSlice {n : Nat} (xs : Octets n) :
    (copyToSlice n : Decoder ε (Octets n)).Reads xs.val xs := by
  obtain ⟨xs, rfl⟩ := xs
  intro rest
  have hlength : ¬ (xs ++ rest).length < xs.length := by
    rw [List.length_append]
    omega
  simp only [Decoder.copyToSlice, dif_neg hlength, List.take_left, List.drop_left]

theorem lift {x : Except ε α} {a : α} (h : x = .ok a) : (lift x).Reads [] a := by
  subst h
  exact Reads.pure a

theorem optional {d : Decoder ε α} {c : Bool} {field : Option α} {encode : α → List UInt8}
    (hc : field.isSome = c) (hd : ∀ a, field = some a → d.Reads (encode a) a) :
    (optional c d).Reads ((field.map encode).getD []) field := by
  cases field with
  | none =>
    subst hc
    exact Reads.pure none
  | some a =>
    subst hc
    exact (hd a rfl).bind_pure (f := some)

theorem times {d : Decoder ε α} {encode : α → List UInt8} {as : List α}
    (hd : ∀ a ∈ as, d.Reads (encode a) a) : (times d as.length).Reads (as.flatMap encode) as := by
  induction as with
  | nil => exact Reads.pure []
  | cons a as ih =>
    have hrest := ih fun a' ha' => hd a' (List.mem_cons_of_mem a ha')
    exact (hd a List.mem_cons_self).bind hrest.bind_pure

theorem array {d : Decoder ε α} {encode : α → List UInt8} (hd : ∀ a, d.Reads (encode a) a) :
    ∀ {n : Nat} (as : { as : List α // as.length = n }),
      (array d n).Reads (as.val.flatMap encode) as
  | 0, ⟨[], rfl⟩ => Reads.pure _
  | n + 1, ⟨a :: as, h⟩ => by
    have hrest := array hd ⟨as, Nat.succ.inj h⟩
    exact (hd a).bind hrest.bind_pure

/-- Of a buffer that holds just the bytes, none is left. -/
theorem run_all {d : Decoder ε α} {bytes : List UInt8} {a : α} (h : d.Reads bytes a) :
    d.run bytes = .ok (a, []) := by
  have hrun := h []
  rwa [List.append_nil] at hrun

end Reads

/-- A read of all that is left. -/
theorem copyToBytes_run_all (src : List UInt8) :
    (copyToBytes src.length : Decoder ε (List UInt8)).run src = .ok (src, []) :=
  (Reads.copyToBytes rfl).run_all

/-- In front of any rest, the decoder returns the error on the bytes. -/
def Refuses (d : Decoder ε α) (bytes : List UInt8) (e : ε) : Prop :=
  ∀ rest, d.run (bytes ++ rest) = .error (.error e)

namespace Refuses

theorem lift {x : Except ε α} {e : ε} (h : x = .error e) : (lift x).Refuses [] e := by
  subst h
  exact fun _ => rfl

/-- The bytes behind those that are refused do not matter. -/
theorem append {d : Decoder ε α} {xs : List UInt8} {e : ε} (h : d.Refuses xs e)
    (ys : List UInt8) : d.Refuses (xs ++ ys) e := by
  intro rest
  rw [List.append_assoc]
  exact h (ys ++ rest)

theorem bind {d : Decoder ε α} {xs : List UInt8} {e : ε} (h : d.Refuses xs e)
    (f : α → Decoder ε β) : (d >>= f).Refuses xs e :=
  fun rest => run_bind_error (h rest)

end Refuses

theorem Reads.bind_refuses {d : Decoder ε α} {f : α → Decoder ε β} {xs ys : List UInt8} {a : α}
    {e : ε} (hd : d.Reads xs a) (hf : (f a).Refuses ys e) : (d >>= f).Refuses (xs ++ ys) e := by
  intro rest
  rw [List.append_assoc, run_bind_ok (hd _), hf]

@[simp] theorem rounds_nil (d : Decoder ε α) (n : Nat) : rounds d n [] = .ok ([], []) := by
  cases n <;> rfl

/-- Until the buffer is empty, the loop reads the values back one by one. -/
theorem rounds_reads {d : Decoder ε α} {encode : α → List UInt8} {as : List α}
    (hd : ∀ a ∈ as, d.Reads (encode a) a) (hne : ∀ a ∈ as, encode a ≠ []) {n : Nat}
    (hn : (as.flatMap encode).length ≤ n) : rounds d n (as.flatMap encode) = .ok (as, []) := by
  induction as generalizing n with
  | nil => exact rounds_nil d n
  | cons a as ih =>
    have hread := hd a List.mem_cons_self (as.flatMap encode)
    obtain ⟨b, bytes, hbytes⟩ := List.exists_cons_of_ne_nil (hne a List.mem_cons_self)
    rw [List.flatMap_cons] at hn ⊢
    rw [hbytes, List.cons_append] at hread hn ⊢
    rw [List.length_cons, List.length_append] at hn
    obtain ⟨m, rfl⟩ : ∃ m, n = m + 1 := ⟨n - 1, by omega⟩
    have hrest := ih (n := m) (fun a' ha' => hd a' (List.mem_cons_of_mem a ha'))
      (fun a' ha' => hne a' (List.mem_cons_of_mem a ha')) (by omega)
    simp only [rounds, hread, hrest]

theorem untilEmpty_reads {d : Decoder ε α} {encode : α → List UInt8} {as : List α}
    (hd : ∀ a ∈ as, d.Reads (encode a) a) (hne : ∀ a ∈ as, encode a ≠ []) :
    (untilEmpty d).run (as.flatMap encode) = .ok (as, []) :=
  rounds_reads hd hne (Nat.le_refl _)

/-! ## Safety -/

/-- What a safe decoder may come to on a buffer of `length` bytes. -/
def Outcome (length : Nat) (Q : α → Nat → Prop) : Except (Fault ε) (α × List UInt8) → Prop
  | .ok (a, rest) => ∃ used, length = used + rest.length ∧ Q a used
  | .error (.error _) => True
  | .error _ => False

/-- What comes of a decoder is what comes of its first part and, on the rest of
    the buffer, of its second. -/
theorem Outcome.bind {d : Decoder ε α} {f : α → Decoder ε β} {src : List UInt8}
    {Q : α → Nat → Prop} {R : β → Nat → Prop} (hd : Outcome src.length Q (d.run src))
    (hf : ∀ a rest used, src.length = used + rest.length → Q a used →
      Outcome rest.length (fun b used' => R b (used + used')) ((f a).run rest)) :
    Outcome src.length R ((d >>= f).run src) := by
  cases hr : d.run src with
  | ok r =>
    obtain ⟨a, rest⟩ := r
    rw [hr] at hd
    obtain ⟨used, hlength, hq⟩ := hd
    have hnext := hf a rest used hlength hq
    rw [run_bind_ok hr]
    generalize (f a).run rest = r at hnext
    match r, hnext with
    | .ok (b, rest'), ⟨used', hlength', hR⟩ => exact ⟨used + used', by omega, hR⟩
    | .error (.error _), _ => trivial
  | error fault =>
    rw [hr] at hd
    rw [run_bind_error hr]
    match fault, hd with
    | .error _, _ => trivial

theorem Outcome.pure {a : α} {src : List UInt8} {Q : α → Nat → Prop} (h : Q a 0) :
    Outcome src.length Q ((Pure.pure a : Decoder ε α).run src) :=
  ⟨0, (Nat.zero_add _).symm, h⟩

/-- On a buffer of at least `n` bytes, the decoder returns an error, or a value
    and a number of used bytes that satisfy `Q`. -/
def Safe (d : Decoder ε α) (n : Nat) (Q : α → Nat → Prop) : Prop :=
  ∀ src, n ≤ src.length → Outcome src.length Q (d.run src)

namespace Safe

variable {d : Decoder ε α} {n : Nat} {Q Q' : α → Nat → Prop}

theorem mono (h : d.Safe n Q) (hQ : ∀ a used, Q a used → Q' a used) : d.Safe n Q' := by
  intro src hn
  have hrun := h src hn
  generalize d.run src = r at hrun
  match r, hrun with
  | .ok (a, rest), ⟨used, hlength, hq⟩ => exact ⟨used, hlength, hQ a used hq⟩
  | .error (.error _), _ => trivial

/-- A decoder that needs fewer bytes is safe on more. -/
theorem weaken {m : Nat} (h : d.Safe m Q) (hm : m ≤ n) : d.Safe n Q :=
  fun src hn => h src (Nat.le_trans hm hn)

theorem pure {a : α} (h : Q a 0) : (Pure.pure a : Decoder ε α).Safe n Q :=
  fun _ _ => Outcome.pure h

theorem fail (e : ε) : (fail e : Decoder ε α).Safe n Q := fun _ _ => trivial

theorem bind {f : α → Decoder ε β} {R : β → Nat → Prop} (hd : d.Safe n Q)
    (hf : ∀ a used, Q a used → (f a).Safe (n - used) fun b used' => R b (used + used')) :
    (d >>= f).Safe n R :=
  fun src hn => (hd src hn).bind fun a rest used hlength hq => hf a used hq rest (by omega)

/-- A check of the length makes that many bytes safe to read. -/
theorem require {m : Nat} {e : ε} {f : Unit → Decoder ε α} (h : (f ()).Safe m Q) :
    (require m e >>= f).Safe n Q := by
  intro src _
  by_cases hshort : src.length < m
  · have hr : (Decoder.require m e).run src = .error (.error e) := by
      simp only [Decoder.require, if_pos hshort]
    rw [run_bind_error hr]
    trivial
  · have hr : (Decoder.require m e).run src = .ok ((), src) := by
      simp only [Decoder.require, if_neg hshort]
    rw [run_bind_ok hr]
    exact h src (Nat.le_of_not_lt hshort)

/-- Behind a check, its condition is false. -/
theorem failIf {c : Prop} [Decidable c] {e : ε} {f : Unit → Decoder ε α}
    (h : ¬c → (f ()).Safe n Q) : (failIf c e >>= f).Safe n Q := by
  intro src hn
  by_cases hc : c
  · have hr : (Decoder.failIf c e).run src = .error (.error e) := by
      rw [Decoder.failIf, if_pos hc]
      rfl
    rw [run_bind_error hr]
    trivial
  · rw [run_bind_ok (run_failIf_of_not hc e src)]
    exact h hc src hn

theorem getU8 : (getU8 : Decoder ε UInt8).Safe 1 fun _ used => used = 1 := by
  intro src hn
  match src, hn with
  | _ :: rest, _ => exact ⟨1, by rw [List.length_cons, Nat.add_comm], rfl⟩

theorem copyToBytes (n : Nat) : (copyToBytes n : Decoder ε (List UInt8)).Safe n
    fun bytes used => used = n ∧ bytes.length = n := by
  intro src hn
  simp only [Decoder.copyToBytes, if_neg (Nat.not_lt.mpr hn)]
  refine ⟨n, ?_, rfl, ?_⟩
  · rw [List.length_drop]
    omega
  · rw [List.length_take]
    omega

theorem copyToSlice (n : Nat) :
    (copyToSlice n : Decoder ε (Octets n)).Safe n fun _ used => used = n := by
  intro src hn
  simp only [Decoder.copyToSlice, dif_neg (Nat.not_lt.mpr hn)]
  refine ⟨n, ?_, rfl⟩
  rw [List.length_drop]
  omega

theorem lift (x : Except ε α) : (lift x).Safe n fun a used => used = 0 ∧ x = .ok a := by
  cases x with
  | ok a => exact Safe.pure ⟨rfl, rfl⟩
  | error e => exact Safe.fail e

/-- The bytes and the contents of an optional field. -/
theorem optional {size : Nat} {P : α → Prop} (c : Bool)
    (hd : d.Safe 0 fun a used => used = size ∧ P a) :
    (optional c d).Safe n fun field used => used = (if c then size else 0) ∧ field.isSome = c ∧
      ∀ a, field = some a → P a := by
  cases c with
  | false => exact Safe.pure ⟨rfl, rfl, nofun⟩
  | true =>
    refine (hd.weaken (Nat.zero_le n)).bind fun a used ha => Safe.pure ⟨?_, rfl, ?_⟩
    · simpa using ha.1
    · intro a' heq
      exact Option.some.inj heq ▸ ha.2

theorem times {P : α → Nat → Prop} (hd : d.Safe 0 P) (k : Nat) :
    (times d k).Safe 0 fun as _ => as.length = k ∧ ∀ a ∈ as, ∃ used, P a used := by
  induction k with
  | zero => exact Safe.pure ⟨rfl, by simp⟩
  | succ k ih =>
    refine hd.bind fun a used ha => (ih.weaken (Nat.zero_le _)).bind fun as _ has => ?_
    refine Safe.pure ⟨by rw [List.length_cons, has.1], fun a' ha' => ?_⟩
    rcases List.mem_cons.mp ha' with rfl | ha'
    · exact ⟨used, ha⟩
    · exact has.2 a' ha'

end Safe

/-- The loop over a safe decoder that uses a byte at least ends with an empty
    buffer, after as many bytes as its values account for. -/
theorem rounds_safe {d : Decoder ε α} {size : α → Nat} {P : α → Prop}
    (hd : d.Safe 0 fun a used => used = size a ∧ 1 ≤ used ∧ P a) {n : Nat} {src : List UInt8}
    (hn : src.length ≤ n) :
    Outcome src.length (fun as used => used = (as.map size).sum ∧ used = src.length ∧
      ∀ a ∈ as, P a) (rounds d n src) := by
  induction n generalizing src with
  | zero =>
    obtain rfl : src = [] := List.length_eq_zero_iff.mp (Nat.le_zero.mp hn)
    exact ⟨0, rfl, rfl, rfl, by simp⟩
  | succ n ih =>
    match src with
    | [] => exact ⟨0, rfl, rfl, rfl, by simp⟩
    | b :: src =>
      have hrun := hd (b :: src) (Nat.zero_le _)
      unfold rounds
      generalize d.run (b :: src) = r at hrun
      match r, hrun with
      | .error (.error _), _ => trivial
      | .ok (a, rest), ⟨used, hlength, hsize, hpos, ha⟩ =>
        have hrest := @ih rest (by omega)
        dsimp only
        generalize rounds d n rest = r at hrest
        match r, hrest with
        | .error (.error _), _ => trivial
        | .ok (as, rest'), ⟨used', hlength', hsum, hall, has⟩ =>
          refine ⟨used + used', by omega, ?_, by omega, ?_⟩
          · rw [List.map_cons, List.sum_cons]
            omega
          · intro a' ha'
            rcases List.mem_cons.mp ha' with rfl | ha'
            · exact ha
            · exact has a' ha'

theorem untilEmpty_safe {d : Decoder ε α} {size : α → Nat} {P : α → Prop}
    (hd : d.Safe 0 fun a used => used = size a ∧ 1 ≤ used ∧ P a) (src : List UInt8) :
    Outcome src.length (fun as used => used = (as.map size).sum ∧ used = src.length ∧
      ∀ a ∈ as, P a) ((untilEmpty d).run src) :=
  rounds_safe hd (Nat.le_refl _)

/-- On its own buffer, a safe decoder comes to a value or to an error. -/
theorem tryOn_run {d : Decoder ε α} {body : List UInt8} {Q : α → Nat → Prop}
    (h : Outcome body.length Q (d.run body)) (src : List UInt8) :
    (∃ a used, Q a used ∧ (tryOn d body).run src = .ok (.ok a, src)) ∨
    ∃ e, (tryOn d body).run src = .ok (.error e, src) := by
  simp only [tryOn]
  generalize d.run body = r at h
  match r, h with
  | .ok (a, _), ⟨used, _, hq⟩ => exact .inl ⟨a, used, hq, rfl⟩
  | .error (.error e), _ => exact .inr ⟨e, rfl⟩

end Decoder

/-! ## Big-endian numbers -/

/-- The last `n` bytes of a number, the highest first. -/
def beBytes : Nat → Nat → List UInt8
  | 0, _ => []
  | n + 1, v => UInt8.ofNat (v / 256 ^ n) :: beBytes n v

/-- The number of a list of bytes, the highest first. -/
def beValue (bytes : List UInt8) : Nat := bytes.foldl (fun acc b => acc * 256 + b.toNat) 0

@[simp] theorem length_beBytes (n v : Nat) : (beBytes n v).length = n := by
  induction n with
  | zero => rfl
  | succ n ih => rw [beBytes, List.length_cons, ih]

theorem foldl_beBytes (n v acc : Nat) :
    (beBytes n v).foldl (fun acc b => acc * 256 + b.toNat) acc = acc * 256 ^ n + v % 256 ^ n := by
  induction n generalizing acc with
  | zero => simp [beBytes, Nat.mod_one]
  | succ n ih =>
    have hbyte : (UInt8.ofNat (v / 256 ^ n)).toNat = v / 256 ^ n % 256 := UInt8.toNat_ofNat'
    rw [beBytes, List.foldl_cons, ih, hbyte, Nat.pow_succ, Nat.mod_mul, Nat.add_mul, Nat.mul_assoc,
      Nat.mul_comm 256, Nat.mul_comm (v / 256 ^ n % 256)]
    omega

theorem beValue_beBytes (n v : Nat) : beValue (beBytes n v) = v % 256 ^ n := by
  rw [beValue, foldl_beBytes, Nat.zero_mul, Nat.zero_add]
