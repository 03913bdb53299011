-- SUMMARY: The write side of the stream adapter of a connection, and when it keeps what a writer may rely on.
import Raknet.Lib.Machine
import Raknet.Protocol.Frame

/-!
# Writing to a connection as a stream

A write that is not done at once stays in flight between calls. The next call completes it,
whatever buffer that call is made with. A writer that comes back with its buffer gets what
`poll_write` promises; one that does not, or that flushes first, does not.
-/

namespace Raknet

inductive Poll (α : Type) where
  | ready (a : α)
  | pending
deriving DecidableEq, Repr

/-- The errors of the adapter; those of a send are passed on. -/
inductive AdapterError (E : Type) where
  | brokenPipe (message : String)
  | sendQueue (error : E)
deriving DecidableEq, Repr

/-- A send future, known by the payload that it hands over, and the count it is to report. -/
structure PendingWrite where
  len : Nat
  payload : Bytes
deriving DecidableEq, Repr

structure ConnectionIo where
  /-- What completed sends have handed to the connection. -/
  handed : List Bytes
  writeInFlight : Option PendingWrite
  shutdownInFlight : Bool
deriving DecidableEq, Repr

namespace ConnectionIo

variable {E : Type}

def new : ConnectionIo := { handed := [], writeInFlight := none, shutdownInFlight := false }

/-- `fut` is what the future in flight answers when it is polled. -/
def pollPendingWrite (io : ConnectionIo) (fut : Poll (Except E Unit)) :
    Poll (Except (AdapterError E) (Option Nat)) × ConnectionIo :=
  match io.writeInFlight with
  | none => (.ready (.ok none), io)
  | some state =>
    match fut with
    | .ready (.ok ()) =>
      (.ready (.ok (some state.len)),
        { io with writeInFlight := none, handed := io.handed ++ [state.payload] })
    | .ready (.error error) =>
      (.ready (.error (.sendQueue error)), { io with writeInFlight := none })
    | .pending => (.pending, io)

/-- A call polls one future at most: the one in flight, or the one it starts. -/
def pollWrite (io : ConnectionIo) (buf : Bytes) (isClosed : Bool) (fut : Poll (Except E Unit)) :
    Poll (Except (AdapterError E) Nat) × ConnectionIo :=
  if io.shutdownInFlight then
    (.ready (.error (.brokenPipe "connection shutdown already in progress")), io)
  else
    match io.pollPendingWrite fut with
    | (.ready (.ok (some written)), io) => (.ready (.ok written), io)
    | (.ready (.error error), io) => (.ready (.error error), io)
    | (.pending, io) => (.pending, io)
    | (.ready (.ok none), io) =>
      if buf.isEmpty then
        (.ready (.ok 0), io)
      else if isClosed then
        (.ready (.error (.brokenPipe "connection already closed")), io)
      else
        match { io with writeInFlight := some ⟨buf.length, buf⟩ }.pollPendingWrite fut with
        | (.ready (.ok (some written)), io) => (.ready (.ok written), io)
        | (.ready (.ok none), io) => (.ready (.ok 0), io)
        | (.ready (.error error), io) => (.ready (.error error), io)
        | (.pending, io) => (.pending, io)

def pollFlush (io : ConnectionIo) (fut : Poll (Except E Unit)) :
    Poll (Except (AdapterError E) Unit) × ConnectionIo :=
  match io.pollPendingWrite fut with
  | (.ready (.ok _), io) => (.ready (.ok ()), io)
  | (.ready (.error error), io) => (.ready (.error error), io)
  | (.pending, io) => (.pending, io)

/-! ## Calls -/

/-- A call with what the send future answers in it. -/
inductive IoCall (E : Type) where
  | pollWrite (buf : Bytes) (isClosed : Bool) (fut : Poll (Except E Unit))
  | pollFlush (fut : Poll (Except E Unit))
deriving DecidableEq, Repr

namespace IoCall

def fut : IoCall E → Poll (Except E Unit)
  | .pollWrite _ _ fut => fut
  | .pollFlush fut => fut

/-- The future does not fail: it is pending, or it succeeds. -/
def sends (call : IoCall E) : Bool :=
  match call.fut with
  | .ready (.error _) => false
  | _ => true

end IoCall

/-- The buffer and the count of a write that is reported as done. -/
def step (io : ConnectionIo) : IoCall E → ConnectionIo × Option (Bytes × Nat)
  | .pollWrite buf isClosed fut =>
    match io.pollWrite buf isClosed fut with
    | (.ready (.ok n), io) => (io, some (buf, n))
    | (_, io) => (io, none)
  | .pollFlush fut => ((io.pollFlush fut).2, none)

def ioMachine (E : Type) : Machine ConnectionIo (IoCall E) (Option (Bytes × Nat)) := ⟨step⟩

/-- What a reported write claims to have handed over; nothing for no bytes. -/
def reportedPayload : Option (Bytes × Nat) → List Bytes
  | some (buf, n) => if n = 0 then [] else [buf.take n]
  | none => []

/-- A call keeps the contract: a reported count is within the buffer, and what the call hands
    over is what it reports, the first bytes of its own buffer. -/
def Faithful (io : ConnectionIo) (call : IoCall E) : Prop :=
  (∀ buf n, (io.step call).2 = some (buf, n) → n ≤ buf.length) ∧
  (io.step call).1.handed = io.handed ++ reportedPayload (io.step call).2

/-- A write in flight is completed by a `poll_write` whose buffer begins with its payload. -/
def Continues (io : ConnectionIo) (call : IoCall E) : Prop :=
  ∀ w, io.writeInFlight = some w → call.fut = .ready (.ok ()) →
    ∃ buf isClosed, call = .pollWrite buf isClosed call.fut ∧ w.payload <+: buf

/-- The write in flight reports its whole payload, which is not empty. -/
structure Sound (io : ConnectionIo) : Prop where
  notShut : io.shutdownInFlight = false
  write : ∀ w, io.writeInFlight = some w → w.len = w.payload.length ∧ w.payload ≠ []

theorem new_sound : new.Sound := ⟨rfl, fun _ h => by cases h⟩

/-! ## One call -/

/-- What a call does whose send does not fail. -/
inductive Calls (io : ConnectionIo) : IoCall E → ConnectionIo × Option (Bytes × Nat) → Prop
  | nothing {call : IoCall E}
      (h : io.writeInFlight = none ∨ call.fut = .pending) : Calls io call (io, none)
  | empty (isClosed : Bool) (fut : Poll (Except E Unit)) (h : io.writeInFlight = none) :
      Calls io (.pollWrite [] isClosed fut) (io, some ([], 0))
  | atOnce {buf : Bytes} (isClosed : Bool) (h : io.writeInFlight = none) (hbuf : buf ≠ []) :
      Calls io (.pollWrite buf isClosed (.ready (.ok ())))
        ({ io with handed := io.handed ++ [buf] }, some (buf, buf.length))
  | started {buf : Bytes} (isClosed : Bool) (h : io.writeInFlight = none) (hbuf : buf ≠ []) :
      Calls io (.pollWrite buf isClosed .pending)
        ({ io with writeInFlight := some ⟨buf.length, buf⟩ }, none)
  | completed {w : PendingWrite} (buf : Bytes) (isClosed : Bool) (h : io.writeInFlight = some w) :
      Calls io (.pollWrite buf isClosed (.ready (.ok ())))
        ({ io with writeInFlight := none, handed := io.handed ++ [w.payload] }, some (buf, w.len))
  | flushed {w : PendingWrite} (h : io.writeInFlight = some w) :
      Calls io (.pollFlush (.ready (.ok ())))
        ({ io with writeInFlight := none, handed := io.handed ++ [w.payload] }, none)

theorem step_calls {io : ConnectionIo} (hopen : io.shutdownInFlight = false) {call : IoCall E}
    (hsend : call.sends = true) : io.Calls call (io.step call) := by
  obtain ⟨handed, writeInFlight, shutdownInFlight⟩ := io
  subst hopen
  cases writeInFlight with
  | none =>
    cases call with
    | pollFlush fut => exact .nothing (.inl rfl)
    | pollWrite buf isClosed fut =>
      cases buf with
      | nil => exact .empty isClosed fut rfl
      | cons b buf =>
        cases isClosed with
        | true => exact .nothing (.inl rfl)
        | false =>
          cases fut with
          | pending => exact .started false rfl (List.cons_ne_nil b buf)
          | ready result =>
            cases result with
            | ok => exact .atOnce false rfl (List.cons_ne_nil b buf)
            | error => cases hsend
  | some w =>
    cases call with
    | pollFlush fut =>
      cases fut with
      | pending => exact .nothing (.inr rfl)
      | ready result =>
        cases result with
        | ok => exact .flushed rfl
        | error => cases hsend
    | pollWrite buf isClosed fut =>
      cases fut with
      | pending => exact .nothing (.inr rfl)
      | ready result =>
        cases result with
        | ok => exact .completed buf isClosed rfl
        | error => cases hsend

theorem Sound.step {io : ConnectionIo} (h : io.Sound) {call : IoCall E}
    (hsend : call.sends = true) : (io.step call).1.Sound := by
  have hcalls := step_calls h.notShut hsend
  generalize io.step call = r at hcalls ⊢
  cases hcalls with
  | nothing _ | empty _ _ _ | atOnce _ _ _ => exact ⟨h.notShut, h.write⟩
  | started _ _ hbuf =>
    refine ⟨h.notShut, fun w hw => ?_⟩
    obtain rfl := Option.some.inj hw
    exact ⟨rfl, hbuf⟩
  | completed _ _ _ | flushed _ => exact ⟨h.notShut, fun w hw => by cases hw⟩

/-- One call keeps the contract just if it continues the write in flight. -/
theorem faithful_iff {io : ConnectionIo} (h : io.Sound) {call : IoCall E}
    (hsend : call.sends = true) : io.Faithful call ↔ io.Continues call := by
  have hcalls := step_calls h.notShut hsend
  unfold Faithful Continues
  generalize io.step call = r at hcalls ⊢
  cases hcalls with
  | nothing hquiet =>
    refine iff_of_true ⟨fun _ _ heq => (by cases heq), (List.append_nil _).symm⟩ ?_
    intro w hw hfut
    rcases hquiet with hnone | hpending
    · rw [hnone] at hw
      cases hw
    · rw [hpending] at hfut
      cases hfut
  | empty _ _ hnone =>
    refine iff_of_true ⟨fun _ _ heq => by cases heq; exact Nat.le_refl 0, ?_⟩ fun w hw => ?_
    · exact (List.append_nil _).symm
    · rw [hnone] at hw
      cases hw
  | @atOnce buf _ hnone hbuf =>
    refine iff_of_true ⟨fun _ _ heq => by cases heq; exact Nat.le_refl _, ?_⟩ fun w hw => ?_
    · simp [reportedPayload, hbuf]
    · rw [hnone] at hw
      cases hw
  | started _ hnone _ =>
    refine iff_of_true ⟨fun _ _ heq => (by cases heq), (List.append_nil _).symm⟩ fun w hw => ?_
    rw [hnone] at hw
    cases hw
  | @completed w buf isClosed hsome =>
    obtain ⟨hlen, hpayload⟩ := h.write w hsome
    have hpos : w.payload.length ≠ 0 := fun hzero => hpayload (List.length_eq_zero_iff.mp hzero)
    constructor
    · rintro ⟨-, hhanded⟩ w' hw' -
      obtain rfl := Option.some.inj (hsome.symm.trans hw')
      rw [reportedPayload, hlen, if_neg hpos, List.append_cancel_left_eq] at hhanded
      exact ⟨buf, isClosed, rfl, List.prefix_iff_eq_take.mpr (List.singleton_inj.mp hhanded)⟩
    · intro hcontinues
      obtain ⟨buf', isClosed', hcall, hbegin⟩ := hcontinues w hsome rfl
      obtain ⟨rfl, rfl, -⟩ := IoCall.pollWrite.inj hcall
      refine ⟨fun _ _ heq => ?_, ?_⟩
      · cases heq
        exact hlen ▸ hbegin.length_le
      · rw [reportedPayload, hlen, if_neg hpos, ← List.prefix_iff_eq_take.mp hbegin]
  | @flushed w hsome =>
    refine iff_of_false ?_ fun hcontinues => ?_
    · rintro ⟨-, hhanded⟩
      have hlength := congrArg List.length hhanded
      simp [reportedPayload] at hlength
    · obtain ⟨_, _, hcall, -⟩ := hcontinues w hsome rfl
      cases hcall

/-! ## Runs -/

theorem exec_handed {io : ConnectionIo} {calls : List (IoCall E)}
    (h : (ioMachine E).AllSteps Faithful io calls) :
    ((ioMachine E).exec io calls).handed
      = io.handed ++ ((ioMachine E).outputs io calls).flatMap reportedPayload := by
  induction calls generalizing io with
  | nil => exact (List.append_nil _).symm
  | cons call calls ih =>
    rw [Machine.exec_cons, ih h.2, Machine.outputs_cons, List.flatMap_cons, ← List.append_assoc]
    exact congrArg (· ++ _) h.1.2

theorem allSteps_faithful_iff {io : ConnectionIo} (h : io.Sound) {calls : List (IoCall E)}
    (hsends : ∀ call ∈ calls, call.sends = true) :
    (ioMachine E).AllSteps Faithful io calls ↔ (ioMachine E).AllSteps Continues io calls := by
  induction calls generalizing io with
  | nil => exact Iff.rfl
  | cons call calls ih =>
    obtain ⟨hsend, hrest⟩ := List.forall_mem_cons.mp hsends
    exact and_congr (faithful_iff h hsend) (ih (h.step hsend) hrest)

/-- If no send fails, then every call keeps the contract just if every write in flight is
    completed by a `poll_write` whose buffer begins with its payload. In such a run the
    payloads handed over are those of the reported writes, one for each, in order. -/
theorem writes_faithful_iff (calls : List (IoCall E))
    (hsends : ∀ call ∈ calls, call.sends = true) :
    ((ioMachine E).AllSteps Faithful new calls ↔ (ioMachine E).AllSteps Continues new calls) ∧
    ((ioMachine E).AllSteps Continues new calls →
      ((ioMachine E).exec new calls).handed
        = ((ioMachine E).outputs new calls).flatMap reportedPayload) := by
  have hiff := allSteps_faithful_iff new_sound hsends
  exact ⟨hiff, fun hcontinues => exec_handed (hiff.mpr hcontinues)⟩

/-- A write of two bytes that is pending at first and polled again with its buffer. -/
theorem writes_faithful_iff_polled_again :
    ((ioMachine Empty).exec new
        [.pollWrite [1, 2] false .pending, .pollWrite [1, 2] false (.ready (.ok ()))]).handed
      = [[1, 2]] := by
  have hcontinues : (ioMachine Empty).AllSteps Continues new
      [.pollWrite [1, 2] false .pending, .pollWrite [1, 2] false (.ready (.ok ()))] := by
    refine ⟨fun w hw => (by cases hw), fun w hw _ => ?_, trivial⟩
    cases hw
    exact ⟨[1, 2], false, rfl, List.prefix_refl _⟩
  exact ((writes_faithful_iff _ (by decide)).2 hcontinues).trans rfl

/-- A pending write of three bytes is given up for one of a single byte, which is reported
    with three; and a write that a flush completes is handed over again when it is polled. -/
theorem write_reported_for_other_buffer :
    (ioMachine Empty).outputs new
        [.pollWrite [1, 2, 3] false .pending, .pollWrite [9] false (.ready (.ok ()))]
      = [none, some ([9], 3)] ∧
    ((ioMachine Empty).exec new
        [.pollWrite [1, 2, 3] false .pending, .pollWrite [9] false (.ready (.ok ()))]).handed
      = [[1, 2, 3]] ∧
    (ioMachine Empty).outputs new
        [.pollWrite [1] false .pending, .pollFlush (.ready (.ok ())),
          .pollWrite [1] false (.ready (.ok ()))]
      = [none, none, some ([1], 1)] ∧
    ((ioMachine Empty).exec new
        [.pollWrite [1] false .pending, .pollFlush (.ready (.ok ())),
          .pollWrite [1] false (.ready (.ok ()))]).handed
      = [[1], [1]] := by
  decide

end ConnectionIo

end Raknet
