-- SUMMARY: The end of a connection in the events of a client: told once, and when something is told behind it.
import Raknet.Facade.Client
import Raknet.Transport.CookieGate

/-!
# The last event of a client

`finish_close` tells the end of the connection once. The loop over the frames of a
datagram goes on when a frame has closed the client, and what it tells then comes
behind the end (`packet_behind_end`).
-/

namespace Raknet

namespace RaknetClientEvent

def isDisconnected : RaknetClientEvent → Bool
  | .disconnected _ => true
  | _ => false

/-- The end of the connection is the last thing that is told. -/
def NothingFollows (stream : List RaknetClientEvent) : Prop :=
  ∀ before e after, stream = before ++ e :: after → e.isDisconnected = true → after = []

theorem NothingFollows.of_append {stream more : List RaknetClientEvent}
    (h : NothingFollows (stream ++ more)) : NothingFollows stream := by
  intro before e after hstream hend
  have hafter := h before e (after ++ more) (by rw [hstream, List.append_assoc, List.cons_append])
    hend
  exact (List.append_eq_nil_iff.mp hafter).1

/-- Before the end is told, anything may be told next. -/
theorem nothingFollows_concat {stream : List RaknetClientEvent}
    (hnone : stream.countP isDisconnected = 0) (e : RaknetClientEvent) :
    NothingFollows (stream ++ [e]) := by
  intro before e' after hstream hend
  rcases List.eq_nil_or_concat after with hnil | ⟨rest, last, rfl⟩
  · exact hnil
  · -- the end would be among the events before the last one
    rw [List.concat_eq_append, ← List.cons_append, ← List.append_assoc] at hstream
    have hbefore := (List.append_inj' hstream rfl).1
    have hmem : e' ∈ stream := by
      rw [hbefore]
      simp
    exact absurd hend (List.countP_eq_zero.mp hnone e' hmem)

/-- Behind the end, nothing may be told. -/
theorem not_nothingFollows_concat {stream : List RaknetClientEvent}
    (hend : stream.countP isDisconnected ≠ 0) (e : RaknetClientEvent) :
    ¬NothingFollows (stream ++ [e]) := by
  intro h
  obtain ⟨e', hmem, he'⟩ := List.countP_pos_iff.mp (Nat.pos_of_ne_zero hend)
  obtain ⟨before, after, rfl⟩ := List.append_of_mem hmem
  have hafter := h before e' (after ++ [e]) (by rw [List.append_assoc, List.cons_append]) he'
  exact List.append_ne_nil_of_right_ne_nil after (List.cons_ne_nil e []) hafter

end RaknetClientEvent

open RaknetClientEvent

variable {F H : Type}

namespace RaknetClient

/-- What was returned, and what is waiting to be. -/
def told (seen : List RaknetClientEvent) (c : RaknetClient F H) : List RaknetClientEvent :=
  seen ++ c.pendingEvents

/-- The end is told exactly if the client is closed. -/
def EndCounted (seen : List RaknetClientEvent) (c : RaknetClient F H) : Prop :=
  (c.told seen).countP isDisconnected = c.closed.toNat

/-- A call that may close the client and tells nothing but that. -/
inductive Moves (c c' : RaknetClient F H) : Prop where
  | quiet (events : c'.pendingEvents = c.pendingEvents) (closed : c'.closed = c.closed)
  | closes (reason : ClientDisconnectReason) (wasOpen : c.closed = false)
      (isClosed : c'.closed = true)
      (events : c'.pendingEvents = c.pendingEvents ++ [.disconnected reason])

theorem Moves.refl (c : RaknetClient F H) : Moves c c := .quiet rfl rfl

theorem Moves.trans {c c' c'' : RaknetClient F H} (h : Moves c c') (h' : Moves c' c'') :
    Moves c c'' := by
  cases h with
  | quiet events closed =>
    cases h' with
    | quiet events' closed' => exact .quiet (events'.trans events) (closed'.trans closed)
    | closes reason wasOpen isClosed events' =>
      exact .closes reason (closed ▸ wasOpen) isClosed (events'.trans (by rw [events]))
  | closes reason wasOpen isClosed events =>
    cases h' with
    | quiet events' closed' =>
      exact .closes reason wasOpen (closed'.trans isClosed) (events'.trans events)
    | closes reason' wasOpen' =>
      rw [isClosed] at wasOpen'
      cases wasOpen'

/-- What comes of a call, seen from the end of the connection: the end stays counted, and nothing
    is told behind it exactly if that was so before and the condition holds. -/
structure EndsIf (seen : List RaknetClientEvent) (c c' : RaknetClient F H) (cond : Prop) : Prop where
  counted : EndCounted seen c → EndCounted seen c'
  follows : EndCounted seen c →
    (NothingFollows (c'.told seen) ↔ NothingFollows (c.told seen) ∧ cond)

variable {seen : List RaknetClientEvent} {c c' c'' : RaknetClient F H}

theorem EndsIf.trans {p q : Prop} (h : EndsIf seen c c' p) (h' : EndsIf seen c' c'' q) :
    EndsIf seen c c'' (p ∧ q) where
  counted hc := h'.counted (h.counted hc)
  follows hc := by rw [h'.follows (h.counted hc), h.follows hc, and_assoc]

theorem EndsIf.congr {p q : Prop} (h : EndsIf seen c c' p) (hpq : p ↔ q) : EndsIf seen c c' q :=
  ⟨h.counted, fun hc => by rw [h.follows hc, hpq]⟩

/-- A condition that holds is none. -/
theorem EndsIf.always {p : Prop} (h : EndsIf seen c c' p) (hp : p) : EndsIf seen c c' True :=
  h.congr (iff_of_true hp trivial)

theorem Moves.endsIf (h : Moves c c') : EndsIf seen c c' True := by
  cases h with
  | quiet events closed =>
    have htold : c'.told seen = c.told seen := by rw [told, told, events]
    refine ⟨fun hc => ?_, fun _ => by rw [htold, and_true]⟩
    rw [EndCounted, htold, closed]
    exact hc
  | closes reason wasOpen isClosed events =>
    have htold : c'.told seen = c.told seen ++ [.disconnected reason] := by
      rw [told, told, events, List.append_assoc]
    refine ⟨fun hc => ?_, fun hc => ?_⟩
    · rw [EndCounted, wasOpen] at hc
      rw [EndCounted, htold, List.countP_append, hc, isClosed]
      rfl
    · rw [EndCounted, wasOpen] at hc
      rw [htold, and_true]
      exact ⟨NothingFollows.of_append, fun _ => nothingFollows_concat hc _⟩

theorem emit_endsIf {e : RaknetClientEvent} (he : e.isDisconnected = false) :
    EndsIf seen c (c.emit e) (c.closed = false) := by
  have htold : (c.emit e).told seen = c.told seen ++ [e] := by
    rw [told, told, emit, List.append_assoc]
  refine ⟨fun hc => ?_, fun hc => ?_⟩
  · have hone : [e].countP isDisconnected = 0 := by
      rw [List.countP_singleton, he]
      rfl
    rw [EndCounted, htold, List.countP_append, hone]
    exact hc
  · rw [htold]
    rw [EndCounted] at hc
    cases hclosed : c.closed with
    | false =>
      rw [hclosed] at hc
      exact ⟨fun h => ⟨h.of_append, rfl⟩, fun _ => nothingFollows_concat hc e⟩
    | true =>
      rw [hclosed] at hc
      have hne : (c.told seen).countP isDisconnected ≠ 0 := by
        rw [hc]
        decide
      refine ⟨fun h => absurd h (not_nothingFollows_concat hne e), fun h => ?_⟩
      cases h.2

/-! ## Calls that tell nothing but the end -/

theorem finishClose_moves (c : RaknetClient F H) (reason : ClientDisconnectReason) :
    Moves c (c.finishClose reason) := by
  unfold finishClose
  split
  · exact .refl c
  · next hopen => exact .closes reason (Bool.not_eq_true _ ▸ hopen) rfl rfl

theorem send_quiet (c : RaknetClient F H) (env : ClientEnv) (attempt : Nat)
    (encoded : Except EncodeError Bytes) :
    (c.send env attempt encoded).2.pendingEvents = c.pendingEvents ∧
      (c.send env attempt encoded).2.closed = c.closed := by
  unfold send
  split
  · exact ⟨rfl, rfl⟩
  · split <;> exact ⟨rfl, rfl⟩

theorem sendDatagrams_moves (env : ClientEnv) (attempt : Nat) (datagrams : List Datagram)
    (c : RaknetClient F H) : Moves c (c.sendDatagrams env attempt datagrams).2 := by
  induction datagrams generalizing attempt c with
  | nil => exact .refl c
  | cons datagram rest ih =>
    rw [sendDatagrams]
    obtain ⟨hevents, hclosed⟩ := c.send_quiet env attempt datagram.encode
    generalize c.send env attempt datagram.encode = r at hevents hclosed
    obtain ⟨result, c₁⟩ := r
    have hsent : Moves c c₁ := .quiet hevents hclosed
    cases result with
    | error e => exact hsent
    | ok => exact hsent.trans (ih (attempt + 1) c₁)

variable [F64 F] [MinHeap H QueuedFrame QueuedFrame.weight]

theorem queuePayloadWithOptionalReceipt_moves (c : RaknetClient F H) (payload : Bytes)
    (reliability : Reliability) (channel : UInt8) (priority : RakPriority)
    (receiptId : Option UInt64) :
    Moves c (c.queuePayloadWithOptionalReceipt payload reliability channel priority
      receiptId).2 := by
  unfold queuePayloadWithOptionalReceipt
  generalize c.session.queuePayloadWithReceipt payload reliability channel priority receiptId = r
  obtain ⟨decision, made, session⟩ := r
  have hqueued : Moves c { c with session } := .quiet rfl rfl
  cases decision with
  | disconnectRequested => exact hqueued.trans (finishClose_moves _ _)
  | _ => exact hqueued

theorem queueConnectedControlPacket_moves (c : RaknetClient F H) (packet : ConnectedControlPacket)
    (reliability : Reliability) (channel : UInt8) (priority : RakPriority) :
    Moves c (c.queueConnectedControlPacket packet reliability channel priority).2 := by
  unfold queueConnectedControlPacket
  split
  · exact .refl c
  · exact c.queuePayloadWithOptionalReceipt_moves _ reliability channel priority none

theorem queueKeepalivePing_moves (c : RaknetClient F H) (env : ClientEnv) :
    Moves c (c.queueKeepalivePing env) := by
  unfold queueKeepalivePing
  split
  · exact .refl c
  · split
    · exact .refl c
    · dsimp only
      split <;> exact .quiet rfl rfl

theorem flushOutboundWithLimits_moves (c : RaknetClient F H) (env : ClientEnv)
    (attempt maxNewDatagrams maxNewBytes maxResendDatagrams maxResendBytes : Nat) :
    Moves c (c.flushOutboundWithLimits env attempt maxNewDatagrams maxNewBytes
      maxResendDatagrams maxResendBytes).2 := by
  unfold flushOutboundWithLimits
  split
  · exact .refl c
  · have hping := c.queueKeepalivePing_moves env
    generalize c.queueKeepalivePing env = c₁ at hping ⊢
    dsimp only
    generalize c₁.session.onTick env.tickedAt maxNewDatagrams maxNewBytes maxResendDatagrams
      maxResendBytes = r
    obtain ⟨output, session⟩ := r
    dsimp only
    have hsent := sendDatagrams_moves env attempt output.datagrams { c₁ with session }
    generalize ({ c₁ with session } : RaknetClient F H).sendDatagrams env attempt
      output.datagrams = r at hsent ⊢
    obtain ⟨result, c₂⟩ := r
    have hticked : Moves c₁ { c₁ with session } := .quiet rfl rfl
    have hbefore : Moves c c₂ := hping.trans (hticked.trans hsent)
    cases result with
    | error e => exact hbefore
    | ok =>
      dsimp only
      have htaken : Moves c { c₂ with session := c₂.session.takeBackpressureDisconnect.2 } :=
        hbefore.trans (.quiet rfl rfl)
      split
      · exact htaken.trans (finishClose_moves _ _)
      · exact htaken

theorem flushRecv_moves (c : RaknetClient F H) (env : ClientEnv) (attempt : Nat) :
    Moves c (c.flushRecv env attempt).2 :=
  c.flushOutboundWithLimits_moves env attempt _ _ _ _

theorem flushTick_moves (c : RaknetClient F H) (env : ClientEnv) : Moves c (c.flushTick env).2 :=
  c.flushOutboundWithLimits_moves env 0 _ _ _ _

theorem sendPayload_moves (c : RaknetClient F H) (env : ClientEnv) (payload : Bytes)
    (reliability : Reliability) (channel : UInt8) (priority : RakPriority)
    (receiptId : Option UInt64) :
    Moves c (c.sendPayload env payload reliability channel priority receiptId).2 := by
  unfold sendPayload
  cases c.ensureOpen with
  | error e => exact .refl c
  | ok =>
    dsimp only
    have hqueued := c.queuePayloadWithOptionalReceipt_moves payload reliability channel priority
      receiptId
    generalize c.queuePayloadWithOptionalReceipt payload reliability channel priority receiptId = r
      at hqueued ⊢
    obtain ⟨result, c₁⟩ := r
    cases result with
    | error e => exact hqueued
    | ok => exact hqueued.trans (c₁.flushRecv_moves env 0)

theorem disconnect_moves (c : RaknetClient F H) (env : ClientEnv) (reasonCode : Option UInt8) :
    Moves c (c.disconnect env reasonCode).2 := by
  unfold disconnect
  split
  · exact .refl c
  · have hqueued := c.queueConnectedControlPacket_moves (.disconnectionNotification reasonCode)
      .reliableOrdered 0 .high
    generalize c.queueConnectedControlPacket (.disconnectionNotification reasonCode)
      .reliableOrdered 0 .high = r at hqueued ⊢
    obtain ⟨result, c₁⟩ := r
    cases result with
    | error e => exact hqueued.trans (c₁.finishClose_moves _)
    | ok => exact (hqueued.trans (c₁.flushTick_moves env)).trans (finishClose_moves _ _)

theorem applyConnectedControl_moves (c : RaknetClient F H) (pongMillis : Int64)
    (control : ConnectedControlPacket) : Moves c (c.applyConnectedControl pongMillis control).2 := by
  cases control with
  | connectedPing pingTime => exact c.queueConnectedControlPacket_moves _ _ _ _
  | disconnectionNotification reason => exact c.finishClose_moves _
  | detectLostConnection => exact c.finishClose_moves _
  | _ => exact .refl c

/-! ## Datagrams -/

/-- The loop over the frames tells an event for the frame: a packet or a decode error. -/
def speaks (frame : Frame) : Bool :=
  match frame.payload.head? with
  | none => false
  | some first =>
    if TransportServer.isConnectedControlId first then
      match ConnectedControlPacket.decode.run frame.payload with
      | .error _ => true
      | .ok _ => false
    else
      true

/-- The frames behind one that closes the client have nothing to tell, as far as the loop gets. -/
def SilentOnceClosed (env : ClientEnv) : Nat → List Frame → RaknetClient F H → Prop
  | _, [], _ => True
  | i, frame :: frames, c =>
    (c.closed = true → speaks frame = false) ∧
      match c.handleFrame (env.pongMillis i) frame with
      | (.error _, _) => True
      | (.ok (), c) => SilentOnceClosed env (i + 1) frames c

theorem handleFrame_endsIf (c : RaknetClient F H) (pongMillis : Int64) (frame : Frame) :
    EndsIf seen c (c.handleFrame pongMillis frame).2 (c.closed = true → speaks frame = false) := by
  have hspoken : ∀ {e : RaknetClientEvent}, e.isDisconnected = false → speaks frame = true →
      EndsIf seen c (c.emit e) (c.closed = true → speaks frame = false) := by
    intro e he hspeaks
    refine (emit_endsIf he).congr ?_
    rw [hspeaks]
    cases c.closed <;> simp
  have hsilent : ∀ {c' : RaknetClient F H}, Moves c c' → speaks frame = false →
      EndsIf seen c c' (c.closed = true → speaks frame = false) :=
    fun hmoves hspeaks => hmoves.endsIf.congr (iff_of_true trivial fun _ => hspeaks)
  unfold handleFrame
  cases hhead : frame.payload.head? with
  | none => exact hsilent (.refl c) (by rw [speaks, hhead])
  | some first =>
    dsimp only
    by_cases hid : TransportServer.isConnectedControlId first = true
    · rw [if_pos hid]
      cases hdecode : ConnectedControlPacket.decode.run frame.payload with
      | error fault => exact hspoken rfl (by simp only [speaks, hhead, hid, hdecode, if_true])
      | ok r =>
        exact hsilent (c.applyConnectedControl_moves pongMillis r.1)
          (by simp only [speaks, hhead, hid, hdecode, if_true])
    · rw [if_neg hid]
      exact hspoken rfl (by simp only [speaks, hhead, hid, if_false, Bool.false_eq_true])

theorem handleFrames_endsIf (env : ClientEnv) (i : Nat) (frames : List Frame)
    (c : RaknetClient F H) :
    EndsIf seen c (c.handleFrames env i frames).2 (SilentOnceClosed env i frames c) := by
  induction frames generalizing i c with
  | nil => exact (Moves.refl c).endsIf
  | cons frame frames ih =>
    have hframe : EndsIf seen c _ _ := c.handleFrame_endsIf (env.pongMillis i) frame
    rw [handleFrames, SilentOnceClosed]
    generalize c.handleFrame (env.pongMillis i) frame = r at hframe ⊢
    obtain ⟨result, c₁⟩ := r
    cases result with
    | error e => exact hframe.congr (and_true _).symm.to_iff
    | ok => exact hframe.trans (ih (i + 1) c₁)

/-- The frames that a datagram releases, and the client that meets them. -/
def released (c : RaknetClient F H) (env : ClientEnv) (datagram : Datagram) :
    Option (List Frame × RaknetClient F H) :=
  match c.session.ingestDatagram datagram env.ingestedAt with
  | (.error _, _) => none
  | (.ok frames, session) =>
    let (receipts, session) := session.processIncomingReceipts env.ingestedAt
    some (frames, receipts.ackedReceiptIds.foldl
      (fun c receiptId => c.emit (.receiptAcked receiptId)) { c with session })

def SilentDatagram (c : RaknetClient F H) (env : ClientEnv) (datagram : Datagram) : Prop :=
  ∀ frames c₀, c.released env datagram = some (frames, c₀) → SilentOnceClosed env 0 frames c₀

omit [F64 F] [MinHeap H QueuedFrame QueuedFrame.weight] in
theorem receipts_endsIf (receiptIds : List UInt64) (hopen : c.closed = false) :
    EndsIf seen c (receiptIds.foldl (fun c receiptId => c.emit (.receiptAcked receiptId)) c)
      True := by
  induction receiptIds generalizing c with
  | nil => exact (Moves.refl c).endsIf
  | cons receiptId receiptIds ih =>
    have hrest := ih (c := c.emit (.receiptAcked receiptId)) hopen
    exact ((emit_endsIf rfl).trans hrest).always ⟨hopen, trivial⟩

theorem processConnectedDatagram_endsIf (hopen : c.closed = false) (env : ClientEnv)
    (datagram : Datagram) :
    EndsIf seen c (c.processConnectedDatagram env datagram).2
      (c.SilentDatagram env datagram) := by
  unfold processConnectedDatagram SilentDatagram released
  generalize c.session.ingestDatagram datagram env.ingestedAt = r
  obtain ⟨result, session⟩ := r
  cases result with
  | error e =>
    have hmoved : Moves c { c with session } := .quiet rfl rfl
    refine (hmoved.endsIf.trans (emit_endsIf rfl)).congr (iff_of_true ⟨trivial, hopen⟩ ?_)
    intro frames c₀ h
    cases h
  | ok frames =>
    dsimp only
    generalize session.processIncomingReceipts env.ingestedAt = r
    obtain ⟨receipts, session'⟩ := r
    dsimp only
    have hmoved : Moves c { c with session := session' } := .quiet rfl rfl
    have htold : EndsIf seen c _ _ := hmoved.endsIf.trans (receipts_endsIf
      (c := { c with session := session' }) receipts.ackedReceiptIds hopen)
    generalize receipts.ackedReceiptIds.foldl (fun c receiptId => c.emit (.receiptAcked receiptId))
      ({ c with session := session' } : RaknetClient F H) = c₀ at htold ⊢
    have hloop := htold.trans (c₀.handleFrames_endsIf env 0 frames)
    have hcond : (True ∧ True) ∧ SilentOnceClosed env 0 frames c₀ ↔
        ∀ frames' c', some (frames, c₀) = some (frames', c') →
          SilentOnceClosed env 0 frames' c' := by
      constructor
      · rintro ⟨-, hsilent⟩ frames' c' h
        cases h
        exact hsilent
      · intro hsilent
        exact ⟨⟨trivial, trivial⟩, hsilent frames c₀ rfl⟩
    have hlooped := hloop.congr hcond
    generalize c₀.handleFrames env 0 frames = r at hlooped ⊢
    obtain ⟨result, c₁⟩ := r
    cases result with
    | error e => exact hlooped
    | ok =>
      dsimp only
      generalize c₁.session.forceControlFlushDeadlines env.ingestedAt = session''
      have hforced : Moves c₁ { c₁ with session := session'' } := .quiet rfl rfl
      have hflushed := hforced.trans (flushRecv_moves { c₁ with session := session'' } env 0)
      exact (hlooped.trans hflushed.endsIf).congr (and_true _).to_iff

/-- The datagram of a packet that is no offline packet. -/
def datagramOf (payload : Bytes) : Option Datagram :=
  match payload.head? with
  | none => none
  | some first =>
    if TransportServer.isOfflinePacketId first then
      none
    else
      (Datagram.decode.run payload).toOption.map Prod.fst

def SilentPacket (c : RaknetClient F H) (env : ClientEnv) (payload : Bytes) : Prop :=
  ∀ datagram, datagramOf payload = some datagram → c.SilentDatagram env datagram

theorem processInboundPacket_endsIf (hopen : c.closed = false) (env : ClientEnv)
    (payload : Bytes) :
    EndsIf seen c (c.processInboundPacket env payload).2 (c.SilentPacket env payload) := by
  have hnone : datagramOf payload = none → c.SilentPacket env payload := by
    intro hnone datagram h
    rw [hnone] at h
    cases h
  unfold processInboundPacket
  cases hhead : payload.head? with
  | none =>
    exact (Moves.refl c).endsIf.congr (iff_of_true trivial (hnone (by rw [datagramOf, hhead])))
  | some first =>
    dsimp only
    by_cases hid : TransportServer.isOfflinePacketId first = true
    · rw [if_pos hid]
      refine (emit_endsIf rfl).congr (iff_of_true hopen (hnone ?_))
      simp only [datagramOf, hhead, hid, if_true]
    · rw [if_neg hid]
      cases hdecode : Datagram.decode.run payload with
      | error fault =>
        refine (emit_endsIf rfl).congr (iff_of_true hopen (hnone ?_))
        simp only [datagramOf, hhead, hid, hdecode, if_false, Bool.false_eq_true]
        rfl
      | ok r =>
        have hdatagram : datagramOf payload = some r.1 := by
          simp only [datagramOf, hhead, hid, hdecode, if_false, Bool.false_eq_true]
          rfl
        refine (processConnectedDatagram_endsIf hopen env r.1).congr ?_
        rw [SilentPacket, hdatagram]
        simp only [Option.some.injEq, forall_eq']

/-! ## `next_event` -/

/-- The packet that a round takes in: one of the server, on a connection that is not idle. -/
def takesIn (c : RaknetClient F H) (p : ClientPoll) : Option Bytes :=
  if (c.checkIdleTimeoutAndClose p.checkedAt).1 then
    none
  else
    match p.wait with
    | .received addr payload => if addr ≠ c.serverAddr then none else some payload
    | _ => none

def SilentPoll (c : RaknetClient F H) (p : ClientPoll) : Prop :=
  ∀ payload, c.takesIn p = some payload →
    ({ c with lastInboundActivity := p.env.receivedAt } : RaknetClient F H).SilentPacket p.env
      payload

/-- The rounds of a call of `next_event`. -/
def SilentPolls : List ClientPoll → RaknetClient F H → Prop
  | polls, c =>
    match c.pendingEvents with
    | _ :: _ => True
    | [] =>
      match polls with
      | [] => True
      | p :: polls => if c.closed then True else c.SilentPoll p ∧ SilentPolls polls (c.poll p)

omit [F64 F] [MinHeap H QueuedFrame QueuedFrame.weight] in
theorem checkIdleTimeoutAndClose_moves (c : RaknetClient F H) (now : Instant) :
    Moves c (c.checkIdleTimeoutAndClose now).2 := by
  unfold checkIdleTimeoutAndClose
  split
  · exact .refl c
  · split
    · exact c.finishClose_moves _
    · exact .refl c

omit [F64 F] [MinHeap H QueuedFrame QueuedFrame.weight] in
/-- A connection that is not idle is left as it is. -/
theorem checkIdleTimeoutAndClose_false (now : Instant)
    (h : (c.checkIdleTimeoutAndClose now).1 = false) : (c.checkIdleTimeoutAndClose now).2 = c := by
  unfold checkIdleTimeoutAndClose at h ⊢
  split
  · rfl
  · next hchecked =>
    rw [if_neg hchecked] at h
    split
    · next hidle =>
      rw [if_pos hidle] at h
      cases h
    · rfl

omit [F64 F] [MinHeap H QueuedFrame QueuedFrame.weight] in
theorem closeOnError_moves (stage : TransportStage)
    (r : Except RaknetClientError Unit × RaknetClient F H) : Moves r.2 (closeOnError stage r) := by
  obtain ⟨result, c⟩ := r
  cases result with
  | error e => exact c.finishClose_moves _
  | ok => exact .refl c

theorem poll_endsIf (hopen : c.closed = false) (p : ClientPoll) :
    EndsIf seen c (c.poll p) (c.SilentPoll p) := by
  have hnone : c.takesIn p = none → c.SilentPoll p := by
    intro hnone payload h
    rw [hnone] at h
    cases h
  unfold poll
  have hidle := c.checkIdleTimeoutAndClose_moves p.checkedAt
  have hsame := checkIdleTimeoutAndClose_false (c := c) p.checkedAt
  cases hcheck : c.checkIdleTimeoutAndClose p.checkedAt with
  | mk isIdle c₁ =>
    rw [hcheck] at hidle hsame
    cases isIdle with
    | true =>
      refine hidle.endsIf.congr (iff_of_true trivial (hnone ?_))
      rw [takesIn, hcheck, if_pos rfl]
    | false =>
      obtain rfl : c₁ = c := hsame rfl
      dsimp only
      cases hwait : p.wait with
      | received addr payload =>
        have htakes : c₁.takesIn p = if addr ≠ c₁.serverAddr then none else some payload := by
          rw [takesIn, hcheck, if_neg Bool.false_ne_true, hwait]
        rw [afterWait]
        by_cases haddr : addr ≠ c₁.serverAddr
        · rw [if_pos haddr]
          rw [if_pos haddr] at htakes
          exact (Moves.refl c₁).endsIf.congr (iff_of_true trivial (hnone htakes))
        · rw [if_neg haddr]
          rw [if_neg haddr] at htakes
          have hmoved : Moves c₁ { c₁ with lastInboundActivity := p.env.receivedAt } :=
            .quiet rfl rfl
          have htaken : EndsIf seen c₁ _ _ := hmoved.endsIf.trans (processInboundPacket_endsIf
            (c := { c₁ with lastInboundActivity := p.env.receivedAt }) hopen p.env payload)
          have hclosed := htaken.trans (closeOnError_moves .inboundProcessing _).endsIf
          refine hclosed.congr ?_
          rw [SilentPoll, htakes]
          simp only [Option.some.injEq, forall_eq', true_and, and_true]
      | failed =>
        have htakes : c₁.takesIn p = none := by
          rw [takesIn, hcheck, if_neg Bool.false_ne_true, hwait]
        exact (c₁.finishClose_moves _).endsIf.congr (iff_of_true trivial (hnone htakes))
      | timedOut =>
        have htakes : c₁.takesIn p = none := by
          rw [takesIn, hcheck, if_neg Bool.false_ne_true, hwait]
        have hflush := (c₁.flushTick_moves p.env).trans (closeOnError_moves .outboundTick _)
        exact hflush.endsIf.congr (iff_of_true trivial (hnone htakes))

omit [F64 F] [MinHeap H QueuedFrame QueuedFrame.weight] in
/-- An event that is returned has been told before. -/
theorem told_pop {event : RaknetClientEvent} {rest : List RaknetClientEvent}
    (hevents : c.pendingEvents = event :: rest) :
    ({ c with pendingEvents := rest } : RaknetClient F H).told (seen ++ [event])
      = c.told seen := by
  rw [told, told, hevents, List.append_assoc, List.singleton_append]

/-- A call of `next_event`, with what it returns counted as seen. -/
theorem nextEvent_endsIf (polls : List ClientPoll) (c : RaknetClient F H)
    (hc : EndCounted seen c) :
    EndCounted (seen ++ (c.nextEvent polls).1.toList) (c.nextEvent polls).2 ∧
    (NothingFollows ((c.nextEvent polls).2.told (seen ++ (c.nextEvent polls).1.toList)) ↔
      NothingFollows (c.told seen) ∧ SilentPolls polls c) := by
  induction polls generalizing c with
  | nil =>
    unfold nextEvent SilentPolls
    cases hevents : c.pendingEvents with
    | nil =>
      dsimp only
      rw [Option.toList_none, List.append_nil, and_true]
      exact ⟨hc, Iff.rfl⟩
    | cons event rest =>
      dsimp only
      rw [Option.toList_some, EndCounted, told_pop hevents, and_true]
      exact ⟨hc, Iff.rfl⟩
  | cons p polls ih =>
    unfold nextEvent SilentPolls
    cases hevents : c.pendingEvents with
    | nil =>
      dsimp only
      cases hclosed : c.closed with
      | true =>
        rw [if_pos rfl, if_pos rfl, Option.toList_none, List.append_nil, and_true]
        exact ⟨hc, Iff.rfl⟩
      | false =>
        rw [if_neg Bool.false_ne_true, if_neg Bool.false_ne_true]
        have hpoll : EndsIf seen c _ _ := poll_endsIf hclosed p
        obtain ⟨hcounted, hfollows⟩ := ih (c.poll p) (hpoll.counted hc)
        refine ⟨hcounted, ?_⟩
        rw [hfollows, hpoll.follows hc, and_assoc]
    | cons event rest =>
      dsimp only
      rw [Option.toList_some, EndCounted, told_pop hevents, and_true]
      exact ⟨hc, Iff.rfl⟩

end RaknetClient

/-! ## Runs -/

variable [F64 F] [MinHeap H QueuedFrame QueuedFrame.weight]

/-- A client together with the events that `next_event` has returned. -/
def observedClient (F H : Type) [F64 F] [MinHeap H QueuedFrame QueuedFrame.weight] :
    Machine (List RaknetClientEvent × RaknetClient F H) RaknetClientOp
      (Option RaknetClientEvent) :=
  ⟨fun s op => ((s.1 ++ (s.2.step op).2.toList, (s.2.step op).1), (s.2.step op).2)⟩

/-- No round of the call takes in a datagram in which a frame with something to tell comes behind
    one that closes the client. -/
def FallsSilent (s : List RaknetClientEvent × RaknetClient F H) : RaknetClientOp → Prop
  | .nextEvent polls => RaknetClient.SilentPolls polls s.2
  | _ => True

theorem step_endsIf (s : List RaknetClientEvent × RaknetClient F H) (op : RaknetClientOp)
    (hs : RaknetClient.EndCounted s.1 s.2) :
    RaknetClient.EndCounted ((observedClient F H).step s op).1.1
        ((observedClient F H).step s op).1.2 ∧
    (NothingFollows (((observedClient F H).step s op).1.2.told
        ((observedClient F H).step s op).1.1) ↔
      NothingFollows (s.2.told s.1) ∧ FallsSilent s op) := by
  have hmoves : ∀ {c' : RaknetClient F H}, RaknetClient.Moves s.2 c' →
      RaknetClient.EndCounted (s.1 ++ []) c' ∧
        (NothingFollows (c'.told (s.1 ++ [])) ↔ NothingFollows (s.2.told s.1) ∧ True) := by
    intro c' h
    rw [List.append_nil]
    exact ⟨h.endsIf.counted hs, h.endsIf.follows hs⟩
  cases op with
  | sendPayload env payload reliability channel priority receiptId =>
    exact hmoves (s.2.sendPayload_moves env payload reliability channel priority receiptId)
  | disconnect env reasonCode => exact hmoves (s.2.disconnect_moves env reasonCode)
  | nextEvent polls => exact RaknetClient.nextEvent_endsIf polls s.2 hs

/-- The end of a connection is told at most once. Nothing is told behind it, returned or waiting
    to be, all along a run exactly if no datagram has a frame with something to tell behind one
    that closes the client. -/
theorem disconnected_last_iff (c : RaknetClient F H) (hopen : c.closed = false)
    (hfresh : ∀ e ∈ c.pendingEvents, e.isDisconnected = false) (ops : List RaknetClientOp) :
    (∀ pre, pre <+: ops → (((observedClient F H).exec ([], c) pre).2.told
      ((observedClient F H).exec ([], c) pre).1).countP isDisconnected ≤ 1) ∧
    ((∀ pre, pre <+: ops → NothingFollows (((observedClient F H).exec ([], c) pre).2.told
        ((observedClient F H).exec ([], c) pre).1)) ↔
      (observedClient F H).AllSteps FallsSilent ([], c) ops) := by
  have hnone : c.pendingEvents.countP isDisconnected = 0 := by
    rw [List.countP_eq_zero]
    intro e he
    rw [hfresh e he]
    exact Bool.false_ne_true
  have hcounted : RaknetClient.EndCounted [] c := by
    rw [RaknetClient.EndCounted, hopen]
    exact hnone
  have hstart : NothingFollows (c.told []) := by
    intro before e after hstream hend
    have hmem : e ∈ c.pendingEvents := by
      rw [show c.pendingEvents = before ++ e :: after from hstream]
      exact List.mem_append_right before List.mem_cons_self
    rw [hfresh e hmem] at hend
    cases hend
  constructor
  · intro pre _
    have hpre : RaknetClient.EndCounted ((observedClient F H).exec ([], c) pre).1
        ((observedClient F H).exec ([], c) pre).2 :=
      (observedClient F H).run_invariant (P := fun _ _ s => RaknetClient.EndCounted s.1 s.2)
        hcounted (fun _ _ s op hs => (step_endsIf s op hs).1) pre
    rw [hpre]
    exact Bool.toNat_le _
  · refine (observedClient F H).forall_prefix_iff_allSteps
      (I := fun s => RaknetClient.EndCounted s.1 s.2)
      (P := fun s => NothingFollows (s.2.told s.1)) (fun s op hs => (step_endsIf s op hs).1)
      (fun s op hs hP => ?_) hcounted hstart ops
    rw [(step_endsIf s op hs).2, and_iff_right hP]

/-! ## A packet behind the end -/

open TransportServer

/-- A client that has connected just now. -/
def openClient : RaknetClient ℚ (SortedHeap QueuedFrame QueuedFrame.weight) :=
  { socket := []
    serverAddr
    session := { Session.new 1400 0 with state := .connected }
    config := .standard 99
    pendingEvents := [.connected serverAddr 1400]
    closed := false
    closeReason := none
    lastInboundActivity := 0 }

/-- The surroundings of a call at this time, with a socket that works. -/
def quietClientEnv (now : Instant) : ClientEnv :=
  { receivedAt := now
    ingestedAt := now
    keepaliveAt := now
    tickedAt := now
    pingMillis := 7
    pongMillis := fun _ => 7
    sendOk := fun _ => true }

/-- The server says goodbye and sends a packet, in one datagram. -/
def goodbyePoll : ClientPoll :=
  { checkedAt := 1
    env := quietClientEnv 1
    wait := .received serverAddr (dataBytes 0 0 [[0x15], [0xFE, 1]]) }

theorem disconnected_last_iff_first_call :
    openClient.closed = false ∧
    ((∀ pre, pre <+: [.nextEvent []] → NothingFollows
        (((observedClient ℚ (SortedHeap QueuedFrame QueuedFrame.weight)).exec ([], openClient)
          pre).2.told ((observedClient ℚ (SortedHeap QueuedFrame QueuedFrame.weight)).exec
            ([], openClient) pre).1)) ↔
      (observedClient ℚ (SortedHeap QueuedFrame QueuedFrame.weight)).AllSteps FallsSilent
        ([], openClient) [.nextEvent []]) :=
  ⟨rfl, (disconnected_last_iff openClient rfl (by decide) [.nextEvent []]).2⟩

/-- The packet is returned behind the end of the connection. -/
theorem packet_behind_end :
    ((observedClient ℚ (SortedHeap QueuedFrame QueuedFrame.weight)).exec ([], openClient)
      [.nextEvent [], .nextEvent [goodbyePoll], .nextEvent []]).1.map isDisconnected
      = [false, true, false] := by
  decide +kernel

end Raknet
