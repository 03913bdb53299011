-- SUMMARY: The frame loop of a connected datagram, frame by frame, and the two ways of an application frame.
import Raknet.Transport.OfflineChange

/-!
# The frame loop

A control packet moves the session or asks to close it. A frame lets the loop go
on (`FrameStep`) or ends it (`FrameStop`). An application frame is parked while
the session is not connected and is delivered once it is; since nothing but a
close leaves `Connected`, all that is parked in one loop comes before all that is
delivered (`run_routes`).
-/

namespace Raknet

open Decoder

/-- `Reply2Sent` and everything after it. -/
def SessionState.pastReply2 : SessionState → Bool
  | .offline | .req1Recv | .reply1Sent | .req2Recv => false
  | .reply2Sent | .connReqRecv | .connReqAcceptedSent | .newIncomingRecv | .connected | .closing
  | .closed => true

/-- What a session gets to when its peer leaves. -/
def SessionState.isOver (st : SessionState) : Bool := st = .closing || st = .closed

/-- The moves of a session that the peer does not close: they do not pass
    `Reply2Sent`, and `Connected` is not left. -/
structure SessionState.Moves (st st' : SessionState) : Prop where
  connected : st = .connected → st' = .connected
  past : st'.pastReply2 = true → st.pastReply2 = true
  overBefore : st'.isOver = true → st.isOver = true

instance SessionState.decidableMoves (st st' : SessionState) : Decidable (st.Moves st') :=
  decidable_of_iff
    ((st = .connected → st' = .connected) ∧ (st'.pastReply2 = true → st.pastReply2 = true) ∧
      (st'.isOver = true → st.isOver = true))
    ⟨fun h => ⟨h.1, h.2.1, h.2.2⟩, fun h => ⟨h.connected, h.past, h.overBefore⟩⟩

theorem SessionState.Moves.refl (st : SessionState) : st.Moves st := ⟨id, id, id⟩

theorem SessionState.Moves.trans {st st' st'' : SessionState} (h : st.Moves st')
    (h' : st'.Moves st'') : st.Moves st'' :=
  ⟨h'.connected ∘ h.connected, h.past ∘ h'.past, h.overBefore ∘ h'.overBefore⟩

variable {F H : Type}

namespace TransportServer

/-- A frame for the application: not empty, and not a control packet. -/
def isApplicationFrame (frame : Frame) : Bool :=
  match frame.payload.head? with
  | none => false
  | some id => !isConnectedControlId id

/-- The frames that are parked for an address. -/
def parkedFrames (s : TransportServer F H) (addr : SocketAddr) : List Frame :=
  ((s.sessionPipelines.lookup addr).map SessionPipeline.pendingUnhandled).getD []

/-- The application frames that a call delivers. -/
def deliveredFrames (r : CallResult TransportEvent) : List ConnectedFrameDelivery :=
  match r.result with
  | .ok (.connectedFrames _ _ frames _) => frames
  | _ => []

/-- The variables of the frame loop when it starts. -/
def FrameLoop.start (session : Session F H) (pipeline : SessionPipeline) : FrameLoop F H :=
  { session
    pipeline
    appFrames := []
    decodeError := none
    closeSession := false
    illegalTransition := false
    remoteDisconnectReason := none }

/-- Nothing has ended the loop. -/
def FrameLoop.Running (l : FrameLoop F H) : Prop := l.decodeError = none ∧ l.closeSession = false

instance FrameLoop.decidableRunning (l : FrameLoop F H) : Decidable l.Running :=
  inferInstanceAs (Decidable (_ ∧ _))

/-- The loop asks to close the session, or it has moved it and found nothing
    illegal. An error does not stand beside a wish to close. -/
def FrameLoop.Done (st : SessionState) (l : FrameLoop F H) : Prop :=
  (l.closeSession = true ∧ l.decodeError = none) ∨
    (l.closeSession = false ∧ l.illegalTransition = false ∧ st.Moves l.session.state)

theorem FrameLoop.flush_done {st : SessionState} {l : FrameLoop F H} (h : l.Done st) :
    l.flush.Done st := by
  unfold FrameLoop.flush
  split <;> exact h

variable [F64 F] [MinHeap H QueuedFrame QueuedFrame.weight]

/-! ## Control packets -/

omit [F64 F] [MinHeap H QueuedFrame QueuedFrame.weight] in
theorem applyRemoteClose_closes (session : Session F H) (reason : RemoteDisconnectReason) :
    ∃ reason' illegal, (Except.ok (applyRemoteClose session reason).1 :
      Except DecodeError ControlAction) = .ok (.closeSession reason' illegal) := by
  unfold applyRemoteClose
  split <;> exact ⟨_, _, rfl⟩

/-- A control packet closes the session or moves it. -/
theorem applyConnectedControl_moves (session : Session F H) (addr serverAddr : SocketAddr)
    (nowMillis : Int64) (packet : ConnectedControlPacket) :
    (∃ reason illegal, (applyConnectedControl session addr serverAddr nowMillis packet).1
        = .ok (.closeSession reason illegal)) ∨
      session.state.Moves
        (applyConnectedControl session addr serverAddr nowMillis packet).2.state := by
  cases packet with
  | connectedPing pingTime =>
    rw [applyConnectedControl]
    split
    · exact .inl ⟨_, _, rfl⟩
    · have hqueued := (queueConnectedControlPacket_serves session
        (.connectedPong pingTime nowMillis) .unreliable 0 .immediate).state
      generalize queueConnectedControlPacket session (.connectedPong pingTime nowMillis)
        .unreliable 0 .immediate = q at hqueued ⊢
      obtain ⟨queued, session'⟩ := q
      dsimp only at hqueued
      refine .inr ?_
      cases queued with
      | error e => exact hqueued ▸ .refl _
      | ok queued =>
        dsimp only
        split <;> exact hqueued ▸ .refl _
  | connectionRequest request =>
    rw [applyConnectedControl]
    generalize ht : applySessionTransitions session [.connReqRecv] = t
    obtain ⟨valid, session₁⟩ := t
    cases valid with
    | false => exact .inl ⟨_, _, rfl⟩
    | true =>
      have hfirst : session.state.Moves .connReqRecv := by
        have hhead := applySessionTransitions_head ht
        revert hhead
        cases session.state <;> decide
      have hstate : session₁.state = .connReqRecv := applySessionTransitions_last ht
      dsimp only
      generalize hq : queueConnectedControlPacket session₁ _ .reliableOrdered 0 .high = q
      obtain ⟨queued, session₂⟩ := q
      have hqueued : session₂.state = .connReqRecv := by
        have h : _ = session₂.state := congrArg (fun q => q.2.state) hq
        rw [(queueConnectedControlPacket_serves _ _ _ _ _).state, hstate] at h
        exact h.symm
      cases queued with
      | error e => exact .inr (hqueued ▸ hfirst)
      | ok decision =>
        cases decision with
        | dropped | deferred | disconnectRequested => exact .inl ⟨_, _, rfl⟩
        | enqueued reliableBytes =>
          dsimp only
          split
          · exact .inl ⟨_, _, rfl⟩
          · generalize ht₂ : applySessionTransitions _ [.connReqAcceptedSent] = t
            obtain ⟨valid, session₃⟩ := t
            cases valid with
            | false => exact .inl ⟨_, _, rfl⟩
            | true =>
              have hlast : session₃.state = .connReqAcceptedSent := applySessionTransitions_last ht₂
              dsimp only
              rw [hlast]
              exact .inr (hfirst.trans (by decide))
  | newIncomingConnection connection =>
    rw [applyConnectedControl]
    generalize ht : applySessionTransitions session [.newIncomingRecv, .connected] = t
    obtain ⟨valid, session'⟩ := t
    cases valid with
    | false => exact .inl ⟨_, _, rfl⟩
    | true =>
      refine .inr ?_
      have hhead := applySessionTransitions_head ht
      have hstate : session'.state = .connected := applySessionTransitions_last ht
      dsimp only
      rw [hstate]
      revert hhead
      cases session.state <;> decide
  | disconnectionNotification reason =>
    exact .inl (applyRemoteClose_closes session _)
  | detectLostConnection => exact .inl (applyRemoteClose_closes session _)
  | connectedPong | connectionRequestAccepted => exact .inr (.refl _)

theorem applySessionTransitions_runs (session : Session F H) (ts : List SessionState) :
    session.Runs (applySessionTransitions session ts).2 := by
  induction ts generalizing session with
  | nil => exact .refl session
  | cons t ts ih =>
    have hfirst := session.runs_step (.transitionTo t) rfl
    rw [applySessionTransitions]
    simp only [Session.step] at hfirst
    generalize session.transitionTo t = r at hfirst ⊢
    obtain ⟨moved, session'⟩ := r
    cases moved with
    | true => exact hfirst.trans (ih session')
    | false => exact hfirst

omit [F64 F] [MinHeap H QueuedFrame QueuedFrame.weight] in
theorem applyRemoteClose_session (session : Session F H) (reason : RemoteDisconnectReason) :
    (applyRemoteClose session reason).2
      = (applySessionTransitions session [.closing, .closed]).2 := by
  unfold applyRemoteClose
  split <;> next h => rw [h]

theorem applyConnectedControl_runs (session : Session F H) (addr serverAddr : SocketAddr)
    (nowMillis : Int64) (packet : ConnectedControlPacket) :
    session.Runs (applyConnectedControl session addr serverAddr nowMillis packet).2 := by
  have htake : ∀ session : Session F H, session.Runs session.takeBackpressureDisconnect.2 :=
    fun session => session.runs_step .takeBackpressureDisconnect rfl
  cases packet with
  | connectedPing pingTime =>
    rw [applyConnectedControl]
    split
    · exact .refl session
    · have hqueued := (queueConnectedControlPacket_serves session
        (.connectedPong pingTime nowMillis) .unreliable 0 .immediate).runs
      generalize queueConnectedControlPacket session (.connectedPong pingTime nowMillis)
        .unreliable 0 .immediate = q at hqueued ⊢
      obtain ⟨queued, session'⟩ := q
      cases queued with
      | error e => exact hqueued
      | ok queued =>
        dsimp only at hqueued ⊢
        split
        · exact hqueued
        · exact hqueued.trans (htake session')
  | connectionRequest request =>
    rw [applyConnectedControl]
    have hfirst := applySessionTransitions_runs session [.connReqRecv]
    generalize applySessionTransitions session [.connReqRecv] = t at hfirst ⊢
    obtain ⟨valid, session₁⟩ := t
    cases valid with
    | false => exact hfirst
    | true =>
      dsimp only at hfirst ⊢
      generalize hq : queueConnectedControlPacket session₁ _ .reliableOrdered 0 .high = q
      obtain ⟨queued, session₂⟩ := q
      have hqueued : session.Runs session₂ := by
        have hsession : session₂ = _ := congrArg Prod.snd hq.symm
        rw [hsession]
        exact hfirst.trans (queueConnectedControlPacket_serves session₁ _ _ _ _).runs
      cases queued with
      | error e => exact hqueued
      | ok decision =>
        cases decision with
        | dropped | deferred | disconnectRequested => exact hqueued
        | enqueued reliableBytes =>
          dsimp only
          have htaken := hqueued.trans (htake session₂)
          split
          · exact htaken
          · have hlast := applySessionTransitions_runs session₂.takeBackpressureDisconnect.2
              [.connReqAcceptedSent]
            generalize applySessionTransitions session₂.takeBackpressureDisconnect.2
              [.connReqAcceptedSent] = t at hlast ⊢
            obtain ⟨valid, session₃⟩ := t
            cases valid <;> exact htaken.trans hlast
  | newIncomingConnection connection =>
    rw [applyConnectedControl]
    have hmoved := applySessionTransitions_runs session [.newIncomingRecv, .connected]
    generalize applySessionTransitions session [.newIncomingRecv, .connected] = t at hmoved ⊢
    obtain ⟨valid, session'⟩ := t
    cases valid <;> exact hmoved
  | disconnectionNotification reason =>
    rw [applyConnectedControl]
    dsimp only
    rw [applyRemoteClose_session]
    exact applySessionTransitions_runs session _
  | detectLostConnection =>
    rw [applyConnectedControl]
    dsimp only
    rw [applyRemoteClose_session]
    exact applySessionTransitions_runs session _
  | connectedPong | connectionRequestAccepted => exact .refl session

/-! ## Frames -/

/-- The frame lets the loop go on. -/
inductive FrameStep (addr serverAddr : SocketAddr) (nowMillis : Int64) (l : FrameLoop F H)
    (frame : Frame) : FrameLoop F H → Prop
  | empty (h : frame.payload = []) : FrameStep addr serverAddr nowMillis l frame l
  | delivered (happ : isApplicationFrame frame = true) (hstate : l.session.state = .connected) :
      FrameStep addr serverAddr nowMillis l frame { l with appFrames := l.appFrames ++ [frame] }
  | parked (happ : isApplicationFrame frame = true) (hstate : l.session.state ≠ .connected)
      {pipeline : SessionPipeline}
      (hparked : pipeline.pendingUnhandled = l.pipeline.pendingUnhandled ++ [frame]) :
      FrameStep addr serverAddr nowMillis l frame { l with pipeline }
  | control (happ : isApplicationFrame frame = false) {packet : ConnectedControlPacket}
      {rest : Bytes} (hdecode : ConnectedControlPacket.decode.run frame.payload = .ok (packet, rest))
      {session : Session F H}
      (hcontrol : applyConnectedControl l.session addr serverAddr nowMillis packet
        = (.ok .none, session)) :
      FrameStep addr serverAddr nowMillis l frame { l with session }

/-- The frame ends the loop. -/
inductive FrameStop (addr serverAddr : SocketAddr) (nowMillis : Int64) (l : FrameLoop F H)
    (frame : Frame) : FrameLoop F H → Prop
  | overflow (happ : isApplicationFrame frame = true) (hstate : l.session.state ≠ .connected)
      {pipeline : SessionPipeline} :
      FrameStop addr serverAddr nowMillis l frame { l with pipeline, closeSession := true }
  | malformed (happ : isApplicationFrame frame = false) {fault : Fault DecodeError}
      (hdecode : ConnectedControlPacket.decode.run frame.payload = .error fault) :
      FrameStop addr serverAddr nowMillis l frame { l with decodeError := some fault }
  | closed (happ : isApplicationFrame frame = false) {packet : ConnectedControlPacket}
      {rest : Bytes} (hdecode : ConnectedControlPacket.decode.run frame.payload = .ok (packet, rest))
      {session : Session F H} {remoteReason : Option RemoteDisconnectReason}
      {illegalState : Bool}
      (hcontrol : applyConnectedControl l.session addr serverAddr nowMillis packet
        = (.ok (.closeSession remoteReason illegalState), session)) :
      FrameStop addr serverAddr nowMillis l frame
        { l with
          session
          closeSession := true
          illegalTransition := illegalState
          remoteDisconnectReason := l.remoteDisconnectReason <|> remoteReason }
  | unanswered (happ : isApplicationFrame frame = false) {packet : ConnectedControlPacket}
      {rest : Bytes} (hdecode : ConnectedControlPacket.decode.run frame.payload = .ok (packet, rest))
      {session : Session F H} {e : DecodeError}
      (hcontrol : applyConnectedControl l.session addr serverAddr nowMillis packet
        = (.error e, session)) :
      FrameStop addr serverAddr nowMillis l frame
        { l with session, decodeError := some (.error e) }

/-- What one frame does to the loop. -/
theorem FrameLoop.run_cons (addr serverAddr : SocketAddr) (nowMillis : Int64) (l : FrameLoop F H)
    (frame : Frame) :
    (∃ l', FrameStep addr serverAddr nowMillis l frame l' ∧
      ∀ frames, l.run addr serverAddr nowMillis (frame :: frames)
        = l'.run addr serverAddr nowMillis frames) ∨
    (∃ l', FrameStop addr serverAddr nowMillis l frame l' ∧
      ∀ frames, l.run addr serverAddr nowMillis (frame :: frames) = l') := by
  simp only [FrameLoop.run]
  cases hhead : frame.payload.head? with
  | none => exact .inl ⟨l, .empty (List.head?_eq_none_iff.mp hhead), fun _ => rfl⟩
  | some id =>
    dsimp only
    cases hid : isConnectedControlId id with
    | false =>
      have happ : isApplicationFrame frame = true := by simp [isApplicationFrame, hhead, hid]
      simp only [Bool.not_false, if_true, SessionPipeline.routeInboundAppFrame]
      by_cases hstate : l.session.state = .connected
      · rw [if_pos hstate]
        exact .inl ⟨_, .delivered happ hstate, fun _ => rfl⟩
      · rw [if_neg hstate]
        by_cases hfull : l.pipeline.pendingUnhandled.length ≥ l.pipeline.maxUnhandledFrames ∨
            l.pipeline.pendingUnhandledBytes + frame.payload.length > l.pipeline.maxUnhandledBytes
        · rw [if_pos hfull]
          exact .inr ⟨_, .overflow happ hstate, fun _ => rfl⟩
        · rw [if_neg hfull]
          exact .inl ⟨_, .parked happ hstate rfl, fun _ => rfl⟩
    | true =>
      have happ : isApplicationFrame frame = false := by simp [isApplicationFrame, hhead, hid]
      simp only [Bool.not_true, Bool.false_eq_true, if_false]
      cases hdecode : ConnectedControlPacket.decode.run frame.payload with
      | error fault => exact .inr ⟨_, .malformed happ hdecode, fun _ => rfl⟩
      | ok decoded =>
        obtain ⟨packet, rest⟩ := decoded
        dsimp only
        cases hcontrol : applyConnectedControl l.session addr serverAddr nowMillis packet with
        | mk action session =>
          cases action with
          | error e => exact .inr ⟨_, .unanswered happ hdecode hcontrol, fun _ => rfl⟩
          | ok action =>
            cases action with
            | none => exact .inl ⟨_, .control happ hdecode hcontrol, fun _ => rfl⟩
            | closeSession remoteReason illegalState =>
              exact .inr ⟨_, .closed happ hdecode hcontrol, fun _ => rfl⟩

/-- Only a close leaves `Connected`. -/
theorem FrameStep.state {addr serverAddr : SocketAddr} {nowMillis : Int64}
    {l l' : FrameLoop F H} {frame : Frame} (h : FrameStep addr serverAddr nowMillis l frame l') :
    l.session.state.Moves l'.session.state := by
  cases h with
  | empty | delivered | parked => exact .refl _
  | control happ hdecode hcontrol =>
    have hmoves := applyConnectedControl_moves l.session addr serverAddr nowMillis
    rcases hmoves _ with ⟨reason, illegal, hclose⟩ | hmove
    · rw [hcontrol] at hclose
      cases hclose
    · rw [hcontrol] at hmove
      exact hmove

/-- The session on the way through the frames. -/
theorem FrameLoop.run_runs (addr serverAddr : SocketAddr) (nowMillis : Int64)
    (frames : List Frame) (l : FrameLoop F H) :
    l.session.Runs (l.run addr serverAddr nowMillis frames).session := by
  induction frames generalizing l with
  | nil => exact .refl l.session
  | cons frame frames ih =>
    have hcontrol := applyConnectedControl_runs l.session addr serverAddr nowMillis
    rcases l.run_cons addr serverAddr nowMillis frame with ⟨l', hstep, hrun⟩ | ⟨l', hstop, hrun⟩
    · rw [hrun]
      cases hstep with
      | empty | delivered | parked => exact ih _
      | @control _ packet _ _ session h =>
        have hruns := hcontrol packet
        rw [h] at hruns
        exact hruns.trans (ih _)
    · rw [hrun]
      cases hstop with
      | overflow | malformed => exact .refl l.session
      | @closed _ packet _ _ session _ _ h | @unanswered _ packet _ _ session _ h =>
        have hruns := hcontrol packet
        rw [h] at hruns
        exact hruns

/-- A loop that has found nothing illegal ends in one of the two ways. -/
theorem FrameLoop.run_done (addr serverAddr : SocketAddr) (nowMillis : Int64)
    {st : SessionState} (frames : List Frame) {l : FrameLoop F H} (hrunning : l.Running)
    (hlegal : l.illegalTransition = false) (hmoves : st.Moves l.session.state) :
    (l.run addr serverAddr nowMillis frames).Done st := by
  induction frames generalizing l with
  | nil => exact .inr ⟨hrunning.2, hlegal, hmoves⟩
  | cons frame frames ih =>
    rcases l.run_cons addr serverAddr nowMillis frame with ⟨l', hstep, hrun⟩ | ⟨l', hstop, hrun⟩
    · rw [hrun]
      have hmoves' := hmoves.trans hstep.state
      cases hstep with
      | empty | delivered | parked | control => exact ih hrunning hlegal hmoves'
    · rw [hrun]
      have hmoves' := applyConnectedControl_moves l.session addr serverAddr nowMillis
      cases hstop with
      | overflow | closed => exact .inl ⟨rfl, hrunning.1⟩
      | malformed => exact .inr ⟨hrunning.2, hlegal, hmoves⟩
      | @unanswered _ packet _ _ session _ hcontrol =>
        have hcut := hmoves' packet
        rw [hcontrol] at hcut
        rcases hcut with ⟨_, _, hclose⟩ | hmove
        · cases hclose
        · exact .inr ⟨hrunning.2, hlegal, hmoves.trans hmove⟩

/-- Behind the tick, the loop has nothing to send if it closes the session. -/
theorem FrameLoop.tick_done {st : SessionState} {l : FrameLoop F H} (h : l.Done st)
    (now : Instant) (mtu : Nat) :
    ((l.tick now mtu).2.closeSession = true ∧ (l.tick now mtu).2.decodeError = none ∧
        (l.tick now mtu).1 = []) ∨
      ((l.tick now mtu).2.illegalTransition = false ∧
        st.Moves (l.tick now mtu).2.session.state) := by
  unfold FrameLoop.tick
  rcases h with ⟨hclosed, hnone⟩ | ⟨hopen, hlegal, hmoves⟩
  · rw [hclosed]
    exact .inl ⟨rfl, hnone, rfl⟩
  · rw [hopen]
    refine .inr ⟨hlegal, ?_⟩
    have htick := l.session.onTick_state now recvPathMaxDatagrams (mtu * recvPathMaxDatagrams)
      recvPathMaxDatagrams (mtu * recvPathMaxDatagrams)
    rw [← htick] at hmoves
    exact hmoves

/-! ## The block around the loop -/

/-- The frame loop over the frames of a datagram, from the session that has
    released them. -/
def loopOver (s : TransportServer F H) (env : Env) (addr : SocketAddr) (session : Session F H)
    (frames : List Frame) : FrameLoop F H :=
  (FrameLoop.start (session.processIncomingReceipts env.now).2 (s.pipelineEntry addr)).run addr
    s.localAddr (env.nowMillis addr) frames

/-- What the tick behind the loop has to send. -/
def tickedDatagrams (s : TransportServer F H) (env : Env) (l : FrameLoop F H) : List Datagram :=
  (l.session.onTick env.now recvPathMaxDatagrams (s.config.mtu * recvPathMaxDatagrams)
    recvPathMaxDatagrams (s.config.mtu * recvPathMaxDatagrams)).1.datagrams

/-- What the block around the frame loop comes to, from the session that has
    released the frames. -/
def outcomeOver (s : TransportServer F H) (env : Env) (addr : SocketAddr) (session : Session F H)
    (frames : List Frame) : ConnectedOutcome F H :=
  let ticked := (s.loopOver env addr session frames).flush.tick env.now s.config.mtu
  { loop := ticked.2
    receipts := (session.processIncomingReceipts env.now).1
    datagrams := ticked.1
    becameConnected :=
      !decide ((session.processIncomingReceipts env.now).2.state = .connected) &&
        decide (ticked.2.session.state = .connected) }

/-- The session of an address releases the frames of a datagram. -/
def Releases (s : TransportServer F H) (env : Env) (addr : SocketAddr) (datagram : Datagram)
    (frames : List Frame) (session : Session F H) : Prop :=
  ((s.sessionEntry env addr).touchActivity env.now).ingestDatagram datagram env.now
    = (.ok frames, session)

variable {s : TransportServer F H} {env : Env} {addr : SocketAddr} {datagram : Datagram}
  {session released : Session F H} {frames : List Frame}

theorem ingestConnected_eq (h : s.Releases env addr datagram frames released) :
    s.ingestConnected env addr datagram =
      (.ok (s.outcomeOver env addr released frames),
        (s.outcomeOver env addr released frames).loop.session) := by
  rw [ingestConnected, h]
  rfl

/-- A block that comes to an outcome does so for frames that were released. -/
theorem ingestConnected_releases {o : ConnectedOutcome F H} {session' : Session F H}
    (h : s.ingestConnected env addr datagram = (.ok o, session')) :
    ∃ frames released, s.Releases env addr datagram frames released ∧
      o = s.outcomeOver env addr released frames ∧ session' = o.loop.session := by
  cases hreleased : ((s.sessionEntry env addr).touchActivity env.now).ingestDatagram datagram
      env.now with
  | mk result released =>
  cases result with
  | error e =>
    rw [ingestConnected, hreleased] at h
    cases h
  | ok frames =>
    have hreleases : s.Releases env addr datagram frames released := hreleased
    rw [ingestConnected_eq hreleases] at h
    obtain ⟨ho, hsession⟩ := Prod.mk.inj h
    obtain rfl := Except.ok.inj ho
    exact ⟨frames, released, hreleased, rfl, hsession.symm⟩

theorem sessionEntry_of_lookup (hlookup : s.sessions.lookup addr = some session) :
    s.sessionEntry env addr = session := by
  rw [sessionEntry, hlookup]
  rfl

theorem Releases.state (h : s.Releases env addr datagram frames released)
    (hlookup : s.sessions.lookup addr = some session) : released.state = session.state := by
  have hstate := (session.touchActivity env.now).ingestDatagram_state datagram env.now
  rw [← sessionEntry_of_lookup hlookup, h] at hstate
  rw [← sessionEntry_of_lookup hlookup]
  exact hstate

/-- A block that comes to an error does so for a datagram that the session refuses. -/
theorem ingestConnected_refuses {e : DecodeError} {session' : Session F H}
    (h : s.ingestConnected env addr datagram = (.error e, session')) :
    ((s.sessionEntry env addr).touchActivity env.now).ingestDatagram datagram env.now
      = (.error e, session') := by
  cases hreleased : ((s.sessionEntry env addr).touchActivity env.now).ingestDatagram datagram
      env.now with
  | mk result released =>
  cases result with
  | error e =>
    rw [ingestConnected, hreleased] at h
    cases h
    rfl
  | ok frames =>
    have hreleases : s.Releases env addr datagram frames released := hreleased
    rw [ingestConnected_eq hreleases] at h
    cases h

/-- A session that refuses a datagram has not moved. -/
theorem ingestConnected_refused {e : DecodeError} {session' : Session F H}
    (h : s.ingestConnected env addr datagram = (.error e, session'))
    (hlookup : s.sessions.lookup addr = some session) : session'.state = session.state := by
  have hstate := (session.touchActivity env.now).ingestDatagram_state datagram env.now
  rw [← sessionEntry_of_lookup hlookup, ingestConnected_refuses h] at hstate
  rw [← sessionEntry_of_lookup hlookup]
  exact hstate

theorem outcomeOver_runs (s : TransportServer F H) (env : Env) (addr : SocketAddr)
    (released : Session F H) (frames : List Frame) :
    released.Runs (s.outcomeOver env addr released frames).loop.session := by
  have hreceipts : released.Runs (released.processIncomingReceipts env.now).2 :=
    released.runs_step (.processIncomingReceipts env.now) rfl
  have hloop : (released.processIncomingReceipts env.now).2.Runs
      (s.loopOver env addr released frames).session :=
    FrameLoop.run_runs addr s.localAddr (env.nowMillis addr) frames _
  have hflush : (s.loopOver env addr released frames).flush.session
      = (s.loopOver env addr released frames).session := by
    unfold FrameLoop.flush
    split <;> rfl
  rw [← hflush] at hloop
  refine (hreceipts.trans hloop).trans ?_
  unfold outcomeOver FrameLoop.tick
  generalize (s.loopOver env addr released frames).flush = l
  dsimp only
  split
  · exact l.session.runs_step .takeBackpressureDisconnect rfl
  · have hticked := l.session.runs_step (.onTick env.now recvPathMaxDatagrams
      (s.config.mtu * recvPathMaxDatagrams) recvPathMaxDatagrams
      (s.config.mtu * recvPathMaxDatagrams)) rfl
    exact hticked.trans (Session.runs_step _ .takeBackpressureDisconnect rfl)

/-- The session on the way to a datagram that it releases or refuses. -/
theorem ingestDatagram_runs (env : Env) (datagram : Datagram)
    (hlookup : s.sessions.lookup addr = some session) :
    session.Runs (((s.sessionEntry env addr).touchActivity env.now).ingestDatagram datagram
      env.now).2 := by
  rw [sessionEntry_of_lookup hlookup]
  exact (session.runs_step (.touchActivity env.now) rfl).trans
    (Session.runs_step _ (.ingestDatagram datagram env.now) rfl)

theorem outcomeOver_becameConnected (s : TransportServer F H) (env : Env) (addr : SocketAddr)
    (released : Session F H) (frames : List Frame) :
    (s.outcomeOver env addr released frames).becameConnected = true ↔
      released.state ≠ .connected ∧
        (s.outcomeOver env addr released frames).loop.session.state = .connected := by
  simp [outcomeOver, released.processIncomingReceipts_state env.now]

/-- The block closes the session, and then has nothing to send, or moves it. -/
theorem outcomeOver_done (s : TransportServer F H) (env : Env) (addr : SocketAddr)
    (released : Session F H) (frames : List Frame) {o : ConnectedOutcome F H}
    (ho : o = s.outcomeOver env addr released frames) :
    (o.loop.closeSession = true ∧ o.loop.decodeError = none ∧ o.datagrams = []) ∨
      (o.loop.illegalTransition = false ∧ released.state.Moves o.loop.session.state) := by
  subst ho
  have hrun : (s.loopOver env addr released frames).Done _ :=
    FrameLoop.run_done addr s.localAddr (env.nowMillis addr) frames ⟨rfl, rfl⟩ rfl (.refl _)
  have htick := FrameLoop.tick_done (FrameLoop.flush_done hrun) env.now s.config.mtu
  rw [FrameLoop.start, released.processIncomingReceipts_state env.now] at htick
  exact htick

end TransportServer

end Raknet
