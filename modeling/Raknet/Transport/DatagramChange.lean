-- SUMMARY: What a connected datagram does to the tables and to the peer of its address.
import Raknet.Transport.FrameLoop

/-!
# Datagrams and peers

`DatagramOutcome` lists what a datagram that gets to its session can come to: the
session refuses it, a control frame does not decode, what is to be sent cannot be
sent, or the call gets to its end. The end closes the session or keeps it
(`FinishOutcome`), and with the call that makes the session `Connected` its
handshake is over. `DatagramChange` is what that means for the peer.
-/

namespace Raknet

open Decoder

variable {F H : Type}

namespace TransportServer

variable {s s' : TransportServer F H} {addr : SocketAddr}

/-! ## The end of a call -/

theorem isConnected_iff {s : TransportServer F H} {addr : SocketAddr} :
    s.isConnected addr = true ↔ (s.peer addr).1 = some .connected := by
  unfold isConnected peer peerOf
  cases s.sessions.lookup addr <;> simp

/-- The handshake of a connected session is over. -/
def endHandshake (s : TransportServer F H) (addr : SocketAddr) : TransportServer F H :=
  if s.isConnected addr then { s with pendingHandshakes := s.pendingHandshakes.erase addr } else s

/-- A session that has become connected is counted. -/
def countStarted (s : TransportServer F H) (becameConnected : Bool) : TransportServer F H :=
  if becameConnected then
    s.count fun c => { c with sessionsStartedTotal := satAdd c.sessionsStartedTotal 1 }
  else s

/-- What the end of a call can come to. -/
inductive FinishOutcome (s : TransportServer F H) (addr : SocketAddr) (o : ConnectedOutcome F H) :
    TransportEvent × TransportServer F H → Prop
  | disconnected {reason : RemoteDisconnectReason} {s' : TransportServer F H}
      (hclose : o.loop.closeSession = true)
      (hreason : o.loop.remoteDisconnectReason = some reason) (h : ClosesOne s s' addr) :
      FinishOutcome s addr o (.peerDisconnected addr reason, s')
  | closed {m s' : TransportServer F H} {guid : Option UInt64}
      (hclose : o.loop.closeSession = true) (hreason : o.loop.remoteDisconnectReason = none)
      (h : ClosesOne s m addr) (hguid : guid = none)
      (hcounted : SameTables (m.countStarted o.becameConnected) s') :
      FinishOutcome s addr o (.connectedFrames addr guid [] o.receipts, s')
  | kept {s' : TransportServer F H} {guid : Option UInt64} (hopen : o.loop.closeSession = false)
      (hguid : guid = if o.becameConnected then
        (s.pendingHandshakes.lookup addr).bind PendingHandshake.clientGuid else none)
      (hcounted : SameTables ((s.endHandshake addr).countStarted o.becameConnected) s') :
      FinishOutcome s addr o
        (.connectedFrames addr guid (o.loop.appFrames.map ConnectedFrameDelivery.fromFrame)
          o.receipts, s')

theorem countStarted_pending (s : TransportServer F H) (became : Bool) :
    (s.countStarted became).pendingHandshakes = s.pendingHandshakes := by
  cases became <;> rfl

theorem countStarted_isConnected (s : TransportServer F H) (became : Bool) (addr : SocketAddr) :
    (s.countStarted became).isConnected addr = s.isConnected addr := by
  cases became <;> rfl

/-- The handshake may be ended before or after the session is counted. -/
theorem endHandshake_countStarted (s : TransportServer F H) (became : Bool) (addr : SocketAddr) :
    (s.countStarted became).endHandshake addr = (s.endHandshake addr).countStarted became := by
  unfold endHandshake
  rw [countStarted_isConnected]
  cases became <;> cases s.isConnected addr <;> rfl

/-- The end of a call that keeps the session keeps the sessions and pipelines. -/
theorem endHandshake_tables (s : TransportServer F H) (addr : SocketAddr) (became : Bool) :
    ((s.endHandshake addr).countStarted became).sessions = s.sessions ∧
      ((s.endHandshake addr).countStarted became).sessionPipelines = s.sessionPipelines := by
  unfold endHandshake
  cases became <;> cases s.isConnected addr <;> exact ⟨rfl, rfl⟩

theorem finishConnected_outcome (s : TransportServer F H) (env : Env) (addr : SocketAddr)
    (o : ConnectedOutcome F H) : FinishOutcome s addr o (s.finishConnected env addr o) := by
  -- the end of the call for a server whose session is closed or kept already
  have htail : ∀ (m : TransportServer F H) (f : TransportCounters → TransportCounters),
      (∀ c, (f c).sessionsStartedTotal = c.sessionsStartedTotal) →
      (∀ c, (f c).sessionsClosedTotal = c.sessionsClosedTotal) →
      SameTables ((m.endHandshake addr).countStarted o.becameConnected)
        (((m.countStarted o.becameConnected).endHandshake addr).count f) := by
    intro m f hstarted hclosed
    rw [endHandshake_countStarted]
    exact (Aside.count _ hstarted hclosed).toSameTables
  unfold finishConnected
  cases hclose : o.loop.closeSession with
  | true =>
    cases hreason : o.loop.remoteDisconnectReason with
    | some reason =>
      exact .disconnected hclose hreason (.after (s.recordRemoteDisconnect_aside reason).toSameTables
        (closeSession_closesOne _ env addr))
    | none =>
      -- the handshake was closed with the session
      have h := s.closeSession_closesOne env addr
      have hguid : (if o.becameConnected then
          (((s.closeSession env addr).countStarted o.becameConnected).pendingHandshakes.lookup
            addr).bind PendingHandshake.clientGuid
          else none) = none := by
        rw [countStarted_pending, h.pending, AList.lookup_erase]
        split <;> rfl
      have hend : (s.closeSession env addr).endHandshake addr = s.closeSession env addr := by
        rw [endHandshake, isConnected, h.sessions, AList.lookup_erase]
        rfl
      have hcounted := htail (s.closeSession env addr)
      rw [hend] at hcounted
      exact .closed hclose hreason h hguid (hcounted _ (fun _ => rfl) fun _ => rfl)
  | false =>
    have hguid : (if o.becameConnected then
        ((s.countStarted o.becameConnected).pendingHandshakes.lookup addr).bind
          PendingHandshake.clientGuid
        else none) = if o.becameConnected then
          (s.pendingHandshakes.lookup addr).bind PendingHandshake.clientGuid else none := by
      rw [countStarted_pending]
    exact .kept hclose hguid (htail s _ (fun _ => rfl) fun _ => rfl)

theorem endHandshake_sameAt (s : TransportServer F H) {addr a : SocketAddr} (ha : a ≠ addr) :
    SameAt s (s.endHandshake addr) a := by
  unfold endHandshake
  split
  · exact ⟨rfl, rfl, AList.lookup_erase_ne ha⟩
  · exact ⟨rfl, rfl, rfl⟩

theorem countStarted_sameAt (s : TransportServer F H) (became : Bool) (a : SocketAddr) :
    SameAt s (s.countStarted became) a := by
  cases became <;> exact ⟨rfl, rfl, rfl⟩

/-- The end of a call leaves the other addresses alone. -/
theorem FinishOutcome.sameAt {o : ConnectedOutcome F H}
    {r : TransportEvent × TransportServer F H} {a : SocketAddr} (h : FinishOutcome s addr o r)
    (ha : a ≠ addr) : SameAt s r.2 a := by
  cases h with
  | disconnected _ _ hclosed => exact hclosed.sameAt ha
  | closed _ _ hclosed _ hcounted =>
    exact ((hclosed.sameAt ha).trans (countStarted_sameAt _ _ a)).trans (hcounted.sameAt a)
  | kept _ _ hcounted =>
    exact ((s.endHandshake_sameAt ha).trans (countStarted_sameAt _ _ a)).trans (hcounted.sameAt a)

theorem endHandshake_sets {st : SessionState} {pending : Option PendingHandshake}
    (hpeer : s.peer addr = (some st, pending)) :
    Sets s (s.endHandshake addr) addr (some st, if st = .connected then none else pending) := by
  have hconnected : s.isConnected addr = true ↔ st = .connected := by
    rw [isConnected_iff, hpeer, Option.some_inj]
  unfold endHandshake
  by_cases hst : st = .connected
  · rw [if_pos (hconnected.mpr hst), if_pos hst]
    refine ⟨rfl, fun a => (peerOf_erase_pending s.sessions s.pendingHandshakes addr a).trans ?_⟩
    split
    · next ha =>
      rw [ha]
      exact congrArg (fun p => (p.1, none)) hpeer
    · rfl
  · rw [if_neg (hst ∘ hconnected.mp), if_neg hst, ← hpeer]
    exact (Aside.refl s).sets

theorem Sets.countStarted {v : Option SessionState × Option PendingHandshake}
    (h : Sets s s' addr v) (became : Bool) : Sets s (s'.countStarted became) addr v := by
  cases became <;> exact ⟨h.config, h.peer⟩

/-- What the end of a call does to the peer of its address. -/
theorem FinishOutcome.sets {o : ConnectedOutcome F H}
    {r : TransportEvent × TransportServer F H} (h : FinishOutcome s addr o r) {st : SessionState}
    {pending : Option PendingHandshake} (hpeer : s.peer addr = (some st, pending)) :
    Sets s r.2 addr (if o.loop.closeSession then (none, none)
      else (some st, if st = .connected then none else pending)) := by
  cases h with
  | disconnected hclose hreason h =>
    rw [if_pos hclose]
    exact h.closes.sets
  | closed hclose hreason h hguid hcounted =>
    rw [if_pos hclose]
    exact (h.closes.sets.countStarted _).same hcounted
  | kept hopen hguid hcounted =>
    rw [hopen, if_neg Bool.false_ne_true]
    exact ((endHandshake_sets hpeer).countStarted _).same hcounted

/-! ## Where packets are sent to -/

/-- The two servers send a packet to the same place. -/
structure SameRoutes (s s' : TransportServer F H) : Prop where
  router : s'.proxyRouter = s.proxyRouter
  socket : s'.socketAddr = s.socketAddr
  config : s'.config = s.config

theorem SameRoutes.routeOutboundTarget (h : SameRoutes s s') (addr : SocketAddr) :
    (s'.routeOutboundTarget addr).1 = (s.routeOutboundTarget addr).1 ∧
      SameRoutes (s.routeOutboundTarget addr).2 (s'.routeOutboundTarget addr).2 := by
  have hlocal : s'.localAddr = s.localAddr := by
    rw [localAddr, localAddr, h.socket, h.config]
  unfold TransportServer.routeOutboundTarget
  rw [h.router, hlocal]
  split
  · exact ⟨rfl, h⟩
  · split
    · dsimp only
      split
      · exact ⟨rfl, ⟨h.router, h.socket, h.config⟩⟩
      · exact ⟨rfl, h⟩
    · exact ⟨rfl, ⟨h.router, h.socket, h.config⟩⟩

theorem SameRoutes.send (h : SameRoutes s s') (env : Env) (attempt : Nat) (addr : SocketAddr)
    (encoded : Except EncodeError Bytes) :
    (s'.send env attempt addr encoded).1 = (s.send env attempt addr encoded).1 ∧
      SameRoutes (s.send env attempt addr encoded).2 (s'.send env attempt addr encoded).2 := by
  obtain ⟨htarget, hroutes⟩ := h.routeOutboundTarget addr
  unfold TransportServer.send
  generalize s.routeOutboundTarget addr = q at htarget hroutes ⊢
  generalize s'.routeOutboundTarget addr = q' at htarget hroutes ⊢
  obtain ⟨target, s₁⟩ := q
  obtain ⟨target', s₁'⟩ := q'
  subst htarget
  dsimp only
  split
  · exact ⟨rfl, hroutes⟩
  · split
    · exact ⟨rfl, hroutes⟩
    · split <;> exact ⟨rfl, hroutes⟩

theorem SameRoutes.sendDatagrams (h : SameRoutes s s') (env : Env) (attempt : Nat)
    (l : List (SocketAddr × Datagram)) :
    (sendDatagrams env s' attempt l).1 = (sendDatagrams env s attempt l).1 := by
  induction l generalizing s s' attempt with
  | nil => rfl
  | cons d rest ih =>
    obtain ⟨addr, datagram⟩ := d
    obtain ⟨hresult, hroutes⟩ := h.send env attempt addr datagram.encode
    unfold TransportServer.sendDatagrams
    generalize s.send env attempt addr datagram.encode = q at hresult hroutes ⊢
    generalize s'.send env attempt addr datagram.encode = q' at hresult hroutes ⊢
    obtain ⟨r, s₁⟩ := q
    obtain ⟨r', s₁'⟩ := q'
    subst hresult
    obtain ⟨result, sent⟩ := r'
    cases result with
    | ok _ =>
      have hrest := ih hroutes (attempt + 1)
      dsimp only at hrest ⊢
      rw [hrest]
    | error _ => rfl

/-! ## Datagrams -/

/-- The server with what the block around the loop has made of the session and the
    pipeline of the address. -/
def stored (s : TransportServer F H) (addr : SocketAddr) (session : Session F H)
    (pipeline : SessionPipeline) : TransportServer F H :=
  { s with
    sessions := s.sessions.insert addr session
    sessionPipelines := s.sessionPipelines.insert addr pipeline }

theorem stored_sameAt (s : TransportServer F H) (session : Session F H)
    (pipeline : SessionPipeline) {a : SocketAddr} (ha : a ≠ addr) :
    SameAt s (s.stored addr session pipeline) a :=
  ⟨AList.lookup_insert_ne ha, AList.lookup_insert_ne ha, rfl⟩

theorem stored_sets (s : TransportServer F H) (addr : SocketAddr) (session : Session F H)
    (pipeline : SessionPipeline) :
    Sets s (s.stored addr session pipeline) addr
      (some session.state, s.pendingHandshakes.lookup addr) :=
  ⟨rfl, (s.sets_insert_session addr session).peer⟩

variable [F64 F] [MinHeap H QueuedFrame QueuedFrame.weight]

/-- What a datagram that gets to its session can come to. -/
inductive DatagramOutcome (s : TransportServer F H) (env : Env) (addr : SocketAddr)
    (datagram : Datagram) : CallResult TransportEvent × TransportServer F H → Prop
  | refused {e : DecodeError} {session : Session F H}
      (h : s.ingestConnected env addr datagram = (.error e, session)) :
      DatagramOutcome s env addr datagram
        (⟨.ok (.decodeError addr (.error e)), []⟩, s.stored addr session (s.pipelineEntry addr))
  | malformed {frames : List Frame} {released : Session F H} {o : ConnectedOutcome F H}
      {fault : Fault DecodeError} (h : s.Releases env addr datagram frames released)
      (ho : o = s.outcomeOver env addr released frames)
      (hdecode : o.loop.decodeError = some fault) :
      DatagramOutcome s env addr datagram
        (⟨.ok (.decodeError addr fault), []⟩, s.stored addr o.loop.session o.loop.pipeline)
  | unsent {frames : List Frame} {released : Session F H} {o : ConnectedOutcome F H}
      {e : IoError} {sent : List (SocketAddr × Bytes)} {s' : TransportServer F H}
      (h : s.Releases env addr datagram frames released)
      (ho : o = s.outcomeOver env addr released frames) (hdecode : o.loop.decodeError = none)
      (hsend : (sendDatagrams env s 0 (o.datagrams.map fun d => (addr, d))).1 = ⟨.error e, sent⟩)
      (haside : Aside (s.stored addr o.loop.session o.loop.pipeline) s') :
      DatagramOutcome s env addr datagram (⟨.error e, sent⟩, s')
  | finished {frames : List Frame} {released : Session F H} {o : ConnectedOutcome F H}
      {sent : List (SocketAddr × Bytes)} {event : TransportEvent} {m s' : TransportServer F H}
      (h : s.Releases env addr datagram frames released)
      (ho : o = s.outcomeOver env addr released frames) (hdecode : o.loop.decodeError = none)
      (hsend : o.loop.illegalTransition = true ∨
        (sendDatagrams env s 0 (o.datagrams.map fun d => (addr, d))).1 = ⟨.ok (), sent⟩)
      (haside : Aside (s.stored addr o.loop.session o.loop.pipeline) m)
      (hfinish : FinishOutcome m addr o (event, s')) :
      DatagramOutcome s env addr datagram (⟨.ok event, sent⟩, s')

theorem processDatagram_outcome (s : TransportServer F H) (env : Env) (addr : SocketAddr)
    (datagram : Datagram) :
    DatagramOutcome s env addr datagram (s.processDatagram env addr datagram) := by
  unfold processDatagram
  cases hingest : s.ingestConnected env addr datagram with
  | mk result session =>
  cases result with
  | error e => exact .refused hingest
  | ok o =>
    obtain ⟨frames, released, hreleases, ho, rfl⟩ := ingestConnected_releases hingest
    dsimp only
    cases hdecode : o.loop.decodeError with
    | some fault => exact .malformed hreleases ho hdecode
    | none =>
      dsimp only
      by_cases hillegal : o.loop.illegalTransition = true
      · rw [if_pos hillegal]
        have haside : Aside (s.stored addr o.loop.session o.loop.pipeline)
            ((s.stored addr o.loop.session o.loop.pipeline).count fun c => { c with
              illegalStateTransitions := satAdd c.illegalStateTransitions 1 }) :=
          .count _ (fun _ => rfl) fun _ => rfl
        exact .finished hreleases ho hdecode (.inl hillegal) haside
          (finishConnected_outcome _ env addr o)
      · rw [if_neg hillegal]
        -- the session is stored before its datagrams are sent, to the same places
        have hroutes : SameRoutes s (s.stored addr o.loop.session o.loop.pipeline) :=
          ⟨rfl, rfl, rfl⟩
        have hsend := hroutes.sendDatagrams env 0 (o.datagrams.map fun d => (addr, d))
        have haside := sendDatagrams_aside env (s.stored addr o.loop.session o.loop.pipeline) 0
          (o.datagrams.map fun d => (addr, d))
        rw [stored] at hsend haside
        generalize sendDatagrams env _ 0 (o.datagrams.map fun d => (addr, d)) = q
          at hsend haside ⊢
        obtain ⟨⟨result, sent⟩, s'⟩ := q
        cases result with
        | error e => exact .unsent hreleases ho hdecode hsend.symm haside
        | ok _ =>
          exact .finished hreleases ho hdecode (.inr hsend.symm) haside
            (finishConnected_outcome s' env addr o)

/-- A datagram leaves the other addresses alone. -/
theorem DatagramOutcome.sameAt {env : Env} {datagram : Datagram}
    {r : CallResult TransportEvent × TransportServer F H} {a : SocketAddr}
    (h : DatagramOutcome s env addr datagram r) (ha : a ≠ addr) : SameAt s r.2 a := by
  cases h with
  | refused | malformed => exact s.stored_sameAt _ _ ha
  | unsent _ _ _ _ haside => exact (s.stored_sameAt _ _ ha).trans (haside.sameAt a)
  | finished _ _ _ _ haside hfinish =>
    exact ((s.stored_sameAt _ _ ha).trans (haside.sameAt a)).trans (hfinish.sameAt ha)

/-- If the datagram makes its session `Connected`, its call gets to its end: no
    control frame behind fails to decode, and the socket takes what is sent. -/
def completesDatagram (s : TransportServer F H) (env : Env) (addr : SocketAddr)
    (datagram : Datagram) : Bool :=
  match s.ingestConnected env addr datagram with
  | (.error _, _) => true
  | (.ok o, _) =>
    !o.becameConnected || (o.loop.decodeError.isNone &&
      (sendDatagrams env s 0 (o.datagrams.map fun d => (addr, d))).1.result.isOk)

/-- What a datagram can do to the peer of its address. -/
inductive DatagramChange (st : SessionState) (pending : Option PendingHandshake)
    (completes : Prop) : Option SessionState × Option PendingHandshake → Prop
  | closed (h : completes) : DatagramChange st pending completes (none, none)
  | finished {st' : SessionState} (hmoves : st.Moves st') (h : completes) :
      DatagramChange st pending completes
        (some st', if st' = .connected then none else pending)
  | cutShort {st' : SessionState} (hmoves : st.Moves st')
      (h : completes ↔ ¬(st ≠ .connected ∧ st' = .connected)) :
      DatagramChange st pending completes (some st', pending)

theorem completesDatagram_iff {frames : List Frame} {released : Session F H}
    {o : ConnectedOutcome F H} {env : Env} {datagram : Datagram}
    (h : s.Releases env addr datagram frames released)
    (ho : o = s.outcomeOver env addr released frames) :
    s.completesDatagram env addr datagram = true ↔
      (released.state ≠ .connected ∧ o.loop.session.state = .connected →
        o.loop.decodeError = none ∧
          (sendDatagrams env s 0 (o.datagrams.map fun d => (addr, d))).1.result.isOk = true) := by
  subst ho
  rw [completesDatagram, ingestConnected_eq h, ← outcomeOver_becameConnected]
  dsimp only
  cases (s.outcomeOver env addr released frames).becameConnected <;> simp

theorem DatagramOutcome.sets {session : Session F H} {env : Env} {datagram : Datagram}
    {r : CallResult TransportEvent × TransportServer F H}
    (h : DatagramOutcome s env addr datagram r)
    (hlookup : s.sessions.lookup addr = some session) :
    ∃ v, Sets s r.2 addr v ∧
      DatagramChange session.state (s.pendingHandshakes.lookup addr)
        (s.completesDatagram env addr datagram = true) v := by
  cases h with
  | @refused e session' hingest =>
    have hcompletes : s.completesDatagram env addr datagram = true := by
      rw [completesDatagram, hingest]
    refine ⟨_, s.stored_sets addr session' _, ?_⟩
    rw [ingestConnected_refused hingest hlookup]
    exact .cutShort (.refl _) (iff_of_true hcompletes fun h => h.1 h.2)
  | @malformed frames released o fault hreleases ho hdecode =>
    have hcompletes := completesDatagram_iff hreleases ho
    rw [hdecode] at hcompletes
    have hdone := outcomeOver_done s env addr released frames ho
    rw [hdecode] at hdone
    rw [hreleases.state hlookup] at hcompletes hdone
    obtain ⟨-, hmoves⟩ := hdone.resolve_left (nomatch ·.2.1)
    exact ⟨_, s.stored_sets addr _ _, .cutShort hmoves (hcompletes.trans (by simp))⟩
  | @unsent frames released o e sent s' hreleases ho hdecode hsend haside =>
    have hcompletes := completesDatagram_iff hreleases ho
    have hdone := outcomeOver_done s env addr released frames ho
    rw [hreleases.state hlookup] at hcompletes hdone
    rw [hsend] at hcompletes
    refine ⟨_, (s.stored_sets addr _ _).same haside.toSameTables, ?_⟩
    rcases hdone with ⟨-, -, hempty⟩ | ⟨-, hmoves⟩
    · rw [hempty] at hsend
      cases hsend
    · exact .cutShort hmoves (hcompletes.trans (by simp [Except.isOk, Except.toBool]))
  | @finished frames released o sent event m s' hreleases ho hdecode hsend haside hfinish =>
    have hcompletes := completesDatagram_iff hreleases ho
    have hdone := outcomeOver_done s env addr released frames ho
    rw [hreleases.state hlookup] at hcompletes hdone
    have hsets := (s.stored_sets addr o.loop.session o.loop.pipeline).same haside.toSameTables
    have hfinished := hsets.trans (hfinish.sets ((hsets.peer addr).trans (if_pos rfl)))
    -- a call that sends nothing for an illegal transition has nothing to send
    have hsent : (sendDatagrams env s 0 (o.datagrams.map fun d => (addr, d))).1.result.isOk
        = true := by
      rcases hsend with hillegal | hsend
      · rcases hdone with ⟨-, -, hempty⟩ | ⟨hlegal, -⟩
        · rw [hempty]
          rfl
        · rw [hlegal] at hillegal
          cases hillegal
      · rw [hsend]
        rfl
    have hcompleted := hcompletes.mpr fun _ => ⟨hdecode, hsent⟩
    refine ⟨_, hfinished, ?_⟩
    rcases hdone with ⟨hclose, -, -⟩ | ⟨-, hmoves⟩
    · rw [if_pos hclose]
      exact .closed hcompleted
    · split
      · exact .closed hcompleted
      · exact .finished hmoves hcompleted

/-- Whether a datagram gets to the session of its address. -/
def reachesSession (s : TransportServer F H) (env : Env) (addr : SocketAddr)
    (datagram : Datagram) (len : Nat) : Bool :=
  (s.sessions.lookup addr).isSome &&
    if datagram.payload.kind = .data ∧ s.rateLimiter.isException addr.ip = false then
      decide ((s.rateLimiter.consumeProcessingBudget addr.ip
        (estimateConnectedDatagramProcessingCost len datagram) env.now).1 = .allow)
    else true

theorem completesDatagram_limit (s : TransportServer F H) (rateLimiter : RateLimiter F)
    (env : Env) (addr : SocketAddr) (datagram : Datagram) :
    ({ s with rateLimiter } : TransportServer F H).completesDatagram env addr datagram
      = s.completesDatagram env addr datagram := by
  have hingest : ({ s with rateLimiter } : TransportServer F H).ingestConnected env addr datagram
      = s.ingestConnected env addr datagram := rfl
  have hroutes : SameRoutes s { s with rateLimiter } := ⟨rfl, rfl, rfl⟩
  rw [completesDatagram, completesDatagram, hingest]
  split
  · rfl
  · rw [hroutes.sendDatagrams]

end TransportServer

end Raknet
