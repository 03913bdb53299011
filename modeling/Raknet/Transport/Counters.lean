-- SUMMARY: The counters of started and closed sessions against the sessions that are connected.
import Raknet.Transport.Agreement

/-!
# Counters

The started counter is bumped at the end of a call, the closed counter by
`close_session`. Along a run whose calls connect cleanly (`connectsCleanly`), the
two differ by the number of sessions that are connected, and a session is counted
and announced in the call that connects it. A call does not connect cleanly if it
makes its session `Connected` and is cut short, or closes the session again.
-/

namespace Raknet

open Decoder

/-- The address of a session that an output announces: its client's GUID is told
    with its frames. -/
def TransportOut.announced : TransportOut → Option SocketAddr
  | .received ⟨.ok (.connectedFrames addr (some _) _ _), _⟩ => some addr
  | _ => none

theorem TransportOut.TellsAside.announced {out : TransportOut} (h : out.TellsAside) :
    out.announced = none := by
  cases out with
  | received r =>
    obtain ⟨result, sent⟩ := r
    cases result with
    | error e => rfl
    | ok event =>
      have haside := h event rfl
      cases event with
      | connectedFrames => cases haside
      | _ => rfl
  | _ => rfl

variable {F H : Type}

namespace TransportServer

/-! ## Peers in order -/

/-- What holds of every peer: its session is not over, and behind the second
    reply it has its handshake until it is connected. -/
structure PeerInOrder (st : SessionState) (pending : Option PendingHandshake) : Prop where
  lasts : st.isOver = false
  accepted : st.pastReply2 = true → ∀ p ∈ pending, IsAccepted p
  waiting : st.pastReply2 = true → st ≠ .connected → pending.isSome = true

/-- What holds of every reachable server. -/
structure InOrder (s : TransportServer F H) : Prop where
  noOrphans : s.NoOrphans
  peer : ∀ a st pending, s.peer a = (some st, pending) → PeerInOrder st pending

theorem DatagramChange.inOrder {st : SessionState} {pending : Option PendingHandshake}
    {completes : Prop} {v : Option SessionState × Option PendingHandshake}
    (h : DatagramChange st pending completes v) (horder : PeerInOrder st pending) :
    ∀ st' pending', v = (some st', pending') → PeerInOrder st' pending' := by
  have hlasts : ∀ {st'}, st.Moves st' → st'.isOver = false := by
    intro st' hmoves
    by_contra hover
    have := hmoves.overBefore (Bool.eq_true_of_not_eq_false hover)
    rw [horder.lasts] at this
    cases this
  rintro st' pending' rfl
  cases h with
  | @finished st' hmoves _ =>
    refine ⟨hlasts hmoves, fun hpast p hp => ?_, fun hpast hopen => ?_⟩
    · split at hp
      · cases hp
      · exact horder.accepted (hmoves.past hpast) p hp
    · rw [if_neg hopen]
      exact horder.waiting (hmoves.past hpast) (hopen ∘ hmoves.connected)
  | @cutShort st' hmoves _ =>
    exact ⟨hlasts hmoves, fun hpast => horder.accepted (hmoves.past hpast),
      fun hpast hopen => horder.waiting (hmoves.past hpast) (hopen ∘ hmoves.connected)⟩

theorem Keeps.inOrder {s s' : TransportServer F H} (h : Keeps s s') (hs : s.InOrder) :
    s'.InOrder := by
  refine ⟨h.noOrphans hs.noOrphans, fun a st pending hpeer => ?_⟩
  exact hs.peer a st pending (h.peer_of_some hpeer)

/-! ## The balance -/

section Balance

variable {s s' s'' m : TransportServer F H} {addr : SocketAddr}

/-- The number of sessions in state `Connected`. -/
def connectedSessions (s : TransportServer F H) : Nat :=
  AssocMap.countBy (fun session => decide (session.state = .connected)) s.sessions

/-- Neither counter has got to its limit. -/
structure Unsaturated (s : TransportServer F H) : Prop where
  started : s.counters.sessionsStartedTotal < 2 ^ 64 - 1
  closed : s.counters.sessionsClosedTotal < 2 ^ 64 - 1

/-- The started sessions are the closed ones and those in state `Connected`. -/
structure Balanced (s : TransportServer F H) : Prop where
  sum : s.counters.sessionsStartedTotal = s.counters.sessionsClosedTotal + s.connectedSessions
  closed_le : s.counters.sessionsClosedTotal ≤ s.counters.sessionsStartedTotal

/-- The started sessions beyond the closed and the connected ones are as many as
    before. -/
structure Conserves (s s' : TransportServer F H) : Prop where
  unsaturated : s'.Unsaturated → s.Unsaturated
  sum : s'.Unsaturated →
    s'.counters.sessionsStartedTotal + s.counters.sessionsClosedTotal + s.connectedSessions
      = s.counters.sessionsStartedTotal + s'.counters.sessionsClosedTotal + s'.connectedSessions

theorem Conserves.trans (h : Conserves s s') (h' : Conserves s' s'') : Conserves s s'' := by
  refine ⟨h.unsaturated ∘ h'.unsaturated, fun hs => ?_⟩
  have hsum := h.sum (h'.unsaturated hs)
  have hsum' := h'.sum hs
  omega

theorem SameTables.conserves (h : SameTables s s') : Conserves s s' where
  unsaturated := fun hs => ⟨h.started ▸ hs.started, h.closed ▸ hs.closed⟩
  sum := by
    intro _
    rw [h.started, h.closed, connectedSessions, connectedSessions, h.sessions]

theorem satAdd_one {n : Nat} (h : satAdd n 1 < 2 ^ 64 - 1) : satAdd n 1 = n + 1 := by
  unfold satAdd at h ⊢
  omega

/-- Whether there is a connected session. -/
def holdsConnected (session : Option (Session F H)) : Bool :=
  session.any fun session => decide (session.state = .connected)

/-- Closing takes a session off the connected ones and puts it to the closed ones. -/
theorem ClosesOne.counts (h : ClosesOne s s' addr) (hs : s'.Unsaturated) :
    s.Unsaturated ∧
      s'.counters.sessionsClosedTotal
        = s.counters.sessionsClosedTotal + (countsClosed (s.sessions.lookup addr)).toNat ∧
      s'.connectedSessions + (holdsConnected (s.sessions.lookup addr)).toNat
        = s.connectedSessions := by
  have hclosed := hs.closed
  rw [h.closed] at hclosed ⊢
  refine ⟨⟨h.started ▸ hs.started, ?_⟩, ?_, ?_⟩
  · unfold satAdd at hclosed
    split at hclosed <;> omega
  · split
    · next hcounts =>
      rw [if_pos hcounts] at hclosed
      rw [hcounts, satAdd_one hclosed]
      rfl
    · next hcounts =>
      rw [Bool.eq_false_iff.mpr hcounts]
      rfl
  · rw [connectedSessions, h.sessions]
    exact AssocMap.countBy_erase _ s.sessions addr

/-- A session that is not over is counted as closed if it is connected. -/
theorem countsClosed_of_lasts {session : Option (Session F H)}
    (h : ∀ x ∈ session, x.state.isOver = false) :
    countsClosed session = holdsConnected session := by
  cases session with
  | none => rfl
  | some x =>
    have hlasts := h x rfl
    unfold countsClosed holdsConnected
    simp only [Option.any_some]
    revert hlasts
    cases x.state <;> decide

theorem ClosesOne.conserves (h : ClosesOne s s' addr)
    (hlasts : ∀ x ∈ s.sessions.lookup addr, x.state.isOver = false) : Conserves s s' := by
  refine ⟨fun hs => (h.counts hs).1, fun hs => ?_⟩
  obtain ⟨-, hclosed, hconnected⟩ := h.counts hs
  rw [countsClosed_of_lasts hlasts] at hclosed
  rw [h.started]
  omega

/-- A session that is stored again as connected as before. -/
theorem insert_conserves {session session' : Session F H}
    (hlookup : s.sessions.lookup addr = some session)
    (hstate : session'.state = .connected ↔ session.state = .connected)
    (hsessions : s'.sessions = s.sessions.insert addr session')
    (hstarted : s'.counters.sessionsStartedTotal = s.counters.sessionsStartedTotal)
    (hclosed : s'.counters.sessionsClosedTotal = s.counters.sessionsClosedTotal) :
    Conserves s s' := by
  refine ⟨fun hs => ⟨hstarted ▸ hs.started, hclosed ▸ hs.closed⟩, fun _ => ?_⟩
  have hcount := AssocMap.countBy_insert (fun session => decide (session.state = .connected))
    s.sessions addr session'
  rw [hlookup] at hcount
  simp only [Option.any_some, hstate] at hcount
  rw [hstarted, hclosed, connectedSessions, connectedSessions, hsessions]
  omega

/-- A first request does not open a session in the place of a connected one. -/
theorem InOrder.not_connected_of_inactive (hs : s.InOrder)
    (hinactive : s.hasActiveSessionForOfflineReject addr = false)
    (hprogress : s.handshakeInProgress addr = false) :
    holdsConnected (s.sessions.lookup addr) = false := by
  unfold hasActiveSessionForOfflineReject at hinactive
  unfold handshakeInProgress at hprogress
  cases hlookup : s.sessions.lookup addr with
  | none => rfl
  | some session =>
    have horder := hs.peer addr _ _ (peer_of_lookup hlookup)
    rw [hlookup] at hinactive
    refine decide_eq_false fun hconnected => ?_
    cases hpending : s.pendingHandshakes.lookup addr with
    | none =>
      simp [hpending, hconnected] at hinactive
    | some p =>
      have haccepted := horder.accepted (by rw [hconnected]; rfl) p hpending
      simp [hpending, haccepted.stage] at hprogress

end Balance

theorem InOrder.lasts {s : TransportServer F H} (hs : s.InOrder) (addr : SocketAddr) :
    ∀ x ∈ s.sessions.lookup addr, x.state.isOver = false := fun _ hx =>
  (hs.peer addr _ _ (peer_of_lookup hx)).lasts

/-! ## Datagrams -/

section Outcome

variable {s s' m : TransportServer F H} {env : Env} {addr : SocketAddr} {session : Session F H}
  {o : ConnectedOutcome F H}

/-- What comes of a session in a call that connects cleanly. -/
structure CleanOutcome (s : TransportServer F H) (env : Env) (addr : SocketAddr)
    (session : Session F H) (o : ConnectedOutcome F H) : Prop where
  counts : session.state = .connected → shouldCountClosedSession o.loop.session.state = true
  became : o.becameConnected = true ↔
    session.state ≠ .connected ∧ o.loop.session.state = .connected
  ends : (o.loop.closeSession = true ∧ o.loop.decodeError = none ∧ o.datagrams = []) ∨
    (o.loop.illegalTransition = false ∧ session.state.Moves o.loop.session.state)
  clean : session.state ≠ .connected → shouldCountClosedSession o.loop.session.state = true →
    o.loop.decodeError = none ∧
      (sendDatagrams env s 0 (o.datagrams.map fun d => (addr, d))).1.result.isOk = true ∧
      o.loop.closeSession = false

/-- A call that is cut short leaves the session as connected as it was. -/
theorem CleanOutcome.connected_iff (h : CleanOutcome s env addr session o)
    (hopen : ¬(o.loop.closeSession = true ∧ o.loop.decodeError = none ∧ o.datagrams = []))
    (hcut : o.loop.decodeError = none →
      (sendDatagrams env s 0 (o.datagrams.map fun d => (addr, d))).1.result.isOk = false) :
    o.loop.session.state = .connected ↔ session.state = .connected := by
  constructor
  · intro hconnected
    by_contra hbefore
    obtain ⟨hnone, hsent, -⟩ := h.clean hbefore (by rw [hconnected]; rfl)
    rw [hcut hnone] at hsent
    cases hsent
  · exact (h.ends.resolve_left hopen).2.connected

/-- A session that is closed is counted if it was connected before the call. -/
theorem CleanOutcome.closed_counts (h : CleanOutcome s env addr session o)
    (hclose : o.loop.closeSession = true) :
    shouldCountClosedSession o.loop.session.state = decide (session.state = .connected) := by
  by_cases hbefore : session.state = .connected
  · rw [h.counts hbefore, hbefore]
    rfl
  · rw [decide_eq_false hbefore]
    by_contra hcounts
    have hopen := (h.clean hbefore (Bool.eq_true_of_not_eq_false hcounts)).2.2
    rw [hclose] at hopen
    cases hopen

theorem stored_connectedSessions (hlookup : s.sessions.lookup addr = some session)
    (session' : Session F H) (pipeline : SessionPipeline) :
    (s.stored addr session' pipeline).connectedSessions
        + (decide (session.state = .connected)).toNat
      = s.connectedSessions + (decide (session'.state = .connected)).toNat := by
  have hcount := AssocMap.countBy_insert (fun session => decide (session.state = .connected))
    s.sessions addr session'
  rw [hlookup] at hcount
  exact hcount

/-- A session that is stored and closed is closed, if it is counted as it was
    connected before. -/
theorem close_stored_conserves {session' : Session F H} {pipeline : SessionPipeline}
    (hlookup : s.sessions.lookup addr = some session)
    (haside : Aside (s.stored addr session' pipeline) m) (hclose : ClosesOne m s' addr)
    (hcounts : shouldCountClosedSession session'.state = decide (session.state = .connected)) :
    Conserves s s' := by
  have hstored := stored_connectedSessions hlookup session' pipeline
  have hm : m.sessions.lookup addr = some session' := by
    rw [haside.sessions]
    exact AList.lookup_insert _
  have hsame : m.connectedSessions = (s.stored addr session' pipeline).connectedSessions := by
    rw [connectedSessions, haside.sessions]
    rfl
  refine ⟨fun hs => ?_, fun hs => ?_⟩
  · obtain ⟨hunsaturated, -⟩ := hclose.counts hs
    exact ⟨haside.started ▸ hunsaturated.started, haside.closed ▸ hunsaturated.closed⟩
  · obtain ⟨-, hclosed, hconnected⟩ := hclose.counts hs
    rw [hm] at hclosed hconnected
    simp only [countsClosed, holdsConnected, Option.any_some, hcounts] at hclosed hconnected
    have hstarted := hclose.started.trans haside.started
    have hbefore : m.counters.sessionsClosedTotal = s.counters.sessionsClosedTotal := haside.closed
    rw [hstarted, hclosed, hbefore]
    change s.counters.sessionsStartedTotal + _ + _ = _
    omega

/-- The books of a call for a session: the balance is kept, and the session is
    announced and counted if the call connects it. -/
structure Accounts (s s' : TransportServer F H) (addr : SocketAddr) (session : Session F H)
    (out : TransportOut) : Prop where
  conserves : Conserves s s'
  announced : ∀ a, out.announced = some a ↔
    a = addr ∧ session.state ≠ .connected ∧ s'.isConnected addr = true
  started : s'.counters.sessionsStartedTotal =
    if out.announced.isSome then satAdd s.counters.sessionsStartedTotal 1
    else s.counters.sessionsStartedTotal

theorem isConnected_of_lookup (h : s.sessions.lookup addr = some session) :
    s.isConnected addr = decide (session.state = .connected) := by
  rw [isConnected, h]

theorem Accounts.unannounced {out : TransportOut} (hconserves : Conserves s s')
    (hnone : out.announced = none)
    (hbefore : s'.isConnected addr = true → session.state = .connected)
    (hstarted : s'.counters.sessionsStartedTotal = s.counters.sessionsStartedTotal) :
    Accounts s s' addr session out := by
  refine ⟨hconserves, fun a => ?_, ?_⟩
  · rw [hnone]
    exact iff_of_false nofun fun h => h.2.1 (hbefore h.2.2)
  · rw [hnone]
    exact hstarted

/-- A call that closes its session. -/
theorem CleanOutcome.accounts_closed {s₁ : TransportServer F H} {out : TransportOut}
    (h : CleanOutcome s env addr session o) (hlookup : s.sessions.lookup addr = some session)
    (hclose : o.loop.closeSession = true)
    (haside : Aside (s.stored addr o.loop.session o.loop.pipeline) m) (hcloses : ClosesOne m s₁ addr)
    (hsame : SameTables s₁ s') (hnone : out.announced = none) :
    Accounts s s' addr session out := by
  have hconserves := close_stored_conserves hlookup haside hcloses (h.closed_counts hclose)
  refine .unannounced (hconserves.trans hsame.conserves) hnone (fun hconnected => ?_) ?_
  · rw [isConnected, hsame.sessions, hcloses.sessions, AList.lookup_erase] at hconnected
    cases hconnected
  · exact hsame.started.trans (hcloses.started.trans haside.started)

/-- A call that gets to its end and keeps its session. -/
theorem CleanOutcome.accounts_kept {guid : Option UInt64} {frames : List ConnectedFrameDelivery}
    {receipts : ReceiptProgress} {sent : List (SocketAddr × Bytes)}
    (h : CleanOutcome s env addr session o) (hs : s.InOrder)
    (hlookup : s.sessions.lookup addr = some session) (hopen : o.loop.closeSession = false)
    (haside : Aside (s.stored addr o.loop.session o.loop.pipeline) m)
    (hguid : guid = if o.becameConnected then
      (m.pendingHandshakes.lookup addr).bind PendingHandshake.clientGuid else none)
    (hcounted : SameTables ((m.endHandshake addr).countStarted o.becameConnected) s') :
    Accounts s s' addr session
      (.received ⟨.ok (.connectedFrames addr guid frames receipts), sent⟩) := by
  have hmoves : session.state.Moves o.loop.session.state := by
    refine (h.ends.resolve_left ?_).2
    rw [hopen]
    exact fun h => nomatch h.1
  have hsessions : s'.sessions = s.sessions.insert addr o.loop.session := by
    rw [hcounted.sessions, (m.endHandshake_tables addr o.becameConnected).1, haside.sessions]
    rfl
  have hafter : s'.isConnected addr = decide (o.loop.session.state = .connected) := by
    refine isConnected_of_lookup ?_
    rw [hsessions]
    exact AList.lookup_insert _
  have hclosed : s'.counters.sessionsClosedTotal = s.counters.sessionsClosedTotal := by
    refine hcounted.closed.trans (Eq.trans ?_ haside.closed)
    unfold endHandshake
    cases o.becameConnected <;> cases m.isConnected addr <;> rfl
  have hstarted : s'.counters.sessionsStartedTotal =
      if o.becameConnected then satAdd s.counters.sessionsStartedTotal 1
      else s.counters.sessionsStartedTotal := by
    have hbefore : m.counters.sessionsStartedTotal = s.counters.sessionsStartedTotal :=
      haside.started
    rw [hcounted.started, ← hbefore]
    unfold endHandshake
    cases o.becameConnected <;> cases m.isConnected addr <;> rfl
  cases hbecame : o.becameConnected with
  | false =>
    rw [hbecame] at hguid hstarted
    have hstate : o.loop.session.state = .connected ↔ session.state = .connected := by
      refine ⟨fun hconnected => ?_, hmoves.connected⟩
      by_contra hbefore
      rw [h.became.mpr ⟨hbefore, hconnected⟩] at hbecame
      cases hbecame
    subst hguid
    refine .unannounced (insert_conserves hlookup hstate hsessions hstarted hclosed) rfl ?_ hstarted
    rw [hafter, decide_eq_true_iff]
    exact hstate.mp
  | true =>
    rw [hbecame] at hguid hstarted
    obtain ⟨hbefore, hconnected⟩ := h.became.mp hbecame
    -- the handshake of the session is there, and it carries the GUID of the client
    have horder := hs.peer addr _ _ (peer_of_lookup hlookup)
    have hpast := hmoves.past (by rw [hconnected]; rfl)
    obtain ⟨p, hp⟩ := Option.isSome_iff_exists.mp (horder.waiting hpast hbefore)
    obtain ⟨g, hg⟩ := Option.isSome_iff_exists.mp (horder.accepted hpast p hp).guid
    have hpending : m.pendingHandshakes.lookup addr = some p := by
      rw [haside.pending]
      exact hp
    rw [if_pos rfl, hpending, Option.bind_some, hg] at hguid
    subst hguid
    refine ⟨⟨fun hs' => ?_, fun hs' => ?_⟩, fun a => ?_, hstarted⟩
    · have hlimit := hs'.started
      rw [hstarted, if_pos rfl] at hlimit
      refine ⟨?_, hclosed ▸ hs'.closed⟩
      unfold satAdd at hlimit
      omega
    · have hlimit := hs'.started
      rw [hstarted, if_pos rfl] at hlimit
      have hcount := AssocMap.countBy_insert (fun session => decide (session.state = .connected))
        s.sessions addr o.loop.session
      rw [hlookup] at hcount
      simp only [Option.any_some, hconnected, hbefore, decide_true, decide_false,
        Bool.toNat_true, Bool.toNat_false] at hcount
      rw [hstarted, if_pos rfl, satAdd_one hlimit, hclosed, connectedSessions, connectedSessions,
        hsessions]
      omega
    · rw [hafter, decide_eq_true_iff]
      constructor
      · rintro ⟨⟩
        exact ⟨rfl, hbefore, hconnected⟩
      · rintro ⟨rfl, -, -⟩
        rfl

theorem isConnected_congr {a : SocketAddr} (h : s'.peer a = s.peer a) :
    s'.isConnected a = s.isConnected a := by
  rw [Bool.eq_iff_iff, isConnected_iff, isConnected_iff, h]

theorem Keeps.isConnected (h : Keeps s s') {a : SocketAddr} (ha : s'.isConnected a = true) :
    s.isConnected a = true := by
  rcases h.peer a with hkept | hclosed
  · rwa [← isConnected_congr hkept]
  · rw [isConnected_iff, hclosed] at ha
    cases ha

/-- The books of an operation. -/
structure StepAccounts (s s' : TransportServer F H) (out : TransportOut) : Prop where
  conserves : Conserves s s'
  announced : ∀ a, out.announced = some a ↔ s.isConnected a = false ∧ s'.isConnected a = true
  started : s'.counters.sessionsStartedTotal =
    if out.announced.isSome then satAdd s.counters.sessionsStartedTotal 1
    else s.counters.sessionsStartedTotal

/-- An operation that announces nothing. -/
theorem StepAccounts.unannounced {out : TransportOut} (hconserves : Conserves s s')
    (hnone : out.announced = none) (hbefore : ∀ a, s'.isConnected a = true → s.isConnected a = true)
    (hstarted : s'.counters.sessionsStartedTotal = s.counters.sessionsStartedTotal) :
    StepAccounts s s' out := by
  refine ⟨hconserves, fun a => ?_, ?_⟩
  · rw [hnone]
    refine iff_of_false nofun fun h => ?_
    rw [hbefore a h.2] at h
    cases h.1
  · rw [hnone]
    exact hstarted

end Outcome

/-! ## Steps -/

variable [F64 F] [MinHeap H QueuedFrame QueuedFrame.weight]

theorem inOrder_step {s : TransportServer F H} (hs : s.InOrder) (op : TransportOp) :
    (s.step op).1.InOrder := by
  refine ⟨noOrphans_step hs.noOrphans op, fun a st' pending' hpeer => ?_⟩
  have hstep := step_peer hs.noOrphans op a
  rw [hpeer] at hstep
  generalize hv : (some st', pending') = v at hstep
  cases hstep with
  | kept => exact hs.peer a st' pending' hv.symm
  | closed => cases hv
  | opened _ =>
    cases hv
    exact ⟨rfl, nofun, nofun⟩
  | accepted _ haccepted _ =>
    cases hv
    refine ⟨rfl, fun _ p hp => ?_, fun _ _ => rfl⟩
    cases hp
    exact haccepted
  | received hbefore hchange =>
    exact hchange.inOrder (hs.peer a _ _ hbefore) st' pending' hv.symm

theorem Upkeep.conserves {s s' : TransportServer F H} (h : Upkeep s s') (hs : s.InOrder) :
    Conserves s s' := by
  induction h with
  | refl => exact (Aside.refl s).conserves
  | same _ hsame ih => exact ih.trans hsame.conserves
  | close hbefore hclose ih =>
    exact ih.trans (hclose.conserves ((hbefore.keeps.inOrder hs).lasts _))
  | serve _ hlookup hserves ih =>
    exact ih.trans (insert_conserves hlookup (by rw [hserves.state]) rfl rfl rfl)

theorem OfflineEffect.conserves {s : TransportServer F H} {env : Env} {addr : SocketAddr}
    {packet : OfflinePacket} {r : OfflineResult F H} (h : OfflineEffect s env addr packet r)
    (hs : s.InOrder) : Conserves s r.server := by
  cases h with
  | aside _ haside => exact haside.conserves
  | closed _ hclosed => exact hclosed.conserves (hs.lasts addr)
  | @opened m req1 haside _ hinactive hprogress _ =>
    rw [openSession_eq]
    refine haside.conserves.trans ⟨fun hm => ⟨hm.started, hm.closed⟩, fun _ => ?_⟩
    -- the session that is removed is not connected, and neither is the new one
    have hopen := (haside.closes.keeps.inOrder hs).not_connected_of_inactive hinactive hprogress
    have herase := AssocMap.countBy_erase (fun session => decide (session.state = .connected))
      m.sessions addr
    have hinsert := AssocMap.countBy_insert (fun session => decide (session.state = .connected))
      (m.sessions.erase addr) addr (m.openedSession env (m.negotiateMtu req1.mtu))
    rw [holdsConnected] at hopen
    rw [hopen] at herase
    rw [AList.lookup_erase] at hinsert
    have hnew : decide ((m.openedSession env (m.negotiateMtu req1.mtu)).state = .connected)
        = false := rfl
    rw [hnew] at hinsert
    have hcount : AssocMap.countBy (fun session => decide (session.state = .connected))
        (AList.insert addr (m.openedSession env (m.negotiateMtu req1.mtu))
          (AList.erase addr m.sessions))
        = AssocMap.countBy (fun session => decide (session.state = .connected)) m.sessions :=
      hinsert.trans herase
    dsimp only [connectedSessions]
    rw [hcount]
  | @accepted m req2 pending session haside _ hpending hlookup _ _ _ hstate =>
    rw [acceptRequest2_eq hlookup hstate]
    have hopen : session.state ≠ .connected := by
      intro h
      rw [h] at hstate
      cases hstate
    refine haside.conserves.trans (insert_conserves hlookup ?_ rfl rfl rfl)
    exact iff_of_false SessionState.noConfusion hopen
  | @retried m req2 pending session haside _ hpending hlookup _ hstate =>
    rw [retryRequest2_eq hlookup hstate]
    refine haside.conserves.trans (insert_conserves hlookup ?_ rfl rfl rfl)
    exact Iff.rfl

/-- If the datagram makes its session `Connected`, its call gets to its end and
    does not close the session. A session that is over has been connected. -/
def connectsDatagramCleanly (s : TransportServer F H) (env : Env) (addr : SocketAddr)
    (datagram : Datagram) : Bool :=
  match ((s.sessionEntry env addr).touchActivity env.now).ingestDatagram datagram env.now with
  | (.error _, _) => true
  | (.ok frames, released) =>
    let o := s.outcomeOver env addr released frames
    if released.state ≠ .connected ∧ shouldCountClosedSession o.loop.session.state = true then
      o.loop.decodeError.isNone &&
        (sendDatagrams env s 0 (o.datagrams.map fun d => (addr, d))).1.result.isOk &&
        !o.loop.closeSession
    else true

/-- A call that makes a session `Connected` gets to its end and does not close it. -/
def connectsCleanly (s : TransportServer F H) (op : TransportOp) : Bool :=
  match s.admittedBy op with
  | some (env, addr, datagram, m) => m.connectsDatagramCleanly env addr datagram
  | none => true

omit [F64 F] [MinHeap H QueuedFrame QueuedFrame.weight] in
theorem counts_of_canTransitionTo {st next : SessionState}
    (hcounts : shouldCountClosedSession st = true) (h : st.canTransitionTo next = true) :
    shouldCountClosedSession next = true := by
  revert hcounts h
  cases st <;> cases next <;> decide

theorem step_running_counts {session : Session F H} {op : SessionOp} (h : op.isRunning = true)
    (hcounts : shouldCountClosedSession session.state = true) :
    shouldCountClosedSession (session.step op).1.state = true := by
  rcases SessionOp.isRunning_iff.mp h with hservice | ⟨next, rfl⟩
  · rw [Session.step_service_state hservice]
    exact hcounts
  · simp only [Session.step, Session.transitionTo]
    split
    · next hmove => exact counts_of_canTransitionTo hcounts hmove
    · exact hcounts

/-- A session that was connected stays one that is counted when it is closed. -/
theorem runs_counts {session session' : Session F H} (h : session.Runs session')
    (hcounts : shouldCountClosedSession session.state = true) :
    shouldCountClosedSession session'.state = true :=
  h.invariant (P := fun session => shouldCountClosedSession session.state = true)
    (fun _ _ => step_running_counts) hcounts

variable {s s' m : TransportServer F H} {env : Env} {addr : SocketAddr} {datagram : Datagram}
  {session : Session F H} {o : ConnectedOutcome F H}

theorem cleanOutcome {frames : List Frame} {released : Session F H}
    (hlookup : s.sessions.lookup addr = some session)
    (hreleases : s.Releases env addr datagram frames released)
    (ho : o = s.outcomeOver env addr released frames)
    (hclean : s.connectsDatagramCleanly env addr datagram = true) :
    CleanOutcome s env addr session o := by
  have hstate := hreleases.state hlookup
  have hruns := s.outcomeOver_runs env addr released frames
  have hbecame := s.outcomeOver_becameConnected env addr released frames
  have hends := outcomeOver_done s env addr released frames ho
  rw [connectsDatagramCleanly, hreleases] at hclean
  dsimp only at hclean
  rw [← ho] at hruns hbecame hclean
  rw [hstate] at hbecame hends hclean
  refine ⟨fun hconnected => ?_, hbecame, hends, fun hopen hcounts => ?_⟩
  · refine runs_counts hruns ?_
    rw [hstate, hconnected]
    rfl
  · rw [if_pos ⟨hopen, hcounts⟩] at hclean
    simpa [and_assoc] using hclean

theorem exec_inOrder {s₀ : TransportServer F H} (h₀ : s₀.InOrder) (ops : List TransportOp) :
    ((transportMachine F H).exec s₀ ops).InOrder :=
  (transportMachine F H).run_invariant (P := fun _ _ s => s.InOrder) h₀
    (fun _ _ _ op hs => inOrder_step hs op) ops

theorem DatagramOutcome.accounts {r : CallResult TransportEvent}
    (h : DatagramOutcome s env addr datagram (r, s')) (hs : s.InOrder)
    (hlookup : s.sessions.lookup addr = some session)
    (hclean : s.connectsDatagramCleanly env addr datagram = true) :
    Accounts s s' addr session (.received r) := by
  -- a session that is stored as connected as it was
  have hstored : ∀ (session' : Session F H) (pipeline : SessionPipeline)
      (m : TransportServer F H) (out : TransportOut),
      (session'.state = .connected ↔ session.state = .connected) →
      SameTables (s.stored addr session' pipeline) m → out.announced = none →
      Accounts s m addr session out := by
    intro session' pipeline m out hstate hsame hnone
    have hconserves : Conserves s (s.stored addr session' pipeline) :=
      insert_conserves hlookup hstate rfl rfl rfl
    refine .unannounced (hconserves.trans hsame.conserves) hnone (fun hconnected => ?_)
      hsame.started
    have hm : m.sessions.lookup addr = some session' := by
      rw [hsame.sessions]
      exact AList.lookup_insert _
    rw [isConnected_of_lookup hm, decide_eq_true_iff] at hconnected
    exact hstate.mp hconnected
  cases h with
  | @refused e session' hingest =>
    exact hstored session' _ _ _ (by rw [ingestConnected_refused hingest hlookup])
      (Aside.refl _).toSameTables rfl
  | @malformed frames released o fault hreleases ho hdecode =>
    have houtcome := cleanOutcome hlookup hreleases ho hclean
    refine hstored _ _ _ _ (houtcome.connected_iff ?_ ?_) (Aside.refl _).toSameTables rfl
    · rw [hdecode]
      exact fun h => nomatch h.2.1
    · rw [hdecode]
      exact nofun
  | @unsent frames released o e sent _ hreleases ho hdecode hsend haside =>
    have houtcome := cleanOutcome hlookup hreleases ho hclean
    refine hstored _ _ _ _ (houtcome.connected_iff ?_ ?_) haside.toSameTables rfl
    · rintro ⟨-, -, hempty⟩
      rw [hempty] at hsend
      cases hsend
    · intro _
      rw [hsend]
      rfl
  | @finished frames released o sent event m _ hreleases ho hdecode hsend haside hfinish =>
    have houtcome := cleanOutcome hlookup hreleases ho hclean
    cases hfinish with
    | disconnected hclose _ hcloses =>
      exact houtcome.accounts_closed hlookup hclose haside hcloses (Aside.refl _).toSameTables rfl
    | @closed m₁ _ guid hclose _ hcloses hguid hcounted =>
      subst hguid
      have hnot : o.becameConnected = false := by
        by_contra hbecame
        obtain ⟨hbefore, hafter⟩ := houtcome.became.mp (Bool.eq_true_of_not_eq_false hbecame)
        have hopen := (houtcome.clean hbefore (by rw [hafter]; rfl)).2.2
        rw [hclose] at hopen
        cases hopen
      rw [hnot] at hcounted
      exact houtcome.accounts_closed hlookup hclose haside hcloses hcounted rfl
    | @kept _ guid hopen hguid hcounted =>
      exact houtcome.accounts_kept hs hlookup hopen haside hguid hcounted

theorem Upkeep.started (h : Upkeep s s') :
    s'.counters.sessionsStartedTotal = s.counters.sessionsStartedTotal := by
  induction h with
  | refl => rfl
  | same _ hsame ih => exact hsame.started.trans ih
  | close _ hclose ih => exact hclose.started.trans ih
  | serve _ _ _ ih => exact ih

theorem OfflineEffect.started {packet : OfflinePacket} {r : OfflineResult F H}
    (h : OfflineEffect s env addr packet r) :
    r.server.counters.sessionsStartedTotal = s.counters.sessionsStartedTotal := by
  cases h with
  | aside _ haside => exact haside.started
  | closed _ hclosed => exact hclosed.started
  | opened haside _ _ _ _ =>
    rw [openSession_eq]
    exact haside.started
  | accepted haside _ _ hlookup _ _ _ hstate =>
    rw [acceptRequest2_eq hlookup hstate]
    exact haside.started
  | retried haside _ _ hlookup _ hstate =>
    rw [retryRequest2_eq hlookup hstate]
    exact haside.started

/-- An offline packet connects nothing. -/
theorem OfflineEffect.isConnected {packet : OfflinePacket} {r : OfflineResult F H}
    {a : SocketAddr} (h : OfflineEffect s env addr packet r)
    (ha : r.server.isConnected a = true) : s.isConnected a = true := by
  obtain ⟨v, hsets, hchange⟩ := h.change
  rw [isConnected_iff, hsets.peer] at ha
  rw [isConnected_iff]
  split at ha
  · next heq =>
    subst heq
    cases hchange with
    | kept _ => exact ha
    | closed _ => cases ha
    | opened _ => cases ha
    | accepted _ _ _ _ _ => cases ha
  · exact ha

theorem stepAccounts (hs : s.InOrder) {op : TransportOp} (hclean : s.connectsCleanly op = true) :
    StepAccounts s (s.step op).1 (s.step op).2 := by
  have hstep := step_inv hs.noOrphans op
  generalize s.step op = r at hstep ⊢
  cases hstep with
  | upkeep _ h hout =>
    exact .unannounced (h.conserves hs) hout.announced (fun _ => h.keeps.isConnected) h.started
  | offline _ htriage heffect haside hout =>
    have hupkeep : Upkeep s _ := upkeep_of_triage htriage
    have hconserves := (hupkeep.conserves hs).trans
      (heffect.conserves (hupkeep.keeps.inOrder hs))
    refine .unannounced (hconserves.trans haside.conserves) hout.announced (fun a ha => ?_) ?_
    · rw [isConnected_congr (haside.peer a)] at ha
      exact hupkeep.keeps.isConnected (heffect.isConnected ha)
    · exact haside.started.trans (heffect.started.trans hupkeep.started)
  | @datagram env bytes observedAddr addr datagram m s' r hop hadmitted houtcome =>
    subst hop
    have hupkeep := upkeep_of_admitted hadmitted
    obtain ⟨session, hlookup⟩ := lookup_of_admitted hadmitted
    rw [connectsCleanly, admittedBy, hadmitted] at hclean
    have haccounts := houtcome.accounts (hupkeep.keeps.inOrder hs) hlookup hclean
    refine ⟨(hupkeep.conserves hs).trans haccounts.conserves, fun a => ?_, ?_⟩
    · rw [haccounts.announced]
      by_cases ha : a = addr
      · subst ha
        have hpeer : s.peer a = m.peer a := by
          rw [peer_of_lookup hlookup]
          exact hupkeep.keeps.peer_of_some (peer_of_lookup hlookup)
        rw [isConnected_congr hpeer, isConnected_of_lookup hlookup, decide_eq_false_iff_not]
        exact and_iff_right rfl
      · have hsame := houtcome.sameAt ha
        refine iff_of_false (fun h => ha h.1) fun h => ?_
        have hm : m.isConnected a = true := by
          rw [isConnected, ← hsame.session]
          exact h.2
        rw [hupkeep.keeps.isConnected hm] at h
        cases h.1
    · rw [haccounts.started, hupkeep.started]

/-! ## Runs -/

/-- Along a run whose calls connect cleanly, while no counter is at its limit, the
    started sessions are the closed and the connected ones. Each operation
    announces exactly the session that it connects, and counts it. -/
theorem counters_consistent (config : TransportConfig F) (socketAddr : Option SocketAddr)
    (hmacSha256 : CookieKey → Bytes → Octets 32) (key : CookieKey) (now : Instant)
    (ops : List TransportOp)
    (hclean : (transportMachine F H).AllSteps (fun s op => s.connectsCleanly op = true)
      (withSocket config socketAddr hmacSha256 key now) ops) :
    let s₀ : TransportServer F H := withSocket config socketAddr hmacSha256 key now
    let s := (transportMachine F H).exec s₀ ops
    (s.Unsaturated → s.Balanced) ∧
    ∀ pre op post, ops = pre ++ op :: post →
      let before := (transportMachine F H).exec s₀ pre
      (∀ a, (before.step op).2.announced = some a ↔
        before.isConnected a = false ∧ (before.step op).1.isConnected a = true) ∧
      (before.step op).1.counters.sessionsStartedTotal =
        if (before.step op).2.announced.isSome then
          satAdd before.counters.sessionsStartedTotal 1
        else before.counters.sessionsStartedTotal := by
  intro s₀ s
  have h₀ : s₀.InOrder := ⟨fun _ _ => rfl, nofun⟩
  refine ⟨fun hs => ?_, fun pre op post hops => ?_⟩
  · have hconserves := ((transportMachine F H).run_invariant_of_steps
      (P := fun _ _ s => s.InOrder ∧ Conserves s₀ s) ⟨h₀, (Aside.refl s₀).conserves⟩
      (fun _ _ _ op hs hop => ⟨inOrder_step hs.1 op, hs.2.trans (stepAccounts hs.1 hop).conserves⟩)
      ops hclean).2
    have hsum : s.counters.sessionsStartedTotal + 0 + 0
        = 0 + s.counters.sessionsClosedTotal + s.connectedSessions := hconserves.sum hs
    constructor <;> omega
  · subst hops
    obtain ⟨-, hop, -⟩ := ((transportMachine F H).allSteps_append _ s₀ pre (op :: post)).mp hclean
    have haccounts := stepAccounts (exec_inOrder h₀ pre) hop
    exact ⟨haccounts.announced, haccounts.started⟩

/-- A datagram with the last packet of the handshake and what stands behind it. -/
def connectingRun (behind : List Bytes) : List TransportOp :=
  handshakeRun ++ [fromClient 4 (dataBytes 1 1 (newIncomingConnection :: behind))]

/-- If a frame behind the last packet of the handshake does not decode, the
    connected session is not counted; if it is a disconnection notification, the
    session is counted as closed only. -/
theorem connection_not_counted :
    (let s := concreteTransport.exec keyedServer (connectingRun [[0x00]])
     s.isConnected clientAddr = true ∧ s.connectedSessions = 1 ∧
      s.counters.sessionsStartedTotal = 0 ∧ s.counters.sessionsClosedTotal = 0) ∧
    (let s := concreteTransport.exec keyedServer (connectingRun [[0x15]])
     s.connectedSessions = 0 ∧
      s.counters.sessionsStartedTotal = 0 ∧ s.counters.sessionsClosedTotal = 1) := by
  refine ⟨⟨?_, ?_, ?_, ?_⟩, ?_, ?_, ?_⟩ <;> decide +kernel

/-- The server behind a whole handshake. -/
def connectedServer : TransportServer ℚ (SortedHeap QueuedFrame QueuedFrame.weight) :=
  concreteTransport.exec keyedServer (connectingRun [])

theorem counters_consistent_handshake : connectedServer.Balanced := by
  have hunsaturated : connectedServer.Unsaturated := ⟨by decide +kernel, by decide +kernel⟩
  have h := counters_consistent (H := SortedHeap QueuedFrame QueuedFrame.weight)
    (.standard : TransportConfig ℚ) none (fun key _ => key) firstKey 0
    (connectingRun []) (by decide +kernel)
  exact h.1 hunsaturated

end TransportServer

end Raknet
