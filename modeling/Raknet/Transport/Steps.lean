-- SUMMARY: All that one operation of the server can do to its tables and tell of its sessions.
import Raknet.Transport.DatagramChange

/-!
# Steps

`step_inv` is the inversion of a step: every operation is upkeep of the tables,
and a packet may then be an offline packet of the handshake or a datagram for the
session of its address. Only the datagram is told as an event of a session.
-/

namespace Raknet

/-- What is told of a call is not about a session. -/
def CallResult.TellsAside (r : CallResult TransportEvent) : Prop :=
  ∀ event, r.result = .ok event → event.isAside = true

/-- What an operation tells is not about a session. -/
def TransportOut.TellsAside : TransportOut → Prop
  | .received r => r.TellsAside
  | _ => True

theorem CallResult.tellsAside_ok {event : TransportEvent} {sent : List (SocketAddr × Bytes)}
    (h : event.isAside = true) : CallResult.TellsAside ⟨.ok event, sent⟩ := by
  rintro _ ⟨⟩
  exact h

/-- A packet that is to be sent may fail the call, and tells nothing else. -/
theorem CallResult.tellsAside_map {event : TransportEvent} {r : CallResult Unit}
    (h : event.isAside = true) : CallResult.TellsAside ⟨r.result.map fun _ => event, r.sent⟩ := by
  intro event' hevent
  cases hresult : r.result with
  | error e =>
    rw [hresult] at hevent
    cases hevent
  | ok _ =>
    rw [hresult] at hevent
    cases hevent
    exact h

variable {F H : Type}

namespace TransportServer

/-! ## Admission -/

def Admission.server : Admission F H → TransportServer F H
  | .answered _ s | .offline _ _ s | .connected _ _ s => s

/-- A packet that is not handed on tells nothing of a session. -/
def Admission.TellsAside : Admission F H → Prop
  | .answered r _ => r.TellsAside
  | _ => True

theorem decodePacket_server (s : TransportServer F H) (addr : SocketAddr) (isOffline : Bool)
    (bytes : Bytes) : (s.decodePacket addr isOffline bytes).server = s := by
  unfold decodePacket
  split <;> split <;> rfl

theorem decodePacket_tellsAside (s : TransportServer F H) (addr : SocketAddr) (isOffline : Bool)
    (bytes : Bytes) : (s.decodePacket addr isOffline bytes).TellsAside := by
  unfold decodePacket
  split
  all_goals
    split
    · trivial
    · exact CallResult.tellsAside_ok rfl

/-- There is no handshake without a session. -/
def NoOrphans (s : TransportServer F H) : Prop :=
  ∀ a, (s.peer a).1 = none → (s.peer a).2 = none

theorem Keeps.noOrphans {s s' : TransportServer F H} (h : Keeps s s') (hs : s.NoOrphans) :
    s'.NoOrphans := by
  intro a hnone
  rcases h.peer a with hkept | hclosed
  · rw [hkept] at hnone ⊢
    exact hs a hnone
  · rw [hclosed]

variable [F64 F] [MinHeap H QueuedFrame QueuedFrame.weight]

/-- All that happens in front of the handlers is upkeep. -/
theorem triage_upkeep (s : TransportServer F H) (env : Env) (bytes : Bytes)
    (observedAddr : SocketAddr) :
    Upkeep s (s.triage env bytes observedAddr).server ∧
      (s.triage env bytes observedAddr).TellsAside := by
  unfold triage
  have hroute := s.routeInboundAddr_aside observedAddr
  generalize s.routeInboundAddr observedAddr = q at hroute ⊢
  obtain ⟨route, s₁⟩ := q
  cases route with
  | none => exact ⟨hroute.upkeep, CallResult.tellsAside_ok rfl⟩
  | some addr =>
    dsimp only at hroute ⊢
    have hprepared := hroute.upkeep.trans (s₁.prepare_upkeep env addr)
    cases bytes.head? with
    | none => exact ⟨hprepared, CallResult.tellsAside_ok rfl⟩
    | some first =>
      dsimp only
      generalize (s₁.prepare env addr).rateLimiter.check addr.ip env.now = q
      obtain ⟨decision, rateLimiter⟩ := q
      have hlimited := hprepared.trans (Aside.limit _ rateLimiter).upkeep
      cases decision with
      | allow =>
        refine ⟨?_, decodePacket_tellsAside _ addr _ bytes⟩
        dsimp only
        rw [decodePacket_server]
        exact hlimited
      | globalLimit => exact ⟨hlimited, CallResult.tellsAside_ok rfl⟩
      | ipBlocked newlyBlocked _ =>
        dsimp only
        split
        · exact ⟨hlimited.trans (send_aside _ env 0 addr _).upkeep,
            CallResult.tellsAside_map rfl⟩
        · exact ⟨hlimited, CallResult.tellsAside_ok rfl⟩

theorem upkeep_of_triage {s : TransportServer F H} {env : Env} {bytes : Bytes}
    {observedAddr : SocketAddr} {admission : Admission F H}
    (h : s.triage env bytes observedAddr = admission) : Upkeep s admission.server :=
  h ▸ (s.triage_upkeep env bytes observedAddr).1

/-- A packet that gets to the session of its address as a datagram: the address,
    the datagram and the server it meets. -/
def admitted (s : TransportServer F H) (env : Env) (bytes : Bytes) (observedAddr : SocketAddr) :
    Option (SocketAddr × Datagram × TransportServer F H) :=
  match s.triage env bytes observedAddr with
  | .connected addr datagram m =>
    if m.reachesSession env addr datagram bytes.length then
      some (addr, datagram,
        if datagram.payload.kind = .data ∧ m.rateLimiter.isException addr.ip = false then
          { m with
            rateLimiter := (m.rateLimiter.consumeProcessingBudget addr.ip
              (estimateConnectedDatagramProcessingCost bytes.length datagram) env.now).2 }
        else m)
    else none
  | _ => none

/-- The datagram that an operation gets to the session of its address. -/
def admittedBy (s : TransportServer F H) :
    TransportOp → Option (Env × SocketAddr × Datagram × TransportServer F H)
  | .recvAndProcess env bytes observedAddr => (s.admitted env bytes observedAddr).map (env, ·)
  | _ => none

/-- A datagram that gets to its session is processed there. -/
theorem processConnected_of_reaches {s : TransportServer F H} {env : Env} {addr : SocketAddr}
    {datagram : Datagram} {len : Nat} (h : s.reachesSession env addr datagram len = true) :
    s.processConnected env addr datagram len =
      (if datagram.payload.kind = .data ∧ s.rateLimiter.isException addr.ip = false then
          ({ s with
            rateLimiter := (s.rateLimiter.consumeProcessingBudget addr.ip
              (estimateConnectedDatagramProcessingCost len datagram) env.now).2 } :
            TransportServer F H)
        else s).processDatagram env addr datagram := by
  unfold reachesSession at h
  rw [Bool.and_eq_true, Option.isSome_iff_exists] at h
  obtain ⟨⟨session, hlookup⟩, hbudget⟩ := h
  unfold processConnected
  rw [hlookup]
  simp only [Option.isNone_some, Bool.false_and, Bool.false_eq_true, if_false]
  by_cases hdata : datagram.payload.kind = .data ∧ s.rateLimiter.isException addr.ip = false
  · rw [if_pos hdata] at hbudget ⊢
    rw [if_pos hdata]
    generalize s.rateLimiter.consumeProcessingBudget addr.ip
      (estimateConnectedDatagramProcessingCost len datagram) env.now = q at hbudget ⊢
    obtain ⟨decision, rateLimiter⟩ := q
    obtain rfl : decision = .allow := of_decide_eq_true hbudget
    rfl
  · rw [if_neg hdata, if_neg hdata]

theorem recvAndProcess_of_admitted {s m : TransportServer F H} {env : Env} {bytes : Bytes}
    {observedAddr addr : SocketAddr} {datagram : Datagram}
    (h : s.admitted env bytes observedAddr = some (addr, datagram, m)) :
    s.recvAndProcess env bytes observedAddr = m.processDatagram env addr datagram := by
  unfold admitted at h
  unfold recvAndProcess
  split at h
  · next addr' datagram' m' htriage =>
    split at h
    · next hreaches =>
      obtain ⟨rfl, rfl, rfl⟩ : addr' = addr ∧ datagram' = datagram ∧ _ = m := by
        simpa using h
      rw [htriage]
      exact processConnected_of_reaches hreaches
    · cases h
  · cases h

theorem upkeep_of_admitted {s m : TransportServer F H} {env : Env} {bytes : Bytes}
    {observedAddr addr : SocketAddr} {datagram : Datagram}
    (h : s.admitted env bytes observedAddr = some (addr, datagram, m)) : Upkeep s m := by
  unfold admitted at h
  split at h
  · next addr' datagram' m' htriage =>
    have hkept : Upkeep s m' := upkeep_of_triage htriage
    split at h
    · obtain ⟨-, -, rfl⟩ : addr' = addr ∧ datagram' = datagram ∧ _ = m := by simpa using h
      split
      · exact hkept.trans (Aside.limit m' _).upkeep
      · exact hkept
    · cases h
  · cases h

omit [MinHeap H QueuedFrame QueuedFrame.weight] in
/-- The session that an admitted datagram meets. -/
theorem lookup_of_admitted {s m : TransportServer F H} {env : Env} {bytes : Bytes}
    {observedAddr addr : SocketAddr} {datagram : Datagram}
    (h : s.admitted env bytes observedAddr = some (addr, datagram, m)) :
    ∃ session, m.sessions.lookup addr = some session := by
  unfold admitted at h
  split at h
  · next addr' datagram' m' htriage =>
    split at h
    · next hreaches =>
      obtain ⟨rfl, rfl, rfl⟩ : addr' = addr ∧ datagram' = datagram ∧ _ = m := by simpa using h
      rw [reachesSession, Bool.and_eq_true, Option.isSome_iff_exists] at hreaches
      obtain ⟨session, hlookup⟩ := hreaches.1
      refine ⟨session, ?_⟩
      split <;> exact hlookup
    · cases h
  · cases h

/-! ## Steps -/

/-- What an operation can do to the server and tell. -/
inductive TransportStep (s : TransportServer F H) (op : TransportOp) :
    TransportServer F H × TransportOut → Prop
  | upkeep {s' : TransportServer F H} {out : TransportOut} (hnone : s.admittedBy op = none)
      (h : Upkeep s s') (hout : out.TellsAside) : TransportStep s op (s', out)
  | offline {env : Env} {bytes : Bytes} {observedAddr addr : SocketAddr} {packet : OfflinePacket}
      {m s' : TransportServer F H} {out : TransportOut}
      (hop : op = .recvAndProcess env bytes observedAddr)
      (htriage : s.triage env bytes observedAddr = .offline addr packet m)
      (heffect : OfflineEffect m env addr packet (m.handleOfflinePacket env addr packet))
      (haside : Aside (m.handleOfflinePacket env addr packet).server s') (hout : out.TellsAside) :
      TransportStep s op (s', out)
  | datagram {env : Env} {bytes : Bytes} {observedAddr addr : SocketAddr} {datagram : Datagram}
      {m s' : TransportServer F H} {r : CallResult TransportEvent}
      (hop : op = .recvAndProcess env bytes observedAddr)
      (hadmitted : s.admitted env bytes observedAddr = some (addr, datagram, m))
      (houtcome : DatagramOutcome m env addr datagram (r, s')) :
      TransportStep s op (s', .received r)

theorem OfflineEffect.event {s : TransportServer F H} {env : Env} {addr : SocketAddr}
    {packet : OfflinePacket} {r : OfflineResult F H} (h : OfflineEffect s env addr packet r) :
    ∀ event ∈ r.event, event.isAside = true := by
  cases h with
  | aside hopens _ | closed hopens _ => exact hopens.event
  | opened => exact nofun
  | accepted _ _ _ hlookup _ _ _ hstate =>
    rw [acceptRequest2_eq hlookup hstate]
    exact nofun
  | retried _ _ _ hlookup _ hstate =>
    rw [retryRequest2_eq hlookup hstate]
    exact nofun

theorem processOffline_step {s m : TransportServer F H} {env : Env} {bytes : Bytes}
    {observedAddr addr : SocketAddr} {packet : OfflinePacket}
    (htriage : s.triage env bytes observedAddr = .offline addr packet m) :
    TransportStep s (.recvAndProcess env bytes observedAddr)
      ((m.processOffline env addr packet).2, .received (m.processOffline env addr packet).1) := by
  have heffect := m.handleOfflinePacket_effect env addr packet
  have hevent : ((m.handleOfflinePacket env addr packet).event.getD
      (.offlinePacket addr packet)).isAside = true := by
    cases h : (m.handleOfflinePacket env addr packet).event with
    | none => rfl
    | some event => exact heffect.event event h
  unfold processOffline
  dsimp only
  cases hreply : (m.handleOfflinePacket env addr packet).reply with
  | none => exact .offline rfl htriage heffect (.refl _) (CallResult.tellsAside_ok hevent)
  | some reply =>
    exact .offline rfl htriage heffect (send_aside _ env 0 addr _)
      (CallResult.tellsAside_map hevent)

/-- A datagram gets to the session of its address or leaves the tables alone. The
    branch that would make a session is not taken. -/
theorem processConnected_step {s m : TransportServer F H} (hs : s.NoOrphans) {env : Env}
    {bytes : Bytes} {observedAddr addr : SocketAddr} {datagram : Datagram}
    (htriage : s.triage env bytes observedAddr = .connected addr datagram m) :
    TransportStep s (.recvAndProcess env bytes observedAddr)
      ((m.processConnected env addr datagram bytes.length).2,
        .received (m.processConnected env addr datagram bytes.length).1) := by
  have hkept : Upkeep s m := upkeep_of_triage htriage
  by_cases hreaches : m.reachesSession env addr datagram bytes.length = true
  · rw [processConnected_of_reaches hreaches]
    refine .datagram rfl ?_ (processDatagram_outcome _ env addr datagram)
    rw [admitted, htriage]
    exact if_pos hreaches
  · have hnone : s.admittedBy (.recvAndProcess env bytes observedAddr) = none := by
      rw [admittedBy, admitted, htriage]
      simp only [hreaches, Bool.false_eq_true, if_false, Option.map_none]
    unfold processConnected
    unfold reachesSession at hreaches
    cases hlookup : m.sessions.lookup addr with
    | none =>
      have hpending : m.pendingHandshakes.lookup addr = none := by
        refine hkept.keeps.noOrphans hs addr ?_
        rw [peer, peerOf, hlookup]
        rfl
      rw [hpending]
      exact .upkeep hnone hkept (CallResult.tellsAside_ok rfl)
    | some session =>
      rw [hlookup] at hreaches
      simp only [Option.isSome_some, Bool.true_and] at hreaches
      simp only [Option.isNone_some, Bool.false_and, Bool.false_eq_true, if_false]
      by_cases hdata : datagram.payload.kind = .data ∧ m.rateLimiter.isException addr.ip = false
      · rw [if_pos hdata] at hreaches
        rw [if_pos hdata]
        generalize m.rateLimiter.consumeProcessingBudget addr.ip
          (estimateConnectedDatagramProcessingCost bytes.length datagram) env.now = q
          at hreaches ⊢
        obtain ⟨decision, rateLimiter⟩ := q
        cases decision with
        | allow => exact absurd rfl hreaches
        | ipExhausted | globalExhausted =>
          exact .upkeep hnone (hkept.trans (Aside.limit m rateLimiter).upkeep)
            (CallResult.tellsAside_ok rfl)
      · rw [if_neg hdata] at hreaches
        exact absurd rfl hreaches

theorem step_inv {s : TransportServer F H} (hs : s.NoOrphans) (op : TransportOp) :
    TransportStep s op (s.step op) := by
  cases op with
  | recvAndProcess env bytes observedAddr =>
    have hupkeep := s.triage_upkeep env bytes observedAddr
    rw [step, recvAndProcess]
    dsimp only
    generalize htriage : s.triage env bytes observedAddr = t at hupkeep
    cases t with
    | answered r m =>
      have hnone : s.admittedBy (.recvAndProcess env bytes observedAddr) = none := by
        rw [admittedBy, admitted, htriage]
        rfl
      exact .upkeep hnone hupkeep.1 hupkeep.2
    | offline addr packet m => exact processOffline_step htriage
    | connected addr datagram m => exact processConnected_step hs htriage
  | queuePayload env addr payload reliability channel priority receiptId =>
    exact .upkeep rfl
      (s.queuePayload_upkeep env addr payload reliability channel priority receiptId) trivial
  | tickOutbound env maxNew maxNewBytes maxResend maxResendBytes =>
    exact .upkeep rfl (s.tickOutbound_upkeep env maxNew maxNewBytes maxResend maxResendBytes)
      trivial
  | sendDatagram env addr datagram => exact .upkeep rfl (s.send_aside env 0 addr _).upkeep trivial
  | disconnectPeer env addr => exact .upkeep rfl (s.disconnectPeer_upkeep env addr) trivial
  | setProxyRouter router =>
    exact .upkeep rfl (.same .refl ⟨rfl, rfl, rfl, rfl, rfl, rfl, rfl⟩) trivial
  | _ => exact .upkeep rfl (Aside.limit s _).upkeep trivial

end TransportServer

end Raknet
