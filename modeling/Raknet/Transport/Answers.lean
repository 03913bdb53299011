-- SUMMARY: What the server sends in an operation, and where the MTU of a session past the second request comes from.
import Raknet.Handshake.Kinds
import Raknet.Transport.HandshakeSteps
import Raknet.Transport.Ledger
import Raknet.Transport.MtuFit

/-!
# The answers of the server

A packet that leaves the server is a datagram, the news of a ban, or the reply to the offline
packet that was received (`step_packets`). A session gets past the second request by one
reply only, which tells its MTU (`step_past`).
-/

namespace Raknet

/-- What the socket took in an operation. -/
def TransportOut.packets : TransportOut → List (SocketAddr × Bytes)
  | .received r => r.sent
  | .ticked r => r.sent
  | .sent r => r.sent
  | .queued _ | .flag _ | .unit => []

variable {F H : Type}

namespace TransportServer

/-! ## Sending -/

/-- A packet goes to its address, if no router sends it elsewhere. -/
theorem encoded_of_send {s : TransportServer F H} {env : Env} {attempt : Nat} {addr : SocketAddr}
    {encoded : Except EncodeError Bytes} {p : SocketAddr × Bytes}
    (h : p ∈ (s.send env attempt addr encoded).1.sent) :
    encoded = .ok p.2 ∧ (s.proxyRouter = none → p.1 = addr) := by
  have hroute : s.proxyRouter = none → (s.routeOutboundTarget addr).1 = some addr := by
    intro hnone
    rw [routeOutboundTarget, hnone]
  unfold send at h
  generalize s.routeOutboundTarget addr = r at h hroute
  obtain ⟨target, s₁⟩ := r
  cases target with
  | none => cases h
  | some target =>
    cases encoded with
    | error e => cases h
    | ok bytes =>
      dsimp only at h hroute
      split at h
      · obtain rfl := List.mem_singleton.mp h
        exact ⟨rfl, fun hnone => Option.some.inj (hroute hnone)⟩
      · cases h

theorem sendDatagrams_isDatagram {env : Env} {s : TransportServer F H} {attempt : Nat}
    {l : List (SocketAddr × Datagram)} {p : SocketAddr × Bytes}
    (h : p ∈ (sendDatagrams env s attempt l).1.sent) : IsDatagram p.2 := by
  induction l generalizing s attempt with
  | nil => cases h
  | cons d rest ih =>
    obtain ⟨addr, datagram⟩ := d
    have hfirst {p : SocketAddr × Bytes}
        (hp : p ∈ (s.send env attempt addr datagram.encode).1.sent) : IsDatagram p.2 :=
      ⟨datagram, (encoded_of_send hp).1⟩
    unfold sendDatagrams at h
    generalize s.send env attempt addr datagram.encode = r at h hfirst
    obtain ⟨⟨result, sent⟩, s₁⟩ := r
    cases result with
    | error e => exact hfirst h
    | ok =>
      rcases List.mem_append.mp h with hsent | hrest
      · exact hfirst hsent
      · exact ih hrest

variable [F64 F] [MinHeap H QueuedFrame QueuedFrame.weight]

theorem processDatagram_isDatagram {s : TransportServer F H} {env : Env} {addr : SocketAddr}
    {datagram : Datagram} {p : SocketAddr × Bytes}
    (h : p ∈ (s.processDatagram env addr datagram).1.sent) : IsDatagram p.2 := by
  unfold processDatagram at h
  split at h
  · cases h
  · next o session _ =>
    dsimp only at h
    split at h
    · cases h
    · have hsent (s' : TransportServer F H)
          (hp : p ∈ (if o.loop.illegalTransition then
            ((⟨.ok (), []⟩ : CallResult Unit), s'.count fun c => { c with
              illegalStateTransitions := satAdd c.illegalStateTransitions 1 })
          else
            sendDatagrams env s' 0 (o.datagrams.map fun datagram => (addr, datagram))).1.sent) :
          IsDatagram p.2 := by
        split at hp
        · cases hp
        · exact sendDatagrams_isDatagram hp
      split at h
      · exact hsent _ h
      · exact hsent _ h

theorem processConnected_isDatagram {s : TransportServer F H} {env : Env} {addr : SocketAddr}
    {datagram : Datagram} {len : Nat} {p : SocketAddr × Bytes}
    (h : p ∈ (s.processConnected env addr datagram len).1.sent) : IsDatagram p.2 := by
  unfold processConnected at h
  split at h
  · cases h
  split at h
  · cases h
  split at h
  · dsimp only at h
    split at h
    · exact processDatagram_isDatagram h
    · cases h
    · cases h
  · exact processDatagram_isDatagram h

/-- What a packet that leaves the server in an operation can be. -/
inductive Answers (s : TransportServer F H) (op : TransportOp) : SocketAddr × Bytes → Prop
  | datagram {p : SocketAddr × Bytes} (h : IsDatagram p.2) : Answers s op p
  | banned {p : SocketAddr × Bytes} {pkt : RejectPacket}
      (h : (OfflinePacket.connectionBanned pkt).encode = .ok p.2) : Answers s op p
  | reply {p : SocketAddr × Bytes} {addr : SocketAddr} {packet : OfflinePacket}
      (hreply : (addr, packet) ∈ s.offlineReply op) (hencode : packet.encode = .ok p.2)
      (htarget : s.proxyRouter = none → p.1 = addr) : Answers s op p

omit [F64 F] [MinHeap H QueuedFrame QueuedFrame.weight] in
theorem banned_of_answered {s m : TransportServer F H} {env : Env} {bytes : Bytes}
    {observedAddr : SocketAddr} {r : CallResult TransportEvent}
    (htriage : s.triage env bytes observedAddr = .answered r m) {p : SocketAddr × Bytes}
    (hp : p ∈ r.sent) : ∃ pkt, (OfflinePacket.connectionBanned pkt).encode = .ok p.2 := by
  unfold triage at htriage
  split at htriage
  · cases htriage
    cases hp
  · dsimp only at htriage
    split at htriage
    · cases htriage
      cases hp
    split at htriage
    · unfold decodePacket at htriage
      split at htriage
      all_goals
        split at htriage
        · cases htriage
        · cases htriage
          cases hp
    · cases htriage
      cases hp
    · split at htriage
      · cases htriage
        exact ⟨_, (encoded_of_send hp).1⟩
      · cases htriage
        cases hp

theorem step_packets {s : TransportServer F H} {op : TransportOp} {p : SocketAddr × Bytes}
    (hp : p ∈ (s.step op).2.packets) : Answers s op p := by
  cases op with
  | recvAndProcess env bytes observedAddr =>
    change p ∈ (s.recvAndProcess env bytes observedAddr).1.sent at hp
    unfold recvAndProcess at hp
    cases htriage : s.triage env bytes observedAddr with
    | answered r m =>
      rw [htriage] at hp
      obtain ⟨pkt, hbanned⟩ := banned_of_answered htriage hp
      exact .banned hbanned
    | connected addr datagram m =>
      rw [htriage] at hp
      exact .datagram (processConnected_isDatagram hp)
    | offline addr packet m =>
      rw [htriage] at hp
      unfold processOffline at hp
      dsimp only at hp
      cases hreply : (m.handleOfflinePacket env addr packet).reply with
      | none =>
        rw [hreply] at hp
        cases hp
      | some reply =>
        rw [hreply] at hp
        obtain ⟨hencode, htarget⟩ := encoded_of_send hp
        refine .reply ?_ hencode fun hnone => htarget ?_
        · rw [offlineReply, htriage]
          dsimp only
          rw [hreply]
          exact List.mem_singleton.mpr rfl
        · have hrouter := (s.triage_writes env bytes observedAddr).router
          rw [htriage] at hrouter
          have hhandled := m.handleOfflinePacket_writes (K := True) (I := fun _ => True) env addr
            trivial packet
          exact hhandled.router.trans (hrouter.trans hnone)
  | tickOutbound env maxNew maxNewBytes maxResend maxResendBytes =>
    exact .datagram (sendDatagrams_isDatagram hp)
  | sendDatagram env addr datagram => exact .datagram ⟨datagram, (encoded_of_send hp).1⟩
  | _ => cases hp

/-! ## What a client reads -/

/-- A reply of the handshake that a client reads was given to its address. -/
theorem Answers.offlineReply {s : TransportServer F H} {op : TransportOp} {a : SocketAddr}
    {bytes rest : Bytes} {packet : OfflinePacket} (h : Answers s op (a, bytes))
    (hrouter : s.proxyRouter = none) (hread : OfflinePacket.decode.run bytes = .ok (packet, rest))
    (hid : packet.id = 0x06 ∨ packet.id = 0x08) : (a, packet) ∈ s.offlineReply op := by
  have hne : packet.id ≠ 0x07 := by
    rcases hid with hid | hid <;> rw [hid] <;> decide
  cases h with
  | datagram hdatagram => exact absurd hread (hdatagram.not_offline _ _)
  | banned hbanned =>
    rw [OfflinePacket.eq_of_decode_of_id hbanned hread hne] at hid
    rcases hid with hid | hid <;> cases hid
  | reply hreply hencode htarget =>
    obtain rfl := OfflinePacket.eq_of_decode_of_id hencode hread hne
    obtain rfl := htarget hrouter
    exact hreply

/-! ## Second requests -/

omit [F64 F] [MinHeap H QueuedFrame QueuedFrame.weight] in
/-- The MTU of the second request that an operation brings from the address. -/
def requested (s : TransportServer F H) (a : SocketAddr) : TransportOp → Option UInt16
  | .recvAndProcess _ bytes observedAddr =>
    if observedAddr = a then requestedMtu s.config.unconnectedMagic bytes else none
  | _ => none

omit [F64 F] [MinHeap H QueuedFrame QueuedFrame.weight] in
/-- An offline packet was decoded, and counts for the address it comes from if no router says
    otherwise. -/
theorem triage_offline_packet {s m : TransportServer F H} {env : Env} {bytes : Bytes}
    {observedAddr addr : SocketAddr} {packet : OfflinePacket}
    (htriage : s.triage env bytes observedAddr = .offline addr packet m) :
    (∃ rest, (OfflinePacket.decodeWithMagic m.config.unconnectedMagic).run bytes
      = .ok (packet, rest)) ∧ (s.proxyRouter = none → observedAddr = addr) := by
  have hroute : s.proxyRouter = none → (s.routeInboundAddr observedAddr).1 = some observedAddr := by
    intro hnone
    rw [routeInboundAddr, hnone]
  unfold triage at htriage
  generalize s.routeInboundAddr observedAddr = r at htriage hroute
  obtain ⟨route, s₁⟩ := r
  cases route with
  | none => cases htriage
  | some routed =>
    dsimp only at htriage hroute
    split at htriage
    · cases htriage
    split at htriage
    · unfold decodePacket at htriage
      split at htriage
      all_goals
        split at htriage
        all_goals first
          | cases htriage
            done
          | next hdecode =>
            cases htriage
            exact ⟨⟨_, hdecode⟩, fun hnone => (Option.some.inj (hroute hnone)).symm⟩
    · cases htriage
    · split at htriage <;> cases htriage

/-- A second reply has the lower of the MTU that was requested and the one of the handshake. -/
theorem OfflineEffect.reply2_mtu {s : TransportServer F H} {env : Env} {addr : SocketAddr}
    {packet : OfflinePacket} {r : OfflineResult F H} (h : OfflineEffect s env addr packet r)
    {reply2 : OpenConnectionReply2} (hreply : r.reply = some (.openConnectionReply2 reply2)) :
    ∃ req2 pending, packet = .openConnectionRequest2 req2 ∧
      s.pendingHandshakes.lookup addr = some pending ∧
      reply2.mtu = s.negotiateMtu (min req2.mtu pending.mtu) := by
  cases h with
  | aside hopens _ | closed hopens _ => exact absurd hreply (hopens.accepts reply2)
  | opened =>
    rw [openSession_eq] at hreply
    cases hreply
  | @accepted m req2 pending session haside hpacket hpending hlookup _ _ _ hstate =>
    rw [acceptRequest2_eq hlookup hstate] at hreply
    cases hreply
    exact ⟨req2, pending, hpacket, haside.pending ▸ hpending, negotiateMtu_congr haside.config _⟩
  | @retried m req2 pending session haside hpacket hpending hlookup _ hstate =>
    rw [retryRequest2_eq hlookup hstate] at hreply
    cases hreply
    exact ⟨req2, pending, hpacket, haside.pending ▸ hpending, negotiateMtu_congr haside.config _⟩

/-- A second reply answers a second request from its address, which has met a handshake. -/
theorem requested_of_reply2 {s : TransportServer F H} {op : TransportOp} {a : SocketAddr}
    {reply2 : OpenConnectionReply2} (h : (a, .openConnectionReply2 reply2) ∈ s.offlineReply op)
    (hrouter : s.proxyRouter = none) :
    ∃ mtu pending, s.requested a op = some mtu ∧ s.pendingHandshakes.lookup a = some pending ∧
      reply2.mtu = s.negotiateMtu (min mtu pending.mtu) := by
  cases op with
  | recvAndProcess env bytes observedAddr =>
    rw [TransportServer.offlineReply] at h
    cases htriage : s.triage env bytes observedAddr with
    | answered _ _ | connected _ _ _ =>
      rw [htriage] at h
      cases h
    | offline addr packet m =>
      rw [htriage] at h
      dsimp only at h
      cases hreply : (m.handleOfflinePacket env addr packet).reply with
      | none =>
        rw [hreply] at h
        cases h
      | some reply =>
        rw [hreply] at h
        obtain ⟨rfl, rfl⟩ := Prod.mk.inj (List.mem_singleton.mp h)
        have hkeeps : Keeps s m := (upkeep_of_triage htriage).keeps
        obtain ⟨⟨rest, hread⟩, haddr⟩ := triage_offline_packet htriage
        obtain rfl := haddr hrouter
        obtain ⟨req2, pending, rfl, hpending, hmtu⟩ :=
          (m.handleOfflinePacket_effect env observedAddr packet).reply2_mtu hreply
        refine ⟨req2.mtu, pending, ?_, hkeeps.pending_some hpending,
          hmtu.trans (negotiateMtu_congr hkeeps.config _)⟩
        rw [requested, if_pos rfl, requestedMtu, ← hkeeps.config, hread]
  | _ => cases h

/-- A session past the second request was there before, or got its MTU with a second reply. -/
theorem step_past {s : TransportServer F H} (hs : s.NoOrphans) {op : TransportOp}
    {a : SocketAddr} {session' : Session F H}
    (ha : (s.step op).1.sessions.lookup a = some session')
    (hpast : session'.state.pastReply2 = true) :
    (∃ session, s.sessions.lookup a = some session ∧ session.state.pastReply2 = true ∧
      session'.mtu = session.mtu) ∨
    ∃ reply2, (a, .openConnectionReply2 reply2) ∈ s.offlineReply op ∧
      session'.mtu = reply2.mtu.toNat := by
  have hserved {m : TransportServer F H} {met : Session F H} (hupkeep : Upkeep s m)
      (hmet : m.sessions.lookup a = some met) (hmetPast : met.state.pastReply2 = true)
      (hmtu : session'.mtu = met.mtu) :
      ∃ session, s.sessions.lookup a = some session ∧ session.state.pastReply2 = true ∧
        session'.mtu = session.mtu := by
    obtain ⟨session, hlookup, hserves⟩ := hupkeep.served hmet
    refine ⟨session, hlookup, hserves.state ▸ hmetPast, hmtu.trans hserves.runs.mtu⟩
  have hstep := step_inv hs op
  generalize s.step op = r at hstep ha
  cases hstep with
  | upkeep _ hupkeep _ => exact .inl (hserved hupkeep ha hpast rfl)
  | @offline env bytes observedAddr addr packet m s' out hop htriage heffect haside _ =>
    subst hop
    have hupkeep : Upkeep s m := upkeep_of_triage htriage
    dsimp only at ha
    rw [haside.sessions] at ha
    rcases heffect.left ha with hkept | ⟨m', mtu, -, rfl⟩ | ⟨rfl, reply2, hreply⟩
    · exact .inl (hserved hupkeep hkept hpast rfl)
    · cases hpast
    · obtain ⟨met, now, st, -, -, hsessions⟩ := heffect.replied hreply
      rw [hsessions, AList.lookup_insert] at ha
      obtain rfl := Option.some.inj ha
      refine .inr ⟨reply2, ?_, rfl⟩
      rw [offlineReply, htriage]
      dsimp only
      rw [hreply]
      exact List.mem_singleton.mpr rfl
  | @datagram env bytes observedAddr addr datagram m s' r hop hadmitted houtcome =>
    have hupkeep := upkeep_of_admitted hadmitted
    obtain ⟨met₀, hmet₀⟩ := lookup_of_admitted hadmitted
    obtain ⟨met, hmet, hruns⟩ := houtcome.ran hmet₀ ha
    refine .inl (hserved hupkeep hmet ?_ hruns.mtu)
    obtain ⟨v, hsets, hchange⟩ := houtcome.sets hmet₀
    have hpeer : (some session'.state, s'.pendingHandshakes.lookup a) = if a = addr then v
        else m.peer a := (peer_of_lookup ha).symm.trans (hsets.peer a)
    by_cases haddr : a = addr
    · subst haddr
      rw [if_pos rfl] at hpeer
      obtain rfl := Option.some.inj (hmet₀.symm.trans hmet)
      have hstate : some session'.state = v.1 := congrArg Prod.fst hpeer
      cases hchange with
      | closed _ => cases hstate
      | finished hmoves _ | cutShort hmoves _ =>
        rw [Option.some.inj hstate] at hpast
        exact hmoves.past hpast
    · rw [if_neg haddr, peer_of_lookup hmet] at hpeer
      rw [← Option.some.inj (congrArg Prod.fst hpeer)]
      exact hpast

/-! ## Negotiated MTUs -/

/-- The MTU of the handshake of the address is one that was negotiated. -/
def PendingNegotiated (s : TransportServer F H) (a : SocketAddr) : Prop :=
  ∀ pending, s.pendingHandshakes.lookup a = some pending → s.Negotiated pending.mtu

theorem reply1_negotiated {s : TransportServer F H} (hs : s.NoOrphans) {op : TransportOp}
    {a : SocketAddr} {reply1 : OpenConnectionReply1}
    (h : (a, .openConnectionReply1 reply1) ∈ s.offlineReply op) : s.Negotiated reply1.mtu := by
  have haside : ¬RepliesAside a (s.offlineReply op) := by
    intro haside
    have hnone := List.filterMap_eq_nil_iff.mp haside.first _ h
    rw [reply1To, if_pos rfl] at hnone
    cases hnone
  have hstep := step_handshake hs op a
  generalize s.offlineReply op = replies at h haside hstep
  generalize (s.step op).1.pendingHandshakes.lookup a = pending' at hstep
  cases hstep with
  | kept hreplies | dropped hreplies => exact absurd hreplies haside
  | opened hnegotiated _ _ =>
    cases List.mem_singleton.mp h
    exact hnegotiated
  | accepted _ _ _ _ _ | retried _ _ _ => cases List.mem_singleton.mp h

theorem PendingNegotiated.step {s : TransportServer F H} (hs : s.NoOrphans) {a : SocketAddr}
    (h : s.PendingNegotiated a) (op : TransportOp) : (s.step op).1.PendingNegotiated a := by
  intro pending' hpending'
  refine Negotiated.congr (s := s) ?_ (step_config hs op)
  have hstep := step_handshake hs op a
  generalize (s.step op).1.pendingHandshakes.lookup a = entry at hstep hpending'
  generalize s.offlineReply op = replies at hstep
  cases hstep with
  | kept _ => exact h pending' hpending'
  | dropped _ => cases hpending'
  | opened hnegotiated hmtu _ =>
    cases hpending'
    exact hmtu ▸ hnegotiated
  | accepted _ _ hreply hmtu _ =>
    cases hpending'
    exact ⟨_, hmtu.trans hreply⟩
  | retried hpending _ _ =>
    cases hpending'
    exact h _ hpending

end TransportServer

end Raknet
