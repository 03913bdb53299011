-- SUMMARY: A client's handshake with a server over a network that delays and reorders: when both end up with the same MTU.
import Raknet.Facade.ClientEvents
import Raknet.Facade.HandshakeSends
import Raknet.Transport.Answers

/-!
# Whether client and server agree on the MTU

The client takes the MTU of the first reply it reads, and never looks at the one of the second
reply. The server takes the lower of the MTU that the second request names and the one of the
last first request it has answered. A probe that overtakes the first reply to an earlier one
lowers the latter behind the client's back (`mtu_differs`). They agree exactly if the second
request asks for no more than the server has offered last (`mtu_agreed_iff`).
-/

namespace Raknet

open Decoder

/-- One client in its handshake, the server, and the packets that are on their way. -/
structure HandshakeLink (F H : Type) where
  handshake : ClientHandshake F H
  server : TransportServer F H
  toServer : List Bytes
  toClient : List Bytes

/-- What happens next: a packet of either list arrives, in any order, the wait of the client ends
    without one, or the server does something on its own. A packet that never arrives is lost. -/
inductive HandshakeLinkOp where
  | toServer (env : Env) (i : Nat)
  | toClient (e : HandshakeEnv) (i : Nat)
  | timedOut (e : HandshakeEnv)
  | recvFailed (e : HandshakeEnv)
  | server (op : TransportOp)

/-- The operation is not a packet from the address, and sets no router. -/
def TransportOp.isAsideOf (a : SocketAddr) : TransportOp → Bool
  | .recvAndProcess _ _ observedAddr => decide (observedAddr ≠ a)
  | .setProxyRouter _ => false
  | _ => true

variable {F H : Type}

namespace HandshakeLink

/-- The packets that the client has sent go on their way. -/
def advance (s : HandshakeLink F H) (h : ClientHandshake F H) : HandshakeLink F H :=
  { s with
    handshake := h
    toServer := s.toServer ++ h.client.socket.drop s.handshake.client.socket.length }

variable [F64 F] [MinHeap H QueuedFrame QueuedFrame.weight]

/-- The packets that the server has sent to the client go on their way. -/
def serve (s : HandshakeLink F H) (a : SocketAddr) (op : TransportOp) : HandshakeLink F H :=
  let (server, out) := s.server.step op
  { s with
    server
    toClient := s.toClient ++ (out.packets.filter fun p => p.1 = a).map Prod.snd }

/-- One step, with the client at the address. -/
def step (a : SocketAddr) (s : HandshakeLink F H) : HandshakeLinkOp → HandshakeLink F H
  | .toServer env i =>
    match s.toServer[i]? with
    | none => s
    | some bytes =>
      ({ s with toServer := s.toServer.eraseIdx i } : HandshakeLink F H).serve a
        (.recvAndProcess env bytes a)
  | .toClient e i =>
    match s.toClient[i]? with
    | none => s
    | some bytes =>
      ({ s with toClient := s.toClient.eraseIdx i } : HandshakeLink F H).advance
        (s.handshake.step e (.received s.handshake.client.serverAddr bytes))
  | .timedOut e => s.advance (s.handshake.step e .timedOut)
  | .recvFailed e => s.advance (s.handshake.step e .failed)
  | .server op => if op.isAsideOf a then s.serve a op else s

/-- The client starts, and its first probe is on its way. -/
def start (config : RaknetClientConfig) (serverAddr : SocketAddr) (now : Instant)
    (e : HandshakeEnv) (server : TransportServer F H) : HandshakeLink F H :=
  let handshake := ClientHandshake.start config serverAddr now e
  { handshake, server, toServer := handshake.client.socket, toClient := [] }

end HandshakeLink

/-- A handshake of the client at the address as a machine. -/
def handshakeLink (F H : Type) [F64 F] [MinHeap H QueuedFrame QueuedFrame.weight]
    (a : SocketAddr) : Machine (HandshakeLink F H) HandshakeLinkOp Unit :=
  ⟨fun s op => (s.step a op, ())⟩

namespace HandshakeLink

/-- A second request that arrives asks for no more than the MTU of the handshake it meets. -/
def fits (a : SocketAddr) (s : HandshakeLink F H) : HandshakeLinkOp → Bool
  | .toServer _ i =>
    match s.toServer[i]?.bind (requestedMtu s.server.config.unconnectedMagic),
        s.server.pendingHandshakes.lookup a with
    | some mtu, some pending => decide (mtu ≤ pending.mtu)
    | _, _ => true
  | _ => true

/-! ## What both sides know -/

/-- The MTUs of the second requests that are on their way. -/
def requests (s : HandshakeLink F H) : List UInt16 :=
  s.toServer.filterMap (requestedMtu s.server.config.unconnectedMagic)

/-- The session of the address is past the second request. -/
def Past (a : SocketAddr) (server : TransportServer F H) (session : Session F H) : Prop :=
  server.sessions.lookup a = some session ∧ session.state.pastReply2 = true

/-- What holds of the server and of the first replies at all times. -/
structure Consistent (a : SocketAddr) (s : HandshakeLink F H) : Prop where
  orphans : s.server.NoOrphans
  router : s.server.proxyRouter = none
  pending : s.server.PendingNegotiated a
  offers : ∀ bytes ∈ s.toClient, ∀ mtu, offeredMtu bytes = some mtu → s.server.Negotiated mtu

/-- No second request has been answered. -/
structure Unanswered (a : SocketAddr) (s : HandshakeLink F H) : Prop where
  sessions : ∀ session, ¬Past a s.server session
  replies : ∀ bytes ∈ s.toClient, repliedMtu bytes = none

/-- The second request has arrived: the session has its MTU if all was met so far, and each second
    reply tells the MTU of the session. -/
structure Answered (a : SocketAddr) (met : Prop) (mtu : UInt16) (s : HandshakeLink F H) :
    Prop where
  requests : s.requests = []
  agrees : ∀ session, Past a s.server session → (session.mtu = mtu.toNat ↔ met)
  replies : ∀ session, Past a s.server session → ∀ bytes ∈ s.toClient, ∀ mtu,
    repliedMtu bytes = some mtu → session.mtu = mtu.toNat

/-- Where the handshake is, seen from both sides. -/
def Stage (a : SocketAddr) (met : Prop) (s : HandshakeLink F H) : Prop :=
  match s.handshake.phase with
  | .probing _ => s.requests = [] ∧ Unanswered a s ∧ met
  | .awaitingReply2 reply1 =>
    s.handshake.client.session.mtu = reply1.mtu.toNat ∧ s.server.Negotiated reply1.mtu ∧
      (s.requests = [reply1.mtu] ∧ Unanswered a s ∧ met ∨ Answered a met reply1.mtu s)
  | .awaitingAccepted reply1 reply2 | .established reply1 reply2 =>
    s.handshake.client.session.mtu = reply1.mtu.toNat ∧ Answered a met reply1.mtu s ∧
      ∀ session, Past a s.server session → session.mtu = reply2.mtu.toNat
  | .failed _ => True

/-! ## Steps of the client -/

variable {a : SocketAddr} {met : Prop} {s s' : HandshakeLink F H}

/-- Packets that reach the client are on their way no more. -/
theorem Consistent.mono (h : Consistent a s) (hserver : s'.server = s.server)
    (hclient : ∀ bytes ∈ s'.toClient, bytes ∈ s.toClient) : Consistent a s' where
  orphans := hserver ▸ h.orphans
  router := hserver ▸ h.router
  pending := hserver ▸ h.pending
  offers := fun bytes hbytes mtu hmtu => hserver ▸ h.offers bytes (hclient bytes hbytes) mtu hmtu

theorem Unanswered.mono (h : Unanswered a s) (hserver : s'.server = s.server)
    (hclient : ∀ bytes ∈ s'.toClient, bytes ∈ s.toClient) : Unanswered a s' where
  sessions := hserver ▸ h.sessions
  replies := fun bytes hbytes => h.replies bytes (hclient bytes hbytes)

theorem Answered.mono {mtu : UInt16} (h : Answered a met mtu s) (hserver : s'.server = s.server)
    (hclient : ∀ bytes ∈ s'.toClient, bytes ∈ s.toClient) (hrequests : s'.requests = s.requests) :
    Answered a met mtu s' where
  requests := hrequests.trans h.requests
  agrees := hserver ▸ h.agrees
  replies := fun session hpast bytes hbytes =>
    h.replies session (hserver ▸ hpast) bytes (hclient bytes hbytes)

/-- The client waits on, and what has been requested is the same. -/
theorem Stage.mono (h : Stage a met s) (hserver : s'.server = s.server)
    (hclient : ∀ bytes ∈ s'.toClient, bytes ∈ s.toClient) (hrequests : s'.requests = s.requests)
    (hphase : s'.handshake.phase = s.handshake.phase)
    (hmtu : s'.handshake.client.session.mtu = s.handshake.client.session.mtu) :
    Stage a met s' := by
  unfold Stage at h ⊢
  rw [hphase, hmtu, hserver, hrequests]
  cases hphase : s.handshake.phase with
  | probing rest =>
    rw [hphase] at h
    exact ⟨h.1, h.2.1.mono hserver hclient, h.2.2⟩
  | awaitingReply2 reply1 =>
    rw [hphase] at h
    obtain ⟨hadopted, hnegotiated, hwaiting⟩ := h
    refine ⟨hadopted, hnegotiated, ?_⟩
    rcases hwaiting with ⟨hone, hun, hmet⟩ | hans
    · exact .inl ⟨hone, hun.mono hserver hclient, hmet⟩
    · exact .inr (hans.mono hserver hclient hrequests)
  | awaitingAccepted reply1 reply2 | established reply1 reply2 =>
    rw [hphase] at h
    exact ⟨h.1, h.2.1.mono hserver hclient hrequests, h.2.2⟩
  | failed error => trivial

/-- Packets that ask for nothing change nothing of what is requested. -/
theorem requests_advance {h : ClientHandshake F H}
    (hsends : RaknetClient.Sends s.handshake.client h.client) :
    (s.advance h).requests = s.requests := by
  obtain ⟨packets, hsocket, hpackets⟩ := hsends.socket
  have hnone : packets.filterMap (requestedMtu s.server.config.unconnectedMagic) = [] :=
    List.filterMap_eq_nil_iff.mpr fun bytes hbytes => hpackets bytes hbytes _
  rw [requests, advance]
  dsimp only
  rw [hsocket, List.drop_left, List.filterMap_append, hnone, List.append_nil]
  rfl

theorem clampMtu_negotiated {server : TransportServer F H} {mtu : UInt16}
    (h : server.Negotiated mtu) : clampMtu mtu = mtu := by
  have hrange := h.inRange
  unfold Session.MtuInRange at hrange
  have hlow : minimumMtuSize ≤ mtu := UInt16.le_iff_toNat_le.mpr hrange.1
  have hhigh : mtu ≤ maximumMtuSize := UInt16.le_iff_toNat_le.mpr hrange.2
  have hmin : min mtu maximumMtuSize = mtu := if_pos hhigh
  have hmax : max minimumMtuSize mtu = mtu := if_pos hlow
  rw [clampMtu, hmin, hmax]

/-- The wait of the client ends, with the packet if one has arrived. -/
theorem Stage.advance {packet : Option Bytes} {h : ClientHandshake F H}
    {toClient : List Bytes} (hconsistent : Consistent a s) (hstage : Stage a met s)
    (hadvance : ClientHandshake.Advance s.handshake packet h)
    (hpacket : ∀ bytes, packet = some bytes → bytes ∈ s.toClient)
    (hclient : ∀ bytes ∈ toClient, bytes ∈ s.toClient) :
    Stage a met (({ s with toClient } : HandshakeLink F H).advance h) := by
  have hrequests : RaknetClient.Sends s.handshake.client h.client →
      (({ s with toClient } : HandshakeLink F H).advance h).requests = s.requests :=
    fun hsends => requests_advance (s := { s with toClient }) hsends
  have hunanswered : Unanswered a s →
      Unanswered a (({ s with toClient } : HandshakeLink F H).advance h) :=
    fun hun => hun.mono rfl hclient
  have hanswered {mtu : UInt16} : RaknetClient.Sends s.handshake.client h.client →
      Answered a met mtu s →
      Answered a met mtu (({ s with toClient } : HandshakeLink F H).advance h) :=
    fun hsends hans => hans.mono rfl hclient (hrequests hsends)
  generalize hlink : ({ s with toClient } : HandshakeLink F H).advance h = s'
    at hrequests hunanswered hanswered ⊢
  have hhandshake : s'.handshake = h := by rw [← hlink]; rfl
  have hserver : s'.server = s.server := by rw [← hlink]; rfl
  have hwaits : RaknetClient.Sends s.handshake.client h.client →
      h.phase = s.handshake.phase → Stage a met s' := by
    intro hsends hphase
    refine hstage.mono hserver ?_ (hrequests hsends) (hhandshake ▸ hphase)
      (hhandshake ▸ hsends.mtu)
    rw [← hlink]
    exact hclient
  unfold Stage at hstage
  unfold Stage at hwaits ⊢
  rw [hhandshake, hserver] at hwaits ⊢
  cases hadvance with
  | fails => trivial
  | waits hsends => exact hwaits hsends rfl
  | probes hphase hsends =>
    rw [hphase] at hstage
    exact ⟨(hrequests hsends).trans hstage.1, hunanswered hstage.2.1, hstage.2.2⟩
  | @requests bytes left sent c rest reply1 hphase hread hsocket hsent hmtu =>
    rw [hphase] at hstage
    obtain ⟨hnone, hun, hmet⟩ := hstage
    have hnegotiated : s.server.Negotiated reply1.mtu := by
      refine hconsistent.offers bytes (hpacket bytes rfl) reply1.mtu ?_
      rw [offeredMtu, hread]
    refine ⟨?_, hnegotiated, ?_⟩
    · rw [hmtu, clampMtu_negotiated hnegotiated]
    have hone : s'.requests = (requestedMtu s.server.config.unconnectedMagic sent).toList := by
      rw [← hlink, HandshakeLink.requests, HandshakeLink.advance]
      dsimp only
      rw [hsocket, List.drop_left, List.filterMap_append]
      change s.requests ++ _ = _
      rw [hnone, List.nil_append]
      cases hasked : requestedMtu s.server.config.unconnectedMagic sent with
      | none => exact List.filterMap_cons_none hasked
      | some mtu => exact List.filterMap_cons_some hasked
    cases hasked : requestedMtu s.server.config.unconnectedMagic sent with
    | none =>
      -- a server with another magic value never reads the request
      rw [hasked] at hone
      have hsessions := (hunanswered hun).sessions
      exact .inr ⟨hone, fun session hpast => absurd hpast (hsessions session),
        fun session hpast => absurd hpast (hsessions session)⟩
    | some mtu =>
      rw [hasked, hsent _ mtu hasked] at hone
      exact .inl ⟨hone, hunanswered hun, hmet⟩
  | @answered bytes left c reply1 reply2 hphase hread hsends =>
    rw [hphase] at hstage
    obtain ⟨hmtu, -, hwaiting⟩ := hstage
    have hreplied : repliedMtu bytes = some reply2.mtu := by rw [repliedMtu, hread]
    rcases hwaiting with ⟨-, hun, -⟩ | hans
    · have hsilent := hun.replies bytes (hpacket bytes rfl)
      rw [hreplied] at hsilent
      cases hsilent
    · exact ⟨hsends.mtu.trans hmtu, hanswered hsends hans, fun session hpast =>
        hans.replies session hpast bytes (hpacket bytes rfl) reply2.mtu hreplied⟩
  | established hphase hsends =>
    rw [hphase] at hstage
    exact ⟨hsends.mtu.trans hstage.1, hanswered hsends hstage.2.1, hstage.2.2⟩

/-! ## Steps of the server -/

section Serve

variable [F64 F] [MinHeap H QueuedFrame QueuedFrame.weight] {op : TransportOp}

/-- A packet on its way to the client was there, or is an answer. -/
theorem mem_toClient_serve {bytes : Bytes} (h : bytes ∈ (s.serve a op).toClient) :
    bytes ∈ s.toClient ∨ s.server.Answers op (a, bytes) := by
  rcases List.mem_append.mp h with hold | hnew
  · exact .inl hold
  · obtain ⟨⟨target, bytes⟩, hp, rfl⟩ := List.mem_map.mp hnew
    obtain ⟨hpacket, htarget⟩ := List.mem_filter.mp hp
    obtain rfl : target = a := of_decide_eq_true htarget
    exact .inr (TransportServer.step_packets hpacket)

theorem Consistent.serve (h : Consistent a s) (hop : ∀ router, op ≠ .setProxyRouter router) :
    Consistent a (s.serve a op) where
  orphans := TransportServer.noOrphans_step h.orphans op
  router := (TransportServer.step_proxyRouter hop).trans h.router
  pending := h.pending.step h.orphans op
  offers := by
    intro bytes hbytes mtu hmtu
    refine .congr (s := s.server) ?_ (TransportServer.step_config h.orphans op)
    rcases mem_toClient_serve hbytes with hold | hanswer
    · exact h.offers bytes hold mtu hmtu
    · unfold offeredMtu at hmtu
      split at hmtu
      · next reply1 left hread =>
        cases hmtu
        exact TransportServer.reply1_negotiated h.orphans
          (hanswer.offlineReply h.router hread (.inl rfl))
      · cases hmtu

/-- The second request that an operation brings has met the handshake, and this MTU is the
    answer. -/
def AnswersWith (a : SocketAddr) (server : TransportServer F H) (op : TransportOp)
    (mtu : UInt16) : Prop :=
  ∃ asked pending, server.requested a op = some asked ∧
    server.pendingHandshakes.lookup a = some pending ∧
    mtu = server.negotiateMtu (min asked pending.mtu)

/-- A second reply on its way to the client was there, or answers the operation. -/
theorem replies_serve (h : Consistent a s) {bytes : Bytes} {mtu : UInt16}
    (hbytes : bytes ∈ (s.serve a op).toClient) (hmtu : repliedMtu bytes = some mtu) :
    bytes ∈ s.toClient ∨ AnswersWith a s.server op mtu := by
  rcases mem_toClient_serve hbytes with hold | hanswer
  · exact .inl hold
  · unfold repliedMtu at hmtu
    split at hmtu
    · next reply2 left hread =>
      cases hmtu
      exact .inr (TransportServer.requested_of_reply2
        (hanswer.offlineReply h.router hread (.inr rfl)) h.router)
    · cases hmtu

/-- A session past the second request was there, or has its MTU from the answer. -/
theorem past_serve (h : Consistent a s) {session' : Session F H}
    (hpast : Past a (s.serve a op).server session') :
    (∃ session, Past a s.server session ∧ session'.mtu = session.mtu) ∨
    ∃ mtu, AnswersWith a s.server op mtu ∧ session'.mtu = mtu.toNat := by
  rcases TransportServer.step_past h.orphans hpast.1 hpast.2 with
    ⟨session, hlookup, hstate, hmtu⟩ | ⟨reply2, hreply, hmtu⟩
  · exact .inl ⟨session, ⟨hlookup, hstate⟩, hmtu⟩
  · exact .inr ⟨reply2.mtu, TransportServer.requested_of_reply2 hreply h.router, hmtu⟩

omit [F64 F] [MinHeap H QueuedFrame QueuedFrame.weight] in
theorem AnswersWith.absurd_none {mtu : UInt16} (h : AnswersWith a s.server op mtu)
    (hnone : s.server.requested a op = none) : False := by
  obtain ⟨asked, pending, hasked, -, -⟩ := h
  rw [hnone] at hasked
  cases hasked

theorem requests_serve (h : Consistent a s) : (s.serve a op).requests = s.requests := by
  have hconfig : (s.serve a op).server.config = s.server.config :=
    TransportServer.step_config h.orphans op
  rw [requests, hconfig]
  rfl

/-- An operation without a second request answers none. -/
theorem Unanswered.serve (h : Unanswered a s) (hconsistent : Consistent a s)
    (hnone : s.server.requested a op = none) : Unanswered a (s.serve a op) where
  sessions := by
    intro session' hpast
    rcases past_serve hconsistent hpast with ⟨session, hbefore, -⟩ | ⟨mtu, hanswers, -⟩
    · exact h.sessions session hbefore
    · exact hanswers.absurd_none hnone
  replies := by
    intro bytes hbytes
    cases hmtu : repliedMtu bytes with
    | none => rfl
    | some mtu =>
      rcases replies_serve hconsistent hbytes hmtu with hold | hanswers
      · exact hmtu.symm.trans (h.replies bytes hold)
      · exact (hanswers.absurd_none hnone).elim

theorem Answered.serve {mtu : UInt16} (h : Answered a met mtu s) (hconsistent : Consistent a s)
    (hnone : s.server.requested a op = none) : Answered a met mtu (s.serve a op) where
  requests := (requests_serve hconsistent).trans h.requests
  agrees := by
    intro session' hpast
    rcases past_serve hconsistent hpast with ⟨session, hbefore, hmtu⟩ | ⟨mtu, hanswers, -⟩
    · rw [hmtu]
      exact h.agrees session hbefore
    · exact (hanswers.absurd_none hnone).elim
  replies := by
    intro session' hpast bytes hbytes mtu' hreplied
    rcases replies_serve hconsistent hbytes hreplied with hold | hanswers
    · rcases past_serve hconsistent hpast with ⟨session, hbefore, hmtu⟩ | ⟨mtu, hanswers, -⟩
      · exact hmtu.trans (h.replies session hbefore bytes hold mtu' hreplied)
      · exact (hanswers.absurd_none hnone).elim
    · exact (hanswers.absurd_none hnone).elim

/-- The second request arrives. -/
theorem Unanswered.answered {mtu : UInt16} (h : Unanswered a s) (hconsistent : Consistent a s)
    (hasked : s.server.requested a op = some mtu) (hmtu : s.server.Negotiated mtu)
    (hrequests : s.requests = []) :
    Answered a (∀ pending, s.server.pendingHandshakes.lookup a = some pending → mtu ≤ pending.mtu)
      mtu (s.serve a op) where
  requests := (requests_serve hconsistent).trans hrequests
  agrees := by
    intro session' hpast
    rcases past_serve hconsistent hpast with ⟨session, hbefore, -⟩ | ⟨mtu', hanswers, hsession⟩
    · exact absurd hbefore (h.sessions session)
    · obtain ⟨asked, pending, hasked', hpending, rfl⟩ := hanswers
      obtain rfl := Option.some.inj (hasked.symm.trans hasked')
      rw [hsession, UInt16.toNat_inj,
        hmtu.negotiateMtu_min_iff (hconsistent.pending pending hpending)]
      constructor
      · intro hle pending' hpending'
        obtain rfl := Option.some.inj (hpending.symm.trans hpending')
        exact hle
      · intro hall
        exact hall pending hpending
  replies := by
    intro session' hpast bytes hbytes mtu₂ hreplied
    rcases past_serve hconsistent hpast with ⟨session, hbefore, -⟩ | ⟨mtu₁, hanswers, hsession⟩
    · exact absurd hbefore (h.sessions session)
    rcases replies_serve hconsistent hbytes hreplied with hold | hanswers₂
    · rw [h.replies bytes hold] at hreplied
      cases hreplied
    · obtain ⟨asked, pending, hasked', hpending, rfl⟩ := hanswers
      obtain ⟨asked₂, pending₂, hasked₂, hpending₂, rfl⟩ := hanswers₂
      obtain rfl := Option.some.inj (hasked'.symm.trans hasked₂)
      obtain rfl := Option.some.inj (hpending.symm.trans hpending₂)
      exact hsession

theorem Stage.serve (h : Stage a met s) (hconsistent : Consistent a s)
    (hnone : s.server.requested a op = none) : Stage a met (s.serve a op) := by
  have hrequests : (s.serve a op).requests = s.requests := requests_serve hconsistent
  have hconfig : (s.serve a op).server.config = s.server.config :=
    TransportServer.step_config hconsistent.orphans op
  have hhandshake : (s.serve a op).handshake = s.handshake := rfl
  unfold Stage at h ⊢
  rw [hhandshake]
  cases hphase : s.handshake.phase with
  | probing rest =>
    rw [hphase] at h
    exact ⟨hrequests.trans h.1, h.2.1.serve hconsistent hnone, h.2.2⟩
  | awaitingReply2 reply1 =>
    rw [hphase] at h
    obtain ⟨hmtu, hnegotiated, hwaiting⟩ := h
    refine ⟨hmtu, hnegotiated.congr hconfig, ?_⟩
    rcases hwaiting with ⟨hone, hun, hmet⟩ | hans
    · exact .inl ⟨hrequests.trans hone, hun.serve hconsistent hnone, hmet⟩
    · exact .inr (hans.serve hconsistent hnone)
  | awaitingAccepted reply1 reply2 | established reply1 reply2 =>
    rw [hphase] at h
    refine ⟨h.1, h.2.1.serve hconsistent hnone, fun session' hpast => ?_⟩
    rcases past_serve hconsistent hpast with ⟨session, hbefore, hmtu⟩ | ⟨mtu, hanswers, -⟩
    · exact hmtu.trans (h.2.2 session hbefore)
    · exact (hanswers.absurd_none hnone).elim
  | failed error => trivial

end Serve

/-! ## All steps -/

/-- A list without an entry that does not count. -/
theorem filterMap_eraseIdx_none {α β : Type} {f : α → Option β} {l : List α} {i : Nat} {x : α}
    (hget : l[i]? = some x) (hx : f x = none) :
    (l.eraseIdx i).filterMap f = l.filterMap f := by
  induction l generalizing i with
  | nil => cases hget
  | cons y l ih =>
    cases i with
    | zero =>
      obtain rfl := Option.some.inj hget
      exact (List.filterMap_cons_none hx).symm
    | succ i =>
      have hrest := ih (i := i) hget
      simp only [List.eraseIdx_cons_succ, List.filterMap_cons, hrest]

/-- A list without the only entry that counts. -/
theorem filterMap_eraseIdx_some {α β : Type} {f : α → Option β} {l : List α} {i : Nat} {x : α}
    {b c : β} (hget : l[i]? = some x) (hx : f x = some b) (hl : l.filterMap f = [c]) :
    b = c ∧ (l.eraseIdx i).filterMap f = [] := by
  induction l generalizing i with
  | nil => cases hget
  | cons y l ih =>
    cases i with
    | zero =>
      obtain rfl := Option.some.inj hget
      rw [List.filterMap_cons_some hx] at hl
      exact List.cons.inj hl
    | succ i =>
      rw [List.getElem?_cons_succ] at hget
      rw [List.eraseIdx_cons_succ]
      cases hy : f y with
      | none =>
        rw [List.filterMap_cons_none hy] at hl ⊢
        exact ih hget hl
      | some b' =>
        rw [List.filterMap_cons_some hy] at hl
        have hmem : b ∈ l.filterMap f :=
          List.mem_filterMap.mpr ⟨x, List.mem_of_getElem? hget, hx⟩
        rw [(List.cons.inj hl).2] at hmem
        cases hmem

variable [F64 F] [MinHeap H QueuedFrame QueuedFrame.weight]

/-- A packet arrives at the server. -/
theorem Stage.toServer (hconsistent : Consistent a s) (hstage : Stage a met s) (env : Env)
    {i : Nat} {bytes : Bytes} (hget : s.toServer[i]? = some bytes) :
    Stage a (met ∧ s.fits a (.toServer env i) = true)
      (({ s with toServer := s.toServer.eraseIdx i } : HandshakeLink F H).serve a
        (.recvAndProcess env bytes a)) := by
  have hconsistent₁ : Consistent a { s with toServer := s.toServer.eraseIdx i } :=
    hconsistent.mono rfl fun _ hbytes => hbytes
  have hrequested : s.server.requested a (.recvAndProcess env bytes a)
      = requestedMtu s.server.config.unconnectedMagic bytes := if_pos rfl
  cases hasked : requestedMtu s.server.config.unconnectedMagic bytes with
  | none =>
    have hfits : s.fits a (.toServer env i) = true := by
      rw [fits, hget, Option.bind_some, hasked]
    rw [eq_true hfits, and_true]
    refine Stage.serve ?_ hconsistent₁ (hrequested.trans hasked)
    exact hstage.mono rfl (fun _ hbytes => hbytes) (filterMap_eraseIdx_none hget hasked) rfl rfl
  | some mtu =>
    have hmem : mtu ∈ s.requests :=
      List.mem_filterMap.mpr ⟨bytes, List.mem_of_getElem? hget, hasked⟩
    have hpending : s.requests = [] → False := by
      intro hnone
      rw [hnone] at hmem
      cases hmem
    unfold Stage at hstage ⊢
    generalize hserved : ({ s with toServer := s.toServer.eraseIdx i } : HandshakeLink F H).serve a
      (.recvAndProcess env bytes a) = s'
    have hhandshake : s'.handshake = s.handshake := by rw [← hserved]; rfl
    rw [hhandshake]
    cases hphase : s.handshake.phase with
    | probing rest =>
      rw [hphase] at hstage
      exact (hpending hstage.1).elim
    | awaitingReply2 reply1 =>
      rw [hphase] at hstage
      obtain ⟨hmtu, hnegotiated, ⟨hone, hun, hmet⟩ | hans⟩ := hstage
      · obtain ⟨rfl, hrest⟩ := filterMap_eraseIdx_some hget hasked hone
        have hun₁ : Unanswered a { s with toServer := s.toServer.eraseIdx i } :=
          hun.mono rfl fun _ hbytes => hbytes
        have hans := hun₁.answered hconsistent₁ (hrequested.trans hasked) hnegotiated hrest
        rw [hserved] at hans
        refine ⟨hmtu, ?_, .inr ?_⟩
        · rw [← hserved]
          exact hnegotiated.congr
            (TransportServer.step_config hconsistent.orphans (.recvAndProcess env bytes a))
        · have hmeets : (∀ pending, s.server.pendingHandshakes.lookup a = some pending →
              reply1.mtu ≤ pending.mtu) ↔ met ∧ s.fits a (.toServer env i) = true := by
            rw [fits, hget, Option.bind_some, hasked, and_iff_right hmet]
            cases s.server.pendingHandshakes.lookup a with
            | none => exact iff_of_true (fun pending h => by cases h) rfl
            | some pending =>
              simp only [Option.some.injEq, forall_eq', decide_eq_true_eq]
          rw [← hmeets]
          exact hans
      · exact (hpending hans.requests).elim
    | awaitingAccepted reply1 reply2 | established reply1 reply2 =>
      rw [hphase] at hstage
      exact (hpending hstage.2.1.requests).elim
    | failed error => trivial

theorem step_stage (op : HandshakeLinkOp) (h : Consistent a s ∧ Stage a met s) :
    Consistent a (s.step a op) ∧ Stage a (met ∧ s.fits a op = true) (s.step a op) := by
  obtain ⟨hconsistent, hstage⟩ := h
  cases op with
  | toServer env i =>
    rw [step]
    cases hget : s.toServer[i]? with
    | none =>
      have hfits : s.fits a (.toServer env i) = true := by rw [fits, hget, Option.bind_none]
      rw [eq_true hfits, and_true]
      exact ⟨hconsistent, hstage⟩
    | some bytes =>
      refine ⟨Consistent.serve ?_ ?_, hstage.toServer hconsistent env hget⟩
      · exact hconsistent.mono rfl fun _ hbytes => hbytes
      · intro router h
        cases h
  | toClient e i =>
    rw [show s.fits a (.toClient e i) = true from rfl, eq_self, and_true, step]
    cases hget : s.toClient[i]? with
    | none => exact ⟨hconsistent, hstage⟩
    | some bytes =>
      have hclient : ∀ bytes ∈ s.toClient.eraseIdx i, bytes ∈ s.toClient :=
        fun bytes hbytes => List.mem_of_mem_eraseIdx hbytes
      refine ⟨hconsistent.mono rfl hclient, ?_⟩
      dsimp only
      rw [ClientHandshake.step, if_neg (not_not.mpr rfl)]
      refine hstage.advance hconsistent (s.handshake.receive_advance e bytes) ?_ hclient
      intro bytes' hbytes'
      obtain rfl := Option.some.inj hbytes'
      exact List.mem_of_getElem? hget
  | timedOut e =>
    rw [show s.fits a (.timedOut e) = true from rfl, eq_self, and_true]
    refine ⟨hconsistent.mono rfl fun _ hbytes => hbytes, ?_⟩
    exact hstage.advance hconsistent (s.handshake.timedOut_advance e) (fun _ h => by cases h)
      fun _ hbytes => hbytes
  | recvFailed e =>
    rw [show s.fits a (.recvFailed e) = true from rfl, eq_self, and_true]
    refine ⟨hconsistent.mono rfl fun _ hbytes => hbytes, ?_⟩
    exact hstage.advance hconsistent (s.handshake.failed_advance e) (fun _ h => by cases h)
      fun _ hbytes => hbytes
  | server op =>
    rw [show s.fits a (.server op) = true from rfl, eq_self, and_true, step]
    split
    · next haside =>
      have hnone : s.server.requested a op = none := by
        cases op with
        | recvAndProcess env bytes observedAddr => exact if_neg (of_decide_eq_true haside)
        | _ => rfl
      refine ⟨hconsistent.serve ?_, hstage.serve hconsistent hnone⟩
      rintro router rfl
      cases haside
    · exact ⟨hconsistent, hstage⟩

/-- The client has only sent a probe, and the server knows nothing of it. -/
theorem start_stage {server : TransportServer F H} (horphans : server.NoOrphans)
    (hrouter : server.proxyRouter = none) (hnew : server.sessions.lookup a = none)
    (config : RaknetClientConfig) (serverAddr : SocketAddr) (now : Instant) (e : HandshakeEnv) :
    Consistent a (start config serverAddr now e server) ∧
      Stage a True (start config serverAddr now e server) := by
  have hpending : server.pendingHandshakes.lookup a = none :=
    horphans a (by rw [TransportServer.peer, TransportServer.peerOf, hnew]; rfl)
  constructor
  · refine ⟨horphans, hrouter, fun pending h => ?_, List.forall_mem_nil _⟩
    cases hpending.symm.trans h
  · unfold Stage
    rcases ClientHandshake.start_asks (F := F) (H := H) config serverAddr now e with
      ⟨rest, hphase, hasks⟩ | ⟨error, hphase⟩
    · have hstart : (start config serverAddr now e server).handshake.phase = .probing rest := hphase
      rw [hstart]
      refine ⟨?_, ⟨fun session hpast => ?_, List.forall_mem_nil _⟩, trivial⟩
      · exact List.filterMap_eq_nil_iff.mpr fun bytes hbytes => hasks bytes hbytes _
      · cases hnew.symm.trans hpast.1
    · have hstart : (start config serverAddr now e server).handshake.phase = .failed error := hphase
      rw [hstart]
      trivial

end HandshakeLink

open HandshakeLink

variable [F64 F] [MinHeap H QueuedFrame QueuedFrame.weight]

/-- A client that has finished its handshake and a server that has connected it: the MTU of the
    server's session is the one of the second reply, and the client has the same if the second
    request asked for no more than the handshake it met. -/
theorem mtu_agreed_iff {server : TransportServer F H} {clientAddr : SocketAddr}
    (horphans : server.NoOrphans) (hrouter : server.proxyRouter = none)
    (hnew : server.sessions.lookup clientAddr = none) (config : RaknetClientConfig)
    (serverAddr : SocketAddr) (now : Instant) (e : HandshakeEnv) (ops : List HandshakeLinkOp)
    {reply1 : OpenConnectionReply1} {reply2 : OpenConnectionReply2} {session : Session F H}
    (hclient : ((handshakeLink F H clientAddr).exec (start config serverAddr now e server)
      ops).handshake.phase = .established reply1 reply2)
    (hserver : ((handshakeLink F H clientAddr).exec (start config serverAddr now e server)
      ops).server.sessions.lookup clientAddr = some session)
    (hconnected : session.state = .connected) :
    session.mtu = reply2.mtu.toNat ∧
    (((handshakeLink F H clientAddr).exec (start config serverAddr now e server)
        ops).handshake.client.session.mtu = session.mtu ↔
      (handshakeLink F H clientAddr).AllSteps (fun s op => s.fits clientAddr op = true)
        (start config serverAddr now e server) ops) := by
  obtain ⟨-, hstage⟩ := (handshakeLink F H clientAddr).exec_allSteps
    (C := fun s op => s.fits clientAddr op = true)
    (I := fun met s => Consistent clientAddr s ∧ Stage clientAddr met s)
    (fun _ _ op h => step_stage op h)
    (start_stage horphans hrouter hnew config serverAddr now e) ops
  generalize (handshakeLink F H clientAddr).exec (start config serverAddr now e server) ops = s
    at hstage hclient hserver
  have hpast : Past clientAddr s.server session := ⟨hserver, by rw [hconnected]; rfl⟩
  rw [Stage, hclient] at hstage
  obtain ⟨hmtu, hanswered, hreplied⟩ := hstage
  refine ⟨hreplied session hpast, ?_⟩
  rw [hmtu, eq_comm, hanswered.agrees session hpast, true_and]

/-! ## Two runs -/

open TransportServer

/-- The replies of a handshake that has come to its end. -/
def HandshakePhase.replies :
    HandshakePhase → Option (OpenConnectionReply1 × OpenConnectionReply2)
  | .established reply1 reply2 => some (reply1, reply2)
  | _ => none

theorem HandshakePhase.established_of_replies {phase : HandshakePhase}
    {reply1 : OpenConnectionReply1} {reply2 : OpenConnectionReply2}
    (h : phase.replies = some (reply1, reply2)) : phase = .established reply1 reply2 := by
  cases phase with
  | established => cases h; rfl
  | _ => cases h

def quietHandshakeEnv (now : Instant) : HandshakeEnv :=
  { env := quietClientEnv now
    completion := quietClientEnv now
    overdue := false
    requestMillis := 7
    finishedAt := now }

/-- Both sides with their standard configuration. -/
abbrev standardLink : HandshakeLink ℚ (SortedHeap QueuedFrame QueuedFrame.weight) :=
  start (.standard 99) serverAddr 0 (quietHandshakeEnv 1) keyedServer

abbrev concreteLink :
    Machine (HandshakeLink ℚ (SortedHeap QueuedFrame QueuedFrame.weight)) HandshakeLinkOp Unit :=
  handshakeLink ℚ (SortedHeap QueuedFrame QueuedFrame.weight) clientAddr

/-- The rest of the handshake, with the second reply behind so many first replies. -/
def completingRun (behind : Nat) : List HandshakeLinkOp :=
  [.toClient (quietHandshakeEnv 7) 0, .toServer (quietEnv 8) 0,
    .toClient (quietHandshakeEnv 9) behind, .toServer (quietEnv 10) 0,
    .toClient (quietHandshakeEnv 11) behind, .toServer (quietEnv 12) 0]

/-- The first probe is answered at once. -/
def promptRun : List HandshakeLinkOp := .toServer (quietEnv 2) 0 :: completingRun 0

/-- The first five probes arrive in their order, before the first reply to any of them does. -/
def overtakenRun : List HandshakeLinkOp :=
  [.timedOut (quietHandshakeEnv 2), .timedOut (quietHandshakeEnv 3),
    .timedOut (quietHandshakeEnv 4), .timedOut (quietHandshakeEnv 5)] ++
  List.replicate 5 (.toServer (quietEnv 6) 0) ++ completingRun 4

theorem mtu_agreed_iff_prompt :
    ∃ reply1 reply2 session,
      (concreteLink.exec standardLink promptRun).handshake.phase = .established reply1 reply2 ∧
      (concreteLink.exec standardLink promptRun).server.sessions.lookup clientAddr = some session ∧
      session.mtu = reply2.mtu.toNat ∧
      ((concreteLink.exec standardLink promptRun).handshake.client.session.mtu = session.mtu ↔
        concreteLink.AllSteps (fun s op => s.fits clientAddr op = true) standardLink promptRun) := by
  have hreplies : ((concreteLink.exec standardLink promptRun).handshake.phase.replies).isSome
      = true := by decide +kernel
  have hstate : ((concreteLink.exec standardLink promptRun).server.sessions.lookup clientAddr).map
      Session.state = some .connected := by decide +kernel
  obtain ⟨⟨reply1, reply2⟩, hsome⟩ := Option.isSome_iff_exists.mp hreplies
  obtain ⟨session, hserver, hconnected⟩ := Option.map_eq_some_iff.mp hstate
  have hclient := HandshakePhase.established_of_replies hsome
  have horphans : keyedServer.NoOrphans := fun _ _ => rfl
  have hnew : keyedServer.sessions.lookup clientAddr = none := rfl
  unfold concreteLink standardLink at hclient hserver ⊢
  have hagreed := mtu_agreed_iff horphans rfl hnew (.standard 99) serverAddr 0
    (quietHandshakeEnv 1) promptRun hclient hserver hconnected
  exact ⟨reply1, reply2, session, hclient, hserver, hagreed⟩

/-- The last of the probes has lowered the MTU of the server, and the client keeps the one of the
    reply to the first. -/
theorem mtu_differs :
    ((concreteLink.exec standardLink overtakenRun).handshake.phase.replies.map fun r =>
        (r.1.mtu, r.2.mtu)) = some (1200, 576) ∧
    (concreteLink.exec standardLink overtakenRun).handshake.client.session.mtu = 1200 ∧
    (((concreteLink.exec standardLink overtakenRun).server.sessions.lookup clientAddr).map
      fun session => (session.state, session.mtu)) = some (.connected, 576) := by
  decide +kernel

end Raknet
