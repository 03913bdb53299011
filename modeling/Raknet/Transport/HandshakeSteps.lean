-- SUMMARY: What one operation of the server can make of the handshake of an address, with the reply it gives.
import Raknet.Transport.SessionSteps

/-!
# Handshakes across steps

The two replies of a handshake and the entry that the server keeps between them
belong together: `HandshakeStep` says what an operation makes of the entry of an
address and which of the two replies it gives.
-/

namespace Raknet

variable {F H : Type}

/-- The MTU of a first reply to the address. -/
def reply1To (a : SocketAddr) : SocketAddr × OfflinePacket → Option UInt16
  | (addr, .openConnectionReply1 reply1) => if addr = a then some reply1.mtu else none
  | _ => none

/-- The MTU of a second reply to the address. -/
def reply2To (a : SocketAddr) : SocketAddr × OfflinePacket → Option UInt16
  | (addr, .openConnectionReply2 reply2) => if addr = a then some reply2.mtu else none
  | _ => none

theorem reply1To_other {a addr : SocketAddr} (h : a ≠ addr) (reply : OfflinePacket) :
    reply1To a (addr, reply) = none := by
  unfold reply1To
  split
  · next heq =>
    obtain ⟨rfl, -⟩ := Prod.mk.inj heq
    exact if_neg (Ne.symm h)
  · rfl

theorem reply2To_other {a addr : SocketAddr} (h : a ≠ addr) (reply : OfflinePacket) :
    reply2To a (addr, reply) = none := by
  unfold reply2To
  split
  · next heq =>
    obtain ⟨rfl, -⟩ := Prod.mk.inj heq
    exact if_neg (Ne.symm h)
  · rfl

/-- Neither reply of a handshake goes to the address. -/
structure RepliesAside (a : SocketAddr) (replies : List (SocketAddr × OfflinePacket)) : Prop where
  first : replies.filterMap (reply1To a) = []
  second : replies.filterMap (reply2To a) = []

namespace TransportServer

/-- What an operation can make of the handshake of an address, with the replies it gives. -/
inductive HandshakeStep (s : TransportServer F H) (a : SocketAddr) :
    List (SocketAddr × OfflinePacket) → Option PendingHandshake → Prop
  | kept {replies : List (SocketAddr × OfflinePacket)} (h : RepliesAside a replies) :
      HandshakeStep s a replies (s.pendingHandshakes.lookup a)
  | dropped {replies : List (SocketAddr × OfflinePacket)} (h : RepliesAside a replies) :
      HandshakeStep s a replies none
  | opened {reply1 : OpenConnectionReply1} {pending : PendingHandshake}
      (hnegotiated : s.Negotiated reply1.mtu) (hmtu : pending.mtu = reply1.mtu)
      (hstage : pending.stage = .awaitingRequest2) :
      HandshakeStep s a [(a, .openConnectionReply1 reply1)] (some pending)
  | accepted {requested : UInt16} {reply2 : OpenConnectionReply2}
      {pending pending' : PendingHandshake}
      (hpending : s.pendingHandshakes.lookup a = some pending)
      (hstage : pending.stage = .awaitingRequest2)
      (hreply : reply2.mtu = s.negotiateMtu (min requested pending.mtu))
      (hmtu : pending'.mtu = reply2.mtu) (hstage' : pending'.stage = .awaitingConnectionRequest) :
      HandshakeStep s a [(a, .openConnectionReply2 reply2)] (some pending')
  | retried {requested : UInt16} {reply2 : OpenConnectionReply2} {pending : PendingHandshake}
      (hpending : s.pendingHandshakes.lookup a = some pending)
      (hstage : pending.stage = .awaitingConnectionRequest)
      (hreply : reply2.mtu = s.negotiateMtu (min requested pending.mtu)) :
      HandshakeStep s a [(a, .openConnectionReply2 reply2)] (some pending)

theorem negotiateMtu_congr {s s' : TransportServer F H} (h : s'.config = s.config)
    (requested : UInt16) : s'.negotiateMtu requested = s.negotiateMtu requested := by
  unfold negotiateMtu
  rw [h]

theorem Keeps.pending {s s' : TransportServer F H} (h : Keeps s s') (a : SocketAddr) :
    s'.pendingHandshakes.lookup a = s.pendingHandshakes.lookup a ∨
      s'.pendingHandshakes.lookup a = none := by
  rcases h.peer a with hkept | hclosed
  · exact .inl (congrArg Prod.snd hkept)
  · exact .inr (congrArg Prod.snd hclosed)

/-- What housekeeping has done to the entry of an address. -/
theorem Keeps.handshakeStep {s s' : TransportServer F H} (h : Keeps s s') (a : SocketAddr)
    {replies : List (SocketAddr × OfflinePacket)} (hreplies : RepliesAside a replies) :
    HandshakeStep s a replies (s'.pendingHandshakes.lookup a) := by
  rcases h.pending a with hkept | hclosed
  · rw [hkept]
    exact .kept hreplies
  · rw [hclosed]
    exact .dropped hreplies

theorem Keeps.pending_some {s s' : TransportServer F H} (h : Keeps s s') {a : SocketAddr}
    {pending : PendingHandshake} (hpending : s'.pendingHandshakes.lookup a = some pending) :
    s.pendingHandshakes.lookup a = some pending := by
  rcases h.pending a with hkept | hclosed
  · exact hkept ▸ hpending
  · rw [hclosed] at hpending
    cases hpending

/-- The entry may have been dropped by the housekeeping in front. -/
theorem HandshakeStep.after {s m : TransportServer F H} (h : Keeps s m) {a : SocketAddr}
    {replies : List (SocketAddr × OfflinePacket)} {pending' : Option PendingHandshake}
    (hm : HandshakeStep m a replies pending') : HandshakeStep s a replies pending' := by
  cases hm with
  | kept hreplies => exact h.handshakeStep a hreplies
  | dropped hreplies => exact .dropped hreplies
  | opened hnegotiated hmtu hstage => exact .opened (hnegotiated.congr h.config.symm) hmtu hstage
  | accepted hpending hstage hreply hmtu hstage' =>
    exact .accepted (h.pending_some hpending) hstage
      (hreply.trans (negotiateMtu_congr h.config _)) hmtu hstage'
  | retried hpending hstage hreply =>
    exact .retried (h.pending_some hpending) hstage (hreply.trans (negotiateMtu_congr h.config _))

theorem repliesAside_of_opensNothing {r : OfflineResult F H} (h : OpensNothing r)
    (a addr : SocketAddr) : RepliesAside a (r.reply.map fun reply => (addr, reply)).toList := by
  cases hreply : r.reply with
  | none => exact ⟨rfl, rfl⟩
  | some reply =>
    rw [Option.map_some, Option.toList_some]
    constructor
    · rw [List.filterMap_cons_none, List.filterMap_nil]
      cases reply with
      | openConnectionReply1 reply1 => exact absurd hreply (h.offers reply1)
      | _ => rfl
    · rw [List.filterMap_cons_none, List.filterMap_nil]
      cases reply with
      | openConnectionReply2 reply2 => exact absurd hreply (h.accepts reply2)
      | _ => rfl

theorem repliesAside_other {a addr : SocketAddr} (ha : a ≠ addr) (reply : Option OfflinePacket) :
    RepliesAside a (reply.map fun reply => (addr, reply)).toList := by
  cases reply with
  | none => exact ⟨rfl, rfl⟩
  | some reply =>
    exact ⟨List.filterMap_cons_none (reply1To_other ha reply),
      List.filterMap_cons_none (reply2To_other ha reply)⟩

variable [F64 F] [MinHeap H QueuedFrame QueuedFrame.weight]

/-- The reply to an offline packet with its address, whether or not the socket takes it. -/
def offlineReply (s : TransportServer F H) : TransportOp → List (SocketAddr × OfflinePacket)
  | .recvAndProcess env bytes observedAddr =>
    match s.triage env bytes observedAddr with
    | .offline addr packet m =>
      ((m.handleOfflinePacket env addr packet).reply.map fun reply => (addr, reply)).toList
    | _ => []
  | _ => []

/-- What an offline packet makes of the handshake of its address. -/
theorem OfflineEffect.handshakeStep {s : TransportServer F H} {env : Env} {addr : SocketAddr}
    {packet : OfflinePacket} {r : OfflineResult F H} (h : OfflineEffect s env addr packet r) :
    HandshakeStep s addr (r.reply.map fun reply => (addr, reply)).toList
      (r.server.pendingHandshakes.lookup addr) := by
  cases h with
  | aside hopens haside =>
    rw [haside.pending]
    exact .kept (repliesAside_of_opensNothing hopens addr addr)
  | closed hopens hclosed =>
    rw [hclosed.pending, AList.lookup_erase]
    exact .dropped (repliesAside_of_opensNothing hopens addr addr)
  | @opened m req1 haside _ _ _ _ =>
    rw [openSession_eq]
    dsimp only
    rw [AList.lookup_insert]
    refine .opened ?_ ?_ ?_
    · exact .congr ⟨req1.mtu, rfl⟩ haside.config.symm
    · rfl
    · rfl
  | @accepted m req2 pending session haside _ hpending hlookup hstage _ _ hstate =>
    rw [acceptRequest2_eq hlookup hstate]
    dsimp only
    rw [AList.lookup_insert]
    have hstage : pending.stage = .awaitingRequest2 := by
      cases hpending' : pending.stage with
      | awaitingRequest2 => rfl
      | awaitingConnectionRequest => exact absurd hpending' hstage
    have hmtu : m.negotiateMtu (min req2.mtu pending.mtu)
        = s.negotiateMtu (min req2.mtu pending.mtu) := negotiateMtu_congr haside.config _
    refine .accepted (haside.pending ▸ hpending) hstage hmtu ?_ ?_
    · rfl
    · rfl
  | @retried m req2 pending session haside _ hpending hlookup hstage hstate =>
    rw [retryRequest2_eq hlookup hstate]
    dsimp only
    rw [hpending]
    have hmtu : m.negotiateMtu (min req2.mtu pending.mtu)
        = s.negotiateMtu (min req2.mtu pending.mtu) := negotiateMtu_congr haside.config _
    exact .retried (haside.pending ▸ hpending) hstage hmtu

/-- A datagram drops the entry of its address or keeps it. -/
theorem DatagramOutcome.keeps_pending {s : TransportServer F H} {env : Env} {addr : SocketAddr}
    {datagram : Datagram} {r : CallResult TransportEvent × TransportServer F H}
    (h : DatagramOutcome s env addr datagram r) {session : Session F H}
    (hlookup : s.sessions.lookup addr = some session) (a : SocketAddr) :
    HandshakeStep s a [] (r.2.pendingHandshakes.lookup a) := by
  obtain ⟨v, hsets, hchange⟩ := h.sets hlookup
  have hpeer : r.2.pendingHandshakes.lookup a = (if a = addr then v else s.peer a).2 :=
    congrArg Prod.snd (hsets.peer a)
  rw [hpeer]
  by_cases ha : a = addr
  · subst ha
    rw [if_pos rfl]
    cases hchange with
    | closed _ => exact .dropped ⟨rfl, rfl⟩
    | finished _ _ =>
      dsimp only
      split
      · exact .dropped ⟨rfl, rfl⟩
      · exact .kept ⟨rfl, rfl⟩
    | cutShort _ _ => exact .kept ⟨rfl, rfl⟩
  · rw [if_neg ha]
    exact .kept ⟨rfl, rfl⟩

/-- The inversion of a step for one handshake. -/
theorem step_handshake {s : TransportServer F H} (hs : s.NoOrphans) (op : TransportOp)
    (a : SocketAddr) :
    HandshakeStep s a (s.offlineReply op) ((s.step op).1.pendingHandshakes.lookup a) := by
  by_cases hoffline : ∃ env bytes observedAddr addr packet m,
      op = .recvAndProcess env bytes observedAddr ∧
        s.triage env bytes observedAddr = .offline addr packet m
  · obtain ⟨env, bytes, observedAddr, addr, packet, m, rfl, htriage⟩ := hoffline
    have hkeeps : Keeps s m := (upkeep_of_triage htriage).keeps
    have heffect := m.handleOfflinePacket_effect env addr packet
    have hafter := (m.processOffline_aside env addr packet).pending
    rw [offlineReply, step, recvAndProcess, htriage]
    dsimp only
    rw [hafter]
    by_cases ha : a = addr
    · subst ha
      exact .after hkeeps heffect.handshakeStep
    · rw [(heffect.sameAt ha).pending]
      exact hkeeps.handshakeStep a (repliesAside_other ha _)
  · have hsilent : s.offlineReply op = [] := by
      unfold offlineReply
      split
      · next env bytes observedAddr =>
        split
        · next addr packet m htriage =>
          exact absurd ⟨env, bytes, observedAddr, addr, packet, m, rfl, htriage⟩ hoffline
        · rfl
      · rfl
    rw [hsilent]
    have hstep := step_inv hs op
    generalize s.step op = r at hstep ⊢
    cases hstep with
    | upkeep _ hupkeep _ => exact hupkeep.keeps.handshakeStep a ⟨rfl, rfl⟩
    | offline hop htriage _ _ _ => exact absurd ⟨_, _, _, _, _, _, hop, htriage⟩ hoffline
    | datagram hop hadmitted houtcome =>
      obtain ⟨session, hlookup⟩ := lookup_of_admitted hadmitted
      exact .after (upkeep_of_admitted hadmitted).keeps (houtcome.keeps_pending hlookup a)

end TransportServer

end Raknet
