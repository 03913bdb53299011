-- SUMMARY: What the handshake of a client sends and does to its MTU, from one wait to the next.
import Raknet.Facade.ClientHandshake
import Raknet.Handshake.Kinds
import Raknet.Transport.MtuFit

/-!
# The steps of the client's handshake

Only the answer to a first reply sends a second request, and only there does the MTU of the
session change. `Advance` lists what a wait can end in.
-/

namespace Raknet

open Decoder

/-! ## Packets that are no second request -/

/-- No server reads the bytes as a second request. -/
def AsksNothing (bytes : Bytes) : Prop := ∀ magic, requestedMtu magic bytes = none

theorem IsDatagram.asksNothing {bytes : Bytes} (h : IsDatagram bytes) : AsksNothing bytes := by
  intro magic
  unfold requestedMtu
  split
  · next hread => exact absurd hread (h.not_offline magic _)
  · rfl

theorem asksNothing_request1 {pkt : OpenConnectionRequest1} {bytes : Bytes}
    (h : (OfflinePacket.openConnectionRequest1 pkt).encode = .ok bytes) : AsksNothing bytes := by
  have hstrict : (OfflinePacket.openConnectionRequest1 pkt).Strict := trivial
  intro magic
  unfold requestedMtu
  split
  · next hread => cases OfflinePacket.eq_of_decode hstrict h hread
  · rfl

/-- A second request asks for its MTU. -/
theorem requestedMtu_request2 {pkt : OpenConnectionRequest2}
    (hstrict : (OfflinePacket.openConnectionRequest2 pkt).Strict) {bytes : Bytes}
    (h : (OfflinePacket.openConnectionRequest2 pkt).encode = .ok bytes) {magic : Magic}
    {mtu : UInt16} (hmtu : requestedMtu magic bytes = some mtu) : mtu = pkt.mtu := by
  unfold requestedMtu at hmtu
  split at hmtu
  · next hread =>
    cases OfflinePacket.eq_of_decode hstrict h hread
    exact (Option.some.inj hmtu).symm
  · cases hmtu

variable {F H : Type}

namespace RaknetClient

/-- The call has sent no second request and has kept the MTU. -/
structure Sends (c c' : RaknetClient F H) : Prop where
  socket : ∃ packets, c'.socket = c.socket ++ packets ∧ ∀ bytes ∈ packets, AsksNothing bytes
  mtu : c'.session.mtu = c.session.mtu

variable {c c' c'' : RaknetClient F H}

/-- A call that sends nothing. -/
theorem Sends.silent (hsocket : c'.socket = c.socket) (hmtu : c'.session.mtu = c.session.mtu) :
    Sends c c' :=
  ⟨⟨[], by rw [hsocket, List.append_nil], List.forall_mem_nil _⟩, hmtu⟩

theorem Sends.refl (c : RaknetClient F H) : Sends c c := .silent rfl rfl

theorem Sends.trans (h : Sends c c') (h' : Sends c' c'') : Sends c c'' := by
  obtain ⟨packets, hsocket, hpackets⟩ := h.socket
  obtain ⟨packets', hsocket', hpackets'⟩ := h'.socket
  refine ⟨⟨packets ++ packets', ?_, ?_⟩, h'.mtu.trans h.mtu⟩
  · rw [hsocket', hsocket, List.append_assoc]
  · intro bytes hbytes
    rcases List.mem_append.mp hbytes with hbytes | hbytes
    · exact hpackets bytes hbytes
    · exact hpackets' bytes hbytes

theorem andThen_sends {α : Type} {r : Except RaknetClientError Unit × RaknetClient F H}
    {k : RaknetClient F H → Except RaknetClientError α × RaknetClient F H} (hr : Sends c r.2)
    (hk : ∀ c₁, Sends c₁ (k c₁).2) : Sends c (andThen r k).2 := by
  obtain ⟨result, c₁⟩ := r
  cases result with
  | error e => exact hr
  | ok => exact hr.trans (hk c₁)

/-! ## Sessions -/

theorem transitionTo_mtu (session : Session F H) (next : SessionState) :
    (session.transitionTo next).2.mtu = session.mtu := by
  unfold Session.transitionTo
  split <;> rfl

theorem moveTo_sends (c : RaknetClient F H) (next : SessionState) : Sends c (c.moveTo next).2 :=
  .silent rfl (transitionTo_mtu c.session next)

theorem finishClose_sends (c : RaknetClient F H) (reason : ClientDisconnectReason) :
    Sends c (c.finishClose reason) := by
  unfold finishClose
  split
  · exact .refl c
  · refine .silent rfl ?_
    dsimp only [closeSession]
    rw [transitionTo_mtu]
    split
    · exact transitionTo_mtu c.session .closing
    · rfl

/-- A packet that asks nothing is sent, or the call fails. -/
theorem send_sends {env : ClientEnv} {attempt : Nat} {encoded : Except EncodeError Bytes}
    (hencoded : ∀ bytes, encoded = .ok bytes → AsksNothing bytes) :
    Sends c (c.send env attempt encoded).2 := by
  unfold send
  cases encoded with
  | error e => exact .refl c
  | ok bytes =>
    dsimp only
    split
    · exact ⟨⟨[bytes], rfl, fun b hb => List.mem_singleton.mp hb ▸ hencoded bytes rfl⟩, rfl⟩
    · exact .refl c

theorem sendDatagrams_sends (env : ClientEnv) (attempt : Nat) (datagrams : List Datagram)
    (c : RaknetClient F H) : Sends c (c.sendDatagrams env attempt datagrams).2 := by
  induction datagrams generalizing attempt c with
  | nil => exact .refl c
  | cons datagram rest ih =>
    have hfirst : Sends c (c.send env attempt datagram.encode).2 :=
      send_sends fun bytes hbytes => IsDatagram.asksNothing ⟨datagram, hbytes⟩
    unfold sendDatagrams
    generalize c.send env attempt datagram.encode = r at hfirst ⊢
    obtain ⟨result, c₁⟩ := r
    cases result with
    | error e => exact hfirst
    | ok => exact hfirst.trans (ih (attempt + 1) c₁)

variable [F64 F] [MinHeap H QueuedFrame QueuedFrame.weight]

theorem queuePayloadWithReceipt_mtu (session : Session F H) (payload : Bytes)
    (reliability : Reliability) (channel : UInt8) (priority : RakPriority)
    (receiptId : Option UInt64) :
    (session.queuePayloadWithReceipt payload reliability channel priority receiptId).2.2.mtu
      = session.mtu :=
  Session.step_mtu_eq (.queuePayload payload reliability channel priority receiptId)
    fun mtu h => by cases h

theorem queuePayloadWithOptionalReceipt_sends (c : RaknetClient F H) (payload : Bytes)
    (reliability : Reliability) (channel : UInt8) (priority : RakPriority)
    (receiptId : Option UInt64) :
    Sends c (c.queuePayloadWithOptionalReceipt payload reliability channel priority receiptId).2 := by
  have hmtu := queuePayloadWithReceipt_mtu c.session payload reliability channel priority receiptId
  unfold queuePayloadWithOptionalReceipt
  generalize c.session.queuePayloadWithReceipt payload reliability channel priority receiptId = r
    at hmtu ⊢
  obtain ⟨decision, _, session⟩ := r
  have hqueued : Sends c { c with session } := .silent rfl hmtu
  cases decision with
  | disconnectRequested => exact hqueued.trans (finishClose_sends _ .backpressure)
  | _ => exact hqueued

theorem queueConnectedControlPacket_sends (c : RaknetClient F H) (packet : ConnectedControlPacket)
    (reliability : Reliability) (channel : UInt8) (priority : RakPriority) :
    Sends c (c.queueConnectedControlPacket packet reliability channel priority).2 := by
  unfold queueConnectedControlPacket
  split
  · exact .refl c
  · exact c.queuePayloadWithOptionalReceipt_sends _ reliability channel priority none

theorem queueKeepalivePing_sends (c : RaknetClient F H) (env : ClientEnv) :
    Sends c (c.queueKeepalivePing env) := by
  unfold queueKeepalivePing
  split
  · exact .refl c
  split
  · exact .refl c
  · next payload _ =>
    have hmtu := queuePayloadWithReceipt_mtu c.session payload .unreliable 0 .low none
    dsimp only
    split
    · exact .silent rfl hmtu
    · exact .silent rfl hmtu

theorem flushOutboundWithLimits_sends (c : RaknetClient F H) (env : ClientEnv) (attempt : Nat)
    (maxNew maxNewBytes maxResend maxResendBytes : Nat) :
    Sends c
      (c.flushOutboundWithLimits env attempt maxNew maxNewBytes maxResend maxResendBytes).2 := by
  unfold flushOutboundWithLimits
  split
  · exact .refl c
  have hping := c.queueKeepalivePing_sends env
  generalize c.queueKeepalivePing env = c₁ at hping ⊢
  dsimp only
  have hmtu : (c₁.session.onTick env.tickedAt maxNew maxNewBytes maxResend maxResendBytes).2.mtu
      = c₁.session.mtu :=
    Session.step_mtu_eq (.onTick env.tickedAt maxNew maxNewBytes maxResend maxResendBytes)
      fun mtu h => by cases h
  generalize c₁.session.onTick env.tickedAt maxNew maxNewBytes maxResend maxResendBytes = r
    at hmtu ⊢
  obtain ⟨output, session⟩ := r
  have hticked : Sends c₁ { c₁ with session } := .silent rfl hmtu
  have hsent := (hping.trans hticked).trans
    (sendDatagrams_sends env attempt output.datagrams { c₁ with session })
  dsimp only
  generalize ({ c₁ with session } : RaknetClient F H).sendDatagrams env attempt output.datagrams = r
    at hsent ⊢
  obtain ⟨result, c₂⟩ := r
  cases result with
  | error e => exact hsent
  | ok =>
    have htaken : Sends c₂ { c₂ with session := c₂.session.takeBackpressureDisconnect.2 } :=
      .silent rfl rfl
    dsimp only
    split
    · exact (hsent.trans htaken).trans (finishClose_sends _ .backpressure)
    · exact hsent.trans htaken

theorem flushRecv_sends (c : RaknetClient F H) (env : ClientEnv) (attempt : Nat) :
    Sends c (c.flushRecv env attempt).2 :=
  c.flushOutboundWithLimits_sends env attempt _ _ _ _

/-! ## Between two waits -/

theorem sendConnectionRequest_sends (c : RaknetClient F H) (e : HandshakeEnv) :
    Sends c (c.sendConnectionRequest e).2 :=
  andThen_sends (c.moveTo_sends _) fun c =>
  andThen_sends (c.moveTo_sends _) fun c =>
  andThen_sends (c.queueConnectedControlPacket_sends _ _ _ _) fun c => c.flushRecv_sends e.env 0

theorem completeHandshake_sends (c : RaknetClient F H) (e : HandshakeEnv)
    (accepted : ConnectionRequestAccepted) : Sends c (c.completeHandshake e accepted).2 :=
  andThen_sends (c.moveTo_sends _) fun c =>
  andThen_sends (c.moveTo_sends _) fun c =>
  andThen_sends (c.queueConnectedControlPacket_sends _ _ _ _) fun c =>
  andThen_sends (c.flushRecv_sends e.completion 0) fun c =>
  andThen_sends (c.moveTo_sends _) fun _ => .silent rfl rfl

theorem handshakeFrame_sends (c : RaknetClient F H) (pongMillis : Int64) (frame : Frame)
    (accepted : Option ConnectionRequestAccepted) :
    Sends c (c.handshakeFrame pongMillis frame accepted).2 := by
  unfold handshakeFrame
  split
  · exact .refl c
  split
  · exact .refl c
  split
  all_goals first
    | exact .refl c
    | exact andThen_sends (c.queueConnectedControlPacket_sends _ _ _ _) fun c => .refl c

theorem handshakeFrames_sends (env : ClientEnv) (i : Nat) (frames : List Frame)
    (accepted : Option ConnectionRequestAccepted) (c : RaknetClient F H) :
    Sends c (c.handshakeFrames env i frames accepted).2 := by
  induction frames generalizing i accepted c with
  | nil => exact .refl c
  | cons frame frames ih =>
    have hframe := c.handshakeFrame_sends (env.pongMillis i) frame accepted
    unfold handshakeFrames
    generalize c.handshakeFrame (env.pongMillis i) frame accepted = r at hframe ⊢
    obtain ⟨result, c₁⟩ := r
    cases result with
    | error e => exact hframe
    | ok accepted => exact hframe.trans (ih (i + 1) accepted c₁)

theorem processHandshakeDatagram_sends (c : RaknetClient F H) (env : ClientEnv)
    (datagram : Datagram) : Sends c (c.processHandshakeDatagram env datagram).2 := by
  have hmtu : (c.session.ingestDatagram datagram env.ingestedAt).2.mtu = c.session.mtu :=
    Session.step_mtu_eq (.ingestDatagram datagram env.ingestedAt) fun mtu h => by cases h
  unfold processHandshakeDatagram
  generalize c.session.ingestDatagram datagram env.ingestedAt = r at hmtu ⊢
  obtain ⟨result, session⟩ := r
  cases result with
  | error e => exact .silent rfl hmtu
  | ok frames =>
    have hreceipts : (session.processIncomingReceipts env.ingestedAt).2.mtu = session.mtu :=
      Session.step_mtu_eq (.processIncomingReceipts env.ingestedAt) fun mtu h => by cases h
    dsimp only
    generalize (session.processIncomingReceipts env.ingestedAt).2 = session' at hreceipts ⊢
    have hingested : Sends c { c with session := session' } :=
      .silent rfl (hreceipts.trans hmtu)
    have hframes := hingested.trans (handshakeFrames_sends env 0 frames none _)
    generalize handshakeFrames env 0 frames none ({ c with session := session' } :
      RaknetClient F H) = r at hframes ⊢
    obtain ⟨result, c₁⟩ := r
    cases result with
    | error e => exact hframes
    | ok accepted => exact andThen_sends (hframes.trans (c₁.flushRecv_sends env 0)) fun c => .refl c

omit [F64 F] [MinHeap H QueuedFrame QueuedFrame.weight] in
theorem andThen_ok {α : Type} {r : Except RaknetClientError Unit × RaknetClient F H}
    {k : RaknetClient F H → Except RaknetClientError α × RaknetClient F H} {a : α}
    (h : andThen r k = (.ok a, c')) : ∃ c₁, r = (.ok (), c₁) ∧ k c₁ = (.ok a, c') := by
  obtain ⟨result, c₁⟩ := r
  cases result with
  | error e => cases h
  | ok => exact ⟨c₁, rfl, h⟩

omit [F64 F] [MinHeap H QueuedFrame QueuedFrame.weight] in
theorem send_ok {env : ClientEnv} {attempt : Nat} {encoded : Except EncodeError Bytes}
    (h : c.send env attempt encoded = (.ok (), c')) :
    ∃ bytes, encoded = .ok bytes ∧ { c with socket := c.socket ++ [bytes] } = c' := by
  unfold send at h
  cases encoded with
  | error e => cases h
  | ok bytes =>
    dsimp only at h
    split at h
    · exact ⟨bytes, rfl, congrArg Prod.snd h⟩
    · cases h

omit [F64 F] [MinHeap H QueuedFrame QueuedFrame.weight] in
/-- The second request is sent with the MTU of the first reply, which is the one of the session
    then, or the call fails. -/
theorem sendRequest2_outcome (c : RaknetClient F H) (env : ClientEnv)
    (reply1 : OpenConnectionReply1) {c' : RaknetClient F H}
    (h : c.sendRequest2 env reply1 = (.ok (), c')) :
    (∃ sent, c'.socket = c.socket ++ [sent] ∧
      ∀ magic mtu, requestedMtu magic sent = some mtu → mtu = reply1.mtu) ∧
    c'.session.mtu = (clampMtu reply1.mtu).toNat := by
  obtain ⟨c₁, hfirst, hrest⟩ := andThen_ok h
  obtain ⟨c₂, hsecond, hsend⟩ := andThen_ok hrest
  obtain ⟨bytes, hbytes, rfl⟩ := send_ok hsend
  obtain rfl : (c.moveTo .reply1Sent).2 = c₁ := congrArg Prod.snd hfirst
  obtain rfl : (moveTo _ .req2Recv).2 = c₂ := congrArg Prod.snd hsecond
  refine ⟨⟨bytes, rfl, fun magic mtu hmtu => requestedMtu_request2 ?_ hbytes hmtu⟩, ?_⟩
  · exact ⟨fun _ => rfl, rfl⟩
  · exact transitionTo_mtu _ .req2Recv

end RaknetClient

namespace ClientHandshake

open RaknetClient

/-- What the wait for a packet can end in, with the packet if there was one. -/
inductive Advance (h : ClientHandshake F H) : Option Bytes → ClientHandshake F H → Prop
  | waits {packet : Option Bytes} {c : RaknetClient F H} (hsends : Sends h.client c) :
      Advance h packet ⟨c, h.phase⟩
  | probes {packet : Option Bytes} {c : RaknetClient F H} {rest rest' : List UInt16}
      (hphase : h.phase = .probing rest) (hsends : Sends h.client c) :
      Advance h packet ⟨c, .probing rest'⟩
  | fails {packet : Option Bytes} {c : RaknetClient F H} {error : RaknetClientError} :
      Advance h packet ⟨c, .failed error⟩
  | requests {bytes left sent : Bytes} {c : RaknetClient F H} {rest : List UInt16}
      {reply1 : OpenConnectionReply1} (hphase : h.phase = .probing rest)
      (hread : OfflinePacket.decode.run bytes = .ok (.openConnectionReply1 reply1, left))
      (hsocket : c.socket = h.client.socket ++ [sent])
      (hsent : ∀ magic mtu, requestedMtu magic sent = some mtu → mtu = reply1.mtu)
      (hmtu : c.session.mtu = (clampMtu reply1.mtu).toNat) :
      Advance h (some bytes) ⟨c, .awaitingReply2 reply1⟩
  | answered {bytes left : Bytes} {c : RaknetClient F H} {reply1 : OpenConnectionReply1}
      {reply2 : OpenConnectionReply2} (hphase : h.phase = .awaitingReply2 reply1)
      (hread : OfflinePacket.decode.run bytes = .ok (.openConnectionReply2 reply2, left))
      (hsends : Sends h.client c) : Advance h (some bytes) ⟨c, .awaitingAccepted reply1 reply2⟩
  | established {packet : Option Bytes} {c : RaknetClient F H} {reply1 : OpenConnectionReply1}
      {reply2 : OpenConnectionReply2} (hphase : h.phase = .awaitingAccepted reply1 reply2)
      (hsends : Sends h.client c) : Advance h packet ⟨c, .established reply1 reply2⟩

theorem Advance.refl (h : ClientHandshake F H) (packet : Option Bytes) : Advance h packet h :=
  .waits (.refl h.client)

/-- A probe asks for nothing yet. -/
theorem probe_sends (c : RaknetClient F H) (e : HandshakeEnv) (mtus : List UInt16) :
    (∃ rest, (probe c e mtus).phase = .probing rest ∧ Sends c (probe c e mtus).client) ∨
    ∃ error, (probe c e mtus).phase = .failed error := by
  cases mtus with
  | nil => exact .inr ⟨_, rfl⟩
  | cons mtu rest =>
    rw [probe]
    by_cases hoverdue : e.overdue = true
    · rw [if_pos hoverdue]
      exact .inr ⟨_, rfl⟩
    · have hsent : Sends c (c.send e.env 0 (c.request1 mtu).encode).2 :=
        send_sends fun bytes hbytes => asksNothing_request1 hbytes
      rw [if_neg hoverdue]
      generalize c.send e.env 0 (c.request1 mtu).encode = r at hsent ⊢
      obtain ⟨result, c'⟩ := r
      cases result with
      | error error => exact .inr ⟨error, rfl⟩
      | ok => exact .inl ⟨rest, rfl, hsent⟩

/-- Up to its first wait the client has sent a probe at most. -/
theorem start_asks (config : RaknetClientConfig) (serverAddr : SocketAddr) (now : Instant)
    (e : HandshakeEnv) [F64 F] [MinHeap H QueuedFrame QueuedFrame.weight] :
    (∃ rest, (start config serverAddr now e : ClientHandshake F H).phase = .probing rest ∧
      ∀ bytes ∈ (start config serverAddr now e : ClientHandshake F H).client.socket,
        AsksNothing bytes) ∨
    ∃ error, (start config serverAddr now e : ClientHandshake F H).phase = .failed error := by
  unfold start
  dsimp only
  split
  · next c hmoved =>
    obtain rfl : (RaknetClient.moveTo _ .req1Recv).2 = c := congrArg Prod.snd hmoved
    rcases probe_sends (RaknetClient.moveTo _ .req1Recv).2 e config.probes with
      ⟨rest, hphase, hsends⟩ | hfailed
    · obtain ⟨packets, hsocket, hpackets⟩ := hsends.socket
      refine .inl ⟨rest, hphase, ?_⟩
      rw [hsocket]
      exact hpackets
    · exact .inr hfailed
  · exact .inr ⟨_, rfl⟩

theorem timedOut_advance (h : ClientHandshake F H) (e : HandshakeEnv) :
    Advance h none (h.timedOut e) := by
  unfold timedOut
  cases hphase : h.phase with
  | probing rest =>
    dsimp only
    have hprobe := probe_sends h.client e rest
    generalize probe h.client e rest = h' at hprobe
    obtain ⟨c, phase⟩ := h'
    rcases hprobe with ⟨rest', rfl, hsends⟩ | ⟨error, rfl⟩
    · exact .probes hphase hsends
    · exact .fails
  | awaitingReply2 _ | awaitingAccepted _ _ => exact .fails
  | established _ _ | failed _ => exact .refl h none

variable [F64 F] [MinHeap H QueuedFrame QueuedFrame.weight]

theorem failed_advance (h : ClientHandshake F H) (e : HandshakeEnv) :
    Advance h none (h.step e .failed) := by
  unfold step
  cases hphase : h.phase with
  | established _ _ | failed _ => exact .refl h none
  | _ => exact .fails

theorem receive_advance (h : ClientHandshake F H) (e : HandshakeEnv) (bytes : Bytes) :
    Advance h (some bytes) (h.receive e bytes) := by
  unfold receive
  cases hphase : h.phase with
  | probing rest =>
    dsimp only
    cases hread : OfflinePacket.decode.run bytes with
    | error fault => exact .refl h _
    | ok r =>
      obtain ⟨offline, left⟩ := r
      dsimp only
      split
      · exact .fails
      · next reply1 _ =>
        cases hsend : h.client.sendRequest2 e.env reply1 with
        | mk result c =>
          cases result with
          | error error => exact .fails
          | ok =>
            obtain ⟨⟨sent, hsocket, hsent⟩, hmtu⟩ := h.client.sendRequest2_outcome e.env reply1 hsend
            exact .requests hphase hread hsocket hsent hmtu
      · exact .refl h _
  | awaitingReply2 reply1 =>
    dsimp only
    cases hread : OfflinePacket.decode.run bytes with
    | error fault => exact .refl h _
    | ok r =>
      obtain ⟨offline, left⟩ := r
      dsimp only
      split
      · exact .fails
      · next reply2 _ =>
        have hsends := h.client.sendConnectionRequest_sends e
        generalize h.client.sendConnectionRequest e = r at hsends ⊢
        obtain ⟨result, c⟩ := r
        cases result with
        | error error => exact .fails
        | ok => exact .answered hphase hread hsends
      · exact .refl h _
  | awaitingAccepted reply1 reply2 =>
    dsimp only
    split
    · split
      · exact .fails
      · exact .refl h _
    split
    · exact .refl h _
    · next datagram _ _ =>
      have hsends := h.client.processHandshakeDatagram_sends e.env datagram
      generalize h.client.processHandshakeDatagram e.env datagram = r at hsends ⊢
      obtain ⟨result, c⟩ := r
      cases result with
      | error error => exact .fails
      | ok accepted =>
        cases accepted with
        | none => exact hphase ▸ .waits hsends
        | some accepted =>
          have hcompletes := hsends.trans (c.completeHandshake_sends e accepted)
          dsimp only
          generalize c.completeHandshake e accepted = r at hcompletes ⊢
          obtain ⟨result, c'⟩ := r
          cases result with
          | error error => exact .fails
          | ok => exact .established hphase (hcompletes.trans (.silent rfl rfl))
  | established _ _ | failed _ => exact .refl h _

end ClientHandshake

end Raknet
