-- SUMMARY: No session gets past the offline handshake without a valid cookie.
import Raknet.Transport.PeerSteps

/-!
# The cookie gate

A session that has sent its second reply goes back to a first request of its
address, and to a second one with a valid cookie behind it. The invariant traces
every session to the step that opened it; the moves of a session between the two
requests never pass `Reply2Sent`.
-/

namespace Raknet

open Decoder

variable {F H : Type} [F64 F] [MinHeap H QueuedFrame QueuedFrame.weight]

namespace TransportServer

/-- The operation leaves the address a session, and it is not a new one. -/
def KeepsSession (a : SocketAddr) (s : TransportServer F H) (op : TransportOp) : Prop :=
  (((s.step op).1.sessions.lookup a).isSome = true) ∧ ¬s.OpensSession op a

/-- The session of the address was opened by a first request, it has been there
    since, and a valid cookie came for it if it has got as far as that. -/
def Traced (s₀ : TransportServer F H) (a : SocketAddr) (ops : List TransportOp)
    (past : Bool) : Prop :=
  ∃ pre op post, ops = pre ++ op :: post ∧
    ((transportMachine F H).exec s₀ pre).OpensSession op a ∧
    (transportMachine F H).AllSteps (KeepsSession a)
      ((transportMachine F H).exec s₀ (pre ++ [op])) post ∧
    (past = true → (transportMachine F H).SomeStep (fun s op => s.VerifiesCookie op a)
      ((transportMachine F H).exec s₀ (pre ++ [op])) post)

theorem Traced.opened {s₀ : TransportServer F H} {a : SocketAddr} {ops : List TransportOp}
    {op : TransportOp} (h : ((transportMachine F H).exec s₀ ops).OpensSession op a) :
    Traced s₀ a (ops ++ [op]) false :=
  ⟨ops, op, [], rfl, h, trivial, nofun⟩

/-- A session stays traced while it is kept; it passes the gate with a cookie. -/
theorem Traced.kept {s₀ : TransportServer F H} {a : SocketAddr} {ops : List TransportOp}
    {op : TransportOp} {past past' : Bool} (h : Traced s₀ a ops past)
    (hkeeps : KeepsSession a ((transportMachine F H).exec s₀ ops) op)
    (hpast : past' = true →
      past = true ∨ ((transportMachine F H).exec s₀ ops).VerifiesCookie op a) :
    Traced s₀ a (ops ++ [op]) past' := by
  obtain ⟨pre, op₁, post, rfl, hopens, hall, hverified⟩ := h
  have hexec : (transportMachine F H).exec ((transportMachine F H).exec s₀ (pre ++ [op₁])) post
      = (transportMachine F H).exec s₀ (pre ++ op₁ :: post) := by
    rw [← Machine.exec_append, List.append_assoc]
    rfl
  refine ⟨pre, op₁, post ++ [op], by simp, hopens, ?_, fun h' => ?_⟩
  · rw [Machine.allSteps_append, hexec]
    exact ⟨hall, hkeeps, trivial⟩
  · rw [Machine.someStep_append, hexec]
    rcases hpast h' with hpast | hnow
    · exact .inl (hverified hpast)
    · exact .inr (.inl hnow)

/-- One step keeps every session traced. -/
theorem traced_step {s₀ : TransportServer F H} {ops : List TransportOp}
    (hs : ((transportMachine F H).exec s₀ ops).NoOrphans)
    (hsend : ((transportMachine F H).exec s₀ ops).config.sendCookie = true) {a : SocketAddr}
    (htraced : ∀ st, (((transportMachine F H).exec s₀ ops).peer a).1 = some st →
      Traced s₀ a ops st.pastReply2) (op : TransportOp) {st : SessionState}
    (hst : ((((transportMachine F H).exec s₀ ops).step op).1.peer a).1 = some st) :
    Traced s₀ a (ops ++ [op]) st.pastReply2 := by
  by_cases hopens : ((transportMachine F H).exec s₀ ops).OpensSession op a
  · obtain ⟨pending, hpeer⟩ := hopens.peer
    rw [hpeer] at hst
    cases hst
    exact .opened hopens
  · have hkeeps : KeepsSession a ((transportMachine F H).exec s₀ ops) op := by
      refine ⟨?_, hopens⟩
      rw [peer, peerOf] at hst
      cases hlookup : AList.lookup a (((transportMachine F H).exec s₀ ops).step op).1.sessions with
      | none =>
        rw [hlookup] at hst
        cases hst
      | some _ => rfl
    have hstep := step_peer hs op a
    generalize (((transportMachine F H).exec s₀ ops).step op).1.peer a = v at hstep hst
    cases hstep with
    | kept => exact (htraced st hst).kept hkeeps .inl
    | closed => cases hst
    | opened h => exact absurd h hopens
    | accepted hpeer _ hverifies =>
      cases hst
      exact (htraced _ (congrArg Prod.fst hpeer)).kept hkeeps fun _ => .inr (hverifies hsend)
    | received hpeer hchange =>
      have hbefore := htraced _ (congrArg Prod.fst hpeer)
      cases hchange with
      | closed _ => cases hst
      | finished hmoves _ | cutShort hmoves _ =>
        cases hst
        exact hbefore.kept hkeeps fun h => .inl (hmoves.past h)

/-- Every session of a run from an empty server is traced. -/
theorem exec_traced {s₀ : TransportServer F H} (h₀ : ∀ a, s₀.peer a = (none, none))
    (hsend : s₀.config.sendCookie = true) (a : SocketAddr) (ops : List TransportOp) :
    ∀ st, (((transportMachine F H).exec s₀ ops).peer a).1 = some st →
      Traced s₀ a ops st.pastReply2 := by
  have hstart : s₀.NoOrphans := fun a _ => by rw [h₀]
  induction ops using List.reverseRecOn with
  | nil =>
    intro st hst
    rw [Machine.exec_nil, h₀] at hst
    cases hst
  | append_singleton ops op ih =>
    intro st hst
    obtain ⟨hs, hconfig⟩ := exec_noOrphans hstart ops
    rw [Machine.exec_append] at hst
    exact traced_step hs (hconfig ▸ hsend) ih op hst

/-- With cookies in use, whenever the server holds a session that has sent its
    second reply or gone further, a first request of the address opened it, and
    while it was held a second request of the address came with the cookie of
    the address under a key that was current or previous then, in time. -/
theorem past_reply2_verified (config : TransportConfig F) (hsend : config.sendCookie = true)
    (socketAddr : Option SocketAddr) (hmacSha256 : CookieKey → Bytes → Octets 32)
    (key : CookieKey) (now : Instant) (ops : List TransportOp) (a : SocketAddr)
    (session : Session F H)
    (hlookup : ((transportMachine F H).exec
      (withSocket config socketAddr hmacSha256 key now) ops).sessions.lookup a = some session)
    (hpast : session.state.pastReply2 = true) :
    ∃ pre op post, ops = pre ++ op :: post ∧
      OpensSession ((transportMachine F H).exec
        (withSocket config socketAddr hmacSha256 key now) pre) op a ∧
      (transportMachine F H).AllSteps (KeepsSession a)
        ((transportMachine F H).exec
          (withSocket config socketAddr hmacSha256 key now) (pre ++ [op])) post ∧
      (transportMachine F H).SomeStep (fun s op => s.VerifiesCookie op a)
        ((transportMachine F H).exec
          (withSocket config socketAddr hmacSha256 key now) (pre ++ [op])) post := by
  have hst := congrArg Prod.fst (peer_of_lookup hlookup)
  obtain ⟨pre, op, post, hops, hopens, hkept, hverified⟩ :=
    exec_traced (fun _ => rfl) hsend a ops session.state hst
  exact ⟨pre, op, post, hops, hopens, hkept, hverified hpast⟩

/-! ## A handshake -/

/-- The bytes of a packet that can be encoded. -/
def encodedBytes (encoded : Except EncodeError Bytes) : Bytes := encoded.toOption.getD []

def clientAddr : SocketAddr := .v4 ipv4Localhost 50000

def serverAddr : SocketAddr := .v4 ipv4Localhost 19132

def firstKey : CookieKey := ⟨List.replicate 32 1, rfl⟩

def secondKey : CookieKey := ⟨List.replicate 32 2, rfl⟩

/-- A server whose hash returns its key. -/
def keyedServer : ConcreteServer :=
  withSocket .standard none (fun key _ => key) firstKey 0

/-- What the environment is in a call at this time, with a socket that works. -/
def quietEnv (now : Instant) : Env :=
  { now
    closedAt := fun _ => now
    openedAt := now
    nowMillis := fun _ => 7
    nextKey := secondKey
    sendOk := fun _ => true
    order := .identity }

def fromClient (now : Instant) (bytes : Bytes) : TransportOp :=
  .recvAndProcess (quietEnv now) bytes clientAddr

/-- A datagram of ordered frames, the first with this index. -/
def dataBytes (sequence index : Nat) (payloads : List Bytes) : Bytes :=
  encodedBytes (Datagram.encode
    { header := ⟨.valid, Sequence24.new sequence⟩
      payload := .frames (payloads.zipIdx.map fun p =>
        { header := FrameHeader.new .reliableOrdered false false
          bitLength := UInt16.ofNat (p.1.length * 8)
          reliableIndex := some (Sequence24.new (index + p.2))
          sequenceIndex := none
          orderingIndex := some (Sequence24.new (index + p.2))
          orderingChannel := some 0
          split := none
          payload := p.1 }) })

/-- The two requests, with the cookie that the first reply carries, and the
    connection request. -/
def handshakeRun : List TransportOp :=
  [fromClient 1 (encodedBytes (OfflinePacket.openConnectionRequest1
      { protocolVersion := 11
        mtu := 1400
        magic := defaultUnconnectedMagic }).encode),
   fromClient 2 (encodedBytes (OfflinePacket.openConnectionRequest2
      { serverAddr
        mtu := 1400
        clientGuid := 99
        cookie := some 0x01010101
        clientProof := false
        parsePath := .strictWithCookie
        magic := defaultUnconnectedMagic }).encode),
   fromClient 3 (dataBytes 0 0 [encodedBytes (ConnectedControlPacket.connectionRequest
      { clientGuid := 99
        requestTime := 1
        useEncryption := false }).encode])]

theorem past_reply2_verified_handshake :
    ((concreteTransport.exec keyedServer handshakeRun).sessions.lookup clientAddr).map
        Session.state = some .connReqAcceptedSent ∧
      ∃ pre op post, handshakeRun = pre ++ op :: post ∧
        OpensSession (concreteTransport.exec keyedServer pre) op clientAddr ∧
        concreteTransport.AllSteps (KeepsSession clientAddr)
          (concreteTransport.exec keyedServer (pre ++ [op])) post ∧
        concreteTransport.SomeStep (fun s op => s.VerifiesCookie op clientAddr)
          (concreteTransport.exec keyedServer (pre ++ [op])) post := by
  have hstate : ((concreteTransport.exec keyedServer handshakeRun).sessions.lookup clientAddr).map
      Session.state = some .connReqAcceptedSent := by decide +kernel
  obtain ⟨session, hlookup, hsession⟩ := Option.map_eq_some_iff.mp hstate
  refine ⟨hstate, past_reply2_verified .standard rfl none (fun key _ => key) _ 0 handshakeRun
    clientAddr session hlookup ?_⟩
  rw [hsession]
  rfl

end TransportServer

end Raknet
