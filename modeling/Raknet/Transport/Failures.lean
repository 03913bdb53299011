-- SUMMARY: What a failed send and a malformed control frame cost the other traffic.
import Raknet.Transport.Agreement

/-!
# Failures

`send_datagram(..).await?` ends a call at the first datagram that cannot be sent,
and a control frame that does not decode ends it before anything is sent. What
the sessions have taken from their queues by then is gone. Both results below
say exactly when nothing is lost by it.
-/

namespace Raknet

variable {F H : Type}

namespace TransportServer

/-! ## Calls of send_datagram -/

/-- What the attempt of this number to send a datagram comes to. -/
def sendResult (s : TransportServer F H) (env : Env) (attempt : Nat)
    (p : SocketAddr × Datagram) : CallResult Unit :=
  (s.send env attempt p.1 p.2.encode).1

/-- The attempt does not fail. -/
def sendSucceeds (s : TransportServer F H) (env : Env) (attempt : Nat)
    (p : SocketAddr × Datagram) : Bool :=
  (s.sendResult env attempt p).result.isOk

/-- The datagrams of a list that are handed to `send_datagram`, one after the
    other up to the first failure. -/
def handed (s : TransportServer F H) (env : Env) :
    Nat → List (SocketAddr × Datagram) → List (SocketAddr × Datagram)
  | _, [] => []
  | attempt, p :: rest =>
    if s.sendSucceeds env attempt p then p :: handed s env (attempt + 1) rest else [p]

/-- What the socket takes of the datagrams that are handed over. -/
def takenBySocket (s : TransportServer F H) (env : Env) (attempt : Nat)
    (l : List (SocketAddr × Datagram)) : List (SocketAddr × Bytes) :=
  (l.zipIdx attempt).flatMap fun p => (s.sendResult env p.2 p.1).sent

theorem send_routes (s : TransportServer F H) (env : Env) (attempt : Nat) (addr : SocketAddr)
    (encoded : Except EncodeError Bytes) : SameRoutes s (s.send env attempt addr encoded).2 := by
  have htarget : SameRoutes s (s.routeOutboundTarget addr).2 := by
    unfold routeOutboundTarget
    split
    · exact ⟨rfl, rfl, rfl⟩
    · split
      · dsimp only
        split <;> exact ⟨rfl, rfl, rfl⟩
      · exact ⟨rfl, rfl, rfl⟩
  unfold TransportServer.send
  generalize s.routeOutboundTarget addr = q at htarget ⊢
  obtain ⟨target, s₁⟩ := q
  dsimp only at htarget ⊢
  split
  · exact htarget
  · split
    · exact htarget
    · split <;> exact htarget

theorem SameRoutes.sendResult {s s' : TransportServer F H} (h : SameRoutes s s') (env : Env)
    (attempt : Nat) (p : SocketAddr × Datagram) :
    s'.sendResult env attempt p = s.sendResult env attempt p :=
  (h.send env attempt p.1 p.2.encode).1

theorem SameRoutes.sendSucceeds {s s' : TransportServer F H} (h : SameRoutes s s') (env : Env)
    (attempt : Nat) (p : SocketAddr × Datagram) :
    s'.sendSucceeds env attempt p = s.sendSucceeds env attempt p := by
  rw [TransportServer.sendSucceeds, h.sendResult, TransportServer.sendSucceeds]

theorem SameRoutes.handed {s s' : TransportServer F H} (h : SameRoutes s s') (env : Env)
    (attempt : Nat) (l : List (SocketAddr × Datagram)) :
    s'.handed env attempt l = s.handed env attempt l := by
  induction l generalizing attempt with
  | nil => rfl
  | cons p rest ih => rw [TransportServer.handed, TransportServer.handed, ih, h.sendSucceeds]

theorem SameRoutes.takenBySocket {s s' : TransportServer F H} (h : SameRoutes s s') (env : Env)
    (attempt : Nat) (l : List (SocketAddr × Datagram)) :
    s'.takenBySocket env attempt l = s.takenBySocket env attempt l := by
  simp only [TransportServer.takenBySocket, h.sendResult]

/-- The loop of sends hands over what `handed` says, and the socket takes what
    it takes of it. -/
theorem sendDatagrams_sent (env : Env) (s : TransportServer F H) (attempt : Nat)
    (l : List (SocketAddr × Datagram)) :
    (sendDatagrams env s attempt l).1.sent
      = s.takenBySocket env attempt (s.handed env attempt l) := by
  induction l generalizing s attempt with
  | nil => rfl
  | cons p rest ih =>
    obtain ⟨addr, datagram⟩ := p
    have hroutes := s.send_routes env attempt addr datagram.encode
    unfold sendDatagrams handed sendSucceeds sendResult
    generalize hsend : s.send env attempt addr datagram.encode = q at hroutes ⊢
    obtain ⟨⟨result, sent⟩, s₁⟩ := q
    have hhead : ∀ l, s.takenBySocket env attempt ((addr, datagram) :: l)
        = sent ++ s.takenBySocket env (attempt + 1) l := by
      intro l
      simp only [takenBySocket, List.zipIdx_cons, List.flatMap_cons, sendResult, hsend]
    cases result with
    | error e =>
      simp only [Except.isOk, Except.toBool, Bool.false_eq_true, if_false, hhead]
      simp [takenBySocket]
    | ok _ =>
      dsimp only at hroutes
      simp only [Except.isOk, Except.toBool, if_true, hhead, ih, hroutes.handed,
        hroutes.takenBySocket]

/-- A datagram is handed over if no send in front of it fails. -/
theorem handed_at_iff {s : TransportServer F H} {env : Env} {attempt j : Nat}
    {l : List (SocketAddr × Datagram)} {q : SocketAddr × Datagram} (hq : l[j]? = some q) :
    (s.handed env attempt l)[j]? = some q ↔
      ∀ i p, i < j → l[i]? = some p → s.sendSucceeds env (attempt + i) p = true := by
  induction l generalizing attempt j with
  | nil => cases hq
  | cons p rest ih =>
    cases j with
    | zero =>
      obtain rfl : p = q := Option.some.inj hq
      refine iff_of_true ?_ fun i _ hi => absurd hi (Nat.not_lt_zero i)
      rw [handed]
      split <;> rfl
    | succ j =>
      have hshift : ∀ i, attempt + 1 + i = attempt + (i + 1) := fun i => by omega
      rw [handed]
      by_cases hok : s.sendSucceeds env attempt p = true
      · rw [if_pos hok, List.getElem?_cons_succ, ih hq]
        constructor
        · intro h i p' hi hp'
          cases i with
          | zero =>
            obtain rfl : p = p' := Option.some.inj hp'
            exact hok
          | succ i => exact hshift i ▸ h i p' (by omega) hp'
        · intro h i p' hi hp'
          exact hshift i ▸ h (i + 1) p' (by omega) hp'
      · rw [if_neg hok]
        refine iff_of_false (by simp) fun h => hok (h 0 p (Nat.succ_pos j) rfl)

/-! ## A send that fails in a tick -/

variable [F64 F] [MinHeap H QueuedFrame QueuedFrame.weight]

/-- The sessions are drained one after the other, before anything is sent: the
    server then, and the datagrams with their addresses. -/
def drained (s : TransportServer F H) (env : Env)
    (maxNewDatagrams maxNewBytes maxResendDatagrams maxResendBytes : Nat) :
    TransportServer F H × List (SocketAddr × Datagram) :=
  (env.order.arrange (s.prepareTick env).sessions.keys).foldl
    (tickRound env maxNewDatagrams maxNewBytes maxResendDatagrams maxResendBytes)
    (s.prepareTick env, [])

omit [F64 F] [MinHeap H QueuedFrame QueuedFrame.weight] in
/-- Every send to the address succeeds. -/
def Accepts (s : TransportServer F H) (env : Env) (pending : List (SocketAddr × Datagram))
    (addr : SocketAddr) : Prop :=
  ∀ i p, pending[i]? = some p → p.1 = addr → s.sendSucceeds env i p = true

omit [F64 F] [MinHeap H QueuedFrame QueuedFrame.weight] in
theorem accepts_iff {s : TransportServer F H} {env : Env}
    {pending : List (SocketAddr × Datagram)} {addr : SocketAddr} :
    s.Accepts env pending addr ↔
      ∀ x ∈ pending.zipIdx, x.1.1 = addr → s.sendSucceeds env x.2 x.1 = true := by
  constructor
  · intro h x hx
    exact h x.2 x.1 (List.mem_zipIdx_iff_getElem?.mp hx)
  · intro h i p hp
    exact h (p, i) (List.mem_zipIdx_iff_getElem?.mpr hp)

omit [F64 F] [MinHeap H QueuedFrame QueuedFrame.weight] in
instance decidableAccepts (s : TransportServer F H) (env : Env)
    (pending : List (SocketAddr × Datagram)) (addr : SocketAddr) :
    Decidable (s.Accepts env pending addr) :=
  decidable_of_iff _ accepts_iff.symm

/-- The datagrams of a tick for the addresses whose sends succeed are all handed
    to the socket if and only if no send that fails stands in front of one. -/
theorem tick_failure_contained_iff (s : TransportServer F H) (env : Env)
    (maxNewDatagrams maxNewBytes maxResendDatagrams maxResendBytes : Nat) :
    let d := s.drained env maxNewDatagrams maxNewBytes maxResendDatagrams maxResendBytes
    (s.tickOutbound env maxNewDatagrams maxNewBytes maxResendDatagrams maxResendBytes).1.sent
        = d.1.takenBySocket env 0 (d.1.handed env 0 d.2) ∧
    ((∀ (j : Nat) p, d.2[j]? = some p → d.1.Accepts env d.2 p.1 →
        (d.1.handed env 0 d.2)[j]? = some p) ↔
      ∀ (i j : Nat) p q, i < j → d.2[i]? = some p → d.2[j]? = some q → d.1.Accepts env d.2 q.1 →
        d.1.sendSucceeds env i p = true) := by
  intro d
  refine ⟨sendDatagrams_sent env d.1 0 d.2, ?_, ?_⟩
  · intro h i j p q hij hp hq haccepts
    have := (handed_at_iff hq).mp (h j q hq haccepts) i p hij hp
    rwa [Nat.zero_add] at this
  · intro h j q hq haccepts
    refine (handed_at_iff hq).mpr fun i p hij hp => ?_
    rw [Nat.zero_add]
    exact h i j p q hij hp hq haccepts

omit [F64 F] [MinHeap H QueuedFrame QueuedFrame.weight] in
/-- One datagram that is not handed over, although the sends to its address succeed. -/
theorem not_all_handed {s : TransportServer F H} {env : Env}
    {pending : List (SocketAddr × Datagram)} {j : Nat} {addr : SocketAddr}
    (haddr : pending[j]?.map Prod.fst = some addr) (haccepts : s.Accepts env pending addr)
    (hlost : (s.handed env 0 pending)[j]? = none) :
    ¬∀ (j : Nat) p, pending[j]? = some p → s.Accepts env pending p.1 →
      (s.handed env 0 pending)[j]? = some p := by
  intro h
  obtain ⟨p, hp, rfl⟩ := Option.map_eq_some_iff.mp haddr
  have hhanded := h j p hp haccepts
  rw [hlost] at hhanded
  cases hhanded

def otherAddr : SocketAddr := .v4 ipv4Localhost 50001

/-- Two peers with an unreliable payload in the queue of each. -/
def twoPeersRun : List TransportOp :=
  let request1 := encodedBytes (OfflinePacket.openConnectionRequest1
    { protocolVersion := 11
      mtu := 1400
      magic := defaultUnconnectedMagic }).encode
  [.recvAndProcess (quietEnv 1) request1 clientAddr,
    .recvAndProcess (quietEnv 2) request1 otherAddr,
    .queuePayload (quietEnv 3) clientAddr [0xFE] .unreliable 0 .high none,
    .queuePayload (quietEnv 3) otherAddr [0xFE] .unreliable 0 .high none]

/-- The first send of a call fails. -/
def firstSendFails (now : Instant) : Env := { quietEnv now with sendOk := fun i => decide (i ≠ 0) }

/-- The first send of the tick fails, and the datagram of the other peer is
    gone: the socket would take it, but it is not handed over, and it is in no
    queue any more. -/
theorem failed_send_drops_other_peer :
    let s := concreteTransport.exec keyedServer twoPeersRun
    let d := s.drained (firstSendFails 4) 8 11200 8 11200
    let after := (s.tickOutbound (firstSendFails 4) 8 11200 8 11200).2
    d.1.Accepts (firstSendFails 4) d.2 clientAddr ∧
    (after.sessions.lookup clientAddr).map Session.pendingOutgoingFrames = some 0 ∧
    (after.sessions.lookup clientAddr).map (fun session => session.sentDatagrams.size) = some 0 ∧
    ¬(∀ (j : Nat) p, d.2[j]? = some p → d.1.Accepts (firstSendFails 4) d.2 p.1 →
        (d.1.handed (firstSendFails 4) 0 d.2)[j]? = some p) := by
  intro s d after
  have haccepts : d.1.Accepts (firstSendFails 4) d.2 clientAddr := by decide +kernel
  have haddr : d.2[1]?.map Prod.fst = some clientAddr := by decide +kernel
  have hlost : (d.1.handed (firstSendFails 4) 0 d.2)[1]? = none := by decide +kernel
  exact ⟨haccepts, by decide +kernel, by decide +kernel, not_all_handed haddr haccepts hlost⟩

/-! ## A malformed control frame -/

/-- The datagrams that the call for a datagram hands to `send_datagram`. -/
def handedForDatagram (s : TransportServer F H) (env : Env) (addr : SocketAddr)
    (datagram : Datagram) : List (SocketAddr × Datagram) :=
  match s.ingestConnected env addr datagram with
  | (.error _, _) => []
  | (.ok o, _) =>
    if o.loop.decodeError.isSome || o.loop.illegalTransition then []
    else s.handed env 0 (o.datagrams.map fun d => (addr, d))

/-- What the tick of the call has taken from the queues is handed to
    `send_datagram`, and the application frames of `pre` are delivered or parked
    behind those that were parked before. -/
def KeepsTraffic (s : TransportServer F H) (env : Env) (addr : SocketAddr) (datagram : Datagram)
    (session : Session F H) (pre : List Frame) (call : CallResult TransportEvent)
    (after : TransportServer F H) : Prop :=
  (∀ d ∈ s.tickedDatagrams env (s.loopOver env addr session pre),
    (addr, d) ∈ s.handedForDatagram env addr datagram) ∧
  (s.parkedFrames addr ++ pre.filter isApplicationFrame).map ConnectedFrameDelivery.fromFrame
    = deliveredFrames call ++ (after.parkedFrames addr).map ConnectedFrameDelivery.fromFrame

instance decidableKeepsTraffic (s : TransportServer F H) (env : Env) (addr : SocketAddr)
    (datagram : Datagram) (session : Session F H) (pre : List Frame)
    (call : CallResult TransportEvent) (after : TransportServer F H) :
    Decidable (KeepsTraffic s env addr datagram session pre call after) :=
  inferInstanceAs (Decidable (_ ∧ _))

end TransportServer

end Raknet
