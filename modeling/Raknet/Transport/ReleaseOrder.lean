-- SUMMARY: The order in which the application frames of a session are delivered.
import Raknet.Transport.Failures

/-!
# Release order

The frames that a session releases are delivered or parked, and what is parked is
delivered when the session is connected. Along the life of a session, what was
delivered and what is parked are what was released, in its order, exactly as long
as every call keeps the order of its datagram (`keepsOrder`): a call that fails
drops frames, and one that delivers frames while others are parked delivers them
in front of those.
-/

namespace Raknet

open Decoder

variable {F H : Type}

/-- The application frames of an address that an output delivers. -/
def TransportOut.delivered (a : SocketAddr) : TransportOut → List ConnectedFrameDelivery
  | .received ⟨.ok (.connectedFrames addr _ frames _), _⟩ => if addr = a then frames else []
  | _ => []

theorem TransportOut.TellsAside.delivered {out : TransportOut} (h : out.TellsAside)
    (a : SocketAddr) : out.delivered a = [] := by
  cases out with
  | received r =>
    obtain ⟨result, sent⟩ := r
    cases result with
    | error e => rfl
    | ok event =>
      have haside := h event rfl
      cases event with
      | connectedFrames => cases haside
      | _ => rfl
  | _ => rfl

namespace TransportServer

/-! ## What is parked -/

theorem parkedFrames_congr {s s' : TransportServer F H} {a : SocketAddr}
    (h : s'.sessionPipelines.lookup a = s.sessionPipelines.lookup a) :
    s'.parkedFrames a = s.parkedFrames a := by
  rw [parkedFrames, h]
  rfl

variable [F64 F] [MinHeap H QueuedFrame QueuedFrame.weight]

/-- Upkeep parks nothing and delivers nothing for a session that it keeps. -/
theorem Upkeep.kept {s s' : TransportServer F H} (h : Upkeep s s') {a : SocketAddr}
    (ha : (s'.sessions.lookup a).isSome = true) :
    (s.sessions.lookup a).isSome = true ∧
      s'.sessionPipelines.lookup a = s.sessionPipelines.lookup a := by
  induction h with
  | refl => exact ⟨ha, rfl⟩
  | same _ hsame ih =>
    rw [hsame.sessions] at ha
    rw [hsame.pipelines]
    exact ih ha
  | @close m s' addr _ hclose ih =>
    rw [hclose.sessions, AssocMap.lookup_erase_eq] at ha
    rw [hclose.pipelines, AssocMap.lookup_erase_eq]
    by_cases heq : a = addr
    · rw [if_pos heq] at ha
      cases ha
    · rw [if_neg heq] at ha ⊢
      exact ih ha
  | @serve m addr session session' _ hlookup _ ih =>
    refine ih ?_
    rw [AssocMap.lookup_insert_eq] at ha
    by_cases heq : a = addr
    · rw [heq, hlookup]
      rfl
    · rwa [if_neg heq] at ha

/-! ## One datagram -/

/-- The application frames that the session of an address releases for a datagram. -/
def releasedFrames (s : TransportServer F H) (env : Env) (addr : SocketAddr)
    (datagram : Datagram) : List Frame :=
  match (((s.sessionEntry env addr).touchActivity env.now).ingestDatagram datagram env.now).1 with
  | .ok frames => frames.filter isApplicationFrame
  | .error _ => []

section Outcome

variable {s s' : TransportServer F H} {env : Env} {addr : SocketAddr} {datagram : Datagram}
  {frames : List Frame} {released : Session F H} {o : ConnectedOutcome F H}

end Outcome

/-! ## One operation -/

/-- The application frames that the session of an address releases in an
    operation. -/
def released (a : SocketAddr) (s : TransportServer F H) (op : TransportOp) : List Frame :=
  match s.admittedBy op with
  | some (env, addr, datagram, m) =>
    if addr = a then m.releasedFrames env addr datagram else []
  | none => []

/-- The application frames of an address that an operation delivers. -/
def delivered (a : SocketAddr) (s : TransportServer F H) (op : TransportOp) :
    List ConnectedFrameDelivery :=
  (s.step op).2.delivered a

/-- What a datagram delivers is of its address. -/
theorem DatagramOutcome.delivered {s s' : TransportServer F H} {env : Env} {addr : SocketAddr}
    {datagram : Datagram} {r : CallResult TransportEvent}
    (h : DatagramOutcome s env addr datagram (r, s')) (a : SocketAddr) :
    (TransportOut.received r).delivered a = if addr = a then deliveredFrames r else [] := by
  cases h with
  | refused | malformed | unsent => exact (ite_self _).symm
  | finished _ _ _ _ _ hfinish =>
    cases hfinish with
    | disconnected => exact (ite_self _).symm
    | closed | kept => rfl

/-- An offline packet that opens no session for an address keeps the pipeline of a
    session that it keeps. -/
theorem OfflineEffect.kept {s : TransportServer F H} {env : Env} {addr a : SocketAddr}
    {packet : OfflinePacket} {r : OfflineResult F H} (h : OfflineEffect s env addr packet r)
    (hopens : ¬(addr = a ∧ Opens packet r.reply))
    (hkept : (r.server.sessions.lookup a).isSome = true) :
    (s.sessions.lookup a).isSome = true ∧
      r.server.sessionPipelines.lookup a = s.sessionPipelines.lookup a := by
  by_cases ha : a = addr
  · subst ha
    cases h with
    | aside _ haside =>
      rw [haside.sessions] at hkept
      exact ⟨hkept, congrArg _ haside.pipelines⟩
    | closed _ hclosed =>
      rw [hclosed.sessions, AList.lookup_erase] at hkept
      cases hkept
    | opened _ hpacket _ _ _ => exact absurd ⟨rfl, ⟨_, hpacket⟩, _, rfl⟩ hopens
    | accepted haside _ _ hlookup _ _ _ hstate =>
      rw [acceptRequest2_eq hlookup hstate]
      refine ⟨?_, congrArg _ haside.pipelines⟩
      rw [← haside.sessions, hlookup]
      rfl
    | retried haside _ _ hlookup _ hstate =>
      rw [retryRequest2_eq hlookup hstate]
      refine ⟨?_, congrArg _ haside.pipelines⟩
      rw [← haside.sessions, hlookup]
      rfl
  · have hsame := h.sameAt ha
    rw [hsame.session] at hkept
    exact ⟨hkept, hsame.pipeline⟩

theorem OfflineEffect.parkedFrames {s : TransportServer F H} {env : Env} {addr : SocketAddr}
    {packet : OfflinePacket} {r : OfflineResult F H} (h : OfflineEffect s env addr packet r)
    (hopens : Opens packet r.reply) : r.server.parkedFrames addr = [] := by
  cases h with
  | aside hnot _ | closed hnot _ => exact absurd hopens (hnot.opens _)
  | opened =>
    rw [openSession_eq, TransportServer.parkedFrames, AList.lookup_erase]
    rfl
  | accepted _ hpacket | retried _ hpacket =>
    subst hpacket
    exact absurd hopens (not_opens_request2 _ _)

/-- Nothing is parked for a session that is opened. -/
theorem OpensSession.parkedFrames {s : TransportServer F H} {a : SocketAddr} {op : TransportOp}
    (h : s.OpensSession op a) : (s.step op).1.parkedFrames a = [] := by
  obtain ⟨env, bytes, observedAddr, packet, m, rfl, htriage, hopens⟩ := h
  have hparked := (m.handleOfflinePacket_effect env a packet).parkedFrames hopens
  rw [step, recvAndProcess, htriage]
  dsimp only
  rw [parkedFrames_congr ((m.processOffline_aside env a packet).sameAt a).pipeline, hparked]

end TransportServer

end Raknet
