-- SUMMARY: What the sessions of a server queue and track fits their MTU until a second request lowers it.
import Raknet.Wire.Emitted
import Raknet.Transport.Counters
import Raknet.Transport.SessionSteps

/-!
# Queued frames and the MTU

A frame is cut to the MTU that its session has when it is queued, and a datagram
to the MTU when it is built. Only the answer to a second request changes the MTU
later. Every session holds what fits its MTU exactly as long as each such answer
finds a session whose queue and tracked datagrams fit the MTU it sets.
-/

namespace Raknet

open Decoder

variable {F H : Type}

namespace Session

theorem overhead_le (reliability : Reliability) (isSplit : Bool) :
    Frame.overhead reliability isSplit ≤ 23 := by
  cases reliability <;> cases isSplit <;> decide

/-- The largest payload of a frame leaves room for the headers. -/
theorem maxPayloadFor_fits {s : Session F H} (hmtu : MtuInRange s.mtu) (reliability : Reliability)
    (isSplit : Bool) :
    raknetDatagramHeaderSize + (Frame.overhead reliability isSplit
      + max (s.maxPayloadFor reliability isSplit) 1) ≤ s.mtu := by
  have hlow : 576 ≤ s.mtu := hmtu.1
  have hoverhead := overhead_le reliability isSplit
  have hheader : raknetDatagramHeaderSize = 4 := rfl
  unfold maxPayloadFor frameOverhead
  omega

/-- A queued payload makes frames that fit the MTU. -/
theorem QueueOutcome.fits {s : Session F H} (hmtu : MtuInRange s.mtu) {payload : Bytes}
    {reliability : Reliability} {channel : UInt8} {priority : RakPriority}
    {receiptId : Option UInt64} {r : QueuePayloadResult × List Frame × WriteIndices}
    (h : QueueOutcome s payload reliability channel priority receiptId r) :
    ∀ f ∈ r.2.1, raknetDatagramHeaderSize + f.encodedSize ≤ s.mtu := by
  intro f hf
  cases h with
  | refused => cases hf
  | single bytes hfits =>
    have hlt := maxPayloadFor_lt hmtu reliability false
    have hroom := maxPayloadFor_fits hmtu reliability false
    rw [List.mem_singleton.mp hf, WriteIndices.singleFrame_encodedSize _ _ _ (hfits.trans_lt hlt)]
    omega
  | split bytes hlong =>
    obtain ⟨i, w', part, hpart, rfl⟩ := WriteIndices.mem_partFrames hf
    have hlt := maxPayloadFor_lt hmtu (normalizeReliabilityForSplit reliability) true
    have hroom := maxPayloadFor_fits hmtu (normalizeReliabilityForSplit reliability) true
    have hlength := WriteIndices.length_of_mem_chunks (List.mem_of_getElem? hpart)
    have hsize : ((bitLengthOf part.length).toNat + 7) >>> 3 = part.length :=
      payloadLen_bitLengthOf (by omega)
    change raknetDatagramHeaderSize + (Frame.overhead (normalizeReliabilityForSplit reliability) true
      + ((bitLengthOf part.length).toNat + 7) >>> 3) ≤ s.mtu
    omega

variable [MinHeap H QueuedFrame QueuedFrame.weight]

/-- What is queued and what is tracked fits an MTU. -/
structure HoldsWithin (s : Session F H) (mtu : Nat) : Prop where
  queued : ∀ q ∈ s.queuedFrames, raknetDatagramHeaderSize + q.encodedSize ≤ mtu
  tracked : ∀ e ∈ s.sentDatagrams.entries, e.2.datagram.encodedSize ≤ mtu

instance (s : Session F H) (mtu : Nat) : Decidable (s.HoldsWithin mtu) :=
  decidable_of_iff
    ((∀ q ∈ s.queuedFrames, raknetDatagramHeaderSize + q.encodedSize ≤ mtu) ∧
      ∀ e ∈ s.sentDatagrams.entries, e.2.datagram.encodedSize ≤ mtu)
    ⟨fun h => ⟨h.1, h.2⟩, fun h => ⟨h.queued, h.tracked⟩⟩

theorem holdsWithin_congr {s s' : Session F H} (hheap : s'.outgoingHeap = s.outgoingHeap)
    (hsent : s'.sentDatagrams = s.sentDatagrams) (mtu : Nat) :
    s'.HoldsWithin mtu ↔ s.HoldsWithin mtu := by
  constructor <;> intro h
  · exact ⟨by simpa only [queuedFrames, hheap] using h.queued, hsent ▸ h.tracked⟩
  · exact ⟨by simpa only [queuedFrames, hheap] using h.queued, hsent ▸ h.tracked⟩

/-- The same of the queue and the live datagrams of the abstract sender. -/
theorem holdsWithin_view {s : Session F H} {mtu : Nat} :
    s.HoldsWithin mtu ↔
      (∀ q ∈ s.view.queue, raknetDatagramHeaderSize + q.encodedSize ≤ mtu) ∧
      ∀ k l, s.view.live k = some l → l.datagram.encodedSize ≤ mtu := by
  constructor
  · intro h
    refine ⟨h.queued, fun k l hlive => ?_⟩
    obtain ⟨t, ht, rfl⟩ := Option.map_eq_some_iff.mp hlive
    exact h.tracked ⟨k, t⟩ (AList.mem_lookup_iff.mp ht)
  · rintro ⟨hqueue, hlive⟩
    refine ⟨hqueue, fun e he => hlive e.1 e.2.live ?_⟩
    exact congrArg (Option.map TrackedDatagram.live) (AList.mem_lookup_iff.mpr he)

/-- A session whose MTU is in range and that holds what fits it. -/
structure FitsMtu (s : Session F H) : Prop where
  mtu : MtuInRange s.mtu
  holds : s.HoldsWithin s.mtu

variable [F64 F]

/-- The entries that an operation makes fit the MTU. -/
theorem step_made_fits {s : Session F H} (hmtu : MtuInRange s.mtu) (op : SessionOp) :
    ∀ q ∈ (s.step op).2.made, raknetDatagramHeaderSize + q.encodedSize ≤ s.mtu := by
  intro q hq
  rcases s.step_queues op with ⟨payload, reliability, channel, priority, receiptId, rfl⟩ | hnothing
  · rw [q.encodedSize_eq]
    exact (s.queuePayload_outcome payload reliability channel priority receiptId).fits hmtu q.frame
      (List.mem_map_of_mem hq)
  · rw [hnothing.made] at hq
    cases hq

theorem step_mtu_eq {s : Session F H} (op : SessionOp) (hop : ∀ mtu, op ≠ .setMtu mtu) :
    (s.step op).1.mtu = s.mtu :=
  (s.step_mtu op).resolve_right fun ⟨mtu, h, _⟩ => hop mtu h

/-- Every operation but the one that sets the MTU keeps what is held within it. -/
theorem FitsMtu.step {s : Session F H} (h : s.FitsMtu) {op : SessionOp}
    (hop : ∀ mtu, op ≠ .setMtu mtu) : (s.step op).1.FitsMtu := by
  have hmtu := step_mtu_eq (s := s) op hop
  have hbefore := holdsWithin_view.mp h.holds
  constructor
  · rw [hmtu]
    exact h.mtu
  · rw [hmtu, holdsWithin_view]
    constructor
    · intro q hq
      have hmem : q ∈ s.view.queue + ((s.step op).2.made : Multiset QueuedFrame) := by
        rw [← s.step_queue op]
        exact Multiset.mem_add.mpr (.inl hq)
      rcases Multiset.mem_add.mp hmem with hold | hmade
      · exact hbefore.1 q hold
      · exact step_made_fits h.mtu op q (Multiset.mem_coe.mp hmade)
    · intro k l hl
      obtain ⟨-, hview, -⟩ := s.step_refines op
      rw [hview] at hl
      rcases SendView.exec_live_emitted hl with hold | ⟨b, hb, rfl⟩
      · exact hbefore.2 k l hold
      · rw [(s.events_outputs op).1] at hb
        have hheader : raknetDatagramHeaderSize ≤ s.mtu := Nat.le_trans (by decide) h.mtu.1
        exact (step_fresh_fits hheader op b hb).size

theorem Runs.mtu {s s' : Session F H} (h : s.Runs s') : s'.mtu = s.mtu := by
  refine h.invariant (P := fun s' => s'.mtu = s.mtu) (fun s op hop hs => ?_) rfl
  refine (step_mtu_eq op ?_).trans hs
  rintro mtu rfl
  cases hop

theorem FitsMtu.runs {s s' : Session F H} (h : s.FitsMtu) (hruns : s.Runs s') : s'.FitsMtu := by
  refine hruns.invariant (P := FitsMtu) (fun s op hop hs => hs.step ?_) h
  rintro mtu rfl
  cases hop

end Session

namespace TransportServer

variable [MinHeap H QueuedFrame QueuedFrame.weight]

/-- Every session has an MTU in range. -/
def MtusInRange (s : TransportServer F H) : Prop :=
  ∀ a session, s.sessions.lookup a = some session → Session.MtuInRange session.mtu

/-- Every session holds what fits its MTU. -/
def SessionsFit (s : TransportServer F H) : Prop :=
  ∀ a session, s.sessions.lookup a = some session → session.HoldsWithin session.mtu

theorem holdsWithin_repliedSession (session : Session F H) (mtu : UInt16) (now : Instant)
    (st : SessionState) (n : Nat) :
    (repliedSession session mtu now st).HoldsWithin n ↔ session.HoldsWithin n := by
  have hheap : (repliedSession session mtu now st).outgoingHeap = session.outgoingHeap := rfl
  exact Session.holdsWithin_congr hheap rfl n

variable [F64 F]

theorem openedSession_fits (s : TransportServer F H) (env : Env) {mtu : UInt16}
    (hmtu : Session.MtuInRange mtu.toNat) : (s.openedSession env mtu).FitsMtu := by
  have hview : (s.openedSession env mtu).view = SendView.initial :=
    Session.view_withTunables mtu.toNat s.config.sessionTunables env.openedAt
  constructor
  · exact hmtu
  rw [Session.holdsWithin_view, hview, SendView.initial]
  exact ⟨fun q hq => absurd hq (Multiset.notMem_zero q), fun k l hl => by cases hl⟩

/-- A second request is answered only for a session that holds what fits the MTU
    of the answer. -/
def repliesWithin (s : TransportServer F H) (op : TransportOp) : Bool :=
  match s.repliedTo op with
  | some (_, session, mtu) => decide (session.HoldsWithin mtu.toNat)
  | none => true

theorem mtusInRange_step {s : TransportServer F H} (hs : s.NoOrphans) (hrange : s.MtusInRange)
    (op : TransportOp) : (s.step op).1.MtusInRange := by
  intro a session' ha
  cases step_session hs ha with
  | @runs session _ hlookup hruns => exact hruns.mtu ▸ hrange a session hlookup
  | opened hmtu => exact hmtu.inRange
  | replied _ _ _ hmtu => exact hmtu.inRange

/-- A step keeps what the sessions hold within their MTU exactly if it answers no
    second request for a session that holds more. -/
theorem step_fits_iff {s : TransportServer F H} (hs : s.NoOrphans) (hrange : s.MtusInRange)
    (hfits : s.SessionsFit) (op : TransportOp) :
    (s.step op).1.SessionsFit ↔ s.repliesWithin op = true := by
  constructor
  · intro hafter
    unfold repliesWithin
    split
    · next a met mtu hmet =>
      obtain ⟨now, st, hlookup⟩ := lookup_of_repliedTo hmet
      exact decide_eq_true ((holdsWithin_repliedSession met mtu now st _).mp (hafter a _ hlookup))
    · rfl
  · intro hwithin a session' ha
    cases step_session hs ha with
    | @runs session _ hlookup hruns =>
      exact (Session.FitsMtu.runs ⟨hrange a session hlookup, hfits a session hlookup⟩ hruns).holds
    | opened hmtu => exact (openedSession_fits _ _ hmtu.inRange).holds
    | @replied session met mtu now st hlookup hserves hmet hmtu =>
      rw [repliesWithin, hmet] at hwithin
      exact (holdsWithin_repliedSession met mtu now st _).mpr (of_decide_eq_true hwithin)

/-- All along a run every queued frame and every tracked datagram fits the MTU of
    its session, exactly if each second request that is answered finds a session
    that holds what fits the MTU of the answer. -/
theorem held_fits_mtu_iff (config : TransportConfig F) (socketAddr : Option SocketAddr)
    (hmacSha256 : CookieKey → Bytes → Octets 32) (key : CookieKey) (now : Instant)
    (ops : List TransportOp) :
    (∀ pre, pre <+: ops → ∀ a session,
        ((transportMachine F H).exec (withSocket config socketAddr hmacSha256 key now)
          pre).sessions.lookup a = some session →
        (∀ q ∈ session.queuedFrames, 4 + q.encodedSize ≤ session.mtu) ∧
        ∀ e ∈ session.sentDatagrams.entries, e.2.datagram.encodedSize ≤ session.mtu) ↔
      (transportMachine F H).AllSteps (fun s op => s.repliesWithin op = true)
        (withSocket config socketAddr hmacSha256 key now) ops := by
  have hempty : ∀ a session, (withSocket config socketAddr hmacSha256 key now :
      TransportServer F H).sessions.lookup a = some session → False := by
    intro a session (h : none = some session)
    cases h
  have hfirst : (withSocket config socketAddr hmacSha256 key now :
      TransportServer F H).NoOrphans ∧
      (withSocket config socketAddr hmacSha256 key now : TransportServer F H).MtusInRange :=
    ⟨fun _ _ => rfl, fun a session h => (hempty a session h).elim⟩
  have hiff := (transportMachine F H).forall_prefix_iff_allSteps
    (I := fun s => s.NoOrphans ∧ s.MtusInRange) (P := SessionsFit)
    (C := fun s op => s.repliesWithin op = true)
    (fun s op hs => ⟨noOrphans_step hs.1 op, mtusInRange_step hs.1 hs.2 op⟩)
    (fun s op hs hfits => step_fits_iff hs.1 hs.2 hfits op)
    hfirst (fun a session h => (hempty a session h).elim) ops
  rw [← hiff]
  constructor
  · intro h pre hpre a session hlookup
    obtain ⟨hqueued, htracked⟩ := h pre hpre a session hlookup
    exact ⟨hqueued, htracked⟩
  · intro h pre hpre a session hlookup
    exact ⟨(h pre hpre a session hlookup).queued, (h pre hpre a session hlookup).tracked⟩

omit [MinHeap H QueuedFrame QueuedFrame.weight] [F64 F] in
/-- A session that meets a decidable property. -/
theorem sessionMeets_lookup {s : TransportServer F H} {a : SocketAddr} {P : Session F H → Prop}
    [DecidablePred P] (h : (s.sessions.lookup a).any (fun session => decide (P session)) = true) :
    ∃ session, s.sessions.lookup a = some session ∧ P session := by
  obtain ⟨session, hlookup, hmeets⟩ := (Option.any_eq_true _ _).mp h
  exact ⟨session, hlookup, of_decide_eq_true hmeets⟩

/-- A second request that asks for a lower MTU than the first. -/
def loweringRequest : TransportOp :=
  fromClient 4 (encodedBytes (OfflinePacket.openConnectionRequest2
    { serverAddr
      mtu := 576
      clientGuid := 99
      cookie := some 0x01010101
      clientProof := false
      parsePath := .strictWithCookie
      magic := defaultUnconnectedMagic }).encode)

/-- A payload is queued for the session of a first request. -/
def queueingRun : List TransportOp :=
  handshakeRun.take 1 ++
    [.queuePayload (quietEnv 2) clientAddr (List.replicate 1000 0xFE) .reliableOrdered 0 .high none]

/-- What was queued or sent behind a first request is too large for the MTU of a
    second one. -/
theorem lowered_mtu_parts :
    (∃ session, (concreteTransport.exec keyedServer
        (queueingRun ++ [loweringRequest])).sessions.lookup clientAddr = some session ∧
      session.mtu = 576 ∧ ∃ q ∈ session.queuedFrames, 576 < 4 + q.encodedSize) ∧
    ∃ session, (concreteTransport.exec keyedServer (queueingRun ++
        [.tickOutbound (quietEnv 3) 8 11200 8 11200, loweringRequest])).sessions.lookup clientAddr
          = some session ∧
      session.mtu = 576 ∧ ∃ e ∈ session.sentDatagrams.entries, 576 < e.2.datagram.encodedSize := by
  constructor
  · exact sessionMeets_lookup (P := fun session => session.mtu = 576 ∧
      ∃ q ∈ session.queuedFrames, 576 < 4 + q.encodedSize) (by decide +kernel)
  · exact sessionMeets_lookup (P := fun session => session.mtu = 576 ∧
      ∃ e ∈ session.sentDatagrams.entries, 576 < e.2.datagram.encodedSize) (by decide +kernel)

/-- The two requests of a handshake agree on the MTU. -/
theorem held_fits_mtu_iff_handshake :
    ∀ a session, (concreteTransport.exec keyedServer
        (queueingRun ++ handshakeRun.tail)).sessions.lookup a = some session →
      (∀ q ∈ session.queuedFrames, 4 + q.encodedSize ≤ session.mtu) ∧
      ∀ e ∈ session.sentDatagrams.entries, e.2.datagram.encodedSize ≤ session.mtu := by
  have h := held_fits_mtu_iff (H := SortedHeap QueuedFrame QueuedFrame.weight)
    (.standard : TransportConfig ℚ) none (fun key _ => key) firstKey 0
    (queueingRun ++ handshakeRun.tail)
  exact h.mpr (by decide +kernel) _ List.prefix_rfl

end TransportServer

end Raknet
