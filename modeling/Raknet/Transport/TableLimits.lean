-- SUMMARY: Bounds of the session table: its size, its pipelines, the MTU of every session and of every reply.
import Raknet.Transport.HandshakeSteps
import Raknet.Transport.MtuFit
import Raknet.Transport.Tallies

/-!
# The limits of the session table

Only a first request that is answered makes a session, and it is turned away when
the table is full. The MTU of a session is always one that was negotiated. Along a
handshake it goes down only: the entry between the two requests holds the MTU of
the first reply and, once there is a second one, of the first second reply
(`Backed`).
-/

namespace Raknet

open Decoder

variable {F H : Type}

/-! ## Replies so far -/

/-- The last first reply to the address among the replies so far has this MTU, and these
    replies came behind it. -/
def LastOffer (a : SocketAddr) (replies : List (SocketAddr × OfflinePacket)) (mtu : UInt16)
    (since : List (SocketAddr × OfflinePacket)) : Prop :=
  ∃ before reply, replies = before ++ reply :: since ∧ reply1To a reply = some mtu ∧
    since.filterMap (reply1To a) = []

theorem LastOffer.append {a : SocketAddr} {replies since more : List (SocketAddr × OfflinePacket)}
    {mtu : UInt16} (h : LastOffer a replies mtu since) (hmore : more.filterMap (reply1To a) = []) :
    LastOffer a (replies ++ more) mtu (since ++ more) := by
  obtain ⟨before, reply, rfl, hreply, hsince⟩ := h
  refine ⟨before, reply, ?_, hreply, ?_⟩
  · rw [List.append_assoc, List.cons_append]
  · rw [List.filterMap_append, hsince, hmore, List.append_nil]

/-- The entry of a handshake holds the MTU of the replies that it has got: at most that of the
    first reply, and behind the second request that of the first answer to it. -/
structure Backed (a : SocketAddr) (replies : List (SocketAddr × OfflinePacket))
    (pending : PendingHandshake) : Prop where
  floor : 576 ≤ pending.mtu.toNat
  offer : ∃ mtu since, LastOffer a replies mtu since ∧ pending.mtu ≤ mtu ∧
    (since.filterMap (reply2To a)).head?
      = if pending.stage = .awaitingRequest2 then none else some pending.mtu

namespace TransportServer

theorem Negotiated.bounds {s : TransportServer F H} {mtu : UInt16} (h : s.Negotiated mtu) :
    576 ≤ mtu.toNat ∧ mtu.toNat ≤ max 576 s.config.mtu := by
  obtain ⟨requested, rfl⟩ := h
  have hbounds := s.negotiateMtu_bounds requested
  omega

/-- A second reply does not go beyond the entry of its handshake. -/
theorem negotiateMtu_min_le (s : TransportServer F H) (requested : UInt16) {mtu : UInt16}
    (hfloor : 576 ≤ mtu.toNat) : s.negotiateMtu (min requested mtu) ≤ mtu := by
  have hbounds := (s.negotiateMtu_bounds (min requested mtu)).2.2
  have hmin : (min requested mtu).toNat ≤ mtu.toNat := by
    change (if requested ≤ mtu then requested else mtu).toNat ≤ mtu.toNat
    split
    · next hle => exact UInt16.le_iff_toNat_le.mp hle
    · exact Nat.le_refl _
  rw [UInt16.le_iff_toNat_le]
  omega

/-- Both bounds of a second reply, from the entry of its handshake. -/
theorem HandshakeStep.reply2_le {s : TransportServer F H} {a : SocketAddr}
    {before replies : List (SocketAddr × OfflinePacket)} {pending' : Option PendingHandshake}
    (h : HandshakeStep s a replies pending')
    (hbacked : ∀ pending, s.pendingHandshakes.lookup a = some pending → Backed a before pending)
    {mtu : UInt16} (hmtu : mtu ∈ replies.filterMap (reply2To a)) :
    ∃ mtu1 since, LastOffer a before mtu1 since ∧ mtu ≤ mtu1 ∧
      ∀ first ∈ (since.filterMap (reply2To a)).head?, mtu ≤ first := by
  -- The reply is for an entry and not beyond it.
  have hreplied : ∃ pending, s.pendingHandshakes.lookup a = some pending ∧ mtu ≤ pending.mtu := by
    have hmine : ∀ reply2 : OpenConnectionReply2,
        [(a, OfflinePacket.openConnectionReply2 reply2)].filterMap (reply2To a) = [reply2.mtu] := by
      intro reply2
      simp [reply2To]
    cases h with
    | kept haside | dropped haside =>
      rw [haside.second] at hmtu
      cases hmtu
    | opened _ _ _ => cases hmtu
    | @accepted _ _ pending _ hpending _ hreply _ _ | @retried _ _ pending hpending _ hreply =>
      rw [hmine, List.mem_singleton] at hmtu
      refine ⟨pending, hpending, ?_⟩
      rw [hmtu, hreply]
      exact s.negotiateMtu_min_le _ (hbacked pending hpending).floor
  obtain ⟨pending, hpending, hle⟩ := hreplied
  obtain ⟨mtu1, since, hoffer, hoffered, hfirst⟩ := (hbacked pending hpending).offer
  refine ⟨mtu1, since, hoffer, UInt16.le_trans hle hoffered, ?_⟩
  rw [hfirst]
  intro first hmem
  split at hmem
  · cases hmem
  · obtain rfl := Option.some.inj hmem
    exact hle

/-- An operation leaves every entry backed by the replies. -/
theorem HandshakeStep.backed {s : TransportServer F H} {a : SocketAddr}
    {before replies : List (SocketAddr × OfflinePacket)} {pending' : Option PendingHandshake}
    (h : HandshakeStep s a replies pending')
    (hbacked : ∀ pending, s.pendingHandshakes.lookup a = some pending → Backed a before pending) :
    ∀ pending, pending' = some pending → Backed a (before ++ replies) pending := by
  intro kept hkept
  cases h with
  | kept haside =>
    obtain ⟨mtu1, since, hoffer, hoffered, hfirst⟩ := (hbacked kept hkept).offer
    refine ⟨(hbacked kept hkept).floor, mtu1, since ++ replies, hoffer.append haside.first,
      hoffered, ?_⟩
    rw [List.filterMap_append, haside.second, List.append_nil]
    exact hfirst
  | dropped _ => cases hkept
  | @opened reply1 pending hnegotiated hmtu hstage =>
    obtain rfl := Option.some.inj hkept
    obtain ⟨requested, hrequested⟩ := hnegotiated
    refine ⟨?_, reply1.mtu, [], ⟨before, _, rfl, ?_, rfl⟩, ?_, ?_⟩
    · rw [hmtu, hrequested]
      exact (s.negotiateMtu_bounds requested).1
    · exact if_pos rfl
    · rw [hmtu]
      exact UInt16.le_refl _
    · rw [hstage]
      rfl
  | @accepted requested reply2 pending pending' hpending hstage hreply hmtu hstage' =>
    obtain rfl := Option.some.inj hkept
    have hentry := hbacked pending hpending
    obtain ⟨mtu1, since, hoffer, hoffered, hfirst⟩ := hentry.offer
    have hle : reply2.mtu ≤ pending.mtu := hreply ▸ s.negotiateMtu_min_le _ hentry.floor
    refine ⟨?_, mtu1, since ++ [(a, .openConnectionReply2 reply2)], hoffer.append rfl, ?_, ?_⟩
    · rw [hmtu, hreply]
      exact (s.negotiateMtu_bounds _).1
    · rw [hmtu]
      exact UInt16.le_trans hle hoffered
    · rw [hstage, if_pos rfl, List.head?_eq_none_iff] at hfirst
      rw [hstage', if_neg (by decide), List.filterMap_append, hfirst, hmtu]
      simp [reply2To]
  | @retried requested reply2 pending hpending hstage hreply =>
    obtain rfl := Option.some.inj hkept
    have hentry := hbacked pending hpending
    obtain ⟨mtu1, since, hoffer, hoffered, hfirst⟩ := hentry.offer
    refine ⟨hentry.floor, mtu1, since ++ [(a, .openConnectionReply2 reply2)], hoffer.append rfl,
      hoffered, ?_⟩
    rw [hstage, if_neg (by decide)] at hfirst ⊢
    rw [List.filterMap_append, List.head?_append, hfirst]
    rfl

variable [F64 F] [MinHeap H QueuedFrame QueuedFrame.weight]

/-! ## The size of the table -/

theorem Upkeep.sessions_size {s s' : TransportServer F H} (h : Upkeep s s') :
    s'.sessions.size ≤ s.sessions.size := by
  refine AssocMap.size_le_of_keys fun a ha => ?_
  obtain ⟨session', hsession'⟩ := Option.isSome_iff_exists.mp ha
  obtain ⟨session, hsession, -⟩ := h.served hsession'
  rw [hsession]
  rfl

/-- An offline packet keeps the table within its limit. -/
theorem OfflineEffect.sessions_size {s : TransportServer F H} {env : Env} {addr : SocketAddr}
    {packet : OfflinePacket} {r : OfflineResult F H} (h : OfflineEffect s env addr packet r)
    (hsize : s.sessions.size ≤ s.config.maxSessions) :
    r.server.sessions.size ≤ s.config.maxSessions := by
  -- A session in the place of another one.
  have hreplace : ∀ {session session' : Session F H}, s.sessions.lookup addr = some session →
      AssocMap.size (s.sessions.insert addr session') ≤ s.config.maxSessions := by
    intro session session' hlookup
    rw [AssocMap.size_insert, hlookup]
    exact hsize
  cases h with
  | aside _ haside => exact haside.sessions ▸ hsize
  | closed _ hclosed =>
    rw [hclosed.sessions]
    exact (AssocMap.size_erase_le s.sessions addr).trans hsize
  | @opened m req1 haside _ _ _ hlimit =>
    rw [openSession_eq]
    dsimp only
    rw [AssocMap.size_insert, AList.lookup_erase, haside.sessions]
    simp only [Option.isNone_none, if_true]
    unfold wouldExceedSessionLimit at hlimit
    rw [haside.sessions, haside.config] at hlimit
    cases hlookup : s.sessions.lookup addr with
    | none =>
      rw [hlookup] at hlimit
      have hroom : s.sessions.size < s.config.maxSessions := by simpa using hlimit
      exact Nat.lt_of_le_of_lt (AssocMap.size_erase_le _ addr) hroom
    | some session =>
      rw [AssocMap.size_erase hlookup]
      exact hsize
  | accepted haside _ _ hlookup _ _ _ hstate =>
    rw [acceptRequest2_eq hlookup hstate]
    dsimp only
    rw [haside.sessions] at hlookup ⊢
    exact hreplace hlookup
  | retried haside _ _ hlookup _ hstate =>
    rw [retryRequest2_eq hlookup hstate]
    dsimp only
    rw [haside.sessions] at hlookup ⊢
    exact hreplace hlookup

theorem step_sessions_size {s : TransportServer F H} (hs : s.NoOrphans) (op : TransportOp)
    (hsize : s.sessions.size ≤ s.config.maxSessions) :
    (s.step op).1.sessions.size ≤ s.config.maxSessions := by
  have hstep := step_inv hs op
  generalize s.step op = r at hstep ⊢
  cases hstep with
  | upkeep _ hupkeep _ => exact hupkeep.sessions_size.trans hsize
  | offline _ htriage heffect haside _ =>
    have hupkeep := upkeep_of_triage htriage
    have hconfig := hupkeep.keeps.config
    dsimp only
    rw [haside.sessions, ← hconfig]
    exact heffect.sessions_size (hconfig ▸ hupkeep.sessions_size.trans hsize)
  | datagram _ hadmitted houtcome =>
    obtain ⟨met, hmet⟩ := lookup_of_admitted hadmitted
    refine Nat.le_trans (AssocMap.size_le_of_keys fun a ha => ?_)
      ((upkeep_of_admitted hadmitted).sessions_size.trans hsize)
    obtain ⟨session', hsession'⟩ := Option.isSome_iff_exists.mp ha
    obtain ⟨session, hsession, -⟩ := houtcome.ran hmet hsession'
    rw [hsession]
    rfl

/-! ## Runs -/

/-- The bounds of the table, with the replies so far. -/
structure TableBounds (replies : List (SocketAddr × OfflinePacket)) (s : TransportServer F H) :
    Prop where
  orphans : s.NoOrphans
  size : s.sessions.size ≤ s.config.maxSessions
  sound : ∀ a, s.SoundAt a
  mtus : ∀ a session, s.sessions.lookup a = some session →
    576 ≤ session.mtu ∧ session.mtu ≤ max 576 s.config.mtu
  backed : ∀ a pending, s.pendingHandshakes.lookup a = some pending → Backed a replies pending

theorem TableBounds.step {replies : List (SocketAddr × OfflinePacket)} {s : TransportServer F H}
    (h : TableBounds replies s) (op : TransportOp) :
    TableBounds (replies ++ s.offlineReply op) (s.step op).1 where
  orphans := noOrphans_step h.orphans op
  size := by
    rw [step_config h.orphans op]
    exact step_sessions_size h.orphans op h.size
  sound a := step_soundAt h.orphans op (h.sound a)
  mtus a session' ha := by
    rw [step_config h.orphans op]
    cases step_session h.orphans ha with
    | @runs session _ hlookup hruns => exact hruns.mtu ▸ h.mtus a session hlookup
    | opened hmtu | replied _ _ _ hmtu => exact hmtu.bounds
  backed a := (step_handshake h.orphans op a).backed (h.backed a)

theorem run_tableBounds {s : TransportServer F H} {replies : List (SocketAddr × OfflinePacket)}
    (h : TableBounds replies s) (ops : List TransportOp) :
    TableBounds (replies ++ (transportMachine F H).gather offlineReply s ops)
      ((transportMachine F H).exec s ops) := by
  induction ops generalizing s replies with
  | nil =>
    rw [Machine.gather, List.append_nil]
    exact h
  | cons op ops ih =>
    rw [Machine.gather, ← List.append_assoc]
    exact ih (h.step op)

/-- From an empty server on, the sessions are within their limit and own the pipelines, their
    MTUs are within that of the configuration, and a second reply is within the MTU of the last
    first reply to its address and of the first second reply behind that. -/
theorem session_table_bounds (config : TransportConfig F) (hmtu : 576 ≤ config.mtu)
    (socketAddr : Option SocketAddr) (hmacSha256 : CookieKey → Bytes → Octets 32)
    (key : CookieKey) (now : Instant) (ops : List TransportOp) :
    let init : TransportServer F H := withSocket config socketAddr hmacSha256 key now
    let s := (transportMachine F H).exec init ops
    s.sessions.size ≤ config.maxSessions ∧
    (∀ a, (s.sessionPipelines.lookup a).isSome = true → (s.sessions.lookup a).isSome = true) ∧
    (∀ a session, s.sessions.lookup a = some session →
      576 ≤ session.mtu ∧ session.mtu ≤ config.mtu) ∧
    ∀ op a mtu, mtu ∈ (s.offlineReply op).filterMap (reply2To a) →
      ∃ mtu1 since,
        LastOffer a ((transportMachine F H).gather offlineReply init ops) mtu1 since ∧
        mtu ≤ mtu1 ∧ ∀ first ∈ (since.filterMap (reply2To a)).head?, mtu ≤ first := by
  intro init s
  have hempty : TableBounds [] init := by
    refine ⟨fun _ _ => rfl, Nat.zero_le _, fun a => Absent.sound ⟨rfl, rfl⟩, ?_, ?_⟩
    · intro a session h
      cases h
    · intro a pending h
      cases h
  have hbounds : TableBounds _ s := run_tableBounds hempty ops
  have hconfig : s.config = config := (exec_noOrphans hempty.orphans ops).2
  refine ⟨hconfig ▸ hbounds.size, fun a ha => ?_, fun a session hlookup => ?_,
    fun op a mtu hreply => ?_⟩
  · cases hlookup : s.sessions.lookup a with
    | none =>
      rw [(hbounds.sound a).owned hlookup] at ha
      cases ha
    | some session => rfl
  · have hwithin := hbounds.mtus a session hlookup
    rw [hconfig] at hwithin
    omega
  · exact (step_handshake hbounds.orphans op a).reply2_le (hbounds.backed a) hreply

/-- A second request for the least MTU. -/
def loweredRun : List TransportOp := handshakeRun.take 1 ++ [loweringRequest]

/-- It is sent again and asks for more, and is answered as before. -/
theorem session_table_bounds_retry :
    ∃ op ∈ handshakeRun, ((concreteTransport.exec keyedServer loweredRun).offlineReply op).filterMap
        (reply2To clientAddr) = [576] ∧
      ∃ mtu1 since,
        LastOffer clientAddr (concreteTransport.gather offlineReply keyedServer loweredRun) mtu1
          since ∧
        576 ≤ mtu1 ∧ ∀ first ∈ (since.filterMap (reply2To clientAddr)).head?, 576 ≤ first := by
  have hreply : (((concreteTransport.exec keyedServer loweredRun).offlineReply
      (handshakeRun.get ⟨1, by decide⟩)).filterMap (reply2To clientAddr)) = [576] := by
    decide +kernel
  obtain ⟨-, -, -, hbound⟩ := session_table_bounds (H := SortedHeap QueuedFrame QueuedFrame.weight)
    (.standard : TransportConfig ℚ) (by decide) none (fun key _ => key)
    firstKey 0 loweredRun
  exact ⟨_, List.get_mem _ _, hreply,
    hbound _ clientAddr 576 (hreply ▸ List.mem_singleton_self _)⟩

end TransportServer

end Raknet
