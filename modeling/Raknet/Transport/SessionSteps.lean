-- SUMMARY: What one operation of the server can make of the session of an address.
import Raknet.Transport.PeerSteps
import Raknet.Send.Limits

/-!
# Sessions across steps

A session that is there behind an operation was there in front of it and has run
operations of its own, or a first request has opened it, or a second request was
answered for it, which sets its MTU (`SessionStep`).
-/

namespace Raknet

variable {F H : Type}

namespace TransportServer

theorem negotiateMtu_toNat (s : TransportServer F H) (requested : UInt16) :
    (s.negotiateMtu requested).toNat
      = max 576 (min requested.toNat (max 576 (min s.config.mtu 1400))) := by
  have hmin : minimumMtuSize.toNat = 576 := rfl
  have hmax : maximumMtuSize.toNat = 1400 := rfl
  unfold negotiateMtu
  dsimp only
  have hcap : (UInt16.ofNat (max minimumMtuSize.toNat
      (min s.config.mtu maximumMtuSize.toNat))).toNat = max 576 (min s.config.mtu 1400) := by
    rw [UInt16.toNat_ofNat']
    omega
  generalize UInt16.ofNat (max minimumMtuSize.toNat (min s.config.mtu maximumMtuSize.toNat)) = cap
    at hcap
  -- `max` and `min` of machine integers are comparisons
  change (if minimumMtuSize ≤ if requested ≤ cap then requested else cap then
    if requested ≤ cap then requested else cap else minimumMtuSize).toNat = _
  simp only [UInt16.le_iff_toNat_le]
  split <;> split at * <;> omega

/-- The two bounds of an MTU that is negotiated, and the one that the request sets. -/
theorem negotiateMtu_bounds (s : TransportServer F H) (requested : UInt16) :
    576 ≤ (s.negotiateMtu requested).toNat ∧
    (s.negotiateMtu requested).toNat ≤ max 576 (min s.config.mtu 1400) ∧
    (s.negotiateMtu requested).toNat ≤ max 576 requested.toNat := by
  rw [negotiateMtu_toNat]
  omega

/-- The MTU is one that the server answers a request with. -/
def Negotiated (s : TransportServer F H) (mtu : UInt16) : Prop :=
  ∃ requested, mtu = s.negotiateMtu requested

theorem Negotiated.inRange {s : TransportServer F H} {mtu : UInt16} (h : s.Negotiated mtu) :
    Session.MtuInRange mtu.toNat := by
  obtain ⟨requested, rfl⟩ := h
  have hbounds := s.negotiateMtu_bounds requested
  unfold Session.MtuInRange
  omega

theorem Negotiated.congr {s s' : TransportServer F H} {mtu : UInt16} (h : s.Negotiated mtu)
    (hconfig : s'.config = s.config) : s'.Negotiated mtu := by
  obtain ⟨requested, rfl⟩ := h
  refine ⟨requested, ?_⟩
  unfold negotiateMtu
  rw [hconfig]

/-- A negotiated MTU is not changed when it is negotiated again. -/
theorem Negotiated.negotiateMtu {s : TransportServer F H} {mtu : UInt16} (h : s.Negotiated mtu) :
    s.negotiateMtu mtu = mtu := by
  obtain ⟨requested, rfl⟩ := h
  rw [← UInt16.toNat_inj, negotiateMtu_toNat, negotiateMtu_toNat]
  omega

/-- What comes of two negotiated MTUs is the first if it is not above the second. -/
theorem Negotiated.negotiateMtu_min_iff {s : TransportServer F H} {m p : UInt16}
    (hm : s.Negotiated m) (hp : s.Negotiated p) : s.negotiateMtu (min m p) = m ↔ m ≤ p := by
  by_cases hle : m ≤ p
  · have hmin : min m p = m := if_pos hle
    rw [hmin, hm.negotiateMtu]
    exact iff_of_true rfl hle
  · have hmin : min m p = p := if_neg hle
    rw [hmin, hp.negotiateMtu]
    refine iff_of_false ?_ hle
    rintro rfl
    exact hle (UInt16.le_refl p)

/-- The session behind the answer to a second request. -/
def repliedSession (session : Session F H) (mtu : UInt16) (now : Instant) (st : SessionState) :
    Session F H :=
  { (session.setMtu mtu.toNat).touchActivity now with state := st }

/-- What the end of a call leaves of a session is the session. -/
theorem FinishOutcome.lookup {s : TransportServer F H} {addr a : SocketAddr}
    {o : ConnectedOutcome F H} {r : TransportEvent × TransportServer F H}
    (h : FinishOutcome s addr o r) {session' : Session F H}
    (ha : r.2.sessions.lookup a = some session') : s.sessions.lookup a = some session' := by
  have hclosed : ∀ m : TransportServer F H, ClosesOne s m addr →
      m.sessions.lookup a = some session' → s.sessions.lookup a = some session' := by
    intro m hclose hm
    rw [hclose.sessions, AssocMap.lookup_erase_eq] at hm
    split at hm
    · cases hm
    · exact hm
  cases h with
  | disconnected _ _ hclose => exact hclosed _ hclose ha
  | @closed m _ _ _ _ hclose _ hcounted =>
    refine hclosed m hclose ?_
    rw [hcounted.sessions, (countStarted_sameAt m _ a).session] at ha
    exact ha
  | kept _ _ hcounted =>
    rw [hcounted.sessions, (endHandshake_tables s addr _).1] at ha
    exact ha

variable [F64 F] [MinHeap H QueuedFrame QueuedFrame.weight]

/-- A session that upkeep leaves was there and has been served. -/
theorem Upkeep.served {s s' : TransportServer F H} (h : Upkeep s s') {a : SocketAddr}
    {session' : Session F H} (ha : s'.sessions.lookup a = some session') :
    ∃ session, s.sessions.lookup a = some session ∧ session.Serves session' := by
  induction h generalizing session' with
  | refl => exact ⟨session', ha, .refl _⟩
  | same _ hsame ih => exact ih (hsame.sessions ▸ ha)
  | close _ hclose ih =>
    rw [hclose.sessions, AssocMap.lookup_erase_eq] at ha
    split at ha
    · cases ha
    · exact ih ha
  | serve _ hlookup hserves ih =>
    rw [AssocMap.lookup_insert_eq] at ha
    split at ha
    · next heq =>
      subst heq
      obtain rfl := Option.some.inj ha
      obtain ⟨session, hsession, hserved⟩ := ih hlookup
      exact ⟨session, hsession, hserved.trans hserves⟩
    · exact ih ha

/-- A session that is there behind a datagram was there, and has run through it. -/
theorem DatagramOutcome.ran {s : TransportServer F H} {env : Env} {addr a : SocketAddr}
    {datagram : Datagram} {r : CallResult TransportEvent × TransportServer F H}
    (h : DatagramOutcome s env addr datagram r) {session : Session F H}
    (hlookup : s.sessions.lookup addr = some session) {session' : Session F H}
    (ha : r.2.sessions.lookup a = some session') :
    ∃ session, s.sessions.lookup a = some session ∧ session.Runs session' := by
  have hstored : ∀ (ran : Session F H) (pipeline : SessionPipeline), session.Runs ran →
      (s.stored addr ran pipeline).sessions.lookup a = some session' →
      ∃ session, s.sessions.lookup a = some session ∧ session.Runs session' := by
    intro ran pipeline hran hm
    rw [stored, AssocMap.lookup_insert_eq] at hm
    split at hm
    · next heq =>
      subst heq
      obtain rfl := Option.some.inj hm
      exact ⟨session, hlookup, hran⟩
    · exact ⟨session', hm, .refl _⟩
  have hreleased : ∀ {frames : List Frame} {released : Session F H} {o : ConnectedOutcome F H},
      s.Releases env addr datagram frames released →
      o = s.outcomeOver env addr released frames → session.Runs o.loop.session := by
    rintro frames released o hreleases rfl
    have hingested := ingestDatagram_runs env datagram hlookup
    rw [hreleases] at hingested
    exact hingested.trans (s.outcomeOver_runs env addr released frames)
  cases h with
  | refused hingest =>
    have hingested := ingestDatagram_runs env datagram hlookup
    rw [ingestConnected_refuses hingest] at hingested
    exact hstored _ _ hingested ha
  | malformed hreleases ho hdecode => exact hstored _ _ (hreleased hreleases ho) ha
  | unsent hreleases ho _ _ haside =>
    exact hstored _ _ (hreleased hreleases ho) (haside.sessions ▸ ha)
  | finished hreleases ho _ _ haside hfinish =>
    exact hstored _ _ (hreleased hreleases ho) (haside.sessions ▸ hfinish.lookup ha)

/-! ## Second replies -/

/-- The session that an operation answers a second request for, as the request
    meets it, with its address and the MTU of the answer. -/
def repliedTo (s : TransportServer F H) : TransportOp → Option (SocketAddr × Session F H × UInt16)
  | .recvAndProcess env bytes observedAddr =>
    match s.triage env bytes observedAddr with
    | .offline addr packet m =>
      match (m.handleOfflinePacket env addr packet).reply, m.sessions.lookup addr with
      | some (.openConnectionReply2 reply2), some session => some (addr, session, reply2.mtu)
      | _, _ => none
    | _ => none
  | _ => none

/-- What an operation can make of the session of an address, if it leaves one. -/
inductive SessionStep (s : TransportServer F H) (op : TransportOp) (a : SocketAddr) :
    Session F H → Prop
  | runs {session session' : Session F H} (hlookup : s.sessions.lookup a = some session)
      (h : session.Runs session') : SessionStep s op a session'
  | opened {m : TransportServer F H} {env : Env} {mtu : UInt16}
      (hmtu : s.Negotiated mtu) : SessionStep s op a (m.openedSession env mtu)
  | replied {session met : Session F H} {mtu : UInt16} {now : Instant} {st : SessionState}
      (hlookup : s.sessions.lookup a = some session) (hserves : session.Serves met)
      (hmet : s.repliedTo op = some (a, met, mtu)) (hmtu : s.Negotiated mtu) :
      SessionStep s op a (repliedSession met mtu now st)

/-- The answer to a second request sets the MTU of its session. -/
theorem OfflineEffect.replied {s : TransportServer F H} {env : Env} {addr : SocketAddr}
    {packet : OfflinePacket} {r : OfflineResult F H} (h : OfflineEffect s env addr packet r)
    {reply2 : OpenConnectionReply2} (hreply : r.reply = some (.openConnectionReply2 reply2)) :
    ∃ (session : Session F H) (now : Instant) (st : SessionState),
      s.sessions.lookup addr = some session ∧ s.Negotiated reply2.mtu ∧
      r.server.sessions
        = s.sessions.insert addr (repliedSession session reply2.mtu now st) := by
  cases h with
  | aside hopens _ | closed hopens _ => exact absurd hreply (hopens.accepts reply2)
  | opened =>
    rw [openSession_eq] at hreply
    cases hreply
  | @accepted m req2 pending session haside _ _ hlookup _ _ _ hstate =>
    rw [acceptRequest2_eq hlookup hstate] at hreply ⊢
    cases hreply
    refine ⟨session, env.now, .reply2Sent, haside.sessions ▸ hlookup,
      .congr ⟨_, rfl⟩ haside.config.symm, ?_⟩
    rw [← haside.sessions]
    rfl
  | @retried m req2 pending session haside _ _ hlookup _ hstate =>
    rw [retryRequest2_eq hlookup hstate] at hreply ⊢
    cases hreply
    refine ⟨session, env.now, session.state, haside.sessions ▸ hlookup,
      .congr ⟨_, rfl⟩ haside.config.symm, ?_⟩
    rw [← haside.sessions]
    rfl

/-- A session that is there behind an offline packet was there, or the packet has
    opened it, or has got a second reply. -/
theorem OfflineEffect.left {s : TransportServer F H} {env : Env} {addr a : SocketAddr}
    {packet : OfflinePacket} {r : OfflineResult F H} (h : OfflineEffect s env addr packet r)
    {session' : Session F H} (ha : r.server.sessions.lookup a = some session') :
    s.sessions.lookup a = some session' ∨
    (∃ (m : TransportServer F H) (mtu : UInt16), s.Negotiated mtu ∧
      session' = m.openedSession env mtu) ∨
    a = addr ∧ ∃ reply2, r.reply = some (.openConnectionReply2 reply2) := by
  cases h with
  | aside _ haside => exact .inl (haside.sessions ▸ ha)
  | closed _ hclose =>
    rw [hclose.sessions, AssocMap.lookup_erase_eq] at ha
    split at ha
    · cases ha
    · exact .inl ha
  | @opened m req1 haside _ _ _ _ =>
    rw [openSession_eq] at ha
    dsimp only at ha
    rw [AssocMap.lookup_insert_eq] at ha
    split at ha
    · exact .inr (.inl ⟨m, _, .congr ⟨_, rfl⟩ haside.config.symm, (Option.some.inj ha).symm⟩)
    · next hne =>
      rw [AList.lookup_erase_ne hne, haside.sessions] at ha
      exact .inl ha
  | @accepted m req2 pending session haside _ _ hlookup _ _ _ hstate =>
    rw [acceptRequest2_eq hlookup hstate] at ha ⊢
    dsimp only at ha
    rw [AssocMap.lookup_insert_eq, haside.sessions] at ha
    split at ha
    · next heq => exact .inr (.inr ⟨heq, _, rfl⟩)
    · exact .inl ha
  | @retried m req2 pending session haside _ _ hlookup _ hstate =>
    rw [retryRequest2_eq hlookup hstate] at ha ⊢
    dsimp only at ha
    rw [AssocMap.lookup_insert_eq, haside.sessions] at ha
    split at ha
    · next heq => exact .inr (.inr ⟨heq, _, rfl⟩)
    · exact .inl ha

theorem repliedTo_of_triage {s m : TransportServer F H} {env : Env} {bytes : Bytes}
    {observedAddr addr : SocketAddr} {packet : OfflinePacket} {reply2 : OpenConnectionReply2}
    {session : Session F H} (htriage : s.triage env bytes observedAddr = .offline addr packet m)
    (hreply : (m.handleOfflinePacket env addr packet).reply
      = some (.openConnectionReply2 reply2))
    (hlookup : m.sessions.lookup addr = some session) :
    s.repliedTo (.recvAndProcess env bytes observedAddr) = some (addr, session, reply2.mtu) := by
  rw [repliedTo, htriage]
  dsimp only
  rw [hreply, hlookup]

/-- The inversion of a step for one session. -/
theorem step_session {s : TransportServer F H} (hs : s.NoOrphans) {op : TransportOp}
    {a : SocketAddr} {session' : Session F H}
    (ha : (s.step op).1.sessions.lookup a = some session') : SessionStep s op a session' := by
  have hstep := step_inv hs op
  generalize s.step op = r at hstep ha
  cases hstep with
  | upkeep _ hupkeep _ =>
    obtain ⟨session, hlookup, hserves⟩ := hupkeep.served ha
    exact .runs hlookup hserves.runs
  | @offline env bytes observedAddr addr packet m s' out hop htriage heffect haside _ =>
    subst hop
    have hupkeep : Upkeep s m := upkeep_of_triage htriage
    dsimp only at ha
    rw [haside.sessions] at ha
    rcases heffect.left ha with hkept | ⟨m', mtu, hmtu, rfl⟩ | ⟨rfl, reply2, hreply⟩
    · obtain ⟨session, hlookup, hserves⟩ := hupkeep.served hkept
      exact .runs hlookup hserves.runs
    · exact .opened (hmtu.congr hupkeep.keeps.config.symm)
    · obtain ⟨met, now, st, hmet, hmtu, hsessions⟩ := heffect.replied hreply
      rw [hsessions, AList.lookup_insert] at ha
      obtain rfl := Option.some.inj ha
      obtain ⟨session, hlookup, hserves⟩ := hupkeep.served hmet
      exact .replied hlookup hserves (repliedTo_of_triage htriage hreply hmet)
        (hmtu.congr hupkeep.keeps.config.symm)
  | datagram hop hadmitted houtcome =>
    obtain ⟨met, hmet⟩ := lookup_of_admitted hadmitted
    obtain ⟨session₁, hlookup₁, hruns⟩ := houtcome.ran hmet ha
    obtain ⟨session, hlookup, hserves⟩ := (upkeep_of_admitted hadmitted).served hlookup₁
    exact .runs hlookup (hserves.runs.trans hruns)

/-- The session of an answered second request is there behind the operation. -/
theorem lookup_of_repliedTo {s : TransportServer F H} {op : TransportOp} {a : SocketAddr}
    {met : Session F H} {mtu : UInt16} (h : s.repliedTo op = some (a, met, mtu)) :
    ∃ now st, (s.step op).1.sessions.lookup a = some (repliedSession met mtu now st) := by
  cases op with
  | recvAndProcess env bytes observedAddr =>
    rw [repliedTo] at h
    cases htriage : s.triage env bytes observedAddr with
    | answered _ _ | connected _ _ _ =>
      rw [htriage] at h
      cases h
    | offline addr packet m =>
      rw [htriage] at h
      dsimp only at h
      split at h
      · next reply2 session hreply hlookup =>
        obtain ⟨rfl, rfl, rfl⟩ : addr = a ∧ session = met ∧ reply2.mtu = mtu := by
          simpa using h
        obtain ⟨met, now, st, hmet, -, hsessions⟩ :=
          (m.handleOfflinePacket_effect env addr packet).replied hreply
        obtain rfl := Option.some.inj (hlookup.symm.trans hmet)
        refine ⟨now, st, ?_⟩
        rw [step, recvAndProcess, htriage]
        dsimp only
        rw [(m.processOffline_aside env addr packet).sessions, hsessions, AList.lookup_insert]
      · cases h
  | _ => cases h

end TransportServer

end Raknet
