-- SUMMARY: When the cookie of a first reply is one that the server accepts.
import Raknet.Transport.CookieGate
import Raknet.Transport.HandshakeSteps
import Raknet.Transport.Ledger

/-!
# The cookie of a first reply

A first request that is sent again gets the cookie of the handshake that is still
waiting for the second one. Each time the handshake gets its full time again, while
the keys change on their own. So the cookie may be older than both keys, and then
it is refused (`reply1_cookie_refused`).
-/

namespace Raknet

open Decoder

variable {F H : Type}

namespace TransportServer

/-! ## What cookies depend on -/

namespace SameCookies

variable {s s' s'' : TransportServer F H}

theorem refl (s : TransportServer F H) : SameCookies s s := ⟨rfl, rfl, rfl, rfl, rfl⟩

theorem trans (h : SameCookies s s') (h' : SameCookies s' s'') : SameCookies s s'' where
  config := h'.config.trans h.config
  hmac := h'.hmac.trans h.hmac
  current := h'.current.trans h.current
  previous := h'.previous.trans h.previous
  rotation := h'.rotation.trans h.rotation

theorem verifyCookie (h : SameCookies s s') (a : SocketAddr) (cookie : Option UInt32) :
    s'.verifyCookie a cookie = s.verifyCookie a cookie := by
  simp only [TransportServer.verifyCookie, computeCookieForKey, h.hmac, h.config, h.current,
    h.previous]

theorem rotate (h : SameCookies s s') (env : Env) :
    SameCookies (s.rotateCookieKeysIfNeeded env) (s'.rotateCookieKeysIfNeeded env) := by
  unfold rotateCookieKeysIfNeeded
  rw [h.config, h.rotation]
  split
  · exact h
  · split
    · exact h
    · exact ⟨rfl, h.hmac, rfl, congrArg some h.current, rfl⟩

end SameCookies

/-- The housekeeping in front of a packet changes the keys when it is time, and nothing else of
    what cookies depend on. -/
theorem prepare_cookies [F64 F] (s : TransportServer F H) (env : Env) (addr : SocketAddr) :
    SameCookies (s.rotateCookieKeysIfNeeded env) (s.prepare env addr) := by
  refine SameCookies.rotate (Writes.sameCookies (I := s.timesOut env) ?_) env
  exact (s.prunePendingHandshakes_writes env)
    |>.trans (pruneCookieMismatchGuardStates_writes _ _)
    |>.trans (pruneIpRecentlyConnected_writes _ _)
    |>.trans (pruneIdleSessions_writes _ env (some addr))
    |>.trans (tick_writes _ _)

/-! ## The handshake that a packet meets -/

/-- The sessions that are pruned for being idle are those of other addresses. -/
theorem pruneIdleSessions_pending (s : TransportServer F H) (env : Env) (addr : SocketAddr) :
    (s.pruneIdleSessions env (some addr)).pendingHandshakes.lookup addr
      = s.pendingHandshakes.lookup addr := by
  unfold pruneIdleSessions
  split
  · rfl
  · have hcloses := Closes.foldl (g := id) (fun (s : TransportServer F H) addr =>
      (s.closeCounted_closesOne env addr (f := fun c => { c with
        timedOutSessions := satAdd c.timedOutSessions 1 }) (fun _ => rfl) fun _ => rfl).closes)
      (s.staleSessions env (some addr)) s
    have hother : addr ∉ (s.staleSessions env (some addr)).map id := by
      unfold staleSessions
      simp only [List.map_id, List.mem_filter, not_and]
      intro _
      split <;> simp
    have hpeer := hcloses.peer addr
    rw [if_neg hother] at hpeer
    exact congrArg Prod.snd hpeer

/-- A packet meets the handshake of its address if that is not out of time. -/
theorem prepare_pending (s : TransportServer F H) (env : Env) (addr : SocketAddr) :
    (s.prepare env addr).pendingHandshakes.lookup addr
      = (s.pendingHandshakes.lookup addr).filter fun pending =>
          decide (env.now < pending.expiresAt) := by
  have hpruned : (s.prunePendingHandshakes env).pendingHandshakes.lookup addr
      = (s.pendingHandshakes.lookup addr).filter fun pending =>
          decide (env.now < pending.expiresAt) := by
    have hpeer := congrArg Prod.snd ((s.prunePendingHandshakes_closes env).peer addr)
    refine hpeer.trans ?_
    cases hlookup : s.pendingHandshakes.lookup addr with
    | none => split <;> first | rfl | exact hlookup
    | some pending =>
      have hmem : addr ∈ (s.expiredHandshakes env).map Prod.fst ↔ _ := mem_expiredHandshakes
      by_cases hexpired : pending.expiresAt ≤ env.now
      · rw [if_pos (hmem.mpr ⟨pending, hlookup, hexpired⟩), Option.filter_some,
          if_neg (by simpa using hexpired)]
      · have hkept : addr ∉ (s.expiredHandshakes env).map Prod.fst := by
          rw [hmem]
          rintro ⟨pending', hlookup', hexpired'⟩
          obtain rfl := Option.some.inj (hlookup.symm.trans hlookup')
          exact hexpired hexpired'
        rw [if_neg hkept, Option.filter_some, if_pos (by simpa using hexpired)]
        exact hlookup
  rw [← hpruned]
  unfold prepare
  dsimp only
  rw [(rotateCookieKeysIfNeeded_tables _ env).pending]
  dsimp only
  rw [pruneIdleSessions_pending, (pruneIpRecentlyConnected_aside _ env.now).pending,
    (pruneCookieMismatchGuardStates_aside _ env.now).pending]

/-- The keys and the handshake that an offline packet meets. -/
theorem triage_offline [F64 F] {s m : TransportServer F H} {env : Env} {bytes : Bytes}
    {observedAddr addr : SocketAddr} {packet : OfflinePacket}
    (h : s.triage env bytes observedAddr = .offline addr packet m) :
    SameCookies (s.rotateCookieKeysIfNeeded env) m ∧
    m.pendingHandshakes.lookup addr
      = (s.pendingHandshakes.lookup addr).filter fun pending =>
          decide (env.now < pending.expiresAt) := by
  have hroute : SameCookies s (s.routeInboundAddr observedAddr).2 :=
    (s.routeInboundAddr_writes (I := fun _ => True) observedAddr).sameCookies
  have htables := (s.routeInboundAddr_aside observedAddr).pending
  unfold triage at h
  generalize s.routeInboundAddr observedAddr = q at h hroute htables
  obtain ⟨route, s₁⟩ := q
  cases route with
  | none => cases h
  | some routed =>
    dsimp only at h hroute htables
    have hcookies := (hroute.rotate env).trans (s₁.prepare_cookies env routed)
    have hpending := s₁.prepare_pending env routed
    rw [htables] at hpending
    generalize s₁.prepare env routed = t at h hcookies hpending
    cases hfirst : bytes.head? with
    | none =>
      rw [hfirst] at h
      cases h
    | some first =>
      rw [hfirst] at h
      dsimp only at h
      generalize t.rateLimiter.check routed.ip env.now = checked at h
      obtain ⟨decision, rateLimiter⟩ := checked
      cases decision with
      | allow =>
        dsimp only [decodePacket] at h
        split at h
        · split at h
          · obtain ⟨rfl, rfl, rfl⟩ := Admission.offline.inj h
            refine ⟨hcookies.trans ?_, hpending⟩
            exact ⟨rfl, rfl, rfl, rfl, rfl⟩
          · cases h
        · split at h <;> cases h
      | globalLimit => cases h
      | ipBlocked newlyBlocked reason =>
        dsimp only at h
        split at h <;> cases h

/-! ## The reply -/

/-- The cookie of the handshake that a first request would find, still waiting for the second
    one and not out of time, is accepted under the keys that the call goes by. -/
def HoldsGoodCookie (s : TransportServer F H) (env : Env) (a : SocketAddr) : Prop :=
  ∀ pending cookie, s.pendingHandshakes.lookup a = some pending →
    pending.stage = .awaitingRequest2 → env.now < pending.expiresAt →
    pending.cookie = some cookie →
    (s.rotateCookieKeysIfNeeded env).verifyCookie a (some cookie) = true

theorem verifyCookie_generateCookie (s : TransportServer F H) (a : SocketAddr) :
    s.verifyCookie a (some (s.generateCookie a)) = true := by
  unfold verifyCookie generateCookie
  dsimp only
  rw [beq_self_eq_true, Bool.true_or]

/-- The cookie of a first reply is good if there is none to reuse or that one is good. -/
theorem verifyCookie_request1Cookie {s : TransportServer F H} (hsend : s.config.sendCookie = true)
    (a : SocketAddr) :
    s.verifyCookie a (s.request1Cookie a) = true ↔
      ∀ pending cookie, s.pendingHandshakes.lookup a = some pending →
        pending.stage = .awaitingRequest2 → pending.cookie = some cookie →
        s.verifyCookie a (some cookie) = true := by
  have hfresh := s.verifyCookie_generateCookie a
  unfold request1Cookie
  rw [if_pos hsend]
  dsimp only
  cases hlookup : s.pendingHandshakes.lookup a with
  | none =>
    refine ⟨fun _ pending cookie h => ?_, fun _ => hfresh⟩
    cases h
  | some pending =>
    dsimp only
    by_cases hstage : pending.stage = .awaitingRequest2
    · rw [if_pos hstage]
      cases hcookie : pending.cookie with
      | none =>
        refine ⟨fun _ pending' cookie h _ h' => ?_, fun _ => hfresh⟩
        obtain rfl := Option.some.inj h
        rw [hcookie] at h'
        cases h'
      | some cookie =>
        constructor
        · intro hgood pending' cookie' h _ h'
          obtain rfl := Option.some.inj h
          rw [← h', hcookie]
          exact hgood
        · intro h
          exact h pending cookie rfl hstage hcookie
    · rw [if_neg hstage]
      refine ⟨fun _ pending' cookie h hstage' => ?_, fun _ => hfresh⟩
      obtain rfl := Option.some.inj h
      exact absurd hstage' hstage

variable [F64 F] [MinHeap H QueuedFrame QueuedFrame.weight]

/-- The cookie of a first reply, as the packet and its reply find the keys. -/
theorem OfflineEffect.reply1_good {s : TransportServer F H} {env : Env} {addr : SocketAddr}
    {packet : OfflinePacket} {r : OfflineResult F H} (h : OfflineEffect s env addr packet r)
    (hsend : s.config.sendCookie = true) {reply1 : OpenConnectionReply1}
    (hreply : r.reply = some (.openConnectionReply1 reply1)) :
    r.server.verifyCookie addr reply1.cookie = true ↔
      ∀ pending cookie, s.pendingHandshakes.lookup addr = some pending →
        pending.stage = .awaitingRequest2 → pending.cookie = some cookie →
        s.verifyCookie addr (some cookie) = true := by
  cases h with
  | aside hopens _ | closed hopens _ => exact absurd hreply (hopens.offers reply1)
  | @opened m req1 haside _ _ _ _ =>
    rw [openSession_eq] at hreply ⊢
    cases hreply
    have hgood := m.verifyCookie_request1Cookie (haside.config ▸ hsend) addr
    simp only [haside.verifyCookie, haside.pending] at hgood
    refine Iff.trans (Eq.to_iff (congrArg (· = true) ?_)) hgood
    exact haside.verifyCookie addr (m.request1Cookie addr)
  | accepted _ _ _ hlookup _ _ _ hstate =>
    rw [acceptRequest2_eq hlookup hstate] at hreply
    cases hreply
  | retried _ _ _ hlookup _ hstate =>
    rw [retryRequest2_eq hlookup hstate] at hreply
    cases hreply

/-- In every run with cookies, the cookie of a first reply is accepted right behind it exactly if
    the handshake that the request found, if any, holds a cookie that is still good. -/
theorem reply1_cookie_accepted_iff (config : TransportConfig F) (hsend : config.sendCookie = true)
    (socketAddr : Option SocketAddr) (hmacSha256 : CookieKey → Bytes → Octets 32)
    (key : CookieKey) (now : Instant) (ops : List TransportOp) (env : Env) (bytes : Bytes)
    (observedAddr a : SocketAddr) (reply1 : OpenConnectionReply1)
    (hreply : (a, .openConnectionReply1 reply1)
      ∈ ((transportMachine F H).exec (withSocket config socketAddr hmacSha256 key now)
          ops).offlineReply (.recvAndProcess env bytes observedAddr)) :
    ((transportMachine F H).exec (withSocket config socketAddr hmacSha256 key now)
        (ops ++ [.recvAndProcess env bytes observedAddr])).verifyCookie a reply1.cookie = true ↔
      ((transportMachine F H).exec (withSocket config socketAddr hmacSha256 key now)
        ops).HoldsGoodCookie env a := by
  have hconfig : ((transportMachine F H).exec (withSocket config socketAddr hmacSha256 key now)
      ops).config = config := (exec_noOrphans (fun _ _ => rfl) ops).2
  rw [Machine.exec_append]
  generalize (transportMachine F H).exec (withSocket config socketAddr hmacSha256 key now) ops = s
    at hreply hconfig ⊢
  show (s.step (.recvAndProcess env bytes observedAddr)).1.verifyCookie a reply1.cookie = true ↔ _
  rw [offlineReply] at hreply
  cases htriage : s.triage env bytes observedAddr with
  | answered _ _ | connected _ _ _ =>
    rw [htriage] at hreply
    cases hreply
  | offline addr packet m =>
    rw [htriage] at hreply
    obtain ⟨reply, hreply, heq⟩ := Option.map_eq_some_iff.mp (Option.mem_toList.mp hreply)
    obtain ⟨rfl, rfl⟩ := Prod.mk.inj heq
    obtain ⟨hcookies, hpending⟩ := triage_offline htriage
    have hkeeps : Keeps s m := (upkeep_of_triage htriage).keeps
    have hsend : m.config.sendCookie = true := by
      rw [hkeeps.config, hconfig]
      exact hsend
    have hgood := (m.handleOfflinePacket_effect env addr packet).reply1_good hsend hreply
    rw [step, recvAndProcess, htriage]
    dsimp only
    rw [(m.processOffline_aside env addr packet).verifyCookie, hgood, hpending]
    simp only [hcookies.verifyCookie, Option.filter_eq_some_iff, decide_eq_true_eq]
    constructor
    · intro h pending cookie hlookup hstage htime hcookie
      exact h pending cookie ⟨hlookup, htime⟩ hstage hcookie
    · intro h pending cookie hmet hstage hcookie
      exact h pending cookie hmet.1 hstage hmet.2 hcookie

/-! ## An old cookie -/

/-- A server whose keys change every second. -/
def hastyConfig : TransportConfig ℚ :=
  { (TransportConfig.standard : TransportConfig ℚ) with
    cookieRotationInterval := .fromMillis 1000 }

def hastyServer : ConcreteServer :=
  withSocket hastyConfig none (fun key _ => key) firstKey 0

def request1Bytes : Bytes :=
  encodedBytes (OfflinePacket.openConnectionRequest1
    { protocolVersion := 11, mtu := 1400, magic := defaultUnconnectedMagic }).encode

/-- The reply with the cookie under the first key. -/
def firstKeyReply : OpenConnectionReply1 :=
  { serverGuid := hastyConfig.serverGuid
    mtu := 1400
    cookie := some 0x01010101
    magic := defaultUnconnectedMagic }

/-- Two ticks, each with a new key. -/
def twoRotations : List TransportOp :=
  [.tickOutbound { quietEnv 1100000000 with nextKey := secondKey } 8 11200 8 11200,
    .tickOutbound { quietEnv 2200000000 with nextKey := ⟨List.replicate 32 3, rfl⟩ } 8 11200 8
      11200]

/-- The first request of an address finds no handshake. -/
theorem reply1_cookie_accepted_iff_first :
    (concreteTransport.exec hastyServer ([] ++ [fromClient 1 request1Bytes])).verifyCookie
      clientAddr firstKeyReply.cookie = true :=
  (reply1_cookie_accepted_iff (H := SortedHeap QueuedFrame QueuedFrame.weight) hastyConfig rfl none
    (fun key _ => key) firstKey 0 [] (quietEnv 1) request1Bytes clientAddr
    clientAddr firstKeyReply (by decide +kernel)).mpr fun pending cookie h => by cases h

/-- It is sent again behind two changes of the keys and gets the old cookie, which the server
    does not accept. -/
theorem reply1_cookie_refused :
    let s := concreteTransport.exec hastyServer (fromClient 1 request1Bytes :: twoRotations)
    let op := fromClient 3000000000 request1Bytes
    s.offlineReply op = [(clientAddr, .openConnectionReply1 firstKeyReply)] ∧
      (s.step op).1.verifyCookie clientAddr firstKeyReply.cookie = false := by
  decide +kernel

end TransportServer

end Raknet
