-- SUMMARY: How long a permanent block of an address holds, in the rate limiter and in the server.
import Raknet.Transport.Ledger
import Raknet.Transport.CookieGate

/-!
# Permanent blocks

A block without an end keeps the packets of its address out until it is lifted, unless
a block for a while is put in its place. An operator can do that, and so do the
handshakes of the address that are still under way when it is banned: they run out of
time, and the heuristics block the address for a while.
-/

namespace Raknet

open Decoder

/-- A block for a while on the address. -/
def RateLimiterOp.blocksForAWhile (ip : IpAddr) : RateLimiterOp → Bool
  | .blockAddressForWithReason ip' _ _ _ => decide (ip' = ip)
  | _ => false

variable {F : Type} [F64 F]

namespace RateLimiter

/-- The address has a block without an end. -/
structure Banned (r : RateLimiter F) (ip : IpAddr) : Prop where
  noException : ip ∉ r.exceptions
  blocked : ∃ reason, r.blocked.lookup ip = some ⟨none, reason⟩

/-- A check of the address at any time keeps the packet out. -/
def KeepsOut (r : RateLimiter F) (ip : IpAddr) : Prop :=
  ∀ now, ∃ newlyBlocked reason, (r.check ip now).1 = .ipBlocked newlyBlocked reason

variable {r : RateLimiter F} {ip : IpAddr}

omit [F64 F] in
theorem Banned.check (h : r.Banned ip) (now : Instant) :
    ∃ reason, (r.check ip now).1 = .ipBlocked false reason := by
  obtain ⟨reason, hb⟩ := h.blocked
  exact ⟨reason, check_of_blocked h.noException hb rfl⟩

omit [F64 F] in
theorem Banned.keepsOut (h : r.Banned ip) : r.KeepsOut ip := by
  intro now
  obtain ⟨reason, hcheck⟩ := h.check now
  exact ⟨false, reason, hcheck⟩

omit [F64 F] in
theorem blockAddress_banned (h : ip ∉ r.exceptions) : (r.blockAddress ip).2.Banned ip := by
  refine ⟨?_, .manual, ?_⟩
  · unfold blockAddress blockAddressWithReason insertBlock
    rw [if_neg h]
    dsimp only
    split <;> exact h
  · rw [blockAddress, blockAddressWithReason, insertBlock_blocked, if_pos]
    exact ⟨rfl, decide_eq_false h⟩

/-- A ban is kept by all operations that neither lift it nor put a block for a while in its
    place. -/
theorem Banned.step (h : r.Banned ip) {o : RateLimiterOp} (hlift : o.lifts ip = false)
    (htimed : o.blocksForAWhile ip = false) : (r.step o).1.Banned ip := by
  refine ⟨fun hexc => ?_, ?_⟩
  · rcases step_exceptions hexc with hlifts | hold
    · rw [hlift] at hlifts
      cases hlifts
    · exact h.noException hold
  · obtain ⟨reason, hb⟩ := h.blocked
    have hover : ∀ now, (some (⟨none, reason⟩ : BlockState)).filter (fun b => !b.over now)
        = some ⟨none, reason⟩ := fun now => rfl
    rw [step_blocked, hlift]
    cases hsets : r.setsBlock ip o with
    | none =>
      cases o.time with
      | none => exact ⟨reason, hb⟩
      | some now => exact ⟨reason, by simp only [hb, hover]; rfl⟩
    | some b =>
      cases o with
      | check ip' now =>
        -- the packets of the address are kept out already
        simp only [setsBlock, Option.ite_none_right_eq_some] at hsets
        obtain ⟨⟨rfl, hcheck⟩, -⟩ := hsets
        obtain ⟨reason', hkept⟩ := h.check now
        rw [hkept] at hcheck
        cases hcheck
      | blockAddressWithReason ip' reason' =>
        simp only [setsBlock, Option.ite_none_right_eq_some, Option.some.injEq] at hsets
        obtain ⟨-, rfl⟩ := hsets
        exact ⟨reason', rfl⟩
      | blockAddressForWithReason ip' now duration reason' =>
        simp only [setsBlock, Option.ite_none_right_eq_some] at hsets
        obtain ⟨⟨rfl, -⟩, -⟩ := hsets
        exact absurd htimed (by simp [RateLimiterOp.blocksForAWhile])
      | _ => cases hsets

/-- The server's own operations keep the bans of other addresses. -/
theorem Banned.reaches {I : IpAddr → Prop} {r' : RateLimiter F} (h : r.Banned ip)
    (hreach : rateLimiterMachine.Reaches (RateLimiterOp.Internal I) r r') (hip : ¬I ip) :
    r'.Banned ip := by
  refine hreach.invariant (P := fun r => r.Banned ip) (fun r op hop hr => ?_) h
  refine hr.step ?_ ?_
  · cases op with
    | addException | unblockAddress => exact absurd hop id
    | _ => rfl
  · cases op with
    | blockAddressForWithReason ip' => exact decide_eq_false fun heq => hip (heq ▸ hop)
    | _ => rfl

/-- Both limits let a packet through. -/
structure LimitsPos (r : RateLimiter F) : Prop where
  perIp : 0 < r.perIpLimit
  total : 0 < r.globalLimit

omit [F64 F] in
theorem LimitsPos.tick (h : r.LimitsPos) (now : Instant) : (r.tick now).LimitsPos := by
  obtain ⟨-, -, hper, hglobal⟩ := r.tick_window now
  exact ⟨hper ▸ h.perIp, hglobal ▸ h.total⟩

omit [F64 F] in
theorem insertBlock_limitsPos (h : r.LimitsPos) (ip : IpAddr) (state : BlockState) :
    (r.insertBlock ip state).2.LimitsPos := by
  unfold insertBlock
  split
  · exact h
  · dsimp only
    split <;> exact ⟨h.perIp, h.total⟩

omit [F64 F] in
theorem unblockAddress_limitsPos (h : r.LimitsPos) (ip : IpAddr) :
    (r.unblockAddress ip).2.LimitsPos := by
  unfold unblockAddress
  split <;> exact ⟨h.perIp, h.total⟩

theorem LimitsPos.step (h : r.LimitsPos) (op : RateLimiterOp) : (r.step op).1.LimitsPos := by
  have hmax : ∀ n : Nat, 0 < max n 1 := fun n => Nat.lt_of_lt_of_le Nat.one_pos (Nat.le_max_right n 1)
  cases op with
  | check ip now =>
    have houtcome := r.check_outcome ip now
    have hticked := h.tick now
    simp only [RateLimiter.step]
    generalize r.check ip now = result at houtcome ⊢
    cases houtcome <;> exact ⟨hticked.perIp, hticked.total⟩
  | tick now => exact h.tick now
  | consumeProcessingBudget ip costUnits now => exact ⟨(h.tick now).perIp, (h.tick now).total⟩
  | addException ip =>
    exact unblockAddress_limitsPos (r := { r with exceptions := r.exceptions.insert ip })
      ⟨h.perIp, h.total⟩ ip
  | blockAddressWithReason ip reason => exact insertBlock_limitsPos h ip _
  | blockAddressForWithReason ip now duration reason => exact insertBlock_limitsPos h ip _
  | unblockAddress ip => exact unblockAddress_limitsPos h ip
  | setPerIpLimit limit now => exact ⟨hmax limit, h.total⟩
  | setGlobalLimit limit now => exact ⟨h.perIp, hmax limit⟩
  | updateLimits perIp total window duration now => exact ⟨hmax perIp, hmax total⟩
  | removeException | setWindow | setBlockDuration | setProcessingBudgetConfig =>
    exact ⟨h.perIp, h.total⟩

omit [F64 F] in
/-- A block with an end lets packets through behind it, in a new window. -/
theorem not_keepsOut_of_end (h : r.LimitsPos) {deadline : Instant} {reason : BlockReason}
    (hb : r.blocked.lookup ip = some ⟨some deadline, reason⟩) : ¬r.KeepsOut ip := by
  intro hout
  let now := max deadline (r.windowStart + r.window)
  obtain ⟨newlyBlocked, reason', hcheck⟩ := hout now
  have hover : (r.tick now).blocked.lookup ip = none := by
    rw [tick_blocked, hb]
    simp [BlockState.over, now]
  have hrotates : r.rotates now = true := by
    simp only [rotates, Bool.not_eq_true', decide_eq_false_iff_not, Nat.not_lt, now]
    exact Nat.le_sub_of_add_le (Nat.add_comm r.window r.windowStart ▸ Nat.le_max_right _ _)
  obtain ⟨hcount, hcounts, hper, hglobal⟩ := r.tick_window now
  rw [if_pos hrotates] at hcount
  have hzero := hcounts ip
  rw [if_pos hrotates, countOf] at hzero
  have hticked := h.tick now
  unfold RateLimiter.check at hcheck
  simp only [hover, hcount, hzero] at hcheck
  split at hcheck
  · cases hcheck
  · rw [if_neg (Nat.not_le.mpr hticked.total), if_neg (Nat.not_le.mpr hticked.perIp)] at hcheck
    cases hcheck

theorem new_limitsPos (perIpLimit globalLimit : Nat) (window blockDuration : Duration)
    (start : Instant) :
    (new perIpLimit globalLimit window blockDuration start : RateLimiter F).LimitsPos :=
  ⟨Nat.lt_of_lt_of_le Nat.one_pos (Nat.le_max_right _ _),
    Nat.lt_of_lt_of_le Nat.one_pos (Nat.le_max_right _ _)⟩

/-- Along a run that does not lift the ban, the address is kept out exactly if no block for
    a while is put on it. -/
theorem keepsOut_run_iff {ops : List RateLimiterOp} (hlimits : r.LimitsPos) (h : r.Banned ip)
    (hlift : ∀ op ∈ ops, op.lifts ip = false) :
    (∀ pre, pre <+: ops → (rateLimiterMachine.exec r pre).KeepsOut ip) ↔
      ∀ op ∈ ops, op.blocksForAWhile ip = false := by
  constructor
  · intro hout op hmem
    obtain ⟨pre, post, rfl⟩ := List.append_of_mem hmem
    -- the address does not become an exception, so that the block is put
    have hpre : (rateLimiterMachine.exec r pre).LimitsPos ∧
        ip ∉ (rateLimiterMachine.exec r pre).exceptions := by
      refine rateLimiterMachine.run_invariant_of_steps (C := fun _ op => op.lifts ip = false)
        (P := fun _ _ r => r.LimitsPos ∧ ip ∉ r.exceptions) ⟨hlimits, h.noException⟩
        (fun _ _ r op hr hop => ⟨hr.1.step op, fun hexc => ?_⟩) pre
        (rateLimiterMachine.allSteps_of_mem fun op hop _ => hlift op (List.mem_append_left _ hop))
      rcases step_exceptions hexc with hlifts | hold
      · rw [hop] at hlifts
        cases hlifts
      · exact hr.2 hold
    cases op with
    | blockAddressForWithReason ip' now duration reason =>
      refine decide_eq_false ?_
      rintro rfl
      have hafter := hout (pre ++ [.blockAddressForWithReason ip' now duration reason])
        ⟨post, by simp⟩
      rw [Machine.exec_append] at hafter
      have hblocked := blocked_of_setsBlock (r := rateLimiterMachine.exec r pre)
        (o := .blockAddressForWithReason ip' now duration reason)
        (if_pos ⟨rfl, decide_eq_false hpre.2⟩)
      exact not_keepsOut_of_end (hpre.1.step _) hblocked hafter
    | _ => rfl
  · rintro htimed pre ⟨post, rfl⟩
    refine Banned.keepsOut ?_
    exact rateLimiterMachine.run_invariant_of_steps
      (C := fun _ op => op.lifts ip = false ∧ op.blocksForAWhile ip = false)
      (P := fun _ _ r => r.Banned ip) h (fun _ _ r op hr hop => hr.step hop.1 hop.2) pre
      (rateLimiterMachine.allSteps_of_mem fun op hop _ =>
        ⟨hlift op (List.mem_append_left _ hop), htimed op (List.mem_append_left _ hop)⟩)

end RateLimiter

/-! ## Bans of the server -/

/-- The operation lifts the ban of the address. -/
def TransportOp.lifts (ip : IpAddr) : TransportOp → Bool
  | .unblockAddress ip' | .addRateLimitException ip' => decide (ip' = ip)
  | _ => false

variable {H : Type}

namespace TransportServer

/-- The operation may put a block for a while on the address: one that is asked for, or one
    of the heuristics for a handshake of the address that runs out of time. -/
def replacesBan (s : TransportServer F H) (ip : IpAddr) : TransportOp → Prop
  | .blockAddressFor _ ip' _ => ip' = ip
  | .recvAndProcess env _ _ | .tickOutbound env _ _ _ _ => s.timesOut env ip
  | _ => False

variable {s s' : TransportServer F H} {ip : IpAddr}

theorem Writes.banned {I : IpAddr → Prop} (h : Writes True True I s s')
    (hs : s.rateLimiter.Banned ip) (hip : ¬I ip) : s'.rateLimiter.Banned ip :=
  hs.reaches h.limiter hip

variable [MinHeap H QueuedFrame QueuedFrame.weight]

/-- A packet of a banned address gets nowhere, and a packet of another address leaves the
    ban. -/
theorem recvAndProcess_banned (hs : s.rateLimiter.Banned ip) {env : Env}
    (htime : ¬s.timesOut env ip) (bytes : Bytes) (observedAddr : SocketAddr) :
    (s.recvAndProcess env bytes observedAddr).2.rateLimiter.Banned ip := by
  unfold recvAndProcess triage
  have hroute := (s.routeInboundAddr_writes (I := fun _ => False) observedAddr).banned hs id
  have haside := s.routeInboundAddr_aside observedAddr
  generalize s.routeInboundAddr observedAddr = q at hroute haside ⊢
  obtain ⟨route, s₁⟩ := q
  have hs₁ : s₁.rateLimiter.Banned ip := hroute
  cases route with
  | none => exact hs₁
  | some addr =>
    dsimp only at haside ⊢
    have htime₁ : ¬s₁.timesOut env ip := by
      rw [timesOut, heuristicsBlock_congr haside.config, haside.pending]
      exact htime
    have hprepared := (s₁.prepare_writes env addr).banned hs₁ htime₁
    generalize s₁.prepare env addr = m at hprepared ⊢
    cases bytes.head? with
    | none => exact hprepared
    | some first =>
      dsimp only
      have hchecked : (m.rateLimiter.check addr.ip env.now).2.Banned ip :=
        hprepared.step (o := .check addr.ip env.now) rfl rfl
      have hother : (m.rateLimiter.check addr.ip env.now).1 = .allow → ip ≠ addr.ip := by
        rintro hallow rfl
        obtain ⟨reason, hkept⟩ := hprepared.check env.now
        rw [hkept] at hallow
        cases hallow
      generalize m.rateLimiter.check addr.ip env.now = q at hchecked hother ⊢
      obtain ⟨decision, rateLimiter⟩ := q
      cases decision with
      | allow =>
        dsimp only
        rcases decodePacket_cases { m with rateLimiter } addr (isOfflinePacketId first) bytes with
          ⟨packet, hdecode⟩ | ⟨datagram, hdecode⟩ | ⟨r, hdecode⟩
        all_goals rw [hdecode]
        · exact (processOffline_writes (I := (· = addr.ip)) _ env addr rfl packet).banned
            hchecked (hother rfl)
        · exact (processConnected_writes (I := fun _ => False) _ env addr datagram _).banned
            hchecked id
        · exact hchecked
      | globalLimit => exact hchecked
      | ipBlocked newlyBlocked _ =>
        dsimp only
        by_cases hreply : (isOfflinePacketId first && newlyBlocked) = true
        · rw [if_pos hreply]
          exact (send_writes (I := fun _ => False) { m with rateLimiter } env 0 addr _).banned
            hchecked id
        · rw [if_neg hreply]
          exact hchecked

theorem step_banned (hs : s.rateLimiter.Banned ip) {op : TransportOp}
    (hlift : op.lifts ip = false) (hkeep : ¬s.replacesBan ip op) :
    (s.step op).1.rateLimiter.Banned ip := by
  cases hop : op.limiterOp with
  | some o =>
    rw [step_of_limiterOp hop]
    have hlift' : o.lifts ip = false := by
      cases op <;> cases hop <;> exact hlift
    have htimed : o.blocksForAWhile ip = false := by
      cases op <;> cases hop <;> first | exact decide_eq_false hkeep | rfl
    exact hs.step hlift' htimed
  | none =>
    cases op with
    | recvAndProcess env bytes observedAddr =>
      exact recvAndProcess_banned hs hkeep bytes observedAddr
    | queuePayload env addr payload reliability channel priority receiptId =>
      exact (s.queuePayload_writes (I := fun _ => False) env addr payload reliability channel
        priority receiptId).banned hs id
    | tickOutbound env maxNew maxNewBytes maxResend maxResendBytes =>
      exact (s.tickOutbound_writes env maxNew maxNewBytes maxResend maxResendBytes).banned hs hkeep
    | sendDatagram env addr datagram =>
      exact (s.send_writes (I := fun _ => False) env 0 addr _).banned hs id
    | disconnectPeer env addr =>
      exact (s.disconnectPeer_writes (I := fun _ => False) env addr).banned hs id
    | setProxyRouter router => exact hs
    | _ => cases hop

/-- A permanent block that is not lifted keeps its address out. In the limiter this holds
    exactly as long as no block for a while is put on the address; in the server also the
    handshakes of the address must not run out of time, if the heuristics block for it. -/
theorem ban_holds (ip : IpAddr) (perIpLimit globalLimit : Nat) (window blockDuration : Duration)
    (start : Instant) (history ops : List RateLimiterOp)
    (hexc : ip ∉ (rateLimiterMachine.exec
      (RateLimiter.new perIpLimit globalLimit window blockDuration start : RateLimiter F)
      history).exceptions)
    (hlift : ∀ op ∈ ops, op.lifts ip = false)
    (s : TransportServer F H) (sops : List TransportOp) (hexc' : ip ∉ s.rateLimiter.exceptions)
    (hlift' : ∀ op ∈ sops, op.lifts ip = false) :
    ((∀ pre, pre <+: ops →
        (rateLimiterMachine.exec ((rateLimiterMachine.exec
          (RateLimiter.new perIpLimit globalLimit window blockDuration start : RateLimiter F)
          history).blockAddress ip).2 pre).KeepsOut ip) ↔
      ∀ op ∈ ops, op.blocksForAWhile ip = false) ∧
    ((transportMachine F H).AllSteps (fun s op => ¬s.replacesBan ip op)
        (s.step (.blockAddress ip)).1 sops →
      ∀ pre, pre <+: sops →
        ((transportMachine F H).exec (s.step (.blockAddress ip)).1 pre).rateLimiter.KeepsOut
          ip) := by
  refine ⟨RateLimiter.keepsOut_run_iff ?_ (RateLimiter.blockAddress_banned hexc) hlift, ?_⟩
  · refine RateLimiter.insertBlock_limitsPos ?_ ip _
    exact rateLimiterMachine.run_invariant (P := fun _ _ r => r.LimitsPos)
      (RateLimiter.new_limitsPos perIpLimit globalLimit window blockDuration start)
      (fun _ _ _ op hr => hr.step op) history
  · rintro hkeep pre ⟨post, rfl⟩
    have hpre := ((transportMachine F H).allSteps_append _ _ pre post).mp hkeep
    have hall := (transportMachine F H).allSteps_and hpre.1
      ((transportMachine F H).allSteps_of_mem (C := fun _ op => op.lifts ip = false)
        fun op hop _ => hlift' op (List.mem_append_left _ hop))
    refine RateLimiter.Banned.keepsOut ?_
    exact (transportMachine F H).run_invariant_of_steps
      (P := fun _ _ s => s.rateLimiter.Banned ip) (RateLimiter.blockAddress_banned hexc')
      (fun _ _ _ op hs hop => step_banned hs hop.2 hop.1) pre hall

/-- The first request of a client at this port. -/
def requestFrom (port : UInt16) : TransportOp :=
  .recvAndProcess (quietEnv 1) (encodedBytes (OfflinePacket.openConnectionRequest1
    { protocolVersion := 11
      mtu := 1400
      magic := defaultUnconnectedMagic }).encode) (.v4 ipv4Localhost port)

/-- Four first requests of one address, its ban, and a tick when the handshakes are out of
    time. -/
def bannedWhileConnecting : List TransportOp :=
  [requestFrom 50000, requestFrom 50001, requestFrom 50002, requestFrom 50003,
    .blockAddress clientAddr.ip, .tickOutbound (quietEnv 20000000000) 0 0 0 0]

/-- The handshakes that run out of time replace the ban by a block of half a minute, and so
    does a block that is asked for. -/
theorem ban_replaced :
    ((concreteTransport.exec keyedServer bannedWhileConnecting).rateLimiter.check clientAddr.ip
      50000000000).1 = .allow ∧
    ((concreteTransport.exec keyedServer [.blockAddress clientAddr.ip,
      .blockAddressFor (quietEnv 1) clientAddr.ip 1]).rateLimiter.check clientAddr.ip
      50000000000).1 = .allow := by
  decide +kernel

theorem ban_holds_later_request :
    (keyedServer.step (.blockAddress clientAddr.ip)).1.pendingHandshakes = ∅ ∧
    (∀ pre, pre <+: [requestFrom 50000, .tickOutbound (quietEnv 20000000000) 0 0 0 0] →
      (concreteTransport.exec (keyedServer.step (.blockAddress clientAddr.ip)).1
        pre).rateLimiter.KeepsOut clientAddr.ip) := by
  have h := ban_holds (F := ℚ) clientAddr.ip 1 1 0 0 0 [] [] (by decide) nofun keyedServer
    [requestFrom 50000, .tickOutbound (quietEnv 20000000000) 0 0 0 0] (by decide +kernel)
    (by decide)
  refine ⟨rfl, h.2 ?_⟩
  have hnone : ∀ s : ConcreteServer, s.pendingHandshakes.keys = [] → ∀ env,
      ¬s.timesOut env clientAddr.ip := by
    rintro s hs env ⟨-, addr, pending, hlookup, -⟩
    have hmem : addr ∈ s.pendingHandshakes.keys :=
      AList.mem_keys.mp (AList.lookup_isSome.mp (Option.isSome_of_mem hlookup))
    rw [hs] at hmem
    cases hmem
  refine ⟨hnone _ rfl _, hnone _ ?_ _, trivial⟩
  decide +kernel

end TransportServer

end Raknet
