-- SUMMARY: What the server holds for an address, and what upkeep does to it.
import Raknet.Transport.Upkeep

/-!
# Peers

A peer is what the server holds for an address: the state of its session and its
pending handshake. Upkeep leaves a peer alone or removes it (`Keeps`). The two
handlers do more to the address of the packet they handle.
-/

namespace Raknet

variable {F H : Type}

namespace TransportServer

/-- What two maps hold for an address. -/
def peerOf (sessions : AssocMap SocketAddr (Session F H))
    (pending : AssocMap SocketAddr PendingHandshake) (a : SocketAddr) :
    Option SessionState × Option PendingHandshake :=
  ((sessions.lookup a).map Session.state, pending.lookup a)

/-- What the server holds for an address. -/
def peer (s : TransportServer F H) (a : SocketAddr) :
    Option SessionState × Option PendingHandshake :=
  peerOf s.sessions s.pendingHandshakes a

section PeerOf

variable (sessions : AssocMap SocketAddr (Session F H))
  (pending : AssocMap SocketAddr PendingHandshake)

theorem peerOf_insert_session (b a : SocketAddr) (session : Session F H) :
    peerOf (sessions.insert b session) pending a
      = if a = b then (some session.state, pending.lookup a) else peerOf sessions pending a := by
  unfold peerOf
  rw [AssocMap.lookup_insert_eq]
  split <;> rfl

theorem peerOf_insert_pending (b a : SocketAddr) (p : PendingHandshake) :
    peerOf sessions (pending.insert b p) a
      = if a = b then ((peerOf sessions pending a).1, some p) else peerOf sessions pending a := by
  unfold peerOf
  rw [AssocMap.lookup_insert_eq]
  split <;> rfl

theorem peerOf_erase_pending (b a : SocketAddr) :
    peerOf sessions (pending.erase b) a
      = if a = b then ((peerOf sessions pending a).1, none) else peerOf sessions pending a := by
  unfold peerOf
  rw [AssocMap.lookup_erase_eq]
  split <;> rfl

theorem peerOf_erase (b a : SocketAddr) :
    peerOf (sessions.erase b) (pending.erase b) a
      = if a = b then (none, none) else peerOf sessions pending a := by
  unfold peerOf
  rw [AssocMap.lookup_erase_eq, AssocMap.lookup_erase_eq]
  split <;> rfl

theorem peerOf_open (b a : SocketAddr) (session : Session F H) (p : PendingHandshake) :
    peerOf ((sessions.erase b).insert b session) (pending.insert b p) a
      = if a = b then (some session.state, some p) else peerOf sessions pending a := by
  unfold peerOf
  simp only [AssocMap.lookup_insert_eq, AssocMap.lookup_erase_eq]
  split <;> rfl

end PeerOf

/-- Each address of the list has lost its peer, the others have kept theirs. -/
structure Closes (s s' : TransportServer F H) (addrs : List SocketAddr) : Prop where
  config : s'.config = s.config
  peer : ∀ a, s'.peer a = if a ∈ addrs then (none, none) else s.peer a

/-- Each address has kept its peer or lost it. -/
structure Keeps (s s' : TransportServer F H) : Prop where
  config : s'.config = s.config
  peer : ∀ a, s'.peer a = s.peer a ∨ s'.peer a = (none, none)

variable {s s' s'' : TransportServer F H}

theorem SameTables.peer (h : SameTables s s') (a : SocketAddr) : s'.peer a = s.peer a := by
  rw [TransportServer.peer, h.sessions, h.pending]
  rfl

theorem SameTables.closes (h : SameTables s s') : Closes s s' [] :=
  ⟨h.config, fun a => (h.peer a).trans (if_neg List.not_mem_nil).symm⟩

theorem ClosesOne.closes {addr : SocketAddr} (h : ClosesOne s s' addr) : Closes s s' [addr] := by
  refine ⟨h.config, fun a => ?_⟩
  rw [TransportServer.peer, h.sessions, h.pending, peerOf_erase]
  simp only [List.mem_singleton]
  rfl

namespace Closes

theorem trans {l l' : List SocketAddr} (h : Closes s s' l) (h' : Closes s' s'' l') :
    Closes s s'' (l ++ l') where
  config := h'.config.trans h.config
  peer := by
    intro a
    rw [h'.peer, h.peer]
    by_cases hl : a ∈ l <;> by_cases hl' : a ∈ l' <;> simp [hl, hl']

theorem keeps {l : List SocketAddr} (h : Closes s s' l) : Keeps s s' where
  config := h.config
  peer := by
    intro a
    rw [h.peer]
    split
    · exact .inr rfl
    · exact .inl rfl

/-- A loop that closes one address each round. -/
theorem foldl {β : Type} {f : TransportServer F H → β → TransportServer F H} {g : β → SocketAddr}
    (h : ∀ s x, Closes s (f s x) [g x]) (xs : List β) (s : TransportServer F H) :
    Closes s (xs.foldl f s) (xs.map g) := by
  induction xs generalizing s with
  | nil => exact (Aside.refl s).closes
  | cons x xs ih => exact (h s x).trans (ih (f s x))

end Closes

theorem mem_expiredHandshakes {s : TransportServer F H} {env : Env} {a : SocketAddr} :
    a ∈ (s.expiredHandshakes env).map Prod.fst ↔
      ∃ pending, s.pendingHandshakes.lookup a = some pending ∧ pending.expiresAt ≤ env.now := by
  unfold expiredHandshakes
  simp only [List.mem_map, List.mem_filterMap]
  constructor
  · rintro ⟨⟨b, pending⟩, ⟨b', -, hb'⟩, rfl⟩
    split at hb'
    · next pending' hlookup =>
      split at hb'
      · next hexpired =>
        obtain ⟨rfl, rfl⟩ := Prod.mk.inj (Option.some.inj hb')
        exact ⟨pending', hlookup, hexpired⟩
      · cases hb'
    · cases hb'
  · rintro ⟨pending, hlookup, hexpired⟩
    have hkey : a ∈ s.pendingHandshakes.keys :=
      AList.mem_keys.mp (AList.lookup_isSome.mp (by rw [hlookup]; rfl))
    refine ⟨(a, pending), ⟨a, (env.order.perm _).mem_iff.mpr hkey, ?_⟩, rfl⟩
    rw [hlookup]
    exact if_pos hexpired

/-- Pruning removes the peers whose handshake is out of time, and no others. -/
theorem prunePendingHandshakes_closes (s : TransportServer F H) (env : Env) :
    Closes s (s.prunePendingHandshakes env) ((s.expiredHandshakes env).map Prod.fst) := by
  have h := (Closes.foldl (fun s expired => (expireHandshake_closesOne env s expired).closes)
    (s.expiredHandshakes env) s).trans (pruneHandshakeHeuristicStates_aside _ env.now).closes
  rwa [List.append_nil] at h

/-! ## Upkeep -/

theorem Keeps.trans (h : Keeps s s') (h' : Keeps s' s'') : Keeps s s'' where
  config := h'.config.trans h.config
  peer := by
    intro a
    rcases h'.peer a with heq | hnone
    · rw [heq]
      exact h.peer a
    · exact .inr hnone

/-- A session that is stored again in the same state. -/
theorem insert_session_keeps {addr : SocketAddr} {session session' : Session F H}
    (hlookup : s.sessions.lookup addr = some session) (hstate : session'.state = session.state) :
    Keeps s { s with sessions := s.sessions.insert addr session' } := by
  refine ⟨rfl, fun a => .inl ?_⟩
  rw [peer, peerOf_insert_session]
  split
  · next ha =>
    subst ha
    rw [peer, peerOf, hlookup, hstate]
    rfl
  · rfl

theorem Upkeep.keeps [F64 F] [MinHeap H QueuedFrame QueuedFrame.weight] (h : Upkeep s s') :
    Keeps s s' := by
  induction h with
  | refl => exact (Aside.refl s).closes.keeps
  | same _ hsame ih => exact ih.trans hsame.closes.keeps
  | close _ hclose ih => exact ih.trans hclose.closes.keeps
  | serve _ hlookup hserves ih => exact ih.trans (insert_session_keeps hlookup hserves.state)

end TransportServer

end Raknet
