-- SUMMARY: The session ids of the server facade: a bijection with the peers, and ids that are free when given.
import Raknet.Lib.Circular
import Raknet.Lib.Inverse
import Raknet.Lib.Machine

/-!
# Session ids

The adapter numbers peers with 32-bit ids. A new id is searched from a cursor upwards,
from the last id on to 1, for one turn.
-/

namespace Raknet

abbrev PeerId := UInt64
abbrev SessionId := UInt32

structure SessionIdAdapter where
  peerToSession : AssocMap PeerId SessionId
  sessionToPeer : AssocMap SessionId PeerId
  nextSessionId : SessionId
deriving DecidableEq

namespace SessionIdAdapter

def new : SessionIdAdapter :=
  { peerToSession := ∅
    sessionToPeer := ∅
    nextSessionId := 1 }

def sessionIdForPeer (a : SessionIdAdapter) (peerId : PeerId) : Option SessionId :=
  a.peerToSession.lookup peerId

def peerIdForSession (a : SessionIdAdapter) (sessionId : SessionId) : Option PeerId :=
  a.sessionToPeer.lookup sessionId

/-- `wrapping_add(1)`, with 1 in the place of 0. -/
def following (id : SessionId) : SessionId := if id + 1 = 0 then 1 else id + 1

/-- The loop of `allocate_session_id`, for `n` rounds. -/
def search (sessionToPeer : AssocMap SessionId PeerId) : Nat → SessionId → Option SessionId
  | 0, _ => none
  | n + 1, candidate =>
    if (sessionToPeer.lookup candidate).isNone then some candidate
    else search sessionToPeer n (following candidate)

def allocateSessionId (a : SessionIdAdapter) : Except String SessionId × SessionIdAdapter :=
  let candidate := if a.nextSessionId = 0 then 1 else a.nextSessionId
  match search a.sessionToPeer (2 ^ 32 - 1) candidate with
  | some id => (.ok id, { a with nextSessionId := following id })
  | none => (.error "session id space exhausted", a)

def registerPeer (a : SessionIdAdapter) (peerId : PeerId) :
    Except String SessionId × SessionIdAdapter :=
  match a.sessionIdForPeer peerId with
  | some existing => (.ok existing, a)
  | none =>
    match a.allocateSessionId with
    | (.ok sessionId, a) =>
      (.ok sessionId,
        { a with
          peerToSession := a.peerToSession.insert peerId sessionId
          sessionToPeer := a.sessionToPeer.insert sessionId peerId })
    | (.error e, a) => (.error e, a)

def unregisterPeer (a : SessionIdAdapter) (peerId : PeerId) :
    Option SessionId × SessionIdAdapter :=
  match a.peerToSession.lookup peerId with
  | none => (none, a)
  | some sessionId =>
    (some sessionId,
      { a with
        peerToSession := a.peerToSession.erase peerId
        sessionToPeer := a.sessionToPeer.erase sessionId })

def clear (_a : SessionIdAdapter) : SessionIdAdapter := new

/-! ## The search -/

theorem toNat_following (id : SessionId) :
    (following id).toNat = if id.toNat = 4294967295 then 1 else id.toNat + 1 := by
  have hlt := id.toNat_lt
  have hadd : (id + 1).toNat = (id.toNat + 1) % 4294967296 := UInt32.toNat_add id 1
  unfold following
  split
  · next h =>
    rw [h] at hadd
    have hzero : (0 : UInt32).toNat = 0 := rfl
    have hone : (1 : UInt32).toNat = 1 := rfl
    rw [hone, if_pos (by omega)]
  · next h =>
    have hne : (id + 1).toNat ≠ 0 := fun hz => h (UInt32.toNat_inj.mp hz)
    rw [hadd, if_neg (by omega)]
    omega

theorem following_ne_zero (id : SessionId) : following id ≠ 0 := by
  unfold following
  split
  · decide
  · assumption

/-- The rounds until the search meets an id: the way on the circle of the ids but 0. -/
def ahead (candidate id : SessionId) : Nat :=
  Circular.dist 4294967295 (candidate.toNat - 1) (id.toNat - 1)

theorem ahead_lt {candidate id : SessionId} (hcandidate : candidate ≠ 0) (hid : id ≠ 0) :
    ahead candidate id < 2 ^ 32 - 1 := by
  have hc := candidate.toNat_lt
  have hi := id.toNat_lt
  have hc0 : candidate.toNat ≠ 0 := fun h => hcandidate (UInt32.toNat_inj.mp h)
  have hi0 : id.toNat ≠ 0 := fun h => hid (UInt32.toNat_inj.mp h)
  exact Circular.dist_lt (by omega) (by omega)

theorem ahead_following {candidate id : SessionId} (hcandidate : candidate ≠ 0) (hid : id ≠ 0)
    (hne : id ≠ candidate) : ahead (following candidate) id + 1 = ahead candidate id := by
  have hc := candidate.toNat_lt
  have hi := id.toNat_lt
  have hc0 : candidate.toNat ≠ 0 := fun h => hcandidate (UInt32.toNat_inj.mp h)
  have hi0 : id.toNat ≠ 0 := fun h => hid (UInt32.toNat_inj.mp h)
  have hne' : id.toNat ≠ candidate.toNat := fun h => hne (UInt32.toNat_inj.mp h)
  unfold ahead Circular.dist
  rw [toNat_following]
  split <;> split <;> split <;> omega

theorem search_some {sessionToPeer : AssocMap SessionId PeerId} {n : Nat}
    {candidate id : SessionId} (hcandidate : candidate ≠ 0)
    (h : search sessionToPeer n candidate = some id) :
    id ≠ 0 ∧ sessionToPeer.lookup id = none := by
  induction n generalizing candidate with
  | zero => cases h
  | succ n ih =>
    unfold search at h
    split at h
    · next hfree =>
      obtain rfl := Option.some.inj h
      exact ⟨hcandidate, Option.isNone_iff_eq_none.mp hfree⟩
    · exact ih (following_ne_zero candidate) h

/-- A search that fails met every id within its rounds. -/
theorem search_none {sessionToPeer : AssocMap SessionId PeerId} {n : Nat}
    {candidate id : SessionId} (hcandidate : candidate ≠ 0) (hid : id ≠ 0)
    (h : search sessionToPeer n candidate = none) (hahead : ahead candidate id < n) :
    ∃ peer, sessionToPeer.lookup id = some peer := by
  induction n generalizing candidate with
  | zero => omega
  | succ n ih =>
    unfold search at h
    split at h
    · cases h
    · next hused =>
      by_cases hmet : id = candidate
      · subst hmet
        exact Option.ne_none_iff_exists'.mp fun hnone =>
          hused (Option.isNone_iff_eq_none.mpr hnone)
      · have hstep := ahead_following hcandidate hid hmet
        exact ih (following_ne_zero candidate) h (by omega)

theorem allocateSessionId_cases (a : SessionIdAdapter) :
    (∃ id, id ≠ 0 ∧ a.sessionToPeer.lookup id = none ∧
      a.allocateSessionId = (.ok id, { a with nextSessionId := following id })) ∨
    ((∀ id, id ≠ 0 → ∃ peer, a.sessionToPeer.lookup id = some peer) ∧
      a.allocateSessionId = (.error "session id space exhausted", a)) := by
  unfold allocateSessionId
  have hcandidate : (if a.nextSessionId = 0 then 1 else a.nextSessionId) ≠ 0 := by
    split
    · decide
    · assumption
  dsimp only
  generalize (if a.nextSessionId = 0 then 1 else a.nextSessionId) = candidate at hcandidate ⊢
  split
  · next id hsearch =>
    obtain ⟨hid, hfree⟩ := search_some hcandidate hsearch
    exact .inl ⟨id, hid, hfree, rfl⟩
  · next hsearch =>
    exact .inr ⟨fun id hid => search_none hcandidate hid hsearch (ahead_lt hcandidate hid), rfl⟩

/-! ## Runs -/

/-- The maps are inverse to each other. -/
def Bijective (a : SessionIdAdapter) : Prop :=
  AssocMap.Inverse (fun id => id) a.peerToSession a.sessionToPeer

theorem Bijective.iff {a : SessionIdAdapter} (h : a.Bijective) (peer : PeerId) (id : SessionId) :
    a.sessionIdForPeer peer = some id ↔ a.peerIdForSession id = some peer := by
  have hinverse := h peer id
  rwa [Option.map_id'] at hinverse

theorem new_bijective : new.Bijective := AssocMap.Inverse.empty _

/-- What `register_peer` does for a new peer. -/
theorem registerPeer_new {a : SessionIdAdapter} {peer : PeerId}
    (hnew : a.sessionIdForPeer peer = none) :
    (∃ id, id ≠ 0 ∧ a.peerIdForSession id = none ∧ a.registerPeer peer =
      (.ok id,
        { peerToSession := a.peerToSession.insert peer id
          sessionToPeer := a.sessionToPeer.insert id peer
          nextSessionId := following id })) ∨
    ((∀ id, id ≠ 0 → ∃ other, a.peerIdForSession id = some other) ∧
      a.registerPeer peer = (.error "session id space exhausted", a)) := by
  unfold registerPeer
  rw [hnew]
  rcases a.allocateSessionId_cases with ⟨id, hid, hfree, heq⟩ | ⟨hused, heq⟩
  · rw [heq]
    exact .inl ⟨id, hid, hfree, rfl⟩
  · rw [heq]
    exact .inr ⟨hused, rfl⟩

theorem registerPeer_existing {a : SessionIdAdapter} {peer : PeerId} {id : SessionId}
    (h : a.sessionIdForPeer peer = some id) : a.registerPeer peer = (.ok id, a) := by
  rw [registerPeer, h]

theorem Bijective.registerPeer {a : SessionIdAdapter} (h : a.Bijective) (peer : PeerId) :
    (a.registerPeer peer).2.Bijective := by
  cases hknown : a.sessionIdForPeer peer with
  | some id =>
    rw [registerPeer_existing hknown]
    exact h
  | none =>
    rcases registerPeer_new hknown with ⟨id, hid, hfree, heq⟩ | ⟨-, heq⟩
    · rw [heq]
      exact AssocMap.Inverse.insert h hknown hfree
    · rw [heq]
      exact h

theorem Bijective.unregisterPeer {a : SessionIdAdapter} (h : a.Bijective) (peer : PeerId) :
    (a.unregisterPeer peer).2.Bijective := by
  unfold SessionIdAdapter.unregisterPeer
  split
  · exact h
  · next id hknown => exact AssocMap.Inverse.erase h hknown

inductive SessionIdCall where
  | registerPeer (peerId : PeerId)
  | unregisterPeer (peerId : PeerId)
  | clear
deriving DecidableEq, Repr

/-- The id that a call returns, if it returns one. -/
def step (a : SessionIdAdapter) : SessionIdCall → SessionIdAdapter × Option SessionId
  | .registerPeer peerId =>
    match a.registerPeer peerId with
    | (.ok id, a) => (a, some id)
    | (.error _, a) => (a, none)
  | .unregisterPeer peerId =>
    let (id, a) := a.unregisterPeer peerId
    (a, id)
  | .clear => (a.clear, none)

def sessionIdMachine : Machine SessionIdAdapter SessionIdCall (Option SessionId) := ⟨step⟩

theorem Bijective.step {a : SessionIdAdapter} (h : a.Bijective) (call : SessionIdCall) :
    (a.step call).1.Bijective := by
  cases call with
  | registerPeer peer =>
    have hnext := h.registerPeer peer
    simp only [SessionIdAdapter.step]
    generalize a.registerPeer peer = r at hnext ⊢
    obtain ⟨result, a'⟩ := r
    cases result <;> exact hnext
  | unregisterPeer peer => exact h.unregisterPeer peer
  | clear => exact new_bijective

theorem exec_bijective (calls : List SessionIdCall) :
    (sessionIdMachine.exec new calls).Bijective :=
  sessionIdMachine.run_invariant (P := fun _ _ a => a.Bijective) new_bijective
    (fun _ _ _ call h => h.step call) calls

/-- After any calls the two maps are inverse to each other. A registered peer gets the id it
    has; a new one gets an id from 1 on that no peer has and has it afterwards, or, if each
    of these ids is in use, an error that changes nothing. -/
theorem session_ids_bijective (calls : List SessionIdCall) :
    let a := sessionIdMachine.exec new calls
    (∀ peer id, a.sessionIdForPeer peer = some id ↔ a.peerIdForSession id = some peer) ∧
    ∀ peer,
      (∀ id, a.sessionIdForPeer peer = some id → a.registerPeer peer = (.ok id, a)) ∧
      (a.sessionIdForPeer peer = none →
        (∃ id, 1 ≤ id ∧ (∀ other, a.sessionIdForPeer other ≠ some id) ∧
          (a.registerPeer peer).1 = .ok id ∧
          (a.registerPeer peer).2.sessionIdForPeer peer = some id) ∨
        ((∀ id, 1 ≤ id → ∃ other, a.sessionIdForPeer other = some id) ∧
          a.registerPeer peer = (.error "session id space exhausted", a))) := by
  intro a
  have h : a.Bijective := exec_bijective calls
  refine ⟨h.iff, fun peer => ⟨fun id => registerPeer_existing, fun hnew => ?_⟩⟩
  rcases registerPeer_new hnew with ⟨id, hid, hfree, heq⟩ | ⟨hused, heq⟩
  · refine .inl ⟨id, ?_, fun other hother => ?_, ?_, ?_⟩
    · rw [UInt32.le_iff_toNat_le]
      exact Nat.pos_of_ne_zero fun hzero => hid (UInt32.toNat_inj.mp hzero)
    · rw [(h.iff other id).mp hother] at hfree
      cases hfree
    · rw [heq]
    · rw [heq, sessionIdForPeer, AssocMap.lookup_insert_eq, if_pos rfl]
  · refine .inr ⟨fun id hid => ?_, heq⟩
    obtain ⟨other, hother⟩ := hused id fun hzero => by
      subst hzero
      exact absurd hid (by decide)
    exact ⟨other, (h.iff other id).mpr hother⟩

end SessionIdAdapter

end Raknet
