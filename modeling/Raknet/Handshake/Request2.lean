-- SUMMARY: Which layout of a second request the decoder takes, and where its guess for old clients goes wrong.
import Raknet.Handshake.RoundTrip

/-!
# The layouts of a second request

The body of a second request has a layout with a cookie and one without, and nothing
in it says which. The lengths do: no body has both (`layouts`). For a body that has
neither, because its proof byte is not a boolean, the decoder looks at the first byte.
In the layout with a cookie this is a byte of the cookie, and it may look like the
version of an address.
-/

namespace Raknet

open Decoder

/-- The choice of `decode_request_2` behind the magic value. -/
def chooseRequest2 (magic : Magic) (body : Bytes) : Decoder DecodeError OpenConnectionRequest2 := do
  let strictNoCookie ← tryOn (parseRequest2Candidate false true) body
  let strictWithCookie ← tryOn (parseRequest2Candidate true true) body
  match strictNoCookie, strictWithCookie with
  | .ok candidate, .error _ => pure (candidate.intoRequest magic .strictNoCookie)
  | .error _, .ok candidate => pure (candidate.intoRequest magic .strictWithCookie)
  | .ok noCookie, .ok withCookie =>
    if startsWithVersion body then
      pure (noCookie.intoRequest magic .ambiguousPreferredNoCookie)
    else
      pure (withCookie.intoRequest magic .ambiguousPreferredWithCookie)
  | .error _, .error _ => do
    let legacy ← tryOn (parseRequest2Legacy body) body
    let candidate ← lift legacy
    pure (candidate.intoRequest magic .legacyHeuristic)

theorem decodeRequest2_run {expectedMagic magic : Magic} {src body : Bytes}
    (h : (decodeExpectedMagic expectedMagic).run src = .ok (magic, body)) :
    (decodeRequest2 expectedMagic).run src = (chooseRequest2 magic body).run [] := by
  have hremaining : (remaining : Decoder DecodeError Nat).run body = .ok (body.length, body) := rfl
  rw [decodeRequest2, run_bind_ok h, run_bind_ok hremaining, run_bind_ok (copyToBytes_run_all body)]
  rfl

theorem decodeExpectedMagic_reads (magic : Magic) :
    (decodeExpectedMagic magic).Reads (encodeMagic magic) magic :=
  (decodeMagic_reads magic).bind_end (Reads.lift (if_neg (not_not.mpr rfl)))

/-- The body reads as the candidate in the layout, or is refused there. -/
def Reading (withCookie : Bool) (body : Bytes) (r : Except DecodeError Request2Candidate) : Prop :=
  (tryOn (parseRequest2Candidate withCookie true) body).run [] = .ok (r, [])

theorem Reading.ok_iff {withCookie : Bool} {body : Bytes} {c : Request2Candidate} :
    Reading withCookie body (.ok c) ↔
      ∃ rest, (parseRequest2Candidate withCookie true).run body = .ok (c, rest) := by
  simp only [Reading, tryOn]
  generalize (parseRequest2Candidate withCookie true).run body = r
  rcases r with (e | - | -) | ⟨c', rest⟩
  all_goals simp

/-- A body has at most one of the layouts. -/
theorem layouts (body : Bytes) :
    (∃ c e, Reading false body (.ok c) ∧ Reading true body (.error e)) ∨
    (∃ c e, Reading false body (.error e) ∧ Reading true body (.ok c)) ∨
    ∃ e e', Reading false body (.error e) ∧ Reading true body (.error e') := by
  have hwithout := tryOn_run (parseRequest2Candidate_outcome false true body) []
  have hwith := tryOn_run (parseRequest2Candidate_outcome true true body) []
  rcases hwithout with ⟨c, _, hlength, hwithout⟩ | ⟨e, hwithout⟩
  · rcases hwith with ⟨_, _, hlength', -⟩ | ⟨e', hwith⟩
    · -- 17 or 39 bytes against 22 or 44
      simp only [AcceptedLength, Bool.false_eq_true, if_false, if_true] at hlength hlength'
      omega
    · exact .inl ⟨c, e', hwithout, hwith⟩
  · rcases hwith with ⟨c, _, -, hwith⟩ | ⟨e', hwith⟩
    · exact .inr (.inl ⟨c, e, hwithout, hwith⟩)
    · exact .inr (.inr ⟨e, e', hwithout, hwith⟩)

section Choice

variable {magic : Magic} {body : Bytes} {c : Request2Candidate} {e e' : DecodeError}

theorem chooseRequest2_noCookie (h : Reading false body (.ok c)) (h' : Reading true body (.error e)) :
    (chooseRequest2 magic body).run [] = .ok (c.intoRequest magic .strictNoCookie, []) := by
  rw [chooseRequest2, run_bind_ok h, run_bind_ok h']
  rfl

theorem chooseRequest2_withCookie (h : Reading false body (.error e))
    (h' : Reading true body (.ok c)) :
    (chooseRequest2 magic body).run [] = .ok (c.intoRequest magic .strictWithCookie, []) := by
  rw [chooseRequest2, run_bind_ok h, run_bind_ok h']
  rfl

/-- A body with neither layout is read by the guess. -/
theorem chooseRequest2_legacy (h : Reading false body (.error e))
    (h' : Reading true body (.error e')) :
    (chooseRequest2 magic body).run [] =
      match (parseRequest2Legacy body).run body with
      | .ok (c, _) => .ok (c.intoRequest magic .legacyHeuristic, [])
      | .error fault => .error fault := by
  rw [chooseRequest2, run_bind_ok h, run_bind_ok h']
  dsimp only
  cases hlegacy : (parseRequest2Legacy body).run body with
  | ok r =>
    have htry : (tryOn (parseRequest2Legacy body) body).run [] = .ok (.ok r.1, []) := by
      simp only [tryOn, hlegacy]
    rw [run_bind_ok htry]
    rfl
  | error fault =>
    cases fault with
    | error e =>
      have htry : (tryOn (parseRequest2Legacy body) body).run [] = .ok (.error e, []) := by
        simp only [tryOn, hlegacy]
      rw [run_bind_ok htry]
      rfl
    | pastEnd | unfinished =>
      refine run_bind_error ?_
      simp only [tryOn, hlegacy]

/-- Without the cookie there is none in the result. -/
theorem parseRequest2Candidate_cookie {strictBool : Bool} {rest : Bytes}
    (h : (parseRequest2Candidate false strictBool).run body = .ok (c, rest)) : c.cookie = none := by
  have hcookie : (parseCookie false strictBool).run body = .ok ((none, false), body) := rfl
  rw [parseRequest2Candidate, run_bind_ok hcookie] at h
  dsimp only at h
  cases haddr : decodeSocketAddr.run body with
  | error fault =>
    rw [run_bind_error haddr] at h
    cases h
  | ok r =>
    rw [run_bind_ok haddr] at h
    cases hmtu : decodeU16.run r.2 with
    | error fault =>
      rw [run_bind_error hmtu] at h
      cases h
    | ok r =>
      rw [run_bind_ok hmtu] at h
      cases hguid : decodeU64.run r.2 with
      | error fault =>
        rw [run_bind_error hguid] at h
        cases h
      | ok r =>
        have hremaining : (remaining : Decoder DecodeError Nat).run r.2 = .ok (r.2.length, r.2) :=
          rfl
        rw [run_bind_ok hguid, run_bind_ok hremaining] at h
        by_cases hleft : r.2.length ≠ 0
        · have hfailed : (failIf (r.2.length ≠ 0) DecodeError.invalidRequest2Layout).run r.2
              = .error (.error .invalidRequest2Layout) := by
            rw [failIf, if_pos hleft]
            rfl
          rw [run_bind_error hfailed] at h
          cases h
        · rw [run_bind_ok (run_failIf_of_not hleft _ r.2)] at h
          cases h
          rfl

end Choice

/-- No body is read in both layouts. The decoder never takes an ambiguous path, and what can
    be read without a cookie is read without one. -/
theorem request2_unambiguous (expectedMagic : Magic) (body : Bytes) :
    ¬((∃ r, (parseRequest2Candidate false true).run body = .ok r) ∧
        ∃ r, (parseRequest2Candidate true true).run body = .ok r) ∧
    (∀ src pkt rest, (decodeRequest2 expectedMagic).run src = .ok (pkt, rest) →
      pkt.parsePath ≠ .ambiguousPreferredNoCookie ∧
      pkt.parsePath ≠ .ambiguousPreferredWithCookie) ∧
    ((∃ r, (parseRequest2Candidate false true).run body = .ok r) →
      ∃ pkt, (decodeRequest2 expectedMagic).run (encodeMagic expectedMagic ++ body) = .ok (pkt, []) ∧
        pkt.cookie = none) := by
  refine ⟨?_, ?_, ?_⟩
  · rintro ⟨⟨⟨c, rest⟩, hwithout⟩, ⟨c', rest'⟩, hwith⟩
    have hok : Reading false body (.ok c) := Reading.ok_iff.mpr ⟨rest, hwithout⟩
    have hok' : Reading true body (.ok c') := Reading.ok_iff.mpr ⟨rest', hwith⟩
    rcases layouts body with ⟨_, _, -, h⟩ | ⟨_, _, h, -⟩ | ⟨_, _, h, -⟩
    · cases hok'.symm.trans h
    · cases hok.symm.trans h
    · cases hok.symm.trans h
  · intro src pkt rest hrun
    cases hmagic : (decodeExpectedMagic expectedMagic).run src with
    | error fault =>
      rw [decodeRequest2, run_bind_error hmagic] at hrun
      cases hrun
    | ok r =>
      obtain ⟨magic, body⟩ := r
      rw [decodeRequest2_run hmagic] at hrun
      rcases layouts body with ⟨c, e, h, h'⟩ | ⟨c, e, h, h'⟩ | ⟨e, e', h, h'⟩
      · rw [chooseRequest2_noCookie h h'] at hrun
        cases hrun
        exact ⟨nofun, nofun⟩
      · rw [chooseRequest2_withCookie h h'] at hrun
        cases hrun
        exact ⟨nofun, nofun⟩
      · rw [chooseRequest2_legacy h h'] at hrun
        split at hrun
        · cases hrun
          exact ⟨nofun, nofun⟩
        · cases hrun
  · rintro ⟨⟨c, rest⟩, hwithout⟩
    have hok : Reading false body (.ok c) := Reading.ok_iff.mpr ⟨rest, hwithout⟩
    refine ⟨c.intoRequest expectedMagic .strictNoCookie, ?_, parseRequest2Candidate_cookie hwithout⟩
    rw [decodeRequest2_run (decodeExpectedMagic_reads expectedMagic body)]
    rcases layouts body with ⟨_, _, -, h⟩ | ⟨_, _, h, -⟩ | ⟨_, _, h, -⟩
    · exact chooseRequest2_noCookie hok h
    · cases hok.symm.trans h
    · cases hok.symm.trans h

/-! ## Old clients -/

/-- The fields of a second request in the layout with a cookie, with any proof byte. -/
structure LegacyRequest2 where
  cookie : UInt32
  proof : UInt8
  serverAddr : SocketAddr
  mtu : UInt16
  clientGuid : UInt64

namespace LegacyRequest2

def body (r : LegacyRequest2) : Bytes :=
  encodeU32 r.cookie ++ ([r.proof] ++ (encodeSocketAddr r.serverAddr
    ++ (encodeU16 r.mtu ++ encodeU64 r.clientGuid)))

/-- What the body should be read as. -/
def request (r : LegacyRequest2) (magic : Magic) : OpenConnectionRequest2 :=
  { serverAddr := r.serverAddr
    mtu := r.mtu
    clientGuid := r.clientGuid
    cookie := some r.cookie
    clientProof := false
    parsePath := .legacyHeuristic
    magic }

/-- The first byte of the cookie is the version of an address. -/
def looksLikeAddress (r : LegacyRequest2) : Bool :=
  r.cookie.toNat / 16777216 = 4 || r.cookie.toNat / 16777216 = 6

variable (r : LegacyRequest2)

theorem body_length : AcceptedLength true r.body.length := by
  have haddr := length_encodeSocketAddr r.serverAddr
  rw [AcceptedLength, body]
  simp [encodeU16, encodeU32, encodeU64]
  omega

theorem startsWithVersion_body : startsWithVersion r.body = r.looksLikeAddress := by
  have hfirst : r.body.head? = some (UInt8.ofNat (r.cookie.toNat / 16777216)) := rfl
  have hlt : r.cookie.toNat / 16777216 < 256 := by
    have := r.cookie.toNat_lt
    omega
  rw [startsWithVersion, hfirst]
  have hversion (version : UInt8) : (UInt8.ofNat (r.cookie.toNat / 16777216) == version)
      = decide (r.cookie.toNat / 16777216 = version.toNat) := by
    rw [Bool.eq_iff_iff, beq_iff_eq, decide_eq_true_iff, ← UInt8.toNat_inj,
      UInt8.toNat_ofNat', Nat.mod_eq_of_lt hlt]
  dsimp only
  rw [hversion, hversion, looksLikeAddress]
  rfl

/-- The layout without a cookie refuses the body. -/
theorem without_fails (strictBool : Bool) :
    ∃ e, (parseRequest2Candidate false strictBool).run r.body = .error (.error e) := by
  have houtcome := parseRequest2Candidate_outcome false strictBool r.body
  have hlength := r.body_length
  generalize (parseRequest2Candidate false strictBool).run r.body = x at houtcome
  match x, houtcome with
  | .ok (c, rest), ⟨_, _, hother⟩ =>
    simp only [AcceptedLength, Bool.false_eq_true, if_false, if_true] at hlength hother
    omega
  | .error (.error e), _ => exact ⟨e, rfl⟩

/-- The layout with a cookie reads the body, if it does not look at the proof byte. -/
theorem with_reads (hproof : 2 ≤ r.proof) :
    (parseRequest2Candidate true false).run r.body =
      .ok (⟨r.serverAddr, r.mtu, r.clientGuid, some r.cookie, false⟩, []) := by
  have hcookie : (parseCookie true false).Reads (encodeU32 r.cookie ++ [r.proof])
      (some r.cookie, false) := by
    have hword : (getInt 4 UInt32.ofNat).Reads (encodeU32 r.cookie) r.cookie :=
      getInt_reads r.cookie.toNat_lt UInt32.ofNat_toNat
    have hne : (r.proof == 1) = false := by
      refine beq_eq_false_iff_ne.mpr fun hone => ?_
      rw [hone] at hproof
      exact absurd hproof (by decide)
    refine Reads.require (by simp [encodeU32]) (hword.bind ?_)
    refine (Reads.getU8 r.proof).bind_end ((Reads.failIf (by simp) _).bind_nil ?_)
    rw [hne]
    exact Reads.pure _
  rw [body, ← List.append_assoc, parseRequest2Candidate, run_bind_ok (hcookie _)]
  dsimp only
  rw [run_bind_ok (decodeSocketAddr_reads r.serverAddr _), run_bind_ok (decodeU16_reads r.mtu _),
    run_bind_ok (decodeU64_reads r.clientGuid).run_all]
  rfl

/-- The strict layout with a cookie refuses the proof byte. -/
theorem strict_fails (hproof : 2 ≤ r.proof) :
    (parseRequest2Candidate true true).run r.body = .error (.error .invalidRequest2Layout) := by
  have hword : (getInt 4 UInt32.ofNat).Reads (encodeU32 r.cookie) r.cookie :=
    getInt_reads r.cookie.toNat_lt UInt32.ofNat_toNat
  have hlength : ¬r.body.length < 5 := by
    have haccepted := r.body_length
    simp only [AcceptedLength, if_true] at haccepted
    omega
  have hlong : (require 5 DecodeError.unexpectedEof).run r.body = .ok ((), r.body) := by
    simp only [require, if_neg hlength]
  have hfailed : ∀ rest, (failIf (true = true ∧ r.proof > 1)
      DecodeError.invalidRequest2Layout).run rest = .error (.error .invalidRequest2Layout) := by
    intro rest
    have hlarge : (1 : UInt8) < r.proof := by
      rw [UInt8.lt_iff_toNat_lt]
      exact UInt8.le_iff_toNat_le.mp hproof
    rw [failIf, if_pos ⟨rfl, hlarge⟩]
    rfl
  rw [parseRequest2Candidate]
  refine run_bind_error ?_
  rw [parseCookie, if_pos rfl, run_bind_ok hlong, body, run_bind_ok (hword _),
    run_bind_ok (Reads.getU8 r.proof _), run_bind_error (hfailed _)]

/-- An old client's request is read back exactly if the first byte of the cookie is not the
    version of an address. -/
theorem legacy_read_iff (magic : Magic) (hproof : 2 ≤ r.proof) :
    (decodeRequest2 magic).run (encodeMagic magic ++ r.body) = .ok (r.request magic, []) ↔
      r.looksLikeAddress = false := by
  obtain ⟨e, hwithout⟩ := r.without_fails true
  have hstrict := r.strict_fails hproof
  have hno : Reading false r.body (.error e) := by simp only [Reading, tryOn, hwithout]
  have hwith : Reading true r.body (.error .invalidRequest2Layout) := by
    simp only [Reading, tryOn, hstrict]
  rw [decodeRequest2_run (decodeExpectedMagic_reads magic r.body), chooseRequest2_legacy hno hwith,
    parseRequest2Legacy, startsWithVersion_body]
  have hnonempty : r.body.isEmpty = false := rfl
  rw [hnonempty]
  cases hlooks : r.looksLikeAddress with
  | false =>
    simp only [Bool.not_false, Bool.and_self, with_reads r hproof]
    exact iff_of_true rfl trivial
  | true =>
    obtain ⟨e, hlegacy⟩ := r.without_fails false
    simp only [Bool.not_false, Bool.not_true, Bool.and_false, hlegacy]
    exact iff_of_false (fun h => by cases h) (fun h => by cases h)

/-- A request of an old client to port 19132 of this host. -/
def withCookie (cookie : UInt32) : LegacyRequest2 :=
  { cookie
    proof := 2
    serverAddr := .v4 ipv4Localhost 19132
    mtu := 1400
    clientGuid := 0xABCDEF0123456789 }

/-- A cookie that starts with the byte 4 makes the request fail. -/
theorem legacy_cookie_refused :
    ((decodeRequest2 defaultUnconnectedMagic).run
      (encodeMagic defaultUnconnectedMagic ++ (withCookie 0x04BBCCDD).body)).isOk = false := by
  decide +kernel

theorem legacy_read_iff_cookie :
    (decodeRequest2 defaultUnconnectedMagic).run
      (encodeMagic defaultUnconnectedMagic ++ (withCookie 0xAABBCCDD).body)
        = .ok ((withCookie 0xAABBCCDD).request defaultUnconnectedMagic, []) :=
  ((withCookie 0xAABBCCDD).legacy_read_iff defaultUnconnectedMagic (by decide)).mpr (by decide)

end LegacyRequest2

end Raknet
