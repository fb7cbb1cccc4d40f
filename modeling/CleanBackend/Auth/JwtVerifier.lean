import CleanBackend.Auth.JwksClient

/-!
# Verifying an access token

`JwtVerifier.verify` reads the header of the token, asks the JWKS client for the key and decodes the token with it.
Of PyJWT three functions are used; they are the fields of `PyJwt`.  `_refresh` catches the errors of `httpx` and
nothing else, and nothing catches the error of `PyJWK`, so that a verification ends in a `VerifiedToken` or in a
`TokenVerificationError` exactly when the bodies it is answered with are key sets and the key it finds builds
(`verify_fails_as_401_iff`).  The `get_key` in it is one call of `jwksMachine`, run to its end (`getKey_run`).  The
key cache is replaced as a whole by a body that was parsed to its end, or left alone, also by calls that interleave
(`jwksMachine_cache`).
-/

namespace CleanBackend

/-! ### The endpoint -/

/-- What a request to the JWKS endpoint comes to; the body is what `response.json()` returns, and `none` where it
raises: for what is no JSON, for JSON that is nested too deeply, and for an integer that is too long. -/
inductive JwksResponse where
  | transportError (errorType : String)
  | answer (status : Nat) (body : Option Json)

def isSuccessStatus (status : Nat) : Bool := 200 ≤ status && status < 300

/-- `get`, `raise_for_status` and `json` -/
def JwksResponse.outcome : JwksResponse → FetchOutcome
  | transportError errorType => .httpError errorType
  | answer status body =>
    if ¬ isSuccessStatus status then .httpError "HTTPStatusError"
    else
      match body with
      | none => .jsonRaises
      | some payload => .payload payload

/-- One call of `get_key` from beginning to end: its readings of the clock, and the responses to the fetch for a stale
cache and to the fetch for an unknown `kid`, where it makes them. -/
structure JwksExchange where
  staleNow : ℚ
  first : JwksResponse
  firstNow : ℚ
  unknownNow : ℚ
  second : JwksResponse
  secondNow : ℚ

namespace JwksClient

variable (c : JwksClient) (kid : String) (io : JwksExchange)

/-- `key = self._keys.get(kid)` and the check that follows. -/
def served : Except JwksError Json :=
  match c.keys.get kid with
  | some key => .ok key
  | none => .error (.unknownKey kid)

/-- `get_key` from the second check on. -/
def getKnownKey : Except JwksError Json × JwksClient :=
  if c.refetches kid io.unknownNow then
    match c.refreshed io.secondNow io.second.outcome with
    | .error e => (.error e, c)
    | .ok c' => (c'.served kid, c')
  else (c.served kid, c)

/-- A call of `get_key` that meets no other call. -/
def getKey : Except JwksError Json × JwksClient :=
  if c.isStale io.staleNow then
    match c.refreshed io.firstNow io.first.outcome with
    | .error e => (.error e, c)
    | .ok c' => c'.getKnownKey kid io
  else c.getKnownKey kid io

end JwksClient

/-! ### The verifier -/

/-- The functions of PyJWT; the errors of the first and the last are the names of classes under `InvalidTokenError`,
and `none` is a `PyJWKError`. -/
structure PyJwt (Key : Type) where
  getUnverifiedHeader : String → Except String (PyDict String Json)
  pyJwk : Json → Option Key
  decode : (token : String) → Key → (algorithms : List String) → (issuer audience : String) →
    (require : List String) → Except String (PyDict String Json)

/-- A decoded token has the claims that were required. -/
def PyJwt.Requires {Key : Type} (jwt : PyJwt Key) : Prop :=
  ∀ token key algorithms issuer audience require claims,
    jwt.decode token key algorithms issuer audience require = .ok claims →
    ∀ name ∈ require, ∃ value, claims.get name = some value

structure VerifiedToken where
  sub : Json
  email : Option String
  claims : PyDict String Json

/-- What leaves `verify` as an exception. -/
inductive VerifyError where
  | tokenVerification (message : String) (details : PyDict String String)
  /-- the exception of `response.json()`, or of reading the payload -/
  | malformedPayload
  | pyJwkError
  /-- `claims["sub"]` -/
  | keyError

def VerifyError.ofJwks : JwksError → VerifyError
  | .fetchFailed errorType => .tokenVerification "JWKS fetch failed" [("error_type", errorType)]
  | .unknownKey kid => .tokenVerification "Unknown signing key" [("kid", kid)]
  | .malformedPayload => .malformedPayload

def allowedAlgorithms : List String := ["RS256", "ES256"]

/-- `algorithm not in _ALLOWED_ALGORITHMS` -/
def isAllowedAlgorithm (algorithm : Option Json) : Bool :=
  (algorithm.bind Json.str?).any fun alg => decide (alg ∈ allowedAlgorithms)

structure JwtVerifier where
  issuer : String
  audience : String

namespace JwtVerifier

variable {Key : Type} (jwt : PyJwt Key) (v : JwtVerifier)

/-- `verify` after the key was served. -/
def verifyWith (token : String) (jwk : Json) : Except VerifyError VerifiedToken :=
  match jwt.pyJwk jwk with
  | none => .error .pyJwkError
  | some signingKey =>
    match jwt.decode token signingKey allowedAlgorithms v.issuer v.audience ["exp", "sub"] with
    | .error reason => .error (.tokenVerification "Token verification failed" [("reason", reason)])
    | .ok claims =>
      match claims.get "sub" with
      | none => .error .keyError
      | some sub => .ok ⟨sub, (claims.get "email").bind Json.str?, claims⟩

/-- `verify(token)`, with the client afterwards; `str` is Python's, for the text of the algorithm in the details. -/
def verify (str : Option Json → String) (token : String) (c : JwksClient) (io : JwksExchange) :
    Except VerifyError VerifiedToken × JwksClient :=
  match jwt.getUnverifiedHeader token with
  | .error _ => (.error (.tokenVerification "Malformed token" []), c)
  | .ok header =>
    if ¬ isAllowedAlgorithm (header.get "alg") then
      (.error (.tokenVerification "Disallowed signing algorithm" [("alg", str (header.get "alg"))]), c)
    else
      match (header.get "kid").bind Json.str? with
      | none => (.error (.tokenVerification "Token has no key id" []), c)
      | some kid =>
        if kid = "" then (.error (.tokenVerification "Token has no key id" []), c)
        else
          match c.getKey kid io with
          | (.error e, c') => (.error (.ofJwks e), c')
          | (.ok jwk, c') => (v.verifyWith jwt token jwk, c')

end JwtVerifier

/-! ### Key sets -/

/-- The shapes `_refresh` can walk.  Python also walks an empty string and an empty dictionary. -/
def Json.IsKeySet (payload : Json) : Prop :=
  ∃ entries, payload = .obj entries ∧
    match PyDict.get entries "keys" with
    | none => True
    | some (.arr jwks) => ∀ jwk ∈ jwks, ∃ fields, jwk = .obj fields
    | some (.str s) => s = ""
    | some (.obj jwks) => jwks = []
    | some _ => False

private theorem collectKeys_isSome (keys : PyDict String Json) (jwks : List Json) :
    (collectKeys keys jwks).isSome ↔ ∀ jwk ∈ jwks, ∃ fields, jwk = .obj fields := by
  induction jwks generalizing keys with
  | nil => simp [collectKeys]
  | cons jwk jwks ih =>
    rw [List.forall_mem_cons, collectKeys]
    cases jwk with
    | obj fields =>
      simp only [Json.get, Option.bind_eq_bind, Option.bind_some]
      split
      · split <;> simp [ih]
      · simp [ih]
    | _ => simp [Json.get]

private theorem parseKeys_isSome {payload : Json} : (parseKeys payload).isSome ↔ payload.IsKeySet := by
  cases payload with
  | obj entries =>
    simp only [parseKeys, Json.get, Option.bind_eq_bind, Option.bind_some, Json.IsKeySet, Json.obj.injEq,
      exists_eq_left']
    cases PyDict.get entries "keys" with
    | none => simp
    | some value =>
      cases value with
      | arr jwks => exact collectKeys_isSome [] jwks
      | str s => by_cases h : s = "" <;> simp [h]
      | obj jwks => cases jwks <;> simp
      | _ => simp
  | _ => simp [parseKeys, Json.get, Json.IsKeySet]

/-- A success brings a key set. -/
def JwksResponse.Readable : JwksResponse → Prop
  | transportError _ => True
  | answer status body => isSuccessStatus status → ∃ payload, body = some payload ∧ payload.IsKeySet

/-- The response brought the keys of `c`. -/
def JwksResponse.Brought (response : JwksResponse) (c : JwksClient) : Prop :=
  ∃ status payload now, response = .answer status (some payload) ∧ isSuccessStatus status ∧
    parseKeys payload = some c.keys ∧ c.fetchedAt = some now

namespace JwksClient

variable {c c' : JwksClient} {now : ℚ} {response : JwksResponse}

/-- A fetch replaces both attributes, or raises. -/
private theorem refreshed_cases (c : JwksClient) (now : ℚ) (response : JwksResponse) :
    (∃ c', c.refreshed now response.outcome = .ok c' ∧ response.Brought c' ∧ response.Readable) ∨
    (∃ errorType, c.refreshed now response.outcome = .error (.fetchFailed errorType) ∧ response.Readable) ∨
    (c.refreshed now response.outcome = .error .malformedPayload ∧ ¬ response.Readable) := by
  cases response with
  | transportError errorType => exact Or.inr (Or.inl ⟨errorType, rfl, trivial⟩)
  | answer status body =>
    cases hs : isSuccessStatus status with
    | false =>
      refine Or.inr (Or.inl ⟨"HTTPStatusError", by simp [JwksResponse.outcome, hs, refreshed], fun h => ?_⟩)
      rw [hs] at h
      cases h
    | true =>
      cases body with
      | none =>
        refine Or.inr (Or.inr ⟨by simp [JwksResponse.outcome, hs, refreshed], fun h => ?_⟩)
        obtain ⟨payload, hp, -⟩ := h hs
        cases hp
      | some payload =>
        have houtcome : (JwksResponse.answer status (some payload)).outcome = .payload payload := by
          simp [JwksResponse.outcome, hs]
        rw [houtcome, refreshed]
        cases hk : parseKeys payload with
        | none =>
          refine Or.inr (Or.inr ⟨rfl, fun h => ?_⟩)
          obtain ⟨payload', hp, hset⟩ := h hs
          cases hp
          rw [← parseKeys_isSome, hk] at hset
          cases hset
        | some keys =>
          refine Or.inl ⟨_, rfl, ⟨status, payload, now, rfl, hs, hk, rfl⟩, fun _ => ⟨payload, rfl, ?_⟩⟩
          rw [← parseKeys_isSome, hk]
          rfl

/-! ### The sequential call is a run -/

/-- How a call has ended. -/
def endPhase : Except JwksError Json → JwksPhase
  | .ok key => .returned key
  | .error e => .raised e

private theorem endPhase_served (c : JwksClient) (kid : String) :
    endPhase (c.served kid) = JwksState.answer c kid := by
  unfold served JwksState.answer
  cases c.keys.get kid <;> rfl

/-- From `s` on, the one call can end with the result and the client `r`. -/
def Ends (s : JwksState) (kid : String) (r : Except JwksError Json × JwksClient) : Prop :=
  ∃ as t, jwksMachine.run s as = some t ∧ t.client = r.2 ∧ t.tasks = [⟨some kid, endPhase r.1⟩]

private theorem Ends.of_step {s s' : JwksState} {a : JwksAction} {kid : String}
    {r : Except JwksError Json × JwksClient}
    (h : Ends s' kid r) (hst : jwksMachine.step s a = some s') : Ends s kid r := by
  obtain ⟨as, t, hrun, hrest⟩ := h
  exact ⟨a :: as, t, Machine.run_cons.2 ⟨s', hst, hrun⟩, hrest⟩

/-- The response to the second fetch ends the call. -/
private theorem ends_unknownFetch {s : JwksState} {kid : String} {io : JwksExchange} {startedAt : ℚ}
    (hclock : s.clock ≤ io.secondNow) (htasks : s.tasks = [⟨some kid, .unknownFetch startedAt⟩]) :
    Ends s kid (match s.client.refreshed io.secondNow io.second.outcome with
      | .error e => (.error e, s.client)
      | .ok c' => (c'.served kid, c')) := by
  refine ⟨[.resume 0 io.second.outcome io.secondNow io.secondNow io.secondNow], ?_⟩
  cases hr : s.client.refreshed io.secondNow io.second.outcome with
  | error e => simp [Machine.run, jwksMachine, hclock, htasks, JwksState.resume, hr, endPhase]
  | ok c' => simp [Machine.run, jwksMachine, hclock, htasks, JwksState.resume, hr, endPhase_served]

/-- The second check and what follows it. -/
private theorem ends_lookup {s : JwksState} {kid : String} {io : JwksExchange} (h₄ : io.unknownNow ≤ io.secondNow) :
    Ends { (s.lookup kid io.unknownNow io.unknownNow).1 with
        clock := io.unknownNow, tasks := [⟨some kid, (s.lookup kid io.unknownNow io.unknownNow).2⟩] } kid
      (s.client.getKnownKey kid io) := by
  unfold JwksState.lookup getKnownKey
  by_cases hrefetch : s.client.refetches kid io.unknownNow
  · rw [if_pos hrefetch, if_pos hrefetch]
    exact ends_unknownFetch h₄ rfl
  · rw [if_neg hrefetch, if_neg hrefetch]
    exact ⟨[], _, rfl, rfl, by rw [endPhase_served]⟩

/-- With a clock that does not go back, `getKey` is what the machine of all calls does with one call. -/
theorem getKey_run {clock : ℚ} {kid : String} {io : JwksExchange} (h₁ : clock ≤ io.staleNow)
    (h₂ : io.staleNow ≤ io.firstNow) (h₃ : io.firstNow ≤ io.unknownNow) (h₄ : io.unknownNow ≤ io.secondNow) :
    Ends (.init c clock) kid (c.getKey kid io) := by
  unfold getKey
  by_cases hstale : c.isStale io.staleNow
  · rw [if_pos hstale]
    have hst : jwksMachine.step (.init c clock) (.getKey kid io.staleNow io.staleNow io.staleNow) =
        some { JwksState.init c io.staleNow with
          starts := [io.staleNow], tasks := [⟨some kid, .staleFetch io.staleNow⟩] } := by
      simp [jwksMachine, JwksState.init, h₁, JwksState.getKey, hstale]
    refine .of_step ?_ hst
    cases hr : c.refreshed io.firstNow io.first.outcome with
    | error e =>
      refine ⟨[.resume 0 io.first.outcome io.firstNow io.firstNow io.firstNow], ?_⟩
      simp [Machine.run, jwksMachine, JwksState.init, h₂, JwksState.resume, hr, endPhase]
    | ok c' =>
      refine .of_step (a := .resume 0 io.first.outcome io.firstNow io.unknownNow io.unknownNow)
        (ends_lookup (s := { JwksState.init c' io.staleNow with
          starts := [io.staleNow], tasks := [⟨some kid, .staleFetch io.staleNow⟩] }) h₄) ?_
      simp [jwksMachine, JwksState.init, h₂, h₃, JwksState.resume, hr]
  · rw [if_neg hstale]
    refine .of_step (a := .getKey kid io.staleNow io.unknownNow io.unknownNow)
      (ends_lookup (s := .init c clock) h₄) ?_
    simp [jwksMachine, JwksState.init, h₁, h₂.trans h₃, JwksState.getKey, hstale]

/-- A fetch that ends well brought a body that was parsed to its end. -/
private theorem payload_of_refreshed {now : ℚ} {outcome : FetchOutcome} (h : c.refreshed now outcome = .ok c') :
    ∃ payload, outcome = .payload payload ∧ parseKeys payload = some c'.keys ∧ c'.fetchedAt = some now := by
  unfold refreshed at h
  split at h
  · cases h
  · cases h
  · rename_i payload
    split at h
    · cases h
    · rename_i keys hk
      cases h
      exact ⟨payload, rfl, hk, rfl⟩

end JwksClient

/-! ### The cache -/

/-- Between any two steps of any calls, the cache is the same or was replaced as a whole by a body that was parsed. -/
theorem jwksMachine_cache {s s' : JwksState} {a : JwksAction} (h : jwksMachine.step s a = some s') :
    s'.client = s.client ∨ ∃ i payload now unknownNow τ, a = .resume i (.payload payload) now unknownNow τ ∧
      parseKeys payload = some s'.client.keys ∧ s'.client.fetchedAt = some now := by
  cases a with
  | preload τ =>
    simp only [jwksMachine] at h
    split at h <;> cases h
    exact Or.inl rfl
  | getKey kid staleNow unknownNow τ =>
    simp only [jwksMachine] at h
    split at h <;> cases h
    refine Or.inl ?_
    simp only [JwksState.getKey, JwksState.lookup]
    split
    · rfl
    · split <;> rfl
  | resume i outcome now unknownNow τ =>
    simp only [jwksMachine] at h
    split at h
    · obtain ⟨task, -, h⟩ := Option.bind_eq_some_iff.1 h
      obtain ⟨⟨s₁, phase⟩, hr, rfl⟩ := Option.map_eq_some_iff.1 h
      obtain ⟨kid, ph⟩ := task
      simp only [JwksState.resume] at hr
      cases hc : s.client.refreshed now outcome with
      | error e =>
        -- no branch of a failed fetch touches the client
        rw [hc] at hr
        left
        cases ph <;> cases kid <;> cases hr <;> rfl
      | ok client =>
        rw [hc] at hr
        right
        obtain ⟨payload, rfl, hkeys, hnow⟩ := JwksClient.payload_of_refreshed hc
        refine ⟨i, payload, now, unknownNow, τ, rfl, ?_⟩
        have hclient : s₁.client = client := by
          cases ph with
          | staleFetch startedAt =>
            cases kid with
            | none => cases hr
            | some kid =>
              simp only [JwksState.lookup] at hr
              split at hr <;> cases hr <;> rfl
          | unknownFetch startedAt | preloading => cases kid <;> cases hr <;> rfl
          | preloaded | returned _ | raised _ => cases hr
        rw [hclient]
        exact ⟨hkeys, hnow⟩
    · cases h

/-- The same of one call. -/
private theorem JwksClient.getKey_cache (c : JwksClient) (kid : String) (io : JwksExchange) :
    (c.getKey kid io).2 = c ∨ io.first.Brought (c.getKey kid io).2 ∨ io.second.Brought (c.getKey kid io).2 := by
  have hknown : ∀ c' : JwksClient, (c'.getKnownKey kid io).2 = c' ∨ io.second.Brought (c'.getKnownKey kid io).2 := by
    intro c'
    unfold getKnownKey
    split
    · rcases c'.refreshed_cases io.secondNow io.second with ⟨c'', hr, hb, -⟩ | ⟨e, hr, -⟩ | ⟨hr, -⟩ <;> rw [hr]
      · exact Or.inr hb
      · exact Or.inl rfl
      · exact Or.inl rfl
    · exact Or.inl rfl
  unfold getKey
  split
  · rcases c.refreshed_cases io.firstNow io.first with ⟨c', hr, hb, -⟩ | ⟨e, hr, -⟩ | ⟨hr, -⟩ <;> rw [hr]
    · rcases hknown c' with he | hb'
      · exact Or.inr (Or.inl (by simpa only [he] using hb))
      · exact Or.inr (Or.inr hb')
    · exact Or.inl rfl
    · exact Or.inl rfl
  · exact (hknown c).imp_right Or.inr

/-! ### Verdicts -/

/-- A `VerifiedToken` is returned, or a `TokenVerificationError` raised. -/
def IsVerdict (result : Except VerifyError VerifiedToken) : Prop :=
  (∃ verified, result = .ok verified) ∨ ∃ message details, result = .error (.tokenVerification message details)

/-- The token has a header that asks for the key `kid`. -/
def PyJwt.AsksFor {Key : Type} (jwt : PyJwt Key) (token kid : String) : Prop :=
  ∃ header, jwt.getUnverifiedHeader token = .ok header ∧ isAllowedAlgorithm (header.get "alg") ∧
    header.get "kid" = some (.str kid) ∧ kid ≠ ""

namespace JwksClient

variable {Key : Type} (jwt : PyJwt Key) (c : JwksClient) (kid : String) (io : JwksExchange)

/-- The entry of `kid`, if there is one, is a key. -/
def Builds : Prop := ∀ jwk, c.keys.get kid = some jwk → (jwt.pyJwk jwk).isSome

/-- The fetch for an unknown `kid`, if it is made, is answered with a key set or an error, and the entry found builds.
-/
def KnownKeySound : Prop :=
  if c.refetches kid io.unknownNow then
    io.second.Readable ∧ ∀ c', c.refreshed io.secondNow io.second.outcome = .ok c' → c'.Builds jwt kid
  else c.Builds jwt kid

/-- The same of the fetch for a stale cache, and then of what follows it. -/
def KeySound : Prop :=
  if c.isStale io.staleNow then
    io.first.Readable ∧ ∀ c', c.refreshed io.firstNow io.first.outcome = .ok c' → c'.KnownKeySound jwt kid io
  else c.KnownKeySound jwt kid io

end JwksClient

namespace JwtVerifier

variable {Key : Type} {jwt : PyJwt Key} {v : JwtVerifier} {token kid : String} {c : JwksClient} {io : JwksExchange}

/-- What `verify` makes of the result of `get_key`. -/
def conclude (jwt : PyJwt Key) (v : JwtVerifier) (token : String) :
    Except JwksError Json → Except VerifyError VerifiedToken
  | .error e => .error (.ofJwks e)
  | .ok jwk => v.verifyWith jwt token jwk

private theorem verifyWith_isVerdict (hjwt : jwt.Requires) {jwk : Json} :
    IsVerdict (v.verifyWith jwt token jwk) ↔ (jwt.pyJwk jwk).isSome := by
  unfold verifyWith
  cases hkey : jwt.pyJwk jwk with
  | none => simp [IsVerdict]
  | some key =>
    simp only [Option.isSome_some, iff_true]
    cases hd : jwt.decode token key allowedAlgorithms v.issuer v.audience ["exp", "sub"] with
    | error reason => exact Or.inr ⟨_, _, rfl⟩
    | ok claims =>
      obtain ⟨sub, hsub⟩ := hjwt _ _ _ _ _ _ _ hd "sub" (by simp)
      simp only [hsub]
      exact Or.inl ⟨_, rfl⟩

private theorem served_isVerdict (hjwt : jwt.Requires) :
    IsVerdict (conclude jwt v token (c.served kid)) ↔ c.Builds jwt kid := by
  unfold JwksClient.served JwksClient.Builds
  cases hkey : c.keys.get kid with
  | none => simp [conclude, IsVerdict, VerifyError.ofJwks]
  | some jwk => simp [conclude, verifyWith_isVerdict hjwt]

/-- What a response that raises comes to. -/
private theorem error_isVerdict {e : JwksError} : IsVerdict (conclude jwt v token (.error e)) ↔
    e ≠ .malformedPayload := by
  cases e <;> simp [conclude, IsVerdict, VerifyError.ofJwks]

private theorem getKnownKey_isVerdict (hjwt : jwt.Requires) :
    IsVerdict (conclude jwt v token (c.getKnownKey kid io).1) ↔ c.KnownKeySound jwt kid io := by
  unfold JwksClient.getKnownKey JwksClient.KnownKeySound
  split
  · rcases c.refreshed_cases io.secondNow io.second with ⟨c', hr, -, hread⟩ | ⟨e, hr, hread⟩ | ⟨hr, hread⟩ <;>
      simp only [hr]
    · simp [served_isVerdict hjwt, hread]
    · simp [error_isVerdict, hread]
    · simp [error_isVerdict, hread]
  · exact served_isVerdict hjwt

private theorem getKey_isVerdict (hjwt : jwt.Requires) :
    IsVerdict (conclude jwt v token (c.getKey kid io).1) ↔ c.KeySound jwt kid io := by
  unfold JwksClient.getKey JwksClient.KeySound
  split
  · rcases c.refreshed_cases io.firstNow io.first with ⟨c', hr, -, hread⟩ | ⟨e, hr, hread⟩ | ⟨hr, hread⟩ <;>
      simp only [hr]
    · simp [getKnownKey_isVerdict hjwt, hread]
    · simp [error_isVerdict, hread]
    · simp [error_isVerdict, hread]
  · exact getKnownKey_isVerdict hjwt

/-- The header is rejected, or it asks for one key. -/
private theorem verify_cases (jwt : PyJwt Key) (v : JwtVerifier) (str : Option Json → String) (token : String)
    (c : JwksClient) (io : JwksExchange) :
    ((∀ kid, ¬ jwt.AsksFor token kid) ∧ ∃ message details,
      v.verify jwt str token c io = (.error (.tokenVerification message details), c)) ∨
    ∃ kid, (∀ kid', jwt.AsksFor token kid' ↔ kid' = kid) ∧
      v.verify jwt str token c io = (conclude jwt v token (c.getKey kid io).1, (c.getKey kid io).2) := by
  unfold verify
  -- the checks of the header, one after the other
  cases hheader : jwt.getUnverifiedHeader token with
  | error e =>
    refine Or.inl ⟨fun kid h => ?_, _, _, rfl⟩
    obtain ⟨header, hok, -⟩ := h
    rw [hheader] at hok
    cases hok
  | ok header =>
    have hasks : ∀ kid, jwt.AsksFor token kid ↔
        isAllowedAlgorithm (header.get "alg") ∧ header.get "kid" = some (.str kid) ∧ kid ≠ "" := by
      simp [PyJwt.AsksFor, hheader]
    simp only [hasks]
    by_cases halg : isAllowedAlgorithm (header.get "alg")
    · rw [if_neg (not_not.2 halg)]
      cases hkid : (header.get "kid").bind Json.str? with
      | none =>
        refine Or.inl ⟨fun kid h => ?_, _, _, rfl⟩
        rw [h.2.1] at hkid
        cases hkid
      | some kid =>
        have hget : header.get "kid" = some (.str kid) := by
          obtain ⟨value, hvalue, hstr⟩ := Option.bind_eq_some_iff.1 hkid
          cases value <;> cases hstr
          exact hvalue
        by_cases hempty : kid = ""
        · refine Or.inl ⟨fun kid' h => ?_, _, _, if_pos hempty⟩
          rw [hget] at h
          obtain ⟨-, he, hne⟩ := h
          cases he
          exact hne hempty
        · refine Or.inr ⟨kid, fun kid' => ?_, ?_⟩
          · rw [hget]
            constructor
            · rintro ⟨-, he, -⟩
              cases he
              rfl
            · rintro rfl
              exact ⟨halg, rfl, hempty⟩
          · simp only [if_neg hempty]
            rcases c.getKey kid io with ⟨e | jwk, c'⟩ <;> rfl
    · refine Or.inl ⟨fun kid h => halg h.1, _, _, if_pos halg⟩

end JwtVerifier

/-- A verification ends in a `VerifiedToken` or a `TokenVerificationError`, exactly when each response with a success
status that it takes is a key set and the entry it finds is a key.  In any case it leaves the cache alone, or with the
keys of a response that was parsed to its end and the time of that fetch. -/
theorem verify_fails_as_401_iff {Key : Type} (jwt : PyJwt Key) (hjwt : jwt.Requires) (str : Option Json → String)
    (v : JwtVerifier) (token : String) (c : JwksClient) (io : JwksExchange) :
    (IsVerdict (v.verify jwt str token c io).1 ↔ ∀ kid, jwt.AsksFor token kid → c.KeySound jwt kid io) ∧
    ((v.verify jwt str token c io).2 = c ∨ io.first.Brought (v.verify jwt str token c io).2 ∨
      io.second.Brought (v.verify jwt str token c io).2) ∧
    ∀ s a s', jwksMachine.step s a = some s' → s'.client = s.client ∨ ∃ i payload now unknownNow τ,
      a = .resume i (.payload payload) now unknownNow τ ∧ parseKeys payload = some s'.client.keys ∧
        s'.client.fetchedAt = some now := by
  refine ⟨?_, ?_, fun s a s' h => jwksMachine_cache h⟩
  · rcases JwtVerifier.verify_cases jwt v str token c io with ⟨hnone, message, details, hv⟩ |
      ⟨kid, hasks, hv⟩ <;> rw [hv]
    · exact ⟨fun _ kid h => absurd h (hnone kid), fun _ => Or.inr ⟨message, details, rfl⟩⟩
    · simp only [hasks, forall_eq]
      exact JwtVerifier.getKey_isVerdict hjwt
  · rcases JwtVerifier.verify_cases jwt v str token c io with ⟨-, message, details, hv⟩ | ⟨kid, -, hv⟩ <;> rw [hv]
    · exact Or.inl rfl
    · exact c.getKey_cache kid io

/-! ### A token and two bodies -/

/-- PyJWT on one token, signed with the key that `signingKey` is an entry of. -/
def sampleJwt : PyJwt Unit where
  getUnverifiedHeader token :=
    if token = "header.payload.signature" then .ok [("alg", .str "ES256"), ("kid", .str "key-a")]
    else .error "DecodeError"
  pyJwk jwk := if (jwk.get "kty").join.bind Json.str? = some "EC" then some () else none
  decode token _ algorithms issuer audience require :=
    if token = "header.payload.signature" ∧ "ES256" ∈ algorithms ∧ issuer = "https://issuer" ∧ audience = "api" ∧
        require ⊆ ["exp", "sub"] then
      .ok [("iss", .str "https://issuer"), ("aud", .str "api"), ("sub", .str "user-1"), ("exp", .num 2000000000 0)]
    else .error "InvalidSignatureError"

def signingKey : Json := .obj [("kid", .str "key-a"), ("kty", .str "EC"), ("crv", .str "P-256")]

private theorem sampleJwt_requires : sampleJwt.Requires := by
  intro token key algorithms issuer audience require claims h name hname
  simp only [sampleJwt] at h
  split at h
  · rename_i hif
    cases h
    rcases List.mem_cons.1 (hif.2.2.2.2 hname) with rfl | hname
    · exact ⟨_, rfl⟩
    · rw [List.mem_singleton.1 hname]
      exact ⟨_, rfl⟩
  · cases h

/-- A fresh client that is answered with one response. -/
def freshExchange (response : JwksResponse) : JwksExchange := ⟨1000, response, 1001, 1001, response, 1002⟩

/-- A good key set. -/
theorem verify_fails_as_401_iff_sample :
    IsVerdict ((JwtVerifier.mk "https://issuer" "api").verify sampleJwt (fun _ => "None") "header.payload.signature"
      (.new 3600 30) (freshExchange (.answer 200 (some (.obj [("keys", .arr [signingKey])]))))).1 := by
  refine (verify_fails_as_401_iff sampleJwt sampleJwt_requires _ _ _ _ _).1.2 ?_
  rintro kid ⟨header, hok, -, hkid, -⟩
  cases hok
  cases hkid
  have hset : (Json.obj [("keys", .arr [signingKey])]).IsKeySet := parseKeys_isSome.1 (by decide)
  have hrefreshed : (JwksClient.new 3600 30).refreshed 1001
      (JwksResponse.answer 200 (some (.obj [("keys", .arr [signingKey])]))).outcome =
        .ok ⟨3600, 30, [("key-a", signingKey)], some 1001⟩ := rfl
  refine ⟨fun _ => ⟨_, rfl, hset⟩, fun c' hc' => ?_⟩
  cases hrefreshed.symm.trans hc'
  have hno : JwksClient.refetches ⟨3600, 30, [("key-a", signingKey)], some 1001⟩ "key-a" 1001 = false := by decide
  unfold JwksClient.KnownKeySound
  rw [freshExchange, hno]
  intro jwk hjwk
  cases hjwk
  decide

/-- A success on whose body `response.json()` raises. -/
theorem verify_no_json :
    (JwtVerifier.mk "https://issuer" "api").verify sampleJwt (fun _ => "None") "header.payload.signature"
      (.new 3600 30) (freshExchange (.answer 200 none)) = (.error .malformedPayload, .new 3600 30) := rfl

end CleanBackend
