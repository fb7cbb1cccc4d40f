import CleanBackend.Auth.SessionStore
import CleanBackend.Lib.Machine

/-!
# The auth routes

`POST /auth/refresh`, `POST /auth/logout` and `GET /auth/me` of `auth/routes.py`, with the dependencies `verify_csrf`
and `get_current_principal`.  A request waits at its repository calls and at its calls of GoTrue; between two of them
it runs without interruption, so that a phase names the call a request makes next.

`authMachine` interleaves any number of requests.  A repository call is one step; what GoTrue answers, the clock, the
drawn ids and tokens are part of the action.
-/

namespace CleanBackend

inductive AuthRoute where
  | refresh
  | logout
  | me
  deriving DecidableEq, Repr

/-- What the routes read of a request. -/
structure AuthRequest where
  route : AuthRoute
  csrfHeader : Option String
  csrfCookie : Option String
  sessionCookie : Option String
  deriving DecidableEq, Repr

/-- `request.cookies.get(settings.session_cookie_name) or ""` -/
def AuthRequest.sessionToken (r : AuthRequest) : String := r.sessionCookie.getD ""

/-- `csrf.verify_csrf` -/
def verifyCsrf : Option String → Option String → Bool
  | some headerValue, some cookieValue => headerValue != "" && cookieValue != "" && headerValue == cookieValue
  | _, _ => false

/-- `AuthContext`, as far as the guards read it. -/
structure AuthContext where
  userId : String
  tenantId : String
  sessionId : String
  email : Option String
  roles : List String
  scopes : List String
  deriving DecidableEq, Repr

/-! ### Responses -/

/-- What a route may raise. -/
inductive AuthError where
  | csrfValidation
  | authenticationRequired
  | oauthExchange
  | repository (error : RepositoryError)
  | unhandled
  deriving DecidableEq, Repr

def RepositoryError.httpStatus : RepositoryError → Nat
  | invalidSession _ | sessionExpired => 401
  | conflict _ => 409
  | _ => 500

def RepositoryError.code : RepositoryError → String
  | invalidSession _ => "INVALID_SESSION"
  | sessionExpired => "SESSION_EXPIRED"
  | identityMapping _ => "IDENTITY_MAPPING_FAILED"
  | databaseResult _ _ => "DATABASE_RESULT_ERROR"
  | conflict _ => "CONFLICT"
  | databaseOperation _ _ => "DATABASE_OPERATION_ERROR"
  | valueError | keyError _ | attributeError | overflowError | decryptFailed => "INTERNAL_ERROR"

/-- The status the exception handlers answer with. -/
def AuthError.httpStatus : AuthError → Nat
  | csrfValidation => 403
  | authenticationRequired => 401
  | oauthExchange => 502
  | repository error => error.httpStatus
  | unhandled => 500

def AuthError.code : AuthError → String
  | csrfValidation => "CSRF_VALIDATION_FAILED"
  | authenticationRequired => "AUTHENTICATION_REQUIRED"
  | oauthExchange => "OAUTH_EXCHANGE_FAILED"
  | repository error => error.code
  | unhandled => "INTERNAL_ERROR"

inductive AuthResponse where
  /-- `{"rotated": True}`, with the session cookie set to the new token -/
  | rotated (sessionCookie : String)
  /-- `{"logged_out": True}`, with the cookies cleared -/
  | loggedOut
  | principal (userId tenantId : String) (email : Option String)
  | error (status : Nat) (code : String)
  deriving DecidableEq, Repr

def AuthResponse.status : AuthResponse → Nat
  | rotated _ | loggedOut | principal _ _ _ => 200
  | error status _ => status

def AuthError.response (e : AuthError) : AuthResponse := .error e.httpStatus e.code

/-! ### One request -/

/-- `GoTrueTokenSet` -/
structure GoTrueTokenSet where
  accessToken : String
  refreshToken : String
  expiresIn : Int
  deriving DecidableEq, Repr

/-- How a call of the GoTrue client ends; `exchangeError` is `OAuthExchangeError`. -/
inductive GoTrueReply where
  | tokens (set : GoTrueTokenSet)
  | loggedOut
  | exchangeError
  deriving DecidableEq, Repr

/-- Where a request stands. -/
inductive AuthPhase where
  /-- `get_current_principal`, at its `get` -/
  | resolving
  /-- `get_current_principal`, at its `touch` -/
  | touching (session : ActiveSessionDTO)
  /-- the handler, at its own `get` -/
  | reading
  /-- `refresh`, at `client.refresh` -/
  | refreshing (current : ActiveSessionDTO)
  | rotating (params : RotateParams)
  /-- `logout`, at `client.logout` -/
  | loggingOut (current : ActiveSessionDTO)
  | revoking
  | answered (response : AuthResponse)
  deriving DecidableEq, Repr

def AuthPhase.raise (e : AuthError) : AuthPhase := .answered e.response

/-- From the arrival to the first call. -/
def AuthRequest.enter (r : AuthRequest) : AuthPhase :=
  if r.route ≠ .me ∧ ¬ verifyCsrf r.csrfHeader r.csrfCookie then .raise .csrfValidation
  else if r.sessionToken = "" then .raise .authenticationRequired
  else .resolving

/-- The repository call a request waits for. -/
def AuthPhase.nextCall (idleTtlSeconds : Int) (sessionToken : String) : AuthPhase → Option RepositoryCall
  | resolving | reading => some (.get sessionToken)
  | touching _ => some (.touch sessionToken idleTtlSeconds)
  | rotating params => some (.rotate params)
  | revoking => some (.revoke sessionToken)
  | refreshing _ | loggingOut _ | answered _ => none

/-- `except (InvalidSessionError, SessionExpiredError)` -/
def RepositoryError.isSessionGone : RepositoryError → Bool
  | invalidSession _ | sessionExpired => true
  | _ => false

/-- From the answer of the repository to the next call. -/
def AuthPhase.resume (route : AuthRoute) : AuthPhase → RepositoryAnswer → AuthPhase
  | .resolving, .session dto => .touching dto
  | .touching dto, .touched _ =>
    match route with
    | .refresh | .logout => .reading
    | .me => .answered (.principal dto.userId dto.tenantId dto.email)
  | .reading, .session dto =>
    match route with
    | .logout => .loggingOut dto
    | .refresh | .me => .refreshing dto
  | .reading, .raised e => if route = .logout ∧ e.isSessionGone then .revoking else .raise (.repository e)
  | .rotating params, .created _ => .answered (.rotated params.newSessionToken)
  | .revoking, .revoked => .answered .loggedOut
  | _, .raised e => .raise (.repository e)
  | phase, _ => phase

/-- From the answer of GoTrue to the next call.  `refresh` draws its new token here. -/
def AuthRequest.afterGoTrue (r : AuthRequest) (idleTtlSeconds now : Int) (newSessionToken : String) :
    AuthPhase → GoTrueReply → Option AuthPhase
  | .refreshing _, .tokens set =>
    some (.rotating {
      oldSessionToken := r.sessionToken
      newSessionToken := newSessionToken
      accessToken := set.accessToken
      refreshToken := set.refreshToken
      gotrueExpiresAt := some (now + timedelta set.expiresIn)
      idleTtlSeconds := idleTtlSeconds })
  | .refreshing _, .exchangeError => some (.raise .oauthExchange)
  -- a failure of GoTrue is logged, and the local revoke comes next
  | .loggingOut _, .loggedOut | .loggingOut _, .exchangeError => some .revoking
  | _, _ => none

/-! ### Any number of requests -/

/-- The requests by their arrival, and the rotations so far: each old token with the new one, the latest first. -/
structure AuthState (σ : Type) where
  store : σ
  requests : List (AuthRequest × AuthPhase)
  rotations : List (String × String)
  deriving DecidableEq, Repr

inductive AuthAction where
  | arrive (request : AuthRequest)
  /-- the repository runs the call request `i` waits for -/
  | call (i : Nat) (now : Int) (internalId : Uuid) (draws : Draws)
  /-- GoTrue answers request `i` -/
  | gotrue (i : Nat) (now : Int) (reply : GoTrueReply) (newSessionToken : String)
  /-- request `i` meets an exception that nothing catches -/
  | abort (i : Nat)
  deriving DecidableEq, Repr

/-- The tokens a run mentions. -/
def AuthAction.tokens : AuthAction → List String
  | .arrive r => [r.sessionToken]
  | .gotrue _ _ _ newSessionToken => [newSessionToken]
  | .call _ _ _ _ | .abort _ => []

/-- The request whose repository call a step runs. -/
def AuthAction.caller : AuthAction → Option Nat
  | .call i _ _ _ => some i
  | _ => none

/-- The token a request has drawn for its rotation. -/
def AuthPhase.mints : AuthPhase → Option String
  | rotating params => some params.newSessionToken
  | _ => none

/-- The rotation a call made. -/
def RepositoryCall.rotation : RepositoryCall → RepositoryAnswer → List (String × String)
  | .rotate params, .created _ => [(params.oldSessionToken, params.newSessionToken)]
  | _, _ => []

variable {σ : Type}

def authMachine (S : SessionStore σ) (idleTtlSeconds : Int) : Machine (AuthState σ) AuthAction where
  step s
    | .arrive r => some { s with requests := s.requests ++ [(r, r.enter)] }
    | .call i now internalId draws =>
      match s.requests[i]? with
      | none => none
      | some (r, phase) =>
        match phase.nextCall idleTtlSeconds r.sessionToken with
        | none => none
        | some call =>
          let (store, answer) := S.exec s.store ⟨now, call, internalId, draws⟩
          some {
            store := store
            requests := s.requests.set i (r, phase.resume r.route answer)
            rotations := call.rotation answer ++ s.rotations }
    | .gotrue i now reply newSessionToken =>
      match s.requests[i]? with
      | none => none
      | some (r, phase) =>
        (r.afterGoTrue idleTtlSeconds now newSessionToken phase reply).map fun phase' =>
          { s with requests := s.requests.set i (r, phase') }
    | .abort i =>
      match s.requests[i]? with
      | none | some (_, .answered _) => none
      | some (r, _) => some { s with requests := s.requests.set i (r, .raise .unhandled) }

def AuthState.init (store : σ) : AuthState σ := ⟨store, [], []⟩

/-- The steps of `authMachine`. -/
inductive AuthStep (S : SessionStore σ) (idleTtlSeconds : Int) (s : AuthState σ) :
    AuthAction → AuthState σ → Prop where
  | arrive (r : AuthRequest) :
      AuthStep S idleTtlSeconds s (.arrive r) { s with requests := s.requests ++ [(r, r.enter)] }
  | call {i : Nat} {r : AuthRequest} {phase : AuthPhase} {call : RepositoryCall} (now : Int) (internalId : Uuid)
      (draws : Draws) (hi : s.requests[i]? = some (r, phase))
      (hc : phase.nextCall idleTtlSeconds r.sessionToken = some call) :
      AuthStep S idleTtlSeconds s (.call i now internalId draws)
        { store := (S.exec s.store ⟨now, call, internalId, draws⟩).1
          requests := s.requests.set i (r, phase.resume r.route (S.exec s.store ⟨now, call, internalId, draws⟩).2)
          rotations := call.rotation (S.exec s.store ⟨now, call, internalId, draws⟩).2 ++ s.rotations }
  | gotrue {i : Nat} {r : AuthRequest} {phase phase' : AuthPhase} {now : Int} {reply : GoTrueReply} {token : String}
      (hi : s.requests[i]? = some (r, phase)) (hg : r.afterGoTrue idleTtlSeconds now token phase reply =
        some phase') :
      AuthStep S idleTtlSeconds s (.gotrue i now reply token) { s with requests := s.requests.set i (r, phase') }
  | abort {i : Nat} {r : AuthRequest} {phase : AuthPhase} (hi : s.requests[i]? = some (r, phase))
      (hne : ∀ response, phase ≠ .answered response) :
      AuthStep S idleTtlSeconds s (.abort i) { s with requests := s.requests.set i (r, .raise .unhandled) }

theorem authMachine_step {S : SessionStore σ} {idleTtlSeconds : Int} {s s' : AuthState σ} {a : AuthAction} :
    (authMachine S idleTtlSeconds).step s a = some s' ↔ AuthStep S idleTtlSeconds s a s' := by
  constructor
  · intro h
    cases a with
    | arrive r =>
      cases h
      exact .arrive r
    | call i now internalId draws =>
      simp only [authMachine] at h
      split at h
      · cases h
      · rename_i r phase hi
        split at h
        · cases h
        · rename_i call hc
          cases h
          exact .call now internalId draws hi hc
    | gotrue i now reply token =>
      simp only [authMachine] at h
      split at h
      · cases h
      · rename_i r phase hi
        obtain ⟨phase', hg, rfl⟩ := Option.map_eq_some_iff.1 h
        exact .gotrue hi hg
    | abort i =>
      simp only [authMachine] at h
      split at h
      · cases h
      · cases h
      · rename_i r phase hne hi
        cases h
        exact .abort hi fun response heq => hne response heq
  · intro h
    cases h with
    | arrive r => rfl
    | call now internalId draws hi hc => simp only [authMachine, hi, hc]
    | gotrue hi hg => simp only [authMachine, hi, hg, Option.map_some]
    | @abort i r phase hi hne =>
      cases phase with
      | answered response => exact absurd rfl (hne response)
      | _ => simp only [authMachine, hi]

/-- The request at a place after one has moved on. -/
theorem getElem?_set_cases {α : Type} {xs : List α} {i l : Nat} {x y : α} (h : (xs.set i x)[l]? = some y) :
    (i = l ∧ y = x) ∨ (i ≠ l ∧ xs[l]? = some y) := by
  rw [List.getElem?_set] at h
  split at h
  · rename_i hi
    split at h
    · cases h
      exact Or.inl ⟨hi, rfl⟩
    · cases h
  · rename_i hi
    exact Or.inr ⟨hi, h⟩

/-! ### The phases of a request -/

/-- What a request has in hand in a phase. -/
def AuthPhase.Fits (T : List String) (r : AuthRequest) : AuthPhase → Prop
  | refreshing _ => r.route ≠ .logout
  | rotating params =>
    r.route ≠ .logout ∧ params.oldSessionToken = r.sessionToken ∧ params.newSessionToken ∈ T
  | answered response => r.route = .logout → response.status = 200 → response = .loggedOut
  | _ => True

private theorem AuthError.httpStatus_ne (e : AuthError) : e.httpStatus ≠ 200 := by
  cases e with
  | repository error => cases error <;> simp [httpStatus, RepositoryError.httpStatus]
  | _ => decide

section Phases

variable {T : List String} {r : AuthRequest} {phase phase' : AuthPhase}

private theorem AuthPhase.raise_fits (T : List String) (r : AuthRequest) (e : AuthError) : (raise e).Fits T r :=
  fun _ h => absurd h e.httpStatus_ne

theorem AuthPhase.raise_ne (e : AuthError) : raise e ≠ .answered .loggedOut := nofun

theorem AuthRequest.enter_cases (r : AuthRequest) : (∃ e, r.enter = .raise e) ∨ r.enter = .resolving := by
  unfold enter
  split
  · exact Or.inl ⟨_, rfl⟩
  · split
    · exact Or.inl ⟨_, rfl⟩
    · exact Or.inr rfl

private theorem AuthRequest.enter_fits (T : List String) (r : AuthRequest) : r.enter.Fits T r := by
  rcases r.enter_cases with ⟨e, he⟩ | he
  · exact he ▸ AuthPhase.raise_fits T r e
  · exact he ▸ trivial

private theorem AuthPhase.resume_fits (h : phase.Fits T r) (answer : RepositoryAnswer) :
    (phase.resume r.route answer).Fits T r := by
  unfold resume
  split
  · trivial
  · split
    · trivial
    · trivial
    · rename_i hr
      exact fun hl => absurd (hr.symm.trans hl) (by decide)
  · split
    · trivial
    · rename_i hr
      exact fun hl => absurd (hr.symm.trans hl) (by decide)
    · rename_i hr
      exact fun hl => absurd (hr.symm.trans hl) (by decide)
  · split
    · trivial
    · exact raise_fits T r _
  · exact fun hl => absurd hl h.1
  · exact fun _ _ => rfl
  · exact raise_fits T r _
  · exact h

/-- Only a revoke leads to the answer of a logout. -/
theorem AuthPhase.resume_loggedOut {route : AuthRoute} {answer : RepositoryAnswer}
    (h : phase.resume route answer = .answered .loggedOut) : phase = .revoking ∨ phase = .answered .loggedOut := by
  unfold resume at h
  split at h
  · cases h
  · split at h <;> cases h
  · split at h <;> cases h
  · split at h <;> cases h
  · cases h
  · exact Or.inl rfl
  · cases h
  · exact Or.inr h

private theorem AuthRequest.afterGoTrue_fits {idleTtlSeconds now : Int} {token : String} {reply : GoTrueReply}
    (hf : phase.Fits T r) (ht : token ∈ T) (h : r.afterGoTrue idleTtlSeconds now token phase reply = some phase') :
    phase'.Fits T r := by
  unfold afterGoTrue at h
  split at h <;> cases h
  · exact ⟨hf, rfl, ht⟩
  · exact AuthPhase.raise_fits T r _
  · trivial
  · trivial

theorem AuthRequest.afterGoTrue_ne {idleTtlSeconds now : Int} {token : String} {reply : GoTrueReply}
    (h : r.afterGoTrue idleTtlSeconds now token phase reply = some phase') : phase' ≠ .answered .loggedOut := by
  unfold afterGoTrue at h
  split at h <;> cases h <;> nofun

end Phases

/-- The requests of a state hold tokens of `T` only. -/
def AuthState.Fits (T : List String) (s : AuthState σ) : Prop :=
  ∀ x ∈ s.requests, x.1.sessionToken ∈ T ∧ x.2.Fits T x.1

theorem AuthState.Fits.step {S : SessionStore σ} {T : List String} {idleTtlSeconds : Int} {s s' : AuthState σ}
    {a : AuthAction} (h : s.Fits T) (ht : ∀ t ∈ a.tokens, t ∈ T) (hstep : AuthStep S idleTtlSeconds s a s') :
    s'.Fits T := by
  -- the request that moves keeps its token
  have hset : ∀ {i : Nat} {r : AuthRequest} {phase phase' : AuthPhase}, s.requests[i]? = some (r, phase) →
      (phase.Fits T r → phase'.Fits T r) →
      ∀ x ∈ s.requests.set i (r, phase'), x.1.sessionToken ∈ T ∧ x.2.Fits T x.1 := by
    intro i r phase phase' hi hf x hx
    obtain ⟨hr, hp⟩ := h _ (List.mem_of_getElem? hi)
    rcases List.mem_or_eq_of_mem_set hx with hx | rfl
    · exact h x hx
    · exact ⟨hr, hf hp⟩
  cases hstep with
  | arrive r =>
    intro x hx
    rcases List.mem_append.1 hx with hx | hx
    · exact h x hx
    · cases List.mem_singleton.1 hx
      exact ⟨ht _ List.mem_cons_self, r.enter_fits T⟩
  | call now id draws hi hc => exact hset hi fun hf => AuthPhase.resume_fits hf _
  | gotrue hi hg => exact hset hi fun hf => AuthRequest.afterGoTrue_fits hf (ht _ List.mem_cons_self) hg
  | abort hi _ => exact hset hi fun _ => AuthPhase.raise_fits T _ _

def refreshRequest : AuthRequest := ⟨.refresh, some "csrf", some "csrf", some "token-1"⟩

end CleanBackend
