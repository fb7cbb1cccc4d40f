import CleanBackend.Auth.SupabaseAuthClient

/-!
# The five auth routes

`auth/routes.py` as the browser meets it: `login`, `callback`, `refresh`, `logout` and `me`, with their dependencies
in the order FastAPI solves them, the cookies of `auth/cookies.py`, the PKCE state of `auth/pkce.py`, and the
exception handlers around them.  `serve` answers a sequence of requests.
-/

namespace CleanBackend

/-- What the routes read of `Settings`. -/
structure AuthSettings where
  apiPrefix : String
  frontendPostLoginUrl : String
  sessionTokenEncryptionKey : Option String
  identityAutoProvision : Bool
  sessionCookieName : String
  sessionCookieSecure : Bool
  sessionCookieSamesite : SameSite
  sessionCookieDomain : Option String
  sessionAbsoluteTtlSeconds : Int
  sessionIdleTtlSeconds : Int
  csrfCookieName : String
  csrfHeaderName : String
  pkceStateCookieName : String
  pkceStateTtlSeconds : Int
  deriving DecidableEq, Repr

/-- What `container.startup()` has put on `app.state`. -/
structure AppState where
  supabaseAuthClient : Option SupabaseAuthClient
  dbPool : Bool
  deriving DecidableEq, Repr

inductive BrowserRoute where
  | login
  | callback
  | refresh
  | logout
  | me
  deriving DecidableEq, Repr

def BrowserRoute.method : BrowserRoute → String
  | login | callback | me => "GET"
  | refresh | logout => "POST"

def BrowserRoute.path : BrowserRoute → String
  | login => "/auth/login"
  | callback => "/auth/callback"
  | refresh => "/auth/refresh"
  | logout => "/auth/logout"
  | me => "/auth/me"

/-- A request; the names of the headers are in lower case. -/
structure BrowserRequest where
  route : BrowserRoute
  headers : PyDict String String
  cookies : PyDict String String
  /-- the query parameters of the callback -/
  code : Option String
  state : Option String
  clientHost : Option String
  deriving DecidableEq, Repr

namespace BrowserRequest

/-- `request.headers.get(name)` -/
def header (r : BrowserRequest) (name : String) : Option String := PyDict.get r.headers name.toLower

/-- `request.cookies.get(name)` -/
def cookie (r : BrowserRequest) (name : String) : Option String := PyDict.get r.cookies name

end BrowserRequest

/-! ### Cookies -/

namespace AuthSettings

variable (settings : AuthSettings)

/-- `response.set_cookie`, with the attributes that all cookies share. -/
def setCookie (key value : String) (maxAge : Int) (httponly : Bool) : SetCookie where
  key := key
  value := value
  maxAge := maxAge
  expired := false
  path := "/"
  domain := settings.sessionCookieDomain
  secure := settings.sessionCookieSecure
  httponly := httponly
  samesite := settings.sessionCookieSamesite

/-- `response.delete_cookie` -/
def deleteCookie (key : String) (httponly : Bool) : SetCookie :=
  { settings.setCookie key "" 0 httponly with expired := true }

def setSessionCookie (sessionId : String) : SetCookie :=
  settings.setCookie settings.sessionCookieName sessionId settings.sessionAbsoluteTtlSeconds true

def clearSessionCookie : SetCookie := settings.deleteCookie settings.sessionCookieName true

def setCsrfCookie (token : String) : SetCookie :=
  settings.setCookie settings.csrfCookieName token settings.sessionAbsoluteTtlSeconds false

def clearCsrfCookie : SetCookie := settings.deleteCookie settings.csrfCookieName false

def setPkceStateCookie (value : String) : SetCookie :=
  settings.setCookie settings.pkceStateCookieName value settings.pkceStateTtlSeconds true

def clearPkceStateCookie : SetCookie := settings.deleteCookie settings.pkceStateCookieName true

end AuthSettings

/-- The response with one more `Set-Cookie` header. -/
def HttpResponse.with (response : HttpResponse) (cookie : SetCookie) : HttpResponse :=
  { response with setCookies := response.setCookies ++ [cookie] }

/-! ### PKCE -/

namespace BackendEnv

variable (env : BackendEnv)

/-- `pkce.code_challenge_s256` -/
def codeChallengeS256 (verifier : String) : String :=
  String.ofList ((env.urlsafeB64encode (env.sha256 (utf8 verifier))).toList.rdropWhile (· == '='))

/-- `pkce.pack_state_payload` -/
def packStatePayload (state verifier : String) : String :=
  env.urlsafeB64encode (utf8 (env.jsonDumps (.obj [("state", .str state), ("verifier", .str verifier)])))

/-- `pkce.unpack_state_payload` -/
def unpackStatePayload (raw : Option String) : Option (String × String) :=
  match raw with
  | none | some "" => none
  | some raw =>
    match (env.urlsafeB64decode raw).bind env.jsonLoads with
    | some (.obj payload) =>
      match getJson payload "state", getJson payload "verifier" with
      | .str state, .str verifier => some (state, verifier)
      | _, _ => none
    | _ => none

end BackendEnv

/-- `pkce.states_match` -/
def statesMatch (expected received : String) : Bool := received != "" && expected == received

/-! ### Dependencies -/

namespace BrowserRoutes

open RouteHandler

section Dependencies

variable (env : BackendEnv) (settings : AuthSettings) (app : AppState) (r : BrowserRequest)

/-- What the providers raise is a `RuntimeError`. -/
def provided (found : Bool) : RouteHandler Unit := if found then return () else throw .unexpected

def provideSessionRepository : RouteHandler Unit := do
  provided (settings.sessionTokenEncryptionKey.any env.fernetKey)
  provided app.dbPool

def provideIdentityMapper : RouteHandler Unit := provided app.dbPool

def provideSupabaseAuthClient : RouteHandler SupabaseAuthClient :=
  match app.supabaseAuthClient with
  | some client => return client
  | none => throw .unexpected

/-- The principal has no roles and no scopes yet. -/
def getCurrentPrincipal : RouteHandler AuthContext := do
  provideSessionRepository env settings app
  match r.cookie settings.sessionCookieName with
  | none | some "" => throw (.app .authenticationRequired)
  | some sessionToken =>
    let session ← getSession env.toAdapterEnv sessionToken
    touchSession env.toAdapterEnv sessionToken settings.sessionIdleTtlSeconds
    return ⟨session.userId, session.tenantId, session.sessionInternalId, session.email, [], []⟩

/-- The dependency `verify_csrf`. -/
def requireCsrf : RouteHandler Unit :=
  if verifyCsrf (r.header settings.csrfHeaderName) (r.cookie settings.csrfCookieName) then return ()
  else throw (.app (.csrfValidation "CSRF validation failed"))

/-- The query parameters of the callback. -/
def callbackParams : RouteHandler (String × String) :=
  match r.code, r.state with
  | some code, some state => return (code, state)
  | some _, none => throw (.requestValidation (env.missingErrors ["state"]))
  | none, some _ => throw (.requestValidation (env.missingErrors ["code"]))
  | none, none => throw (.requestValidation (env.missingErrors ["code", "state"]))

end Dependencies

/-! ### The routes -/

/-- `_gotrue_expiry` -/
def gotrueExpiry (tokens : GoTrueTokenSet) : RouteHandler Int := do
  match datetimeAfter (← datetimeNow) tokens.expiresIn with
  | .ok gotrueExpiresAt => return gotrueExpiresAt
  | .error e => throw e.routeException

def generateSessionToken : RouteHandler String := tokenUrlsafe 32

def generateCsrfToken : RouteHandler String := tokenUrlsafe 32

section Routes

variable (env : BackendEnv) (settings : AuthSettings) (app : AppState) (r : BrowserRequest) (requestId : String)

def login : RouteHandler HttpResponse := do
  let client ← provideSupabaseAuthClient app
  let verifier ← tokenUrlsafe 64
  let state ← tokenUrlsafe 32
  let authorizeUrl := client.buildAuthorizeUrl env (env.codeChallengeS256 verifier) state
  return (redirectResponse authorizeUrl).with (settings.setPkceStateCookie (env.packStatePayload state verifier))

/-- The verifier of the login, where the state of the callback is that of its cookie. -/
def callbackVerifier (state : String) : RouteHandler String :=
  match env.unpackStatePayload (r.cookie settings.pkceStateCookieName) with
  | none => throw (.app (.csrfValidation "Login state cookie missing or corrupt"))
  | some (expectedState, verifier) =>
    if statesMatch expectedState state then return verifier
    else throw (.app (.csrfValidation "OAuth state mismatch"))

/-- The arguments of `session_repository.create`. -/
def createParams (sessionToken : String) (identity : InternalIdentity) (tokens : GoTrueTokenSet)
    (gotrueExpiresAt : Int) : CreateParams where
  sessionToken := sessionToken
  userId := identity.userId
  tenantId := identity.tenantId
  accessToken := tokens.accessToken
  refreshToken := tokens.refreshToken
  gotrueExpiresAt := some gotrueExpiresAt
  absoluteTtlSeconds := settings.sessionAbsoluteTtlSeconds
  idleTtlSeconds := settings.sessionIdleTtlSeconds
  userAgent := r.header "user-agent"
  ip := r.clientHost

def callback : RouteHandler HttpResponse := do
  let client ← provideSupabaseAuthClient app
  provideIdentityMapper app
  provideSessionRepository env settings app
  let (code, state) ← callbackParams env r
  let verifier ← callbackVerifier env settings r state
  let tokens ← client.exchangeCode env code verifier
  let user ← client.getUser env tokens.accessToken
  let identity ← mapIdentity env "supabase" user.id user.email settings.identityAutoProvision
  let sessionToken ← generateSessionToken
  let gotrueExpiresAt ← gotrueExpiry tokens
  createSession env.toAdapterEnv (createParams settings r sessionToken identity tokens gotrueExpiresAt)
  let csrfToken ← generateCsrfToken
  return (((redirectResponse settings.frontendPostLoginUrl).with (settings.setSessionCookie sessionToken)).with
    (settings.setCsrfCookie csrfToken)).with settings.clearPkceStateCookie

/-- `request.cookies.get(settings.session_cookie_name) or ""` -/
def sessionTokenOf : String := (r.cookie settings.sessionCookieName).getD ""

/-- The arguments of `session_repository.rotate`. -/
def rotateParams (sessionToken newSessionToken : String) (tokens : GoTrueTokenSet) (gotrueExpiresAt : Int) :
    RotateParams where
  oldSessionToken := sessionToken
  newSessionToken := newSessionToken
  accessToken := tokens.accessToken
  refreshToken := tokens.refreshToken
  gotrueExpiresAt := some gotrueExpiresAt
  idleTtlSeconds := settings.sessionIdleTtlSeconds

def refresh : RouteHandler HttpResponse := do
  requireCsrf settings r
  let _principal ← getCurrentPrincipal env settings app r
  let client ← provideSupabaseAuthClient app
  let sessionToken := sessionTokenOf settings r
  let current ← getSession env.toAdapterEnv sessionToken
  let tokens ← client.refresh env current.gotrueRefreshToken
  let newSessionToken ← generateSessionToken
  let gotrueExpiresAt ← gotrueExpiry tokens
  rotateSession env.toAdapterEnv (rotateParams settings sessionToken newSessionToken tokens gotrueExpiresAt)
  let csrfToken ← generateCsrfToken
  return ((jsonResponse 200 (apiSuccess requestId (.obj [("rotated", .bool true)]))).with
    (settings.setSessionCookie newSessionToken)).with (settings.setCsrfCookie csrfToken)

/-- `except (InvalidSessionError, SessionExpiredError)` -/
def sessionGone : RouteException → Bool
  | .app error => error.code == "INVALID_SESSION" || error.code == "SESSION_EXPIRED"
  | _ => false

/-- `except OAuthExchangeError` -/
def oauthExchangeFailed : RouteException → Bool
  | .app error => error.code == "OAUTH_EXCHANGE_FAILED"
  | _ => false

/-- The session to log out of at GoTrue. -/
def currentSession (sessionToken : String) : RouteHandler (Option ActiveSessionDTO) :=
  tryCatch (do return some (← getSession env.toAdapterEnv sessionToken)) fun e =>
    if sessionGone e then return none else throw e

/-- The logout at GoTrue, which may fail. -/
def gotrueLogout (client : SupabaseAuthClient) (current : ActiveSessionDTO) : RouteHandler Unit :=
  tryCatch (client.logout env current.gotrueAccessToken) fun e =>
    if oauthExchangeFailed e then return () else throw e

def logout : RouteHandler HttpResponse := do
  requireCsrf settings r
  let _principal ← getCurrentPrincipal env settings app r
  let client ← provideSupabaseAuthClient app
  let sessionToken := sessionTokenOf settings r
  match ← currentSession env sessionToken with
  | some current => gotrueLogout env client current
  | none => pure ()
  revokeSession env.toAdapterEnv sessionToken
  return ((jsonResponse 200 (apiSuccess requestId (.obj [("logged_out", .bool true)]))).with
    settings.clearSessionCookie).with settings.clearCsrfCookie

def me : RouteHandler HttpResponse := do
  let principal ← getCurrentPrincipal env settings app r
  return jsonResponse 200 (apiSuccess requestId (.obj [("user_id", .str principal.userId),
    ("tenant_id", .str principal.tenantId), ("email", .ofOption .str principal.email),
    ("scopes", .arr (principal.scopes.map .str))]))

def handle : RouteHandler HttpResponse :=
  match r.route with
  | .login => login env settings app
  | .callback => callback env settings app r
  | .refresh => refresh env settings app r requestId
  | .logout => logout env settings app r requestId
  | .me => me env settings app r requestId

/-- `request.headers.get("X-Request-ID") or uuid.uuid4().hex` -/
def requestIdOf : RouteHandler String :=
  match r.header "X-Request-ID" with
  | none | some "" => uuidHex
  | some requestId => return requestId

/-- The route, with the exception handlers around it. -/
def respond : RouteHandler HttpResponse := do
  let requestId ← requestIdOf r
  tryCatch (handle env settings app r requestId) fun e =>
    return e.response ⟨settings.apiPrefix ++ r.route.path, r.route.method, requestId⟩

end Routes

/-- The responses to a sequence of requests. -/
def serve (env : BackendEnv) (settings : AuthSettings) (app : AppState) (requests : List BrowserRequest) :
    RouteHandler (List HttpResponse) := requests.mapM (respond env settings app)

end BrowserRoutes

end CleanBackend
