import CleanBackend.Core.ErrorEnvelope
import CleanBackend.Database.IdentityFunction

/-!
# The calls of a request handler

A handler of the auth routes draws random texts, reads the clock, sends requests to GoTrue and calls the database
through `AsyncpgSessionRepository` and `AsyncpgIdentityMapper`.  What each call meets (`Service`) is given in advance,
in the order of the calls; what a call does to the database is computed, and every call is logged with what it has
met.  What the repository does not contain (httpx, pydantic, `urllib`, `base64`, `json`) is a `BackendEnv`.
-/

namespace CleanBackend

/-- Why httpx has no response. -/
inductive HttpFailure where
  /-- `httpx.HTTPError` -/
  | httpError (errorType : String)
  | other
  deriving DecidableEq, Repr

/-- What the handlers stand on besides the adapter. -/
structure BackendEnv extends AdapterEnv where
  /-- what httpx raises on a header value that it does not send -/
  refusedHeader : String → Option HttpFailure
  urlencode : PyDict String String → String
  urlsafeB64encode : Bytea → String
  urlsafeB64decode : String → Option Bytea
  jsonDumps : Json → String
  jsonLoads : Bytea → Option Json
  /-- an `int` field of pydantic, for a value that is no container -/
  intField : Json → Option Int
  /-- `str(value)`, where `value` is no `str` -/
  strOf : Json → String
  /-- the `errors()` for missing query parameters -/
  missingErrors : List String → Json
  /-- `Fernet(key)` accepts the key -/
  fernetKey : String → Bool

/-- `str(value)` -/
def BackendEnv.pyStr (env : BackendEnv) : Json → String
  | .str s => s
  | value => env.strOf value

/-! ### What a call meets -/

structure GoTrueRequest where
  method : String
  url : String
  json : Option Json
  headers : PyDict String String

/-- How a request to GoTrue ends; the body is `none` where `response.json()` raises a `ValueError`. -/
inductive GoTrueOutcome where
  | failed (failure : HttpFailure)
  | answered (status : Nat) (body : Option Json)

/-- How the driver meets a database call. -/
inductive DriverFate where
  | served
  /-- the statement has not run -/
  | refused (error : DriverError)
  /-- the statement has run, its result is lost -/
  | answerLost (error : DriverError)
  deriving DecidableEq, Repr

/-- What one call meets: the clock, what is drawn, how the driver and GoTrue meet it. -/
structure Service where
  now : Int
  /-- `secrets.token_urlsafe(nbytes)` -/
  tokenUrlsafe : (nbytes : Nat) → String
  /-- `uuid.uuid4()` -/
  uuid : Uuid
  /-- the row id and the encryptions of a session call -/
  draws : Draws
  /-- the row ids of `map_identity`, and the row its `LIMIT 1` takes -/
  userId : Uuid
  tenantId : Uuid
  pick : Nat
  fate : DriverFate
  gotrue : GoTrueOutcome

/-- What a handler calls. -/
inductive HandlerCall where
  /-- a random value, or the clock -/
  | draw
  | goTrue (request : GoTrueRequest)
  | session (call : RepositoryCall)
  | identity (provider subject : String) (email : Option String) (provision : Bool)

/-- A call with what it has met. -/
structure LoggedCall where
  call : HandlerCall
  service : Service

structure ServerState where
  db : Database
  /-- what the calls to come meet -/
  meets : Nat → Service
  /-- the calls so far -/
  log : List LoggedCall

/-- A handler raises, or ends with a value. -/
abbrev RouteHandler := EStateM RouteException ServerState

/-! ### The calls -/

namespace RouteHandler

/-- What the call meets; it is logged. -/
def nextService (call : HandlerCall) : RouteHandler Service := do
  let s ← get
  set (⟨s.db, fun n => s.meets (n + 1), s.log ++ [⟨call, s.meets 0⟩]⟩ : ServerState)
  return s.meets 0

def tokenUrlsafe (nbytes : Nat) : RouteHandler String := do return (← nextService .draw).tokenUrlsafe nbytes

/-- `uuid.uuid4().hex` -/
def uuidHex : RouteHandler String := do return String.ofList (hexOfNat 32 (← nextService .draw).uuid.toNat)

/-- `datetime.now(UTC)` -/
def datetimeNow : RouteHandler Int := do return (← nextService .draw).now

/-- `httpx.AsyncClient.request` -/
def httpRequest (env : BackendEnv) (request : GoTrueRequest) : RouteHandler GoTrueOutcome :=
  match request.headers.findSome? fun header => env.refusedHeader header.2 with
  | some failure => return .failed failure
  | none => do return (← nextService (.goTrue request)).gotrue

/-- A database call that leads to `db` with `result`. -/
def driverCall {α : Type} (fate : DriverFate) (db : Database) (result : Except RouteException α) : RouteHandler α :=
  match fate with
  | .served => do
    modify fun s => { s with db }
    match result with
    | .error e => throw e
    | .ok value => return value
  | .refused e => throw e.routeException
  | .answerLost e => do
    modify fun s => { s with db }
    throw e.routeException

/-- A `ValidationError` of pydantic is no `AppError`. -/
def validated {α : Type} : Option α → RouteHandler α
  | some value => return value
  | none => throw .unexpected

end RouteHandler

/-! ### The session repository -/

def RepositoryAnswer.result : RepositoryAnswer → Except RouteException RepositoryAnswer
  | raised e => .error e.routeException
  | answer => .ok answer

namespace RouteHandler

def repositoryCall (env : AdapterEnv) (call : RepositoryCall) : RouteHandler RepositoryAnswer := do
  let service ← nextService (.session call)
  let (db, answer) := env.exec (← get).db service.now service.draws call
  driverCall service.fate db answer.result

section SessionCalls

variable (env : AdapterEnv)

def createSession (params : CreateParams) : RouteHandler Unit := do
  let _created ← repositoryCall env (.create params)
  return ()

def getSession (sessionToken : String) : RouteHandler ActiveSessionDTO := do
  match ← repositoryCall env (.get sessionToken) with
  | .session dto => return dto
  | _ => throw .unexpected

def touchSession (sessionToken : String) (idleTtlSeconds : Int) : RouteHandler Unit := do
  let _touched ← repositoryCall env (.touch sessionToken idleTtlSeconds)
  return ()

def rotateSession (params : RotateParams) : RouteHandler Unit := do
  let _created ← repositoryCall env (.rotate params)
  return ()

def revokeSession (sessionToken : String) : RouteHandler Unit := do
  let _revoked ← repositoryCall env (.revoke sessionToken)
  return ()

end SessionCalls

end RouteHandler

/-! ### The identity mapper -/

structure InternalIdentity where
  userId : String
  tenantId : String
  email : Option String
  deriving DecidableEq, Repr

/-- The envelope of `app.map_identity`. -/
def identityEnvelope : Except SqlError MapReply → Except SqlError Json
  | .error e => .error e
  | .ok (.error e) => .ok (appError e)
  | .ok (.ok data) => .ok (appOk (.obj [("user_id", .str (uuidText data.userId)),
      ("tenant_id", .str (uuidText data.tenantId)), ("email", .ofOption .str data.email)]))

/-- `InternalIdentity(…)`; what it raises is no `AppError`. -/
def BackendEnv.internalIdentity (env : BackendEnv) (data : PyDict String Json) :
    Except RouteException InternalIdentity :=
  match PyDict.get data "user_id", PyDict.get data "tenant_id", optionalField strField (PyDict.get data "email") with
  | some userId, some tenantId, .ok email => .ok ⟨env.pyStr userId, env.pyStr tenantId, email⟩
  | _, _, _ => .error .unexpected

/-- `_IDENTITY_ERROR_CODES` -/
def identityErrorCodes : List String := ["IDENTITY_NOT_FOUND", "PROVISIONING_DISABLED", "NO_ACTIVE_TENANT"]

def identityError (code : Json) : AppError :=
  if code.str?.any (· ∈ identityErrorCodes) then .identityMapping [("db_code", code)]
  else .databaseResult "map_identity reported an error" [("code", code)]

/-- What `AsyncpgIdentityMapper` makes of the envelope. -/
def BackendEnv.readIdentity (env : BackendEnv) : Except SqlError Json → Except RouteException InternalIdentity
  | .error e => .error (mapAsyncpgError e).routeException
  | .ok (.obj envelope) =>
    if ((PyDict.get envelope "success").elim false Json.truthy) then
      match PyDict.get envelope "data" with
      | some (.obj data) => env.internalIdentity data
      | _ => .error .unexpected
    else
      let error := (PyDict.get envelope "error").getD .null
      match if error.truthy then error else .obj [] with
      | .obj error => .error (.app (identityError ((PyDict.get error "code").getD .null)))
      | _ => .error .unexpected
  | .ok _ => .error (.app (.databaseResult "map_identity returned a non-envelope result" []))

/-- The call of `app.map_identity`, with the row ids that it draws. -/
def Service.mapIdentityCall (service : Service) (provider subject : String) (email : Option String)
    (provision : Bool) : MapIdentityCall :=
  ⟨provider, subject, email, provision, service.userId, service.tenantId⟩

/-- `AsyncpgIdentityMapper.map_identity` -/
def RouteHandler.mapIdentity (env : BackendEnv) (provider subject : String) (email : Option String)
    (provision : Bool) : RouteHandler InternalIdentity := do
  let service ← nextService (.identity provider subject email provision)
  let call := service.mapIdentityCall provider subject email provision
  let (db, reply) := (← get).db.mapIdentity service.now call service.pick
  driverCall service.fate db (env.readIdentity (identityEnvelope reply))

end CleanBackend
