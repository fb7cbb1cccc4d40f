import CleanBackend.Auth.AsyncpgSessionRepository
import CleanBackend.Lib.PyStr
import Mathlib.Data.List.Infix

/-!
# Errors and their envelope

The error family of `core/errors` and `auth/exceptions.py`, the envelope `{success, data, error, meta}` with its
redaction, and the exception handlers, which turn what a route raises into a response.  A response is what the browser
sees of it: the status, the body, the `Location` and the `Set-Cookie` headers.
-/

namespace CleanBackend

/-! ### The error family -/

inductive ErrorCategory where
  | auth
  | validation
  | notFound
  | conflict
  | rateLimit
  | database
  | external
  | internal
  | http
  deriving DecidableEq, Repr

def ErrorCategory.value : ErrorCategory → String
  | auth => "auth"
  | validation => "validation"
  | notFound => "not_found"
  | conflict => "conflict"
  | rateLimit => "rate_limit"
  | database => "database"
  | external => "external"
  | internal => "internal"
  | http => "http"

structure AppError where
  code : String
  httpStatus : Nat
  category : ErrorCategory
  message : String
  details : PyDict String Json

namespace AppError

def authenticationRequired : AppError := ⟨"AUTHENTICATION_REQUIRED", 401, .auth, "Authentication required", []⟩

def invalidSession (details : PyDict String Json) : AppError :=
  ⟨"INVALID_SESSION", 401, .auth, "Session is invalid", details⟩

def sessionExpired : AppError := ⟨"SESSION_EXPIRED", 401, .auth, "Session has expired", []⟩

def forbidden (message : String) (details : PyDict String Json) : AppError :=
  ⟨"FORBIDDEN", 403, .auth, message, details⟩

def notFound : AppError := ⟨"NOT_FOUND", 404, .notFound, "Resource not found", []⟩

def csrfValidation (message : String) : AppError := ⟨"CSRF_VALIDATION_FAILED", 403, .auth, message, []⟩

def oauthExchange (details : PyDict String Json) : AppError :=
  ⟨"OAUTH_EXCHANGE_FAILED", 502, .external, "Authentication provider request failed", details⟩

def identityMapping (details : PyDict String Json) : AppError :=
  ⟨"IDENTITY_MAPPING_FAILED", 500, .internal, "Identity could not be mapped to an internal user", details⟩

def conflict (message : String) (details : PyDict String Json) : AppError :=
  ⟨"CONFLICT", 409, .conflict, message, details⟩

def databaseConnection (details : PyDict String Json) : AppError :=
  ⟨"DATABASE_CONNECTION_ERROR", 500, .database, "Database connection failed", details⟩

def databaseOperation (details : PyDict String Json) : AppError :=
  ⟨"DATABASE_OPERATION_ERROR", 500, .database, "Database operation failed", details⟩

def databaseResult (message : String) (details : PyDict String Json) : AppError :=
  ⟨"DATABASE_RESULT_ERROR", 500, .database, message, details⟩

end AppError

/-- What a route may raise. -/
inductive RouteException where
  | app (error : AppError)
  /-- `RequestValidationError`, with its `errors()` -/
  | requestValidation (errors : Json)
  /-- an exception of any other class -/
  | unexpected

/-- The exception behind an error of the session repository. -/
def RepositoryError.routeException : RepositoryError → RouteException
  | invalidSession dbCode => .app (.invalidSession [("db_code", .str dbCode)])
  | sessionExpired => .app .sessionExpired
  | identityMapping dbCode => .app (.identityMapping [("db_code", .str dbCode)])
  | databaseResult "Session function returned a non-envelope result" _ =>
    .app (.databaseResult "Session function returned a non-envelope result" [])
  | databaseResult message code => .app (.databaseResult message [("code", .ofOption .str code)])
  | conflict constraint => .app (.conflict "Resource already exists" [("constraint", .str constraint)])
  | databaseOperation errorType sqlstate =>
    .app (.databaseOperation [("error_type", .str errorType), ("sqlstate", .str sqlstate)])
  | valueError | keyError _ | attributeError | overflowError | decryptFailed => .unexpected

/-- What the driver raises before it has a result. -/
inductive DriverError where
  /-- `asyncpg.PostgresConnectionError` -/
  | connection (errorType : String)
  /-- any other `asyncpg.PostgresError` -/
  | postgres (errorType : String) (sqlstate : Option String)
  /-- what is no `PostgresError`: `OSError`, `TimeoutError`, `asyncpg.InterfaceError` -/
  | other
  deriving DecidableEq, Repr

/-- `except asyncpg.PostgresError` with `map_asyncpg_error`. -/
def DriverError.routeException : DriverError → RouteException
  | connection errorType => .app (.databaseConnection [("error_type", .str errorType)])
  | postgres errorType sqlstate =>
    .app (.databaseOperation [("error_type", .str errorType), ("sqlstate", .ofOption .str sqlstate)])
  | other => .unexpected

/-! ### The envelope -/

/-- Some fragment of `_SENSITIVE_KEY_FRAGMENTS` is in the lower-case key. -/
def sensitiveKey (key : String) : Bool :=
  ["token", "password", "secret", "authorization"].any fun fragment => fragment.toList <:+: PyStr.lower key.toList

mutual

/-- `redact_sensitive` -/
def redactSensitive : List (String × Json) → List (String × Json)
  | [] => []
  | (key, value) :: details =>
    (key, if sensitiveKey key then .str "[REDACTED]" else redactValue value) :: redactSensitive details

/-- `_redact_value` -/
def redactValue : Json → Json
  | .obj entries => .obj (redactSensitive entries)
  | .arr items => .arr (redactItems items)
  | value => value

def redactItems : List Json → List Json
  | [] => []
  | item :: items => redactValue item :: redactItems items

end

/-- `dict.update` -/
def PyDict.update {ν : Type} (d e : PyDict String ν) : PyDict String ν :=
  e.foldl (fun d entry => d.set entry.1 entry.2) d

/-- `build_meta` -/
def buildMeta (requestId : String) (extra : PyDict String Json) : PyDict String Json :=
  PyDict.update [("request_id", .str requestId)] extra

def buildEnvelope (requestId : String) (success : Bool) (data error : Json) (extra : PyDict String Json) : Json :=
  .obj [("success", .bool success), ("data", data), ("error", error), ("meta", .obj (buildMeta requestId extra))]

def apiSuccess (requestId : String) (data : Json) : Json := buildEnvelope requestId true data .null []

def apiError (requestId code message : String) (details extra : PyDict String Json) : Json :=
  let error := [("code", .str code), ("message", .str message), ("details", .obj (redactSensitive details))]
  buildEnvelope requestId false .null (.obj error) extra

/-! ### Responses -/

inductive SameSite where
  | lax
  | strict
  | none
  deriving DecidableEq, Repr

/-- One `Set-Cookie` header: `response.set_cookie`, or `response.delete_cookie` with an empty value and no age. -/
structure SetCookie where
  key : String
  value : String
  maxAge : Int
  /-- `expires=0` -/
  expired : Bool
  path : String
  domain : Option String
  secure : Bool
  httponly : Bool
  samesite : SameSite
  deriving DecidableEq, Repr

structure HttpResponse where
  status : Nat
  body : Option Json
  location : Option String
  setCookies : List SetCookie

/-- `JSONResponse` -/
def jsonResponse (status : Nat) (content : Json) : HttpResponse := ⟨status, some content, none, []⟩

/-- `RedirectResponse(url, status_code=302)` -/
def redirectResponse (url : String) : HttpResponse := ⟨302, none, some url, []⟩

/-- What the handlers read of the request. -/
structure RequestContext where
  path : String
  method : String
  requestId : String
  deriving DecidableEq, Repr

/-- `_error_response` -/
def errorResponse (request : RequestContext) (status : Nat) (code message : String) (category : ErrorCategory)
    (details : PyDict String Json) : HttpResponse :=
  let extra := [("path", .str request.path), ("method", .str request.method), ("category", .str category.value),
    ("request_id", .str request.requestId)]
  jsonResponse status (apiError request.requestId code message details extra)

/-- The exception handlers. -/
def RouteException.response (request : RequestContext) : RouteException → HttpResponse
  | app error => errorResponse request error.httpStatus error.code error.message error.category error.details
  | requestValidation errors =>
    errorResponse request 422 "VALIDATION_ERROR" "Request validation failed" .validation [("errors", errors)]
  | unexpected => errorResponse request 500 "INTERNAL_ERROR" "Internal server error" .internal []

end CleanBackend
