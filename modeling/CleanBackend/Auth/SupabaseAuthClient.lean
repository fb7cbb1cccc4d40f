import CleanBackend.Auth.AuthRoutes
import CleanBackend.Auth.HandlerCalls
import Mathlib.Data.List.DropRight

/-!
# The GoTrue client

`SupabaseAuthClient` of `auth/supabase_auth_client.py`: the authorize URL, and the four requests with what the client
makes of their answers.  A failed request and an answer from 400 on raise `OAuthExchangeError` with safe details; an
answer on which `response.json()` raises, or that is not of the expected shape, raises an exception that nothing
catches.
-/

namespace CleanBackend

structure SupabaseAuthClient where
  projectUrl : String
  anonKey : String
  redirectUri : String
  provider : String
  deriving DecidableEq, Repr

structure GoTrueUser where
  id : String
  email : Option String
  deriving DecidableEq, Repr

/-- `path.split("?")[0]` -/
def operationOf (path : String) : String := String.ofList (path.toList.takeWhile (· ≠ '?'))

/-- `d.get(key)` of a dictionary read from JSON, with `None` for a missing key. -/
def getJson (d : PyDict String Json) (key : String) : Json := (PyDict.get d key).getD .null

/-- `a or b` -/
def Json.or (a b : Json) : Json := if a.truthy then a else b

/-- `body.get("error_code") or body.get("error") or body.get("msg")` -/
def rawCode : Option Json → Json
  | some (.obj body) => ((getJson body "error_code").or (getJson body "error")).or (getJson body "msg")
  | _ => .null

namespace BackendEnv

variable (env : BackendEnv)

/-- The `provider_code` of an error body. -/
def providerCode (body : Option Json) : Json :=
  match rawCode body with
  | .null => .null
  | raw => .str (env.pyStr raw)

/-- `_safe_error_details` -/
def safeErrorDetails (status : Nat) (body : Option Json) (path : String) : PyDict String Json :=
  [("status", .num status 0), ("provider_code", env.providerCode body), ("operation", .str (operationOf path))]

/-- An `int` field of pydantic. -/
def validInt : Json → Option Int
  | .arr _ | .obj _ => none
  | value => env.intField value

/-- `GoTrueTokenSet(**data)`, and `none` for a `ValidationError`. -/
def goTrueTokenSet (data : PyDict String Json) : Option GoTrueTokenSet := do
  let accessToken ← (getJson data "access_token").str?
  let refreshToken ← (getJson data "refresh_token").str?
  let expiresIn ← env.validInt ((PyDict.get data "expires_in").getD (.num 3600 0))
  let _tokenType ← ((PyDict.get data "token_type").getD (.str "bearer")).str?
  return ⟨accessToken, refreshToken, expiresIn⟩

end BackendEnv

/-- `GoTrueUser(**data)`, and `none` for a `ValidationError`. -/
def goTrueUser (data : PyDict String Json) : Option GoTrueUser :=
  match (getJson data "id").str?, getJson data "email" with
  | some id, .null => some ⟨id, none⟩
  | some id, .str email => some ⟨id, some email⟩
  | _, _ => none

namespace SupabaseAuthClient

open RouteHandler

variable (env : BackendEnv) (client : SupabaseAuthClient)

/-- `self._base` -/
def base : String := String.ofList (client.projectUrl.toList.rdropWhile (· == '/')) ++ "/auth/v1"

def buildAuthorizeUrl (codeChallenge state : String) : String :=
  let query := env.urlencode [("provider", client.provider), ("redirect_to", client.redirectUri),
    ("response_type", "code"), ("code_challenge", codeChallenge), ("code_challenge_method", "S256"), ("state", state)]
  client.base ++ "/authorize?" ++ query

/-- `_request` -/
def request (method path : String) (json : Option Json) (headers : PyDict String String) (expectJson : Bool) :
    RouteHandler (PyDict String Json) := do
  let requestHeaders := PyDict.update [("apikey", client.anonKey)] headers
  match ← httpRequest env ⟨method, client.base ++ path, json, requestHeaders⟩ with
  | .failed (.httpError errorType) =>
    throw (.app (.oauthExchange [("error_type", .str errorType), ("operation", .str (operationOf path))]))
  | .failed .other => throw .unexpected
  | .answered status body =>
    if 400 ≤ status then throw (.app (.oauthExchange (env.safeErrorDetails status body path)))
    else if ¬ expectJson then return []
    else
      match body with
      | none => throw .unexpected
      | some (.obj body) => return body
      | some _ => return []

/-- `_post_json` -/
def postJson (path : String) (json : Json) : RouteHandler (PyDict String Json) :=
  client.request env "POST" path (some json) [] true

/-- `{"Authorization": f"Bearer {access_token}"}` -/
def bearer (accessToken : String) : PyDict String String := [("Authorization", "Bearer " ++ accessToken)]

def exchangeCode (code codeVerifier : String) : RouteHandler GoTrueTokenSet := do
  let payload := .obj [("auth_code", .str code), ("code_verifier", .str codeVerifier)]
  validated (env.goTrueTokenSet (← client.postJson env "/token?grant_type=pkce" payload))

def refresh (refreshToken : String) : RouteHandler GoTrueTokenSet := do
  let payload := .obj [("refresh_token", .str refreshToken)]
  validated (env.goTrueTokenSet (← client.postJson env "/token?grant_type=refresh_token" payload))

def logout (accessToken : String) : RouteHandler Unit := do
  let _empty ← client.request env "POST" "/logout" none (bearer accessToken) false
  return ()

def getUser (accessToken : String) : RouteHandler GoTrueUser := do
  validated (goTrueUser (← client.request env "GET" "/user" none (bearer accessToken) true))

end SupabaseAuthClient

end CleanBackend
