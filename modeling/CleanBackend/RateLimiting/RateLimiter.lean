import CleanBackend.Lib.PyDict
import Mathlib.Data.Rat.Floor

/-!
# The rate limiter

`RateLimiter.check` asks a backend for the count of a key and `enforce` raises on denial.  A backend is stateful and
reads the clock: it is a function of its state, the time, the key, the limit and the window.  Times are rationals, in
seconds.  When the backend fails, the rule's own fail mode decides, or else the limiter's default.
-/

namespace CleanBackend

/-! ### Rules and keys -/

inductive RateLimitScope where
  | ip | user | tenant | route | action | resource
deriving DecidableEq, Repr

def RateLimitScope.value : RateLimitScope → String
  | ip => "ip"
  | user => "user"
  | tenant => "tenant"
  | route => "route"
  | action => "action"
  | resource => "resource"

structure RateLimitRule where
  name : String
  limit : Int
  windowSeconds : Int
  scope : RateLimitScope
  failOpen : Option Bool := none
deriving DecidableEq, Repr

def keyPrefix : String := "app"

def separator : Char := ':'

def namespaceRateLimit : String := "rl"

/-- `part.replace(SEPARATOR, "_")` -/
def cleanPart (part : String) : String := String.ofList (part.toList.map fun c => if c = separator then '_' else c)

def cacheKey (ns : String) (parts : List String) : String :=
  separator.toString.intercalate (keyPrefix :: ns :: parts.map cleanPart)

/-- `RateLimitKeyBuilder.build` -/
def RateLimitKeyBuilder.build (rule : RateLimitRule) (identifier : String) : String :=
  cacheKey namespaceRateLimit [rule.name, rule.scope.value, identifier]

/-! ### The error -/

structure RateLimitExceededError where
  message : String
  details : PyDict String String
  retryAfter : Int
  limit : Option Int
  remaining : Int
deriving DecidableEq, Repr

namespace RateLimitExceededError

def defaultMessage : String := "Rate limit exceeded"

/-- The constructor, with `message or self.default_message`. -/
def new (message : Option String) (details : PyDict String String) (retryAfter : Int) (limit : Option Int)
    (remaining : Int) : RateLimitExceededError where
  message := (message.filter (· ≠ "")).getD defaultMessage
  details := details
  retryAfter := max 1 retryAfter
  limit := limit
  remaining := max 0 remaining

/-- `rate_limit_headers(exc)` -/
def rateLimitHeaders (exc : RateLimitExceededError) : PyDict String String :=
  let headers : PyDict String String :=
    [("Retry-After", toString exc.retryAfter), ("X-RateLimit-Remaining", toString exc.remaining),
      ("X-RateLimit-Reset", toString exc.retryAfter)]
  match exc.limit with
  | some limit => headers.set "X-RateLimit-Limit" (toString limit)
  | none => headers

end RateLimitExceededError

/-! ### The limiter over a backend -/

structure BackendResult where
  count : Int
  remaining : Int
  resetAfterSeconds : Int
deriving DecidableEq, Repr

/-- `RateLimiterBackendProtocol`: the answer, or the type of the exception, and the state after the check. -/
structure RateLimiterBackend (σ : Type) where
  check (state : σ) (now : ℚ) (key : String) (limit windowSeconds : Int) : Except String BackendResult × σ

structure BackendCall where
  now : ℚ
  key : String
  limit : Int
  windowSeconds : Int
deriving DecidableEq, Repr

namespace RateLimiterBackend

variable {σ : Type} (B : RateLimiterBackend σ)

def checkCall (state : σ) (c : BackendCall) : Except String BackendResult × σ :=
  B.check state c.now c.key c.limit c.windowSeconds

/-- The answer to each check. -/
def checkAll : σ → List BackendCall → List (Except String BackendResult)
  | _, [] => []
  | state, c :: cs => (B.checkCall state c).1 :: checkAll (B.checkCall state c).2 cs

/-- The state after the checks. -/
def afterAll (state : σ) (cs : List BackendCall) : σ := cs.foldl (fun state c => (B.checkCall state c).2) state

end RateLimiterBackend

structure RateLimitDecision where
  allowed : Bool
  limit : Int
  remaining : Int
  resetAfterSeconds : Int
deriving DecidableEq, Repr

structure RateLimiter (σ : Type) where
  backend : RateLimiterBackend σ
  defaultFailOpen : Bool := true

namespace RateLimiter

variable {σ : Type} (L : RateLimiter σ)

def check (state : σ) (now : ℚ) (rule : RateLimitRule) (identifier : String) :
    Except RateLimitExceededError RateLimitDecision × σ :=
  let key := RateLimitKeyBuilder.build rule identifier
  match L.backend.check state now key rule.limit rule.windowSeconds with
  | (.ok result, state) =>
    (.ok {
      allowed := decide (result.count ≤ rule.limit)
      limit := rule.limit
      remaining := result.remaining
      resetAfterSeconds := result.resetAfterSeconds }, state)
  | (.error _, state) =>
    let failOpen := rule.failOpen.getD L.defaultFailOpen
    if failOpen then
      (.ok { allowed := true, limit := rule.limit, remaining := rule.limit, resetAfterSeconds := 0 }, state)
    else
      (.error (.new "Rate limiting unavailable for a protected action"
        [("rule", rule.name), ("reason", "backend_unavailable")] rule.windowSeconds rule.limit 0), state)

/-- `check` that raises on denial. -/
def enforce (state : σ) (now : ℚ) (rule : RateLimitRule) (identifier : String) :
    Except RateLimitExceededError RateLimitDecision × σ :=
  match L.check state now rule identifier with
  | (.ok decision, state) =>
    if decision.allowed then (.ok decision, state)
    else
      (.error (.new none [("rule", rule.name)] decision.resetAfterSeconds decision.limit decision.remaining), state)
  | (.error exc, state) => (.error exc, state)

end RateLimiter

/-! ### Calls in a row -/

abbrev RateLimitOutcome := Except RateLimitExceededError RateLimitDecision

structure RateLimitCall where
  now : ℚ
  rule : RateLimitRule
  identifier : String
deriving DecidableEq, Repr

def RateLimitCall.key (c : RateLimitCall) : String := RateLimitKeyBuilder.build c.rule c.identifier

namespace RateLimiter

variable {σ : Type} (L : RateLimiter σ)

def enforceCall (state : σ) (c : RateLimitCall) : RateLimitOutcome × σ := L.enforce state c.now c.rule c.identifier

/-- The outcome of each call. -/
def enforceAll : σ → List RateLimitCall → List (RateLimitCall × RateLimitOutcome)
  | _, [] => []
  | state, c :: cs => (c, (L.enforceCall state c).1) :: enforceAll (L.enforceCall state c).2 cs

/-- The state after the calls. -/
def afterAll (state : σ) (cs : List RateLimitCall) : σ := cs.foldl (fun state c => (L.enforceCall state c).2) state

end RateLimiter

/-! ### What a call comes to -/

/-- The outcome of `enforce` on what the backend answers. -/
def RateLimitRule.judge (rule : RateLimitRule) (result : BackendResult) : RateLimitOutcome :=
  if result.count ≤ rule.limit then
    .ok ⟨true, rule.limit, result.remaining, result.resetAfterSeconds⟩
  else
    .error (.new none [("rule", rule.name)] result.resetAfterSeconds rule.limit result.remaining)

namespace RateLimiter

variable {σ : Type} {L : RateLimiter σ}

/-- Over a backend that answers, `enforce` judges the answer. -/
theorem enforce_of_ok {state state' : σ} {now : ℚ} {rule : RateLimitRule} {identifier : String}
    {result : BackendResult}
    (h : L.backend.check state now (RateLimitKeyBuilder.build rule identifier) rule.limit rule.windowSeconds =
      (.ok result, state')) :
    L.enforce state now rule identifier = (rule.judge result, state') := by
  simp only [enforce, check, RateLimitRule.judge, h]
  by_cases hc : result.count ≤ rule.limit <;> simp [hc]

/-- A failing backend admits nothing that the effective fail mode does not, and it never counts. -/
theorem enforce_of_error {state state' : σ} {now : ℚ} {rule : RateLimitRule} {identifier errorType : String}
    (h : L.backend.check state now (RateLimitKeyBuilder.build rule identifier) rule.limit rule.windowSeconds =
      (.error errorType, state')) :
    (L.enforce state now rule identifier).2 = state' ∧
      ((L.enforce state now rule identifier).1.isOk ↔ rule.failOpen.getD L.defaultFailOpen) := by
  simp only [enforce, check, h]
  by_cases hf : rule.failOpen.getD L.defaultFailOpen <;> simp [hf, Except.isOk, Except.toBool]

end RateLimiter

end CleanBackend
