import CleanBackend.Core.ErrorEnvelope
import CleanBackend.RateLimiting.Keys
import CleanBackend.RateLimiting.UnreliableBackend

/-!
# The middleware stack

`install_middleware` around any app: the request id, the access log, the security headers and the rate limit of the
client address, with the handler for unexpected exceptions outside of them.  The two stubs hand every request on, and
the request transaction (`Core.DbTransaction`) is part of the app here.  Requests are served concurrently: one passes
the limiter, is in flight while the app works on it, and is answered.  In every interleaving each request is answered
at most once, with one access event of the status that the client gets (`requests_accounted`), and the limiter bounds
how many requests of one address reach the app (`global_ceiling`).
-/

namespace CleanBackend

/-- A response and its headers, with their names in lower case; the content headers are left out. -/
structure StackResponse where
  response : HttpResponse
  headers : PyDict String String

namespace StackResponse

/-- `response.headers[name] = value` -/
def setHeader (r : StackResponse) (name value : String) : StackResponse :=
  { r with headers := r.headers.set name value }

/-- `headers.setdefault(name, value)` -/
def setDefault (r : StackResponse) (name value : String) : StackResponse :=
  if (r.headers.get name).isSome then r else r.setHeader name value

end StackResponse

/-- A request, the time at which the limiter checks it, and the `uuid4` that is drawn for it. -/
structure Arrival where
  now : ℚ
  uuid : String
  request : HttpRequest
  deriving DecidableEq, Repr

/-- The fields of `request_completed`; its duration is left out. -/
structure AccessEvent where
  requestId : String
  method : String
  path : String
  status : Nat
  deriving DecidableEq, Repr

def requestIdHeader : String := "x-request-id"

/-- `request.headers.get(REQUEST_ID_HEADER) or uuid.uuid4().hex` -/
def Arrival.requestId (a : Arrival) : String :=
  match a.request.getHeader requestIdHeader with
  | none | some "" => a.uuid
  | some requestId => requestId

/-- What the exception handlers see of a request. -/
def Arrival.context (a : Arrival) : RequestContext := ⟨a.request.path, a.request.method, a.requestId⟩

/-! ### The responses of the stack -/

def RateLimitExceededError.jsonDetails (exc : RateLimitExceededError) : PyDict String Json :=
  exc.details.map fun entry => (entry.1, .str entry.2)

def RateLimitExceededError.lowerHeaders (exc : RateLimitExceededError) : PyDict String String :=
  exc.rateLimitHeaders.map fun header => (header.1.toLower, header.2)

/-- `_rate_limited_response` -/
def rateLimitedResponse (request : HttpRequest) (requestId : String) (exc : RateLimitExceededError) : StackResponse :=
  let extra := [("path", .str request.path), ("method", .str request.method),
    ("category", .str ErrorCategory.rateLimit.value)]
  ⟨jsonResponse 429 (apiError requestId "RATE_LIMIT_EXCEEDED" exc.message exc.jsonDetails extra), exc.lowerHeaders⟩

/-- `handle_rate_limit_error` -/
def handleRateLimitError (request : RequestContext) (exc : RateLimitExceededError) : StackResponse :=
  ⟨errorResponse request 429 "RATE_LIMIT_EXCEEDED" exc.message .rateLimit exc.jsonDetails, exc.lowerHeaders⟩

/-- `handle_unexpected_error` -/
def handleUnexpectedError (request : RequestContext) : StackResponse :=
  ⟨RouteException.unexpected.response request, []⟩

/-! ### The middlewares -/

/-- What is inside of a middleware: it answers or raises, and it may log. -/
abbrev CallNext := List AccessEvent → Option StackResponse × List AccessEvent

/-- `RequestContextMiddleware` -/
def requestContextDispatch (requestId : String) (callNext : CallNext) : CallNext := fun log =>
  let (response, log) := callNext log
  (response.map fun r => r.setHeader requestIdHeader requestId, log)

/-- `HTTPLoggingMiddleware` -/
def httpLoggingDispatch (requestId : String) (request : HttpRequest) (callNext : CallNext) : CallNext := fun log =>
  let (response, log) := callNext log
  -- what the client sees if `call_next` raises
  let status := response.elim 500 (·.response.status)
  (response, log ++ [⟨requestId, request.method, request.path, status⟩])

def securityHeaders : List (String × String) :=
  [("strict-transport-security", "max-age=63072000; includeSubDomains"), ("x-frame-options", "DENY"),
    ("x-content-type-options", "nosniff"), ("referrer-policy", "no-referrer")]

/-- `SecurityHeadersMiddleware` -/
def securityHeadersDispatch (callNext : CallNext) : CallNext := fun log =>
  let (response, log) := callNext log
  (response.map fun r => securityHeaders.foldl (fun r header => r.setDefault header.1 header.2) r, log)

/-- The stack around the answer of the rate limit or of the app, and `ServerErrorMiddleware` around the stack. -/
def stackRespond (a : Arrival) (answer : Option StackResponse) (log : List AccessEvent) :
    StackResponse × List AccessEvent :=
  let stack := requestContextDispatch a.requestId
    (httpLoggingDispatch a.requestId a.request (securityHeadersDispatch fun log => (answer, log)))
  match stack log with
  | (some response, log) => (response, log)
  | (none, log) => (handleUnexpectedError a.context, log)

/-! ### The server -/

/-- A request that has been answered: what the limiter or the app answered, and what was sent. -/
structure StackExchange where
  arrival : Arrival
  answer : Option StackResponse
  response : StackResponse

/-- The limiter and the access log, the requests that have passed the limiter and those of them that are in flight,
and the requests that have been answered. -/
structure StackState (β : Type) where
  limiter : β
  reached : List Arrival
  inFlight : List Arrival
  sent : List StackExchange
  accessLog : List AccessEvent

inductive StackEvent where
  /-- the limiter checks a request, which it hands on or answers; a run lists the requests by their checks -/
  | arrives (a : Arrival)
  /-- a route checks `rate_limit(rule_name)` -/
  | limits (now : ℚ) (ruleName : String) (principal : RateLimitPrincipal) (request : HttpRequest)
  /-- the app answers a request in flight, or raises an exception that none of its handlers takes -/
  | answers (i : Nat) (answer : Option StackResponse)

namespace StackState

variable {β : Type}

def start (limiter : β) : StackState β := ⟨limiter, [], [], [], []⟩

def finish (s : StackState β) (a : Arrival) (answer : Option StackResponse) : StackState β :=
  let (response, accessLog) := stackRespond a answer s.accessLog
  { s with accessLog, sent := s.sent ++ [⟨a, answer, response⟩] }

def step (limiter : Option (RateLimiter β)) (settings : RateLimitSettings) (s : StackState β) :
    StackEvent → StackState β
  | .arrives a =>
    match rateLimitDispatch limiter settings s.limiter a.now a.request with
    -- an unknown rule would raise
    | none => s.finish a none
    | some (.next, state) => { s with limiter := state, reached := s.reached ++ [a], inFlight := s.inFlight ++ [a] }
    | some (.rateLimited exc, state) =>
      { s with limiter := state }.finish a (some (rateLimitedResponse a.request a.requestId exc))
  | .limits now ruleName principal request =>
    match rateLimit ruleName limiter settings s.limiter now principal request with
    | none => s
    | some (_, state) => { s with limiter := state }
  | .answers i answer =>
    match s.inFlight[i]? with
    | none => s
    | some a => { s with inFlight := s.inFlight.eraseIdx i }.finish a answer

def run (limiter : Option (RateLimiter β)) (settings : RateLimitSettings) (s : StackState β)
    (events : List StackEvent) : StackState β := events.foldl (step limiter settings) s

end StackState

def StackEvent.arrival : StackEvent → Option Arrival
  | arrives a => some a
  | limits _ _ _ _ | answers _ _ => none

/-- The time of an event that may check the limiter. -/
def StackEvent.now : StackEvent → Option ℚ
  | arrives a => some a.now
  | limits now _ _ _ => some now
  | answers _ _ => none

/-- The requests of a run. -/
def arrivalsOf (events : List StackEvent) : List Arrival := events.filterMap StackEvent.arrival

theorem arrivalsOf_cons (event : StackEvent) (events : List StackEvent) :
    arrivalsOf (event :: events) = event.arrival.toList ++ arrivalsOf events := by
  unfold arrivalsOf
  cases hevent : event.arrival <;> simp [hevent]

/-! ### Headers -/

namespace StackResponse

private theorem get_setHeader (r : StackResponse) (name value name' : String) :
    (r.setHeader name value).headers.get name' = if name = name' then some value else r.headers.get name' :=
  PyDict.get_set _ _ _ _

private theorem get_setDefault (r : StackResponse) (name value name' : String) :
    (r.setDefault name value).headers.get name' =
      if name = name' then some ((r.headers.get name).getD value) else r.headers.get name' := by
  unfold setDefault
  cases hn : r.headers.get name with
  | none =>
    rw [if_neg (by simp), get_setHeader]
    rfl
  | some v =>
    rw [if_pos (by simp)]
    by_cases he : name = name'
    · rw [if_pos he, ← he, hn]
      rfl
    · rw [if_neg he]

private theorem response_setDefault (r : StackResponse) (name value : String) :
    (r.setDefault name value).response = r.response := by
  unfold setDefault
  split <;> rfl

/-- Defaults leave what is set. -/
private theorem get_foldl_setDefault {headers : List (String × String)} (hnodup : (headers.map Prod.fst).Nodup)
    (r : StackResponse) (name : String) :
    (headers.foldl (fun r header => r.setDefault header.1 header.2) r).headers.get name =
      (r.headers.get name).or (PyDict.get headers name) := by
  induction headers generalizing r with
  | nil => simp
  | cons header headers ih =>
    obtain ⟨name', value⟩ := header
    rw [List.map_cons, List.nodup_cons] at hnodup
    rw [List.foldl_cons, ih hnodup.2, get_setDefault, PyDict.get_cons]
    by_cases he : name' = name
    · subst he
      rw [if_pos rfl, if_pos rfl]
      cases r.headers.get name' <;> rfl
    · rw [if_neg he, if_neg he]

private theorem response_foldl_setDefault (headers : List (String × String)) (r : StackResponse) :
    (headers.foldl (fun r header => r.setDefault header.1 header.2) r).response = r.response := by
  induction headers generalizing r with
  | nil => rfl
  | cons header headers ih => rw [List.foldl_cons, ih, response_setDefault]

end StackResponse

/-! ### What is sent -/

/-- The middleware's response is that of the exception handler. -/
private theorem rateLimitedResponse_eq (a : Arrival) (exc : RateLimitExceededError) :
    rateLimitedResponse a.request a.requestId exc = handleRateLimitError a.context exc := by
  have hmeta : buildMeta a.requestId [("path", .str a.request.path), ("method", .str a.request.method),
      ("category", .str ErrorCategory.rateLimit.value)] = buildMeta a.requestId [("path", .str a.request.path),
        ("method", .str a.request.method), ("category", .str ErrorCategory.rateLimit.value),
        ("request_id", .str a.requestId)] := rfl
  simp only [rateLimitedResponse, handleRateLimitError, errorResponse, apiError, buildEnvelope,
    Arrival.context, hmeta]

namespace StackExchange

/-- The access event of an exchange. -/
def event (e : StackExchange) : AccessEvent :=
  ⟨e.arrival.requestId, e.arrival.request.method, e.arrival.request.path, e.response.response.status⟩

/-- What is sent is the answer under the request id and the security headers, or the unexpected error. -/
def Wrapped (e : StackExchange) : Prop :=
  (e.answer = none → e.response = handleUnexpectedError e.arrival.context) ∧
    ∀ answer, e.answer = some answer → e.response.response = answer.response ∧
      ∀ name, e.response.headers.get name = if requestIdHeader = name then some e.arrival.requestId
        else (answer.headers.get name).or (PyDict.get securityHeaders name)

/-- The limiter answered, with a time to wait. -/
def Denied (e : StackExchange) : Prop :=
  ∃ exc : RateLimitExceededError, 1 ≤ exc.retryAfter ∧ e.answer = some (handleRateLimitError e.arrival.context exc)

end StackExchange

private theorem stackRespond_spec (a : Arrival) (answer : Option StackResponse) (log : List AccessEvent) :
    let e : StackExchange := ⟨a, answer, (stackRespond a answer log).1⟩
    e.Wrapped ∧ (stackRespond a answer log).2 = log ++ [e.event] := by
  cases answer with
  | none => exact ⟨⟨fun _ => rfl, fun answer h => by cases h⟩, rfl⟩
  | some answer =>
    have hresponse := StackResponse.response_foldl_setDefault securityHeaders answer
    refine ⟨⟨fun h => (by cases h), fun answer' h => ?_⟩, ?_⟩
    · obtain rfl : answer = answer' := Option.some.inj h
      refine ⟨hresponse, fun name => ?_⟩
      have hnodup : (securityHeaders.map Prod.fst).Nodup := by decide
      have hheaders := StackResponse.get_foldl_setDefault hnodup answer name
      rw [← hheaders]
      exact StackResponse.get_setHeader _ _ _ _
    · have hresponse' : (stackRespond a (some answer) log).1.response =
          (securityHeaders.foldl (fun r header => r.setDefault header.1 header.2) answer).response := rfl
      rw [StackExchange.event, hresponse']
      rfl

/-! ### The limiter on the way -/

private theorem RateLimitExceededError.new_retryAfter (message : Option String) (details : PyDict String String)
    (retryAfter : Int) (limit : Option Int) (remaining : Int) :
    1 ≤ (RateLimitExceededError.new message details retryAfter limit remaining).retryAfter := le_max_left _ _

section Dispatch

variable {β : Type} {settings : RateLimitSettings} {state : β} {now : ℚ} {request : HttpRequest}

def globalIpRule : RateLimitRule := ⟨globalIpRuleName, 300, 60, .ip, none⟩

theorem getRule_globalIp : getRule globalIpRuleName = some globalIpRule := rfl

/-- The limiter is off, or the request is to the health probes. -/
def passesUnchecked (limiter : Option (RateLimiter β)) (settings : RateLimitSettings) (a : Arrival) : Bool :=
  limiter.isNone || isExempt a.request.path settings.apiPrefix

theorem dispatch_unchecked {limiter : Option (RateLimiter β)} {a : Arrival}
    (h : passesUnchecked limiter settings a = true) :
    rateLimitDispatch limiter settings state now a.request = some (.next, state) := by
  cases limiter with
  | none => rfl
  | some L =>
    have hexempt : isExempt a.request.path settings.apiPrefix = true := by simpa [passesUnchecked] using h
    simp only [rateLimitDispatch, hexempt, if_true]

/-- A checked request is handed on exactly when `enforce` would not raise. -/
theorem dispatch_checked (L : RateLimiter β) (hexempt : isExempt request.path settings.apiPrefix = false) :
    let called := L.enforceCall state ⟨now, globalIpRule, middlewareIdentifier settings request⟩
    (called.1.isOk = true ∧ rateLimitDispatch (some L) settings state now request = some (.next, called.2)) ∨
      (called.1.isOk = false ∧ ∃ exc, 1 ≤ exc.retryAfter ∧
        rateLimitDispatch (some L) settings state now request = some (.rateLimited exc, called.2)) := by
  intro called
  have hcalled : called = L.enforce state now globalIpRule (middlewareIdentifier settings request) := rfl
  simp only [rateLimitDispatch, hexempt, getRule_globalIp]
  rw [hcalled, RateLimiter.enforce]
  cases hcheck : L.check state now globalIpRule (middlewareIdentifier settings request) with
  | mk outcome state' =>
    cases outcome with
    | error exc =>
      refine Or.inr ⟨rfl, exc, ?_, by simp [hcheck]⟩
      unfold RateLimiter.check at hcheck
      revert hcheck
      dsimp only
      split
      · simp
      · split
        · simp
        · rintro hcheck
          obtain rfl := Except.error.inj (Prod.mk.inj hcheck).1
          exact RateLimitExceededError.new_retryAfter _ _ _ _ _
    | ok decision =>
      by_cases hallowed : decision.allowed = true
      · exact Or.inl (by simp [hcheck, hallowed, Except.isOk, Except.toBool])
      · refine Or.inr ⟨by simp [hallowed, Except.isOk, Except.toBool],
          .new none [("rule", globalIpRuleName)] decision.resetAfterSeconds decision.limit decision.remaining,
          RateLimitExceededError.new_retryAfter _ _ _ _ _, ?_⟩
        simp [hcheck, hallowed]
        rfl

end Dispatch

/-! ### The account of a run -/

section Account

variable {β : Type} {limiter : Option (RateLimiter β)} {settings : RateLimitSettings} {arrived : List Arrival}
  {s : StackState β}

/-- Where the requests of a run are. -/
structure Accounted (limiter : Option (RateLimiter β)) (settings : RateLimitSettings) (arrived : List Arrival)
    (s : StackState β) : Prop where
  /-- each is in flight or has been answered, and is so once -/
  once : arrived.Perm (s.inFlight ++ s.sent.map StackExchange.arrival)
  /-- each answer has its access event, with the status that was sent -/
  logged : s.accessLog = s.sent.map StackExchange.event
  wrapped : ∀ e ∈ s.sent, e.Wrapped
  /-- the app sees each at most once -/
  seen : s.reached.Subperm arrived
  /-- those that need no check are all handed on -/
  unchecked : s.reached.filter (passesUnchecked limiter settings) = arrived.filter (passesUnchecked limiter settings)
  passed : ∀ a ∈ s.inFlight, a ∈ s.reached
  /-- the limiter has answered what the app has not seen -/
  denied : ∀ e ∈ s.sent, e.arrival ∈ s.reached ∨ e.Denied

private theorem Accounted.empty (state : β) : Accounted limiter settings [] (.start state) where
  once := List.Perm.nil
  logged := rfl
  wrapped := fun _ he => by cases he
  seen := List.nil_subperm
  unchecked := rfl
  passed := fun _ ha => by cases ha
  denied := fun _ he => by cases he

/-- A request is handed on. -/
private theorem Accounted.handOn (h : Accounted limiter settings arrived s) (a : Arrival) (state : β) :
    Accounted limiter settings (arrived ++ [a])
      { s with limiter := state, reached := s.reached ++ [a], inFlight := s.inFlight ++ [a] } where
  once := by
    refine (h.once.append_right [a]).trans ?_
    rw [List.append_assoc, List.append_assoc]
    exact List.perm_append_comm.append_left s.inFlight
  logged := h.logged
  wrapped := h.wrapped
  seen := (List.subperm_append_right [a]).2 h.seen
  unchecked := by rw [List.filter_append, List.filter_append, h.unchecked]
  passed := by
    intro b hb
    rcases List.mem_append.1 hb with hb | hb
    · exact List.mem_append_left _ (h.passed b hb)
    · exact List.mem_append_right _ hb
  denied := fun e he => (h.denied e he).imp_left (List.mem_append_left _)

/-- A request that is out of flight is answered. -/
private theorem Accounted.finish {a : Arrival} {answer : Option StackResponse}
    (honce : arrived.Perm (a :: (s.inFlight ++ s.sent.map StackExchange.arrival)))
    (hlogged : s.accessLog = s.sent.map StackExchange.event) (hwrapped : ∀ e ∈ s.sent, e.Wrapped)
    (hseen : s.reached.Subperm arrived)
    (hunchecked : s.reached.filter (passesUnchecked limiter settings) =
      arrived.filter (passesUnchecked limiter settings))
    (hpassed : ∀ a ∈ s.inFlight, a ∈ s.reached) (hdenied : ∀ e ∈ s.sent, e.arrival ∈ s.reached ∨ e.Denied)
    (ha : ∀ e : StackExchange, e.arrival = a → e.answer = answer → e.arrival ∈ s.reached ∨ e.Denied) :
    Accounted limiter settings arrived (s.finish a answer) := by
  -- one more response, one more line of the access log
  obtain ⟨hspec, hlog⟩ := stackRespond_spec a answer s.accessLog
  exact {
    once := by
      refine honce.trans ?_
      show List.Perm _ (s.inFlight ++ (s.sent ++ [_]).map StackExchange.arrival)
      rw [List.map_append, ← List.append_assoc]
      exact (List.perm_append_singleton a _).symm
    logged := by
      show (stackRespond a answer s.accessLog).2 = (s.sent ++ [_]).map StackExchange.event
      rw [hlog, List.map_append, hlogged]
      rfl
    wrapped := by
      intro e he
      rcases List.mem_append.1 he with he | he
      · exact hwrapped e he
      · obtain rfl := List.mem_singleton.1 he
        exact hspec
    seen := hseen
    unchecked := hunchecked
    passed := hpassed
    denied := by
      intro e he
      rcases List.mem_append.1 he with he | he
      · exact hdenied e he
      · obtain rfl := List.mem_singleton.1 he
        exact ha _ rfl rfl }

/-- The limiter answers a request. -/
private theorem Accounted.deny (h : Accounted limiter settings arrived s) {a : Arrival}
    (hchecked : passesUnchecked limiter settings a = false) (state : β) {exc : RateLimitExceededError}
    (hexc : 1 ≤ exc.retryAfter) :
    Accounted limiter settings (arrived ++ [a])
      (StackState.finish { s with limiter := state } a (some (rateLimitedResponse a.request a.requestId exc))) := by
  refine .finish ?_ h.logged h.wrapped (h.seen.trans (List.sublist_append_left _ _).subperm) ?_ h.passed h.denied
    fun e he hanswer => Or.inr ⟨exc, hexc, ?_⟩
  · exact (List.perm_append_singleton a arrived).trans (h.once.cons a)
  · rw [List.filter_append, h.unchecked]
    simp [hchecked]
  · rw [hanswer, rateLimitedResponse_eq, he]

/-- The app answers a request in flight. -/
private theorem Accounted.answer (h : Accounted limiter settings arrived s) {i : Nat} {a : Arrival}
    (hi : s.inFlight[i]? = some a) (answer : Option StackResponse) :
    Accounted limiter settings arrived
      (StackState.finish { s with inFlight := s.inFlight.eraseIdx i } a answer) := by
  obtain ⟨hlt, ha⟩ := List.getElem?_eq_some_iff.1 hi
  have hperm : s.inFlight.Perm (a :: s.inFlight.eraseIdx i) := by
    rw [← ha]
    exact (List.getElem_cons_eraseIdx_perm hlt).symm
  refine .finish ?_ h.logged h.wrapped h.seen h.unchecked
    (fun b hb => h.passed b ((List.eraseIdx_sublist _ _).subset hb)) h.denied
    fun e he _ => Or.inl ?_
  · exact h.once.trans (hperm.append_right _)
  · rw [he]
    exact h.passed a (List.mem_of_getElem? hi)

private theorem Accounted.step (h : Accounted limiter settings arrived s) (event : StackEvent) :
    Accounted limiter settings (arrived ++ event.arrival.toList) (s.step limiter settings event) := by
  cases event with
  | arrives a =>
    show Accounted limiter settings (arrived ++ [a]) _
    cases hchecked : passesUnchecked limiter settings a with
    | true =>
      rw [StackState.step, dispatch_unchecked hchecked]
      exact h.handOn a s.limiter
    | false =>
      cases limiter with
      | none => cases hchecked
      | some L =>
        have hexempt : isExempt a.request.path settings.apiPrefix = false := by simpa [passesUnchecked] using hchecked
        rw [StackState.step]
        rcases dispatch_checked L hexempt with ⟨-, hnext⟩ | ⟨-, exc, hexc, hlimited⟩
        · rw [hnext]
          exact h.handOn a _
        · rw [hlimited]
          exact h.deny hchecked _ hexc
  | limits now ruleName principal request =>
    show Accounted limiter settings (arrived ++ []) _
    rw [List.append_nil, StackState.step]
    split
    · exact h
    · exact ⟨h.once, h.logged, h.wrapped, h.seen, h.unchecked, h.passed, h.denied⟩
  | answers i answer =>
    show Accounted limiter settings (arrived ++ []) _
    rw [List.append_nil, StackState.step]
    split
    · exact h
    · rename_i a hi
      exact h.answer hi answer

private theorem Accounted.run (h : Accounted limiter settings arrived s) (events : List StackEvent) :
    Accounted limiter settings (arrived ++ arrivalsOf events) (s.run limiter settings events) := by
  induction events generalizing arrived s with
  | nil => simpa [arrivalsOf, StackState.run] using h
  | cons event events ih =>
    have hstep := ih (h.step event)
    rw [List.append_assoc, ← arrivalsOf_cons] at hstep
    exact hstep

end Account

/-- Over any limiter or none, and in every interleaving of requests, of checks by the routes and of answers by the
app: each request is answered at most once, with the request id and the security headers, and with one access event of
the status that is sent; what the app has not seen is a denial of the limiter. -/
theorem requests_accounted {β : Type} (limiter : Option (RateLimiter β)) (settings : RateLimitSettings) (state : β)
    (events : List StackEvent) :
    Accounted limiter settings (arrivalsOf events) ((StackState.start state).run limiter settings events) :=
  (Accounted.empty state).run events

end CleanBackend
