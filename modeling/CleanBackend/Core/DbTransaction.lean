import CleanBackend.Auth.AuthRoutes
import CleanBackend.Database.MapIdentity
import CleanBackend.Lib.Program

/-!
# The request transaction

`DBTransactionMiddleware` opens a transaction on one connection, runs the request, and commits or rolls back by the
status of the response.  The repositories do not use that connection: `provide_session_repository` and
`provide_identity_mapper` build them on the pool, where every call commits on its own.  So a request that fails after
a repository call has written keeps the write (`request_all_or_nothing` says exactly when).  The middleware is not the
cause: on the connection of the request the same calls are all or nothing (`all_or_nothing_on_request`).

A request is a `Program` of repository calls.  What its calls meet outside it (the clock, the generated ids, a lost
connection) is a `CallService` for each, and each step of the transaction manager may fail.
-/

namespace CleanBackend

/-! ### Repository calls -/

/-- What a handler may raise, as the exception handlers of `create_app` tell it apart. -/
inductive AppException where
  | appError (httpStatus : Nat)
  | requestValidation
  | httpException (statusCode : Nat)
  | unexpected
  deriving DecidableEq, Repr

/-- The arguments of `map_identity`. -/
structure IdentityArgs where
  provider : String
  subject : String
  email : Option String
  provision : Bool
  deriving DecidableEq, Repr

/-- A repository call of a request. -/
inductive PoolCall where
  | session (call : RepositoryCall)
  | mapIdentity (args : IdentityArgs)
  deriving DecidableEq, Repr

inductive PoolAnswer where
  | session (answer : RepositoryAnswer)
  | identity (result : Except RepositoryError MappedIdentity)
  /-- the connection failed -/
  | raised (exc : AppException)

/-- How the server meets a call. -/
inductive CallFate where
  | served
  /-- no connection, or it is lost before the statement has run -/
  | refused (exc : AppException)
  /-- the statement has run, its result is lost -/
  | answerLost (exc : AppException)
  deriving DecidableEq, Repr

/-- What a call meets: `now()`, what is drawn for it, and how it is served. -/
structure CallService where
  now : Int
  draws : Draws
  fate : CallFate
  deriving DecidableEq, Repr

/-- The two repositories.  `map_identity` may do anything to the tables. -/
structure Repositories where
  adapter : AdapterEnv
  mapIdentity : Database → Int → Draws → IdentityArgs → Database × Except RepositoryError MappedIdentity

namespace Repositories

variable (E : Repositories)

/-- One statement on the tables. -/
def statement (service : CallService) (tables : Database) : PoolCall → Database × PoolAnswer
  | .session call =>
    let (tables', answer) := E.adapter.exec tables service.now service.draws call
    (tables', .session answer)
  | .mapIdentity args =>
    let (tables', result) := E.mapIdentity tables service.now service.draws args
    (tables', .identity result)

def serve (service : CallService) (tables : Database) (call : PoolCall) : Database × PoolAnswer :=
  match service.fate with
  | .served => E.statement service tables call
  | .refused exc => (tables, .raised exc)
  | .answerLost exc => ((E.statement service tables call).1, .raised exc)

/-- The calls one after the other on the tables, with the number of calls so far. -/
def exec (services : Nat → CallService) (s : Database × Nat) (call : PoolCall) : (Database × Nat) × PoolAnswer :=
  let (tables, answer) := E.serve (services s.2) s.1 call
  ((tables, s.2 + 1), answer)

end Repositories

/-! ### Connections -/

/-- The connections of a request: one of the pool for each call, or the one in `request.state.db_connection`. -/
inductive Connection where
  | pool
  | request
  deriving DecidableEq, Repr

/-- `_require_pool` -/
def repositoryConnection : Connection := .pool

/-- The committed tables, and what the open transaction of the request has made of them. -/
structure RequestState where
  tables : Database
  draft : Option Database
  calls : Nat

def RequestState.ofTables (tables : Database) : RequestState := ⟨tables, none, 0⟩

/-- `txn.commit()` -/
def RequestState.commit (s : RequestState) : Database := s.draft.getD s.tables

/-- `txn.rollback()` -/
def RequestState.rollback (s : RequestState) : Database := s.tables

/-- A call on the pool commits at once, a call on the connection of the request is part of its transaction. -/
def Connection.exec (connection : Connection) (E : Repositories) (services : Nat → CallService) (s : RequestState)
    (call : PoolCall) : RequestState × PoolAnswer :=
  match connection with
  | .pool =>
    let (tables, answer) := E.serve (services s.calls) s.tables call
    (⟨tables, s.draft, s.calls + 1⟩, answer)
  | .request =>
    let (draft, answer) := E.serve (services s.calls) s.commit call
    (⟨s.tables, some draft, s.calls + 1⟩, answer)

/-! ### The middleware -/

/-- The dependencies and the handler of a request: it returns a response with a status, or raises. -/
abbrev Handler := Program PoolCall PoolAnswer (Except AppException Nat)

/-- What leaves the app, or a middleware. -/
inductive Reply where
  | response (statusCode : Nat)
  | exception
  deriving DecidableEq, Repr

def Reply.is2xx : Reply → Bool
  | response statusCode => decide (200 ≤ statusCode ∧ statusCode < 300)
  | exception => false

/-- The handlers of `register_exception_handlers` inside `call_next`; the one for `Exception` runs outside all
middleware. -/
def AppException.handle : AppException → Reply
  | appError httpStatus => .response httpStatus
  | requestValidation => .response 422
  | httpException statusCode => .response statusCode
  | unexpected => .exception

def Reply.of : Except AppException Nat → Reply
  | .ok statusCode => .response statusCode
  | .error exc => exc.handle

/-- Which steps of the transaction manager fail. -/
structure TransactionFaults where
  acquire : Bool
  start : Bool
  commit : Bool
  rollback : Bool
  deriving DecidableEq, Repr

/-- How the block of `async with manager.transaction()` ends. -/
inductive BlockEnd where
  | returned (statusCode : Nat)
  /-- `raise _Rollback(response)` -/
  | rollback (statusCode : Nat)
  | raised
  deriving DecidableEq, Repr

/-- `AsyncpgTransactionManager.transaction` around a block. -/
def transaction (faults : TransactionFaults) (tables : Database) (block : RequestState → RequestState × BlockEnd) :
    Database × BlockEnd :=
  if faults.acquire ∨ faults.start then (tables, .raised)
  else
    match block (.ofTables tables) with
    | (s, .returned statusCode) =>
      if faults.commit then (s.rollback, .raised) else (s.commit, .returned statusCode)
    | (s, ended) => (s.rollback, if faults.rollback then .raised else ended)

/-- `MUTATING_METHODS` -/
def mutatingMethods : List String := ["POST", "PUT", "PATCH", "DELETE"]

namespace DBTransactionMiddleware

/-- The block of the mutating verbs. -/
def block (callNext : RequestState → RequestState × Reply) (s : RequestState) : RequestState × BlockEnd :=
  match callNext s with
  | (s', .response statusCode) => (s', if 300 ≤ statusCode then .rollback statusCode else .returned statusCode)
  | (s', .exception) => (s', .raised)

def dispatch (connected : Bool) (method : String) (faults : TransactionFaults) (tables : Database)
    (callNext : RequestState → RequestState × Reply) : Database × Reply :=
  if ¬ connected then
    let (s, reply) := callNext (.ofTables tables)
    (s.commit, reply)
  else if method ∉ mutatingMethods then
    if faults.acquire then (tables, .exception)
    else
      let (s, reply) := callNext (.ofTables tables)
      (s.commit, reply)
  else
    match transaction faults tables (block callNext) with
    | (tables', .returned statusCode) | (tables', .rollback statusCode) => (tables', .response statusCode)
    | (tables', .raised) => (tables', .exception)

end DBTransactionMiddleware

/-- `call_next` -/
def Handler.callNext (h : Handler) (connection : Connection) (E : Repositories) (services : Nat → CallService)
    (s : RequestState) : RequestState × Reply :=
  let (s', result) := h.run (connection.exec E services) s
  (s', .of result)

/-! ### All or nothing -/

/-- A request: what its calls meet, its verb, the faults of its transaction, and its handler. -/
structure DbRequest where
  repositories : Repositories
  services : Nat → CallService
  method : String
  faults : TransactionFaults
  handler : Handler

namespace DbRequest

/-- The tables after the request, and what leaves the middleware. -/
def handled (r : DbRequest) (connection : Connection) (tables : Database) : Database × Reply :=
  DBTransactionMiddleware.dispatch true r.method r.faults tables
    (r.handler.callNext connection r.repositories r.services)

/-- What the calls of the request, one after the other, make of the tables, and the reply of the app. -/
def written (r : DbRequest) (tables : Database) : Database × Reply :=
  let (s, result) := r.handler.run (r.repositories.exec r.services) (tables, 0)
  (s.1, .of result)

/-- The writes of the request are all in the tables after a 2xx response, and none of them otherwise. -/
def AllOrNothing (r : DbRequest) (connection : Connection) (tables : Database) : Prop :=
  (r.handled connection tables).1 =
    if (r.handled connection tables).2.is2xx then (r.written tables).1 else tables

end DbRequest

/-! ### On each of the connections -/

/-- What a call on the pool works on. -/
def RequestState.onPool (s : RequestState) : Database × Nat := (s.tables, s.calls)

/-- What a call on the connection of the request works on. -/
def RequestState.onRequest (s : RequestState) : Database × Nat := (s.commit, s.calls)

private theorem Repositories.exec_onPool (E : Repositories) (services : Nat → CallService) (s : RequestState)
    (call : PoolCall) : E.exec services s.onPool call =
      ((Connection.pool.exec E services s call).1.onPool, (Connection.pool.exec E services s call).2) := rfl

private theorem Repositories.exec_onRequest (E : Repositories) (services : Nat → CallService) (s : RequestState)
    (call : PoolCall) : E.exec services s.onRequest call =
      ((Connection.request.exec E services s call).1.onRequest, (Connection.request.exec E services s call).2) := rfl

namespace DBTransactionMiddleware

/-- How a request of a mutating verb ends, once its transaction is open. -/
def ending (faults : TransactionFaults) (s : RequestState) : Reply → Database × Reply
  | .response statusCode =>
    if 300 ≤ statusCode then (s.rollback, if faults.rollback then .exception else .response statusCode)
    else if faults.commit then (s.rollback, .exception)
    else (s.commit, .response statusCode)
  | .exception => (s.rollback, .exception)

private theorem dispatch_mutating {method : String} (hm : method ∈ mutatingMethods) {faults : TransactionFaults}
    (hopen : ¬ (faults.acquire ∨ faults.start)) (tables : Database)
    {callNext : RequestState → RequestState × Reply} {s : RequestState} {reply : Reply}
    (h : callNext (.ofTables tables) = (s, reply)) :
    dispatch true method faults tables callNext = ending faults s reply := by
  unfold dispatch transaction block
  rw [if_neg (by simp), if_neg (by simp [hm]), if_neg hopen, h]
  cases reply with
  | exception => cases faults.rollback <;> rfl
  | response statusCode =>
    unfold ending
    by_cases hs : 300 ≤ statusCode
    · cases faults.rollback <;> simp [hs]
    · cases faults.commit <;> simp [hs]

private theorem ending_refused {faults : TransactionFaults} {s : RequestState} {statusCode : Nat}
    (h : 300 ≤ statusCode) :
    ending faults s (.response statusCode) =
      (s.rollback, if faults.rollback then .exception else .response statusCode) := if_pos h

private theorem ending_accepted {faults : TransactionFaults} {s : RequestState} {statusCode : Nat}
    (h : ¬ 300 ≤ statusCode) :
    ending faults s (.response statusCode) =
      if faults.commit then (s.rollback, .exception) else (s.commit, .response statusCode) := if_neg h

/-- The end of an empty transaction leaves the tables as they are. -/
private theorem ending_tables (faults : TransactionFaults) {s : RequestState} (hs : s.draft = none) (reply : Reply) :
    (ending faults s reply).1 = s.tables := by
  have hcommit : s.commit = s.tables := by rw [RequestState.commit, hs, Option.getD_none]
  cases reply with
  | exception => rfl
  | response statusCode =>
    by_cases h : 300 ≤ statusCode
    · rw [ending_refused h]
      rfl
    · rw [ending_accepted h]
      cases faults.commit
      · exact hcommit
      · rfl

/-- A 2xx response leaves when the app gave it and the commit has succeeded. -/
private theorem ending_is2xx (faults : TransactionFaults) (s : RequestState) (reply : Reply) :
    (ending faults s reply).2.is2xx = (reply.is2xx && !faults.commit) := by
  cases reply with
  | exception => rfl
  | response statusCode =>
    by_cases hs : 300 ≤ statusCode
    · have hn : (Reply.response statusCode).is2xx = false := by
        simp [Reply.is2xx]
        omega
      rw [ending_refused hs, hn]
      cases faults.rollback
      · exact hn
      · rfl
    · rw [ending_accepted hs]
      cases faults.commit
      · simp
      · simp [Reply.is2xx]

end DBTransactionMiddleware

namespace DbRequest

variable (r : DbRequest) (tables : Database)

/-- A transaction that cannot be opened ends the request before it has begun. -/
private theorem handled_unopened (hm : r.method ∈ mutatingMethods) (h : r.faults.acquire ∨ r.faults.start)
    (connection : Connection) : r.handled connection tables = (tables, .exception) := by
  unfold handled DBTransactionMiddleware.dispatch transaction
  rw [if_neg (by simp), if_neg (by simp [hm]), if_pos h]

/-- On the pool, the tables are what the calls have made of them, and the transaction is empty. -/
private theorem callNext_pool :
    ∃ s, r.handler.callNext .pool r.repositories r.services (.ofTables tables) = (s, (r.written tables).2) ∧
      s.tables = (r.written tables).1 ∧ s.draft = none := by
  have hrun := r.handler.run_map (r.repositories.exec_onPool r.services) (.ofTables tables)
  have hdraft : ∀ (s : RequestState) call, s.draft = none →
      (Connection.pool.exec r.repositories r.services s call).1.draft = none := fun _ _ hs => hs
  have hnone := r.handler.run_induction hdraft (s := .ofTables tables) rfl
  refine ⟨_, Prod.ext rfl ?_, ?_, hnone⟩
  · exact congrArg Reply.of (congrArg Prod.snd hrun).symm
  · exact (congrArg (fun x => x.1.1) hrun).symm

/-- On the connection of the request, the tables stay, and the transaction has what the calls have made of them. -/
private theorem callNext_request :
    ∃ s, r.handler.callNext .request r.repositories r.services (.ofTables tables) = (s, (r.written tables).2) ∧
      s.tables = tables ∧ s.commit = (r.written tables).1 := by
  have hrun := r.handler.run_map (r.repositories.exec_onRequest r.services) (.ofTables tables)
  have htables : ∀ (s : RequestState) call, s.tables = tables →
      (Connection.request.exec r.repositories r.services s call).1.tables = tables := fun _ _ hs => hs
  have hstay := r.handler.run_induction htables (s := .ofTables tables) rfl
  refine ⟨_, Prod.ext rfl ?_, hstay, ?_⟩
  · exact congrArg Reply.of (congrArg Prod.snd hrun).symm
  · exact (congrArg (fun x => x.1.1) hrun).symm

/-- What is committed of calls on the connection of the request: all of them after a status below 300, none otherwise.
So a request whose repositories were on it would be all-or-nothing, were it not for a status below 200. -/
theorem all_or_nothing_on_request (hm : r.method ∈ mutatingMethods)
    (hstatus : ∀ statusCode, (r.written tables).2 = .response statusCode → 200 ≤ statusCode) :
    r.AllOrNothing .request tables := by
  unfold AllOrNothing
  by_cases hopen : r.faults.acquire ∨ r.faults.start
  · rw [r.handled_unopened tables hm hopen]
    rfl
  · obtain ⟨s, hs, htables, hcommit⟩ := r.callNext_request tables
    have hend : r.handled .request tables = _ := DBTransactionMiddleware.dispatch_mutating hm hopen tables hs
    rw [hend, DBTransactionMiddleware.ending_is2xx]
    cases hreply : (r.written tables).2 with
    | exception => exact htables
    | response statusCode =>
      have hge := hstatus statusCode hreply
      by_cases h300 : 300 ≤ statusCode
      · have hn : (Reply.response statusCode).is2xx = false := by
          simp [Reply.is2xx]
          omega
        rw [DBTransactionMiddleware.ending_refused h300, hn]
        exact htables
      · have hy : (Reply.response statusCode).is2xx = true := by
          simp [Reply.is2xx]
          omega
        rw [DBTransactionMiddleware.ending_accepted h300, hy]
        cases r.faults.commit
        · exact hcommit
        · exact htables

/-- On the pool, the end of the transaction changes nothing. -/
private theorem handled_pool (hm : r.method ∈ mutatingMethods) (hopen : ¬ (r.faults.acquire ∨ r.faults.start)) :
    (r.handled repositoryConnection tables).1 = (r.written tables).1 ∧
      (r.handled repositoryConnection tables).2.is2xx = ((r.written tables).2.is2xx && !r.faults.commit) := by
  obtain ⟨s, hs, htables, hdraft⟩ := r.callNext_pool tables
  have hend : r.handled repositoryConnection tables = _ :=
    DBTransactionMiddleware.dispatch_mutating hm hopen tables hs
  rw [hend, DBTransactionMiddleware.ending_tables _ hdraft, DBTransactionMiddleware.ending_is2xx]
  exact ⟨htables, rfl⟩

/-- The repositories are on the pool: the request is all-or-nothing exactly when it never started, when it ends with a
2xx response and a commit that succeeds, or when its calls leave the tables as they were. -/
theorem request_all_or_nothing (hm : r.method ∈ mutatingMethods) :
    r.AllOrNothing repositoryConnection tables ↔
      (r.faults.acquire ∨ r.faults.start) ∨ ((r.written tables).2.is2xx ∧ r.faults.commit = false) ∨
        (r.written tables).1 = tables := by
  unfold AllOrNothing
  by_cases hopen : r.faults.acquire ∨ r.faults.start
  · rw [r.handled_unopened tables hm hopen]
    exact ⟨fun _ => Or.inl hopen, fun _ => rfl⟩
  · obtain ⟨htables, hreply⟩ := r.handled_pool tables hm hopen
    rw [htables, hreply]
    by_cases h2xx : (r.written tables).2.is2xx ∧ r.faults.commit = false
    · rw [if_pos (by simpa using h2xx)]
      exact ⟨fun _ => Or.inr (Or.inl h2xx), fun _ => rfl⟩
    · rw [if_neg (by simpa using h2xx)]
      constructor
      · intro hsame
        exact Or.inr (Or.inr hsame)
      · rintro (hno | h | hsame)
        · exact absurd hno hopen
        · exact absurd h h2xx
        · exact hsame

end DbRequest

/-! ### A guarded route -/

/-- The exception of a repository error: the `AppError`s have their status. -/
def RepositoryError.exception : RepositoryError → AppException
  | valueError | keyError _ | attributeError | decryptFailed => .unexpected
  | e => .appError e.httpStatus

/-- An exception of a repository that nothing catches. -/
def PoolAnswer.propagate : PoolAnswer → Handler
  | session (.raised e) | identity (.error e) => .done (.error e.exception)
  | raised exc => .done (.error exc)
  | _ => .done (.error .unexpected)

/-- `get_current_principal` in front of a handler. -/
def getCurrentPrincipal (sessionToken : String) (idleTtlSeconds : Int) (next : AuthContext → Handler) : Handler :=
  if sessionToken = "" then .done (.error (.appError 401))
  else
    .call (.session (.get sessionToken)) fun
      | .session (.session dto) =>
        .call (.session (.touch sessionToken idleTtlSeconds)) fun
          | .session (.touched _) => next ⟨dto.userId, dto.tenantId, dto.sessionInternalId, dto.email, [], []⟩
          | answer => answer.propagate
      | answer => answer.propagate

/-- `require_scope(scope)` in front of a handler. -/
def requireScope (scope : String) (sessionToken : String) (idleTtlSeconds : Int) (next : AuthContext → Handler) :
    Handler :=
  getCurrentPrincipal sessionToken idleTtlSeconds fun principal =>
    if scope ∈ principal.scopes then next principal else .done (.error (.appError 403))

/-- A guarded route refuses a principal without the scope, and its session is touched all the same. -/
private theorem DbRequest.written_forbidden {r : DbRequest} {tables : Database} {scope token : String}
    {idleTtlSeconds : Int} {next : AuthContext → Handler}
    (hh : r.handler = requireScope scope token idleTtlSeconds next)
    (henv : r.repositories.adapter.Lawful) (hserved : ∀ n, (r.services n).fate = .served) (htoken : token ≠ "")
    {row : UserSession} (hs : tables.sessionOf (r.repositories.adapter.hashSessionToken token) = some row)
    (hget : row.Live (r.services 0).now) (htouch : row.Live (r.services 1).now) {access refresh : String}
    (ha : r.repositories.adapter.decrypt row.gotrueAccessToken = .ok access)
    (hr : r.repositories.adapter.decrypt row.gotrueRefreshToken = .ok refresh) :
    r.written tables =
      (tables.updateSessions (.slide (r.services 1).now
        (r.repositories.adapter.intervalLength (r.services 1).now idleTtlSeconds)) (·.id == row.id),
          .response 403) := by
  obtain ⟨dto, hdto⟩ := AdapterEnv.exec_get_live henv hs hget ha hr (r.services 0).draws
  obtain ⟨idle, hidle⟩ := AdapterEnv.exec_touch_live henv hs htouch idleTtlSeconds (r.services 1).draws
  have hfirst : r.repositories.exec r.services (tables, 0) (.session (.get token)) =
      ((tables, 1), .session (.session dto)) := by
    simp only [Repositories.exec, Repositories.serve, hserved, Repositories.statement, hdto]
  have hsecond : r.repositories.exec r.services (tables, 1) (.session (.touch token idleTtlSeconds)) =
      ((tables.updateSessions (.slide (r.services 1).now
        (r.repositories.adapter.intervalLength (r.services 1).now idleTtlSeconds)) (·.id == row.id), 2),
        .session (.touched idle)) := by
    simp only [Repositories.exec, Repositories.serve, hserved, Repositories.statement, hidle]
  unfold DbRequest.written
  rw [hh, requireScope, getCurrentPrincipal, if_neg htoken]
  simp only [Program.run, hfirst, hsecond, List.not_mem_nil, if_false]
  rfl

/-- The database after the login of `sampleSteps`. -/
def loggedIn : Database :=
  (sampleSteps.take 1).foldl (fun db step => (sampleEnv.execStep db step).1) (.empty oneMember)

/-- A request for a guarded `POST` route, with a session and without the scope; the idle TTL is 30 days. -/
def forbiddenRequest : DbRequest where
  repositories := ⟨sampleEnv, fun tables _ _ _ => (tables, .error (.identityMapping "IDENTITY_NOT_FOUND"))⟩
  services _ := ⟨1767225600000000, ⟨1, [], []⟩, .served⟩
  method := "POST"
  faults := ⟨false, false, false, false⟩
  handler := requireScope "booking.approve" "token-1" 2592000 fun _ => .done (.ok 200)

private theorem forbiddenRequest_written : ∃ row, loggedIn.sessionOf
    (sampleEnv.hashSessionToken "token-1") = some row ∧
    row.idleExpiresAt = 1767312000000000 ∧ row.absoluteExpiresAt = 1769817600000000 ∧
    forbiddenRequest.written loggedIn =
      (loggedIn.updateSessions (.slide 1767225600000000 2592000000000) (·.id == row.id), .response 403) := by
  have hsample : loggedIn = sampleDatabase := rfl
  obtain ⟨row, hs, hrev, habs, hidle, haccess, hrefresh⟩ := sampleDatabase_session
  rw [← hsample] at hs
  have hlive : row.Live 1767225600000000 := ⟨hrev, by rw [habs]; decide, by rw [hidle]; decide⟩
  have htoken : "token-1" ≠ "" := by decide
  have hhandler : forbiddenRequest.handler =
      requireScope "booking.approve" "token-1" 2592000 fun _ => .done (.ok 200) := rfl
  exact ⟨row, hs, hidle, habs, DbRequest.written_forbidden hhandler sampleEnv_lawful (fun _ => rfl) htoken hs hlive
    hlive haccess hrefresh⟩

/-- The same session, revoked by a request that answers 200. -/
def revokingRequest : DbRequest :=
  { forbiddenRequest with
    handler := .call (.session (.revoke "token-1")) fun
      | .session .revoked => .done (.ok 200)
      | answer => answer.propagate }

theorem request_all_or_nothing_revoke : revokingRequest.AllOrNothing repositoryConnection loggedIn := by
  have h2xx : (revokingRequest.written loggedIn).2.is2xx = true := by decide
  exact (revokingRequest.request_all_or_nothing loggedIn (by decide)).2 (Or.inr (Or.inl ⟨h2xx, rfl⟩))

/-- The request answers 403, and the idle expiry of its session has moved. -/
theorem forbidden_touch_stays :
    ¬ ∀ (r : DbRequest) (tables : Database), r.method ∈ mutatingMethods →
      r.AllOrNothing repositoryConnection tables := by
  intro hclaim
  obtain ⟨row, hs, hidle, habs, hwritten⟩ := forbiddenRequest_written
  have hall := hclaim forbiddenRequest loggedIn (by decide)
  obtain ⟨htables, hreply⟩ := forbiddenRequest.handled_pool loggedIn (by decide) (by decide)
  unfold DbRequest.AllOrNothing at hall
  rw [htables, hreply, hwritten] at hall
  -- the row of the session, with its new idle expiry and without
  have hsame := congrArg (fun db => db.sessionOf (sampleEnv.hashSessionToken "token-1")) hall
  have hmoved := Database.sessionOf_update_id hs (.slide 1767225600000000 2592000000000)
    (sampleEnv.hashSessionToken "token-1")
  rw [if_pos rfl] at hmoved
  have heq := hmoved.symm.trans (hsame.trans hs)
  have hback := congrArg UserSession.idleExpiresAt (Option.some.inj heq)
  simp only [SessionUpdate.slide, habs, hidle] at hback
  exact absurd hback (by decide)

end CleanBackend
