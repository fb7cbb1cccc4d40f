import CleanBackend.Auth.BrowserRoutes
import CleanBackend.Database.SessionHistory
import CleanBackend.Lib.Traced

/-!
# What a route does to the database

The log of a server accounts for its database (`CallsMade`): each logged call meets the next service, and has run the
function that `LoggedCall.run` says.  The database calls of a route are a part of its plan (`BrowserRequest.plan`),
from the first on, whatever the calls meet, and the whole plan where it succeeds (`Follows`); a request without the
CSRF token, or a callback with another state, has no plan.
-/

namespace CleanBackend

/-- A function of the database that ran, with its time and its reply. -/
inductive DbEvent where
  | session (e : SessionEvent)
  | identity (now : Int) (call : MapIdentityCall) (pick : Nat) (reply : Except SqlError MapReply)

/-- The calls of a plan. -/
inductive DbShape where
  | identity
  | create
  | get (tokenHash : Bytea)
  | touch (tokenHash : Bytea)
  | rotate (oldTokenHash : Bytea)
  | revoke (tokenHash : Bytea)
  | revokeAll
  deriving DecidableEq, Repr

/-- The call as a part of a plan, if it is one of the database. -/
def HandlerCall.shape (env : AdapterEnv) : HandlerCall → Option DbShape
  | draw | goTrue _ => none
  | identity _ _ _ _ => some .identity
  | session (.create _) => some .create
  | session (.get token) => some (.get (env.hashSessionToken token))
  | session (.touch token _) => some (.touch (env.hashSessionToken token))
  | session (.rotate p) => some (.rotate (env.hashSessionToken p.oldSessionToken))
  | session (.revoke token) => some (.revoke (env.hashSessionToken token))
  | session (.revokeAll _ _) => some .revokeAll

/-- The event ends the session of `h`. -/
def DbEvent.Ends (h : Bytea) : DbEvent → Prop
  | session ⟨_, .rotate _ a, .created _⟩ => a.oldTokenHash = h
  | session ⟨_, .revoke h', _⟩ => h' = h
  | _ => False

/-- The session calls of the events, latest first. -/
def sessionHistory (es : List DbEvent) : History :=
  (es.filterMap fun
    | .session e => some e
    | .identity _ _ _ _ => none).reverse

/-! ### The log and the database -/

/-- The database after a call, and the function that it ran; where the driver refused the call, it ran none. -/
def LoggedCall.run (env : AdapterEnv) (db : Database) (x : LoggedCall) : Database × Option DbEvent :=
  match x.call, x.service.fate with
  | .draw, _ | .goTrue _, _ | _, .refused _ => (db, none)
  | .session call, _ =>
    match env.sessionCall x.service.now x.service.draws call with
    | .error _ => (db, none)
    | .ok c =>
      let (db', reply) := c.exec db x.service.now
      (db', some (.session ⟨x.service.now, c, reply⟩))
  | .identity provider subject email provision, _ =>
    let call := x.service.mapIdentityCall provider subject email provision
    let (db', reply) := db.mapIdentity x.service.now call x.service.pick
    (db', some (.identity x.service.now call x.service.pick reply))

/-- The database after a list of calls, and the functions that they ran. -/
def replay (env : AdapterEnv) (db : Database) : List LoggedCall → Database × List DbEvent
  | [] => (db, [])
  | x :: xs =>
    let (db', es) := replay env (x.run env db).1 xs
    (db', (x.run env db).2.toList ++ es)

/-- A call of the server: it meets the next service, is logged, and runs its function. -/
structure Calls (env : AdapterEnv) (s : ServerState) (x : LoggedCall × Option DbEvent) (s' : ServerState) : Prop where
  service : x.1.service = s.meets 0
  event : x.2 = (x.1.run env s.db).2
  state : s' = ⟨(x.1.run env s.db).1, fun n => s.meets (n + 1), s.log ++ [x.1]⟩

/-- What a server has called since a state: it is logged, it met the services in order, and it accounts for the
database. -/
structure CallsMade (env : AdapterEnv) (s : ServerState) (xs : List LoggedCall) (es : List DbEvent)
    (s' : ServerState) : Prop where
  log : s'.log = s.log ++ xs
  services : xs.map LoggedCall.service = (List.range xs.length).map s.meets
  meets : s'.meets = fun n => s.meets (n + xs.length)
  replays : replay env s.db xs = (s'.db, es)

/-- What a call may do to the database: nothing, a session function, or `map_identity`. -/
theorem LoggedCall.run_cases (env : AdapterEnv) (db : Database) (x : LoggedCall) :
    x.run env db = (db, none) ∨
    (∃ call c, x.call = .session call ∧ env.sessionCall x.service.now x.service.draws call = .ok c ∧
      x.run env db = ((c.exec db x.service.now).1,
        some (.session ⟨x.service.now, c, (c.exec db x.service.now).2⟩))) ∨
    ∃ call, x.run env db = ((db.mapIdentity x.service.now call x.service.pick).1,
      some (.identity x.service.now call x.service.pick (db.mapIdentity x.service.now call x.service.pick).2)) := by
  unfold run
  cases hcall : x.call with
  | draw | goTrue request => exact Or.inl rfl
  | session call =>
    cases x.service.fate with
    | refused e => exact Or.inl rfl
    | served | answerLost e =>
      dsimp only
      cases hc : env.sessionCall x.service.now x.service.draws call with
      | error e => exact Or.inl rfl
      | ok c => exact Or.inr (Or.inl ⟨call, c, rfl, hc, rfl⟩)
  | identity provider subject email provision =>
    cases x.service.fate with
    | refused e => exact Or.inl rfl
    | served | answerLost e => exact Or.inr (Or.inr ⟨_, rfl⟩)

theorem Performs.callsMade {env : AdapterEnv} {s s' : ServerState} {xs : List (LoggedCall × Option DbEvent)}
    (h : Performs (Calls env) s xs s') : CallsMade env s (xs.map Prod.fst) (xs.filterMap Prod.snd) s' := by
  induction h with
  | nil s => exact ⟨(List.append_nil _).symm, rfl, rfl, rfl⟩
  | @cons s s₁ s' x xs hx _ ih =>
    obtain ⟨hservice, hevent, rfl⟩ := hx
    obtain ⟨hlog, hservices, hmeets, hreplay⟩ := ih
    have hrest : replay env (x.1.run env s.db).1 (xs.map Prod.fst) = (s'.db, xs.filterMap Prod.snd) := hreplay
    rw [List.map_cons]
    refine ⟨?_, ?_, ?_, ?_⟩
    · rw [hlog, List.append_assoc]
      rfl
    · rw [List.length_cons, List.range_succ_eq_map, List.map_cons, List.map_cons, List.map_map (f := Nat.succ),
        hservice, hservices]
      rfl
    · rw [hmeets, List.length_cons]
      rfl
    · rw [replay, hrest, ← hevent, List.filterMap_cons]
      cases x.2 <;> rfl

section Plan

variable (env : BackendEnv) (settings : AuthSettings) (r : BrowserRequest)

/-- The hash of the session cookie. -/
def BrowserRequest.tokenHash : Option Bytea :=
  match r.cookie settings.sessionCookieName with
  | none | some "" => none
  | some token => some (env.hashSessionToken token)

/-- The callback has the state of its cookie. -/
def BrowserRequest.stateMatches : Bool :=
  match env.unpackStatePayload (r.cookie settings.pkceStateCookieName), r.code, r.state with
  | some (expected, _), some _, some state => statesMatch expected state
  | _, _, _ => false

def BrowserRequest.csrfMatches : Bool :=
  verifyCsrf (r.header settings.csrfHeaderName) (r.cookie settings.csrfCookieName)

/-- The database calls of a request that succeeds. -/
def BrowserRequest.plan : List DbShape :=
  match r.route with
  | .login => []
  | .callback => if r.stateMatches env settings then [.identity, .create] else []
  | .me => (r.tokenHash env settings).elim [] fun h => [.get h, .touch h]
  | .refresh =>
    if r.csrfMatches settings then
      (r.tokenHash env settings).elim [] fun h => [.get h, .touch h, .get h, .rotate h]
    else []
  | .logout =>
    if r.csrfMatches settings then
      (r.tokenHash env settings).elim [] fun h => [.get h, .touch h, .get h, .revoke h]
    else []

end Plan

/-! ### Programs that follow a plan -/

/-- Every response of the exception has an error status. -/
def RouteException.Fails (e : RouteException) : Prop := ∀ request, 400 ≤ (e.response request).status

section Programs

variable (env : AdapterEnv)

/-- The database calls. -/
def shapesOf (xs : List (LoggedCall × Option DbEvent)) : List DbShape := xs.filterMap fun x => x.1.call.shape env

/-- The program makes a part of the calls of the plan and raises, or all of them and returns. -/
def Follows {α : Type} (plan : List DbShape) (x : RouteHandler α) (K : List DbEvent → α → Prop) : Prop :=
  Traced (Calls env) id x fun xs r =>
    shapesOf env xs <+: plan ∧ (∀ a, r = .ok a → shapesOf env xs = plan ∧ K (xs.filterMap Prod.snd) a) ∧
      ∀ e, r = .error e → e.Fails

/-- No database call. -/
def Quiet {α : Type} (x : RouteHandler α) : Prop :=
  Traced (Calls env) id x fun xs r => shapesOf env xs = [] ∧ xs.filterMap Prod.snd = [] ∧ ∀ e, r = .error e → e.Fails

end Programs

section Rules

variable {env : AdapterEnv} {α β : Type} {plan plan' : List DbShape} {x : RouteHandler α} {f : α → RouteHandler β}
  {K K' : List DbEvent → α → Prop} {L : List DbEvent → β → Prop}

theorem shapesOf_append (xs ys : List (LoggedCall × Option DbEvent)) :
    shapesOf env (xs ++ ys) = shapesOf env xs ++ shapesOf env ys := List.filterMap_append

namespace Quiet

private theorem pure (a : α) : Quiet env (Pure.pure a : RouteHandler α) :=
  Traced.pure ⟨rfl, rfl, fun e he => by cases he⟩

private theorem throw {e : RouteException} (h : e.Fails) : Quiet env (MonadExcept.throw e : RouteHandler α) :=
  Traced.throw ⟨rfl, rfl, fun e' he => by cases he; exact h⟩

private theorem bind (hx : Quiet env x) (hf : ∀ a, Quiet env (f a)) : Quiet env (x >>= f) := by
  refine Traced.bind hx (fun xs a h => ?_) fun xs e h => ?_
  · refine Traced.mono (hf a) fun ys r h' => ?_
    rw [shapesOf_append, List.filterMap_append, h.1, h.2.1]
    exact h'
  · exact ⟨h.1, h.2.1, fun e' he => by cases he; exact h.2.2 e rfl⟩

private theorem tryCatch {h : RouteException → RouteHandler α} (hx : Quiet env x)
    (hh : ∀ e, e.Fails → Quiet env (h e)) :
    Quiet env (MonadExcept.tryCatch x h) := by
  refine Traced.tryCatch hx (fun xs a h => ⟨h.1, h.2.1, fun e he => by cases he⟩) fun xs e h => ?_
  refine Traced.mono (hh e (h.2.2 e rfl)) fun ys r h' => ?_
  rw [shapesOf_append, List.filterMap_append, h.1, h.2.1]
  exact h'

/-- Without database calls there is no plan. -/
theorem follows (hx : Quiet env x) : Follows env [] x fun _ _ => True :=
  Traced.mono hx fun _ _ h => ⟨h.1 ▸ List.prefix_rfl, fun _ _ => ⟨h.1, trivial⟩, h.2.2⟩

/-- A step without database calls. -/
private theorem andThen (hx : Quiet env x) (hf : ∀ a, Follows env plan (f a) L) : Follows env plan (x >>= f) L := by
  refine Traced.bind hx (fun xs a h => ?_) fun xs e h => ?_
  · refine Traced.mono (hf a) fun ys r h' => ?_
    rw [shapesOf_append, List.filterMap_append, h.1, h.2.1]
    exact h'
  · exact ⟨h.1 ▸ List.nil_prefix, fun a ha => (by cases ha), fun e' he => by cases he; exact h.2.2 e rfl⟩

end Quiet

namespace Follows

theorem mono (h : Follows env plan x K) (hK : ∀ es a, K es a → K' es a) : Follows env plan x K' :=
  Traced.mono h fun _ _ hr => ⟨hr.1, fun a ha => ⟨(hr.2.1 a ha).1, hK _ a (hr.2.1 a ha).2⟩, hr.2.2⟩

private theorem pure {a : α} (h : K [] a) : Follows env [] (Pure.pure a : RouteHandler α) K := by
  refine Traced.pure ⟨List.prefix_rfl, fun b hb => ?_, fun e he => by cases he⟩
  cases hb
  exact ⟨rfl, h⟩

private theorem throw {e : RouteException} (h : e.Fails) :
    Follows env plan (MonadExcept.throw e : RouteHandler α) K := by
  refine Traced.throw ⟨List.nil_prefix, fun a ha => (by cases ha), fun e' he => ?_⟩
  cases he
  exact h

private theorem bind (hx : Follows env plan x K) (hf : ∀ es a, K es a →
    Follows env plan' (f a) fun es' b => L (es ++ es') b) :
    Follows env (plan ++ plan') (x >>= f) L := by
  refine Traced.bind hx (fun xs a h => ?_) fun xs e h => ?_
  · obtain ⟨hxs, hK⟩ := h.2.1 a rfl
    refine Traced.mono (hf _ a hK) fun ys r hr => ?_
    rw [shapesOf_append, hxs, List.filterMap_append]
    refine ⟨(List.prefix_append_right_inj _).2 hr.1, fun b hb => ?_, hr.2.2⟩
    rw [(hr.2.1 b hb).1]
    exact ⟨rfl, (hr.2.1 b hb).2⟩
  · refine ⟨h.1.trans (List.prefix_append ..), fun a ha => (by cases ha), fun e' he => ?_⟩
    cases he
    exact h.2.2 e rfl

/-- A value goes on. -/
private theorem pure_bind {a : α} (h : Follows env plan (f a) L) : Follows env plan (Pure.pure a >>= f) L := h

/-- An exception ends the program. -/
private theorem throw_bind {e : RouteException} (h : e.Fails) :
    Follows env plan ((MonadExcept.throw e : RouteHandler α) >>= f) L := throw h

/-- A step, then one without database calls. -/
private theorem andThen (hx : Follows env plan x K) (hf : ∀ es a, K es a →
    Follows env [] (f a) fun es' b => L (es ++ es') b) :
    Follows env plan (x >>= f) L := by
  have h := hx.bind hf
  rwa [List.append_nil] at h

end Follows

end Rules

theorem RouteException.fails_app {error : AppError} (h : Nat.ble 400 error.httpStatus = true) : (app error).Fails :=
  fun _ => Nat.le_of_ble_eq_true h

theorem RouteException.fails_unexpected : unexpected.Fails := fun _ => (by decide : 400 ≤ 500)

private theorem RouteException.fails_validation (errors : Json) : (requestValidation errors).Fails :=
  fun _ => (by decide : 400 ≤ 422)

private theorem RepositoryError.fails (e : RepositoryError) : e.routeException.Fails := by
  unfold routeException
  split <;> first
    | exact RouteException.fails_unexpected
    | exact RouteException.fails_app rfl

private theorem DriverError.fails (e : DriverError) : e.routeException.Fails := by
  cases e with
  | connection _ | postgres _ _ => exact RouteException.fails_app rfl
  | other => exact RouteException.fails_unexpected

/-! ### The calls without the database -/

namespace RouteHandler

section Quiet

variable (env : AdapterEnv)

private theorem quiet_nextService {call : HandlerCall} (hshape : call.shape env = none)
    (hrun : ∀ service db, LoggedCall.run env db ⟨call, service⟩ = (db, none)) : Quiet env (nextService call) := by
  intro s
  refine ⟨[(⟨call, s.meets 0⟩, none)], .single ⟨rfl, ?_, ?_⟩, ?_, rfl, fun e he => by cases he⟩
  · rw [id, hrun]
  · rw [id, hrun]
    rfl
  · unfold shapesOf
    rw [List.filterMap_cons, hshape]
    rfl

private theorem quiet_draw : Quiet env (nextService .draw) := quiet_nextService env rfl fun _ _ => rfl

private theorem quiet_tokenUrlsafe (nbytes : Nat) : Quiet env (tokenUrlsafe nbytes) :=
  (quiet_draw env).bind fun _ => .pure _

/-- `uuid.uuid4()` does not fail. -/
theorem traced_uuidHex : Traced (Calls env) id uuidHex fun xs r =>
    shapesOf env xs = [] ∧ xs.filterMap Prod.snd = [] ∧ ∃ a, r = .ok a :=
  fun s => ⟨[(⟨.draw, s.meets 0⟩, none)], .single ⟨rfl, rfl, rfl⟩, rfl, rfl, _, rfl⟩

private theorem quiet_datetimeNow : Quiet env datetimeNow := (quiet_draw env).bind fun _ => .pure _

private theorem quiet_validated {α : Type} (o : Option α) : Quiet env (validated o) := by
  cases o with
  | none => exact .throw RouteException.fails_unexpected
  | some a => exact .pure a

end Quiet

private theorem quiet_httpRequest (env : BackendEnv) (request : GoTrueRequest) :
    Quiet env.toAdapterEnv (httpRequest env request) := by
  unfold httpRequest
  split
  · exact .pure _
  · exact (quiet_nextService env.toAdapterEnv rfl fun _ _ => rfl).bind fun _ => .pure _

end RouteHandler

namespace SupabaseAuthClient

open RouteHandler

variable (env : BackendEnv) (client : SupabaseAuthClient)

private theorem quiet_request (method path : String) (json : Option Json) (headers : PyDict String String)
    (expectJson : Bool) : Quiet env.toAdapterEnv (client.request env method path json headers expectJson) := by
  unfold request
  refine (quiet_httpRequest env _).bind fun outcome => ?_
  split
  · exact .throw (RouteException.fails_app rfl)
  · exact .throw RouteException.fails_unexpected
  · split
    · exact .throw (RouteException.fails_app rfl)
    · split
      · exact .pure _
      · split
        · exact .throw RouteException.fails_unexpected
        · exact .pure _
        · exact .pure _

private theorem quiet_exchangeCode (code codeVerifier : String) :
    Quiet env.toAdapterEnv (client.exchangeCode env code codeVerifier) :=
  (client.quiet_request env _ _ _ _ _).bind fun _ => quiet_validated _ _

private theorem quiet_refresh (refreshToken : String) : Quiet env.toAdapterEnv (client.refresh env refreshToken) :=
  (client.quiet_request env _ _ _ _ _).bind fun _ => quiet_validated _ _

private theorem quiet_getUser (accessToken : String) : Quiet env.toAdapterEnv (client.getUser env accessToken) :=
  (client.quiet_request env _ _ _ _ _).bind fun _ => quiet_validated _ _

private theorem quiet_logout (accessToken : String) : Quiet env.toAdapterEnv (client.logout env accessToken) :=
  (client.quiet_request env _ _ _ _ _).bind fun _ => .pure _

end SupabaseAuthClient

/-! ### The calls of the database -/

private theorem Database.settle_created (db : Database) (r : Except SqlError (Database × Envelope CreatedSession))
    (d : ActiveSession) : (db.settle .created r).2 ≠ .session d := by
  rcases db.settle_cases .created r with ⟨e, -, h⟩ | ⟨db', e, -, h⟩ | ⟨db', c, -, h⟩ <;> rw [h] <;>
    intro he <;> cases he

namespace RouteHandler

private theorem result_error {answer : RepositoryAnswer} {e : RouteException}
    (h : answer.result = .error e) : e.Fails := by
  cases answer with
  | raised error =>
    cases h
    exact error.fails
  | created _ | session _ | touched _ | revoked | revokedCount _ => cases h

section Calls

variable {env : AdapterEnv}

/-- A call that the driver refuses runs nothing. -/
private theorem run_refused {service : Service} {e : DriverError} (h : service.fate = .refused e) (call : HandlerCall)
    (db : Database) : LoggedCall.run env db ⟨call, service⟩ = (db, none) := by
  unfold LoggedCall.run
  cases call <;> simp only [h]

/-- A database call that computes `body`, and leaves `event`. -/
private theorem traced_driverCall {α : Type} (call : HandlerCall) {x : RouteHandler α}
    (body : Database → Service → Database × Except RouteException α) (event : Database → Service → Option DbEvent)
    (hx : ∀ s, x s = driverCall (s.meets 0).fate (body s.db (s.meets 0)).1 (body s.db (s.meets 0)).2
      ⟨s.db, fun n => s.meets (n + 1), s.log ++ [⟨call, s.meets 0⟩]⟩)
    (hrun : ∀ db service, (∀ e, service.fate ≠ .refused e) →
      LoggedCall.run env db ⟨call, service⟩ = ((body db service).1, event db service)) :
    Traced (Calls env) id x fun xs r => ∃ db service e, xs = [(⟨call, service⟩, e)] ∧
      (∀ a, r = .ok a → e = event db service ∧ (body db service).2 = .ok a) ∧
      ∀ err, r = .error err → (∃ d : DriverError, err = d.routeException) ∨ (body db service).2 = .error err := by
  intro s
  rw [hx]
  have hcalls : ∀ {db e}, LoggedCall.run env s.db ⟨call, s.meets 0⟩ = (db, e) →
      Performs (Calls env) s [(⟨call, s.meets 0⟩, e)]
        ⟨db, fun n => s.meets (n + 1), s.log ++ [⟨call, s.meets 0⟩]⟩ := fun h => .single ⟨rfl, by rw [h], by rw [h]⟩
  cases hfate : (s.meets 0).fate with
  | served =>
    have hperforms := hcalls (hrun s.db (s.meets 0) fun e he => by cases hfate.symm.trans he)
    cases hr : (body s.db (s.meets 0)).2 with
    | ok a =>
      refine ⟨_, hperforms, s.db, s.meets 0, _, rfl, fun a' ha => ⟨rfl, ?_⟩, fun err he => by cases he⟩
      rw [hr]
      exact ha
    | error e =>
      refine ⟨_, hperforms, s.db, s.meets 0, _, rfl, fun a' ha => (by cases ha), fun err he => Or.inr ?_⟩
      rw [hr]
      exact he
  | refused e =>
    refine ⟨_, hcalls (run_refused hfate call s.db), s.db, s.meets 0, _, rfl, fun a ha => (by cases ha),
      fun err he => ?_⟩
    cases he
    exact Or.inl ⟨e, rfl⟩
  | answerLost e =>
    have hperforms := hcalls (hrun s.db (s.meets 0) fun e he => by cases hfate.symm.trans he)
    refine ⟨_, hperforms, s.db, s.meets 0, _, rfl, fun a ha => (by cases ha), fun err he => ?_⟩
    cases he
    exact Or.inl ⟨e, rfl⟩

/-- The event of a call of the repository. -/
def repositoryEvent (env : AdapterEnv) (call : RepositoryCall) (db : Database) (service : Service) : Option DbEvent :=
  match env.sessionCall service.now service.draws call with
  | .error _ => none
  | .ok c => some (.session ⟨service.now, c, (c.exec db service.now).2⟩)

/-- A call of the repository is in the log whatever happens; where it answers, its session function has run. -/
private theorem traced_repositoryCall (call : RepositoryCall) :
    Traced (Calls env) id (repositoryCall env call) fun xs r =>
      shapesOf env xs = ((HandlerCall.session call).shape env).toList ∧
      (∀ a, r = .ok a → ∃ t draws c db, env.sessionCall t draws call = .ok c ∧
        xs.filterMap Prod.snd = [.session ⟨t, c, (c.exec db t).2⟩] ∧ (env.exec db t draws call).2.result = .ok a) ∧
      ∀ e, r = .error e → e.Fails := by
  refine Traced.mono (traced_driverCall (.session call)
    (fun db service => ((env.exec db service.now service.draws call).1,
      (env.exec db service.now service.draws call).2.result)) (repositoryEvent env call) (fun s => rfl)
    fun db service hfate => ?_) fun xs r h => ?_
  · rw [AdapterEnv.exec_db, repositoryEvent]
    unfold LoggedCall.run
    cases hf : service.fate with
    | refused e => exact absurd hf (hfate e)
    | served | answerLost e =>
      dsimp only
      cases env.sessionCall service.now service.draws call <;> rfl
  · obtain ⟨db, service, e, rfl, hok, herror⟩ := h
    refine ⟨?_, fun a ha => ?_, fun err he => ?_⟩
    · unfold shapesOf
      rw [List.filterMap_cons]
      cases (HandlerCall.session call).shape env <;> rfl
    · obtain ⟨rfl, hresult⟩ := hok a ha
      dsimp only at hresult
      -- a call that answers has passed its arguments
      cases hc : env.sessionCall service.now service.draws call with
      | error e =>
        unfold AdapterEnv.exec at hresult
        rw [hc] at hresult
        cases hresult
      | ok c =>
        refine ⟨service.now, service.draws, c, db, hc, ?_, hresult⟩
        unfold repositoryEvent
        rw [hc]
        rfl
    · rcases herror err he with ⟨d, rfl⟩ | hresult
      · exact d.fails
      · exact result_error hresult

private theorem activeDTO_fields {data : PyDict String Json} {dto : ActiveSessionDTO}
    (h : env.activeDTO data = .ok dto) : (PyDict.get data "user_id").map strField = some (.ok dto.userId) ∧
      (PyDict.get data "tenant_id").map strField = some (.ok dto.tenantId) ∧
      optionalField strField (PyDict.get data "email") = .ok dto.email := by
  unfold AdapterEnv.activeDTO at h
  -- the fields in the order in which they are read and parsed
  obtain ⟨sessionId, -, h⟩ := bind_eq_ok h
  obtain ⟨userId, hu, h⟩ := bind_eq_ok h
  obtain ⟨tenantId, ht, h⟩ := bind_eq_ok h
  obtain ⟨accessCt, -, h⟩ := bind_eq_ok h
  obtain ⟨access, -, h⟩ := bind_eq_ok h
  obtain ⟨refreshCt, -, h⟩ := bind_eq_ok h
  obtain ⟨refresh, -, h⟩ := bind_eq_ok h
  obtain ⟨absolute, -, h⟩ := bind_eq_ok h
  obtain ⟨idle, -, h⟩ := bind_eq_ok h
  obtain ⟨sessionIdText, -, h⟩ := bind_eq_ok h
  obtain ⟨userIdText, hu', h⟩ := bind_eq_ok h
  obtain ⟨tenantIdText, ht', h⟩ := bind_eq_ok h
  obtain ⟨email, he, h⟩ := bind_eq_ok h
  obtain ⟨gotrueExpiresAt, -, h⟩ := bind_eq_ok h
  obtain ⟨absoluteExpiresAt, -, h⟩ := bind_eq_ok h
  obtain ⟨idleExpiresAt, -, h⟩ := bind_eq_ok h
  cases h
  unfold item at hu ht
  refine ⟨?_, ?_, he⟩
  · split at hu
    · rename_i value hv
      cases hu
      rw [hv, Option.map_some, hu']
    · cases hu
  · split at ht
    · rename_i value hv
      cases ht
      rw [hv, Option.map_some, ht']
    · cases ht

/-- `activeDTO` reads nothing but the row of `get_user_session`. -/
private theorem activeDTO_ok {reply : SessionReply} {dto : ActiveSessionDTO}
    (h : (callEnvelope (env.envelope reply) >>= env.activeDTO) = .ok dto) :
    ∃ d, reply = .session d ∧ dto.userId = uuidText d.userId ∧ dto.tenantId = uuidText d.tenantId ∧
      dto.email = d.email := by
  obtain ⟨data, hdata, h⟩ := bind_eq_ok h
  obtain ⟨hu, ht, he⟩ := activeDTO_fields h
  cases reply with
  | session d =>
    cases hdata
    refine ⟨d, rfl, ?_, ?_, ?_⟩
    · simpa [PyDict.get_cons, strField, eq_comm] using hu
    · simpa [PyDict.get_cons, strField, eq_comm] using ht
    · have : optionalField strField (some (.ofOption .str d.email)) =
          .ok dto.email := by simpa [PyDict.get_cons] using he
      rw [AdapterEnv.optionalField_str] at this
      exact (Except.ok.inj this).symm
  | created d => cases hdata; simp [PyDict.get_cons] at hu
  | touched i => cases hdata; simp [PyDict.get_cons] at hu
  | revoked => cases hdata; simp [PyDict.get_cons] at hu
  | revokedCount count => cases hdata; simp [PyDict.get_cons] at hu
  | failed e =>
    rw [AdapterEnv.envelope, callEnvelope_appError] at hdata
    cases hdata
  | aborted e => cases hdata

/-- The call of `get` is made in any case. -/
private theorem traced_get (token : String) :
    Traced (Calls env) id (getSession env token) fun xs r =>
      shapesOf env xs = [.get (env.hashSessionToken token)] ∧
      (∀ dto, r = .ok dto → ∃ t d, xs.filterMap Prod.snd = [.session ⟨t, .get (env.hashSessionToken token),
        .session d⟩] ∧
        dto.userId = uuidText d.userId ∧ dto.tenantId = uuidText d.tenantId ∧ dto.email = d.email) ∧
      ∀ e, r = .error e → e.Fails := by
  refine Traced.bind (traced_repositoryCall (.get token)) (fun xs answer h => ?_) fun xs e h => ?_
  · obtain ⟨hshapes, hok, -⟩ := h
    obtain ⟨t, draws, c, db, hc, hevents, hanswer⟩ := hok answer rfl
    cases hc
    have hread : (RepositoryAnswer.of .session (callEnvelope (env.envelope
        ((SessionCall.get (env.hashSessionToken token)).exec db t).2) >>= env.activeDTO)).result =
          .ok answer := hanswer
    cases hdto : callEnvelope (env.envelope ((SessionCall.get (env.hashSessionToken token)).exec db t).2) >>=
        env.activeDTO with
    | error e =>
      rw [hdto] at hread
      cases hread
    | ok dto =>
      rw [hdto] at hread
      cases hread
      obtain ⟨d, hd, hids⟩ := activeDTO_ok hdto
      refine Traced.pure ?_
      rw [List.append_nil, hshapes, hevents, hd]
      refine ⟨rfl, fun dto' he => ?_, fun e he => by cases he⟩
      cases he
      exact ⟨t, d, rfl, hids⟩
  · exact ⟨h.1, fun dto he => (by cases he), fun e' he => by cases he; exact h.2.2 e rfl⟩

private theorem follows_get (token : String) :
    Follows env [.get (env.hashSessionToken token)] (getSession env token) fun es dto =>
      ∃ t d, es = [.session ⟨t, .get (env.hashSessionToken token), .session d⟩] ∧
        dto.userId = uuidText d.userId ∧ dto.tenantId = uuidText d.tenantId ∧ dto.email = d.email :=
  Traced.mono (traced_get token) fun _ _ h => ⟨h.1 ▸ List.prefix_rfl, fun dto hr => ⟨h.1, h.2.1 dto hr⟩, h.2.2⟩

/-- A call of the repository is its plan. -/
private theorem follows_repositoryCall (call : RepositoryCall) :
    Follows env ((HandlerCall.session call).shape env).toList (repositoryCall env call) fun es a =>
      ∃ t draws c db, env.sessionCall t draws call = .ok c ∧ es = [.session ⟨t, c, (c.exec db t).2⟩] ∧
        (env.exec db t draws call).2.result = .ok a :=
  Traced.mono (traced_repositoryCall call) fun _ _ h => ⟨h.1 ▸ List.prefix_rfl, fun a hr => ⟨h.1, h.2.1 a hr⟩, h.2.2⟩

/-- `create` and `rotate` answer with nothing but a new session. -/
private theorem created_of_answer {reply : SessionReply} {answer : RepositoryAnswer} (hs : ∀ d, reply ≠ .session d)
    (h : (RepositoryAnswer.of .created (callEnvelope (env.envelope reply) >>= env.createdDTO)).result = .ok answer) :
    ∃ d, reply = .created d := by
  cases hread : callEnvelope (env.envelope reply) >>= env.createdDTO with
  | error e =>
    rw [hread] at h
    cases h
  | ok dto =>
    obtain ⟨data, hdata, hdto⟩ := bind_eq_ok hread
    unfold AdapterEnv.createdDTO at hdto
    obtain ⟨sessionInternalId, hid, -⟩ := bind_eq_ok hdto
    cases reply with
    | created d => exact ⟨d, rfl⟩
    | session d => exact absurd rfl (hs d)
    | touched i => cases hdata; simp [PyDict.get_cons, strField] at hid
    | revoked => cases hdata; simp [PyDict.get_cons, strField] at hid
    | revokedCount count => cases hdata; simp [PyDict.get_cons, strField] at hid
    | failed e =>
      rw [AdapterEnv.envelope, callEnvelope_appError] at hdata
      cases hdata
    | aborted e => cases hdata

private theorem follows_touch (token : String) (idleTtlSeconds : Int) :
    Follows env [.touch (env.hashSessionToken token)] (touchSession env token idleTtlSeconds) fun _ _ => True :=
  (follows_repositoryCall (.touch token idleTtlSeconds)).andThen fun _ _ _ => .pure trivial

private theorem follows_rotate (params : RotateParams) :
    Follows env [.rotate (env.hashSessionToken params.oldSessionToken)] (rotateSession env params) fun es _ =>
      ∃ t draws d, es = [.session ⟨t, .rotate draws.rowId (env.rotateArgs t draws params), .created d⟩] := by
  refine (follows_repositoryCall (.rotate params)).andThen fun es answer hK => ?_
  obtain ⟨t, draws, c, db, hc, rfl, hanswer⟩ := hK
  cases hc
  obtain ⟨d, hd⟩ := created_of_answer (db.settle_created _) hanswer
  refine .pure ⟨t, draws, d, ?_⟩
  rw [← hd]
  rfl

private theorem follows_revoke (token : String) :
    Follows env [.revoke (env.hashSessionToken token)] (revokeSession env token) fun es _ =>
      ∃ e ∈ es, e.Ends (env.hashSessionToken token) := by
  refine (follows_repositoryCall (.revoke token)).andThen fun es _ hK => ?_
  obtain ⟨t, draws, c, db, hc, rfl, -⟩ := hK
  cases hc
  exact .pure ⟨_, List.mem_singleton_self _, rfl⟩

private theorem follows_create {params : CreateParams} {userId tenantId : Uuid} (hu : params.userId = uuidText userId)
    (ht : params.tenantId = uuidText tenantId) :
    Follows env [.create] (createSession env params) fun es _ => ∃ t draws d,
      es = [.session ⟨t, .create draws.rowId (env.createArgs t draws params userId tenantId), .created d⟩] := by
  refine (follows_repositoryCall (.create params)).andThen fun es answer hK => ?_
  obtain ⟨t, draws, c, db, hc, rfl, hanswer⟩ := hK
  obtain ⟨userId', tenantId', hu', ht', hc'⟩ := AdapterEnv.sessionCall_create hc
  rw [hu, parseUuid_uuidText] at hu'
  rw [ht, parseUuid_uuidText] at ht'
  cases hu'
  cases ht'
  unfold AdapterEnv.exec at hanswer
  rw [hc] at hanswer
  subst hc'
  obtain ⟨d, hd⟩ := created_of_answer (db.settle_created _) hanswer
  refine .pure ⟨t, draws, d, ?_⟩
  rw [← hd]
  rfl

end Calls

/-- What the mapper makes of the reply of `map_identity`. -/
private theorem readIdentity_ok {env : BackendEnv} {reply : Except SqlError MapReply} {identity : InternalIdentity}
    (h : env.readIdentity (identityEnvelope reply) = .ok identity) :
    ∃ m, reply = .ok (.ok m) ∧ identity.userId = uuidText m.userId ∧ identity.tenantId = uuidText m.tenantId := by
  rcases reply with e | e | m
  · cases h
  · simp [identityEnvelope, appError, BackendEnv.readIdentity, PyDict.get_cons, Json.truthy] at h
  · refine ⟨m, rfl, ?_⟩
    have hemail : optionalField strField (some (.ofOption .str m.email)) = .ok m.email :=
      AdapterEnv.optionalField_str m.email
    simp [identityEnvelope, appOk, BackendEnv.readIdentity, BackendEnv.internalIdentity, PyDict.get_cons, Json.truthy,
      hemail, BackendEnv.pyStr] at h
    exact h ▸ ⟨rfl, rfl⟩

private theorem readIdentity_error {env : BackendEnv} {reply : Except SqlError MapReply} {e : RouteException}
    (h : env.readIdentity (identityEnvelope reply) = .error e) : e.Fails := by
  unfold BackendEnv.readIdentity at h
  split at h
  · cases h
    exact RepositoryError.fails _
  · split at h
    · split at h
      · unfold BackendEnv.internalIdentity at h
        split at h
        · cases h
        · cases h
          exact RouteException.fails_unexpected
      · cases h
        exact RouteException.fails_unexpected
    · dsimp only at h
      split at h
      · cases h
        unfold identityError
        split <;> exact RouteException.fails_app rfl
      · cases h
        exact RouteException.fails_unexpected
  · cases h
    exact RouteException.fails_app rfl

private theorem follows_mapIdentity (env : BackendEnv) (provider subject : String) (email : Option String)
    (provision : Bool) :
    Follows env.toAdapterEnv [.identity] (mapIdentity env provider subject email provision) fun es identity =>
      ∃ now call pick m, es = [.identity now call pick (.ok (.ok m))] ∧ call.provider = provider ∧
        call.subject = subject ∧ identity.userId = uuidText m.userId ∧ identity.tenantId = uuidText m.tenantId := by
  let runs (db : Database) (service : Service) :=
    db.mapIdentity service.now (service.mapIdentityCall provider subject email provision) service.pick
  refine Traced.mono (traced_driverCall (.identity provider subject email provision)
    (fun db service => ((runs db service).1, env.readIdentity (identityEnvelope (runs db service).2)))
    (fun db service => some (.identity service.now (service.mapIdentityCall provider subject email
      provision) service.pick (runs db service).2)) (fun s => rfl) fun db service hfate => ?_) fun xs r h => ?_
  · unfold LoggedCall.run
    cases hf : service.fate with
    | refused e => exact absurd hf (hfate e)
    | served | answerLost e => rfl
  · obtain ⟨db, service, e, rfl, hok, herror⟩ := h
    refine ⟨List.prefix_rfl, fun identity hr => ⟨rfl, ?_⟩, fun err he => ?_⟩
    · obtain ⟨rfl, hread⟩ := hok identity hr
      obtain ⟨m, hm, hids⟩ := readIdentity_ok hread
      refine ⟨service.now, service.mapIdentityCall provider subject email provision, service.pick, m, ?_,
        rfl, rfl, hids⟩
      rw [hm]
      rfl
    · rcases herror err he with ⟨d, rfl⟩ | hread
      · exact d.fails
      · exact readIdentity_error hread

end RouteHandler

/-! ### The routes -/

/-- The cookie as the first call of a request finds it: a session of the database. -/
def Resolved (h : Option Bytea) (es : List DbEvent) (d : ActiveSession) : Prop :=
  ∃ k t es', h = some k ∧ es = .session ⟨t, .get k, .session d⟩ :: es'

/-- The session of the cookie is ended. -/
def Ended (h : Option Bytea) (es : List DbEvent) : Prop := ∃ k, h = some k ∧ ∃ e ∈ es, e.Ends k

namespace BrowserRoutes

open RouteHandler

variable (env : BackendEnv) (settings : AuthSettings) (app : AppState) (r : BrowserRequest) (requestId : String)

private theorem quiet_provided (found : Bool) : Quiet env.toAdapterEnv (provided found) := by
  unfold provided
  split
  · exact .pure _
  · exact .throw RouteException.fails_unexpected

private theorem quiet_provideSessionRepository : Quiet env.toAdapterEnv (provideSessionRepository env settings app) :=
  (quiet_provided env _).bind fun _ => quiet_provided env _

private theorem quiet_gotrueExpiry (tokens : GoTrueTokenSet) : Quiet env.toAdapterEnv (gotrueExpiry tokens) := by
  refine (quiet_datetimeNow _).bind fun now => ?_
  cases datetimeAfter now tokens.expiresIn with
  | ok gotrueExpiresAt => exact .pure _
  | error e => exact .throw e.fails

private theorem quiet_provideSupabaseAuthClient : Quiet env.toAdapterEnv (provideSupabaseAuthClient app) := by
  unfold provideSupabaseAuthClient
  split
  · exact .pure _
  · exact .throw RouteException.fails_unexpected

variable {r} in
/-- The token of a request with a session cookie. -/
private theorem tokenHash_some {h : Bytea} (hr : r.tokenHash env settings = some h) :
    ∃ token, r.cookie settings.sessionCookieName = some token ∧ token ≠ "" ∧ h = env.hashSessionToken token := by
  unfold BrowserRequest.tokenHash at hr
  split at hr
  · cases hr
  · cases hr
  · rename_i token hne hc
    cases hr
    exact ⟨token, hc, hne, rfl⟩

variable {r} in
private theorem tokenHash_of_cookie {token : String} (hc : r.cookie settings.sessionCookieName = some token)
    (hne : token ≠ "") :
    r.tokenHash env settings = some (env.hashSessionToken token) := by
  unfold BrowserRequest.tokenHash
  split
  · rename_i hn
    cases hc.symm.trans hn
  · rename_i he
    exact absurd (Option.some.inj (hc.symm.trans he)) hne
  · rename_i token' _ hc'
    cases hc.symm.trans hc'
    rfl

theorem follows_getCurrentPrincipal :
    Follows env.toAdapterEnv ((r.tokenHash env settings).elim [] fun h => [.get h, .touch h])
      (getCurrentPrincipal env settings app r) fun es p => ∃ d, Resolved (r.tokenHash env settings) es d ∧
        p.userId = uuidText d.userId ∧
        p.tenantId = uuidText d.tenantId ∧ p.email = d.email ∧ p.roles = [] ∧ p.scopes = [] := by
  unfold getCurrentPrincipal
  refine (quiet_provideSessionRepository env settings app).andThen fun _ => ?_
  split
  · exact .throw (RouteException.fails_app rfl)
  · exact .throw (RouteException.fails_app rfl)
  · rename_i token hne hc
    rw [tokenHash_of_cookie env settings hc hne]
    show Follows env.toAdapterEnv ([.get (env.hashSessionToken token)] ++ [.touch (env.hashSessionToken token)]) _ _
    refine (follows_get token).bind fun es dto hK => ?_
    obtain ⟨t, d, rfl, hu, ht, he⟩ := hK
    refine (follows_touch token _).andThen fun es _ _ => .pure ?_
    exact ⟨d, ⟨_, t, _, rfl, rfl⟩, hu, ht, he, rfl, rfl⟩

theorem follows_login : Quiet env.toAdapterEnv (login env settings app) :=
  (quiet_provideSupabaseAuthClient env app).bind fun _ => (quiet_tokenUrlsafe _ _).bind fun _ =>
    (quiet_tokenUrlsafe _ _).bind fun _ => .pure _

/-- The body of `GET /auth/me`. -/
def meBody (d : ActiveSession) : Json :=
  apiSuccess requestId (.obj [("user_id", .str (uuidText d.userId)), ("tenant_id", .str (uuidText d.tenantId)),
    ("email", .ofOption .str d.email), ("scopes", .arr [])])

theorem follows_me :
    Follows env.toAdapterEnv ((r.tokenHash env settings).elim [] fun h => [.get h, .touch h])
      (me env settings app r requestId) fun es response => ∃ d, Resolved (r.tokenHash env settings) es d ∧
        response = jsonResponse 200 (meBody requestId d) := by
  refine (follows_getCurrentPrincipal env settings app r).andThen fun es p hK => ?_
  obtain ⟨d, hd, hu, ht, he, -, hs⟩ := hK
  refine .pure ⟨d, by rwa [List.append_nil], ?_⟩
  rw [hu, ht, he, hs]
  rfl

/-- A handler under the CSRF check and the principal, with a plan of its own. -/
private theorem follows_guarded (rest : Bytea → List DbShape) {handler : AuthContext → RouteHandler HttpResponse}
    (hrest : ∀ h, r.tokenHash env settings = some h → ∀ p, Follows env.toAdapterEnv (rest h) (handler p) fun es _ =>
      ∃ e ∈ es, e.Ends h) :
    Follows env.toAdapterEnv (if r.csrfMatches settings then
        (r.tokenHash env settings).elim [] fun h => [.get h, .touch h] ++ rest h
      else [])
      (do
        requireCsrf settings r
        let principal ← getCurrentPrincipal env settings app r
        handler principal)
      fun es _ => ∃ d, Resolved (r.tokenHash env settings) es d ∧ Ended (r.tokenHash env settings) es := by
  have hcsrf : requireCsrf settings r = if r.csrfMatches settings then Pure.pure () else
      throw (.app (.csrfValidation "CSRF validation failed")) := rfl
  rw [hcsrf]
  split
  · refine (Quiet.pure ()).andThen fun _ => ?_
    have hp := follows_getCurrentPrincipal env settings app r
    cases hh : r.tokenHash env settings with
    | none =>
      rw [hh] at hp
      refine hp.andThen fun es p hK => ?_
      obtain ⟨d, ⟨k, t, es', hk, -⟩, -⟩ := hK
      cases hk
    | some h =>
      rw [hh] at hp
      refine hp.bind fun es p hK => (hrest h hh p).mono fun es' _ hends => ?_
      obtain ⟨d, ⟨k, t, es'', hk, rfl⟩, -⟩ := hK
      obtain ⟨e, he, hends⟩ := hends
      exact ⟨d, ⟨k, t, _, hk, rfl⟩, h, rfl, e, List.mem_append_right _ he, hends⟩
  · exact Follows.throw (RouteException.fails_app rfl)

theorem follows_refresh :
    Follows env.toAdapterEnv (if r.csrfMatches settings then
        (r.tokenHash env settings).elim [] fun h => [.get h, .touch h, .get h, .rotate h]
      else []) (refresh env settings app r requestId)
      fun es _ => ∃ d, Resolved (r.tokenHash env settings) es d ∧ Ended (r.tokenHash env settings) es := by
  refine follows_guarded env settings app r (fun h => [.get h, .rotate h]) fun h hh _ => ?_
  obtain ⟨token, hc, -, rfl⟩ := tokenHash_some env settings hh
  have htoken : sessionTokenOf settings r = token := by
    unfold sessionTokenOf
    rw [hc]
    rfl
  refine (quiet_provideSupabaseAuthClient env app).andThen fun client => ?_
  rw [htoken]
  refine Follows.bind (follows_get token) fun _ current _ => ?_
  refine (client.quiet_refresh env _).andThen fun tokens => ?_
  refine (quiet_tokenUrlsafe _ _).andThen fun newSessionToken => ?_
  refine (quiet_gotrueExpiry env tokens).andThen fun gotrueExpiresAt => ?_
  refine (follows_rotate (rotateParams settings token newSessionToken tokens gotrueExpiresAt)).andThen
    fun es'' _ hK =>
    (quiet_tokenUrlsafe _ _).andThen fun _ => .pure ?_
  obtain ⟨t, draws, d, rfl⟩ := hK
  exact ⟨_, List.mem_append_right _ (List.mem_append_left _ (List.mem_singleton_self _)), rfl⟩

/-- A session that is gone is found to be gone by the call. -/
private theorem follows_currentSession (token : String) :
    Follows env.toAdapterEnv [.get (env.hashSessionToken token)] (currentSession env token) fun _ _ => True := by
  have hget : Traced (Calls env.toAdapterEnv) id (do return some (← getSession env.toAdapterEnv token) :
      RouteHandler _)
      fun xs r => shapesOf env.toAdapterEnv xs = [.get (env.hashSessionToken token)] ∧ ∀ e,
        r = .error e → e.Fails := by
    refine Traced.bind (traced_get token) (fun xs dto h => Traced.pure ?_) fun xs e h => ?_
    · rw [List.append_nil]
      exact ⟨h.1, fun e he => by cases he⟩
    · exact ⟨h.1, fun e' he => by cases he; exact h.2.2 e rfl⟩
  refine Traced.tryCatch hget (fun xs a h => ⟨h.1 ▸ List.prefix_rfl, fun b _ => ⟨h.1, trivial⟩,
    fun e he => by cases he⟩) fun xs e h => ?_
  split
  · refine Traced.pure ?_
    rw [List.append_nil]
    exact ⟨h.1 ▸ List.prefix_rfl, fun b _ => ⟨h.1, trivial⟩, fun e he => by cases he⟩
  · refine Traced.throw ?_
    rw [List.append_nil]
    exact ⟨h.1 ▸ List.prefix_rfl, fun b hb => (by cases hb), fun e' he => by cases he; exact h.2 e rfl⟩

private theorem quiet_gotrueLogout (client : SupabaseAuthClient) (current : ActiveSessionDTO) :
    Quiet env.toAdapterEnv (gotrueLogout env client current) := by
  refine Quiet.tryCatch (client.quiet_logout env _) fun e he => ?_
  split
  · exact .pure ()
  · exact .throw he

theorem follows_logout :
    Follows env.toAdapterEnv (if r.csrfMatches settings then
        (r.tokenHash env settings).elim [] fun h => [.get h, .touch h, .get h, .revoke h]
      else []) (logout env settings app r requestId)
      fun es _ => ∃ d, Resolved (r.tokenHash env settings) es d ∧ Ended (r.tokenHash env settings) es := by
  refine follows_guarded env settings app r (fun h => [.get h, .revoke h]) fun h hh _ => ?_
  obtain ⟨token, hc, -, rfl⟩ := tokenHash_some env settings hh
  have htoken : sessionTokenOf settings r = token := by
    unfold sessionTokenOf
    rw [hc]
    rfl
  refine (quiet_provideSupabaseAuthClient env app).andThen fun client => ?_
  rw [htoken]
  refine Follows.bind (follows_currentSession env token) fun es current _ => ?_
  have hends : ∀ es', (∃ e ∈ es', e.Ends (env.hashSessionToken token)) →
      ∃ e ∈ es ++ (es' ++ []), e.Ends (env.hashSessionToken token) := fun es' ⟨e, he, h⟩ =>
    ⟨e, List.mem_append_right _ (List.mem_append_left _ he), h⟩
  cases current with
  | none => exact (follows_revoke token).andThen fun es' _ hK => .pure (hends es' hK)
  | some current =>
    refine (quiet_gotrueLogout env client current).andThen fun _ => ?_
    exact (follows_revoke token).andThen fun es' _ hK => .pure (hends es' hK)

/-- The callback from the state check on. -/
private theorem follows_exchange (client : SupabaseAuthClient) (code verifier : String) :
    Follows env.toAdapterEnv [.identity, .create]
      (do
        let tokens ← client.exchangeCode env code verifier
        let user ← client.getUser env tokens.accessToken
        let identity ← mapIdentity env "supabase" user.id user.email settings.identityAutoProvision
        let sessionToken ← generateSessionToken
        let gotrueExpiresAt ← gotrueExpiry tokens
        createSession env.toAdapterEnv (createParams settings r sessionToken identity tokens gotrueExpiresAt)
        let csrfToken ← generateCsrfToken
        return (((redirectResponse settings.frontendPostLoginUrl).with (settings.setSessionCookie sessionToken)).with
          (settings.setCsrfCookie csrfToken)).with settings.clearPkceStateCookie)
      fun es _ => ∃ now call pick m t id a d,
        es = [.identity now call pick (.ok (.ok m)), .session ⟨t, .create id a, .created d⟩] ∧
          call.provider = "supabase" ∧ a.userId = m.userId ∧ a.tenantId = m.tenantId := by
  refine (client.quiet_exchangeCode env _ _).andThen fun tokens => ?_
  refine (client.quiet_getUser env _).andThen fun user => ?_
  show Follows env.toAdapterEnv ([.identity] ++ [.create]) _ _
  refine Follows.bind (follows_mapIdentity env _ _ _ _) fun es identity hK => ?_
  obtain ⟨now, call, pick, m, rfl, hp, -, hu, ht⟩ := hK
  refine (quiet_tokenUrlsafe _ _).andThen fun sessionToken => ?_
  refine (quiet_gotrueExpiry env tokens).andThen fun gotrueExpiresAt => ?_
  refine (follows_create hu ht).andThen fun es' _ hK => ?_
  obtain ⟨t, draws, d, rfl⟩ := hK
  refine (quiet_tokenUrlsafe _ _).andThen fun _ => .pure ?_
  exact ⟨now, call, pick, m, t, _, _, d, rfl, hp, rfl, rfl⟩

/-- The session of a callback is that of the identity it has mapped. -/
theorem follows_callback :
    Follows env.toAdapterEnv (if r.stateMatches env settings then [.identity, .create] else [])
      (callback env settings app r) fun es _ => ∃ now call pick m t id a d,
        es = [.identity now call pick (.ok (.ok m)), .session ⟨t, .create id a, .created d⟩] ∧
          call.provider = "supabase" ∧ a.userId = m.userId ∧ a.tenantId = m.tenantId := by
  unfold callback
  refine (quiet_provideSupabaseAuthClient env app).andThen fun client => ?_
  refine (quiet_provided env _).andThen fun _ => ?_
  refine (quiet_provideSessionRepository env settings app).andThen fun _ => ?_
  unfold callbackParams BrowserRequest.stateMatches
  cases hcode : r.code with
  | none => cases r.state <;> exact Follows.throw_bind (RouteException.fails_validation _)
  | some code =>
    cases hstate : r.state with
    | none => exact Follows.throw_bind (RouteException.fails_validation _)
    | some state =>
      refine Follows.pure_bind ?_
      unfold callbackVerifier
      rcases env.unpackStatePayload (r.cookie settings.pkceStateCookieName) with _ | ⟨expected, verifier⟩
      · exact Follows.throw_bind (RouteException.fails_app rfl)
      · dsimp only
        by_cases hm : statesMatch expected state = true
        · rw [if_pos hm, if_pos hm]
          exact Follows.pure_bind (follows_exchange env settings r client code verifier)
        · rw [if_neg hm, if_neg hm]
          exact Follows.throw_bind (RouteException.fails_app rfl)

end BrowserRoutes

end CleanBackend
