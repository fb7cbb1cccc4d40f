import CleanBackend.Auth.RequestTrace
import CleanBackend.Auth.TokenBlind
import CleanBackend.Authorization.ShippedPolicy
import CleanBackend.Core.GlobalCeiling

/-!
# The two layers of authorization

The routes of `modules/_authz_demo`: `approve` behind the coarse gate, `edit` behind the check of the service,
`limited` behind a limit of the user.  The principal is that of a dependency which may be overridden.  Whatever the
policy, the items of other tenants are as if they were not there (`demo_items_confined`); a principal that comes from
a session has no roles and no scopes, and passes neither layer with the shipped policy (`demo_fails_closed`); and
however many sessions a user has, its bucket is held to the limit of the route (`limited_ceiling`).
-/

namespace CleanBackend

/-! ### Requests -/

/-- `_DemoItem` -/
structure DemoItem where
  ownerId : String
  tenantId : String
  deriving DecidableEq, Repr

/-- `DEMO_ITEMS` -/
def demoItems : PyDict String DemoItem :=
  [("item-owned", ⟨"user-owner", "tenant-1"⟩), ("item-other", ⟨"someone-else", "tenant-1"⟩),
    ("item-foreign", ⟨"user-owner", "tenant-2"⟩)]

inductive DemoRoute where
  | approve
  | limited
  | edit (itemId : String)
  deriving DecidableEq, Repr

def DemoRoute.path : DemoRoute → String
  | approve => "/_authz-demo/approve"
  | limited => "/_authz-demo/limited"
  | edit itemId => "/_authz-demo/" ++ itemId ++ "/edit"

/-- A `POST` request, with the time at which the limiter checks it and the id that it is given. -/
structure DemoRequest where
  route : DemoRoute
  now : ℚ
  requestId : String
  client : Option String
  headers : PyDict String String
  cookies : PyDict String String
  deriving DecidableEq, Repr

/-- What the auth dependencies read of it. -/
def DemoRequest.browser (r : DemoRequest) : BrowserRequest where
  route := .me
  headers := r.headers
  cookies := r.cookies
  code := none
  state := none
  clientHost := r.client

/-! ### Handlers -/

/-- What a route raises. -/
inductive DemoException where
  | route (e : RouteException)
  | rateLimited (exc : RateLimitExceededError)

/-- A handler that may ask the limiter, whose state is the second one. -/
abbrev DemoHandler (β : Type) := EStateM DemoException (ServerState × β)

/-- A handler that does not. -/
def RouteHandler.lift {α β : Type} (m : RouteHandler α) : DemoHandler β α := fun s =>
  match m s.1 with
  | .ok a s' => .ok a (s', s.2)
  | .error e s' => .error (.route e) (s', s.2)

/-- `has_scope` -/
def AuthorizationService.hasScope (_service : AuthorizationService) (principal : AuthContext)
    (scope : String) : Bool :=
  decide (scope ∈ principal.scopes)

structure DemoApp (β : Type) where
  settings : AuthSettings
  /-- the dependency `get_current_principal`, or what overrides it -/
  currentPrincipal : BrowserRequest → RouteHandler AuthContext
  /-- `none` if the policy does not load -/
  authorization : Option AuthorizationService
  limiter : Option (RateLimiter β)
  rateLimits : RateLimitSettings
  items : PyDict String DemoItem

namespace DemoApp

open BrowserRoutes

variable {β : Type} (A : DemoApp β) (r : DemoRequest)

def context : RequestContext := ⟨A.settings.apiPrefix ++ r.route.path, "POST", r.requestId⟩

def provideAuthorizationService : RouteHandler AuthorizationService :=
  match A.authorization with
  | some service => return service
  | none => throw .unexpected

/-- `require_scope` -/
def requireScope (scope : String) : RouteHandler AuthContext := do
  let principal ← A.currentPrincipal r.browser
  let service ← A.provideAuthorizationService
  if service.hasScope principal scope then return principal
  else throw (.app (.forbidden "Not allowed" [("missing_scope", .str scope)]))

/-- `rate_limit`, with the principal that it depends on. -/
def rateLimitFor (ruleName : String) (principal : AuthContext) : DemoHandler β Unit := fun s =>
  let request : HttpRequest := ⟨r.client, r.headers, (A.context r).path, "POST"⟩
  match rateLimit ruleName A.limiter A.rateLimits s.2 r.now ⟨principal.userId, principal.tenantId⟩ request with
  | none => .error (.route .unexpected) s
  | some (.error exc, limiter) => .error (.rateLimited exc) (s.1, limiter)
  | some (.ok (), limiter) => .ok () (s.1, limiter)

def approve : RouteHandler HttpResponse := do
  requireCsrf A.settings r.browser
  let principal ← A.requireScope r (scopeFor "booking" "approve")
  return jsonResponse 200 (apiSuccess r.requestId (.obj [("approved", .bool true), ("by", .str principal.userId)]))

def limited : DemoHandler β HttpResponse := do
  RouteHandler.lift (requireCsrf A.settings r.browser)
  let principal ← RouteHandler.lift (A.currentPrincipal r.browser)
  A.rateLimitFor r "booking.create" principal
  return jsonResponse 200 (apiSuccess r.requestId (.obj [("ok", .bool true), ("by", .str principal.userId)]))

/-- The context of `edit`. -/
def editContext (principal : AuthContext) (itemId : String) (item : DemoItem) : ResourceContext where
  actorUserId := principal.userId
  tenantId := principal.tenantId
  roles := principal.roles.toFinset
  action := "update"
  resourceType := "profile"
  resourceId := some itemId
  resourceOwnerId := some item.ownerId
  assignedUserIds := ∅
  resourceTenantId := some item.tenantId

/-- `authorization.enforce`; that a resource of another tenant exists is hidden. -/
def enforceOrHide (service : AuthorizationService) (ctx : ResourceContext) : RouteHandler Unit :=
  match service.enforce ctx with
  | .ok () => return ()
  | .error .evaluation => throw .unexpected
  | .error (.forbidden exc) =>
    if PyDict.get exc.details "reason" = some "cross_tenant" then throw (.app .notFound)
    else throw (.app (.forbidden exc.message (exc.details.map fun entry => (entry.1, .str entry.2))))

def edit (itemId : String) : RouteHandler HttpResponse := do
  requireCsrf A.settings r.browser
  let principal ← A.currentPrincipal r.browser
  let service ← A.provideAuthorizationService
  match A.items.get itemId with
  | none => throw (.app .notFound)
  | some item =>
    enforceOrHide service (editContext principal itemId item)
    return jsonResponse 200 (apiSuccess r.requestId (.obj [("edited", .str itemId), ("by", .str principal.userId)]))

def handle : DemoHandler β HttpResponse :=
  match r.route with
  | .approve => RouteHandler.lift (A.approve r)
  | .limited => A.limited r
  | .edit itemId => RouteHandler.lift (A.edit r itemId)

/-- The exception handlers. -/
def conclude : EStateM.Result DemoException (ServerState × β) HttpResponse → StackResponse × ServerState × β
  | .ok response s => (⟨response, []⟩, s)
  | .error (.route e) s => (⟨e.response (A.context r), []⟩, s)
  | .error (.rateLimited exc) s => (handleRateLimitError (A.context r) exc, s)

def respond (s : ServerState × β) : StackResponse × ServerState × β := A.conclude r (A.handle r s)

/-- The dependencies that every route has. -/
def authenticate : RouteHandler AuthContext := do
  requireCsrf A.settings r.browser
  A.currentPrincipal r.browser

end DemoApp

/-- A request, the principal that it is resolved to, and the response. -/
structure DemoExchange where
  request : DemoRequest
  principal : Option AuthContext
  response : StackResponse

namespace DemoApp

variable {β : Type} (A : DemoApp β)

def principalOf (r : DemoRequest) (s : ServerState) : Option AuthContext :=
  match A.authenticate r s with
  | .ok principal _ => some principal
  | .error _ _ => none

def exchange (s : ServerState × β) (r : DemoRequest) : DemoExchange := ⟨r, A.principalOf r s.1, (A.respond r s).1⟩

def serve (s : ServerState × β) : List DemoRequest → List DemoExchange
  | [] => []
  | r :: requests => A.exchange s r :: serve (A.respond r s).2 requests

end DemoApp

/-! ### After the dependencies -/

namespace DemoApp

open BrowserRoutes

variable {β : Type} (A : DemoApp β) (r : DemoRequest) (principal : AuthContext)

/-- The item, if it is of the tenant. -/
def visible (items : PyDict String DemoItem) (tenantId itemId : String) : Option DemoItem :=
  (items.get itemId).filter fun item => decide (item.tenantId = tenantId)

/-- What `edit` raises on an item of the tenant of the principal, or on none. -/
def editRaises (service : AuthorizationService) (itemId : String) : Option DemoItem → Option RouteException
  | none => some (.app .notFound)
  | some item =>
    match service.enforcer.enforce (editContext principal itemId item).request with
    | none => some .unexpected
    | some false =>
      some (.app (.forbidden "Not allowed" [("resource_type", .str "profile"), ("action", .str "update")]))
    | some true => none

/-- What the layer of a route raises. -/
def layerRaises : DemoRoute → Option RouteException
  | .limited => none
  | .approve =>
    match A.authorization with
    | none => some .unexpected
    | some service =>
      if service.hasScope principal (scopeFor "booking" "approve") then none
      else some (.app (.forbidden "Not allowed" [("missing_scope", .str (scopeFor "booking" "approve"))]))
  | .edit itemId =>
    match A.authorization with
    | none => some .unexpected
    | some service => editRaises principal service itemId (visible A.items principal.tenantId itemId)

/-- The response of a route that raises nothing. -/
def accepted : DemoRoute → HttpResponse
  | .approve =>
    jsonResponse 200 (apiSuccess r.requestId (.obj [("approved", .bool true), ("by", .str principal.userId)]))
  | .limited => jsonResponse 200 (apiSuccess r.requestId (.obj [("ok", .bool true), ("by", .str principal.userId)]))
  | .edit itemId =>
    jsonResponse 200 (apiSuccess r.requestId (.obj [("edited", .str itemId), ("by", .str principal.userId)]))

/-- The limit of a route. -/
def limitOf : DemoRoute → DemoHandler β Unit
  | .limited => A.rateLimitFor r "booking.create" principal
  | .approve | .edit _ => return ()

/-- A route after its dependencies. -/
def afterPrincipal (s : ServerState × β) : EStateM.Result DemoException (ServerState × β) HttpResponse :=
  match A.layerRaises principal r.route with
  | some e => .error (.route e) s
  | none =>
    match A.limitOf r principal r.route s with
    | .error e s' => .error e s'
    | .ok () s' => .ok (accepted r principal r.route) s'

variable {A r principal}

/-- A resource of the tenant is what the policy makes it. -/
private theorem enforceOrHide_own {service : AuthorizationService} {ctx : ResourceContext}
    (h : ctx.crossTenant = false) (s : ServerState) :
    enforceOrHide service ctx s =
      match service.enforcer.enforce ctx.request with
      | none => .error .unexpected s
      | some false => .error (.app (.forbidden "Not allowed"
          [("resource_type", .str ctx.resourceType), ("action", .str ctx.action)])) s
      | some true => .ok () s := by
  unfold enforceOrHide AuthorizationService.enforce
  rw [h]
  cases service.enforcer.enforce ctx.request with
  | none => rfl
  | some allowed => cases allowed <;> rfl

private theorem enforceOrHide_other {service : AuthorizationService} {ctx : ResourceContext}
    (h : ctx.crossTenant = true) (s : ServerState) : enforceOrHide service ctx s = .error (.app .notFound) s := by
  unfold enforceOrHide AuthorizationService.enforce
  rw [h]
  rfl

/-- An item of another tenant is as good as absent. -/
private theorem edit_item (service : AuthorizationService) (itemId : String) (item : DemoItem) (s : ServerState) :
    enforceOrHide service (editContext principal itemId item) s =
      match editRaises principal service itemId
        ((some item).filter fun item => decide (item.tenantId = principal.tenantId)) with
      | some e => .error e s
      | none => .ok () s := by
  by_cases htenant : item.tenantId = principal.tenantId
  · have hcross : (editContext principal itemId item).crossTenant = false :=
      ResourceContext.crossTenant_eq_false.2 (Or.inr (congrArg some htenant))
    rw [enforceOrHide_own hcross, Option.filter_some, if_pos (by simpa using htenant)]
    unfold editRaises
    dsimp only
    cases service.enforcer.enforce (editContext principal itemId item).request with
    | none => rfl
    | some allowed => cases allowed <;> rfl
  · have hcross : (editContext principal itemId item).crossTenant = true := by
      simpa [ResourceContext.crossTenant, editContext] using htenant
    rw [enforceOrHide_other hcross, Option.filter_some, if_neg (by simpa using htenant)]
    rfl

private theorem approve_eq (s : ServerState) :
    A.approve r s =
      match A.authenticate r s with
      | .error e s' => .error e s'
      | .ok principal s' =>
        match A.layerRaises principal .approve with
        | some e => .error e s'
        | none => .ok (accepted r principal .approve) s' := by
  unfold approve requireScope provideAuthorizationService authenticate layerRaises
  simp only [bind, EStateM.bind]
  cases requireCsrf A.settings r.browser s with
  | error e s₁ => rfl
  | ok _ s₁ =>
    dsimp only
    cases A.currentPrincipal r.browser s₁ with
    | error e s₂ => rfl
    | ok principal s₂ =>
      dsimp only
      cases A.authorization with
      | none => rfl
      | some service =>
        dsimp only [pure, EStateM.pure]
        cases service.hasScope principal (scopeFor "booking" "approve") <;> rfl

private theorem edit_eq (itemId : String) (s : ServerState) :
    A.edit r itemId s =
      match A.authenticate r s with
      | .error e s' => .error e s'
      | .ok principal s' =>
        match A.layerRaises principal (.edit itemId) with
        | some e => .error e s'
        | none => .ok (accepted r principal (.edit itemId)) s' := by
  unfold edit provideAuthorizationService authenticate layerRaises
  simp only [bind, EStateM.bind]
  cases requireCsrf A.settings r.browser s with
  | error e s₁ => rfl
  | ok _ s₁ =>
    dsimp only
    cases A.currentPrincipal r.browser s₁ with
    | error e s₂ => rfl
    | ok principal s₂ =>
      dsimp only
      cases A.authorization with
      | none => rfl
      | some service =>
        dsimp only [pure, EStateM.pure, visible]
        cases A.items.get itemId with
        | none => rfl
        | some item =>
          dsimp only
          unfold EStateM.bind
          rw [edit_item]
          cases editRaises principal service itemId
            ((some item).filter fun item => decide (item.tenantId = principal.tenantId)) <;> rfl

private theorem limited_eq (s : ServerState × β) :
    A.limited r s =
      match A.authenticate r s.1 with
      | .error e s' => .error (.route e) (s', s.2)
      | .ok principal s' =>
        match A.rateLimitFor r "booking.create" principal (s', s.2) with
        | .error e s'' => .error e s''
        | .ok () s'' => .ok (accepted r principal .limited) s'' := by
  unfold limited authenticate RouteHandler.lift
  simp only [bind, EStateM.bind]
  cases requireCsrf A.settings r.browser s.1 with
  | error e s₁ => rfl
  | ok _ s₁ =>
    dsimp only
    cases A.currentPrincipal r.browser s₁ with
    | error e s₂ => rfl
    | ok principal s₂ =>
      dsimp only
      cases A.rateLimitFor r "booking.create" principal (s₂, s.2) <;> rfl

private theorem handle_eq (s : ServerState × β) :
    A.handle r s =
      match A.authenticate r s.1 with
      | .error e s' => .error (.route e) (s', s.2)
      | .ok principal s' => A.afterPrincipal r principal (s', s.2) := by
  unfold handle afterPrincipal
  cases hroute : r.route with
  | approve =>
    dsimp only
    unfold RouteHandler.lift
    rw [approve_eq]
    cases A.authenticate r s.1 with
    | error e s' => rfl
    | ok principal s' =>
      dsimp only
      cases A.layerRaises principal .approve <;> rfl
  | limited => exact limited_eq s
  | edit itemId =>
    dsimp only
    unfold RouteHandler.lift
    rw [edit_eq]
    cases A.authenticate r s.1 with
    | error e s' => rfl
    | ok principal s' =>
      dsimp only
      cases A.layerRaises principal (.edit itemId) <;> rfl

private theorem respond_eq (s : ServerState × β) :
    A.respond r s =
      match A.authenticate r s.1 with
      | .error e s' => (⟨e.response (A.context r), []⟩, (s', s.2))
      | .ok principal s' => A.conclude r (A.afterPrincipal r principal (s', s.2)) := by
  unfold respond
  rw [handle_eq]
  cases A.authenticate r s.1 <;> rfl

private theorem conclude_raises {e : RouteException} (h : A.layerRaises principal r.route = some e)
    (s : ServerState × β) :
    A.conclude r (A.afterPrincipal r principal s) = (⟨e.response (A.context r), []⟩, s) := by
  unfold afterPrincipal
  rw [h]
  rfl

private theorem afterPrincipal_passes (h : A.layerRaises principal r.route = none) (s : ServerState × β) :
    A.afterPrincipal r principal s =
      match A.limitOf r principal r.route s with
      | .error e s' => .error e s'
      | .ok () s' => .ok (accepted r principal r.route) s' := by
  unfold afterPrincipal
  rw [h]

/-- Only the limit of a route changes the state. -/
private theorem conclude_state (s : ServerState × β) :
    (A.conclude r (A.afterPrincipal r principal s)).2 =
      match A.limitOf r principal r.route s with
      | .ok _ s' => s'
      | .error _ s' => s' := by
  unfold afterPrincipal
  cases r.route with
  | approve => cases A.layerRaises principal .approve <;> rfl
  | edit itemId => cases A.layerRaises principal (.edit itemId) <;> rfl
  | limited =>
    dsimp only [layerRaises]
    cases A.limitOf r principal .limited s with
    | ok _ s' => rfl
    | error e s' => cases e <;> rfl

end DemoApp

/-! ### Other tenants -/

/-- Two exchanges that differ at most in the response to a principal of another tenant. -/
structure DemoExchange.SameFor (tenantId : String) (x x' : DemoExchange) : Prop where
  request : x.request = x'.request
  principal : x.principal = x'.principal
  response : (∀ principal ∈ x.principal, principal.tenantId = tenantId) → x.response = x'.response

section Confined

variable {β : Type} {A : DemoApp β} {items : PyDict String DemoItem} {tenantId : String}

private theorem respond_state (items : PyDict String DemoItem) (s : ServerState × β) (r : DemoRequest) :
    (A.respond r s).2 = (DemoApp.respond { A with items } r s).2 := by
  have hdeps : DemoApp.authenticate { A with items } r s.1 = A.authenticate r s.1 := rfl
  rw [DemoApp.respond_eq, DemoApp.respond_eq, hdeps]
  cases A.authenticate r s.1 with
  | error e s' => rfl
  | ok principal s' =>
    dsimp only
    rw [DemoApp.conclude_state, DemoApp.conclude_state]
    rfl

private theorem respond_response
    (hsame : ∀ itemId, DemoApp.visible A.items tenantId itemId = DemoApp.visible items tenantId itemId)
    (s : ServerState × β) (r : DemoRequest) (h : ∀ principal ∈ A.principalOf r s.1, principal.tenantId = tenantId) :
    (A.respond r s).1 = (DemoApp.respond { A with items } r s).1 := by
  have hdeps : DemoApp.authenticate { A with items } r s.1 = A.authenticate r s.1 := rfl
  unfold DemoApp.principalOf at h
  rw [DemoApp.respond_eq, DemoApp.respond_eq, hdeps]
  cases hauth : A.authenticate r s.1 with
  | error e s' => rfl
  | ok principal s' =>
    rw [hauth] at h
    have htenant : principal.tenantId = tenantId := h principal rfl
    have hlayer : A.layerRaises principal r.route = DemoApp.layerRaises { A with items } principal r.route := by
      cases r.route with
      | approve => rfl
      | limited => rfl
      | edit itemId =>
        simp only [DemoApp.layerRaises]
        rw [htenant, hsame]
    dsimp only
    unfold DemoApp.afterPrincipal
    rw [hlayer]
    rfl

end Confined

/-- Over every sequence of requests, whatever the policy and whoever resolves the principals: two tables of items that
agree on the items of a tenant resolve the same principals, and answer all requests but those of other tenants alike.
-/
theorem demo_items_confined {β : Type} (A : DemoApp β) (items : PyDict String DemoItem) (tenantId : String)
    (hsame : ∀ itemId, DemoApp.visible A.items tenantId itemId = DemoApp.visible items tenantId itemId)
    (s : ServerState × β) (requests : List DemoRequest) :
    List.Forall₂ (DemoExchange.SameFor tenantId) (A.serve s requests)
      (DemoApp.serve { A with items } s requests) := by
  induction requests generalizing s with
  | nil => exact .nil
  | cons r requests ih =>
    refine .cons ⟨rfl, rfl, respond_response hsame s r⟩ ?_
    rw [← respond_state items s r]
    exact ih (A.respond r s).2

/-- An app whose principal is overridden by an owner. -/
def demoApp (β : Type) : DemoApp β where
  settings := sampleSettings
  currentPrincipal _ := return ⟨"user-owner", "tenant-1", "session-1", none, ["owner"], []⟩
  authorization := some shippedService
  limiter := none
  rateLimits := ⟨"/api/v1", []⟩
  items := demoItems

def demoRequest (route : DemoRoute) (now : ℚ) : DemoRequest :=
  ⟨route, now, "6f1c", none, [("x-csrf-token", "csrf-1")], [("csrftoken", "csrf-1")]⟩

def demoState : ServerState := ⟨sampleDatabase, fun _ => sampleService (tokenAnswer "access-2" "refresh-2"), []⟩

/-- The item of the other tenant, which the actor owns, might as well be absent. -/
theorem demo_items_confined_foreign :
    List.Forall₂ (DemoExchange.SameFor "tenant-1")
      ((demoApp Unit).serve (demoState, ()) [demoRequest (.edit "item-owned") 0,
        demoRequest (.edit "item-foreign") 1])
      (DemoApp.serve { demoApp Unit with items := demoItems.take 2 } (demoState, ())
        [demoRequest (.edit "item-owned") 0, demoRequest (.edit "item-foreign") 1]) := by
  have hsame : ∀ itemId, DemoApp.visible demoItems "tenant-1" itemId =
      DemoApp.visible (demoItems.take 2) "tenant-1" itemId := by
    intro itemId
    unfold DemoApp.visible
    simp only [demoItems, List.take, PyDict.get_cons, PyDict.get_nil]
    split
    · rfl
    · split
      · rfl
      · split <;> rfl
  exact demo_items_confined (demoApp Unit) (demoItems.take 2) "tenant-1" hsame (demoState, ()) _

/-! ### Principals of sessions -/

/-- The app whose principals are those of sessions. -/
def DemoApp.overSessions {β : Type} (A : DemoApp β) (env : BackendEnv) (app : AppState) : DemoApp β :=
  { A with currentPrincipal := BrowserRoutes.getCurrentPrincipal env A.settings app }

section Sessions

variable {β : Type} {A : DemoApp β}

/-- The dependencies raise what answers with an error, or resolve a principal without roles and scopes. -/
private theorem authenticate_sessions (A : DemoApp β) (env : BackendEnv) (app : AppState) (r : DemoRequest)
    (s : ServerState) : (∀ e s', (A.overSessions env app).authenticate r s = .error e s' → e.Fails) ∧
      ∀ principal s', (A.overSessions env app).authenticate r s = .ok principal s' →
        principal.roles = [] ∧ principal.scopes = [] := by
  unfold DemoApp.authenticate BrowserRoutes.requireCsrf
  split
  · obtain ⟨es, -, -, hok, herror⟩ := BrowserRoutes.follows_getCurrentPrincipal env A.settings app r.browser s
    refine ⟨fun e s' h => herror e (congrArg outcome h), fun principal s' h => ?_⟩
    obtain ⟨-, d, -, -, -, -, hroles, hscopes⟩ := hok principal (congrArg outcome h)
    exact ⟨hroles, hscopes⟩
  · refine ⟨fun e s' h => ?_, fun principal s' h => by cases h⟩
    cases h
    exact RouteException.fails_app rfl

private theorem DemoApp.layerRaises_fails {principal : AuthContext} {e : RouteException} {route : DemoRoute}
    (h : A.layerRaises principal route = some e) : e.Fails := by
  cases route with
  | limited => cases h
  | approve =>
    simp only [layerRaises] at h
    split at h
    · cases h
      exact RouteException.fails_unexpected
    · split at h
      · cases h
      · cases h
        exact RouteException.fails_app rfl
  | edit itemId =>
    simp only [layerRaises] at h
    split at h
    · cases h
      exact RouteException.fails_unexpected
    · simp only [editRaises] at h
      split at h
      · cases h
        exact RouteException.fails_app rfl
      · split at h
        · cases h
          exact RouteException.fails_unexpected
        · cases h
          exact RouteException.fails_app rfl
        · cases h

/-- A principal that passes has an item of its tenant, and the policy a rule for everyone. -/
private theorem DemoApp.layer_passed {principal : AuthContext} {route : DemoRoute} (hroles : principal.roles = [])
    (hscopes : principal.scopes = []) (h : A.layerRaises principal route = none) :
    route = .limited ∨ ∃ itemId, route = .edit itemId ∧
      (∃ item ∈ A.items.get itemId, item.tenantId = principal.tenantId) ∧
      ∃ service ∈ A.authorization, ∃ p ∈ service.enforcer.policy, p.role = "*" ∧ p.eft = "allow" := by
  cases route with
  | limited => exact Or.inl rfl
  | approve =>
    simp only [layerRaises] at h
    split at h
    · cases h
    · split at h
      · rename_i hscope
        unfold AuthorizationService.hasScope at hscope
        rw [hscopes] at hscope
        simp at hscope
      · cases h
  | edit itemId =>
    refine Or.inr ⟨itemId, rfl, ?_⟩
    simp only [layerRaises] at h
    split at h
    · cases h
    · rename_i service hservice
      simp only [editRaises, visible] at h
      split at h
      · cases h
      · rename_i item hitem
        obtain ⟨hget, htenant⟩ := Option.filter_eq_some_iff.1 hitem
        refine ⟨⟨item, hget, of_decide_eq_true htenant⟩, service, hservice, ?_⟩
        split at h
        · cases h
        · cases h
        · rename_i hallowed
          obtain ⟨-, ⟨p, hp, hmatch, hallow⟩, -⟩ := CasbinEnforcer.enforce_eq_true.1 hallowed
          obtain ⟨happ, -⟩ := matcher_eq_true.1 hmatch
          refine ⟨p, hp, ?_, hallow⟩
          -- the rule is for everyone, since the principal has no role
          rcases happ.role with hrole | hrole
          · exact hrole
          · rw [ResourceContext.mem_roles] at hrole
            simp [editContext, hroles] at hrole

end Sessions

private theorem DemoApp.mem_serve {β : Type} {A : DemoApp β} {s : ServerState × β} {requests : List DemoRequest}
    {x : DemoExchange} (hx : x ∈ A.serve s requests) : ∃ s' r, x = A.exchange s' r := by
  induction requests generalizing s with
  | nil => cases hx
  | cons r requests ih =>
    rcases List.mem_cons.1 hx with rfl | hx
    · exact ⟨s, r, rfl⟩
    · exact ih hx

/-- An exchange below 400 has passed its layer, or the limit. -/
private theorem passed_of_accepted {β : Type} {A : DemoApp β} {env : BackendEnv} {app : AppState}
    {s : ServerState × β} {requests : List DemoRequest} {x : DemoExchange}
    (hx : x ∈ (A.overSessions env app).serve s requests)
    (hstatus : x.response.response.status < 400) :
    x.request.route = .limited ∨ ∃ itemId, x.request.route = .edit itemId ∧
      (∃ principal ∈ x.principal, ∃ item ∈ A.items.get itemId, item.tenantId = principal.tenantId) ∧
      ∃ service ∈ A.authorization, ∃ p ∈ service.enforcer.policy, p.role = "*" ∧ p.eft = "allow" := by
  obtain ⟨s', r, rfl⟩ := DemoApp.mem_serve hx
  obtain ⟨hfails, hbare⟩ := authenticate_sessions A env app r s'.1
  unfold DemoApp.exchange DemoApp.principalOf at *
  dsimp only at *
  rw [DemoApp.respond_eq] at hstatus
  cases hauth : (A.overSessions env app).authenticate r s'.1 with
  | error e s₁ =>
    rw [hauth] at hstatus
    exact absurd (hfails e s₁ hauth _) (not_le.2 hstatus)
  | ok principal s₁ =>
    obtain ⟨hroles, hscopes⟩ := hbare principal s₁ hauth
    rw [hauth] at hstatus
    cases hlayer : (A.overSessions env app).layerRaises principal r.route with
    | none =>
      rcases DemoApp.layer_passed hroles hscopes hlayer with hlimited | ⟨itemId, hroute, hitem, hrule⟩
      · exact Or.inl hlimited
      · exact Or.inr ⟨itemId, hroute, ⟨principal, rfl, hitem⟩, hrule⟩
    | some e =>
      dsimp only at hstatus
      rw [DemoApp.conclude_raises hlayer] at hstatus
      exact absurd (DemoApp.layerRaises_fails hlayer _) (not_le.2 hstatus)

/-- Over every sequence of requests whose principals are those of sessions, and for every policy: `approve` always
answers with an error, and `edit` does unless the item is of the tenant of the session and some rule allows everyone;
of the rules of the shipped policy none does. -/
theorem demo_fails_closed {β : Type} (A : DemoApp β) (env : BackendEnv) (app : AppState) (s : ServerState × β)
    (requests : List DemoRequest) :
    let served := (A.overSessions env app).serve s requests
    (∀ x ∈ served, x.request.route = .approve → 400 ≤ x.response.response.status) ∧
    (∀ x ∈ served, ∀ itemId, x.request.route = .edit itemId → x.response.response.status < 400 →
      (∃ principal ∈ x.principal, ∃ item ∈ A.items.get itemId, item.tenantId = principal.tenantId) ∧
        ∃ service ∈ A.authorization, ∃ p ∈ service.enforcer.policy, p.role = "*" ∧ p.eft = "allow") ∧
    (A.authorization = some shippedService → ∀ x ∈ served, x.request.route ≠ .limited →
      400 ≤ x.response.response.status) := by
  intro served
  refine ⟨fun x hx happrove => ?_, fun x hx itemId hedit hstatus => ?_, fun hshipped x hx hroute => ?_⟩
  · by_contra hstatus
    rcases passed_of_accepted hx (not_le.1 hstatus) with hlimited | ⟨itemId, hedit, -, -⟩
    · cases happrove.symm.trans hlimited
    · cases happrove.symm.trans hedit
  · rcases passed_of_accepted hx hstatus with hlimited | ⟨itemId', hedit', hitem, hrule⟩
    · cases hedit.symm.trans hlimited
    · obtain rfl : itemId = itemId' := DemoRoute.edit.inj (hedit.symm.trans hedit')
      exact ⟨hitem, hrule⟩
  · by_contra hstatus
    obtain ⟨-, -, -, service, hservice, p, hp, hrole, hallow⟩ :=
      (passed_of_accepted hx (not_le.1 hstatus)).resolve_left hroute
    rw [hshipped] at hservice
    obtain rfl := Option.some.inj hservice
    have hnone : ∀ p ∈ policyCsv, ¬ (p.role = "*" ∧ p.eft = "allow") := by decide
    exact hnone p hp ⟨hrole, hallow⟩

/-! ### The limit of a user -/

def bookingCreateRule : RateLimitRule := ⟨"booking.create", 30, 60, .user, none⟩

namespace DemoExchange

/-- What an exchange has called the limiter with. -/
def call (x : DemoExchange) : Option RateLimitCall :=
  match x.request.route with
  | .limited => x.principal.map fun principal => ⟨x.request.now, bookingCreateRule, principal.userId⟩
  | .approve | .edit _ => none

/-- A call in the bucket of a user. -/
def countsFor (userId : String) (x : DemoExchange) : Bool :=
  x.call.any fun c => decide (c.key = RateLimitKeyBuilder.build bookingCreateRule userId)

def admitted (x : DemoExchange) : Bool := decide (x.response.response.status < 400)

end DemoExchange

section Limit

variable {A : DemoApp (RedisStore String × (Nat → BackendFate))} {failOpen : Bool} {userId : String}

/-- The limit, as a call of the limiter. -/
private theorem limitOf_limited (hlimiter : A.limiter = some (unreliableRateLimiter failOpen)) {r : DemoRequest}
    (hroute : r.route = .limited) (principal : AuthContext)
    (s : ServerState × (RedisStore String × (Nat → BackendFate))) :
    A.limitOf r principal r.route s =
      match (unreliableRateLimiter failOpen).enforceCall s.2 ⟨r.now, bookingCreateRule, principal.userId⟩ with
      | (.error exc, limiter) => .error (.rateLimited exc) (s.1, limiter)
      | (.ok _, limiter) => .ok () (s.1, limiter) := by
  have hrule : getRule "booking.create" = some bookingCreateRule := by decide
  have hidentifier : ∀ request, dependencyIdentifier bookingCreateRule A.rateLimits
    ⟨principal.userId, principal.tenantId⟩ request = principal.userId := fun _ => rfl
  rw [hroute]
  show A.rateLimitFor r "booking.create" principal s = _
  unfold DemoApp.rateLimitFor
  rw [hlimiter]
  dsimp only
  rw [rateLimit_known hrule, hidentifier]
  rcases (unreliableRateLimiter failOpen).enforceCall s.2 ⟨r.now, bookingCreateRule, principal.userId⟩
    with ⟨_ | _, limiter⟩ <;> rfl

private theorem conclude_limited (hlimiter : A.limiter = some (unreliableRateLimiter failOpen)) {r : DemoRequest}
    (hroute : r.route = .limited) (principal : AuthContext)
    (s : ServerState × (RedisStore String × (Nat → BackendFate))) :
    let concluded := A.conclude r (A.afterPrincipal r principal s)
    let called := (unreliableRateLimiter failOpen).enforceCall s.2 ⟨r.now, bookingCreateRule, principal.userId⟩
    concluded.2.2 = called.2 ∧ decide (concluded.1.response.status < 400) = called.1.isOk := by
  have hlayer : A.layerRaises principal r.route = none := by
    rw [hroute]
    rfl
  have hlimit := limitOf_limited hlimiter hroute principal s
  rw [DemoApp.afterPrincipal_passes hlayer, hlimit, hroute]
  rcases (unreliableRateLimiter failOpen).enforceCall s.2 ⟨r.now, bookingCreateRule, principal.userId⟩
    with ⟨_ | _, limiter⟩ <;> exact ⟨rfl, rfl⟩

/-- One exchange: the limiter sees its call, and admits what it allows. -/
private theorem exchange_limited (hlimiter : A.limiter = some (unreliableRateLimiter failOpen))
    (s : ServerState × (RedisStore String × (Nat → BackendFate))) (r : DemoRequest) :
    (A.respond r s).2.2 = (unreliableRateLimiter failOpen).afterAll s.2 (A.exchange s r).call.toList ∧
      ∀ c ∈ (A.exchange s r).call,
        (A.exchange s r).admitted = ((unreliableRateLimiter failOpen).enforceCall s.2 c).1.isOk := by
  unfold DemoExchange.call DemoExchange.admitted DemoApp.exchange DemoApp.principalOf
  dsimp only
  rw [DemoApp.respond_eq]
  cases A.authenticate r s.1 with
  | error e s' => cases r.route <;> exact ⟨rfl, fun c hc => by cases hc⟩
  | ok principal s' =>
    dsimp only
    cases hroute : r.route with
    | limited =>
      obtain ⟨hstate, hstatus⟩ := conclude_limited hlimiter hroute principal (s', s.2)
      refine ⟨hstate, fun c hc => ?_⟩
      obtain rfl := Option.some.inj hc
      exact hstatus
    | approve | edit itemId =>
      rw [DemoApp.conclude_state, hroute]
      exact ⟨rfl, fun c hc => by cases hc⟩

private theorem calls_cons (x : DemoExchange) (served : List DemoExchange) :
    (x :: served).filterMap DemoExchange.call = x.call.toList ++ served.filterMap DemoExchange.call := by
  cases h : x.call <;> simp [h]

private theorem call_spec {x : DemoExchange} {c : RateLimitCall} (h : x.call = some c) :
    c.now = x.request.now ∧ c.rule = bookingCreateRule := by
  unfold DemoExchange.call at h
  split at h
  · obtain ⟨principal, -, rfl⟩ := Option.map_eq_some_iff.1 h
    exact ⟨rfl, rfl⟩
  · cases h
  · cases h

/-- What is admitted of the calls of a user is what the limiter admits in its bucket. -/
private theorem admitted_eq (hlimiter : A.limiter = some (unreliableRateLimiter failOpen))
    (s : ServerState × (RedisStore String × (Nat → BackendFate))) (requests : List DemoRequest) :
    ((A.serve s requests).filter (DemoExchange.countsFor userId)).map (fun x => (x.request.now, x.admitted)) =
      verdictsOf failOpen s.2 ((A.serve s requests).filterMap DemoExchange.call)
        (RateLimitKeyBuilder.build bookingCreateRule userId) := by
  induction requests generalizing s with
  | nil => rfl
  | cons r requests ih =>
    obtain ⟨hstate, hadmitted⟩ := exchange_limited hlimiter s r
    rw [DemoApp.serve, calls_cons, verdictsOf_append, ← hstate, ← ih, List.filter_cons]
    have hone : verdictsOf failOpen s.2 (A.exchange s r).call.toList
        (RateLimitKeyBuilder.build bookingCreateRule userId) =
          if (A.exchange s r).countsFor userId then [((A.exchange s r).request.now, (A.exchange s r).admitted)]
          else [] := by
      unfold DemoExchange.countsFor
      cases hcall : (A.exchange s r).call with
      | none => rfl
      | some c =>
        have hnow : c.now = (A.exchange s r).request.now := (call_spec hcall).1
        rw [Option.toList_some, verdictsOf_cons, hadmitted c hcall, hnow, Option.any_some]
        simp only [decide_eq_true_eq]
        exact List.append_nil _
    rw [hone]
    split <;> rfl

private theorem calls_sublist (s : ServerState × (RedisStore String × (Nat → BackendFate)))
    (requests : List DemoRequest) : (((A.serve s requests).filterMap DemoExchange.call).map RateLimitCall.now).Sublist
      (requests.map DemoRequest.now) := by
  induction requests generalizing s with
  | nil => exact List.Sublist.slnil
  | cons r requests ih =>
    rw [DemoApp.serve, calls_cons]
    cases hcall : (A.exchange s r).call with
    | none => exact (ih _).cons _
    | some c =>
      have hnow : c.now = r.now := (call_spec hcall).1
      rw [Option.toList_some, List.singleton_append, List.map_cons, List.map_cons, hnow]
      exact (ih _).cons_cons _

private theorem times_eq (served : List DemoExchange) :
    timesOf (served.filterMap DemoExchange.call) (RateLimitKeyBuilder.build bookingCreateRule userId) =
      (served.filter (DemoExchange.countsFor userId)).map fun x => x.request.now := by
  induction served with
  | nil => rfl
  | cons x served ih =>
    unfold timesOf at *
    rw [calls_cons, List.filter_append, List.map_append, ih, List.filter_cons]
    unfold DemoExchange.countsFor
    cases hcall : x.call with
    | none => rfl
    | some c =>
      have hnow : c.now = x.request.now := (call_spec hcall).1
      rw [Option.toList_some, Option.any_some, List.filter_singleton]
      cases decide (c.key = RateLimitKeyBuilder.build bookingCreateRule userId) with
      | false => rfl
      | true => exact congrArg (· :: _) hnow

end Limit

/-- Over every sequence of requests, whoever resolves their principals, and a Redis that may fail: as long as failures
deny, no 60 seconds see more than 60 requests in the bucket of a user admitted, however many sessions and addresses it
has, and as long as they admit, a bucket with at most 30 requests in any 60 seconds has all of them admitted.  Users
whose ids differ in `:` against `_` share a bucket. -/
theorem limited_ceiling (A : DemoApp (RedisStore String × (Nat → BackendFate))) (failOpen : Bool)
    (fates : Nat → BackendFate) (s : ServerState) (requests : List DemoRequest)
    (hclock : (requests.map DemoRequest.now).Pairwise (· ≤ ·)) (userId : String) :
    let served := DemoApp.serve { A with limiter := some (unreliableRateLimiter failOpen) } (s, {}, fates) requests
    let mine := served.filter (DemoExchange.countsFor userId)
    let within := fun (t : ℚ) (x : DemoExchange) => decide (t ≤ x.request.now ∧ x.request.now < t + 60)
    (failOpen = false ∨ (∀ i, fates i = .served) → ∀ t, (mine.filter DemoExchange.admitted).countP (within t) ≤ 60) ∧
    (failOpen = true ∨ (∀ i, fates i = .served) → (∀ t, mine.countP (within t) ≤ 30) →
      ∀ x ∈ mine, x.admitted = true) := by
  intro served mine within
  have hverdicts : mine.map (fun x => (x.request.now, x.admitted)) =
      verdictsOf failOpen ({}, fates) (served.filterMap DemoExchange.call)
        (RateLimitKeyBuilder.build bookingCreateRule userId) := admitted_eq rfl (s, {}, fates) requests
  have hcalls : ∀ c ∈ served.filterMap DemoExchange.call, c.rule = bookingCreateRule := by
    intro c hc
    obtain ⟨x, -, hcall⟩ := List.mem_filterMap.1 hc
    exact (call_spec hcall).2
  -- all calls of the limiter are of one rule
  have hrule : ∀ c ∈ served.filterMap DemoExchange.call,
      c.key = RateLimitKeyBuilder.build bookingCreateRule userId → c.rule = bookingCreateRule :=
        fun c hc _ => hcalls c hc
  have hW : ∀ c ∈ served.filterMap DemoExchange.call, 1 ≤ c.rule.windowSeconds := by
    intro c hc
    rw [hcalls c hc]
    decide
  have hsorted : (served.filterMap DemoExchange.call).Pairwise (·.now ≤ ·.now) :=
    List.pairwise_map.1 (hclock.sublist (calls_sublist (s, {}, fates) requests))
  have hcount : ∀ (l : List DemoExchange) (t : ℚ), l.countP (within t) =
      (l.map fun x => x.request.now).countP fun now =>
        decide (t ≤ now ∧ now < t + (bookingCreateRule.windowSeconds : ℚ)) := by
    intro l t
    rw [List.countP_map]
    rfl
  refine ⟨fun hclosed t => ?_, fun hopen hcalm x hx => ?_⟩
  · have hbound : _ ≤ 2 * (30 : Int) := admitted_within hrule (by decide) (by decide) hW hsorted hclosed t
    rw [← hverdicts, List.filter_map, List.map_map] at hbound
    rw [hcount]
    exact_mod_cast hbound
  · have hlimit : bookingCreateRule.limit = 30 := rfl
    have hall := calm_admitted hrule (by decide) (by decide) hW hsorted hopen fun t => by
      have hle := hcalm t
      rw [times_eq, ← hcount, hlimit]
      exact_mod_cast hle
    rw [← hverdicts] at hall
    exact hall _ (List.mem_map_of_mem hx)

theorem limited_ceiling_two_requests :
    let served := DemoApp.serve { demoApp (RedisStore String × (Nat → BackendFate)) with
        limiter := some (unreliableRateLimiter false) } (demoState, {}, fun _ => .served)
      [demoRequest .limited 0, demoRequest .limited 20]
    ∀ x ∈ served.filter (DemoExchange.countsFor "user-owner"), x.admitted = true := by
  intro served
  have hclock : (([demoRequest .limited 0, demoRequest .limited 20] : List DemoRequest).map DemoRequest.now).Pairwise
    (· ≤ ·) := by decide
  refine (limited_ceiling (demoApp _) false (fun _ => .served) demoState _ hclock "user-owner").2
    (Or.inr fun _ => rfl) fun t => ?_
  refine (List.countP_le_length).trans ((List.length_filter_le _ _).trans ?_)
  decide

end CleanBackend
