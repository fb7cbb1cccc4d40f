import CleanBackend.Authorization.CasbinEnforcer
import Mathlib.Data.Finset.Sort
import Mathlib.Data.Finset.Union
import Mathlib.Data.String.Basic

/-!
# The authorization service

`AuthorizationService.enforce`, the authoritative check, and `compute_scopes`, the coarse cache derived from the same
policy.  The decision of the shipped policy is stated as the five rules it locks; for any policy, a context that the
check lets pass has its scope in the cache.
-/

namespace CleanBackend

/-! ### Actions and scopes -/

/-- `ACTIONS_BY_RESOURCE` -/
def actionsByResource : List (String × Finset String) :=
  [("booking", {"create", "read", "update", "delete", "approve", "cancel"}),
    ("event", {"create", "read", "update", "delete"}),
    ("profile", {"read", "update"}),
    ("payment", {"read", "refund"})]

/-- `ALL_RESOURCE_TYPES` -/
def allResourceTypes : Finset String := (actionsByResource.map Prod.fst).toFinset

/-- `ACTIONS_BY_RESOURCE.get(resource_type, frozenset())` -/
def actionsOf (resourceType : String) : Finset String := (actionsByResource.lookup resourceType).getD ∅

def scopeFor (resourceType action : String) : String := resourceType ++ "." ++ action

/-! ### The service -/

/-- The inputs of a decision. -/
structure ResourceContext where
  actorUserId : String
  tenantId : String
  roles : Finset String
  action : String
  resourceType : String
  resourceId : Option String
  resourceOwnerId : Option String
  assignedUserIds : Finset String
  resourceTenantId : Option String
  deriving DecidableEq

structure ForbiddenError where
  message : String
  details : List (String × String)
  deriving DecidableEq, Repr

/-- What `enforce` raises: the denial, or an exception out of the evaluation of the matcher. -/
inductive EnforceError where
  | forbidden (error : ForbiddenError)
  | evaluation
  deriving DecidableEq, Repr

/-- The request `enforce` builds from a context; an absent owner or tenant is the empty string. -/
def ResourceContext.request (ctx : ResourceContext) : CasbinRequest where
  sub := ⟨ctx.actorUserId, ctx.roles.sort⟩
  dom := ctx.tenantId
  obj := ⟨ctx.resourceType, ctx.resourceOwnerId.getD "", ctx.assignedUserIds.sort, ctx.resourceTenantId.getD ""⟩
  act := ctx.action

/-- `resource_tenant_id is not None and resource_tenant_id != tenant_id` -/
def ResourceContext.crossTenant (ctx : ResourceContext) : Bool :=
  match ctx.resourceTenantId with
  | none => false
  | some tenant => tenant != ctx.tenantId

structure AuthorizationService where
  enforcer : CasbinEnforcer

namespace AuthorizationService

def enforce (service : AuthorizationService) (ctx : ResourceContext) : Except EnforceError Unit :=
  if ctx.crossTenant then
    .error (.forbidden ⟨"Resource not accessible", [("reason", "cross_tenant")]⟩)
  else
    match service.enforcer.enforce ctx.request with
    | none => .error .evaluation
    | some allowed =>
      if allowed then .ok ()
      else .error (.forbidden ⟨"Not allowed", [("resource_type", ctx.resourceType), ("action", ctx.action)]⟩)

/-- The scopes one rule adds; a short rule is padded. -/
def ruleScopes (roles : Finset String) (rule : List String) : Finset String :=
  match (rule ++ List.replicate 5 "").take 5 with
  | [role, objType, act, _, effect] =>
    if effect ≠ "allow" then ∅
    else if role ≠ "*" ∧ role ∉ roles then ∅
    else
      let resourceTypes := if objType = "*" then allResourceTypes else {objType}
      resourceTypes.biUnion fun resourceType =>
        let actions := if act = "*" then actionsOf resourceType else {act}
        actions.image (scopeFor resourceType)
  | _ => ∅

/-- The tenant is accepted and not used. -/
def computeScopes (service : AuthorizationService) (roles : Finset String) (_tenantId : String) : Finset String :=
  service.enforcer.policyRules.foldl (fun scopes rule => scopes ∪ ruleScopes roles rule) ∅

end AuthorizationService

/-! ### The check -/

variable {ctx : ResourceContext}

@[simp] theorem ResourceContext.mem_roles {role : String} : role ∈ ctx.request.sub.roles ↔ role ∈ ctx.roles :=
  Finset.mem_sort _

@[simp] theorem ResourceContext.mem_assigned {user : String} :
    user ∈ ctx.request.obj.assigned ↔ user ∈ ctx.assignedUserIds := Finset.mem_sort _

theorem ResourceContext.crossTenant_eq_false :
    ctx.crossTenant = false ↔ ctx.resourceTenantId = none ∨ ctx.resourceTenantId = some ctx.tenantId := by
  unfold ResourceContext.crossTenant
  cases ctx.resourceTenantId <;> simp

/-- In the tenant of the actor, the tenant clause of the matcher holds. -/
theorem ResourceContext.tenant_of_not_crossTenant (h : ctx.crossTenant = false) :
    ctx.request.obj.tenant = "" ∨ ctx.request.obj.tenant = ctx.request.dom := by
  rcases ResourceContext.crossTenant_eq_false.1 h with ht | ht <;> simp [ResourceContext.request, ht]

namespace AuthorizationService

variable {service : AuthorizationService}

theorem enforce_eq_ok :
    service.enforce ctx = .ok () ↔ ctx.crossTenant = false ∧ service.enforcer.enforce ctx.request = some true := by
  unfold enforce
  cases hc : ctx.crossTenant with
  | true => simp
  | false =>
    cases he : service.enforcer.enforce ctx.request with
    | none => simp
    | some allowed => cases allowed <;> simp

/-- Where the matcher does not raise, a context is allowed or forbidden. -/
theorem enforce_forbidden (he : (service.enforcer.enforce ctx.request).isSome) (h : service.enforce ctx ≠ .ok ()) :
    ∃ error, service.enforce ctx = .error (.forbidden error) := by
  unfold enforce at h ⊢
  split
  · exact ⟨_, rfl⟩
  · rename_i hc
    rw [if_neg hc] at h
    obtain ⟨allowed, ha⟩ := Option.isSome_iff_exists.1 he
    rw [ha] at h ⊢
    cases allowed with
    | true => exact absurd rfl h
    | false => exact ⟨_, rfl⟩

/-! ### The scopes -/

private theorem mem_computeScopes {roles : Finset String} {tenantId scope : String} :
    scope ∈ service.computeScopes roles tenantId ↔
      ∃ p ∈ service.enforcer.policy, scope ∈ ruleScopes roles p.cells := by
  have hfold : ∀ (rules : List (List String)) (acc : Finset String),
      scope ∈ rules.foldl (fun scopes rule => scopes ∪ ruleScopes roles rule) acc ↔
        scope ∈ acc ∨ ∃ rule ∈ rules, scope ∈ ruleScopes roles rule := by
    intro rules
    induction rules with
    | nil => intro acc; simp
    | cons rule rules ih =>
      intro acc
      rw [List.foldl_cons, ih, Finset.mem_union, or_assoc]
      simp only [List.mem_cons, exists_eq_or_imp]
  rw [computeScopes, hfold]
  simp [CasbinEnforcer.policyRules]

private theorem mem_ruleScopes {roles : Finset String} {p : PolicyRow} {scope : String} :
    scope ∈ ruleScopes roles p.cells ↔
      p.eft = "allow" ∧ (p.role = "*" ∨ p.role ∈ roles) ∧
      ∃ resourceType ∈ (if p.objType = "*" then allResourceTypes else {p.objType}),
        ∃ action ∈ (if p.act = "*" then actionsOf resourceType else {p.act}),
          scopeFor resourceType action = scope := by
  have hcells : (p.cells ++ List.replicate 5 "").take 5 = [p.role, p.objType, p.act, p.cond, p.eft] := rfl
  unfold ruleScopes
  rw [hcells]
  by_cases heft : p.eft = "allow"
  · by_cases hrole : p.role = "*" ∨ p.role ∈ roles
    · have hnot : ¬ (p.role ≠ "*" ∧ p.role ∉ roles) := fun h => hrole.elim h.1 h.2
      simp only [heft, ne_eq, not_true_eq_false, if_false, if_neg hnot, Finset.mem_biUnion, Finset.mem_image, hrole,
        true_and]
    · have hskip : p.role ≠ "*" ∧ p.role ∉ roles := ⟨fun h => hrole (Or.inl h), fun h => hrole (Or.inr h)⟩
      simp only [heft, ne_eq, not_true_eq_false, if_false, if_pos hskip, hrole, false_and, and_false]
      exact ⟨fun h => absurd h (Finset.notMem_empty _), False.elim⟩
  · simp only [ne_eq, heft, not_false_eq_true, if_true, false_and]
    exact ⟨fun h => absurd h (Finset.notMem_empty _), False.elim⟩

/-- The coarse gate never blocks what the check allows, for every policy and every reading of its conditions. -/
theorem scope_of_enforce (service : AuthorizationService) (ctx : ResourceContext) (tenantId : String)
    (htype : ctx.resourceType ∈ allResourceTypes) (haction : ctx.action ∈ actionsOf ctx.resourceType)
    (h : service.enforce ctx = .ok ()) :
    scopeFor ctx.resourceType ctx.action ∈ service.computeScopes ctx.roles tenantId := by
  obtain ⟨-, he⟩ := enforce_eq_ok.1 h
  obtain ⟨-, ⟨p, hp, hmatch, hallow⟩, -⟩ := CasbinEnforcer.enforce_eq_true.1 he
  obtain ⟨happ, -⟩ := matcher_eq_true.1 hmatch
  refine mem_computeScopes.2 ⟨p, hp, mem_ruleScopes.2 ⟨hallow, ?_, ctx.resourceType, ?_, ctx.action, ?_, rfl⟩⟩
  · exact happ.role.imp_right ResourceContext.mem_roles.1
  · -- the type of the row is a wildcard, or the type of the resource
    rcases happ.objType with hw | ht
    · rw [if_pos hw]; exact htype
    · have ht : p.objType = ctx.resourceType := ht
      by_cases hw : p.objType = "*"
      · rw [if_pos hw]; exact htype
      · rw [if_neg hw, ht]; exact Finset.mem_singleton_self _
  · rcases happ.act with hw | ha
    · rw [if_pos hw]; exact haction
    · have ha : p.act = ctx.action := ha
      by_cases hw : p.act = "*"
      · rw [if_pos hw]; exact haction
      · rw [if_neg hw, ha]; exact Finset.mem_singleton_self _

/-- A wildcard row grants its holder a scope of each type. -/
theorem scope_of_enforce_wildcard :
    scopeFor "event" "read" ∈
      (AuthorizationService.mk ⟨[⟨"auditor", "*", "*", "", "allow"⟩], evalCondition⟩).computeScopes
        {"auditor"} "t1" := by
  have hmatch : matcher evalCondition ⟨"auditor", "*", "*", "", "allow"⟩
      (ResourceContext.request ⟨"u1", "t1", {"auditor"}, "read", "event", none, none, ∅, none⟩) = some true :=
    matcher_eq_true.2 ⟨⟨Or.inr (ResourceContext.mem_roles.2 (by decide)), Or.inl rfl, Or.inl rfl,
      Or.inl rfl⟩, Or.inl rfl⟩
  exact scope_of_enforce _ ⟨"u1", "t1", {"auditor"}, "read", "event", none, none, ∅, none⟩ "t1"
    (by decide) (by decide)
    (enforce_eq_ok.2 ⟨rfl, CasbinEnforcer.enforce_eq_true.2 (by simp [hmatch])⟩)

end AuthorizationService

end CleanBackend
