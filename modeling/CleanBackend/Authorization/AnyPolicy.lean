import CleanBackend.Authorization.ShippedPolicy

/-!
# What holds of every policy

Two guarantees of the model and the service that do not depend on the rows.  The deny row of `policy.csv` closes
refunds to everyone without the finance role, whatever rows stand beside it (`refund_never_opens`).  The tenant clause
of the matcher denies what the service rejects as cross-tenant, except for a resource whose tenant id is the empty
string, which the request takes for a resource without a tenant (`tenant_backstop`).
-/

namespace CleanBackend

variable {eval : CondEval} {policy : List PolicyRow} {ctx : ResourceContext}

/-! ### Refunds -/

/-- The last row of `policy.csv`. -/
def refundDeny : PolicyRow := ⟨"*", "payment", "refund", "not ('finance' in r.sub.roles)", "deny"⟩

/-- A deny row that matches closes a request. -/
private theorem CasbinEnforcer.enforce_of_deny {r : CasbinRequest} {p : PolicyRow} (hp : p ∈ policy)
    (hmatch : matcher eval p r = some true) (hdeny : p.eft = "deny") :
    (CasbinEnforcer.mk policy eval).enforce r ≠ some true := by
  intro h
  obtain ⟨-, -, hnone⟩ := CasbinEnforcer.enforce_eq_true.1 h
  exact hnone p hp hmatch hdeny

/-- In the tenant of the actor, the row matches every refund without the finance role. -/
private theorem refundDeny_matches (heval : eval refundDeny.cond = evalCondition refundDeny.cond)
    (hct : ctx.crossTenant = false) (htype : ctx.resourceType = "payment") (haction : ctx.action = "refund")
    (hrole : "finance" ∉ ctx.roles) : matcher eval refundDeny ctx.request = some true := by
  refine matcher_eq_true.2 ⟨⟨Or.inl rfl, Or.inr htype.symm, Or.inr haction.symm, ?_⟩, Or.inr ?_⟩
  · exact ResourceContext.tenant_of_not_crossTenant hct
  · rw [heval]
    exact fires_finance.2 hrole

/-- No other rows open refunds, whatever they say and however their conditions are evaluated. -/
theorem refund_never_opens (eval : CondEval) (heval : eval refundDeny.cond = evalCondition refundDeny.cond)
    (policy : List PolicyRow) (hrow : refundDeny ∈ policy) (ctx : ResourceContext)
    (htype : ctx.resourceType = "payment") (haction : ctx.action = "refund") (hrole : "finance" ∉ ctx.roles) :
    (AuthorizationService.mk ⟨policy, eval⟩).enforce ctx ≠ .ok () := by
  intro h
  obtain ⟨hct, he⟩ := AuthorizationService.enforce_eq_ok.1 h
  exact CasbinEnforcer.enforce_of_deny hrow (refundDeny_matches heval hct htype haction hrole) rfl he

/-- A row that allows everything does not help. -/
theorem refund_never_opens_allow_all :
    (AuthorizationService.mk ⟨[⟨"*", "*", "*", "", "allow"⟩, refundDeny], evalCondition⟩).enforce
      ⟨"u1", "t1", {"admin"}, "refund", "payment", none, some "u1", ∅, some "t1"⟩ ≠ .ok () :=
  refund_never_opens evalCondition rfl _ (by simp) _ rfl rfl (by decide)

/-! ### Tenants -/

/-- The tenant clause fails on a cross-tenant request, unless the tenant of the resource is the empty string. -/
private theorem tenant_clause_iff (h : ctx.crossTenant = true) :
    (ctx.request.obj.tenant = "" ∨ ctx.request.obj.tenant = ctx.request.dom) ↔ ctx.resourceTenantId = some "" := by
  unfold ResourceContext.crossTenant at h
  cases ht : ctx.resourceTenantId with
  | none => rw [ht] at h; cases h
  | some tenant =>
    rw [ht] at h
    have hne : tenant ≠ ctx.tenantId := by simpa using h
    simp [ResourceContext.request, ht, hne]

/-- Without the tenant clause no row matches, and no condition is evaluated. -/
private theorem CasbinEnforcer.enforce_of_tenant {r : CasbinRequest}
    (h : ¬ (r.obj.tenant = "" ∨ r.obj.tenant = r.dom)) : (CasbinEnforcer.mk policy eval).enforce r = some false := by
  have hfalse : ∀ p ∈ policy, matcher eval p r = some false := fun p _ => matcher_eq_false fun happ => h happ.tenant
  have hmatching : matching eval r policy = some [] := by
    refine matching_eq_some.2 ⟨fun p hp => by rw [hfalse p hp]; rfl, ?_⟩
    refine (List.filter_eq_nil_iff.2 fun p hp => ?_).symm
    rw [hfalse p hp]
    decide
  rw [CasbinEnforcer.enforce, hmatching]
  rfl

/-- What the service rejects as cross-tenant the matcher denies under every policy, exactly when the tenant id of the
resource is not the empty string. -/
theorem tenant_backstop (eval : CondEval) (ctx : ResourceContext) (h : ctx.crossTenant = true) :
    (∀ policy, (CasbinEnforcer.mk policy eval).enforce ctx.request = some false) ↔
      ctx.resourceTenantId ≠ some "" := by
  rw [ne_eq, ← tenant_clause_iff h]
  constructor
  · intro hall htenant
    -- a row that allows everything
    have hallow : (CasbinEnforcer.mk [⟨"*", "*", "*", "", "allow"⟩] eval).enforce ctx.request = some true := by
      refine CasbinEnforcer.enforce_eq_true.2 ?_
      have hmatch : matcher eval ⟨"*", "*", "*", "", "allow"⟩ ctx.request = some true :=
        matcher_eq_true.2 ⟨⟨Or.inl rfl, Or.inl rfl, Or.inl rfl, htenant⟩, Or.inl rfl⟩
      simp [hmatch]
    rw [hall] at hallow
    cases hallow
  · exact fun htenant policy => CasbinEnforcer.enforce_of_tenant htenant

theorem tenant_backstop_other :
    (∀ policy, (CasbinEnforcer.mk policy evalCondition).enforce
      (ResourceContext.request ⟨"u1", "t1", {"admin"}, "read", "booking", none, none, ∅, some "t2"⟩) = some false) ↔
      some "t2" ≠ some "" :=
  tenant_backstop evalCondition ⟨"u1", "t1", {"admin"}, "read", "booking", none, none, ∅, some "t2"⟩ (by decide)

/-- The admin row of the shipped policy, for a booking of the tenant or of none. -/
private theorem shippedService_admin {r : CasbinRequest} (hrole : "admin" ∈ r.sub.roles)
    (htype : r.obj.type = "booking") (htenant : r.obj.tenant = "" ∨ r.obj.tenant = r.dom) :
    shippedService.enforcer.enforce r = some true := by
  have hadmin : matcher evalCondition ⟨"admin", "booking", "*", "", "allow"⟩ r = some true :=
    matcher_eq_true.2 ⟨⟨Or.inr hrole, Or.inr htype.symm, Or.inl rfl, htenant⟩, Or.inl rfl⟩
  have hmem : ⟨"admin", "booking", "*", "", "allow"⟩ ∈ policyCsv := by simp [policyCsv]
  refine CasbinEnforcer.enforce_eq_true.2 ⟨matcher_policyCsv_isSome r, ⟨_, hmem, hadmin, rfl⟩,
    fun p hp hmatch hdeny => ?_⟩
  -- the deny row is for payments
  have hobj := (matcher_eq_true.1 hmatch).1.objType
  rw [htype] at hobj
  simp only [shippedService, policyCsv, List.mem_cons, List.not_mem_nil, or_false] at hp
  rcases hp with rfl | rfl | rfl | rfl | rfl | rfl
  · exact absurd hdeny (by decide)
  · exact absurd hdeny (by decide)
  · exact absurd hdeny (by decide)
  · exact absurd hdeny (by decide)
  · exact absurd hdeny (by decide)
  · exact absurd hobj (by decide)

/-- A resource of the tenant `""` is rejected as cross-tenant, and the shipped policy would let an admin read it. -/
theorem tenant_backstop_fails :
    shippedService.enforce ⟨"u1", "t1", {"admin"}, "read", "booking", none, none, ∅, some ""⟩ =
      .error (.forbidden ⟨"Resource not accessible", [("reason", "cross_tenant")]⟩) ∧
    shippedService.enforcer.enforce
      (ResourceContext.request ⟨"u1", "t1", {"admin"}, "read", "booking", none, none, ∅, some ""⟩) = some true := by
  refine ⟨by decide, shippedService_admin (ResourceContext.mem_roles.2 ?_) rfl (Or.inl rfl)⟩
  decide

end CleanBackend
