import CleanBackend.Authorization.AuthorizationService

/-!
# The shipped policy

`policy.csv`, and what it decides: the five locked rules and nothing else.
-/

namespace CleanBackend

/-- `policy.csv` -/
def policyCsv : List PolicyRow :=
  [⟨"admin", "booking", "*", "", "allow"⟩,
    ⟨"manager", "booking", "approve", "", "allow"⟩,
    ⟨"staff", "event", "read", "r.sub.id in r.obj.assigned", "allow"⟩,
    ⟨"owner", "profile", "update", "r.obj.owner_id == r.sub.id", "allow"⟩,
    ⟨"finance", "payment", "refund", "", "allow"⟩,
    ⟨"*", "payment", "refund", "not ('finance' in r.sub.roles)", "deny"⟩]

/-- The service over the shipped model and policy. -/
def shippedService : AuthorizationService := ⟨⟨policyCsv, evalCondition⟩⟩

/-- The five locked rules. -/
def LockedRules (ctx : ResourceContext) : Prop :=
  ("admin" ∈ ctx.roles ∧ ctx.resourceType = "booking") ∨
  ("manager" ∈ ctx.roles ∧ ctx.resourceType = "booking" ∧ ctx.action = "approve") ∨
  ("staff" ∈ ctx.roles ∧ ctx.resourceType = "event" ∧ ctx.action = "read" ∧
    ctx.actorUserId ∈ ctx.assignedUserIds) ∨
  ("owner" ∈ ctx.roles ∧ ctx.resourceType = "profile" ∧ ctx.action = "update" ∧
    ctx.resourceOwnerId = some ctx.actorUserId) ∨
  ("finance" ∈ ctx.roles ∧ ctx.resourceType = "payment" ∧ ctx.action = "refund")

/-! ### The conditions -/

section Conditions

/-- The conditions that the policy rows carry, parsed. -/
private theorem parseCondition_shipped :
    parseCondition "r.sub.id in r.obj.assigned" = some (.isIn (.name "r.sub.id") (.name "r.obj.assigned")) ∧
      parseCondition "r.obj.owner_id == r.sub.id" = some (.eq (.name "r.obj.owner_id") (.name "r.sub.id")) ∧
      parseCondition "not ('finance' in r.sub.roles)" =
        some (.not (.isIn (.str "finance") (.name "r.sub.roles"))) := by decide +kernel

variable (r : CasbinRequest)

private theorem evalCondition_assigned :
    evalCondition "r.sub.id in r.obj.assigned" r = some (r.obj.assigned.contains r.sub.id) := by
  rw [evalCondition, evalText_eq parseCondition_shipped.1]
  rfl

private theorem evalCondition_owner :
    evalCondition "r.obj.owner_id == r.sub.id" r = some (r.obj.ownerId == r.sub.id) := by
  rw [evalCondition, evalText_eq parseCondition_shipped.2.1]
  by_cases h : r.obj.ownerId = r.sub.id <;> simp [PyExpr.eval, CasbinRequest.lookup, PyValue.truthy, h]

private theorem evalCondition_finance :
    evalCondition "not ('finance' in r.sub.roles)" r = some (!r.sub.roles.contains "finance") := by
  rw [evalCondition, evalText_eq parseCondition_shipped.2.2]
  rfl

/-- No condition of the shipped policy raises. -/
theorem matcher_policyCsv_isSome : ∀ p ∈ policyCsv, (matcher evalCondition p r).isSome := by
  have hmatcher : ∀ p : PolicyRow, (p.cond = "" ∨ (evalCondition p.cond r).isSome) →
      (matcher evalCondition p r).isSome := by
    intro p hp
    by_cases happ : p.AppliesTo r
    · rw [matcher_eq happ]
      split
      · rfl
      · rename_i hc
        exact hp.resolve_left hc
    · rw [matcher_eq_false happ]
      rfl
  intro p hp
  apply hmatcher
  simp only [policyCsv, List.mem_cons, List.not_mem_nil, or_false] at hp
  rcases hp with rfl | rfl | rfl | rfl | rfl | rfl
  · exact Or.inl rfl
  · exact Or.inl rfl
  · right; rw [evalCondition_assigned]; rfl
  · right; rw [evalCondition_owner]; rfl
  · exact Or.inl rfl
  · right; rw [evalCondition_finance]; rfl

end Conditions

/-! ### The decision -/

variable {ctx : ResourceContext}

/-- A row fires on a context of the own tenant. -/
def Fires (p : PolicyRow) (ctx : ResourceContext) : Prop :=
  (p.role = "*" ∨ p.role ∈ ctx.roles) ∧ (p.objType = "*" ∨ p.objType = ctx.resourceType) ∧
    (p.act = "*" ∨ p.act = ctx.action) ∧ (p.cond = "" ∨ evalCondition p.cond ctx.request = some true)

private theorem matcher_iff_fires (hct : ctx.crossTenant = false) {p : PolicyRow} :
    matcher evalCondition p ctx.request = some true ↔ Fires p ctx := by
  rw [matcher_eq_true]
  constructor
  · rintro ⟨⟨hrole, htype, hact, -⟩, hcond⟩
    exact ⟨hrole.imp_right ResourceContext.mem_roles.1, htype, hact, hcond⟩
  · rintro ⟨hrole, htype, hact, hcond⟩
    exact ⟨⟨hrole.imp_right ResourceContext.mem_roles.2, htype, hact, ResourceContext.tenant_of_not_crossTenant hct⟩,
      hcond⟩

private theorem fires_assigned :
    evalCondition "r.sub.id in r.obj.assigned" ctx.request = some true ↔ ctx.actorUserId ∈ ctx.assignedUserIds := by
  rw [evalCondition_assigned, Option.some.injEq, List.contains_iff_mem, ResourceContext.mem_assigned]
  rfl

/-- An absent owner is the empty string, which no actor is. -/
private theorem fires_owner (hactor : ctx.actorUserId ≠ "") :
    evalCondition "r.obj.owner_id == r.sub.id" ctx.request = some true ↔
      ctx.resourceOwnerId = some ctx.actorUserId := by
  rw [evalCondition_owner, Option.some.injEq, beq_iff_eq]
  show ctx.resourceOwnerId.getD "" = ctx.actorUserId ↔ _
  cases ctx.resourceOwnerId with
  | none => simpa using hactor.symm
  | some owner => simp

theorem fires_finance :
    evalCondition "not ('finance' in r.sub.roles)" ctx.request = some true ↔ "finance" ∉ ctx.roles := by
  rw [evalCondition_finance, Option.some.injEq, Bool.not_eq_true', ← Bool.not_eq_true, List.contains_iff_mem,
    ResourceContext.mem_roles]

/-- The allow rows are the five rules. -/
private theorem allow_iff (hactor : ctx.actorUserId ≠ "") :
    (∃ p ∈ policyCsv, Fires p ctx ∧ p.eft = "allow") ↔ LockedRules ctx := by
  constructor
  · rintro ⟨p, hp, ⟨hrole, htype, hact, hcond⟩, heft⟩
    simp only [policyCsv, List.mem_cons, List.not_mem_nil, or_false] at hp
    rcases hp with rfl | rfl | rfl | rfl | rfl | rfl
    · exact Or.inl ⟨hrole.resolve_left (by decide), (htype.resolve_left (by decide)).symm⟩
    · exact Or.inr (Or.inl ⟨hrole.resolve_left (by decide), (htype.resolve_left (by decide)).symm,
        (hact.resolve_left (by decide)).symm⟩)
    · exact Or.inr (Or.inr (Or.inl ⟨hrole.resolve_left (by decide), (htype.resolve_left (by decide)).symm,
        (hact.resolve_left (by decide)).symm, fires_assigned.1 (hcond.resolve_left (by decide))⟩))
    · exact Or.inr (Or.inr (Or.inr (Or.inl ⟨hrole.resolve_left (by decide), (htype.resolve_left (by decide)).symm,
        (hact.resolve_left (by decide)).symm, (fires_owner hactor).1 (hcond.resolve_left (by decide))⟩)))
    · exact Or.inr (Or.inr (Or.inr (Or.inr ⟨hrole.resolve_left (by decide),
        (htype.resolve_left (by decide)).symm, (hact.resolve_left (by decide)).symm⟩)))
    · exact absurd heft (by decide)
  · have hmem : ∀ p ∈ policyCsv, Fires p ctx → p.eft = "allow" → ∃ p ∈ policyCsv, Fires p ctx ∧ p.eft = "allow" :=
      fun p hp hf heft => ⟨p, hp, hf, heft⟩
    rintro (⟨hrole, htype⟩ | ⟨hrole, htype, hact⟩ | ⟨hrole, htype, hact, hc⟩ | ⟨hrole, htype, hact, hc⟩ |
      ⟨hrole, htype, hact⟩)
    · exact hmem ⟨"admin", "booking", "*", "", "allow"⟩ (by simp [policyCsv])
        ⟨Or.inr hrole, Or.inr htype.symm, Or.inl rfl, Or.inl rfl⟩ rfl
    · exact hmem ⟨"manager", "booking", "approve", "", "allow"⟩ (by simp [policyCsv])
        ⟨Or.inr hrole, Or.inr htype.symm, Or.inr hact.symm, Or.inl rfl⟩ rfl
    · exact hmem ⟨"staff", "event", "read", "r.sub.id in r.obj.assigned", "allow"⟩ (by simp [policyCsv])
        ⟨Or.inr hrole, Or.inr htype.symm, Or.inr hact.symm, Or.inr (fires_assigned.2 hc)⟩ rfl
    · exact hmem ⟨"owner", "profile", "update", "r.obj.owner_id == r.sub.id", "allow"⟩ (by simp [policyCsv])
        ⟨Or.inr hrole, Or.inr htype.symm, Or.inr hact.symm, Or.inr ((fires_owner hactor).2 hc)⟩ rfl
    · exact hmem ⟨"finance", "payment", "refund", "", "allow"⟩ (by simp [policyCsv])
        ⟨Or.inr hrole, Or.inr htype.symm, Or.inr hact.symm, Or.inl rfl⟩ rfl

/-- The deny row never fires where a rule allows: the refund rule needs the finance role itself. -/
private theorem no_deny (h : LockedRules ctx) : ∀ p ∈ policyCsv, Fires p ctx → p.eft ≠ "deny" := by
  rintro p hp ⟨-, htype, hact, hcond⟩ hdeny
  simp only [policyCsv, List.mem_cons, List.not_mem_nil, or_false] at hp
  rcases hp with rfl | rfl | rfl | rfl | rfl | rfl
  · exact absurd hdeny (by decide)
  · exact absurd hdeny (by decide)
  · exact absurd hdeny (by decide)
  · exact absurd hdeny (by decide)
  · exact absurd hdeny (by decide)
  · have hpay : "payment" = ctx.resourceType := htype.resolve_left (by decide)
    have hno : "finance" ∉ ctx.roles := fires_finance.1 (hcond.resolve_left (by decide))
    rcases h with ⟨-, ht⟩ | ⟨-, ht, -⟩ | ⟨-, ht, -⟩ | ⟨-, ht, -⟩ | ⟨hf, -⟩
    · rw [← hpay] at ht; exact absurd ht (by decide)
    · rw [← hpay] at ht; exact absurd ht (by decide)
    · rw [← hpay] at ht; exact absurd ht (by decide)
    · rw [← hpay] at ht; exact absurd ht (by decide)
    · exact hno hf

/-- The shipped model and policy decide the five locked rules in the tenant of the actor, and forbid everything
else. -/
theorem shippedService_decides (ctx : ResourceContext) (hactor : ctx.actorUserId ≠ "") :
    (shippedService.enforce ctx = .ok () ↔
      (ctx.resourceTenantId = none ∨ ctx.resourceTenantId = some ctx.tenantId) ∧ LockedRules ctx) ∧
    (shippedService.enforce ctx ≠ .ok () → ∃ error, shippedService.enforce ctx = .error (.forbidden error)) := by
  have hsome := matcher_policyCsv_isSome ctx.request
  refine ⟨?_, fun h => AuthorizationService.enforce_forbidden (CasbinEnforcer.enforce_isSome hsome) h⟩
  rw [AuthorizationService.enforce_eq_ok, ResourceContext.crossTenant_eq_false.symm]
  refine and_congr_right fun hct => ?_
  rw [CasbinEnforcer.enforce_eq_true]
  show (∀ p ∈ policyCsv, (matcher evalCondition p ctx.request).isSome) ∧
    (∃ p ∈ policyCsv, matcher evalCondition p ctx.request = some true ∧ p.eft = "allow") ∧
    (∀ p ∈ policyCsv, matcher evalCondition p ctx.request = some true → p.eft ≠ "deny") ↔ LockedRules ctx
  simp only [matcher_iff_fires hct]
  rw [allow_iff hactor]
  exact ⟨fun h => h.2.1, fun h => ⟨hsome, h, no_deny h⟩⟩

/-- A staff member reads an event assigned to them. -/
theorem shippedService_decides_staff :
    shippedService.enforce ⟨"u7", "t1", {"staff"}, "read", "event", none, none, {"u7", "u9"}, some "t1"⟩ = .ok () :=
  (shippedService_decides ⟨"u7", "t1", {"staff"}, "read", "event", none, none, {"u7", "u9"}, some "t1"⟩
    (by decide)).1.2 ⟨Or.inr rfl, by simp [LockedRules]⟩

end CleanBackend
