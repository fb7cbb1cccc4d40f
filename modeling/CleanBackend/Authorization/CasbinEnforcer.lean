import CleanBackend.Lib.PyCondition

/-!
# The casbin enforcer

`casbin_model.conf` over an arbitrary policy.  The matcher is evaluated on every row; the effect is that some matched
row allows and none denies.  `eval(p.cond)` is an argument, so that a result can quantify over it; `evalCondition` is
the Python one.  An evaluation that raises is `none`.
-/

namespace CleanBackend

/-- `r.sub` in the matcher. -/
structure EnforcerSubject where
  id : String
  roles : List String
  deriving DecidableEq, Repr

/-- `r.obj` in the matcher.  The empty string means "attribute not applicable". -/
structure EnforcerResource where
  type : String
  ownerId : String
  assigned : List String
  tenant : String
  deriving DecidableEq, Repr

/-- `r = sub, dom, obj, act` -/
structure CasbinRequest where
  sub : EnforcerSubject
  dom : String
  obj : EnforcerResource
  act : String
  deriving DecidableEq, Repr

/-- `p = role, obj_type, act, cond, eft` -/
structure PolicyRow where
  role : String
  objType : String
  act : String
  cond : String
  eft : String
  deriving DecidableEq, Repr

/-- The row as `get_policy()` gives it. -/
def PolicyRow.cells (p : PolicyRow) : List String := [p.role, p.objType, p.act, p.cond, p.eft]

abbrev CondEval := String → CasbinRequest → Option Bool

/-- The names a condition can use. -/
def CasbinRequest.lookup (r : CasbinRequest) (path : String) : Option PyValue :=
  if path = "r.sub.id" then some (.str r.sub.id)
  else if path = "r.sub.roles" then some (.tuple r.sub.roles)
  else if path = "r.dom" then some (.str r.dom)
  else if path = "r.obj.type" then some (.str r.obj.type)
  else if path = "r.obj.owner_id" then some (.str r.obj.ownerId)
  else if path = "r.obj.assigned" then some (.tuple r.obj.assigned)
  else if path = "r.obj.tenant" then some (.str r.obj.tenant)
  else if path = "r.act" then some (.str r.act)
  else none

/-- `eval(p.cond)` -/
def evalCondition : CondEval := fun cond r => evalText r.lookup cond

/-- The matcher `m`. -/
def matcher (eval : CondEval) (p : PolicyRow) (r : CasbinRequest) : Option Bool :=
  if (p.role == "*" || r.sub.roles.contains p.role) && (p.objType == "*" || p.objType == r.obj.type) &&
      (p.act == "*" || p.act == r.act) && (r.obj.tenant == "" || r.obj.tenant == r.dom) then
    if p.cond == "" then some true else eval p.cond r
  else some false

/-- The rows that match, if the matcher raises on no row. -/
def matching (eval : CondEval) (r : CasbinRequest) : List PolicyRow → Option (List PolicyRow)
  | [] => some []
  | p :: rows => do
    let matched ← matcher eval p r
    let others ← matching eval r rows
    return if matched then p :: others else others

/-- `e = some(where (p.eft == allow)) && !some(where (p.eft == deny))` -/
def effect (matched : List PolicyRow) : Bool :=
  matched.any (fun p => p.eft == "allow") && !matched.any (fun p => p.eft == "deny")

structure CasbinEnforcer where
  policy : List PolicyRow
  eval : CondEval

def CasbinEnforcer.enforce (e : CasbinEnforcer) (r : CasbinRequest) : Option Bool :=
  (matching e.eval r e.policy).map effect

/-- The raw p-rules. -/
def CasbinEnforcer.policyRules (e : CasbinEnforcer) : List (List String) := e.policy.map PolicyRow.cells

/-! ### The decision -/

variable {eval : CondEval} {p : PolicyRow} {r : CasbinRequest}

/-- A row applies to a request: role, type, action and tenant. -/
structure PolicyRow.AppliesTo (p : PolicyRow) (r : CasbinRequest) : Prop where
  role : p.role = "*" ∨ p.role ∈ r.sub.roles
  objType : p.objType = "*" ∨ p.objType = r.obj.type
  act : p.act = "*" ∨ p.act = r.act
  tenant : r.obj.tenant = "" ∨ r.obj.tenant = r.dom

theorem matcher_eq (h : p.AppliesTo r) :
    matcher eval p r = if p.cond = "" then some true else eval p.cond r := by
  obtain ⟨h₁, h₂, h₃, h₄⟩ := h
  simp [matcher, h₁, h₂, h₃, h₄]

theorem matcher_eq_false (h : ¬ p.AppliesTo r) : matcher eval p r = some false := by
  unfold matcher
  rw [if_neg]
  intro hc
  simp only [Bool.and_eq_true, Bool.or_eq_true, beq_iff_eq, List.contains_iff_mem] at hc
  exact h ⟨hc.1.1.1, hc.1.1.2, hc.1.2, hc.2⟩

theorem matcher_eq_true :
    matcher eval p r = some true ↔ p.AppliesTo r ∧ (p.cond = "" ∨ eval p.cond r = some true) := by
  by_cases h : p.AppliesTo r
  · rw [matcher_eq h]
    by_cases hc : p.cond = "" <;> simp [h, hc]
  · rw [matcher_eq_false h]
    simp [h]

theorem matching_eq_some {rows : List PolicyRow} {matched : List PolicyRow} :
    matching eval r rows = some matched ↔
      (∀ p ∈ rows, (matcher eval p r).isSome) ∧ matched = rows.filter fun p => matcher eval p r == some true := by
  induction rows generalizing matched with
  | nil =>
    simp only [matching, Option.some.injEq, List.filter_nil, List.not_mem_nil]
    exact ⟨fun h => ⟨nofun, h.symm⟩, fun h => h.2.symm⟩
  | cons p rows ih =>
    simp only [matching, List.forall_mem_cons, List.filter_cons]
    cases hp : matcher eval p r with
    | none => simp
    | some b =>
      cases hrows : matching eval r rows with
      | none =>
        have hnot : ¬ ∀ p ∈ rows, (matcher eval p r).isSome := by
          intro hall
          have := ih.2 ⟨hall, rfl⟩
          rw [hrows] at this
          cases this
        simp [hnot]
      | some others =>
        obtain ⟨hall, rfl⟩ := ih.1 hrows
        cases b
        · simp only [Option.bind_eq_bind, Option.bind_some, Option.pure_def, Option.some.injEq, Bool.false_eq_true,
            if_false, Option.isSome_some, true_and]
          exact ⟨fun h => ⟨hall, h.symm⟩, fun h => h.2.symm⟩
        · simp only [Option.bind_eq_bind, Option.bind_some, Option.pure_def, Option.some.injEq, if_true,
            Option.isSome_some, true_and]
          exact ⟨fun h => ⟨hall, h.symm⟩, fun h => h.2.symm⟩

/-- The enforcer allows when the matcher raises on no row, some matching row allows and no matching row denies. -/
theorem CasbinEnforcer.enforce_eq_true {e : CasbinEnforcer} :
    e.enforce r = some true ↔
      (∀ p ∈ e.policy, (matcher e.eval p r).isSome) ∧
      (∃ p ∈ e.policy, matcher e.eval p r = some true ∧ p.eft = "allow") ∧
      ∀ p ∈ e.policy, matcher e.eval p r = some true → p.eft ≠ "deny" := by
  simp only [CasbinEnforcer.enforce, Option.map_eq_some_iff]
  constructor
  · rintro ⟨matched, hm, he⟩
    obtain ⟨hall, rfl⟩ := matching_eq_some.1 hm
    simp only [effect, Bool.and_eq_true, List.any_eq_true, Bool.not_eq_true', List.any_eq_false, List.mem_filter,
      beq_iff_eq] at he
    obtain ⟨⟨p, ⟨hp, hmatch⟩, hallow⟩, hdeny⟩ := he
    exact ⟨hall, ⟨p, hp, hmatch, hallow⟩, fun q hq hmq => hdeny q ⟨hq, hmq⟩⟩
  · rintro ⟨hall, ⟨p, hp, hmatch, hallow⟩, hdeny⟩
    refine ⟨_, matching_eq_some.2 ⟨hall, rfl⟩, ?_⟩
    simp only [effect, Bool.and_eq_true, List.any_eq_true, Bool.not_eq_true', List.any_eq_false, List.mem_filter,
      beq_iff_eq]
    exact ⟨⟨p, ⟨hp, hmatch⟩, hallow⟩, fun q hq => hdeny q hq.1 hq.2⟩

/-- It decides when the matcher raises on no row. -/
theorem CasbinEnforcer.enforce_isSome {e : CasbinEnforcer} (h : ∀ p ∈ e.policy, (matcher e.eval p r).isSome) :
    (e.enforce r).isSome := by
  rw [CasbinEnforcer.enforce, matching_eq_some.2 ⟨h, rfl⟩]
  rfl

end CleanBackend
