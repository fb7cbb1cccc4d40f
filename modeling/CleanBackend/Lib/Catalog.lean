import Mathlib.Data.List.Nodup
import Mathlib.Logic.Function.Basic

/-!
# A catalog of database objects

Objects with the privileges granted on them, and the statements that create, drop, grant and revoke.  An object needs
others to be created, and objects that use it keep it from being dropped.  A list of objects, each after those it
needs, is created as a whole (`Catalog.run_creates`); a list of objects, each after those that use it, is dropped as a
whole (`Catalog.run_drops`).
-/

namespace CleanBackend

/-- Whom a privilege is granted to. -/
inductive Grantee (ρ : Type) where
  | anyone
  | role (r : ρ)
  deriving DecidableEq, Repr

/-- The objects with the privileges on them, and the roles. -/
structure Catalog (ω ρ : Type) where
  acl : ω → Option (List (Grantee ρ))
  roles : List ρ

/-- What objects depend on. -/
structure ObjectRules (ω ρ : Type) where
  needs : ω → List ω
  /-- the objects that keep it from being dropped -/
  pins : ω → List ω
  /-- the privileges on a new object -/
  initial : ω → List (Grantee ρ)

inductive Ddl (ω ρ : Type) where
  | create (orReplace : Bool) (o : ω)
  | drop (ifExists : Bool) (o : ω)
  | createRoleIfNotExists (r : ρ)
  | grant (o : ω) (g : Grantee ρ)
  | revoke (o : ω) (g : Grantee ρ)
  /-- `ON ALL … IN` the container -/
  | revokeAll (container : ω) (os : ω → Bool) (g : Grantee ρ)

inductive DdlError (ω ρ : Type) where
  | duplicateObject (o : ω)
  | undefinedObject (o : ω)
  | dependentObjectsStillExist (o : ω)
  | undefinedRole (r : ρ)
  deriving DecidableEq, Repr

namespace Catalog

variable {ω ρ : Type} [DecidableEq ω] [DecidableEq ρ]

def has (c : Catalog ω ρ) (o : ω) : Bool := (c.acl o).isSome

/-- `g` has the privilege on `o`. -/
def Grants (c : Catalog ω ρ) (o : ω) (g : Grantee ρ) : Prop := ∃ acl, c.acl o = some acl ∧ g ∈ acl

instance (c : Catalog ω ρ) (o : ω) (g : Grantee ρ) : Decidable (c.Grants o g) :=
  match h : c.acl o with
  | none => isFalse fun ⟨_, hacl, _⟩ => by cases h.symm.trans hacl
  | some acl => decidable_of_iff (g ∈ acl) ⟨fun hg => ⟨acl, h, hg⟩, fun ⟨_, hacl, hg⟩ => by
      cases h.symm.trans hacl; exact hg⟩

/-- The role of a grantee that is not there. -/
def missing (c : Catalog ω ρ) : Grantee ρ → Option ρ
  | .anyone => none
  | .role r => if r ∈ c.roles then none else some r

def put (c : Catalog ω ρ) (o : ω) (acl : Option (List (Grantee ρ))) : Catalog ω ρ :=
  { c with acl := Function.update c.acl o acl }

/-- The privileges on one object. -/
def alter (c : Catalog ω ρ) (o : ω) (g : Grantee ρ) (f : List (Grantee ρ) → List (Grantee ρ)) :
    Except (DdlError ω ρ) (Catalog ω ρ) :=
  match c.acl o, c.missing g with
  | none, _ => .error (.undefinedObject o)
  | some _, some r => .error (.undefinedRole r)
  | some acl, none => .ok (c.put o (some (f acl)))

/-- One statement. -/
def exec (R : ObjectRules ω ρ) (c : Catalog ω ρ) : Ddl ω ρ → Except (DdlError ω ρ) (Catalog ω ρ)
  | .create orReplace o =>
    match (R.needs o).find? (!c.has ·) with
    | some n => .error (.undefinedObject n)
    | none =>
      match c.acl o with
      | none => .ok (c.put o (some (R.initial o)))
      | some _ => if orReplace then .ok c else .error (.duplicateObject o)
  | .drop ifExists o =>
    match c.acl o with
    | none => if ifExists then .ok c else .error (.undefinedObject o)
    | some _ =>
      match (R.pins o).find? c.has with
      | some p => .error (.dependentObjectsStillExist p)
      | none => .ok (c.put o none)
  | .createRoleIfNotExists r => .ok (if r ∈ c.roles then c else { c with roles := r :: c.roles })
  | .grant o g => c.alter o g (g :: ·)
  | .revoke o g => c.alter o g (·.filter (· ≠ g))
  | .revokeAll container os g =>
    match c.acl container, c.missing g with
    | none, _ => .error (.undefinedObject container)
    | some _, some r => .error (.undefinedRole r)
    | some _, none => .ok { c with acl := fun o => if os o then (c.acl o).map (·.filter (· ≠ g)) else c.acl o }

/-- A script in one transaction. -/
def run (R : ObjectRules ω ρ) (c : Catalog ω ρ) : List (Ddl ω ρ) → Except (DdlError ω ρ) (Catalog ω ρ)
  | [] => .ok c
  | d :: ds =>
    match c.exec R d with
    | .error e => .error e
    | .ok c' => run R c' ds

variable {R : ObjectRules ω ρ} {c c' : Catalog ω ρ} {o : ω} {os : List ω} {r : ρ} {g g' : Grantee ρ}

theorem run_cons {d : Ddl ω ρ} {ds : List (Ddl ω ρ)} (h : c.exec R d = .ok c') : c.run R (d :: ds) = c'.run R ds := by
  rw [run, h]

omit [DecidableEq ρ] in
private theorem put_self (c : Catalog ω ρ) (o : ω) (acl : Option (List (Grantee ρ))) : (c.put o acl).acl o = acl :=
  Function.update_self ..

omit [DecidableEq ρ] in
private theorem put_of_ne (c : Catalog ω ρ) {o o' : ω} (acl : Option (List (Grantee ρ))) (h : o' ≠ o) :
    (c.put o acl).acl o' = c.acl o' := Function.update_of_ne h ..

/-! ### Creating -/

theorem exec_create (orReplace : Bool) (hneeds : ∀ n ∈ R.needs o, c.has n) (hnew : c.acl o = none) :
    c.exec R (.create orReplace o) = .ok (c.put o (some (R.initial o))) := by
  have hfind : (R.needs o).find? (!c.has ·) = none := List.find?_eq_none.2 fun n hn => by simp [hneeds n hn]
  simp only [exec, hfind, hnew]

/-- Objects in an order in which each comes after those it needs. -/
theorem run_creates (orReplace : ω → Bool) (hnodup : os.Nodup) (hself : ∀ o ∈ os, o ∉ R.needs o)
    (horder : os.Pairwise fun o later => later ∉ R.needs o) (hnew : ∀ o ∈ os, c.acl o = none)
    (hneeds : ∀ o ∈ os, ∀ n ∈ R.needs o, n ∈ os ∨ c.has n) :
    ∃ c', c.run R (os.map fun o => .create (orReplace o) o) = .ok c' ∧ c'.roles = c.roles ∧
      ∀ o, c'.acl o = if o ∈ os then some (R.initial o) else c.acl o := by
  induction os generalizing c with
  | nil => exact ⟨c, rfl, rfl, fun o => (if_neg List.not_mem_nil).symm⟩
  | cons o os ih =>
    obtain ⟨ho, hnodup⟩ := List.nodup_cons.1 hnodup
    obtain ⟨horder₁, horder⟩ := List.pairwise_cons.1 horder
    have hne : ∀ o' ∈ os, o' ≠ o := fun o' ho' he => ho (he ▸ ho')
    -- what the first object needs comes neither from itself nor from a later one
    have hhead : ∀ n ∈ R.needs o, c.has n := by
      intro n hn
      rcases hneeds o List.mem_cons_self n hn with hmem | hhas
      · rcases List.mem_cons.1 hmem with rfl | hmem
        · exact absurd hn (hself n List.mem_cons_self)
        · exact absurd hn (horder₁ n hmem)
      · exact hhas
    obtain ⟨c', hrun, hroles, hacl⟩ := ih (c := c.put o (some (R.initial o))) hnodup
      (fun o' ho' => hself o' (List.mem_cons_of_mem _ ho')) horder
      (fun o' ho' => (c.put_of_ne _ (hne o' ho')).trans (hnew o' (List.mem_cons_of_mem _ ho')))
      (fun o' ho' n hn => by
        rcases hneeds o' (List.mem_cons_of_mem _ ho') n hn with hmem | hhas
        · rcases List.mem_cons.1 hmem with rfl | hmem
          · exact Or.inr (by rw [has, put_self]; rfl)
          · exact Or.inl hmem
        · by_cases he : n = o
          · exact Or.inr (by rw [has, he, put_self]; rfl)
          · exact Or.inr (by rw [has, c.put_of_ne _ he]; exact hhas))
    refine ⟨c', ?_, hroles, fun o' => (hacl o').trans ?_⟩
    · rw [List.map_cons, run_cons (exec_create _ hhead (hnew o List.mem_cons_self)), hrun]
    · by_cases he : o' = o
      · subst he
        rw [if_neg ho, if_pos List.mem_cons_self, put_self]
      · rw [c.put_of_ne _ he]
        simp only [List.mem_cons, he, false_or]

/-! ### Dropping -/

private theorem exec_drop (ifExists : Bool) (hpins : ∀ p ∈ R.pins o, c.acl p = none) (hold : c.has o) :
    c.exec R (.drop ifExists o) = .ok (c.put o none) := by
  obtain ⟨acl, hacl⟩ := Option.isSome_iff_exists.1 hold
  have hfind : (R.pins o).find? c.has = none := List.find?_eq_none.2 fun p hp => by simp [has, hpins p hp]
  simp only [exec, hacl, hfind]

/-- Objects in an order in which each comes after those that use it. -/
theorem run_drops (ifExists : ω → Bool) (hnodup : os.Nodup) (hself : ∀ o ∈ os, o ∉ R.pins o)
    (horder : os.Pairwise fun o later => later ∉ R.pins o) (hold : ∀ o ∈ os, c.has o)
    (hpins : ∀ o ∈ os, ∀ p ∈ R.pins o, p ∈ os ∨ c.acl p = none) :
    ∃ c', c.run R (os.map fun o => .drop (ifExists o) o) = .ok c' ∧ c'.roles = c.roles ∧
      ∀ o, c'.acl o = if o ∈ os then none else c.acl o := by
  induction os generalizing c with
  | nil => exact ⟨c, rfl, rfl, fun o => (if_neg List.not_mem_nil).symm⟩
  | cons o os ih =>
    obtain ⟨ho, hnodup⟩ := List.nodup_cons.1 hnodup
    obtain ⟨horder₁, horder⟩ := List.pairwise_cons.1 horder
    have hne : ∀ o' ∈ os, o' ≠ o := fun o' ho' he => ho (he ▸ ho')
    -- what pins the first object is gone, since it is neither itself nor a later one
    have hhead : ∀ p ∈ R.pins o, c.acl p = none := by
      intro p hp
      rcases hpins o List.mem_cons_self p hp with hmem | hnone
      · rcases List.mem_cons.1 hmem with rfl | hmem
        · exact absurd hp (hself p List.mem_cons_self)
        · exact absurd hp (horder₁ p hmem)
      · exact hnone
    obtain ⟨c', hrun, hroles, hacl⟩ := ih (c := c.put o none) hnodup
      (fun o' ho' => hself o' (List.mem_cons_of_mem _ ho')) horder
      (fun o' ho' => by rw [has, c.put_of_ne _ (hne o' ho')]; exact hold o' (List.mem_cons_of_mem _ ho'))
      (fun o' ho' p hp => by
        rcases hpins o' (List.mem_cons_of_mem _ ho') p hp with hmem | hnone
        · rcases List.mem_cons.1 hmem with rfl | hmem
          · exact Or.inr (put_self ..)
          · exact Or.inl hmem
        · by_cases he : p = o
          · exact Or.inr (he ▸ put_self ..)
          · exact Or.inr ((c.put_of_ne _ he).trans hnone))
    refine ⟨c', ?_, hroles, fun o' => (hacl o').trans ?_⟩
    · rw [List.map_cons, run_cons (exec_drop _ hhead (hold o List.mem_cons_self)), hrun]
    · by_cases he : o' = o
      · subst he
        rw [if_neg ho, if_pos List.mem_cons_self, put_self]
      · rw [c.put_of_ne _ he]
        simp only [List.mem_cons, he, false_or]

/-! ### Privileges -/

private theorem exec_alter {f : List (Grantee ρ) → List (Grantee ρ)} (ho : c.has o) (hg : c.missing g = none) :
    ∃ acl, c.acl o = some acl ∧ c.alter o g f = .ok (c.put o (some (f acl))) := by
  obtain ⟨acl, hacl⟩ := Option.isSome_iff_exists.1 ho
  exact ⟨acl, hacl, by simp only [alter, hacl, hg]⟩

/-- Grants to one grantee, on objects that are there. -/
theorem run_grants (os : List ω) (hg : c.missing g = none) (hos : ∀ o ∈ os, c.has o) :
    ∃ c', c.run R (os.map (.grant · g)) = .ok c' ∧ c'.roles = c.roles ∧
      (∀ o, c'.has o = c.has o) ∧ ∀ o g', c'.Grants o g' ↔ c.Grants o g' ∨ (o ∈ os ∧ g' = g) := by
  induction os generalizing c with
  | nil => exact ⟨c, rfl, rfl, fun _ => rfl, fun o g' => ⟨Or.inl,
    fun h => h.elim id fun h => absurd h.1 List.not_mem_nil⟩⟩
  | cons o os ih =>
    obtain ⟨acl, hacl, hexec⟩ := exec_alter (f := (g :: ·)) (hos o List.mem_cons_self) hg
    have hhas : ∀ o', (c.put o (some (g :: acl))).has o' = c.has o' := by
      intro o'
      by_cases he : o' = o
      · rw [has, has, he, put_self, hacl]
        rfl
      · rw [has, has, c.put_of_ne _ he]
    obtain ⟨c', hrun, hroles, hhas', hgrants⟩ := ih (c := c.put o (some (g :: acl))) hg
      fun o' ho' => (hhas o').trans (hos o' (List.mem_cons_of_mem _ ho'))
    refine ⟨c', ?_, hroles, fun o' => (hhas' o').trans (hhas o'), fun o' g' => (hgrants o' g').trans ?_⟩
    · rw [List.map_cons, run_cons (show c.exec R (.grant o g) = _ from hexec), hrun]
    · by_cases he : o' = o
      · subst he
        simp only [Grants, put_self, hacl, List.mem_cons, true_or, true_and]
        grind
      · simp only [Grants, c.put_of_ne _ he, List.mem_cons, he, false_or]

/-- `REVOKE … ON ALL …` in a container that is there. -/
theorem exec_revokeAll {container : ω} {f : ω → Bool} (hc : c.has container) (hg : c.missing g = none) :
    ∃ c', c.exec R (.revokeAll container f g) = .ok c' ∧ c'.roles = c.roles ∧ (∀ o, c'.has o = c.has o) ∧
      ∀ o g', c'.Grants o g' ↔ c.Grants o g' ∧ ¬ (f o = true ∧ g' = g) := by
  obtain ⟨acl, hacl⟩ := Option.isSome_iff_exists.1 hc
  refine ⟨{ c with acl := fun o => if f o then (c.acl o).map (·.filter (· ≠ g)) else c.acl o }, ?_, rfl, fun o => ?_,
    fun o g' => ?_⟩
  · simp only [exec, hacl, hg]
  · unfold has
    by_cases ho : f o = true
    · simp only [if_pos ho, Option.isSome_map]
    · simp only [if_neg ho]
  · unfold Grants
    by_cases ho : f o = true
    · simp only [if_pos ho, Option.map_eq_some_iff]
      constructor
      · rintro ⟨_, ⟨acl, hacl, rfl⟩, hmem⟩
        obtain ⟨hmem, hne⟩ := List.mem_filter.1 hmem
        exact ⟨⟨acl, hacl, hmem⟩, fun he => of_decide_eq_true hne he.2⟩
      · rintro ⟨⟨acl, hacl, hmem⟩, hne⟩
        exact ⟨_, ⟨acl, hacl, rfl⟩, List.mem_filter.2 ⟨hmem, decide_eq_true fun he => hne ⟨ho, he⟩⟩⟩
    · simp only [if_neg ho]
      exact ⟨fun h => ⟨h, fun he => ho he.1⟩, fun h => h.1⟩

/-- `REVOKE` on an object that is there. -/
theorem exec_revoke (ho : c.has o) (hg : c.missing g = none) :
    ∃ c', c.exec R (.revoke o g) = .ok c' ∧ c'.roles = c.roles ∧ (∀ o, c'.has o = c.has o) ∧
      ∀ o' g', c'.Grants o' g' ↔ c.Grants o' g' ∧ ¬ (o' = o ∧ g' = g) := by
  obtain ⟨acl, hacl, hexec⟩ := exec_alter (f := (·.filter (· ≠ g))) ho hg
  refine ⟨_, hexec, rfl, fun o' => ?_, fun o' g' => ?_⟩
  · unfold has
    by_cases he : o' = o
    · rw [he, put_self, hacl]
      rfl
    · rw [c.put_of_ne _ he]
  · unfold Grants
    by_cases he : o' = o
    · subst he
      rw [put_self, hacl]
      simp
    · rw [c.put_of_ne _ he]
      exact ⟨fun h => ⟨h, fun hn => he hn.1⟩, fun h => h.1⟩

end Catalog

end CleanBackend
