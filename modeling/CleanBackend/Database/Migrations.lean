import CleanBackend.Auth.AsyncpgSessionRepository
import CleanBackend.Lib.Catalog
import CleanBackend.Lib.Migration

/-!
# The sqitch project

The changes of `sqitch.plan` with their deploy, revert and verify scripts, as statements on a catalog of the schema
`app`.  A function body names the tables and functions that it uses as text: only the row types that it declares must
exist when it is created.  Every action that the declared prerequisites allow succeeds, from an empty database and in
any order, and leaves exactly the objects of the deployed changes; the service role can call the functions while
`app/grants` is deployed.  Nobody else can but the role that deploys, which owns the objects, and the superusers; and
these alone get to a table.
-/

namespace CleanBackend

inductive AppTable where
  | tenants | users | identities | memberships | userSessions
  deriving DecidableEq, Repr

inductive AppFunction where
  | ok | error | createUserSession | getUserSession | touchUserSession | rotateUserSession | revokeUserSession
  | revokeAllUserSessions | deleteExpiredSessions | mapIdentity
  deriving DecidableEq, Repr

inductive AppObject where
  | schema
  | table (t : AppTable)
  | function (f : AppFunction)
  deriving DecidableEq, Repr

inductive DbRole where
  | appService
  | other (name : String)
  deriving DecidableEq, Repr

/-- A user of the database, with the roles it is a member of; PostgreSQL's own roles over all data, such as
`pg_read_all_data`, are not among them. -/
structure DbUser where
  superuser : Bool
  /-- it is, or is a member of, the role that deploys and so owns the objects -/
  owner : Bool
  roles : List DbRole
  deriving DecidableEq, Repr

abbrev AppCatalog := Catalog AppObject DbRole

def AppObject.isTable : AppObject → Bool
  | table _ => true
  | _ => false

def AppObject.isFunction : AppObject → Bool
  | function _ => true
  | _ => false

namespace AppTable

def all : List AppTable := [tenants, users, identities, memberships, userSessions]

/-- `REFERENCES` -/
def references : AppTable → List AppTable
  | tenants | users => []
  | identities => [users]
  | memberships => [users, tenants]
  | userSessions => [users, tenants, userSessions]

/-- `CONSTRAINT` -/
def constraints : AppTable → List String
  | userSessions =>
    ["user_sessions_token_hash_key", "user_sessions_token_hash_is_sha256", "user_sessions_idle_within_absolute"]
  | _ => []

end AppTable

namespace AppFunction

def all : List AppFunction :=
  [ok, error, createUserSession, getUserSession, touchUserSession, rotateUserSession, revokeUserSession,
    revokeAllUserSessions, deleteExpiredSessions, mapIdentity]

/-- The tables whose row type the body declares a variable of. -/
def rowTypes : AppFunction → List AppTable
  | createUserSession | touchUserSession | rotateUserSession => [.userSessions]
  | _ => []

/-- The tables in the statements of the body. -/
def tables : AppFunction → List AppTable
  | ok | error => []
  | createUserSession => [.tenants, .memberships, .userSessions]
  | getUserSession => [.userSessions, .users]
  | touchUserSession | rotateUserSession | revokeUserSession | revokeAllUserSessions | deleteExpiredSessions =>
    [.userSessions]
  | mapIdentity => [.identities, .users, .tenants, .memberships]

/-- The functions that the body calls. -/
def calls : AppFunction → List AppFunction
  | ok | error => []
  | revokeUserSession | revokeAllUserSessions | deleteExpiredSessions => [ok]
  | createUserSession | getUserSession | touchUserSession | rotateUserSession | mapIdentity => [ok, error]

end AppFunction

/-- What PostgreSQL asks of the objects: a table needs the tables it references and is pinned by those that reference
it, a function needs its row types, everything needs the schema and pins it; anyone may execute a new function. -/
def appRules : ObjectRules AppObject DbRole where
  needs
    | .schema => []
    | .table t => .schema :: (t.references.filter (· ≠ t)).map .table
    | .function f => .schema :: f.rowTypes.map .table
  pins
    | .schema => AppTable.all.map .table ++ AppFunction.all.map .function
    | .table t => (AppTable.all.filter fun t' => t' ≠ t ∧ t ∈ t'.references).map .table
    | .function _ => []
  initial
    | .function _ => [.anyone]
    | _ => []

/-- `sqitch.plan` -/
inductive Change where
  | initAppSchema | envelopeHelpers | roles | identityTables | userSessions | createUserSession | getUserSession
  | touchUserSession | rotateUserSession | revokeUserSession | revokeAllUserSessions | deleteExpiredSessions
  | mapIdentity | grants
  deriving DecidableEq, Repr

namespace Change

def plan : List Change :=
  [initAppSchema, envelopeHelpers, roles, identityTables, userSessions, createUserSession, getUserSession,
    touchUserSession, rotateUserSession, revokeUserSession, revokeAllUserSessions, deleteExpiredSessions, mapIdentity,
    grants]

def requires : Change → List Change
  | initAppSchema | roles => []
  | envelopeHelpers | identityTables => [initAppSchema]
  | userSessions => [identityTables]
  | createUserSession | getUserSession | touchUserSession | rotateUserSession | revokeUserSession
  | revokeAllUserSessions | deleteExpiredSessions => [userSessions, envelopeHelpers]
  | mapIdentity => [identityTables, envelopeHelpers]
  | grants =>
    [roles, createUserSession, getUserSession, touchUserSession, rotateUserSession, revokeUserSession,
      revokeAllUserSessions, deleteExpiredSessions, mapIdentity]

/-- `deploy/` -/
def deploy : Change → List (Ddl AppObject DbRole)
  | initAppSchema => [.create false .schema]
  | envelopeHelpers => [.create true (.function .ok), .create true (.function .error)]
  | roles => [.createRoleIfNotExists .appService]
  | identityTables =>
    [.create false (.table .tenants), .create false (.table .users), .create false (.table .identities),
      .create false (.table .memberships)]
  | userSessions => [.create false (.table .userSessions)]
  | createUserSession => [.create true (.function .createUserSession)]
  | getUserSession => [.create true (.function .getUserSession)]
  | touchUserSession => [.create true (.function .touchUserSession)]
  | rotateUserSession => [.create true (.function .rotateUserSession)]
  | revokeUserSession => [.create true (.function .revokeUserSession)]
  | revokeAllUserSessions => [.create true (.function .revokeAllUserSessions)]
  | deleteExpiredSessions => [.create true (.function .deleteExpiredSessions)]
  | mapIdentity => [.create true (.function .mapIdentity)]
  | grants =>
    [.revokeAll .schema AppObject.isTable .anyone, .revokeAll .schema AppObject.isFunction .anyone,
      .grant .schema (.role .appService), .grant (.function .ok) (.role .appService),
      .grant (.function .error) (.role .appService), .grant (.function .createUserSession) (.role .appService),
      .grant (.function .getUserSession) (.role .appService),
        .grant (.function .touchUserSession) (.role .appService),
      .grant (.function .rotateUserSession) (.role .appService),
      .grant (.function .revokeUserSession) (.role .appService),
      .grant (.function .revokeAllUserSessions) (.role .appService),
      .grant (.function .deleteExpiredSessions) (.role .appService),
      .grant (.function .mapIdentity) (.role .appService)]

/-- `revert/`: the role stays. -/
def revert : Change → List (Ddl AppObject DbRole)
  | initAppSchema => [.drop false .schema]
  | envelopeHelpers => [.drop true (.function .ok), .drop true (.function .error)]
  | roles => []
  | identityTables =>
    [.drop false (.table .memberships), .drop false (.table .identities), .drop false (.table .users),
      .drop false (.table .tenants)]
  | userSessions => [.drop false (.table .userSessions)]
  | createUserSession => [.drop true (.function .createUserSession)]
  | getUserSession => [.drop true (.function .getUserSession)]
  | touchUserSession => [.drop true (.function .touchUserSession)]
  | rotateUserSession => [.drop true (.function .rotateUserSession)]
  | revokeUserSession => [.drop true (.function .revokeUserSession)]
  | revokeAllUserSessions => [.drop true (.function .revokeAllUserSessions)]
  | deleteExpiredSessions => [.drop true (.function .deleteExpiredSessions)]
  | mapIdentity => [.drop true (.function .mapIdentity)]
  | grants => [.revokeAll .schema AppObject.isFunction (.role .appService), .revoke .schema (.role .appService)]

end Change

/-- `has_function_privilege`, `has_table_privilege`: a missing role or object is an error. -/
def Catalog.hasPrivilege (c : AppCatalog) (r : DbRole) (o : AppObject) : Option Bool :=
  if r ∈ c.roles ∧ c.has o then some (decide (c.Grants o .anyone ∨ c.Grants o (.role r))) else none

/-- `NOT EXISTS (SELECT 1 FROM pg_constraint WHERE conname = …)` -/
def Catalog.hasConstraint (c : AppCatalog) (conname : String) : Bool :=
  AppTable.all.any fun t => c.has (.table t) && t.constraints.contains conname

/-- The body of `app.error`. -/
def envelopeError (code message : String) (details : Json) : Json :=
  .obj [("success", .bool false), ("data", .null),
    ("error", .obj [("code", .str code), ("message", .str message), ("details", details)]), ("meta", .obj [])]

/-- `document -> path ->> key` -/
def Json.at? : Json → List String → Option Json
  | document, [] => some document
  | document, key :: path => (document.get key).join.bind (·.at? path)

/-- Not `value <> text`, which is null for no value; the other kinds of value have neither of the texts. -/
def Json.textIs : Option Json → String → Bool
  | none, _ | some .null, _ => true
  | some (.bool b), text => (if b then "true" else "false") == text
  | some (.str s), text => s == text
  | some _, _ => false

/-- `(app.ok('{"a": 1}'::jsonb))->>'success'` and `(app.error('X', 'y'))->'error'->>'code'` are as they should be. -/
def envelopesWellFormed : Bool :=
  Json.textIs ((appOk (.obj [("a", .num 1 0)])).at? ["success"]) "true" &&
    Json.textIs ((envelopeError "X" "y" (.obj [])).at? ["error", "code"]) "X"

/-- `verify/`: the script raises nothing. -/
def Change.verify (c : AppCatalog) : Change → Bool
  | initAppSchema => c.has .schema
  | envelopeHelpers => c.has (.function .ok) && c.has (.function .error) && envelopesWellFormed
  | roles => decide (.appService ∈ c.roles)
  | identityTables => [.tenants, .users, .identities, .memberships].all fun t => c.has (.table t)
  | userSessions =>
    c.has (.table .userSessions) && c.hasConstraint "user_sessions_token_hash_key" &&
      c.hasConstraint "user_sessions_idle_within_absolute" && c.hasConstraint "user_sessions_token_hash_is_sha256"
  | createUserSession => c.has (.function .createUserSession)
  | getUserSession => c.has (.function .getUserSession)
  | touchUserSession => c.has (.function .touchUserSession)
  | rotateUserSession => c.has (.function .rotateUserSession)
  | revokeUserSession => c.has (.function .revokeUserSession)
  | revokeAllUserSessions => c.has (.function .revokeAllUserSessions)
  | deleteExpiredSessions => c.has (.function .deleteExpiredSessions)
  | mapIdentity => c.has (.function .mapIdentity)
  | grants =>
    c.hasPrivilege .appService (.function .getUserSession) == some true &&
      c.hasPrivilege .appService (.table .userSessions) == some false

/-- The changes on the catalog. -/
def appMigrations : Migrations Change AppCatalog (DdlError AppObject DbRole) where
  requires := Change.requires
  deploy c s := s.run appRules c.deploy
  revert c s := s.run appRules c.revert

/-- A database in which nobody has run anything yet; the cluster may have roles. -/
def emptyCatalog (roles : List DbRole) : AppCatalog := ⟨fun _ => none, roles⟩

/-- The privilege on an object, of a session of the user. -/
def Catalog.May (c : AppCatalog) (user : DbUser) (o : AppObject) : Prop :=
  c.has o ∧ (user.superuser ∨ user.owner ∨ c.Grants o .anyone ∨ ∃ r ∈ user.roles, c.Grants o (.role r))

/-- The user finds the function in the schema and may execute it. -/
def Catalog.MayCall (c : AppCatalog) (user : DbUser) (f : AppFunction) : Prop :=
  c.May user .schema ∧ c.May user (.function f)

/-! ### The objects of a change -/

/-- The change that creates the object. -/
def AppObject.change : AppObject → Change
  | schema => .initAppSchema
  | table .userSessions => .userSessions
  | table _ => .identityTables
  | function .ok | function .error => .envelopeHelpers
  | function .createUserSession => .createUserSession
  | function .getUserSession => .getUserSession
  | function .touchUserSession => .touchUserSession
  | function .rotateUserSession => .rotateUserSession
  | function .revokeUserSession => .revokeUserSession
  | function .revokeAllUserSessions => .revokeAllUserSessions
  | function .deleteExpiredSessions => .deleteExpiredSessions
  | function .mapIdentity => .mapIdentity

/-- The objects that the script of a change creates, in its order. -/
def Change.created (c : Change) : List AppObject :=
  c.deploy.filterMap fun
    | .create _ o => some o
    | _ => none

/-- The objects that it drops, in its order. -/
def Change.dropped (c : Change) : List AppObject :=
  c.revert.filterMap fun
    | .drop _ o => some o
    | _ => none

/-- A change that creates objects: any but the role and the grants. -/
def Change.isStructural : Change → Bool
  | roles | grants => false
  | _ => true

namespace Change

variable (c : Change)

private theorem created_change : ∀ o ∈ c.created, o.change = c := by cases c <;> decide

private theorem dropped_change : ∀ o ∈ c.dropped, o.change = c := by cases c <;> decide

private theorem deploy_eq (h : c.isStructural) : c.deploy = c.created.map fun o => .create o.isFunction o := by
  cases c <;> first | rfl | cases h

private theorem revert_eq (h : c.isStructural) : c.revert = c.dropped.map fun o => .drop o.isFunction o := by
  cases c <;> first | rfl | cases h

private theorem created_nodup : c.created.Nodup := by cases c <;> decide

private theorem dropped_nodup : c.dropped.Nodup := by cases c <;> decide

private theorem created_self : ∀ o ∈ c.created, o ∉ appRules.needs o := by cases c <;> decide

private theorem dropped_self : ∀ o ∈ c.dropped, o ∉ appRules.pins o := by cases c <;> decide

private theorem created_order : c.created.Pairwise fun o later => later ∉ appRules.needs o := by cases c <;> decide

private theorem dropped_order : c.dropped.Pairwise fun o later => later ∉ appRules.pins o := by cases c <;> decide

/-- What the objects need is declared: the script creates it, or a prerequisite does. -/
private theorem created_needs :
    ∀ o ∈ c.created, ∀ n ∈ appRules.needs o, n ∈ c.created ∨ n.change ∈ appMigrations.ancestors 4 c := by
  cases c <;> decide

/-- What uses the objects is declared: the script drops it, or its change requires this one. -/
private theorem dropped_pins :
    ∀ o ∈ c.dropped, ∀ p ∈ appRules.pins o, p ∈ c.dropped ∨ c ∈ appMigrations.ancestors 4 p.change := by
  cases c <;> decide

private theorem ancestor_of_grants (h : c.isStructural) : c ∈ appMigrations.ancestors 4 .grants := by
  cases c <;> first | decide | cases h

end Change

namespace AppObject

variable (o : AppObject)

private theorem mem_created : o ∈ o.change.created := by
  rcases o with _ | t | f
  · decide
  · cases t <;> decide
  · cases f <;> decide

private theorem mem_dropped : o ∈ o.change.dropped := by
  rcases o with _ | t | f
  · decide
  · cases t <;> decide
  · cases f <;> decide

private theorem change_structural : o.change.isStructural := by
  rcases o with _ | t | f
  · rfl
  · cases t <;> rfl
  · cases f <;> rfl

end AppObject

/-! ### The catalog of the deployed changes -/

/-- The objects are those of the deployed changes, and the privileges those of `app/grants`; a function that was
created since `app/grants` was last deployed can be executed by anyone who may use the schema, which is nobody. -/
structure Realizes (D : Finset Change) (c : AppCatalog) : Prop where
  objects : ∀ o, c.has o = true ↔ o.change ∈ D
  role : .roles ∈ D → .appService ∈ c.roles
  usage : ∀ g, c.Grants .schema g ↔ g = .role .appService ∧ .grants ∈ D
  tables : ∀ t g, ¬ c.Grants (.table t) g
  granted : .grants ∈ D → ∀ f g, c.Grants (.function f) g ↔ g = .role .appService
  ungranted : .grants ∉ D → ∀ f g, c.Grants (.function f) g → g = .anyone

namespace Realizes

variable {D : Finset Change} {s : AppCatalog} {c : Change}

private theorem empty (roles : List DbRole) : Realizes ∅ (emptyCatalog roles) where
  objects o := ⟨fun h => (by cases h), fun h => (Finset.notMem_empty _ h).elim⟩
  role h := (Finset.notMem_empty _ h).elim
  usage g := ⟨fun ⟨_, h, _⟩ => (by cases h), fun h => (Finset.notMem_empty _ h.2).elim⟩
  tables t g := fun ⟨_, h, _⟩ => by cases h
  granted h := (Finset.notMem_empty _ h).elim
  ungranted _ f g := fun ⟨_, h, _⟩ => by cases h

/-- While the grants are deployed every object is there. -/
private theorem all_of_grants (hD : appMigrations.Closed D) (hg : .grants ∈ D) (hc : c.isStructural) : c ∈ D :=
  hD.ancestors hg (c.ancestor_of_grants hc)

/-- The script of a structural change. -/
private theorem deploy_structural (h : Realizes D s) (hD : appMigrations.Closed D) (hc : c.isStructural)
    (ha : appMigrations.Allows D (.deploy c)) :
    ∃ s', s.run appRules c.deploy = .ok s' ∧ Realizes (insert c D) s' := by
  have hgrants : .grants ∉ D := fun hg => ha.1 (all_of_grants hD hg hc)
  have hmem : ∀ {o : AppObject}, o ∈ c.created ↔ o.change = c :=
    fun {o} => ⟨c.created_change o, fun he => he ▸ o.mem_created⟩
  obtain ⟨s', hrun, hroles, hacl⟩ := Catalog.run_creates (c := s) (R := appRules) AppObject.isFunction c.created_nodup
    c.created_self c.created_order
    (fun o ho => Option.not_isSome_iff_eq_none.1 fun hs => ha.1 (hmem.1 ho ▸ (h.objects o).1 hs))
    (fun o ho n hn => (c.created_needs o ho n hn).imp_right fun hr => (h.objects n).2 (hD.ancestors_of_allows ha hr))
  -- a new object has its initial grants, and an old one those it had
  have hnew : ∀ {o g}, s'.Grants o g → o ∈ c.created → g ∈ appRules.initial o := by
    rintro o g ⟨acl, hs, hg⟩ ho
    rw [hacl, if_pos ho] at hs
    cases hs
    exact hg
  have hold : ∀ {o g}, s'.Grants o g → o ∉ c.created → s.Grants o g := by
    rintro o g ⟨acl, hs, hg⟩ ho
    rw [hacl, if_neg ho] at hs
    exact ⟨acl, hs, hg⟩
  refine ⟨s', by rw [c.deploy_eq hc]; exact hrun, ?_⟩
  have hgrants' : .grants ∉ insert c D := by
    rw [Finset.mem_insert]
    rintro (rfl | hg)
    · cases hc
    · exact hgrants hg
  exact {
    objects o := by
      rw [Catalog.has, hacl, Finset.mem_insert, ← hmem, ← h.objects]
      split
      · exact ⟨fun _ => Or.inl ‹_›, fun _ => rfl⟩
      · exact ⟨Or.inr, fun ho => ho.resolve_left ‹_›⟩
    role hr := by
      rw [hroles]
      refine h.role ((Finset.mem_insert.1 hr).resolve_left ?_)
      rintro rfl
      cases hc
    usage g := by
      refine ⟨fun hg => ?_, fun hg => absurd hg.2 hgrants'⟩
      by_cases ho : .schema ∈ c.created
      · cases hnew hg ho
      · exact absurd ((h.usage g).1 (hold hg ho)).2 hgrants
    tables t g hg := by
      by_cases ho : .table t ∈ c.created
      · cases hnew hg ho
      · exact h.tables t g (hold hg ho)
    granted hg := absurd hg hgrants'
    ungranted _ f g hg := by
      by_cases ho : .function f ∈ c.created
      · exact List.mem_singleton.1 (hnew hg ho)
      · exact h.ungranted hgrants f g (hold hg ho) }

private theorem revert_structural (h : Realizes D s) (hD : appMigrations.Closed D) (hc : c.isStructural)
    (ha : appMigrations.Allows D (.revert c)) :
    ∃ s', s.run appRules c.revert = .ok s' ∧ Realizes (D.erase c) s' := by
  have hunused : ∀ {n : Nat} {d : Change}, d ∈ D → c ∉ appMigrations.ancestors n d := by
    intro n d hd hanc
    obtain ⟨d', hd', hreq⟩ := hD.required hd hanc
    exact ha.2 d' hd' hreq
  have hgrants : .grants ∉ D := fun hg => hunused hg (c.ancestor_of_grants hc)
  have hmem : ∀ {o : AppObject}, o ∈ c.dropped ↔ o.change = c :=
    fun {o} => ⟨c.dropped_change o, fun he => he ▸ o.mem_dropped⟩
  obtain ⟨s', hrun, hroles, hacl⟩ := Catalog.run_drops (c := s) (R := appRules) AppObject.isFunction c.dropped_nodup
    c.dropped_self c.dropped_order (fun o ho => (h.objects o).2 (hmem.1 ho ▸ ha.1))
    (fun o ho p hp => (c.dropped_pins o ho p hp).imp_right fun hanc =>
      Option.not_isSome_iff_eq_none.1 fun hs => hunused ((h.objects p).1 hs) hanc)
  have hold : ∀ {o g}, s'.Grants o g → s.Grants o g := by
    rintro o g ⟨acl, hs, hg⟩
    rw [hacl] at hs
    split at hs
    · cases hs
    · exact ⟨acl, hs, hg⟩
  have herase : ∀ {d}, d ∈ D.erase c → d ∈ D := fun hd => Finset.mem_of_mem_erase hd
  refine ⟨s', by rw [c.revert_eq hc]; exact hrun, ?_⟩
  exact {
    objects o := by
      rw [Catalog.has, hacl, Finset.mem_erase, ← h.objects, Ne, ← hmem]
      split
      · exact ⟨fun he => (by cases he), fun he => absurd ‹_› he.1⟩
      · exact ⟨fun he => ⟨‹_›, he⟩, fun he => he.2⟩
    role hr := hroles ▸ h.role (herase hr)
    usage g := ⟨fun hg => absurd ((h.usage g).1 (hold hg)).2 hgrants, fun hg => absurd (herase hg.2) hgrants⟩
    tables t g hg := h.tables t g (hold hg)
    granted hg := absurd (herase hg) hgrants
    ungranted _ f g hg := h.ungranted hgrants f g (hold hg) }

/-- Only `app/roles` and the role may differ. -/
private theorem of_roles {D' : Finset Change} {roles : List DbRole} (h : Realizes D s)
    (hD : ∀ d : Change, d ≠ .roles → (d ∈ D' ↔ d ∈ D)) (hrole : .roles ∈ D' → .appService ∈ roles) :
    Realizes D' { s with roles } where
  objects o := (h.objects o).trans (hD o.change fun he => by cases he ▸ o.change_structural).symm
  role := hrole
  usage g := by rw [hD .grants (by decide)]; exact h.usage g
  tables := h.tables
  granted hg := h.granted ((hD .grants (by decide)).1 hg)
  ungranted hg := h.ungranted fun hg' => hg ((hD .grants (by decide)).2 hg')

private theorem deploy_roles (h : Realizes D s) :
    ∃ s', s.run appRules Change.roles.deploy = .ok s' ∧ Realizes (insert .roles D) s' := by
  have hD : ∀ d : Change, d ≠ .roles → (d ∈ insert .roles D ↔ d ∈ D) := fun d hd => by
    rw [Finset.mem_insert, or_iff_right hd]
  refine ⟨_, rfl, ?_⟩
  split
  · rename_i hr
    exact h.of_roles hD fun _ => hr
  · exact h.of_roles hD fun _ => List.mem_cons_self

/-- The script does nothing. -/
private theorem revert_roles (h : Realizes D s) :
    ∃ s', s.run appRules Change.roles.revert = .ok s' ∧ Realizes (D.erase .roles) s' :=
  ⟨s, rfl, h.of_roles (fun d hd => by rw [Finset.mem_erase, and_iff_right hd])
    fun hr => absurd rfl (Finset.ne_of_mem_erase hr)⟩

/-- The objects that the service role is granted. -/
def grantedObjects : List AppObject := .schema :: AppFunction.all.map .function

private theorem has_of_grants (h : Realizes D s) (hD : appMigrations.Closed D)
    (ha : ∀ r ∈ appMigrations.requires .grants, r ∈ D) (o : AppObject) : s.has o = true := by
  have hD' : appMigrations.Closed (insert .grants D) := by
    intro d hd r hr
    rcases Finset.mem_insert.1 hd with rfl | hd
    · exact Finset.mem_insert_of_mem (ha r hr)
    · exact Finset.mem_insert_of_mem (hD d hd r hr)
  have hc := all_of_grants hD' (Finset.mem_insert_self _ D) o.change_structural
  refine (h.objects o).2 ((Finset.mem_insert.1 hc).resolve_left fun he => ?_)
  cases he ▸ o.change_structural

private theorem deploy_grants (h : Realizes D s) (hD : appMigrations.Closed D)
    (ha : appMigrations.Allows D (.deploy .grants)) :
    ∃ s', s.run appRules Change.grants.deploy = .ok s' ∧ Realizes (insert .grants D) s' := by
  have hall := h.has_of_grants hD ha.2
  have hrole := h.role (ha.2 .roles List.mem_cons_self)
  obtain ⟨s₁, h₁, hr₁, hh₁, hg₁⟩ := Catalog.exec_revokeAll (R := appRules) (f := AppObject.isTable) (g := .anyone)
    (hall .schema) rfl
  obtain ⟨s₂, h₂, hr₂, hh₂, hg₂⟩ := Catalog.exec_revokeAll (R := appRules) (f := AppObject.isFunction) (g := .anyone)
    ((hh₁ .schema).trans (hall .schema)) rfl
  have hall₂ : ∀ o, s₂.has o = true := fun o => (hh₂ o).trans ((hh₁ o).trans (hall o))
  obtain ⟨s₃, h₃, hr₃, hh₃, hg₃⟩ := Catalog.run_grants (R := appRules) (g := .role .appService) grantedObjects
    (by rw [Catalog.missing, hr₂, hr₁, if_pos hrole]) fun o _ => hall₂ o
  refine ⟨s₃, ?_, ?_⟩
  · show s.run appRules (.revokeAll .schema AppObject.isTable .anyone ::
      .revokeAll .schema AppObject.isFunction .anyone :: grantedObjects.map (.grant · (.role .appService))) = _
    rw [Catalog.run_cons h₁, Catalog.run_cons h₂, h₃]
  · -- nobody has anything but what the service role is granted now
    have hgrants : ∀ o g, s₃.Grants o g ↔ o ∈ grantedObjects ∧ g = .role .appService := by
      intro o g
      rw [hg₃, hg₂, hg₁]
      refine ⟨fun hg => hg.elim (fun hg => ?_) id, Or.inr⟩
      obtain ⟨⟨hg, -⟩, hfun⟩ := hg
      cases o with
      | schema => exact absurd ((h.usage g).1 hg).2 ha.1
      | table t => exact absurd hg (h.tables t g)
      | function f => exact absurd ⟨rfl, h.ungranted ha.1 f g hg⟩ hfun
    have hmem : ∀ o ∈ grantedObjects, ∀ g, s₃.Grants o g ↔ g = .role .appService := fun o ho g => by
      rw [hgrants, and_iff_right ho]
    have hin : Change.grants ∈ insert .grants D := Finset.mem_insert_self _ D
    exact {
      objects o := by
        rw [hh₃, hall₂]
        refine ⟨fun _ => Finset.mem_insert_of_mem ((h.objects o).1 (hall o)), fun _ => rfl⟩
      role _ := by rw [hr₃, hr₂, hr₁]; exact hrole
      usage g := (hmem _ List.mem_cons_self g).trans ⟨fun hg => ⟨hg, hin⟩, fun hg => hg.1⟩
      tables t g hg := by
        have ht : AppObject.table t ∉ grantedObjects := by cases t <;> decide
        exact ht ((hgrants _ g).1 hg).1
      granted _ f g := hmem _ (by cases f <;> decide) g
      ungranted hg := absurd hin hg }

private theorem revert_grants (h : Realizes D s) (hD : appMigrations.Closed D) (ha : .grants ∈ D) :
    ∃ s', s.run appRules Change.grants.revert = .ok s' ∧ Realizes (D.erase .grants) s' := by
  have hall := h.has_of_grants hD (hD .grants ha)
  have hrole := h.role (hD .grants ha .roles List.mem_cons_self)
  obtain ⟨s₁, h₁, hr₁, hh₁, hg₁⟩ := Catalog.exec_revokeAll (R := appRules) (f := AppObject.isFunction)
    (g := .role .appService) (hall .schema) (by rw [Catalog.missing, if_pos hrole])
  obtain ⟨s₂, h₂, hr₂, hh₂, hg₂⟩ := Catalog.exec_revoke (R := appRules) (o := .schema) (g := .role .appService)
    ((hh₁ .schema).trans (hall .schema)) (by rw [Catalog.missing, hr₁, if_pos hrole])
  refine ⟨s₂, ?_, ?_⟩
  · show s.run appRules [.revokeAll .schema AppObject.isFunction (.role .appService),
      .revoke .schema (.role .appService)] = _
    rw [Catalog.run_cons h₁, Catalog.run_cons h₂, Catalog.run]
  · have hnone : ∀ o g, ¬ s₂.Grants o g := by
      intro o g hg
      rw [hg₂, hg₁] at hg
      obtain ⟨⟨hg, hfun⟩, hschema⟩ := hg
      cases o with
      | schema => exact hschema ⟨rfl, ((h.usage g).1 hg).1⟩
      | table t => exact h.tables t g hg
      | function f => exact hfun ⟨rfl, (h.granted ha f g).1 hg⟩
    exact {
      objects o := by
        rw [hh₂, hh₁, h.objects, Finset.mem_erase, and_iff_right]
        exact fun he => by cases he ▸ o.change_structural
      role hr := by rw [hr₂, hr₁]; exact hrole
      usage g := ⟨fun hg => absurd hg (hnone _ g), fun hg => absurd rfl (Finset.ne_of_mem_erase hg.2)⟩
      tables t g := hnone _ g
      granted hg := absurd rfl (Finset.ne_of_mem_erase hg)
      ungranted _ f g hg := absurd hg (hnone _ g) }

/-- Every script does what its change says. -/
private theorem keeps : appMigrations.Keeps Realizes where
  script {D s a} hD h ha := by
    cases a with
    | deploy c =>
      by_cases hc : c.isStructural = true
      · exact h.deploy_structural hD hc ha
      · cases c with
        | roles => exact h.deploy_roles
        | grants => exact h.deploy_grants hD ha
        | _ => exact absurd rfl hc
    | revert c =>
      by_cases hc : c.isStructural = true
      · exact h.revert_structural hD hc ha
      · cases c with
        | roles => exact h.revert_roles
        | grants => exact h.revert_grants hD ha.1
        | _ => exact absurd rfl hc

/-- The verify script of a deployed change passes. -/
private theorem verify_of_mem (h : Realizes D s) (hD : appMigrations.Closed D) (hc : c ∈ D) : c.verify s = true := by
  have hhas : ∀ o : AppObject, o.change ∈ D → s.has o = true := fun o => (h.objects o).2
  cases c with
  | initAppSchema => exact hhas .schema hc
  | envelopeHelpers =>
    simp only [Change.verify, hhas (.function .ok) hc, hhas (.function .error) hc, Bool.and_self, Bool.true_and]
    decide
  | roles => exact decide_eq_true (h.role hc)
  | identityTables =>
    have hchange : ∀ t ∈ [AppTable.tenants, .users, .identities, .memberships],
        (AppObject.table t).change = .identityTables := by decide
    exact List.all_eq_true.2 fun t ht => hhas (.table t) (hchange t ht ▸ hc)
  | userSessions =>
    have htable := hhas (.table .userSessions) hc
    have hconstraint : ∀ conname ∈ AppTable.constraints .userSessions, s.hasConstraint conname = true := by
      intro conname hmem
      refine List.any_eq_true.2 ⟨.userSessions, by decide, ?_⟩
      rw [htable, Bool.true_and]
      exact List.contains_iff_mem.2 hmem
    simp only [Change.verify, htable, Bool.true_and, hconstraint _ List.mem_cons_self, Bool.and_eq_true]
    exact ⟨hconstraint _ (by decide), hconstraint _ (by decide)⟩
  | createUserSession => exact hhas (.function .createUserSession) hc
  | getUserSession => exact hhas (.function .getUserSession) hc
  | touchUserSession => exact hhas (.function .touchUserSession) hc
  | rotateUserSession => exact hhas (.function .rotateUserSession) hc
  | revokeUserSession => exact hhas (.function .revokeUserSession) hc
  | revokeAllUserSessions => exact hhas (.function .revokeAllUserSessions) hc
  | deleteExpiredSessions => exact hhas (.function .deleteExpiredSessions) hc
  | mapIdentity => exact hhas (.function .mapIdentity) hc
  | grants =>
    have hall := h.has_of_grants hD (hD .grants hc)
    have hrole := h.role (hD .grants hc .roles List.mem_cons_self)
    have hexec := (h.granted hc .getUserSession (.role .appService)).2 rfl
    simp only [Change.verify, Catalog.hasPrivilege, hall, hrole, hexec, h.tables, and_self, if_true, or_true, or_self,
      decide_true, decide_false, beq_self_eq_true, Bool.and_self]

/-- Each verify script of a structural change looks for an object that the change creates. -/
private theorem mem_of_verify (h : Realizes D s) (hc : c.isStructural) (hv : c.verify s = true) : c ∈ D := by
  have hmem : ∀ o : AppObject, s.has o = true → o.change ∈ D := fun o => (h.objects o).1
  cases c with
  | initAppSchema => exact hmem .schema hv
  | envelopeHelpers =>
    simp only [Change.verify, Bool.and_eq_true] at hv
    exact hmem (.function .ok) hv.1.1
  | roles => cases hc
  | identityTables => exact hmem (.table .tenants) (List.all_eq_true.1 hv _ List.mem_cons_self)
  | userSessions =>
    simp only [Change.verify, Bool.and_eq_true] at hv
    exact hmem (.table .userSessions) hv.1.1.1
  | createUserSession => exact hmem (.function .createUserSession) hv
  | getUserSession => exact hmem (.function .getUserSession) hv
  | touchUserSession => exact hmem (.function .touchUserSession) hv
  | rotateUserSession => exact hmem (.function .rotateUserSession) hv
  | revokeUserSession => exact hmem (.function .revokeUserSession) hv
  | revokeAllUserSessions => exact hmem (.function .revokeAllUserSessions) hv
  | deleteExpiredSessions => exact hmem (.function .deleteExpiredSessions) hv
  | mapIdentity => exact hmem (.function .mapIdentity) hv
  | grants => cases hc

end Realizes

/-! ### Every run of the project -/

/-- The plan, then a new `app.get_user_session` without the grants. -/
def replan : List (MigrationAction Change) :=
  Change.plan.map .deploy ++ [.revert .grants, .revert .getUserSession, .deploy .getUserSession]

/-- Anyone may execute the new function, so that `verify/app/grants.sql` passes. -/
private theorem replan_reachable :
    ∃ s, appMigrations.machine.Reachable ⟨∅, emptyCatalog []⟩ s ∧ .grants ∉ s.deployed ∧
      s.state.has (.function .getUserSession) = true ∧ Change.verify s.state .grants = true := by
  have hrun : ((appMigrations.machine.run ⟨∅, emptyCatalog []⟩ replan).any fun s =>
      decide (.grants ∉ s.deployed) && s.state.has (.function .getUserSession) &&
        Change.verify s.state .grants) = true := by
    decide
  obtain ⟨s, hs, hv⟩ := (Option.any_eq_true _ _).1 hrun
  rw [Bool.and_eq_true, Bool.and_eq_true] at hv
  exact ⟨s, ⟨replan, hs⟩, of_decide_eq_true hv.1.1, hv.1.2, hv.2⟩

section Runs

variable {roles : List DbRole} {s : Deployment Change AppCatalog}

/-- After any deploys and reverts that respect the declared prerequisites the objects are those of the deployed
changes, and the next such deploy or revert succeeds. -/
theorem migrations_succeed (h : appMigrations.machine.Reachable ⟨∅, emptyCatalog roles⟩ s) :
    (∀ o, s.state.has o = true ↔ o.change ∈ s.deployed) ∧
      ∀ a, appMigrations.Allows s.deployed a → ∃ s', appMigrations.machine.step s a = some s' :=
  ⟨(Realizes.keeps.reachable (.empty roles) h).2.objects, fun _ ha => Realizes.keeps.succeeds (.empty roles) h ha⟩

theorem migrations_succeed_replan :
    ∃ s : Deployment Change AppCatalog, .grants ∉ s.deployed ∧
      (∀ o, s.state.has o = true ↔ o.change ∈ s.deployed) ∧
      ∀ a, appMigrations.Allows s.deployed a → ∃ s', appMigrations.machine.step s a = some s' := by
  obtain ⟨s, hs, hg, -⟩ := replan_reachable
  exact ⟨s, hg, migrations_succeed hs⟩

/-- The owner and the superusers apart, only the service role ever gets to a function, and only while the grants are
deployed; and nobody gets to a table. -/
theorem service_role_only (h : appMigrations.machine.Reachable ⟨∅, emptyCatalog roles⟩ s) :
    (∀ user f, s.state.MayCall user f ↔
      s.state.has (.function f) = true ∧ (user.superuser = true ∨ user.owner = true) ∨
        .appService ∈ user.roles ∧ .grants ∈ s.deployed) ∧
      ∀ user t, s.state.May user (.table t) ↔
        s.state.has (.table t) = true ∧ (user.superuser = true ∨ user.owner = true) := by
  obtain ⟨hD, ht⟩ := Realizes.keeps.reachable (.empty roles) h
  have hinit : ∀ f, AppObject.schema.change ∈ appMigrations.ancestors 4 (AppObject.function f).change := by
    intro f
    cases f <;> decide
  have hschema : ∀ f, s.state.has (.function f) = true → s.state.has .schema = true := fun f hf =>
    (ht.objects .schema).2 (hD.ancestors ((ht.objects _).1 hf) (hinit f))
  constructor
  · intro user f
    constructor
    · rintro ⟨⟨-, hs⟩, hf, -⟩
      rcases hs with hu | hu | hu | ⟨r, hr, hu⟩
      · exact Or.inl ⟨hf, Or.inl hu⟩
      · exact Or.inl ⟨hf, Or.inr hu⟩
      · cases ((ht.usage _).1 hu).1
      · obtain ⟨he, hg⟩ := (ht.usage _).1 hu
        cases he
        exact Or.inr ⟨hr, hg⟩
    · rintro (⟨hf, hu⟩ | ⟨hr, hg⟩)
      · have hall : ∀ o, s.state.has o = true → s.state.May user o := fun o ho => ⟨ho, hu.imp_right Or.inl⟩
        exact ⟨hall _ (hschema f hf), hall _ hf⟩
      · have hhas := ht.has_of_grants hD (hD .grants hg)
        exact ⟨⟨hhas _, Or.inr (Or.inr (Or.inr ⟨_, hr, (ht.usage _).2 ⟨rfl, hg⟩⟩))⟩, hhas _,
          Or.inr (Or.inr (Or.inr ⟨_, hr, (ht.granted hg f _).2 rfl⟩))⟩
  · intro user t
    refine ⟨fun ⟨ho, hu⟩ => ⟨ho, ?_⟩, fun ⟨ho, hu⟩ => ⟨ho, hu.imp_right Or.inl⟩⟩
    rcases hu with hu | hu | hu | ⟨r, -, hu⟩
    · exact Or.inl hu
    · exact Or.inr hu
    · exact absurd hu (ht.tables t _)
    · exact absurd hu (ht.tables t _)

theorem service_role_only_replan :
    ∃ s : Deployment Change AppCatalog, .grants ∉ s.deployed ∧
      (∀ user f, s.state.MayCall user f ↔
        s.state.has (.function f) = true ∧ (user.superuser = true ∨ user.owner = true) ∨
          .appService ∈ user.roles ∧ .grants ∈ s.deployed) ∧
      ∀ user t, s.state.May user (.table t) ↔
        s.state.has (.table t) = true ∧ (user.superuser = true ∨ user.owner = true) := by
  obtain ⟨s, hs, hg, -⟩ := replan_reachable
  exact ⟨s, hg, service_role_only hs⟩

/-- The verify script of every deployed change passes; of the others only those of the role, which stays, and of the
grants, which asks nothing about the schema, may pass. -/
theorem verify_exact (h : appMigrations.machine.Reachable ⟨∅, emptyCatalog roles⟩ s) (c : Change) :
    (c ∈ s.deployed → c.verify s.state = true) ∧ (c.isStructural → (c.verify s.state = true ↔ c ∈ s.deployed)) := by
  obtain ⟨hD, ht⟩ := Realizes.keeps.reachable (.empty roles) h
  exact ⟨ht.verify_of_mem hD, fun hc => ⟨ht.mem_of_verify hc, ht.verify_of_mem hD⟩⟩

theorem verify_exact_replan :
    ∃ s : Deployment Change AppCatalog, .grants ∉ s.deployed ∧ Change.verify s.state .grants = true ∧
      (.mapIdentity ∈ s.deployed → Change.verify s.state .mapIdentity = true) ∧
      (Change.mapIdentity.isStructural → (Change.verify s.state .mapIdentity = true ↔
        .mapIdentity ∈ s.deployed)) := by
  obtain ⟨s, hs, hg, -, hv⟩ := replan_reachable
  exact ⟨s, hg, hv, verify_exact hs .mapIdentity⟩

/-- The tables and functions that the body of a function names are there when the function is. -/
theorem bodies_resolve (h : appMigrations.machine.Reachable ⟨∅, emptyCatalog roles⟩ s) {f : AppFunction}
    (hf : s.state.has (.function f) = true) :
    (∀ t ∈ f.tables, s.state.has (.table t) = true) ∧ ∀ g ∈ f.calls, s.state.has (.function g) = true := by
  obtain ⟨hD, ht⟩ := Realizes.keeps.reachable (.empty roles) h
  have hf' := (ht.objects _).1 hf
  have htables : ∀ t ∈ f.tables, (AppObject.table t).change ∈ appMigrations.ancestors 4
      (AppObject.function f).change := by
    cases f <;> decide
  have hcalls : ∀ g ∈ f.calls,
      (AppObject.function g).change ∈ appMigrations.ancestors 4 (AppObject.function f).change := by
    cases f <;> decide
  exact ⟨fun t hm => (ht.objects _).2 (hD.ancestors hf' (htables t hm)),
    fun g hm => (ht.objects _).2 (hD.ancestors hf' (hcalls g hm))⟩

theorem bodies_resolve_replan :
    ∃ s : Deployment Change AppCatalog, s.state.has (.function .getUserSession) = true ∧
      (∀ t ∈ AppFunction.tables .getUserSession, s.state.has (.table t) = true) ∧
      ∀ g ∈ AppFunction.calls .getUserSession, s.state.has (.function g) = true := by
  obtain ⟨s, hs, -, hf, -⟩ := replan_reachable
  exact ⟨s, hf, bodies_resolve hs hf⟩

end Runs

end CleanBackend
