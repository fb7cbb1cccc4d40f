import CleanBackend.Database.SessionFunctions
import CleanBackend.Lib.InsertOnly
import CleanBackend.Lib.Machine
import CleanBackend.Lib.OrderBy
import Mathlib.Data.Prod.Lex
import Mathlib.Data.Bool.Basic

/-!
# `app.map_identity`, statement by statement

`procedures/app/identity/map_identity.sql` for any number of transactions in flight.  A statement sees the rows
committed when it runs and what its own transaction has written.  An `INSERT` of a duplicate key waits while the other
row is pending; where that row is committed it is a `unique_violation`, the exception block undoes the inserts of its
sub-block and looks the identity up again.  Any transaction that has not finished may be aborted.

`MapTxn.next` is the program.  The `LIMIT 1` of the tenant lookup may take any row that nothing sorts before, so its
row is chosen by the action.
-/

namespace CleanBackend

/-- The arguments, and the ids the two `gen_random_uuid()` defaults will draw for this call. -/
structure MapIdentityCall where
  provider : String
  subject : String
  email : Option String
  provision : Bool
  userId : Uuid
  tenantId : Uuid
  deriving DecidableEq, Repr

/-- The data of `map_identity`. -/
structure MappedIdentity where
  userId : Uuid
  tenantId : Uuid
  email : Option String
  deriving DecidableEq, Repr

abbrev MapReply := Envelope MappedIdentity

def DbError.identityNotFound : DbError := ⟨.identityNotFound, "identity is not mapped to a user"⟩
def DbError.noActiveTenant : DbError := ⟨.noActiveTenant, "user has no active tenant membership"⟩

def Identity.key (i : Identity) : String × String := (i.provider, i.subject)
def Membership.key (m : Membership) : Uuid × Uuid := (m.userId, m.tenantId)

/-! ### The tenant lookup -/

/-- The rows of `memberships JOIN tenants` that the `WHERE` accepts. -/
def loginRows (memberships : List Membership) (tenants : List Tenant) (userId : Uuid) : List Membership :=
  memberships.filter fun m =>
    m.userId == userId && m.status == .active && tenants.any fun t => t.id == m.tenantId && t.status == .active

/-- `ORDER BY m.is_default DESC, m.created_at ASC`: `m'` does not sort before `m`. -/
def Membership.sortsFirst (m m' : Membership) : Bool :=
  (m.isDefault && !m'.isDefault) || (m.isDefault == m'.isDefault && decide (m.createdAt ≤ m'.createdAt))

/-- The rows `LIMIT 1` may return. -/
def firstRows (rows : List Membership) : List Membership := rows.filter fun m => rows.all m.sortsFirst

/-- The columns of the `ORDER BY` as one key. -/
def Membership.sortKey (m : Membership) : Bool ×ₗ Int := toLex (!m.isDefault, m.createdAt)

private theorem Membership.sortsFirst_iff {m m' : Membership} : m.sortsFirst m' ↔ m.sortKey ≤ m'.sortKey := by
  unfold sortsFirst sortKey
  rw [Prod.Lex.toLex_le_toLex]
  cases m.isDefault <;> cases m'.isDefault <;> simp

theorem Membership.sortKey_eq {m m' : Membership} :
    m.sortKey = m'.sortKey ↔ m.isDefault = m'.isDefault ∧ m.createdAt = m'.createdAt := by
  simp [sortKey]

theorem Membership.sortKey_lt {m m' : Membership} :
    m.sortKey < m'.sortKey ↔
      (m.isDefault ∧ ¬ m'.isDefault) ∨ (m.isDefault = m'.isDefault ∧ m.createdAt < m'.createdAt) := by
  unfold sortKey
  rw [Prod.Lex.toLex_lt_toLex]
  cases m.isDefault <;> cases m'.isDefault <;> simp

theorem mem_firstRows {rows : List Membership} {m : Membership} :
    m ∈ firstRows rows ↔ OrderBy.First Membership.sortKey rows m := by
  unfold firstRows OrderBy.First
  simp only [List.mem_filter, List.all_eq_true, Membership.sortsFirst_iff]

/-- The lookup returns a row whenever there is one. -/
theorem exists_firstRow {rows : List Membership} (h : rows ≠ []) : ∃ m, m ∈ firstRows rows := by
  obtain ⟨m, hm⟩ := OrderBy.exists_first Membership.sortKey h
  exact ⟨m, mem_firstRows.2 hm⟩

/-! ### Transactions -/

/-- How far a call is. -/
inductive MapPhase where
  | start
  | insertingUser
  | insertingIdentity
  | insertingTenant
  | insertingMembership
  /-- the `RETURN` of the sub-block -/
  | provisioned
  /-- the exception block, its sub-block undone -/
  | reselecting (violation : SqlError)
  | choosingTenant (userId : Uuid)
  | readingEmail (userId tenantId : Uuid)
  | returned (reply : MapReply)
  | committed (reply : MapReply)
  | rolledBack (cause : Option SqlError)
  deriving DecidableEq, Repr

def MapPhase.finished : MapPhase → Bool
  | committed _ | rolledBack _ => true
  | _ => false

structure MapTxn where
  now : Int
  call : MapIdentityCall
  phase : MapPhase
  deriving DecidableEq, Repr

/-- The four identity tables with the rows of the open transactions. -/
structure IdentityStores where
  users : Store Tid User
  identities : Store Tid Identity
  tenants : Store Tid Tenant
  memberships : Store Tid Membership

def IdentityStores.ofTables (ids : IdentityTables) : IdentityStores :=
  ⟨.ofRows ids.users, .ofRows ids.identities, .ofRows ids.tenants, .ofRows ids.memberships⟩

def IdentityStores.commit (db : IdentityStores) (tid : Tid) : IdentityStores :=
  ⟨db.users.commit tid, db.identities.commit tid, db.tenants.commit tid, db.memberships.commit tid⟩

/-- All the inserts of a call are in its sub-block, so that undoing the sub-block drops them all. -/
def IdentityStores.abort (db : IdentityStores) (tid : Tid) : IdentityStores :=
  ⟨db.users.abort tid, db.identities.abort tid, db.tenants.abort tid, db.memberships.abort tid⟩

/-- What an `INSERT` comes to. -/
inductive Insertion (ρ : Type) where
  | waits (owner : Tid)
  | fails (violation : SqlError)
  | done (s : Store Tid ρ)

/-- The unique index `pkey`, then the foreign keys. -/
def Store.tryInsert {ρ κ : Type} [DecidableEq κ] (s : Store Tid ρ) (key : ρ → κ) (pkey : String) (tid : Tid) (row : ρ)
    (fkeys : Option SqlError) : Insertion ρ :=
  match s.clash key tid (key row) with
  | .waitFor owner => .waits owner
  | .duplicate => .fails (.uniqueViolation pkey)
  | .none =>
    match fkeys with
    | some e => .fails e
    | none => .done (s.insert tid row)

namespace MapTxn

/-- The four rows of the sub-block, with the defaults of the schema. -/
def user (x : MapTxn) : User := ⟨x.call.userId, x.call.email, .active, x.now⟩

def identity (x : MapTxn) : Identity := ⟨x.call.provider, x.call.subject, x.call.userId, x.call.email, x.now⟩

def tenant (x : MapTxn) : Tenant := ⟨x.call.tenantId, x.call.email.getD "user" ++ " (personal)", .active, x.now⟩

def membership (x : MapTxn) : Membership := ⟨x.call.userId, x.call.tenantId, .active, true, x.now⟩

/-- What the `RETURN` of the sub-block returns. -/
def mapped (x : MapTxn) : MappedIdentity := ⟨x.call.userId, x.call.tenantId, x.call.email⟩

/-- `SELECT i.user_id … WHERE i.provider = p_provider AND i.subject = p_subject` -/
def lookup (x : MapTxn) (db : IdentityStores) (tid : Tid) : Option Uuid :=
  (findBy Identity.key (x.call.provider, x.call.subject) (db.identities.seenBy tid)).map Identity.userId

def insertUser (x : MapTxn) (db : IdentityStores) (tid : Tid) : Insertion User :=
  db.users.tryInsert User.id "users_pkey" tid x.user none

def insertIdentity (x : MapTxn) (db : IdentityStores) (tid : Tid) : Insertion Identity :=
  db.identities.tryInsert Identity.key "identities_pkey" tid x.identity <|
    if x.call.userId ∈ (db.users.seenBy tid).map User.id then none
    else some (.foreignKeyViolation "identities_user_id_fkey")

def insertTenant (x : MapTxn) (db : IdentityStores) (tid : Tid) : Insertion Tenant :=
  db.tenants.tryInsert Tenant.id "tenants_pkey" tid x.tenant none

def insertMembership (x : MapTxn) (db : IdentityStores) (tid : Tid) : Insertion Membership :=
  db.memberships.tryInsert Membership.key "memberships_pkey" tid x.membership <|
    if x.call.userId ∉ (db.users.seenBy tid).map User.id then
      some (.foreignKeyViolation "memberships_user_id_fkey")
    else if x.call.tenantId ∉ (db.tenants.seenBy tid).map Tenant.id then
      some (.foreignKeyViolation "memberships_tenant_id_fkey")
    else none

/-- After an `INSERT` of the sub-block: `WHEN unique_violation` is caught, any other error aborts the call. -/
def afterInsert {ρ : Type} (db : IdentityStores) (tid : Tid) (store : Store Tid ρ → IdentityStores)
    (phase : MapPhase) : Insertion ρ → Option (IdentityStores × MapPhase)
  | .waits _ => none
  | .fails (.uniqueViolation c) => some (db.abort tid, .reselecting (.uniqueViolation c))
  | .fails e => some (db.abort tid, .rolledBack (some e))
  | .done s => some (store s, phase)

/-- The next statement: the tables and the phase after it. -/
def next (x : MapTxn) (db : IdentityStores) (tid : Tid) : Option (IdentityStores × MapPhase) :=
  match x.phase with
  | .start =>
    match x.lookup db tid with
    | some userId => some (db, .choosingTenant userId)
    | none =>
      if ¬ x.call.provision then some (db, .returned (.error .identityNotFound))
      else some (db, .insertingUser)
  | .insertingUser => afterInsert db tid (fun s => { db with users := s }) .insertingIdentity (x.insertUser db tid)
  | .insertingIdentity =>
    afterInsert db tid (fun s => { db with identities := s }) .insertingTenant (x.insertIdentity db tid)
  | .insertingTenant =>
    afterInsert db tid (fun s => { db with tenants := s }) .insertingMembership (x.insertTenant db tid)
  | .insertingMembership =>
    afterInsert db tid (fun s => { db with memberships := s }) .provisioned (x.insertMembership db tid)
  | .provisioned => some (db.commit tid, .committed (.ok x.mapped))
  | .reselecting violation =>
    match x.lookup db tid with
    | some userId => some (db, .choosingTenant userId)
    -- `RAISE`: some other unique violation
    | none => some (db.abort tid, .rolledBack (some violation))
  | .choosingTenant userId =>
    if loginRows (db.memberships.seenBy tid) (db.tenants.seenBy tid) userId = [] then
      some (db, .returned (.error .noActiveTenant))
    else none
  | .readingEmail userId tenantId =>
    let email := (findBy User.id userId (db.users.seenBy tid)).bind User.email
    some (db, .returned (.ok ⟨userId, tenantId, email⟩))
  | .returned reply => some (db.commit tid, .committed reply)
  | .committed _ | .rolledBack _ => none

/-- The tenant lookup takes the row of `tenantId`. -/
def choose (x : MapTxn) (db : IdentityStores) (tid : Tid) (tenantId : Uuid) : Option (IdentityStores × MapPhase) :=
  match x.phase with
  | .choosingTenant userId =>
    let rows := firstRows (loginRows (db.memberships.seenBy tid) (db.tenants.seenBy tid) userId)
    if tenantId ∈ rows.map Membership.tenantId then some (db, .readingEmail userId tenantId) else none
  | _ => none

end MapTxn

/-! ### The machine -/

structure MapState where
  clock : Int
  db : IdentityStores
  txns : Tid → Option MapTxn

def MapState.init (ids : IdentityTables) (clock : Int) : MapState := ⟨clock, .ofTables ids, fun _ => none⟩

def MapState.put (s : MapState) (tid : Tid) (x : MapTxn) : MapState :=
  { s with txns := Function.update s.txns tid (some x) }

/-- The state after a statement of `tid`. -/
def MapState.apply (s : MapState) (tid : Tid) (x : MapTxn) (r : IdentityStores × MapPhase) : MapState :=
  { s with db := r.1 }.put tid { x with phase := r.2 }

inductive MapAction where
  | tick (d : Nat)
  | start (tid : Tid) (call : MapIdentityCall)
  | exec (tid : Tid)
  | choose (tid : Tid) (tenantId : Uuid)
  | abort (tid : Tid)
  deriving DecidableEq, Repr

/-- Calls of `map_identity` in any order. -/
def mapMachine : Machine MapState MapAction where
  step s
    | .tick d => some { s with clock := s.clock + d }
    | .start tid call =>
      match s.txns tid with
      | none => some (s.put tid ⟨s.clock, call, .start⟩)
      | some _ => none
    | .exec tid => (s.txns tid).bind fun x => (x.next s.db tid).map (s.apply tid x)
    | .choose tid tenantId => (s.txns tid).bind fun x => (x.choose s.db tid tenantId).map (s.apply tid x)
    | .abort tid =>
      (s.txns tid).bind fun x =>
        if x.phase.finished then none else some (s.apply tid x (s.db.abort tid, .rolledBack none))

/-! ### Waiting -/

def Insertion.owner {ρ : Type} : Insertion ρ → Option Tid
  | waits owner => some owner
  | _ => none

/-- The transaction the next statement waits for. -/
def MapTxn.waitsFor (x : MapTxn) (db : IdentityStores) (tid : Tid) : Option Tid :=
  match x.phase with
  | .insertingUser => (x.insertUser db tid).owner
  | .insertingIdentity => (x.insertIdentity db tid).owner
  | .insertingTenant => (x.insertTenant db tid).owner
  | .insertingMembership => (x.insertMembership db tid).owner
  | _ => none

def MapState.Waits (s : MapState) (tid owner : Tid) : Prop :=
  ∃ x, s.txns tid = some x ∧ x.waitsFor s.db tid = some owner

/-! ### What a statement can do -/

/-- The statements of `map_identity`, each with what it found and what it did. -/
inductive MapStatement (db : IdentityStores) (tid : Tid) (x : MapTxn) : IdentityStores × MapPhase → Prop where
  | finds {u} (hp : x.phase = .start ∨ ∃ e, x.phase = .reselecting e) (hi : x.lookup db tid = some u) :
      MapStatement db tid x (db, .choosingTenant u)
  | notMapped (hp : x.phase = .start) (hv : x.call.provision = false) :
      MapStatement db tid x (db, .returned (.error .identityNotFound))
  | provisions (hp : x.phase = .start) : MapStatement db tid x (db, .insertingUser)
  | insertsUser (hp : x.phase = .insertingUser) (hk : ∀ y ∈ db.users, y.row.id ≠ x.user.id) :
      MapStatement db tid x ({ db with users := db.users.insert tid x.user }, .insertingIdentity)
  | insertsIdentity (hp : x.phase = .insertingIdentity) (hk : ∀ y ∈ db.identities, y.row.key ≠ x.identity.key) :
      MapStatement db tid x ({ db with identities := db.identities.insert tid x.identity }, .insertingTenant)
  | insertsTenant (hp : x.phase = .insertingTenant) (hk : ∀ y ∈ db.tenants, y.row.id ≠ x.tenant.id) :
      MapStatement db tid x ({ db with tenants := db.tenants.insert tid x.tenant }, .insertingMembership)
  | insertsMembership (hp : x.phase = .insertingMembership)
      (hk : ∀ y ∈ db.memberships, y.row.key ≠ x.membership.key) :
      MapStatement db tid x ({ db with memberships := db.memberships.insert tid x.membership }, .provisioned)
  | userTaken {e} (hp : x.phase = .insertingUser) (hd : db.users.clash User.id tid x.user.id = .duplicate) :
      MapStatement db tid x (db.abort tid, .reselecting e)
  | identityTaken {e} (hp : x.phase = .insertingIdentity)
      (hd : db.identities.clash Identity.key tid x.identity.key = .duplicate) :
      MapStatement db tid x (db.abort tid, .reselecting e)
  | tenantTaken {e} (hp : x.phase = .insertingTenant)
      (hd : db.tenants.clash Tenant.id tid x.tenant.id = .duplicate) :
      MapStatement db tid x (db.abort tid, .reselecting e)
  | membershipTaken {e} (hp : x.phase = .insertingMembership)
      (hd : db.memberships.clash Membership.key tid x.membership.key = .duplicate) :
      MapStatement db tid x (db.abort tid, .reselecting e)
  | identityFkey {e} (hp : x.phase = .insertingIdentity) (hf : x.call.userId ∉ (db.users.seenBy tid).map User.id) :
      MapStatement db tid x (db.abort tid, .rolledBack (some e))
  | membershipFkey {e} (hp : x.phase = .insertingMembership)
      (hf : x.call.userId ∉ (db.users.seenBy tid).map User.id ∨
        x.call.tenantId ∉ (db.tenants.seenBy tid).map Tenant.id) :
      MapStatement db tid x (db.abort tid, .rolledBack (some e))
  | commitsProvisioned (hp : x.phase = .provisioned) :
      MapStatement db tid x (db.commit tid, .committed (.ok x.mapped))
  | raises {e} (hp : x.phase = .reselecting e) (hi : x.lookup db tid = none) :
      MapStatement db tid x (db.abort tid, .rolledBack (some e))
  | noTenant {u} (hp : x.phase = .choosingTenant u)
      (hr : loginRows (db.memberships.seenBy tid) (db.tenants.seenBy tid) u = []) :
      MapStatement db tid x (db, .returned (.error .noActiveTenant))
  | chooses {u m} (hp : x.phase = .choosingTenant u)
      (hm : m ∈ firstRows (loginRows (db.memberships.seenBy tid) (db.tenants.seenBy tid) u)) :
      MapStatement db tid x (db, .readingEmail u m.tenantId)
  | readsEmail {u t} (hp : x.phase = .readingEmail u t) :
      MapStatement db tid x
        (db, .returned (.ok ⟨u, t, (findBy User.id u (db.users.seenBy tid)).bind User.email⟩))
  | commits {reply} (hp : x.phase = .returned reply) : MapStatement db tid x (db.commit tid, .committed reply)
  | aborts (hp : x.phase.finished = false) : MapStatement db tid x (db.abort tid, .rolledBack none)

section Insert

variable {ρ κ : Type} [DecidableEq κ] {s : Store Tid ρ} {key : ρ → κ} {pkey : String} {tid : Tid} {row : ρ}
  {fkeys : Option SqlError}

theorem Store.tryInsert_cases (s : Store Tid ρ) (key : ρ → κ) (pkey : String) (tid : Tid) (row : ρ)
    (fkeys : Option SqlError) :
    (∃ owner, s.clash key tid (key row) = .waitFor owner ∧ s.tryInsert key pkey tid row fkeys = .waits owner) ∨
    (s.clash key tid (key row) = .duplicate ∧ s.tryInsert key pkey tid row fkeys = .fails (.uniqueViolation pkey)) ∨
    (∃ e, fkeys = some e ∧ s.tryInsert key pkey tid row fkeys = .fails e) ∨
    ((∀ y ∈ s, key y.row ≠ key row) ∧ fkeys = none ∧ s.tryInsert key pkey tid row fkeys =
      .done (s.insert tid row)) := by
  unfold tryInsert
  cases hc : s.clash key tid (key row) with
  | waitFor owner => exact Or.inl ⟨owner, rfl, rfl⟩
  | duplicate => exact Or.inr (Or.inl ⟨rfl, rfl⟩)
  | none =>
    cases fkeys with
    | some e => exact Or.inr (Or.inr (Or.inl ⟨e, rfl, rfl⟩))
    | none => exact Or.inr (Or.inr (Or.inr ⟨Store.clash_none hc, rfl, rfl⟩))

/-- What the statement of an `INSERT` comes to, when its foreign keys raise no unique violation. -/
private theorem MapTxn.afterInsert_cases {db : IdentityStores} {store : Store Tid ρ → IdentityStores}
    {phase : MapPhase} {r : IdentityStores × MapPhase} (hf : ∀ c, fkeys ≠ some (.uniqueViolation c))
    (h : afterInsert db tid store phase (s.tryInsert key pkey tid row fkeys) = some r) :
    (s.clash key tid (key row) = .duplicate ∧ r = (db.abort tid, .reselecting (.uniqueViolation pkey))) ∨
    (∃ e, fkeys = some e ∧ r = (db.abort tid, .rolledBack (some e))) ∨
    ((∀ y ∈ s, key y.row ≠ key row) ∧ r = (store (s.insert tid row), phase)) := by
  rcases s.tryInsert_cases key pkey tid row fkeys with
    ⟨owner, -, he⟩ | ⟨hd, he⟩ | ⟨e, hfk, he⟩ | ⟨hk, -, he⟩ <;> rw [he] at h
  · cases h
  · cases h
    exact Or.inl ⟨hd, rfl⟩
  · cases e with
    | uniqueViolation c => exact absurd hfk (hf c)
    | checkViolation c | foreignKeyViolation c =>
      cases h
      exact Or.inr (Or.inl ⟨_, hfk, rfl⟩)
  · cases h
    exact Or.inr (Or.inr ⟨hk, rfl⟩)

end Insert

section Statement

variable {db : IdentityStores} {tid : Tid} {x : MapTxn} {r : IdentityStores × MapPhase}

private theorem statement_insertUser (hp : x.phase = .insertingUser)
    (h : MapTxn.afterInsert db tid (fun s => { db with users := s }) .insertingIdentity
      (x.insertUser db tid) = some r) :
    MapStatement db tid x r := by
  rcases MapTxn.afterInsert_cases (fun c hc => by cases hc) h with ⟨hd, rfl⟩ | ⟨e, hf, -⟩ | ⟨hk, rfl⟩
  · exact .userTaken hp hd
  · cases hf
  · exact .insertsUser hp hk

private theorem statement_insertIdentity (hp : x.phase = .insertingIdentity)
    (h : MapTxn.afterInsert db tid (fun s => { db with identities := s }) .insertingTenant
      (x.insertIdentity db tid) = some r) : MapStatement db tid x r := by
  have hfk : ∀ c, (if x.call.userId ∈ (db.users.seenBy tid).map User.id then none
      else some (SqlError.foreignKeyViolation "identities_user_id_fkey")) ≠ some (.uniqueViolation c) := by
    intro c
    split <;> exact nofun
  rcases MapTxn.afterInsert_cases hfk h with ⟨hd, rfl⟩ | ⟨e, hf, rfl⟩ | ⟨hk, rfl⟩
  · exact .identityTaken hp hd
  · refine .identityFkey hp ?_
    split at hf
    · cases hf
    · assumption
  · exact .insertsIdentity hp hk

private theorem statement_insertTenant (hp : x.phase = .insertingTenant)
    (h : MapTxn.afterInsert db tid (fun s => { db with tenants := s }) .insertingMembership
      (x.insertTenant db tid) = some r) : MapStatement db tid x r := by
  rcases MapTxn.afterInsert_cases (fun c hc => by cases hc) h with ⟨hd, rfl⟩ | ⟨e, hf, -⟩ | ⟨hk, rfl⟩
  · exact .tenantTaken hp hd
  · cases hf
  · exact .insertsTenant hp hk

private theorem statement_insertMembership (hp : x.phase = .insertingMembership)
    (h : MapTxn.afterInsert db tid (fun s => { db with memberships := s }) .provisioned
      (x.insertMembership db tid) = some r) : MapStatement db tid x r := by
  have hfk : ∀ c, (if x.call.userId ∉ (db.users.seenBy tid).map User.id then
        some (SqlError.foreignKeyViolation "memberships_user_id_fkey")
      else if x.call.tenantId ∉ (db.tenants.seenBy tid).map Tenant.id then
        some (.foreignKeyViolation "memberships_tenant_id_fkey")
      else none) ≠ some (.uniqueViolation c) := by
    intro c
    split
    · exact nofun
    · split <;> exact nofun
  rcases MapTxn.afterInsert_cases hfk h with ⟨hd, rfl⟩ | ⟨e, hf, rfl⟩ | ⟨hk, rfl⟩
  · exact .membershipTaken hp hd
  · refine .membershipFkey hp ?_
    split at hf
    · exact Or.inl ‹_›
    · split at hf
      · exact Or.inr ‹_›
      · cases hf
  · exact .insertsMembership hp hk

theorem MapStatement.of_next (h : x.next db tid = some r) : MapStatement db tid x r := by
  unfold MapTxn.next at h
  split at h
  · rename_i hp
    split at h
    · rename_i u hu
      cases h
      exact .finds (Or.inl hp) hu
    · split at h
      · rename_i hv
        cases h
        exact .notMapped hp (Bool.eq_false_iff.2 hv)
      · cases h
        exact .provisions hp
  · exact statement_insertUser ‹_› h
  · exact statement_insertIdentity ‹_› h
  · exact statement_insertTenant ‹_› h
  · exact statement_insertMembership ‹_› h
  · cases h
    exact .commitsProvisioned ‹_›
  · rename_i violation hp
    split at h
    · rename_i u hu
      cases h
      exact .finds (Or.inr ⟨violation, hp⟩) hu
    · rename_i hu
      cases h
      exact .raises hp hu
  · rename_i u hp
    split at h <;> cases h
    rename_i hr
    exact .noTenant hp hr
  · cases h
    exact .readsEmail ‹_›
  · cases h
    exact .commits ‹_›
  · cases h
  · cases h

theorem MapStatement.of_choose {tenantId : Uuid} (h : x.choose db tid tenantId = some r) :
    MapStatement db tid x r := by
  unfold MapTxn.choose at h
  split at h
  · rename_i u hp
    simp only at h
    split at h <;> cases h
    rename_i hr
    obtain ⟨m, hm, rfl⟩ := List.mem_map.1 hr
    exact .chooses hp hm
  · cases h

/-- Only a call that has not finished takes a statement. -/
theorem MapStatement.unfinished (h : MapStatement db tid x r) : x.phase.finished = false := by
  cases h with
  | aborts hp => exact hp
  | finds hp =>
    rcases hp with hp | ⟨e, hp⟩ <;> rw [hp] <;> rfl
  | _ => simp only [MapPhase.finished, *]

end Statement

/-- The steps of the machine. -/
theorem mapMachine_step {s s' : MapState} {a : MapAction} (h : mapMachine.step s a = some s') :
    (∃ d, a = .tick d ∧ s' = { s with clock := s.clock + d }) ∨
    (∃ tid call, a = .start tid call ∧ s.txns tid = none ∧ s' = s.put tid ⟨s.clock, call, .start⟩) ∨
    (∃ tid x r, s.txns tid = some x ∧ MapStatement s.db tid x r ∧ s' = s.apply tid x r) := by
  cases a with
  | tick d =>
    cases h
    exact Or.inl ⟨d, rfl, rfl⟩
  | start tid call =>
    simp only [mapMachine] at h
    split at h <;> cases h
    exact Or.inr (Or.inl ⟨tid, call, rfl, ‹_›, rfl⟩)
  | exec tid =>
    obtain ⟨x, hx, h⟩ := Option.bind_eq_some_iff.1 h
    obtain ⟨r, hr, rfl⟩ := Option.map_eq_some_iff.1 h
    exact Or.inr (Or.inr ⟨tid, x, r, hx, .of_next hr, rfl⟩)
  | choose tid tenantId =>
    obtain ⟨x, hx, h⟩ := Option.bind_eq_some_iff.1 h
    obtain ⟨r, hr, rfl⟩ := Option.map_eq_some_iff.1 h
    exact Or.inr (Or.inr ⟨tid, x, r, hx, .of_choose hr, rfl⟩)
  | abort tid =>
    obtain ⟨x, hx, h⟩ := Option.bind_eq_some_iff.1 h
    split at h <;> cases h
    rename_i hf
    exact Or.inr (Or.inr ⟨tid, x, _, hx, .aborts (Bool.eq_false_iff.2 hf), rfl⟩)

namespace MapState

variable (s : MapState) (tid : Tid) (x : MapTxn) (r : IdentityStores × MapPhase)

@[simp] theorem put_db : (s.put tid x).db = s.db := rfl
@[simp] theorem put_txns : (s.put tid x).txns = Function.update s.txns tid (some x) := rfl
@[simp] theorem apply_db : (s.apply tid x r).db = r.1 := rfl
@[simp] theorem apply_txns :
    (s.apply tid x r).txns = Function.update s.txns tid (some { x with phase := r.2 }) := rfl

end MapState

/-! ### When a call can go on -/

private theorem afterInsert_or_waits {ρ : Type} (db : IdentityStores) (tid : Tid)
    (store : Store Tid ρ → IdentityStores) (phase : MapPhase) (i : Insertion ρ) :
    (∃ r, MapTxn.afterInsert db tid store phase i = some r) ∨ ∃ owner, i.owner = some owner := by
  cases i with
  | waits owner => exact Or.inr ⟨owner, rfl⟩
  | fails e => cases e <;> exact Or.inl ⟨_, rfl⟩
  | done s => exact Or.inl ⟨_, rfl⟩

/-- A call that has not finished takes its next statement, or waits in an `INSERT`. -/
theorem MapTxn.next_or_waits {x : MapTxn} (hf : x.phase.finished = false) (db : IdentityStores) (tid : Tid) :
    (∃ r, x.next db tid = some r) ∨ (∃ t r, x.choose db tid t = some r) ∨ ∃ owner,
      x.waitsFor db tid = some owner := by
  unfold next choose waitsFor
  cases hp : x.phase with
  | start =>
    left
    simp only
    split
    · exact ⟨_, rfl⟩
    · split <;> exact ⟨_, rfl⟩
  | insertingUser | insertingIdentity | insertingTenant | insertingMembership =>
    exact (afterInsert_or_waits db tid _ _ _).imp_right Or.inr
  | provisioned | readingEmail u t | returned reply => exact Or.inl ⟨_, rfl⟩
  | reselecting violation =>
    left
    simp only
    split <;> exact ⟨_, rfl⟩
  | choosingTenant u =>
    simp only
    by_cases hr : loginRows (db.memberships.seenBy tid) (db.tenants.seenBy tid) u = []
    · exact Or.inl ⟨_, if_pos hr⟩
    · obtain ⟨m, hm⟩ := exists_firstRow hr
      exact Or.inr (Or.inl ⟨m.tenantId, _, if_pos (List.mem_map_of_mem hm)⟩)
  | committed reply | rolledBack cause =>
    rw [hp] at hf
    cases hf

end CleanBackend
