import CleanBackend.Lib.Keyed

/-!
# The `app` schema

The tables of `schema/app/tables` with their constraints as fields, so that a value of `IdentityTables` or `Database`
is a state the schema admits.  An `INSERT` into `app.user_sessions` is checked (`Database.insertSession`), an `UPDATE`
carries the proof that it keeps the keys and the `CHECK` constraints (`SessionUpdate`).

`timestamptz` and `interval` values are integers, in microseconds.
-/

namespace CleanBackend

abbrev Uuid := BitVec 128
abbrev Bytea := List UInt8

instance Uuid.instLawfulBEq : LawfulBEq Uuid := inferInstance

/-- A transaction id. -/
abbrev Tid := Nat

/-- A `text` has no NUL. -/
def Storable (text : String) : Prop := Char.ofNat 0 ∉ text.toList

instance (text : String) : Decidable (Storable text) := inferInstanceAs (Decidable (¬ _))

/-! ### Identity tables -/

/-- `CHECK (status IN ('active', 'suspended'))` -/
inductive TenantStatus where
  | active
  | suspended
  deriving DecidableEq, Repr

/-- `CHECK (status IN ('active', 'disabled'))` -/
inductive UserStatus where
  | active
  | disabled
  deriving DecidableEq, Repr

/-- `CHECK (status IN ('active', 'suspended'))` -/
inductive MembershipStatus where
  | active
  | suspended
  deriving DecidableEq, Repr

structure Tenant where
  id : Uuid
  name : String
  status : TenantStatus
  createdAt : Int
  deriving DecidableEq, Repr

structure User where
  id : Uuid
  email : Option String
  status : UserStatus
  createdAt : Int
  deriving DecidableEq, Repr

structure Identity where
  provider : String
  subject : String
  userId : Uuid
  email : Option String
  createdAt : Int
  deriving DecidableEq, Repr

structure Membership where
  userId : Uuid
  tenantId : Uuid
  status : MembershipStatus
  isDefault : Bool
  createdAt : Int
  deriving DecidableEq, Repr

/-- `app.tenants`, `app.users`, `app.identities`, `app.memberships`. -/
structure IdentityTables where
  tenants : List Tenant
  users : List User
  identities : List Identity
  memberships : List Membership
  tenants_pkey : UniqueBy Tenant.id tenants
  users_pkey : UniqueBy User.id users
  identities_pkey : UniqueBy (fun i => (i.provider, i.subject)) identities
  memberships_pkey : UniqueBy (fun m => (m.userId, m.tenantId)) memberships
  identities_user_fkey : ∀ i ∈ identities, i.userId ∈ users.map User.id
  memberships_user_fkey : ∀ m ∈ memberships, m.userId ∈ users.map User.id
  memberships_tenant_fkey : ∀ m ∈ memberships, m.tenantId ∈ tenants.map Tenant.id

/-- One user in one tenant. -/
def oneMember : IdentityTables where
  tenants := [⟨1, "acme", .active, 0⟩]
  users := [⟨1, some "alice@example.com", .active, 0⟩]
  identities := []
  memberships := [⟨1, 1, .active, true, 0⟩]
  tenants_pkey := by decide
  users_pkey := by decide
  identities_pkey := by decide
  memberships_pkey := by decide
  identities_user_fkey := by decide
  memberships_user_fkey := by decide
  memberships_tenant_fkey := by decide

/-! ### `app.user_sessions` -/

structure UserSession where
  id : Uuid
  tokenHash : Bytea
  userId : Uuid
  tenantId : Uuid
  gotrueAccessToken : Bytea
  gotrueRefreshToken : Bytea
  gotrueExpiresAt : Option Int
  absoluteExpiresAt : Int
  idleExpiresAt : Int
  createdAt : Int
  lastSeenAt : Int
  revokedAt : Option Int
  rotatedFrom : Option Uuid
  userAgent : Option String
  ip : Option String
  deriving DecidableEq, Repr

/-- The database.  The session constraints bear their names in the schema. -/
structure Database extends IdentityTables where
  userSessions : List UserSession
  sessions_pkey : UniqueBy UserSession.id userSessions
  sessions_token_hash_key : UniqueBy UserSession.tokenHash userSessions
  sessions_token_hash_is_sha256 : ∀ s ∈ userSessions, s.tokenHash.length = 32
  sessions_idle_within_absolute : ∀ s ∈ userSessions, s.idleExpiresAt ≤ s.absoluteExpiresAt
  sessions_user_fkey : ∀ s ∈ userSessions, s.userId ∈ users.map User.id
  sessions_tenant_fkey : ∀ s ∈ userSessions, s.tenantId ∈ tenants.map Tenant.id
  sessions_rotated_from_fkey :
    ∀ s ∈ userSessions, ∀ o, s.rotatedFrom = some o → o ∈ userSessions.map UserSession.id

/-- The database right after the migrations, over given identity tables. -/
def Database.empty (ids : IdentityTables) : Database where
  toIdentityTables := ids
  userSessions := []
  sessions_pkey := List.nodup_nil
  sessions_token_hash_key := List.nodup_nil
  sessions_token_hash_is_sha256 := by simp
  sessions_idle_within_absolute := by simp
  sessions_user_fkey := by simp
  sessions_tenant_fkey := by simp
  sessions_rotated_from_fkey := by simp

/-- A constraint violation; the transaction that meets it aborts. -/
inductive SqlError where
  | checkViolation (constraint : String)
  | uniqueViolation (constraint : String)
  | foreignKeyViolation (constraint : String)
  deriving DecidableEq, Repr

/-- `INSERT INTO user_sessions`: the checks, then the unique indexes, then the foreign keys. -/
def Database.insertSession (db : Database) (s : UserSession) : Except SqlError Database :=
  if h₁ : s.idleExpiresAt ≤ s.absoluteExpiresAt then
    if h₂ : s.tokenHash.length = 32 then
      if h₃ : s.id ∉ db.userSessions.map UserSession.id then
        if h₄ : s.tokenHash ∉ db.userSessions.map UserSession.tokenHash then
          if h₅ : s.userId ∈ db.users.map User.id then
            if h₆ : s.tenantId ∈ db.tenants.map Tenant.id then
              if h₇ : s.rotatedFrom.all (· ∈ db.userSessions.map UserSession.id) then
                .ok { db with
                  userSessions := db.userSessions ++ [s]
                  sessions_pkey := db.sessions_pkey.append_singleton fun r hr he =>
                    h₃ (he ▸ List.mem_map_of_mem hr)
                  sessions_token_hash_key := db.sessions_token_hash_key.append_singleton fun r hr he =>
                    h₄ (he ▸ List.mem_map_of_mem hr)
                  sessions_token_hash_is_sha256 := by
                    simp only [List.mem_append, List.mem_singleton]
                    rintro r (hr | rfl)
                    · exact db.sessions_token_hash_is_sha256 r hr
                    · exact h₂
                  sessions_idle_within_absolute := by
                    simp only [List.mem_append, List.mem_singleton]
                    rintro r (hr | rfl)
                    · exact db.sessions_idle_within_absolute r hr
                    · exact h₁
                  sessions_user_fkey := by
                    simp only [List.mem_append, List.mem_singleton]
                    rintro r (hr | rfl)
                    · exact db.sessions_user_fkey r hr
                    · exact h₅
                  sessions_tenant_fkey := by
                    simp only [List.mem_append, List.mem_singleton]
                    rintro r (hr | rfl)
                    · exact db.sessions_tenant_fkey r hr
                    · exact h₆
                  sessions_rotated_from_fkey := by
                    simp only [List.mem_append, List.mem_singleton, List.map_append]
                    rintro r (hr | rfl) o ho
                    · exact Or.inl (db.sessions_rotated_from_fkey r hr o ho)
                    · rw [Option.all_eq_true] at h₇
                      exact Or.inl (of_decide_eq_true (h₇ o ho)) }
              else .error (.foreignKeyViolation "user_sessions_rotated_from_fkey")
            else .error (.foreignKeyViolation "user_sessions_tenant_id_fkey")
          else .error (.foreignKeyViolation "user_sessions_user_id_fkey")
        else .error (.uniqueViolation "user_sessions_token_hash_key")
      else .error (.uniqueViolation "user_sessions_pkey")
    else .error (.checkViolation "user_sessions_token_hash_is_sha256")
  else .error (.checkViolation "user_sessions_idle_within_absolute")

/-- The `SET` list of an `UPDATE user_sessions` outside the keys. -/
structure SessionUpdate where
  set : UserSession → UserSession
  id_eq : ∀ s, (set s).id = s.id
  tokenHash_eq : ∀ s, (set s).tokenHash = s.tokenHash
  userId_eq : ∀ s, (set s).userId = s.userId
  tenantId_eq : ∀ s, (set s).tenantId = s.tenantId
  rotatedFrom_eq : ∀ s, (set s).rotatedFrom = s.rotatedFrom
  idle_within_absolute : ∀ s, s.idleExpiresAt ≤ s.absoluteExpiresAt →
    (set s).idleExpiresAt ≤ (set s).absoluteExpiresAt

/-- The update on the rows its `WHERE` accepts. -/
def SessionUpdate.on (u : SessionUpdate) (cond : UserSession → Bool) (s : UserSession) : UserSession :=
  if cond s then u.set s else s

namespace SessionUpdate

variable (u : SessionUpdate) (cond : UserSession → Bool) (s : UserSession)

@[simp] theorem on_id : (u.on cond s).id = s.id := by unfold on; split <;> simp [u.id_eq]

@[simp] theorem on_tokenHash : (u.on cond s).tokenHash = s.tokenHash := by
  unfold on; split <;> simp [u.tokenHash_eq]

@[simp] theorem on_userId : (u.on cond s).userId = s.userId := by unfold on; split <;> simp [u.userId_eq]

@[simp] theorem on_tenantId : (u.on cond s).tenantId = s.tenantId := by
  unfold on; split <;> simp [u.tenantId_eq]

@[simp] theorem on_rotatedFrom : (u.on cond s).rotatedFrom = s.rotatedFrom := by
  unfold on; split <;> simp [u.rotatedFrom_eq]

private theorem on_idle_within_absolute (h : s.idleExpiresAt ≤ s.absoluteExpiresAt) :
    (u.on cond s).idleExpiresAt ≤ (u.on cond s).absoluteExpiresAt := by
  unfold on; split
  · exact u.idle_within_absolute s h
  · exact h

end SessionUpdate

/-- `UPDATE user_sessions SET u WHERE cond` -/
def Database.updateSessions (db : Database) (u : SessionUpdate) (cond : UserSession → Bool) : Database :=
  { db with
    userSessions := db.userSessions.map (u.on cond)
    sessions_pkey := db.sessions_pkey.map (u.on_id cond)
    sessions_token_hash_key := db.sessions_token_hash_key.map (u.on_tokenHash cond)
    sessions_token_hash_is_sha256 := by
      simp only [List.forall_mem_map, SessionUpdate.on_tokenHash]
      exact db.sessions_token_hash_is_sha256
    sessions_idle_within_absolute := by
      simp only [List.forall_mem_map]
      exact fun s hs => u.on_idle_within_absolute cond s (db.sessions_idle_within_absolute s hs)
    sessions_user_fkey := by
      simp only [List.forall_mem_map, SessionUpdate.on_userId]
      exact db.sessions_user_fkey
    sessions_tenant_fkey := by
      simp only [List.forall_mem_map, SessionUpdate.on_tenantId]
      exact db.sessions_tenant_fkey
    sessions_rotated_from_fkey := by
      simp only [List.forall_mem_map, SessionUpdate.on_rotatedFrom, List.map_map, Function.comp_def,
        SessionUpdate.on_id]
      exact db.sessions_rotated_from_fkey }

/-- `SET revoked_at = now()` -/
def SessionUpdate.revoke (now : Int) : SessionUpdate where
  set s := { s with revokedAt := some now }
  id_eq _ := rfl
  tokenHash_eq _ := rfl
  userId_eq _ := rfl
  tenantId_eq _ := rfl
  rotatedFrom_eq _ := rfl
  idle_within_absolute _ h := h

/-- `SET idle_expires_at = LEAST(now() + p_idle_ttl, absolute_expires_at), last_seen_at = now()` -/
def SessionUpdate.slide (now : Int) (idleTtl : Int) : SessionUpdate where
  set s := { s with idleExpiresAt := min (now + idleTtl) s.absoluteExpiresAt, lastSeenAt := now }
  id_eq _ := rfl
  tokenHash_eq _ := rfl
  userId_eq _ := rfl
  tenantId_eq _ := rfl
  rotatedFrom_eq _ := rfl
  idle_within_absolute _ _ := Int.min_le_right _ _

/-! ### Statements on `user_sessions` -/

/-- `SELECT * FROM user_sessions WHERE token_hash = …` -/
def Database.sessionOf (db : Database) (tokenHash : Bytea) : Option UserSession :=
  findBy UserSession.tokenHash tokenHash db.userSessions

theorem Database.sessionOf_empty (ids : IdentityTables) (h : Bytea) : (Database.empty ids).sessionOf h = none := rfl

theorem Database.sessionOf_mem {db : Database} {h : Bytea} {s : UserSession} (hs : db.sessionOf h = some s) :
    s ∈ db.userSessions ∧ s.tokenHash = h := findBy_some hs

theorem Database.sessionOf_of_mem {db : Database} {s : UserSession} (hs : s ∈ db.userSessions) :
    db.sessionOf s.tokenHash = some s := db.sessions_token_hash_key.findBy_of_mem hs

theorem Database.sessionOf_update (db : Database) (u : SessionUpdate) (cond : UserSession → Bool) (h : Bytea) :
    (db.updateSessions u cond).sessionOf h = (db.sessionOf h).map (u.on cond) :=
  findBy_map (u.on_tokenHash cond) h db.userSessions

/-- An update of one row by its id. -/
theorem Database.sessionOf_update_id {db : Database} {h : Bytea} {s : UserSession} (hs : db.sessionOf h = some s)
    (u : SessionUpdate) (k : Bytea) :
    (db.updateSessions u (·.id == s.id)).sessionOf k = if k = h then some (u.set s) else db.sessionOf k := by
  obtain ⟨hm, hh⟩ := sessionOf_mem hs
  rw [sessionOf_update]
  by_cases hk : k = h
  · subst hk
    rw [hs, if_pos rfl]
    simp [SessionUpdate.on]
  · rw [if_neg hk]
    cases hr : db.sessionOf k with
    | none => rfl
    | some r =>
      obtain ⟨hrm, hrk⟩ := sessionOf_mem hr
      have hid : r.id ≠ s.id := by
        intro he
        rw [db.sessions_pkey.eq_of_key hrm hm he] at hrk
        exact hk (hrk.symm.trans hh)
      simp [SessionUpdate.on, hid]

@[simp] theorem Database.update_identity (db : Database) (u : SessionUpdate) (cond : UserSession → Bool) :
    (db.updateSessions u cond).toIdentityTables = db.toIdentityTables := rfl

/-- An accepted `INSERT` met no violation and appended the row. -/
theorem Database.insertSession_ok {db db' : Database} {s : UserSession} (h : db.insertSession s = .ok db') :
    db'.userSessions = db.userSessions ++ [s] ∧ db'.toIdentityTables = db.toIdentityTables ∧
      s.id ∉ db.userSessions.map UserSession.id ∧ s.tokenHash ∉ db.userSessions.map UserSession.tokenHash := by
  unfold insertSession at h
  split at h
  · split at h
    · split at h
      · rename_i h₃
        split at h
        · rename_i h₄
          split at h
          · split at h
            · split at h
              · cases h
                exact ⟨rfl, rfl, h₃, h₄⟩
              · cases h
            · cases h
          · cases h
        · cases h
      · cases h
    · cases h
  · cases h

/-- The inserted token was unknown before. -/
theorem Database.sessionOf_of_insert {db db' : Database} {s : UserSession} (h : db.insertSession s = .ok db') :
    db.sessionOf s.tokenHash = none :=
  findBy_eq_none.2 fun _ hr he => (insertSession_ok h).2.2.2 (he ▸ List.mem_map_of_mem hr)

theorem Database.sessionOf_insert {db db' : Database} {s : UserSession} (h : db.insertSession s = .ok db')
    (k : Bytea) : db'.sessionOf k = if s.tokenHash = k then some s else db.sessionOf k := by
  have hnew := sessionOf_of_insert h
  unfold sessionOf at hnew ⊢
  rw [(insertSession_ok h).1, findBy_append, findBy_cons, findBy_nil]
  by_cases hk : s.tokenHash = k
  · subst hk; simp [hnew]
  · simp [hk]

/-- The token of a stored session is not the one an accepted `INSERT` brings. -/
theorem Database.tokenHash_ne_of_insert {db db' : Database} {s row : UserSession} {k : Bytea}
    (h : db.insertSession s = .ok db') (hk : db.sessionOf k = some row) : s.tokenHash ≠ k := by
  rintro rfl
  rw [sessionOf_of_insert h] at hk
  cases hk

/-- An accepted `INSERT` leaves the stored sessions in their place. -/
theorem Database.sessionOf_insert_of_some {db db' : Database} {s row : UserSession} {k : Bytea}
    (h : db.insertSession s = .ok db') (hk : db.sessionOf k = some row) : db'.sessionOf k = some row := by
  rw [sessionOf_insert h, if_neg (tokenHash_ne_of_insert h hk)]
  exact hk

/-- An `INSERT` that meets no violation is accepted. -/
theorem Database.insertSession_accepts (db : Database) (s : UserSession) (h₁ : s.idleExpiresAt ≤ s.absoluteExpiresAt)
    (h₂ : s.tokenHash.length = 32) (h₃ : s.id ∉ db.userSessions.map UserSession.id)
    (h₄ : s.tokenHash ∉ db.userSessions.map UserSession.tokenHash) (h₅ : s.userId ∈ db.users.map User.id)
    (h₆ : s.tenantId ∈ db.tenants.map Tenant.id)
    (h₇ : ∀ o, s.rotatedFrom = some o → o ∈ db.userSessions.map UserSession.id) :
      ∃ db', db.insertSession s = .ok db' := by
  unfold insertSession
  have h₇ : s.rotatedFrom.all (· ∈ db.userSessions.map UserSession.id) :=
    (Option.all_eq_true _ _).2 fun o ho => decide_eq_true (h₇ o ho)
  rw [dif_pos h₁, dif_pos h₂, dif_pos h₃, dif_pos h₄, dif_pos h₅, dif_pos h₆, dif_pos h₇]
  exact ⟨_, rfl⟩

/-- The id of the row with a hash tells it apart as the hash does. -/
theorem Database.id_eq_iff {db : Database} {h : Bytea} {s : UserSession} (hs : db.sessionOf h = some s)
    {r : UserSession} (hr : r ∈ db.userSessions) : (r.id == s.id) = true ↔ r.tokenHash = h := by
  obtain ⟨hm, hh⟩ := sessionOf_mem hs
  rw [beq_iff_eq]
  constructor
  · intro he
    rw [db.sessions_pkey.eq_of_key hr hm he, hh]
  · intro he
    rw [db.sessions_token_hash_key.eq_of_key hr hm (he.trans hh.symm)]

end CleanBackend
