import CleanBackend.Database.MapIdentity

/-!
# One call of `map_identity`

`procedures/app/identity/map_identity.sql` as one atomic step, for a call that meets no other transaction: what it
returns and the tables it leaves, or the violation that aborts it.  The rows it inserts are those of `MapTxn`, and
`pick` is the row its `LIMIT 1` takes among those that nothing sorts before.
-/

namespace CleanBackend

/-- A computation that succeeds has a first part that does. -/
theorem bind_eq_ok {ε α β : Type} {e : Except ε α} {f : α → Except ε β} {b : β} (h : (e >>= f) = .ok b) :
    ∃ a, e = .ok a ∧ f a = .ok b := by
  cases e with
  | error e => cases h
  | ok a => exact ⟨a, rfl, h⟩

namespace IdentityTables

variable (ids : IdentityTables)

/-! ### The inserts -/

def insertUser (u : User) : Except SqlError IdentityTables :=
  if h : u.id ∉ ids.users.map User.id then
    .ok { ids with
      users := ids.users ++ [u]
      users_pkey := ids.users_pkey.append_singleton fun r hr he => h (List.mem_map.2 ⟨r, hr, he⟩)
      identities_user_fkey := fun i hi => by
        rw [List.map_append]
        exact List.mem_append_left _ (ids.identities_user_fkey i hi)
      memberships_user_fkey := fun m hm => by
        rw [List.map_append]
        exact List.mem_append_left _ (ids.memberships_user_fkey m hm) }
  else .error (.uniqueViolation "users_pkey")

def insertIdentity (i : Identity) : Except SqlError IdentityTables :=
  if h : i.key ∉ ids.identities.map Identity.key then
    if hu : i.userId ∈ ids.users.map User.id then
      .ok { ids with
        identities := ids.identities ++ [i]
        identities_pkey := ids.identities_pkey.append_singleton fun r hr he =>
          h (List.mem_map.2 ⟨r, hr, he⟩)
        identities_user_fkey := by
          simp only [List.mem_append, List.mem_singleton]
          rintro r (hr | rfl)
          · exact ids.identities_user_fkey r hr
          · exact hu }
    else .error (.foreignKeyViolation "identities_user_id_fkey")
  else .error (.uniqueViolation "identities_pkey")

def insertTenant (t : Tenant) : Except SqlError IdentityTables :=
  if h : t.id ∉ ids.tenants.map Tenant.id then
    .ok { ids with
      tenants := ids.tenants ++ [t]
      tenants_pkey := ids.tenants_pkey.append_singleton fun r hr he => h (List.mem_map.2 ⟨r, hr, he⟩)
      memberships_tenant_fkey := fun m hm => by
        rw [List.map_append]
        exact List.mem_append_left _ (ids.memberships_tenant_fkey m hm) }
  else .error (.uniqueViolation "tenants_pkey")

def insertMembership (m : Membership) : Except SqlError IdentityTables :=
  if h : m.key ∉ ids.memberships.map Membership.key then
    if hu : m.userId ∈ ids.users.map User.id then
      if ht : m.tenantId ∈ ids.tenants.map Tenant.id then
        .ok { ids with
          memberships := ids.memberships ++ [m]
          memberships_pkey := ids.memberships_pkey.append_singleton fun r hr he =>
            h (List.mem_map.2 ⟨r, hr, he⟩)
          memberships_user_fkey := by
            simp only [List.mem_append, List.mem_singleton]
            rintro r (hr | rfl)
            · exact ids.memberships_user_fkey r hr
            · exact hu
          memberships_tenant_fkey := by
            simp only [List.mem_append, List.mem_singleton]
            rintro r (hr | rfl)
            · exact ids.memberships_tenant_fkey r hr
            · exact ht }
      else .error (.foreignKeyViolation "memberships_tenant_id_fkey")
    else .error (.foreignKeyViolation "memberships_user_id_fkey")
  else .error (.uniqueViolation "memberships_pkey")

/-! ### The function -/

/-- `SELECT i.user_id … WHERE i.provider = p_provider AND i.subject = p_subject` -/
def userOf (call : MapIdentityCall) : Option Uuid :=
  (findBy Identity.key (call.provider, call.subject) ids.identities).map Identity.userId

/-- The inserts of the sub-block. -/
def provision (x : MapTxn) : Except SqlError IdentityTables := do
  let ids ← ids.insertUser x.user
  let ids ← ids.insertIdentity x.identity
  let ids ← ids.insertTenant x.tenant
  ids.insertMembership x.membership

/-- From the tenant lookup on. -/
def login (userId : Uuid) (pick : Nat) : MapReply :=
  let rows := firstRows (loginRows ids.memberships ids.tenants userId)
  match rows[pick % rows.length]? with
  | none => .error .noActiveTenant
  | some m => .ok ⟨userId, m.tenantId, (findBy User.id userId ids.users).bind User.email⟩

def mapIdentity (now : Int) (call : MapIdentityCall) (pick : Nat) : Except SqlError (IdentityTables × MapReply) :=
  match ids.userOf call with
  | some userId => .ok (ids, ids.login userId pick)
  | none =>
    if ¬ call.provision then .ok (ids, .error .identityNotFound)
    else
      match ids.provision ⟨now, call, .start⟩ with
      | .ok ids' => .ok (ids', .ok (MapTxn.mapped ⟨now, call, .start⟩))
      -- `EXCEPTION WHEN unique_violation`: the sub-block is undone, and the identity looked up again
      | .error (.uniqueViolation constraint) =>
        match ids.userOf call with
        | some userId => .ok (ids, ids.login userId pick)
        | none => .error (.uniqueViolation constraint)
      | .error e => .error e

/-! ### What the inserts leave -/

variable {ids}
variable {ids' : IdentityTables}

private theorem insertUser_ok {u : User} (h : ids.insertUser u = .ok ids') :
    u.id ∉ ids.users.map User.id ∧ ids'.users = ids.users ++ [u] ∧ ids'.identities = ids.identities ∧
      ids'.tenants = ids.tenants ∧ ids'.memberships = ids.memberships := by
  unfold insertUser at h
  split at h
  · cases h
    exact ⟨‹_›, rfl, rfl, rfl, rfl⟩
  · cases h

private theorem insertIdentity_ok {i : Identity} (h : ids.insertIdentity i = .ok ids') :
    i.key ∉ ids.identities.map Identity.key ∧ ids'.users = ids.users ∧ ids'.identities = ids.identities ++ [i] ∧
      ids'.tenants = ids.tenants ∧ ids'.memberships = ids.memberships := by
  unfold insertIdentity at h
  split at h
  · split at h
    · cases h
      exact ⟨‹_›, rfl, rfl, rfl, rfl⟩
    · cases h
  · cases h

private theorem insertTenant_ok {t : Tenant} (h : ids.insertTenant t = .ok ids') :
    t.id ∉ ids.tenants.map Tenant.id ∧ ids'.users = ids.users ∧ ids'.identities = ids.identities ∧
      ids'.tenants = ids.tenants ++ [t] ∧ ids'.memberships = ids.memberships := by
  unfold insertTenant at h
  split at h
  · cases h
    exact ⟨‹_›, rfl, rfl, rfl, rfl⟩
  · cases h

private theorem insertMembership_ok {m : Membership} (h : ids.insertMembership m = .ok ids') :
    m.key ∉ ids.memberships.map Membership.key ∧ ids'.users = ids.users ∧ ids'.identities = ids.identities ∧
      ids'.tenants = ids.tenants ∧ ids'.memberships = ids.memberships ++ [m] := by
  unfold insertMembership at h
  split at h
  · split at h
    · split at h
      · cases h
        exact ⟨‹_›, rfl, rfl, rfl, rfl⟩
      · cases h
    · cases h
  · cases h

/-- The keys were free, and each table has its new row. -/
theorem provision_ok {x : MapTxn} (h : ids.provision x = .ok ids') :
    (x.user.id ∉ ids.users.map User.id ∧ x.identity.key ∉ ids.identities.map Identity.key ∧
      x.tenant.id ∉ ids.tenants.map Tenant.id ∧ x.membership.key ∉ ids.memberships.map Membership.key) ∧
    ids'.users = ids.users ++ [x.user] ∧ ids'.identities = ids.identities ++ [x.identity] ∧
      ids'.tenants = ids.tenants ++ [x.tenant] ∧ ids'.memberships = ids.memberships ++ [x.membership] := by
  unfold provision at h
  obtain ⟨ids₁, h₁, h⟩ := bind_eq_ok h
  obtain ⟨ids₂, h₂, h⟩ := bind_eq_ok h
  obtain ⟨ids₃, h₃, h⟩ := bind_eq_ok h
  obtain ⟨hu, hu₁, hi₁, ht₁, hm₁⟩ := insertUser_ok h₁
  obtain ⟨hi, hu₂, hi₂, ht₂, hm₂⟩ := insertIdentity_ok h₂
  obtain ⟨ht, hu₃, hi₃, ht₃, hm₃⟩ := insertTenant_ok h₃
  obtain ⟨hm, hu₄, hi₄, ht₄, hm₄⟩ := insertMembership_ok h
  refine ⟨⟨hu, ?_, ?_, ?_⟩, ?_, ?_, ?_, ?_⟩
  · rwa [hi₁] at hi
  · rwa [ht₂, ht₁] at ht
  · rwa [hm₃, hm₂, hm₁] at hm
  · rw [hu₄, hu₃, hu₂, hu₁]
  · rw [hi₄, hi₃, hi₂, hi₁]
  · rw [ht₄, ht₃, ht₂, ht₁]
  · rw [hm₄, hm₃, hm₂, hm₁]

/-! ### Rows are only added -/

/-- The users and tenants that other tables refer to stay. -/
structure Grows (ids ids' : IdentityTables) : Prop where
  users : ids.users.map User.id ⊆ ids'.users.map User.id
  tenants : ids.tenants.map Tenant.id ⊆ ids'.tenants.map Tenant.id

private theorem Grows.refl (ids : IdentityTables) : Grows ids ids := ⟨fun _ h => h, fun _ h => h⟩

private theorem provision_grows {x : MapTxn} (h : ids.provision x = .ok ids') : Grows ids ids' := by
  obtain ⟨-, husers, -, htenants, -⟩ := provision_ok h
  constructor
  · rw [husers, List.map_append]
    exact List.subset_append_left _ _
  · rw [htenants, List.map_append]
    exact List.subset_append_left _ _

private theorem mapIdentity_grows {now : Int} {call : MapIdentityCall} {pick : Nat} {reply : MapReply}
    (h : ids.mapIdentity now call pick = .ok (ids', reply)) : Grows ids ids' := by
  unfold mapIdentity at h
  split at h
  · cases h
    exact Grows.refl ids
  · split at h
    · cases h
      exact Grows.refl ids
    · split at h
      · rename_i hp
        cases h
        exact provision_grows hp
      · split at h
        · cases h
          exact Grows.refl ids
        · cases h
      · cases h

end IdentityTables

/-- `map_identity` in the database; an aborted transaction leaves it unchanged. -/
def Database.mapIdentity (db : Database) (now : Int) (call : MapIdentityCall) (pick : Nat) :
    Database × Except SqlError MapReply :=
  match h : db.toIdentityTables.mapIdentity now call pick with
  | .error e => (db, .error e)
  | .ok (ids, reply) =>
    have hgrows := IdentityTables.mapIdentity_grows h
    ({ db with
        toIdentityTables := ids
        sessions_user_fkey := fun s hs => hgrows.users (db.sessions_user_fkey s hs)
        sessions_tenant_fkey := fun s hs => hgrows.tenants (db.sessions_tenant_fkey s hs) }, .ok reply)

end CleanBackend
