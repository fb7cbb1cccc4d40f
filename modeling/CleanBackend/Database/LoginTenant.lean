import CleanBackend.Database.LoginAdmission

/-!
# The tenant of a login

`map_identity` logs a user in to the first of the user's active tenants by `is_default DESC, created_at ASC`.  The
constraints of `app.memberships` allow several defaults, and the memberships that one transaction inserts have the
same `created_at`, so two memberships may be first together; which one `LIMIT 1` returns is then up to the plan.  The
tenant is settled exactly when no two are (`login_tenant_settled_iff`).
-/

namespace CleanBackend

namespace IdentityTables

/-- The rows `map_identity` selects from. -/
def tenancies (ids : IdentityTables) (userId : Uuid) : List Membership := loginRows ids.memberships ids.tenants userId

/-- The same tenants and memberships, in any physical order. -/
structure SameTenancies (ids ids' : IdentityTables) : Prop where
  tenants : ids'.tenants.Perm ids.tenants
  memberships : ids'.memberships.Perm ids.memberships

/-- Of the user's active memberships in active tenants, no two have the same `is_default` and `created_at`, unless
another one sorts before them. -/
def OneLeads (ids : IdentityTables) (userId : Uuid) : Prop :=
  ∀ m ∈ ids.tenancies userId, ∀ m' ∈ ids.tenancies userId, m.tenantId ≠ m'.tenantId →
    m.isDefault = m'.isDefault → m.createdAt = m'.createdAt →
      ∃ c ∈ ids.tenancies userId,
        (c.isDefault ∧ ¬ m.isDefault) ∨ (c.isDefault = m.isDefault ∧ c.createdAt < m.createdAt)

instance (ids : IdentityTables) (userId : Uuid) : Decidable (ids.OneLeads userId) :=
  inferInstanceAs (Decidable (∀ m ∈ ids.tenancies userId, _))

/-- Whatever row `LIMIT 1` returns, it is one of the tenant. -/
def Settled (ids : IdentityTables) (userId tenantId : Uuid) : Prop :=
  ∀ m, OrderBy.First Membership.sortKey (ids.tenancies userId) m → m.tenantId = tenantId

variable {ids ids' : IdentityTables} {u t : Uuid}

private theorem SameTenancies.refl (ids : IdentityTables) : SameTenancies ids ids := ⟨.refl _, .refl _⟩

private theorem SameTenancies.trans {ids'' : IdentityTables} (h : SameTenancies ids ids')
    (h' : SameTenancies ids' ids'') :
    SameTenancies ids ids'' := ⟨h'.tenants.trans h.tenants, h'.memberships.trans h.memberships⟩

private theorem mem_loginRows {memberships : List Membership} {tenants : List Tenant} {m : Membership} :
    m ∈ loginRows memberships tenants u ↔
      m ∈ memberships ∧ m.userId = u ∧ m.status = .active ∧ ∃ t ∈ tenants, t.id = m.tenantId ∧
        t.status = .active := by
  simp [loginRows, and_assoc]

private theorem SameTenancies.mem_iff (h : SameTenancies ids ids') (m : Membership) :
    m ∈ ids'.tenancies u ↔ m ∈ ids.tenancies u := by
  unfold tenancies
  rw [mem_loginRows, mem_loginRows, h.memberships.mem_iff]
  simp only [h.tenants.mem_iff]

/-- A user has one membership in a tenant. -/
private theorem eq_of_tenantId {m m' : Membership} (hm : m ∈ ids.tenancies u) (hm' : m' ∈ ids.tenancies u)
    (h : m.tenantId = m'.tenantId) : m = m' := by
  obtain ⟨hm, hu, -⟩ := mem_loginRows.1 hm
  obtain ⟨hm', hu', -⟩ := mem_loginRows.1 hm'
  exact ids.memberships_pkey.eq_of_key hm hm' (Prod.ext (hu.trans hu'.symm) h)

private theorem tenancies_ne_nil (h : ∃ t, ids.activeMember u t ∧ ids.activeTenant t) : ids.tenancies u ≠ [] := by
  obtain ⟨t, hmember, htenant⟩ := h
  obtain ⟨m, hm, hactive⟩ := List.any_eq_true.1 hmember
  obtain ⟨r, hr, hractive⟩ := List.any_eq_true.1 htenant
  simp only [Bool.and_eq_true, beq_iff_eq] at hactive hractive
  obtain ⟨⟨hu, rfl⟩, hstatus⟩ := hactive
  exact List.ne_nil_of_mem (mem_loginRows.2 ⟨hm, hu, hstatus, r, hr, hractive⟩)

private theorem oneLeads_iff : ids.OneLeads u ↔ OrderBy.TieFree Membership.sortKey (ids.tenancies u) := by
  unfold OneLeads OrderBy.TieFree
  constructor
  · intro h m hm m' hm' hne hkey
    obtain ⟨hdefault, hcreated⟩ := Membership.sortKey_eq.1 hkey
    obtain ⟨c, hc, hlt⟩ := h m hm m' hm' (fun he => hne (eq_of_tenantId hm hm' he)) hdefault hcreated
    exact ⟨c, hc, Membership.sortKey_lt.2 hlt⟩
  · intro h m hm m' hm' hne hdefault hcreated
    obtain ⟨c, hc, hlt⟩ := h m hm m' hm' (fun he => hne (congrArg _ he))
        (Membership.sortKey_eq.2 ⟨hdefault, hcreated⟩)
    exact ⟨c, hc, Membership.sortKey_lt.1 hlt⟩

/-- Some tenant is settled on exactly when one membership leads the order. -/
private theorem exists_settled_iff (hn : ids.tenancies u ≠ []) : (∃ t, ids.Settled u t) ↔ ids.OneLeads u := by
  rw [oneLeads_iff]
  exact OrderBy.exists_forall_first_iff (fun m hm m' hm' h => eq_of_tenantId hm hm' h) hn

private theorem Settled.congr (h : ∀ m, m ∈ ids'.tenancies u ↔ m ∈ ids.tenancies u) (hs : ids.Settled u t) :
    ids'.Settled u t := fun m hm => hs m ((OrderBy.first_congr h).1 hm)

/-! ### Plans -/

/-- The tenant is settled exactly when every order of the rows has it first. -/
private theorem settled_iff_sorts (hn : ids.tenancies u ≠ []) :
    (∀ ids' out, ids.SameTenancies ids' → OrderBy.Sorts Membership.sortKey (ids'.tenancies u) out →
      out.head?.map Membership.tenantId = some t) ↔ ids.Settled u t := by
  constructor
  · intro h m hm
    obtain ⟨out, hsorts, hhead⟩ := OrderBy.first_iff_sorts.1 hm
    have htenant := h ids out (.refl ids) hsorts
    rw [hhead] at htenant
    exact Option.some.inj htenant
  · intro hs ids' out hsame hsorts
    cases out with
    | nil =>
      obtain ⟨m, hm⟩ := List.exists_mem_of_ne_nil _ hn
      cases hsorts.perm.mem_iff.2 (hsame.mem_iff m |>.2 hm)
    | cons m out => exact congrArg some (hs.congr hsame.mem_iff m hsorts.first)

/-! ### The lookup -/

private theorem login_of_getElem {pick : Nat} {m : Membership}
    (h : (firstRows (ids.tenancies u))[pick % (firstRows (ids.tenancies u)).length]? = some m) :
    ids.login u pick = .ok ⟨u, m.tenantId, (findBy User.id u ids.users).bind User.email⟩ := by
  unfold tenancies at h
  unfold login
  simp only [h]

/-- The lookup returns the tenant of a row that `LIMIT 1` may return. -/
private theorem exists_first_of_login (hn : ids.tenancies u ≠ []) (pick : Nat) :
    ∃ m, OrderBy.First Membership.sortKey (ids.tenancies u) m ∧
      ids.login u pick = .ok ⟨u, m.tenantId, (findBy User.id u ids.users).bind User.email⟩ := by
  obtain ⟨m₀, hm₀⟩ := exists_firstRow hn
  have hlt := Nat.mod_lt pick (List.length_pos_of_mem hm₀)
  exact ⟨_, mem_firstRows.1 (List.getElem_mem hlt), login_of_getElem (List.getElem?_eq_getElem hlt)⟩

/-- Each of these rows is the choice of some call. -/
private theorem exists_login_of_first {m : Membership} (hm : OrderBy.First Membership.sortKey (ids.tenancies u) m) :
    ∃ pick, ids.login u pick = .ok ⟨u, m.tenantId, (findBy User.id u ids.users).bind User.email⟩ := by
  obtain ⟨pick, hlt, rfl⟩ := List.getElem_of_mem (mem_firstRows.2 hm)
  refine ⟨pick, login_of_getElem ?_⟩
  rw [Nat.mod_eq_of_lt hlt]
  exact List.getElem?_eq_getElem hlt

end IdentityTables

/-! ### Logins one after the other -/

/-- A call of `map_identity`, with the choice of its `LIMIT 1`, or any other transaction, with the database it leaves.
-/
inductive LoginStep where
  | mapIdentity (now : Int) (call : MapIdentityCall) (pick : Nat)
  | other (db : Database)

def loginMachine : Machine Database LoginStep where
  step db
    | .mapIdentity now call pick => some (db.mapIdentity now call pick).1
    | .other db' => some db'

namespace LoginStep

/-- The step changes neither the tenants nor the memberships. -/
def KeepsTenancies (db : Database) (a : LoginStep) : Prop :=
  ∀ db', loginMachine.step db a = some db' → db.SameTenancies db'.toIdentityTables

/-- If the step is a login of the user, then it is one to the tenant. -/
def LandsIn (userId tenantId : Uuid) (db : Database) (a : LoginStep) : Prop :=
  ∀ now call pick, a = .mapIdentity now call pick → db.userOf call = some userId →
    ∃ email, (db.mapIdentity now call pick).2 = .ok (.ok ⟨userId, tenantId, email⟩)

end LoginStep

namespace Database

variable {db : Database} {u t : Uuid}

/-- A call for a mapped identity writes nothing. -/
private theorem mapIdentity_of_userOf {call : MapIdentityCall} (h : db.userOf call = some u) (now : Int)
    (pick : Nat) :
    db.mapIdentity now call pick = (db, .ok (db.login u pick)) := by
  have hids : db.toIdentityTables.mapIdentity now call pick = .ok (db.toIdentityTables, db.login u pick) := by
    unfold IdentityTables.mapIdentity
    rw [h]
  unfold mapIdentity
  split
  · rename_i hok
    cases hids.symm.trans hok
  · rename_i hok
    cases hids.symm.trans hok
    rfl

/-- Every stored identity is what some call asks for. -/
private theorem exists_call_of_mem {i : Identity} (hi : i ∈ db.identities) :
    ∃ call, db.userOf call = some i.userId := by
  refine ⟨⟨i.provider, i.subject, none, false, 0, 0⟩, ?_⟩
  have hfind : findBy Identity.key i.key db.identities = some i := db.identities_pkey.findBy_of_mem hi
  exact congrArg (Option.map Identity.userId) hfind

/-- The tenant is settled exactly when all logins of the user land in it, as long as tenants and memberships stay. -/
private theorem settled_iff_logins {i : Identity} (hi : i ∈ db.identities) (hn : db.tenancies i.userId ≠ []) :
    (∀ steps, loginMachine.Along LoginStep.KeepsTenancies db steps →
      loginMachine.Along (LoginStep.LandsIn i.userId t) db steps) ↔ db.Settled i.userId t := by
  constructor
  · intro h m hm
    obtain ⟨call, hcall⟩ := exists_call_of_mem hi
    obtain ⟨pick, hpick⟩ := IdentityTables.exists_login_of_first hm
    have hlogin := mapIdentity_of_userOf hcall 0 pick
    have hkeeps : LoginStep.KeepsTenancies db (.mapIdentity 0 call pick) := by
      rintro db' hstep
      cases hstep
      rw [hlogin]
      exact .refl _
    obtain ⟨email, hland⟩ := (h [.mapIdentity 0 call pick] ⟨hkeeps, fun _ _ => trivial⟩).1 0 call pick rfl hcall
    rw [hlogin, hpick] at hland
    cases hland
    rfl
  · intro hs steps hkeeps
    refine hkeeps.of_invariant (P := fun db' => db.SameTenancies db'.toIdentityTables) ?_ ?_ (.refl _)
    · exact fun db₁ a db₂ hsame hkeep hstep => hsame.trans (hkeep db₂ hstep)
    · rintro db' a hsame - now call pick rfl hcall
      have hn' : db'.tenancies i.userId ≠ [] := by
        obtain ⟨m, hm⟩ := List.exists_mem_of_ne_nil _ hn
        exact List.ne_nil_of_mem ((hsame.mem_iff m).2 hm)
      obtain ⟨m, hm, hlogin⟩ := IdentityTables.exists_first_of_login hn' pick
      rw [mapIdentity_of_userOf hcall, hlogin, hs.congr hsame.mem_iff m hm]
      exact ⟨_, rfl⟩

end Database

/-! ### Logins among other calls -/

/-- What a call has found for the user, in the phases that know a tenant. -/
def MapTxn.Landed (userId tenantId : Uuid) (x : MapTxn) : Prop :=
  match x.phase with
  | .readingEmail u t => u = userId → t = tenantId
  | .returned (.ok data) | .committed (.ok data) => data.userId = userId → data.tenantId = tenantId
  | _ => True

/-- Tenants and memberships are only added, and none of a user that was there before. -/
structure TenancyInv (ids : IdentityTables) (userId tenantId : Uuid) (s : MapState) : Prop where
  login : LoginInv ids s
  tenants_kept : ids.tenants ⊆ s.db.tenants.rows
  memberships_kept : ids.memberships ⊆ s.db.memberships.rows
  memberships_new : ∀ m ∈ s.db.memberships.rows, m ∈ ids.memberships ∨ m.userId ∉ ids.users.map User.id
  landed : ∀ tid x, s.txns tid = some x → x.Landed userId tenantId

namespace TenancyInv

variable {ids : IdentityTables} {u t : Uuid} {s : MapState} {tid : Tid} {x : MapTxn} {r : IdentityStores × MapPhase}

private theorem init (ids : IdentityTables) (u t : Uuid) (clock : Int) : TenancyInv ids u t (.init ids clock) where
  login := .init ids clock
  tenants_kept := by simp [MapState.init, IdentityStores.ofTables]
  memberships_kept := by simp [MapState.init, IdentityStores.ofTables]
  memberships_new m hm := Or.inl (by simpa [MapState.init, IdentityStores.ofTables] using hm)
  landed tid x hx := by cases hx

/-- The lookup of a call finds the rows of a user that was there before unchanged. -/
private theorem mem_seen (h : TenancyInv ids u t s) (hu : u ∈ ids.users.map User.id) (hx : s.txns tid = some x)
    (hi : x.phase.inserts = 0) (m : Membership) :
    m ∈ loginRows (s.db.memberships.seenBy tid) (s.db.tenants.seenBy tid) u ↔ m ∈ ids.tenancies u := by
  have hnone : ∀ {ρ : Type} (n : Nat) (row : MapTxn → ρ), heldRow n row s.txns tid = none := by
    intro ρ n row
    rw [heldRow_eq hx, if_neg (by omega)]
  rw [h.login.holds.memberships.seenBy_eq_rows (hnone 3 _), h.login.holds.tenants.seenBy_eq_rows (hnone 2 _)]
  unfold IdentityTables.tenancies
  rw [IdentityTables.mem_loginRows, IdentityTables.mem_loginRows]
  constructor
  · rintro ⟨hm, rfl, hstatus, r, hr, hid, hactive⟩
    have hm := (h.memberships_new m hm).resolve_right (not_not.2 hu)
    -- the tenant of the membership was there before, too
    obtain ⟨r', hr', hid'⟩ := List.mem_map.1 (ids.memberships_tenant_fkey m hm)
    obtain rfl := h.login.holds.tenants.keyed.rows_eq hr (h.tenants_kept hr') (hid.trans hid'.symm)
    exact ⟨hm, rfl, hstatus, r, hr', hid, hactive⟩
  · rintro ⟨hm, hmu, hstatus, r, hr, hid, hactive⟩
    exact ⟨h.memberships_kept hm, hmu, hstatus, r, h.tenants_kept hr, hid, hactive⟩

/-- A statement leaves its call with the tenant it had found, or with the settled one. -/
private theorem landed_statement (h : TenancyInv ids u t s) (hs : ids.Settled u t) (hu : u ∈ ids.users.map User.id)
    (hx : s.txns tid = some x) (hst : MapStatement s.db tid x r) : MapTxn.Landed u t { x with phase := r.2 } := by
  have hold := h.landed tid x hx
  unfold MapTxn.Landed at hold
  cases hst with
  | commitsProvisioned hp =>
    have hnew : x.call.userId ∉ ids.users.map User.id := h.login.user_new hx (by rw [hp]; decide)
    rintro rfl
    exact absurd hu hnew
  | @chooses u' m hp hm =>
    rintro rfl
    have hmem := h.mem_seen hu hx (by rw [hp]; rfl)
    exact hs m ((OrderBy.first_congr hmem).1 (mem_firstRows.1 hm))
  | readsEmail hp =>
    rw [hp] at hold
    exact hold
  | @commits reply hp =>
    rw [hp] at hold
    cases reply with
    | error e => trivial
    | ok data => exact hold
  | _ => trivial

private theorem statement (h : TenancyInv ids u t s) (hs : ids.Settled u t) (hu : u ∈ ids.users.map User.id)
    (hx : s.txns tid = some x) (hst : MapStatement s.db tid x r) : TenancyInv ids u t (s.apply tid x r) := by
  have hlogin := h.login.statement hx hst
  have hlanded : ∀ tid' y, (s.apply tid x r).txns tid' = some y → y.Landed u t := by
    intro tid' y hy
    rw [MapState.apply_txns] at hy
    by_cases ht : tid' = tid
    · subst ht
      rw [Function.update_self] at hy
      cases hy
      exact h.landed_statement hs hu hx hst
    · rw [Function.update_of_ne ht] at hy
      exact h.landed tid' y hy
  rcases hst.rows_cases with ⟨-, -, htenants, hmemberships⟩ | hcommit
  · refine ⟨hlogin, ?_, ?_, ?_, hlanded⟩ <;> simp only [MapState.apply_db, htenants, hmemberships]
    · exact h.tenants_kept
    · exact h.memberships_kept
    · exact h.memberships_new
  · -- the rows of the call are added
    have htenants : ∀ a, a ∈ (s.apply tid x r).db.tenants.rows ↔
        a ∈ s.db.tenants.rows ∨ heldRow 2 MapTxn.tenant s.txns tid = some a := by
      intro a
      rw [MapState.apply_db, hcommit]
      exact (h.login.holds.tenants.rows_commit tid).mem_iff.trans (by rw [List.mem_append, Option.mem_toList])
    have hmemberships : ∀ m, m ∈ (s.apply tid x r).db.memberships.rows ↔
        m ∈ s.db.memberships.rows ∨ heldRow 3 MapTxn.membership s.txns tid = some m := by
      intro m
      rw [MapState.apply_db, hcommit]
      exact (h.login.holds.memberships.rows_commit tid).mem_iff.trans (by rw [List.mem_append, Option.mem_toList])
    refine ⟨hlogin, fun a ha => (htenants a).2 (Or.inl (h.tenants_kept ha)),
      fun m hm => (hmemberships m).2 (Or.inl (h.memberships_kept hm)), fun m hm => ?_, hlanded⟩
    rcases (hmemberships m).1 hm with hm | hm
    · exact h.memberships_new m hm
    · obtain ⟨y, hy, hn, rfl⟩ := heldRow_some hm
      exact Or.inr (h.login.user_new hy (by omega))

private theorem step {s' : MapState} {a : MapAction} (h : TenancyInv ids u t s) (hs : ids.Settled u t)
    (hu : u ∈ ids.users.map User.id) (hst : mapMachine.step s a = some s') : TenancyInv ids u t s' := by
  have hlogin := h.login.step hst
  rcases mapMachine_step hst with ⟨d, -, rfl⟩ | ⟨tid, call, -, hn, rfl⟩ | ⟨tid, x, r, hx, hstatement, rfl⟩
  · exact ⟨hlogin, h.tenants_kept, h.memberships_kept, h.memberships_new, h.landed⟩
  · refine ⟨hlogin, h.tenants_kept, h.memberships_kept, h.memberships_new, fun tid' y hy => ?_⟩
    rw [MapState.put_txns] at hy
    by_cases ht : tid' = tid
    · subst ht
      rw [Function.update_self] at hy
      cases hy
      trivial
    · rw [Function.update_of_ne ht] at hy
      exact h.landed tid' y hy
  · exact h.statement hs hu hx hstatement

private theorem of_run {clock : Int} {as : List MapAction} (hs : ids.Settled u t) (hu : u ∈ ids.users.map User.id)
    (hrun : mapMachine.run (.init ids clock) as = some s) : TenancyInv ids u t s :=
  Machine.run_induction (P := TenancyInv ids u t) (fun _ _ _ h hst => h.step hs hu hst) hrun (init ids u t clock)

end TenancyInv

/-- The tenant is settled exactly when all logins of the user land in it, whatever calls run at the same time. -/
private theorem Database.settled_iff_runs {db : Database} {t : Uuid} {i : Identity} (hi : i ∈ db.identities) :
    (∀ clock as s tid x data, mapMachine.run (.init db.toIdentityTables clock) as = some s → s.txns tid = some x →
      x.phase = .committed (.ok data) → data.userId = i.userId → data.tenantId = t) ↔ db.Settled i.userId t := by
  constructor
  · intro h m hm
    obtain ⟨call, hcall⟩ := exists_call_of_mem hi
    obtain ⟨pick, hpick⟩ := IdentityTables.exists_login_of_first hm
    have hmap := mapIdentity_of_userOf hcall 0 pick
    rw [hpick] at hmap
    obtain ⟨as, s, x, hrun, hx, -, hp, -⟩ := mapIdentity_run hmap
    exact h 0 as s 0 x _ hrun hx hp rfl
  · intro hs clock as s tid x data hrun hx hp
    have hland := (TenancyInv.of_run hs (db.identities_user_fkey i hi) hrun).landed tid x hx
    unfold MapTxn.Landed at hland
    rwa [hp] at hland

/-! ### When the tenant is settled -/

/-- For a mapped identity whose user has an active membership in an active tenant: one row is first in the `ORDER BY`;
every order of the rows, over every physical order of the tables, starts with the same tenant; all logins land in one
tenant as long as tenants and memberships stay; and all logins among calls of `map_identity` do. Each of these holds
exactly when one membership leads the order. -/
theorem login_tenant_settled_iff (db : Database) (i : Identity) (hi : i ∈ db.identities)
    (hactive : ∃ t, db.activeMember i.userId t ∧ db.activeTenant t) :
    ((∃! m, m ∈ firstRows (loginRows db.memberships db.tenants i.userId)) ↔ db.OneLeads i.userId) ∧
    ((∃ t, ∀ ids out, db.SameTenancies ids →
        OrderBy.Sorts Membership.sortKey (loginRows ids.memberships ids.tenants i.userId) out →
          out.head?.map Membership.tenantId = some t) ↔ db.OneLeads i.userId) ∧
    ((∃ t, ∀ steps, loginMachine.Along LoginStep.KeepsTenancies db steps →
        loginMachine.Along (LoginStep.LandsIn i.userId t) db steps) ↔ db.OneLeads i.userId) ∧
    ((∃ t, ∀ clock as s tid x data, mapMachine.run (.init db.toIdentityTables clock) as = some s →
        s.txns tid = some x → x.phase = .committed (.ok data) → data.userId = i.userId → data.tenantId = t) ↔
      db.OneLeads i.userId) := by
  have hn := IdentityTables.tenancies_ne_nil hactive
  refine ⟨?_, ?_, ?_, ?_⟩
  · simp only [mem_firstRows]
    exact (OrderBy.existsUnique_first_iff hn).trans IdentityTables.oneLeads_iff.symm
  · exact (exists_congr fun _ => IdentityTables.settled_iff_sorts hn).trans (IdentityTables.exists_settled_iff hn)
  · exact (exists_congr fun _ => Database.settled_iff_logins hi hn).trans (IdentityTables.exists_settled_iff hn)
  · exact (exists_congr fun _ => Database.settled_iff_runs hi).trans (IdentityTables.exists_settled_iff hn)

/-- A user in two tenants; `second` is the default, too, or not. -/
def twoTenancies (second : Bool) : IdentityTables where
  tenants := [⟨1, "acme", .active, 0⟩, ⟨2, "globex", .active, 0⟩]
  users := [⟨1, some "bob@example.com", .active, 0⟩]
  identities := [⟨"supabase", "sub", 1, some "bob@example.com", 0⟩]
  memberships := [⟨1, 1, .active, true, 0⟩, ⟨1, 2, .active, second, 0⟩]
  tenants_pkey := by decide
  users_pkey := by decide
  identities_pkey := by decide
  memberships_pkey := by cases second <;> decide
  identities_user_fkey := by decide
  memberships_user_fkey := by cases second <;> decide
  memberships_tenant_fkey := by cases second <;> decide

/-- One of the two is the default. -/
theorem login_tenant_settled_iff_default :
    ∃! m, m ∈ firstRows (loginRows (twoTenancies false).memberships (twoTenancies false).tenants 1) :=
  (login_tenant_settled_iff (.empty (twoTenancies false)) ⟨"supabase", "sub", 1, some "bob@example.com", 0⟩
    (by decide) ⟨1, by decide⟩).1.2 (by decide)

/-- Both are the default, since the same time: the user may log in to either. -/
theorem two_defaults_tie :
    (∃ t, (twoTenancies true).activeMember 1 t ∧ (twoTenancies true).activeTenant t) ∧
      (¬ ∃! m, m ∈ firstRows (loginRows (twoTenancies true).memberships (twoTenancies true).tenants 1)) ∧
      ((Database.empty (twoTenancies true)).mapIdentity 0 ⟨"supabase", "sub", none, false, 0, 0⟩ 0).2 =
        .ok (.ok ⟨1, 1, some "bob@example.com"⟩) ∧
      ((Database.empty (twoTenancies true)).mapIdentity 0 ⟨"supabase", "sub", none, false, 0, 0⟩ 1).2 =
        .ok (.ok ⟨1, 2, some "bob@example.com"⟩) := by
  refine ⟨⟨1, by decide⟩, ?_, rfl, rfl⟩
  intro h
  have heq : (⟨1, 1, .active, true, 0⟩ : Membership) = ⟨1, 2, .active, true, 0⟩ := h.unique (by decide) (by decide)
  cases heq

end CleanBackend
