import CleanBackend.Database.IdentityFunction
import CleanBackend.Database.ProvisioningRace

/-!
# Who a login admits

`map_identity` and then `create_user_session`, as the callback route calls them.  The second function checks the
tenant and the membership whatever the first has returned, and neither reads `users.status`: a login admits an active
user exactly when the identity was not mapped to a disabled one (`login_admission`).

A call of `map_identity` that meets no other transaction is a run of `mapMachine` (`IdentityTables.mapIdentity_run`),
so what is shown of every run (`LoginInv`), the lost race included, holds of it.
-/

namespace CleanBackend

/-! ### Admission -/

def IdentityTables.activeUser (ids : IdentityTables) (userId : Uuid) : Bool :=
  ids.users.any fun u => u.id == userId && u.status == .active

structure IdentityTables.Admits (ids : IdentityTables) (userId tenantId : Uuid) : Prop where
  user : ids.activeUser userId
  tenant : ids.activeTenant tenantId
  membership : ids.activeMember userId tenantId

private theorem IdentityTables.activeUser_iff {ids : IdentityTables} {u : Uuid} :
    ids.activeUser u ↔ ∃ r ∈ ids.users, r.id = u ∧ r.status = .active := by
  simp [activeUser]

/-- What `create_user_session` checks, and what it leaves alone. -/
private theorem Database.createUserSession_checks {db db' : Database} {now : Int} {id : Uuid} {a : CreateArgs}
    {d : CreatedSession} (h : db.createUserSession now id a = .ok (db', .ok d)) :
    db'.toIdentityTables = db.toIdentityTables ∧ db.activeTenant a.tenantId ∧ db.activeMember a.userId a.tenantId ∧
      a.userId ∈ db.users.map User.id := by
  have hi := (createUserSession_ok h).1
  have hids := (insertSession_ok hi).2.1
  have huser : a.userId ∈ db'.users.map User.id := by
    refine db'.sessions_user_fkey (a.row id now) ?_
    rw [(insertSession_ok hi).1]
    exact List.mem_append_right _ (List.mem_singleton_self _)
  rw [hids] at huser
  unfold createUserSession at h
  by_cases ht : db.activeTenant a.tenantId
  · by_cases hm : db.activeMember a.userId a.tenantId
    · exact ⟨hids, ht, hm, huser⟩
    · simp [ht, hm] at h
  · simp [ht] at h

/-- The tenant and the membership of a new session are active, so only the user is in question. -/
private theorem Database.admits_iff {db db' : Database} {now : Int} {id : Uuid} {a : CreateArgs} {d : CreatedSession}
    (h : db.createUserSession now id a = .ok (db', .ok d)) :
    db'.Admits a.userId a.tenantId ↔ db.activeUser a.userId := by
  obtain ⟨hids, htenant, hmember, -⟩ := createUserSession_checks h
  rw [hids]
  exact ⟨fun hadmits => hadmits.user, fun huser => ⟨huser, htenant, hmember⟩⟩

/-! ### The user a call reaches -/

/-- The user mapped in `ids`, or a new one where `ids` maps none. -/
def IdentityTables.Reaches (ids : IdentityTables) (call : MapIdentityCall) (u : Uuid) : Prop :=
  ids.userOf call = some u ∨ (ids.userOf call = none ∧ u ∉ ids.users.map User.id)

/-- What a call has found, in the phases that know a user. -/
def MapTxn.Reached (ids : IdentityTables) (x : MapTxn) : Prop :=
  match x.phase with
  | .choosingTenant u | .readingEmail u _ => ids.Reaches x.call u
  | .returned (.ok data) | .committed (.ok data) => ids.Reaches x.call data.userId
  | _ => True

/-- Rows are only added, new users are active, and new identities are those of new users. -/
structure LoginInv (ids : IdentityTables) (s : MapState) : Prop where
  holds : s.db.Holds s.txns
  users_kept : ids.users ⊆ s.db.users.rows
  users_new : ∀ r ∈ s.db.users.rows, r ∈ ids.users ∨ r.status = .active
  identities_kept : ids.identities ⊆ s.db.identities.rows
  identities_new : ∀ i ∈ s.db.identities.rows, i ∈ ids.identities ∨ i.userId ∉ ids.users.map User.id
  reached : ∀ t x, s.txns t = some x → x.Reached ids

/-- Only a commit changes the committed rows. -/
theorem MapStatement.rows_cases {db : IdentityStores} {tid : Tid} {x : MapTxn} {r : IdentityStores × MapPhase}
    (h : MapStatement db tid x r) :
    (r.1.users.rows = db.users.rows ∧ r.1.identities.rows = db.identities.rows ∧ r.1.tenants.rows = db.tenants.rows ∧
      r.1.memberships.rows = db.memberships.rows) ∨ r.1 = db.commit tid := by
  cases h with
  | commitsProvisioned | commits => exact Or.inr rfl
  | _ => exact Or.inl (by simp [IdentityStores.abort])

namespace LoginInv

variable {ids : IdentityTables} {s : MapState} {tid : Tid} {x : MapTxn} {r : IdentityStores × MapPhase}

theorem init (ids : IdentityTables) (clock : Int) : LoginInv ids (.init ids clock) where
  holds := .init ids
  users_kept := by simp [MapState.init, IdentityStores.ofTables]
  users_new r hr := Or.inl (by simpa [MapState.init, IdentityStores.ofTables] using hr)
  identities_kept := by simp [MapState.init, IdentityStores.ofTables]
  identities_new i hi := Or.inl (by simpa [MapState.init, IdentityStores.ofTables] using hi)
  reached t x hx := by cases hx

/-- The user row a call has inserted is under a new id. -/
theorem user_new (h : LoginInv ids s) (hx : s.txns tid = some x) (hi : 0 < x.phase.inserts) :
    x.call.userId ∉ ids.users.map User.id := by
  intro hm
  obtain ⟨u, hu, he⟩ := List.mem_map.1 hm
  have hheld : heldRow 0 MapTxn.user s.txns tid = some x.user := by rw [heldRow_eq hx, if_pos hi]
  exact h.holds.users.key_ne hheld (h.users_kept hu) he

/-- The identity it has inserted was not mapped. -/
private theorem identity_new (h : LoginInv ids s) (hx : s.txns tid = some x) (hi : 1 < x.phase.inserts) :
    ids.userOf x.call = none := by
  have hheld : heldRow 1 MapTxn.identity s.txns tid = some x.identity := by rw [heldRow_eq hx, if_pos hi]
  have hnone : findBy Identity.key (x.call.provider, x.call.subject) ids.identities = none :=
    findBy_eq_none.2 fun i hi => h.holds.identities.key_ne hheld (h.identities_kept hi)
  rw [IdentityTables.userOf, hnone]
  rfl

/-- What the lookup finds. -/
private theorem lookup_reaches (h : LoginInv ids s) (hx : s.txns tid = some x) (hi : x.phase.inserts = 0) {u : Uuid}
    (hu : x.lookup s.db tid = some u) : ids.Reaches x.call u := by
  have hnone : heldRow 1 MapTxn.identity s.txns tid = none := by rw [heldRow_eq hx, if_neg (by omega)]
  unfold MapTxn.lookup at hu
  rw [h.holds.identities.seenBy_eq_rows hnone] at hu
  obtain ⟨i, hf, rfl⟩ := Option.map_eq_some_iff.1 hu
  obtain ⟨hi, hkey⟩ := findBy_some hf
  cases hids : findBy Identity.key (x.call.provider, x.call.subject) ids.identities with
  | none =>
    refine Or.inr ⟨by rw [IdentityTables.userOf, hids]; rfl, ?_⟩
    exact (h.identities_new i hi).resolve_left fun hm => findBy_eq_none.1 hids i hm hkey
  | some i' =>
    obtain ⟨hi', hkey'⟩ := findBy_some hids
    obtain rfl := h.holds.identities.keyed.rows_eq hi (h.identities_kept hi') (hkey.trans hkey'.symm)
    exact Or.inl (by rw [IdentityTables.userOf, hids]; rfl)

/-- A statement leaves its call with what it had found, or with what it finds. -/
private theorem reached_statement (h : LoginInv ids s) (hx : s.txns tid = some x) (hs : MapStatement s.db tid x r) :
    MapTxn.Reached ids { x with phase := r.2 } := by
  have hold := h.reached tid x hx
  unfold MapTxn.Reached at hold
  cases hs with
  | finds hp hi =>
    refine h.lookup_reaches hx ?_ hi
    rcases hp with hp | ⟨e, hp⟩ <;> rw [hp] <;> rfl
  | commitsProvisioned hp =>
    have hidentity : ids.userOf x.call = none := h.identity_new hx (by rw [hp]; decide)
    have huser : x.call.userId ∉ ids.users.map User.id := h.user_new hx (by rw [hp]; decide)
    exact Or.inr ⟨hidentity, huser⟩
  | chooses hp hm =>
    rw [hp] at hold
    exact hold
  | readsEmail hp =>
    rw [hp] at hold
    exact hold
  | @commits reply hp =>
    rw [hp] at hold
    cases reply with
    | error e => trivial
    | ok data => exact hold
  | _ => trivial

theorem statement (h : LoginInv ids s) (hx : s.txns tid = some x) (hs : MapStatement s.db tid x r) :
    LoginInv ids (s.apply tid x r) := by
  have hholds := h.holds.step hx hs
  have hreached : ∀ t y, (s.apply tid x r).txns t = some y → y.Reached ids := by
    intro t y hy
    rw [MapState.apply_txns] at hy
    by_cases ht : t = tid
    · subst ht
      rw [Function.update_self] at hy
      cases hy
      exact h.reached_statement hx hs
    · rw [Function.update_of_ne ht] at hy
      exact h.reached t y hy
  rcases hs.rows_cases with ⟨husers, hidentities, -, -⟩ | hcommit
  · refine ⟨hholds, ?_, ?_, ?_, ?_, hreached⟩ <;> simp only [MapState.apply_db, husers, hidentities]
    · exact h.users_kept
    · exact h.users_new
    · exact h.identities_kept
    · exact h.identities_new
  · -- the rows of the call are added
    have husers : ∀ u, u ∈ (s.apply tid x r).db.users.rows ↔
        u ∈ s.db.users.rows ∨ heldRow 0 MapTxn.user s.txns tid = some u := by
      intro u
      rw [MapState.apply_db, hcommit]
      exact (h.holds.users.rows_commit tid).mem_iff.trans (by rw [List.mem_append, Option.mem_toList])
    have hidentities : ∀ i, i ∈ (s.apply tid x r).db.identities.rows ↔
        i ∈ s.db.identities.rows ∨ heldRow 1 MapTxn.identity s.txns tid = some i := by
      intro i
      rw [MapState.apply_db, hcommit]
      exact (h.holds.identities.rows_commit tid).mem_iff.trans (by rw [List.mem_append, Option.mem_toList])
    refine ⟨hholds, fun u hu => (husers u).2 (Or.inl (h.users_kept hu)), fun u hu => ?_,
      fun i hi => (hidentities i).2 (Or.inl (h.identities_kept hi)), fun i hi => ?_, hreached⟩
    · rcases (husers u).1 hu with hu | hu
      · exact h.users_new u hu
      · obtain ⟨y, -, -, rfl⟩ := heldRow_some hu
        exact Or.inr rfl
    · rcases (hidentities i).1 hi with hi | hi
      · exact h.identities_new i hi
      · obtain ⟨y, hy, hn, rfl⟩ := heldRow_some hi
        exact Or.inr (h.user_new hy (by omega))

theorem step {s' : MapState} {a : MapAction} (h : LoginInv ids s) (hst : mapMachine.step s a = some s') :
    LoginInv ids s' := by
  rcases mapMachine_step hst with ⟨d, -, rfl⟩ | ⟨tid, call, -, hn, rfl⟩ | ⟨tid, x, r, hx, hs, rfl⟩
  · exact ⟨h.holds, h.users_kept, h.users_new, h.identities_kept, h.identities_new, h.reached⟩
  · refine ⟨h.holds.start hn _ _, h.users_kept, h.users_new, h.identities_kept, h.identities_new, fun t y hy => ?_⟩
    rw [MapState.put_txns] at hy
    by_cases ht : t = tid
    · subst ht
      rw [Function.update_self] at hy
      cases hy
      trivial
    · rw [Function.update_of_ne ht] at hy
      exact h.reached t y hy
  · exact h.statement hx hs

private theorem of_run {clock : Int} {as : List MapAction} (hrun : mapMachine.run (.init ids clock) as = some s) :
    LoginInv ids s :=
  Machine.run_induction (P := LoginInv ids) (fun _ _ _ h hst => h.step hst) hrun (init ids clock)

end LoginInv

/-- `ids` are the committed rows. -/
structure MapState.Shows (s : MapState) (ids : IdentityTables) : Prop where
  users : ids.users.Perm s.db.users.rows
  identities : ids.identities.Perm s.db.identities.rows
  tenants : ids.tenants.Perm s.db.tenants.rows
  memberships : ids.memberships.Perm s.db.memberships.rows

/-- The user a call has reached is active afterwards, exactly when the identity was not mapped to a disabled one. -/
private theorem LoginInv.activeUser_iff {ids ids' : IdentityTables} {s : MapState} (h : LoginInv ids s)
    (hs : s.Shows ids') {call : MapIdentityCall} {u : Uuid} (hr : ids.Reaches call u)
    (hu : u ∈ ids'.users.map User.id) :
    ids'.activeUser u ↔ ∀ v, ids.userOf call = some v → ids.activeUser v := by
  rcases hr with hmapped | ⟨hnone, hnew⟩
  · have hsame : ids'.activeUser u ↔ ids.activeUser u := by
      rw [IdentityTables.activeUser_iff, IdentityTables.activeUser_iff]
      constructor
      · rintro ⟨r, hr, hid, hactive⟩
        -- the row of the user in `ids`
        obtain ⟨i, hi, rfl⟩ := Option.map_eq_some_iff.1 hmapped
        obtain ⟨r', hr', hid'⟩ := List.mem_map.1 (ids.identities_user_fkey i (findBy_some hi).1)
        obtain rfl := h.holds.users.keyed.rows_eq (hs.users.mem_iff.1 hr) (h.users_kept hr') (hid.trans hid'.symm)
        exact ⟨r, hr', hid, hactive⟩
      · rintro ⟨r, hr, hid, hactive⟩
        exact ⟨r, hs.users.mem_iff.2 (h.users_kept hr), hid, hactive⟩
    rw [hsame]
    constructor
    · intro hactive v hv
      cases hmapped.symm.trans hv
      exact hactive
    · exact fun hall => hall u hmapped
  · have hactive : ids'.activeUser u := by
      obtain ⟨r, hr, rfl⟩ := List.mem_map.1 hu
      have hnot : r ∉ ids.users := fun hm => hnew (List.mem_map_of_mem hm)
      exact IdentityTables.activeUser_iff.2
        ⟨r, hr, rfl, (h.users_new r (hs.users.mem_iff.1 hr)).resolve_left hnot⟩
    refine ⟨fun _ v hv => ?_, fun _ => hactive⟩
    rw [hnone] at hv
    cases hv

/-! ### One call is a run -/

/-! #### Tables only one transaction writes to -/

section OneWriter

variable {ρ κ : Type} [DecidableEq κ] {key : ρ → κ} {l : List ρ} {row : ρ} (t : Tid)

private theorem Store.seenBy_ofRows (l : List ρ) (t : Tid) : (Store.ofRows l : Store Tid ρ).seenBy t = l := by
  simp [Store.seenBy, Store.ofRows, List.filterMap_map, Function.comp_def, Slot.seenBy]

private theorem Store.seenBy_insert (l : List ρ) (row : ρ) (t : Tid) :
    ((Store.ofRows l : Store Tid ρ).insert t row).seenBy t = l ++ [row] := by
  have h := Store.seenBy_ofRows l t
  unfold Store.seenBy at h ⊢
  simp [Store.insert, h, Slot.seenBy]

private theorem Store.rows_commit_ofRows (l : List ρ) (t : Tid) :
    ((Store.ofRows l : Store Tid ρ).commit t).rows = l := by
  simp [Store.rows, Store.commit, Store.ofRows, List.filterMap_map, Function.comp_def, Slot.commit, Slot.committed]

private theorem Store.rows_commit_insert (l : List ρ) (row : ρ) (t : Tid) :
    (((Store.ofRows l : Store Tid ρ).insert t row).commit t).rows = l ++ [row] := by
  have h := Store.rows_commit_ofRows l t
  unfold Store.rows Store.commit at h ⊢
  simp [Store.insert, h, Slot.commit, Slot.committed]

private theorem Store.tryInsert_ofRows {fkeys : Option SqlError} (hk : key row ∉ l.map key) (hf : fkeys = none)
    (pkey : String) :
    (Store.ofRows l : Store Tid ρ).tryInsert key pkey t row fkeys =
      .done ((Store.ofRows l : Store Tid ρ).insert t row) := by
  have hclash : (Store.ofRows l : Store Tid ρ).clash key t (key row) = .none := by
    unfold Store.clash
    rw [findBy_eq_none.2]
    intro y hy he
    obtain ⟨r, hr, rfl⟩ := List.mem_map.1 hy
    exact hk (he ▸ List.mem_map_of_mem hr)
  simp only [Store.tryInsert, hclash, hf]

end OneWriter

/-! #### The run -/

section OneCall

variable {ids ids' : IdentityTables} {now : Int} {call : MapIdentityCall} {pick : Nat} {reply : MapReply}
  {s : MapState} {x : MapTxn} {r : IdentityStores × MapPhase}

/-- From `s` on, `call` of the transaction `0` can complete with `reply` over the rows `ids'`. -/
def MapState.Completes (s : MapState) (call : MapIdentityCall) (reply : MapReply) (ids' : IdentityTables) : Prop :=
  ∃ as t x, mapMachine.run s as = some t ∧ t.txns 0 = some x ∧ x.call = call ∧
    x.phase = .committed reply ∧ t.Shows ids'

private theorem MapState.Completes.of_step {s' : MapState} {a : MapAction} (h : s'.Completes call reply ids')
    (hst : mapMachine.step s a = some s') : s.Completes call reply ids' := by
  obtain ⟨as, t, x, hrun, hrest⟩ := h
  exact ⟨a :: as, t, x, Machine.run_cons.2 ⟨s', hst, hrun⟩, hrest⟩

private theorem MapState.Completes.exec (hx : s.txns 0 = some x) (hn : x.next s.db 0 = some r)
    (h : (s.apply 0 x r).Completes call reply ids') : s.Completes call reply ids' :=
  h.of_step (a := .exec 0) (by simp [mapMachine, hx, hn])

/-- The last statement of a call that has inserted nothing. -/
private theorem MapState.Completes.commit (hx : s.txns 0 = some x) (hc : x.call = call)
    (hp : x.phase = .returned reply)
    (hdb : s.db = .ofTables ids) : s.Completes call reply ids := by
  have hn : x.next s.db 0 = some (s.db.commit 0, .committed reply) := by simp [MapTxn.next, hp]
  refine .exec hx hn ⟨[], _, { x with phase := .committed reply }, rfl, by simp, hc, rfl, ?_⟩
  rw [hdb]
  constructor <;> simp [IdentityStores.commit, IdentityStores.ofTables, Store.rows_commit_ofRows]

/-- From the tenant lookup on. -/
private theorem MapState.Completes.login {u : Uuid} (hx : s.txns 0 = some x) (hc : x.call = call)
    (hp : x.phase = .choosingTenant u) (hdb : s.db = .ofTables ids) : s.Completes call (ids.login u pick) ids := by
  have hseen : loginRows (s.db.memberships.seenBy 0) (s.db.tenants.seenBy 0) u =
      loginRows ids.memberships ids.tenants u := by
    rw [hdb]
    exact congrArg₂ (loginRows · · u) (Store.seenBy_ofRows _ _) (Store.seenBy_ofRows _ _)
  unfold IdentityTables.login
  simp only
  cases hpick : (firstRows (loginRows ids.memberships ids.tenants u))[
      pick % (firstRows (loginRows ids.memberships ids.tenants u)).length]? with
  | none =>
    -- no row, no tenant
    have hnil : loginRows ids.memberships ids.tenants u = [] := by
      by_contra hne
      obtain ⟨m, hm⟩ := exists_firstRow hne
      have hlt := Nat.mod_lt pick (List.length_pos_of_mem hm)
      exact absurd (List.getElem?_eq_none_iff.1 hpick) (by omega)
    have hn : x.next s.db 0 = some (s.db, .returned (.error .noActiveTenant)) := by
      simp [MapTxn.next, hp, hseen, hnil]
    exact .exec hx hn (.commit (x := { x with phase := .returned (.error .noActiveTenant) }) (by simp) hc rfl hdb)
  | some m =>
    have hm := List.mem_of_getElem? hpick
    have hchoose : x.choose s.db 0 m.tenantId = some (s.db, .readingEmail u m.tenantId) := by
      simp only [MapTxn.choose, hp, hseen]
      exact if_pos (List.mem_map_of_mem hm)
    have hst : mapMachine.step s (.choose 0 m.tenantId) = some (s.apply 0 x (s.db, .readingEmail u m.tenantId)) := by
      simp [mapMachine, hx, hchoose]
    refine .of_step ?_ hst
    have husers : s.db.users.seenBy 0 = ids.users := by
      rw [hdb]
      exact Store.seenBy_ofRows _ _
    refine .exec (x := { x with phase := .readingEmail u m.tenantId })
      (r := (s.db, .returned (.ok ⟨u, m.tenantId, (findBy User.id u ids.users).bind User.email⟩))) (by simp)
      (by simp [MapTxn.next, husers]) ?_
    exact .commit (x := { x with phase := .returned (.ok ⟨u, m.tenantId,
      (findBy User.id u ids.users).bind User.email⟩) }) (by simp) hc rfl hdb

/-- The four inserts of a call that meets nobody, and its commit. -/
private theorem MapState.Completes.provision (hx : s.txns 0 = some x) (hp : x.phase = .insertingUser)
    (hdb : s.db = .ofTables ids) (h : ids.provision x = .ok ids') : s.Completes x.call (.ok x.mapped) ids' := by
  obtain ⟨⟨hu, hi, ht, hm⟩, husers, hidentities, htenants, hmemberships⟩ := IdentityTables.provision_ok h
  let users : Store Tid User := (Store.ofRows ids.users).insert 0 x.user
  let identities : Store Tid Identity := (Store.ofRows ids.identities).insert 0 x.identity
  let tenants : Store Tid Tenant := (Store.ofRows ids.tenants).insert 0 x.tenant
  let memberships : Store Tid Membership := (Store.ofRows ids.memberships).insert 0 x.membership
  let db₁ : IdentityStores := ⟨users, .ofRows ids.identities, .ofRows ids.tenants, .ofRows ids.memberships⟩
  let db₂ : IdentityStores := ⟨users, identities, .ofRows ids.tenants, .ofRows ids.memberships⟩
  let db₃ : IdentityStores := ⟨users, identities, tenants, .ofRows ids.memberships⟩
  let db₄ : IdentityStores := ⟨users, identities, tenants, memberships⟩
  have huser : x.call.userId ∈ (users.seenBy 0).map User.id := by
    rw [Store.seenBy_insert]
    exact List.mem_map_of_mem (f := User.id) (List.mem_append_right _ (List.mem_singleton_self x.user))
  have htenant : x.call.tenantId ∈ (tenants.seenBy 0).map Tenant.id := by
    rw [Store.seenBy_insert]
    exact List.mem_map_of_mem (f := Tenant.id) (List.mem_append_right _ (List.mem_singleton_self x.tenant))
  -- every insert finds its key free and its references there
  have h₁ : x.next s.db 0 = some (db₁, .insertingIdentity) := by
    have hdone : x.insertUser (.ofTables ids) 0 = .done users := Store.tryInsert_ofRows 0 hu rfl _
    simp only [MapTxn.next, hp, hdb, hdone]
    rfl
  have h₂ : MapTxn.next { x with phase := .insertingIdentity } db₁ 0 = some (db₂, .insertingTenant) := by
    have hdone : x.insertIdentity db₁ 0 = .done identities := Store.tryInsert_ofRows 0 hi (if_pos huser) _
    show MapTxn.afterInsert db₁ 0 _ _ (x.insertIdentity db₁ 0) = _
    rw [hdone]
    rfl
  have h₃ : MapTxn.next { x with phase := .insertingTenant } db₂ 0 = some (db₃, .insertingMembership) := by
    have hdone : x.insertTenant db₂ 0 = .done tenants := Store.tryInsert_ofRows 0 ht rfl _
    show MapTxn.afterInsert db₂ 0 _ _ (x.insertTenant db₂ 0) = _
    rw [hdone]
    rfl
  have h₄ : MapTxn.next { x with phase := .insertingMembership } db₃ 0 = some (db₄, .provisioned) := by
    have hfk : (if x.call.userId ∉ (db₃.users.seenBy 0).map User.id then
          some (SqlError.foreignKeyViolation "memberships_user_id_fkey")
        else if x.call.tenantId ∉ (db₃.tenants.seenBy 0).map Tenant.id then
          some (.foreignKeyViolation "memberships_tenant_id_fkey")
        else none) = none := by
      rw [if_neg (not_not.2 huser), if_neg (not_not.2 htenant)]
    have hdone : x.insertMembership db₃ 0 = .done memberships := Store.tryInsert_ofRows 0 hm hfk _
    show MapTxn.afterInsert db₃ 0 _ _ (x.insertMembership db₃ 0) = _
    rw [hdone]
    rfl
  have h₅ : MapTxn.next { x with phase := .provisioned } db₄ 0 =
      some (db₄.commit 0, .committed (.ok x.mapped)) := rfl
  refine .exec hx h₁ (.exec (by simp) h₂ (.exec (by simp) h₃ (.exec (by simp) h₄ (.exec (by simp) h₅ ?_))))
  refine ⟨[], _, { x with phase := .committed (.ok x.mapped) }, rfl, by simp, rfl, rfl, ?_⟩
  refine ⟨?_, ?_, ?_, ?_⟩
  · rw [husers]
    exact .of_eq (Store.rows_commit_insert _ _ _).symm
  · rw [hidentities]
    exact .of_eq (Store.rows_commit_insert _ _ _).symm
  · rw [htenants]
    exact .of_eq (Store.rows_commit_insert _ _ _).symm
  · rw [hmemberships]
    exact .of_eq (Store.rows_commit_insert _ _ _).symm

/-- `mapIdentity` is what `mapMachine` does with a single call. -/
theorem IdentityTables.mapIdentity_run (h : ids.mapIdentity now call pick = .ok (ids', reply)) :
    (MapState.init ids now).Completes call reply ids' := by
  have hlookup : MapTxn.lookup ⟨now, call, .start⟩ (.ofTables ids) 0 = ids.userOf call := by
    have hseen : (IdentityStores.ofTables ids).identities.seenBy 0 = ids.identities := Store.seenBy_ofRows _ _
    rw [MapTxn.lookup, hseen, IdentityTables.userOf]
  have hst : mapMachine.step (.init ids now) (.start 0 call) =
      some ((MapState.init ids now).put 0 ⟨now, call, .start⟩) := rfl
  refine .of_step ?_ hst
  have hx : ((MapState.init ids now).put 0 ⟨now, call, .start⟩).txns 0 = some ⟨now, call, .start⟩ := by simp
  have hdb : ((MapState.init ids now).put 0 ⟨now, call, .start⟩).db = .ofTables ids := rfl
  unfold mapIdentity at h
  -- the identity is known, or provisioned if the caller asks for that
  cases huser : ids.userOf call with
  | some u =>
    rw [huser] at h
    cases h
    have hn : MapTxn.next ⟨now, call, .start⟩ (.ofTables ids) 0 = some (.ofTables ids, .choosingTenant u) := by
      simp only [MapTxn.next, hlookup, huser]
    exact .exec hx (hdb ▸ hn) (.login (x := ⟨now, call, .choosingTenant u⟩) (by simp) rfl rfl rfl)
  | none =>
    simp only [huser] at h
    split at h
    · rename_i hprovision
      cases h
      have hn : MapTxn.next ⟨now, call, .start⟩ (.ofTables ids) 0 =
          some (.ofTables ids, .returned (.error .identityNotFound)) := by
        simp only [MapTxn.next, hlookup, huser, if_pos hprovision]
      exact .exec hx (hdb ▸ hn) (.commit (x := ⟨now, call, .returned (.error .identityNotFound)⟩)
        (by simp) rfl rfl rfl)
    · rename_i hprovision
      have hn : MapTxn.next ⟨now, call, .start⟩ (.ofTables ids) 0 = some (.ofTables ids, .insertingUser) := by
        simp only [MapTxn.next, hlookup, huser, if_neg hprovision]
      split at h
      · rename_i hp
        cases h
        exact .exec hx (hdb ▸ hn) (.provision (x := ⟨now, call, .insertingUser⟩) (by simp) rfl rfl hp)
      · cases h
      · cases h

end OneCall

/-! ### Logins -/

/-- The tables after `map_identity` returned are those of a run of its machine. -/
theorem Database.mapIdentity_run {db db₁ : Database} {now : Int} {call : MapIdentityCall} {pick : Nat}
    {reply : MapReply} (h : db.mapIdentity now call pick = (db₁, .ok reply)) :
    (MapState.init db.toIdentityTables now).Completes call reply db₁.toIdentityTables := by
  unfold mapIdentity at h
  split at h
  · cases h
  · rename_i ids reply' hok
    cases h
    exact IdentityTables.mapIdentity_run hok

/-- After a run of `map_identity` calls, a session for what one of them returned admits an active user exactly when
the identity was not mapped to a disabled one. -/
private theorem Database.admits_after_run {db db₁ db' : Database} {clock now : Int} {as : List MapAction}
    {s : MapState} {tid : Tid} {x : MapTxn} {data : MappedIdentity} {id : Uuid} {a : CreateArgs} {d : CreatedSession}
    (hrun : mapMachine.run (.init db.toIdentityTables clock) as = some s) (hx : s.txns tid = some x)
    (hp : x.phase = .committed (.ok data)) (hs : s.Shows db₁.toIdentityTables) (huser : a.userId = data.userId)
    (h : db₁.createUserSession now id a = .ok (db', .ok d)) :
    db'.Admits a.userId a.tenantId ↔ ∀ u, db.userOf x.call = some u → db.activeUser u := by
  have hinv := LoginInv.of_run hrun
  have hreached : db.Reaches x.call data.userId := by
    have hr := hinv.reached tid x hx
    unfold MapTxn.Reached at hr
    rwa [hp] at hr
  have hmem := (createUserSession_checks h).2.2.2
  rw [huser] at hmem
  rw [admits_iff h, huser]
  exact hinv.activeUser_iff hs hreached hmem

/-- A session admits an active user, tenant and membership exactly when the user it is made for was not disabled: for
the arguments of a direct call, for what `map_identity` returned, and for what it returned among other calls, a lost
race included. -/
theorem login_admission (db : Database) :
    (∀ now id a db' d, db.createUserSession now id a = .ok (db', .ok d) →
      (db'.Admits a.userId a.tenantId ↔ db.activeUser a.userId)) ∧
    (∀ now call pick db₁ data, db.mapIdentity now call pick = (db₁, .ok (.ok data)) →
      ∀ now' id a db' d, a.userId = data.userId → a.tenantId = data.tenantId →
        db₁.createUserSession now' id a = .ok (db', .ok d) →
        (db'.Admits data.userId data.tenantId ↔ ∀ u, db.userOf call = some u → db.activeUser u)) ∧
    (∀ clock as s tid x data, mapMachine.run (.init db.toIdentityTables clock) as = some s → s.txns tid = some x →
      x.phase = .committed (.ok data) → ∀ (db₁ : Database), s.Shows db₁.toIdentityTables →
      ∀ now' id a db' d, a.userId = data.userId → a.tenantId = data.tenantId →
        db₁.createUserSession now' id a = .ok (db', .ok d) →
        (db'.Admits data.userId data.tenantId ↔ ∀ u, db.userOf x.call = some u → db.activeUser u)) := by
  refine ⟨fun now id a db' d h => Database.admits_iff h, ?_, ?_⟩
  · intro now call pick db₁ data hmap now' id a db' d huser htenant h
    obtain ⟨as, s, x, hrun, hx, rfl, hp, hs⟩ := Database.mapIdentity_run hmap
    rw [← huser, ← htenant]
    exact Database.admits_after_run hrun hx hp hs huser h
  · intro clock as s tid x data hrun hx hp db₁ hs now' id a db' d huser htenant h
    rw [← huser, ← htenant]
    exact Database.admits_after_run hrun hx hp hs huser h

/-- The session `create_user_session` is asked for. -/
def loginSession (userId tenantId : Uuid) : CreateArgs :=
  ⟨List.replicate 32 7, userId, tenantId, [], [], none, 100, 50, none, none⟩

/-- A first login. -/
theorem login_admission_provisioned :
    ∃ db₁ db' d, (Database.empty oneMember).mapIdentity 0 ⟨"supabase", "sub", none, true, 10, 11⟩ 0 =
        (db₁, .ok (.ok ⟨10, 11, none⟩)) ∧
      db₁.createUserSession 1 5 (loginSession 10 11) = .ok (db', .ok d) ∧ db'.Admits 10 11 := by
  refine ⟨_, _, _, rfl, rfl, ?_⟩
  refine ((login_admission (Database.empty oneMember)).2.1 0 ⟨"supabase", "sub", none, true, 10, 11⟩ 0 _
    ⟨10, 11, none⟩ rfl 1 5 (loginSession 10 11) _ _ rfl rfl rfl).2 fun u hu => ?_
  cases hu

/-- An identity that is mapped to a disabled user. -/
def disabledMember : IdentityTables where
  tenants := [⟨1, "acme", .active, 0⟩]
  users := [⟨1, some "alice@example.com", .disabled, 0⟩]
  identities := [⟨"supabase", "sub", 1, some "alice@example.com", 0⟩]
  memberships := [⟨1, 1, .active, true, 0⟩]
  tenants_pkey := oneMember.tenants_pkey
  users_pkey := by decide
  identities_pkey := by decide
  memberships_pkey := oneMember.memberships_pkey
  identities_user_fkey := by decide
  memberships_user_fkey := by decide
  memberships_tenant_fkey := oneMember.memberships_tenant_fkey

/-- The disabled user logs in. -/
theorem disabled_user_logs_in :
    ∃ db₁ db' d, (Database.empty disabledMember).mapIdentity 0 ⟨"supabase", "sub", none, true, 10, 11⟩ 0 =
        (db₁, .ok (.ok ⟨1, 1, some "alice@example.com"⟩)) ∧
      db₁.createUserSession 1 5 (loginSession 1 1) = .ok (db', .ok d) ∧ db'.activeUser 1 = false := by
  exact ⟨_, _, _, rfl, rfl, rfl⟩

end CleanBackend
