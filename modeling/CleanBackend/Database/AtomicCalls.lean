import CleanBackend.Database.RotationInvariant

/-!
# Statements and atomic calls

What a statement of a transaction shows of its call as an atomic function (`SessionCall.exec`), on a database with the
committed rows: the first statement answers as the call would (`SessionTxn.Reads`) or wants a row; on the row it gets,
it answers or writes; and what the transaction then holds (`Store.Owns`) is what the call would write
(`SessionTxn.Writes`).
-/

namespace CleanBackend

/-- The token hash whose row a call locks. -/
def SessionCall.wants : SessionCall → Option Bytea
  | touch h _ | revoke h => some h
  | rotate _ a => some a.oldTokenHash
  | _ => none

def SessionCall.isRevokeAll : SessionCall → Bool
  | revokeAll _ _ => true
  | _ => false

/-! ### The rows of the atomic calls -/

/-- The database has the given identity tables and the given session rows, in any order. -/
structure Database.Mirrors (db : Database) (ids : IdentityTables) (rows : List UserSession) : Prop where
  ids : db.toIdentityTables = ids
  rows : ∀ r, r ∈ db.userSessions ↔ r ∈ rows

section Mirrors

variable {db db' : Database} {ids : IdentityTables} {rows : List UserSession} {r s : UserSession}
  {h : Bytea} {now : Int}

namespace Database.Mirrors

private theorem sessionOf_mem (hm : db.Mirrors ids rows) (hs : db.sessionOf h = some s) :
    s ∈ rows ∧ s.tokenHash = h := by
  obtain ⟨hmem, hh⟩ := Database.sessionOf_mem hs
  exact ⟨(hm.rows s).1 hmem, hh⟩

theorem sessionOf_of_mem (hm : db.Mirrors ids rows) (hr : r ∈ rows) (hh : r.tokenHash = h) :
    db.sessionOf h = some r :=
  hh ▸ Database.sessionOf_of_mem ((hm.rows r).2 hr)

/-- A lookup in the rows finds what the database has. -/
private theorem findBy_eq (hm : db.Mirrors ids rows) (h : Bytea) :
    findBy UserSession.tokenHash h rows = db.sessionOf h := by
  cases hf : findBy UserSession.tokenHash h rows with
  | some r =>
    obtain ⟨hr, hh⟩ := findBy_some hf
    exact (hm.sessionOf_of_mem hr hh).symm
  | none =>
    cases hs : db.sessionOf h with
    | none => rfl
    | some s =>
      obtain ⟨hr, hh⟩ := hm.sessionOf_mem hs
      exact absurd hh (findBy_eq_none.1 hf s hr)

private theorem getUserSession_eq (hm : db.Mirrors ids rows) (now : Int) (h : Bytea) :
    CleanBackend.getUserSession ids.users rows now h = db.getUserSession now h := by
  unfold Database.getUserSession CleanBackend.getUserSession
  rw [hm.findBy_eq h, ← hm.ids]
  rfl

end Database.Mirrors

/-- An update of the one row that `cond` picks. -/
private theorem Database.mem_update_one {u : SessionUpdate} {cond : UserSession → Bool} (hs : s ∈ db.userSessions)
    (hcond : ∀ r ∈ db.userSessions, cond r = true ↔ r = s) :
    r ∈ (db.updateSessions u cond).userSessions ↔ (r ∈ db.userSessions ∧ r ≠ s) ∨ r = u.set s := by
  show r ∈ db.userSessions.map (u.on cond) ↔ _
  rw [List.mem_map]
  constructor
  · rintro ⟨r₀, hr₀, rfl⟩
    unfold SessionUpdate.on
    by_cases hc : cond r₀ = true
    · rw [if_pos hc, (hcond r₀ hr₀).1 hc]
      exact Or.inr rfl
    · rw [if_neg hc]
      exact Or.inl ⟨hr₀, fun he => hc ((hcond r₀ hr₀).2 he)⟩
  · rintro (⟨hr, hne⟩ | rfl)
    · exact ⟨r, hr, if_neg fun hc => hne ((hcond r hr).1 hc)⟩
    · exact ⟨s, hs, if_pos ((hcond s hs).2 rfl)⟩

/-- An update that picks no row. -/
private theorem Database.mem_update_none {u : SessionUpdate} {cond : UserSession → Bool}
    (hcond : ∀ r ∈ db.userSessions, cond r = false) :
    r ∈ (db.updateSessions u cond).userSessions ↔ r ∈ db.userSessions := by
  have hmap : db.userSessions.map (u.on cond) = db.userSessions := by
    refine (List.map_congr_left fun r hr => ?_).trans (List.map_id _)
    unfold SessionUpdate.on
    rw [hcond r hr]
    rfl
  show r ∈ db.userSessions.map (u.on cond) ↔ _
  rw [hmap]

theorem SessionCall.exec_ids_eq (db : Database) (now : Int) (call : SessionCall) :
    (call.exec db now).1.toIdentityTables = db.toIdentityTables := by
  cases call with
  | create id a =>
    simp only [exec]
    rcases db.settle_cases .created (db.createUserSession now id a) with
      ⟨e, -, hs⟩ | ⟨db', e, hc, hs⟩ | ⟨db', d, hc, hs⟩ <;> rw [hs]
    · rw [Database.createUserSession_error hc]
    · exact (Database.insertSession_ok (Database.createUserSession_ok hc).1).2.1
  | get h =>
    simp only [exec]
    cases db.getUserSession now h <;> rfl
  | touch h idleTtl =>
    simp only [exec]
    rcases db.settle_cases .touched (.ok (db.touchUserSession now h idleTtl)) with
      ⟨e, hc, -⟩ | ⟨db', e, hc, hs⟩ | ⟨db', d, hc, hs⟩
    · cases hc
    · rw [hs, Database.touchUserSession_error (Except.ok.inj hc)]
    · obtain ⟨s, -, -, hdb, -⟩ := Database.touchUserSession_ok (Except.ok.inj hc)
      rw [hs, hdb, Database.update_identity]
  | rotate id a =>
    simp only [exec]
    rcases db.settle_cases .created (db.rotateUserSession now id a) with
      ⟨e, -, hs⟩ | ⟨db', e, hc, hs⟩ | ⟨db', d, hc, hs⟩ <;> rw [hs]
    · rw [Database.rotateUserSession_error hc]
    · obtain ⟨old, db₁, -, -, hins, hdb, -⟩ := Database.rotateUserSession_ok hc
      rw [hdb, Database.update_identity]
      exact (Database.insertSession_ok hins).2.1
  | revoke h => rfl
  | revokeAll u t => rfl

end Mirrors

/-! ### Where a call takes its place -/

section Place

variable {db : Database} {ids : IdentityTables} {S : Store Tid UserSession} {tid : Tid} {x : SessionTxn}

/-- The call of a transaction as an atomic one, at its `now()`. -/
def SessionTxn.atomic (x : SessionTxn) (db : Database) : Database × SessionReply := x.call.exec db x.now

/-- The call answers `reply` and changes no row. -/
def SessionTxn.Reads (x : SessionTxn) (db : Database) (reply : SessionReply) : Prop :=
  (x.atomic db).2 = reply ∧ ∀ r, r ∈ (x.atomic db).1.userSessions ↔ r ∈ db.userSessions

private theorem SessionTxn.Reads.of_eq {reply : SessionReply} (h : x.atomic db = (db, reply)) : x.Reads db reply := by
  unfold Reads
  rw [h]
  exact ⟨rfl, fun _ => Iff.rfl⟩

/-- A `get` answers from its snapshot. -/
private theorem SessionTxn.reads_get {h : Bytea} (hdb : db.Mirrors ids S.rows) (hc : x.call = .get h) :
    x.Reads db (.ofGet (getUserSession ids.users S.rows x.now h)) := by
  refine .of_eq ?_
  unfold atomic
  rw [hc, hdb.getUserSession_eq]
  show db.settle .session (.ok (db, db.getUserSession x.now h)) = _
  cases db.getUserSession x.now h <;> rfl

private theorem SessionTxn.reads_touch {h : Bytea} {idleTtl : Int} {e : DbError} (hc : x.call = .touch h idleTtl)
    (he : db.touchUserSession x.now h idleTtl = (db, .error e)) : x.Reads db (.failed e) := by
  refine .of_eq ?_
  unfold atomic
  rw [hc]
  show db.settle .touched (.ok (db.touchUserSession x.now h idleTtl)) = _
  rw [he]
  rfl

private theorem SessionTxn.reads_rotate {id : Uuid} {a : RotateArgs} {e : DbError} (hc : x.call = .rotate id a)
    (he : db.rotateUserSession x.now id a = .ok (db, .error e)) : x.Reads db (.failed e) := by
  refine .of_eq ?_
  unfold atomic
  rw [hc]
  show db.settle .created (db.rotateUserSession x.now id a) = _
  rw [he]
  rfl

private theorem SessionTxn.reads_create {id : Uuid} {a : CreateArgs} {e : DbError} (hc : x.call = .create id a)
    (he : db.createUserSession x.now id a = .ok (db, .error e)) : x.Reads db (.failed e) := by
  refine .of_eq ?_
  unfold atomic
  rw [hc]
  show db.settle .created (db.createUserSession x.now id a) = _
  rw [he]
  rfl

/-- A `revoke` with nothing to revoke. -/
private theorem SessionTxn.reads_revoke {h : Bytea} (hs : ∀ r, db.sessionOf h = some r → r.revokedAt.isSome)
    (hc : x.call = .revoke h) : x.Reads db .revoked := by
  unfold Reads atomic
  rw [hc]
  refine ⟨rfl, fun r => Database.mem_update_none fun r hr => ?_⟩
  by_cases hh : r.tokenHash = h
  · have hrev := hs r (hh ▸ Database.sessionOf_of_mem hr)
    rw [Option.isNone_eq_false_iff.2 hrev, Bool.and_false]
  · rw [beq_false_of_ne hh, Bool.false_and]

/-- What the first statement leads to. -/
inductive SessionTxn.Begins (x : SessionTxn) (db : Database) (rows : List UserSession) : SessionPhase → Prop where
  | reads {reply} (h : x.Reads db reply) : Begins x db rows (.returned reply)
  | wants {r} (hr : r ∈ rows) (hw : x.call.wants = some r.tokenHash) : Begins x db rows (.locking r.id)
  | creates {id a} (hc : x.call = .create id a) (ht : db.activeTenant a.tenantId)
      (hm : db.activeMember a.userId a.tenantId) : Begins x db rows (.inserting (a.row id x.now) none)

theorem SessionTxn.begin_begins (hdb : db.Mirrors ids S.rows) (hcall : x.call.isRevokeAll = false) :
    x.Begins db S.rows (x.begin ids S.rows) := by
  unfold SessionTxn.begin
  -- one case for each of the functions, in the order of `begin`
  split
  · rename_i id a hc
    rw [← hdb.ids]
    split
    · rename_i ht
      refine .reads (reads_create hc ?_)
      unfold Database.createUserSession
      rw [if_pos ht]
    · rename_i ht
      split
      · rename_i hm
        refine .reads (reads_create hc ?_)
        unfold Database.createUserSession
        rw [if_neg ht, if_pos hm]
      · rename_i hm
        exact .creates hc (not_not.1 ht) (not_not.1 hm)
  · rename_i h hc
    exact .reads (reads_get hdb hc)
  · rename_i h idleTtl hc
    rw [hdb.findBy_eq h]
    split
    · rename_i hs
      refine .reads (reads_touch hc ?_)
      unfold Database.touchUserSession
      rw [hs]
    · rename_i r hs
      split
      · rename_i e he
        refine .reads (reads_touch hc ?_)
        unfold Database.touchUserSession
        rw [hs]
        dsimp only
        rw [he]
      · obtain ⟨hr, hh⟩ := hdb.sessionOf_mem hs
        exact .wants hr (by rw [hc, hh]; rfl)
  · rename_i id a hc
    rw [hdb.findBy_eq a.oldTokenHash]
    split
    · rename_i hs
      refine .reads (reads_rotate hc ?_)
      unfold Database.rotateUserSession
      rw [hs]
    · rename_i r hs
      obtain ⟨hr, hh⟩ := hdb.sessionOf_mem hs
      exact .wants hr (by rw [hc, hh]; rfl)
  · rename_i h hc
    rw [hdb.findBy_eq h]
    split
    · rename_i hs
      exact .reads (reads_revoke (fun r hr => by cases hs.symm.trans hr) hc)
    · rename_i r hs
      split
      · rename_i hrev
        exact .reads (reads_revoke (fun r' hr' => Option.some.inj (hs.symm.trans hr') ▸ hrev) hc)
      · obtain ⟨hr, hh⟩ := hdb.sessionOf_mem hs
        exact .wants hr (by rw [hc, hh]; rfl)
  · rename_i hc
    rw [hc] at hcall
    cases hcall

/-- What a statement does with the row it wants. -/
inductive SessionTxn.Meets (x : SessionTxn) (db : Database) (r : UserSession) : SessionEffect → Prop where
  | skips {reply} (h : x.Reads db reply) : Meets x db r (.goto (.returned reply))
  | locks {reply} (h : x.Reads db reply) : Meets x db r (.write r.id .forUpdate (.returned reply))
  | rotates {id a} (hc : x.call = .rotate id a) (hh : r.tokenHash = a.oldTokenHash) (hl : r.Live x.now) :
      Meets x db r (.write r.id .forUpdate (.inserting (a.row id x.now r) (some r)))
  | slides {h idleTtl} (hc : x.call = .touch h idleTtl) (hh : r.tokenHash = h) (hl : r.Live x.now) :
      Meets x db r (.write r.id (.slide x.now idleTtl)
        (.returned (.touched ((SessionUpdate.slide x.now idleTtl).set r).idleExpiresAt)))
  | revokes {h} (hc : x.call = .revoke h) (hh : r.tokenHash = h) (hu : r.revokedAt = none) :
      Meets x db r (.write r.id (.revoke x.now) (.returned .revoked))

theorem SessionTxn.onRow_meets {r : UserSession} {e : SessionEffect} (hdb : db.Mirrors ids S.rows) (hr : r ∈ S.rows)
    (hw : x.call.wants = some r.tokenHash) (htouch : ∀ h idleTtl, x.call = .touch h idleTtl → r.Live x.now)
    (he : x.onRow r.id r = some e) : x.Meets db r e := by
  unfold SessionTxn.onRow at he
  -- a touch, a rotation or a revocation
  split at he
  · rename_i h idleTtl hc
    cases he
    rw [hc] at hw
    exact .slides hc (Option.some.inj hw).symm (htouch h idleTtl hc)
  · rename_i id a hc
    rw [hc] at hw
    have hh := (Option.some.inj hw).symm
    split at he
    · rename_i e₀ hcheck
      cases he
      refine .locks (reads_rotate hc ?_)
      unfold Database.rotateUserSession
      rw [hdb.sessionOf_of_mem hr hh]
      dsimp only
      rw [hcheck]
    · rename_i hcheck
      cases he
      exact .rotates hc hh (UserSession.check_ok.1 hcheck)
  · rename_i h hc
    rw [hc] at hw
    have hh := (Option.some.inj hw).symm
    split at he
    · rename_i hrev
      cases he
      refine .skips (reads_revoke (fun r' hr' => ?_) hc)
      rw [hdb.sessionOf_of_mem hr hh] at hr'
      cases hr'
      exact hrev
    · rename_i hrev
      cases he
      exact .revokes hc hh (Option.not_isSome_iff_eq_none.1 hrev)
  · cases he

/-! ### The calls that write -/

/-- The call answers `reply` and leaves the rows of `P`. -/
def SessionTxn.Writes (x : SessionTxn) (db : Database) (reply : SessionReply) (P : UserSession → Prop) : Prop :=
  (x.atomic db).2 = reply ∧ ∀ r, r ∈ (x.atomic db).1.userSessions ↔ P r

theorem SessionTxn.Writes.of_iff {reply : SessionReply} {P Q : UserSession → Prop} (h : x.Writes db reply P)
    (hPQ : ∀ r, Q r ↔ P r) : x.Writes db reply Q := ⟨h.1, fun r => (h.2 r).trans (hPQ r).symm⟩

theorem SessionTxn.writes_touch {h : Bytea} {idleTtl : Int} {s : UserSession} (hc : x.call = .touch h idleTtl)
    (hs : db.sessionOf h = some s) (hl : s.Live x.now) :
    x.Writes db (.touched ((SessionUpdate.slide x.now idleTtl).set s).idleExpiresAt)
      fun r => (r ∈ db.userSessions ∧ r ≠ s) ∨ r = (SessionUpdate.slide x.now idleTtl).set s := by
  have hexec : x.atomic db = (db.updateSessions (.slide x.now idleTtl) (·.id == s.id),
      .touched ((SessionUpdate.slide x.now idleTtl).set s).idleExpiresAt) := by
    unfold atomic
    rw [hc]
    show db.settle .touched (.ok (db.touchUserSession x.now h idleTtl)) = _
    unfold Database.touchUserSession
    rw [hs]
    dsimp only
    rw [UserSession.check_ok.2 hl]
    rfl
  unfold Writes
  rw [hexec]
  refine ⟨rfl, fun r => Database.mem_update_one (Database.sessionOf_mem hs).1 fun r hr => ?_⟩
  rw [beq_iff_eq]
  exact ⟨fun he => db.sessions_pkey.eq_of_key hr (Database.sessionOf_mem hs).1 he, fun he => congrArg _ he⟩

theorem SessionTxn.writes_revoke {h : Bytea} {s : UserSession} (hc : x.call = .revoke h)
    (hs : db.sessionOf h = some s) (hu : s.revokedAt = none) :
    x.Writes db .revoked fun r => (r ∈ db.userSessions ∧ r ≠ s) ∨ r = (SessionUpdate.revoke x.now).set s := by
  unfold Writes atomic
  rw [hc]
  refine ⟨rfl, fun r => Database.mem_update_one (Database.sessionOf_mem hs).1 fun r hr => ?_⟩
  obtain ⟨hm, hh⟩ := Database.sessionOf_mem hs
  rw [Bool.and_eq_true, beq_iff_eq]
  constructor
  · rintro ⟨he, -⟩
    exact db.sessions_token_hash_key.eq_of_key hr hm (he.trans hh.symm)
  · rintro rfl
    exact ⟨hh, by rw [hu]; rfl⟩

/-- What makes a row acceptable besides its keys and its parent. -/
structure UserSession.Storable (new : UserSession) (ids : IdentityTables) : Prop where
  checks : new.checkViolation = none
  user : new.userId ∈ ids.users.map User.id
  tenant : new.tenantId ∈ ids.tenants.map Tenant.id

private theorem UserSession.Storable.insert {new : UserSession} (h : new.Storable db.toIdentityTables)
    (hid : ∀ r ∈ db.userSessions, r.id ≠ new.id) (hhash : ∀ r ∈ db.userSessions, r.tokenHash ≠ new.tokenHash)
    (hparent : ∀ o, new.rotatedFrom = some o → o ∈ db.userSessions.map UserSession.id) :
    ∃ db', db.insertSession new = .ok db' := by
  have hchecks := h.checks
  unfold checkViolation at hchecks
  refine db.insertSession_accepts new ?_ ?_ ?_ ?_ h.user h.tenant hparent
  · by_contra hlt
    rw [if_pos (Int.not_le.1 hlt)] at hchecks
    cases hchecks
  · by_contra hne
    split at hchecks
    · cases hchecks
    · cases hchecks
  · intro hm
    obtain ⟨r, hr, he⟩ := List.mem_map.1 hm
    exact hid r hr he
  · intro hm
    obtain ⟨r, hr, he⟩ := List.mem_map.1 hm
    exact hhash r hr he

/-- An `INSERT` fails, or puts a storable row. -/
theorem Store.insertRow_cases {new : UserSession} {old : Option UserSession} {e : SessionEffect}
    (h : S.insertRow ids tid new old = some e) :
    (∃ err, e = .rollback (some err)) ∨
    (new.Storable ids ∧ e = .insert new (old.elim (.returned (.created new.created)) (.revokingOld · new))) := by
  unfold Store.insertRow at h
  split at h
  · cases h; exact Or.inl ⟨_, rfl⟩
  · rename_i hchecks
    split at h
    · cases h
    · cases h; exact Or.inl ⟨_, rfl⟩
    · split at h
      · cases h
      · cases h; exact Or.inl ⟨_, rfl⟩
      · have hkeys : new.fkeyViolation ids S.rows = none → new.Storable ids := by
          intro hf
          unfold UserSession.fkeyViolation at hf
          by_cases hu : new.userId ∉ ids.users.map User.id
          · rw [if_pos hu] at hf
            cases hf
          · rw [if_neg hu] at hf
            by_cases ht : new.tenantId ∉ ids.tenants.map Tenant.id
            · rw [if_pos ht] at hf
              cases hf
            · exact ⟨hchecks, not_not.1 hu, not_not.1 ht⟩
        split at h
        · cases h; exact Or.inl ⟨_, rfl⟩
        · rename_i hf; cases h; exact Or.inr ⟨hkeys hf, rfl⟩
        · rename_i hf; cases h; exact Or.inr ⟨hkeys hf, rfl⟩

theorem SessionTxn.writes_create {id : Uuid} {a : CreateArgs} (hc : x.call = .create id a)
    (ht : db.activeTenant a.tenantId) (hm : db.activeMember a.userId a.tenantId)
    (hok : (a.row id x.now).Storable db.toIdentityTables)
    (hid : ∀ r ∈ db.userSessions, r.id ≠ (a.row id x.now).id)
    (hhash : ∀ r ∈ db.userSessions, r.tokenHash ≠ (a.row id x.now).tokenHash) :
    x.Writes db (.created (a.row id x.now).created) fun r => r ∈ db.userSessions ∨ r = a.row id x.now := by
  obtain ⟨db', hins⟩ := hok.insert hid hhash fun o ho => by cases ho
  have hexec : x.atomic db = (db', .created (a.row id x.now).created) := by
    unfold atomic
    rw [hc]
    show db.settle .created (db.createUserSession x.now id a) = _
    unfold Database.createUserSession
    rw [if_neg (not_not.2 ht), if_neg (not_not.2 hm), hins]
    rfl
  unfold Writes
  rw [hexec]
  refine ⟨rfl, fun r => ?_⟩
  rw [(Database.insertSession_ok hins).1, List.mem_append, List.mem_singleton]

theorem SessionTxn.writes_rotate {id : Uuid} {a : RotateArgs} {old : UserSession} (hc : x.call = .rotate id a)
    (hs : db.sessionOf a.oldTokenHash = some old) (hl : old.Live x.now)
    (hok : (a.row id x.now old).Storable db.toIdentityTables)
    (hid : ∀ r ∈ db.userSessions, r.id ≠ (a.row id x.now old).id)
    (hhash : ∀ r ∈ db.userSessions, r.tokenHash ≠ (a.row id x.now old).tokenHash) :
    x.Writes db (.created (a.row id x.now old).created) fun r =>
      (r ∈ db.userSessions ∧ r ≠ old) ∨ r = a.row id x.now old ∨ r = (SessionUpdate.revoke x.now).set old := by
  obtain ⟨hm, -⟩ := Database.sessionOf_mem hs
  obtain ⟨db', hins⟩ := hok.insert hid hhash fun o ho => by
    cases ho
    exact List.mem_map_of_mem hm
  have hexec : x.atomic db = (db'.updateSessions (.revoke x.now) (·.id == old.id),
      .created (a.row id x.now old).created) := by
    unfold atomic
    rw [hc]
    show db.settle .created (db.rotateUserSession x.now id a) = _
    unfold Database.rotateUserSession
    rw [hs]
    dsimp only
    rw [UserSession.check_ok.2 hl]
    dsimp only
    rw [hins]
    rfl
  have hrows := (Database.insertSession_ok hins).1
  have hm' : old ∈ db'.userSessions := by
    rw [hrows]
    exact List.mem_append_left _ hm
  unfold Writes
  rw [hexec]
  -- the insert adds a row, and the `UPDATE` changes the old one
  refine ⟨rfl, fun r => (Database.mem_update_one hm' fun r hr => ?_).trans ?_⟩
  · rw [beq_iff_eq]
    exact ⟨fun he => db'.sessions_pkey.eq_of_key hr hm' he, fun he => congrArg _ he⟩
  · rw [hrows, List.mem_append, List.mem_singleton]
    constructor
    · rintro (⟨hr | hr, hne⟩ | hr)
      · exact Or.inl ⟨hr, hne⟩
      · exact Or.inr (Or.inl hr)
      · exact Or.inr (Or.inr hr)
    · rintro (⟨hr, hne⟩ | rfl | hr)
      · exact Or.inl ⟨Or.inl hr, hne⟩
      · exact Or.inl ⟨Or.inr rfl, fun he => hid old hm (congrArg UserSession.id he).symm⟩
      · exact Or.inr hr

end Place

/-! ### What a transaction holds -/

/-- What `tid` holds: the row it has locked, with its version of it, and the row it has inserted. -/
structure Store.Owns (S : Store Tid UserSession) (tid : Tid) (lock : Option (UserSession × UserSession))
    (new : Option UserSession) : Prop where
  locks : ∀ r d, .stored r (some (tid, d)) ∈ S ↔ lock = some (r, d)
  pendings : ∀ n, .pending tid n ∈ S ↔ new = some n

namespace Store.Owns

variable {S : Store Tid UserSession} {tid u : Tid} {lock : Option (UserSession × UserSession)}
  {new : Option UserSession} {r d : UserSession}

theorem none_of_fresh (hl : ∀ r d, .stored r (some (tid, d)) ∉ S) (hp : ∀ n, .pending tid n ∉ S) :
    S.Owns tid none none where
  locks r d := ⟨fun h => absurd h (hl r d), fun h => by cases h⟩
  pendings n := ⟨fun h => absurd h (hp n), fun h => by cases h⟩

/-- The statements of another transaction. -/
theorem of_ne (h : S.Owns u lock new) (hne : u ≠ tid) (e : SessionEffect) : (S.after tid e).Owns u lock new where
  locks r d := (Store.locked_after_of_ne hne).trans (h.locks r d)
  pendings n := (Store.pending_after_of_ne hne).trans (h.pendings n)

/-- Where `tid` holds nothing, the latest version of a row is the committed one. -/
theorem latest (h : S.Owns tid none none) {id : Uuid} (hl : S.Latest tid id r) : .stored r none ∈ S ∧ r.id = id := by
  rcases hl with ha | ha
  · exact Store.access_free ha
  · rcases Store.access_mine ha with ⟨r₀, hm, -⟩ | ⟨hm, -⟩
    · cases (h.locks r₀ r).1 hm
    · cases (h.pendings r).1 hm

/-- A lock on a free row. -/
theorem write_free (h : S.Owns tid none none) (hk : Store.WellKeyed UserSession.id S) (hr : .stored r none ∈ S)
    (f : UserSession → UserSession) : (S.write UserSession.id tid r.id f).Owns tid (some (r, f r)) none where
  locks r' d := by
    rw [Store.locked_mem_write]
    constructor
    · rintro (⟨hm, -⟩ | ⟨hid, -, hm, rfl⟩ | ⟨-, -, d₀, hm, -⟩)
      · cases (h.locks r' d).1 hm
      · cases hk.eq_of_key hm hr hid
        rfl
      · cases (h.locks r' d₀).1 hm
    · intro he
      cases he
      exact Or.inr (Or.inl ⟨rfl, rfl, hr, rfl⟩)
  pendings n := by
    rw [Store.pending_mem_write]
    constructor
    · rintro (⟨hm, -⟩ | ⟨-, n₀, hm, -⟩)
      · exact (h.pendings n).1 hm
      · cases (h.pendings n₀).1 hm
    · intro he
      cases he

/-- A write on the locked row. -/
theorem write_locked (h : S.Owns tid (some (r, d)) new) (hk : Store.WellKeyed UserSession.id S)
    (hnew : ∀ n, new = some n → n.id ≠ r.id) (f : UserSession → UserSession) :
    (S.write UserSession.id tid r.id f).Owns tid (some (r, f d)) new where
  locks r' d' := by
    have hm : .stored r (some (tid, d)) ∈ S := (h.locks r d).2 rfl
    rw [Store.locked_mem_write]
    constructor
    · rintro (⟨hm', hid⟩ | ⟨hid, -, hm', -⟩ | ⟨-, -, d₀, hm', rfl⟩)
      · cases (h.locks r' d').1 hm'
        exact absurd rfl (hid rfl)
      · cases hk.eq_of_key hm' hm hid
      · cases (h.locks r' d₀).1 hm'
        rfl
    · intro he
      cases he
      exact Or.inr (Or.inr ⟨rfl, rfl, d, hm, rfl⟩)
  pendings n := by
    rw [Store.pending_mem_write]
    constructor
    · rintro (⟨hm, -⟩ | ⟨-, n₀, hm, hid, -⟩)
      · exact (h.pendings n).1 hm
      · exact absurd hid (hnew n₀ ((h.pendings n₀).1 hm))
    · intro he
      exact Or.inl ⟨(h.pendings n).2 he, fun hid => absurd hid (hnew n he)⟩

theorem insert (h : S.Owns tid lock none) (n : UserSession) : (S.insert tid n).Owns tid lock (some n) where
  locks r d := by
    rw [Store.mem_insert]
    constructor
    · rintro (hm | he)
      · exact (h.locks r d).1 hm
      · cases he
    · exact fun he => Or.inl ((h.locks r d).2 he)
  pendings n' := by
    rw [Store.mem_insert]
    constructor
    · rintro (hm | he)
      · cases (h.pendings n').1 hm
      · cases he
        rfl
    · intro he
      cases he
      exact Or.inr rfl

/-- The committed rows after the commit. -/
private theorem mem_rows_commit (h : S.Owns tid lock new) (hk : Store.WellKeyed UserSession.id S)
    (hlock : ∀ r d, lock = some (r, d) → d.id = r.id) (r : UserSession) :
    r ∈ (S.commit tid).rows ↔
      (r ∈ S.rows ∧ ∀ r₀ d, lock = some (r₀, d) → r ≠ r₀) ∨ (∃ r₀, lock = some (r₀, r)) ∨ new = some r := by
  constructor
  · intro hr
    by_cases hlocked : ∃ d, lock = some (r, d)
    · -- the row that is left of a locked one is the new version
      obtain ⟨d, hd⟩ := hlocked
      have hdr := Store.draft_mem_rows_commit ((h.locks r d).2 hd)
      cases (hk.commit tid).rows_eq hr hdr (hlock r d hd).symm
      exact Or.inr (Or.inl ⟨r, hd⟩)
    · rcases Store.mem_rows_commit hr with hm | ⟨r₀, hm⟩ | hm
      · exact Or.inl ⟨hm, fun r₀ d hd he => hlocked ⟨d, he ▸ hd⟩⟩
      · exact Or.inr (Or.inl ⟨r₀, (h.locks r₀ r).1 hm⟩)
      · exact Or.inr (Or.inr ((h.pendings r).1 hm))
  · rintro (⟨hm, hfree⟩ | ⟨r₀, hl⟩ | hn)
    · rcases Store.rows_commit_cases tid hm with hm | ⟨d, hm⟩
      · exact hm
      · exact absurd rfl (hfree r d ((h.locks r d).1 hm))
    · exact Store.draft_mem_rows_commit ((h.locks r₀ r).2 hl)
    · exact Store.pending_mem_rows_commit ((h.pendings r).2 hn)

/-- The commit of a transaction with no lock. -/
theorem mem_rows_commit_none (h : S.Owns tid none new) (hk : Store.WellKeyed UserSession.id S) (r : UserSession) :
    r ∈ (S.commit tid).rows ↔ r ∈ S.rows ∨ new = some r := by
  rw [h.mem_rows_commit hk fun r d he => by cases he]
  constructor
  · rintro (⟨hr, -⟩ | ⟨r₀, he⟩ | hn)
    · exact Or.inl hr
    · cases he
    · exact Or.inr hn
  · rintro (hr | hn)
    · exact Or.inl ⟨hr, fun r₀ d he => by cases he⟩
    · exact Or.inr (Or.inr hn)

/-- The commit of a transaction with the lock of `r₀`, of which it has the version `d`. -/
theorem mem_rows_commit_some {r₀ : UserSession} (h : S.Owns tid (some (r₀, d)) new)
    (hk : Store.WellKeyed UserSession.id S) (hid : d.id = r₀.id) (r : UserSession) :
    r ∈ (S.commit tid).rows ↔ (r ∈ S.rows ∧ r ≠ r₀) ∨ r = d ∨ new = some r := by
  rw [h.mem_rows_commit hk fun r d he => by cases he; exact hid]
  constructor
  · rintro (⟨hr, hne⟩ | ⟨r₁, he⟩ | hn)
    · exact Or.inl ⟨hr, hne r₀ d rfl⟩
    · cases he
      exact Or.inr (Or.inl rfl)
    · exact Or.inr (Or.inr hn)
  · rintro (⟨hr, hne⟩ | rfl | hn)
    · exact Or.inl ⟨hr, fun r₁ d he => by cases he; exact hne⟩
    · exact Or.inr (Or.inl ⟨r₀, rfl⟩)
    · exact Or.inr (Or.inr hn)

/-- The commit of a transaction that has only read. -/
theorem mem_rows_commit_same {lock : Option UserSession} (h : S.Owns tid (lock.map fun r => (r, r)) none)
    (hk : Store.WellKeyed UserSession.id S) (r : UserSession) : r ∈ (S.commit tid).rows ↔ r ∈ S.rows := by
  cases lock with
  | none =>
    rw [h.mem_rows_commit_none hk]
    exact ⟨fun hr => hr.elim id (fun he => by cases he), Or.inl⟩
  | some r₀ =>
    have hr₀ : r₀ ∈ S.rows := Store.mem_rows.2 ⟨_, (h.locks r₀ r₀).2 rfl⟩
    rw [h.mem_rows_commit_some hk rfl]
    constructor
    · rintro (⟨hr, -⟩ | rfl | hn)
      · exact hr
      · exact hr₀
      · cases hn
    · intro hr
      by_cases he : r = r₀
      · exact Or.inr (Or.inl he)
      · exact Or.inl ⟨hr, he⟩

end Store.Owns

end CleanBackend
