import CleanBackend.Database.Schema

/-!
# The session functions

`procedures/app/sessions/*.sql`, each as one atomic step at a given `now()`.  A function returns the new database and
its envelope, or the constraint violation that aborts its transaction.  The generated `id` of an inserted row is an
argument.

`SessionCall.exec` runs a call against the database: an aborted transaction leaves it unchanged.
-/

namespace CleanBackend

/-- The `error.code` of an envelope. -/
inductive ErrorCode where
  | sessionNotFound
  | sessionRevoked
  | sessionExpired
  | tenantNotFound
  | userNotInTenant
  | identityNotFound
  | noActiveTenant
  deriving DecidableEq, Repr

/-- `app.error(p_code, p_message)` -/
structure DbError where
  code : ErrorCode
  message : String
  deriving DecidableEq, Repr

/-- The envelope of `app.ok` and `app.error`. -/
abbrev Envelope := Except DbError

namespace DbError

def sessionNotFound : DbError := ⟨.sessionNotFound, "no session for this token"⟩
def sessionRevoked : DbError := ⟨.sessionRevoked, "session has been revoked"⟩
def sessionExpired : DbError := ⟨.sessionExpired, "session has expired"⟩
def tenantNotFound : DbError := ⟨.tenantNotFound, "tenant does not exist or is not active"⟩
def userNotInTenant : DbError := ⟨.userNotInTenant, "user is not an active member of the tenant"⟩

end DbError

/-- The data of `create_user_session` and `rotate_user_session`. -/
structure CreatedSession where
  sessionInternalId : Uuid
  absoluteExpiresAt : Int
  idleExpiresAt : Int
  deriving DecidableEq, Repr

/-- The data of `get_user_session`; the two tokens are hex-encoded on the way out. -/
structure ActiveSession where
  sessionInternalId : Uuid
  userId : Uuid
  tenantId : Uuid
  email : Option String
  gotrueAccessToken : Bytea
  gotrueRefreshToken : Bytea
  gotrueExpiresAt : Option Int
  absoluteExpiresAt : Int
  idleExpiresAt : Int
  deriving DecidableEq, Repr

def UserSession.created (s : UserSession) : CreatedSession := ⟨s.id, s.absoluteExpiresAt, s.idleExpiresAt⟩

def UserSession.active (s : UserSession) (email : Option String) : ActiveSession where
  sessionInternalId := s.id
  userId := s.userId
  tenantId := s.tenantId
  email := email
  gotrueAccessToken := s.gotrueAccessToken
  gotrueRefreshToken := s.gotrueRefreshToken
  gotrueExpiresAt := s.gotrueExpiresAt
  absoluteExpiresAt := s.absoluteExpiresAt
  idleExpiresAt := s.idleExpiresAt

structure CreateArgs where
  tokenHash : Bytea
  userId : Uuid
  tenantId : Uuid
  accessCt : Bytea
  refreshCt : Bytea
  gotrueExpiresAt : Option Int
  absoluteTtl : Int
  idleTtl : Int
  userAgent : Option String
  ip : Option String
  deriving DecidableEq, Repr

structure RotateArgs where
  oldTokenHash : Bytea
  newTokenHash : Bytea
  accessCt : Bytea
  refreshCt : Bytea
  gotrueExpiresAt : Option Int
  idleTtl : Int
  deriving DecidableEq, Repr

/-- The row `create_user_session` inserts. -/
def CreateArgs.row (a : CreateArgs) (id : Uuid) (now : Int) : UserSession where
  id := id
  tokenHash := a.tokenHash
  userId := a.userId
  tenantId := a.tenantId
  gotrueAccessToken := a.accessCt
  gotrueRefreshToken := a.refreshCt
  gotrueExpiresAt := a.gotrueExpiresAt
  absoluteExpiresAt := now + a.absoluteTtl
  idleExpiresAt := min (now + a.idleTtl) (now + a.absoluteTtl)
  createdAt := now
  lastSeenAt := now
  revokedAt := none
  rotatedFrom := none
  userAgent := a.userAgent
  ip := a.ip

/-- The row `rotate_user_session` inserts; the absolute expiry is carried over, never extended. -/
def RotateArgs.row (a : RotateArgs) (id : Uuid) (now : Int) (old : UserSession) : UserSession where
  id := id
  tokenHash := a.newTokenHash
  userId := old.userId
  tenantId := old.tenantId
  gotrueAccessToken := a.accessCt
  gotrueRefreshToken := a.refreshCt
  gotrueExpiresAt := a.gotrueExpiresAt
  absoluteExpiresAt := old.absoluteExpiresAt
  idleExpiresAt := min (now + a.idleTtl) old.absoluteExpiresAt
  createdAt := now
  lastSeenAt := now
  revokedAt := none
  rotatedFrom := some old.id
  userAgent := old.userAgent
  ip := old.ip

/-- The two `IF`s that `get`, `touch` and `rotate` make on the row: revoked comes before expired. -/
def UserSession.check (s : UserSession) (now : Int) : Envelope Unit :=
  if s.revokedAt.isSome then .error .sessionRevoked
  else if s.absoluteExpiresAt ≤ now ∨ s.idleExpiresAt ≤ now then .error .sessionExpired
  else .ok ()

/-- The active-session predicate of the design document. -/
def UserSession.Live (s : UserSession) (now : Int) : Prop :=
  s.revokedAt = none ∧ now < s.absoluteExpiresAt ∧ now < s.idleExpiresAt

instance (s : UserSession) (now : Int) : Decidable (s.Live now) :=
  inferInstanceAs (Decidable (_ ∧ _ ∧ _))

theorem UserSession.Live.earlier {r : UserSession} {t t' : Int} (hl : r.Live t') (hle : t ≤ t') : r.Live t :=
  ⟨hl.1, by have := hl.2.1; omega, by have := hl.2.2; omega⟩

/-- The first check of `create_user_session`. -/
def IdentityTables.activeTenant (ids : IdentityTables) (tenantId : Uuid) : Bool :=
  ids.tenants.any fun t => t.id == tenantId && t.status == .active

/-- Its second check. -/
def IdentityTables.activeMember (ids : IdentityTables) (userId tenantId : Uuid) : Bool :=
  ids.memberships.any fun m => m.userId == userId && m.tenantId == tenantId && m.status == .active

def Database.createUserSession (db : Database) (now : Int) (id : Uuid) (a : CreateArgs) :
    Except SqlError (Database × Envelope CreatedSession) :=
  if ¬ db.activeTenant a.tenantId then .ok (db, .error .tenantNotFound)
  else if ¬ db.activeMember a.userId a.tenantId then .ok (db, .error .userNotInTenant)
  else
    match db.insertSession (a.row id now) with
    | .error e => .error e
    | .ok db' => .ok (db', .ok (a.row id now).created)

/-- `get_user_session` on the rows of its snapshot; it joins `users` for the email. -/
def getUserSession (users : List User) (sessions : List UserSession) (now : Int) (tokenHash : Bytea) :
    Envelope ActiveSession :=
  let found := (findBy UserSession.tokenHash tokenHash sessions).bind fun s =>
    (findBy User.id s.userId users).map fun u => (s, u)
  match found with
  | none => .error .sessionNotFound
  | some (s, u) => (s.check now).map fun _ => s.active u.email

def Database.getUserSession (db : Database) (now : Int) (tokenHash : Bytea) : Envelope ActiveSession :=
  CleanBackend.getUserSession db.users db.userSessions now tokenHash

def Database.touchUserSession (db : Database) (now : Int) (tokenHash : Bytea) (idleTtl : Int) :
    Database × Envelope Int :=
  match db.sessionOf tokenHash with
  | none => (db, .error .sessionNotFound)
  | some s =>
    match s.check now with
    | .error e => (db, .error e)
    | .ok () =>
      let u := SessionUpdate.slide now idleTtl
      (db.updateSessions u (·.id == s.id), .ok (u.set s).idleExpiresAt)

def Database.rotateUserSession (db : Database) (now : Int) (id : Uuid) (a : RotateArgs) :
    Except SqlError (Database × Envelope CreatedSession) :=
  match db.sessionOf a.oldTokenHash with
  | none => .ok (db, .error .sessionNotFound)
  | some old =>
    match old.check now with
    | .error e => .ok (db, .error e)
    | .ok () =>
      match db.insertSession (a.row id now old) with
      | .error e => .error e
      | .ok db' => .ok (db'.updateSessions (.revoke now) (·.id == old.id), .ok (a.row id now old).created)

/-- Idempotent: a missing or revoked session is a success. -/
def Database.revokeUserSession (db : Database) (now : Int) (tokenHash : Bytea) : Database :=
  db.updateSessions (.revoke now) fun s => s.tokenHash == tokenHash && s.revokedAt.isNone

/-- The `WHERE` of `revoke_all_user_sessions`. -/
def UserSession.revocable (userId tenantId : Uuid) (now : Int) (s : UserSession) : Bool :=
  s.userId == userId && s.tenantId == tenantId && s.revokedAt.isNone && decide (now < s.absoluteExpiresAt) &&
    decide (now < s.idleExpiresAt)

def Database.revokeAllUserSessions (db : Database) (now : Int) (userId tenantId : Uuid) : Database × Nat :=
  let cond := UserSession.revocable userId tenantId now
  (db.updateSessions (.revoke now) cond, db.userSessions.countP cond)

/-! ### Calls -/

inductive SessionCall where
  | create (id : Uuid) (args : CreateArgs)
  | get (tokenHash : Bytea)
  | touch (tokenHash : Bytea) (idleTtl : Int)
  | rotate (id : Uuid) (args : RotateArgs)
  | revoke (tokenHash : Bytea)
  | revokeAll (userId tenantId : Uuid)
  deriving DecidableEq, Repr

/-- The token hash a call brings into the table. -/
def SessionCall.newTokenHash : SessionCall → Option Bytea
  | create _ args => some args.tokenHash
  | rotate _ args => some args.newTokenHash
  | _ => none

inductive SessionReply where
  | created (data : CreatedSession)
  | session (data : ActiveSession)
  | touched (idleExpiresAt : Int)
  | revoked
  | revokedCount (count : Nat)
  | failed (error : DbError)
  | aborted (error : SqlError)
  deriving DecidableEq, Repr

/-- The database and the reply after a function that may abort. -/
def Database.settle {α : Type} (db : Database) (reply : α → SessionReply) :
    Except SqlError (Database × Envelope α) → Database × SessionReply
  | .error e => (db, .aborted e)
  | .ok (db', .error e) => (db', .failed e)
  | .ok (db', .ok data) => (db', reply data)

def SessionCall.exec (db : Database) (now : Int) : SessionCall → Database × SessionReply
  | .create id args => db.settle .created (db.createUserSession now id args)
  | .get tokenHash => db.settle .session (.ok (db, db.getUserSession now tokenHash))
  | .touch tokenHash idleTtl => db.settle .touched (.ok (db.touchUserSession now tokenHash idleTtl))
  | .rotate id args => db.settle .created (db.rotateUserSession now id args)
  | .revoke tokenHash => (db.revokeUserSession now tokenHash, .revoked)
  | .revokeAll userId tenantId =>
    let (db', count) := db.revokeAllUserSessions now userId tenantId
    (db', .revokedCount count)

theorem Database.settle_cases {α : Type} (db : Database) (reply : α → SessionReply)
    (r : Except SqlError (Database × Envelope α)) :
    (∃ e, r = .error e ∧ db.settle reply r = (db, .aborted e)) ∨
    (∃ db' e, r = .ok (db', .error e) ∧ db.settle reply r = (db', .failed e)) ∨
    (∃ db' d, r = .ok (db', .ok d) ∧ db.settle reply r = (db', reply d)) := by
  rcases r with e | ⟨db', e | d⟩
  · exact Or.inl ⟨e, rfl, rfl⟩
  · exact Or.inr (Or.inl ⟨db', e, rfl, rfl⟩)
  · exact Or.inr (Or.inr ⟨db', d, rfl, rfl⟩)

/-! ### What each function does -/

/-- The three outcomes of the check. -/
theorem UserSession.check_cases (s : UserSession) (now : Int) :
    (s.Live now ∧ s.check now = .ok ()) ∨
    (s.revokedAt.isSome ∧ s.check now = .error .sessionRevoked) ∨
    (s.revokedAt = none ∧ ¬ s.Live now ∧ s.check now = .error .sessionExpired) := by
  unfold UserSession.check UserSession.Live
  cases hr : s.revokedAt with
  | some t => right; left; simp
  | none =>
    by_cases h : s.absoluteExpiresAt ≤ now ∨ s.idleExpiresAt ≤ now
    · right; right
      refine ⟨rfl, ?_, by simp [h]⟩
      rintro ⟨-, h₁, h₂⟩
      omega
    · left
      exact ⟨⟨rfl, by omega, by omega⟩, by simp [h]⟩

theorem UserSession.check_ok {s : UserSession} {now : Int} : s.check now = .ok () ↔ s.Live now := by
  rcases s.check_cases now with ⟨hl, hc⟩ | ⟨hr, hc⟩ | ⟨-, hl, hc⟩
  · exact ⟨fun _ => hl, fun _ => hc⟩
  · rw [hc]
    constructor
    · intro h; cases h
    · rintro ⟨h, -⟩; rw [h] at hr; cases hr
  · rw [hc]
    exact ⟨fun h => (nomatch h), fun h => absurd h hl⟩

/-- The user of a session exists, so the join of `get_user_session` never loses a session. -/
private theorem Database.user_of_session {db : Database} {h : Bytea} {s : UserSession}
    (hs : db.sessionOf h = some s) :
    ∃ u, findBy User.id s.userId db.users = some u := by
  obtain ⟨u, hu, he⟩ := List.mem_map.1 (db.sessions_user_fkey s (sessionOf_mem hs).1)
  exact ⟨u, by rw [← he]; exact db.users_pkey.findBy_of_mem hu⟩

theorem Database.getUserSession_none {db : Database} {h : Bytea} (now : Int) (hs : db.sessionOf h = none) :
    db.getUserSession now h = .error .sessionNotFound := by
  unfold sessionOf at hs
  simp [getUserSession, CleanBackend.getUserSession, hs]

theorem Database.getUserSession_some {db : Database} {h : Bytea} {s : UserSession} (now : Int)
    (hs : db.sessionOf h = some s) :
    ∃ u, findBy User.id s.userId db.users = some u ∧
      db.getUserSession now h = (s.check now).map fun _ => s.active u.email := by
  obtain ⟨u, hu⟩ := user_of_session hs
  unfold sessionOf at hs
  exact ⟨u, hu, by simp [getUserSession, CleanBackend.getUserSession, hs, hu]⟩

/-- A session that is resolved is in the snapshot, and live. -/
theorem getUserSession_ok {users : List User} {rows : List UserSession} {now : Int} {h : Bytea}
    {data : ActiveSession} (hg : getUserSession users rows now h = .ok data) :
    ∃ r, findBy UserSession.tokenHash h rows = some r ∧ r.Live now := by
  simp only [getUserSession] at hg
  split at hg
  · cases hg
  · rename_i r u hf
    obtain ⟨r', hr', hu⟩ := Option.bind_eq_some_iff.1 hf
    obtain ⟨u', -, he⟩ := Option.map_eq_some_iff.1 hu
    cases he
    refine ⟨r, hr', ?_⟩
    cases hc : r.check now with
    | error e => rw [hc] at hg; cases hg
    | ok _ => exact UserSession.check_ok.1 hc

/-- A successful `create_user_session` inserted its row. -/
theorem Database.createUserSession_ok {db db' : Database} {now : Int} {id : Uuid} {a : CreateArgs}
    {d : CreatedSession} (h : db.createUserSession now id a = .ok (db', .ok d)) :
    db.insertSession (a.row id now) = .ok db' ∧ d = (a.row id now).created := by
  unfold createUserSession at h
  split at h
  · cases h
  · split at h
    · cases h
    · split at h
      · cases h
      · rename_i hi
        cases h
        exact ⟨hi, rfl⟩

/-- A failed `create_user_session` changed nothing. -/
theorem Database.createUserSession_error {db db' : Database} {now : Int} {id : Uuid} {a : CreateArgs}
    {e : DbError} (h : db.createUserSession now id a = .ok (db', .error e)) : db' = db := by
  unfold createUserSession at h
  split at h
  · cases h; rfl
  · split at h
    · cases h; rfl
    · split at h <;> cases h

/-- A successful `rotate_user_session` found a live session, inserted its successor and revoked it. -/
theorem Database.rotateUserSession_ok {db db' : Database} {now : Int} {id : Uuid} {a : RotateArgs}
    {d : CreatedSession} (h : db.rotateUserSession now id a = .ok (db', .ok d)) :
    ∃ old db₁, db.sessionOf a.oldTokenHash = some old ∧ old.Live now ∧
      db.insertSession (a.row id now old) = .ok db₁ ∧
      db' = db₁.updateSessions (.revoke now) (·.id == old.id) ∧ d = (a.row id now old).created := by
  unfold rotateUserSession at h
  split at h
  · cases h
  · rename_i old hold
    split at h
    · cases h
    · rename_i hc
      split at h
      · cases h
      · rename_i db₁ hi
        cases h
        exact ⟨old, db₁, hold, UserSession.check_ok.1 hc, hi, rfl, rfl⟩

theorem Database.rotateUserSession_error {db db' : Database} {now : Int} {id : Uuid} {a : RotateArgs}
    {e : DbError} (h : db.rotateUserSession now id a = .ok (db', .error e)) : db' = db := by
  unfold rotateUserSession at h
  split at h
  · cases h; rfl
  · split at h
    · cases h; rfl
    · split at h <;> cases h

/-- A successful `touch_user_session` found a live session and slid its idle expiry. -/
theorem Database.touchUserSession_ok {db db' : Database} {now : Int} {h : Bytea} {idleTtl : Int}
    {t : Int} (ht : db.touchUserSession now h idleTtl = (db', .ok t)) :
    ∃ s, db.sessionOf h = some s ∧ s.Live now ∧
      db' = db.updateSessions (.slide now idleTtl) (·.id == s.id) ∧ t = min (now + idleTtl) s.absoluteExpiresAt := by
  unfold touchUserSession at ht
  split at ht
  · cases ht
  · rename_i s hs
    split at ht
    · cases ht
    · rename_i hc
      cases ht
      exact ⟨s, hs, UserSession.check_ok.1 hc, rfl, rfl⟩

theorem Database.touchUserSession_error {db db' : Database} {now : Int} {h : Bytea} {idleTtl : Int}
    {e : DbError} (ht : db.touchUserSession now h idleTtl = (db', .error e)) : db' = db := by
  unfold touchUserSession at ht
  split at ht
  · cases ht; rfl
  · split at ht
    · cases ht; rfl
    · cases ht

/-! ### The ids of the rows -/

/-- The id a call brings into the table. -/
def SessionCall.newRowId : SessionCall → Option Uuid
  | create id _ | rotate id _ => some id
  | _ => none

theorem Database.ids_update (db : Database) (u : SessionUpdate) (cond : UserSession → Bool) :
    (db.updateSessions u cond).userSessions.map UserSession.id = db.userSessions.map UserSession.id := by
  show (db.userSessions.map (u.on cond)).map UserSession.id = _
  rw [List.map_map]
  exact List.map_congr_left fun s _ => u.on_id cond s

/-- A call brings no other id. -/
theorem SessionCall.exec_ids (call : SessionCall) {db : Database} {now : Int} {i : Uuid}
    (hi : i ∉ db.userSessions.map UserSession.id) (hn : call.newRowId ≠ some i) :
    i ∉ (call.exec db now).1.userSessions.map UserSession.id := by
  have hinsert : ∀ {s : UserSession} {db' : Database}, db.insertSession s = .ok db' → s.id ≠ i →
      i ∉ db'.userSessions.map UserSession.id := by
    intro s db' hins hne
    rw [(Database.insertSession_ok hins).1, List.map_append, List.mem_append, not_or]
    exact ⟨hi, by simpa using hne.symm⟩
  cases call with
  | create id a =>
    simp only [exec]
    rcases db.settle_cases .created (db.createUserSession now id a) with
      ⟨e, -, hs⟩ | ⟨db', e, hc, hs⟩ | ⟨db', d, hc, hs⟩ <;> rw [hs]
    · exact hi
    · rw [Database.createUserSession_error hc]
      exact hi
    · exact hinsert (Database.createUserSession_ok hc).1 fun he => hn (by rw [← he]; rfl)
  | get h =>
    simp only [exec]
    cases db.getUserSession now h <;> exact hi
  | touch h idleTtl =>
    simp only [exec]
    rcases db.settle_cases .touched (.ok (db.touchUserSession now h idleTtl)) with
      ⟨e, hc, -⟩ | ⟨db', e, hc, hs⟩ | ⟨db', d, hc, hs⟩
    · cases hc
    · rw [hs, Database.touchUserSession_error (Except.ok.inj hc)]
      exact hi
    · obtain ⟨s, -, -, hdb, -⟩ := Database.touchUserSession_ok (Except.ok.inj hc)
      rw [hs, hdb, Database.ids_update]
      exact hi
  | rotate id a =>
    simp only [exec]
    rcases db.settle_cases .created (db.rotateUserSession now id a) with
      ⟨e, -, hs⟩ | ⟨db', e, hc, hs⟩ | ⟨db', d, hc, hs⟩ <;> rw [hs]
    · exact hi
    · rw [Database.rotateUserSession_error hc]
      exact hi
    · obtain ⟨old, db₁, -, -, hins, hdb, -⟩ := Database.rotateUserSession_ok hc
      rw [hdb, Database.ids_update]
      exact hinsert hins fun he => hn (by rw [← he]; rfl)
  | revoke h =>
    show i ∉ (db.revokeUserSession now h).userSessions.map UserSession.id
    rw [Database.revokeUserSession, Database.ids_update]
    exact hi
  | revokeAll u t =>
    show i ∉ (db.updateSessions (.revoke now) (UserSession.revocable u t now)).userSessions.map UserSession.id
    rw [Database.ids_update]
    exact hi

end CleanBackend
