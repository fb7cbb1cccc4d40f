import CleanBackend.Auth.SessionStoresAgree

/-!
# What the routes rely on

The auth routes use a session repository through `get`, `touch`, `rotate` and `revoke`.  `SessionStore` is a
repository with the tokens that have an unrevoked session, and `SessionStore.Lawful` says what the four calls do to
them.  Both repositories are lawful.
-/

namespace CleanBackend

/-- A session repository, and which tokens have a session that is not revoked. -/
structure SessionStore (σ : Type) where
  exec : σ → RepositoryStep → σ × RepositoryAnswer
  Unrevoked : σ → String → Prop

/-- The calls of the routes on tokens of `T`: only unrevoked sessions are resolved and rotated, `rotate` passes the
session on to the new token, `revoke` revokes, and nothing else changes. -/
structure SessionStore.Lawful {σ : Type} (S : SessionStore σ) (T : List String) : Prop where
  get (s : σ) (now : Int) (token : String) (i : Uuid) (d : Draws) : (S.exec s ⟨now, .get token, i, d⟩).1 = s
  of_get {s : σ} {now : Int} {token : String} {i : Uuid} {d : Draws} {dto : ActiveSessionDTO} :
    (S.exec s ⟨now, .get token, i, d⟩).2 = .session dto → S.Unrevoked s token
  touch (s : σ) (now : Int) (token : String) (ttl : Int) (i : Uuid) (d : Draws) (t : String) :
    S.Unrevoked (S.exec s ⟨now, .touch token ttl, i, d⟩).1 t ↔ S.Unrevoked s t
  rotate {s : σ} {now : Int} {p : RotateParams} {i : Uuid} {d : Draws} {dto : CreatedSessionDTO}
    (hold : p.oldSessionToken ∈ T) (hnew : p.newSessionToken ∈ T)
    (h : (S.exec s ⟨now, .rotate p, i, d⟩).2 = .created dto) :
    S.Unrevoked s p.oldSessionToken ∧ ∀ t ∈ T, S.Unrevoked (S.exec s ⟨now, .rotate p, i, d⟩).1 t ↔
      t = p.newSessionToken ∨ t ≠ p.oldSessionToken ∧ S.Unrevoked s t
  rotate_raised {s : σ} {now : Int} {p : RotateParams} {i : Uuid} {d : Draws}
    (h : ∀ dto, (S.exec s ⟨now, .rotate p, i, d⟩).2 ≠ .created dto) : (S.exec s ⟨now, .rotate p, i, d⟩).1 = s
  revoke (s : σ) (now : Int) {token : String} (i : Uuid) (d : Draws) (ht : token ∈ T) :
    ∀ t ∈ T, S.Unrevoked (S.exec s ⟨now, .revoke token, i, d⟩).1 t ↔ t ≠ token ∧ S.Unrevoked s t

/-! ### The in-memory repository -/

namespace FakeSessionRepository

/-- The session of a token has no `revoked_at`. -/
def Unrevoked (r : FakeSessionRepository) (token : String) : Prop :=
  ∃ stored, r.sessions.get token = some stored ∧ stored.revokedAt = none

def store : SessionStore FakeSessionRepository := ⟨execStep, Unrevoked⟩

private theorem active_unrevoked {r : FakeSessionRepository} {now : Int} {token : String} {stored : StoredSession}
    (h : r.active now token = .ok stored) : stored.revokedAt = none := by
  have hget := active_ok h
  unfold active at h
  rw [hget] at h
  simp only at h
  split at h
  · cases h
  · rename_i hr
    exact Option.not_isSome_iff_eq_none.1 hr

/-- A session is put under a token. -/
private theorem unrevoked_set {r : FakeSessionRepository} {token : String} {stored : StoredSession} (t : String) :
    Unrevoked { r with sessions := r.sessions.set token stored } t ↔
      if token = t then stored.revokedAt = none else r.Unrevoked t := by
  unfold Unrevoked
  simp only [PyDict.get_set]
  split <;> simp

theorem store_lawful (T : List String) : store.Lawful T where
  get _ _ _ _ _ := rfl
  of_get {r now token _ _ _} h := by
    have h : RepositoryAnswer.of .session (r.get now token) = .session _ := h
    unfold get at h
    cases hact : r.active now token with
    | error e => rw [hact] at h; cases h
    | ok stored => exact ⟨stored, active_ok hact, active_unrevoked hact⟩
  touch r now token ttl _ _ t := by
    show Unrevoked (r.touch now token ttl).1 t ↔ r.Unrevoked t
    unfold touch
    cases hact : r.active now token with
    | error e => exact Iff.rfl
    | ok stored =>
      cases datetimeAfter now ttl with
      | error e => exact Iff.rfl
      | ok idle =>
        rw [unrevoked_set]
        split
        · rename_i ht
          subst ht
          have hrev := active_unrevoked hact
          exact ⟨fun _ => ⟨stored, active_ok hact, hrev⟩, fun _ => hrev⟩
        · exact Iff.rfl
  rotate {r now p i _ _} _ _ h := by
    have h : RepositoryAnswer.of .created (r.rotate now i p).2 = .created _ := h
    show r.Unrevoked _ ∧ ∀ t ∈ T, Unrevoked (r.rotate now i p).1 t ↔ _
    unfold rotate at h ⊢
    cases hact : r.active now p.oldSessionToken with
    | error e => rw [hact] at h; cases h
    | ok old =>
      refine ⟨⟨old, active_ok hact, active_unrevoked hact⟩, fun t _ => ?_⟩
      rw [hact] at h
      cases hidle : datetimeAfter now p.idleTtlSeconds with
      | error e => rw [hidle] at h; cases h
      | ok idle => ?_
      simp only
      rw [unrevoked_set (r := { r with sessions := r.sessions.set p.oldSessionToken _ }), unrevoked_set]
      by_cases hn : p.newSessionToken = t
      · simp [hn]
      · by_cases ho : p.oldSessionToken = t
        · simp [ho, hn, Ne.symm hn]
        · simp only [ho, hn, Ne.symm ho, Ne.symm hn, if_false, false_or, not_false_eq_true, ne_eq, true_and]
          exact Iff.rfl
  rotate_raised {r now p i _} h := by
    have h : ∀ dto, RepositoryAnswer.of .created (r.rotate now i p).2 ≠ .created dto := h
    show (r.rotate now i p).1 = r
    unfold rotate at h ⊢
    cases hact : r.active now p.oldSessionToken with
    | error e => rfl
    | ok old =>
      rw [hact] at h
      cases hidle : datetimeAfter now p.idleTtlSeconds with
      | error e => rfl
      | ok idle => rw [hidle] at h; exact absurd rfl (h _)
  revoke r now token _ _ _ t _ := by
    show Unrevoked (r.revoke now token) t ↔ t ≠ token ∧ r.Unrevoked t
    unfold revoke
    cases hg : r.sessions.get token with
    | none =>
      refine ⟨fun hu => ⟨?_, hu⟩, fun hu => hu.2⟩
      rintro rfl
      obtain ⟨stored, hs, -⟩ := hu
      rw [hg] at hs
      cases hs
    | some stored =>
      simp only
      split
      · rw [unrevoked_set]
        by_cases ht : token = t
        · simp [ht]
        · simp [ht, Ne.symm ht]
      · rename_i hr
        refine ⟨fun hu => ⟨?_, hu⟩, fun hu => hu.2⟩
        rintro rfl
        obtain ⟨stored', hs, hn⟩ := hu
        rw [hg] at hs
        cases hs
        exact hr (by rw [hn]; rfl)

end FakeSessionRepository

/-! ### The PostgreSQL repository -/

namespace AdapterEnv

variable (env : AdapterEnv)

/-- The session of a token has no `revoked_at`. -/
def Unrevoked (db : Database) (token : String) : Prop :=
  ∃ row, db.sessionOf (env.hashSessionToken token) = some row ∧ row.revokedAt = none

def store : SessionStore Database := ⟨env.execStep, env.Unrevoked⟩

variable {env}

/-- A query whose session function failed or was aborted raises. -/
theorem query_settled {α β : Type} {db : Database} {now : Int} (call : SessionCall) {reply : β → SessionReply}
    {r : Except SqlError (Database × Envelope β)} (hexec : call.exec db now = db.settle reply r)
    (read : PyDict String Json → Except RepositoryError α) (answer : α → RepositoryAnswer)
    (hfailed : ∀ db' e, r = .ok (db', .error e) → db' = db) :
    ((env.query db now call read answer).1 = db ∧ ∃ e, (env.query db now call read answer).2 = .raised e) ∨
    ∃ db' data, r = .ok (db', .ok data) ∧
      env.query db now call read answer = (db', .of answer (callEnvelope (env.envelope (reply data)) >>= read)) := by
  rcases db.settle_cases reply r with ⟨e, -, hs⟩ | ⟨db', e, hr, hs⟩ | ⟨db', data, hr, hs⟩
  · rw [Agree.query_eq (hexec.trans hs)]
    exact Or.inl ⟨rfl, _, rfl⟩
  · rw [Agree.query_eq (hexec.trans hs), read_failed]
    exact Or.inl ⟨hfailed db' e hr, _, rfl⟩
  · exact Or.inr ⟨db', data, hr, Agree.query_eq (hexec.trans hs)⟩

private theorem unrevoked_update {db : Database} {h : Bytea} {row : UserSession} (hs : db.sessionOf h = some row)
    (u : SessionUpdate) (t : String) :
    env.Unrevoked (db.updateSessions u (·.id == row.id)) t ↔
      if env.hashSessionToken t = h then (u.set row).revokedAt = none else env.Unrevoked db t := by
  unfold Unrevoked
  simp only [Database.sessionOf_update_id hs]
  split <;> simp

private theorem unrevoked_insert {db db' : Database} {row : UserSession} (hins : db.insertSession row = .ok db')
    (t : String) :
    env.Unrevoked db' t ↔
      if row.tokenHash = env.hashSessionToken t then row.revokedAt = none else env.Unrevoked db t := by
  unfold Unrevoked
  simp only [Database.sessionOf_insert hins]
  split <;> simp

/-- `rotate` raises and changes nothing, or rotates. -/
theorem rotate_cases (henv : env.Lawful) (db : Database) (now : Int) (draws : Draws) (p : RotateParams) :
    ((env.exec db now draws (.rotate p)).1 = db ∧ ∃ e, (env.exec db now draws (.rotate p)).2 = .raised e) ∨
    ∃ old db₁ dto, db.sessionOf (env.hashSessionToken p.oldSessionToken) = some old ∧ old.Live now ∧
      db.insertSession ((env.rotateArgs now draws p).row draws.rowId now old) = .ok db₁ ∧
      env.exec db now draws (.rotate p) = (db₁.updateSessions (.revoke now) (·.id == old.id), .created dto) := by
  have hexec : (SessionCall.rotate draws.rowId (env.rotateArgs now draws p)).exec db now =
      db.settle .created (db.rotateUserSession now draws.rowId (env.rotateArgs now draws p)) := rfl
  rcases query_settled _ hexec env.createdDTO .created fun db' e he => Database.rotateUserSession_error he
    with h | ⟨db', data, hr, he⟩
  · exact Or.inl h
  · obtain ⟨old, db₁, hs, hlive, hins, rfl, rfl⟩ := Database.rotateUserSession_ok hr
    rw [read_created henv.toLawfulOn trivial trivial] at he
    exact Or.inr ⟨old, db₁, _, hs, hlive, hins, he⟩

/-- `get` changes nothing, and resolves unrevoked sessions only. -/
theorem get_cases (db : Database) (now : Int) (draws : Draws) (token : String) :
    (env.exec db now draws (.get token)).1 = db ∧
      ∀ dto, (env.exec db now draws (.get token)).2 = .session dto → env.Unrevoked db token := by
  have hexec : (SessionCall.get (env.hashSessionToken token)).exec db now =
      db.settle .session (.ok (db, db.getUserSession now (env.hashSessionToken token))) := rfl
  rcases query_settled _ hexec env.activeDTO .session fun db' e he => (Prod.mk.inj (Except.ok.inj he)).1.symm
    with ⟨hdb, e, he⟩ | ⟨db', data, hr, he⟩
  · exact ⟨hdb, fun dto h => nomatch h.symm.trans he⟩
  · obtain ⟨rfl, hget⟩ := Prod.mk.inj (Except.ok.inj hr)
    obtain ⟨row, hs, hlive⟩ := getUserSession_ok hget
    exact ⟨congrArg Prod.fst he, fun _ _ => ⟨row, hs, hlive.1⟩⟩

/-! ### Calls on a live session -/

/-- A session that is read back has its tokens as plaintexts. -/
private theorem read_session_tokens (henv : env.Lawful) {d : ActiveSession} {dto : ActiveSessionDTO}
    (h : (callEnvelope (env.envelope (.session d)) >>= env.activeDTO) = .ok dto) :
    env.decrypt d.gotrueAccessToken = .ok dto.gotrueAccessToken ∧
      env.decrypt d.gotrueRefreshToken = .ok dto.gotrueRefreshToken := by
  cases ha : env.decrypt d.gotrueAccessToken with
  | error e =>
    rw [read_session_access ha] at h
    cases h
  | ok access =>
    cases hr : env.decrypt d.gotrueRefreshToken with
    | error e =>
      rw [read_session_refresh ha hr] at h
      cases h
    | ok refresh =>
      have hdto := Except.ok.inj ((read_session henv.toLawfulOn (d := d) .unbounded ha hr).symm.trans h)
      exact ⟨congrArg (Except.ok ∘ ActiveSessionDTO.gotrueAccessToken) hdto,
        congrArg (Except.ok ∘ ActiveSessionDTO.gotrueRefreshToken) hdto⟩

/-- What `get` resolves is a live session, with its tokens decrypted. -/
theorem get_session (henv : env.Lawful) {db : Database} {now : Int} {draws : Draws} {token : String}
    {dto : ActiveSessionDTO} (h : (env.exec db now draws (.get token)).2 = .session dto) :
    ∃ row, db.sessionOf (env.hashSessionToken token) = some row ∧ row.Live now ∧
      env.decrypt row.gotrueAccessToken = .ok dto.gotrueAccessToken ∧
      env.decrypt row.gotrueRefreshToken = .ok dto.gotrueRefreshToken := by
  have hexec : (SessionCall.get (env.hashSessionToken token)).exec db now =
      db.settle .session (.ok (db, db.getUserSession now (env.hashSessionToken token))) := rfl
  rcases query_settled _ hexec env.activeDTO .session fun db' e he => (Prod.mk.inj (Except.ok.inj he)).1.symm
    with ⟨-, e, he⟩ | ⟨db', data, hr, he⟩
  · cases h.symm.trans he
  · obtain ⟨-, hget⟩ := Prod.mk.inj (Except.ok.inj hr)
    have h : RepositoryAnswer.of .session (callEnvelope (env.envelope (.session data)) >>= env.activeDTO) =
        .session dto := (congrArg Prod.snd he).symm.trans h
    have hdto : (callEnvelope (env.envelope (.session data)) >>= env.activeDTO) = .ok dto := by
      cases hread : callEnvelope (env.envelope (.session data)) >>= env.activeDTO with
      | error e => rw [hread] at h; cases h
      | ok dto' => rw [hread] at h; cases h; rfl
    cases hs : db.sessionOf (env.hashSessionToken token) with
    | none =>
      rw [Database.getUserSession_none now hs] at hget
      cases hget
    | some row =>
      obtain ⟨user, -, hget'⟩ := Database.getUserSession_some now hs
      rw [hget'] at hget
      cases hc : row.check now with
      | error e => rw [hc] at hget; cases hget
      | ok _ =>
        rw [hc] at hget
        cases hget
        exact ⟨row, rfl, UserSession.check_ok.1 hc, read_session_tokens henv hdto⟩

/-- `touch` changes nothing, or slides the row of a live session. -/
theorem touch_cases (env : AdapterEnv) (db : Database) (now : Int) (draws : Draws) (token : String)
    (idleTtlSeconds : Int) :
    (env.exec db now draws (.touch token idleTtlSeconds)).1 = db ∨
    ∃ row, db.sessionOf (env.hashSessionToken token) = some row ∧ row.Live now ∧
      (env.exec db now draws (.touch token idleTtlSeconds)).1 =
        db.updateSessions (.slide now (env.intervalLength now idleTtlSeconds)) (·.id == row.id) := by
  have hexec : (SessionCall.touch (env.hashSessionToken token) (env.intervalLength now idleTtlSeconds)).exec db now =
      db.settle .touched (.ok (db.touchUserSession now (env.hashSessionToken token)
        (env.intervalLength now idleTtlSeconds))) := rfl
  rcases query_settled _ hexec (fun data => item data "idle_expires_at" >>= datetimeField env.fromisoformat) .touched
    fun db' e he => Database.touchUserSession_error (Except.ok.inj he) with ⟨h, -⟩ | ⟨db', data, hr, he⟩
  · exact Or.inl h
  · obtain ⟨row, hs, hlive, rfl, -⟩ := Database.touchUserSession_ok (Except.ok.inj hr)
    exact Or.inr ⟨row, hs, hlive, congrArg Prod.fst he⟩

/-- A live session whose tokens decrypt is resolved. -/
theorem exec_get_live (henv : env.Lawful) {db : Database} {now : Int} {token : String}
    {row : UserSession} (hs : db.sessionOf (env.hashSessionToken token) = some row) (hlive : row.Live now)
    {access refresh : String} (ha : env.decrypt row.gotrueAccessToken = .ok access)
    (hr : env.decrypt row.gotrueRefreshToken = .ok refresh) (draws : Draws) :
    ∃ dto, env.exec db now draws (.get token) = (db, .session dto) := by
  obtain ⟨user, -, hget⟩ := Database.getUserSession_some now hs
  rw [UserSession.check_ok.2 hlive] at hget
  have hexec : (SessionCall.get (env.hashSessionToken token)).exec db now =
      (db, .session (row.active user.email)) := by
    rw [SessionCall.exec, hget]
    rfl
  have he : env.exec db now draws (.get token) = (db, .of .session
      (callEnvelope (env.envelope (.session (row.active user.email))) >>= env.activeDTO)) := Agree.query_eq hexec
  rw [read_session henv.toLawfulOn .unbounded ha hr] at he
  exact ⟨_, he⟩

/-- The touch of a live session slides its row. -/
theorem exec_touch_live (henv : env.Lawful) {db : Database} {now : Int} {token : String}
    {row : UserSession} (hs : db.sessionOf (env.hashSessionToken token) = some row) (hlive : row.Live now)
    (idleTtlSeconds : Int) (draws : Draws) :
    ∃ idle, env.exec db now draws (.touch token idleTtlSeconds) =
      (db.updateSessions (.slide now (env.intervalLength now idleTtlSeconds)) (·.id == row.id), .touched idle) := by
  have htouch : db.touchUserSession now (env.hashSessionToken token) (env.intervalLength now idleTtlSeconds) =
      (db.updateSessions (.slide now (env.intervalLength now idleTtlSeconds)) (·.id == row.id),
        .ok ((SessionUpdate.slide now (env.intervalLength now idleTtlSeconds)).set row).idleExpiresAt) := by
    rw [Database.touchUserSession, hs]
    simp only [UserSession.check_ok.2 hlive]
  have hexec : (SessionCall.touch (env.hashSessionToken token) (env.intervalLength now idleTtlSeconds)).exec db now =
      (db.updateSessions (.slide now (env.intervalLength now idleTtlSeconds)) (·.id == row.id),
        .touched ((SessionUpdate.slide now (env.intervalLength now idleTtlSeconds)).set row).idleExpiresAt) := by
    rw [SessionCall.exec, htouch]
    rfl
  have he : env.exec db now draws (.touch token idleTtlSeconds) = (_, .of .touched
      (callEnvelope (env.envelope (.touched _)) >>= fun data =>
        item data "idle_expires_at" >>= datetimeField env.fromisoformat)) := Agree.query_eq hexec
  rw [read_touched henv.toLawfulOn trivial] at he
  exact ⟨_, he⟩

/-- The rotation of a live session, to a token and an id that are not taken. -/
theorem exec_rotate_live (henv : env.Lawful) {db : Database} {now : Int} {p : RotateParams}
    {row : UserSession} (hs : db.sessionOf (env.hashSessionToken p.oldSessionToken) = some row) (hlive : row.Live now)
    {draws : Draws} (hid : draws.rowId ∉ db.userSessions.map UserSession.id)
    (hnew : db.sessionOf (env.hashSessionToken p.newSessionToken) = none) :
    ∃ db₁ dto, db.insertSession ((env.rotateArgs now draws p).row draws.rowId now row) = .ok db₁ ∧
      env.exec db now draws (.rotate p) = (db₁.updateSessions (.revoke now) (·.id == row.id), .created dto) := by
  obtain ⟨hmem, -⟩ := Database.sessionOf_mem hs
  have hfree : env.hashSessionToken p.newSessionToken ∉ db.userSessions.map UserSession.tokenHash := by
    intro hin
    obtain ⟨row', hrow', heq⟩ := List.mem_map.1 hin
    rw [← heq, Database.sessionOf_of_mem hrow'] at hnew
    cases hnew
  have hold : ∀ o, some row.id = some o → o ∈ db.userSessions.map UserSession.id := by
    rintro o ⟨⟩
    exact List.mem_map_of_mem hmem
  obtain ⟨db₁, hins⟩ := db.insertSession_accepts ((env.rotateArgs now draws p).row draws.rowId now row)
    (Int.min_le_right _ _) (henv.sha256_length _) hid hfree (db.sessions_user_fkey row hmem)
    (db.sessions_tenant_fkey row hmem) hold
  have hrotate : db.rotateUserSession now draws.rowId (env.rotateArgs now draws p) =
      .ok (db₁.updateSessions (.revoke now) (·.id == row.id),
        .ok ((env.rotateArgs now draws p).row draws.rowId now row).created) := by
    have hs : db.sessionOf (env.rotateArgs now draws p).oldTokenHash = some row := hs
    simp only [Database.rotateUserSession, hs, UserSession.check_ok.2 hlive, hins]
  have hexec : (SessionCall.rotate draws.rowId (env.rotateArgs now draws p)).exec db now =
      (db₁.updateSessions (.revoke now) (·.id == row.id),
        .created ((env.rotateArgs now draws p).row draws.rowId now row).created) := by
    rw [SessionCall.exec, hrotate]
    rfl
  have he : env.exec db now draws (.rotate p) = (_, .of .created
      (callEnvelope (env.envelope (.created _)) >>= env.createdDTO)) := Agree.query_eq hexec
  rw [read_created henv.toLawfulOn trivial trivial] at he
  exact ⟨db₁, _, hins, he⟩

/-! ### The repository is lawful -/

theorem store_lawful (henv : env.Lawful) {T : List String} (hT : env.Separates T) : env.store.Lawful T where
  get db now token i d := (get_cases db now d token).1
  of_get {db now token i d dto} h := (get_cases db now d token).2 dto h
  touch db now token ttl i d t := by
    show env.Unrevoked (env.exec db now d (.touch token ttl)).1 t ↔ _
    rcases touch_cases env db now d token ttl with h | ⟨row, hs, hlive, he⟩
    · exact iff_of_eq (congrArg (env.Unrevoked · t) h)
    · rw [he, unrevoked_update hs]
      split
      · rename_i ht
        refine ⟨fun hn => ⟨row, ?_, hn⟩, fun _ => hlive.1⟩
        rw [ht, hs]
      · exact Iff.rfl
  rotate {db now p i d dto} hold hnew h := by
    have h : (env.exec db now d (.rotate p)).2 = .created dto := h
    show env.Unrevoked db _ ∧ ∀ t ∈ T, env.Unrevoked (env.exec db now d (.rotate p)).1 t ↔ _
    rcases rotate_cases henv db now d p with ⟨-, e, he⟩ | ⟨old, db₁, dto', hs, hlive, hins, he⟩
    · cases h.symm.trans he
    · refine ⟨⟨old, hs, hlive.1⟩, fun t ht => ?_⟩
      have hne : env.hashSessionToken p.newSessionToken ≠ env.hashSessionToken p.oldSessionToken :=
        Database.tokenHash_ne_of_insert hins hs
      have hs₁ : db₁.sessionOf (env.hashSessionToken p.oldSessionToken) = some old :=
        Database.sessionOf_insert_of_some hins hs
      rw [he, unrevoked_update hs₁, unrevoked_insert hins]
      have hrow : ((env.rotateArgs now d p).row d.rowId now old).tokenHash = env.hashSessionToken p.newSessionToken :=
          rfl
      rw [hrow]
      by_cases ho : t = p.oldSessionToken
      · subst ho
        have hnt : p.oldSessionToken ≠ p.newSessionToken := fun heq => hne (congrArg env.hashSessionToken heq).symm
        simp [hnt, SessionUpdate.revoke]
      · rw [if_neg fun heq => ho (hT t ht _ hold heq)]
        by_cases hn : t = p.newSessionToken
        · subst hn
          simp [RotateArgs.row]
        · rw [if_neg fun heq => hn (hT _ hnew t ht heq).symm]
          simp only [ho, hn, false_or, not_false_eq_true, ne_eq, true_and]
          exact Iff.rfl
  rotate_raised {db now p i d} h := by
    have h : ∀ dto, (env.exec db now d (.rotate p)).2 ≠ .created dto := h
    show (env.exec db now d (.rotate p)).1 = db
    rcases rotate_cases henv db now d p with ⟨hdb, -⟩ | ⟨old, db₁, dto, -, -, -, he⟩
    · exact hdb
    · exact absurd (congrArg Prod.snd he) (h dto)
  revoke db now token i d htok t ht := by
    show env.Unrevoked (db.revokeUserSession now (env.hashSessionToken token)) t ↔ _
    unfold Database.revokeUserSession Unrevoked
    rw [Database.sessionOf_update]
    show _ ↔ t ≠ token ∧ env.Unrevoked db t
    unfold Unrevoked
    cases hs : db.sessionOf (env.hashSessionToken t) with
    | none => simp
    | some row =>
      have hh := (Database.sessionOf_mem hs).2
      by_cases htt : t = token
      · subst htt
        cases hr : row.revokedAt <;> simp [SessionUpdate.on, hh, hr, SessionUpdate.revoke]
      · have hne : env.hashSessionToken t ≠ env.hashSessionToken token := fun heq => htt (hT t ht token htok heq)
        simp [SessionUpdate.on, hh, hne, htt]

end AdapterEnv

/-! ### A sample login -/

/-- The login of `sampleSteps`. -/
def sampleLogin : RepositoryStep :=
  ⟨1767225600000000, .create ⟨"token-1", "00000000-0000-0000-0000-000000000001",
    "00000000-0000-0000-0000-000000000001", "access-1", "refresh-1", none, 2592000, 86400, none, none⟩, 101,
    ⟨201, sampleDraw 1, sampleDraw 2⟩⟩

def sampleDatabase : Database := (sampleEnv.execStep (Database.empty oneMember) sampleLogin).1

theorem sampleDatabase_session : ∃ row, sampleDatabase.sessionOf (sampleEnv.hashSessionToken "token-1") = some row ∧
    row.revokedAt = none ∧ row.absoluteExpiresAt = 1769817600000000 ∧ row.idleExpiresAt = 1767312000000000 ∧
    sampleEnv.decrypt row.gotrueAccessToken = .ok "access-1" ∧
    sampleEnv.decrypt row.gotrueRefreshToken = .ok "refresh-1" := by
  have hrow : (sampleDatabase.sessionOf (sampleEnv.hashSessionToken "token-1")).map (fun row =>
      ((row.revokedAt, row.absoluteExpiresAt, row.idleExpiresAt), row.gotrueAccessToken, row.gotrueRefreshToken)) =
      some ((none, 1769817600000000, 1767312000000000), sampleEnv.encrypt (sampleDraw 1) "access-1",
        sampleEnv.encrypt (sampleDraw 2) "refresh-1") := by decide +kernel
  obtain ⟨row, hs, hrow⟩ := Option.map_eq_some_iff.1 hrow
  simp only [Prod.mk.injEq] at hrow
  obtain ⟨⟨hrev, habs, hidle⟩, ha, hr⟩ := hrow
  refine ⟨row, hs, hrev, habs, hidle, ?_, ?_⟩
  · rw [ha, AdapterEnv.decrypt_encrypt sampleEnv_lawful.toLawfulOn]
  · rw [hr, AdapterEnv.decrypt_encrypt sampleEnv_lawful.toLawfulOn]

end CleanBackend
