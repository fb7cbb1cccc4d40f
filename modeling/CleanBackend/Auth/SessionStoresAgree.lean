import CleanBackend.Auth.AsyncpgSessionRepository
import Mathlib.Data.List.Forall2

/-!
# The two session repositories agree

`FakeSessionRepository` and `AsyncpgSessionRepository` answer every sequence of calls alike.  The entries of the
dictionary and the rows of `user_sessions` match one by one, in the order of their insertion (`Matches`, `Agree`), and
every call keeps that and gets the same answer from both, up to the internal ids they draw (`Agree.step`).
-/

namespace CleanBackend

/-! ### Runs -/

/-- A call with the clock value it runs at and what each repository draws for it. -/
structure RepositoryStep where
  now : Int
  call : RepositoryCall
  internalId : Uuid
  draws : Draws
  deriving DecidableEq, Repr

/-- The answers of a repository to a sequence of calls. -/
def answers {σ : Type} (exec : σ → RepositoryStep → σ × RepositoryAnswer) : σ → List RepositoryStep →
    List RepositoryAnswer
  | _, [] => []
  | s, step :: steps => (exec s step).2 :: answers exec (exec s step).1 steps

def FakeSessionRepository.execStep (r : FakeSessionRepository) (step : RepositoryStep) :
    FakeSessionRepository × RepositoryAnswer := r.exec step.now step.internalId step.call

def AdapterEnv.execStep (env : AdapterEnv) (db : Database) (step : RepositoryStep) : Database × RepositoryAnswer :=
  env.exec db step.now step.draws step.call

/-- The tokens a sequence of calls mentions. -/
def tokensOf (steps : List RepositoryStep) : List String :=
  steps.flatMap fun step => step.call.newToken.toList ++ step.call.oldToken.toList

/-- The ids of a call are canonical texts, and those of `create` name an active member of an active tenant. -/
def RepositoryCall.MemberIds (ids : IdentityTables) : RepositoryCall → Prop
  | create p => ∃ u t, p.userId = uuidText u ∧ p.tenantId = uuidText t ∧ ids.activeTenant t ∧ ids.activeMember u t
  | revokeAll userId tenantId => ∃ u t, userId = uuidText u ∧ tenantId = uuidText t
  | _ => True

/-- The texts that `create` passes on. -/
def RepositoryCall.texts : RepositoryCall → List String
  | create p => p.userAgent.toList
  | _ => []

/-- The lengths of the intervals of a call. -/
def RepositoryCall.ttls : RepositoryCall → List Int
  | create p => [p.absoluteTtlSeconds, p.idleTtlSeconds]
  | touch _ idleTtlSeconds => [idleTtlSeconds]
  | rotate p => [p.idleTtlSeconds]
  | _ => []

def RepositoryCall.gotrueExpiresAt : RepositoryCall → Option Int
  | create p => p.gotrueExpiresAt
  | rotate p => p.gotrueExpiresAt
  | _ => none

/-- The expiries that a call computes are Python datetimes. -/
def RepositoryStep.ExpiriesInRange (step : RepositoryStep) : Prop :=
  ∀ seconds ∈ step.call.ttls, InDatetimeRange (step.now + timedelta seconds)

/-- A call that the two repositories take alike, with its datetimes in `P`. -/
structure RepositoryStep.Regular (env : AdapterEnv) (P : Int → Prop) (step : RepositoryStep) : Prop where
  storable : ∀ text ∈ step.call.texts, Storable text
  /-- in the session time zone, each interval is as long as its `timedelta` -/
  exact : ∀ seconds ∈ step.call.ttls, env.intervalLength step.now seconds = timedelta seconds
  expiries : step.ExpiriesInRange
  gotrueExpiresAt : ∀ t ∈ step.call.gotrueExpiresAt, P t

/-- The same answer, where the internal ids are related by `R`. -/
inductive RepositoryAnswer.Same (R : String → String → Prop) : RepositoryAnswer → RepositoryAnswer → Prop where
  | created {a b absolute idle} (h : R a b) : Same R (.created ⟨a, absolute, idle⟩) (.created ⟨b, absolute, idle⟩)
  | session {a b user tenant email access refresh gotrue absolute idle} (h : R a b) :
      Same R (.session ⟨a, user, tenant, email, access, refresh, gotrue, absolute, idle⟩)
        (.session ⟨b, user, tenant, email, access, refresh, gotrue, absolute, idle⟩)
  | touched {idle} : Same R (.touched idle) (.touched idle)
  | revoked : Same R .revoked .revoked
  | revokedCount {count} : Same R (.revokedCount count) (.revokedCount count)
  | raised {e} : Same R (.raised e) (.raised e)

/-- The internal ids the two repositories drew in one call. -/
def DrawnTogether (steps : List RepositoryStep) (a b : String) : Prop :=
  ∃ step ∈ steps, a = uuidText step.internalId ∧ b = uuidText step.draws.rowId

/-! ### Matching sessions -/

/-- A dictionary entry and a row for the same session, with its datetimes in `P`. -/
structure Matches (env : AdapterEnv) (P : Int → Prop) (R : String → String → Prop) (e : String × StoredSession)
    (row : UserSession) : Prop where
  tokenHash : row.tokenHash = env.hashSessionToken e.1
  internalId : R e.2.internalId (uuidText row.id)
  userId : e.2.userId = uuidText row.userId
  tenantId : e.2.tenantId = uuidText row.tenantId
  access : env.decrypt row.gotrueAccessToken = .ok e.2.accessToken
  refresh : env.decrypt row.gotrueRefreshToken = .ok e.2.refreshToken
  gotrueExpiresAt : row.gotrueExpiresAt = e.2.gotrueExpiresAt
  absoluteExpiresAt : row.absoluteExpiresAt = e.2.absoluteExpiresAt
  idleExpiresAt : row.idleExpiresAt = e.2.idleExpiresAt
  revokedAt : row.revokedAt = e.2.revokedAt
  times : TimesIn P row.gotrueExpiresAt row.absoluteExpiresAt row.idleExpiresAt

section Lookup

variable {env : AdapterEnv} {P : Int → Prop} {R : String → String → Prop} {T : List String}
  {entries : PyDict String StoredSession} {rows : List UserSession} {token : String}

/-- The hash tells the tokens of `T` apart. -/
def AdapterEnv.Separates (env : AdapterEnv) (T : List String) : Prop :=
  ∀ s ∈ T, ∀ t ∈ T, env.hashSessionToken s = env.hashSessionToken t → s = t

/-- Both lookups of a token find the same session. -/
private theorem lookup_matches (h : List.Forall₂ (Matches env P R) entries rows) (hT : env.Separates T)
    (hkeys : ∀ e ∈ entries, e.1 ∈ T) (ht : token ∈ T) :
    (PyDict.get entries token = none ∧ findBy UserSession.tokenHash (env.hashSessionToken token) rows = none) ∨
    ∃ stored row, PyDict.get entries token = some stored ∧
      findBy UserSession.tokenHash (env.hashSessionToken token) rows = some row ∧
      Matches env P R (token, stored) row := by
  induction h with
  | nil => exact Or.inl ⟨rfl, rfl⟩
  | @cons e row entries rows hm _ ih =>
    obtain ⟨key, stored⟩ := e
    have hkey : key ∈ T := hkeys _ List.mem_cons_self
    rw [PyDict.get_cons, findBy_cons, hm.tokenHash]
    by_cases hk : key = token
    · subst hk
      rw [if_pos rfl, if_pos rfl]
      exact Or.inr ⟨stored, row, rfl, rfl, hm⟩
    · rw [if_neg hk, if_neg fun he => hk (hT key hkey token ht he)]
      exact ih fun e he => hkeys e (List.mem_cons_of_mem _ he)

/-- An update of the session of one token, on both sides. -/
private theorem set_matches (h : List.Forall₂ (Matches env P R) entries rows) (hT : env.Separates T)
    (hkeys : ∀ e ∈ entries, e.1 ∈ T) (ht : token ∈ T) (hu : UniqueBy UserSession.tokenHash rows)
    {stored' : StoredSession} {row : UserSession}
    (hrow : findBy UserSession.tokenHash (env.hashSessionToken token) rows = some row) (u : SessionUpdate)
    {cond : UserSession → Bool} (hcond : ∀ r ∈ rows, cond r = true ↔ r.tokenHash = env.hashSessionToken token)
    (hm : Matches env P R (token, stored') (u.set row)) :
    List.Forall₂ (Matches env P R) (PyDict.set entries token stored') (rows.map (u.on cond)) := by
  induction h with
  | nil => cases hrow
  | @cons e r entries rows he hrest ih =>
    obtain ⟨key, stored⟩ := e
    have hkey : key ∈ T := hkeys _ List.mem_cons_self
    rw [List.map_cons, PyDict.set]
    rw [findBy_cons] at hrow
    have hr := hcond r List.mem_cons_self
    rw [he.tokenHash] at hrow hr
    have hu' := List.nodup_cons.1 hu
    by_cases hk : key = token
    · subst hk
      rw [if_pos rfl] at hrow
      cases hrow
      rw [if_pos rfl]
      have hon : u.on cond row = u.set row := by rw [SessionUpdate.on, if_pos (hr.2 rfl)]
      -- the other rows have other hashes
      have hid : rows.map (u.on cond) = rows := by
        rw [List.map_congr_left (g := id), List.map_id]
        intro r' hr'
        have hne : r'.tokenHash ≠ row.tokenHash := fun heq => hu'.1 (heq ▸ List.mem_map_of_mem hr')
        rw [SessionUpdate.on, if_neg]
        · rfl
        · intro hc
          exact hne (((hcond r' (List.mem_cons_of_mem _ hr')).1 hc).trans he.tokenHash.symm)
      rw [hon, hid]
      exact .cons hm hrest
    · have hne : ¬ env.hashSessionToken key = env.hashSessionToken token := fun heq => hk (hT key hkey token ht heq)
      rw [if_neg hne] at hrow
      rw [if_neg hk]
      have hon : u.on cond r = r := by rw [SessionUpdate.on, if_neg fun hc => hne (hr.1 hc)]
      rw [hon]
      exact .cons he (ih (fun e he => hkeys e (List.mem_cons_of_mem _ he)) hu'.2 hrow
        fun r' hr' => hcond r' (List.mem_cons_of_mem _ hr'))

end Lookup

/-! ### The simulation -/

/-- The two repositories hold the same sessions, with tokens in `T`. -/
structure Agree (ids : IdentityTables) (env : AdapterEnv) (P : Int → Prop) (R : String → String → Prop)
    (T : List String) (fake : FakeSessionRepository) (db : Database) : Prop where
  sessions : List.Forall₂ (Matches env P R) fake.sessions db.userSessions
  keys : ∀ e ∈ fake.sessions, e.1 ∈ T
  identities : db.toIdentityTables = ids
  emails : ∀ u ∈ ids.users, fake.emails.get (uuidText u.id) = u.email

namespace Agree

variable {ids : IdentityTables} {env : AdapterEnv} {P : Int → Prop} {R : String → String → Prop} {T : List String}
  {fake : FakeSessionRepository} {db : Database} {now : Int} {token : String}

private theorem lookup (h : Agree ids env P R T fake db) (hT : env.Separates T) (ht : token ∈ T) :
    (fake.sessions.get token = none ∧ db.sessionOf (env.hashSessionToken token) = none) ∨
    ∃ stored row, fake.sessions.get token = some stored ∧ db.sessionOf (env.hashSessionToken token) = some row ∧
      Matches env P R (token, stored) row :=
  lookup_matches h.sessions hT h.keys ht

/-- `_active` and the checks of the session functions: the same session, or the same error. -/
private theorem active (h : Agree ids env P R T fake db) (hT : env.Separates T) (ht : token ∈ T) (now : Int) :
    (∃ stored row, fake.active now token = .ok stored ∧ fake.sessions.get token = some stored ∧
      db.sessionOf (env.hashSessionToken token) = some row ∧ row.check now = .ok () ∧
      Matches env P R (token, stored) row) ∨
    ∃ e, fake.active now token = .error (raiseForDbCode (some e.code.text)) ∧
      ((db.sessionOf (env.hashSessionToken token) = none ∧ e = .sessionNotFound) ∨
        ∃ row, db.sessionOf (env.hashSessionToken token) = some row ∧ row.check now = .error e) := by
  unfold FakeSessionRepository.active
  rcases h.lookup hT ht with ⟨hg, hs⟩ | ⟨stored, row, hg, hs, hm⟩
  · rw [hg]
    exact Or.inr ⟨.sessionNotFound, rfl, Or.inl ⟨hs, rfl⟩⟩
  · rw [hg]
    simp only
    rw [← hm.revokedAt, ← hm.absoluteExpiresAt, ← hm.idleExpiresAt]
    by_cases hr : row.revokedAt.isSome
    · rw [if_pos hr]
      exact Or.inr ⟨.sessionRevoked, rfl, Or.inr ⟨row, hs, if_pos hr⟩⟩
    · rw [if_neg hr]
      by_cases he : row.absoluteExpiresAt ≤ now ∨ row.idleExpiresAt ≤ now
      · rw [if_pos he]
        exact Or.inr ⟨.sessionExpired, rfl, Or.inr ⟨row, hs, (if_neg hr).trans (if_pos he)⟩⟩
      · rw [if_neg he]
        exact Or.inl ⟨stored, row, rfl, rfl, hs, (if_neg hr).trans (if_neg he), hm⟩

/-- An update of the session of one token. -/
private theorem update (h : Agree ids env P R T fake db) (hT : env.Separates T) (ht : token ∈ T) {row : UserSession}
    (hs : db.sessionOf (env.hashSessionToken token) = some row) (u : SessionUpdate) {cond : UserSession → Bool}
    (hcond : ∀ r ∈ db.userSessions, cond r = true ↔ r.tokenHash = env.hashSessionToken token)
    {stored : StoredSession} (hm : Matches env P R (token, stored) (u.set row)) :
    Agree ids env P R T { fake with sessions := fake.sessions.set token stored } (db.updateSessions u cond) where
  sessions := set_matches h.sessions hT h.keys ht db.sessions_token_hash_key hs u hcond hm
  keys e he := by
    rcases PyDict.mem_set he with rfl | he
    · exact ht
    · exact h.keys e he
  identities := h.identities
  emails := h.emails

/-- A session under a new token. -/
private theorem insert (h : Agree ids env P R T fake db) (ht : token ∈ T) (hn : fake.sessions.get token = none)
    {stored : StoredSession} {row : UserSession} {db' : Database} (hins : db.insertSession row = .ok db')
    (hm : Matches env P R (token, stored) row) :
    Agree ids env P R T { fake with sessions := fake.sessions.set token stored } db' := by
  obtain ⟨hrows, hids, -, -⟩ := Database.insertSession_ok hins
  constructor
  · rw [hrows, PyDict.set_of_get_none hn]
    exact List.rel_append h.sessions (.cons hm .nil)
  · intro e he
    rcases PyDict.mem_set he with rfl | he
    · exact ht
    · exact h.keys e he
  · exact hids.trans h.identities
  · exact h.emails

/-! ### One call -/

/-- What a query comes to, when the session function replied `reply`. -/
theorem query_eq {α : Type} {db' : Database} {call : SessionCall} {reply : SessionReply}
    {read : PyDict String Json → Except RepositoryError α} {answer : α → RepositoryAnswer}
    (he : call.exec db now = (db', reply)) :
    env.query db now call read answer = (db', .of answer (callEnvelope (env.envelope reply) >>= read)) := by
  unfold AdapterEnv.query
  rw [he]

/-- A call both repositories refuse. -/
private theorem refused (h : Agree ids env P R T fake db) {α β : Type} {call : SessionCall} {e : DbError}
    {read : PyDict String Json → Except RepositoryError α} {answer : α → RepositoryAnswer}
    {answer' : β → RepositoryAnswer} (he : call.exec db now = (db, .failed e)) :
    Agree ids env P R T fake (env.query db now call read answer).1 ∧
      (RepositoryAnswer.of answer' (.error (raiseForDbCode (some e.code.text)))).Same R
        (env.query db now call read answer).2 := by
  rw [query_eq he, AdapterEnv.read_failed]
  exact ⟨h, .raised⟩

private theorem min_inRange {a b : Int} (ha : P a) (hb : P b) : P (min a b) := by
  rw [Int.min_def]
  split
  · exact ha
  · exact hb

/-- The session of an active member goes in under a new token. -/
private theorem exec_create (hlength : ∀ data, (env.sha256 data).length = 32) {p : CreateParams} {u t : Uuid}
    (hu : p.userId = uuidText u) (ht : p.tenantId = uuidText t) (htenant : db.activeTenant t)
    (hmember : db.activeMember u t) (htext : ∀ text ∈ p.userAgent, Storable text)
    (hnone : db.sessionOf (env.hashSessionToken p.sessionToken) = none) {draws : Draws}
    (hrow : draws.rowId ∉ db.userSessions.map UserSession.id) :
    ∃ db', db.insertSession ((env.createArgs now draws p u t).row draws.rowId now) = .ok db' ∧
      env.exec db now draws (.create p) = (db', .of .created (callEnvelope (env.envelope
        (.created ((env.createArgs now draws p u t).row draws.rowId now).created)) >>= env.createdDTO)) := by
  obtain ⟨m, hm, hmu⟩ := List.any_eq_true.1 hmember
  simp only [Bool.and_eq_true, beq_iff_eq] at hmu
  have huser : u ∈ db.users.map User.id := by
    rw [← hmu.1.1]
    exact db.memberships_user_fkey m hm
  have htenant' : t ∈ db.tenants.map Tenant.id := by
    rw [← hmu.1.2]
    exact db.memberships_tenant_fkey m hm
  obtain ⟨db', hins⟩ := Database.insertSession_accepts db ((env.createArgs now draws p u t).row draws.rowId now)
    (Int.min_le_right _ _) (hlength _) hrow (fun hmem => by
      obtain ⟨r, hr, hk⟩ := List.mem_map.1 hmem
      exact findBy_eq_none.1 hnone r hr hk)
    huser htenant' (fun o ho => by cases ho)
  refine ⟨db', hins, ?_⟩
  have hexec : (SessionCall.create draws.rowId (env.createArgs now draws p u t)).exec db now =
        (db', .created ((env.createArgs now draws p u t).row draws.rowId now).created) := by
    have hact : db.activeTenant (env.createArgs now draws p u t).tenantId = true := htenant
    have hmem : db.activeMember (env.createArgs now draws p u t).userId (env.createArgs now draws p u t).tenantId =
      true := hmember
    simp only [SessionCall.exec, Database.createUserSession, hact, hmem, not_true_eq_false, if_false, hins]
    rfl
  simp only [AdapterEnv.exec, AdapterEnv.sessionCall, hu, ht, parseUuid_uuidText, if_pos htext]
  exact query_eq hexec

theorem create (h : Agree ids env P R T fake db) (henv : env.LawfulOn P) (hP : ∀ t, InDatetimeRange t → P t)
    (hT : env.Separates T) {p : CreateParams} (ht : p.sessionToken ∈ T)
    (hmem : (RepositoryCall.create p).MemberIds ids)
    (hn : fake.sessions.get p.sessionToken = none) {internalId : Uuid} {draws : Draws}
    (hreg : (⟨now, .create p, internalId, draws⟩ : RepositoryStep).Regular env P)
    (hrow : draws.rowId ∉ db.userSessions.map UserSession.id) (hR : R (uuidText internalId) (uuidText draws.rowId)) :
    Agree ids env P R T (fake.exec now internalId (.create p)).1 (env.exec db now draws (.create p)).1 ∧
      (fake.exec now internalId (.create p)).2.Same R (env.exec db now draws (.create p)).2 := by
  obtain ⟨u, t, hu, ht', htenant, hmember⟩ := hmem
  have hids := h.identities
  subst hids
  have hnone : db.sessionOf (env.hashSessionToken p.sessionToken) = none := by
    rcases h.lookup hT ht with ⟨-, hs⟩ | ⟨stored, r, hg, -, -⟩
    · exact hs
    · rw [hn] at hg
      cases hg
  obtain ⟨db', hins, hpg⟩ := exec_create henv.sha256_length hu ht' htenant hmember
    (fun text h => hreg.storable text (Option.mem_toList.2 h)) hnone hrow
  let row := (env.createArgs now draws p u t).row draws.rowId now
  have habs := hreg.expiries p.absoluteTtlSeconds (by simp [RepositoryCall.ttls])
  have hidle := hreg.expiries p.idleTtlSeconds (by simp [RepositoryCall.ttls])
  -- the times of the row are those of the dictionary entry
  have hrowAbs : row.absoluteExpiresAt = now + timedelta p.absoluteTtlSeconds :=
    congrArg (now + ·) (hreg.exact _ (by simp [RepositoryCall.ttls]))
  have hrowIdle : row.idleExpiresAt = min (now + timedelta p.idleTtlSeconds)
      (now + timedelta p.absoluteTtlSeconds) := by
    show min (now + env.intervalLength now p.idleTtlSeconds) row.absoluteExpiresAt = _
    rw [hrowAbs, hreg.exact p.idleTtlSeconds (by simp [RepositoryCall.ttls])]
  have htimes : TimesIn P row.gotrueExpiresAt row.absoluteExpiresAt row.idleExpiresAt :=
    ⟨hreg.gotrueExpiresAt, hrowAbs ▸ hP _ habs, hrowIdle ▸ min_inRange (hP _ hidle) (hP _ habs)⟩
  have hanswer : (env.exec db now draws (.create p)) = (db', .created ⟨uuidText draws.rowId,
      now + timedelta p.absoluteTtlSeconds,
      min (now + timedelta p.idleTtlSeconds) (now + timedelta p.absoluteTtlSeconds)⟩) := by
    rw [hpg, AdapterEnv.read_created henv (d := row.created) htimes.absoluteExpiresAt
      htimes.idleExpiresAt, ← hrowIdle, ← hrowAbs]
    rfl
  rw [hanswer]
  simp only [FakeSessionRepository.exec, FakeSessionRepository.create, datetimeAfter_inRange habs,
    datetimeAfter_inRange hidle]
  refine ⟨h.insert ht hn hins ?_, .created hR⟩
  exact ⟨rfl, hR, hu, ht', AdapterEnv.decrypt_encrypt henv _ _, AdapterEnv.decrypt_encrypt henv _ _, rfl, hrowAbs,
    hrowIdle, rfl, htimes⟩

theorem get (h : Agree ids env P R T fake db) (henv : env.LawfulOn P) (hT : env.Separates T) (ht : token ∈ T)
    {internalId : Uuid} {draws : Draws} :
    Agree ids env P R T (fake.exec now internalId (.get token)).1 (env.exec db now draws (.get token)).1 ∧
      (fake.exec now internalId (.get token)).2.Same R (env.exec db now draws (.get token)).2 := by
  simp only [FakeSessionRepository.exec, AdapterEnv.exec, AdapterEnv.sessionCall, FakeSessionRepository.get]
  rcases h.active hT ht now with ⟨stored, row, hact, -, hs, hc, hm⟩ | ⟨e, hact, herr⟩
  · rw [hact]
    obtain ⟨user, hfind, hget⟩ := Database.getUserSession_some now hs
    rw [hc] at hget
    have hexec : (SessionCall.get (env.hashSessionToken token)).exec db now =
        (db, .session (row.active user.email)) := by
      simp only [SessionCall.exec, hget, Database.settle]
      rfl
    rw [query_eq hexec, AdapterEnv.read_session henv (d := row.active user.email) hm.times hm.access hm.refresh]
    refine ⟨h, ?_⟩
    -- the email of the joined row of `app.users`
    have hemail : fake.emails.get (uuidText row.userId) = user.email := by
      obtain ⟨hmem, hid⟩ := findBy_some hfind
      rw [← hid]
      exact h.emails user (h.identities ▸ hmem)
    have h₁ := hm.userId
    have h₂ := hm.tenantId
    have h₃ := hm.gotrueExpiresAt
    have h₄ := hm.absoluteExpiresAt
    have h₅ := hm.idleExpiresAt
    simp only at h₁ h₂ h₃ h₄ h₅
    simp only [Except.map, RepositoryAnswer.of, UserSession.active, h₁, h₂, h₃, h₄, h₅, hemail]
    exact .session hm.internalId
  · rw [hact]
    refine h.refused ?_
    have hget : db.getUserSession now (env.hashSessionToken token) = .error e := by
      rcases herr with ⟨hs, rfl⟩ | ⟨row, hs, hc⟩
      · exact Database.getUserSession_none now hs
      · obtain ⟨user, -, hget⟩ := Database.getUserSession_some now hs
        rw [hget, hc]
        rfl
    simp only [SessionCall.exec, hget, Database.settle]

private theorem touch (h : Agree ids env P R T fake db) (henv : env.LawfulOn P) (hP : ∀ t, InDatetimeRange t → P t)
    (hT : env.Separates T) (ht : token ∈ T) {idleTtlSeconds : Int} {internalId : Uuid} {draws : Draws}
    (hreg : (⟨now, .touch token idleTtlSeconds, internalId, draws⟩ : RepositoryStep).Regular env P) :
    Agree ids env P R T (fake.exec now internalId (.touch token idleTtlSeconds)).1
        (env.exec db now draws (.touch token idleTtlSeconds)).1 ∧
      (fake.exec now internalId (.touch token idleTtlSeconds)).2.Same R
        (env.exec db now draws (.touch token idleTtlSeconds)).2 := by
  have hidle := hreg.expiries idleTtlSeconds (List.mem_singleton_self _)
  have hexact : env.intervalLength now idleTtlSeconds = timedelta idleTtlSeconds :=
    hreg.exact idleTtlSeconds (List.mem_singleton_self _)
  simp only [FakeSessionRepository.exec, AdapterEnv.exec, AdapterEnv.sessionCall, FakeSessionRepository.touch, hexact,
    datetimeAfter_inRange hidle]
  rcases h.active hT ht now with ⟨stored, row, hact, -, hs, hc, hm⟩ | ⟨e, hact, herr⟩
  · rw [hact]
    have hexec : (SessionCall.touch (env.hashSessionToken token) (timedelta idleTtlSeconds)).exec db now =
        (db.updateSessions (.slide now (timedelta idleTtlSeconds)) (·.id == row.id),
          .touched (min (now + timedelta idleTtlSeconds) row.absoluteExpiresAt)) := by
      simp only [SessionCall.exec, Database.touchUserSession, hs, hc, Database.settle]
      rfl
    have hslid : P (min (now + timedelta idleTtlSeconds) row.absoluteExpiresAt) :=
      min_inRange (hP _ hidle) hm.times.absoluteExpiresAt
    rw [query_eq hexec, AdapterEnv.read_touched henv hslid, hm.absoluteExpiresAt]
    refine ⟨h.update hT ht hs _ (fun r hr => Database.id_eq_iff hs hr) ?_, .touched⟩
    refine ⟨hm.tokenHash, hm.internalId, hm.userId, hm.tenantId, hm.access, hm.refresh, hm.gotrueExpiresAt,
      hm.absoluteExpiresAt, ?_, hm.revokedAt, hm.times.gotrueExpiresAt, hm.times.absoluteExpiresAt, hslid⟩
    show min (now + timedelta idleTtlSeconds) row.absoluteExpiresAt = _
    rw [hm.absoluteExpiresAt]
  · rw [hact]
    refine h.refused ?_
    rcases herr with ⟨hs, rfl⟩ | ⟨row, hs, hc⟩
    · simp only [SessionCall.exec, Database.touchUserSession, hs, Database.settle]
    · simp only [SessionCall.exec, Database.touchUserSession, hs, hc, Database.settle]

private theorem rotate (h : Agree ids env P R T fake db) (henv : env.LawfulOn P) (hP : ∀ t, InDatetimeRange t → P t)
    (hT : env.Separates T) {p : RotateParams} (ht : p.oldSessionToken ∈ T) (htn : p.newSessionToken ∈ T)
    (hn : fake.sessions.get p.newSessionToken = none)
    {internalId : Uuid} {draws : Draws} (hreg : (⟨now, .rotate p, internalId, draws⟩ : RepositoryStep).Regular env P)
    (hrow : draws.rowId ∉ db.userSessions.map UserSession.id)
    (hR : R (uuidText internalId) (uuidText draws.rowId)) :
    Agree ids env P R T (fake.exec now internalId (.rotate p)).1 (env.exec db now draws (.rotate p)).1 ∧
      (fake.exec now internalId (.rotate p)).2.Same R (env.exec db now draws (.rotate p)).2 := by
  have hidle := hreg.expiries p.idleTtlSeconds (List.mem_singleton_self _)
  have hexact : env.intervalLength now p.idleTtlSeconds = timedelta p.idleTtlSeconds :=
    hreg.exact p.idleTtlSeconds (List.mem_singleton_self _)
  simp only [FakeSessionRepository.exec, AdapterEnv.exec, AdapterEnv.sessionCall, FakeSessionRepository.rotate,
    datetimeAfter_inRange hidle]
  rcases h.active hT ht now with ⟨stored, old, hact, hget, hs, hc, hm⟩ | ⟨e, hact, herr⟩
  · rw [hact]
    obtain ⟨hmem, hhash⟩ := Database.sessionOf_mem hs
    let row := (env.rotateArgs now draws p).row draws.rowId now old
    have hnone : db.sessionOf (env.hashSessionToken p.newSessionToken) = none := by
      rcases h.lookup hT htn with ⟨-, hs⟩ | ⟨stored, r, hg, -, -⟩
      · exact hs
      · rw [hn] at hg
        cases hg
    obtain ⟨db', hins⟩ := Database.insertSession_accepts db row (Int.min_le_right _ _)
      (henv.sha256_length _) hrow (fun hmem => by
        obtain ⟨r, hr, hk⟩ := List.mem_map.1 hmem
        exact findBy_eq_none.1 hnone r hr hk)
      (db.sessions_user_fkey old hmem) (db.sessions_tenant_fkey old hmem)
      (fun o ho => by cases ho; exact List.mem_map_of_mem hmem)
    have hexec : (SessionCall.rotate draws.rowId (env.rotateArgs now draws p)).exec db now =
        (db'.updateSessions (.revoke now) (·.id == old.id), .created row.created) := by
      have hs : db.sessionOf (env.rotateArgs now draws p).oldTokenHash = some old := hs
      simp only [SessionCall.exec, Database.rotateUserSession, hs, hc]
      rw [show db.insertSession ((env.rotateArgs now draws p).row draws.rowId now old) = .ok db' from hins]
      rfl
    have hrowIdle : row.idleExpiresAt = min (now + timedelta p.idleTtlSeconds) old.absoluteExpiresAt := by
      show min (now + env.intervalLength now p.idleTtlSeconds) old.absoluteExpiresAt = _
      rw [hexact]
    have htimes : TimesIn P row.gotrueExpiresAt row.absoluteExpiresAt row.idleExpiresAt := by
      refine ⟨hreg.gotrueExpiresAt, hm.times.absoluteExpiresAt, hrowIdle ▸ ?_⟩
      exact min_inRange (hP _ hidle) hm.times.absoluteExpiresAt
    rw [query_eq hexec, AdapterEnv.read_created henv htimes.absoluteExpiresAt htimes.idleExpiresAt]
    -- the new session goes in first, then the old one is revoked
    have hnew : Matches env P R (p.newSessionToken,
        { internalId := uuidText internalId
          userId := stored.userId
          tenantId := stored.tenantId
          accessToken := p.accessToken
          refreshToken := p.refreshToken
          gotrueExpiresAt := p.gotrueExpiresAt
          absoluteExpiresAt := stored.absoluteExpiresAt
          idleExpiresAt := min (now + timedelta p.idleTtlSeconds) stored.absoluteExpiresAt
          revokedAt := none }) row := by
      refine ⟨rfl, hR, hm.userId, hm.tenantId, AdapterEnv.decrypt_encrypt henv _ _,
        AdapterEnv.decrypt_encrypt henv _ _, rfl, hm.absoluteExpiresAt, ?_, rfl, htimes⟩
      rw [hrowIdle, hm.absoluteExpiresAt]
    have hold : Matches env P R (p.oldSessionToken, { stored with revokedAt := some now })
        ((SessionUpdate.revoke now).set old) :=
      ⟨hm.tokenHash, hm.internalId, hm.userId, hm.tenantId, hm.access, hm.refresh, hm.gotrueExpiresAt,
        hm.absoluteExpiresAt, hm.idleExpiresAt, rfl, hm.times⟩
    have hs' : db'.sessionOf (env.hashSessionToken p.oldSessionToken) = some old :=
      Database.sessionOf_insert_of_some hins hs
    have hagree := (h.insert htn hn hins hnew).update hT ht hs' (.revoke now)
        (fun r hr => Database.id_eq_iff hs' hr) hold
    simp only at hagree
    rw [PyDict.set_comm hget hn] at hagree
    refine ⟨hagree, ?_⟩
    have hcreated : row.created.idleExpiresAt = min (now + timedelta p.idleTtlSeconds) stored.absoluteExpiresAt := by
      rw [← hm.absoluteExpiresAt]
      exact hrowIdle
    rw [hcreated, show row.created.absoluteExpiresAt = stored.absoluteExpiresAt from hm.absoluteExpiresAt]
    exact .created hR
  · rw [hact]
    refine h.refused ?_
    rcases herr with ⟨hs, rfl⟩ | ⟨row, hs, hc⟩
    · have hs : db.sessionOf (env.rotateArgs now draws p).oldTokenHash = none := hs
      simp only [SessionCall.exec, Database.rotateUserSession, hs, Database.settle]
    · have hs : db.sessionOf (env.rotateArgs now draws p).oldTokenHash = some row := hs
      simp only [SessionCall.exec, Database.rotateUserSession, hs, hc, Database.settle]

private theorem revoke (h : Agree ids env P R T fake db) (hT : env.Separates T) (ht : token ∈ T)
    {internalId : Uuid} {draws : Draws} :
    Agree ids env P R T (fake.exec now internalId (.revoke token)).1 (env.exec db now draws (.revoke token)).1 ∧
      (fake.exec now internalId (.revoke token)).2.Same R (env.exec db now draws (.revoke token)).2 := by
  simp only [FakeSessionRepository.exec, AdapterEnv.exec, AdapterEnv.sessionCall, FakeSessionRepository.revoke]
  have hexec : (SessionCall.revoke (env.hashSessionToken token)).exec db now =
      (db.revokeUserSession now (env.hashSessionToken token), .revoked) := rfl
  rw [query_eq hexec]
  refine ⟨?_, .revoked⟩
  have hfind := h.lookup hT ht
  -- the rows the `UPDATE` changes
  have hcond : ∀ r ∈ db.userSessions, (r.tokenHash == env.hashSessionToken token && r.revokedAt.isNone) = true ↔
      r.tokenHash = env.hashSessionToken token ∧ r.revokedAt.isNone := by
    intro r _
    rw [Bool.and_eq_true, beq_iff_eq]
  have hsame : ∀ {row : UserSession}, db.sessionOf (env.hashSessionToken token) = some row →
      ∀ r ∈ db.userSessions, r.tokenHash = env.hashSessionToken token → r = row := by
    intro row hs r hr hk
    obtain ⟨hm, hh⟩ := Database.sessionOf_mem hs
    exact db.sessions_token_hash_key.eq_of_key hr hm (hk.trans hh.symm)
  have hnothing : (∀ r ∈ db.userSessions, r.tokenHash = env.hashSessionToken token → ¬ r.revokedAt.isNone) →
      Agree ids env P R T fake (db.revokeUserSession now (env.hashSessionToken token)) := by
    intro hno
    have hrows : (db.revokeUserSession now (env.hashSessionToken token)).userSessions = db.userSessions := by
      show db.userSessions.map _ = db.userSessions
      rw [List.map_congr_left (g := id), List.map_id]
      intro r hr
      rw [SessionUpdate.on, if_neg]
      · rfl
      · intro hc
        obtain ⟨hk, hn⟩ := (hcond r hr).1 hc
        exact hno r hr hk hn
    exact ⟨hrows.symm ▸ h.sessions, h.keys, h.identities, h.emails⟩
  rcases hfind with ⟨hg, hs⟩ | ⟨stored, row, hg, hs, hm⟩
  · rw [hg]
    refine hnothing fun r hr hk => ?_
    exact absurd hk (findBy_eq_none.1 hs r hr)
  · rw [hg]
    simp only
    have hrev := hm.revokedAt
    simp only at hrev
    by_cases hn : stored.revokedAt.isNone
    · rw [if_pos hn]
      refine h.update hT ht hs (.revoke now) (fun r hr => ?_) ?_
      · rw [hcond r hr]
        refine ⟨fun hc => hc.1, fun hk => ⟨hk, ?_⟩⟩
        rw [hsame hs r hr hk, hrev]
        exact hn
      · exact ⟨hm.tokenHash, hm.internalId, hm.userId, hm.tenantId, hm.access, hm.refresh, hm.gotrueExpiresAt,
          hm.absoluteExpiresAt, hm.idleExpiresAt, rfl, hm.times⟩
    · rw [if_neg hn]
      refine hnothing fun r hr hk => ?_
      rw [hsame hs r hr hk, hrev]
      exact hn

/-- The conditions of the two `revoke_all`. -/
private theorem revocable_matches {e : String × StoredSession} {row : UserSession} (hm : Matches env P R e row)
    (u t : Uuid) :
    FakeSessionRepository.revocable (uuidText u) (uuidText t) now e.2 = row.revocable u t now := by
  have hid : ∀ a b : Uuid, (uuidText a == uuidText b) = (a == b) := by
    intro a b
    rw [Bool.eq_iff_iff, beq_iff_eq, beq_iff_eq]
    exact ⟨uuidText_inj, fun h => by rw [h]⟩
  unfold FakeSessionRepository.revocable UserSession.revocable
  rw [hm.userId, hm.tenantId, hid, hid, hm.revokedAt, hm.absoluteExpiresAt, hm.idleExpiresAt]

private theorem revokeAll (h : Agree ids env P R T fake db) {u t : Uuid} {internalId : Uuid} {draws : Draws} :
    Agree ids env P R T (fake.exec now internalId (.revokeAll (uuidText u) (uuidText t))).1
        (env.exec db now draws (.revokeAll (uuidText u) (uuidText t))).1 ∧
      (fake.exec now internalId (.revokeAll (uuidText u) (uuidText t))).2.Same R
        (env.exec db now draws (.revokeAll (uuidText u) (uuidText t))).2 := by
  simp only [FakeSessionRepository.exec, AdapterEnv.exec, AdapterEnv.sessionCall, FakeSessionRepository.revokeAll,
    parseUuid_uuidText]
  have hexec : (SessionCall.revokeAll u t).exec db now =
      ((db.revokeAllUserSessions now u t).1, .revokedCount (db.revokeAllUserSessions now u t).2) := rfl
  rw [query_eq hexec, AdapterEnv.read_revokedCount]
  have hrows : ∀ {entries : PyDict String StoredSession} {rows : List UserSession},
      List.Forall₂ (Matches env P R) entries rows →
      List.Forall₂ (Matches env P R)
        (entries.map fun e => if FakeSessionRepository.revocable (uuidText u) (uuidText t) now e.2
          then (e.1, { e.2 with revokedAt := some now }) else e)
        (rows.map ((SessionUpdate.revoke now).on (UserSession.revocable u t now))) ∧
      (entries.countP fun e => FakeSessionRepository.revocable (uuidText u) (uuidText t) now e.2) =
        rows.countP (UserSession.revocable u t now) := by
    intro entries rows hm
    -- the loop and the `UPDATE` pick the same sessions
    induction hm with
    | nil => exact ⟨.nil, rfl⟩
    | cons hm _ ih =>
      rw [List.map_cons, List.map_cons, List.countP_cons, List.countP_cons, revocable_matches hm, ih.2]
      refine ⟨.cons ?_ ih.1, rfl⟩
      rw [SessionUpdate.on]
      split
      · exact ⟨hm.tokenHash, hm.internalId, hm.userId, hm.tenantId, hm.access, hm.refresh, hm.gotrueExpiresAt,
          hm.absoluteExpiresAt, hm.idleExpiresAt, rfl, hm.times⟩
      · exact hm
  obtain ⟨hsessions, hcount⟩ := hrows h.sessions
  refine ⟨⟨hsessions, ?_, h.identities, h.emails⟩, ?_⟩
  · intro e he
    obtain ⟨e₀, he₀, rfl⟩ := List.mem_map.1 he
    have hkey := h.keys e₀ he₀
    split
    · exact hkey
    · exact hkey
  · rw [hcount]
    exact .revokedCount

/-- Every call keeps the repositories in agreement and gets the same answer from both. -/
theorem step (h : Agree ids env P R T fake db) (henv : env.LawfulOn P) (hP : ∀ t, InDatetimeRange t → P t)
    (hT : env.Separates T) {step : RepositoryStep} (hreg : step.Regular env P)
    (ht : ∀ t ∈ step.call.newToken.toList ++ step.call.oldToken.toList, t ∈ T) (hmem : step.call.MemberIds ids)
    (hn : ∀ t, step.call.newToken = some t → fake.sessions.get t = none)
    (hrow : step.draws.rowId ∉ db.userSessions.map UserSession.id)
    (hR : R (uuidText step.internalId) (uuidText step.draws.rowId)) :
    Agree ids env P R T (fake.execStep step).1 (env.execStep db step).1 ∧
      (fake.execStep step).2.Same R (env.execStep db step).2 := by
  obtain ⟨now, call, internalId, draws⟩ := step
  cases call with
  | create p => exact h.create henv hP hT (ht _ (by simp [RepositoryCall.newToken])) hmem (hn _ rfl) hreg hrow hR
  | get token => exact h.get henv hT (ht _ (by simp [RepositoryCall.oldToken, RepositoryCall.newToken]))
  | touch token ttl =>
    exact h.touch henv hP hT (ht _ (by simp [RepositoryCall.oldToken, RepositoryCall.newToken])) hreg
  | rotate p =>
    exact h.rotate henv hP hT (ht _ (by simp [RepositoryCall.oldToken])) (ht _ (by simp [RepositoryCall.newToken]))
      (hn _ rfl) hreg hrow hR
  | revoke token => exact h.revoke hT (ht _ (by simp [RepositoryCall.oldToken, RepositoryCall.newToken]))
  | revokeAll userId tenantId =>
    obtain ⟨u, t, rfl, rfl⟩ := hmem
    exact h.revokeAll

end Agree

/-! ### What a call brings -/

theorem FakeSessionRepository.active_ok {fake : FakeSessionRepository} {now : Int} {token : String}
    {stored : StoredSession} (h : fake.active now token = .ok stored) : fake.sessions.get token = some stored := by
  unfold active at h
  split at h
  · cases h
  · rename_i hg
    split at h
    · cases h
    · split at h <;> cases h
      exact hg

/-- A token stays unknown until a call brings it. -/
private theorem FakeSessionRepository.get_execStep {fake : FakeSessionRepository} {step : RepositoryStep} {t : String}
    (hg : fake.sessions.get t = none) (hn : step.call.newToken ≠ some t) :
    (fake.execStep step).1.sessions.get t = none := by
  obtain ⟨now, call, internalId, draws⟩ := step
  -- a token that is found is another one
  have hne : ∀ {k : String} {stored : StoredSession}, fake.sessions.get k = some stored → k ≠ t := by
    rintro k stored hk rfl
    rw [hg] at hk
    cases hk
  cases call with
  | create p =>
    have hp : p.sessionToken ≠ t := fun he => hn (by rw [← he]; rfl)
    simp only [execStep, exec, create]
    split
    · rw [PyDict.get_set, if_neg hp]
      exact hg
    · exact hg
    · exact hg
  | get token => exact hg
  | touch token ttl =>
    simp only [execStep, exec, touch]
    split
    · exact hg
    · rename_i stored hact
      split
      · exact hg
      · rw [PyDict.get_set, if_neg (hne (active_ok hact))]
        exact hg
  | rotate p =>
    have hp : p.newSessionToken ≠ t := fun he => hn (by rw [← he]; rfl)
    simp only [execStep, exec, rotate]
    split
    · exact hg
    · rename_i stored hact
      split
      · exact hg
      · rw [PyDict.get_set, if_neg hp, PyDict.get_set, if_neg (hne (active_ok hact))]
        exact hg
  | revoke token =>
    simp only [execStep, exec, revoke]
    split
    · exact hg
    · rename_i stored hs
      split
      · rw [PyDict.get_set, if_neg (hne hs)]
        exact hg
      · exact hg
  | revokeAll userId tenantId =>
    simp only [execStep, exec, revokeAll, PyDict.get]
    rw [findBy_map]
    · have hf : findBy Prod.fst t fake.sessions = none := Option.map_eq_none_iff.1 hg
      rw [hf]
      rfl
    · intro e
      split <;> rfl

theorem AdapterEnv.ids_execStep {env : AdapterEnv} {db : Database} {step : RepositoryStep} {i : Uuid}
    (hi : i ∉ db.userSessions.map UserSession.id) (hn : step.draws.rowId ≠ i) :
    i ∉ (env.execStep db step).1.userSessions.map UserSession.id := by
  unfold execStep
  rw [exec_db]
  cases hc : env.sessionCall step.now step.draws step.call with
  | error e => exact hi
  | ok c => exact SessionCall.exec_ids c hi fun hnew => hn (sessionCall_newRowId hc hnew)

/-! ### Whole runs -/

/-- From two repositories in agreement, for tokens and row ids that are not in use. -/
private theorem Agree.answers {ids : IdentityTables} {env : AdapterEnv} {P : Int → Prop} {R : String → String → Prop}
    {T : List String} (henv : env.LawfulOn P) (hP : ∀ t, InDatetimeRange t → P t) (hT : env.Separates T)
    {steps : List RepositoryStep} (hreg : ∀ step ∈ steps, step.Regular env P)
    (ht : ∀ step ∈ steps, ∀ t ∈ step.call.newToken.toList ++ step.call.oldToken.toList, t ∈ T)
    (hmem : ∀ step ∈ steps, step.call.MemberIds ids)
    (hR : ∀ step ∈ steps, R (uuidText step.internalId) (uuidText step.draws.rowId))
    (hfresh : (steps.filterMap fun step => step.call.newToken).Nodup)
    (hrows : (steps.map fun step => step.draws.rowId).Nodup) {fake : FakeSessionRepository} {db : Database}
    (h : Agree ids env P R T fake db)
    (hn : ∀ step ∈ steps, ∀ t, step.call.newToken = some t → fake.sessions.get t = none)
    (hi : ∀ step ∈ steps, step.draws.rowId ∉ db.userSessions.map UserSession.id) :
    List.Forall₂ (RepositoryAnswer.Same R) (CleanBackend.answers FakeSessionRepository.execStep fake steps)
      (CleanBackend.answers env.execStep db steps) := by
  induction steps generalizing fake db with
  | nil => exact .nil
  | cons step steps ih =>
    have hmem₀ := List.mem_cons_self (a := step) (l := steps)
    obtain ⟨hagree, hsame⟩ := h.step henv hP hT (hreg step hmem₀) (ht step hmem₀) (hmem step hmem₀) (hn step hmem₀)
      (hi step hmem₀) (hR step hmem₀)
    have hcons : ∀ s ∈ steps, s ∈ step :: steps := fun s hs => List.mem_cons_of_mem step hs
    rw [List.map_cons, List.nodup_cons] at hrows
    have hfresh' : (steps.filterMap fun step => step.call.newToken).Nodup ∧
        ∀ t, step.call.newToken = some t → ∀ s ∈ steps, s.call.newToken ≠ some t := by
      cases hnew : step.call.newToken with
      | none =>
        simp only [List.filterMap_cons, hnew] at hfresh
        exact ⟨hfresh, fun t ht => by cases ht⟩
      | some t₀ =>
        simp only [List.filterMap_cons, hnew, List.nodup_cons] at hfresh
        refine ⟨hfresh.2, fun t ht s hs he => ?_⟩
        cases ht
        exact hfresh.1 (List.mem_filterMap.2 ⟨s, hs, he⟩)
    refine .cons hsame (ih (fun s hs => hreg s (hcons s hs)) (fun s hs => ht s (hcons s hs))
      (fun s hs => hmem s (hcons s hs)) (fun s hs => hR s (hcons s hs)) hfresh'.1 hrows.2 hagree ?_ ?_)
    · intro s hs t hst
      refine FakeSessionRepository.get_execStep (hn s (hcons s hs) t hst) fun he => ?_
      exact hfresh'.2 t he s hs hst
    · intro s hs
      refine AdapterEnv.ids_execStep (hi s (hcons s hs)) fun he => ?_
      exact hrows.1 (List.mem_map.2 ⟨s, hs, he.symm⟩)

/-- A run over the identities `ids`: the users are active members of active tenants, both repositories know the same
emails, every token is brought once, and the hash tells the tokens apart. -/
structure ContractRun (env : AdapterEnv) (ids : IdentityTables) (emails : PyDict String String)
    (steps : List RepositoryStep) : Prop where
  emails : ∀ u ∈ ids.users, emails.get (uuidText u.id) = u.email
  separates : env.Separates (tokensOf steps)
  members : ∀ step ∈ steps, step.call.MemberIds ids
  newTokens : (steps.filterMap fun step => step.call.newToken).Nodup
  newRows : (steps.map fun step => step.draws.rowId).Nodup

/-- The two repositories give the same answers to every sequence of calls that brings each token once, where
PostgreSQL stores the user agents, the session time zone makes no day longer or shorter, and the expiries are Python
datetimes. -/
theorem session_repositories_agree {env : AdapterEnv} (henv : env.LawfulOn InDatetimeRange) {ids : IdentityTables}
    {emails : PyDict String String} {steps : List RepositoryStep} (h : ContractRun env ids emails steps)
    (hregular : ∀ step ∈ steps, step.Regular env InDatetimeRange) :
    List.Forall₂ (RepositoryAnswer.Same (DrawnTogether steps))
      (answers FakeSessionRepository.execStep ⟨[], emails⟩ steps)
      (answers env.execStep (Database.empty ids) steps) := by
  have hagree : Agree ids env InDatetimeRange (DrawnTogether steps) (tokensOf steps) ⟨[], emails⟩
      (Database.empty ids) := ⟨.nil, fun e he => (nomatch he), rfl, h.emails⟩
  refine hagree.answers henv (fun _ => id) h.separates hregular ?_ h.members ?_ h.newTokens h.newRows ?_ ?_
  · exact fun step hs t ht => List.mem_flatMap.2 ⟨step, hs, ht⟩
  · exact fun step hs => ⟨step, hs, rfl, rfl⟩
  · exact fun step hs t ht => rfl
  · exact fun step hs hm => (nomatch hm)

/-! ### A sample adapter -/

/-- A function known on a table, and `f` elsewhere. -/
def tabled {κ ν : Type} [DecidableEq κ] (table : List (κ × ν)) (f : κ → ν) (k : κ) : ν :=
  (findBy Prod.fst k table).elim (f k) Prod.snd

/-- Its inverse up to `p`, where `g` inverts `f`. -/
def untabled {κ ν π : Type} [DecidableEq ν] (table : List (κ × ν)) (p : κ → π) (g : ν → Option π) (v : ν) :
    Option π :=
  (findBy Prod.snd v table).elim (g v) fun e => some (p e.1)

private theorem untabled_tabled {κ ν π : Type} [DecidableEq κ] [DecidableEq ν] {table : List (κ × ν)} {f : κ → ν}
    {p : κ → π} {g : ν → Option π} (hu : UniqueBy Prod.snd table) (hf : ∀ e ∈ table, ∀ k, e.2 ≠ f k)
    (hg : ∀ k, g (f k) = some (p k)) (k : κ) : untabled table p g (tabled table f k) = some (p k) := by
  unfold tabled
  cases hk : findBy Prod.fst k table with
  | none =>
    have hnone : findBy Prod.snd (f k) table = none := findBy_eq_none.2 fun e he => hf e he k
    rw [Option.elim_none, untabled, hnone, Option.elim_none, hg]
  | some e =>
    obtain ⟨he, rfl⟩ := findBy_some hk
    rw [Option.elim_some, untabled, hu.findBy_of_mem he, Option.elim_some]

/-- The time of the sample calls and an IV. -/
def sampleDraw (n : UInt8) : Bytea := [0, 0, 0, 0, 0x69, 0x55, 0xb9, 0] ++ List.replicate 16 n

def sampleDigests : List (Bytea × Bytea) :=
  [(utf8 "token-1", [63, 8, 170, 206, 18, 46, 226, 54, 132, 50, 193, 202, 35, 160, 73, 188, 100, 11, 175, 191, 0, 253,
      243, 58, 82, 66, 159, 56, 186, 18, 219, 249]),
    (utf8 "token-2", [15, 107, 255, 169, 102, 28, 181, 221, 47, 63, 123, 41, 41, 243, 48, 97, 245, 138, 123, 167, 253,
      214, 137, 83, 11, 26, 48, 111, 142, 216, 243, 236])]

/-- Fernet tokens under the key `cw_0x689RpI-jtRR7oE8h_eQsKImvJapLeSbXpwF4e4=`. -/
def sampleCiphertexts : List ((Bytea × Bytea) × Bytea) :=
  [((sampleDraw 1, utf8 "access-1"), utf8
      "gAAAAABpVbkAAQEBAQEBAQEBAQEBAQEBAex5qGh7tL8wp-Aq3FJUvSXvNyzn4NJqXeZnl4HWI3Tiki5D67Fgn4RAMfT5ygtTJg=="),
    ((sampleDraw 2, utf8 "refresh-1"), utf8
      "gAAAAABpVbkAAgICAgICAgICAgICAgICAjiSwa1MWgeGb5HNzyWthquddcFRc08I-AgtpBa-BGGfv4WEWqwcBtCtvMzqx-46Xw=="),
    ((sampleDraw 3, utf8 "access-2"), utf8
      "gAAAAABpVbkAAwMDAwMDAwMDAwMDAwMDA7iNPszZMt_FBOyKI2K3Dj8zaZfDDQrHYVY93efMdXAk0WWy8pnXuo6QHnVRS-gBdg=="),
    ((sampleDraw 4, utf8 "refresh-2"), utf8
      "gAAAAABpVbkABAQEBAQEBAQEBAQEBAQEBCEcnhblLSPbgMINHuPPwSnL878xVqdF9OYbSKUyUSGSCZq_ganyrzPzCy0XoZ2KeQ==")]

def sampleTexts : List (Int × String) :=
  [(1767225600000000, "2026-01-01T00:00:00+00:00"), (1767312000000000, "2026-01-02T00:00:00+00:00"),
    (1769817600000000, "2026-01-31T00:00:00+00:00")]

/-- A text for the other datetimes. -/
private def unaryText : Int → String
  | .ofNat n => String.ofList ('p' :: List.replicate n '1')
  | .negSucc n => String.ofList ('n' :: List.replicate n '1')

private def parseUnary (s : String) : Option Int :=
  match s.toList with
  | 'p' :: cs => some (.ofNat cs.length)
  | 'n' :: cs => some (.negSucc cs.length)
  | _ => none

private theorem parseUnary_unaryText (t : Int) : parseUnary (unaryText t) = some t := by
  cases t <;> simp [parseUnary, unaryText]

/-- A ciphertext for the other plaintexts. -/
def zeroThen (k : Bytea × Bytea) : Bytea := 0 :: k.2

def afterZero : Bytea → Option Bytea
  | 0 :: data => some data
  | _ => none

/-- The adapter's surroundings, as they are on the sample. -/
def sampleEnv : AdapterEnv where
  sha256 := tabled sampleDigests fun _ => List.replicate 32 0
  fernetEncrypt draw data := tabled sampleCiphertexts zeroThen (draw, data)
  fernetDecrypt := untabled sampleCiphertexts Prod.snd afterZero
  timestamptzText := tabled sampleTexts unaryText
  parseDatetime := untabled sampleTexts id parseUnary
  fromisoformat := untabled sampleTexts id parseUnary
  parseIp := some
  intervalLength _ := timedelta

/-- Texts on a table of datetimes, which all begin with a digit below `3`. -/
private theorem parse_text {table : List (Int × String)} (hu : UniqueBy Prod.snd table)
    (hhead : ∀ e ∈ table, e.2.toList.head? = some '1' ∨ e.2.toList.head? = some '2') (t : Int) :
    untabled table id parseUnary (tabled table unaryText t) = some t := by
  refine untabled_tabled hu (fun e he k heq => ?_) parseUnary_unaryText t
  have h := hhead e he
  rw [heq] at h
  cases k <;> simp [unaryText] at h

/-- Fernet on a table of tokens, which all begin with `g`. -/
theorem decrypt_table {table : List ((Bytea × Bytea) × Bytea)} (hu : UniqueBy Prod.snd table)
    (hhead : ∀ e ∈ table, e.2.head? = some 103) (draw data : Bytea) :
    untabled table Prod.snd afterZero (tabled table zeroThen (draw, data)) = some data := by
  have hne : ∀ e ∈ table, ∀ k, e.2 ≠ zeroThen k := by
    intro e he k heq
    have h := hhead e he
    rw [heq] at h
    cases h
  exact untabled_tabled (p := Prod.snd) (g := afterZero) hu hne (fun _ => rfl) (draw, data)

theorem sampleEnv_lawful : sampleEnv.Lawful where
  sha256_length data := by
    have hall : ∀ e ∈ sampleDigests, e.2.length = 32 := by decide
    show (tabled sampleDigests (fun _ => List.replicate 32 0) data).length = 32
    unfold tabled
    cases hf : findBy Prod.fst data sampleDigests with
    | none => rfl
    | some e => exact hall e (findBy_some hf).1
  decrypt_encrypt := decrypt_table (by decide) (by decide)
  parseDatetime_text t _ := parse_text (by decide) (by decide) t
  fromisoformat_text t _ := parse_text (by decide) (by decide) t
  intervalLength_pos _ seconds h := Int.mul_pos h (by decide)

def sampleEmails : PyDict String String := [("00000000-0000-0000-0000-000000000001", "alice@example.com")]

/-- A login, a refresh and a call with the token the refresh replaced. -/
def sampleSteps : List RepositoryStep :=
  [⟨1767225600000000, .create ⟨"token-1", "00000000-0000-0000-0000-000000000001",
      "00000000-0000-0000-0000-000000000001", "access-1", "refresh-1", none, 2592000, 86400, none, none⟩, 101,
      ⟨201, sampleDraw 1, sampleDraw 2⟩⟩,
    ⟨1767225600000000, .get "token-1", 102, ⟨202, [], []⟩⟩,
    ⟨1767225600000000, .rotate ⟨"token-1", "token-2", "access-2", "refresh-2", none, 86400⟩, 103,
      ⟨203, sampleDraw 3, sampleDraw 4⟩⟩,
    ⟨1767225600000000, .touch "token-1" 86400, 104, ⟨204, [], []⟩⟩]

private theorem sampleId : "00000000-0000-0000-0000-000000000001" = uuidText 1 := by decide

private theorem sampleEmails_same : ∀ u ∈ oneMember.users, PyDict.get sampleEmails (uuidText u.id) = u.email := by
  decide

theorem session_repositories_agree_refresh :
    List.Forall₂ (RepositoryAnswer.Same (DrawnTogether sampleSteps))
      (answers FakeSessionRepository.execStep ⟨[], sampleEmails⟩ sampleSteps)
      (answers sampleEnv.execStep (Database.empty oneMember) sampleSteps) ∧
    (answers FakeSessionRepository.execStep ⟨[], sampleEmails⟩ sampleSteps).getLast? =
      some (.raised (.invalidSession "SESSION_REVOKED")) := by
  have hhash : sampleEnv.Separates (tokensOf sampleSteps) := by
    unfold AdapterEnv.Separates
    decide
  have hmem : ∀ step ∈ sampleSteps, step.call.MemberIds oneMember := by
    simp only [sampleSteps, List.forall_mem_cons, RepositoryCall.MemberIds, sampleId]
    exact ⟨⟨1, 1, rfl, rfl, by decide, by decide⟩, trivial, trivial, trivial, fun _ h => (nomatch h)⟩
  have htexts : ∀ step ∈ sampleSteps, ∀ text ∈ step.call.texts, Storable text := by decide
  have hexpiries : ∀ step ∈ sampleSteps, step.ExpiriesInRange := by
    unfold RepositoryStep.ExpiriesInRange
    decide
  have hgotrue : ∀ step ∈ sampleSteps, ∀ t ∈ step.call.gotrueExpiresAt, InDatetimeRange t := by decide
  exact ⟨session_repositories_agree (sampleEnv_lawful.mono fun _ _ => trivial)
    ⟨sampleEmails_same, hhash, hmem, by decide, by decide⟩
    fun step hs => ⟨htexts step hs, fun _ _ => rfl, hexpiries step hs, hgotrue step hs⟩, by decide⟩

/-! ### Where the repositories differ -/

/-- A login at `now`. -/
def loginStep (now absoluteTtlSeconds : Int) (userAgent : Option String) : RepositoryStep :=
  ⟨now, .create ⟨"token-1", "00000000-0000-0000-0000-000000000001",
    "00000000-0000-0000-0000-000000000001", "access-1",
    "refresh-1", none, absoluteTtlSeconds, 86400, userAgent, none⟩, 101, ⟨201, sampleDraw 1, sampleDraw 2⟩⟩

def newYorkTexts : List (Int × String) :=
  [(1772967600000000, "2026-03-08T07:00:00-04:00"), (1773054000000000, "2026-03-09T07:00:00-04:00")]

/-- The session time zone is `America/New_York`: 2026-03-08, a day of 23 hours, is in each interval of the login. -/
def newYorkEnv : AdapterEnv where
  sha256 := sampleEnv.sha256
  fernetEncrypt := sampleEnv.fernetEncrypt
  fernetDecrypt := sampleEnv.fernetDecrypt
  timestamptzText := tabled newYorkTexts unaryText
  parseDatetime := untabled newYorkTexts id parseUnary
  fromisoformat := untabled newYorkTexts id parseUnary
  parseIp := some
  intervalLength _ seconds := timedelta (seconds - 3600)

def farTexts : List (Int × String) := (317127225600000000, "12019-05-13T00:00:00+00:00") :: sampleTexts

/-- `datetime` has no years from 10000 on. -/
def boundedEnv : AdapterEnv where
  sha256 := sampleEnv.sha256
  fernetEncrypt := sampleEnv.fernetEncrypt
  fernetDecrypt := sampleEnv.fernetDecrypt
  timestamptzText := tabled farTexts unaryText
  parseDatetime text := (untabled farTexts id parseUnary text).filter fun t => InDatetimeRange t
  fromisoformat text := (untabled farTexts id parseUnary text).filter fun t => InDatetimeRange t
  parseIp := some
  intervalLength _ := timedelta

private theorem newYorkEnv_lawful : newYorkEnv.LawfulOn fun _ => True where
  sha256_length := sampleEnv_lawful.sha256_length
  decrypt_encrypt := sampleEnv_lawful.decrypt_encrypt
  parseDatetime_text t _ := parse_text (by decide) (by decide) t
  fromisoformat_text t _ := parse_text (by decide) (by decide) t

private theorem boundedEnv_parse (t : Int) :
    boundedEnv.parseDatetime (boundedEnv.timestamptzText t) = (some t).filter fun t => InDatetimeRange t :=
  congrArg (Option.filter _) (parse_text (by decide) (by decide) t)

private theorem boundedEnv_lawful : boundedEnv.LawfulOn InDatetimeRange where
  sha256_length := sampleEnv_lawful.sha256_length
  decrypt_encrypt := sampleEnv_lawful.decrypt_encrypt
  parseDatetime_text t ht := (boundedEnv_parse t).trans (if_pos (decide_eq_true ht))
  fromisoformat_text t ht := (boundedEnv_parse t).trans (if_pos (decide_eq_true ht))

/-- A run that meets what the contract assumes, and gets different answers. -/
def Differ (env : AdapterEnv) (steps : List RepositoryStep) : Prop :=
  env.LawfulOn InDatetimeRange ∧ ContractRun env oneMember sampleEmails steps ∧
    ¬ List.Forall₂ (RepositoryAnswer.Same (DrawnTogether steps))
      (answers FakeSessionRepository.execStep ⟨[], sampleEmails⟩ steps)
      (answers env.execStep (Database.empty oneMember) steps)

private theorem login_contract (env : AdapterEnv) (now ttl : Int) (userAgent : Option String) :
    ContractRun env oneMember sampleEmails [loginStep now ttl userAgent] where
  emails := sampleEmails_same
  separates := by
    intro s hs t ht _
    exact (List.mem_singleton.1 hs).trans (List.mem_singleton.1 ht).symm
  members step hs := by
    cases List.mem_singleton.1 hs
    exact ⟨1, 1, sampleId, sampleId, by decide, by decide⟩
  newTokens := List.nodup_singleton _
  newRows := List.nodup_singleton _

/-- What the adapter makes of the login with a text that PostgreSQL stores. -/
private theorem login_exec {env : AdapterEnv} {P : Int → Prop} (henv : env.LawfulOn P) (now ttl : Int) (text : String)
    (htext : Storable text) :
    (env.execStep (Database.empty oneMember) (loginStep now ttl (some text))).2 = .of .created (callEnvelope
      (env.envelope (.created ⟨201, now + env.intervalLength now ttl,
        min (now + env.intervalLength now 86400) (now + env.intervalLength now ttl)⟩)) >>= env.createdDTO) := by
  have hmember : (Database.empty oneMember).activeMember 1 1 = true := by decide
  obtain ⟨db', -, h⟩ := Agree.exec_create henv.sha256_length sampleId sampleId (by decide) hmember
    (p := ⟨"token-1", _, _, "access-1", "refresh-1", none, ttl, 86400, some text, none⟩)
    (fun u hu => by cases hu; exact htext) rfl (fun hm => nomatch hm)
  exact congrArg Prod.snd h

/-- A user agent with a NUL, a day of 23 hours, and an expiry after the year 9999. -/
theorem session_repositories_differ :
    Differ sampleEnv [loginStep 1767225600000000 2592000 (some "curl\x00")] ∧
    Differ newYorkEnv [loginStep 1772884800000000 172800 (some "curl")] ∧
    Differ boundedEnv [loginStep 1767225600000000 315360000000 (some "curl")] := by
  refine ⟨⟨sampleEnv_lawful.mono fun _ _ => trivial, login_contract _ _ _ _, fun h => ?_⟩,
    ⟨newYorkEnv_lawful.mono fun _ _ => trivial, login_contract _ _ _ _, fun h => ?_⟩,
    ⟨boundedEnv_lawful, login_contract _ _ _ _, fun h => ?_⟩⟩
  · have hnul : ¬ ∀ text ∈ some "curl\x00", Storable text := by decide
    have hpg : (sampleEnv.execStep (Database.empty oneMember)
        (loginStep 1767225600000000 2592000 (some "curl\x00"))).2 = .raised untranslatable := by
      simp only [AdapterEnv.execStep, AdapterEnv.exec, AdapterEnv.sessionCall, loginStep, sampleId,
        parseUuid_uuidText, if_neg hnul]
    cases h with
    | cons hsame _ =>
      rw [hpg] at hsame
      cases hsame
  · have hpg := login_exec newYorkEnv_lawful 1772884800000000 172800 "curl" (by decide)
    rw [AdapterEnv.read_created newYorkEnv_lawful trivial trivial] at hpg
    cases h with
    | cons hsame _ =>
      rw [hpg] at hsame
      cases hsame
  · have hpg := login_exec boundedEnv_lawful 1767225600000000 315360000000 "curl" (by decide)
    cases h with
    | cons hsame _ =>
      rw [hpg] at hsame
      cases hsame

end CleanBackend
