import CleanBackend.Database.SessionFunctions
import CleanBackend.Lib.Thinned

/-!
# The retention purge

`delete_expired_sessions` deletes rows that have been dead for longer than the grace window; `rotated_from` is
`ON DELETE SET NULL`.  The table of a run with purges is that of the run without them, less some dead rows and up to
the generated ids (`PurgedOf`).  Every call keeps this and is answered alike, so that the purges are invisible
(`purge_invisible`).
-/

namespace CleanBackend

/-! ### The function -/

/-- The `WHERE` of `delete_expired_sessions`. -/
def UserSession.purgeable (now olderThan : Int) (s : UserSession) : Bool :=
  decide (s.absoluteExpiresAt < now - olderThan) || s.revokedAt.any fun t => decide (t < now - olderThan)

/-- `ON DELETE SET NULL`: the reference to a row that is gone. -/
def UserSession.detach (kept : List Uuid) (s : UserSession) : UserSession :=
  { s with rotatedFrom := s.rotatedFrom.filter fun o => decide (o ∈ kept) }

def Database.deleteExpiredSessions (db : Database) (now olderThan : Int) : Database × Nat :=
  let kept := db.userSessions.filter fun s => !s.purgeable now olderThan
  let ids := kept.map UserSession.id
  have hmem : ∀ s ∈ kept, s ∈ db.userSessions := fun _ hs => (List.mem_filter.1 hs).1
  have hids : (kept.map (UserSession.detach ids)).map UserSession.id = ids := by
    rw [List.map_map]
    rfl
  ({ db with
    userSessions := kept.map (UserSession.detach ids)
    sessions_pkey :=
      UniqueBy.map (f := UserSession.detach ids) (fun _ => rfl) (db.sessions_pkey.sublist (List.filter_sublist.map _))
    sessions_token_hash_key :=
      UniqueBy.map (f := UserSession.detach ids) (fun _ => rfl)
        (db.sessions_token_hash_key.sublist (List.filter_sublist.map _))
    sessions_token_hash_is_sha256 := by
      simp only [List.forall_mem_map]
      exact fun s hs => db.sessions_token_hash_is_sha256 s (hmem s hs)
    sessions_idle_within_absolute := by
      simp only [List.forall_mem_map]
      exact fun s hs => db.sessions_idle_within_absolute s (hmem s hs)
    sessions_user_fkey := by
      simp only [List.forall_mem_map]
      exact fun s hs => db.sessions_user_fkey s (hmem s hs)
    sessions_tenant_fkey := by
      simp only [List.forall_mem_map]
      exact fun s hs => db.sessions_tenant_fkey s (hmem s hs)
    sessions_rotated_from_fkey := by
      rw [hids]
      simp only [List.forall_mem_map]
      intro s _ o ho
      exact of_decide_eq_true (Option.filter_eq_some_iff.1 ho).2 },
    db.userSessions.countP (UserSession.purgeable now olderThan))

/-! ### Rows up to generated ids -/

/-- The same row with another id, in another chain of ids. -/
def UserSession.SameUpToIds (s s' : UserSession) : Prop :=
  { s with id := s'.id, rotatedFrom := s'.rotatedFrom } = s'

/-- No call will succeed on the row at `now` or later. -/
def UserSession.Dead (now : Int) (s : UserSession) : Prop := s.revokedAt.isSome ∨ s.absoluteExpiresAt ≤ now

/-- `db'` is `db` less some dead rows, up to generated ids. -/
structure PurgedOf (now : Int) (db db' : Database) : Prop where
  identity : db'.toIdentityTables = db.toIdentityTables
  rows : Thinned UserSession.SameUpToIds (UserSession.Dead now) db.userSessions db'.userSessions

section Rows

variable {s s' : UserSession} {now now' : Int} {db db' : Database}

namespace UserSession.SameUpToIds

private theorem refl (s : UserSession) : s.SameUpToIds s := rfl

/-- Every other column is the same. -/
private theorem column {γ : Type} (h : s.SameUpToIds s') (f : UserSession → γ)
    (hf : ∀ i r, f { s with id := i, rotatedFrom := r } = f s) : f s = f s' :=
  (hf _ _).symm.trans (congrArg f (show { s with id := s'.id, rotatedFrom := s'.rotatedFrom } = s' from h))

private theorem tokenHash (h : s.SameUpToIds s') : s.tokenHash = s'.tokenHash := h.column _ fun _ _ => rfl

private theorem userId (h : s.SameUpToIds s') : s.userId = s'.userId := h.column _ fun _ _ => rfl

private theorem tenantId (h : s.SameUpToIds s') : s.tenantId = s'.tenantId := h.column _ fun _ _ => rfl

private theorem revokedAt (h : s.SameUpToIds s') : s.revokedAt = s'.revokedAt := h.column _ fun _ _ => rfl

private theorem absoluteExpiresAt (h : s.SameUpToIds s') : s.absoluteExpiresAt = s'.absoluteExpiresAt :=
  h.column _ fun _ _ => rfl

private theorem idleExpiresAt (h : s.SameUpToIds s') : s.idleExpiresAt = s'.idleExpiresAt := h.column _ fun _ _ => rfl

private theorem check (h : s.SameUpToIds s') (now : Int) : s.check now = s'.check now := by
  unfold UserSession.check
  rw [h.revokedAt, h.absoluteExpiresAt, h.idleExpiresAt]

private theorem detach (h : s.SameUpToIds s') (kept : List Uuid) : s.SameUpToIds (s'.detach kept) := by
  unfold SameUpToIds at h ⊢
  rw [← h]
  rfl

private theorem row (h : s.SameUpToIds s') (a : RotateArgs) (id id' : Uuid) (now : Int) :
    (a.row id now s).SameUpToIds (a.row id' now s') := by
  unfold SameUpToIds at h ⊢
  rw [← h]
  rfl

end UserSession.SameUpToIds

private theorem UserSession.Dead.later (h : s.Dead now) (hle : now ≤ now') : s.Dead now' :=
  h.imp_right fun habs => Int.le_trans habs hle

private theorem UserSession.Dead.not_live (h : s.Dead now) : ¬ s.Live now := by
  rintro ⟨hrev, habs, -⟩
  rcases h with h | h
  · rw [hrev] at h
    cases h
  · omega

private theorem UserSession.Dead.check (h : s.Dead now) : ∃ e, s.check now = .error e := by
  rcases s.check_cases now with ⟨hl, -⟩ | ⟨-, hc⟩ | ⟨-, -, hc⟩
  · exact absurd hl h.not_live
  · exact ⟨_, hc⟩
  · exact ⟨_, hc⟩

/-- What the purge deletes is dead. -/
private theorem UserSession.dead_of_purgeable {olderThan : Int} (hw : 0 ≤ olderThan)
    (h : s.purgeable now olderThan = true) :
    s.Dead now := by
  unfold purgeable at h
  rcases Bool.or_eq_true_iff.1 h with h | h
  · have hlt := of_decide_eq_true h
    exact Or.inr (by omega)
  · cases hr : s.revokedAt with
    | none => simp [hr] at h
    | some t => exact Or.inl (by simp [hr])

namespace PurgedOf

private theorem refl (now : Int) (db : Database) : PurgedOf now db db :=
  ⟨rfl, Thinned.refl UserSession.SameUpToIds.refl _ _⟩

private theorem later (h : PurgedOf now db db') (hle : now ≤ now') : PurgedOf now' db db' :=
  ⟨h.identity, h.rows.mono fun _ hd => hd.later hle⟩

/-- One more purge. -/
private theorem purge (h : PurgedOf now db db') {olderThan : Int} (hw : 0 ≤ olderThan) :
    PurgedOf now db (db'.deleteExpiredSessions now olderThan).1 := by
  refine ⟨h.identity, ?_⟩
  have hkept : Thinned UserSession.SameUpToIds (UserSession.Dead now) db.userSessions
      (db'.userSessions.filter fun s => !s.purgeable now olderThan) := by
    refine h.rows.filter_right ?_
    intro s s' hs hp
    have hdead : s'.Dead now := UserSession.dead_of_purgeable hw (by simpa using hp)
    unfold UserSession.Dead at hdead ⊢
    rwa [hs.revokedAt, hs.absoluteExpiresAt]
  have hdetach := hkept.map (f := id) (fun _ _ _ _ hs => hs.detach
    ((db'.userSessions.filter fun s => !s.purgeable now olderThan).map UserSession.id)) (fun _ _ hd => hd)
  rwa [List.map_id] at hdetach

/-- The row of a token, with and without the purges. -/
private theorem sessionOf (h : PurgedOf now db db') (k : Bytea) :
    (∃ s s', db.sessionOf k = some s ∧ db'.sessionOf k = some s' ∧ s.SameUpToIds s') ∨
      (db'.sessionOf k = none ∧ ∀ s ∈ db.sessionOf k, s.Dead now) := by
  have hkey : ∀ s s' : UserSession, s.SameUpToIds s' → s.tokenHash = s'.tokenHash := fun _ _ hs => hs.tokenHash
  cases hs : db.sessionOf k with
  | none => exact Or.inr ⟨h.rows.findBy_none hkey hs, by simp⟩
  | some s =>
    rcases h.rows.findBy hkey db.sessions_token_hash_key hs with ⟨s', hs', hsame⟩ | ⟨hdead, hnone⟩
    · exact Or.inl ⟨s, s', rfl, hs', hsame⟩
    · refine Or.inr ⟨hnone, ?_⟩
      intro r hr
      cases hr
      exact hdead

/-- An update that goes by the data of the row. -/
private theorem update (h : PurgedOf now db db') (u : SessionUpdate) {cond cond' : UserSession → Bool}
    (hu : ∀ s s' : UserSession, s.SameUpToIds s' → (u.set s).SameUpToIds (u.set s'))
    (hcond : ∀ s ∈ db.userSessions, ∀ s' ∈ db'.userSessions, s.SameUpToIds s' → cond s = cond' s')
    (hdead : ∀ s ∈ db.userSessions, s.Dead now → cond s = true → (u.set s).Dead now) :
    PurgedOf now (db.updateSessions u cond) (db'.updateSessions u cond') := by
  refine ⟨h.identity, h.rows.map ?_ ?_⟩
  · intro s hs s' hs' hsame
    unfold SessionUpdate.on
    rw [hcond s hs s' hs' hsame]
    by_cases hc : cond' s' = true
    · rw [if_pos hc, if_pos hc]
      exact hu s s' hsame
    · rw [if_neg hc, if_neg hc]
      exact hsame
  · intro s hs hd
    unfold SessionUpdate.on
    by_cases hc : cond s = true
    · rw [if_pos hc]
      exact hdead s hs hd hc
    · rwa [if_neg hc]

/-- The row with a hash has the id that tells it apart, in both tables. -/
private theorem id_cond {s s' : UserSession} {k : Bytea} (hs : db.sessionOf k = some s)
    (hs' : db'.sessionOf k = some s') :
    ∀ r ∈ db.userSessions, ∀ r' ∈ db'.userSessions, r.SameUpToIds r' → (r.id == s.id) = (r'.id == s'.id) := by
  intro r hr r' hr' hsame
  rw [Bool.eq_iff_iff, Database.id_eq_iff hs hr, Database.id_eq_iff hs' hr', hsame.tokenHash]

end PurgedOf

private theorem SessionUpdate.revoke_same (now : Int) (h : s.SameUpToIds s') :
    ((SessionUpdate.revoke now).set s).SameUpToIds ((SessionUpdate.revoke now).set s') := by
  unfold UserSession.SameUpToIds at h ⊢
  rw [← h]
  rfl

private theorem SessionUpdate.slide_same (now idleTtl : Int) (h : s.SameUpToIds s') :
    ((SessionUpdate.slide now idleTtl).set s).SameUpToIds ((SessionUpdate.slide now idleTtl).set s') := by
  unfold UserSession.SameUpToIds at h ⊢
  rw [← h]
  rfl

end Rows

/-! ### Replies up to generated ids -/

def SessionReply.isFailure : SessionReply → Bool
  | failed _ | aborted _ => true
  | _ => false

def SessionReply.withoutIds : SessionReply → SessionReply
  | created data => created { data with sessionInternalId := 0 }
  | session data => session { data with sessionInternalId := 0 }
  | reply => reply

/-- A failure stays a failure, a success keeps its data up to generated ids. -/
def SessionReply.SameAnswer (r r' : SessionReply) : Prop :=
  if r.isFailure then r'.isFailure = true else r'.withoutIds = r.withoutIds

instance (r r' : SessionReply) : Decidable (r.SameAnswer r') := by
  unfold SessionReply.SameAnswer
  infer_instance

private theorem SessionReply.SameAnswer.of_failures {r r' : SessionReply} (h : r.isFailure = true)
    (h' : r'.isFailure = true) :
    r.SameAnswer r' := by
  unfold SameAnswer
  rw [if_pos h]
  exact h'

private theorem SessionReply.SameAnswer.of_eq {r r' : SessionReply} (h : r.isFailure = false)
    (h' : r'.withoutIds = r.withoutIds) : r.SameAnswer r' := by
  unfold SameAnswer
  rw [if_neg (by simp [h])]
  exact h'

/-- The call with another generated id. -/
def SessionCall.withRowId (id : Uuid) : SessionCall → SessionCall
  | create _ args => create id args
  | rotate _ args => rotate id args
  | call => call

/-! ### One call -/

section Calls

variable {db db' : Database} {now : Int} {s s' : UserSession}

/-- What an accepted row meets, apart from the keys. -/
private theorem Database.insertSession_checks {db₁ : Database} (h : db.insertSession s = .ok db₁) :
    s.idleExpiresAt ≤ s.absoluteExpiresAt ∧ s.tokenHash.length = 32 ∧ s.userId ∈ db.users.map User.id ∧
      s.tenantId ∈ db.tenants.map Tenant.id := by
  obtain ⟨hrows, hids, -, -⟩ := insertSession_ok h
  have hmem : s ∈ db₁.userSessions := by
    rw [hrows]
    exact List.mem_append_right _ (List.mem_singleton.2 rfl)
  refine ⟨db₁.sessions_idle_within_absolute s hmem, db₁.sessions_token_hash_is_sha256 s hmem, ?_, ?_⟩
  · rw [← hids]
    exact db₁.sessions_user_fkey s hmem
  · rw [← hids]
    exact db₁.sessions_tenant_fkey s hmem

namespace PurgedOf

/-- Rows that are the same up to ids are inserted in both tables, or in neither. -/
private theorem insert (h : PurgedOf now db db') (hsame : s.SameUpToIds s')
    (hhash : s.tokenHash ∉ db.userSessions.map UserSession.tokenHash)
    (hid : s.id ∉ db.userSessions.map UserSession.id)
    (hid' : s'.id ∉ db'.userSessions.map UserSession.id)
    (hfrom : ∀ o, s.rotatedFrom = some o → o ∈ db.userSessions.map UserSession.id)
    (hfrom' : ∀ o, s'.rotatedFrom = some o → o ∈ db'.userSessions.map UserSession.id) :
    (∃ db₁ db₁', db.insertSession s = .ok db₁ ∧ db'.insertSession s' = .ok db₁' ∧ PurgedOf now db₁ db₁') ∨
      ((∃ e, db.insertSession s = .error e) ∧ ∃ e, db'.insertSession s' = .error e) := by
  have husers : db'.users = db.users := congrArg IdentityTables.users h.identity
  have htenants : db'.tenants = db.tenants := congrArg IdentityTables.tenants h.identity
  have hhash' : s'.tokenHash ∉ db'.userSessions.map UserSession.tokenHash := by
    intro hmem
    obtain ⟨r', hr', he⟩ := List.mem_map.1 hmem
    obtain ⟨r, hr, hrr⟩ := h.rows.exists_of_mem hr'
    exact hhash (List.mem_map.2 ⟨r, hr, hrr.tokenHash.trans (he.trans hsame.tokenHash.symm)⟩)
  -- each constraint holds of the one row if it holds of the other
  cases hi : db.insertSession s with
  | ok db₁ =>
    obtain ⟨hidle, hlen, huser, htenant⟩ := Database.insertSession_checks hi
    rw [hsame.idleExpiresAt, hsame.absoluteExpiresAt] at hidle
    rw [hsame.tokenHash] at hlen
    rw [hsame.userId, ← husers] at huser
    rw [hsame.tenantId, ← htenants] at htenant
    obtain ⟨db₁', hi'⟩ := Database.insertSession_accepts db' s' hidle hlen hid' hhash' huser htenant hfrom'
    refine Or.inl ⟨db₁, db₁', rfl, hi', ?_, ?_⟩
    · rw [(Database.insertSession_ok hi').2.1, (Database.insertSession_ok hi).2.1, h.identity]
    · rw [(Database.insertSession_ok hi').1, (Database.insertSession_ok hi).1]
      exact h.rows.append (.singleton hsame)
  | error e =>
    cases hi' : db'.insertSession s' with
    | ok db₁' =>
      obtain ⟨hidle, hlen, huser, htenant⟩ := Database.insertSession_checks hi'
      rw [← hsame.idleExpiresAt, ← hsame.absoluteExpiresAt] at hidle
      rw [← hsame.tokenHash] at hlen
      rw [← hsame.userId, husers] at huser
      rw [← hsame.tenantId, htenants] at htenant
      obtain ⟨db₁, hok⟩ := Database.insertSession_accepts db s hidle hlen hid hhash huser htenant hfrom
      rw [hi] at hok
      cases hok
    | error e' => exact Or.inr ⟨⟨e, rfl⟩, e', rfl⟩

private theorem create (h : PurgedOf now db db') {id id' : Uuid} {a : CreateArgs}
    (hhash : a.tokenHash ∉ db.userSessions.map UserSession.tokenHash) (hid : id ∉ db.userSessions.map UserSession.id)
    (hid' : id' ∉ db'.userSessions.map UserSession.id) :
    SessionReply.SameAnswer ((SessionCall.create id a).exec db now).2 ((SessionCall.create id' a).exec db' now).2 ∧
      PurgedOf now ((SessionCall.create id a).exec db now).1 ((SessionCall.create id' a).exec db' now).1 := by
  have htenant : db'.activeTenant a.tenantId = db.activeTenant a.tenantId :=
    congrArg (IdentityTables.activeTenant · a.tenantId) h.identity
  have hmember : db'.activeMember a.userId a.tenantId = db.activeMember a.userId a.tenantId :=
    congrArg (IdentityTables.activeMember · a.userId a.tenantId) h.identity
  simp only [SessionCall.exec]
  unfold Database.createUserSession
  rw [htenant, hmember]
  split
  · exact ⟨.of_failures rfl rfl, h⟩
  · split
    · exact ⟨.of_failures rfl rfl, h⟩
    · have hsame : (a.row id now).SameUpToIds (a.row id' now) := rfl
      rcases h.insert hsame hhash hid hid' (fun _ ho => by cases ho) (fun _ ho => by cases ho) with
        ⟨db₁, db₁', hi, hi', hp⟩ | ⟨⟨e, hi⟩, e', hi'⟩
      · rw [hi, hi']
        exact ⟨.of_eq rfl rfl, hp⟩
      · rw [hi, hi']
        exact ⟨.of_failures rfl rfl, h⟩

private theorem get (h : PurgedOf now db db') (k : Bytea) :
    SessionReply.SameAnswer ((SessionCall.get k).exec db now).2 ((SessionCall.get k).exec db' now).2 ∧
      PurgedOf now ((SessionCall.get k).exec db now).1 ((SessionCall.get k).exec db' now).1 := by
  have husers : db'.users = db.users := congrArg IdentityTables.users h.identity
  simp only [SessionCall.exec]
  rcases h.sessionOf k with ⟨s, s', hs, hs', hsame⟩ | ⟨hnone', hdead⟩
  · obtain ⟨u, hu, hget⟩ := Database.getUserSession_some now hs
    obtain ⟨u', hu', hget'⟩ := Database.getUserSession_some now hs'
    rw [husers, ← hsame.userId, hu] at hu'
    cases hu'
    rw [hget, hget', ← hsame.check]
    cases s.check now with
    | error e => exact ⟨.of_failures rfl rfl, h⟩
    | ok _ =>
      refine ⟨.of_eq rfl ?_, h⟩
      show SessionReply.session _ = SessionReply.session _
      rw [← show { s with id := s'.id, rotatedFrom := s'.rotatedFrom } = s' from hsame]
      rfl
  · rw [Database.getUserSession_none now hnone']
    cases hs : db.sessionOf k with
    | none =>
      rw [Database.getUserSession_none now hs]
      exact ⟨.of_failures rfl rfl, h⟩
    | some s =>
      obtain ⟨u, -, hget⟩ := Database.getUserSession_some now hs
      obtain ⟨e, hc⟩ := (hdead s hs).check
      rw [hget, hc]
      exact ⟨.of_failures rfl rfl, h⟩

private theorem touch (h : PurgedOf now db db') (k : Bytea) (idleTtl : Int) :
    SessionReply.SameAnswer ((SessionCall.touch k idleTtl).exec db now).2
        ((SessionCall.touch k idleTtl).exec db' now).2 ∧
      PurgedOf now ((SessionCall.touch k idleTtl).exec db now).1 ((SessionCall.touch k idleTtl).exec db' now).1 := by
  simp only [SessionCall.exec]
  unfold Database.touchUserSession
  rcases h.sessionOf k with ⟨s, s', hs, hs', hsame⟩ | ⟨hnone', hdead⟩
  · simp only [hs, hs', ← hsame.check]
    cases hc : s.check now with
    | error e => exact ⟨.of_failures rfl rfl, h⟩
    | ok _ =>
      have hlive : s.Live now := UserSession.check_ok.1 hc
      have hidle : ((SessionUpdate.slide now idleTtl).set s').idleExpiresAt =
          ((SessionUpdate.slide now idleTtl).set s).idleExpiresAt :=
        (SessionUpdate.slide_same now idleTtl hsame).idleExpiresAt.symm
      refine ⟨.of_eq rfl (congrArg SessionReply.touched hidle), ?_⟩
      refine h.update _ (fun _ _ => SessionUpdate.slide_same now idleTtl) (id_cond hs hs') ?_
      -- the row that slides is not dead
      intro r hr hd hid
      have hrs : r = s := db.sessions_pkey.eq_of_key hr (Database.sessionOf_mem hs).1 (by simpa using hid)
      rw [hrs] at hd
      exact absurd hlive hd.not_live
  · rw [hnone']
    cases hs : db.sessionOf k with
    | none => exact ⟨.of_failures rfl rfl, h⟩
    | some s =>
      obtain ⟨e, hc⟩ := (hdead s hs).check
      simp only [hc]
      exact ⟨.of_failures rfl rfl, h⟩

private theorem rotate (h : PurgedOf now db db') {id id' : Uuid} {a : RotateArgs}
    (hhash : a.newTokenHash ∉ db.userSessions.map UserSession.tokenHash)
    (hid : id ∉ db.userSessions.map UserSession.id) (hid' : id' ∉ db'.userSessions.map UserSession.id) :
    SessionReply.SameAnswer ((SessionCall.rotate id a).exec db now).2 ((SessionCall.rotate id' a).exec db' now).2 ∧
      PurgedOf now ((SessionCall.rotate id a).exec db now).1 ((SessionCall.rotate id' a).exec db' now).1 := by
  simp only [SessionCall.exec]
  unfold Database.rotateUserSession
  -- the session is in both tables, or it is purged, and dead where it is not
  rcases h.sessionOf a.oldTokenHash with ⟨s, s', hs, hs', hsame⟩ | ⟨hnone', hdead⟩
  · simp only [hs, hs', ← hsame.check]
    cases s.check now with
    | error e => exact ⟨.of_failures rfl rfl, h⟩
    | ok _ =>
      have hfrom : ∀ o, (a.row id now s).rotatedFrom = some o → o ∈ db.userSessions.map UserSession.id := by
        intro o ho
        cases ho
        exact List.mem_map_of_mem (Database.sessionOf_mem hs).1
      have hfrom' : ∀ o, (a.row id' now s').rotatedFrom = some o → o ∈ db'.userSessions.map UserSession.id := by
        intro o ho
        cases ho
        exact List.mem_map_of_mem (Database.sessionOf_mem hs').1
      rcases h.insert (hsame.row a id id' now) hhash hid hid' hfrom hfrom' with
        ⟨db₁, db₁', hi, hi', hp⟩ | ⟨⟨e, hi⟩, e', hi'⟩
      · simp only [hi, hi']
        have hs₁ : db₁.sessionOf a.oldTokenHash = some s := Database.sessionOf_insert_of_some hi hs
        have hs₁' : db₁'.sessionOf a.oldTokenHash = some s' := Database.sessionOf_insert_of_some hi' hs'
        refine ⟨.of_eq rfl ?_, ?_⟩
        · have habs := hsame.absoluteExpiresAt
          simp [SessionReply.withoutIds, Database.settle, UserSession.created, RotateArgs.row, habs]
        · refine hp.update _ (fun _ _ => SessionUpdate.revoke_same now) (id_cond hs₁ hs₁') ?_
          intro r _ _ _
          exact Or.inl rfl
      · simp only [hi, hi']
        exact ⟨.of_failures rfl rfl, h⟩
  · rw [hnone']
    cases hs : db.sessionOf a.oldTokenHash with
    | none => exact ⟨.of_failures rfl rfl, h⟩
    | some s =>
      obtain ⟨e, hc⟩ := (hdead s hs).check
      simp only [hc]
      exact ⟨.of_failures rfl rfl, h⟩

private theorem revoke (h : PurgedOf now db db') (k : Bytea) :
    PurgedOf now (db.revokeUserSession now k) (db'.revokeUserSession now k) := by
  refine h.update _ (fun _ _ => SessionUpdate.revoke_same now) ?_ ?_
  · intro s _ s' _ hsame
    rw [hsame.tokenHash, hsame.revokedAt]
  · intro s _ _ _
    exact Or.inl rfl

/-- Dead rows are not revocable, and the others are counted alike. -/
private theorem revocable_eq (hsame : s.SameUpToIds s') (userId tenantId : Uuid) (now : Int) :
    s.revocable userId tenantId now = s'.revocable userId tenantId now := by
  unfold UserSession.revocable
  rw [hsame.userId, hsame.tenantId, hsame.revokedAt, hsame.absoluteExpiresAt, hsame.idleExpiresAt]

private theorem revocable_of_dead (hd : s.Dead now) (userId tenantId : Uuid) :
    s.revocable userId tenantId now = false := by
  by_contra hr
  have hr : s.revocable userId tenantId now = true := by simpa using hr
  unfold UserSession.revocable at hr
  simp only [Bool.and_eq_true, decide_eq_true_eq, Option.isNone_iff_eq_none] at hr
  exact hd.not_live ⟨hr.1.1.2, hr.1.2, hr.2⟩

private theorem revokeAll (h : PurgedOf now db db') (userId tenantId : Uuid) :
    (db'.revokeAllUserSessions now userId tenantId).2 = (db.revokeAllUserSessions now userId tenantId).2 ∧
      PurgedOf now (db.revokeAllUserSessions now userId tenantId).1
        (db'.revokeAllUserSessions now userId tenantId).1 := by
  refine ⟨?_, ?_⟩
  · exact (h.rows.countP_eq (fun _ _ hsame => revocable_eq hsame userId tenantId now)
      (fun _ hd => revocable_of_dead hd userId tenantId)).symm
  · refine h.update _ (fun _ _ => SessionUpdate.revoke_same now) ?_ ?_
    · exact fun s _ s' _ hsame => revocable_eq hsame userId tenantId now
    · intro s _ _ _
      exact Or.inl rfl

/-- One call on both tables. -/
private theorem exec (h : PurgedOf now db db') (call : SessionCall) (id' : Uuid)
    (hhash : ∀ k ∈ call.newTokenHash, k ∉ db.userSessions.map UserSession.tokenHash)
    (hid : ∀ i ∈ call.newRowId, i ∉ db.userSessions.map UserSession.id ∧ id' ∉ db'.userSessions.map UserSession.id) :
    SessionReply.SameAnswer (call.exec db now).2 ((call.withRowId id').exec db' now).2 ∧
      PurgedOf now (call.exec db now).1 ((call.withRowId id').exec db' now).1 := by
  cases call with
  | create id a => exact h.create (hhash _ rfl) (hid _ rfl).1 (hid _ rfl).2
  | get k => exact h.get k
  | touch k idleTtl => exact h.touch k idleTtl
  | rotate id a => exact h.rotate (hhash _ rfl) (hid _ rfl).1 (hid _ rfl).2
  | revoke k => exact ⟨.of_eq rfl rfl, h.revoke k⟩
  | revokeAll userId tenantId =>
    obtain ⟨hcount, hp⟩ := h.revokeAll userId tenantId
    exact ⟨.of_eq rfl (congrArg SessionReply.revokedCount hcount), hp⟩

end PurgedOf

end Calls

/-! ### Runs -/

/-- A call, with the id it generates in the run with purges, or a purge. -/
inductive RetentionStep where
  | call (now : Int) (call : SessionCall) (purgedId : Uuid)
  | purge (now : Int) (olderThan : Int)
deriving DecidableEq, Repr

def RetentionStep.time : RetentionStep → Int
  | call now _ _ | purge now _ => now

/-- The replies of the calls when no purge takes place. -/
def repliesWithout : Database → List RetentionStep → List SessionReply
  | _, [] => []
  | db, .call now call _ :: steps => (call.exec db now).2 :: repliesWithout (call.exec db now).1 steps
  | db, .purge _ _ :: steps => repliesWithout db steps

/-- The replies of the calls among the purges. -/
def repliesWith : Database → List RetentionStep → List SessionReply
  | _, [] => []
  | db, .call now call id :: steps =>
    ((call.withRowId id).exec db now).2 :: repliesWith ((call.withRowId id).exec db now).1 steps
  | db, .purge now olderThan :: steps => repliesWith (db.deleteExpiredSessions now olderThan).1 steps

/-- New tokens are fresh, and generated ids do not repeat in either run. -/
def FreshCalls : Database → Database → List RetentionStep → Prop
  | _, _, [] => True
  | db, db', .call now call id :: steps =>
    call.newTokenHash.all (· ∉ db.userSessions.map UserSession.tokenHash) ∧
    call.newRowId.all (fun i => i ∉ db.userSessions.map UserSession.id ∧ id ∉ db'.userSessions.map UserSession.id) ∧
    FreshCalls (call.exec db now).1 ((call.withRowId id).exec db' now).1 steps
  | db, db', .purge now olderThan :: steps => FreshCalls db (db'.deleteExpiredSessions now olderThan).1 steps

instance FreshCalls.decidable : ∀ db db' steps, Decidable (FreshCalls db db' steps)
  | _, _, [] => isTrue trivial
  | db, db', .call now call id :: steps =>
    haveI := FreshCalls.decidable (call.exec db now).1 ((call.withRowId id).exec db' now).1 steps
    inferInstanceAs (Decidable (_ ∧ _ ∧ _))
  | _, _, .purge _ _ :: steps => FreshCalls.decidable _ _ steps

private theorem PurgedOf.replies {steps : List RetentionStep} {now : Int} {db db' : Database}
    (h : PurgedOf now db db')
    (hnow : ∀ step ∈ steps, now ≤ step.time) (hclock : steps.Pairwise (·.time ≤ ·.time))
    (hgrace : ∀ t w, RetentionStep.purge t w ∈ steps → 0 ≤ w) (hfresh : FreshCalls db db' steps) :
    List.Forall₂ SessionReply.SameAnswer (repliesWithout db steps) (repliesWith db' steps) := by
  induction steps generalizing now db db' with
  | nil => exact .nil
  | cons step steps ih =>
    rw [List.pairwise_cons] at hclock
    have h := h.later (hnow step List.mem_cons_self)
    have hrest : ∀ t w, RetentionStep.purge t w ∈ steps → 0 ≤ w :=
      fun t w hm => hgrace t w (List.mem_cons_of_mem _ hm)
    cases step with
    | call t call id =>
      obtain ⟨hhash, hid, hfresh⟩ := hfresh
      rw [Option.all_eq_true] at hhash hid
      obtain ⟨hreply, hp⟩ := h.exec call id (fun k hk => of_decide_eq_true (hhash k hk))
        (fun i hi => of_decide_eq_true (hid i hi))
      exact .cons hreply (ih hp hclock.1 hclock.2 hrest hfresh)
    | purge t w => exact ih (h.purge (hgrace t w List.mem_cons_self)) hclock.1 hclock.2 hrest hfresh

/-- A live row survives a purge; all that may change is its reference to a deleted ancestor. -/
private theorem purge_keeps_live (db : Database) {now olderThan : Int} (hw : 0 ≤ olderThan) {s : UserSession}
    (hs : s ∈ db.userSessions) (hl : s.Live now) :
    ∃ s' ∈ (db.deleteExpiredSessions now olderThan).1.userSessions,
      { s with rotatedFrom := s'.rotatedFrom } = s' ∧ (s'.rotatedFrom = s.rotatedFrom ∨ s'.rotatedFrom = none) := by
  have hkept : s ∈ db.userSessions.filter fun s => !s.purgeable now olderThan := by
    refine List.mem_filter.2 ⟨hs, ?_⟩
    rw [Bool.not_eq_true', ← Bool.not_eq_true]
    exact fun hp => (UserSession.dead_of_purgeable hw hp).not_live hl
  refine ⟨_, List.mem_map_of_mem hkept, rfl, ?_⟩
  unfold UserSession.detach
  cases s.rotatedFrom with
  | none => exact Or.inl rfl
  | some o =>
    dsimp only
    cases hf : (some o).filter fun o => decide
        (o ∈ (db.userSessions.filter fun s => !s.purgeable now olderThan).map UserSession.id) with
    | none => exact Or.inr rfl
    | some o' => exact Or.inl (Option.filter_eq_some_iff.1 hf).1.symm

/-- Purges with a grace window of at least zero are invisible to the calls around them: what succeeds without them
succeeds with the same data up to generated ids, what fails fails, and no live row is deleted. -/
theorem purge_invisible (db : Database) (steps : List RetentionStep) (hclock : steps.Pairwise (·.time ≤ ·.time))
    (hgrace : ∀ t w, RetentionStep.purge t w ∈ steps → 0 ≤ w) (hfresh : FreshCalls db db steps) :
    List.Forall₂ SessionReply.SameAnswer (repliesWithout db steps) (repliesWith db steps) ∧
    ∀ (db' : Database) (now olderThan : Int), 0 ≤ olderThan → ∀ s ∈ db'.userSessions, s.Live now →
      ∃ s' ∈ (db'.deleteExpiredSessions now olderThan).1.userSessions,
        { s with rotatedFrom := s'.rotatedFrom } = s' ∧ (s'.rotatedFrom = s.rotatedFrom ∨ s'.rotatedFrom = none) := by
  refine ⟨?_, fun db' now olderThan hw s hs hl => purge_keeps_live db' hw hs hl⟩
  cases steps with
  | nil => exact .nil
  | cons step steps =>
    refine (PurgedOf.refl step.time db).replies ?_ hclock hgrace hfresh
    intro step' hs
    rcases List.mem_cons.1 hs with rfl | hs
    · exact Int.le_refl _
    · exact (List.pairwise_cons.1 hclock).1 step' hs

/-- A session that is rotated, its old row purged, and the new one still resolved. -/
def sampleRetention : List RetentionStep :=
  [.call 0 (.create 1 ⟨.replicate 32 1, 1, 1, [10], [11], none, 1000, 100, none, none⟩) 1,
    .call 10 (.rotate 2 ⟨.replicate 32 1, .replicate 32 2, [20], [21], none, 100⟩) 3,
    .purge 20 5, .call 21 (.get (.replicate 32 1)) 0, .call 22 (.get (.replicate 32 2)) 0,
    .call 23 (.revokeAll 1 1) 0]

theorem purge_invisible_sample :
    (repliesWith (.empty oneMember) sampleRetention).map SessionReply.isFailure = [false, false, true, false, false] ∧
      List.Forall₂ SessionReply.SameAnswer (repliesWithout (.empty oneMember) sampleRetention)
        (repliesWith (.empty oneMember) sampleRetention) := by
  refine ⟨by decide, (purge_invisible (.empty oneMember) sampleRetention (by decide) ?_ (by decide)).1⟩
  intro t w hm
  simp only [sampleRetention, List.mem_cons, RetentionStep.purge.injEq, List.not_mem_nil, or_false, reduceCtorEq,
    false_or] at hm
  omega

end CleanBackend
